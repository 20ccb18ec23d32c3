import ClusterFabric.Model.Session
import ClusterFabric.Verify.Writes

/-! # Identity of a session

A session replaces the incarnation in the authority of what it submits, and nothing else
of a request. What is recorded under its identity is therefore up to what the peer
sends: references and links name an incarnation of their own, a record that a request
rewrites keeps the one it has, and a second HELLO changes the identity
(`session_writes_first_identity`).
-/

namespace ClusterFabric

open Lib

variable {incoming : Incoming} {session : Session} {queue : CommitQueue}
  {served : Option Timestamp} {event : SessionEvent} {readAt : Timestamp}

/-! ## What a message comes to -/

section Handle

variable [StdSort] {σ : Type} {c : Coordinator σ} {digest : ClusterState → Text} {turn : Turn σ}

/-- The request that a message submits. -/
inductive Submits (session : Session) : Incoming → MutationRequest → Prop
  | registration {message : RegisterPublisherMessage} {readAt : Timestamp}
      {request : MutationRequest} (h : session.registration message readAt = some request) :
    Submits session (.registerPublisher (some message)) request
  | publication (request : MutationRequest) :
    Submits session (.publishRequest (some request)) (session.publication request)
  | revalidation (message : RevalidateRequestMessage) (readAt : Timestamp) :
    Submits session (.revalidateRequest (some message)) (session.revalidation message readAt)

/-- What handling a message can come to: nothing for the coordinator, a new
identity for the session, or a request served under the identity it has. -/
inductive Handled (ops : PersistenceStore σ) (c : Coordinator σ) (session : Session)
    (incoming : Incoming) (turn : Turn σ) : Prop
  | idle (hcoordinator : turn.coordinator = c) (hboot : turn.session.boot = session.boot)
      (hdone : turn.session.handshakeDone = session.handshakeDone)
  | greeted {message : Option HelloMessage} {boot : RackAgentBootId}
      (hincoming : incoming = .hello message)
      (haccepted : Session.helloBoot c.config message = some boot)
      (hcoordinator : turn.coordinator = c) (hboot : turn.session.boot = some boot)
  | submitted {request : MutationRequest} {now : Timestamp}
      (hsubmits : Submits session incoming request) (hdone : session.handshakeDone = true)
      (hcoordinator : turn.coordinator = (Coordinator.applyAndCommit ops c request now).1)
      (hboot : turn.session.boot = session.boot)
      (hdone' : turn.session.handshakeDone = session.handshakeDone)

theorem CommitQueue.deliver_cases (ops : PersistenceStore σ) (queue : CommitQueue)
    (c : Coordinator σ) (request : MutationRequest) (served : Option Timestamp) :
    (queue.deliver ops c request served).1 = c ∨
      ∃ now, (queue.deliver ops c request served).1 =
        (Coordinator.applyAndCommit ops c request now).1 := by
  unfold deliver
  cases queue.submit request with
  | error result => exact .inl rfl
  | ok queue' =>
    cases served with
    | none => exact .inl rfl
    | some now => exact .inr ⟨now, rfl⟩

namespace Session

theorem handled_greet (ops : PersistenceStore σ) (c : Coordinator σ) (session : Session)
    (message : Option HelloMessage) :
    Handled ops c session (.hello message) (session.greet c message) := by
  unfold greet
  cases hrefusal : helloRefusal c.config message with
  | some refusal => exact .idle rfl rfl rfl
  | none =>
    cases message with
    | none => exact nomatch hrefusal
    | some hello =>
      have haccepted : helloBoot c.config (some hello) = some hello.boot := by
        unfold helloBoot
        rw [hrefusal]
        rfl
      exact .greeted rfl haccepted rfl haccepted

variable (ops : PersistenceStore σ)

/-- A request that a message submits is served, or leaves everything as it is. -/
theorem handled_submit {request : MutationRequest} (hsubmits : Submits session incoming request)
    (hdone : session.handshakeDone = true)
    (hcoordinator : turn.coordinator = (queue.deliver ops c request served).1)
    (hboot : turn.session.boot = session.boot)
    (hdone' : turn.session.handshakeDone = session.handshakeDone) :
    Handled ops c session incoming turn := by
  rcases queue.deliver_cases ops c request served with hkept | ⟨now, hserved⟩
  · exact .idle (hcoordinator.trans hkept) hboot hdone'
  · exact .submitted hsubmits hdone (hcoordinator.trans hserved) hboot hdone'

theorem handled_serve (hdone : incoming.isHello = true ∨ session.handshakeDone = true)
    (h : session.serve ops digest c queue readAt served incoming = some turn) :
    Handled ops c session incoming turn := by
  cases incoming with
  | hello message =>
    obtain rfl := Option.some.inj h
    exact handled_greet ops c session message
  | registerPublisher message =>
    cases message with
    | none =>
      obtain rfl := Option.some.inj h
      exact .idle rfl rfl rfl
    | some message =>
      obtain ⟨request, hrequest, hturn⟩ := Option.bind_eq_some_iff.mp h
      obtain rfl := Option.some.inj hturn
      refine handled_submit ops (.registration hrequest) (hdone.resolve_left Bool.false_ne_true)
        rfl ?_ ?_
      · dsimp only
        split_ifs <;> rfl
      · dsimp only
        split_ifs <;> rfl
  | publishRequest request =>
    cases request with
    | none =>
      obtain rfl := Option.some.inj h
      exact .idle rfl rfl rfl
    | some request =>
      obtain rfl := Option.some.inj h
      exact handled_submit ops (.publication request) (hdone.resolve_left Bool.false_ne_true)
        rfl rfl rfl
  | revalidateRequest message =>
    cases message with
    | none =>
      obtain rfl := Option.some.inj h
      exact .idle rfl rfl rfl
    | some message =>
      obtain rfl := Option.some.inj h
      exact handled_submit ops (.revalidation message readAt)
        (hdone.resolve_left Bool.false_ne_true)
        rfl rfl rfl
  | heartbeat message | snapshotRequest cluster | unaccepted =>
    obtain rfl := Option.some.inj h
    exact .idle rfl rfl rfl
  | validateSnapshotRequest view =>
    cases view <;> obtain rfl := Option.some.inj h <;> exact .idle rfl rfl rfl
  | shutdown reason =>
    cases reason <;> obtain rfl := Option.some.inj h <;> exact .idle rfl rfl rfl

/-- What a message comes to when it raises no exception. -/
theorem handled_handle (h : session.handle ops digest c queue readAt served incoming = some turn) :
    Handled ops c session incoming turn := by
  unfold handle at h
  split_ifs at h with hended hearly
  · obtain rfl := Option.some.inj h
    exact .idle rfl rfl rfl
  · obtain rfl := Option.some.inj h
    exact .idle rfl rfl rfl
  · refine handled_serve ops ?_ h
    simpa [or_iff_not_imp_left] using hearly

end Session

end Handle

/-! ## Runs -/

/-- Which records a session changed last. -/
structure Attribution where
  racks : RackId → Bool := fun _ => false
  links : InterRackLinkId → Bool := fun _ => false
  domains : (k : DomainKind) → DomainId k → Bool := fun _ _ => false
  constraints : ConstraintId → Bool := fun _ => false

/-- The attribution after a change that is the session's or another's. -/
def Attribution.after (mine : Attribution) (own : Bool) (s s' : ClusterState) : Attribution where
  racks := StdMap.lastWritten own s.racks s'.racks mine.racks
  links := StdMap.lastWritten own s.links s'.links mine.links
  domains k := StdMap.lastWritten own (s.domains k) (s'.domains k) (mine.domains k)
  constraints := StdMap.lastWritten own s.constraints s'.constraints mine.constraints

/-- A session and its coordinator, with the identity of the first accepted HELLO
and the records that the session changed last. -/
structure SessionRun (σ : Type) where
  coordinator : Coordinator σ
  session : Session := {}
  /-- No exception ended the process. -/
  alive : Bool := true
  first : Option RackAgentBootId := none
  mine : Attribution := {}

/-- What can happen while a session is open. -/
inductive SessionEvent
  | message (incoming : Incoming) (queue : CommitQueue) (readAt : Timestamp)
      (served : Option Timestamp)
  /-- The connection is closed. -/
  | closed
  /-- The commit thread serves the mutation of another. -/
  | mutation (request : MutationRequest) (now : Timestamp)
  /-- The commit thread serves a fence. -/
  | fence (boot : RackAgentBootId) (reason : Text) (fencedAt now : Timestamp)

namespace SessionRun

variable [StdSort] {σ : Type} (ops : PersistenceStore σ) (digest : ClusterState → Text)

/-- A fence changes what records say and not whose they are. -/
def step (r : SessionRun σ) (event : SessionEvent) : SessionRun σ :=
  if !r.alive then r
  else
    match event with
    | .message incoming queue readAt served =>
      match r.session.handle ops digest r.coordinator queue readAt served incoming with
      | none => { r with alive := false }
      | some turn =>
        { r with
          coordinator := turn.coordinator
          session := turn.session
          first := r.first.or turn.session.boot
          mine := r.mine.after true r.coordinator.canonical turn.coordinator.canonical }
    | .closed => { r with session := { r.session with ended := true } }
    | .mutation request now =>
      let c := (r.coordinator.applyAndCommit ops request now).1
      { r with
        coordinator := c
        mine := r.mine.after false r.coordinator.canonical c.canonical }
    | .fence boot reason fencedAt now =>
      { r with coordinator := r.coordinator.applyFence ops boot reason fencedAt now }

def run (r : SessionRun σ) (events : List SessionEvent) : SessionRun σ :=
  runFrom (step ops digest) r events

/-- What an event comes to. -/
inductive Stepped (r : SessionRun σ) (event : SessionEvent) (r' : SessionRun σ) : Prop
  /-- The process ended, now or before. -/
  | stopped (hstep : r' = { r with alive := false })
  | handled {incoming : Incoming} {queue : CommitQueue} {readAt : Timestamp}
      {served : Option Timestamp} {turn : Turn σ}
      (hevent : event = .message incoming queue readAt served)
      (hhandled : Handled ops r.coordinator r.session incoming turn)
      (hstep : r' =
        { r with
          coordinator := turn.coordinator
          session := turn.session
          first := r.first.or turn.session.boot
          mine := r.mine.after true r.coordinator.canonical turn.coordinator.canonical })
  | closed (hevent : event = .closed)
      (hstep : r' = { r with session := { r.session with ended := true } })
  | served {request : MutationRequest} {now : Timestamp} (hevent : event = .mutation request now)
      (hstep : r' =
        { r with
          coordinator := (r.coordinator.applyAndCommit ops request now).1
          mine := r.mine.after false r.coordinator.canonical
            (r.coordinator.applyAndCommit ops request now).1.canonical })
  | fenced {boot : RackAgentBootId} {reason : Text} {fencedAt now : Timestamp}
      (hevent : event = .fence boot reason fencedAt now)
      (hstep : r' =
        { r with coordinator := r.coordinator.applyFence ops boot reason fencedAt now })

theorem stepped (r : SessionRun σ) (event : SessionEvent) :
    Stepped ops r event (step ops digest r event) := by
  unfold step
  by_cases halive : r.alive = true
  · rw [if_neg (by simp [halive])]
    cases event with
    | message incoming queue readAt served =>
      dsimp only
      cases hhandle : r.session.handle ops digest r.coordinator queue readAt served incoming with
      | none => exact .stopped rfl
      | some turn => exact .handled rfl (Session.handled_handle ops hhandle) rfl
    | closed => exact .closed rfl rfl
    | mutation request now => exact .served rfl rfl
    | fence boot reason fencedAt now => exact .fenced rfl rfl
  · rw [if_pos (by simpa using halive)]
    exact .stopped (by rw [← Bool.eq_false_iff.mpr halive])

end SessionRun

/-! ## Own identities -/

/-- The kinds that rewrite one rack and leave the incarnation it is recorded
under. -/
def MutationKind.keepsBoot : MutationKind → Bool
  | .markRackUnavailable | .withdrawRack | .retireRack | .publishHealthCurrentness
  | .withdrawEvidence => true
  | _ => false

/-- The links of its rack are rewritten by the request. -/
def MutationRequest.rewritesLinks (request : MutationRequest) : Prop :=
  (request.kind = .publishHealthCurrentness ∧ request.reachability ≠ .unknown) ∨
    (request.kind = .withdrawEvidence ∧
      (request.selector = text "reachability" ∨ request.selector = text "rack_evidence"))

/-- Every incarnation that the request names, and every one that is recorded in
what it rewrites and leaves there, is `boot`. -/
structure ClaimsOwn (s : ClusterState) (boot : RackAgentBootId) (request : MutationRequest) :
    Prop where
  reference : request.kind = .addRack → request.rackReference.boot = boot
  link : request.kind = .publishInterRackLink →
    ∀ link, request.link = some link → link.boot = some boot
  rack : request.kind.keepsBoot = true →
    ∀ record, s.racks.find? request.targetRack = some record → record.reference.boot = boot
  touched : request.rewritesLinks → ∀ id link, s.links.find? id = some link →
    link.touches request.targetRack = true → link.boot = some boot
  superseded : request.kind = .supersedeTopology →
    ∀ id link, s.links.find? id = some link → link.boot = some boot
  retired : request.kind = .retireCluster → ∀ rack record, s.racks.find? rack = some record →
    record.authoritativeCurrent = true → record.reference.boot = boot

section Own

variable [StdSort] {s : ClusterState} {request : MutationRequest} {boot : RackAgentBootId}

theorem boot_of_rackWritten (hauthority : request.authority.boot = some boot)
    (hown : ClaimsOwn s boot request) {now : Timestamp} {rack : RackId} {record : RackRecord}
    (hwritten : RackWritten now s request rack (s.racks.find? rack) (some record)) :
    record.reference.boot = boot := by
  generalize hold : s.racks.find? rack = old at hwritten
  cases hwritten
  case registered | updated =>
    change request.authority.boot.getD _ = boot
    rw [hauthority]
    rfl
  case admitted hkind _ _ _ _ => exact hown.reference hkind
  case moved target record m hkind hrack _ =>
    have hboot : (movedRecord request target record).reference.boot = record.reference.boot := by
      unfold movedRecord
      split_ifs <;> rfl
    have hkeeps : request.kind.keepsBoot = true := by
      obtain hkind | hkind | hkind := MutationKind.of_membershipTarget hkind <;> rw [hkind] <;> rfl
    exact hboot.trans (hown.rack hkeeps record (hrack ▸ hold))
  case recovered boot' _ _ _ _ _ hboot =>
    exact Option.some.inj (hboot.symm.trans hauthority)
  case healthPublished record hkind hrack _ | evidenceWithdrawn record hkind hrack =>
    exact hown.rack (by rw [hkind]; rfl) record (hrack ▸ hold)
  case clusterRetired record hkind hcurrent => exact hown.retired hkind rack record hold hcurrent

theorem boot_of_linkWritten (hown : ClaimsOwn s boot request) {id : InterRackLinkId}
    {link : InterRackLink}
    (hwritten : LinkWritten s request id (s.links.find? id) (some link)) :
    link.boot = some boot := by
  generalize hold : s.links.find? id = old at hwritten
  cases hwritten
  case published payload hkind hpayload _ => exact hown.link hkind payload hpayload
  case reported link hkind hreachability htouches =>
    exact hown.touched (.inl ⟨hkind, hreachability⟩) id link hold htouches
  case evidenceWithdrawn link hkind hselector htouches =>
    exact hown.touched (.inr ⟨hkind, hselector⟩) id link hold htouches
  case superseded link hkind => exact hown.superseded hkind id link hold

omit [StdSort] in
/-- What holds of the requests that a session makes itself and of those that its
peer publishes. -/
theorem Submits.of_published {P : MutationRequest → Prop} (h : Submits session incoming request)
    (hown : ∀ request : MutationRequest, request.kind = .registerRackPublisher ∨
      request.kind = .revalidateRecoveredState → P request)
    (hpublished : ∀ published, incoming = .publishRequest (some published) →
      P (session.publication published)) : P request := by
  cases h with
  | registration h =>
    obtain ⟨claimed, -, hrequest⟩ := Option.bind_eq_some_iff.mp h
    obtain rfl := Option.some.inj hrequest
    exact hown _ (.inl rfl)
  | publication published => exact hpublished published rfl
  | revalidation message readAt => exact hown _ (.inr rfl)

omit [StdSort] in
/-- Only what a peer publishes can claim another identity than the session's. -/
theorem Submits.claimsOwn (h : Submits session incoming request)
    (hown : ∀ published, incoming = .publishRequest (some published) → ClaimsOwn s boot published) :
    ClaimsOwn s boot request := by
  refine h.of_published (fun request hkind => ?_) fun published hincoming =>
    { hown published hincoming with }
  constructor <;> rcases hkind with hkind | hkind <;>
    simp [hkind, MutationKind.keepsBoot, MutationRequest.rewritesLinks]

omit [StdSort] in
theorem Submits.authority (h : Submits session incoming request)
    (hboot : session.boot = some boot) : request.authority.boot = some boot := by
  cases h with
  | registration h =>
    obtain ⟨claimed, -, hrequest⟩ := Option.bind_eq_some_iff.mp h
    obtain rfl := Option.some.inj hrequest
    exact hboot
  | publication published | revalidation message readAt =>
    change session.boot.or _ = some boot
    rw [hboot]
    rfl

end Own

/-! ## One identity for a session -/

/-- Every rack and link that differs from what it was is recorded under the
identity. -/
structure Carries (boot : Option RackAgentBootId) (s s' : ClusterState) : Prop where
  racks : ∀ rack record, s'.racks.find? rack = some record → s.racks.find? rack ≠ some record →
    boot = some record.reference.boot
  links : ∀ id link, s'.links.find? id = some link → s.links.find? id ≠ some link →
    boot.isSome = true ∧ link.boot = boot

theorem Carries.of_eq {boot : Option RackAgentBootId} {s s' : ClusterState}
    (h : s'.toCanonicalRecords = s.toCanonicalRecords) : Carries boot s s' where
  racks := fun rack record hfind hchanged => by
    rw [h] at hfind
    exact absurd hfind hchanged
  links := fun id link hfind hchanged => by
    rw [h] at hfind
    exact absurd hfind hchanged

namespace SessionRun

variable [StdSort] {σ : Type} (ops : PersistenceStore σ) (digest : ClusterState → Text)

/-- What a message of the session changes is recorded under the identity of its
first accepted HELLO. -/
def CarriesFirst (r : SessionRun σ) : SessionEvent → Prop
  | .message incoming queue readAt served =>
    let r' := step ops digest r (.message incoming queue readAt served)
    Carries r'.first r.coordinator.canonical r'.coordinator.canonical
  | _ => True

/-- A HELLO repeats the first accepted one, and what is published claims the
identity of that. -/
def ClaimsFirst (r : SessionRun σ) : SessionEvent → Prop
  | .message (.hello message) _ _ _ =>
    ∀ first, r.first = some first →
      ∀ boot, Session.helloBoot r.coordinator.config message = some boot → boot = first
  | .message (.publishRequest (some request)) _ _ _ =>
    ∀ first, r.first = some first → ClaimsOwn r.coordinator.canonical first request
  | _ => True

/-- The session has the identity of its first accepted HELLO, and has one after a
handshake. -/
structure KeepsFirst (r : SessionRun σ) : Prop where
  boot : r.session.boot = r.first
  greeted : r.session.handshakeDone = true → r.first.isSome = true

variable {ops} {digest} {r : SessionRun σ}

theorem KeepsFirst.handled (h : KeepsFirst r) {turn : Turn σ}
    (hhandled : Handled ops r.coordinator r.session incoming turn)
    (hfirst : ∀ message, incoming = .hello message → ∀ first, r.first = some first →
      ∀ boot, Session.helloBoot r.coordinator.config message = some boot → boot = first) :
    turn.session.boot = r.first.or turn.session.boot ∧
      (turn.session.handshakeDone = true → (r.first.or turn.session.boot).isSome = true) := by
  cases hhandled with
  | idle _ hboot hdone | submitted _ _ _ hboot hdone =>
    rw [hboot, hdone, h.boot, Option.or_self]
    exact ⟨rfl, h.greeted⟩
  | @greeted message boot hincoming haccepted _ hboot =>
    rw [hboot]
    cases hr : r.first with
    | none => exact ⟨rfl, fun _ => rfl⟩
    | some first =>
      obtain rfl := hfirst message hincoming first hr boot haccepted
      exact ⟨rfl, fun _ => rfl⟩

theorem KeepsFirst.step (h : KeepsFirst r) (hclaims : ClaimsFirst r event) :
    KeepsFirst (step ops digest r event) := by
  cases stepped ops digest r event with
  | stopped hstep | closed _ hstep | served _ hstep | fenced _ hstep =>
    rw [hstep]
    exact { h with }
  | handled hevent hhandled hstep =>
    subst hevent
    rw [hstep]
    obtain ⟨hboot, hgreeted⟩ := h.handled hhandled (by rintro message rfl; exact hclaims)
    exact ⟨hboot, hgreeted⟩

theorem carries_of_written {c : Coordinator σ} {request : MutationRequest} {now : Timestamp}
    {boot : RackAgentBootId} (hauthority : request.authority.boot = some boot)
    (hown : ClaimsOwn c.canonical boot request) :
    Carries (some boot) c.canonical (Coordinator.applyAndCommit ops c request now).1.canonical := by
  rcases Coordinator.written_of_submit ops c request now with ⟨-, -, hwritten⟩ | ⟨-, hsame⟩
  · constructor
    · intro rack record hfind hchanged
      rcases hwritten.racks rack with hsame | hrack
      · exact absurd (hsame.symm.trans hfind) hchanged
      · rw [hfind] at hrack
        rw [boot_of_rackWritten hauthority hown hrack]
    · intro id link hfind hchanged
      rcases hwritten.links id with hsame | hlink
      · exact absurd (hsame.symm.trans hfind) hchanged
      · rw [hfind] at hlink
        exact ⟨rfl, boot_of_linkWritten hown hlink⟩
  · exact .of_eq hsame

theorem KeepsFirst.carries (h : KeepsFirst r) (hclaims : ClaimsFirst r event) :
    CarriesFirst ops digest r event := by
  cases event with
  | message incoming queue readAt served =>
    unfold CarriesFirst
    dsimp only
    cases stepped ops digest r (.message incoming queue readAt served) with
    | stopped hstep =>
      rw [hstep]
      exact .of_eq rfl
    | @handled _ _ _ _ turn hevent hhandled hstep =>
      obtain ⟨rfl, rfl, rfl, rfl⟩ := SessionEvent.message.inj hevent
      rw [hstep]
      dsimp only
      cases hhandled with
      | idle hcoordinator _ _ => exact .of_eq (by rw [hcoordinator])
      | greeted _ _ hcoordinator _ => exact .of_eq (by rw [hcoordinator])
      | submitted hsubmits hdone hcoordinator hboot _ =>
        obtain ⟨boot, hfirst⟩ := Option.isSome_iff_exists.mp (h.greeted hdone)
        have hown : ClaimsOwn r.coordinator.canonical boot _ :=
          hsubmits.claimsOwn (by rintro published rfl; exact hclaims boot hfirst)
        rw [hcoordinator, hfirst]
        exact carries_of_written (hsubmits.authority (h.boot.trans hfirst)) hown
    | closed hevent _ => exact nomatch hevent
    | served hevent _ => exact nomatch hevent
    | fenced hevent _ => exact nomatch hevent
  | _ => trivial

/-- **A session writes under one identity**, whatever the coordinator serves in
between: as long as its HELLOs repeat the first accepted one and what it publishes
claims that identity, every rack and link that one of its messages creates or
rewrites carries it. -/
theorem session_writes_first_identity {c : Coordinator σ} {events : List SessionEvent}
    (halong : Along (step ops digest) ClaimsFirst { coordinator := c } events) :
    Along (step ops digest) (CarriesFirst ops digest) { coordinator := c } events :=
  along_of_invariant _ (P := KeepsFirst) (fun _ _ h hclaims => h.step hclaims)
    (fun _ _ h hclaims => h.carries hclaims) ⟨rfl, fun h => absurd h Bool.false_ne_true⟩ halong

end SessionRun

section Example

namespace SessionRun

open scoped StdSort

/-- A HELLO of an incarnation to the sample cluster. -/
def helloFrom (boot : String) : SessionEvent :=
  .message (.hello (some { cluster := .named "alpha", boot := .named boot })) { running := true }
    ⟨3⟩
    none

/-- A publication that the coordinator serves. -/
def publishes (request : MutationRequest) : SessionEvent :=
  .message (.publishRequest (some request)) { running := true } ⟨4⟩ (some ⟨4⟩)

/-- A new session on the sample cluster. -/
def opened : SessionRun (Option PersistedState) :=
  { coordinator := Coordinator.sample [.submit Coordinator.declaration ⟨2⟩] }

def sessionStep : SessionRun (Option PersistedState) → SessionEvent →
    SessionRun (Option PersistedState) :=
  step cellStore.ops fun _ => []

theorem first_helloFrom : (sessionStep opened (helloFrom "b1")).first = some (.named "b1") := by
  decide +kernel

/-- A session that publishes a rack of its own. -/
theorem session_writes_first_identity_published :
    Along sessionStep (CarriesFirst cellStore.ops fun _ => []) opened
      [helloFrom "b1", publishes (Coordinator.publishedRack "r1" "b1")] := by
  have halong : Along sessionStep ClaimsFirst opened
      [helloFrom "b1", publishes (Coordinator.publishedRack "r1" "b1")] := by
    refine ⟨fun first hfirst => (nomatch hfirst), fun first hfirst => ?_, trivial⟩
    obtain rfl := Option.some.inj (first_helloFrom.symm.trans hfirst)
    exact ⟨fun _ => rfl, (nomatch ·), (nomatch ·), (nomatch ·), (nomatch ·), (nomatch ·)⟩
  exact session_writes_first_identity halong

/-- A session that retires the cluster rewrites a rack of another incarnation, and
one whose reference names another incarnation has the rack recorded under that. -/
theorem foreign_reference_recorded :
    (let others := sessionStep opened (.mutation (Coordinator.publishedRack "r1" "b2") ⟨3⟩)
      let r := runFrom sessionStep others [helloFrom "b1",
        publishes { Coordinator.publishedRack "r1" "b1" with kind := .retireCluster }]
      r.first = some (.named "b1") ∧
        r.coordinator.canonical.racks.find? (.named "r1") ≠
          others.coordinator.canonical.racks.find? (.named "r1") ∧
        (r.coordinator.canonical.racks.find? (.named "r1")).map
          (fun record => record.reference.boot) = some (.named "b2")) ∧
    let r := runFrom sessionStep opened
      [helloFrom "b1", publishes (Coordinator.publishedRack "r1" "b2")]
    r.first = some (.named "b1") ∧
      (r.coordinator.canonical.racks.find? (.named "r1")).map
        (fun record => record.reference.boot) =
        some (.named "b2") := by
  decide +kernel

end SessionRun

end Example

end ClusterFabric
