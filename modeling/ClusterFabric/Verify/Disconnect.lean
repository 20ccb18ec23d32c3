import ClusterFabric.Verify.Sessions
import ClusterFabric.Verify.Soundness

/-! # What the end of a session leaves

The fence that a closed session queues finds racks and links by the incarnation they are
recorded under. It reaches what the session published as far as that is recorded under
its last identity (`session_end_invalidates`). Domains and constraints carry no
incarnation, and no fence reaches them.
-/

namespace ClusterFabric

open Lib

variable {link : InterRackLink} {record : RackRecord} {incoming : Incoming} {now : Timestamp}
  {session : Session} {rack : RackId}

/-! ## Fences -/

section Fence

variable [StdSort] {s : ClusterState} {boot : RackAgentBootId} {reason : Text}
  {fencedAt : Timestamp}

/-- A rack that is still authoritative after a fence is as it was, and of another
incarnation. -/
theorem authoritative_of_fenced
    (hfind : (Coordinator.fencedState s boot reason fencedAt).racks.find? rack = some record)
    (hcurrent : record.authoritativeCurrent = true) :
    s.racks.find? rack = some record ∧ record.reference.boot ≠ boot := by
  rw [Coordinator.racks_fencedState] at hfind
  change (s.racks.updateWhere _ _).find? rack = some record at hfind
  rw [StdMap.find?_updateWhere, Option.map_eq_some_iff] at hfind
  obtain ⟨old, hold, hrecord⟩ := hfind
  split_ifs at hrecord with hboot
  · subst hrecord
    exact nomatch hcurrent
  · subst hrecord
    exact ⟨hold, by simpa using hboot⟩

/-- A link whose evidence is still current after a fence is as it was, and of
another incarnation. -/
theorem current_of_fenced {id : InterRackLinkId}
    (hfind : (Coordinator.fencedState s boot reason fencedAt).links.find? id = some link)
    (hcurrent : link.header.evidence.isCurrent = true) :
    s.links.find? id = some link ∧ link.boot ≠ some boot := by
  rw [Coordinator.fencedState_eq] at hfind
  change (s.links.updateWhere _ _).find? id = some link at hfind
  rw [StdMap.find?_updateWhere, Option.map_eq_some_iff] at hfind
  obtain ⟨old, hold, hlink⟩ := hfind
  split_ifs at hlink with hboot
  · subst hlink
    have hstale := EvidenceStamp.isCurrent_of_requiresRevalidation
      (EvidenceStamp.requiresRevalidation_markRevalidationRequired old.header.evidence)
    exact absurd (hstale.symm.trans hcurrent) Bool.false_ne_true
  · subst hlink
    exact ⟨hold, by simpa using hboot⟩

end Fence

/-! ## What a fence reaches -/

/-- Nothing that is attributed counts as current. -/
structure NoneCurrent (mine : Attribution) (s : ClusterState) : Prop where
  racks : ∀ rack record, mine.racks rack = true → s.racks.find? rack = some record →
    record.authoritativeCurrent = false
  links : ∀ id link, mine.links id = true → s.links.find? id = some link →
    link.header.evidence.isCurrent = false
  domains : ∀ k id domain, mine.domains k id = true → (s.domains k).find? id = some domain →
    domain.header.evidence.isCurrent = false
  constraints : ∀ id constraint, mine.constraints id = true →
    s.constraints.find? id = some constraint → constraint.header.evidence.isCurrent = false

/-- What is attributed and current is recorded under the identity. -/
structure Fenceable (boot : Option RackAgentBootId) (mine : Attribution) (s : ClusterState) :
    Prop where
  racks : ∀ rack record, mine.racks rack = true → s.racks.find? rack = some record →
    record.authoritativeCurrent = true → boot = some record.reference.boot
  links : ∀ id link, mine.links id = true → s.links.find? id = some link →
    link.header.evidence.isCurrent = true → boot.isSome = true ∧ link.boot = boot
  domains : ∀ k id domain, mine.domains k id = true → (s.domains k).find? id = some domain →
    domain.header.evidence.isCurrent = false
  constraints : ∀ id constraint, mine.constraints id = true →
    s.constraints.find? id = some constraint → constraint.header.evidence.isCurrent = false

section Fenceable

variable [StdSort] {boot : Option RackAgentBootId} {mine : Attribution} {s s' : ClusterState}

/-- A fence of any incarnation makes nothing current. -/
theorem Fenceable.fenced (h : Fenceable boot mine s) (boot' : RackAgentBootId) (reason : Text)
    (fencedAt : Timestamp) :
    Fenceable boot mine (Coordinator.fencedState s boot' reason fencedAt) where
  racks := fun rack record hmine hfind hcurrent =>
    h.racks rack record hmine (authoritative_of_fenced hfind hcurrent).1 hcurrent
  links := fun id link hmine hfind hcurrent =>
    h.links id link hmine (current_of_fenced hfind hcurrent).1 hcurrent
  domains := fun k id domain hmine hfind => by
    rw [Coordinator.fencedState_eq] at hfind
    exact h.domains k id domain hmine hfind
  constraints := fun id constraint hmine hfind => by
    rw [Coordinator.fencedState_eq] at hfind
    exact h.constraints id constraint hmine hfind

/-- A fence of the identity leaves nothing current. -/
theorem Fenceable.noneCurrent {boot : RackAgentBootId} (h : Fenceable (some boot) mine s)
    (reason : Text) (fencedAt : Timestamp) :
    NoneCurrent mine (Coordinator.fencedState s boot reason fencedAt) where
  racks := fun rack record hmine hfind => by
    by_contra hcurrent
    have hcurrent : record.authoritativeCurrent = true := by simpa using hcurrent
    obtain ⟨hbefore, hother⟩ := authoritative_of_fenced hfind hcurrent
    exact hother (Option.some.inj (h.racks rack record hmine hbefore hcurrent)).symm
  links := fun id link hmine hfind => by
    by_contra hcurrent
    have hcurrent : link.header.evidence.isCurrent = true := by simpa using hcurrent
    obtain ⟨hbefore, hother⟩ := current_of_fenced hfind hcurrent
    exact hother (h.links id link hmine hbefore hcurrent).2
  domains := (h.fenced boot reason fencedAt).domains
  constraints := (h.fenced boot reason fencedAt).constraints

omit [StdSort] in
theorem NoneCurrent.fenceable (h : NoneCurrent mine s) (boot : Option RackAgentBootId) :
    Fenceable boot mine s where
  racks := fun rack record hmine hfind hcurrent =>
    absurd ((h.racks rack record hmine hfind).symm.trans hcurrent) Bool.false_ne_true
  links := fun id link hmine hfind hcurrent =>
    absurd ((h.links id link hmine hfind).symm.trans hcurrent) Bool.false_ne_true
  domains := h.domains
  constraints := h.constraints

omit [StdSort] in
/-- Nothing is recorded under no identity. -/
theorem noneCurrent_of_none (h : Fenceable none mine s) : NoneCurrent mine s where
  racks := fun rack record hmine hfind =>
    Bool.eq_false_iff.mpr fun hcurrent => nomatch h.racks rack record hmine hfind hcurrent
  links := fun id link hmine hfind =>
    Bool.eq_false_iff.mpr fun hcurrent => nomatch (h.links id link hmine hfind hcurrent).1
  domains := h.domains
  constraints := h.constraints

omit [StdSort] in
/-- Changes of others take away what they change. -/
theorem Fenceable.other (h : Fenceable boot mine s) :
    Fenceable boot (mine.after false s s') s' where
  racks := StdMap.of_lastWritten h.racks (nomatch ·)
  links := StdMap.of_lastWritten h.links (nomatch ·)
  domains := fun k => StdMap.of_lastWritten (h.domains k) (nomatch ·)
  constraints := StdMap.of_lastWritten h.constraints (nomatch ·)

/-- What a request leaves current is recorded under the identity, or was
already. -/
structure LeavesFenceable (s : ClusterState) (boot : RackAgentBootId) (request : MutationRequest) :
    Prop where
  reference : request.kind = .addRack →
    isCurrentEvidenceProvenance request.rackReference.evidence.provenance = true →
    request.rackReference.boot = boot
  link : request.kind = .publishInterRackLink → ∀ link, request.link = some link →
    link.header.evidence.isCurrent = true → link.boot = some boot
  reported : request.kind = .publishHealthCurrentness → request.evidence.isCurrent = true →
    ∀ record, s.racks.find? request.targetRack = some record → record.reference.boot = boot
  touched : request.kind = .publishHealthCurrentness → request.evidence.isCurrent = true →
    request.reachability ≠ .unknown → ∀ id link, s.links.find? id = some link →
    link.touches request.targetRack = true → link.boot = some boot
  domain : ∀ k, request.kind.domainKind = some k → ∀ payload, request.domain k = some payload →
    payload.header.evidence.isCurrent = false
  constraint : request.kind = .publishConstraint → ∀ payload, request.constraint = some payload →
    payload.header.evidence.isCurrent = false

variable {boot : RackAgentBootId} {request : MutationRequest}

theorem boot_of_authoritative (hauthority : request.authority.boot = some boot)
    (hleaves : LeavesFenceable s boot request)
    (hwritten : RackWritten now s request rack (s.racks.find? rack) (some record))
    (hcurrent : record.authoritativeCurrent = true) : record.reference.boot = boot := by
  generalize hold : s.racks.find? rack = old at hwritten
  cases hwritten
  case registered | evidenceWithdrawn | clusterRetired => exact nomatch hcurrent
  case admitted hkind _ _ _ _ =>
    refine hleaves.reference hkind ?_
    by_contra hfaint
    have hfaint : request.rackReference.evidence.Faint := Bool.eq_false_iff.mpr hfaint
    exact absurd ((hfaint.admittedEvidence now).isCurrent.symm.trans hcurrent) Bool.false_ne_true
  case updated =>
    change request.authority.boot.getD _ = boot
    rw [hauthority]
    rfl
  case moved hkind _ _ =>
    simp [movedRecord, MutationKind.ne_active_of_membershipTarget hkind] at hcurrent
  case recovered hboot => exact Option.some.inj (hboot.symm.trans hauthority)
  case healthPublished record hkind hrack _ =>
    exact hleaves.reported hkind hcurrent record (hrack ▸ hold)

theorem boot_of_current (hleaves : LeavesFenceable s boot request) {id : InterRackLinkId}
    (hwritten : LinkWritten s request id (s.links.find? id) (some link))
    (hcurrent : link.header.evidence.isCurrent = true) : link.boot = some boot := by
  have hstale : ∀ e : EvidenceStamp, e.markRevalidationRequired.isCurrent ≠ true := fun e => by
    rw [EvidenceStamp.isCurrent_of_requiresRevalidation
      (EvidenceStamp.requiresRevalidation_markRevalidationRequired e)]
    exact Bool.false_ne_true
  generalize hold : s.links.find? id = old at hwritten
  cases hwritten
  case published payload hkind hpayload _ => exact hleaves.link hkind payload hpayload hcurrent
  case reported link hkind hreachability htouches =>
    exact hleaves.touched hkind hcurrent hreachability id link hold htouches
  case evidenceWithdrawn => exact absurd hcurrent (hstale _)
  case superseded => exact absurd hcurrent (hstale _)

/-- What the session writes stays within the reach of its fence. -/
theorem Fenceable.own (h : Fenceable (some boot) mine s)
    (hauthority : request.authority.boot = some boot) (hleaves : LeavesFenceable s boot request)
    (hwritten : Written now s request s') : Fenceable (some boot) (mine.after true s s') s' where
  racks := by
    refine StdMap.of_lastWritten h.racks fun _ rack record hfind hchanged hcurrent => ?_
    have hrack := (hwritten.racks rack).resolve_left hchanged
    rw [hfind] at hrack
    rw [boot_of_authoritative hauthority hleaves hrack hcurrent]
  links := by
    refine StdMap.of_lastWritten h.links fun _ id link hfind hchanged hcurrent => ?_
    have hlink := (hwritten.links id).resolve_left hchanged
    rw [hfind] at hlink
    exact ⟨rfl, boot_of_current hleaves hlink hcurrent⟩
  domains := by
    intro k
    refine StdMap.of_lastWritten (h.domains k) fun _ id domain hfind hchanged => ?_
    have hdomain := (hwritten.domains k id).resolve_left hchanged
    rw [hfind] at hdomain
    cases hdomain with
    | @published payload hkind hpayload _ => exact hleaves.domain k hkind payload hpayload
  constraints := by
    refine StdMap.of_lastWritten h.constraints fun _ id constraint hfind hchanged => ?_
    have hconstraint := (hwritten.constraints id).resolve_left hchanged
    rw [hfind] at hconstraint
    cases hconstraint with
    | @published payload hkind hpayload _ => exact hleaves.constraint hkind payload hpayload

omit [StdSort] in
/-- Records that nobody changed keep their attribution. -/
theorem Fenceable.same {boot : Option RackAgentBootId} (h : Fenceable boot mine s)
    (hsame : s'.toCanonicalRecords = s.toCanonicalRecords) (own : Bool) :
    Fenceable boot (mine.after own s s') s' where
  racks := StdMap.of_lastWritten h.racks fun _ _ _ _ hchanged => absurd (by rw [hsame]) hchanged
  links := StdMap.of_lastWritten h.links fun _ _ _ _ hchanged => absurd (by rw [hsame]) hchanged
  domains := fun k => StdMap.of_lastWritten (h.domains k) fun _ _ _ _ hchanged =>
    absurd (by rw [hsame]) hchanged
  constraints := StdMap.of_lastWritten h.constraints fun _ _ _ _ hchanged =>
    absurd (by rw [hsame]) hchanged

omit [StdSort] in
/-- Only what a peer publishes can leave the reach of its fence. -/
theorem Submits.leavesFenceable (h : Submits session incoming request)
    (hleaves : ∀ published, incoming = .publishRequest (some published) →
      LeavesFenceable s boot published) : LeavesFenceable s boot request := by
  refine h.of_published (fun request hkind => ?_) fun published hincoming =>
    { hleaves published hincoming with }
  constructor <;> rcases hkind with hkind | hkind <;> simp [hkind, MutationKind.domainKind]

end Fenceable

/-! ## Sessions -/

namespace SessionRun

variable [StdSort] {σ : Type} {ops : PersistenceStore σ} {digest : ClusterState → Text}
  {r : SessionRun σ} {boot : Option RackAgentBootId}

/-- A HELLO repeats the identity of the session, and what is published leaves what
is current in the reach of its fence. -/
def KeepsFenceable (r : SessionRun σ) : SessionEvent → Prop
  | .message (.hello message) _ _ _ =>
    ∀ boot, r.session.boot = some boot →
      ∀ boot', Session.helloBoot r.coordinator.config message = some boot' → boot' = boot
  | .message (.publishRequest (some request)) _ _ _ =>
    ∀ boot, r.session.boot = some boot → LeavesFenceable r.coordinator.canonical boot request
  | _ => True

/-- What the session wrote is in the reach of its fence, and it has an identity
after a handshake. -/
structure Detachable (r : SessionRun σ) : Prop where
  fenceable : Fenceable r.session.boot r.mine r.coordinator.canonical
  greeted : r.session.handshakeDone = true → r.session.boot.isSome = true

omit [StdSort] in
theorem Detachable.start (c : Coordinator σ) : Detachable { coordinator := c } where
  fenceable :=
    { racks := fun _ _ hmine => absurd hmine Bool.false_ne_true
      links := fun _ _ hmine => absurd hmine Bool.false_ne_true
      domains := fun _ _ _ hmine => absurd hmine Bool.false_ne_true
      constraints := fun _ _ hmine => absurd hmine Bool.false_ne_true }
  greeted := fun hdone => absurd hdone Bool.false_ne_true

/-- The commit thread makes nothing current that the session wrote. -/
theorem fenceable_of_fence (h : Fenceable boot r.mine r.coordinator.canonical)
    (boot' : RackAgentBootId) (reason : Text) (fencedAt now : Timestamp) :
    Fenceable boot r.mine (r.coordinator.applyFence ops boot' reason fencedAt now).canonical := by
  cases Coordinator.applyFence_cases ops r.coordinator boot' reason fencedAt now with
  | ineffective hcanonical _ _ _ =>
    rw [hcanonical]
    exact h
  | effective _ _ _ hcanonical _ _ _ =>
    rw [hcanonical]
    exact { h.fenced boot' reason fencedAt with }

theorem Detachable.handled (h : Detachable r) {turn : Turn σ}
    (hhandled : Handled ops r.coordinator r.session incoming turn)
    (hhello : ∀ message, incoming = .hello message → ∀ boot, r.session.boot = some boot →
      ∀ boot', Session.helloBoot r.coordinator.config message = some boot' → boot' = boot)
    (hpublish : ∀ request, incoming = .publishRequest (some request) →
      ∀ boot, r.session.boot = some boot → LeavesFenceable r.coordinator.canonical boot request) :
    Fenceable turn.session.boot
        (r.mine.after true r.coordinator.canonical turn.coordinator.canonical)
        turn.coordinator.canonical ∧
      (turn.session.handshakeDone = true → turn.session.boot.isSome = true) := by
  cases hhandled with
  | idle hcoordinator hboot hdone =>
    rw [hcoordinator, hboot, hdone]
    exact ⟨h.fenceable.same rfl true, h.greeted⟩
  | @greeted message boot hincoming haccepted hcoordinator hboot =>
    rw [hcoordinator, hboot]
    refine ⟨?_, fun _ => rfl⟩
    cases hr : r.session.boot with
    | none =>
      -- without an identity the session wrote nothing that is current
      exact ((noneCurrent_of_none (hr ▸ h.fenceable)).fenceable _).same rfl true
    | some first =>
      obtain rfl := hhello message hincoming first hr boot haccepted
      exact (hr ▸ h.fenceable).same rfl true
  | submitted hsubmits hdone hcoordinator hboot hdone' =>
    obtain ⟨boot, hsome⟩ := Option.isSome_iff_exists.mp (h.greeted hdone)
    rw [hcoordinator, hboot, hdone']
    refine ⟨?_, h.greeted⟩
    have hfenceable := h.fenceable
    rw [hsome] at hfenceable ⊢
    have hleaves : LeavesFenceable r.coordinator.canonical boot _ :=
      hsubmits.leavesFenceable fun published hincoming => hpublish published hincoming boot hsome
    rcases Coordinator.written_of_submit ops r.coordinator _ _ with ⟨-, -, hwritten⟩ | ⟨-, hsame⟩
    · exact hfenceable.own (hsubmits.authority hsome) hleaves hwritten
    · exact hfenceable.same hsame true

theorem Detachable.step (h : Detachable r) {event : SessionEvent}
    (hkeeps : KeepsFenceable r event) :
    Detachable (step ops digest r event) := by
  cases stepped ops digest r event with
  | stopped hstep =>
    rw [hstep]
    exact { h with }
  | handled hevent hhandled hstep =>
    subst hevent
    rw [hstep]
    obtain ⟨hfenceable, hgreeted⟩ := h.handled hhandled (by rintro message rfl; exact hkeeps)
      (by rintro request rfl; exact hkeeps)
    exact ⟨hfenceable, hgreeted⟩
  | closed _ hstep =>
    rw [hstep]
    exact { h with }
  | served _ hstep =>
    rw [hstep]
    exact ⟨h.fenceable.other, h.greeted⟩
  | fenced _ hstep =>
    rw [hstep]
    exact ⟨fenceable_of_fence h.fenceable .., h.greeted⟩

/-- A session that ended, and what it wrote is in the reach of a fence of
`boot`. -/
structure Detached (boot : Option RackAgentBootId) (r : SessionRun σ) : Prop where
  fenceable : Fenceable boot r.mine r.coordinator.canonical
  ended : r.session.ended = true

theorem Detached.step (h : Detached boot r) (event : SessionEvent) :
    Detached boot (step ops digest r event) := by
  unfold SessionRun.step
  split_ifs
  · exact h
  · cases event with
    | message incoming queue readAt served =>
      have hidle : r.session.handle ops digest r.coordinator queue readAt served incoming =
          some { coordinator := r.coordinator, session := r.session } := by
        unfold Session.handle
        rw [if_pos h.ended]
      dsimp only
      rw [hidle]
      exact ⟨h.fenceable.same rfl true, h.ended⟩
    | closed => exact ⟨h.fenceable, rfl⟩
    | mutation request now => exact ⟨h.fenceable.other, h.ended⟩
    | fence boot' reason fencedAt now =>
      exact ⟨fenceable_of_fence h.fenceable boot' reason fencedAt now, h.ended⟩

theorem Detached.run (h : Detached boot r) (events : List SessionEvent) :
    Detached boot (run ops digest r events) :=
  runFrom_invariant _ (fun _ event h => h.step event) h events

omit [StdSort] in
/-- What `detach_session` queues is a fence of the last identity. -/
theorem fence_of_detachSession {queue : CommitQueue} {c : Coordinator σ} {item : QueueItem}
    (h : Session.detachSession queue c session = queue.push item) :
    ∃ boot reason, session.boot = some boot ∧ item = .fence boot reason := by
  have hkept : queue ≠ queue.push item := fun h => by
    simpa [CommitQueue.push] using congrArg CommitQueue.items h
  unfold Session.detachSession at h
  cases hboot : session.boot with
  | none =>
    rw [hboot] at h
    exact absurd h hkept
  | some boot =>
    rw [hboot] at h
    dsimp only at h
    split_ifs at h
    · exact absurd h hkept
    · exact absurd h hkept
    all_goals
      have hitem := List.append_cancel_left (congrArg CommitQueue.items h)
      exact ⟨boot, _, rfl, (List.singleton_inj.mp hitem).symm⟩

/-- **The end of a session invalidates what it wrote**, whatever the coordinator
serves before and after: when its HELLOs repeat one identity and what it publishes
stays in the reach of the fence of that, nothing that it wrote last counts as current
once the fence that `detach_session` queued is committed. -/
theorem session_end_invalidates {c : Coordinator σ} {events later : List SessionEvent}
    {queue : CommitQueue} {item : QueueItem} {fencedAt now : Timestamp} {r r' : SessionRun σ}
    (halong : Along (step ops digest) KeepsFenceable { coordinator := c } events)
    (hr : run ops digest { coordinator := c } events = r) (hended : r.session.ended = true)
    (hqueued : Session.detachSession queue r.coordinator r.session = queue.push item)
    (hr' : run ops digest r later = r')
    (hcommitted : (item.serve ops r'.coordinator fencedAt now).fenceEvents ≠
      r'.coordinator.fenceEvents) (rest : List SessionEvent) :
    let r'' := run ops digest
      { r' with coordinator := item.serve ops r'.coordinator fencedAt now } rest
    NoneCurrent r''.mine r''.coordinator.canonical := by
  obtain ⟨boot, reason, hboot, rfl⟩ := fence_of_detachSession hqueued
  have hdetachable : Detachable r := by
    rw [← hr]
    exact runFrom_invariant_along _ (fun _ _ h hkeeps => h.step hkeeps) (.start c) halong
  have hdetached : Detached (some boot) r' := by
    rw [← hr']
    exact Detached.run ⟨hboot ▸ hdetachable.fenceable, hended⟩ later
  have hfenced : NoneCurrent r'.mine
      (r'.coordinator.applyFence ops boot reason fencedAt now).canonical := by
    cases Coordinator.applyFence_cases ops r'.coordinator boot reason fencedAt now with
    | ineffective _ _ _ hevents => exact absurd hevents hcommitted
    | effective _ _ _ hcanonical _ _ _ =>
      rw [hcanonical]
      exact { hdetached.fenceable.noneCurrent reason fencedAt with }
  have hafter : Detached none
      { r' with coordinator := r'.coordinator.applyFence ops boot reason fencedAt now } :=
    ⟨hfenced.fenceable none, hdetached.ended⟩
  exact noneCurrent_of_none (hafter.run rest).fenceable

end SessionRun

section Example

namespace SessionRun

open scoped StdSort

/-- A session that publishes a rack of its own and then whatever `requests` are, and
is closed. -/
def closedAfter (requests : List MutationRequest) : SessionRun (Option PersistedState) :=
  runFrom sessionStep opened
    (helloFrom "b1" :: publishes (Coordinator.publishedRack "r1" "b1") ::
      requests.map publishes ++ [.closed])

/-- The fence that the end of the session queues. -/
def sessionFence : QueueItem := .fence (.named "b1") (text "session_closed")

/-- The coordinator after that fence. -/
def detached (r : SessionRun (Option PersistedState)) : Coordinator (Option PersistedState) :=
  sessionFence.serve cellStore.ops r.coordinator ⟨9⟩ ⟨9⟩

theorem queued_sessionFence {r : SessionRun (Option PersistedState)}
    (hboot : r.session.boot = some (.named "b1"))
    (hpublished : Coordinator.publishedBy r.coordinator.canonical (.named "b1") = true)
    (hconfig : r.coordinator.config.fenceOnDisconnect = true) :
    Session.detachSession {} r.coordinator r.session = CommitQueue.push {} sessionFence := by
  simp [Session.detachSession, hboot, hpublished, hconfig, sessionFence]

theorem ended_closedAfter : (closedAfter []).session.ended = true ∧
    (detached (closedAfter [])).fenceEvents ≠ (closedAfter []).coordinator.fenceEvents ∧
    (sessionStep opened (helloFrom "b1")).session.boot = some (.named "b1") ∧
    (closedAfter []).session.boot = some (.named "b1") ∧
    Coordinator.publishedBy (closedAfter []).coordinator.canonical (.named "b1") = true ∧
    (closedAfter []).coordinator.config.fenceOnDisconnect = true := by
  decide +kernel

/-- The rack of a closed session is no longer current. -/
theorem session_end_invalidates_rack :
    NoneCurrent (closedAfter []).mine (detached (closedAfter [])).canonical := by
  obtain ⟨hended, hfenced, hgreeted, hboot, hpublished, hconfig⟩ := ended_closedAfter
  have halong : Along sessionStep KeepsFenceable opened
      [helloFrom "b1", publishes (Coordinator.publishedRack "r1" "b1"), .closed] := by
    refine ⟨fun boot hboot => (nomatch hboot), fun boot hboot => ?_, trivial, trivial⟩
    obtain rfl := Option.some.inj (hgreeted.symm.trans hboot)
    exact ⟨fun _ _ => rfl, (nomatch ·), (nomatch ·), (nomatch ·), fun _ h => (nomatch h),
      (nomatch ·)⟩
  have hqueued := queued_sessionFence hboot hpublished hconfig
  exact session_end_invalidates halong rfl hended hqueued (runFrom_nil _ _) hfenced []

/-- A placement domain of the rack with reported evidence. -/
def publishedTier : MutationRequest :=
  { Coordinator.publishedRack "r1" "b1" with
    kind := .publishPlacementDomain
    domain := fun
      | .placement =>
        some ⟨.named "d", PlacementDomainClass.networkTier, [.named "r1"],
          { evidence := .make .reported ⟨1⟩ 0, generation := .fromRaw 1 }⟩
      | _ => none }

/-- A domain that a closed session published is current after the fence. -/
theorem domain_current_after_session :
    let r := closedAfter [publishedTier]
    r.session.ended = true ∧
      Session.detachSession {} r.coordinator r.session = CommitQueue.push {} sessionFence ∧
      (detached r).fenceEvents ≠ r.coordinator.fenceEvents ∧
      r.mine.domains .placement (.named "d") = true ∧
      (((detached r).canonical.domains .placement).find? (.named "d")).map
        (fun domain => domain.header.evidence.isCurrent) = some true := by
  have hqueued := queued_sessionFence (r := closedAfter [publishedTier]) (by decide +kernel)
    (by decide +kernel) (by decide +kernel)
  refine ⟨?_, hqueued, ?_⟩ <;> decide +kernel

end SessionRun

end Example

end ClusterFabric
