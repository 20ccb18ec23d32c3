import ClusterFabric.Verify.Reconnect
import ClusterFabric.Verify.Staleness

/-! # The numbers of an agent alone on its rack

An agent that connects once and then makes any calls, on a session whose coordinator
others use as well. As long as they leave the record of the rack and the incarnation
alone, and the counter does not saturate, no message of the agent is refused as stale,
but for links and domains that are recorded at a newer generation (`agent_not_stale`).
-/

namespace ClusterFabric

open Lib
open Txn

variable {agent : RackAgent} {request : MutationRequest} {cause : Prop} {s : ClusterState}
  {reason : RejectionReason} {agent' : RackAgent}

/-! ## Other writers -/

/-- What goes on around the rounds of a session: what others make of the coordinator
before a message is served, the queue that it meets and the times. -/
structure Others (σ : Type) where
  act : Nat → Coordinator σ → Coordinator σ
  queue : Nat → CommitQueue
  readAt : Nat → Timestamp
  served : Nat → Option Timestamp

/-- The incarnation and the number that are recorded for a rack. -/
def stamp (s : ClusterState) (rack : RackId) : Option (RackAgentBootId × PublicationGeneration) :=
  (s.racks.find? rack).map fun record => (record.reference.boot, record.reference.publication)

/-- Nobody else writes the record of the rack or fences the incarnation. -/
structure Others.LeaveAlone {σ : Type} (others : Others σ) (boot : RackAgentBootId)
    (rack : RackId) : Prop where
  stamp_eq : ∀ round c, stamp (others.act round c).canonical rack = stamp c.canonical rack
  fenced_eq : ∀ round c,
    (others.act round c).canonical.isBootFenced boot = c.canonical.isBootFenced boot

/-- The coordinator that a message meets. -/
def Others.met {σ : Type} (others : Others σ) (peer : SessionPeer σ) : Coordinator σ :=
  others.act peer.rounds peer.coordinator

/-- A session with a coordinator that others use as well. -/
def sharedTransport [StdSort] {σ : Type} (ops : PersistenceStore σ)
    (digest : ClusterState → Text) (others : Others σ) : Transport (SessionPeer σ) where
  dial peer := ({ peer with session := {} }, none)
  exchange peer message :=
    match peer.session.handle ops digest (others.met peer) (others.queue peer.rounds)
        (others.readAt peer.rounds) (others.served peer.rounds) message with
    | none => (peer, .error connectionClosed)
    | some turn =>
      ({ coordinator := turn.coordinator, session := turn.session, rounds := peer.rounds + 1 },
        match turn.reply with
        | some reply => .ok reply
        | none => .error connectionClosed)

theorem Ahead.of_stamp {s' : ClusterState} {boot : RackAgentBootId} {rack : RackId}
    {used : PublicationGeneration} (h : Ahead s boot rack used)
    (hstamp : stamp s' rack = stamp s rack) (hfenced : s'.isBootFenced boot = s.isBootFenced boot) :
    Ahead s' boot rack used where
  notFenced := hfenced.trans h.notFenced
  newer := by
    intro record hfind hsame
    rw [stamp, hfind, Option.map_some, stamp] at hstamp
    obtain ⟨old, hold, hold'⟩ := Option.map_eq_some_iff.mp hstamp.symm
    obtain ⟨hboot, hpublication⟩ := Prod.mk.inj hold'
    rw [← hpublication]
    exact h.newer old hold (hboot.trans hsame)

theorem Ahead.mono {boot : RackAgentBootId} {rack : RackId} {used later : PublicationGeneration}
    (h : Ahead s boot rack used) (hle : used ≤ later) : Ahead s boot rack later where
  notFenced := h.notFenced
  newer record hfind hsame := (h.newer record hfind hsame).trans_le hle

/-! ## Messages -/

/-- The messages of an agent, from the first on. -/
inductive Sends (boot : RackAgentBootId) (rack : RackId) (used : PublicationGeneration) :
    Incoming → Prop
  | hello {message : HelloMessage} (hboot : message.boot = boot) :
      Sends boot rack used (.hello (some message))
  | registration {message : RegisterPublisherMessage} (hrack : message.rack = rack)
      (hnumber : message.authority.publication = used) :
      Sends boot rack used (.registerPublisher (some message))
  | request {request : MutationRequest} (hboot : request.authority.boot = some boot)
      (hnumbers : Numbers boot rack used request) :
      Sends boot rack used (.publishRequest (some request))
  | heartbeat (message : HeartbeatMessage) : Sends boot rack used (.heartbeat (some message))
  | snapshot (cluster : ClusterId) : Sends boot rack used (.snapshotRequest (some cluster))
  | validation (view : SnapshotView) : Sends boot rack used (.validateSnapshotRequest (some view))
  | revalidation (message : RevalidateRequestMessage) :
      Sends boot rack used (.revalidateRequest (some message))

theorem RackAgent.Utters.sends {message : Incoming} (h : agent.Utters message) :
    Sends agent.boot agent.config.rack agent.publication message := by
  cases h with
  | rack hmakes hkind =>
    refine .request hmakes.boot ?_
    rcases hkind with hkind | hkind
    · exact .publication hkind hmakes.boot hmakes.reference_rack hmakes.reference_boot
        hmakes.publication hmakes.reference_publication
    · refine .update hkind hmakes.boot ?_ hmakes.publication
      rw [MutationRequest.targetRack, hmakes.rack]
      rfl
  | link hmakes hkind => exact .request hmakes.boot (.link hkind)
  | domain hmakes hkind => exact .request hmakes.boot (.domain hkind)
  | heartbeat message => exact .heartbeat message
  | snapshot cluster => exact .snapshot cluster
  | validation view => exact .validation view
  | revalidation => exact .revalidation _

/-- A number that the agent is left with after a message: a greeting takes none. -/
structure Incoming.Advances (message : Incoming) (used later : PublicationGeneration) : Prop where
  le : used ≤ later
  lt : message.isHello = false → used < later

/-- The message publishes a link or a domain that is recorded at a newer generation. -/
def Incoming.Outdated (s : ClusterState) (message : Incoming) : Prop :=
  ∃ request, message = .publishRequest (some request) ∧ ClusterFabric.Outdated s request

/-- The reply does not refuse the message as stale, unless there is a cause. -/
def Reply.StaleOnlyFor (cause : Prop) (reply : Reply) : Prop :=
  ∀ reason, reply.refusal = some reason → reason.StaleOnlyFor cause

section Turns

variable [StdSort] {σ : Type} {ops : PersistenceStore σ} {digest : ClusterState → Text}
  {c : Coordinator σ} {session : Session} {queue : CommitQueue} {readAt : Timestamp}
  {served : Option Timestamp} {boot : RackAgentBootId} {rack : RackId}
  {used later : PublicationGeneration} {message : Incoming} {turn : Turn σ}

/-- What serving a message leaves behind and answers. -/
structure Turned (boot : RackAgentBootId) (rack : RackId) (later : PublicationGeneration)
    (s : ClusterState) (message : Incoming) (turn : Turn σ) : Prop where
  ahead : Ahead turn.coordinator.canonical boot rack later
  session_boot : ∀ known, turn.session.boot = some known → known = boot
  reply : ∀ reply, turn.reply = some reply → reply.StaleOnlyFor (message.Outdated s)

omit [StdSort] in
/-- A turn that submits nothing. -/
theorem turned_unmoved (hahead : Ahead c.canonical boot rack used) (hle : used ≤ later)
    (hsession : ∀ known, session.boot = some known → known = boot) {reply : Reply}
    (hreply : reply.StaleOnlyFor (message.Outdated c.canonical)) :
    Turned boot rack later c.canonical message
      { coordinator := c, session := session, reply := some reply } where
  ahead := hahead.mono hle
  session_boot := hsession
  reply := by
    rintro _ ⟨⟩
    exact hreply

omit [StdSort] in
/-- A request that is not queued is not refused as stale. -/
theorem reason_of_submit {result : MutationResult} (h : queue.submit request = .error result) :
    result.reason.StaleOnlyFor cause := by
  unfold CommitQueue.submit at h
  dsimp only at h
  split_ifs at h <;> obtain rfl := Except.error.inj h <;> exact ⟨nofun, nofun⟩

/-- A request that is delivered. -/
theorem deliver_of_ahead (hahead : Ahead c.canonical boot rack used)
    (hnumbers : Numbers boot rack used request) (hlt : used < later) :
    Ahead (queue.deliver ops c request served).1.canonical boot rack later ∧
      (queue.deliver ops c request served).2.reason.StaleOnlyFor
        (Outdated c.canonical request) := by
  unfold CommitQueue.deliver
  split
  · rename_i result _ hsubmit
    exact ⟨hahead.mono hlt.le, reason_of_submit hsubmit⟩
  · exact ⟨hahead.next ops hnumbers hlt, hahead.answer ops hnumbers⟩
  · exact ⟨hahead.mono hlt.le, nofun, nofun⟩

omit [StdSort] in
theorem RejectionReason.StaleOnlyFor.mono {cause' : Prop} (h : reason.StaleOnlyFor cause)
    (himp : cause → cause') : reason.StaleOnlyFor cause' :=
  ⟨h.1, fun hstale => himp (h.2 hstale)⟩

omit [StdSort] in
/-- Only a publication of a link or a domain can be outdated. -/
theorem not_outdated (hlink : request.kind ≠ .publishInterRackLink)
    (hdomain : request.kind.domainKind = none) : ¬ Outdated s request := by
  intro houtdated
  cases houtdated with
  | link hkind => exact hlink hkind
  | domain hkind => exact nomatch hdomain.symm.trans hkind

omit [StdSort] in
theorem staleOnlyFor_heartbeatAck (config : CoordinatorConfig) (s : ClusterState)
    (message : HeartbeatMessage) :
    (Reply.heartbeatAck (Session.heartbeatAck config s (some message))).StaleOnlyFor cause := by
  intro reason hrefusal
  simp only [Reply.refusal, Session.heartbeatAck] at hrefusal
  split_ifs at hrefusal <;> obtain rfl := Option.some.inj hrefusal <;> exact ⟨nofun, nofun⟩

omit [StdSort] in
theorem staleOnlyFor_snapshotResponse (config : CoordinatorConfig) (s : ClusterState)
    (cluster : ClusterId) :
    (Reply.snapshotResponse (Session.snapshotResponse digest config s
      (some cluster))).StaleOnlyFor cause := by
  intro reason hrefusal
  unfold Session.snapshotResponse at hrefusal
  dsimp only at hrefusal
  split_ifs at hrefusal
  · obtain rfl := Option.some.inj hrefusal
    exact ⟨nofun, nofun⟩
  · exact nomatch hrefusal

omit [StdSort] in
/-- A greeting submits nothing, and a session that goes on has its incarnation. -/
theorem turned_greet {hello : HelloMessage} (hboot : hello.boot = boot)
    (hahead : Ahead c.canonical boot rack used) (hle : used ≤ later)
    (hsession : ∀ known, session.boot = some known → known = boot) :
    Turned boot rack later c.canonical (.hello (some hello))
      (Session.greet c session (some hello)) := by
  unfold Session.greet Session.helloBoot
  cases hrefusal : Session.helloRefusal c.config (some hello) with
  | none =>
    refine turned_unmoved hahead hle ?_ nofun
    rintro known ⟨⟩
    exact hboot
  | some refusal =>
    obtain ⟨reason, detail⟩ := refusal
    refine turned_unmoved hahead hle ?_ ?_
    · exact hsession
    · rintro _ ⟨⟩
      unfold Session.helloRefusal at hrefusal
      dsimp only at hrefusal
      split_ifs at hrefusal <;> obtain ⟨rfl, -⟩ := Prod.mk.inj (Option.some.inj hrefusal) <;>
        exact ⟨nofun, nofun⟩

omit [StdSort] in
/-- A session puts its incarnation into a request. -/
theorem Numbers.publication_of_session (h : Numbers boot rack used request)
    (hboot : request.authority.boot = some boot)
    (hsession : ∀ known, session.boot = some known → known = boot) :
    Numbers boot rack used (session.publication request) := by
  have hauthorized : (session.publication request).authority.boot = some boot := by
    change session.boot.or request.authority.boot = some boot
    cases hknown : session.boot with
    | none => exact hboot
    | some known => rw [hsession known hknown, Option.some_or]
  cases h with
  | registration hkind hrack hnumber => exact .registration hkind hrack hnumber
  | publication hkind _ hrack hreference hnumber hsame =>
    exact .publication hkind hauthorized hrack hreference hnumber hsame
  | update hkind _ hrack hnumber => exact .update hkind hauthorized hrack hnumber
  | link hkind => exact .link hkind
  | domain hkind => exact .domain hkind
  | revalidation hkind => exact .revalidation hkind

omit [StdSort] in
/-- The reason of an answer that is not accepted. -/
theorem reason_of_refusal {accepted : Bool} {reason' : RejectionReason}
    (h : (if accepted then none else some reason) = some reason') : reason = reason' := by
  split_ifs at h
  exact Option.some.inj h

/-- A turn that answers the result of a request. -/
theorem turned_delivered (hahead : Ahead c.canonical boot rack used)
    (hnumbers : Numbers boot rack used request) (hlt : used < later)
    (hsession : ∀ known, session.boot = some known → known = boot) {reply : Reply}
    (hreply : ∀ reason, reply.refusal = some reason →
      (queue.deliver ops c request served).2.reason = reason)
    (hcause : Outdated c.canonical request → message.Outdated c.canonical) :
    Turned boot rack later c.canonical message
      { coordinator := (queue.deliver ops c request served).1
        session := session
        reply := some reply } where
  ahead := (deliver_of_ahead hahead hnumbers hlt).1
  session_boot := hsession
  reply := by
    rintro _ ⟨⟩ reason hrefusal
    rw [← hreply reason hrefusal]
    exact (deliver_of_ahead hahead hnumbers hlt).2.mono hcause

theorem turned_serve (hsends : Sends boot rack used message)
    (hahead : Ahead c.canonical boot rack used) (hadvances : message.Advances used later)
    (hsession : ∀ known, session.boot = some known → known = boot)
    (hserve : session.serve ops digest c queue readAt served message = some turn) :
    Turned boot rack later c.canonical message turn := by
  cases hsends with
  | hello hboot =>
    obtain rfl := Option.some.inj hserve
    exact turned_greet hboot hahead hadvances.le hsession
  | registration hrack hnumber =>
    obtain ⟨request, hrequest, hturn⟩ := Option.bind_eq_some_iff.mp hserve
    obtain rfl := Option.some.inj hturn
    obtain ⟨claimed, -, hregistration⟩ := Option.bind_eq_some_iff.mp hrequest
    obtain rfl := Option.some.inj hregistration
    refine turned_delivered hahead ?_ (hadvances.lt rfl) ?_ (fun _ => reason_of_refusal) ?_
    · exact .registration rfl hrack hnumber
    · split_ifs <;> exact hsession
    · exact fun houtdated => absurd houtdated (not_outdated nofun rfl)
  | request hboot hnumbers =>
    obtain rfl := Option.some.inj hserve
    refine turned_delivered hahead (hnumbers.publication_of_session hboot hsession)
      (hadvances.lt rfl) hsession (fun _ => reason_of_refusal) fun houtdated => ⟨_, rfl, ?_⟩
    cases houtdated with
    | link hkind hlink hfind holder => exact .link hkind hlink hfind holder
    | domain hkind hdomain hfind holder => exact .domain hkind hdomain hfind holder
  | heartbeat message =>
    obtain rfl := Option.some.inj hserve
    exact turned_unmoved hahead hadvances.le hsession (staleOnlyFor_heartbeatAck _ _ _)
  | snapshot cluster =>
    obtain rfl := Option.some.inj hserve
    exact turned_unmoved hahead hadvances.le hsession (staleOnlyFor_snapshotResponse _ _ _)
  | validation view =>
    obtain rfl := Option.some.inj hserve
    exact turned_unmoved hahead hadvances.le hsession nofun
  | revalidation message =>
    obtain rfl := Option.some.inj hserve
    refine turned_delivered hahead ?_ (hadvances.lt rfl) hsession (fun _ => reason_of_refusal) ?_
    · exact .revalidation rfl
    · exact fun houtdated => absurd houtdated (not_outdated nofun rfl)

theorem turned_handle (hsends : Sends boot rack used message)
    (hahead : Ahead c.canonical boot rack used) (hadvances : message.Advances used later)
    (hsession : ∀ known, session.boot = some known → known = boot)
    (hhandle : session.handle ops digest c queue readAt served message = some turn) :
    Turned boot rack later c.canonical message turn := by
  unfold Session.handle at hhandle
  split_ifs at hhandle
  · obtain rfl := Option.some.inj hhandle
    exact ⟨hahead.mono hadvances.le, hsession, fun _ hanswer => nomatch hanswer⟩
  · obtain rfl := Option.some.inj hhandle
    refine turned_unmoved hahead hadvances.le ?_ nofun
    exact hsession
  · exact turned_serve hsends hahead hadvances hsession hhandle

end Turns

/-! ## Runs -/

section Runs

variable [StdSort] {σ : Type} {ops : PersistenceStore σ} {digest : ClusterState → Text}
  {others : Others σ} {boot : RackAgentBootId} {rack : RackId}
  {peer : SessionPeer σ × List (Exchanged (SessionPeer σ))} {message : Incoming}

/-- The answer does not refuse the message as stale, unless it publishes a link or a
domain that the coordinator records at a newer generation. -/
def Others.NotStale (others : Others σ) (exchanged : Exchanged (SessionPeer σ)) : Prop :=
  ∀ reply, exchanged.answer = .ok reply →
    reply.StaleOnlyFor (exchanged.message.Outdated (others.met exchanged.before).canonical)

/-- What holds between the steps of an agent, while its counter does not saturate. -/
structure Unchallenged (others : Others σ) (boot : RackAgentBootId) (rack : RackId)
    (s : RackAgent × SessionPeer σ × List (Exchanged (SessionPeer σ))) : Prop where
  boot_eq : s.1.boot = boot
  rack_eq : s.1.config.rack = rack
  session_boot : s.1.publication.next ≠ none →
    ∀ known, s.2.1.session.boot = some known → known = boot
  ahead : s.1.publication.next ≠ none →
    Ahead s.2.1.coordinator.canonical boot rack s.1.publication
  log : s.1.publication.next ≠ none → ∀ exchanged ∈ s.2.2, others.NotStale exchanged

/-- One exchange. -/
theorem exchange_of_ahead (halone : others.LeaveAlone boot rack) {peer : SessionPeer σ}
    {message : Incoming} {used later : PublicationGeneration}
    (hsends : Sends boot rack used message) (hadvances : message.Advances used later)
    (hahead : Ahead peer.coordinator.canonical boot rack used)
    (hsession : ∀ known, peer.session.boot = some known → known = boot) :
    Ahead ((sharedTransport ops digest others).exchange peer message).1.coordinator.canonical boot
        rack later ∧
      (∀ known, ((sharedTransport ops digest others).exchange peer message).1.session.boot =
        some known → known = boot) ∧
      others.NotStale
        ⟨peer, message, ((sharedTransport ops digest others).exchange peer message).2⟩ := by
  have hmet : Ahead (others.met peer).canonical boot rack used :=
    hahead.of_stamp (halone.stamp_eq _ _) (halone.fenced_eq _ _)
  cases hhandle : peer.session.handle ops digest (others.met peer) (others.queue peer.rounds)
      (others.readAt peer.rounds) (others.served peer.rounds) message with
  | none =>
    simp only [sharedTransport, hhandle]
    exact ⟨hahead.mono hadvances.le, hsession, fun _ hanswer => nomatch hanswer⟩
  | some turn =>
    have hturned := turned_handle hsends hmet hadvances hsession hhandle
    simp only [sharedTransport, hhandle]
    refine ⟨hturned.ahead, hturned.session_boot, fun reply hanswer => ?_⟩
    cases hreply : turn.reply with
    | none => simp [hreply] at hanswer
    | some answered =>
      simp only [hreply, Except.ok.injEq] at hanswer
      subst hanswer
      exact hturned.reply _ hreply

omit [StdSort] in
/-- The number that an agent takes is before the next, unless the counter saturates. -/
theorem advances_takePublication (message : Incoming)
    (h : agent.takePublication.publication.next ≠ none) :
    agent.publication.next ≠ none ∧
      message.Advances agent.publication agent.takePublication.publication := by
  cases hnext : agent.publication.next with
  | none =>
    have hsame : agent.takePublication.publication = agent.publication := by
      simp [RackAgent.takePublication, hnext]
    rw [hsame] at h
    exact absurd hnext h
  | some following =>
    have hpublication : agent.takePublication.publication = following := by
      simp [RackAgent.takePublication, hnext]
    have hlt : agent.publication < following :=
      Nat.lt_of_lt_of_eq (Nat.lt_succ_self _) (StrongCounter.next_eq_some.mp hnext).symm
    rw [hpublication]
    exact ⟨nofun, hlt.le, fun _ => hlt⟩

namespace Unchallenged

omit [StdSort] in
/-- Only the identity and the counter of the agent count. -/
theorem of_same (h : Unchallenged others boot rack (agent, peer))
    (hconfig : agent'.config = agent.config) (hboot : agent'.boot = agent.boot)
    (hpublication : agent'.publication = agent.publication) :
    Unchallenged others boot rack (agent', peer) where
  boot_eq := hboot.trans h.boot_eq
  rack_eq := (congrArg RackAgentConfig.rack hconfig).trans h.rack_eq
  session_boot hnext := h.session_boot (hpublication ▸ hnext)
  ahead := by
    intro hnext
    have hbefore := h.ahead (hpublication ▸ hnext)
    exact hpublication ▸ hbefore
  log hnext := h.log (hpublication ▸ hnext)

/-- A message under the number of the agent. -/
theorem exchange (halone : others.LeaveAlone boot rack)
    (h : Unchallenged others boot rack (agent, peer))
    (hsends : Sends boot rack agent.publication message) (hboot : agent'.boot = agent.boot)
    (hconfig : agent'.config = agent.config)
    (hadvances : agent'.publication.next ≠ none →
      agent.publication.next ≠ none ∧ message.Advances agent.publication agent'.publication) :
    Unchallenged others boot rack
      (agent', ((sharedTransport ops digest others).logged.exchange peer message).1) := by
  have hexchange (hnext : agent'.publication.next ≠ none) :=
    @exchange_of_ahead _ σ ops digest others boot rack halone peer.1 message _ _ hsends
      (hadvances hnext).2 (h.ahead (hadvances hnext).1) (h.session_boot (hadvances hnext).1)
  exact
    { boot_eq := hboot.trans h.boot_eq
      rack_eq := (congrArg RackAgentConfig.rack hconfig).trans h.rack_eq
      session_boot := fun hnext => (hexchange hnext).2.1
      ahead := fun hnext => (hexchange hnext).1
      log := by
        intro hnext exchanged hmem
        rcases List.mem_append.mp hmem with hold | hnew
        · exact h.log (hadvances hnext).1 exchanged hold
        · obtain rfl := List.mem_singleton.mp hnew
          exact (hexchange hnext).2.2 }

theorem callInvariant (halone : others.LeaveAlone boot rack) :
    CallInvariant (sharedTransport ops digest others).logged (Unchallenged others boot rack) where
  alike halike h := h.of_same halike.config_eq halike.boot_eq halike.publication_eq
  exchange := by
    intro agent peer message _ hutters h
    refine h.exchange halone ?_ rfl rfl (advances_takePublication message)
    rw [← h.boot_eq, ← h.rack_eq]
    exact hutters.sends

omit [StdSort] in
theorem recordFailure (failure : TransportFailure)
    (h : Unchallenged others boot rack (agent, peer)) :
    Unchallenged others boot rack (agent.recordFailure failure, peer) := h.of_same rfl rfl rfl

omit [StdSort] in
/-- A number may be taken without a message. -/
theorem takePublication (h : Unchallenged others boot rack (agent, peer)) :
    Unchallenged others boot rack (agent.takePublication, peer) where
  boot_eq := h.boot_eq
  rack_eq := h.rack_eq
  session_boot hnext := h.session_boot (advances_takePublication .unaccepted hnext).1
  ahead := by
    intro hnext
    obtain ⟨hbefore, hadvances⟩ := advances_takePublication .unaccepted hnext
    exact (h.ahead hbefore).mono hadvances.le
  log hnext := h.log (advances_takePublication .unaccepted hnext).1

omit [StdSort] in
/-- A message, sent or not. -/
theorem ask {ε : Type} {transport : Transport (SessionPeer σ × List (Exchanged (SessionPeer σ)))}
    (h : Unchallenged others boot rack (agent, peer))
    (hafter : Unchallenged others boot rack (agent, (transport.exchange peer message).1))
    (value : ErrorStage → RackAgent → ε) :
    Unchallenged others boot rack (Call.ask transport message value (agent, peer)).2 := by
  cases hready : agent.transportReady with
  | true => exact holds_question hready hafter (fun _ => recordFailure _) value
  | false =>
    rw [Call.ask, run_bind, run_get]
    simp only [hready, Bool.not_false, if_true]
    exact h.recordFailure _

/-- The greeting. -/
theorem keeps_handshake (halone : others.LeaveAlone boot rack) :
    Keeps (Unchallenged others boot rack)
      (RackAgent.handshake (sharedTransport ops digest others).logged) := by
  rintro ⟨agent, peer⟩ h
  have hafter : Unchallenged others boot rack (agent, ((sharedTransport ops digest
      others).logged.exchange peer (.hello (some agent.hello))).1) := by
    refine h.exchange halone (.hello h.boot_eq) rfl rfl fun hnext => ⟨hnext, le_refl _, ?_⟩
    exact fun hother => nomatch hother
  have hinvariant := @callInvariant _ σ ops digest others boot rack halone
  rw [RackAgent.handshake, run_agent_bind]
  refine holds_bind (h.ask hafter _) fun reply => ?_
  refine keeps_bind (hinvariant.keeps_expect _ _ _ _) fun ack => ?_
  iterate 3 refine keeps_ite (fun _ => hinvariant.keeps_failure _ _) fun _ => ?_
  exact fun _ hbefore => hbefore.of_same rfl rfl rfl

/-- The registration. -/
theorem keeps_register (halone : others.LeaveAlone boot rack) (sentAt : Timestamp) :
    Keeps (Unchallenged others boot rack)
      (RackAgent.register (sharedTransport ops digest others).logged sentAt) := by
  rintro ⟨agent, peer⟩ h
  have hafter : Unchallenged others boot rack (agent.takePublication,
      ((sharedTransport ops digest others).logged.exchange peer (.registerPublisher
        (some (agent.takePublication.registration agent.publication sentAt)))).1) :=
    h.exchange halone (.registration h.rack_eq rfl) rfl rfl (advances_takePublication _)
  have hinvariant := @callInvariant _ σ ops digest others boot rack halone
  rw [RackAgent.register, run_agent_bind, run_update_bind, run_agent_bind]
  refine holds_bind (h.takePublication.ask hafter _) fun reply => ?_
  refine keeps_bind (hinvariant.keeps_expect _ _ _ _) fun ack => ?_
  refine keeps_ite (fun _ => hinvariant.keeps_failure _ _) fun _ => ?_
  exact fun _ hbefore => hbefore.of_same rfl rfl rfl

/-- Connecting. -/
theorem connect (halone : others.LeaveAlone boot rack) (sentAt : Timestamp)
    {s : RackAgent × SessionPeer σ × List (Exchanged (SessionPeer σ))}
    (h : Unchallenged others boot rack s) :
    Unchallenged others boot rack
      (RackAgent.connect (sharedTransport ops digest others).logged sentAt s).2 := by
  obtain ⟨agent, peer⟩ := s
  suffices hbody : Unchallenged others boot rack (RackAgent.connectBody
      (sharedTransport ops digest others).logged sentAt (agent, peer)).2 by
    rw [RackAgent.connect]
    generalize RackAgent.connectBody _ sentAt (agent, peer) = out at hbody ⊢
    rcases out with ⟨_ | _, _⟩ <;> exact hbody
  by_cases hstopped : agent.stopped = true
  · rw [RackAgent.connectBody, run_agent_bind, if_pos hstopped]
    exact h.recordFailure _
  by_cases hreuse : agent.registered = true ∧ agent.handle = true
  · rw [RackAgent.connectBody, run_agent_bind, if_neg hstopped, if_pos hreuse]
    exact h
  obtain ⟨agent₁, hbody, hconfig, hboot, hpublication, -⟩ :=
    connectBody_new sentAt peer hstopped hreuse
  rw [hbody]
  refine holds_bind (keeps_handshake halone _ ?_) fun _ => keeps_register halone sentAt
  exact
    { h.of_same hconfig hboot hpublication with
      session_boot := by
        intro _ _ hknown
        cases hknown }

end Unchallenged

/-- **An agent alone on its rack is never refused as stale**, but for links and domains
that are recorded at a newer generation: after it connects, through any calls, with any
other writers that leave its rack and its incarnation alone. -/
theorem agent_not_stale (ops : PersistenceStore σ) (digest : ClusterState → Text)
    {others : Others σ} {config : RackAgentConfig} {boot : RackAgentBootId} {c : Coordinator σ}
    (halone : others.LeaveAlone boot config.rack)
    (hfenced : c.canonical.isBootFenced boot = false)
    (hunused : c.canonical.racks.All fun _ record => record.reference.boot ≠ boot)
    (sentAt : Timestamp) {calls : List AgentCall} (hcalls : ∀ call ∈ calls, call.OnSession)
    {agent : RackAgent} {peer : SessionPeer σ} {log : List (Exchanged (SessionPeer σ))}
    (hrun : runFrom (AgentCall.perform (sharedTransport ops digest others).logged)
      (.make config boot, { coordinator := c }, []) (.connect sentAt :: calls) = (agent, peer, log))
    (hbelow : agent.publication.next ≠ none) :
    ∀ exchanged ∈ log, others.NotStale exchanged := by
  have hstart : Unchallenged others boot config.rack
      (RackAgent.make config boot, { coordinator := c }, []) :=
    { boot_eq := rfl
      rack_eq := rfl
      session_boot := fun _ _ hknown => nomatch hknown
      ahead := fun _ => ⟨hfenced, fun record hfind hsame => absurd hsame (hunused _ record hfind)⟩
      log := fun _ _ hmem => nomatch hmem }
  have hconnected := @Unchallenged.connect _ σ ops digest others boot config.rack halone sentAt _
    hstart
  have hended : Unchallenged others boot config.rack (agent, peer, log) :=
    hrun ▸ (@Unchallenged.callInvariant _ σ ops digest others boot config.rack halone).run hcalls
      hconnected
  exact hended.log hbelow

end Runs

/-! ## An agent with two generations of a link -/

section Example

open scoped StdSort
open Coordinator

/-- Nobody else is there, and every message is served at once. -/
def unshared : Others (Option PersistedState) where
  act _ c := c
  queue _ := { running := true }
  readAt _ := ⟨9⟩
  served _ := some ⟨9⟩

theorem unshared_leaveAlone (boot : RackAgentBootId) (rack : RackId) :
    unshared.LeaveAlone boot rack := ⟨fun _ _ => rfl, fun _ _ => rfl⟩

/-- A cluster with the rack at the other end of the link. -/
def lone : Coordinator (Option PersistedState) :=
  sample [.submit declaration ⟨2⟩, .submit (publishedRack "r2" "b2") ⟨3⟩]

/-- The agent of `r1` connects to it under incarnation `b9` and makes some calls. -/
def loneRun (links : List InterRackLink) (calls : List AgentCall) :
    RackAgent × SessionPeer (Option PersistedState) ×
      List (Exchanged (SessionPeer (Option PersistedState))) :=
  runFrom (AgentCall.perform
      (sharedTransport cellStore.ops (fun _ => []) unshared).logged)
    (.make (joining links) (.named "b9"), { coordinator := lone }, []) (.connect ⟨4⟩ :: calls)

/-- The calls of an agent that publishes, is alive and supersedes its generation. -/
def loneCalls : List AgentCall :=
  [.publish ⟨5⟩, .heartbeat ⟨6⟩, .supersede (.fromRaw 2) ⟨7⟩ ⟨8⟩, .revalidate ⟨9⟩ ⟨9⟩]

/-- The same link at an older generation after a newer one. -/
def twoGenerations : List InterRackLink :=
  [{ interlink with header := { generation := .fromRaw 2 } }, interlink]

theorem lone_facts :
    (lone.canonical.isBootFenced (.named "b9") = false ∧
      ∀ record ∈ lone.canonical.racks.values, record.reference.boot ≠ .named "b9") ∧
    ((loneRun [] loneCalls).1.registered = true ∧
      (loneRun [] loneCalls).1.publication.next ≠ none ∧
      (loneRun [] loneCalls).2.2.length = 8) ∧
    (loneRun twoGenerations [.publish ⟨5⟩]).1.registered = true ∧
      (loneRun twoGenerations [.publish ⟨5⟩]).1.publication.next ≠ none ∧
      ((loneRun twoGenerations [.publish ⟨5⟩]).2.2.any fun exchanged =>
        match exchanged.answer with
        | .ok reply => reply.refusal == some .stalePublication
        | .error _ => false) = true := by
  decide +kernel

theorem lone_unused :
    lone.canonical.racks.All fun _ record => record.reference.boot ≠ .named "b9" :=
  fun _ record hfind => lone_facts.1.2 record (StdMap.mem_values_iff.mpr ⟨_, hfind⟩)

/-- Eight messages, and none of them is stale. -/
theorem lone_not_stale :
    (loneRun [] loneCalls).2.2.length = 8 ∧
      ∀ exchanged ∈ (loneRun [] loneCalls).2.2, unshared.NotStale exchanged := by
  have hcalls : ∀ call ∈ loneCalls, call.OnSession := by
    simp only [loneCalls, List.mem_cons, List.not_mem_nil, or_false]
    rintro _ (rfl | rfl | rfl | rfl)
    · exact .publish _
    · exact .heartbeat _
    · exact .supersede _ _ _
    · exact .revalidate _ _
  exact ⟨lone_facts.2.1.2.2, agent_not_stale cellStore.ops (fun _ => [])
    (unshared_leaveAlone (.named "b9") (joining []).rack) lone_facts.1.1 lone_unused ⟨4⟩ hcalls rfl
    lone_facts.2.1.2.1⟩

/-- The publication of the older generation is refused as stale, although the agent is
alone in the cluster with its rack, its link and its incarnation. -/
theorem older_link_stale :
    lone.canonical.isBootFenced (.named "b9") = false ∧
      (lone.canonical.racks.All fun _ record => record.reference.boot ≠ .named "b9") ∧
      (loneRun twoGenerations [.publish ⟨5⟩]).1.registered = true ∧
      (loneRun twoGenerations [.publish ⟨5⟩]).1.publication.next ≠ none ∧
      ∃ exchanged ∈ (loneRun twoGenerations [.publish ⟨5⟩]).2.2, ∃ reply,
        exchanged.answer = .ok reply ∧ reply.refusal = some .stalePublication := by
  obtain ⟨⟨hfenced, -⟩, -, hregistered, hbelow, hstale⟩ := lone_facts
  refine ⟨hfenced, lone_unused, hregistered, hbelow, ?_⟩
  obtain ⟨exchanged, hmem, hrefused⟩ := List.any_eq_true.mp hstale
  cases hanswer : exchanged.answer with
  | error failure => simp [hanswer] at hrefused
  | ok reply =>
    rw [hanswer] at hrefused
    exact ⟨exchanged, hmem, reply, hanswer, beq_iff_eq.mp hrefused⟩

end Example

end ClusterFabric
