import ClusterFabric.Verify.AgentCalls

/-! # What the calls of an agent keep

Every call between `connect` and `stop` is made of two kinds of steps: the agent takes a
number for a message and sends it, or it writes parts of itself that no message of the
protocol is checked by. A property of the agent and its peer that both kinds keep is
kept by every such call, on every path through it (`CallInvariant.run`).
-/

namespace ClusterFabric

open Lib
open Txn

variable {agent : RackAgent} {request : MutationRequest} {message : Incoming}

/-! ## Steps -/

/-- What an agent keeps while it sends nothing. A failure that was recorded is written
over by another one only. -/
structure RackAgent.Alike (agent agent' : RackAgent) : Prop where
  config_eq : agent'.config = agent.config
  boot_eq : agent'.boot = agent.boot
  publication_eq : agent'.publication = agent.publication
  handle_eq : agent'.handle = agent.handle
  registered_eq : agent'.registered = agent.registered
  stopped_eq : agent'.stopped = agent.stopped
  transport : agent'.status.transport = agent.status.transport ∨ agent'.status.transport ≠ .ok

/-- A request that an agent makes for itself, under a number. -/
structure RackAgent.Makes (agent : RackAgent) (used : PublicationGeneration)
    (request : MutationRequest) : Prop where
  boot : request.authority.boot = some agent.boot
  rack : request.authority.rack = some agent.config.rack
  publication : request.authority.publication = used
  reference_rack : request.rackReference.rack = agent.config.rack
  reference_boot : request.rackReference.boot = agent.boot
  reference_publication : request.rackReference.publication = used

/-- The messages that an agent sends once it is connected, each under the next number. -/
inductive RackAgent.Utters (agent : RackAgent) : Incoming → Prop
  | rack {request : MutationRequest} (hmakes : agent.Makes agent.publication request)
      (hkind : request.kind = .addRack ∨ request.kind = .updateRackGeneration) :
      Utters agent (.publishRequest (some request))
  | link {request : MutationRequest} {link : InterRackLink}
      (hmakes : agent.Makes agent.publication request)
      (hkind : request.kind = .publishInterRackLink) (hlink : request.link = some link)
      (hboot : link.boot = some agent.boot) (hpublication : link.publication = agent.publication) :
      Utters agent (.publishRequest (some request))
  | domain {request : MutationRequest} {k : DomainKind}
      (hmakes : agent.Makes agent.publication request) (hkind : request.kind.domainKind = some k) :
      Utters agent (.publishRequest (some request))
  | heartbeat (message : HeartbeatMessage) : Utters agent (.heartbeat (some message))
  | snapshot (cluster : ClusterId) : Utters agent (.snapshotRequest (some cluster))
  | validation (view : SnapshotView) : Utters agent (.validateSnapshotRequest (some view))
  | revalidation {message : RevalidateRequestMessage}
      (hboot : message.authority.boot = some agent.boot)
      (hpublication : message.authority.publication = agent.publication)
      (hracks : message.racks = [agent.config.rack]) :
      Utters agent (.revalidateRequest (some message))

namespace RackAgent

theorem Alike.ready {agent' : RackAgent} (h : agent.Alike agent') :
    agent'.transportReady = agent.transportReady := by
  rw [transportReady, transportReady, h.handle_eq, h.stopped_eq]

theorem alike_recordRejection (agent : RackAgent) (reason : RejectionReason) (detail : Text) :
    agent.Alike (agent.recordRejection reason detail) := ⟨rfl, rfl, rfl, rfl, rfl, rfl, .inl rfl⟩

theorem alike_recordFailure (agent : RackAgent) (failure : TransportFailure) :
    agent.Alike (agent.recordFailure failure) :=
  ⟨rfl, rfl, rfl, rfl, rfl, rfl, .inr failure.transport_ne_ok⟩

theorem alike_observe (agent : RackAgent) (result : MutationResult) :
    agent.Alike (agent.observe result) := ⟨rfl, rfl, rfl, rfl, rfl, rfl, .inl rfl⟩

theorem alike_cleared (agent : RackAgent) (result : MutationResult) :
    agent.Alike (agent.observe result).clearRejection := ⟨rfl, rfl, rfl, rfl, rfl, rfl, .inl rfl⟩

/-- The entry into a state, with the part of an answer that no message is checked by. -/
theorem alike_enter (agent : RackAgent) (state : RackAgentState) (lifecycle : ClusterLifecycle) :
    agent.Alike { agent with lifecycle := lifecycle, status.state := state } :=
  ⟨rfl, rfl, rfl, rfl, rfl, rfl, .inl rfl⟩

theorem alike_state (agent : RackAgent) (state : RackAgentState) :
    agent.Alike { agent with status.state := state } := ⟨rfl, rfl, rfl, rfl, rfl, rfl, .inl rfl⟩

end RackAgent

/-- The calls that an agent makes on a session. -/
inductive AgentCall.OnSession : AgentCall → Prop
  | publish (observedAt : Timestamp) : OnSession (.publish observedAt)
  | supersede (newGeneration : RackGeneration) (observedAt republishedAt : Timestamp) :
      OnSession (.supersede newGeneration observedAt republishedAt)
  | revalidate (observedAt republishedAt : Timestamp) :
      OnSession (.revalidate observedAt republishedAt)
  | heartbeat (sentAt : Timestamp) : OnSession (.heartbeat sentAt)
  | requestSnapshot : OnSession .requestSnapshot
  | validateSnapshot (view : SnapshotView) : OnSession (.validateSnapshot view)

/-- A property of an agent and its peer that both kinds of steps keep. -/
structure CallInvariant {π : Type} (transport : Transport π) (P : RackAgent × π → Prop) :
    Prop where
  alike : ∀ {agent agent' : RackAgent} {peer : π}, agent.Alike agent' → P (agent, peer) →
    P (agent', peer)
  exchange : ∀ {agent : RackAgent} {peer : π} {message : Incoming}, agent.transportReady = true →
    agent.Utters message → P (agent, peer) →
    P (agent.takePublication, (transport.exchange peer message).1)

/-- The property, of an agent that can send. -/
def Live {π : Type} (P : RackAgent × π → Prop) (s : RackAgent × π) : Prop :=
  P s ∧ s.1.transportReady = true

/-! ## Parts of a call -/

section Parts

variable {π ε α : Type} {transport : Transport π} {P : RackAgent × π → Prop} {peer : π}

/-- A message of an agent that can send. -/
theorem holds_question (hready : agent.transportReady = true)
    (hafter : P (agent, (transport.exchange peer message).1))
    (hfailure : ∀ failure, P (agent, (transport.exchange peer message).1) →
      P (agent.recordFailure failure, (transport.exchange peer message).1))
    (value : ErrorStage → RackAgent → ε) :
    P (Call.ask transport message value (agent, peer)).2 := by
  rcases hexchange : transport.exchange peer message with ⟨peer', failure | reply⟩ <;>
    rw [hexchange] at hafter hfailure <;>
    simp only [Call.ask, run_bind, run_get, hexchange, hready, Bool.not_true, Bool.false_eq_true,
      if_false]
  · exact hfailure failure hafter
  · cases reply with
    | error error => exact hfailure _ hafter
    | _ => exact hafter

theorem keeps_agent : Keeps P (Call.agent : Call π ε RackAgent) := fun _ h => h

namespace CallInvariant

variable (h : CallInvariant transport P)

include h

/-- The steps keep the connection, so that it may be assumed between them. -/
theorem live : CallInvariant transport (Live P) where
  alike halike hlive := ⟨h.alike halike hlive.1, halike.ready.trans hlive.2⟩
  exchange hready hutters hlive := ⟨h.exchange hready hutters hlive.1, hready⟩

theorem keeps_update {f : RackAgent → RackAgent} (hf : ∀ agent : RackAgent, agent.Alike (f agent)) :
    Keeps P (Call.update f : Call π ε Unit) :=
  fun _ hP => h.alike (hf _) hP

theorem keeps_failure (failure : TransportFailure) (value : RackAgent → ε) :
    Keeps P (Call.giveUp failure value : Call π ε α) :=
  fun _ hP => h.alike (RackAgent.alike_recordFailure _ failure) hP

theorem keeps_expect (expected : MessageType) (message : Option α) (reply : Reply)
    (value : ErrorStage → RackAgent → ε) :
    Keeps P (Call.expect expected message reply value : Call π ε α) := by
  unfold Call.expect
  split
  · exact keeps_pure
  · exact h.keeps_failure _ _

/-- A call of an agent that cannot send gives up. -/
theorem keeps_ready {value : RackAgent → ε} {body : RackAgent → Call π ε α}
    (hbody : ∀ agent peer, agent.transportReady = true → P (agent, peer) →
      P (body agent (agent, peer)).2) :
    Keeps P (do
      let agent₀ ← Call.agent
      if !agent₀.transportReady then Call.giveUp .notConnected value else body agent₀) := by
  rintro ⟨agent, peer⟩ hP
  rw [run_agent_bind]
  cases hready : agent.transportReady with
  | false => exact h.keeps_failure _ _ _ hP
  | true => exact hbody agent peer hready hP

/-- A message that is sent under the number that was taken for it. -/
theorem holds_ask (hready : agent.transportReady = true) (hutters : agent.Utters message)
    (hP : P (agent, peer)) (value : ErrorStage → RackAgent → ε) :
    P (Call.ask transport message value (agent.takePublication, peer)).2 := by
  have hready' : agent.takePublication.transportReady = true := hready
  refine holds_question hready' (h.exchange hready hutters hP) (fun failure hafter => ?_) value
  exact h.alike (RackAgent.alike_recordFailure _ failure) hafter

theorem holds_submitRequest (hready : agent.transportReady = true)
    (hutters : agent.Utters (.publishRequest (some request))) (hP : P (agent, peer)) :
    P (RackAgent.submitRequest transport request (agent.takePublication, peer)).2 :=
  holds_bind (h.holds_ask hready hutters hP _) fun _ => h.keeps_expect _ _ _ _

theorem holds_attempt (hready : agent.transportReady = true)
    (hutters : agent.Utters (.publishRequest (some request))) (hP : P (agent, peer))
    (recorded : Bool) :
    P (RackAgent.attempt transport recorded request (agent.takePublication, peer)).2 := by
  refine holds_bind (h.holds_submitRequest hready hutters hP) fun result => ?_
  refine keeps_ite (fun _ => ?_) fun _ => ?_
  · exact keeps_bind (h.keeps_update fun agent => agent.alike_observe result) fun _ => keeps_pure
  · refine keeps_bind (keeps_when (h.keeps_update fun agent => ?_)) fun _ => keeps_pure
    exact agent.alike_recordRejection _ _

/-- What the requests of a loop keep, the loop keeps. -/
theorem keeps_loop {request : RackAgent → PublicationGeneration → α → MutationRequest}
    {configured : List α}
    (hutters : ∀ (agent : RackAgent) a, agent.Utters
      (.publishRequest (some (request agent.takePublication agent.publication a))))
    (recorded : Bool) :
    Keeps (Live P) (RackAgent.publishEach transport request configured recorded) := by
  induction configured generalizing recorded with
  | nil => exact keeps_pure
  | cons a rest ih =>
    rintro ⟨agent, peer⟩ hlive
    rw [RackAgent.publishEach, run_agent_bind, run_update_bind, run_agent_bind]
    exact holds_bind (h.live.holds_attempt hlive.2 (hutters agent a) hlive recorded) ih

/-- A rejection that is recorded and returned. -/
theorem keeps_rejected (reason : RejectionReason) (detail : Text) (result : MutationResult) :
    Keeps P (do
      Call.update (·.recordRejection reason detail)
      Call.update fun agent =>
        { agent with status.state := if agent.registered then .ready else agent.status.state }
      exit result : Call π MutationResult MutationResult) := by
  refine keeps_bind (h.keeps_update fun agent => agent.alike_recordRejection _ _) fun _ => ?_
  exact keeps_bind (h.keeps_update fun agent => agent.alike_state _) fun _ => keeps_exit

end CallInvariant

end Parts

/-! ## Calls -/

namespace RackAgent

variable [StdSort]

theorem makes_makeRequest (agent : RackAgent) (kind : MutationKind) (observedAt : Timestamp) :
    agent.Makes agent.publication
      (agent.takePublication.makeRequest kind agent.publication observedAt) :=
  ⟨rfl, rfl, rfl, rfl, rfl, rfl⟩

theorem utters_link (observedAt : Timestamp) (agent : RackAgent) (configured : InterRackLink) :
    agent.Utters (.publishRequest (some
      (linkRequest observedAt agent.takePublication agent.publication configured))) :=
  .link ⟨rfl, rfl, rfl, rfl, rfl, rfl⟩ rfl rfl rfl rfl

theorem utters_domain {kind : MutationKind} {k : DomainKind} (hkind : kind.domainKind = some k)
    (observedAt : Timestamp) (agent : RackAgent) (configured : Domain k) :
    agent.Utters (.publishRequest (some
      (domainRequest kind k observedAt agent.takePublication agent.publication configured))) :=
  .domain ⟨rfl, rfl, rfl, rfl, rfl, rfl⟩ hkind

end RackAgent

namespace CallInvariant

variable [StdSort] {π : Type} {transport : Transport π} {P : RackAgent × π → Prop}
  (h : CallInvariant transport P)

include h

theorem keeps_publishTopology (observedAt : Timestamp) :
    Keeps (Live P) (RackAgent.publishTopology transport observedAt) := by
  refine keeps_bind keeps_agent fun agent => ?_
  refine keeps_bind (h.keeps_loop (RackAgent.utters_link observedAt) _) fun recorded => ?_
  refine keeps_bind (h.keeps_loop (RackAgent.utters_domain rfl observedAt) _) fun recorded => ?_
  exact keeps_bind (h.keeps_loop (RackAgent.utters_domain rfl observedAt) _) fun _ => keeps_pure

theorem keeps_publishBody (observedAt : Timestamp) :
    Keeps P (RackAgent.publishBody transport observedAt) := by
  unfold RackAgent.publishBody
  refine h.keeps_ready fun agent peer hready hP => ?_
  cases agent.exceededBound with
  | some detail => exact h.alike (agent.alike_recordRejection _ _) hP
  | none =>
    have hlive := h.live.alike (agent.alike_state .publishing) ⟨hP, hready⟩
    dsimp only
    rw [run_update_bind]
    generalize { agent with status.state := .publishing : RackAgent } = agent₁ at hlive ⊢
    rw [run_agent_bind, run_update_bind, run_agent_bind]
    have hutters := RackAgent.Utters.rack (agent₁.makes_makeRequest .addRack observedAt) (.inl rfl)
    refine (holds_bind (h.live.holds_submitRequest hlive.2 hutters hlive) fun result => ?_).1
    refine keeps_ite (fun _ => h.live.keeps_rejected _ _ _) fun _ => ?_
    refine keeps_bind (h.live.keeps_update fun agent => agent.alike_cleared result) fun _ => ?_
    refine keeps_bind keeps_agent fun agent₂ => ?_
    refine keeps_bind (keeps_when ?_) fun _ => ?_
    · refine keeps_bind (h.keeps_publishTopology observedAt) fun done => ?_
      cases done with
      | ok _ => exact keeps_pure
      | error _ =>
        exact keeps_bind (h.live.keeps_update fun agent => agent.alike_state _)
          fun _ => keeps_exit
    · exact keeps_bind (h.live.keeps_update fun agent => agent.alike_state _)
        fun _ => keeps_pure

theorem keeps_republish (observedAt : Timestamp) :
    Keeps P (RackAgent.republish transport observedAt) := by
  refine keeps_bind (h.keeps_publishBody observedAt) fun _ => ?_
  exact keeps_when (h.keeps_update fun agent => agent.alike_recordRejection _ _)

theorem keeps_supersedeBody (newGeneration : RackGeneration)
    (observedAt republishedAt : Timestamp) :
    Keeps P (RackAgent.supersedeBody transport newGeneration observedAt republishedAt) := by
  unfold RackAgent.supersedeBody
  refine h.keeps_ready fun agent peer hready hP => ?_
  have hlive := h.live.alike (agent.alike_state .publishing) ⟨hP, hready⟩
  rw [run_update_bind]
  generalize { agent with status.state := .publishing : RackAgent } = agent₁ at hlive ⊢
  rw [run_agent_bind, run_update_bind, run_agent_bind]
  refine holds_bind (h.holds_submitRequest hlive.2 (.rack ?_ (.inr rfl)) hlive.1) fun result => ?_
  · exact ⟨rfl, rfl, rfl, rfl, rfl, rfl⟩
  · refine keeps_ite (fun _ => h.keeps_rejected _ _ _) fun _ => ?_
    refine keeps_bind (h.keeps_update fun agent => ?_) fun _ => ?_
    · exact ⟨rfl, rfl, rfl, rfl, rfl, rfl, .inl rfl⟩
    · exact keeps_bind (h.keeps_republish republishedAt) fun _ => keeps_pure

theorem keeps_revalidateBody (observedAt republishedAt : Timestamp) :
    Keeps P (RackAgent.revalidateBody transport observedAt republishedAt) := by
  unfold RackAgent.revalidateBody
  refine h.keeps_ready fun agent peer hready hP => ?_
  have hlive := h.live.alike (agent.alike_state .publishing) ⟨hP, hready⟩
  rw [run_update_bind]
  generalize { agent with status.state := .publishing : RackAgent } = agent₁ at hlive ⊢
  rw [run_agent_bind, run_update_bind, run_agent_bind]
  refine holds_bind (h.holds_ask hlive.2 (.revalidation rfl rfl rfl) hlive.1 _) fun reply => ?_
  refine keeps_bind (h.keeps_expect _ _ _ _) fun response => ?_
  refine keeps_ite (fun _ => h.keeps_rejected _ _ _) fun _ => ?_
  refine keeps_bind (h.keeps_update fun agent => agent.alike_enter _ _) fun _ => ?_
  refine keeps_bind keeps_agent fun agent₂ => ?_
  exact keeps_bind (h.keeps_republish republishedAt) fun _ => keeps_pure

theorem keeps_heartbeatBody (sentAt : Timestamp) :
    Keeps P (RackAgent.heartbeatBody transport sentAt) := by
  unfold RackAgent.heartbeatBody
  refine h.keeps_ready fun agent peer hready hP => ?_
  rw [run_update_bind, run_agent_bind]
  refine holds_bind (h.holds_ask hready (.heartbeat _) hP _) fun reply => ?_
  refine keeps_bind (h.keeps_expect _ _ _ _) fun ack => ?_
  refine keeps_ite (fun _ => ?_) fun _ => ?_
  · exact keeps_bind (h.keeps_update fun agent => agent.alike_recordRejection _ _)
      fun _ => keeps_exit
  · refine keeps_bind (h.keeps_update fun agent => ?_) fun _ => ?_
    · exact ⟨rfl, rfl, rfl, rfl, rfl, rfl, .inl rfl⟩
    · exact keeps_bind keeps_agent fun _ => keeps_pure

omit [StdSort] in
theorem keeps_requestSnapshotBody : Keeps P (RackAgent.requestSnapshotBody transport) := by
  unfold RackAgent.requestSnapshotBody
  refine h.keeps_ready fun agent peer hready hP => ?_
  rw [run_update_bind]
  refine holds_bind (h.holds_ask hready (.snapshot _) hP _) fun reply => ?_
  refine keeps_bind (h.keeps_expect _ _ _ _) fun response => ?_
  split_ifs
  · exact keeps_bind (h.keeps_update fun agent => ⟨rfl, rfl, rfl, rfl, rfl, rfl, .inl rfl⟩)
      fun _ => keeps_pure
  · exact keeps_bind (h.keeps_update fun agent => agent.alike_recordRejection _ _)
      fun _ => keeps_pure

omit [StdSort] in
theorem keeps_validateSnapshotBody (view : SnapshotView) :
    Keeps P (RackAgent.validateSnapshotBody transport view) := by
  unfold RackAgent.validateSnapshotBody
  refine h.keeps_ready fun agent peer hready hP => ?_
  rw [run_update_bind]
  refine holds_bind (h.holds_ask hready (.validation _) hP _) fun reply => ?_
  exact h.keeps_expect _ _ _ _

/-- **What the steps keep, every call between `connect` and `stop` keeps.** -/
theorem perform {call : AgentCall} (hcall : call.OnSession) {s : RackAgent × π} (hP : P s) :
    P (call.perform transport s) := by
  cases hcall with
  | publish observedAt =>
    have hkept := h.keeps_publishBody observedAt s hP
    rw [AgentCall.perform, RackAgent.publish]
    generalize RackAgent.publishBody transport observedAt s = out at hkept ⊢
    rcases out with ⟨_ | _, _⟩ <;> exact hkept
  | supersede newGeneration observedAt republishedAt =>
    exact h.keeps_supersedeBody newGeneration observedAt republishedAt s hP
  | revalidate observedAt republishedAt =>
    exact h.keeps_revalidateBody observedAt republishedAt s hP
  | heartbeat sentAt => exact h.keeps_heartbeatBody sentAt s hP
  | requestSnapshot => exact h.keeps_requestSnapshotBody s hP
  | validateSnapshot view => exact h.keeps_validateSnapshotBody view s hP

/-- The same of any number of such calls. -/
theorem run {calls : List AgentCall} (hcalls : ∀ call ∈ calls, call.OnSession)
    {s : RackAgent × π} (hP : P s) : P (runFrom (AgentCall.perform transport) s calls) :=
  runFrom_invariant_along _ (fun _ _ hP hcall => h.perform hcall hP) hP
    (along_of_forall _ hcalls)

end CallInvariant

/-! ## Logs -/

/-- An exchange, with the peer before it. -/
structure Exchanged (π : Type) where
  before : π
  message : Incoming
  answer : Except TransportFailure Reply

/-- The transport with a log of its exchanges. -/
def Transport.logged {π : Type} (transport : Transport π) :
    Transport (π × List (Exchanged π)) where
  dial := fun (peer, log) =>
    let (peer, failure) := transport.dial peer
    ((peer, log), failure)
  exchange := fun (before, log) message =>
    let (peer, answer) := transport.exchange before message
    ((peer, log ++ [⟨before, message, answer⟩]), answer)

/-- Why a reply refuses what it was asked for. -/
def Reply.refusal : Reply → Option RejectionReason
  | .helloAck message => if message.accepted then none else some message.reason
  | .registerAck message => if message.accepted then none else some message.reason
  | .publishResult result => if result.isAccepted then none else some result.reason
  | .heartbeatAck message => if message.accepted then none else some message.reason
  | .snapshotResponse message => if message.accepted then none else some message.reason
  | .revalidateResponse message => if message.accepted then none else some message.reason
  | .validateSnapshotResponse _ => none
  | .error _ => none

end ClusterFabric
