import ClusterFabric.Model.Agent
import ClusterFabric.Verify.Resubmission

/-! # Calls of an agent to a coordinator

What the coordinator answers to the messages of an agent, and what `connect` comes to
when the rack is recorded under the publisher of the agent: the handshake tells the
current epochs, and the registration changes nothing (`connect_of_owned`).
-/

namespace ClusterFabric

open Lib
open Txn

variable {request : MutationRequest} {α : Type} {record : RackRecord} {message : Incoming}
  {reply : Reply} {result : MutationResult} {observedAt : Timestamp} {a : α} {agent₁ : RackAgent}

/-! ## Requests that change nothing -/

section Requests

variable [StdSort] {σ : Type} (ops : PersistenceStore σ)

omit [StdSort] in
/-- The owner of a recorded rack registers again, at a generation that is not older. -/
theorem exits_applyRegisterPublisher {ctx : ApplyContext} {publisher : RackPublisherId}
    {generation : RackGeneration} (hnamed : request.targetRack.isEmpty = false)
    (hretired : ctx.state.isRackRetired request.targetRack = false)
    (hpublisher : request.authority.publisher = some publisher)
    (hgeneration : request.authority.rackGeneration = some generation)
    (hfind : ctx.state.racks.find? request.targetRack = some record)
    (howner : record.reference.publisher = some publisher)
    (hnewer : ¬ generation < record.reference.generation) :
    ExitsWith (· = acceptedNoChange "rack publisher already registered")
      (applyRegisterPublisher request) ctx := by
  refine exitsWith_get_bind ?_
  refine exitsWith_exitIf_bind (fun hempty => absurd hempty (by simp [hnamed])) fun _ => ?_
  refine exitsWith_exitIf_bind (fun hlisted => absurd hlisted (by simp [hretired])) fun _ => ?_
  refine exitsWith_ofOption_bind hpublisher ?_
  simp only [hfind, reRegister]
  refine (checks_forSome fun _ => checks_exitIf).exitsWith_bind ?_ ?_
  · intro owner hrecorded
    obtain rfl := Option.some.inj (howner.symm.trans hrecorded)
    exact not_not.mpr rfl
  · refine (checks_forSome fun _ => checks_exitIf).exitsWith_bind ?_ (exitsWith_exit rfl)
    intro claimed hclaimed
    obtain rfl := Option.some.inj (hgeneration.symm.trans hclaimed)
    exact fun hstale => hnewer hstale.2

end Requests

/-! ## Exchanges -/

section Exchanges

variable [StdSort] {σ : Type} (ops : PersistenceStore σ) (digest : ClusterState → Text)
  (clock : Nat → Timestamp × Timestamp)

/-- The answer to a HELLO that is accepted. -/
def welcome (c : Coordinator σ) : HelloAckMessage where
  cluster := c.config.cluster
  accepted := true
  coordinatorEpoch := c.canonical.coordinatorEpoch
  clusterEpoch := c.canonical.epoch
  topologyEpoch := c.canonical.topologyEpoch
  topologyGeneration := c.canonical.topologyGeneration
  lifecycle := c.canonical.lifecycle

variable {ops digest clock} {peer : SessionPeer σ}

theorem exchange_hello (hopen : peer.session.ended = false) {message : HelloMessage}
    (hversion : message.protocolVersion = protocolVersion)
    (hcluster : message.cluster = peer.coordinator.config.cluster) :
    (sessionTransport ops digest clock).exchange peer (.hello (some message)) =
      ({ peer with
          session := { peer.session with boot := some message.boot, handshakeDone := true }
          rounds := peer.rounds + 1 },
        .ok (.helloAck (welcome peer.coordinator))) := by
  have hrefusal : Session.helloRefusal peer.coordinator.config (some message) = none := by
    simp [Session.helloRefusal, hversion, hcluster]
  simp [sessionTransport, Session.handle, hopen, Incoming.isHello, Session.serve, Session.greet,
    Session.helloBoot, hrefusal, welcome]

/-- Nothing else is queued, so that a request is served at once. -/
theorem deliver_idle (c : Coordinator σ) (request : MutationRequest) (now : Timestamp) :
    CommitQueue.deliver ops { running := true } c request (some now) =
      c.applyAndCommit ops request now := by
  simp [CommitQueue.deliver, CommitQueue.submit, maxPendingRequests]

theorem exchange_register (hopen : peer.session.ended = false)
    (hshake : peer.session.handshakeDone = true) {message : RegisterPublisherMessage}
    (hrequest : peer.session.registration message (clock peer.rounds).1 = some request) :
    (sessionTransport ops digest clock).exchange peer (.registerPublisher (some message)) =
      ({ peer with
          coordinator := (peer.coordinator.applyAndCommit ops request (clock peer.rounds).2).1
          session :=
            if (peer.coordinator.applyAndCommit ops request (clock peer.rounds).2).2.isAccepted then
              { peer.session with racks := peer.session.racks ++ [message.rack] }
            else peer.session
          rounds := peer.rounds + 1 },
        .ok (.registerAck (Session.registerAck
          (peer.coordinator.applyAndCommit ops request (clock peer.rounds).2).2))) := by
  simp [sessionTransport, Session.handle, hopen, hshake, Incoming.isHello, Session.serve, hrequest,
    deliver_idle]

theorem exchange_publish (hopen : peer.session.ended = false)
    (hshake : peer.session.handshakeDone = true) (request : MutationRequest) :
    (sessionTransport ops digest clock).exchange peer (.publishRequest (some request)) =
      ({ peer with
          coordinator := (peer.coordinator.applyAndCommit ops (peer.session.publication request)
            (clock peer.rounds).2).1
          rounds := peer.rounds + 1 },
        .ok (.publishResult (peer.coordinator.applyAndCommit ops (peer.session.publication request)
          (clock peer.rounds).2).2)) := by
  simp [sessionTransport, Session.handle, hopen, hshake, Incoming.isHello, Session.serve,
    deliver_idle]

end Exchanges

/-! ## Calls -/

section Calls

variable {π ε : Type} {transport : Transport π} {agent : RackAgent} {peer peer' : π}

theorem run_agent : (Call.agent : Call π ε RackAgent) (agent, peer) = (.ok agent, agent, peer) :=
  rfl

theorem run_update (f : RackAgent → RackAgent) :
    (Call.update f : Call π ε Unit) (agent, peer) = (.ok (), f agent, peer) := rfl

theorem run_agent_bind (f : RackAgent → Call π ε α) :
    (Call.agent >>= f) (agent, peer) = f agent (agent, peer) := rfl

theorem run_update_bind (g : RackAgent → RackAgent) (f : Unit → Call π ε α) :
    (Call.update g >>= f) (agent, peer) = f () (g agent, peer) := rfl

/-- An exchange with a reply that is not an error frame. -/
theorem run_ask (hready : agent.transportReady = true)
    (hexchange : transport.exchange peer message = (peer', .ok reply))
    (hreply : ∀ error, reply ≠ .error error) (value : ErrorStage → RackAgent → ε) :
    Call.ask transport message value (agent, peer) = (.ok reply, agent, peer') := by
  cases reply with
  | error error => exact absurd rfl (hreply error)
  | _ => simp [Call.ask, run_bind, run_get, run_modify, run_pure, hready, hexchange]

theorem run_submitRequest (hready : agent.transportReady = true)
    (hexchange : transport.exchange peer (.publishRequest (some request)) =
      (peer', .ok (.publishResult result))) :
    RackAgent.submitRequest transport request (agent, peer) = (.ok result, agent, peer') := by
  rw [RackAgent.submitRequest, run_bind, run_ask hready hexchange nofun]
  rfl

end Calls

/-! ## Connecting -/

/-- An agent that was greeted by a coordinator and knows its epochs. -/
structure Greeted {σ : Type} (config : RackAgentConfig) (boot : RackAgentBootId)
    (agent : RackAgent) (peer : SessionPeer σ) : Prop where
  config_eq : agent.config = config
  boot_eq : agent.boot = boot
  generation_eq : agent.generation = config.generation
  clusterEpoch_eq : agent.status.clusterEpoch = peer.coordinator.canonical.epoch
  coordinatorEpoch_eq : agent.status.coordinatorEpoch = peer.coordinator.canonical.coordinatorEpoch
  ready : agent.transportReady = true
  session_boot : peer.session.boot = some boot
  handshakeDone : peer.session.handshakeDone = true
  opened : peer.session.ended = false

/-- The same of an agent that is registered as well. -/
structure Attached {σ : Type} (config : RackAgentConfig) (boot : RackAgentBootId)
    (agent : RackAgent) (peer : SessionPeer σ) : Prop extends Greeted config boot agent peer where
  registered : agent.registered = true

section Connecting

variable [StdSort] {σ : Type} {ops : PersistenceStore σ} {digest : ClusterState → Text}
  {clock : Nat → Timestamp × Timestamp} {c : Coordinator σ} {config : RackAgentConfig}
  {boot : RackAgentBootId}

/-- The rack of a configuration is recorded under its publisher, at a generation that is
not newer than the configured one, and may be written. -/
structure Owned (c : Coordinator σ) (config : RackAgentConfig) (record : RackRecord) : Prop where
  cluster_eq : config.cluster = c.config.cluster
  id_eq : config.cluster = c.canonical.id
  find_eq : c.canonical.racks.find? config.rack = some record
  named : config.rack.isEmpty = false
  notRetired : c.canonical.isRackRetired config.rack = false
  publisher_eq : record.reference.publisher = some config.publisher
  generation_le : ¬ config.generation < record.reference.generation
  accepts : acceptsMutations c.canonical.lifecycle = true

/-- A request under the epochs of the coordinator passes the common gate. -/
theorem Owned.currentAuthority (h : Owned c config record) (hhealthy : Healthy c.canonical)
    (hcluster : request.cluster = config.cluster)
    (hepoch : request.authority.clusterEpoch = c.canonical.epoch)
    (hcoordinator : request.authority.coordinatorEpoch = c.canonical.coordinatorEpoch) :
    CurrentAuthority c.canonical request where
  cluster_eq := hcluster.trans h.id_eq
  declared := hhealthy.scalars.epoch
  clusterEpoch_eq := hepoch
  coordinatorEpoch_eq := hcoordinator
  accepts := h.accepts

theorem Owned.cluster_valid (h : Owned c config record) (hhealthy : Healthy c.canonical) :
    config.cluster.isValid = true := by
  have hid := hhealthy.scalars.id_nonempty
  rw [StrongId.isEmpty_eq_not_isValid, Bool.not_eq_false'] at hid
  rw [h.id_eq, hid]

/-- The registration of a recorded rack changes nothing. -/
theorem exits_registration (h : Owned c config record) (hhealthy : Healthy c.canonical)
    (now : Timestamp) (hkind : request.kind = .registerRackPublisher)
    (hcluster : request.cluster = config.cluster)
    (hepoch : request.authority.clusterEpoch = c.canonical.epoch)
    (hcoordinator : request.authority.coordinatorEpoch = c.canonical.coordinatorEpoch)
    (hrack : request.authority.rack = some config.rack)
    (hpublisher : request.authority.publisher = some config.publisher)
    (hgeneration : request.authority.rackGeneration = some config.generation) :
    ExitsWith (· = acceptedNoChange "rack publisher already registered")
      (applyRequest request) (c.startContext now) := by
  have htarget : request.targetRack = config.rack := by
    rw [MutationRequest.targetRack, hrack]
    rfl
  have hcommon : Ends (validateCommon request) (c.startContext now) () (c.startContext now) := by
    refine ends_validateCommon (hcluster ▸ h.cluster_valid hhealthy) ?_ ?_
      (h.currentAuthority hhealthy hcluster hepoch hcoordinator)
    · simp [hkind]
    · simp [hkind]
  refine hcommon.exitsWith_bind ?_
  rw [applyKind, hkind]
  refine exits_applyRegisterPublisher ?_ ?_ hpublisher hgeneration ?_ h.publisher_eq h.generation_le
  · rw [htarget]
    exact h.named
  · rw [htarget]
    exact h.notRetired
  · rw [htarget]
    exact h.find_eq

omit [StdSort] in
/-- An epoch that an answer repeats. -/
theorem adopted {tag : CounterTag} {told known epoch : StrongCounter tag} (htold : told = epoch)
    (hknown : known = epoch) : (if told.known then told else known) = epoch := by
  split_ifs
  · exact htold
  · exact hknown

/-- The handshake tells the epochs. -/
theorem run_handshake {agent : RackAgent} {peer : SessionPeer σ}
    (hhealthy : Healthy peer.coordinator.canonical)
    (hcluster : agent.config.cluster = peer.coordinator.config.cluster)
    (hgeneration : agent.generation = agent.config.generation)
    (hready : agent.transportReady = true) (hopen : peer.session.ended = false) :
    ∃ agent' peer', RackAgent.handshake (sessionTransport ops digest clock) (agent, peer) =
        (.ok (), agent', peer') ∧
      Greeted agent.config agent.boot agent' peer' ∧ peer'.coordinator = peer.coordinator := by
  have hexchange := @exchange_hello _ σ ops digest clock peer hopen agent.hello rfl hcluster
  have hagrees : ¬(welcome peer.coordinator).cluster ≠ agent.config.cluster :=
    not_not.mpr hcluster.symm
  have haccepted : (welcome peer.coordinator).accepted = true := rfl
  have hversion : (welcome peer.coordinator).protocolVersion = protocolVersion := rfl
  rw [RackAgent.handshake, run_bind, run_agent]
  dsimp only
  rw [run_bind, run_ask hready hexchange nofun]
  simp only [Call.expect, Reply.helloAckMessage, run_bind, run_pure, run_update, haccepted,
    hversion, hagrees, Bool.not_true, Bool.false_eq_true, if_false, ne_eq, not_true_eq_false]
  refine ⟨_, _, rfl, ?_, rfl⟩
  exact
    { config_eq := rfl
      boot_eq := rfl
      generation_eq := hgeneration
      clusterEpoch_eq := if_pos hhealthy.scalars.epoch
      coordinatorEpoch_eq := if_pos hhealthy.scalars.coordinatorEpoch
      ready := hready
      session_boot := rfl
      handshakeDone := rfl
      opened := hopen }

/-- The registration of a recorded rack is answered, and the agent is attached. -/
theorem run_register {agent : RackAgent} {peer : SessionPeer σ}
    (h : Owned peer.coordinator config record) (hhealthy : Healthy peer.coordinator.canonical)
    (hgreeted : Greeted config boot agent peer) (sentAt : Timestamp) :
    ∃ agent' peer', RackAgent.register (sessionTransport ops digest clock) sentAt (agent, peer) =
        (.ok (), agent', peer') ∧
      Attached config boot agent' peer' ∧ peer.coordinator.Unmoved peer'.coordinator := by
  obtain ⟨request, hrequest, hkind, hcluster, hrack, hpublisher, hrackGeneration, hauthority⟩ :
      ∃ request, peer.session.registration (agent.takePublication.registration agent.publication
          sentAt) (clock peer.rounds).1 = some request ∧
        request.kind = .registerRackPublisher ∧ request.cluster = agent.config.cluster ∧
        request.authority.rack = some agent.config.rack ∧
        request.authority.publisher = some agent.config.publisher ∧
        request.authority.rackGeneration = some agent.generation ∧
        request.authority.clusterEpoch = agent.status.clusterEpoch ∧
        request.authority.coordinatorEpoch = agent.status.coordinatorEpoch :=
    ⟨_, rfl, rfl, rfl, rfl, rfl, rfl, rfl, rfl⟩
  rw [hgreeted.config_eq] at hcluster hrack hpublisher
  rw [hgreeted.generation_eq] at hrackGeneration
  rw [hgreeted.clusterEpoch_eq, hgreeted.coordinatorEpoch_eq] at hauthority
  have hexits := exits_registration h hhealthy (clock peer.rounds).2 hkind hcluster hauthority.1
    hauthority.2 hrack hpublisher hrackGeneration
  obtain ⟨early, rfl, hanswer, hunmoved⟩ := Coordinator.unmoved_of_exits ops hexits
  have hexchange := @exchange_register _ _ σ ops digest clock peer hgreeted.opened
    hgreeted.handshakeDone _ hrequest
  generalize hserved : peer.coordinator.applyAndCommit ops request (clock peer.rounds).2 = served
    at hanswer hunmoved hexchange
  have haccepted : (Session.registerAck served.2).accepted = true := by
    rw [hanswer]
    rfl
  have hepoch : (Session.registerAck served.2).clusterEpoch = peer.coordinator.canonical.epoch := by
    rw [hanswer]
    rfl
  have hcoordinator : (Session.registerAck served.2).coordinatorEpoch =
      peer.coordinator.canonical.coordinatorEpoch := by
    rw [hanswer]
    rfl
  have hserving : served.2.isAccepted = true := haccepted
  have hready : agent.takePublication.transportReady = true := hgreeted.ready
  rw [RackAgent.register, run_bind, run_agent]
  dsimp only
  rw [run_bind, run_update]
  dsimp only
  rw [run_bind, run_agent]
  dsimp only
  rw [run_bind, run_ask hready hexchange nofun]
  simp only [Call.expect, Reply.registerAckMessage, run_bind, run_pure, run_update, haccepted,
    hserving, Bool.not_true, Bool.false_eq_true, if_false, if_true]
  refine ⟨_, _, rfl, ?_, hunmoved⟩
  exact
    { config_eq := hgreeted.config_eq
      boot_eq := hgreeted.boot_eq
      generation_eq := hgreeted.generation_eq
      clusterEpoch_eq := by
        rw [hunmoved.canonical]
        exact adopted hepoch hgreeted.clusterEpoch_eq
      coordinatorEpoch_eq := by
        rw [hunmoved.canonical]
        exact adopted hcoordinator hgreeted.coordinatorEpoch_eq
      ready := hgreeted.ready
      session_boot := hgreeted.session_boot
      handshakeDone := hgreeted.handshakeDone
      opened := hgreeted.opened
      registered := rfl }

/-- A new agent opens a connection and greets. -/
theorem run_connectBody (sentAt : Timestamp) (peer : SessionPeer σ) :
    ∃ agent, RackAgent.connectBody (sessionTransport ops digest clock) sentAt
          (RackAgent.make config boot, peer) =
        (do
          RackAgent.handshake (sessionTransport ops digest clock)
          RackAgent.register (sessionTransport ops digest clock) sentAt)
          (agent, { peer with session := {} }) ∧
      agent.config = config ∧ agent.boot = boot ∧ agent.generation = config.generation ∧
      agent.transportReady = true :=
  ⟨_, rfl, rfl, rfl, rfl, rfl⟩

/-- **An agent connects** to a coordinator that records its rack under its publisher,
and nothing changes. -/
theorem connect_of_owned (h : Owned c config record) (hhealthy : Healthy c.canonical)
    (sentAt : Timestamp) :
    ∃ agent peer, RackAgent.connect (sessionTransport ops digest clock) sentAt
        (RackAgent.make config boot, { coordinator := c }) = (true, agent, peer) ∧
      Attached config boot agent peer ∧ c.Unmoved peer.coordinator := by
  obtain ⟨agent₀, hbody, hconfig, hboot, hgeneration, hready⟩ := @run_connectBody _ σ ops digest
    clock config boot sentAt { coordinator := c }
  subst hconfig hboot
  obtain ⟨agent₁, peer₁, hshake, hgreeted, hsame⟩ := @run_handshake _ σ ops digest clock agent₀
    { coordinator := c } hhealthy h.cluster_eq hgeneration hready rfl
  replace hsame : peer₁.coordinator = c := hsame
  subst hsame
  obtain ⟨agent₂, peer₂, hregister, hattached, hunmoved⟩ := @run_register _ _ σ ops digest clock _ _
    _ _ h hhealthy hgreeted sentAt
  refine ⟨agent₂, peer₂, ?_, hattached, hunmoved⟩
  rw [RackAgent.connect, hbody, run_bind, hshake]
  dsimp only
  rw [hregister]

end Connecting

/-! ## Publishing -/

section Publishing

variable {π : Type} {transport : Transport π} {P : π → Prop}

/-- What an exchange keeps of the peer, a question keeps. -/
theorem keeps_ask {ε : Type} {value : ErrorStage → RackAgent → ε}
    (h : ∀ peer, P peer → P (transport.exchange peer message).1) :
    Keeps (fun s => P s.2) (Call.ask transport message value) := by
  rintro ⟨agent, peer⟩ hpeer
  have hafter := h peer hpeer
  rcases hexchange : transport.exchange peer message with ⟨peer', failure | reply⟩ <;>
    rw [hexchange] at hafter <;> simp only [Call.ask, run_bind, run_get, hexchange] <;> split_ifs
  · exact hpeer
  · exact hafter
  · exact hpeer
  · cases reply <;> exact hafter

theorem keeps_giveUp {ε : Type} (failure : TransportFailure) (value : RackAgent → ε) :
    Keeps (fun s : RackAgent × π => P s.2) (Call.giveUp failure value : Call π ε α) :=
  fun _ hpeer => hpeer

theorem keeps_submitRequest
    (h : ∀ peer, P peer → P (transport.exchange peer (.publishRequest (some request))).1) :
    Keeps (fun s => P s.2) (RackAgent.submitRequest transport request) := by
  refine keeps_bind (keeps_ask h) fun reply => ?_
  unfold Call.expect
  split
  · exact keeps_pure
  · exact keeps_giveUp _ _

theorem keeps_attempt {recorded : Bool}
    (h : ∀ peer, P peer → P (transport.exchange peer (.publishRequest (some request))).1) :
    Keeps (fun s => P s.2) (RackAgent.attempt transport recorded request) := by
  refine keeps_bind (keeps_submitRequest h) fun result => ?_
  refine keeps_ite (fun _ => ?_) fun _ => ?_
  · exact keeps_bind (fun _ hpeer => hpeer) fun _ => keeps_pure
  · exact keeps_bind (keeps_when fun _ hpeer => hpeer) fun _ => keeps_pure

/-- What the requests of a loop keep of the peer, the loop keeps. -/
theorem keeps_publishEach {request : RackAgent → PublicationGeneration → α → MutationRequest}
    {configured : List α}
    (h : ∀ a ∈ configured, ∀ agent used peer, P peer →
      P (transport.exchange peer (.publishRequest (some (request agent used a)))).1)
    (recorded : Bool) :
    Keeps (fun s => P s.2) (RackAgent.publishEach transport request configured recorded) := by
  induction configured generalizing recorded with
  | nil => exact keeps_pure
  | cons a rest ih =>
    have hrest : ∀ recorded, Keeps (fun s => P s.2)
        (RackAgent.publishEach transport request rest recorded) :=
      fun recorded => ih (fun b hb => h b (List.mem_cons_of_mem a hb)) recorded
    refine keeps_bind (fun _ hpeer => hpeer) fun before => ?_
    refine keeps_bind (fun _ hpeer => hpeer) fun _ => ?_
    refine keeps_bind (fun _ hpeer => hpeer) fun agent => ?_
    exact keeps_bind (keeps_attempt (h a List.mem_cons_self agent before.publication)) hrest

variable [StdSort]

/-- What the topology requests of a configuration keep of the peer. -/
structure KeepsTopology (transport : Transport π) (P : π → Prop) (config : RackAgentConfig)
    (observedAt : Timestamp) : Prop where
  links : ∀ link ∈ config.links, ∀ agent used peer, P peer →
    P (transport.exchange peer
      (.publishRequest (some (RackAgent.linkRequest observedAt agent used link)))).1
  failureDomains : ∀ domain ∈ config.failureDomains, ∀ agent used peer, P peer →
    P (transport.exchange peer (.publishRequest (some
      (RackAgent.domainRequest .publishFailureDomain .failure observedAt agent used domain)))).1
  placementDomains : ∀ domain ∈ config.placementDomains, ∀ agent used peer, P peer →
    P (transport.exchange peer (.publishRequest (some
      (RackAgent.domainRequest .publishPlacementDomain .placement observedAt agent used domain)))).1

theorem KeepsTopology.publishTopology {agent : RackAgent} {peer : π}
    (h : KeepsTopology transport P agent.config observedAt) (hpeer : P peer) :
    P (RackAgent.publishTopology transport observedAt (agent, peer)).2.2 := by
  rw [RackAgent.publishTopology, run_bind, run_agent]
  dsimp only
  have hkeeps : Keeps (fun s => P s.2) (do
      let recorded ← RackAgent.publishEach transport (RackAgent.linkRequest observedAt)
        agent.config.links false
      let recorded ← RackAgent.publishEach transport
        (RackAgent.domainRequest .publishFailureDomain .failure observedAt)
        agent.config.failureDomains recorded
      let _ ← RackAgent.publishEach transport
        (RackAgent.domainRequest .publishPlacementDomain .placement observedAt)
        agent.config.placementDomains recorded
      pure () : Call π MutationResult Unit) := by
    refine keeps_bind (keeps_publishEach h.links false) fun recorded => ?_
    refine keeps_bind (keeps_publishEach h.failureDomains recorded) fun recorded => ?_
    exact keeps_bind (keeps_publishEach h.placementDomains recorded) fun _ => keeps_pure
  exact hkeeps (agent, peer) hpeer

/-- What `publish` does with the answer to the publication of the rack. -/
def concludePublish (transport : Transport π) (observedAt : Timestamp) (result : MutationResult) :
    Call π MutationResult MutationResult := do
  if !result.isAccepted then
    Call.update (·.recordRejection result.reason result.describe)
    Call.update fun agent =>
      { agent with status.state := if agent.registered then .ready else agent.status.state }
    exit result
  else
    Call.update fun agent => (agent.observe result).clearRejection
    let agent₁ ← Call.agent
    when (agent₁.registered = true ∧ agent₁.config.hasTopology = true) do
      match ← outcome (RackAgent.publishTopology transport observedAt) with
      | .ok _ => pure ()
      | .error _ =>
        Call.update fun agent => { agent with status.state := .failed }
        exit result
    Call.update fun agent => { agent with status.state := .ready }
    pure result

variable {agent : RackAgent} {peer peer₁ : π} (hready : agent.transportReady = true)
  (hbounds : agent.exceededBound = none)
  (hagent : agent₁ = { agent with status.state := .publishing }.takePublication)
  (hexchange : transport.exchange peer (.publishRequest (some
    (agent₁.makeRequest .addRack agent.publication observedAt))) =
      (peer₁, .ok (.publishResult result)))

include hready hbounds hagent hexchange

theorem run_publishBody :
    RackAgent.publishBody transport observedAt (agent, peer) =
      concludePublish transport observedAt result (agent₁, peer₁) := by
  have hready₁ : agent₁.transportReady = true := hagent ▸ hready
  rw [RackAgent.publishBody, run_agent_bind]
  simp only [hready, hbounds, Bool.not_true, Bool.false_eq_true, if_false]
  rw [run_update_bind, run_agent_bind, run_update_bind, ← hagent, run_agent_bind, run_bind,
    run_submitRequest hready₁ hexchange]
  rfl

/-- What the topology requests keep of the peer that served the rack, `publish` leaves. -/
theorem publish_keeps
    (h : result.isAccepted = true → KeepsTopology transport P agent.config observedAt)
    (hpeer : P peer₁) : P (RackAgent.publish transport observedAt (agent, peer)).2.2 := by
  have hconfig₁ : agent₁.config = agent.config := hagent ▸ rfl
  suffices hbody : P (RackAgent.publishBody transport observedAt (agent, peer)).2.2 by
    rw [RackAgent.publish]
    generalize RackAgent.publishBody transport observedAt (agent, peer) = out at hbody ⊢
    rcases out with ⟨_ | _, _, _⟩ <;> exact hbody
  rw [run_publishBody hready hbounds hagent hexchange, concludePublish]
  split_ifs with hrejected
  · exact hpeer
  · replace h := h (by simpa using hrejected)
    rw [← hconfig₁] at h
    rw [run_update_bind, run_agent_bind, run_bind, run_when]
    split_ifs
    · have htopology := @KeepsTopology.publishTopology observedAt π transport P _
        (agent₁.observe result).clearRejection peer₁ h hpeer
      rw [run_bind, run_outcome]
      dsimp only
      rcases hrun : RackAgent.publishTopology transport observedAt
        ((agent₁.observe result).clearRejection, peer₁) with ⟨_ | _, agent₂, peer₂⟩ <;>
        rw [hrun] at htopology <;> exact htopology
    · exact hpeer

end Publishing

end ClusterFabric
