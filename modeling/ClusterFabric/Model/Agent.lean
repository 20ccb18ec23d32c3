import ClusterFabric.Model.Session

/-! # Rack agents

`rack_agent.cpp`: the publisher of one rack, which drives one coordinator with one
request at a time. What lies between an agent and its peer (sockets, frames and the
codecs of payloads) is a parameter: an exchange delivers a message and returns the
reply to it, or the failure that the agent records.
-/

namespace ClusterFabric

open Lib
open Txn

/-! ## Agents -/

inductive RackAgentState
  | idle | connecting | handshaking | registering | publishing | ready | failed | stopped
  deriving DecidableEq, Repr

structure RackAgentStatus where
  state : RackAgentState := .idle
  transport : ProtocolStatus := .ok
  rejection : RejectionReason := .none
  detail : Text := []
  coordinatorEpoch : CoordinatorEpoch := .unknown
  clusterEpoch : ClusterEpoch := .unknown
  topologyEpoch : TopologyEpoch := .unknown
  topologyGeneration : TopologyGeneration := .unknown
  publication : PublicationGeneration := .unknown
  registered : Bool := false
  fenced : Bool := false
  connected : Bool := false

/-- What an agent publishes. -/
structure RackAgentConfig where
  cluster : ClusterId := .unset
  rack : RackId := .unset
  generation : RackGeneration := .unknown
  publisher : RackPublisherId := .unset
  publicationTtlMillis : Int64 := 30000
  originLabel : Text := text "cluster-fabric-rack-agent"
  rackLifecycle : RackLifecycleState := .ready
  health : HealthState := .healthy
  composition : RackCompositionSummary := {}
  endpoints : List RackEndpoint := []
  failureDomainHints : List RackFailureDomainHint := []
  links : List InterRackLink := []
  failureDomains : List (Domain .failure) := []
  placementDomains : List (Domain .placement) := []

def RackAgentConfig.hasTopology (config : RackAgentConfig) : Bool :=
  !config.links.isEmpty || !config.failureDomains.isEmpty || !config.placementDomains.isEmpty

structure RackAgent where
  config : RackAgentConfig
  boot : RackAgentBootId
  /-- `version_banner`. -/
  build : Text := []
  generation : RackGeneration
  /-- The counter of the publisher, consumed once per message. -/
  publication : PublicationGeneration := .fromRaw 1
  status : RackAgentStatus := { publication := .fromRaw 1 }
  lifecycle : ClusterLifecycle := .declared
  snapshotDigest : Option Text := none
  /-- Whether the socket is open. -/
  handle : Bool := false
  registered : Bool := false
  stopped : Bool := false

/-- A failure of the transport or of the protocol, with the stage of a request in
which it is reported. -/
structure TransportFailure where
  stage : ErrorStage := .transport
  transport : ProtocolStatus
  reason : RejectionReason
  detail : Text
  transport_ne_ok : transport ≠ .ok := by decide

/-- The failure of a call without a connection. -/
def TransportFailure.notConnected : TransportFailure where
  transport := .notConnected
  reason := .notReady
  detail := text "transport is not connected"

/-- What an agent is connected to. -/
structure Transport (π : Type) where
  /-- Opens a connection. -/
  dial : π → π × Option TransportFailure
  /-- Sends a message and waits for the reply. -/
  exchange : π → Incoming → π × Except TransportFailure Reply

namespace RackAgent

/-- An agent of a process incarnation, before its first call. -/
def make (config : RackAgentConfig) (boot : RackAgentBootId) : RackAgent where
  config := config
  boot := boot
  generation := config.generation

def subject (agent : RackAgent) : Text := rackSubject agent.config.rack

/-- The counter saturates instead of wrapping. -/
def takePublication (agent : RackAgent) : RackAgent :=
  { agent with
    publication := agent.publication.next.getD agent.publication
    status.publication := agent.publication }

def stampEvidence (agent : RackAgent) (observedAt : Timestamp) : EvidenceStamp :=
  .make .reported observedAt agent.config.publicationTtlMillis

def makeAuthority (agent : RackAgent) (used : PublicationGeneration) : MutationAuthority where
  clusterEpoch := agent.status.clusterEpoch
  coordinatorEpoch := agent.status.coordinatorEpoch
  topologyEpoch := agent.status.topologyEpoch
  topologyGeneration := agent.status.topologyGeneration
  boot := some agent.boot
  publisher := some agent.config.publisher
  rack := some agent.config.rack
  rackGeneration := some agent.generation
  publication := used

def makeReference [StdSort] (agent : RackAgent) (used : PublicationGeneration)
    (observedAt : Timestamp) : RackReference :=
  canonicalize
    { rack := agent.config.rack
      generation := agent.generation
      rackLifecycle := agent.config.rackLifecycle
      currentness := .current
      composition := agent.config.composition
      endpoints := agent.config.endpoints
      failureDomainHints := agent.config.failureDomainHints
      evidence := agent.stampEvidence observedAt
      publisher := some agent.config.publisher
      publication := used
      boot := agent.boot
      clusterEpoch := agent.status.clusterEpoch
      coordinatorEpoch := agent.status.coordinatorEpoch
      health := agent.config.health
      originLabel := agent.config.originLabel }

def makeRequest [StdSort] (agent : RackAgent) (kind : MutationKind) (used : PublicationGeneration)
    (observedAt : Timestamp) : MutationRequest where
  kind := kind
  cluster := agent.config.cluster
  authority := agent.makeAuthority used
  evidence := agent.stampEvidence observedAt
  reason := text "rack_agent_publication"
  requestedAt := observedAt
  rackReference := agent.makeReference used observedAt

def transportReady (agent : RackAgent) : Bool := agent.handle && !agent.stopped

/-- `bounds_ok`: the first bound that the configuration exceeds. -/
def exceededBound (agent : RackAgent) : Option Text :=
  let bounds : List (String × Nat × Nat) :=
    [("endpoint", agent.config.endpoints.length, maxRackEndpoints),
      ("failure-domain hint", agent.config.failureDomainHints.length, maxFailureDomainRefs),
      ("accelerator class", agent.config.composition.accelerators.length, maxCapacityQuantities),
      ("link", agent.config.links.length, maxInterRackLinks),
      ("failure-domain", agent.config.failureDomains.length, maxDomainsPerClass),
      ("placement-domain", agent.config.placementDomains.length, maxDomainsPerClass)]
  (bounds.find? fun (_, size, limit) => decide (limit < size)).map fun (what, size, limit) =>
    text "configured " ++ text what ++ text " count " ++ decimal size ++ text " exceeds " ++
      decimal limit

def recordRejection (agent : RackAgent) (reason : RejectionReason) (detail : Text) : RackAgent :=
  { agent with
    status :=
      { agent.status with
        rejection := reason
        detail := detail
        fenced := agent.status.fenced || reason == .staleRackBoot } }

def recordFailure (agent : RackAgent) (failure : TransportFailure) : RackAgent :=
  { agent.recordRejection failure.reason failure.detail with
    status.state := .failed
    status.transport := failure.transport }

def clearRejection (agent : RackAgent) : RackAgent :=
  { agent with status.rejection := .none, status.detail := [] }

def transportResult (agent : RackAgent) (stage : ErrorStage) : MutationResult :=
  if agent.status.transport = .notConnected then
    .rejectedWith .notReady stage agent.subject agent.status.detail (text "not_connected")
  else .rejectedWith .internal stage agent.subject agent.status.detail (text "transport_failure")

/-- The epochs that an answer carries, where they are known. -/
def adopt (agent : RackAgent) (clusterEpoch : ClusterEpoch) (coordinatorEpoch : CoordinatorEpoch)
    (topologyEpoch : TopologyEpoch) (topologyGeneration : TopologyGeneration) : RackAgent :=
  let status := agent.status
  { agent with
    status :=
      { status with
        clusterEpoch := if clusterEpoch.known then clusterEpoch else status.clusterEpoch
        coordinatorEpoch :=
          if coordinatorEpoch.known then coordinatorEpoch else status.coordinatorEpoch
        topologyEpoch := if topologyEpoch.known then topologyEpoch else status.topologyEpoch
        topologyGeneration :=
          if topologyGeneration.known then topologyGeneration else status.topologyGeneration } }

def observe (agent : RackAgent) (result : MutationResult) : RackAgent :=
  { agent.adopt result.clusterEpoch result.coordinatorEpoch result.topologyEpoch
      result.topologyGeneration with
    lifecycle := result.lifecycle }

end RackAgent

/-- `describe_result`. -/
def MutationResult.describe (result : MutationResult) : Text :=
  if !result.error.isOk && !result.error.describe.isEmpty then result.error.describe
  else if !result.explanation.summary.isEmpty then result.explanation.summary
  else result.reason.toText

/-! ## Calls -/

/-- A call of an agent: it may return early with an `ε`. -/
abbrev Call (π ε α : Type) : Type := Txn (RackAgent × π) ε α

namespace Call

variable {π ε α : Type} (transport : Transport π)

/-- The agent as it is. -/
def agent : Call π ε RackAgent := do
  let (agent, _) ← get
  pure agent

def update (f : RackAgent → RackAgent) : Call π ε Unit :=
  modify fun (agent, peer) => (f agent, peer)

/-- `record_failure`, and the return of a value. -/
def giveUp (failure : TransportFailure) (value : RackAgent → ε) : Call π ε α := do
  update (·.recordFailure failure)
  let agent ← agent
  exit (value agent)

/-- `send_frame` and `read_frame`: an error frame is a failure. -/
def ask (message : Incoming) (value : ErrorStage → RackAgent → ε) : Call π ε Reply := do
  let (agent, peer) ← get
  if !agent.transportReady then
    giveUp .notConnected (value .transport)
  else
    let (peer, answer) := transport.exchange peer message
    modify fun (agent, _) => (agent, peer)
    match answer with
    | .error failure => giveUp failure (value failure.stage)
    | .ok (.error error) =>
      giveUp { transport := .rejected, reason := .malformed, detail := error.describe }
        (value .transport)
    | .ok reply => pure reply

/-- The message of a reply of the expected type. -/
def expect (expected : MessageType) (message : Option α) (reply : Reply)
    (value : ErrorStage → RackAgent → ε) : Call π ε α :=
  match message with
  | some message => pure message
  | none =>
    giveUp
      { transport := .unknownMessage
        reason := .malformed
        detail := text "expected " ++ expected.toText ++ text " but received " ++
          reply.type.toText }
      (value .transport)

end Call

def Reply.helloAckMessage : Reply → Option HelloAckMessage
  | .helloAck message => some message
  | _ => none

def Reply.registerAckMessage : Reply → Option RegisterAckMessage
  | .registerAck message => some message
  | _ => none

def Reply.publishResultMessage : Reply → Option MutationResult
  | .publishResult result => some result
  | _ => none

def Reply.heartbeatAckMessage : Reply → Option HeartbeatAckMessage
  | .heartbeatAck message => some message
  | _ => none

def Reply.snapshotResponseMessage : Reply → Option SnapshotResponseMessage
  | .snapshotResponse message => some message
  | _ => none

def Reply.validateSnapshotResponseMessage : Reply → Option SnapshotValidation
  | .validateSnapshotResponse validation => some validation
  | _ => none

def Reply.revalidateResponseMessage : Reply → Option RevalidateResponseMessage
  | .revalidateResponse message => some message
  | _ => none

namespace RackAgent

open Call (update giveUp ask expect agent)

variable {π : Type} (transport : Transport π)

/-- `submit_request`: the result of the request, or an early return with that of the
transport. -/
def submitRequest (request : MutationRequest) : Call π MutationResult MutationResult := do
  let value (stage : ErrorStage) (agent : RackAgent) := agent.transportResult stage
  let reply ← ask transport (.publishRequest (some request)) value
  expect .publishResult reply.publishResultMessage reply value

/-- The greeting of `connect`. -/
def hello (agent : RackAgent) : HelloMessage where
  cluster := agent.config.cluster
  boot := agent.boot
  role := text "rack_agent"
  build := agent.build

/-- The registration of `connect`. -/
def registration (agent : RackAgent) (used : PublicationGeneration) (sentAt : Timestamp) :
    RegisterPublisherMessage where
  cluster := agent.config.cluster
  authority := agent.makeAuthority used
  publisher := agent.config.publisher
  rack := agent.config.rack
  generation := agent.generation
  rackLifecycle := agent.config.rackLifecycle
  composition := agent.config.composition
  originLabel := agent.config.originLabel
  sentAt := sentAt

/-- A new connection, with nothing registered on it. -/
def reset (agent : RackAgent) : RackAgent :=
  { agent with
    handle := false
    registered := false
    status :=
      { agent.status with
        registered := false
        connected := false
        state := .connecting
        transport := .ok
        rejection := .none
        detail := [] } }

/-- The HELLO of `connect`. -/
def handshake : Call π Bool Unit := do
  let agent₀ ← agent
  let reply ← ask transport (.hello (some agent₀.hello)) fun _ _ => false
  let ack ← expect .helloAck reply.helloAckMessage reply fun _ _ => false
  if !ack.accepted then
    giveUp { transport := .rejected, reason := ack.reason, detail := ack.detail } fun _ => false
  else if ack.protocolVersion ≠ protocolVersion then
    giveUp
      { transport := .unsupportedVersion
        reason := .malformed
        detail := text "coordinator reported protocol version " ++
          decimal ack.protocolVersion.toNat } fun _ => false
  else if ack.cluster ≠ agent₀.config.cluster then
    giveUp
      { transport := .rejected
        reason := .wrongCluster
        detail := text "coordinator accepted a different cluster: " ++ ack.cluster.value }
      fun _ => false
  else
    update fun agent =>
      { agent.adopt ack.clusterEpoch ack.coordinatorEpoch ack.topologyEpoch
          ack.topologyGeneration with
        lifecycle := ack.lifecycle
        status.state := .registering }

/-- The REGISTER of `connect`. -/
def register (sentAt : Timestamp) : Call π Bool Unit := do
  let used := (← agent).publication
  update takePublication
  let message := (← agent).registration used sentAt
  let reply ← ask transport (.registerPublisher (some message)) fun _ _ => false
  let ack ← expect .registerAck reply.registerAckMessage reply fun _ _ => false
  if !ack.accepted then
    giveUp { transport := .rejected, reason := ack.reason, detail := ack.detail } fun _ => false
  else
    update fun agent =>
      { (agent.adopt ack.clusterEpoch ack.coordinatorEpoch ack.topologyEpoch
          ack.topologyGeneration).clearRejection with
        registered := true
        status.registered := true
        status.connected := true
        status.state := .ready
        status.transport := .ok }

/-- The body of `connect`: an early return carries what the call returns. -/
def connectBody (sentAt : Timestamp) : Call π Bool Unit := do
  let agent₀ ← agent
  if agent₀.stopped then
    giveUp
      { transport := .notRunning
        reason := .notReady
        detail := text "rack agent transport is stopped" } fun _ => false
  else if agent₀.registered ∧ agent₀.handle then exit true
  else
    update reset
    let (_, peer) ← get
    let (peer, failure) := transport.dial peer
    modify fun (agent, _) => (agent, peer)
    match failure with
    | some failure => giveUp failure fun _ => false
    | none =>
      update fun agent =>
        { agent with handle := true, status.connected := true, status.state := .handshaking }
      handshake transport
      register transport sentAt

def connect (sentAt : Timestamp) (s : RackAgent × π) : Bool × RackAgent × π :=
  match connectBody transport sentAt s with
  | (.ok _, s) => (true, s)
  | (.error returned, s) => (returned, s)

/-! ## Publications -/

section Publications

variable [StdSort]

/-- One publication of `publish_topology`. The first rejection is recorded; `recorded`
tells whether there was one. -/
def attempt (recorded : Bool) (request : MutationRequest) : Call π MutationResult Bool := do
  let result ← submitRequest transport request
  if result.isAccepted then
    update (·.observe result)
    pure recorded
  else
    when (recorded = false) (update (·.recordRejection result.reason result.describe))
    pure true

/-- A loop of `publish_topology`: a request for every configured record, under the
epochs that the answers before it carried. -/
def publishEach {α : Type} (request : RackAgent → PublicationGeneration → α → MutationRequest) :
    List α → Bool → Call π MutationResult Bool
  | [], recorded => pure recorded
  | configured :: rest, recorded => do
    let used := (← agent).publication
    update takePublication
    let recorded ← attempt transport recorded (request (← agent) used configured)
    publishEach request rest recorded

def stampHeader (agent : RackAgent) (observedAt : Timestamp) (header : DomainHeader) :
    DomainHeader :=
  { header with
    clusterEpoch := agent.status.clusterEpoch
    coordinatorEpoch := agent.status.coordinatorEpoch
    evidence := agent.stampEvidence observedAt
    publisher := some agent.config.publisher }

def linkRequest (observedAt : Timestamp) (agent : RackAgent) (used : PublicationGeneration)
    (configured : InterRackLink) : MutationRequest :=
  { agent.makeRequest .publishInterRackLink used observedAt with
    reason := text "rack_agent_topology_publication"
    topologyReason := text "rack_agent_topology_publication"
    link := some
      { configured with
        topologyEpoch := agent.status.topologyEpoch
        topologyGeneration := agent.status.topologyGeneration
        header := agent.stampHeader observedAt configured.header
        publication := used
        boot := some agent.boot } }

def domainRequest (kind : MutationKind) (k : DomainKind) (observedAt : Timestamp)
    (agent : RackAgent) (used : PublicationGeneration) (configured : Domain k) : MutationRequest :=
  { agent.makeRequest kind used observedAt with
    reason := text "rack_agent_topology_publication"
    domain := Function.update (fun _ => none) k
      (some { configured with header := agent.stampHeader observedAt configured.header }) }

/-- `publish_topology`: it returns early when the transport fails. -/
def publishTopology (observedAt : Timestamp) : Call π MutationResult Unit := do
  let config := (← agent).config
  let recorded ← publishEach transport (linkRequest observedAt) config.links false
  let recorded ← publishEach transport (domainRequest .publishFailureDomain .failure observedAt)
    config.failureDomains recorded
  let _ ← publishEach transport (domainRequest .publishPlacementDomain .placement observedAt)
    config.placementDomains recorded
  pure ()

/-- The body of `publish`: an early return carries what the call returns. -/
def publishBody (observedAt : Timestamp) : Call π MutationResult MutationResult := do
  let agent₀ ← agent
  if !agent₀.transportReady then
    giveUp .notConnected (·.transportResult .transport)
  else
    match agent₀.exceededBound with
    | some detail =>
      update (·.recordRejection .limitExceeded detail)
      exit (.rejectedWith .limitExceeded .validateReference agent₀.subject detail
        (text "limit_exceeded"))
    | none =>
      update fun agent => { agent with status.state := .publishing }
      let used := (← agent).publication
      update takePublication
      let request := (← agent).makeRequest .addRack used observedAt
      let result ← submitRequest transport request
      if !result.isAccepted then
        update (·.recordRejection result.reason result.describe)
        update fun agent =>
          { agent with status.state := if agent.registered then .ready else agent.status.state }
        exit result
      else
        update fun agent => (agent.observe result).clearRejection
        let agent₁ ← agent
        when (agent₁.registered = true ∧ agent₁.config.hasTopology = true) do
          -- a rejection is recorded; only a transport failure ends the call
          match ← outcome (publishTopology transport observedAt) with
          | .ok _ => pure ()
          | .error _ =>
            update fun agent => { agent with status.state := .failed }
            exit result
        update fun agent => { agent with status.state := .ready }
        pure result

def publish (observedAt : Timestamp) (s : RackAgent × π) : MutationResult × RackAgent × π :=
  match publishBody transport observedAt s with
  | (.ok result, s) => (result, s)
  | (.error result, s) => (result, s)

/-- The `publish` behind another call: a rejection is recorded and not returned. -/
def republish (observedAt : Timestamp) : Call π MutationResult Unit := do
  let republished ← outcome (publishBody transport observedAt)
  let result := match republished with
    | .ok result => result
    | .error result => result
  when (result.isAccepted = false) (update (·.recordRejection result.reason result.describe))

/-- The body of `supersede`. The clock is read again by the `publish` behind it. -/
def supersedeBody (newGeneration : RackGeneration) (observedAt republishedAt : Timestamp) :
    Call π MutationResult MutationResult := do
  let agent₀ ← agent
  if !agent₀.transportReady then giveUp .notConnected (·.transportResult .transport)
  else
    update fun agent => { agent with status.state := .publishing }
    let used := (← agent).publication
    update takePublication
    let agent₁ ← agent
    let result ← submitRequest transport
      { agent₁.makeRequest .updateRackGeneration used observedAt with
        reason := text "rack_agent_supersede"
        expectedRackGeneration := some agent₁.generation
        newRackGeneration := some newGeneration }
    if !result.isAccepted then
      update (·.recordRejection result.reason result.describe)
      update fun agent =>
        { agent with status.state := if agent.registered then .ready else agent.status.state }
      exit result
    else
      update fun agent => { (agent.observe result).clearRejection with generation := newGeneration }
      republish transport republishedAt
      pure result

/-- What `revalidate` returns for an accepted revalidation. -/
def revalidated (agent : RackAgent) (response : RevalidateResponseMessage) : MutationResult where
  outcome := .accepted
  lifecycle := response.lifecycle
  clusterEpoch := agent.status.clusterEpoch
  coordinatorEpoch := agent.status.coordinatorEpoch
  topologyEpoch := agent.status.topologyEpoch
  topologyGeneration := agent.status.topologyGeneration
  publicationGeneration := agent.status.publication
  explanation :=
    (((Explanation.make (text "revalidation_accepted") agent.subject
        (if response.detail.isEmpty then text "recovered state revalidated"
          else response.detail)).add (text "revalidation_accepted") agent.subject
      (text "rack evidence is current under the observed authority")).sortFactors).boundFactors

/-- The body of `revalidate`. The clock is read again by the `publish` behind it. -/
def revalidateBody (observedAt republishedAt : Timestamp) :
    Call π MutationResult MutationResult := do
  let value (stage : ErrorStage) (agent : RackAgent) := agent.transportResult stage
  let agent₀ ← agent
  if !agent₀.transportReady then giveUp .notConnected (·.transportResult .transport)
  else
    update fun agent => { agent with status.state := .publishing }
    let used := (← agent).publication
    update takePublication
    let agent₁ ← agent
    let request := agent₁.makeRequest .revalidateRecoveredState used observedAt
    let reply ← ask transport
      (.revalidateRequest (some
        { cluster := agent₁.config.cluster
          authority := request.authority
          racks := [agent₁.config.rack] })) value
    let response ← expect .revalidateResponse reply.revalidateResponseMessage reply value
    if !response.accepted then
      update (·.recordRejection response.reason response.detail)
      update fun agent =>
        { agent with status.state := if agent.registered then .ready else agent.status.state }
      exit (.rejectedWith response.reason .validateAuthority agent₁.subject response.detail
        (text "revalidation_refused"))
    else
      update fun agent =>
        { agent with lifecycle := response.lifecycle, status.state := .publishing }
      let result := (← agent).revalidated response
      republish transport republishedAt
      pure result

/-- What `heartbeat` returns for an accepted heartbeat. -/
def heartbeatAccepted (agent : RackAgent) (used : PublicationGeneration)
    (ack : HeartbeatAckMessage) : MutationResult where
  outcome := .noChange
  lifecycle := ack.lifecycle
  clusterEpoch := agent.status.clusterEpoch
  coordinatorEpoch := agent.status.coordinatorEpoch
  topologyEpoch := agent.status.topologyEpoch
  topologyGeneration := agent.status.topologyGeneration
  publicationGeneration := used
  explanation :=
    ((Explanation.make (text "heartbeat_accepted") agent.subject
      (if ack.detail.isEmpty then text "heartbeat accepted"
        else ack.detail)).sortFactors).boundFactors

def heartbeatBody (sentAt : Timestamp) : Call π MutationResult MutationResult := do
  let value (stage : ErrorStage) (agent : RackAgent) := agent.transportResult stage
  let agent₀ ← agent
  if !agent₀.transportReady then giveUp .notConnected (·.transportResult .transport)
  else
    let used := agent₀.publication
    update takePublication
    let agent₁ ← agent
    let reply ← ask transport
      (.heartbeat (some
        { cluster := agent₁.config.cluster
          authority := agent₁.makeAuthority used
          sentAt := sentAt })) value
    let ack ← expect .heartbeatAck reply.heartbeatAckMessage reply value
    if !ack.accepted then
      update (·.recordRejection ack.reason ack.detail)
      exit (.rejectedWith ack.reason .validateAuthority agent₁.subject ack.detail
        (text "heartbeat_refused"))
    else
      -- the answer carries no topology generation
      update fun agent =>
        { (agent.adopt ack.clusterEpoch ack.coordinatorEpoch ack.topologyEpoch
            .unknown).clearRejection with
          lifecycle := ack.lifecycle }
      let agent₂ ← agent
      pure (agent₂.heartbeatAccepted used ack)

end Publications

/-! ## Snapshots and the end -/

/-- The body of `request_snapshot`. -/
def requestSnapshotBody : Call π SnapshotResponseMessage SnapshotResponseMessage := do
  let agent₀ ← agent
  if !agent₀.transportReady then giveUp .notConnected fun _ => {}
  else
    update takePublication
    let reply ← ask transport (.snapshotRequest (some agent₀.config.cluster)) fun _ _ => {}
    let response ← expect .snapshotResponse reply.snapshotResponseMessage reply fun _ _ => {}
    if response.accepted then
      update fun agent =>
        { agent.clearRejection with snapshotDigest := some response.view.semanticDigest }
    else update (·.recordRejection response.reason response.detail)
    pure response

/-- The body of `validate_snapshot`. -/
def validateSnapshotBody (view : SnapshotView) : Call π SnapshotValidation SnapshotValidation := do
  let agent₀ ← agent
  if !agent₀.transportReady then giveUp .notConnected fun _ => {}
  else
    update takePublication
    let reply ← ask transport (.validateSnapshotRequest (some view)) fun _ _ => {}
    expect .validateSnapshotResponse reply.validateSnapshotResponseMessage reply fun _ _ => {}

/-- `stop`. The SHUTDOWN is sent without waiting for an answer. -/
def stop (s : RackAgent × π) : RackAgent × π :=
  let (agent, peer) := s
  if agent.stopped then (agent, peer)
  else
    ({ agent with
        stopped := true
        handle := false
        registered := false
        status :=
          { agent.status with
            registered := false
            connected := false
            state := .stopped
            transport := .notRunning
            detail := text "transport stopped" } },
      if agent.handle then
        (transport.exchange peer (.shutdown (some (text "rack_agent_stopping")))).1
      else peer)

end RackAgent

/-! ## Sequences of calls -/

/-- A call of an agent, with what it reads from the clock. -/
inductive AgentCall
  | connect (sentAt : Timestamp)
  | publish (observedAt : Timestamp)
  | supersede (newGeneration : RackGeneration) (observedAt republishedAt : Timestamp)
  | revalidate (observedAt republishedAt : Timestamp)
  | heartbeat (sentAt : Timestamp)
  | requestSnapshot
  | validateSnapshot (view : SnapshotView)
  | stop

/-- What a call leaves of the agent and its peer. -/
def AgentCall.perform [StdSort] {π : Type} (transport : Transport π) (s : RackAgent × π) :
    AgentCall → RackAgent × π
  | .connect sentAt => (RackAgent.connect transport sentAt s).2
  | .publish observedAt => (RackAgent.publish transport observedAt s).2
  | .supersede newGeneration observedAt republishedAt =>
    (RackAgent.supersedeBody transport newGeneration observedAt republishedAt s).2
  | .revalidate observedAt republishedAt =>
    (RackAgent.revalidateBody transport observedAt republishedAt s).2
  | .heartbeat sentAt => (RackAgent.heartbeatBody transport sentAt s).2
  | .requestSnapshot => (RackAgent.requestSnapshotBody transport s).2
  | .validateSnapshot view => (RackAgent.validateSnapshotBody transport view s).2
  | .stop => RackAgent.stop transport s

/-! ## The coordinator as a peer -/

/-- A coordinator that serves one session and nothing else. -/
structure SessionPeer (σ : Type) where
  coordinator : Coordinator σ
  session : Session := {}
  /-- The messages that were served. -/
  rounds : Nat := 0

def connectionClosed : TransportFailure where
  transport := .connectionClosed
  reason := .internal
  detail := text "the coordinator closed the session: "

/-- Every message reaches the coordinator, and every reply the agent. The clock gives
the times at which a message is read and its request served. -/
def sessionTransport [StdSort] {σ : Type} (ops : PersistenceStore σ)
    (digest : ClusterState → Text) (clock : Nat → Timestamp × Timestamp) :
    Transport (SessionPeer σ) where
  dial peer := ({ peer with session := {} }, none)
  exchange peer message :=
    match peer.session.handle ops digest peer.coordinator { running := true }
        (clock peer.rounds).1 (some (clock peer.rounds).2) message with
    | none => (peer, .error connectionClosed)
    | some turn =>
      ({ coordinator := turn.coordinator, session := turn.session, rounds := peer.rounds + 1 },
        match turn.reply with
        | some reply => .ok reply
        | none => .error connectionClosed)

end ClusterFabric
