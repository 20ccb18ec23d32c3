import ClusterFabric.Model.Frame
import ClusterFabric.Model.Queue
import ClusterFabric.Model.Snapshot

/-! # Network sessions

`run_session` and `detach_session` of `coordinator_network.cpp`, from the decoded
messages on. A session serves one message after another; what it submits waits for
the commit thread, so that the whole handling of a message is one step of the
coordinator.
-/

namespace ClusterFabric

open Lib

/-! ## Messages -/

structure HelloMessage where
  protocolVersion : UInt16 := ClusterFabric.protocolVersion
  cluster : ClusterId := .unset
  boot : RackAgentBootId := .unset
  role : Text := []
  build : Text := []

structure RegisterPublisherMessage where
  cluster : ClusterId := .unset
  authority : MutationAuthority := {}
  publisher : RackPublisherId := .unset
  rack : RackId := .unset
  generation : RackGeneration := .unknown
  rackLifecycle : RackLifecycleState := .unknown
  composition : RackCompositionSummary := {}
  originLabel : Text := []
  sentAt : Timestamp := .unknown

structure HeartbeatMessage where
  cluster : ClusterId := .unset
  authority : MutationAuthority := {}
  sentAt : Timestamp := .unknown

structure RevalidateRequestMessage where
  cluster : ClusterId := .unset
  authority : MutationAuthority := {}
  racks : List RackId := []

/-- A message that arrived, as its decoder reads the payload; a payload that is
malformed is `none`. -/
inductive Incoming
  | hello (message : Option HelloMessage)
  | registerPublisher (message : Option RegisterPublisherMessage)
  | publishRequest (request : Option MutationRequest)
  | heartbeat (message : Option HeartbeatMessage)
  | snapshotRequest (cluster : Option ClusterId)
  | validateSnapshotRequest (view : Option SnapshotView)
  | revalidateRequest (message : Option RevalidateRequestMessage)
  | shutdown (reason : Option Text)
  /-- A type that only the coordinator sends. -/
  | unaccepted

def Incoming.isHello : Incoming → Bool
  | .hello _ => true
  | _ => false

structure HelloAckMessage where
  protocolVersion : UInt16 := ClusterFabric.protocolVersion
  cluster : ClusterId := .unset
  coordinatorEpoch : CoordinatorEpoch := .unknown
  clusterEpoch : ClusterEpoch := .unknown
  topologyEpoch : TopologyEpoch := .unknown
  topologyGeneration : TopologyGeneration := .unknown
  lifecycle : ClusterLifecycle := .declared
  accepted : Bool := false
  reason : RejectionReason := .none
  detail : Text := []

structure RegisterAckMessage where
  accepted : Bool := false
  reason : RejectionReason := .none
  coordinatorEpoch : CoordinatorEpoch := .unknown
  clusterEpoch : ClusterEpoch := .unknown
  topologyEpoch : TopologyEpoch := .unknown
  topologyGeneration : TopologyGeneration := .unknown
  membershipGeneration : MembershipGeneration := .unknown
  detail : Text := []

structure HeartbeatAckMessage where
  coordinatorEpoch : CoordinatorEpoch := .unknown
  clusterEpoch : ClusterEpoch := .unknown
  topologyEpoch : TopologyEpoch := .unknown
  lifecycle : ClusterLifecycle := .declared
  accepted : Bool := false
  reason : RejectionReason := .none
  detail : Text := []

structure SnapshotResponseMessage where
  accepted : Bool := false
  reason : RejectionReason := .none
  detail : Text := []
  view : SnapshotView := {}

structure RevalidateResponseMessage where
  accepted : Bool := false
  reason : RejectionReason := .none
  detail : Text := []
  lifecycle : ClusterLifecycle := .declared
  readiness : ReadinessEvaluation := {}

/-- What a session answers. -/
inductive Reply
  | helloAck (message : HelloAckMessage)
  | registerAck (message : RegisterAckMessage)
  | publishResult (result : MutationResult)
  | heartbeatAck (message : HeartbeatAckMessage)
  | snapshotResponse (message : SnapshotResponseMessage)
  | validateSnapshotResponse (validation : SnapshotValidation)
  | revalidateResponse (message : RevalidateResponseMessage)
  | error (error : StructuredError)

/-- The type of the frame that carries a reply. -/
def Reply.type : Reply → MessageType
  | .helloAck _ => .helloAck
  | .registerAck _ => .registerAck
  | .publishResult _ => .publishResult
  | .heartbeatAck _ => .heartbeatAck
  | .snapshotResponse _ => .snapshotResponse
  | .validateSnapshotResponse _ => .validateSnapshotResponse
  | .revalidateResponse _ => .revalidateResponse
  | .error _ => .error

def MutationResult.isAccepted (result : MutationResult) : Bool :=
  result.outcome == .accepted || result.outcome == .noChange

/-! ## The session loop -/

structure Session where
  boot : Option RackAgentBootId := none
  racks : List RackId := []
  handshakeDone : Bool := false
  /-- The loop was left, or is told to stop before it reads again. -/
  ended : Bool := false

/-- The outcome of one message. -/
structure Turn (σ : Type) where
  coordinator : Coordinator σ
  session : Session
  reply : Option Reply := none

namespace Session

/-- Why a HELLO is refused. -/
def helloRefusal (config : CoordinatorConfig) :
    Option HelloMessage → Option (RejectionReason × Text)
  | none => some (.malformed, text "HELLO payload is malformed")
  | some hello =>
    if hello.protocolVersion ≠ protocolVersion then
      some (.malformed, text "unsupported protocol version")
    else if hello.cluster ≠ config.cluster then
      some (.wrongCluster, text "peer targets a different cluster")
    else none

/-- The identity under which an accepted HELLO continues the session. -/
def helloBoot (config : CoordinatorConfig) (message : Option HelloMessage) :
    Option RackAgentBootId :=
  match helloRefusal config message with
  | some _ => none
  | none => message.map HelloMessage.boot

/-- The mutation that a REGISTER asks for. The identity of the message is read
whether or not it is needed, so that a message without one raises an exception
that nothing catches. -/
def registration (session : Session) (message : RegisterPublisherMessage) (readAt : Timestamp) :
    Option MutationRequest := do
  let claimed ← message.authority.boot
  pure
    { kind := .registerRackPublisher
      cluster := message.cluster
      authority :=
        { message.authority with
          boot := session.boot
          publisher := some message.publisher
          rack := some message.rack
          rackGeneration := some message.generation }
      rackReference :=
        { rack := message.rack
          generation := message.generation
          rackLifecycle := message.rackLifecycle
          composition := message.composition
          originLabel := message.originLabel
          publisher := some message.publisher
          boot := session.boot.getD claimed
          publication := message.authority.publication }
      evidence := .make .reported readAt 0
      reason := text "rack_publisher_registration" }

/-- The authority of a request with the identity of the session in it. -/
def authorize (session : Session) (authority : MutationAuthority) : MutationAuthority :=
  { authority with boot := session.boot.or authority.boot }

def publication (session : Session) (request : MutationRequest) : MutationRequest :=
  { request with authority := session.authorize request.authority }

def revalidation (session : Session) (message : RevalidateRequestMessage) (readAt : Timestamp) :
    MutationRequest where
  kind := .revalidateRecoveredState
  cluster := message.cluster
  authority := session.authorize message.authority
  racks := message.racks
  evidence := .make .reported readAt 0

/-- The end of a session with an error frame. -/
def protocolError (stage : ErrorStage) (code message : String) : Reply :=
  .error (.make .protocol stage (text code) (text message))

def registerAck (result : MutationResult) : RegisterAckMessage where
  accepted := result.isAccepted
  reason := result.reason
  detail := result.explanation.summary
  coordinatorEpoch := result.coordinatorEpoch
  clusterEpoch := result.clusterEpoch
  topologyEpoch := result.topologyEpoch
  topologyGeneration := result.topologyGeneration
  membershipGeneration := result.membershipGeneration

def heartbeatAck (config : CoordinatorConfig) (s : ClusterState) :
    Option HeartbeatMessage → HeartbeatAckMessage
  | none => { reason := .malformed, detail := text "HEARTBEAT payload is malformed" }
  | some message =>
    let ack : HeartbeatAckMessage :=
      { coordinatorEpoch := s.coordinatorEpoch
        clusterEpoch := s.epoch
        topologyEpoch := s.topologyEpoch
        lifecycle := s.lifecycle }
    if message.cluster ≠ config.cluster then
      { ack with
        reason := .wrongCluster
        detail := text "heartbeat targets a different cluster" }
    else if message.authority.coordinatorEpoch ≠ s.coordinatorEpoch then
      { ack with
        reason := .staleCoordinatorEpoch
        detail := text "heartbeat was authored under a superseded coordinator epoch" }
    else if message.authority.clusterEpoch ≠ s.epoch then
      { ack with
        reason := .staleClusterEpoch
        detail := text "heartbeat was authored under a superseded cluster epoch" }
    else { ack with accepted := true }

def snapshotResponse (digest : ClusterState → Text) (config : CoordinatorConfig)
    (s : ClusterState) : Option ClusterId → SnapshotResponseMessage
  | none => { reason := .malformed, detail := text "SNAPSHOT_REQUEST payload is malformed" }
  | some cluster =>
    if cluster ≠ config.cluster then
      { reason := .wrongCluster, detail := text "snapshot request targets a different cluster" }
    else { accepted := true, view := .fromSnapshot digest (.capture s) }

section Loop

variable [StdSort] {σ : Type} (ops : PersistenceStore σ) (digest : ClusterState → Text)

def greet (c : Coordinator σ) (session : Session) (message : Option HelloMessage) : Turn σ :=
  let ack : HelloAckMessage := { cluster := c.config.cluster }
  match helloRefusal c.config message, helloBoot c.config message with
  | some (reason, detail), _ =>
    { coordinator := c
      session := { session with ended := true }
      reply := some (.helloAck { ack with reason := reason, detail := detail }) }
  | none, boot =>
    { coordinator := c
      session := { session with boot := boot, handshakeDone := true }
      reply := some (.helloAck
        { ack with
          accepted := true
          coordinatorEpoch := c.canonical.coordinatorEpoch
          clusterEpoch := c.canonical.epoch
          topologyEpoch := c.canonical.topologyEpoch
          topologyGeneration := c.canonical.topologyGeneration
          lifecycle := c.canonical.lifecycle }) }

/-- A message that may be served: a HELLO, or any after the handshake. The request
it submits is delivered through `queue` and served at `served`; the clock is read at
`readAt` before. An exception that ends the process is `none`. -/
def serve (c : Coordinator σ) (session : Session) (queue : CommitQueue) (readAt : Timestamp)
    (served : Option Timestamp) : Incoming → Option (Turn σ)
  | .hello message => some (greet c session message)
  | .registerPublisher none =>
    some
      { coordinator := c
        session := session
        reply := some (.registerAck
          { reason := .malformed, detail := text "REGISTER payload is malformed" }) }
  | .registerPublisher (some message) => do
    let request ← session.registration message readAt
    let (c, result) := queue.deliver ops c request served
    pure
      { coordinator := c
        session :=
          if result.isAccepted then { session with racks := session.racks ++ [message.rack] }
          else session
        reply := some (.registerAck (registerAck result)) }
  | .publishRequest none =>
    some
      { coordinator := c
        session := session
        reply := some (.publishResult (.rejectedWith .malformed .decode (text "request")
          (text "PUBLISH payload is malformed") (text "malformed_payload"))) }
  | .publishRequest (some request) =>
    let (c, result) := queue.deliver ops c (session.publication request) served
    some { coordinator := c, session := session, reply := some (.publishResult result) }
  | .heartbeat message =>
    some
      { coordinator := c
        session := session
        reply := some (.heartbeatAck (heartbeatAck c.config c.canonical message)) }
  | .snapshotRequest cluster =>
    some
      { coordinator := c
        session := session
        reply := some (.snapshotResponse (snapshotResponse digest c.config c.canonical cluster)) }
  | .validateSnapshotRequest none =>
    some
      { coordinator := c
        session := session
        reply := some (.validateSnapshotResponse
          { explanation := .make (text "malformed_payload") (text "snapshot")
              (text "VALIDATE payload is malformed") }) }
  | .validateSnapshotRequest (some view) =>
    some
      { coordinator := c
        session := session
        reply := some (.validateSnapshotResponse (view.validateView c.canonical)) }
  | .revalidateRequest none =>
    some
      { coordinator := c
        session := session
        reply := some (.revalidateResponse
          { reason := .malformed, detail := text "REVALIDATE payload is malformed" }) }
  | .revalidateRequest (some message) =>
    let (c, result) := queue.deliver ops c (session.revalidation message readAt) served
    some
      { coordinator := c
        session := session
        reply := some (.revalidateResponse
          { accepted := result.isAccepted
            reason := result.reason
            detail := result.explanation.summary
            lifecycle := result.lifecycle
            readiness := evaluateReadiness c.canonical }) }
  | .shutdown none => some { coordinator := c, session := session }
  | .shutdown (some _) => some { coordinator := c, session := { session with ended := true } }
  | .unaccepted =>
    some
      { coordinator := c
        session := session
        reply := some (protocolError .decode "unknown_message"
          "message type is not accepted by the coordinator") }

/-- One round of `run_session` with a message that arrived. A session that ended
reads nothing more. -/
def handle (c : Coordinator σ) (session : Session) (queue : CommitQueue) (readAt : Timestamp)
    (served : Option Timestamp) (incoming : Incoming) : Option (Turn σ) :=
  if session.ended then some { coordinator := c, session := session }
  else if !incoming.isHello && !session.handshakeDone then
    some
      { coordinator := c
        session := { session with ended := true }
        reply := some (protocolError .validateAuthority "handshake_required"
          "HELLO must be the first message on a session") }
  else session.serve ops digest c queue readAt served incoming

end Loop

/-- `detach_session`: a fence of the identity is queued when it published something
that is recorded. -/
def detachSession {σ : Type} (queue : CommitQueue) (c : Coordinator σ) (session : Session) :
    CommitQueue :=
  match session.boot with
  | none => queue
  | some boot =>
    if !Coordinator.publishedBy c.canonical boot then queue
    else if queue.stopping then queue
    else
      queue.push (.fence boot
        (text (if c.config.fenceOnDisconnect then "session_closed"
          else "session_closed_evidence_stale")))

end Session

end ClusterFabric
