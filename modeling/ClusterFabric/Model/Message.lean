import ClusterFabric.Model.Session
import ClusterFabric.Model.Wire

/-! # Message payloads

The sixteen messages of `protocol.cpp`. A payload is the version of the protocol
and the fields of the message, and nothing behind them.
-/

namespace ClusterFabric

open Lib Codec

/-- A `SnapshotValidation` as a peer reads it. The reasons are any numbers of their
width: the cast to `SnapshotStaleReason` keeps one that is not declared. -/
structure ReadValidation where
  current : Bool := false
  consumable : Bool := false
  reasons : List UInt8 := []
  subjects : List Text := []
  explanation : Explanation := {}

namespace Wire

/-! ## Writers -/

section Writers

open ByteWriter (boolean counter timestamp enum)
open WireWriter (optional vector)

def writeAuthority (authority : MutationAuthority) : Write := do
  counter authority.clusterEpoch
  counter authority.coordinatorEpoch
  counter authority.topologyEpoch
  counter authority.topologyGeneration
  optional ByteWriter.id authority.boot
  optional ByteWriter.id authority.publisher
  optional ByteWriter.id authority.rack
  optional counter authority.rackGeneration
  counter authority.publication

def writeMutationRequest (request : MutationRequest) : Write := do
  enum request.kind
  ByteWriter.id request.cluster
  writeAuthority request.authority
  writeEvidenceStamp request.evidence
  ByteWriter.text request.reason
  timestamp request.requestedAt
  enum request.declaredLifecycle
  writeReadinessContract request.readinessContract
  writeRackReference request.rackReference
  enum request.membership
  optional counter request.expectedRackGeneration
  optional counter request.newRackGeneration
  optional writePlacementDomain (request.domain .placement)
  optional writeCapacityDomain (request.domain .capacity)
  optional writeFailureDomain (request.domain .failure)
  optional writeNetworkDomain (request.domain .network)
  optional writeStorageDomain (request.domain .storage)
  optional writePowerDomain (request.domain .power)
  optional writeCoolingDomain (request.domain .cooling)
  optional writeLinkDomain (request.domain .link)
  optional writeConstraint request.constraint
  optional writeInterRackLink request.link
  optional ByteWriter.id request.linkId
  optional counter request.targetTopologyEpoch
  ByteWriter.text request.topologyReason
  enum request.health
  enum request.reachability
  ByteWriter.text request.evidenceSelector
  vector maxRacksPerCluster ByteWriter.id request.racks

def writeMutationResult (result : MutationResult) : Write := do
  enum result.outcome
  enum result.reason
  writeStructuredError result.error
  writeExplanation result.explanation
  counter result.clusterEpoch
  counter result.coordinatorEpoch
  counter result.clusterGeneration
  counter result.membershipGeneration
  counter result.topologyEpoch
  counter result.topologyGeneration
  counter result.connectivityGeneration
  counter result.healthGeneration
  counter result.constraintGeneration
  counter result.snapshotGeneration
  counter result.publicationGeneration
  enum result.lifecycle

def writeSnapshotValidation (validation : ReadValidation) : Write := do
  boolean validation.current
  boolean validation.consumable
  vector maxStaleReasons ByteWriter.u8 validation.reasons
  vector maxDecodedRecords ByteWriter.text validation.subjects
  writeExplanation validation.explanation

def writeHello (message : HelloMessage) : Write := do
  ByteWriter.u16 message.protocolVersion
  ByteWriter.id message.cluster
  ByteWriter.id message.boot
  ByteWriter.text message.role
  ByteWriter.text message.build

def writeHelloAck (message : HelloAckMessage) : Write := do
  ByteWriter.u16 message.protocolVersion
  ByteWriter.id message.cluster
  counter message.coordinatorEpoch
  counter message.clusterEpoch
  counter message.topologyEpoch
  counter message.topologyGeneration
  enum message.lifecycle
  boolean message.accepted
  enum message.reason
  ByteWriter.text message.detail

def writeRegisterPublisher (message : RegisterPublisherMessage) : Write := do
  ByteWriter.id message.cluster
  writeAuthority message.authority
  ByteWriter.id message.publisher
  ByteWriter.id message.rack
  counter message.generation
  enum message.rackLifecycle
  writeComposition message.composition
  ByteWriter.text message.originLabel
  timestamp message.sentAt

def writeRegisterAck (message : RegisterAckMessage) : Write := do
  boolean message.accepted
  enum message.reason
  counter message.coordinatorEpoch
  counter message.clusterEpoch
  counter message.topologyEpoch
  counter message.topologyGeneration
  counter message.membershipGeneration
  ByteWriter.text message.detail

def writeHeartbeat (message : HeartbeatMessage) : Write := do
  ByteWriter.id message.cluster
  writeAuthority message.authority
  timestamp message.sentAt

def writeHeartbeatAck (message : HeartbeatAckMessage) : Write := do
  counter message.coordinatorEpoch
  counter message.clusterEpoch
  counter message.topologyEpoch
  enum message.lifecycle
  boolean message.accepted
  enum message.reason
  ByteWriter.text message.detail

def writeSnapshotResponse (message : SnapshotResponseMessage) : Write := do
  boolean message.accepted
  enum message.reason
  ByteWriter.text message.detail
  writeSnapshotView message.view

def writeRevalidateRequest (message : RevalidateRequestMessage) : Write := do
  ByteWriter.id message.cluster
  writeAuthority message.authority
  vector maxRacksPerCluster ByteWriter.id message.racks

def writeRevalidateResponse (message : RevalidateResponseMessage) : Write := do
  boolean message.accepted
  enum message.reason
  ByteWriter.text message.detail
  enum message.lifecycle
  writeReadinessEvaluation message.readiness

end Writers

/-! ## Readers -/

section Readers

open WireReader (boolean counter timestamp enum optional vector)

def readAuthority : WireReader MutationAuthority := do
  let clusterEpoch ← counter
  let coordinatorEpoch ← counter
  let topologyEpoch ← counter
  let topologyGeneration ← counter
  let boot ← optional WireReader.id
  let publisher ← optional WireReader.id
  let rack ← optional WireReader.id
  let rackGeneration ← optional counter
  let publication ← counter
  pure { clusterEpoch, coordinatorEpoch, topologyEpoch, topologyGeneration, boot, publisher, rack,
         rackGeneration, publication }

def readMutationRequest : WireReader MutationRequest := do
  let kind ← enum
  let cluster ← WireReader.id
  let authority ← readAuthority
  let evidence ← readEvidenceStamp
  let reason ← WireReader.text
  let requestedAt ← timestamp
  let declaredLifecycle ← enum
  let readinessContract ← readReadinessContract
  let rackReference ← readRackReference
  let membership ← enum
  let expectedRackGeneration ← optional counter
  let newRackGeneration ← optional counter
  let placement ← optional readPlacementDomain
  let capacity ← optional readCapacityDomain
  let failure ← optional readFailureDomain
  let network ← optional readNetworkDomain
  let storage ← optional readStorageDomain
  let power ← optional readPowerDomain
  let cooling ← optional readCoolingDomain
  let linkDomain ← optional readLinkDomain
  let constraint ← optional readConstraint
  let link ← optional readInterRackLink
  let linkId ← optional WireReader.id
  let targetTopologyEpoch ← optional counter
  let topologyReason ← WireReader.text
  let health ← enum
  let reachability ← enum
  let evidenceSelector ← WireReader.text
  let racks ← vector maxRacksPerCluster WireReader.id
  pure { kind, cluster, authority, evidence, reason, requestedAt, declaredLifecycle,
         readinessContract, rackReference, membership, expectedRackGeneration,
         newRackGeneration,
         domain := byKind placement capacity failure network storage power cooling linkDomain,
         constraint, link, linkId, targetTopologyEpoch, topologyReason, health, reachability,
         evidenceSelector, racks }

def readMutationResult : WireReader MutationResult := do
  let outcome ← enum
  let reason ← enum
  let error ← readStructuredError
  let explanation ← readExplanation
  let clusterEpoch ← counter
  let coordinatorEpoch ← counter
  let clusterGeneration ← counter
  let membershipGeneration ← counter
  let topologyEpoch ← counter
  let topologyGeneration ← counter
  let connectivityGeneration ← counter
  let healthGeneration ← counter
  let constraintGeneration ← counter
  let snapshotGeneration ← counter
  let publicationGeneration ← counter
  let lifecycle ← enum
  pure { outcome, reason, error, explanation, clusterEpoch, coordinatorEpoch, clusterGeneration,
         membershipGeneration, topologyEpoch, topologyGeneration, connectivityGeneration,
         healthGeneration, constraintGeneration, snapshotGeneration, publicationGeneration,
         lifecycle }

/-- `read_enum` for a stale reason, which may be one above the last. -/
def readStaleReason : WireReader UInt8 :=
  WireReader.enumNumber WireEnum.snapshotStaleReason.maximum

def readSnapshotValidation : WireReader ReadValidation := do
  let current ← boolean
  let consumable ← boolean
  let reasons ← vector maxStaleReasons readStaleReason
  let subjects ← vector maxDecodedRecords WireReader.text
  let explanation ← readExplanation
  pure { current, consumable, reasons, subjects, explanation }

def readHello : WireReader HelloMessage := do
  let protocolVersion ← WireReader.u16
  let cluster ← WireReader.id
  let boot ← WireReader.id
  let role ← WireReader.text
  let build ← WireReader.text
  pure { protocolVersion, cluster, boot, role, build }

def readHelloAck : WireReader HelloAckMessage := do
  let protocolVersion ← WireReader.u16
  let cluster ← WireReader.id
  let coordinatorEpoch ← counter
  let clusterEpoch ← counter
  let topologyEpoch ← counter
  let topologyGeneration ← counter
  let lifecycle ← enum
  let accepted ← boolean
  let reason ← enum
  let detail ← WireReader.text
  pure { protocolVersion, cluster, coordinatorEpoch, clusterEpoch, topologyEpoch,
         topologyGeneration, lifecycle, accepted, reason, detail }

def readRegisterPublisher : WireReader RegisterPublisherMessage := do
  let cluster ← WireReader.id
  let authority ← readAuthority
  let publisher ← WireReader.id
  let rack ← WireReader.id
  let generation ← counter
  let rackLifecycle ← enum
  let composition ← readComposition
  let originLabel ← WireReader.text
  let sentAt ← timestamp
  pure { cluster, authority, publisher, rack, generation, rackLifecycle, composition, originLabel,
         sentAt }

def readRegisterAck : WireReader RegisterAckMessage := do
  let accepted ← boolean
  let reason ← enum
  let coordinatorEpoch ← counter
  let clusterEpoch ← counter
  let topologyEpoch ← counter
  let topologyGeneration ← counter
  let membershipGeneration ← counter
  let detail ← WireReader.text
  pure { accepted, reason, coordinatorEpoch, clusterEpoch, topologyEpoch, topologyGeneration,
         membershipGeneration, detail }

def readHeartbeat : WireReader HeartbeatMessage := do
  let cluster ← WireReader.id
  let authority ← readAuthority
  let sentAt ← timestamp
  pure { cluster, authority, sentAt }

def readHeartbeatAck : WireReader HeartbeatAckMessage := do
  let coordinatorEpoch ← counter
  let clusterEpoch ← counter
  let topologyEpoch ← counter
  let lifecycle ← enum
  let accepted ← boolean
  let reason ← enum
  let detail ← WireReader.text
  pure { coordinatorEpoch, clusterEpoch, topologyEpoch, lifecycle, accepted, reason, detail }

def readSnapshotResponse : WireReader SnapshotResponseMessage := do
  let accepted ← boolean
  let reason ← enum
  let detail ← WireReader.text
  let view ← readSnapshotView
  pure { accepted, reason, detail, view }

def readRevalidateRequest : WireReader RevalidateRequestMessage := do
  let cluster ← WireReader.id
  let authority ← readAuthority
  let racks ← vector maxRacksPerCluster WireReader.id
  pure { cluster, authority, racks }

def readRevalidateResponse : WireReader RevalidateResponseMessage := do
  let accepted ← boolean
  let reason ← enum
  let detail ← WireReader.text
  let lifecycle ← enum
  let readiness ← readReadinessEvaluation
  pure { accepted, reason, detail, lifecycle, readiness }

end Readers

/-! ## Payloads -/

/-- A `DecodeOutcome` that is not Ok. -/
structure DecodeFailure where
  status : ProtocolStatus
  error : StructuredError
  deriving DecidableEq

def decodeError (status : ProtocolStatus) (subject : String) (message : Text) :
    DecodeFailure where
  status := status
  error := { StructuredError.make .protocol .decode status.reasonCode message with
    subject := text subject }

/-- `make_decode_error`. -/
def makeDecodeError (status : ProtocolStatus) (field subject : String) : DecodeFailure :=
  decodeError status subject (text "field " ++ text field ++ text " was rejected")

/-- `trailing_garbage`. -/
def trailingGarbage (remaining : Nat) (subject : String) : DecodeFailure :=
  decodeError .trailingGarbage subject
    (decimal remaining ++ text " byte(s) remain after the message payload")

def writeVersionTag : Write := ByteWriter.u16 protocolVersion

def readVersionTag : WireReader Unit := do
  let version ← WireReader.u16
  ensure (version == protocolVersion) .unsupportedVersion

/-- `encode_message`: the payload, or nothing if a write was refused. -/
def encodeMessage {α : Type} (write : α → Write) (message : α) : Text :=
  let writer := Write.output (writeVersionTag >>= fun _ => write message) {}
  if writer.failed then [] else writer.data

/-- `decode_message`. -/
def decodeMessage {α : Type} (subject : String) (read : WireReader α) (payload : Text) :
    Except DecodeFailure α :=
  match readVersionTag.run payload with
  | .error status => .error (makeDecodeError status "version" subject)
  | .ok ((), rest) =>
    match read.run rest with
    | .error status => .error (makeDecodeError status subject subject)
    | .ok (message, rest) =>
      if rest.isEmpty then .ok message else .error (trailingGarbage rest.length subject)

end Wire

/-! ## Kinds of messages -/

inductive MessageKind
  | hello | helloAck | registerPublisher | registerAck | publishRequest | publishResult
  | heartbeat | heartbeatAck | snapshotRequest | snapshotResponse | validateSnapshotRequest
  | validateSnapshotResponse | revalidateRequest | revalidateResponse | shutdown | error
  deriving DecidableEq, Repr

/-- The type of a frame that carries the message. -/
def MessageKind.type : MessageKind → MessageType
  | .hello => .hello
  | .helloAck => .helloAck
  | .registerPublisher => .registerPublisher
  | .registerAck => .registerAck
  | .publishRequest => .publishRequest
  | .publishResult => .publishResult
  | .heartbeat => .heartbeat
  | .heartbeatAck => .heartbeatAck
  | .snapshotRequest => .snapshotRequest
  | .snapshotResponse => .snapshotResponse
  | .validateSnapshotRequest => .validateSnapshotRequest
  | .validateSnapshotResponse => .validateSnapshotResponse
  | .revalidateRequest => .revalidateRequest
  | .revalidateResponse => .revalidateResponse
  | .shutdown => .shutdown
  | .error => .error

/-- The messages of a kind. One with a single field is that field. -/
abbrev MessageKind.Message : MessageKind → Type
  | .hello => HelloMessage
  | .helloAck => HelloAckMessage
  | .registerPublisher => RegisterPublisherMessage
  | .registerAck => RegisterAckMessage
  | .publishRequest => MutationRequest
  | .publishResult => MutationResult
  | .heartbeat => HeartbeatMessage
  | .heartbeatAck => HeartbeatAckMessage
  | .snapshotRequest => ClusterId
  | .snapshotResponse => SnapshotResponseMessage
  | .validateSnapshotRequest => SnapshotView
  | .validateSnapshotResponse => ReadValidation
  | .revalidateRequest => RevalidateRequestMessage
  | .revalidateResponse => RevalidateResponseMessage
  | .shutdown => Text
  | .error => StructuredError

/-- What an encoder and a decoder of messages differ in. -/
structure MessageCodec (α : Type) where
  subject : String
  write : α → Write
  read : WireReader α

open Wire in
/-- `encode_hello` and `decode_hello`, and so on. -/
def MessageKind.codec : (k : MessageKind) → MessageCodec k.Message
  | .hello => ⟨"hello", writeHello, readHello⟩
  | .helloAck => ⟨"hello_ack", writeHelloAck, readHelloAck⟩
  | .registerPublisher => ⟨"register_publisher", writeRegisterPublisher, readRegisterPublisher⟩
  | .registerAck => ⟨"register_ack", writeRegisterAck, readRegisterAck⟩
  | .publishRequest => ⟨"publish_request", writeMutationRequest, readMutationRequest⟩
  | .publishResult => ⟨"publish_result", writeMutationResult, readMutationResult⟩
  | .heartbeat => ⟨"heartbeat", writeHeartbeat, readHeartbeat⟩
  | .heartbeatAck => ⟨"heartbeat_ack", writeHeartbeatAck, readHeartbeatAck⟩
  | .snapshotRequest => ⟨"snapshot_request", ByteWriter.id, WireReader.id⟩
  | .snapshotResponse => ⟨"snapshot_response", writeSnapshotResponse, readSnapshotResponse⟩
  | .validateSnapshotRequest =>
    ⟨"validate_snapshot_request", writeSnapshotView, readSnapshotView⟩
  | .validateSnapshotResponse =>
    ⟨"validate_snapshot_response", writeSnapshotValidation, readSnapshotValidation⟩
  | .revalidateRequest => ⟨"revalidate_request", writeRevalidateRequest, readRevalidateRequest⟩
  | .revalidateResponse =>
    ⟨"revalidate_response", writeRevalidateResponse, readRevalidateResponse⟩
  | .shutdown => ⟨"shutdown", ByteWriter.text, WireReader.text⟩
  | .error => ⟨"error", writeStructuredError, readStructuredError⟩

def MessageKind.encode (k : MessageKind) (message : k.Message) : Text :=
  Wire.encodeMessage k.codec.write message

def MessageKind.decode (k : MessageKind) (payload : Text) : Except Wire.DecodeFailure k.Message :=
  Wire.decodeMessage k.codec.subject k.codec.read payload

end ClusterFabric
