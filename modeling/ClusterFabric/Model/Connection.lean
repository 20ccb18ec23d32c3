import ClusterFabric.Model.Message

/-! # Connections

The loop of `run_session` over the bytes that a peer sends. It reads a header, the
payload that the header declares and one frame from both, and handles the message of
the frame, until the session ends.
-/

namespace ClusterFabric

open Lib

/-! ## Reading -/

/-- The largest payload that a session reads, from `config.max_frame_payload`. -/
def sessionMaxPayload (maxFramePayload : UInt32) : UInt32 :=
  if maxFramePayload = 0 ∨ absoluteMaxFramePayloadBytes < maxFramePayload then
    maxFramePayloadBytes
  else maxFramePayload

/-- What one round of the loop reads. -/
inductive Arrival
  /-- The peer sent fewer bytes than were asked for. -/
  | closed
  | rejected (error : StructuredError)
  /-- A frame and the bytes behind it. -/
  | frame (frame : Frame) (rest : Text)
  deriving DecidableEq

/-- The error that answers a frame which was not decoded. -/
def frameRejected (status : ProtocolStatus) : StructuredError :=
  .make .protocol .decode status.toText (text "frame rejected before any state was touched")

def receiveFrame (maxPayload : UInt32) (stream : Text) : Arrival :=
  let header := stream.take frameHeaderSize
  let body := stream.drop frameHeaderSize
  if stream.length < frameHeaderSize then .closed
  else match decodeFrame header maxPayload with
    | .ok frame => .frame frame body
    | .error failure =>
      if failure.status = .truncatedPayload then
        let length := failure.header.payloadLength
        if maxPayload < length then
          .rejected (.make .protocol .decode (text "oversized_frame")
            (text "declared payload exceeds the configured maximum"))
        else if body.length < length.toNat then .closed
        else match decodeFrame (header ++ body.take length.toNat) maxPayload with
          | .ok frame => .frame frame (body.drop length.toNat)
          | .error failure => .rejected (frameRejected failure.status)
      else .rejected (frameRejected failure.status)

/-- A frame takes its header at least. -/
theorem length_receiveFrame {maxPayload : UInt32} {stream rest : Text} {frame : Frame}
    (h : receiveFrame maxPayload stream = .frame frame rest) : rest.length < stream.length := by
  have hdrop (n : Nat) (hlong : ¬stream.length < frameHeaderSize) :
      ((stream.drop frameHeaderSize).drop n).length < stream.length := by
    rw [List.length_drop, List.length_drop]
    unfold frameHeaderSize at hlong ⊢
    omega
  unfold receiveFrame at h
  dsimp only at h
  split_ifs at h with hshort
  split at h
  · injection h with _ hrest
    exact hrest ▸ hdrop 0 hshort
  · split_ifs at h
    split at h
    · injection h with _ hrest
      exact hrest ▸ hdrop _ hshort
    · exact nomatch h

/-- All that is read from a stream, up to the round that gives no frame. -/
def arrivals (maxPayload : UInt32) (stream : Text) : List Arrival :=
  match h : receiveFrame maxPayload stream with
  | .frame frame rest => .frame frame rest :: arrivals maxPayload rest
  | .closed => [.closed]
  | .rejected error => [.rejected error]
termination_by stream.length
decreasing_by exact length_receiveFrame h

/-! ## Messages of frames -/

/-- The kinds that a coordinator accepts. -/
def acceptedKinds : List MessageKind :=
  [.hello, .registerPublisher, .publishRequest, .heartbeat, .snapshotRequest,
    .validateSnapshotRequest, .revalidateRequest, .shutdown]

/-- A message of a kind, or a payload that is malformed. -/
def MessageKind.incoming : (k : MessageKind) → Option k.Message → Incoming
  | .hello, message => .hello message
  | .registerPublisher, message => .registerPublisher message
  | .publishRequest, request => .publishRequest request
  | .heartbeat, message => .heartbeat message
  | .snapshotRequest, cluster => .snapshotRequest cluster
  | .validateSnapshotRequest, view => .validateSnapshotRequest view
  | .revalidateRequest, message => .revalidateRequest message
  | .shutdown, reason => .shutdown reason
  | _, _ => .unaccepted

/-- The dispatch on the type of a frame. -/
def Frame.incoming (frame : Frame) : Incoming :=
  match acceptedKinds.find? fun k => k.type.code == frame.header.type with
  | none => .unaccepted
  | some k => k.incoming (k.decode frame.payload).toOption

/-! ## Frames of replies -/

/-- A validation as it is written. -/
def SnapshotValidation.written (validation : SnapshotValidation) : ReadValidation where
  current := validation.current
  consumable := validation.consumable
  reasons := validation.reasons.map fun reason => .ofNat (Enumeration.raw reason)
  subjects := validation.subjects
  explanation := validation.explanation

/-- The payload of a reply; one that cannot be written is empty. -/
def Reply.payload : Reply → Text
  | .helloAck message => MessageKind.encode .helloAck message
  | .registerAck message => MessageKind.encode .registerAck message
  | .publishResult result => MessageKind.encode .publishResult result
  | .heartbeatAck message => MessageKind.encode .heartbeatAck message
  | .snapshotResponse message => MessageKind.encode .snapshotResponse message
  | .validateSnapshotResponse validation =>
    MessageKind.encode .validateSnapshotResponse validation.written
  | .revalidateResponse message => MessageKind.encode .revalidateResponse message
  | .error failure => MessageKind.encode .error failure

/-- What `send_frame` sends of a reply. It takes `config.max_frame_payload` as it is, and
above that it sends nothing. -/
def Reply.frame (maxFramePayload : UInt32) (sequence : UInt64) (reply : Reply) : Text :=
  encodeFrame reply.type.code sequence reply.payload 0 maxFramePayload

/-! ## The loop -/

/-- What a session finds when it handles a message. Other threads may have changed
all of it but the configuration. -/
structure Surroundings (σ : Type) (config : CoordinatorConfig) where
  coordinator : Coordinator σ
  config_eq : coordinator.config = config
  queue : CommitQueue
  readAt : Timestamp
  served : Option Timestamp

/-- One round of the loop, with the session and the coordinator before it. -/
structure Exchange (σ : Type) where
  coordinator : Coordinator σ
  session : Session
  arrival : Arrival
  turn : Turn σ

namespace Session

variable [StdSort] {σ : Type} {config : CoordinatorConfig} (ops : PersistenceStore σ)
  (digest : ClusterState → Text)

def round (around : Surroundings σ config) (session : Session) : Arrival → Option (Turn σ)
  | .closed =>
    some { coordinator := around.coordinator, session := { session with ended := true } }
  | .rejected error =>
    some
      { coordinator := around.coordinator
        session := { session with ended := true }
        reply := if session.ended then none else some (.error error) }
  | .frame frame _ =>
    session.handle ops digest around.coordinator around.queue around.readAt around.served
      frame.incoming

end Session

end ClusterFabric
