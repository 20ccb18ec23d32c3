import ClusterFabric.Model.Bytes
import ClusterFabric.Model.Mutation

/-! # Frames

The framing of `protocol.cpp`: a header of 28 bytes, whose checksum covers the
bytes before it and the payload behind it.
-/

namespace ClusterFabric

open Lib Codec

/-! ## Status and message types -/

inductive ProtocolStatus
  | ok | badMagic | unsupportedVersion | truncatedHeader | truncatedPayload | oversizedFrame
  | checksumMismatch | unknownMessage | malformedPayload | absurdLength | trailingGarbage
  | invalidEnum | invalidIdentity | connectionClosed | ioError | notConnected | alreadyRunning
  | notRunning | shutdownInProgress | rejected
  deriving DecidableEq, Repr

def ProtocolStatus.toText : ProtocolStatus → Text
  | .ok => text "OK"
  | .badMagic => text "BAD_MAGIC"
  | .unsupportedVersion => text "UNSUPPORTED_VERSION"
  | .truncatedHeader => text "TRUNCATED_HEADER"
  | .truncatedPayload => text "TRUNCATED_PAYLOAD"
  | .oversizedFrame => text "OVERSIZED_FRAME"
  | .checksumMismatch => text "CHECKSUM_MISMATCH"
  | .unknownMessage => text "UNKNOWN_MESSAGE"
  | .malformedPayload => text "MALFORMED_PAYLOAD"
  | .absurdLength => text "ABSURD_LENGTH"
  | .trailingGarbage => text "TRAILING_GARBAGE"
  | .invalidEnum => text "INVALID_ENUM"
  | .invalidIdentity => text "INVALID_IDENTITY"
  | .connectionClosed => text "CONNECTION_CLOSED"
  | .ioError => text "IO_ERROR"
  | .notConnected => text "NOT_CONNECTED"
  | .alreadyRunning => text "ALREADY_RUNNING"
  | .notRunning => text "NOT_RUNNING"
  | .shutdownInProgress => text "SHUTDOWN_IN_PROGRESS"
  | .rejected => text "REJECTED"

/-- `reason_code`: the name of the status in lower case. -/
def ProtocolStatus.reasonCode (status : ProtocolStatus) : Text :=
  status.toText.map fun c => if 65 ≤ c ∧ c ≤ 90 then c - 65 + 97 else c

inductive MessageType
  | invalid | hello | helloAck | registerPublisher | registerAck | publishRequest | publishResult
  | heartbeat | heartbeatAck | snapshotRequest | snapshotResponse | validateSnapshotRequest
  | validateSnapshotResponse | revalidateRequest | revalidateResponse | shutdown | error
  deriving DecidableEq, Repr

instance : Enumeration MessageType where
  all := [.invalid, .hello, .helloAck, .registerPublisher, .registerAck, .publishRequest,
    .publishResult, .heartbeat, .heartbeatAck, .snapshotRequest, .snapshotResponse,
    .validateSnapshotRequest, .validateSnapshotResponse, .revalidateRequest,
    .revalidateResponse, .shutdown, .error]
  mem_all e := by cases e <;> decide

def MessageType.toText : MessageType → Text
  | .invalid => text "INVALID"
  | .hello => text "HELLO"
  | .helloAck => text "HELLO_ACK"
  | .registerPublisher => text "REGISTER_PUBLISHER"
  | .registerAck => text "REGISTER_ACK"
  | .publishRequest => text "PUBLISH_REQUEST"
  | .publishResult => text "PUBLISH_RESULT"
  | .heartbeat => text "HEARTBEAT"
  | .heartbeatAck => text "HEARTBEAT_ACK"
  | .snapshotRequest => text "SNAPSHOT_REQUEST"
  | .snapshotResponse => text "SNAPSHOT_RESPONSE"
  | .validateSnapshotRequest => text "VALIDATE_SNAPSHOT_REQUEST"
  | .validateSnapshotResponse => text "VALIDATE_SNAPSHOT_RESPONSE"
  | .revalidateRequest => text "REVALIDATE_REQUEST"
  | .revalidateResponse => text "REVALIDATE_RESPONSE"
  | .shutdown => text "SHUTDOWN"
  | .error => text "ERROR"

/-- The number of a type in a frame. -/
def MessageType.code (type : MessageType) : UInt16 := .ofNat (Enumeration.raw type)

/-- `kMaxMessageTypeRaw`. -/
def maxMessageTypeRaw : UInt8 := 16

/-! ## Frames -/

/-- `kProtocolMagic`: the bytes of "CPF1". -/
def protocolMagic : UInt32 := 0x31465043

def protocolVersion : UInt16 := 1

/-- `kFrameHeaderSize`. -/
def frameHeaderSize : Nat := 28

/-- `kMaxFramePayloadBytes`: 1 MiB. -/
def maxFramePayloadBytes : UInt32 := 1048576

/-- `kAbsoluteMaxFramePayloadBytes`: 16 MiB. -/
def absoluteMaxFramePayloadBytes : UInt32 := 16 * 1048576

/-- The type is any number of its width: the cast to `MessageType` keeps those
that are not declared. -/
structure FrameHeader where
  magic : UInt32 := 0
  version : UInt16 := 0
  type : UInt16 := 0
  flags : UInt32 := 0
  sequence : UInt64 := 0
  payloadLength : UInt32 := 0
  checksum : UInt32 := 0
  deriving DecidableEq

structure Frame where
  header : FrameHeader
  payload : Text
  consumed : Nat
  deriving DecidableEq

/-- A `FrameOutcome` that is not Ok, with the header as far as it was parsed. -/
structure FrameFailure where
  status : ProtocolStatus
  header : FrameHeader
  error : StructuredError
  deriving DecidableEq

def frameFailure (header : FrameHeader) (status : ProtocolStatus) (message : Text) :
    FrameFailure where
  status := status
  header := header
  error := { StructuredError.make .protocol .decode status.reasonCode message with
    subject := text "frame" }

/-- The maximum that a caller asks for, cut to the absolute one. -/
def boundedMax (maxPayload : UInt32) : UInt32 :=
  if absoluteMaxFramePayloadBytes < maxPayload then absoluteMaxFramePayloadBytes else maxPayload

/-- The header up to its checksum. -/
def writeFrameStart (header : FrameHeader) : Write := do
  ByteWriter.u32 header.magic
  ByteWriter.u16 header.version
  ByteWriter.u16 header.type
  ByteWriter.u32 header.flags
  ByteWriter.u64 header.sequence
  ByteWriter.u32 header.payloadLength

def readFrameHeader : ByteReader FrameHeader := do
  let magic ← ByteReader.u32
  let version ← ByteReader.u16
  let type ← ByteReader.u16
  let flags ← ByteReader.u32
  let sequence ← ByteReader.u64
  let payloadLength ← ByteReader.u32
  let checksum ← ByteReader.u32
  pure { magic, version, type, flags, sequence, payloadLength, checksum }

/-- The header of a payload before its checksum is known. -/
def plainHeader (type : UInt16) (sequence : UInt64) (flags : UInt32) (payload : Text) :
    FrameHeader where
  magic := protocolMagic
  version := protocolVersion
  type := type
  flags := flags
  sequence := sequence
  payloadLength := .ofNat payload.length

/-- `encode_frame`. -/
def encodeFrame (type : UInt16) (sequence : UInt64) (payload : Text) (flags maxPayload : UInt32) :
    Text :=
  if (boundedMax maxPayload).toNat < payload.length then []
  else
    let header := (writeFrameStart (plainHeader type sequence flags payload)).output {}
    if header.failed ∨ header.data.length ≠ frameHeaderSize - 4 then []
    else
      let frame := header.data ++ payload
      frame.take (frameHeaderSize - 4) ++ storeUint 4 (crc32 frame).toNat ++
        frame.drop (frameHeaderSize - 4)

/-- `decode_frame`. -/
def decodeFrame (bytes : Text) (maxPayload : UInt32) : Except FrameFailure Frame :=
  if bytes.length < frameHeaderSize then
    .error (frameFailure {} .truncatedHeader
      (text "fewer than 28 bytes are available for a frame header"))
  else match readFrameHeader.run bytes with
    | .error _ => .error (frameFailure {} .truncatedHeader (text "frame header is truncated"))
    | .ok (header, rest) =>
      let payload := (bytes.drop frameHeaderSize).take header.payloadLength.toNat
      if header.magic ≠ protocolMagic then
        .error (frameFailure header .badMagic (text "frame magic does not match CPF1"))
      else if header.version ≠ protocolVersion then
        .error (frameFailure header .unsupportedVersion
          (text "frame protocol version " ++ decimal header.version.toNat ++
            text " is not supported"))
      -- The cast to a byte drops the upper half of the type.
      else if maxMessageTypeRaw < header.type.toUInt8 then
        .error (frameFailure header .unknownMessage
          (text "frame message type " ++ decimal header.type.toNat ++ text " is not declared"))
      else if boundedMax maxPayload < header.payloadLength then
        .error (frameFailure header .oversizedFrame
          (text "declared payload length " ++ decimal header.payloadLength.toNat ++
            text " exceeds the configured maximum " ++ decimal (boundedMax maxPayload).toNat))
      else if rest.length < header.payloadLength.toNat then
        .error (frameFailure header .truncatedPayload
          (text "declared payload length " ++ decimal header.payloadLength.toNat ++
            text " exceeds the available bytes"))
      else if crc32Extend (crc32Extend 0xFFFFFFFF (bytes.take (frameHeaderSize - 4))) payload ^^^
          0xFFFFFFFF ≠ header.checksum then
        .error (frameFailure header .checksumMismatch
          (text "frame checksum does not match the header and payload"))
      else .ok { header, payload, consumed := frameHeaderSize + header.payloadLength.toNat }

end ClusterFabric
