import ClusterFabric.Lib.Exact
import ClusterFabric.Model.Frame

/-! # Framing

A frame is decoded from exactly the bytes that `encodeFrame` gives for its type,
sequence, flags and payload, so that frames behind each other are told apart. Only the
type is compared through its low byte: a type above 255 whose low byte is declared
passes (`framing_exact_iff`).
-/

namespace ClusterFabric

open Lib Codec

variable {header : FrameHeader} {bytes : Text} {frame : Frame}

/-! ## Numbers -/

section Numbers

variable {ε : Type} (e : ε)

theorem spells_u16 (value : UInt16) :
    Spells maxWriterBytes (ByteWriter.u16 value) (storeUint 2 value.toNat) := spells_uint 2 0 _

theorem spells_u32 (value : UInt32) :
    Spells maxWriterBytes (ByteWriter.u32 value) (storeUint 4 value.toNat) := spells_uint 4 0 _

theorem spells_u64 (value : UInt64) :
    Spells maxWriterBytes (ByteWriter.u64 value) (storeUint 8 value.toNat) := spells_uint 8 0 _

theorem exact_u16 : Exact maxWriterBytes (fun _ => True) ByteWriter.u16
    (UInt16.ofNat <$> readUint e 2 0 0) := by
  refine (ExactOn.map UInt16.toNat UInt16.ofNat (exact_uint e 2) ?_).congr fun value => ?_
  · intro n hn
    exact UInt16.toNat_ofNat_of_lt hn
  · exact iff_of_true ⟨value.toNat_lt, UInt16.ofNat_toNat⟩ trivial

theorem exact_u32 : Exact maxWriterBytes (fun _ => True) ByteWriter.u32
    (UInt32.ofNat <$> readUint e 4 0 0) := by
  refine (ExactOn.map UInt32.toNat UInt32.ofNat (exact_uint e 4) ?_).congr fun value => ?_
  · intro n hn
    exact UInt32.toNat_ofNat_of_lt hn
  · exact iff_of_true ⟨value.toNat_lt, UInt32.ofNat_toNat⟩ trivial

theorem exact_u64 : Exact maxWriterBytes (fun _ => True) ByteWriter.u64
    (UInt64.ofNat <$> readUint e 8 0 0) := by
  refine (ExactOn.map UInt64.toNat UInt64.ofNat (exact_uint e 8) ?_).congr fun value => ?_
  · intro n hn
    exact UInt64.toNat_ofNat_of_lt hn
  · exact iff_of_true ⟨value.toNat_lt, UInt64.ofNat_toNat⟩ trivial

end Numbers

/-! ## The header -/

/-- The bytes of a header up to its checksum. -/
def frameStart (header : FrameHeader) : Text :=
  storeUint 4 header.magic.toNat ++ (storeUint 2 header.version.toNat ++
    (storeUint 2 header.type.toNat ++ (storeUint 4 header.flags.toNat ++
      (storeUint 8 header.sequence.toNat ++ storeUint 4 header.payloadLength.toNat))))

theorem length_frameStart (header : FrameHeader) :
    (frameStart header).length = frameHeaderSize - 4 := by
  simp [frameStart, frameHeaderSize]

theorem spells_frameStart (header : FrameHeader) :
    Spells maxWriterBytes (writeFrameStart header) (frameStart header) := by
  refine (spells_u32 _).bind ?_
  refine (spells_u16 _).bind ?_
  refine (spells_u16 _).bind ?_
  refine (spells_u32 _).bind ?_
  refine (spells_u64 _).bind ?_
  exact spells_u32 _

/-- A whole header, as `readFrameHeader` reads it. -/
def writeFrameHeader (header : FrameHeader) : Write := do
  ByteWriter.u32 header.magic
  ByteWriter.u16 header.version
  ByteWriter.u16 header.type
  ByteWriter.u32 header.flags
  ByteWriter.u64 header.sequence
  ByteWriter.u32 header.payloadLength
  ByteWriter.u32 header.checksum

theorem exact_frameHeader :
    Exact maxWriterBytes (fun _ => True) writeFrameHeader readFrameHeader := by
  refine .total (exact_u32 ()) fun _ => ?_
  refine .total (exact_u16 ()) fun _ => ?_
  refine .total (exact_u16 ()) fun _ => ?_
  refine .total (exact_u32 ()) fun _ => ?_
  refine .total (exact_u64 ()) fun _ => ?_
  refine .total (exact_u32 ()) fun _ => ?_
  refine .last (exact_u32 ()) (fun _ _ => trivial) ?_ fun _ _ => ?_
  · rintro header ⟨rfl, rfl, rfl, rfl, rfl, rfl, -⟩
    rfl
  · exact ⟨⟨rfl, rfl, rfl, rfl, rfl, rfl, rfl, trivial⟩, trivial⟩

theorem spells_frameHeader (header : FrameHeader) :
    Spells maxWriterBytes (writeFrameHeader header)
      (frameStart header ++ storeUint 4 header.checksum.toNat) := by
  simp only [frameStart, List.append_assoc]
  refine (spells_u32 _).bind ?_
  refine (spells_u16 _).bind ?_
  refine (spells_u16 _).bind ?_
  refine (spells_u32 _).bind ?_
  refine (spells_u64 _).bind ?_
  refine (spells_u32 _).bind ?_
  exact spells_u32 _

/-- The bytes that a header is read from. -/
theorem run_readFrameHeader {rest : Text} :
    readFrameHeader.run bytes = .ok (header, rest) ↔
      bytes = frameStart header ++ storeUint 4 header.checksum.toNat ++ rest := by
  have hspells := spells_frameHeader header
  have hshort : (frameStart header ++ storeUint 4 header.checksum.toNat).length ≤
      maxWriterBytes := by
    rw [List.length_append, length_frameStart, length_storeUint]
    decide
  constructor
  · intro hrun
    obtain ⟨-, -, read, rfl, hread⟩ := exact_frameHeader.decoded _ _ _ hrun
    rw [hspells.unique hread hshort]
  · rintro rfl
    obtain ⟨written, hwritten, hread⟩ := exact_frameHeader.encoded header trivial trivial
    rw [← hspells.unique hwritten hshort]
    exact hread rest

/-! ## Frames -/

theorem crc32Extend_append (crc : UInt32) (a b : Text) :
    crc32Extend crc (a ++ b) = crc32Extend (crc32Extend crc a) b := List.foldl_append

theorem boundedMax_le (maxPayload : UInt32) : (boundedMax maxPayload).toNat ≤ 2 ^ 24 := by
  have habsolute : absoluteMaxFramePayloadBytes.toNat = 2 ^ 24 := rfl
  unfold boundedMax
  split_ifs with hlt
  · exact habsolute.le
  · rw [← habsolute]
    exact UInt32.le_iff_toNat_le.mp (UInt32.not_lt.mp hlt)

section Frames

variable (type : UInt16) (sequence : UInt64) (flags : UInt32) (payload : Text)

/-- The frame that carries a payload. -/
def frameOf : Frame where
  header :=
    { plainHeader type sequence flags payload with
      checksum := crc32 (frameStart (plainHeader type sequence flags payload) ++ payload) }
  payload := payload
  consumed := frameHeaderSize + payload.length

variable {type sequence flags payload} {maxPayload : UInt32}

theorem encodeFrame_eq (h : payload.length ≤ (boundedMax maxPayload).toNat) :
    encodeFrame type sequence payload flags maxPayload =
      frameStart (frameOf type sequence flags payload).header ++
        storeUint 4 (frameOf type sequence flags payload).header.checksum.toNat ++ payload := by
  have hlength := length_frameStart (plainHeader type sequence flags payload)
  obtain ⟨hok, hdata⟩ :=
    (spells_frameStart (plainHeader type sequence flags payload)).output_empty.1
      (by rw [hlength]; decide)
  simp only [encodeFrame, if_neg (Nat.not_lt.mpr h), hok, hdata, hlength, Bool.false_eq_true,
    ne_eq, not_true_eq_false, or_self, if_false, List.take_left' hlength, List.drop_left' hlength]
  rfl

theorem length_encodeFrame (h : payload.length ≤ (boundedMax maxPayload).toNat) :
    (encodeFrame type sequence payload flags maxPayload).length =
      (frameOf type sequence flags payload).consumed := by
  rw [encodeFrame_eq h, List.length_append, List.length_append, length_frameStart,
    length_storeUint]
  rfl

/-- The checks that a decoded frame has passed. -/
theorem decodeFrame_eq_ok :
    decodeFrame bytes maxPayload = .ok frame ↔ ∃ header rest,
      bytes = frameStart header ++ storeUint 4 header.checksum.toNat ++ rest ∧
      header.magic = protocolMagic ∧ header.version = protocolVersion ∧
      header.type.toUInt8 ≤ maxMessageTypeRaw ∧ header.payloadLength ≤ boundedMax maxPayload ∧
      header.payloadLength.toNat ≤ rest.length ∧
      crc32 (frameStart header ++ rest.take header.payloadLength.toNat) = header.checksum ∧
      frame = Frame.mk header (rest.take header.payloadLength.toNat)
        (frameHeaderSize + header.payloadLength.toNat) := by
  unfold decodeFrame
  cases hrun : readFrameHeader.run bytes with
  | error e =>
    rw [ite_error_eq_ok]
    constructor
    · rintro ⟨-, h⟩
      cases h
    · rintro ⟨header, rest, hbytes, -⟩
      exact nomatch hrun.symm.trans (run_readFrameHeader.mpr hbytes)
  | ok result =>
    obtain ⟨header, rest⟩ := result
    have hbytes := run_readFrameHeader.mp hrun
    have hstart := length_frameStart header
    have hlong : ¬ bytes.length < frameHeaderSize := by
      rw [hbytes, List.length_append, List.length_append, hstart, length_storeUint, frameHeaderSize]
      omega
    have htake : bytes.take (frameHeaderSize - 4) = frameStart header := by
      rw [hbytes, List.append_assoc, List.take_left' hstart]
    have hdrop : bytes.drop frameHeaderSize = rest := by
      rw [hbytes]
      refine List.drop_left' ?_
      rw [List.length_append, hstart, length_storeUint]
      rfl
    simp only [ite_error_eq_ok, htake, hdrop, ← crc32Extend_append, hlong, not_false_eq_true,
      true_and, ne_eq, not_not, Nat.not_lt, UInt32.not_lt, UInt8.not_lt, Except.ok.injEq]
    constructor
    · rintro ⟨hmagic, hversion, htype, hmax, hroom, hchecksum, rfl⟩
      exact ⟨header, rest, hbytes, hmagic, hversion, htype, hmax, hroom, hchecksum, rfl⟩
    · rintro ⟨header', rest', hbytes', h⟩
      have hsame := hrun.symm.trans (run_readFrameHeader.mpr hbytes')
      obtain ⟨rfl, rfl⟩ := Prod.mk.inj (Except.ok.inj hsame)
      obtain ⟨hmagic, hversion, htype, hmax, hroom, hchecksum, rfl⟩ := h
      exact ⟨hmagic, hversion, htype, hmax, hroom, hchecksum, rfl⟩

/-- What stands behind a frame does not matter to its decoding. -/
theorem decodeFrame_encodeFrame (htype : type.toUInt8 ≤ maxMessageTypeRaw)
    (h : payload.length ≤ (boundedMax maxPayload).toNat) (rest : Text) :
    decodeFrame (encodeFrame type sequence payload flags maxPayload ++ rest) maxPayload =
      .ok (frameOf type sequence flags payload) := by
  have hmax := boundedMax_le maxPayload
  have hcount : (frameOf type sequence flags payload).header.payloadLength.toNat =
      payload.length := UInt32.toNat_ofNat_of_lt' (by simp only [UInt32.size]; omega)
  have htake : (payload ++ rest).take
      (frameOf type sequence flags payload).header.payloadLength.toNat = payload := by
    rw [hcount, List.take_left]
  refine decodeFrame_eq_ok.mpr ⟨(frameOf type sequence flags payload).header, payload ++ rest,
    ?_, rfl, rfl, htype, ?_, ?_, ?_, ?_⟩
  · rw [encodeFrame_eq h, List.append_assoc]
  · rw [UInt32.le_iff_toNat_le, hcount]
    exact h
  · rw [hcount, List.length_append]
    omega
  · rw [htake]
    rfl
  · rw [htake, hcount]
    rfl

/-- A header that fits its payload is the header of that payload. -/
theorem frameOf_eq (hmagic : header.magic = protocolMagic)
    (hversion : header.version = protocolVersion)
    (hlength : payload.length = header.payloadLength.toNat)
    (hchecksum : crc32 (frameStart header ++ payload) = header.checksum) :
    frameOf header.type header.sequence header.flags payload =
      ⟨header, payload, frameHeaderSize + header.payloadLength.toNat⟩ := by
  obtain ⟨magic, version, type, flags, sequence, count, checksum⟩ := header
  subst hmagic hversion
  have hplain : plainHeader type sequence flags payload =
      { magic := protocolMagic, version := protocolVersion, type, flags, sequence,
        payloadLength := count } := by
    rw [plainHeader, hlength, UInt32.ofNat_toNat]
  -- The checksum is not part of what it covers.
  have hsum : crc32 (frameStart
      { magic := protocolMagic, version := protocolVersion, type, flags, sequence,
        payloadLength := count } ++ payload) = checksum := hchecksum
  simp only [frameOf, hplain, hsum, hlength]

/-- A decoded frame stands at the front of the bytes. -/
theorem encodeFrame_of_decodeFrame (h : decodeFrame bytes maxPayload = .ok frame) :
    ∃ type sequence flags payload rest, type.toUInt8 ≤ maxMessageTypeRaw ∧
      payload.length ≤ (boundedMax maxPayload).toNat ∧
      bytes = encodeFrame type sequence payload flags maxPayload ++ rest ∧
      frame = frameOf type sequence flags payload := by
  obtain ⟨header, behind, hbytes, hmagic, hversion, htype, hmax, hroom, hchecksum, hframe⟩ :=
    decodeFrame_eq_ok.mp h
  have hlength : (behind.take header.payloadLength.toNat).length = header.payloadLength.toNat := by
    rw [List.length_take]
    omega
  have hfits : (behind.take header.payloadLength.toNat).length ≤ (boundedMax maxPayload).toNat := by
    rw [hlength]
    exact UInt32.le_iff_toNat_le.mp hmax
  have hof := frameOf_eq hmagic hversion hlength hchecksum
  refine ⟨header.type, header.sequence, header.flags, behind.take header.payloadLength.toNat,
    behind.drop header.payloadLength.toNat, htype, hfits, ?_, hframe.trans hof.symm⟩
  rw [encodeFrame_eq hfits, hof, List.append_assoc, List.take_append_drop, hbytes]

end Frames

/-! ## Exactness -/

theorem toNat_code (type : MessageType) : type.code.toNat = Enumeration.raw type :=
  UInt16.toNat_ofNat_of_lt' (Nat.lt_trans (Enumeration.raw_lt_byte type) (by decide))

theorem code_le (type : MessageType) : type.code.toNat ≤ 16 := by
  rw [toNat_code]
  exact Nat.le_of_lt_succ (Enumeration.raw_lt type)

/-- The number of a declared type passes the check of its low byte. -/
theorem code_toUInt8_le (type : MessageType) : type.code.toUInt8 ≤ maxMessageTypeRaw := by
  have hle := code_le type
  rw [UInt8.le_iff_toNat_le, UInt16.toNat_toUInt8]
  exact (Nat.mod_le _ _).trans hle

/-- A number below 256 that passes the check is that of a declared type. -/
theorem exists_code {type : UInt16} (h : type.toUInt8 ≤ maxMessageTypeRaw) (hbyte : type < 256) :
    ∃ declared : MessageType, declared.code = type := by
  have hlt : type.toNat < 256 := UInt16.lt_iff_toNat_lt.mp hbyte
  have hle : type.toNat ≤ 16 := by
    rw [UInt8.le_iff_toNat_le, UInt16.toNat_toUInt8, Nat.mod_eq_of_lt hlt] at h
    exact h
  have hbound : type.toNat < (Enumeration.all (E := MessageType)).length := by
    change type.toNat < 17
    omega
  refine ⟨(Enumeration.all (E := MessageType))[type.toNat], UInt16.toNat_inj.mp ?_⟩
  rw [toNat_code, Enumeration.raw]
  exact List.Nodup.idxOf_getElem (by decide) _ _

/-- Decoding accepts exactly the frames of declared types within the maximum, and
returns what they carry. -/
def FramesExactly (maxPayload : UInt32) (bytes : Text) : Prop :=
  ((∃ frame, decodeFrame bytes maxPayload = .ok frame) ↔
    ∃ (type : MessageType) (sequence : UInt64) (flags : UInt32) (payload : Text),
      payload.length ≤ (boundedMax maxPayload).toNat ∧
      encodeFrame type.code sequence payload flags maxPayload <+: bytes) ∧
  ∀ (type : MessageType) (sequence : UInt64) (flags : UInt32) (payload : Text),
    payload.length ≤ (boundedMax maxPayload).toNat →
    encodeFrame type.code sequence payload flags maxPayload <+: bytes →
    ∃ frame, decodeFrame bytes maxPayload = .ok frame ∧ frame.header.type = type.code ∧
      frame.header.sequence = sequence ∧ frame.header.flags = flags ∧ frame.payload = payload ∧
      frame.consumed = (encodeFrame type.code sequence payload flags maxPayload).length

/-- A frame at the front is decoded. -/
theorem decodeFrame_of_isPrefix {maxPayload : UInt32} {type : MessageType} {sequence : UInt64}
    {flags : UInt32} {payload : Text} (h : payload.length ≤ (boundedMax maxPayload).toNat)
    (hfront : encodeFrame type.code sequence payload flags maxPayload <+: bytes) :
    decodeFrame bytes maxPayload = .ok (frameOf type.code sequence flags payload) := by
  obtain ⟨rest, rfl⟩ := hfront
  exact decodeFrame_encodeFrame (code_toUInt8_le type) h rest

/-- A frame to be sent. -/
structure OutgoingFrame (maxPayload : UInt32) where
  type : MessageType
  sequence : UInt64
  flags : UInt32
  payload : Text
  fits : payload.length ≤ (boundedMax maxPayload).toNat

namespace OutgoingFrame

variable {maxPayload : UInt32}

def encode (frame : OutgoingFrame maxPayload) : Text :=
  encodeFrame frame.type.code frame.sequence frame.payload frame.flags maxPayload

/-- What the receiver decodes. -/
def received (frame : OutgoingFrame maxPayload) : Frame :=
  frameOf frame.type.code frame.sequence frame.flags frame.payload

theorem length_encode (frame : OutgoingFrame maxPayload) :
    frame.encode.length = frame.received.consumed := length_encodeFrame frame.fits

theorem decode_encode (frame : OutgoingFrame maxPayload) (rest : Text) :
    decodeFrame (frame.encode ++ rest) maxPayload = .ok frame.received :=
  decodeFrame_encodeFrame (code_toUInt8_le frame.type) frame.fits rest

end OutgoingFrame

/-- A decoded frame takes bytes from the front. -/
theorem consumed_of_decodeFrame {maxPayload : UInt32}
    (h : decodeFrame bytes maxPayload = .ok frame) :
    0 < frame.consumed ∧ frame.consumed ≤ bytes.length := by
  obtain ⟨type, sequence, flags, payload, rest, -, hfits, rfl, rfl⟩ := encodeFrame_of_decodeFrame h
  have hlength := @length_encodeFrame type sequence flags payload maxPayload hfits
  rw [List.length_append, hlength]
  exact ⟨Nat.add_pos_left (by decide) _, Nat.le_add_right _ _⟩

/-- Repeated decoding: one frame after the other until the bytes are used up. -/
def decodeFrames (maxPayload : UInt32) (bytes : Text) : Option (List Frame) :=
  if bytes.isEmpty then some []
  else match h : decodeFrame bytes maxPayload with
    | .error _ => none
    | .ok frame => (decodeFrames maxPayload (bytes.drop frame.consumed)).map (frame :: ·)
termination_by bytes.length
decreasing_by
  obtain ⟨hpos, hle⟩ := consumed_of_decodeFrame h
  rw [List.length_drop]
  omega

theorem decodeFrames_cons {maxPayload : UInt32} (frame : OutgoingFrame maxPayload) (rest : Text) :
    decodeFrames maxPayload (frame.encode ++ rest) =
      (decodeFrames maxPayload rest).map (frame.received :: ·) := by
  have hdecode := frame.decode_encode rest
  have hnonempty : (frame.encode ++ rest).isEmpty = false := by
    have hpos := (consumed_of_decodeFrame hdecode).1
    rw [← frame.length_encode] at hpos
    rw [List.isEmpty_eq_false_iff, ← List.length_pos_iff, List.length_append]
    omega
  rw [decodeFrames, hnonempty, if_neg Bool.false_ne_true]
  split
  · next failure hfailure => exact nomatch hdecode.symm.trans hfailure
  · next decoded hdecoded =>
    obtain rfl := Except.ok.inj (hdecoded.symm.trans hdecode)
    rw [← frame.length_encode, List.drop_left]

/-- Frames behind each other are decoded in order. -/
theorem decodeFrames_flatMap {maxPayload : UInt32} (frames : List (OutgoingFrame maxPayload)) :
    decodeFrames maxPayload (frames.flatMap OutgoingFrame.encode) =
      some (frames.map OutgoingFrame.received) := by
  induction frames with
  | nil => rw [List.flatMap_nil, decodeFrames, List.isEmpty_nil, if_pos rfl, List.map_nil]
  | cons frame frames ih => rw [List.flatMap_cons, decodeFrames_cons, ih, Option.map_some,
      List.map_cons]

/-- The bytes start with a frame within the maximum, with its checksum, whose type is declared as
far as its low byte tells. -/
def StartsFramed (maxPayload : UInt32) (bytes : Text) : Prop :=
  ∃ type sequence flags payload, type.toUInt8 ≤ maxMessageTypeRaw ∧
    payload.length ≤ (boundedMax maxPayload).toNat ∧
    encodeFrame type sequence payload flags maxPayload <+: bytes

/-- The high byte of the type is the eighth of a frame. -/
theorem typeByte_of_isPrefix {maxPayload : UInt32} {type : UInt16} {sequence : UInt64}
    {flags : UInt32} {payload : Text} (h : payload.length ≤ (boundedMax maxPayload).toNat)
    (hfront : encodeFrame type sequence payload flags maxPayload <+: bytes) :
    bytes[7]? = some 0 ↔ type < 256 := by
  obtain ⟨rest, rfl⟩ := hfront
  have hbyte : (encodeFrame type sequence payload flags maxPayload ++ rest)[7]? =
      some (type.toNat / 256 % 256).toUInt8 := by
    rw [encodeFrame_eq h]
    rfl
  have hlt := type.toNat_lt
  have h256 : (256 : UInt16).toNat = 256 := rfl
  rw [hbyte, Option.some.injEq, UInt16.lt_iff_toNat_lt, h256, ← UInt8.toNat_inj, UInt8.toNat_zero,
    Nat.toUInt8_eq, UInt8.toNat_ofNat']
  omega

/-- **Framing.** Decoding accepts exactly the frames of declared types, from bytes that do not
start with a frame whose type has a high byte other than zero. Repeated decoding of
frames behind each other returns them in order. -/
theorem framing_exact_iff (maxPayload : UInt32) :
    (∀ bytes : Text, FramesExactly maxPayload bytes ↔
      (StartsFramed maxPayload bytes → bytes[7]? = some 0)) ∧
    ∀ frames : List (OutgoingFrame maxPayload),
      decodeFrames maxPayload (frames.flatMap OutgoingFrame.encode) =
        some (frames.map OutgoingFrame.received) := by
  refine ⟨fun bytes => ⟨?_, fun hbyte => ⟨⟨?_, ?_⟩, ?_⟩⟩, decodeFrames_flatMap⟩
  · rintro ⟨haccepts, -⟩ ⟨type, sequence, flags, payload, htype, hfits, rest, rfl⟩
    have hdecode := @decodeFrame_encodeFrame type sequence flags payload _ htype hfits rest
    obtain ⟨declared, sequence', flags', payload', hfits', hfront⟩ := haccepts.mp ⟨_, hdecode⟩
    rw [typeByte_of_isPrefix hfits' hfront, UInt16.lt_iff_toNat_lt]
    exact Nat.lt_of_le_of_lt (code_le declared) (by decide)
  · rintro ⟨frame, hdecode⟩
    obtain ⟨type, sequence, flags, payload, rest, htype, hfits, rfl, -⟩ :=
      encodeFrame_of_decodeFrame hdecode
    have hfront := List.prefix_append (encodeFrame type sequence payload flags maxPayload) rest
    have hlt := (typeByte_of_isPrefix hfits hfront).mp
      (hbyte ⟨type, sequence, flags, payload, htype, hfits, hfront⟩)
    obtain ⟨declared, rfl⟩ := exists_code htype hlt
    exact ⟨declared, sequence, flags, payload, hfits, rest, rfl⟩
  · rintro ⟨type, sequence, flags, payload, hfits, hfront⟩
    exact ⟨_, decodeFrame_of_isPrefix hfits hfront⟩
  · intro type sequence flags payload hfits hfront
    exact ⟨_, decodeFrame_of_isPrefix hfits hfront, rfl, rfl, rfl, rfl,
      (length_encodeFrame hfits).symm⟩

/-- A frame of type 257 is accepted, and it is no frame of a declared type. -/
theorem undeclared_type_accepted :
    (decodeFrame (encodeFrame 257 0 [] 0 maxFramePayloadBytes) maxFramePayloadBytes).isOk = true ∧
      ¬ ∃ (type : MessageType) (sequence : UInt64) (flags : UInt32) (payload : Text),
        payload.length ≤ (boundedMax maxFramePayloadBytes).toNat ∧
        encodeFrame type.code sequence payload flags maxFramePayloadBytes <+:
          encodeFrame 257 0 [] 0 maxFramePayloadBytes := by
  have hdecode : decodeFrame (encodeFrame 257 0 [] 0 maxFramePayloadBytes) maxFramePayloadBytes =
      .ok (frameOf 257 0 0 []) := by
    have hframe := @decodeFrame_encodeFrame 257 0 0 [] maxFramePayloadBytes (by decide)
      (Nat.zero_le _) []
    rwa [List.append_nil] at hframe
  refine ⟨by rw [hdecode]; rfl, ?_⟩
  rintro ⟨type, sequence, flags, payload, hfits, hfront⟩
  have hother := decodeFrame_of_isPrefix hfits hfront
  have htype : (257 : UInt16) = type.code :=
    congrArg (fun frame : Frame => frame.header.type) (Except.ok.inj (hdecode.symm.trans hother))
  have hle := code_le type
  rw [← htype] at hle
  exact absurd hle (by decide)

end ClusterFabric
