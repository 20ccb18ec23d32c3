import ClusterFabric.Lib.Codec
import ClusterFabric.Model.Records

/-! # Bounded byte output and input

`ByteWriter`, `ByteReader` and `crc32` of `protocol.cpp`. A writer that failed
ignores what follows; a reader that failed yields nothing any more, so a failed
read ends the reads that depend on it.
-/

namespace ClusterFabric

open Lib Codec

/-- `kMaxPersistenceBytes`: 256 MiB. -/
def maxPersistenceBytes : Nat := 256 * 1048576

/-- `kMaxWriterBytes`. -/
def maxWriterBytes : Nat := maxPersistenceBytes

/-- The number of a counter as it is stored. -/
def StrongCounter.toRaw {tag : CounterTag} (c : StrongCounter tag) : UInt64 := .ofNat c.value

@[simp] theorem StrongCounter.fromRaw_toRaw {tag : CounterTag} (c : StrongCounter tag) :
    (fromRaw c.toRaw : StrongCounter tag) = c := by
  apply ext_value
  exact UInt64.toNat_ofNat_of_lt' c.isLt

/-! ## Output -/

namespace ByteWriter

def u8 (value : UInt8) : Write := emit maxWriterBytes [value]

def boolean (value : Bool) : Write := u8 (if value then 1 else 0)

/-- Whether an optional is present: one byte, as `boolean` writes it. -/
def optionalPresent (present : Bool) : Write := u8 (if present then 1 else 0)

def u16 (value : UInt16) : Write := writeUint u8 2 0 value.toNat

def u32 (value : UInt32) : Write := writeUint u8 4 0 value.toNat

def u64 (value : UInt64) : Write := writeUint u8 8 0 value.toNat

def i64 (value : Int64) : Write := u64 value.toUInt64

def f64 (value : F64) : Write := u64 value.bits

/-- A length and as many bytes. -/
def bytes (value : Text) : Write :=
  if maxEncodedStringBytes < value.length then refuse
  else do
    u32 (.ofNat value.length)
    if value.isEmpty then pure () else emit maxWriterBytes value

def text (value : Text) : Write := bytes value

/-! The source spells these out where it needs them. -/

def id {tag : IdTag} (id : StrongId tag) : Write := text id.value

def counter {tag : CounterTag} (c : StrongCounter tag) : Write := u64 c.toRaw

def timestamp (t : Timestamp) : Write := i64 t.unixMillis

def enum {E : Type} [DecidableEq E] [Enumeration E] (e : E) : Write :=
  u8 (.ofNat (Enumeration.raw e))

/-- An identity behind the byte that says whether it is there. -/
def optionalId {tag : IdTag} (id : Option (StrongId tag)) : Write := do
  optionalPresent id.isSome
  id.forM ByteWriter.id

/-- A number that is written in any case, as zero when it is absent. -/
def optionalU32 (value : Option UInt32) : Write := do
  optionalPresent value.isSome
  u32 (value.getD 0)

def optionalU64 (value : Option UInt64) : Write := do
  optionalPresent value.isSome
  u64 (value.getD 0)

/-- The size of a vector and its elements. -/
def vector {α : Type} (write : α → Write) (values : List α) : Write := do
  u32 (.ofNat values.length)
  values.forM write

end ByteWriter

/-! ## Input -/

/-- A read whose failure says nothing more. -/
abbrev ByteReader := Read Unit

namespace ByteReader

def u8 : ByteReader UInt8 := next ()

def boolean : ByteReader Bool := do
  let value ← u8
  ensure (value ≤ 1) ()
  pure (value == 1)

def u16 : ByteReader UInt16 := UInt16.ofNat <$> readUint () 2 0 0

def u32 : ByteReader UInt32 := UInt32.ofNat <$> readUint () 4 0 0

def u64 : ByteReader UInt64 := UInt64.ofNat <$> readUint () 8 0 0

def i64 : ByteReader Int64 := UInt64.toInt64 <$> u64

def f64 : ByteReader F64 := F64.mk <$> u64

def bytes : ByteReader Text := do
  let length ← u32
  ensure (length.toNat ≤ maxEncodedStringBytes) ()
  take () length.toNat

def text : ByteReader Text := bytes

def counter {tag : CounterTag} : ByteReader (StrongCounter tag) := StrongCounter.fromRaw <$> u64

def timestamp : ByteReader Timestamp := Timestamp.mk <$> i64

/-- A parsed identity; one that does not parse fails the reader. -/
def id {tag : IdTag} : ByteReader (StrongId tag) := do
  let value ← text
  demand (StrongId.parse value) ()

/-- An identity behind the byte that says whether it is there. -/
def optionalId {tag : IdTag} : ByteReader (Option (StrongId tag)) := do
  let present ← boolean
  readIf present id

/-- The enumerator of a byte, if it is not above the last one. -/
def enumOf {E : Type} [DecidableEq E] [Enumeration E] (value : UInt8) : Option E :=
  Enumeration.ofRaw? value.toNat

/-- `read_enum`. -/
def enum {E : Type} [DecidableEq E] [Enumeration E] : ByteReader E := do
  let value ← u8
  demand (enumOf value) ()

/-- `read_optional_u32`. -/
def optionalU32 : ByteReader (Option UInt32) := do
  let present ← boolean
  let value ← u32
  pure (if present then some value else none)

/-- `read_optional_u64`. -/
def optionalU64 : ByteReader (Option UInt64) := do
  let present ← boolean
  let value ← u64
  pure (if present then some value else none)

/-- `read_optional_text`. -/
def optionalText : ByteReader (Option Text) := do
  let present ← boolean
  readIf present text

/-- A size of at most `bound` and as many elements. -/
def vector {α : Type} (bound : Nat) (read : ByteReader α) : ByteReader (List α) := do
  let count ← u32
  ensure (count.toNat ≤ bound) ()
  times count.toNat read

end ByteReader

/-! ## Checksum -/

/-- One bit of the reflected IEEE polynomial. -/
def crc32Bit (crc : UInt32) : UInt32 :=
  if crc &&& 1 != 0 then (crc >>> 1) ^^^ 0xEDB88320 else crc >>> 1

/-- The entry of `kCrc32Table` at an index. -/
def crc32Entry (index : UInt32) : UInt32 := crc32Bit^[8] index

/-- `make_crc32_table`. -/
def makeCrc32Table : Array UInt32 := Array.ofFn fun index : Fin 256 => crc32Entry (.ofNat index)

/-- `crc32_extend` as the source has it, with a table built once. -/
def crc32ExtendBy (table : Array UInt32) (crc : UInt32) (bytes : Text) : UInt32 :=
  bytes.foldl (fun crc c => (crc >>> 8) ^^^ table[((crc ^^^ c.toUInt32) &&& 0xFF).toNat]!) crc

/-- `crc32_extend` with the entries of the table computed where they are read. -/
def crc32Extend (crc : UInt32) (bytes : Text) : UInt32 :=
  bytes.foldl (fun crc c => (crc >>> 8) ^^^ crc32Entry ((crc ^^^ c.toUInt32) &&& 0xFF)) crc

def crc32 (bytes : Text) : UInt32 := crc32Extend 0xFFFFFFFF bytes ^^^ 0xFFFFFFFF

end ClusterFabric
