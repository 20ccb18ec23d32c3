import ClusterFabric.Lib.Digits
import ClusterFabric.Model.Identity

/-! # Texts of counters and boot identities

`generation.cpp` and the boot identities of `identity.cpp`. The process id, the
sequence number and the mixed clock that `make_boot_id_text` takes from its
surroundings are parameters here.
-/

namespace ClusterFabric

open Lib

/-! ## Counters -/

/-- `kMaxCounterDigits`. -/
def maxCounterDigits : Nat := 20

def decimalChar (digit : Nat) : UInt8 := UInt8.ofNat (48 + digit)

/-- The text, whichever buffer of the ring it is written to. -/
def renderCounter (value : UInt64) : Text :=
  ((Digits.low 10 maxCounterDigits value.toNat).map decimalChar).reverse

/-- One turn of the loop of `parse_counter_text`. -/
def parseCounterDigit (value : UInt64) (c : UInt8) : Option UInt64 :=
  if c < 48 || 57 < c then none
  else
    let digit := (c - 48).toUInt64
    -- `kMax` is the greatest 64-bit value
    if (0xFFFFFFFFFFFFFFFF - digit) / 10 < value then none
    else some (value * 10 + digit)

def parseCounterText (text : Text) (allowZero : Bool) : Option UInt64 :=
  if text.isEmpty then none
  else if maxCounterDigits < text.length then none
  else
    match text.foldlM parseCounterDigit 0 with
    | none => none
    | some value => if value == 0 && !allowZero then none else some value

/-! ## Boot identities -/

/-- `kFallbackPrefix`. -/
def fallbackPrefix : Text := text "boot"

/-- After nineteen divisions a 64-bit value is below ten. -/
def decimalDigits (value : UInt64) : Nat := Digits.count 10 19 value.toNat

def hexDigits (value : UInt64) : Nat := Digits.count 16 15 value.toNat

def hexChar (digit : Nat) : UInt8 := (text "0123456789abcdef").getD digit 0

def appendDecimal (out : Text) (value : UInt64) : Text :=
  out ++ ((Digits.low 10 20 value.toNat).map decimalChar).reverse

def appendHex (out : Text) (value : UInt64) : Text :=
  out ++ ((Digits.low 16 16 value.toNat).map hexChar).reverse

def suffixLength (pid sequence mix : UInt64) : Nat :=
  3 + decimalDigits pid + decimalDigits sequence + hexDigits mix

/-- How much of a prefix of the given length stays. -/
def keptPrefix (length suffix : Nat) : Nat :=
  if maxIdentityLength < length + suffix then
    if suffix < maxIdentityLength then maxIdentityLength - suffix else 0
  else length

def compose (prefixText : Text) (pid sequence mix : UInt64) : Text :=
  let out := prefixText.take (keptPrefix prefixText.length (suffixLength pid sequence mix))
  let out := appendDecimal (out ++ [45]) pid
  let out := appendDecimal (out ++ [45]) sequence
  appendHex (out ++ [45]) mix

def makeBootIdText (prefixText : Text) (pid sequence mix : UInt64) : Text :=
  let safePrefix := if (validateIdentity prefixText).isOk then prefixText else fallbackPrefix
  let composed := compose safePrefix pid sequence mix
  if !(validateIdentity composed).isOk then compose [] pid sequence mix else composed

end ClusterFabric
