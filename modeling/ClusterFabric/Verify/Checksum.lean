import ClusterFabric.Lib.Crc
import ClusterFabric.Model.Bytes

/-! # The checksum of containers and frames

`crc32_extend` reads a table of 256 entries that was built from the polynomial. It is
the reflected CRC-32 of the message bit by bit (`crc32_standard`).
-/

namespace ClusterFabric

open Lib

/-! ## The register -/

/-- The polynomial of `crc32`. -/
def crc32Poly : BitVec 32 := 0xEDB88320#32

theorem low_bit (c : UInt32) : (c &&& 1 != 0) = c.toBitVec.getLsbD 0 := by
  have hand : (c &&& 1).toBitVec = BitVec.setWidth 32 (BitVec.ofBool (c.toBitVec.getLsbD 0)) := by
    rw [UInt32.toBitVec_and]
    exact BitVec.and_one_eq_setWidth_ofBool_getLsbD
  cases hbit : c.toBitVec.getLsbD 0 with
  | true =>
    have hone : c &&& 1 = 1 := UInt32.toBitVec_inj.mp (by rw [hand, hbit]; rfl)
    rw [hone]
    rfl
  | false =>
    have hzero : c &&& 1 = 0 := UInt32.toBitVec_inj.mp (by rw [hand, hbit]; rfl)
    rw [hzero]
    rfl

theorem toBitVec_crc32Bit (c : UInt32) :
    (crc32Bit c).toBitVec = Crc.shift crc32Poly c.toBitVec := by
  unfold crc32Bit Crc.shift
  rw [low_bit]
  cases c.toBitVec.getLsbD 0 with
  | true => rfl
  | false => rfl

theorem toBitVec_iterate_crc32Bit (n : Nat) (c : UInt32) :
    (crc32Bit^[n] c).toBitVec = (Crc.shift crc32Poly)^[n] c.toBitVec := by
  induction n generalizing c with
  | zero => rfl
  | succ n ih =>
    rw [Function.iterate_succ_apply, Function.iterate_succ_apply, ih, toBitVec_crc32Bit]

/-- The table-driven loop is the check over the register. -/
theorem toBitVec_crc32Extend (c : UInt32) (bytes : Text) :
    (crc32Extend c bytes).toBitVec = Crc.extend crc32Poly c.toBitVec bytes := by
  induction bytes generalizing c with
  | nil => rfl
  | cons b bytes ih =>
    have hstep : ((c >>> 8) ^^^ crc32Entry ((c ^^^ b.toUInt32) &&& 0xFF)).toBitVec =
        Crc.step crc32Poly c.toBitVec b := by
      rw [Crc.step_eq_table, UInt32.toBitVec_xor, crc32Entry, toBitVec_iterate_crc32Bit]
      rfl
    change (crc32Extend ((c >>> 8) ^^^ crc32Entry ((c ^^^ b.toUInt32) &&& 0xFF)) bytes).toBitVec =
      Crc.extend crc32Poly (Crc.step crc32Poly c.toBitVec b) bytes
    rw [ih, hstep]

/-- Texts that differ in at most four consecutive bytes have different checksums. -/
theorem eq_of_crc32_burst {before u v after : Text} (hlength : u.length = v.length)
    (hfour : u.length ≤ 4)
    (h : crc32 (before ++ u ++ after) = crc32 (before ++ v ++ after)) : u = v := by
  have hextend := congrArg UInt32.toBitVec ((UInt32.xor_left_inj _).mp h)
  rw [toBitVec_crc32Extend, toBitVec_crc32Extend] at hextend
  exact Crc.eq_of_extend_burst crc32Poly rfl hlength (by omega) hextend

/-! ## The table -/

theorem size_makeCrc32Table : makeCrc32Table.size = 256 := Array.size_ofFn

/-- An index is a byte, so that the table has an entry for it. -/
theorem getElem_makeCrc32Table (x : UInt32) :
    makeCrc32Table[(x &&& 0xFF).toNat]! = crc32Entry (x &&& 0xFF) := by
  have hlt : (x &&& 0xFF).toNat < 256 := by
    rw [UInt32.toNat_and]
    exact Nat.lt_succ_of_le Nat.and_le_right
  rw [getElem!_pos makeCrc32Table _ (by rw [size_makeCrc32Table]; exact hlt)]
  simp [makeCrc32Table]

theorem crc32ExtendBy_table (crc : UInt32) (bytes : Text) :
    crc32ExtendBy makeCrc32Table crc bytes = crc32Extend crc bytes := by
  unfold crc32ExtendBy crc32Extend
  simp only [getElem_makeCrc32Table]

/-! ## Bit by bit -/

/-- The reflected CRC-32 of a list of bits: the register moves down by one bit, and the
polynomial is added if the bit that falls out is not the one of the message. -/
def crc32Bits (crc : UInt32) (bits : List Bool) : UInt32 :=
  bits.foldl (fun crc bit =>
    if (crc &&& 1 != 0) != bit then (crc >>> 1) ^^^ 0xEDB88320 else crc >>> 1) crc

theorem toBitVec_crc32Bits (crc : UInt32) (bits : List Bool) :
    (crc32Bits crc bits).toBitVec = Crc.extendBits crc32Poly crc.toBitVec bits := by
  induction bits generalizing crc with
  | nil => rfl
  | cons bit bits ih =>
    have hstep : (if (crc &&& 1 != 0) != bit then (crc >>> 1) ^^^ 0xEDB88320
        else crc >>> 1).toBitVec = Crc.enter crc32Poly crc.toBitVec bit := by
      rw [Crc.enter_eq crc32Poly (by decide), low_bit]
      split_ifs <;> rfl
    change (crc32Bits (if (crc &&& 1 != 0) != bit then (crc >>> 1) ^^^ 0xEDB88320
      else crc >>> 1) bits).toBitVec =
        Crc.extendBits crc32Poly (Crc.enter crc32Poly crc.toBitVec bit) bits
    rw [ih, hstep]

/-! ## Linearity -/

/-- The checksums of texts of one length differ by the check of their difference. -/
theorem crc32_xor {x y : Text} (hlength : x.length = y.length) :
    crc32 x ^^^ crc32 y = crc32Extend 0 (List.zipWith (· ^^^ ·) x y) := by
  have hcancel : crc32 x ^^^ crc32 y = crc32Extend 0xFFFFFFFF x ^^^ crc32Extend 0xFFFFFFFF y := by
    unfold crc32
    rw [UInt32.xor_assoc, UInt32.xor_comm (crc32Extend 0xFFFFFFFF y), ← UInt32.xor_assoc 0xFFFFFFFF,
      UInt32.xor_self, UInt32.zero_xor]
  apply UInt32.toBitVec_inj.mp
  rw [hcancel, UInt32.toBitVec_xor, toBitVec_crc32Extend, toBitVec_crc32Extend,
    toBitVec_crc32Extend,
    ← Crc.extend_xor crc32Poly hlength, BitVec.xor_self]
  rfl

/-- **The CRC is the standard one.** The loop over the table is the reflected CRC-32 bit by
bit, a text may be checked in parts, and the difference of two checksums depends on
nothing but the difference of the texts. -/
theorem crc32_standard :
    (∀ (crc : UInt32) (x : Text), crc32ExtendBy makeCrc32Table crc x =
      crc32Bits crc (x.flatMap Crc.bits)) ∧
    (∀ (crc : UInt32) (x y : Text), crc32ExtendBy makeCrc32Table crc (x ++ y) =
      crc32ExtendBy makeCrc32Table (crc32ExtendBy makeCrc32Table crc x) y) ∧
    (∀ x : Text, crc32 x = crc32ExtendBy makeCrc32Table 0xFFFFFFFF x ^^^ 0xFFFFFFFF) ∧
    ∀ x y x' y' : Text, x.length = y.length → x'.length = y'.length →
      List.zipWith (· ^^^ ·) x y = List.zipWith (· ^^^ ·) x' y' →
      crc32 x ^^^ crc32 y = crc32 x' ^^^ crc32 y' := by
  refine ⟨fun crc x => ?_, fun crc x y => List.foldl_append, fun x => ?_, ?_⟩
  · apply UInt32.toBitVec_inj.mp
    rw [crc32ExtendBy_table, toBitVec_crc32Extend, toBitVec_crc32Bits,
      Crc.extend_eq_bits crc32Poly (by decide)]
  · rw [crc32ExtendBy_table, crc32]
  · intro x y x' y' hlength hlength' hdifference
    rw [crc32_xor hlength, crc32_xor hlength', hdifference]

example : crc32 (text "123456789") = 0xCBF43926 := by decide +kernel

end ClusterFabric
