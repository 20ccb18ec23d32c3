import Mathlib.Data.BitVec

/-! # Cyclic redundancy checks

A reflected check over a register of `w` bits: the register moves down by one bit
and, if a one falls out, the polynomial is added. The move is linear in exclusive
or, and it is invertible as soon as the polynomial has its top bit. So the bytes
of a burst that fits into the register enter it as one word, and two different
bursts leave different registers whatever follows them.
-/

namespace Lib.Crc

variable {w : Nat} (poly : BitVec w) {u v : List UInt8} {c : BitVec w} {i : Nat}

/-! ## One bit -/

/-- The register after one bit. -/
def shift (c : BitVec w) : BitVec w := if c.getLsbD 0 then (c >>> 1) ^^^ poly else c >>> 1

theorem shift_xor (a b : BitVec w) : shift poly (a ^^^ b) = shift poly a ^^^ shift poly b := by
  have hcancel : a >>> 1 ^^^ b >>> 1 = (a >>> 1 ^^^ poly) ^^^ (b >>> 1 ^^^ poly) := by
    rw [BitVec.xor_comm (b >>> 1) poly, BitVec.xor_assoc, ← BitVec.xor_assoc poly poly,
      BitVec.xor_self, BitVec.zero_xor]
  unfold shift
  rw [BitVec.getLsbD_xor, BitVec.ushiftRight_xor_distrib]
  cases a.getLsbD 0 <;> cases b.getLsbD 0
  · rfl
  · exact BitVec.xor_assoc _ _ _
  · change a >>> 1 ^^^ b >>> 1 ^^^ poly = a >>> 1 ^^^ poly ^^^ b >>> 1
    rw [BitVec.xor_assoc, BitVec.xor_comm (b >>> 1) poly, ← BitVec.xor_assoc]
  · exact hcancel

/-- Only the empty register becomes empty: what the polynomial adds reaches the
top bit, which the move has cleared. -/
theorem eq_zero_of_shift_eq_zero (hpoly : poly.msb = true) (h : shift poly c = 0#w) : c = 0#w := by
  unfold shift at h
  cases hlow : c.getLsbD 0 with
  | true =>
    rw [hlow, if_pos rfl] at h
    have htop := congrArg BitVec.msb h
    rw [BitVec.msb_xor, hpoly, BitVec.msb_ushiftRight] at htop
    simp at htop
  | false =>
    rw [hlow, if_neg Bool.false_ne_true] at h
    apply BitVec.eq_of_getLsbD_eq
    intro i hi
    rw [BitVec.getLsbD_zero]
    cases i with
    | zero => exact hlow
    | succ i =>
      have hbit := congrArg (fun x => BitVec.getLsbD x i) h
      simpa [BitVec.getLsbD_ushiftRight, Nat.add_comm] using hbit

theorem shift_injective (hpoly : poly.msb = true) : Function.Injective (shift poly) := by
  intro a b hab
  have hzero : shift poly (a ^^^ b) = 0#w := by rw [shift_xor, hab, BitVec.xor_self]
  have heq := eq_zero_of_shift_eq_zero poly hpoly hzero
  calc a = a ^^^ (b ^^^ b) := by rw [BitVec.xor_self, BitVec.xor_zero]
    _ = (a ^^^ b) ^^^ b := (BitVec.xor_assoc _ _ _).symm
    _ = b := by rw [heq, BitVec.zero_xor]

theorem iterate_shift_xor (n : Nat) (a b : BitVec w) :
    (shift poly)^[n] (a ^^^ b) = (shift poly)^[n] a ^^^ (shift poly)^[n] b := by
  induction n generalizing a b with
  | zero => rfl
  | succ n ih => rw [Function.iterate_succ_apply, Function.iterate_succ_apply,
      Function.iterate_succ_apply, shift_xor, ih]

/-- A register whose low bits are clear only moves. -/
theorem iterate_shift_of_low_clear {n : Nat} (h : ∀ i, i < n → c.getLsbD i = false) :
    (shift poly)^[n] c = c >>> n := by
  induction n generalizing c with
  | zero => simp
  | succ n ih =>
    have hfirst : shift poly c = c >>> 1 := by
      unfold shift
      rw [h 0 (by omega), if_neg Bool.false_ne_true]
    rw [Function.iterate_succ_apply, hfirst, ih, ← BitVec.shiftRight_add, Nat.add_comm]
    intro i hi
    rw [BitVec.getLsbD_ushiftRight]
    exact h (1 + i) (by omega)

/-! ## Bytes -/

/-- A byte in the register. -/
def byte (b : UInt8) : BitVec w := b.toBitVec.setWidth w

/-- The register after one byte. -/
def step (c : BitVec w) (b : UInt8) : BitVec w := (shift poly)^[8] (c ^^^ byte b)

/-- The register after a list of bytes. -/
def extend (c : BitVec w) (bytes : List UInt8) : BitVec w := bytes.foldl (step poly) c

theorem extend_append (c : BitVec w) (u v : List UInt8) :
    extend poly c (u ++ v) = extend poly (extend poly c u) v := List.foldl_append ..

theorem step_injective (hpoly : poly.msb = true) (b : UInt8) :
    Function.Injective fun c => step poly c b := by
  intro c d hcd
  have hxor := (shift_injective poly hpoly).iterate 8 hcd
  exact (BitVec.xor_left_inj (byte b)).mp hxor

/-- Different registers stay different over the same bytes. -/
theorem extend_left_injective (hpoly : poly.msb = true) (bytes : List UInt8) :
    Function.Injective fun c => extend poly c bytes := by
  induction bytes with
  | nil => exact fun _ _ h => h
  | cons b bytes ih => exact fun c d hcd => step_injective poly hpoly b (ih hcd)

/-! ## The table -/

theorem getLsbD_mask (i : Nat) :
    (BitVec.ofNat w 0xFF).getLsbD i = (decide (i < w) && decide (i < 8)) := by
  rw [BitVec.getLsbD_ofNat, show (0xFF : Nat) = 2 ^ 8 - 1 from rfl, Nat.testBit_two_pow_sub_one]

/-- Eight bits at once: a table of the registers that start with one byte, and the
rest of the register moved down. -/
theorem iterate_shift_eight (c : BitVec w) :
    (shift poly)^[8] c = (c >>> 8) ^^^ (shift poly)^[8] (c &&& BitVec.ofNat w 0xFF) := by
  have hsplit : c = (c &&& ~~~ BitVec.ofNat w 0xFF) ^^^ (c &&& BitVec.ofNat w 0xFF) := by
    apply BitVec.eq_of_getLsbD_eq
    intro i hi
    simp only [BitVec.getLsbD_xor, BitVec.getLsbD_and, BitVec.getLsbD_not]
    cases c.getLsbD i <;> cases (BitVec.ofNat w 0xFF).getLsbD i <;> simp [hi]
  have hclear : ∀ i, i < 8 → (c &&& ~~~ BitVec.ofNat w 0xFF).getLsbD i = false := by
    intro i hi
    rw [BitVec.getLsbD_and, BitVec.getLsbD_not, getLsbD_mask]
    simp [hi]
  have hhigh : (c &&& ~~~ BitVec.ofNat w 0xFF) >>> 8 = c >>> 8 := by
    apply BitVec.eq_of_getLsbD_eq
    intro i _
    rw [BitVec.getLsbD_ushiftRight, BitVec.getLsbD_ushiftRight, BitVec.getLsbD_and,
      BitVec.getLsbD_not, getLsbD_mask]
    by_cases htop : 8 + i < w
    · simp [htop]
    · simp [BitVec.getLsbD_of_ge c (8 + i) (by omega)]
  calc (shift poly)^[8] c
      = (shift poly)^[8] ((c &&& ~~~ BitVec.ofNat w 0xFF) ^^^ (c &&& BitVec.ofNat w 0xFF)) := by
        rw [← hsplit]
    _ = (c >>> 8) ^^^ (shift poly)^[8] (c &&& BitVec.ofNat w 0xFF) := by
        rw [iterate_shift_xor, iterate_shift_of_low_clear poly hclear, hhigh]

theorem step_eq_table (c : BitVec w) (b : UInt8) :
    step poly c b =
      (c >>> 8) ^^^ (shift poly)^[8] ((c ^^^ byte b) &&& BitVec.ofNat w 0xFF) := by
  have hbyte : (c ^^^ byte b) >>> 8 = c >>> 8 := by
    apply BitVec.eq_of_getLsbD_eq
    intro i _
    rw [BitVec.getLsbD_ushiftRight, BitVec.getLsbD_ushiftRight, BitVec.getLsbD_xor, byte,
      BitVec.getLsbD_setWidth, BitVec.getLsbD_of_ge b.toBitVec (8 + i) (by omega),
      Bool.and_false, Bool.xor_false]
  rw [step, iterate_shift_eight, hbyte]

/-! ## Bit by bit -/

/-- One bit of the message enters the register at the bottom, and the register moves. -/
def enter (c : BitVec w) (bit : Bool) : BitVec w :=
  shift poly (c ^^^ (BitVec.ofBool bit).setWidth w)

/-- The bit decides with the one that falls out whether the polynomial is added. -/
theorem enter_eq (hw : 0 < w) (c : BitVec w) (bit : Bool) :
    enter poly c bit = if c.getLsbD 0 != bit then (c >>> 1) ^^^ poly else c >>> 1 := by
  have hlow : (c ^^^ (BitVec.ofBool bit).setWidth w).getLsbD 0 = (c.getLsbD 0 != bit) := by
    rw [BitVec.getLsbD_xor, BitVec.getLsbD_setWidth, BitVec.getLsbD_ofBool]
    simp [hw]
  have hrest : (c ^^^ (BitVec.ofBool bit).setWidth w) >>> 1 = c >>> 1 := by
    apply BitVec.eq_of_getLsbD_eq
    intro i _
    rw [BitVec.getLsbD_ushiftRight, BitVec.getLsbD_ushiftRight, BitVec.getLsbD_xor,
      BitVec.getLsbD_setWidth, BitVec.getLsbD_ofBool]
    simp
  rw [enter, shift, hlow, hrest]

/-- The register after a list of bits. -/
def extendBits (c : BitVec w) (bits : List Bool) : BitVec w := bits.foldl (enter poly) c

/-- The bits of a byte, the lowest first. -/
def bits (b : UInt8) : List Bool := List.ofFn fun i : Fin 8 => b.toBitVec.getLsbD i

/-- Bits as one word, the first bit lowest. -/
def bitWord : List Bool → BitVec w
  | [] => 0#w
  | bit :: rest => (BitVec.ofBool bit).setWidth w ^^^ (bitWord rest <<< 1)

theorem getLsbD_bitWord (l : List Bool) (hi : i < w) :
    (bitWord l : BitVec w).getLsbD i = l[i]?.getD false := by
  induction l generalizing i with
  | nil => simp [bitWord]
  | cons bit rest ih =>
    rw [bitWord, BitVec.getLsbD_xor, BitVec.getLsbD_shiftLeft, BitVec.getLsbD_setWidth,
      BitVec.getLsbD_ofBool]
    cases i with
    | zero => simp [hi]
    | succ i => simp [hi, ih (show i < w by omega)]

/-- A word with a clear bit at the top moves up and down again. -/
theorem shift_bitWord_shiftLeft {l : List Bool} (hfits : l.length < w) :
    shift poly (bitWord l <<< 1) = bitWord l := by
  have hlow : (bitWord l <<< 1 : BitVec w).getLsbD 0 = false := by simp
  unfold shift
  rw [hlow, if_neg Bool.false_ne_true]
  apply BitVec.eq_of_getLsbD_eq
  intro i hi
  rw [BitVec.getLsbD_ushiftRight, BitVec.getLsbD_shiftLeft]
  by_cases htop : 1 + i < w
  · simp [htop]
  · rw [getLsbD_bitWord l hi, List.getElem?_eq_none (by omega)]
    simp [htop]

/-- Bits that fit into the register enter it as one word. -/
theorem extendBits_eq_word {l : List Bool} (hfits : l.length ≤ w) (c : BitVec w) :
    extendBits poly c l = (shift poly)^[l.length] (c ^^^ bitWord l) := by
  induction l generalizing c with
  | nil => simp [extendBits, bitWord]
  | cons bit rest ih =>
    rw [List.length_cons] at hfits
    calc extendBits poly c (bit :: rest) = extendBits poly (enter poly c bit) rest := rfl
      _ = (shift poly)^[rest.length] (enter poly c bit ^^^ bitWord rest) := ih (by omega) _
      _ = (shift poly)^[rest.length] (enter poly c bit ^^^ shift poly (bitWord rest <<< 1)) := by
        rw [shift_bitWord_shiftLeft poly (by omega)]
      _ = (shift poly)^[(bit :: rest).length] (c ^^^ bitWord (bit :: rest)) := by
        rw [enter, ← shift_xor, BitVec.xor_assoc, List.length_cons, Function.iterate_succ_apply,
          bitWord]

theorem bitWord_bits (b : UInt8) : (bitWord (bits b) : BitVec w) = byte b := by
  apply BitVec.eq_of_getLsbD_eq
  intro i hi
  rw [getLsbD_bitWord _ hi, byte, BitVec.getLsbD_setWidth, bits, List.getElem?_ofFn]
  by_cases hbyte : i < 8
  · simp [hbyte, hi]
  · simp [hbyte, BitVec.getLsbD_of_ge b.toBitVec i (by omega)]

theorem extendBits_append (c : BitVec w) (u v : List Bool) :
    extendBits poly c (u ++ v) = extendBits poly (extendBits poly c u) v := List.foldl_append ..

/-- **Bytes enter as their bits.** -/
theorem extend_eq_bits (hbyte : 8 ≤ w) (c : BitVec w) (bytes : List UInt8) :
    extend poly c bytes = extendBits poly c (bytes.flatMap bits) := by
  induction bytes generalizing c with
  | nil => rfl
  | cons b bytes ih =>
    have hlength : (bits b).length = 8 := List.length_ofFn
    have hstep : extendBits poly c (bits b) = step poly c b := by
      rw [extendBits_eq_word poly (by omega), bitWord_bits, hlength, step]
    rw [List.flatMap_cons, extendBits_append, hstep, ← ih]
    rfl

/-! ## Linearity -/

theorem byte_xor (a b : UInt8) : (byte (a ^^^ b) : BitVec w) = byte a ^^^ byte b := by
  rw [byte, UInt8.toBitVec_xor, BitVec.setWidth_xor]
  rfl

theorem xor_xor_xor_comm (a b c d : BitVec w) : a ^^^ b ^^^ (c ^^^ d) = a ^^^ c ^^^ (b ^^^ d) := by
  rw [BitVec.xor_assoc, BitVec.xor_assoc, ← BitVec.xor_assoc b c d, BitVec.xor_comm b c,
    BitVec.xor_assoc c b d]

/-- **The check is linear** in the register and the bytes. -/
theorem extend_xor (hlength : u.length = v.length) (c d : BitVec w) :
    extend poly (c ^^^ d) (List.zipWith (· ^^^ ·) u v) = extend poly c u ^^^ extend poly d v := by
  induction u generalizing v c d with
  | nil =>
    obtain rfl := List.length_eq_zero_iff.mp hlength.symm
    rfl
  | cons a u ih =>
    obtain _ | ⟨b, v⟩ := v
    · cases hlength
    have hstep : step poly (c ^^^ d) (a ^^^ b) = step poly c a ^^^ step poly d b := by
      rw [step, byte_xor, xor_xor_xor_comm, iterate_shift_xor, step, step]
    calc extend poly (c ^^^ d) (List.zipWith (· ^^^ ·) (a :: u) (b :: v))
        = extend poly (step poly (c ^^^ d) (a ^^^ b)) (List.zipWith (· ^^^ ·) u v) := rfl
      _ = extend poly (step poly c a) u ^^^ extend poly (step poly d b) v := by
        rw [hstep, ih (Nat.succ.inj hlength)]

/-! ## Bursts -/

/-- The bytes of a burst as one word, the first byte lowest. -/
def word : List UInt8 → BitVec w
  | [] => 0#w
  | b :: u => byte b ^^^ (word u <<< 8)

theorem getLsbD_byte (b : UInt8) (i : Nat) :
    (byte b : BitVec w).getLsbD i = (decide (i < w) && b.toBitVec.getLsbD i) := by
  rw [byte, BitVec.getLsbD_setWidth]

theorem getLsbD_byte_of_le (b : UInt8) (h : 8 ≤ i) : (byte b : BitVec w).getLsbD i = false := by
  rw [getLsbD_byte, BitVec.getLsbD_of_ge b.toBitVec i h, Bool.and_false]

theorem getLsbD_word_low (b : UInt8) (u : List UInt8) (h : i < 8) :
    (word (b :: u) : BitVec w).getLsbD i = (byte b : BitVec w).getLsbD i := by
  rw [word, BitVec.getLsbD_xor, BitVec.getLsbD_shiftLeft]
  simp [h]

theorem getLsbD_word_high (b : UInt8) (u : List UInt8) (h : i + 8 < w) :
    (word (b :: u) : BitVec w).getLsbD (i + 8) = (word u : BitVec w).getLsbD i := by
  rw [word, BitVec.getLsbD_xor, BitVec.getLsbD_shiftLeft, getLsbD_byte_of_le b (by omega)]
  simp [h]

/-- A word has no bits above its bytes. -/
theorem getLsbD_word_of_le (u : List UInt8) (h : 8 * u.length ≤ i) :
    (word u : BitVec w).getLsbD i = false := by
  induction u generalizing i with
  | nil => exact BitVec.getLsbD_zero
  | cons b u ih =>
    rw [List.length_cons] at h
    by_cases hi : i < w
    · obtain ⟨j, rfl⟩ : ∃ j, i = j + 8 := ⟨i - 8, by omega⟩
      rw [getLsbD_word_high b u hi]
      exact ih (by omega)
    · exact BitVec.getLsbD_of_ge _ _ (by omega)

/-- Words of equal length hold different bytes if they are different. -/
theorem word_injective (hlength : u.length = v.length) (hfits : 8 * u.length ≤ w)
    (h : (word u : BitVec w) = word v) : u = v := by
  induction u generalizing v with
  | nil => exact (List.length_eq_zero_iff.mp hlength.symm).symm
  | cons b u ih =>
    obtain _ | ⟨c, v⟩ := v
    · cases hlength
    rw [List.length_cons] at hfits
    rw [List.length_cons, List.length_cons, Nat.add_right_cancel_iff] at hlength
    have hbyte : b = c := by
      apply UInt8.toBitVec_inj.mp
      apply BitVec.eq_of_getLsbD_eq
      intro i hi
      have hbit := congrArg (fun x => BitVec.getLsbD x i) h
      simp only [getLsbD_word_low _ _ hi, getLsbD_byte] at hbit
      simpa [show i < w by omega] using hbit
    have htail : (word u : BitVec w) = word v := by
      apply BitVec.eq_of_getLsbD_eq
      intro i hi
      by_cases htop : i + 8 < w
      · have hbit := congrArg (fun x => BitVec.getLsbD x (i + 8)) h
        simpa only [getLsbD_word_high _ _ htop] using hbit
      · rw [getLsbD_word_of_le u (by omega), getLsbD_word_of_le v (by omega)]
    rw [hbyte, ih hlength (by omega) htail]

/-- A word enters the register as if it had waited above the bytes before it. -/
theorem iterate_shift_word_shiftLeft (hfits : 8 * u.length + 8 ≤ w) :
    (shift poly)^[8] (word u <<< 8) = word u := by
  rw [iterate_shift_of_low_clear]
  · apply BitVec.eq_of_getLsbD_eq
    intro i hi
    rw [BitVec.getLsbD_ushiftRight, BitVec.getLsbD_shiftLeft]
    by_cases htop : 8 + i < w
    · simp [htop]
    · simp [htop, getLsbD_word_of_le u (show 8 * u.length ≤ i by omega)]
  · intro i hi
    rw [BitVec.getLsbD_shiftLeft]
    simp [hi]

/-- A burst that fits into the register enters it as one word. -/
theorem extend_eq_word (hfits : 8 * u.length ≤ w) (c : BitVec w) :
    extend poly c u = (shift poly)^[8 * u.length] (c ^^^ word u) := by
  induction u generalizing c with
  | nil => simp [extend, word]
  | cons b u ih =>
    rw [List.length_cons] at hfits
    calc extend poly c (b :: u) = extend poly (step poly c b) u := rfl
      _ = (shift poly)^[8 * u.length] (step poly c b ^^^ word u) := ih (by omega) _
      _ = (shift poly)^[8 * u.length] (step poly c b ^^^ (shift poly)^[8] (word u <<< 8)) := by
        rw [iterate_shift_word_shiftLeft poly (by omega)]
      _ = (shift poly)^[8 * u.length] ((shift poly)^[8] (c ^^^ byte b ^^^ word u <<< 8)) := by
        rw [step, iterate_shift_xor poly 8 (c ^^^ byte b)]
      _ = (shift poly)^[8 * (b :: u).length] (c ^^^ word (b :: u)) := by
        rw [← Function.iterate_add_apply, List.length_cons, Nat.mul_succ, word,
          BitVec.xor_assoc]

/-- **A burst is detected.** Two inputs that differ in a burst that fits into the
register, and agree before and after it, leave different registers. -/
theorem eq_of_extend_burst (hpoly : poly.msb = true) {before after : List UInt8}
    (hlength : u.length = v.length) (hfits : 8 * u.length ≤ w)
    (h : extend poly c (before ++ u ++ after) = extend poly c (before ++ v ++ after)) : u = v := by
  rw [extend_append, extend_append, extend_append, extend_append] at h
  have hburst := extend_left_injective poly hpoly after h
  have hfits' : 8 * v.length ≤ w := by omega
  generalize extend poly c before = d at hburst
  rw [extend_eq_word poly hfits, extend_eq_word poly hfits', ← hlength] at hburst
  have hword := (shift_injective poly hpoly).iterate _ hburst
  exact word_injective hlength hfits ((BitVec.xor_right_inj _).mp hword)

end Lib.Crc
