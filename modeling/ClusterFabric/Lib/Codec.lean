import Mathlib.Data.Nat.Bitwise
import ClusterFabric.Lib.Enumeration

/-! # Byte codecs

Writes to a bounded output that remembers a refusal, reads that consume a list
of bytes, and the relation `Carries` between the two: whatever the read makes of
what a write put out is one given value, it leaves the rest alone, and under a
condition on the value it does not fail. It composes along `bind`, so a writer and
a reader of the same fields are matched field by field, with no description of the
layout beside them.

A size that is written before the elements of a list is cut to its width. That a
list is not cut follows from the limit of the output, since every element takes
its share of it. So `Carries` also counts what was written.
-/

namespace Lib.Codec

variable {k' : Unit → Write} {put : UInt8 → Write} {bytes : List UInt8} {condition : Prop}
  {value : Nat}

/-! ## Writes -/

/-- What was written, the last byte first, and whether a write was refused. -/
structure Output where
  reversed : List UInt8 := []
  failed : Bool := false

/-- What was written. -/
def Output.data (out : Output) : List UInt8 := out.reversed.reverse

abbrev Write := StateM Output Unit

/-- The output after a write. -/
def Write.output (w : Write) (out : Output) : Output := (w.run out).2

/-- Appends bytes, up to a limit on the whole output. -/
def emit (limit : Nat) (bytes : List UInt8) : Write :=
  modify fun out =>
    if out.failed then out
    else if limit < out.reversed.length + bytes.length then { out with failed := true }
    else { out with reversed := bytes.reverseAux out.reversed }

/-- Refuses to write; the output ignores everything that follows. -/
def refuse : Write := modify fun out => { out with failed := true }

theorem output_bind (w : Write) (k : Unit → Write) (out : Output) :
    Write.output (w >>= k) out = (k ()).output (w.output out) := rfl

theorem output_pure (out : Output) : Write.output (pure ()) out = out := rfl

/-- A write of bytes that is not refused appends them. -/
theorem emit_ok {limit : Nat} {out : Output} (h : ((emit limit bytes).output out).failed = false) :
    out.failed = false ∧ ((emit limit bytes).output out).data = out.data ++ bytes := by
  have houtput : (emit limit bytes).output out =
      if out.failed then out
      else if limit < out.reversed.length + bytes.length then { out with failed := true }
      else { out with reversed := bytes.reverseAux out.reversed } := rfl
  rw [houtput] at h ⊢
  split_ifs at h ⊢ with hfailed hlimit
  · cases h.symm.trans hfailed
  · exact ⟨h, by simp [Output.data, List.reverseAux_eq]⟩

/-- A write that is not refused puts out at most `most` bytes. The bound is inferred from
the writes that it is made of. -/
class AtMost (w : Write) (most : outParam Nat) : Prop where
  output : ∀ out, (w.output out).failed = false →
    out.failed = false ∧ (w.output out).data.length ≤ out.data.length + most

namespace AtMost

variable {m n : Nat} {w : Write} {α : Type} {write : α → Write}

instance pure : AtMost (pure ()) 0 := ⟨fun _ h => ⟨h, le_refl _⟩⟩

instance bind [hw : AtMost w m] [hk : AtMost (k' ()) n] : AtMost (w >>= k') (m + n) where
  output out hout := by
    obtain ⟨hmid, hlast⟩ := hk.output (w.output out) hout
    obtain ⟨hfirst, hlength⟩ := hw.output out hmid
    exact ⟨hfirst, by rw [output_bind]; omega⟩

theorem weaken (hw : AtMost w m) (h : m ≤ n) : AtMost w n where
  output out hout := ⟨(hw.output out hout).1,
    (hw.output out hout).2.trans (Nat.add_le_add_left h _)⟩

theorem emit (limit : Nat) (bytes : List UInt8) : AtMost (emit limit bytes) bytes.length where
  output out hout := by
    obtain ⟨hfirst, hdata⟩ := emit_ok hout
    exact ⟨hfirst, by rw [hdata, List.length_append]⟩

theorem refuse : AtMost refuse n where
  output _ hout := Bool.noConfusion hout

/-- What follows a refusal is not put out. -/
theorem refuse_bind (hw : ∀ out, (w.output out).failed = true) (hk : AtMost (k' ()) m) :
    AtMost (w >>= k') n where
  output out hout := Bool.noConfusion ((hw out).symm.trans (hk.output _ hout).1)

theorem forM (h : ∀ a, AtMost (write a) n) (xs : List α) :
    AtMost (xs.forM write) (xs.length * n) := by
  induction xs with
  | nil => exact pure.weaken (Nat.zero_le _)
  | cons x xs ih =>
    rw [List.length_cons, Nat.succ_mul, Nat.add_comm]
    exact @bind _ _ _ _ (h x) ih

end AtMost

/-! ## Reads -/

/-- A read that fails with an `ε`. -/
abbrev Read (ε α : Type) := StateT (List UInt8) (Except ε) α

section Read

variable {ε ε' α β : Type}

/-- One byte, or the failure `e` at the end of the input. -/
def next (e : ε) : Read ε UInt8 := fun
  | [] => .error e
  | byte :: rest => .ok (byte, rest)

/-- The next `count` bytes, or the failure `e` when there are fewer. -/
def take (e : ε) (count : Nat) : Read ε (List UInt8) := fun input =>
  if input.length < count then .error e else .ok (input.splitAt count)

/-- A check between two reads. -/
def ensure (condition : Bool) (e : ε) : Read ε Unit :=
  if condition then pure () else throw e

/-- The value of an optional that must be present. -/
def demand (value : Option α) (e : ε) : Read ε α :=
  match value with
  | some a => pure a
  | none => throw e

/-- Reads once more if `present`. -/
def readIf (present : Bool) (r : Read ε α) : Read ε (Option α) :=
  if present then some <$> r else pure none

/-- Replaces the failure of a read. -/
def orFail (r : Read ε α) (e : ε') : Read ε' α := fun input =>
  (r input).mapError fun _ => e

/-- Reads a value `count` times. -/
def times : (count : Nat) → Read ε α → Read ε (List α)
  | 0, _ => pure []
  | count + 1, r => do
    let value ← r
    let values ← times count r
    pure (value :: values)

/-- A read that succeeded, taken apart. -/
theorem run_bind_eq_ok {r : Read ε α} {k : α → Read ε β} {input rest : List UInt8} {b : β} :
    (r >>= k).run input = .ok (b, rest) ↔
      ∃ a mid, r.run input = .ok (a, mid) ∧ (k a).run mid = .ok (b, rest) := by
  rw [StateT.run_bind]
  cases r.run input with
  | error e => exact ⟨fun h => (nomatch h), fun ⟨_, _, h, _⟩ => (nomatch h)⟩
  | ok result =>
    obtain ⟨a, mid⟩ := result
    constructor
    · intro h
      exact ⟨a, mid, rfl, h⟩
    · rintro ⟨a', mid', hrun, h⟩
      obtain ⟨rfl, rfl⟩ := Prod.mk.inj (Except.ok.inj hrun)
      exact h

/-- A read under another failure succeeds as before. -/
theorem run_orFail_eq_ok {r : Read ε α} {e : ε'} {input rest : List UInt8} {a : α} :
    (orFail r e).run input = .ok (a, rest) ↔ r.run input = .ok (a, rest) := by
  change Except.mapError _ (r.run input) = _ ↔ _
  cases r.run input with
  | error e => simp [Except.mapError]
  | ok result => simp [Except.mapError]

/-- Of `input` the read makes `a`, leaving `rest`, unless it fails. If `P`, it does not fail. -/
structure Yields (P : Prop) (r : Read ε α) (input : List UInt8) (a : α) (rest : List UInt8) :
    Prop where
  eq : ∀ b rest', r.run input = .ok (b, rest') → b = a ∧ rest' = rest
  ok : P → r.run input = .ok (a, rest)

section Yields

variable {P : Prop} {r : Read ε α} {k : α → Read ε β} {a : α} {b : β}
  {input mid rest : List UInt8}

theorem yields_of_run (h : r.run input = .ok (a, rest)) : Yields P r input a rest where
  eq b rest' hrun := by
    obtain ⟨rfl, rfl⟩ := Prod.mk.inj (Except.ok.inj (h.symm.trans hrun))
    exact ⟨rfl, rfl⟩
  ok _ := h

theorem Yields.bind (hr : Yields P r input a mid) (hk : Yields P (k a) mid b rest) :
    Yields P (r >>= k) input b rest where
  eq b' rest' hrun := by
    obtain ⟨a', mid', hfirst, hsecond⟩ := run_bind_eq_ok.mp hrun
    obtain ⟨rfl, rfl⟩ := hr.eq _ _ hfirst
    exact hk.eq _ _ hsecond
  ok h := run_bind_eq_ok.mpr ⟨a, mid, hr.ok h, hk.ok h⟩

theorem Yields.orFail {e : ε'} (hr : Yields P r input a rest) :
    Yields P (orFail r e) input a rest where
  eq b rest' hrun := hr.eq b rest' (run_orFail_eq_ok.mp hrun)
  ok h := run_orFail_eq_ok.mpr (hr.ok h)

/-- The read consumes nothing, and yields `a` unless it fails. If `P`, it does not fail. -/
def Guards (P : Prop) (r : Read ε α) (a : α) : Prop := ∀ input, Yields P r input a input

theorem guards_pure (a : α) : Guards P (pure a : Read ε α) a := fun _ => yields_of_run rfl

theorem guards_demand {value : Option α} (e : ε) (heq : ∀ b, value = some b → b = a)
    (hsome : P → value = some a) : Guards P (demand value e) a := by
  intro input
  cases value with
  | none =>
    refine ⟨fun _ _ hrun => ?_, fun h => ?_⟩
    · cases hrun
    · cases hsome h
  | some b =>
    obtain rfl := heq b rfl
    exact yields_of_run rfl

theorem guards_ensure {condition : Bool} (e : ε) (h : P → condition = true) :
    Guards P (ensure condition e) () := by
  intro input
  cases condition with
  | true => exact yields_of_run rfl
  | false =>
    refine ⟨fun _ _ hrun => ?_, fun hP => ?_⟩
    · cases hrun
    · cases h hP

theorem guards_take_zero (e : ε) : Guards P (take e 0) [] := by
  intro input
  refine yields_of_run ?_
  simp [StateT.run, take]

theorem Guards.bind (hr : Guards P r a) (hk : Guards P (k a) b) : Guards P (r >>= k) b :=
  fun input => (hr input).bind (hk input)

theorem Guards.map (f : α → β) (hr : Guards P r a) : Guards P (f <$> r) (f a) := by
  rw [map_eq_pure_bind]
  exact hr.bind (guards_pure (f a))

end Yields

end Read

/-- A check that ends a decoder in failure was passed by what it accepted. -/
theorem ite_error_eq_ok {ε α : Type} [Decidable condition] {e : ε} {x : Except ε α} {a : α} :
    (if condition then .error e else x) = .ok a ↔ ¬ condition ∧ x = .ok a := by
  by_cases hcondition : condition
  · simp [hcondition]
  · simp [hcondition]

/-! ## What a write carries to a read -/

section Carries

variable {ε ε' α β : Type} {limit least : Nat} {P : Prop} {w : Write} {r : Read ε α} {a : α} {b : β}
  {k : α → Read ε β} {write : α → Write}

/-- Unless the output is refused, what `w` writes is at least `least` bytes, it is within
the limit if the output was, and then `r` makes `a` of it or fails. If `P`, it does not fail. -/
def Carries (limit least : Nat) (P : Prop) (w : Write) (r : Read ε α) (a : α) : Prop :=
  ∀ out, (w.output out).failed = false →
    out.failed = false ∧
      ∃ bytes, (w.output out).data = out.data ++ bytes ∧ least ≤ bytes.length ∧
        (out.data.length ≤ limit → (out.data ++ bytes).length ≤ limit ∧
          ∀ rest, Yields P r (bytes ++ rest) a rest)

namespace Carries

theorem of_guards (h : Guards P r a) : Carries limit 0 P (pure ()) r a := by
  intro out hout
  refine ⟨hout, [], ?_, Nat.zero_le _, fun hle => ⟨?_, fun rest => h rest⟩⟩
  · rw [output_pure, List.append_nil]
  · rwa [List.append_nil]

/-- Consecutive writes are carried to consecutive reads. -/
theorem append {n m : Nat} {v : Unit → Write} (hw : Carries limit n P w r a)
    (hk : Carries limit m P (v ()) (k a) b) : Carries limit (n + m) P (w >>= v) (r >>= k) b := by
  intro out hout
  rw [output_bind] at hout ⊢
  obtain ⟨hmid, second, hsecond, hleast', hreadSecond⟩ := hk _ hout
  obtain ⟨hfirst, first, hdata, hleast, hreadFirst⟩ := hw _ hmid
  rw [hdata] at hsecond hreadSecond
  refine ⟨hfirst, first ++ second, ?_, ?_, fun hle => ?_⟩
  · rw [hsecond, List.append_assoc]
  · rw [List.length_append]
    omega
  · obtain ⟨hlimit, hreadFirst⟩ := hreadFirst hle
    obtain ⟨hlimit', hreadSecond⟩ := hreadSecond hlimit
    rw [← List.append_assoc]
    refine ⟨hlimit', fun rest => ?_⟩
    rw [List.append_assoc]
    exact (hreadFirst _).bind (hreadSecond rest)

theorem weaken {n : Nat} (hw : Carries limit n P w r a) (h : least ≤ n) :
    Carries limit least P w r a := by
  intro out hout
  obtain ⟨hok, bytes, hdata, hleast, hread⟩ := hw out hout
  exact ⟨hok, bytes, hdata, h.trans hleast, hread⟩

/-- Consecutive writes, of which the first takes what is asked of both. -/
theorem first (hw : Carries limit least P w r a) (hk : Carries limit 0 P (k' ()) (k a) b) :
    Carries limit least P (w >>= k') (r >>= k) b :=
  hw.append hk

/-- Consecutive writes of which nothing is asked. -/
theorem bind (hw : Carries limit least P w r a) (hk : Carries limit 0 P (k' ()) (k a) b) :
    Carries limit 0 P (w >>= k') (r >>= k) b :=
  (hw.first hk).weaken (Nat.zero_le _)

/-- A write of nothing. -/
theorem skip (h : Carries limit least P (k' ()) r a) :
    Carries limit least P (pure () >>= k') r a := h

/-- Another read makes the same of what was written. -/
theorem imp {r' : Read ε' β} (hw : Carries limit least P w r a)
    (h : ∀ input rest, Yields P r input a rest → Yields P r' input b rest) :
    Carries limit least P w r' b := by
  intro out hout
  obtain ⟨hok, bytes, hdata, hleast, hread⟩ := hw out hout
  exact ⟨hok, bytes, hdata, hleast, fun hle =>
    ⟨(hread hle).1, fun rest => h _ _ ((hread hle).2 rest)⟩⟩

/-- A check before a read. -/
theorem check {c : Read ε β} {k : β → Read ε α} (hc : Guards P c b)
    (hw : Carries limit least P w (k b) a) : Carries limit least P w (c >>= k) a :=
  hw.imp fun input _ hk => (hc input).bind hk

/-- What follows the only read. -/
theorem only (hw : Carries limit least P w r a) (hk : Guards P (k a) b) :
    Carries limit least P w (r >>= k) b :=
  hw.imp fun _ rest hr => hr.bind (hk rest)

/-- What follows the last of several reads. -/
theorem last (hw : Carries limit least P w r a) (hk : Guards P (k a) b) :
    Carries limit 0 P w (r >>= k) b := (hw.only hk).weaken (Nat.zero_le _)

theorem map (f : α → β) (hw : Carries limit least P w r a) :
    Carries limit least P w (f <$> r) (f a) := by
  rw [map_eq_pure_bind]
  exact hw.only (guards_pure (f a))

theorem orFail {e : ε'} (hw : Carries limit least P w r a) :
    Carries limit least P w (orFail r e) a := hw.imp fun _ _ hr => hr.orFail

/-- A loop over the elements of a list takes at least one byte for each. -/
theorem forM {xs : List α} (h : ∀ x ∈ xs, Carries limit 1 P (write x) r x) :
    Carries limit xs.length P (xs.forM write) (times xs.length r) xs := by
  induction xs with
  | nil => exact of_guards (guards_pure [])
  | cons x xs ih =>
    have hxs : Carries limit xs.length P (xs.forM write)
        (times xs.length r >>= fun xs => pure (x :: xs)) (x :: xs) :=
      (ih fun y hy => h y (List.mem_cons_of_mem x hy)).only (guards_pure (x :: xs))
    have happend := (h x List.mem_cons_self).append (v := fun _ => xs.forM write)
      (k := fun x => times xs.length r >>= fun xs => pure (x :: xs)) hxs
    exact happend.weaken (Nat.add_comm _ _).le

/-- A size cut to its width, and the elements of a list: within a limit that the
width covers, the size is that of the list. -/
theorem forM_cut {xs : List α} (h : ∀ x ∈ xs, Carries limit 1 P (write x) r x) {size : Nat}
    (hsize : xs.length ≤ limit → size = xs.length) :
    Carries limit 0 P (xs.forM write) (times size r) xs := by
  intro out hout
  obtain ⟨hok, bytes, hdata, hleast, hread⟩ := forM h out hout
  refine ⟨hok, bytes, hdata, Nat.zero_le _, fun hle => ?_⟩
  have hlimit := (hread hle).1
  rw [List.length_append] at hlimit
  rw [hsize (by omega)]
  exact hread hle

/-- A write under a condition that the reader knows. -/
theorem readIf {value : Option α} (h : ∀ a, value = some a → Carries limit least P (write a) r a) :
    Carries limit 0 P (value.forM write) (readIf value.isSome r) value := by
  cases value with
  | none => exact of_guards (guards_pure none)
  | some a =>
    change Carries limit 0 P (write a) (some <$> r) (some a)
    exact ((h a rfl).map some).weaken (Nat.zero_le _)

/-- A guarded write: it is carried if it is carried whenever the guard is passed. -/
theorem ite_refuse [Decidable condition] (h : ¬condition → Carries limit least P w r a) :
    Carries limit least P (if condition then refuse else w) r a := by
  intro out hout
  split_ifs at hout ⊢ with hcondition
  · cases hout
  · exact h hcondition out hout

/-- What is read of a completed run of writes is the value, to its end. -/
theorem yields (hw : Carries limit least P w r a) (hout : (w.output {}).failed = false) :
    Yields P r (w.output {}).data a [] := by
  obtain ⟨-, bytes, hdata, -, hread⟩ := hw {} hout
  have hbytes : (w.output {}).data = bytes ++ [] := by
    rw [hdata, List.append_nil]
    rfl
  rw [hbytes]
  exact (hread (Nat.zero_le _)).2 []

end Carries

/-- Bytes that are emitted are carried to a read that takes them. -/
theorem carries_of_emit (h : ∀ rest, r.run (bytes ++ rest) = .ok (a, rest)) :
    Carries limit bytes.length P (emit limit bytes) r a := by
  intro out hout
  obtain ⟨hok, hdata⟩ := emit_ok hout
  refine ⟨hok, bytes, hdata, Nat.le_refl _, fun _ => ⟨?_, fun rest => yields_of_run (h rest)⟩⟩
  have houtput : (emit limit bytes).output out =
      if out.failed then out
      else if limit < out.reversed.length + bytes.length then { out with failed := true }
      else { out with reversed := bytes.reverseAux out.reversed } := rfl
  have hlimit : ¬ limit < out.reversed.length + bytes.length := by
    intro hlt
    rw [houtput, hok, if_neg Bool.false_ne_true, if_pos hlt] at hout
    cases hout
  rw [List.length_append, Output.data, List.length_reverse]
  omega

/-- A byte is carried to the read of one byte. -/
theorem carries_emit_byte (byte : UInt8) (e : ε) :
    Carries limit 1 P (emit limit [byte]) (next e) byte := carries_of_emit fun _ => rfl

/-- Bytes are carried to the read of as many bytes. -/
theorem carries_emit (bytes : List UInt8) (e : ε) :
    Carries limit bytes.length P (emit limit bytes) (take e bytes.length) bytes := by
  refine carries_of_emit fun rest => ?_
  change (if (bytes ++ rest).length < bytes.length then _ else _) = _
  rw [if_neg (by simp), List.splitAt_eq, List.take_left, List.drop_left]

end Carries

/-! ## Little-endian numbers -/

section LittleEndian

variable {ε : Type} {limit : Nat}

/-- Writes `count` bytes of a number from byte `index` on, the lowest first. -/
def writeUint (put : UInt8 → Write) : (count index value : Nat) → Write
  | 0, _, _ => pure ()
  | count + 1, index, value => do
    put ((value >>> (index * 8)) &&& 0xFF).toUInt8
    writeUint put count (index + 1) value

theorem AtMost.uint (h : ∀ byte, AtMost (put byte) 1) (count index value : Nat) :
    AtMost (writeUint put count index value) count := by
  induction count generalizing index with
  | zero => exact .pure
  | succ count ih =>
    refine AtMost.weaken ?_ (Nat.add_comm 1 count).le
    exact @AtMost.bind _ _ _ _ (h _) (ih _)

/-- Reads `count` bytes on top of the `index` lower ones in `value`. -/
def readUint (e : ε) : (count index value : Nat) → Read ε Nat
  | 0, _, value => pure value
  | count + 1, index, value => do
    let byte ← next e
    readUint e count (index + 1) (value ||| byte.toNat <<< (index * 8))

/-- Adding byte `index` to the lower bytes of a number. -/
theorem mod_or_shiftLeft (value index : Nat) :
    value % 2 ^ (index * 8) ||| ((value >>> (index * 8)) &&& 0xFF) <<< (index * 8) =
      value % 2 ^ ((index + 1) * 8) := by
  apply Nat.eq_of_testBit_eq
  intro bit
  have hff : (0xFF : Nat) = 2 ^ 8 - 1 := rfl
  simp only [hff, Nat.and_two_pow_sub_one_eq_mod, Nat.testBit_or, Nat.testBit_mod_two_pow,
    Nat.testBit_shiftLeft, Nat.testBit_shiftRight]
  by_cases hlow : bit < index * 8
  · have hhigh : bit < (index + 1) * 8 := by omega
    have hnot : ¬ index * 8 ≤ bit := by omega
    simp [hlow, hhigh, hnot]
  · have hle : index * 8 ≤ bit := by omega
    have hadd : index * 8 + (bit - index * 8) = bit := by omega
    have hiff : bit - index * 8 < 8 ↔ bit < (index + 1) * 8 := by omega
    simp [hlow, hle, hadd, hiff]

theorem toNat_toUInt8_and (n : Nat) : (n &&& 0xFF).toUInt8.toNat = n &&& 0xFF := by
  have hlt : n &&& 0xFF < 256 := Nat.lt_of_le_of_lt Nat.and_le_right (by decide)
  exact UInt8.toNat_ofNat_of_lt hlt

/-- The bytes of a number are carried to the number, up to its width. The reader
holds the bytes below `index`. -/
theorem carries_uint {P : Prop} (e : ε)
    (hput : ∀ byte, Carries limit 1 P (put byte) (next e) byte) (count index value : Nat) :
    Carries limit count P (writeUint put count index value)
      (readUint e count index (value % 2 ^ (index * 8)))
      (value % 2 ^ ((index + count) * 8)) := by
  induction count generalizing index with
  | zero => exact .of_guards (guards_pure _)
  | succ count ih =>
    refine Carries.weaken ((hput _).append ?_) (Nat.add_comm _ _).le
    rw [toNat_toUInt8_and, mod_or_shiftLeft, show index + (count + 1) = index + 1 + count by omega]
    exact ih (index + 1)

/-- A number is carried at its own width. -/
theorem carries_uint_of_lt {P : Prop} (e : ε)
    (hput : ∀ byte, Carries limit 1 P (put byte) (next e) byte) (width : Nat)
    (h : value < 2 ^ (width * 8)) :
    Carries limit width P (writeUint put width 0 value) (readUint e width 0 0) value := by
  have hcarries := carries_uint e hput width 0 value
  rw [Nat.zero_mul, Nat.pow_zero, Nat.mod_one, Nat.zero_add, Nat.mod_eq_of_lt h] at hcarries
  exact hcarries

/-- The bytes of a number in memory, the lowest first. -/
def storeUint : (width value : Nat) → List UInt8
  | 0, _ => []
  | width + 1, value => (value % 256).toUInt8 :: storeUint width (value / 256)

/-- The number that bytes in memory hold. -/
def loadUint : List UInt8 → Nat
  | [] => 0
  | byte :: rest => byte.toNat + 256 * loadUint rest

@[simp] theorem length_storeUint (width value : Nat) : (storeUint width value).length = width := by
  induction width generalizing value with
  | zero => rfl
  | succ width ih => simp [storeUint, ih]

theorem loadUint_storeUint {width : Nat} (h : value < 256 ^ width) :
    loadUint (storeUint width value) = value := by
  induction width generalizing value with
  | zero =>
    have hzero : value = 0 := by simpa using h
    rw [hzero]
    rfl
  | succ width ih =>
    have hbyte : (value % 256).toUInt8.toNat = value % 256 :=
      UInt8.toNat_ofNat_of_lt (Nat.mod_lt _ (by decide))
    have hhigh : value / 256 < 256 ^ width := by
      rw [Nat.div_lt_iff_lt_mul (by decide), ← Nat.pow_succ]
      exact h
    rw [storeUint, loadUint, hbyte, ih hhigh]
    omega

theorem storeUint_loadUint (bytes : List UInt8) :
    storeUint bytes.length (loadUint bytes) = bytes := by
  induction bytes with
  | nil => rfl
  | cons byte rest ih =>
    have hlow : (byte.toNat + 256 * loadUint rest) % 256 = byte.toNat := by
      have hlt := byte.toNat_lt
      omega
    have hhigh : (byte.toNat + 256 * loadUint rest) / 256 = loadUint rest := by
      have hlt := byte.toNat_lt
      omega
    have hbyte : byte.toNat.toUInt8 = byte := UInt8.ofNat_toNat
    rw [List.length_cons, loadUint, storeUint, hlow, hhigh, ih, hbyte]

end LittleEndian

end Lib.Codec
