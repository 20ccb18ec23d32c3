import Mathlib.Order.Lattice
import Mathlib.Data.List.Basic

/-! # Enumerations

A type with finitely many named values, numbered from zero in the order of its
declaration. The number orders the values and is what a byte format stores.
-/

namespace Lib

/-- The declared values of an enumeration, in order and each once. Their numbers fit
a byte. -/
class Enumeration (E : Type) [DecidableEq E] where
  all : List E
  mem_all : ∀ e : E, e ∈ all
  length_all : all.length ≤ 256 := by decide
  nodup_all : all.Nodup := by decide

namespace Enumeration

variable {E : Type} [DecidableEq E] [Enumeration E]

/-- The number of a value. -/
def raw (e : E) : Nat := (all (E := E)).idxOf e

/-- The value with a number, if there is one. -/
def ofRaw? (n : Nat) : Option E := (all (E := E))[n]?

theorem raw_lt (e : E) : raw e < (all (E := E)).length := List.idxOf_lt_length_of_mem (mem_all e)

@[simp] theorem ofRaw?_raw (e : E) : ofRaw? (raw e) = some e := by
  rw [ofRaw?, List.getElem?_eq_getElem (raw_lt e)]
  simp [raw]

theorem raw_of_ofRaw? {n : Nat} {e : E} (h : ofRaw? n = some e) : raw e = n := by
  obtain ⟨hlt, rfl⟩ := List.getElem?_eq_some_iff.mp h
  exact nodup_all.idxOf_getElem n hlt

theorem raw_lt_byte (e : E) : raw e < 256 := Nat.lt_of_lt_of_le (raw_lt e) length_all

theorem raw_injective : Function.Injective (raw : E → Nat) := by
  intro a b h
  have ha := ofRaw?_raw a
  rw [h, ofRaw?_raw b] at ha
  exact (Option.some.inj ha).symm

/-- The order of declaration. -/
@[reducible] def linearOrder : LinearOrder E where
  le a b := raw a ≤ raw b
  lt a b := raw a < raw b
  le_refl a := Nat.le_refl (raw a)
  le_trans _ _ _ := Nat.le_trans
  lt_iff_le_not_ge _ _ := Nat.lt_iff_le_and_not_ge
  le_antisymm _ _ hab hba := raw_injective (Nat.le_antisymm hab hba)
  le_total a b := Nat.le_total (raw a) (raw b)
  toDecidableLE a b := inferInstanceAs (Decidable (raw a ≤ raw b))
  toDecidableEq := inferInstance
  toDecidableLT a b := inferInstanceAs (Decidable (raw a < raw b))

end Enumeration

end Lib
