import Mathlib.Order.Lattice
import Mathlib.Data.List.Chain
import Mathlib.Data.List.Perm.Basic

/-! # Sequence algorithms

The algorithms of a standard sequence library over lists. A sort with a caller's
comparison is only known to return an ordered permutation of its input: the
order of equivalent elements is the implementation's. It is therefore a class,
and every result proved with it holds for each correct sort.
-/

namespace Lib

/-- The precondition on the comparison of a sort: incomparability is an
equivalence that the order respects. -/
structure StrictWeakOrder {α : Type} (lt : α → α → Bool) : Prop where
  irrefl : ∀ a, lt a a = false
  trans : ∀ {a b c}, lt a b = true → lt b c = true → lt a c = true
  incomp : ∀ {a b c}, lt b a = false → lt c b = false → lt c a = false

/-- Comparing by a key in a linear order. -/
theorem StrictWeakOrder.ofKey {α κ : Type} [LinearOrder κ] (key : α → κ) :
    StrictWeakOrder fun a b => decide (key a < key b) where
  irrefl a := by simp
  trans hab hbc := by
    simp only [decide_eq_true_eq] at hab hbc ⊢
    exact hab.trans hbc
  incomp hba hcb := by
    simp only [decide_eq_false_iff_not, not_lt] at hba hcb ⊢
    exact hba.trans hcb

/-- An arbitrary correct sort. -/
class StdSort where
  sort : {α : Type} → (α → α → Bool) → List α → List α
  sort_perm : ∀ {α : Type} (lt : α → α → Bool) (l : List α), (sort lt l).Perm l
  sort_sorted : ∀ {α : Type} {lt : α → α → Bool} (l : List α), StrictWeakOrder lt →
    (sort lt l).Pairwise fun a b => lt b a = false

namespace StdSort

/-- Insertion before the first element that is not smaller. -/
def insertBefore {α : Type} (lt : α → α → Bool) (a : α) : List α → List α
  | [] => [a]
  | b :: l => if lt b a then b :: insertBefore lt a l else a :: b :: l

theorem insertBefore_perm {α : Type} (lt : α → α → Bool) (a : α) (l : List α) :
    (insertBefore lt a l).Perm (a :: l) := by
  induction l with
  | nil => exact .refl _
  | cons b l ih =>
    rw [insertBefore]
    split_ifs
    · exact (ih.cons b).trans (.swap a b l)
    · exact .refl _

theorem insertBefore_sorted {α : Type} {lt : α → α → Bool} (hlt : StrictWeakOrder lt) (a : α)
    {l : List α} (hl : l.Pairwise fun a b => lt b a = false) :
    (insertBefore lt a l).Pairwise fun a b => lt b a = false := by
  induction l with
  | nil => simp [insertBefore]
  | cons b l ih =>
    obtain ⟨hb, hl'⟩ := List.pairwise_cons.mp hl
    rw [insertBefore]
    split_ifs with hba
    · refine List.pairwise_cons.mpr ⟨fun c hc => ?_, ih hl'⟩
      rcases List.mem_cons.mp ((insertBefore_perm lt a l).mem_iff.mp hc) with rfl | hc
      · -- `b < a`, so `a < b` would make `b < b`.
        cases hab : lt c b with
        | false => rfl
        | true => exact absurd (hlt.trans hba hab) (by simp [hlt.irrefl])
      · exact hb c hc
    · have hba' : lt b a = false := by simpa using hba
      refine List.pairwise_cons.mpr ⟨fun c hc => ?_, hl⟩
      rcases List.mem_cons.mp hc with rfl | hc
      · exact hba'
      · exact hlt.incomp hba' (hb c hc)

/-- Insertion sort: a concrete correct sort that runs by structural recursion. -/
scoped instance insertion : StdSort where
  sort lt l := l.foldr (insertBefore lt) []
  sort_perm lt l := by
    induction l with
    | nil => exact .refl _
    | cons a l ih => exact (insertBefore_perm lt a _).trans (ih.cons a)
  sort_sorted {_ lt} l hlt := by
    induction l with
    | nil => exact .nil
    | cons a l ih => exact insertBefore_sorted hlt a ih

end StdSort

section Sorting

variable [StdSort] {α κ : Type} [LinearOrder κ]

/-- Sorting by a key. -/
def sortBy (key : α → κ) (l : List α) : List α :=
  StdSort.sort (fun a b => decide (key a < key b)) l

theorem sortBy_perm (key : α → κ) (l : List α) : (sortBy key l).Perm l :=
  StdSort.sort_perm _ l

@[simp] theorem mem_sortBy {key : α → κ} {l : List α} {a : α} : a ∈ sortBy key l ↔ a ∈ l :=
  (sortBy_perm key l).mem_iff

@[simp] theorem length_sortBy (key : α → κ) (l : List α) : (sortBy key l).length = l.length :=
  (sortBy_perm key l).length_eq

theorem sortBy_sorted (key : α → κ) (l : List α) :
    (sortBy key l).Pairwise fun a b => key a ≤ key b := by
  refine (StdSort.sort_sorted l (.ofKey key)).imp fun h => ?_
  simpa using h

/-- Distinct keys come out strictly increasing. -/
theorem sortBy_strict {key : α → κ} {l : List α} (h : l.Pairwise fun a b => key a ≠ key b) :
    (sortBy key l).Pairwise fun a b => key a < key b := by
  have hne : (sortBy key l).Pairwise fun a b => key a ≠ key b :=
    (sortBy_perm key l).symm.pairwise h fun hab => hab.symm
  exact (sortBy_sorted key l).imp₂ (fun _ _ hle hne => lt_of_le_of_ne hle hne) hne

theorem sortBy_strict_iff {key : α → κ} {l : List α} :
    ((sortBy key l).Pairwise fun a b => key a < key b) ↔ l.Pairwise fun a b => key a ≠ key b := by
  constructor
  · intro h
    have hne : (sortBy key l).Pairwise fun a b => key a ≠ key b := h.imp fun hlt => hlt.ne
    exact (sortBy_perm key l).pairwise hne fun hab => hab.symm
  · exact sortBy_strict

/-- A strictly increasing list is already sorted. -/
theorem sortBy_eq_self {key : α → κ} {l : List α} (h : l.Pairwise fun a b => key a < key b) :
    sortBy key l = l := by
  have hs := sortBy_strict (h.imp fun hab => hab.ne)
  exact (sortBy_perm key l).eq_of_pairwise (fun a b _ _ hab hba => absurd hab hba.asymm) hs h

theorem sort_eq_nil {lt : α → α → Bool} {l : List α} : StdSort.sort lt l = [] ↔ l = [] :=
  ⟨fun h => by simpa [h] using (StdSort.sort_perm lt l).symm.length_eq,
    fun h => by simpa [h] using (StdSort.sort_perm lt l).length_eq⟩

end Sorting

/-! ## Adjacent elements -/

section Adjacent

variable {α : Type} {l : List α}

/-- Whether every two adjacent elements are related. -/
def adjacent (r : α → α → Bool) : List α → Bool
  | a :: b :: l => r a b && adjacent r (b :: l)
  | _ => true

theorem adjacent_iff_pairwise {r : α → α → Bool}
    (htrans : ∀ {a b c}, r a b = true → r b c = true → r a c = true) :
    adjacent r l = true ↔ l.Pairwise fun a b => r a b = true := by
  induction l with
  | nil => simp [adjacent]
  | cons a l ih =>
    cases l with
    | nil => simp [adjacent]
    | cons b l =>
      rw [adjacent, Bool.and_eq_true, ih]
      constructor
      · rintro ⟨hab, hl⟩
        refine List.pairwise_cons.mpr ⟨fun c hc => ?_, hl⟩
        rcases List.mem_cons.mp hc with rfl | hc
        · exact hab
        · exact htrans hab (List.rel_of_pairwise_cons hl hc)
      · intro h
        exact ⟨List.rel_of_pairwise_cons h (List.mem_cons_self ..), h.of_cons⟩

variable {κ : Type} [LinearOrder κ]

/-- The adjacent check for a strictly increasing key. -/
theorem adjacent_lt_iff (key : α → κ) :
    adjacent (fun a b => decide (key a < key b)) l = true ↔
      l.Pairwise fun a b => key a < key b := by
  rw [adjacent_iff_pairwise fun {a b c} hab hbc => ?_]
  · simp
  · simp only [decide_eq_true_eq] at hab hbc ⊢
    exact hab.trans hbc

/-- No element is smaller than its predecessor. -/
def isSorted [LinearOrder α] (l : List α) : Bool := adjacent (fun a b => !decide (b < a)) l

/-- No two adjacent elements are equal. -/
def noAdjacentEqual [DecidableEq α] (l : List α) : Bool := adjacent (fun a b => decide (a ≠ b)) l

theorem isSorted_and_noAdjacentEqual [LinearOrder α] :
    (isSorted l && noAdjacentEqual l) = true ↔ l.Pairwise (· < ·) := by
  have hsplit : (isSorted l && noAdjacentEqual l) = adjacent (fun a b => decide (a < b)) l := by
    unfold isSorted noAdjacentEqual
    induction l with
    | nil => rfl
    | cons a l ih =>
      cases l with
      | nil => rfl
      | cons b l =>
        simp only [adjacent, ← ih]
        have hab : decide (a < b) = (!decide (b < a) && decide (a ≠ b)) := by
          rw [Bool.eq_iff_iff]
          simp only [Bool.and_eq_true, Bool.not_eq_true', decide_eq_true_eq,
            decide_eq_false_iff_not, not_lt]
          exact lt_iff_le_and_ne
        rw [hab]
        cases !decide (b < a) <;> cases decide (a ≠ b) <;> simp
  rw [hsplit]
  exact adjacent_lt_iff fun a : α => a

/-- Removal of every element equivalent to the last one kept. -/
def uniqueFrom (eq : α → α → Bool) (last : α) : List α → List α
  | [] => []
  | b :: l => if eq last b then uniqueFrom eq last l else b :: uniqueFrom eq b l

/-- Removal of all but the first of each run of equivalent elements. -/
def unique (eq : α → α → Bool) : List α → List α
  | [] => []
  | a :: l => a :: uniqueFrom eq a l

theorem uniqueFrom_sublist (eq : α → α → Bool) (last : α) (l : List α) :
    (uniqueFrom eq last l).Sublist l := by
  induction l generalizing last with
  | nil => exact .slnil
  | cons b l ih =>
    rw [uniqueFrom]
    split_ifs
    · exact (ih last).cons b
    · exact (ih b).cons_cons b

theorem unique_sublist (eq : α → α → Bool) (l : List α) : (unique eq l).Sublist l := by
  cases l with
  | nil => exact .slnil
  | cons a l => exact (uniqueFrom_sublist eq a l).cons_cons a

section Key

variable (key : α → κ)

theorem uniqueFrom_strict {last : α} (hl : (last :: l).Pairwise fun a b => key a ≤ key b) :
    (last :: uniqueFrom (fun a b => decide (key a = key b)) last l).Pairwise
      fun a b => key a < key b := by
  induction l generalizing last with
  | nil => simp [uniqueFrom]
  | cons b l ih =>
    obtain ⟨hlast, hbl⟩ := List.pairwise_cons.mp hl
    rw [uniqueFrom]
    split_ifs with heq
    · exact ih (List.pairwise_cons.mpr
        ⟨fun c hc => hlast c (List.mem_cons_of_mem _ hc), hbl.of_cons⟩)
    · have hlt : key last < key b :=
        lt_of_le_of_ne (hlast b (List.mem_cons_self ..)) (by simpa using heq)
      refine List.pairwise_cons.mpr ⟨fun c hc => ?_, ih hbl⟩
      rcases List.mem_cons.mp hc with rfl | hc
      · exact hlt
      · have hmem := (uniqueFrom_sublist _ _ _).subset hc
        exact hlt.trans_le (List.rel_of_pairwise_cons hbl hmem)

/-- Deduplicating a list sorted by a key leaves strictly increasing keys. -/
theorem unique_strict (hl : l.Pairwise fun a b => key a ≤ key b) :
    (unique (fun a b => decide (key a = key b)) l).Pairwise fun a b => key a < key b := by
  cases l with
  | nil => exact .nil
  | cons a l => exact uniqueFrom_strict key hl

theorem uniqueFrom_keys {last : α} {l : List α} {k : κ}
    (hk : k ∈ l.map key) : k = key last ∨
      k ∈ (uniqueFrom (fun a b => decide (key a = key b)) last l).map key := by
  induction l generalizing last with
  | nil => simp at hk
  | cons b l ih =>
    rw [uniqueFrom]
    split_ifs with heq
    · rcases List.mem_cons.mp hk with rfl | hk
      · exact .inl (by simpa using (of_decide_eq_true heq).symm)
      · exact ih hk
    · rcases List.mem_cons.mp hk with rfl | hk
      · exact .inr (by simp)
      · rcases @ih b hk with hb | hk
        · exact .inr (by simp [hb])
        · exact .inr (List.mem_cons_of_mem _ hk)

/-- Deduplication keeps every key. -/
theorem mem_unique_keys {k : κ} :
    k ∈ (unique (fun a b => decide (key a = key b)) l).map key ↔ k ∈ l.map key := by
  refine ⟨fun h => ((unique_sublist _ l).map key).subset h, fun h => ?_⟩
  cases l with
  | nil => simp at h
  | cons a l =>
    rw [unique, List.map_cons]
    rcases List.mem_cons.mp h with rfl | h
    · exact List.mem_cons_self ..
    · rcases @uniqueFrom_keys _ _ _ key a _ _ h with ha | h
      · exact ha ▸ List.mem_cons_self ..
      · exact List.mem_cons_of_mem _ h

/-- A strictly increasing list has nothing to remove. -/
theorem unique_eq_self (hl : l.Pairwise fun a b => key a < key b) :
    unique (fun a b => decide (key a = key b)) l = l := by
  cases l with
  | nil => rfl
  | cons a l =>
    rw [unique]
    congr 1
    induction l generalizing a with
    | nil => rfl
    | cons b l ih =>
      have hab : key a ≠ key b := (List.rel_of_pairwise_cons hl (List.mem_cons_self ..)).ne
      rw [uniqueFrom, if_neg (by simpa using hab), ih b hl.of_cons]

end Key

end Adjacent

/-! ## Sorting and deduplicating in one step -/

section SortUnique

variable [StdSort] {α : Type} [LinearOrder α]

/-- The sorted list of the distinct elements. -/
def sortUnique (l : List α) : List α :=
  unique (fun a b => decide (a = b)) (sortBy (fun a => a) l)

theorem sortUnique_strict (l : List α) : (sortUnique l).Pairwise (· < ·) :=
  unique_strict (fun a => a) (sortBy_sorted _ l)

@[simp] theorem mem_sortUnique {l : List α} {a : α} : a ∈ sortUnique l ↔ a ∈ l := by
  have h := mem_unique_keys (fun a : α => a) (l := sortBy (fun a => a) l) (k := a)
  rw [sortUnique]
  simpa using h

theorem length_sortUnique_le (l : List α) : (sortUnique l).length ≤ l.length := by
  have h := (unique_sublist (fun a b : α => decide (a = b)) (sortBy (fun a => a) l)).length_le
  rw [sortUnique]
  simpa using h

end SortUnique

/-! ## Binary search -/

section BinarySearch

variable {α : Type} [LinearOrder α]

/-- The element at the lower bound of `x`, if any, is not greater than `x`. On a
range partitioned by `x`, which is what a binary search requires, the lower
bound is the first element that is not smaller. -/
def binarySearch (l : List α) (x : α) : Bool :=
  match l.dropWhile fun y => decide (y < x) with
  | [] => false
  | y :: _ => !decide (x < y)

theorem binarySearch_sorted_iff {l : List α} (hl : l.Pairwise (· ≤ ·)) (x : α) :
    binarySearch l x = true ↔ x ∈ l := by
  induction l with
  | nil => simp [binarySearch]
  | cons y l ih =>
    obtain ⟨hy, hl'⟩ := List.pairwise_cons.mp hl
    have ih' := ih hl'
    by_cases hyx : y < x
    · have hstep : binarySearch (y :: l) x = binarySearch l x := by
        simp [binarySearch, hyx]
      rw [hstep, ih', List.mem_cons]
      exact ⟨.inr, fun h => h.resolve_left hyx.ne'⟩
    · have hstep : binarySearch (y :: l) x = !decide (x < y) := by
        simp [binarySearch, hyx]
      rw [hstep]
      simp only [Bool.not_eq_true', decide_eq_false_iff_not, not_lt, List.mem_cons]
      constructor
      · intro hle
        exact .inl (le_antisymm (not_lt.mp hyx) hle)
      · rintro (rfl | hmem)
        · exact le_refl x
        · exact hy x hmem

theorem binarySearch_iff {l : List α} (hl : l.Pairwise (· < ·)) (x : α) :
    binarySearch l x = true ↔ x ∈ l :=
  binarySearch_sorted_iff (hl.imp fun h => h.le) x

end BinarySearch

/-! ## Flags

A loop that only ever raises a flag leaves it raised when some element raised it. -/

theorem foldl_flag {α β : Type} {step : β → α → β} {flag : β → Bool} {raises : α → Bool}
    (hstep : ∀ b a, flag (step b a) = (flag b || raises a)) (l : List α) (b : β) :
    flag (l.foldl step b) = (flag b || l.any raises) := by
  induction l generalizing b with
  | nil => simp
  | cons a l ih => rw [List.foldl_cons, ih, hstep, List.any_cons, Bool.or_assoc]

/-! ## Sorted scans -/

/-- The list holds exactly the elements with the property, once each and in
order. -/
structure SortedScan {α : Type} [LinearOrder α] (p : α → Prop) (l : List α) : Prop where
  sorted : l.Pairwise (· < ·)
  mem : ∀ a, a ∈ l ↔ p a

theorem sortedScan_sortUnique [StdSort] {α : Type} [LinearOrder α] (l : List α) :
    SortedScan (· ∈ l) (sortUnique l) :=
  ⟨sortUnique_strict l, fun _ => mem_sortUnique⟩

end Lib
