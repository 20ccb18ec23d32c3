import ClusterFabric.Lib.StdAlgorithm
import Mathlib.Data.List.Count

/-! # Results that do not depend on the order of a list

A list is sorted by a key and what follows looks at the sorted list only. Whether the
result depends on the order of the input is then a question about elements with equal
keys, and about elements that were dropped before the sort.

Keeping the first of each run of equal keys is independent of the order exactly when
equal keys mean equal elements. Keeping the smallest elements of the first ones that
fit is independent of the order exactly when all of them fit, or when the elements
below the last few are all the same.
-/

namespace Lib

variable {α κ : Type} {key : α → κ} {l l' s : List α}

/-! ## One element for each key -/

/-- Equal keys mean equal elements. -/
def Determined (key : α → κ) (l : List α) : Prop :=
  ∀ a ∈ l, ∀ b ∈ l, key a = key b → a = b

theorem Determined.perm (h : Determined key l) (hperm : l'.Perm l) : Determined key l' :=
  fun a ha b hb => h a (hperm.mem_iff.mp ha) b (hperm.mem_iff.mp hb)

theorem determined_of_injective (hkey : Function.Injective key) (l : List α) :
    Determined key l :=
  fun _ _ _ _ hab => hkey hab

variable [LinearOrder κ]

/-- Two lists with the same elements and strictly increasing keys are equal. -/
theorem eq_of_strict (hl : l.Pairwise fun a b => key a < key b)
    (hl' : l'.Pairwise fun a b => key a < key b) (hmem : ∀ a, a ∈ l ↔ a ∈ l') : l = l' := by
  have hperm : l.Perm l' := by
    refine (List.perm_ext_iff_of_nodup ?_ ?_).mpr hmem
    · exact hl.imp fun hab heq => (heq ▸ hab).false
    · exact hl'.imp fun hab heq => (heq ▸ hab).false
  exact hperm.eq_of_pairwise (fun a b _ _ hab hba => absurd hab hba.asymm) hl hl'

/-- In a list with strictly increasing keys, equal keys mean equal elements. -/
theorem determined_of_strict (hl : l.Pairwise fun a b => key a < key b) : Determined key l := by
  intro a ha b hb hab
  obtain ⟨i, hi, rfl⟩ := List.mem_iff_getElem.mp ha
  obtain ⟨j, hj, rfl⟩ := List.mem_iff_getElem.mp hb
  have hlt := List.pairwise_iff_getElem.mp hl
  rcases Nat.lt_trichotomy i j with hij | rfl | hji
  · exact absurd hab (hlt i j hi hj hij).ne
  · rfl
  · exact absurd hab (hlt j i hj hi hji).ne'

/-- Sorted by the key, with the first of each run of equal keys. -/
def dedupBy [StdSort] (key : α → κ) (l : List α) : List α :=
  unique (fun a b => decide (key a = key b)) (sortBy key l)

section

variable [StdSort]

theorem dedupBy_strict (key : α → κ) (l : List α) :
    (dedupBy key l).Pairwise fun a b => key a < key b :=
  unique_strict key (sortBy_sorted key l)

theorem dedupBy_dedupBy (key : α → κ) (l : List α) :
    dedupBy key (dedupBy key l) = dedupBy key l := by
  have hstrict := dedupBy_strict key l
  rw [dedupBy, sortBy_eq_self hstrict]
  exact unique_eq_self key hstrict

theorem mem_of_mem_dedupBy {a : α} (h : a ∈ dedupBy key l) : a ∈ l :=
  mem_sortBy.mp ((unique_sublist _ _).subset h)

theorem mem_dedupBy {l : List α} (h : Determined key l) {a : α} : a ∈ dedupBy key l ↔ a ∈ l := by
  refine ⟨mem_of_mem_dedupBy, fun ha => ?_⟩
  have hkey : key a ∈ (dedupBy key l).map key :=
    (mem_unique_keys key).mpr (List.mem_map_of_mem (mem_sortBy.mpr ha))
  obtain ⟨b, hb, hba⟩ := List.mem_map.mp hkey
  rw [← h b (mem_of_mem_dedupBy hb) a ha hba]
  exact hb

end

theorem dedupBy_eq_of_perm (h : Determined key l) (hperm : l'.Perm l) (sort sort' : StdSort) :
    @dedupBy _ _ _ sort' key l' = @dedupBy _ _ _ sort key l := by
  refine eq_of_strict (@dedupBy_strict _ _ _ sort' key l') (@dedupBy_strict _ _ _ sort key l) ?_
  intro a
  rw [@mem_dedupBy _ _ _ _ sort' _ (h.perm hperm), @mem_dedupBy _ _ _ _ sort _ h,
    hperm.mem_iff]

section

open scoped StdSort

/-- An element that is inserted in front of its equals is the one that stays. -/
theorem mem_uniqueFrom_insertBefore {last a : α} (hne : key last ≠ key a) (l : List α) :
    a ∈ uniqueFrom (fun a b => decide (key a = key b)) last
      (StdSort.insertBefore (fun a b => decide (key a < key b)) a l) := by
  induction l generalizing last with
  | nil => simp [StdSort.insertBefore, uniqueFrom, hne]
  | cons b l ih =>
    rw [StdSort.insertBefore]
    split_ifs with hba
    · rw [uniqueFrom]
      split_ifs
      · exact ih hne
      · exact List.mem_cons_of_mem b (ih (of_decide_eq_true hba).ne)
    · rw [uniqueFrom, if_neg (by simpa using hne)]
      exact List.mem_cons_self ..

/-- Of the equals of the first element, insertion sort keeps the first element. -/
theorem mem_dedupBy_cons (a : α) (l : List α) : a ∈ dedupBy key (a :: l) := by
  change a ∈ unique _ (StdSort.insertBefore (fun a b => decide (key a < key b)) a (sortBy key l))
  cases hsorted : sortBy key l with
  | nil => exact List.mem_cons_self ..
  | cons b rest =>
    rw [StdSort.insertBefore]
    split_ifs with hba
    · exact List.mem_cons_of_mem b (mem_uniqueFrom_insertBefore (of_decide_eq_true hba).ne rest)
    · exact List.mem_cons_self ..

end

/-- The result is independent of the order for every correct sort exactly when equal keys
mean equal elements. -/
theorem dedupBy_order_free_iff (key : α → κ) (l : List α) :
    (∀ (sort : StdSort) (l' : List α), l'.Perm l →
      @dedupBy _ _ _ sort key l' = @dedupBy _ _ _ sort key l) ↔ Determined key l := by
  constructor
  · intro h
    have hkept : ∀ a ∈ l, a ∈ @dedupBy _ _ _ StdSort.insertion key l := by
      intro a ha
      obtain ⟨s, t, rfl⟩ := List.append_of_mem ha
      rw [← h StdSort.insertion (a :: (s ++ t)) List.perm_middle.symm]
      exact mem_dedupBy_cons a (s ++ t)
    intro a ha b hb
    exact determined_of_strict (@dedupBy_strict _ _ _ StdSort.insertion key l) a (hkept a ha) b
      (hkept b hb)
  · intro h sort l' hperm
    exact dedupBy_eq_of_perm h hperm sort sort

/-! ## The smallest of the first -/

section

variable [StdSort]

theorem sortBy_eq_of_sorted (hkey : Function.Injective key) (hperm : s.Perm l)
    (hs : s.Pairwise fun a b => key a ≤ key b) : sortBy key l = s :=
  ((sortBy_perm key l).trans hperm.symm).eq_of_pairwise
    (fun _ _ _ _ hab hba => hkey (le_antisymm hab hba)) (sortBy_sorted key l) hs

/-- The `keep` smallest of the first `capacity` elements. -/
def smallest (key : α → κ) (capacity keep : Nat) (l : List α) : List α :=
  (sortBy key (l.take capacity)).take keep

end

/-- A sorted list that agrees with itself moved by `d` is constant there. -/
theorem eq_first_of_shift (hkey : Function.Injective key)
    (hs : s.Pairwise fun a b => key a ≤ key b) {d keep : Nat} (hd : 0 < d) (hkeep : 0 < keep)
    (hlength : keep + d ≤ s.length) (hshift : s.take keep = (s.drop d).take keep) {v : α}
    (hv : s[0]? = some v) {j : Nat} (hj : j < keep + d) : s[j]? = some v := by
  have hstep : ∀ i < keep, s[i]? = s[d + i]? := by
    intro i hi
    have hget := congrArg (·[i]?) hshift
    simpa [List.getElem?_take, hi, List.getElem?_drop] using hget
  have hmono : ∀ {i j : Nat} {a b : α}, i ≤ j → s[i]? = some a → s[j]? = some b →
      key a ≤ key b := by
    intro i j a b hij ha hb
    obtain ⟨hi, rfl⟩ := List.getElem?_eq_some_iff.mp ha
    obtain ⟨hj, rfl⟩ := List.getElem?_eq_some_iff.mp hb
    obtain hlt | rfl := Nat.lt_or_eq_of_le hij
    · exact List.pairwise_iff_getElem.mp hs i j hi hj hlt
    · exact le_refl _
  induction j using Nat.strong_induction_on with
  | _ j ih =>
    by_cases hjd : j < d
    · -- below the shift, between the first element and the one it moved to
      have hfirst : s[d]? = some v := by
        rw [← hv, hstep 0 hkeep, Nat.add_zero]
      have hb : s[j]? = some s[j] := List.getElem?_eq_getElem _
      have hle := hmono (Nat.zero_le j) hv hb
      have hge := hmono hjd.le hb hfirst
      rw [hb, hkey (le_antisymm hle hge)]
    · have hback : s[j - d]? = s[j]? := by
        rw [hstep (j - d) (by omega), Nat.add_sub_cancel' (not_lt.mp hjd)]
      rw [← hback]
      exact ih (j - d) (by omega) (by omega)

/-- The smallest element comes first, as often as it occurs. -/
theorem take_eq_replicate [DecidableEq α] (hkey : Function.Injective key)
    (hs : s.Pairwise fun a b => key a ≤ key b) {v : α} (hv : ∀ x ∈ s, key v ≤ key x) {k : Nat}
    (hk : k ≤ s.count v) : s.take k = List.replicate k v := by
  induction s generalizing k with
  | nil =>
    have hzero : k = 0 := Nat.le_zero.mp hk
    rw [hzero]
    rfl
  | cons x s ih =>
    obtain ⟨hx, hs'⟩ := List.pairwise_cons.mp hs
    cases k with
    | zero => rfl
    | succ k =>
      have hmem : v ∈ x :: s := List.count_pos_iff.mp (by omega)
      have hfirst : x = v := by
        rcases List.mem_cons.mp hmem with rfl | hin
        · rfl
        · exact hkey (le_antisymm (hx v hin) (hv x (List.mem_cons_self ..)))
      subst hfirst
      rw [List.count_cons_self] at hk
      rw [List.take_succ_cons, List.replicate_succ,
        ih hs' (fun y hy => hv y (List.mem_cons_of_mem x hy)) (by omega)]

/-- The smallest of the first `keep + slack` elements are the same in every order exactly
when all elements are among them, or all but the `slack` greatest elements are equal. -/
theorem smallest_order_free_iff [StdSort] [DecidableEq α] (hkey : Function.Injective key)
    {keep slack : Nat} (hkeep : 0 < keep) (l : List α) :
    (∀ l' : List α, l'.Perm l →
      smallest key (keep + slack) keep l' = smallest key (keep + slack) keep l) ↔
    l.length ≤ keep + slack ∨
      ∃ v rest, l.Perm (List.replicate (l.length - slack) v ++ rest) ∧
        ∀ x ∈ rest, key v ≤ key x := by
  constructor
  · intro h
    by_cases hfits : l.length ≤ keep + slack
    · exact .inl hfits
    right
    set s := sortBy key l with hs
    have hperm : s.Perm l := sortBy_perm key l
    have hsorted : s.Pairwise fun a b => key a ≤ key b := sortBy_sorted key l
    have hlength : s.length = l.length := hperm.length_eq
    obtain ⟨d, hd⟩ : ∃ d, l.length = keep + slack + d := ⟨_, (Nat.add_sub_of_le (by omega)).symm⟩
    -- in increasing order, and with the greatest elements in front
    have hlow : smallest key (keep + slack) keep s = s.take keep := by
      rw [smallest, sortBy_eq_of_sorted hkey (.refl _) (hsorted.sublist (List.take_sublist ..)),
        List.take_take, Nat.min_eq_left (Nat.le_add_right ..)]
    have hhigh : smallest key (keep + slack) keep (s.drop d ++ s.take d) =
        (s.drop d).take keep := by
      rw [smallest, List.take_left' (by rw [List.length_drop]; omega),
        sortBy_eq_of_sorted hkey (.refl _) (hsorted.sublist (List.drop_sublist ..))]
    have hrotated : (s.drop d ++ s.take d).Perm l := by
      refine (List.perm_append_comm.trans ?_).trans hperm
      rw [List.take_append_drop]
    have hshift : s.take keep = (s.drop d).take keep := by
      rw [← hlow, ← hhigh, h s hperm, h _ hrotated]
    have hpos : 0 < s.length := by omega
    have hconst : ∀ j < keep + d, s[j]? = some s[0] := fun j hj =>
      eq_first_of_shift hkey hsorted (by omega) hkeep (by omega) hshift
        (List.getElem?_eq_getElem hpos) hj
    have hfront : s.take (keep + d) = List.replicate (keep + d) s[0] := by
      refine List.ext_getElem? fun j => ?_
      rw [List.getElem?_take, List.getElem?_replicate]
      split_ifs with hj
      · exact hconst j hj
      · rfl
    refine ⟨s[0], s.drop (keep + d), ?_, ?_⟩
    · have hsize : l.length - slack = keep + d := by omega
      rw [hsize, ← hfront, List.take_append_drop]
      exact hperm.symm
    · intro x hx
      have hhead := List.pairwise_iff_getElem.mp hsorted
      obtain ⟨i, hi, rfl⟩ := List.mem_iff_getElem.mp (List.mem_of_mem_drop hx)
      obtain hzero | hpos' := Nat.eq_zero_or_pos i
      · subst hzero
        exact le_refl _
      · exact hhead 0 i hpos hi hpos'
  · intro h l' hperm
    by_cases hfits : l.length ≤ keep + slack
    · have hfits' : l'.length ≤ keep + slack := hperm.length_eq ▸ hfits
      rw [smallest, smallest, List.take_of_length_le hfits, List.take_of_length_le hfits',
        sortBy_eq_of_sorted hkey ((sortBy_perm key l).trans hperm.symm) (sortBy_sorted key l)]
    obtain ⟨v, rest, hshape, hrest⟩ := h.resolve_left hfits
    have hall : ∀ l' : List α, l'.Perm l →
        smallest key (keep + slack) keep l' = List.replicate keep v := by
      intro l' hperm
      refine take_eq_replicate hkey (sortBy_sorted key _) ?_ ?_
      · intro x hx
        have hmem : x ∈ List.replicate (l.length - slack) v ++ rest :=
          (hperm.trans hshape).mem_iff.mp (List.mem_of_mem_take (mem_sortBy.mp hx))
        rcases List.mem_append.mp hmem with hrep | hin
        · rw [List.eq_of_mem_replicate hrep]
        · exact hrest x hin
      · -- at most the dropped elements are missing from the copies of `v`
        have htotal : l.length - slack ≤ l'.count v := by
          rw [(hperm.trans hshape).count_eq, List.count_append, List.count_replicate_self]
          exact Nat.le_add_right ..
        have hsplit : (l'.take (keep + slack)).count v + (l'.drop (keep + slack)).count v =
            l'.count v := by
          rw [← List.count_append, List.take_append_drop]
        have hdropped := List.count_le_length (a := v) (l := l'.drop (keep + slack))
        rw [List.length_drop, hperm.length_eq] at hdropped
        rw [(sortBy_perm key _).count_eq]
        omega
    rw [hall l' hperm, hall l (.refl l)]

end Lib
