import Mathlib.Data.Nat.Digits.Lemmas

/-! # Numerals

The loop that writes a number: it takes the lowest digit, divides, and goes on
until nothing is left, so that zero has one digit. It fills a buffer, lowest digit
first, and the text is the buffer backwards. The buffer's size is the bound on the
loop, and a number below the base to that power never reaches it.

A numeral is read from the left. Reading and writing are inverse to each other on
the numbers that fit into the buffer.
-/

namespace Lib.Digits

variable {size n : Nat}

/-! ## Writing -/

/-- The digits of `n`, lowest first, in a buffer of `size` digits. -/
def low (base : Nat) : Nat → Nat → List Nat
  | 0, _ => []
  | size + 1, n => n % base :: if n / base = 0 then [] else low base size (n / base)

/-- The number of digits, counted by a loop that stops below the base. -/
def count (base : Nat) : Nat → Nat → Nat
  | 0, _ => 1
  | steps + 1, n => if n < base then 1 else count base steps (n / base) + 1

variable {base : Nat}

theorem low_ne_nil (hsize : 0 < size) (n : Nat) : low base size n ≠ [] := by
  cases size with
  | zero => omega
  | succ size => exact List.cons_ne_nil _ _

theorem length_low_le (size n : Nat) : (low base size n).length ≤ size := by
  induction size generalizing n with
  | zero => simp [low]
  | succ size ih =>
    have hrest := ih (n / base)
    rw [low, List.length_cons]
    split_ifs
    · simp
    · omega

theorem lt_of_mem_low (hbase : 0 < base) {d : Nat} (hd : d ∈ low base size n) : d < base := by
  induction size generalizing n with
  | zero => cases hd
  | succ size ih =>
    rw [low, List.mem_cons] at hd
    obtain rfl | hd := hd
    · exact Nat.mod_lt n hbase
    · split_ifs at hd
      · cases hd
      · exact ih hd

/-- Nothing is cut off from a number that fits into the buffer. -/
theorem ofDigits_low (hsize : 0 < size) (hfits : n < base ^ size) :
    Nat.ofDigits base (low base size n) = n := by
  induction size generalizing n with
  | zero => omega
  | succ size ih =>
    have hdiv := Nat.mod_add_div n base
    rw [low, Nat.ofDigits_cons]
    split_ifs with hrest
    · rw [hrest, Nat.mul_zero] at hdiv
      simpa using hdiv
    · have hbelow : n / base < base ^ size := Nat.div_lt_of_lt_mul (Nat.pow_succ' ▸ hfits)
      have hpos : 0 < size := by
        by_contra hzero
        rw [Nat.eq_zero_of_not_pos hzero, Nat.pow_zero] at hbelow
        exact hrest (Nat.lt_one_iff.mp hbelow)
      rw [ih hpos hbelow]
      simpa using hdiv

section Characters

variable {α : Type} {char : Nat → α} {digit : α → Nat}

theorem map_map_low (hbase : 0 < base) (h : ∀ d < base, digit (char d) = d) (size n : Nat) :
    ((low base size n).map char).map digit = low base size n := by
  rw [List.map_map]
  refine (List.map_congr_left fun d hd => ?_).trans (List.map_id _)
  exact h d (lt_of_mem_low hbase hd)

/-- Two numbers that are written alike are equal. -/
theorem map_low_injective (hbase : 0 < base) (h : ∀ d < base, digit (char d) = d) {m : Nat}
    (hsize : 0 < size) (hm : m < base ^ size) (hn : n < base ^ size)
    (heq : (low base size m).map char = (low base size n).map char) : m = n := by
  have hlow : low base size m = low base size n := by
    rw [← map_map_low hbase h, heq, map_map_low hbase h]
  rw [← ofDigits_low hsize hm, hlow, ofDigits_low hsize hn]

end Characters

/-- The count is the number of digits that are written. -/
theorem count_eq (hbase : 0 < base) (hfits : n < base ^ (size + 1)) :
    count base size n = (low base (size + 1) n).length := by
  induction size generalizing n with
  | zero =>
    have hn : n / base = 0 := Nat.div_eq_of_lt (by simpa using hfits)
    simp [count, low, hn]
  | succ size ih =>
    rw [count, low, List.length_cons]
    by_cases hn : n < base
    · rw [if_pos hn, if_pos (Nat.div_eq_of_lt hn), List.length_nil]
    · have hne : n / base ≠ 0 := by
        have hle := Nat.div_pos (not_lt.mp hn) hbase
        omega
      have hbelow : n / base < base ^ (size + 1) :=
        Nat.div_lt_of_lt_mul (Nat.pow_succ' ▸ hfits)
      rw [if_neg hn, if_neg hne, ih hbelow]

/-! ## Reading -/

/-- A numeral read from the left, after `n`. -/
def readFrom (base : Nat) (n : Nat) (digits : List Nat) : Nat :=
  digits.foldl (fun n d => n * base + d) n

@[simp] theorem readFrom_nil (n : Nat) : readFrom base n [] = n := rfl

@[simp] theorem readFrom_cons (n d : Nat) (digits : List Nat) :
    readFrom base n (d :: digits) = readFrom base (n * base + d) digits := rfl

theorem le_readFrom (hbase : 0 < base) (n : Nat) (digits : List Nat) :
    n ≤ readFrom base n digits := by
  induction digits generalizing n with
  | nil => exact le_refl n
  | cons d digits ih =>
    have hmul : n ≤ n * base := Nat.le_mul_of_pos_right n hbase
    exact le_trans (le_trans hmul (Nat.le_add_right _ d)) (ih _)

theorem readFrom_reverse (digits : List Nat) :
    readFrom base 0 digits.reverse = Nat.ofDigits base digits := by
  rw [readFrom, List.foldl_reverse]
  induction digits with
  | nil => rfl
  | cons d digits ih =>
    rw [List.foldr_cons, ih, Nat.ofDigits_cons]
    ring

/-! ## Parts between separators -/

section Parts

variable {α : Type} [DecidableEq α] {mark : α}

/-- The part before the first separator is determined by the whole. -/
theorem first_part_eq {a a' b b' : List α} (ha : mark ∉ a) (ha' : mark ∉ a')
    (h : a ++ mark :: b = a' ++ mark :: b') : a = a' ∧ b = b' := by
  have hpart : ∀ {a b : List α}, mark ∉ a → (a ++ mark :: b).takeWhile (· ≠ mark) = a := by
    intro a b hmark
    have hall : ∀ x ∈ a, decide (x ≠ mark) = true := by
      intro x hx
      have hne : x ≠ mark := fun heq => hmark (heq ▸ hx)
      simpa using hne
    rw [List.takeWhile_append_of_pos hall]
    simp
  have hfirst : a = a' := by
    rw [← hpart (b := b) ha, ← hpart (b := b') ha', h]
  subst hfirst
  exact ⟨rfl, (List.cons.inj (List.append_cancel_left h)).2⟩

/-- The part after the last separator is determined by the whole. -/
theorem last_part_eq {a a' b b' : List α} (hb : mark ∉ b) (hb' : mark ∉ b')
    (h : a ++ mark :: b = a' ++ mark :: b') : a = a' ∧ b = b' := by
  have hreverse : b.reverse ++ mark :: a.reverse = b'.reverse ++ mark :: a'.reverse := by
    simpa using congrArg List.reverse h
  obtain ⟨hb, ha⟩ := first_part_eq (by simpa using hb) (by simpa using hb') hreverse
  exact ⟨List.reverse_injective ha, List.reverse_injective hb⟩

/-- Parts that are each followed by a separator can be told apart. -/
theorem separated_injective {l l' : List (List α)} (hl : ∀ a ∈ l, mark ∉ a)
    (hl' : ∀ a ∈ l', mark ∉ a)
    (h : l.flatMap (fun a => a ++ [mark]) = l'.flatMap fun a => a ++ [mark]) : l = l' := by
  induction l generalizing l' with
  | nil =>
    cases l' with
    | nil => rfl
    | cons a' l' => simp at h
  | cons a l ih =>
    cases l' with
    | nil => simp at h
    | cons a' l' =>
      rw [List.flatMap_cons, List.flatMap_cons, List.append_assoc, List.append_assoc,
        List.singleton_append, List.singleton_append] at h
      obtain ⟨rfl, hrest⟩ := first_part_eq (hl a (List.mem_cons_self ..))
        (hl' a' (List.mem_cons_self ..)) h
      rw [ih (fun b hb => hl b (List.mem_cons_of_mem a hb))
        (fun b hb => hl' b (List.mem_cons_of_mem a hb)) hrest]

end Parts

end Lib.Digits
