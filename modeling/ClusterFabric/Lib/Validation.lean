import Mathlib.Data.List.Chain
import Mathlib.Order.Lattice

/-! # Validation

Checks that stop at the first failure. A check is specified by the condition
under which it passes, so a long one is specified by the conjunction of what its
parts ask for.
-/

namespace Lib

namespace Check

variable {ε α : Type} {x : Except ε Unit}

def failIf (c : Prop) [Decidable c] (e : ε) : Except ε Unit := if c then .error e else .ok ()

@[simp] theorem failIf_ok {c : Prop} [Decidable c] {e : ε} : failIf c e = .ok () ↔ ¬ c := by
  unfold failIf
  split_ifs with h <;> simp [h]

@[simp] theorem bind_ok {f : Unit → Except ε Unit} :
    x >>= f = .ok () ↔ x = .ok () ∧ f () = .ok () := by
  cases x with
  | error e => simp [bind, Except.bind]
  | ok u => simp [bind, Except.bind]

@[simp] theorem pure_ok : (pure () : Except ε Unit) = .ok () ↔ True := by simp [pure, Except.pure]

@[simp] theorem mapError_ok {ε' : Type} {f : ε → ε'} : x.mapError f = .ok () ↔ x = .ok () := by
  cases x <;> simp [Except.mapError]

/-! ## Loops -/

/-- Checks each element together with the one before it. -/
def sequenceFrom (check : Option α → α → Except ε Unit) : Option α → List α → Except ε Unit
  | _, [] => .ok ()
  | previous, a :: rest => do
    check previous a
    sequenceFrom check (some a) rest

def sequence (check : Option α → α → Except ε Unit) (l : List α) : Except ε Unit :=
  sequenceFrom check none l

def forEach (check : α → Except ε Unit) : List α → Except ε Unit
  | [] => .ok ()
  | a :: rest => do
    check a
    forEach check rest

/-- Whether the key does not increase from the element before. -/
def notAfter {κ : Type} [LT κ] [DecidableLT κ] (key : α → κ) (previous : Option α) (a : α) : Bool :=
  previous.any fun b => !decide (key b < key a)

theorem any_not_eq_false {o : Option α} {q : α → Bool} :
    (o.any fun a => !q a) = false ↔ ∀ a, o = some a → q a = true := by
  cases o <;> simp

theorem notAfter_eq_false {κ : Type} [LT κ] [DecidableLT κ] {key : α → κ} {previous : Option α}
    {a : α} : notAfter key previous a = false ↔ ∀ b, previous = some b → key b < key a := by
  cases previous <;> simp [notAfter]

section Loops

variable {check : Option α → α → Except ε Unit} {P : α → Prop} {R : α → α → Prop}

theorem sequenceFrom_ok
    (hcheck : ∀ previous a, check previous a = .ok () ↔
      P a ∧ ∀ b, previous = some b → R b a) (previous : Option α) (l : List α) :
    sequenceFrom check previous l = .ok () ↔
      (∀ a ∈ l, P a) ∧ (∀ b, previous = some b → ∀ a, l.head? = some a → R b a) ∧ l.IsChain R := by
  induction l generalizing previous with
  | nil => simp [sequenceFrom]
  | cons a rest ih =>
    simp only [sequenceFrom, bind_ok, hcheck, ih, List.forall_mem_cons, List.head?_cons,
      Option.some.injEq, forall_eq', List.isChain_cons, Option.mem_def]
    constructor
    · rintro ⟨⟨ha, hprevious⟩, hrest, hnext, hchain⟩
      exact ⟨⟨ha, hrest⟩, hprevious, hnext, hchain⟩
    · rintro ⟨⟨ha, hrest⟩, hprevious, hnext, hchain⟩
      exact ⟨⟨ha, hprevious⟩, hrest, hnext, hchain⟩

/-- A loop that compares neighbours passes when every element does and the whole
list is strictly increasing. -/
theorem sequence_ok {κ : Type} [Preorder κ] [DecidableLT κ] (key : α → κ)
    (hcheck : ∀ previous a, check previous a = .ok () ↔ P a ∧ notAfter key previous a = false)
    {l : List α} :
    sequence check l = .ok () ↔ (∀ a ∈ l, P a) ∧ l.Pairwise fun a b => key a < key b := by
  have htrans : IsTrans α fun a b => key a < key b := ⟨fun _ _ _ => lt_trans⟩
  simp only [notAfter_eq_false] at hcheck
  rw [sequence, sequenceFrom_ok hcheck, List.isChain_iff_pairwise]
  simp

@[simp] theorem forEach_ok {check : α → Except ε Unit} {l : List α} :
    forEach check l = .ok () ↔ ∀ a ∈ l, check a = .ok () := by
  induction l with
  | nil => simp [forEach]
  | cons a rest ih => simp [forEach, ih]

end Loops

end Check

end Lib
