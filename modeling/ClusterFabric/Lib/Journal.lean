import Mathlib.Tactic.Common

/-! # Undo journals

A state together with the undo actions of the writes made to it, newest first.
A rollback is judged up to a relation: the actions need only restore the part of
the state that their writes touched, and an action that restores a part whole
lets later writes to that part go unrecorded.
-/

namespace Lib

/-- A part of a structure, with the laws of reading and writing it. -/
structure Field (S A : Type) where
  get : S → A
  set : S → A → S
  get_set : ∀ s a, get (set s a) = a
  set_get : ∀ s, set s (get s) = s
  set_set : ∀ s a b, set (set s a) b = set s b

/-- A state and the undo actions of its writes, newest first. -/
structure Journal (S : Type) where
  state : S
  undo : List (S → S) := []

namespace Journal

variable {S : Type}

/-- Runs undo actions, newest first. -/
def runUndo (undo : List (S → S)) (s : S) : S := undo.foldl (fun s u => u s) s

/-- The state after undoing everything recorded. -/
def rollback (j : Journal S) : S := runUndo j.undo j.state

/-- A write that needs no record of its own. -/
def update (j : Journal S) (f : S → S) : Journal S := { j with state := f j.state }

/-- A write together with the action that undoes it. -/
def push (j : Journal S) (f u : S → S) : Journal S := ⟨f j.state, u :: j.undo⟩

/-- Undoing from any state that agrees with the journal's own returns to `s₀`. -/
def Restores (agree : S → S → Prop) (s₀ : S) (j : Journal S) : Prop :=
  ∀ s, agree j.state s → runUndo j.undo s = s₀

variable {agree agree' : S → S → Prop} {s₀ : S} {j : Journal S}

theorem restores_start (s₀ : S) : Restores Eq s₀ { state := s₀ } := fun _ hs => hs.symm

theorem Restores.rollback (h : Restores agree s₀ j) (hrefl : ∀ s, agree s s) :
    j.rollback = s₀ := h j.state (hrefl j.state)

/-- An unrecorded write is harmless when agreeing with the new state is no
weaker than agreeing with the old one. -/
theorem Restores.update (h : Restores agree s₀ j) {f : S → S}
    (hf : ∀ s, agree (f j.state) s → agree j.state s) : Restores agree s₀ (j.update f) :=
  fun s hs => h s (hf s hs)

/-- A recorded write whose action leads back into agreement with the old state.
The record may weaken what later states must agree on. -/
theorem Restores.push (h : Restores agree s₀ j) {f u : S → S}
    (hagree : ∀ s, agree' (f j.state) s → agree j.state (u s)) :
    Restores agree' s₀ (j.push f u) :=
  fun s hs => h (u s) (hagree s hs)

end Journal

end Lib
