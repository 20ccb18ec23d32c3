import Mathlib.Tactic.Common

/-! # Transactions that may exit early, and runs of a step function

A transaction updates a state and may end early with an exit value. An early
exit keeps what was written before it: undoing those writes is the caller's
business, which is what distinguishes this from a state inside an error monad
that discards the state.
-/

namespace Lib

variable {c : Prop} {u : Unit} {D : Prop}

/-- A computation over a state `σ` that returns an `α` or exits early with an `ε`. -/
def Txn (σ ε α : Type) : Type := σ → Except ε α × σ

namespace Txn

variable {σ ε α β : Type} {f : α → Txn σ ε β} {x : Txn σ ε α} {o : Option α} {C : Prop} {e : ε}
  {s' : σ} {a : α} {b : β} {y : Txn σ ε α}

instance : Monad (Txn σ ε) where
  pure a := fun s => (.ok a, s)
  bind x f := fun s =>
    match x s with
    | (.ok a, s') => f a s'
    | (.error e, s') => (.error e, s')

/-- The current state. -/
def get : Txn σ ε σ := fun s => (.ok s, s)

/-- An update of the state. -/
def modify (f : σ → σ) : Txn σ ε Unit := fun s => (.ok (), f s)

/-- The early exit. -/
def exit (e : ε) : Txn σ ε α := fun s => (.error e, s)

/-- An early exit under a condition. -/
def exitIf (c : Prop) [Decidable c] (e : ε) : Txn σ ε Unit := if c then exit e else pure ()

/-- The value of an option, or the early exit when there is none. -/
def ofOption (o : Option α) (e : ε) : Txn σ ε α :=
  match o with
  | some a => pure a
  | none => exit e

/-- A step for the value of an option, if there is one. -/
def forSome (o : Option α) (f : α → Txn σ ε Unit) : Txn σ ε Unit :=
  match o with
  | some a => f a
  | none => pure ()

/-- A step under a condition. -/
def when (c : Prop) [Decidable c] (x : Txn σ ε Unit) : Txn σ ε Unit := if c then x else pure ()

/-- What `x` comes to, as a value: an early exit is caught. -/
def outcome {ε' : Type} (x : Txn σ ε α) : Txn σ ε' (Except ε α) := fun s => (.ok (x s).1, (x s).2)

/-- `x` started in `s` runs to its end, with value `a` and state `s'`. -/
def Ends (x : Txn σ ε α) (s : σ) (a : α) (s' : σ) : Prop := x s = (.ok a, s')

theorem bind_ok {s : σ} (h : x s = (.ok a, s')) : (x >>= f) s = f a s' := by
  change (match x s with
    | (.ok a, s') => f a s'
    | (.error e, s') => (.error e, s')) = _
  rw [h]

theorem bind_error {s : σ} (h : x s = (.error e, s')) : (x >>= f) s = (.error e, s') := by
  change (match x s with
    | (.ok a, s') => f a s'
    | (.error e, s') => (.error e, s')) = _
  rw [h]

/-! ## Execution

The rules that run a transaction on a given state. -/

theorem run_bind (x : Txn σ ε α) (f : α → Txn σ ε β) (s : σ) :
    (x >>= f) s = match x s with
      | (.ok a, s') => f a s'
      | (.error e, s') => (.error e, s') := rfl

theorem run_pure (a : α) (s : σ) : (pure a : Txn σ ε α) s = (.ok a, s) := rfl

theorem run_get (s : σ) : (get : Txn σ ε σ) s = (.ok s, s) := rfl

theorem run_modify (f : σ → σ) (s : σ) : (modify f : Txn σ ε Unit) s = (.ok (), f s) := rfl

theorem run_exit (e : ε) (s : σ) : (exit e : Txn σ ε α) s = (.error e, s) := rfl

theorem run_when (c : Prop) [Decidable c] (x : Txn σ ε Unit) (s : σ) :
    when c x s = if c then x s else (.ok (), s) := by
  unfold when
  split_ifs <;> rfl

theorem run_outcome {ε' : Type} (x : Txn σ ε α) (s : σ) :
    (outcome x : Txn σ ε' (Except ε α)) s = (.ok (x s).1, (x s).2) := rfl

/-! ## What a completed transaction did -/

@[simp] theorem ends_pure {b : α} {s : σ} : Ends (pure a : Txn σ ε α) s b s' ↔ b = a ∧ s' = s := by
  change ((Except.ok a, s) : Except ε α × σ) = (Except.ok b, s') ↔ _
  simp only [Prod.mk.injEq, Except.ok.injEq]
  exact ⟨fun h => ⟨h.1.symm, h.2.symm⟩, fun h => ⟨h.1.symm, h.2.symm⟩⟩

@[simp] theorem ends_get {t s : σ} : Ends (get : Txn σ ε σ) s t s' ↔ t = s ∧ s' = s := by
  simp only [Ends, get, Prod.mk.injEq, Except.ok.injEq]
  exact ⟨fun h => ⟨h.1.symm, h.2.symm⟩, fun h => ⟨h.1.symm, h.2.symm⟩⟩

@[simp] theorem ends_modify {f : σ → σ} {s : σ} :
    Ends (modify f : Txn σ ε Unit) s u s' ↔ s' = f s := by
  simp only [Ends, modify, Prod.mk.injEq, true_and]
  exact eq_comm

@[simp] theorem ends_exit {s : σ} : Ends (exit e : Txn σ ε α) s a s' ↔ False := by
  simp [Ends, exit]

@[simp] theorem ends_exitIf [Decidable c] {s : σ} : Ends (exitIf c e) s u s' ↔ ¬ c ∧ s' = s := by
  unfold exitIf
  split_ifs with h <;> simp [h]

@[simp] theorem ends_ofOption {s : σ} : Ends (ofOption o e) s a s' ↔ o = some a ∧ s' = s := by
  cases o with
  | none => simp [ofOption]
  | some b => simp [ofOption, eq_comm]

@[simp] theorem ends_when [Decidable c] {x : Txn σ ε Unit} {s : σ} :
    Ends (when c x) s u s' ↔ if c then Ends x s u s' else s' = s := by
  unfold when
  split_ifs <;> simp

theorem ends_bind {s s'' : σ} :
    Ends (x >>= f) s b s'' ↔ ∃ a s', Ends x s a s' ∧ Ends (f a) s' b s'' := by
  unfold Ends
  rcases hx : x s with ⟨_ | a, s'⟩
  · rw [bind_error hx]
    simp
  · rw [bind_ok hx]
    constructor
    · intro h
      exact ⟨a, s', rfl, h⟩
    · rintro ⟨_, _, h, h'⟩
      cases h
      exact h'

/-- A completed transaction that begins by reading the state. -/
theorem ends_get_bind {f : σ → Txn σ ε β} {s : σ} :
    Ends (get >>= f) s b s' ↔ Ends (f s) s b s' := by
  simp [ends_bind]

theorem ends_ofOption_bind {s : σ} :
    Ends (ofOption o e >>= f) s b s' ↔ ∃ a, o = some a ∧ Ends (f a) s b s' := by
  simp [ends_bind, and_assoc]

theorem ends_modify_bind {g : σ → σ} {f : Unit → Txn σ ε β} {s : σ} :
    Ends (modify g >>= f) s b s' ↔ Ends (f ()) (g s) b s' := by
  simp only [ends_bind, ends_modify]
  constructor
  · rintro ⟨⟨⟩, _, rfl, h⟩
    exact h
  · intro h
    exact ⟨(), g s, rfl, h⟩

/-! ## Checks -/

/-- `x` writes nothing and completes exactly when `C` holds. -/
def Checks (x : Txn σ ε Unit) (C : Prop) : Prop := ∀ s u s', Ends x s u s' ↔ C ∧ s' = s

theorem checks_pure : Checks (pure () : Txn σ ε Unit) True := fun _ _ _ => by simp

theorem checks_exit : Checks (exit e : Txn σ ε Unit) False := fun _ _ _ => by simp

theorem checks_exitIf [Decidable c] : Checks (exitIf c e : Txn σ ε Unit) (¬ c) :=
  fun _ _ _ => ends_exitIf

theorem checks_forSome {f : α → Txn σ ε Unit} {C : α → Prop}
    (hf : ∀ a, Checks (f a) (C a)) : Checks (forSome o f) (∀ a, o = some a → C a) := by
  intro s u s'
  cases o with
  | none => simp [forSome]
  | some a => simpa [forSome] using hf a s u s'

theorem checks_ite [Decidable c] {x y : Txn σ ε Unit} (hx : Checks x C) (hy : Checks y D) :
    Checks (if c then x else y) (if c then C else D) := by
  split_ifs
  · exact hx
  · exact hy

theorem Checks.congr {x : Txn σ ε Unit} (hx : Checks x C) (h : C ↔ D) :
    Checks x D := fun s u s' => (hx s u s').trans (and_congr_left fun _ => h)

theorem Checks.ends_bind {x : Txn σ ε Unit} (hx : Checks x C) {f : Unit → Txn σ ε β} {s : σ} :
    Ends (x >>= f) s b s' ↔ C ∧ Ends (f ()) s b s' := by
  rw [Txn.ends_bind]
  constructor
  · rintro ⟨u, t, hxs, h⟩
    obtain ⟨hC, rfl⟩ := (hx s u t).mp hxs
    exact ⟨hC, h⟩
  · rintro ⟨hC, h⟩
    exact ⟨(), s, (hx s () s).mpr ⟨hC, rfl⟩, h⟩

theorem checks_bind {x : Txn σ ε Unit} {f : Unit → Txn σ ε Unit} (hx : Checks x C)
    (hf : ∀ v, Checks (f v) D) : Checks (x >>= f) (C ∧ D) := by
  intro s u s'
  rw [hx.ends_bind, hf () s u s', and_assoc]

/-! ## Early exits that wrote nothing -/

/-- `x` started in `s` writes nothing and exits with a value of `E`. -/
def ExitsWith (E : ε → Prop) (x : Txn σ ε α) (s : σ) : Prop := ∃ e, E e ∧ x s = (.error e, s)

section ExitsWith

variable {E : ε → Prop} {s : σ}

theorem exitsWith_exit (h : E e) : ExitsWith E (exit e : Txn σ ε α) s := ⟨e, h, rfl⟩

theorem ExitsWith.bind (h : ExitsWith E x s) (f : α → Txn σ ε β) : ExitsWith E (x >>= f) s := by
  obtain ⟨e, he, hx⟩ := h
  exact ⟨e, he, bind_error hx⟩

theorem Ends.exitsWith_bind (hx : Ends x s a s) (hf : ExitsWith E (f a) s) :
    ExitsWith E (x >>= f) s := by
  obtain ⟨e, he, hfs⟩ := hf
  exact ⟨e, he, (bind_ok hx).trans hfs⟩

theorem exitsWith_get_bind {f : σ → Txn σ ε β} (hf : ExitsWith E (f s) s) :
    ExitsWith E (get >>= f) s :=
  Ends.exitsWith_bind (ends_get.mpr ⟨rfl, rfl⟩) hf

theorem exitsWith_ofOption_bind (ho : o = some a) (hf : ExitsWith E (f a) s) :
    ExitsWith E (ofOption o e >>= f) s :=
  Ends.exitsWith_bind (ends_ofOption.mpr ⟨ho, rfl⟩) hf

/-- A check that passes. -/
theorem Checks.exitsWith_bind {x : Txn σ ε Unit} (hx : Checks x C) (hC : C) {f : Unit → Txn σ ε β}
    (hf : ExitsWith E (f ()) s) : ExitsWith E (x >>= f) s :=
  Ends.exitsWith_bind ((hx s () s).mpr ⟨hC, rfl⟩) hf

theorem exitsWith_exitIf [Decidable c] (hc : c) (he : E e) :
    ExitsWith E (exitIf c e : Txn σ ε Unit) s := by
  rw [exitIf, if_pos hc]
  exact exitsWith_exit he

/-- A check that may fail. -/
theorem exitsWith_exitIf_bind [Decidable c] (he : c → E e) {f : Unit → Txn σ ε β}
    (hf : ¬ c → ExitsWith E (f ()) s) : ExitsWith E (exitIf c e >>= f) s := by
  by_cases h : c
  · exact (exitsWith_exitIf h (he h)).bind f
  · exact checks_exitIf.exitsWith_bind h (hf h)

end ExitsWith

/-! ## Exit values -/

/-- `x` started in `s` exits with values of `E` only. -/
def ExitsIn (E : ε → Prop) (x : Txn σ ε α) (s : σ) : Prop := ∀ e s', x s = (.error e, s') → E e

section ExitsIn

variable {E : ε → Prop} {s : σ}

@[simp] theorem exitsIn_pure : ExitsIn E (pure a : Txn σ ε α) s := by
  intro e s' h
  exact nomatch congrArg Prod.fst h

@[simp] theorem exitsIn_get : ExitsIn E (get : Txn σ ε σ) s := by
  intro e s' h
  exact nomatch congrArg Prod.fst h

@[simp] theorem exitsIn_modify {f : σ → σ} : ExitsIn E (modify f : Txn σ ε Unit) s := by
  intro e s' h
  exact nomatch congrArg Prod.fst h

@[simp] theorem exitsIn_exit : ExitsIn E (exit e : Txn σ ε α) s ↔ E e := by
  constructor
  · intro h
    exact h e s rfl
  · intro he e' s' h
    obtain rfl := Except.error.inj (congrArg Prod.fst h)
    exact he

@[simp] theorem exitsIn_exitIf [Decidable c] : ExitsIn E (exitIf c e) s ↔ (c → E e) := by
  unfold exitIf
  split_ifs with h <;> simp [h]

@[simp] theorem exitsIn_ofOption : ExitsIn E (ofOption o e) s ↔ (o = none → E e) := by
  cases o <;> simp [ofOption]

@[simp] theorem exitsIn_forSome {f : α → Txn σ ε Unit} :
    ExitsIn E (forSome o f) s ↔ ∀ a, o = some a → ExitsIn E (f a) s := by
  cases o <;> simp [forSome]

@[simp] theorem exitsIn_ite [Decidable c] :
    ExitsIn E (if c then x else y) s ↔ (c → ExitsIn E x s) ∧ (¬ c → ExitsIn E y s) := by
  split_ifs with h <;> simp [h]

@[simp] theorem exitsIn_when [Decidable c] {x : Txn σ ε Unit} :
    ExitsIn E (when c x) s ↔ (c → ExitsIn E x s) := by
  unfold when
  simp

/-- The second part exits from the states in which the first completes. -/
@[simp] theorem exitsIn_bind :
    ExitsIn E (x >>= f) s ↔
      ExitsIn E x s ∧ ∀ a s', Ends x s a s' → ExitsIn E (f a) s' := by
  constructor
  · intro h
    refine ⟨fun e s' hx => h e s' (bind_error hx), fun a s' hx e s'' hf => ?_⟩
    exact h e s'' ((bind_ok hx).trans hf)
  · rintro ⟨hexit, hrest⟩ e s'' h
    rcases hx : x s with ⟨e' | a, s'⟩
    · rw [bind_error hx] at h
      obtain rfl := Except.error.inj (congrArg Prod.fst h)
      exact hexit e' s' hx
    · rw [bind_ok hx] at h
      exact hrest a s' hx e s'' h

theorem ExitsIn.mono {E' : ε → Prop} (h : ExitsIn E x s) (himp : ∀ e, E e → E' e) :
    ExitsIn E' x s := fun e s' hx => himp e (h e s' hx)

theorem exitsIn_get_bind {f : σ → Txn σ ε β} (hf : ExitsIn E (f s) s) :
    ExitsIn E (get >>= f) s := by
  refine exitsIn_bind.mpr ⟨exitsIn_get, fun t s' hget => ?_⟩
  obtain ⟨rfl, rfl⟩ := ends_get.mp hget
  exact hf

theorem exitsIn_exitIf_bind [Decidable c] (he : c → E e) {f : Unit → Txn σ ε β}
    (hf : ¬ c → ExitsIn E (f ()) s) : ExitsIn E (exitIf c e >>= f) s := by
  refine exitsIn_bind.mpr ⟨exitsIn_exitIf.mpr he, fun _ s' hpassed => ?_⟩
  obtain ⟨hc, rfl⟩ := ends_exitIf.mp hpassed
  exact hf hc

theorem exitsIn_ofOption_bind (he : o = none → E e) (hf : ∀ a, o = some a → ExitsIn E (f a) s) :
    ExitsIn E (ofOption o e >>= f) s := by
  refine exitsIn_bind.mpr ⟨exitsIn_ofOption.mpr he, fun a s' hfound => ?_⟩
  obtain ⟨ho, rfl⟩ := ends_ofOption.mp hfound
  exact hf a ho

end ExitsIn

/-! ## What a transaction keeps, whether it completes or exits -/

/-- `x` keeps `P` on every path. -/
def Keeps (P : σ → Prop) (x : Txn σ ε α) : Prop := ∀ s, P s → P (x s).2

variable {P : σ → Prop}

theorem keeps_pure : Keeps P (pure a : Txn σ ε α) := fun _ h => h

theorem keeps_get : Keeps P (get : Txn σ ε σ) := fun _ h => h

theorem keeps_exit : Keeps P (exit e : Txn σ ε α) := fun _ h => h

theorem keeps_exitIf [Decidable c] : Keeps P (exitIf c e : Txn σ ε Unit) := by
  unfold exitIf
  split_ifs
  · exact keeps_exit
  · exact keeps_pure

theorem keeps_ofOption : Keeps P (ofOption o e : Txn σ ε α) := by
  cases o with
  | none => exact keeps_exit
  | some a => exact keeps_pure

theorem keeps_modify {f : σ → σ} (h : ∀ s, P s → P (f s)) : Keeps P (modify f : Txn σ ε Unit) := h

/-- A part that `P` is known after, and a rest that keeps it. -/
theorem holds_bind {s : σ} (hx : P (x s).2) (hf : ∀ a, Keeps P (f a)) : P ((x >>= f) s).2 := by
  rcases hcase : x s with ⟨_ | a, s'⟩ <;> rw [hcase] at hx
  · rw [bind_error hcase]
    exact hx
  · rw [bind_ok hcase]
    exact hf a s' hx

theorem keeps_bind (hx : Keeps P x) (hf : ∀ a, Keeps P (f a)) : Keeps P (x >>= f) :=
  fun s hs => holds_bind (hx s hs) hf

theorem keeps_ite [Decidable c] (hx : c → Keeps P x) (hy : ¬ c → Keeps P y) :
    Keeps P (if c then x else y) := by
  split_ifs with h
  · exact hx h
  · exact hy h

theorem keeps_forSome {f : α → Txn σ ε Unit} (hf : ∀ a, Keeps P (f a)) :
    Keeps P (forSome o f) := by
  cases o with
  | none => exact keeps_pure
  | some a => exact hf a

theorem keeps_when [Decidable c] {x : Txn σ ε Unit} (hx : Keeps P x) :
    Keeps P (when c x) := keeps_ite (fun _ => hx) (fun _ => keeps_pure)

/-- The state of an exit satisfies `P`, that of a completion `Q`. -/
def Settled (P Q : σ → Prop) : Except ε α × σ → Prop
  | (.ok _, s) => Q s
  | (.error _, s) => P s

/-- `x` keeps `P` if it exits, and reaches `Q` if it completes. -/
def Settles (P Q : σ → Prop) (x : Txn σ ε α) : Prop := ∀ s, P s → Settled P Q (x s)

variable {Q : σ → Prop}

theorem settles_exit : Settles P Q (exit e : Txn σ ε α) := fun _ h => h

theorem settles_modify {f : σ → σ} (h : ∀ s, P s → Q (f s)) :
    Settles P Q (modify f : Txn σ ε Unit) := h

theorem settles_bind (hx : Keeps P x) (hf : ∀ a, Settles P Q (f a)) : Settles P Q (x >>= f) := by
  intro s hs
  have hxs := hx s hs
  rcases hcase : x s with ⟨_ | a, s'⟩ <;> rw [hcase] at hxs
  · rw [bind_error hcase]
    exact hxs
  · rw [bind_ok hcase]
    exact hf a s' hxs

end Txn

/-! ## Runs -/

section Runs

variable {S E : Type} (step : S → E → S) {C : S → E → Prop} {events : List E} {P : S → Prop}
  {s : S}

/-- The state after a list of events. -/
def runFrom (s : S) (events : List E) : S := events.foldl step s

@[simp] theorem runFrom_nil (s : S) : runFrom step s [] = s := rfl

@[simp] theorem runFrom_cons (s : S) (e : E) (events : List E) :
    runFrom step s (e :: events) = runFrom step (step s e) events := rfl

theorem runFrom_append (s : S) (xs ys : List E) :
    runFrom step s (xs ++ ys) = runFrom step (runFrom step s xs) ys :=
  List.foldl_append ..

/-- What every step keeps, a run keeps. -/
theorem runFrom_invariant (hstep : ∀ s e, P s → P (step s e)) (h : P s) (events : List E) :
    P (runFrom step s events) := by
  induction events generalizing s with
  | nil => exact h
  | cons e events ih => exact ih (hstep s e h)

/-- Every step of the run meets the condition `C` on its state and its event. -/
def Along (C : S → E → Prop) : S → List E → Prop
  | _, [] => True
  | s, e :: events => C s e ∧ Along C (step s e) events

theorem along_append {xs ys : List E} :
    Along step C s (xs ++ ys) ↔ Along step C s xs ∧ Along step C (runFrom step s xs) ys := by
  induction xs generalizing s with
  | nil => simp [Along]
  | cons e xs ih => simp [Along, ih, and_assoc]

/-- A condition on events alone. -/
theorem along_of_forall {C : E → Prop} (h : ∀ e ∈ events, C e) :
    Along step (fun _ e => C e) s events := by
  induction events generalizing s with
  | nil => trivial
  | cons e events ih =>
    exact ⟨h e List.mem_cons_self, ih fun e' he' => h e' (List.mem_cons_of_mem e he')⟩

theorem along_true : Along step (fun _ _ => True) s events :=
  along_of_forall step fun _ _ => trivial

/-- What every step that meets `C` keeps, a run whose steps all meet `C` keeps. -/
theorem runFrom_invariant_along (hstep : ∀ s e, P s → C s e → P (step s e)) (h : P s)
    (halong : Along step C s events) : P (runFrom step s events) := by
  induction events generalizing s with
  | nil => exact h
  | cons e events ih => exact ih (hstep s e h halong.1) halong.2

/-- What every step that meets `C` in a state with the invariant `P` has, every
step of a run has whose steps all meet `C`. -/
theorem along_of_invariant {D : S → E → Prop} (hstep : ∀ s e, P s → C s e → P (step s e))
    (hD : ∀ s e, P s → C s e → D s e) (h : P s) (halong : Along step C s events) :
    Along step D s events := by
  induction events generalizing s with
  | nil => trivial
  | cons e events ih => exact ⟨hD s e h halong.1, ih (hstep s e h halong.1) halong.2⟩

/-- What every step that meets `C` relates, a run whose steps all meet `C`
relates. -/
theorem runFrom_related_along {R : S → S → Prop} (hrefl : ∀ s, R s s)
    (htrans : ∀ {a b c}, R a b → R b c → R a c) (hstep : ∀ s e, C s e → R s (step s e))
    (halong : Along step C s events) : R s (runFrom step s events) := by
  induction events generalizing s with
  | nil => exact hrefl s
  | cons e events ih => exact htrans (hstep s e halong.1) (ih halong.2)

end Runs

/-! ## Findings

A report is the list of what its checks found; it is empty when every check
passes. -/

section Findings

variable {α : Type}

/-- One finding, when the condition holds. -/
def flag (c : Prop) [Decidable c] (a : α) : List α := if c then [a] else []

@[simp] theorem flag_eq_nil [Decidable c] {a : α} : flag c a = [] ↔ ¬ c := by
  unfold flag
  split_ifs with h <;> simp [h]

end Findings

end Lib
