import ClusterFabric.Lib.Transaction

/-! # Systems that recover from a saved image

A system holds a current state and, outside itself, the image of a state it
saved. It evolves by commits, which save when it is persisting, and it can be
restarted at any time, which rebuilds a state from the saved image and forgets
the current one. Two rules reason about whole runs of such a system: what holds
of every state, and how a later state relates to an earlier one.
-/

namespace Lib

/-- A recovering system over states `S` with images `D`. It begins undeclared and
is declared by its first commit. -/
structure RecoverySystem (S D : Type) where
  image : S → D
  declared : S → Prop
  initial : S → Prop
  /-- One commit. -/
  evolves : S → S → Prop
  /-- A change that a refused step leaves behind, unsaved. -/
  slips : S → S → Prop
  /-- What a restart from an image can rebuild. -/
  recovers : D → S → Prop
  undeclared_of_initial : ∀ {s}, initial s → ¬ declared s
  declared_of_evolves : ∀ {s s'}, evolves s s' → declared s'
  undeclared_of_slips : ∀ {s s'}, slips s s' → ¬ declared s ∧ ¬ declared s'
  declared_of_recovers : ∀ {s s'}, declared s → recovers (image s) s' → declared s'

namespace RecoverySystem

variable {S D : Type} (sys : RecoverySystem S D) {P : S → Prop} {R : S → S → Prop}

/-- One step of the current state and the saved image. -/
inductive Step (persisting : Prop) : S × Option D → S × Option D → Prop
  | stay {s : S} {d : Option D} : Step persisting (s, d) (s, d)
  | slip {s s' : S} {d : Option D} (h : sys.slips s s') : Step persisting (s, d) (s', d)
  | save {s s' : S} {d : Option D} (hpersisting : persisting) (h : sys.evolves s s') :
    Step persisting (s, d) (s', some (sys.image s'))
  | commit {s s' : S} {d : Option D} (hvolatile : ¬ persisting) (h : sys.evolves s s') :
    Step persisting (s, d) (s', d)
  | recover {s s' : S} {d : D} (h : sys.recovers d s') : Step persisting (s, some d) (s', some d)
  | restart {s s' : S} (h : sys.initial s') : Step persisting (s, none) (s', none)

variable {sys}

/-- Only a persisting system saves. -/
theorem Step.image_eq {persisting : Prop} (hvolatile : ¬ persisting) {x y : S × Option D}
    (h : sys.Step persisting x y) : y.2 = x.2 := by
  cases h with
  | save hpersisting _ => exact absurd hpersisting hvolatile
  | _ => rfl

/-! ## Properties of every state -/

/-- A property that every change of the system keeps. -/
structure Inductive (sys : RecoverySystem S D) (P : S → Prop) : Prop where
  initial : ∀ {s}, sys.initial s → P s
  evolves : ∀ {s s'}, P s → sys.evolves s s' → P s'
  slips : ∀ {s s'}, P s → sys.slips s s' → P s'
  recovers : ∀ {s s'}, P s → sys.recovers (sys.image s) s' → P s'

/-- The property holds of the current state and of a state that the saved image
is of. -/
def Holds (sys : RecoverySystem S D) (P : S → Prop) (x : S × Option D) : Prop :=
  P x.1 ∧ ∀ d, x.2 = some d → ∃ s, P s ∧ d = sys.image s

theorem Inductive.step (hP : Inductive sys P) {persisting : Prop} {x y : S × Option D}
    (h : sys.Step persisting x y) (hx : Holds sys P x) : Holds sys P y := by
  obtain ⟨hcurrent, hsaved⟩ := hx
  cases h with
  | stay => exact ⟨hcurrent, hsaved⟩
  | slip h => exact ⟨hP.slips hcurrent h, hsaved⟩
  | save _ h =>
    refine ⟨hP.evolves hcurrent h, ?_⟩
    rintro _ ⟨⟩
    exact ⟨_, hP.evolves hcurrent h, rfl⟩
  | commit _ h => exact ⟨hP.evolves hcurrent h, hsaved⟩
  | recover h =>
    obtain ⟨s, hs, rfl⟩ := hsaved _ rfl
    exact ⟨hP.recovers hs h, hsaved⟩
  | restart h => exact ⟨hP.initial h, hsaved⟩

/-- The system with its starts and its changes confined. -/
def confine (sys : RecoverySystem S D) (start : S → Prop) (change : S → S → Prop) :
    RecoverySystem S D :=
  { sys with
    initial := fun s => sys.initial s ∧ start s
    evolves := fun s s' => sys.evolves s s' ∧ change s s'
    slips := fun s s' => sys.slips s s' ∧ change s s'
    undeclared_of_initial := fun h => sys.undeclared_of_initial h.1
    declared_of_evolves := fun h => sys.declared_of_evolves h.1
    undeclared_of_slips := fun h => sys.undeclared_of_slips h.1 }

/-- A property that starts have and changes keep is inductive once recoveries
keep it. -/
theorem inductive_confine (hrecovers : ∀ {s s'}, P s → sys.recovers (sys.image s) s' → P s') :
    Inductive (sys.confine P fun s s' => P s → P s') P where
  initial := fun h => h.2
  evolves := fun hs h => h.2 hs
  slips := fun hs h => h.2 hs
  recovers := hrecovers

/-- What is inductive for a system is so for the confined one. -/
theorem Inductive.confine (hP : Inductive sys P) (start : S → Prop) (change : S → S → Prop) :
    Inductive (sys.confine start change) P where
  initial := fun h => hP.initial h.1
  evolves := fun hs h => hP.evolves hs h.1
  slips := fun hs h => hP.slips hs h.1
  recovers := hP.recovers

section Confined

variable {start start' : S → Prop} {change change' : S → S → Prop} {persisting : Prop}
  {x y : S × Option D}

/-- A confined step is a step. -/
theorem Step.of_confine (h : (sys.confine start change).Step persisting x y) :
    sys.Step persisting x y := by
  cases h with
  | stay => exact .stay
  | slip h => exact .slip h.1
  | save hpersisting h => exact .save hpersisting h.1
  | commit hvolatile h => exact .commit hvolatile h.1
  | recover h => exact .recover h
  | restart h => exact .restart h.1

/-- A confined step is one of every system that allows its start and its
change. -/
theorem Step.mono_confine (h : (sys.confine start change).Step persisting x y)
    (hstart : ∀ s, sys.initial s → start s → start' s)
    (hevolves : ∀ s', sys.evolves x.1 s' → change x.1 s' → change' x.1 s')
    (hslips : ∀ s', sys.slips x.1 s' → change x.1 s' → change' x.1 s') :
    (sys.confine start' change').Step persisting x y := by
  cases h with
  | stay => exact .stay
  | slip h => exact .slip ⟨h.1, hslips _ h.1 h.2⟩
  | save hpersisting h => exact .save hpersisting ⟨h.1, hevolves _ h.1 h.2⟩
  | commit hvolatile h => exact .commit hvolatile ⟨h.1, hevolves _ h.1 h.2⟩
  | recover h => exact .recover h
  | restart h => exact .restart ⟨h.1, hstart _ h.1 h.2⟩

end Confined

/-! ## Earlier and later states of a persisting system -/

/-- The saved image is of the current state, or of the one it was rebuilt from. -/
inductive Synced (sys : RecoverySystem S D) : S × Option D → Prop
  | undeclared {s : S} (h : ¬ sys.declared s) : Synced sys (s, none)
  | current {s : S} (h : sys.declared s) : Synced sys (s, some (sys.image s))
  | rebuilt {s s' : S} (h : sys.declared s) (hrecovers : sys.recovers (sys.image s) s') :
    Synced sys (s', some (sys.image s))

theorem Synced.declared_iff {s : S} {d : Option D} (h : Synced sys (s, d)) :
    sys.declared s ↔ d.isSome = true := by
  cases h with
  | undeclared h => simp [h]
  | current h => simp [h]
  | rebuilt h hrecovers => simp [sys.declared_of_recovers h hrecovers]

/-- What is synced does not depend on how the system changes. -/
theorem Synced.confine {x : S × Option D} (h : Synced sys x) {start : S → Prop}
    {change : S → S → Prop} : Synced (sys.confine start change) x := by
  cases h with
  | undeclared h => exact .undeclared h
  | current h => exact .current h
  | rebuilt h hrecovers => exact .rebuilt h hrecovers

theorem Synced.step {persisting : Prop} (hpersisting : persisting) {x y : S × Option D}
    (h : sys.Step persisting x y) (hx : Synced sys x) : Synced sys y := by
  cases h with
  | stay => exact hx
  | slip h =>
    obtain ⟨hs, hs'⟩ := sys.undeclared_of_slips h
    have hnone := mt hx.declared_iff.mpr hs
    rw [Option.not_isSome_iff_eq_none] at hnone
    subst hnone
    exact .undeclared hs'
  | save _ h => exact .current (sys.declared_of_evolves h)
  | commit hvolatile _ => exact absurd hpersisting hvolatile
  | recover h =>
    cases hx with
    | current hs => exact .rebuilt hs h
    | rebuilt hs _ => exact .rebuilt hs h
  | restart h => exact .undeclared (sys.undeclared_of_initial h)

/-- A persisting system that is declared stays so. -/
theorem Synced.declared_step {persisting : Prop} (hpersisting : persisting) {x y : S × Option D}
    (h : sys.Step persisting x y) (hx : Synced sys x) (hdeclared : sys.declared x.1) :
    sys.declared y.1 := by
  cases h with
  | stay => exact hdeclared
  | slip h => exact absurd hdeclared (sys.undeclared_of_slips h).1
  | save _ h => exact sys.declared_of_evolves h
  | commit hvolatile _ => exact absurd hpersisting hvolatile
  | recover h =>
    cases hx with
    | current hs => exact sys.declared_of_recovers hs h
    | rebuilt hs _ => exact sys.declared_of_recovers hs h
  | restart h => simp [hx.declared_iff] at hdeclared

/-- A relation that every change of a declared persisting system respects. Two
states rebuilt from one image are related in either order, since a restart may
follow a restart. -/
structure Respects (sys : RecoverySystem S D) (R : S → S → Prop) : Prop where
  refl : ∀ s, R s s
  trans : ∀ {a b c}, R a b → R b c → R a c
  evolves : ∀ {s s'}, sys.declared s → sys.evolves s s' → R s s'
  recovers : ∀ {s s'}, sys.declared s → sys.recovers (sys.image s) s' → R s s'
  rebuilds : ∀ {s s' s''}, sys.declared s → sys.recovers (sys.image s) s' →
    sys.recovers (sys.image s) s'' → R s' s''

/-- A relation that changes are confined to is respected once recoveries respect
it. -/
theorem respects_confine (hrefl : ∀ s, R s s) (htrans : ∀ {a b c}, R a b → R b c → R a c)
    (hrecovers : ∀ {s s'}, sys.declared s → sys.recovers (sys.image s) s' → R s s')
    (hrebuilds : ∀ {s s' s''}, sys.declared s → sys.recovers (sys.image s) s' →
      sys.recovers (sys.image s) s'' → R s' s'') : Respects (sys.confine (fun _ => True) R) R where
  refl := hrefl
  trans := htrans
  evolves := fun _ h => h.2
  recovers := hrecovers
  rebuilds := hrebuilds

/-- What a system respects, declared changes are confined to. -/
theorem Respects.confine (hR : Respects sys R) :
    Respects (sys.confine (fun _ => True) fun s s' => sys.declared s → sys.declared s' ∧ R s s')
      fun s s' => sys.declared s → sys.declared s' ∧ R s s' := by
  refine respects_confine (fun _ hs => ⟨hs, hR.refl _⟩) (fun hab hbc ha => ?_) ?_ ?_
  · obtain ⟨hb, hfirst⟩ := hab ha
    exact ⟨(hbc hb).1, hR.trans hfirst (hbc hb).2⟩
  · exact fun hs h _ => ⟨sys.declared_of_recovers hs h, hR.recovers hs h⟩
  · exact fun hs h h' _ => ⟨sys.declared_of_recovers hs h', hR.rebuilds hs h h'⟩

theorem Respects.step (hR : Respects sys R) {persisting : Prop} (hpersisting : persisting)
    {x y : S × Option D} (h : sys.Step persisting x y) (hx : Synced sys x)
    (hdeclared : sys.declared x.1) : R x.1 y.1 := by
  cases h with
  | stay => exact hR.refl _
  | slip h => exact absurd hdeclared (sys.undeclared_of_slips h).1
  | save _ h => exact hR.evolves hdeclared h
  | commit hvolatile _ => exact absurd hpersisting hvolatile
  | recover h =>
    cases hx with
    | current hs => exact hR.recovers hs h
    | rebuilt hs hrecovers => exact hR.rebuilds hs hrecovers h
  | restart h => simp [hx.declared_iff] at hdeclared

/-! ## Runs -/

section Runs

/-- A machine each of whose steps is one of the system, as long as its state has
a property that the system keeps. -/
structure Refines (sys : RecoverySystem S D) (valid : S → Prop) {C E : Type} (step : C → E → C)
    (abstraction : C → S × Option D) (persisting : C → Prop) : Prop where
  keeps_valid : Inductive sys valid
  persisting_step : ∀ c e, persisting c → persisting (step c e)
  step_refines : ∀ c e, valid (abstraction c).1 →
    sys.Step (persisting c) (abstraction c) (abstraction (step c e))

/-- A machine that refines the system on the events that meet `C`. -/
structure RefinesAlong (sys : RecoverySystem S D) (valid : S → Prop) {C E : Type}
    (step : C → E → C) (meets : C → E → Prop) (abstraction : C → S × Option D)
    (persisting : C → Prop) : Prop where
  keeps_valid : Inductive sys valid
  persisting_step : ∀ c e, persisting c → persisting (step c e)
  step_refines : ∀ c e, valid (abstraction c).1 → meets c e →
    sys.Step (persisting c) (abstraction c) (abstraction (step c e))

variable {valid : S → Prop} {C E : Type} {step : C → E → C} {meets : C → E → Prop}
  {abstraction : C → S × Option D} {persisting : C → Prop}

theorem Refines.along (hsys : Refines sys valid step abstraction persisting) :
    RefinesAlong sys valid step (fun _ _ => True) abstraction persisting where
  keeps_valid := hsys.keeps_valid
  persisting_step := hsys.persisting_step
  step_refines := fun c e hvalid _ => hsys.step_refines c e hvalid

/-- An inductive property holds along every run. -/
theorem RefinesAlong.holds_run (hsys : RefinesAlong sys valid step meets abstraction persisting)
    (hP : Inductive sys P) {c : C} (hvalid : Holds sys valid (abstraction c))
    (hc : Holds sys P (abstraction c)) {events : List E} (halong : Along step meets c events) :
    Holds sys P (abstraction (runFrom step c events)) := by
  have hrun := runFrom_invariant_along
    (P := fun c => Holds sys valid (abstraction c) ∧ Holds sys P (abstraction c)) step
    (fun c e h hmeets => by
      have hstep := hsys.step_refines c e h.1.1 hmeets
      exact ⟨hsys.keeps_valid.step hstep h.1, hP.step hstep h.2⟩)
    ⟨hvalid, hc⟩ halong
  exact hrun.2

theorem RefinesAlong.synced_run (hsys : RefinesAlong sys valid step meets abstraction persisting)
    {c : C} (hvalid : Holds sys valid (abstraction c)) (hpersisting : persisting c)
    (hc : Synced sys (abstraction c)) {events : List E} (halong : Along step meets c events) :
    Synced sys (abstraction (runFrom step c events)) := by
  have hrun := runFrom_invariant_along
    (P := fun c => Holds sys valid (abstraction c) ∧ persisting c ∧ Synced sys (abstraction c)) step
    (fun c e h hmeets => by
      have hstep := hsys.step_refines c e h.1.1 hmeets
      exact ⟨hsys.keeps_valid.step hstep h.1, hsys.persisting_step c e h.2.1,
        h.2.2.step h.2.1 hstep⟩) ⟨hvalid, hpersisting, hc⟩ halong
  exact hrun.2.2

/-- While the machine persists, every later state is related to an earlier
declared one. -/
theorem RefinesAlong.related_run (hsys : RefinesAlong sys valid step meets abstraction persisting)
    (hR : Respects sys R) {c : C} (hvalid : Holds sys valid (abstraction c))
    (hpersisting : persisting c) (hsynced : Synced sys (abstraction c))
    (hdeclared : sys.declared (abstraction c).1) {events : List E}
    (halong : Along step meets c events) :
    R (abstraction c).1 (abstraction (runFrom step c events)).1 := by
  induction events generalizing c with
  | nil => exact hR.refl _
  | cons e events ih =>
    have hstep := hsys.step_refines c e hvalid.1 halong.1
    have hfirst := hR.step hpersisting hstep hsynced hdeclared
    have hrest := ih (hsys.keeps_valid.step hstep hvalid) (hsys.persisting_step c e hpersisting)
      (hsynced.step hpersisting hstep) (hsynced.declared_step hpersisting hstep hdeclared) halong.2
    exact hR.trans hfirst hrest

theorem Refines.holds_run (hsys : Refines sys valid step abstraction persisting)
    (hP : Inductive sys P) {c : C} (hvalid : Holds sys valid (abstraction c))
    (hc : Holds sys P (abstraction c)) (events : List E) :
    Holds sys P (abstraction (runFrom step c events)) :=
  hsys.along.holds_run hP hvalid hc (along_true step)

theorem Refines.synced_run (hsys : Refines sys valid step abstraction persisting) {c : C}
    (hvalid : Holds sys valid (abstraction c)) (hpersisting : persisting c)
    (hc : Synced sys (abstraction c)) (events : List E) :
    Synced sys (abstraction (runFrom step c events)) :=
  hsys.along.synced_run hvalid hpersisting hc (along_true step)

/-- Along the runs of a machine that does not persist holds what commits keep and
every restart from the one saved image brings about. -/
theorem Refines.volatile_run (hsys : Refines sys valid step abstraction persisting)
    (hstays : ∀ c e, ¬ persisting c → ¬ persisting (step c e)) {d : D}
    (hevolves : ∀ {s s'}, P s → sys.evolves s s' → P s')
    (hslips : ∀ {s s'}, P s → sys.slips s s' → P s')
    (hrecovers : ∀ {s'}, sys.recovers d s' → P s') {c : C}
    (hvalid : Holds sys valid (abstraction c)) (hvolatile : ¬ persisting c)
    (hd : (abstraction c).2 = some d) (hc : P (abstraction c).1) (events : List E) :
    P (abstraction (runFrom step c events)).1 := by
  induction events generalizing c with
  | nil => exact hc
  | cons e events ih =>
    have hstep := hsys.step_refines c e hvalid.1
    have hd' := (hstep.image_eq hvolatile).trans hd
    refine ih (hsys.keeps_valid.step hstep hvalid) (hstays c e hvolatile) hd' ?_
    generalize abstraction c = x at hstep hd hc
    generalize abstraction (step c e) = y at hstep
    cases hstep with
    | stay => exact hc
    | slip h => exact hslips hc h
    | save hpersisting _ => exact absurd hpersisting hvolatile
    | commit _ h => exact hevolves hc h
    | recover h =>
      obtain rfl := Option.some.inj hd
      exact hrecovers h
    | restart _ => exact nomatch hd

end Runs

end RecoverySystem

end Lib
