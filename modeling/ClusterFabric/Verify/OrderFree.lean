import ClusterFabric.Lib.Canonical
import ClusterFabric.Model.Mutation

/-! # Canonical references and explanations

What `canonicalize` and an `Explanation` make of a list, and when that depends on the
order in which the list was given.

The accelerator classes of a reference are ordered by all their members, so equal keys
are equal elements. Endpoints and hints are ordered and deduplicated by identity only:
of two entries with one identity and different content, the sort decides which stays
(`canonical_form_order_free_iff`). An explanation takes in the first factors that come,
one more than it may show, and sorts afterwards; what came too late was never compared
(`factors_order_free_iff`).
-/

namespace ClusterFabric

open Lib

/-! ## References -/

theorem AcceleratorClassSummary.key_injective : Function.Injective key := by
  intro a b h
  obtain ⟨hvendor, h⟩ := Prod.mk.inj (toLex.injective h)
  obtain ⟨hfamily, h⟩ := Prod.mk.inj (toLex.injective h)
  obtain ⟨hcount, hmemory⟩ := Prod.mk.inj (toLex.injective h)
  have hvendor' : a.vendor = b.vendor := Enumeration.raw_injective hvendor
  have hcount' : a.deviceCount = b.deviceCount :=
    Option.map_injective (fun _ _ h => UInt32.toNat_inj.mp h) hcount
  have hmemory' : a.deviceMemoryBytes = b.deviceMemoryBytes :=
    Option.map_injective (fun _ _ h => UInt64.toNat_inj.mp h) hmemory
  cases a
  cases b
  simp_all

/-- The reference with other lists. -/
def RackReference.withLists (reference : RackReference)
    (accelerators : List AcceleratorClassSummary) (endpoints : List RackEndpoint)
    (hints : List RackFailureDomainHint) : RackReference :=
  { reference with
    composition.accelerators := accelerators
    endpoints := endpoints
    failureDomainHints := hints }

theorem RackReference.withLists_inj {reference : RackReference}
    {accelerators accelerators' : List AcceleratorClassSummary}
    {endpoints endpoints' : List RackEndpoint} {hints hints' : List RackFailureDomainHint} :
    reference.withLists accelerators endpoints hints =
        reference.withLists accelerators' endpoints' hints' ↔
      accelerators = accelerators' ∧ endpoints = endpoints' ∧ hints = hints' := by
  simp [RackReference.withLists]

theorem canonicalize_eq [StdSort] (reference : RackReference) :
    canonicalize reference =
      reference.withLists
        (dedupBy AcceleratorClassSummary.key reference.composition.accelerators)
        (dedupBy RackEndpoint.id reference.endpoints)
        (dedupBy RackFailureDomainHint.key reference.failureDomainHints) := rfl

theorem canonicalize_withLists [StdSort] (reference : RackReference)
    (accelerators : List AcceleratorClassSummary) (endpoints : List RackEndpoint)
    (hints : List RackFailureDomainHint) :
    canonicalize (reference.withLists accelerators endpoints hints) =
      reference.withLists (dedupBy AcceleratorClassSummary.key accelerators)
        (dedupBy RackEndpoint.id endpoints) (dedupBy RackFailureDomainHint.key hints) := rfl

theorem canonicalize_canonicalize [StdSort] (reference : RackReference) :
    canonicalize (canonicalize reference) = canonicalize reference := by
  rw [canonicalize_eq reference, canonicalize_withLists, dedupBy_dedupBy, dedupBy_dedupBy,
    dedupBy_dedupBy]

/-- The canonical form of a reference is its own canonical form. It is independent of the
order of the lists exactly when no identity is given to two different endpoints and no class
and identity to two different hints. -/
theorem canonical_form_order_free_iff (reference : RackReference) :
    (∀ _ : StdSort, canonicalize (canonicalize reference) = canonicalize reference) ∧
    ((∀ (_ : StdSort) (accelerators : List AcceleratorClassSummary)
        (endpoints : List RackEndpoint) (hints : List RackFailureDomainHint),
        accelerators.Perm reference.composition.accelerators →
        endpoints.Perm reference.endpoints → hints.Perm reference.failureDomainHints →
        canonicalize (reference.withLists accelerators endpoints hints) =
          canonicalize reference) ↔
      (∀ a ∈ reference.endpoints, ∀ b ∈ reference.endpoints, a.id = b.id → a = b) ∧
      ∀ a ∈ reference.failureDomainHints, ∀ b ∈ reference.failureDomainHints,
        a.klass = b.klass → a.id = b.id → a = b) := by
  refine ⟨fun _ => canonicalize_canonicalize reference, ?_⟩
  have hhints : (∀ a ∈ reference.failureDomainHints, ∀ b ∈ reference.failureDomainHints,
      a.klass = b.klass → a.id = b.id → a = b) ↔
      Determined RackFailureDomainHint.key reference.failureDomainHints := by
    have hkey : ∀ a b : RackFailureDomainHint,
        a.key = b.key ↔ a.klass = b.klass ∧ a.id = b.id := by
      intro a b
      rw [RackFailureDomainHint.key, RackFailureDomainHint.key, toLex_inj, Prod.mk.injEq,
        Enumeration.raw_injective.eq_iff]
    simp only [Determined, hkey, and_imp]
  rw [hhints]
  change _ ↔ Determined RackEndpoint.id reference.endpoints ∧ _
  constructor
  · intro h
    constructor
    · refine (dedupBy_order_free_iff _ _).mp fun sort endpoints hperm => ?_
      have heq := h sort _ endpoints _ (.refl _) hperm (.refl _)
      rw [canonicalize_withLists, canonicalize_eq, RackReference.withLists_inj] at heq
      exact heq.2.1
    · refine (dedupBy_order_free_iff _ _).mp fun sort hints hperm => ?_
      have heq := h sort _ _ hints (.refl _) (.refl _) hperm
      rw [canonicalize_withLists, canonicalize_eq, RackReference.withLists_inj] at heq
      exact heq.2.2
  · rintro ⟨hendpoints, hhints⟩ sort accelerators endpoints hints ha he hh
    have haccelerators := determined_of_injective AcceleratorClassSummary.key_injective
      reference.composition.accelerators
    rw [canonicalize_withLists, canonicalize_eq, RackReference.withLists_inj]
    exact ⟨dedupBy_eq_of_perm haccelerators ha sort sort,
      dedupBy_eq_of_perm hendpoints he sort sort,
      dedupBy_eq_of_perm hhints hh sort sort⟩

/-- A valid reference that gives one identity to two endpoints. -/
def twiceConnected (first second : ConnectivityClass) : RackReference where
  rack := .named "rack-0"
  generation := .fromRaw 1
  endpoints := [{ id := .named "port-0", connectivity := first },
    { id := .named "port-0", connectivity := second }]
  evidence := { provenance := .measured }
  publisher := some (.named "publisher-0")

section

open scoped StdSort

/-- The two orders of its endpoints have two canonical forms. -/
theorem canonical_form_depends_on_order :
    (validateRackReference (twiceConnected .directFabric .overlay)).isOk = true ∧
      (validateRackReference (twiceConnected .overlay .directFabric)).isOk = true ∧
      (twiceConnected .overlay .directFabric).endpoints.Perm
        (twiceConnected .directFabric .overlay).endpoints ∧
      canonicalize (twiceConnected .overlay .directFabric) ≠
        canonicalize (twiceConnected .directFabric .overlay) := by
  decide +kernel

end

/-! ## Explanations -/

/-- Factors are ordered by code, then by subject, then by detail. -/
def ExplanationFactor.key (f : ExplanationFactor) : Text ×ₗ Text ×ₗ Text :=
  toLex (f.code, toLex (f.subject, f.detail))

theorem ExplanationFactor.key_injective : Function.Injective key := by
  intro a b h
  obtain ⟨hcode, h⟩ := Prod.mk.inj (toLex.injective h)
  obtain ⟨hsubject, hdetail⟩ := Prod.mk.inj (toLex.injective h)
  cases a
  cases b
  simp_all

namespace Explanation

theorem factors_sortFactors [StdSort] (e : Explanation) :
    e.sortFactors.factors = sortBy ExplanationFactor.key e.factors := by
  have horder : (fun a b : ExplanationFactor =>
      if a.code ≠ b.code then decide (a.code < b.code)
      else if a.subject ≠ b.subject then decide (a.subject < b.subject)
      else decide (a.detail < b.detail)) = fun a b => decide (a.key < b.key) := by
    funext a b
    rw [Bool.eq_iff_iff, decide_eq_true_eq, ExplanationFactor.key, ExplanationFactor.key,
      Prod.Lex.toLex_lt_toLex, Prod.Lex.toLex_lt_toLex]
    by_cases hcode : a.code = b.code
    · by_cases hsubject : a.subject = b.subject
      · simp [hcode, hsubject]
      · simp [hcode, hsubject]
    · simp [hcode]
  rw [sortFactors, sortBy, ← horder]

/-- One `add` for each factor. -/
def addAll (e : Explanation) (factors : List ExplanationFactor) : Explanation :=
  factors.foldl (fun e f => e.add f.code f.subject f.detail) e

/-- An explanation takes in what there is room for, in the order in which it comes. -/
theorem factors_addAll (e : Explanation) (factors : List ExplanationFactor)
    (hroom : e.factors.length ≤ maxExplanationFactors + 1) :
    (e.addAll factors).factors =
      e.factors ++ factors.take (maxExplanationFactors + 1 - e.factors.length) := by
  induction factors generalizing e with
  | nil => simp [addAll]
  | cons f factors ih =>
    change ((e.add f.code f.subject f.detail).addAll factors).factors = _
    by_cases hfull : maxExplanationFactors + 1 ≤ e.factors.length
    · have hadd : e.add f.code f.subject f.detail = e := if_pos hfull
      have hnone : maxExplanationFactors + 1 - e.factors.length = 0 := by omega
      rw [hadd, ih e hroom, hnone, List.take_zero, List.take_zero]
    · have hadd : (e.add f.code f.subject f.detail).factors = e.factors ++ [f] := by
        rw [add, if_neg hfull]
      have hlength : (e.factors ++ [f]).length = e.factors.length + 1 := by simp
      obtain ⟨room, hroom'⟩ : ∃ room, maxExplanationFactors + 1 - e.factors.length = room + 1 :=
        ⟨maxExplanationFactors - e.factors.length, by omega⟩
      have hrest : maxExplanationFactors + 1 - (e.factors.length + 1) = room := by omega
      rw [ih _ (by rw [hadd, hlength]; omega), hadd, hlength, hrest, hroom', List.take_succ_cons,
        List.append_assoc, List.singleton_append]

/-- The factors of an explanation that was given these, sorted and bounded. -/
def collected [StdSort] (code subject summary : Text) (factors : List ExplanationFactor) :
    List ExplanationFactor :=
  ((make code subject summary).addAll factors).sortFactors.boundFactors.factors

variable [StdSort]

theorem collected_eq (code subject summary : Text) (factors : List ExplanationFactor) :
    collected code subject summary factors =
      if factors.length ≤ maxExplanationFactors then sortBy ExplanationFactor.key factors
      else smallest ExplanationFactor.key 65 63 factors ++
        [⟨text "truncated", [], text "additional factors omitted"⟩] := by
  have hadded : ((make code subject summary).addAll factors).factors = factors.take 65 :=
    factors_addAll (make code subject summary) factors (Nat.zero_le _)
  have hsorted : ((make code subject summary).addAll factors).sortFactors.factors =
      sortBy ExplanationFactor.key (factors.take 65) := by
    rw [factors_sortFactors, hadded]
  have hlength : (sortBy ExplanationFactor.key (factors.take 65)).length ≤ maxExplanationFactors ↔
      factors.length ≤ maxExplanationFactors := by
    rw [length_sortBy, List.length_take, maxExplanationFactors]
    omega
  rw [collected, boundFactors, hsorted]
  by_cases hfits : factors.length ≤ maxExplanationFactors
  · have hall : factors.take 65 = factors := List.take_of_length_le (Nat.le_succ_of_le hfits)
    rw [if_pos (hlength.mpr hfits), if_pos hfits, hsorted, hall]
  · rw [if_neg (mt hlength.mp hfits), if_neg hfits]
    rfl

theorem length_collected_le (code subject summary : Text) (factors : List ExplanationFactor) :
    (collected code subject summary factors).length ≤ 64 := by
  rw [collected_eq]
  split_ifs with hfits
  · rw [length_sortBy]
    exact hfits
  · rw [List.length_append, smallest, List.length_take, List.length_singleton]
    omega

/-- The factors shown are never more than 64. They are the same in whatever order the factors
were added exactly when at most 65 were added, or all of them but the two greatest are equal. -/
theorem factors_order_free_iff (code subject summary : Text)
    (factors : List ExplanationFactor) :
    (∀ added, (collected code subject summary added).length ≤ 64) ∧
    ((∀ added : List ExplanationFactor, added.Perm factors →
        collected code subject summary added = collected code subject summary factors) ↔
      factors.length ≤ 65 ∨
        ∃ factor rest, factors.Perm (List.replicate (factors.length - 2) factor ++ rest) ∧
          ∀ other ∈ rest, factor.key ≤ other.key) := by
  refine ⟨length_collected_le code subject summary, ?_⟩
  have hfree := @smallest_order_free_iff _ _ _ _ _ _ ExplanationFactor.key_injective 63 2
    (by decide) factors
  rw [← hfree]
  refine forall_congr' fun added => forall_congr' fun hperm => ?_
  rw [collected_eq, collected_eq, hperm.length_eq]
  split_ifs with hfits
  · have hsort : sortBy ExplanationFactor.key added = sortBy ExplanationFactor.key factors :=
      sortBy_eq_of_sorted ExplanationFactor.key_injective ((sortBy_perm _ _).trans hperm.symm)
        (sortBy_sorted _ _)
    have hall : ∀ l : List ExplanationFactor, l.length ≤ maxExplanationFactors →
        l.take 65 = l := fun l hl => List.take_of_length_le (Nat.le_succ_of_le hl)
    rw [smallest, smallest, hall factors hfits, hall added (hperm.length_eq ▸ hfits), hsort]
    exact ⟨fun _ => rfl, fun _ => rfl⟩
  · exact List.append_left_inj _

end Explanation

/-- Sixty-six factors with different codes. -/
def countedFactors : List ExplanationFactor :=
  (List.range 66).map fun i => { code := decimal (100 + i) }

section

open scoped StdSort

/-- Added in the order of their codes, or the other way round, they are explained
differently. -/
theorem factors_depend_on_order :
    countedFactors.reverse.Perm countedFactors ∧
      Explanation.collected (text "cluster_not_ready") [] [] countedFactors.reverse ≠
        Explanation.collected (text "cluster_not_ready") [] [] countedFactors := by
  refine ⟨List.reverse_perm _, ?_⟩
  decide +kernel

end

end ClusterFabric
