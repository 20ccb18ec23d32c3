import ClusterFabric.Verify.Soundness

/-! # Readiness

What a verdict of `evaluate_readiness` means. The blockers are restated once, as a
proposition about the records that the contract speaks of; the verdict, its stability
(`readiness_sound_stable`) and its monotonicity (`readiness_not_improved`) are read off
that proposition.
-/

namespace ClusterFabric

open Lib

variable {record : RackRecord}

/-! ## The contract -/

/-- What the readiness contract of a state asks of its records. -/
structure ClusterState.MeetsContract (s : ClusterState) : Prop where
  active : ∃ rack record, s.racks.find? rack = some record ∧ record.membership = .active
  minimumRacks : s.readinessContract.minimumCurrentRacks.toNat ≤ s.currentCount
  mandatory : ∀ rack ∈ s.readinessContract.mandatoryRacks,
    ∃ record, s.racks.find? rack = some record ∧ record.membership = .active ∧
      record.authoritativeCurrent = true
  allCurrent : s.readinessContract.requireAllActiveRacksCurrent = true →
    ∀ rack record, s.racks.find? rack = some record → record.membership = .active →
      record.authoritativeCurrent = true
  validated : ∀ rack record, s.racks.find? rack = some record → record.membership = .active →
    record.reference.currentness ≠ .revalidationRequired ∧
      record.reference.evidence.requiresRevalidation = false
  connectivity : s.readinessContract.requireConnectivityEvidence = true →
    ∃ id link, s.links.find? id = some link ∧ link.header.evidence.isCurrent = true
  minimumLinks : s.readinessContract.minimumCurrentLinks.toNat ≤ s.currentLinks
  placementClasses : ∀ klass ∈ s.readinessContract.requiredPlacementDomainClasses,
    ∃ id domain, s.placementDomains.find? id = some domain ∧ domain.detail = klass ∧
      domain.header.evidence.isCurrent = true
  failureClasses : ∀ klass ∈ s.readinessContract.requiredFailureDomainClasses,
    ∃ id domain, s.failureDomains.find? id = some domain ∧ domain.detail = klass ∧
      domain.header.evidence.isCurrent = true
  /-- No link dangles, and no authority is fenced or retired. -/
  noConflicts : s.readinessContract.requireNoConflicts = true →
    (∀ id link, s.links.find? id = some link →
      s.hasRack link.source = true ∧ s.hasRack link.destination = true) ∧
    ∀ rack record, s.racks.find? rack = some record → record.authoritativeCurrent = true →
      s.isBootFenced record.reference.boot = false ∧ s.isRackRetired rack = false

section Blockers

variable {s : ClusterState}

theorem isActive_iff : isActive record = true ↔ record.membership = .active := by
  simp [isActive]

theorem isCurrentActive_iff :
    isCurrentActive record = true ↔
      record.membership = .active ∧ record.authoritativeCurrent = true := by
  simp [isCurrentActive, isActive]

theorem needsRevalidation_eq_false_iff :
    needsRevalidation record = false ↔ (record.membership = .active →
      record.reference.currentness ≠ .revalidationRequired ∧
        record.reference.evidence.requiresRevalidation = false) := by
  simp [needsRevalidation, isActive, imp_iff_not_or]

theorem activeCount_ne_zero :
    s.activeCount ≠ 0 ↔
      ∃ rack record, s.racks.find? rack = some record ∧ record.membership = .active := by
  unfold ClusterState.activeCount
  rw [← Nat.pos_iff_ne_zero, List.countP_pos_iff, StdMap.exists_mem_values]
  simp only [isActive_iff]

theorem currentLinks_ne_zero :
    s.currentLinks ≠ 0 ↔
      ∃ id link, s.links.find? id = some link ∧ link.header.evidence.isCurrent = true := by
  unfold ClusterState.currentLinks
  rw [← Nat.pos_iff_ne_zero, List.countP_pos_iff, StdMap.exists_mem_values]

/-- The blocker of a class is absent when a current domain of the class is found. -/
theorem classBlocker_eq_nil {k : DomainKind} {domains : StdMap (DomainId k) (Domain k)}
    {ofClass : Domain k → Prop} [DecidablePred ofClass] {missing : ReadinessBlocker} :
    flag (!domains.values.any fun d => decide (ofClass d) && d.header.evidence.isCurrent) missing =
        [] ↔
      ∃ id domain, domains.find? id = some domain ∧ ofClass domain ∧
        domain.header.evidence.isCurrent = true := by
  rw [flag_eq_nil, Bool.not_eq_true', Bool.not_eq_false, List.any_eq_true, StdMap.exists_mem_values]
  simp only [Bool.and_eq_true, decide_eq_true_eq]

theorem mandatoryBlockers_eq_nil {rack : RackId} :
    s.mandatoryBlockers rack = [] ↔ ∃ record, s.racks.find? rack = some record ∧
      record.membership = .active ∧ record.authoritativeCurrent = true := by
  unfold ClusterState.mandatoryBlockers
  cases s.racks.find? rack with
  | none => simp
  | some record =>
    by_cases hactive : record.membership = .active
    · simp [isActive, isCurrentActive, hactive]
    · simp [isActive, hactive]

theorem countBlockers_eq_nil :
    s.countBlockers = [] ↔
      (∃ rack record, s.racks.find? rack = some record ∧ record.membership = .active) ∧
        s.readinessContract.minimumCurrentRacks.toNat ≤ s.currentCount := by
  rw [← activeCount_ne_zero]
  simp [ClusterState.countBlockers, ClusterState.belowMinimumRacks]

theorem rackBlockers_eq_nil :
    s.rackBlockers = [] ↔
      (s.readinessContract.requireAllActiveRacksCurrent = true →
        ∀ rack record, s.racks.find? rack = some record → record.membership = .active →
          record.authoritativeCurrent = true) ∧
      ∀ rack record, s.racks.find? rack = some record → record.membership = .active →
        record.reference.currentness ≠ .revalidationRequired ∧
          record.reference.evidence.requiresRevalidation = false := by
  unfold ClusterState.rackBlockers
  rw [List.append_eq_nil_iff]
  refine and_congr ?_ ?_
  · split_ifs with hall
    · rw [StdMap.flatMap_entries_eq_nil]
      simp [isActive, hall]
    · simp [hall]
  · simp only [StdMap.flatMap_entries_eq_nil, flag_eq_nil, Bool.not_eq_true,
      needsRevalidation_eq_false_iff]

theorem linkBlockers_eq_nil :
    s.linkBlockers = [] ↔
      (s.readinessContract.requireConnectivityEvidence = true →
        ∃ id link, s.links.find? id = some link ∧ link.header.evidence.isCurrent = true) ∧
      s.readinessContract.minimumCurrentLinks.toNat ≤ s.currentLinks := by
  rw [← currentLinks_ne_zero]
  simp [ClusterState.linkBlockers]

theorem domainClassBlockers_eq_nil :
    s.domainClassBlockers = [] ↔
      (∀ klass ∈ s.readinessContract.requiredPlacementDomainClasses,
        ∃ id domain, s.placementDomains.find? id = some domain ∧ domain.detail = klass ∧
          domain.header.evidence.isCurrent = true) ∧
      ∀ klass ∈ s.readinessContract.requiredFailureDomainClasses,
        ∃ id domain, s.failureDomains.find? id = some domain ∧ domain.detail = klass ∧
          domain.header.evidence.isCurrent = true := by
  unfold ClusterState.domainClassBlockers
  refine List.append_eq_nil_iff.trans (and_congr ?_ ?_)
  · exact List.flatMap_eq_nil_iff.trans (forall₂_congr fun klass _ => classBlocker_eq_nil)
  · exact List.flatMap_eq_nil_iff.trans (forall₂_congr fun klass _ => classBlocker_eq_nil)

theorem conflictBlockers_eq_nil :
    s.conflictBlockers = [] ↔ (s.readinessContract.requireNoConflicts = true →
      (∀ id link, s.links.find? id = some link →
        s.hasRack link.source = true ∧ s.hasRack link.destination = true) ∧
      ∀ rack record, s.racks.find? rack = some record → record.authoritativeCurrent = true →
        s.isBootFenced record.reference.boot = false ∧ s.isRackRetired rack = false) := by
  unfold ClusterState.conflictBlockers
  split_ifs with hignored
  · simp at hignored
    simp [hignored]
  · have hrequired : s.readinessContract.requireNoConflicts = true := by simpa using hignored
    simp only [hrequired, forall_const, List.append_eq_nil_iff, StdMap.flatMap_entries_eq_nil,
      flag_eq_nil]
    simp [imp_and, forall_and, not_or]

/-- **Nothing blocks readiness exactly when the contract is met.** -/
theorem readinessBlockers_eq_nil : s.readinessBlockers = [] ↔ s.MeetsContract := by
  unfold ClusterState.readinessBlockers
  simp only [List.append_eq_nil_iff, List.flatMap_eq_nil_iff, countBlockers_eq_nil,
    mandatoryBlockers_eq_nil, rackBlockers_eq_nil, linkBlockers_eq_nil, domainClassBlockers_eq_nil,
    conflictBlockers_eq_nil]
  constructor
  · rintro ⟨⟨⟨⟨⟨⟨hactive, hracks⟩, hmandatory⟩, hall, hvalidated⟩, hconnectivity, hlinks⟩,
      hplacement, hfailure⟩, hconflicts⟩
    exact ⟨hactive, hracks, hmandatory, hall, hvalidated, hconnectivity, hlinks, hplacement,
      hfailure, hconflicts⟩
  · intro h
    exact ⟨⟨⟨⟨⟨⟨h.active, h.minimumRacks⟩, h.mandatory⟩, h.allCurrent, h.validated⟩,
      h.connectivity, h.minimumLinks⟩, h.placementClasses, h.failureClasses⟩, h.noConflicts⟩

/-! ## The verdict -/

theorem anyRevalidation_eq_false (h : s.MeetsContract) : s.anyRevalidation = false := by
  unfold ClusterState.anyRevalidation
  rw [List.any_eq_false]
  intro record hrecord
  obtain ⟨rack, hfind⟩ := StdMap.mem_values_iff.mp hrecord
  rw [needsRevalidation_eq_false_iff.mpr (h.validated rack record hfind)]
  exact Bool.false_ne_true

/-- What a revalidation would have to restore is missing from the contract. -/
theorem revalidationIsRequiredElement_eq_false (h : s.MeetsContract) :
    s.revalidationIsRequiredElement = false := by
  have hmandatory : s.readinessContract.mandatoryRacks.any s.mandatoryNotCurrent = false := by
    rw [List.any_eq_false]
    intro rack hrack
    obtain ⟨record, hfind, hactive, hcurrent⟩ := h.mandatory rack hrack
    simp [ClusterState.mandatoryNotCurrent, hfind, isCurrentActive, hcurrent]
  simp [ClusterState.revalidationIsRequiredElement, anyRevalidation_eq_false h, hmandatory]

theorem evaluatedLifecycle_of_meets (h : s.MeetsContract) :
    s.evaluatedLifecycle =
      if s.knowinglyIncomplete && s.readinessContract.allowPartial then .partialReady
      else .ready := by
  unfold ClusterState.evaluatedLifecycle
  rw [revalidationIsRequiredElement_eq_false h, readinessBlockers_eq_nil.mpr h]
  rfl

theorem evaluatedLifecycle_of_not_meets (h : ¬ s.MeetsContract) :
    s.evaluatedLifecycle ≠ .ready ∧ s.evaluatedLifecycle ≠ .partialReady := by
  have hblocked : s.readinessBlockers.isEmpty = false := by
    simpa [readinessBlockers_eq_nil] using h
  unfold ClusterState.evaluatedLifecycle
  rw [hblocked, if_neg Bool.false_ne_true]
  split_ifs <;> decide

/-- A ready or a partial cluster is one whose contract is met. -/
theorem evaluatedLifecycle_ready_iff :
    (s.evaluatedLifecycle = .ready ∨ s.evaluatedLifecycle = .partialReady) ↔
      s.MeetsContract := by
  constructor
  · intro hready
    by_contra hnot
    obtain ⟨hne, hne'⟩ := evaluatedLifecycle_of_not_meets hnot
    exact hready.elim hne hne'
  · intro h
    rw [evaluatedLifecycle_of_meets h]
    split_ifs
    · exact .inr rfl
    · exact .inl rfl

theorem evaluatedLifecycle_ne_retiring : s.evaluatedLifecycle ≠ .retiring := by
  unfold ClusterState.evaluatedLifecycle
  split_ifs <;> decide

variable [StdSort]

theorem evaluateReadiness_live (hretired : s.lifecycle ≠ .retired)
    (hretiring : s.lifecycle ≠ .retiring) :
    (evaluateReadiness s).satisfied = s.readinessBlockers.isEmpty ∧
      (evaluateReadiness s).lifecycle = s.evaluatedLifecycle ∧
      ((evaluateReadiness s).blockers = [] ↔ s.readinessBlockers = []) := by
  unfold evaluateReadiness
  rw [if_neg hretired, if_neg hretiring]
  exact ⟨rfl, rfl, sort_eq_nil⟩

/-- The evaluation is satisfied when the cluster is not on its way out and meets
its contract. -/
theorem satisfied_iff : (evaluateReadiness s).satisfied = true ↔
    s.lifecycle ≠ .retired ∧ s.lifecycle ≠ .retiring ∧ s.MeetsContract := by
  by_cases hretired : s.lifecycle = .retired
  · simp [evaluateReadiness, hretired]
  by_cases hretiring : s.lifecycle = .retiring
  · simp [evaluateReadiness, hretiring]
  rw [(evaluateReadiness_live hretired hretiring).1, List.isEmpty_iff, readinessBlockers_eq_nil]
  simp [hretired, hretiring]

/-- The lifecycle that is stored is ready or partial under the same condition. -/
theorem lifecycle_ready_iff :
    ((evaluateReadiness s).lifecycle = .ready ∨ (evaluateReadiness s).lifecycle = .partialReady) ↔
      (evaluateReadiness s).satisfied = true := by
  rw [satisfied_iff]
  by_cases hretired : s.lifecycle = .retired
  · simp [evaluateReadiness, hretired]
  by_cases hretiring : s.lifecycle = .retiring
  · simp [evaluateReadiness, hretiring]
  rw [(evaluateReadiness_live hretired hretiring).2.1, evaluatedLifecycle_ready_iff]
  simp [hretired, hretiring]

/-- Nothing that is evaluated depends on the lifecycle of a cluster that is not
on its way out. -/
theorem evaluateReadiness_stored {lifecycle : ClusterLifecycle} (hretired : s.lifecycle ≠ .retired)
    (hretiring : s.lifecycle ≠ .retiring) (hretired' : lifecycle ≠ .retired)
    (hretiring' : lifecycle ≠ .retiring) :
    evaluateReadiness { s with lifecycle := lifecycle } = evaluateReadiness s := by
  unfold evaluateReadiness
  rw [if_neg hretired, if_neg hretiring, if_neg hretired', if_neg hretiring']
  rfl

/-- **A verdict is sound and stable.** The lifecycle is ready or partial, the
evaluation satisfied and free of blockers exactly when the contract is met, and
the evaluation of the state that stores the lifecycle is the same. -/
theorem readiness_sound_stable (s : ClusterState) (hretired : s.lifecycle ≠ .retired)
    (hretiring : s.lifecycle ≠ .retiring) :
    let evaluation := evaluateReadiness s
    ((evaluation.lifecycle = .ready ∨ evaluation.lifecycle = .partialReady) ↔
      evaluation.satisfied = true) ∧
    (evaluation.satisfied = true ↔ evaluation.blockers = []) ∧
    (evaluation.blockers = [] ↔ s.MeetsContract) ∧
    evaluation.lifecycle ≠ .retired ∧ evaluation.lifecycle ≠ .retiring ∧
    evaluateReadiness { s with lifecycle := evaluation.lifecycle } = evaluation := by
  obtain ⟨hsatisfied, hlifecycle, hblockers⟩ := evaluateReadiness_live hretired hretiring
  have hne : (evaluateReadiness s).lifecycle ≠ .retired := by
    rw [hlifecycle]
    exact evaluatedLifecycle_ne_retired s
  have hne' : (evaluateReadiness s).lifecycle ≠ .retiring := by
    rw [hlifecycle]
    exact evaluatedLifecycle_ne_retiring
  refine ⟨lifecycle_ready_iff, ?_, hblockers.trans readinessBlockers_eq_nil, hne, hne', ?_⟩
  · rw [hsatisfied, hblockers, List.isEmpty_iff]
  · exact evaluateReadiness_stored hretired hretiring hne hne'

end Blockers

/-! ## Degraded elements -/

/-- A met contract makes a cluster with an unavailable rack ready only if it
does not allow a partial one: whether it allows degraded elements is not asked. -/
theorem unavailable_not_ready_iff [StdSort] {s : ClusterState} {rack : RackId}
    {record : RackRecord} (hfind : s.racks.find? rack = some record)
    (hunavailable : record.membership = .unavailable) :
    (evaluateReadiness s).lifecycle ≠ .ready ↔ s.readinessContract.allowPartial = true ∨
      s.lifecycle = .retired ∨ s.lifecycle = .retiring ∨ ¬ s.MeetsContract := by
  have hincomplete : s.knowinglyIncomplete = true := by
    have hany : (s.racks.values.any fun record =>
        record.membership == .unavailable || record.membership == .withdrawn) = true := by
      rw [List.any_eq_true]
      exact ⟨record, StdMap.mem_values_iff.mpr ⟨rack, hfind⟩, by simp [hunavailable]⟩
    rw [ClusterState.knowinglyIncomplete, hany, Bool.true_or]
  by_cases hretired : s.lifecycle = .retired
  · simp [evaluateReadiness, hretired]
  by_cases hretiring : s.lifecycle = .retiring
  · simp [evaluateReadiness, hretiring]
  rw [(evaluateReadiness_live hretired hretiring).2.1]
  by_cases hmeets : s.MeetsContract
  · rw [evaluatedLifecycle_of_meets hmeets, hincomplete]
    cases s.readinessContract.allowPartial <;> simp [hretired, hretiring, hmeets]
  · simp [(evaluatedLifecycle_of_not_meets hmeets).1, hmeets]

/-! ## Loss of evidence -/

/-- A rack record whose authority and validity can only have been lost. -/
structure WeakenedRack (record record' : RackRecord) : Prop where
  membership : record'.membership = record.membership
  authority : record'.authoritativeCurrent = true → record.authoritativeCurrent = true
  validated : needsRevalidation record' = false → needsRevalidation record = false

/-- A link whose evidence can only have been lost. -/
structure WeakenedLink (link link' : InterRackLink) : Prop where
  source : link'.source = link.source
  destination : link'.destination = link.destination
  evidence : link'.header.evidence.isCurrent = true → link.header.evidence.isCurrent = true

/-- A state that lost evidence about racks and links. -/
structure Weakened (s s' : ClusterState) : Prop where
  racks : s.racks.Rewrites (fun _ => WeakenedRack) s'.racks
  links : s.links.Rewrites (fun _ => WeakenedLink) s'.links
  domains : s'.domains = s.domains
  contract : s'.readinessContract = s.readinessContract
  lifecycle : s'.lifecycle = s.lifecycle


section Weakened

variable {s s' : ClusterState}

theorem WeakenedRack.refl (record : RackRecord) : WeakenedRack record record := ⟨rfl, id, id⟩

theorem WeakenedLink.refl (link : InterRackLink) : WeakenedLink link link := ⟨rfl, rfl, id⟩

/-- A rack that must be revalidated has nothing left to lose. -/
theorem weakenedRack_of_revalidation {record' : RackRecord}
    (hmembership : record'.membership = record.membership)
    (hauthority : record'.authoritativeCurrent = false)
    (hrevalidation : record'.reference.currentness = .revalidationRequired) :
    WeakenedRack record record' := by
  refine ⟨hmembership, fun hcurrent => ?_, fun hvalid => ?_⟩
  · rw [hauthority] at hcurrent
    exact absurd hcurrent Bool.false_ne_true
  · -- a record that asks for no revalidation is of no active rack
    rw [needsRevalidation_eq_false_iff] at hvalid ⊢
    intro hactive
    exact absurd hrevalidation (hvalid (hmembership.trans hactive)).1

theorem weakenedLink_of_revalidation {link link' : InterRackLink}
    (hsource : link'.source = link.source) (hdestination : link'.destination = link.destination)
    (hevidence : link'.header.evidence.requiresRevalidation = true) : WeakenedLink link link' := by
  refine ⟨hsource, hdestination, fun hcurrent => ?_⟩
  rw [EvidenceStamp.isCurrent_of_requiresRevalidation hevidence] at hcurrent
  exact absurd hcurrent Bool.false_ne_true

theorem Weakened.hasRack (h : Weakened s s') (rack : RackId) : s'.hasRack rack = s.hasRack rack :=
  h.racks.contains_eq rack

/-- **What is met after a loss of evidence was met before it.** Of the conflicts
that the contract looks for, the loss could hide one: an authority that was
fenced or retired and is now gone. -/
theorem Weakened.meetsContract (h : Weakened s s')
    (hauthority : ∀ rack record, s.racks.find? rack = some record →
      record.authoritativeCurrent = true →
        s.isBootFenced record.reference.boot = false ∧ s.isRackRetired rack = false)
    (hmeets : s'.MeetsContract) : s.MeetsContract where
  active := by
    obtain ⟨rack, record', hfind', hactive⟩ := hmeets.active
    obtain ⟨record, hfind, hweak⟩ := h.racks.find? hfind'
    exact ⟨rack, record, hfind, hweak.membership.symm.trans hactive⟩
  minimumRacks := by
    have hle : s'.currentCount ≤ s.currentCount := by
      refine h.racks.countP_values_le fun hweak hcurrent => ?_
      rw [isCurrentActive_iff] at hcurrent ⊢
      exact ⟨hweak.membership.symm.trans hcurrent.1, hweak.authority hcurrent.2⟩
    have hminimum := hmeets.minimumRacks
    rw [h.contract] at hminimum
    omega
  mandatory := fun rack hrack => by
    obtain ⟨record', hfind', hactive, hcurrent⟩ :=
      hmeets.mandatory rack (by rw [h.contract]; exact hrack)
    obtain ⟨record, hfind, hweak⟩ := h.racks.find? hfind'
    exact ⟨record, hfind, hweak.membership.symm.trans hactive, hweak.authority hcurrent⟩
  allCurrent := fun hall rack record hfind hactive => by
    obtain ⟨record', hfind', hweak⟩ := h.racks.extends rack record hfind
    refine hweak.authority (hmeets.allCurrent ?_ rack record' hfind' ?_)
    · rw [h.contract]
      exact hall
    · exact hweak.membership.trans hactive
  validated := fun rack record hfind => by
    obtain ⟨record', hfind', hweak⟩ := h.racks.extends rack record hfind
    have hvalid := needsRevalidation_eq_false_iff.mpr (hmeets.validated rack record' hfind')
    exact needsRevalidation_eq_false_iff.mp (hweak.validated hvalid)
  connectivity := fun hrequired => by
    obtain ⟨id, link', hfind', hcurrent⟩ :=
      hmeets.connectivity (by rw [h.contract]; exact hrequired)
    obtain ⟨link, hfind, hweak⟩ := h.links.find? hfind'
    exact ⟨id, link, hfind, hweak.evidence hcurrent⟩
  minimumLinks := by
    have hle : s'.currentLinks ≤ s.currentLinks :=
      h.links.countP_values_le fun hweak hcurrent => hweak.evidence hcurrent
    have hminimum := hmeets.minimumLinks
    rw [h.contract] at hminimum
    omega
  placementClasses := fun klass hklass => by
    have hdomains : s'.placementDomains = s.placementDomains := congrFun h.domains .placement
    rw [← hdomains]
    exact hmeets.placementClasses klass (by rw [h.contract]; exact hklass)
  failureClasses := fun klass hklass => by
    have hdomains : s'.failureDomains = s.failureDomains := congrFun h.domains .failure
    rw [← hdomains]
    exact hmeets.failureClasses klass (by rw [h.contract]; exact hklass)
  noConflicts := fun hrequired => by
    refine ⟨fun id link hfind => ?_, hauthority⟩
    obtain ⟨link', hfind', hweak⟩ := h.links.extends id link hfind
    have hends := (hmeets.noConflicts (by rw [h.contract]; exact hrequired)).1 id link' hfind'
    rwa [hweak.source, hweak.destination, h.hasRack, h.hasRack] at hends

variable [StdSort]

/-- A verdict after a loss of evidence was the verdict before it. -/
theorem Weakened.satisfied (h : Weakened s s') (hsound : Coordinator.Sound s)
    (hready : (evaluateReadiness s').lifecycle = .ready ∨
      (evaluateReadiness s').lifecycle = .partialReady) :
    (evaluateReadiness s).satisfied = true := by
  obtain ⟨hretired, hretiring, hmeets⟩ := satisfied_iff.mp (lifecycle_ready_iff.mp hready)
  rw [h.lifecycle] at hretired hretiring
  refine satisfied_iff.mpr ⟨hretired, hretiring, h.meetsContract ?_ hmeets⟩
  intro rack record hfind hcurrent
  have hhealthy := Coordinator.healthy_of_find? hsound.healthy hfind
  have hok := (hhealthy.racks rack record hfind).authority hcurrent
  exact ⟨hok.notFenced, hok.notRetired⟩

end Weakened

namespace Coordinator

section Steps

variable [StdSort] {s s' : ClusterState}

omit [StdSort] in
theorem weakenedRack_fencedRack (reason : Text) (record : RackRecord) :
    WeakenedRack record (fencedRack reason record) := weakenedRack_of_revalidation rfl rfl rfl

omit [StdSort] in
theorem weakenedLink_fencedLink (link : InterRackLink) : WeakenedLink link (fencedLink link) :=
  weakenedLink_of_revalidation rfl rfl
    (EvidenceStamp.requiresRevalidation_markRevalidationRequired _)

omit [StdSort] in
theorem weakenedLink_withdrawnEvidenceLink (link : InterRackLink) :
    WeakenedLink link (withdrawnEvidenceLink link) :=
  weakenedLink_of_revalidation rfl rfl
    (EvidenceStamp.requiresRevalidation_markRevalidationRequired _)

theorem weakened_fencedState (s : ClusterState) (boot : RackAgentBootId) (reason : Text)
    (fencedAt : Timestamp) : Weakened s (fencedState s boot reason fencedAt) := by
  have hracks : s.racks.Rewrites (fun _ => WeakenedRack) (fencedRecords s boot reason).racks :=
    .updateWhere (fun record => record.reference.boot == boot) (fun _ => WeakenedRack.refl)
      fun _ => weakenedRack_fencedRack reason
  have hlinks : s.links.Rewrites (fun _ => WeakenedLink) (fencedRecords s boot reason).links :=
    .updateWhere (fun link => link.boot == some boot) (fun _ => WeakenedLink.refl)
      fun _ => weakenedLink_fencedLink
  rw [fencedState_eq]
  exact ⟨hracks, hlinks, rfl, rfl, rfl⟩

theorem weakened_of_withdrawal {config : CoordinatorConfig} {now : Timestamp}
    {request : MutationRequest} (hkind : request.kind = .withdrawEvidence)
    (happlied : Applied config now s request s') : Weakened s s' := by
  cases happlied
  case evidenceWithdrawn record links c h _ hfind hlinks _ =>
    refine ⟨?_, ?_, rfl, rfl, rfl⟩
    · exact .insertOrAssign hfind (fun _ => WeakenedRack.refl)
        fun _ => weakenedRack_of_revalidation rfl rfl rfl
    · rcases hlinks with ⟨-, rfl, -⟩ | ⟨-, rfl, -⟩
      · exact .updateWhere _ (fun _ => WeakenedLink.refl) fun _ =>
          weakenedLink_withdrawnEvidenceLink
      · exact .refl fun _ => WeakenedLink.refl
  all_goals simp_all [MutationKind.membershipTarget, MutationKind.domainKind]

end Steps

section Runs

variable [StdSort] {σ : Type} {fs : FaithfulStore σ} {c : Coordinator σ}

/-- **Losing evidence never improves readiness.** When an effective fence or an
accepted withdrawal of evidence leaves a cluster ready or partial, its contract
was met before. -/
theorem readiness_not_improved (h : Reachable fs c) :
    (∀ boot reason fencedAt now,
      let c' := applyFence fs.ops c boot reason fencedAt now
      c'.fenceEvents = c.fenceEvents + 1 →
      c'.canonical.lifecycle = .ready ∨ c'.canonical.lifecycle = .partialReady →
      (evaluateReadiness c.canonical).satisfied = true) ∧
    ∀ request now, request.kind = .withdrawEvidence →
      let served := applyAndCommit fs.ops c request now
      served.2.outcome = .accepted →
      served.1.canonical.lifecycle = .ready ∨ served.1.canonical.lifecycle = .partialReady →
      (evaluateReadiness c.canonical).satisfied = true := by
  constructor
  · intro boot reason fencedAt now c' heffective hready
    have hcases := applyFence_cases fs.ops c boot reason fencedAt now
    cases hcases with
    | ineffective _ _ _ hevents =>
      have hsame : c'.fenceEvents = c.fenceEvents := hevents
      omega
    | effective _ _ _ hcanonical _ _ _ =>
      have hstate : c'.canonical = _ := hcanonical
      rw [hstate] at hready
      exact (weakened_fencedState c.canonical boot reason fencedAt).satisfied h.sound hready
  · intro request now hkind served haccepted hready
    obtain ⟨-, s, g, happlied, hcommitted⟩ := committed_of_accepted _ haccepted
    have hstate : served.1.canonical = _ := hcommitted.canonical
    rw [hstate] at hready
    exact (weakened_of_withdrawal hkind happlied).satisfied h.sound hready

end Runs

section Example

open scoped StdSort

/-- A cluster of racks `r1` and `r2`, the second of which left in some way. -/
def afterLeaving (contract : ReadinessContract) (kind : MutationKind) :
    Coordinator (Option PersistedState) :=
  sample [.submit { declaration with readinessContract := contract } ⟨2⟩,
    .submit (publishedRack "r1" "b1") ⟨3⟩, .submit (publishedRack "r2" "b2") ⟨4⟩,
    .submit { publishedRack "r2" "b2" with kind := kind } ⟨5⟩]

/-- The contract that allows neither a partial nor a degraded cluster. -/
def wholeContract : ReadinessContract := { allowPartial := false, allowDegraded := false }

theorem facts_unavailable :
    let s := (afterLeaving wholeContract .markRackUnavailable).canonical
    s.readinessContract = wholeContract ∧ (evaluateReadiness s).lifecycle = .ready ∧
      ∃ record, s.racks.find? (.named "r2") = some record ∧ record.membership = .unavailable := by
  decide +kernel

def evidenceWithdrawal : MutationRequest :=
  { publishedRack "r2" "b2" with kind := .withdrawEvidence }

theorem facts_withdrawn :
    let c := afterLeaving {} .withdrawRack
    let fenced := applyFence cellStore.ops c (.named "b2") [] ⟨6⟩ ⟨6⟩
    let withdrawn := applyAndCommit cellStore.ops c evidenceWithdrawal ⟨6⟩
    (c.canonical.lifecycle = .partialReady ∧
      (evaluateReadiness c.canonical).lifecycle = .partialReady) ∧
      (fenced.fenceEvents = c.fenceEvents + 1 ∧ fenced.canonical.lifecycle = .partialReady) ∧
      withdrawn.2.outcome = .accepted ∧ withdrawn.1.canonical.lifecycle = .partialReady := by
  decide +kernel

/-- A cluster with a withdrawn rack is partial, so its contract is met. -/
theorem readiness_sound_stable_withdrawn :
    (afterLeaving {} .withdrawRack).canonical.MeetsContract := by
  obtain ⟨⟨hlifecycle, hevaluated⟩, -⟩ := facts_withdrawn
  obtain ⟨hready, hsatisfied, hmeets, -⟩ := readiness_sound_stable
    (afterLeaving {} .withdrawRack).canonical (by rw [hlifecycle]; decide)
    (by rw [hlifecycle]; decide)
  exact hmeets.mp (hsatisfied.mp (hready.mp (.inr hevaluated)))

/-- A fence of the withdrawn rack and the withdrawal of its evidence leave the
cluster partial. -/
theorem readiness_not_improved_withdrawn :
    let c := afterLeaving {} .withdrawRack
    let fenced := applyFence cellStore.ops c (.named "b2") [] ⟨6⟩ ⟨6⟩
    let withdrawn := applyAndCommit cellStore.ops c evidenceWithdrawal ⟨6⟩
    (fenced.canonical.lifecycle = .partialReady ∧
      (evaluateReadiness c.canonical).satisfied = true) ∧
    withdrawn.1.canonical.lifecycle = .partialReady ∧
      (evaluateReadiness c.canonical).satisfied = true := by
  obtain ⟨-, ⟨heffective, hfenced⟩, haccepted, hwithdrawn⟩ := facts_withdrawn
  have h := readiness_not_improved (c := afterLeaving {} .withdrawRack) (reachable_sample _)
  have hfence := h.1 (.named "b2") [] ⟨6⟩ ⟨6⟩ heffective (.inr hfenced)
  have hwithdrawal := h.2 evidenceWithdrawal ⟨6⟩ rfl haccepted (.inr hwithdrawn)
  exact ⟨⟨hfenced, hfence⟩, hwithdrawn, hwithdrawal⟩

/-- With a contract that is met, an unavailable rack and no partial cluster
allowed, the condition fails. -/
theorem unavailable_not_ready_whole :
    (afterLeaving wholeContract .markRackUnavailable).canonical.MeetsContract := by
  obtain ⟨hcontract, hready, record, hfind, hunavailable⟩ := facts_unavailable
  have hnot := mt (unavailable_not_ready_iff hfind hunavailable).mpr (not_not.mpr hready)
  by_contra hmeets
  exact hnot (.inr (.inr (.inr hmeets)))

/-- **A contract that forbids degraded elements is met with an unavailable rack.** -/
theorem unavailable_rack_ready :
    let c := afterLeaving wholeContract .markRackUnavailable
    Reachable cellStore c ∧ c.canonical.readinessContract.allowDegraded = false ∧
      (∃ record, c.canonical.racks.find? (.named "r2") = some record ∧
        record.membership = .unavailable) ∧
      (evaluateReadiness c.canonical).lifecycle = .ready := by
  obtain ⟨hcontract, hready, hrack⟩ := facts_unavailable
  exact ⟨reachable_sample _, by rw [hcontract]; rfl, hrack, hready⟩

end Example

end Coordinator

end ClusterFabric
