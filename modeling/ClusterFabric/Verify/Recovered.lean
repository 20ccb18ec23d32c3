import ClusterFabric.Model.Coordinator

/-! # Recovered states

What recovery makes of a persisted state: the maps it enters again and the fenced
list it extends.
-/

namespace ClusterFabric

open Lib

variable [StdSort] {fenced : List FencedAuthority} {boot : RackAgentBootId}

/-! ## The fenced list -/

section Fenced

variable (now : Timestamp)

omit [StdSort] in
theorem mem_foldl_fenceLastBoot {racks : List DurableRack} :
    boot ∈ (racks.foldl (fenceLastBoot now) fenced).map FencedAuthority.boot ↔
      boot ∈ fenced.map FencedAuthority.boot ∨ boot ∈ racks.map DurableRack.lastBoot := by
  induction racks generalizing fenced with
  | nil => simp
  | cons rack racks ih =>
    rw [List.foldl_cons, ih, List.map_cons, List.mem_cons, ← or_assoc]
    refine or_congr_left ?_
    unfold fenceLastBoot
    split_ifs with hlisted
    · rw [List.any_eq_true] at hlisted
      obtain ⟨entry, hentry, hboot⟩ := hlisted
      refine ⟨.inl, ?_⟩
      rintro (h | rfl)
      · exact h
      · exact List.mem_map.mpr ⟨entry, hentry, eq_of_beq hboot⟩
    · simp

omit [StdSort] in
/-- Recovery fences no incarnation twice. -/
theorem foldl_fenceLastBoot_distinct (racks : List DurableRack)
    (h : fenced.Pairwise fun a b => a.boot ≠ b.boot) :
    (racks.foldl (fenceLastBoot now) fenced).Pairwise fun a b => a.boot ≠ b.boot := by
  induction racks generalizing fenced with
  | nil => exact h
  | cons rack racks ih =>
    refine ih ?_
    unfold fenceLastBoot
    split_ifs with hlisted
    · exact h
    · refine List.pairwise_append.mpr ⟨h, List.pairwise_singleton _ _, fun a ha b hb heq => ?_⟩
      obtain rfl := List.mem_singleton.mp hb
      exact hlisted (List.any_eq_true.mpr ⟨a, ha, beq_iff_eq.mpr heq⟩)

end Fenced

section Recover

variable (p : PersistedState) (epoch : CoordinatorEpoch) (now : Timestamp)

/-- The fenced incarnations of a recovered state are those that were fenced and
those of the recovered racks. -/
theorem isBootFenced_recoveredState :
    (recoveredState p epoch now).isBootFenced boot = true ↔
      boot ∈ p.fencedAuthorities.map FencedAuthority.boot ∨
        boot ∈ p.racks.map DurableRack.lastBoot := by
  rw [ClusterState.isBootFenced_iff, ← mem_foldl_fenceLastBoot now, List.mem_map, List.mem_map]
  simp only [recoveredState, mem_sortBy, fencedAfterRecovery]

theorem fencedSorted_recoveredState
    (h : p.fencedAuthorities.Pairwise fun a b => a.boot ≠ b.boot) :
    (recoveredState p epoch now).fencedAuthorities.Pairwise fun a b => a.boot < b.boot :=
  sortBy_strict (foldl_fenceLastBoot_distinct now p.racks h)

/-- The records of a recovered state are recovered records. -/
theorem find?_racks_recoveredState {rack : RackId} {record : RackRecord}
    (h : (recoveredState p epoch now).racks.find? rack = some record) :
    ∃ durable ∈ p.racks, durable.rack = rack ∧ record = recoveredRack p epoch now durable := by
  have hmem := StdMap.mem_of_find?_ofList h
  obtain ⟨durable, hdurable, heq⟩ := List.mem_map.mp hmem
  obtain ⟨hrack, hrecord⟩ := Prod.mk.inj heq
  exact ⟨durable, hdurable, hrack, hrecord.symm⟩

end Recover

/-! ## Readiness without current racks -/

section Readiness

variable {s : ClusterState}
  (hcurrent : ∀ rack record, s.racks.find? rack = some record →
    record.authoritativeCurrent = false)
  (hrevalidate : ∀ rack record, s.racks.find? rack = some record →
    record.reference.currentness = .revalidationRequired)

omit [StdSort] in
include hcurrent in
theorem currentCount_eq_zero : s.currentCount = 0 := by
  refine List.countP_eq_zero.mpr fun record hrecord => ?_
  obtain ⟨rack, hfind⟩ := StdMap.mem_values_iff.mp hrecord
  simp [isCurrentActive, hcurrent rack record hfind]

omit [StdSort] in
include hrevalidate in
/-- Nobody is active, or someone active must be revalidated. -/
theorem readinessBlockers_ne_nil : s.readinessBlockers ≠ [] := by
  intro hnil
  simp only [ClusterState.readinessBlockers, ClusterState.countBlockers,
    ClusterState.rackBlockers, List.append_eq_nil_iff, flag_eq_nil,
    StdMap.flatMap_entries_eq_nil] at hnil
  obtain ⟨⟨⟨⟨⟨⟨hactive, -⟩, -⟩, -, hracks⟩, -⟩, -⟩, -⟩ := hnil
  refine hactive (List.countP_eq_zero.mpr fun record hrecord hisActive => ?_)
  obtain ⟨rack, hfind⟩ := StdMap.mem_values_iff.mp hrecord
  refine hracks rack record hfind ?_
  simp [needsRevalidation, hisActive, hrevalidate rack record hfind]

omit [StdSort] in
/-- Without a current rack, whatever blocks readiness keeps the state from being
consumable. -/
theorem not_consumable_of_blocked (hcount : s.currentCount = 0)
    (hblockers : s.readinessBlockers ≠ []) :
    isConsumableLifecycle s.evaluatedLifecycle = false := by
  unfold ClusterState.evaluatedLifecycle
  split_ifs with hrequired hempty hpartial hpositive hactive
  · rfl
  · exact absurd (List.isEmpty_iff.mp hempty) hblockers
  · exact absurd (List.isEmpty_iff.mp hempty) hblockers
  · omega
  · rfl
  · rfl

omit [StdSort] in
include hcurrent hrevalidate in
/-- Whatever the contract asks for, a state in which every rack must be
revalidated is not consumable. -/
theorem evaluatedLifecycle_not_consumable :
    isConsumableLifecycle s.evaluatedLifecycle = false :=
  not_consumable_of_blocked (currentCount_eq_zero hcurrent) (readinessBlockers_ne_nil hrevalidate)

end Readiness

/-- A recovered state is not consumable. -/
theorem fromPersistedState_not_consumable (p : PersistedState) (epoch : CoordinatorEpoch)
    (now : Timestamp) :
    isConsumableLifecycle (fromPersistedState p epoch now).lifecycle = false := by
  change isConsumableLifecycle (recoveredState p epoch now).evaluatedLifecycle = false
  refine evaluatedLifecycle_not_consumable ?_ ?_
  · intro rack record hfind
    obtain ⟨_, -, -, rfl⟩ := find?_racks_recoveredState p epoch now hfind
    rfl
  · intro rack record hfind
    obtain ⟨_, -, -, rfl⟩ := find?_racks_recoveredState p epoch now hfind
    rfl

/-! ## The maps -/

section Maps

variable (s : ClusterState) (epoch : CoordinatorEpoch) (now : Timestamp)

theorem racks_recoveredState :
    (recoveredState (toPersistedState s) epoch now).racks =
      s.racks.mapValues fun rack record =>
        recoveredRack (toPersistedState s) epoch now (durableRack rack record) := by
  rw [← StdMap.ofList_map_entries]
  change StdMap.ofList ((s.racks.entries.map _).map _) = _
  rw [List.map_map]
  rfl

theorem racks_recovered :
    (fromPersistedState (toPersistedState s) epoch now).racks =
      s.racks.mapValues fun rack record =>
        recoveredRack (toPersistedState s) epoch now (durableRack rack record) :=
  racks_recoveredState s epoch now

variable {s}

theorem links_recoveredState (h : ∀ id link, s.links.find? id = some link → link.id = id) :
    (recoveredState (toPersistedState s) epoch now).links =
      s.links.mapValues fun _ link => recoveredLink link :=
  StdMap.ofList_map_values h recoveredLink

theorem domains_recoveredState {k : DomainKind}
    (h : ∀ id domain, (s.domains k).find? id = some domain → domain.id = id) :
    (recoveredState (toPersistedState s) epoch now).domains k =
      (s.domains k).mapValues fun _ domain => recoveredDomain now domain :=
  StdMap.ofList_map_values h (recoveredDomain now)

theorem constraints_recoveredState
    (h : ∀ id constraint, s.constraints.find? id = some constraint → constraint.id = id) :
    (recoveredState (toPersistedState s) epoch now).constraints =
      s.constraints.mapValues fun _ constraint => recoveredConstraint now constraint :=
  StdMap.ofList_map_values h (recoveredConstraint now)

end Maps

end ClusterFabric
