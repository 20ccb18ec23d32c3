import ClusterFabric.Model.Snapshot
import ClusterFabric.Verify.Soundness

/-! # Snapshots of a run

A snapshot is compared by counters, not by content. That is sound because every commit
of a declared cluster advances the cluster generation, and because a recovered state,
which keeps its generation, is not consumable (`eq_of_consumable_snapshot`).

A validation also looks at the live record of every bound rack, whatever the snapshot
recorded of it. So a snapshot can be stale against the very state it was taken of:
readiness ignores the racks that are not active, and validation does not
(`fresh_snapshot_usable_iff`).
-/

namespace ClusterFabric

open Lib

variable {s : ClusterState}

/-! ## What a validation compares -/

/-- The eight stretches, in the order in which they are found. -/
structure Stretches where
  wrongCluster : List SnapshotStaleReason
  epochs : List SnapshotStaleReason
  membership : List SnapshotStaleReason
  topology : List SnapshotStaleReason
  domains : List SnapshotStaleReason
  racks : List SnapshotStaleReason
  added : List SnapshotStaleReason
  lifecycle : List SnapshotStaleReason

namespace Stretches

/-- All but the lifecycle. -/
def stale (p : Stretches) : List SnapshotStaleReason :=
  p.wrongCluster ++ p.epochs ++ p.membership ++ p.topology ++ p.domains ++ p.racks ++ p.added

def all (p : Stretches) : List SnapshotStaleReason := p.stale ++ p.lifecycle

end Stretches

namespace SnapshotView

open ClusterSnapshot (stale supersededReason capture)

theorem map_fst_flag (c : Prop) [Decidable c] (reason : SnapshotStaleReason) (subject : Text) :
    (flag c (reason, subject)).map Prod.fst = flag c reason := by
  by_cases h : c <;> simp [flag, h]

theorem mem_flag {α : Type} {c : Prop} [Decidable c] {a b : α} : b ∈ flag c a ↔ c ∧ b = a := by
  by_cases h : c <;> simp [flag, h]

/-- The reasons of one bound rack are the same, only the subjects differ. -/
theorem map_fst_compareBinding (current : ClusterState) (binding : RackGenerationBinding) :
    (compareBinding current binding).map Prod.fst =
      (ClusterSnapshot.compareBinding current binding).map Prod.fst := by
  unfold compareBinding ClusterSnapshot.compareBinding
  cases current.racks.find? binding.rack with
  | none => rfl
  | some record =>
    cases hretired : current.isRackRetired binding.rack with
    | true => simp
    | false => simp [map_fst_flag]

/-- What is found, stretch by stretch; the condition for a change of membership is the
caller's. -/
def stretches (view : SnapshotView) (changed : Prop) [Decidable changed] (s : ClusterState) :
    Stretches where
  wrongCluster := flag (view.cluster ≠ s.id) .wrongCluster
  epochs := flag (view.clusterEpoch ≠ s.epoch) .clusterEpochAdvanced ++
    flag (view.coordinatorEpoch ≠ s.coordinatorEpoch) .coordinatorEpochAdvanced ++
    flag (view.clusterGeneration ≠ s.generation) .clusterGenerationAdvanced
  membership := flag changed .membershipChanged
  topology :=
    if view.topologyEpoch ≠ s.topologyEpoch then
      flag (view.topologyEpoch ≠ s.topologyEpoch) .topologyEpochSuperseded
    else flag (view.topologyGeneration ≠ s.topologyGeneration) .topologyGenerationAdvanced
  domains := (DomainKind.all.flatMap fun k =>
      flag (view.domainGenerations k ≠ s.domainGenerations k) (supersededReason k)) ++
    flag (view.connectivityGeneration ≠ s.connectivityGeneration) .connectivitySuperseded ++
    flag (view.healthGeneration ≠ s.healthGeneration) .healthSuperseded
  racks := view.rackBindings.flatMap fun binding => (compareBinding s binding).map Prod.fst
  added := s.racks.entries.flatMap fun (rack, _) =>
    flag (!view.rackBindings.any fun binding => binding.rack == rack) .membershipChanged
  lifecycle := flag (!isConsumableLifecycle s.lifecycle) .lifecycleNotConsumable

/-- What `validate_view` finds, the lifecycle apart. -/
theorem findings_view (view : SnapshotView) (s : ClusterState) :
    (view.compareScalars s ++ view.rackBindings.flatMap (compareBinding s) ++
        view.compareAdded s).map Prod.fst =
      (view.stretches (view.membershipGeneration ≠ s.membershipGeneration) s).stale := by
  rw [List.map_append, List.map_append, List.map_flatMap, compareAdded, List.map_flatMap,
    compareScalars]
  simp only [List.map_append, apply_ite (List.map Prod.fst), map_fst_flag, stale,
    List.map_flatMap, Stretches.stale, stretches, List.append_assoc]

/-- What `validate` finds: it also compares the number of racks. -/
theorem findings_snapshot (digest : ClusterState → Text) (bound s : ClusterState)
    (bindings : List RackGenerationBinding) :
    (ClusterSnapshot.compareScalars bound s ++
        bindings.flatMap (ClusterSnapshot.compareBinding s) ++
        ClusterSnapshot.compareAdded ⟨some bound, bindings⟩ s).map Prod.fst =
      ((fromSnapshot digest ⟨some bound, bindings⟩).stretches
        (bound.membershipGeneration ≠ s.membershipGeneration ∨
          bound.racks.size ≠ s.racks.size) s).stale := by
  have hracks : (bindings.flatMap (ClusterSnapshot.compareBinding s)).map Prod.fst =
      bindings.flatMap fun binding => (compareBinding s binding).map Prod.fst := by
    rw [List.map_flatMap]
    exact List.flatMap_congr fun binding _ => (map_fst_compareBinding s binding).symm
  rw [List.map_append, List.map_append, hracks, ClusterSnapshot.compareAdded, List.map_flatMap,
    ClusterSnapshot.compareScalars]
  simp only [List.map_append, apply_ite (List.map Prod.fst), map_fst_flag, stale,
    List.map_flatMap, Stretches.stale, stretches, List.append_assoc]
  rfl

section Verdicts

variable [StdSort] (digest : ClusterState → Text) (view : SnapshotView) {snapshot : ClusterSnapshot}
  {bound : ClusterState} (s : ClusterState)

theorem reasons_validateView :
    (view.validateView s).reasons =
      (view.stretches (view.membershipGeneration ≠ s.membershipGeneration) s).all := by
  simp only [validateView]
  rw [List.map_append, findings_view, map_fst_flag]
  rfl

theorem current_validateView :
    (view.validateView s).current = (view.validateView s).reasons.isEmpty := by
  simp only [validateView, List.isEmpty_map]

theorem consumable_validateView :
    (view.validateView s).consumable =
      ((view.validateView s).current && isConsumableLifecycle s.lifecycle) := by
  simp only [validateView]

theorem reasons_validate (hstate : snapshot.state = some bound) :
    (snapshot.validate s).reasons =
      ((fromSnapshot digest snapshot).stretches (bound.membershipGeneration ≠
        s.membershipGeneration ∨ bound.racks.size ≠ s.racks.size) s).all := by
  obtain ⟨_, bindings⟩ := snapshot
  obtain rfl : _ = some bound := hstate
  simp only [ClusterSnapshot.validate]
  rw [List.map_append, findings_snapshot digest, map_fst_flag]
  rfl

/-- `validate` decides before it looks at the lifecycle. -/
theorem current_validate (hstate : snapshot.state = some bound) :
    (snapshot.validate s).current =
      ((fromSnapshot digest snapshot).stretches (bound.membershipGeneration ≠
        s.membershipGeneration ∨ bound.racks.size ≠ s.racks.size) s).stale.isEmpty := by
  obtain ⟨_, bindings⟩ := snapshot
  obtain rfl : _ = some bound := hstate
  simp only [← findings_snapshot, List.isEmpty_map, ClusterSnapshot.validate]

theorem consumable_validate :
    (snapshot.validate s).consumable =
      ((snapshot.validate s).current && isConsumableLifecycle s.lifecycle) := by
  unfold ClusterSnapshot.validate
  cases snapshot.state with
  | none => rfl
  | some bound => simp only

end Verdicts

/-! ## When a stretch is empty -/

/-- What a binding lags behind in: the conditions of the comparison, with their reasons. -/
def Lags (s : ClusterState) (binding : RackGenerationBinding) : SnapshotStaleReason → Prop
  | .rackGenerationSuperseded =>
    ∃ record, s.racks.find? binding.rack = some record ∧ s.isRackRetired binding.rack = false ∧
      record.reference.generation ≠ binding.generation
  | .rackWithdrawn =>
    s.racks.find? binding.rack = none ∨
      ∃ record, s.racks.find? binding.rack = some record ∧
        s.isRackRetired binding.rack = false ∧ record.membership ≠ binding.membership
  | .rackRetired =>
    ∃ record, s.racks.find? binding.rack = some record ∧ s.isRackRetired binding.rack = true
  | .rackBootFenced =>
    ∃ record, s.racks.find? binding.rack = some record ∧ s.isRackRetired binding.rack = false ∧
      s.isBootFenced binding.boot = true
  | .rackRevalidationRequired =>
    ∃ record, s.racks.find? binding.rack = some record ∧ s.isRackRetired binding.rack = false ∧
      (record.reference.currentness = .revalidationRequired ∨
        record.reference.evidence.requiresRevalidation = true)
  | _ => False

theorem mem_compareBinding_iff (s : ClusterState) (binding : RackGenerationBinding)
    (reason : SnapshotStaleReason) :
    reason ∈ (compareBinding s binding).map Prod.fst ↔ Lags s binding reason := by
  unfold compareBinding
  cases hfind : s.racks.find? binding.rack with
  | none =>
    cases reason <;> simp [Lags, hfind]
  | some record =>
    cases hretired : s.isRackRetired binding.rack with
    | true => cases reason <;> simp [Lags, hfind, hretired]
    | false => cases reason <;> simp [Lags, hfind, hretired, map_fst_flag, mem_flag]

section Empty

variable (view : SnapshotView) (changed : Prop) [Decidable changed] (s : ClusterState)

/-- The rack is a member that the view does not bind. -/
def Unbound (view : SnapshotView) (s : ClusterState) (rack : RackId) : Prop :=
  s.racks.contains rack = true ∧ ∀ binding ∈ view.rackBindings, binding.rack ≠ rack

def EpochsAgree (view : SnapshotView) (s : ClusterState) : Prop :=
  view.clusterEpoch = s.epoch ∧ view.coordinatorEpoch = s.coordinatorEpoch ∧
    view.clusterGeneration = s.generation

def TopologyAgrees (view : SnapshotView) (s : ClusterState) : Prop :=
  view.topologyEpoch = s.topologyEpoch ∧ view.topologyGeneration = s.topologyGeneration

def DomainsAgree (view : SnapshotView) (s : ClusterState) : Prop :=
  view.domainGenerations = s.domainGenerations ∧
    view.connectivityGeneration = s.connectivityGeneration ∧
    view.healthGeneration = s.healthGeneration

theorem wrongCluster_eq_nil_iff :
    (view.stretches changed s).wrongCluster = [] ↔ view.cluster = s.id := by
  simp only [stretches, flag_eq_nil, not_not]

theorem membership_eq_nil_iff : (view.stretches changed s).membership = [] ↔ ¬changed := by
  simp only [stretches, flag_eq_nil]

theorem lifecycle_eq_nil_iff :
    (view.stretches changed s).lifecycle = [] ↔ isConsumableLifecycle s.lifecycle = true := by
  simp only [stretches, flag_eq_nil, Bool.not_eq_true', Bool.not_eq_false]

theorem epochs_eq_nil_iff : (view.stretches changed s).epochs = [] ↔ view.EpochsAgree s := by
  simp only [stretches, List.append_eq_nil_iff, flag_eq_nil, not_not, EpochsAgree, and_assoc]

theorem topology_eq_nil_iff :
    (view.stretches changed s).topology = [] ↔ view.TopologyAgrees s := by
  unfold TopologyAgrees
  by_cases hepoch : view.topologyEpoch = s.topologyEpoch
  · simp [stretches, hepoch]
  · simp [stretches, hepoch]

theorem domains_eq_nil_iff : (view.stretches changed s).domains = [] ↔ view.DomainsAgree s := by
  have hkinds : (∀ k ∈ DomainKind.all, view.domainGenerations k = s.domainGenerations k) ↔
      view.domainGenerations = s.domainGenerations :=
    ⟨fun h => funext fun k => h k (DomainKind.mem_all k), fun h _ _ => congrFun h _⟩
  simp only [stretches, List.append_eq_nil_iff, List.flatMap_eq_nil_iff, flag_eq_nil, not_not,
    hkinds, DomainsAgree, and_assoc]

theorem racks_eq_nil_iff :
    (view.stretches changed s).racks = [] ↔
      ∀ binding ∈ view.rackBindings, ∀ reason, ¬Lags s binding reason := by
  change view.rackBindings.flatMap _ = [] ↔ _
  rw [List.flatMap_eq_nil_iff]
  simp only [List.eq_nil_iff_forall_not_mem, mem_compareBinding_iff]

/-- The racks that are found to be added, one reason each. -/
theorem added_eq :
    (view.stretches changed s).added =
      (s.racks.keys.filter fun rack =>
        !view.rackBindings.any fun binding => binding.rack == rack).map
          fun _ => .membershipChanged := by
  change s.racks.entries.flatMap _ = (List.filter _ (s.racks.entries.map Prod.fst)).map _
  induction s.racks.entries with
  | nil => rfl
  | cons entry entries ih =>
    obtain ⟨rack, record⟩ := entry
    rw [List.flatMap_cons, ih, List.map_cons, List.filter_cons]
    cases hbound : view.rackBindings.any fun binding => binding.rack == rack with
    | true => simp [flag, hbound]
    | false => simp [flag, hbound]

theorem mem_added_iff {rack : RackId} :
    (rack ∈ s.racks.keys.filter fun rack =>
      !view.rackBindings.any fun binding => binding.rack == rack) ↔ view.Unbound s rack := by
  rw [List.mem_filter, StdMap.mem_keys_iff, Unbound]
  simp

theorem added_eq_nil_iff :
    (view.stretches changed s).added = [] ↔ ∀ rack, ¬view.Unbound s rack := by
  rw [added_eq, List.map_eq_nil_iff, List.eq_nil_iff_forall_not_mem]
  simp only [mem_added_iff]

theorem stale_eq_nil_iff :
    (view.stretches changed s).stale = [] ↔
      view.cluster = s.id ∧ view.EpochsAgree s ∧ ¬changed ∧ view.TopologyAgrees s ∧
        view.DomainsAgree s ∧ (∀ binding ∈ view.rackBindings, ∀ reason, ¬Lags s binding reason) ∧
        ∀ rack, ¬view.Unbound s rack := by
  simp only [Stretches.stale, List.append_eq_nil_iff, wrongCluster_eq_nil_iff,
    membership_eq_nil_iff, epochs_eq_nil_iff, topology_eq_nil_iff, domains_eq_nil_iff,
    racks_eq_nil_iff, added_eq_nil_iff, and_assoc]

theorem all_eq_nil_iff :
    (view.stretches changed s).all = [] ↔
      (view.stretches changed s).stale = [] ∧ isConsumableLifecycle s.lifecycle = true := by
  rw [Stretches.all, List.append_eq_nil_iff, lifecycle_eq_nil_iff]

end Empty

theorem reasons_validate_eq_nil_iff [StdSort] {snapshot : ClusterSnapshot} {bound : ClusterState}
    (s : ClusterState) (hstate : snapshot.state = some bound) :
    (snapshot.validate s).reasons = [] ↔
      (snapshot.validate s).current = true ∧ isConsumableLifecycle s.lifecycle = true := by
  rw [reasons_validate (fun _ => []) s hstate, current_validate (fun _ => []) s hstate,
    all_eq_nil_iff, List.isEmpty_iff]

end SnapshotView

namespace ClusterSnapshot

/-- A rack of the snapshot of which nothing is found. -/
def Kept (current : ClusterState) (rack : RackId) (bound : RackRecord) : Prop :=
  current.isRackRetired rack = false ∧ current.isBootFenced bound.reference.boot = false ∧
    ∃ record, current.racks.find? rack = some record ∧
      record.reference.generation = bound.reference.generation ∧
      record.membership = bound.membership ∧
      record.reference.currentness ≠ .revalidationRequired ∧
      record.reference.evidence.requiresRevalidation = false

/-- Nothing that a validation compares has moved between two states. -/
structure Unmoved (bound current : ClusterState) : Prop where
  cluster : bound.id = current.id
  epoch : bound.epoch = current.epoch
  coordinatorEpoch : bound.coordinatorEpoch = current.coordinatorEpoch
  generation : bound.generation = current.generation
  membershipGeneration : bound.membershipGeneration = current.membershipGeneration
  topologyEpoch : bound.topologyEpoch = current.topologyEpoch
  topologyGeneration : bound.topologyGeneration = current.topologyGeneration
  domainGenerations : bound.domainGenerations = current.domainGenerations
  connectivityGeneration : bound.connectivityGeneration = current.connectivityGeneration
  healthGeneration : bound.healthGeneration = current.healthGeneration
  racks : bound.racks.All (Kept current)
  none_added : ∀ rack, current.racks.contains rack = true → bound.racks.contains rack = true

section Compare

variable {bound current : ClusterState}

/-- Every rack that was bound is still there. -/
theorem Unmoved.size_eq (h : Unmoved bound current) : bound.racks.size = current.racks.size := by
  refine StdMap.size_eq_of_contains fun rack => ⟨fun hrack => ?_, h.none_added rack⟩
  obtain ⟨record, hfind⟩ := Option.isSome_iff_exists.mp hrack
  obtain ⟨-, -, found, hfound, -⟩ := h.racks rack record hfind
  exact Option.isSome_iff_exists.mpr ⟨found, hfound⟩

theorem not_lags_capture_iff :
    (∀ binding ∈ (capture bound).bindings, ∀ reason, ¬SnapshotView.Lags current binding reason) ↔
      bound.racks.All (Kept current) := by
  simp only [← SnapshotView.mem_compareBinding_iff, ← List.eq_nil_iff_forall_not_mem,
    List.map_eq_nil_iff]
  rw [← List.flatMap_eq_nil_iff, capture, List.flatMap_map, StdMap.flatMap_entries_eq_nil]
  refine forall_congr' fun rack => forall_congr' fun record => imp_congr_right fun _ => ?_
  unfold SnapshotView.compareBinding Kept
  cases current.racks.find? rack with
  | none => simp
  | some found =>
    cases current.isRackRetired rack with
    | true => simp
    | false => simp [and_left_comm]

theorem unbound_capture_iff (digest : ClusterState → Text) {rack : RackId} :
    (SnapshotView.fromSnapshot digest (capture bound)).Unbound current rack ↔
      current.racks.contains rack = true ∧ bound.racks.contains rack = false := by
  refine and_congr_right fun _ => ?_
  rw [← Bool.not_eq_true, ← StdMap.mem_keys_iff, StdMap.keys]
  refine List.forall_mem_map.trans ⟨fun h hmem => ?_, fun h entry hentry hrack => ?_⟩
  · obtain ⟨entry, hentry, hrack⟩ := List.mem_map.mp hmem
    exact h entry hentry hrack
  · exact h (List.mem_map.mpr ⟨entry, hentry, hrack⟩)

/-- Apart from the lifecycle nothing is found exactly when nothing has moved. The number of racks
never decides alone: a rack that is gone is a finding in itself. -/
theorem stale_capture_iff (digest : ClusterState → Text) {changed : Prop} [Decidable changed]
    (hgeneration : bound.membershipGeneration ≠ current.membershipGeneration → changed)
    (hchanged : changed → bound.membershipGeneration ≠ current.membershipGeneration ∨
      bound.racks.size ≠ current.racks.size) :
    ((SnapshotView.fromSnapshot digest (capture bound)).stretches changed current).stale = [] ↔
      Unmoved bound current := by
  rw [SnapshotView.stale_eq_nil_iff]
  simp only [unbound_capture_iff]
  constructor
  · rintro ⟨hid, ⟨hepoch, hcoordinator, hcluster⟩, hsame, ⟨htopology, htopology'⟩,
      ⟨hdomains, hconnectivity, hhealth⟩, hracks, hadded⟩
    refine ⟨hid, hepoch, hcoordinator, hcluster,
      not_not.mp fun h => hsame (hgeneration h), htopology, htopology', hdomains, hconnectivity,
      hhealth, not_lags_capture_iff.mp hracks, fun rack hrack => ?_⟩
    by_contra hbound
    exact hadded rack ⟨hrack, Bool.not_eq_true _ ▸ hbound⟩
  · intro h
    refine ⟨h.cluster, ⟨h.epoch, h.coordinatorEpoch, h.generation⟩, fun hmoved => ?_,
      ⟨h.topologyEpoch, h.topologyGeneration⟩,
      ⟨h.domainGenerations, h.connectivityGeneration, h.healthGeneration⟩,
      not_lags_capture_iff.mpr h.racks, ?_⟩
    · exact (hchanged hmoved).elim (· h.membershipGeneration) (· h.size_eq)
    · rintro rack ⟨hrack, hbound⟩
      exact absurd (hbound.symm.trans (h.none_added rack hrack)) Bool.false_ne_true

/-- The verdict of a validation, in terms of the two states. -/
theorem current_capture_iff [StdSort] :
    ((capture bound).validate current).current = true ↔ Unmoved bound current := by
  rw [SnapshotView.current_validate (fun _ => []) current rfl, List.isEmpty_iff]
  exact stale_capture_iff _ .inl id

end Compare

/-- A consumable snapshot has the cluster generation of a consumable state. -/
theorem generation_of_consumable [StdSort] {bound current : ClusterState}
    (h : ((capture bound).validate current).consumable = true) :
    bound.generation = current.generation ∧ isConsumableLifecycle current.lifecycle = true := by
  rw [SnapshotView.consumable_validate, Bool.and_eq_true, current_capture_iff] at h
  exact ⟨h.1.generation, h.2⟩

end ClusterSnapshot

/-! ## A snapshot against its own state -/

/-- A recorded rack that the validation of a snapshot has nothing against. -/
structure Presentable (s : ClusterState) (rack : RackId) (record : RackRecord) : Prop where
  notRetired : s.isRackRetired rack = false
  notFenced : s.isBootFenced record.reference.boot = false
  settled : record.reference.currentness ≠ .revalidationRequired
  evidence : record.reference.evidence.requiresRevalidation = false

namespace ClusterSnapshot

theorem unmoved_self_iff : Unmoved s s ↔ s.racks.All (Presentable s) := by
  constructor
  · intro h rack record hfind
    obtain ⟨hretired, hfenced, found, hfound, -, -, hsettled, hevidence⟩ :=
      h.racks rack record hfind
    obtain rfl := Option.some.inj (hfind.symm.trans hfound)
    exact ⟨hretired, hfenced, hsettled, hevidence⟩
  · intro h
    refine ⟨rfl, rfl, rfl, rfl, rfl, rfl, rfl, rfl, rfl, rfl, fun rack record hfind => ?_,
      fun _ => id⟩
    have hpresentable := h rack record hfind
    exact ⟨hpresentable.notRetired, hpresentable.notFenced, record, hfind, rfl, rfl,
      hpresentable.settled, hpresentable.evidence⟩

/-- **A fresh snapshot of a consumable state is usable** exactly when every
recorded rack is presentable. -/
theorem fresh_snapshot_usable_iff [StdSort] {s : ClusterState}
    (hconsumable : isConsumableLifecycle s.lifecycle = true) :
    (((capture s).validate s).reasons = [] ∧ ((capture s).validate s).current = true ∧
        ((capture s).validate s).consumable = true) ↔
      ∀ rack record, s.racks.find? rack = some record → Presentable s rack record := by
  rw [SnapshotView.reasons_validate_eq_nil_iff s rfl, SnapshotView.consumable_validate,
    Bool.and_eq_true, current_capture_iff, unmoved_self_iff]
  exact ⟨fun h => h.1.1, fun h => ⟨⟨h, hconsumable⟩, h, h, hconsumable⟩⟩

end ClusterSnapshot

namespace Coordinator

variable [StdSort]

/-! ## States of one generation -/

/-- A later state has moved on to a new generation, or is the same, or is one
that cannot be consumed. -/
def MovedOn (s s' : ClusterState) : Prop :=
  s' = s ∨ s.generation < s'.generation ∨
    s'.generation = s.generation ∧ isConsumableLifecycle s'.lifecycle = false

omit [StdSort] in
theorem MovedOn.generation_le {s' : ClusterState} (h : MovedOn s s') :
    s.generation ≤ s'.generation := by
  rcases h with rfl | hlt | ⟨heq, -⟩
  · exact le_refl _
  · exact hlt.le
  · exact heq.ge

omit [StdSort] in
theorem MovedOn.trans {a b c : ClusterState} (hab : MovedOn a b) (hbc : MovedOn b c) :
    MovedOn a c := by
  rcases hbc with rfl | hlt | ⟨heq, hnot⟩
  · exact hab
  · exact .inr (.inl (hab.generation_le.trans_lt hlt))
  · rcases hab.generation_le.lt_or_eq with hlt | hsame
    · exact .inr (.inl (heq ▸ hlt))
    · exact .inr (.inr ⟨heq.trans hsame.symm, hnot⟩)

theorem respects_movedOn : clusterSystem.Respects MovedOn where
  refl := fun _ => .inl rfl
  trans := MovedOn.trans
  evolves := fun {s s'} hdeclared hevolves => by
    have hnext := StrongCounter.next_eq_some.mp (generation_of_evolves hdeclared hevolves)
    refine .inr (.inl ?_)
    rw [StrongCounter.lt_iff]
    omega
  recovers := by
    rintro s _ - ⟨epoch, now, -, rfl⟩
    exact .inr (.inr ⟨rfl, fromPersistedState_not_consumable _ epoch now⟩)
  rebuilds := by
    rintro s _ _ - ⟨epoch, now, -, rfl⟩ ⟨epoch', now', -, rfl⟩
    exact .inr (.inr ⟨rfl, fromPersistedState_not_consumable _ epoch' now'⟩)

/-- **A consumable snapshot is the current state.** On a coordinator that saves
its commits, a snapshot that validates as consumable against a later state of the
run was taken of that very state. -/
theorem eq_of_consumable_snapshot {σ : Type} {fs : FaithfulStore σ} {c : Coordinator σ}
    (hreachable : Reachable fs c) (hpersisting : Persisting c.config c.store)
    (hdeclared : c.canonical.epoch.known = true) (events : List Event)
    (hconsumable : ((ClusterSnapshot.capture c.canonical).validate
      (run fs.ops c events).canonical).consumable = true) :
    (run fs.ops c events).canonical = c.canonical := by
  obtain ⟨hgeneration, hlifecycle⟩ := ClusterSnapshot.generation_of_consumable hconsumable
  have hmoved := hreachable.related_run respects_movedOn hdeclared
    (along_restartsSaved _ hpersisting events)
  rcases hmoved with heq | hlt | ⟨-, hnot⟩
  · exact heq
  · exact absurd hgeneration hlt.ne
  · rw [hlifecycle] at hnot
    exact absurd hnot.symm Bool.false_ne_true

end Coordinator

section Example

namespace Coordinator

open scoped StdSort

/-- A snapshot stays consumable over a refused mutation. -/
theorem eq_of_consumable_snapshot_refused :
    let c := sample rackEvents
    let c' := run cellStore.ops c [.submit declaration ⟨4⟩]
    ((ClusterSnapshot.capture c.canonical).validate c'.canonical).consumable = true ∧
      c'.canonical = c.canonical :=
  ⟨by decide +kernel,
    eq_of_consumable_snapshot (reachable_sample _) (persisting_sample _) (by decide +kernel) _
      (by decide +kernel)⟩

/-- A snapshot of two current racks. -/
theorem fresh_snapshot_usable_two :
    let s := (sample pairEvents).canonical
    isConsumableLifecycle s.lifecycle = true ∧
      ∀ rack record, s.racks.find? rack = some record → Presentable s rack record :=
  ⟨by decide +kernel, (ClusterSnapshot.fresh_snapshot_usable_iff (by decide +kernel)).mp
    (by decide +kernel)⟩

/-- The withdrawal of rack `r2` by its incarnation. -/
def withdrawal : MutationRequest :=
  { publishedRack "r2" "b2" with kind := .withdrawRack }

/-- A cluster that is consumable with a withdrawn rack has no usable snapshot. -/
theorem fresh_snapshot_stale :
    let s := (sample (pairEvents ++ [.submit withdrawal ⟨5⟩])).canonical
    let validation := (ClusterSnapshot.capture s).validate s
    s.lifecycle = .partialReady ∧ validation.reasons = [.rackRevalidationRequired] ∧
      validation.current = false ∧ validation.consumable = false := by
  decide +kernel

end Coordinator

end Example

end ClusterFabric
