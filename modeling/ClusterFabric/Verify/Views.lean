import ClusterFabric.Verify.Snapshots

/-! # The wire view of a snapshot

A peer keeps a view of a snapshot and has it validated later. `validate_view` is written
apart from `validate`, and differs from it in two places: it adds the lifecycle reason
before it decides whether the view is current, and it does not compare the number of
racks. Everything else is reason for reason the same (`view_agrees_iff`).
-/

namespace ClusterFabric

open Lib

variable {reason : SnapshotStaleReason}

/-- Two validations give the same verdict. -/
structure SnapshotValidation.Agrees (v w : SnapshotValidation) : Prop where
  current : v.current = w.current
  consumable : v.consumable = w.consumable
  reasons : ∀ reason, reason ∈ v.reasons ↔ reason ∈ w.reasons

namespace SnapshotView

open ClusterSnapshot (capture supersededReason Unmoved unbound_capture_iff stale_capture_iff
  current_capture_iff)

variable (digest : ClusterState → Text) (bound current : ClusterState)

/-- Some rack of the snapshot is gone, while the membership generation is the
same and no rack was added. -/
structure RacksLost : Prop where
  generation : bound.membershipGeneration = current.membershipGeneration
  size : bound.racks.size ≠ current.racks.size
  none_added : ∀ rack, current.racks.contains rack = true → bound.racks.contains rack = true

section Reasons

variable (view : SnapshotView) (changed : Prop) [Decidable changed] (s : ClusterState)

/-- When the membership is reported to have changed. -/
theorem membershipChanged_mem_iff :
    .membershipChanged ∈ (view.stretches changed s).all ↔
      changed ∨ ∃ rack, view.Unbound s rack := by
  have hkinds : ∀ k, SnapshotStaleReason.membershipChanged ≠ supersededReason k := by
    intro k
    cases k <;> decide
  have htopology : .membershipChanged ∉ (view.stretches changed s).topology := by
    change _ ∉ ite _ _ _
    split_ifs <;> simp [mem_flag]
  have hdomains : .membershipChanged ∉ (view.stretches changed s).domains := by
    simp [stretches, mem_flag, hkinds]
  have hracks : .membershipChanged ∉ (view.stretches changed s).racks := by
    intro hmem
    obtain ⟨binding, -, hlags⟩ := List.mem_flatMap.mp hmem
    exact (mem_compareBinding_iff s binding _).mp hlags
  have hadded : .membershipChanged ∈ (view.stretches changed s).added ↔
      ∃ rack, view.Unbound s rack := by
    rw [added_eq]
    simp [← mem_added_iff]
  simp only [Stretches.all, Stretches.stale, List.mem_append, htopology, hdomains, hracks, hadded]
  simp [stretches, mem_flag]

/-- Every other reason is reported whether or not the membership has changed. -/
theorem mem_all_congr (changed' : Prop) [Decidable changed']
    (hreason : reason ≠ .membershipChanged) :
    reason ∈ (view.stretches changed s).all ↔ reason ∈ (view.stretches changed' s).all := by
  have hmembership : ∀ (c : Prop) [Decidable c], reason ∉ (view.stretches c s).membership :=
    fun c _ hmem => hreason (mem_flag.mp hmem).2
  simp only [Stretches.all, Stretches.stale, List.mem_append, hmembership]
  rfl

end Reasons

/-- The reasons are the same set unless racks were lost. -/
theorem reasons_agree_iff [StdSort] :
    (∀ reason, reason ∈ ((fromSnapshot digest (capture bound)).validateView current).reasons ↔
        reason ∈ ((capture bound).validate current).reasons) ↔ ¬ RacksLost bound current := by
  rw [reasons_validateView, reasons_validate digest current rfl]
  constructor
  · intro h hlost
    have hmem := (h .membershipChanged).mpr
      ((membershipChanged_mem_iff _ _ _).mpr (.inl (.inr hlost.size)))
    rcases (membershipChanged_mem_iff _ _ _).mp hmem with hne | ⟨rack, hunbound⟩
    · exact hne hlost.generation
    · obtain ⟨hrack, hnot⟩ := (unbound_capture_iff digest).mp hunbound
      exact absurd (hnot.symm.trans (hlost.none_added rack hrack)) Bool.false_ne_true
  · intro h reason
    by_cases hreason : reason = .membershipChanged
    · subst hreason
      rw [membershipChanged_mem_iff, membershipChanged_mem_iff]
      refine ⟨Or.imp_left .inl, ?_⟩
      rintro ((hne | hsize) | hunbound)
      · exact .inl hne
      · by_contra hnone
        rw [not_or, not_exists] at hnone
        refine h ⟨not_not.mp hnone.1, hsize, fun rack hrack => ?_⟩
        by_contra hnot
        exact hnone.2 rack ((unbound_capture_iff digest).mpr ⟨hrack, Bool.not_eq_true _ ▸ hnot⟩)
      · exact .inr hunbound
    · exact mem_all_congr _ _ _ _ hreason

/-- **The view and the snapshot give one verdict** exactly when the lifecycle is
not the only thing against the snapshot, and no racks were lost. -/
theorem view_agrees_iff [StdSort] :
    ((fromSnapshot digest (capture bound)).validateView current).Agrees
        ((capture bound).validate current) ↔
      ¬ (Unmoved bound current ∧ isConsumableLifecycle current.lifecycle = false) ∧
        ¬ RacksLost bound current := by
  have hcurrent : ((capture bound).validate current).current = true ↔ Unmoved bound current :=
    current_capture_iff
  have hview : ((fromSnapshot digest (capture bound)).validateView current).current = true ↔
      Unmoved bound current ∧ isConsumableLifecycle current.lifecycle = true := by
    rw [current_validateView, reasons_validateView, List.isEmpty_iff, all_eq_nil_iff]
    exact and_congr_left' (stale_capture_iff digest id .inl)
  rw [← reasons_agree_iff digest]
  constructor
  · intro h
    refine ⟨?_, h.reasons⟩
    rintro ⟨hunmoved, hnot⟩
    have hsame := (hview.mp (h.current.trans (hcurrent.mpr hunmoved))).2
    exact absurd (hnot.symm.trans hsame) Bool.false_ne_true
  · rintro ⟨hnot, hreasons⟩
    have hsame : ((fromSnapshot digest (capture bound)).validateView current).current =
        ((capture bound).validate current).current := by
      rw [Bool.eq_iff_iff, hview, hcurrent]
      refine ⟨And.left, fun hunmoved => ⟨hunmoved, ?_⟩⟩
      exact Bool.not_eq_false _ ▸ fun hlifecycle => hnot ⟨hunmoved, hlifecycle⟩
    exact ⟨hsame, by rw [consumable_validateView, consumable_validate, hsame], hreasons⟩

end SnapshotView

section Example

namespace Coordinator

open scoped StdSort

/-- The registration of rack `r1` by an incarnation. -/
def registration : MutationRequest where
  kind := .registerRackPublisher
  cluster := .named "alpha"
  authority :=
    { clusterEpoch := .fromRaw 1
      coordinatorEpoch := .fromRaw 2
      boot := some (.named "b1")
      publisher := some (.named "agent")
      rack := some (.named "r1")
      rackGeneration := some (.fromRaw 1) }

/-- A coordinator that does not save its commits, with one registered rack. -/
def registered : Coordinator (Option PersistedState) :=
  run cellStore.ops
    (start cellStore.ops { cluster := .named "alpha", persistOnCommit := false }
      (some none) ⟨1⟩)
    [.submit declaration ⟨2⟩, .submit registration ⟨3⟩]

/-- It has forgotten the rack after a restart. -/
def forgotten : Coordinator (Option PersistedState) :=
  run cellStore.ops registered [.restart ⟨4⟩, .submit declaration ⟨5⟩]

/-- The validation of a view. The digest plays no part in it. -/
def viewVerdict (bound current : ClusterState) : SnapshotValidation :=
  (SnapshotView.fromSnapshot (fun _ => []) (.capture bound)).validateView current

/-- A cluster without racks is declared only. A view of it is stale against the
very state it was taken of, where the snapshot is current. A rack that was
registered and then forgotten changes the membership for the snapshot, and not for
the view. -/
theorem view_disagrees :
    ((viewVerdict (sample [.submit declaration ⟨2⟩]).canonical
          (sample [.submit declaration ⟨2⟩]).canonical).current = false ∧
        ((ClusterSnapshot.capture (sample [.submit declaration ⟨2⟩]).canonical).validate
          (sample [.submit declaration ⟨2⟩]).canonical).current = true) ∧
      SnapshotStaleReason.membershipChanged ∉
          (viewVerdict registered.canonical forgotten.canonical).reasons ∧
        SnapshotStaleReason.membershipChanged ∈
          ((ClusterSnapshot.capture registered.canonical).validate
            forgotten.canonical).reasons := by
  decide +kernel

end Coordinator

end Example

end ClusterFabric
