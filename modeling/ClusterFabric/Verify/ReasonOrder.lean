import ClusterFabric.Verify.Views

/-! # The order of the stale reasons

`validate` and `validate_view` append a reason where they find it. The numbers of the
reasons do not follow the order of the findings: the wrong cluster comes first and has
the greatest number, the racks come after the domains and have smaller numbers, one rack
comes after another, and a rack that was added counts as a change of membership.

The findings fall into eight stretches, each with its range of numbers. Two stretches
whose ranges are in the order of the stretches never disturb the order; of two whose
ranges are the other way round, one has to be empty (`stale_reasons_increasing_iff`).
-/

namespace ClusterFabric

open Lib

variable {l l' : List SnapshotStaleReason} {low high : Nat}

/-! ## Stretches of a list -/

section Stretches

variable {α : Type} {number : α → Nat}

/-- All numbers lie between two bounds. -/
def Within (number : α → Nat) (low high : Nat) (l : List α) : Prop :=
  ∀ a ∈ l, low ≤ number a ∧ number a ≤ high

/-- Every number of the first stretch is below every number of the second. -/
def Before (number : α → Nat) (l l' : List α) : Prop :=
  ∀ a ∈ l, ∀ b ∈ l', number a < number b

theorem Within.before {low' high' : Nat} {l l' : List α} (h : Within number low high l)
    (h' : Within number low' high' l') (hlt : high < low') : Before number l l' := by
  intro a ha b hb
  have hhigh := (h a ha).2
  have hlow := (h' b hb).1
  omega

theorem Within.before_iff {low' high' : Nat} {l l' : List α} (h : Within number low high l)
    (h' : Within number low' high' l') (hle : high' ≤ low) :
    Before number l l' ↔ l = [] ∨ l' = [] := by
  constructor
  · intro hbefore
    by_contra hne
    rw [not_or] at hne
    obtain ⟨a, ha⟩ := List.exists_mem_of_ne_nil l hne.1
    obtain ⟨b, hb⟩ := List.exists_mem_of_ne_nil l' hne.2
    have hlow := (h a ha).1
    have hhigh := (h' b hb).2
    have hab := hbefore a ha b hb
    omega
  · rintro (rfl | rfl)
    · exact fun _ ha => nomatch ha
    · exact fun _ _ _ hb => nomatch hb

theorem pairwise_append_iff {l l' : List α} :
    ((l ++ l').Pairwise fun a b => number a < number b) ↔
      (l.Pairwise fun a b => number a < number b) ∧
        (l'.Pairwise fun a b => number a < number b) ∧ Before number l l' :=
  List.pairwise_append

theorem before_append_iff {l m n : List α} :
    Before number l (m ++ n) ↔ Before number l m ∧ Before number l n := by
  simp only [Before, List.mem_append, or_imp, forall_and]

theorem before_flatMap_iff {β : Type} {l : List α} {f : β → List α} {bs : List β} :
    Before number l (bs.flatMap f) ↔ ∀ b ∈ bs, Before number l (f b) := by
  simp only [Before, List.mem_flatMap]
  constructor
  · exact fun h b hb a ha c hc => h a ha c ⟨b, hb, hc⟩
  · rintro h a ha c ⟨b, hb, hc⟩
    exact h b hb a ha c hc

/-- A list that is made up of increasing pieces increases if the pieces follow each other. -/
theorem pairwise_flatMap_iff {β : Type} {f : β → List α} {bs : List β}
    (hf : ∀ b ∈ bs, (f b).Pairwise fun a b => number a < number b) :
    ((bs.flatMap f).Pairwise fun a b => number a < number b) ↔
      bs.Pairwise fun b c => Before number (f b) (f c) := by
  induction bs with
  | nil => simp
  | cons b bs ih =>
    rw [List.flatMap_cons, pairwise_append_iff, List.pairwise_cons, before_flatMap_iff,
      ih fun c hc => hf c (List.mem_cons_of_mem b hc)]
    exact ⟨fun h => ⟨h.2.2, h.2.1⟩, fun h => ⟨hf b (List.mem_cons_self ..), h.2, h.1⟩⟩

/-- A list of one number increases if it has at most one element. -/
theorem Within.pairwise_iff {n : Nat} {l : List α} (h : Within number n n l) :
    (l.Pairwise fun a b => number a < number b) ↔ l.length ≤ 1 := by
  constructor
  · intro hl
    match l, h, hl with
    | [], _, _ => exact Nat.zero_le 1
    | [_], _, _ => exact le_refl 1
    | a :: b :: _, h, hl =>
      have ha := h a (by simp)
      have hb := h b (by simp)
      have hab := List.rel_of_pairwise_cons hl (List.mem_cons_self ..)
      omega
  · intro hl
    match l, hl with
    | [], _ => exact .nil
    | [a], _ => exact List.pairwise_singleton ..

theorem flag_sublist (c : Prop) [Decidable c] (a : α) : (flag c a).Sublist [a] := by
  by_cases h : c
  · simp [flag, h]
  · simp [flag, h]

theorem flatMap_flag_sublist {β : Type} (c : β → Prop) [DecidablePred c] (f : β → α)
    (bs : List β) : (bs.flatMap fun b => flag (c b) (f b)).Sublist (bs.map f) := by
  induction bs with
  | nil => exact .slnil
  | cons b bs ih => exact (flag_sublist (c b) (f b)).append ih

end Stretches

/-! ## The stretches of the reasons -/

/-- The number of a reason. -/
abbrev SnapshotStaleReason.number (reason : SnapshotStaleReason) : Nat := Enumeration.raw reason

/-- The reasons are strictly increasing. -/
def Increasing (reasons : List SnapshotStaleReason) : Prop :=
  reasons.Pairwise fun a b => a.number < b.number

instance : DecidablePred Increasing := fun reasons =>
  inferInstanceAs (Decidable (reasons.Pairwise fun a b => a.number < b.number))

theorem Increasing.sublist (h : Increasing l') (hsub : l.Sublist l') : Increasing l :=
  List.Pairwise.sublist hsub h

theorem within_of_sublist (h : Within SnapshotStaleReason.number low high l')
    (hsub : l.Sublist l') : Within SnapshotStaleReason.number low high l :=
  fun a ha => h a (hsub.subset ha)

namespace Stretches

/-- The ranges of the stretches, and what is always in order. -/
structure Ranged (p : Stretches) : Prop where
  wrongCluster : p.wrongCluster.Sublist [.wrongCluster]
  epochs : p.epochs.Sublist
    [.clusterEpochAdvanced, .coordinatorEpochAdvanced, .clusterGenerationAdvanced]
  membership : p.membership.Sublist [.membershipChanged]
  topology : p.topology.Sublist [.topologyEpochSuperseded, .topologyGenerationAdvanced]
  domains : p.domains.Sublist
    [.placementDomainSuperseded, .capacityDomainSuperseded, .failureDomainSuperseded,
      .networkDomainSuperseded, .storageDomainSuperseded, .powerDomainSuperseded,
      .coolingDomainSuperseded, .linkDomainSuperseded, .connectivitySuperseded,
      .healthSuperseded]
  racks : Within SnapshotStaleReason.number 7 11 p.racks
  added : Within SnapshotStaleReason.number 4 4 p.added
  lifecycle : p.lifecycle.Sublist [.lifecycleNotConsumable]

/-- Where the order can be disturbed. -/
theorem Ranged.increasing_iff {p : Stretches} (h : p.Ranged) :
    Increasing p.all ↔
      (p.wrongCluster = [] ∨ p.epochs = [] ∧ p.membership = [] ∧ p.topology = [] ∧
        p.domains = [] ∧ p.racks = [] ∧ p.added = [] ∧ p.lifecycle = []) ∧
      (p.domains = [] ∨ p.racks = []) ∧ Increasing p.racks ∧ p.added.length ≤ 1 ∧
      (p.membership = [] ∧ p.topology = [] ∧ p.domains = [] ∧ p.racks = [] ∨ p.added = []) := by
  have hW : Within SnapshotStaleReason.number 23 23 p.wrongCluster :=
    within_of_sublist (by unfold Within; decide) h.wrongCluster
  have hE : Within SnapshotStaleReason.number 1 3 p.epochs :=
    within_of_sublist (by unfold Within; decide) h.epochs
  have hM : Within SnapshotStaleReason.number 4 4 p.membership :=
    within_of_sublist (by unfold Within; decide) h.membership
  have hT : Within SnapshotStaleReason.number 5 6 p.topology :=
    within_of_sublist (by unfold Within; decide) h.topology
  have hD : Within SnapshotStaleReason.number 12 21 p.domains :=
    within_of_sublist (by unfold Within; decide) h.domains
  have hB := h.racks
  have hA := h.added
  have hL : Within SnapshotStaleReason.number 22 22 p.lifecycle :=
    within_of_sublist (by unfold Within; decide) h.lifecycle
  have hWs : Increasing p.wrongCluster := (List.pairwise_singleton _ _).sublist h.wrongCluster
  have hEs : Increasing p.epochs := Increasing.sublist (by unfold Increasing; decide) h.epochs
  have hMs : Increasing p.membership := (List.pairwise_singleton _ _).sublist h.membership
  have hTs : Increasing p.topology := Increasing.sublist (by unfold Increasing; decide) h.topology
  have hDs : Increasing p.domains := Increasing.sublist (by unfold Increasing; decide) h.domains
  have hLs : Increasing p.lifecycle := (List.pairwise_singleton _ _).sublist h.lifecycle
  unfold Increasing at *
  simp only [all, stale, List.append_assoc, pairwise_append_iff, before_append_iff, hWs, hEs, hMs,
    hTs, hDs, hLs, true_and]
  -- ranges in the order of the stretches
  simp only [hE.before hM (by decide), hE.before hT (by decide), hE.before hD (by decide),
    hE.before hB (by decide), hE.before hA (by decide), hE.before hL (by decide),
    hM.before hT (by decide), hM.before hD (by decide), hM.before hB (by decide),
    hM.before hL (by decide), hT.before hD (by decide), hT.before hB (by decide),
    hT.before hL (by decide), hD.before hL (by decide), hB.before hL (by decide),
    hA.before hL (by decide), true_and, and_true]
  -- of the others one is empty
  rw [hW.before_iff hE (by decide), hW.before_iff hM (by decide), hW.before_iff hT (by decide),
    hW.before_iff hD (by decide), hW.before_iff hB (by decide), hW.before_iff hA (by decide),
    hW.before_iff hL (by decide), hM.before_iff hA (by decide), hT.before_iff hA (by decide),
    hD.before_iff hB (by decide), hD.before_iff hA (by decide), hB.before_iff hA (by decide),
    hA.pairwise_iff]
  simp only [or_and_left, and_or_right]
  constructor
  · rintro ⟨⟨⟨⟨⟨hracks, hadded, hBA⟩, hDB, hDA⟩, hTA⟩, hMA⟩, hwrong⟩
    exact ⟨hwrong, hDB, hracks, hadded, hMA, hTA, hDA, hBA⟩
  · rintro ⟨hwrong, hDB, hracks, hadded, hMA, hTA, hDA, hBA⟩
    exact ⟨⟨⟨⟨⟨hracks, hadded, hBA⟩, hDB, hDA⟩, hTA⟩, hMA⟩, hwrong⟩

end Stretches

namespace SnapshotView

open ClusterSnapshot (stale supersededReason)

theorem compareBinding_increasing (s : ClusterState) (binding : RackGenerationBinding) :
    Increasing ((compareBinding s binding).map Prod.fst) ∧
      Within SnapshotStaleReason.number 7 11 ((compareBinding s binding).map Prod.fst) := by
  have hcases : ((compareBinding s binding).map Prod.fst).Sublist
        [.rackGenerationSuperseded, .rackWithdrawn, .rackBootFenced, .rackRevalidationRequired] ∨
      ((compareBinding s binding).map Prod.fst).Sublist [.rackRetired] := by
    unfold compareBinding
    cases s.racks.find? binding.rack with
    | none => exact .inl (by simp)
    | some record =>
      cases hretired : s.isRackRetired binding.rack with
      | true => exact .inr (by simp)
      | false =>
        left
        simp only [Bool.false_eq_true, if_false, List.map_append, map_fst_flag, List.append_assoc]
        exact (flag_sublist _ _).append ((flag_sublist _ _).append
          ((flag_sublist _ _).append (flag_sublist _ _)))
  rcases hcases with hsub | hsub
  · exact ⟨.sublist (by unfold Increasing; decide) hsub,
      within_of_sublist (by unfold Within; decide) hsub⟩
  · exact ⟨.sublist (by unfold Increasing; decide) hsub,
      within_of_sublist (by unfold Within; decide) hsub⟩

theorem stretches_ranged (view : SnapshotView) (changed : Prop) [Decidable changed]
    (s : ClusterState) : (view.stretches changed s).Ranged where
  wrongCluster := flag_sublist _ _
  epochs := ((flag_sublist _ _).append (flag_sublist _ _)).append (flag_sublist _ _)
  membership := flag_sublist _ _
  topology := by
    change List.Sublist (if _ then _ else _) _
    split_ifs
    · exact (flag_sublist _ _).trans (by decide)
    · exact (flag_sublist _ _).trans (by decide)
  domains :=
    ((flatMap_flag_sublist _ supersededReason DomainKind.all).append (flag_sublist _ _)).append
      (flag_sublist _ _)
  racks := by
    intro reason hreason
    obtain ⟨binding, -, hmem⟩ := List.mem_flatMap.mp hreason
    exact (compareBinding_increasing s binding).2 reason hmem
  added := by
    intro reason hreason
    obtain ⟨entry, -, hmem⟩ := List.mem_flatMap.mp hreason
    rw [(mem_flag.mp hmem).2]
    decide
  lifecycle := flag_sublist _ _

section Empty

variable (view : SnapshotView) (changed : Prop) [Decidable changed] (s : ClusterState)

theorem increasing_racks_iff :
    Increasing (view.stretches changed s).racks ↔
      view.rackBindings.Pairwise fun first second =>
        ∀ m, Lags s first m → ∀ n, Lags s second n → m.number < n.number := by
  have hpieces := @pairwise_flatMap_iff _ SnapshotStaleReason.number _
    (fun binding => (compareBinding s binding).map Prod.fst) view.rackBindings
    fun binding _ => (compareBinding_increasing s binding).1
  refine hpieces.trans (List.Pairwise.iff fun first second => ?_)
  simp only [Before, mem_compareBinding_iff]

theorem length_added_le_iff :
    (view.stretches changed s).added.length ≤ 1 ↔
      ∀ rack, view.Unbound s rack → ∀ other, view.Unbound s other → rack = other := by
  rw [added_eq, List.length_map]
  simp only [← mem_added_iff]
  have hnodup : (s.racks.keys.filter fun rack =>
      !view.rackBindings.any fun binding => binding.rack == rack).Nodup :=
    (s.racks.keys_sorted.imp fun hlt => hlt.ne).filter _
  revert hnodup
  generalize (s.racks.keys.filter fun rack =>
    !view.rackBindings.any fun binding => binding.rack == rack) = added
  intro hnodup
  match added, hnodup with
  | [], _ => simp
  | [rack], _ => simp
  | rack :: other :: rest, hnodup =>
    constructor
    · intro hlength
      simp at hlength
    · intro h
      have heq := h rack (by simp) other (by simp)
      exact absurd heq (List.rel_of_pairwise_cons hnodup (List.mem_cons_self ..))

end Empty

/-- The findings come in the order of their numbers. -/
structure InOrder (view : SnapshotView) (changed : Prop) (s : ClusterState) : Prop where
  /-- Another cluster's view agrees in everything else. -/
  cluster : view.cluster = s.id ∨
    view.EpochsAgree s ∧ ¬changed ∧ view.TopologyAgrees s ∧ view.DomainsAgree s ∧
      (∀ binding ∈ view.rackBindings, ∀ reason, ¬Lags s binding reason) ∧
      (∀ rack, ¬view.Unbound s rack) ∧ isConsumableLifecycle s.lifecycle = true
  /-- Either the domains agree or the racks do. -/
  domains : view.DomainsAgree s ∨
    ∀ binding ∈ view.rackBindings, ∀ reason, ¬Lags s binding reason
  /-- What a later rack lags behind in has a greater number. -/
  racks : view.rackBindings.Pairwise fun first second =>
    ∀ m, Lags s first m → ∀ n, Lags s second n → m.number < n.number
  /-- At most one rack was added. -/
  added : ∀ rack, view.Unbound s rack → ∀ other, view.Unbound s other → rack = other
  /-- If one was added, nothing else from the membership on has changed. -/
  alone : ¬changed ∧ view.TopologyAgrees s ∧ view.DomainsAgree s ∧
      (∀ binding ∈ view.rackBindings, ∀ reason, ¬Lags s binding reason) ∨
    ∀ rack, ¬view.Unbound s rack

theorem increasing_stretches_iff (view : SnapshotView) (changed : Prop) [Decidable changed]
    (s : ClusterState) : Increasing (view.stretches changed s).all ↔ view.InOrder changed s := by
  rw [(view.stretches_ranged changed s).increasing_iff, wrongCluster_eq_nil_iff,
    membership_eq_nil_iff, lifecycle_eq_nil_iff, epochs_eq_nil_iff, topology_eq_nil_iff,
    domains_eq_nil_iff, racks_eq_nil_iff,
    increasing_racks_iff, length_added_le_iff, added_eq_nil_iff]
  exact ⟨fun ⟨h₁, h₂, h₃, h₄, h₅⟩ => ⟨h₁, h₂, h₃, h₄, h₅⟩,
    fun ⟨h₁, h₂, h₃, h₄, h₅⟩ => ⟨h₁, h₂, h₃, h₄, h₅⟩⟩

end SnapshotView

/-- The reasons of both validations are strictly increasing exactly when the findings come in
the order of their numbers. -/
theorem stale_reasons_increasing_iff [StdSort] (digest : ClusterState → Text)
    (current : ClusterState) :
    (∀ snapshot : ClusterSnapshot,
      Increasing (snapshot.validate current).reasons ↔
        ∀ bound, snapshot.state = some bound →
          (SnapshotView.fromSnapshot digest snapshot).InOrder
            (bound.membershipGeneration ≠ current.membershipGeneration ∨
              bound.racks.size ≠ current.racks.size) current) ∧
    ∀ view : SnapshotView,
      Increasing (view.validateView current).reasons ↔
        view.InOrder (view.membershipGeneration ≠ current.membershipGeneration) current := by
  constructor
  · intro snapshot
    cases hstate : snapshot.state with
    | none =>
      have hreasons : (snapshot.validate current).reasons = [] := by
        rw [ClusterSnapshot.validate, hstate]
      rw [hreasons]
      exact ⟨fun _ bound h => absurd h (Option.some_ne_none bound).symm, fun _ => .nil⟩
    | some bound =>
      rw [SnapshotView.reasons_validate digest current hstate,
        SnapshotView.increasing_stretches_iff]
      refine ⟨fun h _ heq => ?_, fun h => h bound rfl⟩
      obtain rfl := Option.some.inj heq
      exact h
  · intro view
    rw [SnapshotView.reasons_validateView, SnapshotView.increasing_stretches_iff]

section Example

open scoped StdSort
open Coordinator

/-- The racks of a cluster, before and after one of them reports its health and is published at
its next generation. -/
def racked : ClusterState :=
  (sample rackEvents).canonical

def superseded : ClusterState :=
  let report : MutationRequest :=
    { publishedRack "r1" "b1" with
      kind := .publishHealthCurrentness
      authority.rack := some (.named "r1")
      evidence := .make .reported ⟨4⟩ 0
      health := .healthy }
  let next : MutationRequest :=
    { publishedRack "r1" "b1" with rackReference.generation := .fromRaw 2 }
  (sample (rackEvents ++ [.submit report ⟨4⟩,
    .submit next ⟨5⟩])).canonical

/-- The generation of the rack is reported after the health and has a smaller number. -/
theorem stale_reasons_unsorted :
    ¬Increasing ((ClusterSnapshot.capture racked).validate superseded).reasons ∧
      ¬Increasing (viewVerdict racked superseded).reasons := by
  decide +kernel

end Example

end ClusterFabric
