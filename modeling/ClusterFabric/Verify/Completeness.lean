import ClusterFabric.Verify.Exits
import ClusterFabric.Verify.Filing

/-! # The gates are complete

What a gate lets through satisfies the invariants, for every kind of mutation but
declarations, admissions, generation updates, recoveries and health publications
(`gates_complete`). The argument needs more than the checked invariants: a mutation
advances a generation before the cluster generation is advanced, so that the gap between
them is strict in every state between two requests (`Paced`).
-/

namespace ClusterFabric

open Lib

variable {s s' : ClusterState} {now : Timestamp} {request : MutationRequest}
  {config : CoordinatorConfig}

/-! ## Counters -/

/-- The scalars of a declared cluster when the checker sees them. -/
structure Timed (s : ClusterState) : Prop where
  coordinatorEpoch : s.coordinatorEpoch.known = true
  membershipGeneration : s.membershipGeneration.known = true
  topologyEpoch : s.topologyEpoch.known = true
  topologyGeneration : s.topologyGeneration.known = true
  recordEpoch : s.topologyRecord.epoch = s.topologyEpoch
  recordGeneration : s.topologyRecord.generation = s.topologyGeneration
  membership_le : s.membershipGeneration.value ≤ s.generation.value
  topology_le : s.topologyGeneration.value ≤ s.generation.value
  snapshot_le : s.snapshotGeneration.value ≤ s.publicationGeneration.value

/-- The same between two requests, when the cluster generation is ahead. -/
structure Paced (s : ClusterState) : Prop extends Timed s where
  membership_lt : s.membershipGeneration.value < s.generation.value
  topology_lt : s.topologyGeneration.value < s.generation.value

theorem Timed.scalarsOk (h : Timed s) (hid : s.id.isEmpty = false) (hepoch : s.epoch.known = true) :
    ScalarsOk s where
  id_nonempty := hid
  epoch := hepoch
  coordinatorEpoch := h.coordinatorEpoch
  generation := StrongCounter.known_iff.mpr
    ((StrongCounter.known_iff.mp h.membershipGeneration).trans_le h.membership_le)
  membershipGeneration := h.membershipGeneration
  topologyEpoch := h.topologyEpoch
  topologyGeneration := h.topologyGeneration
  recordEpoch := h.recordEpoch
  recordGeneration := h.recordGeneration
  membership_le := h.membership_le
  topology_le := h.topology_le

namespace Coordinator

section Requests

variable [StdSort]

/-- A mutation of a declared cluster advances a generation by one at most. -/
theorem timed_of_applied (hpaced : Paced s) (hdeclared : s.epoch.known = true)
    (happlied : Applied config now s request s') : Timed s' := by
  have htimed := hpaced.toTimed
  have hmembership {m : MembershipGeneration} (hm : s.membershipGeneration.next = some m) :
      m.known = true ∧ m.value ≤ s.generation.value := by
    have hlt := hpaced.membership_lt
    refine ⟨StrongCounter.known_of_next hm, ?_⟩
    rw [StrongCounter.next_eq_some] at hm
    omega
  have htopology {t : TopologyGeneration} (ht : s.topologyGeneration.next = some t) :
      t.known = true ∧ t.value ≤ s.generation.value := by
    have hlt := hpaced.topology_lt
    refine ⟨StrongCounter.known_of_next ht, ?_⟩
    rw [StrongCounter.next_eq_some] at ht
    omega
  cases happlied
  case declared hundeclared => simp [hdeclared] at hundeclared
  case admitted hstamp =>
    split_ifs at hstamp
    · exact { htimed with
        membershipGeneration := (hmembership hstamp).1
        membership_le := (hmembership hstamp).2 }
    · subst hstamp
      exact { htimed with }
  case updated hm | moved hm | recovered hm =>
    exact { htimed with
      membershipGeneration := (hmembership hm).1
      membership_le := (hmembership hm).2 }
  case domainPublished ht | linkPublished ht _ | linkWithdrawn ht _ =>
    exact { htimed with
      topologyGeneration := (htopology ht).1
      topology_le := (htopology ht).2
      recordGeneration := rfl }
  case superseded hnewer ht _ =>
    have htarget := StrongCounter.known_iff.mpr
      ((StrongCounter.known_iff.mp htimed.topologyEpoch).trans hnewer)
    exact { htimed with
      topologyEpoch := htarget
      topologyGeneration := (htopology ht).1
      topology_le := (htopology ht).2
      recordEpoch := rfl
      recordGeneration := rfl }
  case snapshotPublished hg hq =>
    have hle := htimed.snapshot_le
    rw [StrongCounter.next_eq_some] at hg hq
    exact { htimed with snapshot_le := by dsimp only; omega }
  all_goals exact { htimed with }

/-- A commit puts the cluster generation ahead again. -/
theorem paced_committed (h : Timed s) {g : ClusterGeneration} (hg : s.generation.next = some g)
    (now : Timestamp) : Paced (committed s g now) := by
  rw [StrongCounter.next_eq_some] at hg
  have hmembership : s.membershipGeneration.value < g.value := by
    have hle := h.membership_le
    omega
  have htopology : s.topologyGeneration.value < g.value := by
    have hle := h.topology_le
    omega
  exact { h with
    membership_le := hmembership.le
    topology_le := htopology.le
    membership_lt := hmembership
    topology_lt := htopology }

omit [StdSort] in
theorem timed_declaredState (hepoch : s.coordinatorEpoch.known = true) (request : MutationRequest)
    (now : Timestamp) : Timed (declaredState s request now) where
  coordinatorEpoch := by
    unfold declaredState
    dsimp only
    split_ifs with hknown
    · exact hknown
    · exact hepoch
  membershipGeneration := rfl
  topologyEpoch := rfl
  topologyGeneration := rfl
  recordEpoch := rfl
  recordGeneration := rfl
  membership_le := le_refl _
  topology_le := le_refl _
  snapshot_le := le_refl _

/-- The coordinator epoch is known from the start, and the scalars of a declared
cluster are paced. -/
structure Steady (s : ClusterState) : Prop where
  coordinatorEpoch : s.coordinatorEpoch.known = true
  paced : s.epoch.known = true → Paced s

theorem inductive_steady : clusterSystem.Inductive Steady where
  initial := by
    rintro _ ⟨config, epoch, hepoch, rfl⟩
    refine ⟨hepoch, fun hdeclared => ?_⟩
    exact absurd hdeclared (clusterSystem.undeclared_of_initial ⟨config, epoch, hepoch, rfl⟩)
  evolves := by
    rintro s _ hsteady
      (⟨hauthorized, happlied, -, hnext⟩ | ⟨reason, fencedAt, now, hdeclared, -, hg, -⟩)
    · rename_i config now request s₁ g
      have htimed : Timed s₁ := by
        cases hepoch : s.epoch.known with
        | false =>
          obtain ⟨-, rfl⟩ := applied_undeclared hauthorized hepoch happlied
          exact timed_declaredState hsteady.coordinatorEpoch _ _
        | true => exact timed_of_applied (hsteady.paced hepoch) hepoch happlied
      exact ⟨htimed.coordinatorEpoch, fun _ => paced_committed htimed hnext now⟩
    · rename_i boot g h
      have hpaced := paced_committed (hsteady.paced hdeclared).toTimed hg now
      rw [fencedState_eq]
      exact ⟨hsteady.coordinatorEpoch, fun _ => { hpaced with }⟩
  slips := by
    rintro s _ hsteady ⟨request, hother, rfl⟩
    refine ⟨hsteady.coordinatorEpoch, fun hdeclared => ?_⟩
    exact absurd (hother.undeclared.symm.trans hdeclared) Bool.false_ne_true
  recovers := by
    rintro s _ hsteady ⟨epoch, now, hepoch, rfl⟩
    refine ⟨hepoch, fun hdeclared => ?_⟩
    exact { hsteady.paced hdeclared with coordinatorEpoch := hepoch }

/-! ## Completed mutations pass the check -/

/-- The kinds whose gates are complete. -/
def Gated (kind : MutationKind) : Prop :=
  kind ∉ [.unknown, .declareCluster, .addRack, .updateRackGeneration, .recoverRack,
    .publishHealthCurrentness]

/-- The limits of a configuration are at most the hard limits. -/
structure WithinHardLimits (config : CoordinatorConfig) : Prop where
  racks : config.maxRacks ≤ maxRacksPerCluster
  links : config.maxLinks ≤ maxInterRackLinks
  domains : config.maxDomainsPerClass ≤ maxDomainsPerClass
  constraints : config.maxConstraints ≤ maxConstraints

omit [StdSort] in
theorem membershipTarget_ne {kind : MutationKind} {target : RackMembershipState}
    (h : kind.membershipTarget = some target) : target ≠ .active ∧ target ≠ .unknown := by
  cases kind
  case markRackUnavailable | withdrawRack | retireRack =>
    obtain rfl := Option.some.inj h
    exact ⟨nofun, nofun⟩
  all_goals exact nomatch h

/-- A mutation of a gated kind leaves its records in order. -/
theorem filed_of_applied (hfiled : Filed s) (hlimits : WithinHardLimits config)
    (hgated : Gated request.kind) (happlied : Applied config now s request s') : Filed s' := by
  have hle {tag : CounterTag} {a b : StrongCounter tag} (hnext : a.next = some b) :
      a.value ≤ b.value := StrongCounter.le_of_next hnext
  cases happlied
  case registered hfind hroom hgeneration =>
    exact hfiled.registered hfind hroom hlimits.racks hgeneration
  case moved hkind hfind hboot hchange hretired hm =>
    obtain ⟨hactive, hunknown⟩ := membershipTarget_ne hkind
    exact hfiled.moved now request.reason hfind hactive hunknown (hle hm)
  case evidenceWithdrawn g hkind hfind hlinks hh =>
    exact hfiled.reported g hfind rfl (hfiled.rackOk_withdrawnEvidence hfind) hlinks
      fun _ id link hlink _ => hfiled.linkOk_withdrawnEvidence hlink
  case domainPublished hkind hpayload hok hdomain hover hroom haggregate ht =>
    subst hdomain
    exact hfiled.domainPublished _ hok hroom hlimits.domains haggregate (hle ht)
  case constrained g hkind hpayload hok hover hroom hg =>
    exact hfiled.constrained g hok hroom hlimits.constraints
  case linkPublished hkind hpayload hok hover hroom ht hc =>
    exact hfiled.linkPublished _ _ hok hroom hlimits.links (hle ht)
  case linkWithdrawn id t c hkind hid hfind ht hc => exact hfiled.linkWithdrawn id c _ (hle ht)
  case superseded target t c hkind htarget hnewer ht hc =>
    exact hfiled.superseded target c _ (hle ht)
  case snapshotPublished =>
    refine KeepsRacks.filed_of_records ?_ hfiled rfl rfl rfl rfl rfl
    exact ⟨rfl, rfl, rfl, rfl, rfl, le_refl _, fun _ hid => hid⟩
  case revalidated => exact hfiled
  case clusterRetired => exact hfiled.clusterRetired
  all_goals simp_all [Gated]

/-- A mutation that keeps records and scalars in order passes the check. -/
theorem healthy_reevaluate (hfiled : Filed s) (htimed : Timed s) (hid : s.id.isEmpty = false)
    (hepoch : s.epoch.known = true)
    (hretired : s.lifecycle = .retired → ∀ rack record, s.racks.find? rack = some record →
      record.authoritativeCurrent = false) : Healthy (reevaluate s) := by
  have hsame : Filed (reevaluate s) := by
    refine KeepsRacks.filed_of_records ?_ hfiled rfl rfl rfl rfl rfl
    exact ⟨rfl, rfl, rfl, rfl, rfl, le_refl _, fun _ hid => hid⟩
  have htimed' : Timed (reevaluate s) := { htimed with }
  exact
    { hsame with
      scalars := htimed'.scalarsOk hid hepoch
      ready := satisfied_of_ready
      retired := fun hlifecycle => hretired (retired_reevaluate.mp hlifecycle)
      snapshot_le := htimed.snapshot_le }

/-- Only the retirement of the cluster retires it, and it leaves no authority. -/
theorem unauthorized_of_retired (hkind : request.kind ≠ .declareCluster)
    (haccepts : acceptsMutations s.lifecycle = true) (happlied : Applied config now s request s')
    (hretired : s'.lifecycle = .retired) (rack : RackId) (record : RackRecord)
    (hfind : s'.racks.find? rack = some record) : record.authoritativeCurrent = false := by
  have hlive : s.lifecycle ≠ .retired := by
    intro hlifecycle
    rw [hlifecycle] at haccepts
    exact absurd haccepts Bool.false_ne_true
  cases happlied
  case declared hdeclare _ => exact absurd hdeclare hkind
  case redeclared hdeclare _ _ => exact absurd hdeclare hkind
  case clusterRetired =>
    dsimp only at hfind
    rw [StdMap.find?_updateWhere, Option.map_eq_some_iff] at hfind
    obtain ⟨record₀, -, rfl⟩ := hfind
    split_ifs with hcurrent
    · rfl
    · exact Bool.not_eq_true _ ▸ hcurrent
  all_goals exact absurd hretired hlive

/-- What a gate lets through satisfies the invariants. -/
theorem verified_of_applied (hsound : Sound s) (hsteady : Steady s)
    (hlimits : WithinHardLimits config) (hgated : Gated request.kind)
    (hauthorized : Authorized s request) (happlied : Applied config now s request s') :
    (checkInvariants (reevaluate s') none).isOk = true := by
  have hkind : request.kind ≠ .declareCluster := by
    intro hdeclare
    simp [Gated, hdeclare] at hgated
  have hcurrent := hauthorized.current hkind
  have hid : s.id.isEmpty = false := by
    have hvalid := hauthorized.cluster_valid
    rw [← hcurrent.cluster_eq, StrongId.isEmpty_eq_not_isValid, hvalid]
    rfl
  have hid' : s'.id.isEmpty = false := by
    cases happlied
    case declared hdeclare _ => exact absurd hdeclare hkind
    all_goals exact hid
  refine checkInvariants_isOk.mpr (.inr (healthy_reevaluate ?_ ?_ hid' ?_ ?_))
  · exact filed_of_applied hsound.filed hlimits hgated happlied
  · exact timed_of_applied (hsteady.paced hcurrent.declared) hcurrent.declared happlied
  · exact epoch_known_of_applied hauthorized happlied
  · exact unauthorized_of_retired hkind hcurrent.accepts happlied

/-! ## Answers -/

section Answers

variable {σ : Type} (ops : PersistenceStore σ) {c : Coordinator σ}

/-- A commit that passes the check does not answer that it failed. -/
theorem reason_commitChanged (c : Coordinator σ) (request : MutationRequest) (now : Timestamp)
    {journal : StateJournal}
    (hok : (checkInvariants (reevaluate journal.state) none).isOk = true) :
    (commitChanged ops c request now journal acceptedChange).2.reason ≠ .invariantViolation := by
  have hshape := commitChanged_shape ops c request now journal acceptedChange
  generalize commitChanged ops c request now journal acceptedChange = out at hshape ⊢
  cases hshape with
  | saved => exact nofun
  | @refused _ _ _ failure _ _ _ _ hverified =>
    change failure.reason ≠ _
    rcases hverified hok with hreason | hreason <;> simp [hreason]

/-- A commit is accepted exactly when its state passes the check, the cluster generation
can be advanced and the store does not refuse. -/
theorem outcome_commitChanged (c : Coordinator σ) (request : MutationRequest) (now : Timestamp)
    (journal : StateJournal) :
    (commitChanged ops c request now journal acceptedChange).2.outcome = .accepted ∧
        (checkInvariants (reevaluate journal.state) none).isOk = true ∧
        (∃ g, journal.state.generation.next = some g ∧
          ¬SaveRefused ops c.config c.store (committed journal.state g now)) ∨
      (commitChanged ops c request now journal acceptedChange).2.outcome = .rejected ∧
        ((checkInvariants (reevaluate journal.state) none).isOk = true →
          ∀ g, journal.state.generation.next = some g →
            SaveRefused ops c.config c.store (committed journal.state g now)) := by
  have hcases := commitChanged_cases ops c request now journal acceptedChange
  generalize commitChanged ops c request now journal acceptedChange = out at hcases ⊢
  cases hcases with
  | accepted houtcome hcommitted =>
    exact .inl ⟨houtcome, hcommitted.isOk, _, hcommitted.next, hcommitted.notRefused⟩
  | refused houtcome _ hwhy => exact .inr ⟨houtcome, fun hok g hg => hwhy g hok hg⟩

/-- A commit answers that the invariants are violated exactly when they are. -/
theorem violated_commitChanged (c : Coordinator σ) (request : MutationRequest) (now : Timestamp)
    (journal : StateJournal) :
    (commitChanged ops c request now journal acceptedChange).2.reason = .invariantViolation ↔
      ¬(checkInvariants (reevaluate journal.state) none).isOk = true := by
  refine ⟨fun hreason hok => reason_commitChanged ops c request now hok hreason,
    fun hviolated => ?_⟩
  have hshape := commitChanged_shape ops c request now journal acceptedChange
  generalize commitChanged ops c request now journal acceptedChange = out at hshape ⊢
  cases hshape with
  | saved hok => exact absurd hok hviolated
  | refused _ _ _ hreason => exact hreason (Bool.eq_false_iff.mpr hviolated)

/-- An early return is the answer. -/
theorem answer_early {ctx : ApplyContext} {early : EarlyReturn}
    (happly : applyRequest request (startContext c now) = (.error early, ctx)) :
    (applyAndCommit ops c request now).2.outcome = early.result.outcome ∧
      (applyAndCommit ops c request now).2.reason = early.result.reason := by
  obtain ⟨_, _, _, heq, -⟩ := applyAndCommit_early ops happly
  rw [heq]
  exact ⟨rfl, rfl⟩

/-- A request answers that the invariants are violated only for a completed mutation
that violates them. -/
theorem reason_applyAndCommit
    (hverified : ∀ s', Authorized c.canonical request →
      Applied c.config now c.canonical request s' →
      (checkInvariants (reevaluate s') none).isOk = true) :
    (applyAndCommit ops c request now).2.reason ≠ .invariantViolation := by
  rcases happly : applyRequest request (startContext c now) with ⟨early | ⟨⟩, ctx⟩
  · have hearly := unverified_applyRequest request (startContext c now) early ctx happly
    rw [(answer_early ops happly).2]
    exact hearly
  · obtain ⟨hauthorized, happlied⟩ := applied_of_ends happly
    rw [applyAndCommit_complete ops happly]
    exact reason_commitChanged ops c request now (hverified _ hauthorized happlied)

end Answers

/-- **The gates are complete.** In every reachable state, a request of a gated kind that
passes its gates leaves a state that passes the check, so that no answer to it says that
the invariants are violated. -/
theorem gates_complete {σ : Type} {fs : FaithfulStore σ} {c : Coordinator σ}
    (hreachable : Reachable fs c) (hlimits : WithinHardLimits c.config) (request : MutationRequest)
    (hgated : Gated request.kind) (now : Timestamp) :
    (∀ ctx, applyRequest request (startContext c now) = (.ok (), ctx) →
      (checkInvariants (reevaluate ctx.state) none).isOk = true) ∧
    (applyAndCommit fs.ops c request now).2.reason ≠ .invariantViolation := by
  have hverified (s' : ClusterState) (hauthorized : Authorized c.canonical request)
      (happlied : Applied c.config now c.canonical request s') :
      (checkInvariants (reevaluate s') none).isOk = true :=
    verified_of_applied hreachable.sound (hreachable.holds inductive_steady).1 hlimits hgated
      hauthorized happlied
  refine ⟨fun ctx happly => ?_, reason_applyAndCommit _ hverified⟩
  obtain ⟨hauthorized, happlied⟩ := applied_of_ends happly
  exact hverified _ hauthorized happlied

end Requests

section Example

open scoped StdSort

/-- A rack that is withdrawn from the cluster by its incarnation. -/
def floorWithdrawal : MutationRequest := { publishedRack "floor" "first" with
  kind := .withdrawRack
  authority := { (publishedRack "floor" "first").authority with rack := some (.named "floor") } }

def admittedFloor : List Event :=
  [.submit declaration ⟨2⟩, .submit (publishedRack "floor" "first") ⟨3⟩]

theorem withdrawal_accepted :
    (applyAndCommit cellStore.ops (sample admittedFloor) floorWithdrawal ⟨4⟩).2.outcome =
      .accepted ∧
    (sample admittedFloor).config.maxRacks ≤ maxRacksPerCluster ∧
    (sample admittedFloor).config.maxLinks ≤ maxInterRackLinks ∧
    (sample admittedFloor).config.maxDomainsPerClass ≤ maxDomainsPerClass ∧
    (sample admittedFloor).config.maxConstraints ≤ maxConstraints := by
  decide +kernel

theorem gates_complete_withdrawal :
    (applyAndCommit cellStore.ops (sample admittedFloor) floorWithdrawal ⟨4⟩).2.outcome =
      .accepted ∧
    (applyAndCommit cellStore.ops (sample admittedFloor) floorWithdrawal ⟨4⟩).2.reason ≠
      .invariantViolation := by
  obtain ⟨haccepted, hracks, hlinks, hdomains, hconstraints⟩ := withdrawal_accepted
  refine ⟨haccepted, (gates_complete (reachable_sample admittedFloor)
    ⟨hracks, hlinks, hdomains, hconstraints⟩ floorWithdrawal ?_ ⟨4⟩).2⟩
  unfold Gated
  decide

end Example

end Coordinator

end ClusterFabric
