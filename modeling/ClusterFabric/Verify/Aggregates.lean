import ClusterFabric.Verify.Completeness
import ClusterFabric.Verify.Fencing

/-! # Aggregates of domain generations

A class of domains carries one generation over all its records. A publication moves it
past its old value and not below the record, in 64-bit arithmetic: at the maximum the
sum wraps around, a record at the maximum takes its place, and the aggregate stands
still (`aggregate_advances_iff`).
-/

namespace ClusterFabric

open Lib

/-- The aggregate at its end. -/
def DomainGeneration.atMaximum (aggregate : DomainGeneration) : Prop :=
  aggregate.value = 2 ^ 64 - 1

/-- An aggregate that advances is larger, unless it was at its end. -/
theorem lt_advanceAggregate_iff {aggregate record value : DomainGeneration}
    (h : advanceAggregate aggregate record = some value) :
    aggregate < value ↔ ¬ DomainGeneration.atMaximum aggregate := by
  have hbound := value.isLt
  unfold DomainGeneration.atMaximum
  rw [StrongCounter.lt_iff]
  constructor
  · intro hlt hmaximum
    omega
  · intro hmaximum
    have hroom : (aggregate.value + 1) % 2 ^ 64 = aggregate.value + 1 := by
      have hlimit := aggregate.isLt
      omega
    unfold advanceAggregate at h
    dsimp only at h
    split_ifs at h
    obtain rfl := Option.some.inj h
    have hle := le_max_left ((aggregate.value + 1) % 2 ^ 64) record.value
    change aggregate.value < max ((aggregate.value + 1) % 2 ^ 64) record.value
    omega

namespace Coordinator

/-- The aggregate of a class is larger than before, and not below any record. -/
structure AggregateAdvances (s s' : ClusterState) (k : DomainKind) : Prop where
  increases : s.domainGenerations k < s'.domainGenerations k
  covers : ∀ id domain, (s'.domains k).find? id = some domain →
    domain.header.generation ≤ s'.domainGenerations k

section Publications

variable [StdSort]

/-- What a domain publication makes of the aggregate of its class. -/
theorem aggregate_of_applied {config : CoordinatorConfig} {now : Timestamp} {s s' : ClusterState}
    {request : MutationRequest} {k : DomainKind} (hkind : request.kind.domainKind = some k)
    (happlied : Applied config now s request s') :
    ∃ record, advanceAggregate (s.domainGenerations k) record = some (s'.domainGenerations k) := by
  obtain ⟨payload, aggregate, t, -, -, -, haggregate, rfl⟩ := happlied.of_domain hkind
  refine ⟨payload.header.generation, ?_⟩
  rw [haggregate]
  exact congrArg some (Function.update_self k aggregate s.domainGenerations).symm

/-- **An accepted domain publication advances the aggregate of its class** exactly when
the aggregate was not at its maximum. -/
theorem aggregate_advances_iff {σ : Type} {fs : FaithfulStore σ} {c : Coordinator σ}
    (hreachable : Reachable fs c) {request : MutationRequest} {now : Timestamp} {k : DomainKind}
    (hkind : request.kind.domainKind = some k)
    (haccepted : (applyAndCommit fs.ops c request now).2.outcome = .accepted) :
    AggregateAdvances c.canonical
        (applyAndCommit fs.ops c request now).1.canonical k ↔
      ¬ DomainGeneration.atMaximum (c.canonical.domainGenerations k) := by
  have hsound : Sound (applyAndCommit fs.ops c request now).1.canonical :=
    (hreachable.run [.submit request now]).sound
  obtain ⟨-, s, g, happlied, hcommitted⟩ := committed_of_accepted fs.ops haccepted
  obtain ⟨record, haggregate⟩ := aggregate_of_applied hkind happlied
  rw [hcommitted.canonical] at hsound ⊢
  rw [← lt_advanceAggregate_iff haggregate]
  constructor
  · intro hadvances
    exact hadvances.increases
  · intro hlt
    refine ⟨hlt, fun id domain hfind => ?_⟩
    exact hsound.filed.aggregates k id domain hfind

end Publications

section Example

open scoped StdSort

/-- The publication of a placement domain at a generation. -/
def publishedPlacement (id : String) (generation : DomainGeneration) : MutationRequest :=
  { publishedRack "r1" "b1" with
    kind := .publishPlacementDomain
    domain := fun k =>
      some { probedDomain k with id := .named id, header := { generation := generation } } }

def lastGeneration : DomainGeneration := .fromRaw (2 ^ 64 - 1)

-- One evaluation replays the events of both samples.
theorem placements_accepted :
    (applyAndCommit cellStore.ops (sample [.submit declaration ⟨2⟩])
        (publishedPlacement "d1" lastGeneration) ⟨3⟩).2.outcome = .accepted ∧
      ((sample [.submit declaration ⟨2⟩]).canonical.domainGenerations .placement).value = 1 ∧
      (applyAndCommit cellStore.ops
        (sample [.submit declaration ⟨2⟩, .submit (publishedPlacement "d1" lastGeneration) ⟨3⟩])
        (publishedPlacement "d2" lastGeneration) ⟨4⟩).2.outcome = .accepted ∧
      (applyAndCommit cellStore.ops
        (sample [.submit declaration ⟨2⟩, .submit (publishedPlacement "d1" lastGeneration) ⟨3⟩])
        (publishedPlacement "d2" lastGeneration) ⟨4⟩).1.canonical.domainGenerations .placement =
      (sample [.submit declaration ⟨2⟩, .submit (publishedPlacement "d1" lastGeneration)
        ⟨3⟩]).canonical.domainGenerations .placement := by
  decide +kernel

/-- The first publication takes the aggregate to its end. -/
theorem aggregate_advances_first :
    AggregateAdvances (sample [.submit declaration ⟨2⟩]).canonical
      (applyAndCommit cellStore.ops (sample [.submit declaration ⟨2⟩])
        (publishedPlacement "d1" lastGeneration) ⟨3⟩).1.canonical .placement := by
  refine (aggregate_advances_iff (reachable_sample _) rfl placements_accepted.1).mpr ?_
  rw [DomainGeneration.atMaximum, placements_accepted.2.1]
  decide

/-- The second one is accepted as well, and the aggregate stands still. -/
theorem aggregate_stands_still :
    let c := sample [.submit declaration ⟨2⟩, .submit (publishedPlacement "d1" lastGeneration) ⟨3⟩]
    let out := applyAndCommit cellStore.ops c
      (publishedPlacement "d2" lastGeneration) ⟨4⟩
    Reachable cellStore c ∧ out.2.outcome = .accepted ∧
      ¬ AggregateAdvances c.canonical out.1.canonical .placement := by
  refine ⟨reachable_sample _, placements_accepted.2.2.1, fun hadvances => ?_⟩
  exact lt_irrefl _ (hadvances.increases.trans_eq placements_accepted.2.2.2)

end Example

end Coordinator

end ClusterFabric
