import ClusterFabric.Verify.Soundness

/-! # History only moves forward

The order that every change of a declared cluster respects: counters do not decrease,
and no rack, fenced incarnation or retired identity is lost (`history_moves_forward`). A
coordinator that saves its commits respects it over restarts as well.
-/

namespace ClusterFabric

open Lib

namespace StrongCounter

variable {tag : CounterTag} {c d : StrongCounter tag}

theorem le_of_next (h : c.next = some d) : c ≤ d := by
  rw [next_eq_some] at h
  rw [le_iff]
  omega

/-- A counter that was advanced is known. -/
theorem known_of_next (h : c.next = some d) : d.known = true := by
  rw [next_eq_some] at h
  rw [known_iff]
  omega

end StrongCounter

theorem le_advanceAggregate {aggregate record value : DomainGeneration}
    (h : advanceAggregate aggregate record = some value) : aggregate ≤ value := by
  unfold advanceAggregate at h
  dsimp only at h
  split_ifs at h with hsmall
  obtain rfl := Option.some.inj h
  rw [StrongCounter.le_iff]
  exact not_lt.mp fun hlt => hsmall (.inl hlt)

theorem record_le_advanceAggregate {aggregate record value : DomainGeneration}
    (h : advanceAggregate aggregate record = some value) : record ≤ value := by
  unfold advanceAggregate at h
  dsimp only at h
  split_ifs at h
  obtain rfl := Option.some.inj h
  rw [StrongCounter.le_iff]
  exact le_max_right _ _

theorem LinksRewritten.connectivity_le {s : ClusterState} {active : Prop}
    {select : InterRackLink → Bool} {f : InterRackLink → InterRackLink}
    {links : StdMap InterRackLinkId InterRackLink} {c : ConnectivityGeneration}
    (h : LinksRewritten s active select f links c) : s.connectivityGeneration ≤ c := by
  rcases h with ⟨-, -, hc⟩ | ⟨-, -, rfl⟩
  · exact StrongCounter.le_of_next hc
  · exact le_refl _

namespace Coordinator

/-! ## The order -/

/-- A later record of a rack: its generation did not decrease, and a retired rack
is still retired. -/
structure RackSucceeds (s : ClusterState) (rack : RackId) (record record' : RackRecord) : Prop where
  generation : record.reference.generation ≤ record'.reference.generation
  retired : s.isRackRetired rack = true → record.membership = .retired →
    record'.membership = .retired

/-- The state `s'` is no earlier than `s`. -/
structure Forward (s s' : ClusterState) : Prop where
  epoch : s'.epoch = s.epoch
  generation : s.generation ≤ s'.generation
  membershipGeneration : s.membershipGeneration ≤ s'.membershipGeneration
  topologyEpoch : s.topologyEpoch ≤ s'.topologyEpoch
  topologyGeneration : s.topologyGeneration ≤ s'.topologyGeneration
  connectivityGeneration : s.connectivityGeneration ≤ s'.connectivityGeneration
  healthGeneration : s.healthGeneration ≤ s'.healthGeneration
  constraintGeneration : s.constraintGeneration ≤ s'.constraintGeneration
  snapshotGeneration : s.snapshotGeneration ≤ s'.snapshotGeneration
  publicationGeneration : s.publicationGeneration ≤ s'.publicationGeneration
  domainGenerations : ∀ k, s.domainGenerations k ≤ s'.domainGenerations k
  racks : s.racks.Extends (RackSucceeds s) s'.racks
  fenced : ∀ boot, s.isBootFenced boot = true → s'.isBootFenced boot = true
  retired : ∀ rack, s.isRackRetired rack = true → s'.isRackRetired rack = true

theorem RackSucceeds.refl (s : ClusterState) (rack : RackId) (record : RackRecord) :
    RackSucceeds s rack record record := ⟨le_refl _, fun _ h => h⟩

theorem Forward.refl (s : ClusterState) : Forward s s where
  epoch := rfl
  generation := le_refl _
  membershipGeneration := le_refl _
  topologyEpoch := le_refl _
  topologyGeneration := le_refl _
  connectivityGeneration := le_refl _
  healthGeneration := le_refl _
  constraintGeneration := le_refl _
  snapshotGeneration := le_refl _
  publicationGeneration := le_refl _
  domainGenerations := fun _ => le_refl _
  racks := .refl (RackSucceeds.refl s)
  fenced := fun _ h => h
  retired := fun _ h => h

theorem Forward.trans {a b c : ClusterState} (hab : Forward a b) (hbc : Forward b c) :
    Forward a c where
  epoch := hbc.epoch.trans hab.epoch
  generation := hab.generation.trans hbc.generation
  membershipGeneration := hab.membershipGeneration.trans hbc.membershipGeneration
  topologyEpoch := hab.topologyEpoch.trans hbc.topologyEpoch
  topologyGeneration := hab.topologyGeneration.trans hbc.topologyGeneration
  connectivityGeneration := hab.connectivityGeneration.trans hbc.connectivityGeneration
  healthGeneration := hab.healthGeneration.trans hbc.healthGeneration
  constraintGeneration := hab.constraintGeneration.trans hbc.constraintGeneration
  snapshotGeneration := hab.snapshotGeneration.trans hbc.snapshotGeneration
  publicationGeneration := hab.publicationGeneration.trans hbc.publicationGeneration
  domainGenerations := fun k => (hab.domainGenerations k).trans (hbc.domainGenerations k)
  racks := hab.racks.trans (fun {rack} _ _ _ h h' =>
    ⟨h.generation.trans h'.generation, fun hlisted hretired =>
      h'.retired (hab.retired rack hlisted) (h.retired hlisted hretired)⟩) hbc.racks
  fenced := fun boot h => hbc.fenced boot (hab.fenced boot h)
  retired := fun rack h => hbc.retired rack (hab.retired rack h)

/-! ## Commits -/

section Commits

variable [StdSort]

theorem isRackRetired_addRetired {s : ClusterState} {rack rack' : RackId}
    {generation : RackGeneration} {now : Timestamp} {reason : Text} :
    ((addRetired rack generation now reason s.retiredRacks).any fun r => r.rack == rack') = true ↔
      s.isRackRetired rack' = true ∨ rack' = rack := by
  unfold addRetired ClusterState.isRackRetired
  split_ifs with hlisted
  · refine ⟨.inl, ?_⟩
    rintro (h | rfl)
    · exact h
    · exact hlisted
  · simp only [List.any_eq_true, mem_sortBy, List.mem_append, List.mem_singleton, beq_iff_eq]
    constructor
    · rintro ⟨entry, hentry | rfl, rfl⟩
      · exact .inl ⟨entry, hentry, rfl⟩
      · exact .inr rfl
    · rintro (⟨entry, hentry, rfl⟩ | rfl)
      · exact ⟨entry, .inl hentry, rfl⟩
      · exact ⟨_, .inr rfl, rfl⟩

/-- A completed mutation of a declared cluster moves its state forward. -/
theorem forward_of_applied {config : CoordinatorConfig} {now : Timestamp} {s s' : ClusterState}
    {request : MutationRequest} (hdeclared : s.epoch.known = true)
    (happlied : Applied config now s request s') : Forward s s' := by
  have hrefl := RackSucceeds.refl s
  cases happlied
  case declared hepoch => simp [hdeclared] at hepoch
  case redeclared => exact { Forward.refl s with }
  case registered hfind _ _ =>
    refine { Forward.refl s with racks := .insertOrAssign hrefl fun old hold => ?_ }
    exact nomatch hfind.symm.trans hold
  case admitted incoming record m hkind hincoming hvalid hretired hboot hover hroom hrecord
    hstamp =>
    refine { Forward.refl s with membershipGeneration := ?_, racks := ?_ }
    · split_ifs at hstamp
      · exact StrongCounter.le_of_next hstamp
      · exact hstamp.ge
    · refine .insertOrAssign hrefl fun old hold => ⟨?_, fun hlisted => ?_⟩
      · have hle := (hover old hold).generation_le
        split_ifs <;> exact hrecord ▸ hle
      · simp [hretired] at hlisted
  case updated record generation m hkind hfind hboot hexpected hnew hgeneration hm =>
    refine { Forward.refl s with
      membershipGeneration := StrongCounter.le_of_next hm
      racks := .insertOrAssign hrefl fun old hold => ?_ }
    obtain rfl := Option.some.inj (hfind.symm.trans hold)
    exact ⟨hgeneration.le, fun _ h => h⟩
  case moved target record m hkind hfind hboot hchange hretired hm =>
    refine { Forward.refl s with
      membershipGeneration := StrongCounter.le_of_next hm
      racks := .insertOrAssign hrefl fun old hold => ?_
      retired := fun rack hlisted => ?_ }
    · obtain rfl := Option.some.inj (hfind.symm.trans hold)
      have hmembership : (movedRecord request target record).membership = target := by
        unfold movedRecord
        split_ifs <;> rfl
      have hgeneration : (movedRecord request target record).reference.generation =
          record.reference.generation := by
        unfold movedRecord
        split_ifs <;> rfl
      exact ⟨hgeneration.ge, fun _ h => hmembership.trans (hretired h)⟩
    · unfold ClusterState.isRackRetired
      dsimp only
      split_ifs
      · exact isRackRetired_addRetired.mpr (.inl hlisted)
      · exact hlisted
  case recovered rack boot record m hkind hrack hretired hfind hboot hfenced hlive hgeneration hm =>
    refine { Forward.refl s with
      membershipGeneration := StrongCounter.le_of_next hm
      racks := .insertOrAssign hrefl fun old hold => ?_ }
    obtain rfl := Option.some.inj (hfind.symm.trans hold)
    refine ⟨hgeneration, fun hlisted => ?_⟩
    simp [hretired] at hlisted
  case healthPublished record links c h hkind hfind hretired hboot hnew hlinks hh
    | evidenceWithdrawn record links c h hkind hfind hlinks hh =>
    refine { Forward.refl s with
      connectivityGeneration := hlinks.connectivity_le
      healthGeneration := StrongCounter.le_of_next hh
      racks := .insertOrAssign hrefl fun old hold => ?_ }
    obtain rfl := Option.some.inj (hfind.symm.trans hold)
    exact ⟨le_refl _, fun _ h => h⟩
  case domainPublished k payload domain aggregate t hkind hpayload hok hdomain hover hroom
      haggregate ht =>
    refine { Forward.refl s with
      topologyGeneration := StrongCounter.le_of_next ht
      domainGenerations := fun k' => ?_ }
    by_cases hk : k' = k
    · subst hk
      simpa using le_advanceAggregate haggregate
    · simp [Function.update_of_ne hk]
  case constrained hg =>
    exact { Forward.refl s with constraintGeneration := StrongCounter.le_of_next hg }
  case linkPublished ht hc | linkWithdrawn ht hc =>
    exact { Forward.refl s with
      topologyGeneration := StrongCounter.le_of_next ht
      connectivityGeneration := StrongCounter.le_of_next hc }
  case superseded hnewer ht hc =>
    exact { Forward.refl s with
      topologyEpoch := hnewer.le
      topologyGeneration := StrongCounter.le_of_next ht
      connectivityGeneration := StrongCounter.le_of_next hc }
  case snapshotPublished hg hq =>
    exact { Forward.refl s with
      snapshotGeneration := StrongCounter.le_of_next hg
      publicationGeneration := StrongCounter.le_of_next hq }
  case revalidated => exact Forward.refl s
  case clusterRetired =>
    refine { Forward.refl s with racks := StdMap.Rewrites.extends ?_ }
    exact .updateWhere _ hrefl fun _ _ => ⟨le_refl _, fun _ h => h⟩

omit [StdSort] in
theorem rackSucceeds_fencedRack (s : ClusterState) (reason : Text) (rack : RackId)
    (record : RackRecord) : RackSucceeds s rack record (fencedRack reason record) :=
  ⟨le_refl _, fun _ h => h⟩

theorem forward_fencedState (s : ClusterState) (boot : RackAgentBootId) (reason : Text)
    (fencedAt : Timestamp) : Forward s (fencedState s boot reason fencedAt) := by
  have hfenced : ∀ boot', s.isBootFenced boot' = true →
      (fencedState s boot reason fencedAt).isBootFenced boot' = true :=
    fun boot' h => (isBootFenced_fencedState s boot reason fencedAt).mpr (.inl h)
  rw [fencedState_eq] at hfenced ⊢
  refine { Forward.refl s with racks := StdMap.Rewrites.extends ?_, fenced := hfenced }
  exact .updateWhere (fun record => record.reference.boot == boot) (RackSucceeds.refl s)
    (rackSucceeds_fencedRack s reason)

/-- Every commit of a declared cluster moves its state forward. -/
theorem forward_of_evolves {s s' : ClusterState} (hdeclared : s.epoch.known = true)
    (h : Evolves s s') : Forward s s' := by
  cases h with
  | accepted hauthorized happlied hok hnext =>
    rename_i s₁ g
    refine (forward_of_applied hdeclared happlied).trans ?_
    exact { Forward.refl s₁ with generation := StrongCounter.le_of_next hnext }
  | @fenced boot reason fencedAt now g h _ _ hg hh =>
    have hgenerations := generation_fencedState s boot reason fencedAt
    refine (forward_fencedState s boot reason fencedAt).trans ?_
    exact { Forward.refl (fencedState s boot reason fencedAt) with
      generation := StrongCounter.le_of_next (hgenerations.1.symm ▸ hg)
      healthGeneration := StrongCounter.le_of_next (hgenerations.2.symm ▸ hh) }

end Commits

/-! ## Restarts -/

section Restarts

variable [StdSort] (s : ClusterState) (epoch epoch' : CoordinatorEpoch) (now now' : Timestamp)

/-- A recovered state is no earlier than the one that was saved, nor than another
recovered from it. -/
theorem forward_recovered :
    Forward s (fromPersistedState (toPersistedState s) epoch now) ∧
      Forward (fromPersistedState (toPersistedState s) epoch' now')
        (fromPersistedState (toPersistedState s) epoch now) := by
  have hfenced : ∀ epoch now boot,
      (fromPersistedState (toPersistedState s) epoch now).isBootFenced boot = true ↔ _ :=
    fun epoch now boot => isBootFenced_recoveredState (toPersistedState s) epoch now
  constructor
  · refine { Forward.refl s with racks := ?_, fenced := fun boot h => ?_ }
    · intro rack record hfind
      rw [racks_recovered, StdMap.find?_mapValues, hfind]
      exact ⟨_, rfl, le_refl _, fun _ h => h⟩
    · exact (hfenced epoch now boot).mpr (.inl (ClusterState.isBootFenced_iff.mp h))
  · refine { Forward.refl (fromPersistedState (toPersistedState s) epoch' now') with
      racks := ?_, fenced := fun boot h => ?_ }
    · intro rack record hfind
      rw [racks_recovered, StdMap.find?_mapValues, Option.map_eq_some_iff] at hfind
      obtain ⟨record₀, hfind, rfl⟩ := hfind
      rw [racks_recovered, StdMap.find?_mapValues, hfind]
      exact ⟨_, rfl, le_refl _, fun _ h => h⟩
    · exact (hfenced epoch now boot).mpr ((hfenced epoch' now' boot).mp h)

theorem respects_forward : clusterSystem.Respects Forward where
  refl := Forward.refl
  trans := Forward.trans
  evolves := forward_of_evolves
  recovers := by
    rintro s _ - ⟨epoch, now, -, rfl⟩
    exact (forward_recovered s epoch epoch now now).1
  rebuilds := by
    rintro s _ _ - ⟨epoch', now', -, rfl⟩ ⟨epoch, now, -, rfl⟩
    exact (forward_recovered s epoch epoch' now now').2

end Restarts

/-! ## The cluster generation leads -/

/-- The membership and topology generations of a declared cluster are below its
own. -/
def Leads (s : ClusterState) : Prop :=
  s.epoch.known = true →
    s.membershipGeneration.value < s.generation.value ∧
      s.topologyGeneration.value < s.generation.value

section Leads

variable [StdSort]

/-- A mutation advances either generation by one at most. -/
theorem advance_le_of_applied {config : CoordinatorConfig} {now : Timestamp} {s s' : ClusterState}
    {request : MutationRequest} (hdeclared : s.epoch.known = true)
    (happlied : Applied config now s request s') :
    s'.membershipGeneration.value ≤ s.membershipGeneration.value + 1 ∧
      s'.topologyGeneration.value ≤ s.topologyGeneration.value + 1 := by
  have hle : ∀ {tag : CounterTag} {c d : StrongCounter tag}, c.next = some d →
      d.value ≤ c.value + 1 := fun h => (StrongCounter.next_eq_some.mp h).le
  cases happlied
  case declared hepoch => simp [hdeclared] at hepoch
  case admitted hstamp =>
    refine ⟨?_, Nat.le_succ _⟩
    split_ifs at hstamp
    · exact hle hstamp
    · exact hstamp ▸ Nat.le_succ _
  case updated hm | moved hm | recovered hm => exact ⟨hle hm, Nat.le_succ _⟩
  case domainPublished ht | linkPublished ht _ | linkWithdrawn ht _ | superseded ht _ =>
    exact ⟨Nat.le_succ _, hle ht⟩
  all_goals exact ⟨Nat.le_succ _, Nat.le_succ _⟩

theorem leads_of_evolves {s s' : ClusterState} (hleads : Leads s) (h : Evolves s s') :
    Leads s' := by
  intro _
  cases h with
  | @accepted config now request s₁ g hauthorized happlied hok hnext =>
    have hg := StrongCounter.next_eq_some.mp hnext
    change s₁.membershipGeneration.value < g.value ∧ s₁.topologyGeneration.value < g.value
    by_cases hdeclared : s.epoch.known = true
    · obtain ⟨hmembership, htopology⟩ := hleads hdeclared
      obtain ⟨hmembership', htopology'⟩ := advance_le_of_applied hdeclared happlied
      rw [generation_of_applied hdeclared happlied] at hg
      omega
    · obtain ⟨-, rfl⟩ := applied_undeclared hauthorized (by simpa using hdeclared) happlied
      have hone : ∀ tag : CounterTag, (StrongCounter.fromRaw 1 : StrongCounter tag).value = 1 :=
        fun _ => rfl
      simp only [declaredState, hone] at hg ⊢
      omega
  | @fenced boot reason fencedAt now g h hdeclared _ hg _ =>
    obtain ⟨hmembership, htopology⟩ := hleads hdeclared
    have hg := StrongCounter.next_eq_some.mp hg
    have hstate := fencedState_eq s boot reason fencedAt
    change (fencedState s boot reason fencedAt).membershipGeneration.value < g.value ∧
      (fencedState s boot reason fencedAt).topologyGeneration.value < g.value
    rw [hstate]
    change s.membershipGeneration.value < g.value ∧ s.topologyGeneration.value < g.value
    omega

theorem inductive_leads : clusterSystem.Inductive Leads where
  initial := by
    rintro _ ⟨config, epoch, -, rfl⟩ hdeclared
    exact absurd hdeclared Bool.false_ne_true
  evolves := leads_of_evolves
  slips := by
    rintro s _ hleads ⟨request, -, rfl⟩
    exact hleads
  recovers := by
    rintro s _ hleads ⟨epoch, now, -, rfl⟩
    exact hleads

end Leads

/-! ## Runs -/

section Runs

variable [StdSort] {σ : Type} {fs : FaithfulStore σ} {c : Coordinator σ}

theorem generation_of_accepted (hdeclared : c.canonical.epoch.known = true)
    {request : MutationRequest} {now : Timestamp}
    (haccepted : (applyAndCommit fs.ops c request now).2.outcome = .accepted) :
    (applyAndCommit fs.ops c request now).1.canonical.generation.value =
      c.canonical.generation.value + 1 := by
  obtain ⟨-, s, g, happlied, hcommitted⟩ := committed_of_accepted fs.ops haccepted
  have hnext := StrongCounter.next_eq_some.mp hcommitted.next
  rw [generation_of_applied hdeclared happlied] at hnext
  rw [hcommitted.canonical]
  exact hnext

theorem generation_of_fenced {boot : RackAgentBootId} {reason : Text} {fencedAt now : Timestamp}
    (heffective : (applyFence fs.ops c boot reason fencedAt now).fenceEvents ≠
      c.fenceEvents) :
    (applyFence fs.ops c boot reason fencedAt now).canonical.generation.value =
      c.canonical.generation.value + 1 := by
  obtain ⟨-, -, -, hevents⟩ | ⟨-, hg, -, hcanonical, -, -, -⟩ :=
    applyFence_cases fs.ops c boot reason fencedAt now
  · exact absurd hevents heffective
  · rw [hcanonical]
    exact StrongCounter.next_eq_some.mp hg

/-- **History only moves forward**, once the cluster is declared: along every run in
which only a coordinator that saves its commits restarts, and in each next step by one
generation for an accepted mutation and for an effective fence. -/
theorem history_moves_forward (hreachable : Reachable fs c)
    (hdeclared : c.canonical.epoch.known = true) {events : List Event}
    (halong : Along (step fs.ops) RestartsSaved c events) :
    let c' := run fs.ops c events
    Forward c.canonical c'.canonical ∧
      (c'.canonical.membershipGeneration.value < c'.canonical.generation.value ∧
        c'.canonical.topologyGeneration.value < c'.canonical.generation.value) ∧
      (∀ request now,
        (applyAndCommit fs.ops c' request now).2.outcome = .accepted →
        (applyAndCommit fs.ops c' request now).1.canonical.generation.value =
          c'.canonical.generation.value + 1) ∧
      (∀ boot reason fencedAt now,
        (applyFence fs.ops c' boot reason fencedAt now).fenceEvents ≠
          c'.fenceEvents →
        (applyFence fs.ops c' boot reason fencedAt now).canonical.generation.value =
          c'.canonical.generation.value + 1) := by
  have hforward := hreachable.related_run respects_forward hdeclared halong
  have hdeclared' : (run fs.ops c events).canonical.epoch.known = true := by
    rw [hforward.epoch]
    exact hdeclared
  refine ⟨hforward, ?_, fun request now h => ?_, fun boot reason fencedAt now h => ?_⟩
  · exact ((hreachable.run events).holds inductive_leads).1 hdeclared'
  · exact generation_of_accepted hdeclared' h
  · exact generation_of_fenced h

end Runs

end Coordinator

section Example

namespace Coordinator

open scoped StdSort

theorem history_moves_forward_restart :
    let c := sample [.submit declaration ⟨2⟩]
    let c' := run cellStore.ops c
      [.submit (publishedRack "r1" "b1") ⟨3⟩, .fence (.named "b1") (text "lost") ⟨4⟩ ⟨4⟩,
        .restart ⟨5⟩]
    c.canonical.generation.value = 2 ∧ c'.canonical.generation.value = 4 ∧
      Forward c.canonical c'.canonical :=
  ⟨by decide +kernel, by decide +kernel,
    (history_moves_forward (reachable_sample _) (by decide +kernel)
      (along_restartsSaved _ (persisting_sample _) _)).1⟩

/-- The next incarnation on the store of the sample cluster, which does not save
its commits. -/
def volatileStart : Coordinator (Option PersistedState) :=
  start cellStore.ops { cluster := .named "alpha", persistOnCommit := false }
    (sample rackEvents).store ⟨4⟩

/-- Commits that are not saved are undone by a restart. -/
theorem volatile_generation_decreases :
    let publication : MutationRequest :=
      { kind := .publishSnapshot
        cluster := .named "alpha"
        authority := { clusterEpoch := .fromRaw 1, coordinatorEpoch := .fromRaw 3 } }
    let c := run cellStore.ops volatileStart [.submit publication ⟨5⟩]
    (applyAndCommit cellStore.ops volatileStart publication ⟨5⟩).2.outcome =
        .accepted ∧
      (step cellStore.ops c (.restart ⟨6⟩)).canonical.generation <
        c.canonical.generation := by
  decide +kernel

end Coordinator

end Example

end ClusterFabric
