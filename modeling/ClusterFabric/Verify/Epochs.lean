import ClusterFabric.Verify.Runs

/-! # Coordinator epochs

A start that loads a container runs under the epoch after the one recorded in it. The
epoch of a running coordinator reaches the container only with a commit, and a
declaration is not held to the running epoch, so incarnations are ordered in the runs in
which every incarnation commits before it is replaced and no declaration names an older
epoch (`incarnations_ordered`).
-/

namespace ClusterFabric

open Lib

variable {config : CoordinatorConfig} {now : Timestamp} {events : List Event}

namespace Coordinator

/-! ## Incarnations of a run -/

section Incarnations

variable [StdSort] {σ : Type}

/-- An incarnation that a restart ended ran under the epoch. -/
def EarlierEpoch (ops : PersistenceStore σ) (c : Coordinator σ) (events : List Event)
    (epoch : CoordinatorEpoch) : Prop :=
  ∃ before after now, events = before ++ after ∧ .restart now ∈ after ∧
    (run ops c before).canonical.coordinatorEpoch = epoch

/-- The events that keep epochs in order: a restart after the running epoch was
saved, short of the last epoch, and no declaration under an older epoch. -/
def OrderedEpochs (fs : FaithfulStore σ) (c : Coordinator σ) : Event → Prop
  | .submit request _ =>
    request.kind = .declareCluster → request.authority.coordinatorEpoch.known = true →
      c.canonical.coordinatorEpoch ≤ request.authority.coordinatorEpoch
  | .fence _ _ _ _ => True
  | .restart _ =>
    (lastSaved fs c.store).map PersistedState.lastCoordinatorEpoch =
        some c.canonical.coordinatorEpoch ∧
      c.canonical.coordinatorEpoch.next.isSome = true

end Incarnations

/-! ## Steps -/

theorem lt_nextEpoch {epoch : CoordinatorEpoch} (h : epoch.next.isSome = true) :
    epoch < nextEpoch epoch := by
  obtain ⟨next, hnext⟩ := Option.isSome_iff_exists.mp h
  have hvalue := StrongCounter.next_eq_some.mp hnext
  have hknown : next.known = true := StrongCounter.known_iff.mpr (by omega)
  rw [StrongCounter.lt_iff]
  unfold nextEpoch
  by_cases hepoch : epoch.known = true
  · simp only [hepoch, if_true, hnext, Option.getD_some, hknown]
    omega
  · have hzero : ¬ 0 < epoch.value := mt StrongCounter.known_iff.mpr hepoch
    have hone : (StrongCounter.fromRaw 1 : CoordinatorEpoch).value = 1 := rfl
    simp only [hepoch, Bool.false_eq_true, if_false, ite_self, hone]
    omega

variable [StdSort]

/-- Only a first declaration writes the epoch. -/
theorem coordinatorEpoch_of_applied {s s' : ClusterState} {request : MutationRequest}
    (happlied : Applied config now s request s') :
    s'.coordinatorEpoch = s.coordinatorEpoch ∨
      request.kind = .declareCluster ∧ request.authority.coordinatorEpoch.known = true ∧
        s'.coordinatorEpoch = request.authority.coordinatorEpoch := by
  cases happlied
  case declared hkind hepoch =>
    unfold declaredState
    dsimp only
    split_ifs with hknown
    · exact .inr ⟨hkind, hknown, rfl⟩
    · exact .inl rfl
  all_goals exact .inl rfl

variable {σ : Type} {fs : FaithfulStore σ} {c : Coordinator σ}

theorem coordinatorEpoch_start {p : PersistedState} {store : Option σ}
    (hsaved : lastSaved fs store = some p) (now : Timestamp) :
    (start fs.ops config store now).canonical.coordinatorEpoch =
      nextEpoch p.lastCoordinatorEpoch := by
  have hloaded := ((reads_last fs).loaded store).trans hsaved
  unfold start
  dsimp only
  rw [hloaded]

theorem lt_coordinatorEpoch_restart (hordered : OrderedEpochs fs c (.restart now)) :
    c.canonical.coordinatorEpoch <
      (step fs.ops c (.restart now)).canonical.coordinatorEpoch := by
  obtain ⟨hsaved, hnext⟩ := hordered
  obtain ⟨p, hp, hepoch⟩ := Option.map_eq_some_iff.mp hsaved
  change _ < (start fs.ops c.config c.store now).canonical.coordinatorEpoch
  rw [coordinatorEpoch_start hp, hepoch]
  exact lt_nextEpoch hnext

theorem coordinatorEpoch_le_step {event : Event} (hordered : OrderedEpochs fs c event) :
    c.canonical.coordinatorEpoch ≤
      (step fs.ops c event).canonical.coordinatorEpoch := by
  cases event with
  | submit request now =>
    change _ ≤ (applyAndCommit fs.ops c request now).1.canonical.coordinatorEpoch
    generalize hout : applyAndCommit fs.ops c request now = out
    obtain ⟨-, -, happlied, hcommitted⟩ | ⟨-, -, hcanonical, -, -⟩ | ⟨-, -, -, hcanonical, -, -⟩ :=
      hout ▸ applyAndCommit_cases fs.ops c request now
    · rw [hcommitted.canonical]
      rcases coordinatorEpoch_of_applied happlied with hsame | ⟨hkind, hknown, hset⟩
      · exact hsame.ge
      · exact (hordered hkind hknown).trans hset.ge
    · rw [hcanonical]
    · rw [hcanonical]
  | fence boot reason fencedAt now =>
    change _ ≤ (applyFence fs.ops c boot reason fencedAt now).canonical.coordinatorEpoch
    obtain ⟨hcanonical, -⟩ | ⟨-, -, -, hcanonical, -⟩ :=
      applyFence_cases fs.ops c boot reason fencedAt now
    · rw [hcanonical]
    · rw [hcanonical]
      unfold fencedState
      split_ifs <;> exact le_refl _
  | restart now => exact (lt_coordinatorEpoch_restart hordered).le

/-! ## Runs -/

theorem coordinatorEpoch_le_run
    (halong : Along (step fs.ops) (OrderedEpochs fs) c events) :
    c.canonical.coordinatorEpoch ≤
      (run fs.ops c events).canonical.coordinatorEpoch :=
  runFrom_related_along (R := fun c c' : Coordinator σ =>
    c.canonical.coordinatorEpoch ≤ c'.canonical.coordinatorEpoch) _ (fun _ => le_refl _)
    (fun hab hbc => hab.trans hbc) (fun _ _ => coordinatorEpoch_le_step) halong

/-- A run with a restart ends under a later epoch than it began. -/
theorem lt_coordinatorEpoch_run
    (halong : Along (step fs.ops) (OrderedEpochs fs) c events)
    (hrestart : .restart now ∈ events) :
    c.canonical.coordinatorEpoch <
      (run fs.ops c events).canonical.coordinatorEpoch := by
  obtain ⟨before, after, rfl⟩ := List.append_of_mem hrestart
  obtain ⟨hbefore, hordered, hafter⟩ := (along_append _).mp halong
  calc c.canonical.coordinatorEpoch
      ≤ (run fs.ops c before).canonical.coordinatorEpoch :=
        coordinatorEpoch_le_run hbefore
    _ < (step fs.ops (run fs.ops c before)
          (.restart now)).canonical.coordinatorEpoch := lt_coordinatorEpoch_restart hordered
    _ ≤ _ := by
      rw [run_append]
      exact coordinatorEpoch_le_run hafter

theorem Started.coordinatorEpoch_known (h : Started fs c) :
    c.canonical.coordinatorEpoch.known = true := by
  obtain ⟨config, epoch, hknown, hcanonical⟩ := h.initial.1
  rw [hcanonical]
  exact hknown

/-- **Incarnations are ordered and stale epochs refused**, in every run in which
each incarnation saved its epoch before it was replaced, short of the last epoch,
and no declaration named an older epoch. -/
theorem incarnations_ordered (hstarted : Started fs c) {events : List Event}
    (halong : Along (step fs.ops) (OrderedEpochs fs) c events)
    {epoch : CoordinatorEpoch} (hearlier : EarlierEpoch fs.ops c events epoch) :
    let c' := run fs.ops c events
    epoch < c'.canonical.coordinatorEpoch ∧
      ∀ request now, OrderedEpochs fs c' (.submit request now) →
        request.authority.coordinatorEpoch = epoch →
        (applyAndCommit fs.ops c' request now).2.outcome ≠ .accepted := by
  obtain ⟨before, after, ended, rfl, hrestart, rfl⟩ := hearlier
  obtain ⟨hbefore, hafter⟩ := (along_append _).mp halong
  have hlt : (run fs.ops c before).canonical.coordinatorEpoch <
      (run fs.ops c (before ++ after)).canonical.coordinatorEpoch := by
    rw [run_append]
    exact lt_coordinatorEpoch_run hafter hrestart
  refine ⟨hlt, fun request now hordered hstale => ?_⟩
  -- the first epoch is known, so every later one is
  have hknown : request.authority.coordinatorEpoch.known = true := by
    have hfirst := StrongCounter.known_iff.mp hstarted.coordinatorEpoch_known
    have hle := StrongCounter.le_iff.mp (coordinatorEpoch_le_run hbefore)
    rw [hstale]
    exact StrongCounter.known_iff.mpr (by omega)
  intro haccepted
  obtain ⟨hauthorized, -⟩ := committed_of_accepted fs.ops haccepted
  by_cases hkind : request.kind = .declareCluster
  · have hle := hordered hkind hknown
    rw [hstale] at hle
    exact absurd hlt hle.not_gt
  · have hcurrent := (hauthorized.current hkind).coordinatorEpoch_eq
    rw [hstale] at hcurrent
    exact absurd hcurrent hlt.ne

end Coordinator

section Example

namespace Coordinator

open scoped StdSort

/-- The second incarnation of a declared cluster refuses the first one's epoch. -/
theorem incarnations_ordered_restart :
    let events : List Event := [.submit declaration ⟨2⟩, .restart ⟨3⟩]
    (.fromRaw 2 : CoordinatorEpoch) < (sample events).canonical.coordinatorEpoch ∧
      (applyAndCommit cellStore.ops (sample events) (publishedRack "r1" "b1")
        ⟨4⟩).2.outcome ≠ .accepted := by
  intro events
  have halong : Along (step cellStore.ops) (OrderedEpochs cellStore) sampleStart
      events := ⟨fun _ h => (nomatch h), ⟨by decide +kernel, by decide +kernel⟩, trivial⟩
  have hearlier : EarlierEpoch cellStore.ops sampleStart events (.fromRaw 2) :=
    ⟨[], events, ⟨3⟩, rfl, by simp [events], rfl⟩
  have hordered := incarnations_ordered started_sampleStart halong hearlier
  exact ⟨hordered.1, hordered.2 _ _ (fun h => nomatch h) rfl⟩

/-- Two incarnations run under one epoch when the first of them commits nothing,
and a declaration is accepted under the epoch of an earlier one. -/
theorem idle_incarnations_share_epoch :
    let idle := sample [.submit declaration ⟨2⟩, .restart ⟨3⟩]
    let redeclaration : MutationRequest :=
      { kind := .declareCluster
        cluster := .named "alpha"
        authority := { clusterEpoch := .fromRaw 1, coordinatorEpoch := .fromRaw 2 }
        declaredLifecycle := .forming }
    (step cellStore.ops idle (.restart ⟨4⟩)).canonical.coordinatorEpoch =
        idle.canonical.coordinatorEpoch ∧
      idle.canonical.coordinatorEpoch = .fromRaw 3 ∧
      (applyAndCommit cellStore.ops idle redeclaration ⟨4⟩).2.outcome =
        .accepted := by
  decide +kernel

end Coordinator

end Example

end ClusterFabric
