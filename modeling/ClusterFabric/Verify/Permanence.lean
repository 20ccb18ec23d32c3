import ClusterFabric.Model.Queue
import ClusterFabric.Verify.History

/-! # Permanence of a fence

A fence lists the incarnation only when it finds a rack or a link of it, and only when
both counters that it advances have room. Once listed an incarnation stays so, over
restarts as far as the list is saved or the saved racks name it (`fence_permanent_iff`).
-/

namespace ClusterFabric

open Lib

variable {now fencedAt : Timestamp} {reason : Text}

namespace CommitQueue

/-- A queued fence is the item that serves it. -/
theorem fence_of_fenceBoot {queue : CommitQueue} {boot : RackAgentBootId} {item : QueueItem}
    (h : queue.fenceBoot boot reason = (true, queue.push item)) : item = .fence boot reason := by
  unfold fenceBoot at h
  split_ifs at h
  · exact nomatch (Prod.mk.inj h).1
  · have hitems := congrArg items (Prod.mk.inj h).2
    have hlast := List.append_cancel_left hitems
    exact (List.singleton_inj.mp hlast).symm

end CommitQueue

namespace Coordinator

variable [StdSort]

/-! ## Serving a fence -/

section Serve

variable {σ : Type} (ops : PersistenceStore σ) {boot : RackAgentBootId} {c : Coordinator σ}

omit [StdSort] in
/-- Only a failed save undoes a fence at its commit. -/
theorem canonical_publishFence {journal : StateJournal}
    (hsaved : (publishFence ops c journal).persistenceFailures = c.persistenceFailures) :
    (publishFence ops c journal).canonical = journal.state := by
  rcases publishFence_cases ops c journal with ⟨store, saves, heq, -⟩ | ⟨store, heq, -⟩
  · rw [heq]
  · rw [heq] at hsaved
    exact absurd hsaved (Nat.succ_ne_self _)

/-- A fence that finds something, has room and is not refused by the store is
committed. -/
theorem canonical_applyFence {g : ClusterGeneration} {h : HealthGeneration}
    (hpublished : publishedBy c.canonical boot = true) (hg : c.canonical.generation.next = some g)
    (hh : c.canonical.healthGeneration.next = some h)
    (hsaved : (applyFence ops c boot reason fencedAt now).persistenceFailures =
      c.persistenceFailures) :
    (applyFence ops c boot reason fencedAt now).canonical =
      committedFence (fencedState c.canonical boot reason fencedAt) g h now := by
  have hstate := state_fenceJournal hpublished reason fencedAt
  obtain ⟨hgeneration, hhealth⟩ := generation_fencedState c.canonical boot reason fencedAt
  have hg' : (reevaluate (fenceJournal c.canonical boot reason fencedAt).state).generation.next =
      some g := by
    rw [hstate]
    exact hgeneration ▸ hg
  have hh' : (reevaluate
      (fenceJournal c.canonical boot reason fencedAt).state).healthGeneration.next = some h := by
    rw [hstate]
    exact hhealth ▸ hh
  have hfence : applyFence ops c boot reason fencedAt now = publishFence ops c
      (((fenceJournal c.canonical boot reason fencedAt).recordScalars.update reevaluate).update
        fun s => { s with generation := g, healthGeneration := h, lastMutationAt := now }) := by
    unfold applyFence
    dsimp only
    rw [if_neg (by simp [hpublished])]
    simp only [StateJournal.state_update, StateJournal.state_recordScalars, hg', hh']
  rw [hfence] at hsaved ⊢
  rw [canonical_publishFence ops hsaved]
  change committedFence (fenceJournal c.canonical boot reason fencedAt).state g h now = _
  rw [hstate]

/-- What a fence that the store does not refuse leaves listed. -/
theorem isBootFenced_applyFence
    (hsaved : (applyFence ops c boot reason fencedAt now).persistenceFailures =
      c.persistenceFailures) :
    (applyFence ops c boot reason fencedAt now).canonical.isBootFenced boot = true ↔
      c.canonical.isBootFenced boot = true ∨
        publishedBy c.canonical boot = true ∧ c.canonical.generation.next.isSome = true ∧
          c.canonical.healthGeneration.next.isSome = true := by
  have hlisted : ∀ g h, (committedFence (fencedState c.canonical boot reason fencedAt) g h
      now).isBootFenced boot = true :=
    fun g h => (isBootFenced_fencedState c.canonical boot reason fencedAt).mpr (.inr rfl)
  constructor
  · intro hfenced
    obtain ⟨hcanonical, -, -, -⟩ | ⟨hpublished, hg, hh, -, -, -, -⟩ :=
      applyFence_cases ops c boot reason fencedAt now
    · exact .inl (hcanonical ▸ hfenced)
    · exact .inr ⟨hpublished, Option.isSome_of_mem hg, Option.isSome_of_mem hh⟩
  · rintro (hfenced | ⟨hpublished, hg, hh⟩)
    · obtain ⟨hcanonical, -, -, -⟩ | ⟨-, -, -, hcanonical, -, -, -⟩ :=
        applyFence_cases ops c boot reason fencedAt now
      · rw [hcanonical]
        exact hfenced
      · rw [hcanonical]
        exact hlisted _ _
    · obtain ⟨g, hg⟩ := Option.isSome_iff_exists.mp hg
      obtain ⟨h, hh⟩ := Option.isSome_iff_exists.mp hh
      rw [canonical_applyFence ops hpublished hg hh hsaved]
      exact hlisted g h

end Serve

/-! ## Staying fenced -/

/-- Nothing is recorded or fenced in a cluster that is not declared. -/
def Blank (s : ClusterState) : Prop :=
  s.epoch.known = false → s.racks = .empty ∧ ∀ boot, s.isBootFenced boot = false

omit [StdSort] in
theorem Blank.declared {s : ClusterState} (h : Blank s) {boot : RackAgentBootId}
    (hfenced : s.isBootFenced boot = true) : s.epoch.known = true := by
  by_contra hepoch
  have hnot := (h (by simpa using hepoch)).2 boot
  simp [hfenced] at hnot

theorem inductive_blank : clusterSystem.Inductive Blank where
  initial := by
    rintro _ ⟨config, epoch, -, rfl⟩ _
    exact ⟨rfl, fun _ => rfl⟩
  evolves := fun _ hevolves hepoch => by
    have hdeclared := clusterSystem.declared_of_evolves hevolves
    change _ = true at hdeclared
    simp [hepoch] at hdeclared
  slips := by
    rintro s _ h ⟨request, -, rfl⟩
    exact h
  recovers := by
    rintro s _ h ⟨epoch, now, -, rfl⟩ hepoch
    obtain ⟨hracks, hfenced⟩ := h hepoch
    constructor
    · have hrecovered := racks_recoveredState s epoch now
      rw [hracks] at hrecovered
      exact hrecovered
    · intro boot
      rw [Bool.eq_false_iff]
      intro hlisted
      rcases (isBootFenced_recoveredState (toPersistedState s) epoch now).mp hlisted with
        hmem | hmem
      · have hbefore := ClusterState.isBootFenced_iff.mpr hmem
        simp [hfenced boot] at hbefore
      · change boot ∈ (s.racks.entries.map _).map _ at hmem
        rw [hracks] at hmem
        exact nomatch hmem

section Runs

variable {σ : Type} (fs : FaithfulStore σ)

/-- A restart from the store finds the incarnation fenced: the saved list names
it, or a saved rack does. -/
def Remembers (store : Option σ) (boot : RackAgentBootId) : Prop :=
  ∃ p, lastSaved fs store = some p ∧
    (boot ∈ p.fencedAuthorities.map FencedAuthority.boot ∨ boot ∈ p.racks.map DurableRack.lastBoot)

theorem isBootFenced_start {config : CoordinatorConfig} {store : Option σ}
    {boot : RackAgentBootId} :
    (start fs.ops config store now).canonical.isBootFenced boot = true ↔
      Remembers fs store boot := by
  have hloaded : _ = lastSaved fs store := (reads_last fs).loaded store
  unfold start Remembers
  dsimp only
  rw [hloaded]
  cases lastSaved fs store with
  | none => simp [freshState, ClusterState.isBootFenced]
  | some p =>
    have hrecovered : (recoveredState p (nextEpoch p.lastCoordinatorEpoch) now).isBootFenced boot =
        true ↔ _ := isBootFenced_recoveredState p _ now
    constructor
    · intro hfenced
      exact ⟨p, rfl, hrecovered.mp hfenced⟩
    · rintro ⟨_, ⟨⟩, hmem⟩
      exact hrecovered.mpr hmem

variable {fs} {c : Coordinator σ} {boot : RackAgentBootId}

theorem Reachable.blank (h : Reachable fs c) : Blank c.canonical := (h.holds inductive_blank).1

/-- Without saves, an incarnation that the store remembers stays fenced. -/
theorem Reachable.fenced_of_remembers (h : Reachable fs c)
    (hvolatile : ¬ Persisting c.config c.store) (hfenced : c.canonical.isBootFenced boot = true)
    (hremembers : Remembers fs c.store boot) (events : List Event) :
    (Coordinator.run fs.ops c events).canonical.isBootFenced boot = true := by
  obtain ⟨p, hp, hmem⟩ := hremembers
  -- A declared cluster moves forward with every commit, and a blank one has no fences.
  have hrun := (coordinator_refines fs).volatile_run (d := p)
    (P := fun s => Blank s ∧ s.isBootFenced boot = true)
    (fun c event hvolatile => ?_) (fun hs hevolves => ?_) (fun hs hslips => ?_)
    (fun hrecovers => ?_) (h.holds inductive_grounded) hvolatile hp ⟨h.blank, hfenced⟩ events
  · exact hrun.2
  · exact mt (persisting_step_iff fs.ops c event).mp hvolatile
  · have hdeclared := hs.1.declared hs.2
    exact ⟨inductive_blank.evolves hs.1 hevolves,
      (forward_of_evolves hdeclared hevolves).fenced boot hs.2⟩
  · exact absurd (hs.1.declared hs.2) (clusterSystem.undeclared_of_slips hslips).1
  · obtain ⟨s, hblank, rfl⟩ := (h.holds inductive_blank).2 p hp
    refine ⟨inductive_blank.recovers hblank hrecovers, ?_⟩
    obtain ⟨epoch, now, -, rfl⟩ := hrecovers
    exact (isBootFenced_recoveredState _ epoch now).mpr hmem

/-- **A fence lasts** exactly when commits are saved or the store remembers the
incarnation already. -/
theorem Reachable.fenced_run_iff (h : Reachable fs c) :
    (∀ events, (Coordinator.run fs.ops c events).canonical.isBootFenced boot =
        true) ↔
      c.canonical.isBootFenced boot = true ∧
        (Persisting c.config c.store ∨ Remembers fs c.store boot) := by
  constructor
  · intro hall
    exact ⟨hall [], .inr ((isBootFenced_start fs).mp (hall [.restart ⟨0⟩]))⟩
  · rintro ⟨hfenced, hlasts⟩ events
    by_cases hpersisting : Persisting c.config c.store
    · have hdeclared := h.blank.declared hfenced
      exact (h.related_run respects_forward hdeclared
        (along_restartsSaved _ hpersisting events)).fenced
        boot hfenced
    · exact h.fenced_of_remembers hpersisting hfenced (hlasts.resolve_left hpersisting) events

/-- An event of a coordinator that does not save leaves what is remembered. -/
theorem Reachable.lasts_step_iff (h : Reachable fs c) (event : Event) :
    (Persisting (step fs.ops c event).config
          (step fs.ops c event).store ∨
        Remembers fs (step fs.ops c event).store boot) ↔
      (Persisting c.config c.store ∨ Remembers fs c.store boot) := by
  rw [persisting_step_iff]
  by_cases hpersisting : Persisting c.config c.store
  · simp only [hpersisting, true_or]
  · have himage := (step_event fs c event h.grounded).image_eq hpersisting
    change lastSaved fs (step fs.ops c event).store = lastSaved fs c.store at himage
    unfold Remembers
    rw [himage]

/-- When a fence served now takes effect for good: the incarnation is listed
already, or it published something and both counters have room; and commits are
saved or the store remembers the incarnation. -/
def FenceLasts (fs : FaithfulStore σ) (c : Coordinator σ) (boot : RackAgentBootId) : Prop :=
  (c.canonical.isBootFenced boot = true ∨
      publishedBy c.canonical boot = true ∧ c.canonical.generation.next.isSome = true ∧
        c.canonical.healthGeneration.next.isSome = true) ∧
    (Persisting c.config c.store ∨ Remembers fs c.store boot)

/-- **A queued fence takes effect for good** exactly when what the coordinator
holds at the time it is served allows it. -/
theorem fence_permanent_iff {queue : CommitQueue} {item : QueueItem} {reason : Text}
    {fencedAt now : Timestamp} (hreachable : Reachable fs c)
    (hqueued : queue.fenceBoot boot reason = (true, queue.push item))
    (hsaved : (item.serve fs.ops c fencedAt now).persistenceFailures =
      c.persistenceFailures) :
    (∀ events, (run fs.ops (item.serve fs.ops c fencedAt now)
        events).canonical.isBootFenced boot = true) ↔
      FenceLasts fs c boot := by
  obtain rfl := CommitQueue.fence_of_fenceBoot hqueued
  have hserved : Reachable fs (applyFence fs.ops c boot reason fencedAt now) :=
    hreachable.run [.fence boot reason fencedAt now]
  change (∀ events, (run fs.ops
    (applyFence fs.ops c boot reason fencedAt now)
      events).canonical.isBootFenced boot = true) ↔ _
  rw [hserved.fenced_run_iff, isBootFenced_applyFence fs.ops hsaved]
  exact and_congr_right fun _ => hreachable.lasts_step_iff (.fence boot reason fencedAt now)

end Runs

end Coordinator

section Example

namespace Coordinator

open scoped StdSort

/-- A running coordinator's queue. -/
def openQueue : CommitQueue := { running := true }

/-- The sample cluster with one rack. -/
def oneRack : Coordinator (Option PersistedState) :=
  sample rackEvents

theorem fence_permanent_published :
    let item : QueueItem := .fence (.named "b1") (text "lost")
    openQueue.fenceBoot (.named "b1") (text "lost") = (true, openQueue.push item) ∧
      ∀ events, (run cellStore.ops
        (item.serve cellStore.ops oneRack ⟨4⟩ ⟨4⟩) events).canonical.isBootFenced
          (.named "b1") = true := by
  have hqueued : openQueue.fenceBoot (.named "b1") (text "lost") =
      (true, openQueue.push (.fence (.named "b1") (text "lost"))) := rfl
  refine ⟨hqueued, ?_⟩
  refine (fence_permanent_iff (reachable_sample _) hqueued (by decide +kernel)).mpr
    ⟨.inr ?_, .inl (persisting_sample _)⟩
  decide +kernel

/-- A fence of an incarnation that published nothing is queued and served, and
leaves it unfenced. -/
theorem fence_unpublished_ineffective :
    let c := sample [.submit declaration ⟨2⟩]
    let item : QueueItem := .fence (.named "b1") (text "lost")
    openQueue.fenceBoot (.named "b1") (text "lost") = (true, openQueue.push item) ∧
      (item.serve cellStore.ops c ⟨4⟩ ⟨4⟩).persistenceFailures =
        c.persistenceFailures ∧
      (item.serve cellStore.ops c ⟨4⟩ ⟨4⟩).canonical.isBootFenced (.named "b1") =
        false ∧
      (applyAndCommit cellStore.ops
          (item.serve cellStore.ops c ⟨4⟩ ⟨4⟩)
          (publishedRack "r1" "b1") ⟨5⟩).2.outcome = .accepted :=
  ⟨rfl, by decide +kernel, by decide +kernel, by decide +kernel⟩

end Coordinator

end Example

end ClusterFabric
