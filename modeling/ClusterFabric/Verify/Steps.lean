import ClusterFabric.Verify.Commit

/-! # Fences, restarts and runs

The other two kinds of step, inverted like requests (`applyFence_cases`), and what a
step means for the content of a faithful store.
-/

namespace ClusterFabric

open Lib

variable {boot : RackAgentBootId} {s : ClusterState}

namespace Coordinator

/-! ## Fences -/

/-- The records after a fence. -/
def fencedRecords (s : ClusterState) (boot : RackAgentBootId) (reason : Text) : ClusterState :=
  { s with
    racks := s.racks.updateWhere (fun record => record.reference.boot == boot) (fencedRack reason)
    links := s.links.updateWhere (fun link => link.boot == some boot) fencedLink }

theorem state_rewriteFenced (s : ClusterState) (boot : RackAgentBootId) (reason : Text) :
    (rewriteFenced s boot reason).state = fencedRecords s boot reason := by
  simp only [rewriteFenced, StateJournal.state_rewrite, getMap_racks, setMap_racks, getMap_links,
    setMap_links]
  rfl

theorem restores_rewriteFenced (s : ClusterState) (boot : RackAgentBootId) (reason : Text) :
    (rewriteFenced s boot reason).Restores Eq s :=
  StateJournal.restores_rewrite _ fixesMaps_eq
    (StateJournal.restores_rewrite _ fixesMaps_eq (Journal.restores_start s) _ _) _ _

variable [StdSort]

/-- The state after a fence of an incarnation that published something, before
it is committed. -/
def fencedState (s : ClusterState) (boot : RackAgentBootId) (reason : Text)
    (fencedAt : Timestamp) : ClusterState :=
  if s.isBootFenced boot then fencedRecords s boot reason
  else
    addFenced (fencedEntry (fencedRecords s boot reason) boot reason fencedAt)
      (fencedRecords s boot reason)

/-- The state after a fence, as it is committed. -/
def committedFence (s : ClusterState) (g : ClusterGeneration) (h : HealthGeneration)
    (now : Timestamp) : ClusterState :=
  { reevaluate s with generation := g, healthGeneration := h, lastMutationAt := now }

theorem state_fenceJournal (hpublished : publishedBy s boot = true) (reason : Text)
    (fencedAt : Timestamp) :
    (fenceJournal s boot reason fencedAt).state = fencedState s boot reason fencedAt := by
  have hfenced : (fencedRecords s boot reason).isBootFenced boot = s.isBootFenced boot := rfl
  unfold fenceJournal fencedState
  simp only [hpublished, Bool.true_and, state_rewriteFenced, hfenced]
  cases s.isBootFenced boot with
  | true => exact state_rewriteFenced s boot reason
  | false =>
    change addFenced _ (rewriteFenced s boot reason).state = addFenced _ _
    rw [state_rewriteFenced]

theorem restores_fenceJournal (s : ClusterState) (boot : RackAgentBootId) (reason : Text)
    (fencedAt : Timestamp) :
    (fenceJournal s boot reason fencedAt).recordScalars.Restores SameFrame s := by
  have hrewritten := restores_rewriteFenced s boot reason
  have hrecorded := StateJournal.restores_recordScalars hrewritten fun _ => rfl
  unfold fenceJournal
  dsimp only
  split_ifs
  · refine StateJournal.restores_recordScalars (hrecorded.update fun s' hs' => ?_) sameFrame_refl
    exact hs'
  · exact hrecorded

theorem rollback_fenceJournal (hpublished : publishedBy s boot = false) (reason : Text)
    (fencedAt : Timestamp) : (fenceJournal s boot reason fencedAt).rollback = s := by
  simp only [fenceJournal, hpublished, Bool.false_and, if_neg Bool.false_ne_true]
  exact (restores_rewriteFenced s boot reason).rollback fun _ => rfl

variable {σ : Type} (ops : PersistenceStore σ)

/-- What a fence can come to: nothing, or the commit of the fenced state. -/
inductive FenceCases (c : Coordinator σ) (boot : RackAgentBootId) (reason : Text)
    (fencedAt now : Timestamp) : Coordinator σ → Prop
  | ineffective {c' : Coordinator σ} (hcanonical : c'.canonical = c.canonical)
      (hunsaved : Unsaved ops c.store c'.store) (hconfig : c'.config = c.config)
      (hevents : c'.fenceEvents = c.fenceEvents) :
    FenceCases c boot reason fencedAt now c'
  | effective {c' : Coordinator σ} {g : ClusterGeneration} {h : HealthGeneration}
      (hpublished : publishedBy c.canonical boot = true)
      (hg : c.canonical.generation.next = some g) (hh : c.canonical.healthGeneration.next = some h)
      (hcanonical : c'.canonical =
        committedFence (fencedState c.canonical boot reason fencedAt) g h now)
      (hsaved : Saved ops c.config c.store c'.canonical c'.store) (hconfig : c'.config = c.config)
      (hevents : c'.fenceEvents = c.fenceEvents + 1) :
    FenceCases c boot reason fencedAt now c'

theorem generation_fencedState (s : ClusterState) (boot : RackAgentBootId) (reason : Text)
    (fencedAt : Timestamp) :
    (fencedState s boot reason fencedAt).generation = s.generation ∧
      (fencedState s boot reason fencedAt).healthGeneration = s.healthGeneration := by
  unfold fencedState
  split_ifs <;> exact ⟨rfl, rfl⟩

theorem applyFence_cases (c : Coordinator σ) (boot : RackAgentBootId) (reason : Text)
    (fencedAt now : Timestamp) :
    FenceCases ops c boot reason fencedAt now (applyFence ops c boot reason fencedAt now) := by
  unfold applyFence
  dsimp only
  cases hpublished : publishedBy c.canonical boot with
  | false =>
    exact .ineffective (rollback_fenceJournal hpublished reason fencedAt) .untouched rfl rfl
  | true =>
    have hstate := state_fenceJournal hpublished reason fencedAt
    have hrestores := restores_fenceJournal c.canonical boot reason fencedAt
    have hgenerations := generation_fencedState c.canonical boot reason fencedAt
    have hback : ∀ f : ClusterState → ClusterState, (∀ s, SameFrame (f s) s) →
        ((fenceJournal c.canonical boot reason fencedAt).recordScalars.update f).rollback =
          c.canonical := by
      intro f hf
      refine (hrestores.update fun s hs => ?_).rollback sameFrame_refl
      exact ⟨hs.1.trans (hf _).1.symm, hs.2.trans (hf _).2.symm⟩
    rw [if_neg (by simp)]
    split
    · rename_i g h hg hh
      have hg' : c.canonical.generation.next = some g := by
        rw [← hgenerations.1, ← hstate]
        exact hg
      have hh' : c.canonical.healthGeneration.next = some h := by
        rw [← hgenerations.2, ← hstate]
        exact hh
      have hcommitted :
        committedFence (fenceJournal c.canonical boot reason fencedAt).state g h now =
          committedFence (fencedState c.canonical boot reason fencedAt) g h now := by rw [hstate]
      rcases publishFence_cases ops c _ with ⟨store, saves, heq, hsaved, -⟩ | ⟨store, heq, hunsaved⟩
      · rw [heq]
        exact .effective hpublished hg' hh' hcommitted hsaved rfl rfl
      · rw [heq]
        exact .ineffective (hback (fun s => committedFence s g h now) fun _ => ⟨rfl, rfl⟩)
          hunsaved rfl rfl
    · exact .ineffective (hback _ fun _ => ⟨rfl, rfl⟩) .untouched rfl rfl

end Coordinator

end ClusterFabric
