import ClusterFabric.Verify.Queries

/-! # Reads

The derived indexes are rebuilt at the first read after a change. Every commit drops
them, and what drops none leaves every record as it was, so the indexes that a read sees
are those of the state it sees (`reads_project`).
-/

namespace ClusterFabric

open Lib

namespace Coordinator

variable [StdSort] {σ : Type} (ops : PersistenceStore σ)

/-! ## What a step does to the indexes -/

/-- The indexes are dropped exactly when a request is accepted. -/
theorem indexesValid_applyAndCommit (c : Coordinator σ) (request : MutationRequest)
    (now : Timestamp) :
    let out := applyAndCommit ops c request now
    (out.2.outcome = .accepted ∧ out.1.indexesValid = false) ∨
      (out.2.outcome ≠ .accepted ∧ out.1.indexesValid = c.indexesValid) := by
  have hshape := applyAndCommit_shape ops c request now
  generalize applyAndCommit ops c request now = out at hshape ⊢
  cases hshape with
  | @early early => exact .inr ⟨early.not_accepted, rfl⟩
  | complete _ hcommit =>
    cases hcommit with
    | saved => exact .inl ⟨rfl, rfl⟩
    | refused _ _ houtcome =>
      refine .inr ⟨fun haccepted => ?_, rfl⟩
      cases houtcome.symm.trans haccepted

/-- A fence that is not committed leaves the indexes as they were. -/
theorem indexesValid_applyFence (c : Coordinator σ) (boot : RackAgentBootId) (reason : Text)
    (fencedAt now : Timestamp) :
    let c' := applyFence ops c boot reason fencedAt now
    (c'.fenceEvents = c.fenceEvents + 1 ∧ c'.indexesValid = false) ∨
      (c'.fenceEvents = c.fenceEvents ∧ c'.indexesValid = c.indexesValid) := by
  unfold applyFence
  dsimp only
  split_ifs with hpublished
  · exact .inr ⟨rfl, rfl⟩
  split
  · rcases publishFence_cases ops c _ with ⟨store, saves, heq, -⟩ | ⟨store, heq, -⟩
    · rw [heq]
      exact .inl ⟨rfl, rfl⟩
    · rw [heq]
      exact .inr ⟨rfl, rfl⟩
  · exact .inr ⟨rfl, rfl⟩

theorem indexesValid_start (config : CoordinatorConfig) (store : Option σ) (now : Timestamp) :
    (start ops config store now).indexesValid = false := by
  unfold start
  dsimp only
  split <;> rfl

/-- **A step drops the indexes or leaves what they are built from as it was.** -/
theorem step_indexes (c : Coordinator σ) (event : Event) :
    let c' := step ops c event
    c'.indexesValid = false ∨ (c'.indexesValid = c.indexesValid ∧
      ClusterIndexes.rebuild c'.canonical = ClusterIndexes.rebuild c.canonical) := by
  cases event with
  | submit request now =>
    rcases indexesValid_applyAndCommit ops c request now with ⟨-, hdropped⟩ | ⟨hrefused, hkept⟩
    · exact .inl hdropped
    refine .inr ⟨hkept, ?_⟩
    change ClusterIndexes.rebuild (applyAndCommit ops c request now).1.canonical = _
    generalize hout : applyAndCommit ops c request now = out at hrefused ⊢
    obtain ⟨houtcome, -⟩ | ⟨-, -, hcanonical, -⟩ | ⟨-, -, -, hcanonical, -⟩ :=
      hout ▸ applyAndCommit_cases ops c request now
    · exact absurd houtcome hrefused
    · rw [hcanonical]
    · -- the identity that a refused declaration leaves behind is in no index
      rw [hcanonical]
      rfl
  | fence boot reason fencedAt now =>
    rcases indexesValid_applyFence ops c boot reason fencedAt now with
      ⟨-, hdropped⟩ | ⟨hevents, hkept⟩
    · exact .inl hdropped
    refine .inr ⟨hkept, ?_⟩
    have hcases := applyFence_cases ops c boot reason fencedAt now
    change ClusterIndexes.rebuild (applyFence ops c boot reason fencedAt now).canonical = _
    cases hcases with
    | ineffective hcanonical => rw [hcanonical]
    | effective _ _ _ _ _ _ hevents' => omega
  | restart now => exact .inl (indexesValid_start ops c.config c.store now)

end Coordinator

namespace IndexedCoordinator

variable [StdSort] {σ : Type} (ops : PersistenceStore σ) {c : IndexedCoordinator σ}

/-- Valid indexes are those of the state. -/
def Indexed (c : IndexedCoordinator σ) : Prop :=
  c.indexesValid = true → c.indexes = .rebuild c.canonical

theorem refreshIndexes_seen (h : c.Indexed) :
    c.refreshIndexes.canonical = c.canonical ∧
      c.refreshIndexes.indexes = .rebuild c.canonical := by
  unfold refreshIndexes
  split_ifs with hstale
  · exact ⟨rfl, rfl⟩
  · refine ⟨rfl, h ?_⟩
    simp only [Bool.or_eq_true, not_or] at hstale
    simpa using hstale.1

theorem indexed_access (h : c.Indexed) (access : Access) : (c.access ops access).Indexed := by
  cases access with
  | serve event =>
    intro hvalid
    have hvalid' : (Coordinator.step ops c.toCoordinator event).indexesValid = true := hvalid
    rcases Coordinator.step_indexes ops c.toCoordinator event with hdropped | ⟨hkept, hrebuilt⟩
    · rw [hdropped] at hvalid'
      exact absurd hvalid' Bool.false_ne_true
    · exact (h (hkept.symm.trans hvalid')).trans hrebuilt.symm
  | restart now indexes indexesVersion =>
    intro hvalid
    have hdropped := Coordinator.indexesValid_start ops c.config c.store now
    exact absurd (hdropped.symm.trans hvalid) Bool.false_ne_true
  | read =>
    obtain ⟨hcanonical, hindexes⟩ := refreshIndexes_seen h
    intro _
    change c.refreshIndexes.indexes = .rebuild c.refreshIndexes.canonical
    rw [hcanonical, hindexes]

/-- **Every read sees the indexes of the state it sees**, after any run of
commits, fences, refusals, restarts and reads from a start, whatever the memory
of the process held as indexes. -/
theorem reads_project {α : Type} (config : CoordinatorConfig) (store : Option σ) (now : Timestamp)
    (indexes : ClusterIndexes) (indexesVersion : Nat) (accesses : List Access)
    (body : ClusterState → ClusterIndexes → α) :
    let c := run ops
      { toCoordinator := Coordinator.start ops config store now, indexes, indexesVersion } accesses
    let seen := (c.withState Prod.mk).1
    (c.withState body).1 = body seen.1 seen.2 ∧ seen.1 = c.canonical ∧ seen.2.Projects seen.1 := by
  intro c seen
  have hindexed : c.Indexed := by
    refine runFrom_invariant (P := Indexed) _ (fun c a h => indexed_access ops h a) ?_ accesses
    intro hvalid
    have hdropped := Coordinator.indexesValid_start ops config store now
    exact absurd (hdropped.symm.trans hvalid) Bool.false_ne_true
  obtain ⟨hcanonical, hindexes⟩ := refreshIndexes_seen hindexed
  refine ⟨rfl, hcanonical, ?_⟩
  change c.refreshIndexes.indexes.Projects c.refreshIndexes.canonical
  rw [hcanonical, hindexes]
  exact ClusterIndexes.projects_rebuild c.canonical

end IndexedCoordinator

end ClusterFabric
