import ClusterFabric.Verify.Rollback
import ClusterFabric.Verify.Inversion

/-! # What a step of the coordinator did

The commit path, inverted: a request is either refused, and then canonical state is
rolled back (`refused_unchanged_iff`), or accepted, and then it is the completed
mutation with its lifecycle evaluated, its invariants checked and its generation
advanced (`applyAndCommit_cases`).
-/

namespace ClusterFabric

open Lib
open Txn

variable {request : MutationRequest} {now : Timestamp} {ctx : ApplyContext}

namespace Coordinator

variable {σ : Type} (ops : PersistenceStore σ) {c : Coordinator σ}

/-! ## Saving -/

section Saving

variable (config : CoordinatorConfig) (store : Option σ)

/-- Commits go to an attached store. -/
def Persisting : Prop := store.isSome = true ∧ config.persistOnCommit = true

/-- The state was saved, or need not be, and left the store content. -/
inductive Saved (s : ClusterState) : Option σ → Prop
  | skipped (h : ¬ Persisting config store) : Saved s store
  | saved {content : σ} (hpersisting : Persisting config store) (hstore : store = some content)
      (hok : (ops.save (toPersistedState s) content).1.ok = true) :
    Saved s (some (ops.save (toPersistedState s) content).2)

/-- The store refuses the state. -/
def SaveRefused (s : ClusterState) : Prop :=
  ∃ content, store = some content ∧ config.persistOnCommit = true ∧
    (ops.save (toPersistedState s) content).1.ok = false

/-- Nothing was saved: the store was left alone or a save failed. -/
inductive Unsaved : Option σ → Prop
  | untouched : Unsaved store
  | failed {content : σ} (p : PersistedState) (hstore : store = some content)
      (hfailed : (ops.save p content).1.ok = false) : Unsaved (some (ops.save p content).2)

end Saving

/-- `persist_now` fails exactly when the store refuses the state. It counts what it does. -/
theorem persistNow_cases (c : Coordinator σ) :
    (∃ store saves, persistNow ops c =
        ({ c with store := store, persistenceSaves := saves }, none) ∧
      Saved ops c.config c.store c.canonical store ∧
      ¬ SaveRefused ops c.config c.store c.canonical ∧
      (Persisting c.config c.store → saves = c.persistenceSaves + 1)) ∨
    (∃ store outcome, persistNow ops c =
        ({ c with store := store, persistenceFailures := c.persistenceFailures + 1 },
          some (saveFailure outcome)) ∧
      Unsaved ops c.store store ∧ SaveRefused ops c.config c.store c.canonical) := by
  have hskipped (h : ¬ Persisting c.config c.store) (heq : persistNow ops c = (c, none)) :
      ∃ store saves, persistNow ops c =
          ({ c with store := store, persistenceSaves := saves }, none) ∧
        Saved ops c.config c.store c.canonical store ∧
        ¬ SaveRefused ops c.config c.store c.canonical ∧
        (Persisting c.config c.store → saves = c.persistenceSaves + 1) := by
    refine ⟨c.store, c.persistenceSaves, heq, .skipped h, ?_, fun hp => absurd hp h⟩
    rintro ⟨content, hstore, hpersist, -⟩
    exact h ⟨by simp [hstore], hpersist⟩
  cases hstore : c.store with
  | none =>
    rw [← hstore]
    exact .inl (hskipped (by simp [Persisting, hstore]) (by simp [persistNow, hstore]))
  | some content =>
    cases hpersist : c.config.persistOnCommit with
    | false =>
      rw [← hstore]
      exact .inl (hskipped (by simp [Persisting, hpersist])
        (by simp [persistNow, hstore, hpersist]))
    | true =>
      cases hok : (ops.save (toPersistedState c.canonical) content).1.ok with
      | true =>
        refine .inl ⟨_, c.persistenceSaves + 1, by simp [persistNow, hstore, hpersist, hok],
          .saved ⟨rfl, hpersist⟩ rfl hok, ?_, fun _ => rfl⟩
        rintro ⟨_, ⟨⟩, -, hfailed⟩
        simp [hok] at hfailed
      | false =>
        exact .inr ⟨_, _, by simp [persistNow, hstore, hpersist, hok]; rfl,
          .failed _ rfl hok, content, rfl, hpersist, hok⟩

/-! ## Committing -/

section Commit

variable [StdSort]

/-- A completed mutation as it is committed. -/
def committed (s : ClusterState) (generation : ClusterGeneration) (now : Timestamp) :
    ClusterState :=
  { reevaluate s with generation := generation, lastMutationAt := now }

/-- The completed mutation `s` was committed at generation `g`. -/
structure Committed (c : Coordinator σ) (now : Timestamp) (s : ClusterState)
    (g : ClusterGeneration) (c' : Coordinator σ) : Prop where
  isOk : (checkInvariants (reevaluate s) none).isOk = true
  next : s.generation.next = some g
  notRefused : ¬ SaveRefused ops c.config c.store (committed s g now)
  canonical : c'.canonical = committed s g now
  saved : Saved ops c.config c.store (committed s g now) c'.store
  config : c'.config = c.config

/-- The request was refused after its journal stood at `journal`, possibly with
more scalars written. -/
structure RolledBack (c : Coordinator σ) (journal : StateJournal) (c' : Coordinator σ) : Prop where
  canonical : ∃ f : ClusterState → ClusterState, (∀ s, SameFrame (f s) s) ∧
    c'.canonical = (journal.update f).rollback
  unsaved : Unsaved ops c.store c'.store
  config : c'.config = c.config

/-- What the commit of a completed mutation comes to, with its answer and its counters. -/
inductive CommitShape (c : Coordinator σ) (request : MutationRequest) (now : Timestamp)
    (journal : StateJournal) (result : MutationResult) : Coordinator σ × MutationResult → Prop
  | saved {g : ClusterGeneration} {store : Option σ} {saves : Nat}
      (hok : (checkInvariants (reevaluate journal.state) none).isOk = true)
      (hnext : journal.state.generation.next = some g)
      (hnot : ¬ SaveRefused ops c.config c.store (committed journal.state g now))
      (hsaved : Saved ops c.config c.store (committed journal.state g now) store)
      (hsaves : Persisting c.config c.store → saves = c.persistenceSaves + 1) :
    CommitShape c request now journal result
      ({ c.touchState with
          canonical := committed journal.state g now
          store := store
          persistenceSaves := saves
          commits := c.commits + 1
          mutationsAccepted := c.mutationsAccepted + 1 },
        acceptedResult request (committed journal.state g now) result)
  | refused {f : ClusterState → ClusterState} {store : Option σ} {failures : Nat}
      {failure : MutationResult} (hframe : ∀ s, SameFrame (f s) s)
      (hunsaved : Unsaved ops c.store store) (houtcome : failure.outcome = .rejected)
      (hviolated : (checkInvariants (reevaluate journal.state) none).isOk = false →
        failure.reason = .invariantViolation)
      (hverified : (checkInvariants (reevaluate journal.state) none).isOk = true →
        failure.reason = .limitExceeded ∨ failure.reason = .persistenceFailed)
      (hfailures : c.persistenceFailures ≤ failures)
      (hwhy : ∀ g, (checkInvariants (reevaluate journal.state) none).isOk = true →
        journal.state.generation.next = some g →
        SaveRefused ops c.config c.store (committed journal.state g now) ∧
          c.persistenceFailures < failures) :
    CommitShape c request now journal result
      ({ c with
          canonical := (journal.update f).rollback
          store := store
          persistenceFailures := failures
          mutationsRejected := c.mutationsRejected + 1 },
        failure.fillGenerations (journal.update f).rollback)

theorem commitChanged_shape (c : Coordinator σ) (request : MutationRequest) (now : Timestamp)
    (journal : StateJournal) (result : MutationResult) :
    CommitShape ops c request now journal result
      (commitChanged ops c request now journal result) := by
  have hframe : ∀ s, SameFrame (reevaluate s) s := fun _ => ⟨rfl, rfl⟩
  unfold commitChanged
  dsimp only
  split_ifs with hviolated
  · replace hviolated : (checkInvariants (reevaluate journal.state) none).isOk = false := by
      simpa using hviolated
    exact .refused hframe .untouched rfl (fun _ => rfl) (fun hok => by simp [hviolated] at hok)
      (le_refl _) fun _ hok _ => by simp [hviolated] at hok
  have hok : (checkInvariants (reevaluate journal.state) none).isOk = true := by
    simpa using hviolated
  split
  · rename_i hnext
    replace hnext : journal.state.generation.next = none := hnext
    exact .refused hframe .untouched rfl (fun hnot => by simp [hok] at hnot) (fun _ => .inl rfl)
      (le_refl _) fun _ _ hsome => by simp [hnext] at hsome
  · rename_i g hnext
    unfold publishCommit
    rcases persistNow_cases ops { c with canonical := committed journal.state g now } with
      ⟨store, saves, heq, hsaved, hnot, hsaves⟩ | ⟨store, outcome, heq, hunsaved, hrefused⟩
    · split
      · rename_i heq'
        cases congrArg Prod.snd (heq'.symm.trans heq)
      · rename_i heq'
        obtain ⟨rfl, -⟩ := Prod.mk.inj (heq'.symm.trans heq)
        exact .saved hok hnext hnot hsaved hsaves
    · split
      · rename_i heq'
        obtain ⟨rfl, hfailure⟩ := Prod.mk.inj (heq'.symm.trans heq)
        obtain rfl := Option.some.inj hfailure
        have hframe : ∀ s, SameFrame (committed s g now) s := fun _ => ⟨rfl, rfl⟩
        refine .refused hframe hunsaved rfl (fun hnot => by simp [hok] at hnot)
          (fun _ => .inr rfl) (Nat.le_succ _) fun g' _ hnext' => ?_
        obtain rfl := Option.some.inj (hnext.symm.trans hnext')
        exact ⟨hrefused, Nat.lt_succ_self _⟩
      · rename_i heq'
        cases congrArg Prod.snd (heq'.symm.trans heq)

/-- What the commit of a completed mutation can come to. -/
inductive CommitCases (c : Coordinator σ) (now : Timestamp) (journal : StateJournal) :
    Coordinator σ × MutationResult → Prop
  | accepted {c' : Coordinator σ} {result : MutationResult} {g : ClusterGeneration}
      (houtcome : result.outcome = .accepted)
      (hcommitted : Committed ops c now journal.state g c') :
    CommitCases c now journal (c', result)
  | refused {c' : Coordinator σ} {result : MutationResult} (houtcome : result.outcome = .rejected)
      (hrolledBack : RolledBack ops c journal c')
      (hwhy : ∀ g, (checkInvariants (reevaluate journal.state) none).isOk = true →
        journal.state.generation.next = some g →
        SaveRefused ops c.config c.store (committed journal.state g now)) :
    CommitCases c now journal (c', result)

theorem commitChanged_cases (c : Coordinator σ) (request : MutationRequest) (now : Timestamp)
    (journal : StateJournal) (result : MutationResult) :
    CommitCases ops c now journal (commitChanged ops c request now journal result) := by
  have hshape := commitChanged_shape ops c request now journal result
  generalize commitChanged ops c request now journal result = out at hshape ⊢
  cases hshape with
  | saved hok hnext hnot hsaved _ => exact .accepted rfl ⟨hok, hnext, hnot, rfl, hsaved, rfl⟩
  | refused hframe hunsaved houtcome _ _ _ hwhy =>
    exact .refused houtcome ⟨⟨_, hframe, rfl⟩, hunsaved, rfl⟩ fun g hok hnext =>
      (hwhy g hok hnext).1

/-! ## Requests -/

/-- A first declaration that names another cluster than the coordinator does. -/
structure DeclaresOther (s : ClusterState) (request : MutationRequest) : Prop where
  kind_eq : request.kind = .declareCluster
  undeclared : s.epoch.known = false
  valid : request.cluster.isValid = true
  ne_id : request.cluster ≠ s.id

instance (s : ClusterState) (request : MutationRequest) : Decidable (DeclaresOther s request) :=
  decidable_of_iff (request.kind = .declareCluster ∧ s.epoch.known = false ∧
      request.cluster.isValid = true ∧ request.cluster ≠ s.id)
    ⟨fun ⟨hkind, hepoch, hvalid, hid⟩ => ⟨hkind, hepoch, hvalid, hid⟩,
      fun ⟨hkind, hepoch, hvalid, hid⟩ => ⟨hkind, hepoch, hvalid, hid⟩⟩

omit [StdSort] in
theorem pending_startContext (c : Coordinator σ) (now : Timestamp) :
    Pending c.canonical (startContext c now) :=
  ⟨StateJournal.restores_recordScalars (Journal.restores_start _) fun _ => rfl, rfl⟩

/-- Every request but a first declaration of another cluster can be undone
wherever it stops. -/
theorem settled_applyRequest {s₀ : ClusterState} (h : Pending s₀ ctx)
    (hother : ¬ DeclaresOther ctx.state request) :
    Settled (Pending s₀) (Complete s₀) (applyRequest request ctx) := by
  have hctx := keeps_validateCommon (P := fun ctx' => ctx' = ctx) request ctx rfl
  rcases hgate : validateCommon request ctx with ⟨e | ⟨⟩, ctx'⟩ <;> rw [hgate] at hctx <;>
    obtain rfl : ctx' = ctx := hctx
  · have hexit : applyRequest request ctx' = (.error e, ctx') := bind_error hgate
    rw [hexit]
    exact h
  · have hrest : applyRequest request ctx' = applyKind request ctx' := bind_ok hgate
    rw [hrest]
    by_cases hkind : request.kind = .declareCluster
    · obtain ⟨hauthorized, -⟩ := authorized_of_ends hgate
      have hdeclare : applyKind request = applyDeclareCluster request := by
        rw [applyKind, hkind]
      rw [hdeclare]
      refine settled_applyDeclareCluster h ?_
      by_contra hcon
      obtain ⟨hepoch, hid⟩ := not_or.mp hcon
      exact hother ⟨hkind, by simpa using hepoch, hauthorized.cluster_valid, hid⟩
    · exact settles_applyKind hkind ctx' h

/-- A first declaration completes, whatever cluster it names. -/
theorem applyRequest_declaresOther (h : DeclaresOther ctx.state request) :
    applyRequest request ctx = (.ok (),
      { ctx with
        journal := ctx.journal.recordScalars.update fun s => declaredState s request ctx.now
        changed := true }) := by
  have hgate : Ends (validateCommon request) ctx () ctx := by
    refine ends_get_bind.mpr ?_
    refine checks_exitIf.ends_bind.mpr ⟨by simp [h.kind_eq], ?_⟩
    refine checks_exitIf.ends_bind.mpr ⟨by simp [h.valid], ?_⟩
    rw [if_pos h.kind_eq]
    exact ends_exitIf.mpr ⟨by simp [h.undeclared], rfl⟩
  have hrest : applyRequest request ctx = applyKind request ctx := bind_ok hgate
  have hdeclare : applyKind request = applyDeclareCluster request := by rw [applyKind, h.kind_eq]
  rw [hrest, hdeclare, applyDeclareCluster_unknown h.undeclared]

omit [StdSort] in
/-- Rolling back a first declaration leaves the identity it wrote. -/
theorem rollback_declared {f : ClusterState → ClusterState} (hf : ∀ s, SameFrame (f s) s) :
    (((startContext c now).journal.recordScalars.update fun s =>
      declaredState s request now).update f).rollback =
      { c.canonical with id := request.cluster } := by
  obtain ⟨hrecords, hid⟩ := hf (declaredState c.canonical request now)
  change restoreScalars (captureScalars c.canonical) (restoreScalars (captureScalars c.canonical)
    (f (declaredState c.canonical request now))) = _
  unfold restoreScalars captureScalars
  rw [← hrecords, ← hid]
  rfl

/-- What a request can come to. -/
inductive StepCases (c : Coordinator σ) (request : MutationRequest) (now : Timestamp) :
    Coordinator σ × MutationResult → Prop
  | accepted {c' : Coordinator σ} {result : MutationResult} {s : ClusterState}
      {g : ClusterGeneration} (houtcome : result.outcome = .accepted)
      (hauthorized : Authorized c.canonical request)
      (happlied : Applied c.config now c.canonical request s)
      (hcommitted : Committed ops c now s g c') :
    StepCases c request now (c', result)
  | refused {c' : Coordinator σ} {result : MutationResult} (houtcome : result.outcome ≠ .accepted)
      (hother : ¬ DeclaresOther c.canonical request)
      (hcanonical : c'.canonical = c.canonical) (hunsaved : Unsaved ops c.store c'.store)
      (hconfig : c'.config = c.config) :
    StepCases c request now (c', result)
  | renamed {c' : Coordinator σ} {result : MutationResult} (houtcome : result.outcome ≠ .accepted)
      (hother : DeclaresOther c.canonical request)
      (hwhy : (checkInvariants (reevaluate (declaredState c.canonical request now)) none).isOk =
          true →
        SaveRefused ops c.config c.store
          (committed (declaredState c.canonical request now) (.fromRaw 2) now))
      (hcanonical : c'.canonical = { c.canonical with id := request.cluster })
      (hunsaved : Unsaved ops c.store c'.store) (hconfig : c'.config = c.config) :
    StepCases c request now (c', result)

/-- A request that completes has changed something, and one that returns early has not. -/
theorem changed_applyRequest (c : Coordinator σ) (request : MutationRequest) (now : Timestamp) :
    Settled (fun ctx => ctx.changed = false) (fun ctx => ctx.changed = true)
      (applyRequest request (startContext c now)) := by
  by_cases hother : DeclaresOther c.canonical request
  · have hcomplete : applyRequest request (startContext c now) = _ :=
      applyRequest_declaresOther hother
    rw [hcomplete]
    rfl
  · have hsettled := settled_applyRequest (pending_startContext c now) hother
    rcases happly : applyRequest request (startContext c now) with ⟨early | ⟨⟩, ctx⟩ <;>
      rw [happly] at hsettled
    · exact hsettled.2
    · exact hsettled.2

theorem applyAndCommit_complete (h : applyRequest request (startContext c now) = (.ok (), ctx)) :
    applyAndCommit ops c request now =
      commitChanged ops c request now ctx.journal acceptedChange := by
  have hchanged : ctx.changed = true := (h ▸ changed_applyRequest c request now :)
  have hresult : applyResult request (startContext c now) = (ctx, acceptedChange) := by
    rw [applyResult, h]
  rw [applyAndCommit, hresult]
  simp [concludeRequest, acceptedChange, hchanged]

/-- An early return is the answer, and canonical state is rolled back. -/
theorem applyAndCommit_early {early : EarlyReturn}
    (h : applyRequest request (startContext c now) = (.error early, ctx)) :
    ∃ noChange rejected stale, applyAndCommit ops c request now =
        ({ c with
            canonical := ctx.journal.rollback
            mutationsNoChange := noChange
            mutationsRejected := rejected
            staleReplaysRejected := stale },
          early.result.fillGenerations ctx.journal.rollback) ∧
      noChange + rejected = c.mutationsNoChange + c.mutationsRejected + 1 := by
  have hchanged : ctx.changed = false := (h ▸ changed_applyRequest c request now :)
  have hresult : applyResult request (startContext c now) = (ctx, early.result) := by
    rw [applyResult, h]
  rw [applyAndCommit, hresult]
  dsimp only [concludeRequest, refuse]
  split_ifs with hrejected hstale hrevalidation hpending
  · exact ⟨_, _, _, rfl, rfl⟩
  · exact ⟨_, _, _, rfl, rfl⟩
  · exact ⟨_, _, _, rfl, rfl⟩
  · exact ⟨_, _, _, rfl, Nat.add_right_comm _ _ _⟩
  · simp [hchanged] at hpending

/-- What a request comes to, with its answer and its counters. -/
inductive RequestShape (c : Coordinator σ) (request : MutationRequest) (now : Timestamp) :
    Coordinator σ × MutationResult → Prop
  | early {early : EarlyReturn} {ctx : ApplyContext} {noChange rejected stale : Nat}
      (happly : applyRequest request (startContext c now) = (.error early, ctx))
      (hanswered : noChange + rejected = c.mutationsNoChange + c.mutationsRejected + 1) :
    RequestShape c request now
      ({ c with
          canonical := ctx.journal.rollback
          mutationsNoChange := noChange
          mutationsRejected := rejected
          staleReplaysRejected := stale },
        early.result.fillGenerations ctx.journal.rollback)
  | complete {ctx : ApplyContext} {out : Coordinator σ × MutationResult}
      (happly : applyRequest request (startContext c now) = (.ok (), ctx))
      (hshape : CommitShape ops c request now ctx.journal acceptedChange out) :
    RequestShape c request now out

theorem applyAndCommit_shape (c : Coordinator σ) (request : MutationRequest) (now : Timestamp) :
    RequestShape ops c request now (applyAndCommit ops c request now) := by
  rcases happly : applyRequest request (startContext c now) with ⟨early | ⟨⟩, ctx⟩
  · obtain ⟨noChange, rejected, stale, heq, hanswered⟩ := applyAndCommit_early ops happly
    rw [heq]
    exact .early happly hanswered
  · rw [applyAndCommit_complete ops happly]
    exact .complete happly (commitChanged_shape ops c request now ctx.journal acceptedChange)

/-- **Inversion of a request.** -/
theorem applyAndCommit_cases (c : Coordinator σ) (request : MutationRequest) (now : Timestamp) :
    StepCases ops c request now (applyAndCommit ops c request now) := by
  rcases happly : applyRequest request (startContext c now) with ⟨early | ⟨⟩, ctx⟩
  · have hother : ¬DeclaresOther c.canonical request := by
      intro hother
      cases happly.symm.trans (applyRequest_declaresOther hother)
    have hsettled := settled_applyRequest (pending_startContext c now) hother
    rw [happly] at hsettled
    obtain ⟨_, _, _, heq, -⟩ := applyAndCommit_early ops happly
    rw [heq]
    exact .refused early.not_accepted hother (hsettled.1.rollback sameFrame_refl) .untouched rfl
  · obtain ⟨hauthorized, happlied⟩ := applied_of_ends happly
    rw [applyAndCommit_complete ops happly]
    generalize hout : commitChanged ops c request now _ acceptedChange = out
    obtain ⟨houtcome, hcommitted⟩ | ⟨houtcome, ⟨⟨f, hf, hcanonical⟩, hunsaved, hconfig⟩, hwhy⟩ :=
      hout ▸ commitChanged_cases ops c request now _ acceptedChange
    · exact .accepted houtcome hauthorized happlied hcommitted
    -- The journal of a first declaration does not hold the identity.
    by_cases hother : DeclaresOther c.canonical request
    · obtain rfl := (Prod.mk.inj (happly.symm.trans (applyRequest_declaresOther hother))).2
      exact .renamed (by simp [houtcome]) hother (fun hok => hwhy _ hok rfl)
        (hcanonical.trans (rollback_declared hf)) hunsaved hconfig
    · have hsettled := settled_applyRequest (pending_startContext c now) hother
      rw [happly] at hsettled
      have hback : (ctx.journal.update f).Restores SameFrame c.canonical :=
        hsettled.1.update fun s hs => ⟨hs.1.trans (hf _).1.symm, hs.2.trans (hf _).2.symm⟩
      exact .refused (by simp [houtcome]) hother
        (hcanonical.trans (hback.rollback sameFrame_refl)) hunsaved hconfig

/-- An accepted request passed the gates and committed what it completed. -/
theorem committed_of_accepted (h : (applyAndCommit ops c request now).2.outcome = .accepted) :
    Authorized c.canonical request ∧ ∃ s g, Applied c.config now c.canonical request s ∧
      Committed ops c now s g (applyAndCommit ops c request now).1 := by
  generalize hout : applyAndCommit ops c request now = out at h ⊢
  obtain ⟨-, hauthorized, happlied, hcommitted⟩ | ⟨hrefused, -⟩ | ⟨hrefused, -⟩ :=
    hout ▸ applyAndCommit_cases ops c request now
  · exact ⟨hauthorized, _, _, happlied, hcommitted⟩
  · exact absurd h hrefused
  · exact absurd h hrefused

/-! ## Fences -/

omit [StdSort] in
/-- A fence is rolled back at its commit exactly when its save fails. -/
theorem publishFence_cases (c : Coordinator σ) (journal : StateJournal) :
    (∃ store saves, publishFence ops c journal =
        { c.touchState with
          canonical := journal.state
          store := store
          persistenceSaves := saves
          commits := c.commits + 1
          fenceEvents := c.fenceEvents + 1 } ∧
      Saved ops c.config c.store journal.state store ∧
      (Persisting c.config c.store → saves = c.persistenceSaves + 1)) ∨
    (∃ store, publishFence ops c journal =
        { c with
          canonical := journal.rollback
          store := store
          persistenceFailures := c.persistenceFailures + 1 } ∧
      Unsaved ops c.store store) := by
  rcases persistNow_cases ops { c with canonical := journal.state } with
    ⟨store, saves, heq, hsaved, -, hsaves⟩ | ⟨store, outcome, heq, hunsaved, -⟩
  · refine .inl ⟨store, saves, ?_, hsaved, hsaves⟩
    rw [publishFence, heq]
    rfl
  · refine .inr ⟨store, ?_, hunsaved⟩
    rw [publishFence, heq]

/-! ## Refused requests -/

/-- The state of a first declaration does not pass the invariants, or the store
refuses to save it. -/
def DeclarationRefused (c : Coordinator σ) (request : MutationRequest) (now : Timestamp) : Prop :=
  (checkInvariants (reevaluate (declaredState c.canonical request now)) none).isOk = false ∨
    SaveRefused ops c.config c.store
      (committed (declaredState c.canonical request now) (.fromRaw 2) now)

theorem applied_declaresOther {config : CoordinatorConfig} {s s' : ClusterState}
    (h : Applied config now s request s') (hother : DeclaresOther s request) :
    s' = declaredState s request now := by
  have hkind := hother.kind_eq
  cases h
  case declared => rfl
  case redeclared hepoch _ => simp [hother.undeclared] at hepoch
  all_goals simp_all [MutationKind.membershipTarget, MutationKind.domainKind]

/-- **A refused request is invisible**, except for a refused first declaration of
another cluster: the identity it wrote stays. -/
theorem refused_unchanged_iff (c : Coordinator σ) (request : MutationRequest) (now : Timestamp) :
    ((applyAndCommit ops c request now).2.outcome ≠ .accepted →
        (applyAndCommit ops c request now).1.canonical = c.canonical) ↔
      ¬ (DeclaresOther c.canonical request ∧ DeclarationRefused ops c request now) := by
  generalize hout : applyAndCommit ops c request now = out
  obtain ⟨houtcome, hauthorized, happlied, hcommitted⟩ | ⟨houtcome, hother, hcanonical, -, -⟩ |
    ⟨houtcome, hother, hwhy, hcanonical, -, -⟩ := hout ▸ applyAndCommit_cases ops c request now
  · refine ⟨fun _ ⟨hother, hrefused⟩ => ?_, fun _ hne => absurd houtcome hne⟩
    obtain rfl := applied_declaresOther happlied hother
    obtain rfl := Option.some.inj hcommitted.next
    rcases hrefused with hviolated | hsave
    · simp [hcommitted.isOk] at hviolated
    · exact hcommitted.notRefused hsave
  · exact ⟨fun _ h => hother h.1, fun _ _ => hcanonical⟩
  · refine ⟨fun h _ => ?_, fun h => absurd ⟨hother, ?_⟩ h⟩
    · have hid := congrArg ClusterState.id (hcanonical.symm.trans (h houtcome))
      exact hother.ne_id hid
    · unfold DeclarationRefused
      cases hok : (checkInvariants (reevaluate (declaredState c.canonical request now)) none).isOk with
      | false => exact .inl rfl
      | true => exact .inr (hwhy hok)

end Commit

section Example

open scoped StdSort

/-- A coordinator of cluster `alpha` refuses to declare `beta`, since the save
fails, and is a coordinator of `beta` afterwards. -/
theorem refused_declaration_renames :
    let c := start failingStore.ops { cluster := .named "alpha" } (some ()) ⟨1⟩
    let out := applyAndCommit failingStore.ops c
      { kind := .declareCluster, cluster := .named "beta" } ⟨2⟩
    out.2.outcome = .rejected ∧ c.canonical.id = .named "alpha" ∧
      out.1.canonical.id = .named "beta" ∧ out.1.canonical.id ≠ c.canonical.id := by
  decide +kernel

end Example

end Coordinator

end ClusterFabric
