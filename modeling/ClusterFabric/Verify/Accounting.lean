import ClusterFabric.Verify.History

/-! # The counters of the commit path

Every request is answered on one path of `apply_and_commit`, which counts it once, as
accepted, without a change or rejected. A commit is an accepted request or an effective
fence, it saves once where commits are saved, and it advances the generation of a
declared cluster by one (`accounting_balances`).
-/

namespace ClusterFabric

open Lib
open Txn

variable {events : List Event} {requests : Nat}

namespace Coordinator

variable {σ : Type} (ops : PersistenceStore σ) {c : Coordinator σ}

/-! ## One event -/

/-- The counters after a request. -/
inductive Counted (c : Coordinator σ) : Coordinator σ × MutationResult → Prop
  | accepted {c' : Coordinator σ} {result : MutationResult} (houtcome : result.outcome = .accepted)
      (haccepted : c'.mutationsAccepted = c.mutationsAccepted + 1)
      (hnoChange : c'.mutationsNoChange = c.mutationsNoChange)
      (hrejected : c'.mutationsRejected = c.mutationsRejected)
      (hcommits : c'.commits = c.commits + 1) (hfences : c'.fenceEvents = c.fenceEvents)
      (hsaves : Persisting c.config c.store → c'.persistenceSaves = c.persistenceSaves + 1) :
    Counted c (c', result)
  | refused {c' : Coordinator σ} {result : MutationResult} (houtcome : result.outcome ≠ .accepted)
      (haccepted : c'.mutationsAccepted = c.mutationsAccepted)
      (hanswered : c'.mutationsNoChange + c'.mutationsRejected =
        c.mutationsNoChange + c.mutationsRejected + 1)
      (hcommits : c'.commits = c.commits) (hfences : c'.fenceEvents = c.fenceEvents)
      (hsaves : c'.persistenceSaves = c.persistenceSaves) :
    Counted c (c', result)

/-- The counters after a fence, of which none or one was effective. -/
structure FenceCounted (c : Coordinator σ) (effective : Nat) (c' : Coordinator σ) : Prop where
  accepted : c'.mutationsAccepted = c.mutationsAccepted
  noChange : c'.mutationsNoChange = c.mutationsNoChange
  rejected : c'.mutationsRejected = c.mutationsRejected
  commits : c'.commits = c.commits + effective
  fences : c'.fenceEvents = c.fenceEvents + effective
  saves : Persisting c.config c.store → c'.persistenceSaves = c.persistenceSaves + effective

section Events

variable [StdSort]

/-- **Every request is counted once.** -/
theorem counted_applyAndCommit (c : Coordinator σ) (request : MutationRequest) (now : Timestamp) :
    Counted c (applyAndCommit ops c request now) := by
  have hshape := applyAndCommit_shape ops c request now
  generalize applyAndCommit ops c request now = out at hshape ⊢
  cases hshape with
  | @early early _ _ _ _ _ hanswered => exact .refused early.not_accepted rfl hanswered rfl rfl rfl
  | complete _ hcommit =>
    cases hcommit with
    | saved _ _ _ _ hsaves => exact .accepted rfl rfl rfl rfl rfl rfl hsaves
    | refused _ _ houtcome =>
      refine .refused (fun haccepted => ?_) rfl rfl rfl rfl rfl
      cases houtcome.symm.trans haccepted

/-- **A fence counts as a commit and as a fence**, or not at all. -/
theorem counted_applyFence (c : Coordinator σ) (boot : RackAgentBootId) (reason : Text)
    (fencedAt now : Timestamp) :
    ∃ effective, FenceCounted c effective (applyFence ops c boot reason fencedAt now) := by
  unfold applyFence
  dsimp only
  split_ifs
  · exact ⟨0, rfl, rfl, rfl, rfl, rfl, fun _ => rfl⟩
  split
  · rcases publishFence_cases ops c _ with ⟨store, saves, heq, -, hsaves⟩ | ⟨store, heq, -⟩
    · rw [heq]
      exact ⟨1, rfl, rfl, rfl, rfl, rfl, hsaves⟩
    · rw [heq]
      exact ⟨0, rfl, rfl, rfl, rfl, rfl, fun _ => rfl⟩
  · exact ⟨0, rfl, rfl, rfl, rfl, rfl, fun _ => rfl⟩

end Events

/-! ## Runs of one incarnation -/

section Runs

variable [StdSort]

/-- The counters balance after a number of requests. -/
structure Balanced (requests : Nat) (c : Coordinator σ) : Prop where
  requests_eq : requests = c.mutationsAccepted + c.mutationsNoChange + c.mutationsRejected
  commits_eq : c.commits = c.mutationsAccepted + c.fenceEvents
  saves_eq : Persisting c.config c.store → c.persistenceSaves = c.commits

/-- The event is a request. -/
def isRequest : Event → Bool
  | .submit _ _ => true
  | _ => false

theorem balanced_submit (h : Balanced requests c) (request : MutationRequest) (now : Timestamp) :
    Balanced (requests + 1) (applyAndCommit ops c request now).1 := by
  have hpersisting := persisting_step_iff ops c (.submit request now)
  change Persisting (applyAndCommit ops c request now).1.config
    (applyAndCommit ops c request now).1.store ↔ _ at hpersisting
  generalize hout : applyAndCommit ops c request now = out at hpersisting ⊢
  obtain ⟨hrequests, hcommits, hsaves⟩ := h
  cases hout ▸ counted_applyAndCommit ops c request now with
  | accepted _ haccepted hnoChange hrejected hcommitted hfences hsaved =>
    refine ⟨?_, ?_, fun hp => ?_⟩
    · rw [haccepted, hnoChange, hrejected]
      omega
    · rw [hcommitted, haccepted, hfences]
      omega
    · rw [hsaved (hpersisting.mp hp), hcommitted, hsaves (hpersisting.mp hp)]
  | refused _ haccepted hanswered hcommitted hfences hsaved =>
    refine ⟨?_, ?_, fun hp => ?_⟩
    · dsimp only
      rw [haccepted]
      omega
    · rw [hcommitted, haccepted, hfences]
      exact hcommits
    · rw [hsaved, hcommitted]
      exact hsaves (hpersisting.mp hp)

theorem balanced_fence (h : Balanced requests c) (boot : RackAgentBootId) (reason : Text)
    (fencedAt now : Timestamp) : Balanced requests (applyFence ops c boot reason fencedAt now) := by
  have hpersisting := persisting_step_iff ops c (.fence boot reason fencedAt now)
  change Persisting (applyFence ops c boot reason fencedAt now).config
    (applyFence ops c boot reason fencedAt now).store ↔ _ at hpersisting
  obtain ⟨hrequests, hcommits, hsaves⟩ := h
  obtain ⟨effective, hcounted⟩ := counted_applyFence ops c boot reason fencedAt now
  refine ⟨?_, ?_, fun hp => ?_⟩
  · rw [hcounted.accepted, hcounted.noChange, hcounted.rejected]
    exact hrequests
  · rw [hcounted.commits, hcounted.accepted, hcounted.fences]
    omega
  · rw [hcounted.saves (hpersisting.mp hp), hcounted.commits, hsaves (hpersisting.mp hp)]

theorem balanced_run (h : Balanced requests c) (hone : ∀ event ∈ events, event.restarts = false) :
    Balanced (requests + events.countP isRequest) (run ops c events) := by
  induction events generalizing requests c with
  | nil => exact h
  | cons event rest ih =>
    have hrest : ∀ event ∈ rest, event.restarts = false :=
      fun event hmem => hone event (List.mem_cons_of_mem _ hmem)
    cases event with
    | submit request now =>
      have hrun := ih (balanced_submit ops h request now) hrest
      rw [List.countP_cons_of_pos rfl, Nat.add_comm (rest.countP isRequest), ← Nat.add_assoc]
      exact hrun
    | fence boot reason fencedAt now =>
      have hrun := ih (balanced_fence ops h boot reason fencedAt now) hrest
      rw [List.countP_cons_of_neg Bool.false_ne_true]
      exact hrun
    | restart now => exact nomatch hone _ List.mem_cons_self

/-- The cluster is declared, and its generation has grown by as much as the number of
commits since another state. -/
structure Grown (c c' : Coordinator σ) : Prop where
  declared : c'.canonical.epoch.known = true
  grown : ∃ further, c'.commits = c.commits + further ∧
    c'.canonical.generation.value = c.canonical.generation.value + further

omit [StdSort] in
theorem Grown.trans {a b : Coordinator σ} (hab : Grown a b) (hbc : Grown b c) : Grown a c where
  declared := hbc.declared
  grown := by
    obtain ⟨m, hcommits, hgeneration⟩ := hab.grown
    obtain ⟨n, hcommits', hgeneration'⟩ := hbc.grown
    exact ⟨m + n, by omega, by omega⟩

omit [StdSort] in
theorem grown_of_canonical {c' : Coordinator σ} {s : ClusterState} {further : Nat}
    (hcanonical : c'.canonical = s) (hdeclared : s.epoch.known = true)
    (hcommits : c'.commits = c.commits + further)
    (hgeneration : s.generation.value = c.canonical.generation.value + further) : Grown c c' := by
  subst hcanonical
  exact ⟨hdeclared, further, hcommits, hgeneration⟩

theorem grown_submit (hdeclared : c.canonical.epoch.known = true) (request : MutationRequest)
    (now : Timestamp) : Grown c (applyAndCommit ops c request now).1 := by
  generalize hout : applyAndCommit ops c request now = out
  have hcounted := hout ▸ counted_applyAndCommit ops c request now
  obtain ⟨houtcome, hauthorized, happlied, hcommitted⟩ | ⟨houtcome, -, hcanonical, -, -⟩ |
    ⟨-, hother, -⟩ := hout ▸ applyAndCommit_cases ops c request now
  · cases hcounted with
    | refused hnot => exact absurd houtcome hnot
    | accepted _ _ _ _ hcommits =>
      have hnext := StrongCounter.next_eq_some.mp hcommitted.next
      rw [generation_of_applied hdeclared happlied] at hnext
      have hknown := epoch_known_of_applied hauthorized happlied
      exact grown_of_canonical hcommitted.canonical hknown hcommits hnext
  · cases hcounted with
    | accepted haccepted => exact absurd haccepted houtcome
    | refused _ _ _ hcommits =>
      exact grown_of_canonical hcanonical hdeclared (hcommits.trans (Nat.add_zero _).symm) rfl
  · exact nomatch hdeclared.symm.trans hother.undeclared

theorem grown_fence (hdeclared : c.canonical.epoch.known = true) (boot : RackAgentBootId)
    (reason : Text) (fencedAt now : Timestamp) :
    Grown c (applyFence ops c boot reason fencedAt now) := by
  obtain ⟨effective, hcounted⟩ := counted_applyFence ops c boot reason fencedAt now
  obtain ⟨hcanonical, -, -, hevents⟩ | ⟨-, hg, -, hcanonical, -, -, hevents⟩ :=
    applyFence_cases ops c boot reason fencedAt now
  · have hnone : effective = 0 := by
      have hfences := hcounted.fences
      omega
    subst hnone
    exact grown_of_canonical hcanonical hdeclared hcounted.commits rfl
  · have hone : effective = 1 := by
      have hfences := hcounted.fences
      omega
    subst hone
    refine grown_of_canonical hcanonical ?_ hcounted.commits (StrongCounter.next_eq_some.mp hg)
    exact (congrArg StrongCounter.known (epoch_fencedState c.canonical boot reason fencedAt)).trans
      hdeclared

theorem grown_run (hdeclared : c.canonical.epoch.known = true)
    (hone : ∀ event ∈ events, event.restarts = false) : Grown c (run ops c events) := by
  induction events generalizing c with
  | nil => exact ⟨hdeclared, 0, rfl, rfl⟩
  | cons event rest ih =>
    have hrest : ∀ event ∈ rest, event.restarts = false :=
      fun event hmem => hone event (List.mem_cons_of_mem _ hmem)
    cases event with
    | submit request now =>
      have hstep := grown_submit ops hdeclared request now
      exact hstep.trans (ih hstep.declared hrest)
    | fence boot reason fencedAt now =>
      have hstep := grown_fence ops hdeclared boot reason fencedAt now
      exact hstep.trans (ih hstep.declared hrest)
    | restart now => exact nomatch hone _ List.mem_cons_self

/-- The counters of a new incarnation. -/
theorem balanced_start (config : CoordinatorConfig) (store : Option σ) (now : Timestamp) :
    Balanced 0 (start ops config store now) := by
  unfold start
  dsimp only
  split <;> exact ⟨rfl, rfl, fun _ => rfl⟩

/-- **The commit accounting balances** in every run of one incarnation. -/
theorem accounting_balances (config : CoordinatorConfig) (store : Option σ) (now : Timestamp)
    (events further : List Event)
    (hone : ∀ event ∈ events ++ further, event.restarts = false) :
    (events.countP isRequest = (run ops (start ops config store now) events).mutationsAccepted +
        (run ops (start ops config store now) events).mutationsNoChange +
        (run ops (start ops config store now) events).mutationsRejected ∧
      (run ops (start ops config store now) events).commits =
        (run ops (start ops config store now) events).mutationsAccepted +
        (run ops (start ops config store now) events).fenceEvents ∧
      (store.isSome = true → config.persistOnCommit = true →
        (run ops (start ops config store now) events).persistenceSaves =
          (run ops (start ops config store now) events).commits)) ∧
    ((run ops (start ops config store now) events).canonical.epoch.known = true →
      ∃ commits, (run ops (start ops config store now) (events ++ further)).commits =
          (run ops (start ops config store now) events).commits + commits ∧
        (run ops (start ops config store now) (events ++ further)).canonical.generation.value =
          (run ops (start ops config store now) events).canonical.generation.value + commits) := by
  constructor
  · have hevents : ∀ event ∈ events, event.restarts = false :=
      fun event hmem => hone event (List.mem_append_left _ hmem)
    have hbalanced := balanced_run ops (balanced_start ops config store now) hevents
    rw [Nat.zero_add] at hbalanced
    refine ⟨hbalanced.requests_eq, hbalanced.commits_eq, fun hstore hpersist => ?_⟩
    refine hbalanced.saves_eq ((persisting_run ops events).mpr ?_)
    unfold start
    dsimp only
    split <;> exact ⟨hstore, hpersist⟩
  · intro hdeclared
    rw [run_append]
    exact (grown_run ops hdeclared fun event hmem =>
      hone event (List.mem_append_right _ hmem)).grown

end Runs

/-! ## A run with every outcome -/

section Example

open scoped StdSort

/-- A declaration, two racks, one of them published twice, a fence and a request that
comes too early. -/
def bookkept : List Event :=
  [.submit (publishedRack "r1" "b1") ⟨1⟩, .submit declaration ⟨2⟩,
    .submit (publishedRack "r1" "b1") ⟨3⟩, .submit (publishedRack "r1" "b1") ⟨4⟩,
    .submit (publishedRack "r2" "b2") ⟨5⟩, .fence (.named "b1") [] ⟨6⟩ ⟨6⟩]

/-- Five requests and four commits, of which one is the fence. -/
theorem accounting_balances_bookkept :
    (∃ commits, (sample bookkept).commits = (sample (bookkept.take 2)).commits + commits ∧
      (sample bookkept).canonical.generation.value =
        (sample (bookkept.take 2)).canonical.generation.value + commits) ∧
    ((sample bookkept).mutationsAccepted, (sample bookkept).mutationsNoChange,
      (sample bookkept).mutationsRejected, (sample bookkept).fenceEvents,
      (sample bookkept).persistenceSaves) = (3, 1, 1, 1, 4) := by
  have hfacts : (∀ event ∈ bookkept.take 2 ++ bookkept.drop 2, event.restarts = false) ∧
      (sample (bookkept.take 2)).canonical.epoch.known = true ∧
      ((sample bookkept).mutationsAccepted, (sample bookkept).mutationsNoChange,
        (sample bookkept).mutationsRejected, (sample bookkept).fenceEvents,
        (sample bookkept).persistenceSaves) = (3, 1, 1, 1, 4) := by
    decide +kernel
  obtain ⟨hone, hdeclared, hcounters⟩ := hfacts
  exact ⟨(accounting_balances cellStore.ops _ _ _ (bookkept.take 2) (bookkept.drop 2)
    hone).2 hdeclared, hcounters⟩

end Example

end Coordinator

end ClusterFabric
