import ClusterFabric.Model.Submissions
import ClusterFabric.Verify.History

/-! # Submission is linearizable

`submissions_linearizable`: in every interleaving the items that were applied are
the first that were queued, in their order, and the coordinator is what they make of
it one after another. A call of `submit` is refused at once or its request is queued,
in a slot of its own, and a slot is answered at most once. When `stop` has returned,
every queued request is answered; and `stop` and the commit thread return on their
own from wherever an interleaving has led.

The stop item is behind all work, and after it nothing is queued, so that every answer
to a queued request is that of its application: `stop` finds no work in the queue.
`accepted_survives`: no accepted request is lost in a crash.
-/

namespace ClusterFabric

open Lib

variable {fencedAt now : Timestamp} {entry : SlottedItem} {slot : Nat}

/-! ## What is under way -/

/-- The item that the commit thread holds and has not applied. -/
def CommitThread.held : CommitThread → List SlottedItem
  | popped entry => [entry]
  | waiting | applied _ _ | exited => []

/-- The answer that the commit thread holds. -/
def CommitThread.owed : CommitThread → List (Nat × MutationResult)
  | applied slot result => [(slot, result)]
  | waiting | popped _ | exited => []

/-- How far the commit thread is from its return, as far as it goes without a new item. -/
def CommitThread.rank : CommitThread → Nat
  | popped _ => 3
  | applied _ _ => 2
  | waiting => 1
  | exited => 0

namespace StopThread

/-- What `stop` holds of the queue. -/
def pending : StopThread → List SlottedItem
  | draining pending => pending
  | uncalled | flagged | halted | posted | joined | returned => []

/-- The commit thread was joined. -/
def Joined : StopThread → Prop
  | joined | draining _ | returned => True
  | uncalled | flagged | halted | posted => False

/-- How far `stop` is from its return. The stop item, which it queues, counts as four. -/
def rank : StopThread → Nat
  | uncalled => 10
  | flagged => 9
  | halted => 8
  | posted => 3
  | joined => 2
  | draining _ => 1
  | returned => 0

end StopThread

namespace Submissions

variable {σ : Type}

/-- The items that were queued and are not applied. -/
def underWay (s : Submissions σ) : List SlottedItem :=
  s.commitThread.held.filter SlottedItem.isWork ++
    (s.stopThread.pending ++ s.queue).filter SlottedItem.isWork

/-- The slots that were given out, in the queue and at a refusal. -/
def slots (s : Submissions σ) : List Nat :=
  s.log.enqueued.filterMap SlottedItem.slot? ++ s.log.refused.map Prod.fst

/-- All work is ahead of the stop item. -/
def StopLast (items : List SlottedItem) : Prop :=
  items.Pairwise fun entry later => later.isWork = true → entry.isWork = true

variable [StdSort] (ops : PersistenceStore σ)

/-- Every queued item is applied or under way, in this order, and the answers are those of
the applied items. Nothing is queued behind the stop item, so that no work is left when the
commit thread has returned and `stop` drains none. -/
structure Ordered (c : Coordinator σ) (s : Submissions σ) : Prop where
  enqueued : s.log.enqueued = s.log.applied.map AppliedItem.entry ++ s.underWay
  coordinator : s.coordinator = (sequential ops c s.log.applied).1
  answered : s.log.answered ++ s.commitThread.owed = (sequential ops c s.log.applied).2
  drained : s.log.drained = []
  last : StopLast (s.commitThread.held ++ s.queue)
  live : s.stopping = false →
    s.commitThread ≠ .exited ∧ ∀ entry ∈ s.commitThread.held ++ s.queue, entry.isWork = true
  done : s.commitThread = .exited → (s.stopThread.pending ++ s.queue).filter SlottedItem.isWork = []
  exited : s.stopThread.Joined → s.commitThread = .exited
  stopping : s.stopThread ≠ .uncalled → s.stopping = true
  nodup : s.slots.Nodup
  slot_lt : ∀ slot ∈ s.slots, slot < s.submitted

section Steps

variable {ops} {c : Coordinator σ} {s s' : Submissions σ}

theorem sequential_append (items : List AppliedItem) (item : AppliedItem) :
    sequential ops c (items ++ [item]) = applyNext ops (sequential ops c items) item :=
  List.foldl_concat _ _ _ _

theorem ordered_start : Ordered ops c { coordinator := c } where
  enqueued := rfl
  coordinator := rfl
  answered := rfl
  drained := rfl
  last := .nil
  live _ := ⟨by simp, by simp [CommitThread.held]⟩
  done _ := rfl
  exited := False.elim
  stopping h := absurd rfl h
  nodup := List.nodup_nil
  slot_lt _ hslot := by cases hslot

/-- A new slot is one that was not given out. -/
theorem Ordered.slot_fresh (h : Ordered ops c s) : s.submitted ∉ s.slots :=
  fun hmem => Nat.lt_irrefl _ (h.slot_lt _ hmem)

/-- Work is queued while the coordinator is not stopping. -/
theorem Ordered.push (h : Ordered ops c s) (hopen : s.stopping = false)
    (hwork : entry.isWork = true) (submitted : Nat)
    (hslot : (entry.slot?.toList ++ s.slots).Nodup)
    (hlt : ∀ slot ∈ entry.slot?.toList ++ s.slots, slot < submitted) :
    Ordered ops c { s.push entry with submitted := submitted } := by
  obtain ⟨hlive, hall⟩ := h.live hopen
  have hslots : (s.push entry).slots.Perm (entry.slot?.toList ++ s.slots) := by
    unfold slots Submissions.push
    rw [List.filterMap_append, List.append_assoc]
    refine List.perm_append_comm_assoc _ _ _ |>.trans ?_
    refine List.Perm.append_right _ ?_
    cases entry <;> rfl
  have hqueue : s.commitThread.held ++ (s.push entry).queue =
      (s.commitThread.held ++ s.queue) ++ [entry] := (List.append_assoc ..).symm
  refine { h with
    enqueued := ?_, last := ?_, live := fun _ => ⟨hlive, ?_⟩
    done := fun hexited => absurd hexited hlive
    nodup := hslots.nodup_iff.mpr hslot, slot_lt := ?_ }
  · change s.log.enqueued ++ [entry] = _
    rw [h.enqueued]
    simp [underWay, Submissions.push, hwork]
  · change StopLast (s.commitThread.held ++ (s.push entry).queue)
    rw [hqueue]
    exact List.pairwise_append.mpr ⟨h.last, List.pairwise_singleton _ _,
      fun earlier hearlier _ _ _ => hall earlier hearlier⟩
  · change ∀ other ∈ s.commitThread.held ++ (s.push entry).queue, other.isWork = true
    rw [hqueue]
    intro other hother
    rcases List.mem_append.mp hother with hother | hother
    · exact hall other hother
    · exact List.mem_singleton.mp hother ▸ hwork
  · exact fun slot hmem => hlt slot (hslots.mem_iff.mp hmem)

omit [StdSort] in
/-- A request is queued while the coordinator is not stopping. -/
theorem stopping_of_submit {request : MutationRequest} {queue : CommitQueue}
    (hqueued : s.commitQueue.submit request = .ok queue) : s.stopping = false := by
  cases hstopping : s.stopping with
  | false => rfl
  | true =>
    simp only [CommitQueue.submit, commitQueue, hstopping] at hqueued
    split_ifs at hqueued

/-- A request that is refused at once is answered in a slot of its own. -/
theorem Ordered.submit (h : Ordered ops c s) (request : MutationRequest) :
    Ordered ops c (s.submit request) := by
  have hfresh := h.slot_fresh
  have hlt : ∀ slot ∈ s.submitted :: s.slots, slot < s.submitted + 1 := by
    intro slot hmem
    rcases List.mem_cons.mp hmem with rfl | hmem
    · exact Nat.lt_succ_self _
    · exact Nat.lt_succ_of_lt (h.slot_lt slot hmem)
  have hnodup : (s.submitted :: s.slots).Nodup := List.nodup_cons.mpr ⟨hfresh, h.nodup⟩
  unfold Submissions.submit
  split
  · rename_i result _
    have hslots : ∀ result : MutationResult, (s.log.enqueued.filterMap SlottedItem.slot? ++
        (s.log.refused ++ [(s.submitted, result)]).map Prod.fst).Perm
          (s.submitted :: s.slots) := by
      intro result
      rw [List.map_append, ← List.append_assoc]
      exact List.perm_append_singleton _ _
    exact { h with
      nodup := (hslots result).nodup_iff.mpr hnodup
      slot_lt := fun slot hmem => hlt slot ((hslots result).mem_iff.mp hmem) }
  · rename_i hqueued
    exact h.push (stopping_of_submit hqueued) rfl _ hnodup hlt

theorem Ordered.fenceBoot (h : Ordered ops c s) (boot : RackAgentBootId) (reason : Text) :
    Ordered ops c (s.fenceBoot boot reason) := by
  unfold Submissions.fenceBoot
  split_ifs with hqueued
  · refine h.push ?_ rfl s.submitted h.nodup h.slot_lt
    cases hstopping : s.stopping with
    | false => rfl
    | true => simp [CommitQueue.fenceBoot, commitQueue, hstopping] at hqueued
  · exact h

/-- Before the join `stop` holds nothing of the queue. -/
theorem Ordered.of_live (h : Ordered ops c s) (hlive : s.commitThread ≠ .exited) :
    ¬ s.stopThread.Joined ∧ s.stopThread.pending = [] := by
  have hnot : ¬ s.stopThread.Joined := fun hjoined => hlive (h.exited hjoined)
  refine ⟨hnot, ?_⟩
  cases hstop : s.stopThread with
  | draining pending =>
    rw [hstop] at hnot
    exact absurd trivial hnot
  | uncalled | flagged | halted | posted | joined | returned => rfl

/-- The commit thread applies the item that it holds. -/
theorem Ordered.apply (h : Ordered ops c s) (hthread : s.commitThread = .popped entry)
    (hwork : entry.isWork = true) {coordinator : Coordinator σ} {commitThread : CommitThread}
    (hheld : commitThread.held = []) (hgoes : commitThread ≠ .exited)
    (hnext : ∀ answers, applyNext ops (s.coordinator, answers) ⟨entry, fencedAt, now⟩ =
      (coordinator, answers ++ commitThread.owed)) :
    Ordered ops c
      { s with
        coordinator := coordinator
        commitThread := commitThread
        log := { s.log with applied := s.log.applied ++ [⟨entry, fencedAt, now⟩] } } := by
  obtain ⟨hnot, hpending⟩ := h.of_live (by simp [hthread])
  have hlast := h.last
  have hlive := h.live
  have henqueued := h.enqueued
  rw [hthread] at hlast hlive
  rw [underWay, hthread, hpending] at henqueued
  have hbefore : sequential ops c s.log.applied = (s.coordinator, s.log.answered) := by
    have hanswered := h.answered
    rw [hthread] at hanswered
    simp only [CommitThread.owed, List.append_nil] at hanswered
    rw [h.coordinator, hanswered]
  have hafter : sequential ops c (s.log.applied ++ [⟨entry, fencedAt, now⟩]) =
      (coordinator, s.log.answered ++ commitThread.owed) := by
    rw [sequential_append, hbefore, hnext]
  refine { h with
    enqueued := ?_, coordinator := by rw [hafter], answered := by rw [hafter], last := ?_
    live := fun hopen => ⟨hgoes, ?_⟩, done := fun hexited => absurd hexited hgoes
    exited := fun hjoined => absurd hjoined hnot }
  · have hpopped : (CommitThread.popped entry).held = [entry] := rfl
    rw [henqueued]
    simp [underWay, hheld, hpending, hpopped, hwork]
  · rw [hheld]
    exact (List.pairwise_cons.mp hlast).2
  · rw [hheld]
    exact fun other hother => (hlive hopen).2 other (List.mem_cons_of_mem _ hother)

/-- The commit thread takes the oldest queued item, applies it and answers it. -/
theorem Ordered.commitStep (h : Ordered ops c s) (hstep : s.commitStep ops fencedAt now = some s') :
    Ordered ops c s' := by
  have hlast := h.last
  have hlive := h.live
  have henqueued := h.enqueued
  have hanswered := h.answered
  unfold Submissions.commitStep at hstep
  split at hstep
  · rename_i hthread
    obtain ⟨hnot, hpending⟩ := h.of_live (by simp [hthread])
    rw [underWay, hthread, hpending] at henqueued
    rw [hthread] at hanswered hlast hlive
    split at hstep
    · rename_i hqueue
      split_ifs at hstep with hstopping
      obtain rfl := Option.some.inj hstep
      refine { h with
        enqueued := ?_, answered := hanswered, last := hlast, exited := fun _ => rfl
        live := fun hopen => Bool.noConfusion (hstopping.symm.trans hopen)
        done := fun _ => by simp [hpending, hqueue] }
      rw [henqueued]
      simp [underWay, hpending, CommitThread.held]
    · rename_i entry queue hqueue
      obtain rfl := Option.some.inj hstep
      rw [hqueue] at hlast hlive
      refine { h with
        enqueued := ?_, answered := hanswered, last := hlast
        live := fun hopen => ⟨by simp, (hlive hopen).2⟩, done := by simp
        exited := fun hjoined => absurd hjoined hnot }
      rw [henqueued, hqueue, underWay, hpending]
      exact congrArg _ (List.filter_append [entry] queue)
  · rename_i entry hthread
    obtain rfl := Option.some.inj hstep
    cases entry with
    | mutation slot request => exact h.apply hthread rfl rfl (by simp) fun _ => rfl
    | fence boot reason =>
      exact h.apply hthread rfl rfl (by simp) fun _ => by simp [applyNext, CommitThread.owed]
    | stop =>
      obtain ⟨hnot, hpending⟩ := h.of_live (by simp [hthread])
      rw [underWay, hthread] at henqueued
      rw [hthread] at hanswered hlast hlive
      obtain ⟨hrest, hlast⟩ := List.pairwise_cons.mp hlast
      refine { h with
        enqueued := henqueued, answered := hanswered, last := hlast, exited := fun _ => rfl
        live := fun hopen => absurd ((hlive hopen).2 .stop List.mem_cons_self) Bool.false_ne_true
        done := fun _ => List.filter_eq_nil_iff.mpr fun later hlater hwork => ?_ }
      change later ∈ s.stopThread.pending ++ s.queue at hlater
      rw [hpending] at hlater
      exact Bool.false_ne_true (hrest later hlater hwork)
  · rename_i slot result hthread
    obtain rfl := Option.some.inj hstep
    obtain ⟨hnot, -⟩ := h.of_live (by simp [hthread])
    rw [underWay, hthread] at henqueued
    rw [hthread] at hanswered hlast hlive
    refine { h with
      enqueued := henqueued, answered := ?_, last := hlast
      live := fun hopen => ⟨by simp, (hlive hopen).2⟩, done := by simp
      exited := fun hjoined => absurd hjoined hnot }
    rw [← hanswered]
    exact List.append_nil _
  · cases hstep

/-- `stop` goes on and neither applies nor drains anything. -/
theorem Ordered.move (h : Ordered ops c s) {queue : List SlottedItem} {running stopping : Bool}
    {stopThread : StopThread}
    (hwork : (stopThread.pending ++ queue).filter SlottedItem.isWork =
      (s.stopThread.pending ++ s.queue).filter SlottedItem.isWork)
    (hlast : StopLast (s.commitThread.held ++ queue))
    (hexited : stopThread.Joined → s.commitThread = .exited) (hstopping : stopping = true) :
    Ordered ops c
      { s with
        queue := queue
        running := running
        stopping := stopping
        stopThread := stopThread } := by
  have henqueued := h.enqueued
  rw [underWay, ← hwork] at henqueued
  exact { h with
    enqueued := henqueued, last := hlast, exited := hexited, stopping := fun _ => hstopping
    live := fun hopen => Bool.noConfusion (hstopping.symm.trans hopen)
    done := fun hexit => hwork.trans (h.done hexit) }

/-- `stop` closes the queue, joins the commit thread and drains what is left. -/
theorem Ordered.stopStep (h : Ordered ops c s) (hstep : s.stopStep = some s') :
    Ordered ops c s' := by
  have hstopping := h.stopping
  have hexited := h.exited
  unfold Submissions.stopStep at hstep
  split at hstep
  case h_1 hthread =>
    obtain rfl := Option.some.inj hstep
    exact h.move (by rw [hthread]; rfl) h.last False.elim rfl
  case h_2 hthread =>
    obtain rfl := Option.some.inj hstep
    exact h.move (by rw [hthread]; rfl) h.last False.elim (hstopping (by simp [hthread]))
  case h_3 hthread =>
    obtain rfl := Option.some.inj hstep
    refine h.move ?_ ?_ False.elim rfl
    · simp [hthread, StopThread.pending, SlottedItem.isWork]
    · rw [← List.append_assoc]
      exact List.pairwise_append.mpr ⟨h.last, List.pairwise_singleton _ _,
        by simp [SlottedItem.isWork]⟩
  case h_4 hthread =>
    split at hstep
    · rename_i hexit
      obtain rfl := Option.some.inj hstep
      exact h.move (by rw [hthread]; rfl) h.last (fun _ => hexit) (hstopping (by simp [hthread]))
    all_goals cases hstep
  case h_5 hthread =>
    obtain rfl := Option.some.inj hstep
    have hexit := hexited (hthread ▸ trivial)
    refine h.move ?_ ?_ (fun _ => hexit) (hstopping (by simp [hthread]))
    · simp [hthread, StopThread.pending]
    · rw [hexit]
      exact List.Pairwise.nil
  case h_6 hthread =>
    obtain rfl := Option.some.inj hstep
    exact h.move (by rw [hthread]; rfl) h.last (fun _ => hexited (hthread ▸ trivial))
      (hstopping (by simp [hthread]))
  case h_7 entry pending hthread =>
    obtain rfl := Option.some.inj hstep
    have hexit := hexited (hthread ▸ trivial)
    have hnone := h.done hexit
    rw [hthread] at hnone
    -- no work is left, so that only the stop item can be there
    cases entry with
    | mutation slot request => cases hnone
    | fence boot reason => cases hnone
    | stop =>
      have hmove : Ordered ops c { s with stopThread := .draining pending } :=
        h.move (by rw [hthread]; rfl) h.last (fun _ => hexit) (hstopping (by simp [hthread]))
      simpa [SlottedItem.shutDown?, SlottedItem.isWork] using hmove
  case h_8 => cases hstep

theorem Ordered.step (h : Ordered ops c s) (action : Action) :
    Ordered ops c (step ops s action) := by
  cases action with
  | submit request => exact h.submit request
  | fence boot reason => exact h.fenceBoot boot reason
  | commit fencedAt now =>
    change Ordered ops c ((s.commitStep ops fencedAt now).getD s)
    cases hstep : s.commitStep ops fencedAt now with
    | none => exact h
    | some s' => exact h.commitStep hstep
  | stop =>
    change Ordered ops c (s.stopStep.getD s)
    cases hstep : s.stopStep with
    | none => exact h
    | some s' => exact h.stopStep hstep

theorem ordered_run (c : Coordinator σ) (actions : List Action) :
    Ordered ops c (run ops c actions) :=
  runFrom_invariant _ (fun _ action h => h.step action) ordered_start actions

end Steps

/-! ## What a step leaves -/

section Frame

variable {ops} {c : Coordinator σ} {s s' s'' : Submissions σ} {submits submits' : Nat}

/-- The calls of `submit` are counted, and what was queued or refused stays so. -/
structure Follows (submits : Nat) (s s' : Submissions σ) : Prop where
  submitted : s'.submitted = s.submitted + submits
  enqueued : s.log.enqueued <+: s'.log.enqueued
  refused : s.log.refused <+: s'.log.refused

omit [StdSort] in
theorem Follows.same (hsubmitted : s'.submitted = s.submitted)
    (henqueued : s.log.enqueued = s'.log.enqueued) (hrefused : s.log.refused = s'.log.refused) :
    Follows 0 s s' :=
  ⟨hsubmitted, henqueued ▸ List.prefix_refl _, hrefused ▸ List.prefix_refl _⟩

omit [StdSort] in
theorem Follows.trans (h : Follows submits s s') (h' : Follows submits' s' s'') :
    Follows (submits + submits') s s'' where
  submitted := by rw [h'.submitted, h.submitted, Nat.add_assoc]
  enqueued := h.enqueued.trans h'.enqueued
  refused := h.refused.trans h'.refused

/-- The commit thread touches neither `stop` nor what was submitted. -/
theorem follows_commitStep (hstep : s.commitStep ops fencedAt now = some s') :
    s'.stopThread = s.stopThread ∧ Follows 0 s s' := by
  unfold commitStep at hstep
  split at hstep
  · split at hstep
    · split_ifs at hstep
      obtain rfl := Option.some.inj hstep
      exact ⟨rfl, .same rfl rfl rfl⟩
    · obtain rfl := Option.some.inj hstep
      exact ⟨rfl, .same rfl rfl rfl⟩
  · rename_i entry _
    obtain rfl := Option.some.inj hstep
    cases entry <;> exact ⟨rfl, .same rfl rfl rfl⟩
  · obtain rfl := Option.some.inj hstep
    exact ⟨rfl, .same rfl rfl rfl⟩
  · cases hstep

omit [StdSort] in
theorem follows_stopStep (hstep : s.stopStep = some s') : Follows 0 s s' := by
  unfold stopStep at hstep
  split at hstep
  case h_4 =>
    split at hstep
    · obtain rfl := Option.some.inj hstep
      exact .same rfl rfl rfl
    all_goals cases hstep
  case h_8 => cases hstep
  all_goals
    obtain rfl := Option.some.inj hstep
    exact .same rfl rfl rfl

def Action.isSubmit : Action → Bool
  | submit _ => true
  | fence _ _ | commit _ _ | stop => false

theorem follows_step (s : Submissions σ) (action : Action) :
    Follows (action.isSubmit.toNat) s (step ops s action) := by
  cases action with
  | submit request =>
    change Follows 1 s (s.submit request)
    unfold Submissions.submit
    split
    · exact ⟨rfl, List.prefix_refl _, List.prefix_append _ _⟩
    · exact ⟨rfl, List.prefix_append _ _, List.prefix_refl _⟩
  | fence boot reason =>
    change Follows 0 s (s.fenceBoot boot reason)
    unfold Submissions.fenceBoot
    split_ifs
    · exact ⟨rfl, List.prefix_append _ _, List.prefix_refl _⟩
    · exact .same rfl rfl rfl
  | commit fencedAt now =>
    change Follows 0 s ((s.commitStep ops fencedAt now).getD s)
    cases hstep : s.commitStep ops fencedAt now with
    | none => exact .same rfl rfl rfl
    | some s' => exact (follows_commitStep hstep).2
  | stop =>
    change Follows 0 s (s.stopStep.getD s)
    cases hstep : s.stopStep with
    | none => exact .same rfl rfl rfl
    | some s' => exact follows_stopStep hstep

theorem follows_run (s : Submissions σ) (actions : List Action) :
    Follows (actions.countP Action.isSubmit) s (runFrom (step ops) s actions) := by
  induction actions generalizing s with
  | nil => exact .same rfl rfl rfl
  | cons action actions ih =>
    have hstep : Follows _ s (step ops s action) := follows_step s action
    have h := hstep.trans (ih _)
    rw [Nat.add_comm] at h
    rw [List.countP_cons]
    cases action <;> exact h

end Frame

/-! ## Answers -/

section Answers

variable {ops} {c : Coordinator σ} {s : Submissions σ}

/-- The answers of the items are in their slots. -/
theorem slots_sequential (items : List AppliedItem) :
    (sequential ops c items).2.map Prod.fst =
      (items.map AppliedItem.entry).filterMap SlottedItem.slot? := by
  induction items using List.reverseRecOn with
  | nil => rfl
  | append_singleton items item ih =>
    rw [sequential_append, List.map_append, List.filterMap_append, ← ih]
    unfold applyNext
    cases hentry : item.entry <;> simp [hentry, SlottedItem.slot?]

/-- An answer of the sequential run is that of one item, applied after those before it. -/
theorem exists_applied_of_mem {items : List AppliedItem} {result : MutationResult}
    (h : (slot, result) ∈ (sequential ops c items).2) :
    ∃ before request fencedAt now after,
      items = before ++ ⟨.mutation slot request, fencedAt, now⟩ :: after ∧
      result = ((sequential ops c before).1.applyAndCommit ops request now).2 := by
  induction items using List.reverseRecOn with
  | nil => cases h
  | append_singleton items item ih =>
    have hearlier : (slot, result) ∈ (sequential ops c items).2 →
        ∃ before request fencedAt now after,
          items ++ [item] = before ++ ⟨.mutation slot request, fencedAt, now⟩ :: after ∧
          result = ((sequential ops c before).1.applyAndCommit ops request now).2 := by
      intro hmem
      obtain ⟨before, request, fencedAt, now, after, rfl, hresult⟩ := ih hmem
      exact ⟨before, request, fencedAt, now, after ++ [item], by simp, hresult⟩
    obtain ⟨entry, fencedAt, now⟩ := item
    rw [sequential_append] at h
    cases entry with
    | fence boot reason => exact hearlier h
    | stop => exact hearlier h
    | mutation slot' request =>
      rcases List.mem_append.mp h with hmem | hmem
      · exact hearlier hmem
      · obtain ⟨rfl, rfl⟩ := Prod.mk.inj (List.mem_singleton.mp hmem)
        exact ⟨items, request, fencedAt, now, [], rfl, rfl⟩

/-- The slots of the answers are the first of those that were queued. -/
theorem Ordered.slots_answered (h : Ordered ops c s) :
    s.log.enqueued.filterMap SlottedItem.slot? =
      s.log.answered.map Prod.fst ++ s.commitThread.owed.map Prod.fst ++
        s.underWay.filterMap SlottedItem.slot? := by
  rw [← List.map_append, h.answered, h.enqueued, slots_sequential, List.filterMap_append]

end Answers

/-- What an answer is: the result of applying the request, once and in its turn. -/
def AnswerOf (c : Coordinator σ) (s : Submissions σ) (slot : Nat) (result : MutationResult) :
    Prop :=
  ∃ before request fencedAt now after,
    s.log.applied = before ++ ⟨.mutation slot request, fencedAt, now⟩ :: after ∧
    result = ((sequential ops c before).1.applyAndCommit ops request now).2

/-- The interleaving so far amounts to one sequence of applications. -/
structure Linearized (c : Coordinator σ) (s : Submissions σ) : Prop where
  /-- What was applied is what was queued first, in its order. -/
  fifo : s.log.applied.map AppliedItem.entry <+: s.log.enqueued
  coordinator : s.coordinator = (sequential ops c s.log.applied).1
  /-- No slot is given out twice. -/
  slots : s.slots.Nodup
  /-- No slot is answered twice. -/
  once : (s.log.answered.map Prod.fst).Nodup
  answers : ∀ answer ∈ s.log.answered, AnswerOf ops c s answer.1 answer.2
  refused : ∀ answer ∈ s.log.refused, ∀ item ∈ s.log.applied, item.entry.slot? ≠ some answer.1

theorem Ordered.linearized {c : Coordinator σ} {s : Submissions σ} (h : Ordered ops c s) :
    Linearized ops c s := by
  have hnodup := List.nodup_append.mp h.nodup
  refine ⟨⟨_, h.enqueued.symm⟩, h.coordinator, h.nodup, ?_, ?_, ?_⟩
  · rw [h.slots_answered, List.append_assoc] at hnodup
    exact (List.nodup_append.mp hnodup.1).1
  · rintro ⟨slot, result⟩ hanswer
    have hmem := List.mem_append_left s.commitThread.owed hanswer
    rw [h.answered] at hmem
    exact exists_applied_of_mem hmem
  · intro answer hanswer item hitem hslot
    refine hnodup.2.2 answer.1 (List.mem_filterMap.mpr ⟨item.entry, ?_, hslot⟩) answer.1
      (List.mem_map_of_mem hanswer) rfl
    rw [h.enqueued]
    exact List.mem_append_left _ (List.mem_map_of_mem hitem)

/-- When `stop` has returned, every request that was queued is answered. -/
theorem Ordered.answered_of_returned {c : Coordinator σ} {s : Submissions σ} (h : Ordered ops c s)
    (hreturned : s.stopThread = .returned) {request : MutationRequest}
    (hqueued : .mutation slot request ∈ s.log.enqueued) :
    ∃ result, (slot, result) ∈ s.log.answered := by
  have hexit := h.exited (hreturned ▸ trivial)
  have hslots := h.slots_answered
  rw [underWay, h.done hexit, hexit] at hslots
  have hslot : slot ∈ s.log.enqueued.filterMap SlottedItem.slot? :=
    List.mem_filterMap.mpr ⟨_, hqueued, rfl⟩
  rw [hslots] at hslot
  simp only [CommitThread.owed, CommitThread.held, List.map_nil, List.filter_nil, List.append_nil,
    List.filterMap_nil] at hslot
  obtain ⟨⟨_, result⟩, hanswer, rfl⟩ := List.mem_map.mp hslot
  exact ⟨result, hanswer⟩

/-- What `submit` made of the call that owns a slot: the call was refused, or its request
was queued, and not both. -/
inductive Placed (log : SubmissionLog) (slot : Nat) (request : MutationRequest) :
    Except MutationResult CommitQueue → Prop
  | refused {result : MutationResult} (hrefused : (slot, result) ∈ log.refused)
      (hnot : ∀ entry ∈ log.enqueued, entry.slot? ≠ some slot) :
        Placed log slot request (.error result)
  | queued {queue : CommitQueue} (hqueued : .mutation slot request ∈ log.enqueued)
      (hnot : ∀ answer ∈ log.refused, answer.1 ≠ slot) : Placed log slot request (.ok queue)

/-- A call of `submit` owns the slot of its number, and what it made of it stays. -/
theorem placed_run (c : Coordinator σ) (before : List Action) (request : MutationRequest)
    (after : List Action) :
    Placed (run ops c (before ++ .submit request :: after)).log (before.countP Action.isSubmit)
      request ((run ops c before).commitQueue.submit request) := by
  have hordered : Ordered ops c (run ops c (before ++ .submit request :: after)) := ordered_run c _
  have hnodup := (List.nodup_append.mp hordered.nodup).2.2
  have hcount : (run ops c before).submitted = before.countP Action.isSubmit :=
    (follows_run _ before).submitted.trans (Nat.zero_add _)
  rw [← hcount]
  generalize hfinal : run ops c (before ++ .submit request :: after) = final at hnodup ⊢
  have hfollows :
      Follows (after.countP Action.isSubmit) ((run ops c before).submit request) final := by
    have hrun := runFrom_append (step ops) { coordinator := c } before (.submit request :: after)
    rw [← hfinal, show run ops c _ = _ from hrun]
    exact follows_run _ after
  generalize run ops c before = s at hfollows ⊢
  unfold Submissions.submit at hfollows
  split at hfollows
  · rename_i result hrefused
    have hmem := hfollows.refused.subset (List.mem_append_right _ List.mem_cons_self)
    rw [hrefused]
    refine .refused hmem fun entry hentry hslot => ?_
    exact hnodup _ (List.mem_filterMap.mpr ⟨entry, hentry, hslot⟩) _ (List.mem_map_of_mem hmem) rfl
  · rename_i queue hqueued
    have hmem := hfollows.enqueued.subset (List.mem_append_right _ List.mem_cons_self)
    rw [hqueued]
    refine .queued hmem fun answer hanswer hslot => ?_
    exact hnodup _ (List.mem_filterMap.mpr ⟨_, hmem, rfl⟩) _
      (List.mem_map_of_mem hanswer) hslot.symm

/-! ## Progress -/

section Progress

variable {ops} {c : Coordinator σ} {s s' : Submissions σ}

/-- A bound on the steps that the commit thread and `stop` have left. A queued item is
taken, applied and answered; the stop item is queued on the way. -/
def rank (s : Submissions σ) : Nat :=
  4 * (s.stopThread.pending.length + s.queue.length) + s.commitThread.rank + s.stopThread.rank

theorem rank_commitStep (hstep : s.commitStep ops fencedAt now = some s') : s'.rank < s.rank := by
  unfold commitStep at hstep
  split at hstep
  · rename_i hthread
    split at hstep
    · split_ifs at hstep
      obtain rfl := Option.some.inj hstep
      simp [rank, hthread, CommitThread.rank]
    · rename_i hqueue
      obtain rfl := Option.some.inj hstep
      simp only [rank, hthread, hqueue, CommitThread.rank, List.length_cons]
      omega
  · rename_i entry hthread
    obtain rfl := Option.some.inj hstep
    cases entry <;> simp [rank, serve, hthread, CommitThread.rank]
  · rename_i hthread
    obtain rfl := Option.some.inj hstep
    simp [rank, hthread, CommitThread.rank]
  · cases hstep

omit [StdSort] in
theorem rank_stopStep (hstep : s.stopStep = some s') : s'.rank < s.rank := by
  unfold stopStep at hstep
  split at hstep
  case h_4 hthread =>
    split at hstep
    · obtain rfl := Option.some.inj hstep
      simp [rank, hthread, StopThread.rank, StopThread.pending]
    all_goals cases hstep
  case h_8 => cases hstep
  all_goals
    rename_i hthread
    obtain rfl := Option.some.inj hstep
    simp only [rank, hthread, StopThread.rank, StopThread.pending, List.length_append,
      List.length_cons, List.length_nil]
    omega

/-- Unless `stop` has returned, it can go on or the commit thread can. -/
theorem Ordered.enabled (h : Ordered ops c s) (hnot : s.stopThread ≠ .returned)
    (fencedAt now : Timestamp) :
    s.stopStep.isSome = true ∨ (s.commitStep ops fencedAt now).isSome = true := by
  unfold Submissions.stopStep Submissions.commitStep
  cases hstop : s.stopThread with
  | returned => exact absurd hstop hnot
  | posted =>
    have hstopping := h.stopping (by simp [hstop])
    cases hcommit : s.commitThread with
    | waiting => cases hqueue : s.queue <;> simp [hstopping]
    | popped entry => simp
    | applied slot result => simp
    | exited => simp
  | draining pending => cases pending <;> simp
  | uncalled | flagged | halted | joined => simp

/-- One step of `stop` and one of the commit thread. -/
def round (ops : PersistenceStore σ) (s : Submissions σ) (clock : Timestamp × Timestamp) :
    Submissions σ :=
  step ops (step ops s .stop) (.commit clock.1 clock.2)

theorem rank_round (h : Ordered ops c s) (hnot : s.stopThread ≠ .returned)
    (clock : Timestamp × Timestamp) : (round ops s clock).rank < s.rank := by
  have hcommit : ∀ s : Submissions σ, (step ops s (.commit clock.1 clock.2)).rank ≤ s.rank := by
    intro s
    change ((s.commitStep ops clock.1 clock.2).getD s).rank ≤ _
    cases hstep : s.commitStep ops clock.1 clock.2 with
    | none => exact le_refl _
    | some s' => exact (rank_commitStep hstep).le
  unfold round
  cases hstop : s.stopStep with
  | some s' =>
    refine (hcommit _).trans_lt ?_
    change (s.stopStep.getD s).rank < _
    rw [hstop]
    exact rank_stopStep hstop
  | none =>
    have hsame : step ops s .stop = s := by
      change s.stopStep.getD s = s
      rw [hstop]
      rfl
    rw [hsame]
    change ((s.commitStep ops clock.1 clock.2).getD s).rank < _
    rcases h.enabled hnot clock.1 clock.2 with hsome | hsome
    · rw [hstop] at hsome
      cases hsome
    · obtain ⟨s', hstep⟩ := Option.isSome_iff_exists.mp hsome
      rw [hstep]
      exact rank_commitStep hstep

theorem returned_round (hreturned : s.stopThread = .returned) (clock : Timestamp × Timestamp) :
    (round ops s clock).stopThread = .returned := by
  have hsame : step ops s .stop = s := by
    change s.stopStep.getD s = s
    rw [Submissions.stopStep, hreturned]
    rfl
  rw [round, hsame]
  change ((s.commitStep ops clock.1 clock.2).getD s).stopThread = _
  cases hstep : s.commitStep ops clock.1 clock.2 with
  | none => exact hreturned
  | some s' => exact (follows_commitStep hstep).1.trans hreturned

/-- The commit thread and `stop` return, whatever the clock shows. -/
theorem Ordered.returns (h : Ordered ops c s) {rounds : List (Timestamp × Timestamp)}
    (hle : s.rank ≤ rounds.length) : (runFrom (round ops) s rounds).stopThread = .returned := by
  induction rounds generalizing s with
  | nil =>
    have hzero : s.stopThread.rank = 0 := by
      rw [rank, List.length_nil] at hle
      omega
    change s.stopThread = .returned
    cases hstop : s.stopThread <;> rw [hstop] at hzero <;> first | rfl | cases hzero
  | cons clock rounds ih =>
    by_cases hreturned : s.stopThread = .returned
    · exact runFrom_invariant (P := fun s => s.stopThread = .returned) (round ops)
        (fun _ clock hs => returned_round hs clock) (returned_round hreturned clock) rounds
    · have hlt := rank_round h hreturned clock
      rw [List.length_cons] at hle
      exact ih ((h.step .stop).step _) (by omega)

end Progress

/-- **Submission is linearizable, and every call of `submit` is refused or answered once.** -/
theorem submissions_linearizable (c : Coordinator σ) (actions : List Action) :
    Linearized ops c (run ops c actions) ∧
      (∀ before request after, actions = before ++ .submit request :: after →
        Placed (run ops c actions).log (before.countP Action.isSubmit) request
          ((run ops c before).commitQueue.submit request)) ∧
      (run ops c actions).log.drained = [] ∧
      ((run ops c actions).stopThread = .returned →
        ∀ slot request, .mutation slot request ∈ (run ops c actions).log.enqueued →
          ∃ result, (slot, result) ∈ (run ops c actions).log.answered) ∧
      ∃ n, ∀ rounds, n ≤ rounds.length →
        (runFrom (round ops) (run ops c actions) rounds).stopThread = .returned := by
  have h : Ordered ops c (run ops c actions) := ordered_run c actions
  refine ⟨h.linearized, ?_, h.drained, ?_, _, fun _ hle => h.returns hle⟩
  · rintro before request after rfl
    exact placed_run ops c before request after
  · exact fun hreturned _ _ hqueued => h.answered_of_returned ops hreturned hqueued

/-! ## Answers and crashes -/

/-- What the commit thread does with an item. -/
def event? : AppliedItem → Option Event
  | ⟨.mutation _ request, _, now⟩ => some (.submit request now)
  | ⟨.fence boot reason, fencedAt, now⟩ => some (.fence boot reason fencedAt now)
  | ⟨.stop, _, _⟩ => none

theorem sequential_eq_run (c : Coordinator σ) (items : List AppliedItem) :
    (sequential ops c items).1 = c.run ops (items.filterMap event?) := by
  induction items using List.reverseRecOn with
  | nil => rfl
  | append_singleton items item ih =>
    rw [sequential_append, List.filterMap_append, Coordinator.run_append, ← ih]
    obtain ⟨entry, fencedAt, now⟩ := item
    cases entry <;> rfl

open Coordinator in
/-- **No accepted request is lost in a crash**: at any point of any interleaving, what a
restart would recover is no earlier than the state in which the request was answered. -/
theorem accepted_survives {fs : FaithfulStore σ} {c : Coordinator σ} (hreachable : Reachable fs c)
    (hpersisting : Persisting c.config c.store) (actions : List Action) {result : MutationResult}
    (hanswer : (slot, result) ∈ (Submissions.run fs.ops c actions).log.answered)
    (haccepted : result.outcome = .accepted) (now : Timestamp) :
    ∃ items, items <+: (Submissions.run fs.ops c actions).log.applied ∧
      (sequential fs.ops c items).2.getLast? = some (slot, result) ∧
      Forward (sequential fs.ops c items).1.canonical
        ((Submissions.run fs.ops c actions).coordinator.step fs.ops
          (.restart now)).canonical := by
  have h : Linearized fs.ops c _ := (ordered_run c actions).linearized
  obtain ⟨before, request, fencedAt, committedAt, after, happlied, rfl⟩ := h.answers _ hanswer
  obtain ⟨hauthorized, s, g, hs, hcommitted⟩ := committed_of_accepted _ haccepted
  have hdeclared := (congrArg (·.epoch.known) hcommitted.canonical).trans
    (epoch_known_of_applied hauthorized hs)
  rw [List.append_cons] at happlied
  refine ⟨_, ⟨_, happlied.symm⟩, by simp [sequential_append, applyNext], ?_⟩
  rw [h.coordinator, happlied]
  simp only [sequential_eq_run, List.filterMap_append, Coordinator.run_append] at hdeclared ⊢
  have hforward := ((hreachable.run _).run [.submit request committedAt]).related_run
    respects_forward hdeclared (along_restartsSaved _
      ((persisting_run _ _).mpr ((persisting_run _ _).mpr hpersisting))
      (after.filterMap event? ++ [.restart now]))
  rw [Coordinator.run_append] at hforward
  exact hforward

end Submissions

open Coordinator in
/-- A declaration is submitted, `stop` is called and another declaration is submitted. -/
def Submissions.stoppedActions : List Action :=
  .submit declaration :: .stop :: .submit declaration :: .replicate 3 (.commit ⟨2⟩ ⟨2⟩) ++
    .replicate 2 .stop ++ .replicate 2 (.commit ⟨3⟩ ⟨3⟩) ++ .replicate 4 .stop

open Coordinator Submissions in
open scoped StdSort in
/-- The first declaration is queued, served and answered, the second is refused. -/
theorem Submissions.submissions_linearizable_stopped :
    let s := Submissions.run cellStore.ops sampleStart stoppedActions
    Linearized cellStore.ops sampleStart s ∧
      (∃ result, Placed s.log 1 declaration (.error result)) ∧
      ∃ answer ∈ s.log.answered, answer.1 = 0 ∧ answer.2.outcome = .accepted := by
  intro s
  have hrefused : ((Submissions.run cellStore.ops sampleStart
      [.submit declaration, .stop]).commitQueue.submit declaration).toOption.isNone = true := by
    decide +kernel
  obtain ⟨hlinearized, hplaced, -, -⟩ :=
    submissions_linearizable cellStore.ops sampleStart stoppedActions
  refine ⟨hlinearized, ?_, by decide +kernel⟩
  have h := hplaced [.submit declaration, .stop] declaration _ rfl
  cases hsubmit : (Submissions.run cellStore.ops sampleStart
      [.submit declaration, .stop]).commitQueue.submit declaration with
  | error result =>
    rw [hsubmit] at h
    exact ⟨result, h⟩
  | ok queue =>
    rw [hsubmit] at hrefused
    cases hrefused

open Coordinator Submissions in
open scoped StdSort in
theorem Submissions.accepted_survives_declaration :
    let s := Submissions.run cellStore.ops sampleStart stoppedActions
    ∃ answer items, answer.2.outcome = .accepted ∧ items <+: s.log.applied ∧
      (sequential cellStore.ops sampleStart items).2.getLast? = some answer ∧
      Forward (sequential cellStore.ops sampleStart items).1.canonical
        (s.coordinator.step cellStore.ops (.restart ⟨4⟩)).canonical := by
  intro s
  have hanswered : ∃ answer ∈ s.log.answered, answer.2.outcome = .accepted := by decide +kernel
  obtain ⟨answer, hanswer, haccepted⟩ := hanswered
  obtain ⟨items, hitems⟩ :=
    accepted_survives (reachable_sample []) (persisting_sample []) _ hanswer haccepted ⟨4⟩
  exact ⟨answer, items, haccepted, hitems⟩

end ClusterFabric
