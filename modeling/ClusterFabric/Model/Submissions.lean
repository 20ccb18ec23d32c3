import ClusterFabric.Model.Queue

/-! # Submissions and the commit thread

`submit`, `fence_boot` and `detach_session`, `run_commit` and `stop` as they
interleave. A section under a lock is one step, and so is the store to `running`;
between two steps of a thread any other thread may run. A call of `submit` waits in
a slot of its own; slots are numbered in the order in which the calls take the
queue lock.

The wait of the commit thread and its join in `stop` are steps that are not taken
until their condition holds. A notification only ends a wait early, so it is left
out.
-/

namespace ClusterFabric

open Lib

/-- A queued item. A mutation comes with the slot in which its submitter waits. -/
inductive SlottedItem
  | mutation (slot : Nat) (request : MutationRequest)
  | fence (boot : RackAgentBootId) (reason : Text)
  | stop

namespace SlottedItem

def item : SlottedItem → QueueItem
  | mutation _ request => .mutation request
  | fence boot reason => .fence boot reason
  | stop => .stop

def slot? : SlottedItem → Option Nat
  | mutation slot _ => some slot
  | fence _ _ | stop => none

/-- The end of the commit thread is not work. -/
def isWork : SlottedItem → Bool
  | mutation _ _ | fence _ _ => true
  | stop => false

/-- What `stop` answers for an item that is still queued. -/
def shutDown? : SlottedItem → Option (Nat × MutationResult)
  | mutation slot request => some (slot, CommitQueue.drained request)
  | fence _ _ | stop => none

end SlottedItem

/-- Where the commit thread is in `run_commit`. -/
inductive CommitThread
  | waiting
  /-- It took an item from the queue. -/
  | popped (entry : SlottedItem)
  /-- It applied a mutation and has not answered it. -/
  | applied (slot : Nat) (result : MutationResult)
  | exited

/-- Where the call of `stop` is. -/
inductive StopThread
  | uncalled
  /-- It set `stopping`. -/
  | flagged
  /-- It cleared `running`. -/
  | halted
  /-- It queued the stop item. -/
  | posted
  /-- It joined the commit thread. -/
  | joined
  /-- It took what was left in the queue. -/
  | draining (pending : List SlottedItem)
  | returned

/-- An item that was applied, and when. -/
structure AppliedItem where
  entry : SlottedItem
  fencedAt : Timestamp
  now : Timestamp

/-- What happened so far, each in its order. -/
structure SubmissionLog where
  enqueued : List SlottedItem := []
  refused : List (Nat × MutationResult) := []
  applied : List AppliedItem := []
  answered : List (Nat × MutationResult) := []
  /-- What `stop` found in the queue and did not apply. -/
  drained : List SlottedItem := []

/-- A started coordinator with its threads. -/
structure Submissions (σ : Type) where
  coordinator : Coordinator σ
  queue : List SlottedItem := []
  running : Bool := true
  stopping : Bool := false
  commitThread : CommitThread := .waiting
  stopThread : StopThread := .uncalled
  /-- How often `submit` was called. -/
  submitted : Nat := 0
  log : SubmissionLog := {}

namespace Submissions

variable {σ : Type}

/-- The queue and its flags, as the lock guards them. -/
def commitQueue (s : Submissions σ) : CommitQueue where
  items := s.queue.map SlottedItem.item
  running := s.running
  stopping := s.stopping

def push (s : Submissions σ) (entry : SlottedItem) : Submissions σ :=
  { s with
    queue := s.queue ++ [entry]
    log := { s.log with enqueued := s.log.enqueued ++ [entry] } }

def submit (s : Submissions σ) (request : MutationRequest) : Submissions σ :=
  match s.commitQueue.submit request with
  | .error result =>
    { s with
      submitted := s.submitted + 1
      log := { s.log with refused := s.log.refused ++ [(s.submitted, result)] } }
  | .ok _ =>
    { s.push (.mutation s.submitted request) with submitted := s.submitted + 1 }

/-- `fence_boot`, and the fence of `detach_session`. -/
def fenceBoot (s : Submissions σ) (boot : RackAgentBootId) (reason : Text) : Submissions σ :=
  if (s.commitQueue.fenceBoot boot reason).1 then s.push (.fence boot reason) else s

section Threads

variable [StdSort] (ops : PersistenceStore σ)

/-- What the commit thread does with the item it took. -/
def serve (s : Submissions σ) (fencedAt now : Timestamp) (entry : SlottedItem) : Submissions σ :=
  let served (coordinator : Coordinator σ) (commitThread : CommitThread) : Submissions σ :=
    { s with
      coordinator := coordinator
      commitThread := commitThread
      log := { s.log with applied := s.log.applied ++ [⟨entry, fencedAt, now⟩] } }
  match entry with
  | .stop => { s with commitThread := .exited }
  | .fence boot reason => served (s.coordinator.applyFence ops boot reason fencedAt now) .waiting
  | .mutation slot request =>
    let (coordinator, result) := s.coordinator.applyAndCommit ops request now
    served coordinator (.applied slot result)

/-- The next step of `run_commit`, unless it waits or has returned. -/
def commitStep (s : Submissions σ) (fencedAt now : Timestamp) : Option (Submissions σ) :=
  match s.commitThread with
  | .waiting =>
    match s.queue with
    | [] => if s.stopping then some { s with commitThread := .exited } else none
    | entry :: queue => some { s with queue := queue, commitThread := .popped entry }
  | .popped entry => some (s.serve ops fencedAt now entry)
  | .applied slot result =>
    some { s with
      commitThread := .waiting
      log := { s.log with answered := s.log.answered ++ [(slot, result)] } }
  | .exited => none

/-- The next step of `stop`, unless it waits for the commit thread or has returned. -/
def stopStep (s : Submissions σ) : Option (Submissions σ) :=
  match s.stopThread with
  | .uncalled => some { s with stopping := true, stopThread := .flagged }
  | .flagged => some { s with running := false, stopThread := .halted }
  | .halted =>
    some { s with stopping := true, queue := s.queue ++ [.stop], stopThread := .posted }
  | .posted =>
    match s.commitThread with
    | .exited => some { s with stopThread := .joined }
    | .waiting | .popped _ | .applied _ _ => none
  | .joined => some { s with queue := [], stopThread := .draining s.queue }
  | .draining [] => some { s with stopThread := .returned }
  | .draining (entry :: pending) =>
    some { s with
      stopThread := .draining pending
      log :=
        { s.log with
          answered := s.log.answered ++ entry.shutDown?.toList
          drained := s.log.drained ++ [entry].filter SlottedItem.isWork } }
  | .returned => none

/-- What one thread does next. -/
inductive Action
  | submit (request : MutationRequest)
  | fence (boot : RackAgentBootId) (reason : Text)
  | commit (fencedAt now : Timestamp)
  | stop

/-- A thread that waits or has returned does nothing. -/
def step (s : Submissions σ) : Action → Submissions σ
  | .submit request => s.submit request
  | .fence boot reason => s.fenceBoot boot reason
  | .commit fencedAt now => (s.commitStep ops fencedAt now).getD s
  | .stop => s.stopStep.getD s

/-- An interleaving from the start of the coordinator on. -/
def run (c : Coordinator σ) (actions : List Action) : Submissions σ :=
  runFrom (step ops) { coordinator := c } actions

/-! ## The sequential specification -/

/-- One item, applied on its own. -/
def applyNext (before : Coordinator σ × List (Nat × MutationResult)) (item : AppliedItem) :
    Coordinator σ × List (Nat × MutationResult) :=
  match item.entry with
  | .mutation slot request =>
    let (c, result) := before.1.applyAndCommit ops request item.now
    (c, before.2 ++ [(slot, result)])
  | .fence boot reason => (before.1.applyFence ops boot reason item.fencedAt item.now, before.2)
  | .stop => before

/-- The items one after another: what they make of the coordinator, and the answers. -/
def sequential (c : Coordinator σ) (items : List AppliedItem) :
    Coordinator σ × List (Nat × MutationResult) :=
  items.foldl (applyNext ops) (c, [])

end Threads

end Submissions

end ClusterFabric
