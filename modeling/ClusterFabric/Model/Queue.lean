import ClusterFabric.Model.Coordinator

/-! # The commit queue

`coordinator.cpp` and `coordinator_impl.hpp`: the queue between the threads that
submit requests or fence incarnations and the one commit thread that serves them.
-/

namespace ClusterFabric

open Lib

def maxPendingRequests : Nat := 4096

inductive QueueItem
  | mutation (request : MutationRequest)
  | fence (boot : RackAgentBootId) (reason : Text)
  | stop

structure CommitQueue where
  items : List QueueItem := []
  running : Bool := false
  stopping : Bool := false

namespace CommitQueue

def push (queue : CommitQueue) (item : QueueItem) : CommitQueue :=
  { queue with items := queue.items ++ [item] }

/-- `submit`, up to the wait for its result: the request is queued, or it is
rejected at once. -/
def submit (queue : CommitQueue) (request : MutationRequest) :
    Except MutationResult CommitQueue :=
  let rejected (reason : RejectionReason) (detail code : String) : MutationResult :=
    .rejectedWith reason .commit request.cluster.value (text detail) (text code)
  if !queue.running then
    if queue.stopping then
      .error (rejected .shuttingDown
        "coordinator has been stopped and accepts no new mutations" "shutting_down")
    else
      .error (rejected .notReady
        "coordinator is not running: call start() before submitting mutations" "not_running")
  else if queue.stopping then
    .error (rejected .shuttingDown
      "coordinator is shutting down and accepts no new mutations" "shutting_down")
  else if maxPendingRequests ≤ queue.items.length then
    .error (rejected .limitExceeded "pending request queue is full" "queue_full")
  else .ok (queue.push (.mutation request))

/-- The answer of `stop` to a request that is still queued. -/
def drained (request : MutationRequest) : MutationResult :=
  .rejectedWith .shuttingDown .commit request.cluster.value
    (text "coordinator stopped before the mutation was processed") (text "shutting_down")

/-- What `submit` comes to: the request is rejected at once, served by the commit
thread, or drained at a stop. -/
def deliver [StdSort] {σ : Type} (ops : PersistenceStore σ) (queue : CommitQueue)
    (c : Coordinator σ) (request : MutationRequest) (served : Option Timestamp) :
    Coordinator σ × MutationResult :=
  match queue.submit request, served with
  | .error result, _ => (c, result)
  | .ok _, some now => c.applyAndCommit ops request now
  | .ok _, none => (c, drained request)

/-- `fence_boot`: the fence is queued unless the coordinator is stopping. -/
def fenceBoot (queue : CommitQueue) (boot : RackAgentBootId) (reason : Text) : Bool × CommitQueue :=
  if queue.stopping then (false, queue) else (true, queue.push (.fence boot reason))

end CommitQueue

/-- One round of `run_commit`. The clock is read for the entry of a fence and
again for its commit. -/
def QueueItem.serve [StdSort] {σ : Type} (ops : PersistenceStore σ) (c : Coordinator σ)
    (fencedAt now : Timestamp) : QueueItem → Coordinator σ
  | .mutation request => (c.applyAndCommit ops request now).1
  | .fence boot reason => c.applyFence ops boot reason fencedAt now
  | .stop => c

end ClusterFabric
