import ClusterFabric.Model.Invariant
import ClusterFabric.Model.ClusterMutations
import ClusterFabric.Model.Durable

/-! # The coordinator

The commit path, the fencing path and the start of `coordinator_engine.cpp` and
`coordinator.cpp`, and the runs that interleave them. One commit thread serves
the queue, so a run is a sequence of events. The clock is read anew by each
event and is an argument of it.
-/

namespace ClusterFabric

open Lib

/-- A started coordinator. The counters of mutations are those that the commit
path writes. -/
structure Coordinator (σ : Type) where
  config : CoordinatorConfig
  /-- The content of the attached store, if one is attached. -/
  store : Option σ
  canonical : ClusterState
  indexesValid : Bool := false
  stateVersion : Nat := 0
  recovery : RecoveryReport := {}
  mutationsAccepted : Nat := 0
  mutationsNoChange : Nat := 0
  mutationsRejected : Nat := 0
  commits : Nat := 0
  persistenceSaves : Nat := 0
  persistenceFailures : Nat := 0
  fenceEvents : Nat := 0
  staleReplaysRejected : Nat := 0

namespace Coordinator

variable {σ : Type} (ops : PersistenceStore σ)

/-! ## Commit -/

/-- The rejection of a commit that could not be saved. -/
def saveFailure (outcome : SaveOutcome) : MutationResult :=
  .rejectedWith .persistenceFailed .persist (text "cluster")
    (if outcome.error.message.isEmpty then text "durable state commit failed"
      else outcome.error.message)
    outcome.status.toText

/-- `persist_now`: saves the canonical state, when there is a store and commits
are persisted. A failed save returns its rejection. -/
def persistNow (c : Coordinator σ) : Coordinator σ × Option MutationResult :=
  match c.store with
  | none => (c, none)
  | some content =>
    if !c.config.persistOnCommit then (c, none)
    else
      let (outcome, content') := ops.save (toPersistedState c.canonical) content
      let c := { c with store := some content' }
      if !outcome.ok then
        ({ c with persistenceFailures := c.persistenceFailures + 1 }, some (saveFailure outcome))
      else ({ c with persistenceSaves := c.persistenceSaves + 1 }, none)

def touchState (c : Coordinator σ) : Coordinator σ :=
  { c with stateVersion := c.stateVersion + 1, indexesValid := false }

/-- A refusal: canonical state is rolled back and the result filled from it. -/
def refuse (c : Coordinator σ) (journal : StateJournal) (result : MutationResult) :
    Coordinator σ × MutationResult :=
  ({ c with canonical := journal.rollback, mutationsRejected := c.mutationsRejected + 1 },
    result.fillGenerations journal.rollback)

theorem unknownRack_valid : (validateIdentity (text "unknown-rack")).isOk = true := by
  decide +kernel

def unknownRack : RackId := ⟨text "unknown-rack", .inr unknownRack_valid⟩

section Engine

variable [StdSort]

/-- The result of an accepted mutation. -/
def acceptedResult (request : MutationRequest) (s : ClusterState) (result : MutationResult) :
    MutationResult :=
  let explanation := (((Explanation.make (text "mutation_accepted") (text "cluster")
      (request.kind.toText ++ text " accepted")).add request.kind.toText result.error.subject
      (text "cluster generation " ++ s.generation.str ++ text " lifecycle " ++
        s.lifecycle.toText)).sortFactors).boundFactors
  { result.fillGenerations s with
    outcome := .accepted
    explanation := explanation
    error := {} }

def reevaluate (s : ClusterState) : ClusterState :=
  { s with lifecycle := (evaluateReadiness s).lifecycle }

/-- The last part of a commit: the state is saved and published. -/
def publishCommit (c : Coordinator σ) (request : MutationRequest) (journal : StateJournal)
    (result : MutationResult) : Coordinator σ × MutationResult :=
  match persistNow ops { c with canonical := journal.state } with
  | (c, some failure) => c.refuse journal failure
  | (c, none) =>
    ({ c.touchState with
        commits := c.commits + 1
        mutationsAccepted := c.mutationsAccepted + 1 },
      acceptedResult request journal.state result)

/-- The commit of a mutation that changed something: the lifecycle is evaluated,
the invariants are checked, and the cluster generation is advanced. -/
def commitChanged (c : Coordinator σ) (request : MutationRequest) (now : Timestamp)
    (journal : StateJournal) (result : MutationResult) : Coordinator σ × MutationResult :=
  let journal := journal.update reevaluate
  let report := checkInvariants journal.state none
  if !report.isOk then
    c.refuse journal <|
      .rejectedWith .invariantViolation .verifyInvariants (text "cluster")
        (text "candidate state violated an invariant: " ++ report.describe)
        (text "invariant_violation")
  else
    match journal.state.generation.next with
    | none =>
      c.refuse journal <|
        .rejectedWith .limitExceeded .commit (text "cluster") (text "cluster generation overflow")
          (text "generation_overflow")
    | some generation =>
      publishCommit ops c request
        (journal.update fun s => { s with generation := generation, lastMutationAt := now }) result

/-- The context in which the engine starts on a request: scalars are recorded
before anything is applied. -/
def startContext (c : Coordinator σ) (now : Timestamp) : ApplyContext where
  journal := StateJournal.recordScalars { state := c.canonical }
  config := c.config
  now := now

/-- What the commit path makes of the engine's result. -/
def concludeRequest (c : Coordinator σ) (request : MutationRequest) (now : Timestamp)
    (ctx : ApplyContext) (result : MutationResult) : Coordinator σ × MutationResult :=
  if result.outcome = .rejected then
    let (c, result) := c.refuse ctx.journal result
    (if result.reason.isStale then
        { c with staleReplaysRejected := c.staleReplaysRejected + 1 } else c, result)
  else if result.outcome = .revalidationRequired then c.refuse ctx.journal result
  else if !ctx.changed then
    ({ c with
        canonical := ctx.journal.rollback
        mutationsNoChange := c.mutationsNoChange + 1 },
      result.fillGenerations ctx.journal.rollback)
  else commitChanged ops c request now ctx.journal result

/-- `apply_and_commit`. -/
def applyAndCommit (c : Coordinator σ) (request : MutationRequest) (now : Timestamp) :
    Coordinator σ × MutationResult :=
  let (ctx, result) := applyResult request (startContext c now)
  concludeRequest ops c request now ctx result

/-! ## Fencing -/

/-- What fencing its incarnation leaves of a rack record. -/
def fencedRack (reason : Text) (record : RackRecord) : RackRecord :=
  { record with
    authoritativeCurrent := false
    reference :=
      { record.reference with
        currentness := .revalidationRequired
        evidence := record.reference.evidence.markRevalidationRequired }
    nonAuthoritativeReason := reason }

/-- What fencing its incarnation leaves of a link. -/
def fencedLink (link : InterRackLink) : InterRackLink :=
  { link with
    reachability := .unknown
    health := .unknown
    header := { link.header with evidence := link.header.evidence.markRevalidationRequired } }

/-- The fenced list entry, which names the first rack of the incarnation. -/
def fencedEntry (s : ClusterState) (boot : RackAgentBootId) (reason : Text)
    (fencedAt : Timestamp) : FencedAuthority where
  boot := boot
  rack :=
    match s.racks.entries.find? fun e => e.2.reference.boot == boot with
    | some (rack, _) => rack
    | none => unknownRack
  reason := reason
  fencedAt := fencedAt

/-- The fenced list with one more entry, sorted by incarnation. -/
def addFenced (entry : FencedAuthority) (s : ClusterState) : ClusterState :=
  { s with fencedAuthorities := sortBy FencedAuthority.boot (s.fencedAuthorities ++ [entry]) }

/-- Whether the incarnation published a recorded rack or link. -/
def publishedBy (s : ClusterState) (boot : RackAgentBootId) : Bool :=
  (s.racks.values.any fun record => record.reference.boot == boot) ||
    s.links.values.any fun link => link.boot == some boot

/-- The loops of a fence over racks and links. -/
def rewriteFenced (s : ClusterState) (boot : RackAgentBootId) (reason : Text) : StateJournal :=
  let journal := StateJournal.rewrite racksMember { state := s }
    (fun record => record.reference.boot == boot) (fencedRack reason)
  StateJournal.rewrite linksMember journal (fun link => link.boot == some boot) fencedLink

/-- The journal of a fence before the commit: records rewritten, and the
incarnation listed when something was rewritten and it was not listed yet. -/
def fenceJournal (s : ClusterState) (boot : RackAgentBootId) (reason : Text)
    (fencedAt : Timestamp) : StateJournal :=
  let journal := rewriteFenced s boot reason
  if publishedBy s boot && !journal.state.isBootFenced boot then
    journal.recordScalars.update (addFenced (fencedEntry journal.state boot reason fencedAt))
  else journal

/-- The commit of a fence. A failed save rolls it back without an answer. -/
def publishFence (c : Coordinator σ) (journal : StateJournal) : Coordinator σ :=
  match persistNow ops { c with canonical := journal.state } with
  | (c, some _) => { c with canonical := journal.rollback }
  | (c, none) => { c.touchState with commits := c.commits + 1, fenceEvents := c.fenceEvents + 1 }

/-- `apply_fence`. It reads the clock for the list entry and again for the
commit. -/
def applyFence (c : Coordinator σ) (boot : RackAgentBootId) (reason : Text)
    (fencedAt now : Timestamp) : Coordinator σ :=
  let journal := fenceJournal c.canonical boot reason fencedAt
  if !publishedBy c.canonical boot then { c with canonical := journal.rollback }
  else
    let journal := journal.recordScalars.update reevaluate
    match journal.state.generation.next, journal.state.healthGeneration.next with
    | some generation, some healthGeneration =>
      publishFence ops c <| journal.update fun s =>
        { s with
          generation := generation
          healthGeneration := healthGeneration
          lastMutationAt := now }
    | _, _ => { c with canonical := journal.rollback }

/-! ## Start -/

/-- The state of a coordinator that loaded nothing. -/
def freshState (config : CoordinatorConfig) (epoch : CoordinatorEpoch) : ClusterState where
  id := config.cluster
  readinessContract := config.readinessContract
  coordinatorEpoch := epoch

/-- The epoch after `previous`, which stays at the maximum. -/
def nextEpoch (previous : CoordinatorEpoch) : CoordinatorEpoch :=
  let next := if previous.known then previous.next.getD previous else .fromRaw 1
  if next.known then next else .fromRaw 1

/-- The notes of a start, sorted. -/
def startNotes (outcome : LoadOutcome) : List Text :=
  let notes :=
    if outcome.loaded.isSome then [text "durable state loaded: format version 1"]
    else if outcome.status = .missingFile then
      [text "no durable container found; starting a fresh cluster"]
    else
      (text "durable container rejected: " ++ outcome.status.toText) ::
        if outcome.error.message.isEmpty then [] else [outcome.error.message]
  sortBy (fun note => note) notes

/-- A new coordinator after `load_durable_state`. A container that is missing or
rejected leaves it with a fresh cluster. -/
def start (config : CoordinatorConfig) (store : Option σ) (now : Timestamp) : Coordinator σ :=
  let outcome := store.map ops.load
  let report : RecoveryReport :=
    { attempted := store.isSome
      status := (outcome.map LoadOutcome.status).getD .ok
      notes := (outcome.map startNotes).getD [] }
  match outcome.bind LoadOutcome.loaded with
  | some p =>
    let next := nextEpoch p.lastCoordinatorEpoch
    { config := config
      store := store
      canonical :=
        { fromPersistedState p next now with
          coordinatorEpoch := next
          readinessContract := p.readinessContract }
      stateVersion := 1
      recovery := reportRecovery p next now
        { report with
          loaded := true
          previousCoordinatorEpoch := p.lastCoordinatorEpoch
          currentCoordinatorEpoch := next
          coordinatorEpochAdvanced := next != p.lastCoordinatorEpoch } }
  | none =>
    let next := nextEpoch (.fromRaw 1)
    { config := config
      store := store
      canonical := freshState config next
      stateVersion := 1
      recovery := { report with currentCoordinatorEpoch := next } }

/-! ## Runs -/

end Engine

end Coordinator

/-- What can happen to a coordinator. -/
inductive Event
  /-- The commit thread serves a mutation. -/
  | submit (request : MutationRequest) (now : Timestamp)
  /-- The commit thread serves a fence. -/
  | fence (boot : RackAgentBootId) (reason : Text) (fencedAt now : Timestamp)
  /-- The process ends, cleanly or not, and a new one starts on the same store. -/
  | restart (now : Timestamp)

def Event.restarts : Event → Bool
  | .restart _ => true
  | _ => false

namespace Coordinator

variable [StdSort] {σ : Type} (ops : PersistenceStore σ)

def step (c : Coordinator σ) : Event → Coordinator σ
  | .submit request now => (applyAndCommit ops c request now).1
  | .fence boot reason fencedAt now => applyFence ops c boot reason fencedAt now
  | .restart now => start ops c.config c.store now

/-- The coordinator after a sequence of events. -/
def run (c : Coordinator σ) (events : List Event) : Coordinator σ := runFrom (step ops) c events

theorem run_append (c : Coordinator σ) (xs ys : List Event) :
    run ops c (xs ++ ys) = run ops (run ops c xs) ys := runFrom_append ..

end Coordinator

/-! ## Reads -/

/-- A coordinator with its derived indexes and the version of the state that
they were built from. -/
structure IndexedCoordinator (σ : Type) extends Coordinator σ where
  indexes : ClusterIndexes := {}
  indexesVersion : Nat := 0

/-- What happens to an indexed coordinator. -/
inductive Access
  /-- The commit thread serves an event. -/
  | serve (event : Event)
  /-- A new process starts on the same store, and finds these indexes in its
  memory. -/
  | restart (now : Timestamp) (indexes : ClusterIndexes) (indexesVersion : Nat)
  /-- A query reads the state. -/
  | read

namespace IndexedCoordinator

variable [StdSort] {σ α : Type} (ops : PersistenceStore σ)

/-- The indexes are rebuilt when they are stale. -/
def refreshIndexes (c : IndexedCoordinator σ) : IndexedCoordinator σ :=
  if !c.indexesValid || c.indexesVersion != c.stateVersion then
    { c with
      indexes := .rebuild c.canonical
      indexesVersion := c.stateVersion
      indexesValid := true }
  else c

/-- `with_state`: what the body returns, and the coordinator it leaves. -/
def withState (c : IndexedCoordinator σ) (body : ClusterState → ClusterIndexes → α) :
    α × IndexedCoordinator σ :=
  let c := c.refreshIndexes
  (body c.canonical c.indexes, c)

def access (c : IndexedCoordinator σ) : Access → IndexedCoordinator σ
  | .serve event => { c with toCoordinator := Coordinator.step ops c.toCoordinator event }
  | .restart now indexes indexesVersion =>
    { toCoordinator := Coordinator.start ops c.config c.store now, indexes, indexesVersion }
  | .read => (c.withState fun _ _ => ()).2

/-- The coordinator after a sequence of accesses. -/
def run (c : IndexedCoordinator σ) (accesses : List Access) : IndexedCoordinator σ :=
  runFrom (access ops) c accesses

end IndexedCoordinator

/-! ## Faithful stores -/

/-- A store that returns what was last saved: a successful save is what a later
load finds, and a failed one leaves what was there. -/
structure FaithfulStore (σ : Type) extends ops : PersistenceStore σ where
  /-- The last state saved successfully. -/
  last : σ → Option PersistedState
  last_save_ok : ∀ p content, (save p content).1.ok = true → last (save p content).2 = some p
  last_save_failed : ∀ p content, (save p content).1.ok = false →
    last (save p content).2 = last content
  loaded_load : ∀ content, (load content).loaded = last content

/-- The store that keeps the last state saved to it. -/
def cellStore : FaithfulStore (Option PersistedState) where
  save p _ := ({ ok := true }, some p)
  load
    | some p => { state := some p }
    | none => { status := .missingFile }
  last content := content
  last_save_ok _ _ _ := rfl
  last_save_failed _ _ h := by simp at h
  loaded_load content := by cases content <;> rfl

/-- The store that refuses every save. -/
def failingStore : FaithfulStore Unit where
  save _ _ := ({ status := .ioError }, ())
  load _ := { status := .missingFile }
  last _ := none
  last_save_ok _ _ h := by simp at h
  last_save_failed _ _ _ := rfl
  loaded_load _ := rfl

end ClusterFabric
