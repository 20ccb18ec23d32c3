import ClusterFabric.Lib.Transaction
import ClusterFabric.Model.Mutation
import ClusterFabric.Model.Journal

/-! # The apply context and the authority gates

`coordinator_engine.cpp`, up to the mutations themselves. A gate or a mutation
is a transaction over the apply context whose early exit is the result the
source returns, be it a rejection or "no change"; a mutation that completes
returns `accepted_change`.
-/

namespace ClusterFabric

open Lib

/-- The settings that the commit path and the sessions read. -/
structure CoordinatorConfig where
  cluster : ClusterId := .unset
  readinessContract : ReadinessContract := {}
  maxRacks : Nat := maxRacksPerCluster
  maxLinks : Nat := maxInterRackLinks
  maxDomainsPerClass : Nat := ClusterFabric.maxDomainsPerClass
  maxConstraints : Nat := ClusterFabric.maxConstraints
  persistOnCommit : Bool := true
  fenceOnDisconnect : Bool := true

structure ApplyContext where
  journal : StateJournal
  config : CoordinatorConfig
  now : Timestamp
  changed : Bool := false

def ApplyContext.state (ctx : ApplyContext) : ClusterState := ctx.journal.state

/-- A step of the engine. -/
abbrev Apply := Txn ApplyContext EarlyReturn

namespace Apply

open Txn (get exitIf ofOption forSome)

/-! ## Writes -/

/-- An operation of the journal. -/
def journal (f : StateJournal → StateJournal) : Apply Unit :=
  Txn.modify fun ctx => { ctx with journal := f ctx.journal }

/-- A write outside the canonical maps. -/
def update (f : ClusterState → ClusterState) : Apply Unit := journal (·.update f)

section Entries

variable {K V : Type} [LinearOrder K] (m : MapMember K V)

def assign (key : K) (value : V) : Apply Unit := journal (StateJournal.assign m · key value)

def eraseEntry (key : K) : Apply Unit := journal (StateJournal.eraseEntry m · key)

def rewrite (select : V → Bool) (f : V → V) : Apply Unit :=
  journal (StateJournal.rewrite m · select f)

end Entries

def markChanged : Apply Unit := Txn.modify fun ctx => { ctx with changed := true }

/-- A counter of canonical state. -/
abbrev Counter (tag : CounterTag) := Field ClusterState (StrongCounter tag)

def membershipCounter : Counter .membershipGeneration where
  get s := s.membershipGeneration
  set s c := { s with membershipGeneration := c }
  get_set _ _ := rfl
  set_get _ := rfl
  set_set _ _ _ := rfl

def topologyCounter : Counter .topologyGeneration where
  get s := s.topologyGeneration
  set s c := { s with topologyGeneration := c }
  get_set _ _ := rfl
  set_get _ := rfl
  set_set _ _ _ := rfl

def connectivityCounter : Counter .connectivityGeneration where
  get s := s.connectivityGeneration
  set s c := { s with connectivityGeneration := c }
  get_set _ _ := rfl
  set_get _ := rfl
  set_set _ _ _ := rfl

def healthCounter : Counter .healthGeneration where
  get s := s.healthGeneration
  set s c := { s with healthGeneration := c }
  get_set _ _ := rfl
  set_get _ := rfl
  set_set _ _ _ := rfl

def constraintCounter : Counter .constraintGeneration where
  get s := s.constraintGeneration
  set s c := { s with constraintGeneration := c }
  get_set _ _ := rfl
  set_get _ := rfl
  set_set _ _ _ := rfl

def snapshotCounter : Counter .snapshotGeneration where
  get s := s.snapshotGeneration
  set s c := { s with snapshotGeneration := c }
  get_set _ _ := rfl
  set_get _ := rfl
  set_set _ _ _ := rfl

def publicationCounter : Counter .publicationGeneration where
  get s := s.publicationGeneration
  set s c := { s with publicationGeneration := c }
  get_set _ _ := rfl
  set_get _ := rfl
  set_set _ _ _ := rfl

/-- Advances a counter, or returns `overflow` when it is at its maximum. -/
def bump {tag : CounterTag} (counter : Counter tag) (overflow : EarlyReturn) : Apply Unit := do
  let ctx ← get
  let value ← ofOption (counter.get ctx.state).next overflow
  update fun s => counter.set s value

end Apply

/-! ## Comparing publications -/

section Compare

variable [StdSort]

/-- Clears every purely dynamic field of a reference. -/
def normalizedForCompare (reference : RackReference) : RackReference :=
  let value := canonicalize reference
  { value with
    publication := .unknown
    evidence := {}
    health := .unknown
    currentness := .unknown
    coordinatorEpoch := .unknown
    clusterEpoch := .unknown
    endpoints := value.endpoints.map fun e => { e with evidence := {} }
    failureDomainHints := value.failureDomainHints.map fun h => { h with evidence := {} } }

/-- Process incarnation and publisher are compared separately. -/
def sameAuthoritativeContent (lhs rhs : RackReference) : Bool :=
  let a := normalizedForCompare lhs
  let b := normalizedForCompare rhs
  decide ({ a with boot := b.boot, publisher := b.publisher } = b)

def identicalPublication (lhs rhs : RackReference) : Bool :=
  sameAuthoritativeContent lhs rhs && lhs.boot == rhs.boot && lhs.publisher == rhs.publisher &&
    lhs.publication == rhs.publication && lhs.evidence == rhs.evidence && lhs.health == rhs.health

end Compare

/-! ## Gates -/

open Txn (get exitIf ofOption forSome)

/-- The checks common to all mutations. A declaration is checked against the
cluster epoch only, and only once there is one. -/
def validateCommon (request : MutationRequest) : Apply Unit := do
  let ctx ← get
  let s := ctx.state
  exitIf (request.kind = .unknown) <|
    reject .malformed .decode (text "request") (text "mutation kind is UNKNOWN")
  exitIf (!request.cluster.isValid) <|
    reject .malformed .decode (text "cluster") (text "cluster identity is not valid")
  if request.kind = .declareCluster then
    exitIf (s.epoch.known = true ∧ request.authority.clusterEpoch ≠ s.epoch) <|
      reject .staleClusterEpoch .validateGeneration (text "cluster")
        (text "declaration carries cluster epoch " ++ request.authority.clusterEpoch.str ++
          text " but the authoritative " ++ text "epoch is " ++ s.epoch.str)
  else
    exitIf (request.cluster ≠ s.id) <|
      reject .wrongCluster .validateAuthority (text "cluster/" ++ request.cluster.value)
        (text "request targets cluster " ++ request.cluster.value ++ text " but this " ++
          text "coordinator owns " ++ s.id.value)
    exitIf (!s.epoch.known) <|
      reject .notReady .validateAuthority (text "cluster") (text "cluster has not been declared")
    exitIf (request.authority.clusterEpoch ≠ s.epoch) <|
      reject .staleClusterEpoch .validateGeneration (text "cluster")
        (text "request carries cluster epoch " ++ request.authority.clusterEpoch.str ++
          text " but the authoritative epoch is " ++ s.epoch.str)
    exitIf (request.authority.coordinatorEpoch ≠ s.coordinatorEpoch) <|
      reject .staleCoordinatorEpoch .validateGeneration (text "cluster")
        (text "request carries coordinator epoch " ++ request.authority.coordinatorEpoch.str ++
          text " but the authoritative epoch is " ++ s.coordinatorEpoch.str)
    exitIf (!acceptsMutations s.lifecycle) <|
      reject .retired .validateAuthority (text "cluster")
        (text "cluster is RETIRED and accepts no further mutations")

/-- An equal publication counter is acceptable only when the request repeats the
authoritative content. -/
def staleReplay [StdSort] (request : MutationRequest) (rack : RackId) (boot : RackAgentBootId)
    (record : RackRecord) : Bool :=
  let authority := request.authority
  record.reference.boot == boot && authority.publication.known &&
    decide (authority.publication.value ≤ record.reference.publication.value) &&
    !(authority.publication.value == record.reference.publication.value &&
      request.rackReference.rack == rack && request.rackReference.boot == boot &&
      sameAuthoritativeContent record.reference (canonicalize request.rackReference))

/-- The gate of a request that carries a process incarnation: against the fenced
list, and against the record of the rack when there is one. A request without an
incarnation passes. -/
def validateBoot [StdSort] (request : MutationRequest) (rack : RackId) : Apply Unit := do
  let ctx ← get
  match request.authority.boot with
  | none => pure ()
  | some boot =>
    exitIf (ctx.state.isBootFenced boot) <|
      reject .staleRackBoot .validateAuthority (rackSubject rack)
        (text "process incarnation " ++ boot.value ++
          text " is permanently fenced and cannot mutate cluster state")
    match ctx.state.racks.find? rack with
    | none => pure ()
    | some record =>
      exitIf (record.authoritativeCurrent = true ∧ record.reference.boot ≠ boot) <|
        reject .notAuthorized .validateAuthority (rackSubject rack)
          (text "rack is currently published by process incarnation " ++
            record.reference.boot.value)
      forSome request.authority.publisher fun publisher =>
        forSome record.reference.publisher fun owner =>
          exitIf (publisher ≠ owner) <|
            reject .notAuthorized .validateAuthority (rackSubject rack)
              (text "publisher " ++ publisher.value ++
                text " does not own this rack; owner is " ++ owner.value)
      exitIf (staleReplay request rack boot record) <|
        rejectWith .stalePublication .validateGeneration (rackSubject rack)
          (text "publication " ++ request.authority.publication.str ++
            text " is not newer than the accepted publication " ++
            record.reference.publication.str)
          (text "stale_publication")

end ClusterFabric
