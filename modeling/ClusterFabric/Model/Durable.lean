import ClusterFabric.Model.Readiness
import ClusterFabric.Model.Mutation

/-! # Durable state

`PersistedState` of `persistence.hpp`, its projection from canonical state and
the recovery of canonical state from it.
-/

namespace ClusterFabric

open Lib

inductive PersistenceStatus
  | ok | emptyInput | missingFile | badMagic | unsupportedVersion | truncatedHeader
  | truncatedBody | checksumMismatch | trailingGarbage | invalidEnum | absurdCount
  | boundsExceeded | duplicateRackIdentity | danglingReference | invalidEpoch
  | invalidGeneration | invalidIdentity | invalidState | payloadTooLarge | ioError
  | atomicReplaceFailed | tempFileUnavailable
  deriving DecidableEq, Repr

/-- A status that reports a failure. -/
class PersistenceStatus.Failing (status : PersistenceStatus) : Prop where
  ne_ok : status ≠ .ok

namespace PersistenceStatus

instance : Failing .emptyInput := ⟨by decide⟩
instance : Failing .badMagic := ⟨by decide⟩
instance : Failing .unsupportedVersion := ⟨by decide⟩
instance : Failing .truncatedHeader := ⟨by decide⟩
instance : Failing .truncatedBody := ⟨by decide⟩
instance : Failing .checksumMismatch := ⟨by decide⟩
instance : Failing .trailingGarbage := ⟨by decide⟩
instance : Failing .invalidEnum := ⟨by decide⟩
instance : Failing .absurdCount := ⟨by decide⟩
instance : Failing .boundsExceeded := ⟨by decide⟩
instance : Failing .duplicateRackIdentity := ⟨by decide⟩
instance : Failing .danglingReference := ⟨by decide⟩
instance : Failing .invalidEpoch := ⟨by decide⟩
instance : Failing .invalidGeneration := ⟨by decide⟩
instance : Failing .invalidIdentity := ⟨by decide⟩
instance : Failing .invalidState := ⟨by decide⟩
instance : Failing .payloadTooLarge := ⟨by decide⟩

end PersistenceStatus

def PersistenceStatus.toText : PersistenceStatus → Text
  | .ok => text "OK"
  | .emptyInput => text "EMPTY_INPUT"
  | .missingFile => text "MISSING_FILE"
  | .badMagic => text "BAD_MAGIC"
  | .unsupportedVersion => text "UNSUPPORTED_VERSION"
  | .truncatedHeader => text "TRUNCATED_HEADER"
  | .truncatedBody => text "TRUNCATED_BODY"
  | .checksumMismatch => text "CHECKSUM_MISMATCH"
  | .trailingGarbage => text "TRAILING_GARBAGE"
  | .invalidEnum => text "INVALID_ENUM"
  | .absurdCount => text "ABSURD_COUNT"
  | .boundsExceeded => text "BOUNDS_EXCEEDED"
  | .duplicateRackIdentity => text "DUPLICATE_RACK_IDENTITY"
  | .danglingReference => text "DANGLING_REFERENCE"
  | .invalidEpoch => text "INVALID_EPOCH"
  | .invalidGeneration => text "INVALID_GENERATION"
  | .invalidIdentity => text "INVALID_IDENTITY"
  | .invalidState => text "INVALID_STATE"
  | .payloadTooLarge => text "PAYLOAD_TOO_LARGE"
  | .ioError => text "IO_ERROR"
  | .atomicReplaceFailed => text "ATOMIC_REPLACE_FAILED"
  | .tempFileUnavailable => text "TEMP_FILE_UNAVAILABLE"

structure DurableRack where
  rack : RackId := .unset
  generation : RackGeneration := .unknown
  membership : RackMembershipState := .unknown
  publisher : RackPublisherId := .unset
  lastAcceptedPublication : PublicationGeneration := .unknown
  lastBoot : RackAgentBootId := .unset
  composition : RackCompositionSummary := {}
  endpoints : List RackEndpoint := []
  failureDomainHints : List RackFailureDomainHint := []
  rackLifecycle : RackLifecycleState := .unknown
  membershipGeneration : MembershipGeneration := .unknown
  originLabel : Text := []
  declaredAt : Timestamp := .unknown
  deriving DecidableEq

/-- The durable subset of canonical state. -/
structure PersistedState where
  id : ClusterId := .unset
  epoch : ClusterEpoch := .unknown
  lastCoordinatorEpoch : CoordinatorEpoch := .unknown
  generation : ClusterGeneration := .unknown
  membershipGeneration : MembershipGeneration := .unknown
  topologyEpoch : TopologyEpoch := .unknown
  topologyGeneration : TopologyGeneration := .unknown
  connectivityGeneration : ConnectivityGeneration := .unknown
  healthGeneration : HealthGeneration := .unknown
  constraintGeneration : ConstraintGeneration := .unknown
  domainGenerations : DomainGenerations := fun _ => .unknown
  snapshotGeneration : SnapshotGeneration := .unknown
  publicationGeneration : PublicationGeneration := .unknown
  lifecycle : ClusterLifecycle := .declared
  readinessContract : ReadinessContract := {}
  topologyRecord : TopologyEpochRecord := {}
  declaredAt : Timestamp := .unknown
  lastMutationAt : Timestamp := .unknown
  racks : List DurableRack := []
  /-- `placement_domains`, `capacity_domains` and so on. -/
  domains : (k : DomainKind) → List (Domain k) := fun _ => []
  links : List InterRackLink := []
  constraints : List ClusterConstraint := []
  retiredRacks : List RetiredIdentity := []
  withdrawnRacks : List RackId := []
  fencedAuthorities : List FencedAuthority := []

/-! ## Projection -/

theorem unknownPublisher_valid :
    (validateIdentity (text "cluster-fabric-unknown")).isOk = true := by decide +kernel

/-- The placeholder for a record without a publisher. -/
def unknownPublisher : RackPublisherId :=
  ⟨text "cluster-fabric-unknown", .inr unknownPublisher_valid⟩

def durableRack (rack : RackId) (record : RackRecord) : DurableRack where
  rack := rack
  generation := record.reference.generation
  membership := record.membership
  publisher := record.reference.publisher.getD unknownPublisher
  lastAcceptedPublication := record.reference.publication
  lastBoot := record.reference.boot
  composition := record.reference.composition
  endpoints := record.reference.endpoints
  failureDomainHints := record.reference.failureDomainHints
  rackLifecycle := record.reference.rackLifecycle
  membershipGeneration := record.membershipGeneration
  originLabel := record.reference.originLabel
  declaredAt := record.membershipEvidence.observedAt

def toPersistedState (s : ClusterState) : PersistedState where
  id := s.id
  epoch := s.epoch
  lastCoordinatorEpoch := s.coordinatorEpoch
  generation := s.generation
  membershipGeneration := s.membershipGeneration
  topologyEpoch := s.topologyEpoch
  topologyGeneration := s.topologyGeneration
  connectivityGeneration := s.connectivityGeneration
  healthGeneration := s.healthGeneration
  constraintGeneration := s.constraintGeneration
  domainGenerations := s.domainGenerations
  snapshotGeneration := s.snapshotGeneration
  publicationGeneration := s.publicationGeneration
  lifecycle := s.lifecycle
  readinessContract := s.readinessContract
  topologyRecord := s.topologyRecord
  declaredAt := s.declaredAt
  lastMutationAt := s.lastMutationAt
  racks := s.racks.entries.map fun e => durableRack e.1 e.2
  domains k := (s.domains k).values
  links := s.links.values
  constraints := s.constraints.values
  retiredRacks := s.retiredRacks
  withdrawnRacks := s.withdrawnRacks
  fencedAuthorities := s.fencedAuthorities

/-! ## Recovery -/

structure RecoveryReport where
  attempted : Bool := false
  loaded : Bool := false
  status : PersistenceStatus := .ok
  racksRecovered : Nat := 0
  domainsRecovered : Nat := 0
  linksRecovered : Nat := 0
  retiredRecovered : Nat := 0
  fencedRecovered : Nat := 0
  coordinatorEpochAdvanced : Bool := false
  previousCoordinatorEpoch : CoordinatorEpoch := .unknown
  currentCoordinatorEpoch : CoordinatorEpoch := .unknown
  revalidationRequired : Bool := false
  notes : List Text := []

/-- The record of a recovered rack: declared facts only, nothing live. -/
def recoveredRack (p : PersistedState) (coordinatorEpoch : CoordinatorEpoch) (now : Timestamp)
    (rack : DurableRack) : RackRecord where
  reference :=
    { rack := rack.rack
      generation := rack.generation
      rackLifecycle := rack.rackLifecycle
      currentness := .revalidationRequired
      composition := rack.composition
      endpoints := rack.endpoints
      failureDomainHints := rack.failureDomainHints
      evidence :=
        { provenance := .reconstructed
          observedAt := rack.declaredAt
          freshness := .revalidationRequired
          ttlMillis := 0 }
      publisher := some rack.publisher
      publication := rack.lastAcceptedPublication
      boot := rack.lastBoot
      clusterEpoch := p.epoch
      coordinatorEpoch := coordinatorEpoch
      health := .unknown
      originLabel := rack.originLabel }
  membership := rack.membership
  membershipGeneration := rack.membershipGeneration
  acceptedAtGeneration := p.generation
  membershipEvidence :=
    { provenance := .reconstructed
      observedAt := now
      freshness := .revalidationRequired }
  authoritativeCurrent := false
  nonAuthoritativeReason := text "recovered_state_requires_revalidation"

/-- Fences the last incarnation of a rack, unless it is fenced already. -/
def fenceLastBoot (now : Timestamp) (fenced : List FencedAuthority) (rack : DurableRack) :
    List FencedAuthority :=
  if fenced.any fun f => f.boot == rack.lastBoot then fenced
  else fenced ++ [⟨rack.lastBoot, rack.rack, text "coordinator_restart", now⟩]

def recoveredDomain {k : DomainKind} (now : Timestamp) (domain : Domain k) : Domain k :=
  { domain with header := { domain.header with evidence := domain.header.evidence.refresh now } }

def recoveredLink (link : InterRackLink) : InterRackLink :=
  { link with
    reachability := .unknown
    health := .unknown
    header := { link.header with evidence := link.header.evidence.markRevalidationRequired } }

def recoveredConstraint (now : Timestamp) (constraint : ClusterConstraint) : ClusterConstraint :=
  { constraint with
    header := { constraint.header with evidence := constraint.header.evidence.refresh now } }

section Recover

variable [StdSort] (p : PersistedState) (coordinatorEpoch : CoordinatorEpoch) (now : Timestamp)

/-- The fenced list with the last incarnation of every rack added, in the order
of the racks and before it is sorted. -/
def fencedAfterRecovery : List FencedAuthority :=
  p.racks.foldl (fenceLastBoot now) p.fencedAuthorities

/-- The recovered state before its lifecycle is evaluated: the recorded
lifecycle is not restored. -/
def recoveredState : ClusterState where
  id := p.id
  epoch := p.epoch
  coordinatorEpoch := coordinatorEpoch
  generation := p.generation
  membershipGeneration := p.membershipGeneration
  topologyEpoch := p.topologyEpoch
  topologyGeneration := p.topologyGeneration
  connectivityGeneration := p.connectivityGeneration
  healthGeneration := p.healthGeneration
  constraintGeneration := p.constraintGeneration
  domainGenerations := p.domainGenerations
  snapshotGeneration := p.snapshotGeneration
  publicationGeneration := p.publicationGeneration
  readinessContract := p.readinessContract
  topologyRecord := p.topologyRecord
  declaredAt := p.declaredAt
  lastMutationAt := p.lastMutationAt
  retiredRacks := p.retiredRacks
  withdrawnRacks := p.withdrawnRacks
  fencedAuthorities := sortBy FencedAuthority.boot (fencedAfterRecovery p now)
  racks := .ofList (p.racks.map fun rack =>
    (rack.rack, recoveredRack p coordinatorEpoch now rack))
  domains k := .ofList ((p.domains k).map fun domain => (domain.id, recoveredDomain now domain))
  links := .ofList (p.links.map fun link => (link.id, recoveredLink link))
  constraints := .ofList (p.constraints.map fun constraint =>
    (constraint.id, recoveredConstraint now constraint))

/-- `from_persisted_state`, without its report. -/
def fromPersistedState : ClusterState :=
  let s := recoveredState p coordinatorEpoch now
  { s with lifecycle := (evaluateReadiness s).lifecycle }

/-- The counts that `from_persisted_state` adds to a report. -/
def reportRecovery (report : RecoveryReport) : RecoveryReport :=
  { report with
    racksRecovered := report.racksRecovered + p.racks.length
    fencedRecovered := report.fencedRecovered +
      ((fencedAfterRecovery p now).length - p.fencedAuthorities.length)
    domainsRecovered := report.domainsRecovered +
      (DomainKind.all.map fun k => (p.domains k).length).sum
    linksRecovered := report.linksRecovered + p.links.length
    retiredRecovered := p.retiredRacks.length
    revalidationRequired := !(recoveredState p coordinatorEpoch now).racks.isEmpty }

end Recover

/-! ## Stores -/

structure SaveOutcome where
  ok : Bool := false
  status : PersistenceStatus := .ok
  bytesWritten : Nat := 0
  error : StructuredError := {}

structure LoadOutcome where
  status : PersistenceStatus := .ok
  state : Option PersistedState := none
  error : StructuredError := {}

/-- The state of a load that `ok()` accepts. -/
def LoadOutcome.loaded (outcome : LoadOutcome) : Option PersistedState :=
  if outcome.status = .ok then outcome.state else none

/-- A storage backend with content of type `σ`. What it answers to a save may
depend on its content in any way, so failures can come at any time. -/
structure PersistenceStore (σ : Type) where
  save : PersistedState → σ → SaveOutcome × σ
  load : σ → LoadOutcome

end ClusterFabric
