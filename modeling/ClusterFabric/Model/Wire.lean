import ClusterFabric.Lib.Exact
import ClusterFabric.Model.Frame
import ClusterFabric.Model.Snapshot

/-! # Records on the wire

The record writers and readers of `protocol.cpp`. They differ from those of durable
state: the size of a list is checked on both sides, an absent optional takes one
byte, a read fails with a status, and the number of an enumerator is compared with the
maximum that a table has for its type.
-/

namespace ClusterFabric

open Lib Codec

/-! ## Limits -/

def maxDecodedRecords : Nat := 262144
def maxSnapshotRackRefs : Nat := maxRacksPerCluster

/-- `kMaxAcceleratorClasses`. -/
def maxAcceleratorClasses : Nat := maxCapacityQuantities

/-- `kMaxRequiredPlacementClasses`: one more than the last enumerator. -/
def maxRequiredPlacementClasses : Nat := 7 + 1

/-- `kMaxRequiredFailureClasses`. -/
def maxRequiredFailureClasses : Nat := 9 + 1

/-- `kMaxSnapshotStaleReasonRaw`. The last enumerator is 23. -/
def maxSnapshotStaleReasonRaw : UInt8 := 24

/-- `kMaxStaleReasons`. -/
def maxStaleReasons : Nat := maxSnapshotStaleReasonRaw.toNat + 1

/-! ## The maxima of the enumerators -/

/-- The enumerated types that cross the wire in a payload. -/
inductive WireEnum
  | evidenceProvenance | freshness | clusterLifecycle | rackMembershipState
  | rackLifecycleState | rackCurrentness | failureDomainClass | placementDomainClass
  | capacityDomainClass | connectivityClass | linkDirection | reachability | bandwidthClass
  | latencyClass | acceleratorVendor | healthState | constraintKind | errorCategory
  | errorStage | mutationKind | mutationOutcome | rejectionReason | snapshotStaleReason
  deriving DecidableEq, Repr

namespace WireEnum

/-- `kMaxEvidenceProvenanceRaw` and its siblings. -/
def maximum : WireEnum → UInt8
  | evidenceProvenance => 6
  | freshness => 3
  | clusterLifecycle => 7
  | rackMembershipState => 4
  | rackLifecycleState => 6
  | rackCurrentness => 3
  | failureDomainClass => 9
  | placementDomainClass => 7
  | capacityDomainClass => 5
  | connectivityClass => 5
  | linkDirection => 2
  | reachability => 3
  | bandwidthClass => 4
  | latencyClass => 4
  | acceleratorVendor => 4
  | healthState => 3
  | constraintKind => 5
  | errorCategory => 10
  | errorStage => 13
  | mutationKind => 25
  | mutationOutcome => 3
  | rejectionReason => 21
  | snapshotStaleReason => maxSnapshotStaleReasonRaw

/-- The number of enumerators that the type declares. -/
def declared : WireEnum → Nat
  | evidenceProvenance => (Enumeration.all : List EvidenceProvenance).length
  | freshness => (Enumeration.all : List Freshness).length
  | clusterLifecycle => (Enumeration.all : List ClusterLifecycle).length
  | rackMembershipState => (Enumeration.all : List RackMembershipState).length
  | rackLifecycleState => (Enumeration.all : List RackLifecycleState).length
  | rackCurrentness => (Enumeration.all : List RackCurrentness).length
  | failureDomainClass => (Enumeration.all : List FailureDomainClass).length
  | placementDomainClass => (Enumeration.all : List PlacementDomainClass).length
  | capacityDomainClass => (Enumeration.all : List CapacityDomainClass).length
  | connectivityClass => (Enumeration.all : List ConnectivityClass).length
  | linkDirection => (Enumeration.all : List LinkDirection).length
  | reachability => (Enumeration.all : List Reachability).length
  | bandwidthClass => (Enumeration.all : List BandwidthClass).length
  | latencyClass => (Enumeration.all : List LatencyClass).length
  | acceleratorVendor => (Enumeration.all : List AcceleratorVendor).length
  | healthState => (Enumeration.all : List HealthState).length
  | constraintKind => (Enumeration.all : List ConstraintKind).length
  | errorCategory => (Enumeration.all : List ErrorCategory).length
  | errorStage => (Enumeration.all : List ErrorStage).length
  | mutationKind => (Enumeration.all : List MutationKind).length
  | mutationOutcome => (Enumeration.all : List MutationOutcome).length
  | rejectionReason => (Enumeration.all : List RejectionReason).length
  | snapshotStaleReason => (Enumeration.all : List SnapshotStaleReason).length

end WireEnum

/-- The entry of an enumerated type in the table, whose maximum is its last enumerator. A
stale reason has no such entry. -/
class OnWire (E : Type) [DecidableEq E] [Enumeration E] where
  type : WireEnum
  declared_eq : type.declared = (Enumeration.all : List E).length
  maximum_eq : type.maximum.toNat + 1 = type.declared

instance : OnWire EvidenceProvenance := ⟨.evidenceProvenance, rfl, rfl⟩
instance : OnWire Freshness := ⟨.freshness, rfl, rfl⟩
instance : OnWire ClusterLifecycle := ⟨.clusterLifecycle, rfl, rfl⟩
instance : OnWire RackMembershipState := ⟨.rackMembershipState, rfl, rfl⟩
instance : OnWire RackLifecycleState := ⟨.rackLifecycleState, rfl, rfl⟩
instance : OnWire RackCurrentness := ⟨.rackCurrentness, rfl, rfl⟩
instance : OnWire FailureDomainClass := ⟨.failureDomainClass, rfl, rfl⟩
instance : OnWire PlacementDomainClass := ⟨.placementDomainClass, rfl, rfl⟩
instance : OnWire CapacityDomainClass := ⟨.capacityDomainClass, rfl, rfl⟩
instance : OnWire ConnectivityClass := ⟨.connectivityClass, rfl, rfl⟩
instance : OnWire LinkDirection := ⟨.linkDirection, rfl, rfl⟩
instance : OnWire Reachability := ⟨.reachability, rfl, rfl⟩
instance : OnWire BandwidthClass := ⟨.bandwidthClass, rfl, rfl⟩
instance : OnWire LatencyClass := ⟨.latencyClass, rfl, rfl⟩
instance : OnWire AcceleratorVendor := ⟨.acceleratorVendor, rfl, rfl⟩
instance : OnWire HealthState := ⟨.healthState, rfl, rfl⟩
instance : OnWire ConstraintKind := ⟨.constraintKind, rfl, rfl⟩
instance : OnWire ErrorCategory := ⟨.errorCategory, rfl, rfl⟩
instance : OnWire ErrorStage := ⟨.errorStage, rfl, rfl⟩
instance : OnWire MutationKind := ⟨.mutationKind, rfl, rfl⟩
instance : OnWire MutationOutcome := ⟨.mutationOutcome, rfl, rfl⟩
instance : OnWire RejectionReason := ⟨.rejectionReason, rfl, rfl⟩

/-! ## Writes -/

namespace WireWriter

/-- `write_count`: a size above its bound is refused. -/
def count (size bound : Nat) : Write :=
  if bound < size then refuse else ByteWriter.u32 (.ofNat size)

/-- `write_vector`. -/
def vector {α : Type} (bound : Nat) (write : α → Write) (values : List α) : Write := do
  count values.length bound
  values.forM write

/-- `write_optional_record` and its siblings for identities and numbers. -/
def optional {α : Type} (write : α → Write) (value : Option α) : Write := do
  ByteWriter.optionalPresent value.isSome
  value.forM write

end WireWriter

/-! ## Reads -/

/-- A read that fails with the status of its first failure. The field that the
source records beside it is the same for all reads of a message. -/
abbrev WireReader := Read ProtocolStatus

namespace WireReader

def u8 : WireReader UInt8 := next .truncatedPayload

def u16 : WireReader UInt16 := UInt16.ofNat <$> readUint .truncatedPayload 2 0 0

def u32 : WireReader UInt32 := UInt32.ofNat <$> readUint .truncatedPayload 4 0 0

def u64 : WireReader UInt64 := UInt64.ofNat <$> readUint .truncatedPayload 8 0 0

def i64 : WireReader Int64 := UInt64.toInt64 <$> u64

def f64 : WireReader F64 := F64.mk <$> u64

/-- `read_bool` and `read_present`. -/
def boolean : WireReader Bool := do
  let value ← u8
  ensure (value ≤ 1) .malformedPayload
  pure (value == 1)

/-- `read_string`. -/
def text : WireReader Text := do
  let length ← u32
  ensure (length.toNat ≤ maxEncodedStringBytes) .absurdLength
  take .truncatedPayload length.toNat

/-- `read_size`: every number of 64 bits is a `size_t`. -/
def size : WireReader UInt64 := u64

def counter {tag : CounterTag} : WireReader (StrongCounter tag) := StrongCounter.fromRaw <$> u64

def timestamp : WireReader Timestamp := Timestamp.mk <$> i64

/-- `read_enum` before the cast. -/
def enumNumber (maximum : UInt8) : WireReader UInt8 := do
  let value ← u8
  ensure (value ≤ maximum) .invalidEnum
  pure value

/-- `read_enum`. The maximum of a type is its last enumerator, so the cast succeeds. -/
def enum {E : Type} [DecidableEq E] [Enumeration E] [OnWire E] : WireReader E := do
  let value ← enumNumber (OnWire.type E).maximum
  demand (ByteReader.enumOf value) .invalidEnum

/-- `read_identity_value`. -/
def id {tag : IdTag} : WireReader (StrongId tag) := do
  let value ← text
  demand (StrongId.parse value) .invalidIdentity

/-- `read_optional_record` and its siblings for identities and numbers. -/
def optional {α : Type} (read : WireReader α) : WireReader (Option α) := do
  let present ← boolean
  readIf present read

/-- `read_count`: every entry takes a byte at least, so a size above the number of
bytes that remain cannot be right. -/
def count (bound : Nat) : WireReader Nat := do
  let value ← u32
  ensure (value.toNat ≤ bound) .absurdLength
  room value.toNat .absurdLength
  pure value.toNat

/-- `read_vector`. -/
def vector {α : Type} (bound : Nat) (read : WireReader α) : WireReader (List α) := do
  let size ← count bound
  times size read

end WireReader

namespace Wire

/-! ## Record writers -/

section Writers

open ByteWriter (boolean counter timestamp enum)
open WireWriter (optional vector)

def writeEvidenceStamp (stamp : EvidenceStamp) : Write := do
  enum stamp.provenance
  timestamp stamp.observedAt
  enum stamp.freshness
  ByteWriter.i64 stamp.ttlMillis

def writeStructuredError (error : StructuredError) : Write := do
  enum error.category
  enum error.stage
  ByteWriter.text error.subject
  ByteWriter.text error.reason
  ByteWriter.text error.expected
  ByteWriter.text error.current
  ByteWriter.text error.message

def writeExplanationFactor (factor : ExplanationFactor) : Write := do
  ByteWriter.text factor.code
  ByteWriter.text factor.subject
  ByteWriter.text factor.detail

def writeExplanation (explanation : Explanation) : Write := do
  ByteWriter.text explanation.code
  ByteWriter.text explanation.subject
  ByteWriter.text explanation.summary
  vector maxExplanationFactors writeExplanationFactor explanation.factors

def writeReadinessContract (contract : ReadinessContract) : Write := do
  ByteWriter.u64 contract.minimumCurrentRacks
  vector maxRacksPerCluster ByteWriter.id contract.mandatoryRacks
  boolean contract.requireAllActiveRacksCurrent
  boolean contract.requireConnectivityEvidence
  ByteWriter.u64 contract.minimumCurrentLinks
  vector maxRequiredPlacementClasses enum contract.requiredPlacementDomainClasses
  vector maxRequiredFailureClasses enum contract.requiredFailureDomainClasses
  boolean contract.allowPartial
  boolean contract.allowDegraded
  boolean contract.requireNoConflicts

def writeReadinessBlocker (blocker : ReadinessBlocker) : Write := do
  ByteWriter.text blocker.code
  ByteWriter.text blocker.subject
  ByteWriter.text blocker.detail

def writeReadinessEvaluation (evaluation : ReadinessEvaluation) : Write := do
  boolean evaluation.satisfied
  enum evaluation.lifecycle
  vector maxDecodedRecords writeReadinessBlocker evaluation.blockers

def writeDomainHeader (header : DomainHeader) : Write := do
  writeEvidenceStamp header.evidence
  counter header.generation
  optional ByteWriter.id header.publisher
  counter header.clusterEpoch
  counter header.coordinatorEpoch
  ByteWriter.text header.label

def writePlacementDomain (domain : Domain .placement) : Write := do
  ByteWriter.id domain.id
  enum (E := PlacementDomainClass) domain.detail
  vector maxDomainMembers ByteWriter.id domain.racks
  writeDomainHeader domain.header

def writeCapacityQuantity (quantity : CapacityQuantity) : Write := do
  ByteWriter.text quantity.unit
  optional ByteWriter.f64 quantity.value
  enum quantity.provenance
  boolean quantity.aggregated

def writeCapacityDomain (domain : Domain .capacity) : Write := do
  ByteWriter.id domain.id
  enum (CapacityDetail.klass domain.detail)
  vector maxDomainMembers ByteWriter.id domain.racks
  vector maxCapacityQuantities writeCapacityQuantity (CapacityDetail.quantities domain.detail)
  writeDomainHeader domain.header

def writeFailureDomain (domain : Domain .failure) : Write := do
  ByteWriter.id domain.id
  enum (E := FailureDomainClass) domain.detail
  vector maxDomainMembers ByteWriter.id domain.racks
  writeDomainHeader domain.header

def writeNetworkDomain (domain : Domain .network) : Write := do
  ByteWriter.id domain.id
  enum (E := ConnectivityClass) domain.detail
  vector maxDomainMembers ByteWriter.id domain.racks
  writeDomainHeader domain.header

/-- A storage or link domain. -/
def writePlain {k : DomainKind} (domain : Domain k) : Write := do
  ByteWriter.id domain.id
  vector maxDomainMembers ByteWriter.id domain.racks
  writeDomainHeader domain.header

def writeStorageDomain (domain : Domain .storage) : Write := writePlain domain

def writePowerDomain (domain : Domain .power) : Write := do
  ByteWriter.id domain.id
  vector maxDomainMembers ByteWriter.id domain.racks
  optional (@ByteWriter.id .powerDomain) domain.detail
  writeDomainHeader domain.header

def writeCoolingDomain (domain : Domain .cooling) : Write := do
  ByteWriter.id domain.id
  vector maxDomainMembers ByteWriter.id domain.racks
  optional (@ByteWriter.id .coolingDomain) domain.detail
  writeDomainHeader domain.header

def writeLinkDomain (domain : Domain .link) : Write := writePlain domain

def writeConstraint (constraint : ClusterConstraint) : Write := do
  ByteWriter.id constraint.id
  enum constraint.kind
  vector maxDomainMembers ByteWriter.id constraint.racks
  ByteWriter.text constraint.domainRef
  ByteWriter.text constraint.statement
  writeDomainHeader constraint.header

def writeInterRackLink (link : InterRackLink) : Write := do
  ByteWriter.id link.id
  ByteWriter.id link.source
  ByteWriter.id link.destination
  enum link.direction
  enum link.connectivity
  optional ByteWriter.id link.networkDomain
  optional ByteWriter.id link.linkDomain
  optional ByteWriter.id link.sourceEndpoint
  optional ByteWriter.id link.destinationEndpoint
  enum link.bandwidthClass
  optional ByteWriter.u64 link.nominalBandwidthBps
  enum link.latencyClass
  optional ByteWriter.u64 link.nominalLatencyNanos
  optional ByteWriter.u32 link.hopCount
  enum link.reachability
  enum link.health
  vector maxFailureDomainRefs ByteWriter.id link.failureDomains
  writeDomainHeader link.header
  counter link.topologyEpoch
  counter link.topologyGeneration
  counter link.publication
  optional ByteWriter.id link.boot

def writeAcceleratorSummary (summary : AcceleratorClassSummary) : Write := do
  enum summary.vendor
  ByteWriter.text summary.family
  optional ByteWriter.u32 summary.deviceCount
  optional ByteWriter.u64 summary.deviceMemoryBytes

def writeComposition (composition : RackCompositionSummary) : Write := do
  vector maxAcceleratorClasses writeAcceleratorSummary composition.accelerators
  optional ByteWriter.u32 composition.cpuSockets
  optional ByteWriter.u32 composition.cpuCores
  optional ByteWriter.u64 composition.hostMemoryBytes
  optional ByteWriter.u32 composition.nicCount
  optional ByteWriter.u32 composition.switchCount
  ByteWriter.text composition.compositionLabel
  enum composition.provenance

def writeRackEndpoint (endpoint : RackEndpoint) : Write := do
  ByteWriter.id endpoint.id
  optional ByteWriter.id endpoint.networkDomain
  optional ByteWriter.id endpoint.linkDomain
  enum endpoint.connectivity
  writeEvidenceStamp endpoint.evidence

def writeFailureHint (hint : RackFailureDomainHint) : Write := do
  enum hint.klass
  ByteWriter.id hint.id
  writeEvidenceStamp hint.evidence

def writeRackReference (reference : RackReference) : Write := do
  ByteWriter.id reference.rack
  counter reference.generation
  enum reference.rackLifecycle
  enum reference.currentness
  writeComposition reference.composition
  vector maxRackEndpoints writeRackEndpoint reference.endpoints
  vector maxFailureDomainRefs writeFailureHint reference.failureDomainHints
  writeEvidenceStamp reference.evidence
  optional ByteWriter.id reference.publisher
  counter reference.publication
  ByteWriter.id reference.boot
  counter reference.clusterEpoch
  counter reference.coordinatorEpoch
  enum reference.health
  ByteWriter.text reference.originLabel

def writeDomainGenerations (generations : DomainGenerations) : Write := do
  counter (generations .placement)
  counter (generations .capacity)
  counter (generations .failure)
  counter (generations .network)
  counter (generations .storage)
  counter (generations .power)
  counter (generations .cooling)
  counter (generations .link)

def writeRackBinding (binding : RackGenerationBinding) : Write := do
  ByteWriter.id binding.rack
  counter binding.generation
  enum binding.membership
  enum binding.currentness
  boolean binding.authoritativeCurrent
  ByteWriter.id binding.boot

def writeSnapshotView (view : SnapshotView) : Write := do
  ByteWriter.id view.cluster
  counter view.clusterEpoch
  counter view.coordinatorEpoch
  counter view.clusterGeneration
  counter view.membershipGeneration
  counter view.topologyEpoch
  counter view.topologyGeneration
  counter view.connectivityGeneration
  counter view.healthGeneration
  counter view.constraintGeneration
  writeDomainGenerations view.domainGenerations
  counter view.snapshotGeneration
  counter view.publicationGeneration
  enum view.lifecycle
  vector maxSnapshotRackRefs writeRackBinding view.rackBindings
  ByteWriter.text view.semanticDigest
  ByteWriter.u64 view.rackCount
  ByteWriter.u64 view.linkCount
  ByteWriter.u64 view.domainCount

end Writers

/-! ## Record readers -/

section Readers

open WireReader (boolean counter timestamp enum size optional vector)

def readEvidenceStamp : WireReader EvidenceStamp := do
  let provenance ← enum
  let observedAt ← timestamp
  let freshness ← enum
  let ttlMillis ← WireReader.i64
  pure { provenance, observedAt, freshness, ttlMillis }

def readStructuredError : WireReader StructuredError := do
  let category ← enum
  let stage ← enum
  let subject ← WireReader.text
  let reason ← WireReader.text
  let expected ← WireReader.text
  let current ← WireReader.text
  let message ← WireReader.text
  pure { category, stage, subject, reason, expected, current, message }

def readExplanationFactor : WireReader ExplanationFactor := do
  let code ← WireReader.text
  let subject ← WireReader.text
  let detail ← WireReader.text
  pure { code, subject, detail }

def readExplanation : WireReader Explanation := do
  let code ← WireReader.text
  let subject ← WireReader.text
  let summary ← WireReader.text
  let factors ← vector maxExplanationFactors readExplanationFactor
  pure { code, subject, summary, factors }

def readReadinessContract : WireReader ReadinessContract := do
  let minimumCurrentRacks ← size
  let mandatoryRacks ← vector maxRacksPerCluster WireReader.id
  let requireAllActiveRacksCurrent ← boolean
  let requireConnectivityEvidence ← boolean
  let minimumCurrentLinks ← size
  let requiredPlacementDomainClasses ← vector maxRequiredPlacementClasses enum
  let requiredFailureDomainClasses ← vector maxRequiredFailureClasses enum
  let allowPartial ← boolean
  let allowDegraded ← boolean
  let requireNoConflicts ← boolean
  pure { minimumCurrentRacks, mandatoryRacks, requireAllActiveRacksCurrent,
         requireConnectivityEvidence, minimumCurrentLinks, requiredPlacementDomainClasses,
         requiredFailureDomainClasses, allowPartial, allowDegraded, requireNoConflicts }

def readReadinessBlocker : WireReader ReadinessBlocker := do
  let code ← WireReader.text
  let subject ← WireReader.text
  let detail ← WireReader.text
  pure { code, subject, detail }

def readReadinessEvaluation : WireReader ReadinessEvaluation := do
  let satisfied ← boolean
  let lifecycle ← enum
  let blockers ← vector maxDecodedRecords readReadinessBlocker
  pure { satisfied, lifecycle, blockers }

def readDomainHeader : WireReader DomainHeader := do
  let evidence ← readEvidenceStamp
  let generation ← counter
  let publisher ← optional WireReader.id
  let clusterEpoch ← counter
  let coordinatorEpoch ← counter
  let label ← WireReader.text
  pure { evidence, generation, publisher, clusterEpoch, coordinatorEpoch, label }

def readPlacementDomain : WireReader (Domain .placement) := do
  let id ← WireReader.id
  let klass : PlacementDomainClass ← enum
  let racks ← vector maxDomainMembers WireReader.id
  let header ← readDomainHeader
  pure { id, detail := klass, racks, header }

def readCapacityQuantity : WireReader CapacityQuantity := do
  let unit ← WireReader.text
  let value ← optional WireReader.f64
  let provenance ← enum
  let aggregated ← boolean
  pure { unit, value, provenance, aggregated }

def readCapacityDomain : WireReader (Domain .capacity) := do
  let id ← WireReader.id
  let klass ← enum
  let racks ← vector maxDomainMembers WireReader.id
  let quantities ← vector maxCapacityQuantities readCapacityQuantity
  let header ← readDomainHeader
  pure { id, detail := ({ klass, quantities } : CapacityDetail), racks, header }

def readFailureDomain : WireReader (Domain .failure) := do
  let id ← WireReader.id
  let klass : FailureDomainClass ← enum
  let racks ← vector maxDomainMembers WireReader.id
  let header ← readDomainHeader
  pure { id, detail := klass, racks, header }

def readNetworkDomain : WireReader (Domain .network) := do
  let id ← WireReader.id
  let connectivity : ConnectivityClass ← enum
  let racks ← vector maxDomainMembers WireReader.id
  let header ← readDomainHeader
  pure { id, detail := connectivity, racks, header }

/-- A storage or link domain. -/
def readPlain {k : DomainKind} (detail : DomainDetail k) : WireReader (Domain k) := do
  let id ← WireReader.id
  let racks ← vector maxDomainMembers WireReader.id
  let header ← readDomainHeader
  pure { id, detail, racks, header }

def readStorageDomain : WireReader (Domain .storage) := readPlain ()

def readPowerDomain : WireReader (Domain .power) := do
  let id ← WireReader.id
  let racks ← vector maxDomainMembers WireReader.id
  let parent ← optional (@WireReader.id .powerDomain)
  let header ← readDomainHeader
  pure { id, detail := parent, racks, header }

def readCoolingDomain : WireReader (Domain .cooling) := do
  let id ← WireReader.id
  let racks ← vector maxDomainMembers WireReader.id
  let parent ← optional (@WireReader.id .coolingDomain)
  let header ← readDomainHeader
  pure { id, detail := parent, racks, header }

def readLinkDomain : WireReader (Domain .link) := readPlain ()

def readConstraint : WireReader ClusterConstraint := do
  let id ← WireReader.id
  let kind ← enum
  let racks ← vector maxDomainMembers WireReader.id
  let domainRef ← WireReader.text
  let statement ← WireReader.text
  let header ← readDomainHeader
  pure { id, kind, racks, domainRef, statement, header }

def readInterRackLink : WireReader InterRackLink := do
  let id ← WireReader.id
  let source ← WireReader.id
  let destination ← WireReader.id
  let direction ← enum
  let connectivity ← enum
  let networkDomain ← optional WireReader.id
  let linkDomain ← optional WireReader.id
  let sourceEndpoint ← optional WireReader.id
  let destinationEndpoint ← optional WireReader.id
  let bandwidthClass ← enum
  let nominalBandwidthBps ← optional WireReader.u64
  let latencyClass ← enum
  let nominalLatencyNanos ← optional WireReader.u64
  let hopCount ← optional WireReader.u32
  let reachability ← enum
  let health ← enum
  let failureDomains ← vector maxFailureDomainRefs WireReader.id
  let header ← readDomainHeader
  let topologyEpoch ← counter
  let topologyGeneration ← counter
  let publication ← counter
  let boot ← optional WireReader.id
  pure { id, source, destination, direction, connectivity, networkDomain, linkDomain,
         sourceEndpoint, destinationEndpoint, bandwidthClass, nominalBandwidthBps, latencyClass,
         nominalLatencyNanos, hopCount, reachability, health, failureDomains, header,
         topologyEpoch, topologyGeneration, publication, boot }

def readAcceleratorSummary : WireReader AcceleratorClassSummary := do
  let vendor ← enum
  let family ← WireReader.text
  let deviceCount ← optional WireReader.u32
  let deviceMemoryBytes ← optional WireReader.u64
  pure { vendor, family, deviceCount, deviceMemoryBytes }

def readComposition : WireReader RackCompositionSummary := do
  let accelerators ← vector maxAcceleratorClasses readAcceleratorSummary
  let cpuSockets ← optional WireReader.u32
  let cpuCores ← optional WireReader.u32
  let hostMemoryBytes ← optional WireReader.u64
  let nicCount ← optional WireReader.u32
  let switchCount ← optional WireReader.u32
  let compositionLabel ← WireReader.text
  let provenance ← enum
  pure { accelerators, cpuSockets, cpuCores, hostMemoryBytes, nicCount, switchCount,
         compositionLabel, provenance }

def readRackEndpoint : WireReader RackEndpoint := do
  let id ← WireReader.id
  let networkDomain ← optional WireReader.id
  let linkDomain ← optional WireReader.id
  let connectivity ← enum
  let evidence ← readEvidenceStamp
  pure { id, networkDomain, linkDomain, connectivity, evidence }

def readFailureHint : WireReader RackFailureDomainHint := do
  let klass ← enum
  let id ← WireReader.id
  let evidence ← readEvidenceStamp
  pure { klass, id, evidence }

def readRackReference : WireReader RackReference := do
  let rack ← WireReader.id
  let generation ← counter
  let rackLifecycle ← enum
  let currentness ← enum
  let composition ← readComposition
  let endpoints ← vector maxRackEndpoints readRackEndpoint
  let failureDomainHints ← vector maxFailureDomainRefs readFailureHint
  let evidence ← readEvidenceStamp
  let publisher ← optional WireReader.id
  let publication ← counter
  let boot ← WireReader.id
  let clusterEpoch ← counter
  let coordinatorEpoch ← counter
  let health ← enum
  let originLabel ← WireReader.text
  pure { rack, generation, rackLifecycle, currentness, composition, endpoints,
         failureDomainHints, evidence, publisher, publication, boot, clusterEpoch,
         coordinatorEpoch, health, originLabel }

def readDomainGenerations : WireReader DomainGenerations := do
  let placement ← counter
  let capacity ← counter
  let failure ← counter
  let network ← counter
  let storage ← counter
  let power ← counter
  let cooling ← counter
  let link ← counter
  pure (byKind placement capacity failure network storage power cooling link)

def readRackBinding : WireReader RackGenerationBinding := do
  let rack ← WireReader.id
  let generation ← counter
  let membership ← enum
  let currentness ← enum
  let authoritativeCurrent ← boolean
  let boot ← WireReader.id
  pure { rack, generation, membership, currentness, authoritativeCurrent, boot }

def readSnapshotView : WireReader SnapshotView := do
  let cluster ← WireReader.id
  let clusterEpoch ← counter
  let coordinatorEpoch ← counter
  let clusterGeneration ← counter
  let membershipGeneration ← counter
  let topologyEpoch ← counter
  let topologyGeneration ← counter
  let connectivityGeneration ← counter
  let healthGeneration ← counter
  let constraintGeneration ← counter
  let domainGenerations ← readDomainGenerations
  let snapshotGeneration ← counter
  let publicationGeneration ← counter
  let lifecycle ← enum
  let rackBindings ← vector maxSnapshotRackRefs readRackBinding
  let semanticDigest ← WireReader.text
  let rackCount ← size
  let linkCount ← size
  let domainCount ← size
  pure { cluster, clusterEpoch, coordinatorEpoch, clusterGeneration, membershipGeneration,
         topologyEpoch, topologyGeneration, connectivityGeneration, healthGeneration,
         constraintGeneration, domainGenerations, snapshotGeneration, publicationGeneration,
         lifecycle, rackBindings, semanticDigest, rackCount, linkCount, domainCount }

end Readers

end Wire

end ClusterFabric
