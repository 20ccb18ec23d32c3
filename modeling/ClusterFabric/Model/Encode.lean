import ClusterFabric.Model.Bytes
import ClusterFabric.Model.Durable

/-! # Encoding of durable state

The writers of `persistence.cpp` and `encode_persisted_state`: the fields of a
`PersistedState` in a fixed order, in a container with a magic number, a
version, a length and a checksum.
-/

namespace ClusterFabric

open Lib Codec
open ByteWriter (u8 boolean counter timestamp enum optionalId optionalU32 optionalU64 vector)

/-! ## Parts -/

def writeStamp (stamp : EvidenceStamp) : Write := do
  enum stamp.provenance
  timestamp stamp.observedAt
  enum stamp.freshness
  ByteWriter.i64 stamp.ttlMillis

def writeHeader (header : DomainHeader) : Write := do
  writeStamp header.evidence
  counter header.generation
  optionalId header.publisher
  counter header.clusterEpoch
  counter header.coordinatorEpoch
  ByteWriter.text header.label

def writeRackIds (racks : List RackId) : Write := vector ByteWriter.id racks

def writeAccelerator (summary : AcceleratorClassSummary) : Write := do
  enum summary.vendor
  ByteWriter.text summary.family
  optionalU32 summary.deviceCount
  optionalU64 summary.deviceMemoryBytes

def writeComposition (composition : RackCompositionSummary) : Write := do
  enum composition.provenance
  vector writeAccelerator composition.accelerators
  optionalU32 composition.cpuSockets
  optionalU32 composition.cpuCores
  optionalU64 composition.hostMemoryBytes
  optionalU32 composition.nicCount
  optionalU32 composition.switchCount
  ByteWriter.text composition.compositionLabel

def writeEndpoint (endpoint : RackEndpoint) : Write := do
  ByteWriter.id endpoint.id
  optionalId endpoint.networkDomain
  optionalId endpoint.linkDomain
  enum endpoint.connectivity
  writeStamp endpoint.evidence

def writeEndpoints (endpoints : List RackEndpoint) : Write := vector writeEndpoint endpoints

def writeHint (hint : RackFailureDomainHint) : Write := do
  enum hint.klass
  ByteWriter.id hint.id
  writeStamp hint.evidence

def writeHints (hints : List RackFailureDomainHint) : Write := vector writeHint hints

def writeReadiness (contract : ReadinessContract) : Write := do
  ByteWriter.u64 contract.minimumCurrentRacks
  writeRackIds contract.mandatoryRacks
  boolean contract.requireAllActiveRacksCurrent
  boolean contract.requireConnectivityEvidence
  ByteWriter.u64 contract.minimumCurrentLinks
  vector enum contract.requiredPlacementDomainClasses
  vector enum contract.requiredFailureDomainClasses
  boolean contract.allowPartial
  boolean contract.allowDegraded
  boolean contract.requireNoConflicts

def writeDomainGenerations (generations : DomainGenerations) : Write := do
  counter (generations .placement)
  counter (generations .capacity)
  counter (generations .failure)
  counter (generations .network)
  counter (generations .storage)
  counter (generations .power)
  counter (generations .cooling)
  counter (generations .link)

def writeTopologyRecord (record : TopologyEpochRecord) : Write := do
  counter record.epoch
  counter record.generation
  timestamp record.establishedAt
  writeStamp record.evidence
  ByteWriter.text record.reason

/-! ## Records -/

def writeRack (rack : DurableRack) : Write := do
  ByteWriter.id rack.rack
  counter rack.generation
  enum rack.membership
  ByteWriter.id rack.publisher
  counter rack.lastAcceptedPublication
  ByteWriter.id rack.lastBoot
  writeComposition rack.composition
  writeEndpoints rack.endpoints
  writeHints rack.failureDomainHints
  enum rack.rackLifecycle
  counter rack.membershipGeneration
  ByteWriter.text rack.originLabel
  timestamp rack.declaredAt

def writeQuantity (quantity : CapacityQuantity) : Write := do
  ByteWriter.text quantity.unit
  ByteWriter.optionalPresent quantity.value.isSome
  ByteWriter.f64 (quantity.value.getD ⟨0⟩)
  enum quantity.provenance
  boolean quantity.aggregated

/-- What stands between the identity of a domain and its members: the class of
the kinds that have one. -/
def writeDomainClass : (k : DomainKind) → DomainDetail k → Write
  | .placement, klass => enum (E := PlacementDomainClass) klass
  | .capacity, detail => enum (CapacityDetail.klass detail)
  | .failure, klass => enum (E := FailureDomainClass) klass
  | .network, connectivity => enum (E := ConnectivityClass) connectivity
  | .storage, _ | .power, _ | .cooling, _ | .link, _ => pure ()

/-- What stands between the members of a domain and its header: quantities or
a parent. -/
def writeDomainRest : (k : DomainKind) → DomainDetail k → Write
  | .capacity, detail => vector writeQuantity (CapacityDetail.quantities detail)
  | .power, parent => @optionalId .powerDomain parent
  | .cooling, parent => @optionalId .coolingDomain parent
  | .placement, _ | .failure, _ | .network, _ | .storage, _ | .link, _ => pure ()

def writeDomain {k : DomainKind} (domain : Domain k) : Write := do
  ByteWriter.id domain.id
  writeDomainClass k domain.detail
  writeRackIds domain.racks
  writeDomainRest k domain.detail
  writeHeader domain.header

def writeLink (link : InterRackLink) : Write := do
  ByteWriter.id link.id
  ByteWriter.id link.source
  ByteWriter.id link.destination
  enum link.direction
  enum link.connectivity
  optionalId link.networkDomain
  optionalId link.linkDomain
  optionalId link.sourceEndpoint
  optionalId link.destinationEndpoint
  enum link.bandwidthClass
  optionalU64 link.nominalBandwidthBps
  enum link.latencyClass
  optionalU64 link.nominalLatencyNanos
  optionalU32 link.hopCount
  enum link.reachability
  enum link.health
  vector ByteWriter.id link.failureDomains
  writeHeader link.header
  counter link.topologyEpoch
  counter link.topologyGeneration
  counter link.publication
  optionalId link.boot

def writeConstraint (constraint : ClusterConstraint) : Write := do
  ByteWriter.id constraint.id
  enum constraint.kind
  writeRackIds constraint.racks
  ByteWriter.text constraint.domainRef
  ByteWriter.text constraint.statement
  writeHeader constraint.header

def writeRetired (retired : RetiredIdentity) : Write := do
  ByteWriter.id retired.rack
  counter retired.lastGeneration
  timestamp retired.retiredAt
  ByteWriter.text retired.reason

def writeFenced (fenced : FencedAuthority) : Write := do
  ByteWriter.id fenced.boot
  ByteWriter.id fenced.rack
  ByteWriter.text fenced.reason
  timestamp fenced.fencedAt

/-! ## Payload -/

def writeGenerations (p : PersistedState) : Write := do
  counter p.epoch
  counter p.lastCoordinatorEpoch
  counter p.generation
  counter p.membershipGeneration
  counter p.topologyEpoch
  counter p.topologyGeneration
  counter p.connectivityGeneration
  counter p.healthGeneration
  counter p.constraintGeneration
  writeDomainGenerations p.domainGenerations
  counter p.snapshotGeneration
  counter p.publicationGeneration

def writeDomains (domains : (k : DomainKind) → List (Domain k)) : Write := do
  vector writeDomain (domains .placement)
  vector writeDomain (domains .capacity)
  vector writeDomain (domains .failure)
  vector writeDomain (domains .network)
  vector writeDomain (domains .storage)
  vector writeDomain (domains .power)
  vector writeDomain (domains .cooling)
  vector writeDomain (domains .link)

def writeState (p : PersistedState) : Write := do
  ByteWriter.id p.id
  writeGenerations p
  enum p.lifecycle
  writeReadiness p.readinessContract
  writeTopologyRecord p.topologyRecord
  timestamp p.declaredAt
  timestamp p.lastMutationAt
  vector writeRack p.racks
  writeDomains p.domains
  vector writeLink p.links
  vector writeConstraint p.constraints
  vector writeRetired p.retiredRacks
  writeRackIds p.withdrawnRacks
  vector writeFenced p.fencedAuthorities

/-! ## Container -/

/-- `kContainerHeaderBytes`. -/
def containerHeaderBytes : Nat := 16

/-- `kPersistenceMagic`. -/
def persistenceMagic : Nat := 0x31534643

/-- `kPersistenceFormatVersion`. -/
def persistenceFormatVersion : Nat := 1

/-- A failure to encode or to decode a container. -/
structure CodecFailure where
  status : PersistenceStatus
  error : StructuredError
  status_ne_ok : status ≠ .ok

/-- The header fields that the checksum covers: magic, version, flags and the
length of the payload. They are copied from memory, lowest byte first. -/
def containerHead (payload : Text) : Text :=
  storeUint 4 persistenceMagic ++ storeUint 2 persistenceFormatVersion ++ storeUint 2 0 ++
    storeUint 4 payload.length

def containerChecksum (head payload : Text) : UInt32 := crc32 head ^^^ crc32 payload

def container (payload : Text) : Text :=
  containerHead payload ++
    storeUint 4 (containerChecksum (containerHead payload) payload).toNat ++ payload

/-- `encode_persisted_state`. -/
def encodePersistedState (p : PersistedState) : Except CodecFailure Text :=
  let writer := (writeState p).output {}
  if writer.failed then
    .error ⟨.boundsExceeded, .make .persistence .encode PersistenceStatus.boundsExceeded.toText
      (text "durable state could not be encoded within bounds"), PersistenceStatus.Failing.ne_ok⟩
  else if maxPersistenceBytes - containerHeaderBytes < writer.data.length then
    .error ⟨.payloadTooLarge, .make .persistence .encode (text "payload_too_large")
      (text "encoded durable state exceeds the container limit"), PersistenceStatus.Failing.ne_ok⟩
  else .ok (container writer.data)

end ClusterFabric
