import ClusterFabric.Model.DurableCheck
import ClusterFabric.Model.Encode

/-! # Decoding of durable state

The readers of `persistence.cpp`, `decode_persisted_state` and the store that
keeps one container in memory.
-/

namespace ClusterFabric

open Lib Codec
open ByteReader (u8 boolean counter timestamp enum enumOf optionalU32 optionalU64 vector)

/-! ## Parts

The failure of a part says nothing and the decoder replaces it, so within a part
the order of reads matters and the order of checks does not. -/

def readStamp : ByteReader EvidenceStamp := do
  let provenance ← enum
  let observedAt ← timestamp
  let freshness ← enum
  let ttlMillis ← ByteReader.i64
  pure { provenance, observedAt, freshness, ttlMillis }

def readHeader : ByteReader DomainHeader := do
  let evidence ← readStamp
  let generation ← counter
  let publisher ← ByteReader.optionalId
  let clusterEpoch ← counter
  let coordinatorEpoch ← counter
  let label ← ByteReader.text
  pure { evidence, generation, publisher, clusterEpoch, coordinatorEpoch, label }

def readRackIds (bound : Nat) : ByteReader (List RackId) := vector bound ByteReader.id

def readAccelerator : ByteReader AcceleratorClassSummary := do
  let vendor ← enum
  let family ← ByteReader.text
  let deviceCount ← optionalU32
  let deviceMemoryBytes ← optionalU64
  pure { vendor, family, deviceCount, deviceMemoryBytes }

def readComposition : ByteReader RackCompositionSummary := do
  let provenance ← enum
  let accelerators ← vector maxCapacityQuantities readAccelerator
  let cpuSockets ← optionalU32
  let cpuCores ← optionalU32
  let hostMemoryBytes ← optionalU64
  let nicCount ← optionalU32
  let switchCount ← optionalU32
  let compositionLabel ← ByteReader.text
  pure { provenance, accelerators, cpuSockets, cpuCores, hostMemoryBytes, nicCount, switchCount,
         compositionLabel }

def readEndpoint : ByteReader RackEndpoint := do
  let id ← ByteReader.id
  let networkDomain ← ByteReader.optionalId
  let linkDomain ← ByteReader.optionalId
  let connectivity ← enum
  let evidence ← readStamp
  pure { id, networkDomain, linkDomain, connectivity, evidence }

def readEndpoints : ByteReader (List RackEndpoint) := vector maxRackEndpoints readEndpoint

def readHint : ByteReader RackFailureDomainHint := do
  let klass ← enum
  let id ← ByteReader.id
  let evidence ← readStamp
  pure { klass, id, evidence }

def readHints : ByteReader (List RackFailureDomainHint) := vector maxFailureDomainRefs readHint

def readReadiness : ByteReader ReadinessContract := do
  let minimumCurrentRacks ← ByteReader.u64
  ensure (minimumCurrentRacks.toNat ≤ maxRacksPerCluster) ()
  let mandatoryRacks ← readRackIds maxRacksPerCluster
  let requireAllActiveRacksCurrent ← boolean
  let requireConnectivityEvidence ← boolean
  let minimumCurrentLinks ← ByteReader.u64
  ensure (minimumCurrentLinks.toNat ≤ maxInterRackLinks) ()
  let requiredPlacementDomainClasses ← vector maxDomainsPerClass enum
  let requiredFailureDomainClasses ← vector maxDomainsPerClass enum
  let allowPartial ← boolean
  let allowDegraded ← boolean
  let requireNoConflicts ← boolean
  pure { minimumCurrentRacks, mandatoryRacks, requireAllActiveRacksCurrent,
         requireConnectivityEvidence, minimumCurrentLinks, requiredPlacementDomainClasses,
         requiredFailureDomainClasses, allowPartial, allowDegraded, requireNoConflicts }

def readDomainGenerations : ByteReader DomainGenerations := do
  let placement ← counter
  let capacity ← counter
  let failure ← counter
  let network ← counter
  let storage ← counter
  let power ← counter
  let cooling ← counter
  let link ← counter
  pure (byKind placement capacity failure network storage power cooling link)

/-! ## Failures -/

def decodeError (status : PersistenceStatus) (reason message : Text)
    (h : status ≠ .ok := by exact PersistenceStatus.Failing.ne_ok) : CodecFailure :=
  ⟨status, .make .persistence .decode reason message, h⟩

def truncatedBody (message : String) : CodecFailure :=
  decodeError .truncatedBody (text "truncated_body") (text message)

def invalidIdentity (message : String) : CodecFailure :=
  decodeError .invalidIdentity (text "invalid_identity") (text message)

def invalidEnum (message : String) : CodecFailure :=
  decodeError .invalidEnum (text "invalid_enum") (text message)

def absurdCount (message : String) : CodecFailure :=
  decodeError .absurdCount (text "absurd_count") (text message)

abbrev Decoder := Read CodecFailure

/-- A counted list of records, with the failures of its count. -/
def decodeCounted {α : Type} (missing exceeded : CodecFailure) (limit : Nat)
    (record : Decoder α) : Decoder (List α) := do
  let count ← orFail ByteReader.u32 missing
  ensure (count.toNat ≤ limit) exceeded
  times count.toNat record

/-- A top-level list. -/
def decodeBlock {α : Type} (what : String) (limit : Nat) (record : Decoder α) :
    Decoder (List α) :=
  decodeCounted (truncatedBody (what ++ " block is missing"))
    (absurdCount (what ++ " count exceeds the bound")) limit record

/-- The parsed form of an optional text. -/
def parseOptional {tag : IdTag} (value : Option Text) (failure : CodecFailure) :
    Decoder (Option (StrongId tag)) :=
  match value with
  | none => pure none
  | some value => some <$> demand (StrongId.parse value) failure

/-! ## Records -/

def decodeRack : Decoder DurableRack := do
  let rack ← orFail ByteReader.text (truncatedBody "rack record is incomplete")
  let generation ← orFail counter (truncatedBody "rack record is incomplete")
  let membership ← orFail u8 (truncatedBody "rack record is incomplete")
  let publisher ← orFail ByteReader.text (truncatedBody "rack record is incomplete")
  let lastAcceptedPublication ← orFail counter (truncatedBody "rack record is incomplete")
  let lastBoot ← orFail ByteReader.text (truncatedBody "rack record is incomplete")
  let rack ← demand (StrongId.parse rack) (invalidIdentity "rack identity is not valid")
  let publisher ← demand (StrongId.parse publisher) (invalidIdentity "rack identity is not valid")
  let lastBoot ← demand (StrongId.parse lastBoot) (invalidIdentity "rack identity is not valid")
  let membership ← demand (enumOf membership) (invalidEnum "membership value is out of range")
  let composition ← orFail readComposition (truncatedBody "rack composition block is incomplete")
  let endpoints ← orFail readEndpoints (truncatedBody "rack composition block is incomplete")
  let failureDomainHints ← orFail readHints (truncatedBody "rack composition block is incomplete")
  let rackLifecycle ← orFail u8 (truncatedBody "rack tail block is incomplete")
  let membershipGeneration ← orFail counter (truncatedBody "rack tail block is incomplete")
  let originLabel ← orFail ByteReader.text (truncatedBody "rack tail block is incomplete")
  let declaredAt ← orFail timestamp (truncatedBody "rack tail block is incomplete")
  let rackLifecycle ← demand (enumOf rackLifecycle) (invalidEnum "rack lifecycle is out of range")
  pure { rack, generation, membership, publisher, lastAcceptedPublication, lastBoot, composition,
         endpoints, failureDomainHints, rackLifecycle, membershipGeneration, originLabel,
         declaredAt }

def decodePlacementDomain : Decoder (Domain .placement) := do
  let id ← orFail ByteReader.text (truncatedBody "placement domain is incomplete")
  let klass ← orFail u8 (truncatedBody "placement domain is incomplete")
  let id ← demand (StrongId.parse id) (invalidIdentity "placement domain identity is not valid")
  let klass : PlacementDomainClass ← demand (enumOf klass)
    (invalidEnum "placement domain class is out of range")
  let racks ← orFail (readRackIds maxDomainMembers)
    (truncatedBody "placement domain body is incomplete")
  let header ← orFail readHeader (truncatedBody "placement domain body is incomplete")
  pure { id, detail := klass, racks, header }

def decodeQuantity : Decoder CapacityQuantity := do
  let unit ← orFail ByteReader.text (truncatedBody "capacity quantity is incomplete")
  let present ← orFail boolean (truncatedBody "capacity quantity is incomplete")
  let value ← orFail ByteReader.f64 (truncatedBody "capacity quantity is incomplete")
  let provenance ← orFail u8 (truncatedBody "capacity quantity is incomplete")
  let aggregated ← orFail boolean (truncatedBody "capacity quantity is incomplete")
  let provenance ← demand (enumOf provenance) (invalidEnum "quantity provenance out of range")
  pure { unit, value := if present then some value else none, provenance, aggregated }

def decodeCapacityDomain : Decoder (Domain .capacity) := do
  let id ← orFail ByteReader.text (truncatedBody "capacity domain is incomplete")
  let klass ← orFail u8 (truncatedBody "capacity domain is incomplete")
  let id ← demand (StrongId.parse id) (invalidIdentity "capacity domain identity is not valid")
  let klass ← demand (enumOf klass) (invalidEnum "capacity domain class is out of range")
  let racks ← orFail (readRackIds maxDomainMembers)
    (truncatedBody "capacity domain members missing")
  let quantities ← decodeCounted (truncatedBody "capacity quantity block missing")
    (absurdCount "capacity quantity count exceeds bound") maxCapacityQuantities decodeQuantity
  let header ← orFail readHeader (truncatedBody "capacity domain header incomplete")
  pure { id, detail := ({ klass, quantities } : CapacityDetail), racks, header }

/-- A failure or network domain. Its identity and class fail together, with a
status that says whether the identity could be read. -/
def decodeGraded {k : DomainKind} {E : Type} [DecidableEq E] [Enumeration E]
    (detail : E → DomainDetail k) (what reason message : String) : Decoder (Domain k) := do
  let id ← orFail ByteReader.text (decodeError .truncatedBody (text reason) (text message))
  let id ← demand (StrongId.parse id) (decodeError .invalidIdentity (text reason) (text message))
  let klass ← orFail enum (decodeError .invalidIdentity (text reason) (text message))
  let racks ← orFail (readRackIds maxDomainMembers) (truncatedBody (what ++ " body is incomplete"))
  let header ← orFail readHeader (truncatedBody (what ++ " body is incomplete"))
  pure { id, detail := detail klass, racks, header }

def decodeFailureDomain : Decoder (Domain .failure) :=
  decodeGraded (fun klass : FailureDomainClass => klass) "failure domain" "invalid_failure_domain"
    "failure domain identity or class is not valid"

def decodeNetworkDomain : Decoder (Domain .network) :=
  decodeGraded (fun connectivity : ConnectivityClass => connectivity) "network domain"
    "invalid_network_domain" "network domain identity or connectivity is not valid"

/-- A storage or link domain. -/
def decodePlain {k : DomainKind} (detail : DomainDetail k) (what : String) :
    Decoder (Domain k) := do
  let id ← orFail ByteReader.id (invalidIdentity (what ++ " identity is not valid"))
  let racks ← orFail (readRackIds maxDomainMembers) (truncatedBody (what ++ " body is incomplete"))
  let header ← orFail readHeader (truncatedBody (what ++ " body is incomplete"))
  pure { id, detail, racks, header }

def decodeStorageDomain : Decoder (Domain .storage) := decodePlain () "storage domain"

def decodeLinkDomain : Decoder (Domain .link) := decodePlain () "link domain"

/-- A power or cooling domain. -/
def decodeParented {k : DomainKind} (detail : Option (DomainId k) → DomainDetail k)
    (what reason message : String) : Decoder (Domain k) := do
  let id ← orFail ByteReader.id (decodeError .invalidIdentity (text reason) (text message))
  let racks ← orFail (readRackIds maxDomainMembers) (truncatedBody (what ++ " body is incomplete"))
  let parent ← orFail ByteReader.optionalText
    (decodeError .invalidIdentity (text reason) (text message))
  let parent ← parseOptional parent (invalidIdentity (what ++ " parent identity is not valid"))
  let header ← orFail readHeader (truncatedBody (what ++ " body is incomplete"))
  pure { id, detail := detail parent, racks, header }

def decodePowerDomain : Decoder (Domain .power) :=
  decodeParented (fun parent => parent) "power domain" "invalid_power_domain"
    "power domain identity or parent is not valid"

def decodeCoolingDomain : Decoder (Domain .cooling) :=
  decodeParented (fun parent => parent) "cooling domain" "invalid_cooling_domain"
    "cooling domain identity or parent is not valid"

def invalidLink : CodecFailure :=
  decodeError .invalidIdentity (text "invalid_link")
    (text "link identity, endpoints, direction or connectivity is not valid")

def decodeLink : Decoder InterRackLink := do
  let id ← orFail ByteReader.id invalidLink
  let source ← orFail ByteReader.id invalidLink
  let destination ← orFail ByteReader.id invalidLink
  let direction ← orFail enum invalidLink
  let connectivity ← orFail enum invalidLink
  let networkDomain ← orFail ByteReader.optionalText
    (truncatedBody "link reference block is incomplete")
  let linkDomain ← orFail ByteReader.optionalText
    (truncatedBody "link reference block is incomplete")
  let sourceEndpoint ← orFail ByteReader.optionalText
    (truncatedBody "link reference block is incomplete")
  let destinationEndpoint ← orFail ByteReader.optionalText
    (truncatedBody "link reference block is incomplete")
  let networkDomain ← parseOptional networkDomain (invalidIdentity "link network domain is invalid")
  let linkDomain ← parseOptional linkDomain (invalidIdentity "link domain is invalid")
  let sourceEndpoint ← parseOptional sourceEndpoint
    (invalidIdentity "link source endpoint is invalid")
  let destinationEndpoint ← parseOptional destinationEndpoint
    (invalidIdentity "link destination endpoint is invalid")
  let bandwidthClass ← orFail enum (invalidEnum "bandwidth class is out of range")
  let nominalBandwidthBps ← orFail optionalU64 (truncatedBody "link bandwidth block is incomplete")
  let latencyClass ← orFail enum (invalidEnum "latency class is out of range")
  let nominalLatencyNanos ← orFail optionalU64 (truncatedBody "link latency block is incomplete")
  let hopCount ← orFail optionalU32 (truncatedBody "link hop block is incomplete")
  let reachability ← orFail enum (invalidEnum "link reachability or health is out of range")
  let health ← orFail enum (invalidEnum "link reachability or health is out of range")
  let failureDomains ← decodeCounted
    (absurdCount "link failure domain count is missing or exceeds the bound")
    (absurdCount "link failure domain count is missing or exceeds the bound")
    maxFailureDomainRefs
    (orFail ByteReader.id (invalidIdentity "link failure domain identity is not valid"))
  let header ← orFail readHeader (truncatedBody "link header is incomplete")
  let topologyEpoch ← orFail counter (truncatedBody "link generation block is incomplete")
  let topologyGeneration ← orFail counter (truncatedBody "link generation block is incomplete")
  let publication ← orFail counter (truncatedBody "link generation block is incomplete")
  let boot ← orFail ByteReader.optionalText (truncatedBody "link boot block is incomplete")
  let boot ← parseOptional boot (invalidIdentity "link boot identity is not valid")
  pure { id, source, destination, direction, connectivity, networkDomain, linkDomain,
         sourceEndpoint, destinationEndpoint, bandwidthClass, nominalBandwidthBps, latencyClass,
         nominalLatencyNanos, hopCount, reachability, health, failureDomains, header,
         topologyEpoch, topologyGeneration, publication, boot }

def invalidConstraint : CodecFailure :=
  decodeError .invalidIdentity (text "invalid_constraint")
    (text "constraint identity, kind or members are not valid")

def decodeConstraint : Decoder ClusterConstraint := do
  let id ← orFail ByteReader.id invalidConstraint
  let kind ← orFail enum invalidConstraint
  let racks ← orFail (readRackIds maxDomainMembers) invalidConstraint
  let domainRef ← orFail ByteReader.text (truncatedBody "constraint body is incomplete")
  let statement ← orFail ByteReader.text (truncatedBody "constraint body is incomplete")
  let header ← orFail readHeader (truncatedBody "constraint body is incomplete")
  pure { id, kind, racks, domainRef, statement, header }

def readRetired : ByteReader RetiredIdentity := do
  let rack ← ByteReader.id
  let lastGeneration ← counter
  let retiredAt ← timestamp
  let reason ← ByteReader.text
  pure { rack, lastGeneration, retiredAt, reason }

def decodeRetired : Decoder RetiredIdentity :=
  orFail readRetired (decodeError .invalidIdentity (text "invalid_retired_identity")
    (text "retired identity record is invalid"))

def readFenced : ByteReader FencedAuthority := do
  let boot ← ByteReader.id
  let rack ← ByteReader.id
  let reason ← ByteReader.text
  let fencedAt ← timestamp
  pure { boot, rack, reason, fencedAt }

def decodeFenced : Decoder FencedAuthority :=
  orFail readFenced (decodeError .invalidIdentity (text "invalid_fenced_authority")
    (text "fenced authority record is invalid"))

/-! ## Payload -/

/-- The generation block. -/
def readGenerations : ByteReader PersistedState := do
  let epoch ← counter
  let lastCoordinatorEpoch ← counter
  let generation ← counter
  let membershipGeneration ← counter
  let topologyEpoch ← counter
  let topologyGeneration ← counter
  let connectivityGeneration ← counter
  let healthGeneration ← counter
  let constraintGeneration ← counter
  let domainGenerations ← readDomainGenerations
  let snapshotGeneration ← counter
  let publicationGeneration ← counter
  pure { epoch, lastCoordinatorEpoch, generation, membershipGeneration, topologyEpoch,
         topologyGeneration, connectivityGeneration, healthGeneration, constraintGeneration,
         domainGenerations, snapshotGeneration, publicationGeneration }

def decodeTopologyRecord : Decoder TopologyEpochRecord := do
  let epoch ← orFail counter (truncatedBody "topology record is incomplete")
  let generation ← orFail counter (truncatedBody "topology record is incomplete")
  let establishedAt ← orFail timestamp (truncatedBody "topology record is incomplete")
  let evidence ← orFail readStamp (truncatedBody "topology record is incomplete")
  -- the reason belongs to the block of the timestamps that follow
  let reason ← orFail ByteReader.text (truncatedBody "timestamp block is incomplete")
  pure { epoch, generation, establishedAt, evidence, reason }

def decodeDomains : Decoder ((k : DomainKind) → List (Domain k)) := do
  let placement ← decodeBlock "placement domain" maxDomainsPerClass decodePlacementDomain
  let capacity ← decodeBlock "capacity domain" maxDomainsPerClass decodeCapacityDomain
  let failure ← decodeBlock "failure domain" maxDomainsPerClass decodeFailureDomain
  let network ← decodeBlock "network domain" maxDomainsPerClass decodeNetworkDomain
  let storage ← decodeBlock "storage domain" maxDomainsPerClass decodeStorageDomain
  let power ← decodeBlock "power domain" maxDomainsPerClass decodePowerDomain
  let cooling ← decodeBlock "cooling domain" maxDomainsPerClass decodeCoolingDomain
  let link ← decodeBlock "link domain" maxDomainsPerClass decodeLinkDomain
  pure (byKind placement capacity failure network storage power cooling link)

def decodeState : Decoder PersistedState := do
  let id ← orFail ByteReader.text (truncatedBody "cluster identity is missing")
  let id ← demand (StrongId.parse id) (invalidIdentity "cluster identity is not valid")
  let state ← orFail readGenerations (truncatedBody "generation block is incomplete")
  let lifecycle ← orFail enum (invalidEnum "lifecycle value is out of range")
  let readinessContract ← orFail readReadiness (truncatedBody "readiness contract is incomplete")
  let topologyRecord ← decodeTopologyRecord
  let declaredAt ← orFail timestamp (truncatedBody "timestamp block is incomplete")
  let lastMutationAt ← orFail timestamp (truncatedBody "timestamp block is incomplete")
  let racks ← decodeBlock "rack" maxRacksPerCluster decodeRack
  let domains ← decodeDomains
  let links ← decodeBlock "link" maxInterRackLinks decodeLink
  let constraints ← decodeBlock "constraint" maxConstraints decodeConstraint
  let retiredRacks ← decodeBlock "retired identity" maxRacksPerCluster decodeRetired
  let withdrawnRacks ← orFail (readRackIds maxRacksPerCluster)
    (truncatedBody "withdrawn rack block is incomplete")
  let fencedAuthorities ← decodeBlock "fenced authority" maxRacksPerCluster decodeFenced
  pure { state with
    id, lifecycle, readinessContract, topologyRecord, declaredAt, lastMutationAt, racks, domains,
    links, constraints, retiredRacks, withdrawnRacks, fencedAuthorities }

/-- The payload and, after it, nothing; then the structural rules. -/
def decodePayload (payload : Text) : Except CodecFailure PersistedState := do
  let (state, rest) ← decodeState.run payload
  if !rest.isEmpty then
    throw <| decodeError .trailingGarbage (text "trailing_garbage")
      (decimal rest.length ++ text " unread bytes after the last record")
  match validatePersistedState state with
  | .ok () => pure state
  | .error failure =>
    throw <| decodeError failure.status failure.status.toText
      (if failure.detail.isEmpty then text "decoded state failed structural validation"
       else failure.detail) failure.status_ne_ok

/-! ## Container -/

/-- A header field of `width` bytes. -/
def headerField (bytes : Text) (offset width : Nat) : Nat :=
  loadUint ((bytes.drop offset).take width)

/-- The checks of the container around its payload. -/
def openContainer (bytes : Text) : Except CodecFailure Text :=
  let version := headerField bytes 4 2
  let length := headerField bytes 8 4
  let available := bytes.length - containerHeaderBytes
  let payload := (bytes.drop containerHeaderBytes).take length
  if bytes.isEmpty then
    .error (decodeError .emptyInput (text "empty_input") (text "container is empty"))
  else if bytes.length < containerHeaderBytes then
    .error (decodeError .truncatedHeader (text "truncated_header")
      (text "container is shorter than the header"))
  else if headerField bytes 0 4 ≠ persistenceMagic then
    .error (decodeError .badMagic (text "bad_magic") (text "container magic does not match"))
  else if version ≠ persistenceFormatVersion then
    .error (decodeError .unsupportedVersion (text "unsupported_version")
      (text "format version " ++ decimal version ++ text " is not supported by this build"))
  else if headerField bytes 6 2 ≠ 0 then
    .error (decodeError .invalidState (text "unsupported_flags")
      (text "reserved header flags are set"))
  else if maxPersistenceBytes < length then
    .error (decodeError .payloadTooLarge (text "payload_too_large")
      (text "declared payload exceeds the container limit"))
  else if available < length then
    .error (decodeError .truncatedBody (text "truncated_body")
      (text "declared payload length exceeds the container content"))
  else if length < available then
    .error (decodeError .trailingGarbage (text "trailing_garbage")
      (text "container has " ++ decimal (available - length) ++
        text " bytes after the declared payload"))
  else if (containerChecksum (bytes.take 12) payload).toNat ≠ headerField bytes 12 4 then
    .error (decodeError .checksumMismatch (text "checksum_mismatch")
      (text "container checksum does not match its content"))
  else .ok payload

/-- `decode_persisted_state`. -/
def decodePersistedState (bytes : Text) : Except CodecFailure PersistedState := do
  let payload ← openContainer bytes
  decodePayload payload

/-! ## In-memory store -/

/-- The content of a `MemoryPersistenceStore`. -/
structure MemoryContent where
  bytes : Text := []
  saveCount : Nat := 0

/-- `MemoryPersistenceStore`. -/
def memoryPersistenceStore : PersistenceStore MemoryContent where
  save p content :=
    match encodePersistedState p with
    | .error failure => ({ status := failure.status, error := failure.error }, content)
    | .ok bytes =>
      ({ ok := true, status := .ok, bytesWritten := bytes.length },
        { bytes, saveCount := content.saveCount + 1 })
  load content :=
    if content.bytes.isEmpty then
      { status := .missingFile
        error := .make .persistence .recover (text "missing_file")
          (text "no durable container exists yet") }
    else
      match decodePersistedState content.bytes with
      | .error failure => { status := failure.status, error := failure.error }
      | .ok p => { status := .ok, state := some p }

end ClusterFabric
