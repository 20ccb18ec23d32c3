import ClusterFabric.Model.Snapshot

/-! # The semantic digest

`semantic_digest_of` of `snapshot.cpp`: the state is rendered field by field, every
field is followed by a separator, and the bytes go through a hash, which is left out.
What the builder is given is a list of fields here, each with the part of the state it
belongs to.
-/

namespace ClusterFabric

open Lib

/-! ## Numbers as text -/

/-- `std::to_string` of a signed number. -/
def signedDecimal (n : Int) : Text :=
  if n < 0 then 45 :: decimal n.natAbs else decimal n.natAbs

/-- `numerator / 2 ^ shift`, rounded to the nearest integer and to the even one of two. -/
def roundedShift (numerator shift : Nat) : Nat :=
  let quotient := numerator / 2 ^ shift
  let remainder := numerator % 2 ^ shift
  if 2 * remainder < 2 ^ shift then quotient
  else if 2 ^ shift < 2 * remainder then quotient + 1
  else quotient + quotient % 2

namespace F64

def isNegative (x : F64) : Bool := x.bits >>> 63 == 1

/-- The magnitude of a finite value in millionths. -/
def millionths (x : F64) : Nat :=
  let fraction := (x.bits &&& 0xFFFFFFFFFFFFF).toNat
  let exponent := x.exponentBits.toNat
  -- a subnormal has no leading bit and the exponent of the least normal
  let mantissa := if exponent = 0 then fraction else fraction + 2 ^ 52
  let scale := if exponent = 0 then 1 else exponent
  if 1075 ≤ scale then mantissa * 1000000 * 2 ^ (scale - 1075)
  else roundedShift (mantissa * 1000000) (1075 - scale)

/-- `std::to_string` of a double: the format `%f`, with six decimals. -/
def toText (x : F64) : Text :=
  let sign : Text := if x.isNegative then [45] else []
  if x.isNaN then sign ++ text "nan"
  else if !x.isFinite then sign ++ text "inf"
  else
    let fraction := decimal (x.millionths % 1000000)
    sign ++ decimal (x.millionths / 1000000) ++ text "." ++
      List.replicate (6 - fraction.length) 48 ++ fraction

end F64

def EvidenceProvenance.toText : EvidenceProvenance → Text
  | .unknown => text "UNKNOWN"
  | .measured => text "MEASURED"
  | .reported => text "REPORTED"
  | .derived => text "DERIVED"
  | .estimated => text "ESTIMATED"
  | .synthetic => text "SYNTHETIC"
  | .reconstructed => text "RECONSTRUCTED"

def Freshness.toText : Freshness → Text
  | .unknown => text "UNKNOWN"
  | .fresh => text "FRESH"
  | .stale => text "STALE"
  | .revalidationRequired => text "REVALIDATION_REQUIRED"

/-! ## Fields -/

/-- The part of the state that a field belongs to. -/
inductive DigestPart
  | cluster | rack | accelerator | endpoint | hint | link | linkFailureDomain
  | domain (kind : DomainKind) | domainRack (kind : DomainKind) | quantity | quantityValue
  | constraint | constraintRack | retired | withdrawn | fenced
  deriving DecidableEq, Repr

/-- The word that opens a part. -/
def DigestPart.heading : DigestPart → Text
  | .cluster => text "cluster_fabric/snapshot/v1"
  | .rack => text "rack"
  | .link => text "link"
  | .domain kind => kind.label
  | .constraint => text "constraint"
  | .retired => text "retired"
  | .withdrawn => text "withdrawn"
  | .fenced => text "fenced"
  | _ => []

/-- What is rendered. A label is any text that a record may hold. -/
inductive DigestValue
  | heading
  | identity (tag : IdTag) (id : StrongId tag)
  | number (value : UInt64)
  | label (value : Text)
  | measure (value : F64)
  | generationPair (generation : DomainGeneration) (provenance : EvidenceProvenance)
      (freshness : Freshness) (observedAt : Timestamp)

structure DigestField where
  part : DigestPart
  value : DigestValue

/-- What `DigestBuilder::text` is called with. -/
def DigestField.render (field : DigestField) : Text :=
  match field.value with
  | .heading => field.part.heading
  | .identity _ id => id.value
  | .number value => decimal value.toNat
  | .label value => value
  | .measure value => value.toText
  | .generationPair generation provenance freshness observedAt =>
    text "g" ++ generation.str ++ text "/p" ++ provenance.toText ++ text "/f" ++
      freshness.toText ++ text "/e" ++ signedDecimal observedAt.unixMillis.toInt

namespace DigestValue

def counter {tag : CounterTag} (value : StrongCounter tag) : DigestValue :=
  number (.ofNat value.value)

def enumerator {E : Type} [DecidableEq E] [Enumeration E] (value : E) : DigestValue :=
  number (.ofNat (Enumeration.raw value))

def boolean (value : Bool) : DigestValue := number (if value then 1 else 0)

/-- A signed number is converted. -/
def millis (value : Timestamp) : DigestValue := number value.unixMillis.toUInt64

/-- An optional number: its value or zero, and whether it is present. -/
def optionalNumber (value : Option UInt64) : List DigestValue :=
  [number (value.getD 0), boolean value.isSome]

end DigestValue

open DigestValue (counter enumerator boolean millis optionalNumber)

/-- The fields of one part, in order. -/
def DigestPart.fields (part : DigestPart) (values : List DigestValue) : List DigestField :=
  values.map fun value => ⟨part, value⟩

/-- `digest_domain`. -/
def headerValues (header : DomainHeader) : List DigestValue :=
  [.generationPair header.generation header.evidence.provenance header.evidence.freshness
    header.evidence.observedAt, .label header.label]

def clusterFields (s : ClusterState) : List DigestField :=
  DigestPart.cluster.fields
    ([.heading, .identity _ s.id, counter s.epoch, counter s.coordinatorEpoch,
      counter s.generation, counter s.membershipGeneration, counter s.topologyEpoch,
      counter s.topologyGeneration, counter s.connectivityGeneration, counter s.healthGeneration,
      counter s.constraintGeneration] ++
    (DomainKind.all.map fun k => counter (s.domainGenerations k)) ++
    [counter s.snapshotGeneration, counter s.publicationGeneration, enumerator s.lifecycle,
      .label s.topologyRecord.reason, millis s.topologyRecord.establishedAt])

def acceleratorFields (summary : AcceleratorClassSummary) : List DigestField :=
  DigestPart.accelerator.fields
    ([enumerator summary.vendor, .label summary.family] ++
      optionalNumber (summary.deviceCount.map UInt32.toUInt64))

def endpointFields (endpoint : RackEndpoint) : List DigestField :=
  DigestPart.endpoint.fields [.identity _ endpoint.id, enumerator endpoint.connectivity]

def hintFields (hint : RackFailureDomainHint) : List DigestField :=
  DigestPart.hint.fields [enumerator hint.klass, .identity _ hint.id]

def rackFields (rack : RackId) (record : RackRecord) : List DigestField :=
  let reference := record.reference
  DigestPart.rack.fields
    [.heading, .identity _ rack, counter reference.generation, enumerator record.membership,
      enumerator reference.rackLifecycle, enumerator reference.currentness,
      enumerator reference.health, boolean record.authoritativeCurrent,
      enumerator reference.evidence.provenance, enumerator reference.evidence.freshness,
      millis reference.evidence.observedAt, .label reference.composition.compositionLabel] ++
  reference.composition.accelerators.flatMap acceleratorFields ++
  reference.endpoints.flatMap endpointFields ++
  reference.failureDomainHints.flatMap hintFields

def linkFields (id : InterRackLinkId) (link : InterRackLink) : List DigestField :=
  DigestPart.link.fields
    ([.heading, .identity _ id, .identity _ link.source, .identity _ link.destination,
      enumerator link.direction, enumerator link.connectivity, enumerator link.reachability,
      enumerator link.health, enumerator link.bandwidthClass] ++
    optionalNumber link.nominalBandwidthBps ++ [enumerator link.latencyClass] ++
    optionalNumber link.nominalLatencyNanos ++
    [counter link.topologyEpoch, counter link.topologyGeneration] ++ headerValues link.header) ++
  link.failureDomains.flatMap fun domain =>
    DigestPart.linkFailureDomain.fields [.identity _ domain]

def quantityFields (quantity : CapacityQuantity) : List DigestField :=
  DigestPart.quantity.fields [.label quantity.unit, boolean quantity.value.isSome] ++
  DigestPart.quantityValue.fields (quantity.value.toList.map .measure) ++
  DigestPart.quantity.fields [enumerator quantity.provenance, boolean quantity.aggregated]

/-- The class of a domain, for the kinds that have one. -/
def classValues : (k : DomainKind) → Domain k → List DigestValue
  | .placement, d => [@enumerator PlacementDomainClass _ _ d.detail]
  | .capacity, d => [enumerator (CapacityDetail.klass d.detail)]
  | .failure, d => [@enumerator FailureDomainClass _ _ d.detail]
  | .network, d => [@enumerator ConnectivityClass _ _ d.detail]
  | .storage, _ | .power, _ | .cooling, _ | .link, _ => []

/-- What follows the racks of a domain: the quantities, or the parent, which is empty if
there is none. -/
def detailFields : (k : DomainKind) → Domain k → List DigestField
  | .capacity, d => (CapacityDetail.quantities d.detail).flatMap quantityFields
  | .power, d =>
    (DigestPart.domain .power).fields [.identity .powerDomain (Option.getD d.detail .unset)]
  | .cooling, d =>
    (DigestPart.domain .cooling).fields [.identity .coolingDomain (Option.getD d.detail .unset)]
  | .placement, _ | .failure, _ | .network, _ | .storage, _ | .link, _ => []

def domainFields (k : DomainKind) (id : DomainId k) (d : Domain k) : List DigestField :=
  (DigestPart.domain k).fields ([.heading, .identity _ id] ++ classValues k d) ++
  (d.racks.flatMap fun rack => (DigestPart.domainRack k).fields [.identity _ rack]) ++
  detailFields k d ++
  (DigestPart.domain k).fields (headerValues d.header)

def constraintFields (id : ConstraintId) (constraint : ClusterConstraint) : List DigestField :=
  DigestPart.constraint.fields
    [.heading, .identity _ id, enumerator constraint.kind, .label constraint.domainRef,
      .label constraint.statement] ++
  (constraint.racks.flatMap fun rack => DigestPart.constraintRack.fields [.identity _ rack]) ++
  DigestPart.constraint.fields (headerValues constraint.header)

def retiredFields (retired : RetiredIdentity) : List DigestField :=
  DigestPart.retired.fields
    [.heading, .identity _ retired.rack, counter retired.lastGeneration]

def withdrawnFields (rack : RackId) : List DigestField :=
  DigestPart.withdrawn.fields [.heading, .identity _ rack]

def fencedFields (fenced : FencedAuthority) : List DigestField :=
  DigestPart.fenced.fields
    [.heading, .identity _ fenced.boot, .identity _ fenced.rack, .label fenced.reason]

/-- Everything the builder is given for a state. -/
def digestFields (s : ClusterState) : List DigestField :=
  clusterFields s ++
  (s.racks.entries.flatMap fun (rack, record) => rackFields rack record) ++
  (s.links.entries.flatMap fun (id, link) => linkFields id link) ++
  (DomainKind.all.flatMap fun k =>
    (s.domains k).entries.flatMap fun (id, d) => domainFields k id d) ++
  (s.constraints.entries.flatMap fun (id, constraint) => constraintFields id constraint) ++
  s.retiredRacks.flatMap retiredFields ++ s.withdrawnRacks.flatMap withdrawnFields ++
  s.fencedAuthorities.flatMap fencedFields

/-! ## The hashed bytes -/

/-- The byte of `DigestBuilder::separator`. -/
def digestSeparator : UInt8 := 0x7c

/-- The bytes that go through the hash: every field and a separator. -/
def digestInput (s : ClusterState) : Text :=
  (digestFields s).flatMap fun field => field.render ++ [digestSeparator]

end ClusterFabric
