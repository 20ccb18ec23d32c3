import ClusterFabric.Model.Decode
import ClusterFabric.Verify.DurableCheck

/-! # Decoding what was encoded

Every decoder of a part makes of what was written the part itself, whatever the part
holds, or it fails; and it does not fail within the bounds that it enforces. So a
container is never decoded to another state than the one it was made of, and it is
decoded to that state exactly when the state keeps the bounds and passes the structural
rules (`container_unaltered`).
-/

namespace ClusterFabric

open Lib Codec

variable {p : PersistedState} {bytes payload : Text} {q : PersistedState}

/-- The decoder `r` of a part makes `a` of what `w` wrote, or fails, and it does not
fail if `P`. The part is not empty. -/
abbrev Returns {ε α : Type} (P : Prop) (w : Write) (r : Read ε α) (a : α) : Prop :=
  Carries maxWriterBytes 1 P w r a

variable {P : Prop}

/-! ## Bytes and numbers -/

section Bytes

theorem returns_u8 {value : UInt8} : Returns P (ByteWriter.u8 value) ByteReader.u8 value :=
  carries_emit_byte _ _

theorem returns_boolean {value : Bool} :
    Returns P (ByteWriter.boolean value) ByteReader.boolean value := by
  apply returns_u8.only
  cases value <;> exact guards_pure _

theorem returns_u32 {value : UInt32} : Returns P (ByteWriter.u32 value) ByteReader.u32 value := by
  have h : Carries maxWriterBytes 4 P _ _ _ :=
    (carries_uint_of_lt () (fun _ => returns_u8) 4 value.toNat_lt).map UInt32.ofNat
  rw [UInt32.ofNat_toNat] at h
  exact h.weaken (by decide)

theorem returns_u64 {value : UInt64} : Returns P (ByteWriter.u64 value) ByteReader.u64 value := by
  have h : Carries maxWriterBytes 8 P _ _ _ :=
    (carries_uint_of_lt () (fun _ => returns_u8) 8 value.toNat_lt).map UInt64.ofNat
  rw [UInt64.ofNat_toNat] at h
  exact h.weaken (by decide)

theorem returns_i64 {value : Int64} : Returns P (ByteWriter.i64 value) ByteReader.i64 value :=
  returns_u64.map UInt64.toInt64

theorem returns_f64 {value : F64} : Returns P (ByteWriter.f64 value) ByteReader.f64 value :=
  returns_u64.map F64.mk

/-- A size above the width of its field is cut to a smaller one. -/
theorem toNat_ofNat_le (n : Nat) : (UInt32.ofNat n).toNat ≤ n := by
  rw [UInt32.toNat_ofNat']
  exact Nat.mod_le _ _

theorem toNat_ofNat_of_le {n bound : Nat} (h : n ≤ bound) (hbound : bound < 2 ^ 32) :
    (UInt32.ofNat n).toNat = n := UInt32.toNat_ofNat_of_lt' (Nat.lt_of_le_of_lt h hbound)

/-- A text that is not too long for the writer is not too long for the reader. -/
theorem returns_text {value : Text} : Returns P (ByteWriter.text value) ByteReader.text value := by
  refine Carries.ite_refuse fun hlength => ?_
  have hle : value.length ≤ maxEncodedStringBytes := Nat.le_of_not_lt hlength
  have hcount := toNat_ofNat_of_le hle (by decide)
  refine returns_u32.first (Carries.check (guards_ensure () fun _ => ?_) ?_)
  · rw [hcount]
    exact decide_eq_true hle
  · rw [hcount]
    by_cases hempty : value = []
    · subst hempty
      exact .of_guards (guards_take_zero ())
    · rw [if_neg (by simpa using hempty)]
      exact (carries_emit _ _).weaken (Nat.zero_le _)

theorem returns_counter {tag : CounterTag} {c : StrongCounter tag} :
    Returns P (ByteWriter.counter c) ByteReader.counter c := by
  have h : Returns P (ByteWriter.u64 c.toRaw) _ _ := returns_u64.map (@StrongCounter.fromRaw tag)
  rwa [StrongCounter.fromRaw_toRaw] at h

theorem returns_timestamp {t : Timestamp} :
    Returns P (ByteWriter.timestamp t) ByteReader.timestamp t := returns_i64.map _

section Enum

variable {E : Type} [DecidableEq E] [Enumeration E]

theorem returns_enumByte (e : E) :
    Returns P (ByteWriter.enum e) ByteReader.u8 (.ofNat (Enumeration.raw e)) := returns_u8

/-- The enumerator of a byte that was written for it. -/
@[simp] theorem enumOf_raw (e : E) :
    (ByteReader.enumOf (.ofNat (Enumeration.raw e)) : Option E) = some e := by
  rw [ByteReader.enumOf, UInt8.toNat_ofNat_of_lt' (Enumeration.raw_lt_byte e)]
  exact Enumeration.ofRaw?_raw e

theorem guards_enumOf {ε : Type} (e : E) (failure : ε) :
    Guards P (demand (ByteReader.enumOf (.ofNat (Enumeration.raw e))) failure) e := by
  rw [enumOf_raw]
  exact guards_pure e

theorem returns_enum (e : E) : Returns P (ByteWriter.enum e) ByteReader.enum e :=
  returns_u8.only (guards_enumOf e ())

end Enum

variable {tag : IdTag}

theorem returns_idText {id : StrongId tag} :
    Returns P (ByteWriter.id id) ByteReader.text id.value := returns_text

/-- An identity is parsed to itself, or it is empty and not parsed. -/
theorem eq_of_parse_value {id parsed : StrongId tag} (h : StrongId.parse id.value = some parsed) :
    parsed = id := by
  unfold StrongId.parse at h
  split_ifs at h with hok
  exact (Option.some.inj h).symm

theorem guards_parse {ε : Type} {id : StrongId tag} (h : P → id.isEmpty = false) (failure : ε) :
    Guards P (demand (StrongId.parse id.value) failure) id :=
  guards_demand failure (fun _ => eq_of_parse_value) fun hP => StrongId.parse_value (h hP)

theorem returns_id {id : StrongId tag} (h : P → id.isEmpty = false) :
    Returns P (ByteWriter.id id) ByteReader.id id := returns_text.only (guards_parse h ())

/-- An optional identity that is empty is absent. -/
def Named (id : Option (StrongId tag)) : Prop := ∀ i, id = some i → i.isEmpty = false

theorem returns_optionalId {id : Option (StrongId tag)} (h : P → Named id) :
    Returns P (ByteWriter.optionalId id) ByteReader.optionalId id :=
  returns_boolean.first (.readIf fun i hi => returns_id fun hP => h hP i hi)

theorem returns_optionalText {id : Option (StrongId tag)} :
    Returns P (ByteWriter.optionalId id) ByteReader.optionalText (id.map StrongId.value) := by
  apply returns_boolean.first
  cases id with
  | none => exact .of_guards (guards_pure none)
  | some i => exact (returns_idText.map some).weaken (by decide)

theorem guards_parseOptional {id : Option (StrongId tag)} (h : P → Named id)
    (failure : CodecFailure) : Guards P (parseOptional (id.map StrongId.value) failure) id := by
  cases id with
  | none => exact guards_pure none
  | some i => exact (guards_parse (fun hP => h hP i rfl) failure).map some

theorem returns_optionalU32 {value : Option UInt32} :
    Returns P (ByteWriter.optionalU32 value) ByteReader.optionalU32 value := by
  apply returns_boolean.first
  apply returns_u32.last
  cases value <;> exact guards_pure _

theorem returns_optionalU64 {value : Option UInt64} :
    Returns P (ByteWriter.optionalU64 value) ByteReader.optionalU64 value := by
  apply returns_boolean.first
  apply returns_u64.last
  cases value <;> exact guards_pure _

end Bytes

/-! ## Vectors -/

section Vectors

variable {ε α : Type} {write : α → Write} {values : List α} {bound : Nat}

/-- A size, checked by its reader against a bound, and the elements. -/
theorem returns_counted {size : Read ε UInt32} {read : Read ε α} (e : ε)
    (hsize : ∀ n, Returns P (ByteWriter.u32 n) size n) (hlength : P → values.length ≤ bound)
    (hread : ∀ x ∈ values, Returns P (write x) read x) :
    Returns P (ByteWriter.vector write values)
      (do
        let count ← size
        ensure (count.toNat ≤ bound) e
        times count.toNat read) values := by
  refine (hsize _).first (.check (guards_ensure e fun hP => ?_) (.forM_cut hread fun hle => ?_))
  · exact decide_eq_true ((toNat_ofNat_le _).trans (hlength hP))
  · exact toNat_ofNat_of_le hle (by decide)

theorem returns_vector {read : ByteReader α} (hlength : P → values.length ≤ bound)
    (hread : ∀ x ∈ values, Returns P (write x) read x) :
    Returns P (ByteWriter.vector write values) (ByteReader.vector bound read) values :=
  returns_counted () (fun _ => returns_u32) hlength hread

theorem returns_decodeCounted {record : Decoder α} (missing exceeded : CodecFailure)
    (hlength : P → values.length ≤ bound) (hread : ∀ x ∈ values, Returns P (write x) record x) :
    Returns P (ByteWriter.vector write values) (decodeCounted missing exceeded bound record)
      values :=
  returns_counted exceeded (fun _ => returns_u32.orFail) hlength hread

end Vectors

/-! ## Parts -/

theorem returns_stamp (stamp : EvidenceStamp) : Returns P (writeStamp stamp) readStamp stamp := by
  apply (returns_enum stamp.provenance).first
  apply returns_timestamp.bind
  apply (returns_enum stamp.freshness).bind
  exact returns_i64.last (guards_pure stamp)

theorem returns_header {header : DomainHeader} (h : P → Named header.publisher) :
    Returns P (writeHeader header) readHeader header := by
  apply (returns_stamp _).first
  apply returns_counter.bind
  apply (returns_optionalId h).bind
  apply returns_counter.bind
  apply returns_counter.bind
  exact returns_text.last (guards_pure header)

theorem returns_rackIds {racks : List RackId} {bound : Nat} (hlength : P → racks.length ≤ bound)
    (h : P → ∀ rack ∈ racks, rack.isEmpty = false) :
    Returns P (writeRackIds racks) (readRackIds bound) racks :=
  returns_vector hlength fun rack hrack => returns_id fun hP => h hP rack hrack

theorem returns_accelerator (summary : AcceleratorClassSummary) :
    Returns P (writeAccelerator summary) readAccelerator summary := by
  apply (returns_enum summary.vendor).first
  apply returns_text.bind
  apply returns_optionalU32.bind
  exact returns_optionalU64.last (guards_pure summary)

theorem returns_composition {composition : RackCompositionSummary}
    (h : P → composition.accelerators.length ≤ maxCapacityQuantities) :
    Returns P (writeComposition composition) readComposition composition := by
  apply (returns_enum composition.provenance).first
  apply (returns_vector h fun summary _ => returns_accelerator summary).bind
  apply returns_optionalU32.bind
  apply returns_optionalU32.bind
  apply returns_optionalU64.bind
  apply returns_optionalU32.bind
  apply returns_optionalU32.bind
  exact returns_text.last (guards_pure composition)

/-- What the reader of an endpoint demands. -/
structure ReadableEndpoint (endpoint : RackEndpoint) : Prop where
  id : endpoint.id.isEmpty = false
  networkDomain : Named endpoint.networkDomain
  linkDomain : Named endpoint.linkDomain

theorem returns_endpoint {endpoint : RackEndpoint} (h : P → ReadableEndpoint endpoint) :
    Returns P (writeEndpoint endpoint) readEndpoint endpoint := by
  apply (returns_id fun hP => (h hP).id).first
  apply (returns_optionalId fun hP => (h hP).networkDomain).bind
  apply (returns_optionalId fun hP => (h hP).linkDomain).bind
  apply (returns_enum endpoint.connectivity).bind
  exact (returns_stamp _).last (guards_pure endpoint)

theorem returns_hint {hint : RackFailureDomainHint} (h : P → hint.id.isEmpty = false) :
    Returns P (writeHint hint) readHint hint := by
  apply (returns_enum hint.klass).first
  apply (returns_id h).bind
  exact (returns_stamp _).last (guards_pure hint)

/-- What the reader of a readiness contract demands. -/
structure ReadableContract (contract : ReadinessContract) : Prop where
  minimumRacks : contract.minimumCurrentRacks.toNat ≤ maxRacksPerCluster
  mandatory_le : contract.mandatoryRacks.length ≤ maxRacksPerCluster
  mandatory : ∀ rack ∈ contract.mandatoryRacks, rack.isEmpty = false
  minimumLinks : contract.minimumCurrentLinks.toNat ≤ maxInterRackLinks
  placement_le : contract.requiredPlacementDomainClasses.length ≤ maxDomainsPerClass
  failure_le : contract.requiredFailureDomainClasses.length ≤ maxDomainsPerClass

theorem returns_readiness {contract : ReadinessContract} (h : P → ReadableContract contract) :
    Returns P (writeReadiness contract) readReadiness contract := by
  apply returns_u64.first
  apply Carries.check (guards_ensure () fun hP => decide_eq_true (h hP).minimumRacks)
  apply (returns_rackIds (fun hP => (h hP).mandatory_le) fun hP => (h hP).mandatory).bind
  apply returns_boolean.bind
  apply returns_boolean.bind
  apply returns_u64.bind
  apply Carries.check (guards_ensure () fun hP => decide_eq_true (h hP).minimumLinks)
  apply (returns_vector (fun hP => (h hP).placement_le) fun klass _ => returns_enum klass).bind
  apply (returns_vector (fun hP => (h hP).failure_le) fun klass _ => returns_enum klass).bind
  apply returns_boolean.bind
  apply returns_boolean.bind
  exact returns_boolean.last (guards_pure contract)

theorem returns_domainGenerations (generations : DomainGenerations) :
    Returns P (writeDomainGenerations generations) readDomainGenerations generations := by
  apply returns_counter.first
  iterate 6 apply returns_counter.bind
  apply returns_counter.last
  rw [byKind_apply generations]
  exact guards_pure generations

/-! ## Records -/

/-- What the decoder of a rack demands. -/
structure ReadableRack (rack : DurableRack) : Prop where
  id : rack.rack.isEmpty = false
  publisher : rack.publisher.isEmpty = false
  lastBoot : rack.lastBoot.isEmpty = false
  accelerators : rack.composition.accelerators.length ≤ maxCapacityQuantities
  endpoints_le : rack.endpoints.length ≤ maxRackEndpoints
  endpoints : ∀ endpoint ∈ rack.endpoints, ReadableEndpoint endpoint
  hints_le : rack.failureDomainHints.length ≤ maxFailureDomainRefs
  hints : ∀ hint ∈ rack.failureDomainHints, hint.id.isEmpty = false

theorem returns_rack {rack : DurableRack} (h : P → ReadableRack rack) :
    Returns P (writeRack rack) decodeRack rack := by
  apply returns_idText.orFail.first
  apply returns_counter.orFail.bind
  apply (returns_enumByte rack.membership).orFail.bind
  apply returns_idText.orFail.bind
  apply returns_counter.orFail.bind
  apply returns_idText.orFail.bind
  apply Carries.check (guards_parse (fun hP => (h hP).id) _)
  apply Carries.check (guards_parse (fun hP => (h hP).publisher) _)
  apply Carries.check (guards_parse (fun hP => (h hP).lastBoot) _)
  apply Carries.check (guards_enumOf _ _)
  apply (returns_composition fun hP => (h hP).accelerators).orFail.bind
  apply (returns_vector (fun hP => (h hP).endpoints_le) fun endpoint hendpoint =>
    returns_endpoint fun hP => (h hP).endpoints endpoint hendpoint).orFail.bind
  apply (returns_vector (fun hP => (h hP).hints_le) fun hint hhint =>
    returns_hint fun hP => (h hP).hints hint hhint).orFail.bind
  apply (returns_enumByte rack.rackLifecycle).orFail.bind
  apply returns_counter.orFail.bind
  apply returns_text.orFail.bind
  apply returns_timestamp.orFail.last
  apply (guards_enumOf _ _).bind
  exact guards_pure rack

/-- What a decoder demands of the lists and references of a kind's payload. -/
def ReadableDetail : (k : DomainKind) → DomainDetail k → Prop
  | .capacity, detail => (CapacityDetail.quantities detail).length ≤ maxCapacityQuantities
  | .power, parent => @Named .powerDomain parent
  | .cooling, parent => @Named .coolingDomain parent
  | .placement, _ | .failure, _ | .network, _ | .storage, _ | .link, _ => True

/-- What the decoder of a domain demands. -/
structure ReadableDomain {k : DomainKind} (domain : Domain k) : Prop where
  id : domain.id.isEmpty = false
  racks_le : domain.racks.length ≤ maxDomainMembers
  racks : ∀ rack ∈ domain.racks, rack.isEmpty = false
  detail : ReadableDetail k domain.detail
  publisher : Named domain.header.publisher

section ReadableDomain

variable {k : DomainKind} {domain : Domain k} (h : P → ReadableDomain domain)
include h

theorem returns_members (e : CodecFailure) :
    Returns P (writeRackIds domain.racks) (orFail (readRackIds maxDomainMembers) e) domain.racks :=
  (returns_rackIds (fun hP => (h hP).racks_le) fun hP => (h hP).racks).orFail

theorem returns_domainHeader (e : CodecFailure) :
    Returns P (writeHeader domain.header) (orFail readHeader e) domain.header :=
  (returns_header fun hP => (h hP).publisher).orFail

end ReadableDomain

theorem returns_placementDomain {domain : Domain .placement} (h : P → ReadableDomain domain) :
    Returns P (writeDomain domain) decodePlacementDomain domain := by
  apply returns_idText.orFail.first
  apply (returns_enumByte (E := PlacementDomainClass) domain.detail).orFail.bind
  apply Carries.check (guards_parse (fun hP => (h hP).id) _)
  apply Carries.check (guards_enumOf _ _)
  apply (returns_members h _).bind
  apply Carries.skip
  exact (returns_domainHeader h _).last (guards_pure domain)

theorem returns_quantity (quantity : CapacityQuantity) :
    Returns P (writeQuantity quantity) decodeQuantity quantity := by
  apply returns_text.orFail.first
  apply returns_boolean.orFail.bind
  apply returns_f64.orFail.bind
  apply (returns_enumByte quantity.provenance).orFail.bind
  apply returns_boolean.orFail.last
  apply (guards_enumOf _ _).bind
  obtain ⟨unit, value, provenance, aggregated⟩ := quantity
  cases value <;> exact guards_pure _

theorem returns_capacityDomain {domain : Domain .capacity} (h : P → ReadableDomain domain) :
    Returns P (writeDomain domain) decodeCapacityDomain domain := by
  apply returns_idText.orFail.first
  apply (returns_enumByte (CapacityDetail.klass domain.detail)).orFail.bind
  apply Carries.check (guards_parse (fun hP => (h hP).id) _)
  apply Carries.check (guards_enumOf _ _)
  apply (returns_members h _).bind
  apply (returns_decodeCounted _ _ (fun hP => (h hP).detail) fun q _ => returns_quantity q).bind
  exact (returns_domainHeader h _).last (guards_pure domain)

theorem returns_failureDomain {domain : Domain .failure} (h : P → ReadableDomain domain) :
    Returns P (writeDomain domain) decodeFailureDomain domain := by
  apply returns_idText.orFail.first
  apply Carries.check (guards_parse (fun hP => (h hP).id) _)
  apply (returns_enum (E := FailureDomainClass) domain.detail).orFail.bind
  apply (returns_members h _).bind
  apply Carries.skip
  exact (returns_domainHeader h _).last (guards_pure domain)

theorem returns_networkDomain {domain : Domain .network} (h : P → ReadableDomain domain) :
    Returns P (writeDomain domain) decodeNetworkDomain domain := by
  apply returns_idText.orFail.first
  apply Carries.check (guards_parse (fun hP => (h hP).id) _)
  apply (returns_enum (E := ConnectivityClass) domain.detail).orFail.bind
  apply (returns_members h _).bind
  apply Carries.skip
  exact (returns_domainHeader h _).last (guards_pure domain)

theorem returns_storageDomain {domain : Domain .storage} (h : P → ReadableDomain domain) :
    Returns P (writeDomain domain) decodeStorageDomain domain := by
  apply (returns_id fun hP => (h hP).id).orFail.first
  apply Carries.skip
  apply (returns_members h _).bind
  apply Carries.skip
  exact (returns_domainHeader h _).last (guards_pure domain)

theorem returns_linkDomain {domain : Domain .link} (h : P → ReadableDomain domain) :
    Returns P (writeDomain domain) decodeLinkDomain domain := by
  apply (returns_id fun hP => (h hP).id).orFail.first
  apply Carries.skip
  apply (returns_members h _).bind
  apply Carries.skip
  exact (returns_domainHeader h _).last (guards_pure domain)

theorem returns_powerDomain {domain : Domain .power} (h : P → ReadableDomain domain) :
    Returns P (writeDomain domain) decodePowerDomain domain := by
  apply (returns_id fun hP => (h hP).id).orFail.first
  apply Carries.skip
  apply (returns_members h _).bind
  apply returns_optionalText.orFail.bind
  apply Carries.check (guards_parseOptional (fun hP => (h hP).detail) _)
  exact (returns_domainHeader h _).last (guards_pure domain)

theorem returns_coolingDomain {domain : Domain .cooling} (h : P → ReadableDomain domain) :
    Returns P (writeDomain domain) decodeCoolingDomain domain := by
  apply (returns_id fun hP => (h hP).id).orFail.first
  apply Carries.skip
  apply (returns_members h _).bind
  apply returns_optionalText.orFail.bind
  apply Carries.check (guards_parseOptional (fun hP => (h hP).detail) _)
  exact (returns_domainHeader h _).last (guards_pure domain)

/-- What the decoder of a link demands. -/
structure ReadableLink (link : InterRackLink) : Prop where
  id : link.id.isEmpty = false
  source : link.source.isEmpty = false
  destination : link.destination.isEmpty = false
  networkDomain : Named link.networkDomain
  linkDomain : Named link.linkDomain
  sourceEndpoint : Named link.sourceEndpoint
  destinationEndpoint : Named link.destinationEndpoint
  failureDomains_le : link.failureDomains.length ≤ maxFailureDomainRefs
  failureDomains : ∀ domain ∈ link.failureDomains, domain.isEmpty = false
  publisher : Named link.header.publisher
  boot : Named link.boot

theorem returns_link {link : InterRackLink} (h : P → ReadableLink link) :
    Returns P (writeLink link) decodeLink link := by
  apply (returns_id fun hP => (h hP).id).orFail.first
  apply (returns_id fun hP => (h hP).source).orFail.bind
  apply (returns_id fun hP => (h hP).destination).orFail.bind
  apply (returns_enum link.direction).orFail.bind
  apply (returns_enum link.connectivity).orFail.bind
  iterate 4 apply returns_optionalText.orFail.bind
  apply Carries.check (guards_parseOptional (fun hP => (h hP).networkDomain) _)
  apply Carries.check (guards_parseOptional (fun hP => (h hP).linkDomain) _)
  apply Carries.check (guards_parseOptional (fun hP => (h hP).sourceEndpoint) _)
  apply Carries.check (guards_parseOptional (fun hP => (h hP).destinationEndpoint) _)
  apply (returns_enum link.bandwidthClass).orFail.bind
  apply returns_optionalU64.orFail.bind
  apply (returns_enum link.latencyClass).orFail.bind
  apply returns_optionalU64.orFail.bind
  apply returns_optionalU32.orFail.bind
  apply (returns_enum link.reachability).orFail.bind
  apply (returns_enum link.health).orFail.bind
  apply (returns_decodeCounted _ _ (fun hP => (h hP).failureDomains_le) fun domain hdomain =>
    (returns_id fun hP => (h hP).failureDomains domain hdomain).orFail).bind
  apply (returns_header fun hP => (h hP).publisher).orFail.bind
  iterate 3 apply returns_counter.orFail.bind
  apply returns_optionalText.orFail.last
  apply (guards_parseOptional (fun hP => (h hP).boot) _).bind
  exact guards_pure link

/-- What the decoder of a constraint demands. -/
structure ReadableConstraint (constraint : ClusterConstraint) : Prop where
  id : constraint.id.isEmpty = false
  racks_le : constraint.racks.length ≤ maxDomainMembers
  racks : ∀ rack ∈ constraint.racks, rack.isEmpty = false
  publisher : Named constraint.header.publisher

theorem returns_constraint {constraint : ClusterConstraint}
    (h : P → ReadableConstraint constraint) :
    Returns P (writeConstraint constraint) decodeConstraint constraint := by
  apply (returns_id fun hP => (h hP).id).orFail.first
  apply (returns_enum constraint.kind).orFail.bind
  apply ((returns_rackIds (fun hP => (h hP).racks_le) fun hP => (h hP).racks).orFail).bind
  apply returns_text.orFail.bind
  apply returns_text.orFail.bind
  exact (returns_header fun hP => (h hP).publisher).orFail.last (guards_pure constraint)

theorem returns_retired {retired : RetiredIdentity} (h : P → retired.rack.isEmpty = false) :
    Returns P (writeRetired retired) decodeRetired retired := by
  refine Carries.orFail ?_
  apply (returns_id h).first
  apply returns_counter.bind
  apply returns_timestamp.bind
  exact returns_text.last (guards_pure retired)

theorem returns_fenced {fenced : FencedAuthority}
    (h : P → fenced.boot.isEmpty = false ∧ fenced.rack.isEmpty = false) :
    Returns P (writeFenced fenced) decodeFenced fenced := by
  refine Carries.orFail ?_
  apply (returns_id fun hP => (h hP).1).first
  apply (returns_id fun hP => (h hP).2).bind
  apply returns_text.bind
  exact returns_timestamp.last (guards_pure fenced)

/-! ## States -/

/-- What the decoders demand of a state, before the structural rules. -/
structure PersistedState.Readable (p : PersistedState) : Prop where
  id : p.id.isEmpty = false
  contract : ReadableContract p.readinessContract
  racks_le : p.racks.length ≤ maxRacksPerCluster
  racks : ∀ rack ∈ p.racks, ReadableRack rack
  domains_le : ∀ k, (p.domains k).length ≤ maxDomainsPerClass
  domains : ∀ k, ∀ domain ∈ p.domains k, ReadableDomain domain
  links_le : p.links.length ≤ maxInterRackLinks
  links : ∀ link ∈ p.links, ReadableLink link
  constraints_le : p.constraints.length ≤ maxConstraints
  constraints : ∀ constraint ∈ p.constraints, ReadableConstraint constraint
  retired_le : p.retiredRacks.length ≤ maxRacksPerCluster
  retired : ∀ retired ∈ p.retiredRacks, retired.rack.isEmpty = false
  withdrawn_le : p.withdrawnRacks.length ≤ maxRacksPerCluster
  withdrawn : ∀ rack ∈ p.withdrawnRacks, rack.isEmpty = false
  fenced_le : p.fencedAuthorities.length ≤ maxRacksPerCluster
  fenced : ∀ fenced ∈ p.fencedAuthorities,
    fenced.boot.isEmpty = false ∧ fenced.rack.isEmpty = false

/-- The generation block carries the counters of a state and nothing else. -/
theorem returns_generations (p : PersistedState) :
    Returns P (writeGenerations p) readGenerations
      { epoch := p.epoch
        lastCoordinatorEpoch := p.lastCoordinatorEpoch
        generation := p.generation
        membershipGeneration := p.membershipGeneration
        topologyEpoch := p.topologyEpoch
        topologyGeneration := p.topologyGeneration
        connectivityGeneration := p.connectivityGeneration
        healthGeneration := p.healthGeneration
        constraintGeneration := p.constraintGeneration
        domainGenerations := p.domainGenerations
        snapshotGeneration := p.snapshotGeneration
        publicationGeneration := p.publicationGeneration } := by
  apply returns_counter.first
  iterate 8 apply returns_counter.bind
  apply (returns_domainGenerations _).bind
  apply returns_counter.bind
  exact returns_counter.last (guards_pure _)

theorem returns_topologyRecord (record : TopologyEpochRecord) :
    Returns P (writeTopologyRecord record) decodeTopologyRecord record := by
  apply returns_counter.orFail.first
  apply returns_counter.orFail.bind
  apply returns_timestamp.orFail.bind
  apply (returns_stamp _).orFail.bind
  exact returns_text.orFail.last (guards_pure record)

/-- One block of domains. -/
theorem returns_domainBlock {domains : (k : DomainKind) → List (Domain k)} (k : DomainKind)
    {record : Decoder (Domain k)} (what : String)
    (hlength : P → ∀ k, (domains k).length ≤ maxDomainsPerClass)
    (h : P → ∀ k, ∀ domain ∈ domains k, ReadableDomain domain)
    (hrecord : ∀ {domain : Domain k}, (P → ReadableDomain domain) →
      Returns P (writeDomain domain) record domain) :
    Returns P (ByteWriter.vector writeDomain (domains k))
      (decodeBlock what maxDomainsPerClass record) (domains k) :=
  returns_decodeCounted _ _ (fun hP => hlength hP k) fun domain hdomain =>
    hrecord fun hP => h hP k domain hdomain

theorem returns_domains {domains : (k : DomainKind) → List (Domain k)}
    (hlength : P → ∀ k, (domains k).length ≤ maxDomainsPerClass)
    (h : P → ∀ k, ∀ domain ∈ domains k, ReadableDomain domain) :
    Returns P (writeDomains domains) decodeDomains domains := by
  apply (returns_domainBlock .placement _ hlength h returns_placementDomain).first
  apply (returns_domainBlock .capacity _ hlength h returns_capacityDomain).bind
  apply (returns_domainBlock .failure _ hlength h returns_failureDomain).bind
  apply (returns_domainBlock .network _ hlength h returns_networkDomain).bind
  apply (returns_domainBlock .storage _ hlength h returns_storageDomain).bind
  apply (returns_domainBlock .power _ hlength h returns_powerDomain).bind
  apply (returns_domainBlock .cooling _ hlength h returns_coolingDomain).bind
  apply (returns_domainBlock .link _ hlength h returns_linkDomain).last
  rw [byKind_apply domains]
  exact guards_pure domains

theorem returns_state (p : PersistedState) : Returns p.Readable (writeState p) decodeState p := by
  apply returns_idText.orFail.first
  apply Carries.check (guards_parse (fun h => h.id) _)
  apply (returns_generations p).orFail.bind
  apply (returns_enum p.lifecycle).orFail.bind
  apply (returns_readiness fun h => h.contract).orFail.bind
  apply (returns_topologyRecord _).bind
  apply returns_timestamp.orFail.bind
  apply returns_timestamp.orFail.bind
  apply (returns_decodeCounted _ _ (fun h => h.racks_le) fun rack hrack =>
    returns_rack fun h => h.racks rack hrack).bind
  apply (returns_domains (fun h => h.domains_le) fun h => h.domains).bind
  apply (returns_decodeCounted _ _ (fun h => h.links_le) fun link hlink =>
    returns_link fun h => h.links link hlink).bind
  apply (returns_decodeCounted _ _ (fun h => h.constraints_le) fun constraint hconstraint =>
    returns_constraint fun h => h.constraints constraint hconstraint).bind
  apply (returns_decodeCounted _ _ (fun h => h.retired_le) fun retired hretired =>
    returns_retired fun h => h.retired retired hretired).bind
  apply (returns_rackIds (fun h => h.withdrawn_le) fun h => h.withdrawn).orFail.bind
  exact (returns_decodeCounted _ _ (fun h => h.fenced_le) fun fenced hfenced =>
    returns_fenced fun h => h.fenced fenced hfenced).last (guards_pure p)

/-! ## Containers -/

/-- A field that stands behind `before` in a container. -/
theorem headerField_stored (before : Text) {after : Text} {offset width value : Nat}
    (hbytes : bytes = before ++ (storeUint width value ++ after))
    (hoffset : before.length = offset) (hvalue : value < 256 ^ width) :
    headerField bytes offset width = value := by
  subst hbytes hoffset
  rw [headerField, List.drop_left, List.take_left' (length_storeUint width value),
    loadUint_storeUint hvalue]

theorem length_containerHead (payload : Text) : (containerHead payload).length = 12 := by
  simp [containerHead]

theorem length_container (payload : Text) :
    (container payload).length = containerHeaderBytes + payload.length := by
  simp [container, length_containerHead, containerHeaderBytes, Nat.add_comm]

/-- The header of a container, field by field. -/
structure HeaderOf (payload bytes : Text) : Prop where
  magic : headerField bytes 0 4 = persistenceMagic
  version : headerField bytes 4 2 = persistenceFormatVersion
  flags : headerField bytes 6 2 = 0
  length : headerField bytes 8 4 = payload.length
  checksum : headerField bytes 12 4 = (containerChecksum (bytes.take 12) payload).toNat
  payload : bytes.drop containerHeaderBytes = payload

theorem headerOf_container (h : payload.length < 2 ^ 32) :
    HeaderOf payload (container payload) := by
  have happend : container payload = storeUint 4 persistenceMagic ++
      (storeUint 2 persistenceFormatVersion ++ (storeUint 2 0 ++ (storeUint 4 payload.length ++
        (storeUint 4 (containerChecksum (containerHead payload) payload).toNat ++ payload)))) := by
    simp only [container, containerHead, List.append_assoc]
  have htake : (container payload).take 12 = containerHead payload := by
    rw [container, List.append_assoc, List.take_left' (length_containerHead payload)]
  constructor
  · exact headerField_stored [] happend rfl (by decide)
  · exact headerField_stored (storeUint 4 persistenceMagic) happend (by simp) (by decide)
  · rw [happend, ← List.append_assoc]
    exact headerField_stored _ rfl (by simp) (by decide)
  · rw [happend, ← List.append_assoc, ← List.append_assoc]
    exact headerField_stored _ rfl (by simp) (by omega)
  · rw [htake, container, List.append_assoc]
    exact headerField_stored _ rfl (length_containerHead payload)
      (containerChecksum (containerHead payload) payload).toNat_lt
  · rw [container, List.drop_left']
    simp [length_containerHead, containerHeaderBytes]

/-- The checks of a container accept what was put into one. -/
theorem openContainer_container (h : payload.length ≤ maxPersistenceBytes - containerHeaderBytes) :
    openContainer (container payload) = .ok payload := by
  have hmax : maxPersistenceBytes = 268435456 := rfl
  have hheader : containerHeaderBytes = 16 := rfl
  have hof : HeaderOf payload (container payload) := headerOf_container (by omega)
  have hlength := length_container payload
  have hnonempty : (container payload).isEmpty = false := by
    rw [List.isEmpty_eq_false_iff]
    intro hnil
    rw [hnil, List.length_nil] at hlength
    omega
  unfold openContainer
  dsimp only
  rw [hnonempty, hof.magic, hof.version, hof.flags, hof.length, hof.checksum, hof.payload,
    List.take_length, if_neg Bool.false_ne_true, if_neg (by omega), if_neg (by simp),
    if_neg (by simp), if_neg (by simp), if_neg (by omega), if_neg (by omega), if_neg (by omega),
    if_neg (by simp)]

theorem encode_ok (h : encodePersistedState p = .ok bytes) :
    ((writeState p).output {}).failed = false ∧
      ((writeState p).output {}).data.length ≤ maxPersistenceBytes - containerHeaderBytes ∧
      bytes = container ((writeState p).output {}).data := by
  unfold encodePersistedState at h
  dsimp only at h
  split_ifs at h with hfailed hlength
  refine ⟨by simpa using hfailed, Nat.le_of_not_lt hlength, ?_⟩
  exact (Except.ok.inj h).symm

/-- A payload is accepted when it is read to its end and what was read keeps the
structural rules. -/
theorem decodePayload_ok_iff :
    decodePayload payload = .ok q ↔ decodeState.run payload = .ok (q, []) ∧ q.Valid := by
  unfold decodePayload
  cases hrun : decodeState.run payload with
  | error e => simp [bind, Except.bind]
  | ok result =>
    obtain ⟨state, rest⟩ := result
    simp only [bind, Except.bind]
    cases rest with
    | cons b rest => simp
    | nil =>
      simp only [List.isEmpty_nil, Bool.not_true, Bool.false_eq_true, if_false]
      rw [← validatePersistedState_ok]
      cases hvalidate : validatePersistedState state with
      | ok _ =>
        constructor
        · intro h
          obtain rfl := Except.ok.inj h
          exact ⟨rfl, hvalidate⟩
        · rintro ⟨h, -⟩
          exact congrArg Except.ok (Prod.mk.inj (Except.ok.inj h)).1
      | error failure =>
        constructor
        · intro h
          cases h
        · rintro ⟨h, hvalid⟩
          obtain ⟨rfl, -⟩ := Prod.mk.inj (Except.ok.inj h)
          cases hvalidate.symm.trans hvalid

/-- The container of a state that could be encoded is opened. -/
theorem decode_of_encode (h : encodePersistedState p = .ok bytes) :
    decodePersistedState bytes = decodePayload ((writeState p).output {}).data := by
  obtain ⟨-, hlength, rfl⟩ := encode_ok h
  simp only [decodePersistedState, openContainer_container hlength, bind, Except.bind]

/-- **Decoding what was encoded.** The container of a readable state decodes to
that state, if the state keeps the structural rules, and is rejected otherwise. -/
theorem decode_encode (hreadable : p.Readable) (h : encodePersistedState p = .ok bytes) :
    decodePersistedState bytes = .ok q ↔ p.Valid ∧ q = p := by
  rw [decode_of_encode h, decodePayload_ok_iff,
    ((returns_state p).yields (encode_ok h).1).ok hreadable]
  constructor
  · rintro ⟨hrun, hvalid⟩
    obtain ⟨rfl, -⟩ := Prod.mk.inj (Except.ok.inj hrun)
    exact ⟨hvalid, rfl⟩
  · rintro ⟨hvalid, rfl⟩
    exact ⟨rfl, hvalid⟩

/-- **The container never returns another state.** What was encoded of a state is
decoded to that state or refused; and it is decoded to it if the decoders accept
the state and it keeps the structural rules. -/
theorem container_unaltered {p : PersistedState} {bytes : Text}
    (h : encodePersistedState p = .ok bytes) :
    (∀ q, decodePersistedState bytes = .ok q → q = p) ∧
      (p.Readable → validatePersistedState p = .ok () → decodePersistedState bytes = .ok p) := by
  constructor
  · intro q hdecode
    rw [decode_of_encode h] at hdecode
    exact (((returns_state p).yields (encode_ok h).1).eq _ _ (decodePayload_ok_iff.mp hdecode).1).1
  · intro hreadable hvalid
    exact (decode_encode hreadable h).mpr ⟨validatePersistedState_ok.mp hvalid, rfl⟩

section Example

/-- A declared cluster `alpha` from which rack `r1` was withdrawn and its process
fenced. -/
def fencedState : PersistedState where
  id := .named "alpha"
  epoch := .fromRaw 1
  lastCoordinatorEpoch := .fromRaw 2
  generation := .fromRaw 4
  membershipGeneration := .fromRaw 3
  topologyEpoch := .fromRaw 1
  topologyGeneration := .fromRaw 1
  connectivityGeneration := .fromRaw 1
  healthGeneration := .fromRaw 1
  constraintGeneration := .fromRaw 1
  domainGenerations := fun _ => .fromRaw 1
  snapshotGeneration := .fromRaw 1
  publicationGeneration := .fromRaw 1
  topologyRecord := { epoch := .fromRaw 1, generation := .fromRaw 1, establishedAt := ⟨1⟩ }
  declaredAt := ⟨1⟩
  lastMutationAt := ⟨4⟩
  racks :=
    [{ rack := .named "r1"
       generation := .fromRaw 1
       membership := .withdrawn
       publisher := .named "agent"
       lastAcceptedPublication := .fromRaw 1
       lastBoot := .named "b1"
       membershipGeneration := .fromRaw 3 }]
  withdrawnRacks := [.named "r1"]
  fencedAuthorities :=
    [{ boot := .named "b1", rack := .named "r1", reason := text "session closed", fencedAt := ⟨4⟩ }]

theorem readable_fencedState : fencedState.Readable where
  id := by decide +kernel
  contract := ⟨by decide, by decide, by decide, by decide, by decide, by decide⟩
  racks_le := by decide
  racks := by
    intro rack hrack
    obtain rfl := List.mem_singleton.mp hrack
    exact ⟨by decide +kernel, by decide +kernel, by decide +kernel, by decide, by decide,
      fun _ hmem => (nomatch hmem), by decide, fun _ hmem => (nomatch hmem)⟩
  domains_le := fun _ => Nat.zero_le _
  domains := fun _ _ hmem => nomatch hmem
  links_le := by decide
  links := fun _ hmem => nomatch hmem
  constraints_le := by decide
  constraints := fun _ hmem => nomatch hmem
  retired_le := by decide
  retired := fun _ hmem => nomatch hmem
  withdrawn_le := by decide
  withdrawn := by decide +kernel
  fenced_le := by decide
  fenced := by decide +kernel

theorem exists_of_isOk {ε α : Type} {x : Except ε α} (h : x.isOk = true) : ∃ a, x = .ok a := by
  cases x with
  | error e => cases h
  | ok a => exact ⟨a, rfl⟩

/-- The state of a withdrawn rack comes back from its container. -/
theorem container_unaltered_fenced :
    ∃ bytes, encodePersistedState fencedState = .ok bytes ∧
      decodePersistedState bytes = .ok fencedState := by
  obtain ⟨bytes, hencode⟩ : ∃ bytes, encodePersistedState fencedState = .ok bytes :=
    exists_of_isOk (by decide +kernel)
  obtain ⟨⟨⟩, hvalid⟩ : ∃ u, validatePersistedState fencedState = .ok u :=
    exists_of_isOk (by decide +kernel)
  exact ⟨bytes, hencode, (container_unaltered hencode).2 readable_fencedState hvalid⟩

end Example

end ClusterFabric
