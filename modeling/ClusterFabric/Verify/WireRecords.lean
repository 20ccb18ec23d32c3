import ClusterFabric.Model.Wire
import ClusterFabric.Verify.Framing

/-! # Records on the wire are exact

Every record writer of the wire format and its reader are inverse to each other on
the records that can be sent: those whose identities are set and whose texts and
lists are within the bounds.
-/

namespace ClusterFabric

open Lib Codec

variable {status : ProtocolStatus}

/-- The writer and the reader are inverse to each other on the values in `V`. -/
abbrev WireExact {α : Type} (V : α → Prop) (write : α → Write) (read : WireReader α) : Prop :=
  Exact maxWriterBytes V write read

/-! ## Numbers and texts -/

section Primitives

theorem wire_u8 : WireExact (fun _ => True) ByteWriter.u8 WireReader.u8 := exact_byte _

theorem wire_u16 : WireExact (fun _ => True) ByteWriter.u16 WireReader.u16 := exact_u16 _

theorem wire_u32 : WireExact (fun _ => True) ByteWriter.u32 WireReader.u32 := exact_u32 _

theorem wire_u64 : WireExact (fun _ => True) ByteWriter.u64 WireReader.u64 := exact_u64 _

theorem wire_i64 : WireExact (fun _ => True) ByteWriter.i64 WireReader.i64 := by
  refine (ExactOn.map Int64.toUInt64 UInt64.toInt64 wire_u64 fun n _ => rfl).congr fun n => ?_
  exact iff_of_true ⟨trivial, rfl⟩ trivial

theorem wire_f64 : WireExact (fun _ => True) ByteWriter.f64 WireReader.f64 := by
  refine (ExactOn.map F64.bits F64.mk wire_u64 fun n _ => rfl).congr fun x => ?_
  exact iff_of_true ⟨trivial, rfl⟩ trivial

theorem wire_timestamp : WireExact (fun _ => True) ByteWriter.timestamp WireReader.timestamp := by
  refine (ExactOn.map Timestamp.unixMillis Timestamp.mk wire_i64 fun n _ => rfl).congr fun t => ?_
  exact iff_of_true ⟨trivial, rfl⟩ trivial

theorem wire_counter {tag : CounterTag} :
    WireExact (fun _ => True) (@ByteWriter.counter tag) WireReader.counter := by
  refine (ExactOn.map StrongCounter.toRaw StrongCounter.fromRaw wire_u64 ?_).congr fun c => ?_
  · intro n _
    exact UInt64.ofNat_toNat
  · exact iff_of_true ⟨trivial, StrongCounter.fromRaw_toRaw c⟩ trivial

theorem wire_boolean : WireExact (fun _ => True) ByteWriter.boolean WireReader.boolean := by
  have hchecked := ExactOn.check (fun value : UInt8 => decide (value ≤ 1))
    ProtocolStatus.malformedPayload wire_u8
  have hread : WireReader.boolean = (fun value => value == 1) <$> (WireReader.u8 >>= fun value =>
      ensure (decide (value ≤ 1)) .malformedPayload >>= fun _ => pure value) := by
    simp only [map_bind, map_pure]
    rfl
  rw [hread]
  refine (hchecked.map (fun value : Bool => if value then 1 else 0) _ ?_).congr fun value => ?_
  · rintro n ⟨-, hle⟩
    have hle : n.toNat ≤ 1 := of_decide_eq_true hle
    have hcases : n = 0 ∨ n = 1 := by
      rw [← UInt8.toNat_inj, ← UInt8.toNat_inj]
      simp only [UInt8.toNat_zero, UInt8.toNat_one]
      omega
    rcases hcases with rfl | rfl <;> rfl
  · cases value <;> decide

/-- A number of at most `bound`, as the sizes of texts and lists are written. -/
theorem wire_bounded {bound : Nat} (hbound : bound < 2 ^ 32) :
    WireExact (fun n => n ≤ bound) (fun n => ByteWriter.u32 (.ofNat n))
      (WireReader.u32 >>= fun value => ensure (decide (value.toNat ≤ bound)) .absurdLength >>=
        fun _ => pure value.toNat) := by
  have hchecked := ExactOn.check (fun value : UInt32 => decide (value.toNat ≤ bound))
    ProtocolStatus.absurdLength wire_u32
  have hread : (WireReader.u32 >>= fun value =>
      ensure (decide (value.toNat ≤ bound)) .absurdLength >>= fun _ => pure value.toNat) =
      UInt32.toNat <$> (WireReader.u32 >>= fun value =>
        ensure (decide (value.toNat ≤ bound)) .absurdLength >>= fun _ => pure value) := by
    simp only [map_bind, map_pure]
  rw [hread]
  refine (hchecked.map UInt32.ofNat UInt32.toNat fun n _ => UInt32.ofNat_toNat).congr fun n => ?_
  constructor
  · rintro ⟨⟨-, hle⟩, hn⟩
    rw [← hn]
    exact of_decide_eq_true hle
  · intro hle
    have hn : (UInt32.ofNat n).toNat = n :=
      UInt32.toNat_ofNat_of_lt' (Nat.lt_of_le_of_lt hle hbound)
    exact ⟨⟨trivial, by rw [hn]; exact decide_eq_true hle⟩, hn⟩

/-- A text of a length that is written. -/
def Sized (value : Text) : Prop := value.length ≤ maxEncodedStringBytes

theorem wire_text : WireExact Sized ByteWriter.text WireReader.text := by
  have hsized := exact_sized ProtocolStatus.truncatedPayload
    (@wire_bounded maxEncodedStringBytes (by decide))
  simp only [bind_assoc, pure_bind] at hsized
  refine hsized.agree fun value hvalue => ?_
  exact if_neg (Nat.not_lt.mpr hvalue)

theorem wire_enumNumber (maximum : UInt8) :
    WireExact (· ≤ maximum) ByteWriter.u8 (WireReader.enumNumber maximum) :=
  (wire_u8.check (fun value => decide (value ≤ maximum)) .invalidEnum).congr
    fun _ => by rw [true_and, decide_eq_true_iff]

theorem wire_enum {E : Type} [DecidableEq E] [Enumeration E] [OnWire E] :
    WireExact (fun _ => True) (@ByteWriter.enum E _ _) WireReader.enum := by
  have hparse : ∀ (byte : UInt8) (e : E), ByteReader.enumOf byte = some e →
      UInt8.ofNat (Enumeration.raw e) = byte := by
    intro byte e h
    rw [Enumeration.raw_of_ofRaw? h, UInt8.ofNat_toNat]
  refine (ExactOn.demand (fun e : E => UInt8.ofNat (Enumeration.raw e)) .invalidEnum
    (wire_enumNumber _) hparse).congr fun e => ?_
  have hraw := UInt8.toNat_ofNat_of_lt' (Enumeration.raw_lt_byte e)
  refine iff_of_true ⟨?_, ?_⟩ trivial
  -- The maximum of the table is the number of the last enumerator.
  · have hlast : (OnWire.type E).maximum.toNat + 1 = (Enumeration.all : List E).length := by
      rw [OnWire.maximum_eq, OnWire.declared_eq]
    have hlt := Enumeration.raw_lt e
    rw [UInt8.le_iff_toNat_le, hraw]
    omega
  · rw [ByteReader.enumOf, hraw, Enumeration.ofRaw?_raw]

/-- An identity that can be parsed: one that is set. -/
def StrongId.Valid {tag : IdTag} (id : StrongId tag) : Prop := id.isValid = true

instance {tag : IdTag} (id : StrongId tag) : Decidable id.Valid :=
  inferInstanceAs (Decidable (id.isValid = true))

/-- An identity that is set if it is present. -/
def OptionalValid {tag : IdTag} (id : Option (StrongId tag)) : Prop := ∀ i ∈ id, i.Valid

instance {tag : IdTag} (id : Option (StrongId tag)) : Decidable (OptionalValid id) :=
  inferInstanceAs (Decidable (∀ i ∈ id, i.Valid))

theorem wire_id {tag : IdTag} : WireExact StrongId.Valid (@ByteWriter.id tag) WireReader.id := by
  have hparse : ∀ (value : Text) (id : StrongId tag), StrongId.parse value = some id →
      id.value = value := by
    intro value id h
    unfold StrongId.parse at h
    split_ifs at h with hok
    rw [← Option.some.inj h]
  refine (ExactOn.demand StrongId.value .invalidIdentity wire_text hparse).congr fun id => ?_
  constructor
  · rintro ⟨-, hsome⟩
    unfold StrongId.parse at hsome
    split_ifs at hsome with hok
    exact hok
  · intro hvalid
    have hlength := length_le_of_validateIdentity hvalid
    exact ⟨Nat.le_trans hlength (by decide), dif_pos hvalid⟩

section Combinators

variable {α : Type} {V : α → Prop} {write : α → Write} {read : WireReader α}

theorem wire_optional (h : WireExact V write read) :
    WireExact (fun value => ∀ a ∈ value, V a) (WireWriter.optional write)
      (WireReader.optional read) := wire_boolean.option h

theorem wire_present (h : WireExact (fun _ => True) write read) :
    WireExact (fun _ => True) (WireWriter.optional write) (WireReader.optional read) :=
  (wire_optional h).congr fun _ => iff_of_true (fun _ _ => trivial) trivial

/-- A list of a size that is written, of things that can be written. -/
def Listed (bound : Nat) (V : α → Prop) (values : List α) : Prop :=
  values.length ≤ bound ∧ ∀ a ∈ values, V a

/-- The elements of a list take a byte at least: their reader fails on nothing. -/
theorem wire_vector {bound : Nat} (hbound : bound < 2 ^ 32) (h : WireExact V write read)
    (hempty : read.run [] = .error status) :
    WireExact (Listed bound V) (WireWriter.vector bound write) (WireReader.vector bound read) := by
  have hlist := (wire_bounded hbound).list .absurdLength h (h.consumes hempty)
  have hread : WireReader.vector bound read = ((WireReader.u32 >>= fun value =>
      ensure (decide (value.toNat ≤ bound)) .absurdLength >>= fun _ => pure value.toNat) >>=
        fun count => room count .absurdLength >>= fun _ => times count read) := by
    simp only [WireReader.vector, WireReader.count, bind_assoc, pure_bind]
  rw [hread]
  refine hlist.agree fun values hvalues => ?_
  rw [WireWriter.vector, WireWriter.count, if_neg (Nat.not_lt.mpr hvalues.1)]

theorem wire_sizes {bound : Nat} (hbound : bound < 2 ^ 32)
    (h : WireExact (fun _ => True) write read) (hempty : read.run [] = .error status) :
    WireExact (fun values => values.length ≤ bound) (WireWriter.vector bound write)
      (WireReader.vector bound read) :=
  (wire_vector hbound h hempty).congr fun _ => and_iff_left fun _ _ => trivial

end Combinators

end Primitives

/-! ## Evidence, errors and readiness -/

theorem wire_evidenceStamp :
    WireExact (fun _ => True) Wire.writeEvidenceStamp Wire.readEvidenceStamp := by
  refine .total wire_enum fun _ => ?_
  refine .total wire_timestamp fun _ => ?_
  refine .total wire_enum fun _ => ?_
  refine .last wire_i64 (fun _ _ => trivial) ?_ fun _ _ => ?_
  · rintro stamp ⟨rfl, rfl, rfl, -⟩
    rfl
  · exact ⟨by simp, trivial⟩

/-- The texts of an error are within the bound. -/
structure StructuredError.Sendable (error : StructuredError) : Prop where
  subject : Sized error.subject
  reason : Sized error.reason
  expected : Sized error.expected
  current : Sized error.current
  message : Sized error.message

theorem wire_structuredError :
    WireExact StructuredError.Sendable Wire.writeStructuredError Wire.readStructuredError := by
  refine .total wire_enum fun _ => ?_
  refine .total wire_enum fun _ => ?_
  refine .field wire_text (fun _ h => h.subject) fun _ hsubject => ?_
  refine .field wire_text (fun _ h => h.reason) fun _ hreason => ?_
  refine .field wire_text (fun _ h => h.expected) fun _ hexpected => ?_
  refine .field wire_text (fun _ h => h.current) fun _ hcurrent => ?_
  refine .last wire_text (fun _ h => h.message) ?_ fun _ hmessage => ?_
  · rintro error ⟨rfl, rfl, rfl, rfl, rfl, rfl, -⟩
    rfl
  · exact ⟨by simp, hsubject, hreason, hexpected, hcurrent, hmessage⟩

structure ExplanationFactor.Sendable (factor : ExplanationFactor) : Prop where
  code : Sized factor.code
  subject : Sized factor.subject
  detail : Sized factor.detail

theorem wire_explanationFactor :
    WireExact ExplanationFactor.Sendable Wire.writeExplanationFactor
      Wire.readExplanationFactor := by
  refine .field wire_text (fun _ h => h.code) fun _ hcode => ?_
  refine .field wire_text (fun _ h => h.subject) fun _ hsubject => ?_
  refine .last wire_text (fun _ h => h.detail) ?_ fun _ hdetail => ?_
  · rintro factor ⟨rfl, rfl, -⟩
    rfl
  · exact ⟨by simp, hcode, hsubject, hdetail⟩

structure Explanation.Sendable (explanation : Explanation) : Prop where
  code : Sized explanation.code
  subject : Sized explanation.subject
  summary : Sized explanation.summary
  factors : Listed maxExplanationFactors ExplanationFactor.Sendable explanation.factors

theorem wire_explanation :
    WireExact Explanation.Sendable Wire.writeExplanation Wire.readExplanation := by
  refine .field wire_text (fun _ h => h.code) fun _ hcode => ?_
  refine .field wire_text (fun _ h => h.subject) fun _ hsubject => ?_
  refine .field wire_text (fun _ h => h.summary) fun _ hsummary => ?_
  refine .last (wire_vector (by decide) wire_explanationFactor rfl) (fun _ h => h.factors) ?_
    fun _ hfactors => ?_
  · rintro explanation ⟨rfl, rfl, rfl, -⟩
    rfl
  · exact ⟨by simp, hcode, hsubject, hsummary, hfactors⟩

structure ReadinessContract.Sendable (contract : ReadinessContract) : Prop where
  mandatoryRacks : Listed maxRacksPerCluster StrongId.Valid contract.mandatoryRacks
  requiredPlacementDomainClasses :
    contract.requiredPlacementDomainClasses.length ≤ maxRequiredPlacementClasses
  requiredFailureDomainClasses :
    contract.requiredFailureDomainClasses.length ≤ maxRequiredFailureClasses

theorem wire_readinessContract :
    WireExact ReadinessContract.Sendable Wire.writeReadinessContract
      Wire.readReadinessContract := by
  refine .total wire_u64 fun _ => ?_
  refine .field (wire_vector (by decide) wire_id rfl) (fun _ h => h.mandatoryRacks)
    fun _ hmandatoryRacks => ?_
  refine .total wire_boolean fun _ => ?_
  refine .total wire_boolean fun _ => ?_
  refine .total wire_u64 fun _ => ?_
  refine .field
    (wire_sizes (by decide) wire_enum rfl) (fun _ h => h.requiredPlacementDomainClasses)
    fun requiredPlacementDomainClasses hrequiredPlacementDomainClasses => ?_
  refine .field
    (wire_sizes (by decide) wire_enum rfl) (fun _ h => h.requiredFailureDomainClasses)
    fun requiredFailureDomainClasses hrequiredFailureDomainClasses => ?_
  refine .total wire_boolean fun _ => ?_
  refine .total wire_boolean fun _ => ?_
  refine .last wire_boolean (fun _ _ => trivial) ?_ fun _ _ => ?_
  · rintro contract ⟨rfl, rfl, rfl, rfl, rfl, rfl, rfl, rfl, rfl, -⟩
    rfl
  · exact ⟨by simp, hmandatoryRacks, hrequiredPlacementDomainClasses,
      hrequiredFailureDomainClasses⟩

structure ReadinessBlocker.Sendable (blocker : ReadinessBlocker) : Prop where
  code : Sized blocker.code
  subject : Sized blocker.subject
  detail : Sized blocker.detail

theorem wire_readinessBlocker :
    WireExact ReadinessBlocker.Sendable Wire.writeReadinessBlocker Wire.readReadinessBlocker := by
  refine .field wire_text (fun _ h => h.code) fun _ hcode => ?_
  refine .field wire_text (fun _ h => h.subject) fun _ hsubject => ?_
  refine .last wire_text (fun _ h => h.detail) ?_ fun _ hdetail => ?_
  · rintro blocker ⟨rfl, rfl, -⟩
    rfl
  · exact ⟨by simp, hcode, hsubject, hdetail⟩

structure ReadinessEvaluation.Sendable (evaluation : ReadinessEvaluation) : Prop where
  blockers : Listed maxDecodedRecords ReadinessBlocker.Sendable evaluation.blockers

theorem wire_readinessEvaluation :
    WireExact ReadinessEvaluation.Sendable Wire.writeReadinessEvaluation
      Wire.readReadinessEvaluation := by
  refine .total wire_boolean fun _ => ?_
  refine .total wire_enum fun _ => ?_
  refine .last (wire_vector (by decide) wire_readinessBlocker rfl) (fun _ h => h.blockers) ?_
    fun _ hblockers => ?_
  · rintro evaluation ⟨rfl, rfl, -⟩
    rfl
  · exact ⟨by simp, ⟨hblockers⟩⟩

structure DomainHeader.Sendable (header : DomainHeader) : Prop where
  publisher : OptionalValid header.publisher
  label : Sized header.label

theorem wire_domainHeader :
    WireExact DomainHeader.Sendable Wire.writeDomainHeader Wire.readDomainHeader := by
  refine .total wire_evidenceStamp fun _ => ?_
  refine .total wire_counter fun _ => ?_
  refine .field (wire_optional wire_id) (fun _ h => h.publisher) fun _ hpublisher => ?_
  refine .total wire_counter fun _ => ?_
  refine .total wire_counter fun _ => ?_
  refine .last wire_text (fun _ h => h.label) ?_ fun _ hlabel => ?_
  · rintro header ⟨rfl, rfl, rfl, rfl, rfl, -⟩
    rfl
  · exact ⟨by simp, hpublisher, hlabel⟩

/-! ## Domains -/

structure CapacityQuantity.Sendable (quantity : CapacityQuantity) : Prop where
  unit : Sized quantity.unit

theorem wire_capacityQuantity :
    WireExact CapacityQuantity.Sendable Wire.writeCapacityQuantity Wire.readCapacityQuantity := by
  refine .field wire_text (fun _ h => h.unit) fun _ hunit => ?_
  refine .total (wire_present wire_f64) fun _ => ?_
  refine .total wire_enum fun _ => ?_
  refine .last wire_boolean (fun _ _ => trivial) ?_ fun _ _ => ?_
  · rintro quantity ⟨rfl, rfl, rfl, -⟩
    rfl
  · exact ⟨by simp, ⟨hunit⟩⟩

/-- What a kind adds to the common fields can be sent. -/
def DomainDetail.Sendable : (k : DomainKind) → DomainDetail k → Prop
  | .capacity, detail =>
    Listed maxCapacityQuantities CapacityQuantity.Sendable (CapacityDetail.quantities detail)
  | .power, parent => @OptionalValid .powerDomain parent
  | .cooling, parent => @OptionalValid .coolingDomain parent
  | .placement, _ | .failure, _ | .network, _ | .storage, _ | .link, _ => True

structure Domain.Sendable {k : DomainKind} (domain : Domain k) : Prop where
  id : domain.id.Valid
  racks : Listed maxDomainMembers StrongId.Valid domain.racks
  header : domain.header.Sendable
  detail : DomainDetail.Sendable k domain.detail

section Domains

variable {k : DomainKind}

/-- The members of a domain. -/
theorem wire_members :
    WireExact (Listed maxDomainMembers StrongId.Valid)
      (WireWriter.vector maxDomainMembers (@ByteWriter.id .rack))
      (WireReader.vector maxDomainMembers WireReader.id) :=
  wire_vector (by decide) wire_id rfl

theorem wire_placementDomain :
    WireExact Domain.Sendable Wire.writePlacementDomain Wire.readPlacementDomain := by
  refine .field wire_id (fun _ h => h.id) fun _ hid => ?_
  refine .total
    (wire_enum (E := PlacementDomainClass)) fun klass => ?_
  refine .field wire_members (fun _ h => h.racks) fun _ hracks => ?_
  refine .last wire_domainHeader (fun _ h => h.header) ?_ fun _ hheader => ?_
  · rintro domain ⟨rfl, rfl, rfl, -⟩
    rfl
  · exact ⟨by simp, hid, hracks, hheader, trivial⟩

theorem wire_capacityDomain :
    WireExact Domain.Sendable Wire.writeCapacityDomain Wire.readCapacityDomain := by
  refine .field wire_id (fun _ h => h.id) fun _ hid => ?_
  refine .total wire_enum fun _ => ?_
  refine .field wire_members (fun _ h => h.racks) fun _ hracks => ?_
  refine .field
    (wire_vector (by decide) wire_capacityQuantity rfl) (fun _ h => h.detail)
    fun quantities hquantities => ?_
  refine .last wire_domainHeader (fun _ h => h.header) ?_ fun _ hheader => ?_
  · rintro domain ⟨rfl, rfl, rfl, rfl, -⟩
    rfl
  · exact ⟨by simp, hid, hracks, hheader, hquantities⟩

theorem wire_failureDomain :
    WireExact Domain.Sendable Wire.writeFailureDomain Wire.readFailureDomain := by
  refine .field wire_id (fun _ h => h.id) fun _ hid => ?_
  refine .total
    (wire_enum (E := FailureDomainClass)) fun klass => ?_
  refine .field wire_members (fun _ h => h.racks) fun _ hracks => ?_
  refine .last wire_domainHeader (fun _ h => h.header) ?_ fun _ hheader => ?_
  · rintro domain ⟨rfl, rfl, rfl, -⟩
    rfl
  · exact ⟨by simp, hid, hracks, hheader, trivial⟩

theorem wire_networkDomain :
    WireExact Domain.Sendable Wire.writeNetworkDomain Wire.readNetworkDomain := by
  refine .field wire_id (fun _ h => h.id) fun _ hid => ?_
  refine .total
    (wire_enum (E := ConnectivityClass)) fun connectivity => ?_
  refine .field wire_members (fun _ h => h.racks) fun _ hracks => ?_
  refine .last wire_domainHeader (fun _ h => h.header) ?_ fun _ hheader => ?_
  · rintro domain ⟨rfl, rfl, rfl, -⟩
    rfl
  · exact ⟨by simp, hid, hracks, hheader, trivial⟩

/-- A kind without fields of its own. -/
theorem wire_plain (detail : DomainDetail k) (hall : ∀ other, other = detail)
    (hdetail : DomainDetail.Sendable k detail) :
    WireExact Domain.Sendable (@Wire.writePlain k) (Wire.readPlain detail) := by
  refine .field wire_id (fun _ h => h.id) fun _ hid => ?_
  refine .field wire_members (fun _ h => h.racks) fun _ hracks => ?_
  refine .last wire_domainHeader (fun _ h => h.header) ?_ fun _ hheader => ?_
  · rintro domain ⟨rfl, rfl, -⟩
    rw [← hall domain.detail]
  · exact ⟨by simp, hid, hracks, hheader, hdetail⟩

theorem wire_storageDomain :
    WireExact Domain.Sendable Wire.writeStorageDomain Wire.readStorageDomain :=
  wire_plain (k := .storage) () (fun _ => rfl) trivial

theorem wire_powerDomain :
    WireExact Domain.Sendable Wire.writePowerDomain Wire.readPowerDomain := by
  refine .field wire_id (fun _ h => h.id) fun _ hid => ?_
  refine .field wire_members (fun _ h => h.racks) fun _ hracks => ?_
  refine .field
    (wire_optional wire_id) (fun _ h => h.detail) fun parent hparent => ?_
  refine .last wire_domainHeader (fun _ h => h.header) ?_ fun _ hheader => ?_
  · rintro domain ⟨rfl, rfl, rfl, -⟩
    rfl
  · exact ⟨by simp, hid, hracks, hheader, hparent⟩

theorem wire_coolingDomain :
    WireExact Domain.Sendable Wire.writeCoolingDomain Wire.readCoolingDomain := by
  refine .field wire_id (fun _ h => h.id) fun _ hid => ?_
  refine .field wire_members (fun _ h => h.racks) fun _ hracks => ?_
  refine .field
    (wire_optional wire_id) (fun _ h => h.detail) fun parent hparent => ?_
  refine .last wire_domainHeader (fun _ h => h.header) ?_ fun _ hheader => ?_
  · rintro domain ⟨rfl, rfl, rfl, -⟩
    rfl
  · exact ⟨by simp, hid, hracks, hheader, hparent⟩

theorem wire_linkDomain :
    WireExact Domain.Sendable Wire.writeLinkDomain Wire.readLinkDomain :=
  wire_plain (k := .link) () (fun _ => rfl) trivial

end Domains

/-! ## Constraints, links and racks -/

structure ClusterConstraint.Sendable (constraint : ClusterConstraint) : Prop where
  id : constraint.id.Valid
  racks : Listed maxDomainMembers StrongId.Valid constraint.racks
  domainRef : Sized constraint.domainRef
  statement : Sized constraint.statement
  header : constraint.header.Sendable

theorem wire_constraint :
    WireExact ClusterConstraint.Sendable Wire.writeConstraint Wire.readConstraint := by
  refine .field wire_id (fun _ h => h.id) fun _ hid => ?_
  refine .total wire_enum fun _ => ?_
  refine .field (wire_vector (by decide) wire_id rfl) (fun _ h => h.racks) fun _ hracks => ?_
  refine .field wire_text (fun _ h => h.domainRef) fun _ hdomainRef => ?_
  refine .field wire_text (fun _ h => h.statement) fun _ hstatement => ?_
  refine .last wire_domainHeader (fun _ h => h.header) ?_ fun _ hheader => ?_
  · rintro constraint ⟨rfl, rfl, rfl, rfl, rfl, -⟩
    rfl
  · exact ⟨by simp, hid, hracks, hdomainRef, hstatement, hheader⟩

structure InterRackLink.Sendable (link : InterRackLink) : Prop where
  id : link.id.Valid
  source : link.source.Valid
  destination : link.destination.Valid
  networkDomain : OptionalValid link.networkDomain
  linkDomain : OptionalValid link.linkDomain
  sourceEndpoint : OptionalValid link.sourceEndpoint
  destinationEndpoint : OptionalValid link.destinationEndpoint
  failureDomains : Listed maxFailureDomainRefs StrongId.Valid link.failureDomains
  header : link.header.Sendable
  boot : OptionalValid link.boot

theorem wire_interRackLink :
    WireExact InterRackLink.Sendable Wire.writeInterRackLink Wire.readInterRackLink := by
  refine .field wire_id (fun _ h => h.id) fun _ hid => ?_
  refine .field wire_id (fun _ h => h.source) fun _ hsource => ?_
  refine .field wire_id (fun _ h => h.destination) fun _ hdestination => ?_
  refine .total wire_enum fun _ => ?_
  refine .total wire_enum fun _ => ?_
  refine .field (wire_optional wire_id) (fun _ h => h.networkDomain) fun _ hnetworkDomain => ?_
  refine .field (wire_optional wire_id) (fun _ h => h.linkDomain) fun _ hlinkDomain => ?_
  refine .field (wire_optional wire_id) (fun _ h => h.sourceEndpoint) fun _ hsourceEndpoint => ?_
  refine .field (wire_optional wire_id) (fun _ h => h.destinationEndpoint)
    fun _ hdestinationEndpoint => ?_
  refine .total wire_enum fun _ => ?_
  refine .total (wire_present wire_u64) fun _ => ?_
  refine .total wire_enum fun _ => ?_
  refine .total (wire_present wire_u64) fun _ => ?_
  refine .total (wire_present wire_u32) fun _ => ?_
  refine .total wire_enum fun _ => ?_
  refine .total wire_enum fun _ => ?_
  refine .field (wire_vector (by decide) wire_id rfl) (fun _ h => h.failureDomains)
    fun _ hfailureDomains => ?_
  refine .field wire_domainHeader (fun _ h => h.header) fun _ hheader => ?_
  iterate 3 refine .total wire_counter fun _ => ?_
  refine .last (wire_optional wire_id) (fun _ h => h.boot) ?_ fun _ hboot => ?_
  · rintro link ⟨rfl, rfl, rfl, rfl, rfl, rfl, rfl, rfl, rfl, rfl, rfl, rfl, rfl, rfl, rfl, rfl,
      rfl, rfl, rfl, rfl, rfl, -⟩
    rfl
  · exact ⟨by simp, hid, hsource, hdestination, hnetworkDomain, hlinkDomain, hsourceEndpoint,
      hdestinationEndpoint, hfailureDomains, hheader, hboot⟩

structure AcceleratorClassSummary.Sendable (summary : AcceleratorClassSummary) : Prop where
  family : Sized summary.family

theorem wire_acceleratorSummary :
    WireExact AcceleratorClassSummary.Sendable Wire.writeAcceleratorSummary
      Wire.readAcceleratorSummary := by
  refine .total wire_enum fun _ => ?_
  refine .field wire_text (fun _ h => h.family) fun _ hfamily => ?_
  refine .total (wire_present wire_u32) fun _ => ?_
  refine .last (wire_present wire_u64) (fun _ _ => trivial) ?_ fun _ _ => ?_
  · rintro summary ⟨rfl, rfl, rfl, -⟩
    rfl
  · exact ⟨by simp, ⟨hfamily⟩⟩

structure RackCompositionSummary.Sendable (composition : RackCompositionSummary) : Prop where
  accelerators :
    Listed maxAcceleratorClasses AcceleratorClassSummary.Sendable composition.accelerators
  compositionLabel : Sized composition.compositionLabel

theorem wire_composition :
    WireExact RackCompositionSummary.Sendable Wire.writeComposition Wire.readComposition := by
  refine .field
    (wire_vector (by decide) wire_acceleratorSummary rfl) (fun _ h => h.accelerators)
    fun accelerators haccelerators => ?_
  refine .total (wire_present wire_u32) fun _ => ?_
  refine .total (wire_present wire_u32) fun _ => ?_
  refine .total (wire_present wire_u64) fun _ => ?_
  refine .total (wire_present wire_u32) fun _ => ?_
  refine .total (wire_present wire_u32) fun _ => ?_
  refine .field wire_text (fun _ h => h.compositionLabel) fun _ hcompositionLabel => ?_
  refine .last wire_enum (fun _ _ => trivial) ?_ fun _ _ => ?_
  · rintro composition ⟨rfl, rfl, rfl, rfl, rfl, rfl, rfl, -⟩
    rfl
  · exact ⟨by simp, haccelerators, hcompositionLabel⟩

structure RackEndpoint.Sendable (endpoint : RackEndpoint) : Prop where
  id : endpoint.id.Valid
  networkDomain : OptionalValid endpoint.networkDomain
  linkDomain : OptionalValid endpoint.linkDomain

theorem wire_rackEndpoint :
    WireExact RackEndpoint.Sendable Wire.writeRackEndpoint Wire.readRackEndpoint := by
  refine .field wire_id (fun _ h => h.id) fun _ hid => ?_
  refine .field (wire_optional wire_id) (fun _ h => h.networkDomain) fun _ hnetworkDomain => ?_
  refine .field (wire_optional wire_id) (fun _ h => h.linkDomain) fun _ hlinkDomain => ?_
  refine .total wire_enum fun _ => ?_
  refine .last wire_evidenceStamp (fun _ _ => trivial) ?_ fun _ _ => ?_
  · rintro endpoint ⟨rfl, rfl, rfl, rfl, -⟩
    rfl
  · exact ⟨by simp, hid, hnetworkDomain, hlinkDomain⟩

structure RackFailureDomainHint.Sendable (hint : RackFailureDomainHint) : Prop where
  id : hint.id.Valid

theorem wire_failureHint :
    WireExact RackFailureDomainHint.Sendable Wire.writeFailureHint Wire.readFailureHint := by
  refine .total wire_enum fun _ => ?_
  refine .field wire_id (fun _ h => h.id) fun _ hid => ?_
  refine .last wire_evidenceStamp (fun _ _ => trivial) ?_ fun _ _ => ?_
  · rintro hint ⟨rfl, rfl, -⟩
    rfl
  · exact ⟨by simp, ⟨hid⟩⟩

structure RackReference.Sendable (reference : RackReference) : Prop where
  rack : reference.rack.Valid
  composition : reference.composition.Sendable
  endpoints : Listed maxRackEndpoints RackEndpoint.Sendable reference.endpoints
  failureDomainHints :
    Listed maxFailureDomainRefs RackFailureDomainHint.Sendable reference.failureDomainHints
  publisher : OptionalValid reference.publisher
  boot : reference.boot.Valid
  originLabel : Sized reference.originLabel

theorem wire_rackReference :
    WireExact RackReference.Sendable Wire.writeRackReference Wire.readRackReference := by
  refine .field wire_id (fun _ h => h.rack) fun _ hrack => ?_
  refine .total wire_counter fun _ => ?_
  refine .total wire_enum fun _ => ?_
  refine .total wire_enum fun _ => ?_
  refine .field wire_composition (fun _ h => h.composition) fun _ hcomposition => ?_
  refine .field (wire_vector (by decide) wire_rackEndpoint rfl) (fun _ h => h.endpoints)
    fun _ hendpoints => ?_
  refine .field (wire_vector (by decide) wire_failureHint rfl) (fun _ h => h.failureDomainHints)
    fun _ hfailureDomainHints => ?_
  refine .total wire_evidenceStamp fun _ => ?_
  refine .field (wire_optional wire_id) (fun _ h => h.publisher) fun _ hpublisher => ?_
  refine .total wire_counter fun _ => ?_
  refine .field wire_id (fun _ h => h.boot) fun _ hboot => ?_
  refine .total wire_counter fun _ => ?_
  refine .total wire_counter fun _ => ?_
  refine .total wire_enum fun _ => ?_
  refine .last wire_text (fun _ h => h.originLabel) ?_ fun _ horiginLabel => ?_
  · rintro reference ⟨rfl, rfl, rfl, rfl, rfl, rfl, rfl, rfl, rfl, rfl, rfl, rfl, rfl, rfl, -⟩
    rfl
  · exact ⟨by simp, hrack, hcomposition, hendpoints, hfailureDomainHints, hpublisher, hboot,
      horiginLabel⟩

theorem wire_domainGenerations :
    WireExact (fun _ => True) Wire.writeDomainGenerations Wire.readDomainGenerations := by
  iterate 7 refine .total wire_counter fun _ => ?_
  refine .last wire_counter (fun _ _ => trivial) ?_ fun _ _ => ?_
  · rintro generations ⟨rfl, rfl, rfl, rfl, rfl, rfl, rfl, -⟩
    exact byKind_apply generations
  · exact ⟨⟨rfl, rfl, rfl, rfl, rfl, rfl, rfl, rfl, trivial⟩, trivial⟩

structure RackGenerationBinding.Sendable (binding : RackGenerationBinding) : Prop where
  rack : binding.rack.Valid
  boot : binding.boot.Valid

theorem wire_rackBinding :
    WireExact RackGenerationBinding.Sendable Wire.writeRackBinding Wire.readRackBinding := by
  refine .field wire_id (fun _ h => h.rack) fun _ hrack => ?_
  refine .total wire_counter fun _ => ?_
  refine .total wire_enum fun _ => ?_
  refine .total wire_enum fun _ => ?_
  refine .total wire_boolean fun _ => ?_
  refine .last wire_id (fun _ h => h.boot) ?_ fun _ hboot => ?_
  · rintro binding ⟨rfl, rfl, rfl, rfl, rfl, -⟩
    rfl
  · exact ⟨by simp, hrack, hboot⟩

structure SnapshotView.Sendable (view : SnapshotView) : Prop where
  cluster : view.cluster.Valid
  rackBindings : Listed maxSnapshotRackRefs RackGenerationBinding.Sendable view.rackBindings
  semanticDigest : Sized view.semanticDigest

theorem wire_snapshotView :
    WireExact SnapshotView.Sendable Wire.writeSnapshotView Wire.readSnapshotView := by
  refine .field wire_id (fun _ h => h.cluster) fun _ hcluster => ?_
  iterate 9 refine .total wire_counter fun _ => ?_
  refine .total wire_domainGenerations fun _ => ?_
  refine .total wire_counter fun _ => ?_
  refine .total wire_counter fun _ => ?_
  refine .total wire_enum fun _ => ?_
  refine .field (wire_vector (by decide) wire_rackBinding rfl) (fun _ h => h.rackBindings)
    fun _ hrackBindings => ?_
  refine .field wire_text (fun _ h => h.semanticDigest) fun _ hsemanticDigest => ?_
  refine .total wire_u64 fun _ => ?_
  refine .total wire_u64 fun _ => ?_
  refine .last wire_u64 (fun _ _ => trivial) ?_ fun _ _ => ?_
  · rintro view ⟨rfl, rfl, rfl, rfl, rfl, rfl, rfl, rfl, rfl, rfl, rfl, rfl, rfl, rfl, rfl, rfl,
      rfl, rfl, -⟩
    rfl
  · exact ⟨by simp, hcluster, hrackBindings, hsemanticDigest⟩


end ClusterFabric
