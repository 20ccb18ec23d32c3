import ClusterFabric.Model.Message
import ClusterFabric.Verify.WireRecords

/-! # Payloads are exact

The encoder and the decoder of each message are inverse to each other: a message that
can be sent has one encoding, which is decoded to it and to nothing else
(`payload_exact`). What the encoder cannot send is a message above the bounds, or one of
more than 256 MiB altogether; what the decoder does not accept is an identity that is
empty, also where the identity is optional.
-/

namespace ClusterFabric

open Lib Codec

/-! ## Requests and results -/

structure MutationAuthority.Sendable (authority : MutationAuthority) : Prop where
  boot : OptionalValid authority.boot
  publisher : OptionalValid authority.publisher
  rack : OptionalValid authority.rack

theorem wire_authority :
    WireExact MutationAuthority.Sendable Wire.writeAuthority Wire.readAuthority := by
  iterate 4 refine .total wire_counter fun _ => ?_
  refine .field (wire_optional wire_id) (fun _ h => h.boot) fun _ hboot => ?_
  refine .field (wire_optional wire_id) (fun _ h => h.publisher) fun _ hpublisher => ?_
  refine .field (wire_optional wire_id) (fun _ h => h.rack) fun _ hrack => ?_
  refine .total (wire_present wire_counter) fun _ => ?_
  refine .last wire_counter (fun _ _ => trivial) ?_ fun _ _ => ?_
  · rintro authority ⟨rfl, rfl, rfl, rfl, rfl, rfl, rfl, rfl, -⟩
    rfl
  · exact ⟨by simp, hboot, hpublisher, hrack⟩

structure MutationRequest.Sendable (request : MutationRequest) : Prop where
  cluster : request.cluster.Valid
  authority : request.authority.Sendable
  reason : Sized request.reason
  readinessContract : request.readinessContract.Sendable
  rackReference : request.rackReference.Sendable
  domain : ∀ k, ∀ record ∈ request.domain k, Domain.Sendable record
  constraint : ∀ record ∈ request.constraint, ClusterConstraint.Sendable record
  link : ∀ record ∈ request.link, InterRackLink.Sendable record
  linkId : OptionalValid request.linkId
  topologyReason : Sized request.topologyReason
  evidenceSelector : Sized request.evidenceSelector
  racks : Listed maxRacksPerCluster StrongId.Valid request.racks

theorem wire_mutationRequest :
    WireExact MutationRequest.Sendable Wire.writeMutationRequest Wire.readMutationRequest := by
  refine .total wire_enum fun _ => ?_
  refine .field wire_id (fun _ h => h.cluster) fun _ hcluster => ?_
  refine .field wire_authority (fun _ h => h.authority) fun _ hauthority => ?_
  refine .total wire_evidenceStamp fun _ => ?_
  refine .field wire_text (fun _ h => h.reason) fun _ hreason => ?_
  refine .total wire_timestamp fun _ => ?_
  refine .total wire_enum fun _ => ?_
  refine .field wire_readinessContract (fun _ h => h.readinessContract)
    fun _ hreadinessContract => ?_
  refine .field wire_rackReference (fun _ h => h.rackReference) fun _ hrackReference => ?_
  refine .total wire_enum fun _ => ?_
  refine .total (wire_present wire_counter) fun _ => ?_
  refine .total (wire_present wire_counter) fun _ => ?_
  refine .field
    (wire_optional wire_placementDomain) (fun _ h => h.domain .placement)
    fun placement hplacement => ?_
  refine .field
    (wire_optional wire_capacityDomain) (fun _ h => h.domain .capacity) fun capacity hcapacity => ?_
  refine .field
    (wire_optional wire_failureDomain) (fun _ h => h.domain .failure) fun failure hfailure => ?_
  refine .field
    (wire_optional wire_networkDomain) (fun _ h => h.domain .network) fun network hnetwork => ?_
  refine .field
    (wire_optional wire_storageDomain) (fun _ h => h.domain .storage) fun storage hstorage => ?_
  refine .field
    (wire_optional wire_powerDomain) (fun _ h => h.domain .power) fun power hpower => ?_
  refine .field
    (wire_optional wire_coolingDomain) (fun _ h => h.domain .cooling) fun cooling hcooling => ?_
  refine .field
    (wire_optional wire_linkDomain) (fun _ h => h.domain .link) fun linkDomain hlinkDomain => ?_
  refine .field (wire_optional wire_constraint) (fun _ h => h.constraint) fun _ hconstraint => ?_
  refine .field (wire_optional wire_interRackLink) (fun _ h => h.link) fun _ hlink => ?_
  refine .field (wire_optional wire_id) (fun _ h => h.linkId) fun _ hlinkId => ?_
  refine .total (wire_present wire_counter) fun _ => ?_
  refine .field wire_text (fun _ h => h.topologyReason) fun _ htopologyReason => ?_
  refine .total wire_enum fun _ => ?_
  refine .total wire_enum fun _ => ?_
  refine .field wire_text (fun _ h => h.evidenceSelector) fun _ hevidenceSelector => ?_
  refine .last (wire_vector (by decide) wire_id rfl) (fun _ h => h.racks) ?_ fun _ hracks => ?_
  · rintro request ⟨rfl, rfl, rfl, rfl, rfl, rfl, rfl, rfl, rfl, rfl, rfl, rfl, rfl, rfl, rfl,
      rfl, rfl, rfl, rfl, rfl, rfl, rfl, rfl, rfl, rfl, rfl, rfl, rfl, -⟩
    simp only [byKind_apply]
  · refine ⟨by simp [byKind], hcluster, hauthority, hreason, hreadinessContract, hrackReference,
      fun k => ?_, hconstraint, hlink, hlinkId, htopologyReason, hevidenceSelector, hracks⟩
    cases k
    exacts [hplacement, hcapacity, hfailure, hnetwork, hstorage, hpower, hcooling, hlinkDomain]

structure MutationResult.Sendable (result : MutationResult) : Prop where
  error : result.error.Sendable
  explanation : result.explanation.Sendable

theorem wire_mutationResult :
    WireExact MutationResult.Sendable Wire.writeMutationResult Wire.readMutationResult := by
  refine .total wire_enum fun _ => ?_
  refine .total wire_enum fun _ => ?_
  refine .field wire_structuredError (fun _ h => h.error) fun _ herror => ?_
  refine .field wire_explanation (fun _ h => h.explanation) fun _ hexplanation => ?_
  iterate 11 refine .total wire_counter fun _ => ?_
  refine .last wire_enum (fun _ _ => trivial) ?_ fun _ _ => ?_
  · rintro result ⟨rfl, rfl, rfl, rfl, rfl, rfl, rfl, rfl, rfl, rfl, rfl, rfl, rfl, rfl, rfl, -⟩
    rfl
  · exact ⟨by simp, herror, hexplanation⟩

structure ReadValidation.Sendable (validation : ReadValidation) : Prop where
  reasons : Listed maxStaleReasons (· ≤ maxSnapshotStaleReasonRaw) validation.reasons
  subjects : Listed maxDecodedRecords Sized validation.subjects
  explanation : validation.explanation.Sendable

theorem wire_snapshotValidation :
    WireExact ReadValidation.Sendable Wire.writeSnapshotValidation
      Wire.readSnapshotValidation := by
  refine .total wire_boolean fun _ => ?_
  refine .total wire_boolean fun _ => ?_
  refine .field (wire_vector (by decide) (wire_enumNumber _) rfl) (fun _ h => h.reasons)
    fun _ hreasons => ?_
  refine .field (wire_vector (by decide) wire_text rfl) (fun _ h => h.subjects)
    fun _ hsubjects => ?_
  refine .last wire_explanation (fun _ h => h.explanation) ?_ fun _ hexplanation => ?_
  · rintro validation ⟨rfl, rfl, rfl, rfl, -⟩
    rfl
  · exact ⟨by simp, hreasons, hsubjects, hexplanation⟩

/-! ## Messages -/

structure HelloMessage.Sendable (message : HelloMessage) : Prop where
  cluster : message.cluster.Valid
  boot : message.boot.Valid
  role : Sized message.role
  build : Sized message.build

theorem wire_hello : WireExact HelloMessage.Sendable Wire.writeHello Wire.readHello := by
  refine .total wire_u16 fun _ => ?_
  refine .field wire_id (fun _ h => h.cluster) fun _ hcluster => ?_
  refine .field wire_id (fun _ h => h.boot) fun _ hboot => ?_
  refine .field wire_text (fun _ h => h.role) fun _ hrole => ?_
  refine .last wire_text (fun _ h => h.build) ?_ fun _ hbuild => ?_
  · rintro message ⟨rfl, rfl, rfl, rfl, -⟩
    rfl
  · exact ⟨by simp, hcluster, hboot, hrole, hbuild⟩

structure HelloAckMessage.Sendable (message : HelloAckMessage) : Prop where
  cluster : message.cluster.Valid
  detail : Sized message.detail

theorem wire_helloAck :
    WireExact HelloAckMessage.Sendable Wire.writeHelloAck Wire.readHelloAck := by
  refine .total wire_u16 fun _ => ?_
  refine .field wire_id (fun _ h => h.cluster) fun _ hcluster => ?_
  iterate 4 refine .total wire_counter fun _ => ?_
  refine .total wire_enum fun _ => ?_
  refine .total wire_boolean fun _ => ?_
  refine .total wire_enum fun _ => ?_
  refine .last wire_text (fun _ h => h.detail) ?_ fun _ hdetail => ?_
  · rintro message ⟨rfl, rfl, rfl, rfl, rfl, rfl, rfl, rfl, rfl, -⟩
    rfl
  · exact ⟨by simp, hcluster, hdetail⟩

structure RegisterPublisherMessage.Sendable (message : RegisterPublisherMessage) : Prop where
  cluster : message.cluster.Valid
  authority : message.authority.Sendable
  publisher : message.publisher.Valid
  rack : message.rack.Valid
  composition : message.composition.Sendable
  originLabel : Sized message.originLabel

theorem wire_registerPublisher :
    WireExact RegisterPublisherMessage.Sendable Wire.writeRegisterPublisher
      Wire.readRegisterPublisher := by
  refine .field wire_id (fun _ h => h.cluster) fun _ hcluster => ?_
  refine .field wire_authority (fun _ h => h.authority) fun _ hauthority => ?_
  refine .field wire_id (fun _ h => h.publisher) fun _ hpublisher => ?_
  refine .field wire_id (fun _ h => h.rack) fun _ hrack => ?_
  refine .total wire_counter fun _ => ?_
  refine .total wire_enum fun _ => ?_
  refine .field wire_composition (fun _ h => h.composition) fun _ hcomposition => ?_
  refine .field wire_text (fun _ h => h.originLabel) fun _ horiginLabel => ?_
  refine .last wire_timestamp (fun _ _ => trivial) ?_ fun _ _ => ?_
  · rintro message ⟨rfl, rfl, rfl, rfl, rfl, rfl, rfl, rfl, -⟩
    rfl
  · exact ⟨by simp, hcluster, hauthority, hpublisher, hrack, hcomposition, horiginLabel⟩

structure RegisterAckMessage.Sendable (message : RegisterAckMessage) : Prop where
  detail : Sized message.detail

theorem wire_registerAck :
    WireExact RegisterAckMessage.Sendable Wire.writeRegisterAck Wire.readRegisterAck := by
  refine .total wire_boolean fun _ => ?_
  refine .total wire_enum fun _ => ?_
  iterate 5 refine .total wire_counter fun _ => ?_
  refine .last wire_text (fun _ h => h.detail) ?_ fun _ hdetail => ?_
  · rintro message ⟨rfl, rfl, rfl, rfl, rfl, rfl, rfl, -⟩
    rfl
  · exact ⟨by simp, ⟨hdetail⟩⟩

structure HeartbeatMessage.Sendable (message : HeartbeatMessage) : Prop where
  cluster : message.cluster.Valid
  authority : message.authority.Sendable

theorem wire_heartbeat :
    WireExact HeartbeatMessage.Sendable Wire.writeHeartbeat Wire.readHeartbeat := by
  refine .field wire_id (fun _ h => h.cluster) fun _ hcluster => ?_
  refine .field wire_authority (fun _ h => h.authority) fun _ hauthority => ?_
  refine .last wire_timestamp (fun _ _ => trivial) ?_ fun _ _ => ?_
  · rintro message ⟨rfl, rfl, -⟩
    rfl
  · exact ⟨by simp, hcluster, hauthority⟩

structure HeartbeatAckMessage.Sendable (message : HeartbeatAckMessage) : Prop where
  detail : Sized message.detail

theorem wire_heartbeatAck :
    WireExact HeartbeatAckMessage.Sendable Wire.writeHeartbeatAck Wire.readHeartbeatAck := by
  iterate 3 refine .total wire_counter fun _ => ?_
  refine .total wire_enum fun _ => ?_
  refine .total wire_boolean fun _ => ?_
  refine .total wire_enum fun _ => ?_
  refine .last wire_text (fun _ h => h.detail) ?_ fun _ hdetail => ?_
  · rintro message ⟨rfl, rfl, rfl, rfl, rfl, rfl, -⟩
    rfl
  · exact ⟨by simp, ⟨hdetail⟩⟩

structure SnapshotResponseMessage.Sendable (message : SnapshotResponseMessage) : Prop where
  detail : Sized message.detail
  view : message.view.Sendable

theorem wire_snapshotResponse :
    WireExact SnapshotResponseMessage.Sendable Wire.writeSnapshotResponse
      Wire.readSnapshotResponse := by
  refine .total wire_boolean fun _ => ?_
  refine .total wire_enum fun _ => ?_
  refine .field wire_text (fun _ h => h.detail) fun _ hdetail => ?_
  refine .last wire_snapshotView (fun _ h => h.view) ?_ fun _ hview => ?_
  · rintro message ⟨rfl, rfl, rfl, -⟩
    rfl
  · exact ⟨by simp, hdetail, hview⟩

structure RevalidateRequestMessage.Sendable (message : RevalidateRequestMessage) : Prop where
  cluster : message.cluster.Valid
  authority : message.authority.Sendable
  racks : Listed maxRacksPerCluster StrongId.Valid message.racks

theorem wire_revalidateRequest :
    WireExact RevalidateRequestMessage.Sendable Wire.writeRevalidateRequest
      Wire.readRevalidateRequest := by
  refine .field wire_id (fun _ h => h.cluster) fun _ hcluster => ?_
  refine .field wire_authority (fun _ h => h.authority) fun _ hauthority => ?_
  refine .last (wire_vector (by decide) wire_id rfl) (fun _ h => h.racks) ?_ fun _ hracks => ?_
  · rintro message ⟨rfl, rfl, -⟩
    rfl
  · exact ⟨by simp, hcluster, hauthority, hracks⟩

structure RevalidateResponseMessage.Sendable (message : RevalidateResponseMessage) : Prop where
  detail : Sized message.detail
  readiness : message.readiness.Sendable

theorem wire_revalidateResponse :
    WireExact RevalidateResponseMessage.Sendable Wire.writeRevalidateResponse
      Wire.readRevalidateResponse := by
  refine .total wire_boolean fun _ => ?_
  refine .total wire_enum fun _ => ?_
  refine .field wire_text (fun _ h => h.detail) fun _ hdetail => ?_
  refine .total wire_enum fun _ => ?_
  refine .last wire_readinessEvaluation (fun _ h => h.readiness) ?_ fun _ hreadiness => ?_
  · rintro message ⟨rfl, rfl, rfl, rfl, -⟩
    rfl
  · exact ⟨by simp, hdetail, hreadiness⟩

/-! ## Payloads -/

/-- The messages of a kind that can be sent: identities are set, texts and lists are
within their bounds. -/
def MessageKind.Sendable : (k : MessageKind) → k.Message → Prop
  | .hello => HelloMessage.Sendable
  | .helloAck => HelloAckMessage.Sendable
  | .registerPublisher => RegisterPublisherMessage.Sendable
  | .registerAck => RegisterAckMessage.Sendable
  | .publishRequest => MutationRequest.Sendable
  | .publishResult => MutationResult.Sendable
  | .heartbeat => HeartbeatMessage.Sendable
  | .heartbeatAck => HeartbeatAckMessage.Sendable
  | .snapshotRequest => StrongId.Valid
  | .snapshotResponse => SnapshotResponseMessage.Sendable
  | .validateSnapshotRequest => SnapshotView.Sendable
  | .validateSnapshotResponse => ReadValidation.Sendable
  | .revalidateRequest => RevalidateRequestMessage.Sendable
  | .revalidateResponse => RevalidateResponseMessage.Sendable
  | .shutdown => Sized
  | .error => StructuredError.Sendable

theorem wire_codec (k : MessageKind) : WireExact k.Sendable k.codec.write k.codec.read := by
  cases k
  case hello => exact wire_hello
  case helloAck => exact wire_helloAck
  case registerPublisher => exact wire_registerPublisher
  case registerAck => exact wire_registerAck
  case publishRequest => exact wire_mutationRequest
  case publishResult => exact wire_mutationResult
  case heartbeat => exact wire_heartbeat
  case heartbeatAck => exact wire_heartbeatAck
  case snapshotRequest => exact wire_id
  case snapshotResponse => exact wire_snapshotResponse
  case validateSnapshotRequest => exact wire_snapshotView
  case validateSnapshotResponse => exact wire_snapshotValidation
  case revalidateRequest => exact wire_revalidateRequest
  case revalidateResponse => exact wire_revalidateResponse
  case shutdown => exact wire_text
  case error => exact wire_structuredError

/-- The bytes of the version tag. -/
def versionTag : Text := storeUint 2 protocolVersion.toNat

theorem spells_versionTag : Spells maxWriterBytes Wire.writeVersionTag versionTag := spells_u16 _

theorem run_readVersionTag {input rest : Text} :
    Wire.readVersionTag.run input = .ok ((), rest) ↔ input = versionTag ++ rest := by
  constructor
  · intro hrun
    obtain ⟨version, mid, hversion, hensure⟩ := run_bind_eq_ok.mp hrun
    obtain ⟨-, -, bytes, rfl, hbytes⟩ := wire_u16.decoded _ _ _ hversion
    cases hcheck : version == protocolVersion with
    | false =>
      rw [hcheck] at hensure
      cases hensure
    | true =>
      rw [hcheck] at hensure
      obtain ⟨-, rfl⟩ := Prod.mk.inj (Except.ok.inj hensure)
      obtain rfl := eq_of_beq hcheck
      rw [spells_versionTag.unique hbytes (by decide)]
  · rintro rfl
    obtain ⟨bytes, hbytes, hread⟩ := wire_u16.encoded protocolVersion trivial trivial
    obtain rfl := spells_versionTag.unique hbytes (by decide)
    exact run_bind_eq_ok.mpr ⟨protocolVersion, rest, hread rest, rfl⟩

section Payload

variable {α : Type} {V : α → Prop} {write : α → Write} {read : WireReader α} {subject : String}
  {message : α} {payload : Text}

theorem decodeMessage_eq_ok :
    Wire.decodeMessage subject read payload = .ok message ↔
      ∃ body, payload = versionTag ++ body ∧ read.run body = .ok (message, []) := by
  unfold Wire.decodeMessage
  constructor
  · intro h
    cases htag : Wire.readVersionTag.run payload with
    | error status =>
      rw [htag] at h
      cases h
    | ok tagged =>
      obtain ⟨⟨⟩, body⟩ := tagged
      cases hbody : read.run body with
      | error status => simp only [htag, hbody, reduceCtorEq] at h
      | ok result =>
        obtain ⟨message', rest⟩ := result
        simp only [htag, hbody] at h
        cases rest with
        | cons byte rest => cases h
        | nil =>
          obtain rfl := Except.ok.inj h
          exact ⟨body, run_readVersionTag.mp htag, hbody⟩
  · rintro ⟨body, hpayload, hbody⟩
    rw [run_readVersionTag.mpr hpayload]
    simp only [hbody]
    rfl

/-- A message that can be sent has an encoding. -/
theorem exists_payload (h : WireExact V write read) (hmessage : V message) :
    ∃ payload, Spells maxWriterBytes (Wire.writeVersionTag >>= fun _ => write message) payload ∧
      Wire.decodeMessage subject read payload = .ok message := by
  obtain ⟨body, hbody, hread⟩ := h.encoded message trivial hmessage
  refine ⟨versionTag ++ body, spells_versionTag.bind hbody, decodeMessage_eq_ok.mpr ?_⟩
  exact ⟨body, rfl, by simpa using hread []⟩

/-- What is decoded can be sent, and is spelled as it was read. -/
theorem spells_of_decodeMessage (h : WireExact V write read)
    (hdecode : Wire.decodeMessage subject read payload = .ok message) :
    V message ∧
      Spells maxWriterBytes (Wire.writeVersionTag >>= fun _ => write message) payload := by
  obtain ⟨body, rfl, hbody⟩ := decodeMessage_eq_ok.mp hdecode
  obtain ⟨-, hmessage, bytes, hbytes, hspells⟩ := h.decoded _ _ _ hbody
  rw [List.append_nil] at hbytes
  subst hbytes
  exact ⟨hmessage, spells_versionTag.bind hspells⟩

theorem encodeMessage_of_spells
    (h : Spells maxWriterBytes (Wire.writeVersionTag >>= fun _ => write message) payload) :
    Wire.encodeMessage write message = if payload.length ≤ maxWriterBytes then payload else [] := by
  unfold Wire.encodeMessage
  obtain ⟨hfits, hoverflows⟩ := h.output_empty
  by_cases hle : payload.length ≤ maxWriterBytes
  · obtain ⟨hok, hdata⟩ := hfits hle
    rw [if_pos hle, ← hdata]
    exact if_neg (by rw [hok]; exact Bool.false_ne_true)
  · rw [if_neg hle]
    exact if_pos (hoverflows (Nat.not_le.mp hle))

end Payload

/-- A message that can be sent is decoded from its encoding, unless that is of more
than 256 MiB, which the encoder does not give; what is decoded can be sent, and is
encoded as it was read. -/
theorem payload_exact (k : MessageKind) (message : k.Message) :
    (k.Sendable message → k.decode (k.encode message) = .ok message ∨
      k.encode message = [] ∧
        ∃ payload, k.decode payload = .ok message ∧ maxWriterBytes < payload.length) ∧
    ∀ payload, k.decode payload = .ok message → k.Sendable message ∧
      (payload.length ≤ maxWriterBytes → k.encode message = payload) := by
  constructor
  · intro hmessage
    obtain ⟨payload, hspells, hdecode⟩ := exists_payload (wire_codec k) hmessage
    have hencode := encodeMessage_of_spells hspells
    by_cases hle : payload.length ≤ maxWriterBytes
    · rw [if_pos hle] at hencode
      exact .inl (by rw [MessageKind.encode, hencode]; exact hdecode)
    · rw [if_neg hle] at hencode
      exact .inr ⟨hencode, payload, hdecode, Nat.not_le.mp hle⟩
  · intro payload hdecode
    obtain ⟨hmessage, hspells⟩ := spells_of_decodeMessage (wire_codec k) hdecode
    refine ⟨hmessage, fun hle => ?_⟩
    rw [MessageKind.encode, encodeMessage_of_spells hspells, if_pos hle]

/-- A heartbeat of a rack of the cluster. -/
def rackHeartbeat : HeartbeatMessage where
  cluster := .named "alpha"
  authority :=
    { clusterEpoch := .fromRaw 1, boot := some (.named "b1"), publisher := some (.named "p1"),
      rack := some (.named "r1"), rackGeneration := some (.fromRaw 2) }
  sentAt := ⟨5⟩

theorem payload_exact_heartbeat :
    MessageKind.decode .heartbeat (MessageKind.encode .heartbeat rackHeartbeat) =
      .ok rackHeartbeat := by
  have hsendable : MessageKind.Sendable .heartbeat rackHeartbeat :=
    ⟨by decide +kernel, by decide +kernel, by decide +kernel, by decide +kernel⟩
  rcases (payload_exact .heartbeat rackHeartbeat).1 hsendable with hok | ⟨hnil, -⟩
  · exact hok
  · exact absurd hnil (by decide +kernel)

/-! ## Messages without a round trip -/

/-- A heartbeat of an author that is there and has no identity. -/
def namelessHeartbeat : HeartbeatMessage where
  cluster := .named "alpha"
  authority := { boot := some .unset }

/-- A validation of more than 256 MiB, with fewer subjects than may be sent. -/
def longValidation : ReadValidation where
  subjects := List.replicate 65537 (List.replicate maxEncodedStringBytes 0)

theorem sendable_longValidation : longValidation.Sendable where
  reasons := ⟨Nat.zero_le _, fun _ h => (nomatch h)⟩
  subjects := by
    refine ⟨by rw [longValidation, List.length_replicate]; decide, fun subject hsubject => ?_⟩
    rw [List.eq_of_mem_replicate hsubject, Sized, List.length_replicate]
  explanation :=
    ⟨Nat.zero_le _, Nat.zero_le _, Nat.zero_le _, Nat.zero_le _, fun _ h => (nomatch h)⟩

theorem spells_text {value : Text} (h : Sized value) :
    Spells maxWriterBytes (ByteWriter.text value)
      (storeUint 4 (UInt32.ofNat value.length).toNat ++ value) := by
  have hwrite : ByteWriter.text value = (ByteWriter.u32 (.ofNat value.length) >>= fun _ =>
      if value.isEmpty then pure () else emit maxWriterBytes value) :=
    if_neg (Nat.not_lt.mpr h)
  rw [hwrite]
  refine (spells_u32 _).bind ?_
  cases value with
  | nil => exact spells_pure
  | cons byte value => exact spells_emit _

/-- The subjects alone exceed the limit of the output. -/
theorem encode_longValidation :
    MessageKind.encode .validateSnapshotResponse longValidation = [] := by
  obtain ⟨explained, hexplained, -⟩ :=
    wire_explanation.encoded longValidation.explanation trivial sendable_longValidation.explanation
  have hsubjects := spells_forM fun subject hsubject =>
    spells_text (sendable_longValidation.subjects.2 subject hsubject)
  have hlength : (longValidation.subjects.flatMap fun subject =>
      storeUint 4 (UInt32.ofNat subject.length).toNat ++ subject).length = 65537 * 4100 := by
    rw [longValidation, List.length_flatMap, List.map_replicate, List.sum_replicate_nat,
      List.length_append, length_storeUint, List.length_replicate]
    rfl
  have hspells : Spells maxWriterBytes
      (Wire.writeVersionTag >>= fun _ => Wire.writeSnapshotValidation longValidation)
      (versionTag ++ ([0] ++ ([0] ++ ((storeUint 4 0 ++ []) ++ ((storeUint 4 65537 ++
        longValidation.subjects.flatMap fun subject =>
          storeUint 4 (UInt32.ofNat subject.length).toNat ++ subject) ++ explained))))) := by
    refine spells_versionTag.bind ?_
    refine (spells_emit _).bind ?_
    refine (spells_emit _).bind ?_
    refine ((spells_u32 0).bind spells_pure).bind ?_
    refine Spells.bind ?_ hexplained
    have hcount : WireWriter.count longValidation.subjects.length maxDecodedRecords =
        ByteWriter.u32 65537 := by
      rw [longValidation, List.length_replicate]
      rfl
    rw [WireWriter.vector, hcount]
    exact (spells_u32 65537).bind hsubjects
  refine (encodeMessage_of_spells hspells).trans (if_neg ?_)
  simp only [List.length_append, hlength, maxWriterBytes, maxPersistenceBytes]
  omega

/-- An author that is present must have an identity, and a message of more than
256 MiB is not encoded. -/
theorem payload_round_trip_fails :
    (namelessHeartbeat.cluster.Valid ∧
      (MessageKind.decode .heartbeat (MessageKind.encode .heartbeat namelessHeartbeat)).isOk =
        false) ∧
    (MessageKind.Sendable .validateSnapshotResponse longValidation ∧
      (MessageKind.decode .validateSnapshotResponse
        (MessageKind.encode .validateSnapshotResponse longValidation)).isOk = false) := by
  refine ⟨⟨by decide +kernel, by decide +kernel⟩, sendable_longValidation, ?_⟩
  rw [encode_longValidation]
  rfl

end ClusterFabric
