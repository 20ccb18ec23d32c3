import ClusterFabric.Model.Enumerators
import ClusterFabric.Verify.Payloads

/-! # Enumerators of decoded messages

A typed reader of an enumeration is `read_enum` with the maximum of the table, and the
maximum is the last enumerator of every type but one: a stale reason may be one above
the last. So a decoded message has an undeclared enumerator exactly if it is the answer
to a validation and one of its reasons is that number
(`decoded_enumerators_declared_iff`). The reasons are bytes at a fixed place of the
payload, behind the version, two flags and their count.
-/

namespace ClusterFabric

open Lib Codec
open Enumerated (fields)

/-! ## The table -/

/-- A number that passes the check of its type is declared, but for the number above the
last stale reason. -/
theorem WireEnum.lt_declared_iff (type : WireEnum) (raw : UInt8) (hraw : raw ≤ type.maximum) :
    raw.toNat < type.declared ↔ ¬(type = .snapshotStaleReason ∧ raw = 24) := by
  have hle : raw.toNat ≤ type.maximum.toNat := UInt8.le_iff_toNat_le.mp hraw
  by_cases htype : type = .snapshotStaleReason
  · subst htype
    have hmaximum : raw.toNat ≤ 24 := hle
    have hraw' : raw = 24 ↔ raw.toNat = 24 := UInt8.toNat_inj.symm
    change raw.toNat < 24 ↔ _
    rw [hraw', eq_self, true_and]
    omega
  · have hlast : type.maximum.toNat < type.declared := by
      cases type
      case snapshotStaleReason => exact absurd rfl htype
      all_goals decide
    exact ⟨fun _ h => htype h.1, fun _ => lt_of_le_of_lt hle hlast⟩

/-! ## Typed fields -/

/-- Every field holds an enumerator. -/
def AllDeclared (l : List EnumField) : Prop := ∀ field ∈ l, field.Declared

theorem AllDeclared.append {l l' : List EnumField} (h : AllDeclared l) (h' : AllDeclared l') :
    AllDeclared (l ++ l') := by
  intro field hfield
  rcases List.mem_append.mp hfield with hl | hl'
  · exact h field hl
  · exact h' field hl'

theorem allDeclared_flatMap {α : Type} {f : α → List EnumField} {values : List α}
    (h : ∀ value ∈ values, AllDeclared (f value)) : AllDeclared (values.flatMap f) := by
  intro field hfield
  obtain ⟨value, hvalue, hmem⟩ := List.mem_flatMap.mp hfield
  exact h value hvalue field hmem

/-- The fields of the type are typed, so they hold enumerators. -/
class TypedFields (α : Type) [Enumerated α] : Prop where
  declared : ∀ value : α, AllDeclared (fields value)

theorem typed {α : Type} [Enumerated α] [TypedFields α] (value : α) :
    AllDeclared (fields value) :=
  TypedFields.declared value

instance {E : Type} [DecidableEq E] [Enumeration E] [OnWire E] : TypedFields E where
  declared value := by
    intro field hfield
    obtain rfl := List.mem_singleton.mp hfield
    change Enumeration.raw value < (OnWire.type E).declared
    rw [OnWire.declared_eq]
    exact Enumeration.raw_lt value

instance {α : Type} [Enumerated α] [TypedFields α] : TypedFields (List α) where
  declared _ := allDeclared_flatMap fun value _ => typed value

instance {α : Type} [Enumerated α] [TypedFields α] : TypedFields (Option α) where
  declared _ := allDeclared_flatMap fun value _ => typed value

instance : TypedFields EvidenceStamp := ⟨fun _ => (typed _).append (typed _)⟩

instance : TypedFields StructuredError := ⟨fun _ => (typed _).append (typed _)⟩

instance : TypedFields ReadinessContract := ⟨fun _ => (typed _).append (typed _)⟩

instance : TypedFields ReadinessEvaluation := ⟨fun evaluation => typed evaluation.lifecycle⟩

instance : TypedFields DomainHeader := ⟨fun header => typed header.evidence⟩

instance : TypedFields CapacityQuantity := ⟨fun quantity => typed quantity.provenance⟩

instance : TypedFields CapacityDetail := ⟨fun _ => (typed _).append (typed _)⟩

instance : (k : DomainKind) → TypedFields (DomainDetail k)
  | .placement => inferInstanceAs (TypedFields PlacementDomainClass)
  | .capacity => inferInstanceAs (TypedFields CapacityDetail)
  | .failure => inferInstanceAs (TypedFields FailureDomainClass)
  | .network => inferInstanceAs (TypedFields ConnectivityClass)
  | .storage | .power | .cooling | .link => ⟨fun _ _ h => (nomatch h)⟩

instance {k : DomainKind} : TypedFields (Domain k) := ⟨fun _ => (typed _).append (typed _)⟩

instance : TypedFields ClusterConstraint := ⟨fun _ => (typed _).append (typed _)⟩

instance : TypedFields InterRackLink :=
  ⟨fun _ => ((((((typed _).append (typed _)).append (typed _)).append (typed _)).append
    (typed _)).append (typed _)).append (typed _)⟩

instance : TypedFields AcceleratorClassSummary := ⟨fun summary => typed summary.vendor⟩

instance : TypedFields RackCompositionSummary := ⟨fun _ => (typed _).append (typed _)⟩

instance : TypedFields RackEndpoint := ⟨fun _ => (typed _).append (typed _)⟩

instance : TypedFields RackFailureDomainHint := ⟨fun _ => (typed _).append (typed _)⟩

instance : TypedFields RackReference :=
  ⟨fun _ => ((((((typed _).append (typed _)).append (typed _)).append (typed _)).append
    (typed _)).append (typed _)).append (typed _)⟩

instance : TypedFields RackGenerationBinding := ⟨fun _ => (typed _).append (typed _)⟩

instance : TypedFields SnapshotView := ⟨fun _ => (typed _).append (typed _)⟩

instance : TypedFields MutationRequest :=
  ⟨fun request => ((((((((((typed _).append (typed _)).append (typed _)).append
    (typed _)).append (typed _)).append (typed _)).append
    (allDeclared_flatMap fun k _ => typed (request.domain k))).append (typed _)).append
    (typed _)).append (typed _)).append (typed _)⟩

instance : TypedFields MutationResult :=
  ⟨fun _ => (((typed _).append (typed _)).append (typed _)).append (typed _)⟩

instance : TypedFields HelloAckMessage := ⟨fun _ => (typed _).append (typed _)⟩

instance : TypedFields RegisterPublisherMessage := ⟨fun _ => (typed _).append (typed _)⟩

instance : TypedFields RegisterAckMessage := ⟨fun message => typed message.reason⟩

instance : TypedFields HeartbeatAckMessage := ⟨fun _ => (typed _).append (typed _)⟩

instance : TypedFields SnapshotResponseMessage := ⟨fun _ => (typed _).append (typed _)⟩

instance : TypedFields RevalidateResponseMessage :=
  ⟨fun _ => ((typed _).append (typed _)).append (typed _)⟩

/-- Every message but the answer to a validation has typed fields only. -/
theorem allDeclared_enumFields {k : MessageKind} (hk : k ≠ .validateSnapshotResponse)
    (message : k.Message) : AllDeclared (k.enumFields message) := by
  cases k
  case validateSnapshotResponse => exact absurd rfl hk
  case hello | heartbeat | snapshotRequest | revalidateRequest | shutdown =>
    exact fun _ h => (nomatch h)
  case helloAck => exact typed (α := HelloAckMessage) message
  case registerPublisher => exact typed (α := RegisterPublisherMessage) message
  case registerAck => exact typed (α := RegisterAckMessage) message
  case publishRequest => exact typed (α := MutationRequest) message
  case publishResult => exact typed (α := MutationResult) message
  case heartbeatAck => exact typed (α := HeartbeatAckMessage) message
  case snapshotResponse => exact typed (α := SnapshotResponseMessage) message
  case validateSnapshotRequest => exact typed (α := SnapshotView) message
  case revalidateResponse => exact typed (α := RevalidateResponseMessage) message
  case error => exact typed (α := StructuredError) message

/-! ## The reasons of a validation -/

/-- The reasons in the payload of an answer to a validation: as many bytes as the number in
front of them says. -/
def reasonBytes (payload : Text) : Text :=
  (payload.drop 8).take (loadUint ((payload.drop 4).take 4))

theorem boolean_bytes {value : Bool} {input rest : Text}
    (h : WireReader.boolean.run input = .ok (value, rest)) : ∃ byte, input = byte :: rest := by
  obtain ⟨-, -, bytes, rfl, hbytes⟩ := wire_boolean.decoded _ _ _ h
  rw [(spells_emit _).unique hbytes (show 1 ≤ maxWriterBytes by decide)]
  exact ⟨_, rfl⟩

theorem reasons_bytes {reasons : List UInt8} {input rest : Text}
    (h : (WireReader.vector maxStaleReasons Wire.readStaleReason).run input =
      .ok (reasons, rest)) :
    reasons.length ≤ 25 ∧ input = storeUint 4 reasons.length ++ reasons ++ rest := by
  obtain ⟨-, ⟨hlength, -⟩, bytes, rfl, hbytes⟩ :=
    (wire_vector (by decide) (wire_enumNumber _) rfl).decoded _ _ _ h
  have hspells : Spells maxWriterBytes (WireWriter.vector maxStaleReasons ByteWriter.u8 reasons)
      (storeUint 4 (UInt32.ofNat reasons.length).toNat ++ reasons.flatMap fun raw => [raw]) := by
    have hcount : WireWriter.count reasons.length maxStaleReasons =
        ByteWriter.u32 (.ofNat reasons.length) := if_neg (Nat.not_lt.mpr hlength)
    rw [WireWriter.vector, hcount]
    exact (spells_u32 _).bind (spells_forM fun _ _ => spells_emit _)
  have hnumber : (UInt32.ofNat reasons.length).toNat = reasons.length := by
    rw [UInt32.toNat_ofNat', Nat.mod_eq_of_lt (lt_of_le_of_lt hlength (by decide))]
  rw [hnumber, List.flatMap_singleton'] at hspells
  refine ⟨hlength, ?_⟩
  rw [hspells.unique hbytes]
  rw [List.length_append, length_storeUint]
  exact le_trans (Nat.add_le_add_left hlength 4) (by decide)

theorem reasonBytes_eq {payload : Text} {validation : ReadValidation}
    (h : MessageKind.decode .validateSnapshotResponse payload = .ok validation) :
    reasonBytes payload = validation.reasons := by
  obtain ⟨body, rfl, hbody⟩ := decodeMessage_eq_ok.mp h
  obtain ⟨current, _, hcurrent, hbody⟩ := run_bind_eq_ok.mp hbody
  obtain ⟨consumable, _, hconsumable, hbody⟩ := run_bind_eq_ok.mp hbody
  obtain ⟨reasons, rest, hreasons, hbody⟩ := run_bind_eq_ok.mp hbody
  obtain ⟨subjects, _, -, hbody⟩ := run_bind_eq_ok.mp hbody
  obtain ⟨explanation, _, -, hbody⟩ := run_bind_eq_ok.mp hbody
  obtain ⟨rfl, -⟩ := Prod.mk.inj (Except.ok.inj hbody)
  obtain ⟨first, rfl⟩ := boolean_bytes hcurrent
  obtain ⟨second, rfl⟩ := boolean_bytes hconsumable
  obtain ⟨hlength, rfl⟩ := reasons_bytes hreasons
  have htag : versionTag.length = 2 := length_storeUint 2 _
  have hcount : (versionTag ++ first :: second ::
      (storeUint 4 reasons.length ++ reasons ++ rest)).drop 4 =
      storeUint 4 reasons.length ++ (reasons ++ rest) := by
    rw [List.drop_append, htag, List.drop_of_length_le (by rw [htag]; decide), List.append_assoc]
    rfl
  have hbehind : (versionTag ++ first :: second ::
      (storeUint 4 reasons.length ++ reasons ++ rest)).drop 8 = reasons ++ rest := by
    rw [show (8 : Nat) = 4 + 4 from rfl, ← List.drop_drop, hcount,
      List.drop_left' (length_storeUint 4 _)]
  rw [reasonBytes, hcount, hbehind, List.take_left' (length_storeUint 4 _),
    loadUint_storeUint (lt_of_le_of_lt hlength (by decide)), List.take_left]

/-! ## Decoded messages -/

/-- The payload is an answer to a validation with the number above the last stale reason
among its reasons. -/
def HasUndeclaredReason (k : MessageKind) (payload : Text) : Prop :=
  k = .validateSnapshotResponse ∧ 24 ∈ reasonBytes payload

/-- Every enumerated field of a decoded message holds an enumerator, unless the payload is an
answer to a validation with a reason of 24. -/
theorem decoded_enumerators_declared_iff (k : MessageKind) (payload : Text)
    (message : k.Message) (hdecode : k.decode payload = .ok message) :
    (∀ field ∈ k.enumFields message, field.Declared) ↔ ¬HasUndeclaredReason k payload := by
  by_cases hk : k = .validateSnapshotResponse
  · subst hk
    have hreasons := reasonBytes_eq hdecode
    have hbounded := (payload_exact .validateSnapshotResponse message).2 payload hdecode
    have hle : ∀ raw ∈ message.reasons, raw ≤ WireEnum.snapshotStaleReason.maximum :=
      hbounded.1.reasons.2
    have hfields : (∀ field ∈ MessageKind.enumFields .validateSnapshotResponse message,
        field.Declared) ↔ ∀ raw ∈ message.reasons,
          raw.toNat < WireEnum.snapshotStaleReason.declared := by
      exact List.forall_mem_map
    rw [hfields, HasUndeclaredReason, hreasons]
    constructor
    · rintro h ⟨-, hmem⟩
      exact absurd (h 24 hmem) (by decide)
    · intro h raw hraw
      rw [WireEnum.lt_declared_iff _ raw (hle raw hraw)]
      rintro ⟨-, rfl⟩
      exact h ⟨rfl, hraw⟩
  · exact ⟨fun _ h => hk h.1, fun _ => allDeclared_enumFields hk message⟩

/-- A validation with one reason, as it is sent. -/
def reported (reason : UInt8) : Text :=
  MessageKind.encode .validateSnapshotResponse { reasons := [reason] }

theorem reported_bytes :
    reported 23 ≠ [] ∧ reported 24 ≠ [] ∧ 24 ∉ reasonBytes (reported 23) := by
  decide +kernel

theorem decode_reported {reason : UInt8} (h : reason ≤ maxSnapshotStaleReasonRaw)
    (hne : reported reason ≠ []) :
    MessageKind.decode .validateSnapshotResponse (reported reason) =
      .ok { reasons := [reason] } := by
  have hsendable : MessageKind.Sendable .validateSnapshotResponse { reasons := [reason] } := by
    refine ⟨⟨show 1 ≤ maxStaleReasons by decide, ?_⟩, ⟨Nat.zero_le _, fun _ h => (nomatch h)⟩,
      ⟨Nat.zero_le _, Nat.zero_le _, Nat.zero_le _, Nat.zero_le _, fun _ h => (nomatch h)⟩⟩
    intro other hother
    rw [List.mem_singleton.mp hother]
    exact h
  rcases (payload_exact .validateSnapshotResponse { reasons := [reason] }).1 hsendable with
    hok | ⟨hnil, -⟩
  · exact hok
  · exact absurd hnil hne

/-- The last stale reason passes, and is declared. -/
theorem decoded_enumerators_wrongCluster :
    MessageKind.decode .validateSnapshotResponse (reported 23) = .ok { reasons := [23] } ∧
      ∀ field ∈ MessageKind.enumFields .validateSnapshotResponse { reasons := [23] },
        field.Declared := by
  have hdecode := decode_reported (by decide) reported_bytes.1
  refine ⟨hdecode, ?_⟩
  rw [decoded_enumerators_declared_iff .validateSnapshotResponse (reported 23) _ hdecode]
  exact fun h => reported_bytes.2.2 h.2

/-- The number above it passes too. -/
theorem undeclared_reason_decoded :
    MessageKind.decode .validateSnapshotResponse (reported 24) = .ok { reasons := [24] } ∧
      ¬∀ field ∈ MessageKind.enumFields .validateSnapshotResponse { reasons := [24] },
        field.Declared := by
  refine ⟨decode_reported (by decide) reported_bytes.2.1, fun h => ?_⟩
  exact absurd (h ⟨.snapshotStaleReason, 24⟩ (List.mem_singleton.mpr rfl)) (by decide)

end ClusterFabric
