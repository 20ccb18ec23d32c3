import ClusterFabric.Model.Message

/-! # Enumerators on the wire

The enumerated fields of every message of `protocol.cpp` with their numbers, nested
records included.
-/

namespace ClusterFabric

open Lib Codec

/-- An enumerated field and the number it holds. -/
structure EnumField where
  type : WireEnum
  raw : Nat
  deriving DecidableEq

/-- The number is that of an enumerator. -/
def EnumField.Declared (field : EnumField) : Prop := field.raw < field.type.declared

instance : DecidablePred EnumField.Declared := fun field =>
  inferInstanceAs (Decidable (field.raw < field.type.declared))

/-- The enumerated fields of a value, nested ones included. -/
class Enumerated (α : Type) where
  fields : α → List EnumField

open Enumerated (fields)

instance {E : Type} [DecidableEq E] [Enumeration E] [OnWire E] : Enumerated E where
  fields value := [⟨OnWire.type E, Enumeration.raw value⟩]

instance {α : Type} [Enumerated α] : Enumerated (List α) where
  fields values := values.flatMap fields

instance {α : Type} [Enumerated α] : Enumerated (Option α) where
  fields value := value.toList.flatMap fields

instance : Enumerated EvidenceStamp where
  fields stamp := fields stamp.provenance ++ fields stamp.freshness

instance : Enumerated StructuredError where
  fields error := fields error.category ++ fields error.stage

instance : Enumerated ReadinessContract where
  fields contract :=
    fields contract.requiredPlacementDomainClasses ++ fields contract.requiredFailureDomainClasses

instance : Enumerated ReadinessEvaluation where
  fields evaluation := fields evaluation.lifecycle

instance : Enumerated DomainHeader where
  fields header := fields header.evidence

instance : Enumerated CapacityQuantity where
  fields quantity := fields quantity.provenance

instance : Enumerated CapacityDetail where
  fields detail := fields detail.klass ++ fields detail.quantities

instance : (k : DomainKind) → Enumerated (DomainDetail k)
  | .placement => inferInstanceAs (Enumerated PlacementDomainClass)
  | .capacity => inferInstanceAs (Enumerated CapacityDetail)
  | .failure => inferInstanceAs (Enumerated FailureDomainClass)
  | .network => inferInstanceAs (Enumerated ConnectivityClass)
  | .storage | .power | .cooling | .link => ⟨fun _ => []⟩

instance {k : DomainKind} : Enumerated (Domain k) where
  fields domain := fields domain.detail ++ fields domain.header

instance : Enumerated ClusterConstraint where
  fields constraint := fields constraint.kind ++ fields constraint.header

instance : Enumerated InterRackLink where
  fields link :=
    fields link.direction ++ fields link.connectivity ++ fields link.bandwidthClass ++
      fields link.latencyClass ++ fields link.reachability ++ fields link.health ++
      fields link.header

instance : Enumerated AcceleratorClassSummary where
  fields summary := fields summary.vendor

instance : Enumerated RackCompositionSummary where
  fields composition := fields composition.accelerators ++ fields composition.provenance

instance : Enumerated RackEndpoint where
  fields endpoint := fields endpoint.connectivity ++ fields endpoint.evidence

instance : Enumerated RackFailureDomainHint where
  fields hint := fields hint.klass ++ fields hint.evidence

instance : Enumerated RackReference where
  fields reference :=
    fields reference.rackLifecycle ++ fields reference.currentness ++
      fields reference.composition ++ fields reference.endpoints ++
      fields reference.failureDomainHints ++ fields reference.evidence ++ fields reference.health

instance : Enumerated RackGenerationBinding where
  fields binding := fields binding.membership ++ fields binding.currentness

instance : Enumerated SnapshotView where
  fields view := fields view.lifecycle ++ fields view.rackBindings

instance : Enumerated MutationRequest where
  fields request :=
    fields request.kind ++ fields request.evidence ++ fields request.declaredLifecycle ++
      fields request.readinessContract ++ fields request.rackReference ++
      fields request.membership ++ (DomainKind.all.flatMap fun k => fields (request.domain k)) ++
      fields request.constraint ++ fields request.link ++ fields request.health ++
      fields request.reachability

instance : Enumerated MutationResult where
  fields result :=
    fields result.outcome ++ fields result.reason ++ fields result.error ++
      fields result.lifecycle

/-- The reasons are read as numbers. -/
instance : Enumerated ReadValidation where
  fields validation := validation.reasons.map fun raw => ⟨.snapshotStaleReason, raw.toNat⟩

instance : Enumerated HelloAckMessage where
  fields message := fields message.lifecycle ++ fields message.reason

instance : Enumerated RegisterPublisherMessage where
  fields message := fields message.rackLifecycle ++ fields message.composition

instance : Enumerated RegisterAckMessage where
  fields message := fields message.reason

instance : Enumerated HeartbeatAckMessage where
  fields message := fields message.lifecycle ++ fields message.reason

instance : Enumerated SnapshotResponseMessage where
  fields message := fields message.reason ++ fields message.view

instance : Enumerated RevalidateResponseMessage where
  fields message :=
    fields message.reason ++ fields message.lifecycle ++ fields message.readiness

/-- The enumerated fields of a message. -/
def MessageKind.enumFields : (k : MessageKind) → k.Message → List EnumField
  | .helloAck, message => fields message
  | .registerPublisher, message => fields message
  | .registerAck, message => fields message
  | .publishRequest, message => fields message
  | .publishResult, message => fields message
  | .heartbeatAck, message => fields message
  | .snapshotResponse, message => fields message
  | .validateSnapshotRequest, message => fields message
  | .validateSnapshotResponse, message => fields message
  | .revalidateResponse, message => fields message
  | .error, message => fields message
  | .hello, _ | .heartbeat, _ | .snapshotRequest, _ | .revalidateRequest, _ | .shutdown, _ => []

end ClusterFabric
