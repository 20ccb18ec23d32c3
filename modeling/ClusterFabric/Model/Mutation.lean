import ClusterFabric.Model.Records

/-! # Mutations and their results

`error.hpp`, `explanation.hpp` and `mutation.hpp`: what a peer asks for and what
it is answered.
-/

namespace ClusterFabric

open Lib

/-! ## Errors -/

inductive ErrorCategory
  | none | identity | protocol | persistence | authority | generation | validation | resource
  | transport | shutdown | internal
  deriving DecidableEq, Repr

instance : Enumeration ErrorCategory where
  all := [.none, .identity, .protocol, .persistence, .authority, .generation, .validation,
    .resource, .transport, .shutdown, .internal]
  mem_all e := by cases e <;> decide

def ErrorCategory.toText : ErrorCategory → Text
  | .none => text "NONE"
  | .identity => text "IDENTITY"
  | .protocol => text "PROTOCOL"
  | .persistence => text "PERSISTENCE"
  | .authority => text "AUTHORITY"
  | .generation => text "GENERATION"
  | .validation => text "VALIDATION"
  | .resource => text "RESOURCE"
  | .transport => text "TRANSPORT"
  | .shutdown => text "SHUTDOWN"
  | .internal => text "INTERNAL"

inductive ErrorStage
  | none | decode | validateAuthority | validateGeneration | validateReference
  | constructCandidate | verifyInvariants | commit | persist | publish | encode | transport
  | recover | shutdown
  deriving DecidableEq, Repr

instance : Enumeration ErrorStage where
  all := [.none, .decode, .validateAuthority, .validateGeneration, .validateReference,
    .constructCandidate, .verifyInvariants, .commit, .persist, .publish, .encode, .transport,
    .recover, .shutdown]
  mem_all e := by cases e <;> decide

def ErrorStage.toText : ErrorStage → Text
  | .none => text "NONE"
  | .decode => text "DECODE"
  | .validateAuthority => text "VALIDATE_AUTHORITY"
  | .validateGeneration => text "VALIDATE_GENERATION"
  | .validateReference => text "VALIDATE_REFERENCE"
  | .constructCandidate => text "CONSTRUCT_CANDIDATE"
  | .verifyInvariants => text "VERIFY_INVARIANTS"
  | .commit => text "COMMIT"
  | .persist => text "PERSIST"
  | .publish => text "PUBLISH"
  | .encode => text "ENCODE"
  | .transport => text "TRANSPORT"
  | .recover => text "RECOVER"
  | .shutdown => text "SHUTDOWN"

structure StructuredError where
  category : ErrorCategory := .none
  stage : ErrorStage := .none
  subject : Text := []
  reason : Text := []
  expected : Text := []
  current : Text := []
  message : Text := []
  deriving DecidableEq

/-- Reason and message are cut to the bound of an encoded string. -/
def StructuredError.make (category : ErrorCategory) (stage : ErrorStage) (reason message : Text) :
    StructuredError where
  category := category
  stage := stage
  reason := reason.take maxEncodedStringBytes
  message := message.take maxEncodedStringBytes

def StructuredError.isOk (error : StructuredError) : Bool := error.category == .none

/-- `append_field`: nothing for an empty value. -/
def describeField (name : String) (value : Text) : Text :=
  if value.isEmpty then []
  else text " " ++ text name ++ text "=" ++ value.take maxEncodedStringBytes

def StructuredError.describe (error : StructuredError) : Text :=
  error.category.toText ++ text "/" ++ error.stage.toText ++
    describeField "subject" error.subject ++ describeField "reason" error.reason ++
    describeField "expected" error.expected ++ describeField "current" error.current ++
    if error.message.isEmpty then []
    else text ": " ++ error.message.take maxEncodedStringBytes

/-! ## Explanations -/

/-- `kMaxExplanationFactors`. -/
def maxExplanationFactors : Nat := 64

structure ExplanationFactor where
  code : Text := []
  subject : Text := []
  detail : Text := []
  deriving DecidableEq

structure Explanation where
  code : Text := []
  subject : Text := []
  summary : Text := []
  factors : List ExplanationFactor := []
  deriving DecidableEq

namespace Explanation

def make (code subject summary : Text) : Explanation where
  code := code
  subject := subject
  summary := summary

/-- One factor more than the bound is kept, so that a truncation is visible. -/
def add (e : Explanation) (code subject detail : Text) : Explanation :=
  if maxExplanationFactors + 1 ≤ e.factors.length then e
  else { e with factors := e.factors ++ [⟨code, subject, detail⟩] }

def sortFactors [StdSort] (e : Explanation) : Explanation :=
  { e with
    factors := StdSort.sort
      (fun a b => if a.code ≠ b.code then decide (a.code < b.code)
        else if a.subject ≠ b.subject then decide (a.subject < b.subject)
        else decide (a.detail < b.detail)) e.factors }

def boundFactors (e : Explanation) : Explanation :=
  if e.factors.length ≤ maxExplanationFactors then e
  else
    { e with
      factors := e.factors.take (maxExplanationFactors - 1) ++
        [⟨text "truncated", [], text "additional factors omitted"⟩] }

end Explanation

/-! ## Requests -/

inductive MutationKind
  | unknown | declareCluster | registerRackPublisher | addRack | updateRackGeneration
  | markRackUnavailable | withdrawRack | retireRack | recoverRack | publishInterRackLink
  | withdrawInterRackLink | publishPlacementDomain | publishCapacityDomain
  | publishFailureDomain | publishNetworkDomain | publishStorageDomain | publishPowerDomain
  | publishCoolingDomain | publishLinkDomain | publishConstraint | publishHealthCurrentness
  | withdrawEvidence | supersedeTopology | publishSnapshot | revalidateRecoveredState
  | retireCluster
  deriving DecidableEq, Repr

instance : Enumeration MutationKind where
  all := [.unknown, .declareCluster, .registerRackPublisher, .addRack, .updateRackGeneration,
    .markRackUnavailable, .withdrawRack, .retireRack, .recoverRack, .publishInterRackLink,
    .withdrawInterRackLink, .publishPlacementDomain, .publishCapacityDomain,
    .publishFailureDomain, .publishNetworkDomain, .publishStorageDomain, .publishPowerDomain,
    .publishCoolingDomain, .publishLinkDomain, .publishConstraint, .publishHealthCurrentness,
    .withdrawEvidence, .supersedeTopology, .publishSnapshot, .revalidateRecoveredState,
    .retireCluster]
  mem_all e := by cases e <;> decide

def MutationKind.toText : MutationKind → Text
  | .unknown => text "UNKNOWN"
  | .declareCluster => text "DECLARE_CLUSTER"
  | .registerRackPublisher => text "REGISTER_RACK_PUBLISHER"
  | .addRack => text "ADD_RACK"
  | .updateRackGeneration => text "UPDATE_RACK_GENERATION"
  | .markRackUnavailable => text "MARK_RACK_UNAVAILABLE"
  | .withdrawRack => text "WITHDRAW_RACK"
  | .retireRack => text "RETIRE_RACK"
  | .recoverRack => text "RECOVER_RACK"
  | .publishInterRackLink => text "PUBLISH_INTER_RACK_LINK"
  | .withdrawInterRackLink => text "WITHDRAW_INTER_RACK_LINK"
  | .publishPlacementDomain => text "PUBLISH_PLACEMENT_DOMAIN"
  | .publishCapacityDomain => text "PUBLISH_CAPACITY_DOMAIN"
  | .publishFailureDomain => text "PUBLISH_FAILURE_DOMAIN"
  | .publishNetworkDomain => text "PUBLISH_NETWORK_DOMAIN"
  | .publishStorageDomain => text "PUBLISH_STORAGE_DOMAIN"
  | .publishPowerDomain => text "PUBLISH_POWER_DOMAIN"
  | .publishCoolingDomain => text "PUBLISH_COOLING_DOMAIN"
  | .publishLinkDomain => text "PUBLISH_LINK_DOMAIN"
  | .publishConstraint => text "PUBLISH_CONSTRAINT"
  | .publishHealthCurrentness => text "PUBLISH_HEALTH_CURRENTNESS"
  | .withdrawEvidence => text "WITHDRAW_EVIDENCE"
  | .supersedeTopology => text "SUPERSEDE_TOPOLOGY"
  | .publishSnapshot => text "PUBLISH_SNAPSHOT"
  | .revalidateRecoveredState => text "REVALIDATE_RECOVERED_STATE"
  | .retireCluster => text "RETIRE_CLUSTER"

/-- The authority under which a mutation is attempted. -/
structure MutationAuthority where
  clusterEpoch : ClusterEpoch := .unknown
  coordinatorEpoch : CoordinatorEpoch := .unknown
  topologyEpoch : TopologyEpoch := .unknown
  topologyGeneration : TopologyGeneration := .unknown
  boot : Option RackAgentBootId := none
  publisher : Option RackPublisherId := none
  rack : Option RackId := none
  rackGeneration : Option RackGeneration := none
  publication : PublicationGeneration := .unknown

structure MutationRequest where
  kind : MutationKind := .unknown
  cluster : ClusterId := .unset
  authority : MutationAuthority := {}
  evidence : EvidenceStamp := {}
  reason : Text := []
  requestedAt : Timestamp := .unknown
  declaredLifecycle : ClusterLifecycle := .declared
  readinessContract : ReadinessContract := {}
  rackReference : RackReference := {}
  membership : RackMembershipState := .unknown
  expectedRackGeneration : Option RackGeneration := none
  newRackGeneration : Option RackGeneration := none
  /-- The payloads `placement_domain`, `capacity_domain` and so on. -/
  domain : (k : DomainKind) → Option (Domain k) := fun _ => none
  constraint : Option ClusterConstraint := none
  link : Option InterRackLink := none
  linkId : Option InterRackLinkId := none
  targetTopologyEpoch : Option TopologyEpoch := none
  topologyReason : Text := []
  health : HealthState := .unknown
  reachability : Reachability := .unknown
  evidenceSelector : Text := []
  racks : List RackId := []

/-! ## Results -/

inductive MutationOutcome
  | accepted | noChange | rejected | revalidationRequired
  deriving DecidableEq, Repr

instance : Enumeration MutationOutcome where
  all := [.accepted, .noChange, .rejected, .revalidationRequired]
  mem_all e := by cases e <;> decide

inductive RejectionReason
  | none | staleClusterEpoch | staleCoordinatorEpoch | staleRackBoot | staleRackGeneration
  | staleTopologyEpoch | stalePublication | notAuthorized | conflict | unknownRack
  | unknownDomain | invalidDomain | invalidRelationship | retired | wrongCluster
  | limitExceeded | malformed | notReady | shuttingDown | persistenceFailed
  | invariantViolation | internal
  deriving DecidableEq, Repr

instance : Enumeration RejectionReason where
  all := [.none, .staleClusterEpoch, .staleCoordinatorEpoch, .staleRackBoot,
    .staleRackGeneration, .staleTopologyEpoch, .stalePublication, .notAuthorized, .conflict,
    .unknownRack, .unknownDomain, .invalidDomain, .invalidRelationship, .retired,
    .wrongCluster, .limitExceeded, .malformed, .notReady, .shuttingDown, .persistenceFailed,
    .invariantViolation, .internal]
  mem_all e := by cases e <;> decide

def RejectionReason.toText : RejectionReason → Text
  | .none => text "NONE"
  | .staleClusterEpoch => text "REJECT_STALE_CLUSTER_EPOCH"
  | .staleCoordinatorEpoch => text "REJECT_STALE_COORDINATOR_EPOCH"
  | .staleRackBoot => text "REJECT_STALE_RACK_BOOT"
  | .staleRackGeneration => text "REJECT_STALE_RACK_GENERATION"
  | .staleTopologyEpoch => text "REJECT_STALE_TOPOLOGY_EPOCH"
  | .stalePublication => text "REJECT_STALE_PUBLICATION"
  | .notAuthorized => text "REJECT_NOT_AUTHORIZED"
  | .conflict => text "REJECT_CONFLICT"
  | .unknownRack => text "REJECT_UNKNOWN_RACK"
  | .unknownDomain => text "REJECT_UNKNOWN_DOMAIN"
  | .invalidDomain => text "REJECT_INVALID_DOMAIN"
  | .invalidRelationship => text "REJECT_INVALID_RELATIONSHIP"
  | .retired => text "REJECT_RETIRED"
  | .wrongCluster => text "REJECT_WRONG_CLUSTER"
  | .limitExceeded => text "REJECT_LIMIT_EXCEEDED"
  | .malformed => text "REJECT_MALFORMED"
  | .notReady => text "REJECT_NOT_READY"
  | .shuttingDown => text "REJECT_SHUTTING_DOWN"
  | .persistenceFailed => text "REJECT_PERSISTENCE_FAILED"
  | .invariantViolation => text "REJECT_INVARIANT_VIOLATION"
  | .internal => text "REJECT_INTERNAL"

/-- The category under which a rejection is reported. -/
def RejectionReason.category : RejectionReason → ErrorCategory
  | .staleClusterEpoch | .staleCoordinatorEpoch | .staleRackBoot | .staleRackGeneration
  | .staleTopologyEpoch | .stalePublication => .generation
  | .notAuthorized | .conflict | .retired => .authority
  | .limitExceeded => .resource
  | .persistenceFailed => .persistence
  | .shuttingDown => .shutdown
  | .internal | .invariantViolation => .internal
  | _ => .validation

/-- The reasons that count as a stale replay. -/
def RejectionReason.isStale : RejectionReason → Bool
  | .staleClusterEpoch | .staleCoordinatorEpoch | .staleRackBoot | .staleRackGeneration
  | .staleTopologyEpoch | .stalePublication => true
  | _ => false

structure MutationResult where
  outcome : MutationOutcome := .rejected
  reason : RejectionReason := .none
  error : StructuredError := {}
  explanation : Explanation := {}
  clusterEpoch : ClusterEpoch := .unknown
  coordinatorEpoch : CoordinatorEpoch := .unknown
  clusterGeneration : ClusterGeneration := .unknown
  membershipGeneration : MembershipGeneration := .unknown
  topologyEpoch : TopologyEpoch := .unknown
  topologyGeneration : TopologyGeneration := .unknown
  connectivityGeneration : ConnectivityGeneration := .unknown
  healthGeneration : HealthGeneration := .unknown
  constraintGeneration : ConstraintGeneration := .unknown
  snapshotGeneration : SnapshotGeneration := .unknown
  publicationGeneration : PublicationGeneration := .unknown
  lifecycle : ClusterLifecycle := .declared

namespace MutationResult

/-- A rejection. An empty reason code stands for the reason's own text. -/
def rejectedWith (reason : RejectionReason) (stage : ErrorStage) (subject detail : Text)
    (reasonCode : Text) : MutationResult :=
  let code := if reasonCode.isEmpty then reason.toText else reasonCode
  let error := { StructuredError.make reason.category stage code detail with subject := subject }
  { outcome := .rejected
    reason := reason
    error := error
    explanation := Explanation.make reason.toText error.subject error.message }

/-- `fill_generations`. -/
def fillGenerations (s : ClusterState) (result : MutationResult) : MutationResult :=
  { result with
    clusterEpoch := s.epoch
    coordinatorEpoch := s.coordinatorEpoch
    clusterGeneration := s.generation
    membershipGeneration := s.membershipGeneration
    topologyEpoch := s.topologyEpoch
    topologyGeneration := s.topologyGeneration
    connectivityGeneration := s.connectivityGeneration
    healthGeneration := s.healthGeneration
    constraintGeneration := s.constraintGeneration
    snapshotGeneration := s.snapshotGeneration
    publicationGeneration := s.publicationGeneration
    lifecycle := s.lifecycle }

@[simp] theorem outcome_rejectedWith (reason : RejectionReason) (stage : ErrorStage)
    (subject detail code : Text) :
    (rejectedWith reason stage subject detail code).outcome = .rejected := rfl

end MutationResult

def acceptedChange : MutationResult where
  outcome := .accepted

/-- A result with which a mutation returns before it is complete: a rejection or
"no change", never an acceptance. -/
structure EarlyReturn where
  result : MutationResult
  not_accepted : result.outcome ≠ .accepted

/-- `reject_with`. -/
def rejectWith (reason : RejectionReason) (stage : ErrorStage) (subject detail code : Text) :
    EarlyReturn :=
  ⟨.rejectedWith reason stage subject detail code, by simp⟩

/-- `reject_with` without a reason code. -/
def reject (reason : RejectionReason) (stage : ErrorStage) (subject detail : Text) : EarlyReturn :=
  rejectWith reason stage subject detail []

def acceptedNoChange (detail : String) : EarlyReturn where
  result :=
    { outcome := .noChange
      explanation := Explanation.make (text "idempotent") (text "cluster") (text detail) }
  not_accepted := by simp

end ClusterFabric
