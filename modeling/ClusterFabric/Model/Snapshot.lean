import ClusterFabric.Model.Readiness
import ClusterFabric.Model.Mutation

/-! # Snapshots

`snapshot.cpp`: a frozen copy of canonical state with the bindings of its racks,
and its validation against the state of a later time.
-/

namespace ClusterFabric

open Lib

structure RackGenerationBinding where
  rack : RackId := .unset
  generation : RackGeneration := .unknown
  membership : RackMembershipState := .unknown
  currentness : RackCurrentness := .unknown
  authoritativeCurrent : Bool := false
  boot : RackAgentBootId := .unset
  deriving DecidableEq

inductive SnapshotStaleReason
  | none | clusterEpochAdvanced | coordinatorEpochAdvanced | clusterGenerationAdvanced
  | membershipChanged | topologyEpochSuperseded | topologyGenerationAdvanced
  | rackGenerationSuperseded | rackWithdrawn | rackRetired | rackBootFenced
  | rackRevalidationRequired | placementDomainSuperseded | capacityDomainSuperseded
  | failureDomainSuperseded | networkDomainSuperseded | storageDomainSuperseded
  | powerDomainSuperseded | coolingDomainSuperseded | linkDomainSuperseded
  | connectivitySuperseded | healthSuperseded | lifecycleNotConsumable | wrongCluster
  deriving DecidableEq, Repr

instance : Enumeration SnapshotStaleReason where
  all := [.none, .clusterEpochAdvanced, .coordinatorEpochAdvanced, .clusterGenerationAdvanced,
    .membershipChanged, .topologyEpochSuperseded, .topologyGenerationAdvanced,
    .rackGenerationSuperseded, .rackWithdrawn, .rackRetired, .rackBootFenced,
    .rackRevalidationRequired, .placementDomainSuperseded, .capacityDomainSuperseded,
    .failureDomainSuperseded, .networkDomainSuperseded, .storageDomainSuperseded,
    .powerDomainSuperseded, .coolingDomainSuperseded, .linkDomainSuperseded,
    .connectivitySuperseded, .healthSuperseded, .lifecycleNotConsumable, .wrongCluster]
  mem_all e := by cases e <;> decide

def SnapshotStaleReason.toText : SnapshotStaleReason → Text
  | .none => text "NONE"
  | .clusterEpochAdvanced => text "CLUSTER_EPOCH_ADVANCED"
  | .coordinatorEpochAdvanced => text "COORDINATOR_EPOCH_ADVANCED"
  | .clusterGenerationAdvanced => text "CLUSTER_GENERATION_ADVANCED"
  | .membershipChanged => text "MEMBERSHIP_CHANGED"
  | .topologyEpochSuperseded => text "TOPOLOGY_EPOCH_SUPERSEDED"
  | .topologyGenerationAdvanced => text "TOPOLOGY_GENERATION_ADVANCED"
  | .rackGenerationSuperseded => text "RACK_GENERATION_SUPERSEDED"
  | .rackWithdrawn => text "RACK_WITHDRAWN"
  | .rackRetired => text "RACK_RETIRED"
  | .rackBootFenced => text "RACK_BOOT_FENCED"
  | .rackRevalidationRequired => text "RACK_REVALIDATION_REQUIRED"
  | .placementDomainSuperseded => text "PLACEMENT_DOMAIN_SUPERSEDED"
  | .capacityDomainSuperseded => text "CAPACITY_DOMAIN_SUPERSEDED"
  | .failureDomainSuperseded => text "FAILURE_DOMAIN_SUPERSEDED"
  | .networkDomainSuperseded => text "NETWORK_DOMAIN_SUPERSEDED"
  | .storageDomainSuperseded => text "STORAGE_DOMAIN_SUPERSEDED"
  | .powerDomainSuperseded => text "POWER_DOMAIN_SUPERSEDED"
  | .coolingDomainSuperseded => text "COOLING_DOMAIN_SUPERSEDED"
  | .linkDomainSuperseded => text "LINK_DOMAIN_SUPERSEDED"
  | .connectivitySuperseded => text "CONNECTIVITY_SUPERSEDED"
  | .healthSuperseded => text "HEALTH_SUPERSEDED"
  | .lifecycleNotConsumable => text "LIFECYCLE_NOT_CONSUMABLE"
  | .wrongCluster => text "WRONG_CLUSTER"

structure SnapshotValidation where
  current : Bool := false
  consumable : Bool := false
  reasons : List SnapshotStaleReason := []
  subjects : List Text := []
  explanation : Explanation := {}

namespace SnapshotValidation

def describe (v : SnapshotValidation) : Text :=
  text (if v.current then "snapshot=current" else "snapshot=stale") ++
    text (if v.consumable then " consumable=true" else " consumable=false") ++
    text " reasons=" ++ decimal v.reasons.length ++
    v.reasons.zipIdx.flatMap fun (reason, i) =>
      text " " ++ reason.toText ++
        match v.subjects[i]? with
        | some (c :: subject) => text "(" ++ (c :: subject) ++ text ")"
        | _ => []

/-- The explanation of a validation: one factor per reason, with the detail that
the caller gives them all. -/
def explainAs [StdSort] (detail : String) (v : SnapshotValidation) : Explanation :=
  let explanation := v.reasons.zipIdx.foldl
    (fun (e : Explanation) (reason, i) =>
      e.add reason.toText (v.subjects[i]?.getD []) (text detail))
    (.make (text (if v.current then "snapshot_current" else "snapshot_stale")) (text "snapshot")
      v.describe)
  explanation.sortFactors.boundFactors

def explain [StdSort] (v : SnapshotValidation) : Explanation :=
  v.explainAs "bound snapshot no longer matches current authority"

end SnapshotValidation

/-- A snapshot. A default-constructed one holds no state. -/
structure ClusterSnapshot where
  state : Option ClusterState := none
  bindings : List RackGenerationBinding := []

namespace ClusterSnapshot

def capture (s : ClusterState) : ClusterSnapshot where
  state := some s
  bindings := s.racks.entries.map fun (rack, record) =>
    { rack := rack
      generation := record.reference.generation
      membership := record.membership
      currentness := record.reference.currentness
      authoritativeCurrent := record.authoritativeCurrent
      boot := record.reference.boot }

/-- A reason with its subject. -/
abbrev Finding := SnapshotStaleReason × Text

/-- The subject of a counter that moved on. -/
def boundCurrent {tag : CounterTag} (bound current : StrongCounter tag) : Text :=
  text "bound=" ++ bound.str ++ text " current=" ++ current.str

/-- A counter that must still be what it was. -/
def stale {tag : CounterTag} (reason : SnapshotStaleReason) (bound current : StrongCounter tag) :
    List Finding :=
  flag (bound ≠ current) (reason, boundCurrent bound current)

def supersededReason : DomainKind → SnapshotStaleReason
  | .placement => .placementDomainSuperseded
  | .capacity => .capacityDomainSuperseded
  | .failure => .failureDomainSuperseded
  | .network => .networkDomainSuperseded
  | .storage => .storageDomainSuperseded
  | .power => .powerDomainSuperseded
  | .cooling => .coolingDomainSuperseded
  | .link => .linkDomainSuperseded

/-- The comparison of everything but the racks. -/
def compareScalars (bound current : ClusterState) : List Finding :=
  flag (bound.id ≠ current.id) (.wrongCluster,
    text "snapshot/" ++ bound.id.value ++ text " current/" ++ current.id.value) ++
  stale .clusterEpochAdvanced bound.epoch current.epoch ++
  stale .coordinatorEpochAdvanced bound.coordinatorEpoch current.coordinatorEpoch ++
  stale .clusterGenerationAdvanced bound.generation current.generation ++
  flag (bound.membershipGeneration ≠ current.membershipGeneration ∨
      bound.racks.size ≠ current.racks.size)
    (.membershipChanged, boundCurrent bound.membershipGeneration current.membershipGeneration) ++
  (if bound.topologyEpoch ≠ current.topologyEpoch then
    stale .topologyEpochSuperseded bound.topologyEpoch current.topologyEpoch
  else
    stale .topologyGenerationAdvanced bound.topologyGeneration current.topologyGeneration) ++
  (DomainKind.all.flatMap fun k =>
    flag (bound.domainGenerations k ≠ current.domainGenerations k)
      (supersededReason k, k.label)) ++
  stale .connectivitySuperseded bound.connectivityGeneration current.connectivityGeneration ++
  stale .healthSuperseded bound.healthGeneration current.healthGeneration

/-- The comparison of one bound rack. -/
def compareBinding (current : ClusterState) (binding : RackGenerationBinding) : List Finding :=
  let subject := rackSubject binding.rack
  match current.racks.find? binding.rack with
  | none => [(.rackWithdrawn, subject ++ text " is no longer a member")]
  | some record =>
    if current.isRackRetired binding.rack then [(.rackRetired, subject)]
    else
      flag (record.reference.generation ≠ binding.generation)
        (.rackGenerationSuperseded, subject ++ text " " ++
          boundCurrent binding.generation record.reference.generation) ++
      flag (record.membership ≠ binding.membership)
        (.rackWithdrawn, subject ++ text " membership=" ++ record.membership.toText) ++
      flag (current.isBootFenced binding.boot)
        (.rackBootFenced, subject ++ text " boot=" ++ binding.boot.value) ++
      flag (record.reference.currentness = .revalidationRequired ∨
          record.reference.evidence.requiresRevalidation = true)
        (.rackRevalidationRequired, subject)

/-- The racks that were added after the snapshot. -/
def compareAdded (snapshot : ClusterSnapshot) (current : ClusterState) : List Finding :=
  current.racks.entries.flatMap fun (rack, _) =>
    flag (!snapshot.bindings.any fun binding => binding.rack == rack)
      (.membershipChanged, rackSubject rack ++ text " was added after the snapshot")

/-- `validate`. -/
def validate [StdSort] (snapshot : ClusterSnapshot) (current : ClusterState) : SnapshotValidation :=
  match snapshot.state with
  | none =>
    { explanation := .make (text "snapshot_invalid") (text "snapshot")
        (text "the snapshot holds no state") }
  | some bound =>
    let stale := compareScalars bound current ++
      snapshot.bindings.flatMap (compareBinding current) ++ snapshot.compareAdded current
    let findings := stale ++
      flag (!isConsumableLifecycle current.lifecycle)
        (.lifecycleNotConsumable, current.lifecycle.toText)
    let validation : SnapshotValidation :=
      { current := stale.isEmpty
        consumable := stale.isEmpty && isConsumableLifecycle current.lifecycle
        reasons := findings.map Prod.fst
        subjects := findings.map Prod.snd }
    { validation with explanation := validation.explain }

end ClusterSnapshot

/-! ## Views -/

/-- What the wire carries of a snapshot. -/
structure SnapshotView where
  cluster : ClusterId := .unset
  clusterEpoch : ClusterEpoch := .unknown
  coordinatorEpoch : CoordinatorEpoch := .unknown
  clusterGeneration : ClusterGeneration := .unknown
  membershipGeneration : MembershipGeneration := .unknown
  topologyEpoch : TopologyEpoch := .unknown
  topologyGeneration : TopologyGeneration := .unknown
  connectivityGeneration : ConnectivityGeneration := .unknown
  healthGeneration : HealthGeneration := .unknown
  constraintGeneration : ConstraintGeneration := .unknown
  domainGenerations : DomainGenerations := fun _ => .unknown
  snapshotGeneration : SnapshotGeneration := .unknown
  publicationGeneration : PublicationGeneration := .unknown
  lifecycle : ClusterLifecycle := .declared
  rackBindings : List RackGenerationBinding := []
  semanticDigest : Text := []
  rackCount : UInt64 := 0
  linkCount : UInt64 := 0
  domainCount : UInt64 := 0

namespace SnapshotView

open ClusterSnapshot (Finding stale supersededReason boundCurrent)

/-- `from_snapshot`. The digest of the state is an argument. -/
def fromSnapshot (digest : ClusterState → Text) (snapshot : ClusterSnapshot) : SnapshotView :=
  match snapshot.state with
  | none => {}
  | some s =>
    { cluster := s.id
      clusterEpoch := s.epoch
      coordinatorEpoch := s.coordinatorEpoch
      clusterGeneration := s.generation
      membershipGeneration := s.membershipGeneration
      topologyEpoch := s.topologyEpoch
      topologyGeneration := s.topologyGeneration
      connectivityGeneration := s.connectivityGeneration
      healthGeneration := s.healthGeneration
      constraintGeneration := s.constraintGeneration
      domainGenerations := s.domainGenerations
      snapshotGeneration := s.snapshotGeneration
      publicationGeneration := s.publicationGeneration
      lifecycle := s.lifecycle
      rackBindings := snapshot.bindings
      semanticDigest := digest s
      rackCount := .ofNat s.racks.size
      linkCount := .ofNat s.links.size
      domainCount := .ofNat ((DomainKind.all.map fun k => (s.domains k).size).sum) }

/-- The comparison of everything but the racks. -/
def compareScalars (view : SnapshotView) (s : ClusterState) : List Finding :=
  flag (view.cluster ≠ s.id) (.wrongCluster, text "snapshot/" ++ view.cluster.value) ++
  stale .clusterEpochAdvanced view.clusterEpoch s.epoch ++
  stale .coordinatorEpochAdvanced view.coordinatorEpoch s.coordinatorEpoch ++
  stale .clusterGenerationAdvanced view.clusterGeneration s.generation ++
  stale .membershipChanged view.membershipGeneration s.membershipGeneration ++
  (if view.topologyEpoch ≠ s.topologyEpoch then
    stale .topologyEpochSuperseded view.topologyEpoch s.topologyEpoch
  else stale .topologyGenerationAdvanced view.topologyGeneration s.topologyGeneration) ++
  (DomainKind.all.flatMap fun k =>
    flag (view.domainGenerations k ≠ s.domainGenerations k) (supersededReason k, k.label)) ++
  stale .connectivitySuperseded view.connectivityGeneration s.connectivityGeneration ++
  stale .healthSuperseded view.healthGeneration s.healthGeneration

/-- The comparison of one bound rack. -/
def compareBinding (s : ClusterState) (binding : RackGenerationBinding) : List Finding :=
  let subject := rackSubject binding.rack
  match s.racks.find? binding.rack with
  | none => [(.rackWithdrawn, subject)]
  | some record =>
    if s.isRackRetired binding.rack then [(.rackRetired, subject)]
    else
      flag (record.reference.generation ≠ binding.generation)
        (.rackGenerationSuperseded, subject ++ text " " ++
          boundCurrent binding.generation record.reference.generation) ++
      flag (record.membership ≠ binding.membership) (.rackWithdrawn, subject) ++
      flag (s.isBootFenced binding.boot) (.rackBootFenced, subject) ++
      flag (record.reference.currentness = .revalidationRequired ∨
          record.reference.evidence.requiresRevalidation = true)
        (.rackRevalidationRequired, subject)

/-- The racks that the view does not bind. -/
def compareAdded (view : SnapshotView) (s : ClusterState) : List Finding :=
  s.racks.entries.flatMap fun (rack, _) =>
    flag (!view.rackBindings.any fun binding => binding.rack == rack)
      (.membershipChanged, rackSubject rack)

/-- `validate_view`. -/
def validateView [StdSort] (view : SnapshotView) (s : ClusterState) : SnapshotValidation :=
  let findings := view.compareScalars s ++ view.rackBindings.flatMap (compareBinding s) ++
    view.compareAdded s ++
    flag (!isConsumableLifecycle s.lifecycle) (.lifecycleNotConsumable, s.lifecycle.toText)
  let validation : SnapshotValidation :=
    { current := findings.isEmpty
      consumable := findings.isEmpty && isConsumableLifecycle s.lifecycle
      reasons := findings.map Prod.fst
      subjects := findings.map Prod.snd }
  { validation with
    explanation :=
      validation.explainAs "supplied snapshot view no longer matches current authority" }

end SnapshotView

end ClusterFabric
