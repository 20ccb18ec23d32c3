import ClusterFabric.Lib.Enumeration
import ClusterFabric.Model.Identity

/-! # Evidence, taxonomy and lifecycle

`evidence.hpp`, `taxonomy.hpp` and `lifecycle.hpp`: the closed vocabularies of
the model, the stamp that every piece of evidence carries, and the readiness
contract.
-/

namespace ClusterFabric

open Lib

/-! ## Evidence -/

/-- How a value came to be known. -/
inductive EvidenceProvenance
  | unknown | measured | reported | derived | estimated | synthetic | reconstructed
  deriving DecidableEq, Repr

instance : Enumeration EvidenceProvenance where
  all := [.unknown, .measured, .reported, .derived, .estimated, .synthetic, .reconstructed]
  mem_all e := by cases e <;> decide

def isCurrentEvidenceProvenance (value : EvidenceProvenance) : Bool :=
  value == .measured || value == .reported

inductive Freshness
  | unknown | fresh | stale | revalidationRequired
  deriving DecidableEq, Repr

instance : Enumeration Freshness where
  all := [.unknown, .fresh, .stale, .revalidationRequired]
  mem_all e := by cases e <;> decide

/-- Milliseconds since the epoch; zero and below are "unknown". -/
structure Timestamp where
  unixMillis : Int64 := 0
  deriving DecidableEq

def Timestamp.unknown : Timestamp := {}

def Timestamp.known (t : Timestamp) : Bool := decide (0 < t.unixMillis)

def classifyFreshness (observedAt now : Timestamp) (ttlMillis : Int64) : Freshness :=
  if !observedAt.known then .unknown
  else if ttlMillis ≤ 0 then .fresh
  else if now.unixMillis < observedAt.unixMillis then .fresh
  else if now.unixMillis - observedAt.unixMillis ≤ ttlMillis then .fresh
  else .stale

structure EvidenceStamp where
  provenance : EvidenceProvenance := .unknown
  observedAt : Timestamp := .unknown
  freshness : Freshness := .unknown
  ttlMillis : Int64 := 0
  deriving DecidableEq

namespace EvidenceStamp

def make (provenance : EvidenceProvenance) (observedAt : Timestamp) (ttlMillis : Int64) :
    EvidenceStamp where
  provenance := provenance
  observedAt := observedAt
  ttlMillis := ttlMillis
  freshness := classifyFreshness observedAt observedAt ttlMillis

def isCurrent (e : EvidenceStamp) : Bool :=
  isCurrentEvidenceProvenance e.provenance && e.observedAt.known && e.freshness == .fresh

def requiresRevalidation (e : EvidenceStamp) : Bool :=
  e.freshness == .revalidationRequired || e.provenance == .reconstructed

/-- Reclassifies the freshness at `now`. A stamp that requires revalidation
stays as it is: time alone never restores it. -/
def refresh (e : EvidenceStamp) (now : Timestamp) : EvidenceStamp :=
  if e.freshness = .revalidationRequired then e
  else { e with freshness := classifyFreshness e.observedAt now e.ttlMillis }

def markRevalidationRequired (e : EvidenceStamp) : EvidenceStamp :=
  { e with freshness := .revalidationRequired }

@[simp] theorem requiresRevalidation_markRevalidationRequired (e : EvidenceStamp) :
    e.markRevalidationRequired.requiresRevalidation = true := by
  simp [markRevalidationRequired, requiresRevalidation]

theorem isCurrent_of_requiresRevalidation {e : EvidenceStamp}
    (h : e.requiresRevalidation = true) : e.isCurrent = false := by
  unfold requiresRevalidation at h
  unfold isCurrent isCurrentEvidenceProvenance
  rcases Bool.or_eq_true _ _ ▸ h with h | h
  · simp [eq_of_beq h]
  · simp [eq_of_beq h]

end EvidenceStamp

/-! ## Taxonomy -/

inductive FailureDomainClass
  | unknown | rack | row | switchPlane | powerFeed | networkPlane | availabilityZone
  | storageDomain | coolingLoop | controlPlane
  deriving DecidableEq, Repr

instance : Enumeration FailureDomainClass where
  all := [.unknown, .rack, .row, .switchPlane, .powerFeed,
    .networkPlane, .availabilityZone, .storageDomain, .coolingLoop, .controlPlane]
  mem_all e := by cases e <;> decide

inductive PlacementDomainClass
  | unknown | lowLatencyFabric | availabilityDomain | networkTier | powerBoundary
  | storageLocality | failureDomain | policyClass
  deriving DecidableEq, Repr

instance : Enumeration PlacementDomainClass where
  all := [.unknown, .lowLatencyFabric, .availabilityDomain, .networkTier,
    .powerBoundary, .storageLocality, .failureDomain, .policyClass]
  mem_all e := by cases e <;> decide

inductive CapacityDomainClass
  | unknown | rackGroup | acceleratorPool | cpuPool | networkDomain | storageDomain
  deriving DecidableEq, Repr

instance : Enumeration CapacityDomainClass where
  all := [.unknown, .rackGroup, .acceleratorPool, .cpuPool, .networkDomain, .storageDomain]
  mem_all e := by cases e <;> decide

inductive ConnectivityClass
  | unknown | directFabric | switchedFabric | routedPath | overlay | managementOnly
  deriving DecidableEq, Repr

instance : Enumeration ConnectivityClass where
  all := [.unknown, .directFabric, .switchedFabric, .routedPath, .overlay, .managementOnly]
  mem_all e := by cases e <;> decide

inductive LinkDirection
  | unknown | unidirectional | bidirectional
  deriving DecidableEq, Repr

instance : Enumeration LinkDirection where
  all := [.unknown, .unidirectional, .bidirectional]
  mem_all e := by cases e <;> decide

inductive Reachability
  | unknown | reachable | unreachable | revalidationRequired
  deriving DecidableEq, Repr

instance : Enumeration Reachability where
  all := [.unknown, .reachable, .unreachable, .revalidationRequired]
  mem_all e := by cases e <;> decide

inductive BandwidthClass
  | unknown | low | moderate | high | veryHigh
  deriving DecidableEq, Repr

instance : Enumeration BandwidthClass where
  all := [.unknown, .low, .moderate, .high, .veryHigh]
  mem_all e := by cases e <;> decide

inductive LatencyClass
  | unknown | veryLow | low | moderate | high
  deriving DecidableEq, Repr

instance : Enumeration LatencyClass where
  all := [.unknown, .veryLow, .low, .moderate, .high]
  mem_all e := by cases e <;> decide

inductive AcceleratorVendor
  | unknown | nvidia | amd | intel | other
  deriving DecidableEq, Repr

instance : Enumeration AcceleratorVendor where
  all := [.unknown, .nvidia, .amd, .intel, .other]
  mem_all e := by cases e <;> decide

inductive HealthState
  | unknown | healthy | degraded | unhealthy
  deriving DecidableEq, Repr

instance : Enumeration HealthState where
  all := [.unknown, .healthy, .degraded, .unhealthy]
  mem_all e := by cases e <;> decide

inductive ConstraintKind
  | unknown | placementScope | connectivityRequirement | failureDomainIndependence
  | capacityFloor | maintenanceWindow
  deriving DecidableEq, Repr

instance : Enumeration ConstraintKind where
  all := [.unknown, .placementScope, .connectivityRequirement,
    .failureDomainIndependence, .capacityFloor, .maintenanceWindow]
  mem_all e := by cases e <;> decide

def FailureDomainClass.toText : FailureDomainClass → Text
  | .unknown => text "UNKNOWN"
  | .rack => text "RACK"
  | .row => text "ROW"
  | .switchPlane => text "SWITCH_PLANE"
  | .powerFeed => text "POWER_FEED"
  | .networkPlane => text "NETWORK_PLANE"
  | .availabilityZone => text "AVAILABILITY_ZONE"
  | .storageDomain => text "STORAGE_DOMAIN"
  | .coolingLoop => text "COOLING_LOOP"
  | .controlPlane => text "CONTROL_PLANE"

def PlacementDomainClass.toText : PlacementDomainClass → Text
  | .unknown => text "UNKNOWN"
  | .lowLatencyFabric => text "LOW_LATENCY_FABRIC"
  | .availabilityDomain => text "AVAILABILITY_DOMAIN"
  | .networkTier => text "NETWORK_TIER"
  | .powerBoundary => text "POWER_BOUNDARY"
  | .storageLocality => text "STORAGE_LOCALITY"
  | .failureDomain => text "FAILURE_DOMAIN"
  | .policyClass => text "POLICY_CLASS"

/-- A binary64 value, as its bits. -/
structure F64 where
  bits : UInt64
  deriving DecidableEq

namespace F64

def exponentBits (x : F64) : UInt64 := (x.bits >>> 52) &&& 0x7FF

def isFinite (x : F64) : Bool := x.exponentBits != 0x7FF

def isNaN (x : F64) : Bool := !x.isFinite && (x.bits &&& 0xFFFFFFFFFFFFF) != 0

/-- The built-in comparison: both zeros are equal and a NaN equals nothing. -/
def ieeeEq (x y : F64) : Bool :=
  !x.isNaN && !y.isNaN && (x.bits == y.bits || (x.bits ||| y.bits) &&& 0x7FFFFFFFFFFFFFFF == 0)

end F64

/-! ## Lifecycle -/

/-- The lifecycle of a cluster; `partialReady` is the enumerator `Partial`. -/
inductive ClusterLifecycle
  | declared | forming | partialReady | ready | degraded | revalidationRequired | retiring
  | retired
  deriving DecidableEq, Repr

instance : Enumeration ClusterLifecycle where
  all := [.declared, .forming, .partialReady, .ready,
    .degraded, .revalidationRequired, .retiring, .retired]
  mem_all e := by cases e <;> decide

def ClusterLifecycle.toText : ClusterLifecycle → Text
  | .declared => text "DECLARED"
  | .forming => text "FORMING"
  | .partialReady => text "PARTIAL"
  | .ready => text "READY"
  | .degraded => text "DEGRADED"
  | .revalidationRequired => text "REVALIDATION_REQUIRED"
  | .retiring => text "RETIRING"
  | .retired => text "RETIRED"

def isConsumableLifecycle (value : ClusterLifecycle) : Bool :=
  value == .ready || value == .partialReady || value == .degraded

def acceptsMutations (value : ClusterLifecycle) : Bool := value != .retired

inductive RackMembershipState
  | unknown | active | unavailable | withdrawn | retired
  deriving DecidableEq, Repr

instance : Enumeration RackMembershipState where
  all := [.unknown, .active, .unavailable, .withdrawn, .retired]
  mem_all e := by cases e <;> decide

def RackMembershipState.toText : RackMembershipState → Text
  | .unknown => text "UNKNOWN"
  | .active => text "ACTIVE"
  | .unavailable => text "UNAVAILABLE"
  | .withdrawn => text "WITHDRAWN"
  | .retired => text "RETIRED"

inductive RackLifecycleState
  | unknown | declared | forming | ready | degraded | retiring | retired
  deriving DecidableEq, Repr

instance : Enumeration RackLifecycleState where
  all := [.unknown, .declared, .forming, .ready, .degraded, .retiring, .retired]
  mem_all e := by cases e <;> decide

inductive RackCurrentness
  | unknown | current | superseded | revalidationRequired
  deriving DecidableEq, Repr

instance : Enumeration RackCurrentness where
  all := [.unknown, .current, .superseded, .revalidationRequired]
  mem_all e := by cases e <;> decide

structure ReadinessContract where
  minimumCurrentRacks : UInt64 := 1
  mandatoryRacks : List RackId := []
  requireAllActiveRacksCurrent : Bool := true
  requireConnectivityEvidence : Bool := false
  minimumCurrentLinks : UInt64 := 0
  requiredPlacementDomainClasses : List PlacementDomainClass := []
  requiredFailureDomainClasses : List FailureDomainClass := []
  allowPartial : Bool := true
  allowDegraded : Bool := true
  requireNoConflicts : Bool := true
  deriving DecidableEq

/-- The contract of exploratory and synthetic topologies. -/
def ReadinessContract.permissive : ReadinessContract where
  minimumCurrentRacks := 0
  requireAllActiveRacksCurrent := false
  requireConnectivityEvidence := false
  minimumCurrentLinks := 0
  allowPartial := true
  allowDegraded := true
  requireNoConflicts := false

end ClusterFabric
