import Mathlib.Order.WithBot
import Mathlib.Data.Prod.Lex
import ClusterFabric.Lib.StdMap
import ClusterFabric.Model.Evidence

/-! # Canonical records

`rack_reference.hpp`, `domains.hpp`, `topology.hpp` and `cluster_state.hpp`: what
a cluster is made of. The eight domain record types of the source share the
fields `id`, `racks` and `header` and differ in one payload; they are one type
indexed by the kind of domain, and the eight maps and aggregates are families
over the kinds.
-/

namespace ClusterFabric

open Lib

/-! ## Limits -/

def maxRacksPerCluster : Nat := 16384
def maxInterRackLinks : Nat := 262144
def maxDomainsPerClass : Nat := 16384
def maxDomainMembers : Nat := 16384
def maxFailureDomainRefs : Nat := 256
def maxConstraints : Nat := 4096
def maxRackEndpoints : Nat := 256
def maxCapacityQuantities : Nat := 64
def maxEncodedStringBytes : Nat := 4096

/-! ## Rack references -/

structure AcceleratorClassSummary where
  vendor : AcceleratorVendor := .unknown
  family : Text := []
  deviceCount : Option UInt32 := none
  deviceMemoryBytes : Option UInt64 := none
  deriving DecidableEq

/-- The defaulted three-way comparison: memberwise, an absent optional first. -/
def AcceleratorClassSummary.key (a : AcceleratorClassSummary) :
    Nat ×ₗ Text ×ₗ WithBot Nat ×ₗ WithBot Nat :=
  let count : WithBot Nat := a.deviceCount.map UInt32.toNat
  let memory : WithBot Nat := a.deviceMemoryBytes.map UInt64.toNat
  toLex (Enumeration.raw a.vendor, toLex (a.family, toLex (count, memory)))

structure RackCompositionSummary where
  accelerators : List AcceleratorClassSummary := []
  cpuSockets : Option UInt32 := none
  cpuCores : Option UInt32 := none
  hostMemoryBytes : Option UInt64 := none
  nicCount : Option UInt32 := none
  switchCount : Option UInt32 := none
  compositionLabel : Text := []
  provenance : EvidenceProvenance := .unknown
  deriving DecidableEq

def RackCompositionSummary.isEmpty (c : RackCompositionSummary) : Bool :=
  c.accelerators.isEmpty && c.cpuSockets.isNone && c.cpuCores.isNone &&
    c.hostMemoryBytes.isNone && c.nicCount.isNone && c.switchCount.isNone &&
    c.compositionLabel.isEmpty

structure RackEndpoint where
  id : RackEndpointId := .unset
  networkDomain : Option NetworkDomainId := none
  linkDomain : Option LinkDomainId := none
  connectivity : ConnectivityClass := .unknown
  evidence : EvidenceStamp := {}
  deriving DecidableEq

structure RackFailureDomainHint where
  klass : FailureDomainClass := .unknown
  id : FailureDomainId := .unset
  evidence : EvidenceStamp := {}
  deriving DecidableEq

/-- Hints are ordered by class, then by identity. -/
def RackFailureDomainHint.key (h : RackFailureDomainHint) : Nat ×ₗ FailureDomainId :=
  toLex (Enumeration.raw h.klass, h.id)

structure RackReference where
  rack : RackId := .unset
  generation : RackGeneration := .unknown
  rackLifecycle : RackLifecycleState := .unknown
  currentness : RackCurrentness := .unknown
  composition : RackCompositionSummary := {}
  endpoints : List RackEndpoint := []
  failureDomainHints : List RackFailureDomainHint := []
  evidence : EvidenceStamp := {}
  publisher : Option RackPublisherId := none
  publication : PublicationGeneration := .unknown
  boot : RackAgentBootId := .unset
  clusterEpoch : ClusterEpoch := .unknown
  coordinatorEpoch : CoordinatorEpoch := .unknown
  health : HealthState := .unknown
  originLabel : Text := []
  deriving DecidableEq

inductive RackReferenceIssue
  | none | missingRackId | missingGeneration | tooManyEndpoints | tooManyFailureDomainHints
  | tooManyAcceleratorClasses | invalidLabel | duplicateEndpoint | duplicateFailureDomainHint
  | missingPublisher | unknownProvenance
  deriving DecidableEq, Repr

structure RackReferenceValidation where
  issue : RackReferenceIssue := .none
  subject : Text := []
  detail : Text := []

def RackReferenceValidation.isOk (v : RackReferenceValidation) : Bool := v.issue == .none

def rackSubject (rack : RackId) : Text := text "rack/" ++ rack.value

/-- The first issue of a reference, in the order of the source. -/
def validateRackReference (reference : RackReference) : RackReferenceValidation :=
  let subject := rackSubject reference.rack
  let composition := reference.composition
  let count (what : String) (size limit : Nat) : Text :=
    text what ++ decimal size ++ text " exceeds " ++ decimal limit
  if reference.rack.isEmpty then
    ⟨.missingRackId, text "rack", text "rack identity is empty"⟩
  else if !reference.generation.known then
    ⟨.missingGeneration, subject, text "rack generation is zero (unknown)"⟩
  else if maxRackEndpoints < reference.endpoints.length then
    ⟨.tooManyEndpoints, subject,
      count "endpoint count " reference.endpoints.length maxRackEndpoints⟩
  else if maxFailureDomainRefs < reference.failureDomainHints.length then
    ⟨.tooManyFailureDomainHints, subject,
      count "failure domain hint count " reference.failureDomainHints.length maxFailureDomainRefs⟩
  else if maxCapacityQuantities < composition.accelerators.length then
    ⟨.tooManyAcceleratorClasses, subject,
      count "accelerator class count " composition.accelerators.length maxCapacityQuantities⟩
  else if !(validateLabel composition.compositionLabel).isOk &&
      !composition.compositionLabel.isEmpty then
    ⟨.invalidLabel, subject, text "composition label is not a valid bounded label"⟩
  else if !(validateLabel reference.originLabel).isOk && !reference.originLabel.isEmpty then
    ⟨.invalidLabel, subject, text "origin label is not a valid bounded label"⟩
  else if composition.accelerators.any fun a =>
      !a.family.isEmpty && !(validateLabel a.family).isOk then
    ⟨.invalidLabel, subject, text "accelerator family label is not a valid bounded label"⟩
  else if reference.failureDomainHints.any fun h => h.klass == .unknown then
    ⟨.invalidLabel, subject, text "failure domain hint has UNKNOWN class"⟩
  else if reference.endpoints.any fun e => e.id.isEmpty then
    ⟨.invalidLabel, subject, text "endpoint identity is empty"⟩
  else if reference.publisher.isNone then
    ⟨.missingPublisher, subject, text "publisher authority is absent"⟩
  else if reference.evidence.provenance = .unknown then
    ⟨.unknownProvenance, subject, text "reference provenance is UNKNOWN"⟩
  else {}

/-- Sorts and deduplicates the lists of a reference. Endpoints and hints are
deduplicated by identity only, so which of two equivalent entries survives
depends on the sort. -/
def canonicalize [StdSort] (reference : RackReference) : RackReference :=
  { reference with
    composition.accelerators :=
      unique (fun a b => decide (a.key = b.key))
        (sortBy AcceleratorClassSummary.key reference.composition.accelerators)
    endpoints :=
      unique (fun a b => decide (a.id = b.id)) (sortBy RackEndpoint.id reference.endpoints)
    failureDomainHints :=
      unique (fun a b => decide (a.key = b.key))
        (sortBy RackFailureDomainHint.key reference.failureDomainHints) }

/-! ## Domains -/

/-- The eight classes of domain record. -/
inductive DomainKind
  | placement | capacity | failure | network | storage | power | cooling | link
  deriving DecidableEq, Repr

instance : Enumeration DomainKind where
  all := [.placement, .capacity, .failure, .network, .storage, .power, .cooling, .link]
  mem_all k := by cases k <;> decide

/-- Every kind, in the order in which the source lists the maps. -/
def DomainKind.all : List DomainKind := Enumeration.all

theorem DomainKind.mem_all (k : DomainKind) : k ∈ DomainKind.all := Enumeration.mem_all k

/-- One value for each kind, given in their order. -/
def byKind {α : DomainKind → Type} (placement : α .placement) (capacity : α .capacity)
    (failure : α .failure) (network : α .network) (storage : α .storage) (power : α .power)
    (cooling : α .cooling) (link : α .link) : (k : DomainKind) → α k
  | .placement => placement
  | .capacity => capacity
  | .failure => failure
  | .network => network
  | .storage => storage
  | .power => power
  | .cooling => cooling
  | .link => link

theorem byKind_apply {α : DomainKind → Type} (f : (k : DomainKind) → α k) :
    byKind (f .placement) (f .capacity) (f .failure) (f .network) (f .storage) (f .power)
      (f .cooling) (f .link) = f := by
  funext k
  cases k <;> rfl

def DomainKind.idTag : DomainKind → IdTag
  | .placement => .placementDomain
  | .capacity => .capacityDomain
  | .failure => .failureDomain
  | .network => .networkDomain
  | .storage => .storageDomain
  | .power => .powerDomain
  | .cooling => .coolingDomain
  | .link => .linkDomain

/-- `DomainTraits<...>::label`. -/
def DomainKind.label : DomainKind → Text
  | .placement => text "placement_domain"
  | .capacity => text "capacity_domain"
  | .failure => text "failure_domain"
  | .network => text "network_domain"
  | .storage => text "storage_domain"
  | .power => text "power_domain"
  | .cooling => text "cooling_domain"
  | .link => text "link_domain"

abbrev DomainId (k : DomainKind) := StrongId k.idTag

structure DomainHeader where
  evidence : EvidenceStamp := {}
  generation : DomainGeneration := .unknown
  publisher : Option RackPublisherId := none
  clusterEpoch : ClusterEpoch := .unknown
  coordinatorEpoch : CoordinatorEpoch := .unknown
  label : Text := []
  deriving DecidableEq

structure CapacityQuantity where
  unit : Text := []
  value : Option F64 := none
  provenance : EvidenceProvenance := .unknown
  aggregated : Bool := false
  deriving DecidableEq

/-- What a capacity domain adds to the common fields. -/
structure CapacityDetail where
  klass : CapacityDomainClass := .unknown
  quantities : List CapacityQuantity := []
  deriving DecidableEq

/-- The payload of each kind: a class, a connectivity class, a parent, or nothing. -/
def DomainDetail : DomainKind → Type
  | .placement => PlacementDomainClass
  | .capacity => CapacityDetail
  | .failure => FailureDomainClass
  | .network => ConnectivityClass
  | .storage => Unit
  | .power => Option PowerDomainId
  | .cooling => Option CoolingDomainId
  | .link => Unit

instance : (k : DomainKind) → DecidableEq (DomainDetail k)
  | .placement => inferInstanceAs (DecidableEq PlacementDomainClass)
  | .capacity => inferInstanceAs (DecidableEq CapacityDetail)
  | .failure => inferInstanceAs (DecidableEq FailureDomainClass)
  | .network => inferInstanceAs (DecidableEq ConnectivityClass)
  | .storage => inferInstanceAs (DecidableEq Unit)
  | .power => inferInstanceAs (DecidableEq (Option PowerDomainId))
  | .cooling => inferInstanceAs (DecidableEq (Option CoolingDomainId))
  | .link => inferInstanceAs (DecidableEq Unit)

/-- A domain record of kind `k`: `PlacementDomain`, `CapacityDomain` and so on. -/
structure Domain (k : DomainKind) where
  id : DomainId k
  detail : DomainDetail k
  racks : List RackId := []
  header : DomainHeader := {}
  deriving DecidableEq

/-- The enumerator of the class a kind is classified by; the unclassified kinds
have the constant one of the source's checks. -/
def Domain.classRaw : (k : DomainKind) → Domain k → Nat
  | .placement, d => Enumeration.raw (E := PlacementDomainClass) d.detail
  | .capacity, d => Enumeration.raw (CapacityDetail.klass d.detail)
  | .failure, d => Enumeration.raw (E := FailureDomainClass) d.detail
  | .network, d => Enumeration.raw (E := ConnectivityClass) d.detail
  | .storage, _ | .power, _ | .cooling, _ | .link, _ => 1

/-- The comparison of two optional doubles. -/
def optionalF64Eq : Option F64 → Option F64 → Bool
  | some x, some y => x.ieeeEq y
  | none, none => true
  | _, _ => false

def CapacityQuantity.eqv (a b : CapacityQuantity) : Bool :=
  a.unit == b.unit && optionalF64Eq a.value b.value && a.provenance == b.provenance &&
    a.aggregated == b.aggregated

/-- The defaulted equality of the payloads; quantities compare as doubles do. -/
def DomainDetail.eqv : (k : DomainKind) → DomainDetail k → DomainDetail k → Bool
  | .capacity, a, b =>
    CapacityDetail.klass a == CapacityDetail.klass b &&
      List.isEqv (CapacityDetail.quantities a) (CapacityDetail.quantities b) CapacityQuantity.eqv
  | _, a, b => decide (a = b)

/-- The defaulted equality of domain records. -/
def Domain.eqv {k : DomainKind} (a b : Domain k) : Bool :=
  decide (a.id = b.id) && DomainDetail.eqv k a.detail b.detail && decide (a.racks = b.racks) &&
    decide (a.header = b.header)

/-- The class aggregates, one per kind. -/
abbrev DomainGenerations := DomainKind → DomainGeneration

structure ClusterConstraint where
  id : ConstraintId := .unset
  kind : ConstraintKind := .unknown
  racks : List RackId := []
  domainRef : Text := []
  statement : Text := []
  header : DomainHeader := {}
  deriving DecidableEq

/-! ## Topology -/

structure InterRackLink where
  id : InterRackLinkId := .unset
  source : RackId := .unset
  destination : RackId := .unset
  direction : LinkDirection := .unknown
  connectivity : ConnectivityClass := .unknown
  networkDomain : Option NetworkDomainId := none
  linkDomain : Option LinkDomainId := none
  sourceEndpoint : Option RackEndpointId := none
  destinationEndpoint : Option RackEndpointId := none
  bandwidthClass : BandwidthClass := .unknown
  nominalBandwidthBps : Option UInt64 := none
  latencyClass : LatencyClass := .unknown
  nominalLatencyNanos : Option UInt64 := none
  hopCount : Option UInt32 := none
  reachability : Reachability := .unknown
  health : HealthState := .unknown
  failureDomains : List FailureDomainId := []
  header : DomainHeader := {}
  topologyEpoch : TopologyEpoch := .unknown
  topologyGeneration : TopologyGeneration := .unknown
  publication : PublicationGeneration := .unknown
  boot : Option RackAgentBootId := none
  deriving DecidableEq

structure TopologyEpochRecord where
  epoch : TopologyEpoch := .unknown
  generation : TopologyGeneration := .unknown
  establishedAt : Timestamp := .unknown
  evidence : EvidenceStamp := {}
  reason : Text := []
  deriving DecidableEq

/-! ## Cluster state -/

structure FencedAuthority where
  boot : RackAgentBootId := .unset
  rack : RackId := .unset
  reason : Text := []
  fencedAt : Timestamp := .unknown
  deriving DecidableEq

structure RetiredIdentity where
  rack : RackId := .unset
  lastGeneration : RackGeneration := .unknown
  retiredAt : Timestamp := .unknown
  reason : Text := []
  deriving DecidableEq

structure RackRecord where
  reference : RackReference := {}
  membership : RackMembershipState := .unknown
  membershipGeneration : MembershipGeneration := .unknown
  acceptedAtGeneration : ClusterGeneration := .unknown
  membershipEvidence : EvidenceStamp := {}
  authoritativeCurrent : Bool := false
  nonAuthoritativeReason : Text := []
  deriving DecidableEq

/-- The eleven canonical maps: racks, links, one map per kind of domain, and
constraints. -/
structure CanonicalRecords where
  racks : StdMap RackId RackRecord := .empty
  links : StdMap InterRackLinkId InterRackLink := .empty
  domains : (k : DomainKind) → StdMap (DomainId k) (Domain k) := fun _ => .empty
  constraints : StdMap ConstraintId ClusterConstraint := .empty

structure ClusterState extends CanonicalRecords where
  id : ClusterId := .unset
  epoch : ClusterEpoch := .unknown
  coordinatorEpoch : CoordinatorEpoch := .unknown
  generation : ClusterGeneration := .unknown
  membershipGeneration : MembershipGeneration := .unknown
  topologyEpoch : TopologyEpoch := .unknown
  topologyGeneration : TopologyGeneration := .unknown
  connectivityGeneration : ConnectivityGeneration := .unknown
  healthGeneration : HealthGeneration := .unknown
  constraintGeneration : ConstraintGeneration := .unknown
  domainGenerations : DomainGenerations := fun _ => .unknown
  snapshotGeneration : SnapshotGeneration := .unknown
  publicationGeneration : PublicationGeneration := .unknown
  lifecycle : ClusterLifecycle := .declared
  readinessContract : ReadinessContract := {}
  topologyRecord : TopologyEpochRecord := {}
  fencedAuthorities : List FencedAuthority := []
  retiredRacks : List RetiredIdentity := []
  withdrawnRacks : List RackId := []
  lastMutationAt : Timestamp := .unknown
  declaredAt : Timestamp := .unknown

namespace ClusterState

def placementDomains (s : ClusterState) : StdMap PlacementDomainId (Domain .placement) :=
  s.domains .placement

def failureDomains (s : ClusterState) : StdMap FailureDomainId (Domain .failure) :=
  s.domains .failure

def networkDomains (s : ClusterState) : StdMap NetworkDomainId (Domain .network) :=
  s.domains .network

def linkDomains (s : ClusterState) : StdMap LinkDomainId (Domain .link) := s.domains .link

def hasRack (s : ClusterState) (rack : RackId) : Bool := s.racks.contains rack

/-- Whether the rack is recorded with a decided membership. -/
def isRackMember (s : ClusterState) (rack : RackId) : Bool :=
  match s.racks.find? rack with
  | none => false
  | some record => record.membership != .unknown

def isBootFenced (s : ClusterState) (boot : RackAgentBootId) : Bool :=
  s.fencedAuthorities.any fun fenced => fenced.boot == boot

def isRackRetired (s : ClusterState) (rack : RackId) : Bool :=
  s.retiredRacks.any fun retired => retired.rack == rack

theorem isBootFenced_iff {s : ClusterState} {boot : RackAgentBootId} :
    s.isBootFenced boot = true ↔ boot ∈ s.fencedAuthorities.map FencedAuthority.boot := by
  simp [isBootFenced]

theorem isRackRetired_iff {s : ClusterState} {rack : RackId} :
    s.isRackRetired rack = true ↔ rack ∈ s.retiredRacks.map RetiredIdentity.rack := by
  simp [isRackRetired]

end ClusterState

end ClusterFabric
