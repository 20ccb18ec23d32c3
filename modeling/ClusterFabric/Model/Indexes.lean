import ClusterFabric.Model.Records

/-! # Derived indexes

`ClusterIndexes` of `cluster_state.cpp`: query structures that are rebuilt from
canonical state as a whole, and the query that reads them.
-/

namespace ClusterFabric

open Lib

instance : LinearOrder PlacementDomainClass := Enumeration.linearOrder
instance : LinearOrder FailureDomainClass := Enumeration.linearOrder
instance : LinearOrder RackMembershipState := Enumeration.linearOrder

structure ClusterIndexes where
  rackCount : Nat := 0
  racksInPlacement : StdMap PlacementDomainId (List RackId) := .empty
  racksInCapacity : StdMap CapacityDomainId (List RackId) := .empty
  racksInFailure : StdMap FailureDomainId (List RackId) := .empty
  racksInNetwork : StdMap NetworkDomainId (List RackId) := .empty
  placementOfRack : StdMap RackId (List PlacementDomainId) := .empty
  capacityOfRack : StdMap RackId (List CapacityDomainId) := .empty
  failureOfRack : StdMap RackId (List FailureDomainId) := .empty
  networkOfRack : StdMap RackId (List NetworkDomainId) := .empty
  linksFrom : StdMap RackId (List InterRackLinkId) := .empty
  linksTo : StdMap RackId (List InterRackLinkId) := .empty
  placementByClass : StdMap PlacementDomainClass (List PlacementDomainId) := .empty
  failureByClass : StdMap FailureDomainClass (List FailureDomainId) := .empty
  racksByMembership : StdMap RackMembershipState (List RackId) := .empty
  racksByBoot : StdMap RackAgentBootId (List RackId) := .empty

section Rebuild

variable [StdSort] {k : DomainKind}

/-- The member lists of one kind of domain. -/
def memberIndex (domains : StdMap (DomainId k) (Domain k)) : StdMap (DomainId k) (List RackId) :=
  domains.mapValues fun _ domain => sortUnique domain.racks

/-- The domains of one kind that each rack belongs to. -/
def membershipIndex (domains : StdMap (DomainId k) (Domain k)) :
    StdMap RackId (List (DomainId k)) :=
  (StdMap.pushAll (domains.entries.flatMap fun (id, domain) =>
    (sortUnique domain.racks).map fun rack => (rack, id))).mapValues fun _ ids =>
      sortBy (fun id => id) ids

/-- The links by one of their ends. -/
def linkIndex (links : StdMap InterRackLinkId InterRackLink) (endpoint : InterRackLink → RackId) :
    StdMap RackId (List InterRackLinkId) :=
  (StdMap.pushAll (links.entries.map fun (id, link) => (endpoint link, id))).mapValues
    fun _ ids => sortBy (fun id => id) ids

/-- The racks by an attribute of their records. -/
def rackIndex {K : Type} [LinearOrder K] (racks : StdMap RackId RackRecord)
    (keyOf : RackRecord → K) : StdMap K (List RackId) :=
  StdMap.pushAll (racks.entries.map fun (rack, record) => (keyOf record, rack))

/-- `ClusterIndexes::rebuild`. -/
def ClusterIndexes.rebuild (s : ClusterState) : ClusterIndexes where
  rackCount := s.racks.size
  racksInPlacement := memberIndex (s.domains .placement)
  racksInCapacity := memberIndex (s.domains .capacity)
  racksInFailure := memberIndex (s.domains .failure)
  racksInNetwork := memberIndex (s.domains .network)
  placementOfRack := membershipIndex (s.domains .placement)
  capacityOfRack := membershipIndex (s.domains .capacity)
  failureOfRack := membershipIndex (s.domains .failure)
  networkOfRack := membershipIndex (s.domains .network)
  linksFrom := linkIndex s.links InterRackLink.source
  linksTo := linkIndex s.links InterRackLink.destination
  placementByClass :=
    StdMap.pushAll (s.placementDomains.entries.map fun (id, domain) => (domain.detail, id))
  failureByClass :=
    StdMap.pushAll (s.failureDomains.entries.map fun (id, domain) => (domain.detail, id))
  racksByMembership := rackIndex s.racks RackRecord.membership
  racksByBoot := rackIndex s.racks fun record => record.reference.boot

end Rebuild

/-! ## Queries

A key without an entry is answered with the empty list. -/

namespace ClusterIndexes

variable (indexes : ClusterIndexes)

def racksInPlacementDomain (id : PlacementDomainId) : List RackId :=
  indexes.racksInPlacement.listAt id

def racksInCapacityDomain (id : CapacityDomainId) : List RackId := indexes.racksInCapacity.listAt id

def racksInFailureDomain (id : FailureDomainId) : List RackId := indexes.racksInFailure.listAt id

def racksInNetworkDomain (id : NetworkDomainId) : List RackId := indexes.racksInNetwork.listAt id

def placementDomainsOf (rack : RackId) : List PlacementDomainId :=
  indexes.placementOfRack.listAt rack

def capacityDomainsOf (rack : RackId) : List CapacityDomainId := indexes.capacityOfRack.listAt rack

def failureDomainsOf (rack : RackId) : List FailureDomainId := indexes.failureOfRack.listAt rack

def networkDomainsOf (rack : RackId) : List NetworkDomainId := indexes.networkOfRack.listAt rack

def linksFromRack (rack : RackId) : List InterRackLinkId := indexes.linksFrom.listAt rack

def linksToRack (rack : RackId) : List InterRackLinkId := indexes.linksTo.listAt rack

def placementDomainsOfClass (klass : PlacementDomainClass) : List PlacementDomainId :=
  indexes.placementByClass.listAt klass

def failureDomainsOfClass (klass : FailureDomainClass) : List FailureDomainId :=
  indexes.failureByClass.listAt klass

def racksInMembershipState (membership : RackMembershipState) : List RackId :=
  indexes.racksByMembership.listAt membership

def racksForBoot (boot : RackAgentBootId) : List RackId := indexes.racksByBoot.listAt boot

end ClusterIndexes

/-! ## Independence of failure domains -/

inductive DomainIndependence
  | unknown | independent | shared | revalidationRequired
  deriving DecidableEq, Repr

def Domain.failureClass (domain : Domain .failure) : FailureDomainClass := domain.detail

/-- What the loops over the domains of the two racks have seen. -/
structure IndependenceScan where
  lhsHasCurrent : Bool := false
  rhsHasCurrent : Bool := false
  revalidation : Bool := false
  shared : Bool := false

/-- One iteration of either loop. The source writes the loop twice and tests the
two racks in the order of the list it runs over; the flags come out the same. -/
def IndependenceScan.visit (s : ClusterState) (lhs rhs : RackId) (klass : FailureDomainClass)
    (scan : IndependenceScan) (id : FailureDomainId) : IndependenceScan :=
  match s.failureDomains.find? id with
  | none => scan
  | some domain =>
    if domain.failureClass ≠ klass then scan
    else if domain.header.evidence.requiresRevalidation then { scan with revalidation := true }
    else if !domain.header.evidence.isCurrent then scan
    else
      let inLhs := binarySearch domain.racks lhs
      let inRhs := binarySearch domain.racks rhs
      { scan with
        lhsHasCurrent := scan.lhsHasCurrent || inLhs
        rhsHasCurrent := scan.rhsHasCurrent || inRhs
        shared := scan.shared || (inLhs && inRhs) }

/-- `failure_domain_independence`. -/
def failureDomainIndependence (s : ClusterState) (indexes : ClusterIndexes) (lhs rhs : RackId)
    (klass : FailureDomainClass) : DomainIndependence :=
  if klass = .unknown then .unknown
  else if !s.hasRack lhs || !s.hasRack rhs then .unknown
  else
    let visit := IndependenceScan.visit s lhs rhs klass
    let scan := (indexes.failureDomainsOf rhs).foldl visit
      ((indexes.failureDomainsOf lhs).foldl visit {})
    if scan.shared then .shared
    else if scan.revalidation then .revalidationRequired
    else if scan.lhsHasCurrent && scan.rhsHasCurrent then .independent
    else .unknown

end ClusterFabric
