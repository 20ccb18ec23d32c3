import ClusterFabric.Model.Readiness
import ClusterFabric.Model.Indexes

/-! # Invariant checking

`invariant.cpp`. A report lists what was found; the order in which the checks
are made does not matter once the report is sorted, and an empty report is
what the commit path asks for.
-/

namespace ClusterFabric

open Lib

inductive InvariantId
  | unknown | singleClusterIdentity | clusterEpochKnown | coordinatorEpochKnown
  | clusterGenerationKnown | generationsMonotonic | membershipGenerationConsistent
  | topologyEpochKnown | topologyGenerationConsistent | rackIdentitiesValid
  | rackGenerationAuthoritative | rackGenerationUnique | rackNotFenced | rackNotRetired
  | rackMembershipConsistent | rackReferenceBounded | linkEndpointsResolve
  | linkDirectionConsistent | linkNoSelfLoop | linkIdentitiesUnique | domainMembersResolve
  | domainClassConsistent | domainGenerationsConsistent | constraintReferencesResolve
  | indexMatchesCanonical | snapshotMapMatchesState | lifecycleConsistent
  | unknownNeverPositive | recoveredEvidenceNotCurrent | fencedAuthorityConsistent
  | countsWithinBounds | accountingBaseline
  deriving DecidableEq, Repr

instance : Enumeration InvariantId where
  all := [.unknown, .singleClusterIdentity, .clusterEpochKnown, .coordinatorEpochKnown,
    .clusterGenerationKnown, .generationsMonotonic, .membershipGenerationConsistent,
    .topologyEpochKnown, .topologyGenerationConsistent, .rackIdentitiesValid,
    .rackGenerationAuthoritative, .rackGenerationUnique, .rackNotFenced, .rackNotRetired,
    .rackMembershipConsistent, .rackReferenceBounded, .linkEndpointsResolve,
    .linkDirectionConsistent, .linkNoSelfLoop, .linkIdentitiesUnique, .domainMembersResolve,
    .domainClassConsistent, .domainGenerationsConsistent, .constraintReferencesResolve,
    .indexMatchesCanonical, .snapshotMapMatchesState, .lifecycleConsistent,
    .unknownNeverPositive, .recoveredEvidenceNotCurrent, .fencedAuthorityConsistent,
    .countsWithinBounds, .accountingBaseline]
  mem_all e := by cases e <;> decide

def InvariantId.toText : InvariantId → Text
  | .unknown => text "UNKNOWN"
  | .singleClusterIdentity => text "SINGLE_CLUSTER_IDENTITY"
  | .clusterEpochKnown => text "CLUSTER_EPOCH_KNOWN"
  | .coordinatorEpochKnown => text "COORDINATOR_EPOCH_KNOWN"
  | .clusterGenerationKnown => text "CLUSTER_GENERATION_KNOWN"
  | .generationsMonotonic => text "GENERATIONS_MONOTONIC"
  | .membershipGenerationConsistent => text "MEMBERSHIP_GENERATION_CONSISTENT"
  | .topologyEpochKnown => text "TOPOLOGY_EPOCH_KNOWN"
  | .topologyGenerationConsistent => text "TOPOLOGY_GENERATION_CONSISTENT"
  | .rackIdentitiesValid => text "RACK_IDENTITIES_VALID"
  | .rackGenerationAuthoritative => text "RACK_GENERATION_AUTHORITATIVE"
  | .rackGenerationUnique => text "RACK_GENERATION_UNIQUE"
  | .rackNotFenced => text "RACK_NOT_FENCED"
  | .rackNotRetired => text "RACK_NOT_RETIRED"
  | .rackMembershipConsistent => text "RACK_MEMBERSHIP_CONSISTENT"
  | .rackReferenceBounded => text "RACK_REFERENCE_BOUNDED"
  | .linkEndpointsResolve => text "LINK_ENDPOINTS_RESOLVE"
  | .linkDirectionConsistent => text "LINK_DIRECTION_CONSISTENT"
  | .linkNoSelfLoop => text "LINK_NO_SELF_LOOP"
  | .linkIdentitiesUnique => text "LINK_IDENTITIES_UNIQUE"
  | .domainMembersResolve => text "DOMAIN_MEMBERS_RESOLVE"
  | .domainClassConsistent => text "DOMAIN_CLASS_CONSISTENT"
  | .domainGenerationsConsistent => text "DOMAIN_GENERATIONS_CONSISTENT"
  | .constraintReferencesResolve => text "CONSTRAINT_REFERENCES_RESOLVE"
  | .indexMatchesCanonical => text "INDEX_MATCHES_CANONICAL"
  | .snapshotMapMatchesState => text "SNAPSHOT_MAP_MATCHES_STATE"
  | .lifecycleConsistent => text "LIFECYCLE_CONSISTENT"
  | .unknownNeverPositive => text "UNKNOWN_NEVER_POSITIVE"
  | .recoveredEvidenceNotCurrent => text "RECOVERED_EVIDENCE_NOT_CURRENT"
  | .fencedAuthorityConsistent => text "FENCED_AUTHORITY_CONSISTENT"
  | .countsWithinBounds => text "COUNTS_WITHIN_BOUNDS"
  | .accountingBaseline => text "ACCOUNTING_BASELINE"

structure InvariantViolation where
  id : InvariantId
  subject : Text
  detail : Text
  deriving DecidableEq

structure InvariantReport where
  violations : List InvariantViolation := []

def InvariantReport.isOk (report : InvariantReport) : Bool := report.violations.isEmpty

def InvariantReport.describe (report : InvariantReport) : Text :=
  if report.violations.isEmpty then text "invariants=ok"
  else
    text "invariants=violated count=" ++ decimal report.violations.length ++
      report.violations.flatMap fun v =>
        text "\n" ++ v.id.toText ++ text " " ++ v.subject ++ text ": " ++ v.detail

/-- One check: a violation when the condition holds. -/
def violated (c : Prop) [Decidable c] (id : InvariantId) (subject : Text) (detail : String) :
    List InvariantViolation :=
  flag c ⟨id, subject, text detail⟩

@[simp] theorem violated_eq_nil {c : Prop} [Decidable c] {id : InvariantId} {subject : Text}
    {detail : String} : violated c id subject detail = [] ↔ ¬ c := flag_eq_nil

/-- Sorts a report by identifier, subject and detail. -/
def InvariantReport.finish [StdSort] (violations : List InvariantViolation) : InvariantReport where
  violations := StdSort.sort
    (fun a b => if a.id ≠ b.id then decide (Enumeration.raw a.id < Enumeration.raw b.id)
      else if a.subject ≠ b.subject then decide (a.subject < b.subject)
      else decide (a.detail < b.detail)) violations

def sortedUnique (values : List RackId) : Bool := isSorted values && noAdjacentEqual values

def linkSubject (id : InterRackLinkId) : Text := text "link/" ++ id.value

def domainSubject {k : DomainKind} (id : DomainId k) : Text := k.label ++ text "/" ++ id.value

section Checks

variable (s : ClusterState)

/-- Nothing is recorded: no map and no list has an entry. -/
def ClusterState.isVacant : Bool :=
  s.racks.isEmpty && s.links.isEmpty && DomainKind.all.all (fun k => (s.domains k).isEmpty) &&
    s.constraints.isEmpty && s.retiredRacks.isEmpty && s.withdrawnRacks.isEmpty &&
    s.fencedAuthorities.isEmpty

def checkScalars : List InvariantViolation :=
  let cluster := text "cluster"
  violated s.id.isEmpty .singleClusterIdentity cluster "cluster identity is empty" ++
  violated (!s.epoch.known) .clusterEpochKnown cluster "cluster epoch is zero" ++
  violated (!s.coordinatorEpoch.known) .coordinatorEpochKnown cluster
    "coordinator epoch is zero" ++
  violated (!s.generation.known) .clusterGenerationKnown cluster "cluster generation is zero" ++
  violated (!s.membershipGeneration.known) .generationsMonotonic cluster
    "membership generation is zero" ++
  violated (!s.topologyEpoch.known) .topologyEpochKnown cluster "topology epoch is zero" ++
  violated (!s.topologyGeneration.known) .topologyGenerationConsistent cluster
    "topology generation is zero" ++
  flag (s.topologyRecord.epoch ≠ s.topologyEpoch)
    ⟨.topologyGenerationConsistent, cluster, text "topology record epoch " ++
      s.topologyRecord.epoch.str ++ text " does not match " ++ s.topologyEpoch.str⟩ ++
  flag (s.topologyRecord.generation ≠ s.topologyGeneration)
    ⟨.topologyGenerationConsistent, cluster, text "topology record generation " ++
      s.topologyRecord.generation.str ++ text " does not match " ++ s.topologyGeneration.str⟩ ++
  violated (s.generation.value < s.membershipGeneration.value) .membershipGenerationConsistent
    cluster "membership generation exceeds cluster generation" ++
  violated (s.generation.value < s.topologyGeneration.value) .topologyGenerationConsistent
    cluster "topology generation exceeds cluster generation"

def checkCounts : List InvariantViolation :=
  let cluster := text "cluster"
  violated (maxRacksPerCluster < s.racks.size) .countsWithinBounds cluster
    "rack count exceeds the configured bound" ++
  violated (maxInterRackLinks < s.links.size) .countsWithinBounds cluster
    "link count exceeds the configured bound" ++
  violated (maxConstraints < s.constraints.size) .countsWithinBounds cluster
    "constraint count exceeds the configured bound" ++
  -- The loop over the eight counts stops at the first that is too large.
  violated (DomainKind.all.any fun k => maxDomainsPerClass < (s.domains k).size)
    .countsWithinBounds cluster "domain count exceeds the configured bound"

def checkRack (rack : RackId) (record : RackRecord) : List InvariantViolation :=
  let subject := rackSubject rack
  let reference := record.reference
  violated (reference.rack ≠ rack) .rackIdentitiesValid subject
    "record key does not match the referenced rack identity" ++
  violated (!reference.generation.known) .rackGenerationAuthoritative subject
    "rack generation is zero" ++
  violated (maxRackEndpoints < reference.endpoints.length) .rackReferenceBounded subject
    "endpoint count exceeds the bound" ++
  violated (maxFailureDomainRefs < reference.failureDomainHints.length) .rackReferenceBounded
    subject "failure domain hint count exceeds the bound" ++
  violated (record.membership = .unknown ∧ record.authoritativeCurrent = true)
    .rackMembershipConsistent subject
    "registered rack with UNKNOWN membership is marked authoritative current" ++
  violated (record.membership = .unknown ∧ reference.currentness ≠ .unknown ∧
      reference.currentness ≠ .revalidationRequired) .rackMembershipConsistent subject
    "registered rack with UNKNOWN membership claims a decided currentness" ++
  violated (s.membershipGeneration.value < record.membershipGeneration.value)
    .membershipGenerationConsistent subject
    "record membership generation exceeds the cluster membership generation" ++
  if !record.authoritativeCurrent then []
  else
    violated reference.generation.isZero .rackGenerationAuthoritative subject
      "authoritative rack has an unknown generation" ++
    violated (s.isBootFenced reference.boot) .rackNotFenced subject
      "authoritative rack is published under a fenced process incarnation" ++
    violated (s.isRackRetired rack) .rackNotRetired subject
      "retired rack is still authoritative current" ++
    violated (reference.evidence.provenance = .unknown) .unknownNeverPositive subject
      "authoritative rack carries UNKNOWN provenance" ++
    violated (reference.evidence.provenance = .reconstructed) .recoveredEvidenceNotCurrent
      subject "recovered rack evidence is marked authoritative current"

def checkLink (id : InterRackLinkId) (link : InterRackLink) : List InvariantViolation :=
  let subject := linkSubject id
  violated (link.id ≠ id) .linkIdentitiesUnique subject
    "record key does not match the link identity" ++
  flag (!s.isRackMember link.source) ⟨.linkEndpointsResolve, subject,
    text "source rack " ++ link.source.value ++ text " is not a member of this cluster"⟩ ++
  flag (!s.isRackMember link.destination) ⟨.linkEndpointsResolve, subject,
    text "destination rack " ++ link.destination.value ++
      text " is not a member of this cluster"⟩ ++
  violated (link.source = link.destination) .linkNoSelfLoop subject
    "link connects a rack to itself" ++
  violated (link.direction = .unknown) .linkDirectionConsistent subject
    "link direction is UNKNOWN" ++
  violated (link.topologyEpoch ≠ s.topologyEpoch ∧
      link.header.evidence.requiresRevalidation = false) .topologyGenerationConsistent subject
    "link topology epoch does not match the cluster topology epoch" ++
  violated (link.topologyEpoch ≠ s.topologyEpoch ∧
      (link.reachability = .reachable ∨ link.reachability = .unreachable ∨
        link.health ≠ .unknown)) .topologyGenerationConsistent subject
    "link from a superseded topology epoch still claims reachability or health" ++
  violated (s.topologyGeneration.value < link.topologyGeneration.value)
    .topologyGenerationConsistent subject
    "link topology generation exceeds the cluster topology generation" ++
  link.failureDomains.flatMap fun domain =>
    flag (!s.failureDomains.contains domain) ⟨.linkEndpointsResolve, subject,
      text "link references unknown failure domain " ++ domain.value⟩

/-- `check_domain` on one record. -/
def checkDomain {k : DomainKind} (id : DomainId k) (domain : Domain k) : List InvariantViolation :=
  let subject := domainSubject id
  violated (Domain.classRaw k domain = 0) .domainClassConsistent subject
    "domain class is UNKNOWN" ++
  (domain.racks.flatMap fun rack =>
    flag (!s.isRackMember rack) ⟨.domainMembersResolve, subject,
      text "member rack " ++ rack.value ++ text " is not a member of this cluster"⟩) ++
  violated (!sortedUnique domain.racks) .domainMembersResolve subject
    "member rack list is not sorted and unique"

/-- `max_generation`. -/
def maxGeneration {k : DomainKind} (domains : StdMap (DomainId k) (Domain k)) : Nat :=
  domains.values.foldl (fun value domain => max value domain.header.generation.value) 0

/-- The word of the aggregate in its message. -/
def DomainKind.word : DomainKind → String
  | .placement => "placement"
  | .capacity => "capacity"
  | .failure => "failure"
  | .network => "network"
  | .storage => "storage"
  | .power => "power"
  | .cooling => "cooling"
  | .link => "link"

def checkDomainGeneration (k : DomainKind) : List InvariantViolation :=
  flag ((s.domainGenerations k).value < maxGeneration (s.domains k))
    ⟨.domainGenerationsConsistent, k.label,
      text "a domain record generation exceeds the aggregate " ++ text k.word ++
        text " generation"⟩

def checkConstraint (id : ConstraintId) (constraint : ClusterConstraint) :
    List InvariantViolation :=
  constraint.racks.flatMap fun rack =>
    flag (!s.isRackMember rack) ⟨.constraintReferencesResolve, text "constraint/" ++ id.value,
      text "constraint references rack " ++ rack.value ++ text " which is not a member"⟩

def checkWithdrawn : List InvariantViolation :=
  violated (!sortedUnique s.withdrawnRacks) .rackMembershipConsistent (text "cluster")
    "withdrawn rack list is not sorted and unique" ++
  (s.withdrawnRacks.flatMap fun rack =>
    violated ((s.racks.find? rack).map RackRecord.membership ≠ some .withdrawn)
      .rackMembershipConsistent (rackSubject rack)
      "rack is listed as withdrawn but its membership state disagrees") ++
  s.racks.entries.flatMap fun (rack, record) =>
    violated (record.membership = .withdrawn ∧ binarySearch s.withdrawnRacks rack = false)
      .rackMembershipConsistent (rackSubject rack)
      "membership is withdrawn but the rack is absent from the withdrawn list"

def checkFenced : List InvariantViolation :=
  violated (!adjacent (fun a b => decide (a.boot < b.boot)) s.fencedAuthorities)
    .fencedAuthorityConsistent (text "cluster")
    "fenced authority list is not strictly sorted by boot identity" ++
  s.fencedAuthorities.flatMap fun fenced =>
    violated ((s.racks.find? fenced.rack).any fun record =>
        record.authoritativeCurrent && record.reference.boot == fenced.boot)
      .rackNotFenced (rackSubject fenced.rack)
      "fenced process incarnation is still authoritative current"

def checkRetired : List InvariantViolation :=
  violated (!adjacent (fun a b => decide (a.rack < b.rack)) s.retiredRacks) .rackNotRetired
    (text "cluster") "retired identity list is not strictly sorted by rack identity"

def checkLifecycle [StdSort] : List InvariantViolation :=
  violated (s.lifecycle = .ready ∧ (evaluateReadiness s).satisfied = false)
    .lifecycleConsistent (text "cluster")
    "cluster is READY but the readiness contract is not satisfied" ++
  s.racks.entries.flatMap fun (rack, record) =>
    violated (s.lifecycle = .retired ∧ record.authoritativeCurrent = true) .lifecycleConsistent
      (rackSubject rack) "rack is authoritative current in a RETIRED cluster"

def checkSnapshot : List InvariantViolation :=
  violated (s.publicationGeneration.value < s.snapshotGeneration.value)
    .snapshotMapMatchesState (text "cluster")
    "snapshot generation exceeds the publication generation"

/-- Every check of canonical state, in the order of the source. -/
def stateViolations [StdSort] : List InvariantViolation :=
  checkScalars s ++ checkCounts s ++
  s.racks.entries.flatMap (fun (rack, record) => checkRack s rack record) ++
  s.links.entries.flatMap (fun (id, link) => checkLink s id link) ++
  DomainKind.all.flatMap (fun k =>
    (s.domains k).entries.flatMap fun (id, domain) => checkDomain s id domain) ++
  DomainKind.all.flatMap (checkDomainGeneration s) ++
  s.constraints.entries.flatMap (fun (id, constraint) => checkConstraint s id constraint) ++
  checkWithdrawn s ++ checkFenced s ++ checkRetired s ++ checkLifecycle s ++ checkSnapshot s

end Checks

section IndexChecks

variable [StdSort]

/-- The index checks of one kind of domain. -/
def checkMemberIndex {k : DomainKind} (domains : StdMap (DomainId k) (Domain k))
    (index : StdMap (DomainId k) (List RackId)) : List InvariantViolation :=
  domains.entries.flatMap fun (id, domain) =>
    violated (index.listAt id ≠ sortUnique domain.racks) .indexMatchesCanonical
      (domainSubject id) "index member list does not match the canonical record"

/-- The check of one rack against the index of its domains. -/
def checkMembershipIndex {k : DomainKind} (domains : StdMap (DomainId k) (Domain k))
    (index : StdMap RackId (List (DomainId k))) (rack : RackId) (detail : String) :
    List InvariantViolation :=
  violated (index.listAt rack ≠
      (domains.entries.filter fun e => binarySearch e.2.racks rack).map Prod.fst)
    .indexMatchesCanonical (rackSubject rack) detail

/-- The check of an index of racks by an attribute: the first key that differs
ends the loop. -/
def checkRackIndex {K : Type} [LinearOrder K] (s : ClusterState)
    (keyOf : RackRecord → K) (index : StdMap K (List RackId)) (subject : K → Text)
    (detail : String) : List InvariantViolation :=
  match (rackIndex s.racks keyOf).entries.find? fun e => index.listAt e.1 != e.2 with
  | none => []
  | some (key, _) => [⟨.indexMatchesCanonical, subject key, text detail⟩]

/-- `check_indexes`, before the report is sorted. -/
def indexViolations (s : ClusterState) (indexes : ClusterIndexes) : List InvariantViolation :=
  checkMemberIndex (s.domains .placement) indexes.racksInPlacement ++
  checkMemberIndex (s.domains .capacity) indexes.racksInCapacity ++
  checkMemberIndex (s.domains .failure) indexes.racksInFailure ++
  checkMemberIndex (s.domains .network) indexes.racksInNetwork ++
  (s.racks.entries.flatMap fun (rack, _) =>
    checkMembershipIndex (s.domains .placement) indexes.placementOfRack rack
      "placement domain index does not match canonical records" ++
    checkMembershipIndex (s.domains .failure) indexes.failureOfRack rack
      "failure domain index does not match canonical records") ++
  (s.links.entries.flatMap fun (id, link) =>
    violated (binarySearch (indexes.linksFrom.listAt link.source) id = false)
      .indexMatchesCanonical (linkSubject id) "source index is missing this link" ++
    violated (binarySearch (indexes.linksTo.listAt link.destination) id = false)
      .indexMatchesCanonical (linkSubject id) "destination index is missing this link") ++
  checkRackIndex s RackRecord.membership indexes.racksByMembership (fun _ => text "cluster")
    "membership index does not match canonical records" ++
  checkRackIndex s (fun record => record.reference.boot) indexes.racksByBoot
    (fun boot => text "boot/" ++ boot.value) "boot index does not match canonical records"

def checkIndexes (s : ClusterState) (indexes : ClusterIndexes) : InvariantReport :=
  .finish (indexViolations s indexes)

/-- `check_invariants`. A state in which nothing is recorded has nothing to
violate, whatever its scalars are. -/
def checkInvariants (s : ClusterState) (indexes : Option ClusterIndexes) : InvariantReport :=
  if s.isVacant then {}
  else
    .finish (stateViolations s ++
      match indexes with
      | none => []
      | some indexes => (checkIndexes s indexes).violations)

end IndexChecks

end ClusterFabric
