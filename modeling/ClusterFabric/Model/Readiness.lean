import ClusterFabric.Lib.Transaction
import ClusterFabric.Model.Records

/-! # Queries over canonical state

`cluster_state.cpp`: the reachability query and the evaluation of the readiness
contract.
-/

namespace ClusterFabric

open Lib

/-! ## Rack predicates -/

def isActive (record : RackRecord) : Bool := record.membership == .active

def isCurrentActive (record : RackRecord) : Bool := isActive record && record.authoritativeCurrent

def needsRevalidation (record : RackRecord) : Bool :=
  isActive record &&
    (record.reference.currentness == .revalidationRequired ||
      record.reference.evidence.requiresRevalidation)

/-! ## Reachability -/

/-- Whether the link speaks about the directed pair. -/
def InterRackLink.connects (link : InterRackLink) (source destination : RackId) : Bool :=
  (link.source == source && link.destination == destination) ||
    (link.source == destination && link.destination == source && link.direction == .bidirectional)

/-- What the loop over the links has seen. -/
structure ReachabilityScan where
  sawCurrent : Bool := false
  sawReachable : Bool := false
  sawUnreachable : Bool := false
  sawRevalidation : Bool := false

/-- One iteration of the loop over the links. -/
def ReachabilityScan.visit (source destination : RackId) (scan : ReachabilityScan)
    (link : InterRackLink) : ReachabilityScan :=
  if !link.connects source destination then scan
  else if link.header.evidence.requiresRevalidation then { scan with sawRevalidation := true }
  else if !link.header.evidence.isCurrent then scan
  else
    let scan := { scan with sawCurrent := true }
    match link.reachability with
    | .reachable => { scan with sawReachable := true }
    | .unreachable => { scan with sawUnreachable := true }
    | .revalidationRequired => { scan with sawRevalidation := true }
    | .unknown => scan

def reachabilityBetween (s : ClusterState) (source destination : RackId) : Reachability :=
  if !s.hasRack source || !s.hasRack destination then .unknown
  else
    let scan := s.links.values.foldl (ReachabilityScan.visit source destination) {}
    if scan.sawReachable then .reachable
    else if scan.sawRevalidation then .revalidationRequired
    else if scan.sawCurrent && scan.sawUnreachable then .unreachable
    else .unknown

/-! ## Readiness -/

structure ReadinessBlocker where
  code : Text
  subject : Text
  detail : Text
  deriving DecidableEq

structure ReadinessEvaluation where
  satisfied : Bool := false
  lifecycle : ClusterLifecycle := .declared
  blockers : List ReadinessBlocker := []

/-- A blocker whose code, subject and detail are as the source writes them. -/
def blocker (code : String) (subject detail : Text) : ReadinessBlocker :=
  ⟨text code, subject, detail⟩

namespace ClusterState

variable (s : ClusterState)

def activeCount : Nat := s.racks.values.countP isActive

def currentCount : Nat := s.racks.values.countP isCurrentActive

def anyRevalidation : Bool := s.racks.values.any needsRevalidation

def currentLinks : Nat := s.links.values.countP fun link => link.header.evidence.isCurrent

/-- The minimum of current racks is missed. -/
def belowMinimumRacks : Bool :=
  decide (s.currentCount < s.readinessContract.minimumCurrentRacks.toNat)

/-- A mandatory rack that is an active member and not current. -/
def mandatoryNotCurrent (rack : RackId) : Bool :=
  match s.racks.find? rack with
  | none => false
  | some record => isActive record && !isCurrentActive record

/-- The blocker of one mandatory rack: the first of its three conditions that
fails. -/
def mandatoryBlockers (rack : RackId) : List ReadinessBlocker :=
  match s.racks.find? rack with
  | none =>
    [blocker "mandatory_rack_missing" (rackSubject rack)
      (text "mandatory rack is not a member of this cluster")]
  | some record =>
    if !isActive record then
      [blocker "mandatory_rack_not_active" (rackSubject rack)
        (text "mandatory rack membership is " ++ record.membership.toText)]
    else
      flag (!isCurrentActive record) <|
        blocker "mandatory_rack_not_current" (rackSubject rack)
          (text "mandatory rack is not authoritative current: " ++
            if record.nonAuthoritativeReason.isEmpty then text "unknown reason"
            else record.nonAuthoritativeReason)

def countBlockers : List ReadinessBlocker :=
  flag (s.activeCount = 0)
    (blocker "no_active_rack" (text "cluster")
      (text "no rack is a member with membership ACTIVE")) ++
  flag s.belowMinimumRacks
    (blocker "minimum_current_racks_not_met" (text "cluster")
      (text "current racks " ++ decimal s.currentCount ++ text " is below the required " ++
        decimal s.readinessContract.minimumCurrentRacks.toNat))

/-- The blockers of the recorded racks that are active but not current, and of
those that must be revalidated. -/
def rackBlockers : List ReadinessBlocker :=
  (if s.readinessContract.requireAllActiveRacksCurrent then
    s.racks.entries.flatMap fun (rack, record) =>
      flag (isActive record && !record.authoritativeCurrent) <|
        blocker "active_rack_not_current" (rackSubject rack)
          (if record.nonAuthoritativeReason.isEmpty then
            text "active rack is not authoritative current"
          else record.nonAuthoritativeReason)
  else []) ++
  s.racks.entries.flatMap fun (rack, record) =>
    flag (needsRevalidation record) <|
      blocker "rack_revalidation_required" (rackSubject rack)
        (text "dynamic evidence owned by a fenced or restarted authority must be " ++
          text "republished before the rack is current")

def linkBlockers : List ReadinessBlocker :=
  flag (s.readinessContract.requireConnectivityEvidence = true ∧ s.currentLinks = 0)
    (blocker "connectivity_evidence_missing" (text "cluster")
      (text "no inter-rack link carries current evidence")) ++
  flag (s.currentLinks < s.readinessContract.minimumCurrentLinks.toNat)
    (blocker "minimum_current_links_not_met" (text "cluster")
      (text "current links " ++ decimal s.currentLinks ++ text " is below the required " ++
        decimal s.readinessContract.minimumCurrentLinks.toNat))

def domainClassBlockers : List ReadinessBlocker :=
  (s.readinessContract.requiredPlacementDomainClasses.flatMap fun klass =>
    flag (!s.placementDomains.values.any fun d =>
        decide (d.detail = klass) && d.header.evidence.isCurrent) <|
      blocker "placement_domain_class_missing" (text "placement_domain_class/" ++ klass.toText)
        (text "no current placement domain of the required class")) ++
  s.readinessContract.requiredFailureDomainClasses.flatMap fun klass =>
    flag (!s.failureDomains.values.any fun d =>
        decide (d.detail = klass) && d.header.evidence.isCurrent) <|
      blocker "failure_domain_class_missing" (text "failure_domain_class/" ++ klass.toText)
        (text "no current failure domain of the required class")

def conflictBlockers : List ReadinessBlocker :=
  if !s.readinessContract.requireNoConflicts then []
  else
    (s.links.entries.flatMap fun (id, link) =>
      flag (!s.hasRack link.source || !s.hasRack link.destination) <|
        blocker "structural_conflict" (text "link/" ++ id.value)
          (text "link references a rack that is not a member of this cluster")) ++
    s.racks.entries.flatMap fun (rack, record) =>
      flag (record.authoritativeCurrent && s.isBootFenced record.reference.boot)
        (blocker "structural_conflict" (rackSubject rack)
          (text "rack is authoritative current under a fenced process incarnation")) ++
      flag (record.authoritativeCurrent && s.isRackRetired rack)
        (blocker "structural_conflict" (rackSubject rack)
          (text "retired rack is still authoritative current"))

/-- Every blocker, in the order in which the source adds them. -/
def readinessBlockers : List ReadinessBlocker :=
  s.countBlockers ++ s.readinessContract.mandatoryRacks.flatMap s.mandatoryBlockers ++
    s.rackBlockers ++ s.linkBlockers ++ s.domainClassBlockers ++ s.conflictBlockers

/-- A required element can only be restored by a revalidation. -/
def revalidationIsRequiredElement : Bool :=
  (s.belowMinimumRacks && s.anyRevalidation) ||
    s.readinessContract.mandatoryRacks.any s.mandatoryNotCurrent ||
    (s.anyRevalidation && !s.readinessContract.allowDegraded)

def knowinglyIncomplete : Bool :=
  (s.racks.values.any fun record =>
    record.membership == .unavailable || record.membership == .withdrawn) ||
  !s.withdrawnRacks.isEmpty

/-- The lifecycle that an evaluation of the contract arrives at. -/
def evaluatedLifecycle : ClusterLifecycle :=
  if s.revalidationIsRequiredElement then .revalidationRequired
  else if s.readinessBlockers.isEmpty then
    if s.knowinglyIncomplete && s.readinessContract.allowPartial then .partialReady else .ready
  else if 0 < s.currentCount then .degraded
  else if 0 < s.activeCount then .forming
  else .declared

end ClusterState

/-- Evaluates the readiness contract. A retired or retiring cluster stays so. -/
def evaluateReadiness [StdSort] (s : ClusterState) : ReadinessEvaluation :=
  if s.lifecycle = .retired then
    { lifecycle := .retired
      blockers := [blocker "cluster_retired" (text "cluster") (text "cluster is RETIRED")] }
  else if s.lifecycle = .retiring then
    { lifecycle := .retiring
      blockers := [blocker "cluster_retiring" (text "cluster") (text "cluster is RETIRING")] }
  else
    { satisfied := s.readinessBlockers.isEmpty
      lifecycle := s.evaluatedLifecycle
      blockers := StdSort.sort
        (fun a b => if a.code ≠ b.code then decide (a.code < b.code)
          else decide (a.subject < b.subject)) s.readinessBlockers }

end ClusterFabric
