import ClusterFabric.Model.RackMutations
import ClusterFabric.Model.Readiness

/-! # Domain, topology and cluster mutations

The remaining mutations of `coordinator_engine.cpp` and their dispatch.
-/

namespace ClusterFabric

open Lib
open Txn (get exitIf ofOption forSome)
open Apply

/-! ## Domains -/

/-- The order of capacity quantities: unit, provenance, aggregation. -/
def CapacityQuantity.key (q : CapacityQuantity) : Text ×ₗ Nat ×ₗ Bool :=
  toLex (q.unit, toLex (Enumeration.raw q.provenance, q.aggregated))

/-- The first rejection of the loop over sorted quantities. -/
def checkQuantities (subject : Text) : Option Text → List CapacityQuantity → Option EarlyReturn
  | _, [] => none
  | previous, q :: rest =>
    if q.unit.isEmpty || !(validateLabel q.unit).isOk then
      some (reject .invalidDomain .validateReference subject
        (text "quantity unit is empty or not a valid bounded label"))
    else if q.value.any fun v => !v.isFinite then
      some (reject .invalidDomain .validateReference subject
        (text "quantity value is not a finite number"))
    else if previous = some q.unit then
      some (reject .conflict .validateReference subject
        (text "duplicate quantity for unit " ++ q.unit))
    else checkQuantities subject (some q.unit) rest

/-- Sorts the quantities of a capacity domain and checks them. -/
def validateCapacity [StdSort] (domain : Domain .capacity) : Apply (Domain .capacity) := do
  let subject := text "capacity_domain/" ++ domain.id.value
  let detail : CapacityDetail := domain.detail
  exitIf (maxCapacityQuantities < detail.quantities.length) <|
    reject .limitExceeded .validateReference subject
      (text "quantity count exceeds the configured bound")
  let quantities := sortBy CapacityQuantity.key detail.quantities
  forSome (checkQuantities subject none quantities) Txn.exit
  pure { domain with detail := ({ detail with quantities } : CapacityDetail) }

/-- Class-specific validation: only capacity domains have any. -/
def validateDomainExtra [StdSort] : (k : DomainKind) → Domain k → Apply (Domain k)
  | .capacity, domain => validateCapacity domain
  | _, domain => pure domain

/-- The text of the rejection of an unclassified domain. -/
def DomainKind.unknownClassDetail : DomainKind → Text
  | .network => text "network domain connectivity class is UNKNOWN"
  | _ => text "domain class is UNKNOWN"

/-- Validates a domain payload and returns it normalized. -/
def validateDomainPayload [StdSort] {k : DomainKind} (domain : Domain k) : Apply (Domain k) := do
  let ctx ← get
  let subject := k.label ++ text "/" ++ domain.id.value
  exitIf (maxDomainMembers < domain.racks.length) <|
    reject .limitExceeded .validateReference k.label
      (text "domain member count exceeds the configured bound")
  let domain := { domain with racks := sortUnique domain.racks }
  forSome (domain.racks.find? fun rack => !ctx.state.isRackMember rack) fun rack =>
    Txn.exit <| reject .unknownRack .validateReference subject
      (text "domain references rack " ++ rack.value ++
        text " which is not a member of this cluster")
  exitIf (!domain.header.generation.known) <|
    reject .invalidDomain .validateGeneration subject
      (text "domain generation is zero (unknown)")
  exitIf (Domain.classRaw k domain = 0) <|
    reject .invalidDomain .validateReference subject k.unknownClassDetail
  validateDomainExtra k domain

/-- `advance_aggregate`: past the old aggregate and not below the record, with
the wrap-around of 64-bit addition. -/
def advanceAggregate (aggregate record : DomainGeneration) : Option DomainGeneration :=
  let value := max ((aggregate.value + 1) % 2 ^ 64) record.value
  if value < aggregate.value ∨ value = 0 then none
  else some ⟨value, max_lt (Nat.mod_lt _ (by decide)) record.isLt⟩

/-- Stamps a header with the epochs of the coordinator that accepts it. -/
def DomainHeader.stamp (header : DomainHeader) (s : ClusterState) : DomainHeader :=
  { header with clusterEpoch := s.epoch, coordinatorEpoch := s.coordinatorEpoch }

/-- The checks of a domain publication against the recorded one. -/
def publishOver {k : DomainKind} (domain existing : Domain k) : Apply Unit := do
  let subject := k.label ++ text "/" ++ domain.id.value
  exitIf (domain.header.generation.value < existing.header.generation.value) <|
    rejectWith .stalePublication .validateGeneration subject
      (text "domain generation " ++ domain.header.generation.str ++
        text " is older than the authoritative generation " ++ existing.header.generation.str)
      (text "stale_domain_generation")
  if domain.header.generation = existing.header.generation then
    exitIf (domain.eqv existing) <|
      acceptedNoChange "identical domain publication is idempotent"
    Txn.exit <| rejectWith .conflict .validateReference subject
      (text "publication conflicts with the authoritative record at generation " ++
        domain.header.generation.str)
      (text "conflicting_domain_publication")

/-- The topology record follows the topology generation. -/
def syncTopologyGeneration (s : ClusterState) : ClusterState :=
  { s with topologyRecord := { s.topologyRecord with generation := s.topologyGeneration } }

def publishDomainRecord [StdSort] {k : DomainKind} (domain : Domain k) : Apply Unit := do
  let ctx ← get
  let subject := k.label ++ text "/" ++ domain.id.value
  exitIf domain.id.isEmpty <|
    reject .invalidDomain .validateReference k.label (text "domain identity is empty")
  let domain ← validateDomainPayload domain
  let existing := (ctx.state.domains k).find? domain.id
  forSome existing (publishOver domain)
  exitIf (existing = none ∧ ctx.config.maxDomainsPerClass ≤ (ctx.state.domains k).size) <|
    reject .limitExceeded .validateReference subject
      (text "domain count would exceed the configured bound")
  let domain := { domain with header := domain.header.stamp ctx.state }
  let aggregate ← ofOption
    (advanceAggregate (ctx.state.domainGenerations k) domain.header.generation) <|
    reject .limitExceeded .commit subject (text "domain class generation overflow")
  update fun s => { s with domainGenerations := Function.update s.domainGenerations k aggregate }
  assign (domainsMember k) domain.id domain
  bump topologyCounter <|
    reject .limitExceeded .commit subject (text "topology generation overflow")
  update syncTopologyGeneration
  markChanged

/-- A publication of a domain of kind `k`, whose payload may be absent. -/
def applyPublishDomain [StdSort] (k : DomainKind) (request : MutationRequest) : Apply Unit := do
  let domain ← ofOption (request.domain k) <|
    reject .malformed .decode k.label (text "payload is absent")
  publishDomainRecord domain

/-! ## Constraints -/

/-- The checks of a constraint publication against the recorded one. -/
def constrainOver (constraint existing : ClusterConstraint) : Apply Unit := do
  let subject := text "constraint/" ++ constraint.id.value
  exitIf (constraint.header.generation.value < existing.header.generation.value) <|
    rejectWith .stalePublication .validateGeneration subject
      (text "constraint generation is older than the authoritative generation")
      (text "stale_constraint_generation")
  if constraint.header.generation = existing.header.generation then
    exitIf (constraint = existing) <|
      acceptedNoChange "identical constraint publication is idempotent"
    Txn.exit <| reject .conflict .validateReference subject
      (text "constraint publication conflicts at the same generation")

def applyPublishConstraint [StdSort] (request : MutationRequest) : Apply Unit := do
  let ctx ← get
  let payload ← ofOption request.constraint <|
    reject .malformed .decode (text "constraint") (text "constraint payload is absent")
  let subject := text "constraint/" ++ payload.id.value
  exitIf (maxDomainMembers < payload.racks.length) <|
    reject .limitExceeded .validateReference subject
      (text "constraint member count exceeds the configured bound")
  let constraint := { payload with racks := sortUnique payload.racks }
  forSome (constraint.racks.find? fun rack => !ctx.state.isRackMember rack) fun rack =>
    Txn.exit <| reject .unknownRack .validateReference subject
      (text "constraint references rack " ++ rack.value ++ text " which is not a member")
  exitIf (constraint.kind = .unknown) <|
    reject .invalidDomain .validateReference subject (text "constraint kind is UNKNOWN")
  exitIf (!constraint.header.generation.known) <|
    reject .invalidDomain .validateGeneration subject (text "constraint generation is zero")
  let existing := ctx.state.constraints.find? constraint.id
  forSome existing (constrainOver constraint)
  exitIf (existing = none ∧ ctx.config.maxConstraints ≤ ctx.state.constraints.size) <|
    reject .limitExceeded .validateReference subject
      (text "constraint count would exceed the configured bound")
  bump constraintCounter <|
    reject .limitExceeded .commit subject (text "constraint generation overflow")
  assign constraintsMember constraint.id
    { constraint with header := constraint.header.stamp ctx.state }
  markChanged

/-! ## Links -/

/-- The checks of a link publication against the recorded one. Evidence and
publication counter do not count as content. -/
def linkOver (link current : InterRackLink) : Apply Unit := do
  let comparable (l : InterRackLink) : InterRackLink :=
    { l with header := { l.header with evidence := {} }, publication := .unknown }
  exitIf (link.header.generation.value < current.header.generation.value) <|
    rejectWith .stalePublication .validateGeneration (text "link/" ++ link.id.value)
      (text "link generation is older than the authoritative generation")
      (text "stale_link_generation")
  if link.header.generation = current.header.generation then
    exitIf (comparable link = comparable current) <|
      acceptedNoChange "identical link publication is idempotent"
    Txn.exit <| rejectWith .conflict .validateReference (text "link/" ++ link.id.value)
      (text "link publication conflicts with the authoritative record at the same " ++
        text "generation")
      (text "conflicting_link_publication")

/-- The references of a link that must resolve. -/
def checkLinkReferences (s : ClusterState) (link : InterRackLink) : Apply Unit := do
  let subject := text "link/" ++ link.id.value
  forSome (link.failureDomains.find? fun domain => !s.failureDomains.contains domain) fun domain =>
    Txn.exit <| reject .unknownDomain .validateReference subject
      (text "link references unknown failure domain " ++ domain.value)
  forSome link.networkDomain fun domain =>
    exitIf (!s.networkDomains.contains domain) <|
      reject .unknownDomain .validateReference subject
        (text "link references unknown network domain " ++ domain.value)
  forSome link.linkDomain fun domain =>
    exitIf (!s.linkDomains.contains domain) <|
      reject .unknownDomain .validateReference subject
        (text "link references unknown link domain " ++ domain.value)

def applyPublishLink [StdSort] (request : MutationRequest) : Apply Unit := do
  let ctx ← get
  let s := ctx.state
  let payload ← ofOption request.link <|
    reject .malformed .decode (text "link") (text "link payload is absent")
  let subject := text "link/" ++ payload.id.value
  exitIf (payload.source = payload.destination) <|
    reject .invalidRelationship .validateReference subject (text "link connects a rack to itself")
  exitIf (payload.direction = .unknown) <|
    reject .invalidRelationship .validateReference subject (text "link direction is UNKNOWN")
  exitIf (!s.isRackMember payload.source) <|
    reject .unknownRack .validateReference subject
      (text "source rack " ++ payload.source.value ++ text " is not a member")
  exitIf (!s.isRackMember payload.destination) <|
    reject .unknownRack .validateReference subject
      (text "destination rack " ++ payload.destination.value ++ text " is not a member")
  exitIf (maxFailureDomainRefs < payload.failureDomains.length) <|
    reject .limitExceeded .validateReference subject
      (text "link failure domain count exceeds the configured bound")
  let link := { payload with failureDomains := sortUnique payload.failureDomains }
  checkLinkReferences s link
  exitIf (!link.header.generation.known) <|
    reject .invalidRelationship .validateGeneration subject (text "link generation is zero")
  let existing := s.links.find? link.id
  forSome existing (linkOver link)
  exitIf (existing = none ∧ ctx.config.maxLinks ≤ s.links.size) <|
    reject .limitExceeded .validateReference subject
      (text "link count would exceed the configured bound")
  exitIf (link.topologyEpoch ≠ s.topologyEpoch) <|
    reject .staleTopologyEpoch .validateGeneration subject
      (text "link carries topology epoch " ++ link.topologyEpoch.str ++
        text " but the authoritative epoch is " ++ s.topologyEpoch.str)
  assign linksMember link.id
    { link with header := link.header.stamp s, topologyGeneration := s.topologyGeneration }
  bump topologyCounter <|
    reject .limitExceeded .commit subject (text "topology generation overflow")
  bump connectivityCounter <|
    reject .limitExceeded .commit subject (text "connectivity generation overflow")
  update syncTopologyGeneration
  markChanged

def applyWithdrawLink (request : MutationRequest) : Apply Unit := do
  let ctx ← get
  let id ← ofOption request.linkId <|
    reject .malformed .decode (text "link") (text "link identity is absent")
  exitIf (!ctx.state.links.contains id) <| acceptedNoChange "link is already absent"
  let overflow := reject .limitExceeded .commit (text "link/" ++ id.value)
    (text "generation overflow")
  eraseEntry linksMember id
  bump topologyCounter overflow
  bump connectivityCounter overflow
  update syncTopologyGeneration
  markChanged

/-- What a superseded topology leaves of a link. -/
def supersededLink (link : InterRackLink) : InterRackLink :=
  { link with
    header := { link.header with evidence := link.header.evidence.markRevalidationRequired }
    reachability := .unknown
    health := .unknown }

def applySupersedeTopology (request : MutationRequest) : Apply Unit := do
  let ctx ← get
  let target ← ofOption request.targetTopologyEpoch <|
    reject .malformed .decode (text "topology") (text "target topology epoch is absent")
  exitIf (target ≤ ctx.state.topologyEpoch) <|
    reject .staleTopologyEpoch .validateGeneration (text "topology")
      (text "target epoch " ++ target.str ++ text " is not newer than the authoritative epoch " ++
        ctx.state.topologyEpoch.str)
  let overflow := reject .limitExceeded .commit (text "topology") (text "generation overflow")
  rewrite linksMember (fun _ => true) supersededLink
  update fun s => { s with topologyEpoch := target }
  bump topologyCounter overflow
  bump connectivityCounter overflow
  update fun s =>
    { s with
      topologyRecord :=
        { epoch := s.topologyEpoch
          generation := s.topologyGeneration
          establishedAt := ctx.now
          evidence := .make .reported ctx.now 0
          reason :=
            if request.topologyReason.isEmpty then text "topology_superseded"
            else request.topologyReason } }
  markChanged

/-! ## The cluster -/

/-- The scalars of a first declaration. -/
def declaredState (s : ClusterState) (request : MutationRequest) (now : Timestamp) : ClusterState :=
  { s with
    id := request.cluster
    epoch :=
      if request.authority.clusterEpoch.known then request.authority.clusterEpoch else .fromRaw 1
    coordinatorEpoch :=
      if request.authority.coordinatorEpoch.known then request.authority.coordinatorEpoch
      else s.coordinatorEpoch
    generation := .fromRaw 1
    membershipGeneration := .fromRaw 1
    topologyEpoch := .fromRaw 1
    topologyGeneration := .fromRaw 1
    connectivityGeneration := .fromRaw 1
    healthGeneration := .fromRaw 1
    constraintGeneration := .fromRaw 1
    domainGenerations := fun _ => .fromRaw 1
    snapshotGeneration := .fromRaw 1
    publicationGeneration := .fromRaw 1
    readinessContract := request.readinessContract
    lifecycle := .declared
    declaredAt := now
    lastMutationAt := now
    topologyRecord :=
      { epoch := .fromRaw 1
        generation := .fromRaw 1
        establishedAt := now
        evidence := .make .reported now 0
        reason := text "cluster_declared" } }

/-- The declaration of a cluster that is already declared. -/
def redeclare (request : MutationRequest) : Apply Unit := do
  let ctx ← get
  exitIf (request.readinessContract = ctx.state.readinessContract ∧
      request.declaredLifecycle = ctx.state.lifecycle) <|
    acceptedNoChange "cluster is already declared with this contract"
  journal StateJournal.recordScalars
  update fun s =>
    { s with
      readinessContract := request.readinessContract
      lifecycle := request.declaredLifecycle }
  markChanged

/-- The first declaration. -/
def declareFirst (request : MutationRequest) : Apply Unit := do
  let ctx ← get
  journal StateJournal.recordScalars
  update fun s => declaredState s request ctx.now
  markChanged

def applyDeclareCluster (request : MutationRequest) : Apply Unit := do
  let ctx ← get
  if ctx.state.epoch.known then redeclare request else declareFirst request

/-- What retiring the cluster leaves of a current rack. -/
def retiredClusterRack (record : RackRecord) : RackRecord :=
  { record with
    authoritativeCurrent := false
    reference := { record.reference with currentness := .revalidationRequired }
    nonAuthoritativeReason := text "cluster_retired" }

def applyRetireCluster : Apply Unit := do
  let ctx ← get
  exitIf (ctx.state.lifecycle = .retired) <| acceptedNoChange "cluster is already retired"
  journal StateJournal.recordScalars
  update fun s => { s with lifecycle := .retired }
  rewrite racksMember (fun record => record.authoritativeCurrent) retiredClusterRack
  markChanged

def applyPublishSnapshot : Apply Unit := do
  let overflow := reject .limitExceeded .commit (text "snapshot")
    (text "snapshot generation overflow")
  bump snapshotCounter overflow
  bump publicationCounter overflow
  markChanged

/-- Whether a rack carries live evidence. -/
def isFresh (record : RackRecord) : Bool :=
  record.authoritativeCurrent && record.reference.evidence.isCurrent &&
    record.reference.evidence.provenance != .reconstructed

/-- The answer to a revalidation that racks have not yet republished for. -/
def revalidationIncomplete (count : Nat) : EarlyReturn where
  result :=
    { MutationResult.rejectedWith .conflict .validateReference (text "cluster")
        (decimal count ++
          text " rack(s) still lack current evidence and must republish under fresh authority")
        (text "revalidation_incomplete") with
      outcome := .revalidationRequired }
  not_accepted := by simp

def applyRevalidate (request : MutationRequest) : Apply Unit := do
  let ctx ← get
  let candidates := if request.racks.isEmpty then ctx.state.racks.keys else request.racks
  exitIf (candidates = []) <| acceptedNoChange "cluster has no member rack to revalidate"
  forSome (candidates.find? fun rack => !ctx.state.hasRack rack) fun rack =>
    Txn.exit (notAMember rack)
  let stillRequired := candidates.filter fun rack => !(ctx.state.racks.find? rack).any isFresh
  exitIf (stillRequired ≠ []) (revalidationIncomplete stillRequired.length)
  markChanged

/-! ## Dispatch -/

/-- The mutation of each kind, after the common gate. -/
def applyKind [StdSort] (request : MutationRequest) : Apply Unit :=
  match request.kind with
  | .declareCluster => applyDeclareCluster request
  | .registerRackPublisher => applyRegisterPublisher request
  | .addRack => applyAddRack request
  | .updateRackGeneration => applyUpdateRackGeneration request
  | .markRackUnavailable => applyMembershipChange request .unavailable false
  | .withdrawRack => applyMembershipChange request .withdrawn false
  | .retireRack => applyMembershipChange request .retired true
  | .recoverRack => applyRecoverRack request
  | .publishInterRackLink => applyPublishLink request
  | .withdrawInterRackLink => applyWithdrawLink request
  | .publishPlacementDomain => applyPublishDomain .placement request
  | .publishCapacityDomain => applyPublishDomain .capacity request
  | .publishFailureDomain => applyPublishDomain .failure request
  | .publishNetworkDomain => applyPublishDomain .network request
  | .publishStorageDomain => applyPublishDomain .storage request
  | .publishPowerDomain => applyPublishDomain .power request
  | .publishCoolingDomain => applyPublishDomain .cooling request
  | .publishLinkDomain => applyPublishDomain .link request
  | .publishConstraint => applyPublishConstraint request
  | .publishHealthCurrentness => applyPublishHealth request
  | .withdrawEvidence => applyWithdrawEvidence request
  | .supersedeTopology => applySupersedeTopology request
  | .publishSnapshot => applyPublishSnapshot
  | .revalidateRecoveredState => applyRevalidate request
  | .retireCluster => applyRetireCluster
  | .unknown =>
    Txn.exit <| reject .malformed .decode (text "request") (text "unsupported mutation kind")

def applyRequest [StdSort] (request : MutationRequest) : Apply Unit := do
  validateCommon request
  applyKind request

/-- The result that a run of the engine returns. -/
def applyResult [StdSort] (request : MutationRequest) (ctx : ApplyContext) :
    ApplyContext × MutationResult :=
  match applyRequest request ctx with
  | (.ok _, ctx') => (ctx', acceptedChange)
  | (.error early, ctx') => (ctx', early.result)

end ClusterFabric
