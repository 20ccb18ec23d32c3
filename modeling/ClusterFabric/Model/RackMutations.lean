import ClusterFabric.Model.Gates

/-! # Rack mutations

Registration, admission, generation updates, membership changes, recovery,
health publications and evidence withdrawal of `coordinator_engine.cpp`.
-/

namespace ClusterFabric

open Lib
open Txn (get exitIf ofOption forSome when)
open Apply

/-- The rack a request is about: the authority's, or else the reference's. -/
def MutationRequest.targetRack (request : MutationRequest) : RackId :=
  request.authority.rack.getD request.rackReference.rack

def membershipOverflow : EarlyReturn :=
  reject .limitExceeded .commit (text "cluster") (text "membership generation overflow")

def notAMember (rack : RackId) : EarlyReturn :=
  reject .unknownRack .validateReference (rackSubject rack)
    (text "rack is not a member of this cluster")

/-- Why a record is not authoritative: nothing when it is. -/
def currentReason (current : Bool) : Text := if current then [] else text "evidence_not_current"

/-- The record of a registration: inert until the rack is admitted. -/
def registeredRecord (s : ClusterState) (request : MutationRequest) (rack : RackId) :
    RackRecord where
  reference :=
    { rack := rack
      generation := request.authority.rackGeneration.getD request.rackReference.generation
      rackLifecycle := request.rackReference.rackLifecycle
      currentness := .unknown
      composition := request.rackReference.composition
      evidence := request.evidence
      publisher := request.authority.publisher
      publication := request.authority.publication
      boot := request.authority.boot.getD request.rackReference.boot
      clusterEpoch := s.epoch
      coordinatorEpoch := s.coordinatorEpoch
      originLabel := request.rackReference.originLabel }
  membership := .unknown
  membershipGeneration := s.membershipGeneration
  acceptedAtGeneration := s.generation
  membershipEvidence := request.evidence
  authoritativeCurrent := false
  nonAuthoritativeReason := text "registered_but_not_admitted"

/-- The answer to the registration of a rack that is already recorded. -/
def reRegister (request : MutationRequest) (rack : RackId) (publisher : RackPublisherId)
    (record : RackRecord) : Apply Unit := do
  forSome record.reference.publisher fun owner =>
    exitIf (owner ≠ publisher) <|
      reject .conflict .validateAuthority (rackSubject rack)
        (text "rack is already owned by publisher " ++ owner.value)
  forSome request.authority.rackGeneration fun generation =>
    exitIf (record.reference.generation.known = true ∧ generation < record.reference.generation) <|
      reject .staleRackGeneration .validateGeneration (rackSubject rack)
        (text "registration carries generation " ++ generation.str ++
          text " which is older than the authoritative generation " ++
          record.reference.generation.str)
  Txn.exit (acceptedNoChange "rack publisher already registered")

def applyRegisterPublisher (request : MutationRequest) : Apply Unit := do
  let ctx ← get
  let rack := request.targetRack
  exitIf rack.isEmpty <|
    reject .malformed .validateReference (text "rack")
      (text "registration carries no rack identity")
  exitIf (ctx.state.isRackRetired rack) <|
    reject .retired .validateReference (rackSubject rack)
      (text "rack identity is retired and cannot be re-registered")
  let publisher ← ofOption request.authority.publisher <|
    reject .notAuthorized .validateAuthority (rackSubject rack)
      (text "registration carries no publisher authority")
  match ctx.state.racks.find? rack with
  | some record => reRegister request rack publisher record
  | none =>
    exitIf (ctx.config.maxRacks ≤ ctx.state.racks.size) <|
      reject .limitExceeded .validateReference (rackSubject rack)
        (text "rack count would exceed the configured bound")
    let record := registeredRecord ctx.state request rack
    exitIf (!record.reference.generation.known) <|
      reject .malformed .validateReference (rackSubject rack)
        (text "registration carries an unknown rack generation")
    assign racksMember rack record
    markChanged

/-! ## Admission -/

/-- The checks of a publication against the recorded rack. A registered rack
that is not yet admitted holds a placeholder, with which the first publication
cannot conflict except in its owner. -/
def admitOver [StdSort] (incoming : RackReference) (record : RackRecord) : Apply Unit := do
  let rack := incoming.rack
  let current := record.reference
  exitIf (incoming.generation < current.generation) <|
    reject .staleRackGeneration .validateGeneration (rackSubject rack)
      (text "publication carries generation " ++ incoming.generation.str ++
        text " which is older than the authoritative generation " ++ current.generation.str)
  let placeholder := record.membership == .unknown && !record.authoritativeCurrent
  if incoming.generation = current.generation ∧ placeholder = true then
    forSome current.publisher fun owner =>
      forSome incoming.publisher fun publisher =>
        exitIf (owner ≠ publisher) <|
          reject .conflict .validateAuthority (rackSubject rack)
            (text "registration is owned by publisher " ++ owner.value)
  else if incoming.generation = current.generation then
    exitIf (!sameAuthoritativeContent current incoming) <|
      rejectWith .conflict .validateReference (rackSubject rack)
        (text "publication conflicts with the authoritative record at generation " ++
          incoming.generation.str)
        (text "conflicting_rack_publication")
    exitIf (identicalPublication current incoming ||
        (sameAuthoritativeContent current incoming && current.boot == incoming.boot &&
          current.publisher == incoming.publisher &&
          current.publication == incoming.publication)) <|
      acceptedNoChange "identical rack publication is idempotent"
    exitIf (current.boot = incoming.boot ∧
        incoming.publication.value ≤ current.publication.value) <|
      rejectWith .stalePublication .validateGeneration (rackSubject rack)
        (text "dynamic publication is not newer than the accepted publication")
        (text "stale_publication")
  else
    forSome current.publisher fun owner =>
      forSome incoming.publisher fun publisher =>
        exitIf (owner ≠ publisher) <|
          reject .notAuthorized .validateAuthority (rackSubject rack)
            (text "only the owning publisher may advance the rack generation")

/-- The evidence of an admitted reference: classified now when it was not. -/
def admittedEvidence (evidence : EvidenceStamp) (now : Timestamp) : EvidenceStamp :=
  if evidence.freshness = .unknown ∧ evidence.observedAt.known = true then evidence.refresh now
  else evidence

/-- The record of an admission, before its membership generation is advanced. -/
def admittedRecord (s : ClusterState) (now : Timestamp) (incoming : RackReference)
    (record : RackRecord) : RackRecord :=
  let evidence := admittedEvidence incoming.evidence now
  { record with
    reference :=
      { incoming with
        clusterEpoch := s.epoch
        coordinatorEpoch := s.coordinatorEpoch
        currentness := .current
        evidence := evidence }
    membership := .active
    acceptedAtGeneration := s.generation
    membershipEvidence := evidence
    authoritativeCurrent := evidence.isCurrent
    nonAuthoritativeReason := currentReason evidence.isCurrent }

/-- The membership generation a rewritten record carries. -/
def stampMembership (record : RackRecord) : Apply RackRecord := do
  bump membershipCounter membershipOverflow
  let ctx ← get
  pure { record with membershipGeneration := ctx.state.membershipGeneration }

def dropWithdrawn (rack : RackId) (s : ClusterState) : ClusterState :=
  { s with withdrawnRacks := s.withdrawnRacks.filter fun r => r ≠ rack }

def applyAddRack [StdSort] (request : MutationRequest) : Apply Unit := do
  let incoming := canonicalize request.rackReference
  let validation := validateRackReference incoming
  exitIf (!validation.isOk) <|
    reject .malformed .validateReference validation.subject validation.detail
  let rack := incoming.rack
  let ctx ← get
  exitIf (ctx.state.isRackRetired rack) <|
    reject .retired .validateReference (rackSubject rack)
      (text "rack identity is retired and cannot be re-admitted")
  validateBoot request rack
  let existing := ctx.state.racks.find? rack
  forSome existing (admitOver incoming)
  exitIf (existing = none ∧ ctx.config.maxRacks ≤ ctx.state.racks.size) <|
    reject .limitExceeded .validateReference (rackSubject rack)
      (text "rack count would exceed the configured bound")
  let previous := existing.getD {}
  let generationAdvanced :=
    existing.isSome && decide (previous.reference.generation < incoming.generation)
  let membershipChanged := existing.isNone || previous.membership != .active
  let admitted := admittedRecord ctx.state ctx.now incoming previous
  let record ←
    (if membershipChanged || generationAdvanced then stampMembership admitted else pure admitted)
  update (dropWithdrawn rack)
  assign racksMember rack record
  markChanged

/-! ## Generation updates -/

/-- The record of a generation update, before its membership generation is
advanced. The membership and the retirement of the rack are not consulted. -/
def updatedRecord (s : ClusterState) (request : MutationRequest) (generation : RackGeneration)
    (record : RackRecord) : RackRecord :=
  let authority := request.authority
  { record with
    reference :=
      { record.reference with
        generation := generation
        rackLifecycle := request.rackReference.rackLifecycle
        composition :=
          if request.rackReference.composition.isEmpty then record.reference.composition
          else request.rackReference.composition
        publisher := authority.publisher.or record.reference.publisher
        publication := authority.publication
        boot := authority.boot.getD record.reference.boot
        evidence := request.evidence
        clusterEpoch := s.epoch
        coordinatorEpoch := s.coordinatorEpoch
        currentness := .current }
    acceptedAtGeneration := s.generation
    authoritativeCurrent := request.evidence.isCurrent
    nonAuthoritativeReason := currentReason request.evidence.isCurrent }

def applyUpdateRackGeneration [StdSort] (request : MutationRequest) : Apply Unit := do
  let ctx ← get
  let rack := request.targetRack
  exitIf rack.isEmpty <|
    reject .malformed .validateReference (text "rack")
      (text "generation update carries no rack identity")
  let record ← ofOption (ctx.state.racks.find? rack) (notAMember rack)
  validateBoot request rack
  let current := record.reference.generation
  forSome request.expectedRackGeneration fun expected =>
    exitIf (expected ≠ current) <|
      rejectWith .conflict .validateGeneration (rackSubject rack)
        (text "expected generation " ++ expected.str ++
          text " but the authoritative generation is " ++ current.str)
        (text "generation_compare_failed")
  let generation ← ofOption request.newRackGeneration <|
    reject .malformed .validateReference (rackSubject rack)
      (text "no new rack generation was supplied")
  exitIf (generation < current) <|
    reject .staleRackGeneration .validateGeneration (rackSubject rack)
      (text "requested generation " ++ generation.str ++
        text " is older than the authoritative generation " ++ current.str)
  exitIf (generation = current) <|
    acceptedNoChange "rack generation already authoritative"
  let record ← stampMembership (updatedRecord ctx.state request generation record)
  assign racksMember rack record
  markChanged

/-! ## Membership changes -/

/-- The record of a membership change, before its membership generation is
advanced. -/
def movedRecord (request : MutationRequest) (target : RackMembershipState)
    (record : RackRecord) : RackRecord :=
  let moved := { record with membership := target, membershipEvidence := request.evidence }
  if target = .active then moved
  else
    { moved with
      authoritativeCurrent := false
      reference := { moved.reference with currentness := .revalidationRequired }
      nonAuthoritativeReason := text "membership_" ++ target.toText }

/-- The withdrawn list lists the rack exactly while it is withdrawn. -/
def moveWithdrawn [StdSort] (rack : RackId) (target : RackMembershipState)
    (withdrawn : List RackId) : List RackId :=
  if target = .withdrawn then
    if rack ∈ withdrawn then withdrawn else sortBy (fun r => r) (withdrawn ++ [rack])
  else withdrawn.erase rack

/-- The retirement record is made once. -/
def addRetired [StdSort] (rack : RackId) (generation : RackGeneration) (now : Timestamp)
    (reason : Text) (retired : List RetiredIdentity) : List RetiredIdentity :=
  if retired.any fun r => r.rack == rack then retired
  else sortBy RetiredIdentity.rack (retired ++ [⟨rack, generation, now, reason⟩])

def applyMembershipChange [StdSort] (request : MutationRequest) (target : RackMembershipState)
    (addRetiredIdentity : Bool) : Apply Unit := do
  let ctx ← get
  let rack := request.targetRack
  exitIf rack.isEmpty <|
    reject .malformed .validateReference (text "rack")
      (text "membership change carries no rack identity")
  let record ← ofOption (ctx.state.racks.find? rack) (notAMember rack)
  validateBoot request rack
  exitIf (record.membership = target) <|
    acceptedNoChange "membership is already in the requested state"
  exitIf (record.membership = .retired ∧ target ≠ .retired) <|
    reject .retired .validateAuthority (rackSubject rack)
      (text "retired rack identity cannot return to an active membership state")
  let record ← stampMembership (movedRecord request target record)
  update fun s => { s with withdrawnRacks := moveWithdrawn rack target s.withdrawnRacks }
  when addRetiredIdentity <| update fun s =>
    { s with
      retiredRacks :=
        addRetired rack record.reference.generation ctx.now request.reason s.retiredRacks }
  assign racksMember rack record
  markChanged

/-! ## Recovery -/

/-- The record of a recovery, before its membership generation is advanced. The
lists of the reference are taken as they come, not canonicalized. -/
def recoveredRecord (s : ClusterState) (request : MutationRequest) (rack : RackId)
    (boot : RackAgentBootId) (generation : RackGeneration) (record : RackRecord) : RackRecord :=
  let incoming := request.rackReference
  { record with
    reference :=
      { record.reference with
        rack := rack
        generation := generation
        composition :=
          if incoming.composition.isEmpty then record.reference.composition
          else incoming.composition
        endpoints :=
          if incoming.endpoints.isEmpty then record.reference.endpoints else incoming.endpoints
        failureDomainHints :=
          if incoming.failureDomainHints.isEmpty then record.reference.failureDomainHints
          else incoming.failureDomainHints
        rackLifecycle := incoming.rackLifecycle
        publisher := request.authority.publisher.or record.reference.publisher
        boot := boot
        publication := request.authority.publication
        evidence := request.evidence
        clusterEpoch := s.epoch
        coordinatorEpoch := s.coordinatorEpoch
        currentness := .current
        health := incoming.health }
    membership := .active
    membershipEvidence := request.evidence
    acceptedAtGeneration := s.generation
    authoritativeCurrent := request.evidence.isCurrent
    nonAuthoritativeReason := currentReason request.evidence.isCurrent }

def applyRecoverRack [StdSort] (request : MutationRequest) : Apply Unit := do
  let ctx ← get
  let incoming := canonicalize request.rackReference
  let rack := if incoming.rack.isEmpty then request.targetRack else incoming.rack
  exitIf rack.isEmpty <|
    reject .malformed .validateReference (text "rack") (text "recovery carries no rack identity")
  exitIf (ctx.state.isRackRetired rack) <|
    reject .retired .validateReference (rackSubject rack)
      (text "retired rack identity cannot be recovered")
  let record ← ofOption (ctx.state.racks.find? rack) (notAMember rack)
  let boot ← ofOption request.authority.boot <|
    reject .notAuthorized .validateAuthority (rackSubject rack)
      (text "recovery requires a fresh process incarnation identity")
  exitIf (ctx.state.isBootFenced boot) <|
    reject .staleRackBoot .validateAuthority (rackSubject rack)
      (text "process incarnation " ++ boot.value ++ text " is permanently fenced")
  exitIf (record.reference.boot = boot ∧ record.authoritativeCurrent = false) <|
    reject .staleRackBoot .validateAuthority (rackSubject rack)
      (text "recovery must use a fresh process incarnation, not the fenced one")
  let current := record.reference.generation
  let generation := request.newRackGeneration.getD current
  exitIf (generation < current) <|
    reject .staleRackGeneration .validateGeneration (rackSubject rack)
      (text "recovery generation is older than the authoritative generation")
  let record ← stampMembership (recoveredRecord ctx.state request rack boot generation record)
  update (dropWithdrawn rack)
  assign racksMember rack record
  markChanged

/-! ## Evidence -/

/-- Whether a link has the rack at one of its ends. -/
def InterRackLink.touches (rack : RackId) (link : InterRackLink) : Bool :=
  link.source == rack || link.destination == rack

def connectivityOverflow (rack : RackId) : EarlyReturn :=
  reject .limitExceeded .commit (rackSubject rack) (text "connectivity generation overflow")

def healthOverflow (rack : RackId) : EarlyReturn :=
  reject .limitExceeded .commit (rackSubject rack) (text "health generation overflow")

/-- The record of a health publication. Its currentness is left as it is. -/
def healthRecord (s : ClusterState) (request : MutationRequest) (record : RackRecord) :
    RackRecord :=
  { record with
    reference :=
      { record.reference with
        health := request.health
        evidence := request.evidence
        publication := request.authority.publication
        coordinatorEpoch := s.coordinatorEpoch }
    authoritativeCurrent := request.evidence.isCurrent
    nonAuthoritativeReason := currentReason request.evidence.isCurrent }

/-- What a health publication makes of a link of the rack. -/
def reportedLink (request : MutationRequest) (link : InterRackLink) : InterRackLink :=
  { link with
    reachability := request.reachability
    header := { link.header with evidence := request.evidence } }

def applyPublishHealth [StdSort] (request : MutationRequest) : Apply Unit := do
  let ctx ← get
  let rack := request.targetRack
  exitIf rack.isEmpty <|
    reject .malformed .validateReference (text "rack")
      (text "health publication carries no rack identity")
  let record ← ofOption (ctx.state.racks.find? rack) (notAMember rack)
  exitIf (ctx.state.isRackRetired rack) <|
    rejectWith .retired .validateAuthority (rackSubject rack)
      (text "the rack identity is retired and cannot be resurrected") (text "retired_identity")
  validateBoot request rack
  exitIf (record.reference.health = request.health ∧
      record.reference.evidence.observedAt = request.evidence.observedAt) <|
    acceptedNoChange "health publication is identical"
  assign racksMember rack (healthRecord ctx.state request record)
  when (request.reachability ≠ .unknown) do
    rewrite linksMember (InterRackLink.touches rack) (reportedLink request)
    bump connectivityCounter (connectivityOverflow rack)
  bump healthCounter (healthOverflow rack)
  markChanged

/-- The selector of a withdrawal, with its default. -/
def MutationRequest.selector (request : MutationRequest) : Text :=
  if request.evidenceSelector.isEmpty then text "rack_evidence" else request.evidenceSelector

def withdrawnEvidenceRecord (record : RackRecord) : RackRecord :=
  { record with
    reference :=
      { record.reference with
        evidence := record.reference.evidence.markRevalidationRequired
        currentness := .revalidationRequired }
    authoritativeCurrent := false
    nonAuthoritativeReason := text "evidence_withdrawn" }

def withdrawnEvidenceLink (link : InterRackLink) : InterRackLink :=
  { link with
    reachability := .revalidationRequired
    header := { link.header with evidence := link.header.evidence.markRevalidationRequired } }

def applyWithdrawEvidence (request : MutationRequest) : Apply Unit := do
  let ctx ← get
  let rack := request.targetRack
  let selector := request.selector
  exitIf (selector ≠ text "rack_evidence" ∧ selector ≠ text "rack_health" ∧
      selector ≠ text "reachability") <|
    reject .malformed .validateReference (text "evidence")
      (text "unknown evidence selector " ++ selector)
  let record ← ofOption (ctx.state.racks.find? rack) (notAMember rack)
  assign racksMember rack (withdrawnEvidenceRecord record)
  when (selector = text "reachability" ∨ selector = text "rack_evidence") do
    rewrite linksMember (InterRackLink.touches rack) withdrawnEvidenceLink
    bump connectivityCounter (connectivityOverflow rack)
  bump healthCounter (healthOverflow rack)
  markChanged

end ClusterFabric
