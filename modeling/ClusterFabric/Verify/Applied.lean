import ClusterFabric.Model.ClusterMutations

/-! # What a completed mutation did

The engine says what each mutation refuses. This module says what is left: for every
kind, the gates that a completed mutation has passed and the state it leaves
(`Applied`).
-/

namespace ClusterFabric

open Lib
open Txn

variable {k : DomainKind} {payload : Domain k}

/-! ## Steps of the engine -/

namespace Apply

variable {ctx ctx' : ApplyContext} {u : Unit}

theorem ends_update {f : ClusterState → ClusterState} :
    Ends (update f) ctx u ctx' ↔ ctx' = { ctx with journal := ctx.journal.update f } := ends_modify

theorem ends_markChanged : Ends markChanged ctx u ctx' ↔ ctx' = { ctx with changed := true } :=
  ends_modify

theorem ends_bump {tag : CounterTag} {counter : Counter tag} {overflow : EarlyReturn} :
    Ends (bump counter overflow) ctx u ctx' ↔
      ∃ value, (counter.get ctx.state).next = some value ∧
        ctx' = { ctx with journal := ctx.journal.update fun s => counter.set s value } := by
  simp only [bump, ends_get_bind, ends_ofOption_bind, ends_update]

end Apply

/-! ## The common gate -/

/-- What the common gate asks of every mutation but the declaration. -/
structure CurrentAuthority (s : ClusterState) (request : MutationRequest) : Prop where
  cluster_eq : request.cluster = s.id
  declared : s.epoch.known = true
  clusterEpoch_eq : request.authority.clusterEpoch = s.epoch
  coordinatorEpoch_eq : request.authority.coordinatorEpoch = s.coordinatorEpoch
  accepts : acceptsMutations s.lifecycle = true

/-- What the common gate asks of a mutation. -/
structure Authorized (s : ClusterState) (request : MutationRequest) : Prop where
  kind_ne : request.kind ≠ .unknown
  cluster_valid : request.cluster.isValid = true
  declaration : request.kind = .declareCluster → s.epoch.known = true →
    request.authority.clusterEpoch = s.epoch
  current : request.kind ≠ .declareCluster → CurrentAuthority s request

theorem authorized_of_ends {request : MutationRequest} {ctx ctx' : ApplyContext} {u : Unit}
    (h : Ends (validateCommon request) ctx u ctx') : Authorized ctx.state request ∧ ctx' = ctx := by
  replace h := ends_get_bind.mp h
  obtain ⟨hkind, h⟩ := checks_exitIf.ends_bind.mp h
  obtain ⟨hvalid, h⟩ := checks_exitIf.ends_bind.mp h
  have hcluster : request.cluster.isValid = true := by simpa using hvalid
  by_cases hdeclare : request.kind = .declareCluster
  · rw [if_pos hdeclare] at h
    obtain ⟨hepoch, rfl⟩ := ends_exitIf.mp h
    refine ⟨⟨hkind, hcluster, fun _ hknown => ?_, fun hne => absurd hdeclare hne⟩, rfl⟩
    by_contra hne
    exact hepoch ⟨hknown, hne⟩
  · rw [if_neg hdeclare] at h
    obtain ⟨hid, h⟩ := checks_exitIf.ends_bind.mp h
    obtain ⟨hknown, h⟩ := checks_exitIf.ends_bind.mp h
    obtain ⟨hepoch, h⟩ := checks_exitIf.ends_bind.mp h
    obtain ⟨hcoordinator, h⟩ := checks_exitIf.ends_bind.mp h
    obtain ⟨haccepts, rfl⟩ := ends_exitIf.mp h
    refine ⟨⟨hkind, hcluster, fun h => absurd h hdeclare, fun _ => ?_⟩, rfl⟩
    exact ⟨not_not.mp hid, by simpa using hknown, not_not.mp hepoch, not_not.mp hcoordinator,
      by simpa using haccepts⟩

/-! ## The gate of a process incarnation -/

/-- What the boot gate asks of the record of the rack, when there is one: the
incarnation is the live one, it owns the rack and it does not replay. -/
structure BootOwns [StdSort] (request : MutationRequest) (rack : RackId) (boot : RackAgentBootId)
    (record : RackRecord) : Prop where
  live : record.authoritativeCurrent = true → record.reference.boot = boot
  owner : ∀ publisher, request.authority.publisher = some publisher →
    ∀ owner, record.reference.publisher = some owner → publisher = owner
  fresh : staleReplay request rack boot record = false

/-- What the boot gate asks of a request that carries an incarnation. -/
def BootAuthorized [StdSort] (s : ClusterState) (request : MutationRequest) (rack : RackId) :
    Prop :=
  ∀ boot, request.authority.boot = some boot →
    s.isBootFenced boot = false ∧
      ∀ record, s.racks.find? rack = some record → BootOwns request rack boot record

theorem bootAuthorized_of_ends [StdSort] {request : MutationRequest} {rack : RackId}
    {ctx ctx' : ApplyContext} {u : Unit} (h : Ends (validateBoot request rack) ctx u ctx') :
    BootAuthorized ctx.state request rack ∧ ctx' = ctx := by
  replace h := ends_get_bind.mp h
  unfold BootAuthorized
  cases hboot : request.authority.boot with
  | none =>
    rw [hboot] at h
    refine ⟨?_, (ends_pure.mp h).2⟩
    rintro _ ⟨⟩
  | some boot =>
    rw [hboot] at h
    obtain ⟨hfenced, h⟩ := checks_exitIf.ends_bind.mp h
    cases hfind : ctx.state.racks.find? rack with
    | none =>
      rw [hfind] at h
      refine ⟨?_, (ends_pure.mp h).2⟩
      rintro _ ⟨⟩
      refine ⟨by simpa using hfenced, ?_⟩
      rintro _ ⟨⟩
    | some record =>
      rw [hfind] at h
      obtain ⟨hlive, h⟩ := checks_exitIf.ends_bind.mp h
      obtain ⟨howner, h⟩ := (checks_forSome fun _ => checks_forSome fun _ =>
        checks_exitIf).ends_bind.mp h
      obtain ⟨hreplay, rfl⟩ := ends_exitIf.mp h
      refine ⟨?_, rfl⟩
      rintro _ ⟨⟩
      refine ⟨by simpa using hfenced, ?_⟩
      rintro _ ⟨⟩
      refine ⟨fun hcurrent => ?_, fun p hp o ho => not_not.mp (howner p hp o ho),
        by simpa using hreplay⟩
      by_contra hne
      exact hlive ⟨hcurrent, hne⟩

/-! ## Domains, constraints and links -/

section Payloads

variable [StdSort] {ctx ctx' : ApplyContext}

/-- The class-specific part of a payload as it is stored. -/
def sortedDetail : (k : DomainKind) → Domain k → Domain k
  | .capacity, domain =>
    let detail : CapacityDetail := domain.detail
    { domain with
      detail := ({ detail with
        quantities := sortBy CapacityQuantity.key detail.quantities } : CapacityDetail) }
  | _, domain => domain

/-- What class-specific validation asks of a payload. -/
def DetailOk : (k : DomainKind) → Domain k → Prop
  | .capacity, domain =>
    (CapacityDetail.quantities domain.detail).length ≤ maxCapacityQuantities ∧
      checkQuantities (text "capacity_domain/" ++ domain.id.value) none
        (sortBy CapacityQuantity.key (CapacityDetail.quantities domain.detail)) = none
  | _, _ => True

theorem ends_validateDomainExtra {domain domain' : Domain k}
    (h : Ends (validateDomainExtra k domain) ctx domain' ctx') :
    DetailOk k domain ∧ domain' = sortedDetail k domain ∧ ctx' = ctx := by
  cases k
  case capacity =>
    obtain ⟨hlength, h⟩ := checks_exitIf.ends_bind.mp h
    obtain ⟨hquantities, h⟩ := (checks_forSome fun _ => checks_exit).ends_bind.mp h
    obtain ⟨rfl, rfl⟩ := ends_pure.mp h
    exact ⟨⟨not_lt.mp hlength, Option.eq_none_iff_forall_ne_some.mpr hquantities⟩, rfl, rfl⟩
  all_goals
    obtain ⟨rfl, rfl⟩ := ends_pure.mp h
    exact ⟨trivial, rfl, rfl⟩

/-- A domain payload as it is stored, up to the stamp of its header. -/
def normalizedDomain {k : DomainKind} (payload : Domain k) : Domain k :=
  sortedDetail k { payload with racks := sortUnique payload.racks }

/-- What the validation of a domain payload asks of it. -/
structure DomainPayloadOk (s : ClusterState) {k : DomainKind} (payload : Domain k) : Prop where
  id_nonempty : payload.id.isEmpty = false
  length_le : payload.racks.length ≤ maxDomainMembers
  members : ∀ rack ∈ payload.racks, s.isRackMember rack = true
  generation_known : payload.header.generation.known = true
  class_ne : Domain.classRaw k payload ≠ 0
  detail : DetailOk k payload

/-- A list all of whose elements pass a test that the search looks to fail. -/
theorem members_of_find? {s : ClusterState} {racks : List RackId}
    (h : ∀ rack, ((sortUnique racks).find? fun rack => !s.isRackMember rack) = some rack → False) :
    ∀ rack ∈ racks, s.isRackMember rack = true := by
  have hnone := List.find?_eq_none.mp (Option.eq_none_iff_forall_ne_some.mpr h)
  intro rack hrack
  simpa using hnone rack (mem_sortUnique.mpr hrack)

theorem ends_validateDomainPayload {domain : Domain k} (hid : payload.id.isEmpty = false)
    (h : Ends (validateDomainPayload payload) ctx domain ctx') :
    DomainPayloadOk ctx.state payload ∧ domain = normalizedDomain payload ∧ ctx' = ctx := by
  replace h := ends_get_bind.mp h
  obtain ⟨hlength, h⟩ := checks_exitIf.ends_bind.mp h
  obtain ⟨hmembers, h⟩ := (checks_forSome fun _ => checks_exit).ends_bind.mp h
  obtain ⟨hknown, h⟩ := checks_exitIf.ends_bind.mp h
  obtain ⟨hclass, h⟩ := checks_exitIf.ends_bind.mp h
  obtain ⟨hdetail, hdomain, hctx⟩ := ends_validateDomainExtra h
  refine ⟨⟨hid, not_lt.mp hlength, members_of_find? hmembers, by simpa using hknown, ?_, ?_⟩,
    hdomain, hctx⟩
  · cases k <;> exact hclass
  · cases k <;> exact hdetail

theorem ends_validateDomainPayload_bind {β : Type} {b : β} {f : Domain k → Apply β}
    (hid : payload.id.isEmpty = false) (h : Ends (validateDomainPayload payload >>= f) ctx b ctx') :
    DomainPayloadOk ctx.state payload ∧ Ends (f (normalizedDomain payload)) ctx b ctx' := by
  obtain ⟨_, _, hvalid, hf⟩ := ends_bind.mp h
  obtain ⟨hok, rfl, rfl⟩ := ends_validateDomainPayload hid hvalid
  exact ⟨hok, hf⟩

/-- What the validation of a constraint payload asks of it. -/
structure ConstraintPayloadOk (s : ClusterState) (payload : ClusterConstraint) : Prop where
  length_le : payload.racks.length ≤ maxDomainMembers
  members : ∀ rack ∈ payload.racks, s.isRackMember rack = true
  kind_ne : payload.kind ≠ .unknown
  generation_known : payload.header.generation.known = true

/-- What the validation of a link payload asks of it. -/
structure LinkPayloadOk (s : ClusterState) (payload : InterRackLink) : Prop where
  no_loop : payload.source ≠ payload.destination
  direction_ne : payload.direction ≠ .unknown
  source_member : s.isRackMember payload.source = true
  destination_member : s.isRackMember payload.destination = true
  length_le : payload.failureDomains.length ≤ maxFailureDomainRefs
  failureDomains : ∀ domain ∈ payload.failureDomains, s.failureDomains.contains domain = true
  networkDomain : ∀ domain, payload.networkDomain = some domain →
    s.networkDomains.contains domain = true
  linkDomain : ∀ domain, payload.linkDomain = some domain → s.linkDomains.contains domain = true
  generation_known : payload.header.generation.known = true
  epoch_eq : payload.topologyEpoch = s.topologyEpoch

end Payloads

/-! ## References -/

/-- What the validation of a reference asks of it. -/
structure ReferenceOk (reference : RackReference) : Prop where
  rack : reference.rack.isEmpty = false
  accelerators : reference.composition.accelerators.length ≤ maxCapacityQuantities
  hints : ∀ hint ∈ reference.failureDomainHints, hint.klass ≠ .unknown
  endpoints : ∀ endpoint ∈ reference.endpoints, endpoint.id.isEmpty = false
  publisher : reference.publisher.isSome = true

/-- One rule of the validation. -/
theorem isOk_of_ite {broken : Prop} [Decidable broken] {found rest : RackReferenceValidation}
    (hfound : found.isOk = false) (h : (if broken then found else rest).isOk = true) :
    ¬ broken ∧ rest.isOk = true := by
  by_cases hbroken : broken
  · rw [if_pos hbroken, hfound] at h
    exact absurd h Bool.false_ne_true
  · rw [if_neg hbroken] at h
    exact ⟨hbroken, h⟩

theorem referenceOk_of_isOk {reference : RackReference}
    (h : (validateRackReference reference).isOk = true) : ReferenceOk reference := by
  unfold validateRackReference at h
  dsimp only at h
  obtain ⟨hrack, h⟩ := isOk_of_ite rfl h
  iterate 3 obtain ⟨-, h⟩ := isOk_of_ite rfl h
  obtain ⟨haccelerators, h⟩ := isOk_of_ite rfl h
  iterate 3 obtain ⟨-, h⟩ := isOk_of_ite rfl h
  obtain ⟨hhints, h⟩ := isOk_of_ite rfl h
  obtain ⟨hendpoints, h⟩ := isOk_of_ite rfl h
  obtain ⟨hpublisher, -⟩ := isOk_of_ite rfl h
  refine ⟨by simpa using hrack, not_lt.mp haccelerators, ?_, ?_, ?_⟩
  · simpa using hhints
  · simpa using hendpoints
  · simpa [Option.isSome_iff_ne_none] using hpublisher

/-! ## Completed mutations -/

/-- A record that only reserves the identity of a registered rack. -/
def RackRecord.isPlaceholder (record : RackRecord) : Bool :=
  record.membership == .unknown && !record.authoritativeCurrent

/-- What an admission asks of the recorded rack. -/
structure AdmitsOver [StdSort] (incoming : RackReference) (record : RackRecord) : Prop where
  generation_le : record.reference.generation ≤ incoming.generation
  owner : record.isPlaceholder = true ∨ record.reference.generation < incoming.generation →
    ∀ owner, record.reference.publisher = some owner →
    ∀ publisher, incoming.publisher = some publisher → owner = publisher
  /-- A publication at the recorded generation repeats its content and is newer. -/
  repeats : incoming.generation = record.reference.generation → record.isPlaceholder = false →
    sameAuthoritativeContent record.reference incoming = true ∧
      (record.reference.boot = incoming.boot →
        record.reference.publication < incoming.publication)

/-- Whether an admission enters the rack anew or at a new generation, and so
advances the membership generation. -/
def restamps (existing : Option RackRecord) (incoming : RackReference) : Bool :=
  existing.isNone || (existing.getD {}).membership != .active ||
    existing.isSome && decide ((existing.getD {}).reference.generation < incoming.generation)

/-- The links are rewritten and the connectivity generation advanced, or both
are left as they are. -/
def LinksRewritten (s : ClusterState) (active : Prop) (select : InterRackLink → Bool)
    (f : InterRackLink → InterRackLink) (links : StdMap InterRackLinkId InterRackLink)
    (connectivity : ConnectivityGeneration) : Prop :=
  (active ∧ links = s.links.updateWhere select f ∧
      s.connectivityGeneration.next = some connectivity) ∨
    (¬ active ∧ links = s.links ∧ connectivity = s.connectivityGeneration)

/-- The membership a kind of mutation moves a rack to. -/
def MutationKind.membershipTarget : MutationKind → Option RackMembershipState
  | .markRackUnavailable => some .unavailable
  | .withdrawRack => some .withdrawn
  | .retireRack => some .retired
  | _ => none

/-- The kind of domain a kind of mutation publishes. -/
def MutationKind.domainKind : MutationKind → Option DomainKind
  | .publishPlacementDomain => some .placement
  | .publishCapacityDomain => some .capacity
  | .publishFailureDomain => some .failure
  | .publishNetworkDomain => some .network
  | .publishStorageDomain => some .storage
  | .publishPowerDomain => some .power
  | .publishCoolingDomain => some .cooling
  | .publishLinkDomain => some .link
  | _ => none

/-- The rack a recovery is about. -/
def MutationRequest.recoveredRackId [StdSort] (request : MutationRequest) : RackId :=
  let incoming := canonicalize request.rackReference
  if incoming.rack.isEmpty then request.targetRack else incoming.rack

/-- The state that a change of the membership leaves. -/
abbrev movedState [StdSort] (now : Timestamp) (s : ClusterState) (request : MutationRequest)
    (target : RackMembershipState) (record : RackRecord) (m : MembershipGeneration) :
    ClusterState :=
  { s with
    membershipGeneration := m
    withdrawnRacks := moveWithdrawn request.targetRack target s.withdrawnRacks
    retiredRacks :=
      if target = .retired then
        addRetired request.targetRack record.reference.generation now request.reason
          s.retiredRacks
      else s.retiredRacks
    racks := s.racks.insertOrAssign request.targetRack
      { movedRecord request target record with membershipGeneration := m } }

/-- A mutation of state `s` completed and left the state of the index. -/
inductive Applied [StdSort] (config : CoordinatorConfig) (now : Timestamp) (s : ClusterState)
    (request : MutationRequest) : ClusterState → Prop
  | declared (hkind : request.kind = .declareCluster) (hepoch : s.epoch.known = false) :
    Applied config now s request (declaredState s request now)
  | redeclared (hkind : request.kind = .declareCluster) (hepoch : s.epoch.known = true)
      (hnew : ¬ (request.readinessContract = s.readinessContract ∧
        request.declaredLifecycle = s.lifecycle)) :
    Applied config now s request
      { s with
        readinessContract := request.readinessContract
        lifecycle := request.declaredLifecycle }
  | registered (hkind : request.kind = .registerRackPublisher)
      (hrack : request.targetRack.isEmpty = false)
      (hretired : s.isRackRetired request.targetRack = false)
      (hpublisher : request.authority.publisher.isSome = true)
      (hfind : s.racks.find? request.targetRack = none)
      (hroom : s.racks.size < config.maxRacks)
      (hgeneration :
        (registeredRecord s request request.targetRack).reference.generation.known = true) :
    Applied config now s request
      { s with
        racks := s.racks.insertOrAssign request.targetRack
          (registeredRecord s request request.targetRack) }
  | admitted {incoming : RackReference} {record : RackRecord} {m : MembershipGeneration}
      (hkind : request.kind = .addRack)
      (hincoming : incoming = canonicalize request.rackReference)
      (hvalid : (validateRackReference incoming).isOk = true)
      (hretired : s.isRackRetired incoming.rack = false)
      (hboot : BootAuthorized s request incoming.rack)
      (hover : ∀ existing, s.racks.find? incoming.rack = some existing →
        AdmitsOver incoming existing)
      (hroom : s.racks.find? incoming.rack = none → s.racks.size < config.maxRacks)
      (hrecord : record = admittedRecord s now incoming ((s.racks.find? incoming.rack).getD {}))
      (hstamp : if restamps (s.racks.find? incoming.rack) incoming
        then s.membershipGeneration.next = some m else m = s.membershipGeneration) :
    Applied config now s request
      { s with
        membershipGeneration := m
        withdrawnRacks := s.withdrawnRacks.filter fun r => r ≠ incoming.rack
        racks := s.racks.insertOrAssign incoming.rack
          (if restamps (s.racks.find? incoming.rack) incoming
            then { record with membershipGeneration := m } else record) }
  | updated {record : RackRecord} {generation : RackGeneration} {m : MembershipGeneration}
      (hkind : request.kind = .updateRackGeneration)
      (hfind : s.racks.find? request.targetRack = some record)
      (hboot : BootAuthorized s request request.targetRack)
      (hexpected : ∀ expected, request.expectedRackGeneration = some expected →
        expected = record.reference.generation)
      (hnew : request.newRackGeneration = some generation)
      (hgeneration : record.reference.generation < generation)
      (hm : s.membershipGeneration.next = some m) :
    Applied config now s request
      { s with
        membershipGeneration := m
        racks := s.racks.insertOrAssign request.targetRack
          { updatedRecord s request generation record with membershipGeneration := m } }
  | moved {target : RackMembershipState} {record : RackRecord} {m : MembershipGeneration}
      (hkind : request.kind.membershipTarget = some target)
      (hfind : s.racks.find? request.targetRack = some record)
      (hboot : BootAuthorized s request request.targetRack)
      (hchange : record.membership ≠ target)
      (hretired : record.membership = .retired → target = .retired)
      (hm : s.membershipGeneration.next = some m) :
    Applied config now s request (movedState now s request target record m)
  | recovered {rack : RackId} {boot : RackAgentBootId} {record : RackRecord}
      {m : MembershipGeneration}
      (hkind : request.kind = .recoverRack) (hrack : rack = request.recoveredRackId)
      (hretired : s.isRackRetired rack = false) (hfind : s.racks.find? rack = some record)
      (hboot : request.authority.boot = some boot) (hfenced : s.isBootFenced boot = false)
      (hlive : record.reference.boot = boot → record.authoritativeCurrent = true)
      (hgeneration : record.reference.generation ≤
        request.newRackGeneration.getD record.reference.generation)
      (hm : s.membershipGeneration.next = some m) :
    Applied config now s request
      { s with
        membershipGeneration := m
        withdrawnRacks := s.withdrawnRacks.filter fun r => r ≠ rack
        racks := s.racks.insertOrAssign rack
          { recoveredRecord s request rack boot
              (request.newRackGeneration.getD record.reference.generation) record with
            membershipGeneration := m } }
  | healthPublished {record : RackRecord} {links : StdMap InterRackLinkId InterRackLink}
      {c : ConnectivityGeneration} {h : HealthGeneration}
      (hkind : request.kind = .publishHealthCurrentness)
      (hfind : s.racks.find? request.targetRack = some record)
      (hretired : s.isRackRetired request.targetRack = false)
      (hboot : BootAuthorized s request request.targetRack)
      (hnew : ¬ (record.reference.health = request.health ∧
        record.reference.evidence.observedAt = request.evidence.observedAt))
      (hlinks : LinksRewritten s (request.reachability ≠ .unknown)
        (InterRackLink.touches request.targetRack) (reportedLink request) links c)
      (hh : s.healthGeneration.next = some h) :
    Applied config now s request
      { s with
        racks := s.racks.insertOrAssign request.targetRack (healthRecord s request record)
        links := links
        connectivityGeneration := c
        healthGeneration := h }
  | evidenceWithdrawn {record : RackRecord} {links : StdMap InterRackLinkId InterRackLink}
      {c : ConnectivityGeneration} {h : HealthGeneration}
      (hkind : request.kind = .withdrawEvidence)
      (hfind : s.racks.find? request.targetRack = some record)
      (hlinks : LinksRewritten s
        (request.selector = text "reachability" ∨ request.selector = text "rack_evidence")
        (InterRackLink.touches request.targetRack) withdrawnEvidenceLink links c)
      (hh : s.healthGeneration.next = some h) :
    Applied config now s request
      { s with
        racks := s.racks.insertOrAssign request.targetRack (withdrawnEvidenceRecord record)
        links := links
        connectivityGeneration := c
        healthGeneration := h }
  | domainPublished {k : DomainKind} {payload domain : Domain k} {aggregate : DomainGeneration}
      {t : TopologyGeneration}
      (hkind : request.kind.domainKind = some k) (hpayload : request.domain k = some payload)
      (hok : DomainPayloadOk s payload)
      (hdomain : domain = { normalizedDomain payload with header := payload.header.stamp s })
      (hover : ∀ existing, (s.domains k).find? payload.id = some existing →
        existing.header.generation < payload.header.generation)
      (hroom : (s.domains k).find? payload.id = none →
        (s.domains k).size < config.maxDomainsPerClass)
      (haggregate :
        advanceAggregate (s.domainGenerations k) payload.header.generation = some aggregate)
      (ht : s.topologyGeneration.next = some t) :
    Applied config now s request
      { s with
        domainGenerations := Function.update s.domainGenerations k aggregate
        domains := Function.update s.domains k ((s.domains k).insertOrAssign payload.id domain)
        topologyGeneration := t
        topologyRecord := { s.topologyRecord with generation := t } }
  | constrained {payload : ClusterConstraint} {g : ConstraintGeneration}
      (hkind : request.kind = .publishConstraint) (hpayload : request.constraint = some payload)
      (hok : ConstraintPayloadOk s payload)
      (hover : ∀ existing, s.constraints.find? payload.id = some existing →
        existing.header.generation < payload.header.generation)
      (hroom : s.constraints.find? payload.id = none →
        s.constraints.size < config.maxConstraints)
      (hg : s.constraintGeneration.next = some g) :
    Applied config now s request
      { s with
        constraintGeneration := g
        constraints := s.constraints.insertOrAssign payload.id
          { payload with racks := sortUnique payload.racks, header := payload.header.stamp s } }
  | linkPublished {payload : InterRackLink} {t : TopologyGeneration} {c : ConnectivityGeneration}
      (hkind : request.kind = .publishInterRackLink) (hpayload : request.link = some payload)
      (hok : LinkPayloadOk s payload)
      (hover : ∀ existing, s.links.find? payload.id = some existing →
        existing.header.generation < payload.header.generation)
      (hroom : s.links.find? payload.id = none → s.links.size < config.maxLinks)
      (ht : s.topologyGeneration.next = some t)
      (hc : s.connectivityGeneration.next = some c) :
    Applied config now s request
      { s with
        links := s.links.insertOrAssign payload.id
          { payload with
            failureDomains := sortUnique payload.failureDomains
            header := payload.header.stamp s
            topologyGeneration := s.topologyGeneration }
        topologyGeneration := t
        connectivityGeneration := c
        topologyRecord := { s.topologyRecord with generation := t } }
  | linkWithdrawn {id : InterRackLinkId} {t : TopologyGeneration} {c : ConnectivityGeneration}
      (hkind : request.kind = .withdrawInterRackLink) (hid : request.linkId = some id)
      (hfind : s.links.contains id = true)
      (ht : s.topologyGeneration.next = some t)
      (hc : s.connectivityGeneration.next = some c) :
    Applied config now s request
      { s with
        links := s.links.erase id
        topologyGeneration := t
        connectivityGeneration := c
        topologyRecord := { s.topologyRecord with generation := t } }
  | superseded {target : TopologyEpoch} {t : TopologyGeneration} {c : ConnectivityGeneration}
      (hkind : request.kind = .supersedeTopology)
      (htarget : request.targetTopologyEpoch = some target) (hnewer : s.topologyEpoch < target)
      (ht : s.topologyGeneration.next = some t)
      (hc : s.connectivityGeneration.next = some c) :
    Applied config now s request
      { s with
        links := s.links.updateWhere (fun _ => true) supersededLink
        topologyEpoch := target
        topologyGeneration := t
        connectivityGeneration := c
        topologyRecord :=
          { epoch := target
            generation := t
            establishedAt := now
            evidence := .make .reported now 0
            reason :=
              if request.topologyReason.isEmpty then text "topology_superseded"
              else request.topologyReason } }
  | snapshotPublished {g : SnapshotGeneration} {q : PublicationGeneration}
      (hkind : request.kind = .publishSnapshot) (hg : s.snapshotGeneration.next = some g)
      (hq : s.publicationGeneration.next = some q) :
    Applied config now s request { s with snapshotGeneration := g, publicationGeneration := q }
  | revalidated (hkind : request.kind = .revalidateRecoveredState)
      (hfresh : ∀ rack ∈ (if request.racks.isEmpty then s.racks.keys else request.racks),
        (s.racks.find? rack).any isFresh = true) :
    Applied config now s request s
  | clusterRetired (hkind : request.kind = .retireCluster) (hlifecycle : s.lifecycle ≠ .retired) :
    Applied config now s request
      { s with
        lifecycle := .retired
        racks := s.racks.updateWhere (fun record => record.authoritativeCurrent)
          retiredClusterRack }

theorem MutationKind.domainKind_of_membershipTarget {kind : MutationKind}
    {target : RackMembershipState} (h : kind.membershipTarget = some target) :
    kind.domainKind = none := by
  cases kind <;> simp_all [membershipTarget, domainKind]

section Kinds

variable [StdSort] {config : CoordinatorConfig} {now : Timestamp} {s s' : ClusterState}
  {request : MutationRequest}

/-- What a completed publication of a domain did. -/
theorem Applied.of_domain (hkind : request.kind.domainKind = some k)
    (h : Applied config now s request s') :
    ∃ (payload : Domain k) (aggregate : DomainGeneration) (t : TopologyGeneration),
      request.domain k = some payload ∧ DomainPayloadOk s payload ∧
      (∀ existing, (s.domains k).find? payload.id = some existing →
        existing.header.generation < payload.header.generation) ∧
      advanceAggregate (s.domainGenerations k) payload.header.generation = some aggregate ∧
      s' =
        { s with
          domainGenerations := Function.update s.domainGenerations k aggregate
          domains := Function.update s.domains k ((s.domains k).insertOrAssign payload.id
            { normalizedDomain payload with header := payload.header.stamp s })
          topologyGeneration := t
          topologyRecord := { s.topologyRecord with generation := t } } := by
  cases h
  case domainPublished k' payload domain aggregate t hkind' hpayload hok hdomain hover _
      haggregate _ =>
    obtain rfl := Option.some.inj (hkind'.symm.trans hkind)
    subst hdomain
    exact ⟨payload, aggregate, t, hpayload, hok, hover, haggregate, rfl⟩
  case moved htarget _ _ _ _ _ =>
    simp [MutationKind.domainKind_of_membershipTarget htarget] at hkind
  all_goals simp_all [MutationKind.domainKind]

end Kinds

end ClusterFabric
