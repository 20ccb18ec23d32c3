import ClusterFabric.Model.DurableCheck

/-! # What validation accepts

The rules of `validate_persisted_state` as predicates, part by part, and that the check
passes exactly on the states that satisfy them (`validatePersistedState_ok`).
-/

namespace ClusterFabric

open Lib Check

namespace PersistedState

/-! ## The rules -/

structure ValidScalars (p : PersistedState) : Prop where
  id : p.id.isEmpty = false
  epoch : p.epoch.known = true
  lastCoordinatorEpoch : p.lastCoordinatorEpoch.known = true
  generation : p.generation.known = true
  membershipGeneration : p.membershipGeneration.known = true
  topologyGeneration : p.topologyGeneration.known = true
  connectivityGeneration : p.connectivityGeneration.known = true
  healthGeneration : p.healthGeneration.known = true
  constraintGeneration : p.constraintGeneration.known = true
  snapshotGeneration : p.snapshotGeneration.known = true
  publicationGeneration : p.publicationGeneration.known = true
  topologyEpoch : p.topologyEpoch.known = true ∨ p.topologyRecord.epoch.known = true

structure ValidRack (rack : DurableRack) : Prop where
  id : rack.rack.isEmpty = false
  generation : rack.generation.known = true
  publisher : rack.publisher.isEmpty = false
  endpointCount : rack.endpoints.length ≤ maxRackEndpoints
  endpoints : ∀ endpoint ∈ rack.endpoints, endpoint.id.isEmpty = false
  endpointsSorted : rack.endpoints.Pairwise fun a b => a.id < b.id
  hintCount : rack.failureDomainHints.length ≤ maxFailureDomainRefs
  hints : ∀ hint ∈ rack.failureDomainHints, hint.klass ≠ .unknown ∧ hint.id.isEmpty = false
  hintsSorted : rack.failureDomainHints.Pairwise fun a b => a.key < b.key

structure ValidMembers (p : PersistedState) (members : List RackId) : Prop where
  count : members.length ≤ maxDomainMembers
  exist : ∀ member ∈ members, member.isEmpty = false ∧ p.rackExists member = true
  sorted : members.Pairwise (· < ·)

structure ValidDomain (p : PersistedState) {k : DomainKind} (domain : Domain k) : Prop where
  id : domain.id.isEmpty = false
  generation : domain.header.generation.known = true
  members : p.ValidMembers domain.racks

structure ValidQuantity (quantity : CapacityQuantity) : Prop where
  unit : isUnbounded quantity.unit = false
  finite : ∀ value, quantity.value = some value → value.isFinite = true

structure ValidQuantities (domain : Domain .capacity) : Prop where
  count : (CapacityDetail.quantities domain.detail).length ≤ maxCapacityQuantities
  valid : ∀ quantity ∈ CapacityDetail.quantities domain.detail, ValidQuantity quantity
  sorted : (CapacityDetail.quantities domain.detail).Pairwise fun a b => a.durableKey < b.durableKey

structure ValidLink (p : PersistedState) (link : InterRackLink) : Prop where
  id : link.id.isEmpty = false
  source : link.source.isEmpty = false
  destination : link.destination.isEmpty = false
  distinct : link.source ≠ link.destination
  sourceExists : p.rackExists link.source = true
  destinationExists : p.rackExists link.destination = true
  generation : link.header.generation.known = true
  topologyEpoch : link.topologyEpoch.known = true
  networkDomain : ∀ id, link.networkDomain = some id → p.domainExists .network id = true
  linkDomain : ∀ id, link.linkDomain = some id → p.domainExists .link id = true

structure ValidConstraint (p : PersistedState) (constraint : ClusterConstraint) : Prop where
  id : constraint.id.isEmpty = false
  kind : constraint.kind ≠ .unknown
  generation : constraint.header.generation.known = true
  members : p.ValidMembers constraint.racks

structure ValidFenced (fenced : FencedAuthority) : Prop where
  boot : fenced.boot.isEmpty = false
  rack : fenced.rack.isEmpty = false
  reason : isUnbounded fenced.reason = false

/-- The states that `validate_persisted_state` accepts. -/
structure Valid (p : PersistedState) : Prop where
  scalars : p.ValidScalars
  rackCount : p.racks.length ≤ maxRacksPerCluster
  linkCount : p.links.length ≤ maxInterRackLinks
  constraintCount : p.constraints.length ≤ maxConstraints
  racks : ∀ rack ∈ p.racks, ValidRack rack
  racksSorted : p.racks.Pairwise fun a b => a.rack < b.rack
  domainCount : ∀ k, (p.domains k).length ≤ maxDomainsPerClass
  domains : ∀ k, ∀ domain ∈ p.domains k, p.ValidDomain domain
  domainsSorted : ∀ k, (p.domains k).Pairwise fun a b => a.id < b.id
  quantities : ∀ domain ∈ p.domains .capacity, ValidQuantities domain
  links : ∀ link ∈ p.links, p.ValidLink link
  linksSorted : p.links.Pairwise fun a b => a.id < b.id
  constraints : ∀ constraint ∈ p.constraints, p.ValidConstraint constraint
  constraintsSorted : p.constraints.Pairwise fun a b => a.id < b.id
  retired : ∀ retired ∈ p.retiredRacks,
    retired.rack.isEmpty = false ∧ retired.lastGeneration.known = true
  retiredSorted : p.retiredRacks.Pairwise fun a b => a.rack < b.rack
  withdrawn : ∀ rack ∈ p.withdrawnRacks,
    rack.isEmpty = false ∧ ∀ retired ∈ p.retiredRacks, retired.rack ≠ rack
  withdrawnSorted : p.withdrawnRacks.Pairwise (· < ·)
  fenced : ∀ fenced ∈ p.fencedAuthorities, ValidFenced fenced

/-! ## The checks -/

variable {p : PersistedState}

theorem checkScalars_ok : p.checkScalars = .ok () ↔ p.ValidScalars := by
  simp only [checkScalars, bind_ok, failIf_ok, StrongId.isWellFormed_eq]
  constructor
  · simp only [Bool.not_eq_true', Bool.or_eq_true, Bool.and_eq_true, not_or, not_and,
      Bool.not_eq_false, Bool.not_not]
    rintro ⟨hid, hepoch, hcoordinator, ⟨⟨⟨⟨⟨⟨⟨h1, h2⟩, h3⟩, h4⟩, h5⟩, h6⟩, h7⟩, h8⟩, htopology⟩
    refine ⟨by simpa using hid, hepoch, hcoordinator, h1, h2, h3, h4, h5, h6, h7, h8, ?_⟩
    by_cases h : p.topologyEpoch.known = true
    · exact .inl h
    · exact .inr (htopology (by simpa using h))
  · intro h
    simp [h.id, h.epoch, h.lastCoordinatorEpoch, h.generation, h.membershipGeneration,
      h.topologyGeneration, h.connectivityGeneration, h.healthGeneration, h.constraintGeneration,
      h.snapshotGeneration, h.publicationGeneration]
    rcases h.topologyEpoch with h | h <;> simp [h]

theorem checkEndpoints_ok {named : Text} {endpoints : List RackEndpoint} :
    sequence (checkEndpoint named) endpoints = .ok () ↔
      (∀ endpoint ∈ endpoints, endpoint.id.isEmpty = false) ∧
        endpoints.Pairwise fun a b => a.id < b.id :=
  sequence_ok RackEndpoint.id fun previous endpoint => by simp [checkEndpoint]

theorem checkHints_ok {named : Text} {hints : List RackFailureDomainHint} :
    sequence (checkHint named) hints = .ok () ↔
      (∀ hint ∈ hints, hint.klass ≠ .unknown ∧ hint.id.isEmpty = false) ∧
        hints.Pairwise fun a b => a.key < b.key :=
  sequence_ok RackFailureDomainHint.key fun previous hint => by simp [checkHint, and_assoc]

theorem checkRacks_ok {racks : List DurableRack} :
    sequence checkRack racks = .ok () ↔
      (∀ rack ∈ racks, ValidRack rack) ∧ racks.Pairwise fun a b => a.rack < b.rack := by
  refine sequence_ok DurableRack.rack fun previous rack => ?_
  simp only [checkRack, bind_ok, failIf_ok, StrongId.isWellFormed_eq, checkEndpoints_ok,
    checkHints_ok, not_lt, Bool.not_not, Bool.not_eq_true', Bool.not_eq_true, Bool.not_eq_false]
  constructor
  · rintro ⟨hid, hgeneration, hpublisher, hafter, hcount, ⟨hids, hsorted⟩, hcount', hhints,
      hsorted'⟩
    exact ⟨⟨hid, hgeneration, hpublisher, hcount, hids, hsorted, hcount', hhints, hsorted'⟩, hafter⟩
  · rintro ⟨h, hafter⟩
    exact ⟨h.id, h.generation, h.publisher, hafter, h.endpointCount,
      ⟨h.endpoints, h.endpointsSorted⟩, h.hintCount, h.hints, h.hintsSorted⟩

theorem checkMembers_ok {owner : Text} {members : List RackId} :
    p.checkMembers owner members = .ok () ↔ p.ValidMembers members := by
  have hcheck : sequence p.checkMember members = .ok () ↔
      (∀ member ∈ members, member.isEmpty = false ∧ p.rackExists member = true) ∧
        members.Pairwise (· < ·) := by
    refine sequence_ok (fun rack => rack) fun previous member => ?_
    simp only [checkMember, bind_ok, failIf_ok, StrongId.isWellFormed_eq, Bool.not_not,
      Bool.not_eq_true', Bool.not_eq_true, Bool.not_eq_false]
    tauto
  simp only [checkMembers, mapError_ok, memberListOk, bind_ok, failIf_ok, not_lt, hcheck]
  constructor
  · rintro ⟨hcount, hexist, hsorted⟩
    exact ⟨hcount, hexist, hsorted⟩
  · intro h
    exact ⟨h.count, h.exist, h.sorted⟩

theorem checkDomainList_ok {k : DomainKind} :
    p.checkDomainList k = .ok () ↔
      (p.domains k).length ≤ maxDomainsPerClass ∧ (∀ domain ∈ p.domains k, p.ValidDomain domain) ∧
        (p.domains k).Pairwise fun a b => a.id < b.id := by
  have hcheck : sequence p.checkDomain (p.domains k) = .ok () ↔
      (∀ domain ∈ p.domains k, p.ValidDomain domain) ∧
        (p.domains k).Pairwise fun a b => a.id < b.id := by
    refine sequence_ok Domain.id fun previous domain => ?_
    simp only [checkDomain, bind_ok, failIf_ok, StrongId.isWellFormed_eq, checkMembers_ok,
      Bool.not_not, Bool.not_eq_true', Bool.not_eq_true, Bool.not_eq_false]
    constructor
    · rintro ⟨hid, hgeneration, hafter, hmembers⟩
      exact ⟨⟨hid, hgeneration, hmembers⟩, hafter⟩
    · rintro ⟨h, hafter⟩
      exact ⟨h.id, h.generation, hafter, h.members⟩
  simp only [checkDomainList, bind_ok, failIf_ok, not_lt, hcheck]

theorem checkQuantities_ok {domain : Domain .capacity} :
    checkQuantities domain = .ok () ↔ ValidQuantities domain := by
  have hcheck : ∀ (named : Text) (quantities : List CapacityQuantity),
      sequence (checkQuantity named) quantities = .ok () ↔
        (∀ quantity ∈ quantities, ValidQuantity quantity) ∧
          quantities.Pairwise fun a b => a.durableKey < b.durableKey := by
    intro named quantities
    refine sequence_ok CapacityQuantity.durableKey fun previous quantity => ?_
    simp only [checkQuantity, bind_ok, failIf_ok, Bool.not_eq_true, any_not_eq_false]
    constructor
    · rintro ⟨hunit, hfinite, hafter⟩
      exact ⟨⟨hunit, hfinite⟩, hafter⟩
    · rintro ⟨h, hafter⟩
      exact ⟨h.unit, h.finite, hafter⟩
  simp only [checkQuantities, bind_ok, failIf_ok, not_lt, hcheck]
  constructor
  · rintro ⟨hcount, hvalid, hsorted⟩
    exact ⟨hcount, hvalid, hsorted⟩
  · intro h
    exact ⟨h.count, h.valid, h.sorted⟩

theorem checkLinks_ok {links : List InterRackLink} :
    sequence p.checkLink links = .ok () ↔
      (∀ link ∈ links, p.ValidLink link) ∧ links.Pairwise fun a b => a.id < b.id := by
  refine sequence_ok InterRackLink.id fun previous link => ?_
  simp only [checkLink, bind_ok, failIf_ok, StrongId.isWellFormed_eq, Bool.or_eq_true, not_or,
    Bool.not_not, Bool.not_eq_true', Bool.not_eq_true, Bool.not_eq_false, beq_eq_false_iff_ne]
  have hnetwork' := any_not_eq_false (o := link.networkDomain) (q := p.domainExists .network)
  have hlink' := any_not_eq_false (o := link.linkDomain) (q := p.domainExists .link)
  constructor
  · rintro ⟨hid, ⟨⟨hsource, hdestination⟩, hdistinct⟩, ⟨hsource', hdestination'⟩,
      ⟨hgeneration, hepoch⟩, hnetwork, hlink, hafter⟩
    exact ⟨⟨hid, hsource, hdestination, hdistinct, hsource', hdestination', hgeneration, hepoch,
      hnetwork'.mp hnetwork, hlink'.mp hlink⟩, hafter⟩
  · rintro ⟨h, hafter⟩
    exact ⟨h.id, ⟨⟨h.source, h.destination⟩, h.distinct⟩, ⟨h.sourceExists, h.destinationExists⟩,
      ⟨h.generation, h.topologyEpoch⟩, hnetwork'.mpr h.networkDomain,
      hlink'.mpr h.linkDomain, hafter⟩

theorem checkConstraints_ok {constraints : List ClusterConstraint} :
    sequence p.checkConstraint constraints = .ok () ↔
      (∀ constraint ∈ constraints, p.ValidConstraint constraint) ∧
        constraints.Pairwise fun a b => a.id < b.id := by
  refine sequence_ok ClusterConstraint.id fun previous constraint => ?_
  simp only [checkConstraint, bind_ok, failIf_ok, StrongId.isWellFormed_eq, checkMembers_ok,
    Bool.not_not, Bool.not_eq_true', Bool.not_eq_true, Bool.not_eq_false]
  constructor
  · rintro ⟨hid, hkind, hgeneration, hmembers, hafter⟩
    exact ⟨⟨hid, hkind, hgeneration, hmembers⟩, hafter⟩
  · rintro ⟨h, hafter⟩
    exact ⟨h.id, h.kind, h.generation, h.members, hafter⟩

theorem checkRetired_ok {retired : List RetiredIdentity} :
    sequence checkRetired retired = .ok () ↔
      (∀ entry ∈ retired, entry.rack.isEmpty = false ∧ entry.lastGeneration.known = true) ∧
        retired.Pairwise fun a b => a.rack < b.rack :=
  sequence_ok RetiredIdentity.rack fun previous entry => by simp [checkRetired, and_assoc]

theorem checkWithdrawn_ok {withdrawn : List RackId} :
    sequence p.checkWithdrawn withdrawn = .ok () ↔
      (∀ rack ∈ withdrawn, rack.isEmpty = false ∧ ∀ entry ∈ p.retiredRacks, entry.rack ≠ rack) ∧
        withdrawn.Pairwise (· < ·) := by
  refine sequence_ok (fun rack => rack) fun previous rack => ?_
  simp only [checkWithdrawn, bind_ok, failIf_ok, StrongId.isWellFormed_eq, List.any_eq_true,
    beq_iff_eq, Bool.not_not, Bool.not_eq_true, not_exists, not_and]
  tauto

theorem checkFenced_ok {fenced : FencedAuthority} :
    checkFenced fenced = .ok () ↔ ValidFenced fenced := by
  simp only [checkFenced, bind_ok, failIf_ok, StrongId.isWellFormed_eq, Bool.not_not,
    Bool.not_eq_true]
  constructor
  · rintro ⟨hboot, hrack, hreason⟩
    exact ⟨hboot, hrack, hreason⟩
  · intro h
    exact ⟨h.boot, h.rack, h.reason⟩

end PersistedState

open PersistedState in
/-- The check passes exactly on the valid states. -/
theorem validatePersistedState_ok {p : PersistedState} :
    validatePersistedState p = .ok () ↔ p.Valid := by
  simp only [validatePersistedState, bind_ok, checkScalars_ok, checkCount, failIf_ok, not_lt,
    checkRacks_ok, forEach_ok, checkDomainList_ok, checkQuantities_ok, checkLinks_ok,
    checkConstraints_ok, checkRetired_ok, checkWithdrawn_ok, checkFenced_ok]
  constructor
  · rintro ⟨hscalars, hracks, hlinks, hconstraints, ⟨hrack, hrackSorted⟩, hdomain, hquantities,
      ⟨hlink, hlinkSorted⟩, ⟨hconstraint, hconstraintSorted⟩, ⟨hretired, hretiredSorted⟩,
      ⟨hwithdrawn, hwithdrawnSorted⟩, hfenced⟩
    exact ⟨hscalars, hracks, hlinks, hconstraints, hrack, hrackSorted,
      fun k => (hdomain k (DomainKind.mem_all k)).1,
      fun k => (hdomain k (DomainKind.mem_all k)).2.1,
      fun k => (hdomain k (DomainKind.mem_all k)).2.2, hquantities, hlink, hlinkSorted,
      hconstraint, hconstraintSorted, hretired, hretiredSorted, hwithdrawn, hwithdrawnSorted,
      hfenced⟩
  · intro h
    exact ⟨h.scalars, h.rackCount, h.linkCount, h.constraintCount, ⟨h.racks, h.racksSorted⟩,
      fun k _ => ⟨h.domainCount k, h.domains k, h.domainsSorted k⟩, h.quantities,
      ⟨h.links, h.linksSorted⟩, ⟨h.constraints, h.constraintsSorted⟩,
      ⟨h.retired, h.retiredSorted⟩, ⟨h.withdrawn, h.withdrawnSorted⟩, h.fenced⟩

end ClusterFabric
