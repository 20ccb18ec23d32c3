import ClusterFabric.Verify.History
import ClusterFabric.Verify.RoundTrip

/-! # Storable states

The gates of the engine, the encoder, the decoder and the structural rules are four sets
of rules. A state is storable if it has what the last two ask for and the invariants do
not give. The engine does not keep that for every request: it takes over identities,
lists and bounds that it never looks at. This module says which requests and fences keep
it, and that a recovery always does (`storable_recovered`).
-/

namespace ClusterFabric

open Lib PersistedState

variable {k : DomainKind} {boot : RackAgentBootId} {g : ClusterGeneration} {payload : Domain k}

/-! ## Records -/

/-- The lists of a reference as a canonicalized reference has them. -/
structure StorableLists (reference : RackReference) : Prop where
  endpoints : ∀ endpoint ∈ reference.endpoints, ReadableEndpoint endpoint
  endpointsSorted : reference.endpoints.Pairwise fun a b => a.id < b.id
  hints : ∀ hint ∈ reference.failureDomainHints, hint.klass ≠ .unknown ∧ hint.id.isEmpty = false
  hintsSorted : reference.failureDomainHints.Pairwise fun a b => a.key < b.key

structure StorableReference (reference : RackReference) : Prop extends StorableLists reference where
  publisher : Named reference.publisher
  boot : reference.boot.isEmpty = false
  accelerators : reference.composition.accelerators.length ≤ maxCapacityQuantities

structure StorableRack (rack : RackId) (record : RackRecord) : Prop where
  id : rack.isEmpty = false
  reference : StorableReference record.reference

/-- The rules for the quantities of a capacity domain; other kinds have none. -/
def QuantitiesOk : (k : DomainKind) → Domain k → Prop
  | .capacity, domain => ValidQuantities domain
  | _, _ => True

structure StorableDomain {k : DomainKind} (id : DomainId k) (domain : Domain k) : Prop where
  id : id.isEmpty = false
  generation : domain.header.generation.known = true
  racks_le : domain.racks.length ≤ maxDomainMembers
  detail : ReadableDetail k domain.detail
  quantities : QuantitiesOk k domain
  publisher : Named domain.header.publisher

/-- A link whose references resolve in the given domains. -/
structure StorableLink (domains : (k : DomainKind) → StdMap (DomainId k) (Domain k))
    (id : InterRackLinkId) (link : InterRackLink) : Prop where
  id : id.isEmpty = false
  generation : link.header.generation.known = true
  topologyEpoch : link.topologyEpoch.known = true
  networkDomain : ∀ domain, link.networkDomain = some domain →
    (domains .network).contains domain = true
  linkDomain : ∀ domain, link.linkDomain = some domain → (domains .link).contains domain = true
  sourceEndpoint : Named link.sourceEndpoint
  destinationEndpoint : Named link.destinationEndpoint
  failureDomains_le : link.failureDomains.length ≤ maxFailureDomainRefs
  publisher : Named link.header.publisher
  boot : Named link.boot

structure StorableConstraint (id : ConstraintId) (constraint : ClusterConstraint) : Prop where
  id : id.isEmpty = false
  kind : constraint.kind ≠ .unknown
  generation : constraint.header.generation.known = true
  racks_le : constraint.racks.length ≤ maxDomainMembers
  sorted : constraint.racks.Pairwise (· < ·)
  publisher : Named constraint.header.publisher

/-- The identity and the counters of a declared cluster. -/
structure KnownScalars (s : ClusterState) : Prop where
  id : s.id.isEmpty = false
  generation : s.generation.known = true
  membershipGeneration : s.membershipGeneration.known = true
  topologyEpoch : s.topologyEpoch.known = true
  topologyGeneration : s.topologyGeneration.known = true
  connectivityGeneration : s.connectivityGeneration.known = true
  healthGeneration : s.healthGeneration.known = true
  constraintGeneration : s.constraintGeneration.known = true
  snapshotGeneration : s.snapshotGeneration.known = true
  publicationGeneration : s.publicationGeneration.known = true

/-- A retired identity of a recorded rack that is retired. -/
structure StorableRetired (racks : StdMap RackId RackRecord) (retired : RetiredIdentity) :
    Prop where
  lastGeneration : retired.lastGeneration.known = true
  membership : (racks.find? retired.rack).map RackRecord.membership = some .retired

structure StorableRecords (s : ClusterState) : Prop where
  racks : s.racks.All StorableRack
  domains : ∀ k, (s.domains k).All StorableDomain
  links : s.links.All (StorableLink s.domains)
  constraints : s.constraints.All StorableConstraint
  fenced : ∀ fenced ∈ s.fencedAuthorities, ValidFenced fenced

/-- What decoder and structural rules ask of a state beyond the invariants. -/
structure Storable (s : ClusterState) : Prop extends StorableRecords s where
  coordinatorEpoch : s.coordinatorEpoch.known = true
  scalars : s.epoch.known = true → KnownScalars s
  contract : s.epoch.known = true → ReadableContract s.readinessContract
  retired : ∀ retired ∈ s.retiredRacks, StorableRetired s.racks retired

theorem StorableRecords.rack_nonempty {s : ClusterState} (h : StorableRecords s) {rack : RackId}
    (hcontains : s.racks.contains rack = true) : rack.isEmpty = false := by
  obtain ⟨record, hfind⟩ := Option.isSome_iff_exists.mp hcontains
  exact (h.racks rack record hfind).id

theorem StorableRecords.domain_nonempty {s : ClusterState} (h : StorableRecords s)
    {id : DomainId k} (hcontains : (s.domains k).contains id = true) : id.isEmpty = false := by
  obtain ⟨domain, hfind⟩ := Option.isSome_iff_exists.mp hcontains
  exact (h.domains k id domain hfind).id

theorem QuantitiesOk.congr {domain domain' : Domain k} (h : QuantitiesOk k domain)
    (hdetail : domain'.detail = domain.detail) : QuantitiesOk k domain' := by
  cases k
  case capacity => exact ⟨hdetail ▸ h.count, hdetail ▸ h.valid, hdetail ▸ h.sorted⟩
  all_goals trivial

theorem StorableLink.extend {domains domains' : (k : DomainKind) → StdMap (DomainId k) (Domain k)}
    (hdomains : ∀ k id, (domains k).contains id = true → (domains' k).contains id = true)
    {id : InterRackLinkId} {link : InterRackLink} (h : StorableLink domains id link) :
    StorableLink domains' id link :=
  { h with
    networkDomain := fun domain hdomain => hdomains .network domain (h.networkDomain domain hdomain)
    linkDomain := fun domain hdomain => hdomains .link domain (h.linkDomain domain hdomain) }

theorem LinksRewritten.storable {s : ClusterState} {active : Prop} {select : InterRackLink → Bool}
    {f : InterRackLink → InterRackLink} {links : StdMap InterRackLinkId InterRackLink}
    {c : ConnectivityGeneration} (h : LinksRewritten s active select f links c)
    (hlinks : s.links.All (StorableLink s.domains))
    (hf : ∀ id link, StorableLink s.domains id link → StorableLink s.domains id (f link)) :
    links.All (StorableLink s.domains) := by
  rcases h with ⟨-, rfl, -⟩ | ⟨-, rfl, -⟩
  · exact hlinks.updateWhere select hf
  · exact hlinks

theorem StrongCounter.known_of_le {tag : CounterTag} {c d : StrongCounter tag}
    (h : c.known = true) (hle : c ≤ d) : d.known = true := by
  rw [known_iff] at h ⊢
  exact h.trans_le hle

theorem KnownScalars.forward {s s' : ClusterState} (h : KnownScalars s)
    (hforward : Coordinator.Forward s s') (hid : s'.id = s.id) : KnownScalars s' where
  id := hid ▸ h.id
  generation := StrongCounter.known_of_le h.generation hforward.generation
  membershipGeneration := StrongCounter.known_of_le h.membershipGeneration
    hforward.membershipGeneration
  topologyEpoch := StrongCounter.known_of_le h.topologyEpoch hforward.topologyEpoch
  topologyGeneration := StrongCounter.known_of_le h.topologyGeneration hforward.topologyGeneration
  connectivityGeneration := StrongCounter.known_of_le h.connectivityGeneration
    hforward.connectivityGeneration
  healthGeneration := StrongCounter.known_of_le h.healthGeneration hforward.healthGeneration
  constraintGeneration := StrongCounter.known_of_le h.constraintGeneration
    hforward.constraintGeneration
  snapshotGeneration := StrongCounter.known_of_le h.snapshotGeneration hforward.snapshotGeneration
  publicationGeneration := StrongCounter.known_of_le h.publicationGeneration
    hforward.publicationGeneration

/-! ## Requests -/

/-- What an admission takes over from a reference without looking at it. -/
structure StorableAdmission (reference : RackReference) : Prop where
  publisher : Named reference.publisher
  boot : reference.boot.isEmpty = false
  endpoints : ∀ endpoint ∈ reference.endpoints,
    Named endpoint.networkDomain ∧ Named endpoint.linkDomain
  hints : ∀ hint ∈ reference.failureDomainHints, hint.id.isEmpty = false

/-- What a registration takes over. -/
structure StorableRegistration (request : MutationRequest) : Prop where
  publisher : Named request.authority.publisher
  boot : (request.authority.boot.getD request.rackReference.boot).isEmpty = false
  accelerators : request.rackReference.composition.accelerators.length ≤ maxCapacityQuantities

/-- What a generation update and a recovery take over. -/
structure StorableUpdate (request : MutationRequest) : Prop where
  publisher : Named request.authority.publisher
  boot : Named request.authority.boot
  accelerators : request.rackReference.composition.accelerators.length ≤ maxCapacityQuantities

/-- The parent of a power or cooling domain is named. -/
def ParentNamed : (k : DomainKind) → DomainDetail k → Prop
  | .power, parent => @Named .powerDomain parent
  | .cooling, parent => @Named .coolingDomain parent
  | _, _ => True

/-- What a link publication takes over. -/
structure StorableLinkPayload (link : InterRackLink) : Prop where
  id : link.id.isEmpty = false
  sourceEndpoint : Named link.sourceEndpoint
  destinationEndpoint : Named link.destinationEndpoint
  publisher : Named link.header.publisher
  boot : Named link.boot

/-- A request that leaves a storable state storable. -/
structure StorableRequest [StdSort] (request : MutationRequest) : Prop where
  contract : request.kind = .declareCluster → ReadableContract request.readinessContract
  registration : request.kind = .registerRackPublisher → StorableRegistration request
  admission : request.kind = .addRack → StorableAdmission (canonicalize request.rackReference)
  update : request.kind = .updateRackGeneration → StorableUpdate request
  recovery : request.kind = .recoverRack →
    StorableUpdate request ∧ StorableLists request.rackReference
  domain : ∀ k payload, request.kind.domainKind = some k → request.domain k = some payload →
    ParentNamed k payload.detail ∧ Named payload.header.publisher
  link : request.kind = .publishInterRackLink → ∀ link, request.link = some link →
    StorableLinkPayload link
  constraint : request.kind = .publishConstraint → ∀ constraint,
    request.constraint = some constraint →
    constraint.id.isEmpty = false ∧ Named constraint.header.publisher

/-! ## Payloads -/

theorem Named.or {tag : IdTag} {a b : Option (StrongId tag)} (ha : Named a) (hb : Named b) :
    Named (a.or b) := by
  cases a with
  | none => exact hb
  | some i => exact ha

theorem Named.getD {tag : IdTag} {a : Option (StrongId tag)} (ha : Named a) {b : StrongId tag}
    (hb : b.isEmpty = false) : (a.getD b).isEmpty = false := by
  cases a with
  | none => exact hb
  | some i => exact ha i rfl

/-- Quantities that pass the loop and are sorted have strictly increasing units:
the loop compares neighbours only, and the order puts equal units side by side. -/
theorem units_of_checkQuantities {subject : Text} {previous : Option Text}
    {quantities : List CapacityQuantity} (h : checkQuantities subject previous quantities = none)
    (hsorted : quantities.Pairwise fun a b => a.key ≤ b.key)
    (hprevious : ∀ unit, previous = some unit → ∀ q ∈ quantities, unit ≤ q.unit) :
    (∀ q ∈ quantities, ValidQuantity q) ∧ (quantities.Pairwise fun a b => a.unit < b.unit) ∧
      ∀ unit, previous = some unit → ∀ q ∈ quantities, unit < q.unit := by
  induction quantities generalizing previous with
  | nil => simp
  | cons q rest ih =>
    rw [checkQuantities] at h
    split_ifs at h with hlabel hfinite hduplicate
    have hle : ∀ q' ∈ rest, q.unit ≤ q'.unit := by
      intro q' hq'
      rcases Prod.Lex.le_iff.mp (List.rel_of_pairwise_cons hsorted hq') with hlt | ⟨heq, -⟩
      · exact hlt.le
      · exact heq.le
    obtain ⟨hvalid, hrest, hlt⟩ := ih h hsorted.of_cons (by rintro _ ⟨⟩; exact hle)
    have hfirst : ∀ unit, previous = some unit → unit < q.unit := by
      intro unit hunit
      refine lt_of_le_of_ne (hprevious unit hunit q (List.mem_cons_self ..)) fun heq => ?_
      exact hduplicate (heq ▸ hunit)
    refine ⟨?_, List.pairwise_cons.mpr ⟨hlt q.unit rfl, hrest⟩, ?_⟩
    · intro q' hq'
      rcases List.mem_cons.mp hq' with rfl | hq'
      · have hunit : q'.unit.isEmpty = false ∧ (validateLabel q'.unit).isOk = true := by
          simpa using hlabel
        have hlength := length_le_of_validateLabel hunit.2
        refine ⟨?_, Check.any_not_eq_false.mp (by simpa using hfinite)⟩
        have hmax : maxIdentityLength ≤ maxEncodedStringBytes := by decide
        simp [isUnbounded, hunit.1, hlength.trans hmax]
      · exact hvalid q' hq'
    · intro unit hunit q' hq'
      rcases List.mem_cons.mp hq' with rfl | hq'
      · exact hfirst unit hunit
      · exact (hfirst unit hunit).trans (hlt q.unit rfl q' hq')

section Payloads

variable [StdSort]

theorem storableReference_canonicalize {reference : RackReference}
    (hok : ReferenceOk (canonicalize reference))
    (h : StorableAdmission (canonicalize reference)) :
    StorableReference (canonicalize reference) where
  endpoints := fun endpoint hendpoint =>
    ⟨hok.endpoints endpoint hendpoint, (h.endpoints endpoint hendpoint).1,
      (h.endpoints endpoint hendpoint).2⟩
  endpointsSorted := unique_strict _ (sortBy_sorted _ _)
  hints := fun hint hhint => ⟨hok.hints hint hhint, h.hints hint hhint⟩
  hintsSorted := unique_strict _ (sortBy_sorted _ _)
  publisher := h.publisher
  boot := h.boot
  accelerators := hok.accelerators

theorem quantitiesOk_normalizedDomain (h : DetailOk k payload) :
    QuantitiesOk k (normalizedDomain payload) := by
  cases k
  case capacity =>
    obtain ⟨hlength, hcheck⟩ := h
    obtain ⟨hvalid, hunits, -⟩ :=
      units_of_checkQuantities hcheck (sortBy_sorted _ _) (by rintro _ ⟨⟩)
    refine ⟨?_, hvalid, hunits.imp fun hlt => ?_⟩
    · exact (length_sortBy CapacityQuantity.key (CapacityDetail.quantities payload.detail)).trans_le
        hlength
    · exact Prod.Lex.toLex_lt_toLex.mpr (.inl hlt)
  all_goals trivial

theorem readableDetail_normalizedDomain (h : DetailOk k payload)
    (hparent : ParentNamed k payload.detail) :
    ReadableDetail k (normalizedDomain payload).detail := by
  cases k
  case capacity => exact (quantitiesOk_normalizedDomain h).count
  all_goals exact hparent

/-- A domain payload that passed validation is stored in a storable form. -/
theorem storableDomain_of_payload {s : ClusterState} (hok : DomainPayloadOk s payload)
    (hparent : ParentNamed k payload.detail) (hpublisher : Named payload.header.publisher) :
    StorableDomain payload.id
      { normalizedDomain payload with header := payload.header.stamp s } where
  id := hok.id_nonempty
  generation := hok.generation_known
  racks_le := by
    have hlength := (length_sortUnique_le payload.racks).trans hok.length_le
    simpa using hlength
  detail := readableDetail_normalizedDomain hok.detail hparent
  quantities := (quantitiesOk_normalizedDomain hok.detail).congr rfl
  publisher := hpublisher

end Payloads

namespace Coordinator

variable [StdSort] {s s' : ClusterState}

/-! ## Completed mutations -/

section Applied

variable {config : CoordinatorConfig} {now : Timestamp} {request : MutationRequest}

theorem storableRacks_of_applied (h : s.racks.All StorableRack)
    (hrequest : StorableRequest request) (happlied : Applied config now s request s') :
    s'.racks.All StorableRack := by
  cases happlied
  case registered hkind hrack _ _ _ _ _ =>
    have hregistration := hrequest.registration hkind
    refine h.insertOrAssign ⟨hrack, ⟨⟨?_, .nil, ?_, .nil⟩, hregistration.publisher,
      hregistration.boot, hregistration.accelerators⟩⟩
    · exact fun _ hmem => nomatch hmem
    · exact fun _ hmem => nomatch hmem
  case admitted incoming record m hkind hincoming hvalid _ _ _ _ hrecord _ =>
    subst hincoming hrecord
    have hok := referenceOk_of_isOk hvalid
    have hreference := storableReference_canonicalize hok (hrequest.admission hkind)
    refine h.insertOrAssign ⟨hok.rack, ?_⟩
    split_ifs <;> exact { hreference with }
  case updated record generation m hkind hfind _ _ _ _ _ =>
    have hupdate := hrequest.update hkind
    obtain ⟨hrack, hreference⟩ := h _ _ hfind
    refine h.insertOrAssign ⟨hrack,
      { hreference with publisher := ?_, boot := ?_, accelerators := ?_ }⟩
    · exact hupdate.publisher.or hreference.publisher
    · exact hupdate.boot.getD hreference.boot
    · simp only [updatedRecord]
      split_ifs
      · exact hreference.accelerators
      · exact hupdate.accelerators
  case moved target record m _ hfind _ _ _ _ =>
    obtain ⟨hrack, hreference⟩ := h _ _ hfind
    refine h.insertOrAssign ⟨hrack, ?_⟩
    unfold movedRecord
    split_ifs <;> exact { hreference with }
  case recovered rack boot record m hkind _ _ hfind hboot _ _ _ _ =>
    obtain ⟨hupdate, hlists⟩ := hrequest.recovery hkind
    obtain ⟨hrack, hreference⟩ := h _ _ hfind
    refine h.insertOrAssign ⟨hrack, ⟨⟨?_, ?_, ?_, ?_⟩, ?_, ?_, ?_⟩⟩
    all_goals simp only [recoveredRecord]
    · split_ifs
      · exact hreference.endpoints
      · exact hlists.endpoints
    · split_ifs
      · exact hreference.endpointsSorted
      · exact hlists.endpointsSorted
    · split_ifs
      · exact hreference.hints
      · exact hlists.hints
    · split_ifs
      · exact hreference.hintsSorted
      · exact hlists.hintsSorted
    · exact hupdate.publisher.or hreference.publisher
    · exact hupdate.boot boot hboot
    · split_ifs
      · exact hreference.accelerators
      · exact hupdate.accelerators
  case healthPublished record links c g _ hfind _ _ _ _ _
    | evidenceWithdrawn record links c g _ hfind _ _ =>
    obtain ⟨hrack, hreference⟩ := h _ _ hfind
    exact h.insertOrAssign ⟨hrack, { hreference with }⟩
  case clusterRetired =>
    exact h.updateWhere _ fun _ _ hrack => ⟨hrack.id, { hrack.reference with }⟩
  all_goals exact h

theorem storableDomains_of_applied (h : ∀ k, (s.domains k).All StorableDomain)
    (hrequest : StorableRequest request) (happlied : Applied config now s request s') :
    ∀ k, (s'.domains k).All StorableDomain := by
  cases happlied
  case domainPublished k payload domain aggregate t hkind hpayload hok hdomain _ _ _ _ =>
    obtain ⟨hparent, hpublisher⟩ := hrequest.domain k payload hkind hpayload
    intro k'
    by_cases hk : k' = k
    · subst hk hdomain
      dsimp only
      rw [Function.update_self]
      exact (h k').insertOrAssign (storableDomain_of_payload hok hparent hpublisher)
    · dsimp only
      rw [Function.update_of_ne hk]
      exact h k'
  all_goals exact h

theorem storableLinks_of_applied (h : s.links.All (StorableLink s.domains))
    (hepoch : s.topologyEpoch.known = true) (hrequest : StorableRequest request)
    (happlied : Applied config now s request s') : s'.links.All (StorableLink s'.domains) := by
  cases happlied
  case healthPublished hlinks _ | evidenceWithdrawn hlinks _ =>
    exact hlinks.storable h fun _ _ hlink => { hlink with }
  case domainPublished k payload domain aggregate t _ _ _ _ _ _ _ _ =>
    intro id link hfind
    refine (h id link hfind).extend fun k' id' hcontains => ?_
    by_cases hk : k' = k
    · subst hk
      dsimp only
      rw [Function.update_self, StdMap.contains, StdMap.find?_insertOrAssign]
      split_ifs
      · rfl
      · exact hcontains
    · dsimp only
      rw [Function.update_of_ne hk]
      exact hcontains
  case linkPublished payload t c hkind hpayload hok _ _ _ _ =>
    have hlink := hrequest.link hkind payload hpayload
    refine h.insertOrAssign
      { id := hlink.id
        generation := hok.generation_known
        topologyEpoch := ?_
        networkDomain := hok.networkDomain
        linkDomain := hok.linkDomain
        sourceEndpoint := hlink.sourceEndpoint
        destinationEndpoint := hlink.destinationEndpoint
        failureDomains_le := (length_sortUnique_le _).trans hok.length_le
        publisher := hlink.publisher
        boot := hlink.boot }
    exact hok.epoch_eq ▸ hepoch
  case linkWithdrawn id t c _ _ _ _ _ => exact h.erase id
  case superseded => exact h.updateWhere _ fun _ _ hlink => { hlink with }
  all_goals exact h

theorem storableConstraints_of_applied (h : s.constraints.All StorableConstraint)
    (hrequest : StorableRequest request) (happlied : Applied config now s request s') :
    s'.constraints.All StorableConstraint := by
  cases happlied
  case constrained payload g hkind hpayload hok _ _ _ =>
    obtain ⟨hid, hpublisher⟩ := hrequest.constraint hkind payload hpayload
    refine h.insertOrAssign ⟨hid, hok.kind_ne, hok.generation_known, ?_, ?_, hpublisher⟩
    · exact (length_sortUnique_le _).trans hok.length_le
    · exact sortUnique_strict _
  all_goals exact h

theorem fencedAuthorities_of_applied (happlied : Applied config now s request s') :
    s'.fencedAuthorities = s.fencedAuthorities := by cases happlied <;> rfl

/-- A retired identity was listed before, or is that of a rack just retired. -/
theorem mem_retired_of_applied (hok : Filed s) (happlied : Applied config now s request s')
    {retired : RetiredIdentity} (hmem : retired ∈ s'.retiredRacks) :
    retired ∈ s.retiredRacks ∨ StorableRetired s'.racks retired := by
  cases happlied
  case moved target record m _ hfind _ _ _ _ =>
    dsimp only at hmem
    split_ifs at hmem with htarget
    · unfold addRetired at hmem
      split_ifs at hmem with hlisted
      · exact .inl hmem
      · rw [mem_sortBy, List.mem_append, List.mem_singleton] at hmem
        rcases hmem with hmem | rfl
        · exact .inl hmem
        · refine .inr ⟨(hok.racks _ _ hfind).generation, ?_⟩
          dsimp only
          rw [StdMap.find?_insertOrAssign_self, Option.map_some, movedRecord, htarget]
          rfl
    · exact .inl hmem
  all_goals exact .inl hmem

theorem storableRetired_of_applied (hok : Filed s) (hdeclared : s.epoch.known = true)
    (h : ∀ retired ∈ s.retiredRacks, StorableRetired s.racks retired)
    (happlied : Applied config now s request s') :
    ∀ retired ∈ s'.retiredRacks, StorableRetired s'.racks retired := by
  intro retired hmem
  refine (mem_retired_of_applied hok happlied hmem).elim (fun hold => ?_) id
  have hforward := forward_of_applied hdeclared happlied
  obtain ⟨hgeneration, hmembership⟩ := h retired hold
  have hlisted : s.isRackRetired retired.rack = true :=
    ClusterState.isRackRetired_iff.mpr (List.mem_map_of_mem hold)
  rw [Option.map_eq_some_iff] at hmembership
  obtain ⟨record, hfind, hretired⟩ := hmembership
  obtain ⟨record', hfind', hsucceeds⟩ := hforward.racks _ _ hfind
  refine ⟨hgeneration, ?_⟩
  rw [hfind', Option.map_some, hsucceeds.retired hlisted hretired]

/-- Only a declaration writes the identity, the coordinator epoch or the contract. -/
theorem frame_of_applied (hdeclared : s.epoch.known = true)
    (happlied : Applied config now s request s') :
    s'.id = s.id ∧ s'.coordinatorEpoch = s.coordinatorEpoch ∧
      (s'.readinessContract = s.readinessContract ∨
        request.kind = .declareCluster ∧ s'.readinessContract = request.readinessContract) := by
  cases happlied
  case declared hepoch => simp [hdeclared] at hepoch
  case redeclared hkind _ _ => exact ⟨rfl, rfl, .inr ⟨hkind, rfl⟩⟩
  all_goals exact ⟨rfl, rfl, .inl rfl⟩

/-- A storable request leaves a storable state storable. -/
theorem storable_of_applied (hsound : Sound s) (h : Storable s) (hauthorized : Authorized s request)
    (hrequest : StorableRequest request) (happlied : Applied config now s request s') :
    Storable s' := by
  by_cases hdeclared : s.epoch.known = true
  · have hforward := forward_of_applied hdeclared happlied
    obtain ⟨hid, hcoordinator, hcontract⟩ := frame_of_applied hdeclared happlied
    exact
      { racks := storableRacks_of_applied h.racks hrequest happlied
        domains := storableDomains_of_applied h.domains hrequest happlied
        links := storableLinks_of_applied h.links (h.scalars hdeclared).topologyEpoch hrequest
          happlied
        constraints := storableConstraints_of_applied h.constraints hrequest happlied
        fenced := fencedAuthorities_of_applied happlied ▸ h.fenced
        coordinatorEpoch := hcoordinator ▸ h.coordinatorEpoch
        scalars := fun _ => (h.scalars hdeclared).forward hforward hid
        contract := fun _ => by
          rcases hcontract with hsame | ⟨hkind, hnew⟩
          · exact hsame ▸ h.contract hdeclared
          · exact hnew ▸ hrequest.contract hkind
        retired := storableRetired_of_applied hsound.filed hdeclared h.retired happlied }
  · obtain ⟨hkind, rfl⟩ := applied_undeclared hauthorized (by simpa using hdeclared) happlied
    have hid : request.cluster.isEmpty = false := by
      simp [StrongId.isEmpty_eq_not_isValid, hauthorized.cluster_valid]
    refine
      { h.toStorableRecords with
        coordinatorEpoch := ?_
        scalars := fun _ => ⟨hid, rfl, rfl, rfl, rfl, rfl, rfl, rfl, rfl, rfl⟩
        contract := fun _ => hrequest.contract hkind
        retired := h.retired }
    unfold declaredState
    dsimp only
    split_ifs with hknown
    · exact hknown
    · exact h.coordinatorEpoch

end Applied

/-! ## Commits, fences and recoveries -/

theorem storable_committed (h : Storable s) (hg : s.generation.next = some g) (now : Timestamp) :
    Storable (committed s g now) :=
  { h with
    scalars := fun hepoch => { h.scalars hepoch with generation := StrongCounter.known_of_next hg }
    contract := h.contract
    retired := h.retired }

omit [StdSort] in
theorem boot_of_published (h : StorableRecords s) (hpublished : publishedBy s boot = true) :
    boot.isEmpty = false := by
  simp only [publishedBy, Bool.or_eq_true, List.any_eq_true, beq_iff_eq] at hpublished
  rcases hpublished with ⟨record, hrecord, rfl⟩ | ⟨link, hlink, hboot⟩
  · obtain ⟨rack, -, hstorable⟩ := h.racks.of_mem_values hrecord
    exact hstorable.reference.boot
  · obtain ⟨id, -, hstorable⟩ := h.links.of_mem_values hlink
    exact hstorable.boot boot hboot

omit [StdSort] in
/-- The entry names a recorded rack or the placeholder. -/
theorem validFenced_fencedEntry (hracks : s.racks.All StorableRack) (hboot : boot.isEmpty = false)
    {reason : Text} (hreason : isUnbounded reason = false) (fencedAt : Timestamp) :
    ValidFenced (fencedEntry s boot reason fencedAt) where
  boot := hboot
  rack := by
    unfold fencedEntry
    dsimp only
    split
    · rename_i rack record hfind
      have hentry := StdMap.mem_entries_iff.mp (List.mem_of_find?_eq_some hfind)
      exact (hracks rack record hentry).id
    · rw [StrongId.isEmpty_eq_not_isValid, StrongId.isValid, unknownRack, unknownRack_valid]
      rfl
  reason := hreason

theorem storable_fencedState (h : Storable s) {reason : Text}
    (hpublished : publishedBy s boot = true)
    (hreason : s.isBootFenced boot = false → isUnbounded reason = false) (fencedAt : Timestamp) :
    Storable (fencedState s boot reason fencedAt) := by
  have hdemoted := demotedRecords_fencedRecords s boot reason
  have hracks : (fencedRecords s boot reason).racks.All StorableRack :=
    h.racks.updateWhere _ fun _ _ hrack => ⟨hrack.id, { hrack.reference with }⟩
  have hfenced : ∀ fenced ∈ (fencedState s boot reason fencedAt).fencedAuthorities,
      ValidFenced fenced := by
    unfold fencedState
    split_ifs with hlisted
    · exact h.fenced
    · intro fenced hmem
      simp only [addFenced, mem_sortBy, List.mem_append, List.mem_singleton] at hmem
      rcases hmem with hmem | rfl
      · exact h.fenced fenced hmem
      · exact validFenced_fencedEntry hracks (boot_of_published h.toStorableRecords hpublished)
          (hreason (by simpa using hlisted)) fencedAt
  rw [fencedState_eq] at hfenced ⊢
  exact
    { racks := hracks
      domains := h.domains
      links := h.links.updateWhere _ fun _ _ hlink => { hlink with }
      constraints := h.constraints
      fenced := hfenced
      coordinatorEpoch := h.coordinatorEpoch
      scalars := fun hepoch => { h.scalars hepoch with }
      contract := h.contract
      retired := fun retired hmem =>
        ⟨(h.retired retired hmem).1, (hdemoted.membership _).trans (h.retired retired hmem).2⟩ }

theorem storable_committedFence (h : Storable s) (hg : s.generation.next = some g)
    {health : HealthGeneration} (hhealth : s.healthGeneration.next = some health)
    (now : Timestamp) : Storable (committedFence s g health now) :=
  { h with
    scalars := fun hepoch => { h.scalars hepoch with
      generation := StrongCounter.known_of_next hg
      healthGeneration := StrongCounter.known_of_next hhealth }
    contract := h.contract
    retired := h.retired }

omit [StdSort] in
/-- Recovery lists the last incarnations of racks besides what was listed. -/
theorem mem_fenceLastBoot {now : Timestamp} {racks : List DurableRack}
    {fenced : List FencedAuthority} {entry : FencedAuthority}
    (h : entry ∈ racks.foldl (fenceLastBoot now) fenced) :
    entry ∈ fenced ∨ ∃ rack ∈ racks,
      entry = ⟨rack.lastBoot, rack.rack, text "coordinator_restart", now⟩ := by
  induction racks generalizing fenced with
  | nil => exact .inl h
  | cons rack racks ih =>
    rcases ih h with hmem | ⟨rack', hrack', rfl⟩
    · unfold fenceLastBoot at hmem
      split_ifs at hmem
      · exact .inl hmem
      · rw [List.mem_append, List.mem_singleton] at hmem
        rcases hmem with hmem | rfl
        · exact .inl hmem
        · exact .inr ⟨rack, List.mem_cons_self .., rfl⟩
    · exact .inr ⟨rack', List.mem_cons_of_mem _ hrack', rfl⟩

omit [StdSort] in
theorem isEmpty_unknownPublisher : unknownPublisher.isEmpty = false := by
  rw [StrongId.isEmpty_eq_not_isValid, StrongId.isValid, unknownPublisher, unknownPublisher_valid]
  rfl

omit [StdSort] in
theorem mem_racks_toPersistedState {durable : DurableRack} :
    durable ∈ (toPersistedState s).racks ↔
      ∃ rack record, s.racks.find? rack = some record ∧ durable = durableRack rack record := by
  change durable ∈ s.racks.entries.map _ ↔ _
  rw [List.mem_map]
  constructor
  · rintro ⟨⟨rack, record⟩, hentry, rfl⟩
    exact ⟨rack, record, StdMap.mem_entries_iff.mp hentry, rfl⟩
  · rintro ⟨rack, record, hfind, rfl⟩
    exact ⟨(rack, record), StdMap.mem_entries_iff.mpr hfind, rfl⟩

theorem storable_recovered (hsound : Sound s) (h : Storable s) {epoch : CoordinatorEpoch}
    (hepoch : epoch.known = true) (now : Timestamp) :
    Storable (fromPersistedState (toPersistedState s) epoch now) := by
  have hracks := racks_recoveredState s epoch now
  have hdemoted := demotedRecords_recoveredState epoch now hsound.links hsound.toKeyed
  have hlinks : (recoveredState (toPersistedState s) epoch now).links.All
      (StorableLink (recoveredState (toPersistedState s) epoch now).domains) := by
    rw [links_recoveredState epoch now hsound.links]
    refine h.links.mapValues fun id link hlink => ?_
    have hkept : StorableLink s.domains id (recoveredLink link) := { hlink with }
    refine hkept.extend fun k id' hcontains => ?_
    rw [(hdemoted.domains k).contains_eq]
    exact hcontains
  refine
    { racks := ?_
      domains := fun k => ?_
      links := hlinks
      constraints := ?_
      fenced := fun fenced hmem => ?_
      coordinatorEpoch := hepoch
      scalars := fun hdeclared => { h.scalars hdeclared with }
      contract := h.contract
      retired := fun retired hmem => ?_ }
  · change (recoveredState (toPersistedState s) epoch now).racks.All _
    rw [hracks]
    refine h.racks.mapValues fun rack record hrack => ⟨hrack.id, { hrack.reference with
      publisher := ?_ }⟩
    rintro _ ⟨⟩
    exact hrack.reference.publisher.getD isEmpty_unknownPublisher
  · change ((recoveredState (toPersistedState s) epoch now).domains k).All _
    rw [domains_recoveredState epoch now (hsound.domains k)]
    refine (h.domains k).mapValues fun id domain hdomain => ?_
    exact { hdomain with quantities := hdomain.quantities.congr rfl }
  · change (recoveredState (toPersistedState s) epoch now).constraints.All _
    rw [constraints_recoveredState epoch now hsound.constraints]
    exact h.constraints.mapValues fun _ _ hconstraint => { hconstraint with }
  · change fenced ∈ sortBy _ (fencedAfterRecovery _ now) at hmem
    rw [mem_sortBy] at hmem
    rcases mem_fenceLastBoot hmem with hmem | ⟨durable, hdurable, rfl⟩
    · exact h.fenced fenced hmem
    · obtain ⟨rack, record, hfind, rfl⟩ := mem_racks_toPersistedState.mp hdurable
      have hrack := h.racks rack record hfind
      have hreason : isUnbounded (text "coordinator_restart") = false := by decide +kernel
      exact ⟨hrack.reference.boot, hrack.id, hreason⟩
  · refine ⟨(h.retired retired hmem).1, ?_⟩
    exact (hdemoted.membership _).trans (h.retired retired hmem).2

end Coordinator

end ClusterFabric
