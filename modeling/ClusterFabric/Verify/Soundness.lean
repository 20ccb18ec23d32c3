import ClusterFabric.Verify.Health
import ClusterFabric.Verify.Recovered
import ClusterFabric.Verify.Runs

/-! # Every reachable state is sound

The checker runs on requests only. A fence and a recovery are not checked: they demote
records, which takes authority and claims away and adds none, and a demotion of a
healthy state is healthy (`isOk_checkInvariants_run`).
-/

namespace ClusterFabric

open Lib

variable {g : ClusterGeneration} {k : DomainKind} {record : RackRecord} {boot : RackAgentBootId}
  {link : InterRackLink} {rack : RackId} {domain' : Domain k} {domain : Domain k}

/-! ## Demotion -/

/-- A rack record that lost its authority, or kept everything. -/
structure DemotedRack (rack : RackId) (record record' : RackRecord) : Prop where
  rack_eq : record.reference.rack = rack → record'.reference.rack = rack
  generation : record'.reference.generation = record.reference.generation
  endpoints : record'.reference.endpoints = record.reference.endpoints
  hints : record'.reference.failureDomainHints = record.reference.failureDomainHints
  membership : record'.membership = record.membership
  membershipGeneration : record'.membershipGeneration = record.membershipGeneration
  authority : record' = record ∨
    record'.authoritativeCurrent = false ∧ record'.reference.currentness = .revalidationRequired

/-- A link that lost its claims, or kept everything. -/
structure DemotedLink (link link' : InterRackLink) : Prop where
  id : link'.id = link.id
  source : link'.source = link.source
  destination : link'.destination = link.destination
  direction : link'.direction = link.direction
  topologyEpoch : link'.topologyEpoch = link.topologyEpoch
  topologyGeneration : link'.topologyGeneration = link.topologyGeneration
  failureDomains : link'.failureDomains = link.failureDomains
  claims : link' = link ∨ link'.header.evidence.requiresRevalidation = true ∧
    link'.reachability = .unknown ∧ link'.health = .unknown

/-- A domain whose evidence alone may differ. -/
structure SameDomain {k : DomainKind} (domain domain' : Domain k) : Prop where
  id : domain'.id = domain.id
  detail : domain'.detail = domain.detail
  racks : domain'.racks = domain.racks
  generation : domain'.header.generation = domain.header.generation

theorem DemotedRack.refl (rack : RackId) (record : RackRecord) : DemotedRack rack record record :=
  ⟨id, rfl, rfl, rfl, rfl, rfl, .inl rfl⟩

theorem DemotedLink.refl (link : InterRackLink) : DemotedLink link link :=
  ⟨rfl, rfl, rfl, rfl, rfl, rfl, rfl, .inl rfl⟩

theorem SameDomain.refl (domain : Domain k) : SameDomain domain domain :=
  ⟨rfl, rfl, rfl, rfl⟩

theorem SameDomain.classRaw (h : SameDomain domain domain') :
    Domain.classRaw k domain' = Domain.classRaw k domain := by
  have hdetail := h.detail
  cases k <;> simp only [Domain.classRaw, hdetail]

/-- The records of a state with authority and claims taken away. -/
structure DemotedRecords (s s' : ClusterState) : Prop where
  racks : s.racks.Rewrites DemotedRack s'.racks
  links : s.links.Rewrites (fun _ => DemotedLink) s'.links
  domains : ∀ k, (s.domains k).Rewrites (fun _ => SameDomain) (s'.domains k)
  constraints : s.constraints.Rewrites
    (fun _ constraint constraint' => constraint'.id = constraint.id ∧
      constraint'.racks = constraint.racks) s'.constraints

/-- The scalars and the lists of racks that no demotion touches. -/
structure SameScalars (s s' : ClusterState) : Prop where
  id : s'.id = s.id
  epoch : s'.epoch = s.epoch
  membershipGeneration : s'.membershipGeneration = s.membershipGeneration
  topologyEpoch : s'.topologyEpoch = s.topologyEpoch
  topologyGeneration : s'.topologyGeneration = s.topologyGeneration
  topologyRecord : s'.topologyRecord = s.topologyRecord
  domainGenerations : s'.domainGenerations = s.domainGenerations
  snapshotGeneration : s'.snapshotGeneration = s.snapshotGeneration
  publicationGeneration : s'.publicationGeneration = s.publicationGeneration
  retiredRacks : s'.retiredRacks = s.retiredRacks
  withdrawnRacks : s'.withdrawnRacks = s.withdrawnRacks

/-- A state with authority and claims taken away. -/
structure Demotes [StdSort] (s s' : ClusterState) : Prop
    extends DemotedRecords s s', SameScalars s s' where
  coordinatorEpoch : s.coordinatorEpoch.known = true → s'.coordinatorEpoch.known = true
  generation_le : s.generation ≤ s'.generation
  fencedSorted : (s.fencedAuthorities.Pairwise fun a b => a.boot < b.boot) →
    s'.fencedAuthorities.Pairwise fun a b => a.boot < b.boot
  /-- No authoritative record is among the newly fenced. -/
  fenced : ∀ rack record, s'.racks.find? rack = some record → record.authoritativeCurrent = true →
    s'.isBootFenced record.reference.boot = true → s.isBootFenced record.reference.boot = true
  ready : s'.lifecycle = .ready → (evaluateReadiness s').satisfied = true
  retired : s'.lifecycle = .retired → s.lifecycle = .retired

section Demotion

variable {s s' : ClusterState}

theorem DemotedRecords.refl (s : ClusterState) : DemotedRecords s s where
  racks := .refl DemotedRack.refl
  links := .refl fun _ => DemotedLink.refl
  domains := fun _ => .refl fun _ => SameDomain.refl
  constraints := .refl fun _ _ => ⟨rfl, rfl⟩

theorem DemotedRecords.membership (h : DemotedRecords s s') (rack : RackId) :
    (s'.racks.find? rack).map RackRecord.membership =
      (s.racks.find? rack).map RackRecord.membership :=
  h.racks.map_find? (fun hdemoted => hdemoted.membership) rack

theorem isRackMember_eq (s : ClusterState) (rack : RackId) :
    s.isRackMember rack =
      ((s.racks.find? rack).map RackRecord.membership).any fun m => m != .unknown := by
  unfold ClusterState.isRackMember
  cases s.racks.find? rack <;> rfl

theorem DemotedRecords.isRackMember (h : DemotedRecords s s') (rack : RackId) :
    s'.isRackMember rack = s.isRackMember rack := by
  rw [isRackMember_eq, isRackMember_eq, h.membership]

theorem DemotedRecords.contains_failureDomains (h : DemotedRecords s s') (id : FailureDomainId) :
    s'.failureDomains.contains id = s.failureDomains.contains id :=
  (h.domains .failure).contains_eq id

theorem DemotedRecords.counts (h : DemotedRecords s s') (hcounts : CountsOk s) : CountsOk s' := by
  refine ⟨?_, ?_, ?_, fun k => ?_⟩
  · rw [h.racks.size_eq]
    exact hcounts.racks
  · rw [h.links.size_eq]
    exact hcounts.links
  · rw [h.constraints.size_eq]
    exact hcounts.constraints
  · rw [(h.domains k).size_eq]
    exact hcounts.domains k

variable [StdSort]

theorem Demotes.scalars (h : Demotes s s') (hscalars : ScalarsOk s) : ScalarsOk s' := by
  have hle : s.generation.value ≤ s'.generation.value := h.generation_le
  refine ⟨?_, ?_, h.coordinatorEpoch hscalars.coordinatorEpoch, ?_, ?_, ?_, ?_, ?_, ?_, ?_, ?_⟩
  · rw [h.id]
    exact hscalars.id_nonempty
  · rw [h.epoch]
    exact hscalars.epoch
  · have hpos := StrongCounter.known_iff.mp hscalars.generation
    exact StrongCounter.known_iff.mpr (by omega)
  · rw [h.membershipGeneration]
    exact hscalars.membershipGeneration
  · rw [h.topologyEpoch]
    exact hscalars.topologyEpoch
  · rw [h.topologyGeneration]
    exact hscalars.topologyGeneration
  · rw [h.topologyRecord, h.topologyEpoch]
    exact hscalars.recordEpoch
  · rw [h.topologyRecord, h.topologyGeneration]
    exact hscalars.recordGeneration
  · rw [h.membershipGeneration]
    exact hscalars.membership_le.trans hle
  · rw [h.topologyGeneration]
    exact hscalars.topology_le.trans hle

theorem Demotes.isRackRetired (h : Demotes s s') (rack : RackId) :
    s'.isRackRetired rack = s.isRackRetired rack := by
  rw [ClusterState.isRackRetired, h.retiredRacks]
  rfl

theorem Demotes.rackOk (h : Demotes s s') {record' : RackRecord}
    (hfind : s'.racks.find? rack = some record') (hdemoted : DemotedRack rack record record')
    (hok : RackOk s rack record) : RackOk s' rack record' := by
  refine ⟨hdemoted.rack_eq hok.rack_eq, ?_, ?_, ?_, fun hunknown => ?_, ?_, fun hcurrent => ?_⟩
  · rw [hdemoted.generation]
    exact hok.generation
  · rw [hdemoted.endpoints]
    exact hok.endpoints_le
  · rw [hdemoted.hints]
    exact hok.hints_le
  · rw [hdemoted.membership] at hunknown
    obtain ⟨hauthority, hcurrentness⟩ := hok.undecided hunknown
    rcases hdemoted.authority with rfl | ⟨hnot, hmust⟩
    · exact ⟨hauthority, hcurrentness⟩
    · exact ⟨hnot, .inr hmust⟩
  · rw [hdemoted.membershipGeneration, h.membershipGeneration]
    exact hok.membership_le
  · rcases hdemoted.authority with rfl | ⟨hnot, -⟩
    · have hauthority := hok.authority hcurrent
      refine ⟨?_, ?_, hauthority.provenance_known, hauthority.notReconstructed⟩
      · by_contra hfenced
        have hold := h.fenced rack _ hfind hcurrent (by simpa using hfenced)
        simp [hauthority.notFenced] at hold
      · rw [h.isRackRetired]
        exact hauthority.notRetired
    · simp [hnot] at hcurrent

theorem Demotes.linkOk (h : Demotes s s') {id : InterRackLinkId} {link' : InterRackLink}
    (hdemoted : DemotedLink link link') (hok : LinkOk s id link) : LinkOk s' id link' := by
  refine ⟨hdemoted.id.trans hok.id_eq, ?_, ?_, ?_, ?_, fun hepoch => ?_, ?_,
    fun domain hdomain => ?_⟩
  · rw [hdemoted.source, h.isRackMember]
    exact hok.source_member
  · rw [hdemoted.destination, h.isRackMember]
    exact hok.destination_member
  · rw [hdemoted.source, hdemoted.destination]
    exact hok.no_loop
  · rw [hdemoted.direction]
    exact hok.direction_ne
  · rcases hdemoted.claims with rfl | ⟨hevidence, hreachability, hhealth⟩
    · exact hok.superseded (h.topologyEpoch ▸ hepoch)
    · simp [hevidence, hreachability, hhealth]
  · rw [hdemoted.topologyGeneration, h.topologyGeneration]
    exact hok.generation_le
  · rw [h.contains_failureDomains]
    exact hok.failureDomains domain (hdemoted.failureDomains ▸ hdomain)

theorem Demotes.domainOk (h : Demotes s s') (hsame : SameDomain domain domain')
    (hok : DomainOk s domain) : DomainOk s' domain' := by
  refine ⟨?_, fun rack hrack => ?_, ?_⟩
  · rw [hsame.classRaw]
    exact hok.class_ne
  · rw [h.isRackMember]
    exact hok.members rack (hsame.racks ▸ hrack)
  · rw [hsame.racks]
    exact hok.sorted

theorem Demotes.withdrawnOk (h : Demotes s s') (hok : WithdrawnOk s) : WithdrawnOk s' := by
  refine ⟨?_, fun rack hrack => ?_, fun rack record' hfind hmembership => ?_⟩
  · rw [h.withdrawnRacks]
    exact hok.sorted
  · rw [h.membership]
    exact hok.listed rack (h.withdrawnRacks ▸ hrack)
  · obtain ⟨record, hfind, hdemoted⟩ := h.racks.find? hfind
    rw [h.withdrawnRacks]
    exact hok.complete rack record hfind (hdemoted.membership ▸ hmembership)

/-- **A demotion of a healthy state is healthy.** -/
theorem Healthy.demotes (hhealthy : Healthy s) (h : Demotes s s') : Healthy s' where
  scalars := h.scalars hhealthy.scalars
  counts := h.counts hhealthy.counts
  racks := fun rack record' hfind => by
    obtain ⟨record, hfind', hdemoted⟩ := h.racks.find? hfind
    exact h.rackOk hfind hdemoted (hhealthy.racks rack record hfind')
  links := fun id link' hfind => by
    obtain ⟨link, hfind', hdemoted⟩ := h.links.find? hfind
    exact h.linkOk hdemoted (hhealthy.links id link hfind')
  domains := fun k id domain' hfind => by
    obtain ⟨domain, hfind', hsame⟩ := (h.domains k).find? hfind
    exact h.domainOk hsame (hhealthy.domains k id domain hfind')
  aggregates := fun k id domain' hfind => by
    obtain ⟨domain, hfind', hsame⟩ := (h.domains k).find? hfind
    rw [hsame.generation, h.domainGenerations]
    exact hhealthy.aggregates k id domain hfind'
  constraints := fun id constraint' hfind rack hrack => by
    obtain ⟨constraint, hfind', -, hracks⟩ := h.constraints.find? hfind
    rw [h.isRackMember]
    exact hhealthy.constraints id constraint hfind' rack (hracks ▸ hrack)
  withdrawn := h.withdrawnOk hhealthy.withdrawn
  fencedSorted := h.fencedSorted hhealthy.fencedSorted
  retiredSorted := h.retiredRacks ▸ hhealthy.retiredSorted
  ready := h.ready
  retired := fun hretired rack record' hfind => by
    obtain ⟨record, hfind', hdemoted⟩ := h.racks.find? hfind
    rcases hdemoted.authority with rfl | ⟨hnot, -⟩
    · exact hhealthy.retired (h.retired hretired) rack _ hfind'
    · exact hnot
  snapshot_le := by
    rw [h.snapshotGeneration, h.publicationGeneration]
    exact hhealthy.snapshot_le

end Demotion

/-! ## Evaluated lifecycles -/

theorem blockers_nil_of_ready {s : ClusterState} (h : s.evaluatedLifecycle = .ready) :
    s.readinessBlockers.isEmpty = true := by
  unfold ClusterState.evaluatedLifecycle at h
  split_ifs at h with hrequired hempty
  exact hempty

theorem evaluatedLifecycle_ne_retired (s : ClusterState) : s.evaluatedLifecycle ≠ .retired := by
  unfold ClusterState.evaluatedLifecycle
  split_ifs <;> decide

namespace Coordinator

variable [StdSort] {s : ClusterState} {s' : ClusterState}

/-- An evaluated lifecycle is ready only if the contract is satisfied. -/
theorem satisfied_of_ready (h : (reevaluate s).lifecycle = .ready) :
    (evaluateReadiness (reevaluate s)).satisfied = true := by
  have hevaluated : (evaluateReadiness s).lifecycle = .ready := h
  have hblockers : s.readinessBlockers.isEmpty = true := by
    unfold evaluateReadiness at hevaluated
    split_ifs at hevaluated
    exact blockers_nil_of_ready hevaluated
  unfold evaluateReadiness
  rw [h]
  exact hblockers

theorem retired_reevaluate : (reevaluate s).lifecycle = .retired ↔ s.lifecycle = .retired := by
  change (evaluateReadiness s).lifecycle = .retired ↔ _
  unfold evaluateReadiness
  split_ifs with hretired hretiring
  · exact iff_of_true rfl hretired
  · exact iff_of_false (by simp) hretired
  · exact iff_of_false (evaluatedLifecycle_ne_retired s) hretired

/-! ## Fences and recoveries demote -/

omit [StdSort] in
theorem demotedRack_fencedRack (reason : Text) (rack : RackId) (record : RackRecord) :
    DemotedRack rack record (fencedRack reason record) :=
  ⟨id, rfl, rfl, rfl, rfl, rfl, .inr ⟨rfl, rfl⟩⟩

omit [StdSort] in
theorem demotedLink_fencedLink (link : InterRackLink) : DemotedLink link (fencedLink link) :=
  ⟨rfl, rfl, rfl, rfl, rfl, rfl, rfl,
    .inr ⟨EvidenceStamp.requiresRevalidation_markRevalidationRequired _, rfl, rfl⟩⟩

theorem isBootFenced_fencedState (s : ClusterState) (boot : RackAgentBootId) (reason : Text)
    (fencedAt : Timestamp) {boot' : RackAgentBootId} :
    (fencedState s boot reason fencedAt).isBootFenced boot' = true ↔
      s.isBootFenced boot' = true ∨ boot' = boot := by
  unfold fencedState
  split_ifs with hfenced
  · refine ⟨.inl, ?_⟩
    rintro (h | rfl)
    · exact h
    · exact hfenced
  · simp only [ClusterState.isBootFenced_iff, addFenced, List.mem_map, mem_sortBy, List.mem_append,
      List.mem_singleton]
    constructor
    · rintro ⟨fenced, hmem | rfl, rfl⟩
      · exact .inl ⟨fenced, hmem, rfl⟩
      · exact .inr rfl
    · rintro (⟨fenced, hmem, rfl⟩ | rfl)
      · exact ⟨fenced, .inl hmem, rfl⟩
      · exact ⟨_, .inr rfl, rfl⟩

theorem fencedSorted_fencedState (boot : RackAgentBootId) (reason : Text) (fencedAt : Timestamp)
    (h : s.fencedAuthorities.Pairwise fun a b => a.boot < b.boot) :
    (fencedState s boot reason fencedAt).fencedAuthorities.Pairwise fun a b => a.boot < b.boot := by
  unfold fencedState
  split_ifs with hfenced
  · exact h
  · refine sortBy_strict (List.pairwise_append.mpr ⟨h.imp fun hlt => hlt.ne, by simp, ?_⟩)
    intro fenced hmem entry hentry heq
    obtain rfl := List.mem_singleton.mp hentry
    exact hfenced (ClusterState.isBootFenced_iff.mpr (List.mem_map.mpr ⟨fenced, hmem, heq⟩))

theorem fencedState_eq (s : ClusterState) (boot : RackAgentBootId) (reason : Text)
    (fencedAt : Timestamp) :
    fencedState s boot reason fencedAt =
      { fencedRecords s boot reason with
        fencedAuthorities := (fencedState s boot reason fencedAt).fencedAuthorities } := by
  unfold fencedState
  split_ifs <;> rfl

omit [StdSort] in
theorem demotedRecords_fencedRecords (s : ClusterState) (boot : RackAgentBootId) (reason : Text) :
    DemotedRecords s (fencedRecords s boot reason) where
  racks := .updateWhere (fun record => record.reference.boot == boot) DemotedRack.refl
    (demotedRack_fencedRack reason)
  links := .updateWhere (fun link => link.boot == some boot) (fun _ => DemotedLink.refl)
    fun _ => demotedLink_fencedLink
  domains := fun _ => .refl fun _ => SameDomain.refl
  constraints := .refl fun _ _ => ⟨rfl, rfl⟩

omit [StdSort] in
/-- The records of a fenced incarnation are not authoritative. -/
theorem boot_ne_of_current {reason : Text}
    (hfind : (fencedRecords s boot reason).racks.find? rack = some record)
    (hcurrent : record.authoritativeCurrent = true) : record.reference.boot ≠ boot := by
  change (s.racks.updateWhere _ _).find? rack = some record at hfind
  rw [StdMap.find?_updateWhere, Option.map_eq_some_iff] at hfind
  obtain ⟨record₀, -, hrecord⟩ := hfind
  rintro rfl
  split_ifs at hrecord with hboot
  · subst hrecord
    exact absurd hcurrent Bool.false_ne_true
  · subst hrecord
    simp at hboot

theorem demotes_fence (s : ClusterState) (boot : RackAgentBootId) (reason : Text)
    (fencedAt now : Timestamp) (hg : s.generation.next = some g) (h : HealthGeneration) :
    Demotes s (committedFence (fencedState s boot reason fencedAt) g h now) := by
  have hle : s.generation ≤ g := by
    rw [StrongCounter.next_eq_some] at hg
    rw [StrongCounter.le_iff]
    omega
  have hstate := fencedState_eq s boot reason fencedAt
  have hsorted := fencedSorted_fencedState (s := s) boot reason fencedAt
  rw [hstate] at hsorted ⊢
  refine
    { demotedRecords_fencedRecords s boot reason with
      toSameScalars := ⟨rfl, rfl, rfl, rfl, rfl, rfl, rfl, rfl, rfl, rfl, rfl⟩
      coordinatorEpoch := fun h => h
      generation_le := hle
      fencedSorted := hsorted
      fenced := fun rack record hfind hcurrent hfenced => ?_
      ready := satisfied_of_ready
      retired := retired_reevaluate.mp }
  have hne := boot_ne_of_current hfind hcurrent
  have hlisted : (fencedState s boot reason fencedAt).isBootFenced record.reference.boot = true :=
    by rw [hstate]; exact hfenced
  exact ((isBootFenced_fencedState s boot reason fencedAt).mp hlisted).resolve_right hne

/-- Maps whose records carry their key. -/
structure Keyed (s : ClusterState) : Prop where
  domains : ∀ k id domain, (s.domains k).find? id = some domain → domain.id = id
  constraints : ∀ id constraint, s.constraints.find? id = some constraint → constraint.id = id

omit [StdSort] in
theorem Keyed.demoted (h : Keyed s) (hdemoted : DemotedRecords s s') : Keyed s' where
  domains := fun k id domain' hfind => by
    obtain ⟨domain, hfind, hsame⟩ := (hdemoted.domains k).find? hfind
    exact hsame.id.trans (h.domains k id domain hfind)
  constraints := fun id constraint' hfind => by
    obtain ⟨constraint, hfind, hid, -⟩ := hdemoted.constraints.find? hfind
    exact hid.trans (h.constraints id constraint hfind)

theorem demotedRecords_recoveredState (epoch : CoordinatorEpoch) (now : Timestamp)
    (hlinks : ∀ id link, s.links.find? id = some link → link.id = id) (h : Keyed s) :
    DemotedRecords s (recoveredState (toPersistedState s) epoch now) where
  racks := ⟨_, racks_recoveredState s epoch now, fun _ _ =>
    ⟨fun _ => rfl, rfl, rfl, rfl, rfl, rfl, .inr ⟨rfl, rfl⟩⟩⟩
  links := ⟨_, links_recoveredState epoch now hlinks, fun _ => demotedLink_fencedLink⟩
  domains := fun k => ⟨_, domains_recoveredState epoch now (h.domains k), fun _ domain => by
    unfold recoveredDomain
    exact ⟨rfl, rfl, rfl, rfl⟩⟩
  constraints := ⟨_, constraints_recoveredState epoch now h.constraints, fun _ _ => ⟨rfl, rfl⟩⟩

theorem demotes_recovered {epoch : CoordinatorEpoch} (hepoch : epoch.known = true)
    (now : Timestamp) (hlinks : ∀ id link, s.links.find? id = some link → link.id = id)
    (h : Keyed s) : Demotes s (fromPersistedState (toPersistedState s) epoch now) :=
  { demotedRecords_recoveredState epoch now hlinks h with
    toSameScalars := ⟨rfl, rfl, rfl, rfl, rfl, rfl, rfl, rfl, rfl, rfl, rfl⟩
    coordinatorEpoch := fun _ => hepoch
    generation_le := le_refl _
    fencedSorted := fun hsorted =>
      fencedSorted_recoveredState _ epoch now (hsorted.imp fun hlt => hlt.ne)
    fenced := fun rack record hfind hcurrent _ => by
      obtain ⟨_, -, -, rfl⟩ := find?_racks_recoveredState _ epoch now hfind
      exact absurd hcurrent Bool.false_ne_true
    ready := satisfied_of_ready (s := recoveredState (toPersistedState s) epoch now)
    retired := fun hretired => nomatch retired_reevaluate.mp hretired }

/-! ## Soundness -/

/-- What every reachable state is: nothing is recorded in it or it is healthy,
and its maps are keyed by identity. -/
structure Sound (s : ClusterState) : Prop extends Keyed s where
  healthy : s.isVacant = true ∨ Healthy s

omit [StdSort] in
theorem isVacant_iff :
    s.isVacant = true ↔ s.racks.isEmpty = true ∧ s.links.isEmpty = true ∧
      (∀ k, (s.domains k).isEmpty = true) ∧ s.constraints.isEmpty = true ∧ s.retiredRacks = [] ∧
      s.withdrawnRacks = [] ∧ s.fencedAuthorities = [] := by
  have hall : (∀ k ∈ DomainKind.all, (s.domains k).isEmpty = true) ↔
      ∀ k, (s.domains k).isEmpty = true :=
    ⟨fun h k => h k (DomainKind.mem_all k), fun h k _ => h k⟩
  simp only [ClusterState.isVacant, Bool.and_eq_true, List.all_eq_true, List.isEmpty_iff, hall,
    and_assoc]

/-- A state with a recorded rack is not vacant. -/
theorem healthy_of_find? (h : s.isVacant = true ∨ Healthy s)
    (hfind : s.racks.find? rack = some record) : Healthy s := by
  refine h.resolve_left fun hvacant => ?_
  exact nomatch (StdMap.isEmpty_iff.mp (isVacant_iff.mp hvacant).1 rack).symm.trans hfind

/-- In a vacant state there is nothing to check. -/
theorem Sound.filed (h : Sound s) : Filed s := by
  rcases h.healthy with hvacant | hhealthy
  · obtain ⟨hracks, hlinks, hdomains, hconstraints, hretired, hwithdrawn, hfenced⟩ :=
      isVacant_iff.mp hvacant
    have hsize {K V : Type} [LinearOrder K] {m : StdMap K V} (hm : m.isEmpty = true) (n : Nat) :
        m.size ≤ n := by
      rw [StdMap.size, List.isEmpty_iff.mp hm]
      exact Nat.zero_le n
    exact
      { counts := ⟨hsize hracks _, hsize hlinks _, hsize hconstraints _,
          fun k => hsize (hdomains k) _⟩
        racks := fun _ _ hfind => absurd hfind (StdMap.find?_ne_some hracks _ _)
        links := fun _ _ hfind => absurd hfind (StdMap.find?_ne_some hlinks _ _)
        domains := fun k _ _ hfind => absurd hfind (StdMap.find?_ne_some (hdomains k) _ _)
        aggregates := fun k _ _ hfind => absurd hfind (StdMap.find?_ne_some (hdomains k) _ _)
        constraints := fun _ _ hfind => absurd hfind (StdMap.find?_ne_some hconstraints _ _)
        withdrawn := by
          refine ⟨hwithdrawn ▸ .nil, fun rack hrack => ?_, fun rack _ hfind => ?_⟩
          · simp [hwithdrawn] at hrack
          · exact absurd hfind (StdMap.find?_ne_some hracks _ _)
        fencedSorted := hfenced ▸ .nil
        retiredSorted := hretired ▸ .nil }
  · exact hhealthy.toFiled

theorem Sound.linkOk (h : Sound s) {id : InterRackLinkId} (hfind : s.links.find? id = some link) :
    LinkOk s id link := h.filed.links id link hfind

theorem Sound.links (h : Sound s) (id : InterRackLinkId) (link : InterRackLink)
    (hfind : s.links.find? id = some link) : link.id = id := (h.linkOk hfind).id_eq

/-- Whoever published something is not in a vacant state. -/
theorem Sound.healthy_of_published (h : Sound s) (hpublished : publishedBy s boot = true) :
    Healthy s := by
  refine h.healthy.resolve_left fun hvacant => ?_
  obtain ⟨hracks, hlinks, -⟩ := isVacant_iff.mp hvacant
  have hr : s.racks.values = [] := by
    rw [StdMap.values, List.isEmpty_iff.mp hracks]
    rfl
  have hl : s.links.values = [] := by
    rw [StdMap.values, List.isEmpty_iff.mp hlinks]
    rfl
  rw [publishedBy, hr, hl] at hpublished
  exact absurd hpublished Bool.false_ne_true

theorem isVacant_recovered (h : s.isVacant = true) (hkeyed : Keyed s) (epoch : CoordinatorEpoch)
    (now : Timestamp) : (fromPersistedState (toPersistedState s) epoch now).isVacant = true := by
  obtain ⟨hracks, hlinks, hdomains, hconstraints, hretired, hwithdrawn, hfenced⟩ :=
    isVacant_iff.mp h
  have hnolink : ∀ id link, s.links.find? id = some link → link.id = id := fun id link hfind =>
    nomatch (StdMap.isEmpty_iff.mp hlinks id).symm.trans hfind
  have hrecords := demotedRecords_recoveredState epoch now hnolink hkeyed
  change (recoveredState (toPersistedState s) epoch now).isVacant = true
  refine isVacant_iff.mpr ⟨?_, ?_, fun k => ?_, ?_, hretired, hwithdrawn, ?_⟩
  · rw [hrecords.racks.isEmpty_eq, hracks]
  · rw [hrecords.links.isEmpty_eq, hlinks]
  · rw [(hrecords.domains k).isEmpty_eq, hdomains]
  · rw [hrecords.constraints.isEmpty_eq, hconstraints]
  · have hnoracks : (toPersistedState s).racks = [] := by
      change s.racks.entries.map _ = []
      rw [List.isEmpty_iff.mp hracks]
      rfl
    have hnofenced : (toPersistedState s).fencedAuthorities = [] := hfenced
    change sortBy _ (fencedAfterRecovery _ now) = []
    rw [fencedAfterRecovery, hnoracks, hnofenced]
    exact sort_eq_nil.mpr rfl

/-- Every domain and constraint is entered under its own identity. -/
theorem keyed_of_applied {config : CoordinatorConfig} {now : Timestamp}
    {request : MutationRequest} (h : Keyed s) (happlied : Applied config now s request s') :
    Keyed s' := by
  cases happlied
  case domainPublished k payload domain aggregate t hkind hpayload hok hdomain _ _ _ _ =>
    refine ⟨fun k' id domain' hfind => ?_, h.constraints⟩
    by_cases hk : k' = k
    · subst hk
      simp only [Function.update_self, StdMap.find?_insertOrAssign] at hfind
      split_ifs at hfind with hid
      · obtain rfl := Option.some.inj hfind
        rw [hdomain]
        exact (id_normalizedDomain payload).trans hid
      · exact h.domains k' id domain' hfind
    · simp only [Function.update_of_ne hk] at hfind
      exact h.domains k' id domain' hfind
  case constrained payload g hkind hpayload hok _ _ _ =>
    refine ⟨h.domains, fun id constraint hfind => ?_⟩
    simp only [StdMap.find?_insertOrAssign] at hfind
    split_ifs at hfind with hid
    · obtain rfl := Option.some.inj hfind
      exact hid
    · exact h.constraints id constraint hfind
  all_goals exact ⟨h.domains, h.constraints⟩

/-- The advance of the generation is a demotion that takes nothing away. -/
theorem demotes_committed (s : ClusterState) (hg : s.generation.next = some g) (now : Timestamp) :
    Demotes (reevaluate s) (committed s g now) :=
  { DemotedRecords.refl (reevaluate s) with
    toSameScalars := ⟨rfl, rfl, rfl, rfl, rfl, rfl, rfl, rfl, rfl, rfl, rfl⟩
    coordinatorEpoch := fun h => h
    generation_le := by
      rw [StrongCounter.next_eq_some] at hg
      change s.generation.value ≤ g.value
      omega
    fencedSorted := fun h => h
    fenced := fun _ _ _ _ h => h
    ready := satisfied_of_ready (s := s)
    retired := fun h => h }

theorem inductive_sound : clusterSystem.Inductive Sound where
  initial := by
    rintro _ ⟨config, epoch, -, rfl⟩
    refine ⟨⟨fun k id domain hfind => ?_, fun id constraint hfind => ?_⟩, .inl rfl⟩
    · exact nomatch hfind
    · exact nomatch hfind
  evolves := by
    rintro s _ hsound (⟨-, happlied, hok, hnext⟩ | ⟨reason, fencedAt, now, -, hpublished, hg, -⟩)
    · have hkeyed := keyed_of_applied hsound.toKeyed happlied
      refine ⟨⟨hkeyed.domains, hkeyed.constraints⟩, ?_⟩
      rcases checkInvariants_isOk.mp hok with hvacant | hhealthy
      · exact .inl hvacant
      · exact .inr (hhealthy.demotes (demotes_committed _ hnext _))
    · rename_i boot g h
      have hdemotes := demotes_fence s boot reason fencedAt now hg h
      exact ⟨hsound.toKeyed.demoted hdemotes.toDemotedRecords,
        .inr ((hsound.healthy_of_published hpublished).demotes hdemotes)⟩
  slips := by
    rintro s _ hsound ⟨request, hother, rfl⟩
    refine ⟨⟨hsound.domains, hsound.constraints⟩, .inl ?_⟩
    refine hsound.healthy.resolve_right fun hhealthy => ?_
    have hdeclared := hhealthy.scalars.epoch
    rw [hother.undeclared] at hdeclared
    exact absurd hdeclared Bool.false_ne_true
  recovers := by
    rintro s _ hsound ⟨epoch, now, hepoch, rfl⟩
    have hdemotes := demotes_recovered hepoch now hsound.links hsound.toKeyed
    refine ⟨hsound.toKeyed.demoted hdemotes.toDemotedRecords, ?_⟩
    rcases hsound.healthy with hvacant | hhealthy
    · exact .inl (isVacant_recovered hvacant hsound.toKeyed epoch now)
    · exact .inr (hhealthy.demotes hdemotes)

theorem Reachable.sound {σ : Type} {fs : FaithfulStore σ} {c : Coordinator σ}
    (h : Reachable fs c) : Sound c.canonical := (h.holds inductive_sound).1

/-- **The invariants hold in every reachable state**, whatever was submitted,
fenced, refused by the store or recovered on the way. -/
theorem isOk_checkInvariants_run {σ : Type} (fs : FaithfulStore σ) {c : Coordinator σ}
    (hstarted : Started fs c) (events : List Event) :
    let s := (run fs.ops c events).canonical
    (checkInvariants s (some (.rebuild s))).isOk = true := by
  have hreachable : Reachable fs (run fs.ops c events) := ⟨c, events, hstarted, rfl⟩
  exact checkInvariants_rebuild.mpr hreachable.sound.healthy

end Coordinator

section Example

namespace Coordinator

open scoped StdSort

/-- A cluster is declared, the process crashes, and the next one recovers it. -/
theorem isOk_checkInvariants_declare_restart :
    let s := (run cellStore.ops sampleStart
      (rackEvents ++ [.restart ⟨4⟩])).canonical
    s.racks.size = 1 ∧ (checkInvariants s (some (.rebuild s))).isOk = true :=
  ⟨by decide +kernel, isOk_checkInvariants_run cellStore started_sampleStart _⟩

end Coordinator

end Example

end ClusterFabric
