import ClusterFabric.Verify.Health
import ClusterFabric.Verify.Recovery
import ClusterFabric.Verify.RoundTrip

/-! # Containers and invariants

The rules that a container is validated by are not the ones that canonical state is
checked by. What the second ask for beyond the first is stated here over the container,
and a coordinator that recovers from an accepted container starts with a healthy state
exactly when the container has it (`accepted_healthy_iff`).
-/

namespace ClusterFabric

open Lib

namespace PersistedState

/-! ## What validation leaves open -/

/-- The rack is recorded with a membership. -/
def isMember (p : PersistedState) (rack : RackId) : Bool :=
  p.racks.any fun durable => durable.rack == rack && durable.membership != .unknown

/-- The counters fit each other and the topology record. -/
structure ConsistentScalars (p : PersistedState) : Prop where
  topologyEpoch : p.topologyEpoch.known = true
  recordEpoch : p.topologyRecord.epoch = p.topologyEpoch
  recordGeneration : p.topologyRecord.generation = p.topologyGeneration
  membership_le : p.membershipGeneration.value ≤ p.generation.value
  topology_le : p.topologyGeneration.value ≤ p.generation.value

structure ConsistentLink (p : PersistedState) (link : InterRackLink) : Prop where
  source : p.isMember link.source = true
  destination : p.isMember link.destination = true
  direction : link.direction ≠ .unknown
  generation_le : link.topologyGeneration.value ≤ p.topologyGeneration.value
  failureDomains : ∀ id ∈ link.failureDomains, ∃ domain ∈ p.domains .failure, domain.id = id

structure ConsistentDomain (p : PersistedState) {k : DomainKind} (domain : Domain k) : Prop where
  class_ne : Domain.classRaw k domain ≠ 0
  members : ∀ rack ∈ domain.racks, p.isMember rack = true
  generation_le : domain.header.generation.value ≤ (p.domainGenerations k).value

/-- What canonical state is checked for and a container is not. -/
structure Consistent (p : PersistedState) : Prop where
  scalars : p.ConsistentScalars
  snapshot_le : p.snapshotGeneration.value ≤ p.publicationGeneration.value
  racks : ∀ rack ∈ p.racks, rack.membershipGeneration.value ≤ p.membershipGeneration.value
  links : ∀ link ∈ p.links, p.ConsistentLink link
  domains : ∀ k, ∀ domain ∈ p.domains k, p.ConsistentDomain domain
  constraints : ∀ constraint ∈ p.constraints, ∀ rack ∈ constraint.racks, p.isMember rack = true
  /-- The withdrawn racks are listed, and no others are. -/
  withdrawn : ∀ rack, rack ∈ p.withdrawnRacks ↔
    ∃ durable ∈ p.racks, durable.rack = rack ∧ durable.membership = .withdrawn
  /-- No incarnation is fenced twice. -/
  fenced : p.fencedAuthorities.Pairwise fun a b => a.boot ≠ b.boot

/-- Nothing is recorded but counters. -/
structure Blank (p : PersistedState) : Prop where
  racks : p.racks = []
  links : p.links = []
  domains : ∀ k, p.domains k = []
  constraints : p.constraints = []
  retired : p.retiredRacks = []
  withdrawn : p.withdrawnRacks = []
  fenced : p.fencedAuthorities = []

end PersistedState

/-! ## The recovered state, part by part -/

section Recovered

open PersistedState

variable [StdSort] {p : PersistedState} (epoch : CoordinatorEpoch) (now : Timestamp)

theorem find?_racks_iff (hvalid : p.Valid) {rack : RackId} {record : RackRecord} :
    (fromPersistedState p epoch now).racks.find? rack = some record ↔
      ∃ durable ∈ p.racks, durable.rack = rack ∧ record = recoveredRack p epoch now durable := by
  constructor
  · exact find?_racks_recoveredState p epoch now
  · rintro ⟨durable, hdurable, rfl, rfl⟩
    exact StdMap.find?_ofList_map hvalid.racksSorted (recoveredRack p epoch now) hdurable

theorem isRackMember_recovered (hvalid : p.Valid) (rack : RackId) :
    (fromPersistedState p epoch now).isRackMember rack = p.isMember rack := by
  rw [Bool.eq_iff_iff, ClusterState.isRackMember, isMember, List.any_eq_true]
  constructor
  · intro hmember
    cases hfind : (fromPersistedState p epoch now).racks.find? rack with
    | none =>
      rw [hfind] at hmember
      exact absurd hmember Bool.false_ne_true
    | some record =>
      obtain ⟨durable, hdurable, hrack, rfl⟩ := (find?_racks_iff epoch now hvalid).mp hfind
      rw [hfind] at hmember
      refine ⟨durable, hdurable, ?_⟩
      rw [Bool.and_eq_true, beq_iff_eq]
      exact ⟨hrack, hmember⟩
  · rintro ⟨durable, hdurable, hmember⟩
    rw [Bool.and_eq_true, beq_iff_eq] at hmember
    rw [(find?_racks_iff epoch now hvalid).mpr ⟨durable, hdurable, hmember.1, rfl⟩]
    exact hmember.2

theorem contains_failureDomains_iff (hvalid : p.Valid) (id : DomainId .failure) :
    (fromPersistedState p epoch now).failureDomains.contains id = true ↔
      ∃ domain ∈ p.domains .failure, domain.id = id := by
  change Option.isSome _ = true ↔ _
  rw [Option.isSome_iff_exists]
  constructor
  · rintro ⟨recovered, hfind⟩
    obtain ⟨domain, hdomain, heq⟩ := List.mem_map.mp (StdMap.mem_of_find?_ofList hfind)
    exact ⟨domain, hdomain, (Prod.mk.inj heq).1⟩
  · rintro ⟨domain, hdomain, rfl⟩
    exact ⟨_, StdMap.find?_ofList_map (hvalid.domainsSorted .failure) (recoveredDomain now) hdomain⟩

theorem scalarsOk_recovered_iff (hvalid : p.Valid) (hepoch : epoch.known = true) :
    ScalarsOk (fromPersistedState p epoch now) ↔ p.ConsistentScalars := by
  constructor
  · intro h
    exact ⟨h.topologyEpoch, h.recordEpoch, h.recordGeneration, h.membership_le, h.topology_le⟩
  · intro h
    have hscalars := hvalid.scalars
    exact ⟨hscalars.id, hscalars.epoch, hepoch, hscalars.generation,
      hscalars.membershipGeneration, h.topologyEpoch, hscalars.topologyGeneration, h.recordEpoch,
      h.recordGeneration, h.membership_le, h.topology_le⟩

omit [StdSort] in
theorem size_ofList_map {K V α : Type} [LinearOrder K] {key : α → K} {f : α → V} {l : List α}
    (hl : l.Pairwise fun a b => key a < key b) :
    (StdMap.ofList (l.map fun a => (key a, f a))).size = l.length := by
  rw [StdMap.size, StdMap.entries_ofList (List.pairwise_map.mpr hl), List.length_map]

/-- The counts are those of the container, which validation bounds. -/
theorem countsOk_recovered (hvalid : p.Valid) : CountsOk (fromPersistedState p epoch now) where
  racks := (size_ofList_map hvalid.racksSorted).trans_le hvalid.rackCount
  links := (size_ofList_map hvalid.linksSorted).trans_le hvalid.linkCount
  constraints := (size_ofList_map hvalid.constraintsSorted).trans_le hvalid.constraintCount
  domains k := (size_ofList_map (hvalid.domainsSorted k)).trans_le (hvalid.domainCount k)

theorem racksOk_recovered_iff (hvalid : p.Valid) :
    (∀ rack record, (fromPersistedState p epoch now).racks.find? rack = some record →
        RackOk (fromPersistedState p epoch now) rack record) ↔
      ∀ rack ∈ p.racks, rack.membershipGeneration.value ≤ p.membershipGeneration.value := by
  refine (StdMap.All.ofList_map_iff hvalid.racksSorted).trans (forall₂_congr fun rack hrack => ?_)
  have hrackValid := hvalid.racks rack hrack
  constructor
  · intro h
    exact h.membership_le
  · intro hle
    exact ⟨rfl, hrackValid.generation, hrackValid.endpointCount, hrackValid.hintCount,
      fun _ => ⟨rfl, .inr rfl⟩, hle, fun hcurrent => absurd hcurrent Bool.false_ne_true⟩

theorem linksOk_recovered_iff (hvalid : p.Valid) :
    (∀ id link, (fromPersistedState p epoch now).links.find? id = some link →
        LinkOk (fromPersistedState p epoch now) id link) ↔
      ∀ link ∈ p.links, p.ConsistentLink link := by
  refine (StdMap.All.ofList_map_iff hvalid.linksSorted).trans (forall₂_congr fun link hlink => ?_)
  have hmember := isRackMember_recovered epoch now hvalid
  have hfailure := contains_failureDomains_iff epoch now hvalid
  constructor
  · intro h
    refine ⟨(hmember _).symm.trans h.source_member, (hmember _).symm.trans h.destination_member,
      h.direction_ne, h.generation_le, fun id hid => ?_⟩
    exact (hfailure id).mp (h.failureDomains id hid)
  · intro h
    refine ⟨rfl, (hmember _).trans h.source, (hmember _).trans h.destination,
      (hvalid.links link hlink).distinct, h.direction, fun _ => ?_, h.generation_le,
      fun id hid => (hfailure id).mpr (h.failureDomains id hid)⟩
    -- a recovered link claims nothing, whatever its epoch
    exact ⟨EvidenceStamp.requiresRevalidation_markRevalidationRequired _, nofun, nofun, rfl⟩

omit [StdSort] in
theorem classRaw_recoveredDomain {k : DomainKind} (domain : Domain k) :
    Domain.classRaw k (recoveredDomain now domain) = Domain.classRaw k domain := by
  cases k <;> rfl

theorem domainsOk_recovered_iff (hvalid : p.Valid) :
    ((∀ k id domain, ((fromPersistedState p epoch now).domains k).find? id = some domain →
          DomainOk (fromPersistedState p epoch now) domain) ∧
        ∀ k id domain, ((fromPersistedState p epoch now).domains k).find? id = some domain →
          domain.header.generation.value ≤
            ((fromPersistedState p epoch now).domainGenerations k).value) ↔
      ∀ k, ∀ domain ∈ p.domains k, p.ConsistentDomain domain := by
  rw [← forall_and]
  refine forall_congr' fun k => ?_
  have hmember := isRackMember_recovered epoch now hvalid
  have hparts := and_congr
    (StdMap.All.ofList_map_iff (P := fun _ domain => DomainOk (fromPersistedState p epoch now)
      domain) (f := recoveredDomain now) (hvalid.domainsSorted k))
    (StdMap.All.ofList_map_iff (P := fun _ domain => domain.header.generation.value ≤
      ((fromPersistedState p epoch now).domainGenerations k).value) (f := recoveredDomain now)
      (hvalid.domainsSorted k))
  refine hparts.trans ?_
  constructor
  · rintro ⟨hok, hle⟩ domain hdomain
    have h := hok domain hdomain
    refine ⟨?_, fun rack hrack => (hmember rack).symm.trans (h.members rack hrack),
      hle domain hdomain⟩
    rw [← classRaw_recoveredDomain now]
    exact h.class_ne
  · intro h
    refine ⟨fun domain hdomain => ?_, fun domain hdomain => (h domain hdomain).generation_le⟩
    refine ⟨?_, fun rack hrack => (hmember rack).trans ((h domain hdomain).members rack hrack),
      (hvalid.domains k domain hdomain).members.sorted⟩
    rw [classRaw_recoveredDomain now]
    exact (h domain hdomain).class_ne

theorem constraintsOk_recovered_iff (hvalid : p.Valid) :
    (∀ id constraint, (fromPersistedState p epoch now).constraints.find? id = some constraint →
        ∀ rack ∈ constraint.racks, (fromPersistedState p epoch now).isRackMember rack = true) ↔
      ∀ constraint ∈ p.constraints, ∀ rack ∈ constraint.racks, p.isMember rack = true := by
  refine (StdMap.All.ofList_map_iff hvalid.constraintsSorted).trans
    (forall₂_congr fun constraint _ => ?_)
  refine forall₂_congr fun rack _ => ?_
  rw [isRackMember_recovered epoch now hvalid]

theorem withdrawnOk_recovered_iff (hvalid : p.Valid) :
    WithdrawnOk (fromPersistedState p epoch now) ↔
      ∀ rack, rack ∈ p.withdrawnRacks ↔
        ∃ durable ∈ p.racks, durable.rack = rack ∧ durable.membership = .withdrawn := by
  have hfind := @find?_racks_iff _ p epoch now hvalid
  constructor
  · intro h rack
    constructor
    · intro hlisted
      obtain ⟨record, hrecord, hmembership⟩ := Option.map_eq_some_iff.mp (h.listed rack hlisted)
      obtain ⟨durable, hdurable, hrack, rfl⟩ := hfind.mp hrecord
      exact ⟨durable, hdurable, hrack, hmembership⟩
    · rintro ⟨durable, hdurable, hrack, hmembership⟩
      exact h.complete rack _ (hfind.mpr ⟨durable, hdurable, hrack, rfl⟩) hmembership
  · intro h
    refine ⟨hvalid.withdrawnSorted, fun rack hlisted => ?_,
      fun rack record hrecord hwithdrawn => ?_⟩
    · obtain ⟨durable, hdurable, hrack, hmembership⟩ := (h rack).mp hlisted
      rw [hfind.mpr ⟨durable, hdurable, hrack, rfl⟩]
      exact congrArg some hmembership
    · obtain ⟨durable, hdurable, hrack, rfl⟩ := hfind.mp hrecord
      exact (h rack).mpr ⟨durable, hdurable, hrack, hwithdrawn⟩

omit [StdSort] in
/-- The entries that recovery adds come after the recorded ones. -/
theorem prefix_fencedAfterRecovery : p.fencedAuthorities <+: fencedAfterRecovery p now := by
  have hfold : ∀ (racks : List DurableRack) (fenced : List FencedAuthority),
      fenced <+: racks.foldl (fenceLastBoot now) fenced := by
    intro racks
    induction racks with
    | nil => exact fun fenced => List.prefix_rfl
    | cons rack racks ih =>
      intro fenced
      refine List.IsPrefix.trans ?_ (ih _)
      unfold fenceLastBoot
      split_ifs
      · exact List.prefix_rfl
      · exact List.prefix_append _ _
  exact hfold p.racks p.fencedAuthorities

theorem fencedSorted_recovered_iff :
    ((fromPersistedState p epoch now).fencedAuthorities.Pairwise fun a b => a.boot < b.boot) ↔
      p.fencedAuthorities.Pairwise fun a b => a.boot ≠ b.boot := by
  change (sortBy FencedAuthority.boot (fencedAfterRecovery p now)).Pairwise _ ↔ _
  rw [sortBy_strict_iff]
  constructor
  · intro h
    exact h.sublist (prefix_fencedAfterRecovery now).sublist
  · intro h
    exact foldl_fenceLastBoot_distinct now p.racks h

/-- **What a valid container must have for its recovery to be healthy.** -/
theorem healthy_recovered_iff (hvalid : p.Valid) (hepoch : epoch.known = true) :
    Healthy (fromPersistedState p epoch now) ↔ p.Consistent := by
  have hconservative := conservative_fromPersistedState p epoch now
  constructor
  · intro h
    exact {
      scalars := (scalarsOk_recovered_iff epoch now hvalid hepoch).mp h.scalars
      snapshot_le := h.snapshot_le
      racks := (racksOk_recovered_iff epoch now hvalid).mp h.racks
      links := (linksOk_recovered_iff epoch now hvalid).mp h.links
      domains := (domainsOk_recovered_iff epoch now hvalid).mp ⟨h.domains, h.aggregates⟩
      constraints := (constraintsOk_recovered_iff epoch now hvalid).mp h.constraints
      withdrawn := (withdrawnOk_recovered_iff epoch now hvalid).mp h.withdrawn
      fenced := (fencedSorted_recovered_iff epoch now).mp h.fencedSorted }
  · intro h
    have hdomains := (domainsOk_recovered_iff epoch now hvalid).mpr h.domains
    exact {
      scalars := (scalarsOk_recovered_iff epoch now hvalid hepoch).mpr h.scalars
      counts := countsOk_recovered epoch now hvalid
      racks := (racksOk_recovered_iff epoch now hvalid).mpr h.racks
      links := (linksOk_recovered_iff epoch now hvalid).mpr h.links
      domains := hdomains.1
      aggregates := hdomains.2
      constraints := (constraintsOk_recovered_iff epoch now hvalid).mpr h.constraints
      withdrawn := (withdrawnOk_recovered_iff epoch now hvalid).mpr h.withdrawn
      fencedSorted := (fencedSorted_recovered_iff epoch now).mpr h.fenced
      retiredSorted := hvalid.retiredSorted
      ready := by
        intro hready
        have hnot := hconservative.notConsumable
        rw [hready] at hnot
        exact absurd hnot.symm Bool.false_ne_true
      retired := fun _ => hconservative.rackNotCurrent
      snapshot_le := h.snapshot_le }

omit [StdSort] in
theorem isEmpty_ofList_map {K V α : Type} [LinearOrder K] {key : α → K} {f : α → V} {l : List α}
    (hl : l.Pairwise fun a b => key a < key b) :
    (StdMap.ofList (l.map fun a => (key a, f a))).isEmpty = true ↔ l = [] := by
  rw [StdMap.isEmpty, StdMap.entries_ofList (List.pairwise_map.mpr hl), List.isEmpty_iff,
    List.map_eq_nil_iff]

theorem isVacant_recovered_iff (hvalid : p.Valid) :
    (fromPersistedState p epoch now).isVacant = true ↔ p.Blank := by
  have hfenced : (fromPersistedState p epoch now).fencedAuthorities = [] ↔
      fencedAfterRecovery p now = [] := sort_eq_nil
  have hracks := @isEmpty_ofList_map _ _ _ _ _ (recoveredRack p epoch now) _ hvalid.racksSorted
  have hlinks := @isEmpty_ofList_map _ _ _ _ _ recoveredLink _ hvalid.linksSorted
  have hdomains := fun k =>
    @isEmpty_ofList_map _ _ _ _ _ (recoveredDomain now) _ (hvalid.domainsSorted k)
  have hconstraints :=
    @isEmpty_ofList_map _ _ _ _ _ (recoveredConstraint now) _ hvalid.constraintsSorted
  simp only [ClusterState.isVacant, Bool.and_eq_true, List.all_eq_true, List.isEmpty_iff, hfenced]
  constructor
  · rintro ⟨⟨⟨⟨⟨⟨hrack, hlink⟩, hdomain⟩, hconstraint⟩, hretired⟩, hwithdrawn⟩, hnone⟩
    refine ⟨hracks.mp hrack, hlinks.mp hlink, fun k => ?_, hconstraints.mp hconstraint, hretired,
      hwithdrawn, ?_⟩
    · exact (hdomains k).mp (hdomain k (DomainKind.mem_all k))
    · exact List.prefix_nil.mp (hnone ▸ prefix_fencedAfterRecovery now)
  · intro h
    refine ⟨⟨⟨⟨⟨⟨hracks.mpr h.racks, hlinks.mpr h.links⟩, fun k _ => ?_⟩,
      hconstraints.mpr h.constraints⟩, h.retired⟩, h.withdrawn⟩, ?_⟩
    · exact (hdomains k).mpr (h.domains k)
    · rw [fencedAfterRecovery, h.racks, h.fenced]
      rfl

end Recovered

/-! ## Accepted containers -/

section Accepted

variable [StdSort]

omit [StdSort] in
theorem valid_of_decode {bytes : Text} {p : PersistedState}
    (h : decodePersistedState bytes = .ok p) : p.Valid := by
  rw [decodePersistedState] at h
  cases hopen : openContainer bytes with
  | error failure =>
    rw [hopen] at h
    cases h
  | ok payload =>
    rw [hopen] at h
    exact (decodePayload_ok_iff.mp h).2

/-- **An accepted container yields a healthy coordinator** exactly when it records nothing
or is consistent. -/
theorem accepted_healthy_iff {bytes : Text} {p : PersistedState}
    (haccepted : decodePersistedState bytes = .ok p) {epoch : CoordinatorEpoch}
    (hepoch : epoch.known = true) (now : Timestamp) :
    ((checkInvariants (fromPersistedState p epoch now) none).isOk = true ↔
        p.Blank ∨ p.Consistent) ∧
      ((checkInvariants (fromPersistedState p epoch now)
          (some (.rebuild (fromPersistedState p epoch now)))).isOk = true ↔
        p.Blank ∨ p.Consistent) := by
  have hvalid := valid_of_decode haccepted
  rw [checkInvariants_isOk, checkInvariants_rebuild, isVacant_recovered_iff epoch now hvalid,
    healthy_recovered_iff epoch now hvalid hepoch]
  exact ⟨Iff.rfl, Iff.rfl⟩

end Accepted

section Example

open scoped StdSort

/-- The container of a withdrawn rack is consistent, and its recovery healthy. -/
theorem accepted_healthy_fenced :
    ∃ bytes, decodePersistedState bytes = .ok fencedState ∧
      (checkInvariants (fromPersistedState fencedState (.fromRaw 3) ⟨9⟩) none).isOk = true := by
  obtain ⟨bytes, hencode⟩ : ∃ bytes, encodePersistedState fencedState = .ok bytes :=
    exists_of_isOk (by decide +kernel)
  obtain ⟨⟨⟩, hvalid⟩ : ∃ u, validatePersistedState fencedState = .ok u :=
    exists_of_isOk (by decide +kernel)
  have hdecode : decodePersistedState bytes = .ok fencedState :=
    (decode_encode readable_fencedState hencode).mpr ⟨validatePersistedState_ok.mp hvalid, rfl⟩
  refine ⟨bytes, hdecode, (accepted_healthy_iff hdecode rfl ⟨9⟩).1.mpr (.inr ?_)⟩
  exact {
    scalars := ⟨rfl, rfl, rfl, by decide, by decide⟩
    snapshot_le := by decide
    racks := by decide
    links := fun _ hmem => nomatch hmem
    domains := fun _ _ hmem => nomatch hmem
    constraints := fun _ hmem => nomatch hmem
    withdrawn := fun rack => by simp [fencedState, eq_comm]
    fenced := by simp [fencedState] }

/-- Two active racks and a link between them without a direction. -/
def undirectedState : PersistedState :=
  { fencedState with
    racks := ["r1", "r2"].map fun rack =>
      { rack := .named rack
        generation := .fromRaw 1
        membership := .active
        publisher := .named "agent"
        lastAcceptedPublication := .fromRaw 1
        lastBoot := .named "b2"
        membershipGeneration := .fromRaw 3 }
    links :=
      [{ id := .named "l1"
         source := .named "r1"
         destination := .named "r2"
         direction := .unknown
         header := { evidence := .make .reported ⟨3⟩ 0, generation := .fromRaw 1 }
         topologyEpoch := .fromRaw 1
         topologyGeneration := .fromRaw 1 }]
    withdrawnRacks := [] }

theorem readable_undirectedState : undirectedState.Readable where
  id := readable_fencedState.id
  contract := readable_fencedState.contract
  racks_le := by decide
  racks := by
    have hnames : ∀ rack ∈ undirectedState.racks, rack.rack.isEmpty = false ∧
        rack.publisher.isEmpty = false ∧ rack.lastBoot.isEmpty = false := by decide +kernel
    intro rack hrack
    obtain ⟨hid, hpublisher, hboot⟩ := hnames rack hrack
    obtain ⟨name, -, rfl⟩ := List.mem_map.mp hrack
    exact ⟨hid, hpublisher, hboot, Nat.zero_le _, Nat.zero_le _, fun _ hmem => (nomatch hmem),
      Nat.zero_le _, fun _ hmem => (nomatch hmem)⟩
  domains_le := fun _ => Nat.zero_le _
  domains := fun _ _ hmem => nomatch hmem
  links_le := by decide
  links := by
    intro link hlink
    obtain rfl := List.mem_singleton.mp hlink
    exact ⟨by decide +kernel, by decide +kernel, by decide +kernel, nofun, nofun, nofun, nofun,
      by decide, fun _ hmem => (nomatch hmem), nofun, nofun⟩
  constraints_le := by decide
  constraints := fun _ hmem => nomatch hmem
  retired_le := by decide
  retired := fun _ hmem => nomatch hmem
  withdrawn_le := by decide
  withdrawn := fun _ hmem => nomatch hmem
  fenced_le := by decide
  fenced := readable_fencedState.fenced

/-- A link without a direction passes validation, and the recovered state violates an
invariant. -/
theorem accepted_unhealthy :
    ∃ bytes, decodePersistedState bytes = .ok undirectedState ∧
      (checkInvariants (fromPersistedState undirectedState (.fromRaw 3) ⟨9⟩) none).isOk =
        false := by
  obtain ⟨bytes, hencode⟩ : ∃ bytes, encodePersistedState undirectedState = .ok bytes :=
    exists_of_isOk (by decide +kernel)
  obtain ⟨⟨⟩, hvalid⟩ : ∃ u, validatePersistedState undirectedState = .ok u :=
    exists_of_isOk (by decide +kernel)
  refine ⟨bytes, (decode_encode readable_undirectedState hencode).mpr
    ⟨validatePersistedState_ok.mp hvalid, rfl⟩, ?_⟩
  decide +kernel

end Example

end ClusterFabric
