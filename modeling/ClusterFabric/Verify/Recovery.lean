import ClusterFabric.Verify.DurableCheck
import ClusterFabric.Verify.Recovered

/-! # Recovery is conservative and keeps declarations

A state recovered from a container claims nothing that must be observed anew, and every
declared fact of the container is in it (`recovery_conservative_lossless`).
-/

namespace ClusterFabric

open Lib

/-! ## Links -/

/-- The loop over links that all require revalidation never sees a current one. -/
theorem sawNothing_foldl_visit (source destination : RackId) {links : List InterRackLink}
    (hlinks : ∀ link ∈ links, link.header.evidence.requiresRevalidation = true)
    (scan : ReachabilityScan) (hscan : scan.sawReachable = false ∧ scan.sawCurrent = false) :
    let scan' := links.foldl (ReachabilityScan.visit source destination) scan
    scan'.sawReachable = false ∧ scan'.sawCurrent = false := by
  induction links generalizing scan with
  | nil => exact hscan
  | cons link links ih =>
    refine ih (fun l hl => hlinks l (List.mem_cons_of_mem _ hl)) _ ?_
    have hrequires := hlinks link List.mem_cons_self
    unfold ReachabilityScan.visit
    split_ifs with hconnects
    · exact hscan
    · exact hscan

/-- No pair is known to be reachable or unreachable over such links. -/
theorem reachabilityBetween_undecided {s : ClusterState}
    (hlinks : ∀ id link, s.links.find? id = some link →
      link.header.evidence.requiresRevalidation = true) (source destination : RackId) :
    reachabilityBetween s source destination ≠ .reachable ∧
      reachabilityBetween s source destination ≠ .unreachable := by
  have hvalues : ∀ link ∈ s.links.values, link.header.evidence.requiresRevalidation = true := by
    intro link hlink
    obtain ⟨id, hfind⟩ := StdMap.mem_values_iff.mp hlink
    exact hlinks id link hfind
  obtain ⟨hreachable, hcurrent⟩ :=
    sawNothing_foldl_visit source destination hvalues {} ⟨rfl, rfl⟩
  unfold reachabilityBetween
  simp only [hreachable, hcurrent, Bool.false_and, Bool.false_eq_true, if_false]
  split_ifs <;> decide

/-! ## What a recovered state claims and what it keeps -/

/-- Nothing in the state counts as observed, and every incarnation that was
known to the container is fenced. -/
structure Conservative (p : PersistedState) (s : ClusterState) : Prop where
  rackNotCurrent : ∀ rack record, s.racks.find? rack = some record →
    record.authoritativeCurrent = false
  rackFenced : ∀ rack record, s.racks.find? rack = some record →
    s.isBootFenced record.reference.boot = true
  stillFenced : ∀ fenced ∈ p.fencedAuthorities, s.isBootFenced fenced.boot = true
  linkNotCurrent : ∀ id link, s.links.find? id = some link →
    link.header.evidence.isCurrent = false
  undecided : ∀ source destination,
    reachabilityBetween s source destination ≠ .reachable ∧
      reachabilityBetween s source destination ≠ .unreachable
  notConsumable : isConsumableLifecycle s.lifecycle = false

/-- The record declares what the container recorded of the rack. -/
structure Declares (durable : DurableRack) (record : RackRecord) : Prop where
  rack : record.reference.rack = durable.rack
  generation : record.reference.generation = durable.generation
  membership : record.membership = durable.membership
  membershipGeneration : record.membershipGeneration = durable.membershipGeneration
  publisher : record.reference.publisher = some durable.publisher
  publication : record.reference.publication = durable.lastAcceptedPublication
  boot : record.reference.boot = durable.lastBoot
  composition : record.reference.composition = durable.composition
  endpoints : record.reference.endpoints = durable.endpoints
  failureDomainHints : record.reference.failureDomainHints = durable.failureDomainHints
  originLabel : record.reference.originLabel = durable.originLabel

/-- The counters and lists of the container, and its racks and no other. -/
structure Lossless (p : PersistedState) (s : ClusterState) : Prop where
  epoch : s.epoch = p.epoch
  generation : s.generation = p.generation
  membershipGeneration : s.membershipGeneration = p.membershipGeneration
  topologyEpoch : s.topologyEpoch = p.topologyEpoch
  topologyGeneration : s.topologyGeneration = p.topologyGeneration
  connectivityGeneration : s.connectivityGeneration = p.connectivityGeneration
  healthGeneration : s.healthGeneration = p.healthGeneration
  constraintGeneration : s.constraintGeneration = p.constraintGeneration
  domainGenerations : s.domainGenerations = p.domainGenerations
  snapshotGeneration : s.snapshotGeneration = p.snapshotGeneration
  publicationGeneration : s.publicationGeneration = p.publicationGeneration
  retiredRacks : s.retiredRacks = p.retiredRacks
  withdrawnRacks : s.withdrawnRacks = p.withdrawnRacks
  racks : ∀ durable ∈ p.racks, ∃ record, s.racks.find? durable.rack = some record ∧
    Declares durable record
  noOtherRack : ∀ rack record, s.racks.find? rack = some record →
    ∃ durable ∈ p.racks, durable.rack = rack

section Recover

variable [StdSort] (p : PersistedState) (epoch : CoordinatorEpoch) (now : Timestamp)

omit [StdSort] in
theorem declares_recoveredRack (durable : DurableRack) :
    Declares durable (recoveredRack p epoch now durable) :=
  ⟨rfl, rfl, rfl, rfl, rfl, rfl, rfl, rfl, rfl, rfl, rfl⟩

theorem find?_links_recoveredState {id : InterRackLinkId} {link : InterRackLink}
    (h : (recoveredState p epoch now).links.find? id = some link) :
    ∃ recorded ∈ p.links, link = recoveredLink recorded := by
  have hmem := StdMap.mem_of_find?_ofList h
  obtain ⟨recorded, hrecorded, heq⟩ := List.mem_map.mp hmem
  exact ⟨recorded, hrecorded, (Prod.mk.inj heq).2.symm⟩

theorem conservative_fromPersistedState : Conservative p (fromPersistedState p epoch now) where
  rackNotCurrent := by
    intro rack record hfind
    obtain ⟨durable, -, -, rfl⟩ := find?_racks_recoveredState p epoch now hfind
    rfl
  rackFenced := by
    intro rack record hfind
    obtain ⟨durable, hdurable, -, rfl⟩ := find?_racks_recoveredState p epoch now hfind
    refine (isBootFenced_recoveredState p epoch now).mpr (.inr ?_)
    exact List.mem_map.mpr ⟨durable, hdurable, rfl⟩
  stillFenced := by
    intro fenced hfenced
    refine (isBootFenced_recoveredState p epoch now).mpr (.inl ?_)
    exact List.mem_map.mpr ⟨fenced, hfenced, rfl⟩
  linkNotCurrent := by
    intro id link hfind
    obtain ⟨recorded, -, rfl⟩ := find?_links_recoveredState p epoch now hfind
    exact EvidenceStamp.isCurrent_of_requiresRevalidation
      (EvidenceStamp.requiresRevalidation_markRevalidationRequired _)
  undecided := by
    refine reachabilityBetween_undecided fun id link hfind => ?_
    obtain ⟨recorded, -, rfl⟩ := find?_links_recoveredState p epoch now hfind
    exact EvidenceStamp.requiresRevalidation_markRevalidationRequired _
  notConsumable := fromPersistedState_not_consumable p epoch now

variable {p}

/-- Two racks of one identity would leave one record, so the order that
validation checks is what keeps every rack. -/
theorem lossless_fromPersistedState (hsorted : p.racks.Pairwise fun a b => a.rack < b.rack) :
    Lossless p (fromPersistedState p epoch now) where
  epoch := rfl
  generation := rfl
  membershipGeneration := rfl
  topologyEpoch := rfl
  topologyGeneration := rfl
  connectivityGeneration := rfl
  healthGeneration := rfl
  constraintGeneration := rfl
  domainGenerations := rfl
  snapshotGeneration := rfl
  publicationGeneration := rfl
  retiredRacks := rfl
  withdrawnRacks := rfl
  racks := fun durable hdurable =>
    ⟨recoveredRack p epoch now durable,
      StdMap.find?_ofList_map hsorted (recoveredRack p epoch now) hdurable,
      declares_recoveredRack p epoch now durable⟩
  noOtherRack := by
    intro rack record hfind
    obtain ⟨durable, hdurable, hrack, -⟩ := find?_racks_recoveredState p epoch now hfind
    exact ⟨durable, hdurable, hrack⟩

/-- **Recovery is conservative and lossless on declarations**, for every
container that validation accepts, under any clock and any new epoch. -/
theorem recovery_conservative_lossless (hvalid : validatePersistedState p = .ok ()) :
    Conservative p (fromPersistedState p epoch now) ∧
      Lossless p (fromPersistedState p epoch now) :=
  ⟨conservative_fromPersistedState p epoch now,
    lossless_fromPersistedState epoch now (validatePersistedState_ok.mp hvalid).racksSorted⟩

/-! ## Restarts -/

/-- What is durable after restarts under the given epochs and clocks, when nothing is
published between them. -/
def persistedAgain (p : PersistedState) (restarts : List (CoordinatorEpoch × Timestamp)) :
    PersistedState :=
  restarts.foldl (fun p restart => toPersistedState (fromPersistedState p restart.1 restart.2)) p

/-- A durable record with another time of declaration. -/
def DurableRack.declared (now : Timestamp) (rack : DurableRack) : DurableRack :=
  { rack with declaredAt := now }

omit [StdSort] in
theorem DurableRack.declared_eq_iff {rack : DurableRack} :
    rack.declared now = rack ↔ rack.declaredAt = now := by
  constructor
  · intro hsame
    exact (congrArg DurableRack.declaredAt hsame).symm
  · rintro rfl
    rfl

/-- A restart writes its clock over the time of a declaration. -/
theorem racks_toPersistedState_recovered
    (hsorted : p.racks.Pairwise fun a b => a.rack < b.rack) :
    (toPersistedState (fromPersistedState p epoch now)).racks =
      p.racks.map (DurableRack.declared now) := by
  change (recoveredState p epoch now).racks.entries.map _ = _
  unfold recoveredState
  rw [StdMap.entries_ofList (List.pairwise_map.mpr hsorted), List.map_map]
  rfl

/-- Of any number of restarts the last one leaves its clock. -/
theorem racks_persistedAgain (hsorted : p.racks.Pairwise fun a b => a.rack < b.rack)
    (restarts : List (CoordinatorEpoch × Timestamp)) :
    (persistedAgain p restarts).racks =
      (restarts.getLast?.elim p.racks fun last => p.racks.map (DurableRack.declared last.2)) := by
  induction restarts generalizing p with
  | nil => rfl
  | cons restart restarts ih =>
    have hracks := racks_toPersistedState_recovered restart.1 restart.2 hsorted
    have hsorted' : (toPersistedState (fromPersistedState p restart.1 restart.2)).racks.Pairwise
        fun a b => a.rack < b.rack := by
      rw [hracks]
      exact List.pairwise_map.mpr hsorted
    change (persistedAgain _ restarts).racks = _
    rw [ih hsorted', hracks, List.getLast?_cons]
    cases restarts.getLast? with
    | none => rfl
    | some last =>
      dsimp only [Option.elim, Option.getD]
      rw [List.map_map]
      rfl

/-- **Restarts keep the durable rack records** of a valid container exactly when the clock
of the last one reads the time at which every rack was declared. -/
theorem restarts_keep_racks_iff (hvalid : validatePersistedState p = .ok ())
    (restarts : List (CoordinatorEpoch × Timestamp)) :
    (persistedAgain p restarts).racks = p.racks ↔
      ∀ last ∈ restarts.getLast?, ∀ rack ∈ p.racks, rack.declaredAt = last.2 := by
  rw [racks_persistedAgain (validatePersistedState_ok.mp hvalid).racksSorted]
  cases restarts.getLast? with
  | none => simp
  | some last =>
    simp only [Option.elim_some, Option.mem_some_iff, forall_eq']
    conv_lhs => rhs; rw [← List.map_id p.racks]
    rw [List.map_inj_left]
    refine forall₂_congr fun rack _ => ?_
    exact DurableRack.declared_eq_iff last.2

end Recover

section Example

open scoped StdSort

/-- A container with two racks, a link that was reachable and a fenced
incarnation. -/
def recordedCluster : PersistedState where
  id := .named "alpha"
  epoch := .fromRaw 1
  lastCoordinatorEpoch := .fromRaw 2
  generation := .fromRaw 5
  membershipGeneration := .fromRaw 3
  topologyEpoch := .fromRaw 1
  topologyGeneration := .fromRaw 1
  connectivityGeneration := .fromRaw 2
  healthGeneration := .fromRaw 1
  constraintGeneration := .fromRaw 1
  snapshotGeneration := .fromRaw 1
  publicationGeneration := .fromRaw 2
  racks := ["r1", "r2"].map fun rack =>
    { rack := .named rack
      generation := .fromRaw 1
      membership := .active
      publisher := .named "agent"
      lastBoot := .named "b1" }
  links :=
    [{ id := .named "l1"
       source := .named "r1"
       destination := .named "r2"
       reachability := .reachable
       header := { evidence := .make .measured ⟨1⟩ 0, generation := .fromRaw 1 }
       topologyEpoch := .fromRaw 1 }]
  fencedAuthorities := [{ boot := .named "b0", rack := .named "r1", reason := text "left" }]

theorem recovery_conservative_lossless_recordedCluster :
    Conservative recordedCluster (fromPersistedState recordedCluster (.fromRaw 3) ⟨9⟩) ∧
      Lossless recordedCluster (fromPersistedState recordedCluster (.fromRaw 3) ⟨9⟩) :=
  recovery_conservative_lossless (.fromRaw 3) ⟨9⟩ rfl

/-- The same container, with racks that were declared at a known time. -/
def declaredCluster : PersistedState :=
  { recordedCluster with racks := recordedCluster.racks.map (DurableRack.declared ⟨4⟩) }

/-- Two restarts, of which the second reads the time of the declarations. -/
theorem restarts_keep_racks_declaredCluster :
    (persistedAgain declaredCluster [(.fromRaw 3, ⟨9⟩), (.fromRaw 4, ⟨4⟩)]).racks =
      declaredCluster.racks := by
  refine (restarts_keep_racks_iff rfl _).mpr fun last hlast rack hrack => ?_
  obtain rfl := Option.some.inj hlast
  obtain ⟨declared, -, rfl⟩ := List.mem_map.mp hrack
  rfl

/-- A restart at a later time moves the declarations to it. -/
theorem restart_redeclares_racks :
    validatePersistedState declaredCluster = .ok () ∧
      declaredCluster.racks.map DurableRack.declaredAt = [⟨4⟩, ⟨4⟩] ∧
      (toPersistedState (fromPersistedState declaredCluster (.fromRaw 3) ⟨9⟩)).racks.map
        DurableRack.declaredAt = [⟨9⟩, ⟨9⟩] :=
  ⟨rfl, by decide +kernel, by decide +kernel⟩

end Example

end ClusterFabric
