import ClusterFabric.Model.Invariant

/-! # Healthy states

What the invariant checker checks, stated. A report is empty exactly when nothing is
recorded or the state is healthy (`checkInvariants_isOk`), and indexes that were rebuilt
from a healthy state add nothing to it.
-/

namespace ClusterFabric

open Lib

variable {k : DomainKind} {link : InterRackLink}

/-! ## One statement per check -/

section Statements

variable (s : ClusterState)

structure ScalarsOk : Prop where
  id_nonempty : s.id.isEmpty = false
  epoch : s.epoch.known = true
  coordinatorEpoch : s.coordinatorEpoch.known = true
  generation : s.generation.known = true
  membershipGeneration : s.membershipGeneration.known = true
  topologyEpoch : s.topologyEpoch.known = true
  topologyGeneration : s.topologyGeneration.known = true
  recordEpoch : s.topologyRecord.epoch = s.topologyEpoch
  recordGeneration : s.topologyRecord.generation = s.topologyGeneration
  membership_le : s.membershipGeneration.value ≤ s.generation.value
  topology_le : s.topologyGeneration.value ≤ s.generation.value

structure CountsOk : Prop where
  racks : s.racks.size ≤ maxRacksPerCluster
  links : s.links.size ≤ maxInterRackLinks
  constraints : s.constraints.size ≤ maxConstraints
  domains : ∀ k, (s.domains k).size ≤ maxDomainsPerClass

/-- What an authoritative record must be. -/
structure AuthorityOk (rack : RackId) (record : RackRecord) : Prop where
  notFenced : s.isBootFenced record.reference.boot = false
  notRetired : s.isRackRetired rack = false
  provenance_known : record.reference.evidence.provenance ≠ .unknown
  notReconstructed : record.reference.evidence.provenance ≠ .reconstructed

structure RackOk (rack : RackId) (record : RackRecord) : Prop where
  rack_eq : record.reference.rack = rack
  generation : record.reference.generation.known = true
  endpoints_le : record.reference.endpoints.length ≤ maxRackEndpoints
  hints_le : record.reference.failureDomainHints.length ≤ maxFailureDomainRefs
  undecided : record.membership = .unknown → record.authoritativeCurrent = false ∧
    (record.reference.currentness = .unknown ∨
      record.reference.currentness = .revalidationRequired)
  membership_le : record.membershipGeneration.value ≤ s.membershipGeneration.value
  authority : record.authoritativeCurrent = true → AuthorityOk s rack record

structure LinkOk (id : InterRackLinkId) (link : InterRackLink) : Prop where
  id_eq : link.id = id
  source_member : s.isRackMember link.source = true
  destination_member : s.isRackMember link.destination = true
  no_loop : link.source ≠ link.destination
  direction_ne : link.direction ≠ .unknown
  /-- A link of a superseded epoch claims nothing. -/
  superseded : link.topologyEpoch ≠ s.topologyEpoch →
    link.header.evidence.requiresRevalidation = true ∧ link.reachability ≠ .reachable ∧
      link.reachability ≠ .unreachable ∧ link.health = .unknown
  generation_le : link.topologyGeneration.value ≤ s.topologyGeneration.value
  failureDomains : ∀ domain ∈ link.failureDomains, s.failureDomains.contains domain = true

structure DomainOk {k : DomainKind} (domain : Domain k) : Prop where
  class_ne : Domain.classRaw k domain ≠ 0
  members : ∀ rack ∈ domain.racks, s.isRackMember rack = true
  sorted : domain.racks.Pairwise (· < ·)

structure WithdrawnOk : Prop where
  sorted : s.withdrawnRacks.Pairwise (· < ·)
  listed : ∀ rack ∈ s.withdrawnRacks,
    (s.racks.find? rack).map RackRecord.membership = some .withdrawn
  complete : ∀ rack record, s.racks.find? rack = some record → record.membership = .withdrawn →
    rack ∈ s.withdrawnRacks

/-- What the checker asks of the recorded maps and lists. -/
structure Filed : Prop where
  counts : CountsOk s
  racks : ∀ rack record, s.racks.find? rack = some record → RackOk s rack record
  links : ∀ id link, s.links.find? id = some link → LinkOk s id link
  domains : ∀ k id domain, (s.domains k).find? id = some domain → DomainOk s domain
  aggregates : ∀ k id domain, (s.domains k).find? id = some domain →
    domain.header.generation.value ≤ (s.domainGenerations k).value
  constraints : ∀ id constraint, s.constraints.find? id = some constraint →
    ∀ rack ∈ constraint.racks, s.isRackMember rack = true
  withdrawn : WithdrawnOk s
  fencedSorted : s.fencedAuthorities.Pairwise fun a b => a.boot < b.boot
  retiredSorted : s.retiredRacks.Pairwise fun a b => a.rack < b.rack

/-- Everything that the checker asks of canonical state. -/
structure Healthy [StdSort] : Prop extends Filed s where
  scalars : ScalarsOk s
  ready : s.lifecycle = .ready → (evaluateReadiness s).satisfied = true
  retired : s.lifecycle = .retired →
    ∀ rack record, s.racks.find? rack = some record → record.authoritativeCurrent = false
  snapshot_le : s.snapshotGeneration.value ≤ s.publicationGeneration.value

end Statements

/-! ## Each check finds what its statement denies -/

section Checks

variable {s : ClusterState}

theorem checkScalars_eq_nil : checkScalars s = [] ↔ ScalarsOk s := by
  simp only [checkScalars, List.append_eq_nil_iff, violated_eq_nil, flag_eq_nil, Bool.not_eq_true,
    Bool.not_eq_eq_eq_not, Bool.not_true, Bool.not_eq_false, not_not, not_lt]
  constructor
  · rintro ⟨⟨⟨⟨⟨⟨⟨⟨⟨⟨h₁, h₂⟩, h₃⟩, h₄⟩, h₅⟩, h₆⟩, h₇⟩, h₈⟩, h₉⟩, h₁₀⟩, h₁₁⟩
    exact ⟨h₁, h₂, h₃, h₄, h₅, h₆, h₇, h₈, h₉, h₁₀, h₁₁⟩
  · rintro ⟨h₁, h₂, h₃, h₄, h₅, h₆, h₇, h₈, h₉, h₁₀, h₁₁⟩
    exact ⟨⟨⟨⟨⟨⟨⟨⟨⟨⟨h₁, h₂⟩, h₃⟩, h₄⟩, h₅⟩, h₆⟩, h₇⟩, h₈⟩, h₉⟩, h₁₀⟩, h₁₁⟩

theorem checkCounts_eq_nil : checkCounts s = [] ↔ CountsOk s := by
  simp only [checkCounts, List.append_eq_nil_iff, violated_eq_nil, not_lt, List.any_eq_true,
    not_exists, not_and, decide_eq_true_eq]
  constructor
  · rintro ⟨⟨⟨hracks, hlinks⟩, hconstraints⟩, hdomains⟩
    exact ⟨hracks, hlinks, hconstraints, fun k => hdomains k (DomainKind.mem_all k)⟩
  · rintro ⟨hracks, hlinks, hconstraints, hdomains⟩
    exact ⟨⟨⟨hracks, hlinks⟩, hconstraints⟩, fun k _ => hdomains k⟩

theorem checkRack_eq_nil {rack : RackId} {record : RackRecord} :
    checkRack s rack record = [] ↔ RackOk s rack record := by
  have hzero : record.reference.generation.isZero = !record.reference.generation.known := by
    simp [StrongCounter.known, StrongCounter.isZero, bne]
  have hauthority :
      ((if !record.authoritativeCurrent then []
        else
          violated record.reference.generation.isZero .rackGenerationAuthoritative
            (rackSubject rack) "authoritative rack has an unknown generation" ++
          violated (s.isBootFenced record.reference.boot) .rackNotFenced (rackSubject rack)
            "authoritative rack is published under a fenced process incarnation" ++
          violated (s.isRackRetired rack) .rackNotRetired (rackSubject rack)
            "retired rack is still authoritative current" ++
          violated (record.reference.evidence.provenance = .unknown) .unknownNeverPositive
            (rackSubject rack) "authoritative rack carries UNKNOWN provenance" ++
          violated (record.reference.evidence.provenance = .reconstructed)
            .recoveredEvidenceNotCurrent (rackSubject rack)
            "recovered rack evidence is marked authoritative current") = []) ↔
        (record.authoritativeCurrent = true →
          record.reference.generation.known = true ∧ AuthorityOk s rack record) := by
    cases record.authoritativeCurrent with
    | false => simp
    | true =>
      simp only [Bool.not_true, Bool.false_eq_true, if_false, List.append_eq_nil_iff,
        violated_eq_nil, hzero, Bool.not_eq_true, Bool.not_eq_eq_eq_not, Bool.not_eq_false,
        forall_const]
      constructor
      · rintro ⟨⟨⟨⟨hknown, hfenced⟩, hretired⟩, hunknown⟩, hreconstructed⟩
        exact ⟨hknown, hfenced, hretired, hunknown, hreconstructed⟩
      · rintro ⟨hknown, hfenced, hretired, hunknown, hreconstructed⟩
        exact ⟨⟨⟨⟨hknown, hfenced⟩, hretired⟩, hunknown⟩, hreconstructed⟩
  unfold checkRack
  dsimp only
  rw [List.append_eq_nil_iff, hauthority]
  simp only [List.append_eq_nil_iff, violated_eq_nil, Bool.not_eq_true, Bool.not_eq_eq_eq_not,
    Bool.not_true, Bool.not_eq_false, not_not, not_lt, not_and]
  constructor
  · rintro ⟨⟨⟨⟨⟨⟨⟨hrack, hknown⟩, hendpoints⟩, hhints⟩, hcurrent⟩, hdecided⟩, hmembership⟩, hauth⟩
    refine ⟨hrack, hknown, hendpoints, hhints, fun h => ⟨hcurrent h, ?_⟩, hmembership,
      fun h => (hauth h).2⟩
    exact or_iff_not_imp_left.mpr (hdecided h)
  · rintro ⟨hrack, hknown, hendpoints, hhints, hundecided, hmembership, hauth⟩
    refine ⟨⟨⟨⟨⟨⟨⟨hrack, hknown⟩, hendpoints⟩, hhints⟩, fun h => (hundecided h).1⟩, ?_⟩,
      hmembership⟩, fun h => ⟨hknown, hauth h⟩⟩
    exact fun h => or_iff_not_imp_left.mp (hundecided h).2

theorem checkLink_eq_nil {id : InterRackLinkId} : checkLink s id link = [] ↔ LinkOk s id link := by
  simp only [checkLink, List.append_eq_nil_iff, violated_eq_nil, flag_eq_nil,
    List.flatMap_eq_nil_iff, Bool.not_eq_eq_eq_not, Bool.not_true, Bool.not_eq_false, not_not,
    not_lt, not_and, not_or]
  constructor
  · rintro ⟨⟨⟨⟨⟨⟨⟨⟨hid, hsource⟩, hdestination⟩, hloop⟩, hdirection⟩, hevidence⟩, hclaims⟩,
      hgeneration⟩,
      hdomains⟩
    exact ⟨hid, hsource, hdestination, hloop, hdirection, fun h => ⟨hevidence h, hclaims h⟩,
      hgeneration, hdomains⟩
  · rintro ⟨hid, hsource, hdestination, hloop, hdirection, hsuperseded, hgeneration, hdomains⟩
    exact ⟨⟨⟨⟨⟨⟨⟨⟨hid, hsource⟩, hdestination⟩, hloop⟩, hdirection⟩, fun h => (hsuperseded h).1⟩,
      fun h => (hsuperseded h).2⟩, hgeneration⟩, hdomains⟩

theorem sortedUnique_iff {values : List RackId} :
    sortedUnique values = true ↔ values.Pairwise (· < ·) := isSorted_and_noAdjacentEqual

theorem checkDomain_eq_nil {id : DomainId k} {domain : Domain k} :
    checkDomain s id domain = [] ↔ DomainOk s domain := by
  simp only [checkDomain, List.append_eq_nil_iff, violated_eq_nil, flag_eq_nil,
    List.flatMap_eq_nil_iff, Bool.not_eq_eq_eq_not, Bool.not_true, Bool.not_eq_false,
    sortedUnique_iff]
  constructor
  · rintro ⟨⟨hclass, hmembers⟩, hsorted⟩
    exact ⟨hclass, hmembers, hsorted⟩
  · rintro ⟨hclass, hmembers, hsorted⟩
    exact ⟨⟨hclass, hmembers⟩, hsorted⟩

theorem checkDomains_eq_nil :
    (DomainKind.all.flatMap fun k =>
      (s.domains k).entries.flatMap fun (id, domain) => checkDomain s id domain) = [] ↔
      ∀ k id domain, (s.domains k).find? id = some domain → DomainOk s domain := by
  rw [List.flatMap_eq_nil_iff]
  constructor
  · intro h k id domain hfind
    have hk := StdMap.flatMap_entries_eq_nil.mp (h k (DomainKind.mem_all k)) id domain hfind
    exact checkDomain_eq_nil.mp hk
  · intro h k _
    refine StdMap.flatMap_entries_eq_nil.mpr fun id domain hfind => ?_
    exact checkDomain_eq_nil.mpr (h k id domain hfind)

theorem foldl_max_le {α : Type} {f : α → Nat} {l : List α} {start bound : Nat} :
    l.foldl (fun value a => max value (f a)) start ≤ bound ↔
      start ≤ bound ∧ ∀ a ∈ l, f a ≤ bound := by
  induction l generalizing start with
  | nil => simp
  | cons a l ih =>
    rw [List.foldl_cons, ih, Nat.max_le]
    simp [and_assoc]

theorem checkDomainGeneration_eq_nil :
    checkDomainGeneration s k = [] ↔ ∀ id domain, (s.domains k).find? id = some domain →
      domain.header.generation.value ≤ (s.domainGenerations k).value := by
  rw [checkDomainGeneration, flag_eq_nil, not_lt, maxGeneration, foldl_max_le]
  constructor
  · rintro ⟨-, h⟩ id domain hfind
    exact h domain (StdMap.mem_values_iff.mpr ⟨id, hfind⟩)
  · intro h
    refine ⟨Nat.zero_le _, fun domain hdomain => ?_⟩
    obtain ⟨id, hfind⟩ := StdMap.mem_values_iff.mp hdomain
    exact h id domain hfind

theorem checkConstraint_eq_nil {id : ConstraintId} {constraint : ClusterConstraint} :
    checkConstraint s id constraint = [] ↔
      ∀ rack ∈ constraint.racks, s.isRackMember rack = true := by
  simp [checkConstraint]

theorem checkWithdrawn_eq_nil : checkWithdrawn s = [] ↔ WithdrawnOk s := by
  rw [checkWithdrawn, List.append_eq_nil_iff, List.append_eq_nil_iff,
    StdMap.flatMap_entries_eq_nil]
  simp only [violated_eq_nil, List.flatMap_eq_nil_iff, Bool.not_eq_eq_eq_not, Bool.not_true,
    Bool.not_eq_false, sortedUnique_iff, not_not, not_and]
  constructor
  · rintro ⟨⟨hsorted, hlisted⟩, hcomplete⟩
    refine ⟨hsorted, hlisted, fun rack record hfind hmembership => ?_⟩
    exact (binarySearch_iff hsorted rack).mp (hcomplete rack record hfind hmembership)
  · rintro ⟨hsorted, hlisted, hcomplete⟩
    refine ⟨⟨hsorted, hlisted⟩, fun rack record hfind hmembership => ?_⟩
    exact (binarySearch_iff hsorted rack).mpr (hcomplete rack record hfind hmembership)

/-- The second check of fenced authorities repeats one that every rack has
passed. -/
theorem checkFenced_eq_nil
    (hracks : ∀ rack record, s.racks.find? rack = some record → RackOk s rack record) :
    checkFenced s = [] ↔ s.fencedAuthorities.Pairwise fun a b => a.boot < b.boot := by
  have hcurrent : (s.fencedAuthorities.flatMap fun fenced =>
      violated ((s.racks.find? fenced.rack).any fun record =>
          record.authoritativeCurrent && record.reference.boot == fenced.boot)
        .rackNotFenced (rackSubject fenced.rack)
        "fenced process incarnation is still authoritative current") = [] := by
    refine List.flatMap_eq_nil_iff.mpr fun fenced hfenced => violated_eq_nil.mpr fun hany => ?_
    obtain ⟨record, hfind, hcurrent, hboot⟩ : ∃ record, s.racks.find? fenced.rack = some record ∧
        record.authoritativeCurrent = true ∧ record.reference.boot = fenced.boot := by
      simpa [Option.any_eq_true] using hany
    have hnot := ((hracks _ _ hfind).authority hcurrent).notFenced
    have hlisted : s.isBootFenced record.reference.boot = true :=
      ClusterState.isBootFenced_iff.mpr (hboot ▸ List.mem_map_of_mem hfenced)
    simp [hnot] at hlisted
  rw [checkFenced, List.append_eq_nil_iff, violated_eq_nil, ← adjacent_lt_iff FencedAuthority.boot]
  simp [hcurrent]

theorem checkRetired_eq_nil :
    checkRetired s = [] ↔ s.retiredRacks.Pairwise fun a b => a.rack < b.rack := by
  rw [checkRetired, violated_eq_nil, ← adjacent_lt_iff RetiredIdentity.rack]
  simp

theorem checkLifecycle_eq_nil [StdSort] :
    checkLifecycle s = [] ↔
      (s.lifecycle = .ready → (evaluateReadiness s).satisfied = true) ∧
        (s.lifecycle = .retired → ∀ rack record, s.racks.find? rack = some record →
          record.authoritativeCurrent = false) := by
  simp only [checkLifecycle, List.append_eq_nil_iff, violated_eq_nil,
    StdMap.flatMap_entries_eq_nil, not_and, Bool.not_eq_true, Bool.not_eq_false]
  constructor
  · rintro ⟨hready, hretired⟩
    exact ⟨hready, fun h rack record hfind => hretired rack record hfind h⟩
  · rintro ⟨hready, hretired⟩
    exact ⟨hready, fun rack record hfind h => hretired h rack record hfind⟩

theorem checkSnapshot_eq_nil :
    checkSnapshot s = [] ↔ s.snapshotGeneration.value ≤ s.publicationGeneration.value := by
  rw [checkSnapshot, violated_eq_nil, not_lt]

theorem stateViolations_eq_nil [StdSort] : stateViolations s = [] ↔ Healthy s := by
  simp only [stateViolations, List.append_eq_nil_iff, StdMap.flatMap_entries_eq_nil,
    checkDomains_eq_nil]
  simp only [List.flatMap_eq_nil_iff, checkScalars_eq_nil, checkCounts_eq_nil, checkRack_eq_nil,
    checkLink_eq_nil, checkDomainGeneration_eq_nil, checkConstraint_eq_nil, checkWithdrawn_eq_nil,
    checkRetired_eq_nil, checkLifecycle_eq_nil, checkSnapshot_eq_nil]
  constructor
  · rintro ⟨⟨⟨⟨⟨⟨⟨⟨⟨⟨⟨hscalars, hcounts⟩, hracks⟩, hlinks⟩, hdomains⟩, haggregates⟩, hconstraints⟩,
      hwithdrawn⟩, hfenced⟩, hretired⟩, hready, hauthority⟩, hsnapshot⟩
    exact ⟨⟨hcounts, hracks, hlinks, hdomains, fun k => haggregates k (DomainKind.mem_all k),
      hconstraints, hwithdrawn, (checkFenced_eq_nil hracks).mp hfenced, hretired⟩, hscalars, hready,
      hauthority, hsnapshot⟩
  · intro h
    exact ⟨⟨⟨⟨⟨⟨⟨⟨⟨⟨⟨h.scalars, h.counts⟩, h.racks⟩, h.links⟩, h.domains⟩,
      fun k _ => h.aggregates k⟩, h.constraints⟩, h.withdrawn⟩,
      (checkFenced_eq_nil h.racks).mpr h.fencedSorted⟩, h.retiredSorted⟩, h.ready, h.retired⟩,
      h.snapshot_le⟩

theorem isOk_finish [StdSort] {violations : List InvariantViolation} :
    (InvariantReport.finish violations).isOk = true ↔ violations = [] := by
  rw [InvariantReport.isOk, InvariantReport.finish, List.isEmpty_iff, sort_eq_nil]

/-- **What the checker checks.** -/
theorem checkInvariants_isOk [StdSort] :
    (checkInvariants s none).isOk = true ↔ s.isVacant = true ∨ Healthy s := by
  unfold checkInvariants
  split_ifs with hvacant
  · exact iff_of_true rfl (.inl hvacant)
  · rw [isOk_finish, List.append_nil, stateViolations_eq_nil]
    simp [hvacant]

end Checks

/-! ## Rebuilt indexes -/

section Indexes

variable [StdSort] {s : ClusterState}

theorem sortBy_nil {α κ : Type} [LinearOrder κ] (key : α → κ) : sortBy key [] = [] :=
  sort_eq_nil.mpr rfl

/-- The member lists of a rebuilt index are those of the records. -/
theorem checkMemberIndex_memberIndex (domains : StdMap (DomainId k) (Domain k)) :
    checkMemberIndex domains (memberIndex domains) = [] := by
  refine StdMap.flatMap_entries_eq_nil.mpr fun id domain hfind => violated_eq_nil.mpr ?_
  simp [StdMap.listAt, memberIndex, hfind]

omit [StdSort] in
/-- A strictly sorted list has each element once. -/
theorem filter_eq_of_pairwise {l : List RackId} (hl : l.Pairwise (· < ·)) (rack : RackId) :
    (l.filter fun r => r = rack) = if rack ∈ l then [rack] else [] := by
  have hnodup : l.Nodup := hl.imp fun h => h.ne
  rw [List.filter_eq, hnodup.count]
  split_ifs <;> rfl

/-- The keys of selected entries are sorted already. -/
theorem sortBy_map_fst {K V : Type} [LinearOrder K] (m : StdMap K V) (p : K × V → Bool) :
    sortBy (fun k => k) ((m.entries.filter p).map Prod.fst) = (m.entries.filter p).map Prod.fst :=
  sortBy_eq_self (List.pairwise_map.mpr (m.sorted.filter p))

/-- A rack finds the domains of which it is a member, in the order of the map. -/
theorem listAt_membershipIndex (domains : StdMap (DomainId k) (Domain k)) (rack : RackId) :
    (membershipIndex domains).listAt rack =
      (domains.entries.filter fun e => decide (rack ∈ e.2.racks)).map Prod.fst := by
  -- Each domain pushes its identity once, if the rack is a member.
  have hone : ∀ e : DomainId k × Domain k,
      (((sortUnique e.2.racks).map fun r => (r, e.1)).filter fun e => e.1 = rack).map Prod.snd =
        if rack ∈ e.2.racks then [e.1] else [] := by
    intro e
    rw [List.filter_map]
    change (((sortUnique e.2.racks).filter fun r => r = rack).map _).map _ = _
    rw [filter_eq_of_pairwise (sortUnique_strict _)]
    simp only [mem_sortUnique]
    split_ifs <;> rfl
  have hpushed : ∀ l : List (DomainId k × Domain k),
      ((l.flatMap fun (id, domain) =>
        (sortUnique domain.racks).map fun rack => (rack, id)).filter
          fun e => e.1 = rack).map Prod.snd =
        (l.filter fun e => decide (rack ∈ e.2.racks)).map Prod.fst := by
    intro l
    induction l with
    | nil => rfl
    | cons e l ih =>
      rw [List.flatMap_cons, List.filter_append, List.map_append, ih, hone, List.filter_cons]
      by_cases hmember : rack ∈ e.2.racks <;> simp [hmember]
  rw [membershipIndex, StdMap.listAt_mapValues _ fun _ => sortBy_nil _, StdMap.listAt_pushAll,
    hpushed domains.entries]
  exact sortBy_map_fst domains _

theorem checkMembershipIndex_membershipIndex {domains : StdMap (DomainId k) (Domain k)}
    (hsorted : ∀ id domain, domains.find? id = some domain → domain.racks.Pairwise (· < ·))
    (rack : RackId) (detail : String) :
    checkMembershipIndex domains (membershipIndex domains) rack detail = [] := by
  rw [checkMembershipIndex, violated_eq_nil, not_not, listAt_membershipIndex]
  refine congrArg (List.map Prod.fst) (List.filter_congr fun e he => ?_)
  have hmembers := hsorted e.1 e.2 (StdMap.mem_entries_iff.mp he)
  rw [Bool.eq_iff_iff, decide_eq_true_eq, binarySearch_iff hmembers]

/-- An end finds the links that have it, in the order of the map. -/
theorem listAt_linkIndex (links : StdMap InterRackLinkId InterRackLink)
    (endpoint : InterRackLink → RackId) (rack : RackId) :
    (linkIndex links endpoint).listAt rack =
      (links.entries.filter fun e => decide (endpoint e.2 = rack)).map Prod.fst := by
  rw [linkIndex, StdMap.listAt_mapValues _ fun _ => sortBy_nil _, StdMap.listAt_pushAll,
    List.filter_map, List.map_map]
  exact sortBy_map_fst links _

/-- A rebuilt link index finds every link under its end. -/
theorem binarySearch_linkIndex {links : StdMap InterRackLinkId InterRackLink}
    {endpoint : InterRackLink → RackId} {id : InterRackLinkId}
    (hfind : links.find? id = some link) :
    binarySearch ((linkIndex links endpoint).listAt (endpoint link)) id = true := by
  rw [listAt_linkIndex, binarySearch_iff (List.pairwise_map.mpr (links.sorted.filter _)),
    List.mem_map]
  refine ⟨(id, link), List.mem_filter.mpr ⟨StdMap.mem_entries_iff.mpr hfind, ?_⟩, rfl⟩
  exact decide_eq_true rfl

omit [StdSort] in
theorem checkRackIndex_rackIndex {K : Type} [LinearOrder K] (s : ClusterState)
    (keyOf : RackRecord → K) (subject : K → Text) (detail : String) :
    checkRackIndex s keyOf (rackIndex s.racks keyOf) subject detail = [] := by
  have hnone : ((rackIndex s.racks keyOf).entries.find? fun e =>
      (rackIndex s.racks keyOf).listAt e.1 != e.2) = none := by
    refine List.find?_eq_none.mpr fun e he => ?_
    have hfind := StdMap.mem_entries_iff.mp he
    simp [StdMap.listAt, hfind]
  rw [checkRackIndex, hnone]

/-- Indexes rebuilt from domains with sorted members agree with them. -/
theorem indexViolations_rebuild
    (hsorted : ∀ k id domain, (s.domains k).find? id = some domain →
      domain.racks.Pairwise (· < ·)) : indexViolations s (.rebuild s) = [] := by
  have hmembership := fun k => checkMembershipIndex_membershipIndex (hsorted k)
  have hlinks : ∀ id link, s.links.find? id = some link →
      violated (binarySearch ((linkIndex s.links InterRackLink.source).listAt link.source) id =
          false) .indexMatchesCanonical (linkSubject id) "source index is missing this link" ++
        violated (binarySearch ((linkIndex s.links InterRackLink.destination).listAt
            link.destination) id = false) .indexMatchesCanonical (linkSubject id)
          "destination index is missing this link" = [] := by
    intro id link hfind
    rw [List.append_eq_nil_iff, violated_eq_nil, violated_eq_nil, Bool.not_eq_false,
      Bool.not_eq_false]
    exact ⟨binarySearch_linkIndex hfind, binarySearch_linkIndex hfind⟩
  simp only [indexViolations, ClusterIndexes.rebuild, checkMemberIndex_memberIndex,
    checkRackIndex_rackIndex, hmembership, List.append_nil, List.nil_append]
  refine List.append_eq_nil_iff.mpr ⟨?_, StdMap.flatMap_entries_eq_nil.mpr hlinks⟩
  exact StdMap.flatMap_entries_eq_nil.mpr fun _ _ _ => rfl

/-- Rebuilt indexes add nothing to a report. -/
theorem checkInvariants_rebuild :
    (checkInvariants s (some (.rebuild s))).isOk = true ↔ s.isVacant = true ∨ Healthy s := by
  unfold checkInvariants
  split_ifs with hvacant
  · exact iff_of_true rfl (.inl hvacant)
  · rw [isOk_finish, List.append_eq_nil_iff, stateViolations_eq_nil]
    simp only [hvacant, Bool.false_eq_true, false_or, and_iff_left_iff_imp]
    intro hhealthy
    have hindexes := indexViolations_rebuild fun k id domain hfind =>
      (hhealthy.domains k id domain hfind).sorted
    exact sort_eq_nil.mpr hindexes

end Indexes

end ClusterFabric
