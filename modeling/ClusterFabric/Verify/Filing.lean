import ClusterFabric.Verify.History

/-! # Records in order

What the checker asks of the recorded maps and lists, and that a mutation which passed
its gate leaves them in order. What refers to a rack or to a domain keeps what it
refers to, since a mutation only widens what resolves (`Widens`).
-/

namespace ClusterFabric

open Lib

variable {links : StdMap InterRackLinkId InterRackLink} {t : TopologyGeneration}
  {f : InterRackLink → InterRackLink} {c : ConnectivityGeneration} {k : DomainKind}
  {request : MutationRequest} {link : InterRackLink} {limit : Nat} {domain : Domain k}
  {active : Prop}

/-! ## Records -/

/-- Whatever resolves in `s` resolves in `s'`, and no bound of `s'` is lower. -/
structure Widens (s s' : ClusterState) : Prop where
  members : ∀ rack, s.isRackMember rack = true → s'.isRackMember rack = true
  failureDomains : ∀ id, s.failureDomains.contains id = true → s'.failureDomains.contains id = true
  membershipGeneration_le : s.membershipGeneration.value ≤ s'.membershipGeneration.value
  topologyGeneration_le : s.topologyGeneration.value ≤ s'.topologyGeneration.value
  fencedAuthorities : s'.fencedAuthorities = s.fencedAuthorities

section Widening

variable {s s' : ClusterState}

theorem Widens.rackOk (h : Widens s s') {rack : RackId} {record : RackRecord}
    (hretired : s'.isRackRetired rack = s.isRackRetired rack) (hok : RackOk s rack record) :
    RackOk s' rack record := by
  refine ⟨hok.rack_eq, hok.generation, hok.endpoints_le, hok.hints_le, hok.undecided, ?_, ?_⟩
  · exact hok.membership_le.trans h.membershipGeneration_le
  · intro hcurrent
    have hauthority := hok.authority hcurrent
    refine ⟨?_, ?_, hauthority.provenance_known, hauthority.notReconstructed⟩
    · rw [ClusterState.isBootFenced, h.fencedAuthorities]
      exact hauthority.notFenced
    · rw [hretired]
      exact hauthority.notRetired

theorem Widens.linkOk (h : Widens s s') (hepoch : s'.topologyEpoch = s.topologyEpoch)
    {id : InterRackLinkId} (hok : LinkOk s id link) : LinkOk s' id link where
  id_eq := hok.id_eq
  source_member := h.members _ hok.source_member
  destination_member := h.members _ hok.destination_member
  no_loop := hok.no_loop
  direction_ne := hok.direction_ne
  superseded := hepoch ▸ hok.superseded
  generation_le := hok.generation_le.trans h.topologyGeneration_le
  failureDomains := fun domain hdomain => h.failureDomains _ (hok.failureDomains domain hdomain)

theorem Widens.domainOk (h : Widens s s') (hok : DomainOk s domain) : DomainOk s' domain :=
  ⟨hok.class_ne, fun rack hrack => h.members rack (hok.members rack hrack), hok.sorted⟩

end Widening

/-! ## Writing a rack -/

/-- The withdrawn list lists exactly the withdrawn racks. -/
theorem withdrawnOk_iff {s : ClusterState} :
    WithdrawnOk s ↔ s.withdrawnRacks.Pairwise (· < ·) ∧ ∀ rack, rack ∈ s.withdrawnRacks ↔
      (s.racks.find? rack).map RackRecord.membership = some .withdrawn := by
  constructor
  · rintro ⟨hsorted, hlisted, hcomplete⟩
    refine ⟨hsorted, fun rack => ⟨hlisted rack, fun hmembership => ?_⟩⟩
    obtain ⟨record, hfind, hwithdrawn⟩ := Option.map_eq_some_iff.mp hmembership
    exact hcomplete rack record hfind hwithdrawn
  · rintro ⟨hsorted, hlists⟩
    refine ⟨hsorted, fun rack => (hlists rack).mp, fun rack record hfind hwithdrawn => ?_⟩
    exact (hlists rack).mpr (by rw [hfind, Option.map_some, hwithdrawn])

/-- `s'` is `s` with the record of one rack written. Links and lists of racks may
differ too. -/
structure AssignsRack (s s' : ClusterState) (rack : RackId) (record : RackRecord) : Prop where
  racks : s'.racks = s.racks.insertOrAssign rack record
  domains : s'.domains = s.domains
  domainGenerations : s'.domainGenerations = s.domainGenerations
  constraints : s'.constraints = s.constraints
  fencedAuthorities : s'.fencedAuthorities = s.fencedAuthorities
  topologyEpoch : s'.topologyEpoch = s.topologyEpoch
  topologyGeneration : s'.topologyGeneration = s.topologyGeneration
  membershipGeneration_le : s.membershipGeneration.value ≤ s'.membershipGeneration.value
  /-- Nothing that refers to the rack loses it. -/
  member : s.isRackMember rack = true → record.membership ≠ .unknown

namespace AssignsRack

variable {s s' : ClusterState} {rack : RackId} {record : RackRecord}

theorem find? (h : AssignsRack s s' rack record) (r : RackId) :
    s'.racks.find? r = if rack = r then some record else s.racks.find? r := by
  rw [h.racks, StdMap.find?_insertOrAssign]

theorem widens (h : AssignsRack s s' rack record) : Widens s s' where
  members := fun r hmember => by
    rw [isRackMember_eq, h.find?]
    split_ifs with hr
    · subst hr
      simpa using h.member hmember
    · rw [← isRackMember_eq]
      exact hmember
  failureDomains := fun id hid => by
    rw [ClusterState.failureDomains, h.domains]
    exact hid
  membershipGeneration_le := h.membershipGeneration_le
  topologyGeneration_le := h.topologyGeneration ▸ le_refl _
  fencedAuthorities := h.fencedAuthorities

/-- What is left to show of a state in which one rack was written. -/
theorem filed (hfiled : Filed s) (h : AssignsRack s s' rack record) (hok : RackOk s' rack record)
    (hsize : s'.racks.size ≤ maxRacksPerCluster) (hlinksSize : s'.links.size ≤ maxInterRackLinks)
    (hlinks : ∀ id link, s'.links.find? id = some link →
      s.links.find? id = some link ∨ LinkOk s' id link)
    (hretired : ∀ r, r ≠ rack → s'.isRackRetired r = s.isRackRetired r)
    (hretiredSorted : s'.retiredRacks.Pairwise fun a b => a.rack < b.rack)
    (hsorted : s'.withdrawnRacks.Pairwise (· < ·))
    (hwithdrawn : ∀ r, r ∈ s'.withdrawnRacks ↔
      if rack = r then record.membership = .withdrawn else r ∈ s.withdrawnRacks) : Filed s' where
  counts := by
    refine ⟨hsize, hlinksSize, ?_, fun k => ?_⟩
    · rw [h.constraints]
      exact hfiled.counts.constraints
    · rw [h.domains]
      exact hfiled.counts.domains k
  racks := fun r record' hfind => by
    rw [h.find?] at hfind
    split_ifs at hfind with hr
    · obtain rfl := Option.some.inj hfind
      exact hr ▸ hok
    · exact h.widens.rackOk (hretired r (Ne.symm hr)) (hfiled.racks r record' hfind)
  links := fun id link hfind => by
    rcases hlinks id link hfind with hold | hlinkOk
    · exact h.widens.linkOk h.topologyEpoch (hfiled.links id link hold)
    · exact hlinkOk
  domains := fun k id domain hfind => by
    rw [h.domains] at hfind
    exact h.widens.domainOk (hfiled.domains k id domain hfind)
  aggregates := fun k id domain hfind => by
    rw [h.domains] at hfind
    rw [h.domainGenerations]
    exact hfiled.aggregates k id domain hfind
  constraints := fun id constraint hfind r hr => by
    rw [h.constraints] at hfind
    exact h.widens.members r (hfiled.constraints id constraint hfind r hr)
  withdrawn := by
    refine withdrawnOk_iff.mpr ⟨hsorted, fun r => ?_⟩
    rw [hwithdrawn, h.find?]
    split_ifs with hr
    · simp
    · exact (withdrawnOk_iff.mp hfiled.withdrawn).2 r
  fencedSorted := h.fencedAuthorities ▸ hfiled.fencedSorted
  retiredSorted := hretiredSorted

end AssignsRack

/-- `s'` is `s` up to domains, constraints, links and the topology. -/
structure KeepsRacks (s s' : ClusterState) : Prop where
  racks : s'.racks = s.racks
  withdrawnRacks : s'.withdrawnRacks = s.withdrawnRacks
  retiredRacks : s'.retiredRacks = s.retiredRacks
  fencedAuthorities : s'.fencedAuthorities = s.fencedAuthorities
  membershipGeneration : s'.membershipGeneration = s.membershipGeneration
  topologyGeneration_le : s.topologyGeneration.value ≤ s'.topologyGeneration.value
  failureDomains : ∀ id, s.failureDomains.contains id = true → s'.failureDomains.contains id = true

theorem Filed.domainOk {s : ClusterState} (h : Filed s) {id : DomainId k}
    (hfind : (s.domains k).find? id = some domain) :
    DomainOk s domain ∧ domain.header.generation.value ≤ (s.domainGenerations k).value :=
  ⟨h.domains k id domain hfind, h.aggregates k id domain hfind⟩

namespace KeepsRacks

variable {s s' : ClusterState}

theorem widens (h : KeepsRacks s s') : Widens s s' where
  members := fun rack hmember => by
    rw [isRackMember_eq, h.racks, ← isRackMember_eq]
    exact hmember
  failureDomains := h.failureDomains
  membershipGeneration_le := h.membershipGeneration ▸ le_refl _
  topologyGeneration_le := h.topologyGeneration_le
  fencedAuthorities := h.fencedAuthorities

/-- What is left to show of a state with the same racks: what holds in `s` of a link or a
domain holds in `s'`. -/
theorem filed (hfiled : Filed s) (h : KeepsRacks s s')
    (hlinksSize : s'.links.size ≤ maxInterRackLinks)
    (hconstraintsSize : s'.constraints.size ≤ maxConstraints)
    (hdomainsSize : ∀ k, (s'.domains k).size ≤ maxDomainsPerClass)
    (hlinks : ∀ id link, s'.links.find? id = some link →
      s'.topologyEpoch = s.topologyEpoch ∧ LinkOk s id link ∨ LinkOk s' id link)
    (hdomains : ∀ k id domain, (s'.domains k).find? id = some domain → DomainOk s domain ∧
      domain.header.generation.value ≤ (s'.domainGenerations k).value)
    (hconstraints : ∀ id constraint, s'.constraints.find? id = some constraint →
      ∀ rack ∈ constraint.racks, s.isRackMember rack = true) : Filed s' where
  counts := by
    refine ⟨?_, hlinksSize, hconstraintsSize, hdomainsSize⟩
    rw [h.racks]
    exact hfiled.counts.racks
  racks := fun rack record hfind => by
    rw [h.racks] at hfind
    refine h.widens.rackOk ?_ (hfiled.racks rack record hfind)
    rw [ClusterState.isRackRetired, h.retiredRacks, ClusterState.isRackRetired]
  links := fun id link hfind => by
    rcases hlinks id link hfind with ⟨hepoch, hold⟩ | hlinkOk
    · exact h.widens.linkOk hepoch hold
    · exact hlinkOk
  domains := fun k id domain hfind => h.widens.domainOk (hdomains k id domain hfind).1
  aggregates := fun k id domain hfind => (hdomains k id domain hfind).2
  constraints := fun id constraint hfind rack hrack =>
    h.widens.members rack (hconstraints id constraint hfind rack hrack)
  withdrawn := by
    obtain ⟨hsorted, hlists⟩ := withdrawnOk_iff.mp hfiled.withdrawn
    rw [withdrawnOk_iff, h.withdrawnRacks, h.racks]
    exact ⟨hsorted, hlists⟩
  fencedSorted := h.fencedAuthorities ▸ hfiled.fencedSorted
  retiredSorted := h.retiredRacks ▸ hfiled.retiredSorted

/-- What differs in scalars alone. -/
theorem filed_of_records (h : KeepsRacks s s') (hfiled : Filed s) (hlinks : s'.links = s.links)
    (hdomains : s'.domains = s.domains) (hgenerations : s'.domainGenerations = s.domainGenerations)
    (hconstraints : s'.constraints = s.constraints) (hepoch : s'.topologyEpoch = s.topologyEpoch) :
    Filed s' := by
  refine h.filed hfiled ?_ ?_ ?_ ?_ ?_ ?_
  · exact hlinks ▸ hfiled.counts.links
  · exact hconstraints ▸ hfiled.counts.constraints
  · exact hdomains ▸ hfiled.counts.domains
  · intro id link hfind
    rw [hlinks] at hfind
    exact .inl ⟨hepoch, hfiled.links id link hfind⟩
  · intro k id domain hfind
    rw [hdomains] at hfind
    rw [hgenerations]
    exact hfiled.domainOk hfind
  · exact hconstraints ▸ hfiled.constraints

end KeepsRacks

/-! ## Links -/

/-- Links that were rewritten, or not, are as good as those that may be written. -/
theorem LinksRewritten.linkOk {s s' : ClusterState} {select : InterRackLink → Bool}
    (h : LinksRewritten s active select f links c)
    (hkeep : ∀ id link, s.links.find? id = some link → LinkOk s' id link)
    (hwrite : active → ∀ id link, s.links.find? id = some link → select link = true →
      LinkOk s' id (f link)) :
    links.size = s.links.size ∧ ∀ id link, links.find? id = some link → LinkOk s' id link := by
  rcases h with ⟨hactive, rfl, -⟩ | ⟨-, rfl, -⟩
  · refine ⟨StdMap.size_mapValues _ _, fun id link hfind => ?_⟩
    rw [StdMap.find?_updateWhere, Option.map_eq_some_iff] at hfind
    obtain ⟨link₀, hfind₀, rfl⟩ := hfind
    split_ifs with hselect
    · exact hwrite hactive id link₀ hfind₀ hselect
    · exact hkeep id link₀ hfind₀
  · exact ⟨rfl, hkeep⟩

namespace Filed

variable {s : ClusterState} {rack : RackId} {record : RackRecord}

/-! ## What each mutation leaves -/

section Racks

variable [StdSort] (h : Filed s)

include h

omit [StdSort] in
theorem not_mem_withdrawn (hfind : s.racks.find? rack = none) : rack ∉ s.withdrawnRacks := by
  intro hmem
  have hlisted := h.withdrawn.listed rack hmem
  rw [hfind] at hlisted
  exact nomatch hlisted

omit [StdSort] in
theorem registered (hfind : s.racks.find? rack = none) (hroom : s.racks.size < limit)
    (hlimit : limit ≤ maxRacksPerCluster)
    (hgeneration : (registeredRecord s request rack).reference.generation.known = true) :
    Filed { s with racks := s.racks.insertOrAssign rack (registeredRecord s request rack) } := by
  refine AssignsRack.filed h ⟨rfl, rfl, rfl, rfl, rfl, rfl, rfl, le_refl _, fun hmember => ?_⟩ ?_ ?_
    h.counts.links (fun _ _ hlink => .inl hlink) (fun _ _ => rfl) h.retiredSorted h.withdrawn.sorted
    ?_
  · rw [isRackMember_eq, hfind] at hmember
    exact absurd hmember Bool.false_ne_true
  · exact ⟨rfl, hgeneration, Nat.zero_le _, Nat.zero_le _, fun _ => ⟨rfl, .inl rfl⟩, le_refl _,
      fun hcurrent => absurd hcurrent Bool.false_ne_true⟩
  · exact StdMap.size_insertOrAssign_le h.counts.racks (fun _ => hroom) hlimit _
  · intro r
    split_ifs with hr
    · subst hr
      exact iff_of_false (h.not_mem_withdrawn hfind) nofun
    · exact Iff.rfl

/-- The withdrawn list after a membership change. -/
theorem mem_moveWithdrawn (target : RackMembershipState) (r : RackId) :
    r ∈ moveWithdrawn rack target s.withdrawnRacks ↔
      if rack = r then target = .withdrawn else r ∈ s.withdrawnRacks := by
  have hnodup : s.withdrawnRacks.Nodup := h.withdrawn.sorted.imp fun hlt => hlt.ne
  unfold moveWithdrawn
  split_ifs with htarget hlisted hr hr hr
  · exact iff_of_true (hr ▸ hlisted) htarget
  · exact Iff.rfl
  · exact iff_of_true (by simp [mem_sortBy, hr]) htarget
  · simp [mem_sortBy, Ne.symm hr]
  · exact iff_of_false (hr ▸ hnodup.not_mem_erase) htarget
  · exact List.mem_erase_of_ne (Ne.symm hr)

theorem sorted_moveWithdrawn (rack : RackId) (target : RackMembershipState) :
    (moveWithdrawn rack target s.withdrawnRacks).Pairwise (· < ·) := by
  unfold moveWithdrawn
  split_ifs with htarget hlisted
  · exact h.withdrawn.sorted
  · refine sortBy_strict (List.pairwise_append.mpr ⟨?_, List.pairwise_singleton _ _, ?_⟩)
    · exact h.withdrawn.sorted.imp fun hlt => hlt.ne
    · intro r hr r' hr'
      obtain rfl := List.mem_singleton.mp hr'
      rintro rfl
      exact hlisted hr
  · exact h.withdrawn.sorted.sublist List.erase_sublist

theorem sorted_addRetired (rack : RackId) (generation : RackGeneration) (now : Timestamp)
    (reason : Text) :
    (addRetired rack generation now reason s.retiredRacks).Pairwise fun a b => a.rack < b.rack := by
  unfold addRetired
  split_ifs with hlisted
  · exact h.retiredSorted
  · refine sortBy_strict (List.pairwise_append.mpr ⟨?_, List.pairwise_singleton _ _, ?_⟩)
    · exact h.retiredSorted.imp fun hlt => hlt.ne
    · intro retired hretired entry hentry
      obtain rfl := List.mem_singleton.mp hentry
      intro heq
      exact hlisted (List.any_eq_true.mpr ⟨retired, hretired, by simpa using heq⟩)

omit h in
theorem any_addRetired {r : RackId} (hr : r ≠ rack) (generation : RackGeneration)
    (now : Timestamp) (reason : Text) (retired : List RetiredIdentity) :
    ((addRetired rack generation now reason retired).any fun entry => entry.rack == r) =
      retired.any fun entry => entry.rack == r := by
  unfold addRetired
  split_ifs
  · rfl
  · rw [Bool.eq_iff_iff, List.any_eq_true, List.any_eq_true]
    simp only [mem_sortBy, List.mem_append, List.mem_singleton]
    constructor
    · rintro ⟨entry, hentry | rfl, heq⟩
      · exact ⟨entry, hentry, heq⟩
      · exact absurd (beq_iff_eq.mp heq) (Ne.symm hr)
    · rintro ⟨entry, hentry, heq⟩
      exact ⟨entry, .inl hentry, heq⟩

/-- A rack that leaves loses its authority, and is listed as the lists ask. -/
theorem moved {target : RackMembershipState} {m : MembershipGeneration} (now : Timestamp)
    (reason : Text) (hfind : s.racks.find? rack = some record) (hactive : target ≠ .active)
    (hunknown : target ≠ .unknown) (hm : s.membershipGeneration.value ≤ m.value) :
    Filed
      { s with
        membershipGeneration := m
        withdrawnRacks := moveWithdrawn rack target s.withdrawnRacks
        retiredRacks :=
          if target = .retired then
            addRetired rack record.reference.generation now reason s.retiredRacks
          else s.retiredRacks
        racks := s.racks.insertOrAssign rack
          { movedRecord request target record with membershipGeneration := m } } := by
  have hold := h.racks rack record hfind
  have hmoved : movedRecord request target record =
      { record with
        membership := target
        membershipEvidence := request.evidence
        authoritativeCurrent := false
        reference := { record.reference with currentness := .revalidationRequired }
        nonAuthoritativeReason := text "membership_" ++ target.toText } := if_neg hactive
  rw [hmoved]
  refine AssignsRack.filed h ⟨rfl, rfl, rfl, rfl, rfl, rfl, rfl, hm, fun _ => hunknown⟩ ?_ ?_
    h.counts.links (fun _ _ hlink => .inl hlink) ?_ ?_ (h.sorted_moveWithdrawn rack target)
    (h.mem_moveWithdrawn target)
  · exact ⟨hold.rack_eq, hold.generation, hold.endpoints_le, hold.hints_le,
      fun hundecided => absurd hundecided hunknown, le_refl _,
      fun hcurrent => absurd hcurrent Bool.false_ne_true⟩
  · exact StdMap.size_insertOrAssign_le h.counts.racks (fun hnone => nomatch hnone.symm.trans hfind)
      (le_refl _) _
  · intro r hr
    unfold ClusterState.isRackRetired
    dsimp only
    split_ifs
    · exact any_addRetired hr _ _ _ _
    · rfl
  · dsimp only
    split_ifs
    · exact h.sorted_addRetired rack _ now reason
    · exact h.retiredSorted

omit [StdSort] in
/-- New evidence of a member: its record and the links that touch it are rewritten. -/
theorem reported {record' : RackRecord} (g : HealthGeneration)
    (hfind : s.racks.find? rack = some record)
    (hmembership : record'.membership = record.membership) (hok : RackOk s rack record')
    (hlinks : LinksRewritten s active (InterRackLink.touches rack) f links c)
    (hwrite : active → ∀ id link, s.links.find? id = some link →
      InterRackLink.touches rack link = true → LinkOk s id (f link)) :
    Filed
      { s with
        racks := s.racks.insertOrAssign rack record'
        links := links
        connectivityGeneration := c
        healthGeneration := g } := by
  have hassigns : AssignsRack s
      { s with
        racks := s.racks.insertOrAssign rack record'
        links := links
        connectivityGeneration := c
        healthGeneration := g } rack record' := by
    refine ⟨rfl, rfl, rfl, rfl, rfl, rfl, rfl, le_refl _, fun hmember => ?_⟩
    rw [isRackMember_eq, hfind] at hmember
    simpa [hmembership] using hmember
  obtain ⟨hsize, hlinks⟩ := hlinks.linkOk h.links hwrite
  refine hassigns.filed h (hassigns.widens.rackOk rfl hok) ?_ (hsize ▸ h.counts.links)
    (fun id link hlink => .inr (hassigns.widens.linkOk rfl (hlinks id link hlink)))
    (fun _ _ => rfl) h.retiredSorted h.withdrawn.sorted fun r => ?_
  · exact StdMap.size_insertOrAssign_le h.counts.racks (fun hnone => nomatch hnone.symm.trans hfind)
      (le_refl _) _
  · split_ifs with hr
    · subst hr
      rw [(withdrawnOk_iff.mp h.withdrawn).2 rack, hfind, hmembership]
      exact Option.some_inj
    · exact Iff.rfl

omit [StdSort] in
theorem rackOk_withdrawnEvidence (hfind : s.racks.find? rack = some record) :
    RackOk s rack (withdrawnEvidenceRecord record) := by
  have hold := h.racks rack record hfind
  exact ⟨hold.rack_eq, hold.generation, hold.endpoints_le, hold.hints_le,
    fun _ => ⟨rfl, .inr rfl⟩, hold.membership_le,
    fun hcurrent => absurd hcurrent Bool.false_ne_true⟩

omit [StdSort] in
theorem linkOk_withdrawnEvidence {id : InterRackLinkId} (hfind : s.links.find? id = some link) :
    LinkOk s id (withdrawnEvidenceLink link) := by
  have hold := h.links id link hfind
  exact { hold with
    superseded := fun hepoch =>
      ⟨EvidenceStamp.requiresRevalidation_markRevalidationRequired _, nofun, nofun,
        (hold.superseded hepoch).2.2.2⟩ }

omit [StdSort] in
/-- Retiring the cluster takes the authority of every rack. -/
theorem clusterRetired :
    Filed
      { s with
        lifecycle := .retired
        racks := s.racks.updateWhere (fun record => record.authoritativeCurrent)
          retiredClusterRack } := by
  have hfind (rack : RackId) :
      (s.racks.updateWhere (fun record => record.authoritativeCurrent) retiredClusterRack).find?
        rack = (s.racks.find? rack).map fun record =>
          if record.authoritativeCurrent then retiredClusterRack record else record :=
    StdMap.find?_updateWhere _ _ _ _
  have hmembership (rack : RackId) :
      ((s.racks.updateWhere (fun record => record.authoritativeCurrent) retiredClusterRack).find?
        rack).map RackRecord.membership = (s.racks.find? rack).map RackRecord.membership := by
    rw [hfind, Option.map_map]
    refine congrArg (fun f => (s.racks.find? rack).map f) (funext fun record => ?_)
    dsimp only [Function.comp]
    split_ifs <;> rfl
  have hwidens : Widens s
      { s with
        lifecycle := .retired
        racks := s.racks.updateWhere (fun record => record.authoritativeCurrent)
          retiredClusterRack } := by
    refine ⟨fun rack hmember => ?_, fun _ hid => hid, le_refl _, le_refl _, rfl⟩
    rw [isRackMember_eq, hmembership, ← isRackMember_eq]
    exact hmember
  refine
    { counts := ⟨?_, h.counts.links, h.counts.constraints, h.counts.domains⟩
      racks := fun rack record hrack => ?_
      links := fun id link hlink => hwidens.linkOk rfl (h.links id link hlink)
      domains := fun k id domain hdomain => hwidens.domainOk (h.domains k id domain hdomain)
      aggregates := h.aggregates
      constraints := fun id constraint hconstraint rack hrack =>
        hwidens.members rack (h.constraints id constraint hconstraint rack hrack)
      withdrawn := ?_
      fencedSorted := h.fencedSorted
      retiredSorted := h.retiredSorted }
  · exact (StdMap.size_mapValues _ _).trans_le h.counts.racks
  · dsimp only at hrack
    rw [hfind, Option.map_eq_some_iff] at hrack
    obtain ⟨record₀, hrack₀, rfl⟩ := hrack
    have hold := hwidens.rackOk rfl (h.racks rack record₀ hrack₀)
    split_ifs with hcurrent
    · exact ⟨hold.rack_eq, hold.generation, hold.endpoints_le, hold.hints_le,
        fun _ => ⟨rfl, .inr rfl⟩, hold.membership_le,
        fun hcurrent => absurd hcurrent Bool.false_ne_true⟩
    · exact hold
  · refine withdrawnOk_iff.mpr ⟨h.withdrawn.sorted, fun rack => ?_⟩
    dsimp only
    rw [hmembership]
    exact (withdrawnOk_iff.mp h.withdrawn).2 rack

end Racks

section Topology

variable [StdSort] (h : Filed s)

include h

theorem linkPublished {payload : InterRackLink} (c : ConnectivityGeneration)
    (record : TopologyEpochRecord) (hok : LinkPayloadOk s payload)
    (hroom : s.links.find? payload.id = none → s.links.size < limit)
    (hlimit : limit ≤ maxInterRackLinks) (ht : s.topologyGeneration.value ≤ t.value) :
    Filed
      { s with
        links := s.links.insertOrAssign payload.id
          { payload with
            failureDomains := sortUnique payload.failureDomains
            header := payload.header.stamp s
            topologyGeneration := s.topologyGeneration }
        topologyGeneration := t
        connectivityGeneration := c
        topologyRecord := record } := by
  refine KeepsRacks.filed h ⟨rfl, rfl, rfl, rfl, rfl, ht, fun _ hid => hid⟩ ?_ h.counts.constraints
    h.counts.domains (fun id link hfind => ?_) (fun _ _ _ hfind => h.domainOk hfind) h.constraints
  · exact StdMap.size_insertOrAssign_le h.counts.links hroom hlimit _
  · rw [StdMap.find?_insertOrAssign] at hfind
    split_ifs at hfind with hid
    · obtain rfl := Option.some.inj hfind
      exact .inr
        { id_eq := hid
          source_member := hok.source_member
          destination_member := hok.destination_member
          no_loop := hok.no_loop
          direction_ne := hok.direction_ne
          superseded := fun hepoch => absurd hok.epoch_eq hepoch
          generation_le := ht
          failureDomains := fun domain hdomain =>
            hok.failureDomains domain (mem_sortUnique.mp hdomain) }
    · exact .inl ⟨rfl, h.links id link hfind⟩

omit [StdSort] in
theorem linkWithdrawn (id : InterRackLinkId) (c : ConnectivityGeneration)
    (record : TopologyEpochRecord) (ht : s.topologyGeneration.value ≤ t.value) :
    Filed
      { s with
        links := s.links.erase id
        topologyGeneration := t
        connectivityGeneration := c
        topologyRecord := record } := by
  refine KeepsRacks.filed h ⟨rfl, rfl, rfl, rfl, rfl, ht, fun _ hid => hid⟩ ?_ h.counts.constraints
    h.counts.domains (fun id' link hfind => ?_) (fun _ _ _ hfind => h.domainOk hfind) h.constraints
  · exact (StdMap.size_erase_le _ _).trans h.counts.links
  · rw [StdMap.find?_erase] at hfind
    split_ifs at hfind
    exact .inl ⟨rfl, h.links id' link hfind⟩

omit [StdSort] in
/-- Links of a superseded topology claim nothing. -/
theorem superseded (target : TopologyEpoch) (c : ConnectivityGeneration)
    (record : TopologyEpochRecord) (ht : s.topologyGeneration.value ≤ t.value) :
    Filed
      { s with
        links := s.links.updateWhere (fun _ => true) supersededLink
        topologyEpoch := target
        topologyGeneration := t
        connectivityGeneration := c
        topologyRecord := record } := by
  refine KeepsRacks.filed h ⟨rfl, rfl, rfl, rfl, rfl, ht, fun _ hid => hid⟩ ?_ h.counts.constraints
    h.counts.domains (fun id link hfind => ?_) (fun _ _ _ hfind => h.domainOk hfind) h.constraints
  · exact (StdMap.size_mapValues _ _).trans_le h.counts.links
  · rw [StdMap.find?_updateWhere, Option.map_eq_some_iff] at hfind
    obtain ⟨link₀, hfind₀, rfl⟩ := hfind
    have hold := h.links id link₀ hfind₀
    exact .inr
      { hold with
        superseded := fun _ =>
          ⟨EvidenceStamp.requiresRevalidation_markRevalidationRequired _, nofun, nofun, rfl⟩
        generation_le := hold.generation_le.trans ht }

theorem constrained {payload : ClusterConstraint} (g : ConstraintGeneration)
    (hok : ConstraintPayloadOk s payload)
    (hroom : s.constraints.find? payload.id = none → s.constraints.size < limit)
    (hlimit : limit ≤ maxConstraints) :
    Filed
      { s with
        constraintGeneration := g
        constraints := s.constraints.insertOrAssign payload.id
          { payload with
            racks := sortUnique payload.racks
            header := payload.header.stamp s } } := by
  refine KeepsRacks.filed h ⟨rfl, rfl, rfl, rfl, rfl, le_refl _, fun _ hid => hid⟩ h.counts.links ?_
    h.counts.domains (fun id link hfind => .inl ⟨rfl, h.links id link hfind⟩)
    (fun _ _ _ hfind => h.domainOk hfind) (fun id constraint hfind => ?_)
  · exact StdMap.size_insertOrAssign_le h.counts.constraints hroom hlimit _
  · rw [StdMap.find?_insertOrAssign] at hfind
    split_ifs at hfind
    · obtain rfl := Option.some.inj hfind
      exact fun rack hrack => hok.members rack (mem_sortUnique.mp hrack)
    · exact h.constraints id constraint hfind

theorem domainPublished {payload : Domain k} {aggregate : DomainGeneration}
    (record : TopologyEpochRecord) (hok : DomainPayloadOk s payload)
    (hroom : (s.domains k).find? payload.id = none → (s.domains k).size < limit)
    (hlimit : limit ≤ maxDomainsPerClass)
    (haggregate :
      advanceAggregate (s.domainGenerations k) payload.header.generation = some aggregate)
    (ht : s.topologyGeneration.value ≤ t.value) :
    Filed
      { s with
        domainGenerations := Function.update s.domainGenerations k aggregate
        domains := Function.update s.domains k ((s.domains k).insertOrAssign payload.id
          { normalizedDomain payload with header := payload.header.stamp s })
        topologyGeneration := t
        topologyRecord := record } := by
  generalize hdomain : ({ normalizedDomain payload with header := payload.header.stamp s } :
    Domain k) = domain
  have hcontains (k' : DomainKind) (id : DomainId k') (hid : (s.domains k').contains id = true) :
      (Function.update s.domains k ((s.domains k).insertOrAssign payload.id domain) k').contains
        id = true := by
    by_cases hk : k' = k
    · subst hk
      rw [Function.update_self, StdMap.contains, StdMap.find?_insertOrAssign]
      split_ifs
      · rfl
      · exact hid
    · rw [Function.update_of_ne hk]
      exact hid
  refine KeepsRacks.filed h ⟨rfl, rfl, rfl, rfl, rfl, ht, hcontains .failure⟩ h.counts.links
    h.counts.constraints (fun k' => ?_) (fun id link hfind => .inl ⟨rfl, h.links id link hfind⟩)
    (fun k' id domain' hfind => ?_) h.constraints
  · dsimp only
    by_cases hk : k' = k
    · subst hk
      rw [Function.update_self]
      exact StdMap.size_insertOrAssign_le (h.counts.domains k') hroom hlimit _
    · rw [Function.update_of_ne hk]
      exact h.counts.domains k'
  · dsimp only at hfind ⊢
    by_cases hk : k' = k
    · subst hk
      rw [Function.update_self, StdMap.find?_insertOrAssign] at hfind
      rw [Function.update_self]
      split_ifs at hfind
      · obtain rfl := Option.some.inj hfind
        subst hdomain
        refine ⟨⟨?_, fun rack hrack => ?_, ?_⟩, record_le_advanceAggregate haggregate⟩
        · have hclass := hok.class_ne
          rw [← classRaw_normalizedDomain payload] at hclass
          cases k' <;> exact hclass
        · rw [racks_normalizedDomain] at hrack
          exact hok.members rack (mem_sortUnique.mp hrack)
        · rw [racks_normalizedDomain]
          exact sortUnique_strict _
      · obtain ⟨hdomainOk, hle⟩ := h.domainOk hfind
        exact ⟨hdomainOk, hle.trans (le_advanceAggregate haggregate)⟩
    · rw [Function.update_of_ne hk] at hfind ⊢
      exact h.domainOk hfind

end Topology

end Filed

end ClusterFabric
