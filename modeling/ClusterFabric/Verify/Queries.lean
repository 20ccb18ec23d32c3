import ClusterFabric.Verify.Soundness

/-! # Queries

What the query functions of `cluster_state.cpp` answer, in terms of the records they
scan: the derived indexes, the independence of failure domains
(`independence_exact_symmetric`) and the reachability between two racks
(`reachability_of_current_topology`).
-/

namespace ClusterFabric

open Lib

variable {flag : IndependenceScan → Bool} {test : Domain .failure → Bool} {k : DomainKind}

/-! ## Derived indexes -/

/-- The rack is a member of the domain with the identity. -/
def IsMember {k : DomainKind} (domains : StdMap (DomainId k) (Domain k)) (id : DomainId k)
    (rack : RackId) : Prop :=
  ∃ domain, domains.find? id = some domain ∧ rack ∈ domain.racks

/-- Every query over the indexes is answered with the sorted result of a scan of
the state. -/
structure ClusterIndexes.Projects (indexes : ClusterIndexes) (s : ClusterState) : Prop where
  rackCount : indexes.rackCount = s.racks.size
  racksInPlacementDomain : ∀ id,
    SortedScan (IsMember (s.domains .placement) id) (indexes.racksInPlacementDomain id)
  racksInCapacityDomain : ∀ id,
    SortedScan (IsMember (s.domains .capacity) id) (indexes.racksInCapacityDomain id)
  racksInFailureDomain : ∀ id,
    SortedScan (IsMember (s.domains .failure) id) (indexes.racksInFailureDomain id)
  racksInNetworkDomain : ∀ id,
    SortedScan (IsMember (s.domains .network) id) (indexes.racksInNetworkDomain id)
  placementDomainsOf : ∀ rack,
    SortedScan (IsMember (s.domains .placement) · rack) (indexes.placementDomainsOf rack)
  capacityDomainsOf : ∀ rack,
    SortedScan (IsMember (s.domains .capacity) · rack) (indexes.capacityDomainsOf rack)
  failureDomainsOf : ∀ rack,
    SortedScan (IsMember (s.domains .failure) · rack) (indexes.failureDomainsOf rack)
  networkDomainsOf : ∀ rack,
    SortedScan (IsMember (s.domains .network) · rack) (indexes.networkDomainsOf rack)
  linksFromRack : ∀ rack,
    SortedScan (fun id => ∃ link, s.links.find? id = some link ∧ link.source = rack)
      (indexes.linksFromRack rack)
  linksToRack : ∀ rack,
    SortedScan (fun id => ∃ link, s.links.find? id = some link ∧ link.destination = rack)
      (indexes.linksToRack rack)
  placementDomainsOfClass : ∀ klass,
    SortedScan (fun id => ∃ domain, s.placementDomains.find? id = some domain ∧
      domain.detail = klass) (indexes.placementDomainsOfClass klass)
  failureDomainsOfClass : ∀ klass,
    SortedScan (fun id => ∃ domain, s.failureDomains.find? id = some domain ∧
      domain.detail = klass) (indexes.failureDomainsOfClass klass)
  racksInMembershipState : ∀ membership,
    SortedScan (fun rack => ∃ record, s.racks.find? rack = some record ∧
      record.membership = membership) (indexes.racksInMembershipState membership)
  racksForBoot : ∀ boot,
    SortedScan (fun rack => ∃ record, s.racks.find? rack = some record ∧
      record.reference.boot = boot) (indexes.racksForBoot boot)

section Indexes

variable [StdSort]

theorem sortedScan_memberIndex (domains : StdMap (DomainId k) (Domain k)) (id : DomainId k) :
    SortedScan (IsMember domains id) ((memberIndex domains).listAt id) := by
  unfold IsMember StdMap.listAt memberIndex
  rw [StdMap.find?_mapValues]
  cases domains.find? id with
  | none => exact ⟨.nil, fun rack => by simp⟩
  | some domain =>
    have hscan := sortedScan_sortUnique domain.racks
    exact ⟨hscan.sorted, fun rack => (hscan.mem rack).trans (by simp)⟩

theorem sortedScan_membershipIndex (domains : StdMap (DomainId k) (Domain k)) (rack : RackId) :
    SortedScan (IsMember domains · rack) ((membershipIndex domains).listAt rack) := by
  have hscan := domains.sortedScan_filter fun domain => decide (rack ∈ domain.racks)
  simp only [decide_eq_true_eq] at hscan
  rw [listAt_membershipIndex]
  exact hscan

theorem sortedScan_linkIndex (links : StdMap InterRackLinkId InterRackLink)
    (endpoint : InterRackLink → RackId) (rack : RackId) :
    SortedScan (fun id => ∃ link, links.find? id = some link ∧ endpoint link = rack)
      ((linkIndex links endpoint).listAt rack) := by
  have hscan := links.sortedScan_filter fun link => decide (endpoint link = rack)
  simp only [decide_eq_true_eq] at hscan
  rw [listAt_linkIndex]
  exact hscan

/-- **Rebuilt indexes project the state**, whatever it records. -/
theorem ClusterIndexes.projects_rebuild (s : ClusterState) :
    (ClusterIndexes.rebuild s).Projects s where
  rackCount := rfl
  racksInPlacementDomain := sortedScan_memberIndex _
  racksInCapacityDomain := sortedScan_memberIndex _
  racksInFailureDomain := sortedScan_memberIndex _
  racksInNetworkDomain := sortedScan_memberIndex _
  placementDomainsOf := sortedScan_membershipIndex _
  capacityDomainsOf := sortedScan_membershipIndex _
  failureDomainsOf := sortedScan_membershipIndex _
  networkDomainsOf := sortedScan_membershipIndex _
  linksFromRack := sortedScan_linkIndex _ _
  linksToRack := sortedScan_linkIndex _ _
  placementDomainsOfClass :=
    @StdMap.sortedScan_pushAll _ _ _ PlacementDomainClass _ s.placementDomains fun d => d.detail
  failureDomainsOfClass :=
    @StdMap.sortedScan_pushAll _ _ _ FailureDomainClass _ s.failureDomains fun d => d.detail
  racksInMembershipState := s.racks.sortedScan_pushAll _
  racksForBoot := s.racks.sortedScan_pushAll _

end Indexes

/-! ## Independence of failure domains -/

namespace ClusterState

variable (s : ClusterState) (klass : FailureDomainClass)

/-- A domain of the class that has the rack as a member and current evidence. -/
def CoveredBy (rack : RackId) (domain : Domain .failure) : Prop :=
  (∃ id, s.failureDomains.find? id = some domain) ∧ domain.failureClass = klass ∧
    domain.header.evidence.isCurrent = true ∧ rack ∈ domain.racks

/-- Some current domain of the class contains both racks. -/
def SharesDomain (a b : RackId) : Prop :=
  ∃ domain, s.CoveredBy klass a domain ∧ s.CoveredBy klass b domain

/-- Some domain of the class that contains one of the racks must be revalidated. -/
def AwaitsRevalidation (a b : RackId) : Prop :=
  ∃ id domain, s.failureDomains.find? id = some domain ∧ domain.failureClass = klass ∧
    domain.header.evidence.requiresRevalidation = true ∧ (a ∈ domain.racks ∨ b ∈ domain.racks)

/-- Each of the racks is in a current domain of the class. -/
def BothCovered (a b : RackId) : Prop :=
  (∃ domain, s.CoveredBy klass a domain) ∧ ∃ domain, s.CoveredBy klass b domain

variable {s klass} {a b : RackId}

theorem SharesDomain.symm (h : s.SharesDomain klass a b) : s.SharesDomain klass b a := by
  obtain ⟨domain, ha, hb⟩ := h
  exact ⟨domain, hb, ha⟩

theorem AwaitsRevalidation.symm (h : s.AwaitsRevalidation klass a b) :
    s.AwaitsRevalidation klass b a := by
  obtain ⟨id, domain, hfind, hclass, hevidence, hmember⟩ := h
  exact ⟨id, domain, hfind, hclass, hevidence, hmember.symm⟩

end ClusterState

section Independence

variable (s : ClusterState) (klass : FailureDomainClass)

/-- The domain with the identity is of the class and passes the test. -/
def selects (test : Domain .failure → Bool) (id : FailureDomainId) : Bool :=
  (s.failureDomains.find? id).any fun domain => decide (domain.failureClass = klass) && test domain

/-- A domain with current evidence that lists the racks. -/
def lists (racks : List RackId) (domain : Domain .failure) : Bool :=
  domain.header.evidence.isCurrent && racks.all fun rack => binarySearch domain.racks rack

/-- What one iteration adds to each flag. -/
theorem flags_visit (lhs rhs : RackId) (scan : IndependenceScan) (id : FailureDomainId) :
    let scan' := scan.visit s lhs rhs klass id
    scan'.lhsHasCurrent = (scan.lhsHasCurrent || selects s klass (lists [lhs]) id) ∧
    scan'.rhsHasCurrent = (scan.rhsHasCurrent || selects s klass (lists [rhs]) id) ∧
    scan'.shared = (scan.shared || selects s klass (lists [lhs, rhs]) id) ∧
    scan'.revalidation = (scan.revalidation ||
      selects s klass (fun domain : Domain .failure =>
        domain.header.evidence.requiresRevalidation) id) := by
  unfold IndependenceScan.visit selects lists
  cases hfind : s.failureDomains.find? id with
  | none => simp
  | some domain =>
    dsimp only
    split_ifs with hclass hrevalidation hcurrent
    · simp [hclass]
    · have hnot := EvidenceStamp.isCurrent_of_requiresRevalidation hrevalidation
      simp_all
    · simp_all
    · simp_all

variable [StdSort]

/-- The scan after the loops over the domains of both racks. -/
def independenceScan (a b : RackId) : IndependenceScan :=
  ((ClusterIndexes.rebuild s).failureDomainsOf b).foldl (IndependenceScan.visit s a b klass)
    (((ClusterIndexes.rebuild s).failureDomainsOf a).foldl (IndependenceScan.visit s a b klass) {})

/-- A flag over the domains of a rack says that one of them is selected. -/
theorem any_selects_iff {rack : RackId} :
    ((ClusterIndexes.rebuild s).failureDomainsOf rack).any (selects s klass test) = true ↔
      ∃ id domain, s.failureDomains.find? id = some domain ∧ domain.failureClass = klass ∧
        rack ∈ domain.racks ∧ test domain = true := by
  have hscan := (ClusterIndexes.projects_rebuild s).failureDomainsOf rack
  rw [List.any_eq_true]
  constructor
  · rintro ⟨id, hid, hselects⟩
    obtain ⟨domain, hfind, hmember⟩ := (hscan.mem id).mp hid
    have hfind' : s.failureDomains.find? id = some domain := hfind
    simp only [selects, hfind', Option.any_some, Bool.and_eq_true, decide_eq_true_eq] at hselects
    exact ⟨id, domain, hfind, hselects.1, hmember, hselects.2⟩
  · rintro ⟨id, domain, hfind, hclass, hmember, htest⟩
    refine ⟨id, (hscan.mem id).mpr ⟨domain, hfind, hmember⟩, ?_⟩
    simp [selects, hfind, hclass, htest]

variable {s klass} {a b : RackId}

/-- A flag after both loops: a domain of one of the racks is selected. -/
theorem flag_independenceScan
    (hvisit : ∀ scan id, flag (scan.visit s a b klass id) =
      (flag scan || selects s klass test id)) (hinit : flag {} = false) :
    flag (independenceScan s klass a b) = true ↔
      ∃ id domain, s.failureDomains.find? id = some domain ∧ domain.failureClass = klass ∧
        (a ∈ domain.racks ∨ b ∈ domain.racks) ∧ test domain = true := by
  unfold independenceScan
  rw [foldl_flag hvisit, foldl_flag hvisit, hinit, Bool.false_or, Bool.or_eq_true,
    any_selects_iff, any_selects_iff]
  constructor
  · rintro (⟨id, domain, hfind, hclass, hmember, htest⟩ |
      ⟨id, domain, hfind, hclass, hmember, htest⟩)
    · exact ⟨id, domain, hfind, hclass, .inl hmember, htest⟩
    · exact ⟨id, domain, hfind, hclass, .inr hmember, htest⟩
  · rintro ⟨id, domain, hfind, hclass, hmember | hmember, htest⟩
    · exact .inl ⟨id, domain, hfind, hclass, hmember, htest⟩
    · exact .inr ⟨id, domain, hfind, hclass, hmember, htest⟩

theorem revalidation_independenceScan :
    (independenceScan s klass a b).revalidation = true ↔ s.AwaitsRevalidation klass a b := by
  rw [flag_independenceScan (fun scan id => (flags_visit s klass a b scan id).2.2.2) rfl]
  simp only [ClusterState.AwaitsRevalidation, and_comm]

section Sorted

variable (hsorted : ∀ id domain, s.failureDomains.find? id = some domain →
  domain.racks.Pairwise (· ≤ ·))

include hsorted in
/-- A flag for current domains that list some of the two racks. -/
theorem lists_independenceScan {racks : List RackId}
    (hvisit : ∀ scan id, flag (scan.visit s a b klass id) =
      (flag scan || selects s klass (lists racks) id)) (hinit : flag {} = false)
    (hracks : a ∈ racks ∨ b ∈ racks) :
    flag (independenceScan s klass a b) = true ↔
      ∃ domain, ∀ rack ∈ racks, s.CoveredBy klass rack domain := by
  have hlists : ∀ {id domain}, s.failureDomains.find? id = some domain →
      (lists racks domain = true ↔ domain.header.evidence.isCurrent = true ∧
        ∀ rack ∈ racks, rack ∈ domain.racks) := by
    intro id domain hfind
    simp only [lists, Bool.and_eq_true, List.all_eq_true,
      binarySearch_sorted_iff (hsorted id domain hfind)]
  rw [flag_independenceScan hvisit hinit]
  constructor
  · rintro ⟨id, domain, hfind, hclass, -, htest⟩
    obtain ⟨hcurrent, hmembers⟩ := (hlists hfind).mp htest
    exact ⟨domain, fun rack hrack => ⟨⟨id, hfind⟩, hclass, hcurrent, hmembers rack hrack⟩⟩
  · rintro ⟨domain, hcovered⟩
    obtain ⟨rack, hrack⟩ : ∃ rack, rack ∈ racks := hracks.elim (⟨a, ·⟩) (⟨b, ·⟩)
    obtain ⟨⟨id, hfind⟩, hclass, hcurrent, -⟩ := hcovered rack hrack
    refine ⟨id, domain, hfind, hclass, ?_, (hlists hfind).mpr ⟨hcurrent, ?_⟩⟩
    · exact hracks.imp (fun ha => (hcovered a ha).2.2.2) fun hb => (hcovered b hb).2.2.2
    · exact fun rack hrack => (hcovered rack hrack).2.2.2

include hsorted in
/-- The answer for two recorded racks, as the flags give it. -/
theorem failureDomainIndependence_cases (ha : s.hasRack a = true) (hb : s.hasRack b = true)
    (hclass : klass ≠ .unknown) :
    let answer := failureDomainIndependence s (.rebuild s) a b klass
    (s.SharesDomain klass a b → answer = .shared) ∧
    (¬ s.SharesDomain klass a b → s.AwaitsRevalidation klass a b →
      answer = .revalidationRequired) ∧
    (¬ s.SharesDomain klass a b → ¬ s.AwaitsRevalidation klass a b → s.BothCovered klass a b →
      answer = .independent) ∧
    (¬ s.SharesDomain klass a b → ¬ s.AwaitsRevalidation klass a b → ¬ s.BothCovered klass a b →
      answer = .unknown) := by
  have hshared : (independenceScan s klass a b).shared = true ↔ s.SharesDomain klass a b := by
    rw [lists_independenceScan hsorted (fun scan id => (flags_visit s klass a b scan id).2.2.1) rfl
      (by simp)]
    simp [ClusterState.SharesDomain]
  have hrevalidation := @revalidation_independenceScan s klass _ a b
  have hcovered : ((independenceScan s klass a b).lhsHasCurrent &&
      (independenceScan s klass a b).rhsHasCurrent) = true ↔ s.BothCovered klass a b := by
    rw [Bool.and_eq_true,
      lists_independenceScan hsorted (fun scan id => (flags_visit s klass a b scan id).1) rfl
        (by simp),
      lists_independenceScan hsorted (fun scan id => (flags_visit s klass a b scan id).2.1) rfl
        (by simp)]
    simp [ClusterState.BothCovered]
  have hanswer : failureDomainIndependence s (.rebuild s) a b klass =
      if (independenceScan s klass a b).shared then .shared
      else if (independenceScan s klass a b).revalidation then .revalidationRequired
      else if (independenceScan s klass a b).lhsHasCurrent &&
          (independenceScan s klass a b).rhsHasCurrent then .independent
      else .unknown := by
    simp only [failureDomainIndependence, if_neg hclass, ha, hb, Bool.not_true, Bool.or_self,
      Bool.false_eq_true, if_false]
    rfl
  rw [hanswer]
  simp only [← hshared, ← hrevalidation, ← hcovered]
  refine ⟨fun h => ?_, fun h h' => ?_, fun h h' h'' => ?_, fun h h' h'' => ?_⟩
  · rw [if_pos h]
  · rw [if_neg h, if_pos h']
  · rw [if_neg h, if_neg h', if_pos h'']
  · rw [if_neg h, if_neg h', if_neg h'']

include hsorted in
/-- **Independence is exact and symmetric.** -/
theorem independence_exact_symmetric (ha : s.hasRack a = true) (hb : s.hasRack b = true)
    (hclass : klass ≠ .unknown) :
    let answer := failureDomainIndependence s (.rebuild s) a b klass
    (answer = .shared ↔ s.SharesDomain klass a b) ∧
    (answer = .revalidationRequired ↔
      ¬ s.SharesDomain klass a b ∧ s.AwaitsRevalidation klass a b) ∧
    (answer = .independent ↔ ¬ s.SharesDomain klass a b ∧ ¬ s.AwaitsRevalidation klass a b ∧
      s.BothCovered klass a b) ∧
    (answer = .unknown ↔ ¬ s.SharesDomain klass a b ∧ ¬ s.AwaitsRevalidation klass a b ∧
      ¬ s.BothCovered klass a b) ∧
    failureDomainIndependence s (.rebuild s) b a klass = answer := by
  obtain ⟨hshared, hrevalidation, hindependent, hunknown⟩ :=
    failureDomainIndependence_cases hsorted ha hb hclass
  obtain ⟨hshared', hrevalidation', hindependent', hunknown'⟩ :=
    failureDomainIndependence_cases hsorted hb ha hclass
  have hsymm : s.SharesDomain klass b a ↔ s.SharesDomain klass a b := ⟨.symm, .symm⟩
  have hsymm' : s.AwaitsRevalidation klass b a ↔ s.AwaitsRevalidation klass a b := ⟨.symm, .symm⟩
  have hsymm'' : s.BothCovered klass b a ↔ s.BothCovered klass a b := ⟨And.symm, And.symm⟩
  rw [hsymm] at hshared' hrevalidation' hindependent' hunknown'
  rw [hsymm'] at hrevalidation' hindependent' hunknown'
  rw [hsymm''] at hindependent' hunknown'
  dsimp only
  -- one case for each answer, in which both orders of the racks get it
  by_cases h : s.SharesDomain klass a b
  · simp [hshared h, hshared' h, h]
  by_cases h' : s.AwaitsRevalidation klass a b
  · simp [hrevalidation h h', hrevalidation' h h', h, h']
  by_cases h'' : s.BothCovered klass a b
  · simp [hindependent h h' h'', hindependent' h h' h'', h, h', h'']
  · simp [hunknown h h' h'', hunknown' h h' h'', h, h', h'']

end Sorted

end Independence

section Example

open scoped StdSort

/-- Racks `r1` and `r2` in one failure domain with current evidence. -/
def pairedRacks : ClusterState where
  racks := (StdMap.empty.insertOrAssign (.named "r1") {}).insertOrAssign (.named "r2") {}
  domains := Function.update (fun _ => .empty) .failure
    (StdMap.empty.insertOrAssign (.named "d")
      { id := .named "d"
        detail := FailureDomainClass.rack
        racks := [.named "r1", .named "r2"]
        header := { evidence := .make .reported ⟨1⟩ 0 } })

theorem independence_exact_symmetric_paired :
    failureDomainIndependence pairedRacks (.rebuild pairedRacks) (.named "r1") (.named "r2")
      .rack = .shared := by
  have hsorted : (StdMap.All fun _ domain => domain.racks.Pairwise (· ≤ ·))
      pairedRacks.failureDomains := StdMap.All.empty.insertOrAssign (by decide)
  have hexact := independence_exact_symmetric (a := .named "r1") (b := .named "r2") hsorted
    (by decide) (by decide) (show FailureDomainClass.rack ≠ .unknown by decide)
  refine hexact.1.mpr ⟨_, ⟨⟨.named "d", rfl⟩, rfl, by decide, by decide⟩,
    ⟨⟨.named "d", rfl⟩, rfl, by decide, by decide⟩⟩

end Example

/-! ## Reachability -/

/-- A link about the pair whose evidence is current and that claims the answer. -/
def claims (source destination : RackId) (answer : Reachability) (link : InterRackLink) : Bool :=
  link.connects source destination && link.header.evidence.isCurrent &&
    decide (link.reachability = answer)

theorem flags_visit_link (source destination : RackId) (scan : ReachabilityScan)
    (link : InterRackLink) :
    let scan' := scan.visit source destination link
    scan'.sawReachable = (scan.sawReachable || claims source destination .reachable link) ∧
    scan'.sawUnreachable =
        (scan.sawUnreachable || claims source destination .unreachable link) := by
  unfold ReachabilityScan.visit claims
  dsimp only
  split_ifs with hconnects hrevalidation hcurrent
  · simp_all
  · have hnot := EvidenceStamp.isCurrent_of_requiresRevalidation hrevalidation
    simp_all
  · simp_all
  · cases hreachability : link.reachability <;> simp_all

/-- A decided answer is the claim of a link. -/
theorem exists_claim_of_reachabilityBetween {s : ClusterState} {a b : RackId}
    (h : reachabilityBetween s a b = .reachable ∨ reachabilityBetween s a b = .unreachable) :
    ∃ id link, s.links.find? id = some link ∧
      claims a b (reachabilityBetween s a b) link = true := by
  have hreachable := foldl_flag (fun scan link => (flags_visit_link a b scan link).1)
    s.links.values {}
  have hunreachable := foldl_flag (fun scan link => (flags_visit_link a b scan link).2)
    s.links.values {}
  rw [Bool.false_or] at hreachable hunreachable
  rw [← StdMap.exists_mem_values, ← List.any_eq_true]
  unfold reachabilityBetween at h ⊢
  dsimp only at h ⊢
  split_ifs at h ⊢ with hknown hsaw hrevalidation hsaw'
  · simp at h
  · rw [← hreachable]
    exact hsaw
  · simp at h
  · rw [← hunreachable]
    exact (Bool.and_eq_true_iff.mp hsaw').2
  · simp at h

namespace Coordinator

/-- **A decided answer comes from the current topology.** -/
theorem reachability_of_current_topology [StdSort] {σ : Type} {fs : FaithfulStore σ}
    {c : Coordinator σ} (h : Reachable fs c) {a b : RackId}
    (hdecided : reachabilityBetween c.canonical a b = .reachable ∨
      reachabilityBetween c.canonical a b = .unreachable) :
    ∃ id link, c.canonical.links.find? id = some link ∧
      ((link.source = a ∧ link.destination = b) ∨
        (link.source = b ∧ link.destination = a ∧ link.direction = .bidirectional)) ∧
      link.topologyEpoch = c.canonical.topologyEpoch ∧
      link.header.evidence.isCurrent = true ∧
      link.reachability = reachabilityBetween c.canonical a b := by
  obtain ⟨id, link, hfind, hclaims⟩ := exists_claim_of_reachabilityBetween hdecided
  simp only [claims, InterRackLink.connects, Bool.and_eq_true, Bool.or_eq_true, beq_iff_eq,
    decide_eq_true_eq, and_assoc] at hclaims
  obtain ⟨hconnects, hcurrent, hanswer⟩ := hclaims
  refine ⟨id, link, hfind, hconnects, ?_, hcurrent, hanswer⟩
  -- a link of another epoch must be revalidated, so its evidence is not current
  have hok := h.sound.linkOk hfind
  by_contra hepoch
  have hnot := EvidenceStamp.isCurrent_of_requiresRevalidation (hok.superseded hepoch).1
  rw [hnot] at hcurrent
  exact absurd hcurrent Bool.false_ne_true

section Example

open scoped StdSort

def linkedRacks : Coordinator (Option PersistedState) := sample linkedEvents

theorem reachable_linkedRacks :
    reachabilityBetween linkedRacks.canonical (.named "r2") (.named "r1") = .reachable := by
  decide +kernel

/-- The way back is the bidirectional link. -/
theorem reachability_of_current_topology_linked :
    ∃ id link, linkedRacks.canonical.links.find? id = some link ∧
      link.topologyEpoch = linkedRacks.canonical.topologyEpoch ∧
      link.header.evidence.isCurrent = true ∧ link.reachability = .reachable := by
  obtain ⟨id, link, hfind, -, hepoch, hcurrent, hanswer⟩ :=
    reachability_of_current_topology (reachable_sample _) (.inl reachable_linkedRacks)
  exact ⟨id, link, hfind, hepoch, hcurrent, hanswer.trans reachable_linkedRacks⟩

end Example

end Coordinator

end ClusterFabric
