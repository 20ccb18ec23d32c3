import ClusterFabric.Verify.Soundness
import ClusterFabric.Verify.Writes

/-! # Freshness

A stamp carries the freshness that its publisher gave it, next to the time of the
observation and its time to live, from which a clock would decide. The two are brought
together in few places only: recovery reclassifies the stamps of domains and constraints
whatever they said before, and an admission reclassifies a stamp that says nothing. So a
stamp that was not current can be so after a restart (`restart_upgrades_nothing_iff`),
and a stamp that has expired can make a rack current (`rewritten_fresh_iff`).
-/

namespace ClusterFabric

open Lib

variable {record : RackRecord}

/-! ## Stamps -/

namespace EvidenceStamp

variable {e : EvidenceStamp} {now : Timestamp}

/-- A stamp that is unclassified or stale by its own word and fresh by the clock. -/
def Dormant (e : EvidenceStamp) (now : Timestamp) : Prop :=
  isCurrentEvidenceProvenance e.provenance = true ∧
    (e.freshness = .unknown ∨ e.freshness = .stale) ∧
    classifyFreshness e.observedAt now e.ttlMillis = .fresh

/-- A stamp that is current by its own word and not fresh by the clock. -/
def Expired (e : EvidenceStamp) (now : Timestamp) : Prop :=
  e.isCurrent = true ∧ classifyFreshness e.observedAt now e.ttlMillis ≠ .fresh

instance : Decidable (e.Dormant now) := by unfold Dormant; infer_instance

instance : Decidable (e.Expired now) := by unfold Expired; infer_instance

/-- Only a known observation is fresh. -/
theorem known_of_classifyFreshness {observedAt : Timestamp} {ttl : Int64}
    (h : classifyFreshness observedAt now ttl = .fresh) : observedAt.known = true := by
  by_contra hunknown
  rw [Bool.not_eq_true] at hunknown
  rw [classifyFreshness, hunknown] at h
  exact nomatch h

theorem isCurrent_iff : e.isCurrent = true ↔
    isCurrentEvidenceProvenance e.provenance = true ∧ e.observedAt.known = true ∧
      e.freshness = .fresh := by
  simp [isCurrent, and_assoc]

theorem isCurrent_refresh : (e.refresh now).isCurrent = true ↔
    isCurrentEvidenceProvenance e.provenance = true ∧ e.freshness ≠ .revalidationRequired ∧
      classifyFreshness e.observedAt now e.ttlMillis = .fresh := by
  by_cases hrequired : e.freshness = .revalidationRequired
  · simp [refresh, isCurrent, hrequired]
  · rw [isCurrent_iff]
    simp only [refresh, if_neg hrequired]
    constructor
    · rintro ⟨hprovenance, -, hfresh⟩
      exact ⟨hprovenance, hrequired, hfresh⟩
    · rintro ⟨hprovenance, -, hfresh⟩
      exact ⟨hprovenance, known_of_classifyFreshness hfresh, hfresh⟩

/-- A refresh makes nothing current that was not, except a dormant stamp. -/
theorem refresh_upgrades_iff :
    ((e.refresh now).isCurrent = true → e.isCurrent = true) ↔ ¬ e.Dormant now := by
  rw [isCurrent_refresh, isCurrent_iff]
  constructor
  · rintro h ⟨hprovenance, hfreshness, hclass⟩
    have hrequired : e.freshness ≠ .revalidationRequired := by
      rcases hfreshness with hfreshness | hfreshness <;> rw [hfreshness] <;> decide
    have hfresh : e.freshness = .fresh := (h ⟨hprovenance, hrequired, hclass⟩).2.2
    rw [hfresh] at hfreshness
    rcases hfreshness with hfreshness | hfreshness <;> exact nomatch hfreshness
  · rintro h ⟨hprovenance, hrequired, hclass⟩
    refine ⟨hprovenance, known_of_classifyFreshness hclass, ?_⟩
    cases hfreshness : e.freshness with
    | fresh => rfl
    | unknown => exact absurd ⟨hprovenance, .inl hfreshness, hclass⟩ h
    | stale => exact absurd ⟨hprovenance, .inr hfreshness, hclass⟩ h
    | revalidationRequired => exact absurd hfreshness hrequired

/-- An admission classifies only what says nothing, so it lets an expired stamp
pass as it is. -/
theorem expired_admittedEvidence : (admittedEvidence e now).Expired now ↔ e.Expired now := by
  unfold admittedEvidence
  split_ifs with hunknown
  · constructor
    · rintro ⟨hcurrent, hclass⟩
      obtain ⟨-, hrequired, hfresh⟩ := isCurrent_refresh.mp hcurrent
      rw [refresh, if_neg hrequired] at hclass
      exact absurd hfresh hclass
    · rintro ⟨hcurrent, -⟩
      have hfresh := (isCurrent_iff.mp hcurrent).2.2
      rw [hunknown.1] at hfresh
      exact nomatch hfresh
  · exact Iff.rfl

end EvidenceStamp

/-! ## Restarts -/

section Restart

variable {K V : Type} [LinearOrder K] {evidence : V → EvidenceStamp} {m : StdMap K V}
  {f : K → V → V}

/-- A record of `m'` has current evidence only if that of the same key in `m` has. -/
def CurrentOnlyFrom (evidence : V → EvidenceStamp) (m m' : StdMap K V) : Prop :=
  ∀ key value', m'.find? key = some value' → (evidence value').isCurrent = true →
    ∃ value, m.find? key = some value ∧ (evidence value).isCurrent = true

theorem currentOnlyFrom_mapValues :
    CurrentOnlyFrom evidence m (m.mapValues f) ↔
      ∀ key value, m.find? key = some value →
        (evidence (f key value)).isCurrent = true → (evidence value).isCurrent = true := by
  constructor
  · intro h key value hfind hcurrent
    have hfind' : (m.mapValues f).find? key = some (f key value) := by
      rw [StdMap.find?_mapValues, hfind]
      rfl
    obtain ⟨value', hvalue', hcurrent'⟩ := h key _ hfind' hcurrent
    rw [hfind] at hvalue'
    rwa [Option.some.inj hvalue']
  · intro h key value' hfind' hcurrent
    rw [StdMap.find?_mapValues, Option.map_eq_some_iff] at hfind'
    obtain ⟨value, hfind, rfl⟩ := hfind'
    exact ⟨value, hfind, h key value hfind hcurrent⟩

theorem CurrentOnlyFrom.any {m' : StdMap K V} (h : CurrentOnlyFrom evidence m m')
    (hcurrent : (m'.values.any fun value => (evidence value).isCurrent) = true) :
    (m.values.any fun value => (evidence value).isCurrent) = true := by
  obtain ⟨value', hvalue', hcurrent'⟩ := List.any_eq_true.mp hcurrent
  obtain ⟨key, hfind'⟩ := StdMap.mem_values_iff.mp hvalue'
  obtain ⟨value, hfind, hbefore⟩ := h key value' hfind' hcurrent'
  exact List.any_eq_true.mpr ⟨value, StdMap.mem_values_iff.mpr ⟨key, hfind⟩, hbefore⟩

/-- No record of `s'` has current evidence that had none in `s`. -/
structure NotUpgraded (s s' : ClusterState) : Prop where
  racks : CurrentOnlyFrom (fun record => record.reference.evidence) s.racks s'.racks
  memberships : CurrentOnlyFrom RackRecord.membershipEvidence s.racks s'.racks
  links : CurrentOnlyFrom (fun link => link.header.evidence) s.links s'.links
  domains : ∀ k, CurrentOnlyFrom (fun domain => domain.header.evidence) (s.domains k) (s'.domains k)
  constraints :
    CurrentOnlyFrom (fun constraint => constraint.header.evidence) s.constraints s'.constraints

/-- No domain and no constraint carries a dormant stamp. -/
structure NoneDormant (s : ClusterState) (now : Timestamp) : Prop where
  domains : ∀ k, ∀ domain ∈ (s.domains k).values, ¬ domain.header.evidence.Dormant now
  constraints : ∀ constraint ∈ s.constraints.values, ¬ constraint.header.evidence.Dormant now

/-- The stamp of a recovered rack or link is current under no clock. -/
theorem currentOnlyFrom_reset
    (h : ∀ key value, (evidence (f key value)).requiresRevalidation = true) :
    CurrentOnlyFrom evidence m (m.mapValues f) := by
  refine currentOnlyFrom_mapValues.mpr fun key value _ hcurrent => ?_
  rw [EvidenceStamp.isCurrent_of_requiresRevalidation (h key value)] at hcurrent
  exact absurd hcurrent Bool.false_ne_true

/-- The stamps that recovery refreshes. -/
theorem currentOnlyFrom_refreshed {now : Timestamp}
    (h : ∀ key value, evidence (f key value) = (evidence value).refresh now) :
    CurrentOnlyFrom evidence m (m.mapValues f) ↔
      ∀ value ∈ m.values, ¬ (evidence value).Dormant now := by
  simp only [currentOnlyFrom_mapValues, h, EvidenceStamp.refresh_upgrades_iff]
  constructor
  · intro hkept value hvalue
    obtain ⟨key, hfind⟩ := StdMap.mem_values_iff.mp hvalue
    exact hkept key value hfind
  · intro hkept key value hfind
    exact hkept value (StdMap.mem_values_iff.mpr ⟨key, hfind⟩)

namespace Coordinator

variable [StdSort]

/-- **A restart upgrades no evidence** exactly when no domain and no constraint
carries a stamp that was not current and that the clock of the restart calls
fresh. -/
theorem restart_upgrades_nothing_iff {σ : Type} {fs : FaithfulStore σ} {c : Coordinator σ}
    (hreachable : Reachable fs c) (epoch : CoordinatorEpoch) (now : Timestamp) :
    NotUpgraded c.canonical (fromPersistedState (toPersistedState c.canonical) epoch now) ↔
      NoneDormant c.canonical now := by
  have hsound := hreachable.sound
  -- the lifecycle apart, the recovered state is `recoveredState`
  change NotUpgraded c.canonical
    { recoveredState (toPersistedState c.canonical) epoch now with lifecycle := _ } ↔ _
  have hracks := racks_recoveredState c.canonical epoch now
  have hlinks := links_recoveredState epoch now hsound.links
  have hdomains := fun k => domains_recoveredState epoch now (hsound.domains k)
  have hconstraints := constraints_recoveredState epoch now hsound.constraints
  have hdomain : ∀ k, CurrentOnlyFrom (fun domain : Domain k => domain.header.evidence)
      (c.canonical.domains k)
      ((recoveredState (toPersistedState c.canonical) epoch now).domains k) ↔
      ∀ domain ∈ (c.canonical.domains k).values, ¬ domain.header.evidence.Dormant now := by
    intro k
    rw [hdomains k]
    exact currentOnlyFrom_refreshed fun _ _ => rfl
  have hconstraint : CurrentOnlyFrom
      (fun constraint : ClusterConstraint => constraint.header.evidence) c.canonical.constraints
      (recoveredState (toPersistedState c.canonical) epoch now).constraints ↔
      ∀ constraint ∈ c.canonical.constraints.values,
        ¬ constraint.header.evidence.Dormant now := by
    rw [hconstraints]
    exact currentOnlyFrom_refreshed fun _ _ => rfl
  constructor
  · intro h
    exact ⟨fun k => (hdomain k).mp (h.domains k), hconstraint.mp h.constraints⟩
  · intro h
    refine ⟨?_, ?_, ?_, fun k => (hdomain k).mpr (h.domains k), hconstraint.mpr h.constraints⟩
    · dsimp only
      rw [hracks]
      exact currentOnlyFrom_reset fun _ _ => rfl
    · dsimp only
      rw [hracks]
      exact currentOnlyFrom_reset fun _ _ => rfl
    · dsimp only
      rw [hlinks]
      exact currentOnlyFrom_reset fun _ _ =>
        EvidenceStamp.requiresRevalidation_markRevalidationRequired _

end Coordinator

end Restart

/-! ## Expired evidence -/

/-- The stamp that a request puts into the record of a rack. -/
def MutationRequest.rackEvidence (request : MutationRequest) : Option EvidenceStamp :=
  match request.kind with
  | .addRack => some request.rackReference.evidence
  | .updateRackGeneration | .recoverRack | .publishHealthCurrentness => some request.evidence
  | _ => none

theorem MutationRequest.rackEvidence_addRack {request : MutationRequest}
    (hkind : request.kind = .addRack) :
    request.rackEvidence = some request.rackReference.evidence := by
  rw [rackEvidence, hkind]

/-- The kinds that store the stamp of the request itself. -/
def MutationKind.storesEvidence : MutationKind → Bool
  | .updateRackGeneration | .recoverRack | .publishHealthCurrentness => true
  | _ => false

theorem MutationKind.domainKind_of_storesEvidence {kind : MutationKind}
    (h : kind.storesEvidence = true) : kind.domainKind = none := by
  cases kind <;> first | rfl | cases h

theorem MutationRequest.rackEvidence_stored {request : MutationRequest}
    (hkind : request.kind.storesEvidence = true) :
    request.rackEvidence = some request.evidence := by
  unfold rackEvidence
  cases h : request.kind <;> rw [h] at hkind <;> first | rfl | exact nomatch hkind

theorem MutationRequest.kind_of_rackEvidence {request : MutationRequest} {e : EvidenceStamp}
    (h : request.rackEvidence = some e) :
    request.kind = .addRack ∨ request.kind.storesEvidence = true := by
  unfold rackEvidence at h
  cases hkind : request.kind <;> rw [hkind] at h <;>
    first | exact .inl rfl | exact .inr rfl | exact nomatch h

section Expired

variable [StdSort] {s s' : ClusterState} {request : MutationRequest} {now : Timestamp}
  {e : EvidenceStamp}

omit [StdSort] in
theorem current_of_expired (h : ¬ e.Expired now) (hcurrent : e.isCurrent = true) :
    classifyFreshness e.observedAt now e.ttlMillis = .fresh := by
  by_contra hclass
  exact h ⟨hcurrent, hclass⟩

/-- A written record that is current has the stamp of the request. -/
theorem fresh_of_rackWritten {rack : RackId} {old : Option RackRecord}
    (hwritten : RackWritten now s request rack old (some record))
    (hrequest : ∀ e, request.rackEvidence = some e → ¬ e.Expired now)
    (hcurrent : record.authoritativeCurrent = true) :
    classifyFreshness record.reference.evidence.observedAt now
      record.reference.evidence.ttlMillis = .fresh := by
  cases hwritten
  case registered | evidenceWithdrawn | clusterRetired => exact absurd hcurrent Bool.false_ne_true
  case admitted hkind _ _ _ _ =>
    have hexpired := hrequest _ (MutationRequest.rackEvidence_addRack hkind)
    exact current_of_expired (EvidenceStamp.expired_admittedEvidence.not.mpr hexpired) hcurrent
  case updated hkind _ _ | recovered hkind _ _ | healthPublished hkind _ _ =>
    exact current_of_expired (hrequest _ (MutationRequest.rackEvidence_stored (by rw [hkind]; rfl)))
      hcurrent
  case moved target _ _ hkind _ _ =>
    rw [movedRecord, if_neg (MutationKind.ne_active_of_membershipTarget hkind)] at hcurrent
    exact absurd hcurrent Bool.false_ne_true

/-- A rack that a mutation wrote anew, with the stamp of the request. -/
structure Restamped (s s' : ClusterState) (e : EvidenceStamp) (rack : RackId)
    (record : RackRecord) : Prop where
  find? : s'.racks.find? rack = some record
  rewritten : s.racks.find? rack ≠ some record
  evidence : record.reference.evidence = e
  current : record.authoritativeCurrent = e.isCurrent

/-- An admission changes the record it finds: at the recorded generation it must
come from another incarnation or be newer. -/
theorem AdmitsOver.ne {incoming : RackReference} {record' : RackRecord}
    (h : AdmitsOver incoming record) (hactive : record'.membership = .active)
    (hgeneration : record'.reference.generation = incoming.generation)
    (hboot : record'.reference.boot = incoming.boot)
    (hpublication : record'.reference.publication = incoming.publication) : record ≠ record' := by
  rintro rfl
  have hplaceholder : record.isPlaceholder = false := by
    rw [RackRecord.isPlaceholder, hactive]
    rfl
  have hnewer := (h.repeats hgeneration.symm hplaceholder).2 hboot
  rw [hpublication] at hnewer
  exact absurd hnewer (lt_irrefl _)

/-- The mutations that store a stamp in a rack write a record that differs from
the one they found. -/
theorem restamped_of_applied {config : CoordinatorConfig}
    (hsound : ∀ rack record, s.racks.find? rack = some record →
      record.membershipGeneration ≤ s.membershipGeneration)
    (happlied : Applied config now s request s') (he : request.rackEvidence = some e) :
    ∃ rack record, Restamped s s'
      (if request.kind = .addRack then admittedEvidence e now else e) rack record := by
  cases happlied
  case admitted incoming record m hkind hincoming hvalid hretired hboot hover hroom hrecord
    hstamp =>
    obtain rfl := Option.some.inj ((MutationRequest.rackEvidence_addRack hkind).symm.trans he)
    rw [if_pos hkind]
    refine ⟨incoming.rack, _, ⟨StdMap.find?_insertOrAssign_self .., ?_, ?_, ?_⟩⟩
    · intro hold
      refine (hover _ hold).ne ?_ ?_ ?_ ?_ rfl
      all_goals
        rw [hrecord]
        split_ifs <;> rfl
    · rw [hrecord, hincoming]
      split_ifs <;> rfl
    · rw [hrecord, hincoming]
      split_ifs <;> rfl
  case updated record generation m hkind hfind hboot hexpected hnew hgeneration hm =>
    obtain rfl := Option.some.inj
      ((MutationRequest.rackEvidence_stored (by rw [hkind]; rfl)).symm.trans he)
    rw [if_neg (by rw [hkind]; decide)]
    refine ⟨request.targetRack, _, ⟨StdMap.find?_insertOrAssign_self .., ?_, rfl, rfl⟩⟩
    rw [hfind]
    intro heq
    have hsame : record.reference.generation = generation :=
      congrArg (fun r : RackRecord => r.reference.generation) (Option.some.inj heq)
    exact hgeneration.ne hsame
  case recovered rack boot record m hkind hrack hretired hfind hboot hfenced hlive hgeneration hm =>
    obtain rfl := Option.some.inj
      ((MutationRequest.rackEvidence_stored (by rw [hkind]; rfl)).symm.trans he)
    rw [if_neg (by rw [hkind]; decide)]
    refine ⟨rack, _, ⟨StdMap.find?_insertOrAssign_self .., ?_, rfl, rfl⟩⟩
    rw [hfind]
    intro heq
    have hsame : record.membershipGeneration = m :=
      congrArg RackRecord.membershipGeneration (Option.some.inj heq)
    have hle := hsound rack record hfind
    have hnext := StrongCounter.next_eq_some.mp hm
    rw [hsame, StrongCounter.le_iff] at hle
    omega
  case healthPublished record links c h hkind hfind hretired hboot hnew hlinks hh =>
    obtain rfl := Option.some.inj
      ((MutationRequest.rackEvidence_stored (by rw [hkind]; rfl)).symm.trans he)
    rw [if_neg (by rw [hkind]; decide)]
    refine ⟨request.targetRack, _, ⟨StdMap.find?_insertOrAssign_self .., ?_, rfl, rfl⟩⟩
    rw [hfind]
    intro heq
    refine hnew ⟨?_, ?_⟩
    · exact congrArg (fun r : RackRecord => r.reference.health) (Option.some.inj heq)
    · exact congrArg (fun r : RackRecord => r.reference.evidence.observedAt) (Option.some.inj heq)
  case moved target record m hkind _ _ _ _ _ =>
    rcases MutationRequest.kind_of_rackEvidence he with h | h <;>
      rcases MutationKind.of_membershipTarget hkind with hkind | hkind | hkind <;>
      rw [hkind] at h <;> exact nomatch h
  case domainPublished k _ _ _ _ hkind _ _ _ _ _ _ _ =>
    rcases MutationRequest.kind_of_rackEvidence he with h | h
    · rw [h] at hkind
      exact nomatch hkind
    · rw [MutationKind.domainKind_of_storesEvidence h] at hkind
      exact nomatch hkind
  all_goals
    rename request.kind = _ => hkind
    rcases MutationRequest.kind_of_rackEvidence he with h | h <;> rw [hkind] at h <;>
      exact nomatch h

namespace Coordinator

/-- What the commit of a request leaves of a rewritten rack: current only with
evidence that is fresh at the clock of the commit. -/
def RewrittenFresh (s s' : ClusterState) (now : Timestamp) : Prop :=
  ∀ rack record, s'.racks.find? rack = some record → s.racks.find? rack ≠ some record →
    record.authoritativeCurrent = true →
    classifyFreshness record.reference.evidence.observedAt now
      record.reference.evidence.ttlMillis = .fresh

/-- **A committed request makes racks current with fresh evidence only**, exactly
when the stamp it stores is not expired at the clock of the commit. -/
theorem rewritten_fresh_iff {σ : Type} {fs : FaithfulStore σ} {c : Coordinator σ}
    (hreachable : Reachable fs c)
    (haccepted : (applyAndCommit fs.ops c request now).2.outcome = .accepted) :
    RewrittenFresh c.canonical
        (applyAndCommit fs.ops c request now).1.canonical now ↔
      ∀ e, request.rackEvidence = some e → ¬ e.Expired now := by
  obtain ⟨-, s', g, happlied, hcommitted⟩ := committed_of_accepted _ haccepted
  rw [hcommitted.canonical]
  constructor
  · intro hfresh e he hexpired
    have hsound : ∀ rack record, c.canonical.racks.find? rack = some record →
        record.membershipGeneration ≤ c.canonical.membershipGeneration := by
      intro rack record hfind
      have hhealthy := healthy_of_find? hreachable.sound.healthy hfind
      exact (hhealthy.racks rack record hfind).membership_le
    obtain ⟨rack, record, hrecord⟩ := restamped_of_applied hsound happlied he
    have hstored : EvidenceStamp.Expired
        (if request.kind = .addRack then admittedEvidence e now else e) now := by
      split_ifs
      · exact EvidenceStamp.expired_admittedEvidence.mpr hexpired
      · exact hexpired
    refine hstored.2 ?_
    rw [← hrecord.evidence]
    exact hfresh rack record hrecord.find? hrecord.rewritten (hrecord.current.trans hstored.1)
  · intro hrequest rack record hfind hrewritten hcurrent
    rcases (written_of_applied happlied).racks rack with hkept | hwritten
    · exact absurd (hkept.symm.trans hfind) hrewritten
    · have hfind' : s'.racks.find? rack = some record := hfind
      rw [hfind'] at hwritten
      exact fresh_of_rackWritten hwritten hrequest hcurrent

end Coordinator

end Expired

section Example

namespace Coordinator

open scoped StdSort

/-- A placement domain of rack `r1`, observed at `⟨1⟩` and good for ten
milliseconds, with the freshness that its publisher gives it. -/
def placement (freshness : Freshness) : MutationRequest where
  kind := .publishPlacementDomain
  cluster := .named "alpha"
  authority := { clusterEpoch := .fromRaw 1, coordinatorEpoch := .fromRaw 2 }
  domain
    | .placement => some
        { id := .named "zone"
          detail := PlacementDomainClass.networkTier
          racks := [.named "r1"]
          header :=
            { evidence := { EvidenceStamp.make .reported ⟨1⟩ 10 with freshness := freshness }
              generation := .fromRaw 1 } }
    | _ => none

/-- The cluster with one rack and the placement domain. -/
def placed (freshness : Freshness) : Coordinator (Option PersistedState) :=
  sample (rackEvents ++ [.submit (placement freshness) ⟨4⟩])

/-- A domain that was published as fresh is no longer current after a late
restart. -/
theorem restart_upgrades_nothing_placed :
    ((placed .fresh).canonical.placementDomains.values.any fun domain =>
        domain.header.evidence.isCurrent) = true ∧
      NotUpgraded (placed .fresh).canonical
        (fromPersistedState (toPersistedState (placed .fresh).canonical) (.fromRaw 3) ⟨99⟩) := by
  refine ⟨by decide +kernel, (restart_upgrades_nothing_iff (reachable_sample _) _ _).mpr ⟨?_, ?_⟩⟩
  · intro k
    cases k <;> decide +kernel
  · decide +kernel

/-- A domain that was published as stale is current after a restart within its
time to live. -/
theorem restart_upgrades_placed :
    let s := (placed .stale).canonical
    let s' := fromPersistedState (toPersistedState s) (.fromRaw 3) ⟨5⟩
    (s.placementDomains.values.any fun domain => domain.header.evidence.isCurrent) = false ∧
      (s'.placementDomains.values.any fun domain => domain.header.evidence.isCurrent) = true ∧
      ¬ NotUpgraded s s' := by
  have hbefore : ((placed .stale).canonical.placementDomains.values.any fun domain =>
      domain.header.evidence.isCurrent) = false := by decide +kernel
  have hafter : ((fromPersistedState (toPersistedState (placed .stale).canonical) (.fromRaw 3)
      ⟨5⟩).placementDomains.values.any fun domain => domain.header.evidence.isCurrent) = true := by
    decide +kernel
  refine ⟨hbefore, hafter, fun h => ?_⟩
  exact absurd (hbefore.symm.trans ((h.domains .placement).any hafter)) Bool.false_ne_true

/-- The health of rack `r1`, observed at `⟨2⟩` and good for ten milliseconds. -/
def observation : MutationRequest where
  kind := .publishHealthCurrentness
  cluster := .named "alpha"
  authority :=
    { clusterEpoch := .fromRaw 1
      coordinatorEpoch := .fromRaw 2
      rack := some (.named "r1")
      publication := .fromRaw 2 }
  evidence := .make .reported ⟨2⟩ 10
  health := .healthy

theorem observation_accepted (now : Timestamp) (h : now = ⟨5⟩ ∨ now = ⟨99⟩) :
    (applyAndCommit cellStore.ops (placed .fresh) observation now).2.outcome =
      .accepted := by
  rcases h with rfl | rfl <;> decide +kernel

/-- The observation arrives in time. -/
theorem rewritten_fresh_observation :
    RewrittenFresh (placed .fresh).canonical
      (applyAndCommit cellStore.ops (placed .fresh) observation ⟨5⟩).1.canonical
      ⟨5⟩ := by
  refine (rewritten_fresh_iff (reachable_sample _) (observation_accepted ⟨5⟩ (.inl rfl))).mpr ?_
  intro e he
  obtain rfl : observation.evidence = e := Option.some.inj he
  decide

/-- The observation arrives long after it expired and makes the rack current. -/
theorem rewritten_expired_observation :
    let c := (applyAndCommit cellStore.ops (placed .fresh) observation ⟨99⟩).1
    ((c.canonical.racks.find? (.named "r1")).map fun record =>
        (record.authoritativeCurrent,
          classifyFreshness record.reference.evidence.observedAt ⟨99⟩
            record.reference.evidence.ttlMillis)) = some (true, .stale) ∧
      ¬ RewrittenFresh (placed .fresh).canonical c.canonical ⟨99⟩ := by
  have hold : ((placed .fresh).canonical.racks.find? (.named "r1")).map
      (fun record => record.reference.health) = some .unknown := by decide +kernel
  have hnew : (((applyAndCommit cellStore.ops (placed .fresh) observation
      ⟨99⟩).1.canonical.racks.find? (.named "r1")).map fun record => record.reference.health) =
      some .healthy := by decide +kernel
  have hcurrent : ((applyAndCommit cellStore.ops (placed .fresh) observation
      ⟨99⟩).1.canonical.racks.find? (.named "r1")).map (fun record =>
        (record.authoritativeCurrent, classifyFreshness record.reference.evidence.observedAt ⟨99⟩
          record.reference.evidence.ttlMillis)) = some (true, .stale) := by decide +kernel
  refine ⟨hcurrent, fun h => ?_⟩
  obtain ⟨record, hfind, hrecord⟩ := Option.map_eq_some_iff.mp hcurrent
  obtain ⟨hauthoritative, hstale⟩ := Prod.mk.inj hrecord
  refine absurd (hstale.symm.trans (h _ record hfind ?_ hauthoritative)) (by decide)
  intro hsame
  rw [hfind] at hnew
  rw [hsame] at hold
  exact nomatch hold.symm.trans hnew

end Coordinator

end Example

end ClusterFabric
