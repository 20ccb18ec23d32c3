import ClusterFabric.Model.Snapshot
import ClusterFabric.Verify.Soundness
import ClusterFabric.Verify.Writes

/-! # Weak evidence

A run whose requests carry no measured or reported evidence makes no rack, link or
domain current. The cluster is then consumable only under a contract that asks for
nothing current (`weak_evidence_not_consumable_iff`).
-/

namespace ClusterFabric

open Lib

variable {request : MutationRequest} {contract : ReadinessContract} {now : Timestamp}

/-- The provenances that never make evidence current and are not derived from
what does. -/
def EvidenceProvenance.isWeak : EvidenceProvenance → Bool
  | .unknown | .estimated | .synthetic | .reconstructed => true
  | .measured | .reported | .derived => false

/-- Every evidence stamp that a request carries. -/
def MutationRequest.stamps (request : MutationRequest) : List EvidenceStamp :=
  request.evidence :: request.rackReference.evidence ::
    (request.rackReference.endpoints.map RackEndpoint.evidence ++
      request.rackReference.failureDomainHints.map RackFailureDomainHint.evidence ++
      (DomainKind.all.flatMap fun k =>
        (request.domain k).toList.map fun domain => domain.header.evidence) ++
      request.constraint.toList.map (fun constraint => constraint.header.evidence) ++
      request.link.toList.map fun link => link.header.evidence)

/-- A contract that is not met while nothing is current. -/
def ReadinessContract.demandsCurrent (contract : ReadinessContract) : Bool :=
  decide (0 < contract.minimumCurrentRacks) || !contract.mandatoryRacks.isEmpty ||
    contract.requireAllActiveRacksCurrent || contract.requireConnectivityEvidence ||
    decide (0 < contract.minimumCurrentLinks) ||
    !contract.requiredPlacementDomainClasses.isEmpty ||
    !contract.requiredFailureDomainClasses.isEmpty

/-! ## Stamps -/

theorem EvidenceStamp.Faint.of_isWeak {e : EvidenceStamp} (h : e.provenance.isWeak = true) :
    e.Faint := by
  unfold Faint
  cases hprovenance : e.provenance <;>
    simp_all [EvidenceProvenance.isWeak, isCurrentEvidenceProvenance]

/-- What a request whose stamps are weak carries. -/
structure FaintRequest (request : MutationRequest) : Prop where
  evidence : request.evidence.Faint
  reference : request.rackReference.evidence.Faint
  domain : ∀ k payload, request.domain k = some payload → payload.header.evidence.Faint
  link : ∀ payload, request.link = some payload → payload.header.evidence.Faint

theorem faintRequest_of_stamps (h : ∀ e ∈ request.stamps, e.provenance.isWeak = true) :
    FaintRequest request := by
  have hfaint : ∀ e ∈ request.stamps, e.Faint := fun e he => .of_isWeak (h e he)
  unfold MutationRequest.stamps at hfaint
  refine ⟨hfaint _ (by simp), hfaint _ (by simp), fun k payload hpayload => hfaint _ ?_,
    fun payload hpayload => hfaint _ ?_⟩
  · have hmem : payload.header.evidence ∈ DomainKind.all.flatMap fun k =>
        (request.domain k).toList.map fun domain => domain.header.evidence :=
      List.mem_flatMap.mpr ⟨k, DomainKind.mem_all k, by simp [hpayload]⟩
    simp [hmem]
  · simp [hpayload]

/-! ## Readiness -/

/-- Nothing recorded is current, nor can become so with time. -/
structure FaintRecords (s : ClusterState) : Prop where
  racks : s.racks.All fun _ record => record.authoritativeCurrent = false
  links : s.links.All fun _ link => link.header.evidence.Faint
  domains : ∀ k, (s.domains k).All fun _ domain => domain.header.evidence.Faint

section Readiness

variable {s : ClusterState} (h : FaintRecords s)

include h in
theorem FaintRecords.currentLinks_eq_zero : s.currentLinks = 0 := by
  refine List.countP_eq_zero.mpr fun link hlink => ?_
  obtain ⟨id, -, hfaint⟩ := h.links.of_mem_values hlink
  simp [hfaint.isCurrent]

include h in
theorem FaintRecords.mandatoryBlockers_ne_nil (rack : RackId) : s.mandatoryBlockers rack ≠ [] := by
  unfold ClusterState.mandatoryBlockers
  cases hfind : s.racks.find? rack with
  | none => simp
  | some record =>
    have hcurrent : record.authoritativeCurrent = false := h.racks rack record hfind
    by_cases hactive : isActive record = true
    · simp only [hactive, Bool.not_true, Bool.false_eq_true, if_false, ne_eq, flag_eq_nil]
      simp [isCurrentActive, hcurrent]
    · simp [hactive]

include h in
theorem FaintRecords.any_current_domain {k : DomainKind} (select : Domain k → Bool) :
    ((s.domains k).values.any fun d => select d && d.header.evidence.isCurrent) = false := by
  rw [List.any_eq_false]
  intro domain hdomain
  obtain ⟨id, -, hfaint⟩ := (h.domains k).of_mem_values hdomain
  simp [hfaint.isCurrent]

include h in
/-- A state in which nothing is current has a blocker under every contract that
asks for something current. -/
theorem FaintRecords.readinessBlockers_ne_nil
    (hdemands : s.readinessContract.demandsCurrent = true) : s.readinessBlockers ≠ [] := by
  intro hnil
  have hcount := currentCount_eq_zero h.racks
  have hlinks := h.currentLinks_eq_zero
  simp only [ClusterState.readinessBlockers, ClusterState.countBlockers, ClusterState.rackBlockers,
    ClusterState.linkBlockers, ClusterState.domainClassBlockers, ClusterState.belowMinimumRacks,
    List.append_eq_nil_iff, flag_eq_nil, hcount, hlinks] at hnil
  obtain ⟨⟨⟨⟨⟨⟨hactive, hminimum⟩, hmandatory⟩, hall, -⟩, hconnectivity, hminimumLinks⟩,
    hplacement, hfailure⟩, -⟩ := hnil
  simp only [ReadinessContract.demandsCurrent, Bool.or_eq_true, decide_eq_true_eq] at hdemands
  rcases hdemands with (((((hdemands | hdemands) | hdemands) | hdemands) | hdemands) | hdemands) |
    hdemands
  · exact hminimum (by simpa using UInt64.lt_iff_toNat_lt.mp hdemands)
  · obtain ⟨rack, hrack⟩ := List.exists_mem_of_ne_nil _ (by simpa using hdemands)
    exact h.mandatoryBlockers_ne_nil rack (List.flatMap_eq_nil_iff.mp hmandatory rack hrack)
  · -- some rack is active, and none of those is current
    rw [if_pos hdemands, StdMap.flatMap_entries_eq_nil] at hall
    refine hactive (List.countP_eq_zero.mpr fun record hrecord hisActive => ?_)
    obtain ⟨rack, hfind, hcurrent⟩ := h.racks.of_mem_values hrecord
    have hflag := flag_eq_nil.mp (hall rack record hfind)
    simp [hisActive, hcurrent] at hflag
  · exact hconnectivity ⟨hdemands, trivial⟩
  · exact hminimumLinks (by simpa using UInt64.lt_iff_toNat_lt.mp hdemands)
  · obtain ⟨klass, hklass⟩ := List.exists_mem_of_ne_nil _ (by simpa using hdemands)
    have hflag := flag_eq_nil.mp (List.flatMap_eq_nil_iff.mp hplacement klass hklass)
    exact hflag (congrArg not (h.any_current_domain (k := .placement) _))
  · obtain ⟨klass, hklass⟩ := List.exists_mem_of_ne_nil _ (by simpa using hdemands)
    have hflag := flag_eq_nil.mp (List.flatMap_eq_nil_iff.mp hfailure klass hklass)
    exact hflag (congrArg not (h.any_current_domain (k := .failure) _))

include h in
theorem FaintRecords.reevaluate_not_consumable [StdSort]
    (hdemands : s.readinessContract.demandsCurrent = true) :
    isConsumableLifecycle (Coordinator.reevaluate s).lifecycle = false := by
  unfold Coordinator.reevaluate evaluateReadiness
  dsimp only
  split_ifs
  · rfl
  · rfl
  · exact not_consumable_of_blocked (currentCount_eq_zero h.racks)
      (h.readinessBlockers_ne_nil hdemands)

end Readiness

/-! ## Writes -/

section Writes

variable [StdSort] {s s' : ClusterState}

theorem authoritativeCurrent_of_written (hrequest : FaintRequest request) {rack : RackId}
    {old : Option RackRecord} {record : RackRecord}
    (hwritten : RackWritten now s request rack old (some record))
    (hold : ∀ v, old = some v → v.authoritativeCurrent = false) :
    record.authoritativeCurrent = false := by
  cases hwritten
  case registered => rfl
  case admitted => exact (hrequest.reference.admittedEvidence now).isCurrent
  case updated | recovered | healthPublished => exact hrequest.evidence.isCurrent
  case moved record _ _ _ _ =>
    unfold movedRecord
    split_ifs
    · exact hold record rfl
    · rfl
  case evidenceWithdrawn => rfl
  case clusterRetired => rfl

theorem faint_of_linkWritten (hrequest : FaintRequest request) {id : InterRackLinkId}
    {old : Option InterRackLink} {link : InterRackLink}
    (hwritten : LinkWritten s request id old (some link))
    (hold : ∀ v, old = some v → v.header.evidence.Faint) : link.header.evidence.Faint := by
  cases hwritten
  case published payload _ hpayload _ => exact hrequest.link payload hpayload
  case reported => exact hrequest.evidence
  case evidenceWithdrawn link _ _ _ => exact (hold link rfl).markRevalidationRequired
  case superseded link _ => exact (hold link rfl).markRevalidationRequired

/-- A mutation that carries weak evidence makes nothing current. -/
theorem FaintRecords.written (h : FaintRecords s) (hrequest : FaintRequest request)
    (hwritten : Written now s request s') : FaintRecords s' where
  racks := hwritten.racks.all h.racks fun _ _ _ _ => authoritativeCurrent_of_written hrequest
  links := hwritten.links.all h.links fun _ _ _ _ => faint_of_linkWritten hrequest
  domains := fun k => (hwritten.domains k).all (h.domains k) fun _ _ _ _ hdomain _ => by
    cases hdomain with
    | @published payload _ hpayload _ => exact hrequest.domain k payload hpayload

theorem FaintRecords.fencedState (h : FaintRecords s) (boot : RackAgentBootId) (reason : Text)
    (fencedAt : Timestamp) : FaintRecords (Coordinator.fencedState s boot reason fencedAt) := by
  rw [Coordinator.fencedState_eq]
  refine { h with
    racks := h.racks.updateWhere _ fun _ _ _ => rfl
    links := h.links.updateWhere _ fun _ _ hlink => hlink.markRevalidationRequired }

theorem FaintRecords.recovered (h : FaintRecords s) (epoch : CoordinatorEpoch) (now : Timestamp) :
    FaintRecords (fromPersistedState (toPersistedState s) epoch now) where
  racks := by
    rw [racks_recovered]
    exact h.racks.mapValues fun _ _ _ => rfl
  links := h.links.ofList_values fun _ _ hlink => hlink.markRevalidationRequired
  domains := fun k => (h.domains k).ofList_values fun _ _ hdomain => hdomain.refresh now

end Writes

/-! ## Runs -/

namespace Coordinator

variable {s s' : ClusterState}

section Runs

variable [StdSort] {K : ReadinessContract → Prop}

/-- A state whose records are faint and whose contract is of the class. -/
structure Faint (K : ReadinessContract → Prop) (s : ClusterState) : Prop extends
    FaintRecords s where
  contract : s.epoch.known = true → K s.readinessContract
  lifecycle : isConsumableLifecycle s.lifecycle = false

/-- A request whose evidence is weak, and whose contract is of the class when it
declares the cluster. -/
structure WeakRequest (K : ReadinessContract → Prop) (request : MutationRequest) : Prop where
  weak : ∀ e ∈ request.stamps, e.provenance.isWeak = true
  contract : request.kind = .declareCluster → K request.readinessContract

def WeakEvent (K : ReadinessContract → Prop) : Event → Prop
  | .submit request _ => WeakRequest K request
  | .fence _ _ _ _ => True
  | .restart _ => True

/-- Only a declaration changes the contract. -/
theorem contract_of_applied {config : CoordinatorConfig} (hauthorized : Authorized s request)
    (happlied : Applied config now s request s')
    (hrequest : request.kind = .declareCluster → K request.readinessContract)
    (h : s.epoch.known = true → K s.readinessContract) : K s'.readinessContract := by
  cases hepoch : s.epoch.known with
  | false =>
    obtain ⟨hkind, rfl⟩ := applied_undeclared hauthorized hepoch happlied
    exact hrequest hkind
  | true =>
    cases happlied
    case declared hundeclared => simp [hepoch] at hundeclared
    case redeclared hkind _ _ => exact hrequest hkind
    all_goals exact h hepoch

theorem faint_of_changes (hK : ∀ contract, K contract → contract.demandsCurrent = true)
    {event : Event} (h : Faint K s) (hevent : WeakEvent K event) (hchanges : Changes s event s') :
    Faint K s' := by
  cases hchanges with
  | @accepted config now request s₁ g hauthorized happlied hok hnext =>
    have hrequest : WeakRequest K request := hevent
    have hrecords := h.written (faintRequest_of_stamps hrequest.weak) (written_of_applied happlied)
    have hcontract := contract_of_applied hauthorized happlied hrequest.contract h.contract
    exact { hrecords with
      contract := fun _ => hcontract
      lifecycle := hrecords.reevaluate_not_consumable (hK _ hcontract) }
  | @fenced boot reason fencedAt now g h' hdeclared hpublished hg hh =>
    have hrecords := h.toFaintRecords.fencedState boot reason fencedAt
    have hcontract : K (fencedState s boot reason fencedAt).readinessContract := by
      rw [fencedState_eq]
      exact h.contract hdeclared
    exact { hrecords with
      contract := fun _ => hcontract
      lifecycle := hrecords.reevaluate_not_consumable (hK _ hcontract) }
  | renamed _ => exact { h with }

theorem faint_of_recovers (h : Faint K s) (hrecovers : Recovers (toPersistedState s) s') :
    Faint K s' := by
  obtain ⟨epoch, now, -, rfl⟩ := hrecovers
  exact { h.toFaintRecords.recovered epoch now with
    contract := h.contract
    lifecycle := fromPersistedState_not_consumable _ epoch now }

omit [StdSort] in
theorem faint_freshState (config : CoordinatorConfig) (epoch : CoordinatorEpoch) :
    Faint K (freshState config epoch) where
  racks := .empty
  links := .empty
  domains := fun _ => .empty
  contract := (nomatch ·)
  lifecycle := rfl

variable {σ : Type} {fs : FaithfulStore σ}

theorem faint_run (hK : ∀ contract, K contract → contract.demandsCurrent = true)
    {c : Coordinator σ} (hstarted : Started fs c) {events : List Event}
    (hevents : ∀ event ∈ events, WeakEvent K event) :
    Faint K (run fs.ops c events).canonical := by
  have hreachable : Reachable fs c := ⟨c, [], hstarted, rfl⟩
  obtain ⟨⟨config, epoch, -, hcanonical⟩, hlast⟩ := hstarted.initial
  have hbegins : clusterSystem.Holds (Faint K) (abstraction fs c) := by
    refine ⟨?_, fun p hp => nomatch hlast.symm.trans hp⟩
    change Faint K c.canonical
    rw [hcanonical]
    exact faint_freshState config epoch
  refine hreachable.holds_along ?_ ?_ faint_of_recovers hbegins (along_of_forall _ hevents)
  · rintro c event - _ ⟨epoch, rfl⟩
    exact faint_freshState c.config epoch
  · exact fun c event hevent h s' hchanges => faint_of_changes hK h hevent hchanges

end Runs

/-! ## Contracts that ask for nothing -/

/-- A contract that asks for nothing current, with what else it can ask for. -/
def idleContract (allowPartial allowDegraded requireNoConflicts : Bool) : ReadinessContract where
  minimumCurrentRacks := 0
  requireAllActiveRacksCurrent := false
  allowPartial := allowPartial
  allowDegraded := allowDegraded
  requireNoConflicts := requireNoConflicts

theorem eq_idleContract (h : contract.demandsCurrent = false) :
    contract = idleContract contract.allowPartial contract.allowDegraded
      contract.requireNoConflicts := by
  simp only [ReadinessContract.demandsCurrent, Bool.or_eq_false_iff, decide_eq_false_iff_not,
    Bool.not_eq_false', List.isEmpty_iff, UInt64.not_lt] at h
  obtain ⟨⟨⟨⟨⟨⟨hracks, hmandatory⟩, hall⟩, hconnectivity⟩, hlinks⟩, hplacement⟩, hfailure⟩ := h
  have hracks := UInt64.le_zero_iff.mp hracks
  have hlinks := UInt64.le_zero_iff.mp hlinks
  unfold idleContract
  cases contract
  simp_all

section Idle

open scoped StdSort

variable {K : ReadinessContract → Prop}

/-- The publication of a rack with synthetic evidence. -/
def syntheticRack : MutationRequest :=
  { publishedRack "r1" "b1" with
    rackReference :=
      { (publishedRack "r1" "b1").rackReference with evidence := .make .synthetic ⟨1⟩ 0 } }

/-- The declaration of the sample cluster under a contract, and a synthetic
rack. -/
def syntheticRun (contract : ReadinessContract) : List Event :=
  [.submit { declaration with readinessContract := contract } ⟨2⟩, .submit syntheticRack ⟨3⟩]

theorem weak_syntheticRun (h : K contract) :
    ∀ event ∈ syntheticRun contract, WeakEvent K event := by
  intro event hevent
  rcases List.mem_cons.mp hevent with rfl | hevent
  · have hweak : ∀ e ∈ declaration.stamps, e.provenance.isWeak = true := by decide
    exact ⟨hweak, fun _ => h⟩
  · obtain rfl := List.mem_singleton.mp hevent
    exact ⟨by decide, (nomatch ·)⟩

theorem consumable_syntheticRun (allowPartial allowDegraded requireNoConflicts : Bool) :
    (sample (syntheticRun (idleContract allowPartial allowDegraded
      requireNoConflicts))).canonical.lifecycle = .ready := by
  revert allowPartial allowDegraded requireNoConflicts
  decide +kernel

/-- A contract that asks for nothing current is met by weak evidence. -/
theorem ready_of_weak (h : K contract) (hdemands : contract.demandsCurrent = false) :
    ∃ events, (∀ event ∈ events, WeakEvent K event) ∧
      (sample events).canonical.lifecycle = .ready := by
  refine ⟨syntheticRun contract, weak_syntheticRun h, ?_⟩
  rw [eq_idleContract hdemands]
  exact consumable_syntheticRun _ _ _

end Idle

theorem validate_not_consumable [StdSort] (h : isConsumableLifecycle s.lifecycle = false) :
    (∀ snapshot : ClusterSnapshot, (snapshot.validate s).consumable = false) ∧
      ∀ view : SnapshotView, (view.validateView s).consumable = false := by
  constructor
  · intro snapshot
    unfold ClusterSnapshot.validate
    cases snapshot.state with
    | none => rfl
    | some bound => simp only [h, Bool.and_false]
  · intro view
    simp only [SnapshotView.validateView, h, Bool.and_false]

/-- **Weak evidence never makes a cluster consumable** under the contracts that
ask for something current, and under no others: whatever is submitted, fenced or
restarted, no state on the way is consumable and no snapshot or view of it
validates as such. -/
theorem weak_evidence_not_consumable_iff (K : ReadinessContract → Prop) :
    (∀ [StdSort] {σ : Type} (fs : FaithfulStore σ) (c : Coordinator σ) (events : List Event),
      Started fs c → (∀ event ∈ events, WeakEvent K event) →
      let s := (run fs.ops c events).canonical
      isConsumableLifecycle s.lifecycle = false ∧
        (∀ snapshot : ClusterSnapshot, (snapshot.validate s).consumable = false) ∧
        ∀ view : SnapshotView, (view.validateView s).consumable = false) ↔
      ∀ contract, K contract → contract.demandsCurrent = true := by
  constructor
  · intro hall contract hcontract
    by_contra hdemands
    obtain ⟨events, hweak, hready⟩ := ready_of_weak hcontract (by simpa using hdemands)
    have hnot := (@hall StdSort.insertion _ cellStore _ events
      (@started_sampleStart StdSort.insertion) hweak).1
    exact absurd (hnot.symm.trans (congrArg isConsumableLifecycle hready)) (by decide)
  · intro hK _ σ fs c events hstarted hevents
    have hlifecycle := (faint_run hK hstarted hevents).lifecycle
    exact ⟨hlifecycle, validate_not_consumable hlifecycle⟩

open scoped StdSort in
/-- The permissive contract is met by one synthetic rack. -/
theorem synthetic_cluster_ready :
    let s := (sample (syntheticRun .permissive)).canonical
    (∀ event ∈ syntheticRun .permissive, WeakEvent (fun _ => True) event) ∧
      s.lifecycle = .ready ∧ s.currentCount = 0 ∧
      ((ClusterSnapshot.capture s).validate s).consumable = true :=
  ⟨weak_syntheticRun trivial, by decide +kernel, by decide +kernel, by decide +kernel⟩

end Coordinator

end ClusterFabric
