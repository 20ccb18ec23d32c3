import ClusterFabric.Verify.Completeness
import ClusterFabric.Verify.Resubmission

/-! # Health reports of live racks

What becomes of a health publication that the incarnation of a live rack makes. It
passes every gate; what can still stop it is a counter that is at its end, a store that
refuses, and the check of the links that it rewrites: a report about reachability stamps
every link of the rack with its evidence, those of a superseded topology too, which may
claim nothing (`live_report_answered`).
-/

namespace ClusterFabric

open Lib
open Txn

variable {s' : ClusterState} {config : CoordinatorConfig} {ctx : ApplyContext}

namespace Coordinator

/-! ## Racks have identities -/

/-- Every recorded rack has an identity. -/
def Named (s : ClusterState) : Prop :=
  ∀ rack record, s.racks.find? rack = some record → rack.isEmpty = false

section Named

variable {s : ClusterState}

theorem Named.of_contains (h : Named s)
    (hcontains : ∀ rack, s'.racks.contains rack = true → s.racks.contains rack = true) :
    Named s' := by
  intro rack record hfind
  have hkey : s'.racks.contains rack = true := by
    rw [StdMap.contains, hfind]
    rfl
  obtain ⟨record', hfind'⟩ := Option.isSome_iff_exists.mp (hcontains rack hkey)
  exact h rack record' hfind'

/-- A record is entered under a name, or over another one. -/
theorem Named.insert (h : Named s) {rack : RackId} {record : RackRecord}
    (hracks : s'.racks = s.racks.insertOrAssign rack record) (hrack : rack.isEmpty = false) :
    Named s' := by
  intro r record' hfind
  rw [hracks, StdMap.find?_insertOrAssign] at hfind
  split_ifs at hfind with hr
  · exact hr ▸ hrack
  · exact h r record' hfind

theorem Named.demoted (h : Named s) (hdemoted : DemotedRecords s s') : Named s' :=
  h.of_contains fun rack hkey => hdemoted.racks.contains_eq rack ▸ hkey

variable [StdSort]

theorem named_of_applied {now : Timestamp} {request : MutationRequest} (h : Named s)
    (happlied : Applied config now s request s') : Named s' := by
  cases happlied
  case registered hrack _ _ _ _ _ => exact h.insert rfl hrack
  case admitted hvalid _ _ _ _ _ _ =>
    exact h.insert rfl (referenceOk_of_isOk hvalid).rack
  case updated hfind _ _ _ _ _ | moved hfind _ _ _ _ | recovered hfind _ _ _ _ _
    | healthPublished hfind _ _ _ _ _ | evidenceWithdrawn hfind _ _ =>
    exact h.insert rfl (h _ _ hfind)
  case clusterRetired =>
    refine h.of_contains fun rack hkey => ?_
    rw [StdMap.contains, StdMap.find?_updateWhere, Option.isSome_map] at hkey
    exact hkey
  all_goals exact h

theorem inductive_named : clusterSystem.Inductive Named where
  initial := by
    rintro _ ⟨config, epoch, -, rfl⟩ rack record hfind
    exact nomatch hfind
  evolves := by
    rintro s _ h (⟨-, happlied, -, -⟩ | ⟨reason, fencedAt, now, -, -, hg, -⟩)
    · have hnamed := named_of_applied h happlied
      exact hnamed
    · rename_i boot g health
      exact h.demoted (demotes_fence s boot reason fencedAt now hg health).toDemotedRecords
  slips := by
    rintro s _ h ⟨request, -, rfl⟩
    exact h
  recovers := by
    rintro s _ h ⟨epoch, now, -, rfl⟩
    refine h.of_contains fun rack hkey => ?_
    change (fromPersistedState (toPersistedState s) epoch now).racks.contains rack = true at hkey
    rw [racks_recovered, StdMap.contains, StdMap.find?_mapValues, Option.isSome_map] at hkey
    exact hkey

end Named

/-! ## Reports -/

/-- A health publication under current epochs by the incarnation and the publisher of a
live rack, newer than what the rack published. -/
structure LiveReport (s : ClusterState) (request : MutationRequest) (record : RackRecord) :
    Prop where
  kind_eq : request.kind = .publishHealthCurrentness
  cluster_eq : request.cluster = s.id
  clusterEpoch_eq : request.authority.clusterEpoch = s.epoch
  coordinatorEpoch_eq : request.authority.coordinatorEpoch = s.coordinatorEpoch
  find_eq : s.racks.find? request.targetRack = some record
  active : record.membership = .active
  notRetired : s.isRackRetired request.targetRack = false
  current : record.authoritativeCurrent = true
  boot_eq : request.authority.boot = some record.reference.boot
  publisher_eq : request.authority.publisher = record.reference.publisher
  newer : record.reference.publication < request.authority.publication
  evidence : isCurrentEvidenceProvenance request.evidence.provenance = true

/-- The report says what is recorded. -/
def Repeats (request : MutationRequest) (record : RackRecord) : Prop :=
  record.reference.health = request.health ∧
    record.reference.evidence.observedAt = request.evidence.observedAt

/-- What the report leaves, if no counter is at its end. -/
def reportedState (s : ClusterState) (request : MutationRequest) (record : RackRecord) :
    Option ClusterState := do
  let connectivity ←
    if request.reachability = .unknown then some s.connectivityGeneration
    else s.connectivityGeneration.next
  let health ← s.healthGeneration.next
  some
    { s with
      racks := s.racks.insertOrAssign request.targetRack (healthRecord s request record)
      links :=
        if request.reachability = .unknown then s.links
        else s.links.updateWhere (InterRackLink.touches request.targetRack) (reportedLink request)
      connectivityGeneration := connectivity
      healthGeneration := health }

/-- The report claims nothing about a link of a superseded topology. -/
def ClaimsNothingSuperseded (s : ClusterState) (request : MutationRequest) : Prop :=
  request.reachability ≠ .unknown → ∀ id link, s.links.find? id = some link →
    InterRackLink.touches request.targetRack link = true → link.topologyEpoch ≠ s.topologyEpoch →
    request.evidence.requiresRevalidation = true ∧ request.reachability ≠ .reachable ∧
      request.reachability ≠ .unreachable

section Reports

variable [StdSort] {s : ClusterState} {request : MutationRequest} {record : RackRecord}
  {now : Timestamp}

/-- A live rack is in a healthy state. -/
theorem LiveReport.healthy (h : LiveReport s request record) (hsound : Sound s) : Healthy s :=
  healthy_of_find? hsound.healthy h.find_eq

theorem LiveReport.authorized (h : LiveReport s request record) (hhealthy : Healthy s) :
    CurrentAuthority s request where
  cluster_eq := h.cluster_eq
  declared := hhealthy.scalars.epoch
  clusterEpoch_eq := h.clusterEpoch_eq
  coordinatorEpoch_eq := h.coordinatorEpoch_eq
  accepts := by
    refine bne_iff_ne.mpr fun hretired => ?_
    have hcurrent := hhealthy.retired hretired _ _ h.find_eq
    rw [h.current] at hcurrent
    exact absurd hcurrent.symm Bool.false_ne_true

theorem LiveReport.authority (h : LiveReport s request record) (hhealthy : Healthy s) :
    AuthorityOk s request.targetRack record :=
  (hhealthy.racks _ _ h.find_eq).authority h.current

/-- The incarnation of a live rack passes the boot gate. -/
theorem LiveReport.owns (h : LiveReport s request record) :
    OwnsRecord request request.targetRack record := by
  intro boot hboot
  obtain rfl := Option.some.inj (h.boot_eq.symm.trans hboot)
  refine ⟨fun _ => rfl, fun publisher hpublisher owner howner => ?_, ?_⟩
  · rw [h.publisher_eq, howner] at hpublisher
    exact (Option.some.inj hpublisher).symm
  · have hlt : ¬request.authority.publication.value ≤ record.reference.publication.value :=
      not_le.mpr h.newer
    simp [staleReplay, hlt]

/-- The early returns of a report: it repeats what is recorded, or a counter is at its
end. -/
def ReportExit (s : ClusterState) (request : MutationRequest) (record : RackRecord)
    (early : EarlyReturn) : Prop :=
  Repeats request record ∧ early.result.outcome = .noChange ∨
    ¬Repeats request record ∧ reportedState s request record = none ∧
      early.result.outcome = .rejected

theorem exitsIn_applyPublishHealth (h : LiveReport ctx.state request record)
    (hhealthy : Healthy ctx.state) (hnamed : request.targetRack.isEmpty = false) :
    ExitsIn (ReportExit ctx.state request record) (applyPublishHealth request) ctx := by
  have hboot : Ends (validateBoot request request.targetRack) ctx () ctx := by
    refine ends_validateBoot h.find_eq (fun boot hboot => ?_) h.owns
    obtain rfl := Option.some.inj (h.boot_eq.symm.trans hboot)
    exact (h.authority hhealthy).notFenced
  have hpasses : ExitsIn (ReportExit ctx.state request record)
      (validateBoot request request.targetRack) ctx := by
    intro early ctx' hexit
    cases congrArg Prod.fst (hboot.symm.trans hexit)
  simp only [applyPublishHealth, exitsIn_bind, exitsIn_get, ends_get, true_and, exitsIn_exitIf,
    exitsIn_ofOption, ends_ofOption, ends_exitIf]
  rintro ctx _ ⟨rfl, rfl⟩
  refine ⟨fun hempty => absurd hempty (by simp [hnamed]), ?_⟩
  rintro _ _ ⟨-, rfl⟩
  refine ⟨fun hnone => absurd hnone (by simp [h.find_eq]), ?_⟩
  rintro _ _ ⟨hfind, rfl⟩
  obtain rfl := Option.some.inj (h.find_eq.symm.trans hfind)
  refine ⟨fun hretired => absurd hretired (by simp [h.notRetired]), ?_⟩
  rintro _ _ ⟨-, rfl⟩
  refine ⟨hpasses, fun _ ctx' hends => ?_⟩
  obtain ⟨-, rfl⟩ := Prod.mk.inj (hends.symm.trans hboot)
  refine ⟨fun hrepeats => .inl ⟨hrepeats, rfl⟩, ?_⟩
  rintro _ ctx ⟨hnew, rfl⟩
  have hexhausted (overflow : EarlyReturn) (hrejected : overflow.result.outcome = .rejected)
      (hnone : reportedState ctx.state request record = none) :
      ReportExit ctx.state request record overflow := .inr ⟨hnew, hnone, hrejected⟩
  refine ⟨exitsIn_modify, fun _ ctx₁ hassign => ?_⟩
  obtain rfl := ends_modify.mp hassign
  refine ⟨?_, fun _ ctx₂ hlinks => ⟨?_, fun _ ctx₃ _ => exitsIn_modify⟩⟩
  · rw [exitsIn_when]
    intro hreachability
    rw [exitsIn_bind]
    refine ⟨exitsIn_modify, fun _ ctx₂ hrewrite => (exitsIn_bump ctx₂).mpr fun hnone => ?_⟩
    obtain rfl := ends_modify.mp hrewrite
    refine hexhausted _ rfl ?_
    replace hnone : ctx.state.connectivityGeneration.next = none := by
      simpa [ApplyContext.state, Apply.connectivityCounter] using hnone
    simp [reportedState, hreachability, hnone]
  · obtain ⟨links, g, -, hstate⟩ := linksRewritten_of_ends hlinks
    refine (exitsIn_bump ctx₂).mpr fun hnone => hexhausted _ rfl ?_
    rw [hstate] at hnone
    replace hnone : ctx.state.healthGeneration.next = none := by
      simpa [ApplyContext.state, Apply.healthCounter] using hnone
    simp [reportedState, hnone]

/-! ## Completed reports -/

omit [StdSort] in
theorem reportedState_of_rewritten {links : StdMap InterRackLinkId InterRackLink}
    {g : ConnectivityGeneration} {g' : HealthGeneration}
    (hlinks : LinksRewritten s (request.reachability ≠ .unknown)
      (InterRackLink.touches request.targetRack) (reportedLink request) links g)
    (hnext : s.healthGeneration.next = some g') :
    reportedState s request record = some
      { s with
        racks := s.racks.insertOrAssign request.targetRack (healthRecord s request record)
        links := links
        connectivityGeneration := g
        healthGeneration := g' } := by
  rcases hlinks with ⟨hreachability, rfl, hg⟩ | ⟨hreachability, rfl, rfl⟩
  · simp [reportedState, hreachability, hg, hnext]
  · simp [reportedState, not_not.mp hreachability, hnext]

theorem reportedState_of_applied (h : LiveReport s request record)
    (happlied : Applied config now s request s') :
    reportedState s request record = some s' ∧ ¬Repeats request record := by
  have hkind := h.kind_eq
  cases happlied
  case healthPublished hfind _ _ hnew hlinks hnext =>
    obtain rfl := Option.some.inj (hfind.symm.trans h.find_eq)
    exact ⟨reportedState_of_rewritten hlinks hnext, hnew⟩
  all_goals simp_all [MutationKind.membershipTarget, MutationKind.domainKind]

/-- The record that a report leaves is in order. -/
theorem LiveReport.rackOk (h : LiveReport s request record) (hhealthy : Healthy s) :
    RackOk s request.targetRack (healthRecord s request record) := by
  have hold := hhealthy.racks _ _ h.find_eq
  have hauthority := hold.authority h.current
  have hprovenance := h.evidence
  refine ⟨hold.rack_eq, hold.generation, hold.endpoints_le, hold.hints_le, ?_, hold.membership_le,
    fun _ => ⟨hauthority.notFenced, h.notRetired, ?_, ?_⟩⟩
  · intro hunknown
    exact nomatch h.active.symm.trans hunknown
  · intro hunknown
    replace hunknown : request.evidence.provenance = .unknown := hunknown
    rw [hunknown] at hprovenance
    exact absurd hprovenance Bool.false_ne_true
  · intro hreconstructed
    replace hreconstructed : request.evidence.provenance = .reconstructed := hreconstructed
    rw [hreconstructed] at hprovenance
    exact absurd hprovenance Bool.false_ne_true

/-- A completed report passes the check exactly when it claims nothing about a link of a
superseded topology. -/
theorem verified_iff_claimsNothing (h : LiveReport s request record) (hsound : Sound s)
    (hsteady : Steady s) (happlied : Applied config now s request s') :
    (checkInvariants (reevaluate s') none).isOk = true ↔ ClaimsNothingSuperseded s request := by
  have hhealthy := h.healthy hsound
  have hkind : request.kind ≠ .declareCluster := by
    rw [h.kind_eq]
    exact nofun
  have htimed := timed_of_applied (hsteady.paced hhealthy.scalars.epoch) hhealthy.scalars.epoch
    happlied
  have hretired := unauthorized_of_retired hkind (h.authorized hhealthy).accepts happlied
  have hnamed := hhealthy.scalars.id_nonempty
  have hdeclared := hhealthy.scalars.epoch
  have hreport := h.kind_eq
  rw [checkInvariants_isOk]
  cases happlied
  case healthPublished g' _ hfind _ _ _ hlinks hnext =>
    obtain rfl := Option.some.inj (hfind.symm.trans h.find_eq)
    constructor
    · intro hverified hreachability id link hlink htouches hepoch
      have hchecked := healthy_of_find? hverified (StdMap.find?_insertOrAssign_self _ _ _)
      rcases hlinks with ⟨-, rfl, -⟩ | ⟨hno, -⟩
      · have hfound : (s.links.updateWhere (InterRackLink.touches request.targetRack)
            (reportedLink request)).find? id = some (reportedLink request link) := by
          simp [hlink, htouches]
        obtain ⟨hrevalidation, hreachable, hunreachable, -⟩ :=
          (hchecked.links _ _ hfound).superseded hepoch
        exact ⟨hrevalidation, hreachable, hunreachable⟩
      · exact absurd hreachability hno
    · intro hclaims
      refine .inr (healthy_reevaluate ?_ htimed hnamed hdeclared hretired)
      refine hsound.filed.reported g' hfind rfl (h.rackOk hhealthy) hlinks ?_
      intro hreachability id link hlink htouches
      have hold := hhealthy.links id link hlink
      refine { hold with superseded := fun hepoch => ?_ }
      obtain ⟨hrevalidation, hreachable, hunreachable⟩ :=
        hclaims hreachability id link hlink htouches hepoch
      exact ⟨hrevalidation, hreachable, hunreachable, (hold.superseded hepoch).2.2.2⟩
  all_goals simp_all [MutationKind.membershipTarget, MutationKind.domainKind]

end Reports

/-! ## Answers -/

section Answers

variable [StdSort] {σ : Type} (ops : PersistenceStore σ) {c : Coordinator σ}
  {request : MutationRequest} {record : RackRecord} {now : Timestamp}

/-- The report is committed: no counter is at its end, and the store does not refuse. -/
def CommitsReport (c : Coordinator σ) (request : MutationRequest) (record : RackRecord)
    (now : Timestamp) : Prop :=
  ∃ s g, reportedState c.canonical request record = some s ∧ s.generation.next = some g ∧
    ¬SaveRefused ops c.config c.store (committed s g now)

/-- A report of a live rack passes the common gate. -/
theorem exitsIn_applyRequest_report (h : LiveReport ctx.state request record)
    (hhealthy : Healthy ctx.state) (hnamed : request.targetRack.isEmpty = false) :
    ExitsIn (ReportExit ctx.state request record) (applyRequest request) ctx := by
  have hvalid : request.cluster.isValid = true := by
    have hid := hhealthy.scalars.id_nonempty
    rw [StrongId.isEmpty_eq_not_isValid, Bool.not_eq_false'] at hid
    rw [h.cluster_eq, hid]
  have hcommon : Ends (validateCommon request) ctx () ctx := by
    refine ends_validateCommon hvalid ?_ ?_ (h.authorized hhealthy)
    · rw [h.kind_eq]
      exact nofun
    · rw [h.kind_eq]
      exact nofun
  have hbody := exitsIn_applyPublishHealth h hhealthy hnamed
  rw [applyRequest, exitsIn_bind]
  refine ⟨fun early ctx' hexit => ?_, fun u ctx' hends => ?_⟩
  · exact nomatch congrArg Prod.fst (hcommon.symm.trans hexit)
  · obtain ⟨-, rfl⟩ := Prod.mk.inj (hends.symm.trans hcommon)
    rw [applyKind, h.kind_eq]
    exact hbody

/-- **Reports of a live rack.** In every reachable state, a report is accepted or changes
nothing exactly when it repeats what is recorded, or claims nothing about a link of a
superseded topology and is committed. It is answered that the invariants are violated
exactly when it is new, its counters can be advanced and it makes such a claim. -/
theorem live_report_answered {fs : FaithfulStore σ} (hreachable : Reachable fs c)
    (h : LiveReport c.canonical request record) (now : Timestamp) :
    ((applyAndCommit fs.ops c request now).2.outcome = .accepted ∨
        (applyAndCommit fs.ops c request now).2.outcome = .noChange ↔
      Repeats request record ∨ ClaimsNothingSuperseded c.canonical request ∧
        CommitsReport fs.ops c request record now) ∧
    ((applyAndCommit fs.ops c request now).2.reason = .invariantViolation ↔
      ¬Repeats request record ∧ (reportedState c.canonical request record).isSome = true ∧
        ¬ClaimsNothingSuperseded c.canonical request) := by
  have hsound := hreachable.sound
  have hsteady := (hreachable.holds inductive_steady).1
  have hnamed := (hreachable.holds inductive_named).1 _ _ h.find_eq
  rcases happly : applyRequest request (startContext c now) with ⟨early | ⟨⟩, ctx⟩
  · have hlive : LiveReport (startContext c now).state request record := h
    have hexit : ReportExit c.canonical request record early :=
      exitsIn_applyRequest_report hlive (h.healthy hsound) hnamed early ctx happly
    obtain ⟨houtcome, hreason⟩ := answer_early fs.ops happly
    have hunverified := unverified_applyRequest request (startContext c now) early ctx happly
    rw [houtcome, hreason]
    rcases hexit with ⟨hrepeats, hsame⟩ | ⟨hnew, hnone, hrejected⟩
    · exact ⟨iff_of_true (.inr hsame) (.inl hrepeats),
        iff_of_false hunverified fun hviolated => hviolated.1 hrepeats⟩
    · refine ⟨iff_of_false ?_ ?_, iff_of_false hunverified ?_⟩
      · simp [hrejected]
      · rintro (hrepeats | ⟨-, s, g, hstate, -⟩)
        · exact hnew hrepeats
        · exact nomatch hnone.symm.trans hstate
      · rintro ⟨-, hsome, -⟩
        simp [hnone] at hsome
  · obtain ⟨hauthorized, happlied⟩ := applied_of_ends happly
    obtain ⟨hstate, hnew⟩ := reportedState_of_applied h happlied
    have hverified : (checkInvariants (reevaluate ctx.journal.state) none).isOk = true ↔
        ClaimsNothingSuperseded c.canonical request :=
      verified_iff_claimsNothing h hsound hsteady happlied
    rw [applyAndCommit_complete _ happly, violated_commitChanged, hverified]
    constructor
    · rcases outcome_commitChanged fs.ops c request now ctx.journal with
        ⟨haccepted, hok, g, hg, hsaved⟩ | ⟨hrejected, hwhy⟩
      · exact iff_of_true (.inl haccepted) (.inr ⟨hverified.mp hok, _, g, hstate, hg, hsaved⟩)
      · refine iff_of_false (by simp [hrejected]) ?_
        rintro (hrepeats | ⟨hclaims, s, g, hstate', hg, hsaved⟩)
        · exact hnew hrepeats
        · obtain rfl := Option.some.inj (hstate.symm.trans hstate')
          exact hsaved (hwhy (hverified.mpr hclaims) g hg)
    · simp [hnew, hstate]

end Answers

section Example

open scoped StdSort

instance (s : ClusterState) (request : MutationRequest) (record : RackRecord) :
    Decidable (LiveReport s request record) :=
  decidable_of_iff
    (request.kind = .publishHealthCurrentness ∧ request.cluster = s.id ∧
      request.authority.clusterEpoch = s.epoch ∧
      request.authority.coordinatorEpoch = s.coordinatorEpoch ∧
      s.racks.find? request.targetRack = some record ∧ record.membership = .active ∧
      s.isRackRetired request.targetRack = false ∧ record.authoritativeCurrent = true ∧
      request.authority.boot = some record.reference.boot ∧
      request.authority.publisher = record.reference.publisher ∧
      record.reference.publication < request.authority.publication ∧
      isCurrentEvidenceProvenance request.evidence.provenance = true)
    ⟨fun ⟨h₁, h₂, h₃, h₄, h₅, h₆, h₇, h₈, h₉, h₁₀, h₁₁, h₁₂⟩ =>
        ⟨h₁, h₂, h₃, h₄, h₅, h₆, h₇, h₈, h₉, h₁₀, h₁₁, h₁₂⟩,
      fun ⟨h₁, h₂, h₃, h₄, h₅, h₆, h₇, h₈, h₉, h₁₀, h₁₁, h₁₂⟩ =>
        ⟨h₁, h₂, h₃, h₄, h₅, h₆, h₇, h₈, h₉, h₁₀, h₁₁, h₁₂⟩⟩

/-- Rack `r1` reports that it is healthy and reachable. -/
def liveReport : MutationRequest where
  kind := .publishHealthCurrentness
  cluster := .named "alpha"
  authority :=
    { clusterEpoch := .fromRaw 1
      coordinatorEpoch := .fromRaw 2
      rack := some (.named "r1")
      boot := some (.named "b1")
      publisher := some (.named "agent")
      publication := .fromRaw 2 }
  health := .healthy
  reachability := .reachable
  evidence := .make .reported ⟨6⟩ 0

def reporter {σ : Type} (c : Coordinator σ) : RackRecord :=
  (c.canonical.racks.find? (.named "r1")).getD {}

/-- The topology of the link is superseded. -/
def supersededEvents : List Event :=
  linkedEvents ++ [.submit
    { kind := .supersedeTopology
      cluster := .named "alpha"
      authority := { clusterEpoch := .fromRaw 1, coordinatorEpoch := .fromRaw 2 }
      targetTopologyEpoch := some (.fromRaw 2) } ⟨6⟩]

/-- A store with room for a number of saves. -/
def quotaStore : FaithfulStore (Nat × Option PersistedState) where
  save p
    | (0, last) => ({ status := .ioError }, 0, last)
    | (room + 1, _) => ({ ok := true }, room, some p)
  load content := cellStore.load content.2
  last content := content.2
  last_save_ok p content h := by
    rcases content with ⟨_ | room, last⟩
    · simp at h
    · rfl
  last_save_failed p content h := by
    rcases content with ⟨_ | room, last⟩
    · rfl
    · simp at h
  loaded_load content := cellStore.loaded_load content.2

/-- Rack `r1` was admitted, and then the store was full. -/
def fullSample : Coordinator (Nat × Option PersistedState) :=
  run quotaStore.ops
    (start quotaStore.ops { cluster := .named "alpha" } (some (2, none)) ⟨1⟩)
    rackEvents

theorem answers_liveReport :
    (LiveReport (sample linkedEvents).canonical liveReport (reporter (sample linkedEvents)) ∧
      (applyAndCommit cellStore.ops (sample linkedEvents) liveReport ⟨7⟩).2.outcome =
        .accepted) ∧
    (LiveReport fullSample.canonical liveReport (reporter fullSample) ∧
      (applyAndCommit quotaStore.ops fullSample liveReport ⟨7⟩).2.outcome =
        .rejected ∧
      (applyAndCommit quotaStore.ops fullSample liveReport ⟨7⟩).2.reason =
        .persistenceFailed) ∧
    (LiveReport (sample supersededEvents).canonical liveReport
      (reporter (sample supersededEvents)) ∧
      (applyAndCommit cellStore.ops (sample supersededEvents) liveReport
          ⟨7⟩).2.outcome = .rejected ∧
      (applyAndCommit cellStore.ops (sample supersededEvents) liveReport
          ⟨7⟩).2.reason = .invariantViolation) := by
  decide +kernel

theorem live_report_answered_linked :
    (Repeats liveReport (reporter (sample linkedEvents)) ∨
      ClaimsNothingSuperseded (sample linkedEvents).canonical liveReport ∧
        CommitsReport cellStore.ops (sample linkedEvents) liveReport
          (reporter (sample linkedEvents)) ⟨7⟩) ∧
    ¬ClaimsNothingSuperseded (sample supersededEvents).canonical liveReport := by
  obtain ⟨⟨hlive, haccepted⟩, -, hlive', -, hviolated⟩ := answers_liveReport
  have hlinked := live_report_answered (reachable_sample linkedEvents) hlive ⟨7⟩
  have hsuperseded := live_report_answered (reachable_sample supersededEvents) hlive' ⟨7⟩
  exact ⟨hlinked.1.mp (.inl haccepted), (hsuperseded.2.mp hviolated).2.2⟩

/-- A report of a live rack is refused when the store is full, and when it tells of a
link of a superseded topology. -/
theorem live_report_refused :
    (∃ (c : Coordinator (Nat × Option PersistedState)) (record : RackRecord),
      Reachable quotaStore c ∧ LiveReport c.canonical liveReport record ∧
      (applyAndCommit quotaStore.ops c liveReport ⟨7⟩).2.outcome = .rejected ∧
      (applyAndCommit quotaStore.ops c liveReport ⟨7⟩).2.reason =
        .persistenceFailed) ∧
    (∃ (c : Coordinator (Option PersistedState)) (record : RackRecord),
      Reachable cellStore c ∧ LiveReport c.canonical liveReport record ∧
      (applyAndCommit cellStore.ops c liveReport ⟨7⟩).2.outcome = .rejected ∧
      (applyAndCommit cellStore.ops c liveReport ⟨7⟩).2.reason =
        .invariantViolation) := by
  obtain ⟨-, hfull, hsuperseded⟩ := answers_liveReport
  exact ⟨⟨fullSample, _, ⟨_, _, ⟨_, _, _, rfl, rfl⟩, rfl⟩, hfull⟩,
    ⟨_, _, reachable_sample supersededEvents, hsuperseded⟩⟩

end Example

end Coordinator

end ClusterFabric
