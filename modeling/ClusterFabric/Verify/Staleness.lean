import ClusterFabric.Verify.AgentRuns
import ClusterFabric.Verify.FencedLinks
import ClusterFabric.Verify.Republication

/-! # Stale requests of an agent

Whether the coordinator takes a request of an agent for stale. The numbers that an agent
takes stay ahead of the one that is recorded for its rack, as long as nobody else writes
that record (`Ahead.next`); the generations of links and domains are another matter,
since they are compared with what anybody recorded under the same identity.
-/

namespace ClusterFabric

open Lib
open Txn

variable {reason : RejectionReason} {stage : ErrorStage}

/-! ## Stale answers -/

/-- The request publishes a link or a domain that is recorded at a newer generation. -/
inductive Outdated (s : ClusterState) (request : MutationRequest) : Prop
  | link {link recorded : InterRackLink} (hkind : request.kind = .publishInterRackLink)
      (hlink : request.link = some link) (hfind : s.links.find? link.id = some recorded)
      (holder : link.header.generation < recorded.header.generation)
  | domain {k : DomainKind} {domain recorded : Domain k}
      (hkind : request.kind.domainKind = some k) (hdomain : request.domain k = some domain)
      (hfind : (s.domains k).find? domain.id = some recorded)
      (holder : domain.header.generation < recorded.header.generation)

/-- The reason does not say that the request is stale, unless there is a cause. -/
def RejectionReason.StaleOnlyFor (cause : Prop) (reason : RejectionReason) : Prop :=
  reason ≠ .staleRackBoot ∧ (reason = .stalePublication → cause)

/-- The same of an early return. -/
def EarlyReturn.StaleOnlyFor (cause : Prop) (early : EarlyReturn) : Prop :=
  early.result.reason.StaleOnlyFor cause

section Exits

variable {cause : Prop}

@[simp] theorem staleOnlyFor_rejectWith {subject detail code : Text} :
    (rejectWith reason stage subject detail code).StaleOnlyFor cause ↔
      reason ≠ .staleRackBoot ∧ (reason = .stalePublication → cause) := Iff.rfl

@[simp] theorem staleOnlyFor_reject {subject detail : Text} :
    (reject reason stage subject detail).StaleOnlyFor cause ↔
      reason ≠ .staleRackBoot ∧ (reason = .stalePublication → cause) := Iff.rfl

@[simp] theorem staleOnlyFor_acceptedNoChange {detail : String} :
    (acceptedNoChange detail).StaleOnlyFor cause := ⟨nofun, nofun⟩

/-- The number `used` of an incarnation that is not fenced is past the one that is
recorded for the rack under it. -/
structure Ahead (s : ClusterState) (boot : RackAgentBootId) (rack : RackId)
    (used : PublicationGeneration) : Prop where
  notFenced : s.isBootFenced boot = false
  newer : ∀ record, s.racks.find? rack = some record → record.reference.boot = boot →
    record.reference.publication < used

variable {request : MutationRequest} {ctx : ApplyContext} {boot : RackAgentBootId} {rack : RackId}

theorem staleOnlyFor_validateCommon :
    ExitsIn (EarlyReturn.StaleOnlyFor cause) (validateCommon request) ctx := by
  simp [validateCommon]

/-- The boot gate, for a number that is ahead. -/
theorem staleOnlyFor_validateBoot [StdSort]
    (hahead : Ahead ctx.state boot rack request.authority.publication)
    (hboot : request.authority.boot = some boot) :
    ExitsIn (EarlyReturn.StaleOnlyFor cause) (validateBoot request rack) ctx := by
  have hnot (record : RackRecord) (hfind : ctx.state.racks.find? rack = some record) :
      staleReplay request rack boot record = false := by
    by_cases hsame : record.reference.boot = boot
    · have hlt := hahead.newer record hfind hsame
      have hnle : ¬ request.authority.publication.value ≤ record.reference.publication.value :=
        not_le.mpr hlt
      simp [staleReplay, hnle]
    · simp [staleReplay, hsame]
  simp only [validateBoot, exitsIn_bind, exitsIn_get, ends_get, hboot, exitsIn_exitIf, ends_exitIf,
    true_and]
  rintro _ _ ⟨rfl, rfl⟩
  refine ⟨fun hfenced => absurd (hahead.notFenced.symm.trans hfenced) Bool.false_ne_true, ?_⟩
  rintro _ _ ⟨-, rfl⟩
  split
  · exact exitsIn_pure
  · rename_i record hfind
    simp [hnot record hfind]

theorem staleOnlyFor_stampMembership (record : RackRecord) :
    ExitsIn (EarlyReturn.StaleOnlyFor cause) (stampMembership record) ctx := by
  simp [stampMembership, membershipOverflow]

/-- The publication of a rack, under a number that is ahead in the authority and in the
reference. -/
theorem staleOnlyFor_applyAddRack [StdSort]
    (hahead : Ahead ctx.state boot request.rackReference.rack request.authority.publication)
    (hboot : request.authority.boot = some boot)
    (hreference : request.rackReference.boot = boot)
    (hnumber : request.rackReference.publication = request.authority.publication) :
    ExitsIn (EarlyReturn.StaleOnlyFor cause) (applyAddRack request) ctx := by
  have hadmits (record : RackRecord)
      (hfind : ctx.state.racks.find? request.rackReference.rack = some record) :
      ¬ (record.reference.boot = (canonicalize request.rackReference).boot ∧
        (canonicalize request.rackReference).publication.value ≤
          record.reference.publication.value) := by
    rintro ⟨hsame, hle⟩
    have hlt := hahead.newer record hfind (hsame.trans hreference)
    rw [← hnumber] at hlt
    exact absurd hle (not_le.mpr hlt)
  refine exitsIn_exitIf_bind (by simp) fun _ => ?_
  refine exitsIn_get_bind ?_
  refine exitsIn_exitIf_bind (by simp) fun _ => ?_
  refine exitsIn_bind.mpr ⟨staleOnlyFor_validateBoot hahead hboot, fun _ _ _ => ?_⟩
  refine exitsIn_bind.mpr ⟨?_, fun _ _ _ => ?_⟩
  · refine exitsIn_forSome.mpr fun record hfind => ?_
    have hnot := hadmits record hfind
    simp [admitOver, hnot]
  · simp [staleOnlyFor_stampMembership, Apply.assign]

/-- A generation update, under a number that is ahead. -/
theorem staleOnlyFor_applyUpdateRackGeneration [StdSort]
    (hahead : Ahead ctx.state boot request.targetRack request.authority.publication)
    (hboot : request.authority.boot = some boot) :
    ExitsIn (EarlyReturn.StaleOnlyFor cause) (applyUpdateRackGeneration request) ctx := by
  refine exitsIn_get_bind ?_
  refine exitsIn_exitIf_bind (by simp) fun _ => ?_
  refine exitsIn_ofOption_bind (by simp [notAMember]) fun record hfind => ?_
  refine exitsIn_bind.mpr ⟨staleOnlyFor_validateBoot hahead hboot, fun _ _ _ => ?_⟩
  simp [staleOnlyFor_stampMembership, Apply.assign]

theorem staleOnlyFor_applyPublishLink [StdSort] (hkind : request.kind = .publishInterRackLink) :
    ExitsIn (EarlyReturn.StaleOnlyFor (Outdated ctx.state request)) (applyPublishLink request)
      ctx := by
  refine exitsIn_get_bind ?_
  refine exitsIn_ofOption_bind (by simp) fun payload hpayload => ?_
  have hover (recorded : InterRackLink) (hfind : ctx.state.links.find? payload.id = some recorded)
      (holder : payload.header.generation.value < recorded.header.generation.value) :
      Outdated ctx.state request :=
    .link hkind hpayload hfind holder
  simp +contextual [checkLinkReferences, linkOver, Apply.assign, hover]

theorem staleOnlyFor_applyPublishDomain [StdSort] {k : DomainKind}
    (hkind : request.kind.domainKind = some k) :
    ExitsIn (EarlyReturn.StaleOnlyFor (Outdated ctx.state request)) (applyPublishDomain k request)
      ctx := by
  refine exitsIn_ofOption_bind (by simp) fun payload hpayload => ?_
  refine exitsIn_get_bind ?_
  refine exitsIn_exitIf_bind (by simp) fun hnamed => ?_
  refine exitsIn_bind.mpr ⟨?_, fun domain _ hvalid => ?_⟩
  · refine (unfit_validateDomainPayload ctx payload).mono fun early hunfit => ⟨?_, ?_⟩
    all_goals
      intro hstale
      simp [EarlyReturn.Unfit, hstale] at hunfit
  · obtain ⟨-, rfl, hctx⟩ := ends_validateDomainPayload (by simpa using hnamed) hvalid
    have hover (recorded : Domain k)
        (hfind : (ctx.state.domains k).find? payload.id = some recorded)
        (holder : payload.header.generation.value < recorded.header.generation.value) :
        Outdated ctx.state request :=
      .domain hkind hpayload hfind holder
    simp +contextual [publishOver, Apply.assign, hover]

theorem staleOnlyFor_applyRegisterPublisher :
    ExitsIn (EarlyReturn.StaleOnlyFor cause) (applyRegisterPublisher request) ctx := by
  refine exitsIn_get_bind ?_
  refine exitsIn_exitIf_bind (by simp) fun _ => ?_
  refine exitsIn_exitIf_bind (by simp) fun _ => ?_
  refine exitsIn_ofOption_bind (by simp) fun publisher _ => ?_
  split <;> simp [reRegister, Apply.assign]

theorem staleOnlyFor_applyRevalidate :
    ExitsIn (EarlyReturn.StaleOnlyFor cause) (applyRevalidate request) ctx := by
  have hincomplete (count : Nat) : (revalidationIncomplete count).StaleOnlyFor cause :=
    ⟨nofun, nofun⟩
  simp [applyRevalidate, notAMember, hincomplete]

end Exits

/-! ## Requests of an agent -/

/-- A request of the incarnation `boot` for its rack, under the number `used`. -/
inductive Numbers (boot : RackAgentBootId) (rack : RackId) (used : PublicationGeneration)
    (request : MutationRequest) : Prop
  | registration (hkind : request.kind = .registerRackPublisher)
      (hrack : request.targetRack = rack) (hnumber : request.authority.publication = used)
  | publication (hkind : request.kind = .addRack) (hboot : request.authority.boot = some boot)
      (hrack : request.rackReference.rack = rack) (hreference : request.rackReference.boot = boot)
      (hnumber : request.authority.publication = used)
      (hsame : request.rackReference.publication = used)
  | update (hkind : request.kind = .updateRackGeneration)
      (hboot : request.authority.boot = some boot) (hrack : request.targetRack = rack)
      (hnumber : request.authority.publication = used)
  | link (hkind : request.kind = .publishInterRackLink)
  | domain {k : DomainKind} (hkind : request.kind.domainKind = some k)
  | revalidation (hkind : request.kind = .revalidateRecoveredState)

section Requests

variable [StdSort] {σ : Type} (ops : PersistenceStore σ) {c : Coordinator σ}
  {request : MutationRequest} {boot : RackAgentBootId} {rack : RackId}
  {used later : PublicationGeneration} {now : Timestamp}

namespace Numbers

omit [StdSort] in
theorem kind_ne (h : Numbers boot rack used request) : request.kind ≠ .declareCluster := by
  cases h with
  | domain hkind => exact Coordinator.ne_declareCluster_of_domainKind hkind
  | registration hkind | publication hkind | update hkind | link hkind | revalidation hkind =>
    simp [hkind]

theorem staleOnlyFor {ctx : ApplyContext} (h : Numbers boot rack used request)
    (hahead : Ahead ctx.state boot rack used) :
    ExitsIn (EarlyReturn.StaleOnlyFor (Outdated ctx.state request)) (applyKind request) ctx := by
  cases h with
  | registration hkind =>
    rw [applyKind, hkind]
    exact staleOnlyFor_applyRegisterPublisher
  | publication hkind hboot hrack hreference hnumber hsame =>
    rw [applyKind, hkind]
    subst hrack hnumber
    exact staleOnlyFor_applyAddRack hahead hboot hreference hsame
  | update hkind hboot hrack hnumber =>
    rw [applyKind, hkind]
    subst hrack hnumber
    exact staleOnlyFor_applyUpdateRackGeneration hahead hboot
  | link hkind =>
    rw [show applyKind request = applyPublishLink request by rw [applyKind, hkind]]
    exact staleOnlyFor_applyPublishLink hkind
  | domain hkind =>
    rw [applyKind_domain hkind]
    exact staleOnlyFor_applyPublishDomain hkind
  | revalidation hkind =>
    rw [applyKind, hkind]
    exact staleOnlyFor_applyRevalidate

theorem publication_canonicalize (reference : RackReference) :
    (canonicalize reference).publication = reference.publication := rfl

/-- What the request makes of the record of the rack. -/
theorem publication_of_written (h : Numbers boot rack used request) {s : ClusterState}
    {old : Option RackRecord} {record : RackRecord}
    (hwritten : RackWritten now s request rack old (some record)) :
    record.reference.publication = used := by
  cases hwritten
  case moved hmoved _ _ =>
    rcases MutationKind.of_membershipTarget hmoved with hkind | hkind | hkind <;> cases h <;>
      simp_all [MutationKind.domainKind]
  all_goals
    cases h <;>
      simp_all [MutationKind.domainKind, registeredRecord, admittedRecord, updatedRecord,
        publication_canonicalize]

end Numbers

/-- The reasons of a commit that fails. -/
theorem reason_commitChanged_mem (c : Coordinator σ) (request : MutationRequest) (now : Timestamp)
    (journal : StateJournal) :
    (Coordinator.commitChanged ops c request now journal acceptedChange).2.reason ∈
      [.none, .invariantViolation, .limitExceeded, .persistenceFailed] := by
  have hshape := Coordinator.commitChanged_shape ops c request now journal acceptedChange
  generalize Coordinator.commitChanged ops c request now journal acceptedChange = out at hshape ⊢
  cases hshape with
  | saved =>
    change RejectionReason.none ∈ _
    simp
  | @refused _ _ _ failure _ _ _ hviolated hverified =>
    change failure.reason ∈ _
    cases hok : (checkInvariants (Coordinator.reevaluate journal.state) none).isOk with
    | false => simp [hviolated hok]
    | true => rcases hverified hok with hreason | hreason <;> simp [hreason]

/-- The answer to a request whose number is ahead. -/
theorem Ahead.answer (hahead : Ahead c.canonical boot rack used)
    (h : Numbers boot rack used request) :
    (Coordinator.applyAndCommit ops c request now).2.reason.StaleOnlyFor
      (Outdated c.canonical request) := by
  have hexits : ExitsIn (EarlyReturn.StaleOnlyFor (Outdated c.canonical request))
      (applyRequest request) (Coordinator.startContext c now) := by
    refine exitsIn_bind.mpr ⟨staleOnlyFor_validateCommon, fun _ ctx hgate => ?_⟩
    obtain ⟨-, rfl⟩ := authorized_of_ends hgate
    exact h.staleOnlyFor hahead
  rcases happly : applyRequest request (Coordinator.startContext c now) with ⟨early | ⟨⟩, ctx⟩
  · rw [(Coordinator.answer_early ops happly).2]
    exact hexits early ctx happly
  · rw [Coordinator.applyAndCommit_complete ops happly]
    have hmem := reason_commitChanged_mem ops c request now ctx.journal
    constructor
    all_goals
      intro hstale
      simp [hstale] at hmem

/-- The next number is ahead of what the request leaves. -/
theorem Ahead.next (hahead : Ahead c.canonical boot rack used)
    (h : Numbers boot rack used request) (hlt : used < later) :
    Ahead (Coordinator.applyAndCommit ops c request now).1.canonical boot rack later where
  notFenced := by
    refine Coordinator.keeps_applyAndCommit (Q := fun s => s.isBootFenced boot = false) h.kind_ne
      hahead.notFenced (fun s' happlied => ?_) fun _ _ hnot => hnot
    exact (Coordinator.isBootFenced_of_applied happlied boot).trans hahead.notFenced
  newer := by
    intro record hfind hsame
    rcases Coordinator.written_of_submit ops c request now with ⟨-, -, hwritten⟩ | ⟨-, hkept⟩
    · rcases hwritten.racks rack with hkept | hwritten
      · exact (hahead.newer record (hkept.symm.trans hfind) hsame).trans hlt
      · rw [hfind] at hwritten
        exact h.publication_of_written hwritten ▸ hlt
    · rw [hkept] at hfind
      exact (hahead.newer record hfind hsame).trans hlt

end Requests

end ClusterFabric
