import ClusterFabric.Model.ClusterMutations

/-! # Early returns

What a mutation can answer before its state is checked (`unverified_applyRequest`). The
rules for exit values rewrite a transaction to the values that it exits with, so that
each mutation is a call of the simplifier.
-/

namespace ClusterFabric

open Lib
open Txn

variable {subject detail : Text} {E : EarlyReturn → Prop} {reason : RejectionReason}
  {stage : ErrorStage}

/-! ## Reasons -/

/-- A return before the invariants are checked. -/
def EarlyReturn.Unverified (early : EarlyReturn) : Prop :=
  early.result.reason ≠ .invariantViolation

@[simp] theorem unverified_rejectWith {code : Text} :
    (rejectWith reason stage subject detail code).Unverified ↔ reason ≠ .invariantViolation :=
  Iff.rfl

@[simp] theorem unverified_reject :
    (reject reason stage subject detail).Unverified ↔ reason ≠ .invariantViolation :=
  Iff.rfl

@[simp] theorem unverified_acceptedNoChange {detail : String} :
    (acceptedNoChange detail).Unverified := nofun

/-! ## Mutations -/

section Exits

variable (request : MutationRequest) (ctx : ApplyContext)

@[simp] theorem exitsIn_update {f : ClusterState → ClusterState} :
    ExitsIn E (Apply.update f) ctx := exitsIn_modify

@[simp] theorem exitsIn_journal {f : StateJournal → StateJournal} :
    ExitsIn E (Apply.journal f) ctx := exitsIn_modify

@[simp] theorem exitsIn_markChanged : ExitsIn E Apply.markChanged ctx := exitsIn_modify

@[simp] theorem exitsIn_bump {tag : CounterTag} {counter : Apply.Counter tag}
    {overflow : EarlyReturn} :
    ExitsIn E (Apply.bump counter overflow) ctx ↔
      ((counter.get ctx.state).next = none → E overflow) := by
  simp [Apply.bump]

theorem unverified_validateCommon :
    ExitsIn EarlyReturn.Unverified (validateCommon request) ctx := by
  simp [validateCommon]

@[simp] theorem unverified_validateBoot [StdSort] (rack : RackId) :
    ExitsIn EarlyReturn.Unverified (validateBoot request rack) ctx := by
  simp only [validateBoot, exitsIn_bind, exitsIn_get, true_and]
  intro _ _ _
  split
  · simp
  · simp only [exitsIn_bind]
    refine ⟨by simp, fun _ _ _ => ?_⟩
    split <;> simp

@[simp] theorem unverified_stampMembership (record : RackRecord) :
    ExitsIn EarlyReturn.Unverified (stampMembership record) ctx := by
  simp [stampMembership, membershipOverflow]

theorem unverified_applyRegisterPublisher :
    ExitsIn EarlyReturn.Unverified (applyRegisterPublisher request) ctx := by
  simp only [applyRegisterPublisher, exitsIn_bind, exitsIn_get, true_and]
  intro _ _ _
  refine ⟨by simp, fun _ _ _ => ⟨by simp, fun _ _ _ => ⟨by simp, fun _ _ _ => ?_⟩⟩⟩
  split <;> simp [reRegister, Apply.assign]

theorem unverified_applyAddRack [StdSort] :
    ExitsIn EarlyReturn.Unverified (applyAddRack request) ctx := by
  simp [applyAddRack, admitOver, Apply.assign]

theorem unverified_applyUpdateRackGeneration [StdSort] :
    ExitsIn EarlyReturn.Unverified (applyUpdateRackGeneration request) ctx := by
  simp [applyUpdateRackGeneration, notAMember, Apply.assign]

theorem unverified_applyMembershipChange [StdSort] (target : RackMembershipState)
    (addRetiredIdentity : Bool) :
    ExitsIn EarlyReturn.Unverified (applyMembershipChange request target addRetiredIdentity)
      ctx := by
  simp [applyMembershipChange, notAMember, Apply.assign]

theorem unverified_applyRecoverRack [StdSort] :
    ExitsIn EarlyReturn.Unverified (applyRecoverRack request) ctx := by
  simp [applyRecoverRack, notAMember, Apply.assign]

theorem unverified_applyPublishHealth [StdSort] :
    ExitsIn EarlyReturn.Unverified (applyPublishHealth request) ctx := by
  simp [applyPublishHealth, notAMember, connectivityOverflow, healthOverflow, Apply.assign,
    Apply.rewrite]

theorem unverified_applyWithdrawEvidence :
    ExitsIn EarlyReturn.Unverified (applyWithdrawEvidence request) ctx := by
  simp [applyWithdrawEvidence, notAMember, connectivityOverflow, healthOverflow, Apply.assign,
    Apply.rewrite]

theorem reason_checkQuantities {previous : Option Text} {quantities : List CapacityQuantity}
    {early : EarlyReturn} (h : checkQuantities subject previous quantities = some early) :
    early.result.outcome = .rejected ∧
      (early.result.reason = .invalidDomain ∨ early.result.reason = .conflict) := by
  induction quantities generalizing previous with
  | nil => exact nomatch h
  | cons q rest ih =>
    unfold checkQuantities at h
    split_ifs at h
    · exact Option.some.inj h ▸ ⟨rfl, .inl rfl⟩
    · exact Option.some.inj h ▸ ⟨rfl, .inl rfl⟩
    · exact Option.some.inj h ▸ ⟨rfl, .inr rfl⟩
    · exact ih h

/-- The rejection of the payload of a domain. -/
def EarlyReturn.Unfit (early : EarlyReturn) : Prop :=
  early.result.outcome = .rejected ∧
    early.result.reason ∈ [.limitExceeded, .unknownRack, .invalidDomain, .conflict]

@[simp] theorem unfit_reject :
    (reject reason stage subject detail).Unfit ↔
      reason ∈ [.limitExceeded, .unknownRack, .invalidDomain, .conflict] := and_iff_right rfl

theorem unfit_validateDomainPayload [StdSort] {k : DomainKind} (domain : Domain k) :
    ExitsIn EarlyReturn.Unfit (validateDomainPayload domain) ctx := by
  have hextra (domain : Domain k) (ctx : ApplyContext) :
      ExitsIn EarlyReturn.Unfit (validateDomainExtra k domain) ctx := by
    cases k
    case capacity =>
      simp only [validateDomainExtra, validateCapacity, exitsIn_bind, exitsIn_pure, exitsIn_forSome,
        exitsIn_exit, implies_true, and_true]
      refine ⟨by simp, fun _ _ _ early hearly => ?_⟩
      obtain ⟨houtcome, hreason | hreason⟩ := reason_checkQuantities hearly <;>
        simp [EarlyReturn.Unfit, houtcome, hreason]
    all_goals exact exitsIn_pure
  simp [validateDomainPayload, hextra]

@[simp] theorem unverified_validateDomainPayload [StdSort] {k : DomainKind} (domain : Domain k) :
    ExitsIn EarlyReturn.Unverified (validateDomainPayload domain) ctx := by
  refine (unfit_validateDomainPayload ctx domain).mono fun early hunfit hviolated => ?_
  simp [EarlyReturn.Unfit, hviolated] at hunfit

theorem unverified_applyPublishDomain [StdSort] (k : DomainKind) :
    ExitsIn EarlyReturn.Unverified (applyPublishDomain k request) ctx := by
  simp [applyPublishDomain, publishDomainRecord, publishOver, Apply.assign]

theorem unverified_applyPublishConstraint [StdSort] :
    ExitsIn EarlyReturn.Unverified (applyPublishConstraint request) ctx := by
  simp [applyPublishConstraint, constrainOver, Apply.assign]

theorem unverified_applyPublishLink [StdSort] :
    ExitsIn EarlyReturn.Unverified (applyPublishLink request) ctx := by
  simp [applyPublishLink, checkLinkReferences, linkOver, Apply.assign]

theorem unverified_applyWithdrawLink :
    ExitsIn EarlyReturn.Unverified (applyWithdrawLink request) ctx := by
  simp [applyWithdrawLink, Apply.eraseEntry]

theorem unverified_applySupersedeTopology :
    ExitsIn EarlyReturn.Unverified (applySupersedeTopology request) ctx := by
  simp [applySupersedeTopology, Apply.rewrite]

theorem unverified_applyDeclareCluster :
    ExitsIn EarlyReturn.Unverified (applyDeclareCluster request) ctx := by
  simp [applyDeclareCluster, redeclare, declareFirst]

theorem unverified_applyRetireCluster :
    ExitsIn EarlyReturn.Unverified applyRetireCluster ctx := by
  simp [applyRetireCluster, Apply.rewrite]

theorem unverified_applyPublishSnapshot :
    ExitsIn EarlyReturn.Unverified applyPublishSnapshot ctx := by
  simp [applyPublishSnapshot]

theorem unverified_applyRevalidate :
    ExitsIn EarlyReturn.Unverified (applyRevalidate request) ctx := by
  have hincomplete (count : Nat) : (revalidationIncomplete count).Unverified := nofun
  simp [applyRevalidate, notAMember, hincomplete]

/-- No mutation gives the verdict of the invariant check. -/
theorem unverified_applyRequest [StdSort] :
    ExitsIn EarlyReturn.Unverified (applyRequest request) ctx := by
  refine exitsIn_bind.mpr ⟨unverified_validateCommon request ctx, fun _ ctx' _ => ?_⟩
  unfold applyKind
  cases request.kind
  case declareCluster => exact unverified_applyDeclareCluster request ctx'
  case registerRackPublisher => exact unverified_applyRegisterPublisher request ctx'
  case addRack => exact unverified_applyAddRack request ctx'
  case updateRackGeneration => exact unverified_applyUpdateRackGeneration request ctx'
  case markRackUnavailable | withdrawRack | retireRack =>
    exact unverified_applyMembershipChange request ctx' _ _
  case recoverRack => exact unverified_applyRecoverRack request ctx'
  case publishInterRackLink => exact unverified_applyPublishLink request ctx'
  case withdrawInterRackLink => exact unverified_applyWithdrawLink request ctx'
  case publishConstraint => exact unverified_applyPublishConstraint request ctx'
  case publishHealthCurrentness => exact unverified_applyPublishHealth request ctx'
  case withdrawEvidence => exact unverified_applyWithdrawEvidence request ctx'
  case supersedeTopology => exact unverified_applySupersedeTopology request ctx'
  case publishSnapshot => exact unverified_applyPublishSnapshot ctx'
  case revalidateRecoveredState => exact unverified_applyRevalidate request ctx'
  case retireCluster => exact unverified_applyRetireCluster ctx'
  case unknown => exact exitsIn_exit.mpr nofun
  all_goals exact unverified_applyPublishDomain request ctx' _

end Exits

end ClusterFabric
