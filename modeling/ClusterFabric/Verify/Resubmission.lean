import ClusterFabric.Verify.Soundness

/-! # Submitting a request again

A publication that was accepted and comes again is answered with "no change" when it is
compared equal with what was stored of it. What is stored is the request with the
coordinator's epochs, and for a link its topology generation, written over those it
carried. Racks are compared without their epochs; domains, constraints and links are
compared with them. So the second submission of such a record is a conflict unless the
first already carried the coordinator's values (`resubmission_idempotent_iff`).
-/

namespace ClusterFabric

open Lib
open Txn

variable {l : List CapacityQuantity} {P : Prop} {config : CoordinatorConfig}
  {g : ClusterGeneration} {reason : RejectionReason} {stage : ErrorStage} {subject : Text}
  {s' : ClusterState} {detail : String}

/-- An early return that is "no change" exactly when `P` holds. -/
def NoChangeIff (P : Prop) (early : EarlyReturn) : Prop := early.result.outcome = .noChange ↔ P

theorem noChangeIff_reject (hP : ¬ P) {detail : Text} :
    NoChangeIff P (reject reason stage subject detail) :=
  iff_of_false (by simp [reject, rejectWith]) hP

theorem noChangeIff_rejectWith (hP : ¬ P) {detail code : Text} :
    NoChangeIff P (rejectWith reason stage subject detail code) :=
  iff_of_false (by simp [rejectWith]) hP

theorem noChangeIff_acceptedNoChange (hP : P) : NoChangeIff P (acceptedNoChange detail) :=
  iff_of_true rfl hP

/-! ## The gates -/

variable {request : MutationRequest} {ctx : ApplyContext}

theorem ends_validateCommon (hvalid : request.cluster.isValid = true)
    (hunknown : request.kind ≠ .unknown) (hdeclare : request.kind ≠ .declareCluster)
    (h : CurrentAuthority ctx.state request) : Ends (validateCommon request) ctx () ctx := by
  refine ends_get_bind.mpr ?_
  refine checks_exitIf.ends_bind.mpr ⟨hunknown, ?_⟩
  refine checks_exitIf.ends_bind.mpr ⟨by simp [hvalid], ?_⟩
  rw [if_neg hdeclare]
  refine checks_exitIf.ends_bind.mpr ⟨not_not.mpr h.cluster_eq, ?_⟩
  refine checks_exitIf.ends_bind.mpr ⟨by simp [h.declared], ?_⟩
  refine checks_exitIf.ends_bind.mpr ⟨not_not.mpr h.clusterEpoch_eq, ?_⟩
  refine checks_exitIf.ends_bind.mpr ⟨not_not.mpr h.coordinatorEpoch_eq, ?_⟩
  exact ends_exitIf.mpr ⟨by simp [h.accepts], rfl⟩

section Gates

variable [StdSort]

/-- What the boot gate asks of a request when the rack is recorded. -/
def OwnsRecord (request : MutationRequest) (rack : RackId) (record : RackRecord) : Prop :=
  ∀ boot, request.authority.boot = some boot → BootOwns request rack boot record

variable {rack : RackId} {record : RackRecord}

theorem ends_validateBoot (hfind : ctx.state.racks.find? rack = some record)
    (hfenced : ∀ boot, request.authority.boot = some boot → ctx.state.isBootFenced boot = false)
    (howns : OwnsRecord request rack record) : Ends (validateBoot request rack) ctx () ctx := by
  refine ends_get_bind.mpr ?_
  cases hboot : request.authority.boot with
  | none => exact ends_pure.mpr ⟨rfl, rfl⟩
  | some boot =>
    obtain ⟨hlive, howner, hfresh⟩ := howns boot hboot
    refine checks_exitIf.ends_bind.mpr ⟨by simp [hfenced boot hboot], ?_⟩
    simp only [hfind]
    refine checks_exitIf.ends_bind.mpr ⟨fun h => h.2 (hlive h.1), ?_⟩
    refine (checks_forSome fun _ => checks_forSome fun _ => checks_exitIf).ends_bind.mpr
      ⟨fun p hp o ho => not_not.mpr (howner p hp o ho), ?_⟩
    exact ends_exitIf.mpr ⟨by simp [hfresh], rfl⟩

/-- A request that does not own the recorded rack is rejected. -/
theorem exitsWith_validateBoot (hfind : ctx.state.racks.find? rack = some record) (hP : ¬ P)
    (hnot : ¬ OwnsRecord request rack record) :
    ExitsWith (NoChangeIff P) (validateBoot request rack) ctx := by
  unfold OwnsRecord at hnot
  push Not at hnot
  obtain ⟨boot, hboot, hnot⟩ := hnot
  refine exitsWith_get_bind ?_
  simp only [hboot, hfind]
  refine exitsWith_exitIf_bind (fun _ => noChangeIff_reject hP) fun _ => ?_
  refine exitsWith_exitIf_bind (fun _ => noChangeIff_reject hP) fun hlive => ?_
  by_cases howner : ∀ publisher, request.authority.publisher = some publisher →
      ∀ owner, record.reference.publisher = some owner → publisher = owner
  · refine (checks_forSome fun _ => checks_forSome fun _ => checks_exitIf).exitsWith_bind
      (fun p hp o ho => not_not.mpr (howner p hp o ho)) ?_
    refine exitsWith_exitIf ?_ (noChangeIff_rejectWith hP)
    by_contra hfresh
    refine hnot ⟨fun hcurrent => ?_, howner, by simpa using hfresh⟩
    by_contra hne
    exact hlive ⟨hcurrent, hne⟩
  · push Not at howner
    obtain ⟨publisher, hpublisher, owner, hrecorded, hne⟩ := howner
    simp only [hpublisher, hrecorded, forSome]
    exact (exitsWith_exitIf hne (noChangeIff_reject hP)).bind _

/-- The boot gate of a recorded rack, and what comes after it. -/
theorem exitsWith_validateBoot_bind {f : Unit → Apply Unit}
    (hfind : ctx.state.racks.find? rack = some record)
    (hfenced : ∀ boot, request.authority.boot = some boot → ctx.state.isBootFenced boot = false)
    (hP : P → OwnsRecord request rack record)
    (hf : OwnsRecord request rack record → ExitsWith (NoChangeIff P) (f ()) ctx) :
    ExitsWith (NoChangeIff P) (validateBoot request rack >>= f) ctx := by
  by_cases howns : OwnsRecord request rack record
  · exact (ends_validateBoot hfind hfenced howns).exitsWith_bind (hf howns)
  · exact (exitsWith_validateBoot hfind (fun h => howns (hP h)) howns).bind f

end Gates

/-! ## Racks -/

section Racks

variable [StdSort]

/-- A reference as it is stored: the content of the publication, under the
coordinator's epochs. -/
def storedReference (incoming : RackReference) (clusterEpoch : ClusterEpoch)
    (coordinatorEpoch : CoordinatorEpoch) (evidence : EvidenceStamp) : RackReference :=
  { incoming with
    clusterEpoch := clusterEpoch
    coordinatorEpoch := coordinatorEpoch
    currentness := .current
    evidence := evidence }

/-- What was stored of a publication has its content. -/
theorem sameAuthoritativeContent_stored (incoming : RackReference) (clusterEpoch : ClusterEpoch)
    (coordinatorEpoch : CoordinatorEpoch) (evidence : EvidenceStamp) :
    sameAuthoritativeContent (storedReference incoming clusterEpoch coordinatorEpoch evidence)
      incoming = true := decide_eq_true rfl

/-- The record of a publication that was just accepted. -/
structure HoldsRack (request : MutationRequest) (now : Timestamp) (record : RackRecord) : Prop where
  membership : record.membership = .active
  current : record.authoritativeCurrent =
    (admittedEvidence request.rackReference.evidence now).isCurrent
  reference : ∃ clusterEpoch coordinatorEpoch evidence,
    record.reference =
      storedReference (canonicalize request.rackReference) clusterEpoch coordinatorEpoch evidence

/-- What a rack publication must be for its repetition to pass the boot gate: the
incarnation, the publisher and the publication counter stand in two places of the
request. -/
structure RepeatableRack (request : MutationRequest) (now : Timestamp) : Prop where
  boot : ∀ boot, request.authority.boot = some boot →
    (admittedEvidence request.rackReference.evidence now).isCurrent = true →
    request.rackReference.boot = boot
  publisher : request.authority.boot.isSome = true →
    ∀ publisher, request.authority.publisher = some publisher →
    ∀ owner, request.rackReference.publisher = some owner → publisher = owner
  publication : ∀ boot, request.authority.boot = some boot → request.rackReference.boot = boot →
    request.authority.publication.known = true →
    request.rackReference.publication.value ≤ request.authority.publication.value

variable {now : Timestamp} {record : RackRecord}

theorem staleReplay_stored (h : HoldsRack request now record) (boot : RackAgentBootId) :
    staleReplay request (canonicalize request.rackReference).rack boot record = true ↔
      request.rackReference.boot = boot ∧ request.authority.publication.known = true ∧
        request.authority.publication.value < request.rackReference.publication.value := by
  obtain ⟨clusterEpoch, coordinatorEpoch, evidence, hreference⟩ := h.reference
  unfold staleReplay
  rw [hreference, sameAuthoritativeContent_stored]
  simp only [storedReference, canonicalize, Bool.and_eq_true, Bool.not_eq_true', beq_iff_eq,
    Bool.and_eq_false_iff, beq_eq_false_iff_ne, ne_eq, BEq.rfl, Bool.true_eq_false, or_false]
  constructor
  · rintro ⟨⟨⟨hboot, hknown⟩, hle⟩, hne⟩
    refine ⟨hboot, hknown, lt_of_le_of_ne (of_decide_eq_true hle) ?_⟩
    rcases hne with hne | hne
    · exact hne
    · exact absurd hboot hne
  · rintro ⟨hboot, hknown, hlt⟩
    exact ⟨⟨⟨hboot, hknown⟩, decide_eq_true hlt.le⟩, .inl hlt.ne⟩

theorem ownsRecord_stored_iff (h : HoldsRack request now record) :
    OwnsRecord request (canonicalize request.rackReference).rack record ↔
      RepeatableRack request now := by
  have hboot : record.reference.boot = request.rackReference.boot := by
    obtain ⟨_, _, _, hreference⟩ := h.reference
    rw [hreference]
    rfl
  have hpublisher : record.reference.publisher = request.rackReference.publisher := by
    obtain ⟨_, _, _, hreference⟩ := h.reference
    rw [hreference]
    rfl
  have hstale := staleReplay_stored h
  constructor
  · intro howns
    refine ⟨fun boot hsome hcurrent => ?_, fun hsome p hp o ho => ?_,
      fun boot hsome heq hknown => ?_⟩
    · exact hboot.symm.trans ((howns boot hsome).live (h.current.trans hcurrent))
    · obtain ⟨boot, hsome⟩ := Option.isSome_iff_exists.mp hsome
      exact (howns boot hsome).owner p hp o (hpublisher.trans ho)
    · by_contra hlt
      have hreplay := (hstale boot).mpr ⟨heq, hknown, not_le.mp hlt⟩
      exact absurd ((howns boot hsome).fresh.symm.trans hreplay) Bool.false_ne_true
  · intro hrepeat boot hsome
    refine ⟨fun hcurrent => ?_, fun p hp o ho => ?_, ?_⟩
    · exact hboot.trans (hrepeat.boot boot hsome (h.current.symm.trans hcurrent))
    · exact hrepeat.publisher (by rw [hsome]; rfl) p hp o (hpublisher.symm.trans ho)
    · rw [← Bool.not_eq_true, hstale]
      rintro ⟨heq, hknown, hlt⟩
      exact absurd (hrepeat.publication boot hsome heq hknown) (not_le.mpr hlt)

/-- A repeated publication meets the recorded one. -/
theorem exitsWith_admitOver (hP : P) (h : HoldsRack request now record) :
    ExitsWith (NoChangeIff P) (admitOver (canonicalize request.rackReference) record) ctx := by
  obtain ⟨clusterEpoch, coordinatorEpoch, evidence, hreference⟩ := h.reference
  have hcontent : sameAuthoritativeContent record.reference
      (canonicalize request.rackReference) = true := by
    rw [hreference]
    exact sameAuthoritativeContent_stored _ _ _ _
  have hgeneration : (canonicalize request.rackReference).generation =
      record.reference.generation := by rw [hreference]; rfl
  unfold admitOver
  refine checks_exitIf.exitsWith_bind (by rw [hgeneration]; exact lt_irrefl _) ?_
  rw [if_neg (by simp [h.membership]), if_pos hgeneration]
  refine checks_exitIf.exitsWith_bind (by simp [hcontent]) ?_
  refine (exitsWith_exitIf ?_ (noChangeIff_acceptedNoChange hP)).bind _
  rw [hcontent, hreference]
  simp [storedReference]

theorem exitsWith_applyAddRack
    (hvalid : (validateRackReference (canonicalize request.rackReference)).isOk = true)
    (hretired : ctx.state.isRackRetired (canonicalize request.rackReference).rack = false)
    (hfenced : ∀ boot, request.authority.boot = some boot → ctx.state.isBootFenced boot = false)
    (hfind : ctx.state.racks.find? (canonicalize request.rackReference).rack = some record)
    (h : HoldsRack request now record) :
    ExitsWith (NoChangeIff (RepeatableRack request now)) (applyAddRack request) ctx := by
  refine checks_exitIf.exitsWith_bind (by simp [hvalid]) ?_
  refine exitsWith_get_bind ?_
  refine checks_exitIf.exitsWith_bind (by simp [hretired]) ?_
  refine exitsWith_validateBoot_bind hfind hfenced (ownsRecord_stored_iff h).mpr fun howns => ?_
  simp only [hfind, forSome]
  exact (exitsWith_admitOver ((ownsRecord_stored_iff h).mp howns) h).bind _

end Racks

/-! ## Domains -/

/-- The header carries the coordinator's epochs already. -/
def DomainHeader.Stamped (s : ClusterState) (header : DomainHeader) : Prop :=
  header.clusterEpoch = s.epoch ∧ header.coordinatorEpoch = s.coordinatorEpoch

theorem eq_stamp_iff {s : ClusterState} {header : DomainHeader} :
    header = header.stamp s ↔ header.Stamped s := by
  cases header
  simp [DomainHeader.stamp, DomainHeader.Stamped]

/-- The last checks of a publication at the recorded generation. -/
theorem exitsWith_repeated {c : Prop} [Decidable c] (hc : c ↔ P) {conflict : EarlyReturn}
    (hconflict : ¬ P → NoChangeIff P conflict) :
    ExitsWith (NoChangeIff P)
      (exitIf c (acceptedNoChange detail) >>= fun _ => (Txn.exit conflict : Apply Unit)) ctx :=
  exitsWith_exitIf_bind (fun h => noChangeIff_acceptedNoChange (hc.mp h)) fun h =>
    exitsWith_exit (hconflict fun hP => h (hc.mpr hP))

theorem F64.ieeeEq_self {x : F64} (h : x.isFinite = true) : x.ieeeEq x = true := by
  simp [F64.ieeeEq, F64.isNaN, h]

theorem CapacityQuantity.eqv_self {q : CapacityQuantity}
    (h : ∀ x, q.value = some x → x.isFinite = true) : q.eqv q = true := by
  unfold CapacityQuantity.eqv
  cases hvalue : q.value with
  | none => simp [optionalF64Eq]
  | some x => simp [optionalF64Eq, F64.ieeeEq_self (h x hvalue)]

/-- Checked quantities are finite. -/
theorem isFinite_of_checkQuantities {previous : Option Text}
    (h : checkQuantities subject previous l = none) :
    ∀ q ∈ l, ∀ x, q.value = some x → x.isFinite = true := by
  induction l generalizing previous with
  | nil => simp
  | cons q l ih =>
    rw [checkQuantities] at h
    split_ifs at h with hunit hfinite hduplicate
    intro q' hq' x hx
    rcases List.mem_cons.mp hq' with rfl | hmem
    · simpa [hx] using hfinite
    · exact ih h q' hmem x hx

theorem isEqv_self (h : ∀ q ∈ l, ∀ x, q.value = some x → x.isFinite = true) :
    List.isEqv l l CapacityQuantity.eqv = true := by
  induction l with
  | nil => rfl
  | cons q l ih =>
    rw [List.isEqv, CapacityQuantity.eqv_self (h q List.mem_cons_self),
      ih fun q' hq' => h q' (List.mem_cons_of_mem q hq'), Bool.and_self]

section Domains

variable [StdSort] {k : DomainKind} {payload : Domain k} {s : ClusterState}

/-- The payload compares equal with what was stored of it. -/
theorem detail_eqv_self (h : DetailOk k payload) :
    DomainDetail.eqv k (normalizedDomain payload).detail (normalizedDomain payload).detail =
      true := by
  cases k
  case capacity =>
    exact Bool.and_eq_true_iff.mpr
      ⟨beq_self_eq_true _, isEqv_self (isFinite_of_checkQuantities h.2)⟩
  all_goals simp [DomainDetail.eqv]

/-- A domain as it is stored. -/
def storedDomain (s : ClusterState) (payload : Domain k) : Domain k :=
  { normalizedDomain payload with header := payload.header.stamp s }

theorem eqv_stored_iff (h : DetailOk k payload) :
    (normalizedDomain payload).eqv (storedDomain s payload) = true ↔
      payload.header.Stamped s := by
  unfold Domain.eqv storedDomain
  rw [detail_eqv_self h, header_normalizedDomain]
  simp only [decide_true, Bool.true_and, Bool.and_true, decide_eq_true_eq]
  exact eq_stamp_iff

theorem ends_validateDomainPayload_of_ok (h : DomainPayloadOk ctx.state payload) :
    Ends (validateDomainPayload payload) ctx (normalizedDomain payload) ctx := by
  refine ends_get_bind.mpr ?_
  refine checks_exitIf.ends_bind.mpr ⟨not_lt.mpr h.length_le, ?_⟩
  refine (checks_forSome fun _ => checks_exit).ends_bind.mpr ⟨fun rack hrack => ?_, ?_⟩
  · have hmem := mem_sortUnique.mp (List.mem_of_find?_eq_some hrack)
    have hnot := List.find?_some hrack
    simp [h.members rack hmem] at hnot
  refine checks_exitIf.ends_bind.mpr ⟨by simp [h.generation_known], ?_⟩
  refine checks_exitIf.ends_bind.mpr ⟨?_, ?_⟩
  · cases k <;> exact h.class_ne
  · have hdetail := h.detail
    cases k
    case capacity =>
      refine checks_exitIf.ends_bind.mpr ⟨not_lt.mpr hdetail.1, ?_⟩
      refine (checks_forSome fun _ => checks_exit).ends_bind.mpr
        ⟨fun e he => ?_, ends_pure.mpr ⟨rfl, rfl⟩⟩
      exact nomatch hdetail.2.symm.trans he
    all_goals exact ends_pure.mpr ⟨rfl, rfl⟩

theorem exitsWith_publishOver (h : DetailOk k payload) :
    ExitsWith (NoChangeIff (payload.header.Stamped s))
      (publishOver (normalizedDomain payload) (storedDomain s payload)) ctx := by
  have hgeneration : (normalizedDomain payload).header.generation =
      (storedDomain s payload).header.generation := by rw [header_normalizedDomain]; rfl
  refine checks_exitIf.exitsWith_bind (by rw [hgeneration]; exact lt_irrefl _) ?_
  rw [if_pos hgeneration]
  exact exitsWith_repeated (eqv_stored_iff h) fun hnot => noChangeIff_rejectWith hnot

theorem exitsWith_applyPublishDomain (hpayload : request.domain k = some payload)
    (hok : DomainPayloadOk ctx.state payload)
    (hfind : (ctx.state.domains k).find? payload.id = some (storedDomain s payload)) :
    ExitsWith (NoChangeIff (payload.header.Stamped s)) (applyPublishDomain k request) ctx := by
  refine exitsWith_ofOption_bind hpayload ?_
  refine exitsWith_get_bind ?_
  refine checks_exitIf.exitsWith_bind (by simp [hok.id_nonempty]) ?_
  refine (ends_validateDomainPayload_of_ok hok).exitsWith_bind ?_
  simp only [id_normalizedDomain, hfind, forSome]
  exact (exitsWith_publishOver hok.detail).bind _

end Domains

/-! ## Constraints -/

section Constraints

variable [StdSort] {payload : ClusterConstraint} {s : ClusterState}

/-- A constraint as it is stored. -/
def storedConstraint (s : ClusterState) (payload : ClusterConstraint) : ClusterConstraint :=
  { payload with racks := sortUnique payload.racks, header := payload.header.stamp s }

theorem exitsWith_constrainOver :
    ExitsWith (NoChangeIff (payload.header.Stamped s))
      (constrainOver { payload with racks := sortUnique payload.racks }
        (storedConstraint s payload)) ctx := by
  have hgeneration : payload.header.generation =
      (storedConstraint s payload).header.generation := rfl
  refine checks_exitIf.exitsWith_bind (lt_irrefl _) ?_
  dsimp only
  rw [if_pos hgeneration]
  refine exitsWith_repeated ?_ fun hnot => noChangeIff_reject hnot
  rw [← eq_stamp_iff, storedConstraint]
  simp

theorem exitsWith_applyPublishConstraint (hpayload : request.constraint = some payload)
    (hok : ConstraintPayloadOk ctx.state payload)
    (hfind : ctx.state.constraints.find? payload.id = some (storedConstraint s payload)) :
    ExitsWith (NoChangeIff (payload.header.Stamped s)) (applyPublishConstraint request) ctx := by
  refine exitsWith_get_bind ?_
  refine exitsWith_ofOption_bind hpayload ?_
  refine checks_exitIf.exitsWith_bind (not_lt.mpr hok.length_le) ?_
  refine (checks_forSome fun _ => checks_exit).exitsWith_bind (fun rack hrack => ?_) ?_
  · have hmem := mem_sortUnique.mp (List.mem_of_find?_eq_some hrack)
    have hnot := List.find?_some hrack
    simp [hok.members rack hmem] at hnot
  refine checks_exitIf.exitsWith_bind hok.kind_ne ?_
  refine checks_exitIf.exitsWith_bind (by simp [hok.generation_known]) ?_
  simp only [hfind, forSome]
  exact exitsWith_constrainOver.bind _

end Constraints

/-! ## Links -/

section Links

variable [StdSort] {payload : InterRackLink}

/-- A link as it is stored. -/
def storedLink (s : ClusterState) (payload : InterRackLink) : InterRackLink :=
  { payload with
    failureDomains := sortUnique payload.failureDomains
    header := payload.header.stamp s
    topologyGeneration := s.topologyGeneration }

/-- The link carries the coordinator's epochs and topology generation already. -/
def InterRackLink.Stamped (s : ClusterState) (link : InterRackLink) : Prop :=
  link.header.Stamped s ∧ link.topologyGeneration = s.topologyGeneration

theorem exitsWith_linkOver {s : ClusterState} :
    ExitsWith (NoChangeIff (payload.Stamped s))
      (linkOver { payload with failureDomains := sortUnique payload.failureDomains }
        (storedLink s payload)) ctx := by
  have hgeneration : payload.header.generation = (storedLink s payload).header.generation := rfl
  unfold linkOver
  refine checks_exitIf.exitsWith_bind (lt_irrefl _) ?_
  dsimp only
  rw [if_pos hgeneration]
  refine exitsWith_repeated ?_ fun hnot => noChangeIff_rejectWith hnot
  simp only [storedLink, DomainHeader.stamp, InterRackLink.Stamped, DomainHeader.Stamped,
    InterRackLink.mk.injEq, DomainHeader.mk.injEq, true_and, and_true]

theorem exitsWith_applyPublishLink {s : ClusterState} (hpayload : request.link = some payload)
    (hok : LinkPayloadOk ctx.state payload)
    (hfind : ctx.state.links.find? payload.id = some (storedLink s payload)) :
    ExitsWith (NoChangeIff (payload.Stamped s)) (applyPublishLink request) ctx := by
  refine exitsWith_get_bind ?_
  refine exitsWith_ofOption_bind hpayload ?_
  refine checks_exitIf.exitsWith_bind hok.no_loop ?_
  refine checks_exitIf.exitsWith_bind hok.direction_ne ?_
  refine checks_exitIf.exitsWith_bind (by simp [hok.source_member]) ?_
  refine checks_exitIf.exitsWith_bind (by simp [hok.destination_member]) ?_
  refine checks_exitIf.exitsWith_bind (not_lt.mpr hok.length_le) ?_
  refine (checks_checkLinkReferences ctx.state
    { payload with failureDomains := sortUnique payload.failureDomains }).exitsWith_bind
    ⟨fun domain hmem => hok.failureDomains domain (mem_sortUnique.mp hmem), hok.networkDomain,
      hok.linkDomain⟩ ?_
  refine checks_exitIf.exitsWith_bind (by simp [hok.generation_known]) ?_
  simp only [hfind, forSome]
  exact exitsWith_linkOver.bind _

end Links

/-! ## The second submission -/

/-- The kinds that publish a record. -/
def MutationKind.publishes (kind : MutationKind) : Bool :=
  kind == .addRack || kind == .publishInterRackLink || kind == .publishConstraint ||
    kind.domainKind.isSome

theorem not_publishes_of_membershipTarget {kind : MutationKind} {target : RackMembershipState}
    (h : kind.membershipTarget = some target) : kind.publishes = false := by
  cases kind
  case markRackUnavailable => rfl
  case withdrawRack => rfl
  case retireRack => rfl
  all_goals cases h

section Requests

variable {k : DomainKind}

/-- What a publication must be for its repetition to change nothing: a rack
publication agrees with its own authority, and any other record carries what the
coordinator writes into it. -/
structure Repeatable (s : ClusterState) (request : MutationRequest) (now : Timestamp) : Prop where
  rack : request.kind = .addRack → RepeatableRack request now
  domain : ∀ k, request.kind.domainKind = some k → ∀ payload, request.domain k = some payload →
    payload.header.Stamped s
  constraint : request.kind = .publishConstraint →
    ∀ payload, request.constraint = some payload → payload.header.Stamped s
  link : request.kind = .publishInterRackLink →
    ∀ payload, request.link = some payload → payload.Stamped s

variable {s : ClusterState} {now : Timestamp}

theorem repeatable_rack_iff (hkind : request.kind = .addRack) :
    RepeatableRack request now ↔ Repeatable s request now := by
  refine ⟨fun h => ⟨fun _ => h, fun k hk => ?_, fun hk => ?_, fun hk => ?_⟩, fun h => h.rack hkind⟩
  · rw [hkind] at hk
    cases hk
  · exact nomatch hkind.symm.trans hk
  · exact nomatch hkind.symm.trans hk

theorem repeatable_domain_iff (hkind : request.kind.domainKind = some k) {payload : Domain k}
    (hpayload : request.domain k = some payload) :
    payload.header.Stamped s ↔ Repeatable s request now := by
  have hother : ∀ kind : MutationKind, kind.domainKind = none → request.kind ≠ kind := by
    intro kind hnone heq
    rw [heq, hnone] at hkind
    cases hkind
  refine ⟨fun h => ⟨fun hk => ?_, fun k' hk payload' hpayload' => ?_, fun hk => ?_, fun hk => ?_⟩,
    fun h => h.domain k hkind payload hpayload⟩
  · exact absurd hk (hother _ rfl)
  · obtain rfl : k = k' := Option.some.inj (hkind.symm.trans hk)
    obtain rfl : payload = payload' := Option.some.inj (hpayload.symm.trans hpayload')
    exact h
  · exact absurd hk (hother _ rfl)
  · exact absurd hk (hother _ rfl)

theorem repeatable_constraint_iff (hkind : request.kind = .publishConstraint)
    {payload : ClusterConstraint} (hpayload : request.constraint = some payload) :
    payload.header.Stamped s ↔ Repeatable s request now := by
  refine ⟨fun h => ⟨fun hk => ?_, fun k hk => ?_, fun _ payload' hpayload' => ?_, fun hk => ?_⟩,
    fun h => h.constraint hkind payload hpayload⟩
  · exact nomatch hkind.symm.trans hk
  · rw [hkind] at hk
    cases hk
  · obtain rfl : payload = payload' := Option.some.inj (hpayload.symm.trans hpayload')
    exact h
  · exact nomatch hkind.symm.trans hk

theorem repeatable_link_iff (hkind : request.kind = .publishInterRackLink)
    {payload : InterRackLink} (hpayload : request.link = some payload) :
    payload.Stamped s ↔ Repeatable s request now := by
  refine ⟨fun h => ⟨fun hk => ?_, fun k hk => ?_, fun hk => ?_, fun _ payload' hpayload' => ?_⟩,
    fun h => h.link hkind payload hpayload⟩
  · exact nomatch hkind.symm.trans hk
  · rw [hkind] at hk
    cases hk
  · exact nomatch hkind.symm.trans hk
  · obtain rfl : payload = payload' := Option.some.inj (hpayload.symm.trans hpayload')
    exact h

theorem exitsWith_congr {Q : Prop} (hPQ : P ↔ Q) {x : Apply Unit}
    (h : ExitsWith (NoChangeIff P) x ctx) : ExitsWith (NoChangeIff Q) x ctx := by
  obtain ⟨e, he, hx⟩ := h
  exact ⟨e, he.trans hPQ, hx⟩

variable [StdSort]

theorem applyKind_domain (hkind : request.kind.domainKind = some k) :
    applyKind request = applyPublishDomain k request := by
  unfold applyKind
  cases hk : request.kind <;> rw [hk] at hkind <;> cases hkind <;> rfl

/-- The record of an admission. -/
theorem holdsRack_admittedRecord (s : ClusterState) (request : MutationRequest) (now : Timestamp)
    (previous : RackRecord) :
    HoldsRack request now
      (admittedRecord s now (canonicalize request.rackReference) previous) :=
  ⟨rfl, rfl, _, _, _, rfl⟩

open Coordinator (committed)

/-- A publication meets itself in the state that it left. -/
theorem exitsWith_applyKind (hkind : request.kind.publishes = true)
    (happlied : Applied config now s request s') (hctx : ctx.state = committed s' g now) :
    ExitsWith (NoChangeIff (Repeatable s request now)) (applyKind request) ctx := by
  cases happlied
  case admitted incoming record m hk hincoming hvalid hretired hboot _ _ hrecord _ =>
    subst hincoming hrecord
    rw [show applyKind request = applyAddRack request by rw [applyKind, hk]]
    refine exitsWith_congr (repeatable_rack_iff hk) ?_
    have hfenced : ∀ boot, request.authority.boot = some boot →
        ctx.state.isBootFenced boot = false := by
      intro boot hsome
      rw [hctx]
      exact (hboot boot hsome).1
    refine exitsWith_applyAddRack hvalid (by rw [hctx]; exact hretired) hfenced
      (by rw [hctx]; exact StdMap.find?_insertOrAssign_self _ _ _) ?_
    have hholds := holdsRack_admittedRecord s request now
      ((s.racks.find? (canonicalize request.rackReference).rack).getD {})
    split_ifs
    · exact ⟨hholds.membership, hholds.current, hholds.reference⟩
    · exact hholds
  case domainPublished k payload domain _ _ hk hpayload hok hdomain _ _ _ _ =>
    subst hdomain
    rw [applyKind_domain hk]
    refine exitsWith_congr (repeatable_domain_iff hk hpayload) ?_
    refine exitsWith_applyPublishDomain hpayload ?_ ?_
    · rw [hctx]
      exact ⟨hok.id_nonempty, hok.length_le, hok.members, hok.generation_known, hok.class_ne,
        hok.detail⟩
    · rw [hctx]
      change (Function.update s.domains k _ k).find? payload.id = _
      rw [Function.update_self]
      exact StdMap.find?_insertOrAssign_self _ _ _
  case constrained payload _ hk hpayload hok _ _ _ =>
    rw [show applyKind request = applyPublishConstraint request by rw [applyKind, hk]]
    refine exitsWith_congr (repeatable_constraint_iff hk hpayload) ?_
    refine exitsWith_applyPublishConstraint hpayload ?_ ?_
    · rw [hctx]
      exact ⟨hok.length_le, hok.members, hok.kind_ne, hok.generation_known⟩
    · rw [hctx]
      exact StdMap.find?_insertOrAssign_self _ _ _
  case linkPublished payload _ _ hk hpayload hok _ _ _ _ =>
    rw [show applyKind request = applyPublishLink request by rw [applyKind, hk]]
    refine exitsWith_congr (repeatable_link_iff hk hpayload) ?_
    refine exitsWith_applyPublishLink hpayload ?_ ?_
    · rw [hctx]
      exact ⟨hok.no_loop, hok.direction_ne, hok.source_member, hok.destination_member,
        hok.length_le, hok.failureDomains, hok.networkDomain, hok.linkDomain,
        hok.generation_known, hok.epoch_eq⟩
    · rw [hctx]
      exact StdMap.find?_insertOrAssign_self _ _ _
  case moved target record m hk _ _ _ _ _ =>
    exact absurd ((not_publishes_of_membershipTarget hk).symm.trans hkind) Bool.false_ne_true
  all_goals
    have hpublishes := (congrArg MutationKind.publishes ‹request.kind = _›).symm.trans hkind
    exact absurd hpublishes (by decide)

theorem exitsWith_applyRequest (hkind : request.kind.publishes = true)
    (hauthorized : Authorized s request) (happlied : Applied config now s request s')
    (hctx : ctx.state = committed s' g now) :
    ExitsWith (NoChangeIff (Repeatable s request now)) (applyRequest request) ctx := by
  have hdeclare : request.kind ≠ .declareCluster := fun h => by
    rw [h] at hkind
    exact absurd hkind (by decide)
  have hcurrent := hauthorized.current hdeclare
  obtain ⟨hid, hepoch, hcoordinator, hlifecycle⟩ : s'.id = s.id ∧ s'.epoch = s.epoch ∧
      s'.coordinatorEpoch = s.coordinatorEpoch ∧ s'.lifecycle = s.lifecycle := by
    cases happlied
    case moved target record m hk _ _ _ _ _ =>
      exact absurd ((not_publishes_of_membershipTarget hk).symm.trans hkind) Bool.false_ne_true
    case admitted | domainPublished | constrained | linkPublished => exact ⟨rfl, rfl, rfl, rfl⟩
    all_goals
      have hpublishes := (congrArg MutationKind.publishes ‹request.kind = _›).symm.trans hkind
      exact absurd hpublishes (by decide)
  refine (ends_validateCommon hauthorized.cluster_valid hauthorized.kind_ne hdeclare
    ?_).exitsWith_bind
    (exitsWith_applyKind hkind happlied hctx)
  rw [hctx]
  refine ⟨hcurrent.cluster_eq.trans hid.symm, ?_, hcurrent.clusterEpoch_eq.trans hepoch.symm,
    hcurrent.coordinatorEpoch_eq.trans hcoordinator.symm, ?_⟩
  · exact (congrArg StrongCounter.known hepoch).trans hcurrent.declared
  · have haccepts := hcurrent.accepts
    simp only [acceptsMutations, bne_iff_ne, ne_eq] at haccepts ⊢
    exact fun h => haccepts (hlifecycle.symm.trans (Coordinator.retired_reevaluate.mp h))

end Requests

namespace Coordinator

/-- What a request that changes nothing leaves of a coordinator. -/
structure Unmoved {σ : Type} (c c' : Coordinator σ) : Prop where
  canonical : c'.canonical = c.canonical
  config : c'.config = c.config
  store : c'.store = c.store
  failures : c'.persistenceFailures = c.persistenceFailures

variable [StdSort] {σ : Type} (ops : PersistenceStore σ)

/-- An early return that wrote nothing is the answer, and the coordinator is unmoved. -/
theorem unmoved_of_exits {c : Coordinator σ} {request : MutationRequest} {now : Timestamp}
    {E : EarlyReturn → Prop}
    (h : ExitsWith E (applyRequest request) (startContext c now)) :
    ∃ early, E early ∧
      (applyAndCommit ops c request now).2 = early.result.fillGenerations c.canonical ∧
      Unmoved c (applyAndCommit ops c request now).1 := by
  obtain ⟨early, hearly, happly⟩ := h
  have hrollback : (startContext c now).journal.rollback = c.canonical :=
    (pending_startContext c now).1.rollback sameFrame_refl
  obtain ⟨_, _, _, heq, -⟩ := applyAndCommit_early ops happly
  rw [heq, hrollback]
  exact ⟨early, hearly, rfl, rfl, rfl, rfl, rfl⟩

/-- An early exit of the engine is the answer, and nothing is changed. -/
theorem answer_of_exitsWith {c : Coordinator σ} {request : MutationRequest} {now : Timestamp}
    (h : ExitsWith (NoChangeIff P) (applyRequest request) (startContext c now)) :
    ((applyAndCommit ops c request now).2.outcome = .noChange ↔ P) ∧
      (applyAndCommit ops c request now).1.canonical = c.canonical := by
  obtain ⟨early, hearly, hanswer, hunmoved⟩ := unmoved_of_exits ops h
  rw [hanswer]
  exact ⟨hearly, hunmoved.canonical⟩

/-- **Resubmission is idempotent** exactly for the publications that are
repeatable. The second answer leaves the canonical state as it is in any case. -/
theorem resubmission_idempotent_iff {c : Coordinator σ} {request : MutationRequest}
    {now now' : Timestamp} (hkind : request.kind.publishes = true)
    (haccepted : (applyAndCommit ops c request now).2.outcome = .accepted) :
    ((applyAndCommit ops (applyAndCommit ops c request now).1 request now').2.outcome =
          .noChange ∧
        (applyAndCommit ops (applyAndCommit ops c request now).1 request now').1.canonical =
          (applyAndCommit ops c request now).1.canonical) ↔
      Repeatable c.canonical request now := by
  obtain ⟨hauthorized, s, g, happlied, hcommitted⟩ := committed_of_accepted ops haccepted
  generalize (applyAndCommit ops c request now).1 = c' at hcommitted ⊢
  have hctx : (startContext c' now').state = committed s g now := hcommitted.canonical
  obtain ⟨hanswer, hunchanged⟩ := answer_of_exitsWith ops
    (exitsWith_applyRequest hkind hauthorized happlied hctx)
  exact ⟨fun h => hanswer.mp h.1, fun h => ⟨hanswer.mpr h, hunchanged⟩⟩

end Coordinator

section Example

namespace Coordinator

open scoped StdSort

/-- A constraint under given epochs of its header. -/
def floor (clusterEpoch : ClusterEpoch) (coordinatorEpoch : CoordinatorEpoch) :
    MutationRequest where
  kind := .publishConstraint
  cluster := .named "alpha"
  authority := { clusterEpoch := .fromRaw 1, coordinatorEpoch := .fromRaw 2 }
  constraint := some
    { id := .named "floor"
      kind := .capacityFloor
      header :=
        { generation := .fromRaw 1
          clusterEpoch := clusterEpoch
          coordinatorEpoch := coordinatorEpoch } }

theorem floor_accepted (clusterEpoch : ClusterEpoch) (coordinatorEpoch : CoordinatorEpoch)
    (h : clusterEpoch = .fromRaw 1 ∧ coordinatorEpoch = .fromRaw 2 ∨
      clusterEpoch = .unknown ∧ coordinatorEpoch = .unknown) :
    (applyAndCommit cellStore.ops (sample [.submit declaration ⟨2⟩])
      (floor clusterEpoch coordinatorEpoch) ⟨3⟩).2.outcome = .accepted := by
  rcases h with ⟨rfl, rfl⟩ | ⟨rfl, rfl⟩ <;> decide +kernel

/-- A constraint that carries the coordinator's epochs may come again. -/
theorem resubmission_idempotent_floor :
    let out := applyAndCommit cellStore.ops (sample [.submit declaration ⟨2⟩])
      (floor (.fromRaw 1) (.fromRaw 2)) ⟨3⟩
    let again := applyAndCommit cellStore.ops out.1
      (floor (.fromRaw 1) (.fromRaw 2)) ⟨4⟩
    out.2.outcome = .accepted ∧ again.2.outcome = .noChange ∧
      again.1.canonical = out.1.canonical := by
  have haccepted := floor_accepted (.fromRaw 1) (.fromRaw 2) (.inl ⟨rfl, rfl⟩)
  refine ⟨haccepted, (resubmission_idempotent_iff _ rfl haccepted).mpr
    ⟨fun h => (nomatch h), fun _ h => (nomatch h), fun _ payload hpayload => ?_,
      fun h => (nomatch h)⟩⟩
  obtain rfl := Option.some.inj hpayload
  exact ⟨by decide +kernel, by decide +kernel⟩

/-- A constraint whose header leaves the epochs to the coordinator is a conflict
with itself. -/
theorem resubmission_conflicts :
    let out := applyAndCommit cellStore.ops (sample [.submit declaration ⟨2⟩])
      (floor .unknown .unknown) ⟨3⟩
    let again := applyAndCommit cellStore.ops out.1 (floor .unknown .unknown) ⟨4⟩
    out.2.outcome = .accepted ∧ again.2.outcome = .rejected ∧ again.2.reason = .conflict := by
  decide +kernel

end Coordinator

end Example

end ClusterFabric
