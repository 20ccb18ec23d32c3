import ClusterFabric.Verify.Applied

/-! # Inversion of the engine

A mutation that runs to its end did what `Applied` says of its kind (`applied_of_ends`).
Every later argument about the engine goes by cases over `Applied` and never opens a
mutation again.
-/

namespace ClusterFabric

open Lib
open Txn
open Apply

variable {request : MutationRequest} {ctx ctx' : ApplyContext} {u : Unit} {k : DomainKind}
  {record : RackRecord}

theorem ends_validateBoot_bind [StdSort] {rack : RackId} {β : Type} {b : β}
    {f : Unit → Apply β} (h : Ends (validateBoot request rack >>= f) ctx b ctx') :
    BootAuthorized ctx.state request rack ∧ Ends (f ()) ctx b ctx' := by
  obtain ⟨_, _, hboot, hf⟩ := ends_bind.mp h
  obtain ⟨hauthorized, rfl⟩ := bootAuthorized_of_ends hboot
  exact ⟨hauthorized, hf⟩

theorem ends_bump_bind {tag : CounterTag} {counter : Counter tag} {overflow : EarlyReturn}
    {β : Type} {b : β} {f : Unit → Apply β} (h : Ends (bump counter overflow >>= f) ctx b ctx') :
    ∃ value, (counter.get ctx.state).next = some value ∧
      Ends (f ())
        { ctx with journal := ctx.journal.update fun s => counter.set s value } b ctx' := by
  obtain ⟨_, _, hbump, h⟩ := ends_bind.mp h
  obtain ⟨value, hvalue, rfl⟩ := ends_bump.mp hbump
  exact ⟨value, hvalue, h⟩

theorem ends_stampMembership {record' : RackRecord}
    (h : Ends (stampMembership record) ctx record' ctx') :
    ∃ m, ctx.state.membershipGeneration.next = some m ∧
      record' = { record with membershipGeneration := m } ∧
      ctx' = { ctx with
        journal := ctx.journal.update fun s => { s with membershipGeneration := m } } := by
  obtain ⟨m, hm, h⟩ := ends_bump_bind h
  replace h := ends_get_bind.mp h
  obtain ⟨hrecord, hctx⟩ := ends_pure.mp h
  exact ⟨m, hm, hrecord, hctx⟩

theorem ends_stampMembership_bind {β : Type} {b : β} {f : RackRecord → Apply β}
    (h : Ends (stampMembership record >>= f) ctx b ctx') :
    ∃ m, ctx.state.membershipGeneration.next = some m ∧
      Ends (f { record with membershipGeneration := m })
        { ctx with journal := ctx.journal.update fun s => { s with membershipGeneration := m } }
        b ctx' := by
  obtain ⟨_, _, hstamp, h⟩ := ends_bind.mp h
  obtain ⟨m, hm, rfl, rfl⟩ := ends_stampMembership hstamp
  exact ⟨m, hm, h⟩

/-- The link part of a health publication or an evidence withdrawal. -/
theorem linksRewritten_of_ends {c : Prop} [Decidable c] {select : InterRackLink → Bool}
    {f : InterRackLink → InterRackLink} {overflow : EarlyReturn}
    (h : Ends (when c do
      rewrite linksMember select f
      bump connectivityCounter overflow) ctx u ctx') :
    ∃ links g, LinksRewritten ctx.state c select f links g ∧
      ctx'.state = { ctx.state with links := links, connectivityGeneration := g } := by
  rw [ends_when] at h
  split_ifs at h with hc
  · replace h := ends_modify_bind.mp h
    obtain ⟨g, hg, rfl⟩ := ends_bump.mp h
    simp only [ApplyContext.state, StateJournal.state_rewrite, StateJournal.state_update,
      getMap_links, setMap_links] at hg ⊢
    exact ⟨_, g, .inl ⟨hc, rfl, hg⟩, rfl⟩
  · subst h
    exact ⟨_, _, .inr ⟨hc, rfl, rfl⟩, rfl⟩

theorem applied_redeclare (hkind : request.kind = .declareCluster)
    (hepoch : ctx.state.epoch.known = true) [StdSort] (h : Ends (redeclare request) ctx u ctx') :
    Applied ctx.config ctx.now ctx.state request ctx'.state := by
  replace h := ends_get_bind.mp h
  obtain ⟨hnew, h⟩ := checks_exitIf.ends_bind.mp h
  replace h := ends_modify_bind.mp h
  replace h := ends_modify_bind.mp h
  rw [ends_markChanged.mp h]
  exact .redeclared hkind hepoch hnew

theorem applied_declareCluster [StdSort] (hkind : request.kind = .declareCluster)
    (h : Ends (applyDeclareCluster request) ctx u ctx') :
    Applied ctx.config ctx.now ctx.state request ctx'.state := by
  replace h := ends_get_bind.mp h
  cases hepoch : ctx.state.epoch.known with
  | true =>
    rw [if_pos hepoch] at h
    exact applied_redeclare hkind hepoch h
  | false =>
    rw [if_neg (by simp [hepoch])] at h
    replace h := ends_get_bind.mp h
    replace h := ends_modify_bind.mp h
    replace h := ends_modify_bind.mp h
    rw [ends_markChanged.mp h]
    exact .declared hkind hepoch

theorem applied_registerPublisher [StdSort] (hkind : request.kind = .registerRackPublisher)
    (h : Ends (applyRegisterPublisher request) ctx u ctx') :
    Applied ctx.config ctx.now ctx.state request ctx'.state := by
  replace h := ends_get_bind.mp h
  obtain ⟨hrack, h⟩ := checks_exitIf.ends_bind.mp h
  obtain ⟨hretired, h⟩ := checks_exitIf.ends_bind.mp h
  obtain ⟨publisher, hpublisher, h⟩ := ends_ofOption_bind.mp h
  split at h
  · -- a recorded rack is answered by an exit
    obtain ⟨_, h⟩ := (checks_forSome fun _ => checks_exitIf).ends_bind.mp h
    obtain ⟨_, h⟩ := (checks_forSome fun _ => checks_exitIf).ends_bind.mp h
    exact (ends_exit.mp h).elim
  · rename_i hfind
    obtain ⟨hroom, h⟩ := checks_exitIf.ends_bind.mp h
    obtain ⟨hgeneration, h⟩ := checks_exitIf.ends_bind.mp h
    replace h := ends_modify_bind.mp h
    rw [ends_markChanged.mp h]
    exact .registered hkind (by simpa using hrack) (by simpa using hretired)
      (by simp [hpublisher]) hfind (not_le.mp hroom) (by simpa using hgeneration)

theorem checks_admitOver [StdSort] (incoming : RackReference) (record : RackRecord) :
    Checks (admitOver incoming record) (AdmitsOver incoming record) := by
  refine Checks.congr (checks_bind checks_exitIf fun _ => checks_ite
    (checks_forSome fun _ => checks_forSome fun _ => checks_exitIf) <| checks_ite
    (checks_bind checks_exitIf fun _ => checks_bind checks_exitIf fun _ =>
      checks_exitIf)
    (checks_forSome fun _ => checks_forSome fun _ => checks_exitIf)) ?_
  change _ ∧ (if incoming.generation = record.reference.generation ∧
    record.isPlaceholder = true then _ else _) ↔ _
  by_cases heq : incoming.generation = record.reference.generation
  · have hnlt : ¬ record.reference.generation < incoming.generation := heq.not_gt
    cases hplaceholder : record.isPlaceholder with
    | true =>
      rw [if_pos ⟨heq, rfl⟩]
      constructor
      · rintro ⟨hgeneration, h⟩
        exact ⟨not_lt.mp hgeneration, fun _ o ho p hp => not_not.mp (h o ho p hp),
          fun _ hno => by simp [hplaceholder] at hno⟩
      · intro h
        exact ⟨not_lt.mpr h.generation_le, fun o ho p hp =>
          not_not.mpr (h.owner (.inl hplaceholder) o ho p hp)⟩
    | false =>
      rw [if_neg (by simp), if_pos heq]
      constructor
      · rintro ⟨hgeneration, hcontent, -, hnewer⟩
        refine ⟨not_lt.mp hgeneration, fun hor => ?_, fun _ _ => ⟨by simpa using hcontent, ?_⟩⟩
        · simp [hplaceholder, hnlt] at hor
        · intro hboot
          by_contra hle
          exact hnewer ⟨hboot, not_lt.mp hle⟩
      · intro h
        obtain ⟨hcontent, hnewer⟩ := h.repeats heq hplaceholder
        refine ⟨not_lt.mpr h.generation_le, by simpa using hcontent, ?_, ?_⟩
        · -- an identical publication would not be newer
          intro hidentical
          have hsame : record.reference.boot = incoming.boot ∧
              record.reference.publication = incoming.publication := by
            simp only [identicalPublication, Bool.or_eq_true, Bool.and_eq_true, beq_iff_eq]
              at hidentical
            rcases hidentical with ⟨⟨⟨⟨⟨_, hb⟩, _⟩, hp⟩, _⟩, _⟩ | ⟨⟨⟨_, hb⟩, _⟩, hp⟩
            · exact ⟨hb, hp⟩
            · exact ⟨hb, hp⟩
          exact (hnewer hsame.1).ne hsame.2
        · rintro ⟨hboot, hle⟩
          exact (hnewer hboot).not_ge hle
  · rw [if_neg fun h => heq h.1, if_neg heq]
    constructor
    · rintro ⟨hgeneration, h⟩
      exact ⟨not_lt.mp hgeneration, fun _ o ho p hp => not_not.mp (h o ho p hp),
        fun h => absurd h heq⟩
    · intro h
      have hlt : record.reference.generation < incoming.generation :=
        lt_of_le_of_ne h.generation_le (Ne.symm heq)
      exact ⟨not_lt.mpr h.generation_le, fun o ho p hp =>
        not_not.mpr (h.owner (.inr hlt) o ho p hp)⟩

theorem applied_addRack [StdSort] (hkind : request.kind = .addRack)
    (h : Ends (applyAddRack request) ctx u ctx') :
    Applied ctx.config ctx.now ctx.state request ctx'.state := by
  obtain ⟨hvalid, h⟩ := checks_exitIf.ends_bind.mp h
  replace h := ends_get_bind.mp h
  obtain ⟨hretired, h⟩ := checks_exitIf.ends_bind.mp h
  obtain ⟨hboot, h⟩ := ends_validateBoot_bind h
  obtain ⟨hover, h⟩ := (checks_forSome (checks_admitOver _)).ends_bind.mp h
  obtain ⟨hroom, h⟩ := checks_exitIf.ends_bind.mp h
  obtain ⟨record, ctx₁, hstamp, h⟩ := ends_bind.mp h
  replace h := ends_modify_bind.mp h
  replace h := ends_modify_bind.mp h
  rw [ends_markChanged.mp h]
  have happlied : ∀ m, _ → Applied ctx.config ctx.now ctx.state request _ := fun m hm =>
    .admitted (m := m) hkind rfl (by simpa using hvalid) (by simpa using hretired) hboot hover
      (fun hnone => not_le.mp fun hle => hroom ⟨hnone, hle⟩) rfl hm
  change Ends (if restamps _ _ = true then stampMembership _ else pure _) _ _ _ at hstamp
  split_ifs at hstamp with hrestamps
  · obtain ⟨m, hm, rfl, rfl⟩ := ends_stampMembership hstamp
    have hfinal := happlied m (by rw [if_pos hrestamps]; exact hm)
    rw [if_pos hrestamps] at hfinal
    exact hfinal
  · obtain ⟨hrecord, hctx⟩ := ends_pure.mp hstamp
    have hfinal := happlied ctx.state.membershipGeneration (by rw [if_neg hrestamps])
    rw [if_neg hrestamps] at hfinal
    rw [hrecord, hctx]
    exact hfinal

theorem applied_updateRackGeneration [StdSort] (hkind : request.kind = .updateRackGeneration)
    (h : Ends (applyUpdateRackGeneration request) ctx u ctx') :
    Applied ctx.config ctx.now ctx.state request ctx'.state := by
  replace h := ends_get_bind.mp h
  obtain ⟨_, h⟩ := checks_exitIf.ends_bind.mp h
  obtain ⟨record, hfind, h⟩ := ends_ofOption_bind.mp h
  obtain ⟨hboot, h⟩ := ends_validateBoot_bind h
  obtain ⟨hexpected, h⟩ := (checks_forSome fun _ => checks_exitIf).ends_bind.mp h
  obtain ⟨generation, hnew, h⟩ := ends_ofOption_bind.mp h
  obtain ⟨hge, h⟩ := checks_exitIf.ends_bind.mp h
  obtain ⟨hne, h⟩ := checks_exitIf.ends_bind.mp h
  obtain ⟨m, hm, h⟩ := ends_stampMembership_bind h
  replace h := ends_modify_bind.mp h
  rw [ends_markChanged.mp h]
  exact .updated hkind hfind hboot (fun e he => not_not.mp (hexpected e he)) hnew
    (lt_of_le_of_ne (not_lt.mp hge) (Ne.symm hne)) hm

theorem applied_membershipChange [StdSort] {target : RackMembershipState}
    (hkind : request.kind.membershipTarget = some target)
    (h : Ends (applyMembershipChange request target (target == .retired)) ctx u ctx') :
    Applied ctx.config ctx.now ctx.state request ctx'.state := by
  replace h := ends_get_bind.mp h
  obtain ⟨_, h⟩ := checks_exitIf.ends_bind.mp h
  obtain ⟨record, hfind, h⟩ := ends_ofOption_bind.mp h
  obtain ⟨hboot, h⟩ := ends_validateBoot_bind h
  obtain ⟨hchange, h⟩ := checks_exitIf.ends_bind.mp h
  obtain ⟨hretired, h⟩ := checks_exitIf.ends_bind.mp h
  obtain ⟨m, hm, h⟩ := ends_stampMembership_bind h
  replace h := ends_modify_bind.mp h
  obtain ⟨_, ctx₂, hadd, h⟩ := ends_bind.mp h
  replace h := ends_modify_bind.mp h
  rw [ends_markChanged.mp h]
  have happlied : Applied ctx.config ctx.now ctx.state request _ :=
    .moved hkind hfind hboot hchange (fun hr => by_contra fun hne => hretired ⟨hr, hne⟩) hm
  by_cases htarget : target = .retired
  · rw [ends_when, if_pos (by simp [htarget])] at hadd
    rw [ends_update.mp hadd]
    rw [movedState, if_pos htarget] at happlied
    subst htarget
    exact happlied
  · rw [ends_when, if_neg (by simp [htarget])] at hadd
    rw [hadd]
    rw [movedState, if_neg htarget] at happlied
    exact happlied

theorem applied_recoverRack [StdSort] (hkind : request.kind = .recoverRack)
    (h : Ends (applyRecoverRack request) ctx u ctx') :
    Applied ctx.config ctx.now ctx.state request ctx'.state := by
  replace h := ends_get_bind.mp h
  obtain ⟨_, h⟩ := checks_exitIf.ends_bind.mp h
  obtain ⟨hretired, h⟩ := checks_exitIf.ends_bind.mp h
  obtain ⟨record, hfind, h⟩ := ends_ofOption_bind.mp h
  obtain ⟨boot, hboot, h⟩ := ends_ofOption_bind.mp h
  obtain ⟨hfenced, h⟩ := checks_exitIf.ends_bind.mp h
  obtain ⟨hlive, h⟩ := checks_exitIf.ends_bind.mp h
  obtain ⟨hgeneration, h⟩ := checks_exitIf.ends_bind.mp h
  obtain ⟨m, hm, h⟩ := ends_stampMembership_bind h
  replace h := ends_modify_bind.mp h
  replace h := ends_modify_bind.mp h
  rw [ends_markChanged.mp h]
  refine .recovered hkind rfl (by simpa using hretired) hfind hboot (by simpa using hfenced)
    (fun heq => ?_) (not_lt.mp hgeneration) hm
  by_contra hcurrent
  exact hlive ⟨heq, by simpa using hcurrent⟩

theorem applied_publishHealth [StdSort] (hkind : request.kind = .publishHealthCurrentness)
    (h : Ends (applyPublishHealth request) ctx u ctx') :
    Applied ctx.config ctx.now ctx.state request ctx'.state := by
  replace h := ends_get_bind.mp h
  obtain ⟨_, h⟩ := checks_exitIf.ends_bind.mp h
  obtain ⟨record, hfind, h⟩ := ends_ofOption_bind.mp h
  obtain ⟨hretired, h⟩ := checks_exitIf.ends_bind.mp h
  obtain ⟨hboot, h⟩ := ends_validateBoot_bind h
  obtain ⟨hnew, h⟩ := checks_exitIf.ends_bind.mp h
  replace h := ends_modify_bind.mp h
  obtain ⟨_, ctx₁, hlinks, h⟩ := ends_bind.mp h
  obtain ⟨links, c, hlinks, hstate⟩ := linksRewritten_of_ends hlinks
  obtain ⟨g, hg, h⟩ := ends_bump_bind h
  rw [ends_markChanged.mp h]
  change Applied _ _ _ _ { ctx₁.state with healthGeneration := g }
  rw [hstate] at hg ⊢
  exact .healthPublished hkind hfind (by simpa using hretired) hboot hnew hlinks hg

theorem applied_withdrawEvidence [StdSort] (hkind : request.kind = .withdrawEvidence)
    (h : Ends (applyWithdrawEvidence request) ctx u ctx') :
    Applied ctx.config ctx.now ctx.state request ctx'.state := by
  replace h := ends_get_bind.mp h
  obtain ⟨_, h⟩ := checks_exitIf.ends_bind.mp h
  obtain ⟨record, hfind, h⟩ := ends_ofOption_bind.mp h
  replace h := ends_modify_bind.mp h
  obtain ⟨_, ctx₁, hlinks, h⟩ := ends_bind.mp h
  obtain ⟨links, c, hlinks, hstate⟩ := linksRewritten_of_ends hlinks
  obtain ⟨g, hg, h⟩ := ends_bump_bind h
  rw [ends_markChanged.mp h]
  change Applied _ _ _ _ { ctx₁.state with healthGeneration := g }
  rw [hstate] at hg ⊢
  exact .evidenceWithdrawn hkind hfind hlinks hg

/-- A publication over a record is accepted exactly when its generation is newer. -/
theorem newer_iff {incoming recorded : DomainGeneration} {P : Prop} :
    (¬ incoming.value < recorded.value ∧ if incoming = recorded then P ∧ False else True) ↔
      recorded < incoming := by
  by_cases heq : incoming = recorded
  · simp [heq]
  · rw [if_neg heq, and_true]
    exact ⟨fun h => lt_of_le_of_ne (not_lt.mp h) (Ne.symm heq), fun h => h.asymm⟩

theorem checks_publishOver (domain existing : Domain k) :
    Checks (publishOver domain existing)
      (existing.header.generation < domain.header.generation) := by
  refine Checks.congr (checks_bind checks_exitIf fun _ => checks_ite
    (checks_bind checks_exitIf fun _ => checks_exit) checks_pure) ?_
  exact newer_iff

@[simp] theorem id_normalizedDomain [StdSort] (payload : Domain k) :
    (normalizedDomain payload).id = payload.id := by cases k <;> rfl

@[simp] theorem header_normalizedDomain [StdSort] (payload : Domain k) :
    (normalizedDomain payload).header = payload.header := by cases k <;> rfl

@[simp] theorem racks_normalizedDomain [StdSort] (payload : Domain k) :
    (normalizedDomain payload).racks = sortUnique payload.racks := by cases k <;> rfl

@[simp] theorem classRaw_normalizedDomain [StdSort] (payload : Domain k) :
    Domain.classRaw k (normalizedDomain payload) = Domain.classRaw k payload := by cases k <;> rfl

theorem applied_publishDomain [StdSort] (hkind : request.kind.domainKind = some k)
    (h : Ends (applyPublishDomain k request) ctx u ctx') :
    Applied ctx.config ctx.now ctx.state request ctx'.state := by
  obtain ⟨payload, hpayload, h⟩ := ends_ofOption_bind.mp h
  replace h := ends_get_bind.mp h
  obtain ⟨hid, h⟩ := checks_exitIf.ends_bind.mp h
  obtain ⟨hok, h⟩ := ends_validateDomainPayload_bind (by simpa using hid) h
  obtain ⟨hover, h⟩ := (checks_forSome (checks_publishOver _)).ends_bind.mp h
  obtain ⟨hroom, h⟩ := checks_exitIf.ends_bind.mp h
  obtain ⟨aggregate, haggregate, h⟩ := ends_ofOption_bind.mp h
  replace h := ends_modify_bind.mp h
  replace h := ends_modify_bind.mp h
  obtain ⟨t, ht, h⟩ := ends_bump_bind h
  replace h := ends_modify_bind.mp h
  rw [ends_markChanged.mp h]
  simp only [id_normalizedDomain, header_normalizedDomain] at hover hroom haggregate ⊢
  exact .domainPublished hkind hpayload hok (by simp only [id_normalizedDomain]) hover
    (fun hnone => not_le.mp fun hle => hroom ⟨hnone, hle⟩) haggregate ht

theorem checks_constrainOver (constraint existing : ClusterConstraint) :
    Checks (constrainOver constraint existing)
      (existing.header.generation < constraint.header.generation) := by
  refine Checks.congr (checks_bind checks_exitIf fun _ => checks_ite
    (checks_bind checks_exitIf fun _ => checks_exit) checks_pure) ?_
  exact newer_iff

theorem applied_publishConstraint [StdSort] (hkind : request.kind = .publishConstraint)
    (h : Ends (applyPublishConstraint request) ctx u ctx') :
    Applied ctx.config ctx.now ctx.state request ctx'.state := by
  replace h := ends_get_bind.mp h
  obtain ⟨payload, hpayload, h⟩ := ends_ofOption_bind.mp h
  obtain ⟨hlength, h⟩ := checks_exitIf.ends_bind.mp h
  obtain ⟨hmembers, h⟩ := (checks_forSome fun _ => checks_exit).ends_bind.mp h
  obtain ⟨hunknown, h⟩ := checks_exitIf.ends_bind.mp h
  obtain ⟨hknown, h⟩ := checks_exitIf.ends_bind.mp h
  obtain ⟨hover, h⟩ := (checks_forSome (checks_constrainOver _)).ends_bind.mp h
  obtain ⟨hroom, h⟩ := checks_exitIf.ends_bind.mp h
  obtain ⟨g, hg, h⟩ := ends_bump_bind h
  replace h := ends_modify_bind.mp h
  rw [ends_markChanged.mp h]
  exact .constrained hkind hpayload
    ⟨not_lt.mp hlength, members_of_find? hmembers, hunknown, by simpa using hknown⟩ hover
    (fun hnone => not_le.mp fun hle => hroom ⟨hnone, hle⟩) hg

theorem checks_checkLinkReferences (s : ClusterState) (link : InterRackLink) :
    Checks (checkLinkReferences s link)
      ((∀ domain ∈ link.failureDomains, s.failureDomains.contains domain = true) ∧
        (∀ domain, link.networkDomain = some domain → s.networkDomains.contains domain = true) ∧
        ∀ domain, link.linkDomain = some domain → s.linkDomains.contains domain = true) := by
  refine Checks.congr (checks_bind (checks_forSome fun _ => checks_exit) fun _ =>
    checks_bind (checks_forSome fun _ => checks_exitIf) fun _ =>
    checks_forSome fun _ => checks_exitIf) ?_
  have hfailure : (∀ domain, (link.failureDomains.find? fun domain =>
      !s.failureDomains.contains domain) = some domain → False) ↔
      ∀ domain ∈ link.failureDomains, s.failureDomains.contains domain = true := by
    rw [← Option.eq_none_iff_forall_ne_some, List.find?_eq_none]
    simp
  rw [hfailure]
  simp

theorem checks_linkOver (link current : InterRackLink) :
    Checks (linkOver link current) (current.header.generation < link.header.generation) := by
  refine Checks.congr (checks_bind checks_exitIf fun _ => checks_ite
    (checks_bind checks_exitIf fun _ => checks_exit) checks_pure) ?_
  exact newer_iff

theorem applied_publishLink [StdSort] (hkind : request.kind = .publishInterRackLink)
    (h : Ends (applyPublishLink request) ctx u ctx') :
    Applied ctx.config ctx.now ctx.state request ctx'.state := by
  replace h := ends_get_bind.mp h
  obtain ⟨payload, hpayload, h⟩ := ends_ofOption_bind.mp h
  obtain ⟨hloop, h⟩ := checks_exitIf.ends_bind.mp h
  obtain ⟨hdirection, h⟩ := checks_exitIf.ends_bind.mp h
  obtain ⟨hsource, h⟩ := checks_exitIf.ends_bind.mp h
  obtain ⟨hdestination, h⟩ := checks_exitIf.ends_bind.mp h
  obtain ⟨hlength, h⟩ := checks_exitIf.ends_bind.mp h
  obtain ⟨⟨hfailure, hnetwork, hlink⟩, h⟩ := (checks_checkLinkReferences _ _).ends_bind.mp h
  obtain ⟨hknown, h⟩ := checks_exitIf.ends_bind.mp h
  obtain ⟨hover, h⟩ := (checks_forSome (checks_linkOver _)).ends_bind.mp h
  obtain ⟨hroom, h⟩ := checks_exitIf.ends_bind.mp h
  obtain ⟨hepoch, h⟩ := checks_exitIf.ends_bind.mp h
  replace h := ends_modify_bind.mp h
  obtain ⟨t, ht, h⟩ := ends_bump_bind h
  obtain ⟨c, hc, h⟩ := ends_bump_bind h
  replace h := ends_modify_bind.mp h
  rw [ends_markChanged.mp h]
  have hok : LinkPayloadOk ctx.state payload :=
    { no_loop := hloop
      direction_ne := hdirection
      source_member := by simpa using hsource
      destination_member := by simpa using hdestination
      length_le := not_lt.mp hlength
      failureDomains := fun domain hd => hfailure domain (mem_sortUnique.mpr hd)
      networkDomain := hnetwork
      linkDomain := hlink
      generation_known := by simpa using hknown
      epoch_eq := not_not.mp hepoch }
  exact .linkPublished hkind hpayload hok hover
    (fun hnone => not_le.mp fun hle => hroom ⟨hnone, hle⟩) ht hc

theorem applied_withdrawLink [StdSort] (hkind : request.kind = .withdrawInterRackLink)
    (h : Ends (applyWithdrawLink request) ctx u ctx') :
    Applied ctx.config ctx.now ctx.state request ctx'.state := by
  replace h := ends_get_bind.mp h
  obtain ⟨id, hid, h⟩ := ends_ofOption_bind.mp h
  obtain ⟨hfind, h⟩ := checks_exitIf.ends_bind.mp h
  replace h := ends_modify_bind.mp h
  obtain ⟨t, ht, h⟩ := ends_bump_bind h
  obtain ⟨c, hc, h⟩ := ends_bump_bind h
  replace h := ends_modify_bind.mp h
  rw [ends_markChanged.mp h]
  exact .linkWithdrawn hkind hid (by simpa using hfind) ht hc

theorem applied_supersedeTopology [StdSort] (hkind : request.kind = .supersedeTopology)
    (h : Ends (applySupersedeTopology request) ctx u ctx') :
    Applied ctx.config ctx.now ctx.state request ctx'.state := by
  replace h := ends_get_bind.mp h
  obtain ⟨target, htarget, h⟩ := ends_ofOption_bind.mp h
  obtain ⟨hnewer, h⟩ := checks_exitIf.ends_bind.mp h
  replace h := ends_modify_bind.mp h
  replace h := ends_modify_bind.mp h
  obtain ⟨t, ht, h⟩ := ends_bump_bind h
  obtain ⟨c, hc, h⟩ := ends_bump_bind h
  replace h := ends_modify_bind.mp h
  rw [ends_markChanged.mp h]
  simp only [ApplyContext.state, StateJournal.state_rewrite, StateJournal.state_update,
    getMap_links, setMap_links] at ht hc ⊢
  exact .superseded hkind htarget (not_le.mp hnewer) ht hc

theorem applied_publishSnapshot [StdSort] (hkind : request.kind = .publishSnapshot)
    (h : Ends applyPublishSnapshot ctx u ctx') :
    Applied ctx.config ctx.now ctx.state request ctx'.state := by
  obtain ⟨g, hg, h⟩ := ends_bump_bind h
  obtain ⟨q, hq, h⟩ := ends_bump_bind h
  rw [ends_markChanged.mp h]
  exact .snapshotPublished hkind hg hq

theorem applied_revalidate [StdSort] (hkind : request.kind = .revalidateRecoveredState)
    (h : Ends (applyRevalidate request) ctx u ctx') :
    Applied ctx.config ctx.now ctx.state request ctx'.state := by
  replace h := ends_get_bind.mp h
  obtain ⟨_, h⟩ := checks_exitIf.ends_bind.mp h
  obtain ⟨_, h⟩ := (checks_forSome fun _ => checks_exit).ends_bind.mp h
  obtain ⟨hfresh, h⟩ := checks_exitIf.ends_bind.mp h
  rw [ends_markChanged.mp h]
  refine .revalidated hkind fun rack hrack => ?_
  simpa using List.filter_eq_nil_iff.mp (not_not.mp hfresh) rack hrack

theorem applied_retireCluster [StdSort] (hkind : request.kind = .retireCluster)
    (h : Ends applyRetireCluster ctx u ctx') :
    Applied ctx.config ctx.now ctx.state request ctx'.state := by
  replace h := ends_get_bind.mp h
  obtain ⟨hlifecycle, h⟩ := checks_exitIf.ends_bind.mp h
  iterate 3 replace h := ends_modify_bind.mp h
  rw [ends_markChanged.mp h]
  simp only [ApplyContext.state, StateJournal.state_rewrite, StateJournal.state_update,
    StateJournal.state_recordScalars, getMap_racks, setMap_racks]
  exact .clusterRetired hkind hlifecycle

/-- **Inversion of the engine.** A completed request has passed the common gate
and did what its kind does. -/
theorem applied_of_ends [StdSort] (h : Ends (applyRequest request) ctx u ctx') :
    Authorized ctx.state request ∧ Applied ctx.config ctx.now ctx.state request ctx'.state := by
  obtain ⟨_, _, hgate, hkind⟩ := ends_bind.mp h
  obtain ⟨hauthorized, rfl⟩ := authorized_of_ends hgate
  refine ⟨hauthorized, ?_⟩
  unfold applyKind at hkind
  split at hkind
  case h_1 hk => exact applied_declareCluster hk hkind
  case h_2 hk => exact applied_registerPublisher hk hkind
  case h_3 hk => exact applied_addRack hk hkind
  case h_4 hk => exact applied_updateRackGeneration hk hkind
  case h_5 hk | h_6 hk | h_7 hk => exact applied_membershipChange (by rw [hk]; rfl) hkind
  case h_8 hk => exact applied_recoverRack hk hkind
  case h_9 hk => exact applied_publishLink hk hkind
  case h_10 hk => exact applied_withdrawLink hk hkind
  case h_11 hk | h_12 hk | h_13 hk | h_14 hk | h_15 hk | h_16 hk | h_17 hk | h_18 hk =>
    exact applied_publishDomain (by rw [hk]; rfl) hkind
  case h_19 hk => exact applied_publishConstraint hk hkind
  case h_20 hk => exact applied_publishHealth hk hkind
  case h_21 hk => exact applied_withdrawEvidence hk hkind
  case h_22 hk => exact applied_supersedeTopology hk hkind
  case h_23 hk => exact applied_publishSnapshot hk hkind
  case h_24 hk => exact applied_revalidate hk hkind
  case h_25 hk => exact applied_retireCluster hk hkind
  case h_26 hk => exact absurd hk hauthorized.kind_ne

end ClusterFabric
