import ClusterFabric.Model.Coordinator

/-! # Rollback

A refused mutation is undone from the journal. The journal records scalars as a whole
and map entries one by one, so what has to be shown is that every write of every
mutation is covered by one of the two. The cluster identity is covered by neither, and
the first declaration writes it (`settled_applyDeclareCluster`).
-/

namespace ClusterFabric

open Lib
open Txn

variable {request : MutationRequest} {ctx : ApplyContext}

/-! ## Agreement up to the recorded scalars -/

/-- The states have the same maps and the same identity: what the scalar
snapshot does not hold. -/
def SameFrame (s s' : ClusterState) : Prop :=
  s'.toCanonicalRecords = s.toCanonicalRecords ∧ s'.id = s.id

theorem sameFrame_refl (s : ClusterState) : SameFrame s s := ⟨rfl, rfl⟩

/-- A relation between states that fixes the maps and survives writing the same
maps on both sides. -/
structure FixesMaps (agree : ClusterState → ClusterState → Prop) : Prop where
  records_eq : ∀ {s s'}, agree s s' → s'.toCanonicalRecords = s.toCanonicalRecords
  set_records : ∀ {s s'} (r : CanonicalRecords), agree s s' →
    agree { s with toCanonicalRecords := r } { s' with toCanonicalRecords := r }

theorem fixesMaps_eq : FixesMaps Eq where
  records_eq h := h ▸ rfl
  set_records _ h := h ▸ rfl

theorem fixesMaps_sameFrame : FixesMaps SameFrame where
  records_eq h := h.1
  set_records _ h := ⟨rfl, h.2⟩

theorem restoreScalars_of_sameFrame {s s' : ClusterState} (h : SameFrame s s') :
    restoreScalars (captureScalars s) s' = s := by
  obtain ⟨hrecords, hid⟩ := h
  unfold restoreScalars captureScalars
  rw [hrecords, hid]

namespace StateJournal

variable {agree : ClusterState → ClusterState → Prop} {s₀ : ClusterState} {j : StateJournal}

/-- From a record of the scalars on, scalars may change freely. -/
theorem restores_recordScalars (h : j.Restores agree s₀) (hrefl : ∀ s, agree s s) :
    j.recordScalars.Restores SameFrame s₀ := by
  refine h.push fun s hs => ?_
  rw [restoreScalars_of_sameFrame hs]
  exact hrefl _

section Entries

variable {K V : Type} [LinearOrder K] (m : MapMember K V)

/-- A write of one map, with an action that takes the new map back to the old. -/
theorem restores_push_map (hfix : FixesMaps agree) (h : j.Restores agree s₀)
    (f u : StdMap K V → StdMap K V) (hu : u (f (j.state.getMap m)) = j.state.getMap m) :
    (j.push (fun s => s.setMap m (f (s.getMap m))) fun s =>
      s.setMap m (u (s.getMap m))).Restores agree s₀ := by
  refine h.push fun s hs => ?_
  have hget : s.getMap m = f (j.state.getMap m) := by
    rw [ClusterState.getMap, hfix.records_eq hs]
    exact ClusterState.getMap_setMap m _ _
  have hback := hfix.set_records (m.set s.toCanonicalRecords (j.state.getMap m)) hs
  rw [hget, hu]
  have hstate : { j.state.setMap m (f (j.state.getMap m)) with
      toCanonicalRecords := m.set s.toCanonicalRecords (j.state.getMap m) } = j.state := by
    rw [hfix.records_eq hs]
    exact (ClusterState.setMap_setMap m _ _ _).trans (ClusterState.setMap_getMap m _)
  rw [hstate] at hback
  exact hback

theorem restores_assign (hfix : FixesMaps agree) (h : j.Restores agree s₀) (key : K) (value : V) :
    (assign m j key value).Restores agree s₀ :=
  restores_push_map m hfix h (fun map => map.insertOrAssign key value)
    (fun map => map.putBack key _) (StdMap.putBack_insertOrAssign _ key value)

theorem restores_eraseEntry (hfix : FixesMaps agree) (h : j.Restores agree s₀) (key : K) :
    (eraseEntry m j key).Restores agree s₀ :=
  restores_push_map m hfix h (fun map => map.erase key) (fun map => map.putBack key _)
    (StdMap.putBack_erase _ key)

theorem restores_rewrite (hfix : FixesMaps agree) (h : j.Restores agree s₀) (select : V → Bool)
    (f : V → V) : (rewrite m j select f).Restores agree s₀ := by
  unfold rewrite
  generalize (j.state.getMap m).entries = entries
  induction entries generalizing j with
  | nil => exact h
  | cons e entries ih =>
    rw [List.foldl_cons]
    split_ifs
    · exact ih (restores_assign m hfix h e.1 (f e.2))
    · exact ih h

end Entries

end StateJournal

/-! ## Every mutation can be undone -/

/-- The journal undoes everything since `s₀`, and nothing was marked as changed. -/
def Pending (s₀ : ClusterState) (ctx : ApplyContext) : Prop :=
  ctx.journal.Restores SameFrame s₀ ∧ ctx.changed = false

/-- The journal undoes everything since `s₀`, and the mutation is complete. -/
def Complete (s₀ : ClusterState) (ctx : ApplyContext) : Prop :=
  ctx.journal.Restores SameFrame s₀ ∧ ctx.changed = true

section Mutations

variable {s₀ : ClusterState}

theorem keeps_journal {f : StateJournal → StateJournal}
    (hf : ∀ j : StateJournal, j.Restores SameFrame s₀ → (f j).Restores SameFrame s₀) :
    Keeps (Pending s₀) (Apply.journal f) :=
  keeps_modify fun ctx h => ⟨hf ctx.journal h.1, h.2⟩

/-- A write outside the maps and the identity. -/
theorem keeps_update {f : ClusterState → ClusterState} (hf : ∀ s, SameFrame (f s) s) :
    Keeps (Pending s₀) (Apply.update f) := by
  refine keeps_journal fun j h => h.update fun s hs => ?_
  exact ⟨hs.1.trans (hf j.state).1.symm, hs.2.trans (hf j.state).2.symm⟩

theorem keeps_recordScalars : Keeps (Pending s₀) (Apply.journal StateJournal.recordScalars) :=
  keeps_journal fun _ h => StateJournal.restores_recordScalars h sameFrame_refl

section Entries

variable {K V : Type} [LinearOrder K] (m : MapMember K V)

theorem keeps_assign (key : K) (value : V) : Keeps (Pending s₀) (Apply.assign m key value) :=
  keeps_journal fun _ h => StateJournal.restores_assign m fixesMaps_sameFrame h key value

theorem keeps_eraseEntry (key : K) : Keeps (Pending s₀) (Apply.eraseEntry m key) :=
  keeps_journal fun _ h => StateJournal.restores_eraseEntry m fixesMaps_sameFrame h key

theorem keeps_rewrite (select : V → Bool) (f : V → V) :
    Keeps (Pending s₀) (Apply.rewrite m select f) :=
  keeps_journal fun _ h => StateJournal.restores_rewrite m fixesMaps_sameFrame h select f

end Entries

/-- A counter outside the maps and the identity. -/
theorem keeps_bump {tag : CounterTag} {counter : Apply.Counter tag}
    (hcounter : ∀ s c, SameFrame (counter.set s c) s) (overflow : EarlyReturn) :
    Keeps (Pending s₀) (Apply.bump counter overflow) :=
  keeps_bind keeps_get fun _ =>
  keeps_bind keeps_ofOption fun value =>
  keeps_update fun s => hcounter s value

theorem settles_markChanged : Settles (Pending s₀) (Complete s₀) Apply.markChanged :=
  settles_modify fun _ h => ⟨h.1, rfl⟩

theorem keeps_validateCommon (request : MutationRequest) {P : ApplyContext → Prop} :
    Keeps P (validateCommon request) :=
  keeps_bind keeps_get fun _ =>
  keeps_bind keeps_exitIf fun _ =>
  keeps_bind keeps_exitIf fun _ =>
  keeps_ite (fun _ => keeps_exitIf) fun _ =>
  keeps_bind keeps_exitIf fun _ =>
  keeps_bind keeps_exitIf fun _ =>
  keeps_bind keeps_exitIf fun _ =>
  keeps_bind keeps_exitIf fun _ =>
  keeps_exitIf

theorem keeps_validateBoot [StdSort] (request : MutationRequest) (rack : RackId) :
    Keeps (Pending s₀) (validateBoot request rack) := by
  refine keeps_bind keeps_get fun ctx => ?_
  split
  · exact keeps_pure
  · refine keeps_bind keeps_exitIf fun _ => ?_
    split
    · exact keeps_pure
    · exact
        keeps_bind keeps_exitIf fun _ =>
        keeps_bind (keeps_forSome fun _ => keeps_forSome fun _ => keeps_exitIf) fun _ =>
        keeps_exitIf

theorem keeps_stampMembership (record : RackRecord) :
    Keeps (Pending s₀) (stampMembership record) :=
  keeps_bind (keeps_bump (fun _ _ => ⟨rfl, rfl⟩) _) fun _ =>
  keeps_bind keeps_get fun _ =>
  keeps_pure

theorem settles_applyRegisterPublisher (request : MutationRequest) :
    Settles (Pending s₀) (Complete s₀) (applyRegisterPublisher request) := by
  refine
    settles_bind keeps_get fun _ =>
    settles_bind keeps_exitIf fun _ =>
    settles_bind keeps_exitIf fun _ =>
    settles_bind keeps_ofOption fun _ => ?_
  split
  · exact
      settles_bind (keeps_forSome fun _ => keeps_exitIf) fun _ =>
      settles_bind (keeps_forSome fun _ => keeps_exitIf) fun _ =>
      settles_exit
  · exact
      settles_bind keeps_exitIf fun _ =>
      settles_bind keeps_exitIf fun _ =>
      settles_bind (keeps_assign racksMember _ _) fun _ =>
      settles_markChanged

theorem keeps_admitOver [StdSort] (incoming : RackReference) (record : RackRecord) :
    Keeps (Pending s₀) (admitOver incoming record) :=
  keeps_bind keeps_exitIf fun _ =>
  keeps_ite
    (fun _ => keeps_forSome fun _ => keeps_forSome fun _ => keeps_exitIf) fun _ =>
  keeps_ite
    (fun _ =>
      keeps_bind keeps_exitIf fun _ =>
      keeps_bind keeps_exitIf fun _ =>
      keeps_exitIf)
    fun _ => keeps_forSome fun _ => keeps_forSome fun _ => keeps_exitIf

theorem settles_applyAddRack [StdSort] (request : MutationRequest) :
    Settles (Pending s₀) (Complete s₀) (applyAddRack request) :=
  settles_bind keeps_exitIf fun _ =>
  settles_bind keeps_get fun _ =>
  settles_bind keeps_exitIf fun _ =>
  settles_bind (keeps_validateBoot _ _) fun _ =>
  settles_bind (keeps_forSome fun _ => keeps_admitOver _ _) fun _ =>
  settles_bind keeps_exitIf fun _ =>
  settles_bind (keeps_ite (fun _ => keeps_stampMembership _) fun _ => keeps_pure) fun _ =>
  settles_bind (keeps_update fun _ => ⟨rfl, rfl⟩) fun _ =>
  settles_bind (keeps_assign racksMember _ _) fun _ =>
  settles_markChanged

theorem settles_applyUpdateRackGeneration [StdSort] (request : MutationRequest) :
    Settles (Pending s₀) (Complete s₀) (applyUpdateRackGeneration request) :=
  settles_bind keeps_get fun _ =>
  settles_bind keeps_exitIf fun _ =>
  settles_bind keeps_ofOption fun _ =>
  settles_bind (keeps_validateBoot _ _) fun _ =>
  settles_bind (keeps_forSome fun _ => keeps_exitIf) fun _ =>
  settles_bind keeps_ofOption fun _ =>
  settles_bind keeps_exitIf fun _ =>
  settles_bind keeps_exitIf fun _ =>
  settles_bind (keeps_stampMembership _) fun _ =>
  settles_bind (keeps_assign racksMember _ _) fun _ =>
  settles_markChanged

theorem settles_applyMembershipChange [StdSort] (request : MutationRequest)
    (target : RackMembershipState)
    (addRetiredIdentity : Bool) :
    Settles (Pending s₀) (Complete s₀) (applyMembershipChange request target addRetiredIdentity) :=
  settles_bind keeps_get fun _ =>
  settles_bind keeps_exitIf fun _ =>
  settles_bind keeps_ofOption fun _ =>
  settles_bind (keeps_validateBoot _ _) fun _ =>
  settles_bind keeps_exitIf fun _ =>
  settles_bind keeps_exitIf fun _ =>
  settles_bind (keeps_stampMembership _) fun _ =>
  settles_bind (keeps_update fun _ => ⟨rfl, rfl⟩) fun _ =>
  settles_bind (keeps_when (keeps_update fun _ => ⟨rfl, rfl⟩)) fun _ =>
  settles_bind (keeps_assign racksMember _ _) fun _ =>
  settles_markChanged

theorem settles_applyRecoverRack [StdSort] (request : MutationRequest) :
    Settles (Pending s₀) (Complete s₀) (applyRecoverRack request) :=
  settles_bind keeps_get fun _ =>
  settles_bind keeps_exitIf fun _ =>
  settles_bind keeps_exitIf fun _ =>
  settles_bind keeps_ofOption fun _ =>
  settles_bind keeps_ofOption fun _ =>
  settles_bind keeps_exitIf fun _ =>
  settles_bind keeps_exitIf fun _ =>
  settles_bind keeps_exitIf fun _ =>
  settles_bind (keeps_stampMembership _) fun _ =>
  settles_bind (keeps_update fun _ => ⟨rfl, rfl⟩) fun _ =>
  settles_bind (keeps_assign racksMember _ _) fun _ =>
  settles_markChanged

/-- The link part of a health publication or an evidence withdrawal. -/
theorem keeps_rewriteLinks (select : InterRackLink → Bool) (f : InterRackLink → InterRackLink)
    (overflow : EarlyReturn) :
    Keeps (Pending s₀) (do
      Apply.rewrite linksMember select f
      Apply.bump Apply.connectivityCounter overflow) :=
  keeps_bind (keeps_rewrite linksMember _ _) fun _ =>
  keeps_bump (fun _ _ => ⟨rfl, rfl⟩) _

theorem settles_applyPublishHealth [StdSort] (request : MutationRequest) :
    Settles (Pending s₀) (Complete s₀) (applyPublishHealth request) :=
  settles_bind keeps_get fun _ =>
  settles_bind keeps_exitIf fun _ =>
  settles_bind keeps_ofOption fun _ =>
  settles_bind keeps_exitIf fun _ =>
  settles_bind (keeps_validateBoot _ _) fun _ =>
  settles_bind keeps_exitIf fun _ =>
  settles_bind (keeps_assign racksMember _ _) fun _ =>
  settles_bind (keeps_when (keeps_rewriteLinks _ _ _)) fun _ =>
  settles_bind (keeps_bump (fun _ _ => ⟨rfl, rfl⟩) _) fun _ =>
  settles_markChanged

theorem settles_applyWithdrawEvidence (request : MutationRequest) :
    Settles (Pending s₀) (Complete s₀) (applyWithdrawEvidence request) :=
  settles_bind keeps_get fun _ =>
  settles_bind keeps_exitIf fun _ =>
  settles_bind keeps_ofOption fun _ =>
  settles_bind (keeps_assign racksMember _ _) fun _ =>
  settles_bind (keeps_when (keeps_rewriteLinks _ _ _)) fun _ =>
  settles_bind (keeps_bump (fun _ _ => ⟨rfl, rfl⟩) _) fun _ =>
  settles_markChanged

theorem keeps_validateDomainExtra [StdSort] (k : DomainKind) (domain : Domain k) :
    Keeps (Pending s₀) (validateDomainExtra k domain) := by
  cases k
  case capacity =>
    exact
      keeps_bind keeps_exitIf fun _ =>
      keeps_bind (keeps_forSome fun _ => keeps_exit) fun _ =>
      keeps_pure
  all_goals exact keeps_pure

theorem keeps_validateDomainPayload [StdSort] {k : DomainKind} (domain : Domain k) :
    Keeps (Pending s₀) (validateDomainPayload domain) :=
  keeps_bind keeps_get fun _ =>
  keeps_bind keeps_exitIf fun _ =>
  keeps_bind (keeps_forSome fun _ => keeps_exit) fun _ =>
  keeps_bind keeps_exitIf fun _ =>
  keeps_bind keeps_exitIf fun _ =>
  keeps_validateDomainExtra k _

theorem keeps_publishOver {k : DomainKind} (domain existing : Domain k) :
    Keeps (Pending s₀) (publishOver domain existing) :=
  keeps_bind keeps_exitIf fun _ =>
  keeps_ite (fun _ => keeps_bind keeps_exitIf fun _ => keeps_exit) fun _ =>
  keeps_pure

theorem settles_applyPublishDomain [StdSort] (k : DomainKind) (request : MutationRequest) :
    Settles (Pending s₀) (Complete s₀) (applyPublishDomain k request) :=
  settles_bind keeps_ofOption fun _ =>
  settles_bind keeps_get fun _ =>
  settles_bind keeps_exitIf fun _ =>
  settles_bind (keeps_validateDomainPayload _) fun _ =>
  settles_bind (keeps_forSome fun _ => keeps_publishOver _ _) fun _ =>
  settles_bind keeps_exitIf fun _ =>
  settles_bind keeps_ofOption fun _ =>
  settles_bind (keeps_update fun _ => ⟨rfl, rfl⟩) fun _ =>
  settles_bind (keeps_assign (domainsMember k) _ _) fun _ =>
  settles_bind (keeps_bump (fun _ _ => ⟨rfl, rfl⟩) _) fun _ =>
  settles_bind (keeps_update fun _ => ⟨rfl, rfl⟩) fun _ =>
  settles_markChanged

theorem keeps_constrainOver (constraint existing : ClusterConstraint) :
    Keeps (Pending s₀) (constrainOver constraint existing) :=
  keeps_bind keeps_exitIf fun _ =>
  keeps_ite (fun _ => keeps_bind keeps_exitIf fun _ => keeps_exit) fun _ =>
  keeps_pure

theorem settles_applyPublishConstraint [StdSort] (request : MutationRequest) :
    Settles (Pending s₀) (Complete s₀) (applyPublishConstraint request) :=
  settles_bind keeps_get fun _ =>
  settles_bind keeps_ofOption fun _ =>
  settles_bind keeps_exitIf fun _ =>
  settles_bind (keeps_forSome fun _ => keeps_exit) fun _ =>
  settles_bind keeps_exitIf fun _ =>
  settles_bind keeps_exitIf fun _ =>
  settles_bind (keeps_forSome fun _ => keeps_constrainOver _ _) fun _ =>
  settles_bind keeps_exitIf fun _ =>
  settles_bind (keeps_bump (fun _ _ => ⟨rfl, rfl⟩) _) fun _ =>
  settles_bind (keeps_assign constraintsMember _ _) fun _ =>
  settles_markChanged

theorem keeps_linkOver (link current : InterRackLink) :
    Keeps (Pending s₀) (linkOver link current) :=
  keeps_bind keeps_exitIf fun _ =>
  keeps_ite (fun _ => keeps_bind keeps_exitIf fun _ => keeps_exit) fun _ =>
  keeps_pure

theorem keeps_checkLinkReferences (s : ClusterState) (link : InterRackLink) :
    Keeps (Pending s₀) (checkLinkReferences s link) :=
  keeps_bind (keeps_forSome fun _ => keeps_exit) fun _ =>
  keeps_bind (keeps_forSome fun _ => keeps_exitIf) fun _ =>
  keeps_forSome fun _ => keeps_exitIf

theorem settles_applyPublishLink [StdSort] (request : MutationRequest) :
    Settles (Pending s₀) (Complete s₀) (applyPublishLink request) :=
  settles_bind keeps_get fun _ =>
  settles_bind keeps_ofOption fun _ =>
  settles_bind keeps_exitIf fun _ =>
  settles_bind keeps_exitIf fun _ =>
  settles_bind keeps_exitIf fun _ =>
  settles_bind keeps_exitIf fun _ =>
  settles_bind keeps_exitIf fun _ =>
  settles_bind (keeps_checkLinkReferences _ _) fun _ =>
  settles_bind keeps_exitIf fun _ =>
  settles_bind (keeps_forSome fun _ => keeps_linkOver _ _) fun _ =>
  settles_bind keeps_exitIf fun _ =>
  settles_bind keeps_exitIf fun _ =>
  settles_bind (keeps_assign linksMember _ _) fun _ =>
  settles_bind (keeps_bump (fun _ _ => ⟨rfl, rfl⟩) _) fun _ =>
  settles_bind (keeps_bump (fun _ _ => ⟨rfl, rfl⟩) _) fun _ =>
  settles_bind (keeps_update fun _ => ⟨rfl, rfl⟩) fun _ =>
  settles_markChanged

theorem settles_applyWithdrawLink (request : MutationRequest) :
    Settles (Pending s₀) (Complete s₀) (applyWithdrawLink request) :=
  settles_bind keeps_get fun _ =>
  settles_bind keeps_ofOption fun _ =>
  settles_bind keeps_exitIf fun _ =>
  settles_bind (keeps_eraseEntry linksMember _) fun _ =>
  settles_bind (keeps_bump (fun _ _ => ⟨rfl, rfl⟩) _) fun _ =>
  settles_bind (keeps_bump (fun _ _ => ⟨rfl, rfl⟩) _) fun _ =>
  settles_bind (keeps_update fun _ => ⟨rfl, rfl⟩) fun _ =>
  settles_markChanged

theorem settles_applySupersedeTopology (request : MutationRequest) :
    Settles (Pending s₀) (Complete s₀) (applySupersedeTopology request) :=
  settles_bind keeps_get fun _ =>
  settles_bind keeps_ofOption fun _ =>
  settles_bind keeps_exitIf fun _ =>
  settles_bind (keeps_rewrite linksMember _ _) fun _ =>
  settles_bind (keeps_update fun _ => ⟨rfl, rfl⟩) fun _ =>
  settles_bind (keeps_bump (fun _ _ => ⟨rfl, rfl⟩) _) fun _ =>
  settles_bind (keeps_bump (fun _ _ => ⟨rfl, rfl⟩) _) fun _ =>
  settles_bind (keeps_update fun _ => ⟨rfl, rfl⟩) fun _ =>
  settles_markChanged

theorem settles_applyRetireCluster : Settles (Pending s₀) (Complete s₀) applyRetireCluster :=
  settles_bind keeps_get fun _ =>
  settles_bind keeps_exitIf fun _ =>
  settles_bind keeps_recordScalars fun _ =>
  settles_bind (keeps_update fun _ => ⟨rfl, rfl⟩) fun _ =>
  settles_bind (keeps_rewrite racksMember _ _) fun _ =>
  settles_markChanged

theorem settles_applyPublishSnapshot : Settles (Pending s₀) (Complete s₀) applyPublishSnapshot :=
  settles_bind (keeps_bump (fun _ _ => ⟨rfl, rfl⟩) _) fun _ =>
  settles_bind (keeps_bump (fun _ _ => ⟨rfl, rfl⟩) _) fun _ =>
  settles_markChanged

theorem settles_applyRevalidate (request : MutationRequest) :
    Settles (Pending s₀) (Complete s₀) (applyRevalidate request) :=
  settles_bind keeps_get fun _ =>
  settles_bind keeps_exitIf fun _ =>
  settles_bind (keeps_forSome fun _ => keeps_exit) fun _ =>
  settles_bind keeps_exitIf fun _ =>
  settles_markChanged

theorem settles_redeclare (request : MutationRequest) :
    Settles (Pending s₀) (Complete s₀) (redeclare request) :=
  settles_bind keeps_get fun _ =>
  settles_bind keeps_exitIf fun _ =>
  settles_bind keeps_recordScalars fun _ =>
  settles_bind (keeps_update fun _ => ⟨rfl, rfl⟩) fun _ =>
  settles_markChanged

theorem applyDeclareCluster_known (h : ctx.state.epoch.known = true) :
    applyDeclareCluster request ctx = redeclare request ctx := by
  change (if ctx.state.epoch.known = true then redeclare request else declareFirst request) ctx = _
  rw [if_pos h]

theorem applyDeclareCluster_unknown (h : ctx.state.epoch.known = false) :
    applyDeclareCluster request ctx = (.ok (),
      { ctx with
        journal := ctx.journal.recordScalars.update fun s => declaredState s request ctx.now
        changed := true }) := by
  change (if ctx.state.epoch.known = true then redeclare request else declareFirst request) ctx = _
  rw [if_neg (by simp [h])]
  rfl

/-- A declaration that does not write a new identity. -/
theorem settled_applyDeclareCluster (h : Pending s₀ ctx)
    (hid : ctx.state.epoch.known = true ∨ request.cluster = ctx.state.id) :
    Settled (Pending s₀) (Complete s₀) (applyDeclareCluster request ctx) := by
  cases hknown : ctx.state.epoch.known with
  | true =>
    rw [applyDeclareCluster_known hknown]
    exact settles_redeclare request ctx h
  | false =>
    have hsame : request.cluster = ctx.state.id := hid.resolve_left (by simp [hknown])
    rw [applyDeclareCluster_unknown hknown]
    refine ⟨(StateJournal.restores_recordScalars h.1 sameFrame_refl).update fun s hs => ?_, rfl⟩
    exact ⟨hs.1, hs.2.trans hsame⟩

theorem settles_applyKind [StdSort] (hkind : request.kind ≠ .declareCluster) :
    Settles (Pending s₀) (Complete s₀) (applyKind request) := by
  unfold applyKind
  split
  case h_1 h => exact absurd h hkind
  case h_2 => exact settles_applyRegisterPublisher request
  case h_3 => exact settles_applyAddRack request
  case h_4 => exact settles_applyUpdateRackGeneration request
  case h_5 | h_6 | h_7 => exact settles_applyMembershipChange request _ _
  case h_8 => exact settles_applyRecoverRack request
  case h_9 => exact settles_applyPublishLink request
  case h_10 => exact settles_applyWithdrawLink request
  case h_11 | h_12 | h_13 | h_14 | h_15 | h_16 | h_17 | h_18 =>
    exact settles_applyPublishDomain _ request
  case h_19 => exact settles_applyPublishConstraint request
  case h_20 => exact settles_applyPublishHealth request
  case h_21 => exact settles_applyWithdrawEvidence request
  case h_22 => exact settles_applySupersedeTopology request
  case h_23 => exact settles_applyPublishSnapshot
  case h_24 => exact settles_applyRevalidate request
  case h_25 => exact settles_applyRetireCluster
  case h_26 => exact settles_exit

end Mutations

end ClusterFabric
