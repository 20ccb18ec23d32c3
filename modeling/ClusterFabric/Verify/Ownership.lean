import ClusterFabric.Verify.Recovered
import ClusterFabric.Verify.Writes

/-! # Who writes a rack

The boot gate keeps a request of another incarnation away from a rack that is current.
The kinds that write a rack without passing through it are the recovery of a rack, the
withdrawal of its evidence and the retirement of the cluster
(`live_incarnation_writes`).

The publisher that owns a rack travels in the authority of a request and in its
reference, and each kind that stores it compares it in another way: a publication that
repeats the content of the recorded generation not at all, a generation update only when
it carries an incarnation, and a recovery never (`owner_durable`).
-/

namespace ClusterFabric

open Lib

variable {request : MutationRequest} {record : RackRecord} {boot : RackAgentBootId}
  {owner : RackPublisherId} {rack : RackId} {s : ClusterState} {now : Timestamp}

/-- The kinds that write a rack past the boot gate. A recovery and a withdrawal
of evidence write the rack they are about, and the retirement of the cluster
every rack that is current. -/
def MutationKind.passesGate (named : Bool) : MutationKind → Bool
  | .recoverRack | .withdrawEvidence => named
  | .retireCluster => true
  | _ => false

namespace Coordinator

section Gated

variable [StdSort]

/-- A write of a rack that is current under another incarnation passes the boot
gate by. -/
theorem passesGate_of_written {new : Option RackRecord} (hfind : s.racks.find? rack = some record)
    (hwritten : RackWritten now s request rack (some record) new)
    (hboot : request.authority.boot = some boot) (hcurrent : record.authoritativeCurrent = true)
    (hother : record.reference.boot ≠ boot) :
    request.kind.passesGate (decide (request.subjectRack = rack)) = true := by
  have hgate : BootAuthorized s request rack → False := fun hauthorized =>
    hother (((hauthorized boot hboot).2 record hfind).live hcurrent)
  have hsubject := hwritten.subjectRack
  cases hwritten
  case admitted hauthorized _ | updated hauthorized | moved hauthorized
    | healthPublished hauthorized => exact (hgate hauthorized).elim
  case recovered hkind _ _ | evidenceWithdrawn hkind _ =>
    have hsubject := hsubject (by simp [hkind])
    simp [MutationKind.passesGate, hkind, hsubject]
  case clusterRetired hkind _ => simp [MutationKind.passesGate, hkind]

/-- Every other request leaves the record as it is. -/
theorem record_kept {σ : Type} (ops : PersistenceStore σ) {c : Coordinator σ} (now : Timestamp)
    (hgate : request.kind.passesGate (decide (request.subjectRack = rack)) = false)
    (hboot : request.authority.boot = some boot)
    (hfind : c.canonical.racks.find? rack = some record)
    (hcurrent : record.authoritativeCurrent = true) (hother : record.reference.boot ≠ boot) :
    (applyAndCommit ops c request now).1.canonical.racks.find? rack = some record := by
  rcases written_of_submit ops c request now with ⟨-, -, hwritten⟩ | ⟨-, hsame⟩
  · rcases hwritten.racks rack with hkept | hwritten
    · exact hkept.trans hfind
    · rw [hfind] at hwritten
      have hpasses := passesGate_of_written hfind hwritten hboot hcurrent hother
      rw [hgate] at hpasses
      exact absurd hpasses Bool.false_ne_true
  · rw [hsame]
    exact hfind

end Gated

section Probe

open scoped StdSort

/-- Two racks of two incarnations. -/
def twoRacks : Coordinator (Option PersistedState) :=
  sample pairEvents

/-- A request of the incarnation of the second rack, about the first rack or about
its own. -/
def intrusion (kind : MutationKind) (named : Bool) : MutationRequest where
  kind := kind
  cluster := .named "alpha"
  authority :=
    { clusterEpoch := .fromRaw 1
      coordinatorEpoch := .fromRaw 2
      boot := some (.named "b2")
      rack := some (.named (if named then "r1" else "r2")) }

/-- The record of the first rack before the intrusion. -/
theorem twoRacks_current : ∃ record, twoRacks.canonical.racks.find? (.named "r1") = some record ∧
    record.authoritativeCurrent = true ∧ record.reference.boot ≠ .named "b2" := by
  exact ⟨_, rfl, by decide +kernel, by decide +kernel⟩

/-- The incarnation of another rack retires the cluster, and with it every rack. -/
theorem foreign_retirement_accepted :
    let out := applyAndCommit cellStore.ops twoRacks (intrusion .retireCluster false)
      ⟨5⟩
    (twoRacks.canonical.racks.find? (.named "r1")).map
        (fun record => (record.authoritativeCurrent, record.reference.boot)) =
        some (true, .named "b1") ∧
      (intrusion .retireCluster false).authority.boot = some (.named "b2") ∧
      out.2.outcome = .accepted ∧
      (out.1.canonical.racks.find? (.named "r1")).map RackRecord.authoritativeCurrent =
        some false := by
  decide +kernel

end Probe

/-- **Only the live incarnation writes a current rack**, apart from the retirement
of the cluster and the two kinds that pass the gate by for the rack they are about. -/
theorem live_incarnation_writes [StdSort] {σ : Type} (ops : PersistenceStore σ) {c : Coordinator σ}
    {request : MutationRequest} {rack : RackId} {record : RackRecord} {boot : RackAgentBootId}
    (hretires : request.kind ≠ .retireCluster)
    (hsubject : request.kind = .recoverRack ∨ request.kind = .withdrawEvidence →
      request.subjectRack ≠ rack)
    (hboot : request.authority.boot = some boot)
    (hfind : c.canonical.racks.find? rack = some record)
    (hcurrent : record.authoritativeCurrent = true) (hother : record.reference.boot ≠ boot)
    (now : Timestamp) :
    (applyAndCommit ops c request now).1.canonical.racks.find? rack = some record := by
  refine record_kept ops now ?_ hboot hfind hcurrent hother
  cases hkind : request.kind
  case recoverRack => simpa [MutationKind.passesGate] using hsubject (.inl hkind)
  case withdrawEvidence => simpa [MutationKind.passesGate] using hsubject (.inr hkind)
  case retireCluster => exact absurd hkind hretires
  all_goals rfl

open scoped StdSort in
/-- A withdrawal of the first rack by the incarnation of the second is refused. -/
theorem live_incarnation_writes_twoRacks :
    (applyAndCommit cellStore.ops twoRacks (intrusion .withdrawRack true)
        ⟨5⟩).1.canonical.racks.find? (.named "r1") =
      twoRacks.canonical.racks.find? (.named "r1") := by
  obtain ⟨record, hfind, hcurrent, hother⟩ := twoRacks_current
  rw [hfind]
  exact live_incarnation_writes cellStore.ops (by decide)
    (fun hkind => absurd hkind (by decide)) rfl hfind hcurrent hother ⟨5⟩

/-! ## The owner of a rack -/

section Owners

variable [StdSort]

/-- A request leaves the owner of the recorded rack it is about. -/
structure KeepsOwner (request : MutationRequest) (record : RackRecord)
    (owner : RackPublisherId) : Prop where
  /-- A publication at the recorded generation of an admitted rack. -/
  admission : request.kind = .addRack →
    request.rackReference.generation = record.reference.generation → record.isPlaceholder = false →
    request.rackReference.publisher = some owner
  /-- A generation update that skips the boot gate. -/
  update : request.kind = .updateRackGeneration → request.authority.boot = none →
    ∀ publisher, request.authority.publisher = some publisher → publisher = owner
  recovery : request.kind = .recoverRack →
    ∀ publisher, request.authority.publisher = some publisher → publisher = owner

/-- Requests leave the owners of racks, and only a coordinator that saves its
commits restarts. -/
def KeepsOwners {σ : Type} (c : Coordinator σ) : Event → Prop
  | .submit request _ =>
    ∀ record owner, c.canonical.racks.find? request.subjectRack = some record →
      record.reference.publisher = some owner → KeepsOwner request record owner
  | .fence _ _ _ _ => True
  | .restart _ => Persisting c.config c.store

/-- No rack has lost its owner. -/
def OwnersKept (s s' : ClusterState) : Prop :=
  s.racks.Extends
    (fun _ record record' => ∀ owner, record.reference.publisher = some owner →
      record'.reference.publisher = some owner)
    s'.racks

omit [StdSort] in
theorem OwnersKept.refl (s : ClusterState) : OwnersKept s s := StdMap.Extends.refl fun _ _ _ h => h

omit [StdSort] in
theorem OwnersKept.trans {a b c : ClusterState} (hab : OwnersKept a b) (hbc : OwnersKept b c) :
    OwnersKept a c := StdMap.Extends.trans (fun h h' owner ho => h' owner (h owner ho)) hab hbc

omit [StdSort] in
/-- An option that holds at most the owner, or else the owner. -/
theorem or_eq_owner {publisher : Option RackPublisherId} (h : ∀ p, publisher = some p → p = owner) :
    publisher.or (some owner) = some owner := by
  cases publisher with
  | none => rfl
  | some p => rw [h p rfl]; rfl

/-- What writes a rack leaves its owner, under the condition. -/
theorem owner_of_written {new : Option RackRecord} (hfind : s.racks.find? rack = some record)
    (hwritten : RackWritten now s request rack (some record) new)
    (howner : record.reference.publisher = some owner)
    (hkeeps : request.subjectRack = rack → KeepsOwner request record owner) :
    ∃ record', new = some record' ∧ record'.reference.publisher = some owner := by
  have hsubject := hwritten.subjectRack
  cases hwritten
  case admitted hkind hrack hvalid hboot hover =>
    refine ⟨_, rfl, ?_⟩
    have hadmits := hover record rfl
    have hkeeps := hkeeps (hsubject (by simp [hkind]))
    obtain ⟨publisher, hpublisher⟩ :=
      Option.isSome_iff_exists.mp (referenceOk_of_isOk hvalid).publisher
    change request.rackReference.publisher = some publisher at hpublisher
    change request.rackReference.publisher = some owner
    -- the owner is compared unless the publication repeats an admitted generation
    by_cases hcompared : record.isPlaceholder = true ∨
        record.reference.generation < request.rackReference.generation
    · rw [hpublisher, hadmits.owner hcompared owner howner publisher hpublisher]
    · rw [not_or] at hcompared
      have hgeneration : request.rackReference.generation = record.reference.generation :=
        le_antisymm (not_lt.mp hcompared.2) hadmits.generation_le
      exact hkeeps.admission hkind hgeneration (by simpa using hcompared.1)
  case updated generation m hkind hrack hboot =>
    refine ⟨_, rfl, ?_⟩
    have hkeeps := hkeeps (hsubject (by simp [hkind]))
    change request.authority.publisher.or record.reference.publisher = some owner
    rw [howner]
    refine or_eq_owner fun publisher hpublisher => ?_
    cases hcarries : request.authority.boot with
    | none => exact hkeeps.update hkind hcarries publisher hpublisher
    | some boot =>
      exact ((hboot boot hcarries).2 record hfind).owner publisher hpublisher owner howner
  case moved target m hkind hrack hboot =>
    refine ⟨_, rfl, ?_⟩
    change (movedRecord request target record).reference.publisher = some owner
    unfold movedRecord
    split_ifs <;> exact howner
  case recovered boot generation m hkind hrack hboot =>
    refine ⟨_, rfl, ?_⟩
    have hkeeps := hkeeps (hsubject (by simp [hkind]))
    change request.authority.publisher.or record.reference.publisher = some owner
    rw [howner]
    exact or_eq_owner (hkeeps.recovery hkind)
  case healthPublished | evidenceWithdrawn | clusterRetired => exact ⟨_, rfl, howner⟩

theorem ownersKept_fenced (s : ClusterState) (boot : RackAgentBootId) (reason : Text)
    (fencedAt : Timestamp) : OwnersKept s (fencedState s boot reason fencedAt) := by
  unfold OwnersKept
  rw [racks_fencedState]
  refine StdMap.Rewrites.extends ?_
  exact .updateWhere (fun record : RackRecord => record.reference.boot == boot) (fun _ _ _ h => h)
    fun _ _ _ h => h

/-- The changes of an event under the condition leave every owner. -/
theorem ownersKept_of_changes {σ : Type} {c : Coordinator σ} {event : Event}
    (hkeeps : KeepsOwners c event) {s' : ClusterState} (hchanges : Changes c.canonical event s') :
    OwnersKept c.canonical s' := by
  cases hchanges with
  | accepted hauthorized happlied hok hnext =>
    refine (written_of_applied happlied).racks.extends (fun _ _ _ h => h)
      fun rack record new hfind hwritten => ?_
    cases howner : record.reference.publisher with
    | none =>
      cases hwritten
      all_goals exact ⟨_, rfl, fun _ h => nomatch h⟩
    | some owner =>
      obtain ⟨record', hnew, howner'⟩ := owner_of_written hfind hwritten howner fun hsubject =>
        hkeeps record owner (hsubject.symm ▸ hfind) howner
      exact ⟨record', hnew, fun _ h => Option.some.inj h ▸ howner'⟩
  | @fenced boot reason fencedAt now g h _ _ _ _ =>
    exact ownersKept_fenced c.canonical boot reason fencedAt
  | renamed hother => exact OwnersKept.refl _

/-- A recovery keeps the owners that were saved. -/
theorem ownersKept_recovered (s : ClusterState) (epoch epoch' : CoordinatorEpoch)
    (now now' : Timestamp) :
    OwnersKept s (fromPersistedState (toPersistedState s) epoch now) ∧
      OwnersKept (fromPersistedState (toPersistedState s) epoch' now')
        (fromPersistedState (toPersistedState s) epoch now) := by
  constructor
  · intro rack record hfind
    rw [racks_recovered, StdMap.find?_mapValues, hfind]
    refine ⟨_, rfl, fun owner howner => ?_⟩
    change some (record.reference.publisher.getD unknownPublisher) = some owner
    rw [howner]
    rfl
  · intro rack record hfind
    rw [racks_recovered, StdMap.find?_mapValues, Option.map_eq_some_iff] at hfind
    obtain ⟨record₀, hfind, rfl⟩ := hfind
    rw [racks_recovered, StdMap.find?_mapValues, hfind]
    exact ⟨_, rfl, fun owner howner => howner⟩

theorem respects_ownersKept :
    (clusterSystem.confine (fun _ => True) OwnersKept).Respects OwnersKept := by
  refine RecoverySystem.respects_confine OwnersKept.refl OwnersKept.trans ?_ ?_
  · rintro s _ - ⟨epoch, now, -, rfl⟩
    exact (ownersKept_recovered s epoch epoch now now).1
  · rintro s _ _ - ⟨epoch', now', -, rfl⟩ ⟨epoch, now, -, rfl⟩
    exact (ownersKept_recovered s epoch epoch' now now').2

variable {σ : Type} {fs : FaithfulStore σ} {c : Coordinator σ}

/-- **The owner of a rack is durable** in every run whose requests leave it under
the condition, over restarts of a coordinator that saves its commits. -/
theorem owner_durable (hreachable : Reachable fs c) {rack : RackId} {record : RackRecord}
    {owner : RackPublisherId} (hfind : c.canonical.racks.find? rack = some record)
    (howner : record.reference.publisher = some owner) {events : List Event}
    (halong : Along (step fs.ops) KeepsOwners c events) :
    ∃ record', (run fs.ops c events).canonical.racks.find? rack = some record' ∧
      record'.reference.publisher = some owner := by
  have hkept : OwnersKept c.canonical (run fs.ops c events).canonical := by
    have hdeclared : c.canonical.epoch.known = true := by
      by_contra hepoch
      obtain ⟨hracks, -⟩ := hreachable.grounded (by simpa using hepoch)
      rw [hracks, StdMap.find?_empty] at hfind
      cases hfind
    refine Reachable.related_along respects_ownersKept
      (fun c event hkeeps s' hchanges => ownersKept_of_changes hkeeps hchanges)
      (fun c event hkeeps hrestarts => ?_) hreachable hdeclared halong
    cases event with
    | submit => cases hrestarts
    | fence => cases hrestarts
    | restart => exact hkeeps
  obtain ⟨record', hfind', howner'⟩ := hkept rack record hfind
  exact ⟨record', hfind', howner' owner howner⟩

end Owners

section Recovery

open scoped StdSort

/-- A recovery of rack `r1` by another incarnation. -/
def takeover (publisher : Option RackPublisherId) : MutationRequest where
  kind := .recoverRack
  cluster := .named "alpha"
  authority :=
    { clusterEpoch := .fromRaw 1
      coordinatorEpoch := .fromRaw 2
      publisher := publisher
      boot := some (.named "b2")
      rack := some (.named "r1") }
  evidence := .make .reported ⟨4⟩ 0

/-- A rack and its owner. -/
def ownedRack : Coordinator (Option PersistedState) :=
  sample rackEvents

def ownerOf (c : Coordinator (Option PersistedState)) : Option (Option RackPublisherId) :=
  (c.canonical.racks.find? (.named "r1")).map fun record => record.reference.publisher

theorem takeover_accepted : ownerOf ownedRack = some (some (.named "agent")) ∧
    (applyAndCommit cellStore.ops ownedRack (takeover none) ⟨4⟩).2.outcome =
      .accepted := by decide +kernel

/-- The owner of a rack over a recovery that names no publisher and a restart. -/
theorem owner_durable_recovery :
    (applyAndCommit cellStore.ops ownedRack (takeover none) ⟨4⟩).2.outcome =
        .accepted ∧
      ∃ record, (run cellStore.ops ownedRack
          [.submit (takeover none) ⟨4⟩, .restart ⟨5⟩]).canonical.racks.find? (.named "r1") =
            some record ∧
        record.reference.publisher = some (.named "agent") := by
  have halong : Along (step cellStore.ops) KeepsOwners ownedRack
      [.submit (takeover none) ⟨4⟩, .restart ⟨5⟩] := by
    refine ⟨fun record owner _ _ => ⟨(nomatch ·), (nomatch ·), fun _ _ h => nomatch h⟩, ?_, trivial⟩
    exact (coordinator_refines cellStore).persisting_step ownedRack _ (persisting_sample _)
  obtain ⟨record, hfind, howner⟩ := Option.map_eq_some_iff.mp takeover_accepted.1
  exact ⟨takeover_accepted.2, owner_durable (reachable_sample _) hfind howner halong⟩

/-- A publication of rack `r1` by another publisher. -/
def usurpation : MutationRequest :=
  let publication := publishedRack "r1" "b2"
  { publication with
    rackReference := { publication.rackReference with publisher := some (.named "intruder") } }

/-- A coordinator on an empty store that does not save its commits. -/
def volatileRun (events : List Event) : Coordinator (Option PersistedState) :=
  run cellStore.ops
    (start cellStore.ops { cluster := .named "alpha", persistOnCommit := false }
      (some none) ⟨1⟩) events

/-- A coordinator that does not save its commits forgets the owner of a rack at a
restart, and a recovery takes a live rack away from its owner. -/
theorem owner_replaced :
    (let c := volatileRun rackEvents
      let c' := run cellStore.ops c
        [.restart ⟨4⟩, .submit declaration ⟨5⟩, .submit usurpation ⟨6⟩]
      ownerOf c = some (some (.named "agent")) ∧ ownerOf c' = some (some (.named "intruder"))) ∧
    let out := applyAndCommit cellStore.ops ownedRack
      (takeover (some (.named "intruder"))) ⟨4⟩
    ownerOf ownedRack = some (some (.named "agent")) ∧ out.2.outcome = .accepted ∧
      ownerOf out.1 = some (some (.named "intruder")) := by
  decide +kernel

end Recovery

end Coordinator

end ClusterFabric
