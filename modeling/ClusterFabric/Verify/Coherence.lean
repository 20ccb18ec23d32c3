import ClusterFabric.Verify.Retirement
import ClusterFabric.Verify.Writes

/-! # Coherence of authoritative records

An authoritative record should be of an active rack with a current reference and current
evidence, whose incarnation is not fenced and whose identity is not retired. The checker
sees to the last two. The others are kept by every write but two: a generation update
and a health publication make a record authoritative from their evidence alone, whatever
the membership and the currentness they find (`authoritative_coherent`).
-/

namespace ClusterFabric

open Lib

variable {s s' s₁ : ClusterState} {now : Timestamp} {request : MutationRequest} {rack : RackId}
  {config : CoordinatorConfig} {record : RackRecord}

namespace Coordinator

variable [StdSort]

/-- What an authoritative record claims. -/
structure Authoritative (s : ClusterState) (rack : RackId) (record : RackRecord) : Prop where
  active : record.membership = .active
  current : record.reference.currentness = .current
  evidence : record.reference.evidence.isCurrent = true
  notFenced : s.isBootFenced record.reference.boot = false
  notRetired : s.isRackRetired rack = false

/-- Every authoritative record is what it claims. -/
def Coherent (s : ClusterState) : Prop :=
  ∀ rack record, s.racks.find? rack = some record → record.authoritativeCurrent = true →
    Authoritative s rack record

/-- The part of coherence that the checker does not see to, with what it rests
on: the currentness of an admitted rack is decided, and a retired rack is
listed. -/
structure Settled (s : ClusterState) (rack : RackId) (record : RackRecord) : Prop where
  authoritative : record.authoritativeCurrent = true → record.membership = .active ∧
    record.reference.currentness = .current ∧ record.reference.evidence.isCurrent = true
  decided : record.membership ≠ .unknown →
    record.reference.currentness = .current ∨
      record.reference.currentness = .revalidationRequired
  listed : record.membership = .retired → s.isRackRetired rack = true

omit [StdSort] in
/-- A record that is not authoritative and awaits revalidation is settled. -/
theorem Settled.of_demoted (hcurrent : record.authoritativeCurrent = false)
    (hcurrentness : record.reference.currentness = .revalidationRequired)
    (hlisted : record.membership = .retired → s.isRackRetired rack = true) :
    Settled s rack record where
  authoritative := fun h => by simp [hcurrent] at h
  decided := fun _ => .inr hcurrentness
  listed := hlisted

/-! ## Writes -/

/-- A generation update or health publication with current evidence finds a rack
that may become authoritative: it is not unavailable or withdrawn, and a health
publication finds no reference that awaits revalidation. -/
def RevivesNone (s : ClusterState) (request : MutationRequest) : Prop :=
  request.evidence.isCurrent = true →
    ∀ record, s.racks.find? request.targetRack = some record →
      (request.kind = .updateRackGeneration ∨ request.kind = .publishHealthCurrentness →
        record.membership ≠ .unavailable ∧ record.membership ≠ .withdrawn) ∧
      (request.kind = .publishHealthCurrentness →
        record.reference.currentness ≠ .revalidationRequired)

omit [StdSort] in
/-- A settled rack that the checker lets be authoritative is active, unless it is
unavailable or withdrawn. -/
theorem Settled.active {old new : RackRecord} (h : Settled s rack old) (hok : RackOk s rack new)
    (hsame : new.membership = old.membership) (hcurrent : new.authoritativeCurrent = true)
    (hthere : old.membership ≠ .unavailable ∧ old.membership ≠ .withdrawn) :
    old.membership = .active := by
  obtain ⟨hunavailable, hwithdrawn⟩ := hthere
  cases hmembership : old.membership with
  | unknown =>
    have hfalse := (hok.undecided (hsame.trans hmembership)).1
    simp [hcurrent] at hfalse
  | active => rfl
  | unavailable => exact absurd hmembership hunavailable
  | withdrawn => exact absurd hmembership hwithdrawn
  | retired =>
    have hlisted := h.listed hmembership
    simp [(hok.authority hcurrent).notRetired] at hlisted

theorem settled_of_written {old : Option RackRecord}
    (hwritten : RackWritten now s request rack old (some record))
    (hold : s.racks.find? rack = old) (hsettled : ∀ v, old = some v → Settled s' rack v)
    (hok : RackOk s' rack record) (hrevives : RevivesNone s request)
    (hretires : request.kind = .retireRack → s'.isRackRetired request.targetRack = true) :
    Settled s' rack record := by
  cases hwritten
  case registered => exact ⟨(nomatch ·), fun h => absurd rfl h, (nomatch ·)⟩
  case admitted | recovered =>
    exact ⟨fun h => ⟨rfl, rfl, h⟩, fun _ => .inl rfl, (nomatch ·)⟩
  case updated record generation m hkind hrack _ =>
    have hbefore := hsettled record rfl
    refine ⟨fun hcurrent => ⟨?_, rfl, hcurrent⟩, fun _ => .inl rfl, hbefore.listed⟩
    have hthere := (hrevives hcurrent record (hrack ▸ hold)).1 (.inl hkind)
    exact hbefore.active hok rfl hcurrent hthere
  case moved target record m hkind hrack _ =>
    have hne := MutationKind.ne_active_of_membershipTarget hkind
    have hretired : target = .retired → request.kind = .retireRack := by
      rcases MutationKind.of_membershipTarget hkind with h | h | h <;> rw [h] at hkind <;>
        cases hkind <;> simp [h]
    refine .of_demoted ?_ ?_ ?_
    · simp [movedRecord, hne]
    · simp [movedRecord, hne]
    · intro hmembership
      rw [hrack]
      refine hretires (hretired ?_)
      simpa [movedRecord, hne] using hmembership
  case healthPublished record hkind hrack _ =>
    have hbefore := hsettled record rfl
    refine ⟨fun hcurrent => ?_, hbefore.decided, hbefore.listed⟩
    obtain ⟨hthere, hdecided⟩ := hrevives hcurrent record (hrack ▸ hold)
    have hactive := hbefore.active hok rfl hcurrent (hthere (.inr hkind))
    have hcurrentness := (hbefore.decided (by simp [hactive])).resolve_right (hdecided hkind)
    exact ⟨hactive, hcurrentness, hcurrent⟩
  case evidenceWithdrawn record _ _ | clusterRetired record _ _ =>
    exact .of_demoted rfl rfl (hsettled record rfl).listed

/-- The retired list only grows. -/
theorem isRackRetired_of_applied (hauthorized : Authorized s request)
    (happlied : Applied config now s request s') (h : s.isRackRetired rack = true) :
    s'.isRackRetired rack = true := by
  cases hepoch : s.epoch.known with
  | false =>
    obtain ⟨-, rfl⟩ := applied_undeclared hauthorized hepoch happlied
    exact h
  | true => exact (forward_of_applied hepoch happlied).retired rack h

/-! ## Runs -/

section Runs

variable {σ : Type} {c : Coordinator σ}

/-- No request of the run revives a rack. -/
def RevivesNoneEvent (c : Coordinator σ) : Event → Prop
  | .submit request _ => RevivesNone c.canonical request
  | .fence _ _ _ _ => True
  | .restart _ => True

/-- A commit that the checker passed keeps records settled. -/
theorem settled_of_accepted (hsettled : s.racks.All (Settled s))
    (hrevives : RevivesNone s request) (hauthorized : Authorized s request)
    (happlied : Applied config now s request s₁)
    (hok : (checkInvariants (reevaluate s₁) none).isOk = true) : s₁.racks.All (Settled s₁) := by
  have hbefore : s.racks.All (Settled s₁) := fun rack record hfind =>
    { hsettled rack record hfind with
      listed := fun h => isRackRetired_of_applied hauthorized happlied
        ((hsettled rack record hfind).listed h) }
  intro rack record hfind
  have hhealthy := healthy_of_find? (checkInvariants_isOk.mp hok) hfind
  have hrack : RackOk s₁ rack record := { hhealthy.racks rack record hfind with
    authority := fun h => { (hhealthy.racks rack record hfind).authority h with } }
  rcases (written_of_applied happlied).racks rack with hsame | hwritten
  · exact hbefore rack record (hsame.symm.trans hfind)
  · rw [hfind] at hwritten
    exact settled_of_written hwritten rfl (fun v hv => hbefore rack v hv) hrack hrevives
      fun hkind => (retired_of_applied hkind happlied).1

theorem settled_of_changes {event : Event} (hrevives : RevivesNoneEvent c event)
    (h : c.canonical.racks.All (Settled c.canonical)) (hchanges : Changes c.canonical event s') :
    s'.racks.All (Settled s') := by
  cases hchanges with
  | accepted hauthorized happlied hok hnext =>
    have hsettled := settled_of_accepted h hrevives hauthorized happlied hok
    exact fun rack record hfind => { hsettled rack record hfind with }
  | @fenced boot reason fencedAt now g h' _ _ _ _ =>
    have hfenced : (fencedRecords c.canonical boot reason).racks.All (Settled c.canonical) :=
      h.updateWhere _ fun rack record hrecord => .of_demoted rfl rfl hrecord.listed
    have hretired : (fencedState c.canonical boot reason fencedAt).retiredRacks =
        c.canonical.retiredRacks := by
      rw [fencedState_eq]
      rfl
    intro rack record hfind
    change (fencedState c.canonical boot reason fencedAt).racks.find? rack = some record at hfind
    rw [racks_fencedState] at hfind
    refine { hfenced rack record hfind with listed := fun hmembership => ?_ }
    have hlisted := (hfenced rack record hfind).listed hmembership
    unfold ClusterState.isRackRetired at hlisted ⊢
    change (fencedState c.canonical boot reason fencedAt).retiredRacks.any _ = true
    rw [hretired]
    exact hlisted
  | renamed _ => exact fun rack record hfind => { h rack record hfind with }

theorem settled_of_recovers (h : s.racks.All (Settled s))
    (hrecovers : Recovers (toPersistedState s) s') : s'.racks.All (Settled s') := by
  obtain ⟨epoch, now, -, rfl⟩ := hrecovers
  rw [racks_recovered]
  exact h.mapValues fun rack record hrecord => .of_demoted rfl rfl hrecord.listed

variable {fs : FaithfulStore σ}

theorem Started.settled (h : Started fs c) :
    clusterSystem.Holds (fun s => s.racks.All (Settled s)) (abstraction fs c) := by
  obtain ⟨⟨config, epoch, -, hcanonical⟩, hlast⟩ := h.initial
  refine ⟨?_, fun p hp => nomatch hlast.symm.trans hp⟩
  change c.canonical.racks.All _
  rw [hcanonical]
  exact .empty

theorem Settled.coherent (hsound : Sound s) (h : s.racks.All (Settled s)) : Coherent s := by
  intro rack record hfind hcurrent
  obtain ⟨hactive, hcurrentness, hevidence⟩ := (h rack record hfind).authoritative hcurrent
  have hauthority :=
    ((healthy_of_find? hsound.healthy hfind).racks rack record hfind).authority hcurrent
  exact ⟨hactive, hcurrentness, hevidence, hauthority.notFenced, hauthority.notRetired⟩

theorem settled_run {c₀ : Coordinator σ} (hstarted : Started fs c₀) {events : List Event}
    (halong : Along (step fs.ops) RevivesNoneEvent c₀ events) :
    (run fs.ops c₀ events).canonical.racks.All
      (Settled (run fs.ops c₀ events).canonical) := by
  have hreachable : Reachable fs c₀ := ⟨c₀, [], hstarted, rfl⟩
  refine hreachable.holds_along (P := fun s => s.racks.All (Settled s)) ?_ ?_ ?_ hstarted.settled
    halong
  · rintro c event - _ ⟨epoch, rfl⟩
    exact .empty
  · exact fun c event hrevives h s' hchanges => settled_of_changes hrevives h hchanges
  · exact fun h hrecovers => settled_of_recovers h hrecovers

/-- A generation update and a health publication with current evidence make the
record authoritative and leave its membership. -/
theorem revived_of_applied (happlied : Applied config now s request s₁)
    (hevidence : request.evidence.isCurrent = true)
    (hkind : request.kind = .updateRackGeneration ∨ request.kind = .publishHealthCurrentness)
    (hfind : s.racks.find? request.targetRack = some record) :
    ∃ new, s₁.racks.find? request.targetRack = some new ∧ new.authoritativeCurrent = true ∧
      new.membership = record.membership ∧
      (request.kind = .publishHealthCurrentness →
        new.reference.currentness = record.reference.currentness) := by
  cases happlied
  case updated record' generation m hkind' hfind' _ _ _ _ _ =>
    obtain rfl := Option.some.inj (hfind.symm.trans hfind')
    refine ⟨_, StdMap.find?_insertOrAssign_self _ _ _, hevidence, rfl, fun h => ?_⟩
    exact nomatch hkind'.symm.trans h
  case healthPublished record' links c h hkind' hfind' _ _ _ _ _ =>
    obtain rfl := Option.some.inj (hfind.symm.trans hfind')
    exact ⟨_, StdMap.find?_insertOrAssign_self _ _ _, hevidence, rfl, fun _ => rfl⟩
  all_goals
    rcases hkind with hkind | hkind <;>
      simp_all [MutationKind.membershipTarget, MutationKind.domainKind]

theorem revivesNone_of_coherent (happlied : Applied config now s request s₁)
    (hcoherent : Coherent s₁) : RevivesNone s request := by
  intro hevidence record hfind
  constructor
  · intro hkind
    obtain ⟨new, hnew, hcurrent, hmembership, -⟩ :=
      revived_of_applied happlied hevidence hkind hfind
    have hactive := (hcoherent _ new hnew hcurrent).active
    rw [← hmembership, hactive]
    exact ⟨(nomatch ·), (nomatch ·)⟩
  · intro hkind
    obtain ⟨new, hnew, hcurrent, -, hcurrentness⟩ :=
      revived_of_applied happlied hevidence (.inr hkind) hfind
    rw [← hcurrentness hkind, (hcoherent _ new hnew hcurrent).current]
    exact (nomatch ·)

/-- **Authoritative records are coherent** along every run whose requests revive
no rack, and a request that is then accepted keeps them so exactly when it revives
none. -/
theorem authoritative_coherent {c₀ : Coordinator σ} (hstarted : Started fs c₀)
    {events : List Event}
    (halong : Along (step fs.ops) RevivesNoneEvent c₀ events) :
    let c := run fs.ops c₀ events
    Coherent c.canonical ∧
      ∀ request now, (applyAndCommit fs.ops c request now).2.outcome = .accepted →
        (Coherent (applyAndCommit fs.ops c request now).1.canonical ↔
          RevivesNone c.canonical request) := by
  intro c
  have hreachable : Reachable fs c := ⟨c₀, events, hstarted, rfl⟩
  have hsettled : c.canonical.racks.All (Settled c.canonical) := settled_run hstarted halong
  refine ⟨Settled.coherent hreachable.sound hsettled, fun request now haccepted => ?_⟩
  have hsound : Sound (applyAndCommit fs.ops c request now).1.canonical :=
    (hreachable.run [.submit request now]).sound
  obtain ⟨hauthorized, s, g, happlied, hcommitted⟩ :=
    committed_of_accepted fs.ops haccepted
  rw [hcommitted.canonical] at hsound ⊢
  constructor
  · intro hcoherent
    refine revivesNone_of_coherent happlied fun rack record hfind hcurrent => ?_
    exact { hcoherent rack record hfind hcurrent with }
  · intro hrevives
    have hafter := settled_of_accepted hsettled hrevives hauthorized happlied hcommitted.isOk
    exact Settled.coherent hsound fun rack record hfind => { hafter rack record hfind with }

end Runs

end Coordinator

section Example

namespace Coordinator

open scoped StdSort

/-- The withdrawal of rack `r1` by its incarnation. -/
def rackWithdrawal : MutationRequest := { publishedRack "r1" "b1" with kind := .withdrawRack }

/-- A health publication for rack `r1` by its incarnation. -/
def healthPublication : MutationRequest :=
  { publishedRack "r1" "b1" with
    kind := .publishHealthCurrentness
    health := .healthy
    evidence := .make .reported ⟨4⟩ 0 }

def standing (record : RackRecord) : RackMembershipState × RackCurrentness :=
  (record.membership, record.reference.currentness)

theorem standing_published :
    ((sample rackEvents).canonical.racks.find?
      healthPublication.targetRack).map standing = some (.active, .current) := by
  decide +kernel

/-- A health publication for an active rack leaves the cluster coherent. -/
theorem authoritative_coherent_reported :
    Coherent (sample (rackEvents ++ [.submit healthPublication ⟨4⟩])).canonical := by
  have halong : Along (step cellStore.ops) RevivesNoneEvent sampleStart
      (rackEvents ++ [.submit healthPublication ⟨4⟩]) := by
    refine ⟨?_, ?_, ?_, trivial⟩
    · intro hcurrent
      exact nomatch hcurrent
    · intro hcurrent
      exact nomatch hcurrent
    · intro _ record hfind
      have hpair := (congrArg (Option.map standing) hfind).symm.trans standing_published
      obtain ⟨hmembership, hcurrentness⟩ := Prod.mk.inj (Option.some.inj hpair)
      rw [hmembership, hcurrentness]
      decide
  exact (authoritative_coherent started_sampleStart halong).1

/-- A health publication makes a withdrawn rack authoritative again. -/
theorem withdrawn_rack_authoritative :
    let s := (sample (rackEvents ++
      [.submit rackWithdrawal ⟨4⟩, .submit healthPublication ⟨5⟩])).canonical
    (s.racks.find? (.named "r1")).map (fun record => (record.authoritativeCurrent,
      standing record)) = some (true, .withdrawn, .revalidationRequired) := by
  decide +kernel

end Coordinator

end Example

end ClusterFabric
