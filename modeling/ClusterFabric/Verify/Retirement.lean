import ClusterFabric.Verify.History

/-! # Retirement

The kinds of mutation guard the retirement of a rack in different ways: some refuse a
retired identity, a membership change compares memberships, and a generation update
leaves it to the invariant check that a retired rack is not made current. What follows
for a rack is the same along every run (`retired_forever`). The retirement of the
cluster is not as final: a declaration passes the gate that stops every other mutation,
and a restart evaluates the lifecycle anew (`retired_absorbing`).
-/

namespace ClusterFabric

open Lib

variable {s s' : ClusterState} {now : Timestamp} {request : MutationRequest} {rack : RackId}
  {record : RackRecord} {config : CoordinatorConfig} {event : Event}

namespace Coordinator

/-! ## Racks -/

/-- The rack is retired, and nothing else: listed once, not withdrawn and not
authoritative. -/
structure Retired (s : ClusterState) (rack : RackId) : Prop where
  membership : (s.racks.find? rack).map RackRecord.membership = some .retired
  listedOnce : s.retiredRacks.countP (fun retired => retired.rack == rack) = 1
  notWithdrawn : rack ∉ s.withdrawnRacks
  notCurrent : ∀ record, s.racks.find? rack = some record → record.authoritativeCurrent = false

/-- A strictly sorted list has at most one entry per key. -/
theorem countP_eq_one {retired : List RetiredIdentity}
    (hsorted : retired.Pairwise fun a b => a.rack < b.rack)
    (hlisted : rack ∈ retired.map RetiredIdentity.rack) :
    retired.countP (fun entry => entry.rack == rack) = 1 := by
  have hnodup : (retired.map RetiredIdentity.rack).Nodup :=
    List.pairwise_map.mpr (hsorted.imp fun hlt => hlt.ne)
  have hcount := List.count_eq_one_of_mem hnodup hlisted
  rwa [List.count_eq_countP, List.countP_map] at hcount

variable [StdSort]

/-- In a sound state a rack that is retired and listed is nothing else. -/
theorem Sound.retired (h : Sound s) (hfind : s.racks.find? rack = some record)
    (hmembership : record.membership = .retired) (hlisted : s.isRackRetired rack = true) :
    Retired s rack := by
  have hhealthy := healthy_of_find? h.healthy hfind
  have hnone : (s.racks.find? rack).map RackRecord.membership = some .retired := by
    rw [hfind, Option.map_some, hmembership]
  refine ⟨hnone, ?_, fun hwithdrawn => ?_, fun record' hfind' => ?_⟩
  · exact countP_eq_one hhealthy.retiredSorted (ClusterState.isRackRetired_iff.mp hlisted)
  · have hother := hhealthy.withdrawn.listed rack hwithdrawn
    exact nomatch hnone.symm.trans hother
  · by_contra hcurrent
    have hauthority := (hhealthy.racks rack record' hfind').authority (by simpa using hcurrent)
    rw [hauthority.notRetired] at hlisted
    exact absurd hlisted Bool.false_ne_true

/-- An accepted retirement lists the rack and leaves it retired. -/
theorem retired_of_applied (hkind : request.kind = .retireRack)
    (happlied : Applied config now s request s') :
    s'.isRackRetired request.targetRack = true ∧
      ∃ record, s'.racks.find? request.targetRack = some record ∧ record.membership = .retired := by
  cases happlied
  case moved target record m hkind' hfind _ _ _ _ =>
    rw [hkind] at hkind'
    obtain rfl : .retired = target := Option.some.inj hkind'
    refine ⟨?_, ?_⟩
    · exact isRackRetired_addRetired.mpr (.inr rfl)
    · exact ⟨_, StdMap.find?_insertOrAssign_self _ _ _, rfl⟩
  all_goals simp_all [MutationKind.domainKind]

variable {σ : Type} {fs : FaithfulStore σ} {c : Coordinator σ}

/-- **A retired rack is never resurrected**: once a retirement is accepted, the rack is
retired and nothing else in every later state of a run in which only a coordinator that
saves its commits restarts. -/
theorem retired_forever (hreachable : Reachable fs c) {request : MutationRequest} {now : Timestamp}
    (hkind : request.kind = .retireRack)
    (haccepted : (applyAndCommit fs.ops c request now).2.outcome = .accepted) {events : List Event}
    (halong : Along (step fs.ops) RestartsSaved (applyAndCommit fs.ops c request now).1 events) :
    Retired (run fs.ops (applyAndCommit fs.ops c request now).1 events).canonical
      request.targetRack := by
  have hreachable' : Reachable fs (applyAndCommit fs.ops c request now).1 :=
    hreachable.run [.submit request now]
  obtain ⟨hauthorized, s, g, happlied, hcommitted⟩ :=
    committed_of_accepted fs.ops haccepted
  generalize (applyAndCommit fs.ops c request now).1 = c₁ at *
  have hcanonical := hcommitted.canonical
  obtain ⟨hlisted, record, hfind, hmembership⟩ := retired_of_applied hkind happlied
  have hdeclared : c₁.canonical.epoch.known = true := by
    rw [hcanonical]
    exact (epoch_known_of_applied hauthorized happlied :)
  have hlisted₁ : c₁.canonical.isRackRetired request.targetRack = true := by
    rw [hcanonical]
    exact hlisted
  have hfind₁ : c₁.canonical.racks.find? request.targetRack = some record := by
    rw [hcanonical]
    exact hfind
  have hforward := hreachable'.related_run respects_forward hdeclared halong
  obtain ⟨record', hfind', hsucceeds⟩ := hforward.racks _ _ hfind₁
  exact (hreachable'.run events).sound.retired hfind' (hsucceeds.retired hlisted₁ hmembership)
    (hforward.retired _ hlisted₁)

/-! ## Retirement records -/

/-- The generation at which a rack is recorded. -/
def recordedGeneration (s : ClusterState) (rack : RackId) : Option RackGeneration :=
  (s.racks.find? rack).map fun record => record.reference.generation

/-- Every retirement record carries the recorded generation of its rack. -/
def RetirementFaithful (s : ClusterState) : Prop :=
  ∀ retired ∈ s.retiredRacks, recordedGeneration s retired.rack = some retired.lastGeneration

/-- The one kind of mutation that does not ask whether its rack is retired finds one that
is not. -/
def UpdatesNoRetired (s : ClusterState) (request : MutationRequest) : Prop :=
  request.kind = .updateRackGeneration → s.isRackRetired request.targetRack = false

omit [StdSort] in
/-- What leaves the list and the generations of retired racks keeps it faithful. -/
theorem RetirementFaithful.of_generations (h : RetirementFaithful s)
    (hlist : s'.retiredRacks = s.retiredRacks)
    (hsame : ∀ rack, s.isRackRetired rack = true →
      recordedGeneration s' rack = recordedGeneration s rack) : RetirementFaithful s' := by
  intro retired hretired
  rw [hlist] at hretired
  have hlisted : s.isRackRetired retired.rack = true :=
    List.any_eq_true.mpr ⟨retired, hretired, beq_self_eq_true _⟩
  rw [hsame _ hlisted]
  exact h retired hretired

omit [StdSort] in
theorem recordedGeneration_insert (hracks : s'.racks = s.racks.insertOrAssign rack record)
    (r : RackId) :
    recordedGeneration s' r =
      if rack = r then some record.reference.generation else recordedGeneration s r := by
  unfold recordedGeneration
  rw [hracks, StdMap.find?_insertOrAssign]
  split_ifs
  · rfl
  · rfl

omit [StdSort] in
/-- A rack that is not retired may be written. -/
theorem RetirementFaithful.insert (h : RetirementFaithful s)
    (hracks : s'.racks = s.racks.insertOrAssign rack record)
    (hlist : s'.retiredRacks = s.retiredRacks)
    (hrack : s.isRackRetired rack = true →
      recordedGeneration s rack = some record.reference.generation) : RetirementFaithful s' := by
  refine h.of_generations hlist fun r hlisted => ?_
  rw [recordedGeneration_insert hracks]
  split_ifs with hr
  · subst hr
    exact (hrack hlisted).symm
  · rfl

/-- A membership change records the generation that it finds. -/
theorem RetirementFaithful.moved (h : RetirementFaithful s) {target : RackMembershipState}
    {m : MembershipGeneration} (hfind : s.racks.find? request.targetRack = some record) :
    RetirementFaithful (movedState now s request target record m) := by
  have hmoved : (movedRecord request target record).reference.generation =
      record.reference.generation := by
    unfold movedRecord
    split_ifs
    · rfl
    · rfl
  have hfound : recordedGeneration s request.targetRack = some record.reference.generation := by
    rw [recordedGeneration, hfind]
    rfl
  intro retired hretired
  rw [recordedGeneration_insert rfl]
  dsimp only at hretired ⊢
  rw [hmoved]
  have hold : retired ∈ s.retiredRacks →
      (if request.targetRack = retired.rack then some record.reference.generation
        else recordedGeneration s retired.rack) = some retired.lastGeneration := by
    intro hlisted
    split_ifs with hrack
    · rw [← hfound, hrack]
      exact h retired hlisted
    · exact h retired hlisted
  split_ifs at hretired
  · unfold addRetired at hretired
    split_ifs at hretired
    · exact hold hretired
    · rw [mem_sortBy, List.mem_append, List.mem_singleton] at hretired
      rcases hretired with hlisted | rfl
      · exact hold hlisted
      · exact if_pos rfl
  · exact hold hretired

theorem faithful_of_applied (h : RetirementFaithful s) (hupdates : UpdatesNoRetired s request)
    (happlied : Applied config now s request s') : RetirementFaithful s' := by
  cases happlied
  case registered hretired _ _ _ _ | admitted hretired _ _ _ _ _
    | recovered hretired _ _ _ _ _ _ | healthPublished hretired _ _ _ _ =>
    exact h.insert rfl rfl fun hlisted => by simp [hretired] at hlisted
  case updated hkind _ _ _ _ _ _ =>
    exact h.insert rfl rfl fun hlisted => by simp [hupdates hkind] at hlisted
  case moved hfind _ _ _ _ => exact h.moved hfind
  case evidenceWithdrawn hfind _ _ =>
    refine h.insert rfl rfl fun _ => ?_
    rw [recordedGeneration, hfind]
    rfl
  case clusterRetired =>
    refine h.of_generations rfl fun rack _ => ?_
    unfold recordedGeneration
    dsimp only
    rw [StdMap.find?_updateWhere, Option.map_map]
    refine Option.map_congr fun record _ => ?_
    dsimp only [Function.comp]
    split_ifs
    · rfl
    · rfl
  all_goals exact h

/-- The update of a retired rack leaves its retirement record behind. -/
theorem updatesNoRetired_of_faithful (h : RetirementFaithful s)
    (happlied : Applied config now s request s') (h' : RetirementFaithful s') :
    UpdatesNoRetired s request := by
  intro hkind
  refine Bool.eq_false_iff.mpr fun hlisted => ?_
  obtain ⟨retired, hretired, hrack⟩ := List.any_eq_true.mp hlisted
  rw [beq_iff_eq] at hrack
  have hbefore := h retired hretired
  cases happlied
  case updated hfind _ _ _ hgeneration _ =>
    have hafter := h' retired hretired
    rw [recordedGeneration_insert rfl, if_pos hrack.symm] at hafter
    rw [hrack, recordedGeneration, hfind, Option.map_some] at hbefore
    have hsame := Option.some.inj (hbefore.trans hafter.symm)
    exact absurd hgeneration (hsame ▸ lt_irrefl _)
  all_goals simp_all [MutationKind.membershipTarget, MutationKind.domainKind]

/-- The events that leave the records of retired racks alone. -/
def UpdatesNoRetiredEvent (c : Coordinator σ) : Event → Prop
  | .submit request _ => UpdatesNoRetired c.canonical request
  | .fence _ _ _ _ => True
  | .restart _ => True

theorem faithful_of_changes (hupdates : UpdatesNoRetiredEvent c event)
    (h : RetirementFaithful c.canonical) (hchanges : Changes c.canonical event s') :
    RetirementFaithful s' := by
  cases hchanges with
  | accepted _ happlied _ _ =>
    have hfaithful := faithful_of_applied h hupdates happlied
    exact hfaithful
  | @fenced boot reason fencedAt now g h' _ _ _ _ =>
    rw [fencedState_eq]
    refine h.of_generations rfl fun rack _ => ?_
    change ((c.canonical.racks.updateWhere _ (fencedRack reason)).find? rack).map _ = _
    rw [StdMap.find?_updateWhere, Option.map_map]
    refine Option.map_congr fun record _ => ?_
    dsimp only [Function.comp]
    split_ifs
    · rfl
    · rfl
  | renamed _ => exact h

theorem faithful_of_recovers (h : RetirementFaithful s)
    (hrecovers : Recovers (toPersistedState s) s') : RetirementFaithful s' := by
  obtain ⟨epoch, now, -, rfl⟩ := hrecovers
  refine h.of_generations rfl fun rack _ => ?_
  unfold recordedGeneration
  rw [racks_recovered, StdMap.find?_mapValues, Option.map_map]
  rfl

theorem Started.faithful (h : Started fs c) :
    clusterSystem.Holds RetirementFaithful (abstraction fs c) := by
  obtain ⟨⟨config, epoch, -, hcanonical⟩, hlast⟩ := h.initial
  refine ⟨?_, fun p hp => nomatch hlast.symm.trans hp⟩
  change RetirementFaithful c.canonical
  rw [hcanonical]
  exact fun _ hretired => nomatch hretired

/-- **Retirement records are faithful** along every run in which no generation update
finds its rack retired, and a request that is then accepted keeps them so exactly when it
is no such update. -/
theorem retirement_faithful {c₀ : Coordinator σ} (hstarted : Started fs c₀) {events : List Event}
    (halong : Along (step fs.ops) UpdatesNoRetiredEvent c₀ events) :
    RetirementFaithful (run fs.ops c₀ events).canonical ∧
      ∀ request now,
        (applyAndCommit fs.ops (run fs.ops c₀ events) request
          now).2.outcome = .accepted →
        (RetirementFaithful (applyAndCommit fs.ops
            (run fs.ops c₀ events) request now).1.canonical ↔
          UpdatesNoRetired (run fs.ops c₀ events).canonical request) := by
  have hreachable : Reachable fs c₀ := ⟨c₀, [], hstarted, rfl⟩
  have hrun : RetirementFaithful (run fs.ops c₀ events).canonical := by
    refine hreachable.holds_along ?_ ?_ ?_ hstarted.faithful halong
    · rintro c event - _ ⟨epoch, rfl⟩
      exact fun _ hretired => nomatch hretired
    · exact fun c event hupdates h s' hchanges => faithful_of_changes hupdates h hchanges
    · exact fun h hrecovers => faithful_of_recovers h hrecovers
  refine ⟨hrun, fun request now haccepted => ?_⟩
  obtain ⟨-, s, g, happlied, hcommitted⟩ := committed_of_accepted fs.ops haccepted
  rw [hcommitted.canonical]
  constructor
  · intro hafter
    exact updatesNoRetired_of_faithful hrun happlied hafter
  · intro hupdates
    have hafter := faithful_of_applied hrun hupdates happlied
    exact hafter

/-! ## The cluster -/

/-- Only a declared cluster is retired. -/
def RetiredDeclared (s : ClusterState) : Prop := s.lifecycle = .retired → s.epoch.known = true

theorem inductive_retiredDeclared : clusterSystem.Inductive RetiredDeclared where
  initial := by
    rintro _ ⟨config, epoch, -, rfl⟩ hretired
    exact nomatch hretired
  evolves := fun _ hevolves _ => clusterSystem.declared_of_evolves hevolves
  slips := by
    rintro s _ h ⟨request, -, rfl⟩
    exact h
  recovers := by
    rintro s _ - ⟨epoch, now, -, rfl⟩ hretired
    have hrecorded := retired_reevaluate (s := recoveredState (toPersistedState s) epoch now)
    exact nomatch hrecorded.mp hretired

/-- The events that a retired cluster withstands: no restart, and no declaration
that passes the gate and asks for another contract or lifecycle. -/
def Withstands (c : Coordinator σ) : Event → Prop
  | .submit request _ =>
    request.kind = .declareCluster → request.cluster.isValid = true →
      request.authority.clusterEpoch = c.canonical.epoch →
      request.readinessContract = c.canonical.readinessContract ∧
        request.declaredLifecycle = .retired
  | .fence _ _ _ _ => True
  | .restart _ => False

variable (fs) in
/-- A retired cluster accepts nothing but a declaration. -/
theorem refused_of_retired (hdeclared : c.canonical.epoch.known = true)
    (hretired : c.canonical.lifecycle = .retired)
    (hwithstands : Withstands c (.submit request now)) :
    (applyAndCommit fs.ops c request now).2.outcome ≠ .accepted ∧
      (applyAndCommit fs.ops c request now).1.canonical = c.canonical := by
  generalize hout : applyAndCommit fs.ops c request now = out
  obtain ⟨-, hauthorized, happlied, -⟩ | ⟨hrefused, -, hcanonical, -, -⟩ |
    ⟨-, hother, -, -, -, -⟩ := hout ▸ applyAndCommit_cases fs.ops c request now
  · exfalso
    by_cases hkind : request.kind = .declareCluster
    · have hsame := hwithstands hkind hauthorized.cluster_valid
        (hauthorized.declaration hkind hdeclared)
      rw [← hretired] at hsame
      cases happlied
      case declared hepoch => simp [hdeclared] at hepoch
      case redeclared hnew => exact hnew hsame
      all_goals simp_all [MutationKind.membershipTarget, MutationKind.domainKind]
    · have haccepts := (hauthorized.current hkind).accepts
      rw [hretired] at haccepts
      exact absurd haccepts Bool.false_ne_true
  · exact ⟨hrefused, hcanonical⟩
  · have hundeclared := hother.undeclared
    rw [hdeclared] at hundeclared
    exact absurd hundeclared.symm Bool.false_ne_true

theorem retired_step (hdeclared : c.canonical.epoch.known = true)
    (hretired : c.canonical.lifecycle = .retired) (hwithstands : Withstands c event) :
    (step fs.ops c event).canonical.lifecycle = .retired := by
  cases event with
  | submit request now =>
    have hsame := (refused_of_retired fs hdeclared hretired hwithstands).2
    exact (congrArg ClusterState.lifecycle hsame).trans hretired
  | fence boot reason fencedAt now =>
    change (applyFence fs.ops c boot reason fencedAt now).canonical.lifecycle = _
    obtain ⟨hcanonical, -⟩ | ⟨-, -, -, hcanonical, -⟩ :=
      applyFence_cases fs.ops c boot reason fencedAt now
    · rw [hcanonical, hretired]
    · rw [hcanonical]
      refine retired_reevaluate.mpr ?_
      rw [fencedState_eq]
      exact hretired
  | restart now => exact hwithstands.elim

/-- **RETIRED is absorbing** in every run without a restart and without a
declaration that asks a retired cluster for another contract or lifecycle. -/
theorem retired_absorbing (hreachable : Reachable fs c)
    (hretired : c.canonical.lifecycle = .retired) {events : List Event}
    (halong : Along (step fs.ops) Withstands c events) :
    let c' := run fs.ops c events
    c'.canonical.lifecycle = .retired ∧
      ∀ request now, Withstands c' (.submit request now) →
        (applyAndCommit fs.ops c' request now).2.outcome ≠ .accepted := by
  have hrun : Reachable fs (run fs.ops c events) ∧
      (run fs.ops c events).canonical.lifecycle = .retired := by
    refine runFrom_invariant_along
      (P := fun c : Coordinator σ => Reachable fs c ∧ c.canonical.lifecycle = .retired) _
      (fun c event h hwithstands => ?_) ⟨hreachable, hretired⟩ halong
    refine ⟨h.1.run [event], ?_⟩
    exact retired_step ((h.1.holds inductive_retiredDeclared).1 h.2) h.2 hwithstands
  refine ⟨hrun.2, fun request now hwithstands => ?_⟩
  have hdeclared := (hrun.1.holds inductive_retiredDeclared).1 hrun.2
  exact (refused_of_retired fs hdeclared hrun.2 hwithstands).1

end Coordinator

section Example

namespace Coordinator

open scoped StdSort

/-- A retirement under the epochs of the given start. -/
def retirement (rack : String) (coordinatorEpoch : UInt64) : MutationRequest where
  kind := .retireRack
  cluster := .named "alpha"
  authority :=
    { clusterEpoch := .fromRaw 1
      coordinatorEpoch := .fromRaw coordinatorEpoch
      rack := some (.named rack) }

/-- A retired rack is published again, and the process restarts. -/
theorem retired_forever_republished :
    let c := sample rackEvents
    let c₁ := (applyAndCommit cellStore.ops c (retirement "r1" 2) ⟨4⟩).1
    let c₂ := run cellStore.ops c₁
      [.submit (publishedRack "r1" "b2") ⟨5⟩, .restart ⟨6⟩]
    c₂.canonical.racks.size = 1 ∧ Retired c₂.canonical (.named "r1") :=
  ⟨by decide +kernel,
    retired_forever (reachable_sample _) rfl (by decide +kernel) (along_restartsSaved _
      ((persisting_step_iff _ _ (.submit (retirement "r1" 2) ⟨4⟩)).mpr (persisting_sample _)) _)⟩

/-- A retirement that is not saved is undone by a restart. -/
theorem volatile_retirement_undone :
    let c := run cellStore.ops volatileStart [.submit (retirement "r1" 3) ⟨5⟩]
    (applyAndCommit cellStore.ops volatileStart (retirement "r1" 3) ⟨5⟩).2.outcome =
        .accepted ∧
      ((step cellStore.ops c (.restart ⟨6⟩)).canonical.racks.find?
        (.named "r1")).map RackRecord.membership = some .active := by
  decide +kernel

/-- The update of the generation of rack `r1` by its incarnation, without evidence. -/
def retiredUpdate : MutationRequest :=
  { publishedRack "r1" "b1" with
    kind := .updateRackGeneration
    newRackGeneration := some (.fromRaw 7) }

/-- A retired rack is recorded at the generation of its retirement. -/
theorem retirement_faithful_republished :
    RetirementFaithful (sample (rackEvents ++ [.submit (retirement "r1" 2) ⟨4⟩,
      .submit (publishedRack "r1" "b2") ⟨5⟩, .restart ⟨6⟩])).canonical := by
  refine (retirement_faithful started_sampleStart ?_).1
  exact ⟨nofun, nofun, nofun, nofun, trivial, trivial⟩

def outdated : Coordinator (Option PersistedState) :=
  sample (rackEvents ++ [.submit (retirement "r1" 2) ⟨4⟩, .submit retiredUpdate ⟨5⟩])

theorem generations_outdated :
    outdated.canonical.retiredRacks.map (fun retired => (retired.rack, retired.lastGeneration)) =
        [(.named "r1", .fromRaw 1)] ∧
      recordedGeneration outdated.canonical (.named "r1") = some (.fromRaw 7) := by
  decide +kernel

/-- A retired rack takes a new generation, and its retirement record keeps the old one. -/
theorem retirement_record_outdated :
    Reachable cellStore outdated ∧ ¬ RetirementFaithful outdated.canonical := by
  refine ⟨reachable_sample _, fun hfaithful => ?_⟩
  obtain ⟨hlisted, hrecorded⟩ := generations_outdated
  obtain ⟨retired, hretired, hentry⟩ : ∃ retired ∈ outdated.canonical.retiredRacks,
      (retired.rack, retired.lastGeneration) = (.named "r1", .fromRaw 1) := by
    refine List.mem_map.mp ?_
    rw [hlisted]
    exact List.mem_singleton_self _
  obtain ⟨hrack, hgeneration⟩ := Prod.mk.inj hentry
  have hsame := hfaithful retired hretired
  rw [hrack, hgeneration, hrecorded] at hsame
  exact absurd hsame (by decide)

/-- The retirement of cluster `alpha`. -/
def clusterRetirement : MutationRequest where
  kind := .retireCluster
  cluster := .named "alpha"
  authority := { clusterEpoch := .fromRaw 1, coordinatorEpoch := .fromRaw 2 }

def retiredCluster : Coordinator (Option PersistedState) :=
  sample (rackEvents ++ [.submit clusterRetirement ⟨4⟩])

/-- A retired cluster withstands a publication and a fence. -/
theorem retired_absorbing_published :
    let events : List Event :=
      [.submit (publishedRack "r2" "b2") ⟨5⟩, .fence (.named "b1") (text "lost") ⟨6⟩ ⟨6⟩]
    (run cellStore.ops retiredCluster events).canonical.lifecycle = .retired := by
  intro events
  have halong : Along (step cellStore.ops) Withstands retiredCluster events :=
    ⟨fun h => (nomatch h), trivial, trivial⟩
  exact (retired_absorbing (reachable_sample _) (by decide +kernel) halong).1

/-- A declaration under the current epoch makes a retired cluster form again, and
so does a restart. -/
theorem retired_cluster_redeclared :
    let redeclaration : MutationRequest :=
      { kind := .declareCluster
        cluster := .named "alpha"
        authority := { clusterEpoch := .fromRaw 1 }
        declaredLifecycle := .forming }
    retiredCluster.canonical.lifecycle = .retired ∧
      (applyAndCommit cellStore.ops retiredCluster redeclaration ⟨5⟩).2.outcome =
        .accepted ∧
      (step cellStore.ops retiredCluster
        (.submit redeclaration ⟨5⟩)).canonical.lifecycle ≠ .retired ∧
      (step cellStore.ops retiredCluster (.restart ⟨5⟩)).canonical.lifecycle =
        .revalidationRequired := by
  decide +kernel

end Coordinator

end Example

end ClusterFabric
