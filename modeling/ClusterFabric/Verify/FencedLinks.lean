import ClusterFabric.Verify.Disconnect
import ClusterFabric.Verify.Recovery

/-! # Links of fenced incarnations

A fence takes away what the links of an incarnation claim. Two kinds of mutation give it
back without asking for the incarnation of the link: the publication of a link takes the
one in its payload, and a health publication writes its evidence into every link of the
rack that it is about, whoever published it (`fenced_links_quiet`).
-/

namespace ClusterFabric

open Lib

variable {s' s : ClusterState} {config : CoordinatorConfig} {now : Timestamp}
  {request : MutationRequest}

namespace Coordinator

/-- The link is not current if its incarnation is fenced. -/
def Quiet (s : ClusterState) (link : InterRackLink) : Prop :=
  ∀ boot, link.boot = some boot → s.isBootFenced boot = true →
    link.header.evidence.isCurrent = false

/-- No link of a fenced incarnation is current. -/
def FencedLinksQuiet (s : ClusterState) : Prop := s.links.All fun _ link => Quiet s link

/-- The request makes no link of a fenced incarnation current. -/
structure RevivesNoLink (s : ClusterState) (request : MutationRequest) : Prop where
  published : request.kind = .publishInterRackLink → ∀ link, request.link = some link →
    Quiet s link
  reported : request.kind = .publishHealthCurrentness → request.reachability ≠ .unknown →
    request.evidence.isCurrent = true → ∀ id link, s.links.find? id = some link →
    link.touches request.targetRack = true →
    ∀ boot, link.boot = some boot → s.isBootFenced boot = false

section Requests

variable [StdSort]

theorem isBootFenced_of_applied (happlied : Applied config now s request s')
    (boot : RackAgentBootId) : s'.isBootFenced boot = s.isBootFenced boot := by
  cases happlied <;> rfl

omit [StdSort] in
theorem isCurrent_marked (evidence : EvidenceStamp) :
    evidence.markRevalidationRequired.isCurrent = false :=
  EvidenceStamp.isCurrent_of_requiresRevalidation
    (EvidenceStamp.requiresRevalidation_markRevalidationRequired evidence)

theorem quiet_of_applied (h : FencedLinksQuiet s) (hrevives : RevivesNoLink s request)
    (happlied : Applied config now s request s') : FencedLinksQuiet s' := by
  have hfenced := isBootFenced_of_applied happlied
  have hquiet : s'.links.All fun _ link => Quiet s link := by
    refine (written_of_applied happlied).links.all h fun id old link hold hwritten _ => ?_
    cases hwritten
    case published payload hkind hpayload _ => exact hrevives.published hkind payload hpayload
    case reported link hkind hreachability htouches _ =>
      intro boot hboot hlisted
      refine Bool.eq_false_iff.mpr fun hcurrent => ?_
      have hnot := hrevives.reported hkind hreachability hcurrent id link hold htouches boot hboot
      exact absurd (hnot.symm.trans hlisted) Bool.false_ne_true
    case evidenceWithdrawn => exact fun _ _ _ => isCurrent_marked _
    case superseded => exact fun _ _ _ => isCurrent_marked _
  intro id link hfind boot hboot hlisted
  rw [hfenced] at hlisted
  exact hquiet id link hfind boot hboot hlisted

/-- A request that completes revives a link, or leaves every link quiet. -/
theorem revivesNoLink_of_quiet (happlied : Applied config now s request s')
    (h : FencedLinksQuiet s') : RevivesNoLink s request where
  published := by
    intro hkind link hlink boot hboot hlisted
    rw [← isBootFenced_of_applied happlied] at hlisted
    cases happlied
    case linkPublished payload _ _ _ hpayload _ _ _ _ _ =>
      obtain rfl := Option.some.inj (hpayload.symm.trans hlink)
      have hquiet := h payload.id _ (StdMap.find?_insertOrAssign_self _ _ _)
      exact hquiet boot hboot hlisted
    all_goals simp_all [MutationKind.membershipTarget, MutationKind.domainKind]
  reported := by
    intro hkind hreachability hcurrent id link hfind htouches boot hboot
    refine Bool.eq_false_iff.mpr fun hlisted => ?_
    rw [← isBootFenced_of_applied happlied] at hlisted
    cases happlied
    case healthPublished record links c g _ _ _ _ _ hlinks _ =>
      obtain ⟨-, rfl, -⟩ | ⟨hnot, -, -⟩ := hlinks
      · have hquiet := h id (reportedLink request link)
          (by
            dsimp only
            rw [StdMap.find?_updateWhere, hfind, Option.map_some, if_pos htouches])
          boot hboot hlisted
        exact absurd (hquiet.symm.trans hcurrent) Bool.false_ne_true
      · exact hnot hreachability
    all_goals simp_all [MutationKind.membershipTarget, MutationKind.domainKind]

end Requests

/-! ## Runs -/

section Runs

variable [StdSort] {σ : Type} {fs : FaithfulStore σ} {c : Coordinator σ}

/-- The events that make no link of a fenced incarnation current. -/
def RevivesNoLinkEvent (c : Coordinator σ) : Event → Prop
  | .submit request _ => RevivesNoLink c.canonical request
  | .fence _ _ _ _ => True
  | .restart _ => True

theorem quiet_of_changes {event : Event} (hrevives : RevivesNoLinkEvent c event)
    (h : FencedLinksQuiet c.canonical) (hchanges : Changes c.canonical event s') :
    FencedLinksQuiet s' := by
  cases hchanges with
  | accepted _ happlied _ _ =>
    have hquiet := quiet_of_applied h hrevives happlied
    exact hquiet
  | @fenced boot reason fencedAt now g h' _ _ _ _ =>
    -- a link that is still current was so before, under another incarnation
    intro id link hfind boot' hboot hlisted
    refine Bool.eq_false_iff.mpr fun hcurrent => ?_
    obtain ⟨hbefore, hother⟩ := current_of_fenced hfind hcurrent
    rcases (isBootFenced_fencedState _ _ _ _).mp hlisted with hold | rfl
    · exact absurd ((h id link hbefore boot' hboot hold).symm.trans hcurrent) Bool.false_ne_true
    · exact hother hboot
  | renamed _ => exact h

theorem quiet_of_recovers (hrecovers : Recovers (toPersistedState s) s') : FencedLinksQuiet s' := by
  obtain ⟨epoch, now, -, rfl⟩ := hrecovers
  intro id link hfind _ _ _
  exact (conservative_fromPersistedState _ epoch now).linkNotCurrent id link hfind

theorem Started.quiet (h : Started fs c) :
    clusterSystem.Holds FencedLinksQuiet (abstraction fs c) := by
  obtain ⟨⟨config, epoch, -, hcanonical⟩, hlast⟩ := h.initial
  refine ⟨?_, fun p hp => nomatch hlast.symm.trans hp⟩
  change FencedLinksQuiet c.canonical
  rw [hcanonical]
  exact .empty

/-- **The links of fenced incarnations stay quiet** along every run whose requests revive
none, and a request that is then accepted keeps them so exactly when it revives none. -/
theorem fenced_links_quiet {c₀ : Coordinator σ} (hstarted : Started fs c₀) {events : List Event}
    (halong : Along (step fs.ops) RevivesNoLinkEvent c₀ events) :
    FencedLinksQuiet (run fs.ops c₀ events).canonical ∧
      ∀ request now,
        (applyAndCommit fs.ops (run fs.ops c₀ events) request
          now).2.outcome = .accepted →
        (FencedLinksQuiet (applyAndCommit fs.ops
            (run fs.ops c₀ events) request now).1.canonical ↔
          RevivesNoLink (run fs.ops c₀ events).canonical request) := by
  have hreachable : Reachable fs c₀ := ⟨c₀, [], hstarted, rfl⟩
  have hrun : FencedLinksQuiet (run fs.ops c₀ events).canonical := by
    refine hreachable.holds_along ?_ ?_ ?_ hstarted.quiet halong
    · rintro c event - _ ⟨epoch, rfl⟩
      exact .empty
    · exact fun c event hrevives h s' hchanges => quiet_of_changes hrevives h hchanges
    · exact fun _ hrecovers => quiet_of_recovers hrecovers
  refine ⟨hrun, fun request now haccepted => ?_⟩
  obtain ⟨-, s, g, happlied, hcommitted⟩ := committed_of_accepted fs.ops haccepted
  rw [hcommitted.canonical]
  constructor
  · intro hafter
    exact revivesNoLink_of_quiet happlied hafter
  · intro hrevives
    have hafter := quiet_of_applied hrun hrevives happlied
    exact hafter

end Runs

section Example

open scoped StdSort

/-- Two racks with a link of the first one's incarnation, which is then fenced. -/
def quietEvents : List Event :=
  linkedEvents ++ [.fence (.named "b1") (text "lost") ⟨6⟩ ⟨6⟩]

/-- The other rack reports that it is reachable. -/
def reachableReport : MutationRequest :=
  { publishedRack "r2" "b2" with
    kind := .publishHealthCurrentness
    health := .healthy
    reachability := .reachable
    evidence := .make .reported ⟨7⟩ 0 }

/-- Whether link `l1` is current under incarnation `b1`, which is fenced. -/
def revived (id : String) (c : Coordinator (Option PersistedState)) : Bool :=
  c.canonical.isBootFenced (.named "b1") &&
    (c.canonical.links.find? (.named id)).any fun link =>
      link.boot == some (.named "b1") && link.header.evidence.isCurrent

theorem facts_quiet :
    (sample (quietEvents.take 3)).canonical.isBootFenced (.named "b1") = false ∧
      revived "l1" (sample (quietEvents ++ [.submit reachableReport ⟨7⟩])) = true ∧
      revived "l2" (sample (quietEvents ++ [.submit (publishedLink "l2" "r1" "r2" "b1") ⟨7⟩])) =
        true := by
  decide +kernel

theorem not_quiet_of_revived {id : String} {c : Coordinator (Option PersistedState)}
    (h : revived id c = true) : ¬ FencedLinksQuiet c.canonical := by
  intro hquiet
  rw [revived, Bool.and_eq_true] at h
  obtain ⟨link, hfind, hlink⟩ := (Option.any_eq_true _ _).mp h.2
  rw [Bool.and_eq_true, beq_iff_eq] at hlink
  exact absurd ((hquiet _ link hfind _ hlink.1 h.1).symm.trans hlink.2) Bool.false_ne_true

/-- The link of a fenced incarnation is quiet after the fence. -/
theorem fenced_links_quiet_fenced : FencedLinksQuiet (sample quietEvents).canonical := by
  have halong : Along (step cellStore.ops) RevivesNoLinkEvent sampleStart
      quietEvents := by
    refine ⟨⟨nofun, nofun⟩, ⟨nofun, nofun⟩, ⟨nofun, nofun⟩, ⟨fun _ link hlink => ?_, nofun⟩,
      trivial, trivial⟩
    obtain rfl := Option.some.inj hlink
    intro boot hboot hlisted
    obtain rfl := Option.some.inj hboot
    exact absurd (facts_quiet.1.symm.trans hlisted) Bool.false_ne_true
  exact (fenced_links_quiet started_sampleStart halong).1

/-- A report of the other rack makes the link current again, and the fenced incarnation can
publish another one. -/
theorem fenced_link_revived :
    Reachable cellStore (sample (quietEvents ++ [.submit reachableReport ⟨7⟩])) ∧
      ¬ FencedLinksQuiet (sample (quietEvents ++ [.submit reachableReport ⟨7⟩])).canonical ∧
      ¬ FencedLinksQuiet (sample (quietEvents ++
        [.submit (publishedLink "l2" "r1" "r2" "b1") ⟨7⟩])).canonical :=
  ⟨reachable_sample _, not_quiet_of_revived facts_quiet.2.1,
    not_quiet_of_revived facts_quiet.2.2⟩

end Example

end Coordinator

end ClusterFabric
