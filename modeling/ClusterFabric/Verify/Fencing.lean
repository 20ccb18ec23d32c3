import ClusterFabric.Verify.Runs

/-! # Fenced incarnations

The fenced list is consulted by the boot gate and by the recovery of a rack, and so by
the kinds of mutation that pass through one of them (`fencing_stops_iff`). The other
kinds accept a request whatever incarnation it carries.
-/

namespace ClusterFabric

open Lib

variable {request : MutationRequest} {boot : RackAgentBootId}

/-- The kinds that consult the fenced list, and the one that is always refused. -/
def MutationKind.checksBoot : MutationKind → Bool
  | .unknown | .addRack | .updateRackGeneration | .markRackUnavailable | .withdrawRack
  | .retireRack | .recoverRack | .publishHealthCurrentness => true
  | _ => false

namespace Coordinator

section Checked

variable [StdSort]

/-- A mutation of a kind that consults the fenced list carries no fenced
incarnation. -/
theorem notFenced_of_applied {config : CoordinatorConfig} {now : Timestamp} {s s' : ClusterState}
    (hchecks : request.kind.checksBoot = true) (happlied : Applied config now s request s')
    (hboot : request.authority.boot = some boot) : s.isBootFenced boot = false := by
  cases happlied
  case admitted hauthorized _ _ _ _ | updated hauthorized _ _ _ _ | moved hauthorized _ _ _
    | healthPublished hauthorized _ _ _ => exact (hauthorized boot hboot).1
  case recovered hboot' hfenced _ _ _ =>
    obtain rfl := Option.some.inj (hboot.symm.trans hboot')
    exact hfenced
  case domainPublished k _ _ _ _ hkind _ _ _ _ _ _ _ =>
    revert hchecks hkind
    cases request.kind <;> simp [MutationKind.checksBoot, MutationKind.domainKind]
  all_goals simp_all [MutationKind.checksBoot]

/-- A request of such a kind under a fenced incarnation changes nothing. -/
theorem refused_of_fenced {σ : Type} (ops : PersistenceStore σ) {c : Coordinator σ}
    (now : Timestamp) (hchecks : request.kind.checksBoot = true)
    (hboot : request.authority.boot = some boot) (hfenced : c.canonical.isBootFenced boot = true) :
    (applyAndCommit ops c request now).2.outcome ≠ .accepted ∧
      (applyAndCommit ops c request now).1.canonical = c.canonical := by
  generalize hout : applyAndCommit ops c request now = out
  obtain ⟨-, -, happlied, -⟩ | ⟨houtcome, -, hcanonical, -, -⟩ | ⟨-, hother, -, -, -, -⟩ :=
    hout ▸ applyAndCommit_cases ops c request now
  · have hnot := notFenced_of_applied hchecks happlied hboot
    simp [hfenced] at hnot
  · exact ⟨houtcome, hcanonical⟩
  · simp [hother.kind_eq, MutationKind.checksBoot] at hchecks

end Checked

/-! ## The kinds that do not -/

section Probe

open scoped StdSort

def probedLink (id : String) : InterRackLink where
  id := .named id
  source := .named "r1"
  destination := .named "r2"
  direction := .bidirectional
  topologyEpoch := .fromRaw 1
  header := { generation := .fromRaw 1 }

def probedDomain : (k : DomainKind) → Domain k
  | .placement => ⟨.named "d", PlacementDomainClass.networkTier, [], { generation := .fromRaw 1 }⟩
  | .capacity => ⟨.named "d", ({ klass := .cpuPool } : CapacityDetail), [],
      { generation := .fromRaw 1 }⟩
  | .failure => ⟨.named "d", FailureDomainClass.row, [], { generation := .fromRaw 1 }⟩
  | .network => ⟨.named "d", ConnectivityClass.routedPath, [], { generation := .fromRaw 1 }⟩
  | .storage => ⟨.named "d", (), [], { generation := .fromRaw 1 }⟩
  | .power => ⟨.named "d", (none : Option PowerDomainId), [], { generation := .fromRaw 1 }⟩
  | .cooling => ⟨.named "d", (none : Option CoolingDomainId), [], { generation := .fromRaw 1 }⟩
  | .link => ⟨.named "d", (), [], { generation := .fromRaw 1 }⟩

/-- Two racks and a link are published, and the incarnation of the first rack is
fenced. -/
def probedEvents : List Event :=
  rackEvents ++ [.submit (publishedRack "r2" "b2") ⟨4⟩,
    .submit
      { publishedRack "r1" "b1" with
        kind := .publishInterRackLink
        link := some (probedLink "l1") } ⟨5⟩,
    .fence (.named "b1") (text "session closed") ⟨6⟩ ⟨6⟩]

def probed : Coordinator (Option PersistedState) := sample probedEvents

/-- A request of each kind from the fenced incarnation. -/
def probe (kind : MutationKind) : MutationRequest where
  kind := kind
  cluster := .named "alpha"
  authority :=
    { clusterEpoch := .fromRaw 1
      coordinatorEpoch := .fromRaw 2
      boot := some (.named "b1")
      publisher := some (.named "agent")
      rack := some (if kind = .registerRackPublisher then .named "r3" else .named "r2")
      rackGeneration := some (.fromRaw 1) }
  readinessContract := { minimumCurrentRacks := 2 }
  domain := fun k => some (probedDomain k)
  constraint := some
    { id := .named "c", kind := .capacityFloor, header := { generation := .fromRaw 1 } }
  link := some (probedLink "l2")
  linkId := some (.named "l1")
  targetTopologyEpoch := some (.fromRaw 2)
  racks := [.named "r2"]

-- One evaluation replays the events of `probed` once.
theorem probed_facts : probed.canonical.isBootFenced (.named "b1") = true ∧
    (∀ kind ∈ Enumeration.all (E := MutationKind), kind.checksBoot = false →
      (applyAndCommit cellStore.ops probed (probe kind) ⟨7⟩).2.outcome =
        .accepted) ∧
    probed.canonical.generation < (applyAndCommit cellStore.ops probed
      (probe .publishCapacityDomain) ⟨7⟩).1.canonical.generation := by
  decide +kernel

theorem isBootFenced_probed : probed.canonical.isBootFenced (.named "b1") = true := probed_facts.1

theorem probed_accepted (kind : MutationKind) (h : kind.checksBoot = false) :
    (applyAndCommit cellStore.ops probed (probe kind) ⟨7⟩).2.outcome = .accepted :=
  probed_facts.2.1 kind (Enumeration.mem_all kind) h

/-- A capacity domain is published by an incarnation that was fenced before. -/
theorem fenced_publication_accepted :
    let out := applyAndCommit cellStore.ops probed (probe .publishCapacityDomain) ⟨7⟩
    (probe .publishCapacityDomain).authority.boot = some (.named "b1") ∧
      probed.canonical.isBootFenced (.named "b1") = true ∧ out.2.outcome = .accepted ∧
      probed.canonical.generation < out.1.canonical.generation :=
  ⟨rfl, isBootFenced_probed, probed_accepted .publishCapacityDomain rfl, probed_facts.2.2⟩

end Probe

/-- **The kinds of mutation that fencing stops** are those that consult the fenced
list: under a fenced incarnation each of their requests is refused and leaves
canonical state alone, in every reachable state. Every other kind has a request
that a fenced incarnation carries and that is accepted. -/
theorem fencing_stops_iff (kind : MutationKind) :
    (∀ [StdSort] {σ : Type} (fs : FaithfulStore σ) (c : Coordinator σ), Reachable fs c →
      ∀ (request : MutationRequest) (now : Timestamp) (boot : RackAgentBootId),
        request.kind = kind → request.authority.boot = some boot →
        c.canonical.isBootFenced boot = true →
        (applyAndCommit fs.ops c request now).2.outcome ≠ .accepted ∧
          (applyAndCommit fs.ops c request now).1.canonical = c.canonical) ↔
      kind.checksBoot = true := by
  constructor
  · intro h
    by_contra hchecks
    have hrefused := @h StdSort.insertion _ cellStore probed
      (@reachable_sample StdSort.insertion _) (probe kind) ⟨7⟩ _ rfl rfl isBootFenced_probed
    exact hrefused.1 (probed_accepted kind (by simpa using hchecks))
  · rintro hchecks _ σ fs c - request now boot rfl hboot hfenced
    exact refused_of_fenced fs.ops now hchecks hboot hfenced

end Coordinator

end ClusterFabric
