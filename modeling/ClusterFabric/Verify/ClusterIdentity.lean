import ClusterFabric.Verify.Runs

/-! # One cluster identity

The common gate compares the identity that a request names with the one that the
coordinator owns, except for a declaration. A first declaration writes the identity it
names, and leaves it behind when it is refused; a later one keeps the identity and is
accepted whatever it names. The identity is the configured one as long as declarations
name it (`one_cluster_identity`).
-/

namespace ClusterFabric

open Lib

variable {config : CoordinatorConfig} {s : ClusterState} {request : MutationRequest}
  {cluster : ClusterId}

namespace Coordinator

variable [StdSort] {σ : Type} {store store' : Option σ}

/-- A declaration names the configured cluster. -/
def NamesConfigured (c : Coordinator σ) : Event → Prop
  | .submit request _ => request.kind = .declareCluster → request.cluster = c.config.cluster
  | .fence _ _ _ _ => True
  | .restart _ => True

/-- The current state and what the store would load are of the configured
cluster. -/
structure Identified (fs : FaithfulStore σ) (c : Coordinator σ) : Prop where
  canonical : c.canonical.id = c.config.cluster
  saved : ∀ p, lastSaved fs c.store = some p → p.id = c.config.cluster

/-- Only a declaration writes the identity, and only the one it names. -/
theorem id_of_applied {now : Timestamp} {s' : ClusterState}
    (happlied : Applied config now s request s')
    (hnames : request.kind = .declareCluster → request.cluster = s.id) : s'.id = s.id := by
  cases happlied
  case declared hkind _ => exact hnames hkind
  all_goals rfl

omit [StdSort] in
/-- What is accepted names the identity that the coordinator owns. -/
theorem cluster_of_authorized (hauthorized : Authorized s request)
    (hnames : request.kind = .declareCluster → request.cluster = s.id) :
    request.cluster = s.id := by
  by_cases hkind : request.kind = .declareCluster
  · exact hnames hkind
  · exact (hauthorized.current hkind).cluster_eq

variable {fs : FaithfulStore σ}

omit [StdSort] in
/-- The image of a commit is of the identity of the committed state. -/
theorem id_of_saved (hsaved : Saved fs.ops config store s store')
    (hid : s.id = cluster) (hstore : ∀ p, lastSaved fs store = some p → p.id = cluster) :
    ∀ p, lastSaved fs store' = some p → p.id = cluster := by
  cases hsaved with
  | skipped _ => exact hstore
  | saved _ _ hok =>
    intro p hp
    have hlast := fs.last_save_ok _ _ hok
    obtain rfl := Option.some.inj (hlast.symm.trans hp)
    exact hid

omit [StdSort] in
theorem id_of_unsaved (hunsaved : Unsaved fs.ops store store')
    (hstore : ∀ p, lastSaved fs store = some p → p.id = cluster) :
    ∀ p, lastSaved fs store' = some p → p.id = cluster := by
  intro p hp
  have hlast : lastSaved fs store' = lastSaved fs store := (reads_last fs).unsaved hunsaved
  exact hstore p (hlast.symm.trans hp)

theorem id_fencedState (s : ClusterState) (boot : RackAgentBootId) (reason : Text)
    (fencedAt : Timestamp) : (fencedState s boot reason fencedAt).id = s.id := by
  unfold fencedState
  split_ifs <;> rfl

/-- A start on a store of the configured cluster. -/
theorem identified_start (now : Timestamp)
    (hstore : ∀ p, lastSaved fs store = some p → p.id = config.cluster) :
    Identified fs (start fs.ops config store now) := by
  have hloaded : _ = lastSaved fs store := (reads_last fs).loaded store
  unfold start
  dsimp only
  rw [hloaded]
  cases hlast : lastSaved fs store with
  | none => exact ⟨rfl, hstore⟩
  | some p => exact ⟨hstore p hlast, hstore⟩

theorem identified_step {c : Coordinator σ} (h : Identified fs c) {event : Event}
    (hnames : NamesConfigured c event) : Identified fs (step fs.ops c event) := by
  cases event with
  | submit request now =>
    change Identified fs (applyAndCommit fs.ops c request now).1
    generalize hout : applyAndCommit fs.ops c request now = out
    obtain ⟨-, -, happlied, hcommitted⟩ | ⟨-, -, hcanonical, hunsaved, hconfig⟩ |
      ⟨-, hother, -, -, -, -⟩ := hout ▸ applyAndCommit_cases fs.ops c request now
    · have hid := (id_of_applied happlied fun hkind =>
        (hnames hkind).trans h.canonical.symm).trans h.canonical
      refine ⟨?_, ?_⟩
      · rw [hcommitted.canonical, hcommitted.config]
        exact hid
      · rw [hcommitted.config]
        exact id_of_saved hcommitted.saved hid h.saved
    · refine ⟨?_, ?_⟩
      · rw [hcanonical, hconfig]
        exact h.canonical
      · rw [hconfig]
        exact id_of_unsaved hunsaved h.saved
    · exact absurd ((hnames hother.kind_eq).trans h.canonical.symm) hother.ne_id
  | fence boot reason fencedAt now =>
    change Identified fs (applyFence fs.ops c boot reason fencedAt now)
    obtain ⟨hcanonical, hunsaved, hconfig, -⟩ | ⟨-, -, -, hcanonical, hsaved, hconfig, -⟩ :=
      applyFence_cases fs.ops c boot reason fencedAt now
    · refine ⟨?_, ?_⟩
      · rw [hcanonical, hconfig]
        exact h.canonical
      · rw [hconfig]
        exact id_of_unsaved hunsaved h.saved
    · have hid : (applyFence fs.ops c boot reason fencedAt now).canonical.id =
          c.config.cluster := by
        rw [hcanonical]
        exact (id_fencedState c.canonical boot reason fencedAt).trans h.canonical
      refine ⟨?_, ?_⟩
      · rw [hid, hconfig]
      · rw [hconfig]
        exact id_of_saved hsaved hid h.saved
  | restart now => exact identified_start now h.saved

/-- **One cluster identity.** On a store that holds nothing or a state of the
configured cluster, and as long as declarations name that cluster, the canonical
state and what is saved are of it, and nothing that names another cluster is
accepted. -/
theorem one_cluster_identity {config : CoordinatorConfig} {store : Option σ} {now : Timestamp}
    (hstore : ∀ p, lastSaved fs store = some p → p.id = config.cluster) {events : List Event}
    (halong : Along (step fs.ops) NamesConfigured
      (start fs.ops config store now) events) :
    let c := run fs.ops (start fs.ops config store now) events
    c.canonical.id = config.cluster ∧
      (∀ p, lastSaved fs c.store = some p → p.id = config.cluster) ∧
      ∀ request now, NamesConfigured c (.submit request now) →
        (applyAndCommit fs.ops c request now).2.outcome = .accepted →
        request.cluster = config.cluster := by
  have hconfig : (start fs.ops config store now).config = config := by
    unfold start
    dsimp only
    split <;> rfl
  have hrun := runFrom_invariant_along
    (P := fun c : Coordinator σ => Identified fs c ∧ c.config = config) (step fs.ops)
    (fun c event hc hnames => ⟨identified_step hc.1 hnames,
      (config_step fs.ops c event).1.trans hc.2⟩)
    ⟨identified_start now hstore, hconfig⟩ halong
  intro c
  obtain ⟨hidentified, hconfig'⟩ : Identified fs c ∧ c.config = config := hrun
  refine ⟨hconfig' ▸ hidentified.canonical, hconfig' ▸ hidentified.saved, ?_⟩
  intro request now' hnames haccepted
  obtain ⟨hauthorized, -⟩ := committed_of_accepted fs.ops haccepted
  have hcluster := cluster_of_authorized hauthorized fun hkind =>
    (hnames hkind).trans hidentified.canonical.symm
  rw [hcluster, hidentified.canonical, hconfig']

end Coordinator

section Example

namespace Coordinator

open scoped StdSort

/-- The sample cluster keeps its identity over a publication and a restart. -/
theorem one_cluster_identity_sample :
    (sample (rackEvents ++ [.restart ⟨4⟩])).canonical.id = .named "alpha" := by
  have hstore : ∀ p, lastSaved cellStore (some none) = some p →
      p.id = ({ cluster := .named "alpha" } : CoordinatorConfig).cluster := fun p hp => nomatch hp
  have halong : Along (step cellStore.ops) NamesConfigured sampleStart
      (rackEvents ++ [.restart ⟨4⟩]) :=
    ⟨fun _ => rfl, (nomatch ·), trivial, trivial⟩
  exact (one_cluster_identity hstore halong).1

/-- The declaration of a cluster that the coordinator is not configured for. -/
def foreignDeclaration : MutationRequest :=
  { kind := .declareCluster, cluster := .named "beta" }

/-- A first declaration is accepted whatever it names. -/
theorem foreign_declaration_accepted :
    let out := applyAndCommit cellStore.ops sampleStart foreignDeclaration ⟨2⟩
    sampleStart.config.cluster = .named "alpha" ∧ out.2.outcome = .accepted ∧
      out.1.canonical.id = .named "beta" := by
  decide +kernel

end Coordinator

end Example

end ClusterFabric
