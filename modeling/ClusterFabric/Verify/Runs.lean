import ClusterFabric.Lib.Recovery
import ClusterFabric.Verify.Steps

/-! # The coordinator as a recovering system

Abstractly the coordinator is a system that recovers from a saved image: its current
state is canonical state and its image the persisted projection. Every step of the
coordinator over a faithful store is one of that system (`coordinator_refines`).
-/

namespace ClusterFabric

open Lib

variable {s s' : ClusterState} {config : CoordinatorConfig} {now : Timestamp}
  {request : MutationRequest} {R : ClusterState → ClusterState → Prop} {P : ClusterState → Prop}
  {events : List Event} {event : Event}

namespace Coordinator

variable [StdSort]

/-! ## The system -/

/-- One commit of canonical state: an accepted request or an effective fence. -/
inductive Evolves (s : ClusterState) : ClusterState → Prop
  | accepted {config : CoordinatorConfig} {now : Timestamp} {request : MutationRequest}
      {s₁ : ClusterState} {g : ClusterGeneration} (hauthorized : Authorized s request)
      (happlied : Applied config now s request s₁)
      (hok : (checkInvariants (reevaluate s₁) none).isOk = true)
      (hnext : s₁.generation.next = some g) : Evolves s (committed s₁ g now)
  | fenced {boot : RackAgentBootId} (reason : Text) (fencedAt now : Timestamp)
      {g : ClusterGeneration} {h : HealthGeneration} (hdeclared : s.epoch.known = true)
      (hpublished : publishedBy s boot = true) (hg : s.generation.next = some g)
      (hh : s.healthGeneration.next = some h) :
    Evolves s (committedFence (fencedState s boot reason fencedAt) g h now)

/-- A coordinator starts with nothing recorded. -/
def Initial (s : ClusterState) : Prop :=
  ∃ config epoch, epoch.known = true ∧ s = freshState config epoch

/-- A refused first declaration leaves its identity behind. -/
def Slips (s s' : ClusterState) : Prop :=
  ∃ request, DeclaresOther s request ∧ s' = { s with id := request.cluster }

/-- What a restart makes of a persisted state. -/
def Recovers (p : PersistedState) (s : ClusterState) : Prop :=
  ∃ epoch now, epoch.known = true ∧ s = fromPersistedState p epoch now

/-- What an event can change: an accepted request and an effective fence commit,
and a refused first declaration leaves its identity behind. -/
inductive Changes (s : ClusterState) : Event → ClusterState → Prop
  | accepted {config : CoordinatorConfig} {now : Timestamp} {request : MutationRequest}
      {s₁ : ClusterState} {g : ClusterGeneration} (hauthorized : Authorized s request)
      (happlied : Applied config now s request s₁)
      (hok : (checkInvariants (reevaluate s₁) none).isOk = true)
      (hnext : s₁.generation.next = some g) :
    Changes s (.submit request now) (committed s₁ g now)
  | fenced {boot : RackAgentBootId} {reason : Text} {fencedAt now : Timestamp}
      {g : ClusterGeneration} {h : HealthGeneration} (hdeclared : s.epoch.known = true)
      (hpublished : publishedBy s boot = true) (hg : s.generation.next = some g)
      (hh : s.healthGeneration.next = some h) :
    Changes s (.fence boot reason fencedAt now)
      (committedFence (fencedState s boot reason fencedAt) g h now)
  | renamed {request : MutationRequest} {now : Timestamp} (hother : DeclaresOther s request) :
    Changes s (.submit request now) { s with id := request.cluster }

theorem Changes.evolves (h : Changes s event s') (hdeclared : s.epoch.known = true) :
    Evolves s s' := by
  cases h with
  | accepted hauthorized happlied hok hnext => exact .accepted hauthorized happlied hok hnext
  | fenced hdeclared hpublished hg hh => exact .fenced _ _ _ hdeclared hpublished hg hh
  | renamed hother => exact nomatch hother.undeclared.symm.trans hdeclared

/-- Before the cluster is declared only its declaration completes. -/
theorem applied_undeclared (hauthorized : Authorized s request) (hepoch : s.epoch.known = false)
    (happlied : Applied config now s request s') :
    request.kind = .declareCluster ∧ s' = declaredState s request now := by
  have hkind : request.kind = .declareCluster := by
    by_contra hkind
    have hdeclared := (hauthorized.current hkind).declared
    simp [hepoch] at hdeclared
  cases happlied
  case declared => exact ⟨hkind, rfl⟩
  case redeclared hdeclared _ => simp [hepoch] at hdeclared
  all_goals simp_all [MutationKind.membershipTarget, MutationKind.domainKind]

/-- A completed mutation leaves a declared cluster. -/
theorem epoch_known_of_applied (hauthorized : Authorized s request)
    (happlied : Applied config now s request s') : s'.epoch.known = true := by
  cases hepoch : s.epoch.known with
  | false =>
    obtain ⟨-, rfl⟩ := applied_undeclared hauthorized hepoch happlied
    unfold declaredState
    dsimp only
    split_ifs with hknown
    · exact hknown
    · rfl
  | true =>
    cases happlied
    case declared hundeclared => simp [hepoch] at hundeclared
    all_goals exact hepoch

theorem epoch_fencedState (s : ClusterState) (boot : RackAgentBootId) (reason : Text)
    (fencedAt : Timestamp) : (fencedState s boot reason fencedAt).epoch = s.epoch := by
  unfold fencedState
  split_ifs <;> rfl

theorem racks_fencedState (s : ClusterState) (boot : RackAgentBootId) (reason : Text)
    (fencedAt : Timestamp) :
    (fencedState s boot reason fencedAt).racks = (fencedRecords s boot reason).racks := by
  unfold fencedState
  split_ifs <;> rfl

/-- A mutation of a declared cluster leaves the generation to the commit. -/
theorem generation_of_applied (hdeclared : s.epoch.known = true)
    (happlied : Applied config now s request s') : s'.generation = s.generation := by
  cases happlied
  case declared hepoch => simp [hdeclared] at hepoch
  all_goals rfl

/-- Every commit of a declared cluster advances the generation by one. -/
theorem generation_of_evolves (hdeclared : s.epoch.known = true) (h : Evolves s s') :
    s.generation.next = some s'.generation := by
  cases h with
  | accepted hauthorized happlied hok hnext =>
    rw [← generation_of_applied hdeclared happlied]
    exact hnext
  | fenced reason fencedAt now _ _ hg _ => exact hg

/-- The coordinator, abstractly. -/
def clusterSystem : RecoverySystem ClusterState PersistedState where
  image := toPersistedState
  declared s := s.epoch.known = true
  initial := Initial
  evolves := Evolves
  slips := Slips
  recovers := Recovers
  undeclared_of_initial := by
    rintro _ ⟨config, epoch, _, rfl⟩ h
    simp [freshState, StrongCounter.known, StrongCounter.unknown] at h
  declared_of_evolves := by
    rintro s _ (⟨hauthorized, happlied, -, -⟩ | ⟨reason, fencedAt, now, hdeclared, -, -, -⟩)
    · exact (epoch_known_of_applied hauthorized happlied :)
    · change (fencedState s _ reason fencedAt).epoch.known = true
      rw [epoch_fencedState]
      exact hdeclared
  undeclared_of_slips := by
    rintro s _ ⟨request, hother, rfl⟩
    simp [hother.undeclared]
  declared_of_recovers := by
    rintro s _ hdeclared ⟨epoch, now, _, rfl⟩
    exact hdeclared

/-- Nothing is recorded in a cluster that is not declared. -/
def Grounded (s : ClusterState) : Prop :=
  s.epoch.known = false → s.racks = .empty ∧ s.links = .empty

omit [StdSort] in
theorem Grounded.declared (h : Grounded s) {boot : RackAgentBootId}
    (hpublished : publishedBy s boot = true) : s.epoch.known = true := by
  by_contra hepoch
  obtain ⟨hracks, hlinks⟩ := h (by simpa using hepoch)
  rw [publishedBy, hracks, hlinks] at hpublished
  exact absurd hpublished Bool.false_ne_true

theorem inductive_grounded : clusterSystem.Inductive Grounded where
  initial := by
    rintro _ ⟨config, epoch, _, rfl⟩ _
    exact ⟨rfl, rfl⟩
  evolves := fun _ hevolves hepoch => by
    have hdeclared := clusterSystem.declared_of_evolves hevolves
    change _ = true at hdeclared
    rw [hepoch] at hdeclared
    exact absurd hdeclared Bool.false_ne_true
  slips := by
    rintro s _ h ⟨request, -, rfl⟩
    exact h
  recovers := by
    rintro s _ h ⟨epoch, now, -, rfl⟩ hepoch
    obtain ⟨hracks, hlinks⟩ := h hepoch
    constructor
    · change StdMap.ofList ((s.racks.entries.map _).map _) = _
      rw [hracks]
      rfl
    · change StdMap.ofList (s.links.values.map _) = _
      rw [hlinks]
      rfl

/-! ## The coordinator refines it -/

omit [StdSort] in
theorem known_nextEpoch (previous : CoordinatorEpoch) : (nextEpoch previous).known = true := by
  unfold nextEpoch
  dsimp only
  generalize (if previous.known then previous.next.getD previous else .fromRaw 1) = next
  split_ifs with hknown
  · exact hknown
  · rfl

section AnyStore

variable {σ : Type} (ops : PersistenceStore σ) {store store' : Option σ} {c : Coordinator σ}

omit [StdSort] in
theorem isSome_saved (h : Saved ops config store s store') : store'.isSome = store.isSome := by
  cases h with
  | skipped _ => rfl
  | saved _ hstore _ => rw [hstore]; rfl

omit [StdSort] in
theorem isSome_unsaved (h : Unsaved ops store store') : store'.isSome = store.isSome := by
  cases h with
  | untouched => rfl
  | failed p hstore _ => rw [hstore]; rfl

/-- No event changes the configuration or detaches the store. -/
theorem config_step (c : Coordinator σ) (event : Event) :
    (step ops c event).config = c.config ∧
      (step ops c event).store.isSome = c.store.isSome := by
  cases event with
  | submit request now =>
    change (applyAndCommit ops c request now).1.config = _ ∧
      (applyAndCommit ops c request now).1.store.isSome = _
    generalize hout : applyAndCommit ops c request now = out
    obtain ⟨-, -, -, hcommitted⟩ | ⟨-, -, -, hunsaved, hconfig⟩ | ⟨-, -, -, -, hunsaved, hconfig⟩ :=
      hout ▸ applyAndCommit_cases ops c request now
    · exact ⟨hcommitted.config, isSome_saved ops hcommitted.saved⟩
    · exact ⟨hconfig, isSome_unsaved ops hunsaved⟩
    · exact ⟨hconfig, isSome_unsaved ops hunsaved⟩
  | fence boot reason fencedAt now =>
    obtain ⟨-, hunsaved, hconfig, -⟩ | ⟨-, -, -, -, hsaved, hconfig, -⟩ :=
      applyFence_cases ops c boot reason fencedAt now
    · exact ⟨hconfig, isSome_unsaved ops hunsaved⟩
    · exact ⟨hconfig, isSome_saved ops hsaved⟩
  | restart now =>
    change (start ops c.config c.store now).config = _ ∧
      (start ops c.config c.store now).store.isSome = _
    unfold start
    dsimp only
    split <;> exact ⟨rfl, rfl⟩

theorem persisting_step_iff (c : Coordinator σ) (event : Event) :
    Persisting (step ops c event).config (step ops c event).store ↔
      Persisting c.config c.store := by
  obtain ⟨hconfig, hstore⟩ := config_step ops c event
  unfold Persisting
  rw [hconfig, hstore]

theorem persisting_run (events : List Event) :
    Persisting (run ops c events).config
        (run ops c events).store ↔
      Persisting c.config c.store := by
  unfold run
  exact runFrom_invariant (P := fun c' : Coordinator σ => Persisting c'.config c'.store ↔
    Persisting c.config c.store) _
    (fun c' event h => (persisting_step_iff ops c' event).trans h) Iff.rfl events

/-- Only a coordinator that saves its commits restarts. -/
def RestartsSaved (c : Coordinator σ) (event : Event) : Prop :=
  event.restarts = true → Persisting c.config c.store

theorem along_restartsSaved (hpersisting : Persisting c.config c.store) (events : List Event) :
    Along (step ops) RestartsSaved c events :=
  along_of_invariant (P := fun c => Persisting c.config c.store) _
    (fun c event h _ => (persisting_step_iff ops c event).mpr h) (fun _ _ h _ _ => h) hpersisting
    (along_true _)

/-- What a store would load is a function of its content that a failed save
leaves as it is. -/
structure Reads (last : σ → Option PersistedState) : Prop where
  loaded_load : ∀ content, (ops.load content).loaded = last content
  last_save_failed : ∀ p content, (ops.save p content).1.ok = false →
    last (ops.save p content).2 = last content

/-- A store that saved the state would load it. -/
def Returns (last : σ → Option PersistedState) (s : ClusterState) : Prop :=
  ∀ content, (ops.save (toPersistedState s) content).1.ok = true →
    last (ops.save (toPersistedState s) content).2 = some (toPersistedState s)

/-- A coordinator of this configuration begins in the state. -/
def Begins (config : CoordinatorConfig) (s : ClusterState) : Prop :=
  ∃ epoch, s = freshState config epoch

variable {ops} {last : σ → Option PersistedState}

omit [StdSort] in
theorem Reads.unsaved (hreads : Reads ops last) (h : Unsaved ops store store') :
    store'.bind last = store.bind last := by
  cases h with
  | untouched => rfl
  | failed p hstore hfailed =>
    subst hstore
    exact hreads.last_save_failed p _ hfailed

omit [StdSort] in
/-- A start loads what the store would load. -/
theorem Reads.loaded (hreads : Reads ops last) (store : Option σ) :
    (store.map ops.load).bind LoadOutcome.loaded = store.bind last := by
  cases store with
  | none => rfl
  | some content => exact hreads.loaded_load content

/-- A commit saves its state exactly when the coordinator persists. -/
theorem step_of_saved (hreturns : Returns ops last s') (hsaved : Saved ops config store s' store')
    (hevolves : Evolves s s') {start : ClusterState → Prop}
    {change : ClusterState → ClusterState → Prop} (hchange : change s s') :
    (clusterSystem.confine start change).Step (Persisting config store) (s, store.bind last)
      (s', store'.bind last) := by
  cases hsaved with
  | skipped h => exact .commit h ⟨hevolves, hchange⟩
  | saved hpersisting hstore hok =>
    have hlast := hreturns _ hok
    change RecoverySystem.Step _ _ _ (s', last _)
    rw [hlast]
    exact .save hpersisting ⟨hevolves, hchange⟩

/-- A start recovers what the store would load, or begins anew. -/
theorem step_start (hreads : Reads ops last) (config : CoordinatorConfig) (store : Option σ)
    (now : Timestamp) (persisting : Prop) (s : ClusterState)
    {change : ClusterState → ClusterState → Prop} :
    (clusterSystem.confine (Begins config) change).Step persisting (s, store.bind last)
      ((start ops config store now).canonical, (start ops config store now).store.bind last) := by
  unfold start
  dsimp only
  rw [hreads.loaded]
  cases hlast : store.bind last with
  | none =>
    dsimp only
    rw [hlast]
    exact .restart ⟨⟨config, _, known_nextEpoch _, rfl⟩, _, rfl⟩
  | some p =>
    dsimp only
    rw [hlast]
    exact .recover ⟨_, now, known_nextEpoch _, rfl⟩

variable (ops) in
/-- What an event that is not a restart comes to. -/
inductive Served (c : Coordinator σ) (event : Event) (c' : Coordinator σ) : Prop
  | kept (hcanonical : c'.canonical = c.canonical) (hunsaved : Unsaved ops c.store c'.store)
  | committed (hevolves : Evolves c.canonical c'.canonical)
      (hchanges : Changes c.canonical event c'.canonical)
      (hsaved : Saved ops c.config c.store c'.canonical c'.store)
  | slipped (hslips : Slips c.canonical c'.canonical)
      (hchanges : Changes c.canonical event c'.canonical)
      (hunsaved : Unsaved ops c.store c'.store)

variable (ops) in
theorem served_submit (c : Coordinator σ) (request : MutationRequest) (now : Timestamp) :
    Served ops c (.submit request now) (applyAndCommit ops c request now).1 := by
  generalize hout : applyAndCommit ops c request now = out
  obtain ⟨-, hauthorized, happlied, hcommitted⟩ | ⟨-, -, hcanonical, hunsaved, -⟩ |
    ⟨-, hother, -, hcanonical, hunsaved, -⟩ := hout ▸ applyAndCommit_cases ops c request now
  · have hcanonical := hcommitted.canonical
    refine .committed ?_ ?_ (hcanonical ▸ hcommitted.saved)
    · rw [hcanonical]
      exact .accepted hauthorized happlied hcommitted.isOk hcommitted.next
    · rw [hcanonical]
      exact .accepted hauthorized happlied hcommitted.isOk hcommitted.next
  · exact .kept hcanonical hunsaved
  · refine .slipped ?_ ?_ hunsaved
    · rw [hcanonical]
      exact ⟨request, hother, rfl⟩
    · rw [hcanonical]
      exact .renamed hother

variable (ops) in
theorem served_fence (h : Grounded c.canonical) (boot : RackAgentBootId) (reason : Text)
    (fencedAt now : Timestamp) :
    Served ops c (.fence boot reason fencedAt now) (applyFence ops c boot reason fencedAt now) := by
  obtain ⟨hcanonical, hunsaved, -, -⟩ | ⟨hpublished, hg, hh, hcanonical, hsaved, -, -⟩ :=
    applyFence_cases ops c boot reason fencedAt now
  · exact .kept hcanonical hunsaved
  · have hdeclared := h.declared hpublished
    refine .committed ?_ ?_ hsaved
    · rw [hcanonical]
      exact .fenced reason fencedAt now hdeclared hpublished hg hh
    · rw [hcanonical]
      exact .fenced hdeclared hpublished hg hh

theorem Served.step (hreads : Reads ops last) {c' : Coordinator σ} (h : Served ops c event c')
    (hreturns : ∀ s', Evolves c.canonical s' → Changes c.canonical event s' → Returns ops last s')
    {start : ClusterState → Prop} :
    (clusterSystem.confine start fun s s' => Changes s event s').Step
      (Persisting c.config c.store) (c.canonical, c.store.bind last)
      (c'.canonical, c'.store.bind last) := by
  cases h with
  | kept hcanonical hunsaved =>
    rw [hcanonical, hreads.unsaved hunsaved]
    exact .stay
  | committed hevolves hchanges hsaved =>
    exact step_of_saved (hreturns _ hevolves hchanges) hsaved hevolves hchanges
  | slipped hslips hchanges hunsaved =>
    rw [hreads.unsaved hunsaved]
    exact .slip ⟨hslips, hchanges⟩

/-- Every event is a step of the system, confined to what the event can change. -/
theorem step_change (hreads : Reads ops last) (c : Coordinator σ) (event : Event)
    (h : Grounded c.canonical)
    (hreturns : ∀ s', Evolves c.canonical s' → Changes c.canonical event s' →
      Returns ops last s') :
    (clusterSystem.confine (Begins c.config) fun s s' => Changes s event s').Step
      (Persisting c.config c.store) (c.canonical, c.store.bind last)
      ((step ops c event).canonical, (step ops c event).store.bind last) := by
  cases event with
  | submit request now => exact (served_submit ops c request now).step hreads hreturns
  | fence boot reason fencedAt now =>
    exact (served_fence ops h boot reason fencedAt now).step hreads hreturns
  | restart now => exact step_start hreads c.config c.store now _ _

/-- What an event within one incarnation changes. -/
theorem changes_of_step (ops : PersistenceStore σ) (h : Grounded c.canonical)
    (hrestarts : event.restarts = false) :
    (step ops c event).canonical = c.canonical ∨
      Changes c.canonical event (step ops c event).canonical := by
  have hserved : Served ops c event (step ops c event) := by
    cases event with
    | submit request now => exact served_submit ops c request now
    | fence boot reason fencedAt now => exact served_fence ops h boot reason fencedAt now
    | restart now => cases hrestarts
  cases hserved with
  | kept hcanonical _ => exact .inl hcanonical
  | committed _ hchanges _ => exact .inr hchanges
  | slipped _ hchanges _ => exact .inr hchanges

end AnyStore

section Store

variable {σ : Type} (fs : FaithfulStore σ) {c : Coordinator σ}
  {meets : Coordinator σ → Event → Prop}

/-- What the attached store would load. -/
def lastSaved (store : Option σ) : Option PersistedState := store.bind fs.last

/-- What is left of a coordinator when only states matter. -/
def abstraction (c : Coordinator σ) : ClusterState × Option PersistedState :=
  (c.canonical, lastSaved fs c.store)

omit [StdSort] in
theorem reads_last : Reads fs.ops fs.last :=
  ⟨fs.loaded_load, fs.last_save_failed⟩

theorem step_event_change (c : Coordinator σ) (event : Event) (h : Grounded c.canonical) :
    (clusterSystem.confine (Begins c.config) fun s s' => Changes s event s').Step
      (Persisting c.config c.store) (abstraction fs c)
      (abstraction fs (step fs.ops c event)) :=
  step_change (reads_last fs) c event h fun _ _ _ content => fs.last_save_ok _ content

/-- Every event is a step of the system. -/
theorem step_event (c : Coordinator σ) (event : Event) (h : Grounded c.canonical) :
    clusterSystem.Step (Persisting c.config c.store) (abstraction fs c)
      (abstraction fs (step fs.ops c event)) :=
  (step_event_change fs c event h).of_confine

/-- **The coordinator refines the recovering system.** -/
theorem coordinator_refines :
    clusterSystem.Refines Grounded (step fs.ops) (abstraction fs)
      (fun c => Persisting c.config c.store) where
  keeps_valid := inductive_grounded
  persisting_step := fun c event => (persisting_step_iff fs.ops c event).mpr
  step_refines := step_event fs

/-- On events that meet a condition the coordinator refines the system confined
to the starts and changes that the condition allows. -/
theorem confined_refines {I : ClusterState → Prop}
    (hstart : ∀ c event, meets c event → ∀ s, Begins c.config s → I s)
    (hchange : ∀ c event, meets c event → ∀ s', Changes c.canonical event s' → R c.canonical s') :
    (clusterSystem.confine I R).RefinesAlong Grounded (step fs.ops) meets
      (abstraction fs) (fun c => Persisting c.config c.store) where
  keeps_valid := inductive_grounded.confine _ _
  persisting_step := (coordinator_refines fs).persisting_step
  step_refines := fun c event hgrounded hmeets =>
    (step_event_change fs c event hgrounded).mono_confine
      (fun s _ hs => hstart c event hmeets s hs) (fun s' _ hs' => hchange c event hmeets s' hs')
      (fun s' _ hs' => hchange c event hmeets s' hs')

/-! ## Reachable coordinators -/

/-- A coordinator at the start of a cluster: its store, if any, holds nothing. -/
def Started (c : Coordinator σ) : Prop :=
  ∃ config store now, lastSaved fs store = none ∧
    c = start fs.ops config store now

/-- A coordinator that a run from the start of a cluster leads to. -/
def Reachable (c : Coordinator σ) : Prop :=
  ∃ c₀ events, Started fs c₀ ∧ c = run fs.ops c₀ events

variable {fs}

theorem Started.initial (h : Started fs c) : Initial c.canonical ∧ lastSaved fs c.store = none := by
  obtain ⟨config, store, now, hlast, rfl⟩ := h
  have hloaded := ((reads_last fs).loaded store).trans hlast
  unfold start
  dsimp only
  rw [hloaded]
  exact ⟨⟨config, _, known_nextEpoch _, rfl⟩, hlast⟩

theorem Started.holds (h : Started fs c) (hP : clusterSystem.Inductive P) :
    clusterSystem.Holds P (abstraction fs c) := by
  obtain ⟨hinitial, hlast⟩ := h.initial
  refine ⟨hP.initial hinitial, fun p hp => ?_⟩
  exact nomatch hlast.symm.trans hp

theorem Started.synced (h : Started fs c) : clusterSystem.Synced (abstraction fs c) := by
  obtain ⟨hinitial, hlast⟩ := h.initial
  rw [abstraction, hlast]
  exact .undeclared (clusterSystem.undeclared_of_initial hinitial)

/-- An inductive property holds of every reachable coordinator, and of what its
store would load. -/
theorem Reachable.holds (h : Reachable fs c) (hP : clusterSystem.Inductive P) :
    clusterSystem.Holds P (abstraction fs c) := by
  obtain ⟨c₀, events, hstarted, rfl⟩ := h
  exact (coordinator_refines fs).holds_run hP (hstarted.holds inductive_grounded)
    (hstarted.holds hP) events

theorem Reachable.grounded (h : Reachable fs c) : Grounded c.canonical :=
  (h.holds inductive_grounded).1

theorem Reachable.synced (h : Reachable fs c) (hpersisting : Persisting c.config c.store) :
    clusterSystem.Synced (abstraction fs c) := by
  obtain ⟨c₀, events, hstarted, rfl⟩ := h
  exact (coordinator_refines fs).synced_run (hstarted.holds inductive_grounded)
    ((persisting_run fs.ops events).mp hpersisting) hstarted.synced events

theorem Reachable.run (h : Reachable fs c) (events : List Event) :
    Reachable fs (run fs.ops c events) := by
  obtain ⟨c₀, events₀, hstarted, rfl⟩ := h
  exact ⟨c₀, events₀ ++ events, hstarted, (run_append _ _ _ _).symm⟩

/-- What starts have, and what recoveries and the changes of conditioned events
keep, holds along every run of such events. -/
theorem Reachable.holds_along (hstart : ∀ c event, meets c event → ∀ s, Begins c.config s → P s)
    (hchange : ∀ c event, meets c event → P c.canonical → ∀ s', Changes c.canonical event s' → P s')
    (hrecovers : ∀ {s s'}, P s → Recovers (toPersistedState s) s' → P s') (h : Reachable fs c)
    (hc : clusterSystem.Holds P (abstraction fs c))
    (halong : Along (step fs.ops) meets c events) :
    P (Coordinator.run fs.ops c events).canonical := by
  have hrefines := confined_refines fs (R := fun s s' => P s → P s') hstart
    fun c event hmeets s' hs' hc => hchange c event hmeets hc s' hs'
  exact (hrefines.holds_run (RecoverySystem.inductive_confine hrecovers)
    (h.holds inductive_grounded) hc halong).1

/-- What recoveries respect, and the changes of conditioned events, relates the
states of a coordinator along every run of such events. -/
theorem Reachable.related_along (hR : (clusterSystem.confine (fun _ => True) R).Respects R)
    (hchange : ∀ c event, meets c event → ∀ s', Changes c.canonical event s' → R c.canonical s')
    (hrestarts : ∀ c event, meets c event → RestartsSaved c event) (h : Reachable fs c)
    (hdeclared : c.canonical.epoch.known = true)
    (halong : Along (step fs.ops) meets c events) :
    R c.canonical (Coordinator.run fs.ops c events).canonical := by
  by_cases hpersisting : Persisting c.config c.store
  · have hrefines := confined_refines fs (I := fun _ => True) (fun _ _ _ _ _ => trivial) hchange
    have hsynced : (clusterSystem.confine (fun _ => True) R).Synced (abstraction fs c) :=
      (h.synced hpersisting).confine
    exact hrefines.related_run hR (h.holds inductive_grounded) hpersisting hsynced hdeclared halong
  · -- within one incarnation the store does not matter
    clear hdeclared
    induction events generalizing c with
    | nil => exact hR.refl _
    | cons event events ih =>
      have hvolatile := mt (persisting_run fs.ops [event]).mp hpersisting
      have hone : event.restarts = false := by
        simpa using mt (hrestarts c event halong.1) hpersisting
      refine hR.trans ?_ (ih (h.run [event]) halong.2 hvolatile)
      rcases changes_of_step fs.ops h.grounded hone with hsame | hchanges
      · exact hsame ▸ hR.refl _
      · exact hchange c event halong.1 _ hchanges

/-- What every change respects relates the states along a run, once the cluster is
declared. -/
theorem Reachable.related_run (h : Reachable fs c) (hR : clusterSystem.Respects R)
    (hdeclared : c.canonical.epoch.known = true)
    (halong : Along (step fs.ops) RestartsSaved c events) :
    R c.canonical (Coordinator.run fs.ops c events).canonical := by
  refine (Reachable.related_along hR.confine (fun c event _ s' hchanges hs => ?_) (fun _ _ h => h) h
    hdeclared halong hdeclared).2
  have hevolves := hchanges.evolves hs
  exact ⟨clusterSystem.declared_of_evolves hevolves, hR.evolves hs hevolves⟩

end Store

/-! ## A small cluster -/

section Sample

/-- The declaration of cluster `alpha`. -/
def declaration : MutationRequest := { kind := .declareCluster, cluster := .named "alpha" }

/-- The publication of a rack by an incarnation, under the epochs of a first
start. -/
def publishedRack (rack boot : String) : MutationRequest where
  kind := .addRack
  cluster := .named "alpha"
  authority :=
    { clusterEpoch := .fromRaw 1
      coordinatorEpoch := .fromRaw 2
      boot := some (.named boot) }
  rackReference :=
    { rack := .named rack
      generation := .fromRaw 1
      evidence := .make .reported ⟨1⟩ 0
      publisher := some (.named "agent")
      publication := .fromRaw 1
      boot := .named boot }

/-- The publication of a link between two racks by the incarnation of the first:
the racks reach each other. -/
def publishedLink (id source destination boot : String) : MutationRequest :=
  { publishedRack source boot with
    kind := .publishInterRackLink
    link := some
      { id := .named id
        source := .named source
        destination := .named destination
        direction := .bidirectional
        reachability := .reachable
        header := { generation := .fromRaw 1, evidence := .make .reported ⟨1⟩ 0 }
        topologyEpoch := .fromRaw 1
        boot := some (.named boot) } }

/-- A coordinator of cluster `alpha`, started on an empty store. -/
def sampleStart : Coordinator (Option PersistedState) :=
  start cellStore.ops { cluster := .named "alpha" } (some none) ⟨1⟩

/-- The cluster is declared and one rack is published. -/
def rackEvents : List Event := [.submit declaration ⟨2⟩, .submit (publishedRack "r1" "b1") ⟨3⟩]

/-- Another rack is published. -/
def pairEvents : List Event := rackEvents ++ [.submit (publishedRack "r2" "b2") ⟨4⟩]

/-- A link between the two is published. -/
def linkedEvents : List Event :=
  pairEvents ++ [.submit (publishedLink "l1" "r1" "r2" "b1") ⟨5⟩]

def sample (events : List Event) : Coordinator (Option PersistedState) :=
  run cellStore.ops sampleStart events

theorem started_sampleStart : Started cellStore sampleStart := ⟨_, _, _, rfl, rfl⟩

theorem reachable_sample (events : List Event) : Reachable cellStore (sample events) :=
  ⟨sampleStart, events, started_sampleStart, rfl⟩

theorem persisting_sample (events : List Event) :
    Persisting (sample events).config (sample events).store :=
  (persisting_run cellStore.ops events).mpr ⟨rfl, rfl⟩

end Sample

end Coordinator

end ClusterFabric
