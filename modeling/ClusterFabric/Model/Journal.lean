import ClusterFabric.Lib.Journal
import ClusterFabric.Model.Records

/-! # The undo journal of the commit path

`StateJournal` of `coordinator_impl.hpp` with the scalar snapshot of
`coordinator_engine.cpp`. The source's journal holds a reference to canonical
state; here the state is the journal's own component. Every write of the engine
to a canonical map is preceded by a record of the entry it is about to change,
so the record and the write are one operation.
-/

namespace ClusterFabric

open Lib

/-! ## Scalars -/

/-- Everything outside the canonical maps that a mutation may change. -/
structure ScalarSnapshot where
  epoch : ClusterEpoch
  coordinatorEpoch : CoordinatorEpoch
  generation : ClusterGeneration
  membershipGeneration : MembershipGeneration
  topologyEpoch : TopologyEpoch
  topologyGeneration : TopologyGeneration
  connectivityGeneration : ConnectivityGeneration
  healthGeneration : HealthGeneration
  constraintGeneration : ConstraintGeneration
  domainGenerations : DomainGenerations
  snapshotGeneration : SnapshotGeneration
  publicationGeneration : PublicationGeneration
  lifecycle : ClusterLifecycle
  readinessContract : ReadinessContract
  topologyRecord : TopologyEpochRecord
  fencedAuthorities : List FencedAuthority
  retiredRacks : List RetiredIdentity
  withdrawnRacks : List RackId
  lastMutationAt : Timestamp
  declaredAt : Timestamp

def captureScalars (s : ClusterState) : ScalarSnapshot where
  epoch := s.epoch
  coordinatorEpoch := s.coordinatorEpoch
  generation := s.generation
  membershipGeneration := s.membershipGeneration
  topologyEpoch := s.topologyEpoch
  topologyGeneration := s.topologyGeneration
  connectivityGeneration := s.connectivityGeneration
  healthGeneration := s.healthGeneration
  constraintGeneration := s.constraintGeneration
  domainGenerations := s.domainGenerations
  snapshotGeneration := s.snapshotGeneration
  publicationGeneration := s.publicationGeneration
  lifecycle := s.lifecycle
  readinessContract := s.readinessContract
  topologyRecord := s.topologyRecord
  fencedAuthorities := s.fencedAuthorities
  retiredRacks := s.retiredRacks
  withdrawnRacks := s.withdrawnRacks
  lastMutationAt := s.lastMutationAt
  declaredAt := s.declaredAt

/-- Restores exactly the captured fields: the maps and `id` stay as they are. -/
def restoreScalars (snapshot : ScalarSnapshot) (s : ClusterState) : ClusterState :=
  { s with
    epoch := snapshot.epoch
    coordinatorEpoch := snapshot.coordinatorEpoch
    generation := snapshot.generation
    membershipGeneration := snapshot.membershipGeneration
    topologyEpoch := snapshot.topologyEpoch
    topologyGeneration := snapshot.topologyGeneration
    connectivityGeneration := snapshot.connectivityGeneration
    healthGeneration := snapshot.healthGeneration
    constraintGeneration := snapshot.constraintGeneration
    domainGenerations := snapshot.domainGenerations
    snapshotGeneration := snapshot.snapshotGeneration
    publicationGeneration := snapshot.publicationGeneration
    lifecycle := snapshot.lifecycle
    readinessContract := snapshot.readinessContract
    topologyRecord := snapshot.topologyRecord
    fencedAuthorities := snapshot.fencedAuthorities
    retiredRacks := snapshot.retiredRacks
    withdrawnRacks := snapshot.withdrawnRacks
    lastMutationAt := snapshot.lastMutationAt
    declaredAt := snapshot.declaredAt }

/-! ## Map members -/

/-- A pointer to one of the canonical maps. -/
abbrev MapMember (K V : Type) [LinearOrder K] := Field CanonicalRecords (StdMap K V)

def racksMember : MapMember RackId RackRecord where
  get r := r.racks
  set r m := { r with racks := m }
  get_set _ _ := rfl
  set_get _ := rfl
  set_set _ _ _ := rfl

def linksMember : MapMember InterRackLinkId InterRackLink where
  get r := r.links
  set r m := { r with links := m }
  get_set _ _ := rfl
  set_get _ := rfl
  set_set _ _ _ := rfl

def constraintsMember : MapMember ConstraintId ClusterConstraint where
  get r := r.constraints
  set r m := { r with constraints := m }
  get_set _ _ := rfl
  set_get _ := rfl
  set_set _ _ _ := rfl

/-- `DomainTraits<...>::member`. -/
def domainsMember (k : DomainKind) : MapMember (DomainId k) (Domain k) where
  get r := r.domains k
  set r m := { r with domains := Function.update r.domains k m }
  get_set _ _ := by simp
  set_get _ := by simp
  set_set _ _ _ := by simp

section Members

variable {K V : Type} [LinearOrder K] (m : MapMember K V)

def ClusterState.getMap (s : ClusterState) : StdMap K V := m.get s.toCanonicalRecords

def ClusterState.setMap (s : ClusterState) (map : StdMap K V) : ClusterState :=
  { s with toCanonicalRecords := m.set s.toCanonicalRecords map }

@[simp] theorem ClusterState.getMap_setMap (s : ClusterState) (map : StdMap K V) :
    (s.setMap m map).getMap m = map := m.get_set _ _

@[simp] theorem ClusterState.setMap_getMap (s : ClusterState) :
    s.setMap m (s.getMap m) = s := by
  simp [setMap, getMap, m.set_get]

@[simp] theorem ClusterState.setMap_setMap (s : ClusterState) (a b : StdMap K V) :
    (s.setMap m a).setMap m b = s.setMap m b := by
  simp [setMap, m.set_set]

end Members

@[simp] theorem setMap_racks (s : ClusterState) (map : StdMap RackId RackRecord) :
    s.setMap racksMember map = { s with racks := map } := rfl

@[simp] theorem setMap_links (s : ClusterState) (map : StdMap InterRackLinkId InterRackLink) :
    s.setMap linksMember map = { s with links := map } := rfl

@[simp] theorem setMap_constraints (s : ClusterState)
    (map : StdMap ConstraintId ClusterConstraint) :
    s.setMap constraintsMember map = { s with constraints := map } := rfl

@[simp] theorem setMap_domains (s : ClusterState) (k : DomainKind)
    (map : StdMap (DomainId k) (Domain k)) :
    s.setMap (domainsMember k) map = { s with domains := Function.update s.domains k map } := rfl

@[simp] theorem getMap_racks (s : ClusterState) : s.getMap racksMember = s.racks := rfl

@[simp] theorem getMap_links (s : ClusterState) : s.getMap linksMember = s.links := rfl

@[simp] theorem getMap_constraints (s : ClusterState) :
    s.getMap constraintsMember = s.constraints := rfl

@[simp] theorem getMap_domains (s : ClusterState) (k : DomainKind) :
    s.getMap (domainsMember k) = s.domains k := rfl

/-! ## The journal -/

abbrev StateJournal := Journal ClusterState

namespace StateJournal

/-- `record_scalars`. -/
def recordScalars (j : StateJournal) : StateJournal :=
  j.push (fun s => s) (restoreScalars (captureScalars j.state))

section Entries

variable {K V : Type} [LinearOrder K] (m : MapMember K V)

/-- The undo action of one map entry: the previous value is assigned back, or
the entry erased when there was none. -/
def undoEntry (key : K) (previous : Option V) (s : ClusterState) : ClusterState :=
  s.setMap m ((s.getMap m).putBack key previous)

/-- Records the entry at `key`, then assigns it. -/
def assign (j : StateJournal) (key : K) (value : V) : StateJournal :=
  j.push (fun s => s.setMap m ((s.getMap m).insertOrAssign key value))
    (undoEntry m key ((j.state.getMap m).find? key))

/-- Records the entry at `key`, then erases it. -/
def eraseEntry (j : StateJournal) (key : K) : StateJournal :=
  j.push (fun s => s.setMap m ((s.getMap m).erase key))
    (undoEntry m key ((j.state.getMap m).find? key))

/-- The loop that records and rewrites the selected entries of a map. -/
def rewrite (j : StateJournal) (select : V → Bool) (f : V → V) : StateJournal :=
  (j.state.getMap m).entries.foldl
    (fun j e => if select e.2 then assign m j e.1 (f e.2) else j) j

@[simp] theorem state_assign (j : StateJournal) (key : K) (value : V) :
    (assign m j key value).state = j.state.setMap m ((j.state.getMap m).insertOrAssign key value) :=
  rfl

/-- The loop rewrites every selected entry and nothing else. -/
@[simp] theorem state_rewrite (j : StateJournal) (select : V → Bool) (f : V → V) :
    (rewrite m j select f).state =
      j.state.setMap m ((j.state.getMap m).updateWhere select f) := by
  have hfold : ∀ (l : List (K × V)) (j : StateJournal),
      (l.foldl (fun j e => if select e.2 then assign m j e.1 (f e.2) else j) j).state =
        j.state.setMap m (l.foldl
          (fun acc e => if select e.2 then acc.insertOrAssign e.1 (f e.2) else acc)
          (j.state.getMap m)) := by
    intro l
    induction l with
    | nil => intro j; simp
    | cons e l ih =>
      intro j
      rw [List.foldl_cons, List.foldl_cons, ih]
      split_ifs <;> simp
  rw [rewrite, hfold, StdMap.foldl_rewrite (fun _ v => select v) (fun _ v => f v)]
  rfl

end Entries

@[simp] theorem state_recordScalars (j : StateJournal) : j.recordScalars.state = j.state := rfl

@[simp] theorem state_update (j : StateJournal) (f : ClusterState → ClusterState) :
    (j.update f).state = f j.state := rfl

end StateJournal

end ClusterFabric
