import ClusterFabric.Verify.Storable

/-! # Committed state can be read back

The image of a storable state is readable and keeps the structural rules, so a store
that encodes it returns it. Over an in-memory store this holds after every commit of a
run whose requests and fences are storable (`commits_recoverable`), and it fails for
others: a container can be written that the next start rejects.
-/

namespace ClusterFabric

open Lib PersistedState

variable {c : Coordinator MemoryContent} {s' : ClusterState} {g : ClusterGeneration}
  {rack : RackId} {request : MutationRequest} {now : Timestamp} {link : InterRackLink}
  {racks : List RackId} {record : RackRecord} {p : PersistedState} {event : Event}

namespace Coordinator

/-! ## The image of a storable state -/

section Image

variable {s : ClusterState}

theorem rackIds_toPersistedState (s : ClusterState) :
    (toPersistedState s).rackIds = s.racks.keys := by
  change (s.racks.entries.map _).map _ = _
  rw [List.map_map]
  rfl

theorem rackExists_toPersistedState (h : s.racks.contains rack = true) :
    (toPersistedState s).rackExists rack = true := by
  rw [rackExists, rackIds_toPersistedState, binarySearch_iff s.racks.keys_sorted,
    StdMap.mem_keys_iff]
  exact h

theorem domainExists_toPersistedState (hkeyed : Keyed s) {k : DomainKind} {id : DomainId k}
    (h : (s.domains k).contains id = true) : (toPersistedState s).domainExists k id = true := by
  change binarySearch ((s.domains k).values.map Domain.id) id = true
  rw [StdMap.map_values_of_keyed (hkeyed.domains k), binarySearch_iff (s.domains k).keys_sorted,
    StdMap.mem_keys_iff]
  exact h

theorem contains_of_isRackMember (h : s.isRackMember rack = true) :
    s.racks.contains rack = true := by
  unfold ClusterState.isRackMember at h
  unfold StdMap.contains
  cases hfind : s.racks.find? rack with
  | none => simp [hfind] at h
  | some record => rfl

theorem validMembers_image (h : StorableRecords s) (hlength : racks.length ≤ maxDomainMembers)
    (hmembers : ∀ rack ∈ racks, s.isRackMember rack = true) (hsorted : racks.Pairwise (· < ·)) :
    (toPersistedState s).ValidMembers racks where
  count := hlength
  exist := fun rack hrack => by
    have hcontains := contains_of_isRackMember (hmembers rack hrack)
    exact ⟨h.rack_nonempty hcontains, rackExists_toPersistedState hcontains⟩
  sorted := hsorted

theorem validRack_image (hok : RackOk s rack record) (h : StorableRack rack record) :
    ValidRack (durableRack rack record) where
  id := h.id
  generation := hok.generation
  publisher := h.reference.publisher.getD isEmpty_unknownPublisher
  endpointCount := hok.endpoints_le
  endpoints := fun endpoint hendpoint => (h.reference.endpoints endpoint hendpoint).id
  endpointsSorted := h.reference.endpointsSorted
  hintCount := hok.hints_le
  hints := h.reference.hints
  hintsSorted := h.reference.hintsSorted

theorem readableRack_image (hok : RackOk s rack record) (h : StorableRack rack record) :
    ReadableRack (durableRack rack record) where
  id := h.id
  publisher := h.reference.publisher.getD isEmpty_unknownPublisher
  lastBoot := h.reference.boot
  accelerators := h.reference.accelerators
  endpoints_le := hok.endpoints_le
  endpoints := h.reference.endpoints
  hints_le := hok.hints_le
  hints := fun hint hhint => (h.reference.hints hint hhint).2

theorem validLink_image (hkeyed : Keyed s) (h : StorableRecords s) {id : InterRackLinkId}
    (hok : LinkOk s id link) (hlink : StorableLink s.domains id link) :
    (toPersistedState s).ValidLink link := by
  have hsource := contains_of_isRackMember hok.source_member
  have hdestination := contains_of_isRackMember hok.destination_member
  exact
    { id := hok.id_eq ▸ hlink.id
      source := h.rack_nonempty hsource
      destination := h.rack_nonempty hdestination
      distinct := hok.no_loop
      sourceExists := rackExists_toPersistedState hsource
      destinationExists := rackExists_toPersistedState hdestination
      generation := hlink.generation
      topologyEpoch := hlink.topologyEpoch
      networkDomain := fun domain hdomain =>
        domainExists_toPersistedState hkeyed (hlink.networkDomain domain hdomain)
      linkDomain := fun domain hdomain =>
        domainExists_toPersistedState hkeyed (hlink.linkDomain domain hdomain) }

theorem readableLink_image (h : StorableRecords s) {id : InterRackLinkId} (hok : LinkOk s id link)
    (hlink : StorableLink s.domains id link) : ReadableLink link where
  id := hok.id_eq ▸ hlink.id
  source := h.rack_nonempty (contains_of_isRackMember hok.source_member)
  destination := h.rack_nonempty (contains_of_isRackMember hok.destination_member)
  networkDomain := fun domain hdomain =>
    h.domain_nonempty (hlink.networkDomain domain hdomain)
  linkDomain := fun domain hdomain =>
    h.domain_nonempty (hlink.linkDomain domain hdomain)
  sourceEndpoint := hlink.sourceEndpoint
  destinationEndpoint := hlink.destinationEndpoint
  failureDomains_le := hlink.failureDomains_le
  failureDomains := fun domain hdomain =>
    h.domain_nonempty (k := .failure) (hok.failureDomains domain hdomain)
  publisher := hlink.publisher
  boot := hlink.boot

/-- Distinct recorded racks are no more than there are racks. -/
theorem length_le_racks (hnodup : racks.Nodup) (h : ∀ rack ∈ racks, s.racks.contains rack = true) :
    racks.length ≤ s.racks.size := by
  have hsubset : racks ⊆ s.racks.keys := fun rack hrack => StdMap.mem_keys_iff.mpr (h rack hrack)
  have hle := (List.subperm_of_subset hnodup hsubset).length_le
  rwa [StdMap.keys, List.length_map] at hle

theorem contains_of_membership {m : RackMembershipState}
    (h : (s.racks.find? rack).map RackRecord.membership = some m) :
    s.racks.contains rack = true := by
  obtain ⟨record, hfind, -⟩ := Option.map_eq_some_iff.mp h
  rw [StdMap.contains, hfind]
  rfl

variable [StdSort]

theorem valid_image (hsound : Sound s) (h : Storable s) (hdeclared : s.epoch.known = true) :
    (toPersistedState s).Valid := by
  have hok := hsound.filed
  have hrecords := h.toStorableRecords
  have hscalars := h.scalars hdeclared
  refine
    { scalars := ?_
      rackCount := (List.length_map _).trans_le hok.counts.racks
      linkCount := (List.length_map _).trans_le hok.counts.links
      constraintCount := (List.length_map _).trans_le hok.counts.constraints
      racks := fun rack hrack => ?_
      racksSorted := ?_
      domainCount := fun k => (List.length_map _).trans_le (hok.counts.domains k)
      domains := fun k domain hdomain => ?_
      domainsSorted := fun k => StdMap.values_sorted (hsound.domains k)
      quantities := fun domain hdomain => ?_
      links := fun link hlink => ?_
      linksSorted := StdMap.values_sorted hsound.links
      constraints := fun constraint hconstraint => ?_
      constraintsSorted := StdMap.values_sorted hsound.constraints
      retired := fun retired hretired => ?_
      retiredSorted := hok.retiredSorted
      withdrawn := fun rack hrack => ⟨?_, fun retired hretired heq => ?_⟩
      withdrawnSorted := hok.withdrawn.sorted
      fenced := h.fenced }
  · exact ⟨hscalars.id, hdeclared, h.coordinatorEpoch, hscalars.generation,
      hscalars.membershipGeneration, hscalars.topologyGeneration, hscalars.connectivityGeneration,
      hscalars.healthGeneration, hscalars.constraintGeneration, hscalars.snapshotGeneration,
      hscalars.publicationGeneration, .inl hscalars.topologyEpoch⟩
  · obtain ⟨id, record, hfind, rfl⟩ := mem_racks_toPersistedState.mp hrack
    exact validRack_image (hok.racks id record hfind) (h.racks id record hfind)
  · have hkeys := s.racks.keys_sorted
    rwa [← rackIds_toPersistedState, rackIds, List.pairwise_map] at hkeys
  · obtain ⟨id, hfind, hstorable⟩ := (h.domains k).of_mem_values hdomain
    have hdomainOk := hok.domains k id domain hfind
    refine ⟨?_, hstorable.generation, ?_⟩
    · rw [hsound.domains k id domain hfind]
      exact hstorable.id
    · exact validMembers_image hrecords hstorable.racks_le hdomainOk.members hdomainOk.sorted
  · obtain ⟨id, -, hstorable⟩ := (h.domains .capacity).of_mem_values hdomain
    exact hstorable.quantities
  · obtain ⟨id, hfind, hstorable⟩ := h.links.of_mem_values hlink
    exact validLink_image hsound.toKeyed hrecords (hok.links id link hfind) hstorable
  · obtain ⟨id, hfind, hstorable⟩ := h.constraints.of_mem_values hconstraint
    refine ⟨?_, hstorable.kind, hstorable.generation, ?_⟩
    · rw [hsound.constraints id constraint hfind]
      exact hstorable.id
    · exact validMembers_image hrecords hstorable.racks_le (hok.constraints id constraint hfind)
        hstorable.sorted
  · have hstorable := h.retired retired hretired
    exact ⟨hrecords.rack_nonempty (contains_of_membership hstorable.membership),
      hstorable.lastGeneration⟩
  · exact hrecords.rack_nonempty
      (contains_of_membership (hok.withdrawn.listed rack hrack))
  · -- a rack cannot be both withdrawn and retired
    have hmembership := (h.retired retired hretired).membership
    rw [heq, hok.withdrawn.listed rack hrack] at hmembership
    cases hmembership

theorem readable_image (hsound : Sound s) (h : Storable s) (hdeclared : s.epoch.known = true)
    (hfenced : s.fencedAuthorities.length ≤ maxRacksPerCluster) :
    (toPersistedState s).Readable := by
  have hok := hsound.filed
  have hrecords := h.toStorableRecords
  have hvalid := valid_image hsound h hdeclared
  have hretiredRacks : (s.retiredRacks.map RetiredIdentity.rack).Nodup :=
    List.pairwise_map.mpr (hok.retiredSorted.imp fun hlt => hlt.ne)
  have hwithdrawnRacks : s.withdrawnRacks.Nodup := hok.withdrawn.sorted.imp fun hlt => hlt.ne
  refine
    { id := hvalid.scalars.id
      contract := h.contract hdeclared
      racks_le := hvalid.rackCount
      racks := fun rack hrack => ?_
      domains_le := hvalid.domainCount
      domains := fun k domain hdomain => ?_
      links_le := hvalid.linkCount
      links := fun link hlink => ?_
      constraints_le := hvalid.constraintCount
      constraints := fun constraint hconstraint => ?_
      retired_le := ?_
      retired := fun retired hretired => (hvalid.retired retired hretired).1
      withdrawn_le := ?_
      withdrawn := fun rack hrack => (hvalid.withdrawn rack hrack).1
      fenced_le := hfenced
      fenced := fun fenced hmem => ⟨(h.fenced fenced hmem).boot, (h.fenced fenced hmem).rack⟩ }
  · obtain ⟨id, record, hfind, rfl⟩ := mem_racks_toPersistedState.mp hrack
    exact readableRack_image (hok.racks id record hfind) (h.racks id record hfind)
  · obtain ⟨id, -, hstorable⟩ := (h.domains k).of_mem_values hdomain
    have hvalidDomain := hvalid.domains k domain hdomain
    exact ⟨hvalidDomain.id, hstorable.racks_le,
      fun rack hrack => (hvalidDomain.members.exist rack hrack).1, hstorable.detail,
      hstorable.publisher⟩
  · obtain ⟨id, hfind, hstorable⟩ := h.links.of_mem_values hlink
    exact readableLink_image hrecords (hok.links id link hfind) hstorable
  · obtain ⟨id, -, hstorable⟩ := h.constraints.of_mem_values hconstraint
    have hvalidConstraint := hvalid.constraints constraint hconstraint
    exact ⟨hvalidConstraint.id, hstorable.racks_le,
      fun rack hrack => (hvalidConstraint.members.exist rack hrack).1, hstorable.publisher⟩
  · have hle := length_le_racks hretiredRacks fun rack hrack => by
      obtain ⟨retired, hretired, rfl⟩ := List.mem_map.mp hrack
      exact contains_of_membership (h.retired retired hretired).membership
    rw [List.length_map] at hle
    exact hle.trans hok.counts.racks
  · have hle := length_le_racks hwithdrawnRacks fun rack hrack =>
      contains_of_membership (hok.withdrawn.listed rack hrack)
    exact hle.trans hok.counts.racks

end Image

/-! ## The in-memory store -/

/-- A `MemoryPersistenceStore` decodes the payload that it saved. -/
theorem load_saved {content : MemoryContent}
    (hok : (memoryPersistenceStore.save p content).1.ok = true) :
    memoryPersistenceStore.load (memoryPersistenceStore.save p content).2 =
      match decodePayload ((writeState p).output {}).data with
      | .error failure => { status := failure.status, error := failure.error }
      | .ok q => { status := .ok, state := some q } := by
  cases hencode : encodePersistedState p with
  | error failure => simp [memoryPersistenceStore, hencode] at hok
  | ok bytes =>
    obtain ⟨-, -, hbytes⟩ := encode_ok hencode
    have hlength := length_container ((writeState p).output {}).data
    have hnonempty : bytes ≠ [] := by
      rintro rfl
      rw [← hbytes, containerHeaderBytes, List.length_nil] at hlength
      omega
    rw [← decode_of_encode hencode]
    cases hdecode : decodePersistedState bytes with
    | error failure | ok q => simp [memoryPersistenceStore, hencode, hnonempty, hdecode]

/-- What a `MemoryPersistenceStore` saved of a readable and valid state it
loads. -/
theorem load_save_memory (hvalid : p.Valid) (hreadable : p.Readable) {content : MemoryContent}
    (hok : (memoryPersistenceStore.save p content).1.ok = true) :
    memoryPersistenceStore.load (memoryPersistenceStore.save p content).2 =
      { status := .ok, state := some p } := by
  cases hencode : encodePersistedState p with
  | error failure => simp [memoryPersistenceStore, hencode] at hok
  | ok bytes =>
    have hdecode := (decode_encode hreadable hencode).mpr ⟨hvalid, rfl⟩
    rw [decode_of_encode hencode] at hdecode
    rw [load_saved hok, hdecode]

/-- What an attached in-memory store would load. -/
def loadedFrom (store : Option MemoryContent) : Option PersistedState :=
  store.bind fun content => (memoryPersistenceStore.load content).loaded

theorem reads_memory :
    Reads memoryPersistenceStore fun content => (memoryPersistenceStore.load content).loaded where
  loaded_load := fun _ => rfl
  last_save_failed := fun p content hfailed => by
    cases hencode : encodePersistedState p with
    | error failure => simp [memoryPersistenceStore, hencode]
    | ok bytes => simp [memoryPersistenceStore, hencode] at hfailed

/-- The store of the coordinator returns its state. -/
def Recoverable (c : Coordinator MemoryContent) : Prop :=
  ∃ content, c.store = some content ∧
    (memoryPersistenceStore.load content).status = .ok ∧
    (memoryPersistenceStore.load content).state = some (toPersistedState c.canonical)

/-! ## Storable runs -/

variable [StdSort]

/-- A request or a fence that a state can be read back after. The decoder admits
no more fenced incarnations than racks. -/
def StorableEvent (s : ClusterState) : Event → Prop
  | .submit request _ =>
    StorableRequest request ∧ s.fencedAuthorities.length ≤ maxRacksPerCluster
  | .fence boot reason _ _ =>
    if s.isBootFenced boot then s.fencedAuthorities.length ≤ maxRacksPerCluster
    else s.fencedAuthorities.length < maxRacksPerCluster ∧ isUnbounded reason = false
  | .restart _ => True

/-- What every state of a storable run is. -/
structure Restorable (s : ClusterState) : Prop where
  sound : Sound s
  grounded : Grounded s
  storable : Storable s

theorem restorable_of_initial {s : ClusterState} (h : Initial s) : Restorable s := by
  refine ⟨inductive_sound.initial h, inductive_grounded.initial h, ?_⟩
  obtain ⟨config, epoch, hepoch, rfl⟩ := h
  exact
    { racks := .empty
      domains := fun _ => .empty
      links := .empty
      constraints := .empty
      fenced := fun _ hmem => nomatch hmem
      coordinatorEpoch := hepoch
      scalars := fun hdeclared => absurd hdeclared Bool.false_ne_true
      contract := fun hdeclared => absurd hdeclared Bool.false_ne_true
      retired := fun _ hmem => nomatch hmem }

theorem restorable_of_slips {s : ClusterState} (h : Restorable s) (hslips : Slips s s') :
    Restorable s' := by
  refine ⟨inductive_sound.slips h.sound hslips, inductive_grounded.slips h.grounded hslips, ?_⟩
  obtain ⟨request, hother, rfl⟩ := hslips
  have hundeclared : ¬ s.epoch.known = true := by simp [hother.undeclared]
  exact
    { h.storable with
      scalars := fun hdeclared => absurd hdeclared hundeclared
      contract := fun hdeclared => absurd hdeclared hundeclared
      retired := h.storable.retired }

theorem restorable_of_recovers {s : ClusterState} (h : Restorable s)
    (hrecovers : Recovers (toPersistedState s) s') : Restorable s' := by
  refine ⟨inductive_sound.recovers h.sound hrecovers,
    inductive_grounded.recovers h.grounded hrecovers,
    ?_⟩
  obtain ⟨epoch, now, hepoch, rfl⟩ := hrecovers
  exact storable_recovered h.sound h.storable hepoch now

/-- The cluster with the steps that keep states restorable. -/
abbrev restorableSystem : RecoverySystem ClusterState PersistedState :=
  clusterSystem.confine Restorable fun s s' => Restorable s → Restorable s'

/-- Storable commits and whatever else happens keep states restorable. -/
theorem inductive_restorable : restorableSystem.Inductive Restorable :=
  RecoverySystem.inductive_confine restorable_of_recovers

/-- A commit that leaves a restorable state and room for its fenced list. -/
structure RestorableCommit (s s' : ClusterState) : Prop where
  evolves : Evolves s s'
  restorable : Restorable s'
  room : s'.fencedAuthorities.length ≤ maxRacksPerCluster

theorem restorableCommit_of_applied {s s₁ : ClusterState} (h : Restorable s)
    {config : CoordinatorConfig} (hstorable : StorableEvent s (.submit request now))
    (hauthorized : Authorized s request) (happlied : Applied config now s request s₁)
    (hok : (checkInvariants (reevaluate s₁) none).isOk = true)
    (hnext : s₁.generation.next = some g) : RestorableCommit s (committed s₁ g now) := by
  obtain ⟨hrequest, hroom⟩ := hstorable
  have hevolves : Evolves s (committed s₁ g now) := .accepted hauthorized happlied hok hnext
  refine ⟨hevolves, ⟨inductive_sound.evolves h.sound hevolves,
    inductive_grounded.evolves h.grounded hevolves, ?_⟩, ?_⟩
  · exact storable_committed
      (storable_of_applied h.sound h.storable hauthorized hrequest happlied) hnext now
  · change s₁.fencedAuthorities.length ≤ _
    rw [fencedAuthorities_of_applied happlied]
    exact hroom

theorem restorableCommit_of_fenced {s : ClusterState} (h : Restorable s) {boot : RackAgentBootId}
    {reason : Text} {fencedAt : Timestamp} {health : HealthGeneration}
    (hstorable : StorableEvent s (.fence boot reason fencedAt now))
    (hpublished : publishedBy s boot = true) (hg : s.generation.next = some g)
    (hhealth : s.healthGeneration.next = some health) :
    RestorableCommit s (committedFence (fencedState s boot reason fencedAt) g health now) := by
  have hevolves : Evolves s _ :=
    .fenced reason fencedAt now (h.grounded.declared hpublished) hpublished hg hhealth
  have hgenerations := generation_fencedState s boot reason fencedAt
  unfold StorableEvent at hstorable
  dsimp only at hstorable
  refine ⟨hevolves, ⟨inductive_sound.evolves h.sound hevolves,
    inductive_grounded.evolves h.grounded hevolves, ?_⟩, ?_⟩
  · refine storable_committedFence
      (storable_fencedState h.storable hpublished (fun hnot => ?_) fencedAt)
      (hgenerations.1.symm ▸ hg) (hgenerations.2.symm ▸ hhealth) now
    rw [hnot, if_neg Bool.false_ne_true] at hstorable
    exact hstorable.2
  · change (fencedState s boot reason fencedAt).fencedAuthorities.length ≤ _
    unfold fencedState
    split_ifs with hlisted
    · rw [if_pos hlisted] at hstorable
      exact hstorable
    · rw [if_neg hlisted] at hstorable
      simp only [addFenced, length_sortBy, List.length_append, List.length_singleton]
      exact hstorable.1

/-- What a restorable commit saves is returned. -/
theorem RestorableCommit.load_save {s : ClusterState} (hcommit : RestorableCommit s s')
    {content : MemoryContent}
    (hok : (memoryPersistenceStore.save (toPersistedState s') content).1.ok = true) :
    memoryPersistenceStore.load (memoryPersistenceStore.save (toPersistedState s') content).2 =
      { status := .ok, state := some (toPersistedState s') } := by
  have hdeclared : s'.epoch.known = true := clusterSystem.declared_of_evolves hcommit.evolves
  have hsound := hcommit.restorable.sound
  have hstorable := hcommit.restorable.storable
  exact load_save_memory (valid_image hsound hstorable hdeclared)
    (readable_image hsound hstorable hdeclared hcommit.room) hok

theorem recoverable_of_commit {c' : Coordinator MemoryContent}
    (hpersisting : Persisting c.config c.store)
    (hsaved : Saved memoryPersistenceStore c.config c.store c'.canonical c'.store)
    (hcommit : RestorableCommit c.canonical c'.canonical) : Recoverable c' := by
  generalize hstore' : c'.store = store' at hsaved
  cases hsaved with
  | skipped h => exact absurd hpersisting h
  | saved _ _ hok =>
    have hload := hcommit.load_save hok
    exact ⟨_, hstore', by rw [hload], by rw [hload]⟩

/-- What the store of a persisting coordinator loads after an accepted request. -/
theorem loadStatus_of_accepted (hpersisting : Persisting c.config c.store)
    (h : (applyAndCommit memoryPersistenceStore c request now).2.outcome = .accepted) :
    (applyAndCommit memoryPersistenceStore c request now).1.store.map
        (fun content => (memoryPersistenceStore.load content).status) =
      some (match decodePayload ((writeState (toPersistedState
          (applyAndCommit memoryPersistenceStore c request now).1.canonical)).output {}).data with
        | .error failure => failure.status
        | .ok _ => .ok) := by
  obtain ⟨-, s, g, -, hcommitted⟩ := committed_of_accepted memoryPersistenceStore h
  have hsaved := hcommitted.saved
  rw [← hcommitted.canonical] at hsaved
  generalize (applyAndCommit memoryPersistenceStore c request now).1.canonical = s' at hsaved ⊢
  generalize (applyAndCommit memoryPersistenceStore c request now).1.store = store' at hsaved ⊢
  cases hsaved with
  | skipped hskipped => exact absurd hpersisting hskipped
  | saved _ _ hok =>
    rw [Option.map_some, load_saved hok]
    cases decodePayload ((writeState (toPersistedState s')).output {}).data with
    | error failure => rfl
    | ok q => rfl

/-- What is left of a coordinator over an in-memory store when only states
matter. -/
def memoryAbstraction (c : Coordinator MemoryContent) : ClusterState × Option PersistedState :=
  (c.canonical, loadedFrom c.store)

/-- A commit of a storable event is restorable. -/
theorem restorableCommit_of_changes {s : ClusterState} (h : Restorable s)
    (hstorable : StorableEvent s event) (hevolves : Evolves s s') (hchanges : Changes s event s') :
    RestorableCommit s s' := by
  cases hchanges with
  | accepted hauthorized happlied hok hnext =>
    exact restorableCommit_of_applied h hstorable hauthorized happlied hok hnext
  | fenced hdeclared hpublished hg hh =>
    exact restorableCommit_of_fenced h hstorable hpublished hg hh
  | renamed hother =>
    have hdeclared := clusterSystem.declared_of_evolves hevolves
    change s.epoch.known = true at hdeclared
    simp [hother.undeclared] at hdeclared

/-- Every storable event is a step of the system confined to restorable states. -/
theorem step_storable (h : Restorable c.canonical) (hevent : StorableEvent c.canonical event) :
    restorableSystem.Step (Persisting c.config c.store) (memoryAbstraction c)
      (memoryAbstraction (step memoryPersistenceStore c event)) := by
  refine (step_change reads_memory c event h.grounded fun s' hevolves hchanges content hok => ?_)
    |>.mono_confine (fun s hinitial _ => restorable_of_initial hinitial)
      (fun s' hevolves hchanges _ =>
        (restorableCommit_of_changes h hevent hevolves hchanges).restorable)
      (fun s' hslips _ _ => restorable_of_slips h hslips)
  have hload := (restorableCommit_of_changes h hevent hevolves hchanges).load_save hok
  rw [hload]
  rfl

theorem restorable_run (hc : restorableSystem.Holds Restorable (memoryAbstraction c))
    {events : List Event}
    (halong : Along (step memoryPersistenceStore) (fun c => StorableEvent c.canonical) c events) :
    Restorable (run memoryPersistenceStore c events).canonical := by
  have hrun := runFrom_invariant_along
    (P := fun c => restorableSystem.Holds Restorable (memoryAbstraction c))
    (step memoryPersistenceStore)
    (fun c event hc hevent => inductive_restorable.step (step_storable hc.1 hevent) hc) hc halong
  exact hrun.1

/-- A coordinator at the start of a cluster that saves its commits to an
in-memory store, which holds nothing that loads. -/
def StartedInMemory (c : Coordinator MemoryContent) : Prop :=
  ∃ config content now, config.persistOnCommit = true ∧
    (memoryPersistenceStore.load content).loaded = none ∧
    c = start memoryPersistenceStore config (some content) now

theorem StartedInMemory.initial (h : StartedInMemory c) :
    Initial c.canonical ∧ loadedFrom c.store = none ∧ Persisting c.config c.store := by
  obtain ⟨config, content, now, hpersist, hnothing, rfl⟩ := h
  unfold start
  simp only [Option.map_some, Option.bind_some, hnothing]
  exact ⟨⟨config, _, known_nextEpoch _, rfl⟩, hnothing, rfl, hpersist⟩

/-- **Committed state can be read back.** In a run from the start of a cluster
over an in-memory store, all of whose requests and fences are storable, the store
returns the state of every accepted request and of every effective fence. -/
theorem commits_recoverable {c₀ : Coordinator MemoryContent} (hstarted : StartedInMemory c₀)
    {events : List Event}
    (halong : Along (step memoryPersistenceStore) (fun c => StorableEvent c.canonical) c₀ events) :
    let c := run memoryPersistenceStore c₀ events
    (∀ request now, StorableEvent c.canonical (.submit request now) →
      (applyAndCommit memoryPersistenceStore c request now).2.outcome = .accepted →
      Recoverable (applyAndCommit memoryPersistenceStore c request now).1) ∧
    (∀ boot reason fencedAt now, StorableEvent c.canonical (.fence boot reason fencedAt now) →
      (applyFence memoryPersistenceStore c boot reason fencedAt now).fenceEvents ≠ c.fenceEvents →
      Recoverable (applyFence memoryPersistenceStore c boot reason fencedAt now)) := by
  obtain ⟨hinitial, hnothing, hpersisting₀⟩ := hstarted.initial
  have hholds : restorableSystem.Holds Restorable (memoryAbstraction c₀) := by
    refine ⟨restorable_of_initial hinitial, fun p hp => ?_⟩
    exact nomatch hnothing.symm.trans hp
  have hpersisting := (persisting_run memoryPersistenceStore events).mpr hpersisting₀
  have hrestorable := restorable_run hholds halong
  intro c
  refine ⟨fun request now hstorable haccepted => ?_,
    fun boot reason fencedAt now hstorable heffective => ?_⟩
  · obtain ⟨hauthorized, s, g, happlied, hcommitted⟩ :=
      committed_of_accepted memoryPersistenceStore haccepted
    have hcommit := restorableCommit_of_applied hrestorable hstorable hauthorized happlied
      hcommitted.isOk hcommitted.next
    rw [← hcommitted.canonical] at hcommit
    exact recoverable_of_commit hpersisting (hcommitted.canonical ▸ hcommitted.saved) hcommit
  · obtain ⟨-, -, -, hevents⟩ | ⟨hpublished, hg, hh, hcanonical, hsaved, -, -⟩ :=
      applyFence_cases memoryPersistenceStore c boot reason fencedAt now
    · exact absurd hevents heffective
    · have hcommit := restorableCommit_of_fenced hrestorable hstorable hpublished hg hh
      rw [← hcanonical] at hcommit
      exact recoverable_of_commit hpersisting hsaved hcommit

end Coordinator

section Example

namespace Coordinator

open scoped StdSort

/-- A coordinator of cluster `alpha`, started on an empty in-memory store. -/
def memoryStart : Coordinator MemoryContent :=
  start memoryPersistenceStore { cluster := .named "alpha" } (some {}) ⟨1⟩

theorem storableRequest_declaration : StorableRequest declaration where
  contract := fun _ => ⟨by decide, by decide, by decide, by decide, by decide, by decide⟩
  registration := fun h => nomatch h
  admission := fun h => nomatch h
  update := fun h => nomatch h
  recovery := fun h => nomatch h
  domain := fun _ _ h => nomatch h
  link := fun h => nomatch h
  constraint := fun h => nomatch h

theorem storableRequest_publishedRack : StorableRequest (publishedRack "r1" "b1") where
  contract := fun h => nomatch h
  registration := fun h => nomatch h
  admission := fun _ =>
    { publisher := by rintro _ ⟨⟩; decide +kernel
      boot := by decide +kernel
      endpoints := fun _ hmem => nomatch hmem
      hints := fun _ hmem => nomatch hmem }
  update := fun h => nomatch h
  recovery := fun h => nomatch h
  domain := fun _ _ h => nomatch h
  link := fun h => nomatch h
  constraint := fun h => nomatch h

/-- A declared cluster and its first rack can be read back. -/
theorem commits_recoverable_publication :
    let c := run memoryPersistenceStore memoryStart [.submit declaration ⟨2⟩]
    let out := applyAndCommit memoryPersistenceStore c (publishedRack "r1" "b1") ⟨3⟩
    out.2.outcome = .accepted ∧ Recoverable out.1 := by
  have halong : Along (step memoryPersistenceStore) (fun c => StorableEvent c.canonical) memoryStart
      [.submit declaration ⟨2⟩] := ⟨⟨storableRequest_declaration, by decide +kernel⟩, trivial⟩
  have hstorable : StorableEvent
      (run memoryPersistenceStore memoryStart [.submit declaration ⟨2⟩]).canonical
      (.submit (publishedRack "r1" "b1") ⟨3⟩) :=
    ⟨storableRequest_publishedRack, by decide +kernel⟩
  have haccepted : (applyAndCommit memoryPersistenceStore
      (run memoryPersistenceStore memoryStart [.submit declaration ⟨2⟩])
      (publishedRack "r1" "b1") ⟨3⟩).2.outcome = .accepted := by decide +kernel
  have hstarted : StartedInMemory memoryStart := ⟨_, _, _, rfl, rfl, rfl⟩
  exact ⟨haccepted, (commits_recoverable hstarted halong).1 _ _ hstorable haccepted⟩

/-- A recovery of rack `r1` by a new incarnation, with its endpoints out of
order. -/
def unsortedRecovery : MutationRequest where
  kind := .recoverRack
  cluster := .named "alpha"
  authority :=
    { clusterEpoch := .fromRaw 1
      coordinatorEpoch := .fromRaw 2
      publisher := some (.named "agent")
      boot := some (.named "b2")
      rack := some (.named "r1") }
  rackReference :=
    { rack := .named "r1"
      endpoints := [{ id := .named "e2" }, { id := .named "e1" }] }
  evidence := .make .reported ⟨4⟩ 0

/-- An accepted recovery takes the endpoints as they come, and the container that
was saved is rejected. -/
theorem unsorted_recovery_rejected :
    let c := run memoryPersistenceStore memoryStart
      rackEvents
    let out := applyAndCommit memoryPersistenceStore c unsortedRecovery ⟨4⟩
    out.2.outcome = .accepted ∧
      out.1.store.map (fun content => (memoryPersistenceStore.load content).status) =
        some .invalidState := by
  have hpersisting := (persisting_run (c := memoryStart) memoryPersistenceStore
    rackEvents).mpr ⟨rfl, rfl⟩
  have haccepted : (applyAndCommit memoryPersistenceStore (run memoryPersistenceStore memoryStart
      rackEvents)
      unsortedRecovery ⟨4⟩).2.outcome = .accepted := by decide +kernel
  -- The saved payload is decoded without running the checksum over it.
  have hstatus := loadStatus_of_accepted hpersisting haccepted
  exact ⟨haccepted, hstatus.trans (by decide +kernel)⟩

end Coordinator

end Example

end ClusterFabric
