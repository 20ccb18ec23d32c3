import ClusterFabric.Verify.AgentCalls
import ClusterFabric.Verify.Completeness
import ClusterFabric.Verify.Disconnect
import ClusterFabric.Verify.Permanence
import ClusterFabric.Verify.Recovery

/-! # Republication by a fresh incarnation

What becomes of the rack and the links of an agent when a new incarnation of it connects
and publishes after a restart or a fence. The rack is admitted again. A link is compared
with the recorded one together with its incarnation and the epochs of its header, so
that it conflicts with itself and stays as it is (`rejoined_restores_iff`).
-/

namespace ClusterFabric

open Lib
open Txn

variable {s' : ClusterState} {now : Timestamp} {agent : RackAgent} {links : List InterRackLink}
  {reference : RackReference} {k : DomainKind}

namespace Coordinator

/-! ## Retired racks stay retired -/

/-- A recorded rack whose identity is retired is a retired member. -/
def RetiredStay (s : ClusterState) : Prop :=
  ∀ rack record, s.racks.find? rack = some record → s.isRackRetired rack = true →
    record.membership = .retired

section Retired

variable {s : ClusterState} {record : RackRecord} {request : MutationRequest}

theorem RetiredStay.insert (h : RetiredStay s) {rack : RackId}
    (hracks : s'.racks = s.racks.insertOrAssign rack record)
    (hlist : s'.retiredRacks = s.retiredRacks)
    (hrack : s.isRackRetired rack = true → record.membership = .retired) : RetiredStay s' := by
  intro r record' hfind hlisted
  rw [ClusterState.isRackRetired, hlist, ← ClusterState.isRackRetired] at hlisted
  rw [hracks, StdMap.find?_insertOrAssign] at hfind
  split_ifs at hfind with hr
  · obtain rfl := Option.some.inj hfind
    exact hrack (hr ▸ hlisted)
  · exact h r record' hfind hlisted

theorem RetiredStay.demoted (h : RetiredStay s) (hdemoted : DemotedRecords s s')
    (hlist : ∀ rack, s'.isRackRetired rack = s.isRackRetired rack) : RetiredStay s' := by
  intro rack record hfind hlisted
  rw [hlist] at hlisted
  have hmembership := hdemoted.membership rack
  rw [hfind, Option.map_some] at hmembership
  obtain ⟨record₀, hfind₀, hsame⟩ := Option.map_eq_some_iff.mp hmembership.symm
  exact hsame.symm.trans (h rack record₀ hfind₀ hlisted)

variable [StdSort]

/-- A rack is listed as retired when it becomes so, and what is retired stays. -/
theorem RetiredStay.moved (h : RetiredStay s) {target : RackMembershipState}
    {m : MembershipGeneration} (hfind : s.racks.find? request.targetRack = some record)
    (hretired : record.membership = .retired → target = .retired) :
    RetiredStay (movedState now s request target record m) := by
  intro rack record' hfind' hlisted
  unfold ClusterState.isRackRetired at hlisted
  dsimp only at hfind' hlisted
  rw [StdMap.find?_insertOrAssign] at hfind'
  have hmembership : (movedRecord request target record).membership = target := by
    unfold movedRecord
    split_ifs <;> rfl
  split_ifs at hfind' with hrack <;> split_ifs at hlisted with htarget
  · obtain rfl := Option.some.inj hfind'
    exact hmembership.trans htarget
  · obtain rfl := Option.some.inj hfind'
    exact absurd (hretired (h _ record hfind (hrack ▸ hlisted))) htarget
  · rcases isRackRetired_addRetired.mp hlisted with hold | hsame
    · exact h rack record' hfind' hold
    · exact absurd hsame.symm hrack
  · exact h rack record' hfind' hlisted

theorem retiredStay_of_applied {config : CoordinatorConfig} (h : RetiredStay s)
    (happlied : Applied config now s request s') : RetiredStay s' := by
  cases happlied
  case registered hretired _ _ _ _ | admitted hretired _ _ _ _ _
    | recovered hretired _ _ _ _ _ _ =>
    exact h.insert rfl rfl fun hlisted => by simp [hretired] at hlisted
  case updated hfind _ _ _ _ _ | healthPublished hfind _ _ _ _ _ | evidenceWithdrawn hfind _ _ =>
    have hstays := h _ _ hfind
    exact h.insert rfl rfl hstays
  case moved hfind _ _ hretired _ => exact h.moved hfind hretired
  case clusterRetired =>
    intro rack record hfind hlisted
    dsimp only at hfind
    rw [StdMap.find?_updateWhere, Option.map_eq_some_iff] at hfind
    obtain ⟨record₀, hfind₀, rfl⟩ := hfind
    have hstays := h rack record₀ hfind₀ hlisted
    split_ifs
    · exact hstays
    · exact hstays
  all_goals exact h

theorem inductive_retiredStay : clusterSystem.Inductive fun s => Sound s ∧ RetiredStay s where
  initial := by
    rintro _ ⟨config, epoch, hepoch, rfl⟩
    refine ⟨inductive_sound.initial ⟨config, epoch, hepoch, rfl⟩, fun rack record hfind => ?_⟩
    exact nomatch hfind
  evolves := by
    rintro s s' ⟨hsound, h⟩ hevolves
    refine ⟨inductive_sound.evolves hsound hevolves, ?_⟩
    rcases hevolves with ⟨-, happlied, -, -⟩ | ⟨reason, fencedAt, now, -, -, hg, -⟩
    · have hstays := retiredStay_of_applied h happlied
      exact hstays
    · rename_i boot g health
      have hdemotes := demotes_fence s boot reason fencedAt now hg health
      exact h.demoted hdemotes.toDemotedRecords hdemotes.isRackRetired
  slips := by
    rintro s s' ⟨hsound, h⟩ hslips
    refine ⟨inductive_sound.slips hsound hslips, ?_⟩
    obtain ⟨request, -, rfl⟩ := hslips
    exact h
  recovers := by
    rintro s s' ⟨hsound, h⟩ hrecovers
    refine ⟨inductive_sound.recovers hsound hrecovers, ?_⟩
    obtain ⟨epoch, now, hepoch, rfl⟩ := hrecovers
    have hdemotes := demotes_recovered hepoch now (fun id link hfind => (hsound.linkOk hfind).id_eq)
      hsound.toKeyed
    exact h.demoted hdemotes.toDemotedRecords hdemotes.isRackRetired

end Retired

/-! ## What a restart or a fence leaves -/

/-- The state was reached by a restart, or by a fence of the incarnation that was
committed. -/
inductive Invalidated [StdSort] {σ : Type} (ops : PersistenceStore σ) (boot : RackAgentBootId)
    (c c' : Coordinator σ) : Prop
  | restarted (now : Timestamp) (hstep : c' = step ops c (.restart now))
  | fenced (reason : Text) (fencedAt now : Timestamp)
      (hstep : c' = step ops c (.fence boot reason fencedAt now))
      (hcommitted : c'.fenceEvents = c.fenceEvents + 1)

/-- Nothing that is recorded under the incarnation is current, and it is fenced. -/
structure Silenced (s : ClusterState) (boot : RackAgentBootId) : Prop where
  racks : ∀ rack record, s.racks.find? rack = some record → record.reference.boot = boot →
    record.authoritativeCurrent = false ∧ s.isBootFenced boot = true
  links : ∀ id link, s.links.find? id = some link → link.boot = some boot →
    link.header.evidence.isCurrent = false

section Invalidated

variable [StdSort] {σ : Type} {boot : RackAgentBootId} {c c' : Coordinator σ}

theorem silenced_committedFence (s : ClusterState) (boot : RackAgentBootId) (reason : Text)
    (fencedAt : Timestamp) (g : ClusterGeneration) (h : HealthGeneration) (now : Timestamp) :
    Silenced (committedFence (fencedState s boot reason fencedAt) g h now) boot where
  racks := by
    intro rack record hfind hboot
    refine ⟨Bool.eq_false_iff.mpr fun hcurrent => ?_, ?_⟩
    · exact (authoritative_of_fenced hfind hcurrent).2 hboot
    · exact (isBootFenced_fencedState s boot reason fencedAt).mpr (.inr rfl)
  links := by
    intro id link hfind hboot
    exact Bool.eq_false_iff.mpr fun hcurrent => (current_of_fenced hfind hcurrent).2 hboot

theorem silenced_start (ops : PersistenceStore σ) (config : CoordinatorConfig) (store : Option σ)
    (now : Timestamp) (boot : RackAgentBootId) :
    Silenced (start ops config store now).canonical boot := by
  unfold start
  dsimp only
  split
  · rename_i p _
    have hrecovered := conservative_fromPersistedState p (nextEpoch p.lastCoordinatorEpoch) now
    refine ⟨fun rack record hfind hboot => ?_, fun id link hfind _ => ?_⟩
    · subst hboot
      exact ⟨hrecovered.rackNotCurrent rack record hfind, hrecovered.rackFenced rack record hfind⟩
    · exact hrecovered.linkNotCurrent id link hfind
  · exact ⟨fun _ _ hfind => (nomatch hfind), fun _ _ hfind => (nomatch hfind)⟩

theorem Invalidated.silenced {ops : PersistenceStore σ} (h : Invalidated ops boot c c') :
    Silenced c'.canonical boot := by
  cases h with
  | restarted now hstep =>
    subst hstep
    exact silenced_start ops c.config c.store now boot
  | fenced reason fencedAt now hstep hcommitted =>
    subst hstep
    have hcases := applyFence_cases ops c boot reason fencedAt now
    change (applyFence ops c boot reason fencedAt now).fenceEvents = _ at hcommitted
    change Silenced (applyFence ops c boot reason fencedAt now).canonical boot
    generalize applyFence ops c boot reason fencedAt now = out at hcases hcommitted ⊢
    cases hcases with
    | ineffective _ _ _ hevents => omega
    | effective _ _ _ hcanonical _ _ _ =>
      rw [hcanonical]
      exact silenced_committedFence c.canonical boot reason fencedAt _ _ now

theorem Invalidated.reachable {fs : FaithfulStore σ}
    (h : Invalidated fs.ops boot c c') (hreachable : Reachable fs c) :
    Reachable fs c' := by
  cases h with
  | restarted now hstep =>
    subst hstep
    exact hreachable.run [.restart now]
  | fenced reason fencedAt now hstep _ =>
    subst hstep
    exact hreachable.run [.fence boot reason fencedAt now]

end Invalidated

/-! ## What was accepted before -/

/-- The reference that an agent of the configuration makes is valid, and has the content
that is recorded. -/
def AcceptedReference [StdSort] (config : RackAgentConfig) (record : RackRecord) : Prop :=
  ∃ (agent : RackAgent) (used : PublicationGeneration) (observedAt : Timestamp),
    agent.config = config ∧ agent.generation = config.generation ∧
    (validateRackReference (canonicalize (agent.makeReference used observedAt))).isOk = true ∧
    sameAuthoritativeContent record.reference
      (canonicalize (agent.makeReference used observedAt)) = true

/-- The rack and the links of a configuration are recorded under an incarnation as an
agent of the configuration published them, and the rack is an active member. -/
structure Held [StdSort] {σ : Type} (c : Coordinator σ) (config : RackAgentConfig)
    (boot : RackAgentBootId) (record : RackRecord) : Prop where
  cluster_eq : config.cluster = c.config.cluster
  id_eq : config.cluster = c.canonical.id
  bounds : (RackAgent.make config boot).exceededBound = none
  find_eq : c.canonical.racks.find? config.rack = some record
  active : record.membership = .active
  boot_eq : record.reference.boot = boot
  publisher_eq : record.reference.publisher = some config.publisher
  generation_eq : record.reference.generation = config.generation
  reference : AcceptedReference config record
  links : ∀ link ∈ config.links, ∃ recorded, c.canonical.links.find? link.id = some recorded ∧
    recorded.boot = some boot ∧ link.header.generation ≤ recorded.header.generation

section Held

variable [StdSort]

/-- What an agent publishes of its configuration and generation does not depend on its
incarnation, its counter, its clock or the epochs it knows. -/
theorem reference_of_agent {agent₀ : RackAgent} (hconfig : agent.config = agent₀.config)
    (hgeneration : agent.generation = agent₀.generation) {used₀ : PublicationGeneration}
    {observedAt₀ : Timestamp}
    (hvalid : (validateRackReference
      (canonicalize (agent₀.makeReference used₀ observedAt₀))).isOk = true)
    (hcontent : sameAuthoritativeContent reference
      (canonicalize (agent₀.makeReference used₀ observedAt₀)) = true)
    (used : PublicationGeneration) (observedAt : Timestamp) :
    (validateRackReference (canonicalize (agent.makeReference used observedAt))).isOk = true ∧
    sameAuthoritativeContent reference
      (canonicalize (agent.makeReference used observedAt)) = true := by
  obtain ⟨config₁, boot₁, build₁, generation₁⟩ := agent
  obtain ⟨config₂, boot₂, build₂, generation₂⟩ := agent₀
  dsimp only at hconfig hgeneration
  subst hconfig hgeneration
  refine ⟨hvalid, ?_⟩
  unfold sameAuthoritativeContent at hcontent ⊢
  dsimp only at hcontent ⊢
  rw [decide_eq_true_eq, RackReference.mk.injEq] at hcontent ⊢
  -- the incarnation is the only one of these fields in which the agents differ
  obtain ⟨hrack, hgeneration, hlifecycle, hcurrentness, hcomposition, hendpoints, hhints, hevidence,
    hpublisher, hpublication, -, hclusterEpoch, hcoordinatorEpoch, hhealth, hlabel⟩ := hcontent
  exact ⟨hrack, hgeneration, hlifecycle, hcurrentness, hcomposition, hendpoints, hhints, hevidence,
    hpublisher, hpublication, rfl, hclusterEpoch, hcoordinatorEpoch, hhealth, hlabel⟩

theorem AcceptedReference.of_agent {config : RackAgentConfig} {record : RackRecord}
    (h : AcceptedReference config record) {agent : RackAgent} (hconfig : agent.config = config)
    (hgeneration : agent.generation = config.generation) (used : PublicationGeneration)
    (observedAt : Timestamp) :
    (validateRackReference (canonicalize (agent.makeReference used observedAt))).isOk = true ∧
    sameAuthoritativeContent record.reference
      (canonicalize (agent.makeReference used observedAt)) = true := by
  obtain ⟨agent₀, used₀, observedAt₀, hconfig₀, hgeneration₀, hvalid, hcontent⟩ := h
  exact reference_of_agent (hconfig.trans hconfig₀.symm)
    (hgeneration.trans hgeneration₀.symm) hvalid
    hcontent used observedAt

end Held

/-! ## What the publications of a topology keep -/

/-- The rack is recorded, and is current or not. -/
def RackStands (rack : RackId) (current : Bool) (s : ClusterState) : Prop :=
  ∃ record, s.racks.find? rack = some record ∧ record.authoritativeCurrent = current

/-- The links of a configuration are recorded at generations that are not older, and none
is current. -/
def LinksStale (config : RackAgentConfig) (s : ClusterState) : Prop :=
  ∀ link ∈ config.links, ∃ recorded, s.links.find? link.id = some recorded ∧
    recorded.header.evidence.isCurrent = false ∧
    link.header.generation ≤ recorded.header.generation

section Requests

variable [StdSort] {σ : Type} {ops : PersistenceStore σ} {request : MutationRequest}
  {Q : Coordinator σ → Prop} {s : ClusterState}

/-- A property of the records that a completed request keeps is kept by its commit. -/
theorem keeps_applyAndCommit {Q : ClusterState → Prop} {c : Coordinator σ}
    (hkind : request.kind ≠ .declareCluster) (hQ : Q c.canonical)
    (happlied : ∀ s', Applied c.config now c.canonical request s' → Q s')
    (hcommit : ∀ s g, Q s → Q (committed s g now)) :
    Q (applyAndCommit ops c request now).1.canonical := by
  have hcases := applyAndCommit_cases ops c request now
  generalize applyAndCommit ops c request now = out at hcases ⊢
  cases hcases with
  | accepted _ _ hdone hcommitted =>
    rw [hcommitted.canonical]
    exact hcommit _ _ (happlied _ hdone)
  | refused _ _ hcanonical _ _ =>
    rw [hcanonical]
    exact hQ
  | renamed _ hother _ _ _ _ => exact absurd hother.kind_eq hkind

/-- The publication of a domain leaves racks and links. -/
theorem records_of_domain {config : CoordinatorConfig} (hkind : request.kind.domainKind = some k)
    (happlied : Applied config now s request s') : s'.racks = s.racks ∧ s'.links = s.links := by
  obtain ⟨_, _, _, -, -, -, -, rfl⟩ := happlied.of_domain hkind
  exact ⟨rfl, rfl⟩

/-- The publication of a link leaves racks, and replaces a link of an older generation. -/
theorem records_of_link {config : CoordinatorConfig} {link : InterRackLink}
    (hkind : request.kind = .publishInterRackLink) (hlink : request.link = some link)
    (happlied : Applied config now s request s') :
    s'.racks = s.racks ∧ ∀ existing, s.links.find? link.id = some existing →
      existing.header.generation < link.header.generation := by
  cases happlied
  case linkPublished hpayload _ hover _ _ _ =>
    obtain rfl := Option.some.inj (hpayload.symm.trans hlink)
    exact ⟨rfl, hover⟩
  all_goals simp_all [MutationKind.membershipTarget, MutationKind.domainKind]

/-- An open session of an incarnation, with a property of its coordinator. -/
structure Serving (boot : RackAgentBootId) (Q : Coordinator σ → Prop) (peer : SessionPeer σ) :
    Prop where
  session_boot : peer.session.boot = some boot
  handshakeDone : peer.session.handshakeDone = true
  opened : peer.session.ended = false
  holds : Q peer.coordinator

variable {digest : ClusterState → Text} {clock : Nat → Timestamp × Timestamp}

/-- What the request that a session makes of a publication keeps, the exchange keeps. -/
theorem Serving.exchange {boot : RackAgentBootId} {peer : SessionPeer σ} (h : Serving boot Q peer)
    (hkeeps : ∀ now, Q (applyAndCommit ops peer.coordinator (peer.session.publication request)
      now).1) :
    Serving boot Q
      ((sessionTransport ops digest clock).exchange peer (.publishRequest (some request))).1 := by
  rw [exchange_publish h.opened h.handshakeDone]
  exact ⟨h.session_boot, h.handshakeDone, h.opened, hkeeps _⟩

variable {config : RackAgentConfig} {boot : RackAgentBootId} {observedAt : Timestamp}

/-- What the requests of a topology keep of a coordinator, its publication keeps. -/
theorem keepsTopology_serving
    (hlinks : ∀ link ∈ config.links, ∀ request : MutationRequest,
      request.kind = .publishInterRackLink →
      (∃ agent used, request.link = (RackAgent.linkRequest observedAt agent used link).link) →
      ∀ c now, Q c → Q (applyAndCommit ops c request now).1)
    (hdomains : ∀ (request : MutationRequest) (k : DomainKind), request.kind.domainKind = some k →
      ∀ c now, Q c → Q (applyAndCommit ops c request now).1) :
    KeepsTopology (sessionTransport ops digest clock) (Serving boot Q) config observedAt where
  links := by
    intro link hlink agent used peer hserving
    refine hserving.exchange fun now => ?_
    exact hlinks link hlink _ rfl ⟨agent, used, rfl⟩ _ now hserving.holds
  failureDomains := by
    intro domain _ agent used peer hserving
    exact hserving.exchange fun now => hdomains _ .failure rfl _ now hserving.holds
  placementDomains := by
    intro domain _ agent used peer hserving
    exact hserving.exchange fun now => hdomains _ .placement rfl _ now hserving.holds

omit [StdSort] in
theorem ne_declareCluster_of_domainKind {kind : MutationKind} (h : kind.domainKind = some k) :
    kind ≠ .declareCluster := by
  rintro rfl
  exact nomatch h

/-- No publication of a topology touches a rack. -/
theorem keepsTopology_rackStands (rack : RackId) (current : Bool) :
    KeepsTopology (sessionTransport ops digest clock)
      (Serving boot fun c => RackStands rack current c.canonical) config observedAt := by
  refine keepsTopology_serving (fun link _ request hkind hpayload c now hstands => ?_)
    fun request k hkind c now hstands => ?_
  · obtain ⟨agent, used, hpayload⟩ := hpayload
    refine keeps_applyAndCommit (by simp [hkind]) hstands (fun s' happlied => ?_) fun _ _ h => h
    rw [RackStands, (records_of_link hkind hpayload happlied).1]
    exact hstands
  · refine keeps_applyAndCommit (ne_declareCluster_of_domainKind hkind) hstands
      (fun s' happlied => ?_) fun _ _ h => h
    rw [RackStands, (records_of_domain hkind happlied).1]
    exact hstands

/-- A link is not published again at a generation that is recorded. -/
theorem keepsTopology_linksStale :
    KeepsTopology (sessionTransport ops digest clock)
      (Serving boot fun c => LinksStale config c.canonical) config observedAt := by
  refine keepsTopology_serving (fun link hlink request hkind hpayload c now hstale => ?_)
    fun request k hkind c now hstale => ?_
  · obtain ⟨agent, used, hpayload⟩ := hpayload
    refine keeps_applyAndCommit (by simp [hkind]) hstale (fun s' happlied => ?_) fun _ _ h => h
    obtain ⟨recorded, hfind, -, hle⟩ := hstale link hlink
    have hrecords := records_of_link hkind hpayload happlied
    exact absurd hle (not_le.mpr (hrecords.2 recorded hfind))
  · refine keeps_applyAndCommit (ne_declareCluster_of_domainKind hkind) hstale
      (fun s' happlied => ?_) fun _ _ h => h
    rw [LinksStale, (records_of_domain hkind happlied).2]
    exact hstale

end Requests

/-! ## Admission by a fresh incarnation -/

/-- The evidence of a report is current from the moment of a known observation. -/
theorem isCurrent_admittedEvidence (observedAt now : Timestamp) (ttlMillis : Int64) :
    (admittedEvidence (.make .reported observedAt ttlMillis) now).isCurrent = observedAt.known := by
  cases hknown : observedAt.known with
  | false =>
    simp [admittedEvidence, EvidenceStamp.make, EvidenceStamp.isCurrent, hknown]
  | true =>
    have hfresh : classifyFreshness observedAt observedAt ttlMillis = .fresh := by
      unfold classifyFreshness
      rw [hknown]
      by_cases httl : ttlMillis ≤ 0
      · simp [httl]
      · simp [httl, Int64.le_of_lt (Int64.not_le.mp httl)]
    simp [admittedEvidence, EvidenceStamp.make, EvidenceStamp.isCurrent, hfresh, hknown,
      isCurrentEvidenceProvenance]

/-- What the checker asks of a reference, its validation asks too. -/
theorem bounded_of_isOk (h : (validateRackReference reference).isOk = true) :
    reference.generation.known = true ∧ reference.endpoints.length ≤ maxRackEndpoints ∧
      reference.failureDomainHints.length ≤ maxFailureDomainRefs := by
  unfold validateRackReference at h
  dsimp only at h
  obtain ⟨-, h⟩ := isOk_of_ite rfl h
  obtain ⟨hgeneration, h⟩ := isOk_of_ite rfl h
  obtain ⟨hendpoints, h⟩ := isOk_of_ite rfl h
  obtain ⟨hhints, -⟩ := isOk_of_ite rfl h
  exact ⟨by simpa using hgeneration, not_lt.mp hendpoints, not_lt.mp hhints⟩

/-- The rack that an admission leaves is in order. -/
theorem rackOk_admitted {s s' : ClusterState} {incoming : RackReference} {now : Timestamp}
    {previous record : RackRecord} (hvalid : (validateRackReference incoming).isOk = true)
    (hprovenance : incoming.evidence.provenance = .reported)
    (hreference : record.reference = (admittedRecord s now incoming previous).reference)
    (hactive : record.membership = .active)
    (hle : record.membershipGeneration.value ≤ s'.membershipGeneration.value)
    (hfenced : s'.isBootFenced incoming.boot = false)
    (hretired : s'.isRackRetired incoming.rack = false) : RackOk s' incoming.rack record := by
  obtain ⟨hgeneration, hendpoints, hhints⟩ := bounded_of_isOk hvalid
  have hreported : record.reference.evidence.provenance = .reported := by
    rw [hreference]
    change (admittedEvidence incoming.evidence now).provenance = .reported
    unfold admittedEvidence EvidenceStamp.refresh
    split_ifs
    · exact hprovenance
    · exact hprovenance
    · exact hprovenance
  exact
    { rack_eq := by rw [hreference]; rfl
      generation := by rw [hreference]; exact hgeneration
      endpoints_le := by rw [hreference]; exact hendpoints
      hints_le := by rw [hreference]; exact hhints
      undecided := by
        intro hundecided
        exact nomatch hactive.symm.trans hundecided
      membership_le := hle
      authority := fun _ =>
        { notFenced := by rw [hreference]; exact hfenced
          notRetired := hretired
          provenance_known := by simp [hreported]
          notReconstructed := by simp [hreported] } }

/-- The admission of a recorded rack by the incarnation in its reference, on a report,
passes the check. -/
theorem verified_of_admission [StdSort] {config : CoordinatorConfig} {s : ClusterState}
    {request : MutationRequest} {record : RackRecord} (hhealthy : Healthy s) (hpaced : Paced s)
    (hauthorized : Authorized s request) (hkind : request.kind = .addRack)
    (hfind : s.racks.find? (canonicalize request.rackReference).rack = some record)
    (hboot : request.authority.boot = some (canonicalize request.rackReference).boot)
    (hprovenance : (canonicalize request.rackReference).evidence.provenance = .reported)
    (happlied : Applied config now s request s') :
    (checkInvariants (reevaluate s') none).isOk = true := by
  have hcurrent := hauthorized.current (by simp [hkind])
  have htimed := timed_of_applied hpaced hcurrent.declared happlied
  have hfiled := hhealthy.toFiled
  cases happlied
  case admitted incoming admitted m _ hincoming hvalid hretired hauthority _ _ hrecord hstamp =>
    subst hincoming
    generalize canonicalize request.rackReference = incoming at *
    have hle : s.membershipGeneration.value ≤ m.value := by
      split_ifs at hstamp
      · exact StrongCounter.le_of_next hstamp
      · exact (congrArg StrongCounter.value hstamp).ge
    obtain ⟨written, hwritten⟩ : ∃ written, written =
      if restamps (s.racks.find? incoming.rack) incoming then
        { admitted with membershipGeneration := m }
      else admitted := ⟨_, rfl⟩
    have hreference : written.reference = (admittedRecord s now incoming record).reference ∧
        written.membership = .active ∧ written.membershipGeneration.value ≤ m.value := by
      rw [hfind, Option.getD_some] at hrecord
      rw [hwritten, hrecord]
      split_ifs
      · exact ⟨rfl, rfl, le_refl _⟩
      · exact ⟨rfl, rfl, (hhealthy.racks _ _ hfind).membership_le.trans hle⟩
    obtain ⟨hreference, hactive, hmembership⟩ := hreference
    rw [← hwritten] at htimed ⊢
    have hassigns : AssignsRack s
        { s with
          membershipGeneration := m
          withdrawnRacks := s.withdrawnRacks.filter fun r => r ≠ incoming.rack
          racks := s.racks.insertOrAssign incoming.rack written } incoming.rack written :=
      ⟨rfl, rfl, rfl, rfl, rfl, rfl, rfl, hle, fun _ => by simp [hactive]⟩
    have hok := @rackOk_admitted s { s with
          membershipGeneration := m
          withdrawnRacks := s.withdrawnRacks.filter fun r => r ≠ incoming.rack
          racks := s.racks.insertOrAssign incoming.rack written } incoming now record written hvalid
      hprovenance hreference hactive hmembership (hauthority _ hboot).1 hretired
    have hfiled' := hassigns.filed hfiled hok
      (StdMap.size_insertOrAssign_le hfiled.counts.racks
        (fun hnone => nomatch hnone.symm.trans hfind) (le_refl _) _)
      hfiled.counts.links (fun _ _ hlink => .inl hlink) (fun _ _ => rfl) hfiled.retiredSorted
      (hfiled.withdrawn.sorted.filter _) fun r => by
        change r ∈ s.withdrawnRacks.filter _ ↔ _
        split_ifs with hr
        · simp [hr, hactive]
        · simp [Ne.symm hr]
    refine checkInvariants_isOk.mpr (.inr (healthy_reevaluate hfiled' htimed
      hhealthy.scalars.id_nonempty hhealthy.scalars.epoch fun hlifecycle => ?_))
    have haccepts := hcurrent.accepts
    rw [show s.lifecycle = .retired from hlifecycle] at haccepts
    exact absurd haccepts Bool.false_ne_true
  all_goals simp_all [MutationKind.membershipTarget, MutationKind.domainKind]

/-- A state in which the rack of a configuration is an active member that is not current,
under another incarnation than the fresh one, which is not fenced. -/
structure Lapsed [StdSort] (s : ClusterState) (config : RackAgentConfig) (fresh : RackAgentBootId)
    (record : RackRecord) : Prop where
  healthy : Healthy s
  paced : Paced s
  id_eq : config.cluster = s.id
  accepts : acceptsMutations s.lifecycle = true
  find_eq : s.racks.find? config.rack = some record
  named : config.rack.isEmpty = false
  notRetired : s.isRackRetired config.rack = false
  active : record.membership = .active
  stale : record.authoritativeCurrent = false
  boot_ne : record.reference.boot ≠ fresh
  unfenced : s.isBootFenced fresh = false
  publisher_eq : record.reference.publisher = some config.publisher
  generation_eq : record.reference.generation = config.generation
  reference : AcceptedReference config record

/-- An admission as an agent of the fresh incarnation asks for it under current epochs. -/
structure Readmits [StdSort] (s : ClusterState) (config : RackAgentConfig)
    (fresh : RackAgentBootId) (incoming : RackReference) (request : MutationRequest) : Prop where
  kind_eq : request.kind = .addRack
  cluster_eq : request.cluster = config.cluster
  clusterEpoch_eq : request.authority.clusterEpoch = s.epoch
  coordinatorEpoch_eq : request.authority.coordinatorEpoch = s.coordinatorEpoch
  boot_eq : request.authority.boot = some fresh
  publisher_eq : request.authority.publisher = some config.publisher
  incoming_eq : canonicalize request.rackReference = incoming
  rack_eq : incoming.rack = config.rack
  incomingBoot_eq : incoming.boot = fresh
  incomingGeneration_eq : incoming.generation = config.generation
  provenance_eq : incoming.evidence.provenance = .reported

/-- The state that a readmission completes. -/
def readmitted (s : ClusterState) (now : Timestamp) (incoming : RackReference)
    (record : RackRecord) : ClusterState :=
  { s with
    withdrawnRacks := s.withdrawnRacks.filter fun r => r ≠ incoming.rack
    racks := s.racks.insertOrAssign incoming.rack (admittedRecord s now incoming record) }

section Readmission

variable [StdSort] {s : ClusterState} {config : RackAgentConfig} {fresh : RackAgentBootId}
  {record : RackRecord} {incoming : RackReference} {request : MutationRequest}

theorem Lapsed.not_restamps (h : Lapsed s config fresh record)
    (hrequest : Readmits s config fresh incoming request) :
    restamps (s.racks.find? incoming.rack) incoming = false := by
  have hgeneration : ¬ record.reference.generation < incoming.generation := by
    rw [hrequest.incomingGeneration_eq, h.generation_eq]
    exact lt_irrefl _
  rw [hrequest.rack_eq, h.find_eq]
  simp [restamps, h.active, hgeneration]

/-- The fresh incarnation passes the gate of the boot: nothing that is current is held
by another one. -/
theorem Lapsed.owns (h : Lapsed s config fresh record)
    (hrequest : Readmits s config fresh incoming request) :
    OwnsRecord request incoming.rack record := by
  intro boot hboot
  obtain rfl := Option.some.inj (hrequest.boot_eq.symm.trans hboot)
  refine ⟨fun hcurrent => ?_, fun publisher hpublisher owner howner => ?_, ?_⟩
  · exact absurd (h.stale.symm.trans hcurrent) Bool.false_ne_true
  · obtain rfl := Option.some.inj (hrequest.publisher_eq.symm.trans hpublisher)
    exact Option.some.inj (h.publisher_eq.symm.trans howner)
  · simp [staleReplay, h.boot_ne]

/-- It publishes what is recorded, at the recorded generation. -/
theorem Lapsed.admitsOver (h : Lapsed s config fresh record)
    (hrequest : Readmits s config fresh incoming request)
    (hcontent : sameAuthoritativeContent record.reference incoming = true) :
    AdmitsOver incoming record where
  generation_le := by
    rw [hrequest.incomingGeneration_eq, h.generation_eq]
  owner := by
    rintro (hplaceholder | hlt)
    · simp [RackRecord.isPlaceholder, h.active] at hplaceholder
    · rw [hrequest.incomingGeneration_eq, h.generation_eq] at hlt
      exact absurd hlt (lt_irrefl _)
  repeats := by
    intro _ _
    refine ⟨hcontent, fun hboot => ?_⟩
    exact absurd (hboot.trans hrequest.incomingBoot_eq) h.boot_ne

/-- The request passes every gate. -/
theorem Lapsed.completes (h : Lapsed s config fresh record)
    (hrequest : Readmits s config fresh incoming request)
    (hvalid : (validateRackReference incoming).isOk = true)
    (hcontent : sameAuthoritativeContent record.reference incoming = true) {ctx : ApplyContext}
    (hctx : ctx.state = s) : ∃ ctx', Ends (applyRequest request) ctx () ctx' := by
  subst hctx
  have hid := h.healthy.scalars.id_nonempty
  rw [StrongId.isEmpty_eq_not_isValid, Bool.not_eq_false', ← h.id_eq, ← hrequest.cluster_eq] at hid
  have hcommon : Ends (validateCommon request) ctx () ctx := by
    refine ends_validateCommon hid ?_ ?_ ?_
    · simp [hrequest.kind_eq]
    · simp [hrequest.kind_eq]
    · exact ⟨hrequest.cluster_eq.trans h.id_eq, h.healthy.scalars.epoch, hrequest.clusterEpoch_eq,
        hrequest.coordinatorEpoch_eq, h.accepts⟩
  have hfind : ctx.state.racks.find? incoming.rack = some record := hrequest.rack_eq ▸ h.find_eq
  have hretired : ctx.state.isRackRetired incoming.rack = false := hrequest.rack_eq ▸ h.notRetired
  have hboot : Ends (validateBoot request incoming.rack) ctx () ctx := by
    refine ends_validateBoot hfind (fun boot hboot => ?_) (h.owns hrequest)
    obtain rfl := Option.some.inj (hrequest.boot_eq.symm.trans hboot)
    exact h.unfenced
  have hrestamps := h.not_restamps hrequest
  obtain ⟨ctx', htail⟩ : ∃ ctx', Ends
      (do
        Apply.update (dropWithdrawn incoming.rack)
        Apply.assign racksMember incoming.rack (admittedRecord ctx.state ctx.now incoming record)
        Apply.markChanged) ctx () ctx' :=
    ⟨_, ends_modify_bind.mpr (ends_modify_bind.mpr (Apply.ends_markChanged.mpr rfl))⟩
  refine ⟨ctx', ends_bind.mpr ⟨_, _, hcommon, ?_⟩⟩
  rw [applyKind, hrequest.kind_eq]
  change Ends (applyAddRack request) ctx () ctx'
  unfold applyAddRack
  rw [hrequest.incoming_eq]
  refine checks_exitIf.ends_bind.mpr ⟨by simp [hvalid], ends_get_bind.mpr ?_⟩
  refine checks_exitIf.ends_bind.mpr ⟨by simp [hretired], ?_⟩
  refine ends_bind.mpr ⟨_, _, hboot, ?_⟩
  refine (checks_forSome (checks_admitOver _)).ends_bind.mpr ⟨fun existing hexisting => ?_, ?_⟩
  · obtain rfl := Option.some.inj (hfind.symm.trans hexisting)
    exact h.admitsOver hrequest hcontent
  refine checks_exitIf.ends_bind.mpr ⟨fun hnone => ?_, ?_⟩
  · cases hnone.1.symm.trans hfind
  refine ends_bind.mpr ⟨admittedRecord ctx.state ctx.now incoming record, ctx, ?_, htail⟩
  change Ends
    (if restamps (ctx.state.racks.find? incoming.rack) incoming = true then _ else _) _ _ _
  rw [hrestamps, hfind]
  exact ends_pure.mpr ⟨rfl, rfl⟩

/-- What the completed request comes to. -/
theorem Lapsed.applied {coordinator : CoordinatorConfig} (h : Lapsed s config fresh record)
    (hrequest : Readmits s config fresh incoming request)
    (happlied : Applied coordinator now s request s') : s' = readmitted s now incoming record := by
  have hkind := hrequest.kind_eq
  have hrestamps := h.not_restamps hrequest
  have hfind : s.racks.find? incoming.rack = some record := hrequest.rack_eq ▸ h.find_eq
  cases happlied
  case admitted reference _ _ _ hincoming _ _ _ _ _ hrecord hstamp =>
    obtain rfl : incoming = reference := hrequest.incoming_eq.symm.trans hincoming.symm
    rw [hrestamps] at hstamp ⊢
    obtain rfl := hstamp
    rw [hrecord, hfind]
    rfl
  all_goals simp_all [MutationKind.membershipTarget, MutationKind.domainKind]

end Readmission

/-! ## Failed saves -/

section Saves

variable {σ : Type} (ops : PersistenceStore σ)

variable [StdSort]

/-- The counter of failed saves never falls. -/
theorem failures_le_applyAndCommit (c : Coordinator σ) (request : MutationRequest)
    (now : Timestamp) :
    c.persistenceFailures ≤ (applyAndCommit ops c request now).1.persistenceFailures := by
  have hshape := applyAndCommit_shape ops c request now
  generalize applyAndCommit ops c request now = out at hshape ⊢
  cases hshape with
  | early => exact le_refl _
  | complete _ hcommit =>
    cases hcommit with
    | saved => exact le_refl _
    | refused _ _ _ _ _ hfailures => exact hfailures

/-- Only a failed save undoes a commit that passes the check and can be numbered. -/
theorem accepted_of_saved {c : Coordinator σ} {request : MutationRequest} {journal : StateJournal}
    {g : ClusterGeneration} (hok : (checkInvariants (reevaluate journal.state) none).isOk = true)
    (hnext : journal.state.generation.next = some g)
    (hsaved : (commitChanged ops c request now journal acceptedChange).1.persistenceFailures =
      c.persistenceFailures) :
    (commitChanged ops c request now journal acceptedChange).2.outcome = .accepted := by
  have hshape := commitChanged_shape ops c request now journal acceptedChange
  generalize commitChanged ops c request now journal acceptedChange = out at hshape hsaved ⊢
  cases hshape with
  | saved => rfl
  | refused _ _ _ _ _ _ hwhy => exact absurd hsaved (ne_of_gt (hwhy g hok hnext).2)

end Saves

/-! ## Rejoining -/

/-- A fresh incarnation connects and publishes, and nobody else writes. -/
def rejoined [StdSort] {σ : Type} (ops : PersistenceStore σ) (digest : ClusterState → Text)
    (clock : Nat → Timestamp × Timestamp) (config : RackAgentConfig) (fresh : RackAgentBootId)
    (sentAt observedAt : Timestamp) (c : Coordinator σ) : Coordinator σ :=
  let transport := sessionTransport ops digest clock
  let connected := RackAgent.connect transport sentAt (.make config fresh, { coordinator := c })
  (RackAgent.publish transport observedAt connected.2).2.2.coordinator

/-- The rack of a configuration is current, and so is the evidence of its links. -/
structure Restored (config : RackAgentConfig) (s : ClusterState) : Prop where
  rack : RackStands config.rack true s
  links : ∀ link ∈ config.links, ∃ recorded, s.links.find? link.id = some recorded ∧
    recorded.header.evidence.isCurrent = true

section Rejoining

variable [StdSort] {σ : Type} {config : RackAgentConfig} {boot fresh : RackAgentBootId}
  {record : RackRecord} {peer : SessionPeer σ} {observedAt : Timestamp} {c : Coordinator σ}

/-- What a restart or a fence leaves of what was held. -/
theorem Held.lapsed {fs : FaithfulStore σ} (h : Held c config boot record)
    (hreachable : Reachable fs c) (hsilenced : Silenced c.canonical boot)
    (hlive : c.canonical.lifecycle ≠ .retired) (hfresh : c.canonical.isBootFenced fresh = false) :
    Lapsed c.canonical config fresh record := by
  have hsound := hreachable.sound
  have hretired := (hreachable.holds inductive_retiredStay).1.2
  have hhealthy := healthy_of_find? hsound.healthy h.find_eq
  obtain ⟨hstale, hfenced⟩ := hsilenced.racks _ _ h.find_eq h.boot_eq
  have hvalid := (@AcceptedReference.of_agent _ _ _ h.reference
    (.make config fresh) rfl rfl .unknown
    .unknown).1
  exact
    { healthy := hhealthy
      paced := (hreachable.holds inductive_steady).1.paced hhealthy.scalars.epoch
      id_eq := h.id_eq
      accepts := by
        cases hlifecycle : c.canonical.lifecycle
        case retired => exact absurd hlifecycle hlive
        all_goals rfl
      find_eq := h.find_eq
      named := (referenceOk_of_isOk hvalid).rack
      notRetired := by
        refine Bool.eq_false_iff.mpr fun hlisted => ?_
        exact nomatch (hretired _ _ h.find_eq hlisted).symm.trans h.active
      active := h.active
      stale := hstale
      boot_ne := by
        rintro rfl
        rw [h.boot_eq, hfenced] at hfresh
        exact absurd hfresh.symm Bool.false_ne_true
      unfenced := hfresh
      publisher_eq := h.publisher_eq
      generation_eq := h.generation_eq
      reference := h.reference }

theorem Lapsed.owned (h : Lapsed c.canonical config fresh record)
    (hcluster : config.cluster = c.config.cluster) : Owned c config record where
  cluster_eq := hcluster
  id_eq := h.id_eq
  find_eq := h.find_eq
  named := h.named
  notRetired := h.notRetired
  publisher_eq := h.publisher_eq
  generation_le := by
    rw [h.generation_eq]
    exact lt_irrefl _
  accepts := h.accepts

/-- The admission that an attached agent asks for. -/
theorem readmits_of_attached {agent₁ : RackAgent} (h : Attached config fresh agent peer)
    (hagent : agent₁ = { agent with status.state := .publishing }.takePublication)
    (observedAt : Timestamp) :
    Readmits peer.coordinator.canonical config fresh
      (canonicalize (agent₁.makeReference agent.publication observedAt))
      (peer.session.publication
        (agent₁.makeRequest .addRack agent.publication observedAt)) := by
  subst hagent
  exact
    { kind_eq := rfl
      cluster_eq := congrArg RackAgentConfig.cluster h.config_eq
      clusterEpoch_eq := h.clusterEpoch_eq
      coordinatorEpoch_eq := h.coordinatorEpoch_eq
      boot_eq := by
        change peer.session.boot.or (some agent.boot) = some fresh
        rw [h.session_boot]
        rfl
      publisher_eq := congrArg (fun config : RackAgentConfig => some config.publisher) h.config_eq
      incoming_eq := rfl
      rack_eq := congrArg RackAgentConfig.rack h.config_eq
      incomingBoot_eq := h.boot_eq
      incomingGeneration_eq := h.generation_eq
      provenance_eq := rfl }

/-- **The admission of a fresh incarnation.** If no save fails it is committed exactly
when the cluster generation can be advanced, and otherwise nothing changes. -/
theorem Lapsed.readmission {ops : PersistenceStore σ} {c : Coordinator σ}
    {incoming : RackReference} {request : MutationRequest}
    (h : Lapsed c.canonical config fresh record)
    (hrequest : Readmits c.canonical config fresh incoming request)
    (hvalid : (validateRackReference incoming).isOk = true)
    (hcontent : sameAuthoritativeContent record.reference incoming = true) (now : Timestamp)
    (hsaved : (applyAndCommit ops c request now).1.persistenceFailures = c.persistenceFailures) :
    (∃ g, c.canonical.generation.next = some g ∧
        (applyAndCommit ops c request now).2.outcome = .accepted ∧
        (applyAndCommit ops c request now).1.canonical =
          committed (readmitted c.canonical now incoming record) g now) ∨
      (c.canonical.generation.next = none ∧
        (applyAndCommit ops c request now).2.outcome = .rejected ∧
        (applyAndCommit ops c request now).1.canonical = c.canonical) := by
  obtain ⟨ctx, hends⟩ := h.completes hrequest hvalid hcontent
    (show (startContext c now).state = c.canonical from rfl)
  have hstate : ctx.state = readmitted c.canonical now incoming record :=
    h.applied hrequest (applied_of_ends hends).2
  have hcomplete := applyAndCommit_complete ops hends
  have hok : (checkInvariants (reevaluate ctx.state) none).isOk = true := by
    obtain ⟨hauthorized, happlied⟩ := applied_of_ends hends
    obtain rfl := hrequest.incoming_eq
    refine verified_of_admission h.healthy h.paced hauthorized hrequest.kind_eq
      (hrequest.rack_eq ▸ h.find_eq) ?_ hrequest.provenance_eq happlied
    rw [hrequest.incomingBoot_eq, hrequest.boot_eq]
  have hgeneration : ctx.state.generation = c.canonical.generation := by
    rw [hstate]
    rfl
  have hcases := applyAndCommit_cases ops c request now
  have hanswer := outcome_commitChanged ops c request now ctx.journal
  rw [← hcomplete] at hanswer
  cases hnext : c.canonical.generation.next with
  | some g =>
    have haccepted : (applyAndCommit ops c request now).2.outcome = .accepted := by
      rw [hcomplete] at hsaved ⊢
      exact accepted_of_saved ops hok (hgeneration ▸ hnext) hsaved
    obtain ⟨-, s', g', happlied, hcommitted⟩ := committed_of_accepted ops haccepted
    obtain rfl := h.applied hrequest happlied
    obtain rfl : g = g' := Option.some.inj (hnext.symm.trans hcommitted.next)
    exact .inl ⟨g, rfl, haccepted, hcommitted.canonical⟩
  | none =>
    have hrejected : (applyAndCommit ops c request now).2.outcome = .rejected := by
      rcases hanswer with ⟨-, -, g, hg, -⟩ | ⟨hrejected, -⟩
      · rw [show ctx.journal.state.generation = _ from hgeneration, hnext] at hg
        exact nomatch hg
      · exact hrejected
    refine .inr ⟨rfl, hrejected, ?_⟩
    generalize applyAndCommit ops c request now = out at hcases hrejected
    cases hcases with
    | accepted houtcome _ _ _ => exact nomatch houtcome.symm.trans hrejected
    | refused _ _ hcanonical _ _ => exact hcanonical
    | renamed _ hother _ _ _ _ => exact nomatch hother.kind_eq.symm.trans hrequest.kind_eq

variable {ops : PersistenceStore σ} {digest : ClusterState → Text}
  {clock : Nat → Timestamp × Timestamp}

omit [StdSort] in
/-- The rack that a readmission leaves. -/
theorem stands_readmitted [StdSort] {s : ClusterState} {used : PublicationGeneration}
    (hrack : (canonicalize (agent.makeReference used observedAt)).rack = config.rack)
    (now : Timestamp) (g : ClusterGeneration) :
    RackStands config.rack observedAt.known
      (committed (readmitted s now (canonicalize (agent.makeReference used observedAt)) record) g
        now) := by
  refine ⟨admittedRecord s now (canonicalize (agent.makeReference used observedAt)) record, ?_, ?_⟩
  · change (s.racks.insertOrAssign _ _).find? config.rack = _
    rw [StdMap.find?_insertOrAssign, if_pos hrack]
  · exact isCurrent_admittedEvidence observedAt now agent.config.publicationTtlMillis

/-- No request lowers the number of failed saves. -/
theorem keepsTopology_failures (n : Nat) :
    KeepsTopology (sessionTransport ops digest clock)
      (Serving fresh fun c => n ≤ c.persistenceFailures) config observedAt := by
  refine keepsTopology_serving (fun _ _ request _ _ c now hle => ?_)
    fun request _ _ c now hle => ?_
  · exact hle.trans (failures_le_applyAndCommit ops c request now)
  · exact hle.trans (failures_le_applyAndCommit ops c request now)

/-- What the admission leaves and the requests of the topology keep, `publish` leaves. -/
theorem publish_serving {Q : Coordinator σ → Prop} {agent agent₁ : RackAgent}
    {peer : SessionPeer σ} {observedAt : Timestamp} {served : Coordinator σ × MutationResult}
    (hattached : Attached config fresh agent peer) (hbounds : agent.exceededBound = none)
    (hagent : agent₁ = { agent with status.state := .publishing }.takePublication)
    (hserved : served = applyAndCommit ops peer.coordinator (peer.session.publication
      (agent₁.makeRequest .addRack agent.publication observedAt)) (clock peer.rounds).2)
    (htopology : served.2.isAccepted = true →
      KeepsTopology (sessionTransport ops digest clock) (Serving fresh Q) config observedAt)
    (hQ : Q served.1) :
    Q (RackAgent.publish (sessionTransport ops digest clock) observedAt
      (agent, peer)).2.2.coordinator := by
  have hexchange := @exchange_publish _ σ ops digest clock peer hattached.opened
    hattached.handshakeDone (agent₁.makeRequest .addRack agent.publication observedAt)
  rw [← hserved] at hexchange
  rw [← hattached.config_eq] at htopology
  exact (publish_keeps hattached.ready hbounds hagent hexchange htopology
    ⟨hattached.session_boot, hattached.handshakeDone, hattached.opened, hQ⟩).holds

/-- **Publication by an attached agent of a fresh incarnation**, if no save fails. The
rack is current exactly when the time of its observation is known and the cluster
generation can be advanced, and no link is. -/
theorem publish_of_lapsed (h : Lapsed peer.coordinator.canonical config fresh record)
    (hattached : Attached config fresh agent peer) (hbounds : agent.exceededBound = none)
    (hlinks : LinksStale config peer.coordinator.canonical)
    (hsaved : (RackAgent.publish (sessionTransport ops digest clock) observedAt
        (agent, peer)).2.2.coordinator.persistenceFailures = peer.coordinator.persistenceFailures) :
    RackStands config.rack
        (observedAt.known && peer.coordinator.canonical.generation.next.isSome)
        (RackAgent.publish (sessionTransport ops digest clock) observedAt
          (agent, peer)).2.2.coordinator.canonical ∧
      LinksStale config (RackAgent.publish (sessionTransport ops digest clock) observedAt
        (agent, peer)).2.2.coordinator.canonical := by
  obtain ⟨agent₁, hagent⟩ : ∃ agent₁, agent₁ =
    { agent with status.state := .publishing }.takePublication := ⟨_, rfl⟩
  have hconfig : agent₁.config = config := hagent ▸ hattached.config_eq
  have hgeneration : agent₁.generation = config.generation := hagent ▸ hattached.generation_eq
  have hrequest := readmits_of_attached hattached hagent observedAt
  obtain ⟨hvalid, hcontent⟩ := h.reference.of_agent hconfig hgeneration agent.publication observedAt
  have hle := failures_le_applyAndCommit ops peer.coordinator
    (peer.session.publication (agent₁.makeRequest .addRack agent.publication observedAt))
    (clock peer.rounds).2
  have hreadmission := @Lapsed.readmission _ _ _ _ _ ops _ _ _ h hrequest hvalid hcontent
    (clock peer.rounds).2
  obtain ⟨served, hserved⟩ : ∃ served, served = applyAndCommit ops peer.coordinator
    (peer.session.publication (agent₁.makeRequest .addRack agent.publication observedAt))
    (clock peer.rounds).2 := ⟨_, rfl⟩
  rw [← hserved] at hle hreadmission
  have hcounted := @publish_serving _ _ _ _ ops digest clock _ _ _ _ _ _ hattached hbounds hagent
    hserved (fun _ => keepsTopology_failures served.1.persistenceFailures) (le_refl _)
  rw [hsaved] at hcounted
  rcases hreadmission (hcounted.antisymm hle) with
    ⟨g, hnext, haccepted, hcanonical⟩ | ⟨hnext, hrejected, hcanonical⟩
  · rw [hnext, Option.isSome_some, Bool.and_true]
    constructor
    · refine publish_serving hattached hbounds hagent hserved
        (fun _ => keepsTopology_rackStands config.rack observedAt.known) ?_
      rw [hcanonical]
      exact stands_readmitted hrequest.rack_eq _ g
    · refine publish_serving hattached hbounds hagent hserved
        (fun _ => keepsTopology_linksStale) ?_
      rw [hcanonical]
      exact hlinks
  · -- the agent sends nothing after a rejected admission
    have hrefused : ¬ served.2.isAccepted = true := by
      simp [MutationResult.isAccepted, hrejected]
    rw [hnext, Option.isSome_none, Bool.and_false]
    constructor
    · refine @publish_serving _ _ _ _ ops digest clock
        (fun c => RackStands config.rack false c.canonical) _ _ _ _ _ hattached hbounds hagent
        hserved (fun haccepted => absurd haccepted hrefused) ?_
      rw [hcanonical]
      exact ⟨record, h.find_eq, h.stale⟩
    · refine @publish_serving _ _ _ _ ops digest clock
        (fun c => LinksStale config c.canonical) _ _ _ _ _ hattached hbounds hagent
        hserved (fun haccepted => absurd haccepted hrefused) ?_
      rw [hcanonical]
      exact hlinks

/-- **Rejoining restores exactly configurations without links.** An agent of a fresh
incarnation, whose rack and links were accepted before the restart or the fence, connects
and publishes, and no save fails. Its rack is then current exactly when its clock reads a
known time and the cluster generation can be advanced, and none of its links is. -/
theorem rejoined_restores_iff {fs : FaithfulStore σ} {c₀ c : Coordinator σ}
    {sentAt observedAt : Timestamp} (hreachable : Reachable fs c₀)
    (hinvalidated : Invalidated fs.ops boot c₀ c)
    (hlive : c.canonical.lifecycle ≠ .retired) (hheld : Held c config boot record)
    (hfresh : c.canonical.isBootFenced fresh = false)
    (hsaved : (rejoined fs.ops digest clock config fresh sentAt observedAt
      c).persistenceFailures = c.persistenceFailures) :
    (RackAgent.connect (sessionTransport fs.ops digest clock) sentAt
        (.make config fresh, { coordinator := c })).1 = true ∧
      (Restored config (rejoined fs.ops digest clock config fresh sentAt observedAt
          c).canonical ↔
        observedAt.known = true ∧ c.canonical.generation.next.isSome = true ∧
          config.links = []) := by
  have hsilenced := hinvalidated.silenced
  have hlapsed := hheld.lapsed (hinvalidated.reachable hreachable) hsilenced hlive hfresh
  have hlinks : LinksStale config c.canonical := by
    intro link hlink
    obtain ⟨recorded, hfind, hboot, hle⟩ := hheld.links link hlink
    exact ⟨recorded, hfind, hsilenced.links _ _ hfind hboot, hle⟩
  obtain ⟨agent, peer, hconnect, hattached, hunmoved⟩ := @connect_of_owned record _ σ
    fs.ops digest clock c config fresh
    (hlapsed.owned hheld.cluster_eq) hlapsed.healthy sentAt
  have hbounds : agent.exceededBound = none := by
    rw [← hheld.bounds]
    simp only [RackAgent.exceededBound, hattached.config_eq]
    rfl
  unfold rejoined at hsaved ⊢
  dsimp only at hsaved ⊢
  rw [hconnect] at hsaved ⊢
  rw [← hunmoved.failures] at hsaved
  rw [← hunmoved.canonical] at hlapsed hlinks ⊢
  obtain ⟨hrack, hstale⟩ := publish_of_lapsed hlapsed hattached hbounds hlinks hsaved
  generalize (RackAgent.publish _ observedAt (agent, peer)).2.2.coordinator.canonical = after
    at hrack hstale ⊢
  refine ⟨rfl, fun hrestored => ?_, fun ⟨hknown, hnext, hnone⟩ => ⟨?_, ?_⟩⟩
  · obtain ⟨record₁, hfind₁, hcurrent₁⟩ := hrack
    obtain ⟨record₂, hfind₂, hcurrent₂⟩ := hrestored.rack
    obtain rfl := Option.some.inj (hfind₁.symm.trans hfind₂)
    have hboth := hcurrent₁.symm.trans hcurrent₂
    rw [Bool.and_eq_true] at hboth
    refine ⟨hboth.1, hboth.2, List.eq_nil_iff_forall_not_mem.mpr fun link hlink => ?_⟩
    obtain ⟨recorded₁, hlink₁, hevidence₁, -⟩ := hstale link hlink
    obtain ⟨recorded₂, hlink₂, hevidence₂⟩ := hrestored.links link hlink
    obtain rfl := Option.some.inj (hlink₁.symm.trans hlink₂)
    exact absurd (hevidence₁.symm.trans hevidence₂) Bool.false_ne_true
  · rw [hknown, hnext] at hrack
    exact hrack
  · intro link hlink
    rw [hnone] at hlink
    exact nomatch hlink

end Rejoining

section Example

open scoped StdSort

def interlink : InterRackLink where
  id := .named "l1"
  source := .named "r1"
  destination := .named "r2"
  direction := .bidirectional
  reachability := .reachable
  header := { generation := .fromRaw 1 }

def joining (links : List InterRackLink) : RackAgentConfig where
  cluster := .named "alpha"
  rack := .named "r1"
  generation := .fromRaw 1
  publisher := .named "agent"
  links := links

/-- The agent of `r1` under incarnation `b1`, with the epochs of a first start. -/
def joiner (links : List InterRackLink) : RackAgent :=
  { RackAgent.make (joining links) (.named "b1") with
    status :=
      { clusterEpoch := .fromRaw 1
        coordinatorEpoch := .fromRaw 2
        topologyEpoch := .fromRaw 1
        topologyGeneration := .fromRaw 1 } }

/-- Its rack and links are published. -/
def joined (links : List InterRackLink) : Coordinator (Option PersistedState) :=
  sample <|
    [.submit declaration ⟨2⟩, .submit (publishedRack "r2" "b2") ⟨3⟩,
      .submit ((joiner links).makeRequest .addRack (.fromRaw 1) ⟨1⟩) ⟨4⟩] ++
    links.map fun link => .submit (RackAgent.linkRequest ⟨1⟩ (joiner links) (.fromRaw 2) link) ⟨5⟩

/-- The incarnation is fenced. -/
def lost (links : List InterRackLink) : Coordinator (Option PersistedState) :=
  step cellStore.ops (joined links) (.fence (.named "b1") (text "lost") ⟨6⟩ ⟨6⟩)

def lostRecord (links : List InterRackLink) : RackRecord :=
  ((lost links).canonical.racks.find? (.named "r1")).getD {}

/-- Incarnation `b9` connects and publishes. -/
def rejoinedLost (links : List InterRackLink) : Coordinator (Option PersistedState) :=
  rejoined cellStore.ops (fun _ => []) (fun _ => (⟨7⟩, ⟨7⟩)) (joining links)
    (.named "b9") ⟨7⟩ ⟨7⟩ (lost links)

theorem facts_lost : ∀ links ∈ [[], [interlink]],
    ((lost links).fenceEvents = (joined links).fenceEvents + 1 ∧
      (lost links).canonical.lifecycle ≠ .retired ∧
      (lost links).canonical.isBootFenced (.named "b9") = false ∧
      (lost links).canonical.generation.next.isSome = true ∧
      (rejoinedLost links).persistenceFailures = (lost links).persistenceFailures) ∧
    ((joining links).cluster = (lost links).config.cluster ∧
      (joining links).cluster = (lost links).canonical.id ∧
      (RackAgent.make (joining links) (.named "b1")).exceededBound = none ∧
      ((lost links).canonical.racks.find? (.named "r1")).isSome = true ∧
      (lostRecord links).membership = .active ∧
      (lostRecord links).reference.boot = .named "b1" ∧
      (lostRecord links).reference.publisher = some (.named "agent") ∧
      (lostRecord links).reference.generation = .fromRaw 1) ∧
    ((validateRackReference (canonicalize ((joiner links).makeReference (.fromRaw 1) ⟨1⟩))).isOk =
        true ∧
      sameAuthoritativeContent (lostRecord links).reference
        (canonicalize ((joiner links).makeReference (.fromRaw 1) ⟨1⟩)) = true) ∧
    ∀ link ∈ links, (((lost links).canonical.links.find? link.id).any fun recorded =>
        recorded.boot == some (.named "b1") &&
          decide (link.header.generation ≤ recorded.header.generation)) = true ∧
      (((rejoinedLost links).canonical.links.find? link.id).any fun recorded =>
        recorded.header.evidence.isCurrent) = false := by
  decide +kernel

theorem held_lost (hlinks : links ∈ [[], [interlink]]) :
    Held (lost links) (joining links) (.named "b1") (lostRecord links) := by
  obtain ⟨-, ⟨hcluster, hid, hbounds, hfind, hactive, hboot, hpublisher, hgeneration⟩,
    ⟨hvalid, hcontent⟩, hrecorded⟩ := facts_lost links hlinks
  obtain ⟨record, hrecord⟩ := Option.isSome_iff_exists.mp hfind
  exact
    { cluster_eq := hcluster
      id_eq := hid
      bounds := hbounds
      find_eq := by
        rw [lostRecord]
        change (lost links).canonical.racks.find? (.named "r1") = _
        rw [hrecord]
        rfl
      active := hactive
      boot_eq := hboot
      publisher_eq := hpublisher
      generation_eq := hgeneration
      reference := ⟨joiner links, .fromRaw 1, ⟨1⟩, rfl, rfl, hvalid, hcontent⟩
      links := by
        intro link hlink
        obtain ⟨recorded, hlinkFind, hmatches⟩ :=
          (Option.any_eq_true _ _).mp (hrecorded link hlink).1
        rw [Bool.and_eq_true, beq_iff_eq, decide_eq_true_eq] at hmatches
        exact ⟨recorded, hlinkFind, hmatches⟩ }

theorem invalidated_lost (hlinks : links ∈ [[], [interlink]]) :
    Invalidated cellStore.ops (.named "b1") (joined links) (lost links) :=
  .fenced (text "lost") ⟨6⟩ ⟨6⟩ rfl (facts_lost links hlinks).1.1

/-- A rack without links is current again. -/
theorem rejoined_restores_unlinked : Restored (joining []) (rejoinedLost []).canonical := by
  have hlinks : [] ∈ [[], [interlink]] := List.mem_cons_self
  obtain ⟨⟨-, hlive, hfresh, hnext, hsaved⟩, -⟩ := facts_lost [] hlinks
  exact (rejoined_restores_iff (reachable_sample _) (invalidated_lost hlinks) hlive
    (held_lost hlinks) hfresh hsaved).2.mpr ⟨by decide, hnext, rfl⟩

/-- The link of a rack is not, although everything was accepted before the fence, the
clock of the agent is known and no save fails. -/
theorem rejoined_leaves_link :
    Reachable cellStore (joined [interlink]) ∧
      Invalidated cellStore.ops (.named "b1") (joined [interlink])
        (lost [interlink]) ∧
      (lost [interlink]).canonical.lifecycle ≠ .retired ∧
      Held (lost [interlink]) (joining [interlink]) (.named "b1") (lostRecord [interlink]) ∧
      (lost [interlink]).canonical.isBootFenced (.named "b9") = false ∧
      (lost [interlink]).canonical.generation.next.isSome = true ∧
      (rejoinedLost [interlink]).persistenceFailures = (lost [interlink]).persistenceFailures ∧
      ¬ Restored (joining [interlink]) (rejoinedLost [interlink]).canonical := by
  have hlinks : [interlink] ∈ [[], [interlink]] := List.mem_cons_of_mem _ List.mem_cons_self
  obtain ⟨⟨-, hlive, hfresh, hnext, hsaved⟩, -, -, hrecorded⟩ := facts_lost [interlink] hlinks
  refine ⟨reachable_sample _, invalidated_lost hlinks, hlive, held_lost hlinks, hfresh, hnext,
    hsaved, fun hrestored => ?_⟩
  obtain ⟨recorded, hfind, hcurrent⟩ := hrestored.links interlink List.mem_cons_self
  have hstale := (hrecorded interlink List.mem_cons_self).2
  rw [hfind, Option.any_some, hcurrent] at hstale
  exact Bool.false_ne_true hstale.symm

end Example

end Coordinator

end ClusterFabric
