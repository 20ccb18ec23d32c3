import ClusterFabric.Verify.Runs

/-! # What a mutation writes

A completed mutation, seen from one record: for each kind that writes a rack, a link, a
domain or a constraint, the gates that it passed and what it makes of the entry it found
(`written_of_applied`).
-/

namespace ClusterFabric

open Lib

variable {target : RackMembershipState} {kind : MutationKind}

/-- The rack that a request is about. -/
def MutationRequest.subjectRack [StdSort] (request : MutationRequest) : RackId :=
  match request.kind with
  | .addRack => request.rackReference.rack
  | .recoverRack => request.recoveredRackId
  | _ => request.targetRack

theorem MutationKind.of_membershipTarget (h : kind.membershipTarget = some target) :
    kind = .markRackUnavailable ∨ kind = .withdrawRack ∨ kind = .retireRack := by
  cases kind
  case markRackUnavailable => exact .inl rfl
  case withdrawRack => exact .inr (.inl rfl)
  case retireRack => exact .inr (.inr rfl)
  all_goals cases h

theorem MutationKind.ne_active_of_membershipTarget (h : kind.membershipTarget = some target) :
    target ≠ .active := by
  rintro rfl
  rcases MutationKind.of_membershipTarget h with rfl | rfl | rfl <;> cases h

/-! ## Stamps -/

/-- Evidence that no refresh makes current. -/
def EvidenceStamp.Faint (e : EvidenceStamp) : Prop :=
  isCurrentEvidenceProvenance e.provenance = false

namespace EvidenceStamp.Faint

variable {e : EvidenceStamp}

theorem isCurrent (h : e.Faint) : e.isCurrent = false := by
  unfold Faint at h
  simp [EvidenceStamp.isCurrent, h]

theorem markRevalidationRequired (h : e.Faint) : e.markRevalidationRequired.Faint := h

theorem refresh (h : e.Faint) (now : Timestamp) : (e.refresh now).Faint := by
  unfold EvidenceStamp.refresh
  split_ifs
  · exact h
  · exact h

theorem admittedEvidence (h : e.Faint) (now : Timestamp) : (admittedEvidence e now).Faint := by
  unfold ClusterFabric.admittedEvidence
  split_ifs
  · exact h.refresh now
  · exact h

end EvidenceStamp.Faint

/-! ## Records -/

variable [StdSort]

/-- What a mutation makes of the record of a rack. -/
inductive RackWritten (now : Timestamp) (s : ClusterState) (request : MutationRequest)
    (rack : RackId) : Option RackRecord → Option RackRecord → Prop
  | registered (hkind : request.kind = .registerRackPublisher) (hrack : rack = request.targetRack) :
    RackWritten now s request rack none (some (registeredRecord s request rack))
  | admitted {existing : Option RackRecord} {m : MembershipGeneration}
      (hkind : request.kind = .addRack) (hrack : rack = request.rackReference.rack)
      (hvalid : (validateRackReference (canonicalize request.rackReference)).isOk = true)
      (hboot : BootAuthorized s request rack)
      (hover : ∀ record, existing = some record →
        AdmitsOver (canonicalize request.rackReference) record) :
    RackWritten now s request rack existing
      (some { admittedRecord s now (canonicalize request.rackReference) (existing.getD {}) with
        membershipGeneration := m })
  | updated {record : RackRecord} {generation : RackGeneration} {m : MembershipGeneration}
      (hkind : request.kind = .updateRackGeneration) (hrack : rack = request.targetRack)
      (hboot : BootAuthorized s request rack) :
    RackWritten now s request rack (some record)
      (some { updatedRecord s request generation record with membershipGeneration := m })
  | moved {target : RackMembershipState} {record : RackRecord} {m : MembershipGeneration}
      (hkind : request.kind.membershipTarget = some target) (hrack : rack = request.targetRack)
      (hboot : BootAuthorized s request rack) :
    RackWritten now s request rack (some record)
      (some { movedRecord request target record with membershipGeneration := m })
  | recovered {boot : RackAgentBootId} {generation : RackGeneration} {record : RackRecord}
      {m : MembershipGeneration} (hkind : request.kind = .recoverRack)
      (hrack : rack = request.recoveredRackId) (hboot : request.authority.boot = some boot) :
    RackWritten now s request rack (some record)
      (some { recoveredRecord s request rack boot generation record with
        membershipGeneration := m })
  | healthPublished {record : RackRecord} (hkind : request.kind = .publishHealthCurrentness)
      (hrack : rack = request.targetRack) (hboot : BootAuthorized s request rack) :
    RackWritten now s request rack (some record) (some (healthRecord s request record))
  | evidenceWithdrawn {record : RackRecord} (hkind : request.kind = .withdrawEvidence)
      (hrack : rack = request.targetRack) :
    RackWritten now s request rack (some record) (some (withdrawnEvidenceRecord record))
  | clusterRetired {record : RackRecord} (hkind : request.kind = .retireCluster)
      (hcurrent : record.authoritativeCurrent = true) :
    RackWritten now s request rack (some record) (some (retiredClusterRack record))

namespace RackWritten

variable {now : Timestamp} {s : ClusterState} {request : MutationRequest} {rack : RackId}
  {record : RackRecord} {new : Option RackRecord}

/-- Every kind but the retirement of the cluster writes the rack that the request
is about. -/
theorem subjectRack (h : RackWritten now s request rack (some record) new)
    (hretires : request.kind ≠ .retireCluster) : request.subjectRack = rack := by
  unfold MutationRequest.subjectRack
  cases h
  case admitted hkind hrack _ _ _ | updated hkind hrack _ | recovered hkind hrack _
    | healthPublished hkind hrack _ | evidenceWithdrawn hkind hrack => rw [hkind, hrack]
  case moved hkind hrack _ =>
    obtain hkind | hkind | hkind := MutationKind.of_membershipTarget hkind <;> rw [hkind, hrack]
  case clusterRetired hkind _ => exact absurd hkind hretires

end RackWritten

/-- What a mutation makes of a link. -/
inductive LinkWritten (s : ClusterState) (request : MutationRequest) (id : InterRackLinkId) :
    Option InterRackLink → Option InterRackLink → Prop
  | published {existing : Option InterRackLink} {payload : InterRackLink}
      (hkind : request.kind = .publishInterRackLink) (hpayload : request.link = some payload)
      (hid : id = payload.id) :
    LinkWritten s request id existing
      (some { payload with
        failureDomains := sortUnique payload.failureDomains
        header := payload.header.stamp s
        topologyGeneration := s.topologyGeneration })
  | withdrawn {existing : Option InterRackLink} (hkind : request.kind = .withdrawInterRackLink)
      (hid : request.linkId = some id) : LinkWritten s request id existing none
  | reported {link : InterRackLink} (hkind : request.kind = .publishHealthCurrentness)
      (hreachability : request.reachability ≠ .unknown)
      (htouches : link.touches request.targetRack = true) :
    LinkWritten s request id (some link) (some (reportedLink request link))
  | evidenceWithdrawn {link : InterRackLink} (hkind : request.kind = .withdrawEvidence)
      (hselector : request.selector = text "reachability" ∨
        request.selector = text "rack_evidence")
      (htouches : link.touches request.targetRack = true) :
    LinkWritten s request id (some link) (some (withdrawnEvidenceLink link))
  | superseded {link : InterRackLink} (hkind : request.kind = .supersedeTopology) :
    LinkWritten s request id (some link) (some (supersededLink link))

/-- What a mutation makes of a domain. -/
inductive DomainWritten (s : ClusterState) (request : MutationRequest) (k : DomainKind)
    (id : DomainId k) : Option (Domain k) → Option (Domain k) → Prop
  | published {existing : Option (Domain k)} {payload : Domain k}
      (hkind : request.kind.domainKind = some k) (hpayload : request.domain k = some payload)
      (hid : id = payload.id) :
    DomainWritten s request k id existing
      (some { normalizedDomain payload with header := payload.header.stamp s })

/-- What a mutation makes of a constraint. -/
inductive ConstraintWritten (s : ClusterState) (request : MutationRequest) (id : ConstraintId) :
    Option ClusterConstraint → Option ClusterConstraint → Prop
  | published {existing : Option ClusterConstraint} {payload : ClusterConstraint}
      (hkind : request.kind = .publishConstraint) (hpayload : request.constraint = some payload)
      (hid : id = payload.id) :
    ConstraintWritten s request id existing
      (some { payload with racks := sortUnique payload.racks, header := payload.header.stamp s })

/-- What a mutation makes of the records of a state. -/
structure Written (now : Timestamp) (s : ClusterState) (request : MutationRequest)
    (s' : ClusterState) : Prop where
  racks : s.racks.Writes (RackWritten now s request) s'.racks
  links : s.links.Writes (LinkWritten s request) s'.links
  domains : ∀ k, (s.domains k).Writes (DomainWritten s request k) (s'.domains k)
  constraints : s.constraints.Writes (ConstraintWritten s request) s'.constraints

theorem Written.refl (now : Timestamp) (s : ClusterState) (request : MutationRequest) :
    Written now s request s := ⟨.refl, .refl, fun _ => .refl, .refl⟩

theorem LinksRewritten.writes {s : ClusterState} {active : Prop} {select : InterRackLink → Bool}
    {f : InterRackLink → InterRackLink} {links : StdMap InterRackLinkId InterRackLink}
    {c : ConnectivityGeneration} (h : LinksRewritten s active select f links c)
    {request : MutationRequest}
    (hwritten : ∀ id link, active → select link = true →
      LinkWritten s request id (some link) (some (f link))) :
    s.links.Writes (LinkWritten s request) links := by
  rcases h with ⟨hactive, rfl, -⟩ | ⟨-, rfl, -⟩
  · exact .updateWhere fun id link => hwritten id link hactive
  · exact .refl

/-- **A completed mutation writes** nothing but what its kind writes. -/
theorem written_of_applied {config : CoordinatorConfig} {now : Timestamp} {s s' : ClusterState}
    {request : MutationRequest} (happlied : Applied config now s request s') :
    Written now s request s' := by
  have hrefl := Written.refl now s request
  cases happlied
  case declared => exact { hrefl with }
  case redeclared => exact { hrefl with }
  case registered hkind hrack hretired hpublisher hfind hroom hgeneration =>
    refine { hrefl with racks := .insertOrAssign ?_ }
    rw [hfind]
    exact .registered hkind rfl
  case admitted incoming record m hkind hincoming hvalid hretired hboot hover hroom hrecord
    hstamp =>
    subst hincoming hrecord
    refine { hrefl with racks := .insertOrAssign ?_ }
    -- a record that is not restamped keeps the generation it has
    split_ifs
    · exact .admitted hkind rfl hvalid hboot hover
    · exact .admitted (m := RackRecord.membershipGeneration _) hkind rfl hvalid hboot hover
  case updated record generation m hkind hfind hboot hexpected hnew hgeneration hm =>
    refine { hrefl with racks := .insertOrAssign ?_ }
    rw [hfind]
    exact .updated hkind rfl hboot
  case moved target record m hkind hfind hboot hchange hretired hm =>
    refine { hrefl with racks := .insertOrAssign ?_ }
    rw [hfind]
    exact .moved hkind rfl hboot
  case recovered rack boot record m hkind hrack hretired hfind hboot hfenced hlive hgeneration hm =>
    refine { hrefl with racks := .insertOrAssign ?_ }
    rw [hfind]
    exact .recovered hkind hrack hboot
  case healthPublished record links c h hkind hfind hretired hboot hnew hlinks hh =>
    refine { hrefl with
      racks := .insertOrAssign ?_
      links := hlinks.writes fun id link => .reported hkind }
    rw [hfind]
    exact .healthPublished hkind rfl hboot
  case evidenceWithdrawn record links c h hkind hfind hlinks hh =>
    refine { hrefl with
      racks := .insertOrAssign ?_
      links := hlinks.writes fun id link => .evidenceWithdrawn hkind }
    rw [hfind]
    exact .evidenceWithdrawn hkind rfl
  case domainPublished k payload domain aggregate t hkind hpayload hok hdomain hover hroom
      haggregate ht =>
    subst hdomain
    refine { hrefl with domains := fun k' => ?_ }
    by_cases hk : k' = k
    · subst hk
      dsimp only
      rw [Function.update_self]
      exact .insertOrAssign (.published hkind hpayload rfl)
    · dsimp only
      rw [Function.update_of_ne hk]
      exact .refl
  case constrained hkind hpayload hok hover hroom hg =>
    exact { hrefl with constraints := .insertOrAssign (.published hkind hpayload rfl) }
  case linkPublished hkind hpayload hok hover hroom ht hc =>
    exact { hrefl with links := .insertOrAssign (.published hkind hpayload rfl) }
  case linkWithdrawn hkind hid hfind ht hc =>
    exact { hrefl with links := .erase (.withdrawn hkind hid) }
  case superseded hkind htarget hnewer ht hc =>
    exact { hrefl with links := .updateWhere fun id link _ => .superseded hkind }
  case snapshotPublished => exact { hrefl with }
  case revalidated => exact hrefl
  case clusterRetired hkind hlifecycle =>
    exact { hrefl with
      racks := .updateWhere fun rack record hcurrent => .clusterRetired hkind hcurrent }

namespace Coordinator

/-- A request commits what it writes, or leaves every record as it is. -/
theorem written_of_submit {σ : Type} (ops : PersistenceStore σ) (c : Coordinator σ)
    (request : MutationRequest) (now : Timestamp) :
    ((applyAndCommit ops c request now).2.outcome = .accepted ∧ Authorized c.canonical request ∧
        Written now c.canonical request (applyAndCommit ops c request now).1.canonical) ∨
      ((applyAndCommit ops c request now).2.outcome ≠ .accepted ∧
        (applyAndCommit ops c request now).1.canonical.toCanonicalRecords =
          c.canonical.toCanonicalRecords) := by
  generalize hout : applyAndCommit ops c request now = out
  obtain ⟨houtcome, hauthorized, happlied, hcommitted⟩ | ⟨hrefused, -, hcanonical, -, -⟩ |
    ⟨hrefused, -, -, hcanonical, -, -⟩ := hout ▸ applyAndCommit_cases ops c request now
  · refine .inl ⟨houtcome, hauthorized, ?_⟩
    rw [hcommitted.canonical]
    exact { written_of_applied happlied with }
  · exact .inr ⟨hrefused, by rw [hcanonical]⟩
  · exact .inr ⟨hrefused, by rw [hcanonical]⟩

end Coordinator

end ClusterFabric
