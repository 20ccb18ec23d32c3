import ClusterFabric.Verify.Ownership

/-! # Publication counters

A request carries the counter of its publication in its authority, and the publication
of a rack carries one more in the reference that it stores. The replay gate compares the
counter of the authority, when it is known and comes from the recorded incarnation, and
lets an equal one pass that repeats the recorded content. A recovery, a withdrawal of
evidence and the retirement of the cluster pass the gate by (`replay_defeated`).
-/

namespace ClusterFabric

open Lib

variable {rack : RackId} {record record' : RackRecord} {request : MutationRequest}
  {now : Timestamp}

namespace Coordinator

/-- A request that moves the rack to another incarnation. -/
structure TakesOver (request : MutationRequest) (record : RackRecord) : Prop where
  kind : request.kind = .addRack ∨ request.kind = .updateRackGeneration ∨
    request.kind = .recoverRack
  boot : ∃ boot, request.authority.boot = some boot ∧ boot ≠ record.reference.boot

section Engine

variable [StdSort]

/-- A request that repeats the recorded publication of the rack, its counter included. -/
structure Duplicates (request : MutationRequest) (rack : RackId) (record : RackRecord) : Prop where
  publication : request.authority.publication = record.reference.publication
  rack : request.rackReference.rack = rack
  boot : request.rackReference.boot = record.reference.boot
  content : sameAuthoritativeContent record.reference (canonicalize request.rackReference) = true

/-- A request from the recorded incarnation under a counter, of a kind that the replay gate sees
and no duplicate of what is recorded. -/
structure Renumbers (request : MutationRequest) (rack : RackId) (record : RackRecord) : Prop where
  kind_ne : request.kind ≠ .recoverRack
  boot : request.authority.boot = some record.reference.boot
  known : request.authority.publication.known = true
  new : ¬Duplicates request rack record

/-- A request about the rack whose counter the replay gate compares and the record stores. -/
structure Numbered (request : MutationRequest) (rack : RackId) (record : RackRecord) : Prop where
  gated : request.kind ≠ .withdrawEvidence ∧ request.kind ≠ .retireCluster
  /-- A publication names one incarnation and one counter. -/
  admission : request.kind = .addRack →
    request.authority.boot = some request.rackReference.boot ∧
      request.authority.publication = request.rackReference.publication
  fresh : Renumbers request rack record ∨ TakesOver request record

/-- What passes the replay gate under a known counter and is no duplicate has a newer counter. -/
theorem newer_of_fresh (hfresh : staleReplay request rack record.reference.boot record = false)
    (hknown : request.authority.publication.known = true) (hnew : ¬Duplicates request rack record) :
    record.reference.publication < request.authority.publication := by
  by_contra hle
  have hle : request.authority.publication.value ≤ record.reference.publication.value :=
    StrongCounter.le_iff.mp (not_lt.mp hle)
  simp only [staleReplay, beq_self_eq_true, hknown, hle, decide_true, Bool.true_and,
    Bool.not_eq_false', Bool.and_eq_true, beq_iff_eq] at hfresh
  obtain ⟨⟨⟨hvalue, hrack⟩, hboot⟩, hcontent⟩ := hfresh
  exact hnew ⟨StrongCounter.ext_value hvalue, hrack, hboot, hcontent⟩

/-- A numbered request about a recorded rack that leaves it with its incarnation
carries a newer counter. -/
theorem Numbered.newer {s : ClusterState} (h : Numbered request rack record)
    (hboot : BootAuthorized s request rack) (hfind : s.racks.find? rack = some record)
    (hstays : ¬ TakesOver request record) :
    record.reference.publication < request.authority.publication := by
  have hrenumbers := h.fresh.resolve_right hstays
  exact newer_of_fresh ((hboot _ hrenumbers.boot).2 record hfind).fresh hrenumbers.known
    hrenumbers.new

variable {σ : Type} (ops : PersistenceStore σ)

end Engine

section Example

open scoped StdSort

end Example

end Coordinator

end ClusterFabric
