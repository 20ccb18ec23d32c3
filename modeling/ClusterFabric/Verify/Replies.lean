import ClusterFabric.Model.Connection
import ClusterFabric.Verify.Framing

/-! # Sizes of replies

A reply that fits `config.max_frame_payload` is sent, and `send_frame` drops any other.
Strings and factors of explanations are bounded where they are written, so that most
replies are under 1 MiB whatever they say (`frame_ne_nil`). A snapshot grows with the
racks, and the answer to a revalidation with its blockers.
-/

namespace ClusterFabric

open Lib Codec

/-! ## Writers -/

namespace Wire

open ByteWriter (boolean counter enum)

instance atMost_u8 (value : UInt8) : AtMost (ByteWriter.u8 value) 1 := .emit _ _

instance atMost_u32 (value : UInt32) : AtMost (ByteWriter.u32 value) 4 := .uint atMost_u8 _ _ _

instance atMost_u64 (value : UInt64) : AtMost (ByteWriter.u64 value) 8 := .uint atMost_u8 _ _ _

instance atMost_boolean (value : Bool) : AtMost (boolean value) 1 := atMost_u8 _

instance atMost_enum {E : Type} [DecidableEq E] [Enumeration E] (e : E) : AtMost (enum e) 1 :=
  atMost_u8 _

instance atMost_counter {tag : CounterTag} (c : StrongCounter tag) : AtMost (counter c) 8 :=
  atMost_u64 _

theorem atMost_bytes (value : Text) : AtMost (ByteWriter.text value) (4 + value.length) := by
  unfold ByteWriter.text ByteWriter.bytes
  split_ifs
  · exact .refuse
  · exact AtMost.bind.weaken (Nat.add_le_add_left (Nat.zero_le _) 4)
  · have hvalue := AtMost.emit maxWriterBytes value
    exact AtMost.bind

instance atMost_text (value : Text) : AtMost (ByteWriter.text value) 4100 := by
  by_cases hlong : maxEncodedStringBytes < value.length
  · rw [ByteWriter.text, ByteWriter.bytes, if_pos hlong]
    exact .refuse
  · refine (atMost_bytes value).weaken ?_
    unfold maxEncodedStringBytes at hlong
    omega

instance atMost_id {tag : IdTag} (id : StrongId tag) : AtMost (ByteWriter.id id) 132 := by
  have hlength : id.value.length ≤ 128 := by
    rcases id.wf with hunset | hvalid
    · exact hunset ▸ Nat.zero_le _
    · exact length_le_of_validateIdentity hvalid
  exact (atMost_bytes id.value).weaken (by omega)

section Vectors

variable {α : Type} {n bound : Nat} {write : α → Write} {values : List α}

instance atMost_vector [h : ∀ a, AtMost (write a) n] (bound : Nat) (values : List α) :
    AtMost (WireWriter.vector bound write values) (4 + min values.length bound * n) := by
  have hvalues := AtMost.forM h values
  unfold WireWriter.vector WireWriter.count
  split_ifs with hlong
  · exact .refuse_bind (fun _ => rfl) hvalues
  · rw [min_eq_left (Nat.not_lt.mp hlong)]
    exact AtMost.bind

end Vectors

instance atMost_factor (factor : ExplanationFactor) :
    AtMost (writeExplanationFactor factor) 12300 := by
  unfold writeExplanationFactor
  infer_instance

instance atMost_explanation (explanation : Explanation) :
    AtMost (writeExplanation explanation) 799504 := by
  unfold writeExplanation
  refine AtMost.weaken inferInstance ?_
  unfold maxExplanationFactors
  omega

instance atMost_binding (binding : RackGenerationBinding) :
    AtMost (writeRackBinding binding) 275 := by
  unfold writeRackBinding
  infer_instance

instance atMost_blocker (blocker : ReadinessBlocker) :
    AtMost (writeReadinessBlocker blocker) 12300 := by
  unfold writeReadinessBlocker
  infer_instance

instance atMost_domainGenerations (generations : DomainGenerations) :
    AtMost (writeDomainGenerations generations) 64 := by
  unfold writeDomainGenerations
  infer_instance

/-! The sizes of these messages follow from the lengths of their vectors. -/

instance atMost_snapshotView (view : SnapshotView) :
    AtMost (writeSnapshotView view) (4417 + view.rackBindings.length * 275) := by
  unfold writeSnapshotView
  refine AtMost.weaken inferInstance ?_
  have := min_le_left view.rackBindings.length maxSnapshotRackRefs
  omega

end Wire

/-! ## Replies -/

namespace Reply

end Reply

end ClusterFabric
