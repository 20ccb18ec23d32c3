import ClusterFabric.Verify.Checksum
import ClusterFabric.Verify.RoundTrip

/-! # Corrupted containers

A container that is opened is the container of its payload: its sixteen header bytes are
determined by the length and the checksum of what follows them. So a corrupted container
could be accepted only as the container of another payload. A change of the length or of
the header contradicts the length field; a change of the payload leaves the header
alone, and the checksum tells the payloads apart (`corrupted_rejected`).
-/

namespace ClusterFabric

open Lib Codec

variable {index : Nat}

/-! ## Opened containers -/

/-- The bytes of a header field. -/
theorem storeUint_headerField {bytes : Text} {offset width : Nat}
    (h : offset + width ≤ bytes.length) :
    storeUint width (headerField bytes offset width) = (bytes.drop offset).take width := by
  have hlength : ((bytes.drop offset).take width).length = width := by
    rw [List.length_take, List.length_drop]
    omega
  have hstore := storeUint_loadUint ((bytes.drop offset).take width)
  rwa [hlength] at hstore

/-- A list is its first part and what stands behind it. -/
theorem drop_eq_take_append (bytes : Text) (offset width : Nat) :
    bytes.drop offset = (bytes.drop offset).take width ++ bytes.drop (offset + width) := by
  rw [← List.drop_drop]
  exact (List.take_append_drop width _).symm

/-- What `openContainer` checked of the container it opened. -/
theorem headerOf_open {bytes payload : Text} (h : openContainer bytes = .ok payload) :
    HeaderOf payload bytes ∧ containerHeaderBytes ≤ bytes.length := by
  simp only [openContainer, ite_error_eq_ok, ne_eq, not_not] at h
  obtain ⟨-, hshort, hmagic, hversion, hflags, -, htruncated, htrailing, hchecksum, h⟩ := h
  have hpayload : bytes.drop containerHeaderBytes = payload := by
    rw [← Except.ok.inj h, List.take_of_length_le]
    rw [List.length_drop]
    omega
  have hlength : headerField bytes 8 4 = payload.length := by
    rw [← hpayload, List.length_drop]
    omega
  rw [Except.ok.inj h] at hchecksum
  exact ⟨⟨hmagic, hversion, hflags, hlength, hchecksum.symm, hpayload⟩, not_lt.mp hshort⟩

/-- Bytes with the header of a payload are the container of that payload. -/
theorem HeaderOf.eq_container {bytes payload : Text} (h : HeaderOf payload bytes)
    (hsize : containerHeaderBytes ≤ bytes.length) : bytes = container payload := by
  have hsixteen : 16 ≤ bytes.length := hsize
  have hhead : bytes.take 12 = containerHead payload := by
    have hfields : bytes.take 12 = (bytes.drop 0).take 4 ++ (bytes.drop 4).take 2 ++
        (bytes.drop 6).take 2 ++ (bytes.drop 8).take 4 := by
      simp only [List.drop_zero, ← List.take_add]
    rw [hfields, ← storeUint_headerField (by omega), ← storeUint_headerField (by omega),
      ← storeUint_headerField (by omega), ← storeUint_headerField (by omega), h.magic, h.version,
      h.flags, h.length, containerHead]
  have hstored : (bytes.drop 12).take 4 =
      storeUint 4 (containerChecksum (containerHead payload) payload).toNat := by
    rw [← storeUint_headerField (by omega), h.checksum, hhead]
  calc bytes = bytes.take 12 ++ (bytes.drop 12).take 4 ++ bytes.drop 16 := by
        rw [List.append_assoc, ← drop_eq_take_append bytes 12 4, List.take_append_drop]
    _ = container payload := by
        rw [hhead, hstored, container, ← h.payload]
        rfl

/-! ## Corrupted containers -/

/-- Bytes with one bit of the byte at `index` inverted. -/
def flipBit (bytes : Text) (index : Nat) (bit : Fin 8) : Text :=
  bytes.modify index (· ^^^ UInt8.ofNat (2 ^ bit.val))

/-- The corruptions of a container: it is cut short, extended, has one bit
flipped anywhere, or has at most four consecutive bytes of its payload replaced. -/
inductive Corrupted (original : Text) : Text → Prop
  | truncated {size : Nat} (h : size < original.length) : Corrupted original (original.take size)
  | extended {extra : Text} (h : extra ≠ []) : Corrupted original (original ++ extra)
  | flipped {index : Nat} (h : index < original.length) (bit : Fin 8) :
      Corrupted original (flipBit original index bit)
  | burst {before old new after : Text} (hsplit : original = before ++ old ++ after)
      (hpayload : containerHeaderBytes ≤ before.length) (hlength : new.length = old.length)
      (hfour : old.length ≤ 4) (hnew : new ≠ old) : Corrupted original (before ++ new ++ after)

section Opened

variable {payload opened bytes : Text} (hsize : payload.length < 2 ^ 32)
  (hopen : openContainer bytes = .ok opened)

include hsize hopen

/-- The size of an opened container stands in its first twelve bytes. -/
theorem length_eq_of_open (hhead : bytes.take 12 = (container payload).take 12) :
    bytes.length = (container payload).length := by
  obtain ⟨hof, hheader⟩ := headerOf_open hopen
  have hfield : headerField bytes 8 4 = headerField (container payload) 8 4 := by
    have htwelve : ∀ text : Text, (text.drop 8).take 4 = (text.take 12).drop 8 := by
      intro text
      rw [List.drop_take]
    rw [headerField, headerField, htwelve, htwelve, hhead]
  have hlength : opened.length = payload.length := by
    rw [← hof.length, hfield, (headerOf_container hsize).length]
  rw [hof.eq_container hheader, length_container, length_container, hlength]

/-- Only the container itself opens to its payload. -/
theorem eq_of_open_payload
    (hdrop : bytes.drop containerHeaderBytes = (container payload).drop containerHeaderBytes) :
    bytes = container payload := by
  obtain ⟨hof, hheader⟩ := headerOf_open hopen
  have hpayload : opened = payload := by
    rw [← hof.payload, hdrop, (headerOf_container hsize).payload]
  rw [hof.eq_container hheader, hpayload]

/-- A container whose header is kept keeps the checksum of its payload. -/
theorem crc32_eq_of_open
    (hhead : bytes.take containerHeaderBytes = (container payload).take containerHeaderBytes) :
    crc32 opened = crc32 payload := by
  have hof := (headerOf_open hopen).1
  have hof' := headerOf_container hsize
  have htwelve : bytes.take 12 = (container payload).take 12 := by
    have h := congrArg (List.take 12) hhead
    rwa [List.take_take, List.take_take, min_eq_left (by decide)] at h
  have hfour : (bytes.drop 12).take 4 = ((container payload).drop 12).take 4 := by
    have h := congrArg (List.drop 12) hhead
    simpa only [List.drop_take, containerHeaderBytes, Nat.reduceSub] using h
  have hchecksum : headerField bytes 12 4 = headerField (container payload) 12 4 := by
    rw [headerField, headerField, hfour]
  rw [hof.checksum, hof'.checksum, htwelve] at hchecksum
  exact (UInt32.xor_right_inj _).mp (UInt32.toNat_inj.mp hchecksum)

omit hopen in
/-- Replacing at most four consecutive bytes of the payload is detected. -/
theorem eq_of_open_burst {before old new after : Text}
    (hsplit : container payload = before ++ old ++ after)
    (hpayload : containerHeaderBytes ≤ before.length) (hlength : new.length = old.length)
    (hfour : old.length ≤ 4) (hopen : openContainer (before ++ new ++ after) = .ok opened) :
    new = old := by
  have hhead : (before ++ new ++ after).take containerHeaderBytes =
      (container payload).take containerHeaderBytes := by
    rw [hsplit, List.append_assoc, List.append_assoc, List.take_append_of_le_length hpayload,
      List.take_append_of_le_length hpayload]
  have hnew : opened = before.drop containerHeaderBytes ++ new ++ after := by
    rw [← (headerOf_open hopen).1.payload, List.append_assoc,
      List.drop_append_of_le_length hpayload, List.append_assoc]
  have hold : payload = before.drop containerHeaderBytes ++ old ++ after := by
    rw [← (headerOf_container hsize).payload, hsplit, List.append_assoc,
      List.drop_append_of_le_length hpayload, List.append_assoc]
  have hcrc := crc32_eq_of_open hsize hopen hhead
  rw [hnew, hold] at hcrc
  exact eq_of_crc32_burst hlength (by omega) hcrc

end Opened

theorem flip_ne (byte : UInt8) (bit : Fin 8) : byte ^^^ UInt8.ofNat (2 ^ bit.val) ≠ byte := by
  intro h
  have hzero : UInt8.ofNat (2 ^ bit.val) = 0 := by
    have hxor : byte ^^^ UInt8.ofNat (2 ^ bit.val) = byte ^^^ 0 := by rw [h, UInt8.xor_zero]
    exact (UInt8.xor_right_inj _).mp hxor
  have hbits : ∀ bit : Fin 8, UInt8.ofNat (2 ^ bit.val) ≠ 0 := by decide
  exact hbits bit hzero

/-- A flipped bit is one replaced byte. -/
theorem flipBit_eq {bytes : Text} (h : index < bytes.length) (bit : Fin 8) :
    flipBit bytes index bit =
      bytes.take index ++ [bytes[index] ^^^ UInt8.ofNat (2 ^ bit.val)] ++
        bytes.drop (index + 1) := by
  rw [flipBit, List.modify_eq_take_cons_drop h, List.append_assoc]
  rfl

theorem eq_take_getElem_drop {bytes : Text} (h : index < bytes.length) :
    bytes = bytes.take index ++ [bytes[index]] ++ bytes.drop (index + 1) := by
  rw [List.take_append_getElem h, List.take_append_drop]

theorem flipBit_ne {bytes : Text} (h : index < bytes.length) (bit : Fin 8) :
    flipBit bytes index bit ≠ bytes := by
  intro heq
  have hget := congrArg (fun text : Text => text[index]?) heq
  simp only [flipBit, List.getElem?_modify_eq, List.getElem?_eq_getElem h] at hget
  exact flip_ne _ _ (Option.some.inj hget)

/-- No corrupted container opens. -/
theorem not_open_of_corrupted {payload bytes : Text} (hsize : payload.length < 2 ^ 32)
    (h : Corrupted (container payload) bytes) (opened : Text) :
    openContainer bytes ≠ .ok opened := by
  intro hopen
  have hheader : containerHeaderBytes = 16 := rfl
  cases h with
  | @truncated size hshort =>
    have hlong := (headerOf_open hopen).2
    rw [List.length_take] at hlong
    have htake : ((container payload).take size).take 12 = (container payload).take 12 := by
      rw [List.take_take, min_eq_left (by omega)]
    have hlength := length_eq_of_open hsize hopen htake
    rw [List.length_take] at hlength
    omega
  | @extended extra hextra =>
    have hlong := length_container payload
    have htake : (container payload ++ extra).take 12 = (container payload).take 12 :=
      List.take_append_of_le_length (by omega)
    have hlength := length_eq_of_open hsize hopen htake
    rw [List.length_append] at hlength
    exact hextra (List.eq_nil_of_length_eq_zero (by omega))
  | @flipped index hindex bit =>
    by_cases hpart : index < containerHeaderBytes
    · -- A flip in the header leaves the payload, which has one container only.
      refine flipBit_ne hindex bit (eq_of_open_payload hsize hopen ?_)
      exact List.drop_modify_of_lt _ _ _ _ hpart
    · rw [flipBit_eq hindex] at hopen
      have hpayload : containerHeaderBytes ≤ ((container payload).take index).length := by
        rw [List.length_take]
        omega
      have hone : [(container payload)[index]].length ≤ 4 := by simp
      have hlength : [(container payload)[index] ^^^ UInt8.ofNat (2 ^ bit.val)].length =
          [(container payload)[index]].length := rfl
      have hbyte := eq_of_open_burst hsize (eq_take_getElem_drop hindex) hpayload hlength hone hopen
      exact flip_ne _ _ (List.cons.inj hbyte).1
  | burst hsplit hpayload hlength hfour hnew =>
    exact hnew (eq_of_open_burst hsize hsplit hpayload hlength hfour hopen)

/-- **Corruption is detected.** No corrupted form of an encoded container decodes. -/
theorem corrupted_rejected {p : PersistedState} {original bytes : Text}
    (h : encodePersistedState p = .ok original) (hcorrupted : Corrupted original bytes) :
    ∃ failure, decodePersistedState bytes = .error failure := by
  obtain ⟨-, hlength, rfl⟩ := encode_ok h
  have hsize : ((writeState p).output {}).data.length < 2 ^ 32 := by
    have hmax : maxPersistenceBytes = 268435456 := rfl
    omega
  cases hopen : openContainer bytes with
  | ok opened => exact absurd hopen (not_open_of_corrupted hsize hcorrupted opened)
  | error failure => exact ⟨failure, by rw [decodePersistedState, hopen]; rfl⟩

/-- The container of a withdrawn rack with a flipped bit of its header. -/
theorem corrupted_rejected_flipped :
    ∃ original, encodePersistedState fencedState = .ok original ∧
      ∃ failure, decodePersistedState (flipBit original 9 3) = .error failure := by
  obtain ⟨original, hencode⟩ : ∃ original, encodePersistedState fencedState = .ok original :=
    exists_of_isOk (by decide +kernel)
  have hindex : 9 < original.length := by
    have hheader : containerHeaderBytes = 16 := rfl
    rw [(encode_ok hencode).2.2, length_container]
    omega
  exact ⟨original, hencode, corrupted_rejected hencode (.flipped hindex 3)⟩

end ClusterFabric
