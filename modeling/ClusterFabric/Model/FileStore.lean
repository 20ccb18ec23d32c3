import ClusterFabric.Model.Encode

/-! # The file store

`FilePersistenceStore` of `persistence.cpp`. Every call that reaches the file system is
one action, so that the process may die between any two of them. What the file system
answers is part of the action.
-/

namespace ClusterFabric

/-- The files by their paths. -/
abbrev Files := Text → Option Text

/-- A `save` from the opening of its temporary file on, with the bytes that are written so
far. Once the file is renamed, the `save` has only to return. -/
structure Saving where
  state : PersistedState
  bytes : Text
  written : Nat := 0
  renamed : Bool := false

structure FileStore where
  process : UInt64
  temporaryPath : Text := []
  temporaryCounter : UInt64 := 0
  saving : Option Saving := none

inductive FileAction
  /-- A `save` to the opening of its temporary file. -/
  | save (state : PersistedState) (opened : Bool)
  /-- The stream writes some bytes, all of them or until it fails. -/
  | write (count : Nat) (good : Bool)
  | replace (renamed : Bool)
  /-- A `save` returns after its rename. -/
  | finish
  /-- The process ends or dies, and another one opens the store. -/
  | exit (successor : UInt64)

def saveFailed (status : PersistenceStatus) (reason message : String) : SaveOutcome where
  status := status
  error := .make .persistence .persist (text reason) (text message)

namespace FileStore

variable (path : Text) (files : Files) (store : FileStore)

def temporaryName (process counter : UInt64) : Text :=
  path ++ text ".tmp-" ++ decimal process.toNat ++ text "-" ++ decimal counter.toNat

def discardTemporary : Files × FileStore :=
  if store.temporaryPath.isEmpty then (files, store)
  else (Function.update files store.temporaryPath none, { store with temporaryPath := [] })

/-- A `save` gives up its temporary file and returns. -/
def abandon (outcome : SaveOutcome) : Files × FileStore × Option SaveOutcome :=
  let (files, store) := discardTemporary files { store with saving := none }
  (files, store, some outcome)

/-- An action, and what the `save` returns if that is the last of it. -/
def act : FileAction → Files × FileStore × Option SaveOutcome
  | .save state opened =>
    if store.saving.isSome then (files, store, none)
    else if path.isEmpty then
      (files, store, some (saveFailed .ioError "empty_path" "no persistence path was configured"))
    else match encodePersistedState state with
      | .error failure => (files, store, some { status := failure.status, error := failure.error })
      | .ok bytes =>
        let (files, store) := discardTemporary files store
        let counter := store.temporaryCounter + 1
        let store := { store with
          temporaryCounter := counter, temporaryPath := temporaryName path store.process counter }
        if opened then
          (Function.update files store.temporaryPath (some []),
            { store with saving := some { state, bytes } }, none)
        else abandon files store (saveFailed .tempFileUnavailable "temp_file_unavailable"
          "could not open the temporary container for writing")
  | .write count good =>
    match store.saving with
    | none => (files, store, none)
    | some saving =>
      let files' := Function.update files store.temporaryPath
        ((files store.temporaryPath).map (· ++ (saving.bytes.drop saving.written).take count))
      if saving.renamed then (files, store, none)
      else if good then
        (files', { store with saving := some { saving with written := saving.written + count } },
          none)
      else abandon files' store (saveFailed .ioError "write_failed"
        "temporary container write failed")
  | .replace renamed =>
    match store.saving with
    | none => (files, store, none)
    | some saving =>
      if saving.renamed || saving.written < saving.bytes.length then (files, store, none)
      else if renamed then
        (Function.update (Function.update files path (files store.temporaryPath))
            store.temporaryPath none,
          { store with saving := some { saving with renamed := true } }, none)
      else abandon files store (saveFailed .atomicReplaceFailed "atomic_replace_failed"
        "could not atomically replace the committed container")
  | .finish =>
    match store.saving with
    | none => (files, store, none)
    | some saving =>
      if saving.renamed then
        (files, { store with temporaryPath := [], saving := none },
          some { ok := true, bytesWritten := saving.bytes.length })
      else (files, store, none)
  | .exit successor =>
    -- the destructor does not run in the middle of a save
    (if store.saving.isNone then (discardTemporary files store).1 else files,
      { process := successor }, none)

/-- The state of a `save` whose rename succeeded, or else that of the last one before. -/
def lastRenamed (last : Option PersistedState) : Option PersistedState :=
  match store.saving with
  | none => last
  | some saving => if saving.renamed then some saving.state else last

end FileStore

/-- The files, the store, and the state of the last `save` whose rename succeeded. -/
structure FileWorld where
  files : Files
  store : FileStore
  last : Option PersistedState := none

def FileWorld.step (path : Text) (w : FileWorld) (action : FileAction) : FileWorld :=
  let (files, store, _) := w.store.act path w.files action
  { files := files
    store := store
    last := store.lastRenamed w.last }

end ClusterFabric
