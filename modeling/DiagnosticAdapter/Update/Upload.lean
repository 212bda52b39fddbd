import DiagnosticAdapter.Effects.Stateful
import DiagnosticAdapter.Storage.Refinement

/-!
# Uploading runtime files

`upload_files` over the calls of the storage trait.  Any call may fail; a call that fails
leaves the committed collections as they are, and so do the calls that only record an
operation.
-/

namespace DiagnosticAdapter.Update

open Effects
open Storage (CollectionName Contents Content Bytes FileName StorageError
  Operation performAll)

inductive RuntimeUpdateError where
  | storageError (error : StorageError)
  | invalidMddFile (message : String)
  | invalidFileType (filename : FileName)
  | validationFailed (message : String)
  | noLock (message : String)
  | lockConflict (message : String)
  | operationsInProgress (message : String)
  | noPendingUpdate
  | noBackup
  | transactionBusy
  | reloadFailed (message : String)
  | executionConflict
  | fileNotFound (message : String)
  | fatalError (message : String)
  | severeError (message : String)
  deriving DecidableEq, Repr

def RuntimeUpdateError.from : StorageError → RuntimeUpdateError
  | .transactionBusy => .transactionBusy
  | other => .storageError other

inductive Call where
  | getCollection
  | getOrCreateCollection
  | beginTransaction
  | copyCollection
  | deleteCollection
  | write
  | delete
  | deleteAll
  | commit
  | filePath
  deriving DecidableEq, Repr

structure Surroundings where
  toLowercase : FileName → FileName
  display : RuntimeUpdateError → String
  /-- Whether the call fails that is made after so many others. -/
  fails : Call → Nat → Bool
  /-- The answer of the security handler for the file with this key and content. -/
  checkFileIntegrity : Nat → FileName → Option Bytes → Except String Unit

structure UploadFile where
  filename : FileName
  data : Bytes
  deriving DecidableEq, Repr

structure Transaction where
  operations : List Operation
  staged : FileName → Option Bytes

structure State where
  store : Contents
  /-- The keys of `result.items`, with what was written for them. -/
  items : List (FileName × Bytes)
  clock : Nat

abbrev UploadM := EStateM RuntimeUpdateError State

def next : CollectionName := .diagnosticDatabaseNextUpdate

def current : CollectionName := .diagnosticDatabase

def backup : CollectionName := .diagnosticDatabaseBackup

section Calls

variable (surroundings : Surroundings)

/-- A call that may fail by itself, or because of the state of the storage. -/
def call (call : Call) (change : Contents → Except StorageError Contents) : UploadM Unit :=
  fun state =>
    if surroundings.fails call state.clock then
      .error (.storageError (.io .fault)) { state with clock := state.clock + 1 }
    else
      match change state.store with
      | .ok store => .ok () { state with store := store, clock := state.clock + 1 }
      | .error error => .error (.from error) { state with clock := state.clock + 1 }

def requireCollection (name : CollectionName) (store : Contents) : Except StorageError Contents :=
  if (store name.asStr).isSome then .ok store
  else .error (.collectionNotFound (String.ofList name.asStr))

def requireKey (name : CollectionName) (key : FileName) (store : Contents) :
    Except StorageError Contents :=
  if (store.file name.asStr key).isSome then .ok store
  else .error (.keyNotFound (String.ofList key))

def getCollection (name : CollectionName) : UploadM Unit :=
  call surroundings .getCollection (requireCollection name)

def getOrCreateCollection (name : CollectionName) : UploadM Unit :=
  call surroundings .getOrCreateCollection fun store =>
    .ok (Function.update store name.asStr (some ((store name.asStr).getD fun _ => none)))

def beginTransaction : UploadM Transaction := do
  call surroundings .beginTransaction .ok
  return ⟨[], fun _ => none⟩

def copyCollection (tx : Transaction) (source dest : CollectionName) : UploadM Transaction := do
  call surroundings .copyCollection (requireCollection source)
  let destExisted := ((← get).store dest.asStr).isSome
  return { tx with operations := tx.operations ++ [.copyCollection source dest destExisted] }

def deleteCollection (tx : Transaction) (name : CollectionName) : UploadM Transaction := do
  call surroundings .deleteCollection (requireCollection name)
  return { tx with operations := tx.operations ++ [.deleteCollection name] }

/-- The staging file is named after the key here. -/
def write (tx : Transaction) (collection : CollectionName) (key : FileName) (data : Bytes) :
    UploadM Transaction := do
  call surroundings .write .ok
  return ⟨tx.operations ++ [.write collection key key], Function.update tx.staged key (some data)⟩

def delete (tx : Transaction) (collection : CollectionName) (key : FileName) :
    UploadM Transaction := do
  call surroundings .delete (requireKey collection key)
  return { tx with operations := tx.operations ++ [.delete collection key] }

def deleteAll (tx : Transaction) (collection : CollectionName) : UploadM Transaction := do
  call surroundings .deleteAll .ok
  return { tx with operations := tx.operations ++ [.deleteAll collection] }

def commit (tx : Transaction) : UploadM Unit :=
  call surroundings .commit fun store => .ok (performAll tx.staged tx.operations store)

def filePath (collection : CollectionName) (key : FileName) : UploadM Unit :=
  call surroundings .filePath (requireKey collection key)

def checkFileIntegrity (collection : CollectionName) (key : FileName) :
    UploadM (Except String Unit) := fun state =>
  .ok (surroundings.checkFileIntegrity state.clock key (state.store.file collection.asStr key))
    { state with clock := state.clock + 1 }

end Calls

section Upload

variable (surroundings : Surroundings)

def initCollectionFromCopyIfMissing (tx : Transaction) (alreadyExists initialized : Bool)
    (source destination : CollectionName) : UploadM (Transaction × Bool) := do
  if alreadyExists || initialized then
    return (tx, initialized)
  else
    match ← attempt (copyCollection surroundings tx source destination) with
    | .ok tx => return (tx, true)
    -- On a fresh system there is nothing to copy.
    | .error (.storageError (.collectionNotFound _)) => return (tx, true)
    | .error error => throw error

def deleteCollectionIgnoreMissing (tx : Transaction) (name : CollectionName) :
    UploadM Transaction := do
  match ← attempt (deleteCollection surroundings tx name) with
  | .ok tx => return tx
  | .error (.storageError (.collectionNotFound _)) => return tx
  | .error error => throw error

def executeCleanup : UploadM Unit := do
  getOrCreateCollection surroundings backup
  let tx ← beginTransaction surroundings
  let tx ← deleteCollectionIgnoreMissing surroundings tx next
  let tx ← deleteAll surroundings tx backup
  commit surroundings tx

/-- One file up to its commit; whether the collection is initialized is returned. -/
def stageFile (alreadyExists initialized : Bool) (key : FileName) (data : Bytes) :
    UploadM Bool := do
  let tx ← beginTransaction surroundings
  let (tx, initialized) ← initCollectionFromCopyIfMissing surroundings tx alreadyExists
    initialized current next
  let tx ← write surroundings tx next key data
  commit surroundings tx
  return initialized

end Upload

end DiagnosticAdapter.Update
