import DiagnosticAdapter.Update.Executions

/-!
# Applying, rolling back and reloading

`execute_apply` and `execute_rollback` over a storage whose calls meet no fault, and the
reloader that rolls back by itself when the new runtime cannot be installed.
-/

namespace DiagnosticAdapter.Update.Reload

open Effects
open Storage (CollectionName Contents Content Bytes FileName Folder
  StorageError Operation performAll)

abbrev Store := AList fun _ : FileName => Folder

namespace Store

def contents (store : Store) : Contents := fun name =>
  (store.lookup name).map fun folder key => folder.lookup key

/-- The files of a collection, none if there is no such collection. -/
def files (store : Store) (name : CollectionName) : Content := fun key =>
  store.contents.file name.asStr key

def folder (store : Store) (name : CollectionName) : Folder :=
  (store.lookup name.asStr).getD ∅

def created (name : CollectionName) (store : Store) : Store :=
  store.insert name.asStr (store.folder name)

/-- `Operation.perform`, on the collections themselves. -/
def perform (staged : FileName → Option Bytes) : Operation → Store → Store
  | .write collection key stagedPath, store =>
    store.insert collection.asStr (match staged stagedPath with
      | some bytes => (store.folder collection).insert key bytes
      | none => (store.folder collection).erase key)
  | .delete collection key, store =>
    match store.lookup collection.asStr with
    | some folder => store.insert collection.asStr (folder.erase key)
    | none => store
  | .deleteAll collection, store =>
    match store.lookup collection.asStr with
    | some _ => store.insert collection.asStr ∅
    | none => store
  | .createCollection name, store => store.created name
  | .deleteCollection name, store => store.erase name.asStr
  | .copyCollection source dest _, store =>
    match store.lookup source.asStr with
    | some folder => store.insert dest.asStr folder
    | none => store.erase dest.asStr

end Store

abbrev ReloadM := EStateM RuntimeUpdateError Store

def getCollection (name : CollectionName) : ReloadM Unit := do
  if ((← get).lookup name.asStr).isSome then return ()
  else throw (.from (.collectionNotFound (String.ofList name.asStr)))

def getOrCreateCollection (name : CollectionName) : ReloadM Unit :=
  modify (Store.created name)

def list (name : CollectionName) : ReloadM (List FileName) := do
  return ((← get).folder name).keys

def isEmpty (name : CollectionName) : ReloadM Bool := do
  return (← list name).isEmpty

abbrev Recorded := List Operation

def copyCollection (tx : Recorded) (source dest : CollectionName) : ReloadM Recorded := do
  getCollection source
  let destExisted := ((← get).lookup dest.asStr).isSome
  return tx ++ [.copyCollection source dest destExisted]

def deleteCollection (tx : Recorded) (name : CollectionName) : ReloadM Recorded := do
  getCollection name
  return tx ++ [.deleteCollection name]

def deleteCollectionIgnoreMissing (tx : Recorded) (name : CollectionName) : ReloadM Recorded := do
  match ← attempt (deleteCollection tx name) with
  | .ok tx => return tx
  | .error (.storageError (.collectionNotFound _)) => return tx
  | .error error => throw error

/-- None of the operations here writes a staged file. -/
def commit (tx : Recorded) : ReloadM Unit :=
  modify fun store => tx.foldl (fun store operation => store.perform (fun _ => none) operation)
    store

def tryGetCollection (name : CollectionName) : ReloadM Bool := do
  match ← attempt (getCollection name) with
  | .ok () => return true
  | .error (.storageError (.collectionNotFound _)) => return false
  | .error error => throw error

/-- How far the installation of a new runtime gets. -/
structure Installation where
  create : List FileName → Except String Unit
  updateEntries : Except String Unit
  replaceRoutes : Except String Unit

def installRoutes (installation : Installation) : Except String Unit := do
  if let .error e := installation.updateEntries then
    throw s!"Failed to update runtime locks: {e}"
  if let .error e := installation.replaceRoutes then
    throw s!"Failed to replace vehicle routes: {e}"

def installNewRuntime (installation : Installation) (mddPaths : List FileName) :
    Except String Unit := do
  if let .error e := installation.create mddPaths then
    throw s!"Failed to create replacement runtime: {e}"
  installRoutes installation

def reloadAfterRollback (installation : Installation) (mddPaths : List FileName) :
    Except String Unit := do
  if let .error e := installation.create mddPaths then
    throw s!"Failed to create runtime during rollback: {e}"
  installRoutes installation

structure Runtime where
  /-- `update_mdd_uncompressed`, which may fail for a file. -/
  decompressed : FileName → Bytes → Option Bytes
  mddDecompress : Bool
  install : Installation
  /-- The installation that the automatic rollback tries. -/
  rollback : Installation

/-- The files are rewritten in place; a file that cannot be decompressed stays. -/
def decompress (decompressed : FileName → Bytes → Option Bytes) (folder : Folder) : Folder :=
  ⟨folder.entries.map fun entry => ⟨entry.1, (decompressed entry.1 entry.2).getD entry.2⟩, by
    have keys : (folder.entries.map fun entry =>
        (⟨entry.1, (decompressed entry.1 entry.2).getD entry.2⟩ :
          Sigma fun _ : FileName => Bytes)).keys = folder.entries.keys := by
      simp [List.keys]
    rw [List.NodupKeys, keys]
    exact folder.nodupKeys⟩

section Reload

variable (decompressed : FileName → Bytes → Option Bytes)

def reloadDatabaseIfPresent (decompresses : Bool)
    (reload : List FileName → ReloadM (Except String Unit)) : ReloadM Unit := do
  getOrCreateCollection current
  let mddPaths ← list current
  if decompresses then
    modify fun store => store.insert current.asStr (decompress decompressed (store.folder current))
  match ← reload mddPaths with
  | .ok () => return ()
  | .error e => throw (.reloadFailed s!"Reload error: {e}")

def swapCollection (tx : Recorded) (current backup nextUpdate : CollectionName) :
    ReloadM Recorded := do
  let tx ← copyCollection tx current backup
  let tx ← copyCollection tx nextUpdate current
  deleteCollection tx nextUpdate

def executeApply (decompresses : Bool) (reload : List FileName → ReloadM (Except String Unit)) :
    ReloadM Unit := do
  let mddNext ← tryGetCollection next
  if !mddNext then throw .noPendingUpdate
  getOrCreateCollection current
  getOrCreateCollection backup
  let tx ← swapCollection [] current backup next
  commit tx
  reloadDatabaseIfPresent decompressed decompresses reload

def restoreFromBackup (tx : Recorded) (backup current nextUpdate : CollectionName) :
    ReloadM Recorded := do
  let tx ← copyCollection tx backup current
  let tx ← deleteCollectionIgnoreMissing tx nextUpdate
  return tx ++ [.deleteAll backup]

def executeRollback (reload : List FileName → ReloadM (Except String Unit)) : ReloadM Unit := do
  getOrCreateCollection backup
  let mddBackupEmpty ← isEmpty backup
  if mddBackupEmpty then throw .noBackup
  let tx ← restoreFromBackup [] backup current next
  commit tx
  reloadDatabaseIfPresent decompressed false reload

def executeCleanup : ReloadM Unit := do
  getOrCreateCollection backup
  let tx ← deleteCollectionIgnoreMissing [] next
  commit (tx ++ [.deleteAll backup])

end Reload

/-- The old runtime is torn down first; a failed installation starts a rollback from the
persistent backup, and is the result whatever comes of that. -/
def reloadDatabases (runtime : Runtime) (mddPaths : List FileName) :
    ReloadM (Except String Unit) := do
  match installNewRuntime runtime.install mddPaths with
  | .ok () => return .ok ()
  | .error e =>
    let _ ← attempt (executeRollback runtime.decompressed fun mddPaths =>
      return reloadAfterRollback runtime.rollback mddPaths)
    return .error e

def executeOperation (runtime : Runtime) : ExecutionMode → ReloadM Unit
  | .apply => executeApply runtime.decompressed runtime.mddDecompress (reloadDatabases runtime)
  | .rollback => executeRollback runtime.decompressed (reloadDatabases runtime)
  | .cleanup => executeCleanup

end DiagnosticAdapter.Update.Reload
