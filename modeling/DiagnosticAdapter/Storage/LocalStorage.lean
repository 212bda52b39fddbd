import DiagnosticAdapter.Storage.Recovery

/-!
# Committing a transaction

`applyInner` is the body of `LocalStorageCommitter::apply`.  The clean-up
functions of `local_storage.rs` and `recovery.rs` do the same thing under two
names; both are kept.
-/

namespace DiagnosticAdapter.Storage

open Effects

def backupAllFilesInDir (name : FileName) : FileM Unit := do
  let keys ← readFolder name
  Program.forEach keys fun key => renameFile name key (backupName key)

def copyDirContents (source dest : FileName) : FileM Unit := do
  let keys ← readFolder source
  Program.forEach keys fun key => copyFile source key dest

def backupFile (name key : FileName) : FileM Unit := do
  Program.whenever (← fileExists name key) (renameFile name key (backupName key))

def backupDir (name : FileName) : FileM Unit := do
  Program.whenever (← dirExists name) (renameDir name (backupName name))

def applyOperation : Operation → FileM Unit
  | .write collection key stagedPath => do
    createDirAll collection.asStr
    backupFile collection.asStr key
    moveStaged stagedPath collection.asStr key
  | .delete collection key => backupFile collection.asStr key
  | .deleteAll collection => do
    Program.whenever (← dirExists collection.asStr) (backupAllFilesInDir collection.asStr)
  | .createCollection name => createDirAll name.asStr
  | .deleteCollection name => backupDir name.asStr
  | .copyCollection source dest _ => do
    backupDir dest.asStr
    createDirAll dest.asStr
    copyDirContents source.asStr dest.asStr

def applyOperations (operations : List Operation) : FileM Unit :=
  Program.forEach operations applyOperation

def rollbackAppliedOperations (operations : List Operation) : FileM Unit := do
  removeNewArtifacts operations
  rollbackPartialCommit

/-- The directory `sync_collection_dirs` synchronises for an operation. -/
def Operation.syncedDir : Operation → FileName
  | .write collection _ _ | .delete collection _ | .deleteAll collection => collection.asStr
  | .createCollection name | .deleteCollection name => name.asStr
  | .copyCollection _ dest _ => dest.asStr

def openAndSync : FileM Unit := do
  sync
  sync

def syncDir (name : FileName) : FileM Unit := do
  Program.whenever (← dirExists name) openAndSync

def syncCollectionDirs (operations : List Operation) : FileM Unit := do
  Program.forEach (operations.map Operation.syncedDir).eraseDups syncDir
  openAndSync

def syncStagingFiles : FileM Unit := do
  let staged ← readStaging
  Program.forEach staged fun _ => openAndSync

def cleanupBackupFiles : FileM Unit := deleteAllBackupFiles

def cleanupDirectoryContents : FileM Unit := cleanupStagingDir

variable (codec : Codec)

/-- Steps 6 and 7 of `apply`, and its result. -/
def finishApply (result : Except StorageError Unit) : FileM Unit := do
  Program.whenever (← walExists) (Program.within .removeWal removeWal)
  Program.within (.syncJournal result.isOk) openAndSync
  Program.whenever result.isOk do
    let _ ← Program.attempt (Program.within .cleanup cleanupBackupFiles)
  let _ ← Program.attempt (Program.within .cleanup cleanupDirectoryContents)
  Program.ofExcept result

/-- Steps 1 and 2 of `apply`, before it waits for the readers. -/
def prepareCommit : FileM Unit := do
  Program.within .markCommitting (markCommitting codec)
  Program.within .syncStaging syncStagingFiles
  Program.within .syncWal openAndSync

/-- Steps 4 to 7 of `apply`, with the exclusive guard held. -/
def applyLocked (operations : List Operation) : FileM Unit := do
  let result ← Program.attempt (Program.within .applyOperations (applyOperations operations))
  match result with
  | .error error => do
    -- An error of the rollback is only logged.
    let _ ← Program.attempt
      (Program.within .rollback (rollbackAppliedOperations operations))
    finishApply (.error error)
  | .ok () => do
    Program.within .syncCollections (syncCollectionDirs operations)
    finishApply (.ok ())

def applyInner (operations : List Operation) : FileM Unit := do
  prepareCommit codec
  applyLocked operations

/-- The files `begin_transaction` creates.  The staging directory exists since
the start of the storage, so creating it can only fail. -/
def createJournal : FileM Unit := do
  createWal codec
  sync

def discard : FileM Unit := do
  let _ ← Program.attempt cleanupDirectoryContents
  let exists_ ← walExists
  let _ ← Program.attempt (Program.whenever exists_ removeWal)

end DiagnosticAdapter.Storage
