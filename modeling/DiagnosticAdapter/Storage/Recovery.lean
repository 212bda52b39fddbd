import DiagnosticAdapter.Storage.Wal

/-!
# Startup recovery

`recover` decides by the status of the write-ahead log.  The functions here
are those of `recovery.rs`; an interrupted or failed commit is undone by
`removeNewArtifacts` followed by `rollbackPartialCommit`.
-/

namespace DiagnosticAdapter.Storage

open Effects

def isDirEmpty (name : FileName) : FileM Bool := do
  let keys ← readFolder name
  pure keys.isEmpty

def removeNewArtifact : Operation → FileM Unit
  | .write collection key _ => do
    let targetExists ← fileExists collection.asStr key
    let backupExists ← fileExists collection.asStr (backupName key)
    Program.whenever (targetExists && !backupExists) (removeFile collection.asStr key)
  | .createCollection name => do
    Program.whenever (← dirExists name.asStr) do
      Program.whenever (← isDirEmpty name.asStr) (removeDir name.asStr)
  | .copyCollection _ dest destExisted => do
    let targetExists ← dirExists dest.asStr
    let backupExists ← dirExists (backupName dest.asStr)
    Program.whenever (!destExisted && targetExists && !backupExists) (removeDirAll dest.asStr)
  -- These only create backups, which `rollbackPartialCommit` restores.
  | .delete _ _ | .deleteAll _ | .deleteCollection _ => pure ()

def removeNewArtifacts (operations : List Operation) : FileM Unit :=
  Program.forEach operations.reverse removeNewArtifact

def restoreBackup (name entry : FileName) : FileM Unit := do
  Program.whenever (← fileExists name (fileStem entry)) (removeFile name (fileStem entry))
  renameFile name entry (fileStem entry)

/-- The turn of `restore_bak_files_in_dir` for one entry. -/
def restoreEntry (name entry : FileName) : FileM Unit := do
  Program.whenever (isBackup entry) (restoreBackup name entry)
  Program.whenever (isStaging entry) (removeFile name entry)

def restoreBakFilesInDir (name : FileName) : FileM Unit := do
  let entries ← readFolder name
  Program.forEach entries (restoreEntry name)

def restoreCollection (entry : FileName) : FileM Unit := do
  Program.whenever (← dirExists (fileStem entry)) (removeDirAll (fileStem entry))
  renameDir entry (fileStem entry)

/-- The turn of `rollback_partial_commit` for one entry. -/
def rollbackEntry (entry : FileName) : FileM Unit := do
  Program.whenever (← dirExists entry)
    (if isBackup entry then restoreCollection entry else restoreBakFilesInDir entry)

def rollbackPartialCommit : FileM Unit := do
  let entries ← readCollections
  Program.forEach entries rollbackEntry

def hasBackupFiles (disk : Disk) : Bool :=
  disk.collections.entries.any fun entry =>
    isBackup entry.1 || entry.2.keys.any isBackup

def isNewArtifact (disk : Disk) : Operation → Bool
  | .write collection key _ =>
    (disk.contents.file collection.asStr key).isSome &&
      !(disk.contents.file collection.asStr (backupName key)).isSome
  | .createCollection name => (disk.contents name.asStr).isSome
  | .copyCollection _ dest destExisted =>
    !destExisted && (disk.contents dest.asStr).isSome &&
      !(disk.contents (backupName dest.asStr)).isSome
  | .delete _ _ | .deleteAll _ | .deleteCollection _ => false

def hasNewArtifacts (operations : List Operation) (disk : Disk) : Bool :=
  operations.any (isNewArtifact disk)

def deleteBackupsIn (name : FileName) : FileM Unit := do
  let keys ← readFolder name
  Program.forEach keys fun key => Program.whenever (isBackup key) (removeFile name key)

/-- The turn of `delete_all_backup_files` for one entry. -/
def deleteBackupEntry (entry : FileName) : FileM Unit := do
  Program.whenever (← dirExists entry)
    (if isBackup entry then removeDirAll entry else deleteBackupsIn entry)

def deleteAllBackupFiles : FileM Unit := do
  let entries ← readCollections
  Program.forEach entries deleteBackupEntry

def cleanupStagingDir : FileM Unit := do
  let staged ← readStaging
  Program.forEach staged removeStaged

def corruptionReason : String :=
  "WAL is truncated and operations were partially applied, indicating " ++
    "possible filesystem corruption."

variable (codec : Codec)

def recoverCommitting (walResult : WalReadResult) : FileM Unit :=
  if walResult.truncated then do
    let hasBackups ← Program.look hasBackupFiles
    let hasAppliedArtifacts ← Program.look (hasNewArtifacts walResult.operations)
    Program.whenever (hasBackups || hasAppliedArtifacts)
      (Program.fail (.corruption corruptionReason))
  else do
    -- New artifacts are recognised by their missing backup, so they go first.
    removeNewArtifacts walResult.operations
    rollbackPartialCommit

/-- The part of `recover` that depends on the status of the log. -/
def recoverStatus : Option (WalStatus × Bytes) → FileM Unit
  | some (.committing, data) => do
    let walResult ← Program.ofExcept (readWal codec data)
    recoverCommitting walResult
  | some (.recording, _) => pure ()
  | none => do
    Program.whenever (← Program.look hasBackupFiles) deleteAllBackupFiles

def recover : FileM Unit := do
  let status ← openWal codec
  recoverStatus codec status
  Program.whenever (← walExists) removeWal
  cleanupStagingDir

end DiagnosticAdapter.Storage
