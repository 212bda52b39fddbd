import DiagnosticAdapter.Storage.LocalStorage

/-!
# What leaves the log alone

Applying and undoing operations work on the collections and the staging
directory; the log only changes where the commit or the recovery says so.
-/

namespace DiagnosticAdapter.Storage

open Effects

/-- Neither a step of the program nor a fault changes the log. -/
abbrev KeepsLog {Result : Type} (program : FileM Result) : Prop :=
  ∀ wal, program.Keeps fun disk : Disk => disk.wal = wal

theorem KeepsLog.call {change : Disk → Except StorageError Disk}
    (moves : ∀ disk next, change disk = .ok next → next.wal = disk.wal) :
    KeepsLog (call change) :=
  fun _ => .step fun disk next same changed => (moves disk next changed).trans same

theorem KeepsLog.bind {Result Result' : Type} {first : FileM Result}
    {second : Result → FileM Result'} (one : KeepsLog first)
    (two : ∀ value, KeepsLog (second value)) : KeepsLog (first >>= second) :=
  fun wal => .bind (one wal) fun value => two value wal

theorem KeepsLog.whenever {condition : Bool} {program : FileM Unit} (inner : KeepsLog program) :
    KeepsLog (Program.whenever condition program) :=
  fun wal => .whenever (inner wal)

theorem KeepsLog.forEach {Item : Type} {body : Item → FileM Unit}
    (turn : ∀ item, KeepsLog (body item)) (items : List Item) :
    KeepsLog (Program.forEach items body) :=
  fun wal => .forEach (fun item => turn item wal) items

theorem KeepsLog.look {Result : Type} (query : Disk → Result) :
    KeepsLog (Program.look query : FileM Result) :=
  fun _ => .look query

theorem KeepsLog.list {names : Disk → Except StorageError (List FileName)}
    {fault : StorageError} : KeepsLog (Program.list fault names) :=
  fun _ => .list

theorem keepsLog_createDirAll (name : FileName) : KeepsLog (createDirAll name) :=
  .call fun _ _ made => (Disk.createDirAll_ok made).1

theorem keepsLog_renameFile (name source target : FileName) :
    KeepsLog (renameFile name source target) :=
  .call fun _ _ renamed => (Disk.renameFile_ok renamed).1

theorem keepsLog_renameDir (source target : FileName) : KeepsLog (renameDir source target) :=
  .call fun _ _ renamed => (Disk.renameDir_ok renamed).1

theorem keepsLog_removeFile (name key : FileName) : KeepsLog (removeFile name key) :=
  .call fun _ _ removed => (Disk.removeFile_ok removed).1

theorem keepsLog_removeDir (name : FileName) : KeepsLog (removeDir name) :=
  .call fun _ _ removed => (Disk.removeDir_ok removed).1

theorem keepsLog_removeDirAll (name : FileName) : KeepsLog (removeDirAll name) :=
  .bind .list fun keys => .bind (.forEach (keepsLog_removeFile name) keys) fun _ =>
    keepsLog_removeDir name

theorem keepsLog_backupFile (name key : FileName) : KeepsLog (backupFile name key) :=
  .bind (.look _) fun _ => .whenever (keepsLog_renameFile name key _)

theorem keepsLog_backupDir (name : FileName) : KeepsLog (backupDir name) :=
  .bind (.look _) fun _ => .whenever (keepsLog_renameDir name _)

theorem keepsLog_applyOperation (operation : Operation) : KeepsLog (applyOperation operation) := by
  cases operation with
  | write collection key stagedPath =>
    exact .bind (keepsLog_createDirAll _) fun _ => .bind (keepsLog_backupFile _ _) fun _ =>
      .call fun _ _ moved => (Disk.moveStaged_ok moved).1
  | delete collection key => exact keepsLog_backupFile _ _
  | deleteAll collection =>
    exact .bind (.look _) fun _ => .whenever (.bind .list fun keys =>
      .forEach (fun key => keepsLog_renameFile _ key _) keys)
  | createCollection name => exact keepsLog_createDirAll _
  | deleteCollection name => exact keepsLog_backupDir _
  | copyCollection source dest destExisted =>
    exact .bind (keepsLog_backupDir _) fun _ => .bind (keepsLog_createDirAll _) fun _ =>
      .bind .list fun keys => .forEach
        (fun key => .call fun _ _ copied => (Disk.copyFile_ok copied).1) keys

theorem keepsLog_applyOperations (operations : List Operation) :
    KeepsLog (applyOperations operations) :=
  .forEach keepsLog_applyOperation operations

theorem keepsLog_removeNewArtifact (operation : Operation) :
    KeepsLog (removeNewArtifact operation) := by
  cases operation with
  | write collection key stagedPath =>
    exact .bind (.look _) fun _ => .bind (.look _) fun _ => .whenever (keepsLog_removeFile _ _)
  | createCollection name =>
    exact .bind (.look _) fun _ => .whenever (.bind (.bind .list fun _ => fun _ => .pure _)
      fun _ => .whenever (keepsLog_removeDir _))
  | copyCollection source dest destExisted =>
    exact .bind (.look _) fun _ => .bind (.look _) fun _ =>
      .whenever (keepsLog_removeDirAll _)
  | delete collection key | deleteAll collection | deleteCollection name => exact fun _ => .pure ()

theorem keepsLog_restoreEntry (name entry : FileName) : KeepsLog (restoreEntry name entry) :=
  .bind (.whenever (.bind (.look _) fun _ => .bind (.whenever (keepsLog_removeFile name _))
    fun _ => keepsLog_renameFile name entry _)) fun _ => .whenever (keepsLog_removeFile name entry)

theorem keepsLog_rollbackEntry (entry : FileName) : KeepsLog (rollbackEntry entry) := by
  refine .bind (.look _) fun _ => .whenever ?_
  split
  · exact .bind (.look _) fun _ => .bind (.whenever (keepsLog_removeDirAll _)) fun _ =>
      keepsLog_renameDir entry _
  · exact .bind .list fun entries => .forEach (keepsLog_restoreEntry entry) entries

theorem keepsLog_rollbackAppliedOperations (operations : List Operation) :
    KeepsLog (rollbackAppliedOperations operations) :=
  .bind (.forEach keepsLog_removeNewArtifact operations.reverse) fun _ =>
    .bind .list fun entries => .forEach keepsLog_rollbackEntry entries

end DiagnosticAdapter.Storage
