import DiagnosticAdapter.Update.Reload

/-!
# What a failed update leaves

The storage is committed before the reload, and the automatic rollback goes back to the
backup collection: that of the failed apply, or the one a failed rollback has emptied.
-/

namespace DiagnosticAdapter.Update.Reload

open Effects
open Storage (CollectionName Contents Content Bytes FileName Folder
  StorageError Operation performAll)

namespace Store

variable {store : Store} {name other source dest : CollectionName} {folder_ : Folder}

theorem files_eq : store.files name = fun key => (store.folder name).lookup key := by
  funext key
  unfold files Contents.file contents folder
  cases store.lookup name.asStr with
  | none => simp
  | some folder => rfl

theorem folder_of_asStr (same : name.asStr = other.asStr) :
    store.folder name = store.folder other := by
  rw [folder, folder, same]

theorem folder_insert (written : FileName) : folder (store.insert written folder_) name =
      if name.asStr = written then folder_ else store.folder name := by
  unfold folder
  by_cases same : name.asStr = written
  · subst same
    simp
  · simp [same]

theorem folder_erase (erased : FileName) :
    folder (store.erase erased) name = if name.asStr = erased then ∅ else store.folder name := by
  unfold folder
  by_cases same : name.asStr = erased
  · subst same
    simp
  · simp [same]

variable {staged : FileName → Option Bytes}

theorem folder_copyCollection {destExisted : Bool} :
    folder (store.perform staged (.copyCollection source dest destExisted)) name =
      if name.asStr = dest.asStr then store.folder source else store.folder name := by
  simp only [perform]
  cases present : store.lookup source.asStr with
  | none =>
    simp only
    rw [folder_erase]
    simp [folder, present]
  | some found =>
    simp only
    rw [folder_insert]
    simp [folder, present]

theorem folder_deleteCollection : folder (store.perform staged (.deleteCollection other)) name =
      if name.asStr = other.asStr then ∅ else store.folder name :=
  folder_erase _

theorem folder_deleteAll : folder (store.perform staged (.deleteAll other)) name =
      if name.asStr = other.asStr then ∅ else store.folder name := by
  simp only [perform]
  cases present : store.lookup other.asStr with
  | none =>
    simp only
    by_cases same : name.asStr = other.asStr
    · rw [if_pos same, folder_of_asStr same, folder, present]
      rfl
    · rw [if_neg same]
  | some found => exact folder_insert _

end Store

variable {store : Store} {name source dest : CollectionName} {tx : Recorded}
  {decompressed : FileName → Bytes → Option Bytes} {decompresses : Bool}
  {reload : List FileName → ReloadM (Except String Unit)}

theorem commit_nil : finalState (commit [] store) = store := rfl

theorem commit_cons {operation : Operation} : finalState (commit (operation :: tx) store) =
      finalState (commit tx (store.perform (fun _ => none) operation)) := rfl

theorem getCollection_of_some (present : (store.lookup name.asStr).isSome = true) :
    getCollection name store = .ok () store := by
  unfold getCollection
  rw [bind_of_ok (rfl : (get : ReloadM Store) store = .ok store store), if_pos present]
  rfl

theorem getCollection_of_none (absent : (store.lookup name.asStr).isSome = false) :
    getCollection name store =
      .error (.storageError (.collectionNotFound (String.ofList name.asStr))) store := by
  unfold getCollection
  rw [bind_of_ok (rfl : (get : ReloadM Store) store = .ok store store), if_neg (by simp [absent])]
  rfl

theorem copyCollection_of_some (present : (store.lookup source.asStr).isSome = true) :
    ∃ destExisted, copyCollection tx source dest store =
      .ok (tx ++ [.copyCollection source dest destExisted]) store := by
  refine ⟨(store.lookup dest.asStr).isSome, ?_⟩
  unfold copyCollection
  rw [bind_of_ok (getCollection_of_some present)]
  rfl

theorem deleteCollection_of_some (present : (store.lookup name.asStr).isSome = true) :
    deleteCollection tx name store = .ok (tx ++ [.deleteCollection name]) store := by
  unfold deleteCollection
  rw [bind_of_ok (getCollection_of_some present)]
  rfl

theorem deleteCollection_of_none (absent : (store.lookup name.asStr).isSome = false) :
    deleteCollection tx name store =
      .error (.storageError (.collectionNotFound (String.ofList name.asStr))) store := by
  unfold deleteCollection
  exact bind_of_error (getCollection_of_none absent)

theorem tryGetCollection_eq :
    tryGetCollection name store = .ok (store.lookup name.asStr).isSome store := by
  unfold tryGetCollection
  cases present : (store.lookup name.asStr).isSome with
  | true =>
    have found : attempt (getCollection name) store = .ok (.ok ()) store := by
      rw [attempt, getCollection_of_some present]
    rw [bind_of_ok found]
    rfl
  | false =>
    have missing : attempt (getCollection name) store =
        .ok (.error (.storageError (.collectionNotFound (String.ofList name.asStr)))) store := by
      rw [attempt, getCollection_of_none present]
    rw [bind_of_ok missing]
    rfl

theorem deleteCollectionIgnoreMissing_eq :
    deleteCollectionIgnoreMissing tx name store = .ok (tx ++ [.deleteCollection name]) store ∨
      store.folder name = ∅ ∧ deleteCollectionIgnoreMissing tx name store = .ok tx store := by
  unfold deleteCollectionIgnoreMissing
  cases present : (store.lookup name.asStr).isSome with
  | true =>
    left
    have deleted : attempt (deleteCollection tx name) store =
        .ok (.ok (tx ++ [.deleteCollection name])) store := by
      rw [attempt, deleteCollection_of_some present]
    rw [bind_of_ok deleted]
    rfl
  | false =>
    right
    have missing : attempt (deleteCollection tx name) store =
        .ok (.error (.storageError (.collectionNotFound (String.ofList name.asStr)))) store := by
      rw [attempt, deleteCollection_of_none present]
    rw [bind_of_ok missing]
    refine ⟨?_, rfl⟩
    have absent : store.lookup name.asStr = none := by simpa using present
    rw [Store.folder, absent]
    rfl

theorem current_ne_backup : current.asStr ≠ backup.asStr := by decide

theorem current_ne_next : current.asStr ≠ next.asStr := by decide

theorem backup_ne_next : backup.asStr ≠ next.asStr := by decide

theorem folder_created : (store.created source).folder name = store.folder name := by
  rw [Store.created, Store.folder_insert]
  split
  case isTrue same => exact (Store.folder_of_asStr same).symm
  case isFalse => rfl

theorem isSome_created : ((store.created name).lookup name.asStr).isSome = true := by
  simp [Store.created]

theorem isSome_created_of_isSome (present : (store.lookup name.asStr).isSome = true) :
    ((store.created source).lookup name.asStr).isSome = true := by
  by_cases same : name.asStr = source.asStr
  · rw [same]
    exact isSome_created
  · rw [Store.created, AList.lookup_insert_ne same]
    exact present

structure Swapped (store committed : Store) : Prop where
  currentFolder : committed.folder current = store.folder next
  backupFolder : committed.folder backup = store.folder current

structure Restored (store committed : Store) : Prop where
  currentFolder : committed.folder current = store.folder backup
  backupFolder : committed.folder backup = ∅

theorem executeApply_of_none (absent : (store.lookup next.asStr).isSome = false) :
    executeApply decompressed decompresses reload store = .error .noPendingUpdate store := by
  unfold executeApply
  rw [bind_of_ok tryGetCollection_eq, absent]
  rfl

theorem swapCollection_eq (currentThere : (store.lookup current.asStr).isSome = true)
    (nextThere : (store.lookup next.asStr).isSome = true) :
    ∃ tx, swapCollection [] current backup next store = .ok tx store ∧
      Swapped store (finalState (commit tx store)) := by
  obtain ⟨backupExisted, backsUp⟩ : ∃ destExisted, copyCollection [] current backup store = _ :=
    copyCollection_of_some currentThere
  obtain ⟨currentExisted, replaces⟩ : ∃ destExisted, copyCollection
      ([] ++ [.copyCollection current backup backupExisted]) next current store = _ :=
    copyCollection_of_some nextThere
  refine ⟨[.copyCollection current backup backupExisted,
    .copyCollection next current currentExisted, .deleteCollection next], ?_, ?_⟩
  · unfold swapCollection
    rw [bind_of_ok backsUp, bind_of_ok replaces]
    exact deleteCollection_of_some nextThere
  · constructor
    · rw [commit_cons, commit_cons, commit_cons, commit_nil]
      rw [Store.folder_deleteCollection, if_neg current_ne_next, Store.folder_copyCollection,
        if_pos rfl, Store.folder_copyCollection, if_neg backup_ne_next.symm]
    · rw [commit_cons, commit_cons, commit_cons, commit_nil]
      rw [Store.folder_deleteCollection, if_neg backup_ne_next, Store.folder_copyCollection,
        if_neg current_ne_backup.symm, Store.folder_copyCollection, if_pos rfl]

theorem executeApply_of_some (present : (store.lookup next.asStr).isSome = true) :
    ∃ committed, Swapped store committed ∧ executeApply decompressed decompresses reload store =
        reloadDatabaseIfPresent decompressed decompresses reload committed := by
  let prepared := (store.created current).created backup
  have folders : ∀ name, prepared.folder name = store.folder name :=
    fun name => folder_created.trans folder_created
  obtain ⟨tx, recorded, swapped⟩ := swapCollection_eq
    (isSome_created_of_isSome isSome_created : (prepared.lookup current.asStr).isSome = true)
    (isSome_created_of_isSome (isSome_created_of_isSome present))
  refine ⟨finalState (commit tx prepared), ?_, ?_⟩
  · exact ⟨swapped.currentFolder.trans (folders next), swapped.backupFolder.trans (folders current)⟩
  · unfold executeApply
    rw [bind_of_ok tryGetCollection_eq, present]
    change (do
      let tx ← swapCollection [] current backup next
      commit tx
      reloadDatabaseIfPresent decompressed decompresses reload : ReloadM Unit) prepared = _
    rw [bind_of_ok recorded]
    rfl

theorem restoreFromBackup_eq (backupThere : (store.lookup backup.asStr).isSome = true) :
    ∃ tx, restoreFromBackup [] backup current next store = .ok tx store ∧
      Restored store (finalState (commit tx store)) := by
  obtain ⟨currentExisted, restores⟩ : ∃ destExisted, copyCollection [] backup current store = _ :=
    copyCollection_of_some backupThere
  unfold restoreFromBackup
  rw [bind_of_ok restores]
  rcases deleteCollectionIgnoreMissing_eq with deleted | ⟨-, missing⟩
  · rw [bind_of_ok deleted]
    refine ⟨[.copyCollection backup current currentExisted, .deleteCollection next,
      .deleteAll backup], rfl, ?_⟩
    constructor
    · rw [commit_cons, commit_cons, commit_cons, commit_nil]
      rw [Store.folder_deleteAll, if_neg current_ne_backup, Store.folder_deleteCollection,
        if_neg current_ne_next, Store.folder_copyCollection, if_pos rfl]
    · rw [commit_cons, commit_cons, commit_cons, commit_nil]
      rw [Store.folder_deleteAll, if_pos rfl]
  · rw [bind_of_ok missing]
    refine ⟨[.copyCollection backup current currentExisted, .deleteAll backup], rfl, ?_⟩
    constructor
    · rw [commit_cons, commit_cons, commit_nil]
      rw [Store.folder_deleteAll, if_neg current_ne_backup, Store.folder_copyCollection, if_pos rfl]
    · rw [commit_cons, commit_cons, commit_nil]
      rw [Store.folder_deleteAll, if_pos rfl]

theorem executeRollback_of_empty (empty : (store.folder backup).keys = []) :
    executeRollback decompressed reload store = .error .noBackup (store.created backup) := by
  have folder : ((store.created backup).folder backup).keys = [] := by rw [folder_created, empty]
  have isEmpty_ : isEmpty backup (store.created backup) = .ok true (store.created backup) := by
    change EStateM.Result.ok (((store.created backup).folder backup).keys.isEmpty) _ = _
    rw [folder]
    rfl
  unfold executeRollback
  change (do
    let mddBackupEmpty ← isEmpty backup
    if mddBackupEmpty then throw .noBackup
    let tx ← restoreFromBackup [] backup current next
    commit tx
    reloadDatabaseIfPresent decompressed false reload : ReloadM Unit) (store.created backup) = _
  rw [bind_of_ok isEmpty_]
  rfl

theorem executeRollback_of_nonempty (nonempty : (store.folder backup).keys ≠ []) :
    ∃ committed, Restored store committed ∧ executeRollback decompressed reload store =
        reloadDatabaseIfPresent decompressed false reload committed := by
  have isEmpty_ : isEmpty backup (store.created backup) = .ok false (store.created backup) := by
    change EStateM.Result.ok (((store.created backup).folder backup).keys.isEmpty) _ = _
    rw [folder_created, List.isEmpty_eq_false_iff.mpr nonempty]
  obtain ⟨tx, recorded, restored⟩ := restoreFromBackup_eq
    (isSome_created : ((store.created backup).lookup backup.asStr).isSome = true)
  refine ⟨finalState (commit tx (store.created backup)), ?_, ?_⟩
  · exact ⟨restored.currentFolder.trans folder_created, restored.backupFolder⟩
  · unfold executeRollback
    change (do
      let mddBackupEmpty ← isEmpty backup
      if mddBackupEmpty then throw .noBackup
      let tx ← restoreFromBackup [] backup current next
      commit tx
      reloadDatabaseIfPresent decompressed false reload : ReloadM Unit) (store.created backup) = _
    rw [bind_of_ok isEmpty_]
    change (do
      let tx ← restoreFromBackup [] backup current next
      commit tx
      reloadDatabaseIfPresent decompressed false reload : ReloadM Unit) (store.created backup) = _
    rw [bind_of_ok recorded]
    rfl

theorem keys_eq_nil_iff {folder : Folder} : folder.keys = [] ↔ ∀ key, folder.lookup key = none := by
  constructor
  · intro empty key
    rw [AList.lookup_eq_none, AList.mem_keys, empty]
    exact List.not_mem_nil
  · intro none
    apply List.eq_nil_iff_forall_not_mem.mpr
    intro key mem
    exact AList.lookup_eq_none.mp (none key) (AList.mem_keys.mpr mem)

theorem keys_decompress {folder : Folder} :
    (decompress decompressed folder).keys = folder.keys := by
  simp [decompress, AList.keys, List.keys]

def readied (decompressed : FileName → Bytes → Option Bytes) (decompresses : Bool)
    (store : Store) : Store :=
  let store := store.created current
  if decompresses then
    store.insert current.asStr (decompress decompressed (store.folder current))
  else store

variable {outcome : Except String Unit}

section

variable {final : Store}
  (ran : reload (store.folder current).keys (readied decompressed decompresses store) = .ok outcome final)

include ran

theorem reloadDatabaseIfPresent_of_ok :
    reloadDatabaseIfPresent decompressed decompresses reload store =
      match outcome with
      | .ok () => .ok () final
      | .error e => .error (.reloadFailed s!"Reload error: {e}") final := by
  have listed : list current (store.created current) =
      .ok (store.folder current).keys (store.created current) := by
    change EStateM.Result.ok ((store.created current).folder current).keys _ = _
    rw [folder_created]
  unfold reloadDatabaseIfPresent
  rw [bind_of_ok (rfl : getOrCreateCollection current store = .ok () (store.created current)),
    bind_of_ok listed]
  cases decompresses with
  | false | true =>
    refine (bind_of_ok ran).trans ?_
    cases outcome <;> rfl

theorem finalState_reload :
    finalState (reloadDatabaseIfPresent decompressed decompresses reload store) = final := by
  rw [reloadDatabaseIfPresent_of_ok ran]
  cases outcome <;> rfl

theorem error?_reload :
    (error? (reloadDatabaseIfPresent decompressed decompresses reload store)).isSome =
      !outcome.isOk := by
  rw [reloadDatabaseIfPresent_of_ok ran]
  cases outcome <;> rfl

end

theorem readied_current : (readied decompressed false store).folder current =
    store.folder current :=
  folder_created

theorem readied_backup : (readied decompressed decompresses store).folder backup =
    store.folder backup := by
  unfold readied
  cases decompresses with
  | false => exact folder_created
  | true =>
    simp only [if_true]
    rw [Store.folder_insert, if_neg current_ne_backup.symm, folder_created]

theorem finalState_executeRollback {installation : Installation} :
    (finalState (executeRollback decompressed
      (fun mddPaths => return reloadAfterRollback installation mddPaths) store)).folder current =
      if (store.folder backup).keys = [] then store.folder current
      else store.folder backup := by
  by_cases empty : (store.folder backup).keys = []
  · rw [if_pos empty, executeRollback_of_empty empty]
    exact folder_created
  · obtain ⟨committed, restored, equation⟩ := executeRollback_of_nonempty empty
    rw [if_neg empty, equation, finalState_reload rfl, readied_current, restored.currentFolder]

section Runtime

variable {runtime : Runtime}

theorem reloadDatabases_eq (runtime : Runtime) (mddPaths : List FileName) (store : Store) :
    ∃ final, reloadDatabases runtime mddPaths store =
      .ok (installNewRuntime runtime.install mddPaths) final ∧
    (∀ e, installNewRuntime runtime.install mddPaths = .error e → final.folder current =
      if (store.folder backup).keys = [] then store.folder current else store.folder backup) ∧
    (installNewRuntime runtime.install mddPaths = .ok () → final = store) := by
  unfold reloadDatabases
  cases installNewRuntime runtime.install mddPaths with
  | ok value => exact ⟨store, rfl, nofun, fun _ => rfl⟩
  | error e =>
    refine ⟨finalState (executeRollback runtime.decompressed
      (fun mddPaths => return reloadAfterRollback runtime.rollback mddPaths) store), ?_,
      fun _ _ => finalState_executeRollback, nofun⟩
    simp only
    cases ran : executeRollback runtime.decompressed
      (fun mddPaths => return reloadAfterRollback runtime.rollback mddPaths) store with
    | ok value final =>
      have handled : attempt (executeRollback runtime.decompressed fun mddPaths =>
          return reloadAfterRollback runtime.rollback mddPaths) store = .ok (.ok value) final :=
        by rw [attempt, ran]
      rw [bind_of_ok handled]
      rfl
    | error error final =>
      have handled : attempt (executeRollback runtime.decompressed fun mddPaths =>
          return reloadAfterRollback runtime.rollback mddPaths) store =
            .ok (.error error) final := by
        rw [attempt, ran]
      rw [bind_of_ok handled]
      rfl

/-- The committed database, decompressed or not, and what a failed reload makes of it. -/
theorem reload_failed {e : RuntimeUpdateError}
    (failed : error? (reloadDatabaseIfPresent runtime.decompressed decompresses
      (reloadDatabases runtime) store) = some e) :
    (finalState (reloadDatabaseIfPresent runtime.decompressed decompresses
      (reloadDatabases runtime) store)).folder current =
      if (store.folder backup).keys = [] then
        (readied runtime.decompressed decompresses store).folder current
      else store.folder backup := by
  obtain ⟨final, ran, rolledBack, -⟩ := reloadDatabases_eq runtime (store.folder current).keys
    (readied runtime.decompressed decompresses store)
  rw [finalState_reload ran]
  cases installed : installNewRuntime runtime.install (store.folder current).keys with
  | ok value =>
    have succeeded := error?_reload ran
    rw [failed, installed] at succeeded
    cases succeeded
  | error e => rw [rolledBack e installed, readied_backup]

theorem reload_succeeded {final : Store}
    (succeeded : reloadDatabaseIfPresent runtime.decompressed decompresses
      (reloadDatabases runtime) store = .ok () final) :
    final = readied runtime.decompressed decompresses store := by
  obtain ⟨reached, ran, -, installs⟩ := reloadDatabases_eq runtime (store.folder current).keys
    (readied runtime.decompressed decompresses store)
  have ended := finalState_reload ran
  have outcome := error?_reload ran
  rw [succeeded] at ended outcome
  cases installed : installNewRuntime runtime.install (store.folder current).keys with
  | ok value => exact ended.trans (installs installed)
  | error e =>
    rw [installed] at outcome
    cases outcome

theorem keys_readied_current : ((readied decompressed decompresses store).folder current).keys =
    (store.folder current).keys := by
  unfold readied
  cases decompresses with
  | false => exact congrArg AList.keys folder_created
  | true =>
    simp only [if_true]
    rw [Store.folder_insert, if_pos rfl, keys_decompress, folder_created]

end Runtime

/-- An apply keeps the database when there is a file to fall back on, or nothing comes in its
place; a rollback has nothing but its backup. -/
def KeepsDatabase (store : Store) : ExecutionMode → Prop
  | .apply => (∃ key, store.files current key ≠ none) ∨ ∀ key, store.files next key = none
  | .rollback => store.files backup = store.files current
  | .cleanup => True

theorem files_congr {first second : Store} {name other : CollectionName}
    (same : first.folder name = second.folder other) : first.files name = second.files other := by
  rw [Store.files_eq, Store.files_eq, same]

theorem keys_eq_nil_iff_files : (store.folder name).keys = [] ↔
    ∀ key, store.files name key = none := by
  rw [keys_eq_nil_iff, Store.files_eq]

theorem apply_keeps_iff {runtime : Runtime} {text : String}
    (failed : error? (executeOperation runtime .apply store) = some (.reloadFailed text)) :
    (finalState (executeOperation runtime .apply store)).files current = store.files current ↔
      KeepsDatabase store .apply := by
  have kept : (∃ key, store.files current key ≠ none) ↔ ¬ (store.folder current).keys = [] := by
    rw [keys_eq_nil_iff_files, not_forall]
  simp only [executeOperation] at failed ⊢
  cases present : (store.lookup next.asStr).isSome with
  | false =>
    rw [executeApply_of_none present] at failed
    cases failed
  | true =>
    obtain ⟨committed, swapped, equation⟩ := executeApply_of_some present
    rw [equation] at failed ⊢
    have left := reload_failed failed
    rw [swapped.backupFolder] at left
    rw [KeepsDatabase, kept]
    by_cases empty : (store.folder current).keys = []
    · rw [if_pos empty] at left
      have nothing := keys_eq_nil_iff_files.mp empty
      have incoming := congrArg AList.keys left
      rw [keys_readied_current, swapped.currentFolder] at incoming
      have outcome := keys_eq_nil_iff_files.symm.trans (incoming ▸ keys_eq_nil_iff_files)
      constructor
      · intro same
        right
        apply outcome.mpr
        intro key
        rw [same, nothing key]
      · rintro (impossible | none)
        · exact absurd empty impossible
        · funext key
          rw [outcome.mp none key, nothing key]
    · rw [if_neg empty] at left
      exact iff_of_true (files_congr left) (.inl empty)

theorem rollback_keeps_iff {runtime : Runtime} {text : String}
    (failed : error? (executeOperation runtime .rollback store) = some (.reloadFailed text)) :
    (finalState (executeOperation runtime .rollback store)).files current = store.files current ↔
      KeepsDatabase store .rollback := by
  simp only [executeOperation] at failed ⊢
  by_cases empty : (store.folder backup).keys = []
  · rw [executeRollback_of_empty empty] at failed
    cases failed
  · obtain ⟨committed, restored, equation⟩ := executeRollback_of_nonempty empty
    rw [equation] at failed ⊢
    have left := reload_failed failed
    rw [restored.backupFolder, AList.keys_empty, if_pos rfl, readied_current,
      restored.currentFolder] at left
    rw [files_congr left]
    rfl

theorem executeCleanup_succeeds : error? (executeCleanup store) = none := by
  unfold executeCleanup
  rw [bind_of_ok (rfl : getOrCreateCollection backup store = .ok () (store.created backup))]
  rcases deleteCollectionIgnoreMissing_eq with deleted | ⟨-, missing⟩
  · rw [bind_of_ok deleted]
    rfl
  · rw [bind_of_ok missing]
    rfl

theorem apply_then_rollback {runtime following : Runtime} {applied final : Store}
    (applies : executeOperation runtime .apply store = .ok () applied)
    (rollsBack : executeOperation following .rollback applied = .ok () final) :
    final.files current = store.files current := by
  simp only [executeOperation] at applies rollsBack
  cases present : (store.lookup next.asStr).isSome with
  | false =>
    rw [executeApply_of_none present] at applies
    cases applies
  | true =>
    obtain ⟨committed, swapped, equation⟩ := executeApply_of_some present
    rw [equation] at applies
    have appliedIs := reload_succeeded applies
    by_cases empty : (applied.folder backup).keys = []
    · rw [executeRollback_of_empty empty] at rollsBack
      cases rollsBack
    · obtain ⟨recommitted, restored, again⟩ := executeRollback_of_nonempty empty
      rw [again] at rollsBack
      have finalIs := reload_succeeded rollsBack
      apply files_congr
      calc final.folder current
          = recommitted.folder current := by rw [finalIs, readied_current]
        _ = applied.folder backup := restored.currentFolder
        _ = committed.folder backup := by rw [appliedIs, readied_backup]
        _ = store.folder current := swapped.backupFolder

/-- The storage after the executions, whether they fail or not. -/
def executeAll (executions : List (Runtime × ExecutionMode)) (store : Store) : Store :=
  executions.foldl (fun store execution =>
    finalState (executeOperation execution.1 execution.2 store)) store

theorem executeCleanup_leaves : (finalState (executeCleanup store)).folder current =
      store.folder current ∧ ((finalState (executeCleanup store)).folder backup).keys = [] := by
  unfold executeCleanup
  rw [bind_of_ok (rfl : getOrCreateCollection backup store = .ok () (store.created backup))]
  obtain deleted | ⟨-, missing⟩ :=
    @deleteCollectionIgnoreMissing_eq (store.created backup) next []
  · rw [bind_of_ok deleted]
    change (finalState (commit [.deleteCollection next, .deleteAll backup] _)).folder current = _ ∧
      ((finalState (commit [.deleteCollection next, .deleteAll backup] _)).folder backup).keys = _
    rw [commit_cons, commit_cons, commit_nil, Store.folder_deleteAll, if_neg current_ne_backup,
      Store.folder_deleteCollection, if_neg current_ne_next, folder_created,
      Store.folder_deleteAll, if_pos rfl]
    exact ⟨rfl, rfl⟩
  · rw [bind_of_ok missing]
    change (finalState (commit [.deleteAll backup] _)).folder current = _ ∧
      ((finalState (commit [.deleteAll backup] _)).folder backup).keys = _
    rw [commit_cons, commit_nil, Store.folder_deleteAll, if_neg current_ne_backup, folder_created,
      Store.folder_deleteAll, if_pos rfl]
    exact ⟨rfl, rfl⟩

theorem executeAll_of_no_backup {executions : List (Runtime × ExecutionMode)}
    (empty : (store.folder backup).keys = [])
    (noApply : ∀ execution ∈ executions, execution.2 ≠ .apply) :
    (executeAll executions store).folder current = store.folder current ∧
      ((executeAll executions store).folder backup).keys = [] := by
  induction executions generalizing store with
  | nil => exact ⟨rfl, empty⟩
  | cons execution rest ih =>
    obtain ⟨runtime, mode⟩ := execution
    have kept : (finalState (executeOperation runtime mode store)).folder current =
          store.folder current ∧
        ((finalState (executeOperation runtime mode store)).folder backup).keys = [] := by
      cases mode with
      | apply => exact absurd rfl (noApply _ List.mem_cons_self)
      | rollback =>
        rw [executeOperation, executeRollback_of_empty empty]
        exact ⟨folder_created, (congrArg AList.keys folder_created).trans empty⟩
      | cleanup => exact executeCleanup_leaves
    obtain ⟨same, stillEmpty⟩ := ih kept.2 fun later mem => noApply later (List.mem_cons_of_mem _ mem)
    exact ⟨same.trans kept.1, stillEmpty⟩

/-- A failed reload leaves the database as it was exactly in the cases of `KeepsDatabase`, and a
rollback takes back the apply before it. -/
theorem failed_update_keeps_database (runtime : Runtime) (store : Store) :
    (∀ mode text, error? (executeOperation runtime mode store) = some (.reloadFailed text) →
      ((finalState (executeOperation runtime mode store)).files current = store.files current ↔
        KeepsDatabase store mode)) ∧
    ∀ following applied final, executeOperation runtime .apply store = .ok () applied →
      executeOperation following .rollback applied = .ok () final →
      final.files current = store.files current := by
  constructor
  · intro mode text failed
    cases mode with
    | apply => exact apply_keeps_iff failed
    | rollback => exact rollback_keeps_iff failed
    | cleanup =>
      rw [executeOperation, executeCleanup_succeeds] at failed
      cases failed
  · intro following applied final applies rollsBack
    exact apply_then_rollback applies rollsBack

/-- No new runtime can be created. -/
def broken : Runtime where
  decompressed _ _ := none
  mddDecompress := false
  install := ⟨fun _ => .error "", .ok (), .ok ()⟩
  rollback := ⟨fun _ => .ok (), .ok (), .ok ()⟩

def fileA : FileName := "a.mdd".toList

/-- A file is in the database, and another version of it staged. -/
def updating : Store :=
  AList.insert next.asStr (AList.insert fileA [2] ∅)
    (AList.insert current.asStr (AList.insert fileA [1] ∅) ∅)

def working : Runtime := { broken with install := ⟨fun _ => .ok (), .ok (), .ok ()⟩ }

theorem failed_update_keeps_database_of_updating :
    (finalState (executeOperation broken .apply updating)).files current = updating.files current ∧
      ∃ applied final, executeOperation working .apply updating = .ok () applied ∧
        executeOperation working .rollback applied = .ok () final ∧
        final.files current = updating.files current := by
  constructor
  · apply ((failed_update_keeps_database broken updating).1 .apply _ rfl).mpr
    exact .inl ⟨fileA, by decide⟩
  · have ran : ∃ applied final, executeOperation working .apply updating = .ok () applied ∧
        executeOperation working .rollback applied = .ok () final :=
      ⟨_, _, rfl, rfl⟩
    obtain ⟨applied, final, applies, rollsBack⟩ := ran
    exact ⟨applied, final, applies, rollsBack,
      (failed_update_keeps_database working updating).2 working applied final applies rollsBack⟩

def stagedFirst : Store :=
  AList.insert next.asStr (AList.insert fileA [1] ∅) ∅

def backedUp : Store :=
  AList.insert backup.asStr (AList.insert fileA [0] ∅)
    (AList.insert current.asStr (AList.insert fileA [1] ∅) ∅)

theorem database_replaced : (¬ ∀ runtime store text,
      error? (executeOperation runtime .apply store) = some (.reloadFailed text) →
      (finalState (executeOperation runtime .apply store)).files current = store.files current) ∧
    ¬ ∀ runtime store text,
      error? (executeOperation runtime .rollback store) = some (.reloadFailed text) →
      (finalState (executeOperation runtime .rollback store)).files current =
        store.files current := by
  constructor
  · intro keptByApply
    have same := congrFun (keptByApply broken stagedFirst _ rfl) fileA
    have replaced : (finalState (executeOperation broken .apply stagedFirst)).files current fileA =
        some [1] := by decide
    rw [replaced] at same
    exact absurd same (by decide)
  · intro keptByRollback
    have same := congrFun (keptByRollback broken backedUp _ rfl) fileA
    have replaced : (finalState (executeOperation broken .rollback backedUp)).files current fileA =
        some [0] := by decide
    rw [replaced] at same
    exact absurd same (by decide)

/-- A rollback restores the backup once: until an apply the database stays the restored one, and
every rollback is refused. -/
theorem rollback_restores_once {runtime : Runtime} {after : Store}
    (succeeded : executeOperation runtime .rollback store = .ok () after)
    (executions : List (Runtime × ExecutionMode))
    (noApply : ∀ execution ∈ executions, execution.2 ≠ .apply) :
    (executeAll executions after).files current = store.files backup ∧
      ∀ following, error? (executeOperation following .rollback (executeAll executions after)) =
        some .noBackup := by
  rw [executeOperation] at succeeded
  by_cases empty : (store.folder backup).keys = []
  · rw [executeRollback_of_empty empty] at succeeded
    cases succeeded
  · obtain ⟨committed, restored, equation⟩ := executeRollback_of_nonempty empty
    rw [equation] at succeeded
    have afterIs := reload_succeeded succeeded
    have emptied : (after.folder backup).keys = [] := by
      rw [afterIs, readied_backup, restored.backupFolder]
      rfl
    obtain ⟨same, stillEmpty⟩ := executeAll_of_no_backup emptied noApply
    constructor
    · apply files_congr
      rw [same, afterIs, readied_current, restored.currentFolder]
    · intro following
      rw [executeOperation, executeRollback_of_empty stillEmpty]
      rfl

theorem rollback_restores_once_backedUp :
    let after := finalState (executeOperation working .rollback backedUp)
    let executions := [(broken, .rollback), (working, .cleanup)]
    (executeAll executions after).files current = backedUp.files backup ∧
      error? (executeOperation working .rollback (executeAll executions after)) =
        some .noBackup := by
  have restored := rollback_restores_once
    (rfl : executeOperation working .rollback backedUp = .ok () _)
    [(broken, .rollback), (working, .cleanup)] (by decide)
  exact ⟨restored.1, restored.2 working⟩

end DiagnosticAdapter.Update.Reload
