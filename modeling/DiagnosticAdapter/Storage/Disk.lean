import Mathlib.Data.List.AList
import DiagnosticAdapter.Effects.Program
import DiagnosticAdapter.Storage.FileName

/-!
# The directories of the local storage

The storage root holds a directory per collection, the staging directory and
the write-ahead log.  A collection directory holds files only, because
collection names and keys are single path segments.  Every file-system call
the storage makes is one step on this state; `read_dir` returns the entries
present when it is called, in an order chosen by the surroundings.
-/

namespace DiagnosticAdapter.Storage

open Effects Function

abbrev Bytes := List UInt8

abbrev Folder := AList fun _ : FileName => Bytes

/-- What a directory of files holds, forgetting the order of its entries. -/
abbrev Content := FileName → Option Bytes

abbrev Contents := FileName → Option Content

namespace Contents

/-- The file stored under a key, if the collection and the file exist. -/
def file (contents : Contents) (name key : FileName) : Option Bytes :=
  (contents name).bind (· key)

theorem exists_of_file {contents : Contents} {name key : FileName}
    (there : contents.file name key ≠ none) :
    ∃ content, contents name = some content ∧ content key ≠ none := by
  obtain ⟨bytes, found⟩ := Option.ne_none_iff_exists'.mp there
  obtain ⟨content, stored, inside⟩ := Option.bind_eq_some_iff.mp found
  exact ⟨content, stored, by simp [inside]⟩

theorem file_of_stored {contents : Contents} {name : FileName} {content : Content}
    (stored : contents name = some content) : contents.file name = content := by
  funext key
  rw [file, stored, Option.bind_some]

end Contents

/-- The names are exactly those the map knows, each once. -/
def Lists {Value : Type} (names : List FileName) (map : FileName → Option Value) : Prop :=
  names.Nodup ∧ ∀ name, name ∈ names ↔ map name ≠ none

structure Disk where
  collections : AList fun _ : FileName => Folder
  staging : Folder
  wal : Option Bytes

/-- The errors of the operating system that the storage can meet. -/
inductive IoError where
  | notFound
  | directoryNotEmpty
  | fault
  deriving DecidableEq, Repr

inductive StorageError where
  | collectionNotFound (name : String)
  | keyNotFound (key : String)
  | transactionBusy
  | transactionConflict (reason : String)
  | io (error : IoError)
  | corruption (reason : String)
  | other (reason : String)
  deriving DecidableEq, Repr

/-- The parts of the storage code whose file-system calls can fail. -/
inductive Site where
  | read
  | record
  | markCommitting
  | syncStaging
  | syncWal
  | applyOperations
  | rollback
  | syncCollections
  | removeWal
  | syncJournal (applied : Bool)
  | cleanup
  | recover
  deriving DecidableEq, Repr

abbrev FileM := Program Site FileName Disk StorageError

namespace Disk

def contents (disk : Disk) : Contents := fun name =>
  (disk.collections.lookup name).map fun folder key => folder.lookup key

def putFolder (name : FileName) (folder : Folder) (disk : Disk) : Disk :=
  { disk with collections := disk.collections.insert name folder }

def dropFolder (name : FileName) (disk : Disk) : Disk :=
  { disk with collections := disk.collections.erase name }

@[simp]
theorem contents_putFolder (name : FileName) (folder : Folder) (disk : Disk) :
    (disk.putFolder name folder).contents =
      update disk.contents name (some fun key => folder.lookup key) := by
  funext other
  by_cases same : other = name
  · subst same
    simp [contents, putFolder]
  · simp [contents, putFolder, same, AList.lookup_insert_ne]

@[simp]
theorem contents_dropFolder (name : FileName) (disk : Disk) :
    (disk.dropFolder name).contents = update disk.contents name none := by
  funext other
  by_cases same : other = name
  · subst same
    simp [contents, dropFolder]
  · simp [contents, dropFolder, same, AList.lookup_erase_ne]

def createDirAll (name : FileName) (disk : Disk) : Except StorageError Disk :=
  match disk.collections.lookup name with
  | some _ => .ok disk
  | none => .ok (disk.putFolder name ∅)

/-- `rename` of a file inside a collection; an existing target is replaced. -/
def renameFile (name source target : FileName) (disk : Disk) : Except StorageError Disk :=
  match disk.collections.lookup name with
  | none => .error (.io .notFound)
  | some folder =>
    match folder.lookup source with
    | none => .error (.io .notFound)
    | some bytes =>
      .ok (disk.putFolder name ((folder.erase source).insert target bytes))

/-- `rename` of a staged file into a collection. -/
def moveStaged (staged name target : FileName) (disk : Disk) : Except StorageError Disk :=
  match disk.staging.lookup staged, disk.collections.lookup name with
  | some bytes, some folder =>
    .ok { disk.putFolder name (folder.insert target bytes) with
      staging := disk.staging.erase staged }
  | _, _ => .error (.io .notFound)

/-- `rename` of a directory.  A target directory is replaced if it is empty. -/
def renameDir (source target : FileName) (disk : Disk) : Except StorageError Disk :=
  match disk.collections.lookup source with
  | none => .error (.io .notFound)
  | some folder =>
    match disk.collections.lookup target with
    | some occupied =>
      if occupied.keys = [] then .ok ((disk.dropFolder source).putFolder target folder)
      else .error (.io .directoryNotEmpty)
    | none => .ok ((disk.dropFolder source).putFolder target folder)

/-- `copy` of a file into another collection. -/
def copyFile (source key target : FileName) (disk : Disk) : Except StorageError Disk :=
  match disk.collections.lookup source, disk.collections.lookup target with
  | some from_, some into =>
    match from_.lookup key with
    | some bytes => .ok (disk.putFolder target (into.insert key bytes))
    | none => .error (.io .notFound)
  | _, _ => .error (.io .notFound)

def removeFile (name key : FileName) (disk : Disk) : Except StorageError Disk :=
  match disk.collections.lookup name with
  | none => .error (.io .notFound)
  | some folder =>
    match folder.lookup key with
    | none => .error (.io .notFound)
    | some _ => .ok (disk.putFolder name (folder.erase key))

def removeDir (name : FileName) (disk : Disk) : Except StorageError Disk :=
  match disk.collections.lookup name with
  | none => .error (.io .notFound)
  | some folder =>
    if folder.keys = [] then .ok (disk.dropFolder name) else .error (.io .directoryNotEmpty)

def removeStaged (staged : FileName) (disk : Disk) : Except StorageError Disk :=
  match disk.staging.lookup staged with
  | none => .error (.io .notFound)
  | some _ => .ok { disk with staging := disk.staging.erase staged }

def removeWal (disk : Disk) : Except StorageError Disk :=
  match disk.wal with
  | none => .error (.io .notFound)
  | some _ => .ok { disk with wal := none }

/-- The keys of a collection, as `read_dir` finds them. -/
def folderKeys (name : FileName) (disk : Disk) : Except StorageError (List FileName) :=
  match disk.collections.lookup name with
  | none => .error (.io .notFound)
  | some folder => .ok folder.keys

variable {disk next : Disk} {name source target key staged : FileName} {error : StorageError}

theorem exists_folder_of_contents {content : Content} (found : disk.contents name = some content) :
    ∃ folder, disk.collections.lookup name = some folder ∧
      content = fun key => folder.lookup key := by
  simp only [contents, Option.map_eq_some_iff] at found
  obtain ⟨folder, stored, rfl⟩ := found
  exact ⟨folder, stored, rfl⟩

theorem contents_of_lookup {folder : Folder} (found : disk.collections.lookup name = some folder) :
    disk.contents name = some fun key => folder.lookup key := by
  simp [contents, found]

theorem lists_keys (disk : Disk) : Lists disk.collections.keys disk.contents := by
  refine ⟨disk.collections.keys_nodup, fun name => ?_⟩
  rw [← AList.mem_keys, ← AList.lookup_isSome, Option.isSome_iff_ne_none]
  simp [contents]

theorem lists_folder_keys (folder : Folder) : Lists folder.keys fun key => folder.lookup key := by
  refine ⟨folder.keys_nodup, fun key => ?_⟩
  rw [← AList.mem_keys, ← AList.lookup_isSome, Option.isSome_iff_ne_none]

theorem folderKeys_ok {names : List FileName} (listed : disk.folderKeys name = .ok names) :
    ∃ content, disk.contents name = some content ∧ Lists names content := by
  unfold folderKeys at listed
  split at listed
  · cases listed
  · rename_i folder found
    cases listed
    exact ⟨_, contents_of_lookup found, lists_folder_keys folder⟩

theorem folderKeys_error (refused : disk.folderKeys name = .error error) :
    disk.contents name = none := by
  unfold folderKeys at refused
  split at refused
  · rename_i missing
    simp [contents, missing]
  · cases refused

theorem lookup_erase_insert (folder : Folder) (source target : FileName) (bytes : Bytes) :
    (fun key => ((folder.erase source).insert target bytes).lookup key) =
      update (update (fun key => folder.lookup key) source none) target (some bytes) := by
  funext key
  by_cases atTarget : key = target
  · subst atTarget
    simp
  · by_cases atSource : key = source
    · subst atSource
      simp [AList.lookup_insert_ne, atTarget]
    · simp [AList.lookup_insert_ne, AList.lookup_erase_ne, atTarget, atSource]

theorem lookup_insert_eq_update (folder : Folder) (key : FileName) (bytes : Bytes) :
    (fun other => (folder.insert key bytes).lookup other) =
      update (fun other => folder.lookup other) key (some bytes) := by
  funext other
  by_cases same : other = key
  · subst same
    simp
  · simp [AList.lookup_insert_ne, same]

theorem lookup_erase_eq_update (folder : Folder) (key : FileName) :
    (fun other => (folder.erase key).lookup other) =
      update (fun other => folder.lookup other) key none := by
  funext other
  by_cases same : other = key
  · subst same
    simp
  · simp [AList.lookup_erase_ne, same]

theorem keys_eq_nil_iff (folder : Folder) : folder.keys = [] ↔ ∀ key, folder.lookup key = none := by
  rw [List.eq_nil_iff_forall_not_mem]
  exact forall_congr' fun key => by rw [AList.lookup_eq_none, AList.mem_keys]

theorem createDirAll_ok (created : disk.createDirAll name = .ok next) :
    next.wal = disk.wal ∧ next.staging = disk.staging ∧
      ((disk.contents name ≠ none ∧ next.contents = disk.contents) ∨ (disk.contents name = none ∧
          next.contents = update disk.contents name (some fun _ => none))) := by
  unfold createDirAll at created
  split at created
  · rename_i folder found
    cases created
    exact ⟨rfl, rfl, .inl ⟨by simp [contents_of_lookup found], rfl⟩⟩
  · rename_i missing
    cases created
    refine ⟨rfl, rfl, .inr ⟨by simp [contents, missing], ?_⟩⟩
    rw [contents_putFolder]
    rfl

theorem renameFile_ok (renamed : disk.renameFile name source target = .ok next) :
    next.wal = disk.wal ∧ next.staging = disk.staging ∧
      ∃ content bytes, disk.contents name = some content ∧ content source = some bytes ∧
        next.contents = update disk.contents name
          (some (update (update content source none) target (some bytes))) := by
  unfold renameFile at renamed
  split at renamed
  · cases renamed
  · rename_i folder found
    split at renamed
    · cases renamed
    · rename_i bytes stored
      cases renamed
      refine ⟨rfl, rfl, _, bytes, contents_of_lookup found, stored, ?_⟩
      rw [contents_putFolder, lookup_erase_insert]

theorem renameFile_error (refused : disk.renameFile name source target = .error error) :
    disk.contents.file name source = none := by
  unfold renameFile at refused
  split at refused
  · rename_i missing
    simp [Contents.file, contents, missing]
  · rename_i folder found
    split at refused
    · rename_i absent
      simp [Contents.file, contents_of_lookup found, absent]
    · cases refused

theorem moveStaged_ok (moved : disk.moveStaged staged name target = .ok next) :
    next.wal = disk.wal ∧ next.staging = disk.staging.erase staged ∧
      ∃ content bytes, disk.contents name = some content ∧ disk.staging.lookup staged = some bytes ∧
        next.contents = update disk.contents name (some (update content target (some bytes))) := by
  unfold moveStaged at moved
  split at moved
  · rename_i bytes folder stagedFile found
    cases moved
    refine ⟨rfl, rfl, _, bytes, contents_of_lookup found, stagedFile, ?_⟩
    change (disk.putFolder name _).contents = _
    rw [contents_putFolder, lookup_insert_eq_update]
  · cases moved

theorem renameDir_ok (renamed : disk.renameDir source target = .ok next) :
    next.wal = disk.wal ∧ next.staging = disk.staging ∧
      ∃ content, disk.contents source = some content ∧
        (∀ occupied, disk.contents target = some occupied → ∀ key, occupied key = none) ∧
        next.contents = update (update disk.contents source none) target (some content) := by
  unfold renameDir at renamed
  split at renamed
  · cases renamed
  · rename_i folder found
    split at renamed
    · rename_i occupied taken
      split at renamed
      · rename_i empty
        cases renamed
        refine ⟨rfl, rfl, _, contents_of_lookup found, ?_, by simp⟩
        intro content same
        rw [contents_of_lookup taken] at same
        cases same
        exact (keys_eq_nil_iff occupied).mp empty
      · cases renamed
    · rename_i free
      cases renamed
      refine ⟨rfl, rfl, _, contents_of_lookup found, ?_, by simp⟩
      intro content same
      simp [contents, free] at same

theorem renameDir_error (refused : disk.renameDir source target = .error error) :
    disk.contents source = none ∨
      ∃ occupied key, disk.contents target = some occupied ∧ occupied key ≠ none := by
  unfold renameDir at refused
  split at refused
  · rename_i missing
    exact .inl (by simp [contents, missing])
  · split at refused
    · rename_i occupied taken
      split at refused
      · cases refused
      · rename_i inhabited
        rw [keys_eq_nil_iff, not_forall] at inhabited
        obtain ⟨key, present⟩ := inhabited
        exact .inr ⟨_, key, contents_of_lookup taken, present⟩
    · cases refused

theorem copyFile_ok (copied : disk.copyFile source key target = .ok next) :
    next.wal = disk.wal ∧ next.staging = disk.staging ∧
      ∃ from_ into bytes, disk.contents source = some from_ ∧
        disk.contents target = some into ∧ from_ key = some bytes ∧
        next.contents = update disk.contents target (some (update into key (some bytes))) := by
  unfold copyFile at copied
  split at copied
  · rename_i from_ into sourceFound targetFound
    split at copied
    · rename_i bytes stored
      cases copied
      refine ⟨rfl, rfl, _, _, bytes, contents_of_lookup sourceFound,
        contents_of_lookup targetFound, stored, ?_⟩
      rw [contents_putFolder, lookup_insert_eq_update]
    · cases copied
  · cases copied

theorem removeFile_ok (removed : disk.removeFile name key = .ok next) :
    next.wal = disk.wal ∧ next.staging = disk.staging ∧
      ∃ content, disk.contents name = some content ∧ content key ≠ none ∧
        next.contents = update disk.contents name (some (update content key none)) := by
  unfold removeFile at removed
  split at removed
  · cases removed
  · rename_i folder found
    split at removed
    · cases removed
    · rename_i bytes stored
      cases removed
      refine ⟨rfl, rfl, _, contents_of_lookup found, by simp [stored], ?_⟩
      rw [contents_putFolder, lookup_erase_eq_update]

theorem removeFile_error (refused : disk.removeFile name key = .error error) :
    disk.contents.file name key = none := by
  unfold removeFile at refused
  split at refused
  · rename_i missing
    simp [Contents.file, contents, missing]
  · rename_i folder found
    split at refused
    · rename_i absent
      simp [Contents.file, contents_of_lookup found, absent]
    · cases refused

theorem removeDir_ok (removed : disk.removeDir name = .ok next) :
    next.wal = disk.wal ∧ next.staging = disk.staging ∧
      ∃ content, disk.contents name = some content ∧ (∀ key, content key = none) ∧
        next.contents = update disk.contents name none := by
  unfold removeDir at removed
  split at removed
  · cases removed
  · rename_i folder found
    split at removed
    · rename_i empty
      cases removed
      exact ⟨rfl, rfl, _, contents_of_lookup found, (keys_eq_nil_iff folder).mp empty, by simp⟩
    · cases removed

theorem removeDir_error (refused : disk.removeDir name = .error error) : disk.contents name = none ∨
      ∃ content key, disk.contents name = some content ∧ content key ≠ none := by
  unfold removeDir at refused
  split at refused
  · rename_i missing
    exact .inl (by simp [contents, missing])
  · rename_i folder found
    split at refused
    · cases refused
    · rename_i inhabited
      rw [keys_eq_nil_iff, not_forall] at inhabited
      obtain ⟨key, present⟩ := inhabited
      exact .inr ⟨_, key, contents_of_lookup found, present⟩

end Disk

/-- Take the step, or meet a fault of the operating system. -/
def call (change : Disk → Except StorageError Disk) : FileM Unit :=
  Program.step (.io .fault) change

def createDirAll (name : FileName) : FileM Unit := call (Disk.createDirAll name)

def renameFile (name source target : FileName) : FileM Unit :=
  call (Disk.renameFile name source target)

def moveStaged (staged name target : FileName) : FileM Unit :=
  call (Disk.moveStaged staged name target)

def renameDir (source target : FileName) : FileM Unit := call (Disk.renameDir source target)

def copyFile (source key target : FileName) : FileM Unit :=
  call (Disk.copyFile source key target)

def removeFile (name key : FileName) : FileM Unit := call (Disk.removeFile name key)

def removeDir (name : FileName) : FileM Unit := call (Disk.removeDir name)

def removeStaged (staged : FileName) : FileM Unit := call (Disk.removeStaged staged)

/-- `fsync` changes nothing that can be seen. -/
def sync : FileM Unit := call fun disk => .ok disk

def dirExists (name : FileName) : FileM Bool :=
  Program.look fun disk => (disk.contents name).isSome

def fileExists (name key : FileName) : FileM Bool :=
  Program.look fun disk => (disk.contents.file name key).isSome

def readCollections : FileM (List FileName) :=
  Program.list (.io .fault) fun disk => .ok disk.collections.keys

def readFolder (name : FileName) : FileM (List FileName) :=
  Program.list (.io .fault) (Disk.folderKeys name)

def readStaging : FileM (List FileName) :=
  Program.list (.io .fault) fun disk => .ok disk.staging.keys

/-- `remove_dir_all`: the files one after another, then the directory. -/
def removeDirAll (name : FileName) : FileM Unit := do
  let keys ← readFolder name
  Program.forEach keys (removeFile name)
  removeDir name

end DiagnosticAdapter.Storage
