import DiagnosticAdapter.Storage.Usage

/-!
# What the calls on a collection do to the disk

Reading calls at most give a file its normalized name.  A call that writes
stages its data, one that deletes has found the file, and both add one
operation to the log.
-/

namespace DiagnosticAdapter.Storage

open Effects

variable {codec : Codec} {sanitizePaths : Bool} {collection : CollectionName} {disk next : Disk}
  {name key : FileName}
  {data : Bytes} {operation : Operation}

section Reading

variable {Result : Type} {kept : Disk → Prop}

theorem keeps_sync : sync.Keeps kept :=
  Program.Keeps.step fun _ _ start changed => by
    cases changed
    exact start

theorem keeps_openAndSync : openAndSync.Keeps kept :=
  keeps_sync.bind fun _ => keeps_sync

theorem keeps_listKeysInDir : (listKeysInDir name).Keeps kept := by
  refine (Program.Keeps.look _).bind fun exists_ => ?_
  cases exists_ with
  | true => exact Program.Keeps.list.bind fun _ => Program.Keeps.pure _
  | false => exact Program.Keeps.pure _

theorem keeps_len : (len name).Keeps kept :=
  keeps_listKeysInDir.bind fun _ => Program.Keeps.pure _

section

variable {rest : FileM Result} {env : Env Site FileName} {site : Site} {clock : Nat}

theorem healed_of_looking (quiet : rest.Keeps (Healed name (normalizeKey key) disk)) :
    Healed name (normalizeKey key) disk
      ((ensureNormalizedOnDisk name (normalizeKey key) >>= fun _ => rest) env site clock
        disk).state := by
  have quietly : Triple (fun _ _ => True) (Healed name (normalizeKey key) disk) rest
      (fun _ => Healed name (normalizeKey key) disk) (Healed name (normalizeKey key) disk)
      (fun _ => True) :=
    Triple.consequence quiet (fun _ _ allowed => allowed) (fun _ start => start)
      (fun _ _ done => done) (fun _ failed => failed) (fun _ _ => trivial)
  exact (Triple.bind (ensureNormalizedOnDisk_healed (normalizeKey_normalizeKey key))
    (fun _ => quietly) env site clock disk trivial rfl).state

theorem healed_of_checked (check : Except StorageError Unit)
    (quiet : rest.Keeps (Healed name (normalizeKey key) disk)) :
    Healed name (normalizeKey key) disk ((Program.ofExcept check >>= fun _ =>
        ensureNormalizedOnDisk name (normalizeKey key) >>= fun _ => rest) env site clock
          disk).state := by
  cases check with
  | ok accepted => exact healed_of_looking quiet
  | error error => exact .unchanged

end

section

variable (env : Env Site FileName) (site : Site) (clock : Nat)

include env site clock

theorem healed_of_read :
    Healed name (normalizeKey key) disk
      (read sanitizePaths name key env site clock disk).state := by
  apply healed_of_checked
  refine (Program.Keeps.look _).bind fun found => ?_
  cases found with
  | none => exact Program.Keeps.fail _
  | some bytes => exact keeps_openAndSync.bind fun _ => Program.Keeps.pure _

theorem healed_of_metadata :
    Healed name (normalizeKey key) disk
      (metadata sanitizePaths name key env site clock disk).state := by
  apply healed_of_checked
  refine (Program.Keeps.look _).bind fun found => ?_
  cases found with
  | none => exact Program.Keeps.fail _
  | some bytes => exact keeps_sync.bind fun _ => Program.Keeps.pure _

theorem healed_of_filePath :
    Healed name (normalizeKey key) disk
      (filePath sanitizePaths name key env site clock disk).state := by
  apply healed_of_looking
  refine (Program.Keeps.ofExcept _).bind fun _ => (Program.Keeps.look _).bind fun found => ?_
  cases found with
  | true => exact Program.Keeps.pure _
  | false => exact Program.Keeps.fail _

end

end Reading

/-- The log of the second disk has one operation more. -/
def Appended (codec : Codec) (operation : Operation) (disk next : Disk) : Prop :=
  next.contents = disk.contents ∧ next.staging = disk.staging ∧
    next.wal = disk.wal.map (· ++ encodeEntry codec operation)

/-- A recording call ends with the operation in the log, or with the state in
which it was about to append it. -/
theorem record_appends (pre : Disk → Prop) : Triple (fun _ _ => True) pre (record codec operation)
      (fun result next => result = operation ∧
        ∃ disk, pre disk ∧ Appended codec operation disk next) pre (fun _ => True) := by
  have appended : Triple (fun _ _ => True) pre (appendOperation codec operation)
      (fun _ next => ∃ disk, pre disk ∧ Appended codec operation disk next) pre
      (fun _ => True) := by
    apply Triple.step
    · exact fun _ _ => trivial
    · exact fun _ _ _ _ _ start => start
    · intro disk next start changed
      refine ⟨trivial, disk, start, ?_⟩
      unfold Disk.appendOperation at changed
      split at changed
      · cases changed
      · split at changed
        · cases changed
        · rename_i data logged
          cases changed
          exact ⟨rfl, rfl, by rw [logged, Option.map_some]⟩
    · exact fun _ _ start _ => start
  exact Triple.bind appended fun _ => Triple.pure fun _ done => ⟨rfl, done⟩

structure Staging (staged : FileName) (disk next : Disk) : Prop where
  contents : next.contents = disk.contents
  wal : next.wal = disk.wal
  others : ∀ other, other ≠ staged → next.staging.lookup other = disk.staging.lookup other

theorem Staging.refl (staged : FileName) (disk : Disk) : Staging staged disk disk :=
  ⟨rfl, rfl, fun _ _ => rfl⟩

theorem Staging.insert {staged : FileName} (staging : Staging staged disk next) (file : Bytes) :
    Staging staged disk { next with staging := next.staging.insert staged file } :=
  ⟨staging.contents, staging.wal, fun other apart => by
    rw [AList.lookup_insert_ne apart]
    exact staging.others other apart⟩

theorem stageFile_stages (staged : FileName) :
    Triple (fun _ _ => True) (fun state => state = disk) (stageFile staged data)
      (fun _ next => Staging staged disk next ∧ next.staging.lookup staged = some data)
      (Staging staged disk) (fun _ => True) := by
  have staging : ∀ {pre : Disk → Prop} (file : Bytes),
      (∀ state, pre state → Staging staged disk state) →
      Triple (fun _ _ => True) pre
        (call fun disk => .ok { disk with staging := disk.staging.insert staged file })
        (fun _ next => Staging staged disk next ∧ next.staging.lookup staged = some file)
        (Staging staged disk) (fun _ => True) := by
    intro pre file starts
    apply Triple.step
    · exact fun _ _ => trivial
    · exact fun _ _ _ _ state start => starts state start
    · intro state next start changed
      cases changed
      exact ⟨trivial, (starts state start).insert file, AList.lookup_insert _⟩
    · exact fun state _ start _ => starts state start
  refine Triple.bind (staging [] ?_) fun _ => staging data fun _ start => start.1
  rintro state rfl
  exact .refl staged state

/-- `write` stages its data and records the operation, or leaves the log. -/
theorem write_stages {staged : FileName} {env : Env Site FileName} {clock : Nat} :
    (write codec sanitizePaths collection key staged data env .record clock disk).Meets
      (fun result next => sanitizePathSegment sanitizePaths (normalizeKey key) = .ok () ∧
        result = .write collection (normalizeKey key) staged ∧
        ∃ middle, (Staging staged disk middle ∧ middle.staging.lookup staged = some data) ∧
          Appended codec result middle next)
      (Staging staged disk) (fun _ => True) := by
  unfold write
  cases checked : sanitizePathSegment sanitizePaths (normalizeKey key) with
  | error error => exact ⟨fun _ _ => trivial, .refl staged disk⟩
  | ok accepted =>
    have recorded := Triple.consequence
      (@record_appends codec (.write collection (normalizeKey key) staged)
        fun state => Staging staged disk state ∧ state.staging.lookup staged = some data)
      (fun _ _ allowed => allowed) (fun _ start => start)
      (fun result next done => show (Except.ok accepted : Except StorageError Unit) = .ok () ∧
          result = .write collection (normalizeKey key) staged ∧
          ∃ middle, (Staging staged disk middle ∧ middle.staging.lookup staged = some data) ∧
            Appended codec result middle next from
        ⟨rfl, done.1, done.1 ▸ done.2⟩)
      (fun _ failed => failed.1) (fun _ passed => passed)
    exact Triple.ofExceptThen rfl (Triple.bind (stageFile_stages staged) fun _ => recorded) env
      .record clock disk trivial rfl

/-- `delete` records the removal of a file it has found under its normalized
name. -/
theorem delete_finds {env : Env Site FileName} {clock : Nat} :
    (delete codec sanitizePaths collection key env .record clock disk).Meets
      (fun result next => sanitizePathSegment sanitizePaths (normalizeKey key) = .ok () ∧
        result = .delete collection (normalizeKey key) ∧
        ∃ middle, (Healed collection.asStr (normalizeKey key) disk middle ∧
            middle.contents.file collection.asStr (normalizeKey key) ≠ none) ∧
          Appended codec result middle next)
      (Healed collection.asStr (normalizeKey key) disk) (fun _ => True) := by
  refine Triple.bind (ensureNormalizedOnDisk_healed (normalizeKey_normalizeKey key))
    (fun _ => ?_) env .record clock disk trivial rfl
  cases checked : sanitizePathSegment sanitizePaths (normalizeKey key) with
  | error error =>
    intro env site clock state _ start
    exact ⟨fun _ _ => trivial, start⟩
  | ok accepted =>
    refine Triple.ofExceptThen rfl (Triple.lookThen fun exists_ => ?_)
    cases exists_ with
    | false => exact Triple.fail fun _ start => start.1
    | true =>
      refine Triple.consequence (@record_appends codec (.delete collection (normalizeKey key))
        fun state => Healed collection.asStr (normalizeKey key) disk state ∧
          state.contents.file collection.asStr (normalizeKey key) ≠ none)
        (fun _ _ allowed => allowed)
        (fun state start => ⟨start.1, Option.isSome_iff_ne_none.mp start.2⟩)
        ?_ (fun _ failed => failed.1) (fun _ passed => passed)
      rintro result next ⟨rfl, done⟩
      exact ⟨rfl, rfl, done⟩

end DiagnosticAdapter.Storage
