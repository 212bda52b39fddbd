import DiagnosticAdapter.Storage.Startup

/-!
# Recording the operations of a transaction

The calls of `LocalStorage` and `LocalCollection` that record an operation:
each checks the committed state, appends the operation to the log and returns
it for the list in memory.  `Recorded` is the relation between that list and
the state before the commit.
-/

namespace DiagnosticAdapter.Storage

open Effects

def isValidKey (name : FileName) : Bool := !isBackup name && !isStaging name

def differsInCase (key entry : FileName) : Bool :=
  isValidKey entry && entry != key && normalizeKey entry == normalizeKey key

def ensureNormalizedOnDisk (name key : FileName) : FileM Unit := do
  if ← fileExists name key then pure ()
  else
    match ← Program.attempt (readFolder name) with
    | .error _ => pure ()
    | .ok entries =>
      match entries.find? (differsInCase key) with
      | none => pure ()
      | some entry => do
        let _ ← Program.attempt (renameFile name entry key)

/-- `File::create`, `copy` and `flush` of a staging file. -/
def stageFile (staged : FileName) (data : Bytes) : FileM Unit := do
  call fun disk => .ok { disk with staging := disk.staging.insert staged [] }
  call fun disk => .ok { disk with staging := disk.staging.insert staged data }

section Calls

variable (codec : Codec)

/-- `append_operation` to the log, then `record` in memory. -/
def record (operation : Operation) : FileM Operation := do
  appendOperation codec operation
  pure operation

section Checked

variable (sanitizePaths : Bool)

def createCollection (name : CollectionName) : FileM Operation := do
  Program.ofExcept (sanitizePathSegment sanitizePaths name.asStr)
  if ← dirExists name.asStr then
    Program.fail (.transactionConflict s!"Collection already exists: {String.ofList name.asStr}")
  else record codec (.createCollection name)

def deleteCollection (name : CollectionName) : FileM Operation := do
  Program.ofExcept (sanitizePathSegment sanitizePaths name.asStr)
  if ← dirExists name.asStr then record codec (.deleteCollection name)
  else Program.fail (.collectionNotFound (String.ofList name.asStr))

def copyCollection (source dest : CollectionName) : FileM Operation := do
  Program.ofExcept (sanitizePathSegment sanitizePaths source.asStr)
  if ← dirExists source.asStr then
    Program.ofExcept (sanitizePathSegment sanitizePaths dest.asStr)
    let destExisted ← dirExists dest.asStr
    record codec (.copyCollection source dest destExisted)
  else Program.fail (.collectionNotFound (String.ofList source.asStr))

/-- `LocalCollection::write`; the staging name is a fresh UUID. -/
def write (collection : CollectionName) (key stagingFileName : FileName) (data : Bytes) :
    FileM Operation := do
  Program.ofExcept (sanitizePathSegment sanitizePaths (normalizeKey key))
  stageFile stagingFileName data
  record codec (.write collection (normalizeKey key) stagingFileName)

def delete (collection : CollectionName) (key : FileName) : FileM Operation := do
  ensureNormalizedOnDisk collection.asStr (normalizeKey key)
  Program.ofExcept (sanitizePathSegment sanitizePaths (normalizeKey key))
  if ← fileExists collection.asStr (normalizeKey key) then
    record codec (.delete collection (normalizeKey key))
  else Program.fail (.keyNotFound (String.ofList (normalizeKey key)))

end Checked

def deleteAll (collection : CollectionName) : FileM Operation :=
  record codec (.deleteAll collection)

/-- The calls that record an operation, in either build.  A handle of a
collection exists only for a name that passed `collection_dir`. -/
inductive RecordCall : FileM Operation → Prop where
  | createCollection {sanitizePaths : Bool} (name : CollectionName) :
      Trusted sanitizePaths name.asStr → RecordCall (createCollection codec sanitizePaths name)
  | deleteCollection {sanitizePaths : Bool} (name : CollectionName) :
      Trusted sanitizePaths name.asStr → RecordCall (deleteCollection codec sanitizePaths name)
  | copyCollection {sanitizePaths : Bool} (source dest : CollectionName) :
      Trusted sanitizePaths source.asStr → Trusted sanitizePaths dest.asStr →
      RecordCall (copyCollection codec sanitizePaths source dest)
  | write {sanitizePaths : Bool} (collection : CollectionName) (key stagingFileName : FileName)
      (data : Bytes) : PathSegment collection.asStr → Trusted sanitizePaths (normalizeKey key) →
      RecordCall (write codec sanitizePaths collection key stagingFileName data)
  | delete {sanitizePaths : Bool} (collection : CollectionName) (key : FileName) :
      PathSegment collection.asStr → Trusted sanitizePaths (normalizeKey key) →
      RecordCall (delete codec sanitizePaths collection key)
  | deleteAll (collection : CollectionName) :
      PathSegment collection.asStr → RecordCall (deleteAll codec collection)

/-- The operations recorded so far, and the state then. A call that fails records nothing, but may
have staged a file or renamed one to its normalized key. -/
inductive Recorded : List Operation → Disk → Prop where
  | begun {disk : Disk} {env : Env Site FileName} {clock : Nat} :
      (createWal codec env .record clock disk).result = .ok () →
      Recorded [] (createWal codec env .record clock disk).state
  | recorded {operations : List Operation} {disk : Disk} {program : FileM Operation}
      {operation : Operation} {env : Env Site FileName} {clock : Nat} :
      Recorded operations disk → RecordCall codec program →
      (program env .record clock disk).result = .ok operation →
      Recorded (operations ++ [operation]) (program env .record clock disk).state
  | refused {operations : List Operation} {disk : Disk} {program : FileM Operation}
      {error : StorageError} {env : Env Site FileName} {clock : Nat} :
      Recorded operations disk → RecordCall codec program →
      (program env .record clock disk).result = .error error →
      Recorded operations (program env .record clock disk).state

/-- What the recording calls have checked, in terms of the state before the
commit. -/
def Recordable (contents : Contents) : Operation → Prop
  | .write collection key _ =>
    PathSegment collection.asStr ∧ PathSegment key ∧
      normalizeKey key = key
  | .delete collection key =>
    PathSegment collection.asStr ∧ PathSegment key ∧
      normalizeKey key = key ∧ contents.file collection.asStr key ≠ none
  | .deleteAll collection => PathSegment collection.asStr
  | .createCollection name =>
    PathSegment name.asStr ∧ contents name.asStr = none
  | .deleteCollection name =>
    PathSegment name.asStr ∧ contents name.asStr ≠ none
  | .copyCollection source dest destExisted =>
    PathSegment source.asStr ∧ PathSegment dest.asStr ∧
      contents source.asStr ≠ none ∧ destExisted = (contents dest.asStr).isSome

end Calls

/-- Recording changes the collections only by renaming files to their
normalized keys. -/
structure Normalizes (before after : Contents) : Prop where
  folders : ∀ name, after name = none ↔ before name = none
  keys : ∀ name key, normalizeKey key = key → before.file name key ≠ none →
    after.file name key ≠ none

theorem Normalizes.refl (contents : Contents) : Normalizes contents contents :=
  ⟨fun _ => Iff.rfl, fun _ _ _ found => found⟩

theorem Normalizes.trans {first second third : Contents} (one : Normalizes first second)
    (two : Normalizes second third) : Normalizes first third :=
  ⟨fun name => (two.folders name).trans (one.folders name),
    fun name key normal found => two.keys name key normal (one.keys name key normal found)⟩

theorem Recordable.normalizes {before after : Contents} {operation : Operation}
    (recordable : Recordable before operation) (normalizes : Normalizes before after) :
    Recordable after operation := by
  have present : ∀ name, after name ≠ none ↔ before name ≠ none :=
    fun name => not_congr (normalizes.folders name)
  cases operation with
  | write collection key staged => exact recordable
  | delete collection key =>
    obtain ⟨name, segment, normal, found⟩ := recordable
    exact ⟨name, segment, normal, normalizes.keys _ _ normal found⟩
  | deleteAll collection => exact recordable
  | createCollection name => exact ⟨recordable.1, (normalizes.folders _).mpr recordable.2⟩
  | deleteCollection name => exact ⟨recordable.1, (present _).mpr recordable.2⟩
  | copyCollection source dest destExisted =>
    obtain ⟨sourceName, destName, found, existed⟩ := recordable
    refine ⟨sourceName, destName, (present _).mpr found, ?_⟩
    rw [existed, Bool.eq_iff_iff, Option.isSome_iff_ne_none, Option.isSome_iff_ne_none]
    exact (present _).symm

section Specs

variable {codec : Codec} {data : Bytes} {contents : Contents}

/-- The state of a transaction: the log, and how the collections came about. -/
def Logging (contents : Contents) (data : Bytes) (disk : Disk) : Prop :=
  Normalizes contents disk.contents ∧ disk.wal = some data

/-- What a successful call has added to the log and checked. -/
def Logged (codec : Codec) (contents : Contents) (data : Bytes) (operation : Operation)
    (disk : Disk) : Prop :=
  Logging contents (data ++ encodeEntry codec operation) disk ∧
    Recordable disk.contents operation ∧ (codec.toBytes operation).length < 4294967296

theorem record_spec {operation : Operation} {pre : Disk → Prop} (logging : ∀ disk, pre disk →
      Logging contents data disk ∧ Recordable disk.contents operation) :
    Triple (fun _ _ => True) pre (record codec operation) (Logged codec contents data)
      (Logging contents data) (fun _ => True) := by
  have appended : Triple (fun _ _ => True) pre (appendOperation codec operation)
      (fun _ => Logged codec contents data operation) (Logging contents data)
      (fun _ => True) := by
    apply Triple.step
    · exact fun _ _ => trivial
    · exact fun _ _ _ _ disk start => (logging disk start).1
    · intro disk next start appended
      obtain ⟨⟨normalizes, same⟩, recordable⟩ := logging disk start
      unfold Disk.appendOperation at appended
      split at appended
      · cases appended
      · rename_i fits
        rw [same] at appended
        cases appended
        exact ⟨trivial, ⟨normalizes, rfl⟩, recordable, not_le.mp fits⟩
    · exact fun disk _ start _ => (logging disk start).1
  exact Triple.bind appended fun _ => Triple.pure fun _ done => done

theorem renameFile_normalizes {disk next : Disk} {name entry key : FileName}
    (normal : normalizeKey key = key) (differs : differsInCase key entry = true)
    (renamed : disk.renameFile name entry key = .ok next) :
    Normalizes disk.contents next.contents ∧ next.wal = disk.wal := by
  obtain ⟨sameWal, _, content, bytes, stored, _, changed⟩ := Disk.renameFile_ok renamed
  simp only [differsInCase, Bool.and_eq_true, bne_iff_ne, ne_eq, beq_iff_eq] at differs
  refine ⟨⟨fun other => ?_, fun other kept keptNormal found => ?_⟩, sameWal⟩
  · rw [changed]
    by_cases same : other = name
    · subst same
      simp [stored]
    · rw [Function.update_of_ne same]
  · -- A normalized key is never the entry that is renamed.
    have apart : kept ≠ entry := by
      rintro rfl
      rw [keptNormal, normal] at differs
      exact differs.1.2 differs.2
    by_cases same : other = name
    · subst same
      simp only [Contents.file, stored, Option.bind_some] at found
      by_cases target : kept = key
      · simp [Contents.file, changed, target]
      · simpa [Contents.file, changed, target, apart] using found
    · simpa [Contents.file, changed, same] using found

theorem ensureNormalizedOnDisk_spec {name key : FileName} (normal : normalizeKey key = key) :
    Triple (fun _ _ => True) (Logging contents data) (ensureNormalizedOnDisk name key)
      (fun _ => Logging contents data) (Logging contents data) (fun _ => True) := by
  apply Triple.lookThen
  intro exists_
  cases exists_ with
  | true => exact Triple.pure fun _ start => start.1
  | false =>
    have listed : Triple (fun _ _ => True)
        (fun disk => Logging contents data disk ∧ (disk.contents.file name key).isSome = false)
        (Program.attempt (readFolder name)) (fun _ => Logging contents data)
        (Logging contents data) (fun _ => True) := by
      have inner : Triple (fun _ _ => True)
          (fun disk => Logging contents data disk ∧ (disk.contents.file name key).isSome = false)
          (readFolder name) (fun _ => Logging contents data) (Logging contents data)
          (fun _ => True) := by
        apply Triple.list
        · exact fun _ _ => trivial
        · exact fun _ _ _ _ _ start => start.1
        · exact fun _ _ _ start _ _ => start.1
        · exact fun _ _ start _ => start.1
      exact Triple.attempt inner (fun _ _ done => done) (fun _ _ done => done)
    refine Triple.bind listed fun listing => ?_
    cases listing with
    | error _ => exact Triple.pure fun _ start => start
    | ok entries =>
      cases found : entries.find? (differsInCase key) with
      | none =>
        simp only [found]
        exact Triple.pure fun _ start => start
      | some entry =>
        simp only [found]
        have differs := List.find?_some found
        have renamed : Triple (fun _ _ => True) (Logging contents data)
            (renameFile name entry key) (fun _ => Logging contents data)
            (Logging contents data) (fun _ => True) := by
          apply Triple.step
          · exact fun _ _ => trivial
          · exact fun _ _ _ _ _ start => start
          · intro disk next start moved
            obtain ⟨normalizes, same⟩ := renameFile_normalizes normal differs moved
            exact ⟨trivial, start.1.trans normalizes, same.trans start.2⟩
          · exact fun _ _ start _ => start
        refine Triple.bind (Triple.attempt renamed (fun _ _ done => done)
          fun _ _ done => done) fun _ => Triple.pure fun _ done => done

theorem stageFile_spec (staged : FileName) (bytes : Bytes) :
    Triple (fun _ _ => True) (Logging contents data) (stageFile staged bytes)
      (fun _ => Logging contents data) (Logging contents data) (fun _ => True) := by
  have staging : ∀ file : Bytes, Triple (fun _ _ => True) (Logging contents data)
      (call fun disk => .ok { disk with staging := disk.staging.insert staged file })
      (fun _ => Logging contents data) (Logging contents data) (fun _ => True) := by
    intro file
    apply Triple.step
    · exact fun _ _ => trivial
    · exact fun _ _ _ _ _ start => start
    · intro disk next start changed
      cases changed
      exact ⟨trivial, start⟩
    · exact fun _ _ start _ => start
  exact Triple.bind (staging []) fun _ => staging bytes

theorem sanitize_spec {sanitizePaths : Bool} {segment : FileName} {program : FileM Operation}
    {pre : Disk → Prop} (trusted : Trusted sanitizePaths segment)
    (starts : ∀ disk, pre disk → Logging contents data disk)
    (rest : PathSegment segment →
      Triple (fun _ _ => True) pre program (Logged codec contents data)
        (Logging contents data) (fun _ => True)) :
    Triple (fun _ _ => True) pre
      (Program.ofExcept (sanitizePathSegment sanitizePaths segment) >>= fun _ => program)
      (Logged codec contents data) (Logging contents data) (fun _ => True) := by
  cases checked : sanitizePathSegment sanitizePaths segment with
  | ok accepted => exact Triple.ofExceptThen rfl (rest (.of_passed trusted checked))
  | error error =>
    intro env site clock disk _ start
    exact ⟨fun _ _ => trivial, starts disk start⟩

theorem recordCall_spec {program : FileM Operation} (recordCall : RecordCall codec program) :
    Triple (fun _ _ => True) (Logging contents data) program (Logged codec contents data)
      (Logging contents data) (fun _ => True) := by
  cases recordCall with
  | createCollection name trusted =>
    refine sanitize_spec trusted (fun _ start => start) fun accepted =>
      Triple.lookThen fun exists_ => ?_
    cases exists_ with
    | true => exact Triple.fail fun _ start => start.1
    | false =>
      refine record_spec fun disk start => ⟨start.1, accepted, ?_⟩
      simpa using start.2
  | deleteCollection name trusted =>
    refine sanitize_spec trusted (fun _ start => start) fun accepted =>
      Triple.lookThen fun exists_ => ?_
    cases exists_ with
    | false => exact Triple.fail fun _ start => start.1
    | true =>
      refine record_spec fun disk start => ⟨start.1, accepted, ?_⟩
      exact Option.isSome_iff_ne_none.mp start.2
  | copyCollection source dest trusted destTrusted =>
    refine sanitize_spec trusted (fun _ start => start) fun accepted =>
      Triple.lookThen fun exists_ => ?_
    cases exists_ with
    | false => exact Triple.fail fun _ start => start.1
    | true =>
      refine sanitize_spec destTrusted (fun _ start => start.1) fun destAccepted => ?_
      refine Triple.lookThen fun destExisted => record_spec fun disk start => ?_
      exact ⟨start.1.1, accepted, destAccepted, Option.isSome_iff_ne_none.mp start.1.2,
        start.2.symm⟩
  | write collection key staged bytes accepted trusted =>
    refine sanitize_spec trusted (fun _ start => start) fun keyAccepted =>
      Triple.bind (stageFile_spec staged bytes) fun _ => ?_
    exact record_spec fun disk start =>
      ⟨start, accepted, keyAccepted, normalizeKey_normalizeKey key⟩
  | delete collection key accepted trusted =>
    refine Triple.bind (ensureNormalizedOnDisk_spec (normalizeKey_normalizeKey key)) fun _ => ?_
    refine sanitize_spec trusted (fun _ start => start) fun keyAccepted =>
      Triple.lookThen fun exists_ => ?_
    cases exists_ with
    | false => exact Triple.fail fun _ start => start.1
    | true =>
      exact record_spec fun disk start => ⟨start.1, accepted, keyAccepted,
        normalizeKey_normalizeKey key, Option.isSome_iff_ne_none.mp start.2⟩
  | deleteAll collection accepted => exact record_spec fun disk start => ⟨start, accepted⟩

/-- The log of a transaction holds its operations, and each of them still
passes the checks made when it was recorded. -/
theorem Recorded.log {operations : List Operation} {disk : Disk}
    (recorded : Recorded codec operations disk) :
    disk.wal = some (walFile codec statusRecording operations) ∧
      ∀ operation ∈ operations, Recordable disk.contents operation ∧
        (codec.toBytes operation).length < 4294967296 := by
  induction recorded with
  | @begun disk env clock created =>
    refine ⟨?_, by simp⟩
    simp only [createWal, call, Program.step] at created ⊢
    split at created
    · cases created
    · simp_all [walFile]
  | @recorded operations disk program operation env clock _ recordCall ended ih =>
    obtain ⟨same, earlier⟩ := ih
    have outcome := (recordCall_spec recordCall env .record clock disk trivial
      ⟨Normalizes.refl disk.contents, same⟩).2
    rw [ended] at outcome
    obtain ⟨⟨normalizes, logged⟩, recordable, fits⟩ := outcome
    refine ⟨by simpa [walFile] using logged, ?_⟩
    intro other mem
    rcases List.mem_append.mp mem with early | final
    · obtain ⟨stillRecordable, otherFits⟩ := earlier other early
      exact ⟨stillRecordable.normalizes normalizes, otherFits⟩
    · rw [List.mem_singleton.mp final]
      exact ⟨recordable, fits⟩
  | @refused operations disk program error env clock _ recordCall ended ih =>
    obtain ⟨same, earlier⟩ := ih
    have outcome := (recordCall_spec recordCall env .record clock disk trivial
      ⟨Normalizes.refl disk.contents, same⟩).2
    rw [ended] at outcome
    obtain ⟨normalizes, logged⟩ := outcome
    refine ⟨logged, fun other mem => ?_⟩
    obtain ⟨stillRecordable, otherFits⟩ := earlier other mem
    exact ⟨stillRecordable.normalizes normalizes, otherFits⟩

end Specs

/-- The state after a transaction recorded the calls one after another. -/
def recordAll (codec : Codec) (disk : Disk) (programs : List (FileM Operation)) : Disk :=
  programs.foldl (fun state program => (program (Env.calm Site FileName) .record 0 state).state)
    (createWal codec (Env.calm Site FileName) .record 0 disk).state

end DiagnosticAdapter.Storage
