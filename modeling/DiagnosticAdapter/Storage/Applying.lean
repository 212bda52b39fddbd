import DiagnosticAdapter.Storage.Recording

/-!
# Applying operations that can be undone

`Undoable` says when recovery can undo an operation that is applied to the
given contents.  As long as every operation of a run is undoable, each state
the run passes is recoverable to the state before the commit.
-/

namespace DiagnosticAdapter.Storage

open Effects Function

/-- Whatever the collection holds now, undoing replaces or removes it as a
whole. -/
def Replaceable (operations : List Operation) (name : FileName) (contents : Contents) : Prop :=
  contents (backupName name) ≠ none ∨ ∃ operation ∈ operations, operation.copiesToNew name = true

/-- Moving the directory aside keeps what is needed to restore it. -/
def Displaceable (initial : Contents) (name : FileName) (contents : Contents) : Prop :=
  contents name = none ∨ contents name = initial name ∨
    ∃ key, contents.file (backupName name) key ≠ none

/-- Renaming the file to its backup name keeps what is needed to restore it. -/
def Savable (initial : Contents) (operations : List Operation) (name key : FileName)
    (contents : Contents) : Prop :=
  Replaceable operations name contents ∨
    (initial.file name key ≠ none ∧ contents.file name (backupName key) = none)

/-- Undoing all of `operations` from the log also undoes this one, applied to
`contents` after the `earlier` ones. -/
def Undoable (initial : Contents) (operations earlier : List Operation) (contents : Contents) :
    Operation → Prop
  -- The backup of a new file would be restored as if the file had existed, a
  -- second backup replaces the first, and a collection that only the write
  -- creates is not removed again.
  | .write collection key _ =>
    (contents.file collection.asStr key ≠ none →
        Savable initial operations collection.asStr key contents) ∧
      (initial collection.asStr ≠ none ∨ Replaceable operations collection.asStr contents ∨
        ∃ operation ∈ earlier, operation.creates collection.asStr = true)
  | .delete collection key =>
    contents.file collection.asStr key ≠ none →
      Savable initial operations collection.asStr key contents
  | .deleteAll collection =>
    ∀ key, contents.file collection.asStr key ≠ none →
      Savable initial operations collection.asStr key contents
  | .deleteCollection name => Displaceable initial name.asStr contents
  | .copyCollection _ dest _ => Displaceable initial dest.asStr contents
  | .createCollection _ => True

/-- Every operation of the run is undoable in the state it is applied to. -/
def RunUndoable (initial : Contents) (operations : List Operation) (env : Env Site FileName) :
    List Operation → List Operation → Nat → Disk → Prop
  | _, [], _, _ => True
  | earlier, operation :: rest, clock, disk =>
    Undoable initial operations earlier disk.contents operation ∧
      let outcome := applyOperation operation env .applyOperations clock disk
      (outcome.result = .ok () →
        RunUndoable initial operations env (earlier ++ [operation]) rest outcome.clock
          outcome.state)

/-- The state after the `earlier` operations. -/
structure Applying (initial : Contents) (operations earlier : List Operation)
    (contents : Contents) : Prop where
  names : ∀ operation ∈ earlier, operation.OriginalNames
  recoverable : Recoverable initial operations contents
  guarded : Guarded initial earlier contents
  created : ∀ name present, Original name → initial name = none → contents name = some present →
    (∃ operation ∈ operations, operation.copiesToNew name = true) ∨
      CreatedFolder earlier name present

section Contents

variable {initial contents : Contents} {operations earlier : List Operation} {name key : FileName}

theorem PlainContents.applying (plain : PlainContents initial) (operations : List Operation) :
    Applying initial operations [] initial := by
  refine ⟨by simp, plain.recoverable operations, by simp [Guarded], fun name present _ fresh stored => ?_⟩
  rw [fresh] at stored
  cases stored

variable {operation : Operation}

theorem Applying.snoc (applying : Applying initial operations earlier contents)
    (named : operation.OriginalNames) (guarded : ∀ name key, operation.writesTo name key = true →
      initial.file name key = none ∨ contents (backupName name) ≠ none ∨
        contents.file name (backupName key) ≠ none) :
    Applying initial operations (earlier ++ [operation]) contents := by
  refine ⟨?_, applying.recoverable, ?_, fun name present original fresh stored => ?_⟩
  · intro other mem
    rcases List.mem_append.mp mem with early | final
    · exact applying.names other early
    · rw [List.mem_singleton.mp final]
      exact named
  · intro other mem
    rcases List.mem_append.mp mem with early | final
    · exact applying.guarded other early
    · rw [List.mem_singleton.mp final]
      exact guarded
  · rcases applying.created name present original fresh stored with copied | created
    · exact .inl copied
    · exact .inr (created.mono [operation])

variable {present : Content}

theorem Applying.updateLive (applying : Applying initial operations earlier contents)
    (original : Original name) (here : RecoverableAt operations name (initial name) (some present)
      (contents (backupName name)))
    (keeps : initial name = none ∨ contents (backupName name) ≠ none ∨
      ∀ key, Original key → contents.file name (backupName key) ≠ none →
        present (backupName key) ≠ none)
    (created : initial name = none → (∃ operation ∈ operations, operation.copiesToNew name = true) ∨
        CreatedFolder earlier name present) :
    Applying initial operations earlier (update contents name (some present)) := by
  refine ⟨applying.names, applying.recoverable.updateLive original here,
    applying.guarded.updateLive applying.names original (some present) keeps, ?_⟩
  intro other otherPresent otherOriginal fresh stored
  by_cases same : other = name
  · subst same
    rw [update_self, Option.some.injEq] at stored
    rw [← stored]
    exact created fresh
  · rw [update_of_ne same] at stored
    exact applying.created other otherPresent otherOriginal fresh stored

theorem Applying.replace (applying : Applying initial operations earlier contents)
    (compatible : Compatible initial operations) (original : Original name)
    (replaceable : Replaceable operations name contents) (present : Content) :
    Applying initial operations earlier (update contents name (some present)) := by
  have here := applying.recoverable.each name original
  cases saved : contents (backupName name) with
  | some backup =>
    rw [saved] at here
    obtain ⟨sameInitial, plainKeys⟩ := here.displaced_of_backup
    apply applying.updateLive original
    · rw [sameInitial, saved]
      exact .displaced plainKeys
    · exact .inr (.inl (by simp [saved]))
    · intro fresh
      rw [sameInitial] at fresh
      cases fresh
  | none =>
    rcases replaceable with there | ⟨operation, mem, copies⟩
    · exact absurd saved there
    · have fresh := compatible.copied operation mem name copies
      apply applying.updateLive original
      · rw [fresh, saved]
        exact .copied ⟨operation, mem, copies⟩
      · exact .inl fresh
      · exact fun _ => .inl ⟨operation, mem, copies⟩

variable {bytes : Bytes}

theorem KeptFolder.save {before present : Content}
    (kept : KeptFolder operations name before present) (stored : present key = some bytes)
    (existed : before key ≠ none) (unsaved : present (backupName key) = none) :
    KeptFolder operations name before
      (update (update present key none) (backupName key) (some bytes)) := by
  obtain ⟨old, inBefore⟩ := Option.ne_none_iff_exists'.mp existed
  have original : Original key := (kept.originalPlain key existed).1
  have same : bytes = old := by
    rcases kept.old key old inBefore with ⟨found, _⟩ | saved
    · rw [stored] at found
      exact Option.some.inj found
    · rw [unsaved] at saved
      cases saved
  have value : ∀ other, other ≠ key → other ≠ backupName key →
      update (update present key none) (backupName key) (some bytes) other =
        present other := by
    intro other notKey notBackup
    rw [update_of_ne notBackup, update_of_ne notKey]
  refine ⟨kept.originalPlain, ?_, ?_, ?_⟩
  · intro other there
    by_cases atBackup : other = backupName key
    · exact .inr ⟨key, original, atBackup⟩
    · by_cases atKey : other = key
      · exact .inl (atKey ▸ original)
      · rw [value other atKey atBackup] at there
        exact kept.names other there
  · intro other otherBytes inOriginal
    have otherOriginal := (kept.originalPlain other (by simp [inOriginal])).1
    by_cases atKey : other = key
    · subst atKey
      rw [inBefore] at inOriginal
      cases inOriginal
      exact .inr (by rw [update_self, same])
    · have backupApart : backupName other ≠ backupName key := by simpa using atKey
      rw [value other atKey (otherOriginal.backupName_ne original),
        value _ (original.backupName_ne otherOriginal).symm backupApart]
      exact kept.old other otherBytes inOriginal
  · intro other otherOriginal fresh
    have notKey : other ≠ key := by
      rintro rfl
      exact existed fresh
    have backupApart : backupName other ≠ backupName key := by simpa using notKey
    rw [value other notKey (otherOriginal.backupName_ne original),
      value _ (original.backupName_ne otherOriginal).symm backupApart]
    exact kept.new other otherOriginal fresh

theorem Applying.saveFile (applying : Applying initial operations earlier contents)
    (compatible : Compatible initial operations) (original : Original name)
    (stored : contents name = some present)
    (found : present key = some bytes) (savable : Savable initial operations name key contents) :
    Applying initial operations earlier (update contents name
      (some (update (update present key none) (backupName key) (some bytes)))) := by
  by_cases replaceable : Replaceable operations name contents
  · exact applying.replace compatible original replaceable _
  · obtain ⟨existed, unsavedFile⟩ := savable.resolve_left replaceable
    have unsaved : contents (backupName name) = none := by
      by_contra there
      exact replaceable (.inl there)
    cases before : initial name with
    | none => simp [Contents.file, before] at existed
    | some originalContent =>
      simp only [Contents.file, before, Option.bind_some] at existed
      simp only [Contents.file, stored, Option.bind_some] at unsavedFile
      have here := applying.recoverable.each name original
      rw [before, stored, unsaved] at here
      cases here with
      | kept folder =>
        have keyOriginal := (folder.originalPlain key existed).1
        apply applying.updateLive original
        · rw [before, unsaved]
          exact .kept (folder.save found existed unsavedFile)
        · refine .inr (.inr fun other otherOriginal there => ?_)
          simp only [Contents.file, stored, Option.bind_some] at there
          by_cases same : backupName other = backupName key
          · simp [same]
          · rw [update_of_ne same,
              update_of_ne (keyOriginal.backupName_ne otherOriginal).symm]
            exact there
        · intro fresh
          rw [before] at fresh
          cases fresh

theorem KeptFolder.put {before present : Content}
    (kept : KeptFolder operations name before present) (original : Original key)
    (absent : present key = none)
    (writes : ∃ operation ∈ operations, operation.writesTo name key = true) :
    KeptFolder operations name before (update present key (some bytes)) := by
  refine ⟨kept.originalPlain, ?_, ?_, ?_⟩
  · intro other there
    by_cases same : other = key
    · exact .inl (same ▸ original)
    · rw [update_of_ne same] at there
      exact kept.names other there
  · intro other otherBytes inOriginal
    have otherOriginal := (kept.originalPlain other (by simp [inOriginal])).1
    rw [update_of_ne (original.backupName_ne otherOriginal).symm]
    rcases kept.old other otherBytes inOriginal with ⟨live, unsaved⟩ | saved
    · have notKey : other ≠ key := by
        rintro rfl
        rw [absent] at live
        cases live
      rw [update_of_ne notKey]
      exact .inl ⟨live, unsaved⟩
    · exact .inr saved
  · intro other otherOriginal missing
    obtain ⟨unsaved, writer⟩ := kept.new other otherOriginal missing
    rw [update_of_ne (original.backupName_ne otherOriginal).symm]
    refine ⟨unsaved, fun there => ?_⟩
    by_cases same : other = key
    · exact same ▸ writes
    · rw [update_of_ne same] at there
      exact writer there

theorem CreatedFolder.put (created : CreatedFolder earlier name present) (original : Original key)
    (writes : operation.writesTo name key = true) :
    CreatedFolder (earlier ++ [operation]) name (update present key (some bytes)) := by
  obtain ⟨before, creator, after, rfl, creates, written⟩ := created
  refine ⟨before, creator, after ++ [operation], by simp, creates, ?_⟩
  intro other there
  by_cases same : other = key
  · subst same
    exact ⟨original, operation, by simp, writes⟩
  · rw [update_of_ne same] at there
    obtain ⟨otherOriginal, writer, mem, writesOther⟩ := written other there
    exact ⟨otherOriginal, writer, List.mem_append_left _ mem, writesOther⟩

theorem Applying.guard (applying : Applying initial operations earlier contents)
    (original : Original name) (stored : contents name = some present) (absent : present key = none) :
    initial.file name key = none ∨ contents (backupName name) ≠ none ∨
      contents.file name (backupName key) ≠ none := by
  have here := applying.recoverable.each name original
  rw [stored] at here
  generalize before : initial name = initially at here
  generalize saved : contents (backupName name) = backup at here
  cases here with
  | displaced _ => exact .inr (.inl (by simp))
  | copied _ | created _ => exact .inl (by simp [Contents.file, before])
  | @kept originalContent _ folder =>
    cases old : originalContent key with
    | none => exact .inl (by simp [Contents.file, before, old])
    | some bytes =>
      rcases folder.old key bytes old with ⟨live, _⟩ | backup
      · rw [absent] at live
        cases live
      · exact .inr (.inr (by simp [Contents.file, stored, backup]))

theorem Applying.put {rest : List Operation}
    (applying : Applying initial (earlier ++ operation :: rest) earlier contents)
    (compatible : Compatible initial (earlier ++ operation :: rest)) (original : Original name)
    (keyOriginal : Original key) (writes : operation.writesTo name key = true)
    (only : ∀ other otherKey, operation.writesTo other otherKey = true →
      other = name ∧ otherKey = key)
    (bytes : Bytes) (stored : contents name = some present) (absent : present key = none) :
    Applying initial (earlier ++ operation :: rest) (earlier ++ [operation])
      (update contents name (some (update present key (some bytes)))) := by
  have mem : operation ∈ earlier ++ operation :: rest := by simp
  have next : Applying initial (earlier ++ operation :: rest) (earlier ++ [operation]) contents := by
    apply applying.snoc (compatible.names operation mem)
    intro other otherKey writesOther
    obtain ⟨rfl, rfl⟩ := only other otherKey writesOther
    exact applying.guard original stored absent
  have keeps : ∀ other, Original other → contents.file name (backupName other) ≠ none →
      update present key (some bytes) (backupName other) ≠ none := by
    intro other otherOriginal there
    rw [update_of_ne (keyOriginal.backupName_ne otherOriginal).symm]
    simpa [Contents.file, stored] using there
  by_cases replaceable : Replaceable (earlier ++ operation :: rest) name contents
  · exact next.replace compatible original replaceable _
  · have unsaved : contents (backupName name) = none := by
      by_contra there
      exact replaceable (.inl there)
    have uncopied : ¬ ∃ other ∈ earlier ++ operation :: rest, other.copiesToNew name = true :=
      fun copies => replaceable (.inr copies)
    have here := applying.recoverable.each name original
    cases before : initial name with
    | some originalContent =>
      rw [before, stored, unsaved] at here
      apply next.updateLive original
      · rw [before, unsaved]
        cases here with
        | kept folder =>
          exact .kept (folder.put keyOriginal absent ⟨operation, mem, writes⟩)
      · exact .inr (.inr keeps)
      · intro missing
        rw [before] at missing
        cases missing
    | none =>
      have created : CreatedFolder (earlier ++ [operation]) name
          (update present key (some bytes)) := by
        rcases applying.created name present original before stored with copied | created
        · exact absurd copied uncopied
        · exact created.put keyOriginal writes
      apply next.updateLive original
      · rw [before, unsaved]
        apply RecoverableAt.created
        simpa using created.mono rest
      · exact .inl before
      · exact fun _ => .inr created

theorem Applying.makeFolder (applying : Applying initial operations earlier contents)
    {later : List Operation} (splits : operations = earlier ++ later)
    (compatible : Compatible initial operations) (original : Original name)
    (missing : contents name = none)
    (makes : initial name ≠ none ∨ Replaceable operations name contents ∨
      ∃ operation ∈ earlier, operation.creates name = true) :
    Applying initial operations earlier (update contents name (some fun _ => none)) := by
  by_cases replaceable : Replaceable operations name contents
  · exact applying.replace compatible original replaceable _
  · have unsaved : contents (backupName name) = none := by
      by_contra there
      exact replaceable (.inl there)
    have here := applying.recoverable.each name original
    rw [missing, unsaved] at here
    rcases makes with existed | replaced | ⟨operation, mem, creates⟩
    · cases before : initial name with
      | none => exact absurd before existed
      | some originalContent =>
        rw [before] at here
        cases here
    · exact absurd replaced replaceable
    · have created : CreatedFolder earlier name fun _ => none := by
        obtain ⟨before, after, split⟩ := List.append_of_mem mem
        exact ⟨before, operation, after, split, creates, by simp⟩
      have fresh : initial name = none :=
        compatible.created operation (by simp [splits, mem]) name creates
      apply applying.updateLive original
      · rw [fresh, unsaved, splits]
        exact .created (created.mono later)
      · exact .inl fresh
      · exact fun _ => .inr created

theorem Applying.displace (applying : Applying initial operations earlier contents)
    (plain : PlainContents initial) (original : Original name)
    (stored : contents name = some present) (displaceable : Displaceable initial name contents)
    (free : ∀ occupied, contents (backupName name) = some occupied → ∀ key, occupied key = none) :
    Applying initial operations earlier
      (update (update contents name none) (backupName name) (some present)) := by
  have whole : initial name = some present := by
    rcases displaceable with missing | same | ⟨key, there⟩
    · rw [stored] at missing
      cases missing
    · rw [← same, stored]
    · cases saved : contents (backupName name) with
      | none => simp [Contents.file, saved] at there
      | some occupied => simp [Contents.file, saved, free occupied saved key] at there
  refine ⟨applying.names, applying.recoverable.updateBoth original ?_, ?_, ?_⟩
  · rw [whole]
    exact .displaced (plain.keys name present whole)
  · intro operation mem written key writes
    have writtenOriginal := (writesTo_original (applying.names operation mem) writes).1
    by_cases same : written = name
    · exact .inr (.inl (by simp [same]))
    · have backupApart : backupName written ≠ backupName name := by simpa using same
      have notBackup : written ≠ backupName name := writtenOriginal.backupName_ne original
      have guarded := applying.guarded operation mem written key writes
      simpa [Contents.file, update_of_ne backupApart, update_of_ne notBackup,
        update_of_ne (original.backupName_ne writtenOriginal).symm,
        update_of_ne same] using guarded
  · intro other otherPresent otherOriginal fresh found
    have notName : other ≠ name := by
      rintro rfl
      rw [whole] at fresh
      cases fresh
    rw [update_of_ne (otherOriginal.backupName_ne original), update_of_ne notName] at found
    exact applying.created other otherPresent otherOriginal fresh found

end Contents

section Steps

variable {initial : Contents} {operations earlier rest : List Operation} {wal : Option Bytes}

/-- The state of the disk after the `earlier` operations. -/
def Applied (initial : Contents) (wal : Option Bytes) (operations earlier : List Operation)
    (disk : Disk) : Prop :=
  Applying initial operations earlier disk.contents ∧ disk.wal = wal

theorem Applied.undoing {disk : Disk} (applied : Applied initial wal operations earlier disk) :
    Undoing initial wal operations disk :=
  ⟨applied.1.recoverable, applied.2⟩

theorem call_spec {pre post : Disk → Prop} {change : Disk → Except StorageError Disk}
    (stays : ∀ disk, pre disk → Applied initial wal operations earlier disk)
    (keeps : ∀ disk, post disk → Undoing initial wal operations disk)
    (moves : ∀ disk next, pre disk → change disk = .ok next → post next) :
    Triple (fun _ _ => True) pre (call change) (fun _ => post)
      (Undoing initial wal operations) (Undoing initial wal operations) := by
  apply Triple.step
  · exact fun disk start => (stays disk start).undoing
  · exact fun _ _ _ _ disk start => (stays disk start).undoing
  · exact fun disk next start changed =>
      ⟨keeps next (moves disk next start changed), moves disk next start changed⟩
  · exact fun disk _ start _ => (stays disk start).undoing

theorem readFolder_spec {pre : Disk → Prop} {name : FileName}
    (stays : ∀ disk, pre disk → Applied initial wal operations earlier disk) :
    Triple (fun _ _ => True) pre (readFolder name) (fun keys disk => pre disk ∧ keys.Nodup ∧
        ∀ key ∈ keys, disk.contents.file name key ≠ none)
      (Undoing initial wal operations) (Undoing initial wal operations) := by
  apply Triple.list
  · exact fun disk start => (stays disk start).undoing
  · exact fun _ _ _ _ disk start => (stays disk start).undoing
  · intro disk found listed start listing permuted
    obtain ⟨content, stored, lists⟩ := Disk.folderKeys_ok listing
    refine ⟨start, permuted.nodup_iff.mpr lists.1, fun key mem => ?_⟩
    simpa [Contents.file, stored] using (lists.2 key).mp (permuted.mem_iff.mp mem)
  · exact fun disk _ start _ => (stays disk start).undoing

theorem renamed_savable {name key other : FileName} {disk next : Disk}
    (renamed : disk.renameFile name key (backupName key) = .ok next) (original : Original name)
    (ne : other ≠ key)
    (savable : Savable initial operations name other disk.contents) :
    Savable initial operations name other next.contents := by
  obtain ⟨_, _, present, bytes, stored, _, changed⟩ := Disk.renameFile_ok renamed
  have sameBackup : next.contents (backupName name) = disk.contents (backupName name) := by
    rw [changed, update_of_ne (original.backupName_ne original).symm]
  rcases savable with replaceable | ⟨existed, unsaved⟩
  · exact .inl (by simpa [Replaceable, sameBackup] using replaceable)
  · refine .inr ⟨existed, ?_⟩
    have notBackup : backupName other ≠ backupName key := by simpa using ne
    simp only [Contents.file, stored, Option.bind_some] at unsaved
    simp only [Contents.file, changed, update_self, Option.bind_some, update_of_ne notBackup]
    by_cases same : backupName other = key
    · simp [same]
    · rw [update_of_ne same]
      exact unsaved

theorem backupFile_spec (compatible : Compatible initial operations) {name key : FileName}
    (original : Original name) :
    Triple (fun _ _ => True) (fun disk => Applied initial wal operations earlier disk ∧
        (disk.contents.file name key ≠ none → Savable initial operations name key disk.contents))
      (backupFile name key)
      (fun _ disk => Applied initial wal operations earlier disk ∧
        disk.contents.file name key = none)
      (Undoing initial wal operations) (Undoing initial wal operations) := by
  refine Triple.lookThen fun exists_ => Triple.whenever (fun saving => ?_) (fun missing => ?_)
  · refine call_spec (fun disk start => start.1.1) (fun _ done => done.1.undoing) ?_
    rintro disk next ⟨⟨⟨applying, same⟩, savable⟩, there⟩ renamed
    rw [saving] at there
    obtain ⟨sameWal, _, present, bytes, stored, found, changed⟩ := Disk.renameFile_ok renamed
    refine ⟨⟨?_, sameWal.trans same⟩, ?_⟩
    · rw [changed]
      exact applying.saveFile compatible original stored found
        (savable (Option.isSome_iff_ne_none.mp there))
    · simp [Contents.file, changed, update_of_ne (backupName_ne_self key).symm]
  · rintro disk ⟨⟨applied, _⟩, there⟩
    rw [missing] at there
    exact ⟨applied, by simpa using there⟩

theorem backupDir_spec (plain : PlainContents initial) {name : FileName}
    (original : Original name) :
    Triple (fun _ _ => True) (fun disk => Applied initial wal operations earlier disk ∧
        Displaceable initial name disk.contents)
      (backupDir name)
      (fun _ disk => Applied initial wal operations earlier disk ∧ disk.contents name = none)
      (Undoing initial wal operations) (Undoing initial wal operations) := by
  refine Triple.lookThen fun exists_ => Triple.whenever (fun moving => ?_) (fun missing => ?_)
  · refine call_spec (fun disk start => start.1.1) (fun _ done => done.1.undoing) ?_
    rintro disk next ⟨⟨⟨applying, same⟩, displaceable⟩, _⟩ renamed
    obtain ⟨sameWal, _, present, stored, free, changed⟩ := Disk.renameDir_ok renamed
    refine ⟨⟨?_, sameWal.trans same⟩, ?_⟩
    · rw [changed]
      exact applying.displace plain original stored displaceable free
    · rw [changed, update_of_ne (original.backupName_ne original), update_self]
  · rintro disk ⟨⟨applied, _⟩, there⟩
    rw [missing] at there
    exact ⟨applied, by simpa using there⟩

theorem applyWrite_spec {collection : CollectionName} {key staged : FileName}
    (compatible : Compatible initial (earlier ++ .write collection key staged :: rest)) :
    Triple (fun _ _ => True)
      (fun disk => Applied initial wal (earlier ++ .write collection key staged :: rest) earlier disk ∧
        Undoable initial (earlier ++ .write collection key staged :: rest) earlier disk.contents
          (.write collection key staged))
      (applyOperation (.write collection key staged))
      (fun _ => Applied initial wal (earlier ++ .write collection key staged :: rest)
        (earlier ++ [.write collection key staged]))
      (Undoing initial wal (earlier ++ .write collection key staged :: rest))
      (Undoing initial wal (earlier ++ .write collection key staged :: rest)) := by
  obtain ⟨names, keys⟩ := compatible.names (.write collection key staged) (by simp)
  have original : Original collection.asStr := names _ (by simp [Operation.collectionNames])
  have keyOriginal : Original key := keys _ (by simp [Operation.keyNames])
  generalize collections : earlier ++ Operation.write collection key staged :: rest = operations at *
  have created : Triple (fun _ _ => True)
      (fun disk => Applied initial wal operations earlier disk ∧
        Undoable initial operations earlier disk.contents (.write collection key staged))
      (createDirAll collection.asStr)
      (fun _ disk => Applied initial wal operations earlier disk ∧
        (disk.contents.file collection.asStr key ≠ none →
          Savable initial operations collection.asStr key disk.contents))
      (Undoing initial wal operations) (Undoing initial wal operations) := by
    refine call_spec (fun disk start => start.1) (fun _ done => done.1.undoing) ?_
    rintro disk next ⟨⟨applying, same⟩, savable, makes⟩ made
    obtain ⟨sameWal, _, ⟨_, unchanged⟩ | ⟨missing, changed⟩⟩ := Disk.createDirAll_ok made
    · refine ⟨⟨unchanged ▸ applying, sameWal.trans same⟩, fun there => ?_⟩
      rw [unchanged] at there ⊢
      exact savable there
    · refine ⟨⟨?_, sameWal.trans same⟩, ?_⟩
      · rw [changed]
        exact applying.makeFolder collections.symm compatible original missing makes
      · intro there
        simp [Contents.file, changed] at there
  refine Triple.bind created fun _ => Triple.bind (backupFile_spec compatible original) fun _ => ?_
  refine call_spec (fun disk start => start.1) (fun _ done => done.undoing) ?_
  rintro disk next ⟨⟨applying, same⟩, absent⟩ moved
  obtain ⟨sameWal, _, present, bytes, stored, _, changed⟩ := Disk.moveStaged_ok moved
  simp only [Contents.file, stored, Option.bind_some] at absent
  refine ⟨?_, sameWal.trans same⟩
  rw [changed]
  subst collections
  refine applying.put compatible original keyOriginal (by simp [Operation.writesTo]) ?_ bytes
    stored absent
  intro other otherKey writes
  simp only [Operation.writesTo, Bool.and_eq_true, beq_iff_eq] at writes
  exact ⟨writes.1.symm, writes.2.symm⟩

theorem backupAllFilesInDir_spec (compatible : Compatible initial operations) {name : FileName}
    (original : Original name) :
    Triple (fun _ _ => True) (fun disk => Applied initial wal operations earlier disk ∧
        ∀ key, disk.contents.file name key ≠ none →
          Savable initial operations name key disk.contents)
      (backupAllFilesInDir name) (fun _ => Applied initial wal operations earlier)
      (Undoing initial wal operations) (Undoing initial wal operations) := by
  -- Renaming one of the listed keys leaves the others savable.
  let kept (keys : List FileName) (disk : Disk) : Prop :=
    Applied initial wal operations earlier disk ∧ keys.Nodup ∧
      ∀ key ∈ keys, Savable initial operations name key disk.contents
  have turn : ∀ key keys, Triple (fun _ _ => True) (kept (key :: keys))
      (renameFile name key (backupName key)) (fun _ => kept keys)
      (Undoing initial wal operations) (Undoing initial wal operations) := by
    intro key keys
    refine call_spec (fun disk start => start.1) (fun _ done => done.1.undoing) ?_
    rintro disk next ⟨⟨applying, same⟩, nodup, savable⟩ renamed
    obtain ⟨fresh, restNodup⟩ := List.nodup_cons.mp nodup
    obtain ⟨sameWal, _, present, bytes, stored, found, changed⟩ := Disk.renameFile_ok renamed
    refine ⟨⟨?_, sameWal.trans same⟩, restNodup, fun other mem => ?_⟩
    · rw [changed]
      exact applying.saveFile compatible original stored found (savable key (by simp))
    · have ne : other ≠ key := fun equal => fresh (equal ▸ mem)
      exact renamed_savable renamed original ne
        (savable other (List.mem_cons_of_mem _ mem))
  refine Triple.bind (readFolder_spec fun disk start => start.1) fun keys => ?_
  refine Triple.consequence (Triple.forEach turn keys) (fun _ _ _ => trivial) ?_
    (fun _ _ done => done.1) (fun _ undoing => undoing) (fun _ undoing => undoing)
  rintro disk ⟨⟨applied, savable⟩, nodup, listed⟩
  exact ⟨applied, nodup, fun key mem => savable key (listed key mem)⟩

theorem copyDirContents_spec (compatible : Compatible initial operations)
    {source dest : FileName} (original : Original dest) :
    Triple (fun _ _ => True) (fun disk => Applied initial wal operations earlier disk ∧
        Replaceable operations dest disk.contents)
      (copyDirContents source dest) (fun _ => Applied initial wal operations earlier)
      (Undoing initial wal operations) (Undoing initial wal operations) := by
  let kept (_ : List FileName) (disk : Disk) : Prop :=
    Applied initial wal operations earlier disk ∧ Replaceable operations dest disk.contents
  have turn : ∀ key keys, Triple (fun _ _ => True) (kept (key :: keys))
      (copyFile source key dest) (fun _ => kept keys)
      (Undoing initial wal operations) (Undoing initial wal operations) := by
    intro key keys
    refine call_spec (fun disk start => start.1) (fun _ done => done.1.undoing) ?_
    rintro disk next ⟨⟨applying, same⟩, replaceable⟩ copied
    obtain ⟨sameWal, _, _, present, bytes, _, _, _, changed⟩ := Disk.copyFile_ok copied
    refine ⟨⟨?_, sameWal.trans same⟩, ?_⟩
    · rw [changed]
      exact applying.replace compatible original replaceable _
    · rw [Replaceable, changed, update_of_ne (original.backupName_ne original).symm]
      exact replaceable
  refine Triple.bind (readFolder_spec fun disk start => start.1) fun keys => ?_
  exact Triple.consequence (Triple.forEach turn keys) (fun _ _ _ => trivial)
    (fun _ start => start.1) (fun _ _ done => done.1) (fun _ undoing => undoing)
    (fun _ undoing => undoing)

theorem applyCopy_spec (plain : PlainContents initial) (compatible : Compatible initial operations)
    {source dest : CollectionName} {destExisted : Bool}
    (mem : .copyCollection source dest destExisted ∈ operations)
    (existed : destExisted = (initial dest.asStr).isSome) :
    Triple (fun _ _ => True) (fun disk => Applied initial wal operations earlier disk ∧
        Displaceable initial dest.asStr disk.contents)
      (applyOperation (.copyCollection source dest destExisted))
      (fun _ => Applied initial wal operations earlier)
      (Undoing initial wal operations) (Undoing initial wal operations) := by
  have original : Original dest.asStr :=
    (compatible.names _ mem).1 _ (by simp [Operation.collectionNames])
  -- A destination that is gone was moved aside or did not exist.
  have replaceable : ∀ contents, Applying initial operations earlier contents →
      contents dest.asStr = none → Replaceable operations dest.asStr contents := by
    intro contents applying missing
    have here := applying.recoverable.each dest.asStr original
    rw [missing] at here
    generalize before : initial dest.asStr = initially at here
    generalize saved : contents (backupName dest.asStr) = backup at here
    cases here with
    | displaced _ => exact .inl (by simp [saved])
    | absent =>
      rw [before] at existed
      exact .inr ⟨_, mem, by simp [Operation.copiesToNew, existed]⟩
  have created : Triple (fun _ _ => True)
      (fun disk => Applied initial wal operations earlier disk ∧ disk.contents dest.asStr = none)
      (createDirAll dest.asStr)
      (fun _ disk => Applied initial wal operations earlier disk ∧
        Replaceable operations dest.asStr disk.contents)
      (Undoing initial wal operations) (Undoing initial wal operations) := by
    refine call_spec (fun disk start => start.1) (fun _ done => done.1.undoing) ?_
    rintro disk next ⟨⟨applying, same⟩, missing⟩ made
    obtain ⟨sameWal, _, ⟨there, _⟩ | ⟨_, changed⟩⟩ := Disk.createDirAll_ok made
    · exact absurd missing there
    · have free := replaceable _ applying missing
      refine ⟨⟨?_, sameWal.trans same⟩, ?_⟩
      · rw [changed]
        exact applying.replace compatible original free _
      · rw [Replaceable, changed, update_of_ne (original.backupName_ne original).symm]
        exact free
  exact Triple.bind (backupDir_spec plain original) fun _ => Triple.bind created fun _ =>
    copyDirContents_spec compatible original

theorem applyCreate_spec {name : CollectionName}
    (compatible : Compatible initial (earlier ++ .createCollection name :: rest)) :
    Triple (fun _ _ => True)
      (Applied initial wal (earlier ++ .createCollection name :: rest) earlier)
      (applyOperation (.createCollection name))
      (fun _ => Applied initial wal (earlier ++ .createCollection name :: rest)
        (earlier ++ [.createCollection name]))
      (Undoing initial wal (earlier ++ .createCollection name :: rest))
      (Undoing initial wal (earlier ++ .createCollection name :: rest)) := by
  have named := compatible.names (.createCollection name) (by simp)
  have original : Original name.asStr := named.1 _ (by simp [Operation.collectionNames])
  refine call_spec (fun disk start => start) (fun _ done => done.undoing) ?_
  rintro disk next ⟨applying, same⟩ made
  have later := applying.snoc named (by simp [Operation.writesTo])
  obtain ⟨sameWal, _, ⟨_, unchanged⟩ | ⟨missing, changed⟩⟩ := Disk.createDirAll_ok made
  · exact ⟨unchanged ▸ later, sameWal.trans same⟩
  · refine ⟨?_, sameWal.trans same⟩
    rw [changed]
    exact later.makeFolder (List.append_cons ..) compatible
      original missing (.inr (.inr ⟨.createCollection name, by simp, by simp [Operation.creates]⟩))

theorem applyOperation_spec {operation : Operation} (plain : PlainContents initial)
    (compatible : Compatible initial (earlier ++ operation :: rest))
    (recordable : Recordable initial operation) :
    Triple (fun _ _ => True)
      (fun disk => Applied initial wal (earlier ++ operation :: rest) earlier disk ∧
        Undoable initial (earlier ++ operation :: rest) earlier disk.contents operation)
      (applyOperation operation)
      (fun _ => Applied initial wal (earlier ++ operation :: rest) (earlier ++ [operation]))
      (Undoing initial wal (earlier ++ operation :: rest))
      (Undoing initial wal (earlier ++ operation :: rest)) := by
  have named := compatible.names operation (by simp)
  have names := named.1
  have later : (∀ name key, operation.writesTo name key = false) → ∀ disk,
      Applied initial wal (earlier ++ operation :: rest) earlier disk →
      Applied initial wal (earlier ++ operation :: rest) (earlier ++ [operation]) disk :=
    fun silent disk applied => ⟨applied.1.snoc named (by simp [silent]), applied.2⟩
  cases operation with
  | write collection key staged => exact applyWrite_spec compatible
  | delete collection key =>
    have original := names collection.asStr (by simp [Operation.collectionNames])
    exact Triple.consequence (backupFile_spec compatible original) (fun _ _ _ => trivial)
      (fun disk start => start) (fun _ disk done => later (fun _ _ => rfl) disk done.1)
        (fun _ undoing => undoing) (fun _ undoing => undoing)
  | deleteAll collection =>
    have original := names collection.asStr (by simp [Operation.collectionNames])
    refine Triple.lookThen fun exists_ => Triple.whenever (fun _ => ?_)
      (fun _ disk start => later (fun _ _ => rfl) disk start.1.1)
    exact Triple.consequence (backupAllFilesInDir_spec compatible original)
      (fun _ _ _ => trivial) (fun disk start => start.1)
        (fun _ disk done => later (fun _ _ => rfl) disk done)
      (fun _ undoing => undoing) (fun _ undoing => undoing)
  | createCollection name =>
    exact Triple.consequence (applyCreate_spec compatible) (fun _ _ _ => trivial)
      (fun disk start => start.1) (fun _ _ done => done) (fun _ undoing => undoing)
      (fun _ undoing => undoing)
  | deleteCollection name =>
    have original := names name.asStr (by simp [Operation.collectionNames])
    exact Triple.consequence (backupDir_spec plain original) (fun _ _ _ => trivial)
      (fun disk start => start) (fun _ disk done => later (fun _ _ => rfl) disk done.1)
      (fun _ undoing => undoing) (fun _ undoing => undoing)
  | copyCollection source dest destExisted =>
    exact Triple.consequence (applyCopy_spec plain compatible (by simp) recordable.2.2.2)
      (fun _ _ _ => trivial) (fun disk start => start) (fun _ disk done => later (fun _ _ => rfl) disk done)
      (fun _ undoing => undoing) (fun _ undoing => undoing)

/-- Every state an undoable run passes or ends in can be recovered to the
state before it. -/
theorem applyOperations_meets (plain : PlainContents initial)
    (compatible : Compatible initial operations)
    (recordable : ∀ operation ∈ operations, Recordable initial operation)
    {env : Env Site FileName} {clock : Nat} {disk : Disk}
    (splits : operations = earlier ++ rest) (applied : Applied initial wal operations earlier disk)
    (undoable : RunUndoable initial operations env earlier rest clock disk) :
    (applyOperations rest env .applyOperations clock disk).Meets
      (fun _ => Reversing initial wal operations operations) (Undoing initial wal operations)
      (Undoing initial wal operations) := by
  induction rest generalizing earlier clock disk with
  | nil =>
    rw [List.append_nil] at splits
    subst splits
    exact ⟨by simp [applyOperations, Program.forEach, pure], applied.undoing, applied.1.guarded⟩
  | cons operation rest ih =>
    obtain ⟨here, later⟩ := undoable
    subst splits
    apply Outcome.Meets.bind
    · exact applyOperation_spec plain compatible (recordable operation (by simp)) env
        .applyOperations clock disk trivial ⟨applied, here⟩
    · intro _ succeeded reached
      exact ih (List.append_cons ..) reached (later succeeded)

end Steps

end DiagnosticAdapter.Storage
