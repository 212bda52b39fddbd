import DiagnosticAdapter.Storage.Recoverable

/-!
# Undoing a commit reaches the target

`removeNewArtifacts` followed by `rollbackPartialCommit` leads from every
recoverable state to the target, and every state on the way is recoverable
again.  No step of it is assumed to fail from outside.
-/

namespace DiagnosticAdapter.Storage

open Effects Function

section DropLast

variable {operations : List Operation} {last : Operation} {name : FileName}

theorem KeptFolder.dropLast {original present : Content}
    (kept : KeptFolder (operations ++ [last]) name original present)
    (gone : ∀ key, last.writesTo name key = true → original key = none → present key = none) :
    KeptFolder operations name original present := by
  refine ⟨kept.originalPlain, kept.names, kept.old, ?_⟩
  intro key plain fresh
  obtain ⟨unsaved, writer⟩ := kept.new key plain fresh
  refine ⟨unsaved, fun found => ?_⟩
  obtain ⟨operation, mem, writes⟩ := writer found
  rcases List.mem_append.mp mem with early | final
  · exact ⟨operation, early, writes⟩
  · rw [List.mem_singleton.mp final] at writes
    exact absurd (gone key writes fresh) found

variable {present : Content}

theorem CreatedFolder.dropLast (created : CreatedFolder (operations ++ [last]) name present)
    (gone : ∀ key, last.writesTo name key = true → present key = none)
    (inhabited : last.creates name = true → ∃ key, present key ≠ none) :
    CreatedFolder operations name present := by
  obtain ⟨before, operation, after, split, creates, written⟩ := created
  rcases append_singleton_eq_split split with ⟨rfl, -, rfl⟩ | ⟨rest, rfl, rfl⟩
  · obtain ⟨key, found⟩ := inhabited creates
    obtain ⟨_, writer, mem, _⟩ := written key found
    simp at mem
  · refine ⟨before, operation, rest, rfl, creates, ?_⟩
    intro key found
    obtain ⟨plain, writer, mem, writes⟩ := written key found
    rcases List.mem_append.mp mem with early | final
    · exact ⟨plain, writer, early, writes⟩
    · rw [List.mem_singleton.mp final] at writes
      exact absurd (gone key writes) found

theorem RecoverableAt.dropLast {target present backup : Option Content}
    (here : RecoverableAt (operations ++ [last]) name target present backup)
    (gone : ∀ content, present = some content →
      ∀ key, last.writesTo name key = true → content key = none)
    (inhabited : ∀ content, present = some content → last.creates name = true →
      ∃ key, content key ≠ none)
    (uncopied : present ≠ none → last.copiesToNew name = false) :
    RecoverableAt operations name target present backup := by
  cases here with
  | displaced plain => exact .displaced plain
  | kept folder =>
    exact .kept (folder.dropLast fun key writes _ => gone _ rfl key writes)
  | absent => exact .absent
  | copied copies =>
    obtain ⟨operation, mem, copies⟩ := copies
    rcases List.mem_append.mp mem with early | final
    · exact .copied ⟨operation, early, copies⟩
    · rw [List.mem_singleton.mp final, uncopied (by simp)] at copies
      cases copies
  | created folder => exact .created (folder.dropLast (gone _ rfl) (inhabited _ rfl))

theorem RecoverableAt.removeWritten {target backup : Option Content} {key : FileName}
    (here : RecoverableAt operations name target (some present) backup) (plain : Original key)
    (fresh : backup = none → ∀ original, target = some original → original key = none) :
    RecoverableAt operations name target (some (update present key none)) backup := by
  cases here with
  | displaced plain => exact .displaced plain
  | copied copies => exact .copied copies
  | created folder =>
    obtain ⟨before, operation, after, split, creates, written⟩ := folder
    refine .created ⟨before, operation, after, split, creates, fun other found => ?_⟩
    apply written other
    intro missing
    by_cases same : other = key <;> simp [same, missing] at found
  | @kept original _ folder =>
    have freshKey := fresh rfl original rfl
    refine .kept ⟨folder.originalPlain, ?_, ?_, ?_⟩
    · intro other found
      apply folder.names other
      intro missing
      by_cases same : other = key <;> simp [same, missing] at found
    · intro other bytes stored
      have apart : other ≠ key := by
        rintro rfl
        simp [freshKey] at stored
      have plainOther := folder.originalPlain other (by simp [stored])
      have backupApart : backupName other ≠ key :=
        (plain.backupName_ne plainOther.1).symm
      rw [update_of_ne apart, update_of_ne backupApart]
      exact folder.old other bytes stored
    · intro other plainOther missing
      have backupApart : backupName other ≠ key :=
        (plain.backupName_ne plainOther).symm
      obtain ⟨unsaved, writer⟩ := folder.new other plainOther missing
      rw [update_of_ne backupApart]
      refine ⟨unsaved, fun found => writer ?_⟩
      by_cases same : other = key
      · simp [same] at found
      · rwa [update_of_ne same] at found

theorem RecoverableAt.dropSavedWrite {target backup : Option Content} {key : FileName}
    (here : RecoverableAt (operations ++ [last]) name target (some present) backup)
    (plain : Original key) (writes : ∀ other, last.writesTo name other = true → other = key)
    (uncopied : last.copiesToNew name = false) (saved : present (backupName key) ≠ none) :
    RecoverableAt operations name target (some present) backup := by
  cases here with
  | displaced plain => exact .displaced plain
  | copied copies =>
    obtain ⟨operation, mem, copies⟩ := copies
    rcases List.mem_append.mp mem with early | final
    · exact .copied ⟨operation, early, copies⟩
    · rw [List.mem_singleton.mp final, uncopied] at copies
      cases copies
  | created folder =>
    obtain ⟨_, _, _, _, _, written⟩ := folder
    exact absurd rfl ((written _ saved).1.backupName_ne plain)
  | kept folder =>
    apply RecoverableAt.kept
    apply folder.dropLast
    intro other writesOther fresh
    rw [writes other writesOther] at fresh
    exact absurd (folder.new key plain fresh).1 saved

theorem Recoverable.dropLast {target contents : Contents}
    (recoverable : Recoverable target (operations ++ [last]) contents)
    (gone : ∀ name content, Original name → contents name = some content →
      ∀ key, last.writesTo name key = true → content key = none)
    (inhabited : ∀ name content, Original name → contents name = some content →
      last.creates name = true → ∃ key, content key ≠ none)
    (uncopied : ∀ name, Original name → contents name ≠ none → last.copiesToNew name = false) :
    Recoverable target operations contents :=
  ⟨recoverable.names, fun name plain => (recoverable.each name plain).dropLast
    (gone name · plain) (inhabited name · plain) (uncopied name plain)⟩

end DropLast

section RemoveDirAll

variable {contents : Contents} {name : FileName} {wal : Option Bytes}
  {admitted : Env Site FileName → Site → Prop} {failed : Disk → Prop}

/-- Compared with `contents`, only the named collection may differ. -/
def OnlyChanged (contents : Contents) (wal : Option Bytes) (name : FileName) (disk : Disk) : Prop :=
  disk.wal = wal ∧ ∃ present, disk.contents = update contents name present

/-- The loop of `remove_dir_all`: the listed files are those still there. -/
def Shrinking (contents : Contents) (wal : Option Bytes) (name : FileName)
    (rest : List FileName) (disk : Disk) : Prop :=
  disk.wal = wal ∧ ∃ present, disk.contents = update contents name (some present) ∧
    Lists rest present

theorem Shrinking.onlyChanged {rest : List FileName} {disk : Disk}
    (shrinking : Shrinking contents wal name rest disk) : OnlyChanged contents wal name disk := by
  obtain ⟨same, present, stored, _⟩ := shrinking
  exact ⟨same, some present, stored⟩

section

variable (tolerates : Tolerates admitted (OnlyChanged contents wal name) failed)

include tolerates

theorem readFolder_shrinking : Triple admitted
      (fun disk => disk.contents = contents ∧ disk.wal = wal ∧ contents name ≠ none)
      (readFolder name) (Shrinking contents wal name) failed
      (OnlyChanged contents wal name) := by
  refine Triple.safeList tolerates ?_ ?_ ?_
  · rintro disk ⟨rfl, rfl, _⟩
    exact ⟨rfl, disk.contents name, by rw [update_eq_self]⟩
  · rintro disk names listed ⟨rfl, rfl, _⟩ listing permuted
    obtain ⟨present, stored, nodup, exactly⟩ := Disk.folderKeys_ok listing
    refine ⟨rfl, present, ?_, permuted.nodup_iff.mpr nodup, ?_⟩
    · rw [← stored, update_eq_self]
    · exact fun key => permuted.mem_iff.trans (exactly key)
  · rintro disk error ⟨rfl, rfl, found⟩ refused
    exact found (Disk.folderKeys_error refused)

theorem removeFile_shrinking (key : FileName) (rest : List FileName) :
    Triple admitted (Shrinking contents wal name (key :: rest)) (removeFile name key)
      (fun _ => Shrinking contents wal name rest) failed
      (OnlyChanged contents wal name) := by
  refine Triple.safeStep tolerates (fun _ shrinking => shrinking.onlyChanged) ?_ ?_
  · rintro disk next ⟨same, present, stored, nodup, exactly⟩ removed
    obtain ⟨sameWal, _, content, found, _, changed⟩ := Disk.removeFile_ok removed
    rw [stored, update_self] at found
    cases found
    rw [stored, update_idem] at changed
    obtain ⟨fresh, restNodup⟩ := List.nodup_cons.mp nodup
    refine ⟨⟨sameWal.trans same, _, changed⟩, sameWal.trans same, _, changed, restNodup, ?_⟩
    intro other
    by_cases here : other = key
    · subst here
      simp [fresh]
    · rw [update_of_ne here, ← exactly other]
      simp [here]
  · rintro disk error ⟨_, present, stored, _, exactly⟩ refused
    have missing := Disk.removeFile_error refused
    simp only [Contents.file, stored, update_self, Option.bind_some] at missing
    exact (exactly key).mp (by simp) missing

theorem removeDir_shrinking : Triple admitted (Shrinking contents wal name []) (removeDir name)
      (fun _ disk => disk.contents = update contents name none ∧ disk.wal = wal)
      failed (OnlyChanged contents wal name) := by
  refine Triple.safeStep tolerates (fun _ shrinking => shrinking.onlyChanged) ?_ ?_
  · rintro disk next ⟨same, present, stored, _⟩ removed
    obtain ⟨sameWal, _, _, _, _, changed⟩ := Disk.removeDir_ok removed
    rw [stored, update_idem] at changed
    exact ⟨⟨sameWal.trans same, none, changed⟩, changed, sameWal.trans same⟩
  · rintro disk error ⟨_, present, stored, _, exactly⟩ refused
    rcases Disk.removeDir_error refused with missing | ⟨content, key, found, inhabited⟩
    · simp [stored] at missing
    · rw [stored, update_self] at found
      cases found
      simpa using (exactly key).mpr inhabited

end

theorem removeDirAll_spec (contents : Contents) (wal : Option Bytes) (name : FileName)
    (tolerates : Tolerates admitted (OnlyChanged contents wal name) failed) :
    Triple admitted (fun disk => disk.contents = contents ∧ disk.wal = wal ∧ contents name ≠ none)
      (removeDirAll name)
      (fun _ disk => disk.contents = update contents name none ∧ disk.wal = wal)
      failed (OnlyChanged contents wal name) :=
  Triple.bind (readFolder_shrinking tolerates) fun keys =>
    Triple.bind (Triple.forEach (removeFile_shrinking tolerates) keys) fun _ =>
      removeDir_shrinking tolerates

end RemoveDirAll

section RemoveNewArtifacts

variable {target : Contents} {all operations : List Operation} {wal : Option Bytes}

/-- The state can be recovered and the log is untouched. -/
def Undoing (target : Contents) (wal : Option Bytes) (operations : List Operation)
    (disk : Disk) : Prop :=
  Recoverable target operations disk.contents ∧ disk.wal = wal

/-- In the middle of the removal: the first `operations` of `all` are still to
be undone. -/
def Reversing (target : Contents) (wal : Option Bytes) (all operations : List Operation)
    (disk : Disk) : Prop :=
  Undoing target wal operations disk ∧ Guarded target all disk.contents

theorem writesTo_original {name key : FileName} {operation : Operation}
    (names : operation.OriginalNames) (writes : operation.writesTo name key = true) :
    Original name ∧ Original key := by
  cases operation with
  | write collection written staged =>
    simp only [Operation.writesTo, Bool.and_eq_true, beq_iff_eq] at writes
    obtain ⟨rfl, rfl⟩ := writes
    exact ⟨names.1 _ (by simp [Operation.collectionNames]),
      names.2 _ (by simp [Operation.keyNames])⟩
  | _ => simp [Operation.writesTo] at writes

theorem Guarded.updateLive {contents : Contents} (guarded : Guarded target all contents)
    (names : ∀ operation ∈ all, operation.OriginalNames) {name : FileName}
    (original : Original name) (present : Option Content)
    (keeps : target name = none ∨ contents (backupName name) ≠ none ∨ ∀ key, Original key →
      contents.file name (backupName key) ≠ none →
      present.bind (fun content => content (backupName key)) ≠ none) :
    Guarded target all (update contents name present) := by
  intro operation mem written key writes
  obtain ⟨writtenOriginal, keyOriginal⟩ := writesTo_original (names operation mem) writes
  rcases guarded operation mem written key writes with fresh | displaced | saved
  · exact .inl fresh
  · refine .inr (.inl ?_)
    rw [update_of_ne (original.backupName_ne writtenOriginal).symm]
    exact displaced
  · by_cases same : written = name
    · subst same
      rcases keeps with missing | displaced | keeps
      · exact .inl (by simp [Contents.file, missing])
      · refine .inr (.inl ?_)
        rw [update_of_ne (backupName_ne_self written)]
        exact displaced
      · refine .inr (.inr ?_)
        rw [Contents.file, update_self]
        exact keeps key keyOriginal saved
    · refine .inr (.inr ?_)
      rw [Contents.file, update_of_ne same]
      exact saved

section

variable (compatible : Compatible target all)

include compatible

theorem removeWrite_spec {collection : CollectionName} {key staged : FileName}
    (mem : .write collection key staged ∈ all) :
    Triple Env.Faultless (Reversing target wal all (operations ++ [.write collection key staged]))
      (removeNewArtifact (.write collection key staged))
      (fun _ => Reversing target wal all operations) (fun _ => False)
      (Reversing target wal all (operations ++ [.write collection key staged])) := by
  obtain ⟨plainNames, plainKeys⟩ := compatible.names _ mem
  have plainName : Original collection.asStr := plainNames _ (by simp [Operation.collectionNames])
  have plainKey : Original key := plainKeys _ (by simp [Operation.keyNames])
  have drop : ∀ contents : Contents,
      Recoverable target (operations ++ [.write collection key staged]) contents →
      contents.file collection.asStr key = none → Recoverable target operations contents := by
    intro contents recoverable missing
    refine recoverable.dropLast ?_ (by simp [Operation.creates]) (by simp [Operation.copiesToNew])
    intro name content _ stored other writes
    simp only [Operation.writesTo, Bool.and_eq_true, beq_iff_eq] at writes
    obtain ⟨rfl, rfl⟩ := writes
    simpa [Contents.file, stored] using missing
  refine Triple.lookThen fun targetExists => Triple.lookThen fun backupExists => ?_
  refine Triple.whenever (fun removing => ?_) (fun keeping => ?_)
  · simp only [Bool.and_eq_true, Bool.not_eq_true'] at removing
    obtain ⟨present, unsaved⟩ := removing
    refine Triple.calmStep (fun _ start => start.1.1) ?_ ?_
    · rintro disk next ⟨⟨⟨⟨recoverable, same⟩, guarded⟩, _⟩, saved⟩ removed
      obtain ⟨sameWal, _, content, found, _, changed⟩ := Disk.removeFile_ok removed
      have here := recoverable.each collection.asStr plainName
      rw [found] at here
      have fresh : disk.contents (backupName collection.asStr) = none →
          ∀ original, target collection.asStr = some original → original key = none := by
        intro kept original stored
        rcases guarded _ mem collection.asStr key (by simp [Operation.writesTo]) with
          new | displaced | backup
        · simpa [Contents.file, stored] using new
        · exact absurd kept displaced
        · rw [unsaved] at saved
          rw [Option.isSome_iff_ne_none.mpr backup] at saved
          cases saved
      have after := recoverable.updateLive plainName (here.removeWritten plainKey fresh)
      have guardedAfter := guarded.updateLive compatible.names plainName
        (some (update content key none)) <| .inr <| .inr fun other otherOriginal there => by
          have apart : backupName other ≠ key := (plainKey.backupName_ne otherOriginal).symm
          simpa [Contents.file, found, apart] using there
      rw [← changed] at after guardedAfter
      refine ⟨⟨⟨after, sameWal.trans same⟩, guardedAfter⟩,
        ⟨drop _ after ?_, sameWal.trans same⟩, guardedAfter⟩
      simp [Contents.file, changed]
    · rintro disk error ⟨⟨_, exists_⟩, _⟩ refused
      rw [present, Disk.removeFile_error refused] at exists_
      simp at exists_
  · rintro disk ⟨⟨⟨⟨recoverable, same⟩, guarded⟩, exists_⟩, saved⟩
    refine ⟨⟨?_, same⟩, guarded⟩
    by_cases missing : disk.contents.file collection.asStr key = none
    · exact drop _ recoverable missing
    · -- The file stays because its backup exists.
      have backup : disk.contents.file collection.asStr (backupName key) ≠ none := by
        intro unsaved
        rw [unsaved] at saved
        rw [Option.isSome_iff_ne_none.mpr missing] at exists_
        simp [← saved, ← exists_] at keeping
      refine ⟨recoverable.names, fun name plain => ?_⟩
      by_cases here : name = collection.asStr
      · subst here
        obtain ⟨present, stored⟩ : ∃ present, disk.contents collection.asStr = some present := by
          apply Option.ne_none_iff_exists'.mp
          intro none
          simp [Contents.file, none] at missing
        have atName := recoverable.each _ plain
        rw [stored] at atName ⊢
        refine atName.dropSavedWrite plainKey ?_ rfl ?_
        · intro other writes
          simp only [Operation.writesTo, Bool.and_eq_true, beq_iff_eq] at writes
          exact writes.2.symm
        · simpa [Contents.file, stored] using backup
      · refine (recoverable.each name plain).dropLast ?_ (by simp [Operation.creates])
          (by simp [Operation.copiesToNew])
        intro content _ other writes
        simp [Operation.writesTo, Ne.symm here] at writes

theorem removeCreated_spec {created : CollectionName} (mem : .createCollection created ∈ all) :
    Triple Env.Faultless (Reversing target wal all (operations ++ [.createCollection created]))
      (removeNewArtifact (.createCollection created))
      (fun _ => Reversing target wal all operations) (fun _ => False)
      (Reversing target wal all (operations ++ [.createCollection created])) := by
  have plainName : Original created.asStr :=
    (compatible.names _ mem).1 _ (by simp [Operation.collectionNames])
  have freshName : target created.asStr = none :=
    compatible.created _ mem _ (by simp [Operation.creates])
  have drop : ∀ contents : Contents,
      Recoverable target (operations ++ [.createCollection created]) contents →
      (∀ content, contents created.asStr = some content → ∃ key, content key ≠ none) →
      Recoverable target operations contents := by
    intro contents recoverable inhabited
    refine recoverable.dropLast (by simp [Operation.writesTo]) ?_ (by simp [Operation.copiesToNew])
    intro name content _ stored creates
    simp only [Operation.creates, beq_iff_eq] at creates
    subst creates
    exact inhabited content stored
  refine Triple.lookThen fun targetExists => Triple.whenever (fun present => ?_) (fun missing => ?_)
  · have listing : Triple Env.Faultless
        (fun disk => Reversing target wal all (operations ++ [.createCollection created]) disk ∧
          (disk.contents created.asStr).isSome = targetExists)
        (isDirEmpty created.asStr)
        (fun empty disk =>
          Reversing target wal all (operations ++ [.createCollection created]) disk ∧
          (empty = true ↔ ∀ content, disk.contents created.asStr = some content →
            ∀ key, content key = none) ∧ disk.contents created.asStr ≠ none)
        (fun _ => False)
        (Reversing target wal all (operations ++ [.createCollection created])) := by
      refine Triple.bind (Triple.calmList (fun _ start => start.1) ?_ ?_) fun keys =>
        Triple.pure fun _ start => start
      · rintro disk names listed ⟨undoing, _⟩ listing permuted
        obtain ⟨content, stored, _, exactly⟩ := Disk.folderKeys_ok listing
        refine ⟨undoing, ?_, by simp [stored]⟩
        rw [List.isEmpty_iff, List.eq_nil_iff_forall_not_mem, stored]
        simp only [permuted.mem_iff, exactly, not_not, Option.some.injEq, forall_eq']
      · rintro disk error ⟨_, exists_⟩ refused
        simp [Disk.folderKeys_error refused, ← exists_] at present
    refine Triple.bind listing fun empty => Triple.whenever (fun removing => ?_) (fun keeping => ?_)
    · refine Triple.calmStep (fun _ start => start.1) ?_ ?_
      · rintro disk next ⟨⟨⟨recoverable, same⟩, guarded⟩, _, found⟩ removed
        obtain ⟨sameWal, _, content, stored, _, changed⟩ := Disk.removeDir_ok removed
        have here := recoverable.each created.asStr plainName
        rw [freshName, stored] at here
        have unsaved := here.backup_eq_none
        have after : Recoverable target (operations ++ [.createCollection created])
            next.contents := by
          rw [changed]
          refine recoverable.updateLive plainName ?_
          rw [freshName, unsaved]
          exact .absent
        have guardedAfter : Guarded target all next.contents := by
          rw [changed]
          exact guarded.updateLive compatible.names plainName _ (.inl freshName)
        refine ⟨⟨⟨after, sameWal.trans same⟩, guardedAfter⟩,
          ⟨drop _ after ?_, sameWal.trans same⟩, guardedAfter⟩
        simp [changed]
      · rintro disk error ⟨_, isEmpty, found⟩ refused
        rcases Disk.removeDir_error refused with missing | ⟨content, key, stored, inhabited⟩
        · exact found missing
        · exact inhabited (isEmpty.mp removing content stored key)
    · rintro disk ⟨⟨⟨recoverable, same⟩, guarded⟩, isEmpty, _⟩
      refine ⟨⟨drop _ recoverable ?_, same⟩, guarded⟩
      intro content stored
      by_contra none
      push Not at none
      rw [isEmpty.mpr] at keeping
      · cases keeping
      · intro other sameStored
        rw [stored] at sameStored
        cases sameStored
        exact none
  · rintro disk ⟨⟨⟨recoverable, same⟩, guarded⟩, exists_⟩
    refine ⟨⟨drop _ recoverable ?_, same⟩, guarded⟩
    intro content stored
    simp [stored, missing] at exists_

theorem removeCopied_spec {source dest : CollectionName} {destExisted : Bool}
    (mem : .copyCollection source dest destExisted ∈ all) :
    Triple Env.Faultless
      (Reversing target wal all (operations ++ [.copyCollection source dest destExisted]))
      (removeNewArtifact (.copyCollection source dest destExisted))
      (fun _ => Reversing target wal all operations) (fun _ => False)
      (Reversing target wal all (operations ++ [.copyCollection source dest destExisted])) := by
  have plainName : Original dest.asStr :=
    (compatible.names _ mem).1 _ (by simp [Operation.collectionNames])
  have fresh := compatible.copied _ mem
  have drop : ∀ contents : Contents,
      Recoverable target (operations ++ [.copyCollection source dest destExisted]) contents →
      (destExisted = false → contents dest.asStr = none) →
      Recoverable target operations contents := by
    intro contents recoverable missing
    refine recoverable.dropLast (by simp [Operation.writesTo]) (by simp [Operation.creates]) ?_
    intro name _ found
    by_contra copies
    simp only [Operation.copiesToNew, Bool.not_eq_false, Bool.and_eq_true, beq_iff_eq,
      Bool.not_eq_true'] at copies
    obtain ⟨rfl, new⟩ := copies
    exact found (missing new)
  refine Triple.lookThen fun targetExists => Triple.lookThen fun backupExists => ?_
  refine Triple.whenever (fun removing => ?_) (fun keeping => ?_)
  · simp only [Bool.and_eq_true, Bool.not_eq_true'] at removing
    obtain ⟨⟨new, present⟩, unsaved⟩ := removing
    have freshName : target dest.asStr = none := fresh _ (by simp [Operation.copiesToNew, new])
    refine Triple.given Disk.contents fun contents => ?_
    refine Triple.assume (Recoverable target
      (operations ++ [.copyCollection source dest destExisted]) contents ∧
      Guarded target all contents ∧
      contents dest.asStr ≠ none ∧ contents (backupName dest.asStr) = none) ?_ fun facts => ?_
    · rintro disk ⟨⟨⟨⟨⟨recoverable, _⟩, guarded⟩, exists_⟩, saved⟩, rfl⟩
      refine ⟨recoverable, guarded, ?_, ?_⟩
      · rw [present] at exists_
        exact Option.isSome_iff_ne_none.mp exists_
      · rw [unsaved] at saved
        simpa using saved
    · obtain ⟨recoverable, guarded, found, noBackup⟩ := facts
      have guarding : ∀ content,
          Guarded target all (update contents dest.asStr content) :=
        fun content => guarded.updateLive compatible.names plainName _ (.inl freshName)
      have copying : ∀ content, Recoverable target
          (operations ++ [.copyCollection source dest destExisted])
          (update contents dest.asStr content) := by
        intro content
        refine recoverable.updateLive plainName ?_
        rw [freshName, noBackup]
        cases content with
        | none => exact .absent
        | some _ =>
          exact .copied ⟨.copyCollection source dest destExisted, by simp,
            by simp [Operation.copiesToNew, new]⟩
      refine Triple.consequence (removeDirAll_spec contents wal dest.asStr .faultless)
        (fun _ _ calm => calm) ?_ ?_ (fun _ no => no) ?_
      · rintro disk ⟨⟨⟨⟨⟨_, same⟩, _⟩, _⟩, _⟩, stored⟩
        exact ⟨stored, same, found⟩
      · rintro _ disk ⟨changed, same⟩
        refine ⟨⟨drop _ ?_ ?_, same⟩, changed ▸ guarding none⟩
        · rw [changed]
          exact copying none
        · simp [changed]
      · rintro disk ⟨same, content, changed⟩
        refine ⟨⟨?_, same⟩, changed ▸ guarding content⟩
        rw [changed]
        exact copying content
  · rintro disk ⟨⟨⟨⟨recoverable, same⟩, guarded⟩, exists_⟩, saved⟩
    refine ⟨⟨drop _ recoverable ?_, same⟩, guarded⟩
    intro new
    -- A backup of the destination would contradict that it did not exist.
    have here := recoverable.each dest.asStr plainName
    rw [fresh _ (by simp [Operation.copiesToNew, new])] at here
    by_contra found
    have noBackup := here.backup_eq_none
    simp [new, ← exists_, ← saved, noBackup, Option.isSome_iff_ne_none.mpr found] at keeping

end

theorem removeNewArtifact_spec (wal : Option Bytes) (operations : List Operation) {last : Operation}
    (compatible : Compatible target all) (mem : last ∈ all) :
    Triple Env.Faultless (Reversing target wal all (operations ++ [last]))
      (removeNewArtifact last) (fun _ => Reversing target wal all operations) (fun _ => False)
      (Reversing target wal all (operations ++ [last])) := by
  have unrelated : (∀ name key, last.writesTo name key = false) →
      (∀ name, last.creates name = false) → (∀ name, last.copiesToNew name = false) →
      ∀ disk, Reversing target wal all (operations ++ [last]) disk →
        Reversing target wal all operations disk := by
    rintro writes creates copies disk ⟨⟨recoverable, same⟩, guarded⟩
    exact ⟨⟨recoverable.dropLast (by simp [writes]) (by simp [creates]) (by simp [copies]), same⟩,
      guarded⟩
  cases last with
  | write collection key staged => exact removeWrite_spec compatible mem
  | createCollection created => exact removeCreated_spec compatible mem
  | copyCollection source dest destExisted => exact removeCopied_spec compatible mem
  | delete collection key | deleteAll collection | deleteCollection name =>
    exact Triple.pure (unrelated (fun _ _ => rfl) (fun _ => rfl) fun _ => rfl)

theorem removeNewArtifacts_spec (compatible : Compatible target all) :
    Triple Env.Faultless (Reversing target wal all all) (removeNewArtifacts all)
      (fun _ => Undoing target wal []) (fun _ => False) (Reversing target wal all all) := by
  -- The loop runs over the reversed list; what is left of it is a prefix.
  let kept (rest : List Operation) (disk : Disk) : Prop :=
    Reversing target wal all rest.reverse disk ∧ ∃ more, all = rest.reverse ++ more
  have turn : ∀ operation rest, Triple Env.Faultless (kept (operation :: rest))
      (removeNewArtifact operation) (fun _ => kept rest) (fun _ => False)
      (Reversing target wal all all) := by
    intro operation rest
    refine Triple.assume (∃ more, all = (operation :: rest).reverse ++ more)
      (fun _ start => start.2) ?_
    rintro ⟨more, split⟩
    rw [List.reverse_cons] at split
    refine Triple.consequence (removeNewArtifact_spec wal rest.reverse compatible (by simp [split]))
      (fun _ _ calm => calm) ?_ ?_ (fun _ no => no) ?_
    · rintro disk ⟨reversing, _⟩
      simpa using reversing
    · rintro _ disk reversing
      exact ⟨reversing, operation :: more, by simp [split]⟩
    · rintro disk ⟨⟨recoverable, same⟩, guarded⟩
      refine ⟨⟨?_, same⟩, guarded⟩
      rw [split]
      exact recoverable.mono more
  refine Triple.consequence (Triple.forEach turn all.reverse) (fun _ _ calm => calm)
    ?_ ?_ (fun _ no => no) (fun _ reversing => reversing)
  · exact fun disk reversing => ⟨by simpa using reversing, [], by simp⟩
  · exact fun _ disk done => by simpa using done.1.1

end RemoveNewArtifacts

end DiagnosticAdapter.Storage
