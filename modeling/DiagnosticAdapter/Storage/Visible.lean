import DiagnosticAdapter.Storage.Recording

/-!
# The reading calls

The reading calls of `LocalStorage` and `LocalCollection`.  The guard of
`data_lock` they hold keeps commits out.
-/

namespace DiagnosticAdapter.Storage

open Effects

def getCollection (sanitizePaths : Bool) (name : CollectionName) : FileM Unit := do
  Program.ofExcept (sanitizePathSegment sanitizePaths name.asStr)
  if ← dirExists name.asStr then pure ()
  else Program.fail (.collectionNotFound (String.ofList name.asStr))

def listKeysInDir (name : FileName) : FileM (List FileName) := do
  if ← dirExists name then
    let entries ← readFolder name
    pure ((entries.filter isValidKey).map normalizeKey)
  else pure []

def read (sanitizePaths : Bool) (name key : FileName) : FileM Bytes := do
  Program.ofExcept (sanitizePathSegment sanitizePaths (normalizeKey key))
  ensureNormalizedOnDisk name (normalizeKey key)
  match ← Program.look fun disk => disk.contents.file name (normalizeKey key) with
  | none => Program.fail (.keyNotFound (String.ofList (normalizeKey key)))
  | some bytes => do
    -- `File::open` and `metadata`
    openAndSync
    pure bytes

section Calm

variable {disk : Disk}

theorem openAndSync_calm {kept failed : Disk → Prop} :
    Triple Env.Faultless kept openAndSync (fun _ => kept) failed (fun _ => True) := by
  have step : Triple Env.Faultless kept sync (fun _ => kept) failed (fun _ => True) := by
    unfold sync call
    refine Triple.calmStep (fun _ _ => trivial) ?_ (by simp)
    intro state next start changed
    cases changed
    exact ⟨trivial, start⟩
  exact Triple.bind step fun _ => step

theorem listKeysInDir_lists (name : FileName) :
    Triple Env.Faultless (fun state => state = disk) (listKeysInDir name)
      (fun keys _ => ∃ names : List FileName, Lists names (disk.contents.file name) ∧
          keys = (names.filter isValidKey).map normalizeKey)
      (fun _ => False) (fun _ => True) := by
  apply Triple.lookThen
  intro exists_
  cases exists_ with
  | false =>
    refine Triple.pure ?_
    rintro state ⟨rfl, missing⟩
    have none : state.contents name = none := by simpa using missing
    exact ⟨[], ⟨List.nodup_nil, by simp [Contents.file, none]⟩, rfl⟩
  | true =>
    have listed : Triple Env.Faultless
        (fun state => state = disk ∧ (state.contents name).isSome = true) (readFolder name)
        (fun entries _ => Lists entries (disk.contents.file name))
        (fun _ => False) (fun _ => True) := by
      refine Triple.calmList (fun _ _ => trivial) ?_ ?_
      · rintro state found entries ⟨rfl, _⟩ listing permuted
        obtain ⟨content, stored, lists⟩ := Disk.folderKeys_ok listing
        refine ⟨permuted.nodup_iff.mpr lists.1, fun key => ?_⟩
        rw [permuted.mem_iff, lists.2 key]
        simp [Contents.file, stored]
      · rintro state error ⟨rfl, there⟩ refused
        simp [Disk.folderKeys_error refused] at there
    exact Triple.bind listed fun entries => Triple.pure fun _ lists => ⟨entries, lists, rfl⟩

end Calm

end DiagnosticAdapter.Storage
