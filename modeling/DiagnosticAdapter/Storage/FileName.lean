import Mathlib.Data.List.Basic

/-!
# File names

Collection names and keys are used as single path segments, so a file name is
a sequence of characters without separators.  `extension` and `fileStem`
follow `std::path::Path` on such a segment: a leading dot does not start an
extension, and only the part after the last dot counts.
-/

namespace DiagnosticAdapter.Storage

abbrev FileName := List Char

def splitAtLastDot : FileName → Option (FileName × FileName)
  | [] => none
  | letter :: rest =>
    match splitAtLastDot rest with
    | some (before, after) => some (letter :: before, after)
    | none => if letter = '.' then some ([], rest) else none

/-- `Path::extension` of a single segment. -/
def extension (name : FileName) : Option FileName :=
  if name = ['.', '.'] then none
  else
    match splitAtLastDot name with
    | some (before, after) => if before = [] then none else some after
    | none => none

/-- `Path::with_extension("")` of a single segment. -/
def fileStem (name : FileName) : FileName :=
  if name = ['.', '.'] then name
  else
    match splitAtLastDot name with
    | some (before, _) => if before = [] then name else before
    | none => name

def backupExtension : FileName := ['b', 'a', 'k']

def stagingExtension : FileName := ['t', 'm', 'p']

/-- `append_extension` and `append_bak_extension` -/
def appendExtension (name ext : FileName) : FileName := name ++ '.' :: ext

def backupName (name : FileName) : FileName := appendExtension name backupExtension

def isBackup (name : FileName) : Bool := extension name == some backupExtension

def isStaging (name : FileName) : Bool := extension name == some stagingExtension

def Original (name : FileName) : Prop := name ≠ [] ∧ isBackup name = false

instance (name : FileName) : Decidable (Original name) :=
  inferInstanceAs (Decidable (name ≠ [] ∧ isBackup name = false))

/-- A name that is neither the name of a backup nor that of a staging file. -/
def Plain (name : FileName) : Prop := Original name ∧ isStaging name = false

instance (name : FileName) : Decidable (Plain name) :=
  inferInstanceAs (Decidable (Original name ∧ isStaging name = false))

variable {name : FileName}

theorem splitAtLastDot_eq_none (noDot : '.' ∉ name) : splitAtLastDot name = none := by
  induction name with
  | nil => rfl
  | cons letter rest ih =>
    simp only [List.mem_cons, not_or] at noDot
    simp [splitAtLastDot, ih noDot.2, Ne.symm noDot.1]

theorem splitAtLastDot_append {ext : FileName} (noDot : '.' ∉ ext) (name : FileName) :
    splitAtLastDot (name ++ '.' :: ext) = some (name, ext) := by
  induction name with
  | nil => simp [splitAtLastDot, splitAtLastDot_eq_none noDot]
  | cons letter rest ih =>
    simp [splitAtLastDot, ih]

theorem eq_append_of_splitAtLastDot {name before after : FileName}
    (split : splitAtLastDot name = some (before, after)) : name = before ++ '.' :: after := by
  induction name generalizing before with
  | nil => simp [splitAtLastDot] at split
  | cons letter rest ih =>
    simp only [splitAtLastDot] at split
    cases inner : splitAtLastDot rest with
    | some parts =>
      obtain ⟨innerBefore, innerAfter⟩ := parts
      simp only [inner, Option.some.injEq, Prod.mk.injEq] at split
      obtain ⟨rfl, rfl⟩ := split
      simp [ih inner]
    | none =>
      simp only [inner, Option.ite_none_right_eq_some, Option.some.injEq, Prod.mk.injEq] at split
      obtain ⟨rfl, rfl, rfl⟩ := split
      rfl

theorem appendExtension_ne_dots {name ext : FileName} (nonempty : ext ≠ []) (inhabited : name ≠ []) :
    appendExtension name ext ≠ ['.', '.'] := by
  intro same
  have lengths := congrArg List.length same
  have extLength := List.length_pos_iff.mpr nonempty
  have nameLength := List.length_pos_iff.mpr inhabited
  simp only [appendExtension, List.length_append, List.length_cons, List.length_nil] at lengths
  omega

theorem splitAtLastDot_backupName :
    splitAtLastDot (backupName name) = some (name, backupExtension) :=
  splitAtLastDot_append (by decide) name

section

variable (inhabited : name ≠ [])

include inhabited

theorem backupName_ne_dots : backupName name ≠ ['.', '.'] :=
  appendExtension_ne_dots (by simp [backupExtension]) inhabited

@[simp]
theorem extension_backupName : extension (backupName name) = some backupExtension := by
  simp [extension, backupName_ne_dots inhabited, splitAtLastDot_backupName, inhabited]

@[simp]
theorem fileStem_backupName : fileStem (backupName name) = name := by
  simp [fileStem, backupName_ne_dots inhabited, splitAtLastDot_backupName, inhabited]

@[simp]
theorem isBackup_backupName : isBackup (backupName name) = true := by
  simp [isBackup, inhabited]

@[simp]
theorem isStaging_backupName : isStaging (backupName name) = false := by
  simp [isStaging, inhabited, backupExtension, stagingExtension]

end

theorem backupName_injective : Function.Injective backupName := by
  intro one two same
  exact List.append_cancel_right same

@[simp]
theorem backupName_inj {one two : FileName} : backupName one = backupName two ↔ one = two :=
  backupName_injective.eq_iff

theorem backupName_ne_self (name : FileName) : backupName name ≠ name := by
  intro same
  have lengths := congrArg List.length same
  simp [backupName, appendExtension] at lengths

@[simp]
theorem backupName_ne_nil (name : FileName) : backupName name ≠ [] := by
  simp [backupName, appendExtension]

theorem backupName_fileStem (backup : isBackup name = true) :
    fileStem name ≠ [] ∧ backupName (fileStem name) = name := by
  simp only [isBackup, extension, beq_iff_eq] at backup
  split at backup
  · cases backup
  · rename_i notDots
    split at backup
    · rename_i before after split
      simp only [Option.ite_none_left_eq_some, Option.some.injEq] at backup
      obtain ⟨inhabited, rfl⟩ := backup
      have stem : fileStem name = before := by simp [fileStem, notDots, split, inhabited]
      rw [stem]
      exact ⟨inhabited, (eq_append_of_splitAtLastDot split).symm⟩
    · cases backup

theorem isStaging_eq_false_of_isBackup (backup : isBackup name = true) :
    isStaging name = false := by
  simp only [isBackup, beq_iff_eq] at backup
  simp [isStaging, backup, backupExtension, stagingExtension]

theorem fileStem_ne_self (backup : isBackup name = true) : fileStem name ≠ name := by
  intro same
  have whole := (backupName_fileStem backup).2
  rw [same] at whole
  exact backupName_ne_self name whole

theorem Original.backupName_ne {name other : FileName} (original : Original name)
    (otherOriginal : Original other) : name ≠ backupName other := by
  rintro rfl
  simp [Original, otherOriginal.1] at original

theorem Original.isBackup_backupName (original : Original name) :
    isBackup (backupName name) = true :=
  Storage.isBackup_backupName original.1

end DiagnosticAdapter.Storage
