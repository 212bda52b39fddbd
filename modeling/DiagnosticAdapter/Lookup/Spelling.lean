import Mathlib.Data.Finset.Card

/-!
# Directories whose names have a normal spelling

A directory stores values under names, and every name has a normal spelling.
Some names are listed, the others are kept out of sight.  A map from normal
spellings to values is what the directory stands for: every listed name shows
the value of its normal spelling, and no two names compete for one.
-/

namespace DiagnosticAdapter.Lookup

open Function

/-- Names with a normal spelling, and which of them are listed. -/
structure Spelling (Name : Type) where
  normal : Name → Name
  normal_normal : ∀ name, normal (normal name) = normal name
  listed : Name → Bool

theorem toLower_toLower (letter : Char) : letter.toLower.toLower = letter.toLower := by
  by_cases upper : letter.val ≥ 'A'.val ∧ letter.val ≤ 'Z'.val
  · have first : 65 ≤ letter.val.toNat := UInt32.le_iff_toNat_le.1 upper.1
    have last : letter.val.toNat ≤ 90 := UInt32.le_iff_toNat_le.1 upper.2
    have shifted : letter.toLower.val = letter.val + 32 := congrArg Char.val (dif_pos upper)
    have moved : letter.toLower.val.toNat = letter.val.toNat + 32 := by
      rw [shifted, UInt32.toNat_add]
      exact Nat.mod_eq_of_lt (by change letter.val.toNat + 32 < 4294967296; omega)
    refine dif_neg fun again => ?_
    have again : letter.toLower.val.toNat ≤ 90 := UInt32.le_iff_toNat_le.1 again.2
    omega
  · have same : letter.toLower = letter := dif_neg upper
    rw [same, same]

namespace Spelling

variable {Name Value : Type} {spelling : Spelling Name} {latest files : Name → Option Value}
  {name key entry : Name}

def Shown (spelling : Spelling Name) (files : Name → Option Value) (name : Name) : Prop :=
  spelling.listed name = true ∧ files name ≠ none

/-- No listed name is another spelling of the key. -/
def Unrivalled (spelling : Spelling Name) (files : Name → Option Value) (key : Name) : Prop :=
  ∀ name, spelling.Shown files name → spelling.normal name = key → name = key

structure Tidy (spelling : Spelling Name) (latest files : Name → Option Value) : Prop where
  current : ∀ name value, spelling.listed name = true → files name = some value →
    latest (spelling.normal name) = some value
  alone : ∀ name, spelling.Shown files name → ∀ other, spelling.Shown files other →
    spelling.normal other = spelling.normal name → other = name
  unhidden : ∀ name, spelling.Shown files name → files (spelling.normal name) ≠ none →
    spelling.normal name = name

/-- Every value that can be listed under its normal spelling is in the
directory. -/
def Complete (spelling : Spelling Name) (latest files : Name → Option Value) : Prop :=
  ∀ key, spelling.listed key = true → latest key ≠ none →
    ∃ name, spelling.Shown files name ∧ spelling.normal name = key

theorem Tidy.empty (spelling : Spelling Name) (latest : Name → Option Value) :
    spelling.Tidy latest fun _ => none :=
  ⟨fun _ _ _ found => (by cases found), fun _ shown => absurd rfl shown.2,
    fun _ shown => absurd rfl shown.2⟩

theorem Tidy.unrivalled (tidy : spelling.Tidy latest files) (there : files key ≠ none) :
    spelling.Unrivalled files key := by
  rintro name shown rfl
  exact (tidy.unhidden name shown there).symm

theorem Tidy.lookup (tidy : spelling.Tidy latest files) (shown : spelling.Shown files name)
    (there : files (spelling.normal name) ≠ none) :
    files (spelling.normal name) = latest (spelling.normal name) := by
  obtain ⟨value, found⟩ := Option.ne_none_iff_exists'.mp shown.2
  rw [tidy.current name value shown.1 found, tidy.unhidden name shown there, found]

section Renaming

variable [DecidableEq Name] {value : Value}

/-- The directory after one of its files got the normal spelling. -/
def renamed (files : Name → Option Value) (entry key : Name) (value : Value) :
    Name → Option Value :=
  update (update files entry none) key (some value)

theorem Shown.of_renamed (shown : spelling.Shown (renamed files entry key value) name) :
    name = key ∨ (name ≠ entry ∧ spelling.Shown files name) := by
  by_cases same : name = key
  · exact .inl same
  · refine .inr ?_
    obtain ⟨listed, there⟩ := shown
    rw [renamed, update_of_ne same] at there
    by_cases moved : name = entry
    · rw [moved, update_self] at there
      exact absurd rfl there
    · rw [update_of_ne moved] at there
      exact ⟨moved, listed, there⟩

theorem Tidy.rename (tidy : spelling.Tidy latest files) (listed : spelling.listed entry = true)
    (found : files entry = some value) (normal : spelling.normal entry = key) :
    spelling.Tidy latest (renamed files entry key value) := by
  have shownEntry : spelling.Shown files entry := ⟨listed, by simp [found]⟩
  have keyNormal : spelling.normal key = key := by
    rw [← normal, spelling.normal_normal]
  refine ⟨fun name stored listedName there => ?_, fun name shown other otherShown same => ?_,
    fun name shown there => ?_⟩
  · by_cases same : name = key
    · subst same
      rw [renamed, update_self] at there
      cases there
      rw [keyNormal, ← normal]
      exact tidy.current entry value listed found
    · rw [renamed, update_of_ne same] at there
      by_cases moved : name = entry
      · simp [moved] at there
      · rw [update_of_ne moved] at there
        exact tidy.current name stored listedName there
  · rcases shown.of_renamed with rfl | ⟨apart, before⟩
    · rcases otherShown.of_renamed with rfl | ⟨otherApart, otherBefore⟩
      · rfl
      · rw [keyNormal, ← normal] at same
        exact absurd (tidy.alone entry shownEntry other otherBefore same) otherApart
    · rcases otherShown.of_renamed with rfl | ⟨_, otherBefore⟩
      · rw [keyNormal, ← normal] at same
        exact absurd (tidy.alone entry shownEntry name before same.symm) apart
      · exact tidy.alone name before other otherBefore same
  · rcases shown.of_renamed with rfl | ⟨apart, before⟩
    · exact keyNormal
    · by_cases target : spelling.normal name = key
      · rw [← normal] at target
        exact absurd (tidy.alone entry shownEntry name before target) apart
      · rw [renamed, update_of_ne target] at there
        by_cases moved : spelling.normal name = entry
        · simp [moved] at there
        · rw [update_of_ne moved] at there
          exact tidy.unhidden name before there

theorem Complete.rename (complete : spelling.Complete latest files)
    (normal : spelling.normal entry = key) :
    spelling.Complete latest (renamed files entry key value) := by
  intro wanted listedWanted stored
  obtain ⟨name, shown, spelled⟩ := complete wanted listedWanted stored
  by_cases moved : name = entry
  · subst moved
    rw [normal] at spelled
    subst spelled
    exact ⟨key, ⟨listedWanted, by simp [renamed]⟩, by rw [← normal, spelling.normal_normal]⟩
  · refine ⟨name, ⟨shown.1, ?_⟩, spelled⟩
    by_cases same : name = key
    · simp [renamed, same]
    · rw [renamed, update_of_ne same, update_of_ne moved]
      exact shown.2

end Renaming

section Changing

variable [DecidableEq Name] {value : Option Value}

theorem Shown.of_update (shown : spelling.Shown (update files key value) name) :
    name = key ∨ spelling.Shown files name := by
  by_cases same : name = key
  · exact .inl same
  · exact .inr ⟨shown.1, by rw [← update_of_ne same value files]; exact shown.2⟩

theorem Tidy.change (tidy : spelling.Tidy latest files) (normal : spelling.normal key = key)
    (unrivalled : spelling.Unrivalled files key) (value : Option Value) :
    spelling.Tidy (update latest key value) (update files key value) := by
  refine ⟨fun name stored listed found => ?_, fun name shown other otherShown same => ?_,
    fun name shown there => ?_⟩
  · by_cases same : name = key
    · subst same
      rw [update_self] at found
      rw [normal, update_self, found]
    · rw [update_of_ne same] at found
      have apart : spelling.normal name ≠ key :=
        fun spelled => same (unrivalled name ⟨listed, by simp [found]⟩ spelled)
      rw [update_of_ne apart]
      exact tidy.current name stored listed found
  · rcases shown.of_update with rfl | before
    · rcases otherShown.of_update with rfl | otherBefore
      · rfl
      · exact unrivalled other otherBefore (same.trans normal)
    · rcases otherShown.of_update with rfl | otherBefore
      · exact (unrivalled name before (same.symm.trans normal)).symm
      · exact tidy.alone name before other otherBefore same
  · rcases shown.of_update with rfl | before
    · exact normal
    · by_cases target : spelling.normal name = key
      · rw [target, unrivalled name before target]
      · rw [update_of_ne target] at there
        exact tidy.unhidden name before there

theorem Complete.change (complete : spelling.Complete latest files)
    (normal : spelling.normal key = key) (value : Option Value) :
    spelling.Complete (update latest key value) (update files key value) := by
  intro wanted listed stored
  by_cases same : wanted = key
  · subst same
    rw [update_self] at stored
    exact ⟨wanted, ⟨listed, by rwa [update_self]⟩, normal⟩
  · rw [update_of_ne same] at stored
    obtain ⟨name, shown, spelled⟩ := complete wanted listed stored
    have apart : name ≠ key := by
      rintro rfl
      exact same (spelled.symm.trans normal)
    exact ⟨name, ⟨shown.1, by rw [update_of_ne apart]; exact shown.2⟩, spelled⟩

theorem Unrivalled.change {other : Name} (unrivalled : spelling.Unrivalled files key)
    (normal : spelling.normal other = other) (value : Option Value) :
    spelling.Unrivalled (update files other value) key := by
  intro name shown spelled
  rcases shown.of_update with rfl | before
  · exact normal.symm.trans spelled
  · exact unrivalled name before spelled

end Changing

/-- Names that are not listed may come and go, as long as none of them takes
the normal spelling of a listed one. -/
theorem Tidy.congr {other : Name → Option Value} (tidy : spelling.Tidy latest files)
    (same : ∀ name, spelling.listed name = true → other name = files name)
    (free : ∀ name, spelling.Shown files name → other (spelling.normal name) ≠ none →
      files (spelling.normal name) ≠ none) : spelling.Tidy latest other := by
  have back : ∀ name, spelling.Shown other name → spelling.Shown files name :=
    fun name shown => ⟨shown.1, same name shown.1 ▸ shown.2⟩
  refine ⟨fun name value listed found => tidy.current name value listed (same name listed ▸ found),
    fun name shown next nextShown spelled =>
      tidy.alone name (back name shown) next (back next nextShown) spelled,
    fun name shown there =>
      tidy.unhidden name (back name shown) (free name (back name shown) there)⟩

theorem Complete.congr {other : Name → Option Value} (complete : spelling.Complete latest files)
    (same : ∀ name, spelling.listed name = true → other name = files name) :
    spelling.Complete latest other := by
  intro key listed stored
  obtain ⟨name, shown, spelled⟩ := complete key listed stored
  exact ⟨name, ⟨shown.1, same name shown.1 ▸ shown.2⟩, spelled⟩

theorem Tidy.nodup_map (tidy : spelling.Tidy latest files) {names : List Name}
    (nodup : names.Nodup) (there : ∀ name ∈ names, files name ≠ none) :
    ((names.filter spelling.listed).map spelling.normal).Nodup := by
  refine List.Nodup.map_on ?_ (nodup.filter _)
  intro one first two second same
  obtain ⟨mem, listed⟩ := List.mem_filter.mp first
  obtain ⟨otherMember, otherListed⟩ := List.mem_filter.mp second
  exact (tidy.alone two ⟨otherListed, there two otherMember⟩ one ⟨listed, there one mem⟩ same)

end Spelling

end DiagnosticAdapter.Lookup
