import Mathlib.Logic.Basic

/-!
# A flag with one owner

A flag that is set exactly while somebody owns it, and that nobody takes while it is set.
-/

namespace DiagnosticAdapter.Effects

variable {Owner : Type}

structure SoleOwner (busy : Bool) (owns : Owner → Prop) : Prop where
  busy : busy = true ↔ ∃ owner, owns owner
  one : ∀ first second, owns first → owns second → first = second

namespace SoleOwner

variable {busy : Bool} {owns after : Owner → Prop}

theorem of_none (none : ∀ owner, ¬ owns owner) : SoleOwner false owns := by
  constructor
  · constructor
    · intro impossible
      cases impossible
    · rintro ⟨owner, owned⟩
      exact absurd owned (none owner)
  · intro first second owned
    exact absurd owned (none first)

theorem none_of_free (sole : SoleOwner false owns) (owner : Owner) : ¬ owns owner := by
  intro owned
  have impossible := sole.busy.mpr ⟨owner, owned⟩
  cases impossible

theorem is_busy {owner : Owner} (sole : SoleOwner busy owns) (owned : owns owner) : busy = true :=
  sole.busy.mpr ⟨owner, owned⟩

theorem congr (sole : SoleOwner busy owns) (same : ∀ owner, after owner ↔ owns owner) :
    SoleOwner busy after := by
  have equal : after = owns := funext fun owner => propext (same owner)
  rw [equal]
  exact sole

theorem acquire (sole : SoleOwner false owns) (owner : Owner)
    (taken : ∀ other, after other ↔ owns other ∨ other = owner) : SoleOwner true after := by
  have only : ∀ other, after other ↔ other = owner := by
    intro other
    simp [taken other, sole.none_of_free other]
  constructor
  · simp [only]
  · intro first second firstOwns secondOwns
    exact ((only first).mp firstOwns).trans ((only second).mp secondOwns).symm

theorem release {owner : Owner} (sole : SoleOwner busy owns) (owned : owns owner)
    (left : ∀ other, after other → owns other ∧ other ≠ owner) : SoleOwner false after := by
  apply of_none
  intro other still
  obtain ⟨otherOwns, ne⟩ := left other still
  exact ne (sole.one other owner otherOwns owned)

end SoleOwner

end DiagnosticAdapter.Effects
