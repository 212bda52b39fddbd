import Mathlib.Data.List.Basic

/-!
# Counted loops

A `for i in 0..count` loop of fallible code.  The body may stop the loop early;
it must then already have reached what the whole loop is to reach.
-/

namespace DiagnosticAdapter.Effects

section Loop

variable {State Error : Type} {body : Nat → State → Except Error (ForInStep State)}

theorem forIn_range'_spec (invariant : Nat → State → Prop) {start count : Nat} {state : State}
    (initially : invariant start state)
    (step : ∀ i, start ≤ i → i < start + count → ∀ state, invariant i state →
      ∃ next, (body i state = .ok (.yield next) ∧ invariant (i + 1) next) ∨
        (body i state = .ok (.done next) ∧ invariant (start + count) next)) :
    ∃ final, forIn (List.range' start count) state body = .ok final ∧
      invariant (start + count) final := by
  induction count generalizing start state with
  | zero => exact ⟨state, rfl, initially⟩
  | succ count ih =>
    rw [List.range'_succ, List.forIn_cons]
    have last : start + (count + 1) = start + 1 + count := by omega
    obtain ⟨next, stepped | stopped⟩ := step start (by omega) (by omega) state initially
    · rw [last]
      obtain ⟨final, ended, reached⟩ := ih stepped.2 (by
        intro i lower upper
        rw [← last]
        exact step i (by omega) (by omega))
      refine ⟨final, ?_, reached⟩
      rw [stepped.1]
      exact ended
    · refine ⟨next, ?_, stopped.2⟩
      rw [stopped.1]
      rfl

section

variable {count : Nat} {state : State} (invariant : Nat → State → Prop)
  (initially : invariant 0 state)
  (step : ∀ i, i < count → ∀ state, invariant i state → ∃ next, (body i state = .ok (.yield next) ∧
    invariant (i + 1) next) ∨ (body i state = .ok (.done next) ∧ invariant count next))

include invariant initially step

theorem forIn_range_spec :
    ∃ final, forIn (List.range count) state body = .ok final ∧ invariant count final := by
  rw [List.range_eq_range']
  have reached := @forIn_range'_spec _ _ body invariant 0 count state initially
  rw [Nat.zero_add] at reached
  exact reached fun i _ => step i

theorem forIn_range_bind_spec {Result : Type} {after : State → Except Error Result}
    {post : Result → Prop}
    (ending : ∀ final, invariant count final → ∃ result, after final = .ok result ∧ post result) :
    ∃ result, (forIn (List.range count) state body >>= after) = .ok result ∧ post result := by
  obtain ⟨final, ended, reached⟩ := forIn_range_spec invariant initially step
  obtain ⟨result, returned, meets⟩ := ending final reached
  refine ⟨result, ?_, meets⟩
  rw [ended]
  exact returned

end

end Loop

end DiagnosticAdapter.Effects
