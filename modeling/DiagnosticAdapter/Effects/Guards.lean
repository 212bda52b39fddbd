import Mathlib.Data.Set.Basic

/-!
# Reader-writer locks with a queue

Processes hold guards on resources and wait for one at a time.  A waiting process
stands in the queue of its resource: readers wait behind a waiting writer.  A set of
processes is deadlocked when each of them waits for another one of the set.
-/

namespace DiagnosticAdapter.Effects

inductive Mode where
  | read
  | write
  deriving DecidableEq, Repr

/-- Two guards on one resource that cannot be held together. -/
def Mode.Conflicts (mode other : Mode) : Prop :=
  mode = .write ∨ other = .write

instance (mode other : Mode) : Decidable (mode.Conflicts other) :=
  inferInstanceAs (Decidable (_ ∨ _))

variable {Pid Resource : Type}

/-- Who holds and who waits for what at one moment. -/
structure Guards (Pid Resource : Type) where
  holds : Pid → List (Resource × Mode)
  waits : Pid → Option (Resource × Mode)
  queue : Resource → List Pid

namespace Guards

def Exclusive (guards : Guards Pid Resource) : Prop :=
  ∀ process other resource mode, process ≠ other →
    (resource, .write) ∈ guards.holds process → (resource, mode) ∉ guards.holds other

/-- The queues hold exactly the waiting processes, each once. -/
structure Queued (guards : Guards Pid Resource) : Prop where
  nodup : ∀ resource, (guards.queue resource).Nodup
  waiting : ∀ resource process, process ∈ guards.queue resource ↔
    ∃ mode, guards.waits process = some (resource, mode)

/-- `process` waits for a guard that `other` holds, or stands behind `other` in the
queue. -/
inductive WaitsFor (guards : Guards Pid Resource) (process other : Pid) : Prop where
  | held {resource : Resource} {mode otherMode : Mode} :
      guards.waits process = some (resource, mode) →
      (resource, otherMode) ∈ guards.holds other → mode.Conflicts otherMode →
      WaitsFor guards process other
  | queued {resource : Resource} {mode : Mode} {before after : List Pid} :
      guards.waits process = some (resource, mode) →
      guards.queue resource = before ++ process :: after → other ∈ before →
      WaitsFor guards process other

def Deadlocked (guards : Guards Pid Resource) (members : Set Pid) : Prop :=
  members.Nonempty ∧ ∀ process ∈ members, ∃ other ∈ members, other ≠ process ∧
    guards.WaitsFor process other

variable {guards : Guards Pid Resource} {members : Set Pid}

theorem Deadlocked.exists_waits (deadlocked : guards.Deadlocked members) {process : Pid}
    (mem : process ∈ members) :
    ∃ resource mode, guards.waits process = some (resource, mode) := by
  obtain ⟨other, -, -, waitsFor⟩ := deadlocked.2 process mem
  cases waitsFor with
  | held waits | queued waits => exact ⟨_, _, waits⟩

section

variable {process : Pid} {resource : Resource} (deadlocked : guards.Deadlocked members)
  (queued : guards.Queued) (mem : process ∈ members)

include deadlocked queued mem

/-- Of the members that wait for a resource, the first in its queue waits for a guard
that a member holds. -/
theorem Deadlocked.exists_holder {place : Nat}
    (placed : (guards.queue resource)[place]? = some process) :
    ∃ first ∈ members, ∃ firstPlace ≤ place, (guards.queue resource)[firstPlace]? = some first ∧
      ∃ holder ∈ members, holder ≠ first ∧ ∃ mode holdMode,
        guards.waits first = some (resource, mode) ∧
        (resource, holdMode) ∈ guards.holds holder ∧ mode.Conflicts holdMode := by
  -- induction on the place in the queue
  induction place using Nat.strong_induction_on generalizing process with
  | _ place ih =>
    obtain ⟨mode, waits⟩ := (queued.waiting resource process).mp (List.mem_of_getElem? placed)
    obtain ⟨other, otherMember, distinct, waitsFor⟩ := deadlocked.2 process mem
    cases waitsFor with
    | held waits' holds conflicts =>
      rw [waits] at waits'
      cases waits'
      exact ⟨process, mem, place, le_rfl, placed, other, otherMember, distinct, _, _,
        waits, holds, conflicts⟩
    | @queued resource' mode' before after waits' split earlier =>
      rw [waits] at waits'
      cases waits'
      obtain ⟨otherPlace, otherPlaced⟩ := List.mem_iff_getElem?.mp earlier
      have inBefore : otherPlace < before.length :=
        (List.getElem?_eq_some_iff.mp otherPlaced).1
      have same : before.length = place := by
        apply (List.getElem?_inj ?_ (queued.nodup resource)).mp
        · rw [placed, split]
          simp
        · rw [split]
          simp
      have otherInQueue : (guards.queue resource)[otherPlace]? = some other := by
        rw [split, List.getElem?_append_left inBefore, otherPlaced]
      have ahead : otherPlace < place := same ▸ inBefore
      obtain ⟨first, firstMember, firstPlace, before, rest⟩ :=
        ih otherPlace ahead otherMember otherInQueue
      exact ⟨first, firstMember, firstPlace, before.trans ahead.le, rest⟩

theorem Deadlocked.holder_of_waits {mode : Mode}
    (waits : guards.waits process = some (resource, mode)) :
    ∃ holder ∈ members, ∃ holdMode, (resource, holdMode) ∈ guards.holds holder := by
  obtain ⟨place, placed⟩ := List.mem_iff_getElem?.mp
    ((queued.waiting resource process).mpr ⟨mode, waits⟩)
  obtain ⟨-, -, -, -, -, holder, holderMember, -, -, holdMode, -, holds, -⟩ :=
    deadlocked.exists_holder queued mem placed
  exact ⟨holder, holderMember, holdMode, holds⟩

end

end Guards

end DiagnosticAdapter.Effects
