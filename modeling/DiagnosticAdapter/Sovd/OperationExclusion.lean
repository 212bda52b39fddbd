import DiagnosticAdapter.Sovd.ExecutionRegistry
import DiagnosticAdapter.Update.ClearedCall

/-!
# Updates and operations exclude each other

A map is quiet when it is empty and no writer has tested the flag under its guard.  A probe
finds quiet maps only, and a quiet map stays quiet while the flag is set.
-/

namespace DiagnosticAdapter.Sovd

open Effects
open DiagnosticAdapter.Update (ExecutionState ExecutionEvent ExecutionStep StartAnswers)

theorem ExecutionMap.isActive_iff {map : ExecutionMap} :
    map.isActive = true ↔ map.HasExecution := by
  cases map with
  | service executions => exact ServiceExecutions.isActive_iff
  | comparam executions =>
    unfold isActive HasExecution
    constructor
    · intro active
      cases entries : executions.entries with
      | nil => simp [entries] at active
      | cons entry rest =>
        exact ⟨entry.1, entry.2, AList.mem_lookup_iff.mpr (by simp [entries])⟩
    · rintro ⟨id, execution, present⟩
      have mem := AList.mem_lookup_iff.mp present
      cases entries : executions.entries with
      | nil =>
        rw [entries] at mem
        cases mem
      | cons entry rest => simp [entries]

theorem MapChange.hasExecution_of_perform {change : MapChange} {map : ExecutionMap}
    (active : (change.perform map).HasExecution) : map.HasExecution := by
  cases map with
  | service executions =>
    cases change with
    | finalize service id update | modify service id change =>
      obtain ⟨other, otherId, execution, present⟩ := active
      exact ⟨other, otherId, ServiceExecutions.find?_of_modify present⟩
    | removeReserved service id =>
      obtain ⟨other, otherId, execution, present⟩ := active
      exact ⟨other, otherId, execution, ServiceExecutions.find?_of_removeReservedExecution present⟩
    | shiftRemove service id =>
      obtain ⟨other, otherId, execution, present⟩ := active
      exact ⟨other, otherId, execution, ServiceExecutions.find?_of_shiftRemove present⟩
    | putComparam id parameters | deleteComparam id => exact active
  | comparam executions =>
    cases change with
    | putComparam id parameters =>
      obtain ⟨other, execution, present⟩ := active
      exact ⟨other, ComparamExecutions.lookup_of_put present⟩
    | deleteComparam id =>
      obtain ⟨other, execution, present⟩ := active
      by_cases same : other = id
      · subst same
        rw [AList.lookup_erase] at present
        cases present
      · rw [AList.lookup_erase_ne same] at present
        exact ⟨other, execution, present⟩
    | finalize service id update | removeReserved service id | modify service id change
    | shiftRemove service id => exact active

inductive ExclusionStep (state : ExclusionState) : ExclusionEvent → ExclusionState → Prop where
  | resumed {call : Nat} {answers : StartAnswers} {update : ExecutionState} :
      state.update.resume call answers = some update →
      (state.update.IsChecking call → answers.checkApplyAllowed = .ok () →
        state.probing call = some []) →
      ExclusionStep state (.update (.resume call answers))
        { state with
          update := update
          probing := Function.update state.probing call none
          built := Function.update state.built call [] }
  | updated {event : ExecutionEvent} {update : ExecutionState} :
      (∀ call answers, event ≠ .resume call answers) → state.update.step event = some update →
      ExclusionStep state (.update event) { state with update := update }
  | probeStarted {call : Nat} :
      ExclusionStep state (.probe call)
        { state with probing := Function.update state.probing call (some state.registered) }
  | probed {call map : Nat} {rest : List Nat} :
      state.update.IsChecking call → state.probing call = some (map :: rest) →
      state.writers map = none → (state.maps map).isActive = false →
      ExclusionStep state (.probe call)
        { state with probing := Function.update state.probing call (some rest) }
  | newRegistry {task : Nat} :
      ExclusionStep state (.newRegistry task)
        { state with built := Function.update state.built task [] }
  | registered {task : Nat} :
      ExclusionStep state (.register task)
        { state with
          built := Function.update state.built task
            (state.built task ++ [state.allocated, state.allocated + 1])
          allocated := state.allocated + 2 }
  | replaced {task : Nat} :
      state.update.IsExecuting task →
      ExclusionStep state (.replace task) { state with registered := state.built task }
  | acquired {operation map : Nat} {request : WriteRequest} :
      state.writers map = none → map < state.allocated →
      ExclusionStep state (.acquire operation map request)
        { state with
          writers := Function.update state.writers map (some operation)
          operations := Function.update state.operations operation (.holding map request) }
  | refused {operation map : Nat} {request : WriteRequest} :
      state.operations operation = .holding map request →
      ExclusionStep state (.test operation) (state.finish operation map)
  | tested {operation map : Nat} {request : WriteRequest} :
      state.operations operation = .holding map request →
      state.update.updateInProgress = false →
      ExclusionStep state (.test operation)
        { state with
          operations := Function.update state.operations operation (.tested map request) }
  | inserted {operation map : Nat} {request : WriteRequest} {id : Uuid} :
      state.operations operation = .tested map request →
      ExclusionStep state (.insert operation id)
        ({ state with
          maps := Function.update state.maps map (request.insert id (state.maps map)) }.finish
            operation map)
  | changed {map : Nat} {change : MapChange} :
      ExclusionStep state (.change map change)
        { state with
          maps := Function.update state.maps map (change.perform (state.maps map)) }

variable {state after : ExclusionState} {event : ExclusionEvent}

theorem ExclusionState.isExecuting_iff {task : Nat} :
    state.isExecuting task = true ↔ state.update.IsExecuting task := by
  unfold isExecuting ExecutionState.IsExecuting
  cases equation : state.update.tasks task <;> simp

theorem ExclusionStep.of_stepUpdate {event : ExecutionEvent}
    (taken : state.stepUpdate event = some after) :
    ExclusionStep state (.update event) after := by
  unfold ExclusionState.stepUpdate at taken
  split at taken
  case h_1 call answers =>
    split at taken
    case isTrue allowed =>
      obtain ⟨update, resumed, rfl⟩ := Option.map_eq_some_iff.mp taken
      refine .resumed resumed ?_
      rintro ⟨mode, collections, checking⟩ ok
      simpa [ExclusionState.allows, checking, ok] using allowed
    case isFalse => cases taken
  case h_2 other notResume =>
    obtain ⟨update, stepped, rfl⟩ := Option.map_eq_some_iff.mp taken
    exact .updated (fun call answers equal => notResume call answers equal) stepped

theorem ExclusionStep.of_probe {call : Nat} (taken : state.probe call = some after) :
    ExclusionStep state (.probe call) after := by
  unfold ExclusionState.probe at taken
  split at taken
  case h_1 =>
    cases taken
    exact .probeStarted
  case h_2 mode collections map rest checking remaining =>
    split at taken
    case isTrue quiet =>
      cases taken
      have both : state.writers map = none ∧ (state.maps map).isActive = false := by
        simpa using quiet
      exact .probed ⟨mode, collections, checking⟩ remaining both.1 both.2
    case isFalse => cases taken
  case h_3 => cases taken

theorem ExclusionStep.of_step (taken : state.step event = some after) :
    ExclusionStep state event after := by
  cases event <;> simp only [ExclusionState.step] at taken
  case update event => exact .of_stepUpdate taken
  case probe call => exact .of_probe taken
  case newRegistry task =>
    split at taken
    case isTrue =>
      cases taken
      exact .newRegistry
    case isFalse => cases taken
  case register task =>
    split at taken
    case isTrue =>
      cases taken
      exact .registered
    case isFalse => cases taken
  case replace task =>
    split at taken
    case isTrue executing =>
      cases taken
      exact .replaced (ExclusionState.isExecuting_iff.mp executing)
    case isFalse => cases taken
  case acquire operation map request =>
    split at taken
    case h_1 free =>
      split at taken
      case isTrue bounded =>
        cases taken
        exact .acquired free bounded
      case isFalse => cases taken
    case h_2 => cases taken
  case test operation =>
    split at taken
    case h_1 map request holding =>
      split at taken
      case isTrue =>
        cases taken
        exact .refused holding
      case isFalse notBusy =>
        cases taken
        exact .tested holding (by simpa using notBusy)
    case h_2 => cases taken
  case insert operation id =>
    split at taken
    case h_1 map request tested =>
      cases taken
      exact .inserted tested
    case h_2 => cases taken
  case change map change =>
    split at taken
    case isTrue =>
      cases taken
      exact .changed
    case isFalse => cases taken

namespace ExclusionState

/-- The map is empty, and no writer is about to insert into it. -/
def Quiet (state : ExclusionState) (map : Nat) : Prop :=
  ¬ (state.maps map).HasExecution ∧
    ∀ operation request, state.operations operation ≠ .tested map request

structure Excluded (state : ExclusionState) : Prop where
  owned : state.update.Owned
  guarded : ∀ operation map, (state.operations operation).guarded = some map →
    state.writers map = some operation ∧ map < state.allocated
  fresh : ∀ map, state.allocated ≤ map → state.Quiet map
  /-- What a call in `is_active` has probed is quiet. -/
  probed : ∀ call rest, state.update.IsChecking call → state.probing call = some rest →
    ∀ map ∈ state.registered, map ∉ rest → state.Quiet map
  cleared : ∀ call, state.update.IsCleared call → ∀ map ∈ state.registered, state.Quiet map
  built : ∀ task, state.update.IsExecuting task → ∀ map ∈ state.built task, state.Quiet map

theorem quiet_initial (ecus map : Nat) : (initial ecus).Quiet map := by
  refine ⟨?_, nofun⟩
  unfold initial
  by_cases even : map % 2 = 0
  · simp [even, ExecutionMap.HasExecution]
  · simp [even, ExecutionMap.HasExecution]

theorem excluded_initial (ecus : Nat) : (initial ecus).Excluded where
  owned := .initial
  guarded operation map holds := by cases holds
  fresh map _ := quiet_initial ecus map
  probed call rest _ _ map _ _ := quiet_initial ecus map
  cleared call _ map _ := quiet_initial ecus map
  built task _ map _ := quiet_initial ecus map

theorem Excluded.of_kept (excluded : state.Excluded) (update : after.update = state.update)
    (registered : after.registered = state.registered) (built : after.built = state.built)
    (probing : after.probing = state.probing) (allocated : after.allocated = state.allocated)
    (guarded : ∀ operation map, (after.operations operation).guarded = some map →
      after.writers map = some operation ∧ map < state.allocated)
    (quiet : ∀ map, state.Quiet map →
      state.update.updateInProgress = true ∨ state.allocated ≤ map → after.Quiet map) :
    after.Excluded := by
  have busy : ∀ call, state.update.Owns call → state.update.updateInProgress = true :=
    fun _ owns => excluded.owned.sole.is_busy owns
  constructor
  · rw [update]
    exact excluded.owned
  · rw [allocated]
    exact guarded
  · intro map unallocated
    rw [allocated] at unallocated
    exact quiet map (excluded.fresh map unallocated) (.inr unallocated)
  · intro call rest checking remaining map mem covered
    rw [update] at checking
    rw [probing] at remaining
    rw [registered] at mem
    exact quiet map (excluded.probed call rest checking remaining map mem covered)
      (.inl (busy call checking.owns))
  · intro call cleared map mem
    rw [update] at cleared
    rw [registered] at mem
    exact quiet map (excluded.cleared call cleared map mem) (.inl (busy call cleared.owns))
  · intro task executing map mem
    rw [update] at executing
    rw [built] at mem
    exact quiet map (excluded.built task executing map mem)
      (.inl (busy task executing.isCleared.owns))

theorem Excluded.acquired {operation map : Nat} {request : WriteRequest}
    (excluded : state.Excluded) (free : state.writers map = none)
    (bounded : map < state.allocated) :
    Excluded { state with
      writers := Function.update state.writers map (some operation)
      operations := Function.update state.operations operation (.holding map request) } := by
  refine excluded.of_kept rfl rfl rfl rfl rfl ?_ ?_
  · intro other otherMap holds
    by_cases same : other = operation
    · subst same
      have sameMap : map = otherMap := by simpa [WriteOperation.guarded] using holds
      subst sameMap
      exact ⟨by simp, bounded⟩
    · have held := excluded.guarded other otherMap (by simpa [same] using holds)
      have ne : otherMap ≠ map := by
        rintro rfl
        rw [free] at held
        cases held.1
      simpa [ne] using held
  · intro other quiet _
    refine ⟨quiet.1, ?_⟩
    intro writer otherRequest
    by_cases same : writer = operation
    · simp [same]
    · simpa [same] using quiet.2 writer otherRequest

theorem Excluded.guarded_finish {operation map : Nat} (excluded : state.Excluded)
    (holds : (state.operations operation).guarded = some map) (other otherMap : Nat)
    (still : ((state.finish operation map).operations other).guarded = some otherMap) :
    (state.finish operation map).writers otherMap = some other ∧ otherMap < state.allocated := by
  have ne : other ≠ operation := by
    rintro rfl
    simp [finish, WriteOperation.guarded] at still
  have held := excluded.guarded other otherMap (by simpa [finish, ne] using still)
  have apart : otherMap ≠ map := by
    rintro rfl
    have mine := (excluded.guarded operation otherMap holds).1
    rw [held.1] at mine
    exact ne (Option.some.inj mine)
  simpa [finish, apart] using held

theorem Quiet.finish {operation map other : Nat} (quiet : state.Quiet other) :
    (state.finish operation map).Quiet other := by
  refine ⟨quiet.1, ?_⟩
  intro writer request
  by_cases same : writer = operation
  · simp [ExclusionState.finish, same]
  · simpa [ExclusionState.finish, same] using quiet.2 writer request

theorem Excluded.refused {operation map : Nat} {request : WriteRequest}
    (excluded : state.Excluded) (holding : state.operations operation = .holding map request) :
    (state.finish operation map).Excluded := by
  refine excluded.of_kept rfl rfl rfl rfl rfl ?_ fun _ quiet _ => quiet.finish
  exact excluded.guarded_finish (by rw [holding]; rfl)

theorem Excluded.tested {operation map : Nat} {request : WriteRequest}
    (excluded : state.Excluded) (holding : state.operations operation = .holding map request)
    (free : state.update.updateInProgress = false) :
    Excluded { state with
      operations := Function.update state.operations operation (.tested map request) } := by
  have mine := excluded.guarded operation map (by rw [holding]; rfl)
  refine excluded.of_kept rfl rfl rfl rfl rfl ?_ ?_
  · intro other otherMap holds
    by_cases same : other = operation
    · subst same
      have sameMap : map = otherMap := by simpa [WriteOperation.guarded] using holds
      subst sameMap
      exact mine
    · exact excluded.guarded other otherMap (by simpa [same] using holds)
  · intro other quiet reason
    refine ⟨quiet.1, ?_⟩
    have unallocated : state.allocated ≤ other := by
      rcases reason with busy | unallocated
      · rw [free] at busy
        cases busy
      · exact unallocated
    intro writer otherRequest
    by_cases same : writer = operation
    · have ne : map ≠ other := by
        rintro rfl
        exact absurd mine.2 (Nat.not_lt.mpr unallocated)
      simp [same, ne]
    · simpa [same] using quiet.2 writer otherRequest

theorem Excluded.inserted {operation map : Nat} {request : WriteRequest} {id : Uuid}
    (excluded : state.Excluded) (tested : state.operations operation = .tested map request) :
    ({ state with
      maps := Function.update state.maps map (request.insert id (state.maps map)) }.finish
        operation map).Excluded := by
  refine excluded.of_kept rfl rfl rfl rfl rfl ?_ ?_
  · exact excluded.guarded_finish (by rw [tested]; rfl)
  · intro other quiet _
    have ne : other ≠ map := by
      rintro rfl
      exact quiet.2 operation request tested
    refine ⟨by simpa [finish, ne] using quiet.1, ?_⟩
    have finished : (state.finish operation map).Quiet other := quiet.finish
    exact finished.2

section

variable (excluded : state.Excluded)

include excluded

theorem Excluded.changed {map : Nat} {change : MapChange} :
    Excluded { state with
      maps := Function.update state.maps map (change.perform (state.maps map)) } := by
  refine excluded.of_kept rfl rfl rfl rfl rfl excluded.guarded ?_
  intro other quiet _
  refine ⟨?_, quiet.2⟩
  intro active
  by_cases same : other = map
  · subst same
    exact quiet.1 (MapChange.hasExecution_of_perform (by simpa using active))
  · exact quiet.1 (by simpa [same] using active)

theorem Excluded.updated {event : ExecutionEvent} {update : ExecutionState}
    (other : ∀ call answers, event ≠ .resume call answers)
    (stepped : state.update.step event = some update) :
    Excluded { state with update := update } := by
  have step := ExecutionStep.of_step stepped
  have kept : ∀ call, state.update.KeptBy update call := fun call => step.keeps (other call)
  exact {
    owned := excluded.owned.step step
    guarded := excluded.guarded
    fresh := excluded.fresh
    probed := fun call rest checking => excluded.probed call rest ((kept call).checking checking)
    cleared := fun call cleared => excluded.cleared call ((kept call).cleared cleared)
    built := fun task executing => excluded.built task ((kept task).executing executing) }

theorem Excluded.resumed {call : Nat} {answers : StartAnswers} {update : ExecutionState}
    (taken : state.update.resume call answers = some update)
    (allowed : state.update.IsChecking call → answers.checkApplyAllowed = .ok () →
      state.probing call = some []) :
    Excluded { state with
      update := update
      probing := Function.update state.probing call none
      built := Function.update state.built call [] } := by
  have step := ExecutionStep.of_resume taken
  have kept : ∀ other, other ≠ call → state.update.KeptBy update other := by
    intro other ne
    obtain ⟨calls, tasks⟩ := step.resume_other ne
    exact .of_eq calls tasks
  refine ⟨excluded.owned.step step, excluded.guarded, excluded.fresh, ?_, ?_, ?_⟩
  · intro other rest checking remaining
    have ne : other ≠ call := by
      rintro rfl
      simp at remaining
    exact excluded.probed other rest ((kept other ne).checking checking)
      (by simpa [ne] using remaining)
  · intro other cleared map mem
    by_cases same : other = call
    · subst same
      rcases ExecutionState.isCleared_of_resume taken cleared with already | ⟨checking, ok⟩
      · exact excluded.cleared other already map mem
      · exact excluded.probed other [] checking (allowed checking ok) map mem
          List.not_mem_nil
    · exact excluded.cleared other ((kept other same).cleared cleared) map mem
  · intro task executing map mem
    have ne : task ≠ call := by
      rintro rfl
      simp at mem
    exact excluded.built task ((kept task ne).executing executing) map
      (by simpa [ne] using mem)

theorem Excluded.probeStarted {call : Nat} :
    Excluded { state with
      probing := Function.update state.probing call (some state.registered) } := by
  refine { excluded with probed := ?_ }
  intro other rest checking remaining map mem uncovered
  by_cases same : other = call
  · subst same
    have all : state.registered = rest := by simpa using remaining
    exact absurd (all ▸ mem) uncovered
  · exact excluded.probed other rest checking (by simpa [same] using remaining) map mem uncovered

/-- A map that `try_read` shows empty is quiet: a writer that has tested the flag holds its
guard. -/
theorem Excluded.quiet_of_tryRead {map : Nat} (free : state.writers map = none)
    (inactive : (state.maps map).isActive = false) : state.Quiet map := by
  refine ⟨?_, ?_⟩
  · intro active
    rw [ExecutionMap.isActive_iff.mpr active] at inactive
    cases inactive
  · intro operation request tested
    have held := (excluded.guarded operation map (by rw [tested]; rfl)).1
    rw [free] at held
    cases held

theorem Excluded.probes {call map : Nat} {rest : List Nat} (checking : state.update.IsChecking call)
    (remaining : state.probing call = some (map :: rest)) (free : state.writers map = none)
    (inactive : (state.maps map).isActive = false) :
    Excluded { state with probing := Function.update state.probing call (some rest) } := by
  refine { excluded with probed := ?_ }
  intro other otherRest otherChecking otherRemaining otherMap mem uncovered
  by_cases same : other = call
  · subst same
    have sameRest : rest = otherRest := by simpa using otherRemaining
    subst sameRest
    by_cases sameMap : otherMap = map
    · subst sameMap
      exact excluded.quiet_of_tryRead free inactive
    · exact excluded.probed other _ checking remaining otherMap mem
        (by simp [sameMap, uncovered])
  · exact excluded.probed other otherRest otherChecking (by simpa [same] using otherRemaining)
      otherMap mem uncovered

theorem Excluded.newRegistry {task : Nat} :
    Excluded { state with built := Function.update state.built task [] } := by
  refine { excluded with built := ?_ }
  intro other executing map mem
  by_cases same : other = task
  · simp [same] at mem
  · exact excluded.built other executing map (by simpa [same] using mem)

theorem Excluded.registers {task : Nat} :
    Excluded { state with
      built := Function.update state.built task
        (state.built task ++ [state.allocated, state.allocated + 1])
      allocated := state.allocated + 2 } := by
  refine { excluded with guarded := ?_, fresh := ?_, built := ?_ }
  · intro operation map holds
    have held := excluded.guarded operation map holds
    exact ⟨held.1, Nat.lt_add_right 2 held.2⟩
  · intro map unallocated
    exact excluded.fresh map (Nat.le_of_add_right_le unallocated)
  · intro other executing map mem
    by_cases same : other = task
    · subst same
      have cases : map ∈ state.built other ∨ map = state.allocated ∨ map = state.allocated + 1 := by
        simpa using mem
      rcases cases with before | rfl | rfl
      · exact excluded.built other executing map before
      · exact excluded.fresh _ (Nat.le_refl _)
      · exact excluded.fresh _ (Nat.le_succ _)
    · exact excluded.built other executing map (by simpa [same] using mem)

theorem Excluded.replaced {task : Nat} (executing : state.update.IsExecuting task) :
    Excluded { state with registered := state.built task } := by
  refine { excluded with probed := ?_, cleared := ?_ }
  · intro call rest checking _ map mem _
    exact excluded.built task executing map mem
  · intro call _ map mem
    exact excluded.built task executing map mem

theorem Excluded.step (taken : ExclusionStep state event after) : after.Excluded := by
  cases taken with
  | resumed taken allowed => exact excluded.resumed taken allowed
  | updated other stepped => exact excluded.updated other stepped
  | probeStarted => exact excluded.probeStarted
  | probed checking remaining free inactive =>
    exact excluded.probes checking remaining free inactive
  | newRegistry => exact excluded.newRegistry
  | registered => exact excluded.registers
  | replaced executing => exact excluded.replaced executing
  | acquired free bounded => exact excluded.acquired free bounded
  | refused holding => exact excluded.refused holding
  | tested holding free => exact excluded.tested holding free
  | inserted tested => exact excluded.inserted tested
  | changed => exact excluded.changed

end

/-- An operation is reserved or created in a map of the registry. -/
def HasOperation (state : ExclusionState) : Prop :=
  ∃ map ∈ state.registered, (state.maps map).HasExecution

def HasRunningUpdate (state : ExclusionState) : Prop :=
  ∃ id execution, state.update.executions.lookup id = some execution ∧ execution.status = .running

theorem Excluded.exclusive (excluded : state.Excluded) :
    ¬ (state.HasRunningUpdate ∧ state.HasOperation) := by
  rintro ⟨⟨id, execution, present, running⟩, map, mem, active⟩
  obtain ⟨call, runs⟩ := excluded.owned.running id execution present running
  have cleared : state.update.IsCleared call := by
    rcases runs with ⟨mode, spawning⟩ | ⟨mode, executing⟩
    · left
      rw [spawning]
      rfl
    · right
      rw [executing]
      rfl
  exact (excluded.cleared call cleared map mem).1 active

end ExclusionState

abbrev ExclusionRun (ecus : Nat) : List ExclusionEvent → ExclusionState → Prop :=
  Run (fun state event after => state.step event = some after) (.initial ecus)

/-- No run leads to a running update and an operation at once. -/
theorem update_excludes_operations {ecus : Nat} {events : List ExclusionEvent}
    (run : ExclusionRun ecus events state) : ¬ (state.HasRunningUpdate ∧ state.HasOperation) := by
  have excluded : state.Excluded := by
    apply run.keeps (fun _ state => state.Excluded) (ExclusionState.excluded_initial ecus)
    intro events event state after excluded taken
    exact excluded.step (.of_step taken)
  exact excluded.exclusive

/-- An operation that comes and goes, an update that starts, and an operation that it blocks. -/
def operationThenUpdate : List ExclusionEvent :=
  [.acquire 0 1 (.reserve "routine"), .test 0, .insert 0 7,
    .change 1 (.finalize "routine" 7 id), .change 1 (.shiftRemove "routine" 7),
    .update (.start .cleanup), .update (.resume 0 Update.passing),
    .update (.resume 0 Update.passing), .probe 0, .probe 0, .probe 0,
    .update (.resume 0 Update.passing), .update (.resume 0 Update.passing),
    .update (.resume 0 Update.passing), .acquire 1 1 (.reserve "routine"), .test 1]

theorem update_excludes_operations_of_operationThenUpdate :
    ∃ state, ExclusionRun 1 operationThenUpdate state ∧ state.HasRunningUpdate ∧
      ¬ (state.HasRunningUpdate ∧ state.HasOperation) := by
  have run : ∃ state, ExclusionRun 1 operationThenUpdate state ∧ state.HasRunningUpdate :=
    ⟨_, Run.of_foldlM rfl, "id", _, rfl, rfl⟩
  obtain ⟨state, run, running⟩ := run
  exact ⟨state, run, running, update_excludes_operations run⟩

end DiagnosticAdapter.Sovd
