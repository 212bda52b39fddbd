import DiagnosticAdapter.Collections.IndexMap
import DiagnosticAdapter.Effects.Run
import DiagnosticAdapter.Sovd.ServiceExecutions

/-!
# Views of the comparam executions

A request for one execution answers with the comparams of the ECU under the overrides of all
executions up to that one.  It takes the place of the execution under one read guard and the
executions before it under another; requests that write may come in between.
-/

namespace DiagnosticAdapter.Sovd

open Collections Effects
open Kernel (Text JsonValue)

abbrev ExecutionOrder := IndexMap Uuid ComparamExecution

def executionNotFound (id : Uuid) : ApiError :=
  .notFound (some s!"Execution with id {id} not found")

namespace ExecutionOrder

/-- `handler_write`; a request need not have parameters. -/
def handlerWrite (updateInProgress : Bool) (id : Uuid) (parameters : Option Parameters)
    (executions : ExecutionOrder) : Except ApiError ExecutionOrder :=
  if updateInProgress then .error updateBlocked
  else .ok (executions.insert id ⟨.running, parameters.getD []⟩)

def put (id : Uuid) (parameters : Option Parameters) (executions : ExecutionOrder) :
    Except ApiError ExecutionOrder :=
  match executions.getFull id with
  | none => .error (executionNotFound id)
  | some _ =>
    .ok (executions.modify id fun execution =>
      { execution with comparamOverride := execution.comparamOverride ++ parameters.getD [] })

def delete (id : Uuid) (executions : ExecutionOrder) : Except ApiError ExecutionOrder :=
  match executions.getFull id with
  | none => .error (executionNotFound id)
  | some _ => .ok (executions.shiftRemove id)

def after (executions : ExecutionOrder) (outcome : Except ApiError ExecutionOrder) :
    ExecutionOrder :=
  match outcome with
  | .ok executions => executions
  | .error _ => executions

end ExecutionOrder

/-- The executions of the registry are these without their order. -/
def Represents (order : ExecutionOrder) (executions : ComparamExecutions) : Prop :=
  ∀ id execution, (id, execution) ∈ order.entries ↔ executions.lookup id = some execution

namespace Represents

variable {order : ExecutionOrder} {executions : ComparamExecutions} {id : Uuid}
  {parameters : Option Parameters}

section

variable (same : Represents order executions)

include same

theorem handlerWrite :
    Represents (order.after (order.handlerWrite false id parameters))
      (executions.create id (parameters.getD [])) := by
  intro other execution
  rw [ExecutionOrder.handlerWrite, if_neg Bool.false_ne_true, ExecutionOrder.after,
    ComparamExecutions.create, IndexMap.mem_insert]
  split_ifs with isId
  · subst isId
    rw [AList.lookup_insert, Option.some.injEq, eq_comm]
  · rw [AList.lookup_insert_ne isId, same]

theorem getFull_eq_none_iff : order.getFull id = none ↔ executions.lookup id = none := by
  rw [IndexMap.getFull_eq_none_iff, Option.eq_none_iff_forall_ne_some]
  simp only [same id, ne_eq]

theorem put :
    Represents (order.after (order.put id parameters))
      (executions.put id (parameters.getD [])) := by
  rw [ExecutionOrder.put, ComparamExecutions.put]
  cases found : executions.lookup id with
  | none =>
    rw [same.getFull_eq_none_iff.mpr found]
    exact same
  | some present =>
    cases read : order.getFull id with
    | none =>
      rw [same.getFull_eq_none_iff.mp read] at found
      cases found
    | some pair =>
      intro other execution
      rw [ExecutionOrder.after, IndexMap.mem_modify]
      split_ifs with isId
      · subst isId
        simp only [same other, found, Option.some.injEq, AList.lookup_insert]
        constructor
        · rintro ⟨before, rfl, rfl⟩
          rfl
        · rintro rfl
          exact ⟨present, rfl, rfl⟩
      · rw [AList.lookup_insert_ne isId, same]

end

theorem delete (same : Represents order executions) :
    Represents (order.after (order.delete id)) (executions.erase id) := by
  intro other execution
  have erased : (executions.erase id).lookup other = some execution ↔
      other ≠ id ∧ executions.lookup other = some execution := by
    by_cases isId : other = id
    · subst isId
      simp [AList.lookup_erase]
    · rw [AList.lookup_erase_ne isId, and_iff_right isId]
  rw [ExecutionOrder.delete, erased, ← same]
  cases read : order.getFull id with
  | none =>
    have absent := IndexMap.getFull_eq_none_iff.mp read
    rw [ExecutionOrder.after, iff_and_self]
    rintro mem rfl
    exact absent execution mem
  | some pair =>
    rw [ExecutionOrder.after, IndexMap.mem_shiftRemove]

end Represents

/-- The comparams with the overrides inserted, those of later executions last. -/
def overlay (comparams : Text → Option JsonValue) (executions : List ComparamExecution) :
    Text → Option JsonValue :=
  (executions.flatMap (·.comparamOverride)).foldl
    (fun parameters entry => Function.update parameters entry.1 (some entry.2)) comparams

inductive ViewReply where
  | failed (error : ApiError)
  /-- The slice ends behind the executions. -/
  | panicked
  | ok (status : ExecutionStatus) (parameters : Text → Option JsonValue)

/-- A request for an execution, between its await points. -/
inductive ViewCall where
  | absent
  | begun (id : Uuid)
  | located (id : Uuid) (place : Nat) (execution : ComparamExecution)
  | gathered (id : Uuid) (status : ExecutionStatus) (executions : List ComparamExecution)
  | ended (id : Uuid) (reply : ViewReply)

def ViewCall.IsOpen (call : ViewCall) (id : Uuid) : Prop :=
  match call with
  | .begun own | .located own _ _ | .gathered own _ _ => own = id
  | .absent | .ended _ _ => False

structure ViewState where
  executions : ExecutionOrder
  calls : Nat → ViewCall

inductive ViewEvent where
  | post (id : Uuid) (updateInProgress : Bool) (parameters : Option Parameters)
  | put (id : Uuid) (parameters : Option Parameters)
  | delete (id : Uuid)
  | get (call : Nat) (id : Uuid)
  /-- Under the first read guard. -/
  | locate (call : Nat)
  /-- Under the second read guard. -/
  | gather (call : Nat)
  /-- The comparams of the ECU are there. -/
  | answer (call : Nat) (comparams : Except ApiError (Text → Option JsonValue))

namespace ViewState

def initial : ViewState := ⟨.empty, fun _ => .absent⟩

def moves (call : Nat) (next : ViewCall) (state : ViewState) : ViewState :=
  { state with calls := Function.update state.calls call next }

/-- A writer keeps its guard until it is done. -/
def writes (state : ViewState) (outcome : Except ApiError ExecutionOrder) : ViewState :=
  { state with executions := state.executions.after outcome }

def step (state : ViewState) : ViewEvent → Option ViewState
  | .post id updateInProgress parameters =>
    some (state.writes (state.executions.handlerWrite updateInProgress id parameters))
  | .put id parameters => some (state.writes (state.executions.put id parameters))
  | .delete id => some (state.writes (state.executions.delete id))
  | .get call id =>
    match state.calls call with
    | .absent => some (state.moves call (.begun id))
    | _ => none
  | .locate call =>
    match state.calls call with
    | .begun id =>
      match state.executions.getFull id with
      | none => some (state.moves call (.ended id (.failed (executionNotFound id))))
      | some (place, execution) => some (state.moves call (.located id place execution))
    | _ => none
  | .gather call =>
    match state.calls call with
    | .located id place execution =>
      if place ≤ state.executions.entries.length then
        some (state.moves call (.gathered id execution.status
          ((state.executions.front place).map Prod.snd ++ [execution])))
      else some (state.moves call (.ended id .panicked))
    | _ => none
  | .answer call comparams =>
    match state.calls call with
    | .gathered id status executions =>
      match comparams with
      | .ok comparams =>
        some (state.moves call (.ended id (.ok status (overlay comparams executions))))
      | .error error => some (state.moves call (.ended id (.failed error)))
    | _ => none

end ViewState

/-- What an event does to the executions where they have no order. -/
def ViewEvent.perform : ViewEvent → ComparamExecutions → ComparamExecutions
  | .post id false parameters => (·.create id (parameters.getD []))
  | .put id parameters => (·.put id (parameters.getD []))
  | .delete id => (·.erase id)
  | _ => id

theorem Represents.step {state next : ViewState} {executions : ComparamExecutions}
    (represents : Represents state.executions executions) {event : ViewEvent}
    (taken : state.step event = some next) :
    Represents next.executions (event.perform executions) := by
  cases event with
  | post id updateInProgress parameters =>
    cases taken
    cases updateInProgress with
    | false => exact represents.handlerWrite
    | true => exact represents
  | put id parameters =>
    cases taken
    exact represents.put
  | delete id =>
    cases taken
    exact represents.delete
  | get | locate | gather | answer =>
    simp only [ViewState.step] at taken
    repeat' split at taken
    all_goals cases taken <;> exact represents

/-- Whatever requests read in between, the ordered executions are those that the writing requests
make of a map by id. -/
theorem represents_of_run {events : List ViewEvent} {state : ViewState}
    (run : Run (fun state event next => state.step event = some next) .initial events state) :
    Represents state.executions
      (events.foldl (fun executions event => event.perform executions) ∅) := by
  induction run with
  | start => exact fun id execution => by simp [ViewState.initial, IndexMap.empty]
  | step _ taken represents =>
    rw [List.foldl_concat]
    exact represents.step taken

def deletedWhileRead : List ViewEvent :=
  [.post 1 false none, .get 0 1, .locate 0, .delete 1, .post 2 true none]

theorem represents_of_run_deletedWhileRead : ∃ state : ViewState, Represents state.executions
    (deletedWhileRead.foldl (fun executions event => event.perform executions) ∅) := by
  have ran : ∃ state, deletedWhileRead.foldlM ViewState.step .initial = some state := ⟨_, rfl⟩
  obtain ⟨state, folded⟩ := ran
  exact ⟨state, represents_of_run (.of_foldlM folded)⟩

/-- The request is under way in a state on the way. -/
def Moment (events : List ViewEvent) (call : Nat) (id : Uuid) (past : ViewState) : Prop :=
  ∃ front, front <+: events ∧
    Run (fun state event next => state.step event = some next) .initial front past ∧
    (past.calls call).IsOpen id

/-- The executions up to one are those of a single moment of the request. -/
def SeenAtOnce (events : List ViewEvent) (call : Nat) (id : Uuid)
    (executions : List ComparamExecution) : Prop :=
  ∃ past, Moment events call id past ∧ ∃ place execution,
    past.executions.getFull id = some (place, execution) ∧
      executions = (past.executions.front (place + 1)).map Prod.snd

/-- No request fails on an index, and what one answers is the view of a single moment. -/
structure ConsistentViews (events : List ViewEvent) (state : ViewState) : Prop where
  noPanic : ∀ call id, state.calls call ≠ .ended id .panicked
  seenAtOnce : ∀ call id status parameters, state.calls call = .ended id (.ok status parameters) →
      ∃ comparams executions, .answer call (.ok comparams) ∈ events ∧
        SeenAtOnce events call id executions ∧ parameters = overlay comparams executions

/-- While a request is between its reads, no execution before its own is removed, and one is
changed only as long as its own stands where and as it was read. -/
def KeepsLocated (state : ViewState) (event : ViewEvent) : Prop :=
  ∀ call id place execution, state.calls call = .located id place execution →
    match event with
    | .delete removed => removed ∉ (state.executions.front place).map Prod.fst
    | .post changed _ _ | .put changed _ =>
      changed ∈ (state.executions.front place).map Prod.fst →
        state.executions.getFull id = some (place, execution)
    | _ => True

section Writers

variable {executions : ExecutionOrder} {id changed : Uuid} {place : Nat}
  {execution : ComparamExecution} {updateInProgress : Bool} {parameters : Option Parameters}

/-- What a read of the executions before a place and of the one at the place relies on. -/
def Keeps (before after : ExecutionOrder) (place : Nat) (id : Uuid)
    (execution : ComparamExecution) : Prop :=
  after.front place = before.front place ∨ after.entries[place]? = some (id, execution)

theorem keeps_post (inside : place ≤ executions.entries.length)
    (keepsLocated : changed ∈ (executions.front place).map Prod.fst →
      executions.getFull id = some (place, execution)) :
    Keeps executions (executions.after
      (executions.handlerWrite updateInProgress changed parameters)) place id execution := by
  rw [ExecutionOrder.handlerWrite]
  split_ifs
  · exact .inl rfl
  · by_cases before : changed ∈ (executions.front place).map Prod.fst
    · have here := IndexMap.getFull_eq_some_iff.mp (keepsLocated before)
      exact .inr (IndexMap.getElem?_insert_of_ne (IndexMap.ne_of_mem_front before here) here)
    · exact .inl (IndexMap.front_insert inside before)

theorem keeps_put (keepsLocated : changed ∈ (executions.front place).map Prod.fst →
      executions.getFull id = some (place, execution)) :
    Keeps executions (executions.after (executions.put changed parameters)) place id
      execution := by
  rw [ExecutionOrder.put]
  split
  · exact .inl rfl
  · rw [ExecutionOrder.after]
    by_cases before : changed ∈ (executions.front place).map Prod.fst
    · have here := IndexMap.getFull_eq_some_iff.mp (keepsLocated before)
      exact .inr (IndexMap.getElem?_modify_of_ne (IndexMap.ne_of_mem_front before here) here)
    · exact .inl (IndexMap.front_modify before)

theorem keeps_delete (inside : place ≤ executions.entries.length)
    (keepsLocated : changed ∉ (executions.front place).map Prod.fst) :
    Keeps executions (executions.after (executions.delete changed)) place id execution := by
  rw [ExecutionOrder.delete]
  split
  · exact .inl rfl
  · exact .inl (IndexMap.front_shiftRemove inside keepsLocated)

end Writers

/-- A request goes from one phase to the next while the executions stay as they are. -/
inductive ViewMove (executions : ExecutionOrder) (call : Nat) (event : ViewEvent) :
    ViewCall → ViewCall → Prop
  | begin (id : Uuid) : ViewMove executions call event .absent (.begun id)
  | notFound (id : Uuid) : executions.getFull id = none →
      ViewMove executions call event (.begun id) (.ended id (.failed (executionNotFound id)))
  | locate (id : Uuid) (place : Nat) (execution : ComparamExecution) :
      executions.getFull id = some (place, execution) →
      ViewMove executions call event (.begun id) (.located id place execution)
  | gather (id : Uuid) (place : Nat) (execution : ComparamExecution) :
      place ≤ executions.entries.length →
      ViewMove executions call event (.located id place execution) (.gathered id execution.status
          ((executions.front place).map Prod.snd ++ [execution]))
  | panic (id : Uuid) (place : Nat) (execution : ComparamExecution) :
      executions.entries.length < place →
      ViewMove executions call event (.located id place execution) (.ended id .panicked)
  | answer (id : Uuid) (status : ExecutionStatus) (gathered : List ComparamExecution)
      (comparams : Text → Option JsonValue) : event = .answer call (.ok comparams) →
      ViewMove executions call event (.gathered id status gathered)
        (.ended id (.ok status (overlay comparams gathered)))
  | fail (id : Uuid) (status : ExecutionStatus) (gathered : List ComparamExecution)
      (error : ApiError) :
      ViewMove executions call event (.gathered id status gathered) (.ended id (.failed error))

/-- A step writes the executions or moves a request. -/
inductive ViewStep (state : ViewState) (event : ViewEvent) (next : ViewState) : Prop
  | write (executions : ExecutionOrder)
      (keeps : KeepsLocated state event → ∀ call id place execution,
        state.calls call = .located id place execution → place ≤ state.executions.entries.length →
            Keeps state.executions executions place id execution) :
      next = { state with executions := executions } → ViewStep state event next
  | move (call : Nat) (phase : ViewCall) :
      ViewMove state.executions call event (state.calls call) phase →
        next = state.moves call phase → ViewStep state event next

theorem ViewStep.of_step {state next : ViewState} {event : ViewEvent}
    (taken : state.step event = some next) : ViewStep state event next := by
  cases event with
  | post id updateInProgress parameters =>
    cases taken
    refine .write _ ?_ rfl
    intro keepsLocated call other place execution located inside
    exact keeps_post inside (keepsLocated call other place execution located)
  | put id parameters =>
    cases taken
    refine .write _ ?_ rfl
    intro keepsLocated call other place execution located inside
    exact keeps_put (keepsLocated call other place execution located)
  | delete id =>
    cases taken
    refine .write _ ?_ rfl
    intro keepsLocated call other place execution located inside
    exact keeps_delete inside (keepsLocated call other place execution located)
  | get call id =>
    rw [ViewState.step] at taken
    split at taken
    case h_1 absent =>
      cases taken
      exact .move call _ (absent ▸ .begin id) rfl
    case h_2 => cases taken
  | locate call =>
    rw [ViewState.step] at taken
    split at taken
    case h_1 id begun =>
      split at taken
      case h_1 missing =>
        cases taken
        exact .move call _ (begun ▸ .notFound id missing) rfl
      case h_2 place execution found =>
        cases taken
        exact .move call _ (begun ▸ .locate id place execution found) rfl
    case h_2 => cases taken
  | gather call =>
    rw [ViewState.step] at taken
    split at taken
    case h_1 id place execution located =>
      split_ifs at taken with inside
      · cases taken
        exact .move call _ (located ▸ .gather id place execution inside) rfl
      · cases taken
        exact .move call _ (located ▸ .panic id place execution (Nat.lt_of_not_le inside)) rfl
    case h_2 => cases taken
  | answer call comparams =>
    rw [ViewState.step] at taken
    split at taken
    case h_1 id status executions gathered =>
      cases comparams with
      | ok comparams =>
        cases taken
        exact .move call _ (gathered ▸ .answer id status executions comparams rfl) rfl
      | error error =>
        cases taken
        exact .move call _ (gathered ▸ .fail id status executions error) rfl
    case h_2 => cases taken

section Runs

variable {events : List ViewEvent} {event : ViewEvent} {state next past : ViewState}
  {call : Nat} {id : Uuid} {executions : List ComparamExecution}

theorem Moment.later (moment : Moment events call id past) (event : ViewEvent) :
    Moment (events ++ [event]) call id past := by
  obtain ⟨front, before, run, isOpen⟩ := moment
  exact ⟨front, before.trans (List.prefix_append events [event]), run, isOpen⟩

theorem SeenAtOnce.later (seen : SeenAtOnce events call id executions) (event : ViewEvent) :
    SeenAtOnce (events ++ [event]) call id executions := by
  obtain ⟨past, moment, rest⟩ := seen
  exact ⟨past, moment.later event, rest⟩

/-- The request stands in a past state as it was read, and what was listed before it then is
listed before it now. -/
structure LocatedAt (events : List ViewEvent) (state : ViewState) (call : Nat) (id : Uuid)
    (place : Nat) (execution : ComparamExecution) (past : ViewState) : Prop where
  moment : Moment events call id past
  here : past.executions.entries[place]? = some (id, execution)
  front : past.executions.front place = state.executions.front place

theorem LocatedAt.inside {place : Nat} {execution : ComparamExecution}
    (located : LocatedAt events state call id place execution past) :
    place ≤ state.executions.entries.length := by
  obtain ⟨inside, _⟩ := List.getElem?_eq_some_iff.mp located.here
  have lengths := congrArg List.length located.front
  simp only [IndexMap.front, List.length_take] at lengths
  omega

/-- What a request has gathered so far comes from one moment. -/
structure Viewed (events : List ViewEvent) (state : ViewState) : Prop where
  reached : Run (fun state event next => state.step event = some next) .initial events state
  located : ∀ call id place execution, state.calls call = .located id place execution →
    ∃ past, LocatedAt events state call id place execution past
  gathered : ∀ call id status executions, state.calls call = .gathered id status executions →
    SeenAtOnce events call id executions
  consistent : ConsistentViews events state

theorem viewed_initial : Viewed [] .initial where
  reached := .start
  located := by
    intro call id place execution located
    cases located
  gathered := by
    intro call id status executions gathered
    cases gathered
  consistent :=
    { noPanic := by
        intro call id panicked
        cases panicked
      seenAtOnce := by
        intro call id status parameters ended
        cases ended }

theorem ConsistentViews.write (consistent : ConsistentViews events state)
    (executions : ExecutionOrder) (event : ViewEvent) :
    ConsistentViews (events ++ [event]) { state with executions := executions } where
  noPanic := consistent.noPanic
  seenAtOnce := by
    intro call id status parameters ended
    obtain ⟨comparams, gathered, answered, seen, same⟩ :=
      consistent.seenAtOnce call id status parameters ended
    exact ⟨comparams, gathered, List.mem_append_left _ answered, seen.later event, same⟩

/-- A write leaves the past moments, or makes the present one the moment of a request. -/
theorem Viewed.write (viewed : Viewed events state) (executions : ExecutionOrder)
    (reached : Run (fun state event next => state.step event = some next) .initial
      (events ++ [event]) { state with executions := executions })
    (keeps : ∀ call id place execution, state.calls call = .located id place execution →
      place ≤ state.executions.entries.length →
        Keeps state.executions executions place id execution) :
    Viewed (events ++ [event]) { state with executions := executions } where
  reached := reached
  located := by
    intro call id place execution isLocated
    obtain ⟨past, located⟩ := viewed.located call id place execution isLocated
    obtain same | here := keeps call id place execution isLocated located.inside
    · exact ⟨past, located.moment.later event, located.here, located.front.trans same.symm⟩
    · refine ⟨{ state with executions := executions }, ⟨_, List.prefix_rfl, reached, ?_⟩, here, rfl⟩
      change (state.calls call).IsOpen id
      rw [isLocated]
      rfl
  gathered := by
    intro call id status gathered isGathered
    exact (viewed.gathered call id status gathered isGathered).later event
  consistent := viewed.consistent.write executions event

theorem seenAtOnce_of_gather {place : Nat} {execution : ComparamExecution}
    (located : LocatedAt events state call id place execution past) :
    SeenAtOnce events call id ((state.executions.front place).map Prod.snd ++ [execution]) := by
  refine ⟨past, located.moment, place, execution, IndexMap.getFull_eq_some_iff.mpr located.here, ?_⟩
  have front : past.executions.front (place + 1) =
      past.executions.front place ++ [(id, execution)] := by
    rw [IndexMap.front, List.take_add_one, located.here]
    rfl
  rw [front, located.front, List.map_append]
  rfl

theorem calls_moves {other : Nat} {phase : ViewCall} (state : ViewState) :
    (state.moves call phase).calls other =
      if other = call then phase else state.calls other := by
  rw [ViewState.moves]
  simp [Function.update_apply]

section Moves

variable {order : ExecutionOrder} {before : ViewCall} {place : Nat} {execution : ComparamExecution}
  {status : ExecutionStatus} {parameters : Text → Option JsonValue}

theorem ViewMove.of_located
    (moved : ViewMove order call event before (.located id place execution)) :
    before = .begun id ∧ order.getFull id = some (place, execution) := by
  cases moved with
  | locate id place execution found => exact ⟨rfl, found⟩

theorem ViewMove.of_gathered
    (moved : ViewMove order call event before (.gathered id status executions)) :
    ∃ place execution, before = .located id place execution ∧
      executions = (order.front place).map Prod.snd ++ [execution] := by
  cases moved with
  | gather id place execution _ => exact ⟨place, execution, rfl, rfl⟩

theorem ViewMove.of_panicked (moved : ViewMove order call event before (.ended id .panicked)) :
    ∃ place execution, before = .located id place execution ∧ order.entries.length < place := by
  cases moved with
  | panic id place execution outside => exact ⟨place, execution, rfl, outside⟩

theorem ViewMove.of_ok
    (moved : ViewMove order call event before (.ended id (.ok status parameters))) :
    ∃ gathered comparams, before = .gathered id status gathered ∧
      event = .answer call (.ok comparams) ∧ parameters = overlay comparams gathered := by
  cases moved with
  | answer id status gathered comparams answered => exact ⟨gathered, comparams, rfl, answered, rfl⟩

end Moves

section

variable {phase : ViewCall} (viewed : Viewed events state)
  (moved : ViewMove state.executions call event (state.calls call) phase)

include viewed moved

theorem ConsistentViews.move : ConsistentViews (events ++ [event]) (state.moves call phase) where
  noPanic := by
    intro other id panicked
    rw [calls_moves] at panicked
    split_ifs at panicked
    · subst panicked
      obtain ⟨place, execution, isLocated, outside⟩ := moved.of_panicked
      obtain ⟨past, located⟩ := viewed.located call id place execution isLocated
      exact absurd located.inside (Nat.not_le.mpr outside)
    · exact viewed.consistent.noPanic other id panicked
  seenAtOnce := by
    intro other id status parameters ended
    rw [calls_moves] at ended
    split_ifs at ended with same
    · subst same ended
      obtain ⟨gathered, comparams, isGathered, rfl, overlaid⟩ := moved.of_ok
      have seen := viewed.gathered other id status gathered isGathered
      exact ⟨comparams, gathered, by simp, seen.later _, overlaid⟩
    · obtain ⟨comparams, gathered, answered, seen, overlaid⟩ :=
        viewed.consistent.seenAtOnce other id status parameters ended
      exact ⟨comparams, gathered, List.mem_append_left _ answered, seen.later event, overlaid⟩

theorem Viewed.move
    (reached : Run (fun state event next => state.step event = some next) .initial
      (events ++ [event]) (state.moves call phase)) :
    Viewed (events ++ [event]) (state.moves call phase) where
  reached := reached
  located := by
    intro other id place execution isLocated
    rw [calls_moves] at isLocated
    split_ifs at isLocated with same
    · subst same isLocated
      obtain ⟨begun, found⟩ := moved.of_located
      have isOpen : (state.calls other).IsOpen id := by
        rw [begun]
        rfl
      exact ⟨state, ⟨events, List.prefix_append events [event], viewed.reached, isOpen⟩,
        IndexMap.getFull_eq_some_iff.mp found, rfl⟩
    · obtain ⟨past, located⟩ := viewed.located other id place execution isLocated
      exact ⟨past, located.moment.later event, located.here, located.front⟩
  gathered := by
    intro other id status gathered isGathered
    rw [calls_moves] at isGathered
    split_ifs at isGathered with same
    · subst same isGathered
      obtain ⟨place, execution, isLocated, rfl⟩ := moved.of_gathered
      obtain ⟨past, located⟩ := viewed.located other id place execution isLocated
      exact (seenAtOnce_of_gather located).later event
    · exact (viewed.gathered other id status gathered isGathered).later event
  consistent := ConsistentViews.move viewed moved

end

theorem Viewed.step (viewed : Viewed events state) (taken : state.step event = some next)
    (keepsLocated : KeepsLocated state event) : Viewed (events ++ [event]) next := by
  have reached : Run (fun state event next => state.step event = some next) .initial
      (events ++ [event]) next := .step viewed.reached taken
  cases ViewStep.of_step taken with
  | write executions keeps same =>
    subst same
    exact viewed.write executions reached (keeps keepsLocated)
  | move call phase moved same =>
    subst same
    exact viewed.move moved reached

/-- Views are consistent in every run in which no request disturbs another between its reads. -/
theorem consistentViews_of_run
    (run : Run (fun state event next => state.step event = some next ∧ KeepsLocated state event)
      .initial events state) : ConsistentViews events state := by
  have viewed : Viewed events state := by
    apply run.keeps Viewed viewed_initial
    rintro events event state next viewed ⟨taken, keepsLocated⟩
    exact viewed.step taken keepsLocated
  exact viewed.consistent

end Runs

def speed : Text := "speed".toList

def speedOverride (digit : Char) : Option Parameters := some [(speed, .string [digit])]

/-- An older execution is changed while the request is between its reads, and one is added. -/
def comparamRequest : List ViewEvent :=
  [.post 1 false (speedOverride '1'), .post 2 false (speedOverride '2'), .get 0 2, .locate 0,
    .put 1 (speedOverride '3'), .post 3 false none, .gather 0,
    .answer 0 (.ok fun _ => none)]

theorem consistentViews_comparamRequest : ∃ state parameters,
    ConsistentViews comparamRequest state ∧
      state.calls 0 = .ended 2 (.ok .running parameters) ∧
      parameters speed = some (.string ['2']) := by
  have run : ∃ state parameters, Run (fun state event next => state.step event = some next ∧
      KeepsLocated state event) .initial ([] ++ [.post 1 false (speedOverride '1')] ++
        [.post 2 false (speedOverride '2')] ++ [.get 0 2] ++ [.locate 0] ++
        [.put 1 (speedOverride '3')] ++ [.post 3 false none] ++ [.gather 0] ++
        [.answer 0 (.ok fun _ => none)]) state ∧
      state.calls 0 = .ended 2 (.ok .running parameters) ∧
      parameters speed = some (.string ['2']) := by
    refine ⟨_, _, .step (.step (.step (.step (.step (.step (.step (.step .start ⟨rfl, ?_⟩)
      ⟨rfl, ?_⟩) ⟨rfl, ?_⟩) ⟨rfl, ?_⟩) ⟨rfl, ?_⟩) ⟨rfl, ?_⟩) ⟨rfl, ?_⟩) ⟨rfl, ?_⟩, rfl, rfl⟩
    · rintro call id place execution located
      cases located
    · rintro call id place execution located
      cases located
    · rintro call id place execution located
      trivial
    · rintro call id place execution located
      trivial
    · rintro call id place execution located changed
      cases call with
      | zero =>
        cases located
        rfl
      | succ call => cases located
    · rintro call id place execution located changed
      cases call with
      | zero =>
        cases located
        rfl
      | succ call => cases located
    · rintro call id place execution located
      trivial
    · rintro call id place execution located
      trivial
  obtain ⟨state, parameters, run, answered, shown⟩ := run
  exact ⟨state, parameters, consistentViews_of_run run, answered, shown⟩

/-- Two executions before the own one are removed between the reads. -/
def removedBetween : List ViewEvent :=
  [.post 1 false none, .post 2 false none, .post 3 false none, .get 0 3, .locate 0, .delete 1,
    .delete 2, .gather 0]

theorem not_consistentViews : ¬∀ (events : List ViewEvent) (state : ViewState),
    Run (fun state event next => state.step event = some next) .initial events state →
      ConsistentViews events state := by
  intro everyRunConsistent
  have ran : ∃ state, removedBetween.foldlM ViewState.step .initial = some state ∧
      state.calls 0 = .ended 3 .panicked := ⟨_, rfl, rfl⟩
  obtain ⟨state, folded, panicked⟩ := ran
  exact (everyRunConsistent removedBetween state (.of_foldlM folded)).noPanic 0 3 panicked

end DiagnosticAdapter.Sovd
