import Mathlib.Data.List.Basic

/-!
# Programs that take one step at a time

A program acts on a state through single steps.  The surroundings decide which
steps fail and in which order a directory-like listing is returned; the
program records the state after every step, so that a statement about
"stopping anywhere" is a statement about the recorded states.
-/

namespace DiagnosticAdapter.Effects

/-- What the surroundings decide; a step is known by the `Site` in the program text and the number
of steps before it. -/
structure Env (Site Name : Type) where
  /-- Whether the step taken at this site and clock fails. -/
  fails : Site → Nat → Bool
  /-- The order in which names are listed. -/
  order : Nat → List Name → List Name
  /-- A listing returns every name exactly as often as it occurs. -/
  order_perm : ∀ clock names, (order clock names).Perm names

/-- No step of the site fails by itself. -/
def Env.Faultless {Site Name : Type} (env : Env Site Name) (site : Site) : Prop :=
  ∀ clock, env.fails site clock = false

/-- The surroundings in which no step fails and listings keep their order. -/
def Env.calm (Site Name : Type) : Env Site Name where
  fails _ _ := false
  order _ names := names
  order_perm _ _ := .refl _

@[simp]
theorem Env.calm_faultless {Site Name : Type} (site : Site) :
    (Env.calm Site Name).Faultless site := fun _ => rfl

/-- The outcome of a run: the result, the clock and state at its end, and the
states after each of its steps. -/
structure Outcome (State Error Result : Type) where
  result : Except Error Result
  clock : Nat
  state : State
  trace : List State

/-- A program reads its surroundings, the site it runs at, the clock and the
state. -/
def Program (Site Name State Error Result : Type) : Type :=
  Env Site Name → Site → Nat → State → Outcome State Error Result

namespace Program

variable {Site Name State Error Result Result' : Type}

/-- Run the second program from where the first one ended successfully. -/
def andThen (first : Program Site Name State Error Result)
    (second : Result → Program Site Name State Error Result') :
    Program Site Name State Error Result' :=
  fun env site clock state =>
    let before := first env site clock state
    match before.result with
    | .error error => ⟨.error error, before.clock, before.state, before.trace⟩
    | .ok value =>
      let after := second value env site before.clock before.state
      { after with trace := before.trace ++ after.trace }

instance : Monad (Program Site Name State Error) where
  pure value := fun _ _ clock state => ⟨.ok value, clock, state, []⟩
  bind := andThen

variable {second : Result → Program Site Name State Error Result'}
  {first : Program Site Name State Error Result} {env : Env Site Name}

section

variable {site : Site} {clock : Nat}

theorem bind_of_error {state : State} {error : Error}
    (ended : (first env site clock state).result = .error error) :
    (first >>= second) env site clock state = ⟨.error error, (first env site clock state).clock,
        (first env site clock state).state, (first env site clock state).trace⟩ := by
  change andThen first second env site clock state = _
  simp only [andThen, ended]

theorem bind_of_ok {state : State} {value : Result}
    (ended : (first env site clock state).result = .ok value) :
    (first >>= second) env site clock state =
      let after := second value env site (first env site clock state).clock
        (first env site clock state).state
      { after with trace := (first env site clock state).trace ++ after.trace } := by
  change andThen first second env site clock state = _
  simp only [andThen, ended]

theorem mem_trace_bind {state passed : State} (mem : passed ∈ (first env site clock state).trace) :
    passed ∈ ((first >>= second) env site clock state).trace := by
  cases ended : (first env site clock state).result with
  | error error =>
    rw [bind_of_error ended]
    exact mem
  | ok value =>
    rw [bind_of_ok ended]
    exact List.mem_append_left _ mem

end

def fail (error : Error) : Program Site Name State Error Result :=
  fun _ _ clock state => ⟨.error error, clock, state, []⟩

/-- Continue with a result that was computed without any step. -/
def ofExcept (value : Except Error Result) : Program Site Name State Error Result :=
  fun _ _ clock state => ⟨value, clock, state, []⟩

def look (query : State → Result) : Program Site Name State Error Result :=
  fun _ _ clock state => ⟨.ok (query state), clock, state, []⟩

/-- Take one step.  A step that fails leaves the state as it was. -/
def step (fault : Error) (change : State → Except Error State) :
    Program Site Name State Error Unit :=
  fun env site clock state =>
    if env.fails site clock then ⟨.error fault, clock + 1, state, [state]⟩
    else
      match change state with
      | .ok next => ⟨.ok (), clock + 1, next, [next]⟩
      | .error error => ⟨.error error, clock + 1, state, [state]⟩

/-- List names in the order the surroundings choose. -/
def list (fault : Error) (names : State → Except Error (List Name)) :
    Program Site Name State Error (List Name) :=
  fun env site clock state =>
    if env.fails site clock then ⟨.error fault, clock + 1, state, [state]⟩
    else
      match names state with
      | .ok found => ⟨.ok (env.order clock found), clock + 1, state, [state]⟩
      | .error error => ⟨.error error, clock + 1, state, [state]⟩

/-- Hand an error of the program to the caller as a value. -/
def attempt (program : Program Site Name State Error Result) :
    Program Site Name State Error (Except Error Result) :=
  fun env site clock state =>
    let after := program env site clock state
    ⟨.ok after.result, after.clock, after.state, after.trace⟩

def within (site : Site) (program : Program Site Name State Error Result) :
    Program Site Name State Error Result :=
  fun env _ clock state => program env site clock state

/-- Run the program only if the condition holds. -/
def whenever (condition : Bool) (program : Program Site Name State Error Unit) :
    Program Site Name State Error Unit :=
  if condition then program else pure ()

/-- Run the body for each item in turn, stopping at the first error. -/
def forEach {Item : Type} (items : List Item) (body : Item → Program Site Name State Error Unit) :
    Program Site Name State Error Unit :=
  match items with
  | [] => pure ()
  | item :: rest => do
    body item
    forEach rest body

/-- Every state at which a run can stop: before its first step or after any of
its steps. -/
def stops (program : Program Site Name State Error Result)
    (env : Env Site Name) (site : Site) (clock : Nat) (state : State) : List State :=
  state :: (program env site clock state).trace

end Program

/-- Every state the run passed has `during`, a successful end has `post`, a
failed one has `failed`. -/
def Outcome.Meets {State Error Result : Type} (outcome : Outcome State Error Result)
    (post : Result → State → Prop) (failed during : State → Prop) : Prop :=
  (∀ passed ∈ outcome.trace, during passed) ∧
    match outcome.result with
    | .ok value => post value outcome.state
    | .error _ => failed outcome.state

theorem Outcome.Meets.of_ok {State Error Result : Type} {outcome : Outcome State Error Result}
    {post : Result → State → Prop} {failed during : State → Prop} {value : Result}
    (meets : outcome.Meets post failed during) (ended : outcome.result = .ok value) :
    post value outcome.state := by
  have last := meets.2
  rw [ended] at last
  exact last

theorem Outcome.Meets.of_error {State Error Result : Type} {outcome : Outcome State Error Result}
    {post : Result → State → Prop} {failed during : State → Prop} {error : Error}
    (meets : outcome.Meets post failed during) (ended : outcome.result = .error error) :
    failed outcome.state := by
  have last := meets.2
  rw [ended] at last
  exact last

theorem Outcome.Meets.state {State Error Result : Type} {outcome : Outcome State Error Result}
    {kept during : State → Prop} (meets : outcome.Meets (fun _ => kept) kept during) :
    kept outcome.state := by
  cases ended : outcome.result with
  | ok value => exact meets.of_ok ended
  | error error => exact meets.of_error ended

theorem Outcome.Meets.succeeds {State Error Result : Type} {outcome : Outcome State Error Result}
    {post : Result → State → Prop} {during : State → Prop}
    (meets : outcome.Meets post (fun _ => False) during) :
    ∃ value, outcome.result = .ok value ∧ post value outcome.state := by
  cases ended : outcome.result with
  | ok value => exact ⟨value, rfl, meets.of_ok ended⟩
  | error error => exact (meets.of_error ended).elim

theorem Outcome.Meets.and {State Error Result : Type} {outcome : Outcome State Error Result}
    {post post' : Result → State → Prop} {failed failed' during during' : State → Prop}
    (one : outcome.Meets post failed during) (two : outcome.Meets post' failed' during') :
    outcome.Meets (fun value state => post value state ∧ post' value state)
      (fun state => failed state ∧ failed' state)
      (fun state => during state ∧ during' state) := by
  refine ⟨fun passed mem => ⟨one.1 passed mem, two.1 passed mem⟩, ?_⟩
  cases ended : outcome.result with
  | ok value => exact ⟨one.of_ok ended, two.of_ok ended⟩
  | error error => exact ⟨one.of_error ended, two.of_error ended⟩

theorem Outcome.Meets.bind {Site Name State Error Result Result' : Type}
    {first : Program Site Name State Error Result}
    {second : Result → Program Site Name State Error Result'}
    {middle : Result → State → Prop} {post : Result' → State → Prop}
    {failed during : State → Prop}
    {env : Env Site Name} {site : Site} {clock : Nat} {state : State}
    (one : (first env site clock state).Meets middle failed during)
    (two : ∀ value, (first env site clock state).result = .ok value →
      middle value (first env site clock state).state →
      (second value env site (first env site clock state).clock
        (first env site clock state).state).Meets post failed during) :
    ((first >>= second) env site clock state).Meets post failed during := by
  obtain ⟨passedFirst, endFirst⟩ := one
  cases ended : (first env site clock state).result with
  | error error =>
    rw [ended] at endFirst
    rw [Program.bind_of_error ended]
    exact ⟨passedFirst, endFirst⟩
  | ok value =>
    rw [ended] at endFirst
    obtain ⟨passedSecond, endSecond⟩ := two value ended endFirst
    rw [Program.bind_of_ok ended]
    refine ⟨?_, endSecond⟩
    intro passed mem
    rcases List.mem_append.mp mem with early | late
    · exact passedFirst passed early
    · exact passedSecond passed late

theorem Outcome.Meets.failing {State Error Result : Type} {outcome : Outcome State Error Result}
    {post : Result → State → Prop} {failed failed' during during' : State → Prop}
    (meets : outcome.Meets post failed during) (passes : ∀ state, during state → during' state)
    (fails : ∀ error, outcome.result = .error error → failed outcome.state →
      failed' outcome.state) : outcome.Meets post failed' during' := by
  obtain ⟨passed, ended⟩ := meets
  refine ⟨fun state mem => passes state (passed state mem), ?_⟩
  cases result : outcome.result with
  | ok value =>
    rw [result] at ended
    exact ended
  | error error =>
    rw [result] at ended
    exact fails error result ended

theorem Outcome.Meets.weaken {State Error Result : Type} {outcome : Outcome State Error Result}
    {post post' : Result → State → Prop} {failed failed' during during' : State → Prop}
    (meets : outcome.Meets post failed during)
    (returns : ∀ value state, post value state → post' value state)
    (fails : ∀ state, failed state → failed' state)
    (passes : ∀ state, during state → during' state) : outcome.Meets post' failed' during' := by
  obtain ⟨passed, ended⟩ := meets
  refine ⟨fun state mem => passes state (passed state mem), ?_⟩
  cases result : outcome.result with
  | ok value =>
    rw [result] at ended
    exact returns value _ ended
  | error error =>
    rw [result] at ended
    exact fails _ ended

theorem Outcome.Meets.attempt {Site Name State Error Result : Type}
    {program : Program Site Name State Error Result} {post : Result → State → Prop}
    {caught failed during : State → Prop}
    {env : Env Site Name} {site : Site} {clock : Nat} {state : State}
    (inner : (program env site clock state).Meets post caught during) :
    (program.attempt env site clock state).Meets (fun result reached => match result with
        | .ok value => post value reached
        | .error _ => caught reached) failed during := by
  obtain ⟨passed, ended⟩ := inner
  exact ⟨passed, ended⟩

/-- From a state with `pre`, in surroundings that are `admitted`, every run
meets the conditions. -/
def Triple {Site Name State Error Result : Type}
    (admitted : Env Site Name → Site → Prop) (pre : State → Prop)
    (program : Program Site Name State Error Result)
    (post : Result → State → Prop) (failed during : State → Prop) : Prop :=
  ∀ env site clock state, admitted env site → pre state →
    (program env site clock state).Meets post failed during

/-- A state that a fault of the surroundings leaves behind counts as failed. -/
def Tolerates {Site Name State : Type} (admitted : Env Site Name → Site → Prop)
    (during failed : State → Prop) : Prop :=
  ∀ env site, admitted env site → ¬ env.Faultless site → ∀ state, during state → failed state

theorem Tolerates.faultless {Site Name State : Type} {during failed : State → Prop} :
    Tolerates (Env.Faultless : Env Site Name → Site → Prop) during failed :=
  fun _ _ clean faulty => absurd clean faulty

theorem Tolerates.weaken {Site Name State : Type} {admitted : Env Site Name → Site → Prop}
    {during during' failed : State → Prop} (tolerates : Tolerates admitted during failed)
    (implies : ∀ state, during' state → during state) : Tolerates admitted during' failed :=
  fun env site allowed faulty state passed =>
    tolerates env site allowed faulty state (implies state passed)

namespace Triple

open Program

variable {Site Name State Error Result Result' : Type}
  {admitted : Env Site Name → Site → Prop}
  {pre : State → Prop} {failed during : State → Prop}

variable {post : Result → State → Prop}

theorem pure {value : Result} (holds : ∀ state, pre state → post value state) : Triple admitted pre
      (Pure.pure value : Program Site Name State Error Result) post failed during := by
  intro env site clock state _ start
  exact ⟨by simp [Pure.pure], holds state start⟩

theorem fail {error : Error} (holds : ∀ state, pre state → failed state) : Triple admitted pre
      (Program.fail error : Program Site Name State Error Result) post failed during := by
  intro env site clock state _ start
  exact ⟨by simp [Program.fail], holds state start⟩

theorem look {query : State → Result} (holds : ∀ state, pre state → post (query state) state) :
    Triple admitted pre
      (Program.look query : Program Site Name State Error Result) post failed during := by
  intro env site clock state _ start
  exact ⟨by simp [Program.look], holds state start⟩

variable {change : State → Except Error State} {fault : Error}

theorem step {post : Unit → State → Prop} (stays : ∀ state, pre state → during state)
    (faulty : ∀ env site, admitted env site → ¬ env.Faultless site →
      ∀ state, pre state → failed state)
    (moves : ∀ state next, pre state → change state = .ok next → during next ∧ post () next)
    (refuses : ∀ state error, pre state → change state = .error error → failed state) :
    Triple admitted pre (Program.step fault change : Program Site Name State Error Unit)
      post failed during := by
  intro env site clock state allowed start
  unfold Program.step
  by_cases faulted : env.fails site clock = true
  · have notFaultless : ¬ env.Faultless site := fun clean => by
      simp [clean clock] at faulted
    simp only [faulted, if_true]
    exact ⟨by simpa using stays state start, faulty env site allowed notFaultless state start⟩
  · simp only [faulted, Bool.false_eq_true, if_false]
    cases changed : change state with
    | ok next =>
      have reached := moves state next start changed
      exact ⟨by simpa using reached.1, reached.2⟩
    | error error =>
      exact ⟨by simpa using stays state start, refuses state error start changed⟩

theorem list {fault : Error} {names : State → Except Error (List Name)}
    {post : List Name → State → Prop}
    (stays : ∀ state, pre state → during state)
    (faulty : ∀ env site, admitted env site → ¬ env.Faultless site →
      ∀ state, pre state → failed state)
    (lists : ∀ state found listed, pre state → names state = .ok found →
      listed.Perm found → post listed state)
    (refuses : ∀ state error, pre state → names state = .error error → failed state) :
    Triple admitted pre (Program.list fault names : Program Site Name State Error (List Name))
      post failed during := by
  intro env site clock state allowed start
  unfold Program.list
  by_cases faulted : env.fails site clock = true
  · have notFaultless : ¬ env.Faultless site := fun clean => by
      simp [clean clock] at faulted
    simp only [faulted, if_true]
    exact ⟨by simpa using stays state start, faulty env site allowed notFaultless state start⟩
  · simp only [faulted, Bool.false_eq_true, if_false]
    cases listed : names state with
    | ok found =>
      exact ⟨by simpa using stays state start,
        lists state found _ start listed (env.order_perm clock found)⟩
    | error error =>
      exact ⟨by simpa using stays state start, refuses state error start listed⟩

theorem bind {first : Program Site Name State Error Result}
    {second : Result → Program Site Name State Error Result'}
    {middle : Result → State → Prop} {post : Result' → State → Prop}
    (one : Triple admitted pre first middle failed during)
    (two : ∀ value, Triple admitted (middle value) (second value) post failed during) :
    Triple admitted pre (first >>= second) post failed during := by
  intro env site clock state allowed start
  exact (one env site clock state allowed start).bind fun value _ reached =>
    two value env site _ _ allowed reached

section

variable (tolerates : Tolerates admitted during failed) (stays : ∀ state, pre state → during state)

include tolerates stays

theorem safeStep {post : Unit → State → Prop}
    (moves : ∀ state next, pre state → change state = .ok next → during next ∧ post () next)
    (accepts : ∀ state error, pre state → change state ≠ .error error) :
    Triple admitted pre (Program.step fault change : Program Site Name State Error Unit)
      post failed during :=
  step stays (fun env site allowed faulty state start =>
      tolerates env site allowed faulty state (stays state start))
    moves fun state error start refused => absurd refused (accepts state error start)

theorem safeList {names : State → Except Error (List Name)} {post : List Name → State → Prop}
    (lists : ∀ state found listed, pre state → names state = .ok found → listed.Perm found →
      post listed state)
    (accepts : ∀ state error, pre state → names state ≠ .error error) :
    Triple admitted pre (Program.list fault names : Program Site Name State Error (List Name))
      post failed during :=
  list stays (fun env site allowed faulty state start =>
      tolerates env site allowed faulty state (stays state start))
    lists fun state error start refused => absurd refused (accepts state error start)

end

theorem calmStep {post : Unit → State → Prop} (stays : ∀ state, pre state → during state)
    (moves : ∀ state next, pre state → change state = .ok next → during next ∧ post () next)
    (accepts : ∀ state error, pre state → change state ≠ .error error) :
    Triple Env.Faultless pre
      (Program.step fault change : Program Site Name State Error Unit) post failed during :=
  safeStep .faultless stays moves accepts

theorem calmList {names : State → Except Error (List Name)} {post : List Name → State → Prop}
    (stays : ∀ state, pre state → during state)
    (lists : ∀ state found listed, pre state → names state = .ok found →
      listed.Perm found → post listed state)
    (accepts : ∀ state error, pre state → names state ≠ .error error) :
    Triple Env.Faultless pre (Program.list fault names : Program Site Name State Error (List Name))
      post failed during :=
  safeList .faultless stays lists accepts

variable {program : Program Site Name State Error Result}

theorem given {Ghost : Type} (value : State → Ghost)
    (each : ∀ ghost, Triple admitted (fun state => pre state ∧ value state = ghost)
      program post failed during) :
    Triple admitted pre program post failed during :=
  fun env site clock state allowed start =>
    each (value state) env site clock state allowed ⟨start, rfl⟩

theorem assume (fact : Prop) (holds : ∀ state, pre state → fact)
    (inner : fact → Triple admitted pre program post failed during) :
    Triple admitted pre program post failed during :=
  fun env site clock state allowed start =>
    inner (holds state start) env site clock state allowed start

theorem lookThen {query : State → Result}
    {second : Result → Program Site Name State Error Result'} {post : Result' → State → Prop}
    (rest : ∀ value, Triple admitted (fun state => pre state ∧ query state = value)
      (second value) post failed during) :
    Triple admitted pre (Program.look query >>= second) post failed during :=
  bind (look fun _ start => ⟨start, rfl⟩) rest

theorem ofExcept {value : Except Error Result}
    (returned : ∀ result, value = .ok result → ∀ state, pre state → post result state)
    (raised : ∀ error, value = .error error → ∀ state, pre state → failed state) :
    Triple admitted pre
      (Program.ofExcept value : Program Site Name State Error Result) post failed during := by
  intro env site clock state _ start
  refine ⟨by simp [Program.ofExcept], ?_⟩
  cases value with
  | ok result => exact returned result rfl state start
  | error error => exact raised error rfl state start

theorem ofExceptThen {value : Except Error Result} {result : Result}
    {second : Result → Program Site Name State Error Result'} {post : Result' → State → Prop}
    (computed : value = .ok result)
    (rest : Triple admitted pre (second result) post failed during) :
    Triple admitted pre (Program.ofExcept value >>= second) post failed during := by
  intro env site clock state allowed start
  subst computed
  exact rest env site clock state allowed start

theorem whenever {condition : Bool} {program : Program Site Name State Error Unit}
    {post : Unit → State → Prop}
    (runs : condition = true → Triple admitted pre program post failed during)
    (skips : condition = false → ∀ state, pre state → post () state) :
    Triple admitted pre (Program.whenever condition program) post failed during := by
  unfold Program.whenever
  cases condition with
  | false => exact pure (skips rfl)
  | true => exact runs rfl

theorem attempt {caught : State → Prop} {after : Except Error Result → State → Prop}
    (inner : Triple admitted pre program post caught during)
    (returned : ∀ value state, post value state → after (.ok value) state)
    (raised : ∀ error state, caught state → after (.error error) state) :
    Triple admitted pre (program.attempt) after failed during := by
  intro env site clock state allowed start
  obtain ⟨passed, ended⟩ := inner env site clock state allowed start
  refine ⟨passed, ?_⟩
  change after (program env site clock state).result (program env site clock state).state
  cases result : (program env site clock state).result with
  | ok value =>
    rw [result] at ended
    exact returned value _ ended
  | error error =>
    rw [result] at ended
    exact raised error _ ended

theorem within {target : Site}
    (inner : Triple (fun env site => site = target ∧ ∃ outer, admitted env outer)
      pre program post failed during) :
    Triple admitted pre (program.within target) post failed during :=
  fun env site clock state allowed start =>
    inner env target clock state ⟨rfl, site, allowed⟩ start

/-- The loop rule: `kept` relates the items still to come to the state. -/
theorem forEach {Item : Type} {body : Item → Program Site Name State Error Unit}
    {kept : List Item → State → Prop}
    (turn : ∀ item rest, Triple admitted (kept (item :: rest)) (body item)
      (fun _ => kept rest) failed during) (items : List Item) :
    Triple admitted (kept items) (Program.forEach items body) (fun _ => kept []) failed during := by
  induction items with
  | nil => exact Triple.pure fun _ start => start
  | cons item rest ih =>
    exact Triple.bind (turn item rest) fun _ => ih

theorem consequence {admitted' : Env Site Name → Site → Prop} {pre' failed' during' : State → Prop}
    {post post' : Result → State → Prop}
    (inner : Triple admitted pre program post failed during)
    (allows : ∀ env site, admitted' env site → admitted env site)
    (strengthen : ∀ state, pre' state → pre state)
    (weaken : ∀ value state, post value state → post' value state)
    (weakenFailed : ∀ state, failed state → failed' state)
    (weakenDuring : ∀ state, during state → during' state) :
    Triple admitted' pre' program post' failed' during' := by
  intro env site clock state allowed start
  exact (inner env site clock state (allows env site allowed) (strengthen state start)).weaken
    weaken weakenFailed weakenDuring

end Triple

/-- Wherever the program stops, with or without an error, the property that
held before still holds. -/
def Program.Keeps {Site Name State Error Result : Type} (kept : State → Prop)
    (program : Program Site Name State Error Result) : Prop :=
  Triple (fun _ _ => True) kept program (fun _ => kept) kept kept

namespace Program.Keeps

variable {Site Name State Error Result Result' : Type} {kept : State → Prop}

theorem anything (program : Program Site Name State Error Result) :
    program.Keeps fun _ => True := by
  intro env site clock state _ _
  refine ⟨fun _ _ => trivial, ?_⟩
  cases (program env site clock state).result with
  | ok value => trivial
  | error error => trivial

theorem pure (value : Result) :
    Keeps kept (Pure.pure value : Program Site Name State Error Result) :=
  Triple.pure fun _ start => start

theorem look (query : State → Result) :
    Keeps kept (Program.look query : Program Site Name State Error Result) :=
  Triple.look fun _ start => start

theorem fail (error : Error) :
    Keeps kept (Program.fail error : Program Site Name State Error Result) :=
  Triple.fail fun _ start => start

theorem ofExcept (value : Except Error Result) :
    Keeps kept (Program.ofExcept value : Program Site Name State Error Result) :=
  Triple.ofExcept (fun _ _ _ start => start) fun _ _ _ start => start

theorem step {fault : Error} {change : State → Except Error State}
    (moves : ∀ state next, kept state → change state = .ok next → kept next) :
    Keeps kept (Program.step fault change : Program Site Name State Error Unit) := by
  apply Triple.step
  · exact fun _ start => start
  · exact fun _ _ _ _ _ start => start
  · exact fun state next start changed =>
      ⟨moves state next start changed, moves state next start changed⟩
  · exact fun _ _ start _ => start

theorem list {fault : Error} {names : State → Except Error (List Name)} :
    Keeps kept (Program.list fault names : Program Site Name State Error (List Name)) := by
  apply Triple.list
  · exact fun _ start => start
  · exact fun _ _ _ _ _ start => start
  · exact fun _ _ _ start _ _ => start
  · exact fun _ _ start _ => start

theorem bind {first : Program Site Name State Error Result}
    {second : Result → Program Site Name State Error Result'}
    (one : first.Keeps kept) (two : ∀ value, (second value).Keeps kept) :
    (first >>= second).Keeps kept :=
  Triple.bind one two

theorem whenever {condition : Bool} {program : Program Site Name State Error Unit}
    (inner : program.Keeps kept) : (Program.whenever condition program).Keeps kept :=
  Triple.whenever (fun _ => inner) fun _ _ start => start

theorem within {program : Program Site Name State Error Result} (site : Site)
    (inner : program.Keeps kept) : (program.within site).Keeps kept :=
  Triple.within (Triple.consequence inner (fun _ _ _ => trivial) (fun _ start => start)
    (fun _ _ done => done) (fun _ failed => failed) (fun _ passed => passed))

theorem attempt {program : Program Site Name State Error Result}
    (inner : program.Keeps kept) : program.attempt.Keeps kept :=
  Triple.attempt inner (fun _ _ done => done) (fun _ _ done => done)

theorem forEach {Item : Type} {body : Item → Program Site Name State Error Unit}
    (turn : ∀ item, (body item).Keeps kept) (items : List Item) :
    (Program.forEach items body).Keeps kept := by
  induction items with
  | nil => exact pure ()
  | cons item rest ih => exact bind (turn item) fun _ => ih

end Program.Keeps

end DiagnosticAdapter.Effects
