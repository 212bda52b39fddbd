import DiagnosticAdapter.Effects.Run

/-!
# Interned strings

`Strings` keeps the strings in a vector and finds their ids in a map.  Each has a lock of its own;
a caller looks into the map before and after it has the vector's.
-/

namespace DiagnosticAdapter.Lookup

open Effects Function

/-- Where a caller is. -/
inductive Interning where
  | checking (value : String)
  | waiting (value : String)
  | holding (value : String)
  | pushing (value : String)
  | inserting (value : String) (id : Nat)
  | releasing (value : String) (id : Nat)
  | returned (value : String) (id : Nat)
  | getting (id : Nat)
  | got (id : Nat) (result : Option String)

/-- `Strings`, with the caller that has the vector's lock and what the callers do. -/
structure Strings where
  strings : List String
  lookup : String → Option Nat
  writer : Option Nat
  calls : Nat → Option Interning

inductive StringsEvent where
  | getOrInsert (call : Nat) (value : String)
  | get (call id : Nat)
  | resume (call : Nat)

namespace Strings

def new : Strings := ⟨[], fun _ => none, none, fun _ => none⟩

def move (state : Strings) (call : Nat) (phase : Interning) : Strings :=
  { state with calls := update state.calls call (some phase) }

/-- What a caller does next, up to the next lock that it takes or gives back. -/
def resume (state : Strings) (call : Nat) : Interning → Option Strings
  | .checking value =>
    match state.lookup value with
    | some id => some (state.move call (.returned value id))
    | none => some (state.move call (.waiting value))
  | .waiting value =>
    if state.writer = none then
      some ({ state with writer := some call }.move call (.holding value))
    else none
  | .holding value =>
    match state.lookup value with
    | some id => some (state.move call (.releasing value id))
    | none => some (state.move call (.pushing value))
  | .pushing value =>
    let strings := state.strings ++ [value]
    some ({ state with strings := strings }.move call (.inserting value (strings.length - 1)))
  | .inserting value id =>
    some ({ state with lookup := update state.lookup value (some id) }.move call
      (.releasing value id))
  | .releasing value id =>
    some ({ state with writer := none }.move call (.returned value id))
  | .getting id =>
    if state.writer = none then some (state.move call (.got id state.strings[id]?)) else none
  | .returned .. | .got .. => none

def step (state : Strings) : StringsEvent → Option Strings
  | .getOrInsert call value =>
    if state.calls call = none then some (state.move call (.checking value)) else none
  | .get call id => if state.calls call = none then some (state.move call (.getting id)) else none
  | .resume call => (state.calls call).bind (state.resume call)

def Steps (state : Strings) (event : StringsEvent) (next : Strings) : Prop :=
  state.step event = some next

end Strings

/-- From `holding` to `releasing` a caller has the vector's lock. -/
def Interning.HasLock : Interning → Prop
  | .holding _ | .pushing _ | .inserting .. | .releasing .. => True
  | _ => False

/-- What a caller may rely on where it is. -/
def Interning.Holds (state : Strings) (call : Nat) : Interning → Prop
  | .holding _ => state.writer = some call
  | .pushing value => state.writer = some call ∧ state.lookup value = none
  | .inserting value id => state.writer = some call ∧ state.lookup value = none ∧
    state.strings[id]? = some value
  | .releasing value id => state.writer = some call ∧ state.lookup value = some id
  | .returned value id => state.lookup value = some id
  | _ => True

namespace Strings

structure Interned (state : Strings) : Prop where
  stored : ∀ value id, state.lookup value = some id → state.strings[id]? = some value
  holds : ∀ call phase, state.calls call = some phase → phase.Holds state call
  locked : ∀ call, state.writer = some call → ∃ phase, state.calls call = some phase ∧ phase.HasLock

/-- Nothing is forgotten, and only the caller changes what one with the lock relies on. -/
structure Grows (call : Nat) (state next : Strings) : Prop where
  strings : ∀ (value : String) (id : Nat), state.strings[id]? = some value →
    next.strings[id]? = some value
  lookup : ∀ value id, state.lookup value = some id → next.lookup value = some id
  others : ∀ other, other ≠ call → state.writer = some other →
    next.writer = some other ∧ next.lookup = state.lookup
  locked : ∀ other, other ≠ call → next.writer = some other → state.writer = some other

variable {state next later : Strings} {call id : Nat} {value : String} {phase : Interning}
  {event : StringsEvent}

theorem Grows.refl (call : Nat) (state : Strings) : Grows call state state :=
  ⟨fun _ _ same => same, fun _ _ same => same, fun _ _ held => ⟨held, rfl⟩, fun _ _ held => held⟩

theorem Grows.holds (grows : Grows call state next) {other : Nat} (ne : other ≠ call)
    (holds : phase.Holds state other) : phase.Holds next other := by
  cases phase with
  | checking | waiting | getting | got => trivial
  | holding value => exact (grows.others other ne holds).1
  | pushing value =>
    obtain ⟨held, absent⟩ := holds
    obtain ⟨still, same⟩ := grows.others other ne held
    exact ⟨still, same ▸ absent⟩
  | inserting value id =>
    obtain ⟨held, absent, pushed⟩ := holds
    obtain ⟨still, same⟩ := grows.others other ne held
    exact ⟨still, same ▸ absent, grows.strings _ _ pushed⟩
  | releasing value id => exact ⟨(grows.others other ne holds.1).1, grows.lookup _ _ holds.2⟩
  | returned value id => exact grows.lookup _ _ holds

/-- What a caller's step leaves; what a reader gets is what is stored. -/
structure Follows (call : Nat) (state next : Strings) : Prop where
  interned : Interned next
  strings : ∀ (value : String) (id : Nat), state.strings[id]? = some value →
    next.strings[id]? = some value
  calls : ∃ last, next.calls = update state.calls call (some last) ∧
    ∀ id result, last = .got id result → result = state.strings[id]?

theorem Interned.move (interned : Interned state) (grows : Grows call state next)
    (stored : ∀ value id, next.lookup value = some id → next.strings[id]? = some value)
    (same : next.calls = state.calls) (holds : phase.Holds next call)
    (locked : next.writer = some call → phase.HasLock)
    (gets : ∀ id result, phase = .got id result → result = state.strings[id]?) :
    Follows call state (next.move call phase) := by
  have calls : (next.move call phase).calls = update state.calls call (some phase) := by
    rw [← same]
    rfl
  refine ⟨⟨stored, fun other otherPhase present => ?_, fun other held => ?_⟩, grows.strings, phase,
    calls, gets⟩
  · rw [calls] at present
    obtain ⟨rfl, rfl⟩ | ⟨ne, before⟩ := cases_of_update present
    · cases otherPhase <;> exact holds
    · have kept := grows.holds ne (interned.holds other otherPhase before)
      cases otherPhase <;> exact kept
  · rw [calls]
    by_cases own : other = call
    · subst own
      exact ⟨phase, update_self .., locked held⟩
    · rw [update_of_ne own]
      exact interned.locked other (grows.locked other own held)

theorem Interned.hasLock (interned : Interned state) (held : state.writer = some call)
    (present : state.calls call = some phase) : phase.HasLock := by
  obtain ⟨found, same, lock⟩ := interned.locked call held
  rwa [Option.some.inj (present.symm.trans same)]

theorem resume_follows (interned : Interned state) (present : state.calls call = some phase)
    (taken : state.resume call phase = some next) : Follows call state next := by
  have unchanged := Grows.refl call state
  have holds := interned.holds call phase present
  have locked (held : state.writer = some call) := interned.hasLock held present
  cases phase with
  | checking value =>
    rw [resume] at taken
    split at taken <;> cases taken
    case h_1.refl id found =>
      exact interned.move unchanged interned.stored rfl found (absurd · locked) nofun
    case h_2.refl => exact interned.move unchanged interned.stored rfl trivial locked nofun
  | waiting value =>
    rw [resume] at taken
    split at taken <;> cases taken
    case isTrue.refl free =>
      have grows : Grows call state { state with writer := some call } := by
        refine ⟨fun _ _ same => same, fun _ _ same => same, fun other _ held => ?_,
          fun other ne held => absurd (Option.some.inj held).symm ne⟩
        rw [free] at held
        cases held
      exact interned.move grows interned.stored rfl rfl (fun _ => trivial) nofun
  | holding value =>
    rw [resume] at taken
    split at taken <;> cases taken
    case h_1.refl id found =>
      exact interned.move unchanged interned.stored rfl ⟨holds, found⟩ (fun _ => trivial) nofun
    case h_2.refl absent =>
      exact interned.move unchanged interned.stored rfl ⟨holds, absent⟩ (fun _ => trivial) nofun
  | pushing value =>
    cases taken
    have kept (text : String) (id : Nat) (present : state.strings[id]? = some text) :
        (state.strings ++ [value])[id]? = some text := by
      rw [List.getElem?_append_left (List.getElem?_eq_some_iff.mp present).1, present]
    have grows : Grows call state { state with strings := state.strings ++ [value] } :=
      ⟨kept, fun _ _ same => same, fun _ _ held => ⟨held, rfl⟩, fun _ _ held => held⟩
    refine interned.move grows (fun text id found => kept text id (interned.stored text id found))
      rfl ⟨holds.1, holds.2, ?_⟩ (fun _ => trivial) nofun
    simp
  | inserting value id =>
    cases taken
    obtain ⟨held, absent, pushed⟩ := holds
    have grows : Grows call state { state with lookup := update state.lookup value (some id) } := by
      refine ⟨fun _ _ same => same, fun text number found => ?_, fun other ne holds => ?_,
        fun _ _ held => held⟩
      · have new : text ≠ value := by
          rintro rfl
          rw [absent] at found
          cases found
        exact (update_of_ne new ..).trans found
      · exact absurd (Option.some.inj (holds.symm.trans held)) ne
    refine interned.move grows (fun text number found => ?_) rfl ⟨held, update_self ..⟩
      (fun _ => trivial) nofun
    obtain ⟨rfl, rfl⟩ | ⟨-, before⟩ := cases_of_update found
    · exact pushed
    · exact interned.stored text number before
  | releasing value id =>
    cases taken
    have grows : Grows call state { state with writer := none } := by
      refine ⟨fun _ _ same => same, fun _ _ same => same, fun other ne held =>
        absurd (Option.some.inj (held.symm.trans holds.1)) ne, fun other _ held => ?_⟩
      cases held
    refine interned.move grows interned.stored rfl holds.2 (fun held => ?_) nofun
    cases held
  | getting id =>
    rw [resume] at taken
    split at taken <;> cases taken
    refine interned.move unchanged interned.stored rfl trivial locked ?_
    rintro _ _ ⟨⟩
    rfl
  | returned | got => cases taken

theorem step_follows (interned : Interned state) (taken : state.Steps event next) :
    ∃ call, Follows call state next := by
  cases event with
  | getOrInsert call value | get call id =>
    rw [Steps, step] at taken
    split at taken <;> cases taken
    rename_i idle
    refine ⟨call,
      interned.move (.refl call state) interned.stored rfl trivial (fun held => ?_) nofun⟩
    obtain ⟨phase, present, _⟩ := interned.locked call held
    cases idle.symm.trans present
  | resume call =>
    obtain ⟨phase, present, taken⟩ := Option.bind_eq_some_iff.mp taken
    exact ⟨call, resume_follows interned present taken⟩

theorem interned_new : Interned new := by
  refine ⟨?_, ?_, ?_⟩
  · intro _ _ found
    cases found
  · intro _ _ found
    cases found
  · intro _ held
    cases held

theorem interned_of_run {events : List StringsEvent} (ran : Run Steps new events state) :
    Interned state := by
  apply ran.keeps (fun _ => Interned) interned_new
  intro _ _ _ _ interned taken
  obtain ⟨_, follows⟩ := step_follows interned taken
  exact follows.interned

/-- What holds of a stored string in every later state. -/
theorem kept_of_run {more : List StringsEvent} (interned : Interned state)
    (stored : state.strings[id]? = some value) (ran : Run Steps state more later) :
    Interned later ∧ later.strings[id]? = some value ∧
      ∀ reader result, later.calls reader = some (.got id result) →
        result = some value ∨ state.calls reader = some (.got id result) := by
  apply ran.keeps (fun _ later => Interned later ∧ later.strings[id]? = some value ∧
    ∀ reader result, later.calls reader = some (.got id result) →
      result = some value ∨ state.calls reader = some (.got id result))
    ⟨interned, stored, fun _ _ => .inr⟩
  intro _ event before after ⟨interned, stored, gets⟩ taken
  obtain ⟨call, follows⟩ := step_follows interned taken
  obtain ⟨last, moved, reads⟩ := follows.calls
  refine ⟨follows.interned, follows.strings _ _ stored, fun reader result present => ?_⟩
  rw [moved] at present
  obtain ⟨-, equal⟩ | ⟨-, earlier⟩ := cases_of_update present
  · exact .inl ((reads id result equal.symm).trans stored)
  · exact gets reader result earlier

section Progress

/-- The callers can go on until this holds. -/
def Leads (state : Strings) (holds : Strings → Prop) : Prop :=
  ∃ (events : List StringsEvent) (last : Strings), events.foldlM step state = some last ∧ holds last

theorem Leads.now {holds : Strings → Prop} (already : holds state) : state.Leads holds :=
  ⟨[], state, rfl, already⟩

theorem Leads.head {holds : Strings → Prop} (taken : state.Steps event next)
    (leads : next.Leads holds) : state.Leads holds := by
  obtain ⟨events, last, ran, holds⟩ := leads
  refine ⟨event :: events, last, ?_, holds⟩
  rw [List.foldlM_cons, taken]
  exact ran

theorem Leads.trans {first second : Strings → Prop} (leads : state.Leads first)
    (goesOn : ∀ later, first later → later.Leads second) : state.Leads second := by
  obtain ⟨events, last, ran, holds⟩ := leads
  obtain ⟨more, final, further, holds⟩ := goesOn last holds
  refine ⟨events ++ more, final, ?_, holds⟩
  rw [List.foldlM_append, ran]
  exact further

theorem resumes (present : state.calls call = some phase)
    (resumed : state.resume call phase = some next) : state.Steps (.resume call) next := by
  rw [Steps, step, present]
  exact resumed

/-- The lock is free, and only this caller has moved, to its answer. -/
structure Answered (state : Strings) (call : Nat) (value : String) (last : Strings) : Prop where
  free : last.writer = none
  calls : ∃ id, last.calls = update state.calls call (some (.returned value id))

theorem Answered.head (moved : next.calls = update state.calls call (some phase))
    (answered : Answered next call value later) : Answered state call value later := by
  obtain ⟨free, id, calls⟩ := answered
  exact ⟨free, id, by rw [calls, moved, update_idem]⟩

theorem answered_of_releasing (present : state.calls call = some (.releasing value id)) :
    state.Leads (Answered state call value) :=
  .head (resumes present rfl) (.now ⟨rfl, id, rfl⟩)

theorem answered_of_inserting (present : state.calls call = some (.inserting value id)) :
    state.Leads (Answered state call value) := by
  apply Leads.head (resumes present rfl)
  exact (answered_of_releasing (update_self ..)).trans fun _ answered => .now (answered.head rfl)

theorem answered_of_pushing (present : state.calls call = some (.pushing value)) :
    state.Leads (Answered state call value) := by
  apply Leads.head (resumes present rfl)
  exact (answered_of_inserting (update_self ..)).trans fun _ answered => .now (answered.head rfl)

theorem answered_of_holding (present : state.calls call = some (.holding value)) :
    state.Leads (Answered state call value) := by
  cases found : state.lookup value with
  | some id =>
    apply Leads.head (resumes present (by rw [resume, found]))
    exact (answered_of_releasing (update_self ..)).trans fun _ answered => .now (answered.head rfl)
  | none =>
    apply Leads.head (resumes present (by rw [resume, found]))
    exact (answered_of_pushing (update_self ..)).trans fun _ answered => .now (answered.head rfl)

/-- The vector's lock is given back, while whoever waits for it stays where it is. -/
theorem free_of_interned (interned : Interned state) : state.Leads fun last => last.writer = none ∧
    ∀ other phase, state.calls other = some phase → ¬phase.HasLock →
      last.calls other = some phase := by
  cases writer : state.writer with
  | none => exact .now ⟨writer, fun _ _ present _ => present⟩
  | some call =>
    obtain ⟨phase, present, lock⟩ := interned.locked call writer
    have released (value : String) (leads : state.Leads (Answered state call value)) :
        state.Leads fun last => last.writer = none ∧ ∀ other phase,
          state.calls other = some phase → ¬phase.HasLock → last.calls other = some phase := by
      apply leads.trans
      rintro last ⟨free, id, calls⟩
      refine .now ⟨free, fun other otherPhase found noLock => ?_⟩
      have ne : other ≠ call := by
        rintro rfl
        rw [Option.some.inj (found.symm.trans present)] at noLock
        exact noLock lock
      rw [calls, update_of_ne ne, found]
    cases phase with
    | holding value => exact released value (answered_of_holding present)
    | pushing value => exact released value (answered_of_pushing present)
    | inserting value id => exact released value (answered_of_inserting present)
    | releasing value id => exact released value (answered_of_releasing present)
    | checking | waiting | returned | getting | got => exact absurd lock not_false

theorem returned_of_checking (interned : Interned state)
    (present : state.calls call = some (.checking value)) :
    state.Leads fun last => ∃ id, last.calls call = some (.returned value id) := by
  cases found : state.lookup value with
  | some id =>
    exact .head (resumes present (by rw [resume, found])) (.now ⟨id, update_self ..⟩)
  | none =>
    have taken : state.Steps (.resume call) (state.move call (.waiting value)) :=
      resumes present (by rw [resume, found])
    obtain ⟨_, follows⟩ := step_follows interned taken
    refine .head taken ((free_of_interned follows.interned).trans ?_)
    rintro last ⟨free, stays⟩
    have waits := stays call _ (update_self ..) not_false
    apply Leads.head (resumes waits (if_pos free))
    apply (answered_of_holding (update_self ..)).trans
    rintro final ⟨_, id, calls⟩
    exact .now ⟨id, by rw [calls, update_self]⟩

theorem got_of_getting (interned : Interned state) (stored : state.strings[id]? = some value)
    (present : state.calls call = some (.getting id)) :
    state.Leads fun last => last.calls call = some (.got id (some value)) := by
  obtain ⟨events, last, ran, free, stays⟩ := free_of_interned interned
  obtain ⟨_, kept, _⟩ := kept_of_run interned stored (Run.of_foldlM ran)
  refine Leads.trans ⟨events, last, ran, rfl⟩ ?_
  rintro _ rfl
  refine .head (resumes (stays call _ present not_false) (if_pos free)) (.now ?_)
  rw [← kept]
  exact update_self ..

end Progress

/-- An id belongs to one string, which it keeps, and whoever asks for it then gets this string:
at once where the vector's lock is free, and else after whoever has it gave it back. -/
theorem interned_consistently {events : List StringsEvent} (ran : Run Steps new events state)
    (returned : state.calls call = some (.returned value id)) :
    (∀ other text number, state.calls other = some (.returned text number) →
      (number = id ↔ text = value)) ∧
    ∀ more later, Run Steps state more later → later.strings[id]? = some value ∧
      (∀ reader result, later.calls reader = some (.got id result) →
        result = some value ∨ state.calls reader = some (.got id result)) ∧
      (∀ reader, later.calls reader = some (.getting id) →
        (later.writer = none →
          later.Steps (.resume reader) (later.move reader (.got id (some value)))) ∧
        ∃ rest last, Run Steps later rest last ∧
          last.calls reader = some (.got id (some value))) ∧
      ∀ caller text, later.calls caller = some (.checking text) →
        ∃ rest last number, Run Steps later rest last ∧
          last.calls caller = some (.returned text number) := by
  have interned := interned_of_run ran
  have found : state.lookup value = some id := interned.holds call _ returned
  constructor
  · intro other text number again
    have also : state.lookup text = some number := interned.holds other _ again
    constructor
    · rintro rfl
      have stored := interned.stored text number also
      exact Option.some.inj (stored.symm.trans (interned.stored value number found))
    · rintro rfl
      exact Option.some.inj (also.symm.trans found)
  · intro more later further
    obtain ⟨internedLater, stored, gets⟩ :=
      kept_of_run interned (interned.stored value id found) further
    refine ⟨stored, gets, fun reader present => ⟨fun free => ?_, ?_⟩, fun caller text present => ?_⟩
    · rw [← stored]
      exact resumes present (if_pos free)
    · obtain ⟨rest, last, ran, got⟩ := got_of_getting internedLater stored present
      exact ⟨rest, last, .of_foldlM ran, got⟩
    · obtain ⟨rest, last, ran, number, answered⟩ := returned_of_checking internedLater present
      exact ⟨rest, last, number, .of_foldlM ran, answered⟩

/-- Two callers intern one string, and a third one asks for it while a fourth has the lock. -/
theorem interned_consistently_twice :
    ∃ state later, Run Steps new [.getOrInsert 0 "id", .resume 0, .getOrInsert 1 "id", .resume 1,
        .resume 0, .resume 0, .resume 0, .resume 0, .resume 0, .resume 1, .resume 1,
        .resume 1] state ∧ state.calls 1 = some (.returned "id" 0) ∧
      Run Steps state [.getOrInsert 3 "other", .resume 3, .resume 3, .get 2 0] later ∧
      later.writer = some 3 ∧ ∃ rest last, Run Steps later rest last ∧
        last.calls 2 = some (.got 0 (some "id")) := by
  have ran : ∃ state later, Run Steps new [.getOrInsert 0 "id", .resume 0, .getOrInsert 1 "id",
        .resume 1, .resume 0, .resume 0, .resume 0, .resume 0, .resume 0, .resume 1, .resume 1,
        .resume 1] state ∧ state.calls 1 = some (.returned "id" 0) ∧
      Run Steps state [.getOrInsert 3 "other", .resume 3, .resume 3, .get 2 0] later ∧
      later.writer = some 3 ∧ later.calls 2 = some (.getting 0) :=
    ⟨_, _, Run.of_foldlM rfl, rfl, Run.of_foldlM rfl, rfl, rfl⟩
  obtain ⟨state, later, run, returned, further, locked, asks⟩ := ran
  exact ⟨state, later, run, returned, further, locked,
    (((interned_consistently run returned).2 _ later further).2.2.1 2 asks).2⟩

end Strings

end DiagnosticAdapter.Lookup
