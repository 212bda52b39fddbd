import DiagnosticAdapter.Detection.Triggers

/-!
# Coalesced detections

A handle runs one detection at a time.  Of the triggers that wait for it the newest
survives, so a superseded one counts on it: no forced trigger is lost unless the
newest goes without a run.
-/

namespace DiagnosticAdapter.Detection

open Effects Function

variable {fleet : Fleet} {state next : TriggerState}

namespace Trigger

def live (trigger : Trigger) : Bool :=
  match trigger.phase with
  | .waiting | .acquired | .current => true
  | _ => false

def holds (trigger : Trigger) : Bool :=
  match trigger.phase with
  | .acquired | .current | .running => true
  | _ => false

/-- A forced trigger that has returned `Ok` or still may. -/
def demands (trigger : Trigger) : Bool :=
  trigger.trigger == .forced && (trigger.live || trigger.phase == .returned true)

end Trigger

namespace TriggerState

/-- No later trigger claims the handle. -/
def Newest (state : TriggerState) (call : Nat) (trigger : Trigger) : Prop :=
  state.triggers call = some trigger ∧ ∀ other later, state.triggers other = some later →
    later.representative = trigger.representative → other ≤ call

/-- A run at the handle has begun since the trigger was issued. -/
def Followed (state : TriggerState) (trigger : Trigger) : Prop :=
  ∃ call run time, state.triggers call = some run ∧
    run.representative = trigger.representative ∧ run.startedAt = some time ∧
    trigger.issuedAt < time

/-- The others that count on a run at the handle have had one. -/
def Satisfied (state : TriggerState) (call : Nat) (trigger : Trigger) : Prop :=
  ∀ other demanding, state.triggers other = some demanding → other ≠ call →
    demanding.representative = trigger.representative → demanding.demands = true →
    state.Followed demanding

/-- The newest trigger neither finds its ECU's state healthy nor is dropped while a
forced trigger counts on it. -/
def Unspoiled (state : TriggerState) : TriggerEvent → Prop
  | .check call => ∀ trigger, state.obsolete trigger = true → state.Newest call trigger →
      state.Satisfied call trigger
  | .drop call => ∀ trigger, trigger.phase = .waiting → state.Newest call trigger →
      state.Satisfied call trigger
  | _ => True

end TriggerState

structure Coalesced (fleet : Fleet) (state : TriggerState) : Prop where
  unissued : ∀ call, state.issued ≤ call → state.triggers call = none
  handle : ∀ call trigger, state.triggers call = some trigger →
    trigger.representative = fleet.duplicateGroupRepresentative trigger.ecuName
  issuedAt : ∀ call trigger, state.triggers call = some trigger → trigger.issuedAt < state.clock
  notStarted : ∀ call trigger, state.triggers call = some trigger → trigger.live = true →
    trigger.startedAt = none
  started : ∀ call trigger, state.triggers call = some trigger → trigger.phase = .running →
    ∃ time, trigger.startedAt = some time ∧ trigger.issuedAt < time
  lock : ∀ call trigger, state.triggers call = some trigger → trigger.holds = true →
    state.detectionLock trigger.representative = some call
  newest : ∀ call trigger, state.Newest call trigger →
    trigger.phase = .waiting ∨ trigger.phase = .acquired →
    state.generation trigger.representative = trigger.generation
  demands : ∀ call trigger, state.triggers call = some trigger → trigger.demands = true →
    state.Followed trigger ∨ ∃ other survivor, state.Newest other survivor ∧
        survivor.representative = trigger.representative ∧ survivor.live = true

theorem coalesced_initial : Coalesced fleet .initial := by
  constructor
  · intro call _
    rfl
  · intro call trigger present
    cases present
  · intro call trigger present
    cases present
  · intro call trigger present
    cases present
  · intro call trigger present
    cases present
  · intro call trigger present
    cases present
  · intro call trigger newest
    cases newest.1
  · intro call trigger present
    cases present

structure Renewed (state next : TriggerState) (call : Nat) (old new : Trigger) : Prop where
  present : state.triggers call = some old
  triggers : next.triggers = update state.triggers call (some new)
  ecuName : new.ecuName = old.ecuName
  representative : new.representative = old.representative
  generation : new.generation = old.generation
  issuedAt : new.issuedAt = old.issuedAt
  startedAt : ∀ time, old.startedAt = some time → new.startedAt = some time

namespace Renewed

variable {call : Nat} {old new : Trigger} {trigger : Trigger} {other : Nat}

section

variable (renewed : Renewed state next call old new)

include renewed

theorem origin (present : next.triggers other = some trigger) :
    other = call ∧ trigger = new ∨ other ≠ call ∧ state.triggers other = some trigger := by
  rw [renewed.triggers] at present
  exact cases_of_update present

theorem at_call : next.triggers call = some new := by
  rw [renewed.triggers, update_self]

theorem of_other (ne : other ≠ call) : next.triggers other = state.triggers other := by
  rw [renewed.triggers, update_of_ne ne]

end

theorem followed (renewed : Renewed state next call old new)
    (followed : state.Followed trigger) : next.Followed trigger := by
  obtain ⟨other, run, time, present, sameHandle, started, later⟩ := followed
  by_cases same : other = call
  · rw [same, renewed.present] at present
    cases present
    exact ⟨call, new, time, renewed.at_call, renewed.representative.trans sameHandle,
      renewed.startedAt time started, later⟩
  · exact ⟨other, run, time, (renewed.of_other same).trans present, sameHandle, started, later⟩

section

variable (renewed : Renewed state next call old new)

include renewed

theorem newest_other (ne : other ≠ call) (newest : state.Newest other trigger) :
    next.Newest other trigger := by
  refine ⟨(renewed.of_other ne).trans newest.1, ?_⟩
  intro later found present sameHandle
  rcases renewed.origin present with ⟨same, equal⟩ | ⟨-, before⟩
  · rw [same]
    exact newest.2 call old renewed.present (by rw [← sameHandle, equal, renewed.representative])
  · exact newest.2 later found before sameHandle

theorem newest_call (newest : state.Newest call old) : next.Newest call new := by
  refine ⟨renewed.at_call, ?_⟩
  intro later found present sameHandle
  rcases renewed.origin present with ⟨same, -⟩ | ⟨-, before⟩
  · exact Nat.le_of_eq same
  · exact newest.2 later found before (sameHandle.trans renewed.representative)

theorem newest_origin (newest : next.Newest other trigger) :
    other = call ∧ trigger = new ∧ state.Newest call old ∨
      other ≠ call ∧ state.Newest other trigger := by
  have none_later : ∀ later found, state.triggers later = some found →
      found.representative = trigger.representative → later ≤ other := by
    intro later found present sameHandle
    by_cases same : later = call
    · rw [same] at present ⊢
      rw [renewed.present] at present
      cases present
      exact newest.2 call new renewed.at_call (renewed.representative.trans sameHandle)
    · exact newest.2 later found ((renewed.of_other same).trans present) sameHandle
  rcases renewed.origin newest.1 with ⟨same, equal⟩ | ⟨ne, before⟩
  · refine .inl ⟨same, equal, renewed.present, ?_⟩
    rw [equal, renewed.representative, same] at none_later
    exact none_later
  · exact .inr ⟨ne, before, none_later⟩

end

end Renewed

theorem Coalesced.renew (coalesced : Coalesced fleet state) {call : Nat} {old new : Trigger}
    (renewed : Renewed state next call old new)
    (generation : next.generation = state.generation) (issued : next.issued = state.issued)
    (clock : state.clock ≤ next.clock)
    (notStarted : new.live = true → new.startedAt = none)
    (started : new.phase = .running → ∃ time, new.startedAt = some time ∧ new.issuedAt < time)
    (lock : ∀ other trigger, next.triggers other = some trigger → trigger.holds = true →
      next.detectionLock trigger.representative = some other)
    (newest : state.Newest call old → new.phase = .waiting ∨ new.phase = .acquired →
      state.generation old.representative = old.generation)
    (demanded : new.demands = true → old.demands = true ∨ next.Followed new)
    (survives : state.Newest call old → old.live = true →
      new.live = true ∨ ∀ other trigger, next.triggers other = some trigger →
        trigger.representative = old.representative → trigger.demands = true →
        next.Followed trigger) :
    Coalesced fleet next := by
  constructor
  · intro other unissued
    rw [issued] at unissued
    have absent := coalesced.unissued other unissued
    have ne : other ≠ call := by
      intro same
      rw [same, renewed.present] at absent
      cases absent
    rw [renewed.of_other ne, absent]
  · intro other trigger present
    rcases renewed.origin present with ⟨-, rfl⟩ | ⟨-, before⟩
    · rw [renewed.representative, renewed.ecuName]
      exact coalesced.handle call old renewed.present
    · exact coalesced.handle other trigger before
  · intro other trigger present
    rcases renewed.origin present with ⟨-, rfl⟩ | ⟨-, before⟩
    · rw [renewed.issuedAt]
      exact (coalesced.issuedAt call old renewed.present).trans_le clock
    · exact (coalesced.issuedAt other trigger before).trans_le clock
  · intro other trigger present
    rcases renewed.origin present with ⟨-, rfl⟩ | ⟨-, before⟩
    · exact notStarted
    · exact coalesced.notStarted other trigger before
  · intro other trigger present
    rcases renewed.origin present with ⟨-, rfl⟩ | ⟨-, before⟩
    · exact started
    · exact coalesced.started other trigger before
  · exact lock
  · intro other trigger isNewest phase
    rw [generation]
    rcases renewed.newest_origin isNewest with ⟨-, rfl, before⟩ | ⟨-, before⟩
    · rw [renewed.representative, renewed.generation]
      exact newest before phase
    · exact coalesced.newest other trigger before phase
  · intro other trigger present demands
    -- the trigger as it was, unless it is served by now
    have earlier : next.Followed trigger ∨ ∃ before, state.triggers other = some before ∧
        before.demands = true ∧ before.representative = trigger.representative ∧
        before.issuedAt = trigger.issuedAt := by
      rcases renewed.origin present with ⟨same, equal⟩ | ⟨-, before⟩
      · rw [equal] at demands ⊢
        rcases demanded demands with oldDemands | followed
        · right
          exact ⟨old, same ▸ renewed.present, oldDemands, renewed.representative.symm,
            renewed.issuedAt.symm⟩
        · exact .inl followed
      · exact .inr ⟨trigger, before, demands, rfl, rfl⟩
    rcases earlier with followed | ⟨before, beforePresent, beforeDemands, sameHandle, sameTime⟩
    · exact .inl followed
    · rcases coalesced.demands other before beforePresent beforeDemands with
        followed | ⟨survivorCall, survivor, isNewest, survivorHandle, survivorLive⟩
      · left
        obtain ⟨runCall, run, time, runPresent, runHandle, runStarted, later⟩ :=
          renewed.followed followed
        exact ⟨runCall, run, time, runPresent, runHandle.trans sameHandle, runStarted,
          sameTime ▸ later⟩
      · by_cases same : survivorCall = call
        · rw [same] at isNewest
          have equal : survivor = old :=
            Option.some.inj (isNewest.1.symm.trans renewed.present)
          rw [equal] at isNewest survivorHandle survivorLive
          rcases survives isNewest survivorLive with newLive | allFollowed
          · right
            exact ⟨call, new, renewed.newest_call isNewest,
              renewed.representative.trans (survivorHandle.trans sameHandle), newLive⟩
          · left
            exact allFollowed other trigger present (survivorHandle.trans sameHandle).symm demands
        · right
          exact ⟨survivorCall, survivor, renewed.newest_other same isNewest,
            survivorHandle.trans sameHandle, survivorLive⟩

theorem renewed_enter (base : TriggerState) {call : Nat} {old : Trigger}
    (present : state.triggers call = some old) (same : base.triggers = state.triggers)
    (phase : TriggerPhase) :
    Renewed state (base.enter call { old with phase := phase }) call old
      { old with phase := phase } := by
  refine ⟨present, ?_, rfl, rfl, rfl, rfl, fun _ started => started⟩
  rw [← same]
  rfl

theorem Coalesced.lock_kept (coalesced : Coalesced fleet state) {call : Nat}
    {old new : Trigger} (renewed : Renewed state next call old new)
    (same : next.detectionLock = state.detectionLock)
    (holds : new.holds = true → old.holds = true) (other : Nat) (trigger : Trigger)
    (present : next.triggers other = some trigger) (isHolding : trigger.holds = true) :
    next.detectionLock trigger.representative = some other := by
  rw [same]
  rcases renewed.origin present with ⟨isCall, equal⟩ | ⟨-, before⟩
  · rw [equal] at isHolding
    rw [equal, renewed.representative, isCall]
    exact coalesced.lock call old renewed.present (holds isHolding)
  · exact coalesced.lock other trigger before isHolding

theorem Coalesced.acquire (coalesced : Coalesced fleet state) {call : Nat} {trigger : Trigger}
    (present : state.triggers call = some trigger) (waiting : trigger.phase = .waiting)
    (free : state.detectionLock trigger.representative = none) :
    Coalesced fleet ((state.lock call trigger).enter call { trigger with phase := .acquired }) := by
  have live : trigger.live = true := by simp [Trigger.live, waiting]
  have renewed := renewed_enter (state.lock call trigger) present rfl .acquired
  apply coalesced.renew renewed rfl rfl (Nat.le_refl _)
  · intro _
    exact coalesced.notStarted call trigger present live
  · intro running
    cases running
  · intro other found foundPresent holds
    simp only [TriggerState.enter, TriggerState.lock]
    rcases renewed.origin foundPresent with ⟨isCall, equal⟩ | ⟨-, before⟩
    · rw [equal, isCall, update_self]
    · have locked := coalesced.lock other found before holds
      have ne : found.representative ≠ trigger.representative := by
        intro same
        rw [same, free] at locked
        cases locked
      rw [update_of_ne ne, locked]
  · intro newest _
    exact coalesced.newest call trigger newest (.inl waiting)
  · intro demands
    left
    simpa [Trigger.demands, Trigger.live, waiting] using demands
  · intro _ _
    exact .inl rfl

theorem Coalesced.leave (coalesced : Coalesced fleet state) {call : Nat} {trigger : Trigger}
    {phase : TriggerPhase} (present : state.triggers call = some trigger)
    (holds : trigger.holds = true) (ended : phase = .dropped ∨ ∃ ok, phase = .returned ok)
    (demanded : ({ trigger with phase := phase } : Trigger).demands = true →
      trigger.demands = true ∨ state.Followed trigger)
    (dispensable : state.Newest call trigger → trigger.live = true →
      trigger.trigger = .ifNeeded ∧ state.Satisfied call trigger) :
    Coalesced fleet (state.leave call trigger phase) := by
  have renewed : Renewed state (state.leave call trigger phase) call trigger
      { trigger with phase := phase } :=
    renewed_enter (state.unlock trigger) present rfl phase
  have notLive : ({ trigger with phase := phase } : Trigger).live = false := by
    rcases ended with dropped | ⟨ok, returned⟩
    · simp [Trigger.live, dropped]
    · simp [Trigger.live, returned]
  have notHolding : ({ trigger with phase := phase } : Trigger).holds = false := by
    rcases ended with dropped | ⟨ok, returned⟩
    · simp [Trigger.holds, dropped]
    · simp [Trigger.holds, returned]
  apply coalesced.renew renewed rfl rfl (Nat.le_refl _)
  · intro live
    rw [notLive] at live
    cases live
  · intro running
    change phase = .running at running
    rcases ended with dropped | ⟨ok, returned⟩
    · rw [dropped] at running
      cases running
    · rw [returned] at running
      cases running
  · intro other found foundPresent foundHolds
    simp only [TriggerState.leave, TriggerState.enter, TriggerState.unlock]
    rcases renewed.origin foundPresent with ⟨-, rfl⟩ | ⟨ne, before⟩
    · rw [notHolding] at foundHolds
      cases foundHolds
    · have locked := coalesced.lock other found before foundHolds
      have otherHandle : found.representative ≠ trigger.representative := by
        intro same
        rw [same, coalesced.lock call trigger present holds] at locked
        exact ne (Option.some.inj locked).symm
      rw [update_of_ne otherHandle, locked]
  · intro _ waits
    change phase = .waiting ∨ phase = .acquired at waits
    rcases ended with dropped | ⟨ok, returned⟩
    · simp [dropped] at waits
    · simp [returned] at waits
  · intro demands
    exact (demanded demands).imp id renewed.followed
  · intro newest live
    right
    obtain ⟨ifNeeded, satisfied⟩ := dispensable newest live
    intro other found foundPresent sameHandle demands
    rcases renewed.origin foundPresent with ⟨-, rfl⟩ | ⟨ne, before⟩
    · simp [Trigger.demands, ifNeeded] at demands
    · exact renewed.followed (satisfied other found before ne sameHandle demands)

theorem Coalesced.begin (coalesced : Coalesced fleet state) {call : Nat} {trigger : Trigger}
    (present : state.triggers call = some trigger) (current : trigger.phase = .current) :
    Coalesced fleet (state.begin call trigger) := by
  have fresh : trigger.startedAt = none :=
    coalesced.notStarted call trigger present (by simp [Trigger.live, current])
  have renewed : Renewed state (state.begin call trigger) call trigger
      { trigger with phase := .running, startedAt := some state.clock } := by
    refine ⟨present, rfl, rfl, rfl, rfl, rfl, ?_⟩
    intro time started
    rw [fresh] at started
    cases started
  apply coalesced.renew renewed rfl rfl (Nat.le_succ _)
  · intro live
    cases live
  · intro _
    exact ⟨state.clock, rfl, coalesced.issuedAt call trigger present⟩
  · apply coalesced.lock_kept renewed rfl
    intro _
    simp [Trigger.holds, current]
  · intro _ waits
    rcases waits with waiting | acquired
    · cases waiting
    · cases acquired
  · intro demands
    simp [Trigger.demands, Trigger.live] at demands
  · intro _ _
    right
    intro other found foundPresent sameHandle _
    refine ⟨call, _, state.clock, renewed.at_call, sameHandle.symm, rfl, ?_⟩
    rcases renewed.origin foundPresent with ⟨-, rfl⟩ | ⟨-, before⟩
    · exact coalesced.issuedAt call trigger present
    · exact coalesced.issuedAt other found before

theorem Coalesced.issue (coalesced : Coalesced fleet state) (ecuName : String)
    (trigger : DetectionTrigger) : Coalesced fleet (state.issue fleet ecuName trigger) := by
  have absent := coalesced.unissued state.issued (Nat.le_refl _)
  have earlier : ∀ other found, state.triggers other = some found → other < state.issued := by
    intro other found present
    by_contra unissued
    rw [coalesced.unissued other (Nat.not_lt.mp unissued)] at present
    cases present
  have origin : ∀ other found, (state.issue fleet ecuName trigger).triggers other = some found →
      other = state.issued ∧ found = ⟨ecuName, trigger, fleet.duplicateGroupRepresentative ecuName,
        state.generation (fleet.duplicateGroupRepresentative ecuName) + 1, state.clock, none,
        .waiting⟩ ∨ state.triggers other = some found := by
    intro other found present
    exact (cases_of_update present).imp_right And.right
  have kept : ∀ other found, state.triggers other = some found →
      (state.issue fleet ecuName trigger).triggers other = some found := by
    intro other found present
    have ne : other ≠ state.issued := Nat.ne_of_lt (earlier other found present)
    exact (update_of_ne ne ..).trans present
  constructor
  · intro other unissued
    have later : state.issued + 1 ≤ other := unissued
    have ne : other ≠ state.issued := by omega
    exact (update_of_ne ne ..).trans (coalesced.unissued other (by omega))
  · intro other found present
    rcases origin other found present with ⟨-, rfl⟩ | before
    · rfl
    · exact coalesced.handle other found before
  · intro other found present
    rcases origin other found present with ⟨-, rfl⟩ | before
    · exact Nat.lt_succ_self _
    · exact Nat.lt_succ_of_lt (coalesced.issuedAt other found before)
  · intro other found present live
    rcases origin other found present with ⟨-, rfl⟩ | before
    · rfl
    · exact coalesced.notStarted other found before live
  · intro other found present running
    rcases origin other found present with ⟨-, rfl⟩ | before
    · cases running
    · exact coalesced.started other found before running
  · intro other found present holds
    rcases origin other found present with ⟨-, rfl⟩ | before
    · cases holds
    · exact coalesced.lock other found before holds
  · intro other found newest phase
    simp only [TriggerState.issue]
    rcases origin other found newest.1 with ⟨-, rfl⟩ | before
    · rw [update_self]
    · have otherHandle : found.representative ≠
          fleet.duplicateGroupRepresentative ecuName := by
        intro same
        have le := newest.2 state.issued _ (update_self ..) same.symm
        have lt := earlier other found before
        omega
      rw [update_of_ne otherHandle]
      apply coalesced.newest other found _ phase
      exact ⟨before, fun later laterTrigger laterPresent =>
        newest.2 later laterTrigger (kept later laterTrigger laterPresent)⟩
  · intro other found present demands
    have newest : (state.issue fleet ecuName trigger).Newest state.issued
        ⟨ecuName, trigger, fleet.duplicateGroupRepresentative ecuName,
          state.generation (fleet.duplicateGroupRepresentative ecuName) + 1, state.clock, none,
          .waiting⟩ := by
      refine ⟨update_self .., ?_⟩
      intro later laterTrigger laterPresent _
      rcases origin later laterTrigger laterPresent with ⟨same, -⟩ | before
      · exact Nat.le_of_eq same
      · exact Nat.le_of_lt (earlier later laterTrigger before)
    by_cases sameHandle : fleet.duplicateGroupRepresentative ecuName = found.representative
    · exact .inr ⟨_, _, newest, sameHandle, rfl⟩
    · rcases origin other found present with ⟨-, rfl⟩ | before
      · exact absurd rfl sameHandle
      · rcases coalesced.demands other found before demands with
          ⟨runCall, run, time, runPresent, rest⟩ | ⟨survivorCall, survivor, isNewest, handle, live⟩
        · exact .inl ⟨runCall, run, time, kept runCall run runPresent, rest⟩
        · right
          refine ⟨survivorCall, survivor, ⟨kept _ _ isNewest.1, ?_⟩, handle, live⟩
          intro later laterTrigger laterPresent laterHandle
          rcases origin later laterTrigger laterPresent with ⟨-, rfl⟩ | laterBefore
          · exact absurd (laterHandle.trans handle) sameHandle
          · exact isNewest.2 later laterTrigger laterBefore laterHandle

theorem Coalesced.step (coalesced : Coalesced fleet state) {event : TriggerEvent}
    (unspoiled : state.Unspoiled event) (taken : TriggerStep fleet state event next) :
    Coalesced fleet next := by
  cases taken with
  | issued => exact coalesced.issue _ _
  | acquired present waiting free => exact coalesced.acquire present waiting free
  | @current call trigger present acquired =>
    have renewed := renewed_enter state present rfl .current
    apply coalesced.renew renewed rfl rfl (Nat.le_refl _)
    · intro _
      exact coalesced.notStarted call trigger present (by simp [Trigger.live, acquired])
    · intro running
      cases running
    · apply coalesced.lock_kept renewed rfl
      intro _
      simp [Trigger.holds, acquired]
    · intro _ waits
      rcases waits with waiting | isAcquired
      · cases waiting
      · cases isAcquired
    · intro demands
      left
      simpa [Trigger.demands, Trigger.live, acquired] using demands
    · intro _ _
      exact .inl rfl
  | @superseded call trigger present acquired differs =>
    apply coalesced.leave present (by simp [Trigger.holds, acquired]) (.inr ⟨true, rfl⟩)
    · intro demands
      left
      simpa [Trigger.demands, Trigger.live, acquired] using demands
    · intro newest _
      -- the newest trigger has the generation of the handle
      exact absurd (coalesced.newest call trigger newest (.inr acquired)) differs
  | @obsolete call trigger present current ifNeeded obsolete =>
    apply coalesced.leave present (by simp [Trigger.holds, current]) (.inr ⟨true, rfl⟩)
    · intro demands
      simp [Trigger.demands, ifNeeded] at demands
    · intro newest _
      exact ⟨ifNeeded, unspoiled trigger obsolete newest⟩
  | begun present current => exact coalesced.begin present current
  | @finished call ok trigger present running =>
    apply coalesced.leave present (by simp [Trigger.holds, running]) (.inr ⟨ok, rfl⟩)
    · intro _
      right
      obtain ⟨time, started, later⟩ := coalesced.started call trigger present running
      exact ⟨call, trigger, time, present, rfl, started, later⟩
    · intro _ live
      simp [Trigger.live, running] at live
  | @droppedWaiting call trigger present waiting =>
    have renewed := renewed_enter state present rfl .dropped
    apply coalesced.renew renewed rfl rfl (Nat.le_refl _)
    · intro live
      cases live
    · intro running
      cases running
    · apply coalesced.lock_kept renewed rfl
      intro holds
      cases holds
    · intro _ waits
      rcases waits with isWaiting | acquired
      · cases isWaiting
      · cases acquired
    · intro demands
      simp [Trigger.demands, Trigger.live] at demands
    · intro newest _
      right
      intro other found foundPresent sameHandle demands
      rcases renewed.origin foundPresent with ⟨-, rfl⟩ | ⟨ne, before⟩
      · simp [Trigger.demands, Trigger.live] at demands
      · exact renewed.followed
          (unspoiled trigger waiting newest other found before ne sameHandle demands)
  | @droppedRunning call trigger present running =>
    apply coalesced.leave present (by simp [Trigger.holds, running]) (.inl rfl)
    · intro demands
      simp [Trigger.demands, Trigger.live] at demands
    · intro _ live
      simp [Trigger.live, running] at live
  | written =>
    exact ⟨coalesced.unissued, coalesced.handle, coalesced.issuedAt, coalesced.notStarted,
      coalesced.started, coalesced.lock, coalesced.newest, coalesced.demands⟩

def OneDetection (group : List String) (state : TriggerState) : Prop :=
  ∀ first second firstTrigger secondTrigger, state.triggers first = some firstTrigger →
    state.triggers second = some secondTrigger → firstTrigger.ecuName ∈ group →
    secondTrigger.ecuName ∈ group → firstTrigger.phase = .running →
    secondTrigger.phase = .running → first = second

/-- Once no trigger of the group waits or runs, a detection of the group has begun
after every forced trigger that returned `Ok`. -/
def NoneLost (group : List String) (state : TriggerState) : Prop :=
  (∀ call trigger, state.triggers call = some trigger → trigger.ecuName ∈ group →
    trigger.waitsOrRuns = false) →
  ∀ call trigger, state.triggers call = some trigger → trigger.ecuName ∈ group →
    trigger.trigger = .forced → trigger.phase = .returned true →
    ∃ other run time, state.triggers other = some run ∧ run.ecuName ∈ group ∧
      run.startedAt = some time ∧ trigger.issuedAt < time

variable {group : List String}

section

variable (coalesced : Coalesced fleet state) (isGroup : fleet.IsDuplicateGroup group)

include coalesced isGroup

theorem Coalesced.oneDetection : OneDetection group state := by
  intro first second firstTrigger secondTrigger firstPresent secondPresent firstMember
    secondMember firstRuns secondRuns
  have firstLock := coalesced.lock first firstTrigger firstPresent
    (by simp [Trigger.holds, firstRuns])
  have secondLock := coalesced.lock second secondTrigger secondPresent
    (by simp [Trigger.holds, secondRuns])
  rw [coalesced.handle first firstTrigger firstPresent,
    isGroup.representative_eq firstMember secondMember,
    ← coalesced.handle second secondTrigger secondPresent, secondLock] at firstLock
  exact (Option.some.inj firstLock).symm

theorem Coalesced.noneLost : NoneLost group state := by
  intro quiet call trigger present member forced returned
  have shared : ∀ other found, state.triggers other = some found →
      found.representative = trigger.representative → found.ecuName ∈ group := by
    intro other found foundPresent sameHandle
    rw [coalesced.handle other found foundPresent, coalesced.handle call trigger present]
      at sameHandle
    exact isGroup.mem_of_representative_eq member sameHandle
  have demands : trigger.demands = true := by simp [Trigger.demands, forced, returned]
  rcases coalesced.demands call trigger present demands with
    ⟨other, run, time, runPresent, sameHandle, started, later⟩ |
      ⟨other, survivor, newest, sameHandle, live⟩
  · exact ⟨other, run, time, runPresent, shared other run runPresent sameHandle, started, later⟩
  · have ended := quiet other survivor newest.1 (shared other survivor newest.1 sameHandle)
    unfold Trigger.live at live
    unfold Trigger.waitsOrRuns at ended
    split at live
    · rename_i phase; rw [phase] at ended; cases ended
    · rename_i phase; rw [phase] at ended; cases ended
    · rename_i phase; rw [phase] at ended; cases ended
    · cases live

end

/-- The steps under which no forced trigger is lost. -/
def UnspoiledStep (fleet : Fleet) (state : TriggerState) (event : TriggerEvent)
    (next : TriggerState) : Prop :=
  state.step fleet event = some next ∧ state.Unspoiled event

theorem oneDetection_and_noneLost_of_run {events : List TriggerEvent}
    (isGroup : fleet.IsDuplicateGroup group)
    (run : Run (UnspoiledStep fleet) .initial events state) :
    OneDetection group state ∧ NoneLost group state := by
  have coalesced : Coalesced fleet state := by
    apply run.keeps (fun _ state => Coalesced fleet state) coalesced_initial
    intro events event state next coalesced ⟨taken, unspoiled⟩
    exact coalesced.step unspoiled (.of_step taken)
  exact ⟨coalesced.oneDetection isGroup, coalesced.noneLost isGroup⟩

def twins : Fleet := .marked ["engine", "engine2"] fun _ => some ()

theorem isDuplicateGroup_twins : twins.IsDuplicateGroup ["engine", "engine2"] :=
  isDuplicateGroup_marked ["engine", "engine2"] (fun _ => some ()) ()

def detectedOnline : EcuState := ⟨.online, .detected "MyVariant" false false, some 0⟩

/-- A forced trigger and a newer automatic one wait for a detection, which leaves the ECU as
`status`. -/
def forcedThenAutomatic (status : EcuState) : List TriggerEvent :=
  [.issue "engine" .ifNeeded, .acquire 0, .compare 0, .check 0,
    .issue "engine2" .forced, .issue "engine" .ifNeeded,
    .write "engine" status, .finish 0 true,
    .acquire 1, .compare 1, .acquire 2, .compare 2, .check 2]

/-- No trigger is dropped or finds its ECU's state healthy. -/
def TriggerState.undisturbed (state : TriggerState) : TriggerEvent → Bool
  | .check call =>
    match state.triggers call with
    | some trigger => !state.obsolete trigger
    | none => true
  | .drop _ => false
  | _ => true

theorem unspoiled_of_undisturbed {event : TriggerEvent} (quiet : state.undisturbed event = true) :
    state.Unspoiled event := by
  cases event with
  | check call =>
    intro trigger obsolete newest
    simp [TriggerState.undisturbed, newest.1, obsolete] at quiet
  | drop call => cases quiet
  | _ => trivial

theorem oneDetection_and_noneLost_still_undetected :
    ∃ state forced, Run (UnspoiledStep twins) .initial
        (forcedThenAutomatic .default ++ [.finish 2 true]) state ∧
      state.triggers 1 = some forced ∧ forced.phase = .returned true ∧
      OneDetection ["engine", "engine2"] state ∧ NoneLost ["engine", "engine2"] state := by
  have run : ∃ (state : TriggerState) (forced : Trigger), Run (fun state event next =>
        TriggerState.step twins state event = some next ∧
          TriggerState.undisturbed state event = true)
        .initial (forcedThenAutomatic .default ++ [.finish 2 true]) state ∧
      state.triggers 1 = some forced ∧ forced.phase = .returned true :=
    ⟨_, _, Run.of_guarded_foldlM rfl, rfl, rfl⟩
  obtain ⟨state, forced, run, present, returned⟩ := run
  have unspoiled : Run (UnspoiledStep twins) .initial
      (forcedThenAutomatic .default ++ [.finish 2 true]) state := by
    apply run.mono
    intro state event next ⟨taken, quiet⟩
    exact ⟨taken, unspoiled_of_undisturbed quiet⟩
  exact ⟨state, forced, unspoiled, present, returned,
    oneDetection_and_noneLost_of_run isDuplicateGroup_twins unspoiled⟩

/-- The detection in flight succeeds; the forced trigger is superseded by the automatic
one, and that one is obsolete. -/
theorem forced_trigger_lost : ¬ ∀ (fleet : Fleet) (group : List String) (events : List TriggerEvent)
        (state : TriggerState), fleet.IsDuplicateGroup group →
      Run (fun state event next => state.step fleet event = some next) .initial events state →
        OneDetection group state ∧ NoneLost group state := by
  intro noneLost
  have run : ∃ (state : TriggerState) (first forced last : Trigger),
      Run (fun state event next => TriggerState.step twins state event = some next) .initial
        (forcedThenAutomatic detectedOnline) state ∧
      state.issued = 3 ∧ state.triggers 0 = some first ∧ state.triggers 1 = some forced ∧
      state.triggers 2 = some last ∧ (∀ call, 3 ≤ call → state.triggers call = none) ∧
      first.waitsOrRuns = false ∧ forced.waitsOrRuns = false ∧ last.waitsOrRuns = false ∧
      forced.ecuName = "engine2" ∧ forced.trigger = .forced ∧ forced.phase = .returned true ∧
      first.startedAt = some 1 ∧ forced.startedAt = none ∧ last.startedAt = none ∧
      forced.issuedAt = 2 := by
    refine ⟨_, _, _, _, Run.of_foldlM rfl, rfl, rfl, rfl, rfl, ?_, rfl, rfl, rfl, rfl, rfl, rfl,
      rfl, rfl, rfl, rfl⟩
    intro call later
    match call, later with
    | later + 3, _ => rfl
  obtain ⟨state, first, forced, last, run, -, firstAt, forcedAt, lastAt, absent, firstOver,
    forcedOver, lastOver, name, isForced, returned, firstStart, forcedStart, lastStart,
    issuedAt⟩ := run
  have cases_of : ∀ call trigger, state.triggers call = some trigger →
      trigger = first ∨ trigger = forced ∨ trigger = last := by
    intro call trigger present
    match call with
    | 0 => exact Or.inl (Option.some.inj (present.symm.trans firstAt))
    | 1 => exact Or.inr (Or.inl (Option.some.inj (present.symm.trans forcedAt)))
    | 2 => exact Or.inr (Or.inr (Option.some.inj (present.symm.trans lastAt)))
    | later + 3 =>
      rw [absent (later + 3) (by omega)] at present
      cases present
  obtain ⟨-, noneLost⟩ := noneLost twins _ _ state isDuplicateGroup_twins run
  obtain ⟨other, begun, time, present, -, started, later⟩ := noneLost (by
    intro call trigger present _
    rcases cases_of call trigger present with same | same | same
    · rw [same, firstOver]
    · rw [same, forcedOver]
    · rw [same, lastOver]) 1 forced forcedAt (by simp [name]) isForced returned
  rcases cases_of other begun present with same | same | same
  · rw [same, firstStart] at started
    cases started
    omega
  · rw [same, forcedStart] at started
    cases started
  · rw [same, lastStart] at started
    cases started

end DiagnosticAdapter.Detection
