import DiagnosticAdapter.Doip.ConnectionReset

/-!
# A connection is replaced for its own failure

After a successful reset the channel is drained, but a request that its task has not put
there yet outlives the drain.
-/

namespace DiagnosticAdapter.Doip

open Effects Function

namespace ResetPhase

def request : ResetPhase → Option ResetRequest
  | .disconnecting request | .locking request | .establishing request _ => some request
  | _ => none

/-- A new connection is there, and requests for the old one may still be. -/
def isSucceeding : ResetPhase → Bool
  | .connecting | .draining => true
  | _ => false

end ResetPhase

namespace GatewayLink

/-- Every request for a reset that was served came from the connection it has replaced. -/
def OwnFailures (link : GatewayLink) : Prop :=
  ∀ replaced ∈ link.replaced, replaced.request = replaced.connection

/-- When the drain ends no task holds a request back. -/
def drainsAll (link : GatewayLink) : LinkEvent → Bool
  | .drained => (link.observed .receiver).isNone && (link.observed .sender).isNone
  | _ => true

/-- All requests are about the present connection, except while it takes over. -/
structure Current (link : GatewayLink) : Prop where
  channel : link.reset.isSucceeding = false → ∀ request ∈ link.channel, request = link.connection
  observed : link.reset.isSucceeding = false →
    ∀ task, ∀ request ∈ link.observed task, request = link.connection
  served : ∀ request ∈ link.reset.request, request = link.connection
  replaced : link.OwnFailures

theorem current_initial : initial.Current := by
  constructor
  · intro _ request present
    cases present
  · intro _ task request present
    cases present
  · intro request present
    cases present
  · intro replaced mem
    cases mem

section

variable {setup : GatewaySetup} {link next : GatewayLink}

theorem Current.enter (current : link.Current) {reset : ResetPhase} {gaveUp : Bool}
    (served : ∀ request ∈ reset.request, request ∈ link.reset.request)
    (succeeding : reset.isSucceeding = false → link.reset.isSucceeding = false) :
    { link with
      reset := reset
      gaveUp := gaveUp }.Current := by
  constructor
  · intro settled
    exact current.channel (succeeding settled)
  · intro settled
    exact current.observed (succeeding settled)
  · intro request present
    exact current.served request (served request present)
  · exact current.replaced

variable {request : ResetRequest}

theorem mem_update_observed {task other : IoTask} {value : Option ResetRequest}
    (present : request ∈ update link.observed task value other) :
    request ∈ value ∨ request ∈ link.observed other := by
  by_cases same : other = task
  · subst same
    rw [update_self] at present
    exact .inl present
  · rw [update_of_ne same] at present
    exact .inr present

section

variable (current : link.Current)

include current

theorem Current.observe (task : IoTask) :
    { link with
      observed := update link.observed task (some link.connection) }.Current := by
  refine ⟨current.channel, ?_, current.served, current.replaced⟩
  intro settled other request present
  rcases mem_update_observed present with new | old
  · exact (Option.mem_some.mp new).symm
  · exact current.observed settled other request old

theorem Current.enqueue {task : IoTask} (held : link.observed task = some request) :
    { link with
      channel := some request
      observed := update link.observed task none }.Current := by
  refine ⟨?_, ?_, current.served, current.replaced⟩
  · intro settled other present
    cases present
    exact current.observed settled task request held
  · intro settled other waiting present
    rcases mem_update_observed present with new | old
    · cases new
    · exact current.observed settled other waiting old

theorem Current.receive (listening : link.reset = .listening)
    (waiting : link.channel = some request) :
    ({ link with
      channel := none
      reset := .disconnecting request }.notify false setup).Current := by
  have settled : link.reset.isSucceeding = false := by
    rw [listening]
    rfl
  refine ⟨?_, fun _ => current.observed settled, ?_, current.replaced⟩
  · intro _ other present
    cases present
  · intro other present
    cases present
    exact current.channel settled request waiting

theorem Current.reconnect {attempts : Nat}
    (establishing : link.reset = .establishing request attempts) :
    ((link.reconnect request).notify true setup).Current := by
  refine ⟨?_, ?_, ?_, ?_⟩
  · intro settled
    cases settled
  · intro settled
    cases settled
  · intro other present
    cases present
  · intro replaced mem
    rcases List.mem_append.mp mem with old | new
    · exact current.replaced replaced old
    · rw [List.mem_singleton.mp new]
      apply current.served
      rw [establishing]
      rfl

theorem Current.drained (empty : link.channel = none) (all : link.drainsAll .drained = true) :
    { link with reset := .listening }.Current := by
  simp only [drainsAll, Bool.and_eq_true, Option.isNone_iff_eq_none] at all
  refine ⟨?_, ?_, ?_, current.replaced⟩
  · intro _ request present
    rw [show link.channel = some request from present] at empty
    cases empty
  · intro _ task request present
    replace present : link.observed task = some request := present
    cases task with
    | receiver =>
      rw [all.1] at present
      cases present
    | sender =>
      rw [all.2] at present
      cases present
  · intro request present
    cases present

theorem Current.step {event : LinkEvent} (taken : link.step setup event = some next)
    (all : link.drainsAll event = true) : next.Current := by
  cases LinkStep.of_step taken with
  | observed => exact current.observe _
  | enqueued _ held => exact current.enqueue held
  | ioEnded | published | setUpNotified =>
    exact ⟨current.channel, current.observed, current.served, current.replaced⟩
  | received listening waiting => exact current.receive listening waiting
  | connectNotified => exact current.enter nofun nofun
  | closed phase | gaveUp phase =>
    apply current.enter
    · nofun
    · rw [phase]
      exact fun _ => rfl
  | disconnectNotified phase | locked phase | retried phase =>
    -- the request is kept
    apply current.enter
    · rw [phase]
      exact fun _ present => present
    · rw [phase]
      exact fun _ => rfl
  | established phase => exact current.reconnect phase
  | discarded => exact ⟨fun _ => nofun, current.observed, current.served, current.replaced⟩
  | drained _ empty => exact current.drained empty all

end

end

/-- Where no drain leaves a request behind, every connection is replaced for a failure of
its own. -/
theorem ownFailures_of_run {setup : GatewaySetup} {events : List LinkEvent} {link : GatewayLink}
    (run : Run (fun link event next => link.step setup event = some next ∧
      link.drainsAll event = true) initial events link) : link.OwnFailures := by
  have current : link.Current := by
    apply Run.keeps (fun _ link => link.Current) current_initial _ run
    intro _ event link next current ⟨taken, all⟩
    exact current.step taken all
  exact current.replaced

end GatewayLink

/-- The receiver reads the end of the stream once more while the reset is under way, and
the second request is drained. -/
def closedTwice : List LinkEvent :=
  [.published, .setUpNotified, .observe .receiver, .enqueue .receiver, .receive,
    .observe .receiver, .enqueue .receiver, .notified, .lock, .establish true, .notified,
    .drain, .drained, .observe .sender, .enqueue .sender, .receive, .notified, .lock,
    .establish true]

theorem ownFailures_closedTwice : ∃ link : GatewayLink,
    link.replaced = [⟨0, 0⟩, ⟨1, 1⟩] ∧ link.OwnFailures := by
  have run : ∃ link : GatewayLink, Run (fun link event next =>
        link.step ⟨[0x1000], ["gateway"], 3⟩ event = some next ∧ link.drainsAll event = true)
        .initial closedTwice link ∧ link.replaced = [⟨0, 0⟩, ⟨1, 1⟩] :=
    ⟨_, Run.of_guarded_foldlM rfl, rfl⟩
  obtain ⟨link, run, replaced⟩ := run
  exact ⟨link, replaced, GatewayLink.ownFailures_of_run run⟩

/-- A third request waits for room in the channel, and is put there after the drain. -/
def closedThreeTimes : List LinkEvent :=
  [.published, .setUpNotified, .observe .receiver, .enqueue .receiver, .receive,
    .observe .receiver, .enqueue .receiver, .observe .receiver, .notified, .lock,
    .establish true, .notified, .drain, .drained, .enqueue .receiver, .receive, .notified,
    .lock, .establish true]

theorem successor_replaced : ¬ ∀ setup events link,
    Run (fun link event next => GatewayLink.step setup link event = some next) .initial events
      link → link.OwnFailures := by
  intro everyFailureOwn
  have run : ∃ link : GatewayLink, Run (fun link event next =>
        link.step ⟨[0x1000], ["gateway"], 3⟩ event = some next) .initial closedThreeTimes link ∧
      link.replaced = [⟨0, 0⟩, ⟨1, 0⟩] :=
    ⟨_, Run.of_foldlM rfl, rfl⟩
  obtain ⟨link, run, replaced⟩ := run
  have own := everyFailureOwn _ _ _ run
  rw [GatewayLink.OwnFailures, replaced] at own
  exact absurd (own ⟨1, 0⟩ (by simp)) (by decide)

end DiagnosticAdapter.Doip
