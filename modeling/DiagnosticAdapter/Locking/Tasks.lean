import DiagnosticAdapter.Locking.RwLock
import Mathlib.Order.Basic

/-!
# Tasks that take locks in ascending order

A task waits for one lock at a time, holds only locks below that one, and when it goes on
either keeps all that it holds or gives up everything.
-/

namespace DiagnosticAdapter.Locking

open Function

universe u v w

/-- What a task at each await wants, what it holds there, and how many awaits may follow. -/
structure Discipline (Phase : Type w) (Lock : Type v) [Preorder Lock] where
  wanted : Phase → Lock × Access
  held : Phase → List (Lock × Access)
  remaining : Phase → Nat
  ascending : ∀ phase, ∀ guard ∈ held phase, guard.1 < (wanted phase).1

structure Config (Task : Type u) (Lock : Type v) (Phase : Type w) where
  locks : Locks Task Lock
  calls : Task → Option Phase

inductive Event (Task : Type u) (Lock : Type v) where
  | call (task : Task)
  | acquire (lock : Lock)
  | poll (task : Task)
  deriving DecidableEq, Repr

variable {Task : Type u} {Lock : Type v} {Phase : Type w} [Preorder Lock]

/-- The task has been given the lock that it waited for. -/
def Config.GrantedAt (discipline : Discipline Phase Lock) (config : Config Task Lock Phase)
    (task : Task) (phase : Phase) : Prop :=
  config.calls task = some phase ∧
    (task, (discipline.wanted phase).2) ∈ (config.locks (discipline.wanted phase).1).holders

section Step

variable [DecidableEq Task] [DecidableEq Lock]

inductive Step (discipline : Discipline Phase Lock) (config : Config Task Lock Phase) :
    Event Task Lock → Config Task Lock Phase → Prop where
  | call {task phase} : config.calls task = none → discipline.held phase = [] →
      Step discipline config (.call task) ⟨config.locks.request task (discipline.wanted phase),
        update config.calls task (some phase)⟩
  | acquire {lock locks} : config.locks.acquire lock = some locks →
      Step discipline config (.acquire lock) ⟨locks, config.calls⟩
  | keep {task phase later} : config.GrantedAt discipline task phase →
      discipline.held later = discipline.wanted phase :: discipline.held phase →
      discipline.remaining later < discipline.remaining phase →
      Step discipline config (.poll task) ⟨config.locks.request task (discipline.wanted later),
        update config.calls task (some later)⟩
  | renew {task phase later} : config.GrantedAt discipline task phase →
      discipline.held later = [] → discipline.remaining later < discipline.remaining phase →
      Step discipline config (.poll task)
        ⟨(config.locks.release task).request task (discipline.wanted later),
          update config.calls task (some later)⟩
  | finish {task phase} : config.GrantedAt discipline task phase →
      Step discipline config (.poll task) ⟨config.locks.release task, update config.calls task none⟩

def Moves (discipline : Discipline Phase Lock) (config : Config Task Lock Phase) :
    Option (Event Task Lock) → Config Task Lock Phase → Prop
  | none, next => next = config
  | some event, next => Step discipline config event next

end Step

def Place (discipline : Discipline Phase Lock) (locks : Locks Task Lock) (task : Task) :
    Option Phase → Prop
  | none => locks.Holding task []
  | some phase =>
    locks.Waiting task (discipline.wanted phase) (discipline.held phase) ∨
      locks.Holding task (discipline.wanted phase :: discipline.held phase)

structure Config.Placed (discipline : Discipline Phase Lock) (config : Config Task Lock Phase) :
    Prop where
  sound : config.locks.Sound
  places : ∀ task, Place discipline config.locks task (config.calls task)

variable {discipline : Discipline Phase Lock} {config next : Config Task Lock Phase}
  {task : Task} {phase : Phase} {lock : Lock}

theorem wanted_not_mem_held (discipline : Discipline Phase Lock) (phase : Phase) :
    discipline.wanted phase ∉ discipline.held phase :=
  fun among => lt_irrefl _ (discipline.ascending phase _ among)

theorem Config.Placed.holding (placed : config.Placed discipline)
    (granted : config.GrantedAt discipline task phase) :
    config.locks.Holding task (discipline.wanted phase :: discipline.held phase) := by
  have place := placed.places task
  rw [granted.1] at place
  obtain waiting | holding := place
  · exact absurd ((waiting.holds _ _).mp granted.2) (wanted_not_mem_held discipline phase)
  · exact holding

theorem Config.Placed.alone (placed : config.Placed discipline)
    (granted : config.GrantedAt discipline task phase)
    (writes : discipline.wanted phase = (lock, .write))
    {other : Task} {current : Phase} (called : config.calls other = some current)
    (apart : other ≠ task) (access : Access) : (lock, access) ∉ discipline.held current := by
  intro among
  have holds : (other, access) ∈ (config.locks lock).holders := by
    have place := placed.places other
    rw [called] at place
    obtain waiting | holding := place
    · exact (waiting.holds lock access).mpr among
    · exact (holding.holds lock access).mpr (List.mem_cons_of_mem _ among)
  have own := granted.2
  rw [writes] at own
  rw [placed.sound.exclusive lock task own] at holds
  exact apart (congrArg Prod.fst (List.mem_singleton.mp holds))

theorem Config.Placed.update [DecidableEq Task] (placed : config.Placed discipline)
    {locks : Locks Task Lock} (sound : locks.Sound) {call : Option Phase}
    (own : Place discipline locks task call)
    (holding : ∀ other, other ≠ task → ∀ held, config.locks.Holding other held →
      locks.Holding other held)
    (waiting : ∀ other, other ≠ task → ∀ wanted held, config.locks.Waiting other wanted held →
      locks.Waiting other wanted held) :
    Config.Placed discipline ⟨locks, update config.calls task call⟩ := by
  refine ⟨sound, fun other => ?_⟩
  by_cases mine : other = task
  · subst mine
    simpa using own
  · have place := placed.places other
    simp only [update_of_ne mine]
    cases called : config.calls other with
    | none =>
      rw [called] at place
      exact holding other mine _ place
    | some phase =>
      rw [called] at place
      exact place.imp (waiting other mine _ _) (holding other mine _)

variable [DecidableEq Task] [DecidableEq Lock]

theorem Config.Placed.acquire (placed : config.Placed discipline) {locks : Locks Task Lock}
    (acquired : config.locks.acquire lock = some locks) :
    Config.Placed discipline ⟨locks, config.calls⟩ := by
  refine ⟨placed.sound.acquire acquired, fun other => ?_⟩
  obtain ⟨given, taken, -⟩ := Locks.acquire_eq_some_iff.mp acquired
  obtain ⟨first, access, head, -⟩ := RwLock.acquire_eq_some_iff.mp taken
  have place := placed.places other
  by_cases mine : other = first
  · subst mine
    have queued : (other, access) ∈ (config.locks lock).queue := by
      rw [head]
      exact List.mem_cons_self
    cases called : config.calls other with
    | none =>
      rw [called] at place
      exact absurd queued (place.queued lock access)
    | some phase =>
      rw [called] at place
      obtain waiting | holding := place
      · exact .inr (waiting.acquire acquired (placed.sound.nodup lock) head)
      · exact absurd queued (holding.queued lock access)
  · cases called : config.calls other with
    | none =>
      rw [called] at place
      exact place.acquire_other acquired head mine
    | some phase =>
      rw [called] at place
      exact place.imp (fun waiting => waiting.acquire_other acquired head mine)
        (fun holding => holding.acquire_other acquired head mine)

theorem Config.Placed.step (placed : config.Placed discipline) {event : Event Task Lock}
    (taken : Step discipline config event next) : next.Placed discipline := by
  cases taken with
  | @call task phase fresh unheld =>
    have idle := placed.places task
    rw [fresh] at idle
    refine placed.update (placed.sound.request idle _) (.inl ?_)
      (fun _ apart _ holding => holding.request_other apart)
      (fun _ apart _ _ waiting => waiting.request_other apart)
    rw [unheld]
    exact idle.request _
  | acquire acquired => exact placed.acquire acquired
  | keep granted kept _ =>
    have holding := placed.holding granted
    refine placed.update (placed.sound.request holding _) (.inl ?_)
      (fun _ apart _ holding => holding.request_other apart)
      (fun _ apart _ _ waiting => waiting.request_other apart)
    rw [kept]
    exact holding.request _
  | @renew task _ _ granted unheld _ =>
    have released := (placed.holding granted).release
    refine placed.update ((placed.sound.release task).request released _) (.inl ?_)
      (fun _ apart _ holding => (holding.release_other apart).request_other apart)
      (fun _ apart _ _ waiting => (waiting.release_other apart).request_other apart)
    rw [unheld]
    exact released.request _
  | @finish task _ granted =>
    exact placed.update (placed.sound.release task) (placed.holding granted).release
      (fun _ apart _ holding => holding.release_other apart)
      (fun _ apart _ _ waiting => waiting.release_other apart)

variable {event : Option (Event Task Lock)}

theorem Config.Placed.moves (placed : config.Placed discipline)
    (moved : Moves discipline config event next) : next.Placed discipline := by
  cases event with
  | none =>
    cases moved
    exact placed
  | some event => exact placed.step moved

theorem Moves.calls (moved : Moves discipline config event next)
    (called : config.calls task = some phase) (unpolled : event ≠ some (.poll task)) :
    next.calls task = some phase := by
  cases event with
  | none =>
    cases moved
    exact called
  | some event =>
    cases moved with
    | @call other _ fresh _ =>
      have apart : task ≠ other := by
        rintro rfl
        cases called.symm.trans fresh
      simpa [apart] using called
    | acquire _ => exact called
    | @keep other _ _ _ _ _ | @renew other _ _ _ _ _ | @finish other _ _ =>
      have apart : task ≠ other := fun same => unpolled (by rw [same])
      simpa [apart] using called

theorem Moves.polled (moved : Moves discipline config (some (.poll task)) next)
    (called : config.calls task = some phase) :
    next.calls task = none ∨ ∃ later, next.calls task = some later ∧
      discipline.remaining later < discipline.remaining phase := by
  cases moved with
  | @keep _ current later granted _ fewer | @renew _ current later granted _ fewer =>
    cases called.symm.trans granted.1
    exact .inr ⟨later, update_self .., fewer⟩
  | finish _ => exact .inl (update_self ..)

theorem Moves.granted (moved : Moves discipline config (some (.poll task)) next)
    (called : config.calls task = some phase) : config.GrantedAt discipline task phase := by
  cases moved with
  | keep granted _ _ | renew granted _ _ | finish granted =>
    cases called.symm.trans granted.1
    exact granted

theorem Moves.acquired (moved : Moves discipline config (some (.acquire lock)) next) :
    (config.locks lock).acquire = some (next.locks lock) := by
  cases moved with
  | acquire acquired => exact Locks.acquire_self acquired

section

variable (moved : Moves discipline config event next)

include moved

theorem Moves.queue (unacquired : event ≠ some (.acquire lock)) :
    ∃ extra, (next.locks lock).queue = (config.locks lock).queue ++ extra := by
  have requested : ∀ (locks : Locks Task Lock) task wanted,
      ∃ extra, ((locks.request task wanted) lock).queue = (locks lock).queue ++ extra := by
    intro locks task wanted
    by_cases mine : lock = wanted.1
    · subst mine
      exact ⟨[(task, wanted.2)], by rw [Locks.request, update_self]; rfl⟩
    · exact ⟨[], by rw [Locks.request, update_of_ne mine, List.append_nil]⟩
  cases event with
  | none =>
    cases moved
    exact ⟨[], (List.append_nil _).symm⟩
  | some event =>
    cases moved with
    | call _ _ => exact requested _ _ _
    | @acquire other locks acquired =>
      have apart : lock ≠ other := fun same => unacquired (by rw [same])
      exact ⟨[], by rw [List.append_nil, ← Locks.acquire_of_ne acquired apart]⟩
    | keep _ _ _ | renew _ _ _ => exact requested _ _ _
    | finish _ => exact ⟨[], (List.append_nil _).symm⟩

theorem Moves.holders_subset (unacquired : event ≠ some (.acquire lock)) :
    (next.locks lock).holders ⊆ (config.locks lock).holders := by
  intro entry among
  cases event with
  | none =>
    cases moved
    exact among
  | some event =>
    cases moved with
    | call _ _ => exact (Locks.holders_request lock) ▸ among
    | @acquire other locks acquired =>
      have apart : lock ≠ other := fun same => unacquired (by rw [same])
      exact Locks.acquire_of_ne acquired apart ▸ among
    | keep _ _ _ => exact (Locks.holders_request lock) ▸ among
    | renew _ _ _ =>
      rw [Locks.holders_request, Locks.mem_holders_release] at among
      exact among.1
    | finish _ => exact (Locks.mem_holders_release.mp among).1

theorem Moves.holders_of_unpolled {access : Access} (unpolled : event ≠ some (.poll task))
    (holds : (task, access) ∈ (config.locks lock).holders) :
    (task, access) ∈ (next.locks lock).holders := by
  cases event with
  | none =>
    cases moved
    exact holds
  | some event =>
    cases moved with
    | call _ _ => exact (Locks.holders_request lock).symm ▸ holds
    | @acquire other locks acquired =>
      by_cases mine : lock = other
      · subst mine
        obtain ⟨first, firstAccess, -, -, holders⟩ :=
          RwLock.acquire_eq_some_iff.mp (Locks.acquire_self acquired)
        exact holders ▸ List.mem_cons_of_mem _ holds
      · rw [← Locks.acquire_of_ne acquired mine] at holds
        exact holds
    | keep _ _ _ => exact (Locks.holders_request lock).symm ▸ holds
    | @renew other _ _ _ _ _ =>
      rw [Locks.holders_request, Locks.mem_holders_release]
      exact ⟨holds, fun same => unpolled (congrArg (some ∘ Event.poll) same.symm)⟩
    | @finish other _ _ =>
      exact Locks.mem_holders_release.mpr
        ⟨holds, fun same => unpolled (congrArg (some ∘ Event.poll) same.symm)⟩

end

end DiagnosticAdapter.Locking
