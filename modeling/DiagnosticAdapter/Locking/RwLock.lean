import Mathlib.Data.List.Nodup

/-!
# Fair read-write locks

Requests wait in one queue for each lock, and only the head of the queue is given the lock:
a reader waits behind a writer that asked before it.
-/

namespace DiagnosticAdapter.Locking

open Function

universe u v

inductive Access where
  | read
  | write
  deriving DecidableEq, Repr

structure RwLock (Task : Type u) where
  holders : List (Task × Access)
  queue : List (Task × Access)

namespace RwLock

variable {Task : Type u}

def new : RwLock Task := ⟨[], []⟩

def request (lock : RwLock Task) (task : Task) (access : Access) : RwLock Task :=
  { lock with queue := lock.queue ++ [(task, access)] }

def admits (lock : RwLock Task) : Access → Bool
  | .read => lock.holders.all (·.2 == .read)
  | .write => lock.holders.isEmpty

def acquire (lock : RwLock Task) : Option (RwLock Task) :=
  match lock.queue with
  | [] => none
  | (task, access) :: rest =>
    if lock.admits access then some ⟨(task, access) :: lock.holders, rest⟩ else none

def release [DecidableEq Task] (lock : RwLock Task) (task : Task) : RwLock Task :=
  { lock with holders := lock.holders.filter (·.1 ≠ task) }

def Exclusive (lock : RwLock Task) : Prop :=
  ∀ task, (task, .write) ∈ lock.holders → lock.holders = [(task, .write)]

variable {lock next : RwLock Task} {task : Task} {access : Access}

theorem acquire_eq_some_iff : lock.acquire = some next ↔
    ∃ task access, lock.queue = (task, access) :: next.queue ∧ lock.admits access = true ∧
      next.holders = (task, access) :: lock.holders := by
  obtain ⟨holders, queue⟩ := lock
  obtain ⟨nextHolders, nextQueue⟩ := next
  match queue with
  | [] => simp [acquire]
  | (task, access) :: rest =>
    by_cases admitted : admits ⟨holders, (task, access) :: rest⟩ access = true
    · simp only [acquire, admitted, if_true, Option.some.injEq, RwLock.mk.injEq, List.cons.injEq]
      constructor
      · rintro ⟨rfl, rfl⟩
        exact ⟨task, access, ⟨rfl, rfl⟩, admitted, rfl⟩
      · rintro ⟨_, _, ⟨⟨rfl, rfl⟩, rfl⟩, -, rfl⟩
        exact ⟨rfl, rfl⟩
    · simp only [acquire, admitted, Bool.false_eq_true, if_false, reduceCtorEq, false_iff]
      rintro ⟨_, _, same, admits, -⟩
      obtain ⟨⟨rfl, rfl⟩, -⟩ := List.cons.inj same |>.imp_left Prod.mk.inj
      exact admitted admits

theorem acquire_ne_none (free : lock.holders = []) (waiting : lock.queue ≠ []) :
    lock.acquire ≠ none := by
  obtain ⟨holders, queue⟩ := lock
  subst free
  match queue, waiting with
  | (task, access) :: rest, _ => cases access <;> simp [acquire, admits]

theorem exclusive_new : (new : RwLock Task).Exclusive := by
  simp [Exclusive, new]

theorem exclusive_of_acquire (acquired : lock.acquire = some next) : next.Exclusive := by
  obtain ⟨task, access, -, admitted, holders⟩ := acquire_eq_some_iff.mp acquired
  intro writer among
  rw [holders] at among ⊢
  cases access with
  | read =>
    have readers := List.all_eq_true.mp admitted
    obtain itself | before := List.mem_cons.mp among
    · cases itself
    · have reads := readers _ before
      simp at reads
  | write =>
    rw [List.isEmpty_iff.mp admitted] at among ⊢
    cases List.mem_singleton.mp among
    rfl

theorem Exclusive.release [DecidableEq Task] (exclusive : lock.Exclusive) (task : Task) :
    (lock.release task).Exclusive := by
  intro writer among
  obtain ⟨before, kept⟩ := List.mem_filter.mp among
  rw [RwLock.release, exclusive writer before]
  simpa using kept

end RwLock

abbrev Locks (Task : Type u) (Lock : Type v) := Lock → RwLock Task

namespace Locks

variable {Task : Type u} {Lock : Type v}

def new : Locks Task Lock := fun _ => .new

def request [DecidableEq Lock] (locks : Locks Task Lock) (task : Task)
    (wanted : Lock × Access) : Locks Task Lock :=
  update locks wanted.1 ((locks wanted.1).request task wanted.2)

def acquire [DecidableEq Lock] (locks : Locks Task Lock) (lock : Lock) : Option (Locks Task Lock) :=
  (locks lock).acquire.map (update locks lock)

def release [DecidableEq Task] (locks : Locks Task Lock) (task : Task) : Locks Task Lock :=
  fun lock => (locks lock).release task

/-- The task waits for nothing and holds exactly these. -/
structure Holding (locks : Locks Task Lock) (task : Task) (held : List (Lock × Access)) : Prop where
  queued : ∀ lock access, (task, access) ∉ (locks lock).queue
  holds : ∀ lock access, (task, access) ∈ (locks lock).holders ↔ (lock, access) ∈ held

/-- The task waits for one lock and holds exactly these. -/
structure Waiting (locks : Locks Task Lock) (task : Task) (wanted : Lock × Access)
    (held : List (Lock × Access)) : Prop where
  queued : ∀ lock access, (task, access) ∈ (locks lock).queue ↔ (lock, access) = wanted
  holds : ∀ lock access, (task, access) ∈ (locks lock).holders ↔ (lock, access) ∈ held

theorem holding_new (task : Task) : (new : Locks Task Lock).Holding task [] where
  queued _ _ := List.not_mem_nil
  holds _ _ := iff_of_false List.not_mem_nil List.not_mem_nil

variable {locks next : Locks Task Lock} {task other : Task} {wanted want : Lock × Access}
  {held : List (Lock × Access)} {lock : Lock}

section Request

variable [DecidableEq Lock]

theorem holders_request (lock : Lock) :
    ((locks.request task wanted) lock).holders = (locks lock).holders := by
  by_cases mine : lock = wanted.1
  · subst mine
    rw [request, update_self]
    rfl
  · rw [request, update_of_ne mine]

theorem mem_queue_request {entry : Task × Access} :
    entry ∈ ((locks.request task wanted) lock).queue ↔
      entry ∈ (locks lock).queue ∨ entry = (task, wanted.2) ∧ lock = wanted.1 := by
  by_cases mine : lock = wanted.1
  · subst mine
    rw [request, update_self]
    simp [RwLock.request]
  · rw [request, update_of_ne mine]
    simp [mine]

theorem Holding.request (holding : locks.Holding task held) (wanted : Lock × Access) :
    (locks.request task wanted).Waiting task wanted held where
  queued lock access := by
    rw [mem_queue_request]
    simp [holding.queued, Prod.ext_iff, and_comm]
  holds lock access := by
    rw [holders_request, holding.holds]

theorem Holding.request_other (holding : locks.Holding other held) (apart : other ≠ task) :
    (locks.request task wanted).Holding other held where
  queued lock access := by
    rw [mem_queue_request]
    simp [holding.queued, apart]
  holds lock access := by
    rw [holders_request, holding.holds]

theorem Waiting.request_other (waiting : locks.Waiting other want held) (apart : other ≠ task) :
    (locks.request task wanted).Waiting other want held where
  queued lock access := by
    rw [mem_queue_request]
    simp [waiting.queued, apart]
  holds lock access := by
    rw [holders_request, waiting.holds]

end Request

section Acquire

variable [DecidableEq Lock]

theorem acquire_eq_some_iff : locks.acquire lock = some next ↔
    ∃ given, (locks lock).acquire = some given ∧ next = update locks lock given := by
  rw [acquire, Option.map_eq_some_iff]
  simp [eq_comm]

theorem acquire_self (acquired : locks.acquire lock = some next) :
    (locks lock).acquire = some (next lock) := by
  obtain ⟨given, taken, rfl⟩ := acquire_eq_some_iff.mp acquired
  rw [update_self, taken]

theorem acquire_of_ne {other : Lock} (acquired : locks.acquire lock = some next)
    (apart : other ≠ lock) : next other = locks other := by
  obtain ⟨given, -, rfl⟩ := acquire_eq_some_iff.mp acquired
  exact update_of_ne apart ..

theorem Waiting.acquire {access : Access} {rest : List (Task × Access)}
    (waiting : locks.Waiting task wanted held) (acquired : locks.acquire lock = some next)
    (nodup : (locks lock).queue.Nodup) (head : (locks lock).queue = (task, access) :: rest) :
    next.Holding task (wanted :: held) := by
  obtain ⟨given, taken, rfl⟩ := acquire_eq_some_iff.mp acquired
  obtain ⟨first, firstAccess, queue, -, holders⟩ := RwLock.acquire_eq_some_iff.mp taken
  rw [head] at queue nodup
  cases queue
  have own : (lock, access) = wanted := (waiting.queued lock access).mp (by simp [head])
  subst own
  constructor
  · intro other otherAccess among
    by_cases mine : other = lock
    · subst mine
      rw [update_self] at among
      have same := (waiting.queued other otherAccess).mp
        (head ▸ List.mem_cons_of_mem _ among)
      cases same
      exact (List.nodup_cons.mp nodup).1 among
    · rw [update_of_ne mine] at among
      exact mine (congrArg Prod.fst ((waiting.queued other otherAccess).mp among))
  · intro other otherAccess
    by_cases mine : other = lock
    · subst mine
      rw [update_self, holders, List.mem_cons, List.mem_cons, waiting.holds]
      simp
    · rw [update_of_ne mine, waiting.holds, List.mem_cons]
      simp [mine]

variable {rest : List (Task × Access)} {first : Task × Access}

theorem acquire_other
    (acquired : locks.acquire lock = some next) (head : (locks lock).queue = first :: rest)
    (apart : other ≠ first.1) (lock' : Lock) (access : Access) :
    ((other, access) ∈ (next lock').queue ↔ (other, access) ∈ (locks lock').queue) ∧
      ((other, access) ∈ (next lock').holders ↔ (other, access) ∈ (locks lock').holders) := by
  obtain ⟨given, taken, rfl⟩ := acquire_eq_some_iff.mp acquired
  obtain ⟨task, firstAccess, queue, -, holders⟩ := RwLock.acquire_eq_some_iff.mp taken
  rw [head] at queue
  obtain ⟨rfl, rfl⟩ := List.cons.inj queue
  have ne : (other, access) ≠ (task, firstAccess) :=
    fun same => apart (congrArg Prod.fst same)
  by_cases mine : lock' = lock
  · subst mine
    rw [update_self, head, holders]
    simp [ne]
  · rw [update_of_ne mine]
    simp

theorem Holding.acquire_other
    (holding : locks.Holding other held) (acquired : locks.acquire lock = some next)
    (head : (locks lock).queue = first :: rest) (apart : other ≠ first.1) :
    next.Holding other held where
  queued lock' access := by
    rw [(Locks.acquire_other acquired head apart lock' access).1]
    exact holding.queued lock' access
  holds lock' access := by
    rw [(Locks.acquire_other acquired head apart lock' access).2]
    exact holding.holds lock' access

theorem Waiting.acquire_other
    (waiting : locks.Waiting other want held) (acquired : locks.acquire lock = some next)
    (head : (locks lock).queue = first :: rest) (apart : other ≠ first.1) :
    next.Waiting other want held where
  queued lock' access := by
    rw [(Locks.acquire_other acquired head apart lock' access).1]
    exact waiting.queued lock' access
  holds lock' access := by
    rw [(Locks.acquire_other acquired head apart lock' access).2]
    exact waiting.holds lock' access

end Acquire

section Release

variable [DecidableEq Task]

theorem mem_holders_release {entry : Task × Access} : entry ∈ ((locks.release task) lock).holders ↔
      entry ∈ (locks lock).holders ∧ entry.1 ≠ task := by
  simp [release, RwLock.release]

theorem Holding.release (holding : locks.Holding task held) :
    (locks.release task).Holding task [] where
  queued := holding.queued
  holds lock access := by
    simp [mem_holders_release]

theorem Holding.release_other (holding : locks.Holding other held) (apart : other ≠ task) :
    (locks.release task).Holding other held where
  queued := holding.queued
  holds lock access := by
    simp [mem_holders_release, holding.holds, apart]

theorem Waiting.release_other (waiting : locks.Waiting other want held) (apart : other ≠ task) :
    (locks.release task).Waiting other want held where
  queued := waiting.queued
  holds lock access := by
    simp [mem_holders_release, waiting.holds, apart]

end Release

/-- Nobody waits twice for a lock, and writers are alone. -/
structure Sound (locks : Locks Task Lock) : Prop where
  nodup : ∀ lock, (locks lock).queue.Nodup
  exclusive : ∀ lock, (locks lock).Exclusive

theorem sound_new : (new : Locks Task Lock).Sound :=
  ⟨fun _ => List.nodup_nil, fun _ => RwLock.exclusive_new⟩

theorem Sound.request [DecidableEq Lock] (sound : locks.Sound)
    (holding : locks.Holding task held) (wanted : Lock × Access) :
    (locks.request task wanted).Sound := by
  constructor
  · intro lock
    by_cases mine : lock = wanted.1
    · subst mine
      rw [Locks.request, update_self]
      exact List.nodup_append'.mpr ⟨sound.nodup _, List.nodup_singleton _, by
        simpa using holding.queued wanted.1 wanted.2⟩
    · rw [Locks.request, update_of_ne mine]
      exact sound.nodup lock
  · intro lock writer among
    rw [holders_request] at among ⊢
    exact sound.exclusive lock writer among

theorem Sound.acquire [DecidableEq Lock] (sound : locks.Sound)
    (acquired : locks.acquire lock = some next) : next.Sound := by
  obtain ⟨given, taken, rfl⟩ := acquire_eq_some_iff.mp acquired
  constructor
  · intro other
    by_cases mine : other = lock
    · subst mine
      obtain ⟨task, access, queue, -⟩ := RwLock.acquire_eq_some_iff.mp taken
      have nodup := sound.nodup other
      rw [queue] at nodup
      rw [update_self]
      exact nodup.of_cons
    · rw [update_of_ne mine]
      exact sound.nodup other
  · intro other
    by_cases mine : other = lock
    · subst mine
      rw [update_self]
      exact RwLock.exclusive_of_acquire taken
    · rw [update_of_ne mine]
      exact sound.exclusive other

theorem Sound.release [DecidableEq Task] (sound : locks.Sound) (task : Task) :
    (locks.release task).Sound :=
  ⟨sound.nodup, fun lock => (sound.exclusive lock).release task⟩

end Locks

end DiagnosticAdapter.Locking
