import DiagnosticAdapter.Locking.Tasks
import Mathlib.Order.WellFounded
import Mathlib.Data.List.Lemmas

/-!
# Tasks that take locks in ascending order finish

In a run in which a lock is eventually given to the head of its queue when it can be, and a
task that has been given its lock eventually goes on, every call comes to its end.  The holders of a
lock wait for higher locks only, so all of them release it, from the highest lock down.
-/

namespace DiagnosticAdapter.Locking

universe u v w

variable {Task : Type u} {Lock : Type v} {Phase : Type w} [Preorder Lock] [DecidableEq Task]
  [DecidableEq Lock]

/-- An infinite run; `none` where nothing happens.  What stays possible happens at last. -/
structure FairRun (discipline : Discipline Phase Lock) (config : ℕ → Config Task Lock Phase)
    (event : ℕ → Option (Event Task Lock)) : Prop where
  placed : (config 0).Placed discipline
  moves : ∀ n, Moves discipline (config n) (event n) (config (n + 1))
  acquires : ∀ lock n, ∃ m, n ≤ m ∧
    (event m = some (.acquire lock) ∨ (config m).locks.acquire lock = none)
  polls : ∀ task n, ∃ m, n ≤ m ∧
    (event m = some (.poll task) ∨ ∀ phase, ¬(config m).GrantedAt discipline task phase)

/-- What holds until something happens, and does not hold forever, holds when it happens. -/
theorem exists_happens (holds happens : ℕ → Prop) {n : ℕ} (start : holds n)
    (keeps : ∀ m, n ≤ m → holds m → ¬happens m → holds (m + 1))
    (eventually : ∃ m, n ≤ m ∧ (happens m ∨ ¬holds m)) : ∃ m, n ≤ m ∧ holds m ∧ happens m := by
  by_contra never
  have always : ∀ m, n ≤ m → holds m := by
    intro m later
    induction m, later using Nat.le_induction with
    | base => exact start
    | succ m later ih =>
      apply keeps m later ih
      exact fun now => never ⟨m, later, ih, now⟩
  obtain ⟨m, later, now | not⟩ := eventually
  · exact never ⟨m, later, always m later, now⟩
  · exact not (always m later)

namespace FairRun

variable {discipline : Discipline Phase Lock} {config : ℕ → Config Task Lock Phase}
  {event : ℕ → Option (Event Task Lock)} {task : Task} {phase : Phase} {lock : Lock} {n : ℕ}
  {access : Access}

theorem placed_at (run : FairRun discipline config event) (n : ℕ) :
    (config n).Placed discipline := by
  induction n with
  | zero => exact run.placed
  | succ n ih => exact ih.moves (run.moves n)

theorem advances_of_granted (run : FairRun discipline config event)
    (granted : (config n).GrantedAt discipline task phase) :
    ∃ m, n ≤ m ∧ ((config m).calls task = none ∨ ∃ later, (config m).calls task = some later ∧
      discipline.remaining later < discipline.remaining phase) := by
  obtain ⟨m, later, current, polled⟩ :=
    exists_happens (fun m => (config m).GrantedAt discipline task phase)
      (fun m => event m = some (.poll task)) granted
      (fun m _ current unpolled => ⟨(run.moves m).calls current.1 unpolled,
        (run.moves m).holders_of_unpolled unpolled current.2⟩)
      (by
        obtain ⟨m, later, polled | never⟩ := run.polls task n
        · exact ⟨m, later, .inl polled⟩
        · exact ⟨m, later, .inr (never phase)⟩)
  have moved := run.moves m
  rw [polled] at moved
  exact ⟨m + 1, Nat.le_succ_of_le later, moved.polled current.1⟩

def Releases (config : ℕ → Config Task Lock Phase) (lock : Lock) : Prop :=
  ∀ n, ∀ entry ∈ ((config n).locks lock).holders, ∃ m, n ≤ m ∧
    entry ∉ ((config m).locks lock).holders

section

variable (run : FairRun discipline config event)

include run

theorem holders_antitone (never : ∀ m, n ≤ m → event m ≠ some (.acquire lock)) {m k : ℕ}
    (start : n ≤ m) (later : m ≤ k) :
    ((config k).locks lock).holders ⊆ ((config m).locks lock).holders := by
  induction k, later using Nat.le_induction with
  | base => exact fun _ among => among
  | succ k later ih =>
    have shrinks := (run.moves k).holders_subset (never k (start.trans later))
    exact fun _ held => ih (shrinks held)

theorem exists_free (releases : Releases config lock)
    (never : ∀ m, n ≤ m → event m ≠ some (.acquire lock)) :
    ∃ m, n ≤ m ∧ ((config m).locks lock).holders = [] := by
  have emptied : ∀ entries : List (Task × Access), ∃ m, n ≤ m ∧
      ∀ entry ∈ entries, entry ∉ ((config m).locks lock).holders := by
    intro entries
    induction entries with
    | nil => exact ⟨n, le_refl n, by simp⟩
    | cons entry entries ih =>
      obtain ⟨m, later, gone⟩ := ih
      by_cases holds : entry ∈ ((config m).locks lock).holders
      · obtain ⟨k, after, released⟩ := releases m entry holds
        refine ⟨k, later.trans after, List.forall_mem_cons.mpr ⟨released, ?_⟩⟩
        intro other among held
        exact gone other among (run.holders_antitone never later after held)
      · exact ⟨m, later, List.forall_mem_cons.mpr ⟨holds, gone⟩⟩
  obtain ⟨m, later, gone⟩ := emptied ((config n).locks lock).holders
  refine ⟨m, later, List.eq_nil_iff_forall_not_mem.mpr fun entry held => ?_⟩
  exact gone entry (run.holders_antitone never (le_refl n) later held) held

/-- The head of a queue is given the lock; until then the queue only grows at its end. -/
theorem exists_acquire (releases : Releases config lock)
    (waiting : ((config n).locks lock).queue ≠ []) :
    ∃ m, n ≤ m ∧ (∃ extra, ((config m).locks lock).queue = ((config n).locks lock).queue ++ extra) ∧
      event m = some (.acquire lock) := by
  refine exists_happens
    (fun m => ∃ extra, ((config m).locks lock).queue = ((config n).locks lock).queue ++ extra)
    (fun m => event m = some (.acquire lock)) ⟨[], (List.append_nil _).symm⟩ ?_ ?_
  · rintro m _ ⟨extra, queue⟩ unacquired
    obtain ⟨further, grown⟩ := (run.moves m).queue unacquired
    exact ⟨extra ++ further, by rw [grown, queue, List.append_assoc]⟩
  · by_contra never
    have unacquired : ∀ m, n ≤ m → event m ≠ some (.acquire lock) :=
      fun m later now => never ⟨m, later, .inl now⟩
    have queued : ∀ m, n ≤ m → ((config m).locks lock).queue ≠ [] := by
      intro m later empty
      refine never ⟨m, later, .inr ?_⟩
      rintro ⟨extra, queue⟩
      rw [empty] at queue
      exact waiting (List.append_eq_nil_iff.mp queue.symm).1
    obtain ⟨m, later, free⟩ := run.exists_free releases unacquired
    obtain ⟨k, after, now | blocked⟩ := run.acquires lock m
    · exact unacquired k (later.trans after) now
    · have empty : ((config k).locks lock).holders = [] :=
        List.subset_nil.mp (free ▸ run.holders_antitone unacquired later after)
      rw [Locks.acquire, Option.map_eq_none_iff] at blocked
      exact RwLock.acquire_ne_none empty (queued k (later.trans after)) blocked

theorem exists_holds (releases : Releases config lock) {front rest : List (Task × Access)}
    {entry : Task × Access} (queue : ((config n).locks lock).queue = front ++ entry :: rest) :
    ∃ m, n ≤ m ∧ entry ∈ ((config m).locks lock).holders := by
  have waiting : ((config n).locks lock).queue ≠ [] := by simp [queue]
  induction front generalizing n rest with
  | nil =>
    obtain ⟨m, later, ⟨extra, grown⟩, now⟩ := run.exists_acquire releases waiting
    obtain ⟨task, access, head, -, holders⟩ :=
      RwLock.acquire_eq_some_iff.mp (now ▸ run.moves m).acquired
    rw [grown, queue] at head
    obtain ⟨rfl, -⟩ := List.cons.inj head
    exact ⟨m + 1, Nat.le_succ_of_le later, holders ▸ List.mem_cons_self⟩
  | cons first front ih =>
    obtain ⟨m, later, ⟨extra, grown⟩, now⟩ := run.exists_acquire releases waiting
    obtain ⟨task, access, head, -⟩ :=
      RwLock.acquire_eq_some_iff.mp (now ▸ run.moves m).acquired
    rw [grown, queue] at head
    have shorter : ((config (m + 1)).locks lock).queue = front ++ entry :: (rest ++ extra) := by
      simpa using (List.cons.inj head).2.symm
    obtain ⟨k, after, holds⟩ := ih shorter (by simp [shorter])
    exact ⟨k, (Nat.le_succ_of_le later).trans after, holds⟩

theorem not_granted_of_queued
    (queued : (task, (discipline.wanted phase).2) ∈ ((config n).locks (discipline.wanted phase).1).queue) :
    ¬(config n).GrantedAt discipline task phase := by
  intro granted
  exact ((run.placed_at n).holding granted).queued _ _ queued

end

section

variable (run : FairRun discipline config event)
  (releases : Releases config (discipline.wanted phase).1)
  (called : (config n).calls task = some phase)

include run releases called

theorem exists_granted : ∃ m, n ≤ m ∧ (config m).GrantedAt discipline task phase := by
  have place := (run.placed_at n).places task
  rw [called] at place
  obtain waiting | holding := place
  · let granted := fun m => (config (m + 1)).GrantedAt discipline task phase
    have queuedNow :=
      (waiting.queued (discipline.wanted phase).1 (discipline.wanted phase).2).mpr rfl
    obtain ⟨m, later, -, now⟩ := exists_happens (fun m => (config m).calls task = some phase ∧
        (task, (discipline.wanted phase).2) ∈ ((config m).locks (discipline.wanted phase).1).queue)
      granted ⟨called, queuedNow⟩ (by
        rintro m - ⟨current, queued⟩ ungranted
        have unpolled : event m ≠ some (.poll task) := fun polled =>
          run.not_granted_of_queued queued ((polled ▸ run.moves m).granted current)
        refine ⟨(run.moves m).calls current unpolled, ?_⟩
        by_cases acquired : event m = some (.acquire (discipline.wanted phase).1)
        · obtain ⟨first, access, head, -, holders⟩ :=
            RwLock.acquire_eq_some_iff.mp (acquired ▸ run.moves m).acquired
          rw [head] at queued
          obtain same | behind := List.mem_cons.mp queued
          · refine absurd ⟨(run.moves m).calls current unpolled, ?_⟩ ungranted
            exact holders ▸ same ▸ List.mem_cons_self
          · exact behind
        · obtain ⟨extra, grown⟩ := (run.moves m).queue acquired
          exact grown ▸ List.mem_append_left extra queued) (by
        obtain ⟨front, rest, queue⟩ := List.append_of_mem queuedNow
        obtain ⟨m, later, holds⟩ := run.exists_holds releases queue
        refine ⟨m, later, .inr fun still => ?_⟩
        exact run.not_granted_of_queued still.2 ⟨still.1, holds⟩)
    exact ⟨m + 1, Nat.le_succ_of_le later, now⟩
  · exact ⟨n, le_refl n, called, (holding.holds _ _).mpr List.mem_cons_self⟩

theorem advances :
    ∃ m, n ≤ m ∧ ((config m).calls task = none ∨ ∃ later, (config m).calls task = some later ∧
      discipline.remaining later < discipline.remaining phase) := by
  obtain ⟨m, later, granted⟩ := run.exists_granted releases called
  obtain ⟨k, after, advanced⟩ := run.advances_of_granted granted
  exact ⟨k, later.trans after, advanced⟩

end

variable [WellFoundedGT Lock]

/-- Every lock is released, by induction from the highest lock down and on the awaits that its
holder has still to come. -/
theorem releases (run : FairRun discipline config event) (lock : Lock) : Releases config lock := by
  induction lock using WellFoundedGT.induction with
  | ind lock higher =>
    rintro n ⟨task, access⟩ holds
    have place := (run.placed_at n).places task
    cases called : (config n).calls task with
    | none =>
      rw [called] at place
      exact absurd ((place.holds lock access).mp holds) List.not_mem_nil
    | some phase =>
      clear place
      induction count : discipline.remaining phase using Nat.strong_induction_on
        generalizing n phase with
      | h count fewer =>
        have advanced : ∃ m, n ≤ m ∧ ((config m).calls task = none ∨ ∃ later,
            (config m).calls task = some later ∧
              discipline.remaining later < discipline.remaining phase) := by
          have place := (run.placed_at n).places task
          rw [called] at place
          obtain waiting | holding := place
          · have below := discipline.ascending phase _ ((waiting.holds lock access).mp holds)
            exact run.advances (higher _ below) called
          · exact run.advances_of_granted
              ⟨called, (holding.holds _ _).mpr List.mem_cons_self⟩
        obtain ⟨m, later, state⟩ := advanced
        by_cases still : (task, access) ∈ ((config m).locks lock).holders
        · obtain finished | ⟨next, current, less⟩ := state
          · have place := (run.placed_at m).places task
            rw [finished] at place
            exact absurd ((place.holds lock access).mp still) List.not_mem_nil
          · obtain ⟨k, after, released⟩ :=
              fewer _ (count ▸ less) m still next current rfl
            exact ⟨k, later.trans after, released⟩
        · exact ⟨m, later, still⟩

theorem finishes (run : FairRun discipline config event)
    (called : (config n).calls task = some phase) :
    ∃ m, n ≤ m ∧ (config m).calls task = none := by
  induction count : discipline.remaining phase using Nat.strong_induction_on
    generalizing n phase with
  | h count fewer =>
    obtain ⟨m, later, finished | ⟨next, current, less⟩⟩ :=
      run.advances (run.releases _) called
    · exact ⟨m, later, finished⟩
    · obtain ⟨k, after, finished⟩ := fewer _ (count ▸ less) current rfl
      exact ⟨k, later.trans after, finished⟩

end FairRun

end DiagnosticAdapter.Locking
