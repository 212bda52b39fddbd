import DiagnosticAdapter.Effects.Run

/-!
# A broadcast channel

The channel keeps its newest messages for a receiver.  A receiver that has missed messages
is told so once and goes on with the oldest message that is kept.
-/

namespace DiagnosticAdapter.Effects

variable {Message : Type}

/-- All messages that were sent, and the position of the next one for the receiver. -/
structure Broadcast (Message : Type) where
  capacity : Nat
  positive : 0 < capacity
  sent : List Message
  next : Nat
  inside : next ≤ sent.length
  closed : Bool

inductive TryRecvError where
  | empty
  | closed
  | lagged (missed : Nat)
  deriving DecidableEq, Repr

inductive BroadcastEvent (Message : Type) where
  | send (message : Message)
  | recv
  | close

namespace Broadcast

/-- `channel` with its receiver. -/
def new (Message : Type) (capacity : Nat) (positive : 0 < capacity) : Broadcast Message :=
  ⟨capacity, positive, [], 0, Nat.le_refl _, false⟩

variable (channel : Broadcast Message)

def unread : Nat := channel.sent.length - channel.next

/-- The messages that the receiver can still get. -/
def pending : List Message :=
  channel.sent.drop (max channel.next (channel.sent.length - channel.capacity))

def send (message : Message) : Broadcast Message :=
  { channel with
    sent := channel.sent ++ [message]
    inside := by
      rw [List.length_append]
      exact Nat.le_add_right_of_le channel.inside }

def close : Broadcast Message := { channel with closed := true }

def toOldest : Broadcast Message :=
  { channel with next := channel.sent.length - channel.capacity, inside := Nat.sub_le _ _ }

def tryRecv : Except TryRecvError Message × Broadcast Message :=
  if more : channel.next < channel.sent.length then
    if channel.capacity < channel.unread then
      (.error (.lagged (channel.sent.length - channel.capacity - channel.next)), channel.toOldest)
    else (.ok channel.sent[channel.next], { channel with next := channel.next + 1, inside := more })
  else (.error (if channel.closed then .closed else .empty), channel)

def step (channel : Broadcast Message) : BroadcastEvent Message → Broadcast Message
  | .send message => channel.send message
  | .recv => channel.tryRecv.2
  | .close => channel.close

def positionsRead (channel : Broadcast Message) : List (BroadcastEvent Message) → List Nat
  | [] => []
  | .recv :: events =>
    match channel.tryRecv.1 with
    | .ok _ => channel.next :: positionsRead channel.tryRecv.2 events
    | .error _ => positionsRead channel.tryRecv.2 events
  | .send message :: events => positionsRead (channel.send message) events
  | .close :: events => positionsRead channel.close events

variable {channel}

theorem pending_eq_nil_iff : channel.pending = [] ↔ channel.unread = 0 := by
  have positive := channel.positive
  have inside := channel.inside
  rw [pending, unread, List.drop_eq_nil_iff]
  omega

theorem tryRecv_cases (channel : Broadcast Message) :
    (channel.unread = 0 ∧ ∃ error, channel.tryRecv = (.error error, channel)) ∨
    (0 < channel.unread ∧ channel.unread ≤ channel.capacity ∧ ∃ message after,
      channel.tryRecv = (.ok message, after) ∧ after.next = channel.next + 1 ∧
        after.sent = channel.sent ∧ after.capacity = channel.capacity) ∨
    (channel.capacity < channel.unread ∧ ∃ missed,
      channel.tryRecv = (.error (.lagged missed), channel.toOldest)) := by
  have inside := channel.inside
  by_cases more : channel.next < channel.sent.length
  · have some : 0 < channel.unread := by
      rw [unread]
      omega
    by_cases lagged : channel.capacity < channel.unread
    · right; right
      refine ⟨lagged, channel.sent.length - channel.capacity - channel.next, ?_⟩
      rw [tryRecv, dif_pos more, if_pos lagged]
    · right; left
      refine ⟨some, Nat.le_of_not_lt lagged, channel.sent[channel.next],
        { channel with next := channel.next + 1, inside := more }, ?_, rfl, rfl, rfl⟩
      rw [tryRecv, dif_pos more, if_neg lagged]
  · left
    refine ⟨Nat.sub_eq_zero_of_le (Nat.le_of_not_lt more),
      if channel.closed then .closed else .empty, ?_⟩
    rw [tryRecv, dif_neg more]

theorem next_le_tryRecv (channel : Broadcast Message) : channel.next ≤ channel.tryRecv.2.next := by
  obtain ⟨_, _, ran⟩ | ⟨_, _, _, _, ran, next, _⟩ | ⟨lagged, _, ran⟩ := tryRecv_cases channel
  · exact Nat.le_of_eq (by rw [ran])
  · rw [ran]
    exact Nat.le_trans (Nat.le_succ _) (Nat.le_of_eq next.symm)
  · rw [ran]
    rw [unread] at lagged
    change channel.next ≤ channel.sent.length - channel.capacity
    omega

theorem capacity_step (channel : Broadcast Message) (event : BroadcastEvent Message) :
    (channel.step event).capacity = channel.capacity := by
  cases event with
  | send message => rfl
  | close => rfl
  | recv =>
    obtain ⟨_, _, ran⟩ | ⟨_, _, _, _, ran, _, _, same⟩ | ⟨_, _, ran⟩ := tryRecv_cases channel
    · rw [step, ran]
    · rw [step, ran]
      exact same
    · rw [step, ran]
      rfl

theorem le_of_mem_positionsRead {events : List (BroadcastEvent Message)} {position : Nat}
    (isRead : position ∈ channel.positionsRead events) : channel.next ≤ position := by
  induction events generalizing channel with
  | nil => cases isRead
  | cons event events ih =>
    cases event with
    | send message => exact @ih (channel.send message) isRead
    | close => exact @ih channel.close isRead
    | recv =>
      have forward := next_le_tryRecv channel
      rw [positionsRead] at isRead
      split at isRead
      · obtain rfl | later := List.mem_cons.1 isRead
        · exact Nat.le_refl _
        · exact Nat.le_trans forward (ih later)
      · exact Nat.le_trans forward (ih isRead)

end Broadcast

end DiagnosticAdapter.Effects
