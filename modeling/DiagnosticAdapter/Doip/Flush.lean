import DiagnosticAdapter.Effects.Broadcast

/-!
# The flush before a request

`DoipDiagGateway::send` and `send_functional` empty the channel of the ECU's answers
before they send: `clear_pending_messages` receives until it does not get a message.
-/

namespace DiagnosticAdapter.Doip

open Effects

variable {Message : Type} {channel after : Broadcast Message}

theorem unread_tryRecv_lt {message : Message}
    (received : channel.tryRecv = (.ok message, after)) : after.unread < channel.unread := by
  obtain ⟨_, _, ran⟩ | ⟨some, _, _, _, ran, next, sent, _⟩ | ⟨_, _, ran⟩ :=
    Broadcast.tryRecv_cases channel
  · rw [ran] at received
    cases received
  · cases ran.symm.trans received
    rw [Broadcast.unread] at some
    rw [Broadcast.unread, Broadcast.unread, next, sent]
    omega
  · rw [ran] at received
    cases received

/-- `while receiver.try_recv().is_ok() {}` -/
def clearPendingMessages (channel : Broadcast Message) : Broadcast Message :=
  match received : channel.tryRecv with
  | (.ok _, after) => clearPendingMessages after
  | (.error _, after) => after
termination_by channel.unread
decreasing_by exact unread_tryRecv_lt received

theorem clearPendingMessages_of_ok {message : Message}
    (received : channel.tryRecv = (.ok message, after)) :
    clearPendingMessages channel = clearPendingMessages after := by
  rw [clearPendingMessages]
  split
  · rename_i found
    cases received.symm.trans found
    rfl
  · rename_i found
    cases received.symm.trans found

theorem clearPendingMessages_of_error {error : TryRecvError}
    (received : channel.tryRecv = (.error error, after)) : clearPendingMessages channel = after := by
  rw [clearPendingMessages]
  split
  · rename_i found
    cases received.symm.trans found
  · rename_i found
    cases received.symm.trans found
    rfl

theorem next_clear_of_kept {channel : Broadcast Message}
    (kept : channel.unread ≤ channel.capacity) :
    (clearPendingMessages channel).next = channel.sent.length ∧
      (clearPendingMessages channel).sent = channel.sent := by
  induction channel using clearPendingMessages.induct with
  | case1 channel message after received ih =>
    rw [clearPendingMessages_of_ok received]
    obtain ⟨_, _, ran⟩ | ⟨some, _, _, _, ran, next, sent, capacity⟩ | ⟨lagged, _⟩ :=
      Broadcast.tryRecv_cases channel
    · cases ran.symm.trans received
    · cases ran.symm.trans received
      rw [← sent]
      apply ih
      have fewer := unread_tryRecv_lt received
      omega
    · exact absurd kept (Nat.not_le_of_lt lagged)
  | case2 channel error after received =>
    rw [clearPendingMessages_of_error received]
    obtain ⟨none, _, ran⟩ | ⟨_, _, _, _, ran, _⟩ | ⟨lagged, _⟩ := Broadcast.tryRecv_cases channel
    · cases ran.symm.trans received
      have inside := channel.inside
      rw [Broadcast.unread] at none
      exact ⟨by omega, rfl⟩
    · cases ran.symm.trans received
    · exact absurd kept (Nat.not_le_of_lt lagged)

/-- A receiver that has missed messages is told so, and the messages that are kept stay. -/
theorem clear_of_lagged {channel : Broadcast Message} (lagged : channel.capacity < channel.unread) :
    clearPendingMessages channel = channel.toOldest := by
  obtain ⟨none, _⟩ | ⟨_, kept, _⟩ | ⟨_, _, ran⟩ := Broadcast.tryRecv_cases channel
  · omega
  · omega
  · exact clearPendingMessages_of_error ran

/-- No message that was sent before the flush is held after it, and none is read then. -/
def Flushed (channel : Broadcast Message) : Prop :=
  (clearPendingMessages channel).pending = [] ∧
    ∀ events, ∀ position ∈ (clearPendingMessages channel).positionsRead events,
      channel.sent.length ≤ position

/-- After any history the flush is complete exactly where the receiver has missed nothing. -/
theorem flushed_iff {capacity : Nat} {positive : 0 < capacity}
    {history : List (BroadcastEvent Message)} {channel : Broadcast Message}
    (run : Run (fun channel event after => channel.step event = after)
      (Broadcast.new Message capacity positive) history channel) :
    Flushed channel ↔ channel.unread ≤ capacity := by
  have same : channel.capacity = capacity := by
    apply run.keeps fun _ channel => channel.capacity = capacity
    · rfl
    · intro events event channel after kept taken
      rw [← taken, Broadcast.capacity_step, kept]
  rw [← same]
  constructor
  · intro flushed
    by_contra lagged
    have missed := clear_of_lagged (Nat.lt_of_not_le lagged)
    have empty := Broadcast.pending_eq_nil_iff.1 flushed.1
    rw [missed, Broadcast.unread] at empty
    change channel.sent.length - (channel.sent.length - channel.capacity) = 0 at empty
    have positive := channel.positive
    rw [Broadcast.unread] at lagged
    omega
  · intro kept
    obtain ⟨next, sent⟩ := next_clear_of_kept kept
    constructor
    · rw [Broadcast.pending_eq_nil_iff, Broadcast.unread, sent, next, Nat.sub_self]
    · intro events position isRead
      rw [← next]
      exact Broadcast.le_of_mem_positionsRead isRead

/-- What the channel keeps of the 10 messages that it is made for: the next power of two. -/
def keptAnswers : Nat := 16

/-- An answer that came late is thrown away before the next request. -/
def lateAnswer : List (BroadcastEvent UInt8) := [.send 0x62, .recv, .send 0x7F]

theorem lateAnswer_flushed :
    Flushed (lateAnswer.foldl Broadcast.step (.new UInt8 keptAnswers (by decide))) :=
  (flushed_iff (Run.of_foldl lateAnswer)).2 (by decide)

def unreadAnswers : Broadcast UInt8 :=
  (List.replicate 17 (.send 0x62)).foldl Broadcast.step (.new UInt8 keptAnswers (by decide))

/-- The flush stops at the notice that messages were missed, in front of those that are kept. -/
theorem unreadAnswers_not_flushed : Run (fun channel event after => channel.step event = after)
        (Broadcast.new UInt8 keptAnswers (by decide)) (List.replicate 17 (.send 0x62))
          unreadAnswers ∧
      (clearPendingMessages unreadAnswers).pending = List.replicate keptAnswers 0x62 ∧
      ¬Flushed unreadAnswers := by
  have left : (clearPendingMessages unreadAnswers).pending = List.replicate keptAnswers 0x62 := by
    rw [clear_of_lagged (by decide)]
    decide
  refine ⟨Run.of_foldl _, left, ?_⟩
  intro flushed
  rw [Flushed, left] at flushed
  cases flushed.1

end DiagnosticAdapter.Doip
