import DiagnosticAdapter.Doip.SendTask

/-!
# The position of the acknowledgement

A message that overtakes the Ack counts as one; the Ack itself then meets the loop that
reads responses, which has no use for it.
-/

namespace DiagnosticAdapter.Doip

open Codec (DiagServiceError)
open Uds

def DiagnosticMessage.received (message : DiagnosticMessage) : SendEvent :=
  .receive (.response (.msg message))

def DiagnosticMessage.classification (message : DiagnosticMessage) : Delivery :=
  .ok (some message.toTransport)

/-- The messages, with an Ack after the first so many of them. -/
def withAck (messages : List DiagnosticMessage) (position : Nat) (address : UInt16)
    (previous : List UInt8) : List SendEvent :=
  (messages.take position).map (·.received) ++
    .receive (.response (.ack address previous)) :: (messages.drop position).map (·.received)

def overtakenAck : Delivery :=
  .error (.badPayload "Unexpected DoIP event type in UDS response stream")

section

variable (request : List UInt8) (expectUdsReply : Bool)

theorem receiveAll_reading (responses : List DiagnosticResponse) :
    receiveAll request expectUdsReply .reading
      (responses.map fun response => .receive (.response response)) =
      responses.map diagnosticResponseToTransport := by
  induction responses with
  | nil => rfl
  | cons response responses ih =>
    simp only [List.map_cons, receiveAll, receive, ih, List.cons_append, List.nil_append]

theorem receiveAll_reading_messages (messages : List DiagnosticMessage) :
    receiveAll request expectUdsReply .reading (messages.map (·.received)) =
      messages.map (·.classification) := by
  have read := receiveAll_reading request expectUdsReply
    (messages.map .msg)
  rw [List.map_map, List.map_map] at read
  exact read

theorem receiveAll_reading_withAck (messages : List DiagnosticMessage) (position : Nat)
    (address : UInt16) (previous : List UInt8) :
    receiveAll request expectUdsReply .reading (withAck messages position address previous) =
      (messages.take position).map (·.classification) ++
        overtakenAck :: (messages.drop position).map (·.classification) := by
  have read := receiveAll_reading request expectUdsReply
    ((messages.take position).map .msg ++
      .ack address previous :: (messages.drop position).map .msg)
  simp only [List.map_append, List.map_cons, List.map_map] at read
  exact read

end

section

variable {request : List UInt8}

theorem send_withAck_zero {sid : UInt8} (isFirst : request.head? = some sid)
    {previous : List UInt8} (echo : previous <+: request) (address : UInt16)
    (messages : List DiagnosticMessage) :
    send request true (.ok ()) (withAck messages 0 address previous) =
      messages.map (·.classification) := by
  obtain ⟨rest, rfl⟩ : ∃ rest, request = sid :: rest := List.head?_eq_some_iff.mp isFirst
  have matched : (DiagnosticResponse.ack address previous).matchesRequest (sid :: rest) = true := by
    simpa only [DiagnosticResponse.matchesRequest, List.isPrefixOf_iff_prefix] using echo
  simp only [send, withAck, List.take_zero, List.map_nil, List.nil_append, List.drop_zero,
    receiveAll, receive, matched, if_true, acknowledged, receiveAll_reading_messages]

theorem send_withAck_succ {sid : UInt8} (isFirst : request.head? = some sid)
    {message : DiagnosticMessage}
    (answers : udsResponseMatchesRequestSid sid message.data = true)
    (messages : List DiagnosticMessage) (position : Nat) (address : UInt16)
    (previous : List UInt8) :
    send request true (.ok ()) (withAck (message :: messages) (position + 1) address previous) =
      ((message :: messages).take (position + 1)).map (·.classification) ++
        overtakenAck :: ((message :: messages).drop (position + 1)).map (·.classification) := by
  obtain ⟨rest, rfl⟩ : ∃ rest, request = sid :: rest := List.head?_eq_some_iff.mp isFirst
  have matched : (DiagnosticResponse.msg message).matchesRequest (sid :: rest) = true := answers
  have split : withAck (message :: messages) (position + 1) address previous =
      message.received :: withAck messages position address previous := rfl
  simp only [send, split, receiveAll, DiagnosticMessage.received, receive, matched, if_true,
    receiveAll_reading_withAck, acknowledged, List.nil_append]
  rfl

end

theorem classification_ne_overtakenAck (message : DiagnosticMessage) :
    message.classification ≠ overtakenAck := by
  intro same
  cases same

theorem forwarded_append_cons_iff {before after : List Delivery} {item : Delivery}
    (foreign : item ∉ after) (dropsAfter : Option Nat) :
    forwarded dropsAfter (before ++ item :: after) = forwarded dropsAfter (before ++ after) ↔
      ∃ count, dropsAfter = some count ∧ count ≤ before.length := by
  cases dropsAfter with
  | none =>
    constructor
    · intro same
      have lengths := congrArg List.length same
      simp [forwarded] at lengths
    · intro ⟨count, isNone, _⟩
      cases isNone
  | some count =>
    constructor
    · intro same
      refine ⟨count, rfl, ?_⟩
      by_contra beyond
      obtain ⟨more, isMore⟩ : ∃ more, count = before.length + (more + 1) :=
        ⟨count - before.length - 1, by omega⟩
      rw [forwarded, forwarded, isMore, List.take_length_add_append,
        List.take_length_add_append, List.append_cancel_left_eq, List.take_succ_cons] at same
      have mem : item ∈ after.take (more + 1) := by
        rw [← same]
        exact List.mem_cons_self
      exact foreign (List.mem_of_mem_take mem)
    · intro ⟨bound, isCount, within⟩
      cases isCount
      rw [forwarded, forwarded, List.take_append_of_le_length within,
        List.take_append_of_le_length within]

/-- The messages are forwarded as they are exactly if the Ack comes before them, or after
the caller has gone. -/
theorem forwarded_send_eq_iff {request : List UInt8} {sid : UInt8}
    (isFirst : request.head? = some sid) {messages : List DiagnosticMessage}
    (answers : ∀ message ∈ messages, udsResponseMatchesRequestSid sid message.data = true)
    {previous : List UInt8} (echo : previous <+: request) (address : UInt16) {position : Nat}
    (inside : position ≤ messages.length) (dropsAfter : Option Nat) :
    forwarded dropsAfter (send request true (.ok ()) (withAck messages position address previous)) =
      forwarded dropsAfter (messages.map (·.classification)) ↔
      position = 0 ∨ ∃ count, dropsAfter = some count ∧ count ≤ position := by
  cases position with
  | zero =>
    rw [send_withAck_zero isFirst echo]
    simp
  | succ position =>
    obtain ⟨message, rest, rfl⟩ : ∃ message rest, messages = message :: rest :=
      List.exists_cons_of_length_pos (by omega)
    have absent :
        overtakenAck ∉ ((message :: rest).drop (position + 1)).map (·.classification) := by
      intro mem
      obtain ⟨other, -, same⟩ := List.mem_map.mp mem
      exact classification_ne_overtakenAck other same
    have whole : (message :: rest).map (·.classification) =
        ((message :: rest).take (position + 1)).map (·.classification) ++
          ((message :: rest).drop (position + 1)).map (·.classification) := by
      rw [← List.map_append, List.take_append_drop]
    have length :
        (((message :: rest).take (position + 1)).map (·.classification)).length = position + 1 := by
      rw [List.length_map, List.length_take, Nat.min_eq_left inside]
    rw [send_withAck_succ isFirst (answers message List.mem_cons_self), whole,
      forwarded_append_cons_iff absent, length]
    simp

def readRequest : List UInt8 := [0x22, 0xF1, 0x90]

def pendingThenAnswer : List DiagnosticMessage :=
  [⟨0x1001, 0x0E00, [0x7F, 0x22, 0x78]⟩, ⟨0x1001, 0x0E00, [0x62, 0xF1, 0x90, 0x41]⟩]

/-- The Ack first, and the Ack after a caller that drops its end with the answer. -/
theorem forwarded_send_pendingThenAnswer : forwarded none (send readRequest true (.ok ())
        (withAck pendingThenAnswer 0 0x1001 [0x22, 0xF1])) =
      forwarded none (pendingThenAnswer.map (·.classification)) ∧
    forwarded (some 2) (send readRequest true (.ok ())
        (withAck pendingThenAnswer 2 0x1001 [0x22, 0xF1])) =
      forwarded (some 2) (pendingThenAnswer.map (·.classification)) := by
  have answers : ∀ message ∈ pendingThenAnswer,
      udsResponseMatchesRequestSid 0x22 message.data = true := by decide
  have isFirst : readRequest.head? = some 0x22 := rfl
  have echo : [0x22, 0xF1] <+: readRequest := ⟨[0x90], rfl⟩
  exact ⟨(forwarded_send_eq_iff isFirst answers echo _ (Nat.zero_le _) none).mpr (Or.inl rfl),
    (forwarded_send_eq_iff isFirst answers echo _ (by decide) (some 2)).mpr
      (Or.inr ⟨2, rfl, Nat.le_refl _⟩)⟩

/-- An Ack between the two is an error for a caller that waits for the answer. -/
theorem ack_position_matters :
    ¬ ∀ (request : List UInt8) (sid : UInt8) (messages : List DiagnosticMessage)
        (previous : List UInt8) (address : UInt16) (position : Nat),
      request.head? = some sid →
      (∀ message ∈ messages, udsResponseMatchesRequestSid sid message.data = true) →
      previous <+: request → position ≤ messages.length →
      send request true (.ok ()) (withAck messages position address previous) =
        messages.map (·.classification) := by
  intro everyPositionSame
  have same := everyPositionSame readRequest 0x22 pendingThenAnswer [0x22, 0xF1] 0x1001 1 rfl
    (by decide) ⟨[0x90], rfl⟩ (by decide)
  have lengths := congrArg List.length same
  exact absurd lengths (by decide)

end DiagnosticAdapter.Doip
