import Mathlib.Data.List.Basic

/-!
# Reading frames from a stream

A framed reader keeps the bytes it has read beyond the current message in a buffer.  What
it yields does not depend on how the stream is cut into reads; how much is in the buffer
does.
-/

namespace DiagnosticAdapter.Framing

universe u

/-- `decode` asks for more bytes with `none`. -/
structure Codec (Message : Type u) where
  encode : Message → List UInt8
  decode : List UInt8 → Option (Except String (Message × List UInt8))

structure Framed where
  buffer : List UInt8
  incoming : List (List UInt8)
  hasErrored : Bool
  deriving DecidableEq, Repr

namespace Framed

def new (incoming : List (List UInt8)) : Framed := ⟨[], incoming, false⟩

end Framed

namespace Codec

variable {Message : Type u} (codec : Codec Message)

/-- The message at the front of the buffer, after as many reads as it takes. -/
def poll (incoming : List (List UInt8)) (buffer : List UInt8) :
    Option (Except String Message) × Framed :=
  match codec.decode buffer with
  | some (.ok (message, rest)) => (some (.ok message), ⟨rest, incoming, false⟩)
  | some (.error e) => (some (.error e), ⟨buffer, incoming, true⟩)
  | none =>
    match incoming with
    | [] => (none, ⟨buffer, [], false⟩)
    | chunk :: chunks => poll chunks (buffer ++ chunk)

/-- The next item, or `none` where the transport has no more; an error ends the items once. -/
def next (framed : Framed) : Option (Except String Message) × Framed :=
  if framed.hasErrored then (none, { framed with hasErrored := false })
  else codec.poll framed.incoming framed.buffer

def results : Nat → Framed → List (Option (Except String Message))
  | 0, _ => []
  | count + 1, framed => (codec.next framed).1 :: results count (codec.next framed).2

/-- The codec decodes each of the messages from its bytes, whatever follows them, and not
earlier. -/
structure Frames (messages : List Message) : Prop where
  empty : codec.decode [] = none
  complete : ∀ message ∈ messages, ∀ rest,
    codec.decode (codec.encode message ++ rest) = some (.ok (message, rest))
  incomplete : ∀ message ∈ messages, ∀ part, part <+: codec.encode message →
    part ≠ codec.encode message → codec.decode part = none
  length : ∀ message ∈ messages, ∀ bytes rest, codec.decode bytes = some (.ok (message, rest)) →
      (codec.encode message).length + rest.length = bytes.length

variable {codec} {messages : List Message} {incoming : List (List UInt8)} {message : Message}

theorem poll_of_ok {buffer rest : List UInt8}
    (decoded : codec.decode buffer = some (.ok (message, rest))) :
    codec.poll incoming buffer = (some (.ok message), ⟨rest, incoming, false⟩) := by
  unfold poll
  simp only [decoded]

variable {buffer : List UInt8}

theorem poll_cons_of_none {chunk : List UInt8} {chunks : List (List UInt8)}
    (undecoded : codec.decode buffer = none) :
    codec.poll (chunk :: chunks) buffer = codec.poll chunks (buffer ++ chunk) := by
  conv_lhs => unfold poll
  simp only [undecoded]

section

variable (frames : codec.Frames messages)

include frames

theorem poll_first (mem : message ∈ messages) {buffer tail : List UInt8}
    (stream : buffer ++ incoming.flatten = codec.encode message ++ tail) :
    ∃ rest chunks, codec.poll incoming buffer = (some (.ok message), ⟨rest, chunks, false⟩) ∧
      rest ++ chunks.flatten = tail ∧
      (rest = [] ↔ ∃ count, buffer ++ (incoming.take count).flatten = codec.encode message) := by
  induction incoming generalizing buffer with
  | nil =>
    rw [List.flatten_nil, List.append_nil] at stream
    subst stream
    refine ⟨tail, [], poll_of_ok (frames.complete message mem tail), by simp, ?_⟩
    simp
  | cons chunk chunks ih =>
    rcases List.append_eq_append_iff.mp stream with ⟨missing, whole, found⟩ | ⟨rest, split, rfl⟩
    · by_cases complete : missing = []
      · subst complete
        rw [List.append_nil] at whole
        have decoded := frames.complete message mem []
        rw [List.append_nil, whole] at decoded
        refine ⟨[], chunk :: chunks, poll_of_ok decoded, by simpa using found, ?_⟩
        simp only [true_iff]
        exact ⟨0, by simp [whole]⟩
      · have part : buffer ≠ codec.encode message := by
          intro same
          rw [← same] at whole
          exact complete (List.append_right_eq_self.mp whole.symm)
        have undecoded := frames.incomplete message mem buffer ⟨missing, whole.symm⟩ part
        rw [poll_cons_of_none undecoded]
        obtain ⟨rest, others, polled, left, atEnd⟩ := @ih (buffer ++ chunk)
          (by simpa [List.append_assoc] using stream)
        refine ⟨rest, others, polled, left, atEnd.trans ?_⟩
        constructor
        · intro ⟨count, ended⟩
          exact ⟨count + 1, by simpa [List.append_assoc] using ended⟩
        · intro ⟨count, ended⟩
          cases count with
          | zero => exact absurd (by simpa using ended) part
          | succ count => exact ⟨count, by simpa [List.append_assoc] using ended⟩
    · refine ⟨rest, chunk :: chunks, ?_, rfl, ?_⟩
      · rw [split]
        exact poll_of_ok (frames.complete message mem rest)
      · constructor
        · rintro rfl
          exact ⟨0, by simp [split]⟩
        · intro ⟨count, ended⟩
          have lengths := congrArg List.length ended
          rw [split] at lengths
          simp only [List.length_append] at lengths
          exact List.eq_nil_of_length_eq_zero (by omega)

theorem poll_of_nothing (nothing : incoming.flatten = []) : (codec.poll incoming []).1 = none := by
  induction incoming with
  | nil =>
    unfold poll
    simp only [frames.empty]
  | cons chunk chunks ih =>
    rw [List.flatten_cons, List.append_eq_nil_iff] at nothing
    rw [poll_cons_of_none frames.empty, nothing.1]
    exact ih nothing.2

theorem results_of_stream {sent : List Message} (known : ∀ message ∈ sent, message ∈ messages)
    (stream : buffer ++ incoming.flatten = (sent.map codec.encode).flatten) :
    codec.results (sent.length + 1) ⟨buffer, incoming, false⟩ =
      sent.map (fun message => some (.ok message)) ++ [none] := by
  induction sent generalizing buffer incoming with
  | nil =>
    obtain ⟨rfl, nothing⟩ := List.append_eq_nil_iff.mp stream
    exact congrArg (fun item => [item]) (poll_of_nothing frames nothing)
  | cons message sent ih =>
    obtain ⟨rest, chunks, polled, left, _⟩ := poll_first frames
      (known message List.mem_cons_self) stream
    have first : codec.next ⟨buffer, incoming, false⟩ =
        (some (.ok message), ⟨rest, chunks, false⟩) := polled
    rw [List.length_cons, results, first]
    exact congrArg _ (ih (fun other mem => known other (List.mem_cons_of_mem _ mem)) left)

theorem poll_length (mem : message ∈ messages) {after : Framed}
    (polled : codec.poll incoming buffer = (some (.ok message), after)) :
    (codec.encode message).length + (after.buffer ++ after.incoming.flatten).length =
      (buffer ++ incoming.flatten).length := by
  induction incoming generalizing buffer with
  | nil =>
    unfold poll at polled
    split at polled
    case h_1 other rest decoded =>
      cases polled
      have length := frames.length message mem _ _ decoded
      simpa [Nat.add_assoc] using length
    case h_2 => cases polled
    case h_3 => cases polled
  | cons chunk chunks ih =>
    unfold poll at polled
    split at polled
    case h_1 other rest decoded =>
      cases polled
      have length := frames.length message mem _ _ decoded
      simp only [List.length_append] at length ⊢
      omega
    case h_2 => cases polled
    case h_3 =>
      rw [ih polled, List.flatten_cons, List.append_assoc]

theorem length_le_of_results {sent : List Message} (known : ∀ message ∈ sent, message ∈ messages)
    {framed : Framed}
    (yielded : codec.results (sent.length + 1) framed =
      sent.map (fun message => some (.ok message)) ++ [none]) :
    (sent.map codec.encode).flatten.length ≤ (framed.buffer ++ framed.incoming.flatten).length := by
  induction sent generalizing framed with
  | nil => exact Nat.zero_le _
  | cons message sent ih =>
    rw [List.length_cons, results] at yielded
    obtain ⟨first, others⟩ := List.cons.inj yielded
    have polled : codec.poll framed.incoming framed.buffer =
        (some (.ok message), (codec.next framed).2) := by
      unfold next at first ⊢
      split at first
      case isTrue => cases first
      case isFalse alive =>
        rw [if_neg alive]
        exact Prod.ext first rfl
    have length := poll_length frames (known message List.mem_cons_self) polled
    have rest := ih (fun other mem =>
      known other (List.mem_cons_of_mem _ mem)) others
    rw [List.map_cons, List.flatten_cons, List.length_append]
    omega

end

end Codec

end DiagnosticAdapter.Framing
