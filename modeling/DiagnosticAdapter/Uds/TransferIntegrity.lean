import DiagnosticAdapter.Uds.DataTransfer
import Mathlib.Algebra.Order.BigOperators.Group.Finset

/-!
# What a flash transfer leaves behind

The state of the loop after `count` answered blocks is known in closed form; a
run ends in one of these states, with the transfer finished, or stopped at the
first block that could not be read or sent.
-/

namespace DiagnosticAdapter.Uds

open Codec Function

/-- What one block comes to: reading fails, or `send` returns. -/
def BlockEnvironment.result (blockSize : Nat) (block : BlockEnvironment) :
    Except String ResponseType :=
  if blockSize = 0 then block.response else do block.read; block.response

def BlockEnvironment.positive (blockSize : Nat) (block : BlockEnvironment) : Bool :=
  match block.result blockSize with
  | .ok .positive => true
  | _ => false

/-- The total size of the positively answered blocks among those sent. -/
def positivelyAnswered (blockSize : Nat) (blocks : Nat → BlockEnvironment)
    (sent : List (List UInt8)) : Nat :=
  ∑ k ∈ Finset.range sent.length,
    if (blocks k).positive blockSize then (sent.getD k []).tail.length else 0

/-- What a transfer of `content` must have done when it is over. -/
structure Intact (ecuName : String) (content : List UInt8) (start : UInt8) (blockSize : Nat)
    (blocks : Nat → BlockEnvironment) (result : Transmission) : Prop where
  counters : ∀ k payload, result.sent[k]? = some payload →
    payload.head? = some (start + UInt8.ofNat k)
  data : (result.sent.map List.tail).flatten <+: content
  stops : ∀ k, k + 1 < result.sent.length → (blocks k).positive blockSize = true
  entry : ∃ transfer, result.transfers ecuName = some transfer ∧
    transfer.metaData.acknowledgedBytes = positivelyAnswered blockSize blocks result.sent ∧
    transfer.metaData.status =
      if positivelyAnswered blockSize blocks result.sent = content.length then .finished
      else .aborted

section ClosedForm

variable (ecuName : String) (content : List UInt8) (start : UInt8) (blockSize : Nat)
  (metaData : DataTransferMetaData) (others : Transfers) (tail : List UInt8)

def blockData (k : Nat) : List UInt8 :=
  (content.drop (k * blockSize)).take blockSize

def sentBlocks (count : Nat) : List (List UInt8) :=
  (List.range count).map fun k => (start + UInt8.ofNat k) :: blockData content blockSize k

def entryAfter (count : Nat) : EcuDataTransfer where
  metaData := { metaData with
    nextBlockSequenceCounter := start + UInt8.ofNat count
    acknowledgedBytes := min (count * blockSize) content.length
    status := if content.length ≤ count * blockSize then .finished else .running }
  statusReceiver := decide (content.length ≤ count * blockSize)

/-- The loop after `count` answered blocks; `tail` is what the file holds behind the
transferred part. -/
def afterBlocks (count : Nat) : Transmission where
  remainingBytes := content.length - count * blockSize
  nextBlockSequenceCounter := start + UInt8.ofNat count
  reader := content.drop (count * blockSize) ++ tail
  transfers := update others ecuName
    (some (entryAfter content start blockSize metaData count))
  sent := sentBlocks content start blockSize count

@[simp]
theorem sentBlocks_length (count : Nat) :
    (sentBlocks content start blockSize count).length = count := by
  simp [sentBlocks]

theorem sentBlocks_succ (count : Nat) : sentBlocks content start blockSize (count + 1) =
      sentBlocks content start blockSize count ++
        [(start + UInt8.ofNat count) :: blockData content blockSize count] := by
  simp [sentBlocks, List.range_succ]

theorem sentBlocks_getElem? {count k : Nat} (below : k < count) :
    (sentBlocks content start blockSize count)[k]? =
      some ((start + UInt8.ofNat k) :: blockData content blockSize k) := by
  simp [sentBlocks, below]

theorem blockData_length (k : Nat) :
    (blockData content blockSize k).length = min blockSize (content.length - k * blockSize) := by
  simp [blockData]

theorem take_append_blockData (k : Nat) :
    content.take (k * blockSize) ++ blockData content blockSize k =
      content.take ((k + 1) * blockSize) := by
  rw [Nat.succ_mul, List.take_add, blockData]

theorem sentBlocks_flatten (count : Nat) :
    ((sentBlocks content start blockSize count).map List.tail).flatten =
      content.take (count * blockSize) := by
  induction count with
  | zero => simp [sentBlocks]
  | succ count ih =>
    rw [sentBlocks_succ, List.map_append, List.flatten_append, ih]
    simpa using take_append_blockData content blockSize count

/-- The state in which a block ends the transfer: nothing more is acknowledged. -/
def abortedAfter (reason : String) (count sentCount : Nat) (reader : List UInt8) :
    Transmission where
  remainingBytes := content.length - count * blockSize
  nextBlockSequenceCounter := start + UInt8.ofNat count
  reader := reader
  transfers := update others ecuName (some
    { metaData := { (entryAfter content start blockSize metaData count).metaData with
        status := .aborted, error := some [reason] }
      statusReceiver := true })
  sent := sentBlocks content start blockSize sentCount

variable {ecuName content start blockSize metaData others tail}

theorem take_rest (count : Nat) : (content.drop (count * blockSize) ++ tail).take
        (min blockSize (content.length - count * blockSize)) =
      blockData content blockSize count := by
  rw [List.take_append_of_le_length (by simp), blockData, ← List.length_drop,
    ← List.take_eq_take_min]

theorem drop_rest (count : Nat) : (content.drop (count * blockSize) ++ tail).drop
        (min blockSize (content.length - count * blockSize)) =
      content.drop ((count + 1) * blockSize) ++ tail := by
  rw [List.drop_append_of_le_length (by simp), ← List.length_drop, ← List.drop_eq_drop_min,
    List.drop_drop, Nat.succ_mul]

variable {count : Nat}

theorem readExact_afterBlocks (read : Except String Unit)
    (unfinished : count * blockSize < content.length) :
    readExact (min blockSize (content.length - count * blockSize)) read
        (content.drop (count * blockSize) ++ tail) =
      if blockSize = 0 then
        .ok (blockData content blockSize count, content.drop ((count + 1) * blockSize) ++ tail)
      else
        read.map fun _ =>
          (blockData content blockSize count, content.drop ((count + 1) * blockSize) ++ tail) := by
  by_cases empty : blockSize = 0
  · subst empty
    simp [readExact, blockData]
  · have wanted : ¬ min blockSize (content.length - count * blockSize) = 0 := by omega
    have enough : ¬ (content.drop (count * blockSize) ++ tail).length <
        min blockSize (content.length - count * blockSize) := by
      simp only [List.length_append, List.length_drop]
      omega
    rw [if_neg empty, readExact.eq_def, if_neg wanted]
    cases read with
    | error e => rfl
    | ok =>
      rw [take_rest, drop_rest]
      simp only [if_neg enough, Except.map]

theorem acknowledged_succ (bounded : content.length ≤ u64Max)
    (unfinished : count * blockSize < content.length) :
    saturatingAddU64 (min (count * blockSize) content.length)
        (min blockSize (content.length - count * blockSize)) =
      min ((count + 1) * blockSize) content.length := by
  rw [saturatingAddU64, Nat.succ_mul]
  omega

theorem acknowledgeBlock_afterBlocks (bounded : content.length ≤ u64Max)
    (unfinished : count * blockSize < content.length) :
    acknowledgeBlock ecuName (min blockSize (content.length - count * blockSize))
        { afterBlocks ecuName content start blockSize metaData others tail count with
          reader := content.drop ((count + 1) * blockSize) ++ tail
          sent := sentBlocks content start blockSize (count + 1) } =
      .next (afterBlocks ecuName content start blockSize metaData others tail (count + 1)) := by
  have remaining : content.length - count * blockSize -
      min blockSize (content.length - count * blockSize) =
        content.length - (count + 1) * blockSize := by
    rw [Nat.succ_mul]
    omega
  have counter : start + UInt8.ofNat count + 1 = start + UInt8.ofNat (count + 1) := by
    rw [UInt8.ofNat_add, UInt8.add_assoc]
    rfl
  have done : content.length - (count + 1) * blockSize = 0 ↔
      content.length ≤ (count + 1) * blockSize := Nat.sub_eq_zero_iff_le
  simp only [acknowledgeBlock, afterBlocks, update_self, update_idem, remaining,
    counter, entryAfter, acknowledged_succ bounded unfinished, done]
  by_cases last : content.length ≤ (count + 1) * blockSize
  · simp [last]
  · simp [last, Nat.not_le.mpr unfinished]

theorem transferBlock_eq (block : BlockEnvironment)
    (bounded : content.length ≤ u64Max) (unfinished : count * blockSize < content.length) :
    transferBlock ecuName blockSize block
        (afterBlocks ecuName content start blockSize metaData others tail count) =
      match (if blockSize = 0 then .ok () else block.read) with
      | .error e => .ended (abortedAfter ecuName content start blockSize metaData others
          s!"Failed to read data: {e}" count count (content.drop (count * blockSize) ++ tail))
      | .ok () =>
        match block.response with
        | .error e => .ended (abortedAfter ecuName content start blockSize metaData others
            s!"Failed to read data: {e}" count (count + 1)
            (content.drop ((count + 1) * blockSize) ++ tail))
        | .ok _ =>
          .next (afterBlocks ecuName content start blockSize metaData others tail (count + 1)) := by
  have fits : ¬ content.length - count * blockSize > usizeMax := by
    have : u64Max = usizeMax := rfl
    omega
  have inBuffer : ¬ blockSize < min blockSize (content.length - count * blockSize) := by omega
  have abort (reason : String) (sentCount : Nat) (reader : List UInt8) :
      Transmission.abort ecuName reason
          { afterBlocks ecuName content start blockSize metaData others tail count with
            reader := reader
            sent := sentBlocks content start blockSize sentCount } =
        .ended (abortedAfter ecuName content start blockSize metaData others reason count
          sentCount reader) := by
    simp [Transmission.abort, afterBlocks, abortedAfter, setTransferAborted]
  simp only [transferBlock, afterBlocks, if_neg fits, if_neg inBuffer,
    readExact_afterBlocks _ unfinished]
  by_cases empty : blockSize = 0
  · simp only [if_pos empty, ← sentBlocks_succ]
    cases block.response with
    | error e => exact abort _ _ _
    | ok response => exact acknowledgeBlock_afterBlocks bounded unfinished
  · simp only [if_neg empty]
    cases block.read with
    | error e => exact abort _ _ _
    | ok =>
      simp only [Except.map, ← sentBlocks_succ]
      cases block.response with
      | error e => exact abort _ _ _
      | ok response => exact acknowledgeBlock_afterBlocks bounded unfinished

section

variable {block : BlockEnvironment} (bounded : content.length ≤ u64Max)
  (unfinished : count * blockSize < content.length)

include bounded unfinished

theorem transferBlock_answered {response : ResponseType}
    (answered : block.result blockSize = .ok response) :
    transferBlock ecuName blockSize block
        (afterBlocks ecuName content start blockSize metaData others tail count) =
      .next (afterBlocks ecuName content start blockSize metaData others tail (count + 1)) := by
  rw [transferBlock_eq block bounded unfinished]
  by_cases empty : blockSize = 0
  · simp only [BlockEnvironment.result, if_pos empty] at answered
    simp only [if_pos empty, answered]
  · simp only [BlockEnvironment.result, if_neg empty] at answered
    simp only [if_neg empty]
    cases readResult : block.read with
    | error e => simp [readResult, bind, Except.bind] at answered
    | ok =>
      have responded : block.response = .ok response := by
        simpa [readResult, bind, Except.bind] using answered
      simp only [responded]

theorem transferBlock_failed {e : String} (failed : block.result blockSize = .error e) :
    ∃ sentCount reader, (sentCount = count ∧ 0 < blockSize ∨ sentCount = count + 1) ∧
      transferBlock ecuName blockSize block
          (afterBlocks ecuName content start blockSize metaData others tail count) =
        .ended (abortedAfter ecuName content start blockSize metaData others
          s!"Failed to read data: {e}" count sentCount reader) := by
  rw [transferBlock_eq block bounded unfinished]
  by_cases empty : blockSize = 0
  · simp only [BlockEnvironment.result, if_pos empty] at failed
    simp only [if_pos empty, failed]
    exact ⟨_, _, .inr rfl, rfl⟩
  · simp only [BlockEnvironment.result, if_neg empty] at failed
    simp only [if_neg empty]
    cases readResult : block.read with
    | error e' =>
      have same : e' = e := by simpa [readResult, bind, Except.bind] using failed
      subst same
      exact ⟨_, _, .inl ⟨rfl, Nat.pos_of_ne_zero empty⟩, rfl⟩
    | ok =>
      have responded : block.response = .error e := by
        simpa [readResult, bind, Except.bind] using failed
      simp only [responded]
      exact ⟨_, _, .inr rfl, rfl⟩

end

end ClosedForm

section Ends

variable {ecuName : String} {content : List UInt8} {start : UInt8} {blockSize : Nat}
  {metaData : DataTransferMetaData} {others : Transfers} {tail : List UInt8}
  {blocks : Nat → BlockEnvironment} {result : Transmission}

/-- The loop ends with `count` answered blocks: there is no more to send, or the next
block fails. -/
structure EndsAfter (ecuName : String) (content : List UInt8) (start : UInt8) (blockSize : Nat)
    (blocks : Nat → BlockEnvironment) (count : Nat) (result : Transmission) : Prop where
  answered : ∀ k < count, k * blockSize < content.length ∧
    ∃ response, (blocks k).result blockSize = .ok response
  last : content.length ≤ count * blockSize ∨
    (count * blockSize < content.length ∧ ∃ e, (blocks count).result blockSize = .error e)
  sent : ∃ sentCount, result.sent = sentBlocks content start blockSize sentCount ∧
    (sentCount = count ∧ 0 < blockSize ∨
      sentCount = count + 1 ∧ ∃ e, (blocks count).result blockSize = .error e)
  entry : ∃ transfer, result.transfers ecuName = some transfer ∧
    transfer.metaData.acknowledgedBytes = min (count * blockSize) content.length ∧
    transfer.metaData.status =
      if content.length ≤ count * blockSize then .finished else .aborted

theorem endsAfter_finished {count : Nat} (nonempty : content ≠ [])
    (finished : content.length ≤ count * blockSize)
    (answered : ∀ k < count, k * blockSize < content.length ∧
      ∃ response, (blocks k).result blockSize = .ok response) :
    EndsAfter ecuName content start blockSize blocks count
      (afterBlocks ecuName content start blockSize metaData others tail count) where
  answered := answered
  last := .inl finished
  sent := by
    refine ⟨count, rfl, .inl ⟨rfl, Nat.pos_of_ne_zero ?_⟩⟩
    intro empty
    rw [empty, Nat.mul_zero, Nat.le_zero, List.length_eq_zero_iff] at finished
    exact nonempty finished
  entry := by
    refine ⟨_, update_self .., rfl, ?_⟩
    simp [entryAfter, finished]

theorem endsAfter_aborted {count sentCount : Nat} {e reason : String} {reader : List UInt8}
    (unfinished : count * blockSize < content.length)
    (failed : (blocks count).result blockSize = .error e)
    (sent : sentCount = count ∧ 0 < blockSize ∨ sentCount = count + 1)
    (answered : ∀ k < count, k * blockSize < content.length ∧
      ∃ response, (blocks k).result blockSize = .ok response) :
    EndsAfter ecuName content start blockSize blocks count
      (abortedAfter ecuName content start blockSize metaData others reason count sentCount
        reader) where
  answered := answered
  last := .inr ⟨unfinished, e, failed⟩
  sent := ⟨sentCount, rfl, sent.imp id fun more => ⟨more, e, failed⟩⟩
  entry := by
    refine ⟨_, update_self .., rfl, ?_⟩
    simp [Nat.not_le.mpr unfinished]

theorem transferLoop_finished {fuel count : Nat} (finished : content.length ≤ count * blockSize) :
    transferLoop ecuName blockSize blocks fuel count
        (afterBlocks ecuName content start blockSize metaData others tail count) =
      .returned (afterBlocks ecuName content start blockSize metaData others tail count) := by
  have atEnd : (afterBlocks ecuName content start blockSize metaData others tail
      count).remainingBytes = 0 := Nat.sub_eq_zero_of_le finished
  rw [transferLoop.eq_def]
  exact if_pos atEnd

theorem transferLoop_unfinished {fuel count : Nat}
    (unfinished : count * blockSize < content.length) :
    transferLoop ecuName blockSize blocks fuel count
        (afterBlocks ecuName content start blockSize metaData others tail count) =
      match fuel with
      | 0 => .running
      | fuel + 1 =>
        match transferBlock ecuName blockSize (blocks count)
          (afterBlocks ecuName content start blockSize metaData others tail count) with
        | .next state => transferLoop ecuName blockSize blocks fuel (count + 1) state
        | .ended state => .returned state := by
  have more : ¬ (afterBlocks ecuName content start blockSize metaData others tail
      count).remainingBytes = 0 := Nat.sub_ne_zero_of_lt unfinished
  rw [transferLoop.eq_def]
  exact if_neg more

theorem endsAfter_of_returned (nonempty : content ≠ []) (bounded : content.length ≤ u64Max)
    {fuel count : Nat}
    (answered : ∀ k < count, k * blockSize < content.length ∧
      ∃ response, (blocks k).result blockSize = .ok response)
    (returned : transferLoop ecuName blockSize blocks fuel count
      (afterBlocks ecuName content start blockSize metaData others tail count) = .returned result) :
    ∃ total, (total < count + fuel ∨ content.length ≤ total * blockSize) ∧
      EndsAfter ecuName content start blockSize blocks total result := by
  induction fuel generalizing count with
  | zero =>
    rcases Nat.lt_or_ge (count * blockSize) content.length with unfinished | finished
    · rw [transferLoop_unfinished unfinished] at returned
      cases returned
    · rw [transferLoop_finished finished, TransferOutcome.returned.injEq] at returned
      subst returned
      exact ⟨count, .inr finished, endsAfter_finished nonempty finished answered⟩
  | succ fuel ih =>
    rcases Nat.lt_or_ge (count * blockSize) content.length with unfinished | finished
    · rw [transferLoop_unfinished unfinished] at returned
      cases outcome : (blocks count).result blockSize with
      | error e =>
        obtain ⟨sentCount, reader, sent, step⟩ :=
          transferBlock_failed bounded unfinished outcome
        rw [step] at returned
        simp only [TransferOutcome.returned.injEq] at returned
        subst returned
        exact ⟨count, .inl (by omega), endsAfter_aborted unfinished outcome sent answered⟩
      | ok response =>
        simp only [transferBlock_answered bounded unfinished outcome] at returned
        have answeredNext : ∀ k < count + 1, k * blockSize < content.length ∧
            ∃ response, (blocks k).result blockSize = .ok response := by
          intro k below
          rcases Nat.lt_succ_iff_lt_or_eq.mp below with before | rfl
          · exact answered k before
          · exact ⟨unfinished, response, outcome⟩
        obtain ⟨total, within, ended⟩ := ih answeredNext returned
        exact ⟨total, within.imp (by omega) id, ended⟩
    · rw [transferLoop_finished finished, TransferOutcome.returned.injEq] at returned
      subst returned
      exact ⟨count, .inr finished, endsAfter_finished nonempty finished answered⟩

/-- The loop returns when every block shortens what remains, or when one of the next
blocks fails. -/
theorem exists_returned (bounded : content.length ≤ u64Max) {fuel count : Nat}
    (ends : (0 < blockSize ∧ content.length ≤ count * blockSize + fuel) ∨
      ∃ k, count ≤ k ∧ k < count + fuel ∧ ∃ e, (blocks k).result blockSize = .error e) :
    ∃ result, transferLoop ecuName blockSize blocks fuel count
      (afterBlocks ecuName content start blockSize metaData others tail count) =
        .returned result := by
  induction fuel generalizing count with
  | zero =>
    rcases ends with ⟨-, finished⟩ | ⟨k, from_, before, -⟩
    · exact ⟨_, transferLoop_finished finished⟩
    · omega
  | succ fuel ih =>
    rcases Nat.lt_or_ge (count * blockSize) content.length with unfinished | finished
    · rw [transferLoop_unfinished unfinished]
      cases outcome : (blocks count).result blockSize with
      | error e =>
        obtain ⟨sentCount, reader, sent, step⟩ :=
          transferBlock_failed bounded unfinished outcome
        rw [step]
        exact ⟨_, rfl⟩
      | ok response =>
        simp only [transferBlock_answered bounded unfinished outcome]
        apply ih
        rcases ends with ⟨positive, within⟩ | ⟨k, from_, before, e, failed⟩
        · refine .inl ⟨positive, ?_⟩
          rw [Nat.succ_mul]
          omega
        · have later : k ≠ count := by
            rintro rfl
            rw [outcome] at failed
            cases failed
          exact .inr ⟨k, by omega, by omega, e, failed⟩
    · exact ⟨_, transferLoop_finished finished⟩

theorem sentBlocks_getD {sentCount k : Nat} (below : k < sentCount) :
    ((sentBlocks content start blockSize sentCount).getD k []).tail.length =
      min blockSize (content.length - k * blockSize) := by
  rw [List.getD_eq_getElem?_getD, sentBlocks_getElem? _ _ _ below]
  exact blockData_length content blockSize k

theorem sum_blockData_length (count : Nat) :
    ∑ k ∈ Finset.range count, min blockSize (content.length - k * blockSize) =
      min (count * blockSize) content.length := by
  induction count with
  | zero => simp
  | succ count ih =>
    rw [Finset.sum_range_succ, ih, Nat.succ_mul]
    omega

theorem BlockEnvironment.positive_eq_true_iff {block : BlockEnvironment} :
    block.positive blockSize = true ↔ block.result blockSize = .ok .positive := by
  unfold positive
  split
  case h_1 outcome => simp [outcome]
  case h_2 other =>
    simp only [Bool.false_eq_true, false_iff]
    exact other

theorem positivelyAnswered_sentBlocks {count sentCount : Nat}
    (sent : sentCount = count ∧ 0 < blockSize ∨
      sentCount = count + 1 ∧ ∃ e, (blocks count).result blockSize = .error e) :
    positivelyAnswered blockSize blocks (sentBlocks content start blockSize sentCount) =
      ∑ k ∈ Finset.range count, if (blocks k).positive blockSize then
        min blockSize (content.length - k * blockSize) else 0 := by
  have sizes : positivelyAnswered blockSize blocks
      (sentBlocks content start blockSize sentCount) =
        ∑ k ∈ Finset.range sentCount, if (blocks k).positive blockSize then
          min blockSize (content.length - k * blockSize) else 0 := by
    rw [positivelyAnswered, sentBlocks_length]
    apply Finset.sum_congr rfl
    intro k mem
    rw [sentBlocks_getD (Finset.mem_range.mp mem)]
  rcases sent with ⟨rfl, -⟩ | ⟨rfl, e, failed⟩
  · exact sizes
  · have refused : (blocks count).positive blockSize = false := by
      rw [BlockEnvironment.positive, failed]
    rw [sizes, Finset.sum_range_succ, refused]
    simp

theorem EndsAfter.intact_iff {count : Nat}
    (ended : EndsAfter ecuName content start blockSize blocks count result) :
    Intact ecuName content start blockSize blocks result ↔
      ∀ k < count, (blocks k).positive blockSize = true := by
  obtain ⟨answered, last, ⟨sentCount, sentEq, sent⟩, transfer, found, bytes, status⟩ := ended
  have total : positivelyAnswered blockSize blocks result.sent =
      ∑ k ∈ Finset.range count, if (blocks k).positive blockSize then
        min blockSize (content.length - k * blockSize) else 0 := by
    rw [sentEq]
    exact positivelyAnswered_sentBlocks sent
  constructor
  · intro intact k below
    rcases Nat.eq_zero_or_pos blockSize with empty | positive
    · -- with empty blocks the failed block is always sent, so this one is not the last
      apply intact.stops k
      rw [sentEq, sentBlocks_length]
      omega
    · obtain ⟨transfer', found', bytes', -⟩ := intact.entry
      have same : transfer' = transfer := by
        rw [found] at found'
        exact (Option.some.inj found').symm
      rw [same, bytes, total, ← sum_blockData_length] at bytes'
      by_contra refused
      apply Nat.ne_of_gt _ bytes'
      apply Finset.sum_lt_sum
      · intro j mem
        split
        · exact Nat.le_refl _
        · exact Nat.zero_le _
      · refine ⟨k, Finset.mem_range.mpr below, ?_⟩
        rw [if_neg refused]
        have inside := (answered k below).1
        omega
  · intro allPositive
    have counted : positivelyAnswered blockSize blocks result.sent =
        min (count * blockSize) content.length := by
      rw [total, ← sum_blockData_length]
      apply Finset.sum_congr rfl
      intro k mem
      rw [allPositive k (Finset.mem_range.mp mem), if_pos rfl]
    constructor
    · intro k payload present
      rw [sentEq] at present
      have below : k < sentCount := by
        simpa using (List.getElem?_eq_some_iff.mp present).1
      rw [sentBlocks_getElem? _ _ _ below] at present
      cases present
      rfl
    · rw [sentEq, sentBlocks_flatten]
      exact List.take_prefix _ _
    · intro k below
      apply allPositive
      rw [sentEq, sentBlocks_length] at below
      omega
    · refine ⟨transfer, found, by rw [bytes, counted], ?_⟩
      rw [status, counted]
      congr 1
      simp

end Ends

theorem ecuFlashTransferStart_ok {ecuName : String} {parameters : FlashTransferStartParams}
    {environment : FlashEnvironment} {transfers started : Transfers} {file reader : List UInt8}
    (opened : environment.openFile = .ok file)
    (accepted : ecuFlashTransferStart ecuName parameters environment transfers =
      .ok (reader, started)) :
    parameters.length ≠ 0 ∧ reader = file.drop parameters.offset.toNat ∧
      started = update transfers ecuName (some ⟨parameters.transferMetaData, false⟩) := by
  unfold ecuFlashTransferStart at accepted
  by_cases empty : parameters.length = 0
  · simp [empty, bind, Except.bind, throw, throwThe, MonadExceptOf.throw] at accepted
  simp only [if_neg empty, opened, bind, Except.bind, pure, Except.pure, throw, throwThe,
    MonadExceptOf.throw] at accepted
  -- every check that fails returns an error
  iterate 7
    split at accepted
    · cases accepted
  simp only [Except.ok.injEq, Prod.mk.injEq] at accepted
  exact ⟨empty, accepted.1.symm, accepted.2.symm⟩

theorem transferEcuData_eq {ecuName : String} {content tail : List UInt8} {length : UInt64}
    {metaData : DataTransferMetaData} {transfers : Transfers} {fuel : Nat}
    {blocks : Nat → BlockEnvironment} (size : content.length = length.toNat)
    (nonempty : content ≠ []) (fresh : metaData.acknowledgedBytes = 0) :
    transferEcuData fuel ecuName length blocks (content ++ tail)
        (update transfers ecuName (some ⟨metaData, false⟩)) =
      if metaData.blocksize.toNat > isizeMax then
        .panicked (afterBlocks ecuName content metaData.nextBlockSequenceCounter
          metaData.blocksize.toNat metaData transfers tail 0)
      else
        transferLoop ecuName metaData.blocksize.toNat blocks fuel 0
          (afterBlocks ecuName content metaData.nextBlockSequenceCounter
            metaData.blocksize.toNat metaData transfers tail 0) := by
  have first : entryAfter content metaData.nextBlockSequenceCounter metaData.blocksize.toNat
      metaData 0 = { metaData := { metaData with status := .running }, statusReceiver := false } := by
    simp [entryAfter, nonempty, fresh]
  simp only [transferEcuData, update_self, update_idem, afterBlocks, first]
  simp [size, sentBlocks]

/-- The buffer can be allocated, the first answer that is not positive is no refusal, and empty
blocks meet an error within `length` iterations. -/
structure TransferHolds (length blockSize : Nat) (blocks : Nat → BlockEnvironment) : Prop where
  allocated : blockSize ≤ isizeMax
  notRefused : 0 < blockSize → ∀ k, k * blockSize < length →
    (∀ j < k, (blocks j).result blockSize = .ok .positive) →
      (blocks k).result blockSize ≠ .ok .negative
  emptyBlocks : blockSize = 0 →
    ∃ k < length, (∀ j < k, (blocks j).result blockSize = .ok .positive) ∧
      ∃ e, (blocks k).result blockSize = .error e

section Loop

variable {ecuName : String} {content : List UInt8} {start : UInt8} {blockSize : Nat}
  {metaData : DataTransferMetaData} {others : Transfers} {tail : List UInt8}
  {blocks : Nat → BlockEnvironment} {result : Transmission}

theorem TransferHolds.positive_of_ends {count : Nat}
    (holds : TransferHolds content.length blockSize blocks)
    (ended : EndsAfter ecuName content start blockSize blocks count result) :
    ∀ k < count, (blocks k).result blockSize = .ok .positive := by
  rcases Nat.eq_zero_or_pos blockSize with empty | positive
  · obtain ⟨failing, -, before, e, failed⟩ := holds.emptyBlocks empty
    intro k below
    apply before
    by_contra notBefore
    obtain ⟨response, answered⟩ := (ended.answered failing (by omega)).2
    rw [failed] at answered
    cases answered
  · intro k
    induction k using Nat.strong_induction_on with
    | _ k ih =>
      intro below
      obtain ⟨inside, response, answered⟩ := ended.answered k below
      cases response with
      | positive => exact answered
      | negative =>
        exact absurd answered (holds.notRefused positive k inside
          fun j before => ih j before (by omega))

theorem TransferHolds.intact (nonempty : content ≠ []) (bounded : content.length ≤ u64Max)
    (holds : TransferHolds content.length blockSize blocks) :
    ∃ result, transferLoop ecuName blockSize blocks content.length 0
        (afterBlocks ecuName content start blockSize metaData others tail 0) = .returned result ∧
      Intact ecuName content start blockSize blocks result := by
  have ends : (0 < blockSize ∧ content.length ≤ 0 * blockSize + content.length) ∨
      ∃ k, 0 ≤ k ∧ k < 0 + content.length ∧ ∃ e, (blocks k).result blockSize = .error e := by
    rcases Nat.eq_zero_or_pos blockSize with empty | positive
    · obtain ⟨k, below, -, failed⟩ := holds.emptyBlocks empty
      exact .inr ⟨k, Nat.zero_le k, by omega, failed⟩
    · exact .inl ⟨positive, by omega⟩
  obtain ⟨result, returned⟩ := exists_returned bounded ends
  obtain ⟨count, -, ended⟩ := endsAfter_of_returned nonempty bounded (by simp) returned
  refine ⟨result, returned, ended.intact_iff.mpr ?_⟩
  intro k below
  exact BlockEnvironment.positive_eq_true_iff.mpr (holds.positive_of_ends ended k below)

theorem transferHolds_of_intact (nonempty : content ≠ []) (bounded : content.length ≤ u64Max)
    (allocated : blockSize ≤ isizeMax)
    (returned : transferLoop ecuName blockSize blocks content.length 0
      (afterBlocks ecuName content start blockSize metaData others tail 0) = .returned result)
    (intact : Intact ecuName content start blockSize blocks result) :
    TransferHolds content.length blockSize blocks := by
  obtain ⟨count, short, ended⟩ := endsAfter_of_returned nonempty bounded (by simp) returned
  have positive : ∀ k < count, (blocks k).result blockSize = .ok .positive := by
    intro k below
    exact BlockEnvironment.positive_eq_true_iff.mp (ended.intact_iff.mp intact k below)
  constructor
  · exact allocated
  · intro sized k inside before refused
    have ran : k < count := by
      by_contra stopped
      rcases ended.last with finished | ⟨-, e, failed⟩
      · have : count * blockSize ≤ k * blockSize := Nat.mul_le_mul_right _ (by omega)
        omega
      · rcases Nat.lt_or_eq_of_le (Nat.not_lt.mp stopped) with earlier | same
        · rw [before count earlier] at failed
          cases failed
        · rw [same, refused] at failed
          cases failed
    rw [positive k ran] at refused
    cases refused
  · intro empty
    have unfinished : ¬ content.length ≤ count * blockSize := by
      simpa [empty] using nonempty
    refine ⟨count, by omega, positive, ?_⟩
    exact (ended.last.resolve_left unfinished).2

/-- The task on a reader that holds `content` and what follows it in the file. -/
theorem transferEcuData_content_iff {length : UInt64} {transfers : Transfers}
    (size : content.length = length.toNat) (nonempty : content ≠ [])
    (fresh : metaData.acknowledgedBytes = 0) :
    (∃ result, transferEcuData length.toNat ecuName length blocks (content ++ tail)
        (update transfers ecuName (some ⟨metaData, false⟩)) = .returned result ∧
      Intact ecuName content metaData.nextBlockSequenceCounter metaData.blocksize.toNat blocks
        result) ↔
      TransferHolds length.toNat metaData.blocksize.toNat blocks := by
  have bounded : content.length ≤ u64Max := by
    rw [size]
    exact Nat.le_pred_of_lt length.toNat_lt
  rw [transferEcuData_eq size nonempty fresh, ← size]
  constructor
  · intro ⟨result, returned, intact⟩
    split at returned
    case isTrue => cases returned
    case isFalse allocated =>
      exact transferHolds_of_intact nonempty bounded (Nat.not_lt.mp allocated) returned intact
  · intro holds
    rw [if_neg (Nat.not_lt.mpr holds.allocated)]
    exact holds.intact nonempty bounded

end Loop

/-- A transfer the download API accepts ends within `length` iterations and is intact
exactly under `TransferHolds`. -/
theorem transferEcuData_intact_iff {ecuName id filePath : String} {body : FlashTransferRequest}
    {environment : FlashEnvironment} {transfers started : Transfers} {file reader : List UInt8}
    (opened : environment.openFile = .ok file)
    (within : body.offset.toNat + body.length.toNat ≤ file.length)
    (accepted : ecuFlashTransferStart ecuName (body.parameters id filePath) environment
      transfers = .ok (reader, started)) (blocks : Nat → BlockEnvironment) :
    (∃ result, transferEcuData body.length.toNat ecuName body.length blocks reader started =
        .returned result ∧
      Intact ecuName ((file.drop body.offset.toNat).take body.length.toNat)
        body.blockSequenceCounter body.blocksize.toNat blocks result) ↔
      TransferHolds body.length.toNat body.blocksize.toNat blocks := by
  obtain ⟨lengthNonzero, readerEq, startedEq⟩ := ecuFlashTransferStart_ok opened accepted
  have size : ((file.drop body.offset.toNat).take body.length.toNat).length =
      body.length.toNat := by
    rw [List.length_take, List.length_drop]
    omega
  have nonempty : (file.drop body.offset.toNat).take body.length.toNat ≠ [] := by
    intro empty
    rw [empty, List.length_nil] at size
    exact lengthNonzero (UInt64.toNat_inj.mp size.symm)
  have split : reader = (file.drop body.offset.toNat).take body.length.toNat ++
      (file.drop body.offset.toNat).drop body.length.toNat :=
    readerEq.trans (List.take_append_drop _ _).symm
  rw [split, startedEq]
  exact transferEcuData_content_iff size nonempty rfl

def readyFor (file : List UInt8) : FlashEnvironment where
  openFile := .ok file
  fileMetaData := .ok ()
  seek := .ok ()
  lookupService := .ok ()
  serviceAllowed := .ok ()
  updateInProgress := false

/-- Two blocks of a five-byte file, with the counter passing 255. -/
theorem transferEcuData_intact_two_blocks :
    ∃ result, transferEcuData 3 "ecu" 3 (fun _ => ⟨.ok (), .ok .positive⟩) [2, 3, 4, 5]
        (update (fun _ => none) "ecu"
          (some ⟨⟨0, 2, 255, "transfer", "file", .queued, none⟩, false⟩)) = .returned result ∧
      Intact "ecu" [2, 3, 4] 255 2 (fun _ => ⟨.ok (), .ok .positive⟩) result := by
  have accepted : ecuFlashTransferStart "ecu"
      (FlashTransferRequest.parameters ⟨255, 2, 1, 3, "file"⟩ "transfer" "path")
      (readyFor [1, 2, 3, 4, 5]) (fun _ => none) = .ok ([2, 3, 4, 5], update (fun _ => none) "ecu"
          (some ⟨⟨0, 2, 255, "transfer", "file", .queued, none⟩, false⟩)) := rfl
  apply (transferEcuData_intact_iff rfl (by decide) accepted _).mpr
  constructor
  · decide
  · intro _ k _ _
    simp [BlockEnvironment.result, bind, Except.bind]
  · intro empty
    exact absurd empty (by decide)

/-- The ECU refuses the first of two blocks; the transfer goes on, counts the refused
byte and ends as finished. -/
theorem transferEcuData_counts_refused_block : ecuFlashTransferStart "ecu"
        (FlashTransferRequest.parameters ⟨1, 1, 0, 2, "file"⟩ "transfer" "path")
        (readyFor [10, 20]) (fun _ => none) =
      .ok ([10, 20], update (fun _ => none) "ecu"
        (some ⟨⟨0, 1, 1, "transfer", "file", .queued, none⟩, false⟩)) ∧
    (∃ result, transferEcuData 2 "ecu" 2
        (fun k => ⟨.ok (), .ok (if k = 0 then .negative else .positive)⟩) [10, 20]
        (update (fun _ => none) "ecu"
          (some ⟨⟨0, 1, 1, "transfer", "file", .queued, none⟩, false⟩)) = .returned result ∧
      result.sent = [[1, 10], [2, 20]] ∧
      result.transfers "ecu" = some ⟨⟨2, 1, 3, "transfer", "file", .finished, none⟩, true⟩) ∧
    ¬ ∃ result, transferEcuData 2 "ecu" 2
        (fun k => ⟨.ok (), .ok (if k = 0 then .negative else .positive)⟩) [10, 20]
        (update (fun _ => none) "ecu"
          (some ⟨⟨0, 1, 1, "transfer", "file", .queued, none⟩, false⟩)) = .returned result ∧
      Intact "ecu" [10, 20] 1 1
        (fun k => ⟨.ok (), .ok (if k = 0 then .negative else .positive)⟩) result := by
  refine ⟨rfl, ⟨_, rfl, rfl, rfl⟩, ?_⟩
  intro broken
  have holds := (@transferEcuData_content_iff "ecu" [10, 20]
    ⟨0, 1, 1, "transfer", "file", .queued, none⟩ [] _ 2 _ rfl (by decide) rfl).mp broken
  exact holds.notRefused (by decide) 0 (by decide) (by simp) rfl

end DiagnosticAdapter.Uds
