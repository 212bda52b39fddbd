import DiagnosticAdapter.Uds.DataTransfer
import DiagnosticAdapter.Effects.Run

/-!
# Concurrent flash transfers

Any number of `ecu_flash_transfer_start` and `ecu_flash_transfer_exit` calls and the
tasks they spawn share `data_transfers`.  A call runs from one point where it lets
the others in to the next: a start gives up the lock between its check and its
insert, a task has it only for the bookkeeping, an exit keeps it until it returns.
-/

namespace DiagnosticAdapter.Uds

open Codec Function

/-- The `Debug` text. -/
def DataTransferStatus.text : DataTransferStatus → String
  | .running => "Running"
  | .aborted => "Aborted"
  | .finished => "Finished"
  | .queued => "Queued"

def DataTransferStatus.ended : DataTransferStatus → Bool
  | .aborted | .finished => true
  | .running | .queued => false

/-- The first lock of `ecu_flash_transfer_start`, and the check before it. -/
def checkTransfer (parameters : FlashTransferStartParams)
    (transfer : Option DataTransferMetaData) : Except DiagServiceError Unit := do
  if parameters.length = 0 then
    throw (.invalidRequest "Transfer length must be greater than 0")
  if let some metaData := transfer then
    throw (.invalidRequest s!"Transfer data already running with id {metaData.id}")

/-- What a start does between its two locks: the reader of the task. -/
def openTransfer (parameters : FlashTransferStartParams) (environment : FlashEnvironment) :
    Except DiagServiceError (List UInt8) := do
  let file ← match environment.openFile with
    | .ok file => pure file
    | .error e =>
      throw (.invalidRequest s!"Failed to open file '{parameters.filePath}': {e}")
  if let .error e := environment.fileMetaData then
    throw (.invalidRequest s!"Failed to get metadata: {e}")
  if file.length < saturatingAddU64 parameters.offset.toNat parameters.length.toNat then
    throw (.invalidRequest (s!"File size {file.length} is too small for the requested offset " ++
      s!"{parameters.offset} and length {parameters.length}"))
  if let .error e := environment.seek then
    throw (.invalidRequest s!"Failed to seek to offset in file: {e}")
  environment.lookupService
  environment.serviceAllowed
  return file.drop parameters.offset.toNat

/-- A start that no other call comes between. -/
theorem ecuFlashTransferStart_eq (ecuName : String) (parameters : FlashTransferStartParams)
    (environment : FlashEnvironment) (transfers : Transfers) :
    ecuFlashTransferStart ecuName parameters environment transfers = (do
      checkTransfer parameters ((transfers ecuName).map (·.metaData))
      let reader ← openTransfer parameters environment
      if environment.updateInProgress then
        throw (.invalidRequest "Runtime update in progress, flash transfer blocked")
      return (reader,
        update transfers ecuName (some ⟨parameters.transferMetaData, false⟩))) := by
  unfold ecuFlashTransferStart checkTransfer openTransfer
  by_cases empty : parameters.length = 0
  · rw [if_pos empty, if_pos empty]
    rfl
  · rw [if_neg empty, if_neg empty]
    cases transfers ecuName with
    | some transfer => rfl
    | none =>
      cases environment.openFile with
      | error e => rfl
      | ok file =>
        cases environment.fileMetaData with
        | error e => rfl
        | ok _ =>
          change (if _ then _ else _ : Except _ _) = Except.bind (if _ then _ else _) _
          split
          · rfl
          · cases environment.seek with
            | error e => rfl
            | ok _ =>
              cases environment.lookupService with
              | error e => rfl
              | ok _ => cases environment.serviceAllowed <;> rfl

structure Sending where
  remainingBytes : Nat
  blockSize : Nat
  nextBlockSequenceCounter : UInt8
  reader : List UInt8

/-- An iteration up to its lock: how many bytes the ECU has answered and the reader
behind them, or the reason to abort. -/
def sendBlock (block : BlockEnvironment) (sending : Sending) : Except String (Nat × List UInt8) :=
  if sending.remainingBytes > usizeMax then
    .error "Remaining bytes overflowed usize"
  else
    let bytesToRead := min sending.blockSize sending.remainingBytes
    if sending.blockSize < bytesToRead then
      .error "Buffer slice out of bounds"
    else
      match readExact bytesToRead block.read sending.reader with
      | .error e => .error s!"Failed to read data: {e}"
      | .ok (_, reader) =>
        match block.response with
        | .error e => .error s!"Failed to read data: {e}"
        | .ok _ => .ok (bytesToRead, reader)

namespace DataTransferMetaData

def started (metaData : DataTransferMetaData) : DataTransferMetaData :=
  { metaData with status := .running }

def aborted (reason : String) (metaData : DataTransferMetaData) : DataTransferMetaData :=
  { metaData with status := .aborted, error := some [reason] }

def acknowledged (counter : UInt8) (bytesRead remainingBytes : Nat)
    (metaData : DataTransferMetaData) : DataTransferMetaData :=
  let metaData :=
    { metaData with
      nextBlockSequenceCounter := counter
      acknowledgedBytes := saturatingAddU64 metaData.acknowledgedBytes bytesRead }
  if remainingBytes = 0 then { metaData with status := .finished } else metaData

@[simp]
theorem acknowledged_id (counter : UInt8) (bytesRead remainingBytes : Nat)
    (metaData : DataTransferMetaData) :
    (metaData.acknowledged counter bytesRead remainingBytes).id = metaData.id := by
  unfold acknowledged
  split <;> rfl

end DataTransferMetaData

inductive TaskPhase where
  | spawned (length : UInt64) (reader : List UInt8)
  | sending (sending : Sending)
  /-- The transfer is marked as aborted, the signal is not sent yet. -/
  | signalling
  | finished
  | panicked

/-- A `transfer_ecu_data` task.  `transferId` is the id its start was given; the task
itself knows the name of its ECU only. -/
structure Task where
  ecuName : String
  transferId : String
  phase : TaskPhase
  /-- The value in the task's channel. -/
  signalled : Bool

namespace Task

def isOver (task : Task) : Bool :=
  match task.phase with
  | .finished | .panicked => true
  | _ => false

def locks (task : Task) : Bool :=
  match task.phase with
  | .spawned .. | .sending _ => true
  | _ => false

/-- The head of `while remaining_bytes > 0`. -/
def loop (sending : Sending) (task : Task) : Task :=
  { task with phase := if sending.remainingBytes = 0 then .finished else .sending sending }

/-- The task up to the end of its next lock: what becomes of it, and of the meta data
found under its ECU's name. -/
def resume (block : BlockEnvironment) (transfer : Option DataTransferMetaData) (task : Task) :
    Option (Task × (DataTransferMetaData → DataTransferMetaData)) :=
  match task.phase with
  | .spawned length reader =>
    match transfer with
    | none => some ({ task with phase := .finished }, id)
    | some metaData =>
      -- `vec![0; blocksize]` panics under the lock
      if metaData.blocksize.toNat > isizeMax then
        some ({ task with phase := .panicked }, .started)
      else
        some (task.loop ⟨length.toNat, metaData.blocksize.toNat,
          metaData.nextBlockSequenceCounter, reader⟩, .started)
  | .sending sending =>
    match sendBlock block sending with
    | .error reason => some ({ task with phase := .signalling }, .aborted reason)
    | .ok (bytesRead, reader) =>
      match transfer with
      | none => some ({ task with phase := .finished }, id)
      | some _ =>
        let counter := sending.nextBlockSequenceCounter + 1
        let remaining := sending.remainingBytes - bytesRead
        let task := task.loop ⟨remaining, sending.blockSize, counter, reader⟩
        some ({ task with signalled := task.signalled || remaining == 0 },
          .acknowledged counter bytesRead remaining)
  | .signalling => some ({ task with phase := .finished, signalled := true }, id)
  | .finished => none
  | .panicked => none

end Task

def Iteration.transfers : Iteration → Transfers
  | .next state => state.transfers
  | .ended state => state.transfers

section Iteration

variable {ecuName : String} {blockSize : Nat} {block : BlockEnvironment} {state : Transmission}

theorem transfers_of_sendBlock_error {reason : String}
    (failed : sendBlock block ⟨state.remainingBytes, blockSize, state.nextBlockSequenceCounter,
      state.reader⟩ = .error reason) :
    (transferBlock ecuName blockSize block state).transfers =
      setTransferAborted ecuName reason state.transfers := by
  simp only [sendBlock] at failed
  simp only [transferBlock]
  split at failed
  · rename_i large
    rw [if_pos large]
    cases failed
    rfl
  · rename_i small
    rw [if_neg small]
    split at failed
    · rename_i outside
      rw [if_pos outside]
      cases failed
      rfl
    · rename_i inside
      rw [if_neg inside]
      cases read : readExact (min blockSize state.remainingBytes) block.read state.reader with
      | error e =>
        rw [read] at failed
        cases failed
        rfl
      | ok found =>
        rw [read] at failed
        cases answered : block.response with
        | error e =>
          rw [answered] at failed
          cases failed
          rfl
        | ok response =>
          rw [answered] at failed
          cases failed

theorem transferBlock_of_sendBlock_ok {bytesRead : Nat} {reader : List UInt8}
    (answered : sendBlock block ⟨state.remainingBytes, blockSize, state.nextBlockSequenceCounter,
      state.reader⟩ = .ok (bytesRead, reader)) :
    ∃ sent, transferBlock ecuName blockSize block state =
      acknowledgeBlock ecuName bytesRead { state with reader, sent } := by
  simp only [sendBlock] at answered
  simp only [transferBlock]
  split at answered
  · cases answered
  · rename_i small
    split at answered
    · cases answered
    · rename_i inside
      rw [if_neg small, if_neg inside]
      cases read : readExact (min blockSize state.remainingBytes) block.read state.reader with
      | error e =>
        rw [read] at answered
        cases answered
      | ok found =>
        rw [read] at answered
        cases response : block.response with
        | error e =>
          rw [response] at answered
          cases answered
        | ok response =>
          rw [response] at answered
          cases answered
          exact ⟨_, rfl⟩

theorem metaData_acknowledgeBlock (bytesRead : Nat) :
    ((acknowledgeBlock ecuName bytesRead state).transfers ecuName).map (·.metaData) =
      ((state.transfers ecuName).map (·.metaData)).map (.acknowledged
        (state.nextBlockSequenceCounter + 1) bytesRead (state.remainingBytes - bytesRead)) := by
  cases found : state.transfers ecuName with
  | none => simp only [acknowledgeBlock, found, Iteration.transfers, Option.map_none]
  | some transfer =>
    simp only [acknowledgeBlock, found, Iteration.transfers, update_self, Option.map_some,
      DataTransferMetaData.acknowledged]
    split <;> rfl

theorem metaData_setTransferAborted (reason : String) (transfers : Transfers) :
    (setTransferAborted ecuName reason transfers ecuName).map (·.metaData) =
      ((transfers ecuName).map (·.metaData)).map (.aborted reason) := by
  cases found : transfers ecuName with
  | none => simp only [setTransferAborted, found, Option.map_none]
  | some transfer => simp only [setTransferAborted, found, update_self, Option.map_some]; rfl

/-- A task's step does to the meta data of its ECU what an iteration of `transferLoop` does. -/
theorem Task.resume_transferBlock (task : Task) (phase : task.phase = .sending
      ⟨state.remainingBytes, blockSize, state.nextBlockSequenceCounter, state.reader⟩) :
    ∃ resumed update,
      task.resume block ((state.transfers task.ecuName).map (·.metaData)) =
        some (resumed, update) ∧
      ((transferBlock task.ecuName blockSize block state).transfers task.ecuName).map
          (·.metaData) =
        ((state.transfers task.ecuName).map (·.metaData)).map update := by
  simp only [resume, phase]
  cases sent : sendBlock block ⟨state.remainingBytes, blockSize, state.nextBlockSequenceCounter,
      state.reader⟩ with
  | error reason =>
    refine ⟨_, _, rfl, ?_⟩
    rw [transfers_of_sendBlock_error sent, metaData_setTransferAborted]
  | ok found =>
    obtain ⟨bytesRead, reader⟩ := found
    obtain ⟨payloads, same⟩ := @transferBlock_of_sendBlock_ok task.ecuName _ _ _ _ _ sent
    rw [same, metaData_acknowledgeBlock]
    cases state.transfers task.ecuName with
    | none => exact ⟨_, _, rfl, rfl⟩
    | some transfer => exact ⟨_, _, rfl, rfl⟩

end Iteration

structure FlashTransfer where
  metaData : DataTransferMetaData
  /-- The task of the handle, whose channel `status_receiver` listens to; named by the
  call that spawned it. -/
  task : Nat

abbrev FlashTransfers := String → Option FlashTransfer

structure Exit where
  ecuName : String
  removed : FlashTransfer
  /-- The transfers as the call found them. -/
  found : FlashTransfers

inductive FlashCall where
  | absent
  /-- The start has found no transfer and is about to open the file. -/
  | starting (ecuName : String) (parameters : FlashTransferStartParams)
  | startReturned (result : Except DiagServiceError Unit)
  | awaitingSignal (exit : Exit)
  | awaitingTask (exit : Exit)
  | exitReturned (result : Except DiagServiceError Unit)

inductive FlashEvent where
  /-- A start, up to its first lock; the download API has drawn `id`. -/
  | start (ecuName : String) (request : FlashTransferRequest) (id filePath : String)
  | insert (call : Nat) (environment : FlashEnvironment)
  | exit (ecuName id : String)
  /-- `error` is the debug text of a channel or join error. -/
  | exitResumed (call : Nat) (error : String)
  | task (call : Nat) (block : BlockEnvironment)

structure FlashState where
  transfers : FlashTransfers
  /-- The exit that keeps the lock while it waits. -/
  lockedBy : Option Nat
  issued : Nat
  calls : Nat → FlashCall
  tasks : Nat → Option Task

namespace FlashState

def initial : FlashState where
  transfers := fun _ => none
  lockedBy := none
  issued := 0
  calls := fun _ => .absent
  tasks := fun _ => none

def enter (call : Nat) (phase : FlashCall) (state : FlashState) : FlashState :=
  { state with calls := update state.calls call phase }

/-- A call that has just got the lock. -/
def arrive (phase : FlashCall) (state : FlashState) : FlashState :=
  { state with issued := state.issued + 1 }.enter state.issued phase

def release (state : FlashState) : FlashState := { state with lockedBy := none }

/-- The second lock of a start: the task is spawned and entered into the map. -/
def spawn (call : Nat) (ecuName : String) (parameters : FlashTransferStartParams)
    (reader : List UInt8) (state : FlashState) : FlashState :=
  { state with
    transfers := update state.transfers ecuName
      (some ⟨parameters.transferMetaData, call⟩)
    tasks := update state.tasks call
      (some ⟨ecuName, parameters.transferMetaData.id, .spawned parameters.length reader, false⟩) }

def remove (ecuName : String) (state : FlashState) : FlashState :=
  { state with
    transfers := update state.transfers ecuName none
    lockedBy := some state.issued }

/-- A task's step, with what it does to the entry of its ECU. -/
def taskStep (call : Nat) (task : Task) (update : DataTransferMetaData → DataTransferMetaData)
    (state : FlashState) : FlashState :=
  { state with
    transfers := Function.update state.transfers task.ecuName
      ((state.transfers task.ecuName).map fun transfer =>
        { transfer with metaData := update transfer.metaData })
    tasks := Function.update state.tasks call (some task) }

def exitMessage (id : String) (status : DataTransferStatus) : String :=
  s!"Data transfer with id {id} is currently in status {status.text}, cannot exit"

/-- `changed()` answers once there is a signal or will never be one, `transfer.task` once the task
is over. -/
def exitResume (call : Nat) (error : String) (state : FlashState) : Option FlashState :=
  match state.calls call with
  | .awaitingSignal exit =>
    match state.tasks exit.removed.task with
    | some task =>
      if task.signalled then
        some (state.enter call (.awaitingTask exit))
      else if task.isOver then
        some (state.release.enter call (.exitReturned (.error (.invalidRequest
          s!"Failed to receive data transfer exit signal: {error}"))))
      else
        none
    | none => none
  | .awaitingTask exit =>
    match state.tasks exit.removed.task with
    | some task =>
      match task.phase with
      | .finished => some (state.release.enter call (.exitReturned (.ok ())))
      | .panicked =>
        some (state.release.enter call (.exitReturned (.error (.invalidRequest
          s!"Failed to await data transfer task: {error}"))))
      | _ => none
    | none => none
  | _ => none

def step (state : FlashState) : FlashEvent → Option FlashState
  | .start ecuName request id filePath =>
    let parameters := request.parameters id filePath
    if state.lockedBy.isSome then
      none
    else
      match checkTransfer parameters ((state.transfers ecuName).map (·.metaData)) with
      | .error e => some (state.arrive (.startReturned (.error e)))
      | .ok () => some (state.arrive (.starting ecuName parameters))
  | .insert call environment =>
    match state.calls call with
    | .starting ecuName parameters =>
      match openTransfer parameters environment with
      | .error e => some (state.enter call (.startReturned (.error e)))
      | .ok reader =>
        if state.lockedBy.isSome then
          none
        else if environment.updateInProgress then
          some (state.enter call (.startReturned (.error (.invalidRequest
            "Runtime update in progress, flash transfer blocked"))))
        else
          some ((state.spawn call ecuName parameters reader).enter call (.startReturned (.ok ())))
    | _ => none
  | .exit ecuName id =>
    if state.lockedBy.isSome then
      none
    else
      match state.transfers ecuName with
      | none =>
        some (state.arrive (.exitReturned (.error (.notFound
          s!"Data transfer for ECU {ecuName} not found"))))
      | some transfer =>
        if transfer.metaData.status.ended then
          some ((state.remove ecuName).arrive (.awaitingSignal
            ⟨ecuName, transfer, state.transfers⟩))
        else
          -- `id` is used for the message only
          some (state.arrive (.exitReturned (.error (.invalidRequest
            (exitMessage id transfer.metaData.status)))))
  | .exitResumed call error => state.exitResume call error
  | .task call block =>
    match state.tasks call with
    | some task =>
      if task.locks && state.lockedBy.isSome then
        none
      else
        match task.resume block ((state.transfers task.ecuName).map (·.metaData)) with
        | some (task, update) => some (state.taskStep call task update)
        | none => none
    | none => none

end FlashState

end DiagnosticAdapter.Uds
