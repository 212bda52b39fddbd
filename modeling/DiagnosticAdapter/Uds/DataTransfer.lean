import DiagnosticAdapter.Codec.BitAccess

/-!
# Flash transfers

`ecu_flash_transfer_start` and `transfer_ecu_data` of `cda-comm-uds`, on a
64-bit target.  The file, the flash service and the ECU answer through
`FlashEnvironment` and `BlockEnvironment`; the loop runs on fuel, so that a
transfer that never ends is told apart from one that does.
-/

namespace DiagnosticAdapter.Uds

open Codec

def u64Max : Nat := 2 ^ 64 - 1

def usizeMax : Nat := 2 ^ 64 - 1

/-- No allocation is larger; `vec!` panics beyond it. -/
def isizeMax : Nat := 2 ^ 63 - 1

def saturatingAddU64 (a b : Nat) : Nat := min (a + b) u64Max

inductive DataTransferStatus where
  | running
  | aborted
  | finished
  | queued
  deriving DecidableEq, Repr

structure DataTransferMetaData where
  acknowledgedBytes : Nat
  blocksize : UInt64
  nextBlockSequenceCounter : UInt8
  id : String
  fileId : String
  status : DataTransferStatus
  error : Option (List String)
  deriving DecidableEq, Repr

/-- The task handle is left out: only `ecu_flash_transfer_exit` awaits it. -/
structure EcuDataTransfer where
  metaData : DataTransferMetaData
  statusReceiver : Bool
  deriving DecidableEq, Repr

abbrev Transfers := String → Option EcuDataTransfer

inductive ResponseType where
  | positive
  | negative
  deriving DecidableEq, Repr

/-- What reading a block and sending it come to; `read` has the errors other than the end of the
file, by their debug texts. -/
structure BlockEnvironment where
  read : Except String Unit
  response : Except String ResponseType

/-- `read_exact` into a buffer of `count` bytes; an empty buffer needs no read. -/
def readExact (count : Nat) (read : Except String Unit) (reader : List UInt8) :
    Except String (List UInt8 × List UInt8) :=
  if count = 0 then
    .ok ([], reader)
  else
    match read with
    | .error e => .error e
    | .ok () =>
      if reader.length < count then
        .error "failed to fill whole buffer"
      else
        .ok (reader.take count, reader.drop count)

def setTransferAborted (ecuName reason : String) (transfers : Transfers) : Transfers :=
  match transfers ecuName with
  | none => transfers
  | some transfer =>
    Function.update transfers ecuName (some
      { metaData := { transfer.metaData with status := .aborted, error := some [reason] }
        statusReceiver := true })

/-- The variables of the loop, the transfers it shares, and the payloads it has
given to `send`. -/
structure Transmission where
  remainingBytes : Nat
  nextBlockSequenceCounter : UInt8
  reader : List UInt8
  transfers : Transfers
  sent : List (List UInt8)

inductive Iteration where
  | next (state : Transmission)
  | ended (state : Transmission)

def Transmission.abort (ecuName reason : String) (state : Transmission) : Iteration :=
  .ended { state with transfers := setTransferAborted ecuName reason state.transfers }

/-- The bookkeeping after an answered block, under the lock of the transfers. -/
def acknowledgeBlock (ecuName : String) (bytesToRead : Nat) (state : Transmission) :
    Iteration :=
  match state.transfers ecuName with
  | none => .ended state
  | some transfer =>
    let counter := state.nextBlockSequenceCounter + 1
    let remaining := state.remainingBytes - bytesToRead
    let metaData :=
      { transfer.metaData with
        nextBlockSequenceCounter := counter
        acknowledgedBytes := saturatingAddU64 transfer.metaData.acknowledgedBytes bytesToRead }
    let transfer :=
      if remaining = 0 then
        { metaData := { metaData with status := .finished }, statusReceiver := true }
      else
        { transfer with metaData := metaData }
    .next { state with
      remainingBytes := remaining
      nextBlockSequenceCounter := counter
      transfers := Function.update state.transfers ecuName (some transfer) }

/-- One iteration of `while remaining_bytes > 0`.  The only test on the answer is
whether `send` returned an error. -/
def transferBlock (ecuName : String) (blockSize : Nat) (block : BlockEnvironment)
    (state : Transmission) : Iteration :=
  if state.remainingBytes > usizeMax then
    state.abort ecuName "Remaining bytes overflowed usize"
  else
    let bytesToRead := min blockSize state.remainingBytes
    if blockSize < bytesToRead then
      state.abort ecuName "Buffer slice out of bounds"
    else
      match readExact bytesToRead block.read state.reader with
      | .error e => state.abort ecuName s!"Failed to read data: {e}"
      | .ok (bufferData, reader) =>
        let payload := state.nextBlockSequenceCounter :: bufferData
        let state := { state with reader := reader, sent := state.sent ++ [payload] }
        match block.response with
        | .error e => state.abort ecuName s!"Failed to read data: {e}"
        | .ok _ => acknowledgeBlock ecuName bytesToRead state

inductive TransferOutcome where
  | returned (state : Transmission)
  | panicked (state : Transmission)
  /-- The fuel ran out before the loop ended. -/
  | running

/-- The loop from iteration `index` on, for at most `fuel` iterations. -/
def transferLoop (ecuName : String) (blockSize : Nat) (blocks : Nat → BlockEnvironment) :
    Nat → Nat → Transmission → TransferOutcome
  | fuel, index, state =>
    if state.remainingBytes = 0 then
      .returned state
    else
      match fuel with
      | 0 => .running
      | fuel + 1 =>
        match transferBlock ecuName blockSize (blocks index) state with
        | .next state => transferLoop ecuName blockSize blocks fuel (index + 1) state
        | .ended state => .returned state

def transferEcuData (fuel : Nat) (ecuName : String) (length : UInt64)
    (blocks : Nat → BlockEnvironment) (reader : List UInt8) (transfers : Transfers) :
    TransferOutcome :=
  match transfers ecuName with
  | none => .returned ⟨length.toNat, 0, reader, transfers, []⟩
  | some transfer =>
    let metaData := { transfer.metaData with status := .running }
    let state : Transmission :=
      { remainingBytes := length.toNat
        nextBlockSequenceCounter := metaData.nextBlockSequenceCounter
        reader := reader
        transfers := Function.update transfers ecuName (some { transfer with metaData := metaData })
        sent := [] }
    if metaData.blocksize.toNat > isizeMax then
      .panicked state
    else
      transferLoop ecuName metaData.blocksize.toNat blocks fuel 0 state

structure FlashTransferStartParams where
  filePath : String
  offset : UInt64
  length : UInt64
  transferMetaData : DataTransferMetaData

structure FlashTransferRequest where
  blockSequenceCounter : UInt8
  blocksize : UInt64
  offset : UInt64
  length : UInt64
  id : String

/-- The parameters `flash_transfer::post` builds, for the transfer id it has drawn
and the path of the file. -/
def FlashTransferRequest.parameters (body : FlashTransferRequest) (id filePath : String) :
    FlashTransferStartParams where
  filePath := filePath
  offset := body.offset
  length := body.length
  transferMetaData :=
    { acknowledgedBytes := 0
      blocksize := body.blocksize
      nextBlockSequenceCounter := body.blockSequenceCounter
      id := id
      fileId := body.id
      status := .queued
      error := none }

/-- The file system, the services of the ECU and the runtime update; an error of the file is given
by its debug text. -/
structure FlashEnvironment where
  openFile : Except String (List UInt8)
  fileMetaData : Except String Unit
  seek : Except String Unit
  lookupService : Except DiagServiceError Unit
  serviceAllowed : Except DiagServiceError Unit
  updateInProgress : Bool

/-- The reader the spawned task starts with, and the transfers with the new one. -/
def ecuFlashTransferStart (ecuName : String) (parameters : FlashTransferStartParams)
    (environment : FlashEnvironment) (transfers : Transfers) :
    Except DiagServiceError (List UInt8 × Transfers) := do
  if parameters.length = 0 then
    throw (.invalidRequest "Transfer length must be greater than 0")
  if let some transfer := transfers ecuName then
    throw (.invalidRequest s!"Transfer data already running with id {transfer.metaData.id}")
  let file ← match environment.openFile with
    | .ok file => pure file
    | .error e =>
      throw (.invalidRequest s!"Failed to open file '{parameters.filePath}': {e}")
  if let .error e := environment.fileMetaData then
    throw (.invalidRequest s!"Failed to get metadata: {e}")
  if file.length < saturatingAddU64 parameters.offset.toNat parameters.length.toNat then
    throw (.invalidRequest (s!"File size {file.length} is too small for the requested offset " ++
      s!"{parameters.offset} and length {parameters.length}"))
  if let .error e := environment.seek then
    throw (.invalidRequest s!"Failed to seek to offset in file: {e}")
  environment.lookupService
  environment.serviceAllowed
  if environment.updateInProgress then
    throw (.invalidRequest "Runtime update in progress, flash transfer blocked")
  return (file.drop parameters.offset.toNat,
    Function.update transfers ecuName (some ⟨parameters.transferMetaData, false⟩))

end DiagnosticAdapter.Uds
