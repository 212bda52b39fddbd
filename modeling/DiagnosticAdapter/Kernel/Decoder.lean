import DiagnosticAdapter.Effects.Stateful
import DiagnosticAdapter.Kernel.Payload
import DiagnosticAdapter.Kernel.Value

/-!
# Decoders

A decoder works on a payload and a map of decoded data, both borrowed mutably: what it
has changed stays changed when it fails.  The history of a run and the count of views in
a failure are not in the source.  No decoder reads them; they are there to speak about
the views that an early return leaves open and about the errors that are swallowed.
-/

namespace DiagnosticAdapter.Kernel

open Codec Effects

/-- An error on its way up, with the number of decoders it has left between their
`push_slice` and their `pop_slice`. -/
structure Failure where
  error : DiagServiceError
  viewsLeft : Nat
  deriving DecidableEq, Repr

inductive Event where
  /-- A caller drops the failure of a decoder that was started on the views `start` and
  goes on with the views `stop`. -/
  | swallowed (failure : Failure) (start stop : Slices)
  /-- The items of an end-of-PDU field are about to be read. -/
  | repeating
  deriving DecidableEq, Repr

structure DecodeState (conv : Conversions) where
  payload : Payload
  data : MappedPayload conv
  history : List Event

abbrev Decoder (conv : Conversions) := EStateM Failure (DecodeState conv)

def isNotEnoughData : DiagServiceError → Bool
  | .notEnoughData _ _ => true
  | _ => false

def isDataError : DiagServiceError → Bool
  | .dataError _ _ => true
  | _ => false

namespace Decoder

variable {conv : Conversions} {α : Type}

def fail (error : DiagServiceError) : Decoder conv α := throw ⟨error, 0⟩

def orFail (value : Option α) (error : DiagServiceError) : Decoder conv α :=
  match value with
  | some value => pure value
  | none => fail error

def ofExcept : Except DiagServiceError α → Decoder conv α
  | .ok value => pure value
  | .error error => fail error

def view : Decoder conv (List UInt8) := fun state => ofExcept state.payload.view state

def len : Decoder conv Nat := fun state => .ok state.payload.len state

def lastReadBytePos : Decoder conv Nat := fun state => .ok state.payload.lastReadBytePos state

def setLastReadBytePos (pos : Nat) : Decoder conv Unit := fun state =>
  .ok () { state with payload := state.payload.setLastReadBytePos pos }

def bytesToSkip : Decoder conv Nat := fun state => .ok state.payload.bytesToSkip state

def setBytesToSkip (count : Nat) : Decoder conv Unit := fun state =>
  .ok () { state with payload := state.payload.setBytesToSkip count }

def mapped : Decoder conv (MappedPayload conv) := fun state => .ok state.data state

def insertMapped (name : Text) (container : Container conv) : Decoder conv Unit := fun state =>
  .ok () { state with data := state.data.insert name container }

def extendMapped (item : MappedPayload conv) : Decoder conv Unit := fun state =>
  .ok () { state with data := state.data.extend item }

def pushSlice (start stop : Nat) : Decoder conv Unit := fun state =>
  match state.payload.pushSlice start stop with
  | .ok payload => .ok () { state with payload }
  | .error error => .error ⟨error, 0⟩ state

def popSlice : Decoder conv Unit := fun state =>
  match state.payload.popSlice with
  | .ok payload => .ok () { state with payload }
  | .error error => .error ⟨error, 0⟩ state

/-- The `?` after a decoder that runs on a view of its caller's. -/
def leavingView (body : Decoder conv α) : Decoder conv α := fun state =>
  match body state with
  | .ok value state => .ok value state
  | .error failure state => .error ⟨failure.error, failure.viewsLeft + 1⟩ state

/-- `push_slice(start, stop)?`, the body with `?`, `pop_slice()?`. -/
def inView (start stop : Nat) (body : Decoder conv α) : Decoder conv α := do
  pushSlice start stop
  let value ← leavingView body
  popSlice
  return value

def consume : Decoder conv Nat := fun state =>
  .ok state.payload.advanceLen { state with payload := state.payload.consume }

def exhausted : Decoder conv Bool := fun state => .ok state.payload.exhausted state

def report (event : Event) : Decoder conv Unit := fun state =>
  .ok () { state with history := state.history ++ [event] }

/-- Goes on without a value where the body fails with an error that is not to stop the
caller. -/
def swallow (ignored : DiagServiceError → Bool) (body : Decoder conv α) :
    Decoder conv (Except DiagServiceError α) := fun state =>
  match body state with
  | .ok value final => .ok (.ok value) final
  | .error failure final =>
    if ignored failure.error then
      .ok (.error failure.error) { final with
        history := final.history ++
          [.swallowed failure state.payload.slices final.payload.slices] }
    else .error failure final

/-- Runs the body on a map of its own, which it returns. -/
def onFreshData (body : Decoder conv Unit) : Decoder conv (MappedPayload conv) := fun state =>
  match body { state with data := .empty } with
  | .ok _ final => .ok final.data { final with data := state.data }
  | .error failure final => .error failure { final with data := state.data }

/-- `for item in items`, with a value for each. -/
def mapEach {β : Type} (body : β → Decoder conv α) : List β → Decoder conv (List α)
  | [] => pure []
  | item :: items => do
    let value ← body item
    let values ← mapEach body items
    return value :: values

def forEach {β : Type} (body : β → Decoder conv Unit) (items : List β) : Decoder conv Unit := do
  let _ ← mapEach body items
  return ()

def byteCount : Decoder conv Nat := fun state => .ok state.payload.data.length state

/-- One item in a view from the read position on, and the bytes consumed; `none` where the data do
not suffice. -/
def itemToEnd (item : Decoder conv α) : Decoder conv (Option (Option α × Nat)) := do
  if ← exhausted then
    return some (none, ← consume)
  else
    match ← swallow isNotEnoughData item with
    | .ok value => return some (some value, ← consume)
    | .error _ => return none

/-- `loop` with its breaks.  Each further round has consumed a byte. -/
def itemsToEnd (item : Decoder conv α) : Nat → Decoder conv (List α)
  | 0 => fail (.panicked "rounds")
  | rounds + 1 => do
    let start ← lastReadBytePos
    let stop ← len
    match ← inView start stop (itemToEnd item) with
    | none => return []
    | some (value, consumed) =>
      if ← exhausted then return value.toList
      else if consumed = 0 then
        fail (.badPayload "EndOfPdu did not consume any bytes, breaking potential infinite loop")
      else
        let values ← itemsToEnd item rounds
        return value.toList ++ values

/-- The items up to the end of the payload; `none` where nothing lies in front of them. -/
def repeatToEnd (item : Decoder conv α) : Decoder conv (Option (List α)) := do
  let advance ← consume
  if advance = 0 then return none
  else
    report .repeating
    let rounds ← byteCount
    let values ← itemsToEnd item (rounds + 1)
    return some values

end Decoder

end DiagnosticAdapter.Kernel
