import DiagnosticAdapter.Codec.DiagCodedType

/-!
# The payload under decoding

`Payload` of `payload.rs`: the bytes, a stack of views on them, and a running read
position.  A view is pushed relative to the one on top of the stack.
-/

namespace DiagnosticAdapter.Kernel

open Bits Codec

/-- The views on a payload as absolute ranges, the current one last. -/
abbrev Slices := List (Nat × Nat)

structure Payload where
  data : List UInt8
  currentIndex : Nat
  slices : Slices
  lastReadBytePos : Nat
  bytesToSkip : Nat
  deriving DecidableEq, Repr

namespace Payload

def new (data : List UInt8) : Payload := ⟨data, 0, [], 0, 0⟩

def len (payload : Payload) : Nat :=
  match payload.slices.getLast? with
  | some (start, stop) => stop - start
  | none => payload.data.length

def pos (payload : Payload) : Nat :=
  match payload.slices.getLast? with
  | some (start, _) => start
  | none => payload.currentIndex

/-- `data()`, the bytes in view. -/
def view (payload : Payload) : Except DiagServiceError (List UInt8) :=
  let bytes := match payload.slices.getLast? with
    | some (start, stop) => slice? payload.data start stop
    | none => slice? payload.data payload.pos payload.data.length
  match bytes with
  | some bytes => .ok bytes
  | none => .error (.badPayload "Slice out of bounds")

def setLastReadBytePos (payload : Payload) (pos : Nat) : Payload :=
  { payload with lastReadBytePos := if pos > payload.len then payload.len else pos }

def setBytesToSkip (payload : Payload) (count : Nat) : Payload :=
  { payload with bytesToSkip := payload.bytesToSkip + count }

/-- How far the bytes read and skipped reach. -/
def advanceLen (payload : Payload) : Nat := payload.lastReadBytePos + payload.bytesToSkip

/-- The bounds check looks at the view, the move is one of the index. -/
def consume (payload : Payload) : Payload :=
  { payload with
    currentIndex := if payload.pos + payload.advanceLen > payload.data.length then
        payload.data.length
      else payload.currentIndex + payload.advanceLen
    lastReadBytePos := 0
    bytesToSkip := 0 }

def exhausted (payload : Payload) : Bool :=
  match payload.slices.getLast? with
  | some (_, stop) => payload.currentIndex ≥ stop
  | none => payload.currentIndex ≥ payload.data.length

def first (payload : Payload) : Option UInt8 := payload.data[payload.pos]?

def pushSlice (payload : Payload) (start stop : Nat) : Except DiagServiceError Payload :=
  if start > stop ∨ stop > payload.len then
    .error (.badPayload "Invalid range for restricting view")
  else
    .ok { payload with
      slices := payload.slices ++
        [(payload.pos + start, min (payload.pos + stop) payload.data.length)] }

def popSlice (payload : Payload) : Except DiagServiceError Payload :=
  if payload.slices.isEmpty then .error (.badPayload "No restricted view to pop")
  else .ok { payload with slices := payload.slices.dropLast }

end Payload

end DiagnosticAdapter.Kernel
