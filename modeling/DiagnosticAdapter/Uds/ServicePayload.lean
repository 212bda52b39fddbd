import DiagnosticAdapter.Codec.BitAccess

/-!
# Requests and responses on the UDS layer

`ServicePayload` of `cda-interfaces` with the tests that attribute a response to a
request.
-/

namespace DiagnosticAdapter.Uds

namespace ServiceIds

def sessionControl : UInt8 := 0x10
def clearDiagnosticInformation : UInt8 := 0x14
def readDataByIdentifier : UInt8 := 0x22
def securityAccess : UInt8 := 0x27
def writeDataByIdentifier : UInt8 := 0x2E
def inputOutputControlByIdentifier : UInt8 := 0x2F
def routineControl : UInt8 := 0x31
def testerPresent : UInt8 := 0x3E
def negativeResponse : UInt8 := 0x7F

end ServiceIds

def udsIdResponseBitmask : UInt8 := 0x40

def defaultSubfunctionMask : UInt8 := 0x7F

def saturatingAddU8 (a b : UInt8) : UInt8 :=
  if a.toNat + b.toNat > 0xFF then 0xFF else a + b

structure ServicePayload where
  data : List UInt8
  sourceAddress : UInt16
  targetAddress : UInt16
  newSession : Option String
  newSecurity : Option String
  deriving DecidableEq, Repr

/-- `bytes.get(1..1 + count)`. -/
def bytesAfterFirst (count : Nat) (bytes : List UInt8) : Option (List UInt8) :=
  if 1 + count ≤ bytes.length then some ((bytes.drop 1).take count) else none

namespace ServicePayload

def isPositiveResponseForSid (payload : ServicePayload) (sentSid : UInt8) : Bool :=
  payload.data.head? == some (saturatingAddU8 sentSid udsIdResponseBitmask)

def isNegativeResponseForSid (payload : ServicePayload) (sentSid : UInt8) : Bool :=
  payload.data.head? == some ServiceIds.negativeResponse && payload.data[1]? == some sentSid

def isResponseForSid (payload : ServicePayload) (sentSid : UInt8) : Bool :=
  payload.isNegativeResponseForSid sentSid || payload.isPositiveResponseForSid sentSid

def echoByteCount (sentSid : UInt8) : Nat :=
  if sentSid = ServiceIds.readDataByIdentifier ∨ sentSid = ServiceIds.writeDataByIdentifier ∨
      sentSid = ServiceIds.inputOutputControlByIdentifier then 2
  else if sentSid = ServiceIds.routineControl then 3
  else 0

def hasMatchingEchoBytes (payload : ServicePayload) (requestData : List UInt8) : Bool :=
  match requestData.head? with
  | none => true
  | some sentSid =>
    if !payload.isPositiveResponseForSid sentSid then
      true
    else
      let echoLen := echoByteCount sentSid
      if echoLen = 0 then
        true
      else
        match bytesAfterFirst echoLen requestData with
        -- too short a request is not compared
        | none => true
        | some requestEcho =>
          match bytesAfterFirst echoLen payload.data with
          | none => false
          | some responseEcho =>
            if sentSid = ServiceIds.routineControl then
              let requestSubfn := requestEcho.head?.getD 0 &&& defaultSubfunctionMask
              let responseSubfn := responseEcho.head?.getD 0
              if requestSubfn != responseSubfn then
                false
              else
                requestEcho.drop 1 == responseEcho.drop 1
            else
              requestEcho == responseEcho

end ServicePayload

end DiagnosticAdapter.Uds
