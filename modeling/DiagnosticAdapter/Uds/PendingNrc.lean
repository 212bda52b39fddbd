import DiagnosticAdapter.Uds.Transport

/-!
# Pending negative responses

The functions of `cda-interfaces` by which both transports classify raw bytes.
-/

namespace DiagnosticAdapter.Uds

namespace Nrc

def busyRepeatRequest : UInt8 := 0x21
def responsePending : UInt8 := 0x78
def temporarilyNotAvailable : UInt8 := 0x94

end Nrc

def isNegativeResponse (data : List UInt8) : Bool :=
  data.head? == some ServiceIds.negativeResponse

def isTesterPresentNrc (data : List UInt8) : Bool :=
  isNegativeResponse data && data[1]? == some ServiceIds.testerPresent

/-- The second byte, the service id that is refused, is not looked at. -/
def isPendingNrc (data : List UInt8) : Bool :=
  isNegativeResponse data && decide (3 ≤ data.length) &&
    (data[2]? == some Nrc.responsePending || data[2]? == some Nrc.busyRepeatRequest ||
      data[2]? == some Nrc.temporarilyNotAvailable)

def pendingNrcFromRaw (data : List UInt8) (sourceAddress : UInt16) : Option PendingNrc :=
  if isPendingNrc data then
    match data[2]? with
    | some nrc =>
      if nrc = Nrc.responsePending then some (.responsePending sourceAddress)
      else if nrc = Nrc.busyRepeatRequest then some (.busyRepeatRequest sourceAddress)
      else if nrc = Nrc.temporarilyNotAvailable then
        some (.temporarilyNotAvailable sourceAddress)
      else none
    | none => none
  else
    none

def udsResponseFromRaw (data : List UInt8) (sourceAddress targetAddress : UInt16) :
    ServicePayload where
  data := data
  sourceAddress := sourceAddress
  targetAddress := targetAddress
  newSession := none
  newSecurity := none

def udsResponseMatchesRequestSid (requestSid : UInt8) (response : List UInt8) : Bool :=
  if response.head? = some ServiceIds.negativeResponse then
    response[1]? == some requestSid
  else
    response.head? == some (requestSid ||| udsIdResponseBitmask)

def StartsWithNegativeResponse (sid : UInt8) (data : List UInt8) : Prop :=
  data.take 2 = [ServiceIds.negativeResponse, sid]

instance (sid : UInt8) (data : List UInt8) : Decidable (StartsWithNegativeResponse sid data) :=
  inferInstanceAs (Decidable (_ = _))

theorem pendingNrcFromRaw_isSome (data : List UInt8) (sourceAddress : UInt16) :
    (pendingNrcFromRaw data sourceAddress).isSome = isPendingNrc data := by
  unfold pendingNrcFromRaw
  by_cases pending : isPendingNrc data
  · rw [if_pos pending, pending]
    simp only [isPendingNrc, Bool.and_eq_true, Bool.or_eq_true, beq_iff_eq] at pending
    obtain ⟨-, (third | third) | third⟩ := pending <;> rw [third] <;> rfl
  · rw [if_neg pending, Option.isSome_none]
    exact (Bool.eq_false_iff.mpr pending).symm

end DiagnosticAdapter.Uds
