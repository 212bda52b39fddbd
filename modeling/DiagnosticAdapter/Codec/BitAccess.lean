import DiagnosticAdapter.Bits.Bytes
import DiagnosticAdapter.Effects.Loop

/-!
# Single bits of a payload

`set_bit_checked` and `extract_bits` of `cda-interfaces`, `inject_bits` of
`cda-database`.  Lengths and positions are natural numbers, so the overflow
errors of the checked additions cannot occur here.
-/

namespace DiagnosticAdapter.Codec

open Bits Effects

inductive DiagServiceError where
  | notFound (message : String)
  | requestNotSupported (message : String)
  | invalidDatabase (message : String)
  | invalidRequest (message : String)
  | parameterConversionError (message : String)
  | badPayload (message : String)
  | notEnoughData (expected actual : Nat)
  | udsLookupError (message : String)
  | unexpectedResponse (message : Option String)
  | noResponse (message : String)
  | nack (code : UInt8)
  | sendFailed (message : String)
  | timeout
  | dataError (value details : String)
  | invalidState (message : String)
  /-- A panic, which no caller handles. -/
  | panicked (message : String)
  deriving DecidableEq, Repr

def setBitChecked (resultBytes : List UInt8) (dstByteIndex dstBitOffset : Nat)
    (bitValue : UInt8) (clearBit : Bool) : Except DiagServiceError (List UInt8) :=
  match resultBytes[dstByteIndex]? with
  | some byte =>
    let byte := if clearBit then byte &&& ~~~((1 : UInt8) <<< UInt8.ofNat dstBitOffset) else byte
    .ok (resultBytes.set dstByteIndex (byte ||| ((bitValue &&& 1) <<< UInt8.ofNat dstBitOffset)))
  | none => .error (.badPayload "Destination byte index out of bounds")

def extractBits (bitLen bitPos : Nat) (data : List UInt8) : Except DiagServiceError (List UInt8) :=
  if bitPos > 7 then
    .error (.badPayload s!"BitPosition range is 0..=7, got {bitPos}")
  else if bitLen = 0 then
    .error (.badPayload "Cannot extract 0 bits")
  else if bitPos + bitLen > data.length * 8 then
    .error (.badPayload (s!"Bit position {bitPos} with length {bitLen} exceeds data length " ++
      s!"{data.length * 8} bits"))
  else do
    let resultByteCount := byteLen bitLen
    let mut resultBytes := List.replicate resultByteCount 0
    for i in List.range bitLen do
      let srcBitIndex := bitPos + i
      match data[byteIndex data.length srcBitIndex]? with
      | none => throw (.badPayload "Source byte index out of bounds")
      | some byte =>
        resultBytes ← setBitChecked resultBytes (byteIndex resultByteCount i) (i % 8)
          (bitOf byte (srcBitIndex % 8)) false
    return resultBytes

/-- The loop state holds the destination and the running bit position. -/
def injectBits (bitLen bitPos : Nat) (dstData sourceData : List UInt8) :
    Except DiagServiceError (List UInt8) :=
  if bitPos > 7 then
    .error (.badPayload s!"BitPosition range is 0..=7, got {bitPos}")
  else if bitLen = 0 then
    .error (.badPayload "Cannot inject 0 bits")
  else do
    let byteCount := byteLen (bitPos + bitLen)
    let mut dstData := dstData
    let mut bitPos := bitPos
    for i in List.range (min bitLen (sourceData.length * 8)) do
      match sourceData[byteIndex sourceData.length i]? with
      | none => throw (.badPayload "Source byte index out of bounds")
      | some byte =>
        let dstByteIndex := byteCount - 1 - bitPos / 8
        if dstByteIndex ≥ dstData.length then
          break
        dstData ← setBitChecked dstData dstByteIndex (bitPos % 8) (bitOf byte (i % 8)) false
        bitPos := bitPos + 1
    return dstData

theorem setBitChecked_spec {data : List UInt8} {i : Nat} (inside : i < 8 * data.length)
    (bitValue : UInt8) (clearBit : Bool) :
    ∃ result, setBitChecked data (byteIndex data.length i) (i % 8) bitValue clearBit = .ok result ∧
      result.length = data.length ∧
      ∀ j, (value result).testBit j =
        if j = i then (bitValue.toNat.testBit 0 || (!clearBit && (value data).testBit i))
        else (value data).testBit j := by
  obtain ⟨byte, found, bit⟩ := getElem_byteIndex inside
  have inByte : i % 8 < 8 := Nat.mod_lt _ (by decide)
  rw [setBitChecked, found]
  refine ⟨_, rfl, by simp, ?_⟩
  intro j
  cases clearBit with
  | true =>
    simp only [if_true, Bool.not_true, Bool.false_and, Bool.or_false]
    rw [testBit_value_set inside found]
    · simp only [testBit_or_shift _ _ inByte, testBit_and_not_shift _ inByte]
      simp
    · intro k other
      rw [testBit_or_shift _ _ inByte, testBit_and_not_shift _ inByte]
      simp [other]
  | false =>
    simp only [Bool.false_eq_true, if_false, Bool.not_false, Bool.true_and]
    rw [testBit_value_set inside found]
    · simp only [testBit_or_shift _ _ inByte, bit, decide_true, Bool.true_and, Bool.or_comm]
    · intro k other
      rw [testBit_or_shift _ _ inByte]
      simp [other]

theorem extractBits_spec {bitLen bitPos : Nat} {data : List UInt8} (position : bitPos ≤ 7)
    (positive : 0 < bitLen) (fits : bitPos + bitLen ≤ 8 * data.length) :
    ∃ result, extractBits bitLen bitPos data = .ok result ∧ result.length = byteLen bitLen ∧
      ∀ j, (value result).testBit j =
        (decide (j < bitLen) && (value data).testBit (bitPos + j)) := by
  simp only [extractBits, if_neg (show ¬bitPos > 7 by omega), if_neg (show ¬bitLen = 0 by omega),
    if_neg (show ¬bitPos + bitLen > data.length * 8 by omega)]
  -- after `i` rounds the lowest `i` bits are copied and the others are still zero
  apply forIn_range_bind_spec fun i result => result.length = byteLen bitLen ∧
    ∀ j, (value result).testBit j = (decide (j < i) && (value data).testBit (bitPos + j))
  · simp [value_replicate_zero]
  · intro i inRange result invariant
    obtain ⟨length, bits⟩ := invariant
    obtain ⟨byte, found, bit⟩ := @getElem_byteIndex data (bitPos + i) (by omega)
    obtain ⟨next, written, nextLength, nextBits⟩ :=
      @setBitChecked_spec result i (by rw [length]; simp only [byteLen]; omega)
        (bitOf byte ((bitPos + i) % 8)) false
    rw [length] at written
    refine ⟨next, .inl ⟨?_, nextLength.trans length, ?_⟩⟩
    · simp only [found, written]
      rfl
    · intro j
      rw [nextBits, testBit_bitOf _ (Nat.mod_lt _ (by decide)), bit, bits, bits]
      by_cases same : j = i
      · simp [same]
      · simp [same, show j < i + 1 ↔ j < i by omega]
  · intro result invariant
    exact ⟨result, rfl, invariant⟩

theorem injectBits_spec {bitLen bitPos : Nat} {dstData sourceData : List UInt8}
    (position : bitPos ≤ 7) (positive : 0 < bitLen)
    (length : dstData.length = byteLen (bitPos + bitLen)) :
    ∃ result, injectBits bitLen bitPos dstData sourceData = .ok result ∧
      result.length = dstData.length ∧
      ∀ j, (value result).testBit j = ((value dstData).testBit j ||
        (decide (bitPos ≤ j ∧ j < bitPos + bitLen) && (value sourceData).testBit (j - bitPos))) := by
  simp only [injectBits, if_neg (show ¬bitPos > 7 by omega), if_neg (show ¬bitLen = 0 by omega)]
  -- after `i` rounds the bit position has moved by `i` and the lowest `i` bits are written
  apply forIn_range_bind_spec fun i state => state.2 = bitPos + i ∧
    state.1.length = dstData.length ∧
    ∀ j, (value state.1).testBit j = ((value dstData).testBit j ||
      (decide (bitPos ≤ j ∧ j < bitPos + i) && (value sourceData).testBit (j - bitPos)))
  · refine ⟨rfl, rfl, ?_⟩
    intro j
    simp [show ¬(bitPos ≤ j ∧ j < bitPos) by omega]
  · intro i inRange state invariant
    obtain ⟨running, current⟩ := state
    obtain ⟨rfl, runningLength, bits⟩ := invariant
    obtain ⟨byte, found, bit⟩ := @getElem_byteIndex sourceData i (by omega)
    have inside : bitPos + i < 8 * running.length := by
      rw [runningLength, length]
      simp only [byteLen]
      omega
    have index : byteLen (bitPos + bitLen) - 1 - (bitPos + i) / 8 =
        byteIndex running.length (bitPos + i) := by
      rw [runningLength, length, byteIndex, Nat.sub_right_comm]
    obtain ⟨next, written, nextLength, nextBits⟩ :=
      setBitChecked_spec inside (bitOf byte (i % 8)) false
    refine ⟨(next, bitPos + i + 1), .inl ⟨?_, by omega, nextLength.trans runningLength, ?_⟩⟩
    · have indexed : ¬byteIndex running.length (bitPos + i) ≥ running.length := by
        simp only [byteIndex]
        omega
      simp only [found, index, if_neg indexed, written]
      rfl
    · intro j
      rw [nextBits, testBit_bitOf _ (Nat.mod_lt _ (by decide)), bit, bits, bits]
      by_cases same : j = bitPos + i
      · subst same
        simp [Bool.or_comm]
      · simp [same, show (bitPos ≤ j ∧ j < bitPos + (i + 1)) ↔ (bitPos ≤ j ∧ j < bitPos + i) by omega]
  · intro state invariant
    obtain ⟨_, finalLength, bits⟩ := invariant
    refine ⟨state.1, rfl, finalLength, ?_⟩
    intro j
    rw [bits]
    -- beyond the source's own bits there is nothing to copy
    by_cases inSource : j - bitPos < sourceData.length * 8
    · simp [show (bitPos ≤ j ∧ j < bitPos + min bitLen (sourceData.length * 8)) ↔
        (bitPos ≤ j ∧ j < bitPos + bitLen) by omega]
    · rw [testBit_value_of_length_le (show 8 * sourceData.length ≤ j - bitPos by omega)]
      simp

end DiagnosticAdapter.Codec
