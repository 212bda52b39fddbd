import DiagnosticAdapter.Codec.BitField
import DiagnosticAdapter.Effects.Stateful

/-!
# Byte fields and strings

They are as long as a number in front of them says, or as the terminator behind them or the end
of the message lets them be.
-/

namespace DiagnosticAdapter.Codec

open Bits Effects

variable {raw behind : List UInt8}

theorem swapPairs_append (even : raw.length % 2 = 0) :
    swapPairs (raw ++ behind) = swapPairs raw ++ swapPairs behind := by
  fun_induction swapPairs raw with
  | case1 first second rest ih =>
    simp only [List.length_cons] at even
    rw [List.cons_append, List.cons_append, swapPairs, ih (by omega)]
    rfl
  | case2 rest short =>
    rcases rest with _ | ⟨first, _ | ⟨second, rest⟩⟩
    · rfl
    · cases even
    · exact absurd rfl (short first second rest)

theorem getElem?_swapPairs (even : raw.length % 2 = 0) {i : Nat} (pair : i % 2 = 0) :
    (swapPairs raw)[i]? = raw[i + 1]? ∧ (swapPairs raw)[i + 1]? = raw[i]? := by
  fun_induction swapPairs raw generalizing i with
  | case1 first second rest ih =>
    simp only [List.length_cons] at even
    rcases i with _ | _ | i
    · exact ⟨rfl, rfl⟩
    · cases pair
    · have inRest := @ih (by omega) i (by omega)
      simpa using inRest
  | case2 rest short =>
    rcases rest with _ | ⟨first, _ | ⟨second, rest⟩⟩
    · simp
    · cases even
    · exact absurd rfl (short first second rest)

namespace DiagCodedType

/-- The base types that are written from the front of the bytes. -/
def Sequential (self : DiagCodedType) : Prop :=
  self.baseDatatype = .byteField ∨ self.baseDatatype = .asciiString ∨
    self.baseDatatype = .utf8String ∨ self.baseDatatype = .unicode2String

def width (self : DiagCodedType) : Nat := if self.baseDatatype = .unicode2String then 2 else 1

variable {self : DiagCodedType} {data payload front : List UInt8} {bytePos : Nat}

section Sequential

theorem validateBitPos_zero : self.validateBitPos 0 = .ok () := by
  simp [validateBitPos]

variable (sequential : self.Sequential)

include sequential

theorem bitPos_eq_zero {bitPos : Nat} {checked : Unit}
    (aligned : self.validateBitPos bitPos = .ok checked) : bitPos = 0 := by
  by_contra moved
  rw [validateBitPos, if_pos ⟨by unfold Sequential at sequential; tauto, moved⟩] at aligned
  cases aligned

theorem byteOrder_cases : self.byteOrder = .keep ∨
    self.baseDatatype = .unicode2String ∧ self.byteOrder = .reorderPairs := by
  unfold byteOrder
  obtain base | base | base | base := sequential <;> simp [base]

theorem normalizeByteOrder_append (even : self.baseDatatype = .unicode2String → raw.length % 2 = 0) :
    normalizeByteOrder (raw ++ behind) self.byteOrder =
      normalizeByteOrder raw self.byteOrder ++ normalizeByteOrder behind self.byteOrder := by
  obtain order | ⟨unicode, order⟩ := byteOrder_cases sequential <;> rw [order]
  · rfl
  · exact swapPairs_append (even unicode)

end Sequential

theorem decode_of_posInfo
    (found : self.posInfo payload bytePos 0 = .ok ⟨raw.length * 8, front.length, none⟩)
    (cut : payload = front ++ raw ++ behind) :
    self.decode payload bytePos 0 =
      .ok (normalizeByteOrder raw self.byteOrder, raw.length * 8) := by
  rw [decode, validateBitPos_zero, found]
  simp only [bind, Except.bind]
  by_cases empty : raw = []
  · subst empty
    cases self.byteOrder <;> rfl
  · have positive : raw.length * 8 ≠ 0 := by simpa using empty
    have filled : byteLen (raw.length * 8) = raw.length := by
      rw [byteLen]
      omega
    have sliced : slice? payload front.length (front.length + raw.length) = some raw := by
      rw [slice?_of_le (Nat.le_add_right _ _) (by rw [cut]; simp), cut]
      simp
    have given : normalizeByteOrder raw self.byteOrder ≠ [] := by
      intro none
      have length := length_normalizeByteOrder raw self.byteOrder
      rw [none] at length
      exact empty (List.length_eq_zero_iff.mp length.symm)
    have unpacked := unpackData_whole given self.byteOrder
    rw [normalizeByteOrder_normalizeByteOrder, length_normalizeByteOrder] at unpacked
    rw [if_neg positive, filled, if_neg (by rw [cut]; simp), sliced]
    exact unpacked

section Leading

/-- The length of the data, as far as it fits into the bytes in front of them. -/
def lengthInfo (bits : Nat) (data : List UInt8) : List UInt8 :=
  toBeBytes (byteLen bits) (data.length % 2 ^ (8 * byteLen bits))

variable {bits : Nat}

theorem length_lengthInfo : (lengthInfo bits data).length = byteLen bits := length_toBeBytes _ _

variable (narrow : bits ≤ 64)

include narrow

theorem slice?_length (data : List UInt8) :
    slice? (toBeBytes 8 (data.length <<< (64 - byteLen bits * 8))) 0 (byteLen bits) =
      some (lengthInfo bits data) := by
  have count : byteLen bits ≤ 8 := by
    rw [byteLen]
    omega
  set whole := toBeBytes 8 (data.length <<< (64 - byteLen bits * 8))
  have length : whole.length = 8 := length_toBeBytes _ _
  rw [slice?_of_le (Nat.zero_le _) (by omega), List.drop_zero, Nat.sub_zero]
  congr 1
  apply eq_of_value_eq
  · rw [length_lengthInfo, List.length_take]
    omega
  · -- the bytes behind are those of the zeros that were shifted in
    have split := value_append (whole.take (byteLen bits)) (whole.drop (byteLen bits))
    have low : value (whole.drop (byteLen bits)) < 2 ^ (64 - byteLen bits * 8) :=
      (value_lt _).trans_eq (by rw [List.length_drop, length]; congr 1; omega)
    rw [List.take_append_drop, value_toBeBytes, Nat.shiftLeft_eq, List.length_drop, length,
      show 8 * (8 - byteLen bits) = 64 - byteLen bits * 8 by omega,
      show 2 ^ (8 * 8) = 2 ^ (8 * byteLen bits) * 2 ^ (64 - byteLen bits * 8) by
        rw [← Nat.pow_add]; congr 1; omega,
      Nat.mul_mod_mul_right] at split
    have quotient := congrArg (· / 2 ^ (64 - byteLen bits * 8)) split
    simp only [Nat.mul_div_cancel _ (Nat.two_pow_pos _)] at quotient
    rw [Nat.add_comm, Nat.add_mul_div_left _ _ (Nat.two_pow_pos _), Nat.div_eq_of_lt low,
      Nat.zero_add] at quotient
    rw [lengthInfo, value_toBeBytes, Nat.mod_mod, quotient]

theorem packInput_leading (leading : self.type_ = .leadingLengthInfo bits) (positive : 0 < bits)
    (data : List UInt8) : self.packInput data =
      .ok (some ⟨lengthInfo bits data ++ data, (lengthInfo bits data ++ data).length * 8, none⟩) := by
  have given : lengthInfo bits data ≠ [] := by
    rw [← List.length_pos_iff, length_lengthInfo, byteLen]
    omega
  have packed := packAligned_eq (List.append_ne_nil_of_left_ne_nil given data)
  simp only [packInput, leading, packLeadingLen, slice?_length narrow,
    if_neg (mt List.isEmpty_iff.mp given)]
  exact congrArg (some <$> ·) packed

variable (sequential : self.Sequential) (leading : self.type_ = .leadingLengthInfo bits)
  (valid : self.baseDatatype.validateBitLen bits = .ok ())

include sequential leading valid

theorem decode_leading (front data behind : List UInt8) :
    self.decode (front ++ normalizeByteOrder (lengthInfo bits data ++ data) self.byteOrder ++ behind)
      front.length 0 = .ok (normalizeByteOrder ((normalizeByteOrder data self.byteOrder).take
        (data.length % 2 ^ bits)) self.byteOrder, data.length % 2 ^ bits * 8) := by
  have positive : 0 < bits := by
    by_contra none
    rw [DataType.validateBitLen, if_pos (by omega)] at valid
    cases valid
  have paired : self.baseDatatype = .unicode2String → bits % 16 = 0 := by
    intro unicode
    rw [unicode, DataType.validateBitLen] at valid
    split_ifs at valid
    simp_all
  set order := self.byteOrder with isOrder
  have wired : normalizeByteOrder (lengthInfo bits data ++ data) order =
      normalizeByteOrder (lengthInfo bits data) order ++ normalizeByteOrder data order :=
    normalizeByteOrder_append sequential fun unicode => by
      rw [length_lengthInfo, byteLen]
      have := paired unicode
      omega
  set info := normalizeByteOrder (lengthInfo bits data) order with isInfo
  have length : info.length = byteLen bits := by
    rw [length_normalizeByteOrder, length_lengthInfo]
  obtain ⟨counted, number, read⟩ : ∃ counted, value counted = data.length % 2 ^ bits ∧
      counted.length = byteLen bits ∧ unpackData bits 0 none info order = .ok (counted, bits) := by
    refine ⟨toBeBytes (byteLen bits) (data.length % 2 ^ bits), ?_, length_toBeBytes _ _, ?_⟩
    · have small : 2 ^ bits ≤ 2 ^ (8 * byteLen bits) :=
        Nat.pow_le_pow_right (by decide) (by rw [byteLen]; omega)
      rw [value_toBeBytes, Nat.mod_eq_of_lt ((Nat.mod_lt _ (Nat.two_pow_pos _)).trans_le small)]
    · have extracted := (@extractBits_eq_ok_iff bits 0 (lengthInfo bits data) _).mpr
        ⟨by decide, positive, by rw [length_lengthInfo, byteLen]; omega, rfl⟩
      rw [lengthInfo, value_toBeBytes, Nat.mod_mod, Nat.shiftRight_zero, Nat.mod_mod_of_dvd _
        (Nat.pow_dvd_pow 2 (by rw [byteLen]; omega)), ← lengthInfo] at extracted
      rw [unpackData, isInfo, normalizeByteOrder_normalizeByteOrder, extracted]
      rfl
  obtain ⟨countedLength, unpacked⟩ := read
  have usize : usizeFromBytes counted = .ok (data.length % 2 ^ bits) := by
    rw [usizeFromBytes, countedLength, if_pos (by rw [byteLen]; omega), number]
  have located : ((normalizeByteOrder data order).take (data.length % 2 ^ bits)).length =
      data.length % 2 ^ bits := by
    rw [List.length_take, length_normalizeByteOrder]
    exact Nat.min_eq_left (Nat.mod_le _ _)
  rw [wired]
  set payload := front ++ (info ++ normalizeByteOrder data order) ++ behind with isPayload
  have total : payload.length = front.length + byteLen bits + data.length + behind.length := by
    rw [isPayload]
    simp only [List.length_append, length, length_normalizeByteOrder]
    omega
  have within := Nat.mod_le data.length (2 ^ bits)
  have sliced : slice? payload front.length (front.length + byteLen bits) = some info := by
    rw [slice?_of_le (Nat.le_add_right _ _) (by omega), isPayload, ← length]
    simp
  have placed : self.posInfo payload front.length 0 =
      .ok ⟨data.length % 2 ^ bits * 8, front.length + byteLen bits, none⟩ := by
    rw [posInfo, leading]
    simp only [posInfoLeadingLen, valid, sliced, ← isOrder, unpacked, usize, countedLength, bind,
      Except.bind]
    rw [if_neg (by omega), Nat.add_sub_cancel_left]
    rfl
  rw [← length, ← List.length_append, ← located] at placed
  have decoded := @decode_of_posInfo ((normalizeByteOrder data order).take (data.length % 2 ^ bits))
    ((normalizeByteOrder data order).drop (data.length % 2 ^ bits) ++ behind) self payload
    (front ++ info) front.length placed (by
      rw [List.append_assoc, ← List.append_assoc (List.take _ _), List.take_append_drop, isPayload]
      simp only [List.append_assoc])
  rw [located] at decoded
  exact decoded

end Leading

section Scan

variable {found : Nat → Bool} {width maxEnd endPos rounds : Nat}

theorem scanEnd_eq (count : Nat) (passes : ∀ i < count, endPos + i * width < maxEnd ∧
      found (endPos + i * width) = false)
    (stops : endPos + count * width < maxEnd → found (endPos + count * width) = true)
    (enough : count ≤ rounds) :
    scanEnd found width maxEnd rounds endPos = endPos + count * width := by
  induction count generalizing endPos rounds with
  | zero =>
    rw [Nat.zero_mul, Nat.add_zero] at stops ⊢
    cases rounds with
    | zero => rfl
    | succ rounds =>
      rw [scanEnd]
      split
      · rename_i inside
        rw [if_pos (stops inside)]
      · rfl
  | succ count ih =>
    obtain ⟨rounds, rfl⟩ : ∃ fewer, rounds = fewer + 1 := ⟨rounds - 1, by omega⟩
    obtain ⟨inside, missed⟩ := passes 0 (Nat.succ_pos count)
    rw [Nat.zero_mul, Nat.add_zero] at inside missed
    have next : ∀ i, endPos + width + i * width = endPos + (i + 1) * width := by
      intro i
      rw [Nat.succ_mul]
      omega
    rw [scanEnd, if_pos inside, missed, ← next]
    apply ih
    · intro i less
      rw [next]
      exact passes (i + 1) (Nat.succ_lt_succ less)
    · rw [next]
      exact stops
    · exact Nat.le_of_succ_le_succ enough

end Scan

section MinMax

/-- No character from `minLength` on is a terminator. -/
def Free (self : DiagCodedType) (terminator : UInt8) (minLength : Nat) (data : List UInt8) : Prop :=
  ∀ i, minLength ≤ i → i % self.width = 0 → i < data.length →
    ∃ k < self.width, data[i + k]? ≠ some terminator

def endByte : Termination → Option UInt8
  | .endOfPdu => none
  | .zero => some 0
  | .hexFF => some 0xFF

def maxEnd (maxLength : Option Nat) (bytePos length : Nat) : Nat :=
  match maxLength with
  | some maxLength => min (bytePos + maxLength) length
  | none => length

theorem maxEnd_le (maxLength : Option Nat) (bytePos length : Nat) :
    maxEnd maxLength bytePos length ≤ length := by
  cases maxLength with
  | none => exact Nat.le_refl _
  | some maxLength => exact Nat.min_le_right _ _

theorem withTermination_eq (termination : Termination) (data : List UInt8) :
    self.withTermination termination data = data ++ match endByte termination with
      | some byte => List.replicate self.width byte
      | none => [] := by
  cases termination <;> simp [withTermination, endByte, width]

theorem findTermination_eq {terminator : UInt8} {minLength maxEnd : Nat}
    (split : payload = front ++ raw ++ List.replicate self.width terminator ++ behind)
    (free : self.Free terminator minLength raw)
    (paired : self.baseDatatype = .unicode2String → raw.length % 2 = 0)
    (least : minLength ≤ raw.length) (inside : front.length + raw.length ≤ maxEnd) :
    self.findTermination terminator payload front.length minLength maxEnd =
      front.length + raw.length := by
  have inRaw : ∀ i < raw.length, payload[front.length + i]? = raw[i]? := by
    intro i less
    rw [split, List.append_assoc, List.append_assoc, List.getElem?_append_right (by omega),
      Nat.add_sub_cancel_left, List.getElem?_append_left less]
  have terminated : ∀ k < self.width, payload[front.length + raw.length + k]? = some terminator := by
    intro k less
    rw [split, List.append_assoc, ← List.length_append, List.getElem?_append_right (by omega),
      Nat.add_sub_cancel_left, List.getElem?_append_left (by simpa using less)]
    simp [less]
  rw [findTermination]
  by_cases unicode : self.baseDatatype = .unicode2String
  · have wide : self.width = 2 := if_pos unicode
    have pairs := Nat.div_mul_cancel (Nat.dvd_of_mod_eq_zero (paired unicode))
    have first := terminated 0 (by omega)
    have second := terminated 1 (by omega)
    obtain ⟨inPayload, last⟩ := List.getElem?_eq_some_iff.mp second
    rw [if_pos unicode]
    refine (scanEnd_eq (raw.length / 2) ?_ ?_ ?_).trans (by rw [pairs])
    · intro i less
      refine ⟨by omega, ?_⟩
      have at0 := inRaw (i * 2) (by omega)
      have at1 := inRaw (i * 2 + 1) (by omega)
      by_cases counted : minLength ≤ i * 2
      · obtain ⟨k, less, missed⟩ := free (i * 2) counted (by rw [wide]; omega) (by omega)
        rw [wide] at less
        rw [← Nat.add_assoc] at at1
        obtain rfl | rfl : k = 0 ∨ k = 1 := by omega
        · simp [at0, show raw[i * 2]? ≠ some terminator from missed]
        · simp [at1, missed]
      · simp [counted]
    · intro _
      rw [pairs, Nat.add_zero] at *
      simp [least, first, last, inPayload]
    · omega
  · have narrow : self.width = 1 := if_neg unicode
    have last := terminated 0 (by omega)
    rw [if_neg unicode]
    refine (scanEnd_eq raw.length ?_ ?_ ?_).trans (by rw [Nat.mul_one])
    · intro i less
      rw [Nat.mul_one]
      refine ⟨by omega, ?_⟩
      by_cases counted : minLength ≤ i
      · obtain ⟨k, small, missed⟩ := free i counted (by rw [narrow]; omega) less
        obtain rfl : k = 0 := by omega
        simp [inRaw i less, show raw[i]? ≠ some terminator from missed]
      · simp [counted]
    · intro _
      rw [Nat.mul_one]
      simpa [least] using last
    · omega

variable (sequential : self.Sequential)

include sequential

theorem Free.normalizeByteOrder {terminator : UInt8} {minLength : Nat}
    (paired : self.baseDatatype = .unicode2String → raw.length % 2 = 0)
    (free : self.Free terminator minLength raw) :
    self.Free terminator minLength (normalizeByteOrder raw self.byteOrder) := by
  obtain order | ⟨unicode, order⟩ := byteOrder_cases sequential <;> rw [order]
  · exact free
  · intro i counted aligned inside
    have wide : self.width = 2 := if_pos unicode
    rw [wide] at aligned
    obtain ⟨first, second⟩ := getElem?_swapPairs (paired unicode) aligned
    rw [length_normalizeByteOrder] at inside
    obtain ⟨k, less, missed⟩ := free i counted (by rw [wide]; exact aligned) inside
    rw [wide] at less ⊢
    obtain rfl | rfl : k = 0 ∨ k = 1 := by omega
    · exact ⟨1, by decide, ne_of_eq_of_ne second missed⟩
    · exact ⟨0, by decide, ne_of_eq_of_ne first missed⟩

theorem decode_minMax {mmlt : MinMaxLengthType} (kind : self.type_ = .minMaxLength mmlt)
    (paired : mmlt.termination ≠ .endOfPdu → self.baseDatatype = .unicode2String →
      raw.length % 2 = 0)
    (least : mmlt.minLength ≤ raw.length) (allowed : ∀ max ∈ mmlt.maxLength, raw.length ≤ max)
    (free : ∀ byte ∈ endByte mmlt.termination, self.Free byte mmlt.minLength raw)
    (front behind : List UInt8) (last : mmlt.termination = .endOfPdu → behind = []) :
    self.decode (front ++ normalizeByteOrder (self.withTermination mmlt.termination raw)
      self.byteOrder ++ behind) front.length 0 = .ok (raw, raw.length * 8) := by
  set wire := normalizeByteOrder raw self.byteOrder with isWire
  have length : wire.length = raw.length := length_normalizeByteOrder raw self.byteOrder
  set ending := match endByte mmlt.termination with
    | some byte => List.replicate self.width byte
    | none => [] with isEnding
  have wired : normalizeByteOrder (self.withTermination mmlt.termination raw) self.byteOrder =
      wire ++ ending := by
    rw [withTermination_eq, ← isEnding]
    by_cases toEnd : mmlt.termination = .endOfPdu
    · rw [isEnding, toEnd]
      simp [endByte, isWire]
    · rw [normalizeByteOrder_append sequential (paired toEnd), ← isWire, isEnding]
      cases endByte mmlt.termination with
      | none => exact congrArg (wire ++ ·) (List.length_eq_zero_iff.mp (length_normalizeByteOrder [] _))
      | some byte => exact congrArg (wire ++ ·) (normalizeByteOrder_replicate _ _ _)
  rw [wired]
  set payload := front ++ (wire ++ ending) ++ behind with isPayload
  have total : payload.length = front.length + raw.length + ending.length + behind.length := by
    rw [isPayload]
    simp only [List.length_append, length]
    omega
  have bound : front.length + raw.length ≤ maxEnd mmlt.maxLength front.length payload.length := by
    cases hasMax : mmlt.maxLength with
    | none =>
      rw [maxEnd]
      omega
    | some max =>
      have := allowed max hasMax
      rw [maxEnd]
      omega
  have found : ∀ byte, endByte mmlt.termination = some byte →
      self.findTermination byte payload front.length mmlt.minLength
        (maxEnd mmlt.maxLength front.length payload.length) = front.length + raw.length := by
    intro byte isByte
    have even := paired (by rintro same; rw [same] at isByte; cases isByte)
    have wireFree := (free byte isByte).normalizeByteOrder sequential even
    rw [← length] at bound least even ⊢
    refine @findTermination_eq wire behind self payload front byte _ _ ?_ wireFree even least bound
    rw [isPayload, isEnding, isByte]
    simp only [List.append_assoc]
  have placed : self.posInfo payload front.length 0 =
      .ok ⟨raw.length * 8, front.length, none⟩ := by
    have ended : ∀ endPos, endPos = front.length + raw.length →
        (if endPos - front.length < mmlt.minLength then
          .error (.notEnoughData (front.length + mmlt.minLength) payload.length)
        else .ok ⟨(endPos - front.length) * 8, front.length, none⟩ :
          Except DiagServiceError PosInfo) = .ok ⟨raw.length * 8, front.length, none⟩ := by
      rintro endPos rfl
      rw [Nat.add_sub_cancel_left, if_neg (Nat.not_lt.mpr least)]
    rw [posInfo, kind]
    dsimp only [posInfoMinMaxLen]
    cases termination : mmlt.termination with
    | endOfPdu =>
      have nothing : ending = [] := by
        rw [isEnding, termination]
        rfl
      rw [nothing, last termination] at total
      exact ended _ (Nat.le_antisymm ((maxEnd_le _ _ _).trans (Nat.le_of_eq total)) bound)
    | zero =>
      have terminated := found 0 (congrArg endByte termination)
      refine (if_neg ?_).trans (ended _ terminated)
      exact Nat.not_lt.mpr (terminated.le.trans (by omega))
    | hexFF => exact ended _ (found 0xFF (congrArg endByte termination))
  rw [← length] at placed ⊢
  have decoded := @decode_of_posInfo wire (ending ++ behind) self payload front front.length placed
    (by simp only [isPayload, List.append_assoc])
  rw [isWire, normalizeByteOrder_normalizeByteOrder] at decoded
  exact decoded

end MinMax

section RoundTrip

variable (sequential : self.Sequential)

theorem encode_cleared {wire : List UInt8}
    (packs : self.packInput data = .ok (some ⟨wire, wire.length * 8, none⟩)) (given : wire ≠ [])
    (cleared : value (self.cutOut payload bytePos wire.length) = 0) :
    self.encode data payload bytePos 0 =
      .ok (overwrite payload bytePos (normalizeByteOrder wire self.byteOrder)) := by
  rw [encode, validateBitPos_zero, packs]
  exact writePacked_cleared given self cleared

include sequential

/-- A value that holds no terminator comes back, whatever stands behind its own. -/
theorem decode_encode_minMax {mmlt : MinMaxLengthType} (kind : self.type_ = .minMaxLength mmlt)
    (paired : self.baseDatatype = .unicode2String → data.length % 2 = 0)
    (least : mmlt.minLength ≤ data.length) (allowed : ∀ max ∈ mmlt.maxLength, data.length ≤ max)
    (free : ∀ byte ∈ endByte mmlt.termination, self.Free byte mmlt.minLength data)
    {after : List UInt8} {bitPos : Nat} (beyond : payload.length ≤ bytePos)
    (encoded : self.encode data payload bytePos bitPos = .ok after) (behind : List UInt8)
    (last : mmlt.termination = .endOfPdu → behind = []) :
    self.decode (after ++ behind) bytePos bitPos = .ok (data, data.length * 8) := by
  rw [encode, except_bind_eq_ok_iff] at encoded
  obtain ⟨_, aligned, encoded⟩ := encoded
  obtain rfl := bitPos_eq_zero sequential aligned
  have given : self.withTermination mmlt.termination data ≠ [] := by
    intro empty
    simp only [packInput, kind, empty] at encoded
    cases encoded
  have packs : self.packInput data = .ok (some ⟨self.withTermination mmlt.termination data,
      (self.withTermination mmlt.termination data).length * 8, none⟩) := by
    rw [packInput, kind]
    exact congrArg (some <$> ·) (packAligned_eq given)
  rw [packs] at encoded
  obtain rfl := Except.ok.inj ((writePacked_beyond given self beyond).symm.trans encoded)
  have front : (extendTo payload bytePos).length = bytePos := by
    rw [length_extendTo]
    exact Nat.max_eq_right beyond
  have decoded := decode_minMax sequential kind (fun _ => paired) least allowed free
    (extendTo payload bytePos) behind last
  rw [front] at decoded
  exact decoded

variable {bits : Nat} (positive : 0 < bits)

include positive

theorem validateBitLen_sequential : self.baseDatatype.validateBitLen bits = .ok () ↔
    (self.baseDatatype = .unicode2String → bits % 16 = 0) := by
  obtain base | base | base | base := sequential <;>
    simp [DataType.validateBitLen, base, Nat.ne_of_gt positive]

/-- The encoder accepts every length.  A value comes back where its length fits into the bits for
it, and these are read as two-byte characters are. -/
theorem leading_comes_back_iff (leading : self.type_ = .leadingLengthInfo bits)
    (narrow : bits ≤ 64) (given : data ≠ []) (count bytePos : Nat) :
    ((∀ after, self.encode data (List.replicate count 0) bytePos 0 = .ok after →
        self.decode after bytePos 0 = .ok (data, data.length * 8)) ∧
      (2 ^ bits ≤ data.length →
        ∀ after, self.encode data (List.replicate count 0) bytePos 0 ≠ .ok after)) ↔
      data.length < 2 ^ bits ∧ (self.baseDatatype = .unicode2String → bits % 16 = 0) := by
  have wired : lengthInfo bits data ++ data ≠ [] := List.append_ne_nil_of_right_ne_nil _ given
  set wire := lengthInfo bits data ++ data with isWire
  set payload := List.replicate count (0 : UInt8)
  have cleared : value (self.cutOut payload bytePos wire.length) = 0 := by
    rw [cutOut, extendTo, List.replicate_append_replicate, List.drop_replicate, List.take_replicate,
      normalizeByteOrder_replicate, value_replicate_zero]
  have encoded := encode_cleared (packInput_leading narrow leading positive data) wired cleared
  set bytes := normalizeByteOrder wire self.byteOrder
  have front : ((extendTo payload (bytePos + bytes.length)).take bytePos).length = bytePos := by
    rw [List.length_take, length_extendTo]
    omega
  rw [← validateBitLen_sequential sequential positive]
  by_cases valid : self.baseDatatype.validateBitLen bits = .ok ()
  · have decoded := decode_leading narrow sequential leading valid
      ((extendTo payload (bytePos + bytes.length)).take bytePos) data
      ((extendTo payload (bytePos + bytes.length)).drop (bytePos + bytes.length))
    rw [front] at decoded
    constructor
    · rintro ⟨comesBack, _⟩
      have same := decoded.symm.trans (comesBack _ encoded)
      have counted := congrArg Prod.snd (Except.ok.inj same)
      have small := Nat.mod_lt data.length (Nat.two_pow_pos bits)
      dsimp only at counted
      exact ⟨by omega, valid⟩
    · rintro ⟨short, _⟩
      refine ⟨?_, fun long => absurd short (Nat.not_lt.mpr long)⟩
      intro after encoded'
      obtain rfl := Except.ok.inj (encoded.symm.trans encoded')
      have all : (normalizeByteOrder data self.byteOrder).take data.length =
          normalizeByteOrder data self.byteOrder :=
        List.take_of_length_le (by rw [length_normalizeByteOrder])
      rw [Nat.mod_eq_of_lt short, all, normalizeByteOrder_normalizeByteOrder] at decoded
      exact decoded
  · refine iff_of_false ?_ fun both => valid both.2
    rintro ⟨comesBack, _⟩
    have decoded := comesBack _ encoded
    rw [decode, validateBitPos_zero, posInfo, leading] at decoded
    obtain ⟨error, refused⟩ : ∃ error, self.baseDatatype.validateBitLen bits = .error error := by
      cases checked : self.baseDatatype.validateBitLen bits with
      | ok done => exact absurd checked valid
      | error error => exact ⟨error, rfl⟩
    simp only [posInfoLeadingLen, refused] at decoded
    cases decoded

end RoundTrip

def countedField : DiagCodedType := ⟨.byteField, .leadingLengthInfo 4, true⟩

theorem leading_comes_back_iff_short :
    countedField.decode [0x00, 0x02, 0xAB, 0xCD] 1 0 = .ok ([0xAB, 0xCD], 16) :=
  ((@leading_comes_back_iff countedField [0xAB, 0xCD] (.inl rfl) 4 (by decide) rfl (by decide)
    (by decide) 0 1).mpr ⟨by decide, nofun⟩).1 _ (by decide)

/-- Of sixteen bytes none is read back. -/
theorem countedField_loses_sixteen :
    countedField.encode (List.replicate 16 0xAB) [] 0 0 = .ok (0x10 :: List.replicate 16 0xAB) ∧
      countedField.decode (0x10 :: List.replicate 16 0xAB) 0 0 = .ok ([], 0) := by
  decide +kernel

def terminatedText : DiagCodedType :=
  ⟨.asciiString, .minMaxLength ⟨1, some 3, .zero⟩, true⟩

theorem decode_encode_minMax_full :
    terminatedText.decode [0x22, 0x41, 0x42, 0x43, 0x00, 0x44] 1 0 = .ok ([0x41, 0x42, 0x43], 24) :=
  @decode_encode_minMax terminatedText [0x41, 0x42, 0x43] [0x22] 1 (.inr (.inl rfl)) _ rfl nofun
    (by decide) (by rintro _ ⟨⟩; decide) (by
      rintro _ ⟨⟩ i _ _ inside
      have nonzero : ∀ i < 3, ([0x41, 0x42, 0x43] : List UInt8)[i + 0]? ≠ some 0 := by decide
      exact ⟨0, by decide, nonzero i inside⟩) [0x22, 0x41, 0x42, 0x43, 0x00] 0 (by decide)
        (by decide) [0x44] nofun

end DiagCodedType

end DiagnosticAdapter.Codec
