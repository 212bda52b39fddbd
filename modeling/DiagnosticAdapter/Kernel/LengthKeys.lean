import DiagnosticAdapter.Codec.Laid
import DiagnosticAdapter.Kernel.LeafReading

/-!
# Data whose length stands in another parameter

The caller gives a length key and the data that it is the length of as two values, and
the encoder writes each of them by itself.  The decoder takes from the payload as many
bytes as the key says, and takes them as they are.
-/

namespace DiagnosticAdapter.Kernel

open Bits Codec Effects

/-- The step adds the bytes at the position, as far as the cells are concerned. -/
def LaysIn (cells : Cell → Prop) (laid : Nat × List UInt8)
    (step : List UInt8 → Except DiagServiceError (List UInt8)) : Prop :=
  ∀ before after, step before = .ok after →
    before.length ≤ after.length ∧ laid.1 + laid.2.length ≤ after.length ∧
      ∀ cell, cells cell → holds after cell = (holds before cell || holdsAt laid.1 laid.2 cell)

/-- The step leaves the cells as they are and does not shorten the payload. -/
def LeavesAlone (cells : Cell → Prop)
    (step : List UInt8 → Except DiagServiceError (List UInt8)) : Prop :=
  ∀ before after, step before = .ok after →
    before.length ≤ after.length ∧ ∀ cell, cells cell → holds after cell = holds before cell

section Steps

variable {cells : Cell → Prop} {step : List UInt8 → Except DiagServiceError (List UInt8)}

theorem holdsAt_nil (bytePos : Nat) (cell : Cell) : holdsAt bytePos [] cell = false := by
  apply holdsAt_of_outside
  rw [List.length_nil]
  omega

theorem LeavesAlone.laysIn (alone : LeavesAlone cells step) : LaysIn cells (0, []) step := by
  intro before after ran
  obtain ⟨grows, same⟩ := alone before after ran
  refine ⟨grows, Nat.zero_le _, ?_⟩
  intro cell isCell
  rw [same cell isCell, holdsAt_nil, Bool.or_false]

theorem leavesAlone_ok : LeavesAlone cells (.ok : List UInt8 → _) := by
  intro before after ran
  cases ran
  exact ⟨Nat.le_refl _, fun _ _ => rfl⟩

theorem laysIn_of_lays {bytePos : Nat} {bytes : List UInt8}
    (lays : ∀ before after, step before = .ok after → Lays bytePos bytes before after) :
    LaysIn cells (bytePos, bytes) step := by
  intro before after ran
  obtain ⟨length, holds⟩ := lays before after ran
  exact ⟨by omega, by dsimp only; omega, fun cell _ => holds cell⟩

theorem foldlM_laysIn {α : Type} {step : List UInt8 → α → Except DiagServiceError (List UInt8)}
    {items : List α} {laids : List (Nat × List UInt8)}
    (adds : List.Forall₂ (fun item laid => LaysIn cells laid fun payload => step payload item) items
      laids) {before after : List UInt8} (ran : items.foldlM step before = .ok after) :
    before.length ≤ after.length ∧ (∀ laid ∈ laids, laid.1 + laid.2.length ≤ after.length) ∧
      ∀ cell, cells cell → holds after cell =
        (holds before cell || laids.any fun laid => holdsAt laid.1 laid.2 cell) := by
  induction adds generalizing before with
  | nil =>
    cases ran
    exact ⟨Nat.le_refl _, by simp, fun cell _ => by simp⟩
  | @cons item laid items laids first rest ih =>
    rw [List.foldlM_cons, except_bind_eq_ok_iff] at ran
    obtain ⟨middle, ran, rested⟩ := ran
    obtain ⟨grows, reached, added⟩ := first before middle ran
    obtain ⟨grown, allReached, allAdded⟩ := ih rested
    refine ⟨grows.trans grown, ?_, ?_⟩
    · rw [List.forall_mem_cons]
      exact ⟨reached.trans grown, allReached⟩
    · intro cell isCell
      rw [allAdded cell isCell, added cell isCell, List.any_cons, Bool.or_assoc]

theorem foldlM_laysIn_two {α : Type} {step : List UInt8 → α → Except DiagServiceError (List UInt8)}
    {items others : List α} {first second : α} {firstLaid secondLaid : Nat × List UInt8}
    (layout : items.Perm (first :: second :: others))
    (firstAdds : LaysIn cells firstLaid fun payload => step payload first)
    (secondAdds : LaysIn cells secondLaid fun payload => step payload second)
    (alone : ∀ other ∈ others, LeavesAlone cells fun payload => step payload other)
    {before after : List UInt8} (ran : items.foldlM step before = .ok after) :
    firstLaid.1 + firstLaid.2.length ≤ after.length ∧
      secondLaid.1 + secondLaid.2.length ≤ after.length ∧
      ∀ cell, cells cell → holds after cell = (holds before cell ||
        (holdsAt firstLaid.1 firstLaid.2 cell || holdsAt secondLaid.1 secondLaid.2 cell)) := by
  have othersAdd : List.Forall₂ (fun item laid => LaysIn cells laid fun payload => step payload item)
      others (others.map fun _ => (0, [])) := by
    rw [List.forall₂_map_right_iff, List.forall₂_same]
    exact fun other isOther => (alone other isOther).laysIn
  obtain ⟨laids, adds, same⟩ := List.perm_comp_forall₂ layout
    (.cons firstAdds (.cons secondAdds othersAdd))
  obtain ⟨_, reached, added⟩ := foldlM_laysIn adds ran
  refine ⟨reached _ (same.mem_iff.2 (by simp)), reached _ (same.mem_iff.2 (by simp)), ?_⟩
  intro cell isCell
  rw [added cell isCell, same.any_eq, List.any_cons, List.any_cons, List.any_map]
  have nothing : (others.any ((fun laid : Nat × List UInt8 => holdsAt laid.1 laid.2 cell) ∘
      fun _ => (0, []))) = false := by
    rw [List.any_eq_false]
    intro other _
    rw [Function.comp, holdsAt_nil]
    exact Bool.false_ne_true
  rw [nothing, Bool.or_false]

end Steps

variable {conv : Conversions}

structure LengthKey (conv : Conversions) where
  shortName : Text
  semantic : Option Text
  bytePos : Nat
  bitPos : Option Nat
  dop : NumberDop conv

namespace LengthKey

variable (key : LengthKey conv)

def parameter : Parameter conv :=
  ⟨.ok .lengthKey, some key.shortName, key.semantic, some key.bytePos, key.bitPos,
    .lengthKeyRef (some (.normal key.dop.normalDop))⟩

def bit : Nat := key.bitPos.getD 0

def number (values : ParameterMap) : Except DiagServiceError Nat :=
  match values.lookup key.shortName with
  | some json => key.dop.number json
  | none => .error (.invalidRequest
      s!"Required LengthKey parameter '{key.parameter.nameOrDefault}' missing")

def wire (number : Nat) : List UInt8 :=
  laidBytes key.dop.diagCodedType.byteOrder key.bit key.dop.bitLength
    (DiagCodedType.writtenNumber key.dop.bitLength number)

def cell (i : Nat) : Cell := (key.dop.place key.bytePos key.bit).cell i

end LengthKey

structure KeyedData (conv : Conversions) where
  shortName : Text
  semantic : Option Text
  bytePos : Nat
  bitPos : Option Nat
  baseDatatype : DataType
  isHighLowByteOrder : Bool
  compuMethod : Option conv.CompuMethod
  physicalType : Option PhysicalType
  default : Option Text

namespace KeyedData

variable (data : KeyedData conv) (key : LengthKey conv)

def diagCodedType : DiagCodedType :=
  ⟨data.baseDatatype, .paramLengthInfo (String.ofList key.shortName), data.isHighLowByteOrder⟩

def normalDop : NormalDop conv :=
  ⟨.ok (data.diagCodedType key), data.compuMethod, data.physicalType⟩

def parameter : Parameter conv :=
  ⟨.ok .value, some data.shortName, data.semantic, some data.bytePos, data.bitPos,
    .value data.default (some (.normal (data.normalDop key)))⟩

def bit : Nat := data.bitPos.getD 0

def bytes (values : ParameterMap) : Except DiagServiceError (List UInt8) := do
  let json ← resolveRequiredParam (values.lookup data.shortName) (.normal (data.normalDop key))
    data.default (data.parameter key).nameOrDefault
  jsonValueToUdsData conv (data.diagCodedType key) data.compuMethod data.physicalType json

def wire (bytes : List UInt8) : List UInt8 :=
  (data.diagCodedType key).runtimeBytes data.bit bytes

end KeyedData

section Encoding

variable {strict : Bool} {depth : Nat} {values : ParameterMap} {before after : List UInt8}

theorem lays_of_extended {bytePos : Nat} {bytes : List UInt8}
    (lays : Lays bytePos bytes (DiagCodedType.extendTo before bytePos) after) :
    Lays bytePos bytes before after := by
  obtain ⟨length, added⟩ := lays
  constructor
  · rw [length, DiagCodedType.length_extendTo]
    omega
  · intro cell
    rw [added, DiagCodedType.holds_extendTo]

theorem lays_lengthKey {key : LengthKey conv} {number : Nat} (given : key.number values = .ok number)
    (ran : processParameter strict depth values before key.parameter = .ok after) :
    (1 ≤ key.dop.bitLength ∧ key.dop.bitLength ≤ 64) ∧ key.bit ≤ 7 ∧
      Lays key.bytePos (key.wire number) before after := by
  cases depth with
  | zero => cases ran
  | succ depth =>
    rw [LengthKey.number] at given
    cases supplied : values.lookup key.shortName with
    | none =>
      rw [supplied] at given
      cases given
    | some json =>
      rw [supplied] at given
      change key.dop.number json = .ok number at given
      have mapped : mapNormalDopToUds key.dop.normalDop json
          (DiagCodedType.extendTo before key.bytePos) (0 + key.bytePos) key.bit = .ok after := by
        rw [← ran]
        change _ = mapParamLengthKeyToUds key.parameter (values.lookup key.shortName)
          (DiagCodedType.extendTo before key.bytePos) 0
        rw [supplied]
        rfl
      simp only [mapNormalDopToUds, NumberDop.normalDop, except_bind_eq_ok_iff,
        Except.ok.injEq] at mapped
      obtain ⟨_, rfl, bytes, converted, encoded⟩ := mapped
      rw [NumberDop.number, converted] at given
      obtain rfl := Except.ok.inj given
      rw [Nat.zero_add] at encoded
      have standard : key.dop.diagCodedType.type_ =
          .standardLength ⟨key.dop.bitLength, none, key.dop.condensed⟩ := rfl
      obtain ⟨valid, position, lays⟩ :=
        DiagCodedType.lays_of_encode_standard standard rfl key.dop.numeric encoded
      exact ⟨key.dop.valid_iff.1 valid, position, lays_of_extended lays⟩

theorem lays_keyedData {key : LengthKey conv} {data : KeyedData conv} {bytes : List UInt8}
    (given : data.bytes key values = .ok bytes)
    (ran : processParameter strict depth values before (data.parameter key) = .ok after) :
    Lays data.bytePos (data.wire key bytes) before after := by
  cases depth with
  | zero => cases ran
  | succ depth =>
    rw [KeyedData.bytes, except_bind_eq_ok_iff] at given
    obtain ⟨json, resolved, converted⟩ := given
    have mapped : mapNormalDopToUds (data.normalDop key) json
        (DiagCodedType.extendTo before data.bytePos) (0 + data.bytePos) data.bit = .ok after := by
      rw [← ran]
      change _ = (resolveRequiredParam (values.lookup data.shortName)
        (.normal (data.normalDop key)) data.default (data.parameter key).nameOrDefault >>=
          fun json => mapNormalDopToUds (data.normalDop key) json
            (DiagCodedType.extendTo before data.bytePos) (0 + data.bytePos) data.bit)
      rw [resolved]
      rfl
    simp only [mapNormalDopToUds, KeyedData.normalDop, except_bind_eq_ok_iff,
      Except.ok.injEq] at mapped
    obtain ⟨_, rfl, _, again, encoded⟩ := mapped
    obtain rfl := Except.ok.inj (again.symm.trans converted)
    rw [Nat.zero_add] at encoded
    apply lays_of_extended
    exact DiagCodedType.lays_of_encode_runtime rfl
      (by rw [DiagCodedType.length_extendTo]; exact Nat.le_max_right _ _) encoded

end Encoding

section Decoding

variable (service : DiagService conv) (depth : Nat) (key : LengthKey conv) (data : KeyedData conv)

/-- The key is decoded first, then the data. -/
def readKeyed : Decoder conv Unit := do
  mapParamFromUds service depth key.shortName (.new key.parameter 0)
  mapParamFromUds service depth data.shortName (.new (data.parameter key) 0)

def ReadsBack (uds bytes : List UInt8) : Prop :=
  ∃ final raw, readKeyed service depth key data (.new uds) = .ok () final ∧
    final.data data.shortName = some (.raw raw) ∧ raw.data = bytes

variable {uds : List UInt8}

theorem stores_lengthKey :
    Stores (mapParamFromUds service (depth + 1) key.shortName (.new key.parameter 0))
      key.shortName (.new uds)
      ((Content.extracted key.dop.diagCodedType (some key.dop.compuMethod)).read uds
        MappedPayload.empty key.bytePos key.bit) := by
  have typed : key.dop.normalDop.diagCodedType = .ok key.dop.diagCodedType := rfl
  have computed : key.dop.normalDop.compuMethod = some key.dop.compuMethod := rfl
  have stores := stores_normal (shows_new uds) typed computed key.shortName (.new key.parameter 0)
  change Stores _ _ _ (Content.read _ _ _ (0 + key.bytePos) _) at stores
  rw [Nat.zero_add] at stores
  exact stores

theorem stores_keyedData {state : DecodeState conv} (shows : state.payload.Shows uds) :
    Stores (mapParamFromUds service (depth + 1) data.shortName (.new (data.parameter key) 0))
      data.shortName state
      ((Content.keyed data.baseDatatype data.compuMethod key.shortName data.shortName).read uds
        state.data data.bytePos data.bit) := by
  have isLeaf : (data.parameter key).content? = some (.keyed data.baseDatatype data.compuMethod
      (String.ofList key.shortName).toList data.shortName) := rfl
  rw [String.toList_ofList] at isLeaf
  have stores := @mapParamKindFromUds_stores conv (.new (data.parameter key) 0) _ isLeaf state uds
    shows service (mapParamFromUds service depth) data.shortName
  change Stores _ _ _ (Content.read _ _ _ (0 + data.bytePos) _) at stores
  rw [Nat.zero_add] at stores
  exact stores

theorem not_read_of_misfit {stored : MappedPayload conv}
    (misfit : 8 * byteLen key.dop.bitLength < key.bit + key.dop.bitLength)
    (result : Container conv × Option Nat) :
    (Content.extracted key.dop.diagCodedType (some key.dop.compuMethod)).read uds stored key.bytePos
      key.bit ≠ .ok result := by
  intro read
  simp only [Content.read, extractAt, except_bind_eq_ok_iff] at read
  obtain ⟨_, ⟨⟨_, _⟩, decoded, _⟩, _⟩ := read
  rw [decodeIfPresent, if_neg (by simp [isOptional, NumberDop.diagCodedType])] at decoded
  have standard : key.dop.diagCodedType.type_ =
      .standardLength ⟨key.dop.bitLength, none, key.dop.condensed⟩ := rfl
  rw [DiagCodedType.decode_standard_eq_ok_iff standard, DiagCodedType.readField_eq_ok_iff rfl]
    at decoded
  obtain ⟨_, _, _, _, fits, _⟩ := decoded
  have short := List.length_take_le (byteLen key.dop.bitLength) (uds.drop key.bytePos)
  rw [DiagCodedType.fieldBytes] at fits
  dsimp only at fits
  omega

theorem exists_read_lengthKey (stored : MappedPayload conv)
    (valid : 1 ≤ key.dop.bitLength ∧ key.dop.bitLength ≤ 64)
    (fits : key.bit + key.dop.bitLength ≤ 8 * byteLen key.dop.bitLength)
    (enough : key.bytePos + byteLen key.dop.bitLength ≤ uds.length) :
    ∃ read next, (Content.extracted key.dop.diagCodedType (some key.dop.compuMethod)).read uds
        stored key.bytePos key.bit = .ok (.raw (key.dop.container read), next) ∧
      read.length = byteLen key.dop.bitLength ∧
      ∀ i, (value read).testBit i = (decide (i < key.dop.bitLength) && holds uds (key.cell i)) := by
  have standard : key.dop.diagCodedType.type_ =
      .standardLength ⟨key.dop.bitLength, none, key.dop.condensed⟩ := rfl
  have position : key.bit ≤ 7 := by
    rw [byteLen] at fits
    omega
  obtain ⟨read, decoded, length, bits⟩ := DiagCodedType.decode_reads
    (DiagCodedType.byteOrder_numeric (.inr rfl)) standard rfl position
    (DiagCodedType.validateBitPos_numeric (.inr rfl) key.bit) (key.dop.valid_iff.2 valid) valid.1
    fits enough
  refine ⟨read, some (key.bytePos + read.length), ?_, length, bits⟩
  have given : ¬(read.isEmpty ∧ !isOptional key.dop.diagCodedType) := by
    intro empty
    rw [List.isEmpty_iff_length_eq_zero, length, byteLen] at empty
    dsimp only at empty
    omega
  rw [Content.read, extractAt, decodeIfPresent,
    if_neg (by simp [isOptional, NumberDop.diagCodedType]), decoded]
  change (if _ then _ else _) >>= _ = _
  rw [if_neg given]
  rfl

theorem lengthKeyByteCount_insert (name : Text) (stored : MappedPayload conv) {read : List UInt8}
    (given : 1 ≤ read.length) (count : Nat) :
    lengthKeyByteCount key.shortName name
        (stored.insert key.shortName (.raw (key.dop.container read))) = .ok count ↔
      read.length ≤ 4 ∧ count = value read := by
  have found : (stored.insert key.shortName (.raw (key.dop.container read))) key.shortName =
      some (.raw (key.dop.container read)) := Function.update_self ..
  rw [lengthKeyByteCount, found]
  dsimp only
  by_cases narrow : read.length ≤ 4
  · rw [NumberDop.serializable_container given narrow]
    constructor
    · intro counted
      cases counted
      exact ⟨narrow, rfl⟩
    · intro counted
      rw [counted.2]
      rfl
  · have refused : ∃ error, (key.dop.container read).serializable = .error error := by
      have notEmpty : read.isEmpty = false := by
        rw [List.isEmpty_eq_false_iff_exists_mem]
        exact List.exists_mem_of_length_pos given
      refine ⟨.parameterConversionError s!"Invalid data length for I32: {read.length}", ?_⟩
      simp only [RawContainer.serializable, NumberDop.container, udsDataToSerializable, notEmpty,
        Option.filter_some, key.dop.identical, DiagDataValue.new]
      simpa using Nat.lt_of_not_le narrow
    obtain ⟨error, refused⟩ := refused
    rw [refused]
    constructor
    · intro counted
      cases counted
    · intro counted
      exact absurd counted.1 narrow

theorem exists_read_keyed_iff {stored : MappedPayload conv} {count : Nat} {bytes : List UInt8}
    (counted : lengthKeyByteCount key.shortName data.shortName stored = .ok count)
    (inside : data.bytePos + bytes.length ≤ uds.length) :
    (∃ raw next, (Content.keyed data.baseDatatype data.compuMethod key.shortName
        data.shortName).read uds stored data.bytePos data.bit = .ok (.raw raw, next) ∧
      raw.data = bytes) ↔
      count = bytes.length ∧ (uds.drop data.bytePos).take bytes.length = bytes := by
  simp only [Content.read, counted]
  change (∃ raw next, (if count = 0 then _ else _) = _ ∧ _) ↔ _
  by_cases zero : count = 0
  · rw [if_pos zero]
    constructor
    · intro read
      obtain ⟨raw, next, read, rfl⟩ := read
      cases read
      exact ⟨zero, rfl⟩
    · intro same
      have empty : bytes = [] := List.eq_nil_of_length_eq_zero (same.1.symm.trans zero)
      exact ⟨_, _, rfl, empty.symm⟩
  · rw [if_neg zero, decodeWithRuntimeByteLength, if_neg zero]
    dsimp only
    by_cases short : uds.length < data.bytePos + count
    · rw [if_pos short]
      constructor
      · intro read
        obtain ⟨raw, next, read, _⟩ := read
        cases read
      · intro same
        omega
    · rw [if_neg short, slice?_of_le (Nat.le_add_right _ _) (Nat.le_of_not_lt short),
        Nat.add_sub_cancel_left]
      constructor
      · intro read
        obtain ⟨raw, next, read, rfl⟩ := read
        cases read
        have length : ((uds.drop data.bytePos).take count).length = count := by
          rw [List.length_take, List.length_drop]
          omega
        refine ⟨length.symm, ?_⟩
        dsimp only [Option.getD_some]
        rw [length]
      · intro same
        obtain ⟨rfl, same⟩ := same
        exact ⟨_, _, rfl, same⟩

/-- The key must hold the number of bytes, and the bytes must lie in the payload as they are. -/
theorem readsBack_iff {bytes : List UInt8} (valid : 1 ≤ key.dop.bitLength ∧ key.dop.bitLength ≤ 64)
    (enough : key.bytePos + byteLen key.dop.bitLength ≤ uds.length)
    (inside : data.bytePos + bytes.length ≤ uds.length) :
    ReadsBack service (depth + 1) key data uds bytes ↔
      (key.dop.bitLength ≤ 32 ∧ key.bit + key.dop.bitLength ≤ 8 * byteLen key.dop.bitLength ∧
        ∀ i, bytes.length.testBit i = (decide (i < key.dop.bitLength) && holds uds (key.cell i))) ∧
      ∀ byte offset, byte < bytes.length → offset < 8 →
        holds bytes (byte, offset) = holds uds (data.bytePos + byte, offset) := by
  have same : (uds.drop data.bytePos).take bytes.length = bytes ↔
      ∀ byte offset, byte < bytes.length → offset < 8 →
        holds bytes (byte, offset) = holds uds (data.bytePos + byte, offset) := by
    have taken (byte offset : Nat) (inData : byte < bytes.length) :
        holds ((uds.drop data.bytePos).take bytes.length) (byte, offset) =
          holds uds (data.bytePos + byte, offset) := by
      rw [holds_take inData, holds_drop]
    constructor
    · intro equal byte offset inData _
      rw [← taken byte offset inData, equal]
    · intro equal
      have length : ((uds.drop data.bytePos).take bytes.length).length = bytes.length := by
        rw [List.length_take, List.length_drop]
        omega
      apply eq_of_holds_eq length
      intro byte offset inData inByte
      rw [length] at inData
      rw [taken byte offset inData, equal byte offset inData inByte]
  rw [← same]
  by_cases fits : key.bit + key.dop.bitLength ≤ 8 * byteLen key.dop.bitLength
  · obtain ⟨read, next, isRead, length, bits⟩ :=
      exists_read_lengthKey key MappedPayload.empty valid fits enough
    have given : 1 ≤ read.length := by
      rw [length, byteLen]
      omega
    have narrow : read.length ≤ 4 ↔ key.dop.bitLength ≤ 32 := by
      rw [length, byteLen]
      omega
    have counts : value read = bytes.length ↔ ∀ i, bytes.length.testBit i =
        (decide (i < key.dop.bitLength) && holds uds (key.cell i)) := by
      constructor
      · intro equal i
        rw [← equal, bits]
      · intro equal
        apply Nat.eq_of_testBit_eq
        intro i
        rw [bits, equal]
    rw [← counts, ← narrow]
    let middle : DecodeState conv := (DecodeState.new uds : DecodeState conv).store key.shortName
      (.raw (key.dop.container read)) next
    have keyRan : mapParamFromUds service (depth + 1) key.shortName (.new key.parameter 0)
        (.new uds) = .ok () middle :=
      (stores_lengthKey service depth key _).2 ⟨_, _, isRead, rfl⟩
    have fresh : (DecodeState.new uds : DecodeState conv).payload.Shows uds := shows_new uds
    have shows : middle.payload.Shows uds := by
      cases next with
      | none => exact fresh
      | some stop => exact fresh.setLastReadBytePos stop
    rw [ReadsBack, readKeyed, bind_of_ok keyRan]
    constructor
    · intro back
      obtain ⟨final, raw, ran, stored, same⟩ := back
      obtain ⟨container, dataNext, dataRead, rfl⟩ :=
        (stores_keyedData service depth key data shows _).1 ran
      obtain rfl : container = .raw raw :=
        Option.some.inj ((DecodeState.store_data _ _ _ _).symm.trans stored)
      have counted := dataRead
      rw [Content.read, except_bind_eq_ok_iff] at counted
      obtain ⟨count, counted, _⟩ := counted
      obtain ⟨short, rfl⟩ := (lengthKeyByteCount_insert key _ _ given count).1 counted
      obtain ⟨equal, taken⟩ := (exists_read_keyed_iff key data counted inside).1
        ⟨raw, dataNext, dataRead, same⟩
      exact ⟨⟨short, fits, equal⟩, taken⟩
    · intro reads
      obtain ⟨⟨short, _, equal⟩, taken⟩ := reads
      have counted := (lengthKeyByteCount_insert key data.shortName MappedPayload.empty given
        (value read)).2 ⟨short, rfl⟩
      obtain ⟨raw, dataNext, dataRead, same⟩ :=
        (exists_read_keyed_iff key data counted inside).2 ⟨equal, taken⟩
      exact ⟨_, raw, (stores_keyedData service depth key data shows _).2 ⟨_, _, dataRead, rfl⟩,
        DecodeState.store_data _ _ _ _, same⟩
  · constructor
    · intro back
      obtain ⟨final, raw, ran, _⟩ := back
      rw [readKeyed, bind_eq_ok_iff] at ran
      obtain ⟨_, _, keyRan, _⟩ := ran
      obtain ⟨container, next, read, _⟩ := (stores_lengthKey service depth key _).1 keyRan
      exact absurd read (not_read_of_misfit key (Nat.lt_of_not_le fits) _)
    · intro reads
      exact absurd reads.1.2.1 fits

end Decoding

/-- The cells that the decoder reads, where there are so many bytes of data. -/
def IsRead (key : LengthKey conv) (data : KeyedData conv) (length : Nat) (cell : Cell) : Prop :=
  (∃ i < key.dop.bitLength, cell = key.cell i) ∨
    (data.bytePos ≤ cell.1 ∧ cell.1 < data.bytePos + length)

def encodeConstant (param : Parameter conv) (uds : List UInt8) :
    Except DiagServiceError (List UInt8) :=
  match param.specificData with
  | .codedConst codedConst => encodeCodedConst param codedConst uds
  | _ => .ok uds

structure Parameter.KeepsApart (param : Parameter conv) (strict : Bool) (depth : Nat)
    (values : ParameterMap) (cells : Cell → Prop) : Prop where
  constant : LeavesAlone cells (encodeConstant param)
  value : LeavesAlone cells fun uds => processParameter strict depth values uds param

/-- The key's field has room for the number of bytes and holds it, and the data lie in the
payload as they are. -/
structure Agrees (key : LengthKey conv) (data : KeyedData conv) (number : Nat)
    (bytes : List UInt8) : Prop where
  narrow : key.dop.bitLength ≤ 32
  fits : key.bit + key.dop.bitLength ≤ 8 * byteLen key.dop.bitLength
  counts : ∀ i, bytes.length.testBit i = (decide (i < key.dop.bitLength) &&
    ((DiagCodedType.writtenNumber key.dop.bitLength number).testBit i ||
      holdsAt data.bytePos (data.wire key bytes) (key.cell i)))
  keeps : ∀ byte offset, byte < bytes.length → offset < 8 →
    holds bytes (byte, offset) = (holds (data.wire key bytes) (byte, offset) ||
      holdsAt key.bytePos (key.wire number) (data.bytePos + byte, offset))

section Requests

variable {key : LengthKey conv} {data : KeyedData conv} {number : Nat} {bytes uds : List UInt8}

theorem LengthKey.length_wire (key : LengthKey conv) (number : Nat) :
    (key.wire number).length = byteLen (key.bit + key.dop.bitLength) :=
  length_laidBytes _ _ _ _

theorem KeyedData.length_le_wire (data : KeyedData conv) (key : LengthKey conv)
    (bytes : List UInt8) : bytes.length ≤ (data.wire key bytes).length := by
  rw [wire, DiagCodedType.runtimeBytes]
  split
  · rename_i empty
    rw [empty]
  · rw [length_laidBytes, byteLen]
    omega

theorem LengthKey.holdsAt_wire (key : LengthKey conv) (number : Nat) {i : Nat}
    (inside : i < key.dop.bitLength) :
    holdsAt key.bytePos (key.wire number) (key.cell i) =
      (DiagCodedType.writtenNumber key.dop.bitLength number).testBit i :=
  DiagCodedType.holdsAt_laidBytes_cell (DiagCodedType.byteOrder_numeric (.inr rfl)) inside _

/-- In bytes of their own, the key must have the number of bytes and the byte order must leave
the data as they are. -/
theorem agrees_iff_of_apart
    (apart : key.bytePos + byteLen (key.bit + key.dop.bitLength) ≤ data.bytePos ∨
      data.bytePos + (data.wire key bytes).length ≤ key.bytePos) :
    Agrees key data number bytes ↔
      key.dop.bitLength ≤ 32 ∧ key.bit + key.dop.bitLength ≤ 8 * byteLen key.dop.bitLength ∧
        bytes.length =
          DiagCodedType.writtenNumber key.dop.bitLength number % 2 ^ key.dop.bitLength ∧
        (data.wire key bytes).take bytes.length = bytes := by
  have keyApart (i : Nat) (inside : i < key.dop.bitLength) :
      holdsAt data.bytePos (data.wire key bytes) (key.cell i) = false := by
    have bounds : key.bytePos ≤ (key.cell i).1 ∧
        (key.cell i).1 < key.bytePos + byteLen (key.bit + key.dop.bitLength) :=
      @Place.cell_bounds (key.dop.place key.bytePos key.bit) i inside
    apply holdsAt_of_outside
    omega
  have dataApart (byte offset : Nat) (inData : byte < bytes.length) :
      holdsAt key.bytePos (key.wire number) (data.bytePos + byte, offset) = false := by
    have longer := data.length_le_wire key bytes
    apply holdsAt_of_outside
    rw [key.length_wire]
    dsimp only
    omega
  constructor
  · intro agrees
    refine ⟨agrees.narrow, agrees.fits, ?_, ?_⟩
    · apply Nat.eq_of_testBit_eq
      intro i
      rw [agrees.counts, Nat.testBit_mod_two_pow]
      by_cases inside : i < key.dop.bitLength
      · rw [keyApart i inside, Bool.or_false]
      · rw [decide_eq_false inside, Bool.false_and, Bool.false_and]
    · have length : ((data.wire key bytes).take bytes.length).length = bytes.length := by
        rw [List.length_take, Nat.min_eq_left (data.length_le_wire key bytes)]
      apply eq_of_holds_eq length
      intro byte offset inData inByte
      rw [length] at inData
      rw [holds_take inData, agrees.keeps byte offset inData inByte, dataApart byte offset inData,
        Bool.or_false]
  · intro agrees
    obtain ⟨narrow, fits, counts, taken⟩ := agrees
    refine ⟨narrow, fits, ?_, ?_⟩
    · intro i
      rw [counts, Nat.testBit_mod_two_pow]
      by_cases inside : i < key.dop.bitLength
      · rw [keyApart i inside, Bool.or_false]
      · rw [decide_eq_false inside, Bool.false_and, Bool.false_and]
    · intro byte offset inData inByte
      have found := @holds_take (data.wire key bytes) bytes.length (byte, offset) inData
      rw [taken] at found
      rw [found, dataApart byte offset inData, Bool.or_false]

theorem keepsApart_of_codedConst {param : Parameter conv} {codedConst : CodedConst}
    {diagType : DiagCodedType} {slt : StandardLengthType}
    (kind : param.paramType = .ok .codedConst) (specific : param.specificData = .codedConst codedConst)
    (typed : codedConst.diagCodedType = some (.ok diagType))
    (standard : diagType.type_ = .standardLength slt) (unmasked : slt.bitMask = none)
    (numeric : diagType.baseDatatype = .int32 ∨ diagType.baseDatatype = .uint32)
    {cells : Cell → Prop} (apart : ∀ cell, cells cell → cell.1 < param.bytePosition ∨
      param.bytePosition + byteLen (param.bitPosition + slt.bitLength) ≤ cell.1)
    (strict : Bool) (depth : Nat) (values : ParameterMap) :
    param.KeepsApart strict depth values cells := by
  constructor
  · intro before after ran
    rw [encodeConstant, specific] at ran
    simp only [encodeCodedConst, typed] at ran
    split at ran
    · cases ran
    · simp only [except_bind_eq_ok_iff] at ran
      obtain ⟨_, _, data, _, encoded⟩ := ran
      obtain ⟨_, _, length, added⟩ :=
        DiagCodedType.lays_of_encode_standard standard unmasked numeric encoded
      refine ⟨by omega, ?_⟩
      intro cell isCell
      rw [added, holdsAt_of_outside (by rw [length_laidBytes]; exact apart cell isCell),
        Bool.or_false]
  · intro before after ran
    dsimp only [processParameter] at ran
    cases named : param.shortName with
    | none =>
      rw [named] at ran
      cases ran
    | some shortName =>
      rw [named] at ran
      cases depth with
      | zero => cases ran
      | succ depth =>
        dsimp only at ran
        rw [mapParamToUds, mapParamKindToUds, kind] at ran
        obtain rfl := Except.ok.inj ran
        constructor
        · exact Nat.le_trans (Nat.le_add_right _ _) (Nat.le_of_eq (List.length_append).symm)
        · exact fun cell _ => DiagCodedType.holds_extendTo before _ cell

theorem exists_step_of_foldlM {α : Type}
    {step : List UInt8 → α → Except DiagServiceError (List UInt8)} {items : List α} {item : α}
    (isItem : item ∈ items) {before after : List UInt8}
    (ran : items.foldlM step before = .ok after) :
    ∃ before after, step before item = .ok after := by
  induction items generalizing before with
  | nil => cases isItem
  | cons head tail ih =>
    rw [List.foldlM_cons, except_bind_eq_ok_iff] at ran
    obtain ⟨middle, first, rest⟩ := ran
    obtain rfl | inTail := List.mem_cons.1 isItem
    · exact ⟨before, middle, first⟩
    · exact ih inTail rest

variable {strict : Bool} {depth : Nat} {values : ParameterMap}
  {params others : List (Parameter conv)}
  (layout : params.Perm (key.parameter :: data.parameter key :: others))
  (apart : ∀ other ∈ others, other.KeepsApart strict depth values (IsRead key data bytes.length))
  (numbered : key.number values = .ok number) (given : data.bytes key values = .ok bytes)
  (created : createUdsPayload strict depth params (some (.parameterMap values)) = .ok uds)

include layout apart numbered given created

theorem laid_of_created : (1 ≤ key.dop.bitLength ∧ key.dop.bitLength ≤ 64) ∧
      key.bytePos + (key.wire number).length ≤ uds.length ∧
      data.bytePos + (data.wire key bytes).length ≤ uds.length ∧
      ∀ cell, IsRead key data bytes.length cell →
        holds uds cell = (holdsAt key.bytePos (key.wire number) cell ||
          holdsAt data.bytePos (data.wire key bytes) cell) := by
  have sorted := (List.perm_insertionSort (fun a b => a.positionLe b) params).trans layout
  rw [createUdsPayload, except_bind_eq_ok_iff] at created
  obtain ⟨constants, constantsRan, created⟩ := created
  change processParameterMap strict depth _ values constants = .ok uds at created
  rw [processParameterMap, except_bind_eq_ok_iff] at created
  obtain ⟨_, _, valuesRan⟩ := created
  have alone : LeavesAlone (IsRead key data bytes.length) (.ok : List UInt8 → _) := leavesAlone_ok
  have keyLays : LaysIn (IsRead key data bytes.length) (key.bytePos, key.wire number)
      fun uds => processParameter strict depth values uds key.parameter :=
    laysIn_of_lays fun before after ran => (lays_lengthKey numbered ran).2.2
  have dataLays : LaysIn (IsRead key data bytes.length) (data.bytePos, data.wire key bytes)
      fun uds => processParameter strict depth values uds (data.parameter key) :=
    laysIn_of_lays fun before after ran => lays_keyedData given ran
  obtain ⟨_, _, constantCells⟩ := @foldlM_laysIn_two _ _ (fun uds param => encodeConstant param uds)
    _ _ _ _ _ _ sorted alone.laysIn alone.laysIn
    (fun other isOther => (apart other isOther).constant) _ _ constantsRan
  obtain ⟨keyInside, dataInside, valueCells⟩ := foldlM_laysIn_two sorted keyLays dataLays
    (fun other isOther => (apart other isOther).value) valuesRan
  have isKey : key.parameter ∈ params.insertionSort fun a b => a.positionLe b :=
    sorted.mem_iff.2 List.mem_cons_self
  obtain ⟨_, _, keyRan⟩ := exists_step_of_foldlM isKey valuesRan
  refine ⟨(lays_lengthKey numbered keyRan).1, keyInside, dataInside, ?_⟩
  intro cell isRead
  have unset : holds [] cell = false := holds_of_length_le (Nat.zero_le _)
  rw [valueCells cell isRead, constantCells cell isRead, unset, holdsAt_nil, Bool.or_false,
    Bool.false_or, Bool.false_or]

/-- The decoder returns the data exactly where the number that the caller gave for the key
agrees with them. -/
theorem keyedData_readsBack_iff (service : DiagService conv) (decodeDepth : Nat) :
    ReadsBack service (decodeDepth + 1) key data uds bytes ↔ Agrees key data number bytes := by
  obtain ⟨valid, keyInside, dataInside, cells⟩ :=
    laid_of_created layout apart numbered given created
  have enough : key.bytePos + byteLen key.dop.bitLength ≤ uds.length := by
    rw [key.length_wire] at keyInside
    simp only [byteLen] at keyInside ⊢
    omega
  have longer := data.length_le_wire key bytes
  have keyCells (i : Nat) : (decide (i < key.dop.bitLength) && holds uds (key.cell i)) =
      (decide (i < key.dop.bitLength) &&
        ((DiagCodedType.writtenNumber key.dop.bitLength number).testBit i ||
          holdsAt data.bytePos (data.wire key bytes) (key.cell i))) := by
    by_cases inside : i < key.dop.bitLength
    · rw [cells _ (.inl ⟨i, inside, rfl⟩), key.holdsAt_wire number inside]
    · rw [decide_eq_false inside, Bool.false_and, Bool.false_and]
  have dataCells (byte offset : Nat) (inData : byte < bytes.length) :
      holds uds (data.bytePos + byte, offset) = (holds (data.wire key bytes) (byte, offset) ||
        holdsAt key.bytePos (key.wire number) (data.bytePos + byte, offset)) := by
    rw [cells _ (.inr ⟨Nat.le_add_right _ _, Nat.add_lt_add_left inData _⟩), holdsAt_add,
      Bool.or_comm]
  rw [readsBack_iff service decodeDepth key data valid enough (by omega)]
  constructor
  · intro reads
    obtain ⟨⟨narrow, fits, counts⟩, keeps⟩ := reads
    refine ⟨narrow, fits, ?_, ?_⟩
    · intro i
      rw [counts, keyCells]
    · intro byte offset inData inByte
      rw [keeps byte offset inData inByte, dataCells byte offset inData]
  · intro agrees
    refine ⟨⟨agrees.narrow, agrees.fits, ?_⟩, ?_⟩
    · intro i
      rw [agrees.counts, keyCells]
    · intro byte offset inData inByte
      rw [agrees.keeps byte offset inData inByte, dataCells byte offset inData]

end Requests

namespace IntegerDatabase

def lengthByte : LengthKey integerConversions :=
  ⟨"length".toList, none, 1, none, ⟨8, false, true, none, (), integerConversions_identical⟩⟩

def record : KeyedData integerConversions :=
  ⟨"record".toList, none, 2, none, .byteField, true, none, none, none⟩

def serviceByte : Parameter integerConversions :=
  ⟨.ok .codedConst, some "service".toList, none, some 0, none,
    .codedConst ⟨some (.ok (number 8)), some "34".toList⟩⟩

def recordValues (length : Nat) (digits : String) : ParameterMap :=
  (AList.singleton "length".toList (.number (.posInt length))).insert "record".toList
    (.string digits.toList)

theorem serviceByte_keepsApart (strict : Bool) (depth : Nat) (values : ParameterMap) (length : Nat) :
    serviceByte.KeepsApart strict depth values (IsRead lengthByte record length) := by
  have typed : (⟨some (.ok (number 8)), some "34".toList⟩ : CodedConst).diagCodedType =
      some (.ok (number 8)) := rfl
  have standard : (number 8).type_ = .standardLength ⟨8, none, false⟩ := rfl
  apply keepsApart_of_codedConst rfl rfl typed standard rfl (.inr rfl)
  intro cell isRead
  right
  obtain ⟨i, inside, rfl⟩ | inData := isRead
  · exact (@Place.cell_bounds (lengthByte.dop.place 1 0) i inside).1
  · exact Nat.le_trans (by decide) inData.1

theorem record_comes_back :
    ReadsBack ⟨none⟩ 1 lengthByte record [34, 2, 0xAA, 0xBB] [0xAA, 0xBB] := by
  have layout : [serviceByte, lengthByte.parameter, record.parameter lengthByte].Perm
      [lengthByte.parameter, record.parameter lengthByte, serviceByte] :=
    @List.perm_append_comm _ [serviceByte] [lengthByte.parameter, record.parameter lengthByte]
  have numbered : lengthByte.number (recordValues 2 "AABB") = .ok 2 := by decide +kernel
  have given : record.bytes lengthByte (recordValues 2 "AABB") = .ok [0xAA, 0xBB] := by
    decide +kernel
  have created : createUdsPayload true 1
      [serviceByte, lengthByte.parameter, record.parameter lengthByte]
      (some (.parameterMap (recordValues 2 "AABB"))) = .ok [34, 2, 0xAA, 0xBB] := by
    decide +kernel
  apply (keyedData_readsBack_iff layout ?_ numbered given created ⟨none⟩ 0).2
  · apply (agrees_iff_of_apart (.inl (by decide))).2
    exact ⟨by decide, by decide, by decide, by decide⟩
  · intro other isOther
    obtain rfl := List.mem_singleton.1 isOther
    exact serviceByte_keepsApart _ _ _ _

def reversedNumber : KeyedData integerConversions :=
  ⟨"record".toList, none, 2, none, .uint32, false, none, none, none⟩

/-- The length that is given is not looked at, and the bytes of a number come back in the
order in which they lie in the payload. -/
theorem record_not_comes_back :
    (createUdsPayload true 1 [serviceByte, lengthByte.parameter, record.parameter lengthByte]
        (some (.parameterMap (recordValues 1 "AABB"))) = .ok [34, 1, 0xAA, 0xBB] ∧
      record.bytes lengthByte (recordValues 1 "AABB") = .ok [0xAA, 0xBB] ∧
      ¬ReadsBack ⟨none⟩ 1 lengthByte record [34, 1, 0xAA, 0xBB] [0xAA, 0xBB]) ∧
    (createUdsPayload true 1
        [serviceByte, lengthByte.parameter, reversedNumber.parameter lengthByte]
        (some (.parameterMap ((AList.singleton "length".toList (.number (.posInt 4))).insert
          "record".toList (.number (.posInt 1))))) = .ok [34, 4, 1, 0, 0, 0] ∧
      reversedNumber.bytes lengthByte ((AList.singleton "length".toList
        (.number (.posInt 4))).insert "record".toList (.number (.posInt 1))) = .ok [0, 0, 0, 1] ∧
      ¬ReadsBack ⟨none⟩ 1 lengthByte reversedNumber [34, 4, 1, 0, 0, 0] [0, 0, 0, 1]) := by
  refine ⟨⟨by decide +kernel, by decide +kernel, ?_⟩, by decide +kernel, by decide +kernel, ?_⟩
  · intro back
    have reads := (readsBack_iff ⟨none⟩ 0 lengthByte record (by decide) (by decide) (by decide)).1 back
    have odd := reads.1.2.2 0
    revert odd
    decide
  · intro back
    have reads := (readsBack_iff ⟨none⟩ 0 lengthByte reversedNumber (by decide) (by decide)
      (by decide)).1 back
    have first := reads.2 0 0 (by decide) (by decide)
    revert first
    decide

end IntegerDatabase

end DiagnosticAdapter.Kernel
