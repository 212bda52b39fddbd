import DiagnosticAdapter.Codec.WholeBytes
import DiagnosticAdapter.Kernel.ItemReading
import DiagnosticAdapter.Kernel.Locality

/-!
# The round trip of a MUX

The encoder selects the case by all bytes that it has written for the key, high byte first;
the decoder by the key, which it looks for at twice its position.
-/

namespace DiagnosticAdapter.Kernel

open Bits Codec Effects Decoder Function

variable {conv : Conversions}

/-- A switch key of whole bytes, and the case structures directly behind it. -/
structure MuxField (conv : Conversions) where
  keyPosition : Nat
  bitPosition : Option Nat
  key : NumberDop conv
  defaultCase : Option (DefaultCase conv)
  cases : Option (List (Case conv))
  aligned : bitPosition.getD 0 = 0
  whole : key.bitLength % 8 = 0

namespace MuxField

variable (field : MuxField conv)

def keyLength : Nat := field.key.bitLength / 8

def switchKey : SwitchKey conv :=
  ⟨field.keyPosition, field.bitPosition, some (.normal field.key.normalDop)⟩

def muxDop : MuxDop conv :=
  ⟨field.keyPosition + field.keyLength, some field.switchKey, field.defaultCase, field.cases⟩

/-- The selector of an object; without one it is zero. -/
def supplied (members : List (Text × JsonValue)) : Except DiagServiceError Nat :=
  field.key.number ((members.lookup selectorName).getD (.number (.posInt 0)))

def keyBytes (number : Nat) : List UInt8 :=
  normalizeByteOrder (toBeBytes field.keyLength number) field.key.diagCodedType.byteOrder

def selected (number : Nat) : Option (Text × Option (StructureDop conv)) :=
  ((muxCaseStructFromSelectorValue field.muxDop (.uint32 (value (field.keyBytes number)))).bind
    fun (case, caseStruct) => case.shortName.map fun name => (name, caseStruct)).or
      field.muxDop.defaultCaseToUds

section Encode

variable {field} {strict : Bool}
  {mapParam : Parameter conv → Option JsonValue → List UInt8 → Nat → Option ParameterMap →
    Except DiagServiceError (List UInt8)}
  {members : List (Text × JsonValue)} {before encoded : List UInt8}

def EncodesCase (strict : Bool)
    (mapParam : Parameter conv → Option JsonValue → List UInt8 → Nat → Option ParameterMap →
      Except DiagServiceError (List UInt8)) (members : List (Text × JsonValue)) (caseName : Text)
    (caseBytes : List UInt8) : Option (StructureDop conv) → Prop
  | none => caseBytes = []
  | some structDop => ∃ json, members.lookup caseName = some json ∧
      mapStructToUds strict mapParam structDop 0 json [] = .ok caseBytes

theorem EncodesCase.unique {caseName : Text} {first second : List UInt8}
    {struct : Option (StructureDop conv)}
    (firstEncodes : EncodesCase strict mapParam members caseName first struct)
    (secondEncodes : EncodesCase strict mapParam members caseName second struct) :
    first = second := by
  cases struct with
  | none => exact firstEncodes.trans secondEncodes.symm
  | some structDop =>
    obtain ⟨json, given, mapped⟩ := firstEncodes
    obtain ⟨json', given', mapped'⟩ := secondEncodes
    cases given.symm.trans given'
    exact Except.ok.inj (mapped.symm.trans mapped')

theorem value_keyBytes_padded (count number : Nat) :
    value (List.replicate count 0 ++ field.keyBytes number) = value (field.keyBytes number) := by
  rw [value_append, value_replicate_zero, Nat.mul_zero, Nat.zero_add]

@[simp]
theorem length_keyBytes (number : Nat) : (field.keyBytes number).length = field.keyLength := by
  rw [keyBytes, length_normalizeByteOrder, length_toBeBytes]

theorem bitLength_eq : field.key.bitLength = 8 * field.keyLength := by
  have whole := field.whole
  rw [keyLength]
  omega

theorem udsDataToSerializable_uint32 {compuMethod : Option conv.CompuMethod}
    (identical : compuMethod.filter (fun method => conv.category method ≠ .identical) = none)
    {data : List UInt8} (given : 1 ≤ data.length) {shown : DiagDataValue} :
    udsDataToSerializable conv .uint32 compuMethod data = .ok shown ↔
      data.length ≤ 4 ∧ shown = .uint32 (value data) := by
  have notEmpty : data.isEmpty = false := by
    rw [List.isEmpty_eq_false_iff_exists_mem]
    exact List.exists_mem_of_length_pos given
  rw [udsDataToSerializable, notEmpty, identical, if_neg Bool.false_ne_true]
  change DiagDataValue.new .uint32 data = .ok shown ↔ _
  by_cases narrow : data.length ≤ 4
  · simp only [DiagDataValue.new, if_neg (Nat.not_lt_of_le narrow), NumberDop.value_padMsbToLen,
      Except.ok.injEq, narrow, true_and, eq_comm]
  · simp only [DiagDataValue.new, if_pos (Nat.lt_of_not_le narrow), narrow, false_and,
      reduceCtorEq]

theorem muxSwitchKeyToUds_eq_ok {selector : JsonValue} {muxPayload : List UInt8}
    {selectedCase : Option (Text × Option (StructureDop conv))}
    (written : muxSwitchKeyToUds field.muxDop field.switchKey field.key.normalDop selector =
      .ok (muxPayload, selectedCase)) :
    ∃ number, field.key.number selector = .ok number ∧
      (1 ≤ field.key.bitLength ∧ field.key.bitLength ≤ 64) ∧
      field.keyPosition + field.keyLength ≤ 4 ∧
      muxPayload = List.replicate field.keyPosition 0 ++ field.keyBytes number ∧
      selectedCase = (muxCaseStructFromSelectorValue field.muxDop
        (.uint32 (value (field.keyBytes number)))).bind
          fun (case, caseStruct) => case.shortName.map fun name => (name, caseStruct) := by
  obtain ⟨diagType, same, rest⟩ := exists_of_except_bind written
  cases same
  obtain ⟨data, converted, rest⟩ := exists_of_except_bind rest
  obtain ⟨payload, encoded, rest⟩ := exists_of_except_bind rest
  obtain ⟨shown, serialized, rest⟩ := exists_of_except_bind rest
  have valid := NumberDop.valid_of_encode encoded
  have width := field.key.valid_iff.mp valid
  have bytes : field.key.diagCodedType.encode data [] field.keyPosition 0 =
      .ok (List.replicate field.keyPosition 0 ++ field.keyBytes (value data)) :=
    DiagCodedType.encode_wholeBytes rfl field.key.numeric rfl valid field.bitLength_eq data
      field.keyPosition
  simp only [switchKey, field.aligned] at encoded
  obtain rfl := Except.ok.inj (bytes.symm.trans encoded)
  have length : (List.replicate field.keyPosition 0 ++ field.keyBytes (value data)).length =
      field.keyPosition + field.keyLength := by simp
  have given : 1 ≤ field.keyPosition + field.keyLength := by
    have whole := field.bitLength_eq
    omega
  obtain ⟨narrow, rfl⟩ := (udsDataToSerializable_uint32 rfl (by rw [length]; exact given)).mp
    serialized
  rw [length] at narrow
  rw [value_keyBytes_padded] at rest
  cases rest
  exact ⟨value data, congrArg (Functor.map value) converted, width, narrow, rfl, rfl⟩

structure Encoded (field : MuxField conv) (strict : Bool)
    (mapParam : Parameter conv → Option JsonValue → List UInt8 → Nat → Option ParameterMap →
      Except DiagServiceError (List UInt8)) (members : List (Text × JsonValue))
    (encoded : List UInt8) (number : Nat) (caseName : Text) (struct : Option (StructureDop conv))
    (caseBytes : List UInt8) : Prop where
  supplied : field.supplied members = .ok number
  width : 1 ≤ field.key.bitLength ∧ field.key.bitLength ≤ 64
  narrow : field.keyPosition + field.keyLength ≤ 4
  selected : field.selected number = some (caseName, struct)
  encodesCase : EncodesCase strict mapParam members caseName caseBytes struct
  bytes : encoded = List.replicate field.keyPosition 0 ++ field.keyBytes number ++ caseBytes

theorem encoded_of_mapMuxToUds (mapped : mapMuxToUds strict mapParam field.muxDop
    (.object members) before = .ok (before ++ encoded)) :
    ∃ number caseName struct caseBytes,
      field.Encoded strict mapParam members encoded number caseName struct caseBytes := by
  obtain ⟨⟨muxPayload, selectedCase⟩, written, rest⟩ := exists_of_except_bind mapped
  obtain ⟨number, supplied, width, narrow, rfl, found⟩ := muxSwitchKeyToUds_eq_ok written
  have same : selectedCase.or field.muxDop.defaultCaseToUds = field.selected number := by
    rw [found, selected]
  dsimp only at rest
  rw [same] at rest
  cases selected : field.selected number with
  | none =>
    rw [selected] at rest
    cases rest
  | some found =>
    obtain ⟨caseName, struct⟩ := found
    rw [selected] at rest
    obtain ⟨expected, checked, rest⟩ := exists_of_except_bind rest
    cases struct with
    | none =>
      have bytes := List.append_cancel_left (Except.ok.inj rest).symm
      refine ⟨number, caseName, none, [], supplied, width, narrow, selected, rfl, ?_⟩
      rw [List.append_nil]
      exact bytes
    | some structDop =>
      cases given : members.lookup caseName with
      | none =>
        simp only [given] at rest
        cases rest
      | some json =>
        simp only [given] at rest
        obtain ⟨caseBytes, structMapped, rest⟩ := exists_of_except_bind rest
        have bytes := List.append_cancel_left (Except.ok.inj rest).symm
        refine ⟨number, caseName, some structDop, caseBytes, supplied, width, narrow,
          selected, ⟨json, given, structMapped⟩, bytes.trans ?_⟩
        rfl

end Encode

section Decode

variable {field} {service : DiagService conv} {depth : Nat} {shortName : Text}
  {data : MappedPayload conv} {rest : List UInt8}

/-- What the decoder reads as the key: it goes on from the key's position by that position. -/
def keyRead (field : MuxField conv) (rest : List UInt8) : List UInt8 :=
  normalizeByteOrder ((rest.drop field.keyPosition).take field.keyLength)
    field.key.diagCodedType.byteOrder

theorem length_keyRead (field : MuxField conv)
    (enough : field.keyPosition + field.keyLength ≤ rest.length) :
    (field.keyRead rest).length = field.keyLength := by
  rw [keyRead, length_normalizeByteOrder, List.length_take, List.length_drop]
  omega

theorem muxSelector_eq_ok (width : 1 ≤ field.key.bitLength ∧ field.key.bitLength ≤ 64)
    (narrow : field.keyLength ≤ 4) {shown : DiagDataValue} {raw : RawContainer conv} :
    muxSelector field.switchKey field.key.normalDop
        (List.replicate field.keyPosition 0 ++ rest) = .ok (shown, raw) ↔
      field.keyPosition + field.keyLength ≤ rest.length ∧
        shown = .uint32 (value (field.keyRead rest)) ∧
        raw = ⟨field.keyRead rest, field.key.bitLength, .uint32, none⟩ := by
  have dropped : dropChecked (List.replicate field.keyPosition 0 ++ rest) field.keyPosition =
      some rest := by
    rw [dropChecked, slice?_of_le (by simp) (Nat.le_refl _)]
    simp
  have unfolded : muxSelector field.switchKey field.key.normalDop
      (List.replicate field.keyPosition 0 ++ rest) =
        (field.key.diagCodedType.decode rest field.keyPosition 0 >>= fun read =>
          udsDataToSerializable conv .uint32 (some field.key.compuMethod) read.1 >>= fun shown =>
            .ok (shown, ⟨read.1, read.2, .uint32, none⟩)) := by
    simp only [muxSelector, NumberDop.normalDop, switchKey, dropped, field.aligned]
    rfl
  rw [unfolded]
  by_cases enough : field.keyPosition + field.keyLength ≤ rest.length
  · have decoded := @DiagCodedType.decode_wholeBytes field.key.diagCodedType _ field.keyLength rfl
      field.key.numeric rfl (field.key.valid_iff.mpr width) field.bitLength_eq rest
      field.keyPosition enough
    have whole := field.bitLength_eq
    have length := field.length_keyRead enough
    have serialized := @udsDataToSerializable_uint32 conv (some field.key.compuMethod)
      (by simp [field.key.identical]) (field.keyRead rest) (by omega)
      (.uint32 (value (field.keyRead rest)))
    rw [length] at serialized
    rw [decoded]
    change (udsDataToSerializable conv .uint32 (some field.key.compuMethod) (field.keyRead rest) >>=
      fun shown => Except.ok (shown, _)) = _ ↔ _
    rw [serialized.mpr ⟨narrow, rfl⟩]
    change Except.ok (_, _) = _ ↔ _
    simp only [Except.ok.injEq, Prod.mk.injEq, enough, true_and, eq_comm]
    rfl
  · have short := @DiagCodedType.decode_of_short field.key.diagCodedType _ rfl 0
      (DiagCodedType.validateBitPos_numeric field.key.numeric 0) (field.key.valid_iff.mpr width)
      width.1 rest field.keyPosition (by
        change rest.length < field.keyPosition + byteLen field.key.bitLength
        have whole := field.bitLength_eq
        rw [byteLen]
        omega)
    rw [short]
    simp only [enough, false_and, iff_false]
    intro impossible
    cases impossible

def behindKey (encoded : List UInt8) (skipped : Nat) (data : MappedPayload conv) :
    DecodeState conv := ⟨⟨encoded, 0, [], 0, skipped⟩, data, []⟩

def inCase (field : MuxField conv) (encoded : List UInt8) (skipped : Nat)
    (data : MappedPayload conv) : DecodeState conv :=
  ⟨⟨encoded, 0, [(field.muxDop.bytePosition, encoded.length)], 0, skipped⟩, data, []⟩

/-- The decoder of the case structure on the bytes of the structure alone. -/
def decodeCase (service : DiagService conv) (depth : Nat) (data : MappedPayload conv)
    (structDop : StructureDop conv) (skipped : Nat) (caseBytes : List UInt8) :
    EStateM.Result Failure (DecodeState conv) (MappedPayload conv) :=
  mapStructFromUds (mapParamFromUds service depth) structDop data (behindKey caseBytes skipped data)

section Case

variable {front caseBytes : List UInt8} {structDop : StructureDop conv} {skipped : Nat}
  {caseData : MappedPayload conv} {inner : DecodeState conv}

section

variable (behind : front.length = field.muxDop.bytePosition)
  (decoded : decodeCase service depth data structDop skipped caseBytes = .ok caseData inner)
  (noItems : .repeating ∉ inner.history)

include behind decoded noItems

theorem mapStructFromUds_inCase :
    ∃ outer, mapStructFromUds (mapParamFromUds service depth) structDop data
        (field.inCase (front ++ caseBytes) skipped data) = .ok caseData outer ∧
      outer.payload.slices ≠ [] := by
  have total : (front ++ caseBytes).length = field.muxDop.bytePosition + caseBytes.length := by
    rw [List.length_append, behind]
  have same : SameView (front ++ caseBytes) [] field.muxDop.bytePosition
      (front ++ caseBytes).length (field.inCase (front ++ caseBytes) skipped data)
      (behindKey caseBytes skipped data) := by
    refine ⟨⟨rfl, ?_, rfl, fun _ mem => absurd mem List.not_mem_nil, rfl, rfl, rfl⟩, rfl⟩
    simp [behindKey, total, ← behind]
  have scope : Scoped False (mapStructFromUds (mapParamFromUds service depth) structDop data) :=
    scoped_mapStructFromUds (scoped_mapParamFromUds False.elim False.elim depth) False.elim data
  obtain repeated | outcome := scope.agrees (by omega) (Nat.le_refl _) _ _ same
  · change Repeated (finalState (decodeCase service depth data structDop skipped caseBytes))
      at repeated
    rw [decoded] at repeated
    exact absurd repeated noItems
  · change SameOutcome _ _ (decodeCase service depth data structDop skipped caseBytes) at outcome
    rw [decoded] at outcome
    generalize mapStructFromUds (mapParamFromUds service depth) structDop data _ = result
      at outcome ⊢
    cases outcome with
    | ok value reached =>
      refine ⟨_, rfl, ?_⟩
      rw [reached.inside.slices]
      exact List.cons_ne_nil _ _

theorem mapMuxCaseFromUds_ok :
    ∃ final, mapMuxCaseFromUds (mapParamFromUds service depth) field.muxDop structDop
      (behindKey (front ++ caseBytes) skipped data) = .ok caseData final := by
  obtain ⟨outer, ran, nonempty⟩ := mapStructFromUds_inCase behind decoded noItems
  have inside : field.muxDop.bytePosition ≤ (front ++ caseBytes).length := by
    rw [List.length_append, behind]
    exact Nat.le_add_right _ _
  have pushed : (behindKey (front ++ caseBytes) skipped data).payload.pushSlice
      field.muxDop.bytePosition (front ++ caseBytes).length =
        .ok (field.inCase (front ++ caseBytes) skipped data).payload := by
    have length : (behindKey (front ++ caseBytes) skipped data).payload.len =
        (front ++ caseBytes).length := rfl
    rw [Payload.pushSlice, length, if_neg (by omega)]
    simp only [behindKey, inCase, Payload.pos, List.getLast?_nil, List.nil_append, Nat.zero_add,
      Nat.min_self]
  have positioned : (setLastReadBytePos 0 : Decoder conv Unit)
      (field.inCase (front ++ caseBytes) skipped data) =
        .ok () (field.inCase (front ++ caseBytes) skipped data) := by
    simp only [setLastReadBytePos, Payload.setLastReadBytePos, Nat.not_lt_zero, if_false]
    rfl
  have swallowed : swallow isNotEnoughData
      (mapStructFromUds (mapParamFromUds service depth) structDop data)
      (field.inCase (front ++ caseBytes) skipped data) = .ok (.ok caseData) outer := by
    rw [swallow, ran]
  refine ⟨_, (inView_of_ok pushed ?_).trans (popSlice_of_ne_nil nonempty)⟩
  exact (bind_of_ok positioned).trans (bind_of_ok swallowed)

end

end Case

def insertCase (field : MuxField conv)
    (mapParam : Text → ParamContext conv → Decoder conv Unit) (shortName : Text)
    (selector : RawContainer conv) (caseName : Text) : Option (StructureDop conv) → Decoder conv Unit
  | none => insertMapped shortName
      (.struct (MappedPayload.empty.insert selectorName (.raw selector)))
  | some structDop => do
    let caseData ← mapMuxCaseFromUds mapParam field.muxDop structDop
    insertMapped shortName (.struct ((MappedPayload.empty.insert selectorName
      (.raw selector)).insert caseName (.struct caseData)))

theorem mapMuxFromUds_eq (mapParam : Text → ParamContext conv → Decoder conv Unit) :
    mapMuxFromUds mapParam shortName field.muxDop = (view >>= fun bytes =>
        ofExcept (muxSelector field.switchKey field.key.normalDop bytes) >>= fun read =>
          setBytesToSkip read.2.data.length >>= fun _ =>
            ofExcept (muxCase field.muxDop read.1 shortName) >>= fun found =>
              field.insertCase mapParam shortName read.2 found.1 found.2) := rfl

theorem view_new (encoded : List UInt8) (data : MappedPayload conv) :
    (view : Decoder conv (List UInt8)) ⟨.new encoded, data, []⟩ =
      .ok encoded ⟨.new encoded, data, []⟩ := by
  have shown : (Payload.new encoded).view = .ok encoded := by
    simp [Payload.view, Payload.new, Payload.pos, slice?]
  simp only [view, shown]
  rfl

theorem ofExcept_eq_ok {α : Type} {outcome : Except DiagServiceError α} {value : α}
    {start final : DecodeState conv} (ran : ofExcept outcome start = .ok value final) :
    outcome = .ok value ∧ final = start := by
  cases outcome with
  | ok result =>
    cases ran
    exact ⟨rfl, rfl⟩
  | error error => cases ran

theorem insertCase_ok {mapParam : Text → ParamContext conv → Decoder conv Unit}
    {raw : RawContainer conv} {caseName : Text} {struct : Option (StructureDop conv)}
    {start final : DecodeState conv}
    (ran : field.insertCase mapParam shortName raw caseName struct start = .ok () final) :
    ∃ mux, final.data shortName = some (.struct mux) ∧
      ∀ other, mux selectorName = some (.raw other) → other = raw := by
  cases struct with
  | none =>
    cases ran
    refine ⟨_, update_self _ _ _, ?_⟩
    intro other key
    cases (update_self _ _ _).symm.trans key
    rfl
  | some structDop =>
    obtain ⟨caseData, behind, _, inserted⟩ := exists_of_bind_eq_ok ran
    cases inserted
    refine ⟨_, update_self _ _ _, ?_⟩
    intro other key
    by_cases same : selectorName = caseName
    · rw [same] at key
      cases (update_self _ _ _).symm.trans key
    · cases ((update_of_ne same _ _).trans (update_self _ _ _)).symm.trans key
      rfl

theorem mapMuxFromUds_of_selector {mapParam : Text → ParamContext conv → Decoder conv Unit}
    {encoded : List UInt8} {shown : DiagDataValue} {raw : RawContainer conv} {caseName : Text}
    {struct : Option (StructureDop conv)}
    (selector : muxSelector field.switchKey field.key.normalDop encoded = .ok (shown, raw))
    (found : muxCase field.muxDop shown shortName = .ok (caseName, struct)) :
    mapMuxFromUds mapParam shortName field.muxDop ⟨.new encoded, data, []⟩ =
      field.insertCase mapParam shortName raw caseName struct
        (behindKey encoded raw.data.length data) := by
  have skipped : (setBytesToSkip raw.data.length : Decoder conv Unit)
      ⟨.new encoded, data, []⟩ = .ok () (behindKey encoded raw.data.length data) := by
    simp only [setBytesToSkip, Payload.setBytesToSkip, Payload.new, Nat.zero_add]
    rfl
  rw [mapMuxFromUds_eq, bind_of_ok (view_new encoded data), selector]
  refine Eq.trans (bind_of_ok rfl) ((bind_of_ok skipped).trans ?_)
  rw [found]
  rfl

end Decode

section RoundTrip

variable {field} {strict : Bool} {encodeDepth : Nat} {service : DiagService conv} {depth : Nat}
  {shortName : Text} {data : MappedPayload conv} {members : List (Text × JsonValue)}
  {encoded : List UInt8}

/-- The decoder returns the selector and the case that the encoder has selected, with data
that are the `same` as those of the object. -/
def ComesBack (field : MuxField conv) (same : StructureDop conv → JsonValue → MappedPayload conv → Prop)
    (service : DiagService conv) (depth : Nat) (shortName : Text) (data : MappedPayload conv)
    (members : List (Text × JsonValue)) (encoded : List UInt8) : Prop :=
  ∃ number caseName struct final mux raw,
    field.supplied members = .ok number ∧ field.selected number = some (caseName, struct) ∧
    muxCase field.muxDop (.uint32 number) shortName = .ok (caseName, struct) ∧
    mapMuxFromUds (mapParamFromUds service depth) shortName field.muxDop
      ⟨.new encoded, data, []⟩ = .ok () final ∧
    final.data shortName = some (.struct mux) ∧ mux selectorName = some (.raw raw) ∧
    raw.serializable = .ok (.uint32 number) ∧
    ∀ structDop ∈ struct, ∃ json caseData, members.lookup caseName = some json ∧
      mux caseName = some (.struct caseData) ∧ same structDop json caseData

/-- Whether the bytes at twice the key's position are those of the key. -/
def ReadsKey (field : MuxField conv) (number : Nat) (caseBytes : List UInt8) : Prop :=
  ((field.keyBytes number ++ caseBytes).drop field.keyPosition).take field.keyLength =
    field.keyBytes number

/-- The condition under which an object comes back. -/
def Regular (field : MuxField conv) (strict : Bool) (encodeDepth : Nat) (shortName : Text)
    (members : List (Text × JsonValue)) : Prop :=
  ∀ number caseName struct caseBytes, field.supplied members = .ok number →
    field.selected number = some (caseName, struct) →
    EncodesCase strict (mapParamToUds strict encodeDepth) members caseName caseBytes struct →
    number < 2 ^ field.key.bitLength ∧ field.ReadsKey number caseBytes ∧
      muxCase field.muxDop (.uint32 number) shortName = .ok (caseName, struct)

theorem readsKey_of_front (front : field.keyPosition = 0) (number : Nat) (caseBytes : List UInt8) :
    field.ReadsKey number caseBytes := by
  rw [ReadsKey, front, List.drop_zero, List.take_append_of_le_length (by simp),
    List.take_of_length_le (by simp)]

/-- The structure of the case the object selects comes back on its own, and no items of an
end-of-PDU field are come to. -/
def CaseComesBack (field : MuxField conv)
    (same : StructureDop conv → JsonValue → MappedPayload conv → Prop) (strict : Bool)
    (encodeDepth : Nat) (service : DiagService conv) (depth : Nat) (data : MappedPayload conv)
    (members : List (Text × JsonValue)) : Prop :=
  ∀ number caseName structDop json caseBytes, field.supplied members = .ok number →
    field.selected number = some (caseName, some structDop) →
    members.lookup caseName = some json →
    mapStructToUds strict (mapParamToUds strict encodeDepth) structDop 0 json [] = .ok caseBytes →
    ∃ caseData final, decodeCase service depth data structDop field.keyLength caseBytes =
        .ok caseData final ∧ .repeating ∉ final.history ∧ same structDop json caseData

variable {number : Nat}

theorem asObject_of_supplied {json : JsonValue}
    (supplied : field.key.number json = .ok number) : json.asObject = none := by
  cases json with
  | object members =>
    have converted : jsonValueToUdsData conv field.key.diagCodedType (some field.key.compuMethod)
        field.key.physicalType (.object members) =
          numericJsonValueToByteVector conv (.object members) field.key.diagCodedType
            field.key.physicalType := by
      simp only [jsonValueToUdsData, Option.filter_some, field.key.identical]
      rfl
    rw [NumberDop.number, converted] at supplied
    cases physicalType : field.key.physicalType <;> rw [physicalType] at supplied <;>
      cases supplied
  | null | bool value | number number | string text | array items => rfl

variable {caseName : Text}

theorem caseName_ne_selectorName {structDop : StructureDop conv}
    {caseBytes : List UInt8} (supplied : field.supplied members = .ok number)
    (encodes : EncodesCase strict (mapParamToUds strict encodeDepth) members caseName caseBytes
      (some structDop)) : caseName ≠ selectorName := by
  rintro rfl
  obtain ⟨json, given, mapped⟩ := encodes
  rw [MuxField.supplied, given, Option.getD_some] at supplied
  rw [mapStructToUds, asObject_of_supplied supplied] at mapped
  cases mapped

theorem value_keyRead {rest : List UInt8} (enough : field.keyPosition + field.keyLength ≤ rest.length)
    : value (field.keyRead rest) = number ↔ number < 2 ^ field.key.bitLength ∧
      (rest.drop field.keyPosition).take field.keyLength = field.keyBytes number := by
  have length := field.length_keyRead enough
  constructor
  · rintro rfl
    refine ⟨?_, ?_⟩
    · rw [field.bitLength_eq, ← length]
      exact value_lt _
    · have bytes : toBeBytes field.keyLength (value (field.keyRead rest)) = field.keyRead rest := by
        apply eq_of_value_eq
        · rw [length_toBeBytes, length]
        · rw [value_toBeBytes, ← length, Nat.mod_eq_of_lt (value_lt _)]
      rw [keyBytes, bytes, keyRead, normalizeByteOrder_normalizeByteOrder]
  · rintro ⟨small, same⟩
    rw [keyRead, same, keyBytes, normalizeByteOrder_normalizeByteOrder, value_toBeBytes,
      ← field.bitLength_eq, Nat.mod_eq_of_lt small]

variable {same : StructureDop conv → JsonValue → MappedPayload conv → Prop}

theorem comesBack_of_written {struct : Option (StructureDop conv)} {caseBytes : List UInt8}
    (written : field.Encoded strict (mapParamToUds strict encodeDepth) members encoded number
      caseName struct caseBytes)
    (caseComesBack : field.CaseComesBack same strict encodeDepth service depth data members)
    (regular : field.Regular strict encodeDepth shortName members) :
    field.ComesBack same service depth shortName data members encoded := by
  obtain ⟨small, readsKey, sameCase⟩ :=
    regular number caseName struct caseBytes written.supplied written.selected written.encodesCase
  have whole := field.bitLength_eq
  have width := written.width
  have narrow : field.keyLength ≤ 4 := by
    have narrow := written.narrow
    omega
  have enough : field.keyPosition + field.keyLength ≤ (field.keyBytes number ++ caseBytes).length := by
    have length := congrArg List.length readsKey
    rw [List.length_take, List.length_drop, length_keyBytes] at length
    omega
  have read : value (field.keyRead (field.keyBytes number ++ caseBytes)) = number :=
    (value_keyRead enough).mpr ⟨small, readsKey⟩
  have selector := (@muxSelector_eq_ok conv field (field.keyBytes number ++ caseBytes) width narrow
    _ _).mpr ⟨enough, rfl, rfl⟩
  rw [← List.append_assoc, ← written.bytes, read] at selector
  have length := field.length_keyRead enough
  have ran := @mapMuxFromUds_of_selector conv field shortName data
    (mapParamFromUds service depth) encoded _ _ caseName struct selector sameCase
  rw [length] at ran
  have serializable : (⟨field.keyRead (field.keyBytes number ++ caseBytes), field.key.bitLength,
      .uint32, none⟩ : RawContainer conv).serializable = .ok (.uint32 number) := by
    have serialized := @udsDataToSerializable_uint32 conv none rfl
      (field.keyRead (field.keyBytes number ++ caseBytes)) (by omega) (.uint32 number)
    rw [read] at serialized
    exact serialized.mpr ⟨by omega, rfl⟩
  cases struct with
  | none =>
    refine ⟨number, caseName, none, _, _, _, written.supplied, written.selected, sameCase, ran,
      update_self _ _ _, update_self _ _ _, serializable, ?_⟩
    intro structDop mem
    cases mem
  | some structDop =>
    have distinct := caseName_ne_selectorName written.supplied written.encodesCase
    obtain ⟨json, given, mapped⟩ := written.encodesCase
    obtain ⟨caseData, inner, decoded, noItems, caseSame⟩ := caseComesBack number caseName
      structDop json caseBytes written.supplied written.selected given mapped
    have behind : (List.replicate field.keyPosition 0 ++ field.keyBytes number).length =
        field.muxDop.bytePosition := by simp [muxDop]
    obtain ⟨outer, inserted⟩ := mapMuxCaseFromUds_ok behind decoded noItems
    rw [← written.bytes] at inserted
    refine ⟨number, caseName, some structDop, _, _, _, written.supplied, written.selected,
      sameCase, ran.trans (bind_of_ok inserted), update_self _ _ _,
      (update_of_ne distinct.symm _ _).trans (update_self _ _ _),
      serializable, ?_⟩
    intro other mem
    cases mem
    exact ⟨json, caseData, given, update_self _ _ _, caseSame⟩

theorem regular_of_comesBack {struct : Option (StructureDop conv)} {caseBytes : List UInt8}
    (written : field.Encoded strict (mapParamToUds strict encodeDepth) members encoded number
      caseName struct caseBytes)
    (comesBack : field.ComesBack same service depth shortName data members encoded) :
    field.Regular strict encodeDepth shortName members := by
  obtain ⟨number', caseName', struct', final, mux, raw, supplied, selected, sameCase, ran, stored,
    key, serializable, _⟩ := comesBack
  cases written.supplied.symm.trans supplied
  cases written.selected.symm.trans selected
  rw [mapMuxFromUds_eq, bind_of_ok (view_new encoded data)] at ran
  obtain ⟨⟨shown, selector⟩, _, read, ran⟩ := exists_of_bind_eq_ok ran
  obtain ⟨selects, rfl⟩ := ofExcept_eq_ok read
  obtain ⟨_, _, _, ran⟩ := exists_of_bind_eq_ok ran
  obtain ⟨_, _, _, ran⟩ := exists_of_bind_eq_ok ran
  obtain ⟨_, stored', onlyKey⟩ := insertCase_ok ran
  cases stored.symm.trans stored'
  obtain rfl := onlyKey raw key
  have whole := field.bitLength_eq
  have width := written.width
  have narrow := written.narrow
  rw [written.bytes, List.append_assoc, muxSelector_eq_ok width (by omega)] at selects
  obtain ⟨enough, _, rfl⟩ := selects
  have length := field.length_keyRead enough
  obtain ⟨_, shownSame⟩ := (@udsDataToSerializable_uint32 conv none rfl
    (field.keyRead (field.keyBytes number ++ caseBytes)) (by omega) _).mp serializable
  obtain ⟨small, reads⟩ := (value_keyRead enough).mp (DiagDataValue.uint32.inj shownSame).symm
  intro otherNumber otherName otherStruct otherBytes otherSupplied otherSelected encodesCase
  cases supplied.symm.trans otherSupplied
  cases selected.symm.trans otherSelected
  cases written.encodesCase.unique encodesCase
  exact ⟨small, reads, sameCase⟩

/-- The data show the numbers that the object gives to a structure of numbers. -/
def SameCase (structDop : StructureDop conv) (json : JsonValue) (caseData : MappedPayload conv) :
    Prop :=
  ∃ params byteSize members, structDop = ⟨some (params.map ItemParam.parameter), byteSize⟩ ∧
    json.asObject = some members ∧ SameNumbers params members caseData

theorem decodeCase_of_numbers {params : List (ItemParam conv)} {byteSize : Option Nat}
    {json : JsonValue} {caseBytes : List UInt8} (skipped : Nat)
    (fits : ∀ param ∈ params, param.Fits)
    (narrow : ∀ param ∈ numbersOf params, param.dop.bitLength ≤ 32)
    (distinct : (params.map ItemParam.shortName).Nodup)
    (apart : (numbersOf params).Pairwise fun first second => first.place.Apart second.place)
    (keeps : ∀ members, json.asObject = some members → KeepsNumbers params members)
    (mapped : mapStructToUds strict (mapParamToUds strict encodeDepth)
      ⟨some (params.map ItemParam.parameter), byteSize⟩ 0 json [] = .ok caseBytes) :
    ∃ caseData final, decodeCase service (depth + 1) data
        ⟨some (params.map ItemParam.parameter), byteSize⟩ skipped caseBytes = .ok caseData final ∧
      .repeating ∉ final.history ∧
      SameCase ⟨some (params.map ItemParam.parameter), byteSize⟩ json caseData := by
  obtain ⟨members, object, added⟩ := paramsAdded_of_mapStructToUds fits keeps mapped
  have held := added.holdsNumbers (keeps members object) apart (Nat.zero_le _)
  have filled : ∀ param ∈ params, param.stop ≤ caseBytes.length := by
    intro param mem
    have filled := added.filled param mem
    cases param with
    | value param =>
      rw [ItemParam.filledTo, Nat.zero_add] at filled
      exact filled
    | reserved param => exact filled
  have shows : (behindKey caseBytes skipped data).payload.Shows caseBytes := by
    refine ⟨?_, rfl⟩
    simp [behindKey, Payload.view, Payload.pos, slice?]
  obtain ⟨caseData, decoded, same⟩ := @mapStructFromUds_reads conv service depth caseBytes
    (behindKey caseBytes skipped data) data params byteSize shows ⟨added.valid, fits, narrow⟩
    filled distinct
  refine ⟨caseData, _, decoded, List.not_mem_nil, params, byteSize, members, rfl, object,
    same members ?_⟩
  have reads := held.view fits fun param mem => filled _ (mem_numbersOf.mp mem)
  rw [List.drop_zero, List.take_length] at reads
  exact reads

/-- What the encoder accepts for a MUX comes back exactly if the number fits the key, the key
is read from where it was written, and the number selects the case that its bytes selected. -/
theorem comesBack_iff_regular (same : StructureDop conv → JsonValue → MappedPayload conv → Prop)
    (field : MuxField conv) (strict : Bool) (encodeDepth : Nat) (service : DiagService conv)
    (depth : Nat) (shortName : Text) (data : MappedPayload conv) (members : List (Text × JsonValue))
    (before encoded : List UInt8)
    (encodes : mapMuxToUds strict (mapParamToUds strict encodeDepth) field.muxDop
      (.object members) before = .ok (before ++ encoded))
    (caseComesBack : field.CaseComesBack same strict encodeDepth service depth data members) :
    field.ComesBack same service depth shortName data members encoded ↔
      field.Regular strict encodeDepth shortName members := by
  obtain ⟨number, caseName, struct, caseBytes, written⟩ := encoded_of_mapMuxToUds encodes
  constructor
  · exact regular_of_comesBack written
  · exact comesBack_of_written written caseComesBack

end RoundTrip

end MuxField

namespace IntegerDatabase

def caseByte : NumberParam integerConversions :=
  ⟨"byte".toList, none, 0, none, none,
    ⟨8, false, true, some ⟨.uint32⟩, (), integerConversions_identical⟩⟩

def caseStruct : StructureDop integerConversions :=
  ⟨some ([.value caseByte].map ItemParam.parameter), none⟩

def keyByte (keyPosition : Nat) : MuxField integerConversions where
  keyPosition := keyPosition
  bitPosition := none
  key := ⟨8, false, true, some ⟨.uint32⟩, (), integerConversions_identical⟩
  defaultCase := none
  cases := some [⟨some "one".toList, some (.struct caseStruct), some ⟨"1".toList, .closed⟩,
    some ⟨"1".toList, .closed⟩⟩]
  aligned := rfl
  whole := rfl

def oneWithSeven : List (Text × JsonValue) :=
  [(selectorName, .number (.posInt 1)),
    ("one".toList, .object [("byte".toList, .number (.posInt 7))])]

theorem keyByte_caseComesBack : (keyByte 0).CaseComesBack MuxField.SameCase true 2 ⟨none⟩ 1 .empty
    oneWithSeven := by
  intro number caseName structDop json caseBytes supplied selected given mapped
  have one : (keyByte 0).supplied oneWithSeven = .ok 1 := rfl
  cases one.symm.trans supplied
  have chosen : (keyByte 0).selected 1 = some ("one".toList, some caseStruct) := rfl
  cases chosen.symm.trans selected
  have keeps : ∀ members, json.asObject = some members → KeepsNumbers [.value caseByte] members := by
    intro members object param isNumber number supplied
    have seven : oneWithSeven.lookup "one".toList =
        some (.object [("byte".toList, .number (.posInt 7))]) := rfl
    cases seven.symm.trans given
    cases object
    obtain rfl : param = caseByte := List.mem_singleton.mp isNumber
    have given : [("byte".toList, JsonValue.number (.posInt 7))].lookup caseByte.shortName =
        some (.number (.posInt 7)) := rfl
    rw [NumberParam.supplied_of_lookup given] at supplied
    exact ⟨NumberDop.number_lt_of_json supplied, .inl rfl⟩
  exact MuxField.decodeCase_of_numbers 1 (by decide) (by decide) (by decide)
    (by simp [numbersOf, ItemParam.number?]) keeps mapped

theorem keyByte_comesBack : (keyByte 0).ComesBack MuxField.SameCase ⟨none⟩ 1 "mux".toList .empty
    oneWithSeven [1, 7] := by
  have encodes : mapMuxToUds true (mapParamToUds true 2) (keyByte 0).muxDop
      (.object oneWithSeven) [] = .ok ([] ++ [1, 7]) := by decide +kernel
  refine (MuxField.comesBack_iff_regular MuxField.SameCase (keyByte 0) true 2 ⟨none⟩ 1 "mux".toList
    .empty oneWithSeven [] [1, 7] encodes keyByte_caseComesBack).mpr ?_
  intro number caseName struct caseBytes supplied selected _
  have one : (keyByte 0).supplied oneWithSeven = .ok 1 := rfl
  cases one.symm.trans supplied
  have chosen : (keyByte 0).selected 1 = some ("one".toList, some caseStruct) := rfl
  cases chosen.symm.trans selected
  exact ⟨by decide, MuxField.readsKey_of_front rfl _ _, rfl⟩

/-- With the key at byte 1 the byte of the case is taken for the key. -/
theorem keyByte_behind_front_misread :
    mapMuxToUds true (mapParamToUds true 2) (keyByte 1).muxDop (.object oneWithSeven) [] =
        .ok [0, 1, 7] ∧
      ¬(keyByte 1).ComesBack MuxField.SameCase ⟨none⟩ 1 "mux".toList .empty oneWithSeven
        [0, 1, 7] := by
  refine ⟨by decide +kernel, ?_⟩
  intro comesBack
  obtain ⟨_, _, _, _, _, _, _, _, _, ran, _⟩ := comesBack
  have failed : ∃ failure state, mapMuxFromUds (mapParamFromUds ⟨none⟩ 1) "mux".toList
      (keyByte 1).muxDop ⟨.new [0, 1, 7], .empty, []⟩ = .error failure state := ⟨_, _, rfl⟩
  obtain ⟨failure, state, failed⟩ := failed
  cases failed.symm.trans ran

end IntegerDatabase

end DiagnosticAdapter.Kernel
