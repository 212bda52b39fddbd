import DiagnosticAdapter.Codec.ByteStrings
import DiagnosticAdapter.Kernel.SerializedValue

/-!
# Texts and bytes on the wire

Texts are written in UTF-8 and, of the type `AsciiString`, read as Latin-1.  The end of a value
is found by its length, by a terminator or at the end of the message.
-/

namespace DiagnosticAdapter.Kernel

open Bits Codec Effects

inductive TextBase where
  | byteField
  | asciiString
  | utf8String
  | unicode2String
  deriving DecidableEq

/-- A length of 16 bits in front, or a terminator of zeros, or neither. -/
inductive TextEnd where
  | leading
  | zero (maxLength : Option Nat)
  | endOfPdu (maxLength : Option Nat)

structure TextField where
  base : TextBase
  ending : TextEnd
  isHighLowByteOrder : Bool

def TextBase.dataType : TextBase → DataType
  | .byteField => .byteField
  | .asciiString => .asciiString
  | .utf8String => .utf8String
  | .unicode2String => .unicode2String

namespace TextEnd

def type_ : TextEnd → DiagCodedTypeVariant
  | .leading => .leadingLengthInfo 16
  | .zero maxLength => .minMaxLength ⟨0, maxLength, .zero⟩
  | .endOfPdu maxLength => .minMaxLength ⟨0, maxLength, .endOfPdu⟩

def maxLength : TextEnd → Option Nat
  | .leading => none
  | .zero maxLength => maxLength
  | .endOfPdu maxLength => maxLength

def IsZero (ending : TextEnd) : Prop := ∃ maxLength, ending = .zero maxLength

end TextEnd

def utf8 (text : Text) : List UInt8 := (String.ofList text).toUTF8.toList

def TextBase.bytes : TextBase → Text → Except DiagServiceError (List UInt8)
  | .byteField, text => decodeHexWithOptionalPrefix text
  | _, text => .ok (utf8 text)

/-- The text itself is displayed, or one of the same bytes. -/
def TextBase.GivesBack (base : TextBase) (text : Text) (displayed : DiagDataValue) : Prop :=
  ∃ shown, displayed.serialize = .string shown ∧
    match base with
    | .byteField => decodeHexWithOptionalPrefix shown = decodeHexWithOptionalPrefix text
    | _ => shown = text

namespace TextField

variable (field : TextField)

def diagCodedType : DiagCodedType :=
  ⟨field.base.dataType, field.ending.type_, field.isHighLowByteOrder⟩

/-- What is accepted behind a payload comes back.  A text that the type cannot carry does not
come back, so that it is to be refused. -/
def ComesBack (conv : Conversions) (physType : Option PhysicalType) (text : Text) : Prop :=
  ∀ (data payload after : List UInt8) (bytePos : Nat),
    jsonValueToUdsData conv field.diagCodedType none physType (.string text) = .ok data →
    payload.length ≤ bytePos → field.diagCodedType.encode data payload bytePos 0 = .ok after →
    ∃ read bitLen displayed, field.diagCodedType.decode after bytePos 0 = .ok (read, bitLen) ∧
      udsDataToSerializable conv field.base.dataType none read = .ok displayed ∧
      field.base.GivesBack text displayed

/-- The text is ASCII, its length has 16 bits, a terminator of two bytes stands behind whole pairs,
and no byte ends the value. -/
structure Carries (text : Text) (data : List UInt8) : Prop where
  ascii : field.base = .asciiString → ∀ c ∈ text, c.toNat < 128
  counted : field.ending = .leading → data.length < 2 ^ 16
  paired : field.base = .unicode2String → field.ending.IsZero → data.length % 2 = 0
  nonzero : field.base = .byteField → field.ending.IsZero → 0 ∉ data

end TextField

section Utf8

variable {text : Text} {read : List UInt8}

theorem toList_loop (bytes : ByteArray) (index : Nat) (front : List UInt8) :
    ByteArray.toList.loop bytes index front = front.reverse ++ bytes.data.toList.drop index := by
  fun_induction ByteArray.toList.loop bytes index front with
  | case1 index front inside ih =>
    have found : bytes.get! index = bytes.data.toList.get ⟨index, inside⟩ :=
      getElem!_pos bytes.data index inside
    rw [ih, List.drop_eq_getElem_cons (i := index) (by exact inside), found]
    simp
  | case2 index front outside =>
    rw [List.drop_of_length_le (by simpa using outside)]
    simp

theorem utf8_eq_data (text : Text) : utf8 text = (String.ofList text).toUTF8.data.toList := by
  rw [utf8, ByteArray.toList, toList_loop]
  rfl

theorem utf8_eq (text : Text) : utf8 text = text.flatMap String.utf8EncodeChar := by
  rw [utf8_eq_data, String.toUTF8_eq_toByteArray, String.toByteArray_ofList, List.utf8Encode,
    List.data_toByteArray]

theorem fromUTF8?_eq_some_iff :
    (String.fromUTF8? ⟨read.toArray⟩).map String.toList = some text ↔ read = utf8 text := by
  constructor
  · intro decoded
    obtain ⟨string, isString, rfl⟩ := Option.map_eq_some_iff.mp decoded
    unfold String.fromUTF8? at isString
    split at isString
    · cases isString
      rw [utf8_eq_data, String.ofList_toList]
      rfl
    · cases isString
  · rintro rfl
    rw [utf8_eq_data]
    change (String.fromUTF8? (String.ofList text).toUTF8).map String.toList = some text
    rw [String.toUTF8_eq_toByteArray, String.fromUTF8?, dif_pos (String.ofList text).isValidUTF8]
    exact congrArg some String.toList_ofList

theorem zero_not_mem_utf8 (plain : '\x00' ∉ text) : 0 ∉ utf8 text := by
  rw [utf8_eq, List.mem_flatMap]
  rintro ⟨c, mem, zero⟩
  have number : c.val.toNat = 0 := by
    simp only [String.utf8EncodeChar] at zero
    generalize c.val.toNat = number at zero
    split_ifs at zero <;> simp [← UInt8.toNat_inj] at zero <;> omega
  obtain rfl : c = '\x00' := Char.ext (UInt32.toNat_inj.mp number)
  exact plain mem

theorem length_utf8EncodeChar (c : Char) : 1 ≤ (String.utf8EncodeChar c).length ∧
    (c.toNat < 256 → (String.utf8EncodeChar c).length ≤ 2) ∧
    ((String.utf8EncodeChar c).length ≤ 1 ↔ c.toNat < 128) := by
  simp only [String.utf8EncodeChar, Char.toNat]
  generalize c.val.toNat = number
  split_ifs <;> simp <;> omega

theorem length_utf8_iff (text : Text) : text.length ≤ (utf8 text).length ∧
    ((utf8 text).length ≤ text.length ↔ ∀ c ∈ text, c.toNat < 128) := by
  rw [utf8_eq]
  induction text with
  | nil => simp
  | cons c rest ih =>
    obtain ⟨positive, _, single⟩ := length_utf8EncodeChar c
    obtain ⟨longer, same⟩ := ih
    simp only [List.flatMap_cons, List.length_append, List.length_cons, List.forall_mem_cons,
      ← single, ← same]
    omega

def latin1 (byte : UInt8) : Char := Char.ofNat byte.toNat

theorem latin1_toNat (byte : UInt8) : (latin1 byte).toNat = byte.toNat := by
  have every : ∀ number : Fin 256, (Char.ofNat number).toNat = number := by decide +kernel
  exact every ⟨byte.toNat, byte.toNat_lt⟩

theorem length_utf8_latin1 (read : List UInt8) :
    (utf8 (read.map latin1)).length ≤ 2 * read.length := by
  rw [utf8_eq]
  induction read with
  | nil => simp
  | cons byte rest ih =>
    have double := (length_utf8EncodeChar (latin1 byte)).2.1
      (by rw [latin1_toNat]; exact byte.toNat_lt)
    simp only [List.map_cons, List.flatMap_cons, List.length_append, List.length_cons]
    omega

theorem map_latin1_utf8 (ascii : ∀ c ∈ text, c.toNat < 128) : (utf8 text).map latin1 = text := by
  rw [utf8_eq]
  induction text with
  | nil => rfl
  | cons c rest ih =>
    rw [List.forall_mem_cons] at ascii
    have single : String.utf8EncodeChar c = [UInt8.ofNat c.toNat] := by
      have small : c.val.toNat ≤ 0x7f := Nat.le_of_lt_succ ascii.1
      simp only [String.utf8EncodeChar, if_pos small]
      rfl
    have back : latin1 (UInt8.ofNat c.toNat) = c := by
      rw [latin1, UInt8.toNat_ofNat', Nat.mod_eq_of_lt (by omega), Char.ofNat_toNat]
    rw [List.flatMap_cons, single, List.singleton_append, List.map_cons, back, ih ascii.2]

end Utf8

namespace TextField

variable {field : TextField} {data payload : List UInt8} {bytePos : Nat}

theorem sequential (field : TextField) : field.diagCodedType.Sequential := by
  rw [DiagCodedType.Sequential, diagCodedType]
  cases field.base <;> simp [TextBase.dataType]

theorem unicode_iff :
    field.diagCodedType.baseDatatype = .unicode2String ↔ field.base = .unicode2String := by
  rw [diagCodedType]
  cases field.base <;> simp [TextBase.dataType]

def wire (field : TextField) (data : List UInt8) : List UInt8 :=
  match field.ending with
  | .leading => DiagCodedType.lengthInfo 16 data ++ data
  | .zero _ => field.diagCodedType.withTermination .zero data
  | .endOfPdu _ => data

theorem packInput_eq (given : field.wire data ≠ []) : field.diagCodedType.packInput data =
    .ok (some ⟨field.wire data, (field.wire data).length * 8, none⟩) := by
  have packed := DiagCodedType.packAligned_eq given
  unfold wire at packed ⊢
  cases ending : field.ending with
  | leading =>
    exact DiagCodedType.packInput_leading (by decide) (by simp [diagCodedType, ending, TextEnd.type_])
      (by decide) data
  | zero maxLength | endOfPdu maxLength =>
    simp only [ending] at packed
    simp only [DiagCodedType.packInput, diagCodedType, ending, TextEnd.type_]
    exact congrArg (some <$> ·) packed

theorem encode_eq (given : field.wire data ≠ []) (beyond : payload.length ≤ bytePos) :
    field.diagCodedType.encode data payload bytePos 0 =
      .ok (DiagCodedType.extendTo payload bytePos ++
        normalizeByteOrder (field.wire data) field.diagCodedType.byteOrder) := by
  rw [DiagCodedType.encode, DiagCodedType.validateBitPos_zero, packInput_eq given]
  exact DiagCodedType.writePacked_beyond given field.diagCodedType beyond

theorem eq_nil_of_wire (empty : field.wire data = []) :
    data = [] ∧ ∃ maxLength, field.ending = .endOfPdu maxLength := by
  unfold wire at empty
  cases ending : field.ending with
  | leading => simp [ending, DiagCodedType.lengthInfo, toBeBytes, byteLen] at empty
  | zero maxLength =>
    simp only [ending, DiagCodedType.withTermination] at empty
    split_ifs at empty <;> simp at empty
  | endOfPdu maxLength =>
    simp only [ending] at empty
    exact ⟨empty, maxLength, rfl⟩

theorem encode_nil (empty : field.wire data = []) (after : List UInt8) :
    field.diagCodedType.encode data payload bytePos 0 ≠ .ok after := by
  intro encoded
  obtain ⟨rfl, maxLength, ending⟩ := eq_nil_of_wire empty
  rw [DiagCodedType.encode, DiagCodedType.validateBitPos_zero] at encoded
  simp only [DiagCodedType.packInput, diagCodedType, ending, TextEnd.type_] at encoded
  cases encoded

section Ends

variable (front : List UInt8)

theorem decode_leading (leading : field.ending = .leading) : ∃ bitLen, field.diagCodedType.decode
      (front ++ normalizeByteOrder (field.wire data) field.diagCodedType.byteOrder) front.length 0 =
        .ok (normalizeByteOrder ((normalizeByteOrder data field.diagCodedType.byteOrder).take
          (data.length % 2 ^ 16)) field.diagCodedType.byteOrder, bitLen) := by
  have decoded := @DiagCodedType.decode_leading field.diagCodedType 16 (by decide) field.sequential
    (by simp [diagCodedType, leading, TextEnd.type_])
    ((DiagCodedType.validateBitLen_sequential field.sequential (by decide)).mpr fun _ => rfl)
    front data []
  rw [List.append_nil] at decoded
  rw [wire, leading]
  exact ⟨_, decoded⟩

variable {maxLength : Option Nat}

theorem decode_endOfPdu (ended : field.ending = .endOfPdu maxLength)
    (allowed : ∀ max ∈ maxLength, data.length ≤ max) :
    ∃ bitLen, field.diagCodedType.decode
      (front ++ normalizeByteOrder (field.wire data) field.diagCodedType.byteOrder) front.length 0 =
        .ok (data, bitLen) := by
  have kind : field.diagCodedType.type_ = .minMaxLength ⟨0, maxLength, .endOfPdu⟩ := by
    simp [diagCodedType, ended, TextEnd.type_]
  have decoded := DiagCodedType.decode_minMax field.sequential kind (fun other => absurd rfl other)
    (Nat.zero_le _) allowed nofun front [] fun _ => rfl
  rw [List.append_nil] at decoded
  rw [wire, ended]
  exact ⟨_, decoded⟩

theorem decode_zero (ended : field.ending = .zero maxLength) (clean : 0 ∉ data)
    (paired : field.base = .unicode2String → data.length % 2 = 0)
    (allowed : ∀ max ∈ maxLength, data.length ≤ max) (behind : List UInt8) :
    field.diagCodedType.decode (front ++ normalizeByteOrder (field.wire data)
      field.diagCodedType.byteOrder ++ behind) front.length 0 = .ok (data, data.length * 8) := by
  have kind : field.diagCodedType.type_ = .minMaxLength ⟨0, maxLength, .zero⟩ := by
    simp [diagCodedType, ended, TextEnd.type_]
  have decoded := DiagCodedType.decode_minMax field.sequential kind
    (fun _ unicode => paired (unicode_iff.mp unicode)) (Nat.zero_le _) allowed (by
      rintro _ ⟨⟩ i _ _ _
      have positive : 0 < field.diagCodedType.width := by
        rw [DiagCodedType.width]
        split_ifs <;> decide
      exact ⟨0, positive, fun zero => clean (List.mem_of_getElem? zero)⟩) front behind nofun
  rw [wire, ended]
  exact decoded

theorem decode_zero_of_mem (ended : field.ending = .zero maxLength)
    (base : field.base = .byteField) (zero : 0 ∈ data)
    (allowed : ∀ max ∈ maxLength, data.length ≤ max) :
    ∃ raw bitLen, raw.length < data.length ∧ field.diagCodedType.decode
      (front ++ normalizeByteOrder (field.wire data) field.diagCodedType.byteOrder) front.length 0 =
        .ok (raw, bitLen) := by
  obtain ⟨raw, rest, rfl, clean⟩ := List.eq_append_cons_of_mem zero
  have notUnicode : ¬field.base = .unicode2String := by
    rw [base]
    nofun
  have shorter : raw.length < (raw ++ 0 :: rest).length := by
    rw [List.length_append, List.length_cons]
    omega
  have keep : field.diagCodedType.byteOrder = .keep :=
    (DiagCodedType.byteOrder_cases field.sequential).resolve_right
      fun other => notUnicode (unicode_iff.mp other.1)
  have cut : ∀ data, field.wire data = data ++ [0] := by
    intro data
    rw [wire, ended]
    simp [DiagCodedType.withTermination, unicode_iff, notUnicode]
  have decoded := decode_zero front ended clean (fun unicode => absurd unicode notUnicode)
    (fun max isMax => shorter.le.trans (allowed max isMax)) (rest ++ [0])
  rw [keep, cut] at decoded
  refine ⟨raw, raw.length * 8, shorter, ?_⟩
  rw [keep, cut]
  simpa [normalizeByteOrder] using decoded

theorem exists_scanEnd_eq (found : Nat → Bool) (width maxEnd rounds endPos : Nat) :
    ∃ count, DiagCodedType.scanEnd found width maxEnd rounds endPos = endPos + count * width := by
  induction rounds generalizing endPos with
  | zero => exact ⟨0, by rw [Nat.zero_mul]; rfl⟩
  | succ rounds ih =>
    obtain ⟨count, scanned⟩ := ih (endPos + width)
    rw [DiagCodedType.scanEnd]
    split
    · split
      · exact ⟨0, by rw [Nat.zero_mul]; rfl⟩
      · exact ⟨count + 1, by rw [scanned, Nat.succ_mul]; omega⟩
    · exact ⟨0, by rw [Nat.zero_mul]; rfl⟩

theorem length_even_of_decode {read : List UInt8} {bitLen : Nat}
    (ended : field.ending = .zero maxLength) (unicode : field.base = .unicode2String)
    (decoded : field.diagCodedType.decode payload bytePos 0 = .ok (read, bitLen)) :
    read.length % 2 = 0 := by
  obtain ⟨count, found⟩ : ∃ count, field.diagCodedType.findTermination 0 payload bytePos 0
      (DiagCodedType.maxEnd maxLength bytePos payload.length) = bytePos + count * 2 := by
    rw [DiagCodedType.findTermination, if_pos (unicode_iff.mpr unicode)]
    exact exists_scanEnd_eq _ _ _ _ _
  cases located : field.diagCodedType.posInfo payload bytePos 0 with
  | error error =>
    rw [DiagCodedType.decode, DiagCodedType.validateBitPos_zero, located] at decoded
    cases decoded
  | ok info =>
    obtain ⟨inside, rfl⟩ : bytePos + count * 2 ≤ payload.length ∧
        info = ⟨count * 2 * 8, bytePos, none⟩ := by
      have kind : field.diagCodedType.type_ = .minMaxLength ⟨0, maxLength, .zero⟩ := by
        simp [diagCodedType, ended, TextEnd.type_]
      have placed : ∀ endPos, endPos = bytePos + count * 2 →
          (if endPos - bytePos < 0 then .error (.notEnoughData (bytePos + 0) payload.length)
          else .ok ⟨(endPos - bytePos) * 8, bytePos, none⟩ :
            Except DiagServiceError DiagCodedType.PosInfo) =
            .ok ⟨count * 2 * 8, bytePos, none⟩ := by
        rintro endPos rfl
        rw [Nat.add_sub_cancel_left, if_neg (Nat.not_lt_zero _)]
      rw [DiagCodedType.posInfo, kind] at located
      dsimp only [DiagCodedType.posInfoMinMaxLen] at located
      by_cases outside : field.diagCodedType.findTermination 0 payload bytePos 0
          (DiagCodedType.maxEnd maxLength bytePos payload.length) > payload.length
      · have refused := (if_pos outside).symm.trans located
        cases refused
      · have accepted := (if_neg outside).symm.trans located
        exact ⟨found.ge.trans (Nat.not_lt.mp outside),
          Except.ok.inj (accepted.symm.trans (placed _ found))⟩
    have before : (payload.take bytePos).length = bytePos :=
      List.length_take_of_le (Nat.le_of_add_right_le inside)
    have raw : ((payload.drop bytePos).take (count * 2)).length = count * 2 := by
      rw [List.length_take, List.length_drop]
      omega
    have again := @DiagCodedType.decode_of_posInfo ((payload.drop bytePos).take (count * 2))
      ((payload.drop bytePos).drop (count * 2)) field.diagCodedType payload
      (payload.take bytePos) bytePos (by rw [located, before, raw])
      (by rw [List.append_assoc, List.take_append_drop, List.take_append_drop])
    rw [decoded] at again
    cases again
    rw [length_normalizeByteOrder, raw]
    exact Nat.mul_mod_left count 2

end Ends

end TextField

def TextBase.Shows (base : TextBase) (text : Text) (read : List UInt8) : Prop :=
  match base with
  | .byteField => decodeHexWithOptionalPrefix text = .ok read
  | .asciiString => read.map latin1 = text
  | .utf8String | .unicode2String => read = utf8 text

theorem TextBase.exists_displayed_iff (conv : Conversions) (base : TextBase) (text : Text)
    (read : List UInt8) :
    (∃ displayed, udsDataToSerializable conv base.dataType none read = .ok displayed ∧
      base.GivesBack text displayed) ↔ base.Shows text read := by
  cases read with
  | nil =>
    have nothing : utf8 [] = [] := utf8_eq []
    have none : ([] = utf8 text) ↔ [] = text := by
      refine ⟨fun empty => ?_, by rintro rfl; exact nothing.symm⟩
      have shorter := (length_utf8_iff text).1
      rw [← empty] at shorter
      exact (List.eq_nil_of_length_eq_zero (Nat.eq_zero_of_le_zero shorter)).symm
    have bytes : decodeHexWithOptionalPrefix [] = .ok [] := by decide
    cases base <;>
      simp [udsDataToSerializable, TextBase.GivesBack, TextBase.Shows, DiagDataValue.serialize,
        none, bytes, eq_comm]
  | cons byte rest =>
    rw [udsDataToSerializable, if_neg (by simp)]
    cases base with
    | byteField =>
      have again := decodeHexWithOptionalPrefix_serialize (byte :: rest)
      rw [List.map_cons] at again
      simp [TextBase.dataType, DiagDataValue.new, TextBase.GivesBack, TextBase.Shows,
        DiagDataValue.serialize, again, eq_comm]
    | asciiString =>
      change (∃ displayed, (Except.ok (.string ((byte :: rest).map latin1)) :
        Except DiagServiceError DiagDataValue) = .ok displayed ∧
          TextBase.asciiString.GivesBack text displayed) ↔ _
      simp [TextBase.GivesBack, TextBase.Shows, DiagDataValue.serialize]
    | utf8String | unicode2String =>
      rw [TextBase.Shows, ← fromUTF8?_eq_some_iff]
      cases isString : String.fromUTF8? ⟨(byte :: rest).toArray⟩ <;>
        simp [TextBase.dataType, DiagDataValue.new, isString, TextBase.GivesBack,
          DiagDataValue.serialize]

namespace TextField

variable {field : TextField} {text : Text} {data : List UInt8}

theorem jsonValueToUdsData_eq (conv : Conversions) (physType : Option PhysicalType) :
    jsonValueToUdsData conv field.diagCodedType none physType (.string text) =
      field.base.bytes text := by
  rw [jsonValueToUdsData, diagCodedType]
  cases field.base <;> rfl

theorem Carries.shows (carries : field.Carries text data)
    (meant : field.base.bytes text = .ok data) : field.base.Shows text data := by
  have ascii := carries.ascii
  cases base : field.base with
  | byteField =>
    rw [base] at meant
    exact meant
  | asciiString =>
    rw [base] at meant
    cases meant
    exact map_latin1_utf8 (ascii base)
  | utf8String | unicode2String =>
    rw [base] at meant
    cases meant
    rfl

theorem zero_not_mem_bytes (meant : field.base.bytes text = .ok data)
    (isText : field.base ≠ .byteField) (plain : '\x00' ∉ text) : 0 ∉ data := by
  cases base : field.base with
  | byteField => exact absurd base isText
  | asciiString | utf8String | unicode2String =>
    rw [base] at meant
    cases meant
    exact zero_not_mem_utf8 plain

theorem decode_of_carries (carries : field.Carries text data)
    (meant : field.base.bytes text = .ok data) (plain : field.base ≠ .byteField → '\x00' ∉ text)
    (allowed : ∀ max ∈ field.ending.maxLength, data.length ≤ max) (front : List UInt8) :
    ∃ bitLen, field.diagCodedType.decode
      (front ++ normalizeByteOrder (field.wire data) field.diagCodedType.byteOrder) front.length 0 =
        .ok (data, bitLen) := by
  cases ending : field.ending with
  | leading =>
    obtain ⟨bitLen, decoded⟩ := @decode_leading field data front ending
    rw [Nat.mod_eq_of_lt (carries.counted ending), List.take_of_length_le (by simp),
      normalizeByteOrder_normalizeByteOrder] at decoded
    exact ⟨bitLen, decoded⟩
  | endOfPdu maxLength =>
    rw [ending] at allowed
    exact decode_endOfPdu front ending allowed
  | zero maxLength =>
    rw [ending] at allowed
    have isZero : field.ending.IsZero := ⟨maxLength, ending⟩
    have clean : 0 ∉ data := by
      by_cases isByteField : field.base = .byteField
      · exact carries.nonzero isByteField isZero
      · exact zero_not_mem_bytes meant isByteField (plain isByteField)
    have decoded := decode_zero front ending clean (fun unicode => carries.paired unicode isZero)
      allowed []
    rw [List.append_nil] at decoded
    exact ⟨_, decoded⟩

theorem ascii_of_length (meant : field.base.bytes text = .ok data) {read : List UInt8}
    (shows : field.base.Shows text read) (length : data.length = read.length)
    (base : field.base = .asciiString) : ∀ c ∈ text, c.toNat < 128 := by
  rw [base] at meant shows
  cases meant
  cases shows
  rw [← (length_utf8_iff _).2, length, List.length_map]

theorem read_of_shows (meant : field.base.bytes text = .ok data) {read : List UInt8}
    (shows : field.base.Shows text read) :
    data.length ≤ 2 * read.length ∧ (field.base ≠ .asciiString → read = data) := by
  cases base : field.base with
  | byteField =>
    rw [base] at meant shows
    obtain rfl : read = data := Except.ok.inj (shows.symm.trans meant)
    exact ⟨by omega, fun _ => rfl⟩
  | asciiString =>
    rw [base] at meant shows
    cases meant
    cases shows
    exact ⟨length_utf8_latin1 read, fun other => absurd rfl other⟩
  | utf8String | unicode2String =>
    rw [base] at meant shows
    cases meant
    cases shows
    exact ⟨by omega, fun _ => rfl⟩

theorem carries_of_nothing (meant : field.base.bytes text = .ok []) : field.Carries text [] := by
  refine ⟨fun base => ?_, fun _ => by decide, fun _ _ => rfl, fun _ _ => List.not_mem_nil⟩
  rw [base] at meant
  have nothing : utf8 text = [] := Except.ok.inj meant
  rw [← (length_utf8_iff text).2, nothing]
  exact Nat.zero_le _

theorem comesBack_iff_carries (conv : Conversions) (physType : Option PhysicalType)
    (field : TextField) (text : Text) (plain : field.base ≠ .byteField → '\x00' ∉ text)
    (allowed : ∀ data, field.base.bytes text = .ok data →
      ∀ max ∈ field.ending.maxLength, data.length ≤ max) :
    field.ComesBack conv physType text ↔
      ∀ data, field.base.bytes text = .ok data → field.Carries text data := by
  constructor
  · intro comesBack data meant
    by_cases given : field.wire data = []
    · obtain ⟨rfl, _⟩ := eq_nil_of_wire given
      exact carries_of_nothing meant
    obtain ⟨read, bitLen, displayed, decoded, shown, gives⟩ := comesBack data [] _ 0
      ((jsonValueToUdsData_eq conv physType).trans meant) (Nat.zero_le 0)
      (encode_eq given (Nat.zero_le 0))
    have shows := (field.base.exists_displayed_iff conv text read).mp ⟨displayed, shown, gives⟩
    obtain ⟨double, same⟩ := read_of_shows meant shows
    have ascii := ascii_of_length meant shows
    have decodes : ∀ {found}, (∃ bitLen, field.diagCodedType.decode
        ([] ++ normalizeByteOrder (field.wire data) field.diagCodedType.byteOrder) 0 0 =
          .ok (found, bitLen)) → read = found := by
      rintro found ⟨_, again⟩
      exact congrArg Prod.fst (Except.ok.inj (decoded.symm.trans again))
    cases ending : field.ending with
    | leading =>
      have counted := congrArg List.length (decodes (decode_leading [] ending))
      rw [length_normalizeByteOrder, List.length_take, length_normalizeByteOrder] at counted
      have short : data.length < 2 ^ 16 := by omega
      have whole : data.length = read.length := by omega
      have noZero : ¬field.ending.IsZero := by
        rintro ⟨_, zero⟩
        rw [ending] at zero
        cases zero
      exact ⟨ascii whole, fun _ => short, fun _ zero => absurd zero noZero,
        fun _ zero => absurd zero noZero⟩
    | endOfPdu maxLength =>
      have bound := allowed data meant
      rw [ending] at bound
      have whole := decodes (decode_endOfPdu [] ending bound)
      have noZero : ¬field.ending.IsZero := by
        rintro ⟨_, zero⟩
        rw [ending] at zero
        cases zero
      refine ⟨ascii (congrArg List.length whole.symm), fun leading => ?_,
        fun _ zero => absurd zero noZero, fun _ zero => absurd zero noZero⟩
      rw [ending] at leading
      cases leading
    | zero maxLength =>
      have bound := allowed data meant
      rw [ending] at bound
      refine ⟨fun base => ascii ?_ base, fun leading => ?_, fun base _ => ?_, fun base _ zero => ?_⟩
      · have isText : field.base ≠ .byteField := by
          rw [base]
          nofun
        have clean := zero_not_mem_bytes meant isText (plain isText)
        have found := decode_zero [] ending clean (fun other => by simp [base] at other) bound []
        rw [List.append_nil] at found
        rw [decodes ⟨_, found⟩]
      · rw [ending] at leading
        cases leading
      · rw [← same (by rw [base]; nofun)]
        exact length_even_of_decode ending base decoded
      · obtain ⟨raw, bitLen, shorter, cut⟩ := decode_zero_of_mem [] ending base zero bound
        have cutShort := decodes ⟨bitLen, cut⟩
        rw [← cutShort, same (by rw [base]; nofun)] at shorter
        exact absurd shorter (lt_irrefl _)
  · intro carries data payload after bytePos converted beyond encoded
    rw [jsonValueToUdsData_eq] at converted
    have given : field.wire data ≠ [] := fun empty => encode_nil empty after encoded
    rw [encode_eq given beyond] at encoded
    cases encoded
    have front : (DiagCodedType.extendTo payload bytePos).length = bytePos := by
      rw [DiagCodedType.length_extendTo]
      exact Nat.max_eq_right beyond
    obtain ⟨bitLen, decoded⟩ := decode_of_carries (carries data converted) converted plain
      (allowed data converted) (DiagCodedType.extendTo payload bytePos)
    rw [front] at decoded
    obtain ⟨displayed, shown, gives⟩ :=
      (field.base.exists_displayed_iff conv text data).mpr
        ((carries data converted).shows converted)
    exact ⟨data, bitLen, displayed, decoded, shown, gives⟩

/-- "ok" in UTF-8, with a terminator behind it. -/
theorem comesBack_ok :
    ComesBack ⟨.utf8String, .zero (some 4), true⟩ integerConversions none ['o', 'k'] := by
  have meant : utf8 ['o', 'k'] = [0x6F, 0x6B] := by
    rw [utf8_eq]
    decide
  apply (comesBack_iff_carries integerConversions none _ _ (fun _ => by decide) ?_).mpr
  · rintro data ⟨⟩
    exact ⟨nofun, nofun, nofun, nofun⟩
  · rintro data ⟨⟩ max ⟨⟩
    rw [meant]
    decide

/-- "é" is written as `C3 A9` and read back as "Ã©". -/
theorem not_comesBack_accented : '\x00' ∉ ['é'] ∧
    ¬ComesBack ⟨.asciiString, .endOfPdu none, true⟩ integerConversions none ['é'] := by
  refine ⟨by decide, fun comesBack => ?_⟩
  have meant : utf8 ['é'] = [0xC3, 0xA9] := by
    rw [utf8_eq]
    decide
  obtain ⟨read, bitLen, displayed, decoded, shown, ⟨text, serialized, same⟩⟩ :=
    comesBack [0xC3, 0xA9] [] [0xC3, 0xA9] 0 (congrArg Except.ok meant) (Nat.zero_le 0)
      (by decide +kernel)
  have found : DiagCodedType.decode ⟨.asciiString, .minMaxLength ⟨0, none, .endOfPdu⟩, true⟩
      [0xC3, 0xA9] 0 0 = .ok ([0xC3, 0xA9], 16) := by decide +kernel
  obtain ⟨rfl, rfl⟩ := Prod.mk.inj (Except.ok.inj (found.symm.trans decoded))
  cases shown
  cases serialized
  exact absurd same (by decide)

end TextField

end DiagnosticAdapter.Kernel
