import DiagnosticAdapter.Kernel.ItemReading
import DiagnosticAdapter.Kernel.RequestLayout

/-!
# Requests of plain fields, encoded and decoded

`convert_request_from_uds` walks the parameters in the order of the list, with a running
read position for those that have no position.
-/

namespace DiagnosticAdapter.Kernel

open Bits Codec Effects

variable {conv : Conversions}

def shownValue (field : PlainField) (data : List UInt8) : DiagDataValue :=
  match field.length with
  | .number _ => .uint32 (value data)
  | .bytes _ | .toEnd _ _ => .byteField data

section Field

variable {field : PlainField} {bitPos bytePos : Nat} {data read bytes : List UInt8}
  {state : DecodeState conv}

/-- What is read of a field is the data, a number without its leading zero bytes. -/
structure SameData (field : PlainField) (data read : List UInt8) : Prop where
  length : read.length = byteLen (field.bitLen data)
  value : value read = value data

section

variable (same : SameData field data read)

include same

theorem SameData.eq_of_byteField (byteField : field.base = .byteField) {bitPos : Nat}
    (keeps : field.Keeps bitPos data) : read = data := by
  apply eq_of_value_eq _ same.value
  rw [same.length]
  obtain ⟨length, condensed, isHighLow⟩ := field
  cases length with
  | number bitLength => cases byteField
  | bytes bitLength => exact keeps.1.symm
  | toEnd minLength maxLength =>
    simp only [PlainField.bitLen, byteLen]
    omega

theorem SameData.not_empty (valid : field.Valid bitPos data) : read.isEmpty = false := by
  have positive := valid.positive
  rw [List.isEmpty_eq_false_iff_exists_mem]
  apply List.exists_mem_of_length_pos
  rw [same.length, byteLen]
  omega

theorem serializable_plain (valid : field.Valid bitPos data) (keeps : field.Keeps bitPos data)
    {compuMethod : conv.CompuMethod} (identical : conv.category compuMethod = .identical)
    (bitLen : Nat) :
    RawContainer.serializable ⟨read, bitLen, field.base, some compuMethod⟩ =
      .ok (shownValue field data) := by
  have direct : RawContainer.serializable ⟨read, bitLen, field.base, some compuMethod⟩ =
      DiagDataValue.new field.base read := by
    simp only [RawContainer.serializable, udsDataToSerializable, same.not_empty valid,
      Option.filter_some, identical]
    rfl
  rw [direct]
  obtain ⟨length, condensed, isHighLow⟩ := field
  cases length with
  | number bitLength =>
    have narrow : read.length ≤ 4 := by
      have limit := keeps.1
      rw [same.length]
      simp only [PlainField.bitLen, byteLen]
      omega
    simp only [PlainField.base, DiagDataValue.new, shownValue, if_neg (Nat.not_lt_of_le narrow),
      NumberDop.value_padMsbToLen, same.value]
  | bytes bitLength | toEnd minLength maxLength =>
    rw [same.eq_of_byteField rfl keeps]
    rfl

end

theorem extract_plain (shows : state.payload.Shows bytes) (valid : field.Valid bitPos data)
    (keeps : field.Keeps bitPos data)
    (enough : bytePos + byteLen (field.bitLen data) ≤ bytes.length)
    (last : ∀ minLength maxLength, field.length = .toEnd minLength maxLength →
      bytePos + data.length = bytes.length)
    (reads : (field.place bytePos bitPos data).Reads bytes (value data))
    (compuMethod : Option conv.CompuMethod) :
    ∃ read, SameData field data read ∧
      extractDiagDataContainer bytePos bitPos field.diagCodedType compuMethod state =
        .ok ⟨read, field.bitLen data, field.base, compuMethod⟩ { state with payload :=
          { state.payload with lastReadBytePos := bytePos + byteLen (field.bitLen data) } } := by
  obtain ⟨read, decoded, length, same⟩ := PlainField.decode_reads valid keeps enough last reads
  have sameData : SameData field data read := ⟨length, same⟩
  refine ⟨read, sameData, ?_⟩
  have positive := valid.positive
  have present : decodeIfPresent field.diagCodedType bytes bytePos bitPos =
      .ok (read, field.bitLen data) := by
    rw [decodeIfPresent, if_neg, decoded]
    rintro ⟨_, beyond⟩
    simp only [byteLen] at enough
    omega
  have given : ¬(read.isEmpty ∧ !isOptional field.diagCodedType) := by
    rw [sameData.not_empty valid]
    simp
  rw [extractDiagDataContainer, bind_of_ok (view_of_shows shows), present, Decoder.ofExcept,
    pure_bind]
  simp only [if_neg given, length]
  rw [← setLastReadBytePos_of_le shows enough]
  rfl

end Field

/-- Whether encoder and decoder read the text of a constant alike. -/
def RequestKind.ReadsAlike (kind : RequestKind conv) (base : DataType) : Prop :=
  match kind with
  | .const codedValue => strToJsonValue conv codedValue base = constJsonValue conv codedValue base
  | .value _ _ _ _ => True

/-- What the payload holds of a parameter, as far as its reading needs it. -/
structure Placement.Readable (values : ParameterMap) (payload : List UInt8)
    (placement : Placement conv) : Prop where
  supplied : placement.param.supplied values = .ok placement.data
  alike : placement.param.kind.ReadsAlike placement.param.field.base
  valid : placement.param.field.Valid placement.param.bit placement.data
  keeps : placement.param.field.Keeps placement.param.bit placement.data
  enough : placement.stop ≤ payload.length
  last : placement.param.reachesEnd = true → placement.stop = payload.length
  reads : placement.place.Reads payload (value placement.data)

/-- The position at which the decoder starts after it has read up to `last`. -/
def Placement.StartsAt (last : Nat) (placement : Placement conv) : Prop :=
  placement.pos = if placement.param.isValue = true ∧ placement.param.bytePos = none then last
    else placement.param.pos

section Param

variable {values : ParameterMap} {service : DiagService conv} {depth : Nat}
  {payload data read : List UInt8} {placement : Placement conv} {param : RequestParam conv}
  {state : DecodeState conv}

theorem exists_of_number {field : PlainField} {bitLength : Nat} {json : JsonNumber}
    {compuMethod : Option conv.CompuMethod} {physicalType : Option PhysicalType}
    (number : field.length = .number bitLength)
    (identical : ∀ method ∈ compuMethod, conv.category method = .identical)
    (supplied : jsonValueToUdsData conv field.diagCodedType compuMethod physicalType (.number json) =
      .ok data) :
    ∃ n, json.asU64 = some n ∧ n < 2 ^ 32 ∧ data = toBeBytes 4 n := by
  obtain ⟨length, condensed, isHighLow⟩ := field
  cases number
  have plain : compuMethod.filter (fun method => conv.category method ≠ .identical) = none := by
    rw [Option.filter_eq_none_iff]
    intro method given
    simpa using identical method given
  rw [jsonValueToUdsData, plain] at supplied
  obtain ⟨processed, converts, rest⟩ := exists_of_except_bind supplied
  obtain ⟨_, _, rest⟩ := exists_of_except_bind rest
  obtain rfl := Except.ok.inj rest
  simp only [processNumericJsonValue, PlainField.diagCodedType, PlainField.base] at converts
  cases unsigned : json.asU64 with
  | none =>
    rw [unsigned] at converts
    cases converts
  | some n =>
    rw [unsigned] at converts
    obtain ⟨_, _, converts⟩ := exists_of_except_bind converts
    split at converts
    · rename_i small
      obtain rfl := Except.ok.inj converts
      exact ⟨n, rfl, small, rfl⟩
    · cases converts

theorem length_of_const {field : PlainField} {bitLength : Nat} {json : JsonValue}
    (number : field.length = .number bitLength)
    (supplied : jsonValueToUdsData conv field.diagCodedType none none json = .ok data) :
    data.length = 4 := by
  cases json with
  | number json =>
    obtain ⟨n, _, _, rfl⟩ := exists_of_number number (by simp) supplied
    exact length_toBeBytes _ _
  | _ =>
    obtain ⟨length, condensed, isHighLow⟩ := field
    cases number
    cases supplied

theorem expectedConst_eq {field : PlainField} {bitPos : Nat} {codedValue : Text}
    (same : SameData field data read) (keeps : field.Keeps bitPos data)
    (alike : strToJsonValue conv codedValue field.base = constJsonValue conv codedValue field.base)
    (supplied : (constJsonValue conv codedValue field.base >>= fun json =>
      jsonValueToUdsData conv field.diagCodedType none none json) = .ok data) :
    expectedConst conv field.diagCodedType codedValue read.length = .ok read := by
  obtain ⟨json, readText, converts⟩ := exists_of_except_bind supplied
  have cut : expectedConst conv field.diagCodedType codedValue read.length =
      .ok (data.drop (data.length - read.length)) := by
    rw [expectedConst]
    change (strToJsonValue conv codedValue field.base >>= _) = _
    rw [alike, readText]
    change (jsonValueToUdsData conv field.diagCodedType none none json >>= _) = _
    rw [converts]
    rfl
  rw [cut]
  congr 1
  cases kind : field.length with
  | number bitLength =>
    have four := length_of_const kind converts
    obtain ⟨length, condensed, isHighLow⟩ := field
    cases kind
    have count : read.length = byteLen bitLength := same.length
    have narrow := keeps.1
    have shorter : read.length ≤ 4 := by
      rw [count, byteLen]
      omega
    apply eq_of_value_eq
    · rw [List.length_drop]
      omega
    · rw [value_drop, same.value, Nat.mod_eq_of_lt]
      apply keeps.2.2.1.trans_le
      apply Nat.pow_le_pow_right (by decide)
      rw [count] at shorter ⊢
      rw [byteLen] at shorter ⊢
      omega
  | bytes bitLength | toEnd minLength maxLength =>
    rw [same.eq_of_byteField (by rw [PlainField.base, kind]) keeps, Nat.sub_self, List.drop_zero]

def DecodeState.startAt (state : DecodeState conv) (pos : Nat) : DecodeState conv :=
  { state with payload := { state.payload with lastReadBytePos := pos } }

theorem convertRequestParam_eq {start : Nat} (shows : state.payload.Shows payload)
    (starts : start = if param.bytePos.isSome then param.pos else state.payload.lastReadBytePos)
    (enough : start ≤ payload.length) :
    convertRequestParam service depth param.parameter state =
      convertParam service depth param.shortName param.parameter (state.startAt start) := by
  have moved := setLastReadBytePos_of_le shows enough
  rw [convertRequestParam, RequestParam.parameter_shortName, Decoder.orFail, pure_bind,
    RequestParam.parameter_hasBytePosition, RequestParam.parameter_bytePosition]
  change convertParam service depth param.shortName param.parameter { state with
    payload := state.payload.setLastReadBytePos
      (if param.bytePos.isSome then param.pos else state.payload.lastReadBytePos) } = _
  rw [← starts, moved]
  rfl

theorem extract_placement (readable : placement.Readable values payload)
    (shows : state.payload.Shows payload) (compuMethod : Option conv.CompuMethod) :
    ∃ read, SameData placement.param.field placement.data read ∧
      extractDiagDataContainer placement.pos placement.param.bit
          placement.param.field.diagCodedType compuMethod state =
        .ok ⟨read, placement.param.field.bitLen placement.data, placement.param.field.base,
          compuMethod⟩ (state.startAt placement.stop) := by
  refine extract_plain shows readable.valid readable.keeps readable.enough ?_ readable.reads
    compuMethod
  intro minLength maxLength toEnd
  have last := readable.last (by rw [RequestParam.reachesEnd, toEnd])
  rw [← last, Placement.stop, PlainField.bitLen, toEnd, byteLen]
  dsimp only
  omega

theorem mapParamFromUds_placement (readable : placement.Readable values payload)
    (shows : state.payload.Shows payload)
    (starts : placement.StartsAt state.payload.lastReadBytePos) :
    ∃ raw : RawContainer conv, mapParamFromUds service (depth + 1) placement.param.shortName
          (.new placement.param.parameter 0) state =
        .ok () (state.read placement.stop placement.param.shortName (.raw raw)) ∧
      (placement.param.isValue = true →
        raw.serializable = .ok (shownValue placement.param.field placement.data)) := by
  cases kind : placement.param.kind with
  | const codedValue =>
    obtain ⟨read, same, extracted⟩ := @extract_placement conv values payload placement state
      readable shows none
    have position : placement.pos = placement.param.pos := by
      rw [Placement.StartsAt, RequestParam.isValue, kind] at starts
      exact starts
    have supplied := readable.supplied
    rw [RequestParam.supplied, kind] at supplied
    have alike := readable.alike
    rw [kind] at alike
    have expected := expectedConst_eq same readable.keeps alike supplied
    refine ⟨⟨read, placement.param.field.bitLen placement.data, placement.param.field.base, none⟩,
      ?_, fun isValue => ?_⟩
    · have unfolded : mapParamFromUds service (depth + 1) placement.param.shortName
          (.new placement.param.parameter 0) =
          (extractDiagDataContainer placement.pos placement.param.bit
            placement.param.field.diagCodedType none >>= fun raw =>
              Decoder.ofExcept (expectedConst conv placement.param.field.diagCodedType codedValue
                raw.data.length) >>= fun expected =>
              if raw.data ≠ expected then
                Decoder.fail (.badPayload
                  s!"{placement.param.parameter.nameOrDefault}: Expected {expected}, got {raw.data}")
              else Decoder.insertMapped placement.param.shortName (.raw raw)) := by
        rw [position]
        obtain ⟨⟨_, _, _, _, _, _⟩, _, _⟩ := placement
        cases kind
        simp only [RequestParam.pos]
        rw [← Nat.zero_add (Option.getD _ 0)]
        rfl
      rw [unfolded, bind_of_ok extracted, expected]
      simp only [Decoder.ofExcept, pure_bind, ne_eq, not_true, if_false]
      rfl
    · rw [RequestParam.isValue, kind] at isValue
      cases isValue
  | value physicalDefaultValue compuMethod identical physicalType =>
    obtain ⟨read, same, extracted⟩ := @extract_placement conv values payload placement state
      readable shows (some compuMethod)
    refine ⟨⟨read, placement.param.field.bitLen placement.data, placement.param.field.base,
      some compuMethod⟩, ?_, fun _ => serializable_plain same readable.valid readable.keeps
        identical _⟩
    have unfolded : mapParamFromUds service (depth + 1) placement.param.shortName
        (.new placement.param.parameter 0) =
        (bytePosOrLastRead (.new placement.param.parameter 0) >>= fun bytePos =>
          extractDiagDataContainer bytePos placement.param.bit
            placement.param.field.diagCodedType (some compuMethod) >>= fun raw =>
          Decoder.insertMapped placement.param.shortName (.raw raw)) := by
      obtain ⟨⟨_, _, _, _, ⟨length, _, _⟩, _⟩, _, _⟩ := placement
      cases kind
      cases length <;> rfl
    have located : bytePosOrLastRead (.new placement.param.parameter 0) state =
        .ok placement.pos state := by
      rw [Placement.StartsAt, RequestParam.isValue, kind] at starts
      obtain ⟨⟨_, _, bytePos, _, _, _⟩, _, _⟩ := placement
      cases kind
      cases bytePos with
      | none =>
        have same : _ = state.payload.lastReadBytePos := starts
        rw [same]
        rfl
      | some bytePos =>
        have same : _ = bytePos := starts
        rw [same]
        exact congrArg (fun pos => EStateM.Result.ok pos state) (Nat.zero_add bytePos)
    rw [unfolded, bind_of_ok located, bind_of_ok extracted]
    rfl

theorem convertRequestParam_placement (readable : placement.Readable values payload)
    (shows : state.payload.Shows payload) (inside : state.payload.lastReadBytePos ≤ payload.length)
    (starts : placement.StartsAt state.payload.lastReadBytePos) :
    ∃ raw : RawContainer conv,
      convertRequestParam service (depth + 1) placement.param.parameter state =
        .ok none (state.read placement.stop placement.param.shortName (.raw raw)) ∧
      (placement.param.isValue = true →
        raw.serializable = .ok (shownValue placement.param.field placement.data)) := by
  generalize found : (if placement.param.bytePos.isSome then placement.param.pos
    else state.payload.lastReadBytePos) = start
  have enough : start ≤ payload.length := by
    have reached : placement.pos ≤ payload.length :=
      (Nat.le_add_right _ _).trans readable.enough
    rw [starts] at reached
    rw [← found]
    cases positioned : placement.param.bytePos with
    | none => exact inside
    | some bytePos =>
      rw [if_neg (by simp [positioned])] at reached
      exact reached
  have movedStarts : placement.StartsAt (state.startAt start).payload.lastReadBytePos := by
    rw [Placement.StartsAt, starts]
    by_cases following : placement.param.isValue = true ∧ placement.param.bytePos = none
    · rw [if_pos following, if_pos following]
      rw [following.2] at found
      exact found
    · rw [if_neg following, if_neg following]
  obtain ⟨raw, mapped, shown⟩ := @mapParamFromUds_placement conv values service depth payload
    placement (state.startAt start) readable ⟨shows.view, shows.len⟩ movedStarts
  refine ⟨raw, ?_, shown⟩
  rw [convertRequestParam_eq shows found.symm enough, convertParam]
  have swallowed : Decoder.swallow isDataError (mapParamFromUds service (depth + 1)
      placement.param.shortName (.new placement.param.parameter 0)) (state.startAt start) =
      .ok (.ok ()) (state.read placement.stop placement.param.shortName (.raw raw)) := by
    rw [Decoder.swallow, mapped]
    rfl
  rw [bind_of_ok swallowed]
  rfl

end Param

/-- Each placement starts where the decoder stands after those before it. -/
def Chained : Nat → List (Placement conv) → Prop
  | _, [] => True
  | last, placement :: placements =>
    placement.StartsAt last ∧ Chained placement.stop placements

theorem Chained.append {first second : List (Placement conv)} {last : Nat}
    (fixed : ∀ placement ∈ first, ∀ last, placement.StartsAt last)
    (chained : Chained ((first.getLast?.map Placement.stop).getD last) second) :
    Chained last (first ++ second) := by
  induction first generalizing last with
  | nil => exact chained
  | cons placement first ih =>
    refine ⟨fixed placement List.mem_cons_self last, ?_⟩
    apply ih fun other mem => fixed other (List.mem_cons_of_mem _ mem)
    rw [List.getLast?_cons] at chained
    cases reached : first.getLast? with
    | none | some other =>
      rw [reached] at chained
      exact chained

/-- What reading the parameters has done to the mapped data. -/
structure Shown (placements : List (Placement conv)) (before after : MappedPayload conv) : Prop where
  others : ∀ name, name ∉ placements.map (·.param.shortName) → after name = before name
  shown : ∀ placement ∈ placements, placement.param.isValue = true →
    ∃ raw : RawContainer conv, after placement.param.shortName = some (.raw raw) ∧
      raw.serializable = .ok (shownValue placement.param.field placement.data)

theorem convertRequestParams_placements {values : ParameterMap} {service : DiagService conv}
    {depth : Nat} {payload : List UInt8} {placements : List (Placement conv)}
    {state : DecodeState conv} (readable : ∀ placement ∈ placements, placement.Readable values payload)
    (shows : state.payload.Shows payload) (inside : state.payload.lastReadBytePos ≤ payload.length)
    (chained : Chained state.payload.lastReadBytePos placements)
    (distinct : (placements.map (·.param.shortName)).Nodup) :
    ∃ final, convertRequestParams service (depth + 1) (placements.map (·.param.parameter)) state =
        .ok [] final ∧ Shown placements state.data final.data := by
  have walked : ∃ errors final, Decoder.mapEach (convertRequestParam service (depth + 1))
      (placements.map (·.param.parameter)) state = .ok errors final ∧ errors.reduceOption = [] ∧
      Shown placements state.data final.data := by
    induction placements generalizing state with
    | nil => exact ⟨[], state, rfl, rfl, fun _ _ => rfl, by simp⟩
    | cons placement placements ih =>
      have first := readable placement List.mem_cons_self
      obtain ⟨raw, read, shown⟩ := @convertRequestParam_placement conv values service depth payload
        placement state first shows inside chained.1
      rw [List.map_cons, List.nodup_cons] at distinct
      obtain ⟨errors, final, ran, none, rest⟩ := @ih
        (state.read placement.stop placement.param.shortName (.raw raw))
        (fun other mem => readable other (List.mem_cons_of_mem _ mem))
        ⟨shows.view, shows.len⟩ first.enough chained.2 distinct.2
      refine ⟨Option.none :: errors, final, ?_, none, ?_, ?_⟩
      · rw [List.map_cons, Decoder.mapEach, bind_of_ok read, bind_of_ok ran]
        rfl
      · intro name fresh
        rw [List.map_cons, List.mem_cons, not_or] at fresh
        rw [rest.others name fresh.2]
        exact Function.update_of_ne fresh.1 _ _
      · intro other mem isValue
        obtain rfl | inTail := List.mem_cons.mp mem
        · refine ⟨raw, ?_, shown isValue⟩
          rw [rest.others _ distinct.1]
          exact Function.update_self _ _ _
        · exact rest.shown other inTail isValue
  obtain ⟨errors, final, ran, none, shown⟩ := walked
  refine ⟨final, ?_, shown⟩
  rw [convertRequestParams, bind_of_ok ran, none]
  rfl

/-- No bit belongs to both, and what reaches to the end is behind the other. -/
structure Placement.Apart (first second : Placement conv) : Prop where
  places : first.place.Apart second.place
  behindSecond : first.param.reachesEnd = true → second.stop ≤ first.pos
  behindFirst : second.param.reachesEnd = true → first.stop ≤ second.pos

theorem Placement.Apart.symm {first second : Placement conv} (apart : first.Apart second) :
    second.Apart first :=
  ⟨apart.places.symm, apart.behindFirst, apart.behindSecond⟩

/-- The data of the parameter are of the field, and can be read back. -/
structure Placement.Regular (placement : Placement conv) : Prop where
  valid : placement.param.field.Valid placement.param.bit placement.data
  keeps : placement.param.field.Keeps placement.param.bit placement.data

section Apart

variable {values : ParameterMap} {first second : Placement conv} {param other : RequestParam conv}
  {params : List (RequestParam conv)} {placement : Placement conv}

theorem Placement.Regular.stop_place (regular : placement.Regular) :
    placement.place.stop = placement.stop :=
  PlainField.stop_place regular.valid regular.keeps placement.pos

theorem Placement.apart_of_stop_le (regular : first.Regular)
    (standard : first.param.reachesEnd = false) (behind : first.stop ≤ second.pos) :
    first.Apart second := by
  refine ⟨Place.apart_of_bytes (.inl ?_), ?_, fun _ => behind⟩
  · rw [regular.stop_place]
    exact behind
  · intro toEnd
    rw [standard] at toEnd
    cases toEnd

theorem bitLen_of_standard (standard : param.reachesEnd = false) (data : List UInt8) :
    param.field.bitLen data = param.field.bitLen [] := by
  obtain ⟨_, _, _, _, ⟨length, _, _⟩, _⟩ := param
  cases length with
  | number bitLength => rfl
  | bytes bitLength => rfl
  | toEnd minLength maxLength => cases standard

theorem apart_placed (apart : param.Apart other) (regular : (param.placed values).Regular)
    (otherRegular : (other.placed values).Regular) :
    (param.placed values).Apart (other.placed values) := by
  rw [RequestParam.Apart] at apart
  cases paramEnd : param.reachesEnd with
  | false =>
    have stop : (param.placed values).stop = param.stop := RequestLayout.stop_placed paramEnd
    cases otherEnd : other.reachesEnd with
    | false =>
      rw [paramEnd, otherEnd] at apart
      refine ⟨?_, fun toEnd => ?_, fun toEnd => ?_⟩
      · simp only [Placement.place, PlainField.place, RequestParam.placed,
          bitLen_of_standard paramEnd (param.data values),
          bitLen_of_standard otherEnd (other.data values)]
        exact apart
      · cases paramEnd.symm.trans toEnd
      · cases otherEnd.symm.trans toEnd
    | true =>
      rw [paramEnd, otherEnd] at apart
      exact Placement.apart_of_stop_le regular paramEnd (stop.trans_le apart)
  | true =>
    cases otherEnd : other.reachesEnd with
    | false =>
      have stop : (other.placed values).stop = other.stop := RequestLayout.stop_placed otherEnd
      rw [paramEnd, otherEnd] at apart
      exact (Placement.apart_of_stop_le otherRegular otherEnd (stop.trans_le apart)).symm
    | true =>
      rw [paramEnd, otherEnd] at apart
      cases apart

theorem of_mem_placedFrom {start : Nat} (mem : placement ∈ placedFrom values start params) :
    placement.param ∈ params ∧ start ≤ placement.pos := by
  induction params generalizing start with
  | nil => cases mem
  | cons param params ih =>
    obtain rfl | inTail := List.mem_cons.mp mem
    · exact ⟨List.mem_cons_self, Nat.le_refl _⟩
    · obtain ⟨listed, behind⟩ := ih inTail
      exact ⟨List.mem_cons_of_mem _ listed, (Nat.le_add_right _ _).trans behind⟩

theorem pairwise_placedFrom {start : Nat}
    (regular : ∀ placement ∈ placedFrom values start params, placement.Regular)
    (standard : ∀ param ∈ params.dropLast, param.reachesEnd = false) :
    (placedFrom values start params).Pairwise Placement.Apart := by
  induction params generalizing start with
  | nil => exact .nil
  | cons param params ih =>
    rw [placedFrom, List.pairwise_cons]
    constructor
    · intro other mem
      obtain ⟨listed, behind⟩ := of_mem_placedFrom mem
      have notLast : param ∈ (param :: params).dropLast := by
        cases params with
        | nil => cases listed
        | cons next params => exact List.mem_cons_self
      exact Placement.apart_of_stop_le (regular _ List.mem_cons_self) (standard param notLast)
        behind
    · apply ih
      · exact fun other mem => regular other (List.mem_cons_of_mem _ mem)
      · intro other mem
        apply standard other
        cases params with
        | nil => cases mem
        | cons next params => exact List.mem_cons_of_mem _ mem

theorem chained_placedFrom (start : Nat)
    (unpositioned : ∀ param ∈ params, param.isValue = true ∧ param.bytePos = none) :
    Chained start (placedFrom values start params) := by
  induction params generalizing start with
  | nil => exact True.intro
  | cons param params ih =>
    refine ⟨(if_pos (unpositioned param List.mem_cons_self)).symm, ?_⟩
    exact ih _ fun other mem =>
      unpositioned other (List.mem_cons_of_mem _ mem)

theorem map_param_placedFrom (start : Nat) (params : List (RequestParam conv)) :
    (placedFrom values start params).map Placement.param = params := by
  induction params generalizing start with
  | nil => rfl
  | cons param params ih =>
    rw [placedFrom, List.map_cons, ih]

end Apart

namespace RequestLayout

variable {layout : RequestLayout conv} {values : ParameterMap} {strict : Bool}
  {encodeDepth depth : Nat} {service : DiagService conv} {payload : List UInt8}
  {placement : Placement conv}

theorem map_param_placements (layout : RequestLayout conv) (values : ParameterMap) :
    (layout.placements values).map Placement.param = layout.params := by
  rw [placements, List.map_append, List.map_map, map_param_placedFrom, params]
  congr 1
  exact List.map_id _

theorem mem_params (mem : placement ∈ layout.placements values) :
    placement.param ∈ layout.params := by
  rw [← layout.map_param_placements values]
  exact List.mem_map_of_mem mem

theorem pairwise_placements (listedLast : layout.ListedLast)
    (regular : ∀ placement ∈ layout.placements values, placement.Regular) :
    (layout.placements values).Pairwise Placement.Apart := by
  have regularFront : ∀ param ∈ layout.front, (param.placed values).Regular := fun param mem =>
    regular _ (List.mem_append_left _ (List.mem_map_of_mem mem))
  rw [placements, List.pairwise_append]
  refine ⟨?_, ?_, ?_⟩
  · rw [List.pairwise_map]
    exact layout.apart.imp_of_mem fun first second apart =>
      apart_placed apart (regularFront _ first) (regularFront _ second)
  · exact pairwise_placedFrom (fun other mem => regular other (List.mem_append_right _ mem))
      layout.tailToEnd
  · intro first mem second inTail
    obtain ⟨param, inFront, rfl⟩ := List.mem_map.mp mem
    obtain ⟨listed, behind⟩ := of_mem_placedFrom inTail
    have some : layout.tail ≠ [] := List.ne_nil_of_mem listed
    have standard := front_standard some inFront
    apply Placement.apart_of_stop_le (regularFront param inFront) standard
    refine Nat.le_trans ?_ behind
    rw [stop_placed standard, frontEnd]
    cases last : layout.front.getLast? with
    | none =>
      rw [List.getLast?_eq_none_iff.mp last] at inFront
      cases inFront
    | some listedLastParam => exact listedLast some listedLastParam last param inFront

theorem chained_placements (layout : RequestLayout conv) (values : ParameterMap) :
    Chained 0 (layout.placements values) := by
  apply Chained.append
  · intro placement mem last
    obtain ⟨param, inFront, rfl⟩ := List.mem_map.mp mem
    refine (if_neg ?_).symm
    rintro ⟨isValue, none⟩
    have positioned := layout.positioned param inFront isValue
    change param.bytePos = Option.none at none
    rw [none] at positioned
    cases positioned
  · by_cases none : layout.tail = []
    · rw [none]
      exact True.intro
    · have ends : ((layout.front.map (·.placed values)).getLast?.map Placement.stop).getD 0 =
          layout.frontEnd := by
        rw [List.getLast?_map, Option.map_map, frontEnd]
        cases last : layout.front.getLast? with
        | none => rfl
        | some listed =>
          exact stop_placed (front_standard none (List.mem_of_getLast? last))
      rw [ends]
      exact chained_placedFrom _ layout.unpositioned

theorem stop_eq_length (apart : (layout.placements values).Pairwise Placement.Apart)
    (written : Written values (layout.placements values) [] payload)
    (mem : placement ∈ layout.placements values) (toEnd : placement.param.reachesEnd = true) :
    placement.stop = payload.length := by
  apply Nat.le_antisymm (written.filled placement mem)
  apply written.bounded _ (Nat.zero_le _)
  intro other otherMember
  obtain rfl | apart := eq_or_of_pairwise (fun _ _ => Placement.Apart.symm) apart mem otherMember
  · exact Nat.le_refl _
  · exact (apart.behindSecond toEnd).trans (Nat.le_add_right _ _)

theorem readable_of_written (listedLast : layout.ListedLast)
    (keeps : KeepsData values layout.params)
    (alike : ∀ param ∈ layout.params, param.kind.ReadsAlike param.field.base)
    (written : Written values (layout.placements values) [] payload)
    (mem : placement ∈ layout.placements values) : placement.Readable values payload := by
  have regular : ∀ placement ∈ layout.placements values, placement.Regular := by
    intro placement mem
    exact ⟨written.valid placement mem, keeps placement.param (mem_params mem) _
      (written.supplied placement mem)⟩
  have apart := pairwise_placements listedLast regular
  have places : ((layout.placements values).map Placement.write).Pairwise fun first second =>
      first.place.Apart second.place := by
    rw [List.pairwise_map]
    exact apart.imp Placement.Apart.places
  have inWrites : placement.write ∈ (layout.placements values).map Placement.write :=
    List.mem_map_of_mem mem
  constructor
  · exact written.supplied placement mem
  · exact alike placement.param (mem_params mem)
  · exact written.valid placement mem
  · exact (regular placement mem).keeps
  · exact written.filled placement mem
  · exact stop_eq_length apart written mem
  · exact written.adds.reads inWrites (others_of_pairwise places inWrites) (Nat.zero_le _)

/-- Every value of a request comes back as it was supplied. -/
theorem convertRequestFromUds_createUdsPayload
    (request : service.request = some ⟨some layout.parameters⟩) (listedLast : layout.ListedLast)
    (keeps : KeepsData values layout.params)
    (alike : ∀ param ∈ layout.params, param.kind.ReadsAlike param.field.base)
    (created : createUdsPayload strict encodeDepth layout.parameters
      (some (.parameterMap values)) = .ok payload) :
    ∃ data, convertRequestFromUds service (depth + 1) payload = .ok ⟨data, []⟩ ∧
      ∀ param ∈ layout.params, param.isValue = true →
        ∃ (bytes : List UInt8) (raw : RawContainer conv), param.supplied values = .ok bytes ∧
          data param.shortName = some (.raw raw) ∧
          raw.serializable = .ok (shownValue param.field bytes) := by
  have written := written_of_createUdsPayload keeps listedLast created
  have names : (layout.placements values).map (·.param.shortName) =
      layout.params.map RequestParam.shortName := by
    rw [← layout.map_param_placements values, List.map_map]
    rfl
  have parameters : (layout.placements values).map (·.param.parameter) = layout.parameters := by
    rw [RequestLayout.parameters, ← layout.map_param_placements values, List.map_map]
    rfl
  have shows : (DecodeState.new payload : DecodeState conv).payload.Shows payload := by
    refine ⟨?_, rfl⟩
    simp [DecodeState.new, Payload.new, Payload.view, Payload.pos, slice?]
  obtain ⟨final, converted, shown⟩ := @convertRequestParams_placements conv values service depth
    payload (layout.placements values) (.new payload)
    (fun placement => readable_of_written listedLast keeps alike written) shows (Nat.zero_le _)
    (layout.chained_placements values) (by rw [names]; exact layout.distinct)
  rw [parameters] at converted
  refine ⟨final.data, ?_, ?_⟩
  · simp only [convertRequestFromUds, request, Option.getD_some, converted]
  · intro param mem isValue
    rw [← layout.map_param_placements values] at mem
    obtain ⟨placement, inRequest, rfl⟩ := List.mem_map.mp mem
    obtain ⟨raw, found, value⟩ := shown.shown placement inRequest isValue
    exact ⟨placement.data, raw, written.supplied placement inRequest, found, value⟩

end RequestLayout

namespace IntegerDatabase

def fieldParam (name : String) (bytePos bitPos : Option Nat) (length : FieldLength) :
    RequestParam integerConversions :=
  ⟨name.toList, none, bytePos, bitPos, ⟨length, false, true⟩, .value none () rfl none⟩

def serviceId : RequestParam integerConversions :=
  ⟨"sid".toList, none, some 0, none, ⟨.number 8, false, true⟩, .const "46".toList⟩

/-- Two numbers that share a byte, around the service id, and bytes up to the end. -/
def nibblesAndBytes : RequestLayout integerConversions where
  front := [fieldParam "high" (some 1) (some 4) (.number 4), serviceId,
    fieldParam "low" (some 1) none (.number 4)]
  tail := [fieldParam "rest" none none (.toEnd 1 none)]
  positioned := by decide
  unpositioned := by
    intro param member
    rw [List.mem_singleton.mp member]
    decide
  distinct := by decide
  apart := by
    have behind : ∀ (bitPos : Option Nat) (name : String), RequestParam.Apart serviceId
        (fieldParam name (some 1) bitPos (.number 4)) := fun _ _ =>
      Place.apart_of_bytes (.inl (Nat.le_refl _))
    refine .cons ?_ (.cons ?_ (.cons (by simp) .nil))
    · intro other member
      simp only [List.mem_cons, List.not_mem_nil, or_false] at member
      obtain rfl | rfl := member
      · exact (behind _ _).symm
      · intro i j high low same
        have offsets : (4 + i) % 8 = (0 + j) % 8 := congrArg Prod.snd same
        change i < 4 at high
        change j < 4 at low
        omega
    · intro other member
      rw [List.mem_singleton.mp member]
      exact behind _ _
  frontToEnd := by decide
  tailToEnd := by decide

def nibblesAndBytesValues : ParameterMap :=
  ((AList.singleton "high".toList (.number (.posInt 10))).insert "low".toList
    (.number (.posInt 5))).insert "rest".toList (.string "CAFE".toList)

theorem nibblesAndBytes_comeBack : ∃ data,
    convertRequestFromUds ⟨some ⟨some nibblesAndBytes.parameters⟩⟩ 1 [0x2e, 0xa5, 0xca, 0xfe] =
        .ok ⟨data, []⟩ ∧
      ∀ param ∈ nibblesAndBytes.params, param.isValue = true →
        ∃ (bytes : List UInt8) (raw : RawContainer integerConversions),
          param.supplied nibblesAndBytesValues = .ok bytes ∧
          data param.shortName = some (.raw raw) ∧
          raw.serializable = .ok (shownValue param.field bytes) := by
  apply @RequestLayout.convertRequestFromUds_createUdsPayload integerConversions nibblesAndBytes
    nibblesAndBytesValues true 1 0 _ _ rfl
  · intro _ last listed param mem
    obtain rfl : fieldParam "low" (some 1) none (.number 4) = last := Option.some.inj listed
    simp only [nibblesAndBytes, List.mem_cons, List.not_mem_nil, or_false] at mem
    obtain rfl | rfl | rfl := mem <;> decide
  · intro param mem data supplied
    simp only [RequestLayout.params, nibblesAndBytes, List.cons_append, List.nil_append,
      List.mem_cons, List.not_mem_nil, or_false] at mem
    obtain rfl | rfl | rfl | rfl := mem
    · have ten : RequestParam.supplied (fieldParam "high" (some 1) (some 4) (.number 4))
          nibblesAndBytesValues = .ok [0, 0, 0, 10] := by decide +kernel
      cases ten.symm.trans supplied
      exact ⟨by decide, by decide, by decide⟩
    · have code : RequestParam.supplied serviceId nibblesAndBytesValues = .ok [0, 0, 0, 46] := by
        decide +kernel
      cases code.symm.trans supplied
      exact ⟨by decide, by decide, by decide⟩
    · have five : RequestParam.supplied (fieldParam "low" (some 1) none (.number 4))
          nibblesAndBytesValues = .ok [0, 0, 0, 5] := by decide +kernel
      cases five.symm.trans supplied
      exact ⟨by decide, by decide, by decide⟩
    · have bytes : RequestParam.supplied (fieldParam "rest" none none (.toEnd 1 none))
          nibblesAndBytesValues = .ok [0xca, 0xfe] := by decide +kernel
      cases bytes.symm.trans supplied
      exact ⟨by decide, by simp⟩
  · intro param mem
    simp only [RequestLayout.params, nibblesAndBytes, List.cons_append, List.nil_append,
      List.mem_cons, List.not_mem_nil, or_false] at mem
    obtain rfl | rfl | rfl | rfl := mem
    · exact True.intro
    · exact rfl
    · exact True.intro
    · exact True.intro
  · decide +kernel

def readBack (params : List (Parameter integerConversions)) (payload : List UInt8) (name : String) :
    Except DiagServiceError (Option DiagDataValue) := do
  let response ← convertRequestFromUds ⟨some ⟨some params⟩⟩ 1 payload
  match response.data name.toList with
  | some (.raw raw) => some <$> raw.serializable
  | _ => return none

def withoutCompuMethod : Parameter integerConversions :=
  ⟨.ok .value, some "v".toList, none, some 0, none,
    .value none (some (.normal ⟨.ok (number 8), none, none⟩))⟩

def createdPayload (params : List (RequestParam integerConversions)) (values : ParameterMap) :
    Except DiagServiceError (List UInt8) :=
  createUdsPayload true 1 (params.map RequestParam.parameter) (some (.parameterMap values))

def trailing : List (RequestParam integerConversions) :=
  [fieldParam "b" (some 1) none (.number 8), fieldParam "a" (some 0) none (.number 8),
    fieldParam "c" none none (.number 8)]

/-- The decoder requires a compu method, a byte field comes back filled up to its length, the
limits of a byte field up to the end are not looked at by the encoder, and a trailing value
is read behind the parameter listed before it. -/
theorem requests_not_comeBack : (createUdsPayload true 1 [withoutCompuMethod]
        (some (.parameterMap (AList.singleton "v".toList (.number (.posInt 7))))) = .ok [7] ∧
      readBack [withoutCompuMethod] [7] "v" =
        .error (.invalidDatabase "param v has no compu method")) ∧
    (createdPayload [fieldParam "v" (some 0) none (.bytes 32)]
        (AList.singleton "v".toList (.string "AABB".toList)) = .ok [0xaa, 0xbb, 0, 0] ∧
      readBack [(fieldParam "v" (some 0) none (.bytes 32)).parameter] [0xaa, 0xbb, 0, 0] "v" =
        .ok (some (.byteField [0xaa, 0xbb, 0, 0]))) ∧
    (createdPayload [fieldParam "v" (some 0) none (.toEnd 2 none)]
        (AList.singleton "v".toList (.string "AA".toList)) = .ok [0xaa] ∧
      readBack [(fieldParam "v" (some 0) none (.toEnd 2 none)).parameter] [0xaa] "v" =
        .error (.notEnoughData 2 1)) ∧
    createdPayload trailing (((AList.singleton "a".toList (.number (.posInt 1))).insert "b".toList
        (.number (.posInt 2))).insert "c".toList (.number (.posInt 3))) = .ok [1, 2, 3] ∧
      readBack (trailing.map RequestParam.parameter) [1, 2, 3] "c" = .ok (some (.uint32 2)) := by
  decide +kernel

end IntegerDatabase

end DiagnosticAdapter.Kernel
