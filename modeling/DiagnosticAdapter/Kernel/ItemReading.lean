import DiagnosticAdapter.Kernel.ItemLayout

/-!
# Reading structures of numbers

What `map_struct_from_uds` does with the parameters of such a structure: it maps every
number of a view that is long enough, and runs out of data in a shorter one.
-/

namespace DiagnosticAdapter.Kernel

open Bits Codec Effects

variable {conv : Conversions} {service : DiagService conv} {depth : Nat} {bytes : List UInt8}
  {state : DecodeState conv} {ctx : ParamContext conv}

theorem mapParamFromUds_number {param : NumberParam conv} (parameter : ctx.parameter = param.parameter)
    (offset : ctx.baseOffset = 0) :
    mapParamFromUds service (depth + 1) param.shortName ctx =
      (extractDiagDataContainer param.bytePos (param.bitPos.getD 0) param.dop.diagCodedType
        (some param.dop.compuMethod) >>= fun raw =>
          Decoder.insertMapped param.shortName (.raw raw)) := by
  obtain ⟨_, base, outer⟩ := ctx
  cases parameter
  cases offset
  have position : (ParamContext.mk param.parameter 0 outer).absBytePos = param.bytePos :=
    Nat.zero_add _
  conv_rhs => rw [← position]
  rfl

theorem mapParamFromUds_reserved {param : ReservedParam} (parameter : ctx.parameter = param.parameter)
    (offset : ctx.baseOffset = 0) :
    mapParamFromUds service (depth + 1) param.shortName ctx =
      (Decoder.view >>= fun bytes => Decoder.ofExcept ((reservedCodedType param.bitLength).decode bytes
        param.bytePos (param.bitPos.getD 0)) >>= fun read =>
          Decoder.insertMapped param.shortName
            (.raw ⟨read.1, read.2, reservedParamDataType param.bitLength, none⟩)) := by
  obtain ⟨_, base, outer⟩ := ctx
  cases parameter
  cases offset
  have position : (ParamContext.mk param.parameter 0 outer).absBytePos = param.bytePos :=
    Nat.zero_add _
  conv_rhs => rw [← position]
  rfl

def ReadsNumbers (params : List (ItemParam conv)) (members : List (Text × JsonValue))
    (bytes : List UInt8) : Prop :=
  ∀ param ∈ numbersOf params, ∃ number, param.supplied members = .ok number ∧
    param.dop.Keeps number ∧ param.place.Reads bytes number

theorem HoldsNumbers.view {params : List (ItemParam conv)} {members : List (Text × JsonValue)}
    {payload : List UInt8} {start count : Nat} (held : HoldsNumbers params members payload start)
    (fits : ∀ param ∈ params, param.Fits) (inside : ∀ param ∈ numbersOf params, param.stop ≤ count) :
    ReadsNumbers params members ((payload.drop start).take count) := by
  intro param mem
  obtain ⟨number, supplied, keeps, reads⟩ := held param mem
  refine ⟨number, supplied, keeps, reads.of_shift ?_⟩
  rw [NumberParam.place_stop (fits _ (mem_numbersOf.mp mem))]
  exact inside param mem

def SameNumbers (params : List (ItemParam conv)) (members : List (Text × JsonValue))
    (item : MappedPayload conv) : Prop :=
  ∀ param ∈ numbersOf params, ∃ number raw, param.supplied members = .ok number ∧
    item param.shortName = some (.raw raw) ∧ raw.serializable = .ok (.uint32 number)

/-- The state with another read position and one more container. -/
def DecodeState.read (state : DecodeState conv) (pos : Nat) (name : Text)
    (container : Container conv) : DecodeState conv :=
  { state with
    payload := { state.payload with lastReadBytePos := pos }
    data := state.data.insert name container }

section Param

theorem setLastReadBytePos_of_le {payload : Payload} {pos : Nat} (shows : payload.Shows bytes)
    (enough : pos ≤ bytes.length) :
    payload.setLastReadBytePos pos = { payload with lastReadBytePos := pos } := by
  rw [Payload.setLastReadBytePos, if_neg (by rw [shows.len]; omega)]

theorem view_of_shows (shows : state.payload.Shows bytes) :
    Decoder.view state = .ok bytes state := by
  rw [Decoder.view, shows.view]
  rfl

theorem read_number {param : NumberParam conv} {number : Nat}
    (parameter : ctx.parameter = param.parameter) (offset : ctx.baseOffset = 0)
    (shows : state.payload.Shows bytes)
    (valid : 1 ≤ param.dop.bitLength ∧ param.dop.bitLength ≤ 32) (fits : param.Fits)
    (enough : param.stop ≤ bytes.length) (small : number < 2 ^ param.dop.bitLength)
    (reads : param.place.Reads bytes number) :
    ∃ raw : RawContainer conv, raw.serializable = .ok (.uint32 number) ∧
      mapParamFromUds service (depth + 1) param.shortName ctx state =
        .ok () (state.read param.stop param.shortName (.raw raw)) := by
  obtain ⟨data, extracted, length, same⟩ := @NumberDop.extract_of_reads conv param.dop bytes
    param.bytePos (param.bitPos.getD 0) state number shows ⟨valid.1, by omega⟩ fits enough small reads
  have moved := setLastReadBytePos_of_le shows enough
  refine ⟨param.dop.container data, ?_, ?_⟩
  · rw [NumberDop.serializable_container, same] <;>
      simp only [length, byteLen] <;>
      omega
  · rw [NumberParam.stop] at moved
    rw [mapParamFromUds_number parameter offset, bind_of_ok extracted, moved]
    rfl

theorem read_reserved {param : ReservedParam} (parameter : ctx.parameter = param.parameter)
    (offset : ctx.baseOffset = 0) (shows : state.payload.Shows bytes) (valid : param.Valid)
    (fits : param.Fits) (enough : param.stop ≤ bytes.length) :
    ∃ container, mapParamFromUds service (depth + 1) param.shortName ctx state =
      .ok () (state.read state.payload.lastReadBytePos param.shortName container) := by
  have position : param.bitPos.getD 0 ≤ 7 := by
    simp only [ReservedParam.Fits, byteLen] at fits
    omega
  obtain ⟨data, decoded, _⟩ := DiagCodedType.decode_reads
    (reservedCodedType_byteOrder param.bitLength) rfl rfl position valid.1 valid.2
    (positive_of_validateBitLen valid.2) fits enough
  refine ⟨.raw ⟨data, param.bitLength, reservedParamDataType param.bitLength, none⟩, ?_⟩
  rw [mapParamFromUds_reserved parameter offset, bind_of_ok (view_of_shows shows), decoded]
  rfl

theorem read_short {param : ItemParam conv} (parameter : ctx.parameter = param.parameter)
    (offset : ctx.baseOffset = 0) (shows : state.payload.Shows bytes) (valid : param.Valid)
    (short : bytes.length < param.stop) :
    mapParamFromUds service (depth + 1) param.shortName ctx state =
      .error ⟨.notEnoughData param.stop bytes.length, 0⟩ state := by
  cases param with
  | value param =>
    have failed := @NumberDop.extract_of_short conv param.dop bytes param.bytePos
      (param.bitPos.getD 0) state shows valid short
    have mapped := @mapParamFromUds_number conv service depth ctx param parameter offset
    exact (congrFun mapped state).trans (bind_of_error failed)
  | reserved param =>
    have failed := DiagCodedType.decode_of_short rfl valid.1 valid.2
      (positive_of_validateBitLen valid.2) short
    have mapped := @mapParamFromUds_reserved conv service depth ctx param parameter offset
    refine (congrFun mapped state).trans ?_
    rw [bind_of_ok (view_of_shows shows), failed]
    rfl

end Param

section Params

variable {outer : MappedPayload conv}

/-- One round of the parameter loop of `map_struct_from_uds`. -/
def readItemParam (service : DiagService conv) (depth : Nat) (outer : MappedPayload conv)
    (param : ItemParam conv) : Decoder conv Unit :=
  mapParamFromUds service depth param.shortName
    ((ParamContext.new param.parameter 0).withOuterContext (some outer))

/-- The condition on a structure under which its numbers are read. -/
structure Readable (params : List (ItemParam conv)) : Prop where
  valid : ∀ param ∈ params, param.Valid
  fits : ∀ param ∈ params, param.Fits
  narrow : ∀ param ∈ numbersOf params, param.dop.bitLength ≤ 32

theorem Readable.mono {first second : List (ItemParam conv)} (readable : Readable second)
    (subset : first ⊆ second) : Readable first := by
  constructor
  · intro param mem
    exact readable.valid param (subset mem)
  · intro param mem
    exact readable.fits param (subset mem)
  · intro param mem
    exact readable.narrow param (mem_numbersOf.mpr (subset (mem_numbersOf.mp mem)))

theorem ReadsNumbers.mono {first second : List (ItemParam conv)} {members : List (Text × JsonValue)}
    (reads : ReadsNumbers second members bytes) (subset : first ⊆ second) :
    ReadsNumbers first members bytes := by
  intro param mem
  exact reads param (mem_numbersOf.mpr (subset (mem_numbersOf.mp mem)))

theorem exists_reads (place : Place) (bytes : List UInt8) :
    ∃ number, number < 2 ^ place.bitLen ∧ place.Reads bytes number := by
  refine ⟨Nat.ofBits fun i : Fin place.bitLen => holds bytes (place.cell i), Nat.ofBits_lt_two_pow _,
    ?_⟩
  intro i inField
  rw [Nat.testBit_ofBits_lt _ i inField]

theorem read_param {param : ItemParam conv} (shows : state.payload.Shows bytes)
    (readable : Readable [param]) (enough : param.stop ≤ bytes.length) :
    ∃ container, readItemParam service (depth + 1) outer param state =
        .ok () (state.read (param.readPos state.payload.lastReadBytePos) param.shortName container) ∧
      ∀ members, ReadsNumbers [param] members bytes →
        ∀ number ∈ param.number?, ∃ value raw, number.supplied members = .ok value ∧
          container = .raw raw ∧ raw.serializable = .ok (.uint32 value) := by
  have valid := readable.valid param List.mem_cons_self
  have fits := readable.fits param List.mem_cons_self
  cases param with
  | value param =>
    have width : 1 ≤ param.dop.bitLength ∧ param.dop.bitLength ≤ 32 :=
      ⟨valid.1, readable.narrow param List.mem_cons_self⟩
    obtain ⟨number, small, reads⟩ := exists_reads param.place bytes
    obtain ⟨raw, shown, read⟩ := @read_number conv service depth bytes state
      ((ParamContext.new param.parameter 0).withOuterContext (some outer)) param number rfl rfl
      shows width fits enough small reads
    refine ⟨.raw raw, read, ?_⟩
    intro members holdsNumbers other same
    cases same
    obtain ⟨value, supplied, keeps, valueReads⟩ := holdsNumbers param List.mem_cons_self
    have equal : number = value := by
      apply Nat.eq_of_testBit_eq
      intro i
      by_cases inField : i < param.dop.bitLength
      · exact (reads i inField).symm.trans (valueReads i inField)
      · have above := Nat.pow_le_pow_right (show 0 < 2 by decide) (Nat.le_of_not_lt inField)
        rw [Nat.testBit_lt_two_pow (small.trans_le above),
          Nat.testBit_lt_two_pow (keeps.1.trans_le above)]
    rw [← equal] at supplied
    exact ⟨number, raw, supplied, rfl, shown⟩
  | reserved param =>
    obtain ⟨container, read⟩ := @read_reserved conv service depth bytes state
      ((ParamContext.new param.parameter 0).withOuterContext (some outer)) param rfl rfl shows
      valid fits enough
    refine ⟨container, read, ?_⟩
    intro members _ number none
    cases none

structure ParamsRead (params : List (ItemParam conv)) (state final : DecodeState conv) : Prop where
  payload : final.payload = { state.payload with
    lastReadBytePos := params.foldl ItemParam.readPos state.payload.lastReadBytePos }
  history : final.history = state.history
  others : ∀ name, name ∉ params.map ItemParam.shortName → final.data name = state.data name

theorem read_params {params : List (ItemParam conv)} (shows : state.payload.Shows bytes)
    (readable : Readable params) (enough : ∀ param ∈ params, param.stop ≤ bytes.length)
    (distinct : (params.map ItemParam.shortName).Nodup) :
    ∃ units final, Decoder.mapEach (readItemParam service (depth + 1) outer) params state =
        .ok units final ∧ ParamsRead params state final ∧
      ∀ members, ReadsNumbers params members bytes → SameNumbers params members final.data := by
  induction params generalizing state with
  | nil =>
    refine ⟨[], state, rfl, ⟨rfl, rfl, fun _ _ => rfl⟩, ?_⟩
    intro members _ number mem
    cases mem
  | cons param params ih =>
    obtain ⟨container, read, shown⟩ := @read_param conv service depth bytes state outer param shows
      (readable.mono (by simp)) (enough param List.mem_cons_self)
    rw [List.map_cons, List.nodup_cons] at distinct
    obtain ⟨units, final, ran, effect, rest⟩ := @ih
      (state.read (param.readPos state.payload.lastReadBytePos) param.shortName container)
      ⟨shows.view, shows.len⟩ (readable.mono (List.subset_cons_self _ _))
      (fun other mem => enough other (List.mem_cons_of_mem _ mem)) distinct.2
    refine ⟨() :: units, final, ?_, ⟨effect.payload, effect.history, ?_⟩, ?_⟩
    · rw [Decoder.mapEach, bind_of_ok read, bind_of_ok ran]
      rfl
    · intro name fresh
      rw [List.map_cons, List.mem_cons, not_or] at fresh
      rw [effect.others name fresh.2]
      exact Function.update_of_ne fresh.1 _ _
    · intro members reads number mem
      obtain same | inTail := List.mem_cons.mp (mem_numbersOf.mp mem)
      · obtain ⟨value, raw, supplied, rfl, serializable⟩ :=
          shown members (reads.mono (by simp)) number (by rw [← same]; rfl)
        refine ⟨value, raw, supplied, ?_, serializable⟩
        have name : number.shortName = param.shortName := by rw [← same]; rfl
        rw [name, effect.others _ distinct.1]
        exact Function.update_self _ _ _
      · exact rest members (reads.mono (List.subset_cons_self _ _)) number
          (mem_numbersOf.mpr inTail)

theorem read_params_of_short {params : List (ItemParam conv)} (shows : state.payload.Shows bytes)
    (readable : Readable params) (short : ∃ param ∈ params, bytes.length < param.stop) :
    ∃ failure final pos, Decoder.mapEach (readItemParam service (depth + 1) outer) params state =
        .error failure final ∧ isNotEnoughData failure.error = true ∧
      final.payload = { state.payload with lastReadBytePos := pos } := by
  induction params generalizing state with
  | nil =>
    obtain ⟨param, mem, _⟩ := short
    cases mem
  | cons param params ih =>
    by_cases fitting : param.stop ≤ bytes.length
    · obtain ⟨container, read, _⟩ := @read_param conv service depth bytes state outer param shows
        (readable.mono (by simp)) fitting
      obtain ⟨failure, final, pos, ran, kind, reached⟩ := @ih
        (state.read (param.readPos state.payload.lastReadBytePos) param.shortName container)
        ⟨shows.view, shows.len⟩ (readable.mono (List.subset_cons_self _ _)) (by
          obtain ⟨other, mem, beyond⟩ := short
          obtain rfl | inTail := List.mem_cons.mp mem
          · omega
          · exact ⟨other, inTail, beyond⟩)
      refine ⟨failure, final, pos, ?_, kind, reached⟩
      rw [Decoder.mapEach, bind_of_ok read, bind_of_error ran]
    · have failed := @read_short conv service depth bytes state
        ((ParamContext.new param.parameter 0).withOuterContext (some outer)) param rfl rfl shows
        (readable.valid param List.mem_cons_self) (Nat.lt_of_not_le fitting)
      refine ⟨⟨.notEnoughData param.stop bytes.length, 0⟩, state, state.payload.lastReadBytePos, ?_,
        rfl, rfl⟩
      rw [Decoder.mapEach]
      exact bind_of_error failed

theorem mapEach_map {α β : Type} (body : β → Decoder conv Unit) (parameter : α → β)
    (items : List α) :
    Decoder.mapEach body (items.map parameter) =
      Decoder.mapEach (fun item => body (parameter item)) items := by
  induction items with
  | nil => rfl
  | cons item items ih =>
    rw [List.map_cons, Decoder.mapEach, Decoder.mapEach, ih]

theorem mapStructFromUds_eq (params : List (ItemParam conv)) (byteSize : Option Nat) :
    mapStructFromUds (mapParamFromUds service depth) ⟨some (params.map ItemParam.parameter), byteSize⟩
        outer =
      Decoder.onFreshData (Decoder.forEach (readItemParam service depth outer) params) := by
  have named : ∀ param : ItemParam conv, param.parameter.shortName = some param.shortName := by
    intro param
    cases param <;> rfl
  simp only [mapStructFromUds, Decoder.forEach, mapEach_map, named, Decoder.orFail, pure_bind]
  rfl

theorem mapStructFromUds_reads {params : List (ItemParam conv)} (byteSize : Option Nat)
    (shows : state.payload.Shows bytes) (readable : Readable params)
    (enough : ∀ param ∈ params, param.stop ≤ bytes.length)
    (distinct : (params.map ItemParam.shortName).Nodup) :
    ∃ item, mapStructFromUds (mapParamFromUds service (depth + 1))
        ⟨some (params.map ItemParam.parameter), byteSize⟩ outer state =
          .ok item { state with payload := { state.payload with
            lastReadBytePos := params.foldl ItemParam.readPos state.payload.lastReadBytePos } } ∧
      ∀ members, ReadsNumbers params members bytes → SameNumbers params members item := by
  obtain ⟨units, final, ran, effect, same⟩ := @read_params conv service depth bytes
    { state with data := .empty } outer params shows readable enough distinct
  have looped : Decoder.forEach (readItemParam service (depth + 1) outer) params
      { state with data := .empty } = .ok () final := by
    rw [Decoder.forEach, bind_of_ok ran]
    rfl
  refine ⟨final.data, ?_, same⟩
  rw [mapStructFromUds_eq, Decoder.onFreshData, looped]
  simp only [effect.payload, effect.history]

theorem mapStructFromUds_of_short {params : List (ItemParam conv)} (byteSize : Option Nat)
    (shows : state.payload.Shows bytes) (readable : Readable params)
    (short : ∃ param ∈ params, bytes.length < param.stop) :
    ∃ failure final pos, mapStructFromUds (mapParamFromUds service (depth + 1))
        ⟨some (params.map ItemParam.parameter), byteSize⟩ outer state = .error failure final ∧
      isNotEnoughData failure.error = true ∧
      final.payload = { state.payload with lastReadBytePos := pos } ∧ final.data = state.data := by
  obtain ⟨failure, final, pos, ran, kind, reached⟩ := @read_params_of_short conv service depth bytes
    { state with data := .empty } outer params shows readable short
  have looped : Decoder.forEach (readItemParam service (depth + 1) outer) params
      { state with data := .empty } = .error failure final := by
    rw [Decoder.forEach, bind_of_error ran]
  refine ⟨failure, { final with data := state.data }, pos, ?_, kind, reached, rfl⟩
  rw [mapStructFromUds_eq, Decoder.onFreshData, looped]

end Params

end DiagnosticAdapter.Kernel
