import DiagnosticAdapter.Kernel.MuxRoundTrip
import DiagnosticAdapter.Kernel.StructureLeaves

/-!
# The reported positions of a mux

`expand_mux_cases` reports for the parameters of every case where they lie in the response.
The decoder finds the same parameters through the view of the mux and the view of the case.
-/

namespace DiagnosticAdapter.Kernel

open Bits Codec Effects Decoder

variable {conv : Conversions}

structure CompuScaleInfo where
  shortLabel : Option Text
  lowerLimit : Option Nat
  upperLimit : Option Nat
  compuConstVt : Option Text
  deriving DecidableEq, Repr

inductive ParameterTypeMetadata where
  | codedConst (codedValue : Text)
  | matchingRequestParam (byteLength : Nat)
  | physConst (physConstantValue : Text) (codedValue : Option Nat)
  | value (physicalDefaultValue : Option Text) (codedDefaultValue : Option Nat)
      (compuScales : List CompuScaleInfo)
  deriving DecidableEq, Repr

structure ResponseParameterInfo where
  name : Text
  semantic : Option Text
  paramType : ParameterTypeMetadata
  bytePosition : Nat
  bitPosition : Nat
  byteSize : Option Nat
  deriving DecidableEq, Repr

def checkedAddU32 (a b : Nat) : Option Nat := if a + b < 2 ^ 32 then some (a + b) else none

def byteSizeFromDiagCodedType (dct : Except DiagServiceError DiagCodedType) : Option Nat :=
  (dct.toOption.bind (·.bitLen)).map byteLen

namespace Parameter

variable (param : Parameter conv)

def byteSizeFromValueParam : Option Nat × Bool :=
  match param.specificData with
  | .value _ (some (.normal dop)) => (byteSizeFromDiagCodedType dop.diagCodedType, false)
  | .value _ (some (.mux _)) => (none, true)
  | _ => (none, false)

def byteSizeFromCodedConst : Option Nat :=
  match param.specificData with
  | .codedConst ⟨some diagCodedType, _⟩ => byteSizeFromDiagCodedType diagCodedType
  | _ => none

def asMux : Option (MuxDop conv) :=
  match param.specificData with
  | .value _ (some (.mux muxDop)) => some muxDop
  | _ => none

end Parameter

/-- A switch key whose size is not known counts as empty. -/
def MuxDop.switchKeySize (muxDop : MuxDop conv) : Nat :=
  ((muxDop.switchKey.bind (·.dop)).bind fun dop =>
    match dop with
    | .normal dop => byteSizeFromDiagCodedType dop.diagCodedType
    | _ => none).getD 0

def casePosition (muxBytePosition switchKeySize : Nat) (inner : Parameter conv) : Nat :=
  ((checkedAddU32 muxBytePosition switchKeySize).bind
    (checkedAddU32 · inner.bytePosition)).getD muxBytePosition

section Expand

-- no position depends on the types of the parameters
variable (extractResponseParamType : Parameter conv → ParameterTypeMetadata)

def caseParamInfo (muxBytePosition switchKeySize : Nat) (caseName innerName : Text)
    (inner : Parameter conv) : ResponseParameterInfo where
  name := caseName ++ '/' :: innerName
  semantic := inner.semantic
  paramType := extractResponseParamType inner
  bytePosition := casePosition muxBytePosition switchKeySize inner
  bitPosition := inner.bitPosition
  byteSize :=
    match extractResponseParamType inner with
    | .codedConst _ => inner.byteSizeFromCodedConst
    | .value _ _ _ => inner.byteSizeFromValueParam.1
    | _ => none

def caseMarker (muxBytePosition switchKeySize : Nat) (caseName : Text) (case : Case conv)
    (structDop : StructureDop conv) : ResponseParameterInfo where
  name := "__mux_case__/".toList ++ caseName
  semantic := some "MUX-CASE".toList
  paramType := .codedConst ((case.lowerLimit.map (·.value)).getD [])
  bytePosition := (checkedAddU32 muxBytePosition switchKeySize).getD muxBytePosition
  bitPosition := 0
  byteSize := structDop.byteSize

/-- The named parameters of a case, then its marker. -/
def expandMuxCase (muxBytePosition switchKeySize : Nat) (case : Case conv) :
    List ResponseParameterInfo :=
  match case.structureDop.bind DataOperation.asStructure with
  | none => []
  | some structDop =>
    match structDop.params with
    | none => []
    | some innerParams =>
      let caseName := case.shortName.getD []
      (innerParams.filterMap fun inner => inner.shortName.map fun innerName =>
        caseParamInfo extractResponseParamType muxBytePosition switchKeySize caseName innerName
          inner) ++
      [caseMarker muxBytePosition switchKeySize caseName case structDop]

def expandMuxCases (param : Parameter conv) (muxBytePosition : Nat) :
    List ResponseParameterInfo :=
  match param.asMux with
  | none => []
  | some muxDop =>
    (muxDop.cases.getD []).flatMap
      (expandMuxCase extractResponseParamType muxBytePosition muxDop.switchKeySize)

theorem mem_expandMuxCases {param : Parameter conv} {muxDop : MuxDop conv}
    (isMux : param.asMux = some muxDop) {case : Case conv} {structDop : StructureDop conv}
    (isCase : case ∈ muxDop.cases.getD [])
    (isStruct : case.structureDop.bind DataOperation.asStructure = some structDop)
    {inner : Parameter conv} (mem : inner ∈ structDop.params.getD []) {innerName : Text}
    (named : inner.shortName = some innerName) (muxBytePosition : Nat) :
    caseParamInfo extractResponseParamType muxBytePosition muxDop.switchKeySize
        (case.shortName.getD []) innerName inner ∈
      expandMuxCases extractResponseParamType param muxBytePosition := by
  rw [expandMuxCases, isMux]
  refine List.mem_flatMap.2 ⟨case, isCase, ?_⟩
  cases params : structDop.params with
  | none =>
    rw [params] at mem
    cases mem
  | some innerParams =>
    rw [params] at mem
    simp only [expandMuxCase, isStruct, params]
    exact List.mem_append_left _ (List.mem_filterMap.2 ⟨inner, mem, by rw [named]; rfl⟩)

end Expand

abbrev ParamDecoder (conv : Conversions) := Text → ParamContext conv → Decoder conv Unit

/-- Where the bytes of a parameter start in the whole payload. -/
def fieldStart (paramCtx : ParamContext conv) (state : DecodeState conv) : Nat :=
  state.payload.pos + paramCtx.readPos state.payload.lastReadBytePos

/-- The error of a decoder that is called at another position. -/
def startsElsewhere : DiagServiceError := .panicked "The bytes of the parameter start elsewhere"

/-- The decoder, which is not to be called for a parameter elsewhere. -/
def startingAt (starts : Parameter conv → Nat) (mapParam : ParamDecoder conv) :
    ParamDecoder conv := fun name paramCtx state =>
  if fieldStart paramCtx state = starts paramCtx.parameter then mapParam name paramCtx state
  else fail startsElsewhere state

/-- The decoder of these parameters returns on the views that it was called on. -/
def KeepsViews (params : List (Parameter conv)) (mapParam : ParamDecoder conv) : Prop :=
  ∀ name paramCtx state final, paramCtx.parameter ∈ params →
    mapParam name paramCtx state = .ok () final → final.payload.slices = state.payload.slices

/-- Whatever is made of the bytes of these parameters, they start there. -/
def StartsAt (params : List (Parameter conv)) (starts : Parameter conv → Nat)
    (decoder : ParamDecoder conv → Decoder conv Unit) (state : DecodeState conv) : Prop :=
  ∀ mapParam, KeepsViews params mapParam →
    decoder (startingAt starts mapParam) state = decoder mapParam state

section Congruence

variable {α β : Type} {state : DecodeState conv} {first second : Decoder conv α}

theorem bind_congr_at (next : α → Decoder conv β)
    (same : first state = second state) : (first >>= next) state = (second >>= next) state := by
  change EStateM.bind first next state = EStateM.bind second next state
  rw [EStateM.bind, EStateM.bind, same]

theorem inView_congr {start stop : Nat} {payload : Payload}
    (pushed : state.payload.pushSlice start stop = .ok payload)
    (same : first { state with payload } = second { state with payload }) :
    inView start stop first state = inView start stop second state := by
  rw [inView, inView, bind_of_ok (pushSlice_of_ok pushed), bind_of_ok (pushSlice_of_ok pushed)]
  apply bind_congr_at
  rw [leavingView, leavingView, same]

theorem swallow_congr (ignored : DiagServiceError → Bool) (same : first state = second state) :
    swallow ignored first state = swallow ignored second state := by
  rw [swallow, swallow, same]

end Congruence

def EndsIn {α : Type} (error : DiagServiceError)
    (outcome : EStateM.Result Failure (DecodeState conv) α) : Prop :=
  ∃ failure final, outcome = .error failure final ∧ failure.error = error

section EndsIn

variable {α β : Type} {error : DiagServiceError} {state : DecodeState conv}

theorem not_endsIn_ok (value : α) : ¬EndsIn error (.ok value state) := by
  intro ⟨_, _, failed, _⟩
  cases failed

theorem endsIn_error_iff {failure : Failure} :
    EndsIn error (.error failure state : EStateM.Result Failure (DecodeState conv) α) ↔
      failure.error = error := by
  constructor
  · rintro ⟨_, _, same, isError⟩
    cases same
    exact isError
  · intro isError
    exact ⟨failure, state, rfl, isError⟩

theorem endsIn_bind_iff {first : Decoder conv α} {next : α → Decoder conv β}
    (quiet : ∀ value final, ¬EndsIn error (next value final)) :
    EndsIn error ((first >>= next) state) ↔ EndsIn error (first state) := by
  cases ran : first state with
  | ok value final =>
    rw [bind_of_ok ran]
    exact iff_of_false (quiet value final) (not_endsIn_ok value)
  | error failure final =>
    rw [bind_of_error ran, endsIn_error_iff, endsIn_error_iff]

theorem endsIn_bind_pure_iff {first : Decoder conv α} {result : α → β} :
    EndsIn error ((first >>= fun value => pure (result value)) state) ↔
      EndsIn error (first state) :=
  endsIn_bind_iff fun value _ => not_endsIn_ok (result value)

theorem endsIn_inView_iff {body : Decoder conv α} {start stop : Nat} {payload : Payload}
    (pushed : state.payload.pushSlice start stop = .ok payload)
    (other : error ≠ .badPayload "No restricted view to pop") :
    EndsIn error (inView start stop body state) ↔
      EndsIn error (body { state with payload }) := by
  cases ran : body { state with payload } with
  | error failure final =>
    rw [inView_of_error pushed ran, endsIn_error_iff, endsIn_error_iff]
  | ok value final =>
    rw [inView_of_ok pushed ran]
    apply iff_of_false _ (not_endsIn_ok value)
    by_cases empty : final.payload.slices = []
    · rw [popSlice_of_nil empty, endsIn_error_iff]
      exact fun same => other same.symm
    · rw [popSlice_of_ne_nil empty]
      exact not_endsIn_ok value

theorem endsIn_onFreshData_iff {body : Decoder conv Unit} :
    EndsIn error (onFreshData body state) ↔
      EndsIn error (body { state with data := .empty }) := by
  rw [onFreshData]
  cases body { state with data := .empty } with
  | ok _ final => exact iff_of_false (not_endsIn_ok _) (not_endsIn_ok _)
  | error failure final => rw [endsIn_error_iff, endsIn_error_iff]

end EndsIn

/-- What `map_struct_from_uds` does for a parameter. -/
def structParam (outerContext : MappedPayload conv) (mapParam : ParamDecoder conv)
    (param : Parameter conv) : Decoder conv Unit := do
  let shortName ← orFail param.shortName
    (.invalidDatabase "Unable to find short name for param")
  mapParam shortName ((ParamContext.new param 0).withOuterContext (some outerContext))

theorem mapStructFromUds_of_params {structDop : StructureDop conv}
    {params : List (Parameter conv)} (hasParams : structDop.params = some params)
    (outerContext : MappedPayload conv) (mapParam : ParamDecoder conv) :
    mapStructFromUds mapParam structDop outerContext =
      onFreshData (forEach (structParam outerContext mapParam) params) := by
  rw [mapStructFromUds, hasParams]
  rfl

/-- The parameters up to one without a name, at which the decoder fails. -/
def namedParams (params : List (Parameter conv)) : List (Parameter conv) :=
  params.takeWhile (·.shortName.isSome)

theorem namedParams_cons {param : Parameter conv} {name : Text}
    (named : param.shortName = some name) (params : List (Parameter conv)) :
    namedParams (param :: params) = param :: namedParams params := by
  rw [namedParams, List.takeWhile_cons_of_pos (by rw [named]; rfl)]
  rfl

theorem namedParams_cons_of_none {param : Parameter conv} (unnamed : param.shortName = none)
    (params : List (Parameter conv)) : namedParams (param :: params) = [] := by
  rw [namedParams, List.takeWhile_cons_of_neg (by rw [unnamed]; exact Bool.false_ne_true)]

section StructParam

variable {outerContext : MappedPayload conv} {mapParam : ParamDecoder conv}
  {param : Parameter conv} {name : Text} {starts : Parameter conv → Nat}

theorem structParam_of_named (named : param.shortName = some name) :
    structParam outerContext mapParam param =
      mapParam name ((ParamContext.new param 0).withOuterContext (some outerContext)) := by
  rw [structParam, named]
  rfl

theorem structParam_of_none (unnamed : param.shortName = none) :
    structParam outerContext mapParam param =
      fail (.invalidDatabase "Unable to find short name for param") := by
  rw [structParam, unnamed]
  rfl

def ViewStarts (caseStart : Nat) (state : DecodeState conv) : Prop :=
  ∃ stop, state.payload.slices.getLast? = some (caseStart, stop)

theorem ViewStarts.pos_eq {caseStart : Nat} {state : DecodeState conv}
    (inCase : ViewStarts caseStart state) : state.payload.pos = caseStart := by
  obtain ⟨stop, onTop⟩ := inCase
  rw [Payload.pos, onTop]

theorem ViewStarts.fieldStart_eq {caseStart : Nat} {state : DecodeState conv}
    (inCase : ViewStarts caseStart state) (placed : param.hasBytePosition = true) :
    fieldStart ((ParamContext.new param 0).withOuterContext (some outerContext)) state =
      caseStart + param.bytePosition := by
  have read : ((ParamContext.new param 0).withOuterContext (some outerContext)).readPos
      state.payload.lastReadBytePos = 0 + param.bytePosition := if_pos placed
  rw [fieldStart, inCase.pos_eq, read, Nat.zero_add]

theorem structParam_startingAt (outerContext : MappedPayload conv) (mapParam : ParamDecoder conv)
    (starts : Parameter conv → Nat) {caseStart : Nat} {state : DecodeState conv}
    (inCase : ViewStarts caseStart state) (placed : param.hasBytePosition = true)
    (named : param.shortName = some name) :
    structParam outerContext (startingAt starts mapParam) param state =
      if caseStart + param.bytePosition = starts param then
        structParam outerContext mapParam param state
      else fail startsElsewhere state := by
  rw [structParam_of_named named, structParam_of_named named, startingAt,
    inCase.fieldStart_eq placed]
  rfl

end StructParam

section StructParams

variable {params : List (Parameter conv)} {outerContext : MappedPayload conv}
  {starts : Parameter conv → Nat} {caseStart : Nat}

theorem mapEach_startingAt {mapParam : ParamDecoder conv} (keeps : KeepsViews params mapParam)
    (placed : ∀ param ∈ params, param.hasBytePosition = true)
    (aligned : ∀ param ∈ namedParams params, caseStart + param.bytePosition = starts param)
    {state : DecodeState conv} (inCase : ViewStarts caseStart state) :
    mapEach (structParam outerContext (startingAt starts mapParam)) params state =
      mapEach (structParam outerContext mapParam) params state := by
  induction params generalizing state with
  | nil => rfl
  | cons param params ih =>
    cases named : param.shortName with
    | none =>
      rw [mapEach, mapEach, structParam_of_none named, structParam_of_none named]
      rfl
    | some name =>
      rw [namedParams_cons named] at aligned
      have same := structParam_startingAt outerContext mapParam starts inCase
        (placed param (List.mem_cons_self ..)) named
      rw [if_pos (aligned param (List.mem_cons_self ..))] at same
      rw [mapEach, mapEach]
      cases ran : structParam outerContext mapParam param state with
      | error failure final => rw [bind_of_error ran, bind_of_error (same.trans ran)]
      | ok done final =>
        rw [bind_of_ok ran, bind_of_ok (same.trans ran)]
        apply bind_congr_at
        apply ih
        · intro name paramCtx state final mem
          exact keeps name paramCtx state final (List.mem_cons_of_mem _ mem)
        · intro other mem
          exact placed other (List.mem_cons_of_mem _ mem)
        · intro other mem
          exact aligned other (List.mem_cons_of_mem _ mem)
        · rw [structParam_of_named named] at ran
          obtain ⟨stop, onTop⟩ := inCase
          refine ⟨stop, ?_⟩
          rw [keeps name _ state final (List.mem_cons_self ..) ran]
          exact onTop

def takeNothing : ParamDecoder conv := fun _ _ => pure ()

theorem takeNothing_keepsViews : KeepsViews params takeNothing := by
  intro _ _ _ _ _ ran
  cases ran
  rfl

theorem structParam_takeNothing {param : Parameter conv} {name : Text}
    (named : param.shortName = some name) (state : DecodeState conv) :
    structParam outerContext takeNothing param state = .ok () state := by
  rw [structParam_of_named named]
  rfl

theorem mapEach_takeNothing (outerContext : MappedPayload conv) (params : List (Parameter conv))
    (state : DecodeState conv) :
    ¬EndsIn startsElsewhere (mapEach (structParam outerContext takeNothing) params state) := by
  induction params with
  | nil => exact not_endsIn_ok []
  | cons param params ih =>
    rw [mapEach]
    cases named : param.shortName with
    | none =>
      have failed : structParam outerContext takeNothing param state = .error
          ⟨.invalidDatabase "Unable to find short name for param", 0⟩ state := by
        rw [structParam_of_none named]
        rfl
      rw [bind_of_error failed, endsIn_error_iff]
      exact DiagServiceError.noConfusion
    | some name =>
      rw [bind_of_ok (structParam_takeNothing named state)]
      exact fun failed => ih (endsIn_bind_pure_iff.mp failed)

theorem aligned_of_takeNothing (placed : ∀ param ∈ params, param.hasBytePosition = true)
    {state : DecodeState conv} (inCase : ViewStarts caseStart state)
    (reaches : ¬EndsIn startsElsewhere
      (mapEach (structParam outerContext (startingAt starts takeNothing)) params state)) :
    ∀ param ∈ namedParams params, caseStart + param.bytePosition = starts param := by
  induction params with
  | nil =>
    intro param mem
    cases mem
  | cons param params ih =>
    cases named : param.shortName with
    | none =>
      rw [namedParams_cons_of_none named]
      intro param mem
      cases mem
    | some name =>
      have called := structParam_startingAt outerContext takeNothing starts inCase
        (placed param (List.mem_cons_self ..)) named
      by_cases here : caseStart + param.bytePosition = starts param
      · rw [if_pos here, structParam_takeNothing named] at called
        rw [mapEach, bind_of_ok called] at reaches
        rw [namedParams_cons named]
        intro other mem
        obtain rfl | mem := List.mem_cons.mp mem
        · exact here
        · exact ih
            (fun other mem => placed other (List.mem_cons_of_mem _ mem))
            (fun failed => reaches (endsIn_bind_pure_iff.mpr failed)) other mem
      · rw [if_neg here] at called
        rw [mapEach, bind_of_error called, endsIn_error_iff] at reaches
        exact absurd rfl reaches

end StructParams

/-- The case that the switch key of the payload selects. -/
structure MuxDop.Selects (muxDop : MuxDop conv) (muxBytes : List UInt8) (case : Case conv)
    (structDop : StructureDop conv) : Prop where
  key : ∃ switchKey normalDop selectorValue selector,
    muxDop.switchKey = some switchKey ∧ switchKey.dop = some (.normal normalDop) ∧
      muxSelector switchKey normalDop muxBytes = .ok (selectorValue, selector) ∧
      muxCaseStructFromSelectorValue muxDop selectorValue = some (case, some structDop)
  named : ∃ name, case.shortName = some name

/-- No view is open, and nothing has been consumed. -/
def AtTop (state : DecodeState conv) : Prop :=
  state.payload.slices = [] ∧ state.payload.currentIndex = 0

def inMux (state : DecodeState conv) (start skipped : Nat) : DecodeState conv :=
  { state with payload := { state.payload with
      slices := [(start, state.payload.data.length)]
      bytesToSkip := skipped } }

def inMuxCase (state : DecodeState conv) (start caseStart skipped : Nat) : DecodeState conv :=
  { state with payload := { state.payload with
      slices := [(start, state.payload.data.length), (caseStart, state.payload.data.length)]
      lastReadBytePos := 0
      bytesToSkip := skipped } }

section Run

variable {muxDop : MuxDop conv} {state : DecodeState conv} {case : Case conv}
  {structDop : StructureDop conv} {skipped start : Nat} {shortName : Text}

theorem pushSlice_mux (top : AtTop state) (inside : start ≤ state.payload.data.length) :
    state.payload.pushSlice start state.payload.len =
      .ok (inMux state start state.payload.bytesToSkip).payload := by
  obtain ⟨noViews, atStart⟩ := top
  have length : state.payload.len = state.payload.data.length := by rw [Payload.len, noViews]; rfl
  have position : state.payload.pos = 0 := by
    rw [Payload.pos, noViews]
    exact atStart
  rw [Payload.pushSlice, length, if_neg (by omega)]
  simp only [position, noViews, Nat.zero_add, Nat.min_self, List.nil_append, inMux]

theorem view_inMux (inside : start ≤ state.payload.data.length) : view (inMux state start skipped) =
      .ok (state.payload.data.drop start) (inMux state start skipped) := by
  have shown : (inMux state start skipped).payload.view =
      .ok (state.payload.data.drop start) := by
    simp [Payload.view, inMux, slice?, inside]
  simp only [view, shown]
  rfl

theorem pushSlice_case (enough : start + muxDop.bytePosition ≤ state.payload.data.length) :
    (inMux state start skipped).payload.pushSlice muxDop.bytePosition
        (inMux state start skipped).payload.len =
      .ok { (inMux state start skipped).payload with
        slices := [(start, state.payload.data.length),
          (start + muxDop.bytePosition, state.payload.data.length)] } := by
  have length : (inMux state start skipped).payload.len =
      state.payload.data.length - start := rfl
  rw [Payload.pushSlice, length, if_neg (by omega)]
  have stop : min (start + (state.payload.data.length - start)) state.payload.data.length =
      state.payload.data.length := by omega
  simp [inMux, Payload.pos, stop]

theorem onFreshData_congr {first second : Decoder conv Unit}
    (same : first { state with data := .empty } = second { state with data := .empty }) :
    onFreshData first state = onFreshData second state := by
  rw [onFreshData, onFreshData, same]

/-- A case structure that does not fit counts as empty. -/
def keptCase (body : Decoder conv (MappedPayload conv)) : Decoder conv (MappedPayload conv) := do
  match ← swallow isNotEnoughData body with
  | .ok caseData => return caseData
  | .error _ => return .empty

theorem endsIn_keptCase_iff {body : Decoder conv (MappedPayload conv)}
    {error : DiagServiceError} (kept : isNotEnoughData error = false) :
    EndsIn error (keptCase body state) ↔ EndsIn error (body state) := by
  rw [keptCase, endsIn_bind_iff]
  · rw [swallow]
    cases body state with
    | ok value final => exact iff_of_false (not_endsIn_ok _) (not_endsIn_ok _)
    | error failure final =>
      simp only
      split
      · rename_i ignored
        apply iff_of_false (not_endsIn_ok _)
        rw [endsIn_error_iff]
        rintro rfl
        rw [kept] at ignored
        cases ignored
      · rw [endsIn_error_iff, endsIn_error_iff]
  · intro value final
    cases value with
    | ok caseData | error _ => exact not_endsIn_ok _

def caseBody (mapParam : ParamDecoder conv) (structDop : StructureDop conv)
    (data : MappedPayload conv) : Decoder conv (MappedPayload conv) := do
  setLastReadBytePos 0
  keptCase (mapStructFromUds mapParam structDop data)

theorem mapMuxCaseFromUds_inMux (mapParam : ParamDecoder conv) :
    mapMuxCaseFromUds mapParam muxDop structDop (inMux state start skipped) =
      inView muxDop.bytePosition (inMux state start skipped).payload.len
        (caseBody mapParam structDop state.data) (inMux state start skipped) := rfl

def afterCase (shortName caseName : Text) (selector : RawContainer conv)
    (caseData : MappedPayload conv) : Decoder conv Unit :=
  insertMapped shortName (.struct ((MappedPayload.empty.insert selectorName
    (.raw selector)).insert caseName (.struct caseData)))

theorem exists_mapMuxFromUds
    (selects : muxDop.Selects (state.payload.data.drop start) case structDop)
    (inside : start ≤ state.payload.data.length) (shortName : Text) :
    ∃ skipped caseName selector, ∀ mapParam : ParamDecoder conv,
      mapMuxFromUds mapParam shortName muxDop (inMux state start state.payload.bytesToSkip) =
        (mapMuxCaseFromUds mapParam muxDop structDop >>= afterCase shortName caseName selector)
          (inMux state start skipped) := by
  obtain ⟨⟨switchKey, normalDop, selectorValue, selector, isKey, isDop, isSelector, isCase⟩,
    caseName, named⟩ := selects
  refine ⟨state.payload.bytesToSkip + selector.data.length, caseName, selector, ?_⟩
  intro mapParam
  have found : muxCase muxDop selectorValue shortName = .ok (caseName, some structDop) := by
    simp only [muxCase, isCase, named]
  rw [mapMuxFromUds, isKey]
  refine Eq.trans (bind_of_ok rfl) ?_
  rw [isDop]
  refine Eq.trans (bind_of_ok rfl) ((bind_of_ok (view_inMux inside)).trans ?_)
  rw [isSelector]
  refine Eq.trans (bind_of_ok rfl) (Eq.trans (bind_of_ok rfl) ?_)
  rw [found]
  rfl

def caseState (muxDop : MuxDop conv) (state : DecodeState conv) (start skipped : Nat) :
    DecodeState conv :=
  { inMuxCase state start (start + muxDop.bytePosition) skipped with data := .empty }

theorem viewStarts_caseState :
    ViewStarts (start + muxDop.bytePosition) (caseState muxDop state start skipped) := ⟨_, rfl⟩

theorem exists_caseBody {params : List (Parameter conv)}
    (hasParams : structDop.params = some params)
    (enough : start + muxDop.bytePosition ≤ state.payload.data.length) (skipped : Nat) :
    ∃ opened payload, (inMux state start skipped).payload.pushSlice muxDop.bytePosition
        (inMux state start skipped).payload.len = .ok payload ∧
      opened = { inMux state start skipped with payload } ∧
      ∀ mapParam, caseBody mapParam structDop state.data opened =
        keptCase (onFreshData (forEach (structParam state.data mapParam) params))
          (inMuxCase state start (start + muxDop.bytePosition) skipped) := by
  refine ⟨_, _, pushSlice_case enough, rfl, ?_⟩
  intro mapParam
  rw [← mapStructFromUds_of_params hasParams]
  refine Eq.trans (bind_of_ok rfl) ?_
  simp only [Payload.setLastReadBytePos, Nat.not_lt_zero, gt_iff_lt, if_false]
  rfl

section Outcome

variable {params : List (Parameter conv)} (hasParams : structDop.params = some params)
  (selects : muxDop.Selects (state.payload.data.drop start) case structDop)
  (top : AtTop state) (enough : start + muxDop.bytePosition ≤ state.payload.data.length)
  {paramCtx : ParamContext conv} (atStart : paramCtx.absBytePos = start)

include hasParams selects top enough atStart

/-- The run of a mux depends on its callback through the parameters of the case alone. -/
theorem exists_mapMuxDopFromUds (shortName : Text) : ∃ skipped, (∀ first second,
      mapEach (structParam state.data first) params (caseState muxDop state start skipped) =
        mapEach (structParam state.data second) params (caseState muxDop state start skipped) →
      mapMuxDopFromUds first shortName muxDop paramCtx state =
        mapMuxDopFromUds second shortName muxDop paramCtx state) ∧
    ∀ mapParam, EndsIn startsElsewhere
        (mapMuxDopFromUds mapParam shortName muxDop paramCtx state) ↔
      EndsIn startsElsewhere (mapEach (structParam state.data mapParam) params
        (caseState muxDop state start skipped)) := by
  have inside : start ≤ state.payload.data.length := by omega
  obtain ⟨skipped, caseName, selector, runs⟩ := exists_mapMuxFromUds selects inside shortName
  obtain ⟨opened, payload, pushed, rfl, caseRuns⟩ :=
    exists_caseBody hasParams enough skipped
  have muxPushed := pushSlice_mux top inside
  have viewed : ∀ mapParam, mapMuxDopFromUds mapParam shortName muxDop paramCtx state =
      inView start state.payload.len (mapMuxFromUds mapParam shortName muxDop) state := by
    intro mapParam
    rw [mapMuxDopFromUds, atStart]
    exact bind_of_ok rfl
  refine ⟨skipped, ?_, ?_⟩
  · intro first second same
    rw [viewed first, viewed second]
    apply inView_congr muxPushed
    refine (runs first).trans (Eq.trans ?_ (runs second).symm)
    apply bind_congr_at
    rw [mapMuxCaseFromUds_inMux, mapMuxCaseFromUds_inMux]
    apply inView_congr pushed
    rw [caseRuns first, caseRuns second, keptCase, keptCase]
    apply bind_congr_at
    apply swallow_congr
    have filled : forEach (structParam state.data first) params
        (caseState muxDop state start skipped) = forEach (structParam state.data second) params
            (caseState muxDop state start skipped) := bind_congr_at _ same
    exact onFreshData_congr filled
  · intro mapParam
    have other : startsElsewhere ≠ .badPayload "No restricted view to pop" :=
      DiagServiceError.noConfusion
    rw [viewed mapParam, endsIn_inView_iff muxPushed other]
    refine (iff_of_eq (congrArg _ (runs mapParam))).trans ?_
    refine (endsIn_bind_iff fun _ _ => not_endsIn_ok ()).trans ?_
    rw [mapMuxCaseFromUds_inMux, endsIn_inView_iff pushed other, caseRuns mapParam,
      endsIn_keptCase_iff rfl, endsIn_onFreshData_iff]
    exact endsIn_bind_pure_iff

end Outcome

end Run

section Leaves

variable {shortName : Text} {normalDop : NormalDop conv} {paramCtx : ParamContext conv}
  {state final : DecodeState conv}

theorem slices_of_mapNormalDopFromUds
    (ran : mapNormalDopFromUds shortName normalDop paramCtx state = .ok () final) :
    final.payload.slices = state.payload.slices := by
  simp only [mapNormalDopFromUds, extractDiagDataContainer, bind_eq_ok_iff, ofExcept_eq_ok_iff,
    orFail_eq_ok_iff, bytePosOrLastRead_eq_ok_iff] at ran
  obtain ⟨diagType, _, ⟨_, rfl⟩, compuMethod, _, ⟨_, rfl⟩, bytePos, _, ⟨_, rfl⟩, raw, _,
    ⟨bytes, _, viewed, ⟨data, bitLen⟩, _, ⟨_, rfl⟩, read⟩, stored⟩ := ran
  obtain ⟨_, rfl⟩ := ofExcept_eq_ok_iff.1 viewed
  dsimp only at read
  split at read
  · cases read
  · cases read
    cases stored
    rfl

theorem slices_of_mapParamLengthInfoDopFromUds {lengthKeyName : Text}
    (ran : mapParamLengthInfoDopFromUds shortName normalDop lengthKeyName paramCtx state =
      .ok () final) :
    final.payload.slices = state.payload.slices := by
  simp only [mapParamLengthInfoDopFromUds, bind_eq_ok_iff, ofExcept_eq_ok_iff,
    mapped_eq_ok_iff] at ran
  obtain ⟨_, _, ⟨_, rfl⟩, byteCount, _, ⟨_, rfl⟩, diagType, _, ⟨_, rfl⟩, ran⟩ := ran
  split at ran
  · cases ran
    rfl
  · simp only [bind_eq_ok_iff, ofExcept_eq_ok_iff, bytePosOrLastRead_eq_ok_iff] at ran
    obtain ⟨bytePos, _, ⟨_, rfl⟩, bytes, _, viewed, ⟨decoded, bitLen⟩, _, ⟨_, rfl⟩, _, _, moved,
      stored⟩ := ran
    obtain ⟨_, rfl⟩ := ofExcept_eq_ok_iff.1 viewed
    cases moved
    cases stored
    rfl

end Leaves

namespace Parameter

def IsNormalValue (param : Parameter conv) : Prop :=
  param.paramType = .ok .value ∧
    ∃ default normalDop, param.specificData = .value default (some (.normal normalDop))

end Parameter

theorem keepsViews_mapParamFromUds (service : DiagService conv) (depth : Nat)
    {params : List (Parameter conv)} (values : ∀ param ∈ params, param.IsNormalValue) :
    KeepsViews params (mapParamFromUds service (depth + 1)) := by
  intro name paramCtx state final mem ran
  obtain ⟨isValue, default, normalDop, specific⟩ := values paramCtx.parameter mem
  rw [mapParamFromUds, mapParamKindFromUds, isValue] at ran
  change mapParamValueFromUds _ _ _ = _ at ran
  rw [mapParamValueFromUds, specific] at ran
  change mapDopFromUds (mapParamFromUds service depth) (.normal normalDop) paramCtx state = _ at ran
  simp only [mapDopFromUds, bind_eq_ok_iff, ofExcept_eq_ok_iff, orFail_eq_ok_iff] at ran
  obtain ⟨shortName, _, ⟨_, rfl⟩, diagType, _, ⟨_, rfl⟩, ran⟩ := ran
  cases keyed : diagType.lengthKeyName with
  | some lengthKeyName =>
    rw [keyed] at ran
    exact slices_of_mapParamLengthInfoDopFromUds ran
  | none =>
    rw [keyed] at ran
    exact slices_of_mapNormalDopFromUds ran

namespace MuxDop

variable (muxDop : MuxDop conv)

/-- The case data lie right behind the switch key, as the positions are reported; a position
that leaves `u32` is reported as the one of the mux. -/
def KeyFillsFront (muxBytePosition : Nat) (inner : Parameter conv) : Prop :=
  if muxBytePosition + muxDop.switchKeySize + inner.bytePosition < 2 ^ 32 then
    muxDop.bytePosition = muxDop.switchKeySize
  else muxDop.bytePosition = 0 ∧ inner.bytePosition = 0

instance (muxBytePosition : Nat) (inner : Parameter conv) :
    Decidable (muxDop.KeyFillsFront muxBytePosition inner) := by
  unfold KeyFillsFront
  infer_instance

theorem casePosition_eq_iff (muxBytePosition : Nat) (inner : Parameter conv) :
    muxBytePosition + muxDop.bytePosition + inner.bytePosition =
        casePosition muxBytePosition muxDop.switchKeySize inner ↔
      muxDop.KeyFillsFront muxBytePosition inner := by
  rw [KeyFillsFront, casePosition, checkedAddU32]
  by_cases fits : muxBytePosition + muxDop.switchKeySize + inner.bytePosition < 2 ^ 32
  · rw [if_pos fits, if_pos (by omega), Option.bind_some, checkedAddU32, if_pos fits,
      Option.getD_some]
    omega
  · rw [if_neg fits]
    have fallsBack : (((if muxBytePosition + muxDop.switchKeySize < 2 ^ 32 then
        some (muxBytePosition + muxDop.switchKeySize) else none).bind
          (checkedAddU32 · inner.bytePosition)).getD muxBytePosition) = muxBytePosition := by
      split
      · rw [Option.bind_some, checkedAddU32, if_neg fits, Option.getD_none]
      · rfl
    rw [fallsBack]
    omega

/-- What is reported for a parameter of the case. -/
def reportedInfo (extractResponseParamType : Parameter conv → ParameterTypeMetadata)
    (muxBytePosition : Nat) (case : Case conv) (inner : Parameter conv) : ResponseParameterInfo :=
  caseParamInfo extractResponseParamType muxBytePosition muxDop.switchKeySize
    (case.shortName.getD []) (inner.shortName.getD []) inner

/-- For every parameter of the case the bytes start where they are reported to. -/
structure ReportsPositions (extractResponseParamType : Parameter conv → ParameterTypeMetadata)
    (service : DiagService conv) (param : Parameter conv) (shortName : Text) (case : Case conv)
    (params : List (Parameter conv)) (state : DecodeState conv) : Prop where
  listed : ∀ inner ∈ params, inner.shortName.isSome →
    muxDop.reportedInfo extractResponseParamType param.bytePosition case inner ∈
      expandMuxCases extractResponseParamType param param.bytePosition
  starts : StartsAt params
    (fun inner =>
      (muxDop.reportedInfo extractResponseParamType param.bytePosition case inner).bytePosition)
    (fun mapParam => mapParamKindFromUds service mapParam shortName (.new param 0)) state
  /-- The decoder of the case itself is such a callback. -/
  decoded : (∀ inner ∈ params, inner.IsNormalValue) → ∀ depth,
    mapParamKindFromUds service (startingAt (fun inner =>
        (muxDop.reportedInfo extractResponseParamType param.bytePosition case inner).bytePosition)
      (mapParamFromUds service (depth + 1))) shortName (.new param 0) state =
        mapParamFromUds service (depth + 2) shortName (.new param 0) state

variable {muxDop} {service : DiagService conv} {param : Parameter conv} {shortName : Text}
  {case : Case conv} {structDop : StructureDop conv} {params : List (Parameter conv)}
  {state : DecodeState conv}

theorem mapParamKindFromUds_mux (isValue : param.paramType = .ok .value)
    (isMux : param.asMux = some muxDop) (named : param.shortName = some shortName)
    (mapParam : ParamDecoder conv) (callerName : Text) :
    mapParamKindFromUds service mapParam callerName (.new param 0) =
      mapMuxDopFromUds mapParam shortName muxDop (.new param 0) := by
  have kind : (ParamContext.new param 0).parameter.paramType = .ok .value := isValue
  have name : (ParamContext.new param 0).parameter.shortName = some shortName := named
  rw [mapParamKindFromUds, kind]
  change mapParamValueFromUds mapParam (ParamContext.new param 0) = _
  rw [Parameter.asMux] at isMux
  split at isMux
  · rename_i default muxDop specific
    cases isMux
    have specific : (ParamContext.new param 0).parameter.specificData =
        .value default (some (.mux muxDop)) := specific
    rw [mapParamValueFromUds, specific]
    change mapDopFromUds mapParam (.mux muxDop) (ParamContext.new param 0) = _
    rw [mapDopFromUds, name]
    rfl
  · cases isMux

theorem Selects.reportedInfo_mem {muxBytes : List UInt8}
    (selects : muxDop.Selects muxBytes case structDop) (isMux : param.asMux = some muxDop)
    (hasParams : structDop.params = some params)
    (extractResponseParamType : Parameter conv → ParameterTypeMetadata) (muxBytePosition : Nat)
    {inner : Parameter conv} (mem : inner ∈ params) (named : inner.shortName.isSome) :
    muxDop.reportedInfo extractResponseParamType muxBytePosition case inner ∈
      expandMuxCases extractResponseParamType param muxBytePosition := by
  obtain ⟨_, _, selectorValue, _, _, _, _, isCase⟩ := selects.key
  obtain ⟨found, among, same⟩ := Option.map_eq_some_iff.mp isCase
  obtain ⟨rfl, isStruct⟩ := Prod.mk.inj same
  obtain ⟨listed, hasCases, among⟩ := Option.bind_eq_some_iff.mp among
  obtain ⟨innerName, named⟩ := Option.isSome_iff_exists.mp named
  have mem := mem_expandMuxCases extractResponseParamType isMux
    (by rw [hasCases]; exact List.mem_of_find?_eq_some among) isStruct
    (by rw [hasParams]; exact mem) named muxBytePosition
  rw [reportedInfo, named]
  exact mem

/-- The positions that are reported for a case are those of the decoder exactly where the
mux puts its case data right behind the switch key. -/
theorem reportsPositions_iff (extractResponseParamType : Parameter conv → ParameterTypeMetadata)
    (isValue : param.paramType = .ok .value) (isMux : param.asMux = some muxDop)
    (named : param.shortName = some shortName) (hasParams : structDop.params = some params)
    (placed : ∀ inner ∈ params, inner.hasBytePosition = true) (top : AtTop state)
    (selects : muxDop.Selects (state.payload.data.drop param.bytePosition) case structDop)
    (enough : param.bytePosition + muxDop.bytePosition ≤ state.payload.data.length) :
    muxDop.ReportsPositions extractResponseParamType service param shortName case params state ↔
      ∀ inner ∈ namedParams params, muxDop.KeyFillsFront param.bytePosition inner := by
  have atStart : (ParamContext.new param 0).absBytePos = param.bytePosition := Nat.zero_add _
  obtain ⟨skipped, congruent, fails⟩ :=
    exists_mapMuxDopFromUds hasParams selects top enough atStart shortName
  have inCase : ViewStarts (param.bytePosition + muxDop.bytePosition)
      (caseState muxDop state param.bytePosition skipped) := viewStarts_caseState
  constructor
  · intro reports inner mem
    have same := reports.starts takeNothing takeNothing_keepsViews
    simp only [mapParamKindFromUds_mux isValue isMux named] at same
    have quiet := mapEach_takeNothing state.data params
      (caseState muxDop state param.bytePosition skipped)
    rw [← fails, ← same, fails] at quiet
    exact (muxDop.casePosition_eq_iff param.bytePosition inner).mp
      (aligned_of_takeNothing placed inCase quiet inner mem)
  · intro front
    have starts : StartsAt params
        (fun inner => (muxDop.reportedInfo extractResponseParamType param.bytePosition case
          inner).bytePosition)
        (fun mapParam => mapParamKindFromUds service mapParam shortName (.new param 0)) state := by
      intro mapParam keeps
      simp only [mapParamKindFromUds_mux isValue isMux named]
      apply congruent
      apply mapEach_startingAt keeps placed _ inCase
      intro inner mem
      exact (muxDop.casePosition_eq_iff param.bytePosition inner).mpr (front inner mem)
    exact {
      listed := fun inner mem named =>
        selects.reportedInfo_mem isMux hasParams extractResponseParamType param.bytePosition mem
          named
      starts
      decoded := fun values depth => starts _ (keepsViews_mapParamFromUds service depth values) }

end MuxDop

namespace IntegerDatabase

/-- A byte as the key at the front, and the byte of the case at the position of the mux. -/
def keyedMux (bytePosition : Nat) : MuxDop integerConversions :=
  { (keyByte 0).muxDop with bytePosition }

def keyedMuxParam (bytePosition : Nat) : Parameter integerConversions :=
  ⟨.ok .value, some "mux".toList, none, some 1, none,
    .value none (some (.mux (keyedMux bytePosition)))⟩

def caseOne : Case integerConversions :=
  ⟨some "one".toList, some (.struct caseStruct), some ⟨"1".toList, .closed⟩,
    some ⟨"1".toList, .closed⟩⟩

def plainValue (_ : Parameter integerConversions) : ParameterTypeMetadata := .value none none []

theorem keyedMux_selects : (keyedMux 1).Selects [1, 7] caseOne caseStruct where
  key := ⟨_, _, .uint32 1, _, rfl, rfl, rfl, rfl⟩
  named := ⟨_, rfl⟩

theorem keyedMux_reportsPositions :
    (keyedMux 1).ReportsPositions plainValue ⟨none⟩ (keyedMuxParam 1) "mux".toList caseOne
      [caseByte.parameter] (.new [0x62, 1, 7]) := by
  refine (MuxDop.reportsPositions_iff plainValue rfl rfl rfl rfl ?_ ⟨rfl, rfl⟩
    keyedMux_selects (by decide)).mpr ?_
  · intro inner mem
    rw [List.mem_singleton.mp mem]
    rfl
  · intro inner mem
    rw [List.mem_singleton.mp mem]
    decide

/-- With the case data a byte behind the key the byte of the case lies at byte 3, and is
reported at byte 2. -/
theorem keyedMux_not_reportsPositions :
    ¬(keyedMux 2).ReportsPositions plainValue ⟨none⟩ (keyedMuxParam 2) "mux".toList caseOne
      [caseByte.parameter] (.new [0x62, 1, 0, 7]) := by
  intro reports
  have same := reports.starts takeNothing takeNothing_keepsViews
  have refused : ∃ failure final, mapParamKindFromUds ⟨none⟩ (startingAt
      (fun inner => ((keyedMux 2).reportedInfo plainValue 1 caseOne inner).bytePosition)
        takeNothing)
      "mux".toList (.new (keyedMuxParam 2) 0) (.new [0x62, 1, 0, 7]) = .error failure final :=
    ⟨_, _, rfl⟩
  have decoded : ∃ final, mapParamKindFromUds ⟨none⟩ takeNothing "mux".toList
      (.new (keyedMuxParam 2) 0) (.new [0x62, 1, 0, 7]) = .ok () final := ⟨_, rfl⟩
  obtain ⟨failure, failed, refused⟩ := refused
  obtain ⟨final, decoded⟩ := decoded
  cases refused.symm.trans (same.trans decoded)

end IntegerDatabase

end DiagnosticAdapter.Kernel
