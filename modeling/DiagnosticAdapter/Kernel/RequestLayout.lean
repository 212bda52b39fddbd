import DiagnosticAdapter.Codec.PlainField
import DiagnosticAdapter.Kernel.PayloadEncode

/-!
# Requests of plain fields

Requests of constants and values with an identical compu method: where the encoder writes
their data, and what the payload holds afterwards.
-/

namespace DiagnosticAdapter.Kernel

open Bits Codec Effects

variable {conv : Conversions}

inductive RequestKind (conv : Conversions) where
  | const (codedValue : Text)
  | value (physicalDefaultValue : Option Text) (compuMethod : conv.CompuMethod)
      (identical : conv.category compuMethod = .identical) (physicalType : Option PhysicalType)

structure RequestParam (conv : Conversions) where
  shortName : Text
  semantic : Option Text
  bytePos : Option Nat
  bitPos : Option Nat
  field : PlainField
  kind : RequestKind conv

namespace RequestParam

def isValue (param : RequestParam conv) : Bool :=
  match param.kind with
  | .const _ => false
  | .value _ _ _ _ => true

def parameter (param : RequestParam conv) : Parameter conv :=
  match param.kind with
  | .const codedValue =>
    ⟨.ok .codedConst, some param.shortName, param.semantic, param.bytePos, param.bitPos,
      .codedConst ⟨some (.ok param.field.diagCodedType), some codedValue⟩⟩
  | .value physicalDefaultValue compuMethod _ physicalType =>
    ⟨.ok .value, some param.shortName, param.semantic, param.bytePos, param.bitPos,
      .value physicalDefaultValue
        (some (.normal ⟨.ok param.field.diagCodedType, some compuMethod, physicalType⟩))⟩

variable (param : RequestParam conv) (values : ParameterMap)

/-- The bytes that the encoder takes the coded value, the value of the map, or the default
for. -/
def supplied : Except DiagServiceError (List UInt8) :=
  match param.kind with
  | .const codedValue => do
    let json ← constJsonValue conv codedValue param.field.base
    jsonValueToUdsData conv param.field.diagCodedType none none json
  | .value physicalDefaultValue compuMethod _ physicalType => do
    let json ← resolveRequiredParam (values.lookup param.shortName)
      (.normal ⟨.ok param.field.diagCodedType, some compuMethod, physicalType⟩)
      physicalDefaultValue param.parameter.nameOrDefault
    jsonValueToUdsData conv param.field.diagCodedType (some compuMethod) physicalType json

def data : List UInt8 := (param.supplied values).toOption.getD []

/-- The order of `create_uds_payload`. -/
def positionLe (a b : RequestParam conv) : Bool := a.parameter.positionLe b.parameter

/-- A parameter without a position counts as one at byte 0. -/
def pos : Nat := param.bytePos.getD 0

def bit : Nat := param.bitPos.getD 0

@[simp]
theorem parameter_shortName : param.parameter.shortName = some param.shortName := by
  obtain ⟨_, _, _, _, _, kind⟩ := param
  cases kind <;> rfl

@[simp]
theorem parameter_bytePosition : param.parameter.bytePosition = param.pos := by
  obtain ⟨_, _, _, _, _, kind⟩ := param
  cases kind <;> rfl

@[simp]
theorem parameter_bitPosition : param.parameter.bitPosition = param.bit := by
  obtain ⟨_, _, _, _, _, kind⟩ := param
  cases kind <;> rfl

@[simp]
theorem parameter_hasBytePosition : param.parameter.hasBytePosition = param.bytePos.isSome := by
  obtain ⟨_, _, _, _, _, kind⟩ := param
  cases kind <;> rfl

theorem data_of_supplied {param : RequestParam conv} {values : ParameterMap} {bytes : List UInt8}
    (supplied : param.supplied values = .ok bytes) : param.data values = bytes := by
  rw [data, supplied]
  rfl

end RequestParam

structure Placement (conv : Conversions) where
  param : RequestParam conv
  pos : Nat
  data : List UInt8

namespace Placement

variable (placement : Placement conv)

def place : Place :=
  placement.param.field.place placement.pos placement.param.bit placement.data

def write : Write := ⟨placement.place, value placement.data⟩

def stop : Nat := placement.pos + byteLen (placement.param.field.bitLen placement.data)

end Placement

def RequestParam.placed (values : ParameterMap) (param : RequestParam conv) : Placement conv :=
  ⟨param, param.pos, param.data values⟩

def placedFrom (values : ParameterMap) : Nat → List (RequestParam conv) → List (Placement conv)
  | _, [] => []
  | start, param :: params =>
    let placement : Placement conv := ⟨param, start, param.data values⟩
    placement :: placedFrom values placement.stop params

/-- What the parameters at their places have added to a payload. -/
structure Written (values : ParameterMap) (placements : List (Placement conv))
    (payload after : List UInt8) : Prop where
  supplied : ∀ placement ∈ placements, placement.param.supplied values = .ok placement.data
  valid : ∀ placement ∈ placements, placement.param.field.Valid placement.param.bit placement.data
  adds : Adds (placements.map Placement.write) payload after
  grows : payload.length ≤ after.length
  filled : ∀ placement ∈ placements, placement.stop ≤ after.length
  bounded : ∀ bound, payload.length ≤ bound → (∀ placement ∈ placements, placement.stop ≤ bound) →
    after.length ≤ bound

namespace Written

variable {values : ParameterMap} {first second : List (Placement conv)}
  {payload middle after : List UInt8}

theorem nil (values : ParameterMap) (payload : List UInt8) :
    @Written conv values [] payload payload :=
  ⟨by simp, by simp, adds_nil payload, Nat.le_refl _, by simp, fun _ enough _ => enough⟩

theorem append (firstWritten : Written values first payload middle)
    (secondWritten : Written values second middle after) :
    Written values (first ++ second) payload after := by
  constructor
  · intro placement mem
    obtain inFirst | inSecond := List.mem_append.mp mem
    · exact firstWritten.supplied placement inFirst
    · exact secondWritten.supplied placement inSecond
  · intro placement mem
    obtain inFirst | inSecond := List.mem_append.mp mem
    · exact firstWritten.valid placement inFirst
    · exact secondWritten.valid placement inSecond
  · rw [List.map_append]
    exact firstWritten.adds.append secondWritten.adds
  · exact firstWritten.grows.trans secondWritten.grows
  · intro placement mem
    obtain inFirst | inSecond := List.mem_append.mp mem
    · exact (firstWritten.filled placement inFirst).trans secondWritten.grows
    · exact secondWritten.filled placement inSecond
  · intro bound enough filled
    apply secondWritten.bounded bound
    · apply firstWritten.bounded bound enough
      intro placement mem
      exact filled placement (List.mem_append_left _ mem)
    · intro placement mem
      exact filled placement (List.mem_append_right _ mem)

theorem congr (same : ∀ placement, placement ∈ first ↔ placement ∈ second)
    (written : Written values first payload after) : Written values second payload after := by
  constructor
  · intro placement mem
    exact written.supplied placement ((same placement).mpr mem)
  · intro placement mem
    exact written.valid placement ((same placement).mpr mem)
  · intro cell
    rw [written.adds cell]
    simp only [List.mem_map, same]
  · exact written.grows
  · intro placement mem
    exact written.filled placement ((same placement).mpr mem)
  · intro bound enough filled
    exact written.bounded bound enough fun placement mem =>
      filled placement ((same placement).mp mem)

end Written

section Encode

variable {values : ParameterMap} {param : RequestParam conv} {params : List (RequestParam conv)}
  {payload after data : List UInt8} {strict : Bool} {depth : Nat}

/-- Whether what is supplied for the parameters can be read back. -/
def KeepsData (values : ParameterMap) (params : List (RequestParam conv)) : Prop :=
  ∀ param ∈ params, ∀ data, param.supplied values = .ok data → param.field.Keeps param.bit data

theorem written_of_encode {pos : Nat} (supplied : param.supplied values = .ok data)
    (keeps : param.field.Keeps param.bit data)
    (encoded : param.field.diagCodedType.encode data payload pos param.bit = .ok after) :
    Written values [⟨param, pos, data⟩] payload after := by
  obtain ⟨valid, length, adds⟩ := PlainField.encode_adds keeps encoded
  constructor
  · intro placement mem
    rw [List.mem_singleton.mp mem]
    exact supplied
  · intro placement mem
    rw [List.mem_singleton.mp mem]
    exact valid
  · exact adds
  · omega
  · intro placement mem
    rw [List.mem_singleton.mp mem, length]
    exact Nat.le_max_right _ _
  · intro bound enough filled
    rw [length]
    exact Nat.max_le.mpr ⟨enough, filled _ (List.mem_singleton_self _)⟩

theorem Written.of_extendTo {placements : List (Placement conv)} {length : Nat}
    (covered : ∃ placement ∈ placements, length ≤ placement.stop)
    (written : Written values placements (DiagCodedType.extendTo payload length) after) :
    Written values placements payload after := by
  have longer : payload.length ≤ (DiagCodedType.extendTo payload length).length := by
    rw [DiagCodedType.length_extendTo]
    exact Nat.le_max_left _ _
  refine ⟨written.supplied, written.valid, ?_, longer.trans written.grows, written.filled, ?_⟩
  · intro cell
    rw [written.adds cell, DiagCodedType.holds_extendTo]
  · intro bound enough filled
    obtain ⟨placement, mem, inside⟩ := covered
    have reached := filled placement mem
    refine written.bounded bound ?_ filled
    rw [DiagCodedType.length_extendTo]
    omega

/-- One round of `process_coded_constants`. -/
def encodeConst (values : ParameterMap) (uds : List UInt8) (param : RequestParam conv) :
    Except DiagServiceError (List UInt8) :=
  if param.isValue then .ok uds
  else do
    let data ← param.supplied values
    param.field.diagCodedType.encode data uds param.pos param.bit

theorem processCodedConstants_eq (values : ParameterMap) (params : List (RequestParam conv)) :
    processCodedConstants (params.map RequestParam.parameter) =
      params.foldlM (encodeConst values) [] := by
  rw [processCodedConstants, List.foldlM_map]
  refine congrArg (fun step => params.foldlM step []) (funext fun uds => funext fun param => ?_)
  obtain ⟨_, _, _, _, _, kind⟩ := param
  cases kind with
  | const codedValue =>
    simp only [encodeConst, RequestParam.supplied, bind_assoc]
    rfl
  | value => rfl

theorem written_consts (keeps : KeepsData values params)
    (encoded : params.foldlM (encodeConst values) payload = .ok after) :
    Written values ((params.filter fun param => !param.isValue).map (·.placed values)) payload
      after := by
  induction params generalizing payload with
  | nil =>
    obtain rfl := Except.ok.inj encoded
    exact .nil values payload
  | cons param params ih =>
    rw [List.foldlM_cons] at encoded
    obtain ⟨middle, first, rest⟩ := exists_of_except_bind encoded
    have tail := ih (fun other mem =>
      keeps other (List.mem_cons_of_mem _ mem)) rest
    by_cases isValue : param.isValue = true
    · rw [encodeConst, if_pos isValue] at first
      obtain rfl := Except.ok.inj first
      rw [List.filter_cons_of_neg (by simp [isValue])]
      exact tail
    · rw [encodeConst, if_neg isValue] at first
      obtain ⟨data, supplied, written⟩ := exists_of_except_bind first
      have head := written_of_encode supplied (keeps param List.mem_cons_self data supplied) written
      rw [List.filter_cons_of_pos (by simp [isValue]), List.map_cons]
      have placed : param.placed values = ⟨param, param.pos, data⟩ := by
        rw [RequestParam.placed, RequestParam.data_of_supplied supplied]
      rw [placed]
      exact head.append tail

def startOf (uds : List UInt8) (param : RequestParam conv) : Nat :=
  if param.bytePos.isSome then param.pos else uds.length

theorem processParameter_const (isConst : param.isValue = false)
    (processed : processParameter strict depth values payload param.parameter = .ok after) :
    after = DiagCodedType.extendTo payload (startOf payload param) := by
  cases depth with
  | zero =>
    rw [processParameter, RequestParam.parameter_shortName] at processed
    cases processed
  | succ depth =>
    obtain ⟨_, _, bytePos, _, _, kind⟩ := param
    cases kind with
    | value => cases isConst
    | const codedValue =>
      cases bytePos <;> exact (Except.ok.inj processed).symm

theorem processParameter_value (isValue : param.isValue = true)
    (processed : processParameter strict depth values payload param.parameter = .ok after) :
    ∃ data, param.supplied values = .ok data ∧
      param.field.diagCodedType.encode data (DiagCodedType.extendTo payload (startOf payload param))
        (startOf payload param) param.bit = .ok after := by
  cases depth with
  | zero =>
    rw [processParameter, RequestParam.parameter_shortName] at processed
    cases processed
  | succ depth =>
    apply exists_of_except_bind
    obtain ⟨_, _, bytePos, _, _, kind⟩ := param
    cases kind with
    | const codedValue => cases isValue
    | value physicalDefaultValue compuMethod identical physicalType =>
      rw [← processed, RequestParam.supplied, bind_assoc]
      cases bytePos with
      | none => rfl
      | some bytePos =>
        rename_i shortName semantic bitPos field
        change _ = (resolveRequiredParam (values.lookup shortName)
          (.normal ⟨.ok field.diagCodedType, some compuMethod, physicalType⟩)
          physicalDefaultValue (String.ofList shortName) >>= fun json =>
            mapNormalDopToUds ⟨.ok field.diagCodedType, some compuMethod, physicalType⟩ json
              (DiagCodedType.extendTo payload bytePos) (0 + bytePos) (bitPos.getD 0))
        rw [Nat.zero_add]
        rfl

theorem extendTo_startOf (inside : param.bytePos.isSome = true → param.pos ≤ payload.length) :
    DiagCodedType.extendTo payload (startOf payload param) = payload := by
  apply DiagCodedType.extendTo_of_le
  rw [startOf]
  split
  · rename_i positioned
    exact inside positioned
  · exact Nat.le_refl _

/-- One round of `process_parameter_map`. -/
def processRequestParam (strict : Bool) (depth : Nat) (values : ParameterMap) (uds : List UInt8)
    (param : RequestParam conv) : Except DiagServiceError (List UInt8) :=
  processParameter strict depth values uds param.parameter

theorem written_front (keeps : KeepsData values params)
    (positioned : ∀ param ∈ params, param.isValue = true → param.bytePos.isSome = true)
    (consts : ∀ param ∈ params, param.isValue = false → param.pos ≤ payload.length)
    (processed : params.foldlM (processRequestParam strict depth values) payload = .ok after) :
    Written values ((params.filter (·.isValue)).map (·.placed values)) payload after := by
  induction params generalizing payload with
  | nil =>
    obtain rfl := Except.ok.inj processed
    exact .nil values payload
  | cons param params ih =>
    rw [List.foldlM_cons] at processed
    obtain ⟨middle, first, rest⟩ := exists_of_except_bind processed
    have tail : payload.length ≤ middle.length →
        Written values ((params.filter (·.isValue)).map (·.placed values)) middle after := by
      intro grows
      apply ih
      · exact fun other mem => keeps other (List.mem_cons_of_mem _ mem)
      · exact fun other mem => positioned other (List.mem_cons_of_mem _ mem)
      · exact fun other mem isConst =>
          (consts other (List.mem_cons_of_mem _ mem) isConst).trans grows
      · exact rest
    cases isValue : param.isValue with
    | false =>
      have padded := processParameter_const isValue first
      rw [extendTo_startOf fun _ => consts param List.mem_cons_self isValue] at padded
      rw [List.filter_cons_of_neg (by simp [isValue]), ← padded]
      exact padded ▸ tail (Nat.le_of_eq (congrArg List.length padded).symm)
    | true =>
      obtain ⟨data, supplied, encoded⟩ := processParameter_value isValue first
      have start : startOf payload param = param.pos :=
        if_pos (positioned param List.mem_cons_self isValue)
      rw [start] at encoded
      have head : Written values [⟨param, param.pos, data⟩] payload middle :=
        (written_of_encode supplied (keeps param List.mem_cons_self data supplied)
          encoded).of_extendTo ⟨_, List.mem_singleton_self _, Nat.le_add_right _ _⟩
      have placed : param.placed values = ⟨param, param.pos, data⟩ := by
        rw [RequestParam.placed, RequestParam.data_of_supplied supplied]
      rw [List.filter_cons_of_pos isValue, List.map_cons, placed]
      exact head.append (tail head.grows)

theorem written_tail (keeps : KeepsData values params)
    (unpositioned : ∀ param ∈ params, param.isValue = true ∧ param.bytePos = none)
    (processed : params.foldlM (processRequestParam strict depth values) payload = .ok after) :
    Written values (placedFrom values payload.length params) payload after := by
  induction params generalizing payload with
  | nil =>
    obtain rfl := Except.ok.inj processed
    exact .nil values payload
  | cons param params ih =>
    rw [List.foldlM_cons] at processed
    obtain ⟨middle, first, rest⟩ := exists_of_except_bind processed
    obtain ⟨isValue, none⟩ := unpositioned param List.mem_cons_self
    obtain ⟨data, supplied, encoded⟩ := processParameter_value isValue first
    have start : startOf payload param = payload.length := by
      rw [startOf, none]
      rfl
    rw [extendTo_startOf (by simp [none]), start] at encoded
    have head := written_of_encode supplied (keeps param List.mem_cons_self data supplied) encoded
    have reached : middle.length =
        (⟨param, payload.length, data⟩ : Placement conv).stop := by
      apply Nat.le_antisymm
      · apply head.bounded _ (Nat.le_add_right _ _)
        intro placement mem
        exact Nat.le_of_eq (congrArg Placement.stop (List.mem_singleton.mp mem))
      · exact head.filled _ (List.mem_singleton_self _)
    rw [placedFrom, RequestParam.data_of_supplied supplied, ← reached]
    exact head.append (ih (fun other mem => keeps other (List.mem_cons_of_mem _ mem))
      (fun other mem => unpositioned other (List.mem_cons_of_mem _ mem)) rest)

end Encode

namespace RequestParam

/-- The end of the bytes of a field of standard length. -/
def stop (param : RequestParam conv) : Nat := param.pos + byteLen (param.field.bitLen [])

def reachesEnd (param : RequestParam conv) : Bool :=
  match param.field.length with
  | .toEnd _ _ => true
  | _ => false

/-- No bit belongs to both, and what reaches to the end is behind the other. -/
def Apart (first second : RequestParam conv) : Prop :=
  match first.reachesEnd, second.reachesEnd with
  | false, false => (first.field.place first.pos first.bit []).Apart
      (second.field.place second.pos second.bit [])
  | false, true => first.stop ≤ second.pos
  | true, false => second.stop ≤ first.pos
  | true, true => False

end RequestParam

/-- Parameters in any order, and behind them values without positions.  At most the last
one reaches to the end. -/
structure RequestLayout (conv : Conversions) where
  front : List (RequestParam conv)
  tail : List (RequestParam conv)
  positioned : ∀ param ∈ front, param.isValue = true → param.bytePos.isSome = true
  unpositioned : ∀ param ∈ tail, param.isValue = true ∧ param.bytePos = none
  distinct : ((front ++ tail).map RequestParam.shortName).Nodup
  apart : front.Pairwise RequestParam.Apart
  frontToEnd : ∀ param ∈ front, param.reachesEnd = true → tail = []
  tailToEnd : ∀ param ∈ tail.dropLast, param.reachesEnd = false

theorem insertionSort_append {α : Type} {before : α → α → Prop} [DecidableRel before]
    {front tail : List α} (last : ∀ item, ∀ other ∈ tail, before item other) :
    (front ++ tail).insertionSort before = front.insertionSort before ++ tail := by
  have insert : ∀ (item : α) (items : List α),
      (items ++ tail).orderedInsert before item = items.orderedInsert before item ++ tail := by
    intro item items
    induction items with
    | nil =>
      cases tail with
      | nil => rfl
      | cons other tail =>
        exact List.orderedInsert_cons_of_le before tail (last item other List.mem_cons_self)
    | cons other items ih =>
      rw [List.cons_append, List.orderedInsert_cons, List.orderedInsert_cons]
      split
      · rfl
      · rw [ih]
        rfl
  induction front with
  | nil =>
    rw [List.nil_append, List.insertionSort_nil, List.nil_append]
    exact List.Pairwise.insertionSort_eq (List.pairwise_of_forall_mem_list
      fun item _ other mem => last item other mem)
  | cons item items ih =>
    rw [List.cons_append, List.insertionSort_cons, ih, insert, List.insertionSort_cons]

namespace RequestLayout

variable (layout : RequestLayout conv)

def params : List (RequestParam conv) := layout.front ++ layout.tail

def parameters : List (Parameter conv) := layout.params.map RequestParam.parameter

/-- Where the parameter listed last of those in front ends. -/
def frontEnd : Nat := (layout.front.getLast?.map RequestParam.stop).getD 0

/-- Whether no parameter in front ends behind the one listed last. -/
def ListedLast : Prop :=
  layout.tail ≠ [] → ∀ last ∈ layout.front.getLast?, ∀ param ∈ layout.front, param.stop ≤ last.stop

def placements (values : ParameterMap) : List (Placement conv) :=
  layout.front.map (·.placed values) ++ placedFrom values layout.frontEnd layout.tail

variable {layout} {values : ParameterMap} {strict : Bool} {depth : Nat} {payload : List UInt8}

theorem parameters_sorted (layout : RequestLayout conv) :
    layout.parameters.insertionSort (fun a b => a.positionLe b) =
      (layout.front.insertionSort (fun a b => a.positionLe b) ++ layout.tail).map
        RequestParam.parameter := by
  have last : ∀ param, ∀ other ∈ layout.tail, RequestParam.positionLe param other = true := by
    intro param other mem
    have none := (layout.unpositioned other mem).2
    simp only [RequestParam.positionLe, Parameter.positionLe,
      RequestParam.parameter_hasBytePosition, none, Option.isSome_none]
    cases param.bytePos <;> rfl
  have sorted := @insertionSort_append _ (fun a b => RequestParam.positionLe a b = true) _
    layout.front layout.tail last
  rw [← sorted, parameters, params]
  exact (List.map_insertionSort (fun a b => RequestParam.positionLe a b = true)
    (fun a b : Parameter conv => a.positionLe b = true) RequestParam.parameter _
    fun _ _ _ _ => Iff.rfl).symm

theorem stop_placed {param : RequestParam conv} (standard : param.reachesEnd = false) :
    (param.placed values).stop = param.stop := by
  obtain ⟨_, _, _, _, ⟨length, _, _⟩, _⟩ := param
  cases length with
  | number bitLength => rfl
  | bytes bitLength => rfl
  | toEnd minLength maxLength => cases standard

theorem front_standard {param : RequestParam conv} (some : layout.tail ≠ [])
    (mem : param ∈ layout.front) : param.reachesEnd = false := by
  cases toEnd : param.reachesEnd with
  | false => rfl
  | true => exact absurd (layout.frontToEnd param mem toEnd) some

theorem length_eq_frontEnd {placements : List (Placement conv)} (some : layout.tail ≠ [])
    (listedLast : layout.ListedLast)
    (same : ∀ placement, placement ∈ placements ↔
      ∃ param ∈ layout.front, placement = param.placed values)
    (written : Written values placements [] payload) : payload.length = layout.frontEnd := by
  have standard : ∀ param ∈ layout.front, (param.placed values).stop = param.stop :=
    fun param mem => stop_placed (front_standard some mem)
  rw [frontEnd]
  cases last : layout.front.getLast? with
  | none =>
    apply Nat.eq_zero_of_le_zero
    apply written.bounded 0 (Nat.le_refl _)
    intro placement mem
    obtain ⟨param, inFront, _⟩ := (same placement).mp mem
    rw [List.getLast?_eq_none_iff.mp last] at inFront
    cases inFront
  | some listed =>
    have inFront := List.mem_of_getLast? last
    apply Nat.le_antisymm
    · apply written.bounded _ (Nat.zero_le _)
      intro placement mem
      obtain ⟨param, inFront, rfl⟩ := (same placement).mp mem
      rw [standard param inFront]
      exact listedLast some listed last param inFront
    · have filled := written.filled _ ((same _).mpr ⟨listed, inFront, rfl⟩)
      rw [standard listed inFront] at filled
      exact filled

theorem mem_front_placements {front : List (RequestParam conv)}
    (perm : ∀ param, param ∈ front ↔ param ∈ layout.front) (placement : Placement conv) :
    placement ∈ ((front ++ layout.tail).filter fun param => !param.isValue).map (·.placed values) ++
        (front.filter (·.isValue)).map (·.placed values) ↔
      ∃ param ∈ layout.front, placement = param.placed values := by
  simp only [List.mem_append, List.mem_map, List.mem_filter, perm]
  constructor
  · rintro (⟨param, ⟨mem, isConst⟩, rfl⟩ | ⟨param, ⟨mem, _⟩, rfl⟩)
    · obtain inFront | inTail := mem
      · exact ⟨param, inFront, rfl⟩
      · simp [(layout.unpositioned param inTail).1] at isConst
    · exact ⟨param, mem, rfl⟩
  · rintro ⟨param, mem, rfl⟩
    cases isValue : param.isValue with
    | true => exact .inr ⟨param, ⟨mem, isValue⟩, rfl⟩
    | false => exact .inl ⟨param, ⟨.inl mem, by simp [isValue]⟩, rfl⟩

theorem written_of_createUdsPayload (keeps : KeepsData values layout.params)
    (listedLast : layout.ListedLast)
    (created : createUdsPayload strict depth layout.parameters (some (.parameterMap values)) =
      .ok payload) :
    Written values (layout.placements values) [] payload := by
  have sorted := layout.parameters_sorted
  have perm := fun param => @List.mem_insertionSort _ (fun a b : RequestParam conv =>
    a.positionLe b = true) _ layout.front param
  generalize layout.front.insertionSort (fun a b => a.positionLe b) = front at sorted perm
  rw [createUdsPayload] at created
  simp only [sorted] at created
  obtain ⟨consts, constsDone, rest⟩ := exists_of_except_bind created
  obtain ⟨_, _, rest⟩ := exists_of_except_bind rest
  rw [List.foldlM_map, List.foldlM_append] at rest
  obtain ⟨middle, frontDone, tailDone⟩ := exists_of_except_bind rest
  have keepsFront : KeepsData values front := fun param mem =>
    keeps param (List.mem_append_left _ ((perm param).mp mem))
  have keepsTail : KeepsData values layout.tail := fun param mem =>
    keeps param (List.mem_append_right _ mem)
  have constsWritten : Written values (((front ++ layout.tail).filter fun param =>
      !param.isValue).map (·.placed values)) [] consts := by
    rw [processCodedConstants_eq values] at constsDone
    refine written_consts (fun param mem => ?_) constsDone
    obtain inFront | inTail := List.mem_append.mp mem
    · exact keepsFront param inFront
    · exact keepsTail param inTail
  have frontWritten := written_front keepsFront
    (fun param mem => layout.positioned param ((perm param).mp mem))
    (fun param mem isConst => (Nat.le_add_right _ _).trans (constsWritten.filled
      (param.placed values) (List.mem_map_of_mem (List.mem_filter.mpr
        ⟨List.mem_append_left _ mem, by simp [isConst]⟩))))
    frontDone
  have positioned := constsWritten.append frontWritten
  have tailWritten := written_tail keepsTail layout.unpositioned tailDone
  have ends : placedFrom values middle.length layout.tail =
      placedFrom values layout.frontEnd layout.tail := by
    by_cases none : layout.tail = []
    · rw [none]
      rfl
    · rw [length_eq_frontEnd none listedLast (mem_front_placements perm) positioned]
  rw [ends] at tailWritten
  refine (positioned.append tailWritten).congr fun placement => ?_
  rw [List.mem_append, mem_front_placements perm, placements, List.mem_append, List.mem_map]
  simp only [eq_comm]

end RequestLayout

end DiagnosticAdapter.Kernel
