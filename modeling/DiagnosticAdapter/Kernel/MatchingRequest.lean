import DiagnosticAdapter.Codec.StandardRead
import DiagnosticAdapter.Kernel.StructureLeaves

/-!
# Where a matching request parameter is read

`map_param_matching_request_from_uds` decodes the request parameter that it refers to, at
the position that this has in the request, in a view that starts at the response parameter
where its position is the greater one.
-/

namespace DiagnosticAdapter.Kernel

open Bits Codec Effects Decoder

variable {conv : Conversions}

/-- The length of a constant or extracted content that is unmasked and of standard length. -/
def Content.unmasked? (content : Content conv) : Option StandardLengthType :=
  match content with
  | .constant diagType _ | .extracted diagType _ =>
    match diagType.type_ with
    | .standardLength slt => if slt.bitMask.isNone then some slt else none
    | _ => none
  | _ => none

def Content.fieldValue? (content : Content conv) (bitPos : Nat) (field : List UInt8) :
    Option (Container conv) := do
  let slt ← content.unmasked?
  match content with
  | .constant diagType codedValue => do
    let read ← (diagType.readField slt bitPos field).toOption
    let constValue ← codedValue
    let expected ← (expectedConst conv diagType constValue read.1.length).toOption
    if read.1 = expected then some (.raw ⟨read.1, read.2, diagType.baseDatatype, none⟩) else none
  | .extracted diagType compuMethod => do
    let read ← (diagType.readField slt bitPos field).toOption
    some (.raw ⟨read.1, read.2, diagType.baseDatatype, compuMethod⟩)
  | _ => none

theorem toOption_eq_some_iff {α : Type} {outcome : Except DiagServiceError α} {value : α} :
    outcome.toOption = some value ↔ outcome = .ok value := by
  cases outcome with
  | error failure | ok result => simp [Except.toOption]

theorem extractAt_standard_eq_ok_iff {diagType : DiagCodedType} {slt : StandardLengthType}
    (standard : diagType.type_ = .standardLength slt) (unmasked : slt.bitMask = none)
    {compuMethod : Option conv.CompuMethod} {bytes : List UInt8} {bytePos bitPos : Nat}
    {raw : RawContainer conv} {stop : Nat} :
    extractAt diagType compuMethod bytes bytePos bitPos = .ok (raw, stop) ↔
      bytePos + byteLen slt.bitLength ≤ bytes.length ∧ stop = bytePos + byteLen slt.bitLength ∧
        ∃ read, diagType.readField slt bitPos
          (DiagCodedType.fieldBytes slt bytes bytePos) = .ok read ∧
          raw = ⟨read.1, read.2, diagType.baseDatatype, compuMethod⟩ := by
  have required : isOptional diagType = false := by
    rw [isOptional, standard]
  have present : decodeIfPresent diagType bytes bytePos bitPos =
      diagType.decode bytes bytePos bitPos := by
    rw [decodeIfPresent, required, if_neg (by simp)]
  rw [extractAt, present, except_bind_eq_ok_iff]
  constructor
  · intro extracted
    obtain ⟨read, decoded, made⟩ := extracted
    obtain ⟨enough, field⟩ := (DiagCodedType.decode_standard_eq_ok_iff standard).1 decoded
    obtain ⟨length, _⟩ := DiagCodedType.length_of_readField unmasked field
    dsimp only at made
    split at made
    · cases made
    · cases made
      exact ⟨enough, congrArg (bytePos + ·) length, read, field, rfl⟩
  · intro read
    obtain ⟨enough, rfl, read, field, rfl⟩ := read
    obtain ⟨length, positive, _⟩ := DiagCodedType.length_of_readField unmasked field
    refine ⟨read, (DiagCodedType.decode_standard_eq_ok_iff standard).2 ⟨enough, field⟩, ?_⟩
    have given : read.1.isEmpty = false := by
      rw [← Bool.not_eq_true, List.isEmpty_iff_length_eq_zero, length, byteLen]
      omega
    simp only [given, length]
    rfl

theorem Content.unmasked?_eq_some {content : Content conv} {slt : StandardLengthType}
    (unmasked : content.unmasked? = some slt) :
    ∃ diagType : DiagCodedType, diagType.type_ = .standardLength slt ∧ slt.bitMask = none ∧
      ((∃ codedValue, content = .constant diagType codedValue) ∨
        ∃ compuMethod, content = .extracted diagType compuMethod) := by
  cases content with
  | constant diagType codedValue =>
    refine ⟨diagType, ?_⟩
    cases standard : diagType.type_ with
    | standardLength found =>
      simp only [unmasked?, standard, Option.ite_none_right_eq_some, Option.isNone_iff_eq_none]
        at unmasked
      obtain ⟨noMask, same⟩ := unmasked
      cases same
      exact ⟨rfl, noMask, .inl ⟨codedValue, rfl⟩⟩
    | _ => simp [unmasked?, standard] at unmasked
  | extracted diagType compuMethod =>
    refine ⟨diagType, ?_⟩
    cases standard : diagType.type_ with
    | standardLength found =>
      simp only [unmasked?, standard, Option.ite_none_right_eq_some, Option.isNone_iff_eq_none]
        at unmasked
      obtain ⟨noMask, same⟩ := unmasked
      cases same
      exact ⟨rfl, noMask, .inr ⟨compuMethod, rfl⟩⟩
    | _ => simp [unmasked?, standard] at unmasked
  | _ => cases unmasked

theorem Content.read_unmasked_eq_ok_iff {content : Content conv} {slt : StandardLengthType}
    (unmasked : content.unmasked? = some slt) (data : MappedPayload conv) {bytes : List UInt8}
    {bytePos bitPos : Nat} {container : Container conv} {next : Option Nat} :
    content.read bytes data bytePos bitPos = .ok (container, next) ↔
      bytePos + byteLen slt.bitLength ≤ bytes.length ∧
        next = some (bytePos + byteLen slt.bitLength) ∧
        content.fieldValue? bitPos (DiagCodedType.fieldBytes slt bytes bytePos) =
          some container := by
  obtain ⟨diagType, standard, noMask, kind⟩ := unmasked?_eq_some unmasked
  rw [fieldValue?, unmasked]
  rcases kind with ⟨codedValue, rfl⟩ | ⟨compuMethod, rfl⟩
  · simp only [read, except_bind_eq_ok_iff, Prod.exists,
      extractAt_standard_eq_ok_iff standard noMask, Option.bind_eq_bind, Option.bind_some,
      Option.bind_eq_some_iff, toOption_eq_some_iff]
    constructor
    · intro extracted
      obtain ⟨_, _, ⟨enough, rfl, read, length, field, rfl⟩, made⟩ := extracted
      cases given : codedValue with
      | none =>
        rw [given] at made
        cases made
      | some constValue =>
        rw [given, except_bind_eq_ok_iff] at made
        obtain ⟨expected, converted, made⟩ := made
        dsimp only at made
        split at made
        · cases made
        · rename_i same
          cases made
          exact ⟨enough, rfl, read, length, field, constValue, rfl, expected, converted,
            if_pos (not_not.1 same)⟩
    · intro found
      obtain ⟨enough, rfl, read, length, field, constValue, given, expected, converted, made⟩ := found
      split at made
      · rename_i same
        cases made
        refine ⟨_, _, ⟨enough, rfl, read, length, field, rfl⟩, ?_⟩
        rw [given]
        dsimp only
        rw [converted]
        exact if_neg (not_not.2 same)
      · cases made
  · simp only [read, except_bind_eq_ok_iff, Prod.exists,
      extractAt_standard_eq_ok_iff standard noMask, Option.bind_eq_bind, Option.bind_some,
      Option.bind_eq_some_iff, toOption_eq_some_iff]
    constructor
    · intro extracted
      obtain ⟨_, _, ⟨enough, rfl, read, length, field, rfl⟩, made⟩ := extracted
      cases made
      exact ⟨enough, rfl, read, length, field, rfl⟩
    · intro found
      obtain ⟨enough, rfl, read, length, field, made⟩ := found
      cases made
      exact ⟨_, _, ⟨enough, rfl, read, length, field, rfl⟩, rfl⟩

def Content.found (content : Content conv) (bytes : List UInt8) (data : MappedPayload conv)
    (bitPos bytePos : Nat) : Option (Container conv) :=
  (content.read bytes data bytePos bitPos).toOption.map Prod.fst

section Found

variable {content : Content conv} {slt : StandardLengthType}
  (unmasked : content.unmasked? = some slt) {bytes : List UInt8} {data : MappedPayload conv}
  {bitPos bytePos : Nat} {container : Container conv}

include unmasked

theorem Content.found_eq_some_iff : content.found bytes data bitPos bytePos = some container ↔
      content.read bytes data bytePos bitPos =
        .ok (container, some (bytePos + byteLen slt.bitLength)) := by
  rw [found, Option.map_eq_some_iff]
  constructor
  · intro found
    obtain ⟨⟨_, next⟩, read, rfl⟩ := found
    rw [toOption_eq_some_iff] at read
    obtain ⟨_, rfl, _⟩ := (read_unmasked_eq_ok_iff unmasked data).1 read
    exact read
  · intro read
    exact ⟨_, toOption_eq_some_iff.2 read, rfl⟩

theorem Content.le_of_found (isFound : content.found bytes data bitPos bytePos = some container) :
    bytePos + byteLen slt.bitLength ≤ bytes.length :=
  ((read_unmasked_eq_ok_iff unmasked data).1 ((found_eq_some_iff unmasked).1 isFound)).1

theorem Content.found_drop {start : Nat} (within : start ≤ bytes.length) :
    content.found (bytes.drop start) data bitPos bytePos =
      content.found bytes data bitPos (start + bytePos) := by
  ext container
  rw [found_eq_some_iff unmasked, found_eq_some_iff unmasked, read_unmasked_eq_ok_iff unmasked,
    read_unmasked_eq_ok_iff unmasked, DiagCodedType.fieldBytes_drop, List.length_drop]
  constructor
  · intro read
    obtain ⟨enough, _, field⟩ := read
    exact ⟨by omega, rfl, field⟩
  · intro read
    obtain ⟨enough, _, field⟩ := read
    exact ⟨by omega, rfl, field⟩

theorem Stores.eq_ok_iff {decoder : Decoder conv Unit} {name : Text} {state : DecodeState conv}
    (shows : state.payload.Shows bytes)
    (stores : Stores decoder name state (content.read bytes state.data bytePos bitPos))
    (final : DecodeState conv) :
    decoder state = .ok () final ↔
      ∃ container, content.found bytes state.data bitPos bytePos = some container ∧
        final = state.reached ⟨bytePos + byteLen slt.bitLength,
          state.data.insert name container⟩ := by
  rw [stores final]
  constructor
  · intro stored
    obtain ⟨container, next, read, rfl⟩ := stored
    obtain ⟨enough, rfl, _⟩ := (Content.read_unmasked_eq_ok_iff unmasked _).1 read
    refine ⟨container, (Content.found_eq_some_iff unmasked).2 read, ?_⟩
    rw [DecodeState.store, Option.elim_some, Payload.setLastReadBytePos, shows.len,
      if_neg (by omega)]
    rfl
  · intro found
    obtain ⟨container, isFound, rfl⟩ := found
    refine ⟨container, _, (Content.found_eq_some_iff unmasked).1 isFound, ?_⟩
    have enough := Content.le_of_found unmasked isFound
    rw [DecodeState.store, Option.elim_some, Payload.setLastReadBytePos, shows.len,
      if_neg (by omega)]
    rfl

end Found

/-- A decoder that is run in the view from `start` on, where there is one. -/
theorem inView_toEnd_eq_ok_iff {body : Decoder conv Unit} {start : Nat} {bytes : List UInt8}
    {state : DecodeState conv} (shows : state.payload.Shows bytes)
    (result : Progress conv → Prop)
    (inside : ∀ opened : DecodeState conv, opened.progress = state.progress →
      opened.payload.Shows (bytes.drop start) → ∀ middle, body opened = .ok () middle ↔
        ∃ progress, result progress ∧ middle = opened.reached progress)
    (final : DecodeState conv) :
    inView start state.payload.len body state = .ok () final ↔
      start ≤ bytes.length ∧ ∃ progress, result progress ∧ final = state.reached progress := by
  cases pushed : state.payload.pushSlice start state.payload.len with
  | error failure =>
    have short : ¬start ≤ bytes.length := by
      intro within
      rw [Payload.pushSlice, if_neg (by rw [shows.len]; omega)] at pushed
      cases pushed
    rw [inView_of_refused pushed]
    simp [short]
  | ok next =>
    have within : start ≤ bytes.length := by
      by_contra short
      rw [Payload.pushSlice, if_pos (by rw [shows.len]; omega)] at pushed
      cases pushed
    obtain ⟨nextShows, view, rfl⟩ := shows_of_pushSlice shows pushed
    have ran := inside { state with
      payload := { state.payload with slices := state.payload.slices ++ [view] } } rfl nextShows
    have closed (progress : Progress conv) : (do popSlice; return () : Decoder conv Unit)
        (({ state with payload := { state.payload with
          slices := state.payload.slices ++ [view] } } : DecodeState conv).reached progress) =
        .ok () (state.reached progress) := by
      rw [popSlice_of_ne_nil (by simp [DecodeState.reached])]
      simp only [DecodeState.reached, List.dropLast_concat]
    constructor
    · intro viewed
      refine ⟨within, ?_⟩
      cases ranBody : body { state with
          payload := { state.payload with slices := state.payload.slices ++ [view] } } with
      | error failure middle =>
        rw [inView_of_error pushed ranBody] at viewed
        cases viewed
      | ok value middle =>
        obtain ⟨progress, isResult, rfl⟩ := (ran middle).1 ranBody
        rw [inView_of_ok pushed ranBody, closed] at viewed
        cases viewed
        exact ⟨progress, isResult, rfl⟩
    · intro found
      obtain ⟨_, progress, isResult, rfl⟩ := found
      rw [inView_of_ok pushed ((ran _).2 ⟨progress, isResult, rfl⟩), closed]

/-- Where the view starts in which the request parameter is decoded. -/
def ParamContext.matchedStart (paramCtx : ParamContext conv) (requestBytePos : Nat) : Nat :=
  if requestBytePos < paramCtx.parameter.bytePosition then paramCtx.absBytePos else 0

/-- The value that is found at a position is stored, and the read position lies behind it;
where none is found the parameter is refused. -/
structure ReadsAt (decoder : Decoder conv Unit) (name : Text) (content : Content conv)
    (bitPos bytePos : Nat) (bytes : List UInt8) (state : DecodeState conv) : Prop where
  found : ∀ container stop,
    content.read bytes state.data bytePos bitPos = .ok (container, some stop) →
    ∃ final, decoder state = .ok () final ∧ final.data = state.data.insert name container ∧
      stop ≤ final.payload.lastReadBytePos
  refused : content.found bytes state.data bitPos bytePos = none →
    ∀ final, decoder state ≠ .ok () final

theorem insert_inj {data : MappedPayload conv} {name : Text} {first second : Container conv}
    (same : data.insert name first = data.insert name second) : first = second := by
  have entries := congrFun same name
  simp only [MappedPayload.insert, Function.update_self] at entries
  exact Option.some.inj entries

section Matching

variable {service : DiagService conv} {requestBytePos : Nat} {paramCtx : ParamContext conv}
  {requestParam : Parameter conv} {content : Content conv}
  {slt : StandardLengthType} {state : DecodeState conv} {bytes : List UInt8}
  (specific : paramCtx.parameter.specificData = .matchingRequestParam requestBytePos)
  (isMatching : paramCtx.parameter.paramType = .ok .matchingRequestParam)
  (referred : matchingRequestParam service paramCtx requestBytePos = .ok requestParam)
  (isLeaf : requestParam.content? = some content) (unmasked : content.unmasked? = some slt)
  (shows : state.payload.Shows bytes)

/-- Where the request parameter is read in that view. -/
def matchedPos (requestParam : Parameter conv) (state : DecodeState conv) : Nat :=
  (ParamContext.new requestParam 0).leafPos state.payload.lastReadBytePos

include specific isMatching referred isLeaf unmasked shows

/-- A matching request parameter is decoded exactly where its request parameter can be read
at its own position behind the start of the view. -/
theorem matchingRequest_eq_ok_iff (depth : Nat) (callerName : Text) (final : DecodeState conv) :
    mapParamFromUds service (depth + 2) callerName paramCtx state = .ok () final ↔
      ∃ container, content.found bytes state.data requestParam.bitPosition
          (paramCtx.matchedStart requestBytePos + matchedPos requestParam state) = some container ∧
        final = state.reached ⟨matchedPos requestParam state + byteLen slt.bitLength,
          state.data.insert (requestParam.storedName callerName) container⟩ := by
  change mapParamKindFromUds service (mapParamFromUds service (depth + 1)) callerName paramCtx
    state = _ ↔ _
  rw [mapParamKindFromUds, isMatching]
  change mapParamMatchingRequestFromUds service (mapParamFromUds service (depth + 1)) callerName
    paramCtx state = _ ↔ _
  rw [mapParamMatchingRequestFromUds, specific]
  dsimp only
  rw [if_neg (by omega), Int.toNat_natCast, referred, bind_of_ok (ofExcept_eq_ok_iff.2 ⟨rfl, rfl⟩),
    ParamContext.matchedStart]
  have decoded {opened : DecodeState conv} {part : List UInt8}
      (same : opened.progress = state.progress) (openedShows : opened.payload.Shows part)
      (middle : DecodeState conv) :
      mapParamFromUds service (depth + 1) callerName (.new requestParam 0) opened = .ok () middle ↔
        ∃ container, content.found part state.data requestParam.bitPosition
            (matchedPos requestParam state) = some container ∧
          middle = opened.reached ⟨matchedPos requestParam state + byteLen slt.bitLength,
            state.data.insert (requestParam.storedName callerName) container⟩ := by
    have inRequest : (ParamContext.new requestParam 0).parameter.content? = some content := isLeaf
    have stores := mapParamKindFromUds_stores inRequest openedShows service
      (mapParamFromUds service depth) callerName
    have ran := stores.eq_ok_iff unmasked openedShows middle
    obtain ⟨lastRead, data⟩ := Progress.mk.inj same
    rw [lastRead, data] at ran
    exact ran
  by_cases behind : requestBytePos < paramCtx.parameter.bytePosition
  · have measured : len state = .ok state.payload.len state := rfl
    rw [if_pos behind, if_pos behind, bind_of_ok measured,
      inView_toEnd_eq_ok_iff shows fun progress => ∃ container,
        content.found (bytes.drop paramCtx.absBytePos) state.data requestParam.bitPosition
          (matchedPos requestParam state) = some container ∧
        progress = ⟨matchedPos requestParam state + byteLen slt.bitLength,
          state.data.insert (requestParam.storedName callerName) container⟩]
    · constructor
      · intro viewed
        obtain ⟨within, _, ⟨container, isFound, rfl⟩, rfl⟩ := viewed
        rw [Content.found_drop unmasked within] at isFound
        exact ⟨container, isFound, rfl⟩
      · intro found
        obtain ⟨container, isFound, rfl⟩ := found
        have within : paramCtx.absBytePos ≤ bytes.length := by
          have enough := Content.le_of_found unmasked isFound
          omega
        rw [← Content.found_drop unmasked within] at isFound
        exact ⟨within, _, ⟨container, isFound, rfl⟩, rfl⟩
    · intro opened same openedShows middle
      rw [decoded same openedShows]
      constructor
      · intro found
        obtain ⟨container, isFound, rfl⟩ := found
        exact ⟨_, ⟨container, isFound, rfl⟩, rfl⟩
      · intro found
        obtain ⟨_, ⟨container, isFound, rfl⟩, rfl⟩ := found
        exact ⟨container, isFound, rfl⟩
  · rw [if_neg behind, if_neg behind, Nat.zero_add]
    exact decoded rfl shows final

/-- A matching request parameter is read at its position in the response exactly if the
place where its request parameter is looked for holds the same, or also nothing, and that
place does not lie in front of the parameter when counted without the view. -/
theorem matchingRequest_readsAt_iff (depth : Nat) (callerName : Text) :
    ReadsAt (mapParamFromUds service (depth + 2) callerName paramCtx)
        (requestParam.storedName callerName) content requestParam.bitPosition paramCtx.absBytePos
        bytes state ↔
      content.found bytes state.data requestParam.bitPosition
          (paramCtx.matchedStart requestBytePos + matchedPos requestParam state) =
        content.found bytes state.data requestParam.bitPosition paramCtx.absBytePos ∧
      (content.found bytes state.data requestParam.bitPosition paramCtx.absBytePos ≠ none →
        paramCtx.absBytePos ≤ matchedPos requestParam state) := by
  have ran := matchingRequest_eq_ok_iff specific isMatching referred isLeaf unmasked shows depth
    callerName
  constructor
  · intro reads
    cases here : content.found bytes state.data requestParam.bitPosition paramCtx.absBytePos with
    | none =>
      refine ⟨Option.eq_none_iff_forall_ne_some.2 fun container isFound => ?_, absurd rfl⟩
      exact reads.refused here _ ((ran _).2 ⟨container, isFound, rfl⟩)
    | some container =>
      obtain ⟨final, decoded, stored, behind⟩ :=
        reads.found container _ ((Content.found_eq_some_iff unmasked).1 here)
      obtain ⟨other, isFound, rfl⟩ := (ran final).1 decoded
      obtain rfl := insert_inj stored
      exact ⟨isFound, fun _ => Nat.le_of_add_le_add_right behind⟩
  · intro condition
    obtain ⟨same, behind⟩ := condition
    constructor
    · intro container stop read
      have here : content.found bytes state.data requestParam.bitPosition paramCtx.absBytePos =
          some container := by
        rw [Content.found, read]
        rfl
      obtain ⟨_, ends, _⟩ := (Content.read_unmasked_eq_ok_iff unmasked _).1 read
      cases ends
      refine ⟨_, (ran _).2 ⟨container, same.trans here, rfl⟩, rfl, ?_⟩
      apply Nat.add_le_add_right
      apply behind
      rw [here]
      exact Option.some_ne_none container
    · intro none final decoded
      obtain ⟨container, isFound, _⟩ := (ran final).1 decoded
      rw [same, none] at isFound
      cases isFound

end Matching

namespace IntegerDatabase

/-- A service with a byte behind the service identifier of its request. -/
def oneByteRequest : DiagService integerConversions :=
  ⟨some ⟨some [valueParam "id" 1 (normalDop (number 8))]⟩⟩

def echoedByte (bytePos : Nat) : Parameter integerConversions :=
  ⟨.ok .matchingRequestParam, some "id".toList, none, some bytePos, none, .matchingRequestParam 1⟩

def byteContent : Content integerConversions := .extracted (number 8) (some ())

theorem echoedByte_reads_same_position :
    ReadsAt (mapParamFromUds oneByteRequest 2 "id".toList (.new (echoedByte 1) 0)) "id".toList
      byteContent 0 1 [0x62, 7] (.new [0x62, 7]) := by
  have same : (ParamContext.new (echoedByte 1) 0).matchedStart 1 +
      matchedPos (valueParam "id" 1 (normalDop (number 8))) (.new [0x62, 7]) =
      (ParamContext.new (echoedByte 1) 0).absBytePos := rfl
  have isLeaf : (valueParam "id" 1 (normalDop (number 8))).content? = some byteContent := rfl
  apply (matchingRequest_readsAt_iff rfl rfl rfl isLeaf rfl (shows_new _) 0 "id".toList).2
  rw [same]
  exact ⟨rfl, fun _ => le_rfl⟩

/-- Behind two bytes of the response, the byte after the echoed one is decoded. -/
theorem echoedByte_reads_next_byte :
    ¬ReadsAt (mapParamFromUds oneByteRequest 2 "id".toList (.new (echoedByte 2) 0)) "id".toList
      byteContent 0 2 [0x62, 0, 7, 9] (.new [0x62, 0, 7, 9]) := by
  intro reads
  obtain ⟨final, ran, stored, _⟩ := reads.found _ _ rfl
  have decoded : decodedBytes (.ok () final) "id" = some [9] := by
    rw [← ran]
    rfl
  have there : decodedBytes (.ok () final) "id" = some [7] := by
    rw [decodedBytes, finalState, stored]
    rfl
  rw [decoded] at there
  revert there
  decide

end IntegerDatabase

end DiagnosticAdapter.Kernel
