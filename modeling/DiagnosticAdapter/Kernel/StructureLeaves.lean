import DiagnosticAdapter.Kernel.Leaves
import DiagnosticAdapter.Kernel.Locality

/-!
# The leaves of a structure

`map_structure_dop_from_uds` decodes nested structures into the map of its caller.  What
it does is what its leaves do one after another.
-/

namespace DiagnosticAdapter.Kernel

open Bits Codec Effects Decoder

variable {conv : Conversions}

def DataOperation.IsPlain : DataOperation conv → Prop
  | .normal _ | .dtc _ | .struct _ | .invalid _ => True
  | _ => False

/-- The kinds of parameters, and what they may refer to. -/
def Parameter.IsPlain (param : Parameter conv) : Prop :=
  (param.paramType = .ok .codedConst ∨ param.paramType = .ok .reserved ∨
    param.paramType = .ok .value ∨ param.paramType = .ok .physConst ∨
    param.paramType = .ok .matchingRequestParam) ∧
  match param.specificData with
  | .value _ (some dop) | .physConst _ (some dop) => dop.IsPlain
  | _ => True

/-- All parameters are of these kinds, to any depth. -/
inductive StructureDop.IsPlain : StructureDop conv → Prop
  | intro (structDop : StructureDop conv)
      (params : ∀ param ∈ structDop.params.getD [], param.IsPlain)
      (inner : ∀ param ∈ structDop.params.getD [], ∀ inner, param.inner? = some inner →
        inner.IsPlain) :
      structDop.IsPlain

def Parameter.IsPlainInside (param : Parameter conv) : Prop :=
  param.IsPlain ∧ ∀ inner, param.inner? = some inner → inner.IsPlain

/-- The same for the request that a response parameter may refer to. -/
def DiagService.IsPlain (service : DiagService conv) : Prop :=
  ∀ request, service.request = some request → ∀ param ∈ request.params.getD [], param.IsPlainInside

/-- Where a parameter is decoded: its position in the bytes from `viewStart` on, and its
position in all bytes, which a matching request parameter takes from the response. -/
structure Site where
  viewStart : Nat
  bytePos : Nat
  place : Nat
  matched : Bool
  deriving DecidableEq, Repr

def Site.within (site : Site) (param : Parameter conv) : Site :=
  ⟨site.viewStart, site.bytePos + param.bytePosition, site.place + param.bytePosition, false⟩

def Parameter.leaf (param : Parameter conv) (content : Content conv) (callerName : Text)
    (site : Site) : Leaf conv where
  name := param.storedName callerName
  content := content
  viewStart := site.viewStart
  bytePos := if param.followsReading && !param.hasBytePosition then none else some site.bytePos
  bitPos := param.bitPosition
  place := if param.followsReading && !param.hasBytePosition && !site.matched then none
    else some site.place

section Nested

variable (service : DiagService conv) (paramLeaves : Text → Parameter conv → Site → List (Leaf conv))

def structLeaves (callerName : Text) (structDop : StructureDop conv) (site : Site) :
    List (Leaf conv) :=
  (structDop.params.getD []).flatMap fun param =>
    paramLeaves callerName param (site.within param)

def paramKindLeaves (callerName : Text) (param : Parameter conv) (site : Site) : List (Leaf conv) :=
  match param.content? with
  | some content => [param.leaf content callerName site]
  | none =>
    match param.paramType, param.specificData with
    | .ok .value, .value _ (some (.struct structDop))
    | .ok .physConst, .physConst _ (some (.struct structDop)) =>
      structLeaves paramLeaves (param.shortName.getD []) structDop site
    | .ok .matchingRequestParam, .matchingRequestParam requestBytePos =>
      match matchingRequestParam service (.new param 0) requestBytePos.toNat with
      | .ok requestParam =>
        paramLeaves callerName requestParam
          ⟨if requestBytePos.toNat < param.bytePosition then site.viewStart + site.bytePos
            else site.viewStart, requestParam.bytePosition, site.place, true⟩
      | .error _ => []
    | _, _ => []

end Nested

/-- The leaves of a parameter, nested at most `depth` deep. -/
def paramLeaves (service : DiagService conv) : Nat → Text → Parameter conv → Site → List (Leaf conv)
  | 0, _, _, _ => []
  | depth + 1, callerName, param, site =>
    paramKindLeaves service (paramLeaves service depth) callerName param site

namespace DecodeState

def progress (state : DecodeState conv) : Progress conv :=
  ⟨state.payload.lastReadBytePos, state.data⟩

def reached (state : DecodeState conv) (progress : Progress conv) : DecodeState conv :=
  { state with
    payload := { state.payload with lastReadBytePos := progress.lastRead }
    data := progress.data }

@[simp]
theorem progress_reached (state : DecodeState conv) (progress : Progress conv) :
    (state.reached progress).progress = progress := rfl

@[simp]
theorem reached_reached (state : DecodeState conv) (first second : Progress conv) :
    (state.reached first).reached second = state.reached second := rfl

theorem shows_reached {state : DecodeState conv} {bytes : List UInt8}
    (shows : state.payload.Shows bytes) (progress : Progress conv) :
    (state.reached progress).payload.Shows bytes :=
  ⟨shows.view, shows.len⟩

end DecodeState

section Flatten

variable {mapParam : Text → ParamContext conv → Decoder conv Unit}
  {leavesOf : Text → Parameter conv → Site → List (Leaf conv)}

variable (mapParam leavesOf) in
/-- A run that returns has read the leaves of the parameter, and nothing else. -/
def Flattens (param : Parameter conv) : Prop :=
  ∀ callerName (paramCtx : ParamContext conv) (site : Site) bytes
    (state final : DecodeState conv), paramCtx.parameter = param →
    paramCtx.absBytePos = site.bytePos →
    state.payload.Shows (bytes.drop site.viewStart) →
    mapParam callerName paramCtx state = .ok () final →
    AllRead bytes state.progress (leavesOf callerName param site) ∧
      final = state.reached (afterAll bytes state.progress (leavesOf callerName param site))

variable {state final : DecodeState conv} {bytes : List UInt8}

theorem leaf_of_stores {leaf : Leaf conv} {decoder : Decoder conv Unit}
    (shows : state.payload.Shows (bytes.drop leaf.viewStart))
    (stores : Stores decoder leaf.name state (leaf.read bytes state.progress))
    (ran : decoder state = .ok () final) :
    AllRead bytes state.progress [leaf] ∧
      final = state.reached (afterAll bytes state.progress [leaf]) := by
  obtain ⟨container, next, read, rfl⟩ := (stores final).1 ran
  constructor
  · intro step isStep
    obtain rfl := List.mem_singleton.1 isStep
    rw [read]
    rfl
  · change state.store leaf.name container next = state.reached (leaf.after bytes state.progress)
    rw [Leaf.after, read]
    cases next with
    | none => rfl
    | some stop =>
      have length : state.payload.len = bytes.length - leaf.viewStart := by
        rw [shows.len, List.length_drop]
      have moved : (if stop > state.payload.len then state.payload.len else stop) =
          min stop (bytes.length - leaf.viewStart) := by
        rw [length]
        split <;> omega
      simp only [DecodeState.store, Option.elim_some, Payload.setLastReadBytePos, moved]
      rfl

theorem forEach_cons_eq_ok {β : Type} {body : β → Decoder conv Unit} {item : β} {items : List β}
    (ran : forEach body (item :: items) state = .ok () final) :
    ∃ value middle, body item state = .ok value middle ∧
      forEach body items middle = .ok () final := by
  rw [forEach, mapEach, bind_eq_ok_iff] at ran
  obtain ⟨values, last, ranAll, done⟩ := ran
  obtain ⟨value, middle, ranItem, ranRest⟩ := exists_of_bind_eq_ok ranAll
  obtain ⟨others, reached, ranItems, made⟩ := exists_of_bind_eq_ok ranRest
  cases made
  refine ⟨value, middle, ranItem, ?_⟩
  rw [forEach, bind_of_ok ranItems]
  exact done

theorem flattens_forEach {params : List (Parameter conv)} {callerName : Text} {site : Site}
    (flattens : ∀ param ∈ params, Flattens mapParam leavesOf param)
    (shows : state.payload.Shows (bytes.drop site.viewStart))
    (ran : forEach (fun param => mapParam callerName (.new param site.bytePos)) params state =
      .ok () final) :
    AllRead bytes state.progress
        (params.flatMap fun param => leavesOf callerName param (site.within param)) ∧
      final = state.reached (afterAll bytes state.progress
        (params.flatMap fun param => leavesOf callerName param (site.within param))) := by
  induction params generalizing state with
  | nil =>
    cases ran
    constructor
    · intro step isStep
      cases isStep
    · rfl
  | cons param rest ih =>
    obtain ⟨first, later⟩ := List.forall_mem_cons.1 flattens
    obtain ⟨_, middle, ranFirst, ranRest⟩ := forEach_cons_eq_ok ran
    obtain ⟨readFirst, rfl⟩ := first callerName (.new param site.bytePos) (site.within param)
      bytes state middle rfl rfl shows ranFirst
    obtain ⟨readRest, rfl⟩ := ih later (DecodeState.shows_reached shows _) ranRest
    rw [List.flatMap_cons, allRead_append]
    refine ⟨⟨readFirst, readRest⟩, ?_⟩
    rw [DecodeState.progress_reached, DecodeState.reached_reached, afterAll, afterAll, afterAll,
      List.foldl_append]

theorem flattens_structure {structDop : StructureDop conv} {callerName : Text} {site : Site}
    {paramCtx : ParamContext conv}
    (flattens : ∀ param ∈ structDop.params.getD [], Flattens mapParam leavesOf param)
    (position : paramCtx.absBytePos = site.bytePos)
    (shows : state.payload.Shows (bytes.drop site.viewStart))
    (ran : mapStructureDopFromUds mapParam callerName structDop paramCtx state = .ok () final) :
    AllRead bytes state.progress (structLeaves leavesOf callerName structDop site) ∧
      final = state.reached
        (afterAll bytes state.progress (structLeaves leavesOf callerName structDop site)) := by
  rw [mapStructureDopFromUds, bind_eq_ok_iff] at ran
  obtain ⟨length, _, measured, ran⟩ := ran
  cases measured
  split at ran
  · cases ran
  · rw [position] at ran
    exact flattens_forEach flattens shows ran

theorem slice?_eq_some {data part : List UInt8} {start stop : Nat}
    (sliced : slice? data start stop = some part) :
    start ≤ stop ∧ stop ≤ data.length ∧ part = (data.drop start).take (stop - start) := by
  rw [slice?] at sliced
  split at sliced
  · rename_i within
    cases sliced
    exact ⟨within.1, within.2, rfl⟩
  · cases sliced

theorem exists_range_of_shows {payload : Payload} (shows : payload.Shows bytes) :
    ∃ stop, payload.pos ≤ stop ∧ stop ≤ payload.data.length ∧
      bytes = (payload.data.drop payload.pos).take (stop - payload.pos) ∧
      payload.len = stop - payload.pos := by
  have viewed := shows.view
  have length := shows.len
  unfold Payload.view at viewed
  unfold Payload.len Payload.pos at *
  cases top : payload.slices.getLast? with
  | none =>
    simp only [top] at viewed length ⊢
    cases sliced : slice? payload.data payload.currentIndex payload.data.length with
    | none =>
      rw [sliced] at viewed
      cases viewed
    | some part =>
      rw [sliced] at viewed
      cases viewed
      obtain ⟨within, _, rfl⟩ := slice?_eq_some sliced
      rw [List.length_take, List.length_drop] at length
      exact ⟨payload.data.length, within, le_rfl, rfl, by omega⟩
  | some range =>
    simp only [top] at viewed length ⊢
    cases sliced : slice? payload.data range.1 range.2 with
    | none =>
      rw [sliced] at viewed
      cases viewed
    | some part =>
      rw [sliced] at viewed
      cases viewed
      obtain ⟨within, inside, rfl⟩ := slice?_eq_some sliced
      exact ⟨range.2, within, inside, rfl, rfl⟩

/-- The view from `start` to the end of what is in view. -/
theorem shows_of_pushSlice {payload next : Payload} {start : Nat}
    (shows : payload.Shows bytes) (pushed : payload.pushSlice start payload.len = .ok next) :
    next.Shows (bytes.drop start) ∧ ∃ view, next =
      { payload with slices := payload.slices ++ [view] } := by
  obtain ⟨stop, within, inside, rfl, length⟩ := exists_range_of_shows shows
  unfold Payload.pushSlice at pushed
  split at pushed
  · cases pushed
  · rename_i room
    cases pushed
    have last : min (payload.pos + payload.len) payload.data.length = stop := by omega
    rw [last]
    refine ⟨⟨?_, ?_⟩, _, rfl⟩
    · simp only [Payload.view, List.getLast?_concat]
      rw [slice?_of_le (by omega) inside, List.drop_take, List.drop_drop, Nat.sub_sub]
    · simp only [Payload.len, List.getLast?_concat, List.length_drop, List.length_take]
      rw [Nat.min_eq_left (Nat.sub_le_sub_right inside _), Nat.sub_sub]

theorem reached_of_inView {body : Decoder conv Unit} {start : Nat}
    {read : Prop} {progress : Progress conv} (shows : state.payload.Shows bytes)
    (ran : inView start state.payload.len body state = .ok () final)
    (inside : ∀ opened middle : DecodeState conv, opened.progress = state.progress →
      opened.payload.Shows (bytes.drop start) → body opened = .ok () middle →
      read ∧ middle = opened.reached progress) :
    read ∧ final = state.reached progress := by
  cases pushed : state.payload.pushSlice start state.payload.len with
  | error failure =>
    rw [inView_of_refused pushed] at ran
    cases ran
  | ok next =>
    obtain ⟨nextShows, view, rfl⟩ := shows_of_pushSlice shows pushed
    cases ranBody : body { state with
        payload := { state.payload with slices := state.payload.slices ++ [view] } } with
    | error failure middle =>
      rw [inView_of_error pushed ranBody] at ran
      cases ran
    | ok value middle =>
      obtain ⟨isRead, rfl⟩ := inside { state with
        payload := { state.payload with slices := state.payload.slices ++ [view] } } middle rfl
        nextShows ranBody
      rw [inView_of_ok pushed ranBody, popSlice_of_ne_nil (by simp [DecodeState.reached])] at ran
      cases ran
      refine ⟨isRead, ?_⟩
      simp only [DecodeState.reached, List.dropLast_concat]

theorem flattens_of_fails {param : Parameter conv}
    (fails : ∀ callerName (paramCtx : ParamContext conv) (state final : DecodeState conv),
      paramCtx.parameter = param → mapParam callerName paramCtx state ≠ .ok () final) :
    Flattens mapParam leavesOf param := by
  intro callerName paramCtx site bytes state final same _ _ ran
  exact absurd ran (fails callerName paramCtx state final same)

theorem matchingRequestParam_eq_ok {service : DiagService conv} {paramCtx : ParamContext conv}
    {requestBytePos : Nat} {found : Parameter conv}
    (outcome : matchingRequestParam service paramCtx requestBytePos = .ok found) :
    ∃ request, service.request = some request ∧ found ∈ request.params.getD [] ∧
      ∀ other, matchingRequestParam service other requestBytePos = .ok found := by
  unfold matchingRequestParam at outcome ⊢
  cases isRequest : service.request with
  | none =>
    rw [isRequest] at outcome
    cases outcome
  | some request =>
    rw [isRequest] at outcome
    dsimp only at outcome ⊢
    cases listed : request.params with
    | none =>
      rw [listed] at outcome
      cases outcome
    | some params =>
      rw [listed, Option.bind_some] at outcome
      cases first : params.find? fun param => param.bytePosition = requestBytePos with
      | none =>
        rw [first] at outcome
        cases outcome
      | some param =>
        rw [first] at outcome
        cases outcome
        refine ⟨request, rfl, ?_, fun other => ?_⟩
        · rw [listed]
          exact List.mem_of_find?_eq_some first
        · rw [Option.bind_some, first]

section Kind

variable {service : DiagService conv} {param : Parameter conv}

theorem flattens_leaf {content : Content conv} (isLeaf : param.content? = some content) :
    Flattens (mapParamKindFromUds service mapParam) (paramKindLeaves service leavesOf) param := by
  intro callerName paramCtx site bytes state final same position shows ran
  subst same
  rw [paramKindLeaves, isLeaf]
  apply leaf_of_stores shows _ ran
  have stores := mapParamKindFromUds_stores isLeaf shows service mapParam callerName
  have pos : paramCtx.leafPos state.payload.lastReadBytePos =
      (paramCtx.parameter.leaf content callerName site).bytePos.getD state.progress.lastRead := by
    rw [ParamContext.leafPos, ParamContext.readPos, Parameter.leaf, position]
    cases paramCtx.parameter.followsReading <;> cases paramCtx.parameter.hasBytePosition <;> rfl
  rw [pos] at stores
  exact stores

variable (plain : param.IsPlain)
  (nested : ∀ inner, param.inner? = some inner → ∀ param ∈ inner.params.getD [],
    Flattens mapParam leavesOf param)

include plain nested

theorem flattens_value (isValue : param.paramType = .ok .value) (noLeaf : param.content? = none) :
    Flattens (mapParamKindFromUds service mapParam) (paramKindLeaves service leavesOf) param := by
  intro callerName paramCtx site bytes state final same position shows ran
  subst same
  have data := plain.2
  rw [mapParamKindFromUds, isValue] at ran
  change mapParamValueFromUds mapParam paramCtx state = _ at ran
  rw [mapParamValueFromUds] at ran
  rw [paramKindLeaves, noLeaf]
  cases specific : paramCtx.parameter.specificData with
  | value default dop? =>
    simp only [specific, Parameter.inner?] at data nested
    rw [specific, bind_eq_ok_iff] at ran
    obtain ⟨dop, _, given, ran⟩ := ran
    obtain ⟨rfl, rfl⟩ := orFail_eq_ok_iff.1 given
    rw [mapDopFromUds, bind_eq_ok_iff] at ran
    obtain ⟨shortName, _, found, ran⟩ := ran
    obtain ⟨named, rfl⟩ := orFail_eq_ok_iff.1 found
    cases dop with
    | struct structDop =>
      rw [isValue, named]
      exact flattens_structure (nested structDop rfl) position shows ran
    | normal normalDop =>
      rw [bind_eq_ok_iff] at ran
      obtain ⟨diagType, _, outcome, ran⟩ := ran
      obtain ⟨typed, rfl⟩ := ofExcept_eq_ok_iff.1 outcome
      cases keyed : diagType.lengthKeyName with
      | some lengthKeyName =>
        simp [Parameter.content?, isValue, specific, named, typed, keyed, Except.toOption] at noLeaf
      | none =>
        simp only [keyed, mapNormalDopFromUds, bind_eq_ok_iff, orFail_eq_ok_iff] at ran
        obtain ⟨_, _, _, compuMethod, _, ⟨computed, _⟩, _⟩ := ran
        simp [Parameter.content?, isValue, specific, named, typed, keyed, computed,
          Except.toOption] at noLeaf
    | dtc dtcDop =>
      simp [Parameter.content?, isValue, specific, named] at noLeaf
    | invalid failure => cases ran
    | _ => exact data.elim
  | _ =>
    rw [specific] at ran
    cases ran

theorem flattens_physConst (isPhysConst : param.paramType = .ok .physConst)
    (noLeaf : param.content? = none) :
    Flattens (mapParamKindFromUds service mapParam) (paramKindLeaves service leavesOf) param := by
  intro callerName paramCtx site bytes state final same position shows ran
  subst same
  have data := plain.2
  rw [mapParamKindFromUds, isPhysConst] at ran
  change mapParamPhysConstFromUds mapParam callerName paramCtx state = _ at ran
  rw [mapParamPhysConstFromUds] at ran
  rw [paramKindLeaves, noLeaf]
  cases specific : paramCtx.parameter.specificData with
  | physConst constant dop? =>
    simp only [specific, Parameter.inner?] at data nested
    rw [specific, bind_eq_ok_iff] at ran
    obtain ⟨dop, _, given, ran⟩ := ran
    obtain ⟨rfl, rfl⟩ := orFail_eq_ok_iff.1 given
    cases dop with
    | struct structDop =>
      change mapDopFromUds mapParam (.struct structDop) paramCtx _ = _ at ran
      rw [mapDopFromUds, bind_eq_ok_iff] at ran
      obtain ⟨shortName, _, found, ran⟩ := ran
      obtain ⟨named, rfl⟩ := orFail_eq_ok_iff.1 found
      rw [isPhysConst, named]
      exact flattens_structure (nested structDop rfl) position shows ran
    | normal normalDop =>
      rw [bind_eq_ok_iff] at ran
      obtain ⟨diagType, _, outcome, ran⟩ := ran
      obtain ⟨typed, rfl⟩ := ofExcept_eq_ok_iff.1 outcome
      simp [Parameter.content?, isPhysConst, specific, typed, Except.toOption] at noLeaf
    | dtc dtcDop => cases ran
    | invalid failure => cases ran
    | _ => exact data.elim
  | _ =>
    rw [specific] at ran
    cases ran

omit plain nested in
theorem flattens_matchingRequest
    (requested : ∀ request, service.request = some request → ∀ param ∈ request.params.getD [],
      Flattens mapParam leavesOf param)
    (isMatching : param.paramType = .ok .matchingRequestParam) (noLeaf : param.content? = none) :
    Flattens (mapParamKindFromUds service mapParam) (paramKindLeaves service leavesOf) param := by
  intro callerName paramCtx site bytes state final same position shows ran
  subst same
  rw [mapParamKindFromUds, isMatching] at ran
  change mapParamMatchingRequestFromUds service mapParam callerName paramCtx state = _ at ran
  rw [mapParamMatchingRequestFromUds] at ran
  rw [paramKindLeaves, noLeaf, isMatching]
  cases specific : paramCtx.parameter.specificData with
  | matchingRequestParam requestBytePos =>
    rw [specific] at ran
    dsimp only at ran
    split at ran
    · cases ran
    · rw [bind_eq_ok_iff] at ran
      obtain ⟨requestParam, _, outcome, ran⟩ := ran
      obtain ⟨found, rfl⟩ := ofExcept_eq_ok_iff.1 outcome
      obtain ⟨request, isRequest, isParam, anywhere⟩ := matchingRequestParam_eq_ok found
      have flattens := requested request isRequest requestParam isParam
      dsimp only
      rw [anywhere (.new paramCtx.parameter 0)]
      -- the position in the request counts from the response parameter on, or from the front
      have front : (ParamContext.new requestParam 0).absBytePos = requestParam.bytePosition :=
        Nat.zero_add _
      by_cases behind : requestBytePos.toNat < paramCtx.parameter.bytePosition
      · rw [if_pos behind, bind_eq_ok_iff] at ran
        obtain ⟨length, _, measured, ran⟩ := ran
        cases measured
        simp only [if_pos behind]
        rw [position] at ran
        apply reached_of_inView shows ran
        intro opened middle same openedShows ranBody
        rw [List.drop_drop] at openedShows
        rw [← same]
        exact flattens callerName (.new requestParam 0) ⟨site.viewStart + site.bytePos,
          requestParam.bytePosition, site.place, true⟩ bytes opened middle rfl front openedShows
          ranBody
      · rw [if_neg behind] at ran
        simp only [if_neg behind]
        exact flattens callerName (.new requestParam 0) ⟨site.viewStart,
          requestParam.bytePosition, site.place, true⟩ bytes _ final rfl front shows ran
  | _ =>
    rw [specific] at ran
    cases ran

end Kind

end Flatten

section Fails

variable {service : DiagService conv} {mapParam : Text → ParamContext conv → Decoder conv Unit}
  {callerName : Text} {paramCtx : ParamContext conv} {state final : DecodeState conv}

theorem codedConst_fails (isConst : paramCtx.parameter.paramType = .ok .codedConst)
    (noLeaf : paramCtx.parameter.content? = none) :
    mapParamKindFromUds service mapParam callerName paramCtx state ≠ .ok () final := by
  intro ran
  rw [mapParamKindFromUds, isConst] at ran
  change mapParamCodedConstFromUds callerName paramCtx state = _ at ran
  rw [mapParamCodedConstFromUds] at ran
  cases specific : paramCtx.parameter.specificData with
  | codedConst codedConst =>
    rw [specific, bind_eq_ok_iff] at ran
    obtain ⟨diagType, _, outcome, _⟩ := ran
    obtain ⟨typed, _⟩ := ofExcept_eq_ok_iff.1 outcome
    cases given : codedConst.diagCodedType with
    | none =>
      rw [given] at typed
      cases typed
    | some converted =>
      rw [given, Option.getD_some] at typed
      subst typed
      simp [Parameter.content?, isConst, specific, given] at noLeaf
  | _ =>
    rw [specific] at ran
    cases ran

theorem reserved_fails (isReserved : paramCtx.parameter.paramType = .ok .reserved)
    (noLeaf : paramCtx.parameter.content? = none) :
    mapParamKindFromUds service mapParam callerName paramCtx state ≠ .ok () final := by
  intro ran
  rw [mapParamKindFromUds, isReserved] at ran
  change mapParamReservedFromUds callerName paramCtx state = _ at ran
  rw [mapParamReservedFromUds] at ran
  cases specific : paramCtx.parameter.specificData with
  | reserved bitLength => simp [Parameter.content?, isReserved, specific] at noLeaf
  | _ =>
    rw [specific] at ran
    cases ran

end Fails

theorem flattens_paramLeaves {service : DiagService conv} (plainRequest : service.IsPlain)
    (depth : Nat) {param : Parameter conv} (plain : param.IsPlainInside) :
    Flattens (mapParamFromUds service depth) (paramLeaves service depth) param := by
  induction depth generalizing param with
  | zero =>
    intro callerName paramCtx site bytes state final _ _ _ ran
    cases ran
  | succ depth ih =>
    have nested : ∀ inner, param.inner? = some inner → ∀ param ∈ inner.params.getD [],
        Flattens (mapParamFromUds service depth) (paramLeaves service depth) param := by
      intro inner isInner param isParam
      obtain ⟨_, params, deeper⟩ := plain.2 inner isInner
      exact ih ⟨params param isParam, deeper param isParam⟩
    change Flattens (mapParamKindFromUds service _) (paramKindLeaves service _) param
    cases content : param.content? with
    | some content => exact flattens_leaf content
    | none =>
      rcases plain.1.1 with isConst | isReserved | isValue | isPhysConst | isMatching
      · exact flattens_of_fails fun _ _ _ _ same =>
          codedConst_fails (same ▸ isConst) (same ▸ content)
      · exact flattens_of_fails fun _ _ _ _ same =>
          reserved_fails (same ▸ isReserved) (same ▸ content)
      · exact flattens_value plain.1 nested isValue content
      · exact flattens_physConst plain.1 nested isPhysConst content
      · apply flattens_matchingRequest _ isMatching content
        intro request isRequest requestParam isParam
        exact ih (plainRequest request isRequest requestParam isParam)

theorem structure_reads_leaves {service : DiagService conv} (plainRequest : service.IsPlain)
    {structDop : StructureDop conv} (plain : structDop.IsPlain) (depth : Nat) (shortName : Text)
    (paramCtx : ParamContext conv) {bytes : List UInt8} {state final : DecodeState conv}
    (shows : state.payload.Shows bytes)
    (ran : mapStructureDopFromUds (mapParamFromUds service depth) shortName structDop paramCtx
      state = .ok () final) :
    AllRead bytes state.progress (structLeaves (paramLeaves service depth) shortName structDop
        ⟨0, paramCtx.absBytePos, paramCtx.absBytePos, false⟩) ∧
      final = state.reached (afterAll bytes state.progress (structLeaves (paramLeaves service depth)
        shortName structDop ⟨0, paramCtx.absBytePos, paramCtx.absBytePos, false⟩)) := by
  obtain ⟨_, params, inner⟩ := plain
  let site : Site := ⟨0, paramCtx.absBytePos, paramCtx.absBytePos, false⟩
  have flattens : ∀ param ∈ structDop.params.getD [],
      Flattens (mapParamFromUds service depth) (paramLeaves service depth) param :=
    fun param isParam => flattens_paramLeaves plainRequest depth
      ⟨params param isParam, inner param isParam⟩
  have position : paramCtx.absBytePos = site.bytePos := rfl
  exact flattens_structure flattens position shows ran

theorem Leaf.valueAtPlace?_of_read_there {leaf : Leaf conv} (front : leaf.viewStart = 0)
    (there : ∀ place, leaf.place = some place → leaf.bytePos = some place) (bytes : List UInt8)
    (progress : Progress conv) :
    leaf.valueAtPlace? bytes progress = leaf.value? bytes progress := by
  rw [Leaf.valueAtPlace?]
  cases placed : leaf.place with
  | none => rfl
  | some place =>
    dsimp only
    rw [Leaf.value?, Leaf.read, front, there place placed, List.drop_zero, Option.getD_some]

/-- Nested structures are decoded without loss exactly if no two leaves are stored under one
name, and what a leaf is read as is what lies at its own position. -/
theorem structure_loses_nothing_iff {service : DiagService conv} (plainRequest : service.IsPlain)
    {structDop : StructureDop conv} (plain : structDop.IsPlain) (depth : Nat) (shortName : Text)
    (paramCtx : ParamContext conv) {bytes : List UInt8} {state final : DecodeState conv}
    (shows : state.payload.Shows bytes) (fresh : state.data = .empty)
    (ran : mapStructureDopFromUds (mapParamFromUds service depth) shortName structDop paramCtx
      state = .ok () final) :
    let leaves := structLeaves (paramLeaves service depth) shortName structDop
      ⟨0, paramCtx.absBytePos, paramCtx.absBytePos, false⟩
    let start : Progress conv := ⟨state.payload.lastReadBytePos, .empty⟩
    LosesNothing bytes start leaves final.data ↔
      (leaves.map Leaf.name).Nodup ∧ ∀ step ∈ stepsFrom bytes start leaves,
        step.1.valueAtPlace? bytes step.2 = step.1.value? bytes step.2 := by
  obtain ⟨read, rfl⟩ := structure_reads_leaves plainRequest plain depth shortName paramCtx shows ran
  have start : state.progress = ⟨state.payload.lastReadBytePos, .empty⟩ := by
    rw [DecodeState.progress, fresh]
  rw [start] at read ⊢
  exact losesNothing_iff read

namespace IntegerDatabase

def reservedByte (name : String) (bytePos : Nat) : Parameter integerConversions :=
  ⟨.ok .reserved, some name.toList, none, some bytePos, none, .reserved 8⟩

def byteAndRest : StructureDop integerConversions :=
  structure_ [valueParam "first" 0 (normalDop (number 8)), valueParam "rest" 1
      (.struct (structure_ [reservedByte "spare" 0, valueParam "last" 1 (normalDop (number 8))]))]

theorem structure_isPlain {params : List (Parameter integerConversions)}
    (plain : params.Forall Parameter.IsPlainInside) : (structure_ params).IsPlain := by
  rw [List.forall_iff_forall_mem] at plain
  constructor
  · intro param isParam
    exact (plain param isParam).1
  · intro param isParam
    exact (plain param isParam).2

theorem isPlainInside_of_leaf {param : Parameter integerConversions} (plain : param.IsPlain)
    (leaf : param.inner? = none) : param.IsPlainInside := by
  refine ⟨plain, fun inner isInner => ?_⟩
  rw [leaf] at isInner
  cases isInner

theorem byteAndRest_isPlain : byteAndRest.IsPlain := by
  apply structure_isPlain
  refine ⟨isPlainInside_of_leaf ⟨.inr (.inr (.inl rfl)), trivial⟩ rfl,
    ⟨⟨.inr (.inr (.inl rfl)), trivial⟩, fun inner isInner => ?_⟩⟩
  cases isInner
  apply structure_isPlain
  exact ⟨isPlainInside_of_leaf ⟨.inr (.inl rfl), trivial⟩ rfl,
    isPlainInside_of_leaf ⟨.inr (.inr (.inl rfl)), trivial⟩ rfl⟩

def noRequest : DiagService integerConversions := ⟨none⟩

theorem noRequest_isPlain : noRequest.IsPlain := by
  intro request isRequest
  cases isRequest

theorem byteAndRest_loses_nothing :
    ∃ final, mapStructureDopFromUds (mapParamFromUds noRequest 3) "pair".toList byteAndRest
        (.new (valueParam "pair" 0 (.struct byteAndRest)) 0) (.new [1, 0, 2]) = .ok () final ∧
      LosesNothing [1, 0, 2] ⟨0, .empty⟩
        (structLeaves (paramLeaves noRequest 3) "pair".toList byteAndRest ⟨0, 0, 0, false⟩)
        final.data := by
  refine ⟨_, rfl, (structure_loses_nothing_iff noRequest_isPlain byteAndRest_isPlain 3
    "pair".toList (.new (valueParam "pair" 0 (.struct byteAndRest)) 0) (shows_new _) rfl rfl).2
    ⟨by decide, ?_⟩⟩
  have there : ∀ leaf ∈ structLeaves (paramLeaves noRequest 3) "pair".toList byteAndRest
      ⟨0, 0, 0, false⟩, leaf.viewStart = 0 ∧ leaf.bytePos = leaf.place := by
    decide
  intro step isStep
  obtain ⟨front, same⟩ := there step.1 (mem_of_mem_stepsFrom isStep)
  exact Leaf.valueAtPlace?_of_read_there front (fun place isPlace => same.trans isPlace) _ _

/-- The leaves of "pair" have different names, and are both stored under its name. -/
def spareAndMode : StructureDop integerConversions :=
  structure_ [reservedByte "spare" 0, ⟨.ok .codedConst, some "mode".toList, none, some 1, none,
    .codedConst ⟨some (.ok (number 8)), some "85".toList⟩⟩]

theorem spareAndMode_isPlain : spareAndMode.IsPlain := by
  apply structure_isPlain
  exact ⟨isPlainInside_of_leaf ⟨.inr (.inl rfl), trivial⟩ rfl,
    isPlainInside_of_leaf ⟨.inl rfl, trivial⟩ rfl⟩

theorem spareAndMode_loses_the_first :
    ∃ final, mapStructureDopFromUds (mapParamFromUds noRequest 2) "pair".toList spareAndMode
        (.new (valueParam "pair" 0 (.struct spareAndMode)) 0) (.new [0, 0x55]) = .ok () final ∧
      ¬LosesNothing [0, 0x55] ⟨0, .empty⟩
        (structLeaves (paramLeaves noRequest 2) "pair".toList spareAndMode ⟨0, 0, 0, false⟩)
        final.data := by
  refine ⟨_, rfl, fun complete => ?_⟩
  obtain ⟨read, same⟩ := structure_reads_leaves noRequest_isPlain spareAndMode_isPlain 2
    "pair".toList (.new (valueParam "pair" 0 (.struct spareAndMode)) 0) (shows_new [0, 0x55]) rfl
  obtain ⟨distinct, _⟩ := (losesNothing_iff read).1 complete
  revert distinct
  decide

end IntegerDatabase

end DiagnosticAdapter.Kernel
