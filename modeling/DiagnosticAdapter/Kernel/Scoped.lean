import DiagnosticAdapter.Kernel.OrdinaryErrors

/-!
# Decoders that open views in scopes

Every decoder is put together from steps within the current view, sequence, views that
are opened and closed around a decoder, handlers, and the repetition to the end of the
payload.  What is to hold of all decoders is proved by induction on this.  There is one lemma for
each decoder, those with nested parameters for any decoder of these; the induction on the depth
comes last.
-/

namespace DiagnosticAdapter.Kernel

open Codec Effects Decoder

variable {conv : Conversions} {α β : Type}

structure Sight (conv : Conversions) where
  view : Except DiagServiceError (List UInt8)
  len : Nat
  lastReadBytePos : Nat
  bytesToSkip : Nat
  data : MappedPayload conv

/-- What a decoder may change without opening a view. -/
structure Move (conv : Conversions) where
  lastReadBytePos : Nat
  bytesToSkip : Nat
  data : MappedPayload conv

namespace DecodeState

def sight (state : DecodeState conv) : Sight conv :=
  ⟨state.payload.view, state.payload.len, state.payload.lastReadBytePos,
    state.payload.bytesToSkip, state.data⟩

def move (state : DecodeState conv) (target : Move conv) : DecodeState conv :=
  { state with
    payload := { state.payload with
      lastReadBytePos := target.lastReadBytePos
      bytesToSkip := target.bytesToSkip }
    data := target.data }

end DecodeState

def Sight.stay (sight : Sight conv) : Move conv :=
  ⟨sight.lastReadBytePos, sight.bytesToSkip, sight.data⟩

/-- A step within the current view. -/
def onSight (act : Sight conv → Except DiagServiceError α × Move conv) : Decoder conv α :=
  fun state =>
    match act state.sight with
    | (.ok value, target) => .ok value (state.move target)
    | (.error error, target) => .error ⟨error, 0⟩ (state.move target)

/-- Where `strict` holds, the steps fail with ordinary errors only. -/
inductive Scoped (strict : Prop) : {α : Type} → Decoder conv α → Prop
  | sight {α : Type} (act : Sight conv → Except DiagServiceError α × Move conv)
      (ordinary : strict → ∀ state : DecodeState conv, FailsWith Ordinary (act state.sight).1) :
      Scoped strict (onSight act)
  | bind {α β : Type} {decoder : Decoder conv α} {next : α → Decoder conv β} :
      Scoped strict decoder → (∀ value, Scoped strict (next value)) →
        Scoped strict (decoder >>= next)
  | inView {α : Type} {body : Decoder conv α} (start stop : Nat) :
      Scoped strict body → Scoped strict (inView start stop body)
  | swallow {α : Type} {body : Decoder conv α} (ignored : DiagServiceError → Bool) :
      Scoped strict body → Scoped strict (swallow ignored body)
  | onFreshData {body : Decoder conv Unit} :
      Scoped strict body → Scoped strict (onFreshData body)
  | repeatToEnd {α : Type} {item : Decoder conv α} :
      Scoped strict item → Scoped strict (repeatToEnd item)

variable {strict : Prop}

namespace Scoped

theorem step (act : Sight conv → α × Move conv) :
    Scoped strict (onSight fun sight => (.ok (act sight).1, (act sight).2)) :=
  .sight _ fun _ _ => .ok _

theorem pure (value : α) : Scoped strict (Pure.pure value : Decoder conv α) :=
  step fun sight => (value, sight.stay)

variable {error : DiagServiceError}

theorem fail (ordinary : strict → Ordinary error) : Scoped strict (fail error : Decoder conv α) :=
  .sight (fun sight => (.error error, sight.stay)) fun holds _ => .error (ordinary holds)

theorem ofExcept {outcome : Except DiagServiceError α}
    (ordinary : strict → FailsWith Ordinary outcome) :
    Scoped strict (ofExcept outcome : Decoder conv α) := by
  cases outcome with
  | ok value => exact pure value
  | error error => exact fail fun holds => ordinary holds _ rfl

theorem orFail {value : Option α} (ordinary : Ordinary error) :
    Scoped strict (orFail value error : Decoder conv α) := by
  cases value with
  | some value => exact pure value
  | none => exact fail fun _ => ordinary

theorem orFail_bind {value : Option α} {next : α → Decoder conv β}
    (ordinary : Ordinary error) (rest : ∀ found, value = some found → Scoped strict (next found)) :
    Scoped strict (Decoder.orFail value error >>= next) := by
  cases value with
  | some value => exact rest value rfl
  | none => exact fail fun _ => ordinary

theorem ofExcept_bind {outcome : Except DiagServiceError α} {next : α → Decoder conv β}
    (ordinary : strict → FailsWith Ordinary outcome)
    (rest : ∀ value, outcome = .ok value → Scoped strict (next value)) :
    Scoped strict (Decoder.ofExcept outcome >>= next) := by
  cases outcome with
  | ok value => exact rest value rfl
  | error error => exact fail fun holds => ordinary holds error rfl

theorem view : Scoped strict (view : Decoder conv (List UInt8)) := by
  have same : (Decoder.view : Decoder conv (List UInt8)) = onSight fun sight =>
      (sight.view, sight.stay) := by
    funext state
    simp only [Decoder.view, onSight, DecodeState.sight]
    cases state.payload.view <;> rfl
  rw [same]
  refine .sight _ fun _ state error failed => ?_
  change state.payload.view = _ at failed
  unfold Payload.view at failed
  dsimp only at failed
  split at failed
  · cases failed
  · cases failed
    trivial

theorem mapEach {body : β → Decoder conv α} {items : List β}
    (each : ∀ item ∈ items, Scoped strict (body item)) : Scoped strict (mapEach body items) := by
  induction items with
  | nil => exact pure []
  | cons item items ih =>
    obtain ⟨first, rest⟩ := List.forall_mem_cons.1 each
    refine .bind first fun value => ?_
    exact .bind (ih rest) fun values => pure _

theorem forEach {body : β → Decoder conv Unit} {items : List β}
    (each : ∀ item ∈ items, Scoped strict (body item)) : Scoped strict (forEach body items) :=
  .bind (mapEach each) fun _ => pure ()

end Scoped

/-- A property of decoders that the steps have and that is kept by putting decoders together. -/
structure Closed (strict : Prop) (holds : ∀ {α : Type}, Decoder conv α → Prop) : Prop where
  sight : ∀ {α : Type} (act : Sight conv → Except DiagServiceError α × Move conv),
    (strict → ∀ state : DecodeState conv, FailsWith Ordinary (act state.sight).1) →
      holds (onSight act)
  bind : ∀ {α β : Type} {decoder : Decoder conv α} {next : α → Decoder conv β},
    holds decoder → (∀ value, holds (next value)) → holds (decoder >>= next)
  inView : ∀ {α : Type} {body : Decoder conv α} (start stop : Nat), holds body →
    holds (inView start stop body)
  swallow : ∀ {α : Type} {body : Decoder conv α} (ignored : DiagServiceError → Bool),
    holds body → holds (swallow ignored body)
  onFreshData : ∀ {body : Decoder conv Unit}, holds body → holds (onFreshData body)
  consume : holds (consume : Decoder conv Nat)
  exhausted : holds (exhausted : Decoder conv Bool)
  byteCount : holds (byteCount : Decoder conv Nat)
  report : holds (report .repeating : Decoder conv Unit)

namespace Closed

variable {holds : ∀ {α : Type}, Decoder conv α → Prop} (closed : Closed strict holds)
  {item : Decoder conv α}

include closed

theorem pure (value : α) : holds (Pure.pure value : Decoder conv α) :=
  closed.sight (fun sight => (.ok value, sight.stay)) fun _ _ => .ok _

theorem fail {error : DiagServiceError} (ordinary : Ordinary error) :
    holds (fail error : Decoder conv α) :=
  closed.sight (fun sight => (.error error, sight.stay)) fun _ _ => .error ordinary

theorem itemToEnd (inner : holds item) : holds (itemToEnd item) := by
  refine closed.bind closed.exhausted fun done => ?_
  split
  · exact closed.bind closed.consume fun consumed => closed.pure _
  · refine closed.bind (closed.swallow _ inner) fun outcome => ?_
    cases outcome with
    | ok value => exact closed.bind closed.consume fun consumed => closed.pure _
    | error error => exact closed.pure _

theorem itemsToEnd (inner : holds item) (rounds : Nat) : holds (itemsToEnd item rounds) := by
  induction rounds with
  | zero => exact closed.fail trivial
  | succ rounds ih =>
    refine closed.bind (closed.sight (fun sight => (.ok sight.lastReadBytePos, sight.stay))
      fun _ _ => .ok _) fun start => ?_
    refine closed.bind (closed.sight (fun sight => (.ok sight.len, sight.stay))
      fun _ _ => .ok _) fun stop => ?_
    refine closed.bind (closed.inView start stop (closed.itemToEnd inner)) fun round => ?_
    cases round with
    | none => exact closed.pure _
    | some round =>
      refine closed.bind closed.exhausted fun done => ?_
      split
      · exact closed.pure _
      split
      · exact closed.fail trivial
      · exact closed.bind ih fun values => closed.pure _

theorem of_scoped {decoder : Decoder conv α} (scope : Scoped strict decoder) : holds decoder := by
  induction scope with
  | sight act ordinary => exact closed.sight act ordinary
  | bind _ _ first second => exact closed.bind first second
  | inView start stop _ inner => exact closed.inView start stop inner
  | swallow ignored _ inner => exact closed.swallow ignored inner
  | onFreshData _ inner => exact closed.onFreshData inner
  | repeatToEnd _ inner =>
    refine closed.bind closed.consume fun advance => ?_
    split
    · exact closed.pure _
    · refine closed.bind closed.report fun _ => closed.bind closed.byteCount fun rounds => ?_
      exact closed.bind (closed.itemsToEnd inner _) fun values => closed.pure _

end Closed

theorem scoped_len : Scoped strict (len : Decoder conv Nat) :=
  .step fun sight => (sight.len, sight.stay)

theorem scoped_lastReadBytePos : Scoped strict (lastReadBytePos : Decoder conv Nat) :=
  .step fun sight => (sight.lastReadBytePos, sight.stay)

theorem scoped_setLastReadBytePos (pos : Nat) :
    Scoped strict (setLastReadBytePos pos : Decoder conv Unit) :=
  .step fun sight =>
    ((), ⟨if pos > sight.len then sight.len else pos, sight.bytesToSkip, sight.data⟩)

theorem scoped_bytesToSkip : Scoped strict (bytesToSkip : Decoder conv Nat) :=
  .step fun sight => (sight.bytesToSkip, sight.stay)

theorem scoped_setBytesToSkip (count : Nat) :
    Scoped strict (setBytesToSkip count : Decoder conv Unit) :=
  .step fun sight =>
    ((), ⟨sight.lastReadBytePos, sight.bytesToSkip + count, sight.data⟩)

theorem scoped_mapped : Scoped strict (mapped : Decoder conv (MappedPayload conv)) :=
  .step fun sight => (sight.data, sight.stay)

theorem scoped_insertMapped (name : Text) (container : Container conv) :
    Scoped strict (insertMapped name container) :=
  .step fun sight =>
    ((), ⟨sight.lastReadBytePos, sight.bytesToSkip, sight.data.insert name container⟩)

theorem scoped_extendMapped (item : MappedPayload conv) : Scoped strict (extendMapped item) :=
  .step fun sight =>
    ((), ⟨sight.lastReadBytePos, sight.bytesToSkip, sight.data.extend item⟩)

section Leaves

theorem scoped_extractDiagDataContainer (bytePos bitPos : Nat) (diagType : DiagCodedType)
    (compuMethod : Option conv.CompuMethod) :
    Scoped strict (extractDiagDataContainer bytePos bitPos diagType compuMethod) := by
  refine .bind .view fun bytes => ?_
  refine .bind (.ofExcept fun _ => ordinary_decodeIfPresent _ _ _ _) fun (data, bitLen) => ?_
  dsimp only
  split
  · exact .fail fun _ => trivial
  · exact .bind (scoped_setLastReadBytePos _) fun _ => .pure _

theorem scoped_bytePosOrLastRead (paramCtx : ParamContext conv) :
    Scoped strict (bytePosOrLastRead paramCtx) := by
  unfold bytePosOrLastRead
  split
  · exact .pure _
  · exact scoped_lastReadBytePos

theorem scoped_mapParamReservedFromUds (paramName : Text) (paramCtx : ParamContext conv) :
    Scoped strict (mapParamReservedFromUds paramName paramCtx) := by
  unfold mapParamReservedFromUds
  split
  · refine .bind .view fun bytes => ?_
    refine .bind (.ofExcept fun _ => ordinary_decode _ _ _ _) fun (paramData, bitLen) => ?_
    exact scoped_insertMapped _ _
  · exact .fail fun _ => trivial

section Reading

variable {paramCtx : ParamContext conv} (reads : strict → paramCtx.parameter.ReadsOrdinarily)

include reads

theorem scoped_mapTableKeyFromUds (paramName : Text) :
    Scoped strict (mapTableKeyFromUds paramName paramCtx) := by
  unfold mapTableKeyFromUds
  split
  · rename_i table specific
    refine .orFail_bind trivial fun table isTable => ?_
    refine .orFail_bind trivial fun keyDop isKey => ?_
    have keyReads := fun holds => (reads holds).refers (.tableKey (isTable ▸ specific) isKey)
    split
    · refine .bind (.ofExcept fun holds => (keyReads holds).codedType) fun diagType => ?_
      refine .bind (scoped_extractDiagDataContainer _ _ _ _) fun raw => ?_
      exact scoped_insertMapped _ _
    · exact .fail fun holds => keyReads holds _ .invalid
    · exact .fail fun _ => trivial
  · exact .fail fun _ => trivial

theorem scoped_mapParamCodedConstFromUds (ordinary : strict → conv.FailOrdinarily)
    (paramName : Text) : Scoped strict (mapParamCodedConstFromUds paramName paramCtx) := by
  unfold mapParamCodedConstFromUds
  split
  · rename_i codedConst specific
    refine .bind (.ofExcept ?_) fun diagType => ?_
    · intro holds
      cases isType : codedConst.diagCodedType with
      | none => exact .error trivial
      | some diagType =>
        intro error failed
        rw [Option.getD_some] at failed
        exact reads holds error (.codedConst specific (failed ▸ isType))
    · refine .bind (scoped_extractDiagDataContainer _ _ _ _) fun raw => ?_
      refine .bind (.orFail trivial) fun constValue => ?_
      refine .bind (.ofExcept fun holds => ordinary_expectedConst (ordinary holds) _ _ _)
        fun expected => ?_
      split
      · exact .fail fun _ => trivial
      · exact scoped_insertMapped _ _
  · exact .fail fun _ => trivial

end Reading

theorem scoped_mapParamLengthInfoDopFromUds (ordinary : strict → conv.FailOrdinarily)
    (shortName : Text) {normalDop : NormalDop conv}
    (reads : strict → (DataOperation.normal normalDop).ReadsOrdinarily) (lengthKeyName : Text)
    (paramCtx : ParamContext conv) :
    Scoped strict (mapParamLengthInfoDopFromUds shortName normalDop lengthKeyName paramCtx) := by
  refine .bind scoped_mapped fun data => ?_
  refine .bind (.ofExcept fun holds => ordinary_lengthKeyByteCount (ordinary holds) _ _ _)
    fun byteCount => ?_
  refine .bind (.ofExcept fun holds => (reads holds).codedType) fun diagCodedType => ?_
  split
  · exact scoped_insertMapped _ _
  · refine .bind (scoped_bytePosOrLastRead _) fun bytePos => ?_
    refine .bind .view fun bytes => ?_
    refine .bind (.ofExcept fun _ => ordinary_decodeWithRuntimeByteLength _ _ _)
      fun (decodedBytes, bitLen) => ?_
    refine .bind (scoped_setLastReadBytePos _) fun _ => ?_
    exact scoped_insertMapped _ _

theorem scoped_mapNormalDopFromUds (shortName : Text) {normalDop : NormalDop conv}
    (reads : strict → (DataOperation.normal normalDop).ReadsOrdinarily)
    (paramCtx : ParamContext conv) :
    Scoped strict (mapNormalDopFromUds shortName normalDop paramCtx) := by
  refine .bind (.ofExcept fun holds => (reads holds).codedType) fun diagCodedType => ?_
  refine .bind (.orFail trivial) fun compuMethod => ?_
  refine .bind (scoped_bytePosOrLastRead _) fun bytePos => ?_
  refine .bind (scoped_extractDiagDataContainer _ _ _ _) fun raw => ?_
  exact scoped_insertMapped _ _

theorem scoped_mapDtcDopFromUds (paramName : Text) {dtcDop : DtcDop}
    (reads : strict → (DataOperation.dtc dtcDop : DataOperation conv).ReadsOrdinarily)
    (paramCtx : ParamContext conv) :
    Scoped strict (mapDtcDopFromUds paramName dtcDop paramCtx) := by
  refine .bind (.ofExcept fun holds error failed => reads holds error (.dtc failed))
    fun codedType => ?_
  refine .bind .view fun bytes => ?_
  refine .bind (.ofExcept fun _ => ordinary_decode _ _ _ _) fun (dtcValue, _) => ?_
  refine .bind (.ofExcept fun _ => ordinary_new _ _) fun dtcValue => ?_
  refine .bind (.ofExcept fun _ => ordinary_toU32 _) fun code => ?_
  refine .bind (.orFail trivial) fun record => ?_
  split
  · exact .fail fun _ => trivial
  · exact scoped_insertMapped _ _

end Leaves

section Nested

variable {service : DiagService conv} {mapParam : Text → ParamContext conv → Decoder conv Unit}
  (nested : ∀ paramName (paramCtx : ParamContext conv),
    (strict → paramCtx.parameter.ReadsOrdinarily) →
    Scoped strict (mapParam paramName paramCtx))

include nested

theorem scoped_mapStructFromUds {structDop : StructureDop conv}
    (reads : strict → (DataOperation.struct structDop).ReadsOrdinarily)
    (outerContext : MappedPayload conv) :
    Scoped strict (mapStructFromUds mapParam structDop outerContext) := by
  unfold mapStructFromUds
  split
  · exact .pure _
  · rename_i params isParams
    refine .onFreshData (.forEach fun param mem => ?_)
    refine .bind (.orFail trivial) fun shortName => ?_
    exact nested _ _ fun holds => (reads holds).param (.struct isParams mem)

theorem scoped_mapEndOfPduDopFromUds (shortName : Text) {endOfPduDop : EndOfPdu conv}
    (reads : strict → (DataOperation.endOfPdu endOfPduDop).ReadsOrdinarily) :
    Scoped strict (mapEndOfPduDopFromUds mapParam shortName endOfPduDop) := by
  refine .ofExcept_bind (fun _ => ordinary_extractStructDopFromField _) fun structDop found => ?_
  obtain ⟨field, isField, has⟩ := field_of_extractStructDopFromField found
  have structReads := fun holds => (reads holds).refers (.endOfPdu isField has)
  refine .bind scoped_mapped fun data => ?_
  refine .bind (.repeatToEnd (scoped_mapStructFromUds nested structReads _))
    fun nestedStructs => ?_
  cases nestedStructs with
  | none => exact .pure _
  | some nestedStructs => exact scoped_insertMapped _ _

theorem scoped_mapStructureDopFromUds (shortName : Text) {structureDop : StructureDop conv}
    (reads : strict → (DataOperation.struct structureDop).ReadsOrdinarily)
    (paramCtx : ParamContext conv) :
    Scoped strict (mapStructureDopFromUds mapParam shortName structureDop paramCtx) := by
  refine .bind scoped_len fun length => ?_
  split
  · exact .fail fun _ => trivial
  · refine .forEach fun param mem => nested _ _ ?_
    cases isParams : structureDop.params with
    | none =>
      rw [isParams] at mem
      cases mem
    | some params =>
      rw [isParams] at mem
      exact fun holds => (reads holds).param (.struct isParams mem)

theorem scoped_envData {envData : EnvDataDop conv}
    (reads : strict → (DataOperation.envData envData).ReadsOrdinarily)
    (context : Parameter conv → ParamContext conv)
    (same : ∀ param, (context param).parameter = param) :
    Scoped strict (forEach (fun param => do
      let name ← orFail param.shortName (.invalidDatabase "EnvData param missing short_name")
      mapParam name (context param)) (envData.params.getD [])) := by
  refine .forEach fun param mem => ?_
  refine .bind (.orFail trivial) fun name => nested _ _ ?_
  rw [same]
  cases isParams : envData.params with
  | none =>
    rw [isParams] at mem
    cases mem
  | some params =>
    rw [isParams] at mem
    exact fun holds => (reads holds).param (.envData isParams mem)

theorem scoped_mapEnvDataDescItemFromUds (ordinary : strict → conv.FailOrdinarily)
    (outerData : MappedPayload conv) {envDataDesc : EnvDataDescDop conv}
    (reads : strict → (DataOperation.envDataDesc envDataDesc).ReadsOrdinarily) (baseOffset : Nat) :
    Scoped strict (mapEnvDataDescItemFromUds mapParam outerData envDataDesc baseOffset) := by
  refine .bind (.orFail trivial) fun paramShortName => ?_
  refine .bind (.ofExcept fun holds =>
    ordinary_discriminatorValueFromOuterData (ordinary holds) _ _)
    fun discriminator => ?_
  refine .orFail_bind trivial fun envDatas isEnvDatas => ?_
  split
  · exact .pure _
  · rename_i envData matching
    have envReads := fun holds =>
      (reads holds).refers (.envDataDesc isEnvDatas (mem_of_matchingEnvData matching))
    exact .onFreshData (scoped_envData nested envReads _ fun _ => rfl)

theorem scoped_mapEnvDataDopFromUds {envDataDop : EnvDataDop conv}
    (reads : strict → (DataOperation.envData envDataDop).ReadsOrdinarily)
    (paramCtx : ParamContext conv) :
    Scoped strict (mapEnvDataDopFromUds mapParam envDataDop paramCtx) :=
  scoped_envData nested reads _ fun _ => rfl

theorem scoped_mapStaticFieldDopFromUds (shortName : Text) {staticFieldDop : StaticFieldDop conv}
    (reads : strict → (DataOperation.staticField staticFieldDop).ReadsOrdinarily)
    (paramCtx : ParamContext conv) :
    Scoped strict (mapStaticFieldDopFromUds mapParam shortName staticFieldDop paramCtx) := by
  refine .bind scoped_len fun length => ?_
  split
  · exact .fail fun _ => trivial
  · refine .ofExcept_bind (fun _ => ordinary_extractStructDopFromField _) fun structDop found => ?_
    obtain ⟨field, isField, has⟩ := field_of_extractStructDopFromField found
    have structReads := fun holds => (reads holds).refers (.staticField isField has)
    refine .bind scoped_mapped fun data => ?_
    refine .bind (.mapEach fun i _ => ?_) fun nestedStructs => ?_
    · exact .inView _ _ (scoped_mapStructFromUds nested structReads _)
    · exact scoped_insertMapped _ _

theorem scoped_mapMuxCaseFromUds (muxDop : MuxDop conv) {caseStructure : StructureDop conv}
    (reads : strict → (DataOperation.struct caseStructure).ReadsOrdinarily) :
    Scoped strict (mapMuxCaseFromUds mapParam muxDop caseStructure) := by
  refine .bind scoped_len fun length => ?_
  refine .bind scoped_mapped fun data => ?_
  refine .inView _ _ (.bind (scoped_setLastReadBytePos 0) fun _ => ?_)
  refine .bind (.swallow _ (scoped_mapStructFromUds nested reads _)) fun caseData => ?_
  cases caseData with
  | ok caseData => exact .pure _
  | error error => exact .pure _

theorem scoped_mapMuxFromUds (ordinary : strict → conv.FailOrdinarily) (shortName : Text)
    {muxDop : MuxDop conv} (reads : strict → (DataOperation.mux muxDop).ReadsOrdinarily) :
    Scoped strict (mapMuxFromUds mapParam shortName muxDop) := by
  refine .orFail_bind trivial fun switchKey isSwitchKey => ?_
  refine .orFail_bind trivial fun dop isDop => ?_
  have keyReads := fun holds => (reads holds).refers (.switchKey isSwitchKey isDop)
  split
  · refine .bind .view fun bytes => ?_
    refine .bind (.ofExcept fun holds => ordinary_muxSelector (ordinary holds) _ (keyReads holds) _)
      fun (switchKeyValue, selector) => ?_
    refine .bind (scoped_setBytesToSkip _) fun _ => ?_
    refine .ofExcept_bind (fun _ => ordinary_muxCase _ _ _)
      fun (caseName, caseStructure) chosen => ?_
    cases caseStructure with
    | none => exact scoped_insertMapped _ _
    | some caseStructure =>
      have caseReads := fun holds => (reads holds).refers (refers_of_muxCase chosen)
      refine .bind (scoped_mapMuxCaseFromUds nested _ caseReads) fun caseData => ?_
      exact scoped_insertMapped _ _
  · exact .fail fun holds => keyReads holds _ .invalid
  · exact .fail fun _ => trivial

theorem scoped_mapMuxDopFromUds (ordinary : strict → conv.FailOrdinarily) (shortName : Text)
    {muxDop : MuxDop conv} (reads : strict → (DataOperation.mux muxDop).ReadsOrdinarily)
    (paramCtx : ParamContext conv) :
    Scoped strict (mapMuxDopFromUds mapParam shortName muxDop paramCtx) := by
  refine .bind scoped_len fun length => ?_
  exact .inView _ _ (scoped_mapMuxFromUds nested ordinary _ reads)

omit nested in
theorem scoped_itemSizeSince (bytesToSkipBefore : Nat) :
    Scoped strict (itemSizeSince bytesToSkipBefore : Decoder conv Nat) := by
  refine .bind scoped_bytesToSkip fun skipped => ?_
  exact .bind scoped_lastReadBytePos fun lastRead => .pure _

omit nested in
theorem scoped_structItemSize (structDop : StructureDop conv) (bytesToSkipBefore : Nat) :
    Scoped strict (structItemSize structDop bytesToSkipBefore) := by
  unfold structItemSize
  split
  · exact scoped_itemSizeSince _
  · exact .pure _

theorem scoped_decodeDynamicLengthFieldItem (ordinary : strict → conv.FailOrdinarily)
    (data : MappedPayload conv) {repeatedDop : DopField conv}
    (reads : strict → ∀ inner, repeatedDop.Has inner → inner.ReadsOrdinarily) (start : Nat) :
    Scoped strict (decodeDynamicLengthFieldItem mapParam data repeatedDop start) := by
  refine .bind scoped_bytesToSkip fun bytesToSkipBefore => ?_
  refine .bind scoped_len fun length => ?_
  split
  · rename_i structDop isStructure
    obtain ⟨dop, basic, isStructure⟩ := Option.bind_eq_some_iff.1 isStructure
    have structReads := fun holds =>
      reads holds _ (.inl (basic.trans (congrArg _ (asStructure_eq_some isStructure))))
    refine .inView _ _ (.bind (scoped_setLastReadBytePos 0) fun _ => ?_)
    refine .bind (scoped_mapStructFromUds nested structReads _) fun structData => ?_
    exact .bind (scoped_structItemSize _ _) fun itemSize => .pure _
  · rename_i envDataDescDop none isEnvDataDesc
    refine .inView _ _ (.bind (scoped_setLastReadBytePos 0) fun _ => ?_)
    refine .orFail_bind trivial fun envDataDesc isDesc => ?_
    have descReads : strict → (DataOperation.envDataDesc envDataDesc).ReadsOrdinarily := by
      intro holds
      cases envDataDescDop with
      | envDataDesc other =>
        cases isDesc
        exact reads holds _ (.inr isEnvDataDesc)
      | _ => cases isDesc
    refine .bind (scoped_mapEnvDataDescItemFromUds nested ordinary _ descReads _)
      fun itemData => ?_
    exact .bind (scoped_itemSizeSince _) fun itemSize => .pure _
  · refine .bind (.inView _ _ (scoped_setLastReadBytePos 0)) fun _ => ?_
    exact .fail fun _ => trivial

theorem scoped_dynamicLengthFieldItems (ordinary : strict → conv.FailOrdinarily)
    (data : MappedPayload conv) {repeatedDop : DopField conv}
    (reads : strict → ∀ inner, repeatedDop.Has inner → inner.ReadsOrdinarily)
    (numItems start : Nat) :
    Scoped strict (dynamicLengthFieldItems mapParam data repeatedDop numItems start) := by
  induction numItems generalizing start with
  | zero => exact .pure _
  | succ numItems ih =>
    refine .bind (.swallow _
      (scoped_decodeDynamicLengthFieldItem nested ordinary _ reads _)) fun item => ?_
    cases item with
    | ok item => exact .bind (ih _) fun (items, stop) => .pure _
    | error error => exact .pure _

theorem scoped_mapDynamicLengthFieldFromUds (ordinary : strict → conv.FailOrdinarily)
    (shortName : Text) {dop : DynamicLengthDop conv}
    (reads : strict → (DataOperation.dynamicLengthField dop).ReadsOrdinarily)
    (paramCtx : ParamContext conv) :
    Scoped strict (mapDynamicLengthFieldFromUds mapParam shortName dop paramCtx) := by
  refine .orFail_bind trivial fun determineNumItems isNumber => ?_
  refine .bind .view fun bytes => ?_
  refine .bind (.ofExcept fun holds => ordinary_numItemsData (reads holds) isNumber _ _)
    fun countData => ?_
  refine .bind (.ofExcept fun holds => ordinary_udsDataToSerializable (ordinary holds) _ _ _)
    fun numItems => ?_
  refine .orFail_bind trivial fun repeatedDop isField => ?_
  refine .bind (.ofExcept fun _ => ordinary_toU32 _) fun numItems => ?_
  refine .bind (scoped_setLastReadBytePos _) fun _ => ?_
  refine .bind scoped_len fun length => ?_
  refine .bind scoped_mapped fun data => ?_
  have itemReads : strict → ∀ inner, repeatedDop.Has inner → inner.ReadsOrdinarily :=
    fun holds inner has => (reads holds).refers (.dynamicLengthField isField has)
  refine .bind (.inView _ _
    (scoped_dynamicLengthFieldItems nested ordinary _ itemReads _ _)) fun items => ?_
  refine .bind (scoped_setLastReadBytePos _) fun _ => ?_
  exact scoped_insertMapped _ _

theorem scoped_mapDopFromUds (ordinary : strict → conv.FailOrdinarily) {dop : DataOperation conv}
    (reads : strict → dop.ReadsOrdinarily) (paramCtx : ParamContext conv) :
    Scoped strict (mapDopFromUds mapParam dop paramCtx) := by
  refine .bind (.orFail trivial) fun shortName => ?_
  cases dop with
  | normal normalDop =>
    refine .bind (.ofExcept fun holds => (reads holds).codedType) fun diagCodedType => ?_
    split
    · exact scoped_mapParamLengthInfoDopFromUds ordinary _ reads _ _
    · exact scoped_mapNormalDopFromUds _ reads _
  | endOfPdu dop => exact scoped_mapEndOfPduDopFromUds nested _ reads
  | struct dop => exact scoped_mapStructureDopFromUds nested _ reads _
  | dtc dop => exact scoped_mapDtcDopFromUds _ reads _
  | envDataDesc dop =>
    refine .bind scoped_mapped fun data => ?_
    refine .bind (scoped_mapEnvDataDescItemFromUds nested ordinary _ reads _)
      fun item => ?_
    exact scoped_extendMapped _
  | envData dop => exact scoped_mapEnvDataDopFromUds nested reads _
  | staticField dop => exact scoped_mapStaticFieldDopFromUds nested _ reads _
  | mux dop => exact scoped_mapMuxDopFromUds nested ordinary _ reads _
  | dynamicLengthField dop =>
    exact scoped_mapDynamicLengthFieldFromUds nested ordinary _ reads _
  | invalid error => exact .fail fun holds => reads holds error .invalid

section Parameters

variable (ordinary : strict → conv.FailOrdinarily) {paramCtx : ParamContext conv}
  (reads : strict → paramCtx.parameter.ReadsOrdinarily)

include ordinary reads

theorem scoped_mapParamValueFromUds : Scoped strict (mapParamValueFromUds mapParam paramCtx) := by
  unfold mapParamValueFromUds
  split
  · rename_i default dop specific
    refine .orFail_bind trivial fun dop isDop => ?_
    exact scoped_mapDopFromUds nested ordinary
      (fun holds => (reads holds).refers (.value (isDop ▸ specific))) _
  · exact .fail fun _ => trivial

theorem scoped_mapParamLengthKeyFromUds :
    Scoped strict (mapParamLengthKeyFromUds mapParam paramCtx) := by
  unfold mapParamLengthKeyFromUds
  split
  · rename_i dop specific
    refine .orFail_bind trivial fun dop isDop => ?_
    exact scoped_mapDopFromUds nested ordinary
      (fun holds => (reads holds).refers (.lengthKey (isDop ▸ specific))) _
  · exact .fail fun _ => trivial

theorem scoped_mapParamPhysConstFromUds (paramName : Text) :
    Scoped strict (mapParamPhysConstFromUds mapParam paramName paramCtx) := by
  unfold mapParamPhysConstFromUds
  split
  · rename_i constant dop specific
    refine .orFail_bind trivial fun dop isDop => ?_
    have dopReads := fun holds => (reads holds).refers (.physConst (isDop ▸ specific))
    cases dop with
    | normal normalDop =>
      refine .bind (.ofExcept fun holds => (dopReads holds).codedType) fun diagType => ?_
      refine .bind (scoped_extractDiagDataContainer _ _ _ _) fun raw => ?_
      exact scoped_insertMapped _ _
    | invalid error => exact .fail fun holds => dopReads holds error .invalid
    | struct dop | endOfPdu dop | staticField dop | mux dop | dynamicLengthField dop =>
      exact scoped_mapDopFromUds nested ordinary dopReads _
    | envDataDesc dop | envData dop | dtc dop => exact .fail fun _ => trivial
  · exact .fail fun _ => trivial

theorem scoped_mapTableStructFromUds (paramName : Text) :
    Scoped strict (mapTableStructFromUds mapParam paramName paramCtx) := by
  unfold mapTableStructFromUds
  split
  · rename_i tableKey specific
    refine .bind scoped_mapped fun data => ?_
    refine .ofExcept_bind (fun holds => ordinary_selectedTableRow (ordinary holds) _ _)
      fun row selected => ?_
    obtain ⟨keyParam, table, rows, rfl, isTable, isRows, mem⟩ := row_of_selectedTableRow selected
    have keyReads : strict → keyParam.ReadsOrdinarily :=
      fun holds error carries => reads holds error (.tableStruct specific carries)
    dsimp only
    split
    · exact scoped_insertMapped _ _
    · rename_i structDop isStructure
      have structReads := fun holds =>
        (keyReads holds).refers (.tableRow isTable isRows mem isStructure)
      refine .bind scoped_len fun length => ?_
      refine .bind (.inView _ _ (.bind (scoped_setLastReadBytePos 0) fun _ => ?_))
        fun structData => scoped_insertMapped _ _
      exact scoped_mapStructFromUds nested structReads _
    · rename_i error isInvalid
      exact .fail fun holds =>
        (keyReads holds).refers (.tableRow isTable isRows mem isInvalid) _ .invalid
    · exact .fail fun _ => trivial
  · exact .fail fun _ => trivial

end Parameters

/-- Every parameter of the request is read with ordinary errors. -/
def DiagService.ReadsOrdinarily (service : DiagService conv) : Prop :=
  ∀ request params param, service.request = some request → request.params = some params →
    param ∈ params → param.ReadsOrdinarily

theorem scoped_mapParamMatchingRequestFromUds (serviceReads : strict → service.ReadsOrdinarily)
    (paramName : Text) (paramCtx : ParamContext conv) :
    Scoped strict (mapParamMatchingRequestFromUds service mapParam paramName paramCtx) := by
  unfold mapParamMatchingRequestFromUds
  split
  · split
    · split
      · exact .fail fun _ => trivial
      · exact .fail fun _ => trivial
    · refine .ofExcept_bind (fun _ => ordinary_matchingRequestParam _ _ _) fun param found => ?_
      obtain ⟨request, params, isRequest, isParams, mem⟩ := mem_of_matchingRequestParam found
      have paramReads := fun holds =>
        serviceReads holds request params param isRequest isParams mem
      split
      · refine .bind scoped_len fun length => ?_
        exact .inView _ _ (nested _ _ paramReads)
      · exact nested _ _ paramReads
  · exact .fail fun _ => trivial

theorem scoped_mapParamKindFromUds (ordinary : strict → conv.FailOrdinarily)
    (serviceReads : strict → service.ReadsOrdinarily) (paramName : Text)
    {paramCtx : ParamContext conv}
    (reads : strict → paramCtx.parameter.ReadsOrdinarily) :
    Scoped strict (mapParamKindFromUds service mapParam paramName paramCtx) := by
  refine .bind (.ofExcept fun holds error failed => reads holds error (.paramType failed))
    fun kind => ?_
  cases kind with
  | codedConst => exact scoped_mapParamCodedConstFromUds reads ordinary _
  | matchingRequestParam =>
    exact scoped_mapParamMatchingRequestFromUds nested serviceReads _ _
  | value => exact scoped_mapParamValueFromUds nested ordinary reads
  | reserved => exact scoped_mapParamReservedFromUds _ _
  | lengthKey => exact scoped_mapParamLengthKeyFromUds nested ordinary reads
  | physConst => exact scoped_mapParamPhysConstFromUds nested ordinary reads _
  | tableKey => exact scoped_mapTableKeyFromUds reads _
  | tableStruct => exact scoped_mapTableStructFromUds nested ordinary reads _
  | _ => exact .pure _

end Nested

section Message

variable {service : DiagService conv} (ordinary : strict → conv.FailOrdinarily)
  (serviceReads : strict → service.ReadsOrdinarily)

include ordinary serviceReads

theorem scoped_mapParamFromUds (depth : Nat) (paramName : Text)
    (paramCtx : ParamContext conv) (reads : strict → paramCtx.parameter.ReadsOrdinarily) :
    Scoped strict (mapParamFromUds service depth paramName paramCtx) := by
  induction depth generalizing paramName paramCtx with
  | zero => exact .fail fun _ => trivial
  | succ depth ih =>
    exact scoped_mapParamKindFromUds ih ordinary serviceReads _ reads

theorem scoped_convertParam (depth : Nat) (shortName : Text) {param : Parameter conv}
    (reads : strict → param.ReadsOrdinarily) :
    Scoped strict (convertParam service depth shortName param) := by
  refine .bind (.swallow _
    (scoped_mapParamFromUds ordinary serviceReads _ _ _ reads)) fun outcome => ?_
  split
  · exact .pure _
  · exact .pure _

theorem scoped_convertFromUds (depth : Nat) (semantics : Semantics)
    {params : List (Parameter conv)} (reads : strict → ∀ param ∈ params, param.ReadsOrdinarily) :
    Scoped strict (convertFromUds service depth semantics params) := by
  refine .bind (.mapEach fun param mem => ?_) fun errors => .pure _
  have paramReads := fun holds => reads holds param ((List.mem_insertionSort _).1 mem)
  have converted := fun shortName =>
    scoped_convertParam ordinary serviceReads depth shortName paramReads
  unfold convertResponseParam
  split
  · exact .pure _
  · refine .bind (.orFail trivial) fun shortName => ?_
    split
    · exact .bind (scoped_setLastReadBytePos _) fun _ => converted shortName
    · exact converted shortName

theorem scoped_convertRequestParams (depth : Nat) {params : List (Parameter conv)}
    (reads : strict → ∀ param ∈ params, param.ReadsOrdinarily) :
    Scoped strict (convertRequestParams service depth params) := by
  refine .bind (.mapEach fun param mem => ?_) fun errors => .pure _
  refine .bind (.orFail trivial) fun shortName => ?_
  refine .bind scoped_lastReadBytePos fun lastRead => ?_
  refine .bind (scoped_setLastReadBytePos _) fun _ => ?_
  exact scoped_convertParam ordinary serviceReads _ _ fun holds => reads holds param mem

end Message

end DiagnosticAdapter.Kernel
