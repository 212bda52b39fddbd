import DiagnosticAdapter.Kernel.Balance

/-!
# The rounds of an end-of-PDU field

The loop ends within one round more than the payload has bytes.  The index moves back, or
beyond the payload, only where `consume` checks a view that starts in front of the index.
-/

namespace DiagnosticAdapter.Kernel

open Codec Effects Decoder

variable {conv : Conversions} {α β : Type}

namespace Payload

def ViewsWithin (payload : Payload) : Prop :=
  ∀ view ∈ payload.slices, view.2 ≤ payload.data.length

/-- What passes the check of `consume` at the view ends in the payload from the index on. -/
def Guarded (payload : Payload) : Prop :=
  payload.pos + payload.advanceLen ≤ payload.data.length →
    payload.currentIndex + payload.advanceLen ≤ payload.data.length

/-- Nothing is consumed between the two. -/
structure Still (start final : Payload) : Prop where
  data : final.data = start.data
  index : final.currentIndex = start.currentIndex
  views : start.ViewsWithin → final.ViewsWithin

/-- The index falls back to the end of the payload at most. -/
structure Forward (start final : Payload) : Prop where
  data : final.data = start.data
  index : min start.currentIndex start.data.length ≤ final.currentIndex
  views : start.ViewsWithin → final.ViewsWithin

/-- Between the two exactly these payloads are consumed from. -/
def Linked (final : Payload) : Payload → List Payload → Prop
  | start, [] => start.Still final
  | start, found :: later => start.Still found ∧ Linked final found.consume later

/-- The index at the start and after each `consume`. -/
def indexes (start : Payload) (trace : List Payload) : List Nat :=
  start.currentIndex :: trace.map fun found => found.consume.currentIndex

variable {start middle final : Payload} {trace later : List Payload}

theorem Still.refl (payload : Payload) : Still payload payload := ⟨rfl, rfl, id⟩

theorem Still.trans (first : Still start middle) (second : Still middle final) :
    Still start final :=
  ⟨second.data.trans first.data, second.index.trans first.index, second.views ∘ first.views⟩

theorem Forward.trans (first : Forward start middle) (second : Forward middle final) :
    Forward start final := by
  refine ⟨second.data.trans first.data, ?_, second.views ∘ first.views⟩
  have front := first.index
  have back := second.index
  rw [first.data] at back
  omega

theorem Still.forward (still : Still start final) : Forward start final :=
  ⟨still.data, still.index ▸ Nat.min_le_left _ _, still.views⟩

theorem forward_consume (payload : Payload) : Forward payload payload.consume := by
  refine ⟨rfl, ?_, id⟩
  simp only [consume]
  split <;> omega

theorem Linked.append (first : Linked middle start trace) (second : Linked final middle later) :
    Linked final start (trace ++ later) := by
  induction trace generalizing start with
  | nil =>
    cases later with
    | nil => exact Still.trans first second
    | cons found later => exact ⟨Still.trans first second.1, second.2⟩
  | cons found rest ih => exact ⟨first.1, ih first.2⟩

theorem Linked.forward (linked : Linked final start trace) : Forward start final := by
  induction trace generalizing start with
  | nil => exact Still.forward linked
  | cons found rest ih =>
    exact (linked.1.forward.trans (forward_consume found)).trans (ih linked.2)

theorem consume_bounded_iff (within : start.currentIndex ≤ start.data.length) :
    (start.currentIndex ≤ start.consume.currentIndex ∧
      start.consume.currentIndex ≤ start.data.length) ↔ start.Guarded := by
  simp only [Guarded, consume]
  split <;> omega

/-- From an index in the payload on, it never moves back nor beyond the payload exactly if every
`consume` is guarded. -/
theorem Linked.bounded_iff (linked : Linked final start trace)
    (within : start.currentIndex ≤ start.data.length) :
    ((indexes start trace).IsChain (· ≤ ·) ∧
        ∀ index ∈ indexes start trace, index ≤ start.data.length) ↔
      ∀ found ∈ trace, found.Guarded := by
  induction trace generalizing start with
  | nil => simp [indexes, within]
  | cons found rest ih =>
    obtain ⟨still, linked⟩ := linked
    rw [← still.index, ← still.data] at within
    have step := consume_bounded_iff within
    have split : indexes start (found :: rest) =
        start.currentIndex :: indexes found.consume rest := rfl
    have data : found.consume.data = start.data := still.data
    rw [split, List.forall_mem_cons, List.forall_mem_cons, ← step, ← still.data, ← still.index]
    constructor
    · intro ⟨chain, _, bounded⟩
      obtain ⟨forth, chain⟩ := List.isChain_cons_cons.mp chain
      have bound := bounded _ List.mem_cons_self
      exact ⟨⟨forth, bound⟩, (ih linked bound).mp ⟨chain, bounded⟩⟩
    · intro ⟨⟨forth, bound⟩, guarded⟩
      obtain ⟨chain, bounded⟩ := (ih linked bound).mpr guarded
      exact ⟨List.isChain_cons_cons.mpr ⟨forth, chain⟩, within, bounded⟩

theorem index_lt_of_not_exhausted (views : final.ViewsWithin)
    (goesOn : final.exhausted = false) : final.currentIndex < final.data.length := by
  unfold exhausted at goesOn
  split at goesOn
  · rename_i stop last
    have bound := views _ (List.mem_of_getLast? last)
    simp only [ge_iff_le, decide_eq_false_iff_not, not_le] at goesOn
    exact goesOn.trans_le bound
  · simpa using goesOn

end Payload

open Payload

/-- The payloads that a run of the decoder consumes from, in order. -/
inductive Consumes : {α : Type} → Decoder conv α → DecodeState conv → List Payload → Prop
  | consume (start : DecodeState conv) : Consumes consume start [start.payload]
  | still {α : Type} {decoder : Decoder conv α}
      (still : ∀ state : DecodeState conv, state.payload.Still (finalState (decoder state)).payload)
      (start : DecodeState conv) : Consumes decoder start []
  | next {α β : Type} {first : Decoder conv α} {next : α → Decoder conv β}
      {start middle : DecodeState conv} {value : α} {before after : List Payload} :
      Consumes first start before → first start = .ok value middle →
        Consumes (next value) middle after → Consumes (first >>= next) start (before ++ after)
  | stop {α β : Type} {first : Decoder conv α} {next : α → Decoder conv β}
      {start middle : DecodeState conv} {failure : Failure} {before : List Payload} :
      Consumes first start before → first start = .error failure middle →
        Consumes (first >>= next) start before
  | leavingView {α : Type} {body : Decoder conv α} {start : DecodeState conv}
      {trace : List Payload} : Consumes body start trace → Consumes (leavingView body) start trace
  | swallow {α : Type} {body : Decoder conv α} {start : DecodeState conv} {trace : List Payload}
      (ignored : DiagServiceError → Bool) :
      Consumes body start trace → Consumes (swallow ignored body) start trace
  | onFreshData {body : Decoder conv Unit} {start : DecodeState conv} {trace : List Payload} :
      Consumes body { start with data := .empty } trace → Consumes (onFreshData body) start trace

variable {decoder : Decoder conv α}

theorem Consumes.linked {start : DecodeState conv}
    {trace : List Payload} (consumes : Consumes decoder start trace) :
    Linked (finalState (decoder start)).payload start.payload trace := by
  induction consumes with
  | consume start => exact ⟨.refl _, .refl _⟩
  | still still start => exact still start
  | next _ ran _ first second =>
    rw [bind_of_ok ran]
    rw [ran] at first
    exact first.append second
  | stop _ failed first =>
    rw [bind_of_error failed]
    rw [failed] at first
    exact first
  | @leavingView _ body start _ _ inner =>
    unfold Decoder.leavingView
    cases ran : body start <;> rw [ran] at inner <;> exact inner
  | @swallow _ body start _ ignored _ inner =>
    unfold Decoder.swallow
    cases ran : body start with
    | ok value final =>
      rw [ran] at inner
      exact inner
    | error failure final =>
      rw [ran] at inner
      dsimp only
      split <;> exact inner
  | @onFreshData body start _ _ inner =>
    unfold Decoder.onFreshData
    cases ran : body { start with data := .empty } <;> rw [ran] at inner <;> exact inner

def Traced (decoder : Decoder conv α) : Prop :=
  ∀ start, ∃ trace, Consumes decoder start trace

theorem Traced.of_still
    (still : ∀ state : DecodeState conv, state.payload.Still (finalState (decoder state)).payload) :
    Traced decoder :=
  fun start => ⟨[], .still still start⟩

theorem Traced.bind {next : α → Decoder conv β}
    (first : Traced decoder) (second : ∀ value, Traced (next value)) :
    Traced (decoder >>= next) := by
  intro start
  obtain ⟨before, consumes⟩ := first start
  cases ran : decoder start with
  | ok value middle =>
    obtain ⟨after, rest⟩ := second value middle
    exact ⟨_, .next consumes ran rest⟩
  | error failure middle => exact ⟨_, .stop consumes ran⟩

theorem still_onSight (act : Sight conv → Except DiagServiceError α × Move conv)
    (state : DecodeState conv) : state.payload.Still (finalState (onSight act state)).payload := by
  unfold onSight
  split <;> exact ⟨rfl, rfl, id⟩

theorem still_pushSlice (start stop : Nat) (state : DecodeState conv) :
    state.payload.Still (finalState (pushSlice start stop state)).payload := by
  unfold Decoder.pushSlice Payload.pushSlice
  split
  · rename_i pushed
    split at pushed <;> cases pushed
    refine ⟨rfl, rfl, fun views view mem => ?_⟩
    obtain mem | mem := List.mem_append.mp mem
    · exact views view mem
    · rw [List.mem_singleton.mp mem]
      exact Nat.min_le_right _ _
  · exact .refl _

theorem still_popSlice (state : DecodeState conv) :
    state.payload.Still (finalState (popSlice state)).payload := by
  unfold Decoder.popSlice Payload.popSlice
  split
  · rename_i popped
    split at popped <;> cases popped
    exact ⟨rfl, rfl, fun views view mem => views view (List.mem_of_mem_dropLast mem)⟩
  · exact .refl _

theorem closed_traced (strict : Prop) : @Closed conv strict Traced where
  sight act _ := .of_still (still_onSight act)
  bind first second := first.bind second
  inView start stop inner := by
    refine .bind (.of_still (still_pushSlice start stop)) fun _ => .bind ?_ fun value => ?_
    · intro state
      obtain ⟨trace, consumes⟩ := inner state
      exact ⟨trace, .leavingView consumes⟩
    · exact .bind (.of_still still_popSlice) fun _ => .of_still fun state => .refl _
  swallow ignored inner start := by
    obtain ⟨trace, consumes⟩ := inner start
    exact ⟨trace, .swallow ignored consumes⟩
  onFreshData inner start := by
    obtain ⟨trace, consumes⟩ := inner { start with data := .empty }
    exact ⟨trace, .onFreshData consumes⟩
  consume start := ⟨_, .consume start⟩
  exhausted := .of_still fun state => .refl _
  byteCount := .of_still fun state => .refl _
  report := .of_still fun state => .refl _

section Rounds

variable {item : Decoder conv α}

/-- The loop ends within so many rounds. -/
def EndsWithin (item : Decoder conv α) : Nat → DecodeState conv → Prop
  | 0, _ => False
  | rounds + 1, state => ∀ value consumed next,
    inView state.payload.lastReadBytePos state.payload.len (itemToEnd item) state =
        .ok (some (value, consumed)) next →
      next.payload.exhausted = true ∨ consumed = 0 ∨ EndsWithin item rounds next

theorem EndsWithin.itemsToEnd_add {rounds : Nat} {state : DecodeState conv}
    (ends : EndsWithin item rounds state) (more : Nat) :
    itemsToEnd item (rounds + more) state = itemsToEnd item rounds state := by
  induction rounds generalizing state with
  | zero => exact ends.elim
  | succ rounds ih =>
    rw [Nat.succ_add]
    simp only [itemsToEnd]
    iterate 2 rw [bind_of_ok (rfl : lastReadBytePos state = .ok _ state),
      bind_of_ok (rfl : len state = .ok _ state)]
    cases ran : inView state.payload.lastReadBytePos state.payload.len (itemToEnd item) state with
    | error failure next => rw [bind_of_error ran, bind_of_error ran]
    | ok round next =>
      rw [bind_of_ok ran, bind_of_ok ran]
      cases round with
      | none => rfl
      | some round =>
        dsimp only
        iterate 2 rw [bind_of_ok (rfl : exhausted next = .ok _ next)]
        split
        · rfl
        split
        · rfl
        obtain atEnd | none | later := ends _ _ next ran
        · contradiction
        · contradiction
        · have same := ih later
          cases outcome : itemsToEnd item rounds next with
          | ok values final => rw [bind_of_ok outcome, bind_of_ok (same.trans outcome)]
          | error failure final => rw [bind_of_error outcome, bind_of_error (same.trans outcome)]

theorem Traced.consume_of_itemToEnd (traced : Traced item) {state final : DecodeState conv}
    {value : Option α} {consumed : Nat}
    (ran : itemToEnd item state = .ok (some (value, consumed)) final) :
    ∃ before, state.payload.Forward before ∧ final.payload = before.consume ∧
      consumed = before.advanceLen := by
  rw [itemToEnd, bind_of_ok (rfl : exhausted state = .ok _ state)] at ran
  split at ran
  · cases ran
    exact ⟨_, (Still.refl _).forward, rfl, rfl⟩
  · obtain ⟨outcome, middle, swallowed, rest⟩ := exists_of_bind_eq_ok ran
    obtain ⟨trace, consumes⟩ := traced state
    have forward := (consumes.swallow isNotEnoughData).linked.forward
    rw [swallowed] at forward
    cases outcome with
    | ok value =>
      cases rest
      exact ⟨_, forward, rfl, rfl⟩
    | error error => cases rest

/-- A round after which the loop goes on moves the index towards the end of the payload. -/
theorem Traced.index_lt_of_round (traced : Traced item) {state next : DecodeState conv}
    (views : state.payload.ViewsWithin) {start stop consumed : Nat} {value : Option α}
    (ran : inView start stop (itemToEnd item) state = .ok (some (value, consumed)) next)
    (goesOn : next.payload.exhausted = false) (moved : consumed ≠ 0) :
    next.payload.ViewsWithin ∧ next.payload.data = state.payload.data ∧
      min state.payload.currentIndex state.payload.data.length < next.payload.currentIndex ∧
      next.payload.currentIndex < state.payload.data.length := by
  obtain ⟨_, opened, pushed, ran⟩ := exists_of_bind_eq_ok ran
  obtain ⟨result, inner, left, ran⟩ := exists_of_bind_eq_ok ran
  obtain ⟨_, closed, popped, ran⟩ := exists_of_bind_eq_ok ran
  cases ran
  have body : itemToEnd item opened = .ok (some (value, consumed)) inner := by
    unfold leavingView at left
    split at left <;> cases left
    assumption
  have front := still_pushSlice start stop state
  rw [pushed] at front
  have back := still_popSlice inner
  rw [popped] at back
  obtain ⟨before, forward, after, count⟩ := traced.consume_of_itemToEnd body
  have reached := front.forward.trans forward
  rw [finalState_ok, after] at back
  have views := back.views (reached.views views)
  have data : next.payload.data = state.payload.data := back.data.trans reached.data
  have room := index_lt_of_not_exhausted views goesOn
  refine ⟨views, data, ?_, data ▸ room⟩
  have least := reached.index
  rw [data, ← reached.data] at room
  have index := back.index
  simp only [Payload.consume] at index
  split at index <;> omega

theorem Traced.endsWithin (traced : Traced item) : ∀ (rounds : Nat) (state : DecodeState conv),
    state.payload.ViewsWithin →
      state.payload.data.length - state.payload.currentIndex < rounds →
      EndsWithin item rounds state
  | 0, _, _, few => absurd few (Nat.not_lt_zero _)
  | rounds + 1, state, views, few => by
    intro value consumed next ran
    by_cases atEnd : next.payload.exhausted = true
    · exact .inl atEnd
    by_cases none : consumed = 0
    · exact .inr (.inl none)
    obtain ⟨views, data, forth, room⟩ :=
      traced.index_lt_of_round views ran (Bool.eq_false_iff.mpr atEnd) none
    refine .inr (.inr (traced.endsWithin rounds next views ?_))
    rw [data]
    omega

end Rounds

/-- Whatever a decoding ends with, the bytes are the same, no view shows more than them, and the
index has not moved back but to their end. -/
theorem forward_of_decoding (service : DiagService conv) (depth : Nat) (semantics : Semantics)
    (params : List (Parameter conv)) (state : DecodeState conv) :
    state.payload.Forward
        (finalState (convertFromUds service depth semantics params state)).payload ∧
      state.payload.Forward
        (finalState (convertRequestParams service depth params state)).payload := by
  have forward {decoder : Decoder conv (List FieldParseError)} (scope : Scoped False decoder) :
      state.payload.Forward (finalState (decoder state)).payload := by
    obtain ⟨trace, consumes⟩ := (closed_traced False).of_scoped scope state
    exact consumes.linked.forward
  exact ⟨forward (scoped_convertFromUds False.elim False.elim depth semantics False.elim),
    forward (scoped_convertRequestParams False.elim False.elim depth False.elim)⟩

/-- The loop ends within one round more than the payload has bytes, whatever its items are.  The
index never moves back nor beyond the payload exactly if every `consume` of the run is guarded. -/
theorem endOfPdu_ends_and_bounded_iff (service : DiagService conv) (depth : Nat)
    (shortName : Text) (endOfPduDop : EndOfPdu conv) (start : DecodeState conv)
    (within : start.payload.currentIndex ≤ start.payload.data.length) :
    (∀ structDop data state, state.payload.ViewsWithin →
      EndsWithin (mapStructFromUds (mapParamFromUds service depth) structDop data)
        (state.payload.data.length + 1) state) ∧
    (∃ trace, Consumes (mapEndOfPduDopFromUds (mapParamFromUds service depth) shortName
      endOfPduDop) start trace) ∧
    ∀ trace, Consumes (mapEndOfPduDopFromUds (mapParamFromUds service depth) shortName
        endOfPduDop) start trace →
      (((indexes start.payload trace).IsChain (· ≤ ·) ∧
        ∀ index ∈ indexes start.payload trace, index ≤ start.payload.data.length) ↔
        ∀ found ∈ trace, found.Guarded) := by
  have nested : ∀ paramName paramCtx, (False → paramCtx.parameter.ReadsOrdinarily) →
      Scoped False (mapParamFromUds service depth paramName paramCtx) :=
    scoped_mapParamFromUds False.elim False.elim depth
  refine ⟨fun structDop data state views => ?_, ?_, fun trace consumes =>
    consumes.linked.bounded_iff within⟩
  · have scope : Scoped False (mapStructFromUds (mapParamFromUds service depth) structDop data) :=
      scoped_mapStructFromUds nested False.elim data
    exact Traced.endsWithin ((closed_traced False).of_scoped scope) _ state views (by omega)
  · exact (closed_traced False).of_scoped
      (scoped_mapEndOfPduDopFromUds nested shortName False.elim) start

namespace IntegerDatabase

/-- Items of a byte and a field of items of two bytes. -/
def nestedField : EndOfPdu integerConversions :=
  ⟨none, none, some (fieldOf (structure_ [valueParam "head" 0 (normalDop (number 8)),
    valueParam "pairs" 1 (.endOfPdu ⟨none, none,
      some (fieldOf (structure_ [valueParam "pair" 0 (normalDop (number 16))]))⟩)]))⟩

def decodeNested : Decoder integerConversions Unit :=
  mapEndOfPduDopFromUds (mapParamFromUds ⟨none⟩ 4) "items".toList nestedField

/-- Three bytes, of which the first has been read. -/
def headRead : DecodeState integerConversions := ⟨⟨[1, 2, 3], 0, [], 1, 0⟩, .empty, []⟩

theorem endOfPdu_ends_and_bounded_iff_nested : ∃ trace, Consumes decodeNested headRead trace ∧
    (((indexes headRead.payload trace).IsChain (· ≤ ·) ∧
      ∀ index ∈ indexes headRead.payload trace, index ≤ 3) ↔ ∀ found ∈ trace, found.Guarded) := by
  obtain ⟨_, ⟨trace, consumes⟩, bounded⟩ := endOfPdu_ends_and_bounded_iff ⟨none⟩ 4 "items".toList
    nestedField headRead (by decide)
  exact ⟨trace, consumes, bounded trace consumes⟩

/-- The pair that starts one byte behind the start of the view is taken for one at its start. -/
theorem not_bounded_nested : ¬∀ (service : DiagService integerConversions) (depth : Nat)
    (shortName : Text) (endOfPduDop : EndOfPdu integerConversions)
    (start : DecodeState integerConversions), start.payload.ViewsWithin →
    start.payload.currentIndex ≤ start.payload.data.length →
    (finalState (mapEndOfPduDopFromUds (mapParamFromUds service depth) shortName endOfPduDop
      start)).payload.currentIndex ≤ start.payload.data.length := by
  intro everyFieldBounded
  have index : (finalState (decodeNested headRead)).payload.currentIndex = 4 := by decide +kernel
  have bounded := everyFieldBounded ⟨none⟩ 4 "items".toList nestedField headRead nofun (by decide)
  rw [show mapEndOfPduDopFromUds _ _ _ _ = decodeNested headRead from rfl, index] at bounded
  exact absurd (bounded : 4 ≤ 3) (by decide)

end IntegerDatabase

end DiagnosticAdapter.Kernel
