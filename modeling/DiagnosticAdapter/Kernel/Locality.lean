import DiagnosticAdapter.Kernel.Balance

/-!
# Decoding inside a view

A decoder that works in a view of a payload does the same as on the bytes of the view
alone, as long as it does not come to the items of an end-of-PDU field: these are found by
the index into the whole payload, which no view moves.
-/

namespace DiagnosticAdapter.Kernel

open Bits Codec Effects Decoder

variable {conv : Conversions} {α : Type} {strict : Prop}

/-- A range within the bytes from `start` on, as a range within all bytes. -/
def shiftView (start : Nat) (view : Nat × Nat) : Nat × Nat := (start + view.1, start + view.2)

/-- `outer` has the view from `start` to `stop` open, `inner` consists of its bytes. -/
structure Inside (bytes : List UInt8) (below : Slices) (start stop : Nat)
    (outer inner : Payload) : Prop where
  outerData : outer.data = bytes
  innerData : inner.data = (bytes.drop start).take (stop - start)
  slices : outer.slices = below ++ (start, stop) :: inner.slices.map (shiftView start)
  ordered : ∀ view ∈ inner.slices, view.1 ≤ view.2 ∧ view.2 ≤ stop - start
  index : inner.currentIndex = 0
  lastReadBytePos : outer.lastReadBytePos = inner.lastReadBytePos
  bytesToSkip : outer.bytesToSkip = inner.bytesToSkip

section Range

variable {bytes : List UInt8} {below : Slices} {start stop : Nat} {outer inner : Payload}
  (lower : start ≤ stop) (upper : stop ≤ bytes.length)

theorem take_drop_take_drop (bytes : List UInt8) {start stop first last : Nat}
    (within : last ≤ stop - start) :
    (((bytes.drop start).take (stop - start)).drop first).take (last - first) =
      (bytes.drop (start + first)).take (start + last - (start + first)) := by
  rw [List.drop_take, List.drop_drop, List.take_take]
  congr 1
  omega

namespace Inside

theorem top (inside : Inside bytes below start stop outer inner) :
    (inner.slices = [] ∧ inner.slices.getLast? = none ∧
      outer.slices.getLast? = some (start, stop)) ∨
    ∃ first last, first ≤ last ∧ last ≤ stop - start ∧ inner.slices.getLast? = some (first, last) ∧
      outer.slices.getLast? = some (start + first, start + last) := by
  rw [inside.slices]
  obtain empty | ⟨front, view, split⟩ := List.eq_nil_or_concat inner.slices
  · left
    rw [empty]
    refine ⟨rfl, rfl, ?_⟩
    rw [List.map_nil, List.getLast?_concat]
  · right
    have mem : view ∈ inner.slices := by
      rw [split, List.concat_eq_append]
      exact List.mem_concat_self
    obtain ⟨ordered, within⟩ := inside.ordered view mem
    refine ⟨view.1, view.2, ordered, within, ?_, ?_⟩
    · rw [split, List.concat_eq_append, List.getLast?_concat]
    · rw [split, List.concat_eq_append, List.map_append, List.map_singleton,
        ← List.cons_append, ← List.append_assoc, List.getLast?_concat]
      rfl

include lower upper in
theorem innerData_length (inside : Inside bytes below start stop outer inner) :
    inner.data.length = stop - start := by
  rw [inside.innerData, List.length_take, List.length_drop]
  omega

include lower upper in
theorem len_eq (inside : Inside bytes below start stop outer inner) : outer.len = inner.len := by
  unfold Payload.len
  obtain ⟨-, innerTop, outerTop⟩ | ⟨first, last, -, -, innerTop, outerTop⟩ := inside.top
  · rw [innerTop, outerTop]
    exact (inside.innerData_length lower upper).symm
  · rw [innerTop, outerTop]
    exact Nat.add_sub_add_left start last first

theorem pos_eq (inside : Inside bytes below start stop outer inner) :
    outer.pos = start + inner.pos := by
  unfold Payload.pos
  obtain ⟨-, innerTop, outerTop⟩ | ⟨first, last, -, -, innerTop, outerTop⟩ := inside.top
  · rw [innerTop, outerTop, inside.index]
    rfl
  · rw [innerTop, outerTop]

include lower upper in
theorem pos_add_len_le (inside : Inside bytes below start stop outer inner) :
    inner.pos + inner.len ≤ stop - start := by
  unfold Payload.pos Payload.len
  obtain ⟨-, innerTop, -⟩ | ⟨first, last, ordered, within, innerTop, -⟩ := inside.top
  · rw [innerTop, inside.index, inside.innerData_length lower upper]
    exact Nat.le_of_eq (Nat.zero_add _)
  · rw [innerTop]
    dsimp only
    omega

include lower upper in
theorem view_eq (inside : Inside bytes below start stop outer inner) : outer.view = inner.view := by
  unfold Payload.view Payload.pos
  obtain ⟨-, innerTop, outerTop⟩ | ⟨first, last, ordered, within, innerTop, outerTop⟩ := inside.top
  · rw [innerTop, outerTop]
    dsimp only
    rw [inside.outerData, inside.index, slice?_of_le lower upper,
      slice?_of_le (Nat.zero_le _) (Nat.le_refl _), List.drop_zero, Nat.sub_zero, List.take_length,
      inside.innerData]
  · rw [innerTop, outerTop]
    dsimp only
    rw [slice?_of_le (by omega) (by rw [inside.outerData]; omega),
      slice?_of_le ordered (by rw [inside.innerData_length lower upper]; exact within),
      inside.outerData, inside.innerData, take_drop_take_drop bytes within]

include lower upper in
theorem pushSlice (inside : Inside bytes below start stop outer inner) (first last : Nat) :
    (∃ error, outer.pushSlice first last = .error error ∧
      inner.pushSlice first last = .error error) ∨
    ∃ outerNext innerNext, outer.pushSlice first last = .ok outerNext ∧
      inner.pushSlice first last = .ok innerNext ∧
      Inside bytes below start stop outerNext innerNext := by
  unfold Payload.pushSlice
  rw [inside.len_eq lower upper]
  by_cases outside : first > last ∨ last > inner.len
  · rw [if_pos outside, if_pos outside]
    exact .inl ⟨_, rfl, rfl⟩
  · rw [if_neg outside, if_neg outside]
    refine .inr ⟨_, _, rfl, rfl, inside.outerData, inside.innerData, ?_, ?_, inside.index,
      inside.lastReadBytePos, inside.bytesToSkip⟩
    all_goals have room := inside.pos_add_len_le lower upper
    · dsimp only
      rw [inside.pos_eq, inside.outerData, inside.innerData_length lower upper, inside.slices,
        List.map_append, List.append_assoc, List.cons_append, Nat.min_eq_left (by omega),
        Nat.min_eq_left (by omega), Nat.add_assoc, Nat.add_assoc]
      rfl
    · intro view mem
      obtain mem | mem := List.mem_append.mp mem
      · exact inside.ordered view mem
      · rw [List.mem_singleton.mp mem, inside.innerData_length lower upper]
        dsimp only
        omega

theorem popSlice (inside : Inside bytes below start stop outer inner)
    (nonempty : inner.slices ≠ []) :
    Inside bytes below start stop { outer with slices := outer.slices.dropLast }
      { inner with slices := inner.slices.dropLast } where
  outerData := inside.outerData
  innerData := inside.innerData
  slices := by
    have mapped : inner.slices.map (shiftView start) ≠ [] := by simpa using nonempty
    change outer.slices.dropLast = _
    rw [inside.slices, List.dropLast_append_of_ne_nil (List.cons_ne_nil _ _),
      List.dropLast_cons_of_ne_nil mapped, List.map_dropLast]
  ordered := fun view mem => inside.ordered view (List.mem_of_mem_dropLast mem)
  index := inside.index
  lastReadBytePos := inside.lastReadBytePos
  bytesToSkip := inside.bytesToSkip

end Inside

end Range

/-- The states of two runs; their histories may differ. -/
structure SameView (bytes : List UInt8) (below : Slices) (start stop : Nat)
    (outer inner : DecodeState conv) : Prop where
  inside : Inside bytes below start stop outer.payload inner.payload
  data : outer.data = inner.data

/-- The items of an end-of-PDU field have been come to. -/
def Repeated (state : DecodeState conv) : Prop := .repeating ∈ state.history

theorem Scoped.repeated {decoder : Decoder conv α} (scope : Scoped strict decoder)
    {start : DecodeState conv} (repeated : Repeated start) :
    Repeated (finalState (decoder start)) := by
  obtain ⟨views, events, account⟩ := scope.accounted start
  unfold Repeated
  rw [account.history]
  exact List.mem_append_left _ repeated

section Agreement

variable {bytes : List UInt8} {below : Slices} {start stop : Nat}
  (lower : start ≤ stop) (upper : stop ≤ bytes.length)

include lower upper in
theorem SameView.sight_eq {outer inner : DecodeState conv}
    (same : SameView bytes below start stop outer inner) : outer.sight = inner.sight := by
  unfold DecodeState.sight
  rw [same.inside.view_eq lower upper, same.inside.len_eq lower upper,
    same.inside.lastReadBytePos, same.inside.bytesToSkip, same.data]

theorem SameView.move {outer inner : DecodeState conv}
    (same : SameView bytes below start stop outer inner) (target : Move conv) :
    SameView bytes below start stop (outer.move target) (inner.move target) :=
  ⟨⟨same.inside.outerData, same.inside.innerData, same.inside.slices, same.inside.ordered,
    same.inside.index, rfl, rfl⟩, rfl⟩

include lower upper in
theorem agrees_onSight (act : Sight conv → Except DiagServiceError α × Move conv) :
    Effects.Agrees (SameView bytes below start stop) Repeated (onSight act) (onSight act) := by
  intro outer inner same
  right
  unfold onSight
  rw [same.sight_eq lower upper]
  obtain ⟨outcome, target⟩ := act inner.sight
  cases outcome with
  | ok value => exact .ok value (same.move target)
  | error error => exact .error _ (same.move target)

theorem history_inView {body : Decoder conv α} {first last : Nat} {state : DecodeState conv}
    {payload : Payload} (pushed : state.payload.pushSlice first last = .ok payload) :
    (finalState (inView first last body state)).history =
      (finalState (body { state with payload })).history := by
  cases ran : body { state with payload } with
  | error failure final =>
    rw [inView_of_error pushed ran]
    rfl
  | ok value final =>
    rw [inView_of_ok pushed ran]
    by_cases empty : final.payload.slices = []
    · rw [popSlice_of_nil empty]
      rfl
    · rw [popSlice_of_ne_nil empty]
      rfl

include lower upper in
theorem agrees_inView {body : Decoder conv α} (first last : Nat) (scope : Scoped strict body)
    (agrees : Effects.Agrees (SameView bytes below start stop) Repeated body body) :
    Effects.Agrees (SameView bytes below start stop) Repeated (inView first last body)
      (inView first last body) := by
  intro outer inner same
  obtain ⟨error, outerRefused, innerRefused⟩ | ⟨outerNext, innerNext, outerPushed, innerPushed,
    inside⟩ := same.inside.pushSlice lower upper first last
  · right
    rw [inView_of_refused outerRefused, inView_of_refused innerRefused]
    exact .error _ same
  · obtain gone | alike := agrees { outer with payload := outerNext }
      { inner with payload := innerNext } ⟨inside, same.data⟩
    · left
      unfold Repeated
      rw [history_inView innerPushed]
      exact gone
    · right
      generalize outerRan : body { outer with payload := outerNext } = outerResult at alike
      generalize innerRan : body { inner with payload := innerNext } = innerResult at alike
      cases alike with
      | error failure reached =>
        rw [inView_of_error outerPushed outerRan, inView_of_error innerPushed innerRan]
        exact .error _ reached
      | @ok outerFinal innerFinal value reached =>
        -- The view that is popped is still on the stack of the inner payload.
        have innerNonempty : innerFinal.payload.slices ≠ [] := by
          obtain ⟨views, events, account⟩ := scope.accounted.of_ok innerRan
          rw [account.slices]
          exact List.append_ne_nil_of_left_ne_nil (slices_ne_nil_of_pushSlice innerPushed) _
        have outerNonempty : outerFinal.payload.slices ≠ [] := by
          rw [reached.inside.slices]
          exact List.append_ne_nil_of_right_ne_nil _ (List.cons_ne_nil _ _)
        rw [inView_of_ok outerPushed outerRan, popSlice_of_ne_nil outerNonempty,
          inView_of_ok innerPushed innerRan, popSlice_of_ne_nil innerNonempty]
        exact .ok value ⟨reached.inside.popSlice innerNonempty, reached.data⟩

theorem agrees_swallow {body : Decoder conv α} (ignored : DiagServiceError → Bool)
    (agrees : Effects.Agrees (SameView bytes below start stop) Repeated body body) :
    Effects.Agrees (SameView bytes below start stop) Repeated (swallow ignored body)
      (swallow ignored body) := by
  intro outer inner same
  unfold swallow
  obtain gone | alike := agrees outer inner same
  · left
    cases innerRan : body inner with
    | ok value final =>
      rw [innerRan] at gone
      exact gone
    | error failure final =>
      rw [innerRan] at gone
      dsimp only
      split
      · exact List.mem_append_left _ gone
      · exact gone
  · right
    generalize body outer = outerResult at alike
    generalize body inner = innerResult at alike
    cases alike with
    | ok value reached => exact .ok _ reached
    | error failure reached =>
      dsimp only
      split
      · exact .ok _ ⟨reached.inside, reached.data⟩
      · exact .error failure reached

theorem agrees_onFreshData {body : Decoder conv Unit}
    (agrees : Effects.Agrees (SameView bytes below start stop) Repeated body body) :
    Effects.Agrees (SameView bytes below start stop) Repeated (onFreshData body)
      (onFreshData body) := by
  intro outer inner same
  unfold onFreshData
  obtain gone | alike := agrees { outer with data := .empty } { inner with data := .empty }
    ⟨same.inside, rfl⟩
  · left
    cases innerRan : body { inner with data := .empty } with
    | ok value final | error failure final =>
      rw [innerRan] at gone
      exact gone
  · right
    generalize body { outer with data := .empty } = outerResult at alike
    generalize body { inner with data := .empty } = innerResult at alike
    cases alike with
    | ok value reached =>
      dsimp only
      rw [reached.data]
      exact .ok _ ⟨reached.inside, same.data⟩
    | error failure reached => exact .error failure ⟨reached.inside, same.data⟩

include lower upper in
theorem Inside.consume_of_advanceLen {outer inner : Payload}
    (inside : Inside bytes below start stop outer inner) (still : inner.advanceLen = 0) :
    Inside bytes below start stop outer.consume inner.consume := by
  have innerBound : ¬inner.pos + inner.advanceLen > inner.data.length := by
    have room := inside.pos_add_len_le lower upper
    rw [inside.innerData_length lower upper]
    omega
  refine ⟨inside.outerData, inside.innerData, inside.slices, inside.ordered, ?_, rfl, rfl⟩
  change (if _ then _ else _) = 0
  rw [if_neg innerBound, inside.index, still]

include lower upper in
theorem agrees_repeatToEnd {item : Decoder conv α} (scope : Scoped strict item) :
    Effects.Agrees (SameView bytes below start stop) Repeated (repeatToEnd item)
      (repeatToEnd item) := by
  intro outer inner same
  have advance : outer.payload.advanceLen = inner.payload.advanceLen := by
    unfold Payload.advanceLen
    rw [same.inside.lastReadBytePos, same.inside.bytesToSkip]
  unfold repeatToEnd
  rw [bind_of_ok (show consume outer = .ok _ _ from rfl),
    bind_of_ok (show consume inner = .ok _ _ from rfl), advance]
  by_cases still : inner.payload.advanceLen = 0
  · rw [if_pos still]
    right
    exact .ok none ⟨same.inside.consume_of_advanceLen lower upper still, same.data⟩
  · rw [if_neg still]
    left
    rw [bind_of_ok (show report .repeating _ = .ok () _ from rfl)]
    have rest : Obeys Accounted (do
        let rounds ← byteCount
        let values ← itemsToEnd item (rounds + 1)
        return some values : Decoder conv (Option (List α))) := by
      have closed := @closed_accounted conv False
      refine obeys_bind closed.byteCount fun rounds => ?_
      refine obeys_bind (closed.itemsToEnd scope.accounted _) fun values => ?_
      exact obeys_onSight fun sight => (.ok _, sight.stay)
    obtain ⟨views, events, account⟩ := rest
      { payload := inner.payload.consume, data := inner.data,
        history := inner.history ++ [.repeating] }
    unfold Repeated
    rw [account.history]
    exact List.mem_append_left _ (List.mem_append_right _ (List.mem_singleton_self _))

include lower upper in
theorem Scoped.agrees {decoder : Decoder conv α} (scope : Scoped strict decoder) :
    Effects.Agrees (SameView bytes below start stop) Repeated decoder decoder := by
  induction scope with
  | sight act _ => exact agrees_onSight lower upper act
  | bind _ next first second =>
    exact first.bind second fun value _ repeated => (next value).repeated repeated
  | inView first last scope inner => exact agrees_inView lower upper first last scope inner
  | swallow ignored _ inner => exact agrees_swallow ignored inner
  | onFreshData _ inner => exact agrees_onFreshData inner
  | repeatToEnd scope _ => exact agrees_repeatToEnd lower upper scope

end Agreement

namespace IntegerDatabase

def decodedItems (result : EStateM.Result Failure (DecodeState integerConversions) α)
    (name member : String) : Option (List (Option (List UInt8))) :=
  match (finalState result).data name.toList with
  | some (.repeatingStruct items) => some (items.map fun item =>
    match item member.toList with
    | some (.raw raw) => some raw.data
    | _ => none)
  | _ => none

end IntegerDatabase

end DiagnosticAdapter.Kernel
