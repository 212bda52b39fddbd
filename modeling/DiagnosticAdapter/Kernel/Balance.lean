import DiagnosticAdapter.Kernel.Scoped

/-!
# The views and the history of a run

A decoder that fails between its `push_slice` and its `pop_slice` leaves its view on the
stack.  An account of a run lists the views that it adds to the stack and the events that
it adds to the history; no run takes anything away.
-/

namespace DiagnosticAdapter.Kernel

open Codec Effects Decoder

variable {conv : Conversions} {α : Type}

/-- A run adds `views` to the stack and `events` to the history. -/
structure Account (start final : DecodeState conv) (views : Slices) (events : List Event) :
    Prop where
  slices : final.payload.slices = start.payload.slices ++ views
  history : final.history = start.history ++ events

def Accounted (start : DecodeState conv) (_ : Option Failure) (final : DecodeState conv) : Prop :=
  ∃ views events, Account start final views events

theorem Accounted.of_eq {start final : DecodeState conv} {failure : Option Failure}
    (slices : final.payload.slices = start.payload.slices)
    (history : final.history = start.history) : Accounted start failure final :=
  ⟨[], [], by rw [slices, List.append_nil], by rw [history, List.append_nil]⟩

theorem Accounted.trans {start middle final : DecodeState conv} {failure : Option Failure}
    (first : Accounted start none middle) (second : Accounted middle failure final) :
    Accounted start failure final := by
  obtain ⟨views, events, first⟩ := first
  obtain ⟨laterViews, laterEvents, second⟩ := second
  refine ⟨views ++ laterViews, events ++ laterEvents, ?_, ?_⟩
  · rw [second.slices, first.slices, List.append_assoc]
  · rw [second.history, first.history, List.append_assoc]

variable {decoder : Decoder conv α}

theorem obeys_bind {β : Type} {next : α → Decoder conv β}
    (first : Obeys Accounted decoder) (second : ∀ value, Obeys Accounted (next value)) :
    Obeys Accounted (decoder >>= next) :=
  first.bind Accounted.trans second

theorem obeys_onSight (act : Sight conv → Except DiagServiceError α × Move conv) :
    Obeys Accounted (onSight act) := by
  intro start
  unfold onSight
  obtain ⟨outcome, target⟩ := act start.sight
  cases outcome with
  | ok value | error error => exact .of_eq rfl rfl

theorem obeys_report_repeating : Obeys Accounted (report .repeating : Decoder conv Unit) :=
  fun _ => ⟨[], [.repeating], (List.append_nil _).symm, rfl⟩

section InView

variable {body : Decoder conv α} {start stop : Nat} {state final : DecodeState conv}
  {payload : Payload} {value : α} {failure : Failure} {error : DiagServiceError}

theorem pushSlice_cases (start stop : Nat) (payload : Payload) : payload.pushSlice start stop =
      .error (.badPayload "Invalid range for restricting view") ∨
    ∃ next view, payload.pushSlice start stop = .ok next ∧
      next.slices = payload.slices ++ [view] := by
  unfold Payload.pushSlice
  split
  · exact .inl rfl
  · exact .inr ⟨_, _, rfl, rfl⟩

theorem slices_ne_nil_of_pushSlice {payload next : Payload}
    (pushed : payload.pushSlice start stop = .ok next) : next.slices ≠ [] := by
  obtain refused | ⟨other, view, accepted, slices⟩ := pushSlice_cases start stop payload
  · rw [refused] at pushed
    cases pushed
  · rw [accepted] at pushed
    cases pushed
    rw [slices]
    exact List.append_ne_nil_of_right_ne_nil _ (List.cons_ne_nil view [])

theorem pushSlice_of_ok (pushed : state.payload.pushSlice start stop = .ok payload) :
    pushSlice start stop state = .ok () { state with payload } := by
  rw [pushSlice, pushed]

theorem inView_of_refused (refused : state.payload.pushSlice start stop = .error error) :
    inView start stop body state = .error ⟨error, 0⟩ state := by
  have failed : pushSlice start stop state = .error ⟨error, 0⟩ state := by
    rw [pushSlice, refused]
  exact bind_of_error failed

theorem inView_of_error (pushed : state.payload.pushSlice start stop = .ok payload)
    (ran : body { state with payload } = .error failure final) :
    inView start stop body state = .error ⟨failure.error, failure.viewsLeft + 1⟩ final := by
  have left : leavingView body { state with payload } =
      .error ⟨failure.error, failure.viewsLeft + 1⟩ final := by
    rw [leavingView, ran]
  rw [inView, bind_of_ok (pushSlice_of_ok pushed), bind_of_error left]

theorem inView_of_ok (pushed : state.payload.pushSlice start stop = .ok payload)
    (ran : body { state with payload } = .ok value final) :
    inView start stop body state = (do popSlice; return value : Decoder conv α) final := by
  have returned : leavingView body { state with payload } = .ok value final := by
    rw [leavingView, ran]
  rw [inView, bind_of_ok (pushSlice_of_ok pushed), bind_of_ok returned]

theorem popSlice_of_ne_nil (nonempty : final.payload.slices ≠ []) :
    (do popSlice; return value : Decoder conv α) final =
      .ok value { final with payload := { final.payload with
        slices := final.payload.slices.dropLast } } := by
  have popped : popSlice final = .ok () { final with payload := { final.payload with
      slices := final.payload.slices.dropLast } } := by
    rw [popSlice, Payload.popSlice, if_neg (by simpa using nonempty)]
  exact bind_of_ok popped

theorem popSlice_of_nil (empty : final.payload.slices = []) :
    (do popSlice; return value : Decoder conv α) final =
      .error ⟨.badPayload "No restricted view to pop", 0⟩ final := by
  have failed : popSlice final = .error ⟨.badPayload "No restricted view to pop", 0⟩ final := by
    rw [popSlice, Payload.popSlice, if_pos (by simpa using empty)]
  exact bind_of_error failed

theorem obeys_inView (start stop : Nat) (inner : Obeys Accounted body) :
    Obeys Accounted (inView start stop body) := by
  intro state
  obtain refused | ⟨payload, view, pushed, slices⟩ := pushSlice_cases start stop state.payload
  · rw [inView_of_refused refused]
    exact .of_eq rfl rfl
  · cases ran : body { state with payload } with
    | ok value final =>
      obtain ⟨views, events, account⟩ := inner.of_ok ran
      have stack : final.payload.slices = state.payload.slices ++ (view :: views) := by
        rw [account.slices, slices, List.append_assoc, List.singleton_append]
      have nonempty : final.payload.slices ≠ [] := by
        rw [stack]
        exact List.append_ne_nil_of_right_ne_nil _ (List.cons_ne_nil view views)
      rw [inView_of_ok pushed ran, popSlice_of_ne_nil nonempty]
      refine ⟨(view :: views).dropLast, events, ?_, account.history⟩
      change final.payload.slices.dropLast = _
      rw [stack, List.dropLast_append_of_ne_nil (List.cons_ne_nil view views)]
    | error failure final =>
      obtain ⟨views, events, account⟩ := inner.of_error ran
      rw [inView_of_error pushed ran]
      refine ⟨view :: views, events, ?_, account.history⟩
      rw [finalState_error, account.slices, slices, List.append_assoc, List.singleton_append]

end InView

theorem obeys_swallow {body : Decoder conv α} (ignored : DiagServiceError → Bool)
    (inner : Obeys Accounted body) : Obeys Accounted (swallow ignored body) := by
  intro state
  unfold swallow
  cases ran : body state with
  | ok value final => exact inner.of_ok ran
  | error failure final =>
    dsimp only
    split
    · obtain ⟨views, events, account⟩ := inner.of_error ran
      refine ⟨views, events ++ [.swallowed failure state.payload.slices final.payload.slices],
        account.slices, ?_⟩
      rw [finalState_ok, account.history, List.append_assoc]
    · exact inner.of_error ran

theorem obeys_onFreshData {body : Decoder conv Unit} (inner : Obeys Accounted body) :
    Obeys Accounted (onFreshData body) := by
  intro state
  unfold onFreshData
  cases ran : body { state with data := .empty } with
  | ok value final =>
    obtain ⟨views, events, account⟩ := inner.of_ok ran
    exact ⟨views, events, account.slices, account.history⟩
  | error failure final =>
    obtain ⟨views, events, account⟩ := inner.of_error ran
    exact ⟨views, events, account.slices, account.history⟩

theorem closed_accounted (strict : Prop) :
    @Closed conv strict fun decoder => Obeys Accounted decoder where
  sight act _ := obeys_onSight act
  bind := obeys_bind
  inView := obeys_inView
  swallow := obeys_swallow
  onFreshData := obeys_onFreshData
  consume := fun _ => .of_eq rfl rfl
  exhausted := fun _ => .of_eq rfl rfl
  byteCount := fun _ => .of_eq rfl rfl
  report := obeys_report_repeating

theorem Scoped.accounted {strict : Prop} (scope : Scoped strict decoder) :
    Obeys Accounted decoder :=
  (closed_accounted strict).of_scoped scope

namespace IntegerDatabase

def decodedBytes (result : EStateM.Result Failure (DecodeState integerConversions) α)
    (name : String) : Option (List UInt8) :=
  match (finalState result).data name.toList with
  | some (.raw raw) => some raw.data
  | _ => none

end IntegerDatabase

end DiagnosticAdapter.Kernel
