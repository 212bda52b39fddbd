import DiagnosticAdapter.Kernel.ItemReading
import DiagnosticAdapter.Kernel.Locality

/-!
# The round trip of an end-of-PDU field

The encoder appends an item at the end of the payload, the decoder goes on at the end of
the `Value` parameter that is listed last.  Reserved parameters do not count on either
side: the encoder writes them near the start of the payload, and the decoder's read
position passes over them.
-/

namespace DiagnosticAdapter.Kernel

open Bits Codec Effects Decoder

variable {conv : Conversions}

/-- An end-of-PDU field whose items are numbers and reserved bits, with names of their own
and numbers that share no bits. -/
structure ItemField (conv : Conversions) where
  shortName : Text
  semantic : Option Text
  bytePos : Nat
  bitPos : Option Nat
  physicalDefaultValue : Option Text
  maxNumberOfItems : Option Nat
  minNumberOfItems : Option Nat
  byteSize : Option Nat
  envDataDesc : Option (DataOperation conv)
  params : List (ItemParam conv)
  distinct : (params.map ItemParam.shortName).Nodup
  apart : (numbersOf params).Pairwise fun first second => first.place.Apart second.place

namespace ItemField

variable (field : ItemField conv)

def structureDop : StructureDop conv :=
  ⟨some (field.params.map ItemParam.parameter), field.byteSize⟩

def endOfPdu : EndOfPdu conv :=
  ⟨field.maxNumberOfItems, field.minNumberOfItems,
    some ⟨some (.struct field.structureDop), field.envDataDesc⟩⟩

def parameter : Parameter conv :=
  ⟨.ok .value, some field.shortName, field.semantic, some field.bytePos, field.bitPos,
    .value field.physicalDefaultValue (some (.endOfPdu field.endOfPdu))⟩

def itemLength : Nat := ((numbersOf field.params).map NumberParam.stop).foldr max 0

def readLength : Nat := field.params.foldl ItemParam.readPos 0

def SameItem (item : JsonValue) (decoded : MappedPayload conv) : Prop :=
  ∃ members, item.asObject = some members ∧ SameNumbers field.params members decoded

/-- The field is decoded from the payload to the items. -/
def ComesBack (service : DiagService conv) (depth : Nat) (items : List JsonValue)
    (payload : List UInt8) : Prop :=
  ∃ decoded state, convertRequestParam service depth field.parameter (.new payload) =
      .ok none state ∧
    state.data field.shortName = some (.repeatingStruct decoded) ∧
    List.Forall₂ field.SameItem items decoded

/-- The numbers fit their fields, reserved bits end with the numbers, and of several items every
one is left at its end. -/
structure Regular (items : List JsonValue) : Prop where
  numbers : numbersOf field.params ≠ []
  fits : ∀ param ∈ field.params, param.Fits
  narrow : ∀ param ∈ numbersOf field.params, param.dop.bitLength ≤ 32
  covered : ∀ param ∈ field.params, param.stop ≤ field.itemLength
  keeps : ∀ item ∈ items, ∀ members, item.asObject = some members →
    KeepsNumbers field.params members
  stride : items.length = 1 ∨ field.readLength = field.itemLength

variable {field}

theorem stop_le_itemLength {param : NumberParam conv} (mem : param ∈ numbersOf field.params) :
    param.stop ≤ field.itemLength := by
  rw [itemLength]
  generalize numbersOf field.params = numbers at mem
  induction numbers with
  | nil => cases mem
  | cons number numbers ih =>
    rw [List.map_cons, List.foldr_cons]
    obtain rfl | inTail := List.mem_cons.mp mem
    · exact Nat.le_max_left _ _
    · exact (ih inTail).trans (Nat.le_max_right _ _)

theorem exists_stop_eq_itemLength (numbers : numbersOf field.params ≠ []) :
    ∃ param ∈ numbersOf field.params, param.stop = field.itemLength := by
  rw [itemLength]
  generalize numbersOf field.params = params at numbers
  induction params with
  | nil => exact absurd rfl numbers
  | cons param params ih =>
    rw [List.map_cons, List.foldr_cons]
    by_cases last : params = []
    · subst last
      exact ⟨param, List.mem_cons_self, (Nat.max_zero _).symm⟩
    · obtain ⟨other, mem, same⟩ := ih last
      obtain larger | larger := Nat.le_total param.stop other.stop
      · exact ⟨other, List.mem_cons_of_mem _ mem, by rw [← same, Nat.max_eq_right larger]⟩
      · exact ⟨param, List.mem_cons_self, by rw [← same, Nat.max_eq_left larger]⟩

theorem foldl_readPos (params : List (ItemParam conv)) (start : Nat) :
    (numbersOf params = [] ∧ params.foldl ItemParam.readPos start = start) ∨
      ∃ param ∈ numbersOf params, params.foldl ItemParam.readPos start = param.stop := by
  induction params generalizing start with
  | nil => exact .inl ⟨rfl, rfl⟩
  | cons param params ih =>
    rw [List.foldl_cons]
    obtain ⟨none, kept⟩ | ⟨last, mem, moved⟩ := ih (param.readPos start)
    · cases param with
      | value param =>
        exact .inr ⟨param, mem_numbersOf.mpr List.mem_cons_self, kept⟩
      | reserved param => exact .inl ⟨none, kept⟩
    · exact .inr ⟨last, mem_numbersOf.mpr (List.mem_cons_of_mem _ (mem_numbersOf.mp mem)), moved⟩

theorem readLength_bounds (numbers : numbersOf field.params ≠ [])
    (valid : ∀ param ∈ field.params, param.Valid) :
    0 < field.readLength ∧ field.readLength ≤ field.itemLength := by
  obtain ⟨none, _⟩ | ⟨param, mem, moved⟩ := foldl_readPos field.params 0
  · exact absurd none numbers
  · rw [readLength, moved]
    refine ⟨?_, stop_le_itemLength mem⟩
    have positive : 1 ≤ param.dop.bitLength := (valid _ (mem_numbersOf.mp mem)).1
    simp only [NumberParam.stop, byteLen]
    omega

variable (field) in
/-- The payload holds the numbers of the items from `start` on, one item behind the other. -/
def ItemsAt (payload : List UInt8) : Nat → List JsonValue → Prop
  | _, [] => True
  | start, item :: items =>
    (∃ members, item.asObject = some members ∧ HoldsNumbers field.params members payload start) ∧
      ItemsAt payload (start + field.itemLength) items

theorem itemsAt_of_foldlM {strict : Bool} {depth start : Nat} {items : List JsonValue}
    {payload encoded : List UInt8} (numbers : numbersOf field.params ≠ [])
    (fits : ∀ param ∈ field.params, param.Fits)
    (covered : ∀ param ∈ field.params, param.stop ≤ field.itemLength)
    (keeps : ∀ item ∈ items, ∀ members, item.asObject = some members →
      KeepsNumbers field.params members)
    (behind : start ≤ payload.length)
    (encodes : items.foldlM (fun payload item => mapStructToUds strict (mapParamToUds strict depth)
      field.structureDop (max payload.length start) item payload) payload = .ok encoded) :
    encoded.length = payload.length + items.length * field.itemLength ∧
      (∀ cell : Cell, cell.1 < payload.length → holds encoded cell = holds payload cell) ∧
      field.ItemsAt encoded payload.length items ∧
      (items ≠ [] → ∀ param ∈ field.params, param.Valid) := by
  induction items generalizing payload with
  | nil =>
    obtain rfl := Except.ok.inj encodes
    exact ⟨by simp, fun _ _ => rfl, trivial, fun none => absurd rfl none⟩
  | cons item items ih =>
    rw [List.foldlM_cons, Nat.max_eq_left behind] at encodes
    cases first : mapStructToUds strict (mapParamToUds strict depth) field.structureDop
        payload.length item payload with
    | error error =>
      rw [first] at encodes
      cases encodes
    | ok middle =>
      rw [first] at encodes
      obtain ⟨members, object, added⟩ := paramsAdded_of_mapStructToUds fits
        (keeps item List.mem_cons_self) first
      have filled : ∀ param ∈ field.params,
          param.filledTo payload.length ≤ payload.length + field.itemLength := by
        intro param mem
        have enough := covered param mem
        cases param with
        | value param => exact Nat.add_le_add_left enough _
        | reserved param => exact enough.trans (Nat.le_add_left _ _)
      have length : middle.length = payload.length + field.itemLength := by
        apply Nat.le_antisymm
        · exact added.bounded _ (Nat.le_add_right _ _) filled
        · obtain ⟨last, mem, same⟩ := exists_stop_eq_itemLength numbers
          have reached := added.filled _ (mem_numbersOf.mp mem)
          rw [← same]
          exact reached
      obtain ⟨total, kept, rest, _⟩ := ih
        (fun other mem => keeps other (List.mem_cons_of_mem _ mem))
        (by omega) encodes
      refine ⟨?_, ?_, ⟨⟨members, object, ?_⟩, ?_⟩, fun _ => added.valid⟩
      · rw [total, length, List.length_cons, Nat.succ_mul]
        omega
      · intro cell before
        rw [kept cell (by omega)]
        exact added.holds_eq before
      · intro param mem
        obtain ⟨number, supplied, keeps, reads⟩ := added.holdsNumbers
          (keeps item List.mem_cons_self members object) field.apart (Nat.le_refl _) param mem
        refine ⟨number, supplied, keeps, reads.congr ?_⟩
        intro cell inside
        apply kept
        rw [NumberParam.place_shift_stop (fits _ (mem_numbersOf.mp mem))] at inside
        have enough := stop_le_itemLength mem
        omega
      · rw [← length]
        exact rest

section Decode

variable {service : DiagService conv} {depth start : Nat} {encoded : List UInt8}
  {data outer : MappedPayload conv} {history : List Event}

def atItem (encoded : List UInt8) (start : Nat) (data : MappedPayload conv)
    (history : List Event) : DecodeState conv :=
  ⟨⟨encoded, start, [], 0, 0⟩, data, history⟩

def inItem (encoded : List UInt8) (start : Nat) (data : MappedPayload conv)
    (history : List Event) : DecodeState conv :=
  ⟨⟨encoded, start, [(start, encoded.length)], 0, 0⟩, data, history⟩

theorem shows_inItem (inside : start ≤ encoded.length) (data : MappedPayload conv)
    (history : List Event) :
    (inItem encoded start data history).payload.Shows
      ((encoded.drop start).take (encoded.length - start)) := by
  constructor
  · simp only [inItem, Payload.view, List.getLast?_singleton,
      slice?_of_le inside (Nat.le_refl _)]
  · simp only [inItem, Payload.len, List.getLast?_singleton, List.length_take, List.length_drop]
    omega

theorem inView_atItem {α : Type} {body : Decoder conv α} {value : α} {index pos : Nat}
    {after : MappedPayload conv} {events : List Event}
    (inside : start ≤ encoded.length)
    (ran : body (inItem encoded start data history) =
      .ok value ⟨⟨encoded, index, [(start, encoded.length)], pos, 0⟩, after, events⟩) :
    inView 0 encoded.length body (atItem encoded start data history) =
      .ok value ⟨⟨encoded, index, [], pos, 0⟩, after, events⟩ := by
  have pushed : pushSlice 0 encoded.length (atItem encoded start data history) =
      .ok () (inItem encoded start data history) := by
    have kept : min (start + encoded.length) encoded.length = encoded.length := by omega
    simp only [pushSlice, Payload.pushSlice, atItem, Payload.len, Payload.pos, List.getLast?_nil,
      List.nil_append, Nat.add_zero, kept, inItem]
    rw [if_neg (by omega)]
  have left : leavingView body (inItem encoded start data history) =
      .ok value ⟨⟨encoded, index, [(start, encoded.length)], pos, 0⟩, after, events⟩ := by
    rw [leavingView, ran]
  rw [inView, bind_of_ok pushed, bind_of_ok left]
  rfl

theorem exhausted_inItem (data : MappedPayload conv) (history : List Event) :
    exhausted (inItem encoded start data history) =
      .ok (decide (start ≥ encoded.length)) (inItem encoded start data history) := rfl

theorem consume_inItem {length : Nat} (inside : start + length ≤ encoded.length)
    (data : MappedPayload conv) (history : List Event) :
    consume ⟨⟨encoded, start, [(start, encoded.length)], length, 0⟩, data, history⟩ =
      .ok length ⟨⟨encoded, start + length, [(start, encoded.length)], 0, 0⟩, data, history⟩ := by
  have moved : (⟨encoded, start, [(start, encoded.length)], length, 0⟩ : Payload).consume =
      ⟨encoded, start + length, [(start, encoded.length)], 0, 0⟩ := by
    unfold Payload.consume
    rw [if_neg]
    · rfl
    · change ¬start + (length + 0) > encoded.length
      omega
  simp only [consume, moved]
  rfl

theorem itemToEnd_of_end {α : Type} {item : Decoder conv α} (atEnd : start = encoded.length) :
    itemToEnd item (inItem encoded start data history) =
      .ok (some (none, 0)) (inItem encoded start data history) := by
  subst atEnd
  rw [itemToEnd, bind_of_ok (exhausted_inItem data history)]
  simp only [ge_iff_le, Nat.le_refl, decide_true, if_true]
  rw [inItem, bind_of_ok (consume_inItem (Nat.le_refl _) data history)]
  rfl

theorem itemToEnd_of_ok {α : Type} {item : Decoder conv α} {value : α} {length : Nat}
    (before : start < encoded.length) (inside : start + length ≤ encoded.length)
    (ran : item (inItem encoded start data history) =
      .ok value ⟨⟨encoded, start, [(start, encoded.length)], length, 0⟩, data, history⟩) :
    itemToEnd item (inItem encoded start data history) = .ok (some (some value, length))
        ⟨⟨encoded, start + length, [(start, encoded.length)], 0, 0⟩, data, history⟩ := by
  have kept : swallow isNotEnoughData item (inItem encoded start data history) =
      .ok (.ok value) ⟨⟨encoded, start, [(start, encoded.length)], length, 0⟩, data, history⟩ := by
    rw [swallow, ran]
  rw [itemToEnd, bind_of_ok (exhausted_inItem data history)]
  simp only [ge_iff_le, Nat.not_le_of_lt before, decide_false, Bool.false_eq_true, if_false]
  rw [bind_of_ok kept]
  simp only []
  rw [bind_of_ok (consume_inItem inside data history)]
  rfl

theorem itemToEnd_of_short {α : Type} {item : Decoder conv α} {failure : Failure} {pos : Nat}
    {final : DecodeState conv} (before : start < encoded.length)
    (ran : item (inItem encoded start data history) = .error failure final)
    (kind : isNotEnoughData failure.error = true)
    (kept : final.payload = ⟨encoded, start, [(start, encoded.length)], pos, 0⟩) :
    ∃ events, itemToEnd item (inItem encoded start data history) =
      .ok none ⟨⟨encoded, start, [(start, encoded.length)], pos, 0⟩, final.data, events⟩ := by
  have swallowed : swallow isNotEnoughData item (inItem encoded start data history) =
      .ok (.error failure.error) { final with
        history := final.history ++ [.swallowed failure [(start, encoded.length)]
          final.payload.slices] } := by
    rw [swallow, ran]
    simp only [kind, if_true]
    rfl
  refine ⟨final.history ++ [.swallowed failure [(start, encoded.length)] final.payload.slices], ?_⟩
  rw [itemToEnd, bind_of_ok (exhausted_inItem data history)]
  simp only [ge_iff_le, Nat.not_le_of_lt before, decide_false, Bool.false_eq_true, if_false]
  rw [bind_of_ok swallowed, kept]
  rfl

variable {α : Type} {item : Decoder conv α} {rounds : Nat}

theorem lastReadBytePos_atItem : lastReadBytePos (atItem encoded start data history) =
    .ok 0 (atItem encoded start data history) := rfl

theorem len_atItem : len (atItem encoded start data history) =
    .ok encoded.length (atItem encoded start data history) := rfl

theorem itemsToEnd_of_none {next : DecodeState conv}
    (ran : inView 0 encoded.length (itemToEnd item) (atItem encoded start data history) =
      .ok none next) :
    itemsToEnd item (rounds + 1) (atItem encoded start data history) = .ok [] next := by
  rw [itemsToEnd, bind_of_ok lastReadBytePos_atItem, bind_of_ok len_atItem, bind_of_ok ran]
  rfl

theorem itemsToEnd_of_some {index consumed : Nat} {value : Option α}
    (ran : inView 0 encoded.length (itemToEnd item) (atItem encoded start data history) =
      .ok (some (value, consumed)) (atItem encoded index data history)) :
    itemsToEnd item (rounds + 1) (atItem encoded start data history) =
      if index ≥ encoded.length then .ok value.toList (atItem encoded index data history)
      else if consumed = 0 then
        fail (.badPayload "EndOfPdu did not consume any bytes, breaking potential infinite loop")
          (atItem encoded index data history)
      else (itemsToEnd item rounds >>= fun values => pure (value.toList ++ values))
        (atItem encoded index data history) := by
  have ended : exhausted (atItem encoded index data history) =
      .ok (decide (index ≥ encoded.length)) (atItem encoded index data history) := rfl
  rw [itemsToEnd, bind_of_ok lastReadBytePos_atItem, bind_of_ok len_atItem, bind_of_ok ran]
  simp only []
  rw [bind_of_ok ended]
  by_cases atEnd : index ≥ encoded.length
  · simp only [atEnd, decide_true, if_true]
    rfl
  · simp only [atEnd, decide_false, Bool.false_eq_true, if_false]
    by_cases none : consumed = 0
    · simp only [none, if_true]
    · simp only [none, if_false]

variable (field service depth outer) in
def readItem : Decoder conv (MappedPayload conv) :=
  mapStructFromUds (mapParamFromUds service (depth + 1)) field.structureDop outer

theorem readItem_ok {item : JsonValue} {members : List (Text × JsonValue)}
    (readable : Readable field.params)
    (covered : ∀ param ∈ field.params, param.stop ≤ field.itemLength)
    (inside : start + field.itemLength ≤ encoded.length)
    (object : item.asObject = some members)
    (held : HoldsNumbers field.params members encoded start) :
    ∃ value, field.readItem service depth outer (inItem encoded start data history) =
        .ok value ⟨⟨encoded, start, [(start, encoded.length)], field.readLength, 0⟩, data, history⟩ ∧
      field.SameItem item value := by
  have shows := shows_inItem (Nat.le_of_add_right_le inside) data history
  have room : ∀ param ∈ field.params, param.stop ≤
      ((encoded.drop start).take (encoded.length - start)).length := by
    intro param mem
    have enough := covered param mem
    rw [List.length_take, List.length_drop]
    omega
  obtain ⟨value, ran, same⟩ := @mapStructFromUds_reads conv service depth _ _ outer field.params
    field.byteSize shows readable room field.distinct
  refine ⟨value, ran, members, object, same members (held.view readable.fits ?_)⟩
  intro param mem
  have enough := stop_le_itemLength mem
  omega

theorem itemsToEnd_ok {items : List JsonValue} (readable : items ≠ [] → Readable field.params)
    (covered : ∀ param ∈ field.params, param.stop ≤ field.itemLength)
    (stride : field.readLength = field.itemLength) (positive : items ≠ [] → 0 < field.itemLength)
    (length : encoded.length = start + items.length * field.itemLength)
    (held : field.ItemsAt encoded start items) (enough : items.length < rounds) :
    ∃ decoded, itemsToEnd (field.readItem service depth outer) rounds
        (atItem encoded start data history) = .ok decoded (atItem encoded encoded.length data history) ∧
      List.Forall₂ field.SameItem items decoded := by
  induction items generalizing start rounds with
  | nil =>
    obtain ⟨rounds, rfl⟩ := Nat.exists_eq_add_of_lt enough
    have atEnd : start = encoded.length := by simpa using length.symm
    have ran := inView_atItem (Nat.le_of_eq atEnd)
      (@itemToEnd_of_end conv start encoded data history _ (field.readItem service depth outer)
        atEnd)
    refine ⟨[], ?_, .nil⟩
    rw [itemsToEnd_of_some ran, if_pos (Nat.le_of_eq atEnd.symm), atEnd]
    rfl
  | cons item items ih =>
    obtain ⟨rounds, rfl⟩ := Nat.exists_eq_add_of_lt enough
    obtain ⟨⟨members, object, first⟩, rest⟩ := held
    have some := positive (by simp)
    have total : encoded.length =
        start + field.itemLength + items.length * field.itemLength := by
      rw [length, List.length_cons, Nat.succ_mul]
      omega
    obtain ⟨value, read, same⟩ := @readItem_ok conv field service depth start encoded data outer
      history item members (readable (by simp)) covered (by omega) object first
    rw [stride] at read
    have ran := inView_atItem (show start ≤ encoded.length by omega)
      (itemToEnd_of_ok (show start < encoded.length by omega) (by omega) read)
    rw [itemsToEnd_of_some ran]
    by_cases last : items = []
    · subst last
      refine ⟨[value], ?_, .cons same .nil⟩
      have atEnd : start + field.itemLength = encoded.length := by simpa using total.symm
      rw [if_pos (Nat.le_of_eq atEnd.symm), atEnd]
      rfl
    · have more : 0 < items.length * field.itemLength :=
        Nat.mul_pos (List.length_pos_of_ne_nil last) some
      obtain ⟨decoded, ranRest, sameRest⟩ := @ih (start + field.itemLength)
        ((item :: items).length + rounds) (fun _ => readable (by simp)) (fun _ => some) total rest
        (by rw [List.length_cons]; omega)
      refine ⟨value :: decoded, ?_, .cons same sameRest⟩
      rw [if_neg (by omega), if_neg (by omega), bind_of_ok ranRest]
      rfl

theorem itemsToEnd_single {item : JsonValue} (readable : Readable field.params)
    (numbers : numbersOf field.params ≠ [])
    (covered : ∀ param ∈ field.params, param.stop ≤ field.itemLength)
    (length : encoded.length = start + field.itemLength)
    (held : field.ItemsAt encoded start [item]) (enough : 1 < rounds) :
    ∃ decoded final, itemsToEnd (field.readItem service depth outer) rounds
        (atItem encoded start data history) = .ok decoded final ∧ final.data = data ∧
      List.Forall₂ field.SameItem [item] decoded := by
  obtain ⟨positive, bound⟩ := readLength_bounds numbers readable.valid
  obtain ⟨rounds, rfl⟩ := Nat.exists_eq_add_of_lt enough
  obtain ⟨⟨members, object, first⟩, _⟩ := held
  obtain ⟨value, read, same⟩ := @readItem_ok conv field service depth start encoded data outer
    history item members readable covered (by omega) object first
  have ran := inView_atItem (show start ≤ encoded.length by omega)
    (itemToEnd_of_ok (show start < encoded.length by omega) (by omega) read)
  rw [itemsToEnd_of_some ran]
  by_cases whole : field.readLength = field.itemLength
  · refine ⟨[value], atItem encoded (start + field.readLength) data history, ?_, rfl,
      .cons same .nil⟩
    rw [if_pos (by omega)]
    rfl
  · have shows := shows_inItem (show start + field.readLength ≤ encoded.length by omega) data history
    obtain ⟨last, mem, stop⟩ := exists_stop_eq_itemLength numbers
    have short : ∃ param ∈ field.params, ((encoded.drop (start + field.readLength)).take
        (encoded.length - (start + field.readLength))).length < param.stop := by
      refine ⟨.value last, mem_numbersOf.mp mem, ?_⟩
      change _ < last.stop
      rw [List.length_take, List.length_drop]
      omega
    obtain ⟨failure, final, pos, failed, kind, reached, kept⟩ := @mapStructFromUds_of_short conv
      service depth _ _ outer field.params field.byteSize shows readable short
    change field.readItem service depth outer _ = _ at failed
    obtain ⟨events, ranShort⟩ := itemToEnd_of_short
      (show start + field.readLength < encoded.length by omega) failed kind reached
    have ended := inView_atItem (show start + field.readLength ≤ encoded.length by omega) ranShort
    refine ⟨[value], ⟨⟨encoded, start + field.readLength, [], pos, 0⟩, final.data, events⟩, ?_, kept,
      .cons same .nil⟩
    rw [if_neg (by omega), if_neg (by omega), Nat.add_comm 1 rounds,
      bind_of_ok (itemsToEnd_of_none ended)]
    rfl

end Decode

section RoundTrip

variable {service : DiagService conv} {depth : Nat} {encoded : List UInt8} {items : List JsonValue}

theorem mapParamFromUds_eq :
    mapParamFromUds service (depth + 2) field.shortName (.new field.parameter 0) =
      (Decoder.mapped >>= fun data => repeatToEnd (field.readItem service depth data) >>= fun
        | none => return ()
        | some nestedStructs =>
          insertMapped field.shortName (.repeatingStruct nestedStructs)) := rfl

theorem convertRequestParam_of_items {decoded : List (MappedPayload conv)}
    {final : DecodeState conv} (front : 1 ≤ field.bytePos) (inside : field.bytePos ≤ encoded.length)
    (ran : itemsToEnd (field.readItem service depth .empty) (encoded.length + 1)
      (atItem encoded field.bytePos .empty [.repeating]) = .ok decoded final) :
    convertRequestParam service (depth + 2) field.parameter (.new encoded) = .ok none { final with
      data := final.data.insert field.shortName (.repeatingStruct decoded) } := by
  have moved : (Payload.new encoded).setLastReadBytePos field.bytePos =
      ⟨encoded, 0, [], field.bytePos, 0⟩ := by
    unfold Payload.setLastReadBytePos
    rw [if_neg]
    · rfl
    · exact Nat.not_lt_of_le inside
  have positioned : (setLastReadBytePos field.bytePos : Decoder conv Unit) (.new encoded) =
      .ok () ⟨⟨encoded, 0, [], field.bytePos, 0⟩, .empty, []⟩ := by
    simp only [setLastReadBytePos, DecodeState.new, moved]
  have advanced : (⟨encoded, 0, [], field.bytePos, 0⟩ : Payload).consume =
      ⟨encoded, field.bytePos, [], 0, 0⟩ := by
    unfold Payload.consume
    rw [if_neg]
    · simp only [Payload.advanceLen, Nat.zero_add, Nat.add_zero]
    · change ¬0 + (field.bytePos + 0) > encoded.length
      omega
  have consumed : (consume : Decoder conv Nat) ⟨⟨encoded, 0, [], field.bytePos, 0⟩, .empty, []⟩ =
      .ok field.bytePos (atItem encoded field.bytePos .empty []) := by
    simp only [consume, advanced]
    rfl
  have repeated : repeatToEnd (field.readItem service depth .empty)
      ⟨⟨encoded, 0, [], field.bytePos, 0⟩, .empty, []⟩ = .ok (some decoded) final := by
    have reported : (report .repeating : Decoder conv Unit) (atItem encoded field.bytePos .empty []) =
        .ok () (atItem encoded field.bytePos .empty [.repeating]) := rfl
    have counted : byteCount (atItem encoded field.bytePos (.empty : MappedPayload conv) [.repeating]) =
        .ok encoded.length (atItem encoded field.bytePos .empty [.repeating]) := rfl
    rw [repeatToEnd, bind_of_ok consumed, if_neg (by omega), bind_of_ok reported,
      bind_of_ok counted, bind_of_ok ran]
    rfl
  have mapped : mapParamFromUds service (depth + 2) field.shortName (.new field.parameter 0)
      ⟨⟨encoded, 0, [], field.bytePos, 0⟩, .empty, []⟩ = .ok () { final with
        data := final.data.insert field.shortName (.repeatingStruct decoded) } := by
    have data : Decoder.mapped (⟨⟨encoded, 0, [], field.bytePos, 0⟩, .empty, []⟩ : DecodeState conv) =
        .ok .empty ⟨⟨encoded, 0, [], field.bytePos, 0⟩, .empty, []⟩ := rfl
    rw [mapParamFromUds_eq, bind_of_ok data, bind_of_ok repeated]
    rfl
  have swallowed : swallow isDataError (mapParamFromUds service (depth + 2) field.shortName
      (.new field.parameter 0)) ⟨⟨encoded, 0, [], field.bytePos, 0⟩, .empty, []⟩ =
        .ok (.ok ()) { final with
          data := final.data.insert field.shortName (.repeatingStruct decoded) } := by
    rw [swallow, mapped]
  have unfolded : convertRequestParam service (depth + 2) field.parameter =
      (Decoder.lastReadBytePos >>= fun _ => setLastReadBytePos field.bytePos >>= fun _ =>
        convertParam service (depth + 2) field.shortName field.parameter) := rfl
  have start : Decoder.lastReadBytePos (.new encoded : DecodeState conv) = .ok 0 (.new encoded) := rfl
  rw [unfolded, bind_of_ok start, bind_of_ok positioned, convertParam, bind_of_ok swallowed]
  rfl

theorem foldlM_of_encoded {strict : Bool} {siblings : Option ParameterMap} {before : List UInt8}
    (encodes : mapParamToUds strict depth field.parameter (some (.array items)) before 0 siblings =
      .ok encoded) :
    ∃ depth, items.foldlM (fun payload item => mapStructToUds strict (mapParamToUds strict depth)
      field.structureDop (max payload.length field.bytePos) item payload) before = .ok encoded := by
  cases depth with
  | zero => cases encodes
  | succ depth =>
    refine ⟨depth, ?_⟩
    have mapped : mapEndOfPduToUds strict (mapParamToUds strict depth) field.endOfPdu
        (.array items) before (field.bytePos + 0) = .ok encoded := encodes
    rw [mapEndOfPduToUds] at mapped
    simp only [JsonValue.asArray] at mapped
    split at mapped
    · cases mapped
    · exact mapped

/-- Without items nothing is written, and nothing is behind the bytes before the field. -/
theorem comesBack_nil (front : 1 ≤ field.bytePos) (positioned : encoded.length = field.bytePos) :
    field.ComesBack service (depth + 2) [] encoded := by
  have ran := inView_atItem (Nat.le_of_eq positioned.symm)
    (@itemToEnd_of_end conv field.bytePos encoded .empty [.repeating] _
      (field.readItem service depth .empty) positioned.symm)
  have ended := @itemsToEnd_of_some conv _ encoded .empty [.repeating] _ _ encoded.length _ _ _ ran
  rw [if_pos (Nat.le_of_eq positioned)] at ended
  have read := convertRequestParam_of_items front (Nat.le_of_eq positioned.symm) ended
  exact ⟨[], _, read, Function.update_self _ _ _, .nil⟩

/-- Items that the encoder has appended to a request come back. -/
theorem comesBack_of_regular (service : DiagService conv) (field : ItemField conv) (strict : Bool)
    (encodeDepth depth : Nat) (items : List JsonValue) (siblings : Option ParameterMap)
    (before encoded : List UInt8) (front : 1 ≤ field.bytePos)
    (positioned : before.length = field.bytePos)
    (encodes : mapParamToUds strict encodeDepth field.parameter (some (.array items)) before 0
      siblings = .ok encoded)
    (regular : items = [] ∨ field.Regular items) :
    field.ComesBack service (depth + 2) items encoded := by
  obtain ⟨innerDepth, appended⟩ := foldlM_of_encoded encodes
  by_cases none : items = []
  · subst none
    obtain rfl := Except.ok.inj appended
    exact comesBack_nil front positioned
  · replace regular := regular.resolve_left none
    obtain ⟨length, _, held, valid⟩ := itemsAt_of_foldlM regular.numbers regular.fits
      regular.covered regular.keeps (Nat.le_of_eq positioned.symm) appended
    rw [positioned] at length held
    have readable : Readable field.params := ⟨valid none, regular.fits, regular.narrow⟩
    obtain ⟨positive, bound⟩ := readLength_bounds regular.numbers readable.valid
    have more : items.length * 1 ≤ items.length * field.itemLength :=
      Nat.mul_le_mul_left _ (by omega)
    obtain single | stride := regular.stride
    · obtain ⟨item, rfl⟩ := List.length_eq_one_iff.mp single
      obtain ⟨decoded, final, ran, _, same⟩ := @itemsToEnd_single conv field service depth
        field.bytePos encoded .empty .empty [.repeating] (encoded.length + 1) item readable
        regular.numbers regular.covered (by simpa using length) held
        (by rw [List.length_singleton] at more; omega)
      exact ⟨decoded, _, convertRequestParam_of_items front (by omega) ran,
        Function.update_self _ _ _, same⟩
    · obtain ⟨decoded, ran, same⟩ := @itemsToEnd_ok conv field service depth field.bytePos encoded
        .empty .empty [.repeating] (encoded.length + 1) items (fun _ => readable) regular.covered
        stride (fun _ => by omega) length held (by omega)
      exact ⟨decoded, _, convertRequestParam_of_items front (by omega) ran,
        Function.update_self _ _ _, same⟩

end RoundTrip

end ItemField

namespace IntegerDatabase

def byteParam (name : String) (bytePos : Nat) : NumberParam integerConversions :=
  ⟨name.toList, none, bytePos, none, none,
    ⟨8, false, true, some ⟨.uint32⟩, (), integerConversions_identical⟩⟩

def twoItems : List JsonValue :=
  [.object [("first".toList, .number (.posInt 1)), ("last".toList, .number (.posInt 2))],
    .object [("first".toList, .number (.posInt 3)), ("last".toList, .number (.posInt 4))]]

theorem byteParams_apart {first last : String} {front back : Nat} (ne : front ≠ back) :
    [byteParam first front, byteParam last back].Pairwise
      fun first second => first.place.Apart second.place := by
  apply List.pairwise_pair.mpr
  apply Place.apart_of_bytes
  have stop : ∀ (name : String) (bytePos : Nat), (byteParam name bytePos).place.stop = bytePos + 1 := by
    intro name bytePos
    have fits : (byteParam name bytePos).Fits := by
      change 0 + 8 ≤ 8 * byteLen 8
      decide
    rw [NumberParam.place_stop fits, NumberParam.stop]
    exact congrArg (bytePos + ·) (show byteLen 8 = 1 by decide)
  rw [stop, stop]
  change front + 1 ≤ back ∨ back + 1 ≤ front
  omega

/-- Two bytes with reserved bits between them. -/
def sparedField : ItemField integerConversions where
  shortName := "items".toList
  semantic := none
  bytePos := 1
  bitPos := none
  physicalDefaultValue := none
  maxNumberOfItems := none
  minNumberOfItems := none
  byteSize := none
  envDataDesc := none
  params := [.value (byteParam "first" 0), .reserved ⟨"spare".toList, none, 1, some 4, 4⟩,
    .value (byteParam "last" 2)]
  distinct := by decide
  apart := byteParams_apart (by decide)

theorem sparedField_comesBack :
    ∃ encoded, mapParamToUds false 3 sparedField.parameter (some (.array twoItems)) [0xFF] 0 none =
        .ok encoded ∧ sparedField.ComesBack ⟨none⟩ 2 twoItems encoded := by
  have encodes : mapParamToUds false 3 sparedField.parameter (some (.array twoItems)) [0xFF] 0
      none = .ok [0xFF, 1, 0, 2, 3, 0, 4] := by decide +kernel
  refine ⟨_, encodes, ItemField.comesBack_of_regular ⟨none⟩ sparedField false 3 0 twoItems none
    [0xFF] _ (by decide) rfl encodes (.inr ?_)⟩
  constructor
  · decide
  · decide
  · decide
  · decide
  · intro item mem members object param isNumber number supplied
    have either : param = byteParam "first" 0 ∨ param = byteParam "last" 2 := by
      simpa [numbersOf, sparedField, ItemParam.number?, eq_comm] using isNumber
    have one : item = .object [("first".toList, .number (.posInt 1)),
          ("last".toList, .number (.posInt 2))] ∨
        item = .object [("first".toList, .number (.posInt 3)),
          ("last".toList, .number (.posInt 4))] := by
      simpa [twoItems] using mem
    have given : ∃ json, members.lookup param.shortName = some (.number json) := by
      obtain rfl | rfl := one <;> cases object <;> obtain rfl | rfl := either <;> exact ⟨_, rfl⟩
    obtain ⟨json, given⟩ := given
    rw [NumberParam.supplied_of_lookup given] at supplied
    refine ⟨NumberDop.number_lt_of_json supplied, .inl ?_⟩
    obtain rfl | rfl := either <;> rfl
  · exact .inr rfl

/-- The item structure lists the byte behind first. -/
def reversedField : ItemField integerConversions :=
  { sparedField with
    params := [.value (byteParam "last" 1), .value (byteParam "first" 0)]
    distinct := by decide
    apart := byteParams_apart (by decide) }

/-- The items (1, 2) and (3, 4) come back as (1, 2), (2, 3) and (3, 4). -/
theorem reversedField_reads_three_items :
    mapParamToUds false 3 reversedField.parameter (some (.array twoItems)) [0xFF] 0 none =
        .ok [0xFF, 1, 2, 3, 4] ∧
      ¬reversedField.ComesBack ⟨none⟩ 2 twoItems [0xFF, 1, 2, 3, 4] := by
  refine ⟨by decide +kernel, ?_⟩
  intro comesBack
  obtain ⟨decoded, state, ran, found, same⟩ := comesBack
  have read : decodedItems (convertRequestParam ⟨none⟩ 2 reversedField.parameter
      (.new [0xFF, 1, 2, 3, 4])) "items" "first" = some [some [1], some [2], some [3]] := by
    decide +kernel
  have name : "items".toList = reversedField.shortName := rfl
  rw [decodedItems, ran, finalState_ok, name, found] at read
  have count := congrArg (Option.map List.length) read
  have two : decoded.length = 2 := same.length_eq.symm
  simp [two] at count

end IntegerDatabase

end DiagnosticAdapter.Kernel
