import DiagnosticAdapter.Codec.Patches

/-!
# The order of encoded fields

Encodings into one payload change places exactly if they give no bit two values.
-/

namespace DiagnosticAdapter.Codec

section Commuting

variable {first second : List Patch}

theorem lastEffect_append (start : Nat) (first second : List Patch) (cell : Cell) :
    lastEffect start (first ++ second) cell =
      (lastEffect start second cell).or (lastEffect start first cell) := by
  induction first with
  | nil => exact Option.or_none.symm
  | cons patch rest ih =>
    change (lastEffect start (rest ++ second) cell).or _ = _
    rw [ih, Option.or_assoc]
    rfl

/-- No bit is given both values. -/
def Agree (first second : List Patch) : Prop :=
  ∀ cell, ∀ bit ∈ lastEffect 0 first cell, ∀ other ∈ lastEffect 0 second cell, bit = other

theorem Agree.applyAll_comm (agree : Agree first second) (payload : List UInt8) :
    applyAll 0 (first ++ second) payload = applyAll 0 (second ++ first) payload := by
  apply eq_of_holds_eq
  · simp only [applyAll_append, length_applyAll]
    exact Nat.max_right_comm _ _ _
  · intro byte offset _ _
    rw [holds_applyAll, holds_applyAll, lastEffect_append, lastEffect_append]
    cases touched : lastEffect 0 first (byte, offset) with
    | none => rw [Option.or_none, Option.none_or]
    | some bit =>
      cases changed : lastEffect 0 second (byte, offset) with
      | none => rfl
      | some other => exact (agree _ bit touched other changed).symm

theorem agree_of_applyAll_comm
    (same : applyAll 0 (first ++ second) [] = applyAll 0 (second ++ first) []) :
    Agree first second := by
  intro cell bit touched other changed
  have holds := congrArg (holds · cell) same
  simp only [holds_applyAll, lastEffect_append, Option.mem_def.mp touched,
    Option.mem_def.mp changed] at holds
  exact holds.symm

end Commuting

/-- A value with its coded type, and where it is encoded. -/
structure Encoding where
  type : DiagCodedType
  inputData : List UInt8
  bytePos : Nat
  bitPos : Nat

namespace Encoding

variable (first second : Encoding)

def encode (encoding : Encoding) (payload : List UInt8) : Except DiagServiceError (List UInt8) :=
  encoding.type.encode encoding.inputData payload encoding.bytePos encoding.bitPos

def patches? (encoding : Encoding) : Option (List Patch) :=
  encoding.type.patches? encoding.inputData encoding.bytePos encoding.bitPos false

theorem encode_toOption (encoding : Encoding) (payload : List UInt8) :
    (encoding.encode payload).toOption =
      encoding.patches?.map fun patches => applyAll 0 patches payload := by
  have encoded := encoding.type.encode_toOption encoding.inputData payload 0 encoding.bytePos
    encoding.bitPos false
  rwa [origin_false, Nat.zero_add] at encoded

theorem bind_toOption {α β : Type} (outcome : Except DiagServiceError α)
    (next : α → Except DiagServiceError β) :
    (outcome >>= next).toOption = outcome.toOption.bind fun value => (next value).toOption := by
  cases outcome with
  | error failure => rfl
  | ok value => rfl

theorem encode_encode_toOption (payload : List UInt8) :
    (first.encode payload >>= second.encode).toOption = first.patches?.bind fun patches =>
      second.patches?.map fun others => applyAll 0 (patches ++ others) payload := by
  simp only [bind_toOption, encode_toOption, Option.bind_map, Function.comp_def, applyAll_append]

/-- No bit is given both values, where both can be encoded. -/
def Agrees : Prop := ∀ patches ∈ first.patches?, ∀ others ∈ second.patches?, Agree patches others

variable {first second}

theorem Agrees.symm (agrees : first.Agrees second) : second.Agrees first :=
  fun others isOther patches isPatch cell other changed bit touched =>
    (agrees patches isPatch others isOther cell bit touched other changed).symm

theorem Agrees.comm (agrees : first.Agrees second) (payload : List UInt8) :
    (first.encode payload >>= second.encode).toOption =
      (second.encode payload >>= first.encode).toOption := by
  rw [encode_encode_toOption, encode_encode_toOption]
  cases isPatch : first.patches? with
  | none => cases second.patches? <;> rfl
  | some patches =>
    cases isOther : second.patches? with
    | none => rfl
    | some others =>
      exact congrArg some ((agrees patches isPatch others isOther).applyAll_comm payload)

theorem encode_comm_iff (first second : Encoding) :
    (∀ payload, (first.encode payload >>= second.encode).toOption =
      (second.encode payload >>= first.encode).toOption) ↔ first.Agrees second := by
  constructor
  · intro comm patches isPatch others isOther
    have same := comm []
    rw [encode_encode_toOption, encode_encode_toOption, Option.mem_def.mp isPatch,
      Option.mem_def.mp isOther] at same
    exact agree_of_applyAll_comm (Option.some.inj same)
  · exact Agrees.comm

/-- A value may be encoded again without harm, even where the bits are only added. -/
theorem encode_again (encoding : Encoding) (payload : List UInt8) :
    (encoding.encode payload >>= encoding.encode).toOption =
      (encoding.encode payload).toOption := by
  rw [encode_encode_toOption, encode_toOption]
  cases encoding.patches? with
  | none => rfl
  | some patches =>
    apply congrArg some
    apply eq_of_holds_eq
    · dsimp only
      rw [applyAll_append, length_applyAll, length_applyAll]
      exact Nat.max_eq_left (Nat.le_max_right _ _)
    · intro byte offset _ _
      dsimp only
      rw [holds_applyAll, holds_applyAll, lastEffect_append, Option.or_self]

def encodeAll (encodings : List Encoding) (payload : List UInt8) :
    Except DiagServiceError (List UInt8) :=
  encodings.foldlM (fun payload encoding => encoding.encode payload) payload

theorem encodeAll_cons (encoding : Encoding) (rest : List Encoding) :
    encodeAll (encoding :: rest) = fun payload => encoding.encode payload >>= encodeAll rest := by
  funext payload
  exact List.foldlM_cons

theorem encodeAll_toOption_of_perm {listed other : List Encoding} (perm : listed.Perm other)
    (agree : listed.Pairwise Agrees) (payload : List UInt8) :
    (encodeAll listed payload).toOption = (encodeAll other payload).toOption := by
  induction perm generalizing payload with
  | nil => rfl
  | cons encoding _ ih =>
    rw [encodeAll_cons, encodeAll_cons, bind_toOption, bind_toOption]
    exact congrArg _ (funext fun after => ih (List.pairwise_cons.mp agree).2 after)
  | swap second first rest =>
    have agrees := (List.pairwise_cons.mp agree).1 second List.mem_cons_self
    simp only [encodeAll_cons, ← bind_assoc]
    rw [bind_toOption, agrees.comm, ← bind_toOption]
  | trans perm _ ih later =>
    exact (ih agree payload).trans (later ((perm.pairwise_iff Agrees.symm).mp agree) payload)

def byteAt (bytePos : Nat) : Encoding :=
  ⟨⟨.uint32, .standardLength ⟨8, none, false⟩, true⟩, [0x22], bytePos, 0⟩

theorem encodeAll_toOption_of_perm_byteAt :
    (encodeAll [byteAt 0, byteAt 1] []).toOption = (encodeAll [byteAt 1, byteAt 0] []).toOption := by
  apply encodeAll_toOption_of_perm (.swap _ _ [])
  rw [List.pairwise_pair]
  rintro _ ⟨⟩ _ ⟨⟩ cell bit touched other changed
  simp [lastEffect, Patch.effectAt, Patch.place, Patch.byteCount, origin, byteAt,
    Bits.byteLen] at touched changed
  omega

end Encoding

end DiagnosticAdapter.Codec
