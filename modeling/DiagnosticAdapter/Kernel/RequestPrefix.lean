import DiagnosticAdapter.Codec.Laid
import DiagnosticAdapter.Kernel.CodedConst

/-!
# Matching a request by its first bytes

`matches_request_prefix` collects the constants of a service that follow one another from
byte 0 on, and compares their values with the bytes of a request.  `process_coded_constants`
writes the same constants with the codec.
-/

namespace DiagnosticAdapter.Kernel

open Bits Codec Effects

variable {conv : Conversions}

structure RawCodedConstParam where
  bytePosition : Nat
  value : Nat
  bitLength : Nat
  deriving DecidableEq, Repr

def RawCodedConstParam.byteCount (param : RawCodedConstParam) : Nat := byteLen param.bitLength

/-- The value and the length of an unsigned constant of standard length.  A coded type that
cannot be converted is not one. -/
def Parameter.rawCodedConst? (param : Parameter conv) : Option (Nat × Nat) :=
  match param.specificData with
  | .codedConst ⟨some (.ok ⟨.uint32, .standardLength slt, _⟩), codedValue⟩ =>
    if slt.condensed || slt.bitMask.any (!·.isEmpty) then none
    else do
      let text ← codedValue
      let value ← (parseUnsigned 32 10 text).toOption
      some (value, slt.bitLength)
  | _ => none

namespace DiagService

variable (service : DiagService conv)

def params : List (Parameter conv) := (service.request.bind (·.params)).getD []

def findRequestSidOrSubFuncParam (bytePos bitPos : Nat) : Option (Nat × Nat) :=
  service.params.findSome? fun param =>
    if param.bytePosition ≠ bytePos ∨ param.bitPosition ≠ bitPos then none
    else param.rawCodedConst?

/-- `current_byte_pos.saturating_add(bit_length.div_ceil(8))` -/
def nextBytePos (bytePos bitLength : Nat) : Nat := min (bytePos + byteLen bitLength) (2 ^ 32 - 1)

/-- The loop from a byte position on; it ends at a position without a constant. -/
def extractFrom : Nat → Nat → Option (List RawCodedConstParam)
  | 0, _ => none
  | fuel + 1, bytePos =>
    match service.findRequestSidOrSubFuncParam bytePos 0 with
    | none => some []
    | some (value, bitLength) => do
      let result ← extractFrom fuel (nextBytePos bytePos bitLength)
      some (⟨bytePos, value, bitLength⟩ :: result)

def extractSequentialCodedConsts (fuel : Nat) : Option (List RawCodedConstParam) :=
  service.extractFrom fuel 0

/-- The loop over the constants; the index counts the bytes of those before. -/
def matchesConsts (requestBytes : List UInt8) : List RawCodedConstParam → Nat → Bool
  | [], _ => true
  | param :: consts, byteIdx =>
    let endIdx := byteIdx + param.byteCount
    if param.byteCount > 4 then false
    else if endIdx > requestBytes.length then true
    else if param.value ≠ value ((requestBytes.drop byteIdx).take param.byteCount) then false
    else matchesConsts requestBytes consts endIdx

def matchesRequestPrefix (fuel : Nat) (requestBytes : List UInt8) : Option Bool := do
  let consts ← service.extractSequentialCodedConsts fuel
  some (matchesConsts requestBytes consts 0)

/-- The loop comes from one byte position to another. -/
inductive Reached : Nat → Nat → Prop where
  | here (bytePos : Nat) : Reached bytePos bytePos
  | next {bytePos value bitLength last : Nat} :
      service.findRequestSidOrSubFuncParam bytePos 0 = some (value, bitLength) →
      Reached (nextBytePos bytePos bitLength) last → Reached bytePos last

/-- The loop from a position on finds a constant at another one. -/
def Follows (start bytePos value bitLength : Nat) : Prop :=
  service.Reached start bytePos ∧
    service.findRequestSidOrSubFuncParam bytePos 0 = some (value, bitLength)

/-- Every constant that is found moves the loop on. -/
def Advances (start : Nat) : Prop :=
  ∀ bytePos value bitLength, service.Follows start bytePos value bitLength →
    bytePos < nextBytePos bytePos bitLength

variable {service} {start bytePos value bitLength fuel : Nat} {consts : List RawCodedConstParam}

variable {later number width : Nat}

theorem Follows.of_next
    (found : service.findRequestSidOrSubFuncParam start 0 = some (value, bitLength))
    (follows : service.Follows (nextBytePos start bitLength) later number width) :
    service.Follows start later number width :=
  ⟨.next found follows.1, follows.2⟩

theorem Follows.cases (follows : service.Follows start later number width) :
    (later = start ∧ service.findRequestSidOrSubFuncParam start 0 = some (number, width)) ∨
      ∃ value bitLength, service.findRequestSidOrSubFuncParam start 0 = some (value, bitLength) ∧
          service.Follows (nextBytePos start bitLength) later number width := by
  obtain ⟨reached, found⟩ := follows
  cases reached with
  | here => exact .inl ⟨rfl, found⟩
  | next first reached => exact .inr ⟨_, _, first, reached, found⟩

theorem not_follows_of_none (none : service.findRequestSidOrSubFuncParam start 0 = none)
    : ¬service.Follows start later number width := by
  intro follows
  obtain ⟨_, found⟩ | ⟨_, _, found, _⟩ := follows.cases
  · cases none.symm.trans found
  · cases none.symm.trans found

theorem le_of_follows (inRange : start < 2 ^ 32)
    (follows : service.Follows start bytePos value bitLength) :
    start ≤ bytePos ∧ bytePos < 2 ^ 32 := by
  obtain ⟨reached, found⟩ := follows
  clear found
  induction reached with
  | here bytePos => exact ⟨Nat.le_refl _, inRange⟩
  | next found _ ih =>
    have inside := ih (by rw [nextBytePos]; omega)
    rw [nextBytePos] at inside
    omega

theorem extractFrom_of_stuck
    (found : service.findRequestSidOrSubFuncParam start 0 = some (value, bitLength))
    (stuck : nextBytePos start bitLength = start) (fuel : Nat) :
    service.extractFrom fuel start = none := by
  induction fuel with
  | zero => rfl
  | succ fuel ih =>
    rw [extractFrom, found]
    dsimp only
    rw [stuck, ih]
    rfl

theorem eq_nil_of_none (none : service.findRequestSidOrSubFuncParam start 0 = none)
    (extracted : service.extractFrom fuel start = some consts) : consts = [] := by
  cases fuel with
  | zero => cases extracted
  | succ fuel =>
    rw [extractFrom, none] at extracted
    cases extracted
    rfl

theorem extractFrom_succ_of_found
    (found : service.findRequestSidOrSubFuncParam start 0 = some (value, bitLength)) :
    service.extractFrom (fuel + 1) start = some consts ↔
      ∃ rest, service.extractFrom fuel (nextBytePos start bitLength) = some rest ∧
        consts = ⟨start, value, bitLength⟩ :: rest := by
  rw [extractFrom, found]
  dsimp only
  rw [Option.bind_eq_bind, Option.bind_eq_some_iff]
  simp only [Option.some.injEq, eq_comm]

theorem advances_of_extractFrom (inRange : start < 2 ^ 32)
    (extracted : service.extractFrom fuel start = some consts) : service.Advances start := by
  induction fuel generalizing start consts with
  | zero => cases extracted
  | succ fuel ih =>
    intro later number width follows
    obtain ⟨rfl, found⟩ | ⟨value, bitLength, found, follows⟩ := follows.cases
    · by_contra behind
      have stuck : nextBytePos later width = later := by
        simp only [nextBytePos] at behind ⊢
        omega
      rw [extractFrom_of_stuck found stuck] at extracted
      cases extracted
    · obtain ⟨rest, extracted, _⟩ := (extractFrom_succ_of_found found).1 extracted
      exact ih (by simp only [nextBytePos]; omega) extracted _ _ _ follows

theorem exists_extractFrom_of_advances (inRange : start < 2 ^ 32)
    (advances : service.Advances start) :
    ∃ fuel consts, service.extractFrom fuel start = some consts := by
  induction left : 2 ^ 32 - start using Nat.strong_induction_on generalizing start with
  | h left ih =>
    cases found : service.findRequestSidOrSubFuncParam start 0 with
    | none => exact ⟨1, [], by rw [extractFrom, found]⟩
    | some const =>
      obtain ⟨value, bitLength⟩ := const
      have moved := advances start value bitLength ⟨.here start, found⟩
      have inside : nextBytePos start bitLength < 2 ^ 32 := by
        rw [nextBytePos]
        omega
      obtain ⟨fuel, rest, extracted⟩ := ih (2 ^ 32 - nextBytePos start bitLength) (by omega) inside
        (fun _ _ _ follows => advances _ _ _ (follows.of_next found)) rfl
      exact ⟨fuel + 1, _, (extractFrom_succ_of_found found).2 ⟨rest, extracted, rfl⟩⟩

theorem exists_extractFrom_iff (inRange : start < 2 ^ 32) :
    (∃ fuel consts, service.extractFrom fuel start = some consts) ↔ service.Advances start := by
  constructor
  · rintro ⟨fuel, consts, extracted⟩
    exact advances_of_extractFrom inRange extracted
  · exact exists_extractFrom_of_advances inRange

theorem none_of_saturated (saturated : nextBytePos start bitLength < start + byteLen bitLength)
    (extracted : service.extractFrom fuel (nextBytePos start bitLength) = some consts) :
    service.findRequestSidOrSubFuncParam (nextBytePos start bitLength) 0 = none := by
  have last : nextBytePos start bitLength = 2 ^ 32 - 1 := by
    rw [nextBytePos] at saturated ⊢
    omega
  rw [last] at extracted ⊢
  cases found : service.findRequestSidOrSubFuncParam (2 ^ 32 - 1) 0 with
  | none => rfl
  | some const =>
    have moved := advances_of_extractFrom (by omega) extracted _ _ _ ⟨.here _, found⟩
    rw [nextBytePos] at moved
    omega

/-- The bytes that the request has at the place of a constant have its value. -/
def HoldsConst (requestBytes : List UInt8) (bytePos value bitLength : Nat) : Prop :=
  bytePos + byteLen bitLength ≤ requestBytes.length →
    Bits.value ((requestBytes.drop bytePos).take (byteLen bitLength)) = value

/-- The matcher takes the requests that have the value of every constant that they hold to
its end. -/
theorem matchesConsts_iff {requestBytes : List UInt8} (inRange : start < 2 ^ 32)
    (narrow : ∀ bytePos value bitLength, service.Follows start bytePos value bitLength →
      bitLength ≤ 32)
    (extracted : service.extractFrom fuel start = some consts) :
    matchesConsts requestBytes consts start = true ↔
      ∀ bytePos value bitLength, service.Follows start bytePos value bitLength →
        HoldsConst requestBytes bytePos value bitLength := by
  induction fuel generalizing start consts with
  | zero => cases extracted
  | succ fuel ih =>
    cases found : service.findRequestSidOrSubFuncParam start 0 with
    | none =>
      rw [eq_nil_of_none found extracted]
      exact ⟨fun _ _ _ _ follows => absurd follows (not_follows_of_none found), fun _ => rfl⟩
    | some const =>
      obtain ⟨value, bitLength⟩ := const
      obtain ⟨rest, remaining, rfl⟩ := (extractFrom_succ_of_found found).1 extracted
      have inside : nextBytePos start bitLength < 2 ^ 32 := by
        rw [nextBytePos]
        omega
      have width : byteLen bitLength ≤ 4 := by
        have bound := narrow start value bitLength ⟨.here start, found⟩
        rw [byteLen]
        omega
      have later : matchesConsts requestBytes rest (start + byteLen bitLength) = true ↔
          ∀ bytePos value bitLength', service.Follows (nextBytePos start bitLength) bytePos
            value bitLength' → HoldsConst requestBytes bytePos value bitLength' := by
        obtain saturated | whole := Nat.lt_or_ge (nextBytePos start bitLength)
          (start + byteLen bitLength)
        · have none := none_of_saturated saturated remaining
          rw [eq_nil_of_none none remaining]
          exact ⟨fun _ _ _ _ follows => absurd follows (not_follows_of_none none),
            fun _ => rfl⟩
        · have same : nextBytePos start bitLength = start + byteLen bitLength := by
            rw [nextBytePos] at whole ⊢
            omega
          rw [← same]
          exact ih inside (fun _ _ _ follows => narrow _ _ _ (follows.of_next found)) remaining
      rw [matchesConsts, RawCodedConstParam.byteCount]
      dsimp only
      rw [if_neg (Nat.not_lt.2 width)]
      split
      · rename_i beyond
        simp only [true_iff]
        intro bytePos number width follows fits
        obtain ⟨rfl, again⟩ | ⟨_, _, again, follows⟩ := follows.cases
        · cases found.symm.trans again
          omega
        · cases found.symm.trans again
          obtain saturated | whole := Nat.lt_or_ge (nextBytePos start bitLength)
            (start + byteLen bitLength)
          · exact absurd follows (not_follows_of_none (none_of_saturated saturated remaining))
          · have behind := (le_of_follows inside follows).1
            omega
      · rename_i within
        split
        · rename_i differs
          simp only [Bool.false_eq_true, false_iff]
          intro same
          exact differs (same start value bitLength ⟨.here start, found⟩ (by omega)).symm
        · rename_i same
          rw [later]
          constructor
          · intro rest bytePos number width follows fits
            obtain ⟨rfl, again⟩ | ⟨_, _, again, follows⟩ := follows.cases
            · cases found.symm.trans again
              exact (not_not.1 same).symm
            · cases found.symm.trans again
              exact rest _ _ _ follows fits
          · intro all bytePos number width follows
            exact all _ _ _ (follows.of_next found)

end DiagService

/-- An unsigned constant of whole bytes, at most four, without a mask; an empty mask is none. -/
structure WholeConst where
  slt : StandardLengthType
  isHighLowByteOrder : Bool
  codedValue : Text
  number : Nat
  unmasked : slt.bitMask.all (·.isEmpty) = true
  whole : slt.bitLength % 8 = 0
  positive : 8 ≤ slt.bitLength
  narrow : slt.bitLength ≤ 32
  decimal : integer? 10 codedValue = some (number : Int)
  fits : number < 2 ^ slt.bitLength

namespace WholeConst

variable (const : WholeConst)

def diagCodedType : DiagCodedType :=
  ⟨.uint32, .standardLength const.slt, const.isHighLowByteOrder⟩

def codedConst : CodedConst := ⟨some (.ok const.diagCodedType), some const.codedValue⟩

def bytes : List UInt8 :=
  normalizeByteOrder (toBeBytes (byteLen const.slt.bitLength) const.number)
    const.diagCodedType.byteOrder

@[simp]
theorem length_bytes : const.bytes.length = byteLen const.slt.bitLength := by
  rw [bytes, length_normalizeByteOrder, length_toBeBytes]

/-- An empty mask is left out. -/
def plainSlt : StandardLengthType := { const.slt with bitMask := none }

def plainType : DiagCodedType :=
  ⟨.uint32, .standardLength const.plainSlt, const.isHighLowByteOrder⟩

theorem encode_eq_plain (data uds : List UInt8) (bytePos bitPos : Nat) :
    const.diagCodedType.encode data uds bytePos bitPos =
      const.plainType.encode data uds bytePos bitPos := by
  have none : const.slt.bitMask.filter (fun data => !data.isEmpty) = none := by
    have unmasked := const.unmasked
    cases mask : const.slt.bitMask with
    | none => rfl
    | some data =>
      rw [mask, Option.all_some] at unmasked
      rw [Option.filter_some, unmasked]
      rfl
  have packs : const.diagCodedType.packInput data = const.plainType.packInput data := by
    simp only [DiagCodedType.packInput, diagCodedType, plainType, plainSlt,
      DiagCodedType.packStandardLen, none, Option.filter_none]
    rfl
  rw [DiagCodedType.encode, packs]
  rfl

theorem lays_encodeCodedConst (param : Parameter conv) (atBit : param.bitPosition = 0)
    (uds : List UInt8) :
    ∃ after, encodeCodedConst param const.codedConst uds = .ok after ∧
      Lays param.bytePosition const.bytes uds after := by
  have standard : const.diagCodedType.type_ = .standardLength const.slt := rfl
  have positive : 0 < const.slt.bitLength := Nat.lt_of_lt_of_le (by decide) const.positive
  have narrow := const.narrow
  have written : writtenConst conv const.diagCodedType const.codedValue =
      .ok (toBeBytes 4 const.number) :=
    (uint32_const_iff standard positive rfl _).1.2
      ⟨const.number, const.decimal, by rw [Nat.min_eq_left narrow]; exact const.fits, rfl⟩
  have valid : const.plainType.baseDatatype.validateBitLen const.slt.bitLength = .ok () := by
    rw [plainType, DataType.validateBitLen, if_neg (Nat.ne_of_gt positive),
      if_neg (fun wide => by omega)]
    rfl
  obtain ⟨bytes, copied⟩ := exists_copyData const.slt.bitLength (toBeBytes 4 const.number)
    const.plainType.alignment
  have packs := (@DiagCodedType.packInput_unmasked const.plainType const.plainSlt rfl rfl valid _ _
    copied).1
  obtain ⟨after, encoded, _⟩ := @DiagCodedType.encode_standardLength_spec const.plainType
    const.plainSlt (toBeBytes 4 const.number) 0 _ rfl rfl packs (by decide) positive (by simp) uds
    param.bytePosition
  refine ⟨after, ?_, ?_⟩
  · rw [writtenConst, except_bind_eq_ok_iff] at written
    obtain ⟨json, read, bytes⟩ := written
    rw [encodeCodedConst, codedConst]
    dsimp only
    rw [read, except_bind_eq_ok_iff]
    refine ⟨json, rfl, ?_⟩
    rw [bytes, except_bind_eq_ok_iff]
    exact ⟨_, rfl, by rw [atBit, encode_eq_plain]; exact encoded⟩
  · have plain : const.plainType.type_ = .standardLength const.plainSlt := rfl
    obtain ⟨_, _, lays⟩ := DiagCodedType.lays_of_encode_standard plain rfl (.inr rfl) encoded
    have four : value (toBeBytes 4 const.number) = const.number := by
      apply value_toBeBytes_of_lt
      exact const.fits.trans_le (Nat.pow_le_pow_right (by decide) narrow)
    have same : laidBytes const.plainType.byteOrder 0 const.slt.bitLength
        (DiagCodedType.writtenNumber const.slt.bitLength (value (toBeBytes 4 const.number))) =
          const.bytes := by
      rw [four, DiagCodedType.writtenNumber, if_pos const.whole, laidBytes, Nat.mod_eq_of_lt const.fits,
        Nat.pow_zero, Nat.mul_one, Nat.zero_add]
      rfl
    rw [← same]
    exact lays

end WholeConst

/-- One of the parameters is this constant at this byte position. -/
def HasConst (params : List (Parameter conv)) (bytePos : Nat) (const : WholeConst) : Prop :=
  ∃ param ∈ params, param.specificData = .codedConst const.codedConst ∧ param.bytePosition = bytePos

def Covers (params : List (Parameter conv)) (byte : Nat) : Prop :=
  ∃ bytePos const, HasConst params bytePos const ∧ bytePos ≤ byte ∧
    byte < bytePos + byteLen const.slt.bitLength

def Sets (params : List (Parameter conv)) (cell : Cell) : Prop :=
  ∃ bytePos const, HasConst params bytePos const ∧ holdsAt bytePos const.bytes cell = true

/-- Every constant is one of whole bytes that begins at a byte. -/
def WholeConstants (params : List (Parameter conv)) : Prop :=
  ∀ param ∈ params, ∀ codedConst, param.specificData = .codedConst codedConst →
    param.bitPosition = 0 ∧ ∃ const : WholeConst, codedConst = const.codedConst

theorem HasConst.of_tail {param : Parameter conv} {params : List (Parameter conv)} {bytePos : Nat}
    {const : WholeConst} (has : HasConst params bytePos const) :
    HasConst (param :: params) bytePos const := by
  obtain ⟨other, mem, specific, position⟩ := has
  exact ⟨other, List.mem_cons_of_mem _ mem, specific, position⟩

theorem hasConst_cons_iff {param : Parameter conv} {params : List (Parameter conv)} {bytePos : Nat}
    {const : WholeConst} :
    HasConst (param :: params) bytePos const ↔
      (param.specificData = .codedConst const.codedConst ∧ param.bytePosition = bytePos) ∨
        HasConst params bytePos const := by
  constructor
  · rintro ⟨other, mem, found⟩
    obtain rfl | later := List.mem_cons.1 mem
    · exact .inl found
    · exact .inr ⟨other, later, found⟩
  · rintro (found | later)
    · exact ⟨param, List.mem_cons_self, found⟩
    · exact later.of_tail

theorem WholeConst.bytes_congr {first second : WholeConst}
    (same : first.codedConst = second.codedConst) :
    first.bytes = second.bytes ∧ first.slt = second.slt := by
  obtain ⟨slt, order, text, number, _, _, _, _, decimal, _⟩ := first
  obtain ⟨otherSlt, otherOrder, otherText, otherNumber, _, _, _, _, otherDecimal, _⟩ := second
  simp only [codedConst, diagCodedType, CodedConst.mk.injEq, Option.some.injEq, Except.ok.injEq,
    DiagCodedType.mk.injEq, DiagCodedTypeVariant.standardLength.injEq, true_and] at same
  obtain ⟨⟨rfl, rfl⟩, rfl⟩ := same
  cases decimal.symm.trans otherDecimal
  exact ⟨rfl, rfl⟩

section Cons

variable {param : Parameter conv} {params : List (Parameter conv)} {const : WholeConst}

theorem sets_cons_iff (specific : param.specificData = .codedConst const.codedConst) (cell : Cell) :
    Sets (param :: params) cell ↔
      holdsAt param.bytePosition const.bytes cell = true ∨ Sets params cell := by
  constructor
  · rintro ⟨bytePos, other, has, isSet⟩
    obtain ⟨same, rfl⟩ | has := hasConst_cons_iff.1 has
    · rw [specific] at same
      cases WholeConst.bytes_congr (SpecificData.codedConst.inj same) with
      | intro bytes _ => exact .inl (bytes ▸ isSet)
    · exact .inr ⟨bytePos, other, has, isSet⟩
  · rintro (isSet | ⟨bytePos, other, has, isSet⟩)
    · exact ⟨_, const, ⟨param, List.mem_cons_self, specific, rfl⟩, isSet⟩
    · exact ⟨bytePos, other, has.of_tail, isSet⟩

theorem covers_cons_iff (specific : param.specificData = .codedConst const.codedConst)
    (byte : Nat) :
    Covers (param :: params) byte ↔
      (param.bytePosition ≤ byte ∧ byte < param.bytePosition + byteLen const.slt.bitLength) ∨
        Covers params byte := by
  constructor
  · rintro ⟨bytePos, other, has, inside⟩
    obtain ⟨same, rfl⟩ | has := hasConst_cons_iff.1 has
    · rw [specific] at same
      cases WholeConst.bytes_congr (SpecificData.codedConst.inj same) with
      | intro _ slt => exact .inl (slt ▸ inside)
    · exact .inr ⟨bytePos, other, has, inside⟩
  · rintro (inside | ⟨bytePos, other, has, inside⟩)
    · exact ⟨_, const, ⟨param, List.mem_cons_self, specific, rfl⟩, inside⟩
    · exact ⟨bytePos, other, has.of_tail, inside⟩

theorem hasConst_cons_of_other
    (other : ¬∃ codedConst, param.specificData = .codedConst codedConst) {bytePos : Nat} :
    HasConst (param :: params) bytePos const ↔ HasConst params bytePos const := by
  rw [hasConst_cons_iff, or_iff_right]
  rintro ⟨specific, _⟩
  exact other ⟨_, specific⟩

end Cons

structure LaysConstants (params : List (Parameter conv)) (before after : List UInt8) : Prop where
  cells : ∀ cell, holds after cell = true ↔ holds before cell = true ∨ Sets params cell
  longer : before.length ≤ after.length
  covered : ∀ byte, Covers params byte → byte < after.length

theorem laysConstants_of_foldlM {params : List (Parameter conv)} (whole : WholeConstants params)
    (before : List UInt8) :
    ∃ after, (params.foldlM (fun uds param =>
        match param.specificData with
        | .codedConst codedConst => encodeCodedConst param codedConst uds
        | _ => .ok uds) before : Except DiagServiceError (List UInt8)) = .ok after ∧
      LaysConstants params before after := by
  induction params generalizing before with
  | nil =>
    refine ⟨before, rfl, ?_, Nat.le_refl _, ?_⟩
    · intro cell
      simp [Sets, HasConst]
    · rintro byte ⟨_, _, ⟨_, mem, _⟩, _⟩
      cases mem
  | cons param params ih =>
    have later : WholeConstants params := fun other mem =>
      whole other (List.mem_cons_of_mem _ mem)
    rw [List.foldlM_cons]
    by_cases isConst : ∃ codedConst, param.specificData = .codedConst codedConst
    · obtain ⟨codedConst, specific⟩ := isConst
      obtain ⟨atBit, const, rfl⟩ := whole param List.mem_cons_self codedConst specific
      obtain ⟨middle, encoded, lays⟩ := const.lays_encodeCodedConst param atBit before
      obtain ⟨after, rest, laid⟩ := ih later middle
      have length := lays.length
      have longer := laid.longer
      rw [const.length_bytes] at length
      refine ⟨after, ?_, ?_, by omega, ?_⟩
      · rw [specific]
        dsimp only
        rw [encoded]
        exact rest
      · intro cell
        rw [laid.cells, lays.holds, Bool.or_eq_true, or_assoc, sets_cons_iff specific]
      · intro byte covers
        obtain inside | covers := (covers_cons_iff specific byte).1 covers
        · omega
        · exact laid.covered byte covers
    · obtain ⟨after, rest, laid⟩ := ih later before
      refine ⟨after, ?_, ?_, laid.longer, ?_⟩
      · split
        · rename_i codedConst specific
          exact absurd ⟨codedConst, specific⟩ isConst
        · exact rest
      · intro cell
        rw [laid.cells]
        simp only [Sets, hasConst_cons_of_other isConst]
      · intro byte covers
        simp only [Covers, hasConst_cons_of_other isConst] at covers
        exact laid.covered byte covers

section Cells

variable {first second : List UInt8}

theorem getElem?_eq_iff_holds {byte : Nat} (inFirst : byte < first.length)
    (inSecond : byte < second.length) :
    first[byte]? = second[byte]? ↔
      ∀ offset, holds first (byte, offset) = holds second (byte, offset) := by
  simp only [holds, List.getD_eq_getElem?_getD, List.getElem?_eq_getElem inFirst,
    List.getElem?_eq_getElem inSecond, Option.getD_some, Option.some.injEq]
  constructor
  · intro same offset
    rw [same]
  · intro same
    exact UInt8.toNat_inj.1 (Nat.eq_of_testBit_eq same)

theorem holds_set_of_ne {byte : Nat} {cell : Cell} (new : UInt8) (apart : byte ≠ cell.1) :
    holds (first.set byte new) cell = holds first cell := by
  simp only [holds, List.getD_eq_getElem?_getD, List.getElem?_set_ne apart]

theorem value_slice_eq_iff {start count number : Nat} (inside : start + count ≤ first.length)
    (small : number < 2 ^ (8 * count)) :
    value ((first.drop start).take count) = number ↔
      ∀ byte offset, start ≤ byte → byte < start + count →
        holds first (byte, offset) = holdsAt start (toBeBytes count number) (byte, offset) := by
  have length : ((first.drop start).take count).length = count := by
    rw [List.length_take, List.length_drop]
    omega
  have slice (byte offset : Nat) (within : byte < count) :
      holds ((first.drop start).take count) (byte, offset) =
        holds first (start + byte, offset) := by
    rw [holds_take within, holds_drop]
  constructor
  · intro same byte offset behind before
    have bytes : (first.drop start).take count = toBeBytes count number := by
      apply eq_of_value_eq
      · rw [length, length_toBeBytes]
      · rw [same, value_toBeBytes_of_lt small]
    obtain ⟨index, rfl⟩ := Nat.exists_eq_add_of_le behind
    rw [holdsAt_add, ← bytes, slice _ _ (by omega)]
  · intro cells
    have bytes : (first.drop start).take count = toBeBytes count number := by
      apply eq_of_holds_eq
      · rw [length, length_toBeBytes]
      · intro byte offset within _
        rw [length] at within
        rw [slice _ _ within, cells _ _ (Nat.le_add_right _ _) (by omega), holdsAt_add]
    rw [bytes, value_toBeBytes_of_lt small]

end Cells

/-- The bytes of the request are those that the encoder has written, where a constant is. -/
def AgreesWith (params : List (Parameter conv)) (uds requestBytes : List UInt8) : Prop :=
  ∀ byte < requestBytes.length, Covers params byte → requestBytes[byte]? = uds[byte]?

theorem agreesWith_iff {params : List (Parameter conv)} {uds requestBytes : List UInt8}
    (laid : LaysConstants params [] uds) :
    AgreesWith params uds requestBytes ↔
      ∀ byte < requestBytes.length, Covers params byte → ∀ offset,
        (holds requestBytes (byte, offset) = true ↔ Sets params (byte, offset)) := by
  have cells (cell : Cell) : holds uds cell = true ↔ Sets params cell := by
    rw [laid.cells, or_iff_right]
    rw [holds_of_length_le (Nat.zero_le _)]
    decide
  constructor
  · intro agrees byte inside covers offset
    rw [(getElem?_eq_iff_holds inside (laid.covered byte covers)).1 (agrees byte inside covers),
      cells]
  · intro same byte inside covers
    rw [getElem?_eq_iff_holds inside (laid.covered byte covers)]
    intro offset
    rw [Bool.eq_iff_iff, same byte inside covers, cells]

theorem laysConstants_of_processCodedConstants {params : List (Parameter conv)}
    (whole : WholeConstants params) :
    ∃ uds, processCodedConstants params = .ok uds ∧ LaysConstants params [] uds :=
  laysConstants_of_foldlM whole []

namespace DiagService

variable {service : DiagService conv} {start bytePos value bitLength : Nat}

theorem hasConst_of_follows (whole : WholeConstants service.params)
    (follows : service.Follows start bytePos value bitLength) :
    ∃ const : WholeConst, HasConst service.params bytePos const ∧ const.slt.bitLength = bitLength ∧
      const.number = value := by
  obtain ⟨param, mem, found⟩ := List.exists_of_findSome?_eq_some follows.2
  split at found
  · cases found
  · rename_i position
    rw [Parameter.rawCodedConst?] at found
    split at found
    · rename_i slt order codedValue specific
      obtain ⟨_, const, same⟩ := whole param mem _ specific
      rw [same] at specific
      refine ⟨const, ⟨param, mem, specific, not_not.1 (not_or.1 position).1⟩, ?_⟩
      simp only [WholeConst.codedConst, WholeConst.diagCodedType, CodedConst.mk.injEq,
        Option.some.injEq, Except.ok.injEq, DiagCodedType.mk.injEq,
        DiagCodedTypeVariant.standardLength.injEq, true_and] at same
      obtain ⟨⟨rfl, rfl⟩, rfl⟩ := same
      split at found
      · cases found
      · rw [Option.bind_eq_bind, Option.bind_some] at found
        cases parsed : parseUnsigned 32 10 const.codedValue with
        | error failure =>
          rw [parsed] at found
          cases found
        | ok number =>
          rw [parsed] at found
          cases found
          have read := ((parseUnsigned_eq_ok_iff (by decide) _ _).1 parsed).1
          cases const.decimal.symm.trans read
          exact ⟨rfl, rfl⟩
    · cases found

/-- The constants are found, and the matcher takes the requests of this length that agree with
the bytes that the encoder writes for them. -/
structure PrefixAgrees (service : DiagService conv) (length : Nat) : Prop where
  terminates : ∃ fuel consts, service.extractSequentialCodedConsts fuel = some consts
  agrees : WholeConstants service.params → ∃ uds, processCodedConstants service.params = .ok uds ∧
      ∀ fuel requestBytes matched, requestBytes.length = length →
        service.matchesRequestPrefix fuel requestBytes = some matched →
          (matched = true ↔ AgreesWith service.params uds requestBytes)

/-- A constant of the sequence that lies in the first bytes. -/
def Within (service : DiagService conv) (length bytePos value bitLength : Nat) : Prop :=
  service.Follows 0 bytePos value bitLength ∧ bytePos + byteLen bitLength ≤ length

/-- Of the first bytes the constants cover those that a whole constant of the sequence has, and
all of them together have there the bits of its value with the high byte first. -/
structure ReadsWhole (service : DiagService conv) (length : Nat) : Prop where
  complete : ∀ byte < length, Covers service.params byte →
    ∃ bytePos value bitLength, service.Within length bytePos value bitLength ∧ bytePos ≤ byte ∧
      byte < bytePos + byteLen bitLength
  highLow : ∀ bytePos value bitLength, service.Within length bytePos value bitLength →
    ∀ byte offset, bytePos ≤ byte → byte < bytePos + byteLen bitLength →
      (Sets service.params (byte, offset) ↔
        holdsAt bytePos (toBeBytes (byteLen bitLength) value) (byte, offset) = true)

section Agreement

variable {uds requestBytes : List UInt8} {length : Nat} {matched : Bool}
  (whole : WholeConstants service.params)

include whole

theorem covers_of_follows (follows : service.Follows start bytePos value bitLength) {byte : Nat}
    (behind : bytePos ≤ byte) (before : byte < bytePos + byteLen bitLength) :
    Covers service.params byte := by
  obtain ⟨const, has, rfl, _⟩ := hasConst_of_follows whole follows
  exact ⟨bytePos, const, has, behind, before⟩

theorem holdsConst_iff (within : service.Within requestBytes.length bytePos value bitLength) :
    HoldsConst requestBytes bytePos value bitLength ↔
      ∀ byte offset, bytePos ≤ byte → byte < bytePos + byteLen bitLength →
        holds requestBytes (byte, offset) =
          holdsAt bytePos (toBeBytes (byteLen bitLength) value) (byte, offset) := by
  obtain ⟨follows, inside⟩ := within
  obtain ⟨const, _, rfl, rfl⟩ := hasConst_of_follows whole follows
  have small : const.number < 2 ^ (8 * byteLen const.slt.bitLength) := by
    apply const.fits.trans_le
    apply Nat.pow_le_pow_right (by decide)
    rw [byteLen]
    omega
  rw [← value_slice_eq_iff inside small, HoldsConst, forall_prop_of_true inside]

theorem matched_iff {fuel : Nat}
    (ran : service.matchesRequestPrefix fuel requestBytes = some matched) :
    matched = true ↔ ∀ bytePos value bitLength,
      service.Within requestBytes.length bytePos value bitLength →
        HoldsConst requestBytes bytePos value bitLength := by
  obtain ⟨consts, extracted, same⟩ := Option.bind_eq_some_iff.1 ran
  cases same
  rw [matchesConsts_iff (by decide) ?_ extracted]
  · constructor
    · intro all bytePos value bitLength within
      exact all bytePos value bitLength within.1
    · intro all bytePos value bitLength follows inside
      exact all bytePos value bitLength ⟨follows, inside⟩ inside
  · intro bytePos value bitLength follows
    obtain ⟨const, _, rfl, _⟩ := hasConst_of_follows whole follows
    exact const.narrow

theorem agreesWith_iff_of_readsWhole (laid : LaysConstants service.params [] uds)
    (reads : service.ReadsWhole requestBytes.length) :
    (∀ bytePos value bitLength, service.Within requestBytes.length bytePos value bitLength →
      HoldsConst requestBytes bytePos value bitLength) ↔
      AgreesWith service.params uds requestBytes := by
  rw [agreesWith_iff laid]
  constructor
  · intro all byte inside covers offset
    obtain ⟨bytePos, value, bitLength, within, behind, before⟩ := reads.complete byte inside covers
    rw [(holdsConst_iff whole within).1 (all _ _ _ within) byte offset behind before,
      reads.highLow _ _ _ within byte offset behind before]
  · intro agrees bytePos value bitLength within
    rw [holdsConst_iff whole within]
    intro byte offset behind before
    have inside := within.2
    rw [Bool.eq_iff_iff, agrees byte (by omega) (covers_of_follows whole within.1 behind before),
      reads.highLow _ _ _ within byte offset behind before]

/-- The request that has what the encoder writes, and one that differs in a byte, are told
apart only by a constant at this byte. -/
theorem readsWhole_of_agreesWith_iff (laid : LaysConstants service.params [] uds)
    (same : ∀ requestBytes : List UInt8, requestBytes.length = length →
      ((∀ bytePos value bitLength, service.Within length bytePos value bitLength →
        HoldsConst requestBytes bytePos value bitLength) ↔
          AgreesWith service.params uds requestBytes)) :
    service.ReadsWhole length := by
  let written := DiagCodedType.fieldAt uds 0 length
  have sized : written.length = length := DiagCodedType.length_fieldAt uds 0 length
  have agrees : AgreesWith service.params uds written := by
    intro byte inside covers
    rw [getElem?_eq_iff_holds inside (laid.covered byte covers)]
    intro offset
    rw [DiagCodedType.holds_fieldAt offset (sized ▸ inside), Nat.zero_add]
  have holdsAll := (same written sized).2 agrees
  constructor
  · intro byte inside covers
    by_contra alone
    let changed := written.set byte (~~~written[byte])
    have changedSized : changed.length = length := by rw [List.length_set, sized]
    have matched : ∀ bytePos value bitLength, service.Within length bytePos value bitLength →
        HoldsConst changed bytePos value bitLength := by
      intro bytePos value bitLength within
      have cells := (holdsConst_iff whole (sized.symm ▸ within)).1 (holdsAll _ _ _ within)
      rw [holdsConst_iff whole (changedSized.symm ▸ within)]
      intro other offset behind before
      rw [← cells other offset behind before]
      apply holds_set_of_ne
      rintro rfl
      exact alone ⟨bytePos, value, bitLength, within, behind, before⟩
    have differs := ((same changed changedSized).1 matched byte (by omega) covers).trans
      (agrees byte (by omega) covers).symm
    rw [List.getElem?_set_self (by omega), List.getElem?_eq_getElem (by omega)] at differs
    exact UInt8.not_ne_self (Option.some.inj differs)
  · intro bytePos value bitLength within byte offset behind before
    have inside := within.2
    rw [← (holdsConst_iff whole (sized.symm ▸ within)).1 (holdsAll _ _ _ within) byte offset behind
      before]
    exact ((agreesWith_iff laid).1 agrees byte (by omega)
      (covers_of_follows whole within.1 behind before) offset).symm

end Agreement

/-- The matcher agrees with the encoder exactly where the request ends with a constant of the
sequence, and no constant is outside of it or read in another order. -/
theorem prefixAgrees_iff (service : DiagService conv) (length : Nat) : service.PrefixAgrees length ↔
      service.Advances 0 ∧ (WholeConstants service.params → service.ReadsWhole length) := by
  have terminates : (∃ fuel consts, service.extractSequentialCodedConsts fuel = some consts) ↔
      service.Advances 0 := exists_extractFrom_iff (by decide)
  constructor
  · intro prefixAgrees
    refine ⟨terminates.1 prefixAgrees.terminates, ?_⟩
    intro whole
    obtain ⟨uds, processed, agrees⟩ := prefixAgrees.agrees whole
    obtain ⟨same, again, laid⟩ := laysConstants_of_processCodedConstants whole
    cases processed.symm.trans again
    obtain ⟨fuel, consts, extracted⟩ := prefixAgrees.terminates
    apply readsWhole_of_agreesWith_iff whole laid
    rintro requestBytes rfl
    have ran : service.matchesRequestPrefix fuel requestBytes =
        some (matchesConsts requestBytes consts 0) := by
      rw [matchesRequestPrefix, extracted]
      rfl
    rw [← matched_iff whole ran, agrees fuel requestBytes _ rfl ran]
  · rintro ⟨advances, reads⟩
    refine ⟨terminates.2 advances, ?_⟩
    intro whole
    obtain ⟨uds, processed, laid⟩ := laysConstants_of_processCodedConstants whole
    refine ⟨uds, processed, ?_⟩
    rintro fuel requestBytes matched rfl ran
    rw [matched_iff whole ran, agreesWith_iff_of_readsWhole whole laid (reads whole)]

end DiagService

namespace IntegerDatabase

def numberConst (bitLength : Nat) (isHighLowByteOrder : Bool) (codedValue : String) : CodedConst :=
  ⟨some (.ok ⟨.uint32, .standardLength ⟨bitLength, none, false⟩, isHighLowByteOrder⟩),
    some codedValue.toList⟩

def numberConstParam (name : String) (bytePos : Nat) (const : CodedConst) :
    Parameter integerConversions :=
  ⟨.ok .codedConst, some name.toList, none, some bytePos, none, .codedConst const⟩

def readVin (isHighLowByteOrder : Bool) : DiagService integerConversions :=
  ⟨some ⟨some [numberConstParam "SID_RQ" 0 (numberConst 8 true "34"),
    numberConstParam "RecordDataIdentifier" 1 (numberConst 16 isHighLowByteOrder "61840")]⟩⟩

def sidConst : WholeConst :=
  ⟨⟨8, none, false⟩, true, "34".toList, 34, rfl, rfl, by decide, by decide, by decide, by decide⟩

def vinConst (isHighLowByteOrder : Bool) : WholeConst :=
  ⟨⟨16, none, false⟩, isHighLowByteOrder, "61840".toList, 61840, rfl, rfl, by decide, by decide,
    by decide, by decide⟩

theorem readVin_whole (isHighLowByteOrder : Bool) :
    WholeConstants (readVin isHighLowByteOrder).params := by
  intro param mem codedConst specific
  change param ∈ [_, _] at mem
  obtain rfl | mem := List.mem_cons.1 mem
  · cases specific
    exact ⟨rfl, sidConst, rfl⟩
  · cases List.mem_singleton.1 mem
    cases specific
    exact ⟨rfl, vinConst isHighLowByteOrder, rfl⟩

theorem readVin_covers (isHighLowByteOrder : Bool) : Covers (readVin isHighLowByteOrder).params 1 :=
  ⟨1, vinConst isHighLowByteOrder,
    ⟨_, List.mem_cons_of_mem _ List.mem_cons_self, rfl, rfl⟩, Nat.le_refl 1,
    show 1 < 1 + byteLen 16 by decide⟩

/-- A request that ends inside the identifier is taken whatever it begins with, and an identifier
with the low byte first is refused as it is written. -/
theorem readVin_not_prefixAgrees : (readVin true).matchesRequestPrefix 3 [0x22, 0x00] = some true ∧
      processCodedConstants (readVin true).params = .ok [0x22, 0xF1, 0x90] ∧
      ¬(readVin true).PrefixAgrees 2 ∧
      (readVin false).matchesRequestPrefix 3 [0x22, 0x90, 0xF1] = some false ∧
      processCodedConstants (readVin false).params = .ok [0x22, 0x90, 0xF1] ∧
      ¬(readVin false).PrefixAgrees 3 := by
  have taken : (readVin true).matchesRequestPrefix 3 [0x22, 0x00] = some true := by decide
  have highLow : processCodedConstants (readVin true).params = .ok [0x22, 0xF1, 0x90] := rfl
  have refused : (readVin false).matchesRequestPrefix 3 [0x22, 0x90, 0xF1] = some false := by decide
  have lowHigh : processCodedConstants (readVin false).params = .ok [0x22, 0x90, 0xF1] := rfl
  refine ⟨taken, highLow, ?_, refused, lowHigh, ?_⟩
  · intro prefixAgrees
    obtain ⟨uds, processed, agrees⟩ := prefixAgrees.agrees (readVin_whole true)
    cases highLow.symm.trans processed
    cases (agrees 3 _ _ rfl taken).1 rfl 1 (by decide) (readVin_covers true)
  · intro prefixAgrees
    obtain ⟨uds, processed, agrees⟩ := prefixAgrees.agrees (readVin_whole false)
    cases lowHigh.symm.trans processed
    cases (agrees 3 _ _ rfl refused).2 fun _ _ _ => rfl

end IntegerDatabase

end DiagnosticAdapter.Kernel
