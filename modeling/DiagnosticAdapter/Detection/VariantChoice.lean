import DiagnosticAdapter.Kernel.Json

/-!
# The choice of a variant

`evaluate_variant` turns every response into texts and compares these with the expected
values of the patterns.
-/

namespace DiagnosticAdapter.Detection

open Codec (DiagServiceError)
open Kernel (Text JsonNumber JsonValue tryStripHexPrefix toDigit)

def isWhitespace (c : Char) : Bool :=
  (0x09 ≤ c.toNat && c.toNat ≤ 0x0D) || (0x2000 ≤ c.toNat && c.toNat ≤ 0x200A) ||
    [0x20, 0x85, 0xA0, 0x1680, 0x2028, 0x2029, 0x202F, 0x205F, 0x3000].contains c.toNat

def splitWhitespace (value : Text) : List Text :=
  (value.splitOnP isWhitespace).filter fun token => !token.isEmpty

def stripHexPrefix (s : Text) : Text := (tryStripHexPrefix s).getD s

def normalizeHex (value : Text) : Text :=
  (splitWhitespace value).flatMap fun token => (stripHexPrefix token).map Char.toUpper

def isByteFieldRepr (value : Text) : Bool :=
  !value.isEmpty && (value.splitOnP (· = ' ')).all fun token =>
    token.length = 4 && (tryStripHexPrefix token).any fun hex =>
      hex.all fun c => (toDigit c 16).isSome

def byteFieldMatchesHexPattern (received expected : Text) : Bool :=
  isByteFieldRepr received && normalizeHex received = normalizeHex expected

section JsonText

def escapeChar (c : Char) : Text :=
  if c = '"' then ['\\', '"']
  else if c = '\\' then ['\\', '\\']
  else if c.toNat = 0x08 then ['\\', 'b']
  else if c.toNat = 0x0C then ['\\', 'f']
  else if c = '\n' then ['\\', 'n']
  else if c = '\r' then ['\\', 'r']
  else if c = '\t' then ['\\', 't']
  else if c.toNat < 0x20 then
    ['\\', 'u', '0', '0', (c.toNat / 16).digitChar, (c.toNat % 16).digitChar]
  else [c]

def stringText (text : Text) : Text := '"' :: text.flatMap escapeChar ++ ['"']

-- how a floating-point number is printed
variable (floatText : List UInt8 → Text)

def numberText : JsonNumber → Text
  | .posInt number => (toString number).toList
  | .negInt number => (toString number).toList
  | .float bytes => floatText bytes

mutual

def jsonText : JsonValue → Text
  | .null => "null".toList
  | .bool value => (toString value).toList
  | .number number => numberText floatText number
  | .string text => stringText text
  | .array items => '[' :: itemsText items ++ [']']
  | .object members => '\x7b' :: membersText members ++ ['\x7d']

def itemsText : List JsonValue → Text
  | [] => []
  | [item] => jsonText item
  | item :: items => jsonText item ++ ',' :: itemsText items

def membersText : List (Text × JsonValue) → Text
  | [] => []
  | [(name, value)] => stringText name ++ ':' :: jsonText value
  | (name, value) :: members =>
    stringText name ++ ':' :: jsonText value ++ ',' :: membersText members

end

end JsonText

/-- `replace` of the quotes by nothing. -/
def removeQuotes (text : Text) : Text := text.filter (· ≠ '"')

/-- Each field is the text that the matching parameter refers to, where it has one. -/
structure MatchingParameter where
  expectedValue : Option Text
  outParam : Option Text
  service : Option Text
  deriving DecidableEq, Repr

structure VariantPattern where
  matchingParameter : Option (List MatchingParameter)
  deriving DecidableEq, Repr

structure DatabaseVariant where
  shortName : Option Text
  variantPattern : Option (List VariantPattern)
  deriving DecidableEq, Repr

structure DiagnosticDatabase where
  ecuName : String
  variants : Except DiagServiceError (Option (List DatabaseVariant))

inductive EvaluationError where
  | service (error : DiagServiceError)
  | variantDetectionError (message : String)
  deriving DecidableEq, Repr

section Evaluate

variable {Response : Type} (intoJson : Response → Except DiagServiceError JsonValue)
  (floatText : List UInt8 → Text)

def displayedMembers (members : List (Text × JsonValue)) : List (Text × Text) :=
  members.map fun member => (member.1, removeQuotes (jsonText floatText member.2))

def displayedParams (json : JsonValue) : Except DiagServiceError (List (Text × Text)) :=
  match json.asObject with
  | none => .error (.parameterConversionError "Expected JSON object")
  | some members => .ok (displayedMembers floatText members)

def displayedResponse (response : Text × Response) :
    Except DiagServiceError (Text × List (Text × Text)) := do
  let json ← intoJson response.2
  let params ← displayedParams floatText json
  return (response.1, params)

/-- Missing texts count as empty. -/
def paramMatches (displayed : List (Text × List (Text × Text))) (param : MatchingParameter) :
    Bool :=
  let expectedValue := param.expectedValue.getD []
  ((displayed.lookup (param.service.getD [])).bind
    (·.lookup (param.outParam.getD []))).any fun value =>
      let received := removeQuotes value
      received = expectedValue || byteFieldMatchesHexPattern received expectedValue

def variantMatches (judge : MatchingParameter → Bool) (variant : DatabaseVariant) : Bool :=
  variant.variantPattern.any fun patterns => patterns.any fun pattern =>
    pattern.matchingParameter.any fun params => params.all judge

def evaluateVariant (serviceResponses : List (Text × Response)) (database : DiagnosticDatabase) :
    Except EvaluationError DatabaseVariant :=
  match serviceResponses.mapM (displayedResponse intoJson floatText) with
  | .error error => .error (.service error)
  | .ok displayed =>
    match database.variants with
    | .error error => .error (.service error)
    | .ok none => .error (.service (.invalidDatabase
        s!"ECU {database.ecuName} has no variants!"))
    | .ok (some variants) =>
      match variants.find? (variantMatches (paramMatches displayed)) with
      | some variant => .ok variant
      | none => .error (.variantDetectionError
          s!"No variant found for ECU {database.ecuName}")

end Evaluate

theorem find?_eq_find?_iff {α : Type} (left right : α → Bool) (items : List α) :
    items.find? left = items.find? right ↔
      (∀ item ∈ items.takeWhile (!right ·), left item = false) ∧
        ∀ item, items.find? right = some item → left item = true := by
  induction items with
  | nil => simp
  | cons item items ih =>
    cases found : right item with
    | true =>
      rw [List.takeWhile_cons_of_neg (by simp [found]), List.find?_cons_of_pos found]
      constructor
      · intro same
        refine ⟨fun _ member => absurd member List.not_mem_nil, ?_⟩
        rintro _ ⟨⟩
        exact List.find?_some same
      · intro ⟨_, chosen⟩
        exact List.find?_cons_of_pos (chosen item rfl)
    | false =>
      have skipped : (item :: items).find? right = items.find? right :=
        List.find?_cons_of_neg (by simp [found])
      rw [List.takeWhile_cons_of_pos (by simp [found]), skipped]
      cases early : left item with
      | true =>
        rw [List.find?_cons_of_pos early]
        constructor
        · intro same
          have met : right item = true := List.find?_some same.symm
          rw [found] at met
          cases met
        · intro ⟨quiet, _⟩
          rw [quiet item (List.mem_cons_self ..)] at early
          cases early
      | false =>
        have passed : (item :: items).find? left = items.find? left :=
          List.find?_cons_of_neg (by simp [early])
        rw [passed, ih]
        constructor
        · intro ⟨quiet, chosen⟩
          refine ⟨?_, chosen⟩
          intro other member
          obtain rfl | member := List.mem_cons.mp member
          · exact early
          · exact quiet other member
        · intro ⟨quiet, chosen⟩
          exact ⟨fun other member => quiet other (List.mem_cons_of_mem _ member), chosen⟩

namespace DatabaseVariant

def hasEmptyPattern (variant : DatabaseVariant) : Bool :=
  variant.variantPattern.any fun patterns => patterns.any fun pattern =>
    pattern.matchingParameter = some []

def meets (judge : MatchingParameter → Bool) (variant : DatabaseVariant) : Bool :=
  variant.variantPattern.any fun patterns => patterns.any fun pattern =>
    pattern.matchingParameter.any fun params => !params.isEmpty && params.all judge

def services (variant : DatabaseVariant) : List Text :=
  (variant.variantPattern.getD []).flatMap fun pattern =>
    (pattern.matchingParameter.getD []).map fun param => param.service.getD []

end DatabaseVariant

theorem variantMatches_eq (judge : MatchingParameter → Bool) (variant : DatabaseVariant) :
    variantMatches judge variant = (variant.hasEmptyPattern || variant.meets judge) := by
  rw [variantMatches, DatabaseVariant.hasEmptyPattern, DatabaseVariant.meets]
  cases variant.variantPattern with
  | none => rfl
  | some patterns =>
    simp only [Option.any_some]
    induction patterns with
    | nil => rfl
    | cons pattern patterns ih =>
      simp only [List.any_cons, ih]
      cases pattern.matchingParameter with
      | none => simp
      | some params =>
        cases params with
        | nil => simp
        | cons param params =>
          simp only [Option.any_some, List.isEmpty_cons, Bool.not_false, Bool.true_and,
            Option.some.injEq, reduceCtorEq, decide_false, Bool.false_or]
          exact Bool.or_left_comm ..

theorem meets_eq_true_iff {judge : MatchingParameter → Bool} {variant : DatabaseVariant} :
    variant.meets judge = true ↔ ∃ pattern ∈ variant.variantPattern.getD [],
      ∃ params, pattern.matchingParameter = some params ∧ params ≠ [] ∧
        ∀ param ∈ params, judge param = true := by
  rw [DatabaseVariant.meets, Option.any_eq_true]
  cases variant.variantPattern with
  | none => simp
  | some patterns => simp [Option.any_eq_true, List.any_eq_true]

theorem meets_congr {first second : MatchingParameter → Bool} {variant : DatabaseVariant}
    (same : ∀ param, param.service.getD [] ∈ variant.services → first param = second param) :
    variant.meets first = variant.meets second := by
  rw [Bool.eq_iff_iff, meets_eq_true_iff, meets_eq_true_iff]
  have agree : ∀ pattern ∈ variant.variantPattern.getD [], ∀ params,
      pattern.matchingParameter = some params → ∀ param ∈ params, first param = second param := by
    intro pattern member params isParams param named
    apply same
    refine List.mem_flatMap.mpr ⟨pattern, member, ?_⟩
    rw [isParams]
    exact List.mem_map_of_mem named
  constructor
  · rintro ⟨pattern, member, params, isParams, nonempty, met⟩
    refine ⟨pattern, member, params, isParams, nonempty, ?_⟩
    intro param named
    rw [← agree pattern member params isParams param named]
    exact met param named
  · rintro ⟨pattern, member, params, isParams, nonempty, met⟩
    refine ⟨pattern, member, params, isParams, nonempty, ?_⟩
    intro param named
    rw [agree pattern member params isParams param named]
    exact met param named

section Meet

variable {Response : Type} (intoJson : Response → Except DiagServiceError JsonValue)
  (floatText : List UInt8 → Text)

def members? (response : Response) : Option (List (Text × JsonValue)) :=
  (intoJson response).toOption.bind JsonValue.asObject

/-- The value that the response of the service has for the parameter. -/
def fieldValue? (responses : List (Text × Response)) (param : MatchingParameter) :
    Option JsonValue :=
  ((responses.lookup (param.service.getD [])).bind (members? intoJson)).bind
    (·.lookup (param.outParam.getD []))

/-- The text of a value: the content of a string, not its JSON text. -/
def valueText : JsonValue → Text
  | .string text => text
  | value => jsonText floatText value

/-- A byte field is compared by its bytes. -/
def equalsExpected (value : JsonValue) (expectedValue : Text) : Bool :=
  valueText floatText value = expectedValue ||
    value.asStr.any (byteFieldMatchesHexPattern · expectedValue)

/-- The value is compared as it is displayed: as JSON text without quotes. -/
def equalsDisplayed (value : JsonValue) (expectedValue : Text) : Bool :=
  let received := removeQuotes (jsonText floatText value)
  received = expectedValue || byteFieldMatchesHexPattern received expectedValue

def meetsParameter (responses : List (Text × Response)) (param : MatchingParameter) : Bool :=
  (fieldValue? intoJson responses param).any
    (equalsExpected floatText · (param.expectedValue.getD []))

def displayMeetsParameter (responses : List (Text × Response)) (param : MatchingParameter) : Bool :=
  (fieldValue? intoJson responses param).any
    (equalsDisplayed floatText · (param.expectedValue.getD []))

def Convertible (response : Response) : Prop := (members? intoJson response).isSome

variable {intoJson} {floatText}

theorem displayedResponse_of_members {service : Text} {response : Response}
    {members : List (Text × JsonValue)} (mapped : members? intoJson response = some members) :
    displayedResponse intoJson floatText (service, response) =
      .ok (service, displayedMembers floatText members) := by
  rw [members?] at mapped
  rw [displayedResponse]
  cases json : intoJson response with
  | error error =>
    rw [json] at mapped
    cases mapped
  | ok value =>
    rw [json] at mapped
    have object : value.asObject = some members := mapped
    change (displayedParams floatText value >>= fun params => pure (service, params)) = _
    rw [displayedParams, object]
    rfl

theorem displayedResponse_of_not_convertible {service : Text} {response : Response}
    (inconvertible : ¬Convertible intoJson response) :
    ∃ error, displayedResponse intoJson floatText (service, response) = .error error := by
  rw [Convertible, members?] at inconvertible
  rw [displayedResponse]
  cases json : intoJson response with
  | error error => exact ⟨error, rfl⟩
  | ok value =>
    rw [json] at inconvertible
    have noObject : value.asObject = none := by
      rw [← Option.not_isSome_iff_eq_none]
      exact inconvertible
    refine ⟨.parameterConversionError "Expected JSON object", ?_⟩
    change (displayedParams floatText value >>= fun params => pure (service, params)) = _
    rw [displayedParams, noObject]
    rfl

variable (floatText) in
theorem exists_mapM_displayedResponse {responses : List (Text × Response)}
    (convertible : ∀ response ∈ responses, Convertible intoJson response.2) :
    ∃ displayed, responses.mapM (displayedResponse intoJson floatText) = .ok displayed ∧
      ∀ service, displayed.lookup service =
        ((responses.lookup service).bind (members? intoJson)).map (displayedMembers floatText) := by
  induction responses with
  | nil => exact ⟨[], rfl, fun _ => rfl⟩
  | cons response responses ih =>
    obtain ⟨displayed, rest, lookups⟩ := ih fun other member =>
      convertible other (List.mem_cons_of_mem _ member)
    obtain ⟨members, mapped⟩ :=
      Option.isSome_iff_exists.mp (convertible response (List.mem_cons_self ..))
    refine ⟨(response.1, displayedMembers floatText members) :: displayed, ?_, ?_⟩
    · rw [List.mapM_cons, displayedResponse_of_members mapped, rest]
      rfl
    · intro service
      rw [List.lookup_cons, List.lookup_cons]
      cases service == response.1 with
      | true => simp only [Option.bind_some, mapped, Option.map_some]
      | false => exact lookups service

variable (floatText) in
theorem mapM_displayedResponse_fails {responses : List (Text × Response)}
    (inconvertible : ¬∀ response ∈ responses, Convertible intoJson response.2) :
    ∃ error, responses.mapM (displayedResponse intoJson floatText) = .error error := by
  induction responses with
  | nil => exact absurd (fun _ member => absurd member List.not_mem_nil) inconvertible
  | cons response responses ih =>
    rw [List.mapM_cons]
    by_cases converts : Convertible intoJson response.2
    · obtain ⟨members, mapped⟩ := Option.isSome_iff_exists.mp converts
      obtain ⟨error, failed⟩ := ih fun all => inconvertible (by
        intro other member
        obtain rfl | member := List.mem_cons.mp member
        · exact converts
        · exact all other member)
      rw [displayedResponse_of_members mapped, failed]
      exact ⟨error, rfl⟩
    · obtain ⟨error, failed⟩ := displayedResponse_of_not_convertible converts
      rw [failed]
      exact ⟨error, rfl⟩

theorem removeQuotes_removeQuotes (text : Text) :
    removeQuotes (removeQuotes text) = removeQuotes text := by
  rw [removeQuotes, removeQuotes, List.filter_filter]
  simp only [Bool.and_self]

theorem lookup_displayedMembers (members : List (Text × JsonValue)) (name : Text) :
    (displayedMembers floatText members).lookup name =
      (members.lookup name).map fun value => removeQuotes (jsonText floatText value) := by
  induction members with
  | nil => rfl
  | cons member members ih =>
    rw [displayedMembers, List.map_cons, List.lookup_cons, List.lookup_cons]
    cases name == member.1 with
    | true => rfl
    | false => exact ih

/-- The characters that a JSON text leaves as they are. -/
def IsPlain (c : Char) : Prop := c ≠ '"' ∧ c ≠ '\\' ∧ 0x20 ≤ c.toNat

theorem removeQuotes_escapeChar_of_plain {c : Char} (plain : IsPlain c) :
    removeQuotes (escapeChar c) = [c] := by
  obtain ⟨noQuote, noBackslash, printable⟩ := plain
  have noNewline : c ≠ '\n' ∧ c ≠ '\r' ∧ c ≠ '\t' := by
    refine ⟨?_, ?_, ?_⟩ <;>
    · rintro rfl
      exact absurd printable (by decide)
  rw [escapeChar, if_neg noQuote, if_neg noBackslash, if_neg (by omega), if_neg (by omega),
    if_neg noNewline.1, if_neg noNewline.2.1, if_neg noNewline.2.2, if_neg (by omega)]
  simp [removeQuotes, noQuote]

theorem removeQuotes_escapeChar_of_not_plain {c : Char} (special : ¬IsPlain c) :
    (c = '"' ∧ removeQuotes (escapeChar c) = ['\\']) ∨
      2 ≤ (removeQuotes (escapeChar c)).length := by
  by_cases quote : c = '"'
  · subst quote
    exact .inl ⟨rfl, by decide⟩
  · right
    by_cases backslash : c = '\\'
    · subst backslash
      decide
    · have control : c.toNat < 0x20 := by
        by_contra printable
        exact special ⟨quote, backslash, Nat.le_of_not_lt printable⟩
      rw [escapeChar, if_neg quote, if_neg backslash]
      split_ifs
      all_goals simp [removeQuotes]

theorem removeQuotes_stringText (text : Text) :
    removeQuotes (stringText text) = text.flatMap fun c => removeQuotes (escapeChar c) := by
  simp only [removeQuotes, stringText, List.filter_append, List.filter_cons, List.filter_flatMap]
  simp

theorem length_le_removeQuotes_stringText (text : Text) :
    text.length ≤ (removeQuotes (stringText text)).length := by
  rw [removeQuotes_stringText]
  induction text with
  | nil => exact Nat.le_refl 0
  | cons c text ih =>
    have nonempty : 1 ≤ (removeQuotes (escapeChar c)).length := by
      by_cases plain : IsPlain c
      · rw [removeQuotes_escapeChar_of_plain plain, List.length_singleton]
      · obtain ⟨_, same⟩ | more := removeQuotes_escapeChar_of_not_plain plain
        · rw [same, List.length_singleton]
        · omega
    rw [List.flatMap_cons, List.length_append, List.length_cons]
    omega

/-- A string is displayed as it is where none of its characters is escaped. -/
theorem displayed_string_eq_iff (text : Text) :
    removeQuotes (jsonText floatText (.string text)) = valueText floatText (.string text) ↔
      ∀ c ∈ text, IsPlain c := by
  change removeQuotes (stringText text) = text ↔ _
  induction text with
  | nil => exact iff_of_true rfl fun _ mem => absurd mem List.not_mem_nil
  | cons c text ih =>
    have least := length_le_removeQuotes_stringText text
    rw [removeQuotes_stringText] at ih least ⊢
    rw [List.flatMap_cons, List.forall_mem_cons]
    by_cases plain : IsPlain c
    · rw [removeQuotes_escapeChar_of_plain plain, List.singleton_append, and_iff_right plain,
        List.cons.injEq, and_iff_right rfl]
      exact ih
    · refine iff_of_false ?_ (fun all => plain all.1)
      intro same
      obtain ⟨isQuote, backslash⟩ | more := removeQuotes_escapeChar_of_not_plain plain
      · rw [backslash, isQuote] at same
        cases same
      · have length := congrArg List.length same
        rw [List.length_append, List.length_cons] at length
        omega

theorem paramMatches_eq {responses : List (Text × Response)}
    {displayed : List (Text × List (Text × Text))}
    (lookups : ∀ service, displayed.lookup service =
      ((responses.lookup service).bind (members? intoJson)).map (displayedMembers floatText))
    (param : MatchingParameter) :
    paramMatches displayed param = displayMeetsParameter intoJson floatText responses param := by
  rw [paramMatches, displayMeetsParameter, fieldValue?, lookups]
  cases (responses.lookup (param.service.getD [])).bind (members? intoJson) with
  | none => rfl
  | some members =>
    simp only [Option.map_some, Option.bind_some, lookup_displayedMembers]
    cases members.lookup (param.outParam.getD []) with
    | none => rfl
    | some value =>
      simp only [Option.map_some, Option.any_some, equalsDisplayed, removeQuotes_removeQuotes]

end Meet

namespace DiagnosticDatabase

variable (database : DiagnosticDatabase)

def variantList : List DatabaseVariant := (database.variants.toOption.bind id).getD []

def services : List Text := database.variantList.flatMap DatabaseVariant.services

def named {Response : Type} (responses : List (Text × Response)) : List (Text × Response) :=
  responses.filter fun response => database.services.contains response.1

theorem lookup_named {Response : Type} (responses : List (Text × Response)) {service : Text}
    (isNamed : service ∈ database.services) :
    (database.named responses).lookup service = responses.lookup service := by
  induction responses with
  | nil => rfl
  | cons response responses ih =>
    rw [named, List.filter_cons, List.lookup_cons]
    cases found : service == response.1 with
    | true =>
      rw [← eq_of_beq found, if_pos (List.contains_iff_mem.mpr isNamed), List.lookup_cons, found]
    | false =>
      split
      · rw [List.lookup_cons, found]
        exact ih
      · exact ih

end DiagnosticDatabase

section Choice

variable {Response : Type} (intoJson : Response → Except DiagServiceError JsonValue)
  (floatText : List UInt8 → Text) (responses : List (Text × Response))
  (database : DiagnosticDatabase)

/-- The verdict is the first variant that the responses of the named services meet. -/
def ChoosesVariant : Prop :=
  (evaluateVariant intoJson floatText responses database).toOption = database.variantList.find?
      (DatabaseVariant.meets (meetsParameter intoJson floatText (database.named responses)))

/-- Where a variant is met, every response is mapped to an object; then no earlier one has an empty
pattern or one that the displayed values meet, and it has such a pattern itself. -/
structure Undisturbed : Prop where
  converts : (∃ variant ∈ database.variantList,
      variant.meets (meetsParameter intoJson floatText responses)) →
    ∀ response ∈ responses, Convertible intoJson response.2
  before : (∀ response ∈ responses, Convertible intoJson response.2) →
    ∀ variant ∈ database.variantList.takeWhile
        (!DatabaseVariant.meets (meetsParameter intoJson floatText responses) ·),
      variant.hasEmptyPattern = false ∧
        variant.meets (displayMeetsParameter intoJson floatText responses) = false
  chosen : (∀ response ∈ responses, Convertible intoJson response.2) →
    ∀ variant, database.variantList.find?
        (DatabaseVariant.meets (meetsParameter intoJson floatText responses)) = some variant →
      variant.hasEmptyPattern = true ∨
        variant.meets (displayMeetsParameter intoJson floatText responses) = true

variable {intoJson} {floatText} {responses} {database}

theorem find?_named : database.variantList.find?
        (DatabaseVariant.meets (meetsParameter intoJson floatText (database.named responses))) =
      database.variantList.find?
        (DatabaseVariant.meets (meetsParameter intoJson floatText responses)) := by
  have same : ∀ variant ∈ database.variantList,
      variant.meets (meetsParameter intoJson floatText (database.named responses)) =
        variant.meets (meetsParameter intoJson floatText responses) := by
    intro variant member
    apply meets_congr
    intro param isNamed
    rw [meetsParameter, meetsParameter, fieldValue?, fieldValue?, database.lookup_named]
    exact List.mem_flatMap.mpr ⟨variant, member, isNamed⟩
  generalize database.variantList = variants at same
  induction variants with
  | nil => rfl
  | cons variant variants ih =>
    rw [List.find?_cons, List.find?_cons, same variant (List.mem_cons_self ..),
      ih fun other member => same other (List.mem_cons_of_mem _ member)]

theorem toOption_evaluateVariant_of_convertible
    (convertible : ∀ response ∈ responses, Convertible intoJson response.2) :
    (evaluateVariant intoJson floatText responses database).toOption =
      database.variantList.find? fun variant => variant.hasEmptyPattern ||
        variant.meets (displayMeetsParameter intoJson floatText responses) := by
  obtain ⟨displayed, mapped, lookups⟩ :=
    exists_mapM_displayedResponse floatText convertible
  have compared : paramMatches displayed = displayMeetsParameter intoJson floatText responses :=
    funext (paramMatches_eq lookups)
  rw [evaluateVariant, mapped, DiagnosticDatabase.variantList]
  cases database.variants with
  | error error => rfl
  | ok variants =>
    cases variants with
    | none => rfl
    | some variants =>
      simp only [compared, funext (variantMatches_eq _)]
      change Except.toOption (match variants.find? _ with
        | some variant => .ok variant
        | none => .error _) = variants.find? _
      cases variants.find? fun variant => variant.hasEmptyPattern ||
          variant.meets (displayMeetsParameter intoJson floatText responses) with
      | none => rfl
      | some variant => rfl

theorem toOption_evaluateVariant_of_not_convertible
    (inconvertible : ¬∀ response ∈ responses, Convertible intoJson response.2) :
    (evaluateVariant intoJson floatText responses database).toOption = none := by
  obtain ⟨error, failed⟩ := mapM_displayedResponse_fails floatText inconvertible
  rw [evaluateVariant, failed]
  rfl

theorem choosesVariant_iff : ChoosesVariant intoJson floatText responses database ↔
      Undisturbed intoJson floatText responses database := by
  rw [ChoosesVariant, find?_named]
  by_cases convertible : ∀ response ∈ responses, Convertible intoJson response.2
  · rw [toOption_evaluateVariant_of_convertible convertible, find?_eq_find?_iff]
    simp only [Bool.or_eq_false_iff, Bool.or_eq_true]
    constructor
    · intro ⟨before, chosen⟩
      exact ⟨fun _ => convertible, fun _ => before, fun _ => chosen⟩
    · intro undisturbed
      exact ⟨undisturbed.before convertible, undisturbed.chosen convertible⟩
  · rw [toOption_evaluateVariant_of_not_convertible convertible, eq_comm, List.find?_eq_none]
    constructor
    · intro unmet
      refine ⟨?_, fun all => absurd all convertible, fun all => absurd all convertible⟩
      rintro ⟨variant, member, met⟩
      exact absurd met (unmet variant member)
    · intro undisturbed variant member met
      exact convertible (undisturbed.converts ⟨variant, member, met⟩)

end Choice

namespace TwoServices

abbrev Response := Except DiagServiceError JsonValue

def version : MatchingParameter where
  expectedValue := some "1".toList
  outParam := some "Version".toList
  service := some "Identification".toList

def serial : MatchingParameter where
  expectedValue := some "7".toList
  outParam := some "Number".toList
  service := some "Serial".toList

def variant : DatabaseVariant where
  shortName := some "Series".toList
  variantPattern := some [⟨some [version]⟩]

/-- The variant behind it asks the other service. -/
def database : DiagnosticDatabase where
  ecuName := "ECU"
  variants := .ok (some [variant, ⟨some "Prototype".toList, some [⟨some [serial]⟩]⟩])

/-- A positive response of the service of the first variant, and a negative one without mapped data
of the other. -/
def responses : List (Text × Response) :=
  [("Identification".toList, .ok (.object [("Version".toList, .string "1".toList)])),
    ("Serial".toList, .error (.badPayload "Raw payload cannot be serialized to JSON"))]

/-- The negative response that only a later variant asks for hides the first one. -/
theorem responses_not_choosesVariant : ¬ChoosesVariant id (fun _ => []) responses database := by
  intro chooses
  have failed : (evaluateVariant id (fun _ => []) responses database).toOption = none := rfl
  have chosen : database.variantList.find? (DatabaseVariant.meets
      (meetsParameter id (fun _ => []) (database.named responses))) = some variant := by
    decide +kernel
  cases failed.symm.trans (chooses.trans chosen)

end TwoServices

end DiagnosticAdapter.Detection
