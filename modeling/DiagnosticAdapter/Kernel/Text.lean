import DiagnosticAdapter.Codec.BitAccess

/-!
# Numbers and bytes written as text

The integer parsers of the standard library (`parse`, `from_str_radix`), with
their errors, and `decode_hex`.
-/

namespace DiagnosticAdapter.Kernel

open Codec

abbrev Text := List Char

inductive ParseIntError where
  | empty
  | invalidDigit
  | posOverflow
  | negOverflow
  deriving DecidableEq, Repr

def ParseIntError.message : ParseIntError → String
  | .empty => "cannot parse integer from empty string"
  | .invalidDigit => "invalid digit found in string"
  | .posOverflow => "number too large to fit in target type"
  | .negOverflow => "number too small to fit in target type"

def toDigit (c : Char) (radix : Nat) : Option Nat :=
  let digit :=
    if '0' ≤ c ∧ c ≤ '9' then some (c.toNat - '0'.toNat)
    else if 'a' ≤ c ∧ c ≤ 'z' then some (c.toNat - 'a'.toNat + 10)
    else if 'A' ≤ c ∧ c ≤ 'Z' then some (c.toNat - 'A'.toNat + 10)
    else none
  digit.filter (· < radix)

/-- The digits of a number that may not exceed `limit`, after those read so far. -/
def parseDigits (radix limit : Nat) (overflow : ParseIntError) :
    Nat → Text → Except ParseIntError Nat
  | number, [] => .ok number
  | number, c :: rest =>
    match toDigit c radix with
    | none => .error .invalidDigit
    | some digit =>
      if number * radix + digit > limit then .error overflow
      else parseDigits radix limit overflow (number * radix + digit) rest

/-- `from_str_radix` of an unsigned type of the given width. -/
def parseUnsigned (bits radix : Nat) : Text → Except ParseIntError Nat
  | [] => .error .empty
  | ['+'] | ['-'] => .error .invalidDigit
  | '+' :: digits => parseDigits radix (2 ^ bits - 1) .posOverflow 0 digits
  | digits => parseDigits radix (2 ^ bits - 1) .posOverflow 0 digits

/-- `from_str_radix` of a signed type of the given width. -/
def parseSigned (bits radix : Nat) : Text → Except ParseIntError Int
  | [] => .error .empty
  | ['+'] | ['-'] => .error .invalidDigit
  | '+' :: digits => Int.ofNat <$> parseDigits radix (2 ^ (bits - 1) - 1) .posOverflow 0 digits
  | '-' :: digits =>
    (fun number => -Int.ofNat number) <$> parseDigits radix (2 ^ (bits - 1)) .negOverflow 0 digits
  | digits => Int.ofNat <$> parseDigits radix (2 ^ (bits - 1) - 1) .posOverflow 0 digits

/-- `hex::decode` of a text of hexadecimal digits of even length. -/
def hexPairs : Text → List UInt8
  | first :: second :: rest =>
    UInt8.ofNat ((toDigit first 16).getD 0 * 16 + (toDigit second 16).getD 0) :: hexPairs rest
  | _ => []

def decodeHex (text : Text) : Except DiagServiceError (List UInt8) :=
  if !text.all fun c => (toDigit c 16).isSome then
    .error (.parameterConversionError "Non-hex character found")
  else if text.length % 2 = 0 then .ok (hexPairs text)
  else .ok (hexPairs (text.take (text.length - 1) ++ '0' :: text.drop (text.length - 1)))

def tryStripHexPrefix : Text → Option Text
  | '0' :: 'x' :: rest | '0' :: 'X' :: rest => some rest
  | _ => none

def decodeHexWithOptionalPrefix (text : Text) : Except DiagServiceError (List UInt8) := do
  let words := (text.splitOnP fun c => c = ' ' ∨ c = ',').filter fun word => !word.isEmpty
  let parts ← words.mapM fun word => decodeHex ((tryStripHexPrefix word).getD word)
  return parts.flatten

end DiagnosticAdapter.Kernel
