import DiagnosticAdapter.Kernel.CompuMethod

/-!
# Values as JSON

`Serialize for DiagDataValue`.
-/

namespace DiagnosticAdapter.Kernel

open Bits

def upperHexDigit (digit : Nat) : Char :=
  if digit < 10 then Char.ofNat (48 + digit) else Char.ofNat (55 + digit)

/-- `{:#04X}` of a byte. -/
def byteWord (byte : UInt8) : Text :=
  ['0', 'x', upperHexDigit (byte.toNat / 16), upperHexDigit (byte.toNat % 16)]

/-- What is not a finite number becomes `null`. -/
def serializeDouble (bytes : List UInt8) : JsonValue :=
  if (doubleValue bytes).isFinite then .number (.float bytes) else .null

def DiagDataValue.serialize : DiagDataValue → JsonValue
  | .int32 number => .number (.ofInt number)
  | .uint32 number => .number (.posInt number)
  | .float32 bytes => serializeDouble (singleToDouble bytes)
  | .string text => .string text
  | .byteField bytes => .string ([' '].intercalate (bytes.map byteWord))
  | .float64 bytes => serializeDouble bytes

theorem decodeHex_byteWord (byte : UInt8) :
    decodeHex ((tryStripHexPrefix (byteWord byte)).getD (byteWord byte)) = .ok [byte] := by
  have every : ∀ number : Fin 256, let digits := (byteWord (UInt8.ofNat number)).drop 2
      hexPairs digits = [UInt8.ofNat number] ∧ digits.all fun c => (toDigit c 16).isSome := by
    decide +kernel
  obtain ⟨pairs, digits⟩ := every ⟨byte.toNat, byte.toNat_lt⟩
  simp only [UInt8.ofNat_toNat, byteWord, List.drop_succ_cons, List.drop_zero] at pairs digits
  simp [byteWord, tryStripHexPrefix, decodeHex, pairs, digits]

theorem byteWord_plain (byte : UInt8) (c : Char) (mem : c ∈ byteWord byte) :
    decide (c = ' ' ∨ c = ',') = false := by
  have every : ∀ number : Fin 256, ((byteWord (UInt8.ofNat number)).all fun c =>
      !decide (c = ' ' ∨ c = ',')) = true := by
    decide +kernel
  have plain := every ⟨byte.toNat, byte.toNat_lt⟩
  simp only [UInt8.ofNat_toNat] at plain
  exact (Bool.not_eq_true' _).mp (List.all_eq_true.mp plain c mem)

theorem decodeHexWithOptionalPrefix_serialize (bytes : List UInt8) :
    decodeHexWithOptionalPrefix ([' '].intercalate (bytes.map byteWord)) = .ok bytes := by
  have parts : ((bytes.map byteWord).mapM fun word =>
      decodeHex ((tryStripHexPrefix word).getD word)) = .ok (bytes.map fun byte => [byte]) := by
    induction bytes with
    | nil => rfl
    | cons byte rest ih =>
      rw [List.map_cons, List.mapM_cons, decodeHex_byteWord, ih]
      rfl
  have words : (([' '].intercalate (bytes.map byteWord)).splitOnP
      fun c => decide (c = ' ' ∨ c = ',')).filter (fun word => !word.isEmpty) =
        bytes.map byteWord := by
    clear parts
    induction bytes with
    | nil => rfl
    | cons byte rest ih =>
      cases rest with
      | nil =>
        rw [List.map_singleton, List.intercalate_singleton,
          List.splitOnP_eq_singleton (byteWord_plain byte)]
        rfl
      | cons next rest =>
        rw [List.map_cons, List.map_cons, List.intercalate_cons_cons, List.append_assoc,
          List.singleton_append, List.splitOnP_append_cons_of_forall_mem (byteWord_plain byte) _
          (by decide), List.filter_cons_of_pos (by rfl)]
        rw [List.map_cons] at ih
        rw [ih]
  simp only [decodeHexWithOptionalPrefix, words, parts]
  simp [Bind.bind, Except.bind, pure, Except.pure, ← List.flatMap_def, List.flatMap_singleton']

end DiagnosticAdapter.Kernel
