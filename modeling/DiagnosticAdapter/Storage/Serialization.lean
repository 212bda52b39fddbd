import DiagnosticAdapter.Storage.Wal

/-!
# A serialisation of operations

A byte format for operations that is read back unchanged.  It stands for the
archive format of the source wherever a log is evaluated.
-/

namespace DiagnosticAdapter.Storage

/-- Each letter is marked by `1` and takes three bytes; `0` ends the name. -/
def serializeName : FileName → Bytes
  | [] => [0]
  | letter :: rest =>
    1 :: UInt8.ofNat letter.toNat :: UInt8.ofNat (letter.toNat / 256) ::
      UInt8.ofNat (letter.toNat / 65536) :: serializeName rest

def deserializeName : Bytes → Option (FileName × Bytes)
  | 0 :: rest => some ([], rest)
  | _ :: b0 :: b1 :: b2 :: rest =>
    (deserializeName rest).map fun parsed =>
      (Char.ofNat (b0.toNat + 256 * b1.toNat + 65536 * b2.toNat) :: parsed.1, parsed.2)
  | _ => none

theorem deserializeName_serializeName (name : FileName) (tail : Bytes) :
    deserializeName (serializeName name ++ tail) = some (name, tail) := by
  induction name with
  | nil => rfl
  | cons letter rest ih =>
    have bounded : letter.toNat < 1114112 := by
      have valid := letter.valid
      simp only [UInt32.isValidChar, Nat.isValidChar] at valid
      simp only [Char.toNat]
      omega
    have whole : letter.toNat % 256 + 256 * (letter.toNat / 256 % 256) +
        65536 * (letter.toNat / 65536 % 256) = letter.toNat := by omega
    simp [serializeName, deserializeName, ih, UInt8.toNat_ofNat', whole, Char.ofNat_toNat]

def serializeCollection : CollectionName → Bytes
  | .diagnosticDatabase => [0]
  | .diagnosticDatabaseNextUpdate => [1]
  | .diagnosticDatabaseBackup => [2]
  | .custom name => 3 :: serializeName name

def deserializeCollection : Bytes → Option (CollectionName × Bytes)
  | 0 :: rest => some (.diagnosticDatabase, rest)
  | 1 :: rest => some (.diagnosticDatabaseNextUpdate, rest)
  | 2 :: rest => some (.diagnosticDatabaseBackup, rest)
  | _ :: rest => (deserializeName rest).map fun parsed => (.custom parsed.1, parsed.2)
  | [] => none

theorem deserializeCollection_serializeCollection (name : CollectionName) (tail : Bytes) :
    deserializeCollection (serializeCollection name ++ tail) = some (name, tail) := by
  cases name with
  | custom name =>
    simp [serializeCollection, deserializeCollection, deserializeName_serializeName]
  | _ => rfl

def serialize : Operation → Bytes
  | .write collection key stagedPath =>
    0 :: (serializeCollection collection ++ serializeName key ++ serializeName stagedPath)
  | .delete collection key => 1 :: (serializeCollection collection ++ serializeName key)
  | .deleteAll collection => 2 :: serializeCollection collection
  | .createCollection name => 3 :: serializeCollection name
  | .deleteCollection name => 4 :: serializeCollection name
  | .copyCollection source dest destExisted =>
    (if destExisted then 5 else 6) :: (serializeCollection source ++ serializeCollection dest)

def deserialize : Bytes → Option Operation
  | tag :: rest => do
    let (collection, rest) ← deserializeCollection rest
    if tag = 0 then
      let (key, rest) ← deserializeName rest
      let (stagedPath, _) ← deserializeName rest
      pure (.write collection key stagedPath)
    else if tag = 1 then
      let (key, _) ← deserializeName rest
      pure (.delete collection key)
    else if tag = 2 then pure (.deleteAll collection)
    else if tag = 3 then pure (.createCollection collection)
    else if tag = 4 then pure (.deleteCollection collection)
    else
      let (dest, _) ← deserializeCollection rest
      pure (.copyCollection collection dest (tag = 5))
  | [] => none

theorem deserialize_serialize (operation : Operation) :
    deserialize (serialize operation) = some operation := by
  have whole := fun name => deserializeCollection_serializeCollection name []
  have wholeName := fun name => deserializeName_serializeName name []
  simp only [List.append_nil] at whole wholeName
  cases operation with
  | write collection key stagedPath =>
    simp [serialize, deserialize, deserializeCollection_serializeCollection,
      deserializeName_serializeName, wholeName]
  | delete collection key =>
    simp [serialize, deserialize, deserializeCollection_serializeCollection, wholeName]
  | copyCollection source dest destExisted =>
    cases destExisted <;>
      simp [serialize, deserialize, deserializeCollection_serializeCollection, whole]
  | _ => simp [serialize, deserialize, whole]

def plainCodec : Codec where
  toBytes := serialize
  fromBytes data :=
    match deserialize data with
    | some operation => .ok operation
    | none => .error "invalid operation"
  hash data := data.foldl (fun sum byte => 31 * sum + byte.toUInt32) 7
  fromBytes_toBytes operation := by rw [deserialize_serialize]
  toBytes_ne_nil operation := by cases operation <;> simp [serialize]

end DiagnosticAdapter.Storage
