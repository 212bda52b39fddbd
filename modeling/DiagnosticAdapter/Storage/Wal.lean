import DiagnosticAdapter.Storage.Operation

/-!
# The write-ahead log

    [u8 magic][u8 status][u16 reserved][u32 header_crc32] [u32 crc32][u32 payload_len][payload] ...

The serialisation of an operation (`rkyv`) and the checksum (`crc32fast`) are
parameters: an operation is read back unchanged, and its serialisation is not
empty.
-/

namespace DiagnosticAdapter.Storage

open Effects

structure Codec where
  toBytes : Operation → Bytes
  fromBytes : Bytes → Except String Operation
  hash : Bytes → UInt32
  fromBytes_toBytes : ∀ operation, fromBytes (toBytes operation) = .ok operation
  toBytes_ne_nil : ∀ operation, toBytes operation ≠ []

def toLeBytes (value : Nat) : Bytes :=
  [UInt8.ofNat value, UInt8.ofNat (value / 256), UInt8.ofNat (value / 65536),
    UInt8.ofNat (value / 16777216)]

def fromLeBytes (b0 b1 b2 b3 : UInt8) : Nat :=
  b0.toNat + 256 * b1.toNat + 65536 * b2.toNat + 16777216 * b3.toNat

theorem fromLeBytes_ofNat {value : Nat} (bounded : value < 4294967296) :
    fromLeBytes (UInt8.ofNat value) (UInt8.ofNat (value / 256)) (UInt8.ofNat (value / 65536))
      (UInt8.ofNat (value / 16777216)) = value := by
  simp only [fromLeBytes, UInt8.toNat_ofNat']
  omega

inductive WalStatus where
  | recording
  | committing
  deriving DecidableEq, Repr

def walMagic : UInt8 := 0xCA
def statusRecording : UInt8 := 0x00
def statusCommitting : UInt8 := 0x01
def walFileHeaderSize : Nat := 8
def entryHeaderSize : Nat := 8

structure WalReadResult where
  operations : List Operation
  truncated : Bool
  deriving DecidableEq, Repr

section Format

variable (codec : Codec)

def computeHeaderChecksum (magic status : UInt8) : Nat := (codec.hash [magic, status]).toNat

def computeChecksum (data : Bytes) : Nat := (codec.hash data).toNat

def encodeHeader (status : UInt8) : Bytes :=
  [walMagic, status, 0x00, 0x00] ++ toLeBytes (computeHeaderChecksum codec walMagic status)

/-- The bytes `append_operation` adds for one operation. -/
def encodeEntry (operation : Operation) : Bytes :=
  let payload := codec.toBytes operation
  toLeBytes (computeChecksum codec payload) ++ toLeBytes payload.length ++ payload

/-- The log with the given status and operations, written completely. -/
def walFile (status : UInt8) (operations : List Operation) : Bytes :=
  encodeHeader codec status ++ operations.flatMap (encodeEntry codec)

/-- `open_wal` on the bytes of an existing file. -/
def walStatus (data : Bytes) : Option WalStatus :=
  match data with
  | magic :: status :: _ :: _ :: c0 :: c1 :: c2 :: c3 :: _ =>
    if magic ≠ walMagic then none
    else if fromLeBytes c0 c1 c2 c3 ≠ computeHeaderChecksum codec magic status then none
    else if status = statusRecording then some .recording
    else if status = statusCommitting then some .committing
    else none
  | _ => none

/-- The loop of `read_wal`, started at `offset` with the bytes from there on. -/
def readEntries (offset : Nat) (rest : Bytes) : Except StorageError WalReadResult :=
  match rest with
  | [] => .ok ⟨[], false⟩
  | c0 :: c1 :: c2 :: c3 :: l0 :: l1 :: l2 :: l3 :: body =>
    let payloadLen := fromLeBytes l0 l1 l2 l3
    if _tooShort : body.length < payloadLen ∨ payloadLen = 0 then .ok ⟨[], true⟩
    else
      let payload := body.take payloadLen
      if fromLeBytes c0 c1 c2 c3 ≠ computeChecksum codec payload then .ok ⟨[], true⟩
      else
        match codec.fromBytes payload with
        | .error error =>
          .error (.other s!"Failed to decode WAL entry at offset {offset}: {error}")
        | .ok operation =>
          match readEntries (offset + entryHeaderSize + payloadLen)
              (body.drop payloadLen) with
          | .error error => .error error
          | .ok later => .ok ⟨operation :: later.operations, later.truncated⟩
  | _ => .ok ⟨[], true⟩
termination_by rest.length
decreasing_by
  simp only [List.length_drop, List.length_cons]
  omega

def readWal (data : Bytes) : Except StorageError WalReadResult :=
  readEntries codec walFileHeaderSize (data.drop walFileHeaderSize)

def Disk.appendOperation (operation : Operation) (disk : Disk) : Except StorageError Disk :=
  if 4294967296 ≤ (codec.toBytes operation).length then
    .error (.other "WAL entry payload exceeds u32::MAX bytes")
  else
    match disk.wal with
    | none => .error (.io .notFound)
    | some data => .ok { disk with wal := some (data ++ encodeEntry codec operation) }

def Disk.markCommitting (disk : Disk) : Except StorageError Disk :=
  match disk.wal with
  | none => .error (.io .notFound)
  | some data =>
    .ok { disk with wal := some (encodeHeader codec statusCommitting ++
      data.drop walFileHeaderSize) }

def createWal : FileM Unit :=
  call fun disk => .ok { disk with wal := some (encodeHeader codec statusRecording) }

def appendOperation (operation : Operation) : FileM Unit :=
  call (Disk.appendOperation codec operation)

def markCommitting : FileM Unit := call (Disk.markCommitting codec)

def walExists : FileM Bool := Program.look fun disk => disk.wal.isSome

def removeWal : FileM Unit := call Disk.removeWal

def openWal : FileM (Option (WalStatus × Bytes)) := do
  if ← walExists then
    sync
    Program.look fun disk => disk.wal.bind fun data =>
      (walStatus codec data).map fun status => (status, data)
  else
    pure none

/-- The operations whose entries lie completely within the first `budget`
bytes after the header. -/
def entriesWithin : List Operation → Nat → List Operation
  | [], _ => []
  | operation :: rest, budget =>
    if (encodeEntry codec operation).length ≤ budget then
      operation :: entriesWithin rest (budget - (encodeEntry codec operation).length)
    else []

/-- Whether cutting after `budget` bytes leaves a part of an entry. -/
def cutsEntry : List Operation → Nat → Bool
  | [], _ => false
  | operation :: rest, budget =>
    if (encodeEntry codec operation).length ≤ budget then
      cutsEntry rest (budget - (encodeEntry codec operation).length)
    else decide (0 < budget)

end Format

section ReadBack

variable {codec : Codec}

theorem length_encodeHeader (status : UInt8) :
    (encodeHeader codec status).length = walFileHeaderSize := by
  simp [encodeHeader, toLeBytes, walFileHeaderSize]

theorem length_encodeEntry (operation : Operation) : (encodeEntry codec operation).length =
      entryHeaderSize + (codec.toBytes operation).length := by
  simp [encodeEntry, toLeBytes, entryHeaderSize]
  omega

theorem walStatus_encodeHeader_append (tail : Bytes) :
    walStatus codec (encodeHeader codec statusCommitting ++ tail) = some .committing := by
  have bounded : computeHeaderChecksum codec walMagic statusCommitting < 4294967296 :=
    UInt32.toNat_lt _
  have distinct : statusCommitting ≠ statusRecording := by decide
  simp [encodeHeader, toLeBytes, walStatus, fromLeBytes_ofNat bounded, distinct]

theorem walStatus_encodeHeader_recording (tail : Bytes) :
    walStatus codec (encodeHeader codec statusRecording ++ tail) = some .recording := by
  have bounded : computeHeaderChecksum codec walMagic statusRecording < 4294967296 :=
    UInt32.toNat_lt _
  simp [encodeHeader, toLeBytes, walStatus, fromLeBytes_ofNat bounded]

theorem walStatus_walFile (operations : List Operation) :
    walStatus codec (walFile codec statusCommitting operations) = some .committing :=
  walStatus_encodeHeader_append _

theorem readEntries_encodeEntry_append (offset : Nat) (operation : Operation) (tail : Bytes)
    (fits : (codec.toBytes operation).length < 4294967296) :
    readEntries codec offset (encodeEntry codec operation ++ tail) =
      match readEntries codec (offset + (encodeEntry codec operation).length) tail with
      | .error error => .error error
      | .ok later => .ok ⟨operation :: later.operations, later.truncated⟩ := by
  have checksumBound : computeChecksum codec (codec.toBytes operation) < 4294967296 :=
    UInt32.toNat_lt _
  have nonempty : (codec.toBytes operation).length ≠ 0 := by
    simpa using codec.toBytes_ne_nil operation
  rw [length_encodeEntry, ← Nat.add_assoc]
  simp only [encodeEntry, toLeBytes, List.cons_append, List.nil_append]
  rw [readEntries]
  have enough : ¬ ((codec.toBytes operation ++ tail).length <
      (codec.toBytes operation).length ∨ (codec.toBytes operation).length = 0) := by
    simp only [List.length_append]
    omega
  simp only [fromLeBytes_ofNat fits, fromLeBytes_ofNat checksumBound, dif_neg enough,
    List.take_left, List.drop_left, ne_eq, not_true_eq_false, if_false,
    codec.fromBytes_toBytes]

theorem readEntries_take_encodeEntry (offset budget : Nat) (operation : Operation)
    (tail : Bytes) (fits : (codec.toBytes operation).length < 4294967296)
    (positive : 0 < budget) (partly : budget < (encodeEntry codec operation).length) :
    readEntries codec offset ((encodeEntry codec operation ++ tail).take budget) =
      .ok ⟨[], true⟩ := by
  have inEntry : (encodeEntry codec operation ++ tail).take budget =
      (encodeEntry codec operation).take budget :=
    List.take_append_of_le_length (le_of_lt partly)
  rw [inEntry]
  rw [length_encodeEntry] at partly
  by_cases short : budget < entryHeaderSize
  · have lengths : ((encodeEntry codec operation).take budget).length = budget := by
      simp [length_encodeEntry]
      omega
    rw [readEntries.eq_def]
    split
    · rename_i empty
      rw [empty] at lengths
      simp at lengths
      omega
    · rename_i whole
      rw [whole] at lengths
      simp [entryHeaderSize] at lengths short
      omega
    · rfl
  · obtain ⟨extra, rfl⟩ : ∃ extra, budget = extra + entryHeaderSize :=
      ⟨budget - entryHeaderSize, by omega⟩
    have cutLength : extra < (codec.toBytes operation).length := by omega
    simp only [encodeEntry, toLeBytes, List.cons_append, List.nil_append, entryHeaderSize,
      List.take_succ_cons]
    rw [readEntries]
    have tooShort : ((codec.toBytes operation).take extra).length <
        (codec.toBytes operation).length ∨ (codec.toBytes operation).length = 0 := by
      simp only [List.length_take]
      omega
    simp only [fromLeBytes_ofNat fits, dif_pos tooShort]

/-- What the loop finds when the log is cut after `budget` bytes of entries. -/
theorem readEntries_take (operations : List Operation)
    (fits : ∀ operation ∈ operations, (codec.toBytes operation).length < 4294967296)
    (offset budget : Nat) :
    readEntries codec offset ((operations.flatMap (encodeEntry codec)).take budget) =
      .ok ⟨entriesWithin codec operations budget, cutsEntry codec operations budget⟩ := by
  induction operations generalizing offset budget with
  | nil => simp [readEntries, entriesWithin, cutsEntry]
  | cons operation rest ih =>
    have headFits := fits operation (by simp)
    have restFits := fun later mem => fits later (List.mem_cons_of_mem operation mem)
    rw [List.flatMap_cons, entriesWithin, cutsEntry]
    by_cases whole : (encodeEntry codec operation).length ≤ budget
    · rw [if_pos whole, if_pos whole, List.take_append, List.take_of_length_le whole,
        readEntries_encodeEntry_append _ _ _ headFits, ih restFits]
    · rw [if_neg whole, if_neg whole]
      by_cases positive : 0 < budget
      · rw [readEntries_take_encodeEntry _ _ _ _ headFits positive (not_le.mp whole)]
        simp [positive]
      · have zero : budget = 0 := by omega
        subst zero
        simp [readEntries]

theorem entriesWithin_all (operations : List Operation) (budget : Nat)
    (enough : (operations.flatMap (encodeEntry codec)).length ≤ budget) :
    entriesWithin codec operations budget = operations ∧
      cutsEntry codec operations budget = false := by
  induction operations generalizing budget with
  | nil => simp [entriesWithin, cutsEntry]
  | cons operation rest ih =>
    simp only [List.flatMap_cons, List.length_append] at enough
    have whole : (encodeEntry codec operation).length ≤ budget := by omega
    obtain ⟨all, uncut⟩ :=
      ih (budget - (encodeEntry codec operation).length) (by omega)
    simp [entriesWithin, cutsEntry, whole, all, uncut]

theorem readWal_walFile (status : UInt8) (operations : List Operation)
    (fits : ∀ operation ∈ operations, (codec.toBytes operation).length < 4294967296) :
    readWal codec (walFile codec status operations) = .ok ⟨operations, false⟩ := by
  have whole := readEntries_take operations fits walFileHeaderSize
    (operations.flatMap (encodeEntry codec)).length
  obtain ⟨all, uncut⟩ := @entriesWithin_all codec operations _ le_rfl
  rw [List.take_length, all, uncut] at whole
  have header : (encodeHeader codec status).drop walFileHeaderSize = [] :=
    List.drop_eq_nil_of_le (le_of_eq (length_encodeHeader status))
  simpa [readWal, walFile, List.drop_append, length_encodeHeader, header] using whole

end ReadBack

end DiagnosticAdapter.Storage
