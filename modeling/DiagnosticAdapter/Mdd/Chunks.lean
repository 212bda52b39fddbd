import DiagnosticAdapter.Effects.Stateful
import Mathlib.Data.List.ReduceOption

/-!
# The chunks of a file

`load_proto_data` reads the chunks of a file that the load configurations ask for, with or
without their data, and `load_chunk_data` the data of one chunk by its type and name.
-/

namespace DiagnosticAdapter.Mdd

open Effects

abbrev Bytes := List UInt8

/-- `fileformat::Chunk`, as far as the adapter looks at it. -/
structure ProtoChunk where
  type_ : Int
  name : Option String
  compressionAlgorithm : Option String
  uncompressedSize : Option Nat
  data : Option Bytes
  mimeType : Option String
  deriving DecidableEq, Repr

structure MddFile where
  ecuName : String
  chunks : List ProtoChunk
  deriving DecidableEq, Repr

inductive MddError where
  | io (message : String)
  | parsing (message : String)
  | missingData (message : String)
  | invalidParameter (message : String)
  deriving DecidableEq, Repr

inductive ChunkType where
  | diagnosticDescription
  | codeFile
  | codeFilePartial
  | embeddedFile
  | vendorSpecific
  deriving DecidableEq, Repr

structure ChunkMetaData where
  type_ : ChunkType
  name : String
  uncompressedSize : Nat
  contentType : Option String
  deriving DecidableEq, Repr

structure Chunk where
  payload : Option Bytes
  metaData : ChunkMetaData
  deriving DecidableEq, Repr

structure ProtoLoadConfig where
  loadData : Bool
  type_ : ChunkType
  /-- If set, only chunks of this name are read. -/
  name : Option String
  deriving DecidableEq, Repr

/-- What the libraries do with the bytes of a file and of its chunks. -/
structure Formats where
  decode : Bytes → Except String MddFile
  encode : MddFile → Bytes
  lzma : Bytes → Except String Bytes
  sha512 : Bytes → Bytes
  toLowercase : String → String

abbrev Disk := String → Option Bytes

structure MapFaults where
  openFile : Option String
  mmap : Option String
  deriving DecidableEq, Repr

def MapFaults.none : MapFaults := ⟨Option.none, Option.none⟩

/-- "MDD version 0", padded to twenty bytes. -/
def fileMagicBytes : Bytes :=
  [0x4D, 0x44, 0x44, 0x20, 0x76, 0x65, 0x72, 0x73, 0x69, 0x6F, 0x6E, 0x20, 0x30, 0x20, 0x20,
    0x20, 0x20, 0x20, 0x20, 0x00]

def chunkDataType (number : Int) : Option ChunkType :=
  if number = 0 then some .diagnosticDescription
  else if number = 1 then some .codeFile
  else if number = 2 then some .codeFilePartial
  else if number = 3 then some .embeddedFile
  else if number = 1024 then some .vendorSpecific
  else none

section Loading

variable (formats : Formats)

def decompressChunkData (data : Bytes) (compressionAlgorithm : Option String)
    (chunkName : String) : Except MddError Bytes :=
  match compressionAlgorithm.map formats.toLowercase with
  | none => .ok data
  | some algorithm =>
    if algorithm = "lzma" then
      match formats.lzma data with
      | .ok decoded => .ok decoded
      | .error error => .error (.io s!"Failed to decompress chunk data: {error}")
    else .error (.parsing
      s!"Unsupported compression algorithm '{algorithm}' for chunk '{chunkName}'")

def ProtoChunk.decompressed (chunk : ProtoChunk) : Except MddError (Option Bytes) :=
  match chunk.data with
  | none => .ok none
  | some data => some <$> decompressChunkData formats data chunk.compressionAlgorithm
      (chunk.name.getD "unknown")

/-- The part of `mmap_and_decode_mdd` behind the mapping. -/
def decodeMdd (content : Bytes) : Except MddError MddFile :=
  if content.length < fileMagicBytes.length then
    .error (.parsing "Invalid file format: file too small")
  else if content.take fileMagicBytes.length ≠ fileMagicBytes then
    .error (.parsing "Invalid file format: Magic Byte mismatch")
  else
    match formats.decode (content.drop fileMagicBytes.length) with
    | .ok file => .ok file
    | .error error => .error (.parsing s!"Failed to parse MDD file: {error}")

def mmapAndDecodeMdd (faults : MapFaults) (disk : Disk) (mddPath : String) :
    Except MddError MddFile :=
  match faults.openFile, disk mddPath with
  | some error, _ => .error (.io s!"Failed to open MDD file '{mddPath}': {error}")
  | none, none =>
    .error (.io s!"Failed to open MDD file '{mddPath}': No such file or directory (os error 2)")
  | none, some content =>
    match faults.mmap with
    | some error => .error (.io s!"Failed to mmap MDD file '{mddPath}': {error}")
    | none => decodeMdd formats content

/-- The chunk is of the type and has the name that the configuration asks for. -/
def ProtoLoadConfig.Asks (chunkInfo : ProtoLoadConfig) (protoChunk : ProtoChunk) : Prop :=
  chunkDataType protoChunk.type_ = some chunkInfo.type_ ∧
    ∀ name ∈ chunkInfo.name, protoChunk.name = some name

instance (chunkInfo : ProtoLoadConfig) (protoChunk : ProtoChunk) :
    Decidable (chunkInfo.Asks protoChunk) :=
  inferInstanceAs (Decidable (_ ∧ _))

def ProtoChunk.metaData (protoChunk : ProtoChunk) (type_ : ChunkType) : ChunkMetaData :=
  ⟨type_, protoChunk.name.getD "", protoChunk.uncompressedSize.getD 0, protoChunk.mimeType⟩

/-- The chunk that is reported, if any: one without data is left out when data is loaded. -/
def loadProtoChunk (chunkInfo : ProtoLoadConfig) (protoChunk : ProtoChunk) :
    Except MddError (Option Chunk) :=
  if chunkInfo.loadData then do
    let data ← protoChunk.decompressed formats
    return data.map fun data => ⟨some data, protoChunk.metaData chunkInfo.type_⟩
  else .ok (some ⟨none, protoChunk.metaData chunkInfo.type_⟩)

def loadChunks (mddFile : MddFile) (chunkInfo : ProtoLoadConfig) :
    Except MddError (List Chunk) := do
  let chunks ← (mddFile.chunks.filter (chunkInfo.Asks ·)).mapM (loadProtoChunk formats chunkInfo)
  return chunks.reduceOption

abbrev ChunkMap := ChunkType → Option (List Chunk)

def collectChunks (entries : List (ChunkType × List Chunk)) : ChunkMap :=
  entries.foldl (fun map entry => Function.update map entry.1 (some entry.2)) fun _ => none

def loadDecoded (mddFile : MddFile) (loadInfo : List ProtoLoadConfig) :
    Except MddError (String × ChunkMap) := do
  let protoData ← loadInfo.mapM fun chunkInfo => do
    let chunks ← loadChunks formats mddFile chunkInfo
    return (chunkInfo.type_, chunks)
  return (mddFile.ecuName, collectChunks protoData)

def loadProtoData (faults : MapFaults) (disk : Disk) (mddFilePath : String)
    (loadInfo : List ProtoLoadConfig) : Except MddError (String × ChunkMap) := do
  let mddFile ← mmapAndDecodeMdd formats faults disk mddFilePath
  loadDecoded formats mddFile loadInfo

def loadChunkData (faults : MapFaults) (disk : Disk) (mddFile : String)
    (metaData : ChunkMetaData) : Except MddError Bytes := do
  let (_, data) ← loadProtoData formats faults disk mddFile
    [⟨true, metaData.type_, some metaData.name⟩]
  match ((data metaData.type_).bind List.head?).bind (·.payload) with
  | some payload => return payload
  | none => throw (.missingData s!"Chunk data with name {metaData.name} found in MDD file")

end Loading

section Loaded

variable {formats : Formats} {mddFile : MddFile} {chunkInfo : ProtoLoadConfig}
  {faults : MapFaults} {disk : Disk} {mddPath : String}

section

variable {α β : Type} {items : List α}

theorem mapM_ok_eq_map {f : α → Except MddError β} {g : α → β}
    (each : ∀ item ∈ items, f item = .ok (g item)) : items.mapM f = .ok (items.map g) := by
  induction items with
  | nil => rfl
  | cons item rest ih =>
    rw [List.mapM_cons, each item List.mem_cons_self,
      ih fun other mem => each other (List.mem_cons_of_mem _ mem)]
    rfl

theorem mapM_congr {f g : α → Except MddError β} (each : ∀ item ∈ items, f item = g item) :
    items.mapM f = items.mapM g := by
  induction items with
  | nil => rfl
  | cons item rest ih =>
    rw [List.mapM_cons, List.mapM_cons, each item List.mem_cons_self,
      ih fun other mem => each other (List.mem_cons_of_mem _ mem)]

theorem exists_mapM_ok_iff {f : α → Except MddError β} :
    (∃ results, items.mapM f = .ok results) ↔ ∀ item ∈ items, ∃ result, f item = .ok result := by
  induction items with
  | nil => simp [pure, Except.pure]
  | cons item rest ih =>
    rw [List.forall_mem_cons, ← ih, List.mapM_cons]
    cases f item <;> cases rest.mapM f <;> simp [Bind.bind, Except.bind, pure, Except.pure]

end

theorem collectChunks_single (type_ : ChunkType) (chunks : List Chunk) :
    collectChunks [(type_, chunks)] type_ = some chunks := by
  simp [collectChunks]

theorem decompressed_none_iff {protoChunk : ProtoChunk} :
    protoChunk.decompressed formats = .ok none ↔ protoChunk.data = none := by
  rw [ProtoChunk.decompressed]
  cases protoChunk.data with
  | none => simp
  | some data =>
    dsimp only
    cases decompressChunkData formats data protoChunk.compressionAlgorithm
      (protoChunk.name.getD "unknown") <;> simp [Functor.map, Except.map]

theorem loadChunks_withoutData (listing : chunkInfo.loadData = false) :
    loadChunks formats mddFile chunkInfo =
      .ok ((mddFile.chunks.filter (chunkInfo.Asks ·)).map fun protoChunk =>
        ⟨none, protoChunk.metaData chunkInfo.type_⟩) := by
  have each : ∀ protoChunk ∈ mddFile.chunks.filter (chunkInfo.Asks ·),
      loadProtoChunk formats chunkInfo protoChunk =
        .ok (some ⟨none, protoChunk.metaData chunkInfo.type_⟩) := by
    intro protoChunk _
    simp [loadProtoChunk, listing]
  have some_map (chunks : List ProtoChunk) :
      (chunks.map fun protoChunk => some (Chunk.mk none (protoChunk.metaData chunkInfo.type_))) =
        (chunks.map fun protoChunk => Chunk.mk none (protoChunk.metaData chunkInfo.type_)).map
          some := by
    rw [List.map_map]
    rfl
  rw [loadChunks, mapM_ok_eq_map each, some_map]
  simp [Bind.bind, Except.bind, pure, Except.pure, List.reduceOption]

theorem mmapAndDecodeMdd_eq_ok_iff {file : MddFile} :
    mmapAndDecodeMdd formats faults disk mddPath = .ok file ↔
      faults = .none ∧ ∃ content, disk mddPath = some content ∧
        decodeMdd formats content = .ok file := by
  obtain ⟨openFile, mmap⟩ := faults
  cases openFile <;> cases mmap <;> cases found : disk mddPath <;>
    simp [mmapAndDecodeMdd, MapFaults.none, found]

end Loaded

end DiagnosticAdapter.Mdd
