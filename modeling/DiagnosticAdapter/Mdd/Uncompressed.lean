import DiagnosticAdapter.Mdd.Chunks
import Mathlib.Data.Countable.Basic
import Mathlib.Logic.Equiv.List

/-!
# Rewriting a file without compression

`update_mdd_uncompressed` decompresses the data of the chunks, writes a file beside the old
one, reads it back and renames it. It drops the size of every chunk with data and keeps the
algorithm of a chunk without data.
-/

namespace DiagnosticAdapter.Mdd

open Effects Function

/-- The errors of the steps on the disk; a failed write may leave a part of the file. -/
structure RewriteFaults where
  check : MapFaults
  read : Option String
  write : Option (String × Bytes)
  verify : MapFaults
  removeFile : Option String
  rename : Option String
  deriving DecidableEq, Repr

section Rewrite

variable (formats : Formats)

def rewriteChunk (chunk : ProtoChunk) : Except MddError ProtoChunk :=
  match chunk.data with
  | none => .ok chunk
  | some chunkData => do
    let decompressed ← decompressChunkData formats chunkData chunk.compressionAlgorithm
      (chunk.name.getD "unknown")
    return { chunk with
      data := some decompressed, compressionAlgorithm := none, uncompressedSize := none }

def chunkHashes (mddFile : MddFile) : List (Option Bytes) :=
  mddFile.chunks.map fun chunk => chunk.data.map formats.sha512

def verifyMddChunkChecksums (faults : MapFaults) (disk : Disk) (mddFilePath : String)
    (expectedHashes : List (Option Bytes)) : Except MddError PUnit := do
  let mddFile ← mmapAndDecodeMdd formats faults disk mddFilePath
  if mddFile.chunks.length ≠ expectedHashes.length then
    throw (.parsing (s!"Verification failed: chunk count mismatch (expected " ++
      s!"{expectedHashes.length}, got {mddFile.chunks.length})"))
  match ((chunkHashes formats mddFile).zip expectedHashes).findIdx? fun (actual, expected) =>
      actual ≠ expected with
  | some i =>
    throw (.parsing
      s!"Verification failed: SHA-512 mismatch for chunk {i} in '{mddFilePath}'")
  | none => return ⟨⟩

def needsDecompression (mddFile : MddFile) : Bool :=
  mddFile.chunks.any (·.compressionAlgorithm.isSome)

/-- The file that is to be written, after the check. -/
def decompressMdd (read : Option String) (disk : Disk) (mddPath : String) :
    Except MddError MddFile := do
  let data ← match read, disk mddPath with
    | some error, _ => throw (.io s!"Failed to read MDD file '{mddPath}': {error}")
    | none, none => throw (.io
        s!"Failed to read MDD file '{mddPath}': No such file or directory (os error 2)")
    | none, some data => pure data
  if data.length < fileMagicBytes.length then
    throw (.parsing "Invalid file format: no data after magic")
  match formats.decode (data.drop fileMagicBytes.length) with
  | .error error => throw (.parsing s!"Failed to parse MDD file: {error}")
  | .ok protoFile =>
    let chunks ← protoFile.chunks.mapM (rewriteChunk formats)
    return { protoFile with chunks := chunks }

def tmpPath (mddPath : String) : String := mddPath ++ ".tmp"

/-- Errors of removing the temporary file are only logged. -/
def removeTmp (removeFile : Option String) (disk : Disk) (mddPath : String) : Disk :=
  if removeFile.isSome then disk else update disk (tmpPath mddPath) none

def writeMdd (faults : RewriteFaults) (disk : Disk) (mddPath : String) (protoFile : MddFile) :
    Except MddError Bool × Disk :=
  let out := fileMagicBytes ++ formats.encode protoFile
  match faults.write with
  | some (error, part) =>
    (.error (.io s!"Failed to write temporary MDD file '{tmpPath mddPath}': {error}"),
      update disk (tmpPath mddPath) (some part))
  | none =>
    let written := update disk (tmpPath mddPath) (some out)
    match verifyMddChunkChecksums formats faults.verify written (tmpPath mddPath)
        (chunkHashes formats protoFile) with
    | .error error => (.error error, removeTmp faults.removeFile written mddPath)
    | .ok _ =>
      match faults.rename with
      | some error =>
        (.error (.io s!"Failed to rename temporary MDD file to '{mddPath}': {error}"),
          removeTmp faults.removeFile written mddPath)
      | none =>
        (.ok true, update (update written mddPath (written (tmpPath mddPath)))
          (tmpPath mddPath) none)

def updateMddUncompressed (faults : RewriteFaults) (disk : Disk) (mddPath : String) :
    Except MddError Bool × Disk :=
  match mmapAndDecodeMdd formats faults.check disk mddPath with
  | .error error => (.error error, disk)
  | .ok protoFile =>
    if needsDecompression protoFile then
      match decompressMdd formats faults.read disk mddPath with
      | .error error => (.error error, disk)
      | .ok protoFile => writeMdd formats faults disk mddPath protoFile
    else (.ok false, disk)

/-- After success the file loads as before and is not written again; after an error it is the
same. -/
def PreservesMdd (faults : RewriteFaults) (disk : Disk) (mddPath : String) : Prop :=
  let (outcome, after) := updateMddUncompressed formats faults disk mddPath
  (∀ rewritten, outcome = .ok rewritten →
      (∀ mapFaults loadInfo, loadProtoData formats mapFaults after mddPath loadInfo =
        loadProtoData formats mapFaults disk mddPath loadInfo) ∧
      ∀ later : RewriteFaults, later.check = .none →
        (updateMddUncompressed formats later after mddPath).1 = .ok false) ∧
    ∀ error, outcome = .error error → after mddPath = disk mddPath

/-- The file is compressed and valid, and every step of the rewriting succeeds. -/
structure IsRewritten (faults : RewriteFaults) (disk : Disk) (mddPath : String)
    (mddFile : MddFile) : Prop where
  decoded : mmapAndDecodeMdd formats faults.check disk mddPath = .ok mddFile
  compressed : needsDecompression mddFile
  decompresses : ∀ chunk ∈ mddFile.chunks, ∃ data, chunk.decompressed formats = .ok data
  read : faults.read = none
  write : faults.write = none
  verify : faults.verify = .none
  rename : faults.rename = none

end Rewrite

/-- A chunk without data has no algorithm, and one with data that can be loaded no size. -/
def ProtoChunk.KeptByRewrite (chunk : ProtoChunk) : Prop :=
  (chunk.data = none → chunk.compressionAlgorithm = none) ∧
    (chunk.data.isSome → (chunkDataType chunk.type_).isSome → chunk.uncompressedSize.getD 0 = 0)

section Rewritten

variable {formats : Formats} {mddFile : MddFile} {faults : RewriteFaults} {disk : Disk}
  {mddPath : String}

def rewrittenChunk (formats : Formats) (chunk : ProtoChunk) : ProtoChunk :=
  match chunk.decompressed formats with
  | .ok (some data) =>
    { chunk with data := some data, compressionAlgorithm := none, uncompressedSize := none }
  | _ => chunk

def rewrittenFile (formats : Formats) (mddFile : MddFile) : MddFile :=
  ⟨mddFile.ecuName, mddFile.chunks.map (rewrittenChunk formats)⟩

theorem rewriteChunk_eq (chunk : ProtoChunk) : rewriteChunk formats chunk =
      (chunk.decompressed formats).map fun _ => rewrittenChunk formats chunk := by
  rw [rewriteChunk, rewrittenChunk, ProtoChunk.decompressed]
  cases chunk.data with
  | none => rfl
  | some data =>
    dsimp only
    cases decompressChunkData formats data chunk.compressionAlgorithm
      (chunk.name.getD "unknown") <;> rfl

theorem mapM_rewriteChunk_eq_ok_iff {chunks rewritten : List ProtoChunk} :
    chunks.mapM (rewriteChunk formats) = .ok rewritten ↔
      (∀ chunk ∈ chunks, ∃ data, chunk.decompressed formats = .ok data) ∧
        rewritten = chunks.map (rewrittenChunk formats) := by
  have all (each : ∀ chunk ∈ chunks, ∃ data, chunk.decompressed formats = .ok data) :
      chunks.mapM (rewriteChunk formats) = .ok (chunks.map (rewrittenChunk formats)) := by
    apply mapM_ok_eq_map
    intro chunk mem
    obtain ⟨data, read⟩ := each chunk mem
    rw [rewriteChunk_eq, read]
    rfl
  constructor
  · intro done
    have each : ∀ chunk ∈ chunks, ∃ data, chunk.decompressed formats = .ok data := by
      intro chunk mem
      obtain ⟨result, one⟩ := exists_mapM_ok_iff.mp ⟨rewritten, done⟩ chunk mem
      rw [rewriteChunk_eq] at one
      cases read : chunk.decompressed formats with
      | ok data => exact ⟨data, rfl⟩
      | error error =>
        rw [read] at one
        cases one
    exact ⟨each, Except.ok.inj (done.symm.trans (all each))⟩
  · rintro ⟨each, rfl⟩
    exact all each

theorem tmpPath_ne (mddPath : String) : tmpPath mddPath ≠ mddPath := by
  intro same
  have length := congrArg String.length same
  rw [tmpPath, String.length_append] at length
  have four : ".tmp".length = 4 := by decide
  omega

theorem decodeMdd_eq_ok_iff {content : Bytes} : decodeMdd formats content = .ok mddFile ↔
      ¬content.length < fileMagicBytes.length ∧
        content.take fileMagicBytes.length = fileMagicBytes ∧
        formats.decode (content.drop fileMagicBytes.length) = .ok mddFile := by
  rw [decodeMdd]
  split_ifs with short magic
  · simp [short]
  · simp [magic]
  · cases formats.decode (content.drop fileMagicBytes.length) <;> simp_all

theorem decompressMdd_eq_ok_iff {check : MapFaults} {read : Option String} {result : MddFile}
    (decoded : mmapAndDecodeMdd formats check disk mddPath = .ok mddFile) :
    decompressMdd formats read disk mddPath = .ok result ↔
      read = none ∧ (∀ chunk ∈ mddFile.chunks, ∃ data, chunk.decompressed formats = .ok data) ∧
        result = rewrittenFile formats mddFile := by
  obtain ⟨_, content, present, valid⟩ := mmapAndDecodeMdd_eq_ok_iff.mp decoded
  obtain ⟨long, _, payload⟩ := decodeMdd_eq_ok_iff.mp valid
  cases read with
  | some error =>
    simp [decompressMdd, throw, throwThe, MonadExceptOf.throw, Bind.bind, Except.bind]
  | none =>
    have unfolded : decompressMdd formats none disk mddPath =
        mddFile.chunks.mapM (rewriteChunk formats) >>= fun chunks =>
          .ok { mddFile with chunks := chunks } := by
      simp only [decompressMdd, present, pure_bind, payload, if_neg long]
      rfl
    rw [unfolded, except_bind_eq_ok_iff]
    simp only [mapM_rewriteChunk_eq_ok_iff, Except.ok.injEq, true_and]
    constructor
    · rintro ⟨chunks, ⟨each, rfl⟩, rfl⟩
      exact ⟨each, rfl⟩
    · rintro ⟨each, rfl⟩
      exact ⟨_, ⟨each, rfl⟩, rfl⟩

section Written

variable (decodes : ∀ file, formats.decode (formats.encode file) = .ok file)

include decodes

theorem decodeMdd_written (file : MddFile) :
    decodeMdd formats (fileMagicBytes ++ formats.encode file) = .ok file := by
  rw [decodeMdd_eq_ok_iff, List.drop_left]
  exact ⟨by simp, by simp, decodes file⟩

theorem verify_written_iff (mapFaults : MapFaults) (file : MddFile) :
    verifyMddChunkChecksums formats mapFaults
        (update disk (tmpPath mddPath) (some (fileMagicBytes ++ formats.encode file)))
        (tmpPath mddPath) (chunkHashes formats file) = .ok ⟨⟩ ↔ mapFaults = .none := by
  have zip_self (hashes : List (Option Bytes)) :
      (hashes.zip hashes).findIdx? (fun (actual, expected) => actual ≠ expected) = none := by
    rw [List.findIdx?_eq_none_iff]
    intro pair mem
    have equal : pair.1 = pair.2 := by
      induction hashes with
      | nil => cases mem
      | cons hash rest ih =>
        rcases List.mem_cons.mp mem with rfl | later
        · rfl
        · exact ih later
    simp [equal]
  rw [verifyMddChunkChecksums, except_bind_eq_ok_iff]
  constructor
  · rintro ⟨read, opened, _⟩
    exact (mmapAndDecodeMdd_eq_ok_iff.mp opened).1
  · rintro rfl
    refine ⟨file, ?_, ?_⟩
    · rw [mmapAndDecodeMdd_eq_ok_iff]
      exact ⟨rfl, _, update_self .., decodeMdd_written decodes file⟩
    · have length : file.chunks.length = (chunkHashes formats file).length := by
        simp [chunkHashes]
      simp only [ne_eq, length, not_true_eq_false, if_false, zip_self]
      rfl

theorem writeMdd_cases (file : MddFile) :
    (faults.write = none ∧ faults.verify = .none ∧ faults.rename = none ∧
        (writeMdd formats faults disk mddPath file).1 = .ok true ∧
        (writeMdd formats faults disk mddPath file).2 mddPath =
          some (fileMagicBytes ++ formats.encode file)) ∨
      (¬(faults.write = none ∧ faults.verify = .none ∧ faults.rename = none) ∧
        (∃ error, (writeMdd formats faults disk mddPath file).1 = .error error) ∧
        (writeMdd formats faults disk mddPath file).2 mddPath = disk mddPath) := by
  have apart : mddPath ≠ tmpPath mddPath := (tmpPath_ne mddPath).symm
  have removed (written : Disk) :
      removeTmp faults.removeFile written mddPath mddPath = written mddPath := by
    rw [removeTmp]
    split
    · rfl
    · exact update_of_ne apart ..
  have verified := @verify_written_iff formats disk mddPath decodes faults.verify file
  rw [writeMdd]
  cases write : faults.write with
  | some failure => exact .inr ⟨by simp, ⟨_, rfl⟩, update_of_ne apart ..⟩
  | none =>
    dsimp only
    split
    · rename_i error failed
      refine .inr ⟨?_, ⟨_, rfl⟩, ?_⟩
      · rintro ⟨_, opens, _⟩
        rw [verified.mpr opens] at failed
        cases failed
      · exact (removed _).trans (update_of_ne apart ..)
    · rename_i passed
      cases rename : faults.rename with
      | some error =>
        exact .inr ⟨by simp, ⟨_, rfl⟩, (removed _).trans (update_of_ne apart ..)⟩
      | none =>
        refine .inl ⟨rfl, verified.mp passed, rfl, rfl, ?_⟩
        dsimp only
        rw [update_of_ne apart, update_self, update_self]

theorem updateMddUncompressed_cases :
    ((∃ error, (updateMddUncompressed formats faults disk mddPath).1 = .error error) ∧
        (updateMddUncompressed formats faults disk mddPath).2 mddPath = disk mddPath ∧
        ∀ mddFile, ¬IsRewritten formats faults disk mddPath mddFile) ∨
      (∃ mddFile, updateMddUncompressed formats faults disk mddPath = (.ok false, disk) ∧
        mmapAndDecodeMdd formats faults.check disk mddPath = .ok mddFile ∧
        needsDecompression mddFile = false) ∨
      ∃ mddFile, IsRewritten formats faults disk mddPath mddFile ∧
        (updateMddUncompressed formats faults disk mddPath).1 = .ok true ∧
        (updateMddUncompressed formats faults disk mddPath).2 mddPath =
          some (fileMagicBytes ++ formats.encode (rewrittenFile formats mddFile)) := by
  cases decoded : mmapAndDecodeMdd formats faults.check disk mddPath with
  | error error =>
    have failed : updateMddUncompressed formats faults disk mddPath = (.error error, disk) := by
      rw [updateMddUncompressed, decoded]
    rw [failed]
    refine .inl ⟨⟨error, rfl⟩, rfl, ?_⟩
    intro mddFile rewritten
    cases decoded.symm.trans rewritten.decoded
  | ok mddFile =>
    cases compressed : needsDecompression mddFile with
    | false =>
      refine .inr (.inl ⟨mddFile, ?_, rfl, compressed⟩)
      simp [updateMddUncompressed, decoded, compressed]
    | true =>
      have only {other : MddFile} (rewritten : IsRewritten formats faults disk mddPath other) :
          other = mddFile := Except.ok.inj (rewritten.decoded.symm.trans decoded)
      cases made : decompressMdd formats faults.read disk mddPath with
      | error error =>
        have failed : updateMddUncompressed formats faults disk mddPath =
            (.error error, disk) := by
          simp [updateMddUncompressed, decoded, compressed, made]
        rw [failed]
        refine .inl ⟨⟨error, rfl⟩, rfl, ?_⟩
        intro other rewritten
        obtain rfl := only rewritten
        have works := (decompressMdd_eq_ok_iff decoded).mpr
          ⟨rewritten.read, rewritten.decompresses, rfl⟩
        rw [works] at made
        cases made
      | ok result =>
        obtain ⟨read, each, rfl⟩ := (decompressMdd_eq_ok_iff decoded).mp made
        have written : updateMddUncompressed formats faults disk mddPath =
            writeMdd formats faults disk mddPath (rewrittenFile formats mddFile) := by
          simp [updateMddUncompressed, decoded, compressed, made]
        rw [written]
        rcases @writeMdd_cases formats faults disk mddPath decodes
          (rewrittenFile formats mddFile) with
          ⟨write, verify, rename, outcome, after⟩ | ⟨faulty, outcome, after⟩
        · exact .inr (.inr ⟨mddFile,
            ⟨decoded, compressed, each, read, write, verify, rename⟩, outcome, after⟩)
        · refine .inl ⟨outcome, after, ?_⟩
          intro other rewritten
          exact faulty ⟨rewritten.write, rewritten.verify, rewritten.rename⟩

end Written

variable {chunk : ProtoChunk}

theorem rewrittenChunk_of_data {data : Bytes}
    (read : chunk.decompressed formats = .ok (some data)) :
    rewrittenChunk formats chunk = { chunk with
      data := some data, compressionAlgorithm := none, uncompressedSize := none } := by
  rw [rewrittenChunk, read]

theorem rewrittenChunk_of_noData (absent : chunk.data = none) :
    rewrittenChunk formats chunk = chunk := by
  rw [rewrittenChunk, decompressed_none_iff.mpr absent]

theorem exists_decompressed_of_data (present : chunk.data.isSome)
    (each : ∃ data, chunk.decompressed formats = .ok data) :
    ∃ data, chunk.decompressed formats = .ok (some data) := by
  obtain ⟨data, read⟩ := each
  cases data with
  | some data => exact ⟨data, read⟩
  | none =>
    rw [decompressed_none_iff.mp read] at present
    cases present

theorem decompressed_rewrittenChunk (each : ∃ data, chunk.decompressed formats = .ok data) :
    (rewrittenChunk formats chunk).decompressed formats = chunk.decompressed formats := by
  cases present : chunk.data with
  | none => rw [rewrittenChunk_of_noData present]
  | some compressed =>
    obtain ⟨data, read⟩ := exists_decompressed_of_data (by simp [present]) each
    rw [rewrittenChunk_of_data read, read]
    rfl

theorem asks_rewrittenChunk (chunkInfo : ProtoLoadConfig) (chunk : ProtoChunk) :
    chunkInfo.Asks (rewrittenChunk formats chunk) ↔ chunkInfo.Asks chunk := by
  rw [rewrittenChunk]
  split <;> rfl

theorem metaData_rewrittenChunk_iff {type_ : ChunkType}
    (each : ∃ data, chunk.decompressed formats = .ok data) :
    (rewrittenChunk formats chunk).metaData type_ = chunk.metaData type_ ↔
      (chunk.data.isSome → chunk.uncompressedSize.getD 0 = 0) := by
  cases present : chunk.data with
  | none => simp [rewrittenChunk_of_noData present]
  | some compressed =>
    obtain ⟨data, read⟩ := exists_decompressed_of_data (by simp [present]) each
    simp [rewrittenChunk_of_data read, ProtoChunk.metaData, eq_comm]

theorem filter_rewritten (chunkInfo : ProtoLoadConfig) :
    (rewrittenFile formats mddFile).chunks.filter (chunkInfo.Asks ·) =
      (mddFile.chunks.filter (chunkInfo.Asks ·)).map (rewrittenChunk formats) := by
  rw [rewrittenFile, List.filter_map]
  congr 1
  apply List.filter_congr
  intro chunk _
  simp [asks_rewrittenChunk]

section

variable (each : ∀ chunk ∈ mddFile.chunks, ∃ data, chunk.decompressed formats = .ok data)

include each

theorem loadChunks_rewritten {chunkInfo : ProtoLoadConfig}
    (kept : ∀ chunk ∈ mddFile.chunks, chunk.data.isSome → (chunkDataType chunk.type_).isSome →
      chunk.uncompressedSize.getD 0 = 0) :
    loadChunks formats (rewrittenFile formats mddFile) chunkInfo =
      loadChunks formats mddFile chunkInfo := by
  have same : ((rewrittenFile formats mddFile).chunks.filter (chunkInfo.Asks ·)).mapM
      (loadProtoChunk formats chunkInfo) =
        (mddFile.chunks.filter (chunkInfo.Asks ·)).mapM (loadProtoChunk formats chunkInfo) := by
    rw [filter_rewritten, List.mapM_map]
    apply mapM_congr
    intro chunk mem
    obtain ⟨inFile, asks⟩ := List.mem_filter.mp mem
    have typed : (chunkDataType chunk.type_).isSome := by
      rw [(of_decide_eq_true asks).1]
      rfl
    have shown : (rewrittenChunk formats chunk).metaData chunkInfo.type_ =
        chunk.metaData chunkInfo.type_ :=
      (metaData_rewrittenChunk_iff (each chunk inFile)).mpr fun present =>
        kept chunk inFile present typed
    simp only [Function.comp_apply, loadProtoChunk,
      decompressed_rewrittenChunk (each chunk inFile), shown]
  rw [loadChunks, loadChunks, same]

theorem loadDecoded_rewritten_iff :
    (∀ loadInfo, loadDecoded formats (rewrittenFile formats mddFile) loadInfo =
        loadDecoded formats mddFile loadInfo) ↔
      ∀ chunk ∈ mddFile.chunks, chunk.data.isSome → (chunkDataType chunk.type_).isSome →
        chunk.uncompressedSize.getD 0 = 0 := by
  constructor
  · intro same chunk mem present typed
    obtain ⟨type_, typed⟩ := Option.isSome_iff_exists.mp typed
    have listed := same [⟨false, type_, none⟩]
    simp only [loadDecoded, List.mapM_cons, List.mapM_nil, loadChunks_withoutData,
      filter_rewritten, List.map_map] at listed
    simp only [Bind.bind, Except.bind, pure, Except.pure, Except.ok.injEq, Prod.mk.injEq] at listed
    have lists := congrFun listed.2 type_
    rw [collectChunks_single, collectChunks_single, Option.some.injEq, List.map_inj_left] at lists
    have asked : chunk ∈ mddFile.chunks.filter
        ((ProtoLoadConfig.mk false type_ none).Asks ·) := by
      rw [List.mem_filter]
      exact ⟨mem, decide_eq_true ⟨typed, by simp⟩⟩
    have shown := congrArg Chunk.metaData (lists chunk asked)
    exact (metaData_rewrittenChunk_iff (each chunk mem)).mp shown present
  · intro kept loadInfo
    simp only [loadDecoded, loadChunks_rewritten each kept]
    rfl

theorem needsDecompression_rewritten_iff :
    needsDecompression (rewrittenFile formats mddFile) = false ↔
      ∀ chunk ∈ mddFile.chunks, chunk.data = none → chunk.compressionAlgorithm = none := by
  simp only [needsDecompression, rewrittenFile, List.any_map, List.any_eq_false,
    Function.comp_apply]
  apply forall₂_congr
  intro chunk mem
  cases present : chunk.data with
  | none => simp [rewrittenChunk_of_noData present]
  | some compressed =>
    obtain ⟨data, read⟩ := exists_decompressed_of_data (by simp [present]) (each chunk mem)
    simp [rewrittenChunk_of_data read]

end

theorem updateMddUncompressed_eq_ok_false_iff
    (decodes : ∀ file, formats.decode (formats.encode file) = .ok file)
    (decoded : mmapAndDecodeMdd formats faults.check disk mddPath = .ok mddFile) :
    (updateMddUncompressed formats faults disk mddPath).1 = .ok false ↔
      needsDecompression mddFile = false := by
  constructor
  · intro outcome
    rcases @updateMddUncompressed_cases formats faults disk mddPath decodes with
      ⟨⟨error, failed⟩, _⟩ | ⟨other, _, again, compressed⟩ | ⟨_, _, written, _⟩
    · cases outcome.symm.trans failed
    · obtain rfl := Except.ok.inj (again.symm.trans decoded)
      exact compressed
    · cases outcome.symm.trans written
  · intro compressed
    simp [updateMddUncompressed, decoded, compressed]

theorem loadProtoData_written_iff
    (decodes : ∀ file, formats.decode (formats.encode file) = .ok file)
    {after : Disk} {file : MddFile} {content : Bytes}
    (written : after mddPath = some (fileMagicBytes ++ formats.encode file))
    (present : disk mddPath = some content) (valid : decodeMdd formats content = .ok mddFile) :
    (∀ mapFaults loadInfo, loadProtoData formats mapFaults after mddPath loadInfo =
        loadProtoData formats mapFaults disk mddPath loadInfo) ↔
      ∀ loadInfo, loadDecoded formats file loadInfo = loadDecoded formats mddFile loadInfo := by
  have opened (mapFaults : MapFaults) (loadInfo : List ProtoLoadConfig) :
      loadProtoData formats mapFaults after mddPath loadInfo =
          loadProtoData formats mapFaults disk mddPath loadInfo ↔
        (mapFaults = .none →
          loadDecoded formats file loadInfo = loadDecoded formats mddFile loadInfo) := by
    have readsBack := decodeMdd_written decodes file
    obtain ⟨openFile, mmap⟩ := mapFaults
    cases openFile <;> cases mmap <;>
      simp [loadProtoData, mmapAndDecodeMdd, written, present, readsBack, valid, MapFaults.none,
        Bind.bind, Except.bind]
  simp only [opened]
  constructor
  · intro loads loadInfo
    exact loads .none loadInfo rfl
  · intro loads mapFaults loadInfo _
    exact loads loadInfo

/-- The rewriting preserves a file exactly when it does not take place, or no chunk with data
that can be loaded states a size and no chunk without data an algorithm. -/
theorem preservesMdd_iff (formats : Formats) (faults : RewriteFaults) (disk : Disk)
    (mddPath : String) (decodes : ∀ file, formats.decode (formats.encode file) = .ok file) :
    PreservesMdd formats faults disk mddPath ↔
      ∀ mddFile, IsRewritten formats faults disk mddPath mddFile →
        ∀ chunk ∈ mddFile.chunks, chunk.KeptByRewrite := by
  rw [PreservesMdd]
  rcases @updateMddUncompressed_cases formats faults disk mddPath decodes with
    ⟨⟨error, outcome⟩, after, never⟩ | ⟨mddFile, same, decoded, compressed⟩ |
    ⟨mddFile, rewritten, outcome, after⟩
  · simp [outcome, after, never]
  · apply iff_of_true
    · rw [same]
      refine ⟨?_, by simp⟩
      intro _ _
      refine ⟨fun _ _ => rfl, ?_⟩
      intro later opens
      rw [(mmapAndDecodeMdd_eq_ok_iff.mp decoded).1, ← opens] at decoded
      exact (updateMddUncompressed_eq_ok_false_iff decodes decoded).mpr compressed
    · intro other rewritten
      obtain rfl := Except.ok.inj (rewritten.decoded.symm.trans decoded)
      rw [rewritten.compressed] at compressed
      cases compressed
  · obtain ⟨_, content, present, valid⟩ := mmapAndDecodeMdd_eq_ok_iff.mp rewritten.decoded
    have only : (∀ other, IsRewritten formats faults disk mddPath other →
        ∀ chunk ∈ other.chunks, chunk.KeptByRewrite) ↔
          ∀ chunk ∈ mddFile.chunks, chunk.KeptByRewrite := by
      constructor
      · intro kept
        exact kept mddFile rewritten
      · intro kept other its
        obtain rfl := Except.ok.inj (its.decoded.symm.trans rewritten.decoded)
        exact kept
    have again (later : RewriteFaults) (opens : later.check = .none) :
        (updateMddUncompressed formats later
            (updateMddUncompressed formats faults disk mddPath).2 mddPath).1 = .ok false ↔
          needsDecompression (rewrittenFile formats mddFile) = false := by
      apply updateMddUncompressed_eq_ok_false_iff decodes
      rw [opens, mmapAndDecodeMdd_eq_ok_iff]
      exact ⟨rfl, _, after, decodeMdd_written decodes _⟩
    rw [only]
    simp only [outcome, Except.ok.injEq, forall_eq', reduceCtorEq, false_implies, implies_true,
      and_true, loadProtoData_written_iff decodes after present valid,
      loadDecoded_rewritten_iff rewritten.decompresses]
    constructor
    · rintro ⟨sizes, once⟩ chunk mem
      have algorithms := (needsDecompression_rewritten_iff rewritten.decompresses).mp
        ((again ⟨.none, none, none, .none, none, none⟩ rfl).mp (once _ rfl))
      exact ⟨algorithms chunk mem, sizes chunk mem⟩
    · intro kept
      refine ⟨fun chunk mem => (kept chunk mem).2, ?_⟩
      intro later opens
      rw [again later opens, needsDecompression_rewritten_iff rewritten.decompresses]
      exact fun chunk mem => (kept chunk mem).1

end Rewritten

namespace CodeFiles

/-- A code file that names its algorithm and has no data. -/
def mddFile : MddFile := ⟨"E", [⟨1, none, some "lzma", none, none, none⟩]⟩

def encoded : Bytes :=
  [0x1A, 0x01, 0x45, 0x32, 0x08, 0x08, 0x01, 0x2A, 0x04, 0x6C, 0x7A, 0x6D, 0x61]

/-- The LZMA stream of the byte `2A`. -/
def lzmaStream : Bytes :=
  [0x5D, 0x00, 0x00, 0x80, 0x00, 0xFF, 0xFF, 0xFF, 0xFF, 0xFF, 0xFF, 0xFF, 0xFF, 0x00, 0x15, 0x41,
    0xFB, 0xFF, 0xFF, 0xFF, 0xE0, 0x00, 0x00, 0x00]

/-- A code file with its data. -/
def storedFile : MddFile := ⟨"E", [⟨1, some "c", some "lzma", none, some lzmaStream, none⟩]⟩

def encodedStored : Bytes :=
  [0x1A, 0x01, 0x45, 0x32, 0x25, 0x08, 0x01, 0x12, 0x01, 0x63, 0x2A, 0x04, 0x6C, 0x7A, 0x6D, 0x61,
    0x42, 0x18] ++ lzmaStream

theorem exists_index : ∃ index : MddFile → Nat, Function.Injective index := by
  have chars : Countable Char := by
    apply Function.Injective.countable (f := Char.toNat)
    intro first second same
    exact Char.ext (UInt32.toNat_inj.mp same)
  have strings : Countable String := by
    apply Function.Injective.countable (f := String.toList)
    exact fun _ _ => String.toList_injective
  have bytes : Countable UInt8 := by
    apply Function.Injective.countable (f := UInt8.toNat)
    intro first second same
    exact UInt8.toNat_inj.mp same
  have chunks : Countable ProtoChunk := by
    apply Function.Injective.countable (f := fun chunk : ProtoChunk =>
      (chunk.type_, chunk.name, chunk.compressionAlgorithm, chunk.uncompressedSize, chunk.data,
        chunk.mimeType))
    rintro ⟨⟩ ⟨⟩ same
    simpa using same
  have files : Countable MddFile := by
    apply Function.Injective.countable (f := fun file : MddFile => (file.ecuName, file.chunks))
    rintro ⟨⟩ ⟨⟩ same
    simpa using same
  exact exists_injective_nat MddFile

/-- The other files stand under a tag that does not exist in the format. -/
noncomputable def encode (file : MddFile) : Bytes :=
  if file = mddFile then encoded
  else if file = storedFile then encodedStored
  else 0x07 :: List.replicate (exists_index.choose file) 0

theorem encode_cases (file : MddFile) : (file = mddFile ∧ encode file = encoded) ∨
      (file = storedFile ∧ encode file = encodedStored) ∨
        encode file = 0x07 :: List.replicate (exists_index.choose file) 0 := by
  rw [encode]
  split
  · rename_i same
    exact .inl ⟨same, rfl⟩
  · split
    · rename_i same
      exact .inr (.inl ⟨same, rfl⟩)
    · exact .inr (.inr rfl)

theorem encode_injective : Function.Injective encode := by
  intro first second same
  have unequal : encoded ≠ encodedStored := by decide
  have apart (count : Nat) : encoded ≠ 0x07 :: List.replicate count 0 := by simp [encoded]
  have storedApart (count : Nat) : encodedStored ≠ 0x07 :: List.replicate count 0 := by
    simp [encodedStored]
  rcases encode_cases first with ⟨isFirst, written⟩ | ⟨isFirst, written⟩ | written <;>
    rcases encode_cases second with ⟨isSecond, others⟩ | ⟨isSecond, others⟩ | others <;>
    rw [written, others] at same
  · rw [isFirst, isSecond]
  · exact absurd same unequal
  · exact absurd same (apart _)
  · exact absurd same.symm unequal
  · rw [isFirst, isSecond]
  · exact absurd same (storedApart _)
  · exact absurd same.symm (apart _)
  · exact absurd same.symm (storedApart _)
  · apply exists_index.choose_spec
    simpa using congrArg List.length same

open Classical in
noncomputable def formats : Formats where
  decode := fun payload =>
    if known : ∃ file, encode file = payload then .ok known.choose else .error "invalid tag value"
  encode := encode
  lzma := fun data => if data = lzmaStream then .ok [0x2A] else .error "Invalid data"
  sha512 := fun data => data
  toLowercase := String.toLower

theorem decode_encode (file : MddFile) : formats.decode (formats.encode file) = .ok file := by
  have known : ∃ other, encode other = encode file := ⟨file, rfl⟩
  have same : known.choose = file := encode_injective known.choose_spec
  simp only [formats, dif_pos known, same]

def disk : Disk := fun path =>
  if path = "e.mdd" then some (fileMagicBytes ++ encoded)
  else if path = "c.mdd" then some (fileMagicBytes ++ encodedStored)
  else none

def faults : RewriteFaults := ⟨.none, none, none, .none, none, none⟩

theorem decoded : mmapAndDecodeMdd formats .none disk "e.mdd" = .ok mddFile := by
  rw [mmapAndDecodeMdd_eq_ok_iff]
  have its : encode mddFile = encoded := if_pos rfl
  refine ⟨rfl, _, rfl, ?_⟩
  rw [← its]
  exact decodeMdd_written decode_encode mddFile

theorem isRewritten : IsRewritten formats faults disk "e.mdd" mddFile where
  decoded := decoded
  compressed := by decide
  decompresses := by
    intro chunk mem
    obtain rfl := List.mem_singleton.mp mem
    exact ⟨none, rfl⟩
  read := rfl
  write := rfl
  verify := rfl
  rename := rfl

theorem storedRewritten : IsRewritten formats faults disk "c.mdd" storedFile where
  decoded := by
    rw [mmapAndDecodeMdd_eq_ok_iff]
    have its : encode storedFile = encodedStored := by
      rw [encode, if_neg (by decide), if_pos rfl]
    refine ⟨rfl, _, rfl, ?_⟩
    rw [← its]
    exact decodeMdd_written decode_encode storedFile
  compressed := by decide
  decompresses := by
    intro chunk mem
    obtain rfl := List.mem_singleton.mp mem
    have lower : "lzma".toLower = "lzma" := by decide +kernel
    exact ⟨some [0x2A], by simp [ProtoChunk.decompressed, decompressChunkData, formats, lower]⟩
  read := rfl
  write := rfl
  verify := rfl
  rename := rfl

end CodeFiles

theorem preservesMdd_stored :
    IsRewritten CodeFiles.formats CodeFiles.faults CodeFiles.disk "c.mdd"
        CodeFiles.storedFile ∧
      PreservesMdd CodeFiles.formats CodeFiles.faults CodeFiles.disk "c.mdd" := by
  refine ⟨CodeFiles.storedRewritten, (preservesMdd_iff CodeFiles.formats CodeFiles.faults
    CodeFiles.disk "c.mdd" CodeFiles.decode_encode).mpr ?_⟩
  intro mddFile rewritten
  have decoded := rewritten.decoded.symm.trans CodeFiles.storedRewritten.decoded
  rw [Except.ok.inj decoded]
  intro chunk mem
  obtain rfl := List.mem_singleton.mp mem
  exact ⟨nofun, fun _ _ => rfl⟩

/-- The chunk keeps its algorithm, so the file is rewritten again and again. -/
theorem not_preservesMdd_withoutData :
    ¬∀ (formats : Formats) (faults : RewriteFaults) (disk : Disk) (mddPath : String),
      (∀ file, formats.decode (formats.encode file) = .ok file) →
        PreservesMdd formats faults disk mddPath := by
  intro everyFilePreserved
  have preserved := everyFilePreserved CodeFiles.formats CodeFiles.faults CodeFiles.disk "e.mdd"
    CodeFiles.decode_encode
  rcases @updateMddUncompressed_cases CodeFiles.formats CodeFiles.faults CodeFiles.disk
    "e.mdd" CodeFiles.decode_encode with
    ⟨_, _, never⟩ | ⟨other, _, again, compressed⟩ | ⟨other, rewritten, outcome, after⟩
  · exact never _ CodeFiles.isRewritten
  · obtain rfl := Except.ok.inj (again.symm.trans CodeFiles.decoded)
    revert compressed
    decide
  · obtain rfl := Except.ok.inj (rewritten.decoded.symm.trans CodeFiles.decoded)
    have once := (preserved.1 _ outcome).2 CodeFiles.faults rfl
    have decodedAfter := @mmapAndDecodeMdd_eq_ok_iff CodeFiles.formats .none
      (updateMddUncompressed CodeFiles.formats CodeFiles.faults CodeFiles.disk "e.mdd").2
      "e.mdd" (rewrittenFile CodeFiles.formats CodeFiles.mddFile) |>.mpr
        ⟨rfl, _, after, decodeMdd_written CodeFiles.decode_encode _⟩
    have plain := (updateMddUncompressed_eq_ok_false_iff CodeFiles.decode_encode
      decodedAfter).mp once
    rw [needsDecompression_rewritten_iff rewritten.decompresses] at plain
    cases plain _ List.mem_cons_self rfl

end DiagnosticAdapter.Mdd
