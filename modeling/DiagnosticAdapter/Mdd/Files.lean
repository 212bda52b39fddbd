import DiagnosticAdapter.Mdd.Chunks
import Mathlib.Algebra.Group.Nat.Defs

/-!
# The file manager

The chunks of a file are registered without their data. A chunk is loaded when it is asked
for and dropped when it has not been asked for in a while; it is loaded by its type and name.
-/

namespace DiagnosticAdapter.Mdd.Files

open Function

structure CacheEntry where
  lastAccessed : Option Nat
  chunk : Chunk
  deriving DecidableEq, Repr

structure FileManager where
  mddPath : String
  files : String → Option CacheEntry

/-- Five minutes in nanoseconds. -/
def cacheLifetime : Nat := 60 * 5 * 10 ^ 9

/-- A chunk under the id that is drawn for it. -/
def insertFile (files : String → Option CacheEntry) (file : String × Chunk) :
    String → Option CacheEntry :=
  update files file.1 (some ⟨none, file.2⟩)

def FileManager.new (mddPath : String) (files : List (String × Chunk)) : FileManager :=
  ⟨mddPath, files.foldl insertFile fun _ => none⟩

def CacheEntry.expire (now : Nat) (entry : CacheEntry) : CacheEntry :=
  match entry.lastAccessed with
  | none => entry
  | some lastAccessed =>
    if now - lastAccessed ≤ cacheLifetime then entry
    else { entry with chunk := { entry.chunk with payload := none } }

def FileManager.sweep (manager : FileManager) (now : Nat) : FileManager :=
  { manager with files := fun id => (manager.files id).map (CacheEntry.expire now) }

def FileManager.list (manager : FileManager) (id : String) : Option ChunkMetaData :=
  (manager.files id).map (·.chunk.metaData)

section Manager

variable (formats : Formats) (disk : Disk)

def loadChunk (chunk : Chunk) (mddFile : String) : Except MddError Bytes × Chunk :=
  match chunk.payload with
  | some payload => (.ok payload, chunk)
  | none =>
    match loadChunkData formats .none disk mddFile chunk.metaData with
    | .ok chunkData => (.ok chunkData, { chunk with payload := some chunkData })
    | .error error => (.error error, chunk)

def FileManager.get (manager : FileManager) (id : String) (now : Nat) :
    Except MddError (ChunkMetaData × Bytes) × FileManager :=
  match manager.files id with
  | none => (.error (.invalidParameter s!"No file with name {id} found"), manager)
  | some cache =>
    let (loaded, chunk) := loadChunk formats disk cache.chunk manager.mddPath
    (loaded.map fun data => (cache.chunk.metaData, data),
      { manager with files := update manager.files id (some ⟨some now, chunk⟩) })

inductive Call where
  | get (id : String) (now : Nat)
  | sweep (now : Nat)
  deriving DecidableEq, Repr

structure Reply where
  list : String → Option ChunkMetaData
  id : String
  outcome : Except MddError (ChunkMetaData × Bytes)

def replies : FileManager → List Call → List Reply
  | _, [] => []
  | manager, .get id now :: rest =>
    let (outcome, after) := manager.get formats disk id now
    ⟨manager.list, id, outcome⟩ :: replies after rest
  | manager, .sweep now :: rest => replies (manager.sweep now) rest

/-- A chunk of the file under the id that is drawn for it. -/
structure Registered where
  id : String
  type_ : ChunkType
  protoChunk : ProtoChunk

/-- Chunks that some load configurations without data list, under different ids. -/
structure Registration (mddFile : MddFile) where
  chunks : List Registered
  listed : ∀ registered ∈ chunks, registered.protoChunk ∈ mddFile.chunks ∧
    ∃ chunkInfo : ProtoLoadConfig, chunkInfo.loadData = false ∧
      chunkInfo.type_ = registered.type_ ∧ chunkInfo.Asks registered.protoChunk
  distinct : (chunks.map Registered.id).Nodup

/-- The manager of the chunks as `load_proto_data` lists them. -/
def Registration.manager {mddFile : MddFile} (registration : Registration mddFile)
    (mddPath : String) : FileManager :=
  .new mddPath (registration.chunks.map fun registered =>
    (registered.id, ⟨none, registered.protoChunk.metaData registered.type_⟩))

/-- In every run, each reply for a registered chunk is its listed meta data and its own
decompressed data. -/
def Registration.Transparent {mddFile : MddFile} (registration : Registration mddFile)
    (mddPath : String) : Prop :=
  ∀ calls, ∀ reply ∈ replies formats disk (registration.manager mddPath) calls,
    ∀ registered ∈ registration.chunks, registered.id = reply.id →
      ∃ metaData bytes, reply.list reply.id = some metaData ∧
        registered.protoChunk.decompressed formats = .ok (some bytes) ∧
        reply.outcome = .ok (metaData, bytes)

/-- The data of the chunk is what comes first under its type and its name, an absent name
taken as the empty one, and all chunks under them can be decompressed. -/
def Registered.FoundByName (registered : Registered) (mddFile : MddFile) : Prop :=
  let chunkInfo : ProtoLoadConfig :=
    ⟨true, registered.type_, some (registered.protoChunk.name.getD "")⟩
  (∀ other ∈ mddFile.chunks, chunkInfo.Asks other → ∃ data, other.decompressed formats = .ok data) ∧
    ∃ bytes first, registered.protoChunk.decompressed formats = .ok (some bytes) ∧
      mddFile.chunks.find? (fun other => chunkInfo.Asks other ∧ other.data.isSome) = some first ∧
      first.decompressed formats = .ok (some bytes)

end Manager

section Loading

variable {formats : Formats} {disk : Disk} {mddPath : String} {mddFile : MddFile}

theorem loadProtoChunk_of_loading {chunkInfo : ProtoLoadConfig} (loading : chunkInfo.loadData)
    (protoChunk : ProtoChunk) :
    loadProtoChunk formats chunkInfo protoChunk = (protoChunk.decompressed formats).map fun data =>
        data.map fun data => ⟨some data, protoChunk.metaData chunkInfo.type_⟩ := by
  rw [loadProtoChunk, if_pos loading]
  cases protoChunk.decompressed formats <;> rfl

theorem exists_mapM_loadProtoChunk_iff {chunkInfo : ProtoLoadConfig}
    (loading : chunkInfo.loadData) {chunks : List ProtoChunk} :
    (∃ loaded, chunks.mapM (loadProtoChunk formats chunkInfo) = .ok loaded) ↔
      ∀ other ∈ chunks, ∃ data, other.decompressed formats = .ok data := by
  rw [exists_mapM_ok_iff]
  apply forall₂_congr
  intro protoChunk _
  rw [loadProtoChunk_of_loading loading]
  cases protoChunk.decompressed formats <;> simp [Except.map]

theorem mapM_loadProtoChunk_head {chunkInfo : ProtoLoadConfig} (loading : chunkInfo.loadData)
    {chunks : List ProtoChunk} {bytes : Bytes} :
    (∃ loaded, chunks.mapM (loadProtoChunk formats chunkInfo) = .ok loaded ∧
        loaded.reduceOption.head?.bind (·.payload) = some bytes) ↔
      (∀ other ∈ chunks, ∃ data, other.decompressed formats = .ok data) ∧
        ∃ first, chunks.find? (·.data.isSome) = some first ∧
          first.decompressed formats = .ok (some bytes) := by
  induction chunks with
  | nil => simp [pure, Except.pure, List.reduceOption_nil]
  | cons protoChunk rest ih =>
    have read := @loadProtoChunk_of_loading formats chunkInfo loading protoChunk
    rw [List.mapM_cons, List.forall_mem_cons]
    cases found : protoChunk.decompressed formats with
    | error error => simp [read, found, Except.map, Bind.bind, Except.bind]
    | ok data =>
      rw [found] at read
      cases data with
      | none =>
        have absent : protoChunk.data.isSome = false := by
          rw [decompressed_none_iff.mp found]
          rfl
        have skipped : (∃ loaded,
            (do
              let first ← loadProtoChunk formats chunkInfo protoChunk
              let others ← rest.mapM (loadProtoChunk formats chunkInfo)
              pure (first :: others)) = .ok loaded ∧
            loaded.reduceOption.head?.bind (·.payload) = some bytes) ↔
          ∃ loaded, rest.mapM (loadProtoChunk formats chunkInfo) = .ok loaded ∧
            loaded.reduceOption.head?.bind (·.payload) = some bytes := by
          rw [read]
          cases rest.mapM (loadProtoChunk formats chunkInfo) <;>
            simp [Except.map, Bind.bind, Except.bind, pure, Except.pure,
              List.reduceOption_cons_of_none]
        rw [skipped, ih]
        simp [absent]
      | some data =>
        have present : protoChunk.data.isSome = true := by
          rw [Option.isSome_iff_ne_none]
          intro absent
          rw [decompressed_none_iff.mpr absent] at found
          cases found
        have first : (protoChunk :: rest).find? (·.data.isSome) = some protoChunk :=
          List.find?_cons_of_pos present
        rw [read, first, ← @exists_mapM_loadProtoChunk_iff formats chunkInfo loading]
        cases rest.mapM (loadProtoChunk formats chunkInfo) <;>
          simp [Except.map, Bind.bind, Except.bind, pure, Except.pure, found,
            List.reduceOption_cons_of_some]

section

variable (loaded : mmapAndDecodeMdd formats .none disk mddPath = .ok mddFile)

include loaded

theorem loadChunkData_eq (metaData : ChunkMetaData) :
    loadChunkData formats .none disk mddPath metaData =
      loadChunks formats mddFile ⟨true, metaData.type_, some metaData.name⟩ >>= fun chunks =>
        (match chunks.head?.bind (·.payload) with
          | some payload => .ok payload
          | none => .error
              (.missingData s!"Chunk data with name {metaData.name} found in MDD file")) := by
  rw [loadChunkData, loadProtoData, loaded]
  cases read : loadChunks formats mddFile ⟨true, metaData.type_, some metaData.name⟩ with
  | error error =>
    simp [loadDecoded, List.mapM_cons, read, Bind.bind, Except.bind]
  | ok chunks =>
    simp only [loadDecoded, List.mapM_cons, List.mapM_nil, read, Bind.bind, Except.bind, pure,
      Except.pure, collectChunks_single, Option.bind_some]
    rfl

theorem loadChunkData_eq_ok_iff {metaData : ChunkMetaData} {bytes : Bytes} :
    loadChunkData formats .none disk mddPath metaData = .ok bytes ↔ (∀ other ∈ mddFile.chunks,
          (ProtoLoadConfig.mk true metaData.type_ (some metaData.name)).Asks other →
            ∃ data, other.decompressed formats = .ok data) ∧
        ∃ first, mddFile.chunks.find? (fun other =>
            (ProtoLoadConfig.mk true metaData.type_ (some metaData.name)).Asks other ∧
              other.data.isSome) = some first ∧
          first.decompressed formats = .ok (some bytes) := by
  have head := @mapM_loadProtoChunk_head formats
    ⟨true, metaData.type_, some metaData.name⟩ rfl
    (mddFile.chunks.filter
      ((ProtoLoadConfig.mk true metaData.type_ (some metaData.name)).Asks ·)) bytes
  simp only [List.mem_filter, decide_eq_true_eq, and_imp, List.find?_filter] at head
  rw [← head, loadChunkData_eq loaded, loadChunks]
  cases (mddFile.chunks.filter
      ((ProtoLoadConfig.mk true metaData.type_ (some metaData.name)).Asks ·)).mapM
        (loadProtoChunk formats ⟨true, metaData.type_, some metaData.name⟩) with
  | error error => simp [Bind.bind, Except.bind]
  | ok chunks =>
    simp only [Bind.bind, Except.bind, pure, Except.pure, Except.ok.injEq, exists_eq_left']
    cases chunks.reduceOption.head?.bind (·.payload) <;> simp

theorem loadChunkData_eq_ok_iff_foundByName {registered : Registered} :
    (∃ bytes, registered.protoChunk.decompressed formats = .ok (some bytes) ∧
        loadChunkData formats .none disk mddPath
          (registered.protoChunk.metaData registered.type_) = .ok bytes) ↔
      registered.FoundByName formats mddFile := by
  simp only [loadChunkData_eq_ok_iff loaded, Registered.FoundByName, ProtoChunk.metaData]
  constructor
  · rintro ⟨bytes, own, all, first, found, same⟩
    exact ⟨all, bytes, first, own, found, same⟩
  · rintro ⟨all, bytes, first, own, found, same⟩
    exact ⟨bytes, own, all, first, found, same⟩

end

end Loading

section Run

variable {formats : Formats} {disk : Disk} {mddPath : String} {mddFile : MddFile}
  {registration : Registration mddFile} {manager : FileManager}

/-- Each registered chunk has its entry, with its meta data, and no data but its own. -/
structure Registration.Holds (formats : Formats) (registration : Registration mddFile)
    (mddPath : String) (manager : FileManager) : Prop where
  path : manager.mddPath = mddPath
  entry : ∀ registered ∈ registration.chunks, ∃ cache, manager.files registered.id = some cache ∧
    cache.chunk.metaData = registered.protoChunk.metaData registered.type_ ∧
    ∀ payload ∈ cache.chunk.payload, registered.protoChunk.decompressed formats = .ok (some payload)

theorem files_manager {registered : Registered} (mem : registered ∈ registration.chunks) :
    (registration.manager mddPath).files registered.id =
      some ⟨none, none, registered.protoChunk.metaData registered.type_⟩ := by
  have folded (files : List (String × Chunk)) (distinct : (files.map Prod.fst).Nodup)
      (start : String → Option CacheEntry) {file : String × Chunk} (mem : file ∈ files) :
      files.foldl insertFile start file.1 = some ⟨none, file.2⟩ := by
    induction files generalizing start with
    | nil => cases mem
    | cons first rest ih =>
      obtain ⟨fresh, distinctRest⟩ := List.nodup_cons.mp distinct
      rw [List.foldl_cons]
      rcases List.mem_cons.mp mem with rfl | later
      · have untouched (start : String → Option CacheEntry) :
            rest.foldl insertFile start file.1 = start file.1 := by
          clear ih distinct distinctRest mem
          induction rest generalizing start with
          | nil => rfl
          | cons next rest ih =>
            rw [List.map_cons, List.mem_cons, not_or] at fresh
            rw [List.foldl_cons, ih fresh.2, insertFile, update_of_ne fresh.1]
        rw [untouched, insertFile, update_self]
      · exact ih distinctRest _ later
  have distinct : ((registration.chunks.map fun registered =>
      (registered.id, Chunk.mk none
        (registered.protoChunk.metaData registered.type_))).map Prod.fst).Nodup := by
    rw [List.map_map]
    exact registration.distinct
  exact folded _ distinct (fun _ => none) (List.mem_map.mpr ⟨registered, mem, rfl⟩)

theorem holds_manager : registration.Holds formats mddPath (registration.manager mddPath) := by
  constructor
  · rfl
  · intro registered mem
    exact ⟨_, files_manager mem, rfl, by simp⟩

theorem Registration.Holds.sweep (holds : registration.Holds formats mddPath manager) (now : Nat) :
    registration.Holds formats mddPath (manager.sweep now) := by
  refine ⟨holds.path, ?_⟩
  intro registered mem
  obtain ⟨cache, found, shown, own⟩ := holds.entry registered mem
  refine ⟨cache.expire now, by simp [FileManager.sweep, found], ?_⟩
  rw [CacheEntry.expire]
  split
  · exact ⟨shown, own⟩
  · split
    · exact ⟨shown, own⟩
    · exact ⟨shown, by simp⟩

theorem Registration.Holds.get (holds : registration.Holds formats mddPath manager)
    (loaded : mmapAndDecodeMdd formats .none disk mddPath = .ok mddFile)
    (found : ∀ registered ∈ registration.chunks, registered.FoundByName formats mddFile)
    (id : String) (now : Nat) :
    registration.Holds formats mddPath (manager.get formats disk id now).2 ∧
      ∀ registered ∈ registration.chunks, registered.id = id →
        ∃ metaData bytes, manager.list id = some metaData ∧
          registered.protoChunk.decompressed formats = .ok (some bytes) ∧
          (manager.get formats disk id now).1 = .ok (metaData, bytes) := by
  have returned {registered : Registered} (mem : registered ∈ registration.chunks)
      {cache : CacheEntry} (entry : manager.files registered.id = some cache) :
      ∃ bytes, registered.protoChunk.decompressed formats = .ok (some bytes) ∧
        loadChunk formats disk cache.chunk manager.mddPath =
          (.ok bytes, { cache.chunk with payload := some bytes }) := by
    obtain ⟨other, same, shown, own⟩ := holds.entry registered mem
    obtain rfl := Option.some.inj (same.symm.trans entry)
    obtain ⟨lastAccessed, payload, metaData⟩ := other
    rw [loadChunk]
    cases payload with
    | some payload => exact ⟨payload, own payload rfl, rfl⟩
    | none =>
      obtain ⟨bytes, itself, reads⟩ :=
        (loadChunkData_eq_ok_iff_foundByName loaded).mpr (found registered mem)
      rw [← shown, ← holds.path] at reads
      exact ⟨bytes, itself, by simp [reads]⟩
  constructor
  · cases entry : manager.files id with
    | none => simpa [FileManager.get, entry] using holds
    | some cache =>
      simp only [FileManager.get, entry]
      refine ⟨holds.path, ?_⟩
      intro registered mem
      by_cases same : registered.id = id
      · rw [← same] at entry
        obtain ⟨bytes, itself, loads⟩ := returned mem entry
        obtain ⟨other, again, shown, own⟩ := holds.entry registered mem
        obtain rfl := Option.some.inj (again.symm.trans entry)
        refine ⟨⟨some now, { other.chunk with payload := some bytes }⟩, ?_, shown, ?_⟩
        · dsimp only
          rw [same, update_self, loads]
        · simpa using itself
      · dsimp only
        rw [update_of_ne same]
        exact holds.entry registered mem
  · rintro registered mem rfl
    obtain ⟨cache, entry, shown, own⟩ := holds.entry registered mem
    obtain ⟨bytes, itself, loads⟩ := returned mem entry
    refine ⟨cache.chunk.metaData, bytes, by simp [FileManager.list, entry], itself, ?_⟩
    simp [FileManager.get, entry, loads, Except.map]

theorem Registration.Holds.replies (holds : registration.Holds formats mddPath manager)
    (loaded : mmapAndDecodeMdd formats .none disk mddPath = .ok mddFile)
    (found : ∀ registered ∈ registration.chunks, registered.FoundByName formats mddFile)
    (calls : List Call) :
    ∀ reply ∈ replies formats disk manager calls, ∀ registered ∈ registration.chunks,
      registered.id = reply.id → ∃ metaData bytes, reply.list reply.id = some metaData ∧
          registered.protoChunk.decompressed formats = .ok (some bytes) ∧
          reply.outcome = .ok (metaData, bytes) := by
  induction calls generalizing manager with
  | nil => simp [Files.replies]
  | cons call rest ih =>
    cases call with
    | sweep now => exact ih (holds.sweep now)
    | get id now =>
      obtain ⟨after, answers⟩ := holds.get loaded found id now
      intro reply mem
      rcases List.mem_cons.mp mem with rfl | later
      · exact answers
      · exact ih after reply later

/-- The file manager is transparent exactly when each registered chunk is found by its name. -/
theorem cacheTransparent_iff (formats : Formats) (disk : Disk) (registration : Registration mddFile)
    (loaded : mmapAndDecodeMdd formats .none disk mddPath = .ok mddFile) :
    registration.Transparent formats disk mddPath ↔
      ∀ registered ∈ registration.chunks, registered.FoundByName formats mddFile := by
  constructor
  · intro transparent registered mem
    apply (loadChunkData_eq_ok_iff_foundByName loaded).mp
    have first := transparent [.get registered.id 0] _ List.mem_cons_self registered mem rfl
    obtain ⟨metaData, bytes, _, own, outcome⟩ := first
    refine ⟨bytes, own, ?_⟩
    simp only [files_manager mem, loadChunk] at outcome
    cases reads : loadChunkData formats .none disk mddPath
        (registered.protoChunk.metaData registered.type_) with
    | error error =>
      have path : (registration.manager mddPath).mddPath = mddPath := rfl
      simp [path, reads, Except.map] at outcome
    | ok found =>
      have path : (registration.manager mddPath).mddPath = mddPath := rfl
      simp only [path, reads, Except.map, Except.ok.injEq, Prod.mk.injEq] at outcome
      rw [outcome.2]
  · intro found calls
    exact holds_manager.replies loaded found calls

end Run

namespace CodeFiles

def chunk (name : Option String) : ProtoChunk := ⟨1, name, none, none, some [0x2A], none⟩

def mddFile (name : Option String) : MddFile := ⟨"E", [chunk name]⟩

def encodedUnnamed : Bytes := [0x1A, 0x01, 0x45, 0x32, 0x05, 0x08, 0x01, 0x42, 0x01, 0x2A]

def encodedNamed : Bytes :=
  [0x1A, 0x01, 0x45, 0x32, 0x08, 0x08, 0x01, 0x12, 0x01, 0x63, 0x42, 0x01, 0x2A]

def formats : Formats where
  decode := fun payload =>
    if payload = encodedUnnamed then .ok (mddFile none)
    else if payload = encodedNamed then .ok (mddFile (some "c"))
    else .error "invalid wire type"
  encode := fun file => if file = mddFile none then encodedUnnamed else encodedNamed
  lzma := fun _ => .error "Invalid data"
  sha512 := fun data => data
  toLowercase := String.toLower

def disk : Disk := fun path =>
  if path = "e.mdd" then some (fileMagicBytes ++ encodedUnnamed)
  else if path = "c.mdd" then some (fileMagicBytes ++ encodedNamed)
  else none

theorem loadedUnnamed : mmapAndDecodeMdd formats .none disk "e.mdd" = .ok (mddFile none) := by
  rw [mmapAndDecodeMdd_eq_ok_iff]
  exact ⟨rfl, _, rfl, by decide⟩

theorem loadedNamed : mmapAndDecodeMdd formats .none disk "c.mdd" = .ok (mddFile (some "c")) := by
  rw [mmapAndDecodeMdd_eq_ok_iff]
  exact ⟨rfl, _, rfl, by decide⟩

def registration (name : Option String) : Registration (mddFile name) where
  chunks := [⟨"id", .codeFile, chunk name⟩]
  listed := by
    intro registered member
    obtain rfl := List.mem_singleton.mp member
    exact ⟨List.mem_singleton.mpr rfl, ⟨false, .codeFile, none⟩, rfl, rfl, rfl, by simp⟩
  distinct := by simp

end CodeFiles

theorem transparent_named :
    (CodeFiles.registration (some "c")).Transparent CodeFiles.formats CodeFiles.disk "c.mdd" := by
  refine (cacheTransparent_iff CodeFiles.formats CodeFiles.disk (CodeFiles.registration (some "c"))
    CodeFiles.loadedNamed).mpr ?_
  intro registered mem
  obtain rfl := List.mem_singleton.mp mem
  refine ⟨?_, [0x2A], CodeFiles.chunk (some "c"), rfl, by decide, rfl⟩
  intro other mem asked
  obtain rfl := List.mem_singleton.mp mem
  exact ⟨_, rfl⟩

/-- A chunk without a name is looked for under the empty name and never found. -/
theorem not_transparent_unnamed :
    ¬∀ (formats : Formats) (disk : Disk) (mddPath : String) (mddFile : MddFile)
      (registration : Registration mddFile),
        mmapAndDecodeMdd formats .none disk mddPath = .ok mddFile →
          (∀ protoChunk ∈ mddFile.chunks, protoChunk.data.isSome) →
            registration.Transparent formats disk mddPath := by
  intro everyFileTransparent
  have transparent := everyFileTransparent CodeFiles.formats CodeFiles.disk "e.mdd" _
    (CodeFiles.registration none) CodeFiles.loadedUnnamed (by decide)
  have first := transparent [.get "id" 0] _ List.mem_cons_self _ List.mem_cons_self rfl
  obtain ⟨metaData, bytes, _, _, outcome⟩ := first
  have missing : loadChunkData CodeFiles.formats .none CodeFiles.disk "e.mdd"
      ((CodeFiles.chunk none).metaData .codeFile) =
        .error (.missingData "Chunk data with name  found in MDD file") := by
    rw [loadChunkData_eq CodeFiles.loadedUnnamed]
    rfl
  have entry := @files_manager "e.mdd" _ (CodeFiles.registration none) _ List.mem_cons_self
  simp only [entry, loadChunk] at outcome
  have path : ((CodeFiles.registration none).manager "e.mdd").mddPath = "e.mdd" := rfl
  simp [path, missing, Except.map] at outcome

end DiagnosticAdapter.Mdd.Files
