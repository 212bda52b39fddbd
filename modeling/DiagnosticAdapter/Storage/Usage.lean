import DiagnosticAdapter.Effects.Run
import DiagnosticAdapter.Storage.Keys
import DiagnosticAdapter.Storage.PointOfNoReturn

/-!
# The use of one collection

Keys are read, looked up, listed, written and deleted in any case; what a
transaction writes and deletes takes effect when it is committed.  Beside the
disk runs a map from normalized keys to the content that was most recently
committed for them.
-/

namespace DiagnosticAdapter.Storage

open Effects

inductive Change where
  | write (key : FileName) (data : Bytes)
  | delete (key : FileName)

def Change.key : Change → FileName
  | .write key _ | .delete key => normalizeKey key

def Change.content : Change → Option Bytes
  | .write _ data => some data
  | .delete _ => none

def Change.perform (change : Change) (latest : FileName → Option Bytes) : FileName → Option Bytes :=
  Function.update latest change.key change.content

structure Usage where
  disk : Disk
  /-- The operations of the transaction that is being recorded, with what the
  calls have asked for. -/
  recording : Option (List (Operation × Change))
  /-- The content most recently committed for a normalized key. -/
  latest : FileName → Option Bytes

def Usage.start (disk : Disk) (name : FileName) : Usage :=
  ⟨disk, none, firstContent disk name⟩

inductive UsageEvent where
  | read (key : FileName)
  | metadata (key : FileName)
  | filePath (key : FileName)
  | list
  | len
  | begin
  | write (key : FileName) (data : Bytes)
  | delete (key : FileName)
  | commit (env : Env Site FileName)
  | discard

section Steps

variable (codec : Codec) (sanitizePaths : Bool) (collection : CollectionName)

/-- One call, in any surroundings.  A call that fails may still have changed
the disk; a commit that fails is not part of the run. -/
inductive Use : Usage → UsageEvent → Usage → Prop where
  | read {usage : Usage} {key : FileName} {env : Env Site FileName} {clock : Nat} :
      Use usage (.read key)
        { usage with
          disk := (read sanitizePaths collection.asStr key env .read clock usage.disk).state }
  | metadata {usage : Usage} {key : FileName} {env : Env Site FileName} {clock : Nat} :
      Use usage (.metadata key)
        { usage with
          disk := (metadata sanitizePaths collection.asStr key env .read clock usage.disk).state }
  | filePath {usage : Usage} {key : FileName} {env : Env Site FileName} {clock : Nat} :
      Use usage (.filePath key)
        { usage with
          disk := (filePath sanitizePaths collection.asStr key env .read clock usage.disk).state }
  | list {usage : Usage} {env : Env Site FileName} {clock : Nat} :
      Use usage .list
        { usage with disk := (listKeysInDir collection.asStr env .read clock usage.disk).state }
  | len {usage : Usage} {env : Env Site FileName} {clock : Nat} :
      Use usage .len { usage with disk := (len collection.asStr env .read clock usage.disk).state }
  | begin {usage : Usage} {env : Env Site FileName} {clock : Nat} :
      usage.recording = none →
      (createJournal codec env .record clock usage.disk).result = .ok () →
      Use usage .begin
        { usage with
          disk := (createJournal codec env .record clock usage.disk).state
          recording := some [] }
  -- The staging name is a fresh UUID.
  | write {usage : Usage} {recorded : List (Operation × Change)} {key stagingFileName : FileName}
      {data : Bytes} {operation : Operation} {env : Env Site FileName} {clock : Nat} :
      usage.recording = some recorded → usage.disk.staging.lookup stagingFileName = none →
      (write codec sanitizePaths collection key stagingFileName data env .record clock
        usage.disk).result = .ok operation →
      Use usage (.write key data)
        { usage with
          disk := (write codec sanitizePaths collection key stagingFileName data env .record clock
            usage.disk).state
          recording := some (recorded ++ [(operation, .write key data)]) }
  | writeFailed {usage : Usage} {recorded : List (Operation × Change)}
      {key stagingFileName : FileName} {data : Bytes} {error : StorageError}
      {env : Env Site FileName} {clock : Nat} :
      usage.recording = some recorded → usage.disk.staging.lookup stagingFileName = none →
      (write codec sanitizePaths collection key stagingFileName data env .record clock
        usage.disk).result = .error error →
      Use usage (.write key data)
        { usage with
          disk := (write codec sanitizePaths collection key stagingFileName data env .record clock
            usage.disk).state }
  | delete {usage : Usage} {recorded : List (Operation × Change)} {key : FileName}
      {operation : Operation} {env : Env Site FileName} {clock : Nat} :
      usage.recording = some recorded →
      (delete codec sanitizePaths collection key env .record clock usage.disk).result =
        .ok operation →
      Use usage (.delete key)
        { usage with
          disk := (delete codec sanitizePaths collection key env .record clock usage.disk).state
          recording := some (recorded ++ [(operation, .delete key)]) }
  | deleteFailed {usage : Usage} {recorded : List (Operation × Change)} {key : FileName}
      {error : StorageError} {env : Env Site FileName} {clock : Nat} :
      usage.recording = some recorded →
      (delete codec sanitizePaths collection key env .record clock usage.disk).result =
        .error error →
      Use usage (.delete key)
        { usage with
          disk := (delete codec sanitizePaths collection key env .record clock usage.disk).state }
  | commit {usage : Usage} {recorded : List (Operation × Change)} {env : Env Site FileName}
      {site : Site} {clock : Nat} :
      usage.recording = some recorded →
      (applyInner codec (recorded.map Prod.fst) env site clock usage.disk).result = .ok () →
      Use usage (.commit env)
        { disk := (applyInner codec (recorded.map Prod.fst) env site clock usage.disk).state
          recording := none
          latest := (recorded.map Prod.snd).foldl (fun latest change => change.perform latest)
            usage.latest }
  | discard {usage : Usage} {recorded : List (Operation × Change)} {env : Env Site FileName}
      {site : Site} {clock : Nat} :
      usage.recording = some recorded →
      Use usage .discard
        { usage with
          disk := (discard env site clock usage.disk).state
          recording := none }

end Steps

/-- The build does not refuse a key that is listed. -/
def AcceptedKeys (sanitizePaths : Bool) (content : FileName → Option Bytes) : Prop :=
  ∀ file, keySpelling.Shown content file →
    sanitizePathSegment sanitizePaths (normalizeKey file) = .ok ()

def UsageEvent.keys : UsageEvent → List FileName
  | .read key | .metadata key | .filePath key | .write key _ | .delete key => [normalizeKey key]
  | .list | .len | .begin | .commit _ | .discard => []

/-- Without the `sanitize-paths` feature the call names path segments only.  A
commit meets no listed file that is another spelling of a key it writes, and
backups it could leave behind are not taken for a key. -/
structure Unambiguous (sanitizePaths : Bool) (collection : CollectionName) (usage : Usage)
    (event : UsageEvent) : Prop where
  trusted : ∀ name ∈ collection.asStr :: event.keys, Trusted sanitizePaths name
  unrivalled : ∀ env, event = .commit env → ∀ recorded, usage.recording = some recorded →
    ∀ entry ∈ recorded, ∀ key data, entry.2 = .write key data →
      keySpelling.Unrivalled (usage.disk.contents.file collection.asStr) (normalizeKey key)
  undisturbed : ∀ env, event = .commit env → env.Faultless .cleanup ∨
    (isBackup collection.asStr = false ∧
      ∀ file, keySpelling.Shown (usage.disk.contents.file collection.asStr) file →
        isBackup (normalizeKey file) = false)

/-- What the calls find under a listed key. -/
structure Found (codec : Codec) (sanitizePaths : Bool) (collection : CollectionName) (disk : Disk)
    (key : FileName) (bytes : Bytes) : Prop where
  read : ∀ (env : Env Site FileName) (clock : Nat), env.Faultless .read →
    (read sanitizePaths collection.asStr key env .read clock disk).result = .ok bytes
  metadata : ∀ (env : Env Site FileName) (clock : Nat), env.Faultless .read →
    (metadata sanitizePaths collection.asStr key env .read clock disk).result =
      .ok ⟨normalizeKey key, bytes.length, []⟩
  /-- A call that records the removal records that of the file. -/
  delete : ∀ (env : Env Site FileName) (clock : Nat), env.Faultless .record →
    (delete codec sanitizePaths collection key env .record clock disk).state.contents.file
        collection.asStr (normalizeKey key) = some bytes ∧
      ∀ data, disk.wal = some data →
        (codec.toBytes (.delete collection (normalizeKey key))).length < 4294967296 →
        (delete codec sanitizePaths collection key env .record clock disk).result =
          .ok (.delete collection (normalizeKey key))

/-- The listing names every key once, and each call finds the listed keys, in
any case, with what was most recently committed for them. -/
structure Agrees (codec : Codec) (sanitizePaths : Bool) (collection : CollectionName)
    (latest : FileName → Option Bytes) (disk : Disk) : Prop where
  list : ∀ (env : Env Site FileName) (clock : Nat), env.Faultless .read →
    ∃ keys, (listKeysInDir collection.asStr env .read clock disk).result = .ok keys ∧ keys.Nodup ∧
      (len collection.asStr env .read clock disk).result = .ok keys.toFinset.card ∧
      (isBackup collection.asStr = false → ∀ key, isValidKey key = true → latest key ≠ none →
        key ∈ keys) ∧
      ∀ key, normalizeKey key ∈ keys →
        ∃ bytes, latest (normalizeKey key) = some bytes ∧
          Found codec sanitizePaths collection disk key bytes

end DiagnosticAdapter.Storage
