import Mathlib.Data.List.AList
import Mathlib.Data.String.Basic

/-!
# Loading the databases

`load_databases`: the files are loaded one after the other into two maps under the exact
names of the ECUs, and the entries of the maps are collected under the lower-cased names.
-/

namespace DiagnosticAdapter.Mdd

universe u

structure MddContent where
  ecuName : String
  logicalAddress : UInt16
  logicalGatewayAddress : UInt16
  revision : String
  chunks : List String
  deriving DecidableEq, Repr

/-- The names of duplicates, which are set afterwards, are left out. -/
structure EcuManager where
  mddPath : String
  logicalAddress : UInt16
  logicalGatewayAddress : UInt16
  revision : String
  deriving DecidableEq, Repr

structure EcuMetadata where
  mddPath : String
  valid : Bool
  deriving DecidableEq, Repr

structure FileManager where
  mddPath : String
  files : List String
  deriving DecidableEq, Repr

inductive AppError where
  | dataError (message : String)
  | configurationError (message : String)
  deriving DecidableEq, Repr

structure Configuration where
  ignoreInvalidMdd : Bool
  strictEcuConfig : Bool
  /-- The ECUs with a configuration of their own. -/
  ecu : List String
  deriving DecidableEq, Repr

abbrev LoadedEcuMap := AList fun _ : String => EcuManager × EcuMetadata

abbrev LoadedFileManagers := AList fun _ : String => FileManager

/-- The files by path; loading one may fail. -/
abbrev MddStore := String → Except String MddContent

structure HashOrder where
  ecus : List (Σ _ : String, EcuManager × EcuMetadata) →
    List (Σ _ : String, EcuManager × EcuMetadata)
  files : List (Σ _ : String, FileManager) → List (Σ _ : String, FileManager)
  permutesEcus : ∀ entries, (ecus entries).Perm entries
  permutesFiles : ∀ entries, (files entries).Perm entries

structure Databases where
  databases : String → Option EcuManager
  fileManagers : String → Option FileManager

def MddContent.ecuManager (content : MddContent) (path : String) : EcuManager :=
  ⟨path, content.logicalAddress, content.logicalGatewayAddress, content.revision⟩

def MddContent.fileManager (content : MddContent) (path : String) : FileManager :=
  ⟨path, content.chunks⟩

def EcuManager.logicalAddressEq (manager other : EcuManager) : Bool :=
  manager.logicalAddress == other.logicalAddress &&
    manager.logicalGatewayAddress == other.logicalGatewayAddress

def updateEntry (entry : Option (EcuManager × EcuMetadata)) (ecuManager : EcuManager)
    (ecuMetadata : EcuMetadata) : EcuManager × EcuMetadata :=
  match entry with
  | some (existingEcu, existingMeta) =>
    if !ecuManager.logicalAddressEq existingEcu then
      (existingEcu, { existingMeta with valid := false })
    else if existingEcu.revision < ecuManager.revision then (ecuManager, ecuMetadata)
    else (existingEcu, existingMeta)
  | none => (ecuManager, ecuMetadata)

def insertOrUpdateEcu (loadedEcus : LoadedEcuMap) (ecuName : String) (ecuManager : EcuManager)
    (ecuMetadata : EcuMetadata) : LoadedEcuMap :=
  loadedEcus.insert ecuName (updateEntry (loadedEcus.lookup ecuName) ecuManager ecuMetadata)

def insertMdd (maps : LoadedEcuMap × LoadedFileManagers) (path : String) (content : MddContent) :
    LoadedEcuMap × LoadedFileManagers :=
  (insertOrUpdateEcu maps.1 content.ecuName (content.ecuManager path) ⟨path, true⟩,
    maps.2.insert content.ecuName (content.fileManager path))

def loadMdd (config : Configuration) (store : MddStore)
    (maps : LoadedEcuMap × LoadedFileManagers) (path : String) :
    Except AppError (LoadedEcuMap × LoadedFileManagers) :=
  match store path with
  | .ok content => .ok (insertMdd maps path content)
  | .error e => if config.ignoreInvalidMdd then .ok maps else .error (.dataError e)

/-- Of two entries whose names differ by case only the later one stays. -/
def collect {Value : Type u} (toLowercase : String → String)
    (entries : List (Σ _ : String, Value)) : String → Option Value :=
  entries.foldl (fun collected entry =>
    Function.update collected (toLowercase entry.1) (some entry.2)) fun _ => none

def handleEcuConfigKeys (toLowercase : String → String) (config : Configuration)
    (databases : String → Option EcuManager) : Except AppError Unit :=
  let unmatched := (config.ecu.map toLowercase).dedup.filter fun key => (databases key).isNone
  if config.strictEcuConfig && !unmatched.isEmpty then
    .error (.configurationError ("[strict] ecu_config is enabled and the following per-ECU " ++
      "config entries do not match any loaded database: " ++ ", ".intercalate unmatched))
  else .ok ()

def validDatabases (toLowercase : String → String) (order : HashOrder)
    (loadedEcus : LoadedEcuMap) : String → Option EcuManager :=
  collect toLowercase (((order.ecus loadedEcus.entries).filter (·.2.2.valid)).map
    fun entry => ⟨entry.1, entry.2.1⟩)

def keptFileManagers (toLowercase : String → String) (order : HashOrder)
    (databases : String → Option EcuManager) (fileManagersMap : LoadedFileManagers) :
    String → Option FileManager :=
  collect toLowercase ((order.files fileManagersMap.entries).filter
    fun entry => (databases (toLowercase entry.1)).isSome)

def loadDatabases (toLowercase : String → String) (config : Configuration) (store : MddStore)
    (order : HashOrder) (mddPaths : List String) : Except AppError Databases := do
  let (loadedEcus, fileManagersMap) ← mddPaths.foldlM (loadMdd config store) (∅, ∅)
  let databases := validDatabases toLowercase order loadedEcus
  let fileManagers := keptFileManagers toLowercase order databases fileManagersMap
  handleEcuConfigKeys toLowercase config databases
  return ⟨databases, fileManagers⟩

end DiagnosticAdapter.Mdd
