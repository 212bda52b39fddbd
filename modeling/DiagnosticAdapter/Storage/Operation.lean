import DiagnosticAdapter.Lookup.Spelling
import DiagnosticAdapter.Storage.Disk

/-!
# Recorded operations and their accepted names

Operations refer to collections by name and to staged data by the file name
inside the staging directory.  The build with the `sanitize-paths` feature
checks that a name is one path segment; the build without it is told so by its
callers.
-/

namespace DiagnosticAdapter.Storage

inductive CollectionName where
  | diagnosticDatabase
  | diagnosticDatabaseNextUpdate
  | diagnosticDatabaseBackup
  | custom (name : FileName)
  deriving DecidableEq, Repr

/-- Two names are one collection when they have the same directory. -/
def CollectionName.asStr : CollectionName → FileName
  | .diagnosticDatabase => "diagnostic_database".toList
  | .diagnosticDatabaseNextUpdate => "diagnostic_database_next_update".toList
  | .diagnosticDatabaseBackup => "diagnostic_database_backup".toList
  | .custom name => name

inductive Operation where
  | write (collection : CollectionName) (key : FileName) (stagedPath : FileName)
  | delete (collection : CollectionName) (key : FileName)
  | deleteAll (collection : CollectionName)
  | createCollection (name : CollectionName)
  | deleteCollection (name : CollectionName)
  | copyCollection (source dest : CollectionName) (destExisted : Bool)
  deriving DecidableEq, Repr

namespace Operation

def writesTo (name key : FileName) : Operation → Bool
  | .write collection written _ => collection.asStr == name && written == key
  | _ => false

def creates (name : FileName) : Operation → Bool
  | .createCollection created => created.asStr == name
  | _ => false

/-- The operation copies into a collection that did not exist when it was
recorded. -/
def copiesToNew (name : FileName) : Operation → Bool
  | .copyCollection _ dest destExisted => dest.asStr == name && !destExisted
  | _ => false

def collectionNames : Operation → List FileName
  | .write collection _ _ | .delete collection _ | .deleteAll collection =>
    [collection.asStr]
  | .createCollection name | .deleteCollection name => [name.asStr]
  | .copyCollection source dest _ => [source.asStr, dest.asStr]

def keyNames : Operation → List FileName
  | .write _ key _ | .delete _ key => [key]
  | _ => []

/-- None of the names an operation refers to is the name of a backup. -/
def OriginalNames (operation : Operation) : Prop :=
  (∀ name ∈ operation.collectionNames, Original name) ∧ ∀ key ∈ operation.keyNames, Original key

instance (operation : Operation) : Decidable operation.OriginalNames :=
  inferInstanceAs (Decidable ((∀ name ∈ operation.collectionNames, Original name) ∧
    ∀ key ∈ operation.keyNames, Original key))

end Operation

/-- `sanitizePaths` is the feature of that name; the build without it accepts
every string. -/
def sanitizePathSegment (sanitizePaths : Bool) (segment : FileName) : Except StorageError Unit :=
  if sanitizePaths = false then .ok ()
  else if segment = [] then .error (.other "Path segment must not be empty")
  else if segment = ['.'] ∨ segment = ['.', '.'] then
    .error (.other s!"Path segment must not be a relative reference: {repr (String.ofList segment)}")
  else if '/' ∈ segment ∨ '\\' ∈ segment then
    .error (.other s!"Path segment must not contain separators: {repr (String.ofList segment)}")
  else if '\x00' ∈ segment then
    .error (.other s!"Path segment must not contain null bytes: {repr (String.ofList segment)}")
  else .ok ()

/-- The name is a single component of a path, in which a backslash is a letter. -/
def PathSegment (name : FileName) : Prop :=
  name ∉ [[], ['.'], ['.', '.']] ∧ '/' ∉ name ∧ '\x00' ∉ name

instance (name : FileName) : Decidable (PathSegment name) := inferInstanceAs (Decidable (_ ∧ _))

/-- Without the feature the callers are trusted to pass a path segment. -/
def Trusted (sanitizePaths : Bool) (name : FileName) : Prop :=
  sanitizePaths = false → PathSegment name

instance (sanitizePaths : Bool) (name : FileName) : Decidable (Trusted sanitizePaths name) :=
  inferInstanceAs (Decidable (sanitizePaths = false → PathSegment name))

def normalizeKey (key : FileName) : FileName := key.map Char.toLower

@[simp]
theorem normalizeKey_normalizeKey (key : FileName) :
    normalizeKey (normalizeKey key) = normalizeKey key := by
  unfold normalizeKey
  rw [List.map_map]
  exact List.map_congr_left fun letter _ => Lookup.toLower_toLower letter

theorem PathSegment.of_passed {sanitizePaths : Bool} {name : FileName}
    (trusted : Trusted sanitizePaths name)
    (passed : sanitizePathSegment sanitizePaths name = .ok ()) : PathSegment name := by
  cases sanitizePaths with
  | false => exact trusted rfl
  | true =>
    rw [sanitizePathSegment, if_neg (by decide)] at passed
    split_ifs at passed with empty relative separated terminated
    rw [not_or] at relative separated
    exact ⟨by simp [empty, relative], separated.1, terminated⟩

theorem PathSegment.ne_nil {name : FileName} (segment : PathSegment name) : name ≠ [] := by
  rintro rfl
  exact segment.1 List.mem_cons_self

end DiagnosticAdapter.Storage
