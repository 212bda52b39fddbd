import DiagnosticAdapter.Update.Upload

/-!
# What an upload leaves staged

Each accepted file is laid over what was staged before.  A rejected file is deleted again;
where that fails, the whole next-update collection is removed.
-/

namespace DiagnosticAdapter.Update

open Effects Function
open Storage (CollectionName Contents Content Bytes FileName StorageError
  Operation performAll)

def overlay (content : Content) (entries : List (FileName × Bytes)) : Content :=
  entries.foldl (fun content entry => update content entry.1 (some entry.2)) content

def Surroundings.entry (surroundings : Surroundings) (file : UploadFile) : FileName × Bytes :=
  (surroundings.toLowercase file.filename, file.data)

theorem current_ne_next : current.asStr ≠ next.asStr := by decide

theorem backup_ne_next : backup.asStr ≠ next.asStr := by decide

section Times

variable (surroundings : Surroundings)

end Times

/-- After so many calls that have changed nothing. -/
def State.later (state : State) (calls : Nat) : State :=
  { state with clock := state.clock + calls }

section Specs

variable {surroundings : Surroundings} {state : State} {tx : Transaction}
  {name source dest : CollectionName} {key : FileName} {data : Bytes} {store : Contents}

section Call

variable {which : Call} {change : Contents → Except StorageError Contents}

end Call

variable {alreadyExists initialized : Bool}

variable {content : Content}

variable {start : Content} {database : Option Content} {fresh ready : Bool}
  {files : List UploadFile} {after : State}

/-- The items are laid over what was listed at the start, as soon as the collection is `ready`;
before that it is an empty one that was not there. -/
structure Staging (start : Content) (database : Option Content) (fresh ready : Bool)
    (state : State) : Prop where
  unchanged : state.store current.asStr = database
  staged : ready = true → state.store next.asStr = some (overlay start state.items)
  accepted : ready = true → fresh = true → state.items ≠ []
  waiting : ready = false → fresh = true ∧ state.items = [] ∧
    state.store next.asStr = some (fun _ => none) ∧ start = database.getD fun _ => none

end Specs

def fileA : FileName := "a.mdd".toList

end DiagnosticAdapter.Update
