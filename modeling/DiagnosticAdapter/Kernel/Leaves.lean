import DiagnosticAdapter.Kernel.LeafReading

/-!
# Leaves one after another

The parameters without nested ones at the end of nested structures, in the order in which
they are decoded.  All of them are stored in one map, each under the name that its kind
gives it.
-/

namespace DiagnosticAdapter.Kernel

open Bits Codec

variable {conv : Conversions}

/-- A parameter without nested ones, read at `bytePos` or at the read position in the bytes from
`viewStart` on; `place` is its position in all bytes. -/
structure Leaf (conv : Conversions) where
  name : Text
  content : Content conv
  viewStart : Nat
  bytePos : Option Nat
  bitPos : Nat
  place : Option Nat

structure Progress (conv : Conversions) where
  lastRead : Nat
  data : MappedPayload conv

namespace Leaf

variable (leaf : Leaf conv) (bytes : List UInt8) (progress : Progress conv)

def read : Except DiagServiceError (Container conv × Option Nat) :=
  leaf.content.read (bytes.drop leaf.viewStart) progress.data
    (leaf.bytePos.getD progress.lastRead) leaf.bitPos

def value? : Option (Container conv) := (leaf.read bytes progress).toOption.map Prod.fst

/-- The container for the bytes at the leaf's own position. -/
def valueAtPlace? : Option (Container conv) :=
  match leaf.place with
  | none => leaf.value? bytes progress
  | some place =>
    (leaf.content.read bytes progress.data place leaf.bitPos).toOption.map Prod.fst

/-- The read position stays within the view. -/
def after : Progress conv :=
  match leaf.read bytes progress with
  | .ok (container, next) =>
    ⟨next.elim progress.lastRead fun stop => min stop (bytes.length - leaf.viewStart),
      progress.data.insert leaf.name container⟩
  | .error _ => progress

end Leaf

section Steps

variable (bytes : List UInt8)

def stepsFrom : Progress conv → List (Leaf conv) → List (Leaf conv × Progress conv)
  | _, [] => []
  | progress, leaf :: rest => (leaf, progress) :: stepsFrom (leaf.after bytes progress) rest

def afterAll (progress : Progress conv) (leaves : List (Leaf conv)) : Progress conv :=
  leaves.foldl (fun progress leaf => leaf.after bytes progress) progress

/-- Every leaf can be read where it is looked for. -/
def AllRead (progress : Progress conv) (leaves : List (Leaf conv)) : Prop :=
  ∀ step ∈ stepsFrom bytes progress leaves, (step.1.read bytes step.2).toOption.isSome

end Steps

def HasEntries (data : MappedPayload conv) (count : Nat) : Prop :=
  ∃ names : List Text, names.Nodup ∧ names.length = count ∧ ∀ name, name ∈ names ↔ data name ≠ none

/-- There is an entry for every leaf, and it holds the value at the leaf's position. -/
structure LosesNothing (bytes : List UInt8) (progress : Progress conv)
    (leaves : List (Leaf conv)) (data : MappedPayload conv) : Prop where
  entries : HasEntries data leaves.length
  values : ∀ step ∈ stepsFrom bytes progress leaves,
    ∃ container, step.1.valueAtPlace? bytes step.2 = some container ∧
      data step.1.name = some container

section Final

variable {bytes : List UInt8}

theorem stepsFrom_append (progress : Progress conv) (first second : List (Leaf conv)) :
    stepsFrom bytes progress (first ++ second) = stepsFrom bytes progress first ++
        stepsFrom bytes (afterAll bytes progress first) second := by
  induction first generalizing progress with
  | nil => rfl
  | cons leaf rest ih =>
    exact congrArg _ (ih (leaf.after bytes progress))

theorem allRead_append {progress : Progress conv} {first second : List (Leaf conv)} :
    AllRead bytes progress (first ++ second) ↔
      AllRead bytes progress first ∧ AllRead bytes (afterAll bytes progress first) second := by
  rw [AllRead, stepsFrom_append, List.forall_mem_append]
  rfl

theorem map_fst_stepsFrom (progress : Progress conv) (leaves : List (Leaf conv)) :
    (stepsFrom bytes progress leaves).map Prod.fst = leaves := by
  induction leaves generalizing progress with
  | nil => rfl
  | cons leaf rest ih =>
    exact congrArg _ (ih (leaf.after bytes progress))

variable {leaves : List (Leaf conv)}

theorem mem_of_mem_stepsFrom {progress : Progress conv}
    {step : Leaf conv × Progress conv} (isStep : step ∈ stepsFrom bytes progress leaves) :
    step.1 ∈ leaves := by
  rw [← map_fst_stepsFrom progress leaves]
  exact List.mem_map_of_mem isStep

theorem Leaf.after_data_of_ne {leaf : Leaf conv} {progress : Progress conv} {name : Text}
    (other : name ≠ leaf.name) : (leaf.after bytes progress).data name = progress.data name := by
  rw [Leaf.after]
  split
  · exact Function.update_of_ne other _ _
  · rfl

theorem Leaf.after_data_name {leaf : Leaf conv} {progress : Progress conv}
    (read : (leaf.read bytes progress).toOption.isSome) :
    (leaf.after bytes progress).data leaf.name = leaf.value? bytes progress ∧
      leaf.value? bytes progress ≠ none := by
  rw [Leaf.after, Leaf.value?]
  cases outcome : leaf.read bytes progress with
  | error failure =>
    rw [outcome] at read
    cases read
  | ok result => exact ⟨Function.update_self _ _ _, Option.some_ne_none _⟩

theorem afterAll_data_of_notMem {progress : Progress conv}
    {name : Text} (other : name ∉ leaves.map Leaf.name) :
    (afterAll bytes progress leaves).data name = progress.data name := by
  induction leaves generalizing progress with
  | nil => rfl
  | cons leaf rest ih =>
    rw [List.map_cons, List.mem_cons, not_or] at other
    exact (ih other.2).trans (Leaf.after_data_of_ne other.1)

theorem mem_names_iff {progress : Progress conv}
    (read : AllRead bytes progress leaves) (name : Text) :
    (afterAll bytes progress leaves).data name ≠ none ↔
      name ∈ leaves.map Leaf.name ∨ progress.data name ≠ none := by
  induction leaves generalizing progress with
  | nil => simp [afterAll]
  | cons leaf rest ih =>
    rw [AllRead, stepsFrom, List.forall_mem_cons] at read
    change (afterAll bytes (leaf.after bytes progress) rest).data name ≠ none ↔ _
    rw [ih read.2, List.map_cons, List.mem_cons]
    by_cases own : name = leaf.name
    · subst own
      obtain ⟨stored, given⟩ := Leaf.after_data_name read.1
      rw [stored]
      exact ⟨fun _ => .inl (.inl rfl), fun _ => .inr given⟩
    · rw [Leaf.after_data_of_ne own]
      simp only [own, false_or]

theorem afterAll_data_of_nodup {progress : Progress conv}
    (nodup : (leaves.map Leaf.name).Nodup) (read : AllRead bytes progress leaves) :
    ∀ step ∈ stepsFrom bytes progress leaves,
      (afterAll bytes progress leaves).data step.1.name = step.1.value? bytes step.2 ∧
        step.1.value? bytes step.2 ≠ none := by
  induction leaves generalizing progress with
  | nil =>
    intro step isStep
    cases isStep
  | cons leaf rest ih =>
    rw [AllRead, stepsFrom, List.forall_mem_cons] at read
    rw [List.map_cons, List.nodup_cons] at nodup
    intro step isStep
    rw [stepsFrom, List.mem_cons] at isStep
    rcases isStep with first | later
    · subst first
      obtain ⟨stored, given⟩ := Leaf.after_data_name read.1
      exact ⟨(afterAll_data_of_notMem nodup.1).trans stored, given⟩
    · exact ih nodup.2 read.2 step later

/-- Decoding the leaves into an empty map loses nothing exactly if no two of them are
stored under one name and each holds what lies at its own position. -/
theorem losesNothing_iff {lastRead : Nat} (read : AllRead bytes ⟨lastRead, .empty⟩ leaves) :
    LosesNothing bytes ⟨lastRead, .empty⟩ leaves (afterAll bytes ⟨lastRead, .empty⟩ leaves).data ↔
      (leaves.map Leaf.name).Nodup ∧ ∀ step ∈ stepsFrom bytes ⟨lastRead, .empty⟩ leaves,
          step.1.valueAtPlace? bytes step.2 = step.1.value? bytes step.2 := by
  have stored := mem_names_iff read
  constructor
  · intro complete
    obtain ⟨names, nodup, count, holds⟩ := complete.entries
    have subset : names ⊆ leaves.map Leaf.name := by
      intro name isName
      rcases (stored name).1 ((holds name).1 isName) with own | older
      · exact own
      · exact absurd rfl older
    have enough : (leaves.map Leaf.name).length ≤ names.length := by
      rw [List.length_map, count]
    have distinct : (leaves.map Leaf.name).Nodup :=
      ((List.subperm_of_subset nodup subset).perm_of_length_le enough).nodup_iff.1 nodup
    refine ⟨distinct, fun step isStep => ?_⟩
    obtain ⟨container, placed, entry⟩ := complete.values step isStep
    rw [placed, ← entry]
    exact (afterAll_data_of_nodup distinct read step isStep).1
  · intro condition
    obtain ⟨distinct, inPlace⟩ := condition
    constructor
    · refine ⟨leaves.map Leaf.name, distinct, List.length_map _, fun name => ?_⟩
      rw [stored name]
      exact ⟨.inl, fun either => either.resolve_right fun older => older rfl⟩
    · intro step isStep
      obtain ⟨entry, given⟩ := afterAll_data_of_nodup distinct read step isStep
      obtain ⟨container, found⟩ := Option.ne_none_iff_exists'.1 given
      exact ⟨container, (inPlace step isStep).trans found, entry.trans found⟩

end Final

end DiagnosticAdapter.Kernel
