import Mathlib.Data.List.Nodup

/-!
# Maps in the order of insertion

A map that keeps its entries in the order in which their keys were first inserted, and finds a
key together with its place.
-/

namespace DiagnosticAdapter.Collections

structure IndexMap (Key Value : Type) where
  entries : List (Key × Value)
  distinct : (entries.map Prod.fst).Nodup

namespace IndexMap

section

variable {Key Value : Type}

def empty : IndexMap Key Value := ⟨[], List.nodup_nil⟩

def front (map : IndexMap Key Value) (place : Nat) : List (Key × Value) := map.entries.take place

theorem place_unique {map : IndexMap Key Value} {key : Key} {first second : Value}
    {place other : Nat} (here : map.entries[place]? = some (key, first))
    (there : map.entries[other]? = some (key, second)) : place = other := by
  obtain ⟨inside, _⟩ := List.getElem?_eq_some_iff.mp here
  have same : (map.entries.map Prod.fst)[place]? = (map.entries.map Prod.fst)[other]? := by
    rw [List.getElem?_map, List.getElem?_map, here, there]
    rfl
  exact (List.getElem?_inj (by rwa [List.length_map]) map.distinct).mp same

end

variable {Key Value : Type} [DecidableEq Key]

def getFull (map : IndexMap Key Value) (key : Key) : Option (Nat × Value) :=
  (map.entries.findIdx? fun entry => entry.1 = key).bind fun place =>
    map.entries[place]?.map fun entry => (place, entry.2)

/-- The value of a key that is there is changed in its place. -/
def modify (map : IndexMap Key Value) (key : Key) (change : Value → Value) :
    IndexMap Key Value where
  entries := map.entries.map fun entry =>
    if entry.1 = key then (entry.1, change entry.2) else entry
  distinct := by
    have same : (map.entries.map fun entry =>
        if entry.1 = key then (entry.1, change entry.2) else entry).map Prod.fst =
          map.entries.map Prod.fst := by
      rw [List.map_map]
      apply List.map_congr_left
      intro entry _
      simp only [Function.comp_apply]
      split_ifs <;> rfl
    rw [same]
    exact map.distinct

/-- A new key comes last, and one that is there keeps its place. -/
def insert (map : IndexMap Key Value) (key : Key) (value : Value) : IndexMap Key Value :=
  if absent : key ∈ map.entries.map Prod.fst then map.modify key fun _ => value
  else
    { entries := map.entries ++ [(key, value)]
      distinct := by
        rw [List.map_append]
        exact map.distinct.append (List.nodup_singleton key) (by simpa using absent) }

/-- The entries behind a removed one move up. -/
def shiftRemove (map : IndexMap Key Value) (key : Key) : IndexMap Key Value where
  entries := map.entries.filter fun entry => entry.1 ≠ key
  distinct := map.distinct.sublist (List.filter_sublist.map Prod.fst)

variable {map : IndexMap Key Value} {key other : Key} {value : Value} {place : Nat}

theorem getFull_eq_some_iff :
    map.getFull key = some (place, value) ↔ map.entries[place]? = some (key, value) := by
  rw [getFull, Option.bind_eq_some_iff]
  constructor
  · rintro ⟨found, first, read⟩
    obtain ⟨entry, here, same⟩ := Option.map_eq_some_iff.mp read
    cases same
    obtain ⟨inside, isKey, _⟩ := List.findIdx?_eq_some_iff_getElem.mp first
    rw [here]
    obtain ⟨inside', same⟩ := List.getElem?_eq_some_iff.mp here
    rw [same] at isKey
    rw [← of_decide_eq_true isKey]
  · intro here
    obtain ⟨inside, same⟩ := List.getElem?_eq_some_iff.mp here
    refine ⟨place, ?_, by rw [here]; rfl⟩
    rw [List.findIdx?_eq_some_iff_getElem]
    refine ⟨inside, by rw [same]; exact decide_eq_true rfl, ?_⟩
    intro earlier before isKey
    have earlierHere : map.entries[earlier]? = some (key, map.entries[earlier].2) := by
      rw [List.getElem?_eq_getElem (Nat.lt_trans before inside)]
      have sameKey := of_decide_eq_true isKey
      rw [← sameKey]
    exact absurd (place_unique earlierHere here) (Nat.ne_of_lt before)

variable {change : Value → Value}

theorem getElem?_modify : (map.modify key change).entries[place]? =
    map.entries[place]?.map fun entry =>
      if entry.1 = key then (entry.1, change entry.2) else entry :=
  List.getElem?_map

theorem front_modify (behind : key ∉ (map.front place).map Prod.fst) :
    (map.modify key change).front place = map.front place := by
  rw [front, modify, ← List.map_take]
  refine (List.map_congr_left ?_).trans (List.map_id _)
  intro entry mem
  have ne : entry.1 ≠ key := by
    rintro rfl
    exact behind (List.mem_map_of_mem mem)
  exact if_neg ne

section

variable (inside : place ≤ map.entries.length) (behind : key ∉ (map.front place).map Prod.fst)

include inside behind

theorem front_insert : (map.insert key value).front place = map.front place := by
  rw [insert]
  split_ifs
  · exact front_modify behind
  · exact List.take_append_of_le_length inside

theorem front_shiftRemove : (map.shiftRemove key).front place = map.front place := by
  have kept : (map.entries.take place).filter (fun entry => entry.1 ≠ key) =
      map.entries.take place := by
    rw [List.filter_eq_self]
    intro entry mem
    apply decide_eq_true
    rintro rfl
    exact behind (List.mem_map_of_mem mem)
  have length : (map.entries.take place).length = place := List.length_take_of_le inside
  have split : (map.shiftRemove key).entries = map.entries.take place ++
      (map.entries.drop place).filter fun entry => entry.1 ≠ key := by
    conv_rhs => rw [← kept, ← List.filter_append, List.take_append_drop]
    rfl
  rw [front, split, List.take_append_of_le_length (Nat.le_of_eq length.symm),
    List.take_of_length_le (Nat.le_of_eq length)]
  rfl

end

section

variable (ne : other ≠ key) (here : map.entries[place]? = some (other, value))

include ne here

theorem getElem?_modify_of_ne : (map.modify key change).entries[place]? = some (other, value) := by
  rw [getElem?_modify, here, Option.map_some, if_neg ne]

theorem getElem?_insert_of_ne {inserted : Value} :
    (map.insert key inserted).entries[place]? = some (other, value) := by
  rw [insert]
  split_ifs
  · exact getElem?_modify_of_ne ne here
  · obtain ⟨inside, _⟩ := List.getElem?_eq_some_iff.mp here
    rw [List.getElem?_append_left inside, here]

end

omit [DecidableEq Key] in
theorem ne_of_mem_front (before : key ∈ (map.front place).map Prod.fst)
    (here : map.entries[place]? = some (other, value)) : other ≠ key := by
  rintro rfl
  obtain ⟨entry, mem, same⟩ := List.mem_map.mp before
  obtain ⟨earlier, inside, isEntry⟩ := List.getElem_of_mem mem
  rw [front, List.length_take] at inside
  have earlierHere : map.entries[earlier]? = some (other, entry.2) := by
    rw [List.getElem?_eq_some_iff]
    refine ⟨by omega, ?_⟩
    simp only [front, List.getElem_take] at isEntry
    rw [isEntry, ← same]
  have equal := place_unique earlierHere here
  omega

theorem mem_modify : (other, value) ∈ (map.modify key change).entries ↔
      if other = key then ∃ before, (key, before) ∈ map.entries ∧ value = change before
      else (other, value) ∈ map.entries := by
  rw [modify, List.mem_map]
  constructor
  · rintro ⟨entry, mem, same⟩
    split_ifs at same with isKey <;> cases same
    · rw [if_pos isKey]
      exact ⟨entry.2, isKey ▸ mem, rfl⟩
    · rw [if_neg isKey]
      exact mem
  · split_ifs with isKey
    · rintro ⟨before, mem, rfl⟩
      exact ⟨(key, before), mem, by rw [if_pos rfl, isKey]⟩
    · intro mem
      exact ⟨(other, value), mem, if_neg isKey⟩

theorem mem_insert {inserted : Value} : (other, value) ∈ (map.insert key inserted).entries ↔
      if other = key then value = inserted else (other, value) ∈ map.entries := by
  rw [insert]
  split_ifs with present isKey isKey
  · obtain ⟨entry, mem, same⟩ := List.mem_map.mp present
    rw [mem_modify, if_pos isKey]
    constructor
    · rintro ⟨before, _, changed⟩
      exact changed
    · intro changed
      exact ⟨entry.2, same ▸ mem, changed⟩
  · rw [mem_modify, if_neg isKey]
  · subst isKey
    have absent : (other, value) ∉ map.entries := by
      intro mem
      exact present (List.mem_map_of_mem (f := Prod.fst) mem)
    simp [absent]
  · simp [isKey]

theorem mem_shiftRemove : (other, value) ∈ (map.shiftRemove key).entries ↔
    other ≠ key ∧ (other, value) ∈ map.entries := by
  rw [shiftRemove, List.mem_filter, decide_eq_true_eq, and_comm]

theorem getFull_eq_none_iff : map.getFull key = none ↔ ∀ value, (key, value) ∉ map.entries := by
  constructor
  · intro missing value mem
    obtain ⟨place, inside, here⟩ := List.getElem_of_mem mem
    have found : map.getFull key = some (place, value) :=
      getFull_eq_some_iff.mpr (List.getElem?_eq_some_iff.mpr ⟨inside, here⟩)
    rw [missing] at found
    cases found
  · intro absent
    cases found : map.getFull key with
    | none => rfl
    | some pair =>
      have here := getFull_eq_some_iff.mp found
      exact absurd (List.mem_of_getElem? here) (absent pair.2)

end IndexMap

end DiagnosticAdapter.Collections
