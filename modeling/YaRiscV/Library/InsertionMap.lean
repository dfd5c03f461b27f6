import Mathlib.Data.List.Nodup

/-! Maps that remember the order their keys were inserted in, and a bounded table of
computed values kept in one: the key used longest ago is dropped first. -/

namespace YaRiscV.Library

/-- Entries in insertion order, one for a key. -/
structure InsertionMap (Key Value : Type) where
  entries : List (Key × Value)
  distinct : (entries.map Prod.fst).Nodup

namespace InsertionMap

variable {Key Value : Type}

def empty : InsertionMap Key Value := ⟨[], List.nodup_nil⟩

variable (map : InsertionMap Key Value)

def size : Nat := map.entries.length

/-- The key inserted first. -/
def oldest? : Option Key := map.entries.head?.map Prod.fst

variable {map}

theorem oldest?_mem (first : map.oldest? = some key) : key ∈ map.entries.map Prod.fst := by
  obtain ⟨entry, head, rfl⟩ := Option.map_eq_some_iff.mp first
  exact List.mem_map_of_mem (List.mem_of_mem_head? head)

theorem oldest?_none (missing : map.oldest? = none) : map.size = 0 := by
  unfold oldest? at missing
  rw [Option.map_eq_none_iff, List.head?_eq_none_iff] at missing
  rw [size, missing]
  rfl

variable (map) [DecidableEq Key]

def get? (key : Key) : Option Value := map.entries.lookup key

def delete (key : Key) : InsertionMap Key Value where
  entries := map.entries.filter fun entry => entry.1 ≠ key
  distinct := map.distinct.sublist (List.filter_sublist.map Prod.fst)

theorem keys_overwrite (entries : List (Key × Value)) (key : Key) (value : Value) :
    (entries.map fun entry => if entry.1 = key then (key, value) else entry).map Prod.fst =
      entries.map Prod.fst := by
  rw [List.map_map]
  apply List.map_congr_left
  intro entry _
  dsimp only [Function.comp_apply]
  split
  · rename_i same
    exact same.symm
  · rfl

/-- A present key keeps its place; a new one goes to the end. -/
def set (key : Key) (value : Value) : InsertionMap Key Value :=
  if absent : key ∉ map.entries.map Prod.fst then
    ⟨map.entries ++ [(key, value)], by
      rw [List.map_append, List.nodup_append_comm]
      exact List.nodup_cons.mpr ⟨absent, map.distinct⟩⟩
  else
    ⟨map.entries.map fun entry => if entry.1 = key then (key, value) else entry, by
      rw [keys_overwrite]
      exact map.distinct⟩

variable {map}

theorem get?_mem (found : map.get? key = some value) : (key, value) ∈ map.entries := by
  unfold get? at found
  generalize map.entries = entries at found
  induction entries with
  | nil => cases found
  | cons entry rest ih =>
    obtain ⟨other, held⟩ := entry
    rw [List.lookup_cons] at found
    split at found
    · rename_i same
      cases found
      rw [beq_iff_eq] at same
      subst same
      exact List.mem_cons_self
    · exact List.mem_cons_of_mem _ (ih found)

theorem lookup_overwrite (entries : List (Key × Value)) (key other : Key) (value : Value) :
    (entries.map fun entry => if entry.1 = key then (key, value) else entry).lookup other =
      if other = key then (entries.lookup key).map fun _ => value else entries.lookup other := by
  induction entries with
  | nil => simp
  | cons entry rest ih =>
    obtain ⟨own, held⟩ := entry
    rw [List.map_cons]
    by_cases replaced : own = key
    · subst replaced
      by_cases same : other = own
      · simp [same]
      · simpa [List.lookup_cons, same, beq_eq_false_iff_ne.mpr same] using ih
    · have missed : (key == own) = false := beq_eq_false_iff_ne.mpr (Ne.symm replaced)
      rw [if_neg replaced, List.lookup_cons, List.lookup_cons, List.lookup_cons, missed, ih]
      by_cases same : other = key
      · simp [same, missed]
      · simp [same]

theorem get?_set (map : InsertionMap Key Value) (key other : Key) (value : Value) :
    (map.set key value).get? other = if other = key then some value else map.get? other := by
  unfold set get?
  split
  · rename_i absent
    have missing : map.entries.lookup key = none := by
      rw [List.lookup_eq_none_iff]
      intro entry member
      rw [bne_iff_ne]
      rintro rfl
      exact absent (List.mem_map_of_mem member)
    rw [List.lookup_append]
    by_cases same : other = key
    · rw [if_pos same, same, missing]
      simp
    · simp [List.lookup_cons, same, beq_eq_false_iff_ne.mpr same]
  · rename_i present
    rw [lookup_overwrite]
    by_cases same : other = key
    · rw [if_pos same, if_pos same]
      cases found : map.entries.lookup key with
      | some held => rfl
      | none =>
        obtain ⟨entry, member, rfl⟩ := List.mem_map.mp (not_not.mp present)
        have missed := List.lookup_eq_none_iff.mp found entry member
        simp at missed
    · rw [if_neg same, if_neg same]

theorem mem_delete : entry ∈ (map.delete key).entries ↔ entry ∈ map.entries ∧ entry.1 ≠ key := by
  simp [delete]

theorem mem_of_set (member : entry ∈ (map.set key value).entries) :
    entry = (key, value) ∨ entry ∈ map.entries := by
  unfold set at member
  split at member
  · rcases List.mem_append.mp member with old | new
    · exact .inr old
    · exact .inl (List.mem_singleton.mp new)
  · obtain ⟨old, held, same⟩ := List.mem_map.mp member
    split at same
    · exact .inl same.symm
    · rw [← same]
      exact .inr held

theorem size_set_le : (map.set key value).size ≤ map.size + 1 := by
  unfold set size
  split
  · rw [List.length_append]
    exact Nat.le_refl _
  · rw [List.length_map]
    exact Nat.le_succ _

theorem size_delete_lt (member : key ∈ map.entries.map Prod.fst) : (map.delete key).size < map.size := by
  obtain ⟨entry, held, rfl⟩ := List.mem_map.mp member
  refine List.length_filter_lt_length_iff_exists.mpr ⟨entry, held, ?_⟩
  simp

end InsertionMap

/-! Computed values. -/

/-- A table that holds nothing but what `compute` gives, within its capacity. -/
structure Remembers (capacity : Nat) (compute : Key → Value) (map : InsertionMap Key Value) : Prop where
  computed : ∀ entry ∈ map.entries, entry.2 = compute entry.1
  bounded : map.size ≤ capacity

theorem Remembers.empty (capacity : Nat) (compute : Key → Value) : Remembers capacity compute InsertionMap.empty :=
  ⟨fun _ member => absurd member List.not_mem_nil, Nat.zero_le _⟩

section Remember

variable [DecidableEq Key]

/-- Move a key that is used to the end. -/
def refresh (map : InsertionMap Key Value) (key : Key) (value : Value) : InsertionMap Key Value :=
  (map.delete key).set key value

/-- Drop the oldest entry of a full table. -/
def makeRoom (capacity : Nat) (map : InsertionMap Key Value) : InsertionMap Key Value :=
  if map.size ≥ capacity then
    match map.oldest? with
    | some oldest => map.delete oldest
    | none => map
  else map

variable {capacity : Nat} {compute : Key → Value} {map : InsertionMap Key Value}

namespace Remembers

theorem get? (remembers : Remembers capacity compute map) (found : map.get? key = some value) :
    value = compute key :=
  remembers.computed _ (InsertionMap.get?_mem found)

/-- A computed value goes into a table with room. -/
theorem set (computed : ∀ entry ∈ map.entries, entry.2 = compute entry.1) (room : map.size < capacity) (key : Key) :
    Remembers capacity compute (map.set key (compute key)) where
  computed entry member := by
    rcases InsertionMap.mem_of_set member with rfl | old
    · rfl
    · exact computed entry old
  bounded := Nat.le_trans InsertionMap.size_set_le room

theorem computed_delete (remembers : Remembers capacity compute map) (key : Key) :
    ∀ entry ∈ (map.delete key).entries, entry.2 = compute entry.1 :=
  fun entry member => remembers.computed entry (InsertionMap.mem_delete.mp member).1

theorem refresh (remembers : Remembers capacity compute map) (found : map.get? key = some (compute key)) :
    Remembers capacity compute (refresh map key (compute key)) := by
  have present : key ∈ map.entries.map Prod.fst := List.mem_map_of_mem (InsertionMap.get?_mem found)
  have room := Nat.lt_of_lt_of_le (InsertionMap.size_delete_lt present) remembers.bounded
  exact set (remembers.computed_delete key) room key

theorem makeRoom (remembers : Remembers capacity compute map) (positive : 0 < capacity) :
    (∀ entry ∈ (makeRoom capacity map).entries, entry.2 = compute entry.1) ∧
      (Library.makeRoom capacity map).size < capacity := by
  unfold Library.makeRoom
  split
  · split
    · rename_i oldest first
      have dropped := InsertionMap.size_delete_lt (InsertionMap.oldest?_mem first)
      exact ⟨remembers.computed_delete oldest, Nat.lt_of_lt_of_le dropped remembers.bounded⟩
    · rename_i missing
      rw [InsertionMap.oldest?_none missing]
      exact ⟨remembers.computed, positive⟩
  · rename_i space
    exact ⟨remembers.computed, Nat.not_le.mp space⟩

end Remembers

end Remember

end YaRiscV.Library
