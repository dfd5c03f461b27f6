import Mathlib.Data.Nat.ModEq

/-! A first-in first-out queue of bounded length, and the ring that holds one: two indices
modulo the capacity, with one slot kept free. -/

namespace YaRiscV.Library

/-- What has gone into a queue and what has come out of it. -/
structure Fifo (Value : Type) where
  accepted : List Value
  consumed : List Value

namespace Fifo

variable {Value : Type}

def empty : Fifo Value := ⟨[], []⟩

/-- How many values are in the queue. -/
def held (fifo : Fifo Value) : Nat := fifo.accepted.length - fifo.consumed.length

def accept (fifo : Fifo Value) (value : Value) : Fifo Value :=
  { fifo with accepted := fifo.accepted ++ [value] }

def consume (fifo : Fifo Value) (value : Value) : Fifo Value :=
  { fifo with consumed := fifo.consumed ++ [value] }

/-- Nothing lost, duplicated or reordered, and no more than the bound held. -/
structure Sound (bound : Nat) (fifo : Fifo Value) : Prop where
  order : fifo.consumed <+: fifo.accepted
  room : fifo.held ≤ bound

end Fifo

variable {Value : Type} {fifo after : Fifo Value} {bound : Nat}

/-- A queue of bounded length takes a value where it has room, and gives the next one. -/
inductive FifoStep (bound : Nat) : Fifo Value → Fifo Value → Prop
  | keep (fifo : Fifo Value) : FifoStep bound fifo fifo
  | accept {fifo : Fifo Value} (value : Value) (room : fifo.held < bound) :
      FifoStep bound fifo (fifo.accept value)
  | consume {fifo : Fifo Value} {value : Value} (next : fifo.accepted[fifo.consumed.length]? = some value) :
      FifoStep bound fifo (fifo.consume value)

theorem Fifo.empty_sound (bound : Nat) : (empty : Fifo Value).Sound bound :=
  ⟨List.prefix_refl [], Nat.zero_le bound⟩

theorem Fifo.Sound.length_le (sound : fifo.Sound bound) : fifo.consumed.length ≤ fifo.accepted.length :=
  sound.order.length_le

theorem Fifo.Sound.accepted_le (sound : fifo.Sound bound) : fifo.accepted.length ≤ fifo.consumed.length + bound :=
  Nat.sub_le_iff_le_add'.mp sound.room

theorem FifoStep.sound (step : FifoStep bound fifo after) (sound : fifo.Sound bound) : after.Sound bound := by
  cases step with
  | keep => exact sound
  | accept value room =>
    refine ⟨sound.order.trans (List.prefix_append _ _), ?_⟩
    simp only [Fifo.held, Fifo.accept, List.length_append, List.length_singleton] at room ⊢
    omega
  | @consume value next =>
    obtain ⟨rest, split⟩ := sound.order
    constructor
    · rw [← split, List.getElem?_append_right (Nat.le_refl _), Nat.sub_self] at next
      cases rest with
      | nil => cases next
      | cons head rest =>
        cases next
        exact ⟨rest, by rw [Fifo.consume, List.append_assoc]; exact split⟩
    · have bounded := sound.room
      simp only [Fifo.held, Fifo.consume, List.length_append, List.length_singleton] at bounded ⊢
      omega

/-! Positions and the indices they have modulo the capacity. -/

variable {capacity first seen position other : Nat}

/-- Positions less than a turn apart have different indices. -/
theorem index_inj (ordered : seen ≤ position) (close : position < seen + capacity)
    (same : (first + position) % capacity = (first + seen) % capacity) : position = seen := by
  have congruent : seen ≡ position [MOD capacity] := Nat.ModEq.add_left_cancel' first same.symm
  have divides : capacity ∣ position - seen := (Nat.modEq_iff_dvd' ordered).mp congruent
  have zero : position - seen = 0 := Nat.eq_zero_of_dvd_of_lt divides (by omega)
  omega

theorem index_inj_symm (near : position < seen + capacity) (close : seen < position + capacity)
    (same : (first + position) % capacity = (first + seen) % capacity) : position = seen := by
  rcases Nat.le_total seen position with ordered | ordered
  · exact index_inj ordered near same
  · exact (index_inj ordered close same.symm).symm

theorem index_succ : ((first + position) % capacity + 1) % capacity = (first + (position + 1)) % capacity := by
  rw [Nat.mod_add_mod, Nat.add_assoc]

/-- The next index meets one that was seen a whole turn before, and no other. -/
theorem index_full_iff (ordered : seen ≤ position) (close : position < seen + capacity) :
    ((first + position) % capacity + 1) % capacity = (first + seen) % capacity ↔
      position + 1 = seen + capacity := by
  rw [index_succ]
  constructor
  · intro same
    by_contra apart
    have equal := index_inj (Nat.le_succ_of_le ordered) (by omega) same
    omega
  · intro turn
    rw [turn, ← Nat.add_assoc, Nat.add_mod_right]

variable {head tail : Nat} {slot slot' : Nat → Value} {value : Value}

/-- A ring that holds a queue, with the index at which both began. -/
structure RingHolds (capacity first head tail : Nat) (slot : Nat → Value) (fifo : Fifo Value) : Prop where
  head : head = (first + fifo.consumed.length) % capacity
  tail : tail = (first + fifo.accepted.length) % capacity
  sound : fifo.Sound (capacity - 1)
  slots : ∀ position value, fifo.consumed.length ≤ position → fifo.accepted[position]? = some value →
    slot ((first + position) % capacity) = value

namespace RingHolds

variable (holds : RingHolds capacity first head tail slot fifo)

include holds

theorem close (positive : 0 < capacity) : fifo.accepted.length < fifo.consumed.length + capacity := by
  have bounded := holds.sound.accepted_le
  omega

theorem empty_iff (positive : 0 < capacity) :
    head = tail ↔ fifo.accepted.length = fifo.consumed.length := by
  rw [holds.head, holds.tail]
  constructor
  · exact fun same => index_inj holds.sound.length_le (holds.close positive) same.symm
  · exact fun same => by rw [same]

theorem congr (same : ∀ index < capacity, slot' index = slot index) (positive : 0 < capacity) :
    RingHolds capacity first head tail slot' fifo where
  head := holds.head
  tail := holds.tail
  sound := holds.sound
  slots position value unread found := by
    rw [same _ (Nat.mod_lt _ positive)]
    exact holds.slots position value unread found

/-- The slot behind the last value is free to be written. -/
theorem write (room : fifo.held < capacity - 1) (same : ∀ index < capacity, index ≠ tail → slot' index = slot index) :
    RingHolds capacity first head tail slot' fifo where
  head := holds.head
  tail := holds.tail
  sound := holds.sound
  slots position value unread found := by
    obtain ⟨below, _⟩ := List.getElem?_eq_some_iff.mp found
    have positive : 0 < capacity := by omega
    have turn := holds.close positive
    rw [same _ (Nat.mod_lt _ positive)]
    · exact holds.slots position value unread found
    · rw [holds.tail]
      intro met
      have equal := index_inj_symm (by omega) (by omega) met
      omega

/-- Moving the tail takes in what its slot holds. -/
theorem push (room : fifo.held < capacity - 1) (written : slot tail = value) :
    RingHolds capacity first head ((tail + 1) % capacity) slot (fifo.accept value) where
  head := holds.head
  tail := by
    rw [holds.tail, index_succ, Fifo.accept, List.length_append, List.length_singleton]
  sound := (FifoStep.accept value room).sound holds.sound
  slots position found unread present := by
    by_cases old : position < fifo.accepted.length
    · rw [Fifo.accept, List.getElem?_append_left old] at present
      exact holds.slots position found unread present
    · rw [Fifo.accept, List.getElem?_append_right (Nat.not_lt.mp old)] at present
      obtain ⟨below, rfl⟩ := List.getElem?_eq_some_iff.mp present
      have last : position = fifo.accepted.length := by
        rw [List.length_singleton] at below
        omega
      rw [List.getElem_singleton, last, ← holds.tail, written]

theorem next (unread : fifo.consumed.length < fifo.accepted.length) :
    fifo.accepted[fifo.consumed.length]? = some (slot head) := by
  have found := List.getElem?_eq_getElem unread
  rw [found, holds.head, holds.slots _ _ (Nat.le_refl _) found]

/-- Moving the head gives the next value away. -/
theorem pop (found : fifo.accepted[fifo.consumed.length]? = some value) :
    RingHolds capacity first ((head + 1) % capacity) tail slot (fifo.consume value) where
  head := by
    rw [holds.head, index_succ, Fifo.consume, List.length_append, List.length_singleton]
  tail := holds.tail
  sound := (FifoStep.consume found).sound holds.sound
  slots position next unread present := by
    rw [Fifo.consume, List.length_append, List.length_singleton] at unread
    exact holds.slots position next (by omega) present

end RingHolds

end YaRiscV.Library
