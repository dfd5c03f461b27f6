import Mathlib.Logic.Function.Basic
import Mathlib.Logic.Relation

/-! Workers over shared state, each at a place of its own program. An access moves one of
them; a notify may move all that sleep. -/

namespace YaRiscV.Library

/-- One worker on its own. -/
inductive Alone (turn : Shared → Place → Place × Shared) : Place × Shared → Place × Shared → Prop
  | turn (place : Place) (shared : Shared) : Alone turn (place, shared) (turn shared place)

theorem Alone.run {turn : Shared → Place → Place × Shared} (turned : turn shared place = (next, after)) :
    Relation.ReflTransGen (Alone turn) (place, shared) (next, after) :=
  .single (turned ▸ .turn place shared)

structure Workers (Shared Party Place : Type) where
  shared : Shared
  place : Party → Place

namespace Workers

variable {Shared Party Place : Type}

/-- Everybody goes on from where a notify leaves them. -/
def notify (workers : Workers Shared Party Place) (wake : Place → Place) : Workers Shared Party Place :=
  { workers with place := fun party => wake (workers.place party) }

@[simp] theorem notify_shared (workers : Workers Shared Party Place) (wake : Place → Place) :
    (workers.notify wake).shared = workers.shared := rfl

@[simp] theorem notify_place (workers : Workers Shared Party Place) (wake : Place → Place) (party : Party) :
    (workers.notify wake).place party = wake (workers.place party) := rfl

variable [DecidableEq Party]

/-- One party has made an access. -/
def move (workers : Workers Shared Party Place) (party : Party) (shared : Shared) (place : Place) :
    Workers Shared Party Place :=
  ⟨shared, Function.update workers.place party place⟩

variable {workers : Workers Shared Party Place} {party other : Party} {shared : Shared} {place : Place}

@[simp] theorem move_shared : (workers.move party shared place).shared = shared := rfl

@[simp] theorem move_self : (workers.move party shared place).place party = place :=
  Function.update_self _ _ _

theorem move_other (apart : other ≠ party) : (workers.move party shared place).place other = workers.place other :=
  Function.update_of_ne apart _ _

/-- What holds of the new place, and held of the others', holds of all. -/
theorem move_all (holds : Party → Place → Prop) (mine : holds party place)
    (others : ∀ other ≠ party, holds other (workers.place other)) (each : Party) :
    holds each ((workers.move party shared place).place each) := by
  by_cases same : each = party
  · subst same
    rwa [move_self]
  · rw [move_other same]
    exact others each same

/-- Somebody still stands where somebody stood, unless it was the one who moved. -/
theorem move_exists (holds : Place → Prop) (somebody : ∃ other, holds (workers.place other))
    (mine : holds (workers.place party) → holds place) :
    ∃ other, holds ((workers.move party shared place).place other) := by
  obtain ⟨other, held⟩ := somebody
  by_cases same : other = party
  · subst same
    exact ⟨other, by rw [move_self]; exact mine held⟩
  · exact ⟨other, by rwa [move_other same]⟩

end Workers

end YaRiscV.Library
