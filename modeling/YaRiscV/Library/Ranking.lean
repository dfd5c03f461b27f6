import YaRiscV.Library.Transition

/-! Runs that cannot go on for ever: a rank that every step lowers bounds their length. -/

namespace YaRiscV.Library

open Relation

universe u

variable {State : Type u}

/-- A run of so many steps. -/
inductive RunIn (step : State → State → Prop) : Nat → State → State → Prop
  | refl (state : State) : RunIn step 0 state state
  | tail {count : Nat} {first middle last : State} (run : RunIn step count first middle) (next : step middle last) :
      RunIn step (count + 1) first last

variable {step : State → State → Prop} {count : Nat} {first last : State}

theorem RunIn.reaches (run : RunIn step count first last) : ReflTransGen step first last := by
  induction run with
  | refl state => exact .refl
  | tail run next reached => exact reached.tail next

/-- A rank that drops at every step bounds the steps still to come. -/
theorem RunIn.rank_le (invariant : State → Prop) (rank : State → Nat)
    (preserves : ∀ before after, step before after → invariant before → invariant after)
    (drops : ∀ before after, step before after → invariant before → rank after < rank before)
    (run : RunIn step count first last) (holds : invariant first) : count + rank last ≤ rank first := by
  induction run with
  | refl state => exact Nat.le_of_eq (Nat.zero_add _)
  | @tail count first middle last run next bound =>
    have reached := invariant_run invariant preserves run.reaches holds
    have lower := drops _ _ next reached
    have upper := bound holds
    omega

end YaRiscV.Library
