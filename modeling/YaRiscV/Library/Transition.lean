import Mathlib.Logic.Relation

/-! Counting loops and transition systems: what every turn or step preserves holds of
whole loops and runs. -/

namespace YaRiscV.Library

open Relation

/-- `body` for each index below `count`, in ascending order. -/
def forEachIndex (body : Nat → State → State) : Nat → State → State
  | 0, state => state
  | count + 1, state => body count (forEachIndex body count state)

variable {State : Type u} {body : Nat → State → State}

theorem forEachIndex_preserves {count : Nat} (holds : State → Prop) (initial : holds state)
    (turn : ∀ index < count, ∀ state, holds state → holds (body index state)) :
    holds (forEachIndex body count state) := by
  induction count with
  | zero => exact initial
  | succ count ih =>
    exact turn count (by omega) _ (ih fun index below => turn index (by omega))

/-- Two loops whose turns keep a relation end related. -/
theorem forEachIndex_related {body : Nat → State → State} {other : Nat → Other → Other} {count : Nat}
    (related : State → Other → Prop)
    (turn : ∀ index < count, ∀ left right, related left right → related (body index left) (other index right))
    (initial : related first second) : related (forEachIndex body count first) (forEachIndex other count second) := by
  induction count with
  | zero => exact initial
  | succ count ih => exact turn count (by omega) _ _ (ih fun index below => turn index (by omega))

theorem forEachIndex_congr {count : Nat} {other : Nat → State → State}
    (same : ∀ index < count, ∀ state, body index state = other index state) (state : State) :
    forEachIndex body count state = forEachIndex other count state := by
  induction count with
  | zero => rfl
  | succ count ih =>
    rw [forEachIndex, forEachIndex, ih fun index below => same index (by omega), same count (by omega)]

theorem except_map_ok {result : Except Error Value} {after : Value → Other} :
    result.map after = .ok final ↔ ∃ value, result = .ok value ∧ after value = final := by
  cases result <;> simp [Except.map]

theorem except_toOption_ok {result : Except Error Value} (returned : result.toOption = some value) :
    result = .ok value := by
  cases result with
  | error message => cases returned
  | ok made =>
    cases returned
    rfl

theorem except_bind_ok {result : Except Error Value} {after : Value → Except Error Other} :
    result.bind after = .ok final ↔ ∃ value, result = .ok value ∧ after value = .ok final := by
  cases result <;> simp [Except.bind]

/-- Two outcomes of one fallible computation: related values, or the same error. -/
inductive ExceptRelated (related : Value → Other → Prop) : Except Error Value → Except Error Other → Prop
  | ok (values : related left right) : ExceptRelated related (.ok left) (.ok right)
  | error (error : Error) : ExceptRelated related (.error error) (.error error)

theorem ExceptRelated.map {related : Value → Other → Prop} {mapped : Value' → Other' → Prop}
    {left : Except Error Value} {right : Except Error Other} (outcomes : ExceptRelated related left right)
    {first : Value → Value'} {second : Other → Other'}
    (each : ∀ value other, related value other → mapped (first value) (second other)) :
    ExceptRelated mapped (left.map first) (right.map second) := by
  cases outcomes with
  | ok values => exact .ok (each _ _ values)
  | error error => exact .error error

variable {step : State → State → Prop}

/-- What every step preserves holds at the end of every run. -/
theorem invariant_run (invariant : State → Prop)
    (preserves : ∀ before after, step before after → invariant before → invariant after)
    (run : ReflTransGen step first last) (holds : invariant first) : invariant last := by
  induction run with
  | refl => exact holds
  | tail _ last ih => exact preserves _ _ last ih

end YaRiscV.Library
