import YaRiscV.Library.Transition

/-! Calls that may throw, on a state that a throw leaves as it was reached: what the caller
sees of a call, and what holds of the state however the call ends. -/

namespace YaRiscV.Library.Unwinding

variable {Error State Result Other : Type}

/-- A call that returns or throws; either way it leaves a state. -/
abbrev Call (Error State Result : Type) := EStateM Error State Result

/-- The state left, thrown or not. -/
def left (call : Call Error State Result) (state : State) : State :=
  match call state with
  | .ok _ state => state
  | .error _ state => state

/-- What the call returns, without the state of a throw. -/
def outcome (call : Call Error State Result) (state : State) : Except Error (Result × State) :=
  match call state with
  | .ok result state => .ok (result, state)
  | .error error _ => .error error

/-- `body` for each index below `count` in ascending order, until one throws. -/
def forEachCall (body : Nat → Result → Call Error State Result) : Nat → Result → Call Error State Result
  | 0, result => pure result
  | count + 1, result => do body count (← forEachCall body count result)

variable {call : Call Error State Result} {next : Result → Call Error State Other} {state : State}

@[simp] theorem outcome_get : outcome (get : Call Error State State) state = .ok (state, state) := rfl

@[simp] theorem outcome_modify (change : State → State) : outcome (modify change : Call Error State PUnit) state =
    .ok ((), change state) := rfl

@[simp] theorem outcome_modifyGet (change : State → Result × State) :
    outcome (modifyGet change : Call Error State Result) state = .ok (change state) := rfl

@[simp] theorem outcome_bind : outcome (call >>= next) state =
    (outcome call state).bind fun reached => outcome (next reached.1) reached.2 := by
  simp only [outcome, bind, EStateM.bind]
  cases call state <;> rfl

/-- A clean-up that cannot throw runs behind a return as well. -/
@[simp] theorem outcome_finally (change : State → State) :
    outcome (tryFinally call (modify change)) state =
      (outcome call state).map fun reached => (reached.1, change reached.2) := by
  simp only [outcome, tryFinally, tryFinally', Functor.map, EStateM.map]
  cases call state <;> rfl

theorem outcome_forEachCall (body : Nat → Result → Call Error State Result) (count : Nat) (result : Result) :
    outcome (forEachCall body count result) state = forEachIndex (fun index reached => reached.bind fun reached =>
      outcome (body index reached.1) reached.2) count (.ok (result, state)) := by
  induction count with
  | zero => rfl
  | succ count ih => rw [forEachCall, outcome_bind, ih, forEachIndex]

theorem left_of_outcome (returned : outcome call state = .ok (result, after)) : left call state = after := by
  simp only [outcome] at returned
  simp only [left]
  cases ran : call state with
  | ok _ reached =>
    rw [ran] at returned
    cases returned
    rfl
  | error _ reached =>
    rw [ran] at returned
    cases returned

@[simp] theorem left_finally (change : State → State) :
    left (tryFinally call (modify change)) state = change (left call state) := by
  simp only [left, tryFinally, tryFinally', Functor.map, EStateM.map]
  cases call state <;> rfl

@[simp] theorem left_modify_bind (change : State → State) (rest : PUnit → Call Error State Result) :
    left (modify change >>= rest) state = left (rest ()) (change state) := rfl

/-- However the call ends, its end is related to its start. -/
def Within (related : State → State → Prop) (call : Call Error State Result) : Prop :=
  ∀ state, related state (left call state)

namespace Within

variable {related : State → State → Prop}

theorem modify (changes : ∀ state, related state (change state)) :
    Within related (modify change : Call Error State PUnit) := changes

theorem modifyGet {change : State → Result × State} (changes : ∀ state, related state (change state).2) :
    Within related (modifyGet change : Call Error State Result) := changes

section Reflexive

variable [Std.Refl related]

theorem pure (result : Result) : Within related (pure result : Call Error State Result) :=
  fun state => Std.Refl.refl state

theorem throw (error : Error) : Within related (throw error : Call Error State Result) :=
  fun state => Std.Refl.refl state

theorem get : Within related (get : Call Error State State) :=
  fun state => Std.Refl.refl state

end Reflexive

theorem bind [IsTrans State related] (first : Within related call) (rest : ∀ result, Within related (next result)) :
    Within related (call >>= next) := by
  intro state
  have reached := first state
  simp only [left, Bind.bind, EStateM.bind] at reached ⊢
  cases ran : call state with
  | ok result middle =>
    rw [ran] at reached
    exact IsTrans.trans _ _ _ reached (rest result middle)
  | error error middle =>
    rw [ran] at reached
    exact reached

theorem forEachCall [Std.Refl related] [IsTrans State related] {body : Nat → Result → Call Error State Result}
    (turn : ∀ index result, Within related (body index result)) (count : Nat) (result : Result) :
    Within related (forEachCall body count result) := by
  induction count with
  | zero => exact Within.pure result
  | succ count ih => exact ih.bind fun result => turn count result

end Within

end YaRiscV.Library.Unwinding
