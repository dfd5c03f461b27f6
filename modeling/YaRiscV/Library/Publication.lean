import Mathlib.Logic.Function.Basic
import YaRiscV.Library.Transition

/-! Parties that change shared state by atomic accesses and publish, in a step of its own, a
level they have worked out from it: when the level shown is the one the state wants. -/

namespace YaRiscV.Library

open Relation

/-- What a party has left to do. An access sees the state as it was before its change. -/
inductive Operation (State Value : Type) where
  | done (value : Value)
  | access (change : State → State) (next : State → Operation State Value)
  | publish (level : Bool) (next : Operation State Value)

/-- A condition on the state, and the level that shows it to others. -/
structure Signal (State : Type) where
  invariant : State → Prop
  wanted : State → Bool
  shown : State → Bool
  drive : Bool → State → State
  shown_drive : ∀ level state, shown (drive level state) = level
  wanted_drive : ∀ level state, wanted (drive level state) = wanted state
  invariant_drive : ∀ level state, invariant state → invariant (drive level state)

variable {State Value Other : Type} {signal : Signal State}

/-- A change that keeps the invariant and the level. -/
def Signal.Quiet (signal : Signal State) (change : State → State) : Prop :=
  ∀ state, signal.invariant state →
    signal.invariant (change state) ∧ signal.shown (change state) = signal.shown state

namespace Operation

def bind : Operation State Value → (Value → Operation State Other) → Operation State Other
  | .done value, next => next value
  | .access change rest, next => .access change fun state => (rest state).bind next
  | .publish level rest, next => .publish level (rest.bind next)

instance : Monad (Operation State) where
  pure := done
  bind := bind

/-- An atomic load. -/
def observe (read : State → Value) : Operation State Value :=
  .access id fun state => .done (read state)

/-- An atomic store. -/
def modify (change : State → State) : Operation State Unit :=
  .access change fun _ => .done ()

def announce (level : Bool) : Operation State Unit :=
  .publish level (.done ())

/-- The operation without its result. -/
def discard (operation : Operation State Value) : Operation State Unit := do
  let _ ← operation
  return ()

/-- Nothing is left to do. -/
def isDone : Operation State Value → Bool
  | .done _ => true
  | _ => false

/-- The operation on its own. -/
def run (signal : Signal State) : Operation State Value → State → Value × State
  | .done value, state => (value, state)
  | .access change next, state => (next state).run signal (change state)
  | .publish level next, state => next.run signal (signal.drive level state)

/-- However it goes on, it publishes or gives a result that owes a publication. -/
def Commits (owes : Value → Prop) : Operation State Value → Prop
  | .done value => owes value
  | .access _ next => ∀ state, (next state).Commits owes
  | .publish _ _ => True

/-- It publishes before it is done. -/
def Bound (operation : Operation State Value) : Prop :=
  operation.Commits fun _ => False

/-- It leaves the level to publications, and commits itself to one by every access that
changes what is wanted. -/
def Sound (signal : Signal State) (owes : Value → Prop) : Operation State Value → Prop
  | .done _ => True
  | .access change next => ∀ state, signal.invariant state →
      signal.invariant (change state) ∧ signal.shown (change state) = signal.shown state ∧
        (signal.wanted (change state) = signal.wanted state ∨ (next state).Commits owes) ∧
          (next state).Sound signal owes
  | .publish _ next => next.Sound signal owes

/-- Sound, with nothing owed at its end. -/
def Closed (signal : Signal State) (operation : Operation State Value) : Prop :=
  operation.Sound signal fun _ => False

variable {operation : Operation State Value} {next : Value → Operation State Other} {owes : Value → Prop}
  {owing : Other → Prop}

theorem eq_done_of_isDone {operation : Operation State Unit} (finished : operation.isDone = true) :
    operation = .done () := by
  cases operation with
  | done value => rfl
  | access change next => cases finished
  | publish level next => cases finished

@[simp] theorem run_pure (value : Value) (state : State) :
    (pure value : Operation State Value).run signal state = (value, state) := rfl

@[simp] theorem run_observe (read : State → Value) (state : State) :
    (observe read).run signal state = (read state, state) := rfl

@[simp] theorem run_modify (change : State → State) (state : State) :
    (modify change).run signal state = ((), change state) := rfl

@[simp] theorem run_announce (level : Bool) (state : State) :
    (announce level).run signal state = ((), signal.drive level state) := rfl

theorem run_bind {result : Value × State} (ran : operation.run signal state = result) :
    (operation >>= next).run signal state = (next result.1).run signal result.2 := by
  subst ran
  change (operation.bind next).run signal state = _
  induction operation generalizing state with
  | done value => rfl
  | access change rest ih => exact ih state
  | publish level rest ih => exact ih

@[simp] theorem run_observe_bind (read : State → Value) (state : State) :
    (observe read >>= next).run signal state = (next (read state)).run signal state := rfl

@[simp] theorem run_modify_bind {rest : Unit → Operation State Other} (change : State → State) (state : State) :
    (modify change >>= rest).run signal state = (rest ()).run signal (change state) := rfl

theorem run_discard {result : Value × State} (ran : operation.run signal state = result) :
    operation.discard.run signal state = ((), result.2) :=
  run_bind ran

/-! When an operation commits. -/

theorem commits_pure {value : Value} (owed : owes value) :
    (pure value : Operation State Value).Commits owes := owed

theorem commits_announce (level : Bool) {owes : Unit → Prop} :
    (announce level : Operation State Unit).Commits owes := trivial

theorem commits_bind (first : operation.Commits owes) (rest : ∀ value, owes value → (next value).Commits owing) :
    (operation >>= next).Commits owing := by
  change (operation.bind next).Commits owing
  induction operation with
  | done value => exact rest value first
  | access change later ih => exact fun state => ih state (first state)
  | publish level later ih => trivial

/-- What comes last commits. -/
theorem commits_last (rest : ∀ value, (next value).Commits owing) : (operation >>= next).Commits owing := by
  change (operation.bind next).Commits owing
  induction operation with
  | done value => exact rest value
  | access change later ih => exact fun state => ih state
  | publish level later ih => trivial

/-! When an operation is sound. -/

theorem sound_announce (level : Bool) {owes : Unit → Prop} : (announce level).Sound signal owes := trivial

/-- What the first part owes, the second has to publish. -/
theorem sound_bind (first : operation.Sound signal owes) (rest : ∀ value, (next value).Sound signal owing)
    (paid : ∀ value, owes value → (next value).Commits owing) : (operation >>= next).Sound signal owing := by
  change (operation.bind next).Sound signal owing
  induction operation with
  | done value => exact rest value
  | access change later ih =>
    intro state valid
    obtain ⟨kept, shown, wanted, sound⟩ := first state valid
    exact ⟨kept, shown, wanted.imp_right fun commits => commits_bind commits paid, ih state sound⟩
  | publish level later ih => exact ih first

/-- A first part that owes nothing. -/
theorem sound_then (first : operation.Closed signal) (rest : ∀ value, (next value).Sound signal owing) :
    (operation >>= next).Sound signal owing :=
  sound_bind first rest fun _ owed => owed.elim

theorem sound_observe {read : State → Value}
    (rest : ∀ state, signal.invariant state → (next (read state)).Sound signal owing) :
    (observe read >>= next).Sound signal owing :=
  fun state valid => ⟨valid, rfl, .inl rfl, rest state valid⟩

/-- A load at the end of an operation. -/
theorem sound_load (read : State → Value) : (observe read).Sound signal owes :=
  fun _ valid => ⟨valid, rfl, .inl rfl, trivial⟩

/-- A store that the rest of the operation makes up for. -/
theorem sound_modify {change : State → State} {rest : Unit → Operation State Other} (quiet : signal.Quiet change)
    (commits : (rest ()).Commits owing) (sound : (rest ()).Sound signal owing) :
    (modify change >>= rest).Sound signal owing :=
  fun state valid => ⟨(quiet state valid).1, (quiet state valid).2, .inr commits, sound⟩

/-- A store at the end of an operation that owes. -/
theorem sound_last {change : State → State} {owes : Unit → Prop} (quiet : signal.Quiet change) (owed : owes ()) :
    (modify change).Sound signal owes :=
  fun state valid => ⟨(quiet state valid).1, (quiet state valid).2, .inr owed, trivial⟩

/-- A store that what is wanted does not depend on. -/
theorem closed_modify {change : State → State} (quiet : signal.Quiet change)
    (wanted : ∀ state, signal.invariant state → signal.wanted (change state) = signal.wanted state) :
    (modify change).Closed signal :=
  fun state valid => ⟨(quiet state valid).1, (quiet state valid).2, .inl (wanted state valid), trivial⟩

theorem closed_discard (closed : operation.Closed signal) : operation.discard.Closed signal :=
  sound_then closed fun _ => trivial

end Operation

/-- The shared state, and what each party has left to do. -/
structure Parties (State Party : Type) where
  shared : State
  doing : Party → Operation State Unit

variable {Party : Type}

namespace Parties

/-- Nobody is inside an operation. -/
def Idle (parties : Parties State Party) : Prop :=
  ∀ party, parties.doing party = .done ()

/-- The level is the one wanted, or somebody is bound to publish. -/
structure Settled (signal : Signal State) (parties : Parties State Party) : Prop where
  valid : signal.invariant parties.shared
  closed : ∀ party, (parties.doing party).Closed signal
  level : signal.shown parties.shared = signal.wanted parties.shared ∨ ∃ party, (parties.doing party).Bound

/-- A change nobody sees. -/
structure Unseen (signal : Signal State) (before after : State) : Prop where
  invariant : signal.invariant before → signal.invariant after
  wanted : signal.wanted after = signal.wanted before
  shown : signal.shown after = signal.shown before

variable {parties : Parties State Party} {party : Party}

theorem Settled.of_idle (settled : Settled signal parties) (idle : parties.Idle) :
    signal.shown parties.shared = signal.wanted parties.shared := by
  rcases settled.level with level | ⟨party, commits⟩
  · exact level
  · rw [idle party] at commits
    exact commits.elim

theorem Settled.elsewhere (settled : Settled signal parties) (unseen : Unseen signal parties.shared after) :
    Settled signal { parties with shared := after } := by
  refine ⟨unseen.invariant settled.valid, settled.closed, ?_⟩
  dsimp only
  rw [unseen.shown, unseen.wanted]
  exact settled.level

variable [DecidableEq Party]

def call (parties : Parties State Party) (party : Party) (operation : Operation State Unit) : Parties State Party :=
  { parties with doing := Function.update parties.doing party operation }

/-- The next access or publication of `party`. -/
def turn (signal : Signal State) (parties : Parties State Party) (party : Party) : Parties State Party :=
  match parties.doing party with
  | .done _ => parties
  | .access change next =>
    { shared := change parties.shared, doing := Function.update parties.doing party (next parties.shared) }
  | .publish level next =>
    { shared := signal.drive level parties.shared, doing := Function.update parties.doing party next }

/-- The next `count` turns of `party` in a row. -/
def turns (signal : Signal State) (party : Party) : Nat → Parties State Party → Parties State Party
  | 0, parties => parties
  | count + 1, parties => turns signal party count (parties.turn signal party)

/-- `party` is about to publish a level that is not wanted, and nobody else is bound to publish. -/
def Stale (signal : Signal State) (party : Party) (parties : Parties State Party) : Prop :=
  ∃ level next, parties.doing party = .publish level next ∧ level ≠ signal.wanted parties.shared ∧
    ∀ other ≠ party, ¬ (parties.doing other).Bound

/-- One step of any interleaving: a party takes up an operation or goes on with one, or the
state changes outside what the parties share. -/
inductive Step (signal : Signal State) (offered : Party → Operation State Unit → Prop)
    (outside : State → State → Prop) (allowed : Party → Parties State Party → Prop) :
    Parties State Party → Parties State Party → Prop
  | call {parties : Parties State Party} {operation : Operation State Unit} (party : Party)
      (idle : parties.doing party = .done ()) (offer : offered party operation) :
      Step signal offered outside allowed parties (parties.call party operation)
  | turn {parties : Parties State Party} (party : Party) (may : allowed party parties) :
      Step signal offered outside allowed parties (parties.turn signal party)
  | elsewhere {parties : Parties State Party} {after : State} (other : outside parties.shared after) :
      Step signal offered outside allowed parties { parties with shared := after }

private theorem update_closed {rest : Operation State Unit}
    (closed : ∀ party, (parties.doing party).Closed signal) (later : rest.Closed signal) (other : Party) :
    (Function.update parties.doing party rest other).Closed signal := by
  rw [Function.update_apply]
  split
  · exact later
  · exact closed other

theorem Settled.call {operation : Operation State Unit} (settled : Settled signal parties)
    (idle : parties.doing party = .done ()) (closed : operation.Closed signal) :
    Settled signal (parties.call party operation) := by
  refine ⟨settled.valid, update_closed settled.closed closed, settled.level.imp_right ?_⟩
  rintro ⟨committed, commits⟩
  refine ⟨committed, ?_⟩
  have other : committed ≠ party := by
    rintro rfl
    rw [idle] at commits
    exact commits
  simpa only [Parties.call, Function.update_of_ne other] using commits

/-- A party that goes on keeps the level settled, unless what it publishes is stale. -/
theorem Settled.turn (settled : Settled signal parties) (fresh : ¬ Stale signal party parties) :
    Settled signal (parties.turn signal party) := by
  have closed := settled.closed party
  cases doing : parties.doing party with
  | done value =>
    simp only [Parties.turn, doing]
    exact settled
  | access change next =>
    rw [doing] at closed
    obtain ⟨valid, shown, wanted, later⟩ := closed _ settled.valid
    simp only [Parties.turn, doing]
    refine ⟨valid, update_closed settled.closed later, ?_⟩
    dsimp only
    rw [shown]
    rcases wanted with same | commits
    · rw [same]
      refine settled.level.imp_right ?_
      rintro ⟨committed, commits⟩
      refine ⟨committed, ?_⟩
      rw [Function.update_apply]
      split
      · rename_i same
        rw [same, doing] at commits
        exact commits _
      · exact commits
    · exact .inr ⟨party, by rwa [Function.update_self]⟩
  | publish level next =>
    rw [doing] at closed
    simp only [Parties.turn, doing]
    refine ⟨signal.invariant_drive _ _ settled.valid, update_closed settled.closed closed, ?_⟩
    dsimp only
    rw [signal.shown_drive, signal.wanted_drive]
    by_cases wanted : level = signal.wanted parties.shared
    · exact .inl wanted
    · right
      by_contra nobody
      refine fresh ⟨level, next, doing, wanted, fun other different commits => nobody ⟨other, ?_⟩⟩
      rwa [Function.update_of_ne different]

variable {offered : Party → Operation State Unit → Prop} {outside : State → State → Prop}
  {allowed : Party → Parties State Party → Prop} {initial : Parties State Party}

/-- In a run that publishes nothing stale, the level stays settled. -/
theorem settled_run (closed : ∀ party operation, offered party operation → operation.Closed signal)
    (unseen : ∀ before after, outside before after → Unseen signal before after)
    (fresh : ∀ party parties, allowed party parties → ¬ Stale signal party parties)
    (run : ReflTransGen (Step signal offered outside allowed) initial parties) (start : Settled signal initial) :
    Settled signal parties := by
  refine invariant_run (Settled signal) (fun before after step settled => ?_) run start
  cases step with
  | call party idle offer => exact settled.call idle (closed party _ offer)
  | turn party may => exact settled.turn (fresh party before may)
  | elsewhere other => exact settled.elsewhere (unseen _ _ other)

/-- A stale publication that ends its operation with everybody else outside leaves nobody
inside and the wrong level. -/
theorem Stale.breaks (stale : Stale signal party parties) (last : parties.doing party = .publish level (.done ()))
    (others : ∀ other ≠ party, parties.doing other = .done ()) :
    (parties.turn signal party).Idle ∧
      signal.shown (parties.turn signal party).shared ≠ signal.wanted (parties.turn signal party).shared := by
  obtain ⟨published, next, doing, unwanted, _⟩ := stale
  rw [last] at doing
  cases doing
  simp only [Parties.turn, last, signal.shown_drive, signal.wanted_drive]
  refine ⟨fun other => ?_, unwanted⟩
  dsimp only
  rw [Function.update_apply]
  split
  · rfl
  · rename_i different
    exact others other different

/-! An operation that nobody interferes with. -/

theorem turns_operation (signal : Signal State) (party : Party) (operation : Operation State Unit) (shared : State)
    (doing : Party → Operation State Unit) : ∃ count,
      turns signal party count ⟨shared, Function.update doing party operation⟩ =
        ⟨(operation.run signal shared).2, Function.update doing party (.done ())⟩ := by
  induction operation generalizing shared with
  | done value => exact ⟨0, rfl⟩
  | access change next ih =>
    obtain ⟨count, turned⟩ := ih shared (change shared)
    refine ⟨count + 1, ?_⟩
    simp only [turns, turn, Function.update_self, Function.update_idem]
    exact turned
  | publish level next ih =>
    obtain ⟨count, turned⟩ := ih (signal.drive level shared)
    refine ⟨count + 1, ?_⟩
    simp only [turns, turn, Function.update_self, Function.update_idem]
    exact turned

theorem run_turns (may : ∀ parties, allowed party parties) (count : Nat) (parties : Parties State Party) :
    ReflTransGen (Step signal offered outside allowed) parties (turns signal party count parties) := by
  induction count generalizing parties with
  | zero => exact .refl
  | succ count ih => exact .head (.turn party (may parties)) (ih _)

/-- A run may take an operation whole. -/
theorem run_operation (may : ∀ parties, allowed party parties) (idle : parties.doing party = .done ())
    {operation : Operation State Unit} (offer : offered party operation) :
    ReflTransGen (Step signal offered outside allowed) parties
      { parties with shared := (operation.run signal parties.shared).2 } := by
  obtain ⟨count, turned⟩ := turns_operation signal party operation parties.shared parties.doing
  refine .head (.call party idle offer) ?_
  have whole : ReflTransGen (Step signal offered outside allowed) (parties.call party operation) _ :=
    run_turns may count (parties.call party operation)
  rw [Parties.call, turned, ← idle, Function.update_eq_self] at whole
  exact whole

end Parties

end YaRiscV.Library
