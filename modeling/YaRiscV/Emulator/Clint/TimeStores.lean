import YaRiscV.Emulator.Clint.TimeReads

/-! A guest store to `mtime` beside the timer worker: the value and the epoch are two words,
and a tick checks the epoch only behind its own compare-exchange. -/

namespace YaRiscV.Emulator

open YaRiscV.Library YaRiscV.Utils Relation

/-- What the word in `mtime` comes from: a store, or a tick that had loaded an epoch. -/
inductive TimeOrigin where
  | stored (value : BitVec 64)
  | ticked (epoch : BitVec 64)
  deriving DecidableEq, Repr

/-- What a store to `mtime` has done: the value its compare-exchange has installed, the host
time at which it did, and the host time it has read for the epoch. -/
structure SeatedStore where
  value : BitVec 64
  installed : Nat
  sampled : Nat
  deriving DecidableEq, Repr

/-- The epoch at which a clock of the given frequency shows the value at that host time. -/
def SeatedStore.epoch (store : SeatedStore) (hz : Nat) : BitVec 64 :=
  BitVec.ofInt 64 ((store.sampled : Int) - ((store.value.toNat : Int) * nsPerSecond).tdiv hz)

/-- The two workers: the timer's tick, the hart's store if it is in one, where the word in
`mtime` comes from, and what the hart's store and the last one to return have done. -/
structure StoreState where
  memory : Memory
  now : Nat
  timer : TickPlace
  hart : Option (TimeStore × StorePlace)
  origin : TimeOrigin
  storing : SeatedStore
  returned : Option SeatedStore

inductive TimeParty where
  | timer
  | hart
  deriving DecidableEq, Repr

/-- The origin behind a tick's access. -/
def TickPlace.origin (memory : Memory) (before : TimeOrigin) : TickPlace → TimeOrigin
  | .exchanging epoch _ previous => if readTimeRegister memory .mtime = previous then .ticked epoch else before
  | _ => before

/-- The origin behind a store's access. -/
def StorePlace.origin (store : TimeStore) (memory : Memory) (before : TimeOrigin) (place : StorePlace) : TimeOrigin :=
  match place.installs store memory with
  | some value => .stored value
  | none => before

/-- What a store has done behind its access. -/
def StorePlace.seated (store : TimeStore) (memory : Memory) (now : Nat) (before : SeatedStore) :
    StorePlace → SeatedStore
  | .exchanging previous =>
    if readTimeRegister memory store.register = previous then
      { before with value := store.next previous, installed := now }
    else before
  | .readingClock _ => { before with sampled := now }
  | _ => before

/-- Accesses of others, none of which drives a timer wire or stores a word the two work on. -/
structure SameTimer (before after : Memory) : Prop where
  inputs : timerInputs after = timerInputs before
  epoch : readEpochNs after = readEpochNs before
  hz : readTimebaseHz after = readTimebaseHz before
  high : ∀ timer : TimerWire, timer.wire.high after = timer.wire.high before

/-- One step of any interleaving: the timer begins a tick, the hart begins a store to `mtime`,
either makes its next access, the store returns, host time passes, or something happens
elsewhere. `allowed` restricts the states in which a party makes an access. -/
inductive StoreStep (allowed : TimeParty → StoreState → Prop) : StoreState → StoreState → Prop
  | tick {state : StoreState} (idle : state.timer = .refreshing (.refreshed settled)) :
      StoreStep allowed state { state with timer := .loadingEpoch }
  | store {state : StoreState} (idle : state.hart = none) (store : TimeStore) (time : store.register = .mtime) :
      StoreStep allowed state { state with hart := some (store, .loadingPrevious) }
  | timer {state : StoreState} (may : allowed .timer state) :
      StoreStep allowed state { state with
        memory := (tickTurn state.memory state.now state.timer).2
        timer := (tickTurn state.memory state.now state.timer).1
        origin := state.timer.origin state.memory state.origin }
  | hart {state : StoreState} (inside : state.hart = some (store, place)) (may : allowed .hart state) :
      StoreStep allowed state { state with
        memory := (storeTurn state.memory state.now store place).2
        hart := some (store, (storeTurn state.memory state.now store place).1)
        origin := place.origin store state.memory state.origin
        storing := place.seated store state.memory state.now state.storing }
  | returned {state : StoreState} (behind : state.hart = some (store, .refreshing (.refreshed settled))) :
      StoreStep allowed state { state with hart := none, returned := some state.storing }
  | clock {state : StoreState} (later : state.now ≤ now) : StoreStep allowed state { state with now }
  | elsewhere {state : StoreState} (same : SameTimer state.memory after) :
      StoreStep allowed state { state with memory := after }

/-- Nobody has called yet; what `mtime` holds counts as stored. -/
structure StoreStart (state : StoreState) : Prop where
  timer : state.timer = .loadingEpoch
  hart : state.hart = none
  origin : state.origin = .stored (readTimeRegister state.memory .mtime)
  returned : state.returned = none

/-- Between the winning compare-exchange of a store and the epoch it writes. -/
def StorePlace.reseats : StorePlace → Bool
  | .readingClock _ | .loadingHz _ _ | .storingEpoch _ _ | .failed => true
  | _ => false

/-- A tick whose compare-exchange came between a store's and its epoch does not find the old
epoch there too. -/
def TimelyRecheck (state : StoreState) : Prop :=
  ∀ epoch ticks store place, state.timer = .rechecking epoch ticks → state.hart = some (store, place) →
    place.reseats = true → readEpochNs state.memory = epoch → ∀ installer, state.origin ≠ .ticked installer

/-- The steps of which a store is not torn: rechecks are timely, and no refresh of the wires
runs out of attempts. -/
def UntornTurn : TimeParty → StoreState → Prop
  | .timer, state => TimelyRecheck state ∧ ∀ place, state.timer = .refreshing place → ¬ place.Exhausted state.memory
  | .hart, state => ∀ store place, state.hart = some (store, .refreshing place) → ¬ place.Exhausted state.memory

/-- The epoch that stands is that of the last store to have returned, and the word in `mtime`
is its value, or ticks computed from that epoch. -/
structure MtimeUntorn (state : StoreState) : Prop where
  epoch : ∀ store, state.returned = some store → store.installed ≤ store.sampled ∧ store.sampled ≤ state.now ∧
    readEpochNs state.memory = store.epoch (readTimebaseHz state.memory).toNat
  stored : ∀ value, state.origin = .stored value → readTimeRegister state.memory .mtime = value ∧
    ∀ store, state.returned = some store → value = store.value
  ticked : ∀ epoch, state.origin = .ticked epoch → epoch = readEpochNs state.memory ∧ ∃ sampled ≤ state.now,
    readTimeRegister state.memory .mtime = ticksSince epoch (readTimebaseHz state.memory).toNat sampled

/-- A timer wire follows its comparison. -/
def TimerWire.Agrees (timer : TimerWire) (memory : Memory) : Prop :=
  timer.wire.high memory = (timerInputs memory).pending timer

/-! Who still owes a wire a store. -/

variable {memory after : Memory} {now : Nat} {place : RefreshPlace} {timer : TimerWire} {current : TimerInputs}

/-- A refresh that is to store the wire, or to find that its snapshot is no longer current. -/
def RefreshPlace.Owes (current : TimerInputs) (timer : TimerWire) : RefreshPlace → Prop
  | .loadingMtime _ | .loadingMtimecmp _ _ | .loadingStimecmp _ _ _ => True
  | .driving _ seen driven phase =>
    (driven = .machine ∧ timer = .supervisor) ∨ (driven = timer ∧ phase = .storing) ∨ seen ≠ current
  | .checkingMtime _ seen => seen ≠ current
  | .checkingMtimecmp _ seen => seen.mtimecmp ≠ current.mtimecmp ∨ seen.stimecmp ≠ current.stimecmp
  | .checkingStimecmp _ seen => seen.stimecmp ≠ current.stimecmp
  | .refreshed _ => False

def TickPlace.Owes (current : TimerInputs) (timer : TimerWire) : TickPlace → Prop
  | .refreshing place => place.Owes current timer
  | _ => True

def StorePlace.Owes (current : TimerInputs) (timer : TimerWire) : StorePlace → Prop
  | .refreshing place => place.Owes current timer
  | _ => True

theorem timerInputs_same (same : SameTimebase memory after) : timerInputs after = timerInputs memory := by
  have mtime : readTimeRegister after .mtime = readTimeRegister memory .mtime :=
    same.word 0 (by decide) (by decide)
  have mtimecmp : readTimeRegister after .mtimecmp = readTimeRegister memory .mtimecmp :=
    same.word 1 (by decide) (by decide)
  have stimecmp : readStimecmpMirror after = readStimecmpMirror memory := same.word 5 (by decide) (by decide)
  rw [timerInputs, timerInputs, mtime, mtimecmp, stimecmp]

theorem refreshTurn_inputs : timerInputs (refreshTurn memory place).2 = timerInputs memory :=
  timerInputs_same refreshTurn_timebase

/-- Short of the last attempt, a mismatch leads to another one. -/
theorem retry_owes (more : ¬ attempt + 1 ≥ timerWireUpdateAttempts) :
    (RefreshPlace.retry attempt).Owes current timer := by
  rw [RefreshPlace.retry, if_pos (Nat.not_le.mp more)]
  trivial

theorem TimerWire.wire_injective {other : TimerWire} : timer.wire = other.wire ↔ timer = other := by
  cases timer <;> cases other <;> decide

theorem drive_machine_owes (phase : DrivePhase) :
    (RefreshPlace.drive attempt seen .machine phase).Owes current .supervisor := by
  cases phase with
  | driven => exact .inr (.inl ⟨rfl, rfl⟩)
  | storing | loading | exchanging | notifying => exact .inl ⟨rfl, rfl⟩

theorem drive_stale_owes (stale : seen ≠ current) (driven : TimerWire) (phase : DrivePhase) :
    (RefreshPlace.drive attempt seen driven phase).Owes current timer := by
  cases driven with
  | machine => cases phase <;> exact .inr (.inr stale)
  | supervisor =>
    cases phase with
    | driven => exact stale
    | storing | loading | exchanging | notifying => exact .inr (.inr stale)

/-- A drive with a current snapshot makes its own wire agree, and leaves the other as it is. -/
theorem driving_agrees {phase : DrivePhase} (attempt : Nat) (driven : TimerWire)
    (before : timer.Agrees memory ∨
      (RefreshPlace.driving attempt (timerInputs memory) driven phase).Owes (timerInputs memory) timer) :
    timer.Agrees (refreshTurn memory (.driving attempt (timerInputs memory) driven phase)).2 ∨
      (refreshTurn memory (.driving attempt (timerInputs memory) driven phase)).1.Owes (timerInputs memory) timer := by
  have high : timer.wire.high (refreshTurn memory (.driving attempt (timerInputs memory) driven phase)).2 =
      if phase = .storing ∧ timer.wire = driven.wire then (timerInputs memory).pending driven
      else timer.wire.high memory := driveTurn_high timer.wire
  rw [TimerWire.Agrees, refreshTurn_inputs, high]
  by_cases stores : phase = .storing ∧ timer.wire = driven.wire
  · rw [if_pos stores, TimerWire.wire_injective.mp stores.2]
    exact .inl rfl
  · rw [if_neg stores]
    rcases before with agrees | ⟨rfl, rfl⟩ | ⟨same, storing⟩ | stale
    · exact .inl agrees
    · exact .inr (drive_machine_owes _)
    · exact absurd ⟨storing, congrArg TimerWire.wire same.symm⟩ stores
    · exact absurd rfl stale

/-- An access of a refresh leaves no wire wrong that nobody is to store again. -/
theorem refreshTurn_agrees (more : ¬ place.Exhausted memory)
    (before : timer.Agrees memory ∨ place.Owes (timerInputs memory) timer) :
    timer.Agrees (refreshTurn memory place).2 ∨ (refreshTurn memory place).1.Owes (timerInputs memory) timer := by
  cases place with
  | loadingMtime attempt => exact .inr trivial
  | loadingMtimecmp attempt mtime => exact .inr trivial
  | loadingStimecmp attempt mtime mtimecmp =>
    cases timer with
    | machine => exact .inr (.inr (.inl ⟨rfl, rfl⟩))
    | supervisor => exact .inr (.inl ⟨rfl, rfl⟩)
  | driving attempt seen driven phase =>
    by_cases fresh : seen = timerInputs memory
    · subst fresh
      exact driving_agrees attempt driven before
    · exact .inr (drive_stale_owes fresh driven _)
  | checkingMtime attempt seen =>
    simp only [refreshTurn]
    by_cases found : readTimeRegister memory .mtime = seen.mtime
    · rw [if_pos found]
      refine before.imp id fun stale => ?_
      by_contra settled
      rw [RefreshPlace.Owes, not_or, not_not, not_not] at settled
      exact stale (TimerInputs.ext found.symm settled.1 settled.2)
    · rw [if_neg found]
      exact .inr (retry_owes fun last => more ⟨last, found⟩)
  | checkingMtimecmp attempt seen =>
    simp only [refreshTurn]
    by_cases found : readTimeRegister memory .mtimecmp = seen.mtimecmp
    · rw [if_pos found]
      exact before.imp id fun stale => stale.resolve_left (not_not.mpr found.symm)
    · rw [if_neg found]
      exact .inr (retry_owes fun last => more ⟨last, found⟩)
  | checkingStimecmp attempt seen =>
    simp only [refreshTurn]
    by_cases found : readStimecmpMirror memory = seen.stimecmp
    · rw [if_pos found]
      exact before.imp id fun stale => absurd found.symm stale
    · rw [if_neg found]
      exact .inr (retry_owes fun last => more ⟨last, found⟩)
  | refreshed settled => exact before

/-- An access of a tick; `others` stands for what the hart owes the wire. -/
theorem tickTurn_agrees {tick : TickPlace} {others : TimerInputs → Prop}
    (more : ∀ place, tick = .refreshing place → ¬ place.Exhausted memory)
    (before : timer.Agrees memory ∨ tick.Owes (timerInputs memory) timer ∨ others (timerInputs memory)) :
    timer.Agrees (tickTurn memory now tick).2 ∨
      (tickTurn memory now tick).1.Owes (timerInputs (tickTurn memory now tick).2) timer ∨
      others (timerInputs (tickTurn memory now tick).2) := by
  cases tick with
  | refreshing place =>
    have same : timerInputs (tickTurn memory now (.refreshing place)).2 = timerInputs memory := refreshTurn_inputs
    rw [same, ← or_assoc]
    rw [← or_assoc] at before
    exact before.imp (refreshTurn_agrees (more place rfl)) id
  | exchanging epoch ticks previous =>
    refine .inr (.inl ?_)
    simp only [tickTurn]
    split
    · trivial
    · trivial
  | rechecking epoch ticks =>
    refine .inr (.inl ?_)
    rw [tickTurn]
    split
    · trivial
    · trivial
  | loadingHz epoch sampled =>
    refine .inr (.inl ?_)
    rw [tickTurn]
    split
    · trivial
    · trivial
  | loadingEpoch | readingClock | loadingPrevious | failed => exact .inr (.inl trivial)

/-- The same for an access of a store. -/
theorem storeTurn_agrees {store : TimeStore} {place : StorePlace} (others : TimerInputs → Prop)
    (more : ∀ inner, place = .refreshing inner → ¬ inner.Exhausted memory)
    (before : timer.Agrees memory ∨ others (timerInputs memory) ∨ place.Owes (timerInputs memory) timer) :
    timer.Agrees (storeTurn memory now store place).2 ∨
      others (timerInputs (storeTurn memory now store place).2) ∨
      (storeTurn memory now store place).1.Owes (timerInputs (storeTurn memory now store place).2) timer := by
  cases place with
  | refreshing place =>
    have same : timerInputs (storeTurn memory now store (.refreshing place)).2 = timerInputs memory :=
      refreshTurn_inputs
    rw [same]
    rcases before with agrees | other | owes
    · exact (refreshTurn_agrees (more place rfl) (.inl agrees)).imp id .inr
    · exact .inr (.inl other)
    · exact (refreshTurn_agrees (more place rfl) (.inr owes)).imp id .inr
  | exchanging previous =>
    refine .inr (.inr ?_)
    simp only [storeTurn]
    split
    · trivial
    · split
      · trivial
      · trivial
  | loadingHz mtime sampled =>
    refine .inr (.inr ?_)
    rw [storeTurn]
    split
    · trivial
    · trivial
  | loadingPrevious | readingClock | storingEpoch | failed => exact .inr (.inr trivial)

/-! Where the word in `mtime` comes from. -/

/-- A tick that has not yet found its epoch to stand. -/
def TickPlace.Unchecked (epoch : BitVec 64) : TickPlace → Prop
  | .rechecking seen _ => seen ≠ epoch
  | .refreshing _ => False
  | _ => True

/-- While a store reseats, no tick that has installed its value is past its recheck; else a
tick's value comes from the epoch that stands, or the tick is to find that it does not. -/
structure Rechecked (epoch : BitVec 64) (reseats : Prop) (origin : TimeOrigin) (tick : TickPlace) : Prop where
  before : reseats → ∀ installer, origin = .ticked installer → ∀ place, tick ≠ .refreshing place
  after : ¬ reseats → ∀ installer, origin = .ticked installer → installer = epoch ∨ tick.Unchecked epoch
  rechecking : ∀ seen ticks, tick = .rechecking seen ticks → ∀ installer, origin = .ticked installer → installer = seen

variable {tick : TickPlace} {origin : TimeOrigin} {epoch : BitVec 64} {reseats : Prop}

/-- Nothing is asked of a tick before its compare-exchange. -/
theorem Rechecked.early (unchecked : ∀ epoch, tick.Unchecked epoch) : Rechecked epoch reseats origin tick where
  before _ _ _ place same := by
    subst same
    exact unchecked epoch
  after _ _ _ := .inr (unchecked epoch)
  rechecking seen ticks same := by
    subst same
    exact absurd rfl (unchecked seen)

theorem Rechecked.tickTurn (rechecked : Rechecked (readEpochNs memory) reseats origin tick)
    (timely : ∀ seen ticks, tick = .rechecking seen ticks → reseats → readEpochNs memory = seen →
      ∀ installer, origin ≠ .ticked installer) :
    Rechecked (readEpochNs memory) reseats (tick.origin memory origin) (tickTurn memory now tick).1 := by
  cases tick with
  | exchanging seen ticks previous =>
    by_cases won : readTimeRegister memory .mtime = previous
    · have turned : (Emulator.tickTurn memory now (.exchanging seen ticks previous)).1 = .rechecking seen ticks := by
        rw [← won, tickTurn_wins]
      rw [turned, TickPlace.origin, if_pos won]
      refine ⟨fun _ _ _ place same => ?_, fun _ installer from_ => ?_, fun other ticks same installer from_ => ?_⟩
      · cases same
      · cases from_
        by_cases stands : seen = readEpochNs memory
        · exact .inl stands
        · exact .inr stands
      · cases same
        cases from_
        rfl
    · have turned : (Emulator.tickTurn memory now (.exchanging seen ticks previous)).1 = .loadingEpoch := if_pos won
      rw [turned]
      exact .early fun _ => trivial
  | rechecking seen ticks =>
    by_cases stands : readEpochNs memory = seen
    · rw [tickTurn_stands stands]
      change Rechecked _ _ origin _
      refine ⟨fun inside installer from_ => absurd from_ (timely seen ticks rfl inside stands installer), ?_, nofun⟩
      intro outside installer from_
      exact .inl ((rechecked.after outside installer from_).resolve_right (not_not.mpr stands.symm))
    · have turned : (Emulator.tickTurn memory now (.rechecking seen ticks)).1 = .loadingEpoch := if_pos stands
      rw [turned]
      exact .early fun _ => trivial
  | refreshing place =>
    refine ⟨fun inside installer from_ => absurd rfl (rechecked.before inside installer from_ place), ?_, nofun⟩
    intro outside installer from_
    exact .inl ((rechecked.after outside installer from_).resolve_right id)
  | loadingHz seen sampled =>
    rw [Emulator.tickTurn]
    split
    · exact .early fun _ => trivial
    · exact .early fun _ => trivial
  | loadingEpoch | readingClock | loadingPrevious | failed => exact .early fun _ => trivial

/-- The store's own compare-exchange leaves its value; its epoch is met by ticks that recheck. -/
theorem Rechecked.stored (value : BitVec 64) : Rechecked epoch reseats (.stored value) tick :=
  ⟨nofun, nofun, nofun⟩

theorem Rechecked.reseat (rechecked : Rechecked epoch True origin tick) (next : BitVec 64) :
    Rechecked next False origin tick where
  before inside := inside.elim
  after _ installer from_ := by
    have early := rechecked.before trivial installer from_
    cases tick with
    | rechecking seen ticks =>
      have same := rechecked.rechecking seen ticks rfl installer from_
      subst same
      by_cases stands : installer = next
      · exact .inl stands
      · exact .inr stands
    | refreshing place => exact absurd rfl (early place)
    | loadingEpoch | readingClock | loadingHz | loadingPrevious | exchanging | failed => exact .inr trivial
  rechecking := rechecked.rechecking

theorem Rechecked.storeTurn {store : TimeStore} {place : StorePlace}
    (rechecked : Rechecked (readEpochNs memory) (place.reseats = true) origin tick) :
    Rechecked (readEpochNs (storeTurn memory now store place).2)
      ((storeTurn memory now store place).1.reseats = true) (place.origin store memory origin) tick := by
  rw [storeTurn_epoch]
  cases place with
  | exchanging previous =>
    rw [StorePlace.origin]
    by_cases won : readTimeRegister memory store.register = previous
    · rw [StorePlace.installs, if_pos won]
      exact .stored _
    · have turned : (Emulator.storeTurn memory now store (.exchanging previous)).1 = .loadingPrevious := if_pos won
      rw [StorePlace.installs, if_neg won, turned]
      exact rechecked
  | storingEpoch mtime epochNs =>
    have left : ((Emulator.storeTurn memory now store (.storingEpoch mtime epochNs)).1.reseats = true) = False :=
      eq_false Bool.false_ne_true
    rw [left]
    exact Rechecked.reseat (eq_true rfl ▸ rechecked) _
  | loadingHz mtime sampled =>
    have inside : (Emulator.storeTurn memory now store (.loadingHz mtime sampled)).1.reseats = true := by
      rw [Emulator.storeTurn]
      split
      · rfl
      · rfl
    rw [inside]
    exact rechecked
  | loadingPrevious | readingClock | refreshing | failed => exact rechecked

/-- A tick computes its value from a host time of the past. -/
def TickPlace.Computed (hz : BitVec 64) (now : Nat) : TickPlace → Prop
  | .loadingHz _ sampled => sampled ≤ now
  | .loadingPrevious epoch ticks | .exchanging epoch ticks _ =>
    ∃ sampled ≤ now, ticks = ticksSince epoch hz.toNat sampled
  | _ => True

/-- The word in `mtime` is what its origin says. -/
def TimeOrigin.Explains (hz : BitVec 64) (now : Nat) (mtime : BitVec 64) : TimeOrigin → Prop
  | .stored value => mtime = value
  | .ticked epoch => ∃ sampled ≤ now, mtime = ticksSince epoch hz.toNat sampled

variable {hz mtime : BitVec 64} {moment : Nat}

theorem TickPlace.Computed.later (computed : tick.Computed hz now) (ordered : now ≤ moment) :
    tick.Computed hz moment := by
  cases tick with
  | loadingHz seen sampled => exact Nat.le_trans computed ordered
  | loadingPrevious seen ticks | exchanging seen ticks previous =>
    obtain ⟨sampled, past, same⟩ := computed
    exact ⟨sampled, past.trans ordered, same⟩
  | loadingEpoch | readingClock | rechecking | refreshing | failed => trivial

theorem TimeOrigin.Explains.later (explains : origin.Explains hz now mtime) (ordered : now ≤ moment) :
    origin.Explains hz moment mtime := by
  cases origin with
  | stored value => exact explains
  | ticked epoch =>
    obtain ⟨sampled, past, same⟩ := explains
    exact ⟨sampled, past.trans ordered, same⟩

theorem TickPlace.Computed.turn (computed : tick.Computed hz now) (frequency : readTimebaseHz memory = hz) :
    (tickTurn memory now tick).1.Computed hz now := by
  cases tick with
  | readingClock seen => exact Nat.le_refl now
  | loadingHz seen sampled =>
    rw [tickTurn]
    split
    · trivial
    · rename_i loaded set
      rw [timebaseHz_ok set, frequency]
      exact ⟨sampled, computed, rfl⟩
  | loadingPrevious seen ticks => exact computed
  | exchanging seen ticks previous =>
    simp only [tickTurn]
    split
    · trivial
    · trivial
  | rechecking seen ticks =>
    rw [tickTurn]
    split
    · trivial
    · trivial
  | loadingEpoch | refreshing | failed => trivial

theorem TimeOrigin.Explains.ticks (explains : origin.Explains hz now (readTimeRegister memory .mtime))
    (computed : tick.Computed hz now) :
    (tick.origin memory origin).Explains hz now (readTimeRegister (tickTurn memory now tick).2 .mtime) := by
  rw [tickTurn_mtime]
  cases tick with
  | exchanging seen ticks previous =>
    rw [TickPlace.origin, TickPlace.installs]
    by_cases won : readTimeRegister memory .mtime = previous
    · rw [if_pos won, if_pos won]
      exact computed
    · rw [if_neg won, if_neg won]
      exact explains
  | loadingEpoch | readingClock | loadingHz | loadingPrevious | rechecking | refreshing | failed => exact explains

theorem storeTurn_hz {store : TimeStore} {place : StorePlace} (time : store.register = .mtime) :
    readTimebaseHz (storeTurn memory now store place).2 = readTimebaseHz memory := by
  refine storeTurn_word place 4 (by decide) (by decide) (by decide) ?_
  rw [time]
  decide

theorem TimeOrigin.Explains.stores {store : TimeStore} {place : StorePlace} (time : store.register = .mtime)
    (explains : origin.Explains hz now (readTimeRegister memory .mtime)) :
    (place.origin store memory origin).Explains hz now
      (readTimeRegister (storeTurn memory now store place).2 .mtime) := by
  have stored : readTimeRegister (storeTurn memory now store place).2 store.register = _ := storeTurn_register place
  rw [time] at stored
  rw [stored, StorePlace.origin]
  cases place.installs store memory with
  | some value => exact rfl
  | none => exact explains

/-! What a store has done, and that its epoch stands until another one wins. -/

/-- What counts as stored is the store's value. -/
def SeatedStore.Names (store : SeatedStore) (origin : TimeOrigin) : Prop :=
  ∀ value, origin = .stored value → value = store.value

structure SeatedStore.Stands (store : SeatedStore) (memory : Memory) (now : Nat) (origin : TimeOrigin) : Prop where
  installed : store.installed ≤ store.sampled
  sampled : store.sampled ≤ now
  epoch : readEpochNs memory = store.epoch (readTimebaseHz memory).toNat
  names : store.Names origin

/-- What a store's locals say about what it has done. -/
def StorePlace.Seats (memory : Memory) (now : Nat) (origin : TimeOrigin) (storing : SeatedStore)
    (returned : Option SeatedStore) : StorePlace → Prop
  | .loadingPrevious | .exchanging _ => ∀ store, returned = some store → store.Stands memory now origin
  | .readingClock mtime => mtime = storing.value ∧ storing.installed ≤ now ∧ storing.Names origin
  | .loadingHz mtime sampled => mtime = storing.value ∧ sampled = storing.sampled ∧
    storing.installed ≤ sampled ∧ sampled ≤ now ∧ storing.Names origin
  | .storingEpoch _ epochNs => BitVec.ofInt 64 epochNs = storing.epoch (readTimebaseHz memory).toNat ∧
    storing.installed ≤ storing.sampled ∧ storing.sampled ≤ now ∧ storing.Names origin
  | .refreshing _ => storing.Stands memory now origin
  | .failed => True

variable {storing : SeatedStore} {ended : Option SeatedStore} {other : TimeOrigin}

theorem TickPlace.origin_stored (tick : TickPlace) {value : BitVec 64}
    (from_ : tick.origin memory origin = .stored value) : origin = .stored value := by
  cases tick with
  | exchanging epoch ticks previous =>
    rw [TickPlace.origin] at from_
    split at from_
    · cases from_
    · exact from_
  | loadingEpoch | readingClock | loadingHz | loadingPrevious | rechecking | refreshing | failed => exact from_

/-- Ticks and the passing of time change none of it: a tick may take the stored value away. -/
structure KeepsSeats (memory after : Memory) (now moment : Nat) (origin other : TimeOrigin) : Prop where
  epoch : readEpochNs after = readEpochNs memory
  hz : readTimebaseHz after = readTimebaseHz memory
  later : now ≤ moment
  origin : ∀ value, other = .stored value → origin = .stored value

theorem SeatedStore.Names.kept {store : SeatedStore} (names : store.Names origin)
    (keeps : ∀ value, other = .stored value → origin = .stored value) : store.Names other :=
  fun value from_ => names value (keeps value from_)

theorem SeatedStore.Stands.kept {store : SeatedStore} (stands : store.Stands memory now origin)
    (keeps : KeepsSeats memory after now moment origin other) : store.Stands after moment other where
  installed := stands.installed
  sampled := stands.sampled.trans keeps.later
  epoch := by
    rw [keeps.epoch, keeps.hz]
    exact stands.epoch
  names := stands.names.kept keeps.origin

theorem StorePlace.Seats.kept {place : StorePlace} (seats : place.Seats memory now origin storing ended)
    (keeps : KeepsSeats memory after now moment origin other) :
    place.Seats after moment other storing ended := by
  cases place with
  | loadingPrevious | exchanging previous => exact fun store same => (seats store same).kept keeps
  | readingClock mtime =>
    obtain ⟨value, installed, names⟩ := seats
    exact ⟨value, installed.trans keeps.later, names.kept keeps.origin⟩
  | loadingHz mtime reading =>
    obtain ⟨value, sampled, installed, past, names⟩ := seats
    exact ⟨value, sampled, installed, past.trans keeps.later, names.kept keeps.origin⟩
  | storingEpoch mtime epochNs =>
    obtain ⟨epoch, installed, past, names⟩ := seats
    rw [StorePlace.Seats, keeps.hz]
    exact ⟨epoch, installed, past.trans keeps.later, names.kept keeps.origin⟩
  | refreshing place => exact SeatedStore.Stands.kept seats keeps
  | failed => trivial

theorem storeTurn_loses {store : TimeStore} {previous : BitVec 64}
    (lost : readTimeRegister memory store.register ≠ previous) :
    storeTurn memory now store (.exchanging previous) = (.loadingPrevious, memory) := by
  have found : compareExchangeTimeRegister memory store.register previous (store.next previous) =
      (readTimeRegister memory store.register, memory) :=
    congrArg (readTimeRegister memory store.register, ·) (if_neg lost)
  simp only [storeTurn, found]
  rw [if_pos lost]

theorem writeEpochNs_hz (memory : Memory) (epochNs : Int) :
    readTimebaseHz (writeEpochNs memory epochNs) = readTimebaseHz memory :=
  load64_store64_other memory (by decide) _

theorem StorePlace.Seats.turn {store : TimeStore} {place : StorePlace} (time : store.register = .mtime)
    (seats : place.Seats memory now origin storing ended) :
    (storeTurn memory now store place).1.Seats (storeTurn memory now store place).2 now
      (place.origin store memory origin) (place.seated store memory now storing) ended := by
  cases place with
  | loadingPrevious => exact seats
  | exchanging previous =>
    by_cases won : readTimeRegister memory store.register = previous
    · subst won
      rw [storeTurn_wins, if_pos time, StorePlace.origin, StorePlace.installs, if_pos rfl, StorePlace.seated,
        if_pos rfl]
      refine ⟨rfl, Nat.le_refl now, fun value from_ => ?_⟩
      exact (TimeOrigin.stored.inj from_).symm
    · rw [storeTurn_loses won, StorePlace.origin, StorePlace.installs, if_neg won, StorePlace.seated, if_neg won]
      exact seats
  | readingClock mtime =>
    obtain ⟨value, installed, names⟩ := seats
    exact ⟨value, rfl, installed, Nat.le_refl now, names⟩
  | loadingHz mtime reading =>
    obtain ⟨rfl, rfl, installed, past, names⟩ := seats
    rw [storeTurn]
    split
    · trivial
    · rename_i hz set
      rw [timebaseHz_ok set]
      exact ⟨rfl, installed, past, names⟩
  | storingEpoch mtime epochNs =>
    obtain ⟨epoch, installed, past, names⟩ := seats
    refine ⟨installed, past, ?_, names⟩
    change readEpochNs (writeEpochNs memory epochNs) =
      storing.epoch (readTimebaseHz (writeEpochNs memory epochNs)).toNat
    rw [writeEpochNs_hz, readEpochNs_write, epoch]
  | refreshing place =>
    have same : SameTimebase memory (storeTurn memory now store (.refreshing place)).2 := refreshTurn_timebase
    exact SeatedStore.Stands.kept seats
      ⟨same.word 3 (by decide) (by decide), same.word 4 (by decide) (by decide), Nat.le_refl now, fun _ from_ => from_⟩
  | failed => trivial

/-! The run. -/

/-- Between two stores the last one to have returned is the last that has written the epoch. -/
def HartSeats (memory : Memory) (now : Nat) (origin : TimeOrigin) (storing : SeatedStore)
    (returned : Option SeatedStore) : Option (TimeStore × StorePlace) → Prop
  | some (_, place) => place.Seats memory now origin storing returned
  | none => ∀ store, returned = some store → store.Stands memory now origin

theorem HartSeats.kept {hart : Option (TimeStore × StorePlace)} (seats : HartSeats memory now origin storing ended hart)
    (keeps : KeepsSeats memory after now moment origin other) : HartSeats after moment other storing ended hart := by
  cases hart with
  | none => exact fun store same => (seats store same).kept keeps
  | some store => exact StorePlace.Seats.kept seats keeps

def HartReseats : Option (TimeStore × StorePlace) → Prop
  | some (_, place) => place.reseats = true
  | none => False

def HartOwes (hart : Option (TimeStore × StorePlace)) (timer : TimerWire) (current : TimerInputs) : Prop :=
  match hart with
  | some (_, place) => place.Owes current timer
  | none => False

/-- What holds in every run of steps that do not tear. -/
structure StoreSound (state : StoreState) : Prop where
  computed : state.timer.Computed (readTimebaseHz state.memory) state.now
  explains : state.origin.Explains (readTimebaseHz state.memory) state.now (readTimeRegister state.memory .mtime)
  rechecked : Rechecked (readEpochNs state.memory) (HartReseats state.hart) state.origin state.timer
  register : ∀ store place, state.hart = some (store, place) → store.register = .mtime
  seats : HartSeats state.memory state.now state.origin state.storing state.returned state.hart
  wires : ∀ timer : TimerWire, timer.Agrees state.memory ∨ state.timer.Owes (timerInputs state.memory) timer ∨
    HartOwes state.hart timer (timerInputs state.memory)

theorem StoreStart.sound {state : StoreState} (start : StoreStart state) : StoreSound state where
  computed := by
    rw [start.timer]
    trivial
  explains := by
    rw [start.origin]
    exact rfl
  rechecked := by
    rw [start.origin]
    exact .stored _
  register store place inside := by
    rw [start.hart] at inside
    cases inside
  seats := by
    rw [start.hart, start.returned]
    nofun
  wires timer := by
    rw [start.timer]
    exact .inr (.inl trivial)

theorem Rechecked.outside (rechecked : Rechecked epoch reseats origin tick) (left : ¬ reseats) (entered : ¬ later) :
    Rechecked epoch later origin tick :=
  ⟨fun inside => absurd inside entered, fun _ => rechecked.after left, rechecked.rechecking⟩

theorem SameTimer.agrees (same : SameTimer memory after) (timer : TimerWire) :
    timer.Agrees after ↔ timer.Agrees memory := by
  rw [TimerWire.Agrees, TimerWire.Agrees, same.high, same.inputs]

variable {state next : StoreState}

theorem StoreSound.timerTurn (sound : StoreSound state) (may : UntornTurn .timer state) : StoreSound { state with
    memory := (Emulator.tickTurn state.memory state.now state.timer).2
    timer := (Emulator.tickTurn state.memory state.now state.timer).1
    origin := state.timer.origin state.memory state.origin } where
  computed := by
    rw [tickTurn_hz]
    exact sound.computed.turn rfl
  explains := by
    rw [tickTurn_hz]
    exact sound.explains.ticks sound.computed
  rechecked := by
    rw [tickTurn_epoch]
    refine sound.rechecked.tickTurn fun seen ticks there inside stands => ?_
    cases hart : state.hart with
    | none =>
      rw [hart] at inside
      exact inside.elim
    | some store =>
      rw [hart] at inside
      exact may.1 seen ticks store.1 store.2 there hart inside stands
  register := sound.register
  seats := sound.seats.kept ⟨tickTurn_epoch state.timer, tickTurn_hz state.timer, Nat.le_refl _,
    fun _ => state.timer.origin_stored⟩
  wires timer := tickTurn_agrees may.2 (sound.wires timer)

theorem StoreSound.hartTurn {store : TimeStore} {place : StorePlace} (sound : StoreSound state)
    (inside : state.hart = some (store, place)) (may : UntornTurn .hart state) : StoreSound { state with
      memory := (Emulator.storeTurn state.memory state.now store place).2
      hart := some (store, (Emulator.storeTurn state.memory state.now store place).1)
      origin := place.origin store state.memory state.origin
      storing := place.seated store state.memory state.now state.storing } where
  computed := by
    rw [storeTurn_hz (sound.register store place inside)]
    exact sound.computed
  explains := by
    rw [storeTurn_hz (sound.register store place inside)]
    exact sound.explains.stores (sound.register store place inside)
  rechecked := by
    have rechecked := sound.rechecked
    rw [inside] at rechecked
    exact rechecked.storeTurn
  register other place there := by
    cases there
    exact sound.register store _ inside
  seats := by
    have seats := sound.seats
    rw [inside] at seats
    exact StorePlace.Seats.turn (sound.register store place inside) seats
  wires timer := by
    have before := sound.wires timer
    rw [inside] at before
    exact storeTurn_agrees (fun current => state.timer.Owes current timer)
      (fun inner same => may store inner (same ▸ inside)) before

theorem StoreStep.sound (step : StoreStep UntornTurn state next) (sound : StoreSound state) : StoreSound next := by
  cases step with
  | tick idle => exact ⟨trivial, sound.explains, .early fun _ => trivial, sound.register, sound.seats,
      fun _ => .inr (.inl trivial)⟩
  | store idle store time =>
    have outside : ¬ HartReseats state.hart := by
      rw [idle]
      exact id
    have seats := sound.seats
    rw [idle] at seats
    refine ⟨sound.computed, sound.explains, sound.rechecked.outside outside nofun, ?_, seats,
      fun _ => .inr (.inr trivial)⟩
    rintro other place there
    cases there
    exact time
  | timer may => exact sound.timerTurn may
  | hart inside may => exact sound.hartTurn inside may
  | returned behind =>
    have outside : ¬ HartReseats state.hart := by
      rw [behind]
      exact nofun
    have seats := sound.seats
    rw [behind] at seats
    refine ⟨sound.computed, sound.explains, sound.rechecked.outside outside id, nofun, ?_, fun timer => ?_⟩
    · rintro store same
      cases same
      exact seats
    have wire := sound.wires timer
    rwa [behind] at wire
  | clock later =>
    have seats := sound.seats.kept ⟨rfl, rfl, later, fun _ from_ => from_⟩
    exact ⟨sound.computed.later later, sound.explains.later later, sound.rechecked, sound.register, seats, sound.wires⟩
  | elsewhere same =>
    have time : readTimeRegister _ .mtime = readTimeRegister state.memory .mtime :=
      congrArg TimerInputs.mtime same.inputs
    constructor
    case computed =>
      rw [same.hz]
      exact sound.computed
    case explains =>
      rw [same.hz, time]
      exact sound.explains
    case rechecked =>
      rw [same.epoch]
      exact sound.rechecked
    case register => exact sound.register
    case seats => exact sound.seats.kept ⟨same.epoch, same.hz, Nat.le_refl _, fun _ from_ => from_⟩
    case wires =>
      intro timer
      rw [same.agrees, same.inputs]
      exact sound.wires timer

theorem updateTimerWiresFromCompare_epoch : readEpochNs (updateTimerWiresFromCompare memory) = readEpochNs memory := by
  have same : SameTimebase memory (updateTimerWiresFromCompare memory) := updateTimerWiresFromCompare_same
  exact same.word 3 (by decide) (by decide)

theorem updateTimerWiresFromCompare_hz :
    readTimebaseHz (updateTimerWiresFromCompare memory) = readTimebaseHz memory := by
  have same : SameTimebase memory (updateTimerWiresFromCompare memory) := updateTimerWiresFromCompare_same
  exact same.word 4 (by decide) (by decide)

theorem storedMtime_epoch (memory : Memory) (value : BitVec 64) :
    readEpochNs (memory.store64 (clintHostUint64 memory 0) value) = readEpochNs memory :=
  load64_store64_other memory (by decide) value

theorem storedMtime_hz (memory : Memory) (value : BitVec 64) :
    readTimebaseHz (memory.store64 (clintHostUint64 memory 0) value) = readTimebaseHz memory :=
  load64_store64_other memory (by decide) value

/-! Whole calls, and the run in which a tick comes between a store's value and its epoch. -/

variable {allowed : TimeParty → StoreState → Prop} {hart : Option (TimeStore × StorePlace)}

/-- The timer may make any access but a recheck and one that gives a refresh up. -/
def MayTick (allowed : TimeParty → StoreState → Prop) (now : Nat) (hart : Option (TimeStore × StorePlace)) : Prop :=
  ∀ memory place origin storing returned, (∀ inner, place = .refreshing inner → ¬ inner.Exhausted memory) →
    (∀ epoch ticks, place ≠ .rechecking epoch ticks) →
      allowed .timer ⟨memory, now, place, hart, origin, storing, returned⟩

/-- So may the hart in its store. -/
def MayStore (allowed : TimeParty → StoreState → Prop) (now : Nat) (tick : TickPlace) : Prop :=
  ∀ memory store place origin storing returned, (∀ inner, place = .refreshing inner → ¬ inner.Exhausted memory) →
    allowed .hart ⟨memory, now, tick, some (store, place), origin, storing, returned⟩

theorem tick_step {next : TickPlace} (may : allowed .timer ⟨memory, now, tick, hart, origin, storing, ended⟩)
    (turned : tickTurn memory now tick = (next, after)) : ReflTransGen (StoreStep allowed)
      ⟨memory, now, tick, hart, origin, storing, ended⟩
      ⟨after, now, next, hart, tick.origin memory origin, storing, ended⟩ := by
  have step : StoreStep allowed ⟨memory, now, tick, hart, origin, storing, ended⟩ ⟨(tickTurn memory now tick).2, now,
      (tickTurn memory now tick).1, hart, tick.origin memory origin, storing, ended⟩ := .timer may
  rw [turned] at step
  exact .single step

theorem store_step {store : TimeStore} {place next : StorePlace} (may : MayStore allowed now tick)
    (turned : storeTurn memory now store place = (next, after))
    (more : ∀ inner, place = .refreshing inner → ¬ inner.Exhausted memory) : ReflTransGen (StoreStep allowed)
      ⟨memory, now, tick, some (store, place), origin, storing, ended⟩ ⟨after, now, tick, some (store, next),
        place.origin store memory origin, place.seated store memory now storing, ended⟩ := by
  have step : StoreStep allowed ⟨memory, now, tick, some (store, place), origin, storing, ended⟩
      ⟨(storeTurn memory now store place).2, now, tick, some (store, (storeTurn memory now store place).1),
        place.origin store memory origin, place.seated store memory now storing, ended⟩ :=
    .hart rfl (may memory store place origin storing ended more)
  rw [turned] at step
  exact .single step

/-- A tick up to the value it computes. -/
theorem tick_samples (may : MayTick allowed now hart) (set : (readTimebaseHz memory).toNat ≠ 0) (origin : TimeOrigin)
    (storing : SeatedStore) (ended : Option SeatedStore) :
    ReflTransGen (StoreStep allowed) ⟨memory, now, .loadingEpoch, hart, origin, storing, ended⟩
      ⟨memory, now, .loadingPrevious (readEpochNs memory) (ticksAt memory now), hart, origin, storing, ended⟩ := by
  have loads : ReflTransGen (StoreStep allowed) ⟨memory, now, .loadingEpoch, hart, origin, storing, ended⟩
      ⟨memory, now, .readingClock (readEpochNs memory), hart, origin, storing, ended⟩ :=
    tick_step (may _ _ _ _ _ nofun nofun) rfl
  have reads := loads.trans (tick_step (may _ _ _ _ _ nofun nofun) rfl)
  exact reads.trans (tick_step (may _ _ _ _ _ nofun nofun) (tickTurn_computes set _ now))

/-- A tick that finds `mtime` as it loaded it, up to its recheck. -/
theorem tick_wins (may : MayTick allowed now hart) : ReflTransGen (StoreStep allowed)
    ⟨memory, now, .loadingPrevious epoch ticks, hart, origin, storing, ended⟩
    ⟨memory.store64 (clintHostUint64 memory 0) ticks, now, .rechecking epoch ticks, hart, .ticked epoch, storing,
      ended⟩ := by
  have loads : ReflTransGen (StoreStep allowed)
      ⟨memory, now, .loadingPrevious epoch ticks, hart, origin, storing, ended⟩
      ⟨memory, now, .exchanging epoch ticks (readTimeRegister memory .mtime), hart, origin, storing, ended⟩ :=
    tick_step (may _ _ _ _ _ nofun nofun) rfl
  have wins := loads.trans (tick_step (may _ _ _ _ _ nofun nofun) (tickTurn_wins epoch ticks))
  rwa [TickPlace.origin, if_pos rfl] at wins

/-- A tick that finds its epoch to stand, up to its end. -/
theorem tick_stands (may : MayTick allowed now hart)
    (recheck : allowed .timer ⟨memory, now, .rechecking epoch ticks, hart, origin, storing, ended⟩)
    (stands : readEpochNs memory = epoch) : ReflTransGen (StoreStep allowed)
      ⟨memory, now, .rechecking epoch ticks, hart, origin, storing, ended⟩
      ⟨updateTimerWiresFromCompare memory, now, .refreshing (.refreshed true), hart, origin, storing, ended⟩ := by
  refine (tick_step recheck (tickTurn_stands stands ticks)).trans ?_
  refine (refresh_calm memory).lift
    (fun state => (⟨state.2, now, .refreshing state.1, hart, origin, storing, ended⟩ : StoreState)) ?_
  rintro _ _ ⟨⟨place, memory⟩, more⟩
  refine .timer (may memory _ _ _ _ (fun inner same => ?_) nofun)
  cases same
  exact more

/-- A tick that finds another epoch begins again. -/
theorem tick_restarts (recheck : allowed .timer ⟨memory, now, .rechecking epoch ticks, hart, origin, storing, ended⟩)
    (moved : readEpochNs memory ≠ epoch) : ReflTransGen (StoreStep allowed)
      ⟨memory, now, .rechecking epoch ticks, hart, origin, storing, ended⟩
      ⟨memory, now, .loadingEpoch, hart, origin, storing, ended⟩ :=
  tick_step recheck (congrArg (·, memory) (if_pos moved))

/-- A store of a whole `mtime`. -/
def storeOfMtime (value : BitVec 64) : TimeStore := ⟨.mtime, 0, value, 8⟩

/-- The epoch that store asks for at host time `now`. -/
def epochOfStore (memory : Memory) (now : Nat) (value : BitVec 64) : Int :=
  (now : Int) - ((value.toNat : Int) * nsPerSecond).tdiv (readTimebaseHz memory).toNat

theorem storeOfMtime_next (value previous : BitVec 64) : (storeOfMtime value).next previous = value := by
  rw [TimeStore.next, storeOfMtime, mergeTimeBytes, if_pos ⟨rfl, rfl⟩]

/-- A store that finds `mtime` as it loaded it, up to its epoch. -/
theorem store_wins (may : MayStore allowed now tick) (value : BitVec 64) :
    ReflTransGen (StoreStep allowed)
      ⟨memory, now, tick, some (storeOfMtime value, .loadingPrevious), origin, storing, ended⟩
      ⟨memory.store64 (clintHostUint64 memory 0) value, now, tick, some (storeOfMtime value, .readingClock value),
        .stored value, { storing with value, installed := now }, ended⟩ := by
  have won : storeTurn memory now (storeOfMtime value) (.exchanging (readTimeRegister memory .mtime)) = _ :=
    storeTurn_wins (storeOfMtime value)
  rw [storeOfMtime_next] at won
  have loads : ReflTransGen (StoreStep allowed)
      ⟨memory, now, tick, some (storeOfMtime value, .loadingPrevious), origin, storing, ended⟩
      ⟨memory, now, tick, some (storeOfMtime value, .exchanging (readTimeRegister memory .mtime)), origin, storing,
        ended⟩ :=
    store_step may rfl nofun
  have wins := loads.trans (store_step may won nofun)
  have installs : (StorePlace.exchanging (readTimeRegister memory .mtime)).installs (storeOfMtime value) memory =
      some value := (if_pos rfl).trans (congrArg some (storeOfMtime_next value _))
  have seated : (StorePlace.exchanging (readTimeRegister memory .mtime)).seated (storeOfMtime value) memory now
      storing = { storing with value, installed := now } := by
    rw [StorePlace.seated, storeOfMtime_next]
    exact if_pos rfl
  rw [StorePlace.origin, installs, seated] at wins
  exact wins

/-- The wires, undisturbed. -/
theorem store_refreshes {store : TimeStore} (may : MayStore allowed now tick) : ReflTransGen (StoreStep allowed)
    ⟨memory, now, tick, some (store, .refreshing (.loadingMtime 0)), origin, storing, ended⟩
    ⟨updateTimerWiresFromCompare memory, now, tick, some (store, .refreshing (.refreshed true)), origin, storing,
      ended⟩ := by
  refine (refresh_calm memory).lift
    (fun state => (⟨state.2, now, tick, some (store, .refreshing state.1), origin, storing, ended⟩ : StoreState)) ?_
  rintro _ _ ⟨⟨place, memory⟩, more⟩
  refine .hart rfl (may memory store _ _ _ _ fun inner same => ?_)
  cases same
  exact more

/-- A store behind its compare-exchange: the epoch, and the wires. -/
theorem store_reseats (may : MayStore allowed now tick) (set : (readTimebaseHz memory).toNat ≠ 0) (value : BitVec 64) :
    ReflTransGen (StoreStep allowed)
      ⟨memory, now, tick, some (storeOfMtime value, .readingClock value), origin, storing, ended⟩
      ⟨updateTimerWiresFromCompare (writeEpochNs memory (epochOfStore memory now value)), now, tick, none, origin,
        { storing with sampled := now }, some { storing with sampled := now }⟩ := by
  have clock : ReflTransGen (StoreStep allowed)
      ⟨memory, now, tick, some (storeOfMtime value, .readingClock value), origin, storing, ended⟩
      ⟨memory, now, tick, some (storeOfMtime value, .loadingHz value now), origin, { storing with sampled := now },
        ended⟩ := store_step may rfl nofun
  have epoch := clock.trans (store_step may (storeTurn_computes set (storeOfMtime value) value now) nofun)
  have seated := epoch.trans (store_step may rfl nofun)
  exact (seated.trans (store_refreshes may)).tail (.returned rfl)

/-- The timer samples with the old epoch; the hart stores its value; the tick replaces the
value and finds the old epoch; the hart writes the new one. -/
theorem tornStore_run (set : (readTimebaseHz memory).toNat ≠ 0) (now : Nat) (value : BitVec 64) (origin : TimeOrigin)
    (storing : SeatedStore) : ∃ last,
      ReflTransGen (StoreStep fun _ _ => True) ⟨memory, now, .loadingEpoch, none, origin, storing, none⟩ last ∧
      last.timer = .refreshing (.refreshed true) ∧ last.hart = none ∧ last.origin = .ticked (readEpochNs memory) ∧
      readEpochNs last.memory = BitVec.ofInt 64 (epochOfStore memory now value) := by
  have mayTick (hart : Option (TimeStore × StorePlace)) : MayTick (fun _ _ => True) now hart :=
    fun _ _ _ _ _ _ _ => trivial
  have mayStore (tick : TickPlace) : MayStore (fun _ _ => True) now tick := fun _ _ _ _ _ _ _ => trivial
  generalize stores : memory.store64 (clintHostUint64 memory 0) value = stored
  generalize replaces : stored.store64 (clintHostUint64 stored 0) (ticksAt memory now) = replaced
  have samples := tick_samples (mayTick none) set origin storing none
  have calls := samples.tail (.store rfl (storeOfMtime value) rfl)
  have installs := calls.trans (store_wins (mayStore _) value)
  rw [stores] at installs
  have late := installs.trans (tick_wins (mayTick _))
  rw [replaces] at late
  have epoch : readEpochNs replaced = readEpochNs memory := by
    rw [← replaces, ← stores, storedMtime_epoch, storedMtime_epoch]
  have ticked := late.trans (tick_stands (mayTick _) trivial epoch)
  have frequency : readTimebaseHz (updateTimerWiresFromCompare replaced) = readTimebaseHz memory := by
    rw [updateTimerWiresFromCompare_hz, ← replaces, ← stores, storedMtime_hz, storedMtime_hz]
  have seats := ticked.trans (store_reseats (mayStore _) (by rwa [frequency]) value)
  refine ⟨_, seats, rfl, rfl, rfl, ?_⟩
  rw [updateTimerWiresFromCompare_epoch, readEpochNs_write, epochOfStore, frequency, epochOfStore]

/-- Once both have finished, the epoch is that of the last store, `mtime` is its value or ticks
from its epoch, and the wires agree with it, in any interleaving of steps that do not tear. -/
theorem mtimeStore_untorn (start : StoreStart first) (run : ReflTransGen (StoreStep UntornTurn) first last)
    (ticked : last.timer = .refreshing (.refreshed settled)) (returned : last.hart = none) :
    MtimeUntorn last ∧ ∀ timer : TimerWire, timer.Agrees last.memory := by
  have sound := invariant_run StoreSound (fun _ _ step => step.sound) run start.sound
  have explains := sound.explains
  have seats := sound.seats
  have outside : ¬ HartReseats last.hart := by
    rw [returned]
    exact id
  rw [returned] at seats
  constructor
  · refine ⟨fun store ended => ?_, fun value from_ => ⟨?_, fun store ended => ?_⟩, fun epoch from_ => ⟨?_, ?_⟩⟩
    · have stands := seats store ended
      exact ⟨stands.installed, stands.sampled, stands.epoch⟩
    · rw [from_] at explains
      exact explains
    · exact (seats store ended).names value from_
    · have rechecked := sound.rechecked.after outside epoch from_
      rw [ticked] at rechecked
      exact rechecked.resolve_right id
    · rw [from_] at explains
      exact explains
  · intro timer
    have wire := sound.wires timer
    rw [ticked, returned] at wire
    exact wire.resolve_right (by rintro (owes | owes) <;> exact owes)

/-- At 10000 ns the guest sets the time to 5, and keeps the ticks of the old epoch. -/
theorem mtimeStore_torn : ¬ ∀ first last settled, StoreStart first →
    ReflTransGen (StoreStep fun _ _ => True) first last →
    last.timer = .refreshing (.refreshed settled) → last.hart = none →
    MtimeUntorn last ∧ ∀ timer : TimerWire, timer.Agrees last.memory := by
  intro claimed
  obtain ⟨last, run, ticked, returned, from_, epoch⟩ := tornStore_run nanosecondMemory_set 10000 5
    (.stored (readTimeRegister nanosecondMemory .mtime)) ⟨0, 0, 0⟩
  have untorn := (claimed _ last true ⟨rfl, rfl, rfl, rfl⟩ run ticked returned).1
  have stale := (untorn.ticked _ from_).1
  rw [nanosecondMemory_epoch, epoch, epochOfStore, nanosecondMemory_hz] at stale
  exact absurd stale (by decide)

/-- At 10000 ns a tick with the old epoch replaces the 5 that the guest has just stored, finds
the new epoch at its recheck, and sets the time back to 5. -/
theorem mtimeStore_untorn_rechecked : ∃ last : StoreState, last.returned = some ⟨5, 10000, 10000⟩ ∧
    last.origin = .ticked 9995 ∧ readTimeRegister last.memory .mtime = 5 ∧
    MtimeUntorn last ∧ ∀ timer : TimerWire, timer.Agrees last.memory := by
  have mayTick (hart : Option (TimeStore × StorePlace)) : MayTick UntornTurn 10000 hart :=
    fun memory place origin storing ended more early =>
      ⟨fun epoch ticks _ _ there => absurd there (early epoch ticks), more⟩
  have mayStore (tick : TickPlace) : MayStore UntornTurn 10000 tick := by
    rintro memory store place origin storing ended more other inner inside
    cases inside
    exact more inner rfl
  have recheck (memory : Memory) (epoch ticks : BitVec 64) (origin : TimeOrigin) (storing : SeatedStore)
      (ended : Option SeatedStore) :
      UntornTurn .timer ⟨memory, 10000, .rechecking epoch ticks, none, origin, storing, ended⟩ :=
    ⟨fun _ _ _ _ _ inside => absurd inside.symm (Option.some_ne_none _), nofun⟩
  generalize counts : TimeOrigin.stored (readTimeRegister nanosecondMemory .mtime) = origin
  have start : StoreStart ⟨nanosecondMemory, 10000, .loadingEpoch, none, origin, ⟨0, 0, 0⟩, none⟩ :=
    ⟨rfl, rfl, counts.symm, rfl⟩
  generalize stores : nanosecondMemory.store64 (clintHostUint64 nanosecondMemory 0) 5 = stored
  generalize replaces : stored.store64 (clintHostUint64 stored 0) (ticksAt nanosecondMemory 10000) = replaced
  have samples := tick_samples (mayTick none) nanosecondMemory_set origin ⟨0, 0, 0⟩ none
  have installs := (samples.tail (.store rfl (storeOfMtime 5) rfl)).trans (store_wins (mayStore _) 5)
  rw [stores] at installs
  have late := installs.trans (tick_wins (mayTick _))
  rw [replaces] at late
  have frequency : readTimebaseHz replaced = readTimebaseHz nanosecondMemory := by
    rw [← replaces, ← stores, storedMtime_hz, storedMtime_hz]
  have seats := late.trans (store_reseats (mayStore _) (frequency ▸ nanosecondMemory_set) 5)
  have seated : epochOfStore replaced 10000 5 = 9995 := by
    rw [epochOfStore, frequency, nanosecondMemory_hz]
    decide
  rw [seated] at seats
  generalize refreshes : updateTimerWiresFromCompare (writeEpochNs replaced 9995) = reseated at seats
  have epoch : readEpochNs reseated = 9995 := by
    rw [← refreshes, updateTimerWiresFromCompare_epoch, readEpochNs_write]
    rfl
  have hz : readTimebaseHz reseated = readTimebaseHz nanosecondMemory := by
    rw [← refreshes, updateTimerWiresFromCompare_hz, writeEpochNs_hz, frequency]
  have moved : readEpochNs reseated ≠ readEpochNs nanosecondMemory := by
    rw [epoch, nanosecondMemory_epoch]
    decide
  have restarts := seats.trans (tick_restarts (recheck ..) moved)
  have again := (restarts.trans (tick_samples (mayTick none) (hz ▸ nanosecondMemory_set) _ _ _)).trans
    (tick_wins (mayTick none))
  have run := again.trans (tick_stands (mayTick none) (recheck ..) (storedMtime_epoch reseated _))
  refine ⟨_, rfl, congrArg TimeOrigin.ticked epoch, ?_, mtimeStore_untorn start run rfl rfl⟩
  have shown : readTimeRegister (tickedMemory reseated 10000) .mtime = ticksAt reseated 10000 :=
    tickedMemory_mtime reseated 10000
  refine shown.trans ?_
  rw [ticksAt, epoch, hz, nanosecondMemory_hz]
  decide

end YaRiscV.Emulator
