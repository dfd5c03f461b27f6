import YaRiscV.Library.Transition
import YaRiscV.Emulator.Clint.Turns

/-! The timer worker of `timer/run.ts` beside a hart that reads `mtime` or the `time` CSR:
a tick samples the clock before it loads the value it replaces, so a late one may set
`mtime` back. -/

namespace YaRiscV.Emulator

open YaRiscV.Library YaRiscV.Utils Relation

/-- The place of a worker in a sync-on-read: in the tick, or behind the load. -/
inductive ReadPlace where
  | ticking (place : TickPlace)
  | loaded (value : BitVec 64)
  deriving DecidableEq, Repr

/-- One access of `readClintMtimeBytes`, at host time `now`. -/
def readTurn (memory : Memory) (now : Nat) : ReadPlace → ReadPlace × Memory
  | .ticking (.refreshing (.refreshed _)) => (.loaded (readTimeRegister memory .mtime), memory)
  | .ticking place =>
    let (place, memory) := tickTurn memory now place
    (.ticking place, memory)
  | .loaded value => (.loaded value, memory)

/-- The two workers: the timer's tick, the hart's read if it is in one, and the values the
hart has read, the last one first. -/
structure ClockState where
  memory : Memory
  now : Nat
  timer : TickPlace
  hart : Option ReadPlace
  readings : List (BitVec 64)

/-- Ticks elapsed since an epoch, before they are cut to a word. -/
def elapsedTicks (epoch hz : BitVec 64) (now : Nat) : Nat :=
  (now - epoch.toNat) * hz.toNat / nsPerSecond

/-- The host time is at or above the epoch, and the ticks since fit a word. -/
structure Timed (epoch hz : BitVec 64) (now : Nat) : Prop where
  above : epoch.toNat ≤ now
  fits : elapsedTicks epoch hz now < 2 ^ 64

namespace ClockState

variable (state : ClockState)

def epoch : BitVec 64 := readEpochNs state.memory

def hz : BitVec 64 := readTimebaseHz state.memory

def mtime : BitVec 64 := readTimeRegister state.memory .mtime

end ClockState

/-- Accesses of others, none of which stores `mtime`, the epoch or the frequency. -/
structure SameClock (before after : Memory) : Prop where
  mtime : readTimeRegister after .mtime = readTimeRegister before .mtime
  epoch : readEpochNs after = readEpochNs before
  hz : readTimebaseHz after = readTimebaseHz before

/-- One step of any interleaving: the timer begins a tick, the hart begins a read, either
makes its next access, the hart has read, host time passes, or something happens elsewhere.
`allowed` restricts the states in which the timer makes an access. -/
inductive ClockStep (allowed : ClockState → Prop) : ClockState → ClockState → Prop
  | tick {state : ClockState} (idle : state.timer = .refreshing (.refreshed settled)) :
      ClockStep allowed state { state with timer := .loadingEpoch }
  | read {state : ClockState} (idle : state.hart = none) :
      ClockStep allowed state { state with hart := some (.ticking .loadingEpoch) }
  | timer {state : ClockState} (may : allowed state) :
      ClockStep allowed state { state with
        timer := (tickTurn state.memory state.now state.timer).1
        memory := (tickTurn state.memory state.now state.timer).2 }
  | hart {state : ClockState} (inside : state.hart = some place) :
      ClockStep allowed state { state with
        hart := some (readTurn state.memory state.now place).1
        memory := (readTurn state.memory state.now place).2 }
  | loaded {state : ClockState} (behind : state.hart = some (.loaded value)) :
      ClockStep allowed state { state with hart := none, readings := value :: state.readings }
  | clock {state : ClockState} (later : state.now ≤ now) (timed : Timed state.epoch state.hz now) :
      ClockStep allowed state { state with now }
  | elsewhere {state : ClockState} (same : SameClock state.memory after) :
      ClockStep allowed state { state with memory := after }

/-- Nobody has called yet. -/
structure ClockStart (state : ClockState) : Prop where
  timed : Timed state.epoch state.hz state.now
  timer : state.timer = .loadingEpoch
  hart : state.hart = none
  readings : state.readings = []

/-- Behind the winning compare-exchange. -/
def TickPlace.installed : TickPlace → Bool
  | .rechecking _ _ | .refreshing _ => true
  | _ => false

/-- While the hart stands between its own compare-exchange and its load, the timer does not
install ticks below a value the hart has read. -/
def TimelyTick (state : ClockState) : Prop :=
  ∀ place ticks, state.hart = some (.ticking place) → place.installed = true →
    state.timer.installs state.memory = some ticks → ∀ reading ∈ state.readings, reading ≤ ticks

/-! A read that is not interfered with is the function. -/

theorem readTurn_tick (memory : Memory) (now : Nat) (place : TickPlace) :
    ReflTransGen (Alone fun memory => readTurn memory now) (.ticking place, memory)
      (.ticking (tickTurn memory now place).1, (tickTurn memory now place).2) := by
  cases place with
  | refreshing place =>
    cases place with
    | refreshed settled => exact .refl
    | _ => exact Alone.run rfl
  | _ => exact Alone.run rfl

theorem ticking_alone (run : ReflTransGen (Alone fun memory => tickTurn memory now) (place, memory) (last, after)) :
    ReflTransGen (Alone fun memory => readTurn memory now) (.ticking place, memory) (.ticking last, after) := by
  refine run.lift' (fun state => (ReadPlace.ticking state.1, state.2)) ?_
  rintro _ _ ⟨place, memory⟩
  exact readTurn_tick memory now place

theorem read_alone (set : (readTimebaseHz memory).toNat ≠ 0) (now : Nat) :
    ReflTransGen (Alone fun memory => readTurn memory now) (.ticking .loadingEpoch, memory)
      (.loaded (ticksAt memory now), tickedMemory memory now) := by
  have wires := refreshing_alone (fun memory => tickTurn memory now) .refreshing (fun _ _ => rfl)
    (refresh_alone (memory.store64 (clintHostUint64 memory 0) (ticksAt memory now)))
  have loads : readTurn (tickedMemory memory now) now (.ticking (.refreshing (.refreshed true))) =
      (.loaded (ticksAt memory now), tickedMemory memory now) := by
    rw [readTurn, tickedMemory_mtime]
  exact (ticking_alone ((tick_alone set now).trans wires)).trans (Alone.run loads)

theorem readClintMtimeBytes_alone (set : (readTimebaseHz memory).toNat ≠ 0) : ∃ value after,
    readClintMtimeBytes memory = .ok (unsignedBigIntToBytes value.toNat, after) ∧
      ReflTransGen (Alone fun memory' => readTurn memory' memory.readHostClock.1) (.ticking .loadingEpoch, memory)
        (.loaded value, { after with worker := memory.worker }) := by
  have value : readTimeRegister (tickedMemory memory.readHostClock.2 memory.readHostClock.1) .mtime =
      ticksAt memory memory.readHostClock.1 := tickedMemory_mtime _ _
  refine ⟨ticksAt memory memory.readHostClock.1, tickedMemory memory.readHostClock.2 memory.readHostClock.1, ?_, ?_⟩
  · rw [readClintMtimeBytes, tickClint_ticked set, Except.map, value]
  · rw [← tickedMemory_worker]
    exact read_alone set _

/-! What a tick has in hand. -/

variable {epoch hz : BitVec 64} {now moment : Nat} {readings : List (BitVec 64)} {memory after : Memory}

/-- No less than any of the readings, and no more than the ticks elapsed. -/
structure Between (epoch hz : BitVec 64) (now : Nat) (readings : List (BitVec 64)) (ticks : BitVec 64) : Prop where
  low : ∀ reading ∈ readings, reading ≤ ticks
  high : ticks.toNat ≤ elapsedTicks epoch hz now

/-- A tick that began when the readings were `readings` works with the epoch, a host time
since, and the ticks of such a time. -/
def TickPlace.Knows (epoch hz : BitVec 64) (now : Nat) (readings : List (BitVec 64)) : TickPlace → Prop
  | .readingClock seen => seen = epoch
  | .loadingHz seen sampled => seen = epoch ∧ epoch.toNat ≤ sampled ∧ sampled ≤ now ∧
      ∀ reading ∈ readings, reading.toNat ≤ elapsedTicks epoch hz sampled
  | .loadingPrevious _ ticks | .exchanging _ ticks _ => Between epoch hz now readings ticks
  | _ => True

theorem elapsedTicks_mono (ordered : now ≤ moment) : elapsedTicks epoch hz now ≤ elapsedTicks epoch hz moment :=
  Nat.div_le_div_right (Nat.mul_le_mul_right _ (Nat.sub_le_sub_right ordered _))

theorem Between.later (between : Between epoch hz now readings ticks) (ordered : now ≤ moment) :
    Between epoch hz moment readings ticks :=
  ⟨between.low, between.high.trans (elapsedTicks_mono ordered)⟩

theorem TickPlace.Knows.later {place : TickPlace} (knows : place.Knows epoch hz now readings) (ordered : now ≤ moment) :
    place.Knows epoch hz moment readings := by
  cases place with
  | readingClock seen => exact knows
  | loadingHz seen sampled =>
    obtain ⟨same, above, before, low⟩ := knows
    exact ⟨same, above, before.trans ordered, low⟩
  | loadingPrevious seen ticks | exchanging seen ticks previous => exact Between.later knows ordered
  | loadingEpoch | rechecking | refreshing | failed => trivial

/-- Host times at or above the epoch count the ticks themselves. -/
theorem Timed.ticksSince_toNat (timed : Timed epoch hz now) :
    (ticksSince epoch hz.toNat now).toNat = elapsedTicks epoch hz now := by
  have whole : ((now : Int) - epoch.toNat) * hz.toNat = (((now - epoch.toNat) * hz.toNat : Nat) : Int) := by
    rw [Nat.cast_mul, Nat.cast_sub timed.above]
  have ticks : ticksSince epoch hz.toNat now = BitVec.ofNat 64 (elapsedTicks epoch hz now) := by
    rw [ticksSince, whole, ← Int.ofNat_tdiv, BitVec.ofInt_natCast]
    rfl
  rw [ticks, BitVec.toNat_ofNat, Nat.mod_eq_of_lt timed.fits]

/-- What a tick knows it still knows after its next access. -/
theorem tickTurn_knows {place : TickPlace} (knows : place.Knows epoch hz now readings)
    (epochs : readEpochNs memory = epoch) (frequency : readTimebaseHz memory = hz) (timed : Timed epoch hz now)
    (past : ∀ reading ∈ readings, reading.toNat ≤ elapsedTicks epoch hz now) :
    (tickTurn memory now place).1.Knows epoch hz now readings := by
  cases place with
  | loadingEpoch => exact epochs
  | readingClock seen => exact ⟨knows, timed.above, le_rfl, past⟩
  | loadingHz seen sampled =>
    obtain ⟨rfl, from_, before, low⟩ := knows
    rw [tickTurn]
    split
    · trivial
    · rename_i loaded set
      have ordered : elapsedTicks seen hz sampled ≤ elapsedTicks seen hz now := elapsedTicks_mono before
      have value := Timed.ticksSince_toNat ⟨from_, ordered.trans_lt timed.fits⟩
      rw [timebaseHz_ok set, frequency]
      refine ⟨fun reading past => ?_, ?_⟩
      · rw [BitVec.le_def, value]
        exact low reading past
      · rw [value]
        exact ordered
  | loadingPrevious seen ticks => exact knows
  | exchanging seen ticks previous =>
    simp only [tickTurn]
    split
    · trivial
    · trivial
  | rechecking seen ticks =>
    rw [tickTurn]
    split
    · trivial
    · trivial
  | refreshing place => trivial
  | failed => trivial

/-- A read knows what its tick knows; behind the compare-exchange `mtime` is between the
readings and the host time, and behind the load the value is. -/
def ReadPlace.Knows (epoch hz : BitVec 64) (now : Nat) (readings : List (BitVec 64)) (mtime : BitVec 64) :
    ReadPlace → Prop
  | .ticking place => place.Knows epoch hz now readings ∧
      (place.installed = true → Between epoch hz now readings mtime)
  | .loaded value => Between epoch hz now readings value

/-- What holds in every run of timely ticks. -/
structure ClockSound (state : ClockState) : Prop where
  timed : Timed state.epoch state.hz state.now
  timer : state.timer.Knows state.epoch state.hz state.now []
  hart : ∀ place, state.hart = some place →
    place.Knows state.epoch state.hz state.now state.readings state.mtime
  past : ∀ reading ∈ state.readings, reading.toNat ≤ elapsedTicks state.epoch state.hz state.now
  sorted : state.readings.Pairwise (· ≥ ·)

theorem ClockStart.sound {state : ClockState} (start : ClockStart state) : ClockSound state where
  timed := start.timed
  timer := by
    rw [start.timer]
    trivial
  hart place inside := by
    rw [start.hart] at inside
    cases inside
  past := by
    rw [start.readings]
    exact List.forall_mem_nil _
  sorted := by
    rw [start.readings]
    exact .nil

variable {state : ClockState} {place : TickPlace} {hart : Option ReadPlace}

/-- The memory and the places may change, as long as the clock does not. -/
theorem ClockSound.move (sound : ClockSound state) (epoch : readEpochNs after = state.epoch)
    (hz : readTimebaseHz after = state.hz) (timer : place.Knows state.epoch state.hz state.now [])
    (reads : ∀ place, hart = some place →
      place.Knows state.epoch state.hz state.now state.readings (readTimeRegister after .mtime)) :
    ClockSound { state with memory := after, timer := place, hart } := by
  generalize reached : ({ state with memory := after, timer := place, hart } : ClockState) = next
  have epochs : next.epoch = state.epoch := by rw [← reached, ← epoch]; rfl
  have frequency : next.hz = state.hz := by rw [← reached, ← hz]; rfl
  have now : next.now = state.now := by rw [← reached]
  have readings : next.readings = state.readings := by rw [← reached]
  constructor
  case timed =>
    rw [epochs, frequency, now]
    exact sound.timed
  case timer =>
    rw [epochs, frequency, now, ← reached]
    exact timer
  case hart =>
    rw [epochs, frequency, now, readings, ← reached]
    exact reads
  case past =>
    rw [epochs, frequency, now, readings]
    exact sound.past
  case sorted =>
    rw [readings]
    exact sound.sorted

/-- A value a tick is about to install is one it knows. -/
theorem TickPlace.Knows.installs (knows : place.Knows epoch hz now readings)
    (installs : place.installs memory = some ticks) : Between epoch hz now readings ticks := by
  cases place with
  | exchanging seen value previous =>
    simp only [TickPlace.installs] at installs
    split at installs
    · cases installs
      exact knows
    · cases installs
  | _ => cases installs

/-- The hart's read is undisturbed if `mtime` stays where a hart behind its compare-exchange needs it. -/
theorem ReadPlace.Knows.undisturbed {read : ReadPlace} (knows : read.Knows epoch hz now readings mtime)
    (stays : ∀ place, read = .ticking place → place.installed = true → Between epoch hz now readings mtime →
      Between epoch hz now readings moved) : read.Knows epoch hz now readings moved := by
  cases read with
  | ticking place => exact ⟨knows.1, fun installed => stays place rfl installed (knows.2 installed)⟩
  | loaded value => exact knows

theorem ClockSound.timerTurn (sound : ClockSound state) (timely : TimelyTick state) : ClockSound { state with
    timer := (tickTurn state.memory state.now state.timer).1
    memory := (tickTurn state.memory state.now state.timer).2 } := by
  refine sound.move (tickTurn_epoch _) (tickTurn_hz _) ?_ fun read inside => ?_
  · exact tickTurn_knows sound.timer rfl rfl sound.timed (List.forall_mem_nil _)
  · refine (sound.hart read inside).undisturbed fun place ticking installed before => ?_
    subst ticking
    rw [tickTurn_mtime]
    cases installs : state.timer.installs state.memory with
    | none => exact before
    | some ticks => exact ⟨timely place ticks inside installed installs, (sound.timer.installs installs).high⟩

/-- A place behind the compare-exchange was there before, or the value has just been installed. -/
theorem tickTurn_installed (installed : (tickTurn memory now place).1.installed = true) :
    place.installed = true ∨ ∃ ticks, place.installs memory = some ticks := by
  cases place with
  | rechecking | refreshing => exact .inl rfl
  | exchanging epoch ticks previous =>
    refine .inr ⟨ticks, if_pos ?_⟩
    simp only [tickTurn] at installed
    split at installed
    · cases installed
    · rename_i won
      exact not_not.mp won
  | loadingHz epoch sampled =>
    rw [tickTurn] at installed
    split at installed
    · cases installed
    · cases installed
  | loadingEpoch | readingClock | loadingPrevious | failed => cases installed

/-- A read in its tick makes an access of the tick, or is behind it and loads. -/
theorem readTurn_ticking (memory : Memory) (now : Nat) (place : TickPlace) :
    (place.installed = true ∧
      readTurn memory now (.ticking place) = (.loaded (readTimeRegister memory .mtime), memory)) ∨
    readTurn memory now (.ticking place) =
      (.ticking (tickTurn memory now place).1, (tickTurn memory now place).2) := by
  cases place with
  | refreshing place =>
    cases place with
    | refreshed settled => exact .inl ⟨rfl, rfl⟩
    | _ => exact .inr rfl
  | _ => exact .inr rfl

theorem ClockSound.hartTurn {read : ReadPlace} (sound : ClockSound state) (inside : state.hart = some read) :
    ClockSound { state with
      hart := some (readTurn state.memory state.now read).1
      memory := (readTurn state.memory state.now read).2 } := by
  have known := sound.hart read inside
  cases read with
  | loaded value =>
    refine sound.move rfl rfl sound.timer fun place there => ?_
    cases there
    exact known
  | ticking place =>
    rcases readTurn_ticking state.memory state.now place with ⟨installed, turned⟩ | turned
    · rw [turned]
      refine sound.move rfl rfl sound.timer fun place there => ?_
      cases there
      exact known.2 installed
    · rw [turned]
      refine sound.move (tickTurn_epoch _) (tickTurn_hz _) sound.timer fun read there => ?_
      cases there
      refine ⟨tickTurn_knows known.1 rfl rfl sound.timed sound.past, fun installed => ?_⟩
      rw [tickTurn_mtime]
      cases installs : place.installs state.memory with
      | some ticks => exact known.1.installs installs
      | none =>
        rcases tickTurn_installed installed with before | ⟨ticks, won⟩
        · exact known.2 before
        · rw [installs] at won
          cases won

theorem ClockStep.sound (step : ClockStep TimelyTick state next) (sound : ClockSound state) : ClockSound next := by
  cases step with
  | tick idle => exact sound.move rfl rfl trivial sound.hart
  | read idle =>
    refine sound.move rfl rfl sound.timer fun read inside => ?_
    cases inside
    exact ⟨trivial, nofun⟩
  | timer may => exact sound.timerTurn may
  | hart inside => exact sound.hartTurn inside
  | loaded behind =>
    have between := sound.hart _ behind
    refine ⟨sound.timed, sound.timer, nofun, List.forall_mem_cons.mpr ⟨between.high, sound.past⟩, ?_⟩
    exact .cons between.low sound.sorted
  | clock later timed =>
    have bounds (reading : BitVec 64) (past : reading ∈ state.readings) :
        reading.toNat ≤ elapsedTicks state.epoch state.hz _ :=
      (sound.past reading past).trans (elapsedTicks_mono later)
    refine ⟨timed, sound.timer.later later, fun read inside => ?_, bounds, sound.sorted⟩
    have known := sound.hart read inside
    cases read with
    | ticking place => exact ⟨known.1.later later, fun installed => (known.2 installed).later later⟩
    | loaded value => exact Between.later known later
  | elsewhere same =>
    refine sound.move same.epoch same.hz sound.timer fun read inside => ?_
    rw [same.mtime]
    exact sound.hart read inside

/-! Runs of the hart alone, and the run in which a late tick of the timer sets `mtime` back. -/

variable {allowed : ClockState → Prop} {timer next : TickPlace}

theorem hart_run {place last : ReadPlace}
    (run : ReflTransGen (Alone fun memory => readTurn memory now) (place, memory) (last, after)) :
    ReflTransGen (ClockStep allowed) ⟨memory, now, timer, some place, readings⟩
      ⟨after, now, timer, some last, readings⟩ := by
  refine run.lift (fun state => (⟨state.2, now, timer, some state.1, readings⟩ : ClockState)) ?_
  rintro _ _ ⟨place, memory⟩
  exact .hart rfl

theorem timer_run (may : allowed ⟨memory, now, timer, hart, readings⟩)
    (turned : tickTurn memory now timer = (next, after)) :
    ReflTransGen (ClockStep allowed) ⟨memory, now, timer, hart, readings⟩ ⟨after, now, next, hart, readings⟩ := by
  have step : ClockStep allowed ⟨memory, now, timer, hart, readings⟩ ⟨(tickTurn memory now timer).2, now,
      (tickTurn memory now timer).1, hart, readings⟩ := .timer may
  rw [turned] at step
  exact .single step

/-- A whole read of an undisturbed hart. -/
theorem read_run (set : (readTimebaseHz memory).toNat ≠ 0) :
    ReflTransGen (ClockStep allowed) ⟨memory, now, timer, none, readings⟩
      ⟨tickedMemory memory now, now, timer, none, ticksAt memory now :: readings⟩ := by
  have calls : ClockStep allowed ⟨memory, now, timer, none, readings⟩
      ⟨memory, now, timer, some (.ticking .loadingEpoch), readings⟩ := .read rfl
  exact (ReflTransGen.single calls).trans ((hart_run (read_alone set now)).tail (.loaded rfl))

theorem tickedMemory_clock (memory : Memory) (now : Nat) : readEpochNs (tickedMemory memory now) = readEpochNs memory ∧
    readTimebaseHz (tickedMemory memory now) = readTimebaseHz memory := by
  have same := tickedMemory_timebase memory now
  constructor
  · exact (same.word 3 (by decide) (by decide)).trans (load64_store64_other memory (by decide) _)
  · exact (same.word 4 (by decide) (by decide)).trans (load64_store64_other memory (by decide) _)

theorem ticksAt_ticked (memory : Memory) (now moment : Nat) :
    ticksAt (tickedMemory memory now) moment = ticksAt memory moment := by
  obtain ⟨epoch, hz⟩ := tickedMemory_clock memory now
  rw [ticksAt, ticksAt, epoch, hz]

/-- The timer's tick up to the value it computes. -/
theorem samples_run (may : ∀ place, place.installs memory = none → allowed ⟨memory, now, place, none, readings⟩)
    (set : (readTimebaseHz memory).toNat ≠ 0) :
    ReflTransGen (ClockStep allowed) ⟨memory, now, .loadingEpoch, none, readings⟩
      ⟨memory, now, .loadingPrevious (readEpochNs memory) (ticksAt memory now), none, readings⟩ := by
  have loads : ReflTransGen (ClockStep allowed) ⟨memory, now, .loadingEpoch, none, readings⟩
      ⟨memory, now, .readingClock (readEpochNs memory), none, readings⟩ := timer_run (may .loadingEpoch rfl) rfl
  have reads := loads.tail (.timer (may (.readingClock _) rfl))
  exact reads.trans (timer_run (may (.loadingHz _ now) rfl) (tickTurn_computes set _ now))

/-- The hart reads up to its load; the timer, which has computed `ticks`, wins its
compare-exchange, and the hart loads them. -/
theorem lateLoad_run (epoch ticks : BitVec 64) (readings : List (BitVec 64)) (set : (readTimebaseHz memory).toNat ≠ 0)
    (may : ∀ middle hart place, (∀ installed, place.installs middle = some installed → installed = ticks) →
      allowed ⟨middle, now, place, hart, readings⟩) :
    ∃ last, ReflTransGen (ClockStep allowed) ⟨memory, now, .loadingPrevious epoch ticks, none, readings⟩ last ∧
      last.readings = ticks :: readings := by
  have calls : ClockStep allowed ⟨memory, now, .loadingPrevious epoch ticks, none, readings⟩
      ⟨memory, now, .loadingPrevious epoch ticks, some (.ticking .loadingEpoch), readings⟩ := .read rfl
  have installs := (ReflTransGen.single calls).trans (hart_run (ticking_alone (tick_alone set now)))
  generalize memory.store64 (clintHostUint64 memory 0) (ticksAt memory now) = second at installs
  have loaded (hart : Option ReadPlace) : ReflTransGen (ClockStep allowed)
      ⟨second, now, .loadingPrevious epoch ticks, hart, readings⟩
      ⟨second, now, .exchanging epoch ticks (readTimeRegister second .mtime), hart, readings⟩ :=
    timer_run (may second hart (.loadingPrevious epoch ticks) (by rintro _ ⟨⟩)) rfl
  have computes (installed : BitVec 64) (wins : (TickPlace.exchanging epoch ticks
      (readTimeRegister second .mtime)).installs second = some installed) : installed = ticks := by
    rw [TickPlace.installs, if_pos rfl] at wins
    exact (Option.some.inj wins).symm
  have late := (installs.trans (loaded _)).trans (timer_run (may second _ _ computes) (tickTurn_wins _ _))
  generalize replaced : second.store64 (clintHostUint64 second 0) ticks = third at late
  have refreshes := late.trans (hart_run (ticking_alone
    (refreshing_alone (fun memory => tickTurn memory now) .refreshing (fun _ _ => rfl) (refresh_alone third))))
  have time : readTimeRegister (updateTimerWiresFromCompare third) .mtime = ticks := by
    have same : SameTimebase third (updateTimerWiresFromCompare third) := updateTimerWiresFromCompare_same
    refine (same.word 0 (by decide) (by decide)).trans ?_
    rw [← replaced]
    exact Memory.load64_store64 _
  have loads := (refreshes.tail (.hart rfl)).tail (.loaded rfl)
  refine ⟨_, loads, ?_⟩
  rw [time]

/-- The timer samples `past`; the hart reads at `now`, and again up to its load; the timer
wins its compare-exchange, and the hart loads the ticks of `past`. -/
theorem lateTick_run (set : (readTimebaseHz memory).toNat ≠ 0)
    (timed : Timed (readEpochNs memory) (readTimebaseHz memory) now) (ordered : past ≤ now) :
    ∃ last, ReflTransGen (ClockStep fun _ => True) ⟨memory, past, .loadingEpoch, none, []⟩ last ∧
      last.readings = [ticksAt memory past, ticksAt memory now] := by
  have set' : (readTimebaseHz (tickedMemory memory now)).toNat ≠ 0 := by rwa [(tickedMemory_clock memory now).2]
  have samples : ReflTransGen (ClockStep fun _ => True) ⟨memory, past, .loadingEpoch, none, []⟩ _ :=
    samples_run (fun _ _ => trivial) set
  have reads := (samples.tail (.clock ordered timed)).trans (read_run set)
  have loads : ∃ last, ReflTransGen (ClockStep fun _ => True) ⟨tickedMemory memory now, now,
      .loadingPrevious (readEpochNs memory) (ticksAt memory past), none, [ticksAt memory now]⟩ last ∧ _ :=
    lateLoad_run _ _ _ set' fun _ _ _ _ => trivial
  obtain ⟨last, late, readings⟩ := loads
  exact ⟨last, reads.trans late, readings⟩

/-- The default machine at 1 GHz with epoch 0. -/
def nanosecondMemory : Memory := clockedMemory 1000000000 0 0

theorem nanosecondMemory_hz : readTimebaseHz nanosecondMemory = 1000000000 :=
  clockedMemory_hz _ _ _

theorem nanosecondMemory_epoch : readEpochNs nanosecondMemory = 0 := by
  have kept : readEpochNs nanosecondMemory = readEpochNs defaultMemory :=
    load64_store64_other defaultMemory (by decide) _
  rw [kept]
  rfl

theorem nanosecondMemory_ticks (now : Nat) (small : now < 2 ^ 64) :
    ticksAt nanosecondMemory now = BitVec.ofNat 64 now := by
  have timed : Timed 0 1000000000 now := ⟨Nat.zero_le _, by simpa [elapsedTicks, nsPerSecond] using small⟩
  have ticks := timed.ticksSince_toNat
  apply BitVec.eq_of_toNat_eq
  rw [BitVec.toNat_ofNat, Nat.mod_eq_of_lt small, ticksAt, nanosecondMemory_epoch, nanosecondMemory_hz]
  exact ticks.trans (by simp [elapsedTicks, nsPerSecond])

theorem nanosecondMemory_set : (readTimebaseHz nanosecondMemory).toNat ≠ 0 := by
  rw [nanosecondMemory_hz]
  decide

theorem nanosecondMemory_timed (now : Nat) (small : now < 2 ^ 64) :
    Timed (readEpochNs nanosecondMemory) (readTimebaseHz nanosecondMemory) now := by
  rw [nanosecondMemory_epoch, nanosecondMemory_hz]
  exact ⟨Nat.zero_le _, by simpa [elapsedTicks, nsPerSecond] using small⟩

def nanosecondStart : ClockState := ⟨nanosecondMemory, 100, .loadingEpoch, none, []⟩

theorem nanosecondStart_start : ClockStart nanosecondStart :=
  ⟨nanosecondMemory_timed 100 (by decide), rfl, rfl, rfl⟩

/-- Time never runs backwards for the guest, in any interleaving whose ticks are timely. -/
theorem guestTime_monotone (start : ClockStart first) (run : ReflTransGen (ClockStep TimelyTick) first last) :
    last.readings.Pairwise (· ≥ ·) :=
  (invariant_run ClockSound (fun _ _ step => step.sound) run start.sound).sorted

/-- A read at 200 ns gives 200, and the next one 100. -/
theorem guestTime_backwards : ¬ ∀ first last, ClockStart first → ReflTransGen (ClockStep fun _ => True) first last →
    last.readings.Pairwise (· ≥ ·) := by
  intro claimed
  obtain ⟨last, run, readings⟩ := lateTick_run nanosecondMemory_set (nanosecondMemory_timed 200 (by decide))
    (by decide : 100 ≤ 200)
  have sorted := claimed nanosecondStart last nanosecondStart_start run
  rw [readings, nanosecondMemory_ticks 100 (by decide), nanosecondMemory_ticks 200 (by decide)] at sorted
  have low := List.rel_of_pairwise_cons sorted (List.mem_singleton.mpr rfl)
  exact absurd low (by decide)

/-- A read at 100 ns, a tick sampled at 150 ns, and a read at 200 ns whose load finds that tick. -/
theorem guestTime_monotone_timely : ∃ last : ClockState, last.readings = [150, 100] ∧
    last.readings.Pairwise (· ≥ ·) := by
  generalize ticked : tickedMemory nanosecondMemory 100 = memory
  have epoch : readEpochNs memory = readEpochNs nanosecondMemory := by
    rw [← ticked]
    exact (tickedMemory_clock nanosecondMemory 100).1
  have hz : readTimebaseHz memory = readTimebaseHz nanosecondMemory := by
    rw [← ticked]
    exact (tickedMemory_clock nanosecondMemory 100).2
  have set : (readTimebaseHz memory).toNat ≠ 0 := by
    rw [hz]
    exact nanosecondMemory_set
  have timed (now : Nat) (small : now < 2 ^ 64) : Timed (readEpochNs memory) (readTimebaseHz memory) now := by
    rw [epoch, hz]
    exact nanosecondMemory_timed now small
  have ticks : ticksAt memory 150 = 150 := by
    rw [← ticked, ticksAt_ticked, nanosecondMemory_ticks 150 (by decide)]
    rfl
  have first : ReflTransGen (ClockStep TimelyTick) nanosecondStart _ := read_run nanosecondMemory_set
  rw [ticked, nanosecondMemory_ticks 100 (by decide)] at first
  have early (place : TickPlace) (computes : place.installs memory = none) :
      TimelyTick ⟨memory, 150, place, none, [100]⟩ :=
    fun _ _ inside => absurd inside.symm (Option.some_ne_none _)
  have samples := (first.tail (.clock (by decide : 100 ≤ 150) (timed 150 (by decide)))).trans (samples_run early set)
  rw [ticks] at samples
  have passes := samples.tail (.clock (by decide : 150 ≤ 200) (timed 200 (by decide)))
  have timely (middle : Memory) (hart : Option ReadPlace) (place : TickPlace)
      (computes : ∀ installed, place.installs middle = some installed → installed = 150) :
      TimelyTick ⟨middle, 200, place, hart, [100]⟩ := by
    intro _ installed _ _ wins reading read
    rw [computes installed wins, List.mem_singleton.mp read]
    decide
  obtain ⟨last, late, readings⟩ := lateLoad_run (readEpochNs memory) 150 [100] set timely
  exact ⟨last, readings, guestTime_monotone nanosecondStart_start (passes.trans late)⟩

end YaRiscV.Emulator
