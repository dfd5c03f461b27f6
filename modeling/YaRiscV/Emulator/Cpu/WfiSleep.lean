import YaRiscV.Emulator.WireDrivers
import YaRiscV.Emulator.Cpu.SampledWires
import YaRiscV.Emulator.Clint.TimeReads

/-! A hart in `wfi` beside the timer and terminal workers, one access at a time. -/

namespace YaRiscV.Emulator

open YaRiscV.Library YaRiscV.Utils Relation

/-! The three parties, and what wakes the hart. -/

/-- A hart is about its other work, maybe in a call of `setIrqWire`, or in the loop of `wfi`. -/
inductive HartPlace where
  | elsewhere (call : Option WireDrive)
  | waiting (place : WfiPlace)
  deriving DecidableEq, Repr

/-- A notify wakes the hart, which samples again. -/
def HartPlace.notified : HartPlace → HartPlace
  | .waiting (.parked _) => .waiting (.first .readingMachineTimer)
  | place => place

/-- The hart beside a worker's access. -/
def HartPlace.beside (hart : HartPlace) : Option WireDrive → HartPlace
  | some ⟨_, _, .notifying⟩ => hart.notified
  | _ => hart

/-- The call of `setIrqWire` a tick is in. -/
def TickPlace.drive : TickPlace → Option WireDrive
  | .refreshing (.driving _ seen timer phase) => some ⟨timer.wire, seen.pending timer, phase⟩
  | _ => none

/-- The shared memory, the hart's registers, the host clock, and the three parties' places. -/
structure SleepState where
  memory : Memory
  registers : Registers
  now : Nat
  timer : TickPlace
  terminal : Option WireDrive
  hart : HartPlace

/-- The wires of the PLIC's contexts. -/
def IrqWire.External (wire : IrqWire) : Prop :=
  wire = .machineExternal ∨ wire = .supervisorExternal

/-- One access of one party; the hart parks only in an allowed state. -/
inductive SleepStep (allowed : SleepState → Prop) : SleepState → SleepState → Prop
  | timer (state : SleepState) : SleepStep allowed state { state with
      memory := (tickTurn state.memory state.now state.timer).2
      timer := (tickTurn state.memory state.now state.timer).1
      hart := state.hart.beside state.timer.drive }
  | tick (state : SleepState) (ended : state.timer = .refreshing (.refreshed settled)) :
      SleepStep allowed state { state with timer := .loadingEpoch }
  | terminal (state : SleepState) (move : DriveMove state.memory state.terminal memory call)
      (external : ∀ drive, call = some drive → drive.wire.External) :
      SleepStep allowed state { state with memory, terminal := call, hart := state.hart.beside state.terminal }
  | work (state : SleepState) (registers : Registers) (elsewhere : state.hart = .elsewhere call)
      (move : DriveMove state.memory call memory next) :
      SleepStep allowed state { state with memory, registers, hart := .elsewhere next }
  | enter (state : SleepState) (elsewhere : state.hart = .elsewhere none) :
      SleepStep allowed state { state with hart := .waiting (.first .readingMachineTimer) }
  | wait (state : SleepState) (waiting : state.hart = .waiting place)
      (allows : ∀ fromLevel, place = .comparing fromLevel → loadIrqLevel state.memory = fromLevel → allowed state) :
      SleepStep allowed state { state with
        memory := (waitTurn (state.registers, state.memory) place).2.2
        registers := (waitTurn (state.registers, state.memory) place).2.1
        hart := .waiting (waitTurn (state.registers, state.memory) place).1 }
  | leave (state : SleepState) (resumed : state.hart = .waiting .resumed) :
      SleepStep allowed state { state with hart := .elsewhere none }
  | clock (state : SleepState) (now : Nat) : SleepStep allowed state { state with now }

/-- The hart sleeps on a level the word has, and everybody is done with the wires, though a
wire it has enabled is high. -/
structure SleepsThrough (state : SleepState) (fromLevel : BitVec 32) (wire : IrqWire) : Prop where
  parked : state.hart = .waiting (.parked fromLevel)
  level : loadIrqLevel state.memory = fromLevel
  timer : ¬ Drives state.timer.drive
  terminal : ¬ Drives state.terminal
  enabled : WireEnabled state.registers wire
  high : wire.high state.memory = true

/-- Every line that is set of a wire the hart has enabled is being cleared. -/
def LinesOwed (state : SleepState) : Prop :=
  ∀ wire, WireEnabled state.registers wire → wire.line state.memory = true →
    Lowers state.timer.drive wire ∨ Lowers state.terminal wire

/-- Nobody is about the wires yet. -/
structure SleepStart (state : SleepState) : Prop where
  timer : state.timer = .loadingEpoch
  terminal : state.terminal = none
  hart : state.hart = .elsewhere none

variable {registers : Registers} {wire : IrqWire}

/-! What holds of the hart at each place of the loop. -/

/-- What the loop has settled at the hart's place, beside two calls of `setIrqWire`. -/
def HartSound (memory : Memory) (mine other : Option WireDrive) (registers : Registers) : HartPlace → Prop
  | .waiting (.first place) => place.past = true → Published registers
  | .waiting .loadingLevel => Published registers
  | .waiting (.second _ place) => Published registers ∧ place.moves = false ∧
      ∀ wire ∈ place.wiresRead, WireEnabled registers wire → WirePending registers wire ∨ Calm memory mine other wire
  | .waiting (.comparing _) => ∀ wire, WireEnabled registers wire → Calm memory mine other wire
  | .waiting (.parked fromLevel) => (∀ wire, WireEnabled registers wire → Calm memory mine other wire) ∧
      Awaits memory mine other fromLevel (WireEnabled registers)
  | .waiting .resumed | .elsewhere _ => True

variable {memory after : Memory} {mine other next : Option WireDrive} {hart : HartPlace}

theorem HartSound.symm (sound : HartSound memory mine other registers hart) :
    HartSound memory other mine registers hart := by
  cases hart with
  | elsewhere call => trivial
  | waiting place =>
    cases place with
    | first | loadingLevel | resumed => exact sound
    | second fromLevel place =>
      refine ⟨sound.1, sound.2.1, fun wire read enabled => ?_⟩
      exact (sound.2.2 wire read enabled).imp id Calm.symm
    | comparing => exact fun wire enabled => (sound wire enabled).symm
    | parked => exact ⟨fun wire enabled => (sound.1 wire enabled).symm, sound.2.symm⟩

theorem HartPlace.beside_notifies (notifies : Notifies mine) : hart.beside mine = hart.notified := by
  obtain ⟨⟨wire, pending, phase⟩, rfl, phased⟩ := notifies
  cases phased
  rfl

theorem HartPlace.beside_silent (silent : ¬ Notifies mine) : hart.beside mine = hart := by
  rcases mine with _ | ⟨wire, pending, phase⟩
  · rfl
  · cases phase with
    | notifying => exact absurd ⟨_, rfl, rfl⟩ silent
    | _ => rfl

/-- A worker's access keeps what the hart relies on, or wakes it. -/
theorem HartSound.beside (sound : HartSound memory mine other registers hart) (apart : Apart mine other)
    (move : DriveMove memory mine after next) : HartSound after next other registers (hart.beside mine) := by
  have awake (sleepless : hart.beside mine = hart) (unparked : ∀ fromLevel, hart ≠ .waiting (.parked fromLevel)) :
      HartSound after next other registers (hart.beside mine) := by
    rw [sleepless]
    cases hart with
    | elsewhere call => trivial
    | waiting place =>
      cases place with
      | first | loadingLevel | resumed => exact sound
      | second fromLevel place =>
        refine ⟨sound.1, sound.2.1, fun wire read enabled => ?_⟩
        exact (sound.2.2 wire read enabled).imp id fun calm => calm.move apart move
      | comparing => exact fun wire enabled => (sound wire enabled).move apart move
      | parked fromLevel => exact absurd rfl (unparked fromLevel)
  by_cases notifies : Notifies mine
  · cases hart with
    | elsewhere call => exact awake (HartPlace.beside_notifies notifies) (fun _ => by rintro ⟨⟩)
    | waiting place =>
      cases place with
      | parked =>
        rw [HartPlace.beside_notifies notifies]
        exact fun past => absurd past Bool.false_ne_true
      | _ => exact awake (HartPlace.beside_notifies notifies) (fun _ => by rintro ⟨⟩)
  · by_cases parked : ∃ fromLevel, hart = .waiting (.parked fromLevel)
    · obtain ⟨fromLevel, rfl⟩ := parked
      rw [HartPlace.beside_silent notifies]
      exact ⟨fun wire enabled => (sound.1 wire enabled).move apart move, sound.2.move apart move notifies⟩
    · exact awake (HartPlace.beside_silent notifies) fun fromLevel same => parked ⟨fromLevel, same⟩

/-- An access of the second pass: the wire it reads is pending now, or low. -/
theorem HartSound.second {place : SamplePlace}
    (sound : HartSound memory mine other registers (.waiting (.second fromLevel place))) :
    HartSound (sampleTurn (registers, memory) place).2.2 mine other (sampleTurn (registers, memory) place).2.1
      (.waiting (.second fromLevel (sampleTurn (registers, memory) place).1)) := by
  obtain ⟨published, still, seen⟩ := sound
  obtain ⟨stays, same, stands⟩ := sampleTurn_still (registers, memory) published still
  have kept := (sampleTurn_sampledFrom (registers, memory) place).sampleKept
  refine ⟨stands, stays, fun wire read enabled => ?_⟩
  have counts : WireEnabled registers wire := kept.wireEnabled.mp enabled
  rw [same]
  cases reading : place.reads with
  | some own =>
    obtain ⟨view, reads⟩ := sampleTurn_reads (registers, memory) reading
    rw [view]
    by_cases mine : wire = own
    · subst mine
      cases level : wire.high memory with
      | true => exact .inl (wireSampled_pending counts.compared)
      | false => exact .inr (Calm.of_low level)
    · rw [reads] at read
      refine (seen wire (List.mem_of_ne_of_mem mine read) counts).imp ?_ id
      exact (wireSampled_other mine).mpr
  | none =>
    have before : wire ∈ place.wiresRead ∧ (sampleTurn (registers, memory) place).2.1 = registers := by
      revert read
      cases place with
      | publishing =>
        rw [sampleTurn, if_pos ((compareUnsignedBytes_eq_zero _ _).mpr published)]
        exact fun read => ⟨read, rfl⟩
      | sampled => exact fun read => ⟨read, rfl⟩
      | loadingMirror | storingMirror | refreshing => cases still
      | _ => cases reading
    rw [before.2]
    exact seen wire before.1 counts

theorem mem_wiresRead_sampled (wire : IrqWire) : wire ∈ SamplePlace.sampled.wiresRead := by
  cases wire <;> decide

/-- The hart's own access: it parks with every line it has enabled clear or about to be. -/
theorem HartSound.wait {place : WfiPlace} (sound : HartSound memory mine other registers (.waiting place))
    (owed : ∀ fromLevel, place = .comparing fromLevel → loadIrqLevel memory = fromLevel →
      ∀ wire, WireEnabled registers wire → wire.line memory = true → Lowers mine wire ∨ Lowers other wire) :
    HartSound (waitTurn (registers, memory) place).2.2 mine other (waitTurn (registers, memory) place).2.1
      (.waiting (waitTurn (registers, memory) place).1) := by
  cases place with
  | first place =>
    have turned : (sampleTurn (registers, memory) place).1.past = true → _ :=
      sampleTurn_published (registers, memory) sound
    cases place with
    | sampled =>
      rw [waitTurn]
      split
      · trivial
      · exact sound rfl
    | _ => exact turned
  | loadingLevel => exact ⟨sound, rfl, fun wire read => absurd read List.not_mem_nil⟩
  | second fromLevel place =>
    have turned := sound.second
    cases place with
    | sampled =>
      rw [waitTurn]
      split
      · trivial
      · rename_i idle
        intro wire enabled
        exact (sound.2.2 wire (mem_wiresRead_sampled wire) enabled).resolve_left (not_wirePending idle enabled)
    | _ => exact turned
  | comparing fromLevel =>
    rw [waitTurn]
    split
    · rename_i level
      exact ⟨sound, .inr (.inr ⟨level, owed fromLevel rfl level⟩)⟩
    · exact fun past => absurd past Bool.false_ne_true
  | parked | resumed => exact sound

/-! The timer is one of two workers that drive different wires. -/

/-- A store to the time base is none of the wires. -/
theorem SameWires.clock (memory : Memory) (element : Nat) (moving : element = 0 ∨ element = 1 ∨ element = 3)
    (value : BitVec 64) : SameWires memory (memory.store64 (clintHostUint64 memory element) value) :=
  .of_timebase ((store64_clock memory element moving value).mono fun _ inside => inside.timebase)

theorem tickTurn_move (memory : Memory) (now : Nat) (place : TickPlace) :
    DriveMove memory place.drive (tickTurn memory now place).2 (tickTurn memory now place).1.drive := by
  have idle (next : TickPlace) (undriven : next.drive = none) : Fresh next.drive := by
    rw [undriven]
    rintro _ ⟨⟩
  cases place with
  | refreshing place =>
    cases place with
    | driving attempt seen timer phase =>
      refine .turn ⟨timer.wire, seen.pending timer, phase⟩ ⟨fun inside => ?_, fun ended => ?_⟩
      · simp only [tickTurn, refreshTurn]
        rw [drive_inside inside]
        rfl
      · simp only [tickTurn, refreshTurn]
        rw [WireDrive.turn] at ended
        rw [ended]
        cases timer with
        | machine =>
          rintro _ ⟨⟩
          rfl
        | supervisor => exact idle _ rfl
    | loadingStimecmp attempt mtime mtimecmp =>
      refine .quiet (.refl memory) ?_
      rintro _ ⟨⟩
      rfl
    | checkingMtime | checkingMtimecmp | checkingStimecmp =>
      refine .quiet (.refl memory) (idle _ ?_)
      simp only [tickTurn, refreshTurn, RefreshPlace.retry]
      split
      · rfl
      · split
        · rfl
        · rfl
    | loadingMtime | loadingMtimecmp | refreshed => exact .quiet (.refl memory) (idle _ rfl)
  | loadingHz epoch sampled =>
    rw [tickTurn]
    split
    · exact .quiet (.refl memory) (idle _ rfl)
    · exact .quiet (.refl memory) (idle _ rfl)
  | exchanging epoch ticks previous =>
    simp only [tickTurn, compareExchangeTimeRegister, Memory.compareExchange64]
    have undriven (found : BitVec 64) :
        Fresh (if found ≠ previous then TickPlace.loadingEpoch else .rechecking epoch ticks).drive := by
      split
      · exact idle _ rfl
      · exact idle _ rfl
    split
    · exact .quiet (.clock memory 0 (.inl rfl) ticks) (undriven _)
    · exact .quiet (.refl memory) (undriven _)
  | rechecking epoch ticks =>
    refine .quiet (.refl memory) (idle _ ?_)
    rw [tickTurn]
    split
    · rfl
    · rfl
  | loadingEpoch | readingClock | loadingPrevious | failed => exact .quiet (.refl memory) (idle _ rfl)

theorem TickPlace.drive_internal {place : TickPlace} {drive : WireDrive} (there : place.drive = some drive) :
    ¬ drive.wire.External := by
  cases place with
  | refreshing place =>
    cases place with
    | driving attempt seen timer phase =>
      cases there
      rintro (external | external)
      · cases timer with
        | machine | supervisor => cases external
      · cases timer with
        | machine | supervisor => cases external
    | _ => cases there
  | _ => cases there

/-- The invariant of the three parties. -/
structure SleepSound (state : SleepState) : Prop where
  external : ∀ drive, state.terminal = some drive → drive.wire.External
  hart : HartSound state.memory state.timer.drive state.terminal state.registers state.hart

variable {state before : SleepState} {reached : SleepState}

theorem SleepSound.apart (sound : SleepSound state) : Apart state.timer.drive state.terminal := by
  intro drive another mine others same
  exact TickPlace.drive_internal mine (same ▸ sound.external another others)

theorem SleepSound.start (start : SleepStart state) : SleepSound state := by
  constructor
  · intro drive there
    rw [start.terminal] at there
    cases there
  · rw [start.hart]
    trivial

theorem SleepSound.step (sound : SleepSound before) (step : SleepStep LinesOwed before reached) :
    SleepSound reached := by
  cases step with
  | timer => exact ⟨sound.external, sound.hart.beside sound.apart (tickTurn_move _ _ _)⟩
  | tick _ ended =>
    refine ⟨sound.external, ?_⟩
    have quiet : before.timer.drive = none := by
      rw [ended]
      rfl
    have hart := sound.hart
    rw [quiet] at hart
    exact hart
  | terminal _ move external =>
    have apart : Apart before.terminal before.timer.drive :=
      fun drive another mine others same => sound.apart another drive others mine same.symm
    exact ⟨external, (sound.hart.symm.beside apart move).symm⟩
  | work => exact ⟨sound.external, trivial⟩
  | enter => exact ⟨sound.external, fun past => absurd past Bool.false_ne_true⟩
  | wait _ waiting allows =>
    have hart := sound.hart
    rw [waiting] at hart
    exact ⟨sound.external, hart.wait fun fromLevel compares level => allows fromLevel compares level⟩
  | leave => exact ⟨sound.external, trivial⟩
  | clock => exact ⟨sound.external, sound.hart⟩

theorem SleepSound.run (sound : SleepSound before) (run : ReflTransGen (SleepStep LinesOwed) before reached) :
    SleepSound reached := by
  induction run with
  | refl => exact sound
  | tail _ step already => exact already.step step

/-- Nobody sleeps through a wire that is high, once what was owed has been paid. -/
theorem SleepSound.wakes {fromLevel : BitVec 32} (sound : SleepSound state) :
    ¬ SleepsThrough state fromLevel wire := by
  rintro ⟨parked, level, timer, terminal, enabled, high⟩
  have hart := sound.hart
  rw [parked] at hart
  obtain ⟨calm, awaits⟩ := hart
  have line : wire.line state.memory = true := by
    rcases (calm wire enabled).rise high with line | stored | stored
    · exact line
    · exact absurd stored.drives timer
    · exact absurd stored.drives terminal
  rcases awaits with notifies | notifies | ⟨_, lines⟩
  · exact timer notifies.drives
  · exact terminal notifies.drives
  · rcases lines wire enabled line with lowers | lowers
    · exact timer lowers.drives
    · exact terminal lowers.drives

/-- In a run in which the hart parks only while each line it has enabled is clear or being
cleared, it sleeps through no wire. -/
theorem wfi_wakes (start : SleepStart before) (run : ReflTransGen (SleepStep LinesOwed) before reached)
    (fromLevel : BitVec 32) (wire : IrqWire) : ¬ SleepsThrough reached fromLevel wire :=
  ((SleepSound.start start).run run).wakes

/-! Accesses of one party in a row, and the run in which the hart parks on a line that has been
cleared and set again. -/

variable {allowed : SleepState → Prop} {view : HartView}

theorem HartPlace.beside_unparked (unparked : hart.notified = hart) (call : Option WireDrive) :
    hart.beside call = hart := by
  by_cases notifies : Notifies call
  · rw [beside_notifies notifies, unparked]
  · exact beside_silent notifies

theorem timerTurns_sleep (unparked : state.hart.notified = state.hart)
    (run : ReflTransGen (Alone fun memory => tickTurn memory state.now) (state.timer, state.memory) (timer, memory)) :
    ReflTransGen (SleepStep allowed) state { state with memory, timer } := by
  refine run.lift (fun reached => { state with memory := reached.2, timer := reached.1 }) ?_
  rintro _ _ ⟨place, memory⟩
  have step : SleepStep allowed { state with memory, timer := place } _ := .timer _
  rwa [HartPlace.beside_unparked unparked] at step

theorem refreshTurns_sleep (unparked : state.hart.notified = state.hart) (refreshes : state.timer = .refreshing place)
    (run : ReflTransGen (Alone refreshTurn) (place, state.memory) (last, memory)) :
    ReflTransGen (SleepStep allowed) state { state with memory, timer := .refreshing last } := by
  refine timerTurns_sleep unparked ?_
  rw [refreshes]
  exact refreshing_alone (fun memory => tickTurn memory state.now) .refreshing (fun _ _ => rfl) run

/-- A whole call of the hart's own. -/
theorem driveTurns_sleep (calls : state.hart = .elsewhere (some ⟨wire, pending, .storing⟩)) (fresh : Fresh next) :
    ReflTransGen (SleepStep allowed) state { state with
      memory := setIrqWire state.memory (wire.index state.memory.layout) pending wire.levelBit
      hart := .elsewhere next } := by
  obtain ⟨shared, registers, now, timer, terminal, hart⟩ := state
  cases calls
  let reach (reached : DrivePhase × Memory) : SleepState := ⟨reached.2, registers, now, timer, terminal,
    .elsewhere (if reached.1 = .driven then next else some ⟨wire, pending, reached.1⟩)⟩
  have turn (reached : DrivePhase × Memory) : ReflTransGen (SleepStep allowed) (reach reached)
      (reach (driveTurn wire pending reached.2 reached.1)) := by
    obtain ⟨phase, memory⟩ := reached
    by_cases ended : phase = .driven
    · subst ended
      exact .refl
    · refine .single (.work (reach (phase, memory)) registers (congrArg HartPlace.elsewhere (if_neg ended))
        (.turn ⟨wire, pending, phase⟩ ⟨fun inside => if_neg inside, fun ends => ?_⟩))
      rw [WireDrive.turn] at ends
      rw [if_pos ends]
      exact fresh
  have turns : ReflTransGen (SleepStep allowed) (reach (.storing, shared)) (reach (driveTurns wire pending shared)) :=
    (((turn _).trans (turn _)).trans (turn _)).trans (turn _)
  rw [driveTurns_eq] at turns
  exact turns

/-- A pass of the hart within the loop. -/
theorem sampleTurns_sleep (wrap : SamplePlace → WfiPlace)
    (turns : ∀ view place, place ≠ .sampled →
      waitTurn view (wrap place) = (wrap (sampleTurn view place).1, (sampleTurn view place).2))
    (compares : ∀ place fromLevel, wrap place ≠ .comparing fromLevel) (waiting : state.hart = .waiting (wrap first))
    (run : ReflTransGen (Alone sampleTurn) (first, state.registers, state.memory) (last, registers, memory)) :
    ReflTransGen (SleepStep allowed) state { state with memory, registers, hart := .waiting (wrap last) } := by
  have lifted : ReflTransGen (SleepStep allowed) { state with hart := .waiting (wrap first) }
      { state with memory, registers, hart := .waiting (wrap last) } := by
    refine run.lift' (fun reached : SamplePlace × HartView =>
      { state with memory := reached.2.2, registers := reached.2.1, hart := .waiting (wrap reached.1) }) ?_
    rintro _ _ ⟨place, registers, memory⟩
    by_cases ended : place = .sampled
    · subst ended
      exact .refl
    · have step : SleepStep allowed { state with memory, registers, hart := .waiting (wrap place) } _ :=
        .wait _ rfl fun fromLevel comparing => absurd comparing (compares place fromLevel)
      rw [turns _ place ended] at step
      exact .single step
  rwa [← waiting] at lifted

/-- A hart that learns nothing goes to sleep, up to the compare. -/
theorem waitTurns_sleep (elsewhere : state.hart = .elsewhere none)
    (quiet : sampleDevicePending state.registers state.memory = (state.registers, state.memory))
    (idle : ¬ isPendingEnabledInterrupt state.registers = true) :
    ReflTransGen (SleepStep allowed) state
      { state with hart := .waiting (.comparing (loadIrqLevel state.memory)) } := by
  obtain ⟨memory, registers, now, timer, terminal, hart⟩ := state
  cases elsewhere
  dsimp only at quiet idle ⊢
  have samples := sample_alone registers memory
  rw [quiet] at samples
  let reach (place : WfiPlace) : SleepState := ⟨memory, registers, now, timer, terminal, .waiting place⟩
  have enters : SleepStep allowed ⟨memory, registers, now, timer, terminal, .elsewhere none⟩
      (reach (.first .readingMachineTimer)) := .enter _ rfl
  have step {place next : WfiPlace} (turned : waitTurn (registers, memory) place = (next, registers, memory))
      (compares : ∀ fromLevel, place ≠ .comparing fromLevel) : SleepStep allowed (reach place) (reach next) := by
    have step : SleepStep allowed (reach place) _ :=
      .wait _ rfl fun fromLevel comparing => absurd comparing (compares fromLevel)
    rwa [turned] at step
  have first : ReflTransGen (SleepStep allowed) (reach (.first .readingMachineTimer)) (reach (.first .sampled)) :=
    sampleTurns_sleep .first (fun _ place more => by cases place <;> first | rfl | exact absurd rfl more)
      (fun _ _ => by rintro ⟨⟩) rfl samples
  have checks : SleepStep allowed (reach (.first .sampled)) (reach .loadingLevel) :=
    step (by rw [waitTurn, if_neg idle]) (fun _ => by rintro ⟨⟩)
  have loads : SleepStep allowed (reach .loadingLevel) (reach (.second (loadIrqLevel memory) .readingMachineTimer)) :=
    step rfl (fun _ => by rintro ⟨⟩)
  have second : ReflTransGen (SleepStep allowed) (reach (.second (loadIrqLevel memory) .readingMachineTimer))
      (reach (.second (loadIrqLevel memory) .sampled)) :=
    sampleTurns_sleep (.second _) (fun _ place more => by cases place <;> first | rfl | exact absurd rfl more)
      (fun _ _ => by rintro ⟨⟩) rfl samples
  have rechecks : SleepStep allowed (reach (.second (loadIrqLevel memory) .sampled))
      (reach (.comparing (loadIrqLevel memory))) := step (by rw [waitTurn, if_neg idle]) (fun _ => by rintro ⟨⟩)
  exact ((((ReflTransGen.single enters).trans first).tail checks).tail loads |>.trans second).tail rechecks

theorem parkTurn_sleep {fromLevel : BitVec 32} (comparing : state.hart = .waiting (.comparing fromLevel))
    (level : loadIrqLevel state.memory = fromLevel) (allows : allowed state) :
    SleepStep allowed state { state with hart := .waiting (.parked fromLevel) } := by
  have step := SleepStep.wait state comparing fun _ _ _ => allows
  have turned : waitTurn (state.registers, state.memory) (.comparing fromLevel) =
      (.parked fromLevel, state.registers, state.memory) := by
    rw [waitTurn, if_pos level]
  rwa [turned] at step

/-- Wires that are low tell a hart without a pending bit nothing. -/
theorem sampleDevicePending_low (clear : registers.controlAndStatus Csr.mip = 0)
    (seip : registers.plicSupervisorExternalPending = false) (published : Published registers)
    (low : ∀ wire : IrqWire, wire.high memory = false) :
    sampleDevicePending registers memory = (registers, memory) := by
  have kept (byteIndex : Nat) (mask : BitVec 8) (none : setBits 0 byteIndex mask false = 0) :
      setMipBits registers byteIndex mask false = registers := by
    rw [setMipBits, clear, none, Registers.setSlot, ← clear, Function.update_eq_self]
  have publishes : publishSupervisorTimerCompare registers memory = (registers, memory) :=
    if_pos ((compareUnsignedBytes_eq_zero _ _).mpr published)
  have supervisor : setSupervisorTimerInterruptPending registers false = registers := by
    rw [setSupervisorTimerInterruptPending]
    split
    · rfl
    · exact kept _ _ (by decide)
  have external : setSupervisorExternalInterruptPending registers false = registers := by
    rw [setSupervisorExternalInterruptPending, ← seip]
  have mtip : isClintMachineTimerPending memory = false := low .machineTimer
  have msip : isClintMachineSoftwarePending memory = false := low .machineSoftware
  have stip : isClintSupervisorTimerPending memory = false := low .supervisorTimer
  have meip : isPlicMachineExternalPending memory = false := low .machineExternal
  have seipLow : isPlicSupervisorExternalPending memory = false := low .supervisorExternal
  have machineTimer : setMachineTimerInterruptPending registers false = registers := kept _ _ (by decide)
  have machineSoftware : setMachineSoftwareInterruptPending registers false = registers := kept _ _ (by decide)
  have machineExternal : setMachineExternalInterruptPending registers false = registers := kept _ _ (by decide)
  simp only [sampleDevicePending, mtip, msip, machineTimer, machineSoftware, publishes, stip, supervisor, meip,
    machineExternal, seipLow, external]

/-- What a run with nobody but the machine timer's wire raised knows of the memory. -/
structure TimerMemory (memory : Memory) (mtime mtimecmp : BitVec 64) (raised : Bool) (level : BitVec 32) : Prop where
  inputs : timerInputs memory = ⟨mtime, mtimecmp, stimecmpDisabledBytes⟩
  hz : readTimebaseHz memory = 1000000000
  epoch : readEpochNs memory = 0
  wires : ∀ wire : IrqWire, wire.high memory = if wire = .machineTimer then raised else false
  level : loadIrqLevel memory = level

namespace TimerMemory

variable {mtime mtimecmp : BitVec 64} {raised : Bool} {level : BitVec 32}

theorem timebase (known : TimerMemory memory mtime mtimecmp raised level) (same : SameTimebase memory after)
    (wires : ∀ wire : IrqWire, wire.high after = if wire = .machineTimer then raised' else false)
    (published : loadIrqLevel after = level') : TimerMemory after mtime mtimecmp raised' level' where
  inputs := (TimerInputs.ext (same.word 0 (by decide) (by decide)) (same.word 1 (by decide) (by decide))
    (same.word 5 (by decide) (by decide))).trans known.inputs
  hz := (same.word 4 (by decide) (by decide)).trans known.hz
  epoch := (same.word 3 (by decide) (by decide)).trans known.epoch
  wires := wires
  level := published

theorem machine (known : TimerMemory memory mtime mtimecmp raised level) (pending : Bool) :
    TimerMemory (setIrqWire memory (IrqWire.machineTimer.index memory.layout) pending IrqWire.machineTimer.levelBit)
      mtime mtimecmp pending (drivenLevel .machineTimer pending level) := by
  refine known.timebase (timebase_setIrqWire memory .machineTimer pending) (fun wire => ?_) ?_
  · rw [high_setIrqWire, known.wires]
    split
    · rfl
    · rfl
  · rw [level_setIrqWire, known.level]

theorem supervisor (known : TimerMemory memory mtime mtimecmp raised level) :
    TimerMemory
      (setIrqWire memory (IrqWire.supervisorTimer.index memory.layout) false IrqWire.supervisorTimer.levelBit)
      mtime mtimecmp raised (drivenLevel .supervisorTimer false level) := by
  refine known.timebase (timebase_setIrqWire memory .supervisorTimer false) (fun wire => ?_) ?_
  · rw [high_setIrqWire, known.wires]
    cases wire <;> rfl
  · rw [level_setIrqWire, known.level]

/-- The byte of the machine timer's wire is low, its line not yet cleared. -/
theorem lowered (known : TimerMemory memory mtime mtimecmp raised level) :
    TimerMemory (memory.store (IrqWire.machineTimer.index memory.layout) 0) mtime mtimecmp false level := by
  have stored : SameTimebase memory (driveTurn .machineTimer false memory .storing).2 := driveTurn_timebase
  refine known.timebase stored (fun wire => ?_) ((level_storeWire memory .machineTimer _).trans known.level)
  refine (high_storeWire memory .machineTimer wire false).trans ?_
  rw [known.wires]
  split
  · rfl
  · rfl

/-- The line follows. -/
theorem published (known : TimerMemory memory mtime mtimecmp raised level) (wire : IrqWire) (pending : Bool) :
    TimerMemory (memory.store32 memory.layout.irqLevel (drivenLevel wire pending (loadIrqLevel memory)))
      mtime mtimecmp raised (drivenLevel wire pending level) := by
  have wins : (driveTurn wire pending memory (.exchanging (loadIrqLevel memory))).2 = _ :=
    congrArg Prod.snd (driveTurn_wins pending)
  have same : SameTimebase memory (driveTurn wire pending memory (.exchanging (loadIrqLevel memory))).2 :=
    driveTurn_timebase
  rw [wins] at same
  refine known.timebase same (fun seen => (high_storeLevel memory seen _).trans (known.wires seen)) ?_
  rw [level_storeLevel, known.level]

theorem clocked (known : TimerMemory memory mtime mtimecmp raised level) (value : BitVec 64) :
    TimerMemory (memory.store64 (clintHostUint64 memory 0) value) value mtimecmp raised level where
  inputs := by
    have inputs := known.inputs
    simp only [timerInputs, TimerInputs.mk.injEq] at inputs
    exact TimerInputs.ext (Memory.load64_store64 value)
      ((load64_store64_other memory (by decide) value).trans inputs.2.1)
      ((load64_store64_other memory (by decide) value).trans inputs.2.2)
  hz := (load64_store64_other memory (by decide) value).trans known.hz
  epoch := (load64_store64_other memory (by decide) value).trans known.epoch
  wires wire := ((SameWires.clock memory 0 (.inl rfl) value).high wire).trans (known.wires wire)
  level := (SameWires.clock memory 0 (.inl rfl) value).level.trans known.level

theorem compared (known : TimerMemory memory mtime mtimecmp raised level) (value : BitVec 64) :
    TimerMemory (memory.store64 (clintHostUint64 memory 1) value) mtime value raised level where
  inputs := by
    have inputs := known.inputs
    simp only [timerInputs, TimerInputs.mk.injEq] at inputs
    exact TimerInputs.ext ((load64_store64_other memory (by decide) value).trans inputs.1)
      (Memory.load64_store64 value) ((load64_store64_other memory (by decide) value).trans inputs.2.2)
  hz := (load64_store64_other memory (by decide) value).trans known.hz
  epoch := (load64_store64_other memory (by decide) value).trans known.epoch
  wires wire := ((SameWires.clock memory 1 (.inr (.inl rfl)) value).high wire).trans (known.wires wire)
  level := (SameWires.clock memory 1 (.inr (.inl rfl)) value).level.trans known.level

theorem ticks (known : TimerMemory memory mtime mtimecmp raised level) (now : Nat) (small : now < 2 ^ 64) :
    ticksAt memory now = BitVec.ofNat 64 now := by
  rw [← nanosecondMemory_ticks now small, ticksAt, ticksAt, known.epoch, known.hz, nanosecondMemory_epoch,
    nanosecondMemory_hz]

end TimerMemory

/-- Both drives of an attempt whose snapshot has the supervisor's timer low. -/
theorem driving_known {mtime mtimecmp : BitVec 64} {raised : Bool} {level : BitVec 32}
    (known : TimerMemory memory mtime mtimecmp raised level) (attempt : Nat) (seen : TimerInputs)
    (low : seen.pending .supervisor = false) : ∃ after,
    ReflTransGen (Alone refreshTurn) (.driving attempt seen .machine .storing, memory)
        (.checkingMtime attempt seen, after) ∧
      TimerMemory after mtime mtimecmp (seen.pending .machine)
        (drivenLevel .supervisorTimer false (drivenLevel .machineTimer (seen.pending .machine) level)) := by
  have machine := driving_calm memory attempt seen .machine
  have supervisor := driving_calm (setIrqWire memory (IrqWire.machineTimer.index memory.layout) (seen.pending .machine)
    IrqWire.machineTimer.levelBit) attempt seen .supervisor
  rw [low] at supervisor
  exact ⟨_, CalmRefresh.alone (machine.trans supervisor), (known.machine (seen.pending .machine)).supervisor⟩

/-- A hart that waits for the machine timer alone. -/
def timerHart : Registers := writeControlAndStatusRegister createRegisters Csr.mie 0x80

/-- The memory at boot, with `mtimecmp` at 50. -/
def timerBoot : Memory :=
  writeStimecmpMirror (nanosecondMemory.store64 (clintHostUint64 nanosecondMemory 1) 50) stimecmpDisabledBytes

theorem timerBoot_known : TimerMemory timerBoot 0 50 false 0 where
  inputs := by
    refine TimerInputs.ext ?_ ?_ (Memory.load64_store64 _)
    · exact (load64_store64_other _ (by decide) _).trans ((load64_store64_other _ (by decide) _).trans rfl)
    · exact (load64_store64_other _ (by decide) _).trans (Memory.load64_store64 _)
  hz := ((load64_store64_other _ (by decide) _).trans (load64_store64_other _ (by decide) _)).trans
    nanosecondMemory_hz
  epoch := ((load64_store64_other _ (by decide) _).trans (load64_store64_other _ (by decide) _)).trans
    nanosecondMemory_epoch
  wires wire := by
    cases wire <;> rfl
  level := rfl

theorem timerHart_idle : ¬ isPendingEnabledInterrupt timerHart = true := by decide

theorem timerHart_quiet (low : ∀ wire : IrqWire, wire.high memory = false) :
    sampleDevicePending timerHart memory = (timerHart, memory) :=
  sampleDevicePending_low rfl rfl rfl low

/-- Three parties with a hart that waits for the machine timer. -/
def timerState (memory : Memory) (now : Nat) (timer : TickPlace) (hart : HartPlace) : SleepState :=
  ⟨memory, timerHart, now, timer, none, hart⟩

/-- The hart moves `mtimecmp` while a tick holds a snapshot of it. -/
theorem stale_run : ∃ memory, TimerMemory memory 100 200 true 0x80 ∧
    ReflTransGen (SleepStep allowed) (timerState timerBoot 100 .loadingEpoch (.elsewhere none))
      (timerState memory 100 (.refreshing (.loadingMtime 1)) (.elsewhere none)) := by
  have set : (readTimebaseHz timerBoot).toNat ≠ 0 := by
    rw [timerBoot_known.hz]
    decide
  have clocked := timerBoot_known.clocked 100
  have ticked : ReflTransGen (SleepStep allowed) (timerState timerBoot 100 .loadingEpoch (.elsewhere none))
      (timerState _ 100 (.refreshing (.loadingMtime 0)) (.elsewhere none)) :=
    timerTurns_sleep rfl (tick_alone set 100)
  rw [timerBoot_known.ticks 100 (by decide)] at ticked
  change ReflTransGen _ _ (timerState (timerBoot.store64 (clintHostUint64 timerBoot 0) 100) _ _ _) at ticked
  generalize timerBoot.store64 (clintHostUint64 timerBoot 0) 100 = first at ticked clocked
  have loads : ReflTransGen (SleepStep allowed)
      (timerState first 100 (.refreshing (.loadingMtime 0)) (.elsewhere none))
      (timerState first 100 (.refreshing (.driving 0 (timerInputs first) .machine .storing)) (.elsewhere none)) :=
    refreshTurns_sleep rfl rfl (CalmRefresh.alone (loading_calm first 0))
  rw [clocked.inputs] at loads
  generalize sees : TimerInputs.mk 100 50 stimecmpDisabledBytes = seen at loads
  -- The hart moves the compare and drives both wires low, as its store does.
  have moved := clocked.compared 200
  have stores : SleepStep allowed
      (timerState first 100 (.refreshing (.driving 0 seen .machine .storing)) (.elsewhere none))
      (timerState (first.store64 (clintHostUint64 first 1) 200) 100 (.refreshing (.driving 0 seen .machine .storing))
        (.elsewhere (some ⟨.machineTimer, false, .storing⟩))) :=
    .work _ timerHart rfl (.quiet (.clock first 1 (.inr (.inl rfl)) 200) (by rintro _ ⟨⟩; rfl))
  generalize first.store64 (clintHostUint64 first 1) 200 = second at moved stores
  have lowers : ReflTransGen (SleepStep allowed)
      (timerState second 100 (.refreshing (.driving 0 seen .machine .storing))
        (.elsewhere (some ⟨.machineTimer, false, .storing⟩)))
      (timerState
        (setIrqWire second (IrqWire.machineTimer.index second.layout) false IrqWire.machineTimer.levelBit) 100
        (.refreshing (.driving 0 seen .machine .storing)) (.elsewhere (some ⟨.supervisorTimer, false, .storing⟩))) :=
    driveTurns_sleep rfl (by rintro _ ⟨⟩; rfl)
  have lowered := moved.machine false
  generalize setIrqWire second _ _ _ = third at lowers lowered
  have alsoLowers : ReflTransGen (SleepStep allowed)
      (timerState third 100 (.refreshing (.driving 0 seen .machine .storing))
        (.elsewhere (some ⟨.supervisorTimer, false, .storing⟩)))
      (timerState
        (setIrqWire third (IrqWire.supervisorTimer.index third.layout) false IrqWire.supervisorTimer.levelBit) 100
        (.refreshing (.driving 0 seen .machine .storing)) (.elsewhere none)) :=
    driveTurns_sleep rfl (by rintro _ ⟨⟩)
  have both := lowered.supervisor
  generalize setIrqWire third _ _ _ = fourth at alsoLowers both
  -- The timer raises its wire from the snapshot, and finds the compare moved.
  obtain ⟨after, drives, raised⟩ := driving_known both 0 seen (by rw [← sees]; decide)
  have driven : ReflTransGen (SleepStep allowed)
      (timerState fourth 100 (.refreshing (.driving 0 seen .machine .storing)) (.elsewhere none))
      (timerState after 100 (.refreshing (.checkingMtime 0 seen)) (.elsewhere none)) :=
    refreshTurns_sleep rfl rfl drives
  have inputs := raised.inputs
  simp only [timerInputs, TimerInputs.mk.injEq] at inputs
  have checks : ReflTransGen (Alone refreshTurn) (.checkingMtime 0 seen, after) (.loadingMtime 1, after) := by
    have mtime : refreshTurn after (.checkingMtime 0 seen) = (.checkingMtimecmp 0 seen, after) := by
      rw [refreshTurn, if_pos (inputs.1.trans (by rw [← sees]))]
    have mtimecmp : refreshTurn after (.checkingMtimecmp 0 seen) = (.loadingMtime 1, after) := by
      rw [refreshTurn, if_neg]
      · rfl
      · rw [inputs.2.1, ← sees]
        decide
    exact (Alone.run mtime).trans (Alone.run mtimecmp)
  have retries : ReflTransGen (SleepStep allowed)
      (timerState after 100 (.refreshing (.checkingMtime 0 seen)) (.elsewhere none))
      (timerState after 100 (.refreshing (.loadingMtime 1)) (.elsewhere none)) := refreshTurns_sleep rfl rfl checks
  have hart := (((ticked.trans loads).tail stores).trans lowers).trans alsoLowers
  refine ⟨after, ?_, (hart.trans driven).trans retries⟩
  rw [← sees] at raised
  have line : drivenLevel .supervisorTimer false (drivenLevel .machineTimer true
      (drivenLevel .supervisorTimer false (drivenLevel .machineTimer false 0))) = 0x80 := by decide
  rw [← line]
  exact raised

/-- The retry lowers the byte, and lets the hart go through `wfi` before it clears the line. -/
theorem lowering_run {level : BitVec 32} (known : TimerMemory memory 100 200 true level) : ∃ last,
    TimerMemory last 100 200 false (drivenLevel .supervisorTimer false (drivenLevel .machineTimer false level)) ∧
      ReflTransGen (SleepStep allowed) (timerState memory 100 (.refreshing (.loadingMtime 1)) (.elsewhere none))
        (timerState last 100 (.refreshing (.refreshed true)) (.waiting (.comparing level))) := by
  have loads : ReflTransGen (SleepStep allowed)
      (timerState memory 100 (.refreshing (.loadingMtime 1)) (.elsewhere none))
      (timerState memory 100 (.refreshing (.driving 1 (timerInputs memory) .machine .storing)) (.elsewhere none)) :=
    refreshTurns_sleep rfl rfl (CalmRefresh.alone (loading_calm memory 1))
  rw [known.inputs] at loads
  generalize sees : TimerInputs.mk 100 200 stimecmpDisabledBytes = seen at loads
  have low (timer : TimerWire) : seen.pending timer = false := by
    rw [← sees]
    cases timer <;> decide
  have lowered := known.lowered
  have stores : ReflTransGen (SleepStep allowed)
      (timerState memory 100 (.refreshing (.driving 1 seen .machine .storing)) (.elsewhere none))
      (timerState (memory.store (IrqWire.machineTimer.index memory.layout) 0) 100
        (.refreshing (.driving 1 seen .machine .loading)) (.elsewhere none)) := by
    refine refreshTurns_sleep rfl rfl (Alone.run ?_)
    simp only [refreshTurn, driveTurn, low]
    rfl
  generalize memory.store (IrqWire.machineTimer.index memory.layout) 0 = paused at lowered stores
  have quiet := timerHart_quiet fun wire => (lowered.wires wire).trans (ite_self false)
  have sleeps : ReflTransGen (SleepStep allowed)
      (timerState paused 100 (.refreshing (.driving 1 seen .machine .loading)) (.elsewhere none))
      (timerState paused 100 (.refreshing (.driving 1 seen .machine .loading))
        (.waiting (.comparing (loadIrqLevel paused)))) := waitTurns_sleep rfl quiet timerHart_idle
  rw [lowered.level] at sleeps
  have clears := driving_stored paused 1 seen .machine
  have cleared := lowered.published .machineTimer false
  rw [low] at clears
  change ReflTransGen CalmRefresh _ (.driving 1 seen .supervisor .storing,
    paused.store32 paused.layout.irqLevel (drivenLevel .machineTimer false (loadIrqLevel paused))) at clears
  generalize paused.store32 paused.layout.irqLevel (drivenLevel .machineTimer false (loadIrqLevel paused)) = middle
    at clears cleared
  have drives := driving_calm middle 1 seen .supervisor
  have settled := cleared.supervisor
  rw [low] at drives
  change ReflTransGen CalmRefresh _ (.checkingMtime 1 seen,
    setIrqWire middle (IrqWire.supervisorTimer.index middle.layout) false IrqWire.supervisorTimer.levelBit) at drives
  generalize setIrqWire middle _ _ _ = last at drives settled
  have checks := checking_calm last 1
  rw [settled.inputs, sees] at checks
  exact ⟨last, settled, ((loads.trans stores).trans sleeps).trans
    (refreshTurns_sleep rfl rfl (CalmRefresh.alone ((clears.trans drives).trans checks)))⟩

/-- The next tick raises the wire again; the hart finds the level it has loaded, and parks. -/
theorem raising_run {level : BitVec 32} (known : TimerMemory memory 100 200 false lowered)
    (same : drivenLevel .supervisorTimer false (drivenLevel .machineTimer true lowered) = level) : ∃ last,
    TimerMemory last 300 200 true level ∧
      ReflTransGen (SleepStep fun _ => True)
        (timerState memory 100 (.refreshing (.refreshed true)) (.waiting (.comparing level)))
        (timerState last 300 (.refreshing (.refreshed true)) (.waiting (.parked level))) := by
  have set : (readTimebaseHz memory).toNat ≠ 0 := by
    rw [known.hz]
    decide
  have later : SleepStep (fun _ => True)
      (timerState memory 100 (.refreshing (.refreshed true)) (.waiting (.comparing level)))
      (timerState memory 300 (.refreshing (.refreshed true)) (.waiting (.comparing level))) := .clock _ 300
  have restarts : SleepStep (fun _ => True)
      (timerState memory 300 (.refreshing (.refreshed true)) (.waiting (.comparing level)))
      (timerState memory 300 .loadingEpoch (.waiting (.comparing level))) := .tick _ rfl
  have clocked := known.clocked 300
  have ticked : ReflTransGen (SleepStep fun _ => True)
      (timerState memory 300 .loadingEpoch (.waiting (.comparing level)))
      (timerState _ 300 (.refreshing (.loadingMtime 0)) (.waiting (.comparing level))) :=
    timerTurns_sleep rfl (tick_alone set 300)
  rw [known.ticks 300 (by decide)] at ticked
  change ReflTransGen _ _ (timerState (memory.store64 (clintHostUint64 memory 0) 300) _ _ _) at ticked
  generalize memory.store64 (clintHostUint64 memory 0) 300 = first at ticked clocked
  have loads := CalmRefresh.alone (loading_calm first 0)
  rw [clocked.inputs] at loads
  generalize sees : TimerInputs.mk 300 200 stimecmpDisabledBytes = seen at loads
  obtain ⟨last, drives, raised⟩ := driving_known clocked 0 seen (by rw [← sees]; decide)
  have checks := CalmRefresh.alone (checking_calm last 0)
  rw [raised.inputs, sees] at checks
  have pending : seen.pending .machine = true := by
    rw [← sees]
    decide
  rw [pending, same] at raised
  have refreshes : ReflTransGen (SleepStep fun _ => True)
      (timerState first 300 (.refreshing (.loadingMtime 0)) (.waiting (.comparing level)))
      (timerState last 300 (.refreshing (.refreshed true)) (.waiting (.comparing level))) :=
    refreshTurns_sleep rfl rfl ((loads.trans drives).trans checks)
  have parks : SleepStep (fun _ => True)
      (timerState last 300 (.refreshing (.refreshed true)) (.waiting (.comparing level)))
      (timerState last 300 (.refreshing (.refreshed true)) (.waiting (.parked level))) :=
    parkTurn_sleep rfl raised.level trivial
  exact ⟨last, raised, ((((ReflTransGen.single later).tail restarts).trans ticked).trans refreshes).tail parks⟩

/-- A tick that raised its wire from a stale snapshot lowers the byte, the hart loads the level
with the line still set, and by the time it compares the next tick has set the line again. -/
theorem wfi_sleepsThrough : ¬ ∀ (before reached : SleepState) (fromLevel : BitVec 32) (wire : IrqWire),
    SleepStart before → ReflTransGen (SleepStep fun _ => True) before reached →
      ¬ SleepsThrough reached fromLevel wire := by
  intro claimed
  obtain ⟨stale, known, began⟩ := stale_run
  obtain ⟨lowered, low, slept⟩ := lowering_run known
  have same : drivenLevel .supervisorTimer false (drivenLevel .machineTimer true
      (drivenLevel .supervisorTimer false (drivenLevel .machineTimer false 0x80))) = 0x80 := by decide
  obtain ⟨last, high, parked⟩ := raising_run low same
  have enabled : WireEnabled timerHart .machineTimer := ⟨by decide, by rintro ⟨⟩⟩
  refine claimed _ _ _ .machineTimer ⟨rfl, rfl, rfl⟩ ((began.trans slept).trans parked)
    ⟨rfl, high.level, ?_, ?_, enabled, high.wires .machineTimer⟩
  · rintro ⟨_, ⟨⟩, _⟩
  · rintro ⟨_, ⟨⟩, _⟩

/-- A hart that parks with every line clear. -/
theorem wfi_wakes_idle : ∃ reached : SleepState, reached.hart = .waiting (.parked 0) ∧
    ∀ wire, ¬ SleepsThrough reached 0 wire := by
  have quiet := timerHart_quiet fun wire => (timerBoot_known.wires wire).trans (ite_self false)
  have sleeps : ReflTransGen (SleepStep LinesOwed) (timerState timerBoot 100 .loadingEpoch (.elsewhere none))
      (timerState timerBoot 100 .loadingEpoch (.waiting (.comparing (loadIrqLevel timerBoot)))) :=
    waitTurns_sleep rfl quiet timerHart_idle
  rw [timerBoot_known.level] at sleeps
  have clear : LinesOwed (timerState timerBoot 100 .loadingEpoch (.waiting (.comparing 0))) := by
    intro wire _ line
    have low : wire.line timerBoot = false := by
      rw [IrqWire.line, timerBoot_known.level]
      exact BitVec.getLsbD_zero
    exact absurd (low.symm.trans line) Bool.false_ne_true
  have parks : SleepStep LinesOwed (timerState timerBoot 100 .loadingEpoch (.waiting (.comparing 0)))
      (timerState timerBoot 100 .loadingEpoch (.waiting (.parked 0))) := parkTurn_sleep rfl timerBoot_known.level clear
  exact ⟨_, rfl, fun wire => wfi_wakes ⟨rfl, rfl, rfl⟩ (sleeps.tail parks) 0 wire⟩

end YaRiscV.Emulator
