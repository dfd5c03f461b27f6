import YaRiscV.Library.Workers
import YaRiscV.Emulator.WireTurns
import YaRiscV.Emulator.Clint.TickHistory

/-! The functions of `clint/time.ts` access by access: every load, store, compare-exchange,
notify and reading of the host clock is a step of its own. -/

namespace YaRiscV.Emulator

open YaRiscV.Library YaRiscV.Utils Relation

/-- The two wires `updateTimerWiresFromCompare` drives. -/
inductive TimerWire where
  | machine
  | supervisor
  deriving DecidableEq, Repr

def TimerWire.wire : TimerWire → IrqWire
  | .machine => .machineTimer
  | .supervisor => .supervisorTimer

/-- A snapshot of the registers the timer wires are derived from. -/
@[ext] structure TimerInputs where
  mtime : BitVec 64
  mtimecmp : BitVec 64
  stimecmp : BitVec 64
  deriving DecidableEq, Repr

def TimerInputs.pending (inputs : TimerInputs) : TimerWire → Bool
  | .machine => decide (inputs.mtime ≥ inputs.mtimecmp)
  | .supervisor => decide (inputs.mtime ≥ inputs.stimecmp)

def timerInputs (memory : Memory) : TimerInputs where
  mtime := readTimeRegister memory .mtime
  mtimecmp := readTimeRegister memory .mtimecmp
  stimecmp := readStimecmpMirror memory

/-- The access a worker makes next in `updateTimerWiresFromCompare`. -/
inductive RefreshPlace where
  | loadingMtime (attempt : Nat)
  | loadingMtimecmp (attempt : Nat) (mtime : BitVec 64)
  | loadingStimecmp (attempt : Nat) (mtime mtimecmp : BitVec 64)
  | driving (attempt : Nat) (seen : TimerInputs) (timer : TimerWire) (phase : DrivePhase)
  | checkingMtime (attempt : Nat) (seen : TimerInputs)
  | checkingMtimecmp (attempt : Nat) (seen : TimerInputs)
  | checkingStimecmp (attempt : Nat) (seen : TimerInputs)
  | refreshed (settled : Bool)
  deriving DecidableEq, Repr

/-- The next attempt, if the bound leaves one. -/
def RefreshPlace.retry (attempt : Nat) : RefreshPlace :=
  if attempt + 1 < timerWireUpdateAttempts then .loadingMtime (attempt + 1) else .refreshed false

/-- Where a drive leads in the loop. -/
def RefreshPlace.drive (attempt : Nat) (seen : TimerInputs) : TimerWire → DrivePhase → RefreshPlace
  | .machine, .driven => .driving attempt seen .supervisor .storing
  | .supervisor, .driven => .checkingMtime attempt seen
  | timer, phase => .driving attempt seen timer phase

variable (memory : Memory) (now : Nat)

/-- One access of `updateTimerWiresFromCompare`. -/
def refreshTurn : RefreshPlace → RefreshPlace × Memory
  | .loadingMtime attempt => (.loadingMtimecmp attempt (readTimeRegister memory .mtime), memory)
  | .loadingMtimecmp attempt mtime => (.loadingStimecmp attempt mtime (readTimeRegister memory .mtimecmp), memory)
  | .loadingStimecmp attempt mtime mtimecmp =>
    (.driving attempt ⟨mtime, mtimecmp, readStimecmpMirror memory⟩ .machine .storing, memory)
  | .driving attempt seen timer phase =>
    let (phase, memory) := driveTurn timer.wire (seen.pending timer) memory phase
    (.drive attempt seen timer phase, memory)
  | .checkingMtime attempt seen =>
    (if readTimeRegister memory .mtime = seen.mtime then .checkingMtimecmp attempt seen else .retry attempt, memory)
  | .checkingMtimecmp attempt seen =>
    (if readTimeRegister memory .mtimecmp = seen.mtimecmp then .checkingStimecmp attempt seen else .retry attempt,
      memory)
  | .checkingStimecmp attempt seen =>
    (if readStimecmpMirror memory = seen.stimecmp then .refreshed true else .retry attempt, memory)
  | .refreshed settled => (.refreshed settled, memory)

/-- The access a worker makes next in `tickClint`. -/
inductive TickPlace where
  | loadingEpoch
  | readingClock (epoch : BitVec 64)
  | loadingHz (epoch : BitVec 64) (now : Nat)
  | loadingPrevious (epoch ticks : BitVec 64)
  | exchanging (epoch ticks previous : BitVec 64)
  | rechecking (epoch ticks : BitVec 64)
  | refreshing (place : RefreshPlace)
  | failed
  deriving DecidableEq, Repr

/-- The ticks of a host time since an epoch. -/
def ticksSince (epoch : BitVec 64) (hz now : Nat) : BitVec 64 :=
  BitVec.ofInt 64 ((((now : Int) - epoch.toNat) * hz).tdiv nsPerSecond)

/-- One access of `tickClint`, at host time `now`. -/
def tickTurn : TickPlace → TickPlace × Memory
  | .loadingEpoch => (.readingClock (readEpochNs memory), memory)
  | .readingClock epoch => (.loadingHz epoch now, memory)
  | .loadingHz epoch now =>
    match timebaseHz memory with
    | .error _ => (.failed, memory)
    | .ok hz => (.loadingPrevious epoch (ticksSince epoch hz now), memory)
  | .loadingPrevious epoch ticks => (.exchanging epoch ticks (readTimeRegister memory .mtime), memory)
  | .exchanging epoch ticks previous =>
    let (found, memory) := compareExchangeTimeRegister memory .mtime previous ticks
    (if found ≠ previous then .loadingEpoch else .rechecking epoch ticks, memory)
  | .rechecking epoch _ =>
    (if readEpochNs memory ≠ epoch then .loadingEpoch else .refreshing (.loadingMtime 0), memory)
  | .refreshing place =>
    let (place, memory) := refreshTurn memory place
    (.refreshing place, memory)
  | .failed => (.failed, memory)

/-- The arguments of `storeClintTimeBytes`. -/
structure TimeStore where
  register : ClintTimeRegister
  byteOffset : Nat
  source : Bytes8
  byteLength : Nat
  deriving DecidableEq

/-- The access a worker makes next in `storeClintTimeBytes`. -/
inductive StorePlace where
  | loadingPrevious
  | exchanging (previous : BitVec 64)
  | readingClock (mtime : BitVec 64)
  | loadingHz (mtime : BitVec 64) (now : Nat)
  | storingEpoch (mtime : BitVec 64) (epochNs : Int)
  | refreshing (place : RefreshPlace)
  | failed
  deriving DecidableEq, Repr

def TimeStore.next (store : TimeStore) (previous : BitVec 64) : BitVec 64 :=
  mergeTimeBytes previous store.byteOffset store.source store.byteLength

/-- One access of `storeClintTimeBytes`, at host time `now`. -/
def storeTurn (store : TimeStore) : StorePlace → StorePlace × Memory
  | .loadingPrevious => (.exchanging (readTimeRegister memory store.register), memory)
  | .exchanging previous =>
    let next := store.next previous
    let (found, memory) := compareExchangeTimeRegister memory store.register previous next
    (if found ≠ previous then .loadingPrevious
      else if store.register = .mtime then .readingClock next
      else .refreshing (.loadingMtime 0), memory)
  | .readingClock mtime => (.loadingHz mtime now, memory)
  | .loadingHz mtime now =>
    match timebaseHz memory with
    | .error _ => (.failed, memory)
    | .ok hz => (.storingEpoch mtime ((now : Int) - ((mtime.toNat : Int) * nsPerSecond).tdiv hz), memory)
  | .storingEpoch _ epochNs => (.refreshing (.loadingMtime 0), writeEpochNs memory epochNs)
  | .refreshing place =>
    let (place, memory) := refreshTurn memory place
    (.refreshing place, memory)
  | .failed => (.failed, memory)

variable {memory now} {place : RefreshPlace} {after : Memory}

/-! A call that is not interfered with is the function. -/

/-- The last attempt finds an input moved. -/
def RefreshPlace.Exhausted (memory : Memory) : RefreshPlace → Prop
  | .checkingMtime attempt seen =>
    attempt + 1 ≥ timerWireUpdateAttempts ∧ readTimeRegister memory .mtime ≠ seen.mtime
  | .checkingMtimecmp attempt seen =>
    attempt + 1 ≥ timerWireUpdateAttempts ∧ readTimeRegister memory .mtimecmp ≠ seen.mtimecmp
  | .checkingStimecmp attempt seen =>
    attempt + 1 ≥ timerWireUpdateAttempts ∧ readStimecmpMirror memory ≠ seen.stimecmp
  | _ => False

/-- One worker on its own that has an attempt left. -/
def CalmRefresh (before after : RefreshPlace × Memory) : Prop :=
  Alone refreshTurn before after ∧ ¬ before.1.Exhausted before.2

theorem CalmRefresh.alone (run : ReflTransGen CalmRefresh (place, memory) (last, after)) :
    ReflTransGen (Alone refreshTurn) (place, memory) (last, after) :=
  ReflTransGen.mono (fun _ _ step => step.1) _ _ run

private theorem refresh_turn {next : RefreshPlace} (turned : refreshTurn memory place = (next, after))
    (more : ¬ place.Exhausted memory) : ReflTransGen CalmRefresh (place, memory) (next, after) :=
  .single ⟨turned ▸ .turn place memory, more⟩

theorem drive_inside (inside : phase ≠ .driven) (attempt : Nat) (seen : TimerInputs) (timer : TimerWire) :
    RefreshPlace.drive attempt seen timer phase = .driving attempt seen timer phase := by
  cases timer <;> cases phase <;> first | rfl | exact absurd rfl inside

/-- The rest of a drive whose byte is stored, up to the place behind it. -/
theorem driving_stored (stored : Memory) (attempt : Nat) (seen : TimerInputs) (timer : TimerWire) :
    ReflTransGen CalmRefresh (.driving attempt seen timer .loading, stored)
      (.drive attempt seen timer .driven, stored.store32 stored.layout.irqLevel
        (drivenLevel timer.wire (seen.pending timer) (loadIrqLevel stored))) := by
  generalize raises : drivenLevel timer.wire (seen.pending timer) (loadIrqLevel stored) = next
  have loads : refreshTurn stored (.driving attempt seen timer .loading) =
      (.driving attempt seen timer (.exchanging (loadIrqLevel stored)), stored) := by
    simp only [refreshTurn, driveTurn]
    rw [drive_inside (by rintro ⟨⟩)]
  have exchanges : refreshTurn stored (.driving attempt seen timer (.exchanging (loadIrqLevel stored))) =
      (.drive attempt seen timer (if next ≠ loadIrqLevel stored then .notifying else .driven),
        stored.store32 stored.layout.irqLevel next) := by
    simp only [refreshTurn, driveTurn, Memory.compareExchange32, raises]
    rw [loadIrqLevel, if_pos rfl, if_pos rfl]
  have exchanged := (refresh_turn loads id).trans (refresh_turn exchanges id)
  split at exchanged
  · rw [drive_inside (by rintro ⟨⟩)] at exchanged
    exact exchanged.trans (refresh_turn rfl id)
  · exact exchanged

/-- One drive of the loop, up to the place behind it. -/
theorem driving_calm (memory : Memory) (attempt : Nat) (seen : TimerInputs) (timer : TimerWire) :
    ReflTransGen CalmRefresh (.driving attempt seen timer .storing, memory)
      (.drive attempt seen timer .driven,
        setIrqWire memory (timer.wire.index memory.layout) (seen.pending timer) timer.wire.levelBit) := by
  have stores : refreshTurn memory (.driving attempt seen timer .storing) = (.driving attempt seen timer .loading,
      memory.store (timer.wire.index memory.layout) (if seen.pending timer then 1 else 0)) := by
    have inside : DrivePhase.loading ≠ .driven := by rintro ⟨⟩
    simp only [refreshTurn, driveTurn, drive_inside inside]
  rw [setIrqWire_eq]
  exact (refresh_turn stores id).trans (driving_stored _ attempt seen timer)

/-- The snapshot of an attempt. -/
theorem loading_calm (memory : Memory) (attempt : Nat) : ReflTransGen CalmRefresh (.loadingMtime attempt, memory)
    (.driving attempt (timerInputs memory) .machine .storing, memory) :=
  ((refresh_turn rfl id).trans (refresh_turn rfl id)).trans (refresh_turn rfl id)

/-- An attempt whose snapshot stands is the last one. -/
theorem checking_calm (memory : Memory) (attempt : Nat) : ReflTransGen CalmRefresh
    (.checkingMtime attempt (timerInputs memory), memory) (.refreshed true, memory) := by
  have first : refreshTurn memory (.checkingMtime attempt (timerInputs memory)) =
      (.checkingMtimecmp attempt (timerInputs memory), memory) := by
    rw [refreshTurn, if_pos]
    rfl
  have second : refreshTurn memory (.checkingMtimecmp attempt (timerInputs memory)) =
      (.checkingStimecmp attempt (timerInputs memory), memory) := by
    rw [refreshTurn, if_pos]
    rfl
  have third : refreshTurn memory (.checkingStimecmp attempt (timerInputs memory)) = (.refreshed true, memory) := by
    rw [refreshTurn, if_pos]
    rfl
  exact ((refresh_turn first fun moved => moved.2 rfl).trans (refresh_turn second fun moved => moved.2 rfl)).trans
    (refresh_turn third fun moved => moved.2 rfl)

theorem timerInputs_updated (memory : Memory) :
    timerInputs (updateTimerWiresFromCompare memory) = timerInputs memory := by
  have same : SameTimebase memory (updateTimerWiresFromCompare memory) := updateTimerWiresFromCompare_same
  exact TimerInputs.ext (same.word 0 (by decide) (by decide)) (same.word 1 (by decide) (by decide))
    (same.word 5 (by decide) (by decide))

/-- Nothing moves while one worker is alone, so the first attempt settles the wires. -/
theorem refresh_calm (memory : Memory) : ReflTransGen CalmRefresh (.loadingMtime 0, memory)
    (.refreshed true, updateTimerWiresFromCompare memory) := by
  have drives := (driving_calm memory 0 (timerInputs memory) .machine).trans
    (driving_calm _ 0 (timerInputs memory) .supervisor)
  have settled : updateTimerWiresFromCompare memory = setIrqWire
      (setIrqWire memory (TimerWire.machine.wire.index memory.layout) ((timerInputs memory).pending .machine)
        irqLevelMtip)
      (TimerWire.supervisor.wire.index memory.layout) ((timerInputs memory).pending .supervisor) irqLevelStip := by
    rw [updateTimerWiresFromCompare_wires]
    rfl
  rw [setIrqWire_layout] at drives
  change ReflTransGen _ _ (_, setIrqWire (setIrqWire memory _ _ irqLevelMtip) _ _ irqLevelStip) at drives
  rw [← settled, ← timerInputs_updated memory] at drives
  have loads := loading_calm memory 0
  rw [← timerInputs_updated memory] at loads
  exact (loads.trans drives).trans (checking_calm _ 0)

theorem refresh_alone (memory : Memory) : ReflTransGen (Alone refreshTurn) (.loadingMtime 0, memory)
    (.refreshed true, updateTimerWiresFromCompare memory) :=
  CalmRefresh.alone (refresh_calm memory)

theorem updateTimerWiresFromCompare_otherWorker (memory : Memory) (worker : Worker) :
    updateTimerWiresFromCompare { memory with worker } = { updateTimerWiresFromCompare memory with worker } := by
  rw [updateTimerWiresFromCompare_wires, updateTimerWiresFromCompare_wires]
  simp only [setIrqWire_eq]
  rfl

/-- A place of the refresh within a place of its caller. -/
theorem refreshing_alone (turn : Memory → Caller → Caller × Memory) (wrap : RefreshPlace → Caller)
    (turns : ∀ memory place,
      turn memory (wrap place) = (wrap (refreshTurn memory place).1, (refreshTurn memory place).2))
    (run : ReflTransGen (Alone refreshTurn) (place, memory) (last, after)) :
    ReflTransGen (Alone turn) (wrap place, memory) (wrap last, after) := by
  refine run.lift (fun state => (wrap state.1, state.2)) ?_
  rintro _ _ ⟨place, memory⟩
  have step : Alone turn (wrap place, memory) (turn memory (wrap place)) := .turn _ _
  rwa [turns] at step

theorem tickTurn_computes (set : (readTimebaseHz memory).toNat ≠ 0) (epoch : BitVec 64) (sampled : Nat) :
    tickTurn memory now (.loadingHz epoch sampled) =
      (.loadingPrevious epoch (ticksSince epoch (readTimebaseHz memory).toNat sampled), memory) := by
  rw [tickTurn, timebaseHz_set set]

theorem tickTurn_wins (epoch ticks : BitVec 64) :
    tickTurn memory now (.exchanging epoch ticks (readTimeRegister memory .mtime)) =
      (.rechecking epoch ticks, memory.store64 (clintHostUint64 memory 0) ticks) := by
  rw [tickTurn, compareExchangeTimeRegister_self]
  simp only [ne_eq, not_true_eq_false, if_false]
  rfl

theorem tickTurn_stands (stands : readEpochNs memory = epoch) (ticks : BitVec 64) :
    tickTurn memory now (.rechecking epoch ticks) = (.refreshing (.loadingMtime 0), memory) := by
  rw [tickTurn, if_neg (not_not.mpr stands)]

/-- A tick at host time `now`, up to the refresh of the wires. -/
theorem tick_alone (set : (readTimebaseHz memory).toNat ≠ 0) (now : Nat) :
    ReflTransGen (Alone fun memory => tickTurn memory now) (.loadingEpoch, memory)
      (.refreshing (.loadingMtime 0), memory.store64 (clintHostUint64 memory 0) (ticksAt memory now)) := by
  have turned {place next : TickPlace} {before after : Memory} (turn : tickTurn before now place = (next, after)) :
      ReflTransGen (Alone fun memory => tickTurn memory now) (place, before) (next, after) :=
    Alone.run turn
  have sampled : tickTurn memory now .loadingEpoch = (.readingClock (readEpochNs memory), memory) := rfl
  have epoch : readEpochNs (memory.store64 (clintHostUint64 memory 0) (ticksAt memory now)) = readEpochNs memory :=
    load64_store64_other memory (by decide) _
  have front := ((turned sampled).trans (turned rfl)).trans (turned (tickTurn_computes set _ now))
  exact ((front.trans (turned rfl)).trans (turned (tickTurn_wins _ _))).trans (turned (tickTurn_stands epoch _))

/-- What a tick at host time `now` leaves. -/
def tickedMemory (memory : Memory) (now : Nat) : Memory :=
  updateTimerWiresFromCompare (memory.store64 (clintHostUint64 memory 0) (ticksAt memory now))

theorem tickedMemory_timebase (memory : Memory) (now : Nat) :
    SameTimebase (memory.store64 (clintHostUint64 memory 0) (ticksAt memory now)) (tickedMemory memory now) :=
  updateTimerWiresFromCompare_same

theorem tickedMemory_mtime (memory : Memory) (now : Nat) :
    readTimeRegister (tickedMemory memory now) .mtime = ticksAt memory now :=
  ((tickedMemory_timebase memory now).word 0 (by decide) (by decide)).trans (Memory.load64_store64 _)

theorem tickedMemory_worker (memory : Memory) (now : Nat) :
    tickedMemory { memory with worker } now = { tickedMemory memory now with worker } := by
  rw [tickedMemory, tickedMemory, ← updateTimerWiresFromCompare_otherWorker]
  rfl

theorem tickClint_ticked (set : (readTimebaseHz memory).toNat ≠ 0) :
    tickClint memory = .ok (tickedMemory memory.readHostClock.2 memory.readHostClock.1) :=
  tickClint_eq set

theorem tickClint_alone (set : (readTimebaseHz memory).toNat ≠ 0) : ∃ after, tickClint memory = .ok after ∧
    ReflTransGen (Alone fun memory' => tickTurn memory' memory.readHostClock.1) (.loadingEpoch, memory)
      (.refreshing (.refreshed true), { after with worker := memory.worker }) := by
  refine ⟨_, tickClint_ticked set, ?_⟩
  generalize memory.readHostClock.1 = now
  have wires := refreshing_alone (fun memory => tickTurn memory now) .refreshing (fun _ _ => rfl)
    (refresh_alone (memory.store64 (clintHostUint64 memory 0) (ticksAt memory now)))
  have moved : tickedMemory memory now = { tickedMemory memory.readHostClock.2 now with worker := memory.worker } := by
    rw [← tickedMemory_worker]
    rfl
  rw [← moved]
  exact (tick_alone set now).trans wires

theorem storeTurn_wins (store : TimeStore) :
    storeTurn memory now store (.exchanging (readTimeRegister memory store.register)) =
      (if store.register = .mtime then .readingClock (store.next (readTimeRegister memory store.register))
        else .refreshing (.loadingMtime 0),
        memory.store64 (clintHostUint64 memory (timeRegisterUint64Index store.register))
          (store.next (readTimeRegister memory store.register))) := by
  rw [storeTurn, compareExchangeTimeRegister_self]
  simp only [ne_eq, not_true_eq_false, if_false]

theorem storeTurn_computes (set : (readTimebaseHz memory).toNat ≠ 0) (store : TimeStore) (mtime : BitVec 64)
    (sampled : Nat) : storeTurn memory now store (.loadingHz mtime sampled) =
      (.storingEpoch mtime ((sampled : Int) - ((mtime.toNat : Int) * nsPerSecond).tdiv (readTimebaseHz memory).toNat),
        memory) := by
  rw [storeTurn, timebaseHz_set set]

theorem storeClintTimeBytes_alone (set : (readTimebaseHz memory).toNat ≠ 0) (store : TimeStore) : ∃ after,
    storeClintTimeBytes memory store.register store.byteOffset store.source store.byteLength = .ok after ∧
      ReflTransGen (Alone fun memory' => storeTurn memory' memory.readHostClock.1 store) (.loadingPrevious, memory)
        (.refreshing (.refreshed true), { after with worker := memory.worker }) := by
  have clocked : memory.readHostClock.1 = memory.worker.hrtime 0 := rfl
  generalize memory.readHostClock.1 = now at clocked
  generalize makes : store.next (readTimeRegister memory store.register) = next
  generalize written : memory.store64 (clintHostUint64 memory (timeRegisterUint64Index store.register)) next = stored
  have turned {place other : StorePlace} {before after : Memory}
      (turn : storeTurn before now store place = (other, after)) :
      ReflTransGen (Alone fun memory' => storeTurn memory' now store) (place, before) (other, after) :=
    Alone.run turn
  have wires (middle : Memory) := refreshing_alone (fun memory' => storeTurn memory' now store) .refreshing
    (fun _ _ => rfl) (refresh_alone middle)
  have exchanged : storeTurn memory now store (.exchanging (readTimeRegister memory store.register)) =
      (if store.register = .mtime then .readingClock next else .refreshing (.loadingMtime 0), stored) := by
    rw [storeTurn_wins, makes, written]
  have loaded : storeTurn memory now store .loadingPrevious =
      (.exchanging (readTimeRegister memory store.register), memory) := rfl
  have front := (turned loaded).trans (turned exchanged)
  have stores : storeClintTimeBytes memory store.register store.byteOffset store.source store.byteLength =
      (if store.register = .mtime then reseatEpochForMtime stored next.toNat else .ok stored).map
        updateTimerWiresFromCompare := by
    rw [← written, ← makes, TimeStore.next]
    simp only [storeClintTimeBytes, storeClintTimeBytesLoop, compareExchangeTimeRegister_self, ne_eq, not_true_eq_false,
      if_false]
  rw [stores]
  have worker : stored.worker = memory.worker := by
    rw [← written]
    rfl
  by_cases time : store.register = .mtime
  · have frequency : readTimebaseHz stored = readTimebaseHz memory := by
      rw [← written, time]
      exact load64_store64_other memory (by decide) next
    have hz : timebaseHz stored = .ok (readTimebaseHz memory).toNat := by
      rw [timebaseHz_set (by rwa [frequency]), frequency]
    generalize seats : (now : Int) - ((next.toNat : Int) * nsPerSecond).tdiv (readTimebaseHz memory).toNat = epochNs
    have reseated : reseatEpochForMtime stored next.toNat =
        .ok (writeEpochNs stored.readHostClock.2 epochNs) := by
      have loaded : timebaseHz stored.readHostClock.2 = .ok (readTimebaseHz memory).toNat := hz
      simp only [reseatEpochForMtime, loaded]
      rw [← seats, clocked, ← worker]
      rfl
    have seated : storeTurn stored now store (.loadingHz next now) = (.storingEpoch next epochNs, stored) := by
      rw [storeTurn_computes (by rwa [frequency]), frequency, ← seats]
    rw [if_pos time] at front
    rw [if_pos time, reseated]
    refine ⟨_, rfl, ?_⟩
    have last := (((front.trans (turned rfl)).trans (turned seated)).trans (turned rfl)).trans
      (wires (writeEpochNs stored epochNs))
    have moved : updateTimerWiresFromCompare (writeEpochNs stored epochNs) = { updateTimerWiresFromCompare
        (writeEpochNs stored.readHostClock.2 epochNs) with worker := memory.worker } := by
      rw [← updateTimerWiresFromCompare_otherWorker, ← worker]
      rfl
    rw [moved] at last
    exact last
  · rw [if_neg time] at front
    rw [if_neg time]
    refine ⟨_, rfl, ?_⟩
    have last := front.trans (wires stored)
    have moved : updateTimerWiresFromCompare stored =
        { updateTimerWiresFromCompare stored with worker := memory.worker } := by
      rw [← updateTimerWiresFromCompare_otherWorker, ← worker]
    rw [moved] at last
    exact last

/-! What the accesses do to the words of the time base. -/

theorem timebaseHz_ok (set : timebaseHz memory = .ok hz) : hz = (readTimebaseHz memory).toNat := by
  rw [timebaseHz] at set
  split at set
  · cases set
  · exact (Except.ok.inj set).symm

theorem refreshTurn_timebase : SameTimebase memory (refreshTurn memory place).2 := by
  cases place with
  | driving attempt seen timer phase => exact driveTurn_timebase
  | _ => exact ChangesOnly.refl

/-- Only the compare-exchange of a tick moves a word, and only `mtime`. -/
theorem tickTurn_word (place : TickPlace) (element : Nat) (real : element < 6) (notWires : element ≠ 2)
    (notMtime : element ≠ 0) :
    (tickTurn memory now place).2.load64 (clintHostUint64 (tickTurn memory now place).2 element) =
      memory.load64 (clintHostUint64 memory element) := by
  cases place with
  | exchanging epoch ticks previous =>
    simp only [tickTurn, compareExchangeTimeRegister, Memory.compareExchange64]
    split
    · exact load64_store64_other memory notMtime.symm ticks
    · rfl
  | refreshing place => exact refreshTurn_timebase.word element real notWires
  | loadingHz epoch reading =>
    rw [tickTurn]
    split
    · rfl
    · rfl
  | loadingEpoch | readingClock | loadingPrevious | rechecking | failed => rfl

theorem tickTurn_epoch (place : TickPlace) : readEpochNs (tickTurn memory now place).2 = readEpochNs memory :=
  tickTurn_word place 3 (by decide) (by decide) (by decide)

theorem tickTurn_hz (place : TickPlace) : readTimebaseHz (tickTurn memory now place).2 = readTimebaseHz memory :=
  tickTurn_word place 4 (by decide) (by decide) (by decide)

/-- The value a tick is about to install, if its compare-exchange will win. -/
def TickPlace.installs (memory : Memory) : TickPlace → Option (BitVec 64)
  | .exchanging _ ticks previous => if readTimeRegister memory .mtime = previous then some ticks else none
  | _ => none

theorem tickTurn_mtime (place : TickPlace) : readTimeRegister (tickTurn memory now place).2 .mtime =
    (place.installs memory).getD (readTimeRegister memory .mtime) := by
  cases place with
  | exchanging epoch ticks previous =>
    simp only [tickTurn, TickPlace.installs, compareExchangeTimeRegister, Memory.compareExchange64]
    rw [← readTimeRegister]
    by_cases found : readTimeRegister memory .mtime = previous
    · rw [if_pos found, if_pos found]
      exact Memory.load64_store64 ticks
    · rw [if_neg found, if_neg found]
      rfl
  | refreshing place => exact refreshTurn_timebase.word 0 (by decide) (by decide)
  | loadingHz epoch reading =>
    rw [tickTurn]
    split
    · rfl
    · rfl
  | loadingEpoch | readingClock | loadingPrevious | rechecking | failed => rfl

/-- The value a store is about to install, if its compare-exchange will win. -/
def StorePlace.installs (store : TimeStore) (memory : Memory) : StorePlace → Option (BitVec 64)
  | .exchanging previous =>
    if readTimeRegister memory store.register = previous then some (store.next previous) else none
  | _ => none

/-- The epoch a store is about to write. -/
def StorePlace.seats : StorePlace → Option (BitVec 64)
  | .storingEpoch _ epochNs => some (BitVec.ofInt 64 epochNs)
  | _ => none

variable {store : TimeStore}

/-- A store writes its register and the epoch, and no other word of the time base. -/
theorem storeTurn_word (place : StorePlace) (element : Nat) (real : element < 6) (notWires : element ≠ 2)
    (notEpoch : element ≠ 3) (notRegister : element ≠ timeRegisterUint64Index store.register) :
    (storeTurn memory now store place).2.load64 (clintHostUint64 (storeTurn memory now store place).2 element) =
      memory.load64 (clintHostUint64 memory element) := by
  cases place with
  | exchanging previous =>
    simp only [storeTurn, compareExchangeTimeRegister, Memory.compareExchange64]
    split
    · exact load64_store64_other memory notRegister.symm _
    · rfl
  | storingEpoch mtime epochNs => exact load64_store64_other memory notEpoch.symm _
  | refreshing place => exact refreshTurn_timebase.word element real notWires
  | loadingHz mtime reading =>
    rw [storeTurn]
    split
    · rfl
    · rfl
  | loadingPrevious | readingClock | failed => rfl

theorem storeTurn_register (place : StorePlace) : readTimeRegister (storeTurn memory now store place).2 store.register =
    (place.installs store memory).getD (readTimeRegister memory store.register) := by
  have words : timeRegisterUint64Index store.register < 6 ∧ timeRegisterUint64Index store.register ≠ 2 ∧
      timeRegisterUint64Index store.register ≠ 3 := by
    cases store.register with
    | mtime => decide
    | mtimecmp => decide
  cases place with
  | exchanging previous =>
    simp only [storeTurn, StorePlace.installs, compareExchangeTimeRegister, Memory.compareExchange64]
    rw [← readTimeRegister]
    by_cases found : readTimeRegister memory store.register = previous
    · rw [if_pos found, if_pos found]
      exact Memory.load64_store64 _
    · rw [if_neg found, if_neg found]
      rfl
  | storingEpoch mtime epochNs => exact load64_store64_other memory words.2.2.symm _
  | refreshing place => exact refreshTurn_timebase.word _ words.1 words.2.1
  | loadingHz mtime reading =>
    rw [storeTurn]
    split
    · rfl
    · rfl
  | loadingPrevious | readingClock | failed => rfl

theorem storeTurn_epoch (place : StorePlace) :
    readEpochNs (storeTurn memory now store place).2 = place.seats.getD (readEpochNs memory) := by
  cases place with
  | exchanging previous =>
    simp only [storeTurn, compareExchangeTimeRegister, Memory.compareExchange64]
    have apart : timeRegisterUint64Index store.register ≠ 3 := by
      cases store.register with
      | mtime => decide
      | mtimecmp => decide
    split
    · exact load64_store64_other memory apart _
    · rfl
  | storingEpoch mtime epochNs => exact Memory.load64_store64 _
  | refreshing place => exact refreshTurn_timebase.word 3 (by decide) (by decide)
  | loadingHz mtime reading =>
    rw [storeTurn]
    split
    · rfl
    · rfl
  | loadingPrevious | readingClock | failed => rfl

end YaRiscV.Emulator
