import YaRiscV.Emulator.Clint.EpochRounding
import YaRiscV.Emulator.Clint.Memory

/-! What a number of ticks in a row leaves of the CLINT: the last reading of the host clock
decides, and the buffer is as it was exactly if that reading and both timer wires agree with it. -/

namespace YaRiscV.Emulator

open YaRiscV.Library YaRiscV.Utils

variable {memory middle after : Memory} {count : Nat}

/-- Both timer wires, with their lines, follow the comparisons. -/
structure TimerWiresCurrent (memory : Memory) : Prop where
  machine : WireDriven memory (clintByteIndex memory clintHostMachineTimerWireOffset)
    (decide (readTimeRegister memory .mtime ≥ readTimeRegister memory .mtimecmp)) irqLevelMtip
  supervisor : WireDriven memory (clintByteIndex memory clintHostSupervisorTimerWireOffset)
    (decide (readTimeRegister memory .mtime ≥ readStimecmpMirror memory)) irqLevelStip

def timerLines : BitVec 32 := irqLevelMtip ||| irqLevelStip

/-- The bytes a tick writes: `mtime`, the two wires and the aggregate word. -/
def InTimer (layout : Layout) (position : Nat) : Prop :=
  (layout.clint.hostIndex ≤ position ∧ position < layout.clint.hostIndex + 8) ∨
    position = layout.clint.hostIndex + clintHostMachineTimerWireOffset ∨
    position = layout.clint.hostIndex + clintHostSupervisorTimerWireOffset ∨ InIrqLevel layout position

/-- `count` ticks, the last of them at reading `count - 1` of the host clock. -/
structure Ticked (memory : Memory) (count : Nat) (after : Memory) : Prop where
  changes : ChangesOnly (InTimer memory.layout) memory after
  line : loadIrqLevel after &&& ~~~timerLines = loadIrqLevel memory &&& ~~~timerLines
  clock : after.worker = { memory.worker with hrtime := fun reading => memory.worker.hrtime (reading + count) }
  none : count = 0 → after = memory
  last : ∀ reading, count = reading + 1 →
    readTimeRegister after .mtime = ticksAt memory (memory.worker.hrtime reading) ∧ TimerWiresCurrent after

/-- The registers already show what a tick at host time `now` would give them. -/
structure TimerSettled (memory : Memory) (now : Nat) : Prop where
  mtime : readTimeRegister memory .mtime = ticksAt memory now
  wires : TimerWiresCurrent memory

theorem clintWire_apart (layout : Layout) (offset : Nat) (inside : offset < clintHostByteLength) :
    ¬ InIrqLevel layout (layout.clint.hostIndex + offset) := by
  have apart := layout.clint_irqLevel
  simp only [InIrqLevel, clintHostByteLength] at *
  omega

theorem updateTimerWiresFromCompare_wires (memory : Memory) : updateTimerWiresFromCompare memory =
    setIrqWire
      (setIrqWire memory (memory.layout.clint.hostIndex + clintHostMachineTimerWireOffset)
        (decide (readTimeRegister memory .mtime ≥ readTimeRegister memory .mtimecmp)) irqLevelMtip)
      (memory.layout.clint.hostIndex + clintHostSupervisorTimerWireOffset)
      (decide (readTimeRegister memory .mtime ≥ readStimecmpMirror memory)) irqLevelStip := by
  rw [updateTimerWiresFromCompare_eq]
  simp only [setClintSupervisorTimerWire, setClintMachineTimerWire, setClintIrqWire, clintByteIndex,
    setIrqWire_layout]

theorem updateTimerWiresFromCompare_current : TimerWiresCurrent (updateTimerWiresFromCompare memory) := by
  have same : SameTimebase memory (updateTimerWiresFromCompare memory) := updateTimerWiresFromCompare_same
  have mtime : readTimeRegister (updateTimerWiresFromCompare memory) .mtime = readTimeRegister memory .mtime :=
    same.word 0 (by decide) (by decide)
  have mtimecmp : readTimeRegister (updateTimerWiresFromCompare memory) .mtimecmp = readTimeRegister memory .mtimecmp :=
    same.word 1 (by decide) (by decide)
  have mirror : readStimecmpMirror (updateTimerWiresFromCompare memory) = readStimecmpMirror memory :=
    same.word 5 (by decide) (by decide)
  have machine := clintWire_apart memory.layout clintHostMachineTimerWireOffset (by decide)
  have supervisor := clintWire_apart memory.layout clintHostSupervisorTimerWireOffset (by decide)
  have wires := updateTimerWiresFromCompare_wires memory
  constructor
  · rw [mtime, mtimecmp, clintByteIndex, updateTimerWiresFromCompare_layout, wires]
    refine (setIrqWire_driven machine).other ?_ (by decide) ?_ ?_
    · simp
    · rwa [setIrqWire_layout]
    · rwa [setIrqWire_layout]
  · rw [mtime, mirror, clintByteIndex, updateTimerWiresFromCompare_layout, wires]
    refine setIrqWire_driven ?_
    rwa [setIrqWire_layout]

theorem timerWires_line : loadIrqLevel (updateTimerWiresFromCompare memory) &&& ~~~timerLines =
    loadIrqLevel memory &&& ~~~timerLines := by
  have machine := clintWire_apart memory.layout clintHostMachineTimerWireOffset (by decide)
  have supervisor := clintWire_apart memory.layout clintHostSupervisorTimerWireOffset (by decide)
  rw [updateTimerWiresFromCompare_wires, loadIrqLevel_setIrqWire (by rwa [setIrqWire_layout]),
    published_other (by decide), loadIrqLevel_setIrqWire machine, published_other (by decide)]

theorem updateTimerWiresFromCompare_changes (memory : Memory) :
    ChangesOnly (InTimer memory.layout) memory (updateTimerWiresFromCompare memory) := by
  rw [updateTimerWiresFromCompare_wires]
  have first : ChangesOnly (InTimer memory.layout) memory (setIrqWire memory
      (memory.layout.clint.hostIndex + clintHostMachineTimerWireOffset)
      (decide (readTimeRegister memory .mtime ≥ readTimeRegister memory .mtimecmp)) irqLevelMtip) :=
    setIrqWire_changesOnly.mono fun position reached => by
      rcases reached with rfl | level
      · exact .inr (.inl rfl)
      · exact .inr (.inr (.inr level))
  refine first.trans (setIrqWire_changesOnly.mono fun position reached => ?_)
  rw [setIrqWire_layout] at reached
  rcases reached with rfl | level
  · exact .inr (.inr (.inl rfl))
  · exact .inr (.inr (.inr level))

theorem tickClint_ok (ticked : tickClint memory = .ok after) : (readTimebaseHz memory).toNat ≠ 0 := by
  intro unset
  have thrown : timebaseHz memory.readHostClock.2 = .error "CLINT timebase frequency is not set." := if_pos unset
  simp only [tickClint, tickClintLoop, thrown, Except.bind] at ticked
  cases ticked

theorem TimerWiresCurrent.of_same (current : TimerWiresCurrent after) (layout : memory.layout = after.layout)
    (bytes : memory.bytes = after.bytes) : TimerWiresCurrent memory := by
  have same : memory = { after with worker := memory.worker } := Memory.ext layout bytes rfl
  rw [same]
  exact ⟨⟨current.machine.wire, current.machine.line⟩, ⟨current.supervisor.wire, current.supervisor.line⟩⟩

/-- A word is known from its two timer lines and the rest. -/
theorem eq_of_lines {left right : BitVec 32} (machine : left &&& irqLevelMtip = right &&& irqLevelMtip)
    (supervisor : left &&& irqLevelStip = right &&& irqLevelStip)
    (rest : left &&& ~~~timerLines = right &&& ~~~timerLines) : left = right := by
  have parts (word : BitVec 32) : word = (word &&& irqLevelMtip) ||| (word &&& irqLevelStip) |||
      (word &&& ~~~timerLines) := by
    apply BitVec.eq_of_getLsbD_eq
    intro bit inside
    simp only [timerLines, BitVec.getLsbD_or, BitVec.getLsbD_and, BitVec.getLsbD_not, inside, decide_true,
      Bool.true_and]
    cases word.getLsbD bit <;> cases irqLevelMtip.getLsbD bit <;> cases irqLevelStip.getLsbD bit <;> rfl
  rw [parts left, parts right, machine, supervisor, rest]

theorem byte_of_load64 {left right : Memory} (same : left.load64 index = right.load64 index)
    (low : index ≤ position) (high : position < index + 8) : left.bytes position = right.bytes position := by
  obtain ⟨offset, rfl⟩ := Nat.exists_eq_add_of_le low
  have bytes := congrArg (fun word => byte word offset) same
  simp only [Memory.load64] at bytes
  rwa [ByteStore.byte_word (by omega) (by decide), ByteStore.byte_word (by omega) (by decide)] at bytes

theorem byte_of_load32 {left right : Memory} (same : left.load32 index = right.load32 index)
    (low : index ≤ position) (high : position < index + 4) : left.bytes position = right.bytes position := by
  obtain ⟨offset, rfl⟩ := Nat.exists_eq_add_of_le low
  have bytes := congrArg (fun word => byte word offset) same
  simp only [Memory.load32] at bytes
  rwa [ByteStore.byte_word (by omega) (by decide), ByteStore.byte_word (by omega) (by decide)] at bytes

namespace Ticked

theorem refl (memory : Memory) : Ticked memory 0 memory :=
  ⟨.refl, rfl, rfl, fun _ => rfl, fun _ one => by cases one⟩

theorem timebase_kept (ticked : Ticked memory count middle) (element : Nat) (real : element < 6)
    (words : element ≠ 0 ∧ element ≠ 2) :
    middle.load64 (clintHostUint64 middle element) = memory.load64 (clintHostUint64 memory element) := by
  have apart := memory.layout.clint_irqLevel
  simp only [clintHostUint64, ticked.changes.layout]
  refine ticked.changes.load64 fun offset inside reached => ?_
  simp [InTimer, InIrqLevel] at reached apart
  omega

theorem tick (ticked : Ticked memory count middle) (next : tickClint middle = .ok after) :
    Ticked memory (count + 1) after := by
  have set := tickClint_ok next
  rw [tickClint_eq set] at next
  cases next
  have clock : middle.readHostClock.1 = memory.worker.hrtime count := by
    have reading : middle.worker.hrtime 0 = memory.worker.hrtime (0 + count) := by rw [ticked.clock]
    rwa [Nat.zero_add] at reading
  have ticks : ticksAt middle middle.readHostClock.1 = ticksAt memory (memory.worker.hrtime count) := by
    rw [clock, ticksAt, ticksAt, readEpochNs, readEpochNs, readTimebaseHz, readTimebaseHz,
      ticked.timebase_kept _ (by decide) (by decide), ticked.timebase_kept _ (by decide) (by decide)]
  rw [ticks]
  have stored : ChangesOnly (InTimer memory.layout) memory (middle.readHostClock.2.store64
      (clintHostUint64 middle clintHostMtimeUint64Index) (ticksAt memory (memory.worker.hrtime count))) := by
    have read : ChangesOnly (InTimer memory.layout) memory middle.readHostClock.2 :=
      ⟨ticked.changes.layout, ticked.changes.bytes⟩
    refine read.trans (ChangesOnly.store64 (fun offset small => ?_) _)
    rw [clintHostUint64, ticked.changes.layout]
    refine .inl ⟨by omega, ?_⟩
    simp only [clintHostMtimeUint64Index]
    omega
  have wires := updateTimerWiresFromCompare_changes (middle.readHostClock.2.store64
    (clintHostUint64 middle clintHostMtimeUint64Index) (ticksAt memory (memory.worker.hrtime count)))
  rw [stored.layout] at wires
  constructor
  case changes => exact stored.trans wires
  case line =>
    rw [timerWires_line, ← ticked.line]
    have kept : loadIrqLevel (middle.readHostClock.2.store64 (clintHostUint64 middle clintHostMtimeUint64Index)
        (ticksAt memory (memory.worker.hrtime count))) = loadIrqLevel middle := by
      have apart := middle.layout.clint_irqLevel
      refine Memory.load32_congr fun offset small => Memory.store64_outside _ ?_
      simp [clintHostUint64] at apart ⊢
      omega
    rw [kept]
  case clock =>
    rw [updateTimerWiresFromCompare_worker, Memory.store64_worker, Memory.readHostClock, ticked.clock]
    simp only [Nat.add_assoc, Nat.add_comm 1 count]
  case none => intro zero; cases zero
  case last =>
    rintro reading same
    obtain rfl : count = reading := Nat.succ_injective same
    refine ⟨?_, updateTimerWiresFromCompare_current⟩
    rw [readTimeRegister, timeRegisterUint64Index, updateTimerWiresFromCompare_same.word _ (by decide) (by decide)]
    exact Memory.load64_store64 _

/-- The buffer after ticks is the buffer before exactly if the last tick finds its own values. -/
theorem bytes_iff (ticked : Ticked memory count after) : after.bytes = memory.bytes ↔
    ∀ reading, count = reading + 1 → TimerSettled memory (memory.worker.hrtime reading) := by
  have layout := ticked.changes.layout
  constructor
  · intro same reading last
    obtain ⟨mtime, wires⟩ := ticked.last reading last
    have start : memory = { after with worker := memory.worker } := Memory.ext layout.symm same.symm rfl
    refine ⟨Eq.trans ?_ mtime, wires.of_same layout.symm same.symm⟩
    rw [readTimeRegister, readTimeRegister, clintHostUint64, clintHostUint64, layout, Memory.load64,
      Memory.load64, same]
  · intro settled
    cases count with
    | zero => rw [ticked.none rfl]
    | succ reading =>
      obtain ⟨mtime, wires⟩ := ticked.last reading rfl
      obtain ⟨mtimeBefore, wiresBefore⟩ := settled reading rfl
      have time : readTimeRegister after .mtime = readTimeRegister memory .mtime := mtime.trans mtimeBefore.symm
      have compare : readTimeRegister after .mtimecmp = readTimeRegister memory .mtimecmp :=
        ticked.timebase_kept 1 (by decide) (by decide)
      have mirror : readStimecmpMirror after = readStimecmpMirror memory :=
        ticked.timebase_kept 5 (by decide) (by decide)
      have machine := wires.machine
      have supervisor := wires.supervisor
      rw [time, compare, clintByteIndex, layout] at machine
      rw [time, mirror, clintByteIndex, layout] at supervisor
      have level : loadIrqLevel after = loadIrqLevel memory :=
        eq_of_lines (machine.line.trans wiresBefore.machine.line.symm)
          (supervisor.line.trans wiresBefore.supervisor.line.symm) ticked.line
      funext position
      by_cases reached : InTimer memory.layout position
      · rcases reached with ⟨low, high⟩ | rfl | rfl | ⟨low, high⟩
        · simp only [readTimeRegister, clintHostUint64, layout, timeRegisterUint64Index,
            clintHostMtimeUint64Index, Nat.zero_mul, Nat.add_zero] at time
          exact byte_of_load64 time low high
        · exact machine.wire.trans wiresBefore.machine.wire.symm
        · exact supervisor.wire.trans wiresBefore.supervisor.wire.symm
        · rw [loadIrqLevel, loadIrqLevel, layout] at level
          exact byte_of_load32 level low high
      · exact ticked.changes.bytes position reached

end Ticked

/-! Loads of the window. -/

/-- Whether the byte at an offset belongs to `mtime`. -/
def readsMtime (offset : Int) : Bool :=
  match clintOffsetToRegister offset with
  | some (.time .mtime, _) => true
  | _ => false

/-- How often a load ticks: once as a whole transfer, else once for each byte of `mtime`. -/
def clintTickCount (offset : Int) (byteLength : Nat) : Nat :=
  match isClintTimeRegisterTransfer offset byteLength with
  | some (.mtime, _) => 1
  | some (.mtimecmp, _) => 0
  | none => (List.range byteLength).countP fun index : Nat => readsMtime (offset + (index : Int))

theorem loadClintTurn_ticked {destination : Bytes8} (ticked : Ticked memory count middle)
    (turn : loadClintTurn offset byteIndex (.ok (destination, middle)) = .ok (loaded, after)) :
    Ticked memory (count + if readsMtime (offset + byteIndex) then 1 else 0) after := by
  unfold loadClintTurn at turn
  unfold readsMtime
  simp only [Except.bind] at turn
  cases decoded : clintOffsetToRegister (offset + byteIndex) with
  | none =>
    rw [decoded] at turn
    cases turn
    exact ticked
  | some place =>
    obtain ⟨register, byteOffset⟩ := place
    rw [decoded] at turn
    obtain ⟨⟨value, next⟩, loaded, same⟩ := except_map_ok.mp turn
    cases same
    cases register with
    | msip =>
      cases loaded
      exact ticked
    | time register =>
      obtain ⟨read, advanced, same⟩ := except_map_ok.mp loaded
      cases same
      cases register with
      | mtime => exact ticked.tick advanced
      | mtimecmp =>
        cases advanced
        exact ticked

theorem loadClintTurns_ticked {destination : Bytes8} (loaded : forEachIndex (loadClintTurn offset) byteLength
      (.ok (destination, memory)) = .ok (result, after)) :
    Ticked memory ((List.range byteLength).countP fun index : Nat => readsMtime (offset + (index : Int))) after := by
  induction byteLength generalizing result after with
  | zero =>
    cases loaded
    exact .refl memory
  | succ byteLength ih =>
    rw [forEachIndex] at loaded
    cases earlier : forEachIndex (loadClintTurn offset) byteLength (.ok (destination, memory)) with
    | error message =>
      rw [earlier] at loaded
      cases loaded
    | ok state =>
      obtain ⟨partly, middle⟩ := state
      rw [earlier] at loaded
      rw [List.range_succ, List.countP_append, List.countP_singleton]
      exact loadClintTurn_ticked (ih earlier) loaded

/-- A load of the CLINT ticks as often as it meets `mtime`. -/
theorem loadBytesFromClint_ticked {destination : Bytes8}
    (loaded : loadBytesFromClint destination memory offset byteLength = .ok (result, after)) :
    Ticked memory (clintTickCount offset byteLength) after := by
  simp only [loadBytesFromClint, clintTickCount] at loaded ⊢
  cases transfer : isClintTimeRegisterTransfer offset byteLength with
  | none =>
    rw [transfer] at loaded
    exact loadClintTurns_ticked loaded
  | some place =>
    obtain ⟨register, byteOffset⟩ := place
    rw [transfer] at loaded
    obtain ⟨read, advanced, same⟩ := except_map_ok.mp loaded
    cases same
    cases register with
    | mtime => exact (Ticked.refl memory).tick advanced
    | mtimecmp =>
      cases advanced
      exact .refl memory

/-- The state in which a load of the CLINT changes nothing: the last tick it makes, if it
makes one, finds its own values. -/
def ClintLoadSettled (memory : Memory) (offset : Int) (byteLength : Nat) : Prop :=
  ∀ reading, clintTickCount offset byteLength = reading + 1 → TimerSettled memory (memory.worker.hrtime reading)

theorem loadBytesFromClint_bytes_iff {destination : Bytes8}
    (loaded : loadBytesFromClint destination memory offset byteLength = .ok (result, after)) :
    after.bytes = memory.bytes ↔ ClintLoadSettled memory offset byteLength :=
  (loadBytesFromClint_ticked loaded).bytes_iff

end YaRiscV.Emulator
