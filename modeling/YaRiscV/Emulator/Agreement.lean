import YaRiscV.Emulator.MonitorOperations
import YaRiscV.Emulator.Cpu.SampleDevicePending

/-! Two memories that may differ on hidden RAM bytes only, and the operations that take such
a pair to such a pair: everything but a load of RAM. -/

namespace YaRiscV.Emulator

open YaRiscV.Library YaRiscV.Utils

/-- Same layout, same worker, and same bytes outside `hidden`, which lies in RAM. -/
structure AgreeOff (hidden : Nat → Prop) (left right : Memory) : Prop where
  layout : right.layout = left.layout
  worker : right.worker = left.worker
  bytes : ByteStore.AgreeOff hidden left.bytes right.bytes
  ramOnly : ∀ position, hidden position → InRegions left.layout [ramRegionId] position

/-- Two results that come with memories: the same value, and an agreeing pair. -/
structure AgreeWith (hidden : Nat → Prop) (left right : Value × Memory) : Prop where
  value : right.1 = left.1
  memory : AgreeOff hidden left.2 right.2

variable {hidden : Nat → Prop} {left right : Memory} {index hostByteIndex : Nat}

namespace AgreeOff

theorem store (agree : AgreeOff hidden left right) (value : BitVec 8) :
    AgreeOff hidden (left.store index value) (right.store index value) :=
  ⟨agree.layout, agree.worker, agree.bytes.put value, agree.ramOnly⟩

theorem store32 (agree : AgreeOff hidden left right) (value : BitVec 32) :
    AgreeOff hidden (left.store32 index value) (right.store32 index value) :=
  ⟨agree.layout, agree.worker, agree.bytes.putWord value, agree.ramOnly⟩

theorem store64 (agree : AgreeOff hidden left right) (value : BitVec 64) :
    AgreeOff hidden (left.store64 index value) (right.store64 index value) :=
  ⟨agree.layout, agree.worker, agree.bytes.putWord value, agree.ramOnly⟩

theorem setElement (agree : AgreeOff hidden left right) (value : BitVec 8) :
    AgreeOff hidden (left.setElement index value) (right.setElement index value) := by
  rw [Memory.setElement, Memory.setElement, agree.layout]
  split
  · exact agree.store value
  · exact agree

theorem withWorker {first second : Worker} (agree : AgreeOff hidden left right) (same : second = first) :
    AgreeOff hidden { left with worker := first } { right with worker := second } :=
  ⟨agree.layout, same, agree.bytes, agree.ramOnly⟩

/-- No byte of a region other than RAM is hidden. -/
theorem visible {id : String} {region : Region} (agree : AgreeOff hidden left right)
    (found : left.layout.table.regions.lookup id = some region) (other : id ≠ ramRegionId)
    (low : region.hostIndex ≤ position) (high : position < region.hostIndex + region.hostByteLength) :
    ¬ hidden position := by
  intro concealed
  have apart := (agree.ramOnly position concealed).apart found (by simpa using other)
  omega

theorem load32 (agree : AgreeOff hidden left right) (visible : ∀ offset < 4, ¬ hidden (index + offset)) :
    right.load32 index = left.load32 index :=
  (agree.bytes.word visible).symm

theorem load64 (agree : AgreeOff hidden left right) (visible : ∀ offset < 8, ¬ hidden (index + offset)) :
    right.load64 index = left.load64 index :=
  (agree.bytes.word visible).symm

theorem clint (agree : AgreeOff hidden left right) (inside : offset < clintHostByteLength) :
    ¬ hidden (left.layout.clint.hostIndex + offset) := by
  refine agree.visible left.layout.clintFound (by decide) (Nat.le_add_right _ _) ?_
  simpa [MappedRegion.toRegion, left.layout.clintLength] using inside

theorem plic (agree : AgreeOff hidden left right) (inside : offset < plicHostByteLength) :
    ¬ hidden (left.layout.plic.hostIndex + offset) := by
  refine agree.visible left.layout.plicFound (by decide) (Nat.le_add_right _ _) ?_
  simpa [MappedRegion.toRegion, left.layout.plicLength] using inside

theorem reservation (agree : AgreeOff hidden left right) (inside : offset < reservationHostByteLength) :
    ¬ hidden (left.layout.reservation + offset) :=
  agree.visible left.layout.reservationFound (by decide) (Nat.le_add_right _ _) (Nat.add_lt_add_left inside _)

theorem irqLevel (agree : AgreeOff hidden left right) (inside : offset < irqLevelHostByteLength) :
    ¬ hidden (left.layout.irqLevel + offset) :=
  agree.visible left.layout.irqLevelFound (by decide) (Nat.le_add_right _ _) (Nat.add_lt_add_left inside _)

theorem compareExchange64 (agree : AgreeOff hidden left right) (visible : ∀ offset < 8, ¬ hidden (index + offset))
    (expected replacement : BitVec 64) : AgreeWith hidden (left.compareExchange64 index expected replacement)
      (right.compareExchange64 index expected replacement) := by
  rw [Memory.compareExchange64, Memory.compareExchange64, agree.load64 visible]
  refine ⟨rfl, ?_⟩
  dsimp only
  split
  · exact agree.store64 replacement
  · exact agree

theorem readHostClock (agree : AgreeOff hidden left right) :
    AgreeWith hidden left.readHostClock right.readHostClock := by
  rw [Memory.readHostClock, Memory.readHostClock, agree.worker]
  exact ⟨rfl, agree.layout, rfl, agree.bytes, agree.ramOnly⟩

/-- A word of the aggregate interrupt level is visible. -/
theorem loadIrqLevel (agree : AgreeOff hidden left right) : loadIrqLevel right = loadIrqLevel left := by
  rw [Emulator.loadIrqLevel, Emulator.loadIrqLevel, agree.layout]
  exact agree.load32 fun offset inside => agree.irqLevel inside

theorem setIrqWire (agree : AgreeOff hidden left right) (pending : Bool) (levelBit : BitVec 32) :
    AgreeOff hidden (setIrqWire left hostByteIndex pending levelBit)
      (setIrqWire right hostByteIndex pending levelBit) := by
  have driven : AgreeOff hidden (left.store hostByteIndex (if pending then 1 else 0))
      (right.store hostByteIndex (if pending then 1 else 0)) := agree.store _
  rw [setIrqWire_eq, setIrqWire_eq, driven.loadIrqLevel, agree.layout]
  exact driven.store32 _

/-! The CLINT. -/

theorem clintWord (agree : AgreeOff hidden left right) (element : Nat) (inside : element < 6) :
    right.load64 (clintHostUint64 right element) = left.load64 (clintHostUint64 left element) := by
  have same : clintHostUint64 right element = clintHostUint64 left element := by
    rw [clintHostUint64, clintHostUint64, agree.layout]
  rw [same]
  refine agree.load64 fun offset small => ?_
  rw [clintHostUint64, Nat.add_assoc]
  exact agree.clint (by simp only [clintHostByteLength]; omega)

theorem readTimeRegister (agree : AgreeOff hidden left right) (register : ClintTimeRegister) :
    readTimeRegister right register = readTimeRegister left register := by
  cases register
  · exact agree.clintWord 0 (by decide)
  · exact agree.clintWord 1 (by decide)

theorem timebaseHz (agree : AgreeOff hidden left right) : timebaseHz right = timebaseHz left := by
  have same : readTimebaseHz right = readTimebaseHz left := agree.clintWord 4 (by decide)
  rw [Emulator.timebaseHz, Emulator.timebaseHz, same]

theorem setClintIrqWire (agree : AgreeOff hidden left right) (pending : Bool) (levelBit : BitVec 32) :
    AgreeOff hidden (setClintIrqWire left wireOffset pending levelBit)
      (setClintIrqWire right wireOffset pending levelBit) := by
  rw [Emulator.setClintIrqWire, Emulator.setClintIrqWire, clintByteIndex, clintByteIndex, agree.layout]
  exact agree.setIrqWire pending levelBit

theorem updateTimerWiresLoop (agree : AgreeOff hidden left right) (attempts : Nat) :
    AgreeOff hidden (updateTimerWiresLoop attempts left) (updateTimerWiresLoop attempts right) := by
  induction attempts generalizing left right with
  | zero => exact agree
  | succ attempts ih =>
    have mirror (left right : Memory) (agree : AgreeOff hidden left right) :
        readStimecmpMirror right = readStimecmpMirror left := agree.clintWord 5 (by decide)
    rw [Emulator.updateTimerWiresLoop, Emulator.updateTimerWiresLoop]
    simp only [agree.readTimeRegister, mirror left right agree]
    have machine : AgreeOff hidden
        (setClintMachineTimerWire left (decide (Emulator.readTimeRegister left .mtime ≥
          Emulator.readTimeRegister left .mtimecmp)))
        (setClintMachineTimerWire right (decide (Emulator.readTimeRegister left .mtime ≥
          Emulator.readTimeRegister left .mtimecmp))) := agree.setClintIrqWire _ _
    have driven : AgreeOff hidden
        (setClintSupervisorTimerWire (setClintMachineTimerWire left (decide
          (Emulator.readTimeRegister left .mtime ≥ Emulator.readTimeRegister left .mtimecmp)))
          (decide (Emulator.readTimeRegister left .mtime ≥ readStimecmpMirror left)))
        (setClintSupervisorTimerWire (setClintMachineTimerWire right (decide
          (Emulator.readTimeRegister left .mtime ≥ Emulator.readTimeRegister left .mtimecmp)))
          (decide (Emulator.readTimeRegister left .mtime ≥ readStimecmpMirror left))) :=
      machine.setClintIrqWire _ _
    simp only [driven.readTimeRegister, mirror _ _ driven]
    split
    · exact driven
    · exact ih driven

theorem setClintStimecmpMirror (agree : AgreeOff hidden left right) (value : Bytes8) :
    AgreeOff hidden (setClintStimecmpMirror left value) (setClintStimecmpMirror right value) := by
  have mirror : readStimecmpMirror right = readStimecmpMirror left := agree.clintWord 5 (by decide)
  have written : AgreeOff hidden (writeStimecmpMirror left value) (writeStimecmpMirror right value) := by
    rw [writeStimecmpMirror, writeStimecmpMirror, clintHostUint64, clintHostUint64, agree.layout]
    exact agree.store64 value
  rw [Emulator.setClintStimecmpMirror, Emulator.setClintStimecmpMirror, mirror]
  split
  · exact agree
  · exact written.updateTimerWiresLoop _

theorem compareExchangeTimeRegister (agree : AgreeOff hidden left right) (register : ClintTimeRegister)
    (expected desired : BitVec 64) : AgreeWith hidden (compareExchangeTimeRegister left register expected desired)
      (compareExchangeTimeRegister right register expected desired) := by
  have visible (offset : Nat) (small : offset < 8) :
      ¬ hidden (clintHostUint64 left (timeRegisterUint64Index register) + offset) := by
    rw [clintHostUint64, Nat.add_assoc]
    refine agree.clint ?_
    cases register <;> simp [timeRegisterUint64Index] <;> omega
  simp only [Emulator.compareExchangeTimeRegister, clintHostUint64, agree.layout]
  exact agree.compareExchange64 visible expected desired

theorem tickClint (agree : AgreeOff hidden left right) :
    ExceptRelated (AgreeOff hidden) (tickClint left) (tickClint right) := by
  have epoch {left right : Memory} (agree : AgreeOff hidden left right) :
      readEpochNs right = readEpochNs left := agree.clintWord 3 (by decide)
  have clock := agree.readHostClock
  simp only [Emulator.tickClint, tickClintLoop, clock.value, epoch agree, clock.memory.timebaseHz]
  cases Emulator.timebaseHz left.readHostClock.2 with
  | error message => exact .error message
  | ok hz =>
    simp only [Except.bind, clock.memory.readTimeRegister]
    generalize BitVec.ofInt 64 _ = ticks
    have exchanged := clock.memory.compareExchangeTimeRegister .mtime
      (Emulator.readTimeRegister left.readHostClock.2 .mtime) ticks
    simp only [exchanged.value, epoch exchanged.memory]
    split
    · exact .ok exchanged.memory
    split
    · exact .ok exchanged.memory
    · exact .ok (exchanged.memory.updateTimerWiresLoop _)

/-! The interrupt wires and their sample. -/

theorem clintWire (agree : AgreeOff hidden left right) (inside : offset < clintHostByteLength) :
    right.bytes (clintByteIndex right offset) = left.bytes (clintByteIndex left offset) := by
  rw [clintByteIndex, clintByteIndex, agree.layout]
  exact (agree.bytes _ (agree.clint inside)).symm

theorem plicWire (agree : AgreeOff hidden left right) (inside : offset < plicHostByteLength) :
    right.bytes (plicHostIndex right offset) = left.bytes (plicHostIndex left offset) := by
  rw [plicHostIndex, plicHostIndex, agree.layout]
  exact (agree.bytes _ (agree.plic inside)).symm

theorem publishSupervisorTimerCompare (agree : AgreeOff hidden left right) (registers : Registers) :
    AgreeWith hidden (publishSupervisorTimerCompare registers left) (publishSupervisorTimerCompare registers right) := by
  simp only [Emulator.publishSupervisorTimerCompare]
  generalize (if isSupervisorTimerCompareEnabled registers then registers.controlAndStatus Csr.stimecmp
    else stimecmpDisabledBytes) = desired
  split
  · exact ⟨rfl, agree⟩
  · exact ⟨rfl, agree.setClintStimecmpMirror desired⟩

theorem sampleDevicePending (agree : AgreeOff hidden left right) (registers : Registers) :
    AgreeWith hidden (sampleDevicePending registers left) (sampleDevicePending registers right) := by
  have timer : isClintMachineTimerPending right = isClintMachineTimerPending left :=
    congrArg (· != 0) (agree.clintWire (by decide))
  have software : isClintMachineSoftwarePending right = isClintMachineSoftwarePending left :=
    congrArg (· != 0) (agree.clintWire (by decide))
  simp only [Emulator.sampleDevicePending, timer, software]
  have published := agree.publishSupervisorTimerCompare (setMachineSoftwareInterruptPending
    (setMachineTimerInterruptPending registers (isClintMachineTimerPending left))
    (isClintMachineSoftwarePending left))
  have supervisor : isClintSupervisorTimerPending (Emulator.publishSupervisorTimerCompare _ right).2 =
      isClintSupervisorTimerPending (Emulator.publishSupervisorTimerCompare _ left).2 :=
    congrArg (· != 0) (published.memory.clintWire (by decide))
  have external : isPlicMachineExternalPending (Emulator.publishSupervisorTimerCompare _ right).2 =
      isPlicMachineExternalPending (Emulator.publishSupervisorTimerCompare _ left).2 :=
    congrArg (· != 0) (published.memory.plicWire (by decide))
  have lower : isPlicSupervisorExternalPending (Emulator.publishSupervisorTimerCompare _ right).2 =
      isPlicSupervisorExternalPending (Emulator.publishSupervisorTimerCompare _ left).2 :=
    congrArg (· != 0) (published.memory.plicWire (by decide))
  rw [published.value, supervisor, external, lower]
  exact ⟨rfl, published.memory⟩

end AgreeOff

end YaRiscV.Emulator
