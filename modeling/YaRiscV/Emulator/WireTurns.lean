import YaRiscV.Emulator.Plic.Gateway
import YaRiscV.Emulator.Clint.EpochRounding

/-! `setIrqWire` access by access, for the five device wires. -/

namespace YaRiscV.Emulator

open YaRiscV.Library

inductive IrqWire where
  | machineSoftware
  | supervisorTimer
  | machineTimer
  | supervisorExternal
  | machineExternal
  deriving DecidableEq, Repr

namespace IrqWire

/-- The host byte of a wire. -/
def index (layout : Layout) : IrqWire → Nat
  | .machineSoftware => layout.clint.hostIndex + clintHostMachineSoftwareWireOffset
  | .supervisorTimer => layout.clint.hostIndex + clintHostSupervisorTimerWireOffset
  | .machineTimer => layout.clint.hostIndex + clintHostMachineTimerWireOffset
  | .supervisorExternal => layout.plic.hostIndex + contextWireOffset .supervisor
  | .machineExternal => layout.plic.hostIndex + contextWireOffset .machine

/-- The number of a wire's interrupt, which is also its line in the aggregate word. -/
def number : IrqWire → Nat
  | .machineSoftware => 3
  | .supervisorTimer => 5
  | .machineTimer => 7
  | .supervisorExternal => 9
  | .machineExternal => 11

def levelBit : IrqWire → BitVec 32
  | .machineSoftware => irqLevelMsip
  | .supervisorTimer => irqLevelStip
  | .machineTimer => irqLevelMtip
  | .supervisorExternal => irqLevelSeip
  | .machineExternal => irqLevelMeip

/-- The level of a wire. -/
def high (wire : IrqWire) (memory : Memory) : Bool := memory.bytes (wire.index memory.layout) != 0

/-- The line of a wire in the aggregate word. -/
def line (wire : IrqWire) (memory : Memory) : Bool := (loadIrqLevel memory).getLsbD wire.number

end IrqWire

/-- The access a worker makes next in `setIrqWire`. -/
inductive DrivePhase where
  | storing
  | loading
  | exchanging (previous : BitVec 32)
  | notifying
  | driven
  deriving DecidableEq, Repr

variable (wire : IrqWire) (pending : Bool) (memory : Memory)

/-- The word with the wire's own line at `pending`. -/
def drivenLevel (previous : BitVec 32) : BitVec 32 :=
  if pending then previous ||| wire.levelBit else previous &&& ~~~wire.levelBit

/-- One access of `setIrqWire`. -/
def driveTurn : DrivePhase → DrivePhase × Memory
  | .storing => (.loading, memory.store (wire.index memory.layout) (if pending then 1 else 0))
  | .loading => (.exchanging (loadIrqLevel memory), memory)
  | .exchanging previous =>
    let next := drivenLevel wire pending previous
    let (current, memory) := memory.compareExchange32 memory.layout.irqLevel previous next
    if current = previous then (if next ≠ previous then .notifying else .driven, memory)
    else (.exchanging current, memory)
  | .notifying | .driven => (.driven, memory)

/-! A call that is not interfered with is the function. -/

/-- The accesses of one call in a row. -/
def driveTurns : DrivePhase × Memory :=
  forEachIndex (fun _ reached => driveTurn wire pending reached.2 reached.1) 4 (.storing, memory)

theorem driveTurns_eq : driveTurns wire pending memory =
    (.driven, setIrqWire memory (wire.index memory.layout) pending wire.levelBit) := by
  have exchanged (stored : Memory) : driveTurn wire pending stored (.exchanging (loadIrqLevel stored)) =
      (if drivenLevel wire pending (loadIrqLevel stored) ≠ loadIrqLevel stored then .notifying else .driven,
        stored.store32 stored.layout.irqLevel (drivenLevel wire pending (loadIrqLevel stored))) := by
    simp only [driveTurn, Memory.compareExchange32, loadIrqLevel, if_true]
  have reached (stored : Memory) (stores : stored = memory.store (wire.index memory.layout) (if pending then 1 else 0)) :
      driveTurns wire pending memory =
        driveTurn wire pending (driveTurn wire pending stored (.exchanging (loadIrqLevel stored))).2
          (driveTurn wire pending stored (.exchanging (loadIrqLevel stored))).1 := by
    rw [stores]
    rfl
  have notified (stored : Memory) (changed : Prop) [Decidable changed] :
      driveTurn wire pending stored (if changed then .notifying else .driven) = (.driven, stored) := by
    split
    · rfl
    · rfl
  rw [setIrqWire_eq, reached _ rfl, exchanged, notified]
  rfl

theorem setClintTimerWires_drive : setClintMachineTimerWire memory pending =
      (driveTurns .machineTimer pending memory).2 ∧
    setClintSupervisorTimerWire memory pending = (driveTurns .supervisorTimer pending memory).2 := by
  rw [driveTurns_eq, driveTurns_eq]
  exact ⟨rfl, rfl⟩

theorem setPlicContextWire_drive : setPlicContextWire memory .machine pending =
      (driveTurns .machineExternal pending memory).2 ∧
    setPlicContextWire memory .supervisor pending = (driveTurns .supervisorExternal pending memory).2 := by
  rw [driveTurns_eq, driveTurns_eq]
  exact ⟨rfl, rfl⟩

/-! Where the wires lie. -/

variable {wire pending memory} {other : IrqWire} {phase : DrivePhase} {after : Memory}

theorem Layout.clint_plic (layout : Layout) :
    layout.clint.hostIndex + clintHostByteLength ≤ layout.plic.hostIndex ∨
      layout.plic.hostIndex + plicHostByteLength ≤ layout.clint.hostIndex := by
  have apart := layout.apart layout.clintFound layout.plicFound (by decide)
  simpa only [Region.Apart, MappedRegion.toRegion, layout.clintLength, layout.plicLength] using apart

theorem IrqWire.index_ne (layout : Layout) (different : wire ≠ other) : wire.index layout ≠ other.index layout := by
  have apart := layout.clint_plic
  simp only [clintHostByteLength, plicHostByteLength] at apart
  cases wire <;> cases other <;> simp [index, contextWireOffset] at different ⊢ <;> omega

theorem IrqWire.index_outside (wire : IrqWire) (layout : Layout) : ¬ InIrqLevel layout (wire.index layout) := by
  have clint := layout.clint_irqLevel
  have plic := layout.plic_irqLevel
  simp only [InIrqLevel, clintHostByteLength, plicHostByteLength] at *
  cases wire <;> simp [index, contextWireOffset] <;> omega

theorem IrqWire.index_outside_timebase (wire : IrqWire) (layout : Layout) :
    ¬ InClintTimebase layout (wire.index layout) := by
  have apart := layout.clint_plic
  simp only [InClintTimebase, clintHostByteLength, plicHostByteLength] at *
  cases wire <;> simp [index, contextWireOffset] <;> omega

/-! What an access does to the wires, to their lines and to the time base. -/

/-- Everything but the time base may have changed. -/
theorem driveTurn_timebase : SameTimebase memory (driveTurn wire pending memory phase).2 := by
  have level (value : BitVec 32) : SameTimebase memory (memory.store32 memory.layout.irqLevel value) := by
    have apart := memory.layout.clint_irqLevel
    refine ChangesOnly.store32 (fun offset small inside => ?_) value
    simp only [InClintTimebase, clintHostByteLength] at inside apart
    omega
  cases phase with
  | storing => exact ChangesOnly.store (IrqWire.index_outside_timebase wire memory.layout) _
  | exchanging previous =>
    simp only [driveTurn, Memory.compareExchange32]
    split
    · exact level _
    · exact ChangesOnly.refl
  | loading | notifying | driven => exact ChangesOnly.refl

/-- The wires and the aggregate word are as they were. -/
structure SameWires (before after : Memory) : Prop where
  layout : after.layout = before.layout
  high : ∀ wire : IrqWire, wire.high after = wire.high before
  level : loadIrqLevel after = loadIrqLevel before

theorem SameWires.refl (memory : Memory) : SameWires memory memory :=
  ⟨rfl, fun _ => rfl, rfl⟩

theorem SameWires.line (same : SameWires memory after) (wire : IrqWire) : wire.line after = wire.line memory := by
  rw [IrqWire.line, IrqWire.line, same.level]

/-- Words of the time base are no wires. -/
theorem SameWires.of_timebase (changes : ChangesOnly (InClintTimebase memory.layout) memory after) :
    SameWires memory after where
  layout := changes.layout
  high wire := by
    rw [IrqWire.high, IrqWire.high, changes.layout,
      changes.bytes _ (IrqWire.index_outside_timebase wire memory.layout)]
  level := by
    have apart := memory.layout.clint_irqLevel
    rw [loadIrqLevel, loadIrqLevel, changes.layout]
    refine changes.load32 fun offset small inside => ?_
    simp only [InClintTimebase, clintHostByteLength] at inside apart
    omega

theorem high_storeWire (memory : Memory) (wire other : IrqWire) (pending : Bool) :
    other.high (memory.store (wire.index memory.layout) (if pending then 1 else 0)) =
      if other = wire then pending else other.high memory := by
  rw [IrqWire.high, Memory.store_bytes, Memory.store_layout]
  by_cases same : other = wire
  · rw [if_pos same, if_pos (by rw [same])]
    cases pending <;> rfl
  · rw [if_neg same, if_neg (IrqWire.index_ne memory.layout same)]
    rfl

theorem level_storeWire (memory : Memory) (wire : IrqWire) (value : BitVec 8) :
    loadIrqLevel (memory.store (wire.index memory.layout) value) = loadIrqLevel memory := by
  refine (ChangesOnly.store_at value).load32 fun offset inside reached => ?_
  have same : memory.layout.irqLevel + offset = wire.index memory.layout := reached
  exact wire.index_outside memory.layout ⟨by omega, by omega⟩

theorem high_storeLevel (memory : Memory) (wire : IrqWire) (value : BitVec 32) :
    wire.high (memory.store32 memory.layout.irqLevel value) = wire.high memory := by
  have outside := wire.index_outside memory.layout
  simp only [InIrqLevel] at outside
  rw [IrqWire.high, IrqWire.high, Memory.store32_layout, Memory.store32_outside _ (by omega)]

theorem level_storeLevel (memory : Memory) (value : BitVec 32) :
    loadIrqLevel (memory.store32 memory.layout.irqLevel value) = value :=
  Memory.load32_store32 value

/-- The lines of the driven word. -/
theorem getLsbD_drivenLevel (wire other : IrqWire) (pending : Bool) (previous : BitVec 32) :
    (drivenLevel wire pending previous).getLsbD other.number =
      if other = wire then pending else previous.getLsbD other.number := by
  have bit : wire.levelBit.getLsbD other.number = decide (other = wire) := by
    cases wire <;> cases other <;> rfl
  have small : other.number < 32 := by
    cases other <;> decide
  unfold drivenLevel
  cases pending with
  | true =>
    rw [if_pos rfl, BitVec.getLsbD_or, bit]
    by_cases same : other = wire <;> simp only [same, decide_true, decide_false, Bool.or_true, Bool.or_false, if_true,
      if_false]
  | false =>
    rw [if_neg Bool.false_ne_true, BitVec.getLsbD_and, BitVec.getLsbD_not, bit]
    by_cases same : other = wire <;> simp only [same, small, decide_true, decide_false, Bool.not_true, Bool.not_false,
      Bool.and_false, Bool.and_true, if_true, if_false]

/-- What an access of `setIrqWire` does, seen from any wire. -/
theorem driveTurn_high (other : IrqWire) : other.high (driveTurn wire pending memory phase).2 =
    if phase = .storing ∧ other = wire then pending else other.high memory := by
  cases phase with
  | storing =>
    rw [driveTurn, high_storeWire]
    simp
  | exchanging previous =>
    simp only [driveTurn, Memory.compareExchange32]
    split
    · exact high_storeLevel memory other _
    · rfl
  | loading | notifying | driven => rfl

/-! What a whole call leaves. -/

theorem high_setIrqWire (memory : Memory) (wire other : IrqWire) (pending : Bool) :
    other.high (setIrqWire memory (wire.index memory.layout) pending wire.levelBit) =
      if other = wire then pending else other.high memory := by
  rw [setIrqWire_eq]
  exact (high_storeLevel _ other _).trans (high_storeWire memory wire other pending)

theorem level_setIrqWire (memory : Memory) (wire : IrqWire) (pending : Bool) :
    loadIrqLevel (setIrqWire memory (wire.index memory.layout) pending wire.levelBit) =
      drivenLevel wire pending (loadIrqLevel memory) :=
  loadIrqLevel_setIrqWire (wire.index_outside memory.layout)

theorem timebase_setIrqWire (memory : Memory) (wire : IrqWire) (pending : Bool) :
    SameTimebase memory (setIrqWire memory (wire.index memory.layout) pending wire.levelBit) := by
  have apart := memory.layout.clint_irqLevel
  refine setIrqWire_changesOnly.mono fun position reached inside => ?_
  rcases reached with rfl | level
  · exact wire.index_outside_timebase memory.layout inside
  · simp only [InClintTimebase, InIrqLevel, clintHostByteLength] at *
    omega

end YaRiscV.Emulator
