import YaRiscV.Emulator.InterruptLines
import YaRiscV.Emulator.Uart.InterruptHistory

/-! What the accesses of every worker come down to: steps of one device each. What each device
keeps current it keeps through its own steps and through those of the others. -/

namespace YaRiscV.Emulator

open YaRiscV.Library YaRiscV.Utils Relation

/-- The slabs from which no device derives a wire. -/
def plainReach : List String := [ramRegionId, sysconRegionId, reservationRegionId]

/-- One step of one device. -/
inductive DeviceStep : Memory → Memory → Prop
  | plain (changes : ChangesOnly (InRegions memory.layout plainReach) memory after) : DeviceStep memory after
  | uart (changes : ChangesOnly (InRegions memory.layout [uartRegionId]) memory after)
      (rings : (uartView memory).RingsValid → (uartView after).RingsValid) : DeviceStep memory after
  | drive (source : Nat) (level : Bool) : DeviceStep memory (setPlicSourcePending memory source level)
  | claim (context : PlicContext) : DeviceStep memory (claimPlicSource memory context).2
  | plicStore (stored : PlicByteStore memory after) : DeviceStep memory after
  | tick (ticked : tickClint memory = .ok after) : DeviceStep memory after
  | timeStore (register : ClintTimeRegister) (byteOffset : Nat) (source : Bytes8) (byteLength : Nat)
      (stored : storeClintTimeBytes memory register byteOffset source byteLength = .ok after) :
      DeviceStep memory after
  | software (pending : Bool) : DeviceStep memory (setClintMachineSoftwareWire memory pending)

abbrev DeviceRun : Memory → Memory → Prop := ReflTransGen DeviceStep

/-- Every wire, with its line, follows the registers behind it. -/
structure DevicesCurrent (memory : Memory) : Prop where
  clint : ClintCurrent memory
  outputs : OutputsCurrent memory
  gateway : ∃ gateway, Represents memory gateway
  rings : (uartView memory).RingsValid

/-- The devices stay current, and the mirror of `stimecmp` stays. -/
structure DevicesKept (before after : Memory) : Prop where
  layout : after.layout = before.layout
  current : DevicesCurrent before → DevicesCurrent after
  mirror : DevicesCurrent before → readStimecmpMirror after = readStimecmpMirror before

variable {memory middle after : Memory} {ids : List String}

theorem DevicesKept.trans (first : DevicesKept memory middle) (second : DevicesKept middle after) :
    DevicesKept memory after where
  layout := second.layout.trans first.layout
  current := second.current ∘ first.current
  mirror current := (second.mirror (first.current current)).trans (first.mirror current)

/-- What the PLIC is shown of a change in other slabs. -/
theorem DeviceMoved.elsewhere {mask : BitVec 32} (moved : DeviceMoved ids mask memory after)
    (other : plicRegionId ∉ ids) (kept : ∀ context, contextIrqLevel context &&& mask = contextIrqLevel context) :
    PlicStep memory after := by
  refine .elsewhere memory after (moved.changes.mono fun position inside own => ?_)
    fun context => moved.lines.line (kept context)
  have apart := inside.apart memory.layout.plicFound other
  simp only [InPlic, plicHostByteLength] at own
  simp only [MappedRegion.toRegion, memory.layout.plicLength, plicHostByteLength] at apart
  omega

/-- A change outside the PLIC that keeps its lines, in slabs the CLINT judges by itself. -/
theorem DevicesCurrent.of_clint (current : DevicesCurrent memory) (kept : ClintKept memory after)
    (step : PlicStep memory after) (rings : (uartView after).RingsValid) : DevicesCurrent after where
  clint := kept.current
  outputs := outputs_step step current.outputs
  gateway := represents_step step current.gateway
  rings := rings

theorem ChangesOnly.lines (changes : ChangesOnly (InRegions memory.layout ids) memory after)
    (other : irqLevelRegionId ∉ ids) (mask : BitVec 32) : DeviceMoved ids mask memory after :=
  ⟨changes, .of_changes changes other⟩

/-- A change in slabs that hold no wire. -/
theorem devicesKept_wireless (changes : ChangesOnly (InRegions memory.layout ids) memory after)
    (apart : ∀ id ∈ [clintRegionId, plicRegionId, irqLevelRegionId], id ∉ ids)
    (rings : (uartView memory).RingsValid → (uartView after).RingsValid) : DevicesKept memory after := by
  have clint := apart clintRegionId (by decide)
  have plic := apart plicRegionId (by decide)
  have word := apart irqLevelRegionId (by decide)
  have step : PlicStep memory after := (changes.lines word plicLines).elsewhere plic fun context => by
    cases context <;> decide
  exact {
    layout := changes.layout
    current := fun current =>
      current.of_clint (current.clint.elsewhere changes clint word) step (rings current.rings)
    mirror := fun current => (current.clint.elsewhere changes clint word).mirror }

/-- A step of the CLINT. -/
theorem devicesKept_clint (moved : DevicesCurrent memory → ClintMoved memory after)
    (kept : DevicesCurrent memory → ClintKept memory after) (layout : after.layout = memory.layout) :
    DevicesKept memory after where
  layout := layout
  current current := by
    have changed := moved current
    have step : PlicStep memory after := changed.elsewhere (by decide) fun context => by cases context <;> decide
    have view : uartView after = uartView memory := uartView_changes changed.changes (by decide)
    exact current.of_clint (kept current) step (view ▸ current.rings)
  mirror current := (kept current).mirror

/-- A step of the PLIC. -/
theorem devicesKept_plic (moved : PlicMoved memory after) (outputs : OutputsCurrent memory → OutputsCurrent after)
    (gateway : (∃ gateway, Represents memory gateway) → ∃ gateway, Represents after gateway) :
    DevicesKept memory after where
  layout := moved.layout
  current current := {
    clint := (current.clint.others_moved moved (by decide)).current
    outputs := outputs current.outputs
    gateway := gateway current.gateway
    rings := by
      have view : uartView after = uartView memory := uartView_changes moved.changes (by decide)
      exact view ▸ current.rings }
  mirror current := (current.clint.others_moved moved (by decide)).mirror

theorem devicesKept_plicStep (moved : PlicMoved memory after) (step : PlicStep memory after) :
    DevicesKept memory after :=
  devicesKept_plic moved (outputs_step step) (represents_step step)

/-- One step of any device keeps all of them current. -/
theorem DeviceStep.kept (step : DeviceStep memory after) : DevicesKept memory after := by
  cases step with
  | plain changes =>
    refine devicesKept_wireless changes (by decide) fun rings => ?_
    have view : uartView after = uartView memory := uartView_changes changes (by decide)
    exact view ▸ rings
  | uart changes rings => exact devicesKept_wireless changes (by decide) rings
  | drive source level => exact devicesKept_plicStep (setPlicSourcePending_moved source level) (.drive memory source level)
  | claim context => exact devicesKept_plicStep (claimPlicSource_moved context) (.claim memory context)
  | plicStore stored =>
    exact devicesKept_plic stored.moved stored.current fun ⟨_, represents⟩ => stored.represents represents
  | tick ticked =>
    refine devicesKept_clint (fun _ => tickClint_clintMoved ticked) (fun current => ?_)
      (tickClint_clintMoved ticked).layout
    obtain ⟨reached, same, kept⟩ := tickClint_kept current.clint
    obtain rfl := Except.ok.inj (ticked.symm.trans same)
    exact kept
  | timeStore register byteOffset source byteLength stored =>
    refine devicesKept_clint (fun current => storeClintTimeBytes_clintMoved current.clint.frequency stored)
      (fun current => ?_) (storeClintTimeBytesLoop_confined 1 memory stored).layout
    obtain ⟨reached, same, kept⟩ := storeClintTimeBytes_kept current.clint register byteOffset source byteLength
    obtain rfl := Except.ok.inj (stored.symm.trans same)
    exact kept
  | software pending =>
    exact devicesKept_clint (fun _ => setClintMachineSoftwareWire_moved pending)
      (fun current => setClintMachineSoftwareWire_kept current.clint.frequency current.clint.timers pending)
      (setClintMachineSoftwareWire_moved pending).layout

/-- So does every run of such steps. -/
theorem DeviceRun.kept (run : DeviceRun memory after) : DevicesKept memory after := by
  induction run with
  | refl => exact ⟨rfl, id, fun _ => rfl⟩
  | tail _ step ih => exact ih.trans step.kept

end YaRiscV.Emulator
