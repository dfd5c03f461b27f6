import YaRiscV.Emulator.Cpu.TimerWires
import YaRiscV.Emulator.MonitorRelease
import YaRiscV.Emulator.Plic.OutputInvariant

/-! The lines of the aggregate word by device: the CLINT moves three of them, the PLIC the two
others, and neither needs more of the other than that. -/

namespace YaRiscV.Emulator

open YaRiscV.Library YaRiscV.Utils

/-- The lines of the CLINT: both timers and the software interrupt. -/
def clintLines : BitVec 32 := irqLevelMtip ||| irqLevelStip ||| irqLevelMsip

/-- The lines of the PLIC's contexts. -/
def plicLines : BitVec 32 := irqLevelMeip ||| irqLevelSeip

/-- The lines of `mask` are published as before. -/
def LinesKept (mask : BitVec 32) (before after : Memory) : Prop :=
  loadIrqLevel after &&& mask = loadIrqLevel before &&& mask

/-- A change within the slabs of `ids` and the aggregate word that keeps the lines of `mask`. -/
structure DeviceMoved (ids : List String) (mask : BitVec 32) (before after : Memory) : Prop where
  changes : ChangesOnly (InRegions before.layout ids) before after
  lines : LinesKept mask before after

abbrev ClintMoved : Memory → Memory → Prop := DeviceMoved clintReach plicLines
abbrev PlicMoved : Memory → Memory → Prop := DeviceMoved plicReach clintLines

variable {memory middle after : Memory} {ids : List String} {mask : BitVec 32}

namespace LinesKept

theorem trans (first : LinesKept mask memory middle) (second : LinesKept mask middle after) :
    LinesKept mask memory after := Eq.trans second first

/-- A line among those kept is kept. -/
theorem line (kept : LinesKept mask memory after) {levelBit : BitVec 32} (member : levelBit &&& mask = levelBit) :
    loadIrqLevel after &&& levelBit = loadIrqLevel memory &&& levelBit := by
  have through (word : BitVec 32) : word &&& levelBit = word &&& mask &&& levelBit := by
    rw [BitVec.and_assoc, BitVec.and_comm mask levelBit, member]
  rw [through, kept, ← through]

theorem of_changes (changes : ChangesOnly (InRegions memory.layout ids) memory after)
    (other : irqLevelRegionId ∉ ids) : LinesKept mask memory after := by
  refine congrArg (· &&& mask) (loadIrqLevel_frame changes fun position inside word => ?_)
  have apart := inside.apart memory.layout.irqLevelFound other
  rw [InIrqLevel] at word
  simp only [irqLevelHostByteLength] at apart
  omega

/-- Driving another line keeps these. -/
theorem setIrqWire {hostByteIndex : Nat} {pending : Bool} {levelBit : BitVec 32}
    (apart : ¬ InIrqLevel memory.layout hostByteIndex) (other : levelBit &&& mask = 0) :
    LinesKept mask memory (setIrqWire memory hostByteIndex pending levelBit) := by
  have none : levelBit &&& mask = BitVec.ofNat 32 0 := other
  have rest : ~~~levelBit &&& mask = mask := by
    apply BitVec.eq_of_getLsbD_eq
    intro bit inside
    have unset : (levelBit.getLsbD bit && mask.getLsbD bit) = false := by
      rw [← BitVec.getLsbD_and, none, BitVec.getLsbD_zero]
    rw [BitVec.getLsbD_and, BitVec.getLsbD_not, decide_eq_true inside, Bool.true_and]
    cases low : levelBit.getLsbD bit with
    | false => rfl
    | true =>
      rw [low, Bool.true_and] at unset
      rw [unset, Bool.and_false]
  rw [LinesKept, loadIrqLevel_setIrqWire apart]
  split
  · rw [BitVec.and_comm, BitVec.and_or_distrib_left, BitVec.and_comm mask levelBit, none, BitVec.or_zero,
      BitVec.and_comm]
  · rw [BitVec.and_assoc, rest]

end LinesKept

namespace DeviceMoved

theorem layout (moved : DeviceMoved ids mask memory after) : after.layout = memory.layout := moved.changes.layout

theorem refl : DeviceMoved ids mask memory memory := ⟨.refl, rfl⟩

theorem trans (first : DeviceMoved ids mask memory middle) (second : DeviceMoved ids mask middle after) :
    DeviceMoved ids mask memory after where
  changes := first.changes.trans (first.layout ▸ second.changes)
  lines := first.lines.trans second.lines

/-- A write into a slab only. -/
theorem of_confined {own : List String} (confined : Confined own memory after) (within : own ⊆ ids)
    (other : irqLevelRegionId ∉ own) : DeviceMoved ids mask memory after :=
  ⟨(confined.mono within).changes, .of_changes confined.changes other⟩

theorem setIrqWire (wire : InRegions memory.layout ids index) (member : irqLevelRegionId ∈ ids)
    (apart : ¬ InIrqLevel memory.layout index) {pending : Bool} {levelBit : BitVec 32}
    (other : levelBit &&& mask = 0) : DeviceMoved ids mask memory (setIrqWire memory index pending levelBit) :=
  ⟨(Confined.setIrqWire wire member pending levelBit).changes, .setIrqWire apart other⟩

end DeviceMoved

/-! The CLINT. -/

theorem setClintIrqWire_moved (inside : wireOffset < clintHostByteLength) {pending : Bool} {levelBit : BitVec 32}
    (own : levelBit &&& plicLines = 0) : ClintMoved memory (setClintIrqWire memory wireOffset pending levelBit) :=
  .setIrqWire (inRegions_clint (by decide) inside) (by decide) (clintWire_apart memory.layout wireOffset inside) own

theorem clockChanges_moved (changes : ChangesOnly (InClintClock memory.layout) memory after) :
    ClintMoved memory after := by
  have slab (position : Nat) (inside : InClintClock memory.layout position) :
      ∃ offset < 48, position = memory.layout.clint.hostIndex + offset := by
    refine ⟨position - memory.layout.clint.hostIndex, ?_, ?_⟩ <;> rcases inside with low | high <;> omega
  have clint (ids : List String) (member : clintRegionId ∈ ids) :
      ChangesOnly (InRegions memory.layout ids) memory after := by
    refine changes.mono fun position inside => ?_
    obtain ⟨offset, small, rfl⟩ := slab position inside
    exact inRegions_clint member small
  exact ⟨clint clintReach (by decide), .of_changes (clint [clintRegionId] (by decide)) (by decide)⟩

theorem updateTimerWiresFromCompare_moved (memory : Memory) :
    ClintMoved memory (updateTimerWiresFromCompare memory) := by
  refine ⟨updateTimerWiresFromCompare_confined.changes, ?_⟩
  have kept : LinesKept (~~~timerLines) memory (updateTimerWiresFromCompare memory) := timerWires_line
  have external : LinesKept plicLines memory (updateTimerWiresFromCompare memory) := kept.line (by decide)
  exact external

theorem setClintMachineSoftwareWire_moved (pending : Bool) :
    ClintMoved memory (setClintMachineSoftwareWire memory pending) :=
  setClintIrqWire_moved (by decide) (by decide)

theorem storeClintTimeBytes_clintMoved (set : (readTimebaseHz memory).toNat ≠ 0)
    (stored : storeClintTimeBytes memory register byteOffset source byteLength = .ok after) :
    ClintMoved memory after := by
  obtain ⟨middle, moved, changes⟩ := storeClintTimeBytes_moved set register byteOffset source byteLength
  obtain rfl := Except.ok.inj (stored.symm.trans moved)
  exact (clockChanges_moved changes).trans (updateTimerWiresFromCompare_moved middle)

theorem tickClint_clintMoved (ticked : tickClint memory = .ok after) : ClintMoved memory after := by
  obtain ⟨changes, line, _⟩ := (Ticked.refl memory).tick ticked
  have kept : LinesKept (~~~timerLines) memory after := line
  refine ⟨changes.mono fun position inside => ?_, kept.line (by decide)⟩
  rcases inside with low | rfl | rfl | word
  · obtain ⟨offset, rfl⟩ := Nat.exists_eq_add_of_le low.1
    exact inRegions_clint (by decide) (by rw [clintHostByteLength]; omega)
  · exact inRegions_clint (by decide) (by decide)
  · exact inRegions_clint (by decide) (by decide)
  · exact inRegions_irqLevel (by decide) word

/-- The CLINT does not see what the others do to their slabs and lines. -/
theorem ClintCurrent.others_moved (current : ClintCurrent memory) (moved : DeviceMoved ids clintLines memory after)
    (clint : clintRegionId ∉ ids) : ClintKept memory after := by
  have layout := moved.layout
  have slab (position : Nat) (low : memory.layout.clint.hostIndex ≤ position)
      (high : position < memory.layout.clint.hostIndex + 48) : after.bytes position = memory.bytes position := by
    refine moved.changes.bytes _ fun inside => ?_
    have apart := inside.apart memory.layout.clintFound clint
    simp only [MappedRegion.toRegion, memory.layout.clintLength, clintHostByteLength] at apart
    omega
  have word (element : Nat) (real : element < 6) :
      after.load64 (clintHostUint64 after element) = memory.load64 (clintHostUint64 memory element) := by
    rw [clintHostUint64, clintHostUint64, layout]
    exact Memory.load64_congr fun offset small => slab _ (by omega) (by omega)
  have wire (offset : Nat) (small : offset < 48) :
      after.bytes (clintByteIndex memory offset) = memory.bytes (clintByteIndex memory offset) :=
    slab _ (Nat.le_add_right _ _) (Nat.add_lt_add_left small _)
  have driven {offset : Nat} (small : offset < 48) {pending : Bool} {levelBit : BitVec 32}
      (own : levelBit &&& clintLines = levelBit)
      (before : WireDriven memory (clintByteIndex memory offset) pending levelBit) :
      WireDriven after (clintByteIndex after offset) pending levelBit := by
    rw [clintByteIndex, layout]
    exact ⟨(wire offset small).trans before.wire, (moved.lines.line own).trans before.line⟩
  have mtime : readTimeRegister after .mtime = readTimeRegister memory .mtime := word 0 (by decide)
  have mtimecmp : readTimeRegister after .mtimecmp = readTimeRegister memory .mtimecmp := word 1 (by decide)
  have mirror : readStimecmpMirror after = readStimecmpMirror memory := word 5 (by decide)
  have frequency : readTimebaseHz after = readTimebaseHz memory := word 4 (by decide)
  refine ⟨layout, ⟨by rw [frequency]; exact current.frequency, ⟨?_, ?_⟩, ?_⟩, mirror⟩
  · rw [mtime, mtimecmp]
    exact driven (by decide) (by decide) current.timers.machine
  · rw [mtime, mirror]
    exact driven (by decide) (by decide) current.timers.supervisor
  · exact current.software.of_same layout (wire _ (by decide)) (moved.lines.line (by decide))

/-! The PLIC. -/

theorem plicSlab_moved (changes : ChangesOnly (InRegions memory.layout [plicRegionId]) memory after) :
    PlicMoved memory after where
  changes := changes.mono fun _ inside => by
    obtain ⟨id, member, found⟩ := inside
    exact ⟨id, List.mem_of_mem_head? (by rw [List.mem_singleton.mp member]; rfl), found⟩
  lines := .of_changes changes (by decide)

theorem setPlicContextWire_moved : PlicMoved memory (setPlicContextWire memory context pending) := by
  have wire : contextWireOffset context < plicHostByteLength := by cases context <;> decide
  have own : contextIrqLevel context &&& clintLines = 0 := by cases context <;> decide
  exact .setIrqWire (inRegions_plic (by decide) wire) (by decide) (contextWire_apart memory.layout context) own

theorem refreshContextWire_moved (memory : Memory) (context : PlicContext) :
    PlicMoved memory (refreshContextWire memory context) := setPlicContextWire_moved

theorem refreshAllContextWires_moved (memory : Memory) : PlicMoved memory (refreshAllContextWires memory) :=
  (refreshContextWire_moved memory .machine).trans (refreshContextWire_moved _ .supervisor)

theorem lockChanges_moved (changes : ChangesOnly (InPlicLock memory.layout) memory after) : PlicMoved memory after := by
  refine plicSlab_moved (changes.mono fun position inside => ?_)
  obtain ⟨low, high⟩ := inside
  obtain ⟨offset, rfl⟩ := Nat.exists_eq_add_of_le (Nat.le_trans (Nat.le_add_right _ _) low)
  exact inRegions_plic (by decide) (by omega)

theorem withPlicGatewayLock_moved {run : Memory → Result × Memory}
    (body : PlicMoved (acquirePlicGatewayLock memory) (run (acquirePlicGatewayLock memory)).2) :
    PlicMoved memory (withPlicGatewayLock memory run).2 := by
  have acquired : PlicMoved memory (acquirePlicGatewayLock memory) :=
    lockChanges_moved acquirePlicGatewayLock_changesOnly
  exact (acquired.trans body).trans (lockChanges_moved releasePlicGatewayLock_changesOnly)

theorem storePlicSlab_moved (inside : offset < plicHostByteLength) (value : BitVec 8) :
    PlicMoved memory (memory.store (plicHostIndex memory offset) value) :=
  plicSlab_moved (Confined.store (inRegions_plic (by decide) inside) value).changes

theorem updateSourceBit_moved (inside : hostOffset + 4 ≤ plicHostMeipWireOffset) (valid : isValidSource source = true)
    (value : Bool) : PlicMoved memory (updateSourceBit memory hostOffset source value) := by
  have small : source >>> 3 < 4 := by
    have bounded : source < 32 := isValidSource_lt valid
    rw [Nat.shiftRight_eq_div_pow]
    omega
  rw [updateSourceBit, atomicUpdateBit_eq, plicHostIndexForSourceBit, plicHostIndex, Nat.add_assoc]
  refine storePlicSlab_moved ?_ _
  simp at inside ⊢
  omega

theorem setPlicSourcePending_moved (source : Nat) (level : Bool) :
    PlicMoved memory (setPlicSourcePending memory source level) := by
  simp only [setPlicSourcePending]
  split
  · exact .refl
  · rename_i valid
    simp only [Bool.not_eq_true', Bool.not_eq_false] at valid
    refine withPlicGatewayLock_moved (DeviceMoved.trans ?_ (refreshAllContextWires_moved _))
    have driven : PlicMoved (acquirePlicGatewayLock memory)
        (updateSourceBit (acquirePlicGatewayLock memory) plicHostInputLevel source level) :=
      updateSourceBit_moved (by decide) valid level
    split
    · exact driven.trans (updateSourceBit_moved (by decide) valid false)
    split
    · exact driven.trans (updateSourceBit_moved (by decide) valid true)
    · exact driven

theorem claimPlicSource_moved (context : PlicContext) : PlicMoved memory (claimPlicSource memory context).2 := by
  refine withPlicGatewayLock_moved (DeviceMoved.trans ?_ (refreshAllContextWires_moved _))
  split
  · rename_i selected
    have valid := mem_sources.mp (selectClaimableSource_best selected).member
    exact (updateSourceBit_moved (by decide) valid false).trans
      (updateSourceBit_moved (by cases context <;> decide) valid true)
  · exact .refl

theorem completePlicSource_moved (context : PlicContext) (source : Nat) :
    PlicMoved memory (completePlicSource memory context source) := by
  simp only [completePlicSource]
  split
  · exact .refl
  · rename_i valid
    simp only [Bool.not_eq_true', Bool.not_eq_false] at valid
    refine withPlicGatewayLock_moved ?_
    split
    · exact .refl
    · refine DeviceMoved.trans ?_ (refreshAllContextWires_moved _)
      have given : PlicMoved (acquirePlicGatewayLock memory)
          (updateSourceBit (acquirePlicGatewayLock memory) (claimedByHostOffset context) source false) :=
        updateSourceBit_moved (by cases context <;> decide) valid false
      split
      · exact given.trans (updateSourceBit_moved (by decide) valid true)
      · exact given

theorem PlicHostLocation.Inside.moved {location : PlicHostLocation} (inside : location.Inside) (value : BitVec 8) :
    PlicMoved memory (memory.store (plicHostIndexForLocation memory location) value) := by
  cases location with
  | priority source byteOffset =>
    refine storePlicSlab_moved ?_ value
    simp [PlicHostLocation.Inside] at inside ⊢
    omega
  | pending byteOffset =>
    refine storePlicSlab_moved ?_ value
    simp [PlicHostLocation.Inside] at inside ⊢
    omega
  | enable context byteOffset =>
    refine storePlicSlab_moved ?_ value
    cases context <;>
    · simp [PlicHostLocation.Inside, enableHostOffset] at inside ⊢
      omega
  | threshold context byteOffset =>
    refine storePlicSlab_moved ?_ value
    cases context <;>
    · simp [PlicHostLocation.Inside, thresholdHostOffset] at inside ⊢
      omega

/-- A register stored under the lock. -/
theorem PlicHostLocation.Inside.locked_moved {location : PlicHostLocation} (inside : location.Inside)
    (value : BitVec 8) : PlicMoved (acquirePlicGatewayLock memory)
      ((acquirePlicGatewayLock memory).store (plicHostIndexForLocation memory location) value) := by
  have same : plicHostIndexForLocation memory location =
      plicHostIndexForLocation (acquirePlicGatewayLock memory) location := by
    cases location <;> simp only [plicHostIndexForLocation, plicHostIndex, acquirePlicGatewayLock_layout]
  rw [same]
  exact inside.moved value

theorem PlicByteStore.moved (stored : PlicByteStore memory after) : PlicMoved memory after := by
  cases stored with
  | ignored => exact .refl
  | priority source byteOffset inside value =>
    exact withPlicGatewayLock_moved ((inside.locked_moved value).trans (refreshAllContextWires_moved _))
  | enable context byteOffset inside value =>
    have own : (PlicHostLocation.enable context byteOffset).Inside := inside
    exact withPlicGatewayLock_moved ((own.locked_moved value).trans (refreshContextWire_moved _ context))
  | threshold context byteOffset inside value =>
    have own : (PlicHostLocation.threshold context byteOffset).Inside := inside
    exact withPlicGatewayLock_moved ((own.locked_moved value).trans (refreshContextWire_moved _ context))
  | complete context source valid => exact completePlicSource_moved context source

end YaRiscV.Emulator
