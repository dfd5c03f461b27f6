import YaRiscV.Emulator.Clint.Compare
import YaRiscV.Emulator.MonitorOperations
import YaRiscV.Emulator.Cpu.SampleDevicePending
import YaRiscV.Emulator.Machine

/-! The compare results a hart and the CLINT cache: wires, lines of the aggregate word, the
published compare value and the bits of `mip`, over runs of whole operations. -/

namespace YaRiscV.Emulator

open YaRiscV.Library YaRiscV.Utils Relation

variable {memory after : Memory} {registers : Registers}

/-- Bytes outside the CLINT and the aggregate word do not matter to the CLINT. -/
theorem ClintCurrent.elsewhere (current : ClintCurrent memory)
    (changes : ChangesOnly (InRegions memory.layout ids) memory after) (clint : clintRegionId ∉ ids)
    (irqLevel : irqLevelRegionId ∉ ids) : ClintKept memory after := by
  have layout := changes.layout
  have slab (position : Nat) (low : memory.layout.clint.hostIndex ≤ position)
      (high : position < memory.layout.clint.hostIndex + 48) : after.bytes position = memory.bytes position := by
    refine changes.bytes _ fun inside => ?_
    have apart := inside.apart memory.layout.clintFound clint
    simp only [MappedRegion.toRegion, memory.layout.clintLength, clintHostByteLength] at apart
    omega
  have word (element : Nat) (real : element < 6) :
      after.load64 (clintHostUint64 after element) = memory.load64 (clintHostUint64 memory element) := by
    rw [clintHostUint64, clintHostUint64, layout]
    exact Memory.load64_congr fun offset small => slab _ (by omega) (by omega)
  have line : loadIrqLevel after = loadIrqLevel memory := by
    rw [loadIrqLevel, loadIrqLevel, layout]
    refine changes.load32 fun offset small inside => ?_
    have apart := inside.apart memory.layout.irqLevelFound irqLevel
    simp only [irqLevelHostByteLength] at apart
    omega
  have wire (offset : Nat) (small : offset < 48) :
      after.bytes (clintByteIndex memory offset) = memory.bytes (clintByteIndex memory offset) :=
    slab _ (Nat.le_add_right _ _) (Nat.add_lt_add_left small _)
  have index (offset : Nat) : clintByteIndex after offset = clintByteIndex memory offset := by
    rw [clintByteIndex, clintByteIndex, layout]
  have driven {offset : Nat} (small : offset < 48) {pending : Bool} {levelBit : BitVec 32}
      (before : WireDriven memory (clintByteIndex memory offset) pending levelBit) :
      WireDriven after (clintByteIndex after offset) pending levelBit := by
    rw [index]
    exact ⟨(wire offset small).trans before.wire, by rw [line]; exact before.line⟩
  have mtime : readTimeRegister after .mtime = readTimeRegister memory .mtime := word 0 (by decide)
  have mtimecmp : readTimeRegister after .mtimecmp = readTimeRegister memory .mtimecmp := word 1 (by decide)
  have mirror : readStimecmpMirror after = readStimecmpMirror memory := word 5 (by decide)
  have frequency : readTimebaseHz after = readTimebaseHz memory := word 4 (by decide)
  refine ⟨layout, ⟨by rw [frequency]; exact current.frequency, ⟨?_, ?_⟩, ?_⟩, mirror⟩
  · rw [mtime, mtimecmp]
    exact driven (by decide) current.timers.machine
  · rw [mtime, mirror]
    exact driven (by decide) current.timers.supervisor
  · exact current.software.of_same layout (wire _ (by decide)) (by rw [line])

/-- A guest store in the CLINT window completes, with the wires in step. -/
theorem storeBytes_clint_kept (current : ClintCurrent memory) (address source : Bytes8) (byteLength : Nat)
    (resolved : resolveGuestAddressToRegionAndOffset memory.layout.table address = some (clintRegionId, offset)) :
    ∃ after, storeBytes memory address source byteLength = .ok after ∧ ClintKept memory after := by
  have opened := storeBytes_opens memory address byteLength
  have ready := current.elsewhere opened (by decide) (by decide)
  obtain ⟨written, stored, kept⟩ := storeBytesToClint_kept ready.current offset source byteLength
  have region : storeBytesToRegion (invalidateOverlappingReservationsLocked (acquireMonitorLock memory) address
      byteLength) address source byteLength = .ok written := by
    rw [storeBytesToRegion, opened.layout, resolved]
    exact stored
  refine ⟨_, by rw [storeBytes]; simp only [region]; rfl, ?_⟩
  exact (ready.trans kept).trans (kept.current.elsewhere (storeBytes_closes written) (by decide) (by decide))

/-- What a sample pass publishes: `stimecmp`, or all-ones while STCE is clear. -/
def publishedCompare (registers : Registers) : Bytes8 :=
  if isSupervisorTimerCompareEnabled registers then registers.controlAndStatus Csr.stimecmp
  else stimecmpDisabledBytes

/-- A hart and a CLINT whose caches agree. -/
structure HartClintCurrent (registers : Registers) (memory : Memory) : Prop where
  clint : ClintCurrent memory
  mirror : readStimecmpMirror memory = registers.publishedSupervisorTimerCompare

theorem publishSupervisorTimerCompare_moved (current : HartClintCurrent registers memory) :
    MirrorMoved memory (publishSupervisorTimerCompare registers memory).2 (publishedCompare registers) ∧
      (publishSupervisorTimerCompare registers memory).1 =
        { registers with publishedSupervisorTimerCompare := publishedCompare registers } := by
  have unfolded : publishSupervisorTimerCompare registers memory =
      if compareUnsignedBytes registers.publishedSupervisorTimerCompare (publishedCompare registers) = 0 then
        (registers, memory)
      else ({ registers with publishedSupervisorTimerCompare := publishedCompare registers },
        setClintStimecmpMirror memory (publishedCompare registers)) := rfl
  rw [unfolded]
  by_cases same : registers.publishedSupervisorTimerCompare = publishedCompare registers
  · rw [if_pos ((compareUnsignedBytes_eq_zero _ _).mpr same), ← same]
    refine ⟨?_, rfl⟩
    rw [← current.mirror]
    exact current.clint.stay
  · rw [if_neg fun equal => same ((compareUnsignedBytes_eq_zero _ _).mp equal)]
    exact ⟨setClintStimecmpMirror_moved current.clint _, rfl⟩

theorem ClintCurrent.machine_pending (current : ClintCurrent memory) : isClintMachineTimerPending memory =
    decide (readTimeRegister memory .mtime ≥ readTimeRegister memory .mtimecmp) := by
  rw [isClintMachineTimerPending, current.timers.machine.wire]
  cases decide (readTimeRegister memory .mtime ≥ readTimeRegister memory .mtimecmp) <;> rfl

theorem ClintCurrent.supervisor_pending (current : ClintCurrent memory) : isClintSupervisorTimerPending memory =
    decide (readTimeRegister memory .mtime ≥ readStimecmpMirror memory) := by
  rw [isClintSupervisorTimerPending, current.timers.supervisor.wire]
  cases decide (readTimeRegister memory .mtime ≥ readStimecmpMirror memory) <;> rfl

def mtipBit : Nat := 7
def msipBit : Nat := 3
def stipBit : Nat := 5

/-- The `mip` bits after a sample pass. -/
structure TimerBitsSampled (registers : Registers) (memory : Memory) : Prop where
  mtip : (registers.controlAndStatus Csr.mip).getLsbD mtipBit = isClintMachineTimerPending memory
  msip : (registers.controlAndStatus Csr.mip).getLsbD msipBit = isClintMachineSoftwarePending memory
  stip : isSupervisorTimerCompareEnabled registers = true →
    ((registers.controlAndStatus Csr.mip).getLsbD stipBit = true ↔
      readTimeRegister memory .mtime ≥ registers.controlAndStatus Csr.stimecmp)

/-- The pending bits the first two sampled wires leave. -/
def machineWiresSampled (registers : Registers) (memory : Memory) : Registers :=
  setMachineSoftwareInterruptPending
    (setMachineTimerInterruptPending registers (isClintMachineTimerPending memory))
    (isClintMachineSoftwarePending memory)

theorem sampleDevicePending_memory (registers : Registers) (memory : Memory) :
    (sampleDevicePending registers memory).2 =
      (publishSupervisorTimerCompare (machineWiresSampled registers memory) memory).2 := rfl

theorem sampleDevicePending_published (registers : Registers) (memory : Memory) :
    (sampleDevicePending registers memory).1.publishedSupervisorTimerCompare =
      (publishSupervisorTimerCompare (machineWiresSampled registers memory) memory).1.publishedSupervisorTimerCompare := by
  simp only [sampleDevicePending, setSupervisorTimerInterruptPending]
  split <;> rfl

theorem setMipBits_low (registers : Registers) (byteIndex : Nat) (mask : BitVec 8) (pending : Bool) (low : bit < 8) :
    ((setMipBits registers byteIndex mask pending).controlAndStatus Csr.mip).getLsbD bit =
      if 0 = byteIndex ∧ mask.getLsbD bit = true then pending
      else (registers.controlAndStatus Csr.mip).getLsbD bit := by
  rw [setMipBits, setSlot_controlAndStatus, if_pos rfl, getLsbD_setBits _ _ _ _ (by omega), Nat.div_eq_of_lt low,
    Nat.mod_eq_of_lt low]

/-- The low byte of `mip` after a sample pass. -/
theorem getLsbD_sampledMip (current : HartClintCurrent registers memory) (low : bit < 8) :
    ((sampleDevicePending registers memory).1.controlAndStatus Csr.mip).getLsbD bit =
      if isSupervisorTimerCompareEnabled registers = true ∧ mipByte0Stip.getLsbD bit = true then
        isClintSupervisorTimerPending (sampleDevicePending registers memory).2
      else if mipByte0Msip.getLsbD bit = true then isClintMachineSoftwarePending memory
      else if mipByte0Mtip.getLsbD bit = true then isClintMachineTimerPending memory
      else (registers.controlAndStatus Csr.mip).getLsbD bit := by
  have sampled : HartClintCurrent (machineWiresSampled registers memory) memory := ⟨current.clint, current.mirror⟩
  obtain ⟨_, published⟩ := publishSupervisorTimerCompare_moved sampled
  have machine : ((publishSupervisorTimerCompare (machineWiresSampled registers memory) memory).1.controlAndStatus
      Csr.mip).getLsbD bit =
        if mipByte0Msip.getLsbD bit = true then isClintMachineSoftwarePending memory
        else if mipByte0Mtip.getLsbD bit = true then isClintMachineTimerPending memory
        else (registers.controlAndStatus Csr.mip).getLsbD bit := by
    rw [published]
    refine (setMipBits_low _ _ _ _ low).trans ?_
    rw [setMachineTimerInterruptPending, setMipBits_low _ _ _ _ low]
    simp only [true_and]
  have enabled : isSupervisorTimerCompareEnabled
      (publishSupervisorTimerCompare (machineWiresSampled registers memory) memory).1 =
        isSupervisorTimerCompareEnabled registers := by
    rw [published]
    rfl
  have external : (sampleDevicePending registers memory).1.controlAndStatus Csr.mip =
      (setMipBits (setSupervisorTimerInterruptPending
        (publishSupervisorTimerCompare (machineWiresSampled registers memory) memory).1
        (isClintSupervisorTimerPending (sampleDevicePending registers memory).2)) 1 mipByte1Meip
        (isPlicMachineExternalPending (sampleDevicePending registers memory).2)).controlAndStatus Csr.mip := rfl
  rw [external, setMipBits_low _ _ _ _ low, if_neg fun high => absurd high.1 (by decide),
    setSupervisorTimerInterruptPending, enabled]
  cases isSupervisorTimerCompareEnabled registers with
  | false => simpa using machine
  | true =>
    rw [Bool.not_true, if_neg Bool.false_ne_true, setMipBits_low _ _ _ _ low, machine]
    simp only [true_and]

/-- A sample pass leaves the caches agreeing and the pending bits showing them. -/
theorem sampleDevicePending_current (current : HartClintCurrent registers memory) :
    HartClintCurrent (sampleDevicePending registers memory).1 (sampleDevicePending registers memory).2 ∧
      TimerBitsSampled (sampleDevicePending registers memory).1 (sampleDevicePending registers memory).2 := by
  have sampled : HartClintCurrent (machineWiresSampled registers memory) memory := ⟨current.clint, current.mirror⟩
  obtain ⟨moved, published⟩ := publishSupervisorTimerCompare_moved sampled
  rw [← sampleDevicePending_memory] at moved
  have slots := (sampleDevicePending_sampledFrom registers memory).slots
  have menvcfg : (sampleDevicePending registers memory).1.controlAndStatus Csr.menvcfg =
      registers.controlAndStatus Csr.menvcfg := slots Csr.menvcfg (by decide)
  have stimecmp : (sampleDevicePending registers memory).1.controlAndStatus Csr.stimecmp =
      registers.controlAndStatus Csr.stimecmp := slots Csr.stimecmp (by decide)
  refine ⟨⟨moved.current, ?_⟩, ?_, ?_, ?_⟩
  · rw [sampleDevicePending_published, published, moved.mirror]
  · rw [getLsbD_sampledMip current (by decide), if_neg fun both => absurd both.2 (by decide), if_neg (by decide),
      if_pos (by decide), moved.current.machine_pending, moved.mtime, moved.mtimecmp, ← current.clint.machine_pending]
  · rw [getLsbD_sampledMip current (by decide), if_neg fun both => absurd both.2 (by decide), if_pos (by decide),
      moved.software]
  · intro enabled
    have before : isSupervisorTimerCompareEnabled registers = true := by
      rw [isSupervisorTimerCompareEnabled, menvcfg] at enabled
      exact enabled
    have compare : publishedCompare (machineWiresSampled registers memory) = registers.controlAndStatus Csr.stimecmp :=
      if_pos before
    rw [getLsbD_sampledMip current (by decide), if_pos ⟨before, by decide⟩, moved.current.supervisor_pending,
      decide_eq_true_eq, moved.mirror, compare, stimecmp]

/-- One whole operation, by any worker and at any readings of the host clock. -/
inductive HartClintStep : Registers × Memory → Registers × Memory → Prop
  | store (registers : Registers) (memory : Memory) (worker : Worker) (address source : Bytes8) (byteLength : Nat)
      (resolved : resolveGuestAddressToRegionAndOffset memory.layout.table address = some (clintRegionId, offset))
      (stored : storeBytes { memory with worker } address source byteLength = .ok written) :
      HartClintStep (registers, memory) (registers, written)
  | tick (registers : Registers) (memory : Memory) (worker : Worker)
      (ticked : tickClint { memory with worker } = .ok advanced) :
      HartClintStep (registers, memory) (registers, advanced)
  | writeCsr (registers : Registers) (memory : Memory) (index : BitVec 12) (value : Bytes8)
      (timer : index = Csr.stimecmp ∨ index = Csr.menvcfg) :
      HartClintStep (registers, memory) (writeControlAndStatusRegister registers index value, memory)
  | sample (registers : Registers) (memory : Memory) (worker : Worker) :
      HartClintStep (registers, memory) (sampleDevicePending registers { memory with worker })

/-- Another worker, or other readings of the clock, see the same CLINT. -/
theorem HartClintCurrent.worker (current : HartClintCurrent registers memory) (worker : Worker) :
    HartClintCurrent registers { memory with worker } := by
  have same : ChangesOnly (InRegions memory.layout []) memory { memory with worker } := ⟨rfl, fun _ _ => rfl⟩
  have kept := current.clint.elsewhere same List.not_mem_nil List.not_mem_nil
  exact ⟨kept.current, kept.mirror.trans current.mirror⟩

theorem HartClintCurrent.kept (current : HartClintCurrent registers memory) (kept : ClintKept memory after) :
    HartClintCurrent registers after :=
  ⟨kept.current, kept.mirror.trans current.mirror⟩

theorem hartClint_initial {timebaseHz : Int} (initialized : initializeClint memory timebaseHz = .ok after) :
    HartClintCurrent createRegisters after := by
  obtain ⟨current, mirror⟩ := initializeClint_current initialized
  exact ⟨current, mirror⟩

theorem HartClintStep.current {before after : Registers × Memory} (current : HartClintCurrent before.1 before.2)
    (step : HartClintStep before after) : HartClintCurrent after.1 after.2 := by
  cases step with
  | store registers memory worker address source byteLength resolved stored =>
    have viewed := HartClintCurrent.worker current worker
    obtain ⟨_, completed, kept⟩ := storeBytes_clint_kept viewed.clint address source byteLength resolved
    cases stored.symm.trans completed
    exact viewed.kept kept
  | tick registers memory worker ticked =>
    have viewed := HartClintCurrent.worker current worker
    obtain ⟨_, completed, kept⟩ := tickClint_kept viewed.clint
    cases ticked.symm.trans completed
    exact viewed.kept kept
  | writeCsr registers memory index value timer =>
    obtain ⟨file, same⟩ : SlotsOnly registers _ := writeControlAndStatusRegister_slotsOnly index value
    refine ⟨current.clint, ?_⟩
    rw [same]
    exact current.mirror
  | sample registers memory worker =>
    exact (sampleDevicePending_current (HartClintCurrent.worker current worker)).1

theorem hartClint_run {before after : Registers × Memory} (current : HartClintCurrent before.1 before.2)
    (run : ReflTransGen HartClintStep before after) : HartClintCurrent after.1 after.2 := by
  induction run with
  | refl => exact current
  | tail _ step ih => exact step.current ih

/-- The four copies of each comparison agree. -/
structure TimerWiresExact (registers : Registers) (memory : Memory) : Prop where
  machine : isClintMachineTimerPending memory = true ↔
    readTimeRegister memory .mtime ≥ readTimeRegister memory .mtimecmp
  supervisor : isClintSupervisorTimerPending memory = true ↔
    readTimeRegister memory .mtime ≥ readStimecmpMirror memory
  mtip : loadIrqLevel memory &&& irqLevelMtip = if isClintMachineTimerPending memory then irqLevelMtip else 0
  stip : loadIrqLevel memory &&& irqLevelStip = if isClintSupervisorTimerPending memory then irqLevelStip else 0
  msip : loadIrqLevel memory &&& irqLevelMsip = if isClintMachineSoftwarePending memory then irqLevelMsip else 0
  published : readStimecmpMirror memory = registers.publishedSupervisorTimerCompare

theorem HartClintCurrent.exact (current : HartClintCurrent registers memory) : TimerWiresExact registers memory := by
  constructor
  · rw [current.clint.machine_pending, decide_eq_true_eq]
  · rw [current.clint.supervisor_pending, decide_eq_true_eq]
  · rw [current.clint.machine_pending]
    exact current.clint.timers.machine.line
  · rw [current.clint.supervisor_pending]
    exact current.clint.timers.supervisor.line
  · exact current.clint.software.line
  · exact current.mirror

/-- After every whole operation the wires, the lines and the published value agree with the
registers, and a sample pass shows them in `mip`. -/
theorem clint_wires_exact {booted : Memory} {timebaseHz : Int} {state : Registers × Memory}
    (initialized : initializeClint memory timebaseHz = .ok booted)
    (run : ReflTransGen HartClintStep (createRegisters, booted) state) :
    TimerWiresExact state.1 state.2 ∧ ∀ worker,
      TimerBitsSampled (sampleDevicePending state.1 { state.2 with worker }).1
        (sampleDevicePending state.1 { state.2 with worker }).2 := by
  have current := hartClint_run (hartClint_initial initialized) run
  exact ⟨current.exact, fun worker => (sampleDevicePending_current (current.worker worker)).2⟩

/-- A worker whose host clock shows a millisecond. -/
def millisecondWorker : Worker := ⟨0, false, 0, fun _ => 1000000⟩

/-- A hart that asks for its own timer at 7 ticks. -/
def compareEnabled : Registers :=
  writeControlAndStatusRegister (writeControlAndStatusRegister createRegisters Csr.menvcfg (1 <<< 63)) Csr.stimecmp 7

/-- At 10 MHz the guest asks for the machine timer at 5 ticks, and the timer ticks after a
millisecond: whether a sample then shows both timers pending. -/
def bothTimersFire : Bool :=
  match initializeClint defaultMemory 10000000 with
  | .error _ => false
  | .ok booted =>
    match storeBytes { booted with worker := millisecondWorker } 0x2004000 5 8 with
    | .error _ => false
    | .ok armed =>
      match tickClint { armed with worker := millisecondWorker } with
      | .error _ => false
      | .ok ticked =>
        let sampled := sampleDevicePending compareEnabled { ticked with worker := millisecondWorker }
        decide (resolveGuestAddressToRegionAndOffset booted.layout.table 0x2004000 = some (clintRegionId, 0x4000)) &&
          isClintMachineTimerPending sampled.2 && isClintSupervisorTimerPending sampled.2 &&
          !isClintMachineTimerPending armed && (sampled.1.controlAndStatus Csr.mip).getLsbD mtipBit &&
          (sampled.1.controlAndStatus Csr.mip).getLsbD stipBit

/-- Both timers fire, and the wires, the lines and the bits of `mip` say so. -/
theorem clint_wires_exact_fired : ∃ booted state, initializeClint defaultMemory 10000000 = .ok booted ∧
    ReflTransGen HartClintStep (createRegisters, booted) state ∧
    isClintMachineTimerPending state.2 = true ∧ isClintSupervisorTimerPending state.2 = true ∧
    TimerWiresExact state.1 state.2 ∧ ∀ worker,
      TimerBitsSampled (sampleDevicePending state.1 { state.2 with worker }).1
        (sampleDevicePending state.1 { state.2 with worker }).2 := by
  have fires : bothTimersFire = true := by decide +kernel
  unfold bothTimersFire at fires
  split at fires
  · cases fires
  rename_i booted initialized
  split at fires
  · cases fires
  rename_i armed stored
  split at fires
  · cases fires
  rename_i ticked advanced
  simp only [Bool.and_eq_true, and_assoc, decide_eq_true_eq] at fires
  obtain ⟨resolved, machine, supervisor, _⟩ := fires
  have writes : ReflTransGen HartClintStep (createRegisters, booted) (compareEnabled, booted) :=
    (ReflTransGen.single (.writeCsr _ _ Csr.menvcfg (1 <<< 63) (.inr rfl))).tail
      (.writeCsr _ _ Csr.stimecmp 7 (.inl rfl))
  have stores := writes.tail (.store _ _ millisecondWorker _ _ _ resolved stored)
  have run := (stores.tail (.tick _ _ millisecondWorker advanced)).tail (.sample _ _ millisecondWorker)
  exact ⟨booted, _, initialized, run, machine, supervisor, clint_wires_exact initialized run⟩

end YaRiscV.Emulator
