import YaRiscV.Emulator.Cpu.AccessRuns
import YaRiscV.Emulator.Cpu.InterruptOrder
import YaRiscV.Emulator.Cpu.TimerWires

/-! The turns of a hart on a machine whose devices are current: none throws, and each leaves the
devices current, the published compare value with the CLINT, and the monitor free. -/

namespace YaRiscV.Emulator

open YaRiscV.Library YaRiscV.Utils Relation

/-- What a hart and its devices agree on between turns. -/
structure MachineCurrent (registers : Registers) (memory : Memory) : Prop where
  devices : DevicesCurrent memory
  mirror : readStimecmpMirror memory = registers.publishedSupervisorTimerCompare
  idle : MonitorIdle memory

/-- An execution that did not throw, and what it leaves. -/
def LeavesCurrent : Execution → Prop
  | .completed registers memory | .trapped registers memory | .waiting registers memory _ =>
    MachineCurrent registers memory
  | .threw _ => False

/-- The hart counts on the same published compare value. -/
def PublishedKept (before after : Registers) : Prop :=
  after.publishedSupervisorTimerCompare = before.publishedSupervisorTimerCompare

variable {registers before middle after : Registers} {memory stored : Memory} {thunk : ExecuteThunk}

namespace PublishedKept

theorem trans (first : PublishedKept before middle) (second : PublishedKept middle after) :
    PublishedKept before after := Eq.trans second first

theorem generalPurpose (index : BitVec 5) (value : Bytes8) :
    PublishedKept registers (writeGeneralPurposeRegister registers index value) := by
  rw [writeGeneralPurposeRegister]
  split <;> rfl

theorem write (index : BitVec 12) (value : Bytes8) :
    PublishedKept registers (writeControlAndStatusRegister registers index value) := by
  obtain ⟨file, same⟩ : SlotsOnly registers _ := writeControlAndStatusRegister_slotsOnly index value
  rw [same]
  rfl

theorem enterMachineTrap (cause trapValue : Bytes8) :
    PublishedKept registers (enterMachineTrap registers cause trapValue) :=
  (enterMachineTrap_entry registers cause trapValue).flags.2

theorem enterSupervisorTrap (cause trapValue : Bytes8) :
    PublishedKept registers (enterSupervisorTrap registers cause trapValue) :=
  (enterSupervisorTrap_entry registers cause trapValue).flags.2

theorem enterTrap (cause : Nat) (trapValue : Bytes8) :
    PublishedKept registers (enterTrap registers cause trapValue) := by
  have cancelled : PublishedKept registers (cancelInstructionRetire registers) := rfl
  rw [Emulator.enterTrap]
  split
  · exact cancelled.trans (enterSupervisorTrap _ _)
  · exact cancelled.trans (enterMachineTrap _ _)

theorem takeInterruptIfAny (taken : takeInterruptIfAny registers = some after) : PublishedKept registers after := by
  obtain ⟨code, _, _, rfl, _⟩ := takeInterruptIfAny_some taken
  rw [interruptTrap]
  split
  · exact enterSupervisorTrap _ _
  · exact enterMachineTrap _ _

theorem advanceCounter (inhibit enableBit : BitVec 8) (counter : BitVec 12) :
    PublishedKept registers (advanceCounter registers inhibit enableBit counter) := by
  rw [Emulator.advanceCounter]
  split <;> rfl

theorem commitInstructionRetire : PublishedKept registers (commitInstructionRetire registers) := by
  rw [Emulator.commitInstructionRetire]
  split
  · rfl
  · have cancelled : PublishedKept registers (cancelInstructionRetire registers) := rfl
    exact (cancelled.trans (advanceCounter _ _ _)).trans (advanceCounter _ _ _)

theorem retireInstructionNow : PublishedKept registers (retireInstructionNow registers) := by
  have begun : PublishedKept registers (beginInstructionRetire registers) := rfl
  exact begun.trans commitInstructionRetire

theorem setProgramCounter (target : Bytes8) : PublishedKept registers (setProgramCounter registers target) := rfl

theorem machineReturn : PublishedKept registers (returnFromMachineTrap registers) := write _ _

theorem supervisorReturn : PublishedKept registers (returnFromSupervisorTrap registers) := write _ _

/-- No instruction but `wfi` publishes. -/
theorem execute (awake : thunk ≠ .wfi)
    (ended : (thunk.execute registers memory length).registers? = some after) : PublishedKept registers after := by
  have outcome := execute_outcome thunk registers memory length
  generalize thunk.execute registers memory length = execution at outcome ended
  cases outcome with
  | moved target =>
    cases ended
    exact setProgramCounter target
  | registerWritten index value target =>
    cases ended
    exact (generalPurpose index value).trans (setProgramCounter target)
  | controlWritten allowed value destination previous target =>
    cases ended
    exact ((write _ value).trans (generalPurpose destination previous)).trans (setProgramCounter target)
  | machineReturn inMachine =>
    cases ended
    exact machineReturn
  | supervisorReturn notUser =>
    cases ended
    exact supervisorReturn
  | trapped started exception trapValue untouched =>
    cases ended
    rw [started]
    split
    · exact retireInstructionNow.trans (enterTrap _ trapValue)
    · exact enterTrap _ trapValue
  | woken waits sampled => exact absurd waits awake
  | waiting waits sampled => exact absurd waits awake
  | threw => cases ended

end PublishedKept

namespace MachineCurrent

theorem hartClint (current : MachineCurrent registers memory) : HartClintCurrent registers memory :=
  ⟨current.devices.clint, current.mirror⟩

theorem published (current : MachineCurrent registers memory) (kept : PublishedKept registers after) :
    MachineCurrent after memory := ⟨current.devices, current.mirror.trans kept.symm, current.idle⟩

/-- The devices step, and the hart goes on as it was. -/
theorem run (current : MachineCurrent registers memory) (run : DeviceRun memory stored) (idle : MonitorIdle stored) :
    MachineCurrent registers stored :=
  ⟨run.kept.current current.devices, (run.kept.mirror current.devices).trans current.mirror, idle⟩

end MachineCurrent

/-! Samples. -/

theorem setClintStimecmpMirror_clintMoved (value : Bytes8) :
    ClintMoved memory (setClintStimecmpMirror memory value) := by
  rw [setClintStimecmpMirror]
  split
  · exact .refl
  · have written : Confined [clintRegionId] memory (writeStimecmpMirror memory value) := by
      refine .store64 (fun offset small => ?_) value
      rw [clintHostUint64, Nat.add_assoc]
      refine inRegions_clint (by decide) ?_
      simp only [clintHostStimecmpUint64Index, clintHostByteLength]
      omega
    have moved : ClintMoved memory (writeStimecmpMirror memory value) := .of_confined written (by decide) (by decide)
    exact moved.trans (updateTimerWiresFromCompare_moved _)

theorem publishSupervisorTimerCompare_clintMoved (registers : Registers) (memory : Memory) :
    ClintMoved memory (publishSupervisorTimerCompare registers memory).2 := by
  rw [publishSupervisorTimerCompare]
  generalize (if isSupervisorTimerCompareEnabled registers then registers.controlAndStatus Csr.stimecmp
    else stimecmpDisabledBytes) = desired
  split
  · exact .refl
  · exact setClintStimecmpMirror_clintMoved desired

theorem sampleDevicePending_clintMoved (registers : Registers) (memory : Memory) :
    ClintMoved memory (sampleDevicePending registers memory).2 := by
  rw [sampleDevicePending_memory]
  exact publishSupervisorTimerCompare_clintMoved _ memory

theorem sampleDevicePending_machineCurrent (current : MachineCurrent registers memory) :
    MachineCurrent (sampleDevicePending registers memory).1 (sampleDevicePending registers memory).2 := by
  have moved := sampleDevicePending_clintMoved registers memory
  obtain ⟨clint, mirror⟩ := (sampleDevicePending_current current.hartClint).1
  have step : PlicStep memory (sampleDevicePending registers memory).2 :=
    moved.elsewhere (by decide) fun context => by cases context <;> decide
  have view : uartView (sampleDevicePending registers memory).2 = uartView memory :=
    uartView_changes moved.changes (by decide)
  exact {
    devices := {
      clint := clint
      outputs := outputs_step step current.devices.outputs
      gateway := represents_step step current.devices.gateway
      rings := view ▸ current.devices.rings }
    mirror := mirror
    idle := sampleDevicePending_idle current.idle registers }

/-- A turn of a waiting `wfi`. -/
theorem wfiTurn_leavesCurrent (current : MachineCurrent registers memory) :
    LeavesCurrent (wfiTurn registers memory) := by
  have first := sampleDevicePending_machineCurrent current
  simp only [wfiTurn]
  split
  · exact first
  · have second := sampleDevicePending_machineCurrent first
    split <;> exact second

/-! Turns. -/

theorem LeavesCurrent.of_ended {execution : Execution} (ended : execution.registers? = some after)
    (left : execution.memory? = some stored) (current : MachineCurrent after stored) : LeavesCurrent execution := by
  cases execution with
  | completed _ _ | trapped _ _ | waiting _ _ _ =>
    cases ended
    cases left
    exact current
  | threw _ => cases ended

theorem Execution.registers_of_memory {execution : Execution} (left : execution.memory? = some stored) :
    ∃ after, execution.registers? = some after := by
  cases execution with
  | completed registers _ | trapped registers _ | waiting registers _ _ => exact ⟨registers, rfl⟩
  | threw _ => cases left

theorem execute_leavesCurrent (current : MachineCurrent registers memory) :
    LeavesCurrent (thunk.execute registers memory length) := by
  by_cases waits : thunk = .wfi
  · subst waits
    simp only [ExecuteThunk.execute, wfi]
    split
    · exact current.published (.enterTrap _ _)
    · have advanced : PublishedKept registers (advanceProgramCounter registers length) := rfl
      exact wfiTurn_leavesCurrent (current.published (advanced.trans .retireInstructionNow))
  · have runs : Runs memory (thunk.execute registers memory length) :=
      execute_runs current.devices current.idle.free waits
    obtain ⟨stored, left, run⟩ := runs
    obtain ⟨after, ended⟩ := Execution.registers_of_memory left
    have within : Unwinding.Within KeepsIdle (Unwinding.execute registers thunk length) := Unwinding.execute_within thunk
    have idle := within memory current.idle
    rw [Unwinding.execute_left left] at idle
    exact .of_ended ended left ((current.run run idle).published (.execute waits ended))

theorem LeavesCurrent.commit {execution : Execution} (leaves : LeavesCurrent execution) :
    LeavesCurrent execution.commit := by
  cases execution with
  | completed _ _ | trapped _ _ =>
    have current : MachineCurrent _ _ := leaves
    exact current.published .commitInstructionRetire
  | waiting _ _ _ => exact leaves
  | threw _ => exact leaves

/-- A fetch that did not throw, and what it leaves. -/
def FetchCurrent (registers : Registers) : Fetch → Prop
  | .fetched _ memory => MachineCurrent registers memory
  | .faulted after memory => MachineCurrent after memory
  | .threw _ => False

theorem fetchInstruction_current (current : MachineCurrent registers memory) :
    FetchCurrent registers (fetchInstruction registers memory) := by
  obtain ⟨bytes, stored, loaded, run⟩ := loadBytes_completes current.devices registers.programCounter 4
  have effect := Unwinding.loadBytes_within registers.programCounter 4 memory
  have returned : Library.Unwinding.outcome (Unwinding.loadBytes registers.programCounter 4) memory =
      .ok (bytes, stored) := by
    rw [Unwinding.loadBytes_outcome, loaded]
  rw [Library.Unwinding.left_of_outcome returned] at effect
  have fetched : MachineCurrent registers stored := current.run run (current.idle.of_effect effect)
  simp only [fetchInstruction, loaded]
  generalize (if (byte bytes 0).setWidth 32 &&& encodingLengthMask = encodingLength32Bit then 4 else 2) = length
  split
  · exact fetched.published (.enterTrap _ _)
  · cases unmapped : trapIfFetchUnmapped registers stored registers.programCounter length with
    | none => exact fetched
    | some after =>
      rw [trapIfFetchUnmapped] at unmapped
      split at unmapped
      · cases unmapped
      · cases unmapped
        exact fetched.published (.enterTrap _ _)

theorem stepInstruction_leavesCurrent (current : MachineCurrent registers memory) :
    LeavesCurrent (stepInstruction registers memory) := by
  have fetch := fetchInstruction_current current
  rw [stepInstruction]
  cases fetched : fetchInstruction registers memory with
  | threw message =>
    rw [fetched] at fetch
    exact fetch
  | faulted after stored =>
    rw [fetched] at fetch
    exact fetch
  | fetched bytes stored =>
    rw [fetched] at fetch
    have begun : PublishedKept registers (beginInstructionRetire registers) := rfl
    have loaded : MachineCurrent registers stored := fetch
    exact LeavesCurrent.commit (execute_leavesCurrent (loaded.published begun))

/-- A turn of the loop. -/
theorem runLoopTurn_leavesCurrent (current : MachineCurrent registers memory) :
    LeavesCurrent (runLoopTurn registers memory) := by
  have sampled := sampleDevicePending_machineCurrent current
  simp only [runLoopTurn]
  split
  · rename_i taken
    exact sampled.published (.takeInterruptIfAny taken)
  split
  · rename_i misaligned
    rw [trapIfInstructionAddressMisaligned] at misaligned
    split at misaligned
    · cases misaligned
    · cases misaligned
      exact sampled.published (.enterTrap _ _)
  · exact stepInstruction_leavesCurrent sampled

end YaRiscV.Emulator
