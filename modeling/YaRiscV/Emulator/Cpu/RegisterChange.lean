import YaRiscV.Emulator.Cpu.InstructionOutcome

/-! What the hart can do to its registers, one primitive change at a time, and that
executing any instruction is a sequence of such changes. -/

namespace YaRiscV.Emulator

open Relation YaRiscV.Library YaRiscV.Utils

/-- One change of the register file. -/
inductive RegisterChange (registers : Registers) : Registers → Prop
  | generalPurpose (index : BitVec 5) (value : Bytes8) :
      RegisterChange registers (writeGeneralPurposeRegister registers index value)
  | programCounter (value : Bytes8) : RegisterChange registers (setProgramCounter registers value)
  | controlAndStatus (index : BitVec 12) (value : Bytes8)
      (allowed : isControlAndStatusRegisterAccessAllowed registers index true = true) :
      RegisterChange registers (writeControlAndStatusRegister registers index value)
  | retire (pending : Bool) : RegisterChange registers { registers with retireInstruction := pending }
  | count : RegisterChange registers (commitInstructionRetire registers)
  | trap (cause : Nat) (trapValue : Bytes8) : RegisterChange registers (enterTrap registers cause trapValue)
  | interrupt (taken : takeInterruptIfAny registers = some after) : RegisterChange registers after
  | machineReturn (inMachine : registers.privilegeMode = privilegeMachine) :
      RegisterChange registers (returnFromMachineTrap registers)
  | supervisorReturn (notUser : ¬ registers.privilegeMode.toNat < privilegeSupervisor.toNat) :
      RegisterChange registers (returnFromSupervisorTrap registers)
  | sample (memory : Memory) : RegisterChange registers (sampleDevicePending registers memory).1

/-- Any number of changes. -/
abbrev RegisterChanges : Registers → Registers → Prop := ReflTransGen RegisterChange

/-- The registers an execution leaves behind, if it leaves any. -/
def Execution.registers? : Execution → Option Registers
  | .completed registers _ => some registers
  | .trapped registers _ => some registers
  | .waiting registers _ _ => some registers
  | .threw _ => none

variable {registers after : Registers} {memory : Memory}

theorem retireInstructionNow_changes : RegisterChanges registers (retireInstructionNow registers) :=
  (ReflTransGen.single (.retire true)).tail .count

theorem Samples.changes (sampled : Samples registers after) : RegisterChanges registers after := by
  refine ReflTransGen.mono ?_ registers after sampled
  rintro before next ⟨memory, rfl⟩
  exact .sample memory

theorem wfiTurn_changes (result : (wfiTurn registers memory).registers? = some after) :
    RegisterChanges registers after := by
  obtain ⟨turned, left, sampled, ended | ⟨fromLevel, ended⟩⟩ := wfiTurn_samples registers memory
  all_goals
    rw [ended] at result
    cases result
    exact sampled.changes

private theorem Samples.afterAdvance
    (sampled : Samples (retireInstructionNow (advanceProgramCounter registers length)) after) :
    RegisterChanges registers after :=
  ((ReflTransGen.single (.programCounter _)).trans retireInstructionNow_changes).trans sampled.changes

/-- Whatever an instruction does to the registers is a sequence of changes. -/
theorem execute_changes (thunk : ExecuteThunk)
    (result : (thunk.execute registers memory length).registers? = some after) :
    RegisterChanges registers after := by
  have outcome := execute_outcome thunk registers memory length
  generalize thunk.execute registers memory length = execution at outcome result
  cases outcome with
  | moved target =>
    cases result
    exact .single (.programCounter target)
  | registerWritten index value target =>
    cases result
    exact (ReflTransGen.single (.generalPurpose index value)).tail (.programCounter target)
  | controlWritten allowed value destination previous target =>
    cases result
    exact ((ReflTransGen.single (.controlAndStatus _ value allowed)).tail
      (.generalPurpose destination previous)).tail (.programCounter target)
  | machineReturn inMachine =>
    cases result
    exact .single (.machineReturn inMachine)
  | supervisorReturn notUser =>
    cases result
    exact .single (.supervisorReturn notUser)
  | trapped started exception trapValue untouched =>
    cases result
    rw [started]
    split
    · exact retireInstructionNow_changes.tail (.trap _ trapValue)
    · exact .single (.trap _ trapValue)
  | woken waits sampled =>
    cases result
    exact sampled.afterAdvance
  | waiting waits sampled =>
    cases result
    exact sampled.afterAdvance
  | threw => cases result

end YaRiscV.Emulator
