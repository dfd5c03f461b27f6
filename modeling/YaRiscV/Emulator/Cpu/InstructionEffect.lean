import YaRiscV.Emulator.Cpu.InstructionOutcome

/-! What one instruction does to the CSR file and the privilege: nothing, one CSR write, a
trap return, a trap, or the sampling of `wfi`. -/

namespace YaRiscV.Emulator

open Relation YaRiscV.Library YaRiscV.Utils

/-- `after` has the CSR file and the privilege of `before`. -/
structure ControlKept (before after : Registers) : Prop where
  controlAndStatus : after.controlAndStatus = before.controlAndStatus
  privilegeMode : after.privilegeMode = before.privilegeMode

/-- The ways an instruction can end. -/
inductive InstructionEffect (thunk : ExecuteThunk) (registers : Registers) : Execution → Prop
  | kept (control : ControlKept registers after) :
      InstructionEffect thunk registers (.completed after memory)
  | written (allowed : isControlAndStatusRegisterAccessAllowed registers index true = true)
      (control : ControlKept (writeControlAndStatusRegister registers index value) after) :
      InstructionEffect thunk registers (.completed after memory)
  | machineReturn (inMachine : registers.privilegeMode = privilegeMachine) :
      InstructionEffect thunk registers (.completed (returnFromMachineTrap registers) memory)
  | supervisorReturn (notUser : ¬ registers.privilegeMode.toNat < privilegeSupervisor.toNat) :
      InstructionEffect thunk registers (.completed (returnFromSupervisorTrap registers) memory)
  | trapped (started : base = registers ∨ base = retireInstructionNow registers) (exception : cause < 16) :
      InstructionEffect thunk registers (.trapped (enterTrap base cause trapValue) memory)
  | woken (waits : thunk = .wfi)
      (sampled : Samples (retireInstructionNow (advanceProgramCounter registers length)) after) :
      InstructionEffect thunk registers (.completed after memory)
  | waiting (waits : thunk = .wfi)
      (sampled : Samples (retireInstructionNow (advanceProgramCounter registers length)) after) :
      InstructionEffect thunk registers (.waiting after memory fromLevel)
  | threw : InstructionEffect thunk registers (.threw message)

variable {registers after : Registers} {memory : Memory} {thunk : ExecuteThunk}

theorem ControlKept.completeWith (control : ControlKept registers middle) :
    ControlKept registers (setProgramCounter (writeGeneralPurposeRegister middle index value) target) where
  controlAndStatus := (writeGeneralPurposeRegister_controlAndStatus _ _).trans control.controlAndStatus
  privilegeMode := (writeGeneralPurposeRegister_privilegeMode _ _).trans control.privilegeMode

/-- What the end of an instruction means for the CSR file and the privilege. -/
theorem InstructionOutcome.effect (outcome : InstructionOutcome thunk registers memory execution) :
    InstructionEffect thunk registers execution := by
  cases outcome with
  | moved target => exact .kept ⟨rfl, rfl⟩
  | registerWritten index value target => exact .kept (ControlKept.completeWith ⟨rfl, rfl⟩)
  | controlWritten allowed value destination previous target =>
    exact .written allowed (ControlKept.completeWith ⟨rfl, rfl⟩)
  | machineReturn inMachine => exact .machineReturn inMachine
  | supervisorReturn notUser => exact .supervisorReturn notUser
  | trapped started exception trapValue untouched =>
    refine .trapped ?_ exception
    rw [started]
    split
    · exact .inr rfl
    · exact .inl rfl
  | woken waits sampled => exact .woken waits sampled
  | waiting waits sampled => exact .waiting waits sampled
  | threw => exact .threw

/-- Every instruction has one of these effects. -/
theorem execute_effect (thunk : ExecuteThunk) (registers : Registers) (memory : Memory) (length : Bytes8) :
    InstructionEffect thunk registers (thunk.execute registers memory length) :=
  (execute_outcome thunk registers memory length).effect

/-- One decoded instruction from the point where its retirement begins; a `wfi` that waits
turns again whenever the memory has changed. -/
inductive InstructionStep (thunk : ExecuteThunk) (registers : Registers) : Execution → Prop
  | executed (memory : Memory) (length : Bytes8) :
      InstructionStep thunk registers (thunk.execute (beginInstructionRetire registers) memory length).commit
  | resumed (waited : InstructionStep thunk registers (.waiting middle held fromLevel)) (changed : Memory) :
      InstructionStep thunk registers (wfiTurn middle changed).commit

theorem commit_waiting {execution : Execution} (committed : execution.commit = .waiting after memory fromLevel) :
    execution = .waiting after memory fromLevel := by
  cases execution <;> cases committed
  rfl

/-- Every step ends in one of the same ways, its retirement counted. -/
theorem InstructionStep.effect (step : InstructionStep thunk registers execution) :
    ∃ executed, InstructionEffect thunk (beginInstructionRetire registers) executed ∧
      execution = executed.commit := by
  induction step with
  | executed memory length => exact ⟨_, execute_effect thunk _ memory length, rfl⟩
  | resumed waited changed ih =>
    obtain ⟨executed, effect, committed⟩ := ih
    obtain rfl := commit_waiting committed.symm
    cases effect with
    | waiting waits sampled =>
      have turned : InstructionOutcome thunk _ changed (wfiTurn _ changed) := .wfiTurn waits sampled
      exact ⟨_, turned.effect, rfl⟩

end YaRiscV.Emulator
