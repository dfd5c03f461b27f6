import YaRiscV.Emulator.Cpu.TrapReturn
import YaRiscV.Emulator.Cpu.Run

/-! How many iterations of the loop in a row can take an interrupt. -/

namespace YaRiscV.Emulator

open Relation YaRiscV.Library YaRiscV.Utils

/-- The turn takes an interrupt before it fetches. -/
def TurnInterrupted (registers : Registers) (memory : Memory) (after : Registers) : Prop :=
  takeInterruptIfAny (sampleDevicePending registers memory).1 = some after

/-- Iterations in a row that take an interrupt, whatever the devices show to each, with the
privileges they go to. -/
inductive InterruptChain : Registers → List Bytes8 → Prop
  | done (registers : Registers) : InterruptChain registers []
  | interrupted (memory : Memory) (taken : TurnInterrupted registers memory middle)
      (rest : InterruptChain middle modes) : InterruptChain registers (middle.privilegeMode :: modes)

variable {registers after : Registers} {memory : Memory} {modes : List Bytes8}

theorem TurnInterrupted.turn (taken : TurnInterrupted registers memory after) :
    runLoopTurn registers memory = .trapped after (sampleDevicePending registers memory).2 := by
  rw [TurnInterrupted] at taken
  simp only [runLoopTurn, taken]

/-- M-mode with interrupts disabled. -/
structure MachineHandler (registers : Registers) : Prop where
  privilegeMode : registers.privilegeMode = privilegeMachine
  disabled : statusBit registers mieBit = false

/-- S-mode with interrupts disabled. -/
structure SupervisorHandler (registers : Registers) : Prop where
  privilegeMode : registers.privilegeMode = privilegeSupervisor
  disabled : statusBit registers sieBit = false

theorem statusBit_sample (registers : Registers) (memory : Memory) (bit : Nat) :
    statusBit (sampleDevicePending registers memory).1 bit = statusBit registers bit := by
  have kept : (sampleDevicePending registers memory).1.controlAndStatus Csr.mstatus =
      registers.controlAndStatus Csr.mstatus :=
    (sampleDevicePending_sampledFrom registers memory).slots Csr.mstatus (by decide)
  rw [statusBit, kept, statusBit]

/-- An interrupt enters the handler of the level it goes to. -/
theorem TurnInterrupted.handler (invariant : RegisterInvariant registers)
    (taken : TurnInterrupted registers memory after) :
    RegisterInvariant after ∧ (MachineHandler after ∨ SupervisorHandler after) := by
  have sampled := invariant.sampleDevicePending memory
  refine ⟨sampled.takeInterruptIfAny taken, ?_⟩
  obtain ⟨code, _, _, rfl, _⟩ := takeInterruptIfAny_some taken
  rw [interruptTrap]
  split
  · refine .inr ⟨(enterSupervisorTrap_entry _ _ _).privilegeMode, ?_⟩
    rw [statusBit, enterSupervisorTrap_mstatus, getLsbD_supervisorEntry _ sampled.mpp (by decide) (by decide)]
    rfl
  · refine .inl ⟨(enterMachineTrap_entry _ _ _).privilegeMode, ?_⟩
    rw [statusBit, enterMachineTrap_mstatus, getLsbD_machineEntry _ _ (by decide) (by decide) (by decide)]
    rfl

/-- Nothing interrupts the handler of M. -/
theorem MachineHandler.uninterrupted (handler : MachineHandler registers) :
    ¬ TurnInterrupted registers memory after := by
  intro taken
  have machine : (sampleDevicePending registers memory).1.privilegeMode = privilegeMachine :=
    (sampleDevicePending_sampledFrom registers memory).privilegeMode.trans handler.privilegeMode
  obtain ⟨code, _, enabled, _, _⟩ := takeInterruptIfAny_some taken
  cases delegated : interruptDelegated (sampleDevicePending registers memory).1 code with
  | true => exact (enabled.supervisor delegated).1 machine
  | false =>
    have global : statusBit (sampleDevicePending registers memory).1 mieBit = true := enabled.machine delegated machine
    rw [statusBit_sample, handler.disabled] at global
    cases global

/-- Only an interrupt bound for M interrupts the handler of S. -/
theorem SupervisorHandler.interrupted (handler : SupervisorHandler registers) (invariant : RegisterInvariant registers)
    (taken : TurnInterrupted registers memory after) : MachineHandler after := by
  have supervisor : (sampleDevicePending registers memory).1.privilegeMode = privilegeSupervisor :=
    (sampleDevicePending_sampledFrom registers memory).privilegeMode.trans handler.privilegeMode
  rcases (taken.handler invariant).2 with machine | entered
  · exact machine
  · obtain ⟨code, _, enabled, same, _⟩ := takeInterruptIfAny_some taken
    have delegated : interruptDelegated (sampleDevicePending registers memory).1 code = true := by
      by_contra bound
      have mode := entered.privilegeMode
      rw [same, interruptTrap_privilege, if_neg bound] at mode
      exact absurd mode (by decide)
    have global : statusBit (sampleDevicePending registers memory).1 sieBit = true :=
      (enabled.supervisor delegated).2 supervisor
    rw [statusBit_sample, handler.disabled] at global
    cases global

theorem InterruptChain.of_machine (handler : MachineHandler registers) (chain : InterruptChain registers modes) :
    modes = [] := by
  cases chain with
  | done => rfl
  | interrupted memory taken rest => exact absurd taken handler.uninterrupted

theorem InterruptChain.of_supervisor (handler : SupervisorHandler registers)
    (invariant : RegisterInvariant registers) (chain : InterruptChain registers modes) :
    modes = [] ∨ modes = [privilegeMachine] := by
  cases chain with
  | done => exact .inl rfl
  | interrupted memory taken rest =>
    have machine := handler.interrupted invariant taken
    rw [rest.of_machine machine, machine.privilegeMode]
    exact .inr rfl

/-- At most two iterations in a row take an interrupt, and two go to S and then to M. -/
theorem interruptChain_bounded (reachable : CpuReachable registers) (chain : InterruptChain registers modes) :
    modes.length ≤ 2 ∧ (modes.length = 2 → modes = [privilegeSupervisor, privilegeMachine]) := by
  cases chain with
  | done => exact ⟨Nat.zero_le 2, by rintro ⟨⟩⟩
  | interrupted memory taken rest =>
    obtain ⟨invariant, machine | supervisor⟩ := taken.handler reachable.invariant
    · rw [rest.of_machine machine]
      exact ⟨Nat.le_succ 1, by rintro ⟨⟩⟩
    · rw [supervisor.privilegeMode]
      rcases rest.of_supervisor supervisor invariant with rfl | rfl
      · exact ⟨Nat.le_succ 1, by rintro ⟨⟩⟩
      · exact ⟨Nat.le_refl 2, fun _ => rfl⟩

/-- U-mode with SSI pending and delegated, and MTI enabled. -/
def delegatedRegisters : Registers :=
  let registers := advanceProgramCounter (writeControlAndStatusRegister createRegisters Csr.mideleg 0x2) 4
  let registers := advanceProgramCounter (writeControlAndStatusRegister registers Csr.mie 0x82) 4
  let registers := advanceProgramCounter (writeControlAndStatusRegister registers Csr.mip 0x2) 4
  returnFromMachineTrap registers

theorem delegatedRegisters_reachable : CpuReachable delegatedRegisters :=
  (((ReflTransGen.single (.execute (.csrImmediate .csrrwi ⟨0, 0x2, Csr.mideleg, 0⟩) defaultMemory 4 rfl)).tail
    (.execute (.csrImmediate .csrrwi ⟨0, 0x82, Csr.mie, 0⟩) defaultMemory 4 rfl)).tail
      (.execute (.csrImmediate .csrrwi ⟨0, 0x2, Csr.mip, 0⟩) defaultMemory 4 rfl)).tail
        (.execute .mret defaultMemory 4 rfl)

/-- The default machine with the timer wire up. -/
def timerFiredMemory : Memory :=
  defaultMemory.store (clintByteIndex defaultMemory clintHostMachineTimerWireOffset) 1

def softwareTrappedRegisters : Registers :=
  enterSupervisorTrap (sampleDevicePending delegatedRegisters defaultMemory).1
    (interruptCauseBytes causeSupervisorSoftwareInterrupt) 0

def timerTrappedRegisters : Registers :=
  enterMachineTrap (sampleDevicePending softwareTrappedRegisters timerFiredMemory).1
    (interruptCauseBytes causeMachineTimerInterrupt) 0

/-- The timer fires before the handler of S fetches. -/
theorem interruptChain_bounded_twice :
    InterruptChain delegatedRegisters [privilegeSupervisor, privilegeMachine] ∧
      [privilegeSupervisor, privilegeMachine].length ≤ 2 := by
  have software : TurnInterrupted delegatedRegisters defaultMemory softwareTrappedRegisters := rfl
  have timer : TurnInterrupted softwareTrappedRegisters timerFiredMemory timerTrappedRegisters := rfl
  have chain : InterruptChain delegatedRegisters [privilegeSupervisor, privilegeMachine] :=
    .interrupted defaultMemory software (.interrupted timerFiredMemory timer (.done timerTrappedRegisters))
  exact ⟨chain, (interruptChain_bounded delegatedRegisters_reachable chain).1⟩

end YaRiscV.Emulator
