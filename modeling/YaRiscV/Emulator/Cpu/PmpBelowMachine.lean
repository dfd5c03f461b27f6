import YaRiscV.Emulator.Cpu.Mediation
import YaRiscV.Emulator.Cpu.PmpLock
import YaRiscV.Emulator.Cpu.PrivilegeIsolation

/-! The PMP as code below M finds it: what it grants depends on its own slots, and no turn that
starts below M writes them. -/

namespace YaRiscV.Emulator

open YaRiscV.Library YaRiscV.Utils Relation

variable {registers after : Registers} {memory : Memory}

namespace PmpKept

theorem byteGranted (kept : PmpKept registers after) : byteGranted after = byteGranted registers := by
  funext address access
  have matched (entry : Nat) (member : entry ∈ List.range pmpEntryCount) :
      entryMatches after address entry = entryMatches registers address entry := by
    rw [entryMatches, entryMatches, (kept.entryKept (List.mem_range.mp member)).range]
  have lowest : matchingEntry after address = matchingEntry registers address := by
    rw [matchingEntry, matchingEntry]
    rw [← List.head?_filter, ← List.head?_filter, List.filter_congr matched]
  rw [Emulator.byteGranted, Emulator.byteGranted, lowest]
  congr 1
  funext entry
  rw [kept.config]

theorem concealed (kept : PmpKept registers after) : Concealed after = Concealed registers := by
  funext layout position
  simp only [Concealed, kept.byteGranted]

theorem writable (kept : PmpKept registers after) : Writable after = Writable registers := by
  funext layout position
  simp only [Writable, kept.byteGranted]

theorem sample (registers : Registers) (memory : Memory) :
    PmpKept registers (sampleDevicePending registers memory).1 := by
  refine .of_slots [Csr.mip] (slots_notPmp rfl) fun index apart => ?_
  exact (sampleDevicePending_sampledFrom registers memory).slots index (List.mem_singleton.not.mp apart)

theorem samples (samples : Samples registers after) : PmpKept registers after := by
  refine invariant_run (fun state => PmpKept registers state) ?_ samples (.refl registers)
  rintro before _ ⟨memory, rfl⟩ kept
  exact kept.trans (sample before memory)

theorem trap (registers : Registers) (cause : Nat) (trapValue : Bytes8) :
    PmpKept registers (enterTrap registers cause trapValue) :=
  .of_slots _ (trapSlots_pmp _) (enterTrap_entry registers cause trapValue).slots

theorem retireNow (registers : Registers) : PmpKept registers (retireInstructionNow registers) :=
  commitInstructionRetire_pmpKept _

/-- The end of an instruction below M. -/
theorem effect (effect : InstructionEffect thunk registers executed) (legal : RegisterInvariant registers)
    (below : registers.privilegeMode ≠ privilegeMachine) (result : executed.registers? = some after) :
    PmpKept registers after := by
  cases effect with
  | kept control =>
    cases result
    exact fun index _ => congrFun control.controlAndStatus index
  | @written index value after memory allowed control =>
    cases result
    have notMachine := (accessAllowed allowed).notMachine legal below
    have notPmp : isPmpControlAndStatusRegister index = false := by
      by_contra pmp
      exact notMachine (pmp_requires_machine (by simpa using pmp))
    refine PmpKept.trans (write_pmpKept value notPmp) fun index _ => congrFun control.controlAndStatus index
  | machineReturn inMachine => exact absurd inMachine below
  | supervisorReturn notUser =>
    cases result
    have notPmp : isPmpControlAndStatusRegister Csr.mstatus = false := rfl
    exact fun index pmp => write_pmpKept _ notPmp index pmp
  | trapped started exception =>
    cases result
    rcases started with rfl | rfl
    · exact trap _ _ _
    · exact (retireNow registers).trans (trap _ _ _)
  | woken waits sampled | waiting waits sampled =>
    cases result
    exact (retireNow (advanceProgramCounter registers _)).trans (samples sampled)
  | threw => cases result

theorem commit {execution : Execution}
    (executed : ∀ reached, execution.registers? = some reached → PmpKept registers reached)
    (result : execution.commit.registers? = some after) : PmpKept registers after := by
  obtain ⟨before, reached, rfl | rfl⟩ := commit_registers result
  · exact executed after reached
  · exact (executed before reached).trans (commitInstructionRetire_pmpKept before)

theorem step (legal : RegisterInvariant registers) (below : registers.privilegeMode ≠ privilegeMachine)
    (result : (stepInstruction registers memory).registers? = some after) : PmpKept registers after := by
  rw [stepInstruction] at result
  split at result
  · cases result
  · rename_i faulted
    cases result
    rw [fetchInstruction_faulted faulted]
    exact trap _ _ _
  · have begun : RegisterInvariant (beginInstructionRetire registers) := legal.change (.retire true)
    have executed : PmpKept (beginInstructionRetire registers) after :=
      commit (fun reached executed => effect (execute_effect _ _ _ _) begun below executed) result
    exact executed

/-- A whole turn of the loop, one into M included. -/
theorem turn (legal : RegisterInvariant registers) (below : registers.privilegeMode ≠ privilegeMachine)
    (result : (runLoopTurn registers memory).registers? = some after) : PmpKept registers after := by
  have sampled := sample registers memory
  have kept : RegisterInvariant (sampleDevicePending registers memory).1 := legal.change (.sample memory)
  have still := (sampleDevicePending_sampledFrom registers memory).privilegeMode
  simp only [runLoopTurn] at result
  split at result
  · rename_i taken
    cases result
    exact sampled.trans (takeInterruptIfAny_pmpKept taken)
  split at result
  · rename_i misaligned
    simp only [trapIfInstructionAddressMisaligned] at misaligned
    split at misaligned
    · cases misaligned
    · cases misaligned
      cases result
      exact sampled.trans (trap _ _ _)
  · exact sampled.trans (step kept (by rwa [still]) result)

end PmpKept

end YaRiscV.Emulator
