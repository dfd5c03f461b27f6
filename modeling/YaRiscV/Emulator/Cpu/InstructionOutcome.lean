import YaRiscV.Emulator.Cpu.Run
import Mathlib.Logic.Relation

/-! Everything one instruction can do, by the way it ends. -/

namespace YaRiscV.Emulator

open Relation YaRiscV.Library YaRiscV.Utils

/-- `ecall` and `ebreak` retire although they trap. -/
def ExecuteThunk.retiresBeforeTrap : ExecuteThunk → Bool
  | .ecall | .ebreak => true
  | _ => false

/-- Nothing but the word of the monitor lock differs. -/
structure LockWordOnly (before after : Memory) : Prop where
  worker : after.worker = before.worker
  changes : ChangesOnly (monitorLock.Covers before.layout) before after

/-- The device wires sampled any number of times. -/
abbrev Samples : Registers → Registers → Prop :=
  ReflTransGen fun before after => ∃ memory, after = (sampleDevicePending before memory).1

/-- The ways an instruction can end. -/
inductive InstructionOutcome (thunk : ExecuteThunk) (registers : Registers) (memory : Memory) : Execution → Prop
  | moved (target : Bytes8) :
      InstructionOutcome thunk registers memory (.completed (setProgramCounter registers target) memory')
  | registerWritten (index : BitVec 5) (value target : Bytes8) : InstructionOutcome thunk registers memory
      (.completed (setProgramCounter (writeGeneralPurposeRegister registers index value) target) memory')
  | controlWritten (allowed : isControlAndStatusRegisterAccessAllowed registers index true = true)
      (value : Bytes8) (destination : BitVec 5) (previous target : Bytes8) :
      InstructionOutcome thunk registers memory (.completed (setProgramCounter (writeGeneralPurposeRegister
        (writeControlAndStatusRegister registers index value) destination previous) target) memory')
  | machineReturn (inMachine : registers.privilegeMode = privilegeMachine) :
      InstructionOutcome thunk registers memory (.completed (returnFromMachineTrap registers) memory')
  | supervisorReturn (notUser : ¬ registers.privilegeMode.toNat < privilegeSupervisor.toNat) :
      InstructionOutcome thunk registers memory (.completed (returnFromSupervisorTrap registers) memory')
  | trapped (started : base = if thunk.retiresBeforeTrap then retireInstructionNow registers else registers)
      (exception : cause < 16) (trapValue : Bytes8) (untouched : LockWordOnly memory memory') :
      InstructionOutcome thunk registers memory (.trapped (enterTrap base cause trapValue) memory')
  | woken (waits : thunk = .wfi)
      (sampled : Samples (retireInstructionNow (advanceProgramCounter registers length)) after) :
      InstructionOutcome thunk registers memory (.completed after memory')
  | waiting (waits : thunk = .wfi)
      (sampled : Samples (retireInstructionNow (advanceProgramCounter registers length)) after) :
      InstructionOutcome thunk registers memory (.waiting after memory' fromLevel)
  | threw : InstructionOutcome thunk registers memory (.threw message)

variable {registers after : Registers} {memory memory' : Memory} {thunk : ExecuteThunk}

namespace LockWordOnly

theorem refl (memory : Memory) : LockWordOnly memory memory :=
  ⟨rfl, .refl⟩

/-- An empty locked section. -/
theorem release_acquire (memory : Memory) :
    LockWordOnly memory (releaseMonitorLock (acquireMonitorLock memory)) where
  worker := by
    simp [releaseMonitorLock, acquireMonitorLock, SpinLock.release_worker, SpinLock.acquire_worker,
      monitorLock.depth_set, monitorLock.set_set, monitorLock.set_depth]
  changes := by
    have released : ChangesOnly (monitorLock.Covers (monitorLock.acquire memory).layout)
        (monitorLock.acquire memory) (monitorLock.release (monitorLock.acquire memory)) :=
      SpinLock.release_changesOnly
    rw [SpinLock.acquire_layout] at released
    exact SpinLock.acquire_changesOnly.trans released

end LockWordOnly

/-! What the checks answer. -/

theorem denyLoad_some (denied : denyLoad registers memory address byteLength = some after) :
    after = enterTrap registers causeLoadAccessFault address := by
  simp only [denyLoad] at denied
  split at denied
  · exact (Option.some.inj denied).symm
  split at denied
  · cases denied
  · exact (Option.some.inj denied).symm

theorem denyStore_some (denied : denyStore registers memory address byteLength = some after) :
    after = enterTrap registers causeStoreAmoAccessFault address := by
  simp only [denyStore] at denied
  split at denied
  · exact (Option.some.inj denied).symm
  split at denied
  · cases denied
  · exact (Option.some.inj denied).symm

theorem trapIfAtomicMisaligned_some
    (misaligned : trapIfAtomicMisaligned registers address byteLength access = some after) :
    ∃ cause < 16, cause ≠ causeIllegalInstruction ∧ after = enterTrap registers cause address := by
  simp only [trapIfAtomicMisaligned] at misaligned
  split at misaligned
  · cases misaligned
  · cases misaligned
    refine ⟨_, ?_, ?_, rfl⟩ <;> split <;> decide

theorem trapIfPmpDeniesAtomic_some
    (denied : trapIfPmpDeniesAtomic registers address byteLength access = some after) :
    ∃ cause < 16, cause ≠ causeIllegalInstruction ∧ after = enterTrap registers cause address := by
  simp only [trapIfPmpDeniesAtomic] at denied
  split at denied
  · cases denied
  · cases denied
    refine ⟨_, ?_, ?_, rfl⟩ <;> split <;> decide

theorem loadAndReserve_none (faulted : loadAndReserve registers memory address width = (none, memory')) :
    LockWordOnly memory memory' := by
  rw [loadAndReserve, withMonitorLock, SpinLock.hold] at faulted
  cases loaded : atomicLoadBytes (monitorLock.acquire memory) address width with
  | none =>
    simp only [loaded, Prod.mk.injEq, true_and] at faulted
    subst faulted
    exact .release_acquire memory
  | some oldValue => simp [loaded] at faulted

/-- A turn of the loop of `wfi` samples once or twice. -/
theorem wfiTurn_samples (registers : Registers) (memory : Memory) : ∃ after memory', Samples registers after ∧
    (wfiTurn registers memory = .completed after memory' ∨
      ∃ fromLevel, wfiTurn registers memory = .waiting after memory' fromLevel) := by
  have once : Samples registers (sampleDevicePending registers memory).1 := .single ⟨memory, rfl⟩
  simp only [wfiTurn]
  split
  · exact ⟨_, _, once, .inl rfl⟩
  split
  · exact ⟨_, _, once.tail ⟨_, rfl⟩, .inl rfl⟩
  · exact ⟨_, _, once.tail ⟨_, rfl⟩, .inr ⟨_, rfl⟩⟩

namespace InstructionOutcome

theorem completeWith (registers : Registers) (memory memory' : Memory) (destination : BitVec 5)
    (value length : Bytes8) :
    InstructionOutcome thunk registers memory (completeWith registers memory' destination value length) :=
  .registerWritten destination value _

/-- A trap of an instruction that has done nothing before. -/
theorem trap (unretired : thunk.retiresBeforeTrap = false) (registers : Registers) (memory : Memory)
    (trapValue : Bytes8) (exception : cause < 16) :
    InstructionOutcome thunk registers memory (.trapped (enterTrap registers cause trapValue) memory) :=
  .trapped (by rw [unretired]; rfl) exception trapValue (.refl memory)

theorem ofExcept {result : Except String Value} {next : Value → Execution}
    (each : ∀ value, InstructionOutcome thunk registers memory (next value)) :
    InstructionOutcome thunk registers memory (.ofExcept result next) := by
  cases result with
  | error message => exact .threw
  | ok value => exact each value

theorem loadRegister (unretired : thunk.retiresBeforeTrap = false) :
    InstructionOutcome thunk registers memory (loadRegister registers memory byteLength extend args length) := by
  simp only [Emulator.loadRegister]
  split
  · rename_i denied
    rw [denyLoad_some denied]
    exact .trap unretired _ _ _ (by decide)
  · exact .ofExcept fun _ => .completeWith _ _ _ _ _ _

theorem storeRegister (unretired : thunk.retiresBeforeTrap = false) :
    InstructionOutcome thunk registers memory (storeRegister registers memory byteLength args length) := by
  simp only [Emulator.storeRegister]
  split
  · rename_i denied
    rw [denyStore_some denied]
    exact .trap unretired _ _ _ (by decide)
  · exact .ofExcept fun _ => .moved _

theorem misaligned (unretired : thunk.retiresBeforeTrap = false)
    (trapped : trapIfAtomicMisaligned registers address byteLength access = some after) :
    InstructionOutcome thunk registers memory (.trapped after memory) := by
  obtain ⟨cause, exception, _, rfl⟩ := trapIfAtomicMisaligned_some trapped
  exact .trap unretired _ _ _ exception

theorem pmpDenied (unretired : thunk.retiresBeforeTrap = false)
    (trapped : trapIfPmpDeniesAtomic registers address byteLength access = some after) :
    InstructionOutcome thunk registers memory (.trapped after memory) := by
  obtain ⟨cause, exception, _, rfl⟩ := trapIfPmpDeniesAtomic_some trapped
  exact .trap unretired _ _ _ exception

theorem loadReserved (unretired : thunk.retiresBeforeTrap = false) :
    InstructionOutcome thunk registers memory (loadReserved registers memory byteLength extend args length) := by
  simp only [Emulator.loadReserved]
  split
  · rename_i trapped
    exact .misaligned unretired trapped
  split
  · rename_i trapped
    exact .pmpDenied unretired trapped
  split
  · rename_i faulted
    exact .trapped (by rw [unretired]; rfl) (by decide) _ (loadAndReserve_none faulted)
  · exact .completeWith _ _ _ _ _ _

theorem storeConditional (unretired : thunk.retiresBeforeTrap = false) :
    InstructionOutcome thunk registers memory (storeConditional registers memory byteLength args length) := by
  simp only [Emulator.storeConditional]
  split
  · rename_i trapped
    exact .misaligned unretired trapped
  split
  · rename_i trapped
    exact .pmpDenied unretired trapped
  split
  · exact .trap unretired _ _ _ (by decide)
  · exact .completeWith _ _ _ _ _ _

theorem amoReadModifyWrite (unretired : thunk.retiresBeforeTrap = false) : InstructionOutcome thunk registers memory
    (amoReadModifyWrite registers memory args byteLength combine length) := by
  simp only [Emulator.amoReadModifyWrite]
  split
  · rename_i trapped
    exact .misaligned unretired trapped
  split
  · rename_i trapped
    exact .pmpDenied unretired trapped
  split
  · exact .trap unretired _ _ _ (by decide)
  · exact .completeWith _ _ _ _ _ _

theorem csrReadWrite (unretired : thunk.retiresBeforeTrap = false) : InstructionOutcome thunk registers memory
    (csrReadWrite registers memory writes update destination index word length) := by
  simp only [Emulator.csrReadWrite]
  split
  · exact .trap unretired _ _ _ (by decide)
  · rename_i allowed
    simp only [Bool.not_eq_true', Bool.not_eq_false] at allowed
    refine .ofExcept fun _ => ?_
    cases writes with
    | true => exact .controlWritten allowed _ _ _ _
    | false => exact .completeWith _ _ _ _ _ _

theorem wfiTurn (waits : thunk = .wfi)
    (sampled : Samples (retireInstructionNow (advanceProgramCounter registers length)) middle) :
    InstructionOutcome thunk registers memory (wfiTurn middle memory') := by
  obtain ⟨after, left, turned, ended | ⟨fromLevel, ended⟩⟩ := wfiTurn_samples middle memory'
  · rw [ended]
    exact .woken waits (sampled.trans turned)
  · rw [ended]
    exact .waiting waits (sampled.trans turned)

theorem wfi : InstructionOutcome .wfi registers memory (wfi registers memory length) := by
  simp only [Emulator.wfi]
  split
  · exact .trap rfl _ _ _ (by decide)
  · exact wfiTurn rfl .refl

end InstructionOutcome

/-- Every instruction ends in one of these ways. -/
theorem execute_outcome (thunk : ExecuteThunk) (registers : Registers) (memory : Memory) (length : Bytes8) :
    InstructionOutcome thunk registers memory (thunk.execute registers memory length) := by
  cases thunk with
  | lui | auipc => exact .completeWith _ _ _ _ _ _
  | jal | jalr => exact .registerWritten _ _ _
  | fence | fenceI | cNop => exact .moved _
  | branch function args =>
    obtain ⟨condition, same⟩ := function.execute_eq
    simp only [ExecuteThunk.execute, same, branchIf]
    split <;> exact .moved _
  | load function args =>
    obtain ⟨byteLength, extend, _, same⟩ := function.execute_eq
    simp only [ExecuteThunk.execute, same]
    exact .loadRegister rfl
  | store function args =>
    simp only [ExecuteThunk.execute, StoreFunction.execute_eq]
    exact .storeRegister rfl
  | lr byteLength args =>
    obtain ⟨extend, same⟩ := executeLr_eq byteLength
    simp only [ExecuteThunk.execute, same]
    exact .loadReserved rfl
  | sc byteLength args =>
    simp only [ExecuteThunk.execute, executeSc_eq]
    exact .storeConditional rfl
  | amo function byteLength args =>
    obtain ⟨combine, same⟩ := function.execute_eq
    simp only [ExecuteThunk.execute, same]
    exact .amoReadModifyWrite rfl
  | op function args =>
    obtain ⟨operation, same⟩ := function.execute_eq
    simp only [ExecuteThunk.execute, same]
    exact .completeWith _ _ _ _ _ _
  | opImm function args =>
    obtain ⟨operation, same⟩ := function.execute_eq
    simp only [ExecuteThunk.execute, same]
    exact .completeWith _ _ _ _ _ _
  | shiftImm function args =>
    obtain ⟨operation, same⟩ := function.execute_eq
    simp only [ExecuteThunk.execute, same]
    exact .completeWith _ _ _ _ _ _
  | ecall =>
    refine .trapped rfl ?_ _ (.refl memory)
    rw [ecallCauseForPrivilege]
    split
    · decide
    split <;> decide
  | ebreak => exact .trapped rfl (by decide) _ (.refl memory)
  | illegalInstruction word | illegalC halfword => exact .trap rfl _ _ _ (by decide)
  | mret =>
    simp only [ExecuteThunk.execute, mret]
    split
    · exact .trap rfl _ _ _ (by decide)
    · rename_i inMachine
      exact .machineReturn (by simpa using inMachine)
  | sret =>
    simp only [ExecuteThunk.execute, sret]
    split
    · exact .trap rfl _ _ _ (by decide)
    split
    · exact .trap rfl _ _ _ (by decide)
    · rename_i notUser _
      exact .supervisorReturn (by simpa using notUser)
  | wfi => exact .wfi
  | sfenceVma word =>
    simp only [ExecuteThunk.execute, sfenceVma]
    split
    · exact .trap rfl _ _ _ (by decide)
    split
    · exact .trap rfl _ _ _ (by decide)
    · exact .moved _
  | csrRegister function args =>
    obtain ⟨writes, update, same⟩ := function.execute_eq args registers
    simp only [ExecuteThunk.execute, same]
    exact .csrReadWrite rfl
  | csrImmediate function args =>
    obtain ⟨writes, update, same⟩ := function.execute_eq args
    simp only [ExecuteThunk.execute, same]
    exact .csrReadWrite rfl

end YaRiscV.Emulator
