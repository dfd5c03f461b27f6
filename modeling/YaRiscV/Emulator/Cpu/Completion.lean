import YaRiscV.Emulator.Cpu.InstructionOutcome

/-! What an instruction that runs to its end has done to the registers, with the target it
jumped to and the CSR it wrote. -/

namespace YaRiscV.Emulator

open Relation YaRiscV.Library YaRiscV.Utils

/-- Whether a CSR instruction with a register operand writes. -/
def CsrRegisterFunction.writes (args : CsrRegisterArgs) : CsrRegisterFunction → Bool
  | .csrrw => true
  | .csrrs | .csrrc => args.sourceRegister1 != 0

def CsrImmediateFunction.writes (args : CsrImmediateArgs) : CsrImmediateFunction → Bool
  | .csrrwi => true
  | .csrrsi | .csrrci => !isZeroBytes args.immediate

/-- The value written over `previous`. -/
def CsrRegisterFunction.update (operand previous : Bytes8) : CsrRegisterFunction → Bytes8
  | .csrrw => operand
  | .csrrs => orBytes previous operand
  | .csrrc => andBytes previous (xorBytes operand allOnesBytes)

def CsrImmediateFunction.update (operand previous : Bytes8) : CsrImmediateFunction → Bytes8
  | .csrrwi => operand
  | .csrrsi => orBytes previous operand
  | .csrrci => andBytes previous (xorBytes operand allOnesBytes)

variable (registers : Registers)

/-- The CSR and the destination of a CSR instruction. -/
def ExecuteThunk.controlRead : ExecuteThunk → Option (BitVec 12 × BitVec 5)
  | .csrRegister _ args => some (args.controlAndStatusRegister, args.destinationRegister)
  | .csrImmediate _ args => some (args.controlAndStatusRegister, args.destinationRegister)
  | _ => none

/-- The CSR that a CSR instruction writes, and the value. -/
def ExecuteThunk.controlWrite : ExecuteThunk → Option (BitVec 12 × Bytes8)
  | .csrRegister function args =>
    if function.writes args then
      some (args.controlAndStatusRegister, function.update
        (readGeneralPurposeRegister registers args.sourceRegister1)
        (readControlAndStatusRegister registers args.controlAndStatusRegister))
    else none
  | .csrImmediate function args =>
    if function.writes args then
      some (args.controlAndStatusRegister, function.update args.immediate
        (readControlAndStatusRegister registers args.controlAndStatusRegister))
    else none
  | _ => none

/-- Where a jump or a taken branch goes. -/
def ExecuteThunk.jumpTarget : ExecuteThunk → Option Bytes8
  | .jal args => some (addBytes registers.programCounter args.immediate)
  | .jalr args =>
    let target := addBytes (readGeneralPurposeRegister registers args.sourceRegister1) args.immediate
    some (setByte target 0 (byte target 0 &&& 0xfe))
  | .branch _ args => some (addBytes registers.programCounter args.immediate)
  | _ => none

/-- The ways an instruction can complete. -/
inductive Completion (thunk : ExecuteThunk) (registers : Registers) (length : Bytes8) : Registers → Prop
  | advanced (index : BitVec 5) (value : Bytes8) : Completion thunk registers length
      (advanceProgramCounter (writeGeneralPurposeRegister registers index value) length)
  | jumped (jumps : thunk.jumpTarget registers = some target) (index : BitVec 5) (value : Bytes8) :
      Completion thunk registers length
        (setProgramCounter (writeGeneralPurposeRegister registers index value) target)
  | written (writes : thunk.controlWrite registers = some (index, value))
      (allowed : isControlAndStatusRegisterAccessAllowed registers index true = true) (destination : BitVec 5) :
      Completion thunk registers length (advanceProgramCounter (writeGeneralPurposeRegister
        (writeControlAndStatusRegister registers index value) destination
        (readControlAndStatusRegister registers index)) length)
  | machineReturn (inMachine : registers.privilegeMode = privilegeMachine) (returns : thunk = .mret) :
      Completion thunk registers length (returnFromMachineTrap registers)
  | supervisorReturn (notUser : ¬ registers.privilegeMode.toNat < privilegeSupervisor.toNat)
      (returns : thunk = .sret) : Completion thunk registers length (returnFromSupervisorTrap registers)
  | woken (waits : thunk = .wfi)
      (sampled : Samples (retireInstructionNow (advanceProgramCounter registers length)) after) :
      Completion thunk registers length after

variable {registers} {after : Registers} {memory memory' : Memory} {thunk : ExecuteThunk} {length : Bytes8}

namespace Completion

/-- An instruction that writes no register. -/
theorem moved : Completion thunk registers length (advanceProgramCounter registers length) :=
  .advanced 0 0

theorem completeWith (completed : completeWith registers middle index value length = .completed after memory') :
    Completion thunk registers length after := by
  cases completed
  exact .advanced index value

theorem branchIf (jumps : thunk.jumpTarget registers = some (addBytes registers.programCounter args.immediate))
    (completed : branchIf registers memory condition args length = .completed after memory') :
    Completion thunk registers length after := by
  rw [Emulator.branchIf] at completed
  split at completed
  · cases completed
    exact .jumped jumps 0 0
  · cases completed
    exact .moved

theorem loadRegister
    (completed : loadRegister registers memory byteLength extend args length = .completed after memory') :
    Completion thunk registers length after := by
  simp only [Emulator.loadRegister] at completed
  split at completed
  · cases completed
  cases loaded : loadBytes memory (loadEffectiveAddress registers args) byteLength with
  | error message =>
    rw [loaded] at completed
    cases completed
  | ok result =>
    rw [loaded] at completed
    exact completeWith completed

theorem storeRegister
    (completed : storeRegister registers memory byteLength args length = .completed after memory') :
    Completion thunk registers length after := by
  simp only [Emulator.storeRegister] at completed
  split at completed
  · cases completed
  generalize storeBytes _ _ _ _ = stored at completed
  cases stored with
  | error message => cases completed
  | ok result =>
    cases completed
    exact .moved

theorem loadReserved
    (completed : loadReserved registers memory byteLength extend args length = .completed after memory') :
    Completion thunk registers length after := by
  simp only [Emulator.loadReserved] at completed
  split at completed
  · cases completed
  split at completed
  · cases completed
  split at completed
  · cases completed
  · exact completeWith completed

theorem storeConditional
    (completed : storeConditional registers memory byteLength args length = .completed after memory') :
    Completion thunk registers length after := by
  simp only [Emulator.storeConditional] at completed
  split at completed
  · cases completed
  split at completed
  · cases completed
  split at completed
  · cases completed
  · exact completeWith completed

theorem amoReadModifyWrite
    (completed : amoReadModifyWrite registers memory args byteLength combine length = .completed after memory') :
    Completion thunk registers length after := by
  simp only [Emulator.amoReadModifyWrite] at completed
  split at completed
  · cases completed
  split at completed
  · cases completed
  split at completed
  · cases completed
  · exact completeWith completed

end Completion

/-- A write is never allowed to `time`. -/
theorem write_notTime (allowed : isControlAndStatusRegisterAccessAllowed registers index true = true) :
    index ≠ Csr.time := by
  rintro rfl
  simp [isControlAndStatusRegisterAccessAllowed, isReadOnlyControlAndStatusRegister,
    isUnprivilegedCounterControlAndStatusRegister] at allowed

/-- A CSR instruction that completes has read its CSR into `rd`, and written it if it writes. -/
theorem csrReadWrite_completed
    (completed : csrReadWrite registers memory writes update destination index word length =
      .completed after memory') : ∃ previous middle,
    (index ≠ Csr.time → previous = readControlAndStatusRegister registers index) ∧
    (writes = true → isControlAndStatusRegisterAccessAllowed registers index true = true) ∧
    (middle = if writes then writeControlAndStatusRegister registers index (update previous) else registers) ∧
    after = advanceProgramCounter (writeGeneralPurposeRegister middle destination previous) length := by
  rw [csrReadWrite] at completed
  split at completed
  · cases completed
  rename_i allowed
  cases read : snapshotControlAndStatusRegister registers index memory with
  | error message =>
    rw [read] at completed
    cases completed
  | ok snapshot =>
    rw [read] at completed
    cases completed
    refine ⟨snapshot.1, _, fun other => ?_, fun both => ?_, rfl, rfl⟩
    · rw [snapshotControlAndStatusRegister, if_neg other] at read
      cases read
      rfl
    · rw [both] at allowed
      simpa using allowed

theorem CsrRegisterFunction.execute_update (function : CsrRegisterFunction) (args : CsrRegisterArgs) :
    function.execute registers memory args length = csrReadWrite registers memory (function.writes args)
      (fun previous => function.update (readGeneralPurposeRegister registers args.sourceRegister1) previous)
      args.destinationRegister args.controlAndStatusRegister args.instructionWord length := by
  cases function <;> rfl

theorem CsrImmediateFunction.execute_update (function : CsrImmediateFunction) (args : CsrImmediateArgs) :
    function.execute registers memory args length = csrReadWrite registers memory (function.writes args)
      (fun previous => function.update args.immediate previous)
      args.destinationRegister args.controlAndStatusRegister args.instructionWord length := by
  cases function <;> rfl

/-- A CSR instruction in the shape of `csrReadWrite`. -/
theorem ExecuteThunk.controlRead_execute (reads : thunk.controlRead = some (index, destination)) :
    ∃ writes update word, (∀ memory length, thunk.execute registers memory length =
        csrReadWrite registers memory writes update destination index word length) ∧
      thunk.controlWrite registers =
        if writes then some (index, update (readControlAndStatusRegister registers index)) else none := by
  cases thunk with
  | csrRegister function args =>
    cases reads
    exact ⟨_, _, args.instructionWord, fun _ _ => function.execute_update args, rfl⟩
  | csrImmediate function args =>
    cases reads
    exact ⟨_, _, args.instructionWord, fun _ _ => function.execute_update args, rfl⟩
  | _ => cases reads

theorem Completion.controlAndStatus (reads : thunk.controlRead = some (index, destination))
    (completed : thunk.execute registers memory length = .completed after memory') :
    Completion thunk registers length after := by
  obtain ⟨writes, update, word, same, written⟩ := ExecuteThunk.controlRead_execute reads
  rw [same] at completed
  obtain ⟨previous, middle, read, allowed, rfl, rfl⟩ := csrReadWrite_completed completed
  cases writes with
  | true =>
    have permitted := allowed rfl
    rw [read (write_notTime permitted)]
    exact .written written permitted destination
  | false => exact .advanced destination previous

/-- Every instruction that completes has done one of these. -/
theorem execute_completion (thunk : ExecuteThunk)
    (completed : thunk.execute registers memory length = .completed after memory') :
    Completion thunk registers length after := by
  cases thunk with
  | lui | auipc => exact .completeWith completed
  | jal args =>
    cases completed
    rw [writeGeneralPurposeRegister_programCounter]
    exact .jumped rfl _ _
  | jalr args =>
    cases completed
    exact .jumped rfl _ _
  | fence | fenceI | cNop =>
    cases completed
    exact .moved
  | branch function args =>
    obtain ⟨condition, same⟩ := function.execute_eq
    rw [ExecuteThunk.execute, same] at completed
    exact .branchIf rfl completed
  | load function args =>
    obtain ⟨byteLength, extend, _, same⟩ := function.execute_eq
    rw [ExecuteThunk.execute, same] at completed
    exact .loadRegister completed
  | store function args =>
    rw [ExecuteThunk.execute, StoreFunction.execute_eq] at completed
    exact .storeRegister completed
  | lr byteLength args =>
    obtain ⟨extend, same⟩ := executeLr_eq byteLength
    rw [ExecuteThunk.execute, same] at completed
    exact .loadReserved completed
  | sc byteLength args =>
    rw [ExecuteThunk.execute, executeSc_eq] at completed
    exact .storeConditional completed
  | amo function byteLength args =>
    obtain ⟨combine, same⟩ := function.execute_eq
    rw [ExecuteThunk.execute, same] at completed
    exact .amoReadModifyWrite completed
  | op function args =>
    obtain ⟨operation, same⟩ := function.execute_eq
    rw [ExecuteThunk.execute, same] at completed
    exact .completeWith completed
  | opImm function args =>
    obtain ⟨operation, same⟩ := function.execute_eq
    rw [ExecuteThunk.execute, same] at completed
    exact .completeWith completed
  | shiftImm function args =>
    obtain ⟨operation, same⟩ := function.execute_eq
    rw [ExecuteThunk.execute, same] at completed
    exact .completeWith completed
  | ecall | ebreak | illegalInstruction | illegalC => cases completed
  | mret =>
    simp only [ExecuteThunk.execute, mret] at completed
    split at completed
    · cases completed
    · rename_i inMachine
      cases completed
      exact .machineReturn (by simpa using inMachine) rfl
  | sret =>
    simp only [ExecuteThunk.execute, sret] at completed
    split at completed
    · cases completed
    split at completed
    · cases completed
    · rename_i notUser _
      cases completed
      exact .supervisorReturn (by simpa using notUser) rfl
  | wfi =>
    simp only [ExecuteThunk.execute, wfi] at completed
    split at completed
    · cases completed
    · obtain ⟨turned, left, sampled, ended | ⟨fromLevel, ended⟩⟩ := wfiTurn_samples
        (retireInstructionNow (advanceProgramCounter registers length)) memory
      · rw [ended] at completed
        cases completed
        exact .woken rfl sampled
      · rw [ended] at completed
        cases completed
  | sfenceVma word =>
    simp only [ExecuteThunk.execute, sfenceVma] at completed
    split at completed
    · cases completed
    split at completed
    · cases completed
    · cases completed
      exact .moved
  | csrRegister function args => exact .controlAndStatus rfl completed
  | csrImmediate function args => exact .controlAndStatus rfl completed

end YaRiscV.Emulator
