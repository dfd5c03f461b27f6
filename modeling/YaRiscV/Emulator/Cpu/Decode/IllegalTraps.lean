import YaRiscV.Emulator.Cpu.Decode.Acceptance
import YaRiscV.Emulator.Cpu.TrapPrecision

/-! What a 32-bit word does, from the opcode table: the instruction it matches or the
illegal-instruction trap, which records the word either way. -/

namespace YaRiscV.Emulator

open YaRiscV.Library YaRiscV.Utils

/-- The word is what the opcode table says it is, on every state. -/
structure DecodedByTable (word : BitVec 32) : Prop where
  accepted : ∀ mnemonic : Rv64.Mnemonic, mnemonic.encoding.Matches word → ∀ registers memory length,
    (decode32 word).execute registers memory length = executeMnemonic registers memory word length mnemonic
  refused : (∀ mnemonic : Rv64.Mnemonic, ¬ mnemonic.encoding.Matches word) → ∀ registers memory length,
    (decode32 word).execute registers memory length =
      .trapped (enterTrap registers causeIllegalInstruction (word.setWidth 64)) memory
  recorded : ∀ registers memory length after memory',
    (decode32 word).execute registers memory length = .trapped after memory' →
      after.controlAndStatus (trapCause after.privilegeMode) = exceptionCauseBytes causeIllegalInstruction →
        after.controlAndStatus (trapTval after.privilegeMode) = word.setWidth 64

/-- If an execution traps as illegal, it reports `word`. -/
def ReportsIllegal (word : BitVec 32) : Execution → Prop
  | .trapped after _ => ∃ base cause trapValue, after = enterTrap base cause trapValue ∧ cause < 16 ∧
      (cause = causeIllegalInstruction → trapValue = instructionWordTrapValue word)
  | _ => True

variable {registers after : Registers} {memory : Memory} {word : BitVec 32}

namespace ReportsIllegal

theorem illegal (word : BitVec 32) (registers : Registers) (memory : Memory) : ReportsIllegal word
    (.trapped (enterTrap registers causeIllegalInstruction (instructionWordTrapValue word)) memory) :=
  ⟨_, _, _, rfl, by decide, fun _ => rfl⟩

/-- A trap for another reason. -/
theorem fault (exception : cause < 16) (other : cause ≠ causeIllegalInstruction) (trapValue : Bytes8) :
    ReportsIllegal word (.trapped (enterTrap registers cause trapValue) memory) :=
  ⟨_, _, _, rfl, exception, fun same => absurd same other⟩

theorem ofExcept {result : Except String Value} {next : Value → Execution}
    (each : ∀ value, ReportsIllegal word (next value)) : ReportsIllegal word (.ofExcept result next) := by
  cases result with
  | error message => trivial
  | ok value => exact each value

theorem loadRegister : ReportsIllegal word (loadRegister registers memory byteLength extend args length) := by
  simp only [Emulator.loadRegister]
  split
  · rename_i denied
    rw [denyLoad_some denied]
    exact .fault (by decide) (by decide) _
  · exact .ofExcept fun _ => trivial

theorem storeRegister : ReportsIllegal word (storeRegister registers memory byteLength args length) := by
  simp only [Emulator.storeRegister]
  split
  · rename_i denied
    rw [denyStore_some denied]
    exact .fault (by decide) (by decide) _
  · exact .ofExcept fun _ => trivial

theorem misaligned (trapped : trapIfAtomicMisaligned registers address byteLength access = some after) :
    ReportsIllegal word (.trapped after memory) := by
  obtain ⟨cause, exception, other, rfl⟩ := trapIfAtomicMisaligned_some trapped
  exact .fault exception other _

theorem pmpDenied (trapped : trapIfPmpDeniesAtomic registers address byteLength access = some after) :
    ReportsIllegal word (.trapped after memory) := by
  obtain ⟨cause, exception, other, rfl⟩ := trapIfPmpDeniesAtomic_some trapped
  exact .fault exception other _

theorem loadReserved : ReportsIllegal word (loadReserved registers memory byteLength extend args length) := by
  simp only [Emulator.loadReserved]
  split
  · rename_i trapped
    exact .misaligned trapped
  split
  · rename_i trapped
    exact .pmpDenied trapped
  split
  · exact .fault (by decide) (by decide) _
  · trivial

theorem storeConditional : ReportsIllegal word (storeConditional registers memory byteLength args length) := by
  simp only [Emulator.storeConditional]
  split
  · rename_i trapped
    exact .misaligned trapped
  split
  · rename_i trapped
    exact .pmpDenied trapped
  split
  · exact .fault (by decide) (by decide) _
  · trivial

theorem amoReadModifyWrite :
    ReportsIllegal word (amoReadModifyWrite registers memory args byteLength combine length) := by
  simp only [Emulator.amoReadModifyWrite]
  split
  · rename_i trapped
    exact .misaligned trapped
  split
  · rename_i trapped
    exact .pmpDenied trapped
  split
  · exact .fault (by decide) (by decide) _
  · trivial

theorem branchIf : ReportsIllegal word (branchIf registers memory condition args length) := by
  simp only [Emulator.branchIf]
  split <;> trivial

theorem csrReadWrite : ReportsIllegal word
    (csrReadWrite registers memory writes update destination index word length) := by
  simp only [Emulator.csrReadWrite]
  split
  · exact .illegal word registers memory
  · exact .ofExcept fun _ => trivial

theorem ecall : ReportsIllegal word (ecall registers memory) := by
  rw [Emulator.ecall, ecallCauseForPrivilege]
  split
  · exact .fault (by decide) (by decide) _
  split
  · exact .fault (by decide) (by decide) _
  · exact .fault (by decide) (by decide) _

theorem mret : ReportsIllegal mretInstructionWord (mret registers memory) := by
  rw [Emulator.mret]
  split
  · exact .illegal _ registers memory
  · trivial

theorem sret : ReportsIllegal sretInstructionWord (sret registers memory) := by
  simp only [Emulator.sret]
  split
  · exact .illegal _ registers memory
  split
  · exact .illegal _ registers memory
  · trivial

theorem sfenceVma : ReportsIllegal word (sfenceVma registers memory word length) := by
  simp only [Emulator.sfenceVma]
  split
  · exact .illegal _ registers memory
  split
  · exact .illegal _ registers memory
  · trivial

theorem wfi : ReportsIllegal wfiInstructionWord (wfi registers memory length) := by
  simp only [Emulator.wfi]
  split
  · exact .illegal _ registers memory
  · obtain ⟨after, left, _, ended | ⟨fromLevel, ended⟩⟩ :=
      wfiTurn_samples (retireInstructionNow (advanceProgramCounter registers length)) memory
    · rw [ended]
      trivial
    · rw [ended]
      trivial

end ReportsIllegal

/-- Every instruction of the table reports its own word. -/
theorem executeMnemonic_reports (mnemonic : Rv64.Mnemonic) (matched : mnemonic.encoding.Matches word)
    (registers : Registers) (memory : Memory) (length : Bytes8) :
    ReportsIllegal word (executeMnemonic registers memory word length mnemonic) := by
  cases mnemonic with
  | beq | bne | blt | bge | bltu | bgeu =>
    simp only [executeMnemonic, beq, bne, blt, bge, bltu, bgeu]
    exact .branchIf
  | lb | lh | lw | ld | lbu | lhu | lwu =>
    simp only [executeMnemonic, lb, lh, lw, ld, lbu, lhu, lwu]
    exact .loadRegister
  | sb | sh | sw | sd =>
    simp only [executeMnemonic, sb, sh, sw, sd]
    exact .storeRegister
  | lrW | lrD =>
    simp only [executeMnemonic, lrW, lrD]
    exact .loadReserved
  | scW | scD =>
    simp only [executeMnemonic, scW, scD]
    exact .storeConditional
  | amoswapW | amoaddW | amoxorW | amoandW | amoorW | amominW | amomaxW | amominuW | amomaxuW =>
    simp only [executeMnemonic, amoswap, amoadd, amoxor, amoand, amoor, amomin, amomax, amominu, amomaxu]
    exact .amoReadModifyWrite
  | amoswapD | amoaddD | amoxorD | amoandD | amoorD | amominD | amomaxD | amominuD | amomaxuD =>
    simp only [executeMnemonic, amoswap, amoadd, amoxor, amoand, amoor, amomin, amomax, amominu, amomaxu]
    exact .amoReadModifyWrite
  | csrrw | csrrs | csrrc | csrrwi | csrrsi | csrrci =>
    simp only [executeMnemonic, csrrw, csrrs, csrrc, csrrwi, csrrsi, csrrci]
    exact .csrReadWrite
  | ecall => exact .ecall
  | ebreak => exact .fault (by decide) (by decide) _
  | mret =>
    rw [matched.whole rfl]
    exact .mret
  | sret =>
    rw [matched.whole rfl]
    exact .sret
  | wfi =>
    rw [matched.whole rfl]
    exact .wfi
  | sfenceVma => exact .sfenceVma
  | _ => trivial

theorem decode32_reports (word : BitVec 32) (registers : Registers) (memory : Memory) (length : Bytes8) :
    ReportsIllegal word ((decode32 word).execute registers memory length) := by
  rcases decode32_listed word with refused | ⟨mnemonic, matched⟩
  · rw [refused]
    exact .illegal word registers memory
  · rw [execute_of_matches mnemonic matched]
    exact executeMnemonic_reports mnemonic matched registers memory length

theorem exceptionCauseBytes_illegal : ∀ cause < 16,
    exceptionCauseBytes cause = exceptionCauseBytes causeIllegalInstruction → cause = causeIllegalInstruction := by
  decide

/-- `decode32` accepts the words of the opcode table, each as its own instruction, and refuses
the others; whatever is refused, then or later, the trap records the word. -/
theorem decode32_byTable (word : BitVec 32) : DecodedByTable word where
  accepted := fun _ matched => execute_of_matches _ matched
  refused := by
    intro unlisted registers memory length
    rcases decode32_listed word with refused | ⟨mnemonic, matched⟩
    · rw [refused, ExecuteThunk.execute, illegalInstruction, instructionWordTrapValue, unsignedNumberToBytes_eq]
    · exact absurd matched (unlisted mnemonic)
  recorded := by
    intro registers memory length after memory' trapped illegal
    have reports := decode32_reports word registers memory length
    rw [trapped] at reports
    obtain ⟨base, cause, trapValue, rfl, exception, reported⟩ := reports
    obtain ⟨causeRecorded, valueRecorded⟩ := enterTrap_recorded base cause trapValue
    rw [causeRecorded] at illegal
    rw [valueRecorded, reported (exceptionCauseBytes_illegal cause exception illegal), instructionWordTrapValue,
      unsignedNumberToBytes_eq]

end YaRiscV.Emulator
