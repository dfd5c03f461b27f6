import YaRiscV.Emulator.Cpu.Decode.Encodings

/-! `decode32` against the opcode table: what it accepts, and as which instruction. -/

namespace YaRiscV.Emulator

open YaRiscV.Library YaRiscV.Utils

/-- The instruction a mnemonic names, on the operands of `word`. -/
def executeMnemonic (registers : Registers) (memory : Memory) (word : BitVec 32) (length : Bytes8)
    (mnemonic : Rv64.Mnemonic) : Execution :=
  let rd := Rv64.rdOf word
  let rs1 := Rv64.rs1Of word
  let rs2 := Rv64.rs2Of word
  let csr := Rv64.csrOf word
  match mnemonic with
  | .lui => lui registers memory ⟨rd, Rv64.immU word⟩ length
  | .auipc => auipc registers memory ⟨rd, Rv64.immU word⟩ length
  | .jal => jal registers memory ⟨rd, Rv64.immJ word⟩ length
  | .jalr => jalr registers memory ⟨rd, rs1, Rv64.immI word⟩ length
  | .beq => beq registers memory ⟨rs1, rs2, Rv64.immB word⟩ length
  | .bne => bne registers memory ⟨rs1, rs2, Rv64.immB word⟩ length
  | .blt => blt registers memory ⟨rs1, rs2, Rv64.immB word⟩ length
  | .bge => bge registers memory ⟨rs1, rs2, Rv64.immB word⟩ length
  | .bltu => bltu registers memory ⟨rs1, rs2, Rv64.immB word⟩ length
  | .bgeu => bgeu registers memory ⟨rs1, rs2, Rv64.immB word⟩ length
  | .lb => lb registers memory ⟨rd, rs1, Rv64.immI word⟩ length
  | .lh => lh registers memory ⟨rd, rs1, Rv64.immI word⟩ length
  | .lw => lw registers memory ⟨rd, rs1, Rv64.immI word⟩ length
  | .ld => ld registers memory ⟨rd, rs1, Rv64.immI word⟩ length
  | .lbu => lbu registers memory ⟨rd, rs1, Rv64.immI word⟩ length
  | .lhu => lhu registers memory ⟨rd, rs1, Rv64.immI word⟩ length
  | .lwu => lwu registers memory ⟨rd, rs1, Rv64.immI word⟩ length
  | .sb => sb registers memory ⟨rs1, rs2, Rv64.immS word⟩ length
  | .sh => sh registers memory ⟨rs1, rs2, Rv64.immS word⟩ length
  | .sw => sw registers memory ⟨rs1, rs2, Rv64.immS word⟩ length
  | .sd => sd registers memory ⟨rs1, rs2, Rv64.immS word⟩ length
  | .addi => addi registers memory ⟨rd, rs1, Rv64.immI word⟩ length
  | .slti => slti registers memory ⟨rd, rs1, Rv64.immI word⟩ length
  | .sltiu => sltiu registers memory ⟨rd, rs1, Rv64.immI word⟩ length
  | .xori => xori registers memory ⟨rd, rs1, Rv64.immI word⟩ length
  | .ori => ori registers memory ⟨rd, rs1, Rv64.immI word⟩ length
  | .andi => andi registers memory ⟨rd, rs1, Rv64.immI word⟩ length
  | .slli => slli registers memory ⟨rd, rs1, (Rv64.shamt6Of word).toNat⟩ length
  | .srli => srli registers memory ⟨rd, rs1, (Rv64.shamt6Of word).toNat⟩ length
  | .srai => srai registers memory ⟨rd, rs1, (Rv64.shamt6Of word).toNat⟩ length
  | .addiw => addiw registers memory ⟨rd, rs1, Rv64.immI word⟩ length
  | .slliw => slliw registers memory ⟨rd, rs1, (Rv64.shamt5Of word).toNat⟩ length
  | .srliw => srliw registers memory ⟨rd, rs1, (Rv64.shamt5Of word).toNat⟩ length
  | .sraiw => sraiw registers memory ⟨rd, rs1, (Rv64.shamt5Of word).toNat⟩ length
  | .add => add registers memory ⟨rd, rs1, rs2⟩ length
  | .sub => sub registers memory ⟨rd, rs1, rs2⟩ length
  | .sll => sll registers memory ⟨rd, rs1, rs2⟩ length
  | .slt => slt registers memory ⟨rd, rs1, rs2⟩ length
  | .sltu => sltu registers memory ⟨rd, rs1, rs2⟩ length
  | .xor => xor registers memory ⟨rd, rs1, rs2⟩ length
  | .srl => srl registers memory ⟨rd, rs1, rs2⟩ length
  | .sra => sra registers memory ⟨rd, rs1, rs2⟩ length
  | .or => or registers memory ⟨rd, rs1, rs2⟩ length
  | .and => and registers memory ⟨rd, rs1, rs2⟩ length
  | .addw => addw registers memory ⟨rd, rs1, rs2⟩ length
  | .subw => subw registers memory ⟨rd, rs1, rs2⟩ length
  | .sllw => sllw registers memory ⟨rd, rs1, rs2⟩ length
  | .srlw => srlw registers memory ⟨rd, rs1, rs2⟩ length
  | .sraw => sraw registers memory ⟨rd, rs1, rs2⟩ length
  | .mul => mul registers memory ⟨rd, rs1, rs2⟩ length
  | .mulh => mulh registers memory ⟨rd, rs1, rs2⟩ length
  | .mulhsu => mulhsu registers memory ⟨rd, rs1, rs2⟩ length
  | .mulhu => mulhu registers memory ⟨rd, rs1, rs2⟩ length
  | .div => div registers memory ⟨rd, rs1, rs2⟩ length
  | .divu => divu registers memory ⟨rd, rs1, rs2⟩ length
  | .rem => rem registers memory ⟨rd, rs1, rs2⟩ length
  | .remu => remu registers memory ⟨rd, rs1, rs2⟩ length
  | .mulw => mulw registers memory ⟨rd, rs1, rs2⟩ length
  | .divw => divw registers memory ⟨rd, rs1, rs2⟩ length
  | .divuw => divuw registers memory ⟨rd, rs1, rs2⟩ length
  | .remw => remw registers memory ⟨rd, rs1, rs2⟩ length
  | .remuw => remuw registers memory ⟨rd, rs1, rs2⟩ length
  | .lrW => lrW registers memory ⟨rd, rs1, rs2⟩ length
  | .scW => scW registers memory ⟨rd, rs1, rs2⟩ length
  | .amoswapW => amoswap registers memory ⟨rd, rs1, rs2⟩ .word length
  | .amoaddW => amoadd registers memory ⟨rd, rs1, rs2⟩ .word length
  | .amoxorW => amoxor registers memory ⟨rd, rs1, rs2⟩ .word length
  | .amoandW => amoand registers memory ⟨rd, rs1, rs2⟩ .word length
  | .amoorW => amoor registers memory ⟨rd, rs1, rs2⟩ .word length
  | .amominW => amomin registers memory ⟨rd, rs1, rs2⟩ .word length
  | .amomaxW => amomax registers memory ⟨rd, rs1, rs2⟩ .word length
  | .amominuW => amominu registers memory ⟨rd, rs1, rs2⟩ .word length
  | .amomaxuW => amomaxu registers memory ⟨rd, rs1, rs2⟩ .word length
  | .lrD => lrD registers memory ⟨rd, rs1, rs2⟩ length
  | .scD => scD registers memory ⟨rd, rs1, rs2⟩ length
  | .amoswapD => amoswap registers memory ⟨rd, rs1, rs2⟩ .doubleword length
  | .amoaddD => amoadd registers memory ⟨rd, rs1, rs2⟩ .doubleword length
  | .amoxorD => amoxor registers memory ⟨rd, rs1, rs2⟩ .doubleword length
  | .amoandD => amoand registers memory ⟨rd, rs1, rs2⟩ .doubleword length
  | .amoorD => amoor registers memory ⟨rd, rs1, rs2⟩ .doubleword length
  | .amominD => amomin registers memory ⟨rd, rs1, rs2⟩ .doubleword length
  | .amomaxD => amomax registers memory ⟨rd, rs1, rs2⟩ .doubleword length
  | .amominuD => amominu registers memory ⟨rd, rs1, rs2⟩ .doubleword length
  | .amomaxuD => amomaxu registers memory ⟨rd, rs1, rs2⟩ .doubleword length
  | .fence => fence registers memory length
  | .fenceI => fenceI registers memory length
  | .csrrw => csrrw registers memory ⟨rd, rs1, csr, word⟩ length
  | .csrrs => csrrs registers memory ⟨rd, rs1, csr, word⟩ length
  | .csrrc => csrrc registers memory ⟨rd, rs1, csr, word⟩ length
  | .csrrwi => csrrwi registers memory ⟨rd, rs1.setWidth 64, csr, word⟩ length
  | .csrrsi => csrrsi registers memory ⟨rd, rs1.setWidth 64, csr, word⟩ length
  | .csrrci => csrrci registers memory ⟨rd, rs1.setWidth 64, csr, word⟩ length
  | .ecall => ecall registers memory
  | .ebreak => ebreak registers memory
  | .sret => sret registers memory
  | .mret => mret registers memory
  | .wfi => wfi registers memory length
  | .sfenceVma => sfenceVma registers memory word length

variable {word : BitVec 32}

/-! Words of the table. -/

theorem decode32_amoW (opcode : word &&& 0x7f = opcodeAmo) (funct3 : function3Of word = funct3AmoW) :
    decode32 word = decodeAmoOfWidth word .word ⟨Rv64.rdOf word, Rv64.rs1Of word, Rv64.rs2Of word⟩ := by
  rw [decode32_amo opcode, decodeAmo, funct3, destinationRegisterOf_eq, sourceRegister1Of_eq, sourceRegister2Of_eq]
  rfl

theorem decode32_amoD (opcode : word &&& 0x7f = opcodeAmo) (funct3 : function3Of word = funct3AmoD) :
    decode32 word = decodeAmoOfWidth word .doubleword ⟨Rv64.rdOf word, Rv64.rs1Of word, Rv64.rs2Of word⟩ := by
  rw [decode32_amo opcode, decodeAmo, funct3, destinationRegisterOf_eq, sourceRegister1Of_eq, sourceRegister2Of_eq]
  rfl

/-- A word that matches an entry executes as that instruction. -/
theorem execute_of_matches (mnemonic : Rv64.Mnemonic) (matched : mnemonic.encoding.Matches word)
    (registers : Registers) (memory : Memory) (length : Bytes8) :
    (decode32 word).execute registers memory length = executeMnemonic registers memory word length mnemonic := by
  have opcode := matched.low 0x7f
  have funct3 : _ → function3Of word = _ := matched.bits 12 0x7
  have funct7 : _ → function7Of word = _ := matched.bits 25 0x7f
  have rd := destinationRegisterOf_eq word
  have rs1 := sourceRegister1Of_eq word
  have rs2 := sourceRegister2Of_eq word
  cases mnemonic with
  | lui | auipc =>
    rw [decode32, opcode (by decide), rd, decodeUTypeImmediate_eq]
    rfl
  | jal =>
    rw [decode32, opcode (by decide), rd, decodeJTypeImmediate_eq]
    rfl
  | jalr =>
    rw [decode32, opcode (by decide), funct3 (by decide), rd, rs1, decodeITypeImmediate_eq]
    rfl
  | beq | bne | blt | bge | bltu | bgeu =>
    rw [decode32_branch (opcode (by decide)), decodeBranch, funct3 (by decide), rs1, rs2, decodeBTypeImmediate_eq]
    rfl
  | lb | lh | lw | ld | lbu | lhu | lwu =>
    rw [decode32_load (opcode (by decide)), decodeLoad, funct3 (by decide), rd, rs1, decodeITypeImmediate_eq]
    rfl
  | sb | sh | sw | sd =>
    rw [decode32_store (opcode (by decide)), decodeStore, funct3 (by decide), rs1, rs2, decodeSTypeImmediate_eq]
    rfl
  | addi | slti | sltiu | xori | ori | andi =>
    rw [decode32_opImm (opcode (by decide)), decodeOpImm, funct3 (by decide), rd, rs1, decodeITypeImmediate_eq]
    rfl
  | slli | srli | srai =>
    have top : (word >>> 26) &&& 0x3f = _ := matched.bits 26 0x3f (by decide)
    have shamt := shiftAmount6_eq word
    rw [decode32_opImm (opcode (by decide)), decodeOpImm, funct3 (by decide), rd, rs1, top, shamt]
    rfl
  | addiw =>
    rw [decode32_opImm32 (opcode (by decide)), decodeOpImm32, funct3 (by decide), rd, rs1, decodeITypeImmediate_eq]
    rfl
  | slliw | srliw | sraiw =>
    have shamt := shiftAmount5_eq word
    rw [decode32_opImm32 (opcode (by decide)), decodeOpImm32, funct3 (by decide), funct7 (by decide), rd, rs1, shamt]
    rfl
  | add | sub | sll | slt | sltu | xor | srl | sra | or | and | mul | mulh | mulhsu | mulhu | div | divu | rem |
    remu =>
    rw [decode32_op (opcode (by decide)), decodeOp, funct3 (by decide), funct7 (by decide), rd, rs1, rs2]
    rfl
  | addw | subw | sllw | srlw | sraw | mulw | divw | divuw | remw | remuw =>
    rw [decode32_op32 (opcode (by decide)), decodeOp32, funct3 (by decide), funct7 (by decide), rd, rs1, rs2]
    rfl
  | lrW =>
    have funct5 := matched.top 27 (by decide)
    have unused : Rv64.rs2Of word = 0 := by
      rw [← rs2, sourceRegister2Of, matched.bits 20 0x1f (by decide)]
      rfl
    rw [decode32_amoW (opcode (by decide)) (funct3 (by decide)), decodeAmoOfWidth, funct5, unused, executeMnemonic,
      unused]
    rfl
  | lrD =>
    have funct5 := matched.top 27 (by decide)
    have unused : Rv64.rs2Of word = 0 := by
      rw [← rs2, sourceRegister2Of, matched.bits 20 0x1f (by decide)]
      rfl
    rw [decode32_amoD (opcode (by decide)) (funct3 (by decide)), decodeAmoOfWidth, funct5, unused, executeMnemonic,
      unused]
    rfl
  | scW | amoswapW | amoaddW | amoxorW | amoandW | amoorW | amominW | amomaxW | amominuW | amomaxuW =>
    have funct5 := matched.top 27 (by decide)
    rw [decode32_amoW (opcode (by decide)) (funct3 (by decide)), decodeAmoOfWidth, funct5]
    rfl
  | scD | amoswapD | amoaddD | amoxorD | amoandD | amoorD | amominD | amomaxD | amominuD | amomaxuD =>
    have funct5 := matched.top 27 (by decide)
    rw [decode32_amoD (opcode (by decide)) (funct3 (by decide)), decodeAmoOfWidth, funct5]
    rfl
  | fence | fenceI =>
    rw [decode32_miscMem (opcode (by decide)), decodeMiscMem, funct3 (by decide)]
    rfl
  | csrrw | csrrs | csrrc =>
    have csr := shifted_setWidth word 20 12
    rw [decode32_system (opcode (by decide)), decodeSystem, funct3 (by decide), rd, rs1, csr]
    rfl
  | csrrwi | csrrsi | csrrci =>
    have csr := shifted_setWidth word 20 12
    rw [decode32_system (opcode (by decide)), decodeSystem, funct3 (by decide), rd, rs1, csr, csrImmediate_eq]
    rfl
  | ecall | ebreak | sret | mret | wfi =>
    rw [matched.whole rfl]
    rfl
  | sfenceVma =>
    have unused : Rv64.rdOf word = 0 := by
      rw [← rd, destinationRegisterOf, matched.bits 7 0x1f (by decide)]
      rfl
    rw [decode32_system (opcode (by decide)), decodeSystem, funct3 (by decide), funct7 (by decide), rd, unused]
    rfl

/-! Words outside the table. -/

/-- A thunk refuses a word, or the word is in the table. -/
def Listed (word : BitVec 32) (thunk : ExecuteThunk) : Prop :=
  thunk = .illegalInstruction word ∨ ∃ mnemonic : Rv64.Mnemonic, mnemonic.encoding.Matches word

variable {operation field3 field5 field6 field7 field12 : BitVec 32}

theorem Listed.refused (word : BitVec 32) : Listed word (.illegalInstruction word) :=
  .inl rfl

theorem Listed.entry (mnemonic : Rv64.Mnemonic) (matched : mnemonic.encoding.Matches word) : Listed word thunk :=
  .inr ⟨mnemonic, matched⟩

/-- A guard that refuses what differs from `expected`. -/
theorem Listed.unless [DecidableEq Value] {field expected : Value}
    (accepted : field = expected → Listed word thunk) :
    Listed word (if field ≠ expected then .illegalInstruction word else thunk) := by
  split
  · exact .refused word
  · rename_i same
    exact accepted (not_not.mp same)

theorem withoutOperands_listed
    (accepted : destinationRegisterOf word = 0 → sourceRegister1Of word = 0 → Listed word thunk) :
    Listed word (withoutOperands word thunk) := by
  unfold withoutOperands
  split
  · exact .refused word
  · rename_i unused
    rw [not_or, not_not, not_not] at unused
    exact accepted unused.1 unused.2

theorem matches_funct3 (opcode : word &&& 0x7f = operation) (funct3 : function3Of word = field3) :
    Rv64.Encoding.Matches ⟨0x707f, operation ||| field3 <<< 12⟩ word :=
  Rv64.Encoding.Matches.field opcode 12 0x7 funct3

theorem matches_funct7 (opcode : word &&& 0x7f = operation) (funct3 : function3Of word = field3)
    (funct7 : function7Of word = field7) :
    Rv64.Encoding.Matches ⟨0xfe00707f, operation ||| field3 <<< 12 ||| field7 <<< 25⟩ word :=
  (matches_funct3 opcode funct3).field 25 0x7f funct7

theorem matches_funct6 (opcode : word &&& 0x7f = operation) (funct3 : function3Of word = field3)
    (funct6 : (word >>> 26) &&& 0x3f = field6) :
    Rv64.Encoding.Matches ⟨0xfc00707f, operation ||| field3 <<< 12 ||| field6 <<< 26⟩ word :=
  (matches_funct3 opcode funct3).field 26 0x3f funct6

theorem matches_funct5 (opcode : word &&& 0x7f = operation) (funct3 : function3Of word = field3)
    (funct5 : word >>> 27 = field5) :
    Rv64.Encoding.Matches ⟨0xf800707f, operation ||| field3 <<< 12 ||| field5 <<< 27⟩ word :=
  (matches_funct3 opcode funct3).field 27 0x1f ((Rv64.shifted_top word 27).trans funct5)

/-- A register field that is zero. -/
theorem field_zero (start : Nat) (unused : ((word >>> start) &&& 0x1f).setWidth 5 = 0) :
    (word >>> start) &&& 0x1f = 0 := by
  rw [shifted_and _ _ 5 0x1f rfl, setWidth_small _ (by decide)] at unused
  rw [shifted_and _ _ 5 0x1f rfl, unused]
  rfl

theorem matches_lr (opcode : word &&& 0x7f = operation) (funct3 : function3Of word = field3)
    (funct5 : word >>> 27 = field5) (unused : sourceRegister2Of word = 0) :
    Rv64.Encoding.Matches ⟨0xf9f0707f, operation ||| field3 <<< 12 ||| field5 <<< 27⟩ word :=
  (matches_funct5 opcode funct3 funct5).zeroField 20 0x1f (field_zero 20 unused)

theorem matches_sfenceVma (opcode : word &&& 0x7f = operation) (funct3 : function3Of word = field3)
    (funct7 : function7Of word = field7) (unused : destinationRegisterOf word = 0) :
    Rv64.Encoding.Matches ⟨0xfe007fff, operation ||| field3 <<< 12 ||| field7 <<< 25⟩ word :=
  (matches_funct7 opcode funct3 funct7).zeroField 7 0x1f (field_zero 7 unused)

theorem matches_funct12 (opcode : word &&& 0x7f = operation) (funct3 : function3Of word = field3)
    (funct12 : word >>> 20 = field12) (rd : destinationRegisterOf word = 0) (rs1 : sourceRegister1Of word = 0) :
    Rv64.Encoding.Matches ⟨0xffffffff, operation ||| field3 <<< 12 ||| field12 <<< 20⟩ word := by
  have fixed := (matches_funct3 opcode funct3).zeroField 7 0x1f (field_zero 7 rd)
  have operands := fixed.zeroField 15 0x1f (field_zero 15 rs1)
  exact operands.field 20 0xfff ((Rv64.shifted_top word 20).trans funct12)

theorem decodeBranch_listed (opcode : word &&& 0x7f = opcodeBranch) : Listed word (decodeBranch word) := by
  unfold decodeBranch
  dsimp only
  split <;> rename_i funct3
  · exact .entry .beq (matches_funct3 opcode funct3)
  · exact .entry .bne (matches_funct3 opcode funct3)
  · exact .entry .blt (matches_funct3 opcode funct3)
  · exact .entry .bge (matches_funct3 opcode funct3)
  · exact .entry .bltu (matches_funct3 opcode funct3)
  · exact .entry .bgeu (matches_funct3 opcode funct3)
  · exact .refused word

theorem decodeLoad_listed (opcode : word &&& 0x7f = opcodeLoad) : Listed word (decodeLoad word) := by
  unfold decodeLoad
  dsimp only
  split <;> rename_i funct3
  · exact .entry .lb (matches_funct3 opcode funct3)
  · exact .entry .lh (matches_funct3 opcode funct3)
  · exact .entry .lw (matches_funct3 opcode funct3)
  · exact .entry .ld (matches_funct3 opcode funct3)
  · exact .entry .lbu (matches_funct3 opcode funct3)
  · exact .entry .lhu (matches_funct3 opcode funct3)
  · exact .entry .lwu (matches_funct3 opcode funct3)
  · exact .refused word

theorem decodeStore_listed (opcode : word &&& 0x7f = opcodeStore) : Listed word (decodeStore word) := by
  unfold decodeStore
  dsimp only
  split <;> rename_i funct3
  · exact .entry .sb (matches_funct3 opcode funct3)
  · exact .entry .sh (matches_funct3 opcode funct3)
  · exact .entry .sw (matches_funct3 opcode funct3)
  · exact .entry .sd (matches_funct3 opcode funct3)
  · exact .refused word

theorem decodeMiscMem_listed (opcode : word &&& 0x7f = opcodeMiscMem) : Listed word (decodeMiscMem word) := by
  unfold decodeMiscMem
  split <;> rename_i funct3
  · exact .entry .fence (matches_funct3 opcode funct3)
  · exact .entry .fenceI (matches_funct3 opcode funct3)
  · exact .refused word

theorem decodeAmoOfWidth_word_listed (opcode : word &&& 0x7f = opcodeAmo)
    (funct3 : function3Of word = funct3AmoW) (args : AmoArgs)
    (second : args.sourceRegister2 = sourceRegister2Of word) :
    Listed word (decodeAmoOfWidth word .word args) := by
  unfold decodeAmoOfWidth
  split <;> rename_i funct5
  · refine .unless fun unused => ?_
    rw [second] at unused
    exact .entry .lrW (matches_lr opcode funct3 funct5 unused)
  · exact .entry .scW (matches_funct5 opcode funct3 funct5)
  · exact .entry .amoswapW (matches_funct5 opcode funct3 funct5)
  · exact .entry .amoaddW (matches_funct5 opcode funct3 funct5)
  · exact .entry .amoxorW (matches_funct5 opcode funct3 funct5)
  · exact .entry .amoorW (matches_funct5 opcode funct3 funct5)
  · exact .entry .amoandW (matches_funct5 opcode funct3 funct5)
  · exact .entry .amominW (matches_funct5 opcode funct3 funct5)
  · exact .entry .amomaxW (matches_funct5 opcode funct3 funct5)
  · exact .entry .amominuW (matches_funct5 opcode funct3 funct5)
  · exact .entry .amomaxuW (matches_funct5 opcode funct3 funct5)
  · exact .refused word

theorem decodeAmoOfWidth_doubleword_listed (opcode : word &&& 0x7f = opcodeAmo)
    (funct3 : function3Of word = funct3AmoD) (args : AmoArgs)
    (second : args.sourceRegister2 = sourceRegister2Of word) :
    Listed word (decodeAmoOfWidth word .doubleword args) := by
  unfold decodeAmoOfWidth
  split <;> rename_i funct5
  · refine .unless fun unused => ?_
    rw [second] at unused
    exact .entry .lrD (matches_lr opcode funct3 funct5 unused)
  · exact .entry .scD (matches_funct5 opcode funct3 funct5)
  · exact .entry .amoswapD (matches_funct5 opcode funct3 funct5)
  · exact .entry .amoaddD (matches_funct5 opcode funct3 funct5)
  · exact .entry .amoxorD (matches_funct5 opcode funct3 funct5)
  · exact .entry .amoorD (matches_funct5 opcode funct3 funct5)
  · exact .entry .amoandD (matches_funct5 opcode funct3 funct5)
  · exact .entry .amominD (matches_funct5 opcode funct3 funct5)
  · exact .entry .amomaxD (matches_funct5 opcode funct3 funct5)
  · exact .entry .amominuD (matches_funct5 opcode funct3 funct5)
  · exact .entry .amomaxuD (matches_funct5 opcode funct3 funct5)
  · exact .refused word

theorem decodeAmo_listed (opcode : word &&& 0x7f = opcodeAmo) : Listed word (decodeAmo word) := by
  unfold decodeAmo
  dsimp only
  split <;> rename_i funct3
  · exact decodeAmoOfWidth_word_listed opcode funct3 _ rfl
  · exact decodeAmoOfWidth_doubleword_listed opcode funct3 _ rfl
  · exact .refused word

theorem decodeOpImm_listed (opcode : word &&& 0x7f = opcodeOpImm) : Listed word (decodeOpImm word) := by
  unfold decodeOpImm
  dsimp only
  split <;> rename_i funct3
  · exact .entry .addi (matches_funct3 opcode funct3)
  · exact .entry .slti (matches_funct3 opcode funct3)
  · exact .entry .sltiu (matches_funct3 opcode funct3)
  · exact .entry .xori (matches_funct3 opcode funct3)
  · exact .entry .ori (matches_funct3 opcode funct3)
  · exact .entry .andi (matches_funct3 opcode funct3)
  · exact .unless fun funct6 => .entry .slli (matches_funct6 opcode funct3 funct6)
  · split
    · rename_i funct6
      exact .entry .srli (matches_funct6 opcode funct3 funct6)
    split
    · rename_i funct6
      exact .entry .srai (matches_funct6 opcode funct3 funct6)
    · exact .refused word
  · exact .refused word

theorem decodeOp_listed (opcode : word &&& 0x7f = opcodeOp) : Listed word (decodeOp word) := by
  unfold decodeOp
  dsimp only
  split
  · rename_i funct7
    split <;> rename_i funct3
    · exact .entry .mul (matches_funct7 opcode funct3 funct7)
    · exact .entry .mulh (matches_funct7 opcode funct3 funct7)
    · exact .entry .mulhsu (matches_funct7 opcode funct3 funct7)
    · exact .entry .mulhu (matches_funct7 opcode funct3 funct7)
    · exact .entry .div (matches_funct7 opcode funct3 funct7)
    · exact .entry .divu (matches_funct7 opcode funct3 funct7)
    · exact .entry .rem (matches_funct7 opcode funct3 funct7)
    · exact .entry .remu (matches_funct7 opcode funct3 funct7)
    · exact .refused word
  split
  · exact .refused word
  · rename_i reserved
    have otherwise (notNormal : function7Of word ≠ funct7Normal) : function7Of word = funct7SubSra :=
      by_contra fun notSubSra => reserved ⟨notNormal, notSubSra⟩
    split <;> rename_i funct3
    · split
      · rename_i funct7
        exact .entry .add (matches_funct7 opcode funct3 funct7)
      · rename_i notNormal
        exact .entry .sub (matches_funct7 opcode funct3 (otherwise notNormal))
    · exact .unless fun funct7 => .entry .sll (matches_funct7 opcode funct3 funct7)
    · exact .unless fun funct7 => .entry .slt (matches_funct7 opcode funct3 funct7)
    · exact .unless fun funct7 => .entry .sltu (matches_funct7 opcode funct3 funct7)
    · exact .unless fun funct7 => .entry .xor (matches_funct7 opcode funct3 funct7)
    · split
      · rename_i funct7
        exact .entry .srl (matches_funct7 opcode funct3 funct7)
      · rename_i notNormal
        exact .entry .sra (matches_funct7 opcode funct3 (otherwise notNormal))
    · exact .unless fun funct7 => .entry .or (matches_funct7 opcode funct3 funct7)
    · exact .unless fun funct7 => .entry .and (matches_funct7 opcode funct3 funct7)
    · exact .refused word

theorem decodeOp32_listed (opcode : word &&& 0x7f = opcodeOp32) : Listed word (decodeOp32 word) := by
  unfold decodeOp32
  dsimp only
  split
  · rename_i funct7
    split <;> rename_i funct3
    · exact .entry .mulw (matches_funct7 opcode funct3 funct7)
    · exact .entry .divw (matches_funct7 opcode funct3 funct7)
    · exact .entry .divuw (matches_funct7 opcode funct3 funct7)
    · exact .entry .remw (matches_funct7 opcode funct3 funct7)
    · exact .entry .remuw (matches_funct7 opcode funct3 funct7)
    · exact .refused word
  split
  · exact .refused word
  · rename_i reserved
    have otherwise (notNormal : function7Of word ≠ funct7Normal) : function7Of word = funct7SubSra :=
      by_contra fun notSubSra => reserved ⟨notNormal, notSubSra⟩
    split <;> rename_i funct3
    · split
      · rename_i funct7
        exact .entry .addw (matches_funct7 opcode funct3 funct7)
      · rename_i notNormal
        exact .entry .subw (matches_funct7 opcode funct3 (otherwise notNormal))
    · exact .unless fun funct7 => .entry .sllw (matches_funct7 opcode funct3 funct7)
    · split
      · rename_i funct7
        exact .entry .srlw (matches_funct7 opcode funct3 funct7)
      · rename_i notNormal
        exact .entry .sraw (matches_funct7 opcode funct3 (otherwise notNormal))
    · exact .refused word

theorem decodeOpImm32_listed (opcode : word &&& 0x7f = opcodeOpImm32) : Listed word (decodeOpImm32 word) := by
  unfold decodeOpImm32
  dsimp only
  split <;> rename_i funct3
  · exact .entry .addiw (matches_funct3 opcode funct3)
  · exact .unless fun funct7 => .entry .slliw (matches_funct7 opcode funct3 funct7)
  · split
    · rename_i funct7
      exact .entry .srliw (matches_funct7 opcode funct3 funct7)
    split
    · rename_i funct7
      exact .entry .sraiw (matches_funct7 opcode funct3 funct7)
    · exact .refused word
  · exact .refused word

theorem decodeSystem_listed (opcode : word &&& 0x7f = opcodeSystem) : Listed word (decodeSystem word) := by
  unfold decodeSystem
  dsimp only
  split <;> rename_i funct3
  · split
    · rename_i funct7
      refine .unless fun unused => ?_
      exact .entry .sfenceVma (matches_sfenceVma opcode funct3 funct7 unused)
    split <;> rename_i funct12
    · exact withoutOperands_listed fun rd rs1 => .entry .ecall (matches_funct12 opcode funct3 funct12 rd rs1)
    · exact withoutOperands_listed fun rd rs1 => .entry .ebreak (matches_funct12 opcode funct3 funct12 rd rs1)
    · exact withoutOperands_listed fun rd rs1 => .entry .sret (matches_funct12 opcode funct3 funct12 rd rs1)
    · exact withoutOperands_listed fun rd rs1 => .entry .wfi (matches_funct12 opcode funct3 funct12 rd rs1)
    · exact withoutOperands_listed fun rd rs1 => .entry .mret (matches_funct12 opcode funct3 funct12 rd rs1)
    · exact .refused word
  · exact .entry .csrrw (matches_funct3 opcode funct3)
  · exact .entry .csrrs (matches_funct3 opcode funct3)
  · exact .entry .csrrc (matches_funct3 opcode funct3)
  · exact .entry .csrrwi (matches_funct3 opcode funct3)
  · exact .entry .csrrsi (matches_funct3 opcode funct3)
  · exact .entry .csrrci (matches_funct3 opcode funct3)
  · exact .refused word

/-- `decode32` refuses every word outside the table. -/
theorem decode32_listed (word : BitVec 32) : Listed word (decode32 word) := by
  unfold decode32
  dsimp only
  split <;> rename_i opcode
  · exact .entry .lui opcode
  · exact .entry .auipc opcode
  · exact .entry .jal opcode
  · exact .unless fun funct3 => .entry .jalr (matches_funct3 opcode funct3)
  · exact decodeBranch_listed opcode
  · exact decodeLoad_listed opcode
  · exact decodeStore_listed opcode
  · exact decodeAmo_listed opcode
  · exact decodeOpImm_listed opcode
  · exact decodeOp_listed opcode
  · exact decodeOpImm32_listed opcode
  · exact decodeOp32_listed opcode
  · exact decodeMiscMem_listed opcode
  · exact decodeSystem_listed opcode
  · exact .refused word

end YaRiscV.Emulator
