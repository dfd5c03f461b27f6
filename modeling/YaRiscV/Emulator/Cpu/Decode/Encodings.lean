import YaRiscV.Library.Rv64
import YaRiscV.Library.OpcodeTable
import YaRiscV.Emulator.Cpu.Decode.Decode32
import Mathlib.Tactic.IntervalCases

/-! What `decode32` makes of the RV64I words: every field is read where the format puts it. -/

namespace YaRiscV.Emulator

open YaRiscV.Library YaRiscV.Utils

theorem unsignedNumberToBytes_eq (value : BitVec 32) : unsignedNumberToBytes value = value.setWidth 64 := by
  apply BitVec.eq_of_toNat_eq
  have bound := value.isLt
  simp only [unsignedNumberToBytes, uint8ArrayOf, Rv64.toNat_append_add, BitVec.toNat_setWidth,
    BitVec.toNat_ushiftRight, Nat.shiftRight_eq_div_pow, BitVec.ofNat_eq_ofNat, BitVec.toNat_ofNat]
  omega

/-- A shift and a mask read a field. -/
theorem shifted_and (word : BitVec 32) (start count : Nat) (mask : BitVec 32)
    (covers : mask = BitVec.ofNat 32 (2 ^ count - 1)) :
    (word >>> start) &&& mask = (word.extractLsb' start count).setWidth 32 := by
  apply BitVec.eq_of_getLsbD_eq
  intro bit inside
  subst covers
  simp only [BitVec.getLsbD_and, BitVec.getLsbD_ushiftRight, BitVec.getLsbD_setWidth, BitVec.getLsbD_extractLsb',
    inside, BitVec.getLsbD_ofNat, Nat.testBit_two_pow_sub_one, decide_true, Bool.true_and, Bool.and_comm]

theorem masked (word : BitVec 32) (count : Nat) (mask : BitVec 32)
    (covers : mask = BitVec.ofNat 32 (2 ^ count - 1)) : word &&& mask = (word.extractLsb' 0 count).setWidth 32 := by
  rw [← shifted_and word 0 count mask covers, BitVec.ushiftRight_zero]

theorem shifted_setWidth (word : BitVec 32) (start count : Nat) :
    (word >>> start).setWidth count = word.extractLsb' start count := by
  apply BitVec.eq_of_getLsbD_eq
  intro bit inside
  simp only [BitVec.getLsbD_setWidth, BitVec.getLsbD_ushiftRight, BitVec.getLsbD_extractLsb']

theorem setWidth_small (field : BitVec count) (fits : count ≤ 32) : (field.setWidth 32).setWidth count = field := by
  rw [BitVec.setWidth_setWidth_of_le _ fits, BitVec.setWidth_eq]

/-! The operands of any word. -/

theorem destinationRegisterOf_eq (word : BitVec 32) : destinationRegisterOf word = Rv64.rdOf word := by
  rw [destinationRegisterOf, shifted_and _ _ 5 0x1f rfl, setWidth_small _ (by decide), Rv64.rdOf]

theorem sourceRegister1Of_eq (word : BitVec 32) : sourceRegister1Of word = Rv64.rs1Of word := by
  rw [sourceRegister1Of, shifted_and _ _ 5 0x1f rfl, setWidth_small _ (by decide), Rv64.rs1Of]

theorem sourceRegister2Of_eq (word : BitVec 32) : sourceRegister2Of word = Rv64.rs2Of word := by
  rw [sourceRegister2Of, shifted_and _ _ 5 0x1f rfl, setWidth_small _ (by decide), Rv64.rs2Of]

theorem decodeITypeImmediate_eq (word : BitVec 32) : decodeITypeImmediate word = Rv64.immI word := by
  rw [decodeITypeImmediate, signedNumberToBytes_eq _ 12 (by decide) (by decide), shifted_setWidth, Rv64.immI]

theorem decodeSTypeImmediate_eq (word : BitVec 32) : decodeSTypeImmediate word = Rv64.immS word := by
  rw [decodeSTypeImmediate, signedNumberToBytes_eq _ 12 (by decide) (by decide), shifted_and _ _ 7 0x7f rfl,
    shifted_and _ _ 5 0x1f rfl, Rv64.immS]
  congr 1
  apply BitVec.eq_of_getLsbD_eq
  intro bit inside
  simp only [BitVec.getLsbD_setWidth, BitVec.getLsbD_or, BitVec.getLsbD_shiftLeft, BitVec.getLsbD_append,
    BitVec.getLsbD_extractLsb']
  interval_cases bit <;> simp

theorem decodeBTypeImmediate_eq (word : BitVec 32) : decodeBTypeImmediate word = Rv64.immB word := by
  rw [decodeBTypeImmediate, signedNumberToBytes_eq _ 13 (by decide) (by decide), Rv64.immB]
  simp only [shifted_and _ _ 1 1 rfl, shifted_and _ _ 6 0x3f rfl, shifted_and _ _ 4 0xf rfl]
  congr 1
  apply BitVec.eq_of_getLsbD_eq
  intro bit inside
  simp only [BitVec.getLsbD_setWidth, BitVec.getLsbD_or, BitVec.getLsbD_shiftLeft, BitVec.getLsbD_append,
    BitVec.getLsbD_extractLsb']
  interval_cases bit <;> simp

theorem decodeUTypeImmediate_eq (word : BitVec 32) : decodeUTypeImmediate word = Rv64.immU word := by
  rw [decodeUTypeImmediate, signedNumberToBytes_eq _ 32 (by decide) (by decide), BitVec.setWidth_eq, Rv64.immU]
  congr 1
  apply BitVec.eq_of_getLsbD_eq
  intro bit inside
  simp only [BitVec.getLsbD_and, BitVec.getLsbD_append, BitVec.getLsbD_extractLsb']
  interval_cases bit <;> simp

theorem decodeJTypeImmediate_eq (word : BitVec 32) : decodeJTypeImmediate word = Rv64.immJ word := by
  rw [decodeJTypeImmediate, signedNumberToBytes_eq _ 21 (by decide) (by decide), Rv64.immJ]
  simp only [shifted_and _ _ 1 1 rfl, shifted_and _ _ 8 0xff rfl, shifted_and _ _ 10 0x3ff rfl]
  congr 1
  apply BitVec.eq_of_getLsbD_eq
  intro bit inside
  simp only [BitVec.getLsbD_setWidth, BitVec.getLsbD_or, BitVec.getLsbD_shiftLeft, BitVec.getLsbD_append,
    BitVec.getLsbD_extractLsb']
  interval_cases bit <;> simp

theorem shiftAmount6_eq (word : BitVec 32) : ((word >>> 20) &&& 0x3f).toNat = (Rv64.shamt6Of word).toNat := by
  rw [shifted_and _ _ 6 0x3f rfl, BitVec.toNat_setWidth_of_le (by decide), Rv64.shamt6Of]

theorem shiftAmount5_eq (word : BitVec 32) : ((word >>> 20) &&& 0x1f).toNat = (Rv64.shamt5Of word).toNat := by
  rw [shifted_and _ _ 5 0x1f rfl, BitVec.toNat_setWidth_of_le (by decide), Rv64.shamt5Of]

/-- The five bits of a CSR immediate are never negative. -/
theorem csrImmediate_eq (field : BitVec 5) : signedNumberToBytes (field.setWidth 32) 32 = field.setWidth 64 := by
  revert field
  decide

/-! The fields of an encoded word. -/

section Fields

variable (funct7 : BitVec 7) (rs2 rs1 : BitVec 5) (funct3 : BitVec 3) (rd : BitVec 5) (opcode : BitVec 7)

theorem opcode_rType : Rv64.rType funct7 rs2 rs1 funct3 rd opcode &&& 0x7f = opcode.setWidth 32 := by
  rw [masked _ 7 0x7f rfl, Rv64.rType_opcode]

theorem destinationRegisterOf_rType : destinationRegisterOf (Rv64.rType funct7 rs2 rs1 funct3 rd opcode) = rd := by
  rw [destinationRegisterOf_eq, Rv64.rdOf, Rv64.rType_rd]

theorem sourceRegister1Of_rType : sourceRegister1Of (Rv64.rType funct7 rs2 rs1 funct3 rd opcode) = rs1 := by
  rw [sourceRegister1Of_eq, Rv64.rs1Of, Rv64.rType_rs1]

theorem sourceRegister2Of_rType : sourceRegister2Of (Rv64.rType funct7 rs2 rs1 funct3 rd opcode) = rs2 := by
  rw [sourceRegister2Of_eq, Rv64.rs2Of, Rv64.rType_rs2]

theorem function3Of_rType : function3Of (Rv64.rType funct7 rs2 rs1 funct3 rd opcode) = funct3.setWidth 32 := by
  rw [function3Of, shifted_and _ _ 3 0x7 rfl, Rv64.rType_funct3]

theorem function7Of_rType : function7Of (Rv64.rType funct7 rs2 rs1 funct3 rd opcode) = funct7.setWidth 32 := by
  rw [function7Of, shifted_and _ _ 7 0x7f rfl, Rv64.rType_funct7]

theorem decodeITypeImmediate_iType (imm : BitVec 12) :
    decodeITypeImmediate (Rv64.iType imm rs1 funct3 rd opcode) = imm.signExtend 64 := by
  rw [decodeITypeImmediate_eq, Rv64.immI, Rv64.iType_imm]

theorem decodeSTypeImmediate_sType (imm : BitVec 12) :
    decodeSTypeImmediate (Rv64.sType imm rs2 rs1 funct3 opcode) = imm.signExtend 64 := by
  rw [decodeSTypeImmediate_eq, Rv64.immS, Rv64.sType, Rv64.rType_funct7, Rv64.rType_rd,
    BitVec.extractLsb'_append_extractLsb'_eq_extractLsb' (by decide)]
  exact congrArg (BitVec.signExtend 64) BitVec.extractLsb'_eq_self

theorem decodeBTypeImmediate_bType (offset : BitVec 13) (even : offset.getLsbD 0 = false) :
    decodeBTypeImmediate (Rv64.bType offset rs2 rs1 funct3 opcode) = offset.signExtend 64 := by
  obtain ⟨sign, bit11, bits10, bits4⟩ := Rv64.bType_offset rs2 rs1 funct3 opcode offset
  rw [decodeBTypeImmediate_eq, Rv64.immB, sign, bit11, bits10, bits4]
  congr 1
  rw [BitVec.getLsbD_eq_getElem (by decide)] at even
  apply BitVec.eq_of_getLsbD_eq
  intro bit inside
  simp only [BitVec.getLsbD_append, BitVec.getLsbD_extractLsb']
  interval_cases bit <;> simp [even]

theorem decodeUTypeImmediate_uType (imm : BitVec 20) :
    decodeUTypeImmediate (Rv64.uType imm rd opcode) = (imm ++ 0#12).signExtend 64 := by
  rw [decodeUTypeImmediate_eq, Rv64.immU, Rv64.uType_imm]

theorem decodeJTypeImmediate_jType (offset : BitVec 21) (even : offset.getLsbD 0 = false) :
    decodeJTypeImmediate (Rv64.jType offset rd opcode) = offset.signExtend 64 := by
  obtain ⟨sign, bits19, bit11, bits10⟩ := Rv64.jType_offset rd opcode offset
  rw [decodeJTypeImmediate_eq, Rv64.immJ, sign, bits19, bit11, bits10]
  congr 1
  rw [BitVec.getLsbD_eq_getElem (by decide)] at even
  apply BitVec.eq_of_getLsbD_eq
  intro bit inside
  simp only [BitVec.getLsbD_append, BitVec.getLsbD_extractLsb']
  interval_cases bit <;> simp [even]

/-- The shift amount, and the bits that tell the shifts apart. -/
theorem shamt_iType (top shamt : BitVec 6) :
    (((Rv64.iType (top ++ shamt) rs1 funct3 rd opcode) >>> 20) &&& 0x3f).toNat = shamt.toNat ∧
      ((Rv64.iType (top ++ shamt) rs1 funct3 rd opcode) >>> 26) &&& 0x3f = top.setWidth 32 := by
  obtain ⟨amount, above⟩ := Rv64.iType_shamt rs1 funct3 rd opcode top shamt
  rw [shifted_and _ _ 6 0x3f rfl, shifted_and _ _ 6 0x3f rfl, amount, above]
  exact ⟨BitVec.toNat_setWidth_of_le (by decide), rfl⟩

end Fields

/-! What each opcode selects. -/

section Opcodes

variable {word : BitVec 32}

theorem decode32_branch (opcode : word &&& 0x7f = opcodeBranch) : decode32 word = decodeBranch word := by
  rw [decode32, opcode]
  rfl

theorem decode32_load (opcode : word &&& 0x7f = opcodeLoad) : decode32 word = decodeLoad word := by
  rw [decode32, opcode]
  rfl

theorem decode32_store (opcode : word &&& 0x7f = opcodeStore) : decode32 word = decodeStore word := by
  rw [decode32, opcode]
  rfl

theorem decode32_opImm (opcode : word &&& 0x7f = opcodeOpImm) : decode32 word = decodeOpImm word := by
  rw [decode32, opcode]
  rfl

theorem decode32_opImm32 (opcode : word &&& 0x7f = opcodeOpImm32) : decode32 word = decodeOpImm32 word := by
  rw [decode32, opcode]
  rfl

theorem decode32_op (opcode : word &&& 0x7f = opcodeOp) : decode32 word = decodeOp word := by
  rw [decode32, opcode]
  rfl

theorem decode32_amo (opcode : word &&& 0x7f = opcodeAmo) : decode32 word = decodeAmo word := by
  rw [decode32, opcode]
  rfl

theorem decode32_miscMem (opcode : word &&& 0x7f = opcodeMiscMem) : decode32 word = decodeMiscMem word := by
  rw [decode32, opcode]
  rfl

theorem decode32_system (opcode : word &&& 0x7f = opcodeSystem) : decode32 word = decodeSystem word := by
  rw [decode32, opcode]
  rfl

theorem decode32_op32 (opcode : word &&& 0x7f = opcodeOp32) : decode32 word = decodeOp32 word := by
  rw [decode32, opcode]
  rfl

end Opcodes

section Instructions

variable (rd rs1 rs2 : BitVec 5) (imm : BitVec 12) (shamt : BitVec 6)

theorem decode32_lui (upper : BitVec 20) :
    decode32 (Rv64.lui rd upper) = .lui ⟨rd, (upper ++ 0#12).signExtend 64⟩ := by
  have immediate := decodeUTypeImmediate_uType rd 0b0110111 upper
  rw [Rv64.lui, decode32, immediate, Rv64.uType, opcode_rType, destinationRegisterOf_rType]
  rfl

theorem decode32_jal (offset : BitVec 21) (even : offset.getLsbD 0 = false) :
    decode32 (Rv64.jal rd offset) = .jal ⟨rd, offset.signExtend 64⟩ := by
  have immediate := decodeJTypeImmediate_jType rd 0b1101111 offset even
  rw [Rv64.jal, decode32, immediate, Rv64.jType, Rv64.uType, opcode_rType, destinationRegisterOf_rType]
  rfl

theorem decode32_jalr : decode32 (Rv64.jalr rd rs1 imm) = .jalr ⟨rd, rs1, imm.signExtend 64⟩ := by
  have immediate := decodeITypeImmediate_iType rs1 0b000 rd 0b1100111 imm
  rw [Rv64.jalr, decode32, immediate, Rv64.iType, opcode_rType, destinationRegisterOf_rType,
    sourceRegister1Of_rType, function3Of_rType]
  rfl

theorem decode32_beq (offset : BitVec 13) (even : offset.getLsbD 0 = false) :
    decode32 (Rv64.beq rs1 rs2 offset) = .branch .beq ⟨rs1, rs2, offset.signExtend 64⟩ := by
  have immediate := decodeBTypeImmediate_bType rs2 rs1 0b000 0b1100011 offset even
  rw [Rv64.beq, decode32_branch (opcode_rType _ _ _ _ _ _), decodeBranch, immediate, Rv64.bType,
    sourceRegister1Of_rType, sourceRegister2Of_rType, function3Of_rType]
  rfl

theorem decode32_bne (offset : BitVec 13) (even : offset.getLsbD 0 = false) :
    decode32 (Rv64.bne rs1 rs2 offset) = .branch .bne ⟨rs1, rs2, offset.signExtend 64⟩ := by
  have immediate := decodeBTypeImmediate_bType rs2 rs1 0b001 0b1100011 offset even
  rw [Rv64.bne, decode32_branch (opcode_rType _ _ _ _ _ _), decodeBranch, immediate, Rv64.bType,
    sourceRegister1Of_rType, sourceRegister2Of_rType, function3Of_rType]
  rfl

theorem decode32_lw : decode32 (Rv64.lw rd rs1 imm) = .load .lw ⟨rd, rs1, imm.signExtend 64⟩ := by
  have immediate := decodeITypeImmediate_iType rs1 0b010 rd 0b0000011 imm
  rw [Rv64.lw, decode32_load (opcode_rType _ _ _ _ _ _), decodeLoad, immediate, Rv64.iType,
    destinationRegisterOf_rType, sourceRegister1Of_rType, function3Of_rType]
  rfl

theorem decode32_ld : decode32 (Rv64.ld rd rs1 imm) = .load .ld ⟨rd, rs1, imm.signExtend 64⟩ := by
  have immediate := decodeITypeImmediate_iType rs1 0b011 rd 0b0000011 imm
  rw [Rv64.ld, decode32_load (opcode_rType _ _ _ _ _ _), decodeLoad, immediate, Rv64.iType,
    destinationRegisterOf_rType, sourceRegister1Of_rType, function3Of_rType]
  rfl

theorem decode32_sw : decode32 (Rv64.sw rs1 rs2 imm) = .store .sw ⟨rs1, rs2, imm.signExtend 64⟩ := by
  have immediate := decodeSTypeImmediate_sType rs2 rs1 0b010 0b0100011 imm
  rw [Rv64.sw, decode32_store (opcode_rType _ _ _ _ _ _), decodeStore, immediate, Rv64.sType,
    sourceRegister1Of_rType, sourceRegister2Of_rType, function3Of_rType]
  rfl

theorem decode32_sd : decode32 (Rv64.sd rs1 rs2 imm) = .store .sd ⟨rs1, rs2, imm.signExtend 64⟩ := by
  have immediate := decodeSTypeImmediate_sType rs2 rs1 0b011 0b0100011 imm
  rw [Rv64.sd, decode32_store (opcode_rType _ _ _ _ _ _), decodeStore, immediate, Rv64.sType,
    sourceRegister1Of_rType, sourceRegister2Of_rType, function3Of_rType]
  rfl

theorem decode32_addi : decode32 (Rv64.addi rd rs1 imm) = .opImm .addi ⟨rd, rs1, imm.signExtend 64⟩ := by
  have immediate := decodeITypeImmediate_iType rs1 0b000 rd 0b0010011 imm
  rw [Rv64.addi, decode32_opImm (opcode_rType _ _ _ _ _ _), decodeOpImm, immediate, Rv64.iType,
    destinationRegisterOf_rType, sourceRegister1Of_rType, function3Of_rType]
  rfl

theorem decode32_andi : decode32 (Rv64.andi rd rs1 imm) = .opImm .andi ⟨rd, rs1, imm.signExtend 64⟩ := by
  have immediate := decodeITypeImmediate_iType rs1 0b111 rd 0b0010011 imm
  rw [Rv64.andi, decode32_opImm (opcode_rType _ _ _ _ _ _), decodeOpImm, immediate, Rv64.iType,
    destinationRegisterOf_rType, sourceRegister1Of_rType, function3Of_rType]
  rfl

theorem decode32_addiw : decode32 (Rv64.addiw rd rs1 imm) = .opImm .addiw ⟨rd, rs1, imm.signExtend 64⟩ := by
  have immediate := decodeITypeImmediate_iType rs1 0b000 rd 0b0011011 imm
  rw [Rv64.addiw, decode32_opImm32 (opcode_rType _ _ _ _ _ _), decodeOpImm32, immediate, Rv64.iType,
    destinationRegisterOf_rType, sourceRegister1Of_rType, function3Of_rType]
  rfl

theorem decode32_slli : decode32 (Rv64.slli rd rs1 shamt) = .shiftImm .slli ⟨rd, rs1, shamt.toNat⟩ := by
  obtain ⟨amount, top⟩ := shamt_iType rs1 0b001 rd 0b0010011 0b000000#6 shamt
  rw [Rv64.slli, decode32_opImm (opcode_rType _ _ _ _ _ _), decodeOpImm, amount, top, Rv64.iType,
    destinationRegisterOf_rType, sourceRegister1Of_rType, function3Of_rType]
  rfl

theorem decode32_srli : decode32 (Rv64.srli rd rs1 shamt) = .shiftImm .srli ⟨rd, rs1, shamt.toNat⟩ := by
  obtain ⟨amount, top⟩ := shamt_iType rs1 0b101 rd 0b0010011 0b000000#6 shamt
  rw [Rv64.srli, decode32_opImm (opcode_rType _ _ _ _ _ _), decodeOpImm, amount, top, Rv64.iType,
    destinationRegisterOf_rType, sourceRegister1Of_rType, function3Of_rType]
  rfl

theorem decode32_srai : decode32 (Rv64.srai rd rs1 shamt) = .shiftImm .srai ⟨rd, rs1, shamt.toNat⟩ := by
  obtain ⟨amount, top⟩ := shamt_iType rs1 0b101 rd 0b0010011 0b010000#6 shamt
  rw [Rv64.srai, decode32_opImm (opcode_rType _ _ _ _ _ _), decodeOpImm, amount, top, Rv64.iType,
    destinationRegisterOf_rType, sourceRegister1Of_rType, function3Of_rType]
  rfl

theorem decode32_add : decode32 (Rv64.add rd rs1 rs2) = .op .add ⟨rd, rs1, rs2⟩ := by
  rw [Rv64.add, decode32_op (opcode_rType _ _ _ _ _ _), decodeOp, destinationRegisterOf_rType,
    sourceRegister1Of_rType, sourceRegister2Of_rType, function3Of_rType, function7Of_rType]
  rfl

theorem decode32_sub : decode32 (Rv64.sub rd rs1 rs2) = .op .sub ⟨rd, rs1, rs2⟩ := by
  rw [Rv64.sub, decode32_op (opcode_rType _ _ _ _ _ _), decodeOp, destinationRegisterOf_rType,
    sourceRegister1Of_rType, sourceRegister2Of_rType, function3Of_rType, function7Of_rType]
  rfl

theorem decode32_xor : decode32 (Rv64.xor rd rs1 rs2) = .op .xor ⟨rd, rs1, rs2⟩ := by
  rw [Rv64.xor, decode32_op (opcode_rType _ _ _ _ _ _), decodeOp, destinationRegisterOf_rType,
    sourceRegister1Of_rType, sourceRegister2Of_rType, function3Of_rType, function7Of_rType]
  rfl

theorem decode32_or : decode32 (Rv64.or rd rs1 rs2) = .op .or ⟨rd, rs1, rs2⟩ := by
  rw [Rv64.or, decode32_op (opcode_rType _ _ _ _ _ _), decodeOp, destinationRegisterOf_rType,
    sourceRegister1Of_rType, sourceRegister2Of_rType, function3Of_rType, function7Of_rType]
  rfl

theorem decode32_and : decode32 (Rv64.and rd rs1 rs2) = .op .and ⟨rd, rs1, rs2⟩ := by
  rw [Rv64.and, decode32_op (opcode_rType _ _ _ _ _ _), decodeOp, destinationRegisterOf_rType,
    sourceRegister1Of_rType, sourceRegister2Of_rType, function3Of_rType, function7Of_rType]
  rfl

theorem decode32_addw : decode32 (Rv64.addw rd rs1 rs2) = .op .addw ⟨rd, rs1, rs2⟩ := by
  rw [Rv64.addw, decode32_op32 (opcode_rType _ _ _ _ _ _), decodeOp32, destinationRegisterOf_rType,
    sourceRegister1Of_rType, sourceRegister2Of_rType, function3Of_rType, function7Of_rType]
  rfl

theorem decode32_subw : decode32 (Rv64.subw rd rs1 rs2) = .op .subw ⟨rd, rs1, rs2⟩ := by
  rw [Rv64.subw, decode32_op32 (opcode_rType _ _ _ _ _ _), decodeOp32, destinationRegisterOf_rType,
    sourceRegister1Of_rType, sourceRegister2Of_rType, function3Of_rType, function7Of_rType]
  rfl

theorem decode32_ebreak : decode32 Rv64.ebreak = .ebreak := by
  rfl

end Instructions

end YaRiscV.Emulator
