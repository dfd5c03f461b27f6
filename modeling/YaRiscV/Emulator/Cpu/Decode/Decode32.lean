import YaRiscV.Emulator.Cpu.Decode.Thunk

/-! `cpu/decode/decode-32.ts`: the 32-bit encodings of RV64IMA, Zicsr and Zifencei. -/

namespace YaRiscV.Emulator

open YaRiscV.Library YaRiscV.Utils

@[match_pattern] def opcodeLoad : BitVec 32 := 0x03
@[match_pattern] def opcodeMiscMem : BitVec 32 := 0x0f
@[match_pattern] def opcodeOpImm : BitVec 32 := 0x13
@[match_pattern] def opcodeAuipc : BitVec 32 := 0x17
@[match_pattern] def opcodeOpImm32 : BitVec 32 := 0x1b
@[match_pattern] def opcodeStore : BitVec 32 := 0x23
@[match_pattern] def opcodeAmo : BitVec 32 := 0x2f
@[match_pattern] def opcodeOp : BitVec 32 := 0x33
@[match_pattern] def opcodeLui : BitVec 32 := 0x37
@[match_pattern] def opcodeOp32 : BitVec 32 := 0x3b
@[match_pattern] def opcodeBranch : BitVec 32 := 0x63
@[match_pattern] def opcodeJalr : BitVec 32 := 0x67
@[match_pattern] def opcodeJal : BitVec 32 := 0x6f
@[match_pattern] def opcodeSystem : BitVec 32 := 0x73

@[match_pattern] def funct3AddSub : BitVec 32 := 0x0
@[match_pattern] def funct3Sll : BitVec 32 := 0x1
@[match_pattern] def funct3Slt : BitVec 32 := 0x2
@[match_pattern] def funct3Sltu : BitVec 32 := 0x3
@[match_pattern] def funct3Xor : BitVec 32 := 0x4
@[match_pattern] def funct3SrlSra : BitVec 32 := 0x5
@[match_pattern] def funct3Or : BitVec 32 := 0x6
@[match_pattern] def funct3And : BitVec 32 := 0x7

@[match_pattern] def funct3Beq : BitVec 32 := 0x0
@[match_pattern] def funct3Bne : BitVec 32 := 0x1
@[match_pattern] def funct3Blt : BitVec 32 := 0x4
@[match_pattern] def funct3Bge : BitVec 32 := 0x5
@[match_pattern] def funct3Bltu : BitVec 32 := 0x6
@[match_pattern] def funct3Bgeu : BitVec 32 := 0x7

@[match_pattern] def funct3Lb : BitVec 32 := 0x0
@[match_pattern] def funct3Lh : BitVec 32 := 0x1
@[match_pattern] def funct3Lw : BitVec 32 := 0x2
@[match_pattern] def funct3Ld : BitVec 32 := 0x3
@[match_pattern] def funct3Lbu : BitVec 32 := 0x4
@[match_pattern] def funct3Lhu : BitVec 32 := 0x5
@[match_pattern] def funct3Lwu : BitVec 32 := 0x6

@[match_pattern] def funct3Sb : BitVec 32 := 0x0
@[match_pattern] def funct3Sh : BitVec 32 := 0x1
@[match_pattern] def funct3Sw : BitVec 32 := 0x2
@[match_pattern] def funct3Sd : BitVec 32 := 0x3

@[match_pattern] def funct3AmoW : BitVec 32 := 0x2
@[match_pattern] def funct3AmoD : BitVec 32 := 0x3

@[match_pattern] def funct5Amoadd : BitVec 32 := 0x00
@[match_pattern] def funct5Amoswap : BitVec 32 := 0x01
@[match_pattern] def funct5Lr : BitVec 32 := 0x02
@[match_pattern] def funct5Sc : BitVec 32 := 0x03
@[match_pattern] def funct5Amoxor : BitVec 32 := 0x04
@[match_pattern] def funct5Amoor : BitVec 32 := 0x08
@[match_pattern] def funct5Amoand : BitVec 32 := 0x0c
@[match_pattern] def funct5Amomin : BitVec 32 := 0x10
@[match_pattern] def funct5Amomax : BitVec 32 := 0x14
@[match_pattern] def funct5Amominu : BitVec 32 := 0x18
@[match_pattern] def funct5Amomaxu : BitVec 32 := 0x1c

@[match_pattern] def funct3Fence : BitVec 32 := 0x0
@[match_pattern] def funct3FenceI : BitVec 32 := 0x1
@[match_pattern] def funct3System : BitVec 32 := 0x0
@[match_pattern] def funct3Csrrw : BitVec 32 := 0x1
@[match_pattern] def funct3Csrrs : BitVec 32 := 0x2
@[match_pattern] def funct3Csrrc : BitVec 32 := 0x3
@[match_pattern] def funct3Csrrwi : BitVec 32 := 0x5
@[match_pattern] def funct3Csrrsi : BitVec 32 := 0x6
@[match_pattern] def funct3Csrrci : BitVec 32 := 0x7

@[match_pattern] def funct12Ecall : BitVec 32 := 0x000
@[match_pattern] def funct12Ebreak : BitVec 32 := 0x001
@[match_pattern] def funct12Sret : BitVec 32 := 0x102
@[match_pattern] def funct12Wfi : BitVec 32 := 0x105
@[match_pattern] def funct12Mret : BitVec 32 := 0x302
def funct7SfenceVma : BitVec 32 := 0x09

def funct7Normal : BitVec 32 := 0x00
def funct7MulDiv : BitVec 32 := 0x01
def funct7SubSra : BitVec 32 := 0x20

variable (instructionWord : BitVec 32)

def decodeITypeImmediate : Bytes8 :=
  let imm11_0 := instructionWord >>> 20
  signedNumberToBytes imm11_0 12

def decodeSTypeImmediate : Bytes8 :=
  let imm11_5 := (instructionWord >>> 25) &&& 0x7f
  let imm4_0 := (instructionWord >>> 7) &&& 0x1f
  let imm11_0 := (imm11_5 <<< 5) ||| imm4_0
  signedNumberToBytes imm11_0 12

def decodeBTypeImmediate : Bytes8 :=
  let imm12 := (instructionWord >>> 31) &&& 0x1
  let imm11 := (instructionWord >>> 7) &&& 0x1
  let imm10_5 := (instructionWord >>> 25) &&& 0x3f
  let imm4_1 := (instructionWord >>> 8) &&& 0xf
  let imm12_0 := (imm12 <<< 12) ||| (imm11 <<< 11) ||| (imm10_5 <<< 5) ||| (imm4_1 <<< 1)
  signedNumberToBytes imm12_0 13

def decodeUTypeImmediate : Bytes8 :=
  let imm31_12_placed := instructionWord &&& 0xfffff000
  signedNumberToBytes imm31_12_placed 32

def decodeJTypeImmediate : Bytes8 :=
  let imm20 := (instructionWord >>> 31) &&& 0x1
  let imm19_12 := (instructionWord >>> 12) &&& 0xff
  let imm11 := (instructionWord >>> 20) &&& 0x1
  let imm10_1 := (instructionWord >>> 21) &&& 0x3ff
  let imm20_0 := (imm20 <<< 20) ||| (imm19_12 <<< 12) ||| (imm11 <<< 11) ||| (imm10_1 <<< 1)
  signedNumberToBytes imm20_0 21

def destinationRegisterOf : BitVec 5 := ((instructionWord >>> 7) &&& 0x1f).setWidth 5
def sourceRegister1Of : BitVec 5 := ((instructionWord >>> 15) &&& 0x1f).setWidth 5
def sourceRegister2Of : BitVec 5 := ((instructionWord >>> 20) &&& 0x1f).setWidth 5
def function3Of : BitVec 32 := (instructionWord >>> 12) &&& 0x7
def function7Of : BitVec 32 := (instructionWord >>> 25) &&& 0x7f

def decodeBranch : ExecuteThunk :=
  let sourceRegister1 := sourceRegister1Of instructionWord
  let sourceRegister2 := sourceRegister2Of instructionWord
  let immediate := decodeBTypeImmediate instructionWord
  let args : BranchArgs := { sourceRegister1, sourceRegister2, immediate }
  match function3Of instructionWord with
  | funct3Beq => .branch .beq args
  | funct3Bne => .branch .bne args
  | funct3Blt => .branch .blt args
  | funct3Bge => .branch .bge args
  | funct3Bltu => .branch .bltu args
  | funct3Bgeu => .branch .bgeu args
  | _ => .illegalInstruction instructionWord

def decodeLoad : ExecuteThunk :=
  let destinationRegister := destinationRegisterOf instructionWord
  let sourceRegister1 := sourceRegister1Of instructionWord
  let immediate := decodeITypeImmediate instructionWord
  let args : LoadArgs := { destinationRegister, sourceRegister1, immediate }
  match function3Of instructionWord with
  | funct3Lb => .load .lb args
  | funct3Lh => .load .lh args
  | funct3Lw => .load .lw args
  | funct3Ld => .load .ld args
  | funct3Lbu => .load .lbu args
  | funct3Lhu => .load .lhu args
  | funct3Lwu => .load .lwu args
  | _ => .illegalInstruction instructionWord

def decodeStore : ExecuteThunk :=
  let sourceRegister1 := sourceRegister1Of instructionWord
  let sourceRegister2 := sourceRegister2Of instructionWord
  let immediate := decodeSTypeImmediate instructionWord
  let args : StoreArgs := { sourceRegister1, sourceRegister2, immediate }
  match function3Of instructionWord with
  | funct3Sb => .store .sb args
  | funct3Sh => .store .sh args
  | funct3Sw => .store .sw args
  | funct3Sd => .store .sd args
  | _ => .illegalInstruction instructionWord

/-- The two inner switches of `OPCODE_AMO`, which differ in the width. -/
def decodeAmoOfWidth (byteLength : AtomicWidth) (args : AmoArgs) : ExecuteThunk :=
  match instructionWord >>> 27 with
  | funct5Lr =>
    if args.sourceRegister2 ≠ 0 then .illegalInstruction instructionWord else .lr byteLength args
  | funct5Sc => .sc byteLength args
  | funct5Amoswap => .amo .amoswap byteLength args
  | funct5Amoadd => .amo .amoadd byteLength args
  | funct5Amoxor => .amo .amoxor byteLength args
  | funct5Amoor => .amo .amoor byteLength args
  | funct5Amoand => .amo .amoand byteLength args
  | funct5Amomin => .amo .amomin byteLength args
  | funct5Amomax => .amo .amomax byteLength args
  | funct5Amominu => .amo .amominu byteLength args
  | funct5Amomaxu => .amo .amomaxu byteLength args
  | _ => .illegalInstruction instructionWord

def decodeAmo : ExecuteThunk :=
  let destinationRegister := destinationRegisterOf instructionWord
  let sourceRegister1 := sourceRegister1Of instructionWord
  let sourceRegister2 := sourceRegister2Of instructionWord
  let args : AmoArgs := { destinationRegister, sourceRegister1, sourceRegister2 }
  match function3Of instructionWord with
  | funct3AmoW => decodeAmoOfWidth instructionWord .word args
  | funct3AmoD => decodeAmoOfWidth instructionWord .doubleword args
  | _ => .illegalInstruction instructionWord

def decodeOpImm : ExecuteThunk :=
  let destinationRegister := destinationRegisterOf instructionWord
  let sourceRegister1 := sourceRegister1Of instructionWord
  let immediate := decodeITypeImmediate instructionWord
  let args : OpImmArgs := { destinationRegister, sourceRegister1, immediate }
  let bits31_26 := (instructionWord >>> 26) &&& 0x3f
  let shiftAmount := ((instructionWord >>> 20) &&& 0x3f).toNat
  let shiftArgs : ShiftImmArgs := { destinationRegister, sourceRegister1, shiftAmount }
  match function3Of instructionWord with
  | funct3AddSub => .opImm .addi args
  | funct3Slt => .opImm .slti args
  | funct3Sltu => .opImm .sltiu args
  | funct3Xor => .opImm .xori args
  | funct3Or => .opImm .ori args
  | funct3And => .opImm .andi args
  | funct3Sll =>
    if bits31_26 ≠ 0 then .illegalInstruction instructionWord else .shiftImm .slli shiftArgs
  | funct3SrlSra =>
    if bits31_26 = 0b000000 then .shiftImm .srli shiftArgs
    else if bits31_26 = 0b010000 then .shiftImm .srai shiftArgs
    else .illegalInstruction instructionWord
  | _ => .illegalInstruction instructionWord

def decodeOp : ExecuteThunk :=
  let function7 := function7Of instructionWord
  let destinationRegister := destinationRegisterOf instructionWord
  let sourceRegister1 := sourceRegister1Of instructionWord
  let sourceRegister2 := sourceRegister2Of instructionWord
  let args : OpArgs := { destinationRegister, sourceRegister1, sourceRegister2 }
  if function7 = funct7MulDiv then
    match function3Of instructionWord with
    | funct3AddSub => .op .mul args
    | funct3Sll => .op .mulh args
    | funct3Slt => .op .mulhsu args
    | funct3Sltu => .op .mulhu args
    | funct3Xor => .op .div args
    | funct3SrlSra => .op .divu args
    | funct3Or => .op .rem args
    | funct3And => .op .remu args
    | _ => .illegalInstruction instructionWord
  else if function7 ≠ funct7Normal ∧ function7 ≠ funct7SubSra then .illegalInstruction instructionWord
  else
    match function3Of instructionWord with
    | funct3AddSub => if function7 = funct7Normal then .op .add args else .op .sub args
    | funct3Sll =>
      if function7 ≠ funct7Normal then .illegalInstruction instructionWord else .op .sll args
    | funct3Slt =>
      if function7 ≠ funct7Normal then .illegalInstruction instructionWord else .op .slt args
    | funct3Sltu =>
      if function7 ≠ funct7Normal then .illegalInstruction instructionWord else .op .sltu args
    | funct3Xor =>
      if function7 ≠ funct7Normal then .illegalInstruction instructionWord else .op .xor args
    | funct3SrlSra => if function7 = funct7Normal then .op .srl args else .op .sra args
    | funct3Or =>
      if function7 ≠ funct7Normal then .illegalInstruction instructionWord else .op .or args
    | funct3And =>
      if function7 ≠ funct7Normal then .illegalInstruction instructionWord else .op .and args
    | _ => .illegalInstruction instructionWord

def decodeOpImm32 : ExecuteThunk :=
  let destinationRegister := destinationRegisterOf instructionWord
  let sourceRegister1 := sourceRegister1Of instructionWord
  let immediate := decodeITypeImmediate instructionWord
  let function7 := function7Of instructionWord
  let shiftAmount := ((instructionWord >>> 20) &&& 0x1f).toNat
  let shiftArgs : ShiftImmArgs := { destinationRegister, sourceRegister1, shiftAmount }
  match function3Of instructionWord with
  | funct3AddSub => .opImm .addiw { destinationRegister, sourceRegister1, immediate }
  | funct3Sll =>
    if function7 ≠ funct7Normal then .illegalInstruction instructionWord else .shiftImm .slliw shiftArgs
  | funct3SrlSra =>
    if function7 = funct7Normal then .shiftImm .srliw shiftArgs
    else if function7 = funct7SubSra then .shiftImm .sraiw shiftArgs
    else .illegalInstruction instructionWord
  | _ => .illegalInstruction instructionWord

def decodeOp32 : ExecuteThunk :=
  let function7 := function7Of instructionWord
  let destinationRegister := destinationRegisterOf instructionWord
  let sourceRegister1 := sourceRegister1Of instructionWord
  let sourceRegister2 := sourceRegister2Of instructionWord
  let args : OpArgs := { destinationRegister, sourceRegister1, sourceRegister2 }
  if function7 = funct7MulDiv then
    match function3Of instructionWord with
    | funct3AddSub => .op .mulw args
    | funct3Xor => .op .divw args
    | funct3SrlSra => .op .divuw args
    | funct3Or => .op .remw args
    | funct3And => .op .remuw args
    | _ => .illegalInstruction instructionWord
  else if function7 ≠ funct7Normal ∧ function7 ≠ funct7SubSra then .illegalInstruction instructionWord
  else
    match function3Of instructionWord with
    | funct3AddSub => if function7 = funct7Normal then .op .addw args else .op .subw args
    | funct3Sll =>
      if function7 ≠ funct7Normal then .illegalInstruction instructionWord else .op .sllw args
    | funct3SrlSra => if function7 = funct7Normal then .op .srlw args else .op .sraw args
    | _ => .illegalInstruction instructionWord

def decodeMiscMem : ExecuteThunk :=
  match function3Of instructionWord with
  | funct3Fence => .fence
  | funct3FenceI => .fenceI
  | _ => .illegalInstruction instructionWord

/-- An instruction of `OPCODE_SYSTEM` that takes neither `rd` nor `rs1`. -/
def withoutOperands (thunk : ExecuteThunk) : ExecuteThunk :=
  if destinationRegisterOf instructionWord ≠ 0 ∨ sourceRegister1Of instructionWord ≠ 0 then
    .illegalInstruction instructionWord
  else thunk

def decodeSystem : ExecuteThunk :=
  let destinationRegister := destinationRegisterOf instructionWord
  let sourceRegister1 := sourceRegister1Of instructionWord
  let controlAndStatusRegister := (instructionWord >>> 20).setWidth 12
  let registerArgs : CsrRegisterArgs :=
    { destinationRegister, sourceRegister1, controlAndStatusRegister, instructionWord }
  let immediateArgs : CsrImmediateArgs := {
    destinationRegister, controlAndStatusRegister, instructionWord
    immediate := signedNumberToBytes (sourceRegister1.setWidth 32) 32 }
  match function3Of instructionWord with
  | funct3System =>
    if function7Of instructionWord = funct7SfenceVma then
      if destinationRegister ≠ 0 then .illegalInstruction instructionWord
      else .sfenceVma instructionWord
    else
      match instructionWord >>> 20 with
      | funct12Ecall => withoutOperands instructionWord .ecall
      | funct12Ebreak => withoutOperands instructionWord .ebreak
      | funct12Sret => withoutOperands instructionWord .sret
      | funct12Wfi => withoutOperands instructionWord .wfi
      | funct12Mret => withoutOperands instructionWord .mret
      | _ => .illegalInstruction instructionWord
  | funct3Csrrw => .csrRegister .csrrw registerArgs
  | funct3Csrrs => .csrRegister .csrrs registerArgs
  | funct3Csrrc => .csrRegister .csrrc registerArgs
  | funct3Csrrwi => .csrImmediate .csrrwi immediateArgs
  | funct3Csrrsi => .csrImmediate .csrrsi immediateArgs
  | funct3Csrrci => .csrImmediate .csrrci immediateArgs
  | _ => .illegalInstruction instructionWord

/-- Decode one 32-bit encoding. -/
def decode32 (encodedInstructionWord : BitVec 32) : ExecuteThunk :=
  let destinationRegister := destinationRegisterOf encodedInstructionWord
  let sourceRegister1 := sourceRegister1Of encodedInstructionWord
  match encodedInstructionWord &&& 0x7f with
  | opcodeLui =>
    .lui { destinationRegister, immediate := decodeUTypeImmediate encodedInstructionWord }
  | opcodeAuipc =>
    .auipc { destinationRegister, immediate := decodeUTypeImmediate encodedInstructionWord }
  | opcodeJal =>
    .jal { destinationRegister, immediate := decodeJTypeImmediate encodedInstructionWord }
  | opcodeJalr =>
    if function3Of encodedInstructionWord ≠ 0 then .illegalInstruction encodedInstructionWord
    else
      .jalr { destinationRegister, sourceRegister1
              immediate := decodeITypeImmediate encodedInstructionWord }
  | opcodeBranch => decodeBranch encodedInstructionWord
  | opcodeLoad => decodeLoad encodedInstructionWord
  | opcodeStore => decodeStore encodedInstructionWord
  | opcodeAmo => decodeAmo encodedInstructionWord
  | opcodeOpImm => decodeOpImm encodedInstructionWord
  | opcodeOp => decodeOp encodedInstructionWord
  | opcodeOpImm32 => decodeOpImm32 encodedInstructionWord
  | opcodeOp32 => decodeOp32 encodedInstructionWord
  | opcodeMiscMem => decodeMiscMem encodedInstructionWord
  | opcodeSystem => decodeSystem encodedInstructionWord
  | _ => .illegalInstruction encodedInstructionWord

end YaRiscV.Emulator
