import YaRiscV.Emulator.Cpu.Decode.Decode32

/-! `cpu/decode/decode-c.ts` and `cpu/decode/index.ts`: the compressed encodings, and the
choice between the two decoders. -/

namespace YaRiscV.Emulator

open YaRiscV.Library YaRiscV.Utils

namespace Compressed

def stackPointer : BitVec 5 := 2
def returnAddress : BitVec 5 := 1
def zeroImmediate : Bytes8 := signedNumberToBytes 0 32

/-- A 3-bit operand names x8 to x15. -/
def compactRegister (encoded : BitVec 32) : BitVec 5 := (8 + (encoded &&& 0x7)).setWidth 5

variable (halfword : BitVec 32)

def function3Of : BitVec 32 := (halfword >>> 13) &&& 0x7
def rdOf : BitVec 5 := ((halfword >>> 7) &&& 0x1f).setWidth 5
def rs1Of : BitVec 5 := ((halfword >>> 7) &&& 0x1f).setWidth 5
def rs2Of : BitVec 5 := ((halfword >>> 2) &&& 0x1f).setWidth 5
def rdPrimeOf : BitVec 5 := compactRegister ((halfword >>> 2) &&& 0x7)
def rs1PrimeOf : BitVec 5 := compactRegister ((halfword >>> 7) &&& 0x7)
def rs2PrimeOf : BitVec 5 := compactRegister ((halfword >>> 2) &&& 0x7)

def decodeCiImm6 : Bytes8 :=
  let imm := ((halfword >>> 7) &&& 0x20) ||| ((halfword >>> 2) &&& 0x1f)
  signedNumberToBytes imm 6

def decodeAddi4SpnImmediate : BitVec 32 :=
  (((halfword >>> 7) &&& 0xf) <<< 6) ||| (((halfword >>> 11) &&& 0x3) <<< 4) |||
    (((halfword >>> 5) &&& 0x1) <<< 3) ||| (((halfword >>> 6) &&& 0x1) <<< 2)

def decodeLwSwOffset : Bytes8 :=
  let uimm := (((halfword >>> 10) &&& 0x7) <<< 3) ||| (((halfword >>> 6) &&& 0x1) <<< 2) |||
    (((halfword >>> 5) &&& 0x1) <<< 6)
  signedNumberToBytes uimm 32

def decodeLdSdOffset : Bytes8 :=
  let uimm := (((halfword >>> 10) &&& 0x7) <<< 3) ||| (((halfword >>> 5) &&& 0x3) <<< 6)
  signedNumberToBytes uimm 32

def decodeAddi16SpImmediate : Bytes8 :=
  let nzimm := (((halfword >>> 12) &&& 0x1) <<< 9) ||| (((halfword >>> 6) &&& 0x1) <<< 4) |||
    (((halfword >>> 5) &&& 0x1) <<< 6) ||| (((halfword >>> 3) &&& 0x3) <<< 7) |||
    (((halfword >>> 2) &&& 0x1) <<< 5)
  signedNumberToBytes nzimm 10

def decodeLuiImmediate : Bytes8 :=
  let nzimm17_12 := (((halfword >>> 12) &&& 0x1) <<< 5) ||| ((halfword >>> 2) &&& 0x1f)
  let signExtended := (nzimm17_12 <<< 12) ||| (if nzimm17_12 &&& 0x20 ≠ 0 then 0xfffc0000 else 0)
  signedNumberToBytes signExtended 32

def decodeLwSpOffset : Bytes8 :=
  let uimm := (((halfword >>> 12) &&& 0x1) <<< 5) ||| (((halfword >>> 4) &&& 0x7) <<< 2) |||
    (((halfword >>> 2) &&& 0x3) <<< 6)
  signedNumberToBytes uimm 32

def decodeLdSpOffset : Bytes8 :=
  let uimm := (((halfword >>> 12) &&& 0x1) <<< 5) ||| (((halfword >>> 5) &&& 0x3) <<< 3) |||
    (((halfword >>> 2) &&& 0x7) <<< 6)
  signedNumberToBytes uimm 32

def decodeSwSpOffset : Bytes8 :=
  let uimm := (((halfword >>> 9) &&& 0xf) <<< 2) ||| (((halfword >>> 7) &&& 0x3) <<< 6)
  signedNumberToBytes uimm 32

def decodeSdSpOffset : Bytes8 :=
  let uimm := (((halfword >>> 10) &&& 0x7) <<< 3) ||| (((halfword >>> 7) &&& 0x7) <<< 6)
  signedNumberToBytes uimm 32

def decodeCjOffset : Bytes8 :=
  let imm := (((halfword >>> 12) &&& 0x1) <<< 11) ||| (((halfword >>> 11) &&& 0x1) <<< 4) |||
    (((halfword >>> 9) &&& 0x3) <<< 8) ||| (((halfword >>> 8) &&& 0x1) <<< 10) |||
    (((halfword >>> 7) &&& 0x1) <<< 6) ||| (((halfword >>> 6) &&& 0x1) <<< 7) |||
    (((halfword >>> 3) &&& 0x7) <<< 1) ||| (((halfword >>> 2) &&& 0x1) <<< 5)
  signedNumberToBytes imm 12

def decodeCbOffset : Bytes8 :=
  let imm := (((halfword >>> 12) &&& 0x1) <<< 8) ||| (((halfword >>> 10) &&& 0x3) <<< 3) |||
    (((halfword >>> 5) &&& 0x3) <<< 6) ||| (((halfword >>> 3) &&& 0x3) <<< 1) |||
    (((halfword >>> 2) &&& 0x1) <<< 5)
  signedNumberToBytes imm 9

def decodeShamt : Nat :=
  ((((halfword >>> 12) &&& 0x1) <<< 5) ||| ((halfword >>> 2) &&& 0x1f)).toNat

def decodeQuadrant0 : ExecuteThunk :=
  match function3Of halfword with
  | 0b000 =>
    let nzuimm := decodeAddi4SpnImmediate halfword
    if nzuimm = 0 then .illegalC halfword
    else .opImm .addi ⟨rdPrimeOf halfword, stackPointer, signedNumberToBytes nzuimm 32⟩
  | 0b010 => .load .lw ⟨rdPrimeOf halfword, rs1PrimeOf halfword, decodeLwSwOffset halfword⟩
  | 0b011 => .load .ld ⟨rdPrimeOf halfword, rs1PrimeOf halfword, decodeLdSdOffset halfword⟩
  | 0b110 => .store .sw ⟨rs1PrimeOf halfword, rs2PrimeOf halfword, decodeLwSwOffset halfword⟩
  | 0b111 => .store .sd ⟨rs1PrimeOf halfword, rs2PrimeOf halfword, decodeLdSdOffset halfword⟩
  | _ => .illegalC halfword

def decodeQuadrant1Arithmetic : ExecuteThunk :=
  let rd := rs1PrimeOf halfword
  let funct2High := (halfword >>> 10) &&& 0x3
  if funct2High = 0b00 then
    let shiftAmount := decodeShamt halfword
    if shiftAmount = 0 then .cNop else .shiftImm .srli ⟨rd, rd, shiftAmount⟩
  else if funct2High = 0b01 then
    let shiftAmount := decodeShamt halfword
    if shiftAmount = 0 then .cNop else .shiftImm .srai ⟨rd, rd, shiftAmount⟩
  else if funct2High = 0b10 then .opImm .andi ⟨rd, rd, decodeCiImm6 halfword⟩
  else
    let bit12 := (halfword >>> 12) &&& 0x1
    let funct2Low := (halfword >>> 5) &&& 0x3
    let rs2 := rs2PrimeOf halfword
    if bit12 = 0 then
      match funct2Low with
      | 0b00 => .op .sub ⟨rd, rd, rs2⟩
      | 0b01 => .op .xor ⟨rd, rd, rs2⟩
      | 0b10 => .op .or ⟨rd, rd, rs2⟩
      | 0b11 => .op .and ⟨rd, rd, rs2⟩
      | _ => .illegalC halfword
    else
      match funct2Low with
      | 0b00 => .op .subw ⟨rd, rd, rs2⟩
      | 0b01 => .op .addw ⟨rd, rd, rs2⟩
      | _ => .illegalC halfword

/-- A zero CI immediate. -/
def immIsZero : Bool :=
  (halfword >>> 2) &&& 0x1f == 0 && (halfword >>> 12) &&& 0x1 == 0

def decodeQuadrant1 : ExecuteThunk :=
  let rd := rdOf halfword
  match function3Of halfword with
  | 0b000 =>
    if rd = 0 ∨ immIsZero halfword then .cNop else .opImm .addi ⟨rd, rd, decodeCiImm6 halfword⟩
  | 0b001 => if rd = 0 then .illegalC halfword else .opImm .addiw ⟨rd, rd, decodeCiImm6 halfword⟩
  | 0b010 => if rd = 0 then .cNop else .opImm .addi ⟨rd, 0, decodeCiImm6 halfword⟩
  | 0b011 =>
    if rd = stackPointer then
      if immIsZero halfword then .illegalC halfword
      else .opImm .addi ⟨stackPointer, stackPointer, decodeAddi16SpImmediate halfword⟩
    else if immIsZero halfword then .illegalC halfword
    else if rd = 0 then .cNop
    else .lui ⟨rd, decodeLuiImmediate halfword⟩
  | 0b100 => decodeQuadrant1Arithmetic halfword
  | 0b101 => .jal ⟨0, decodeCjOffset halfword⟩
  | 0b110 => .branch .beq ⟨rs1PrimeOf halfword, 0, decodeCbOffset halfword⟩
  | 0b111 => .branch .bne ⟨rs1PrimeOf halfword, 0, decodeCbOffset halfword⟩
  | _ => .illegalC halfword

def decodeQuadrant2 : ExecuteThunk :=
  match function3Of halfword with
  | 0b000 =>
    let rd := rdOf halfword
    let shiftAmount := decodeShamt halfword
    if rd = 0 ∨ shiftAmount = 0 then .cNop else .shiftImm .slli ⟨rd, rd, shiftAmount⟩
  | 0b010 =>
    let rd := rdOf halfword
    if rd = 0 then .illegalC halfword else .load .lw ⟨rd, stackPointer, decodeLwSpOffset halfword⟩
  | 0b011 =>
    let rd := rdOf halfword
    if rd = 0 then .illegalC halfword else .load .ld ⟨rd, stackPointer, decodeLdSpOffset halfword⟩
  | 0b100 =>
    let bit12 := (halfword >>> 12) &&& 0x1
    let rs1 := rs1Of halfword
    let rs2 := rs2Of halfword
    if bit12 = 0 then
      if rs2 = 0 then
        if rs1 = 0 then .illegalC halfword else .jalr ⟨0, rs1, zeroImmediate⟩
      else if rs1 = 0 then .cNop
      else .op .add ⟨rs1, 0, rs2⟩
    else if rs2 = 0 then
      if rs1 = 0 then .ebreak else .jalr ⟨returnAddress, rs1, zeroImmediate⟩
    else if rs1 = 0 then .cNop
    else .op .add ⟨rs1, rs1, rs2⟩
  | 0b110 => .store .sw ⟨stackPointer, rs2Of halfword, decodeSwSpOffset halfword⟩
  | 0b111 => .store .sd ⟨stackPointer, rs2Of halfword, decodeSdSpOffset halfword⟩
  | _ => .illegalC halfword

end Compressed

/-- Decode one halfword. -/
def decodeC (halfword : BitVec 32) : ExecuteThunk :=
  let encoding := halfword &&& 0xffff
  if encoding = 0 then .illegalC encoding
  else
    match encoding &&& 0x3 with
    | 0b00 => Compressed.decodeQuadrant0 encoding
    | 0b01 => Compressed.decodeQuadrant1 encoding
    | 0b10 => Compressed.decodeQuadrant2 encoding
    | _ => .illegalC encoding

def encodingLengthMask : BitVec 32 := 0x03
def encodingLength32Bit : BitVec 32 := 0x03

/-- The thunk of a fetched word and its encoded width. -/
def decode (instructionWord : Bytes8) : ExecuteThunk × Bytes8 :=
  let encodedInstructionWord := bytesToNumber instructionWord
  if encodedInstructionWord &&& encodingLengthMask ≠ encodingLength32Bit then
    (decodeC (encodedInstructionWord &&& 0xffff), twoBytes)
  else (decode32 encodedInstructionWord, fourBytes)

end YaRiscV.Emulator
