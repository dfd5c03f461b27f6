import Mathlib.Data.Nat.Bitwise

/-! Instruction words of RV64I by their fields, and RV64C as a table of expansions into them. -/

namespace YaRiscV.Library.Rv64

/-! Formats. -/

/-- The six fields of a word; the other formats spread an immediate over some of them. -/
def rType (funct7 : BitVec 7) (rs2 rs1 : BitVec 5) (funct3 : BitVec 3) (rd : BitVec 5) (opcode : BitVec 7) :
    BitVec 32 :=
  funct7 ++ rs2 ++ rs1 ++ funct3 ++ rd ++ opcode

def iType (imm : BitVec 12) (rs1 : BitVec 5) (funct3 : BitVec 3) (rd : BitVec 5) (opcode : BitVec 7) : BitVec 32 :=
  rType (imm.extractLsb' 5 7) (imm.extractLsb' 0 5) rs1 funct3 rd opcode

def sType (imm : BitVec 12) (rs2 rs1 : BitVec 5) (funct3 : BitVec 3) (opcode : BitVec 7) : BitVec 32 :=
  rType (imm.extractLsb' 5 7) rs2 rs1 funct3 (imm.extractLsb' 0 5) opcode

/-- Bit 0 of the offset is not encoded. -/
def bType (offset : BitVec 13) (rs2 rs1 : BitVec 5) (funct3 : BitVec 3) (opcode : BitVec 7) : BitVec 32 :=
  rType (offset.extractLsb' 12 1 ++ offset.extractLsb' 5 6) rs2 rs1 funct3
    (offset.extractLsb' 1 4 ++ offset.extractLsb' 11 1) opcode

def uType (imm : BitVec 20) (rd : BitVec 5) (opcode : BitVec 7) : BitVec 32 :=
  rType (imm.extractLsb' 13 7) (imm.extractLsb' 8 5) (imm.extractLsb' 3 5) (imm.extractLsb' 0 3) rd opcode

/-- Bit 0 of the offset is not encoded. -/
def jType (offset : BitVec 21) (rd : BitVec 5) (opcode : BitVec 7) : BitVec 32 :=
  uType (offset.extractLsb' 20 1 ++ offset.extractLsb' 1 10 ++ offset.extractLsb' 11 1 ++ offset.extractLsb' 12 8)
    rd opcode

/-! The fields of a word. -/

section Fields

variable (funct7 : BitVec 7) (rs2 rs1 : BitVec 5) (funct3 : BitVec 3) (rd : BitVec 5) (opcode : BitVec 7)

theorem toNat_append_add (high : BitVec n) (low : BitVec m) :
    (high ++ low).toNat = high.toNat * 2 ^ m + low.toNat := by
  rw [BitVec.toNat_append, ← Nat.shiftLeft_add_eq_or_of_lt low.isLt, Nat.shiftLeft_eq]

theorem toNat_extract (word : BitVec n) (start count : Nat) :
    (word.extractLsb' start count).toNat = word.toNat / 2 ^ start % 2 ^ count := by
  rw [BitVec.extractLsb'_toNat, Nat.shiftRight_eq_div_pow]

theorem toNat_rType : (rType funct7 rs2 rs1 funct3 rd opcode).toNat =
    funct7.toNat * 2 ^ 25 + rs2.toNat * 2 ^ 20 + rs1.toNat * 2 ^ 15 + funct3.toNat * 2 ^ 12 + rd.toNat * 2 ^ 7 +
      opcode.toNat := by
  simp only [rType, toNat_append_add]
  omega

/-- The bits of a word as a field of it. -/
theorem extract_rType {field : BitVec count}
    (same : (funct7.toNat * 2 ^ 25 + rs2.toNat * 2 ^ 20 + rs1.toNat * 2 ^ 15 + funct3.toNat * 2 ^ 12 +
      rd.toNat * 2 ^ 7 + opcode.toNat) / 2 ^ start % 2 ^ count = field.toNat) :
    (rType funct7 rs2 rs1 funct3 rd opcode).extractLsb' start count = field := by
  apply BitVec.eq_of_toNat_eq
  rw [toNat_extract, toNat_rType, same]

theorem rType_opcode : (rType funct7 rs2 rs1 funct3 rd opcode).extractLsb' 0 7 = opcode := by
  have below := opcode.isLt
  exact extract_rType _ _ _ _ _ _ (by omega)

theorem rType_rd : (rType funct7 rs2 rs1 funct3 rd opcode).extractLsb' 7 5 = rd := by
  have below := And.intro rd.isLt opcode.isLt
  exact extract_rType _ _ _ _ _ _ (by omega)

theorem rType_funct3 : (rType funct7 rs2 rs1 funct3 rd opcode).extractLsb' 12 3 = funct3 := by
  have below := And.intro funct3.isLt (And.intro rd.isLt opcode.isLt)
  exact extract_rType _ _ _ _ _ _ (by omega)

theorem rType_rs1 : (rType funct7 rs2 rs1 funct3 rd opcode).extractLsb' 15 5 = rs1 := by
  have below := And.intro rs1.isLt (And.intro funct3.isLt (And.intro rd.isLt opcode.isLt))
  exact extract_rType _ _ _ _ _ _ (by omega)

theorem rType_rs2 : (rType funct7 rs2 rs1 funct3 rd opcode).extractLsb' 20 5 = rs2 := by
  have below := And.intro rs2.isLt (And.intro rs1.isLt (And.intro funct3.isLt (And.intro rd.isLt opcode.isLt)))
  exact extract_rType _ _ _ _ _ _ (by omega)

theorem rType_funct7 : (rType funct7 rs2 rs1 funct3 rd opcode).extractLsb' 25 7 = funct7 := by
  have below := And.intro rs2.isLt (And.intro rs1.isLt (And.intro funct3.isLt (And.intro rd.isLt opcode.isLt)))
  have top := funct7.isLt
  exact extract_rType _ _ _ _ _ _ (by omega)

variable (imm : BitVec 12)

theorem iType_imm : (iType imm rs1 funct3 rd opcode).extractLsb' 20 12 = imm := by
  have below := And.intro rs1.isLt (And.intro funct3.isLt (And.intro rd.isLt opcode.isLt))
  have parts := And.intro (toNat_extract imm 5 7) (toNat_extract imm 0 5)
  have top := imm.isLt
  exact extract_rType _ _ _ _ _ _ (by omega)

theorem iType_shamt (top shamt : BitVec 6) : (iType (top ++ shamt) rs1 funct3 rd opcode).extractLsb' 20 6 = shamt ∧
    (iType (top ++ shamt) rs1 funct3 rd opcode).extractLsb' 26 6 = top := by
  have below := And.intro rs1.isLt (And.intro funct3.isLt (And.intro rd.isLt opcode.isLt))
  have parts := And.intro (toNat_extract (top ++ shamt) 5 7) (toNat_extract (top ++ shamt) 0 5)
  have whole := toNat_append_add top shamt
  have bounds := And.intro top.isLt shamt.isLt
  constructor
  · exact extract_rType _ _ _ _ _ _ (by omega)
  · exact extract_rType _ _ _ _ _ _ (by omega)

theorem bType_offset (offset : BitVec 13) :
    (bType offset rs2 rs1 funct3 opcode).extractLsb' 31 1 = offset.extractLsb' 12 1 ∧
      (bType offset rs2 rs1 funct3 opcode).extractLsb' 7 1 = offset.extractLsb' 11 1 ∧
      (bType offset rs2 rs1 funct3 opcode).extractLsb' 25 6 = offset.extractLsb' 5 6 ∧
      (bType offset rs2 rs1 funct3 opcode).extractLsb' 8 4 = offset.extractLsb' 1 4 := by
  have below := And.intro rs2.isLt (And.intro rs1.isLt (And.intro funct3.isLt opcode.isLt))
  have high := toNat_append_add (offset.extractLsb' 12 1) (offset.extractLsb' 5 6)
  have low := toNat_append_add (offset.extractLsb' 1 4) (offset.extractLsb' 11 1)
  have bits12 := (offset.extractLsb' 12 1).isLt
  have bits11 := (offset.extractLsb' 11 1).isLt
  have bits10 := (offset.extractLsb' 5 6).isLt
  have bits4 := (offset.extractLsb' 1 4).isLt
  refine ⟨?_, ?_, ?_, ?_⟩
  all_goals exact extract_rType _ _ _ _ _ _ (by omega)

theorem toNat_uType (imm : BitVec 20) :
    (uType imm rd opcode).toNat = imm.toNat * 2 ^ 12 + rd.toNat * 2 ^ 7 + opcode.toNat := by
  have high := And.intro (toNat_extract imm 13 7) (toNat_extract imm 8 5)
  have low := And.intro (toNat_extract imm 3 5) (toNat_extract imm 0 3)
  have top := imm.isLt
  rw [uType, toNat_rType]
  omega

theorem uType_imm (imm : BitVec 20) : (uType imm rd opcode).extractLsb' 12 20 = imm := by
  have below := And.intro rd.isLt opcode.isLt
  have top := imm.isLt
  apply BitVec.eq_of_toNat_eq
  rw [toNat_extract, toNat_uType]
  omega

theorem jType_offset (offset : BitVec 21) :
    (jType offset rd opcode).extractLsb' 31 1 = offset.extractLsb' 20 1 ∧
      (jType offset rd opcode).extractLsb' 12 8 = offset.extractLsb' 12 8 ∧
      (jType offset rd opcode).extractLsb' 20 1 = offset.extractLsb' 11 1 ∧
      (jType offset rd opcode).extractLsb' 21 10 = offset.extractLsb' 1 10 := by
  have below := And.intro rd.isLt opcode.isLt
  have bits20 := (offset.extractLsb' 20 1).isLt
  have bits19 := (offset.extractLsb' 12 8).isLt
  have bits11 := (offset.extractLsb' 11 1).isLt
  have bits10 := (offset.extractLsb' 1 10).isLt
  refine ⟨?_, ?_, ?_, ?_⟩
  all_goals
    apply BitVec.eq_of_toNat_eq
    rw [toNat_extract, jType, toNat_uType, toNat_append_add, toNat_append_add, toNat_append_add]
    omega

end Fields

/-! Instructions. -/

variable (rd rs1 rs2 : BitVec 5) (imm : BitVec 12) (shamt : BitVec 6)

def lui (imm : BitVec 20) : BitVec 32 := uType imm rd 0b0110111
def jal (offset : BitVec 21) : BitVec 32 := jType offset rd 0b1101111
def jalr : BitVec 32 := iType imm rs1 0b000 rd 0b1100111
def beq (offset : BitVec 13) : BitVec 32 := bType offset rs2 rs1 0b000 0b1100011
def bne (offset : BitVec 13) : BitVec 32 := bType offset rs2 rs1 0b001 0b1100011
def lw : BitVec 32 := iType imm rs1 0b010 rd 0b0000011
def ld : BitVec 32 := iType imm rs1 0b011 rd 0b0000011
def sw : BitVec 32 := sType imm rs2 rs1 0b010 0b0100011
def sd : BitVec 32 := sType imm rs2 rs1 0b011 0b0100011
def addi : BitVec 32 := iType imm rs1 0b000 rd 0b0010011
def andi : BitVec 32 := iType imm rs1 0b111 rd 0b0010011
def slli : BitVec 32 := iType (0b000000#6 ++ shamt) rs1 0b001 rd 0b0010011
def srli : BitVec 32 := iType (0b000000#6 ++ shamt) rs1 0b101 rd 0b0010011
def srai : BitVec 32 := iType (0b010000#6 ++ shamt) rs1 0b101 rd 0b0010011
def addiw : BitVec 32 := iType imm rs1 0b000 rd 0b0011011
def add : BitVec 32 := rType 0b0000000 rs2 rs1 0b000 rd 0b0110011
def sub : BitVec 32 := rType 0b0100000 rs2 rs1 0b000 rd 0b0110011
def xor : BitVec 32 := rType 0b0000000 rs2 rs1 0b100 rd 0b0110011
def or : BitVec 32 := rType 0b0000000 rs2 rs1 0b110 rd 0b0110011
def and : BitVec 32 := rType 0b0000000 rs2 rs1 0b111 rd 0b0110011
def addw : BitVec 32 := rType 0b0000000 rs2 rs1 0b000 rd 0b0111011
def subw : BitVec 32 := rType 0b0100000 rs2 rs1 0b000 rd 0b0111011
def ebreak : BitVec 32 := iType 1 0 0b000 0 0b1110011

/-! Compressed instructions. -/

/-- What RV64C says of a halfword. -/
inductive Expansion where
  | instruction (word : BitVec 32)
  | hint (word : BitVec 32)
  | reserved
  | floatingPoint
  deriving DecidableEq, Repr

def x0 : BitVec 5 := 0
def x1 : BitVec 5 := 1
def x2 : BitVec 5 := 2

/-- A compact operand names x8 to x15. -/
def compact (encoded : BitVec 3) : BitVec 5 := 0b01#2 ++ encoded

variable (halfword : BitVec 16)

def funct3C : BitVec 3 := halfword.extractLsb' 13 3
def rdC : BitVec 5 := halfword.extractLsb' 7 5
def rs2C : BitVec 5 := halfword.extractLsb' 2 5
def rs1Prime : BitVec 5 := compact (halfword.extractLsb' 7 3)
def rs2Prime : BitVec 5 := compact (halfword.extractLsb' 2 3)

/-- `imm[5|4:0]`, also a shift amount. -/
def ciImm : BitVec 6 := halfword.extractLsb' 12 1 ++ halfword.extractLsb' 2 5

def addi4spnImm : BitVec 10 :=
  halfword.extractLsb' 7 4 ++ halfword.extractLsb' 11 2 ++ halfword.extractLsb' 5 1 ++ halfword.extractLsb' 6 1 ++ 0b00#2

def lwOffset : BitVec 7 :=
  halfword.extractLsb' 5 1 ++ halfword.extractLsb' 10 3 ++ halfword.extractLsb' 6 1 ++ 0b00#2

def ldOffset : BitVec 8 := halfword.extractLsb' 5 2 ++ halfword.extractLsb' 10 3 ++ 0b000#3

def addi16spImm : BitVec 10 :=
  halfword.extractLsb' 12 1 ++ halfword.extractLsb' 3 2 ++ halfword.extractLsb' 5 1 ++ halfword.extractLsb' 2 1 ++
    halfword.extractLsb' 6 1 ++ 0b0000#4

def lwspOffset : BitVec 8 :=
  halfword.extractLsb' 2 2 ++ halfword.extractLsb' 12 1 ++ halfword.extractLsb' 4 3 ++ 0b00#2

def ldspOffset : BitVec 9 :=
  halfword.extractLsb' 2 3 ++ halfword.extractLsb' 12 1 ++ halfword.extractLsb' 5 2 ++ 0b000#3

def swspOffset : BitVec 8 := halfword.extractLsb' 7 2 ++ halfword.extractLsb' 9 4 ++ 0b00#2

def sdspOffset : BitVec 9 := halfword.extractLsb' 7 3 ++ halfword.extractLsb' 10 3 ++ 0b000#3

def cjOffset : BitVec 12 :=
  halfword.extractLsb' 12 1 ++ halfword.extractLsb' 8 1 ++ halfword.extractLsb' 9 2 ++ halfword.extractLsb' 6 1 ++
    halfword.extractLsb' 7 1 ++ halfword.extractLsb' 2 1 ++ halfword.extractLsb' 11 1 ++ halfword.extractLsb' 3 3 ++ 0b0#1

def cbOffset : BitVec 9 :=
  halfword.extractLsb' 12 1 ++ halfword.extractLsb' 5 2 ++ halfword.extractLsb' 2 1 ++ halfword.extractLsb' 10 2 ++
    halfword.extractLsb' 3 2 ++ 0b0#1

def quadrant0 : Expansion :=
  match funct3C halfword with
  | 0b000 =>
    if addi4spnImm halfword = 0 then .reserved
    else .instruction (addi (rs2Prime halfword) x2 ((addi4spnImm halfword).setWidth 12))
  | 0b010 => .instruction (lw (rs2Prime halfword) (rs1Prime halfword) ((lwOffset halfword).setWidth 12))
  | 0b011 => .instruction (ld (rs2Prime halfword) (rs1Prime halfword) ((ldOffset halfword).setWidth 12))
  | 0b100 => .reserved
  | 0b110 => .instruction (sw (rs1Prime halfword) (rs2Prime halfword) ((lwOffset halfword).setWidth 12))
  | 0b111 => .instruction (sd (rs1Prime halfword) (rs2Prime halfword) ((ldOffset halfword).setWidth 12))
  | _ => .floatingPoint

/-- A hint where a register or an immediate makes the instruction idle. -/
def hintIf (idle : Prop) [Decidable idle] (word : BitVec 32) : Expansion :=
  if idle then .hint word else .instruction word

def quadrant1Arithmetic : Expansion :=
  let rd := rs1Prime halfword
  match halfword.extractLsb' 10 2 with
  | 0b00 => hintIf (ciImm halfword = 0) (srli rd rd (ciImm halfword))
  | 0b01 => hintIf (ciImm halfword = 0) (srai rd rd (ciImm halfword))
  | 0b10 => .instruction (andi rd rd ((ciImm halfword).signExtend 12))
  | _ =>
    match halfword.extractLsb' 12 1, halfword.extractLsb' 5 2 with
    | 0b0, 0b00 => .instruction (sub rd rd (rs2Prime halfword))
    | 0b0, 0b01 => .instruction (xor rd rd (rs2Prime halfword))
    | 0b0, 0b10 => .instruction (or rd rd (rs2Prime halfword))
    | 0b0, 0b11 => .instruction (and rd rd (rs2Prime halfword))
    | 0b1, 0b00 => .instruction (subw rd rd (rs2Prime halfword))
    | 0b1, 0b01 => .instruction (addw rd rd (rs2Prime halfword))
    | _, _ => .reserved

def quadrant1 : Expansion :=
  let rd := rdC halfword
  match funct3C halfword with
  | 0b000 => hintIf (rd = x0 ∨ ciImm halfword = 0) (addi rd rd ((ciImm halfword).signExtend 12))
  | 0b001 => if rd = x0 then .reserved else .instruction (addiw rd rd ((ciImm halfword).signExtend 12))
  | 0b010 => hintIf (rd = x0) (addi rd x0 ((ciImm halfword).signExtend 12))
  | 0b011 =>
    if rd = x2 then
      if addi16spImm halfword = 0 then .reserved
      else .instruction (addi x2 x2 ((addi16spImm halfword).signExtend 12))
    else if ciImm halfword = 0 then .reserved
    else hintIf (rd = x0) (lui rd ((ciImm halfword).signExtend 20))
  | 0b100 => quadrant1Arithmetic halfword
  | 0b101 => .instruction (jal x0 ((cjOffset halfword).signExtend 21))
  | 0b110 => .instruction (beq (rs1Prime halfword) x0 ((cbOffset halfword).signExtend 13))
  | _ => .instruction (bne (rs1Prime halfword) x0 ((cbOffset halfword).signExtend 13))

/-- Jumps to a register, moves and additions. -/
def quadrant2Register : Expansion :=
  let rd := rdC halfword
  let rs2 := rs2C halfword
  if halfword.extractLsb' 12 1 = 0 then
    if rs2 = x0 then if rd = x0 then .reserved else .instruction (jalr x0 rd 0)
    else hintIf (rd = x0) (add rd x0 rs2)
  else if rs2 = x0 then if rd = x0 then .instruction ebreak else .instruction (jalr x1 rd 0)
  else hintIf (rd = x0) (add rd rd rs2)

def quadrant2 : Expansion :=
  let rd := rdC halfword
  match funct3C halfword with
  | 0b000 => hintIf (rd = x0 ∨ ciImm halfword = 0) (slli rd rd (ciImm halfword))
  | 0b010 => if rd = x0 then .reserved else .instruction (lw rd x2 ((lwspOffset halfword).setWidth 12))
  | 0b011 => if rd = x0 then .reserved else .instruction (ld rd x2 ((ldspOffset halfword).setWidth 12))
  | 0b100 => quadrant2Register halfword
  | 0b110 => .instruction (sw x2 (rs2C halfword) ((swspOffset halfword).setWidth 12))
  | 0b111 => .instruction (sd x2 (rs2C halfword) ((sdspOffset halfword).setWidth 12))
  | _ => .floatingPoint

/-- The table of RV64C, for a halfword whose low two bits are not both set. -/
def expand : Expansion :=
  match halfword.extractLsb' 0 2 with
  | 0b00 => quadrant0 halfword
  | 0b01 => quadrant1 halfword
  | _ => quadrant2 halfword

end YaRiscV.Library.Rv64
