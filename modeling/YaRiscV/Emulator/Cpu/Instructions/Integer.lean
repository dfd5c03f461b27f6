import YaRiscV.Emulator.Cpu.Trap

/-! `cpu/instructions/op.ts`, `op-32.ts`, `op-m.ts`, `op-32-m.ts`, `op-imm.ts`,
`op-imm-32.ts`, `lui.ts`, `auipc.ts` and `misc-mem.ts`: integer computation. -/

namespace YaRiscV.Emulator

open YaRiscV.Library YaRiscV.Utils

/-- How an instruction ends: it ran to its end, it entered a trap, it waits for the
interrupt level to leave `fromLevel`, or it threw. -/
inductive Execution where
  | completed (registers : Registers) (memory : Memory)
  | trapped (registers : Registers) (memory : Memory)
  | waiting (registers : Registers) (memory : Memory) (fromLevel : BitVec 32)
  | threw (message : String)

/-- Continue with a value whose computation may throw. -/
def Execution.ofExcept (result : Except String Value) (continue_ : Value → Execution) : Execution :=
  match result with
  | .ok value => continue_ value
  | .error message => .threw message

structure OpArgs where
  destinationRegister : BitVec 5
  sourceRegister1 : BitVec 5
  sourceRegister2 : BitVec 5

structure OpImmArgs where
  destinationRegister : BitVec 5
  sourceRegister1 : BitVec 5
  immediate : Bytes8

structure ShiftImmArgs where
  destinationRegister : BitVec 5
  sourceRegister1 : BitVec 5
  shiftAmount : Nat

/-- The arguments of `lui` and `auipc`. -/
structure UpperArgs where
  destinationRegister : BitVec 5
  immediate : Bytes8

variable (registers : Registers) (memory : Memory)

/-- Write `rd` and fall through. -/
def completeWith (destinationRegister : BitVec 5) (value instructionByteLength : Bytes8) : Execution :=
  .completed (advanceProgramCounter (writeGeneralPurposeRegister registers destinationRegister value)
    instructionByteLength) memory

/-- The value `setBooleanGeneralPurposeRegister` writes. -/
def booleanBytes (condition : Bool) : Bytes8 :=
  if condition then registerOneBytes else registerZeroBytes

/-- The shape of `op.ts` and its kin: `rd = operation(rs1, rs2)`. -/
def registerOperation (operation : Bytes8 → Bytes8 → Bytes8) (args : OpArgs)
    (instructionByteLength : Bytes8) : Execution :=
  completeWith registers memory args.destinationRegister
    (operation (readGeneralPurposeRegister registers args.sourceRegister1)
      (readGeneralPurposeRegister registers args.sourceRegister2)) instructionByteLength

/-- The shape of `op-imm.ts`: `rd = operation(rs1, imm)`. -/
def immediateOperation (operation : Bytes8 → Bytes8 → Bytes8) (args : OpImmArgs)
    (instructionByteLength : Bytes8) : Execution :=
  completeWith registers memory args.destinationRegister
    (operation (readGeneralPurposeRegister registers args.sourceRegister1) args.immediate)
    instructionByteLength

/-- The shape of the shifts by an immediate amount. -/
def shiftOperation (operation : Bytes8 → Nat → Bytes8) (args : ShiftImmArgs)
    (instructionByteLength : Bytes8) : Execution :=
  completeWith registers memory args.destinationRegister
    (operation (readGeneralPurposeRegister registers args.sourceRegister1) args.shiftAmount)
    instructionByteLength

def add := registerOperation registers memory addBytes
def sub := registerOperation registers memory subtractBytes
def sll := registerOperation registers memory fun left right =>
  shiftLeftBytes left (byte0ToNumber right 0x3f)
def slt := registerOperation registers memory fun left right =>
  booleanBytes (compareSignedBytes left right < 0)
def sltu := registerOperation registers memory fun left right =>
  booleanBytes (compareUnsignedBytes left right < 0)
def xor := registerOperation registers memory xorBytes
def srl := registerOperation registers memory fun left right =>
  shiftRightLogicalBytes left (byte0ToNumber right 0x3f)
def sra := registerOperation registers memory fun left right =>
  shiftRightArithmeticBytes left (byte0ToNumber right 0x3f)
def or := registerOperation registers memory orBytes
def and := registerOperation registers memory andBytes

def addw := registerOperation registers memory fun left right =>
  signExtendBytes (addBytes (low32Bytes left) (low32Bytes right)) 4
def subw := registerOperation registers memory fun left right =>
  signExtendBytes (subtractBytes (low32Bytes left) (low32Bytes right)) 4
def sllw := registerOperation registers memory fun left right =>
  signExtendBytes (shiftLeftBytes (low32Bytes left) (byte0ToNumber right 0x1f)) 4
def srlw := registerOperation registers memory fun left right =>
  signExtendBytes (shiftRightLogicalBytes (low32Bytes left) (byte0ToNumber right 0x1f)) 4
def sraw := registerOperation registers memory fun left right =>
  signExtendBytes (shiftRightArithmeticBytes (signExtendBytes (low32Bytes left) 4)
    (byte0ToNumber right 0x1f)) 4

/-- `value & MASK64`. -/
def mask64 (value : Int) : Int := value % 0x10000000000000000
/-- `value & MASK32`. -/
def mask32 (value : Int) : Int := value % 0x100000000
def signedMin : Int := -0x8000000000000000
def signed32Min : Int := -0x80000000

/-- Truncating division with the fixed results for 0 and overflow. -/
def signedQuotient (minimum dividend divisor : Int) : Int :=
  if divisor = 0 then -1
  else if dividend = minimum ∧ divisor = -1 then dividend
  else dividend.tdiv divisor

def signedRemainder (minimum dividend divisor : Int) : Int :=
  if divisor = 0 then dividend
  else if dividend = minimum ∧ divisor = -1 then 0
  else dividend.tmod divisor

def mul := registerOperation registers memory fun left right =>
  unsignedBigIntToBytes (mask64 (bytesToBigInt left * bytesToBigInt right))
def mulh := registerOperation registers memory fun left right =>
  unsignedBigIntToBytes (mask64 ((signedBytesToBigInt left * signedBytesToBigInt right) >>> (64 : Nat)))
def mulhsu := registerOperation registers memory fun left right =>
  unsignedBigIntToBytes (mask64 ((signedBytesToBigInt left * bytesToBigInt right) >>> (64 : Nat)))
def mulhu := registerOperation registers memory fun left right =>
  unsignedBigIntToBytes (mask64 (((bytesToBigInt left : Int) * bytesToBigInt right) >>> (64 : Nat)))
def div := registerOperation registers memory fun left right =>
  unsignedBigIntToBytes (mask64
    (signedQuotient signedMin (signedBytesToBigInt left) (signedBytesToBigInt right)))
def divu := registerOperation registers memory fun left right =>
  unsignedBigIntToBytes (mask64
    (if bytesToBigInt right = 0 then 0xffffffffffffffff else ((bytesToBigInt left / bytesToBigInt right : Nat) : Int)))
def rem := registerOperation registers memory fun left right =>
  unsignedBigIntToBytes (mask64
    (signedRemainder signedMin (signedBytesToBigInt left) (signedBytesToBigInt right)))
def remu := registerOperation registers memory fun left right =>
  unsignedBigIntToBytes (mask64
    (if bytesToBigInt right = 0 then (bytesToBigInt left : Int)
      else ((bytesToBigInt left % bytesToBigInt right : Nat) : Int)))

def low32Unsigned (bytes : Bytes8) : Int :=
  mask32 (bytesToBigInt (low32Bytes bytes))

def low32Signed (bytes : Bytes8) : Int :=
  if low32Unsigned bytes ≥ 0x80000000 then low32Unsigned bytes - 0x100000000 else low32Unsigned bytes

/-- The value `writeSext32` writes. -/
def sext32Bytes (value : Int) : Bytes8 :=
  signExtendBytes (unsignedBigIntToBytes (mask32 value)) 4

def mulw := registerOperation registers memory fun left right =>
  sext32Bytes (low32Signed left * low32Signed right)
def divw := registerOperation registers memory fun left right =>
  sext32Bytes (signedQuotient signed32Min (low32Signed left) (low32Signed right))
def divuw := registerOperation registers memory fun left right =>
  sext32Bytes (if low32Unsigned right = 0 then 0xffffffff else low32Unsigned left / low32Unsigned right)
def remw := registerOperation registers memory fun left right =>
  sext32Bytes (signedRemainder signed32Min (low32Signed left) (low32Signed right))
def remuw := registerOperation registers memory fun left right =>
  sext32Bytes (if low32Unsigned right = 0 then low32Unsigned left else low32Unsigned left % low32Unsigned right)

def addi := immediateOperation registers memory addBytes
def slti := immediateOperation registers memory fun left right =>
  booleanBytes (compareSignedBytes left right < 0)
def sltiu := immediateOperation registers memory fun left right =>
  booleanBytes (compareUnsignedBytes left right < 0)
def xori := immediateOperation registers memory xorBytes
def ori := immediateOperation registers memory orBytes
def andi := immediateOperation registers memory andBytes
def slli := shiftOperation registers memory shiftLeftBytes
def srli := shiftOperation registers memory shiftRightLogicalBytes
def srai := shiftOperation registers memory shiftRightArithmeticBytes

def addiw := immediateOperation registers memory fun left right =>
  signExtendBytes (addBytes (low32Bytes left) right) 4
def slliw := shiftOperation registers memory fun source amount =>
  signExtendBytes (shiftLeftBytes (low32Bytes source) amount) 4
def srliw := shiftOperation registers memory fun source amount =>
  signExtendBytes (shiftRightLogicalBytes (low32Bytes source) amount) 4
def sraiw := shiftOperation registers memory fun source amount =>
  signExtendBytes (shiftRightArithmeticBytes (signExtendBytes (low32Bytes source) 4) amount) 4

def lui (args : UpperArgs) (instructionByteLength : Bytes8) : Execution :=
  completeWith registers memory args.destinationRegister args.immediate instructionByteLength

def auipc (args : UpperArgs) (instructionByteLength : Bytes8) : Execution :=
  completeWith registers memory args.destinationRegister
    (addBytes registers.programCounter args.immediate) instructionByteLength

/-- `fence`, a no-op here. -/
def fence (instructionByteLength : Bytes8) : Execution :=
  .completed (advanceProgramCounter registers instructionByteLength) memory

/-- `fence.i`, a no-op here. -/
def fenceI (instructionByteLength : Bytes8) : Execution :=
  .completed (advanceProgramCounter registers instructionByteLength) memory

end YaRiscV.Emulator
