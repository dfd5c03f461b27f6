import YaRiscV.Emulator.Cpu.Instructions.Integer

/-! `cpu/instructions/jal.ts`, `jalr.ts` and `branch.ts`: control transfer. -/

namespace YaRiscV.Emulator

open YaRiscV.Library YaRiscV.Utils

structure JalArgs where
  destinationRegister : BitVec 5
  immediate : Bytes8

structure JalrArgs where
  destinationRegister : BitVec 5
  sourceRegister1 : BitVec 5
  immediate : Bytes8

structure BranchArgs where
  sourceRegister1 : BitVec 5
  sourceRegister2 : BitVec 5
  immediate : Bytes8

variable (registers : Registers) (memory : Memory)

def jal (args : JalArgs) (instructionByteLength : Bytes8) : Execution :=
  let registers := writeGeneralPurposeRegister registers args.destinationRegister
    (addBytes registers.programCounter instructionByteLength)
  .completed (setProgramCounter registers (addBytes registers.programCounter args.immediate)) memory

def jalr (args : JalrArgs) (instructionByteLength : Bytes8) : Execution :=
  let target := addBytes (readGeneralPurposeRegister registers args.sourceRegister1) args.immediate
  let target := setByte target 0 (byte target 0 &&& 0xfe)
  let registers := writeGeneralPurposeRegister registers args.destinationRegister
    (addBytes registers.programCounter instructionByteLength)
  .completed (setProgramCounter registers target) memory

def takeBranch (immediate : Bytes8) : Registers :=
  setProgramCounter registers (addBytes registers.programCounter immediate)

/-- The shape of the branches. -/
def branchIf (condition : Bytes8 → Bytes8 → Bool) (args : BranchArgs) (instructionByteLength : Bytes8) :
    Execution :=
  if condition (readGeneralPurposeRegister registers args.sourceRegister1)
      (readGeneralPurposeRegister registers args.sourceRegister2) then
    .completed (takeBranch registers args.immediate) memory
  else .completed (advanceProgramCounter registers instructionByteLength) memory

def beq := branchIf registers memory fun left right => compareUnsignedBytes left right == 0
def bne := branchIf registers memory fun left right => compareUnsignedBytes left right != 0
def blt := branchIf registers memory fun left right => decide (compareSignedBytes left right < 0)
def bge := branchIf registers memory fun left right => decide (compareSignedBytes left right ≥ 0)
def bltu := branchIf registers memory fun left right => decide (compareUnsignedBytes left right < 0)
def bgeu := branchIf registers memory fun left right => decide (compareUnsignedBytes left right ≥ 0)

end YaRiscV.Emulator
