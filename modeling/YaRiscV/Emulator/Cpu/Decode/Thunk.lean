import YaRiscV.Emulator.Cpu.Instructions.Control
import YaRiscV.Emulator.Cpu.Instructions.LoadStore
import YaRiscV.Emulator.Cpu.Instructions.Amo
import YaRiscV.Emulator.Cpu.Instructions.System

/-! The thunks the decoders return, as the instruction function each one calls and the
arguments it captured. -/

namespace YaRiscV.Emulator

open YaRiscV.Library YaRiscV.Utils

inductive OpFunction where
  | add | sub | sll | slt | sltu | xor | srl | sra | or | and
  | mul | mulh | mulhsu | mulhu | div | divu | rem | remu
  | addw | subw | sllw | srlw | sraw
  | mulw | divw | divuw | remw | remuw
  deriving DecidableEq, Repr

inductive OpImmFunction where
  | addi | slti | sltiu | xori | ori | andi | addiw
  deriving DecidableEq, Repr

inductive ShiftImmFunction where
  | slli | srli | srai | slliw | srliw | sraiw
  deriving DecidableEq, Repr

inductive BranchFunction where
  | beq | bne | blt | bge | bltu | bgeu
  deriving DecidableEq, Repr

inductive LoadFunction where
  | lb | lh | lw | ld | lbu | lhu | lwu
  deriving DecidableEq, Repr

inductive StoreFunction where
  | sb | sh | sw | sd
  deriving DecidableEq, Repr

inductive AmoFunction where
  | amoswap | amoadd | amoxor | amoand | amoor | amomin | amomax | amominu | amomaxu
  deriving DecidableEq, Repr

inductive CsrRegisterFunction where
  | csrrw | csrrs | csrrc
  deriving DecidableEq, Repr

inductive CsrImmediateFunction where
  | csrrwi | csrrsi | csrrci
  deriving DecidableEq, Repr

/-- The closures of `decode-32.ts` and `decode-c.ts`. -/
inductive ExecuteThunk where
  | lui (args : UpperArgs)
  | auipc (args : UpperArgs)
  | jal (args : JalArgs)
  | jalr (args : JalrArgs)
  | branch (function : BranchFunction) (args : BranchArgs)
  | load (function : LoadFunction) (args : LoadArgs)
  | store (function : StoreFunction) (args : StoreArgs)
  | lr (byteLength : AtomicWidth) (args : AmoArgs)
  | sc (byteLength : AtomicWidth) (args : AmoArgs)
  | amo (function : AmoFunction) (byteLength : AtomicWidth) (args : AmoArgs)
  | op (function : OpFunction) (args : OpArgs)
  | opImm (function : OpImmFunction) (args : OpImmArgs)
  | shiftImm (function : ShiftImmFunction) (args : ShiftImmArgs)
  | fence
  | fenceI
  | ecall
  | ebreak
  | mret
  | sret
  | wfi
  | sfenceVma (instructionWord : BitVec 32)
  | csrRegister (function : CsrRegisterFunction) (args : CsrRegisterArgs)
  | csrImmediate (function : CsrImmediateFunction) (args : CsrImmediateArgs)
  | illegalInstruction (instructionWord : BitVec 32)
  | illegalC (halfword : BitVec 32)
  | cNop

variable (registers : Registers) (memory : Memory)

def OpFunction.execute : OpFunction → OpArgs → Bytes8 → Execution
  | .add => Emulator.add registers memory
  | .sub => Emulator.sub registers memory
  | .sll => Emulator.sll registers memory
  | .slt => Emulator.slt registers memory
  | .sltu => Emulator.sltu registers memory
  | .xor => Emulator.xor registers memory
  | .srl => Emulator.srl registers memory
  | .sra => Emulator.sra registers memory
  | .or => Emulator.or registers memory
  | .and => Emulator.and registers memory
  | .mul => Emulator.mul registers memory
  | .mulh => Emulator.mulh registers memory
  | .mulhsu => Emulator.mulhsu registers memory
  | .mulhu => Emulator.mulhu registers memory
  | .div => Emulator.div registers memory
  | .divu => Emulator.divu registers memory
  | .rem => Emulator.rem registers memory
  | .remu => Emulator.remu registers memory
  | .addw => Emulator.addw registers memory
  | .subw => Emulator.subw registers memory
  | .sllw => Emulator.sllw registers memory
  | .srlw => Emulator.srlw registers memory
  | .sraw => Emulator.sraw registers memory
  | .mulw => Emulator.mulw registers memory
  | .divw => Emulator.divw registers memory
  | .divuw => Emulator.divuw registers memory
  | .remw => Emulator.remw registers memory
  | .remuw => Emulator.remuw registers memory

def OpImmFunction.execute : OpImmFunction → OpImmArgs → Bytes8 → Execution
  | .addi => Emulator.addi registers memory
  | .slti => Emulator.slti registers memory
  | .sltiu => Emulator.sltiu registers memory
  | .xori => Emulator.xori registers memory
  | .ori => Emulator.ori registers memory
  | .andi => Emulator.andi registers memory
  | .addiw => Emulator.addiw registers memory

def ShiftImmFunction.execute : ShiftImmFunction → ShiftImmArgs → Bytes8 → Execution
  | .slli => Emulator.slli registers memory
  | .srli => Emulator.srli registers memory
  | .srai => Emulator.srai registers memory
  | .slliw => Emulator.slliw registers memory
  | .srliw => Emulator.srliw registers memory
  | .sraiw => Emulator.sraiw registers memory

def BranchFunction.execute : BranchFunction → BranchArgs → Bytes8 → Execution
  | .beq => Emulator.beq registers memory
  | .bne => Emulator.bne registers memory
  | .blt => Emulator.blt registers memory
  | .bge => Emulator.bge registers memory
  | .bltu => Emulator.bltu registers memory
  | .bgeu => Emulator.bgeu registers memory

def LoadFunction.execute : LoadFunction → LoadArgs → Bytes8 → Execution
  | .lb => Emulator.lb registers memory
  | .lh => Emulator.lh registers memory
  | .lw => Emulator.lw registers memory
  | .ld => Emulator.ld registers memory
  | .lbu => Emulator.lbu registers memory
  | .lhu => Emulator.lhu registers memory
  | .lwu => Emulator.lwu registers memory

def StoreFunction.execute : StoreFunction → StoreArgs → Bytes8 → Execution
  | .sb => Emulator.sb registers memory
  | .sh => Emulator.sh registers memory
  | .sw => Emulator.sw registers memory
  | .sd => Emulator.sd registers memory

/-- How many bytes each store writes. -/
def StoreFunction.byteLength : StoreFunction → Nat
  | .sb => 1
  | .sh => 2
  | .sw => 4
  | .sd => 8

/-- `lrW` and `lrD`. -/
def executeLr : AtomicWidth → AmoArgs → Bytes8 → Execution
  | .word => lrW registers memory
  | .doubleword => lrD registers memory

/-- `scW` and `scD`. -/
def executeSc : AtomicWidth → AmoArgs → Bytes8 → Execution
  | .word => scW registers memory
  | .doubleword => scD registers memory

/-- `amoswapW` to `amomaxuD`. -/
def AmoFunction.execute (args : AmoArgs) (byteLength : AtomicWidth) : AmoFunction → Bytes8 → Execution
  | .amoswap => Emulator.amoswap registers memory args byteLength
  | .amoadd => Emulator.amoadd registers memory args byteLength
  | .amoxor => Emulator.amoxor registers memory args byteLength
  | .amoand => Emulator.amoand registers memory args byteLength
  | .amoor => Emulator.amoor registers memory args byteLength
  | .amomin => Emulator.amomin registers memory args byteLength
  | .amomax => Emulator.amomax registers memory args byteLength
  | .amominu => Emulator.amominu registers memory args byteLength
  | .amomaxu => Emulator.amomaxu registers memory args byteLength

def CsrRegisterFunction.execute : CsrRegisterFunction → CsrRegisterArgs → Bytes8 → Execution
  | .csrrw => Emulator.csrrw registers memory
  | .csrrs => Emulator.csrrs registers memory
  | .csrrc => Emulator.csrrc registers memory

def CsrImmediateFunction.execute : CsrImmediateFunction → CsrImmediateArgs → Bytes8 → Execution
  | .csrrwi => Emulator.csrrwi registers memory
  | .csrrsi => Emulator.csrrsi registers memory
  | .csrrci => Emulator.csrrci registers memory

/-- Illegal encoding: cause 2 with the instruction word. -/
def illegalInstruction (instructionWord : BitVec 32) : Execution :=
  .trapped (enterTrap registers causeIllegalInstruction (instructionWordTrapValue instructionWord)) memory

def illegalC (halfword : BitVec 32) : Execution :=
  .trapped (enterTrap registers causeIllegalInstruction
    (instructionWordTrapValue (halfword &&& 0xffff))) memory

/-- HINT and NOP encodings. -/
def cNop (instructionByteLength : Bytes8) : Execution :=
  .completed (advanceProgramCounter registers instructionByteLength) memory

/-- Call a thunk. -/
def ExecuteThunk.execute (thunk : ExecuteThunk) (instructionByteLength : Bytes8) : Execution :=
  match thunk with
  | .lui args => Emulator.lui registers memory args instructionByteLength
  | .auipc args => Emulator.auipc registers memory args instructionByteLength
  | .jal args => Emulator.jal registers memory args instructionByteLength
  | .jalr args => Emulator.jalr registers memory args instructionByteLength
  | .branch function args => function.execute registers memory args instructionByteLength
  | .load function args => function.execute registers memory args instructionByteLength
  | .store function args => function.execute registers memory args instructionByteLength
  | .lr byteLength args => executeLr registers memory byteLength args instructionByteLength
  | .sc byteLength args => executeSc registers memory byteLength args instructionByteLength
  | .amo function byteLength args => function.execute registers memory args byteLength instructionByteLength
  | .op function args => function.execute registers memory args instructionByteLength
  | .opImm function args => function.execute registers memory args instructionByteLength
  | .shiftImm function args => function.execute registers memory args instructionByteLength
  | .fence => Emulator.fence registers memory instructionByteLength
  | .fenceI => Emulator.fenceI registers memory instructionByteLength
  | .ecall => Emulator.ecall registers memory
  | .ebreak => Emulator.ebreak registers memory
  | .mret => Emulator.mret registers memory
  | .sret => Emulator.sret registers memory
  | .wfi => Emulator.wfi registers memory instructionByteLength
  | .sfenceVma instructionWord =>
    Emulator.sfenceVma registers memory instructionWord instructionByteLength
  | .csrRegister function args => function.execute registers memory args instructionByteLength
  | .csrImmediate function args => function.execute registers memory args instructionByteLength
  | .illegalInstruction instructionWord => Emulator.illegalInstruction registers memory instructionWord
  | .illegalC halfword => Emulator.illegalC registers memory halfword
  | .cNop => Emulator.cNop registers memory instructionByteLength

/-- The memory address a thunk accesses, if it accesses one. -/
def ExecuteThunk.effectiveAddress : ExecuteThunk → Option Bytes8
  | .load _ args => some (loadEffectiveAddress registers args)
  | .store _ args => some (storeEffectiveAddress registers args)
  | .lr _ args => some (readGeneralPurposeRegister registers args.sourceRegister1)
  | .sc _ args => some (readGeneralPurposeRegister registers args.sourceRegister1)
  | .amo _ _ args => some (readGeneralPurposeRegister registers args.sourceRegister1)
  | _ => none

variable {registers memory}

theorem OpFunction.execute_eq (function : OpFunction) : ∃ operation, ∀ registers memory,
    function.execute registers memory = registerOperation registers memory operation := by
  cases function <;> exact ⟨_, fun _ _ => by rw [OpFunction.execute]; rfl⟩

theorem OpImmFunction.execute_eq (function : OpImmFunction) : ∃ operation, ∀ registers memory,
    function.execute registers memory = immediateOperation registers memory operation := by
  cases function <;> exact ⟨_, fun _ _ => by rw [OpImmFunction.execute]; rfl⟩

theorem ShiftImmFunction.execute_eq (function : ShiftImmFunction) : ∃ operation, ∀ registers memory,
    function.execute registers memory = shiftOperation registers memory operation := by
  cases function <;> exact ⟨_, fun _ _ => by rw [ShiftImmFunction.execute]; rfl⟩

theorem BranchFunction.execute_eq (function : BranchFunction) : ∃ condition, ∀ registers memory,
    function.execute registers memory = branchIf registers memory condition := by
  cases function <;> exact ⟨_, fun _ _ => by rw [BranchFunction.execute]; rfl⟩

theorem LoadFunction.execute_eq (function : LoadFunction) : ∃ byteLength extend,
    byteLength ∈ [1, 2, 4, 8] ∧ ∀ registers memory,
      function.execute registers memory = loadRegister registers memory byteLength extend := by
  cases function
  case lb | lbu => exact ⟨1, _, by decide, fun _ _ => by rw [LoadFunction.execute]; rfl⟩
  case lh | lhu => exact ⟨2, _, by decide, fun _ _ => by rw [LoadFunction.execute]; rfl⟩
  case lw | lwu => exact ⟨4, _, by decide, fun _ _ => by rw [LoadFunction.execute]; rfl⟩
  case ld => exact ⟨8, _, by decide, fun _ _ => by rw [LoadFunction.execute]; rfl⟩

theorem StoreFunction.execute_eq (function : StoreFunction) (registers : Registers) (memory : Memory) :
    function.execute registers memory = storeRegister registers memory function.byteLength := by
  cases function <;> rfl

theorem executeLr_eq (byteLength : AtomicWidth) : ∃ extend, ∀ registers memory,
    executeLr registers memory byteLength = loadReserved registers memory byteLength extend := by
  cases byteLength <;> exact ⟨_, fun _ _ => by rw [executeLr]; rfl⟩

theorem executeSc_eq (byteLength : AtomicWidth) (registers : Registers) (memory : Memory) :
    executeSc registers memory byteLength = storeConditional registers memory byteLength := by
  cases byteLength <;> rfl

theorem AmoFunction.execute_eq (function : AmoFunction) : ∃ combine,
    ∀ registers memory args byteLength instructionByteLength,
      function.execute registers memory args byteLength instructionByteLength =
        amoReadModifyWrite registers memory args byteLength combine instructionByteLength := by
  cases function <;> exact ⟨_, fun _ _ _ _ _ => by rw [AmoFunction.execute]; rfl⟩

theorem CsrRegisterFunction.execute_eq (function : CsrRegisterFunction) (args : CsrRegisterArgs)
    (registers : Registers) : ∃ writes update, ∀ memory instructionByteLength,
      function.execute registers memory args instructionByteLength =
        csrReadWrite registers memory writes update args.destinationRegister
          args.controlAndStatusRegister args.instructionWord instructionByteLength := by
  cases function <;> exact ⟨_, _, fun _ _ => by rw [CsrRegisterFunction.execute]; rfl⟩

theorem CsrImmediateFunction.execute_eq (function : CsrImmediateFunction) (args : CsrImmediateArgs) :
    ∃ writes update, ∀ registers memory instructionByteLength,
      function.execute registers memory args instructionByteLength =
        csrReadWrite registers memory writes update args.destinationRegister
          args.controlAndStatusRegister args.instructionWord instructionByteLength := by
  cases function <;> exact ⟨_, _, fun _ _ _ => by rw [CsrImmediateFunction.execute]; rfl⟩

end YaRiscV.Emulator
