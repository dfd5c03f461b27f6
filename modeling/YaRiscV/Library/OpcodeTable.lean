import Mathlib.Data.BitVec

/-! The opcode table of RV64IMA, Zicsr, Zifencei and the privileged instructions, by mask and
match, and the operands of a word by format. -/

namespace YaRiscV.Library.Rv64

/-- The bits an encoding fixes, and their values. -/
structure Encoding where
  mask : BitVec 32
  value : BitVec 32

def Encoding.Matches (encoding : Encoding) (word : BitVec 32) : Prop :=
  word &&& encoding.mask = encoding.value

inductive Mnemonic where
  | lui | auipc | jal | jalr
  | beq | bne | blt | bge | bltu | bgeu
  | lb | lh | lw | ld | lbu | lhu | lwu
  | sb | sh | sw | sd
  | addi | slti | sltiu | xori | ori | andi | slli | srli | srai
  | addiw | slliw | srliw | sraiw
  | add | sub | sll | slt | sltu | xor | srl | sra | or | and
  | addw | subw | sllw | srlw | sraw
  | mul | mulh | mulhsu | mulhu | div | divu | rem | remu
  | mulw | divw | divuw | remw | remuw
  | lrW | scW | amoswapW | amoaddW | amoxorW | amoandW | amoorW | amominW | amomaxW | amominuW | amomaxuW
  | lrD | scD | amoswapD | amoaddD | amoxorD | amoandD | amoorD | amominD | amomaxD | amominuD | amomaxuD
  | fence | fenceI
  | csrrw | csrrs | csrrc | csrrwi | csrrsi | csrrci
  | ecall | ebreak | sret | mret | wfi | sfenceVma
  deriving DecidableEq, Repr

def Mnemonic.encoding : Mnemonic → Encoding
  | .lui => ⟨0x0000007f, 0x00000037⟩
  | .auipc => ⟨0x0000007f, 0x00000017⟩
  | .jal => ⟨0x0000007f, 0x0000006f⟩
  | .jalr => ⟨0x0000707f, 0x00000067⟩
  | .beq => ⟨0x0000707f, 0x00000063⟩
  | .bne => ⟨0x0000707f, 0x00001063⟩
  | .blt => ⟨0x0000707f, 0x00004063⟩
  | .bge => ⟨0x0000707f, 0x00005063⟩
  | .bltu => ⟨0x0000707f, 0x00006063⟩
  | .bgeu => ⟨0x0000707f, 0x00007063⟩
  | .lb => ⟨0x0000707f, 0x00000003⟩
  | .lh => ⟨0x0000707f, 0x00001003⟩
  | .lw => ⟨0x0000707f, 0x00002003⟩
  | .ld => ⟨0x0000707f, 0x00003003⟩
  | .lbu => ⟨0x0000707f, 0x00004003⟩
  | .lhu => ⟨0x0000707f, 0x00005003⟩
  | .lwu => ⟨0x0000707f, 0x00006003⟩
  | .sb => ⟨0x0000707f, 0x00000023⟩
  | .sh => ⟨0x0000707f, 0x00001023⟩
  | .sw => ⟨0x0000707f, 0x00002023⟩
  | .sd => ⟨0x0000707f, 0x00003023⟩
  | .addi => ⟨0x0000707f, 0x00000013⟩
  | .slti => ⟨0x0000707f, 0x00002013⟩
  | .sltiu => ⟨0x0000707f, 0x00003013⟩
  | .xori => ⟨0x0000707f, 0x00004013⟩
  | .ori => ⟨0x0000707f, 0x00006013⟩
  | .andi => ⟨0x0000707f, 0x00007013⟩
  | .slli => ⟨0xfc00707f, 0x00001013⟩
  | .srli => ⟨0xfc00707f, 0x00005013⟩
  | .srai => ⟨0xfc00707f, 0x40005013⟩
  | .addiw => ⟨0x0000707f, 0x0000001b⟩
  | .slliw => ⟨0xfe00707f, 0x0000101b⟩
  | .srliw => ⟨0xfe00707f, 0x0000501b⟩
  | .sraiw => ⟨0xfe00707f, 0x4000501b⟩
  | .add => ⟨0xfe00707f, 0x00000033⟩
  | .sub => ⟨0xfe00707f, 0x40000033⟩
  | .sll => ⟨0xfe00707f, 0x00001033⟩
  | .slt => ⟨0xfe00707f, 0x00002033⟩
  | .sltu => ⟨0xfe00707f, 0x00003033⟩
  | .xor => ⟨0xfe00707f, 0x00004033⟩
  | .srl => ⟨0xfe00707f, 0x00005033⟩
  | .sra => ⟨0xfe00707f, 0x40005033⟩
  | .or => ⟨0xfe00707f, 0x00006033⟩
  | .and => ⟨0xfe00707f, 0x00007033⟩
  | .addw => ⟨0xfe00707f, 0x0000003b⟩
  | .subw => ⟨0xfe00707f, 0x4000003b⟩
  | .sllw => ⟨0xfe00707f, 0x0000103b⟩
  | .srlw => ⟨0xfe00707f, 0x0000503b⟩
  | .sraw => ⟨0xfe00707f, 0x4000503b⟩
  | .mul => ⟨0xfe00707f, 0x02000033⟩
  | .mulh => ⟨0xfe00707f, 0x02001033⟩
  | .mulhsu => ⟨0xfe00707f, 0x02002033⟩
  | .mulhu => ⟨0xfe00707f, 0x02003033⟩
  | .div => ⟨0xfe00707f, 0x02004033⟩
  | .divu => ⟨0xfe00707f, 0x02005033⟩
  | .rem => ⟨0xfe00707f, 0x02006033⟩
  | .remu => ⟨0xfe00707f, 0x02007033⟩
  | .mulw => ⟨0xfe00707f, 0x0200003b⟩
  | .divw => ⟨0xfe00707f, 0x0200403b⟩
  | .divuw => ⟨0xfe00707f, 0x0200503b⟩
  | .remw => ⟨0xfe00707f, 0x0200603b⟩
  | .remuw => ⟨0xfe00707f, 0x0200703b⟩
  | .lrW => ⟨0xf9f0707f, 0x1000202f⟩
  | .scW => ⟨0xf800707f, 0x1800202f⟩
  | .amoswapW => ⟨0xf800707f, 0x0800202f⟩
  | .amoaddW => ⟨0xf800707f, 0x0000202f⟩
  | .amoxorW => ⟨0xf800707f, 0x2000202f⟩
  | .amoandW => ⟨0xf800707f, 0x6000202f⟩
  | .amoorW => ⟨0xf800707f, 0x4000202f⟩
  | .amominW => ⟨0xf800707f, 0x8000202f⟩
  | .amomaxW => ⟨0xf800707f, 0xa000202f⟩
  | .amominuW => ⟨0xf800707f, 0xc000202f⟩
  | .amomaxuW => ⟨0xf800707f, 0xe000202f⟩
  | .lrD => ⟨0xf9f0707f, 0x1000302f⟩
  | .scD => ⟨0xf800707f, 0x1800302f⟩
  | .amoswapD => ⟨0xf800707f, 0x0800302f⟩
  | .amoaddD => ⟨0xf800707f, 0x0000302f⟩
  | .amoxorD => ⟨0xf800707f, 0x2000302f⟩
  | .amoandD => ⟨0xf800707f, 0x6000302f⟩
  | .amoorD => ⟨0xf800707f, 0x4000302f⟩
  | .amominD => ⟨0xf800707f, 0x8000302f⟩
  | .amomaxD => ⟨0xf800707f, 0xa000302f⟩
  | .amominuD => ⟨0xf800707f, 0xc000302f⟩
  | .amomaxuD => ⟨0xf800707f, 0xe000302f⟩
  | .fence => ⟨0x0000707f, 0x0000000f⟩
  | .fenceI => ⟨0x0000707f, 0x0000100f⟩
  | .csrrw => ⟨0x0000707f, 0x00001073⟩
  | .csrrs => ⟨0x0000707f, 0x00002073⟩
  | .csrrc => ⟨0x0000707f, 0x00003073⟩
  | .csrrwi => ⟨0x0000707f, 0x00005073⟩
  | .csrrsi => ⟨0x0000707f, 0x00006073⟩
  | .csrrci => ⟨0x0000707f, 0x00007073⟩
  | .ecall => ⟨0xffffffff, 0x00000073⟩
  | .ebreak => ⟨0xffffffff, 0x00100073⟩
  | .sret => ⟨0xffffffff, 0x10200073⟩
  | .mret => ⟨0xffffffff, 0x30200073⟩
  | .wfi => ⟨0xffffffff, 0x10500073⟩
  | .sfenceVma => ⟨0xfe007fff, 0x12000073⟩

/-! The operands of a word. -/

section Operands

variable (word : BitVec 32)

def rdOf : BitVec 5 := word.extractLsb' 7 5
def rs1Of : BitVec 5 := word.extractLsb' 15 5
def rs2Of : BitVec 5 := word.extractLsb' 20 5
def csrOf : BitVec 12 := word.extractLsb' 20 12

/-- The shift amount of the shifts of 64 bits. -/
def shamt6Of : BitVec 6 := word.extractLsb' 20 6

/-- The shift amount of the shifts of 32 bits. -/
def shamt5Of : BitVec 5 := word.extractLsb' 20 5

def immI : BitVec 64 := (word.extractLsb' 20 12).signExtend 64

def immS : BitVec 64 := (word.extractLsb' 25 7 ++ word.extractLsb' 7 5).signExtend 64

def immB : BitVec 64 := (word.extractLsb' 31 1 ++ word.extractLsb' 7 1 ++ word.extractLsb' 25 6 ++
  word.extractLsb' 8 4 ++ 0#1).signExtend 64

def immU : BitVec 64 := (word.extractLsb' 12 20 ++ 0#12).signExtend 64

def immJ : BitVec 64 := (word.extractLsb' 31 1 ++ word.extractLsb' 12 8 ++ word.extractLsb' 20 1 ++
  word.extractLsb' 21 10 ++ 0#1).signExtend 64

end Operands

/-! Fixed fields. -/

variable {encoding : Encoding} {word : BitVec 32}

/-- A field that an encoding fixes. -/
theorem Encoding.Matches.bits (matched : encoding.Matches word) (start : Nat) (mask : BitVec 32)
    (fixed : (encoding.mask >>> start) &&& mask = mask) :
    (word >>> start) &&& mask = (encoding.value >>> start) &&& mask := by
  rw [← show word &&& encoding.mask = encoding.value from matched, BitVec.ushiftRight_and_distrib,
    BitVec.and_assoc, fixed]

theorem Encoding.Matches.low (matched : encoding.Matches word) (mask : BitVec 32)
    (fixed : encoding.mask &&& mask = mask) : word &&& mask = encoding.value &&& mask := by
  rw [← show word &&& encoding.mask = encoding.value from matched, BitVec.and_assoc, fixed]

/-- The bits above `start`, where an encoding fixes them all. -/
theorem Encoding.Matches.top (matched : encoding.Matches word) (start : Nat)
    (fixed : encoding.mask >>> start = BitVec.allOnes 32 >>> start) :
    word >>> start = encoding.value >>> start := by
  rw [← show word &&& encoding.mask = encoding.value from matched, BitVec.ushiftRight_and_distrib, fixed,
    ← BitVec.ushiftRight_and_distrib, BitVec.and_allOnes]

/-- An encoding that fixes every bit has one word. -/
theorem Encoding.Matches.whole (matched : encoding.Matches word)
    (fixed : encoding.mask = BitVec.allOnes 32) : word = encoding.value := by
  rw [← show word &&& encoding.mask = encoding.value from matched, fixed, BitVec.and_allOnes]

theorem and_placed (word mask : BitVec 32) (start : Nat) :
    word &&& (mask <<< start) = ((word >>> start) &&& mask) <<< start := by
  apply BitVec.eq_of_getLsbD_eq
  intro bit inside
  simp only [BitVec.getLsbD_and, BitVec.getLsbD_shiftLeft, BitVec.getLsbD_ushiftRight]
  by_cases below : bit < start
  · simp [below]
  · have placed : start + (bit - start) = bit := by omega
    simp [below, placed, inside]

/-- One more field, read off the word. -/
theorem Encoding.Matches.field {below lowest : BitVec 32} (matched : Encoding.Matches ⟨below, lowest⟩ word)
    (start : Nat) (mask : BitVec 32) {field : BitVec 32} (upper : (word >>> start) &&& mask = field) :
    Encoding.Matches ⟨below ||| mask <<< start, lowest ||| field <<< start⟩ word := by
  have lower : word &&& below = lowest := matched
  change word &&& (below ||| mask <<< start) = lowest ||| field <<< start
  rw [BitVec.and_or_distrib_left, and_placed, lower, upper]

theorem Encoding.Matches.zeroField {below lowest : BitVec 32} (matched : Encoding.Matches ⟨below, lowest⟩ word)
    (start : Nat) (mask : BitVec 32) (upper : (word >>> start) &&& mask = 0) :
    Encoding.Matches ⟨below ||| mask <<< start, lowest⟩ word := by
  have both := matched.field start mask upper
  rwa [show (0 : BitVec 32) <<< start = 0 from BitVec.zero_shiftLeft start,
    show lowest ||| 0 = lowest from BitVec.or_zero] at both

/-- The highest field needs no mask. -/
theorem shifted_top (word : BitVec 32) (start : Nat) :
    (word >>> start) &&& (BitVec.allOnes 32 >>> start) = word >>> start := by
  rw [← BitVec.ushiftRight_and_distrib, BitVec.and_allOnes]

end YaRiscV.Library.Rv64
