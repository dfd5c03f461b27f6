import YaRiscV.Emulator.Cpu.Decode.Encodings
import YaRiscV.Emulator.Cpu.Decode.DecodeC
import YaRiscV.Emulator.Cpu.TrapPrecision

/-! Compressed instructions do what their expansions do; every other encoding is illegal. -/

namespace YaRiscV.Emulator

open YaRiscV.Library YaRiscV.Utils

variable {registers after : Registers} {memory : Memory} {thunk : ExecuteThunk} (halfword : BitVec 16)

/-! Fields. -/

theorem extract_setWidth (start count : Nat) :
    (halfword.setWidth 32).extractLsb' start count = halfword.extractLsb' start count := by
  apply BitVec.eq_of_getLsbD_eq
  intro bit inside
  simp only [BitVec.getLsbD_extractLsb', BitVec.getLsbD_setWidth, inside]
  cases set : halfword.getLsbD (start + bit) with
  | false => simp
  | true =>
    have below := BitVec.lt_of_getLsbD set
    have within : start + bit < 32 := by omega
    simp [within]

/-- A field of the halfword, as the decoder cuts it out. -/
theorem field (start count : Nat) (mask : BitVec 32) (covers : mask = BitVec.ofNat 32 (2 ^ count - 1)) :
    (halfword.setWidth 32 >>> start) &&& mask = (halfword.extractLsb' start count).setWidth 32 := by
  rw [shifted_and _ start count mask covers, extract_setWidth]

theorem whole_halfword : halfword.setWidth 32 &&& 0xffff = halfword.setWidth 32 := by
  rw [masked _ 16 0xffff rfl, extract_setWidth, BitVec.extractLsb'_eq_self]

theorem function3Of_halfword :
    Compressed.function3Of (halfword.setWidth 32) = (Rv64.funct3C halfword).setWidth 32 :=
  field halfword 13 3 7 rfl

theorem rdOf_halfword : Compressed.rdOf (halfword.setWidth 32) = Rv64.rdC halfword := by
  rw [Compressed.rdOf, field halfword 7 5 0x1f rfl, setWidth_small _ (by decide), Rv64.rdC]

theorem rs1Of_halfword : Compressed.rs1Of (halfword.setWidth 32) = Rv64.rdC halfword :=
  rdOf_halfword halfword

theorem rs2Of_halfword : Compressed.rs2Of (halfword.setWidth 32) = Rv64.rs2C halfword := by
  rw [Compressed.rs2Of, field halfword 2 5 0x1f rfl, setWidth_small _ (by decide), Rv64.rs2C]

theorem compactRegister_eq (encoded : BitVec 3) :
    Compressed.compactRegister (encoded.setWidth 32) = Rv64.compact encoded := by
  revert encoded
  decide

theorem rdPrimeOf_halfword : Compressed.rdPrimeOf (halfword.setWidth 32) = Rv64.rs2Prime halfword := by
  rw [Compressed.rdPrimeOf, field halfword 2 3 7 rfl, compactRegister_eq, Rv64.rs2Prime]

theorem rs1PrimeOf_halfword : Compressed.rs1PrimeOf (halfword.setWidth 32) = Rv64.rs1Prime halfword := by
  rw [Compressed.rs1PrimeOf, field halfword 7 3 7 rfl, compactRegister_eq, Rv64.rs1Prime]

theorem rs2PrimeOf_halfword : Compressed.rs2PrimeOf (halfword.setWidth 32) = Rv64.rs2Prime halfword :=
  rdPrimeOf_halfword halfword

/-! Immediates. -/

theorem signExtend_signExtend (field : BitVec count) (positive : 0 < count) (wider : count ≤ width) (v : Nat) :
    (field.signExtend width).signExtend v = field.signExtend v := by
  apply BitVec.eq_of_getLsbD_eq
  intro bit inside
  simp only [BitVec.getLsbD_signExtend, BitVec.msb_signExtend, inside]
  grind

theorem setWidth_signExtend (field : BitVec count) (wider : count < width) (v : Nat) :
    (field.setWidth width).signExtend v = field.setWidth v := by
  have low : (field.setWidth width).msb = false := by
    rw [BitVec.msb_setWidth, BitVec.getLsbD_of_ge _ _ (by omega), Bool.and_false]
  rw [BitVec.signExtend_eq_setWidth_of_msb_false low, BitVec.setWidth_setWidth fun narrower => by omega]

/-- A signed immediate reaches the thunk as it does through a wider field. -/
theorem signed_immediate (imm : BitVec count) (positive : 0 < count) (wider : count ≤ width) (fits : count ≤ 32) :
    (imm.signExtend width).signExtend 64 = signedNumberToBytes (imm.setWidth 32) count := by
  rw [signedNumberToBytes_eq _ _ positive fits, setWidth_small _ fits, signExtend_signExtend _ positive wider]

/-- An immediate that is not sign-extended stays below the sign of both fields. -/
theorem unsigned_immediate (imm : BitVec count) (narrower : count < 12) :
    (imm.setWidth 12).signExtend 64 = signedNumberToBytes (imm.setWidth 32) 32 := by
  rw [signedNumberToBytes_eq _ 32 (by decide) (by decide), BitVec.setWidth_eq, setWidth_signExtend _ narrower,
    setWidth_signExtend _ (by omega)]

/-- Concatenation, as shifts and ORs. -/
theorem placed (high : BitVec m) (low : BitVec n) :
    (high ++ low).setWidth width = (high.setWidth width <<< n) ||| low.setWidth width :=
  BitVec.setWidth_append_eq_shiftLeft_setWidth_or

/-- Bit 12 moved to bit 5 without shifting it down first. -/
private theorem sign_bit (word : BitVec 32) : (word >>> 7) &&& 0x20 = ((word >>> 12) &&& 0x1) <<< 5 := by
  apply BitVec.eq_of_getLsbD_eq
  intro bit inside
  interval_cases bit <;> simp

/-- The six bits of the CI immediate, as the decoder puts them together. -/
theorem ciImm_placed :
    (((halfword.setWidth 32 >>> 12) &&& 0x1) <<< 5) ||| ((halfword.setWidth 32 >>> 2) &&& 0x1f) =
      (Rv64.ciImm halfword).setWidth 32 := by
  rw [field halfword 12 1 0x1 rfl, field halfword 2 5 0x1f rfl, Rv64.ciImm, placed]

theorem decodeCiImm6_halfword :
    Compressed.decodeCiImm6 (halfword.setWidth 32) = ((Rv64.ciImm halfword).signExtend 12).signExtend 64 := by
  rw [Compressed.decodeCiImm6, sign_bit, ciImm_placed, signed_immediate _ (by decide) (by decide) (by decide)]

theorem decodeAddi4SpnImmediate_halfword : Compressed.decodeAddi4SpnImmediate (halfword.setWidth 32) =
    (Rv64.addi4spnImm halfword).setWidth 32 := by
  simp only [Compressed.decodeAddi4SpnImmediate, field halfword _ 4 0xf rfl, field halfword _ 2 0x3 rfl,
    field halfword _ 1 0x1 rfl, Rv64.addi4spnImm, placed, BitVec.shiftLeft_or_distrib,
    ← BitVec.shiftLeft_add, BitVec.setWidth_zero, BitVec.or_zero]

theorem decodeLwSwOffset_halfword : Compressed.decodeLwSwOffset (halfword.setWidth 32) =
    ((Rv64.lwOffset halfword).setWidth 12).signExtend 64 := by
  rw [Compressed.decodeLwSwOffset, unsigned_immediate _ (by decide)]
  simp only [field halfword _ 3 0x7 rfl, field halfword _ 1 0x1 rfl, Rv64.lwOffset, placed,
    BitVec.shiftLeft_or_distrib, ← BitVec.shiftLeft_add, BitVec.setWidth_zero, BitVec.or_zero]
  congr 1
  ac_rfl

theorem decodeLdSdOffset_halfword : Compressed.decodeLdSdOffset (halfword.setWidth 32) =
    ((Rv64.ldOffset halfword).setWidth 12).signExtend 64 := by
  rw [Compressed.decodeLdSdOffset, unsigned_immediate _ (by decide)]
  simp only [field halfword _ 3 0x7 rfl, field halfword _ 2 0x3 rfl, Rv64.ldOffset, placed,
    BitVec.shiftLeft_or_distrib, ← BitVec.shiftLeft_add, BitVec.setWidth_zero, BitVec.or_zero]
  congr 1
  ac_rfl

theorem decodeAddi16SpImmediate_halfword : Compressed.decodeAddi16SpImmediate (halfword.setWidth 32) =
    ((Rv64.addi16spImm halfword).signExtend 12).signExtend 64 := by
  rw [Compressed.decodeAddi16SpImmediate, signed_immediate _ (by decide) (by decide) (by decide)]
  simp only [field halfword _ 1 0x1 rfl, field halfword _ 2 0x3 rfl, Rv64.addi16spImm, placed,
    BitVec.shiftLeft_or_distrib, ← BitVec.shiftLeft_add, BitVec.setWidth_zero, BitVec.or_zero]
  congr 1
  ac_rfl

theorem decodeLuiImmediate_halfword : Compressed.decodeLuiImmediate (halfword.setWidth 32) =
    ((Rv64.ciImm halfword).signExtend 20 ++ 0#12).signExtend 64 := by
  rw [Compressed.decodeLuiImmediate, signedNumberToBytes_eq _ 32 (by decide) (by decide), ciImm_placed]
  generalize Rv64.ciImm halfword = imm
  revert imm
  decide

theorem decodeLwSpOffset_halfword : Compressed.decodeLwSpOffset (halfword.setWidth 32) =
    ((Rv64.lwspOffset halfword).setWidth 12).signExtend 64 := by
  rw [Compressed.decodeLwSpOffset, unsigned_immediate _ (by decide)]
  simp only [field halfword _ 1 0x1 rfl, field halfword _ 2 0x3 rfl, field halfword _ 3 0x7 rfl,
    Rv64.lwspOffset, placed, BitVec.shiftLeft_or_distrib, ← BitVec.shiftLeft_add, BitVec.setWidth_zero,
    BitVec.or_zero]
  congr 1
  ac_rfl

theorem decodeLdSpOffset_halfword : Compressed.decodeLdSpOffset (halfword.setWidth 32) =
    ((Rv64.ldspOffset halfword).setWidth 12).signExtend 64 := by
  rw [Compressed.decodeLdSpOffset, unsigned_immediate _ (by decide)]
  simp only [field halfword _ 1 0x1 rfl, field halfword _ 2 0x3 rfl, field halfword _ 3 0x7 rfl,
    Rv64.ldspOffset, placed, BitVec.shiftLeft_or_distrib, ← BitVec.shiftLeft_add, BitVec.setWidth_zero,
    BitVec.or_zero]
  congr 1
  ac_rfl

theorem decodeSwSpOffset_halfword : Compressed.decodeSwSpOffset (halfword.setWidth 32) =
    ((Rv64.swspOffset halfword).setWidth 12).signExtend 64 := by
  rw [Compressed.decodeSwSpOffset, unsigned_immediate _ (by decide)]
  simp only [field halfword _ 4 0xf rfl, field halfword _ 2 0x3 rfl, Rv64.swspOffset, placed,
    BitVec.shiftLeft_or_distrib, ← BitVec.shiftLeft_add, BitVec.setWidth_zero, BitVec.or_zero]
  congr 1
  ac_rfl

theorem decodeSdSpOffset_halfword : Compressed.decodeSdSpOffset (halfword.setWidth 32) =
    ((Rv64.sdspOffset halfword).setWidth 12).signExtend 64 := by
  rw [Compressed.decodeSdSpOffset, unsigned_immediate _ (by decide)]
  simp only [field halfword _ 3 0x7 rfl, Rv64.sdspOffset, placed, BitVec.shiftLeft_or_distrib,
    ← BitVec.shiftLeft_add, BitVec.setWidth_zero, BitVec.or_zero]
  congr 1
  ac_rfl

theorem decodeCjOffset_halfword : Compressed.decodeCjOffset (halfword.setWidth 32) =
    ((Rv64.cjOffset halfword).signExtend 21).signExtend 64 := by
  rw [Compressed.decodeCjOffset, signed_immediate _ (by decide) (by decide) (by decide)]
  simp only [field halfword _ 1 0x1 rfl, field halfword _ 2 0x3 rfl, field halfword _ 3 0x7 rfl,
    Rv64.cjOffset, placed, BitVec.shiftLeft_or_distrib, ← BitVec.shiftLeft_add, BitVec.setWidth_zero,
    BitVec.or_zero]
  congr 1
  ac_rfl

theorem decodeCbOffset_halfword : Compressed.decodeCbOffset (halfword.setWidth 32) =
    ((Rv64.cbOffset halfword).signExtend 13).signExtend 64 := by
  rw [Compressed.decodeCbOffset, signed_immediate _ (by decide) (by decide) (by decide)]
  simp only [field halfword _ 1 0x1 rfl, field halfword _ 2 0x3 rfl, Rv64.cbOffset, placed,
    BitVec.shiftLeft_or_distrib, ← BitVec.shiftLeft_add, BitVec.setWidth_zero, BitVec.or_zero]
  congr 1
  ac_rfl

theorem decodeShamt_halfword : Compressed.decodeShamt (halfword.setWidth 32) = (Rv64.ciImm halfword).toNat := by
  rw [Compressed.decodeShamt, ciImm_placed, BitVec.toNat_setWidth_of_le (by decide)]

private theorem setWidth_zero_iff (field : BitVec count) (fits : count ≤ 32) : field.setWidth 32 = 0 ↔ field = 0 := by
  constructor
  · intro zero
    rw [← setWidth_small field fits, zero]
    exact BitVec.setWidth_zero _ _
  · rintro rfl
    exact BitVec.setWidth_zero _ _

private theorem append_zero_iff (high : BitVec m) (low : BitVec n) : high ++ low = 0 ↔ high = 0 ∧ low = 0 := by
  constructor
  · intro zero
    have left : (high ++ low).extractLsb' n m = high := BitVec.extractLsb'_append_eq_left
    have right : (high ++ low).extractLsb' 0 n = low := BitVec.extractLsb'_append_eq_right
    rw [zero] at left right
    exact ⟨left.symm.trans BitVec.extractLsb'_zero, right.symm.trans BitVec.extractLsb'_zero⟩
  · rintro ⟨rfl, rfl⟩
    exact BitVec.zero_append_zero

theorem immIsZero_halfword : Compressed.immIsZero (halfword.setWidth 32) = true ↔ Rv64.ciImm halfword = 0 := by
  rw [Compressed.immIsZero, field halfword 2 5 0x1f rfl, field halfword 12 1 0x1 rfl, Bool.and_eq_true, beq_iff_eq,
    beq_iff_eq, setWidth_zero_iff _ (by decide), setWidth_zero_iff _ (by decide), Rv64.ciImm, append_zero_iff]
  exact And.comm

theorem extract_extract (start count inner length : Nat) (inside : inner + length ≤ count) :
    (halfword.extractLsb' start count).extractLsb' inner length = halfword.extractLsb' (start + inner) length := by
  apply BitVec.eq_of_getLsbD_eq
  intro bit below
  have within : inner + bit < count := by omega
  simp only [BitVec.getLsbD_extractLsb', below, within, decide_true, Bool.true_and, Nat.add_assoc]

/-- The immediate of `c.addi16sp` is made of the bits of the others. -/
theorem addi16spImm_zero : Rv64.addi16spImm halfword = 0 ↔ Rv64.ciImm halfword = 0 := by
  rw [Rv64.addi16spImm, Rv64.ciImm, ← extract_extract halfword 2 5 1 2 (by decide),
    ← extract_extract halfword 2 5 3 1 (by decide), ← extract_extract halfword 2 5 0 1 (by decide),
    ← extract_extract halfword 2 5 4 1 (by decide)]
  generalize halfword.extractLsb' 12 1 = bit
  generalize halfword.extractLsb' 2 5 = bits
  revert bit bits
  decide

private theorem even_signExtend (high : BitVec n) (width : Nat) :
    ((high ++ 0#1).signExtend width).getLsbD 0 = false := by
  rw [BitVec.getLsbD_signExtend, if_pos (Nat.succ_pos n), BitVec.getLsbD_append,
    if_pos Nat.one_pos, BitVec.getLsbD_zero, Bool.and_false]

theorem cjOffset_even : ((Rv64.cjOffset halfword).signExtend 21).getLsbD 0 = false :=
  even_signExtend _ _

theorem cbOffset_even : ((Rv64.cbOffset halfword).signExtend 13).getLsbD 0 = false :=
  even_signExtend _ _

/-! Idle instructions. -/

/-- Nothing but the PC moves. -/
def Idle (thunk : ExecuteThunk) : Prop :=
  ∀ registers memory length,
    thunk.execute registers memory length = .completed (advanceProgramCounter registers length) memory

theorem completeWith_idle (idle : destination = 0 ∨ value = readGeneralPurposeRegister registers destination) :
    completeWith registers memory destination value length =
      .completed (advanceProgramCounter registers length) memory := by
  have same : writeGeneralPurposeRegister registers destination value = registers := by
    rw [writeGeneralPurposeRegister]
    split
    · rfl
    · rename_i named
      rcases idle with zero | rfl
      · exact absurd zero named
      · rw [readGeneralPurposeRegister, Function.update_eq_self]
  rw [completeWith, same]

theorem shiftLeftBytes_zero (source : Bytes8) : shiftLeftBytes source 0 = source := by
  have words : 64 = 8 * 8 := rfl
  refine eq_of_byte words fun index inside => ?_
  rw [shiftLeftBytes, byte_ofBytes _ inside (by decide)]
  simp

theorem shiftRightLogicalBytes_zero (source : Bytes8) : shiftRightLogicalBytes source 0 = source := by
  have words : 64 = 8 * 8 := rfl
  refine eq_of_byte words fun index inside => ?_
  rw [shiftRightLogicalBytes, byte_ofBytes _ inside (by decide)]
  simp [inside]

theorem shiftRightArithmeticBytes_zero (source : Bytes8) : shiftRightArithmeticBytes source 0 = source := by
  have words : 64 = 8 * 8 := rfl
  simp only [shiftRightArithmeticBytes, Nat.zero_and, shiftRightLogicalBytes_zero]
  split
  · rfl
  · refine eq_of_byte words fun index inside => ?_
    rw [byte_ofBytes _ inside (by decide)]
    simp [inside]

theorem cNop_idle : Idle .cNop :=
  fun _ _ _ => rfl

theorem lui_idle (immediate : Bytes8) : Idle (.lui ⟨0, immediate⟩) :=
  fun _ _ _ => completeWith_idle (.inl rfl)

theorem addi_idle (idle : destination = 0 ∨ source = destination ∧ immediate = 0) :
    Idle (.opImm .addi ⟨destination, source, immediate⟩) := by
  intro registers memory length
  refine completeWith_idle (idle.imp_right ?_)
  rintro ⟨rfl, rfl⟩
  exact (addBytes_eq _ _).trans (BitVec.add_zero _)

theorem slli_idle (idle : destination = 0 ∨ source = destination ∧ amount = 0) :
    Idle (.shiftImm .slli ⟨destination, source, amount⟩) := by
  intro registers memory length
  refine completeWith_idle (idle.imp_right ?_)
  rintro ⟨rfl, rfl⟩
  exact shiftLeftBytes_zero _

theorem srli_idle (register : BitVec 5) : Idle (.shiftImm .srli ⟨register, register, 0⟩) :=
  fun _ _ _ => completeWith_idle (.inr (shiftRightLogicalBytes_zero _))

theorem srai_idle (register : BitVec 5) : Idle (.shiftImm .srai ⟨register, register, 0⟩) :=
  fun _ _ _ => completeWith_idle (.inr (shiftRightArithmeticBytes_zero _))

theorem add_idle (source1 source2 : BitVec 5) : Idle (.op .add ⟨0, source1, source2⟩) :=
  fun _ _ _ => completeWith_idle (.inl rfl)

/-! The illegal-instruction trap. -/

/-- `after` has entered the trap of an illegal instruction, with the halfword as its value. -/
structure IllegalInstructionTrap (registers : Registers) (halfword : BitVec 16) (after : Registers) : Prop where
  entered : after = enterTrap registers causeIllegalInstruction (halfword.setWidth 64)
  cause : after.controlAndStatus (trapCause after.privilegeMode) = 2
  trapValue : after.controlAndStatus (trapTval after.privilegeMode) = halfword.setWidth 64

theorem trapValue_halfword : instructionWordTrapValue (halfword.setWidth 32 &&& 0xffff) = halfword.setWidth 64 := by
  rw [whole_halfword, instructionWordTrapValue, unsignedNumberToBytes_eq]
  apply BitVec.eq_of_toNat_eq
  have bound := halfword.isLt
  simp only [BitVec.toNat_setWidth]
  omega

theorem illegalInstructionTrap_entered (registers : Registers) (halfword : BitVec 16) :
    IllegalInstructionTrap registers halfword (enterTrap registers causeIllegalInstruction (halfword.setWidth 64)) := by
  have code : exceptionCauseBytes causeIllegalInstruction = 2 := by decide
  obtain ⟨cause, value⟩ := enterTrap_recorded registers causeIllegalInstruction (halfword.setWidth 64)
  exact ⟨rfl, cause.trans code, value⟩

/-! Agreement. -/

/-- What the thunk of a halfword has to do, by what RV64C says of it. -/
def Meets (halfword : BitVec 16) (thunk : ExecuteThunk) : Rv64.Expansion → Prop
  | .instruction word => ∀ registers memory length,
      thunk.execute registers memory length = (decode32 word).execute registers memory length
  | .hint word => (∀ registers memory length,
      thunk.execute registers memory length = (decode32 word).execute registers memory length) ∧ Idle thunk
  | .reserved | .floatingPoint => ∀ registers memory length, ∃ after,
      thunk.execute registers memory length = .trapped after memory ∧
        IllegalInstructionTrap registers halfword after

namespace Meets

variable {halfword}

theorem same (same : thunk = decode32 word) : Meets halfword thunk (.instruction word) := by
  subst same
  exact fun _ _ _ => rfl

theorem ite [Decidable left] [Decidable right] (agree : left ↔ right)
    (yes : right → Meets halfword first expansion) (no : ¬ right → Meets halfword second other) :
    Meets halfword (if left then first else second) (if right then expansion else other) := by
  by_cases holds : right
  · rw [if_pos (agree.mpr holds), if_pos holds]
    exact yes holds
  · rw [if_neg (holds ∘ agree.mp), if_neg holds]
    exact no holds

theorem hintIf [Decidable left] [Decidable idle] (agree : left ↔ idle) (expanded : idle → Idle (decode32 word))
    (same : thunk = decode32 word) :
    Meets halfword (if left then .cNop else thunk) (Rv64.hintIf idle word) := by
  refine .ite agree (fun hint => ?_) fun _ => .same same
  exact ⟨fun registers memory length => (expanded hint registers memory length).symm, cNop_idle⟩

theorem illegal (expansion : Rv64.Expansion) (none : expansion = .reserved ∨ expansion = .floatingPoint) :
    Meets halfword (.illegalC (halfword.setWidth 32)) expansion := by
  have trapped (registers : Registers) (memory : Memory) (length : Bytes8) : ∃ after,
      (ExecuteThunk.illegalC (halfword.setWidth 32)).execute registers memory length = .trapped after memory ∧
        IllegalInstructionTrap registers halfword after := by
    refine ⟨_, rfl, ?_⟩
    rw [trapValue_halfword]
    exact illegalInstructionTrap_entered registers halfword
  rcases none with rfl | rfl <;> exact trapped

end Meets

theorem funct3_cases (funct3 : BitVec 3) : funct3 = 0 ∨ funct3 = 1 ∨ funct3 = 2 ∨ funct3 = 3 ∨ funct3 = 4 ∨
    funct3 = 5 ∨ funct3 = 6 ∨ funct3 = 7 := by
  revert funct3
  decide

theorem decodeQuadrant0_meets :
    Meets halfword (Compressed.decodeQuadrant0 (halfword.setWidth 32)) (Rv64.quadrant0 halfword) := by
  rw [Compressed.decodeQuadrant0, Rv64.quadrant0, function3Of_halfword, decodeAddi4SpnImmediate_halfword,
    rdPrimeOf_halfword, rs1PrimeOf_halfword, rs2PrimeOf_halfword, decodeLwSwOffset_halfword,
    decodeLdSdOffset_halfword]
  rcases funct3_cases (Rv64.funct3C halfword) with f | f | f | f | f | f | f | f <;> rw [f]
  · refine .ite (setWidth_zero_iff _ (by decide)) (fun _ => .illegal _ (.inl rfl)) fun _ => .same ?_
    rw [← unsigned_immediate _ (by decide)]
    exact (decode32_addi _ _ _).symm
  · exact .illegal _ (.inr rfl)
  · exact .same (decode32_lw _ _ _).symm
  · exact .same (decode32_ld _ _ _).symm
  · exact .illegal _ (.inl rfl)
  · exact .illegal _ (.inr rfl)
  · exact .same (decode32_sw _ _ _).symm
  · exact .same (decode32_sd _ _ _).symm

theorem funct2_cases (funct2 : BitVec 2) : funct2 = 0 ∨ funct2 = 1 ∨ funct2 = 2 ∨ funct2 = 3 := by
  revert funct2
  decide

theorem ciImm_zero : (Rv64.ciImm halfword).toNat = 0 ↔ Rv64.ciImm halfword = 0 := by
  constructor
  · exact fun zero => BitVec.eq_of_toNat_eq zero
  · intro zero
    rw [zero]
    rfl

theorem decodeQuadrant1Arithmetic_meets : Meets halfword
    (Compressed.decodeQuadrant1Arithmetic (halfword.setWidth 32)) (Rv64.quadrant1Arithmetic halfword) := by
  rw [Compressed.decodeQuadrant1Arithmetic, Rv64.quadrant1Arithmetic, field halfword 10 2 3 rfl,
    field halfword 12 1 1 rfl, field halfword 5 2 3 rfl, rs1PrimeOf_halfword, rs2PrimeOf_halfword,
    decodeShamt_halfword, decodeCiImm6_halfword]
  rcases funct2_cases (halfword.extractLsb' 10 2) with high | high | high | high <;> rw [high]
  · refine .hintIf (ciImm_zero halfword) (fun zero => ?_) (decode32_srli _ _ _).symm
    rw [decode32_srli, zero]
    exact srli_idle _
  · refine .hintIf (ciImm_zero halfword) (fun zero => ?_) (decode32_srai _ _ _).symm
    rw [decode32_srai, zero]
    exact srai_idle _
  · exact .same (decode32_andi _ _ _).symm
  · rcases (by decide : ∀ bit : BitVec 1, bit = 0 ∨ bit = 1) (halfword.extractLsb' 12 1) with wide | wide <;>
      rcases funct2_cases (halfword.extractLsb' 5 2) with low | low | low | low <;> rw [wide, low]
    · exact .same (decode32_sub _ _ _).symm
    · exact .same (decode32_xor _ _ _).symm
    · exact .same (decode32_or _ _ _).symm
    · exact .same (decode32_and _ _ _).symm
    · exact .same (decode32_subw _ _ _).symm
    · exact .same (decode32_addw _ _ _).symm
    · exact .illegal _ (.inl rfl)
    · exact .illegal _ (.inl rfl)

/-- The sign-extended immediate of an idle addition. -/
private theorem ciImm_idle (zero : Rv64.ciImm halfword = 0) :
    ((Rv64.ciImm halfword).signExtend 12).signExtend 64 = 0 := by
  rw [zero]
  rfl

theorem decodeQuadrant1_meets :
    Meets halfword (Compressed.decodeQuadrant1 (halfword.setWidth 32)) (Rv64.quadrant1 halfword) := by
  rw [Compressed.decodeQuadrant1, Rv64.quadrant1, function3Of_halfword, rdOf_halfword, rs1PrimeOf_halfword,
    decodeCiImm6_halfword, decodeAddi16SpImmediate_halfword, decodeLuiImmediate_halfword, decodeCjOffset_halfword,
    decodeCbOffset_halfword]
  have zero := immIsZero_halfword halfword
  rcases funct3_cases (Rv64.funct3C halfword) with f | f | f | f | f | f | f | f <;> rw [f]
  · refine .hintIf (or_congr_right zero) (fun idle => ?_) (decode32_addi _ _ _).symm
    rw [decode32_addi]
    exact addi_idle (idle.imp_right fun zero => ⟨rfl, ciImm_idle halfword zero⟩)
  · exact .ite Iff.rfl (fun _ => .illegal _ (.inl rfl)) fun _ => .same (decode32_addiw _ _ _).symm
  · refine .hintIf Iff.rfl (fun idle => ?_) (decode32_addi _ _ _).symm
    rw [decode32_addi]
    exact addi_idle (.inl idle)
  · refine .ite Iff.rfl (fun _ => ?_) fun _ => .ite zero (fun _ => .illegal _ (.inl rfl)) fun _ => ?_
    · exact .ite (zero.trans (addi16spImm_zero halfword).symm) (fun _ => .illegal _ (.inl rfl))
        fun _ => .same (decode32_addi _ _ _).symm
    · refine .hintIf Iff.rfl (fun idle => ?_) (decode32_lui _ _).symm
      rw [decode32_lui, idle]
      exact lui_idle _
  · exact decodeQuadrant1Arithmetic_meets halfword
  · exact .same (decode32_jal _ _ (cjOffset_even halfword)).symm
  · exact .same (decode32_beq _ _ _ (cbOffset_even halfword)).symm
  · exact .same (decode32_bne _ _ _ (cbOffset_even halfword)).symm

theorem zeroImmediate_eq : Compressed.zeroImmediate = (0 : BitVec 12).signExtend 64 := by
  decide

theorem decodeQuadrant2_meets :
    Meets halfword (Compressed.decodeQuadrant2 (halfword.setWidth 32)) (Rv64.quadrant2 halfword) := by
  rw [Compressed.decodeQuadrant2, Rv64.quadrant2, function3Of_halfword, rdOf_halfword, rs1Of_halfword,
    rs2Of_halfword, decodeShamt_halfword, decodeLwSpOffset_halfword, decodeLdSpOffset_halfword,
    decodeSwSpOffset_halfword, decodeSdSpOffset_halfword, field halfword 12 1 1 rfl, zeroImmediate_eq]
  rcases funct3_cases (Rv64.funct3C halfword) with f | f | f | f | f | f | f | f <;> rw [f]
  · refine .hintIf (or_congr_right (ciImm_zero halfword)) (fun idle => ?_) (decode32_slli _ _ _).symm
    rw [decode32_slli]
    exact slli_idle (idle.imp_right fun zero => ⟨rfl, (ciImm_zero halfword).mpr zero⟩)
  · exact .illegal _ (.inr rfl)
  · exact .ite Iff.rfl (fun _ => .illegal _ (.inl rfl)) fun _ => .same (decode32_lw _ _ _).symm
  · exact .ite Iff.rfl (fun _ => .illegal _ (.inl rfl)) fun _ => .same (decode32_ld _ _ _).symm
  · refine .ite (setWidth_zero_iff _ (by decide)) (fun _ => .ite Iff.rfl (fun _ => ?_) fun _ => ?_)
      fun _ => .ite Iff.rfl (fun _ => ?_) fun _ => ?_
    · exact .ite Iff.rfl (fun _ => .illegal _ (.inl rfl)) fun _ => .same (decode32_jalr _ _ _).symm
    · refine .hintIf Iff.rfl (fun idle => ?_) (decode32_add _ _ _).symm
      rw [decode32_add, idle]
      exact add_idle _ _
    · exact .ite Iff.rfl (fun _ => .same decode32_ebreak.symm) fun _ => .same (decode32_jalr _ _ _).symm
    · refine .hintIf Iff.rfl (fun idle => ?_) (decode32_add _ _ _).symm
      rw [decode32_add, idle]
      exact add_idle _ _
  · exact .illegal _ (.inr rfl)
  · exact .same (decode32_sw _ _ _).symm
  · exact .same (decode32_sd _ _ _).symm

/-- A halfword that RV64C expands executes as its expansion, of any length, with a hint idle;
every other one enters the illegal-instruction trap. -/
theorem decodeC_expands (halfword : BitVec 16) (compressed : halfword.extractLsb' 0 2 ≠ 0b11) :
    Meets halfword (decodeC (halfword.setWidth 32)) (Rv64.expand halfword) := by
  by_cases zero : halfword = 0
  · subst zero
    exact .illegal _ (.inl rfl)
  have nonzero : halfword.setWidth 32 ≠ 0 := mt (setWidth_zero_iff halfword (by decide)).mp zero
  rw [decodeC, Rv64.expand, whole_halfword, if_neg nonzero, masked _ 2 3 rfl, extract_setWidth]
  rcases funct2_cases (halfword.extractLsb' 0 2) with quadrant | quadrant | quadrant | quadrant
  · rw [quadrant]
    exact decodeQuadrant0_meets halfword
  · rw [quadrant]
    exact decodeQuadrant1_meets halfword
  · rw [quadrant]
    exact decodeQuadrant2_meets halfword
  · exact absurd quadrant compressed

/-- `c.li a0, 1`. -/
theorem decodeC_expands_li : Meets 0x4505 (decodeC 0x4505) (.instruction (Rv64.addi 10 0 1)) :=
  decodeC_expands 0x4505 (by decide)

end YaRiscV.Emulator
