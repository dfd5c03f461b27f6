import YaRiscV.Utils.Arithmetic
import YaRiscV.Library.Rv64Integer
import YaRiscV.Emulator.Cpu.Decode.Thunk
import YaRiscV.Emulator.Machine

/-! Integer computation and control transfer against RV64I and RV64M: the value each
instruction leaves, its next program counter, and nothing else. -/

namespace YaRiscV.Emulator

open YaRiscV.Library YaRiscV.Utils

/-- The value of a register operation. -/
def OpFunction.result (left right : BitVec 64) : OpFunction → BitVec 64
  | .add => left + right
  | .sub => left - right
  | .sll => left <<< (right.toNat % 64)
  | .slt => Rv64.truth (left.slt right)
  | .sltu => Rv64.truth (left.ult right)
  | .xor => left ^^^ right
  | .srl => left >>> (right.toNat % 64)
  | .sra => left.sshiftRight (right.toNat % 64)
  | .or => left ||| right
  | .and => left &&& right
  | .mul => left * right
  | .mulh => Rv64.highHalf (left.toInt * right.toInt)
  | .mulhsu => Rv64.highHalf (left.toInt * right.toNat)
  | .mulhu => Rv64.highHalf (left.toNat * right.toNat)
  | .div => Rv64.signedQuotient left right
  | .divu => Rv64.unsignedQuotient left right
  | .rem => Rv64.signedRemainder left right
  | .remu => Rv64.unsignedRemainder left right
  | .addw => Rv64.wordForm (· + ·) left right
  | .subw => Rv64.wordForm (· - ·) left right
  | .sllw => Rv64.wordForm (fun word amount => word <<< (amount.toNat % 32)) left right
  | .srlw => Rv64.wordForm (fun word amount => word >>> (amount.toNat % 32)) left right
  | .sraw => Rv64.wordForm (fun word amount => word.sshiftRight (amount.toNat % 32)) left right
  | .mulw => Rv64.wordForm (· * ·) left right
  | .divw => Rv64.wordForm Rv64.signedQuotient left right
  | .divuw => Rv64.wordForm Rv64.unsignedQuotient left right
  | .remw => Rv64.wordForm Rv64.signedRemainder left right
  | .remuw => Rv64.wordForm Rv64.unsignedRemainder left right

def OpImmFunction.result (left immediate : BitVec 64) : OpImmFunction → BitVec 64
  | .addi => left + immediate
  | .slti => Rv64.truth (left.slt immediate)
  | .sltiu => Rv64.truth (left.ult immediate)
  | .xori => left ^^^ immediate
  | .ori => left ||| immediate
  | .andi => left &&& immediate
  | .addiw => Rv64.wordForm (· + ·) left immediate

/-- The amount has six bits; those of the word forms are below 32. -/
def ShiftImmFunction.result (source : BitVec 64) (amount : Nat) : ShiftImmFunction → BitVec 64
  | .slli => source <<< (amount % 64)
  | .srli => source >>> (amount % 64)
  | .srai => source.sshiftRight (amount % 64)
  | .slliw => ((source.setWidth 32) <<< (amount % 64)).signExtend 64
  | .srliw => ((source.setWidth 32) >>> (amount % 64)).signExtend 64
  | .sraiw => ((source.setWidth 32).sshiftRight (amount % 64)).signExtend 64

def BranchFunction.taken (left right : BitVec 64) : BranchFunction → Bool
  | .beq => left == right
  | .bne => left != right
  | .blt => left.slt right
  | .bge => !left.slt right
  | .bltu => left.ult right
  | .bgeu => !left.ult right

/-- The register an instruction writes, the value, and the next program counter. -/
structure IntegerEffect where
  destination : BitVec 5
  value : BitVec 64
  programCounter : BitVec 64

/-- The effect of an instruction of RV64I or RV64M that accesses neither memory nor a CSR. -/
def ExecuteThunk.integerEffect (registers : Registers) (length : BitVec 64) : ExecuteThunk → Option IntegerEffect
  | .lui args => some ⟨args.destinationRegister, args.immediate, registers.programCounter + length⟩
  | .auipc args => some ⟨args.destinationRegister, registers.programCounter + args.immediate,
      registers.programCounter + length⟩
  | .jal args => some ⟨args.destinationRegister, registers.programCounter + length,
      registers.programCounter + args.immediate⟩
  | .jalr args => some ⟨args.destinationRegister, registers.programCounter + length,
      (registers.generalPurpose args.sourceRegister1 + args.immediate) &&& ~~~1⟩
  | .branch function args => some ⟨0, 0,
      if function.taken (registers.generalPurpose args.sourceRegister1)
          (registers.generalPurpose args.sourceRegister2) then registers.programCounter + args.immediate
      else registers.programCounter + length⟩
  | .op function args => some ⟨args.destinationRegister,
      function.result (registers.generalPurpose args.sourceRegister1)
        (registers.generalPurpose args.sourceRegister2), registers.programCounter + length⟩
  | .opImm function args => some ⟨args.destinationRegister,
      function.result (registers.generalPurpose args.sourceRegister1) args.immediate,
      registers.programCounter + length⟩
  | .shiftImm function args => some ⟨args.destinationRegister,
      function.result (registers.generalPurpose args.sourceRegister1) args.shiftAmount,
      registers.programCounter + length⟩
  | _ => none

/-! The word forms. -/

theorem signExtendBytes_four (value : Bytes8) : signExtendBytes value 4 = (value.setWidth 32).signExtend 64 :=
  signExtendBytes_eq value (by decide) (by decide)

@[simp] theorem setWidth_low32 (value : BitVec 32) : (value.setWidth 64).setWidth 32 = value := by
  rw [BitVec.setWidth_setWidth_of_le value (by decide)]
  exact BitVec.setWidth_eq value

theorem low32_shiftLeft (value : BitVec 32) (amount : Nat) :
    ((value.setWidth 64) <<< amount).setWidth 32 = value <<< amount := by
  apply BitVec.eq_of_getLsbD_eq
  intro bit inside
  simp [inside]

theorem low32_ushiftRight (value : BitVec 32) (amount : Nat) :
    ((value.setWidth 64) >>> amount).setWidth 32 = value >>> amount := by
  apply BitVec.eq_of_getLsbD_eq
  intro bit inside
  simp only [BitVec.getLsbD_setWidth, BitVec.getLsbD_ushiftRight, inside, decide_true, Bool.true_and]
  by_cases within : amount + bit < 64
  · simp [within]
  · have beyond : 32 ≤ amount + bit := by omega
    simp [BitVec.getLsbD_of_ge value _ beyond]

theorem low32_sshiftRight (value : BitVec 32) (amount : Nat) :
    ((value.signExtend 64).sshiftRight amount).setWidth 32 = value.sshiftRight amount := by
  apply BitVec.eq_of_getLsbD_eq
  intro bit inside
  have within : ¬ 64 ≤ bit := by omega
  have below : ¬ 32 ≤ bit := by omega
  simp only [BitVec.getLsbD_setWidth, BitVec.getLsbD_sshiftRight, BitVec.getLsbD_signExtend, BitVec.msb_signExtend,
    inside, within, below, decide_true, decide_false, Bool.true_and, Bool.not_false]
  grind

@[simp] theorem toInt_lowWord (value : BitVec 64) : low32Signed value = (value.setWidth 32).toInt := by
  have bound := (value.setWidth 32).isLt
  simp only [low32Signed, low32Unsigned, mask32, low32Bytes_eq, bytesToBigInt_eq, BitVec.toNat_setWidth,
    BitVec.toInt_eq_toNat_cond] at bound ⊢
  grind

@[simp] theorem toNat_lowWord (value : BitVec 64) : low32Unsigned value = (value.setWidth 32).toNat := by
  simp only [low32Unsigned, mask32, low32Bytes_eq, bytesToBigInt_eq, BitVec.toNat_setWidth]
  omega

/-! Big integers packed into a register. -/

theorem packed_eq (value : Int) : unsignedBigIntToBytes (mask64 value) = BitVec.ofInt 64 value := by
  rw [unsignedBigIntToBytes_eq]
  apply BitVec.eq_of_toNat_eq
  rw [BitVec.toNat_ofInt, BitVec.toNat_ofInt, mask64]
  omega

theorem sext32Bytes_eq (value : Int) : sext32Bytes value = (BitVec.ofInt 32 value).signExtend 64 := by
  rw [sext32Bytes, signExtendBytes_four, unsignedBigIntToBytes_eq]
  congr 1
  apply BitVec.eq_of_toNat_eq
  rw [BitVec.toNat_setWidth, BitVec.toNat_ofInt, BitVec.toNat_ofInt, mask32]
  omega

section Division

variable (dividend divisor : BitVec width)

theorem signedQuotient_eq (wide : 0 < width) :
    BitVec.ofInt width (signedQuotient (BitVec.intMin width).toInt dividend.toInt divisor.toInt) =
      Rv64.signedQuotient dividend divisor := by
  rw [signedQuotient]
  by_cases zero : divisor = 0
  · have ones : (BitVec.allOnes width).toInt = -1 := by rw [BitVec.toInt_allOnes, if_pos wide]
    rw [if_pos (Rv64.toInt_eq_zero.mpr zero), zero, Rv64.signedQuotient_zero, ← ones, BitVec.ofInt_toInt]
  · rw [if_neg (mt Rv64.toInt_eq_zero.mp zero)]
    by_cases overflows : Rv64.Overflows dividend divisor
    · rw [if_pos ((Rv64.overflows_iff wide).mpr overflows), (Rv64.signed_overflow wide overflows).1,
        BitVec.ofInt_toInt]
    · rw [if_neg (mt (Rv64.overflows_iff wide).mp overflows), ← Rv64.toInt_signedQuotient zero overflows,
        BitVec.ofInt_toInt]

theorem signedRemainder_eq (wide : 0 < width) :
    BitVec.ofInt width (signedRemainder (BitVec.intMin width).toInt dividend.toInt divisor.toInt) =
      Rv64.signedRemainder dividend divisor := by
  rw [signedRemainder]
  by_cases zero : divisor = 0
  · rw [if_pos (Rv64.toInt_eq_zero.mpr zero), zero, Rv64.signedRemainder_zero, BitVec.ofInt_toInt]
  · rw [if_neg (mt Rv64.toInt_eq_zero.mp zero)]
    by_cases overflows : Rv64.Overflows dividend divisor
    · rw [if_pos ((Rv64.overflows_iff wide).mpr overflows), (Rv64.signed_overflow wide overflows).2]
      rfl
    · rw [if_neg (mt (Rv64.overflows_iff wide).mp overflows), ← Rv64.toInt_signedRemainder zero,
        BitVec.ofInt_toInt]

theorem unsignedQuotient_eq : BitVec.ofInt width
    (if divisor.toNat = 0 then ((BitVec.allOnes width).toNat : Int)
      else ((dividend.toNat / divisor.toNat : Nat) : Int)) = Rv64.unsignedQuotient dividend divisor := by
  by_cases zero : divisor = 0
  · have none : divisor.toNat = 0 := zero ▸ BitVec.toNat_zero
    rw [if_pos none, zero, Rv64.unsignedQuotient_zero, BitVec.ofInt_natCast, BitVec.ofNat_toNat, BitVec.setWidth_eq]
  · have positive : divisor.toNat ≠ 0 := fun none => zero (BitVec.eq_of_toNat_eq none)
    rw [if_neg positive, Rv64.unsignedQuotient, if_neg zero, BitVec.ofInt_natCast, ← BitVec.toNat_udiv,
      BitVec.ofNat_toNat, BitVec.setWidth_eq]

theorem unsignedRemainder_eq : BitVec.ofInt width
    (if divisor.toNat = 0 then (dividend.toNat : Int) else ((dividend.toNat % divisor.toNat : Nat) : Int)) =
      Rv64.unsignedRemainder dividend divisor := by
  by_cases zero : divisor = 0
  · have none : divisor.toNat = 0 := zero ▸ BitVec.toNat_zero
    rw [if_pos none, zero, Rv64.unsignedRemainder_zero, BitVec.ofInt_natCast, BitVec.ofNat_toNat,
      BitVec.setWidth_eq]
  · have positive : divisor.toNat ≠ 0 := fun none => zero (BitVec.eq_of_toNat_eq none)
    rw [if_neg positive, Rv64.unsignedRemainder, if_neg zero, BitVec.ofInt_natCast, ← BitVec.toNat_umod,
      BitVec.ofNat_toNat, BitVec.setWidth_eq]

end Division

/-! The instructions. -/

section Branches

variable (left right : BitVec 64)

theorem beq_eq : (compareUnsignedBytes left right == 0) = (left == right) := by
  rw [Bool.eq_iff_iff]
  simp

theorem bne_eq : (compareUnsignedBytes left right != 0) = (left != right) := by
  rw [Bool.eq_iff_iff]
  simp

theorem blt_eq : decide (compareSignedBytes left right < 0) = left.slt right := by
  simp [BitVec.slt]

theorem bge_eq : decide (compareSignedBytes left right ≥ 0) = !left.slt right := by
  rw [Bool.eq_iff_iff]
  simp [BitVec.slt]

theorem bltu_eq : decide (compareUnsignedBytes left right < 0) = left.ult right := by
  simp [BitVec.ult]

theorem bgeu_eq : decide (compareUnsignedBytes left right ≥ 0) = !left.ult right := by
  rw [Bool.eq_iff_iff]
  simp [BitVec.ult]

end Branches

theorem booleanBytes_eq (condition : Bool) : booleanBytes condition = Rv64.truth condition := by
  cases condition <;> decide

theorem slt_eq (left right : BitVec 64) :
    booleanBytes (decide (compareSignedBytes left right < 0)) = Rv64.truth (left.slt right) := by
  rw [booleanBytes_eq, blt_eq]

theorem sltu_eq (left right : BitVec 64) :
    booleanBytes (decide (compareUnsignedBytes left right < 0)) = Rv64.truth (left.ult right) := by
  rw [booleanBytes_eq, bltu_eq]

theorem sll_eq (left right : BitVec 64) :
    shiftLeftBytes left (byte0ToNumber right 0x3f) = left <<< (right.toNat % 64) := by
  rw [shiftLeftBytes_eq, byte0ToNumber_63, Nat.mod_mod]

theorem srl_eq (left right : BitVec 64) :
    shiftRightLogicalBytes left (byte0ToNumber right 0x3f) = left >>> (right.toNat % 64) := by
  rw [shiftRightLogicalBytes_eq, byte0ToNumber_63, Nat.mod_mod]

theorem sra_eq (left right : BitVec 64) :
    shiftRightArithmeticBytes left (byte0ToNumber right 0x3f) = left.sshiftRight (right.toNat % 64) := by
  rw [shiftRightArithmeticBytes_eq, byte0ToNumber_63, Nat.mod_mod]

theorem mul_eq (left right : BitVec 64) :
    unsignedBigIntToBytes (mask64 (bytesToBigInt left * bytesToBigInt right)) = left * right := by
  rw [packed_eq, bytesToBigInt_eq, bytesToBigInt_eq, BitVec.ofInt_mul, BitVec.ofInt_natCast, BitVec.ofInt_natCast,
    BitVec.ofNat_toNat, BitVec.ofNat_toNat, BitVec.setWidth_eq, BitVec.setWidth_eq]

theorem highHalf_eq (product : Int) :
    unsignedBigIntToBytes (mask64 (product >>> (64 : Nat))) = Rv64.highHalf product := by
  rw [packed_eq, Int.shiftRight_eq_div_pow, Rv64.highHalf]
  norm_num

theorem mulh_eq (left right : BitVec 64) :
    unsignedBigIntToBytes (mask64 ((signedBytesToBigInt left * signedBytesToBigInt right) >>> (64 : Nat))) =
      Rv64.highHalf (left.toInt * right.toInt) := by
  rw [highHalf_eq, signedBytesToBigInt_eq, signedBytesToBigInt_eq]

theorem mulhsu_eq (left right : BitVec 64) :
    unsignedBigIntToBytes (mask64 ((signedBytesToBigInt left * bytesToBigInt right) >>> (64 : Nat))) =
      Rv64.highHalf (left.toInt * right.toNat) := by
  rw [highHalf_eq, signedBytesToBigInt_eq, bytesToBigInt_eq]

theorem mulhu_eq (left right : BitVec 64) :
    unsignedBigIntToBytes (mask64 (((bytesToBigInt left : Int) * bytesToBigInt right) >>> (64 : Nat))) =
      Rv64.highHalf (left.toNat * right.toNat) := by
  rw [highHalf_eq, bytesToBigInt_eq, bytesToBigInt_eq]

theorem mask64_eq : (0xffffffffffffffff : Int) = (BitVec.allOnes 64).toNat := by decide
theorem mask32_eq : (0xffffffff : Int) = (BitVec.allOnes 32).toNat := by decide
theorem signedMin_eq : signedMin = (BitVec.intMin 64).toInt := by decide
theorem signed32Min_eq : signed32Min = (BitVec.intMin 32).toInt := by decide

theorem div_eq (left right : BitVec 64) :
    unsignedBigIntToBytes (mask64
      (signedQuotient signedMin (signedBytesToBigInt left) (signedBytesToBigInt right))) =
      Rv64.signedQuotient left right := by
  rw [packed_eq, signedBytesToBigInt_eq, signedBytesToBigInt_eq, signedMin_eq, signedQuotient_eq _ _ (by decide)]

theorem rem_eq (left right : BitVec 64) :
    unsignedBigIntToBytes (mask64
      (signedRemainder signedMin (signedBytesToBigInt left) (signedBytesToBigInt right))) =
      Rv64.signedRemainder left right := by
  rw [packed_eq, signedBytesToBigInt_eq, signedBytesToBigInt_eq, signedMin_eq, signedRemainder_eq _ _ (by decide)]

theorem divu_eq (left right : BitVec 64) :
    unsignedBigIntToBytes (mask64 (if bytesToBigInt right = 0 then 0xffffffffffffffff
      else ((bytesToBigInt left / bytesToBigInt right : Nat) : Int))) = Rv64.unsignedQuotient left right := by
  rw [packed_eq, bytesToBigInt_eq, bytesToBigInt_eq, ← unsignedQuotient_eq, mask64_eq]

theorem remu_eq (left right : BitVec 64) :
    unsignedBigIntToBytes (mask64 (if bytesToBigInt right = 0 then (bytesToBigInt left : Int)
      else ((bytesToBigInt left % bytesToBigInt right : Nat) : Int))) = Rv64.unsignedRemainder left right := by
  rw [packed_eq, bytesToBigInt_eq, bytesToBigInt_eq, ← unsignedRemainder_eq]

theorem addw_eq (left right : BitVec 64) :
    signExtendBytes (addBytes (low32Bytes left) (low32Bytes right)) 4 = Rv64.wordForm (· + ·) left right := by
  rw [signExtendBytes_four, addBytes_eq, low32Bytes_eq, low32Bytes_eq, BitVec.setWidth_add _ _ (by decide),
    setWidth_low32, setWidth_low32]
  rfl

theorem subw_eq (left right : BitVec 64) :
    signExtendBytes (subtractBytes (low32Bytes left) (low32Bytes right)) 4 = Rv64.wordForm (· - ·) left right := by
  have low : ((low32Bytes left - low32Bytes right).setWidth 32) = left.setWidth 32 - right.setWidth 32 := by
    rw [low32Bytes_eq, low32Bytes_eq]
    apply BitVec.eq_of_toNat_eq
    simp only [BitVec.toNat_setWidth, BitVec.toNat_sub]
    omega
  rw [signExtendBytes_four, subtractBytes_eq, low]
  rfl

theorem sllw_eq (source : BitVec 64) (amount : Nat) :
    signExtendBytes (shiftLeftBytes (low32Bytes source) amount) 4 =
      ((source.setWidth 32) <<< (amount % 64)).signExtend 64 := by
  rw [signExtendBytes_four, shiftLeftBytes_eq, low32Bytes_eq, low32_shiftLeft]

theorem srlw_eq (source : BitVec 64) (amount : Nat) :
    signExtendBytes (shiftRightLogicalBytes (low32Bytes source) amount) 4 =
      ((source.setWidth 32) >>> (amount % 64)).signExtend 64 := by
  rw [signExtendBytes_four, shiftRightLogicalBytes_eq, low32Bytes_eq, low32_ushiftRight]

theorem sraw_eq (source : BitVec 64) (amount : Nat) :
    signExtendBytes (shiftRightArithmeticBytes (signExtendBytes (low32Bytes source) 4) amount) 4 =
      ((source.setWidth 32).sshiftRight (amount % 64)).signExtend 64 := by
  rw [signExtendBytes_four, shiftRightArithmeticBytes_eq, signExtendBytes_four, low32Bytes_eq, setWidth_low32,
    low32_sshiftRight]

/-- The shift amount of a word operation as the low five bits of the low word. -/
theorem wordAmount_eq (amount : BitVec 64) :
    byte0ToNumber amount 0x1f % 64 = (amount.setWidth 32).toNat % 32 := by
  rw [byte0ToNumber_31, BitVec.toNat_setWidth]
  omega

theorem mulw_eq (left right : BitVec 64) :
    sext32Bytes (low32Signed left * low32Signed right) = Rv64.wordForm (· * ·) left right := by
  rw [sext32Bytes_eq, toInt_lowWord, toInt_lowWord, BitVec.ofInt_mul, BitVec.ofInt_toInt, BitVec.ofInt_toInt]
  rfl

theorem divw_eq (left right : BitVec 64) :
    sext32Bytes (signedQuotient signed32Min (low32Signed left) (low32Signed right)) =
      Rv64.wordForm Rv64.signedQuotient left right := by
  rw [sext32Bytes_eq, toInt_lowWord, toInt_lowWord, signed32Min_eq, signedQuotient_eq _ _ (by decide), Rv64.wordForm]

theorem remw_eq (left right : BitVec 64) :
    sext32Bytes (signedRemainder signed32Min (low32Signed left) (low32Signed right)) =
      Rv64.wordForm Rv64.signedRemainder left right := by
  rw [sext32Bytes_eq, toInt_lowWord, toInt_lowWord, signed32Min_eq, signedRemainder_eq _ _ (by decide), Rv64.wordForm]

theorem divuw_eq (left right : BitVec 64) :
    sext32Bytes (if low32Unsigned right = 0 then 0xffffffff else low32Unsigned left / low32Unsigned right) =
      Rv64.wordForm Rv64.unsignedQuotient left right := by
  rw [sext32Bytes_eq, toNat_lowWord, toNat_lowWord, Rv64.wordForm, ← unsignedQuotient_eq, mask32_eq]
  simp only [Int.natCast_eq_zero, Int.natCast_ediv]

theorem remuw_eq (left right : BitVec 64) :
    sext32Bytes (if low32Unsigned right = 0 then low32Unsigned left else low32Unsigned left % low32Unsigned right) =
      Rv64.wordForm Rv64.unsignedRemainder left right := by
  rw [sext32Bytes_eq, toNat_lowWord, toNat_lowWord, Rv64.wordForm, ← unsignedRemainder_eq]
  norm_cast

theorem wordShift_eq (operation : BitVec 32 → Nat → BitVec 32) (left right : BitVec 64) :
    (operation (left.setWidth 32) (byte0ToNumber right 0x1f % 64)).signExtend 64 =
      Rv64.wordForm (fun word amount => operation word (amount.toNat % 32)) left right := by
  rw [wordAmount_eq, Rv64.wordForm]

theorem addiw_eq (left immediate : BitVec 64) :
    signExtendBytes (addBytes (low32Bytes left) immediate) 4 = Rv64.wordForm (· + ·) left immediate := by
  rw [signExtendBytes_four, addBytes_eq, low32Bytes_eq, BitVec.setWidth_add _ _ (by decide), setWidth_low32]
  rfl

section Instructions

variable (registers : Registers) (memory : Memory)

/-- What the code writes to `rd` is the result. -/
theorem OpFunction.execute_result (function : OpFunction) :
    function.execute registers memory = registerOperation registers memory fun left right =>
      function.result left right := by
  cases function with
  | add => exact congrArg (registerOperation registers memory) (funext₂ addBytes_eq)
  | sub => exact congrArg (registerOperation registers memory) (funext₂ subtractBytes_eq)
  | sll => exact congrArg (registerOperation registers memory) (funext₂ sll_eq)
  | slt => exact congrArg (registerOperation registers memory) (funext₂ slt_eq)
  | sltu => exact congrArg (registerOperation registers memory) (funext₂ sltu_eq)
  | xor => exact congrArg (registerOperation registers memory) (funext₂ xorBytes_eq)
  | srl => exact congrArg (registerOperation registers memory) (funext₂ srl_eq)
  | sra => exact congrArg (registerOperation registers memory) (funext₂ sra_eq)
  | or => exact congrArg (registerOperation registers memory) (funext₂ orBytes_eq)
  | and => exact congrArg (registerOperation registers memory) (funext₂ andBytes_eq)
  | mul =>
    rw [execute]
    exact congrArg (registerOperation registers memory) (funext₂ mul_eq)
  | mulh =>
    rw [execute]
    exact congrArg (registerOperation registers memory) (funext₂ mulh_eq)
  | mulhsu =>
    rw [execute]
    exact congrArg (registerOperation registers memory) (funext₂ mulhsu_eq)
  | mulhu =>
    rw [execute]
    exact congrArg (registerOperation registers memory) (funext₂ mulhu_eq)
  | div =>
    rw [execute]
    exact congrArg (registerOperation registers memory) (funext₂ div_eq)
  | divu =>
    rw [execute]
    exact congrArg (registerOperation registers memory) (funext₂ divu_eq)
  | rem =>
    rw [execute]
    exact congrArg (registerOperation registers memory) (funext₂ rem_eq)
  | remu =>
    rw [execute]
    exact congrArg (registerOperation registers memory) (funext₂ remu_eq)
  | addw => exact congrArg (registerOperation registers memory) (funext₂ addw_eq)
  | subw => exact congrArg (registerOperation registers memory) (funext₂ subw_eq)
  | sllw => exact congrArg (registerOperation registers memory) (funext₂ fun left right =>
      (sllw_eq left _).trans (wordShift_eq (· <<< ·) left right))
  | srlw => exact congrArg (registerOperation registers memory) (funext₂ fun left right =>
      (srlw_eq left _).trans (wordShift_eq (· >>> ·) left right))
  | sraw => exact congrArg (registerOperation registers memory) (funext₂ fun left right =>
      (sraw_eq left _).trans (wordShift_eq BitVec.sshiftRight left right))
  | mulw =>
    rw [execute]
    exact congrArg (registerOperation registers memory) (funext₂ mulw_eq)
  | divw =>
    rw [execute]
    exact congrArg (registerOperation registers memory) (funext₂ divw_eq)
  | divuw =>
    rw [execute]
    exact congrArg (registerOperation registers memory) (funext₂ divuw_eq)
  | remw =>
    rw [execute]
    exact congrArg (registerOperation registers memory) (funext₂ remw_eq)
  | remuw =>
    rw [execute]
    exact congrArg (registerOperation registers memory) (funext₂ remuw_eq)

theorem OpImmFunction.execute_result (function : OpImmFunction) :
    function.execute registers memory = immediateOperation registers memory fun left immediate =>
      function.result left immediate := by
  cases function with
  | addi => exact congrArg (immediateOperation registers memory) (funext₂ addBytes_eq)
  | slti => exact congrArg (immediateOperation registers memory) (funext₂ slt_eq)
  | sltiu => exact congrArg (immediateOperation registers memory) (funext₂ sltu_eq)
  | xori => exact congrArg (immediateOperation registers memory) (funext₂ xorBytes_eq)
  | ori => exact congrArg (immediateOperation registers memory) (funext₂ orBytes_eq)
  | andi => exact congrArg (immediateOperation registers memory) (funext₂ andBytes_eq)
  | addiw => exact congrArg (immediateOperation registers memory) (funext₂ addiw_eq)

theorem ShiftImmFunction.execute_result (function : ShiftImmFunction) :
    function.execute registers memory = shiftOperation registers memory fun source amount =>
      function.result source amount := by
  cases function with
  | slli => exact congrArg (shiftOperation registers memory) (funext₂ shiftLeftBytes_eq)
  | srli => exact congrArg (shiftOperation registers memory) (funext₂ shiftRightLogicalBytes_eq)
  | srai => exact congrArg (shiftOperation registers memory) (funext₂ shiftRightArithmeticBytes_eq)
  | slliw => exact congrArg (shiftOperation registers memory) (funext₂ sllw_eq)
  | srliw => exact congrArg (shiftOperation registers memory) (funext₂ srlw_eq)
  | sraiw => exact congrArg (shiftOperation registers memory) (funext₂ sraw_eq)

theorem BranchFunction.execute_taken (function : BranchFunction) :
    function.execute registers memory = branchIf registers memory fun left right =>
      function.taken left right := by
  cases function with
  | beq => exact congrArg (branchIf registers memory) (funext₂ beq_eq)
  | bne => exact congrArg (branchIf registers memory) (funext₂ bne_eq)
  | blt => exact congrArg (branchIf registers memory) (funext₂ blt_eq)
  | bge => exact congrArg (branchIf registers memory) (funext₂ bge_eq)
  | bltu => exact congrArg (branchIf registers memory) (funext₂ bltu_eq)
  | bgeu => exact congrArg (branchIf registers memory) (funext₂ bgeu_eq)

/-- Bit 0 of a jump target is cleared in its lowest byte. -/
theorem clearedTarget_eq (target : Bytes8) : setByte target 0 (byte target 0 &&& 0xfe) = target &&& ~~~1 := by
  have low (bit : Nat) (small : bit < 8) : (0xfe : BitVec 8).getLsbD bit = decide (bit ≠ 0) := by
    interval_cases bit <;> decide
  have one (bit : Nat) : (1 : BitVec 64).getLsbD bit = decide (bit = 0) := BitVec.getLsbD_one.trans (by simp)
  apply BitVec.eq_of_getLsbD_eq
  intro bit inside
  have small : bit % 8 < 8 := Nat.mod_lt _ (by decide)
  have place : 8 * (bit / 8) + bit % 8 = bit := Nat.div_add_mod bit 8
  have right : (target &&& ~~~1).getLsbD bit = (target.getLsbD bit && (decide (bit < 64) && !decide (bit = 0))) := by
    rw [BitVec.getLsbD_and, BitVec.getLsbD_not, one]
  rw [getLsbD_setByte, right]
  split
  · rename_i first
    rw [BitVec.getLsbD_and, low _ small, getLsbD_byte, ← first, place]
    have same : bit % 8 = bit := by omega
    have within : bit < 8 := by omega
    simp [inside, same, within]
  · rename_i later
    have different : bit ≠ 0 := by omega
    simp [inside, different]

/-- The registers after an effect: the destination unless it is `x0`, and the program counter. -/
def applyEffect (effect : IntegerEffect) : Registers :=
  setProgramCounter (writeGeneralPurposeRegister registers effect.destination effect.value) effect.programCounter

theorem completeWith_effect (destination : BitVec 5) (value length : Bytes8) :
    completeWith registers memory destination value length =
      .completed (applyEffect registers ⟨destination, value, registers.programCounter + length⟩) memory := by
  simp [completeWith, applyEffect, advanceProgramCounter, setProgramCounter]

/-- An integer or control-transfer instruction has its effect. -/
theorem ExecuteThunk.execute_effect (thunk : ExecuteThunk)
    (covered : thunk.integerEffect registers length = some effect) :
    thunk.execute registers memory length = .completed (applyEffect registers effect) memory := by
  cases thunk
  case lui args =>
    cases covered
    exact completeWith_effect registers memory _ _ length
  case auipc args =>
    cases covered
    rw [execute, Emulator.auipc, addBytes_eq]
    exact completeWith_effect registers memory _ _ length
  case jal args =>
    cases covered
    rw [execute, Emulator.jal, addBytes_eq, addBytes_eq, writeGeneralPurposeRegister_programCounter]
    rfl
  case jalr args =>
    cases covered
    rw [execute, Emulator.jalr, addBytes_eq, addBytes_eq, clearedTarget_eq]
    rfl
  case branch function args =>
    cases covered
    rw [execute, BranchFunction.execute_taken, branchIf]
    by_cases taken : function.taken (registers.generalPurpose args.sourceRegister1)
      (registers.generalPurpose args.sourceRegister2) = true
    · refine (if_pos taken).trans ?_
      rw [if_pos taken, takeBranch, addBytes_eq]
      rfl
    · refine (if_neg taken).trans ?_
      rw [if_neg taken, advanceProgramCounter, addBytes_eq]
      rfl
  case op function args =>
    cases covered
    rw [execute, OpFunction.execute_result]
    exact completeWith_effect registers memory _ _ length
  case opImm function args =>
    cases covered
    rw [execute, OpImmFunction.execute_result]
    exact completeWith_effect registers memory _ _ length
  case shiftImm function args =>
    cases covered
    rw [execute, ShiftImmFunction.execute_result]
    exact completeWith_effect registers memory _ _ length
  all_goals cases covered

variable {registers memory}

/-- Every integer and control-transfer instruction writes its RV64 value to `rd` and moves the
program counter to its RV64 target; `x0` and all other state stay. -/
theorem integer_control_transfer (thunk : ExecuteThunk)
    (covered : thunk.integerEffect registers length = some effect) :
    ∃ after, thunk.execute registers memory length = .completed after memory ∧
      after.programCounter = effect.programCounter ∧
      (effect.destination ≠ 0 → after.generalPurpose effect.destination = effect.value) ∧
      (registers.generalPurpose 0 = 0 → after.generalPurpose 0 = 0) ∧
      (∀ index, index ≠ effect.destination → after.generalPurpose index = registers.generalPurpose index) ∧
      after = { registers with
        generalPurpose := after.generalPurpose, programCounter := after.programCounter } := by
  refine ⟨_, thunk.execute_effect registers memory covered, rfl, ?_, ?_, ?_, ?_⟩
  · intro writable
    rw [applyEffect, writeGeneralPurposeRegister, if_neg writable]
    exact Function.update_self ..
  · intro zero
    exact (writeGeneralPurposeRegister_zero _ _).trans zero
  · intro index other
    rw [applyEffect, writeGeneralPurposeRegister]
    split
    · rfl
    · exact Function.update_of_ne other ..
  · rw [applyEffect, writeGeneralPurposeRegister]
    split <;> rfl

end Instructions

/-- `x1` holds the base of a jump out of the last halfword of the address space. -/
def linkingRegisters : Registers :=
  writeGeneralPurposeRegister (setProgramCounter createRegisters 0xfffffffffffffffe) 1 0x1003

theorem integer_control_transfer_jalr : ∃ after,
    (ExecuteThunk.jalr ⟨1, 1, 4⟩).execute linkingRegisters defaultMemory 4 = .completed after defaultMemory ∧
      after.programCounter = 0x1006 ∧ after.generalPurpose 1 = 2 := by
  obtain ⟨after, ran, target, link, _⟩ := integer_control_transfer (.jalr ⟨1, 1, 4⟩)
    (rfl : ExecuteThunk.integerEffect linkingRegisters 4 (.jalr ⟨1, 1, 4⟩) = some _)
  exact ⟨after, ran, target.trans (by decide), (link (by decide)).trans (by decide)⟩

end YaRiscV.Emulator
