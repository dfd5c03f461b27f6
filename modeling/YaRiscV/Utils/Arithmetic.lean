import YaRiscV.Utils.Bytes
import YaRiscV.Library.Rv64
/-! The byte arithmetic of `utils/bytes.ts` as arithmetic on 64-bit words: differences,
signed comparison, shifts, the low word and signed readings. -/

namespace YaRiscV.Utils

open YaRiscV.Library

theorem subtractBorrow_range (minuend subtrahend : Bytes8) (count : Nat) :
    subtractBorrow minuend subtrahend count = 0 ∨ subtractBorrow minuend subtrahend count = 1 := by
  cases count with
  | zero => exact .inl rfl
  | succ count =>
    rw [subtractBorrow]
    split
    · exact .inr rfl
    · exact .inl rfl

/-- The bytes of a difference less the pending borrow are the difference of the low bytes. -/
theorem subtractBytes_low (minuend subtrahend : Bytes8) (count : Nat) (bound : count ≤ 8) :
    (((subtractBytes minuend subtrahend).toNat % 2 ^ (8 * count) : Nat) : Int) -
        subtractBorrow minuend subtrahend count * 2 ^ (8 * count) =
      ((minuend.toNat % 2 ^ (8 * count) : Nat) : Int) - ((subtrahend.toNat % 2 ^ (8 * count) : Nat) : Int) := by
  induction count with
  | zero => simp [subtractBorrow, Nat.mod_one]
  | succ count ih =>
    have earlier := ih (by omega)
    have left := (byte minuend count).isLt
    have right := (byte subtrahend count).isLt
    have borrow := subtractBorrow_range minuend subtrahend count
    have result : ((byte (subtractBytes minuend subtrahend) count).toNat : Int) =
        (((byte minuend count).toNat : Int) - (byte subtrahend count).toNat -
          subtractBorrow minuend subtrahend count) % 256 := by
      rw [subtractBytes, byte_ofBytes _ (by omega) (by decide), BitVec.toNat_ofInt]
      omega
    have step : ((byte (subtractBytes minuend subtrahend) count).toNat : Int) -
          subtractBorrow minuend subtrahend (count + 1) * 256 =
        ((byte minuend count).toNat : Int) - (byte subtrahend count).toNat -
          subtractBorrow minuend subtrahend count := by
      rw [result, subtractBorrow]
      split <;> omega
    have split : (2 : Int) ^ (8 * (count + 1)) = 256 * 2 ^ (8 * count) := by
      rw [show 8 * (count + 1) = 8 + 8 * count by ring, pow_add]
      norm_num
    have scaled := congrArg (· * (2 : Int) ^ (8 * count)) step
    simp only [Int.sub_mul, Int.mul_assoc] at scaled
    rw [mod_byte_succ, mod_byte_succ minuend, mod_byte_succ subtrahend, split]
    push_cast at earlier scaled ⊢
    linarith

@[simp] theorem subtractBytes_eq (minuend subtrahend : Bytes8) :
    subtractBytes minuend subtrahend = minuend - subtrahend := by
  apply BitVec.eq_of_toNat_eq
  have whole := subtractBytes_low minuend subtrahend 8 (by decide)
  have result := (subtractBytes minuend subtrahend).isLt
  have left := minuend.isLt
  have right := subtrahend.isLt
  have borrow := subtractBorrow_range minuend subtrahend 8
  rw [BitVec.toNat_sub]
  simp only [Nat.reduceMul] at whole
  omega

private theorem signBit_eq_msb (value : Bytes8) : (byte value 7 &&& 0x80 != 0) = value.msb := by
  have top (value : BitVec 8) : (value &&& 0x80 != 0) = value.getLsbD 7 := by
    revert value
    decide
  rw [top, getLsbD_byte, BitVec.msb_eq_getLsbD_last]
  simp

theorem compareSignedBytes_eq (left right : Bytes8) :
    compareSignedBytes left right = if left.toInt < right.toInt then -1 else if left = right then 0 else 1 := by
  have leftBound := left.isLt
  have rightBound := right.isLt
  simp only [compareSignedBytes, signBit_eq_msb, compareUnsignedBytes_eq, BitVec.msb_eq_decide,
    BitVec.toInt_eq_toNat_cond, BitVec.toNat_eq]
  grind

@[simp] theorem compareSignedBytes_neg (left right : Bytes8) :
    compareSignedBytes left right < 0 ↔ left.toInt < right.toInt := by
  rw [compareSignedBytes_eq]
  grind

@[simp] theorem compareSignedBytes_nonpos (left right : Bytes8) :
    compareSignedBytes left right ≤ 0 ↔ left.toInt ≤ right.toInt := by
  have same : left = right ↔ left.toInt = right.toInt := BitVec.toInt_inj.symm
  simp only [compareSignedBytes_eq, same]
  grind

@[simp] theorem compareSignedBytes_nonneg (left right : Bytes8) :
    0 ≤ compareSignedBytes left right ↔ right.toInt ≤ left.toInt := by
  have same : left = right ↔ left.toInt = right.toInt := BitVec.toInt_inj.symm
  simp only [compareSignedBytes_eq, same]
  grind

@[simp] theorem compareUnsignedBytes_nonneg (left right : Bytes8) :
    0 ≤ compareUnsignedBytes left right ↔ right.toNat ≤ left.toNat := by
  have same : left = right ↔ left.toNat = right.toNat := BitVec.toNat_inj.symm
  simp only [compareUnsignedBytes_eq, same]
  grind

private theorem and_63 (amount : Nat) : amount &&& 63 = amount % 64 := Nat.and_two_pow_sub_one_eq_mod amount 6
private theorem and_7 (amount : Nat) : amount &&& 7 = amount % 8 := Nat.and_two_pow_sub_one_eq_mod amount 3

@[simp] theorem shiftLeftBytes_eq (source : Bytes8) (amount : Nat) :
    shiftLeftBytes source amount = source <<< (amount % 64) := by
  apply BitVec.eq_of_getLsbD_eq
  intro bit inside
  have small : bit % 8 < 8 := Nat.mod_lt _ (by decide)
  simp only [shiftLeftBytes, and_63, and_7, Nat.shiftRight_eq_div_pow, Nat.reducePow, getLsbD_ofBytes,
    BitVec.getLsbD_shiftLeft, inside, decide_true, Bool.true_and]
  generalize amount % 64 = shift
  by_cases covered : shift / 8 ≤ bit / 8
  · rw [if_pos covered]
    split
    · rename_i spans
      simp only [BitVec.getLsbD_or, BitVec.getLsbD_shiftLeft, BitVec.getLsbD_ushiftRight, getLsbD_byte, small]
      by_cases within : bit % 8 < shift % 8
      · have moved : 8 * (bit / 8 - shift / 8 - 1) + (8 - shift % 8 + bit % 8) = bit - shift := by omega
        have reached : 8 - shift % 8 + bit % 8 < 8 := by omega
        have high : ¬ bit < shift := by omega
        simp [within, moved, reached, high]
      · have moved : 8 * (bit / 8 - shift / 8) + (bit % 8 - shift % 8) = bit - shift := by omega
        have beyond : ¬ 8 - shift % 8 + bit % 8 < 8 := by omega
        have reached : bit % 8 - shift % 8 < 8 := by omega
        have high : ¬ bit < shift := by omega
        simp [within, moved, reached, beyond, high]
    · rename_i single
      simp only [BitVec.getLsbD_shiftLeft, getLsbD_byte, small]
      by_cases within : bit % 8 < shift % 8
      · have low : bit < shift := by omega
        simp [within, low]
      · have moved : 8 * (bit / 8 - shift / 8) + (bit % 8 - shift % 8) = bit - shift := by omega
        have reached : bit % 8 - shift % 8 < 8 := by omega
        have high : ¬ bit < shift := by omega
        simp [within, moved, reached, high]
  · have low : bit < shift := by omega
    simp [covered, low]

@[simp] theorem shiftRightLogicalBytes_eq (source : Bytes8) (amount : Nat) :
    shiftRightLogicalBytes source amount = source >>> (amount % 64) := by
  apply BitVec.eq_of_getLsbD_eq
  intro bit inside
  have small : bit % 8 < 8 := Nat.mod_lt _ (by decide)
  simp only [shiftRightLogicalBytes, and_63, and_7, Nat.shiftRight_eq_div_pow, Nat.reducePow, getLsbD_ofBytes,
    BitVec.getLsbD_ushiftRight, inside, decide_true, Bool.true_and]
  generalize amount % 64 = shift
  by_cases covered : bit / 8 < 8 - shift / 8
  · rw [if_pos covered]
    split
    · rename_i spans
      simp only [BitVec.getLsbD_or, BitVec.getLsbD_shiftLeft, BitVec.getLsbD_ushiftRight, getLsbD_byte, small]
      by_cases within : shift % 8 + bit % 8 < 8
      · have moved : 8 * (bit / 8 + shift / 8) + (shift % 8 + bit % 8) = shift + bit := by omega
        have below : bit % 8 < 8 - shift % 8 := by omega
        simp [within, moved, below]
      · have moved : 8 * (bit / 8 + shift / 8 + 1) + (bit % 8 - (8 - shift % 8)) = shift + bit := by omega
        have reached : ¬ bit % 8 < 8 - shift % 8 := by omega
        have offset : bit % 8 - (8 - shift % 8) < 8 := by omega
        simp [within, moved, reached, offset]
    · rename_i single
      simp only [BitVec.getLsbD_ushiftRight, getLsbD_byte]
      by_cases within : shift % 8 + bit % 8 < 8
      · have moved : 8 * (bit / 8 + shift / 8) + (shift % 8 + bit % 8) = shift + bit := by omega
        simp [within, moved]
      · have beyond : 64 ≤ shift + bit := by omega
        simp [within, BitVec.getLsbD_of_ge source _ beyond]
  · have beyond : 64 ≤ shift + bit := by omega
    simp [covered, BitVec.getLsbD_of_ge source _ beyond]

/-- The ones that fill the byte where the sign starts. -/
private theorem getLsbD_signFill (count bit : Nat) (bound : count < 8) (small : bit < 8) :
    ((0xff <<< (8 - count) : Nat) : BitVec 8).getLsbD bit = decide (8 - count ≤ bit) := by
  revert bit
  interval_cases count <;> decide

@[simp] theorem shiftRightArithmeticBytes_eq (source : Bytes8) (amount : Nat) :
    shiftRightArithmeticBytes source amount = source.sshiftRight (amount % 64) := by
  have sign := signBit_eq_msb source
  apply BitVec.eq_of_getLsbD_eq
  intro bit inside
  have small : bit % 8 < 8 := Nat.mod_lt _ (by decide)
  have place : 8 * (bit / 8) + bit % 8 = bit := Nat.div_add_mod bit 8
  simp only [shiftRightArithmeticBytes, and_63, shiftRightLogicalBytes_eq, Nat.mod_mod]
  have bound : amount % 64 < 64 := Nat.mod_lt _ (by decide)
  generalize amount % 64 = shift at bound
  have shifted : (byte (source >>> shift) (bit / 8)).getLsbD (bit % 8) = source.getLsbD (shift + bit) := by
    rw [getLsbD_byte, place, BitVec.getLsbD_ushiftRight]
    simp [small]
  rw [BitVec.getLsbD_sshiftRight]
  cases negative : source.msb with
  | false =>
    rw [negative] at sign
    have clear : byte source 7 &&& 0x80 = 0 := by simpa using sign
    rw [if_pos clear, BitVec.getLsbD_ushiftRight]
    by_cases within : shift + bit < 64
    · simp [within]
      omega
    · simp [within, BitVec.getLsbD_of_ge source _ (Nat.le_of_not_lt within)]
  | true =>
    rw [negative] at sign
    have set : ¬ byte source 7 &&& 0x80 = 0 := by simpa using sign
    rw [if_neg set, and_7, Nat.shiftRight_eq_div_pow, getLsbD_ofBytes]
    simp only [Nat.reducePow, inside, decide_true, Bool.true_and]
    split
    · have beyond : ¬ shift + bit < 64 := by omega
      have ones : (0xff : BitVec 8).getLsbD (bit % 8) = true := (getLsbD_ff _).trans (by simp [small])
      rw [ones, if_neg beyond]
      simpa using inside
    · split
      · rw [BitVec.getLsbD_or, shifted, getLsbD_signFill _ _ (Nat.mod_lt _ (by decide)) small]
        by_cases within : shift + bit < 64
        · have below : ¬ 8 - shift % 8 ≤ bit % 8 := by omega
          simp [within, below, inside]
        · have above : 8 - shift % 8 ≤ bit % 8 := by omega
          simp [within, above, inside]
      · have within : shift + bit < 64 := by omega
        simp [shifted, within, inside]

@[simp] theorem low32Bytes_eq (source : Bytes8) : low32Bytes source = (source.setWidth 32).setWidth 64 := by
  apply BitVec.eq_of_toNat_eq
  have bound := source.isLt
  simp only [low32Bytes, uint8ArrayOf, Rv64.toNat_append_add, toNat_byte, BitVec.toNat_setWidth, BitVec.ofNat_eq_ofNat,
    BitVec.toNat_ofNat]
  omega

theorem byte0ToNumber_63 (bytes : Bytes8) : byte0ToNumber bytes 0x3f = bytes.toNat % 64 := by
  rw [byte0ToNumber, BitVec.toNat_and, toNat_byte]
  show _ &&& 63 = _
  rw [and_63]
  omega

theorem byte0ToNumber_31 (bytes : Bytes8) : byte0ToNumber bytes 0x1f = bytes.toNat % 32 := by
  rw [byte0ToNumber, BitVec.toNat_and, toNat_byte]
  show _ &&& 31 = _
  rw [Nat.and_two_pow_sub_one_eq_mod _ 5]
  omega

@[simp] theorem signedBytesToBigInt_eq (bytes : Bytes8) : signedBytesToBigInt bytes = bytes.toInt := by
  have bound := bytes.isLt
  have top : bytes.toNat &&& 0x8000000000000000 = (bytes.toNat.testBit 63).toNat * 2 ^ 63 := Nat.and_two_pow _ 63
  have sign : bytes.toNat.testBit 63 = decide (2 ^ 63 ≤ bytes.toNat) := by
    rw [Nat.testBit_eq_decide_div_mod_eq]
    grind
  simp only [signedBytesToBigInt, bytesToBigInt_eq, BitVec.toInt_eq_toNat_cond, top, sign]
  by_cases negative : 2 ^ 63 ≤ bytes.toNat
  · have wide : ¬ 2 * bytes.toNat < 2 ^ 64 := by omega
    rw [if_neg wide, if_pos (by simpa using negative)]
    norm_num
  · have narrow : 2 * bytes.toNat < 2 ^ 64 := by omega
    rw [if_pos narrow, if_neg (by simpa using negative)]

end YaRiscV.Utils
