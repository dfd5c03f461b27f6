import YaRiscV.Library.LittleEndian
import Mathlib.Tactic.Linarith
import Mathlib.Tactic.NormNum

/-! `utils/bytes.ts`: arithmetic on 8-byte little-endian arrays. An array is kept as
the 64-bit word it encodes and read through `byte`; copies are plain values. -/

namespace YaRiscV.Utils

open YaRiscV.Library

/-- An 8-byte little-endian `Uint8Array`. -/
abbrev Bytes8 := BitVec 64

/-- `Uint8Array.of` with eight elements. -/
def uint8ArrayOf (b0 b1 b2 b3 b4 b5 b6 b7 : BitVec 8) : Bytes8 :=
  b7 ++ b6 ++ b5 ++ b4 ++ b3 ++ b2 ++ b1 ++ b0

/-- The carry out of the first `count` byte additions of `addBytes`. -/
def addCarry (source addend : Bytes8) : Nat → Nat
  | 0 => 0
  | count + 1 =>
    ((byte source count).toNat + (byte addend count).toNat + addCarry source addend count) >>> 8

def addBytes (source addend : Bytes8) : Bytes8 :=
  ofBytes (fun index => BitVec.ofNat 8
    ((byte source index).toNat + (byte addend index).toNat + addCarry source addend index)) 8

/-- The borrow out of the first `count` byte subtractions of `subtractBytes`. -/
def subtractBorrow (minuend subtrahend : Bytes8) : Nat → Int
  | 0 => 0
  | count + 1 =>
    if ((byte minuend count).toNat : Int) - (byte subtrahend count).toNat -
      subtractBorrow minuend subtrahend count < 0 then 1 else 0

def subtractBytes (minuend subtrahend : Bytes8) : Bytes8 :=
  ofBytes (fun index => BitVec.ofInt 8
    ((byte minuend index).toNat - (byte subtrahend index).toNat -
      subtractBorrow minuend subtrahend index)) 8

def andBytes (source mask : Bytes8) : Bytes8 :=
  ofBytes (fun index => byte source index &&& byte mask index) 8

def orBytes (source mask : Bytes8) : Bytes8 :=
  ofBytes (fun index => byte source index ||| byte mask index) 8

def xorBytes (source mask : Bytes8) : Bytes8 :=
  ofBytes (fun index => byte source index ^^^ byte mask index) 8

def isZeroBytes (bytes : Bytes8) : Bool :=
  (List.range 8).all fun index => byte bytes index == 0

/-- The comparison loop over the bytes below `count`, highest first. -/
def compareUnsignedFrom (left right : Bytes8) : Nat → Int
  | 0 => 0
  | count + 1 =>
    if byte left count ≠ byte right count then
      if byte left count < byte right count then -1 else 1
    else compareUnsignedFrom left right count

def compareUnsignedBytes (left right : Bytes8) : Int :=
  compareUnsignedFrom left right 8

def compareSignedBytes (left right : Bytes8) : Int :=
  let leftNegative := byte left 7 &&& 0x80 != 0
  let rightNegative := byte right 7 &&& 0x80 != 0
  if leftNegative != rightNegative then
    if leftNegative then -1 else 1
  else compareUnsignedBytes left right

def shiftLeftBytes (source : Bytes8) (shiftAmount : Nat) : Bytes8 :=
  let amount := shiftAmount &&& 63
  let byteShift := amount >>> 3
  let bitShift := amount &&& 7
  ofBytes (fun index =>
    if byteShift ≤ index then
      let sourceIndex := index - byteShift
      if bitShift ≠ 0 ∧ sourceIndex > 0 then
        (byte source sourceIndex <<< bitShift) ||| (byte source (sourceIndex - 1) >>> (8 - bitShift))
      else byte source sourceIndex <<< bitShift
    else 0) 8

def shiftRightLogicalBytes (source : Bytes8) (shiftAmount : Nat) : Bytes8 :=
  let amount := shiftAmount &&& 63
  let byteShift := amount >>> 3
  let bitShift := amount &&& 7
  ofBytes (fun index =>
    if index < 8 - byteShift then
      let sourceIndex := index + byteShift
      if bitShift ≠ 0 ∧ sourceIndex < 7 then
        (byte source sourceIndex >>> bitShift) ||| (byte source (sourceIndex + 1) <<< (8 - bitShift))
      else byte source sourceIndex >>> bitShift
    else 0) 8

def shiftRightArithmeticBytes (source : Bytes8) (shiftAmount : Nat) : Bytes8 :=
  let amount := shiftAmount &&& 63
  let shifted := shiftRightLogicalBytes source amount
  if byte source 7 &&& 0x80 = 0 then shifted
  else
    let byteShift := amount >>> 3
    let bitShift := amount &&& 7
    ofBytes (fun index =>
      if 8 - byteShift ≤ index then 0xff
      else if bitShift ≠ 0 ∧ byteShift < 8 ∧ index = 7 - byteShift then
        byte shifted index ||| (0xff <<< (8 - bitShift))
      else byte shifted index) 8

def low32Bytes (source : Bytes8) : Bytes8 :=
  uint8ArrayOf (byte source 0) (byte source 1) (byte source 2) (byte source 3) 0 0 0 0

/-- The first four bytes as an unsigned 32-bit number. -/
def bytesToNumber (bytes : Bytes8) : BitVec 32 :=
  byte bytes 3 ++ byte bytes 2 ++ byte bytes 1 ++ byte bytes 0

/-- The accumulator of `bytesToBigInt` after its `count` highest bytes. -/
def bigIntOfHighBytes (bytes : Bytes8) : Nat → Nat
  | 0 => 0
  | count + 1 => (bigIntOfHighBytes bytes count <<< 8) ||| (byte bytes (7 - count)).toNat

def bytesToBigInt (bytes : Bytes8) : Nat :=
  bigIntOfHighBytes bytes 8

def signedBytesToBigInt (bytes : Bytes8) : Int :=
  let unsigned := bytesToBigInt bytes
  if unsigned &&& 0x8000000000000000 ≠ 0 then unsigned - 0x10000000000000000 else unsigned

def byte0ToNumber (bytes : Bytes8) (mask : BitVec 8) : Nat :=
  (byte bytes 0 &&& mask).toNat

/-- Sign-extend a `bitWidth`-bit number. The host shifts work on 32-bit integers. -/
def signedNumberToBytes (value : BitVec 32) (bitWidth : Nat) : Bytes8 :=
  let shift := 32 - bitWidth
  let extended := (value <<< shift).sshiftRight shift
  ofBytes (fun index => (extended.sshiftRight (8 * index)).setWidth 8) 8

def unsignedNumberToBytes (value : BitVec 32) : Bytes8 :=
  uint8ArrayOf (value.setWidth 8) ((value >>> 8).setWidth 8) ((value >>> 16).setWidth 8)
    ((value >>> 24).setWidth 8) 0 0 0 0

/-- Pack the low 64 bits of a `bigint`; negative values are two's complement. -/
def unsignedBigIntToBytes (value : Int) : Bytes8 :=
  ofBytes (fun index => BitVec.ofInt 8 (value >>> (8 * index))) 8

def signExtendBytes (bytes : Bytes8) (byteLength : Nat) : Bytes8 :=
  let signByte : BitVec 8 := if byte bytes (byteLength - 1) &&& 0x80 ≠ 0 then 0xff else 0x00
  ofBytes (fun index => if index < byteLength then byte bytes index else signByte) 8

def zeroExtendBytes (bytes : Bytes8) (byteLength : Nat) : Bytes8 :=
  ofBytes (fun index => if index < byteLength then byte bytes index else 0) 8

@[simp] theorem andBytes_eq (source mask : Bytes8) : andBytes source mask = source &&& mask := by
  apply eq_of_byte (by rfl : 64 = 8 * 8)
  intro index inside
  rw [andBytes, byte_ofBytes _ inside (by decide), byte_and]

@[simp] theorem orBytes_eq (source mask : Bytes8) : orBytes source mask = source ||| mask := by
  apply eq_of_byte (by rfl : 64 = 8 * 8)
  intro index inside
  rw [orBytes, byte_ofBytes _ inside (by decide), byte_or]

@[simp] theorem xorBytes_eq (source mask : Bytes8) : xorBytes source mask = source ^^^ mask := by
  apply eq_of_byte (by rfl : 64 = 8 * 8)
  intro index inside
  rw [xorBytes, byte_ofBytes _ inside (by decide), byte_xor]

theorem addCarry_step (source addend : Bytes8) (count : Nat) :
    addCarry source addend (count + 1) * 256 +
        ((byte source count).toNat + (byte addend count).toNat + addCarry source addend count) % 256 =
      (byte source count).toNat + (byte addend count).toNat + addCarry source addend count := by
  simp only [addCarry, Nat.shiftRight_eq_div_pow]
  omega

/-- The bytes of a sum together with the pending carry are the sum of the low bytes. -/
theorem addBytes_low (source addend : Bytes8) (count : Nat) (bound : count ≤ 8) :
    (addBytes source addend).toNat % 2 ^ (8 * count) + addCarry source addend count * 2 ^ (8 * count) =
      source.toNat % 2 ^ (8 * count) + addend.toNat % 2 ^ (8 * count) := by
  induction count with
  | zero => simp [addCarry, Nat.mod_one]
  | succ count ih =>
    have earlier := ih (by omega)
    have result : (byte (addBytes source addend) count).toNat =
        ((byte source count).toNat + (byte addend count).toNat + addCarry source addend count) % 256 := by
      rw [addBytes, byte_ofBytes _ (by omega) (by decide), BitVec.toNat_ofNat]
    have carry := addCarry_step source addend count
    have split : 2 ^ (8 * (count + 1)) = 256 * 2 ^ (8 * count) := by
      rw [show 8 * (count + 1) = 8 + 8 * count by ring, Nat.pow_add]
    rw [mod_byte_succ, mod_byte_succ source, mod_byte_succ addend, result, split]
    have scaled := congrArg (· * 2 ^ (8 * count)) carry
    simp only [Nat.add_mul, Nat.mul_assoc] at scaled
    linarith

@[simp] theorem addBytes_eq (source addend : Bytes8) : addBytes source addend = source + addend := by
  apply BitVec.eq_of_toNat_eq
  have whole := addBytes_low source addend 8 (by decide)
  have result := (addBytes source addend).isLt
  have left := source.isLt
  have right := addend.isLt
  rw [BitVec.toNat_add]
  simp only [Nat.reduceMul] at whole
  omega

private theorem compareUnsignedFrom_eq (left right : Bytes8) (count : Nat) :
    compareUnsignedFrom left right count =
      if left.toNat % 2 ^ (8 * count) < right.toNat % 2 ^ (8 * count) then -1
      else if left.toNat % 2 ^ (8 * count) = right.toNat % 2 ^ (8 * count) then 0 else 1 := by
  induction count with
  | zero => simp [compareUnsignedFrom, Nat.mod_one]
  | succ count ih =>
    have positive : 0 < 2 ^ (8 * count) := Nat.two_pow_pos _
    have leftLow := Nat.mod_lt left.toNat positive
    have rightLow := Nat.mod_lt right.toNat positive
    rw [mod_byte_succ left, mod_byte_succ right, compareUnsignedFrom, ih]
    rcases Nat.lt_trichotomy (byte left count).toNat (byte right count).toNat with lower | same | upper
    · have less : byte left count < byte right count := lower
      have scaled := Nat.mul_le_mul_right (2 ^ (8 * count)) (Nat.succ_le_of_lt lower)
      have order : left.toNat % 2 ^ (8 * count) + (byte left count).toNat * 2 ^ (8 * count) <
          right.toNat % 2 ^ (8 * count) + (byte right count).toNat * 2 ^ (8 * count) := by
        rw [Nat.succ_mul] at scaled
        omega
      simp [BitVec.ne_of_lt less, less, order]
    · have equal : byte left count = byte right count := BitVec.eq_of_toNat_eq same
      simp [equal]
    · have greater : byte right count < byte left count := upper
      have notLess : ¬ byte left count < byte right count := by
        intro less
        exact Nat.lt_asymm upper less
      have scaled := Nat.mul_le_mul_right (2 ^ (8 * count)) (Nat.succ_le_of_lt upper)
      have order : right.toNat % 2 ^ (8 * count) + (byte right count).toNat * 2 ^ (8 * count) <
          left.toNat % 2 ^ (8 * count) + (byte left count).toNat * 2 ^ (8 * count) := by
        rw [Nat.succ_mul] at scaled
        omega
      have notOrder := Nat.lt_asymm order
      have different := Nat.ne_of_gt order
      simp [Ne.symm (BitVec.ne_of_lt greater), notLess, notOrder, different]

theorem compareUnsignedBytes_eq (left right : Bytes8) :
    compareUnsignedBytes left right =
      if left.toNat < right.toNat then -1 else if left = right then 0 else 1 := by
  have modLeft : left.toNat % 2 ^ (8 * 8) = left.toNat := Nat.mod_eq_of_lt left.isLt
  have modRight : right.toNat % 2 ^ (8 * 8) = right.toNat := Nat.mod_eq_of_lt right.isLt
  rw [compareUnsignedBytes, compareUnsignedFrom_eq, modLeft, modRight]
  simp only [← BitVec.toNat_eq]

@[simp] theorem compareUnsignedBytes_eq_zero (left right : Bytes8) :
    compareUnsignedBytes left right = 0 ↔ left = right := by
  rw [compareUnsignedBytes_eq]
  split
  · rename_i less
    simp only [Int.reduceNeg, Int.reduceEq, false_iff]
    rintro rfl
    exact Nat.lt_irrefl _ less
  · split <;> simp_all

@[simp] theorem compareUnsignedBytes_neg (left right : Bytes8) :
    compareUnsignedBytes left right < 0 ↔ left.toNat < right.toNat := by
  rw [compareUnsignedBytes_eq]
  split
  · simp_all
  · split <;> simp_all

@[simp] theorem compareUnsignedBytes_nonpos (left right : Bytes8) :
    compareUnsignedBytes left right ≤ 0 ↔ left.toNat ≤ right.toNat := by
  rw [compareUnsignedBytes_eq]
  split
  · rename_i less
    simp [Nat.le_of_lt less]
  · rename_i notLess
    split
    · rename_i same
      simp [same]
    · rename_i different
      have unequal : left.toNat ≠ right.toNat := fun same => different (BitVec.eq_of_toNat_eq same)
      simp only [Int.reduceLE, false_iff]
      omega

private theorem bigIntOfHighBytes_eq (bytes : Bytes8) (count : Nat) (bound : count ≤ 8) :
    bigIntOfHighBytes bytes count = bytes.toNat / 2 ^ (8 * (8 - count)) := by
  induction count with
  | zero =>
    have small := bytes.isLt
    simp only [bigIntOfHighBytes]
    omega
  | succ count ih =>
    have top : 8 * (8 - count) = 8 * (8 - (count + 1)) + 8 := by omega
    have position : 7 - count = 8 - (count + 1) := by omega
    rw [bigIntOfHighBytes, ih (by omega), position, toNat_byte,
      ← Nat.shiftLeft_add_eq_or_of_lt (Nat.mod_lt _ (by decide)), Nat.shiftLeft_eq, top, Nat.pow_add,
      ← Nat.div_div_eq_div_mul]
    omega

/-- The `bigint` of an array is its numeric value. -/
@[simp] theorem bytesToBigInt_eq (bytes : Bytes8) : bytesToBigInt bytes = bytes.toNat := by
  rw [bytesToBigInt, bigIntOfHighBytes_eq bytes 8 (by decide)]
  simp

@[simp] theorem unsignedBigIntToBytes_eq (value : Int) :
    unsignedBigIntToBytes value = BitVec.ofInt 64 value := by
  apply eq_of_byte (by rfl : 64 = 8 * 8)
  intro index inside
  rw [unsignedBigIntToBytes, byte_ofBytes _ inside (by decide)]
  apply BitVec.eq_of_toNat_eq
  rw [toNat_byte, BitVec.toNat_ofInt, BitVec.toNat_ofInt, Int.shiftRight_eq_div_pow]
  interval_cases index <;> norm_num <;> omega

/-- `signedNumberToBytes` sign-extends the low bits of its argument. -/
theorem signedNumberToBytes_eq (value : BitVec 32) (width : Nat) (positive : 0 < width) (fits : width ≤ 32) :
    signedNumberToBytes value width = (value.setWidth width).signExtend 64 := by
  apply BitVec.eq_of_getLsbD_eq
  intro bit inside
  have small : bit % 8 < 8 := Nat.mod_lt _ (by decide)
  simp only [signedNumberToBytes, getLsbD_ofBytes, inside, BitVec.getLsbD_setWidth, BitVec.getLsbD_sshiftRight,
    BitVec.getLsbD_signExtend, small, decide_true, Bool.true_and, BitVec.getLsbD_shiftLeft,
    BitVec.msb_eq_getLsbD_last]
  grind

theorem byte_bytesToNumber (bytes : Bytes8) : ∀ index < 4, byte (bytesToNumber bytes) index = byte bytes index := by
  intro index inside
  apply BitVec.eq_of_getLsbD_eq
  intro bit small
  simp only [bytesToNumber, getLsbD_byte, BitVec.getLsbD_append, small, decide_true, Bool.true_and]
  interval_cases index <;> simp <;> grind

theorem zeroExtendBytes_eq (bytes : Bytes8) (byteLength : Nat) :
    zeroExtendBytes bytes byteLength = (bytes.setWidth (8 * byteLength)).setWidth 64 := by
  have words : 64 = 8 * 8 := rfl
  refine eq_of_byte words fun index inside => ?_
  rw [zeroExtendBytes, byte_ofBytes _ inside (by decide), byte_setWidth _ (by omega)]
  split
  · exact (byte_setWidth bytes (by omega)).symm
  · exact (byte_of_ge _ (by omega)).symm

theorem signExtendBytes_eq (bytes : Bytes8) (positive : 0 < byteLength) (fits : byteLength ≤ 8) :
    signExtendBytes bytes byteLength = (bytes.setWidth (8 * byteLength)).signExtend 64 := by
  have top (value : BitVec 8) : value &&& 0x80 ≠ 0 ↔ value.getLsbD 7 = true := by
    revert value
    decide
  have last : 8 * (byteLength - 1) + 7 = 8 * byteLength - 1 := by omega
  have sign : byte bytes (byteLength - 1) &&& 0x80 ≠ 0 ↔ (bytes.setWidth (8 * byteLength)).msb = true := by
    rw [top, getLsbD_byte, BitVec.msb_eq_getLsbD_last, BitVec.getLsbD_setWidth, last]
    have inside : 8 * byteLength - 1 < 8 * byteLength := by omega
    simp [inside]
  refine BitVec.eq_of_getLsbD_eq fun bit inside => ?_
  have small : bit % 8 < 8 := Nat.mod_lt _ (by decide)
  have place : 8 * (bit / 8) + bit % 8 = bit := Nat.div_add_mod bit 8
  rw [signExtendBytes, getLsbD_ofBytes, BitVec.getLsbD_signExtend]
  simp only [inside, decide_true, Bool.true_and]
  by_cases low : bit < 8 * byteLength
  · have early : bit / 8 < byteLength := by omega
    rw [if_pos early, if_pos low, getLsbD_byte, place, BitVec.getLsbD_setWidth]
    simp [small, low]
  · have late : ¬ bit / 8 < byteLength := by omega
    rw [if_neg late, if_neg low]
    have ones : (0xff : BitVec 8).getLsbD (bit % 8) = true := (getLsbD_ff _).trans (by simp [small])
    cases signed : (bytes.setWidth (8 * byteLength)).msb with
    | true => rw [if_pos (sign.mpr signed), ones]
    | false =>
      have unsigned := sign.not.mpr (by rw [signed]; exact Bool.false_ne_true)
      rw [if_neg unsigned]
      exact BitVec.getLsbD_zero

theorem bytesToNumber_eq (bytes : Bytes8) : bytesToNumber bytes = bytes.setWidth 32 := by
  have words : 32 = 8 * 4 := rfl
  refine eq_of_byte words fun index inside => ?_
  rw [byte_bytesToNumber bytes index inside, byte_setWidth _ (by omega)]

theorem ofInt_signedBytesToBigInt (bytes : Bytes8) : BitVec.ofInt 64 (signedBytesToBigInt bytes) = bytes := by
  apply BitVec.eq_of_toNat_eq
  simp only [signedBytesToBigInt, bytesToBigInt_eq, BitVec.toNat_ofInt]
  have bound := bytes.isLt
  split <;> omega

end YaRiscV.Utils
