import Mathlib.Algebra.Order.Ring.Int
import Mathlib.Tactic.Ring
import Mathlib.Tactic.Linarith

/-! What RV64I and RV64M compute, over bit vectors. Quotients and remainders of every
width have the laws of division, with a fixed result for a zero divisor. -/

namespace YaRiscV.Library.Rv64

/-- A comparison as a register value. -/
def truth (condition : Bool) : BitVec 64 := if condition then 1 else 0

/-- The high half of an exact product. -/
def highHalf (product : Int) : BitVec 64 := BitVec.ofInt 64 (product / 2 ^ 64)

def signedQuotient (dividend divisor : BitVec width) : BitVec width :=
  if divisor = 0 then BitVec.allOnes width else dividend.sdiv divisor

def signedRemainder (dividend divisor : BitVec width) : BitVec width :=
  if divisor = 0 then dividend else dividend.srem divisor

def unsignedQuotient (dividend divisor : BitVec width) : BitVec width :=
  if divisor = 0 then BitVec.allOnes width else dividend / divisor

def unsignedRemainder (dividend divisor : BitVec width) : BitVec width :=
  if divisor = 0 then dividend else dividend % divisor

/-- An operation on the low words, its result sign-extended. -/
def wordForm (operation : BitVec 32 → BitVec 32 → BitVec 32) (left right : BitVec 64) : BitVec 64 :=
  (operation (left.setWidth 32) (right.setWidth 32)).signExtend 64

/-- The only quotient that does not fit: the least dividend by minus one. -/
def Overflows (dividend divisor : BitVec width) : Prop :=
  dividend = BitVec.intMin width ∧ divisor = BitVec.allOnes width

instance (dividend divisor : BitVec width) : Decidable (Overflows dividend divisor) :=
  inferInstanceAs (Decidable (_ ∧ _))

/-- Division toward zero: the remainder is smaller than the divisor and has the dividend's sign. -/
structure DividesTowardZero (dividend divisor quotient remainder : Int) : Prop where
  recovers : dividend = quotient * divisor + remainder
  smaller : |remainder| < |divisor|
  nonneg : 0 ≤ dividend → 0 ≤ remainder
  nonpos : dividend ≤ 0 → remainder ≤ 0

theorem dividesTowardZero (dividend : Int) (nonzero : divisor ≠ 0) :
    DividesTowardZero dividend divisor (dividend.tdiv divisor) (dividend.tmod divisor) where
  recovers := by
    have law := Int.mul_tdiv_add_tmod dividend divisor
    linarith
  smaller := by
    have positive : 0 < divisor.natAbs := Int.natAbs_pos.mpr nonzero
    have bound := Nat.mod_lt dividend.natAbs positive
    rw [← Int.natAbs_tmod] at bound
    rw [Int.abs_eq_natAbs, Int.abs_eq_natAbs]
    exact_mod_cast bound
  nonneg := by
    intro sign
    exact Int.tmod_nonneg divisor sign
  nonpos := by
    intro sign
    have mirrored := Int.tmod_nonneg divisor (Int.neg_nonneg_of_nonpos sign)
    rw [Int.neg_tmod] at mirrored
    omega

section Division

variable (dividend divisor : BitVec width)

theorem signedQuotient_zero : signedQuotient dividend 0 = BitVec.allOnes width := if_pos rfl
theorem signedRemainder_zero : signedRemainder dividend 0 = dividend := if_pos rfl
theorem unsignedQuotient_zero : unsignedQuotient dividend 0 = BitVec.allOnes width := if_pos rfl
theorem unsignedRemainder_zero : unsignedRemainder dividend 0 = dividend := if_pos rfl

variable {dividend divisor}

theorem toInt_eq_zero : divisor.toInt = 0 ↔ divisor = 0 := by
  constructor
  · intro zero
    exact BitVec.eq_of_toInt_eq (zero.trans BitVec.toInt_zero.symm)
  · rintro rfl
    exact BitVec.toInt_zero

theorem overflows_iff (wide : 0 < width) :
    dividend.toInt = (BitVec.intMin width).toInt ∧ divisor.toInt = -1 ↔ Overflows dividend divisor := by
  have ones : (BitVec.allOnes width).toInt = -1 := by rw [BitVec.toInt_allOnes, if_pos wide]
  rw [Overflows, BitVec.toInt_inj, ← ones, BitVec.toInt_inj]

theorem toInt_signedQuotient (nonzero : divisor ≠ 0) (fits : ¬ Overflows dividend divisor) :
    (signedQuotient dividend divisor).toInt = dividend.toInt.tdiv divisor.toInt := by
  have either : dividend ≠ BitVec.intMin width ∨ divisor ≠ -BitVec.ofNat width 1 := by
    rw [BitVec.neg_one_eq_allOnes]
    exact Decidable.not_and_iff_not_or_not.mp fits
  rw [signedQuotient, if_neg nonzero, BitVec.toInt_sdiv_of_ne_or_ne _ _ either]

theorem toInt_signedRemainder (nonzero : divisor ≠ 0) :
    (signedRemainder dividend divisor).toInt = dividend.toInt.tmod divisor.toInt := by
  rw [signedRemainder, if_neg nonzero, BitVec.toInt_srem]

theorem signed_division (nonzero : divisor ≠ 0) (fits : ¬ Overflows dividend divisor) :
    DividesTowardZero dividend.toInt divisor.toInt (signedQuotient dividend divisor).toInt
      (signedRemainder dividend divisor).toInt := by
  have different : divisor.toInt ≠ 0 := mt toInt_eq_zero.mp nonzero
  rw [toInt_signedQuotient nonzero fits, toInt_signedRemainder nonzero]
  exact dividesTowardZero dividend.toInt different

theorem signed_overflow (wide : 0 < width) (overflows : Overflows dividend divisor) :
    signedQuotient dividend divisor = dividend ∧ signedRemainder dividend divisor = 0 := by
  obtain ⟨rfl, rfl⟩ := overflows
  have nonzero : BitVec.allOnes width ≠ 0 := by
    intro zero
    have ones := congrArg BitVec.toNat zero
    have power := Nat.one_lt_two_pow (Nat.ne_of_gt wide)
    simp at ones
    omega
  constructor
  · rw [signedQuotient, if_neg nonzero, ← BitVec.neg_one_eq_allOnes, BitVec.intMin_sdiv_neg_one]
  · apply BitVec.eq_of_toInt_eq
    rw [toInt_signedRemainder nonzero, BitVec.toInt_allOnes, if_pos wide, Int.tmod_neg, Int.tmod_one]
    exact BitVec.toInt_zero.symm

theorem unsigned_division (nonzero : divisor ≠ 0) :
    dividend.toNat = (unsignedQuotient dividend divisor).toNat * divisor.toNat +
        (unsignedRemainder dividend divisor).toNat ∧
      (unsignedRemainder dividend divisor).toNat < divisor.toNat := by
  have positive : 0 < divisor.toNat := Nat.pos_of_ne_zero fun zero => nonzero (BitVec.eq_of_toNat_eq zero)
  rw [unsignedQuotient, if_neg nonzero, unsignedRemainder, if_neg nonzero, BitVec.toNat_udiv, BitVec.toNat_umod]
  have law := Nat.div_add_mod' dividend.toNat divisor.toNat
  exact ⟨law.symm, Nat.mod_lt _ positive⟩

end Division

section Product

/-- A product and its two halves, the high one signed. -/
theorem signed_halves (least : -2 ^ 127 ≤ product) (most : product < 2 ^ 127) :
    product = (highHalf product).toInt * 2 ^ 64 + (BitVec.ofInt 64 product).toNat := by
  have fits : (highHalf product).toInt = product / 2 ^ 64 := by
    rw [highHalf, BitVec.toInt_ofInt, Int.bmod_eq_of_le_mul_two] <;> omega
  rw [fits, BitVec.toNat_ofInt]
  omega

theorem unsigned_halves (least : 0 ≤ product) (most : product < 2 ^ 128) :
    product = (highHalf product).toNat * 2 ^ 64 + (BitVec.ofInt 64 product).toNat := by
  rw [highHalf, BitVec.toNat_ofInt, BitVec.toNat_ofInt]
  omega

end Product

end YaRiscV.Library.Rv64
