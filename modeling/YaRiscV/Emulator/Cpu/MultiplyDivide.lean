import YaRiscV.Emulator.Cpu.IntegerSemantics
import Mathlib.Algebra.Order.Ring.Abs

/-! `op-m.ts` and `op-32-m.ts`: exact products, division laws, and host divisions that
never see a zero divisor. -/

namespace YaRiscV.Emulator

open YaRiscV.Library YaRiscV.Utils

/-- `bigint` division, which throws for a zero divisor. -/
def hostDivide (dividend divisor : Int) : Except String Int :=
  if divisor = 0 then .error "Division by zero" else .ok (dividend.tdiv divisor)

def hostRemainder (dividend divisor : Int) : Except String Int :=
  if divisor = 0 then .error "Division by zero" else .ok (dividend.tmod divisor)

/-- `signedQuotient` with the host's division. -/
def signedQuotientOrThrow (minimum dividend divisor : Int) : Except String Int :=
  if divisor = 0 then .ok (-1)
  else if dividend = minimum ∧ divisor = -1 then .ok dividend
  else hostDivide dividend divisor

def signedRemainderOrThrow (minimum dividend divisor : Int) : Except String Int :=
  if divisor = 0 then .ok dividend
  else if dividend = minimum ∧ divisor = -1 then .ok 0
  else hostRemainder dividend divisor

def unsignedQuotientOrThrow (ones dividend divisor : Int) : Except String Int :=
  if divisor = 0 then .ok ones else hostDivide dividend divisor

def unsignedRemainderOrThrow (dividend divisor : Int) : Except String Int :=
  if divisor = 0 then .ok dividend else hostRemainder dividend divisor

def packQuotient (quotient : Except String Int) : Except String Bytes8 :=
  quotient.map fun value => unsignedBigIntToBytes (mask64 value)

/-- The value of a division as the code computes it, or what it throws. -/
def OpFunction.divide (left right : Bytes8) : OpFunction → Option (Except String Bytes8)
  | .div => some (packQuotient
      (signedQuotientOrThrow signedMin (signedBytesToBigInt left) (signedBytesToBigInt right)))
  | .divu => some (packQuotient
      (unsignedQuotientOrThrow 0xffffffffffffffff (bytesToBigInt left) (bytesToBigInt right)))
  | .rem => some (packQuotient
      (signedRemainderOrThrow signedMin (signedBytesToBigInt left) (signedBytesToBigInt right)))
  | .remu => some (packQuotient (unsignedRemainderOrThrow (bytesToBigInt left) (bytesToBigInt right)))
  | .divw => some ((signedQuotientOrThrow signed32Min (low32Signed left) (low32Signed right)).map sext32Bytes)
  | .divuw => some ((unsignedQuotientOrThrow 0xffffffff (low32Unsigned left) (low32Unsigned right)).map sext32Bytes)
  | .remw => some ((signedRemainderOrThrow signed32Min (low32Signed left) (low32Signed right)).map sext32Bytes)
  | .remuw => some ((unsignedRemainderOrThrow (low32Unsigned left) (low32Unsigned right)).map sext32Bytes)
  | _ => none

/-- The products of a pair of operands, by the values the multiplications leave. -/
structure Products (left right : BitVec 64) (value : OpFunction → BitVec 64) : Prop where
  signed : left.toInt * right.toInt = (value .mulh).toInt * 2 ^ 64 + (value .mul).toNat
  mixed : left.toInt * right.toNat = (value .mulhsu).toInt * 2 ^ 64 + (value .mul).toNat
  unsigned : (left.toNat * right.toNat : Int) = (value .mulhu).toNat * 2 ^ 64 + (value .mul).toNat
  word : value .mulw = (left.setWidth 32 * right.setWidth 32).signExtend 64

/-- The laws of the four divisions of one width. -/
structure Divisions (left right signedQuotient signedRemainder unsignedQuotient unsignedRemainder : BitVec width) :
    Prop where
  signed : right ≠ 0 → ¬ Rv64.Overflows left right →
    Rv64.DividesTowardZero left.toInt right.toInt signedQuotient.toInt signedRemainder.toInt
  overflow : Rv64.Overflows left right → signedQuotient = left ∧ signedRemainder = 0
  signedZero : right = 0 → signedQuotient = BitVec.allOnes width ∧ signedRemainder = left
  unsigned : right ≠ 0 → left.toNat = unsignedQuotient.toNat * right.toNat + unsignedRemainder.toNat ∧
    unsignedRemainder.toNat < right.toNat
  unsignedZero : right = 0 → unsignedQuotient = BitVec.allOnes width ∧ unsignedRemainder = left

theorem signedQuotientOrThrow_eq (minimum dividend divisor : Int) :
    signedQuotientOrThrow minimum dividend divisor = .ok (signedQuotient minimum dividend divisor) := by
  unfold signedQuotientOrThrow signedQuotient hostDivide
  grind

theorem signedRemainderOrThrow_eq (minimum dividend divisor : Int) :
    signedRemainderOrThrow minimum dividend divisor = .ok (signedRemainder minimum dividend divisor) := by
  unfold signedRemainderOrThrow signedRemainder hostRemainder
  grind

theorem unsignedQuotientOrThrow_eq (ones divisor : Int) (nonneg : 0 ≤ dividend) :
    unsignedQuotientOrThrow ones dividend divisor = .ok (if divisor = 0 then ones else dividend / divisor) := by
  unfold unsignedQuotientOrThrow hostDivide
  have floor := Int.tdiv_eq_ediv_of_nonneg (b := divisor) nonneg
  grind

theorem unsignedRemainderOrThrow_eq (divisor : Int) (nonneg : 0 ≤ dividend) :
    unsignedRemainderOrThrow dividend divisor = .ok (if divisor = 0 then dividend else dividend % divisor) := by
  unfold unsignedRemainderOrThrow hostRemainder
  have floor := Int.tmod_eq_emod_of_nonneg (b := divisor) nonneg
  grind

/-- A division that the code performs has its result; it never throws. -/
theorem OpFunction.divide_ok (function : OpFunction) (left right : BitVec 64)
    (divides : function.divide left right = some outcome) : outcome = .ok (function.result left right) := by
  have wordNonneg (value : BitVec 64) : 0 ≤ low32Unsigned value := by
    rw [toNat_lowWord]
    exact Int.natCast_nonneg _
  cases function
  case div =>
    cases divides
    rw [signedQuotientOrThrow_eq]
    exact congrArg Except.ok (div_eq left right)
  case rem =>
    cases divides
    rw [signedRemainderOrThrow_eq]
    exact congrArg Except.ok (rem_eq left right)
  case divu =>
    cases divides
    rw [unsignedQuotientOrThrow_eq _ _ (Int.natCast_nonneg _)]
    have value := divu_eq left right
    simp only [Int.natCast_ediv] at value
    simp only [Int.natCast_eq_zero]
    exact congrArg Except.ok value
  case remu =>
    cases divides
    rw [unsignedRemainderOrThrow_eq _ (Int.natCast_nonneg _)]
    have value := remu_eq left right
    simp only [Int.natCast_emod] at value
    simp only [Int.natCast_eq_zero]
    exact congrArg Except.ok value
  case divw =>
    cases divides
    rw [signedQuotientOrThrow_eq]
    exact congrArg Except.ok (divw_eq left right)
  case remw =>
    cases divides
    rw [signedRemainderOrThrow_eq]
    exact congrArg Except.ok (remw_eq left right)
  case divuw =>
    cases divides
    rw [unsignedQuotientOrThrow_eq _ _ (wordNonneg left)]
    exact congrArg Except.ok (divuw_eq left right)
  case remuw =>
    cases divides
    rw [unsignedRemainderOrThrow_eq _ (wordNonneg left)]
    exact congrArg Except.ok (remuw_eq left right)
  all_goals cases divides

section Products

variable (left right : BitVec 64)

theorem abs_toInt_le : |left.toInt| ≤ 2 ^ 63 := by
  have least := left.le_toInt
  have most := left.toInt_lt
  rw [abs_le]
  omega

theorem abs_toNat_le : |(right.toNat : Int)| ≤ 2 ^ 64 - 1 := by
  have bound := right.isLt
  rw [abs_le]
  omega

theorem signedProduct_bounds : -2 ^ 127 ≤ left.toInt * right.toInt ∧ left.toInt * right.toInt < 2 ^ 127 := by
  have size : |left.toInt * right.toInt| ≤ 2 ^ 63 * 2 ^ 63 := by
    rw [abs_mul]
    exact mul_le_mul (abs_toInt_le left) (abs_toInt_le right) (abs_nonneg _) (by norm_num)
  have range := abs_le.mp size
  omega

theorem mixedProduct_bounds : -2 ^ 127 ≤ left.toInt * right.toNat ∧ left.toInt * right.toNat < 2 ^ 127 := by
  have size : |left.toInt * right.toNat| ≤ 2 ^ 63 * (2 ^ 64 - 1) := by
    rw [abs_mul]
    exact mul_le_mul (abs_toInt_le left) (abs_toNat_le right) (abs_nonneg _) (by norm_num)
  have range := abs_le.mp size
  omega

theorem unsignedProduct_bounds : (0 : Int) ≤ left.toNat * right.toNat ∧ (left.toNat * right.toNat : Int) < 2 ^ 128 := by
  have bounds := And.intro left.isLt right.isLt
  constructor <;> nlinarith

theorem products_exact : Products left right fun function => function.result left right where
  signed := by
    obtain ⟨least, most⟩ := signedProduct_bounds left right
    have halves := Rv64.signed_halves least most
    rw [BitVec.ofInt_mul, BitVec.ofInt_toInt, BitVec.ofInt_toInt] at halves
    exact halves
  mixed := by
    obtain ⟨least, most⟩ := mixedProduct_bounds left right
    have halves := Rv64.signed_halves least most
    rw [BitVec.ofInt_mul, BitVec.ofInt_toInt, BitVec.ofInt_natCast, BitVec.ofNat_toNat, BitVec.setWidth_eq] at halves
    exact halves
  unsigned := by
    obtain ⟨least, most⟩ := unsignedProduct_bounds left right
    have halves := Rv64.unsigned_halves least most
    rw [BitVec.ofInt_mul, BitVec.ofInt_natCast, BitVec.ofInt_natCast, BitVec.ofNat_toNat, BitVec.ofNat_toNat,
      BitVec.setWidth_eq, BitVec.setWidth_eq] at halves
    exact halves
  word := rfl

end Products

theorem divisions_exact (left right : BitVec width) (wide : 0 < width) :
    Divisions left right (Rv64.signedQuotient left right) (Rv64.signedRemainder left right)
      (Rv64.unsignedQuotient left right) (Rv64.unsignedRemainder left right) where
  signed := Rv64.signed_division
  overflow := Rv64.signed_overflow wide
  signedZero := by
    rintro rfl
    exact ⟨Rv64.signedQuotient_zero left, Rv64.signedRemainder_zero left⟩
  unsigned := Rv64.unsigned_division
  unsignedZero := by
    rintro rfl
    exact ⟨Rv64.unsignedQuotient_zero left, Rv64.unsignedRemainder_zero left⟩

variable (registers : Registers) (memory : Memory)

/-- Each instruction of RV64M leaves one value in `rd`; the values are exact products, and
quotients and remainders of the 64-bit operands and of their low words. -/
theorem rv64m_exact (args : OpArgs) (length : Bytes8) : ∃ value : OpFunction → BitVec 64,
    (∀ function : OpFunction, function.execute registers memory args length =
      completeWith registers memory args.destinationRegister (value function) length) ∧
    (let left := registers.generalPurpose args.sourceRegister1
     let right := registers.generalPurpose args.sourceRegister2
     Products left right value ∧
     Divisions left right (value .div) (value .rem) (value .divu) (value .remu) ∧
     (∃ quotient remainder unsignedQuotient unsignedRemainder : BitVec 32,
       Divisions (left.setWidth 32) (right.setWidth 32) quotient remainder unsignedQuotient unsignedRemainder ∧
       value .divw = quotient.signExtend 64 ∧ value .remw = remainder.signExtend 64 ∧
       value .divuw = unsignedQuotient.signExtend 64 ∧ value .remuw = unsignedRemainder.signExtend 64) ∧
     ∀ function outcome, OpFunction.divide left right function = some outcome → outcome = .ok (value function)) := by
  refine ⟨_, fun function => congrFun (congrFun (function.execute_result registers memory) args) length,
    products_exact _ _, divisions_exact _ _ (by decide), ?_, ?_⟩
  · exact ⟨_, _, _, _, divisions_exact _ _ (by decide), rfl, rfl, rfl, rfl⟩
  · intro function outcome divides
    exact function.divide_ok _ _ divides

end YaRiscV.Emulator
