import Mathlib.Tactic.Ring
import Mathlib.Tactic.IntervalCases

/-! Little-endian bytes of a machine word. A word is read and assembled bytewise;
the bit and numeric views of both operations are related here once. -/

namespace YaRiscV.Library

/-- Byte `index` of a little-endian word; bytes past its end are zero. -/
def byte (word : BitVec width) (index : Nat) : BitVec 8 :=
  word.extractLsb' (8 * index) 8

/-- Assemble the first `count` bytes of a little-endian word. -/
def ofBytes (bytes : Nat → BitVec 8) : Nat → BitVec width
  | 0 => 0
  | count + 1 => ofBytes bytes count ||| ((bytes count).setWidth width <<< (8 * count))

/-- Replace byte `index` of a little-endian word. -/
def setByte (word : BitVec width) (index : Nat) (value : BitVec 8) : BitVec width :=
  (word &&& ~~~((0xff#8).setWidth width <<< (8 * index))) ||| (value.setWidth width <<< (8 * index))

theorem getLsbD_byte (word : BitVec width) (index bit : Nat) :
    (byte word index).getLsbD bit = (decide (bit < 8) && word.getLsbD (8 * index + bit)) := by
  simp only [byte, BitVec.getLsbD_extractLsb']

theorem getLsbD_shifted (value : BitVec 8) (index bit : Nat) :
    (value.setWidth width <<< (8 * index)).getLsbD bit =
      (decide (bit < width) && decide (bit / 8 = index) && value.getLsbD (bit % 8)) := by
  simp only [BitVec.getLsbD_shiftLeft, BitVec.getLsbD_setWidth]
  rcases Nat.lt_trichotomy (bit / 8) index with lower | same | upper
  · have before : bit < 8 * index := by omega
    have different : bit / 8 ≠ index := by omega
    simp [before, different]
  · have offset : bit - 8 * index = bit % 8 := by omega
    have reached : ¬ bit < 8 * index := by omega
    by_cases within : bit < width
    · have small : bit % 8 < width := by omega
      simp only [within, reached, offset, same, small, decide_true, decide_false,
        Bool.not_false, Bool.and_true, Bool.true_and]
    · simp [within]
  · have different : bit / 8 ≠ index := by omega
    have high : 8 ≤ bit - 8 * index := by omega
    simp [different, BitVec.getLsbD_of_ge _ _ high]

theorem getLsbD_ofBytes (bytes : Nat → BitVec 8) (count bit : Nat) :
    (ofBytes bytes count : BitVec width).getLsbD bit =
      (decide (bit < width) && decide (bit < 8 * count) && (bytes (bit / 8)).getLsbD (bit % 8)) := by
  induction count with
  | zero => simp [ofBytes]
  | succ count ih =>
    simp only [ofBytes, BitVec.getLsbD_or, ih, getLsbD_shifted]
    rcases Nat.lt_trichotomy (bit / 8) count with lower | same | upper
    · have earlier : bit < 8 * count := by omega
      have within : bit < 8 * (count + 1) := by omega
      have different : bit / 8 ≠ count := by omega
      simp [earlier, within, different]
    · have later : ¬ bit < 8 * count := by omega
      have within : bit < 8 * (count + 1) := by omega
      simp [later, within, same]
    · have later : ¬ bit < 8 * count := by omega
      have beyond : ¬ bit < 8 * (count + 1) := by omega
      have different : bit / 8 ≠ count := by omega
      simp [later, beyond, different]

theorem getLsbD_ff (bit : Nat) : (0xff#8).getLsbD bit = decide (bit < 8) := by
  by_cases small : bit < 8
  · interval_cases bit <;> decide
  · have high : 8 ≤ bit := Nat.le_of_not_lt small
    simp [small, BitVec.getLsbD_of_ge _ _ high]

theorem getLsbD_setByte (word : BitVec width) (index : Nat) (value : BitVec 8) (bit : Nat) :
    (setByte word index value).getLsbD bit =
      if bit / 8 = index then decide (bit < width) && value.getLsbD (bit % 8)
      else word.getLsbD bit := by
  have small : bit % 8 < 8 := Nat.mod_lt bit (by decide)
  simp only [setByte, BitVec.getLsbD_or, BitVec.getLsbD_and, BitVec.getLsbD_not, getLsbD_shifted,
    getLsbD_ff, small]
  by_cases within : bit < width
  · by_cases same : bit / 8 = index <;> simp [within, same]
  · have high : width ≤ bit := Nat.le_of_not_lt within
    simp [within, BitVec.getLsbD_of_ge word bit high]

/-- Words of `count` bytes agree when their bytes do. -/
theorem eq_of_byte {left right : BitVec width} (fits : width = 8 * count)
    (same : ∀ index < count, byte left index = byte right index) : left = right := by
  apply BitVec.eq_of_getLsbD_eq
  intro bit within
  have agree := congrArg (fun value => value.getLsbD (bit % 8)) (same (bit / 8) (by omega))
  have position : 8 * (bit / 8) + bit % 8 = bit := Nat.div_add_mod bit 8
  have small : bit % 8 < 8 := Nat.mod_lt bit (by decide)
  simpa only [getLsbD_byte, position, small, decide_true, Bool.true_and] using agree

theorem byte_ofBytes (bytes : Nat → BitVec 8) (within : index < count) (fits : 8 * count ≤ width) :
    byte (ofBytes bytes count : BitVec width) index = bytes index := by
  apply BitVec.eq_of_getLsbD_eq
  intro bit small
  have inside : 8 * index + bit < width := by omega
  have covered : 8 * index + bit < 8 * count := by omega
  have quotient : (8 * index + bit) / 8 = index := by omega
  have remainder : (8 * index + bit) % 8 = bit := by omega
  simp only [getLsbD_byte, getLsbD_ofBytes, small, inside, covered, quotient, remainder,
    decide_true, Bool.true_and]

theorem byte_setByte (word : BitVec width) (value : BitVec 8) (fits : 8 * index + 8 ≤ width)
    (other : Nat) : byte (setByte word index value) other =
      if other = index then value else byte word other := by
  apply BitVec.eq_of_getLsbD_eq
  intro bit small
  have quotient : (8 * other + bit) / 8 = other := by omega
  have remainder : (8 * other + bit) % 8 = bit := by omega
  simp only [getLsbD_byte, getLsbD_setByte, quotient, remainder, small, decide_true, Bool.true_and]
  by_cases same : other = index
  · have inside : 8 * other + bit < width := by omega
    simp only [same, ↓reduceIte, decide_eq_true_eq.mpr (same ▸ inside), Bool.true_and]
  · simp only [same, ↓reduceIte, getLsbD_byte, small, decide_true, Bool.true_and]

/-- There is no byte to replace past the end of a word. -/
theorem setByte_of_ge (word : BitVec width) (value : BitVec 8) (outside : width ≤ 8 * index) :
    setByte word index value = word := by
  apply BitVec.eq_of_getLsbD_eq
  intro bit within
  rw [getLsbD_setByte, if_neg (by omega)]

@[simp] theorem byte_zero (index : Nat) : byte (0 : BitVec width) index = 0 := by
  apply BitVec.eq_of_getLsbD_eq
  intro bit small
  rw [getLsbD_byte]
  simp

theorem byte_setWidth (word : BitVec width) (fits : 8 * index + 8 ≤ wider) :
    byte (word.setWidth wider) index = byte word index := by
  apply BitVec.eq_of_getLsbD_eq
  intro bit small
  have inside : 8 * index + bit < wider := by omega
  simp only [getLsbD_byte, BitVec.getLsbD_setWidth, inside, decide_true, Bool.true_and]

/-- A byte shifted into place is that byte of the word, and the others are zero. -/
theorem byte_shifted (value : BitVec 8) (index : Nat) (fits : 8 * other + 8 ≤ width) :
    byte (value.setWidth width <<< (8 * index)) other = if other = index then value else 0 := by
  apply BitVec.eq_of_getLsbD_eq
  intro bit small
  have inside : 8 * other + bit < width := by omega
  have quotient : (8 * other + bit) / 8 = other := by omega
  have remainder : (8 * other + bit) % 8 = bit := by omega
  simp only [getLsbD_byte, getLsbD_shifted, small, inside, quotient, remainder, decide_true, Bool.true_and]
  by_cases same : other = index
  · simp only [same, decide_true, Bool.true_and, if_true]
  · simp only [same, decide_false, Bool.false_and, if_false]
    exact BitVec.getLsbD_zero.symm

theorem byte_not (word : BitVec width) (fits : 8 * index + 8 ≤ width) :
    byte (~~~word) index = ~~~byte word index := by
  apply BitVec.eq_of_getLsbD_eq
  intro bit small
  have inside : 8 * index + bit < width := by omega
  simp only [getLsbD_byte, BitVec.getLsbD_not, small, inside, decide_true, Bool.true_and]

theorem byte_of_ge (word : BitVec width) (outside : width ≤ 8 * index) : byte word index = 0 := by
  apply BitVec.eq_of_getLsbD_eq
  intro bit small
  rw [getLsbD_byte, BitVec.getLsbD_of_ge word _ (by omega), Bool.and_false]
  exact BitVec.getLsbD_zero.symm
@[simp] theorem byte_and (left right : BitVec width) (index : Nat) :
    byte (left &&& right) index = byte left index &&& byte right index := by
  apply BitVec.eq_of_getLsbD_eq
  intro bit small
  simp only [getLsbD_byte, BitVec.getLsbD_and, small, decide_true, Bool.true_and]

@[simp] theorem byte_or (left right : BitVec width) (index : Nat) :
    byte (left ||| right) index = byte left index ||| byte right index := by
  apply BitVec.eq_of_getLsbD_eq
  intro bit small
  simp only [getLsbD_byte, BitVec.getLsbD_or, small, decide_true, Bool.true_and]

@[simp] theorem byte_xor (left right : BitVec width) (index : Nat) :
    byte (left ^^^ right) index = byte left index ^^^ byte right index := by
  apply BitVec.eq_of_getLsbD_eq
  intro bit small
  simp only [getLsbD_byte, BitVec.getLsbD_xor, small, decide_true, Bool.true_and]

theorem toNat_byte (word : BitVec width) (index : Nat) :
    (byte word index).toNat = word.toNat / 2 ^ (8 * index) % 256 := by
  simp [byte, BitVec.extractLsb'_toNat, Nat.shiftRight_eq_div_pow]

/-- The low `index + 1` bytes of a word, split at byte `index`. -/
theorem mod_byte_succ (word : BitVec width) (index : Nat) :
    word.toNat % 2 ^ (8 * (index + 1)) =
      word.toNat % 2 ^ (8 * index) + (byte word index).toNat * 2 ^ (8 * index) := by
  have split : 2 ^ (8 * (index + 1)) = 2 ^ (8 * index) * 256 := by
    rw [show 8 * (index + 1) = 8 * index + 8 by ring, Nat.pow_add]
  rw [split, Nat.mod_mul, toNat_byte, Nat.mul_comm (2 ^ (8 * index))]

end YaRiscV.Library
