import YaRiscV.Library.LittleEndian

/-! Words whose bits stay inside a mask. -/

namespace YaRiscV.Library

variable {width : Nat}

/-- No bit outside `mask`. -/
def Within (value mask : BitVec width) : Prop := value &&& ~~~mask = 0

instance (value mask : BitVec width) : Decidable (Within value mask) :=
  inferInstanceAs (Decidable (_ = _))

variable {value other mask wider : BitVec width}

theorem within_iff : Within value mask ↔ ∀ position < width,
    value.getLsbD position = true → mask.getLsbD position = true := by
  constructor
  · intro within position inside set
    have outside := congrArg (·.getLsbD position) within
    simp only [BitVec.getLsbD_and, BitVec.getLsbD_not, set, inside, decide_true, Bool.true_and,
      BitVec.ofNat_eq_ofNat, BitVec.getLsbD_zero, Bool.not_eq_false'] at outside
    exact outside
  · intro covered
    apply BitVec.eq_of_getLsbD_eq
    intro position inside
    have bit := covered position inside
    simp only [BitVec.getLsbD_and, BitVec.getLsbD_not, inside, decide_true, Bool.true_and,
      BitVec.ofNat_eq_ofNat, BitVec.getLsbD_zero]
    cases set : value.getLsbD position
    · rfl
    · rw [bit set]
      rfl

theorem within_and (value mask : BitVec width) : Within (value &&& mask) mask := by
  simp [Within, BitVec.and_assoc]

theorem Within.and (within : Within value mask) (other : BitVec width) : Within (value &&& other) mask :=
  within_iff.mpr fun position inside set =>
    within_iff.mp within position inside (by
      rw [BitVec.getLsbD_and, Bool.and_eq_true] at set
      exact set.1)

theorem Within.or (left : Within value mask) (right : Within other mask) : Within (value ||| other) mask := by
  rw [within_iff] at *
  intro position inside set
  rw [BitVec.getLsbD_or, Bool.or_eq_true] at set
  exact set.elim (left position inside) (right position inside)

theorem Within.clear (within : Within value mask) (inside : position < width)
    (outside : mask.getLsbD position = false) : value.getLsbD position = false := by
  by_contra set
  rw [Bool.not_eq_false] at set
  rw [within_iff.mp within position inside set] at outside
  cases outside

theorem Within.and_self (within : Within value mask) : value &&& mask = value := by
  apply BitVec.eq_of_getLsbD_eq
  intro position inside
  rw [BitVec.getLsbD_and]
  cases set : value.getLsbD position with
  | true => rw [within_iff.mp within position inside set, Bool.and_self]
  | false => rfl

theorem Within.trans (within : Within value mask) (covered : Within mask wider) : Within value wider :=
  within_iff.mpr fun position inside set =>
    within_iff.mp covered position inside (within_iff.mp within position inside set)

/-- Byte by byte. -/
theorem within_iff_byte (fits : width = 8 * count) : Within value mask ↔
    ∀ index < count, Within (byte value index) (byte mask index) := by
  simp only [within_iff, getLsbD_byte]
  constructor
  · intro covered index inside position small set
    simp only [small, decide_true, Bool.true_and] at set ⊢
    exact covered _ (by omega) set
  · intro covered position inside set
    have small : position % 8 < 8 := Nat.mod_lt _ (by decide)
    have index := covered (position / 8) (by omega) (position % 8) small
    have same : 8 * (position / 8) + position % 8 = position := Nat.div_add_mod position 8
    simp only [small, decide_true, Bool.true_and, same] at index
    exact index set

/-- A byte inside the mask may replace a byte. -/
theorem Within.setByte (within : Within value mask) (fits : width = 8 * count) (inside : index < count)
    (replacement : Within new (byte mask index)) : Within (setByte value index new) mask := by
  rw [within_iff_byte fits] at *
  intro position below
  rw [byte_setByte _ _ (by omega)]
  split
  · rename_i same
    subst same
    exact replacement
  · exact within position below

/-! Words that differ inside a mask only. -/

/-- `after` has the bits of `before` outside `mask`. -/
def KeptOutside (mask before after : BitVec width) : Prop := after &&& ~~~mask = before &&& ~~~mask

theorem keptOutside_iff {before after : BitVec width} : KeptOutside mask before after ↔ ∀ position < width,
    mask.getLsbD position = false → after.getLsbD position = before.getLsbD position := by
  constructor
  · intro kept position inside outside
    have bit := congrArg (·.getLsbD position) kept
    simpa only [BitVec.getLsbD_and, BitVec.getLsbD_not, inside, outside, decide_true, Bool.true_and,
      Bool.not_false, Bool.and_true] using bit
  · intro kept
    apply BitVec.eq_of_getLsbD_eq
    intro position inside
    simp only [BitVec.getLsbD_and, BitVec.getLsbD_not, inside, decide_true, Bool.true_and]
    cases covered : mask.getLsbD position with
    | true => rw [Bool.not_true, Bool.and_false, Bool.and_false]
    | false => rw [kept position inside covered]

namespace KeptOutside

theorem refl (mask word : BitVec width) : KeptOutside mask word word := rfl

theorem of_eq {before after : BitVec width} (same : after = before) : KeptOutside mask before after := by
  rw [same]
  exact refl mask before

theorem trans {before middle after : BitVec width} (first : KeptOutside mask before middle)
    (second : KeptOutside mask middle after) : KeptOutside mask before after :=
  Eq.trans second first

/-- Replacing the bits of the mask. -/
theorem merge (word replacement mask : BitVec width) :
    KeptOutside mask word ((word &&& ~~~mask) ||| (replacement &&& mask)) := by
  rw [keptOutside_iff]
  intro position inside outside
  simp only [BitVec.getLsbD_or, BitVec.getLsbD_and, BitVec.getLsbD_not, inside, outside, decide_true,
    Bool.not_false, Bool.and_true, Bool.and_false, Bool.or_false]

theorem or {before after : BitVec width} (kept : KeptOutside mask before after) (within : Within value mask) :
    KeptOutside mask before (after ||| value) := by
  rw [keptOutside_iff] at kept ⊢
  intro position inside outside
  rw [BitVec.getLsbD_or, within.clear inside outside, Bool.or_false, kept position inside outside]

theorem and_not {before after : BitVec width} (kept : KeptOutside mask before after) (within : Within value mask) :
    KeptOutside mask before (after &&& ~~~value) := by
  rw [keptOutside_iff] at kept ⊢
  intro position inside outside
  rw [BitVec.getLsbD_and, BitVec.getLsbD_not, within.clear inside outside, kept position inside outside]
  simp [inside]

/-- Masking with every bit outside of `mask`. -/
theorem and (word : BitVec width) (covered : Within (~~~mask) other) : KeptOutside mask word (word &&& other) := by
  rw [keptOutside_iff]
  intro position inside outside
  have set : other.getLsbD position = true :=
    within_iff.mp covered position inside (by rw [BitVec.getLsbD_not, outside, decide_eq_true inside]; rfl)
  rw [BitVec.getLsbD_and, set, Bool.and_true]

end KeptOutside

/-- Byte by byte. -/
theorem keptOutside_iff_byte {before after : BitVec width} (fits : width = 8 * count) :
    KeptOutside mask before after ↔
      ∀ index < count, KeptOutside (byte mask index) (byte before index) (byte after index) := by
  simp only [keptOutside_iff, getLsbD_byte]
  constructor
  · intro kept index inside position small outside
    simp only [small, decide_true, Bool.true_and] at outside ⊢
    exact kept _ (by omega) outside
  · intro kept position inside outside
    have small : position % 8 < 8 := Nat.mod_lt _ (by decide)
    have bit := kept (position / 8) (by omega) (position % 8) small
    have same : 8 * (position / 8) + position % 8 = position := Nat.div_add_mod position 8
    simp only [small, decide_true, Bool.true_and, same] at bit
    exact bit outside

/-- A byte may change inside its byte of the mask. -/
theorem KeptOutside.setByte {before after : BitVec width} (kept : KeptOutside mask before after)
    (fits : width = 8 * count) (inside : index < count)
    (replacement : KeptOutside (byte mask index) (byte before index) new) :
    KeptOutside mask before (setByte after index new) := by
  rw [keptOutside_iff_byte fits] at *
  intro position below
  rw [byte_setByte _ _ (by omega)]
  split
  · rename_i same
    subst same
    exact replacement
  · exact kept position below

/-! Single lines of a word, raised by `|||` and lowered by `&&& ~~~`. -/

theorem or_and_absorb (word line : BitVec width) : (word ||| line) &&& line = line := by
  apply BitVec.eq_of_getLsbD_eq
  intro bit _
  simp only [BitVec.getLsbD_and, BitVec.getLsbD_or]
  cases word.getLsbD bit <;> cases line.getLsbD bit <;> rfl

theorem and_not_and (word line : BitVec width) : (word &&& ~~~line) &&& line = 0 := by
  apply BitVec.eq_of_getLsbD_eq
  intro bit inside
  simp only [BitVec.getLsbD_and, BitVec.getLsbD_not, inside, decide_true, Bool.true_and]
  cases word.getLsbD bit <;> cases line.getLsbD bit <;> simp

/-- Publishing one line leaves the bits of a disjoint line alone. -/
theorem published_other {line other : BitVec width} (apart : line &&& other = 0) (word : BitVec width) (pending : Bool) :
    (if pending then word ||| line else word &&& ~~~line) &&& other = word &&& other := by
  apply BitVec.eq_of_getLsbD_eq
  intro bit inside
  have disjoint := congrArg (fun value => BitVec.getLsbD value bit) apart
  simp only [BitVec.getLsbD_and, BitVec.ofNat_eq_ofNat, BitVec.getLsbD_zero] at disjoint
  cases pending <;>
    simp only [Bool.false_eq_true, ↓reduceIte, BitVec.getLsbD_and, BitVec.getLsbD_or, BitVec.getLsbD_not, inside,
      decide_true, Bool.true_and] <;>
    cases word.getLsbD bit <;> cases held : line.getLsbD bit <;> simp_all

theorem or_eq_of_and {word line : BitVec width} (held : word &&& line = line) : word ||| line = word := by
  apply BitVec.eq_of_getLsbD_eq
  intro bit _
  have same := congrArg (fun value => BitVec.getLsbD value bit) held
  simp only [BitVec.getLsbD_and] at same
  rw [BitVec.getLsbD_or]
  cases set : word.getLsbD bit <;> simp_all

theorem and_not_eq_of_and {word line : BitVec width} (clear : word &&& line = 0) : word &&& ~~~line = word := by
  apply BitVec.eq_of_getLsbD_eq
  intro bit inside
  have same := congrArg (fun value => BitVec.getLsbD value bit) clear
  simp only [BitVec.getLsbD_and, BitVec.ofNat_eq_ofNat, BitVec.getLsbD_zero] at same
  rw [BitVec.getLsbD_and, BitVec.getLsbD_not]
  cases set : word.getLsbD bit <;> simp_all

end YaRiscV.Library
