import Mathlib.Data.Nat.Bitwise

/-! RISC-V physical memory protection as its specification states it: which bytes an entry
matches, and when an access of several bytes is denied. -/

namespace YaRiscV.Library

inductive AddressMatching where
  | off
  | topOfRange
  | naturallyAlignedFour
  | naturallyAlignedPowerOfTwo
  deriving DecidableEq, Repr

/-- One entry; `address` is in units of four bytes. -/
structure ProtectionEntry (Access : Type) where
  matching : AddressMatching
  address : Nat
  locked : Bool
  permits : Access → Bool

/-- The two words have the same bits above the lowest zero bit of `pattern`. -/
def AgreeAboveLowestZero (pattern word : Nat) : Prop :=
  ∀ position, (∃ clear < position, pattern.testBit clear = false) →
    word.testBit position = pattern.testBit position

/-- Whether an entry above one of address `lower` matches the byte at `position`. -/
def ProtectionEntry.Matches (entry : ProtectionEntry Access) (lower position : Nat) : Prop :=
  match entry.matching with
  | .off => False
  | .topOfRange => lower * 4 ≤ position ∧ position < entry.address * 4
  | .naturallyAlignedFour => position / 4 = entry.address
  | .naturallyAlignedPowerOfTwo => AgreeAboveLowestZero entry.address (position / 4)

/-- A file of entries, the lower number first. -/
structure ProtectionUnit (Access : Type) where
  entry : Nat → ProtectionEntry Access
  count : Nat

namespace ProtectionUnit

variable (unit : ProtectionUnit Access)

/-- The address a top-of-range entry starts from. -/
def lower (index : Nat) : Nat :=
  if index = 0 then 0 else (unit.entry (index - 1)).address

def Matches (index position : Nat) : Prop :=
  (unit.entry index).Matches (unit.lower index) position

/-- The entry matches one of the `width` bytes from `start`. -/
def Touches (start width index : Nat) : Prop :=
  ∃ offset < width, unit.Matches index (start + offset)

structure IsLowest (start width index : Nat) : Prop where
  inside : index < unit.count
  touches : unit.Touches start width index
  lowest : ∀ other < index, ¬ unit.Touches start width other

/-- The lowest entry that matches a byte decides; it must match all of them. M-mode is held
to the permissions of a locked entry only, and passes where nothing matches. -/
def Denied (machine : Prop) (start width : Nat) (access : Access) : Prop :=
  (¬ machine ∧ ∀ index < unit.count, ¬ unit.Touches start width index) ∨
    ∃ index, unit.IsLowest start width index ∧
      ((∃ offset < width, ¬ unit.Matches index (start + offset)) ∨
        ((¬ machine ∨ (unit.entry index).locked = true) ∧ (unit.entry index).permits access = false))

variable {unit}

theorem IsLowest.unique (first : unit.IsLowest start width index) (second : unit.IsLowest start width other) :
    index = other := by
  rcases Nat.lt_trichotomy index other with before | same | after
  · exact absurd first.touches (second.lowest index before)
  · exact same
  · exact absurd second.touches (first.lowest other after)

theorem denied_of_lowest (lowest : unit.IsLowest start width index) :
    unit.Denied machine start width access ↔
      (∃ offset < width, ¬ unit.Matches index (start + offset)) ∨
        ((¬ machine ∨ (unit.entry index).locked = true) ∧ (unit.entry index).permits access = false) := by
  constructor
  · rintro (⟨_, untouched⟩ | ⟨other, otherLowest, reason⟩)
    · exact absurd lowest.touches (untouched index lowest.inside)
    · rw [lowest.unique otherLowest]
      exact reason
  · exact fun reason => .inr ⟨index, lowest, reason⟩

theorem denied_of_untouched (untouched : ∀ index < unit.count, ¬ unit.Touches start width index) :
    unit.Denied machine start width access ↔ ¬ machine := by
  constructor
  · rintro (⟨below, _⟩ | ⟨index, lowest, _⟩)
    · exact below
    · exact absurd lowest.touches (untouched index lowest.inside)
  · exact fun below => .inl ⟨below, untouched⟩

end ProtectionUnit

/-- With the lowest zero bit known, agreement above it is equality of the words shifted past it. -/
theorem agreeAboveLowestZero_iff (ones : ∀ position < lowest, pattern.testBit position = true)
    (clear : pattern.testBit lowest = false) :
    AgreeAboveLowestZero pattern word ↔ word / 2 ^ (lowest + 1) = pattern / 2 ^ (lowest + 1) := by
  constructor
  · intro agree
    apply Nat.eq_of_testBit_eq
    intro position
    rw [Nat.testBit_div_two_pow, Nat.testBit_div_two_pow]
    exact agree _ ⟨lowest, by omega, clear⟩
  · rintro same position ⟨other, below, otherClear⟩
    have notBefore : lowest ≤ other := by
      by_contra before
      rw [ones other (Nat.not_le.mp before)] at otherClear
      cases otherClear
    have shifted := congrArg (fun word => word.testBit (position - (lowest + 1))) same
    rwa [Nat.testBit_div_two_pow, Nat.testBit_div_two_pow, Nat.sub_add_cancel (by omega)] at shifted

end YaRiscV.Library
