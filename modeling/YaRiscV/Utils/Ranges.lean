import Mathlib.Data.List.Pairwise
import Mathlib.Data.Nat.Bitwise

/-! Host helpers: `utils/ranges.ts`, `utils/binary-search.ts`, `utils/alignment.ts`
and `utils/int.ts`. -/

namespace YaRiscV.Utils

/-- A half-open range `[base, base + size)` with its diagnostic label. -/
structure NamedRange where
  name : String
  base : Int
  size : Int
  deriving DecidableEq, Repr

/-- Empty ranges never overlap. -/
def rangesOverlap (aBase aSize bBase bSize : Int) : Bool :=
  decide (aSize > 0) && decide (bSize > 0) && decide (aBase < bBase + bSize) &&
    decide (bBase < aBase + aSize)

/-- The first overlapping pair, the earlier element first. -/
def findOverlappingPair : List NamedRange → Option (NamedRange × NamedRange)
  | [] => none
  | a :: rest =>
    match rest.find? (fun b => rangesOverlap a.base a.size b.base b.size) with
    | some b => some (a, b)
    | none => findOverlappingPair rest

theorem rangesOverlap_iff {aBase aSize bBase bSize : Int} :
    rangesOverlap aBase aSize bBase bSize = true ↔
      0 < aSize ∧ 0 < bSize ∧ aBase < bBase + bSize ∧ bBase < aBase + aSize := by
  simp [rangesOverlap, and_assoc]

theorem findOverlappingPair_none {ranges : List NamedRange} :
    findOverlappingPair ranges = none ↔
      ranges.Pairwise (fun a b => rangesOverlap a.base a.size b.base b.size = false) := by
  induction ranges with
  | nil => simp [findOverlappingPair]
  | cons a rest ih =>
    simp only [findOverlappingPair, List.pairwise_cons]
    cases found : rest.find? (fun b => rangesOverlap a.base a.size b.base b.size) with
    | none =>
      have clear := List.find?_eq_none.mp found
      simp only [ih, iff_and_self]
      intro _ b member
      simpa using clear b member
    | some b =>
      have overlap := List.find?_some found
      have member := List.mem_of_find?_eq_some found
      simp only [reduceCtorEq, false_iff, not_and]
      intro clear
      simp [clear b member] at overlap

/-- The binary search loop: `low` after at most `fuel` halvings of `[low, high)`. -/
def searchLast (items : List Item) (predicate : Item → Bool) : Nat → Nat → Nat → Nat
  | 0, low, _ => low
  | fuel + 1, low, high =>
    if low < high then
      let mid := (low + high) >>> 1
      if items[mid]?.any predicate then searchLast items predicate fuel (mid + 1) high
      else searchLast items predicate fuel low mid
    else low

/-- Index of the last element satisfying `predicate`, or `-1`; the items are assumed
partitioned. The interval halves each turn, so `items.length` turns suffice. -/
def findLastIndex (items : List Item) (predicate : Item → Bool) : Int :=
  (searchLast items predicate items.length 0 items.length : Int) - 1

/-- Satisfying elements come first. -/
def Partitioned (items : List Item) (predicate : Item → Bool) : Prop :=
  items.Pairwise fun earlier later => predicate later = true → predicate earlier = true

theorem Partitioned.getElem {items : List Item} (partitioned : Partitioned items predicate) {i j : Nat}
    (before : i ≤ j) (bound : i < items.length) (inside : j < items.length) (satisfied : predicate items[j] = true) :
    predicate items[i] = true := by
  rcases Nat.lt_or_eq_of_le before with less | same
  · exact List.pairwise_iff_getElem.mp partitioned i j bound inside less satisfied
  · subst same
    exact satisfied

/-- What holds at every turn: elements below `low` satisfy, elements from `high` on do not. -/
structure SearchBounds (items : List Item) (predicate : Item → Bool) (low high : Nat) : Prop where
  ordered : low ≤ high
  inside : high ≤ items.length
  below : ∀ i (bound : i < items.length), i < low → predicate items[i] = true
  above : ∀ i (bound : i < items.length), high ≤ i → predicate items[i] = false

theorem SearchBounds.advance {items : List Item} (partitioned : Partitioned items predicate)
    (bounds : SearchBounds items predicate low high) (less : mid < high) (inside : mid < items.length)
    (satisfied : predicate items[mid] = true) : SearchBounds items predicate (mid + 1) high := by
  refine ⟨less, bounds.inside, fun i bound early => ?_, bounds.above⟩
  exact partitioned.getElem (Nat.le_of_lt_succ early) bound inside satisfied

theorem SearchBounds.retreat {items : List Item} (partitioned : Partitioned items predicate)
    (bounds : SearchBounds items predicate low high) (start : low ≤ mid) (inside : mid < items.length)
    (refuted : predicate items[mid] = false) : SearchBounds items predicate low mid := by
  refine ⟨start, Nat.le_of_lt inside, bounds.below, fun i bound late => ?_⟩
  by_contra satisfied
  rw [Bool.not_eq_false] at satisfied
  rw [partitioned.getElem late inside bound satisfied] at refuted
  cases refuted

/-- With fuel for the interval, the search ends where the satisfying elements end. -/
theorem searchLast_bounds {items : List Item} (partitioned : Partitioned items predicate)
    (bounds : SearchBounds items predicate low high) (enough : high - low ≤ fuel) :
    SearchBounds items predicate (searchLast items predicate fuel low high)
      (searchLast items predicate fuel low high) := by
  induction fuel generalizing low high with
  | zero =>
    have same : low = high := Nat.le_antisymm bounds.ordered (Nat.sub_eq_zero_iff_le.mp (Nat.le_zero.mp enough))
    subst same
    exact bounds
  | succ fuel ih =>
    rw [searchLast]
    split
    · rename_i less
      have middle : (low + high) >>> 1 = (low + high) / 2 := Nat.shiftRight_eq_div_pow _ 1
      have start : low ≤ (low + high) >>> 1 := by omega
      have bound : (low + high) >>> 1 < high := by omega
      have inside : (low + high) >>> 1 < items.length := Nat.lt_of_lt_of_le bound bounds.inside
      have found : items[(low + high) >>> 1]? = some items[(low + high) >>> 1] := List.getElem?_eq_getElem inside
      simp only [found, Option.any_some]
      split
      · rename_i satisfied
        exact ih (bounds.advance partitioned bound inside satisfied) (by omega)
      · rename_i refuted
        exact ih (bounds.retreat partitioned start inside (Bool.not_eq_true _ ▸ refuted)) (by omega)
    · rename_i done
      have same : low = high := Nat.le_antisymm bounds.ordered (Nat.not_lt.mp done)
      subst same
      exact bounds

theorem findLastIndex_bounds {items : List Item} (partitioned : Partitioned items predicate) :
    ∃ count : Nat, findLastIndex items predicate = (count : Int) - 1 ∧ SearchBounds items predicate count count := by
  have start : SearchBounds items predicate 0 items.length :=
    ⟨Nat.zero_le _, Nat.le_refl _, fun _ _ early => absurd early (Nat.not_lt_zero _),
      fun _ bound late => absurd bound (Nat.not_lt.mpr late)⟩
  exact ⟨_, rfl, searchLast_bounds partitioned start (Nat.le_refl items.length)⟩

/-- The element at the index found satisfies, and it is the last one that does. -/
theorem findLastIndex_last {items : List Item} (partitioned : Partitioned items predicate)
    (inside : i < items.length) (satisfied : predicate items[i] = true) :
    ∃ (last : Nat) (item : Item), findLastIndex items predicate = last ∧ i ≤ last ∧
      items[last]? = some item ∧ predicate item = true := by
  obtain ⟨count, found, bounds⟩ := findLastIndex_bounds partitioned
  have early : i < count := by
    by_contra late
    rw [bounds.above i inside (Nat.not_lt.mp late)] at satisfied
    cases satisfied
  have last : count - 1 < items.length := by
    have limit := bounds.inside
    omega
  exact ⟨count - 1, _, by omega, by omega, List.getElem?_eq_getElem last, bounds.below _ last (by omega)⟩

/-- `value & ~mask` on non-negative integers. -/
def andNot (value mask : Nat) : Nat :=
  value - (value &&& mask)

theorem andNot_lowMask (value bits : Nat) : andNot value (2 ^ bits - 1) = value - value % 2 ^ bits := by
  rw [andNot, Nat.and_two_pow_sub_one_eq_mod]

def alignUp (value alignment : Nat) : Nat :=
  andNot (value + alignment - 1) (alignment - 1)

theorem alignUp_eight (value : Nat) : alignUp value 8 = (value + 7) / 8 * 8 := by
  have mask : andNot (value + 8 - 1) (8 - 1) = value + 7 - (value + 7) % 8 := andNot_lowMask (value + 7) 3
  rw [alignUp, mask]
  omega

/-- `Number.MAX_SAFE_INTEGER`. -/
def maxSafeInteger : Nat := 9007199254740991

def bigIntAsNumber (value : Int) : Except String Nat :=
  if value < 0 ∨ value > maxSafeInteger then
    .error s!"Bigint {value} is outside the safe integer range."
  else .ok value.toNat

end YaRiscV.Utils
