import Mathlib.Data.List.Induction
import Mathlib.Data.List.Pairwise
import Mathlib.Order.Lattice

/-! Selecting the best candidate of an ascending list: highest rank first, and the
least item among equals; and the first match of a list of rules. -/

namespace YaRiscV.Library

/-- The first match stays first under a narrower test that it passes. -/
theorem find?_of_narrower {items : List Item} {wide narrow : Item → Bool} (found : items.find? wide = some item)
    (passes : narrow item = true) (narrower : ∀ other, narrow other = true → wide other = true) :
    items.find? narrow = some item := by
  obtain ⟨_, before, after, rfl, skipped⟩ := List.find?_eq_some_iff_append.mp found
  refine List.find?_eq_some_iff_append.mpr ⟨passes, before, after, rfl, fun other member => ?_⟩
  have missed := skipped other member
  cases tested : narrow other with
  | false => rfl
  | true => simp [narrower other tested] at missed

/-- The item whose answer `findSome?` returns is the first that gives one. -/
theorem findSome?_first {items : List Item} {answer : Item → Option Value}
    (found : items.findSome? answer = some value) :
    ∃ item, items.find? (fun item => (answer item).isSome) = some item ∧ answer item = some value := by
  induction items with
  | nil => cases found
  | cons head rest ih =>
    rw [List.findSome?_cons] at found
    cases first : answer head with
    | none =>
      rw [first] at found
      obtain ⟨item, located, same⟩ := ih found
      exact ⟨item, by simpa [List.find?_cons, first] using located, same⟩
    | some result =>
      rw [first] at found
      cases found
      exact ⟨head, by simp [first], first⟩

/-- Nothing that gives an answer stands before the item whose answer `findSome?` returns. -/
theorem findSome?_precedes [BEq Item] [LawfulBEq Item] {items : List Item} {answer : Item → Option Value}
    (found : items.findSome? answer = some value) :
    ∃ item ∈ items, answer item = some value ∧
      ∀ other ∈ items, (answer other).isSome = true → items.idxOf item ≤ items.idxOf other := by
  obtain ⟨before, item, after, rfl, answered, silent⟩ := List.findSome?_eq_some_iff.mp found
  have absent (other : Item) (answers : (answer other).isSome = true) : other ∉ before := by
    intro member
    rw [silent other member] at answers
    cases answers
  have missing : item ∉ before := absent item (by rw [answered]; rfl)
  refine ⟨item, by simp, answered, fun other _ answers => ?_⟩
  rw [List.idxOf_append, if_neg missing, List.idxOf_append, if_neg (absent other answers), List.idxOf_cons_self]
  exact Nat.add_le_add_right (Nat.zero_le _) _

variable [LinearOrder Rank] (candidate : Item → Bool) (rank : Item → Rank)

/-- One turn of the selection loop. -/
def keepBest (best : Option Item) (item : Item) : Option Item :=
  if candidate item then
    match best with
    | none => some item
    | some current => if rank current < rank item then some item else some current
  else best

def selectBest (items : List Item) : Option Item :=
  items.foldl (keepBest candidate rank) none

/-- `chosen` is a candidate no other candidate precedes. -/
structure IsBest [LE Item] (items : List Item) (chosen : Item) : Prop where
  member : chosen ∈ items
  eligible : candidate chosen = true
  highest : ∀ item ∈ items, candidate item = true → rank item ≤ rank chosen
  least : ∀ item ∈ items, candidate item = true → rank item = rank chosen → chosen ≤ item

variable {candidate rank}

theorem selectBest_append (items : List Item) (last : Item) :
    selectBest candidate rank (items ++ [last]) = keepBest candidate rank (selectBest candidate rank items) last := by
  simp [selectBest]

theorem selectBest_none {items : List Item} :
    selectBest candidate rank items = none ↔ ∀ item ∈ items, candidate item = false := by
  induction items using List.reverseRecOn with
  | nil => simp [selectBest]
  | append_singleton items last ih =>
    rw [selectBest_append, keepBest.eq_def]
    cases eligible : candidate last with
    | false =>
      simp only [Bool.false_eq_true, ↓reduceIte, ih, List.mem_append, List.mem_singleton]
      constructor
      · rintro none item (earlier | rfl)
        · exact none item earlier
        · exact eligible
      · exact fun none item earlier => none item (.inl earlier)
    | true =>
      have chosen : (match selectBest candidate rank items with
          | none => some last
          | some current => if rank current < rank last then some last else some current) ≠ none := by
        split
        · simp
        · split <;> simp
      simp only [↓reduceIte, chosen, List.mem_append, List.mem_singleton, false_iff]
      intro none
      have absent := none last (.inr rfl)
      rw [eligible] at absent
      cases absent

/-- The selection from an ascending list is its best candidate. -/
theorem selectBest_some [LinearOrder Item] {items : List Item} (ascending : items.Pairwise (· < ·))
    (selected : selectBest candidate rank items = some chosen) : IsBest candidate rank items chosen := by
  induction items using List.reverseRecOn generalizing chosen with
  | nil => simp [selectBest] at selected
  | append_singleton items last ih =>
    obtain ⟨earlier, _, below⟩ := List.pairwise_append.mp ascending
    rw [selectBest_append, keepBest.eq_def] at selected
    cases eligible : candidate last with
    | false =>
      simp only [eligible, Bool.false_eq_true, ↓reduceIte] at selected
      have best := ih earlier selected
      refine ⟨List.mem_append_left _ best.member, best.eligible, ?_, ?_⟩
      · intro item member able
        rcases List.mem_append.mp member with old | new
        · exact best.highest item old able
        · simp [List.mem_singleton.mp new, eligible] at able
      · intro item member able same
        rcases List.mem_append.mp member with old | new
        · exact best.least item old able same
        · simp [List.mem_singleton.mp new, eligible] at able
    | true =>
      simp only [eligible, ↓reduceIte] at selected
      split at selected
      · rename_i none
        cases selected
        have absent := selectBest_none.mp none
        have only : ∀ item ∈ items ++ [last], candidate item = true → item = last := by
          intro item member able
          rcases List.mem_append.mp member with old | new
          · simp [absent item old] at able
          · exact List.mem_singleton.mp new
        refine ⟨by simp, eligible, ?_, ?_⟩
        · exact fun item member able => by rw [only item member able]
        · exact fun item member able _ => by rw [only item member able]
      · rename_i current found
        have best := ih earlier found
        split at selected
        · rename_i lower
          cases selected
          refine ⟨by simp, eligible, ?_, ?_⟩
          · intro item member able
            rcases List.mem_append.mp member with old | new
            · exact (best.highest item old able).trans lower.le
            · rw [List.mem_singleton.mp new]
          · intro item member able same
            rcases List.mem_append.mp member with old | new
            · exact absurd (same ▸ best.highest item old able) (not_le.mpr lower)
            · rw [List.mem_singleton.mp new]
        · rename_i notLower
          cases selected
          refine ⟨List.mem_append_left _ best.member, best.eligible, ?_, ?_⟩
          · intro item member able
            rcases List.mem_append.mp member with old | new
            · exact best.highest item old able
            · rw [List.mem_singleton.mp new]
              exact not_lt.mp notLower
          · intro item member able same
            rcases List.mem_append.mp member with old | new
            · exact best.least item old able same
            · rw [List.mem_singleton.mp new]
              exact (below _ best.member last (by simp)).le

/-- Answers that agree on the items find the same. -/
theorem findSome?_congr {items : List Item} {first second : Item → Option Value}
    (same : ∀ item ∈ items, first item = second item) : items.findSome? first = items.findSome? second := by
  induction items with
  | nil => rfl
  | cons item rest ih =>
    rw [List.findSome?_cons, List.findSome?_cons, same item List.mem_cons_self,
      ih fun other member => same other (List.mem_cons_of_mem item member)]

end YaRiscV.Library
