import YaRiscV.Library.BitMask

/-! Reading and writing the bits of a mask in a word that is kept settled: every write
settles the whole word, so it may fix bits on both sides of the mask. -/

namespace YaRiscV.Library

variable {width : Nat} {word : BitVec width}

/-- `settle` keeps the settled words, and treats the two sides of the mask apart. -/
structure Settling (mask : BitVec width) (settled : BitVec width → Prop)
    (settle : BitVec width → BitVec width) : Prop where
  fixed : ∀ word, settled word → settle word = word
  inside : ∀ word other, word &&& mask = other &&& mask → settle word &&& mask = settle other &&& mask
  outside : ∀ word other, KeptOutside mask word other → KeptOutside mask (settle word) (settle other)

/-- Replace the bits of the mask, then settle. -/
def putMasked (mask : BitVec width) (settle : BitVec width → BitVec width) (word value : BitVec width) :
    BitVec width :=
  settle ((word &&& ~~~mask) ||| (value &&& mask))

theorem merge_and (word value mask : BitVec width) : ((word &&& ~~~mask) ||| (value &&& mask)) &&& mask =
    value &&& mask := by
  rw [BitVec.and_or_distrib_right, and_not_and, BitVec.and_assoc, BitVec.and_self]
  simp

/-- A word is the merge of its own two sides. -/
theorem merge_self (word mask : BitVec width) : (word &&& ~~~mask) ||| (word &&& mask) = word := by
  apply BitVec.eq_of_getLsbD_eq
  intro bit inside
  simp only [BitVec.getLsbD_or, BitVec.getLsbD_and, BitVec.getLsbD_not, inside, decide_true, Bool.true_and]
  cases word.getLsbD bit <;> cases mask.getLsbD bit <;> rfl

namespace Settling

/-- A word that needs no settling. -/
theorem free (mask : BitVec width) : Settling mask (fun _ => True) id where
  fixed _ _ := rfl
  inside _ _ same := same
  outside _ _ kept := kept

variable {mask : BitVec width} {settled : BitVec width → Prop} {settle : BitVec width → BitVec width}
  (view : Settling mask settled settle)
include view

/-- What is read after a write is the settled value. -/
theorem get_put (word value : BitVec width) : putMasked mask settle word value &&& mask = settle value &&& mask :=
  view.inside _ _ (merge_and word value mask)

theorem put_get (legal : settled word) : putMasked mask settle word (word &&& mask) = word := by
  rw [putMasked, BitVec.and_assoc, BitVec.and_self, merge_self, view.fixed word legal]

/-- A write keeps the bits outside of the mask. -/
theorem put_outside (legal : settled word) (value : BitVec width) :
    KeptOutside mask word (putMasked mask settle word value) := by
  have kept := view.outside _ _ (KeptOutside.merge word value mask)
  rwa [view.fixed word legal] at kept

theorem put_put (legal : settled word) (first second : BitVec width) :
    putMasked mask settle (putMasked mask settle word first) second = putMasked mask settle word second := by
  have kept : putMasked mask settle word first &&& ~~~mask = word &&& ~~~mask := view.put_outside legal first
  rw [putMasked, kept, putMasked]

end Settling

end YaRiscV.Library
