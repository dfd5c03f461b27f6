import YaRiscV.Library.LittleEndian

/-! Byte-addressed stores. Words are little-endian views of consecutive bytes, so
every access law is a statement about which bytes two accesses share. -/

namespace YaRiscV.Library

abbrev ByteStore := Nat → BitVec 8

variable {store other : ByteStore} {index start count : Nat}

/-- Replace one byte. -/
def ByteStore.put (store : ByteStore) (index : Nat) (value : BitVec 8) : ByteStore :=
  fun position => if position = index then value else store position

/-- The `count` bytes from `start`, as one little-endian word. -/
def ByteStore.word (store : ByteStore) (start count : Nat) : BitVec width :=
  ofBytes (fun offset => store (start + offset)) count

/-- Replace the `count` bytes from `start` by those of `value`. -/
def ByteStore.putWord (store : ByteStore) (start count : Nat) (value : BitVec width) : ByteStore :=
  fun position => if start ≤ position ∧ position < start + count then byte value (position - start)
    else store position

@[simp] theorem ByteStore.put_same (value : BitVec 8) : store.put index value index = value := by
  simp [put]

theorem ByteStore.put_ne (value : BitVec 8) (different : position ≠ index) :
    store.put index value position = store position := by
  simp [put, different]

@[simp] theorem ByteStore.put_self : store.put index (store index) = store := by
  funext position
  by_cases same : position = index <;> simp [put, same]

theorem ByteStore.putWord_apply (value : BitVec width) (position : Nat) :
    store.putWord start count value position =
      if start ≤ position ∧ position < start + count then byte value (position - start)
      else store position := rfl

theorem ByteStore.putWord_outside (value : BitVec width)
    (outside : position < start ∨ start + count ≤ position) :
    store.putWord start count value position = store position := by
  have missed : ¬ (start ≤ position ∧ position < start + count) := by omega
  simp only [putWord, missed, ↓reduceIte]

theorem ByteStore.putWord_inside (value : BitVec width) (offset : Nat) (inside : offset < count) :
    store.putWord start count value (start + offset) = byte value offset := by
  have hit : start ≤ start + offset ∧ start + offset < start + count := by omega
  simp only [putWord, hit, and_self, ↓reduceIte, Nat.add_sub_cancel_left]

/-- A word depends only on the bytes it covers. -/
theorem ByteStore.word_congr {width : Nat}
    (same : ∀ offset < count, store (start + offset) = other (start + offset)) :
    (store.word start count : BitVec width) = other.word start count := by
  apply BitVec.eq_of_getLsbD_eq
  intro bit _
  simp only [word, getLsbD_ofBytes]
  by_cases covered : bit < 8 * count
  · rw [same (bit / 8) (by omega)]
  · simp [covered]

/-- Reading back a stored word. -/
theorem ByteStore.word_putWord (value : BitVec width) (fits : width = 8 * count) :
    (store.putWord start count value).word start count = value := by
  apply eq_of_byte fits
  intro offset inside
  rw [word, byte_ofBytes _ inside (by omega), putWord_inside value offset inside]

theorem ByteStore.byte_word (inside : offset < count) (fits : 8 * count ≤ width) :
    byte (store.word start count : BitVec width) offset = store (start + offset) := by
  rw [word, byte_ofBytes _ inside fits]

/-- Two stores that may differ on the bytes of `hidden` only. -/
def ByteStore.AgreeOff (hidden : Nat → Prop) (left right : ByteStore) : Prop :=
  ∀ position, ¬ hidden position → left position = right position

theorem ByteStore.AgreeOff.put {hidden : Nat → Prop} (agree : AgreeOff hidden store other) (value : BitVec 8) :
    AgreeOff hidden (store.put index value) (other.put index value) := by
  intro position visible
  by_cases here : position = index
  · rw [here, put_same, put_same]
  · rw [put_ne value here, put_ne value here]
    exact agree position visible

theorem ByteStore.AgreeOff.putWord {hidden : Nat → Prop} (agree : AgreeOff hidden store other)
    (value : BitVec width) : AgreeOff hidden (store.putWord start count value) (other.putWord start count value) := by
  intro position visible
  rw [putWord_apply, putWord_apply, agree position visible]

theorem ByteStore.AgreeOff.word {hidden : Nat → Prop} {width : Nat} (agree : AgreeOff hidden store other)
    (visible : ∀ offset < count, ¬ hidden (start + offset)) :
    (store.word start count : BitVec width) = other.word start count :=
  word_congr fun offset inside => agree _ (visible offset inside)

/-- Storing the word already present changes nothing. -/
theorem ByteStore.putWord_self (fits : 8 * count ≤ width) :
    store.putWord start count (store.word start count : BitVec width) = store := by
  funext position
  by_cases inside : start ≤ position ∧ position < start + count
  · obtain ⟨offset, rfl⟩ := Nat.exists_eq_add_of_le inside.1
    rw [putWord_inside _ offset (by omega), byte_word (by omega) fits]
  · simp only [putWord, inside, ↓reduceIte]

end YaRiscV.Library
