import YaRiscV.Library.DeviceTree

/-! What the reader of a device tree asks for: a node by one of its properties, and the cells of
a value. -/

namespace YaRiscV.Library

namespace DeviceTree

variable {Name : Type} [DecidableEq Name]

/-- The value of a property. -/
def value? (tree : DeviceTree Name) (name : Name) : Option (List (BitVec 8)) :=
  (tree.properties.find? fun each => each.name = name).map TreeProperty.value

/-- The first child that has a property with this value. -/
def childWith (tree : DeviceTree Name) (name : Name) (value : List (BitVec 8)) : Option (DeviceTree Name) :=
  tree.children.find? fun child => child.value? name = some value

end DeviceTree

/-- A value of one cell. -/
def readCell (value : List (BitVec 8)) : Option (BitVec 32) := do
  let (word, rest) ← readWord32 value
  if rest = [] then some word else none

/-- An address and a size of two cells each. -/
def readReg (value : List (BitVec 8)) : Option (BitVec 64 × BitVec 64) := do
  let (address, rest) ← readWord64 value
  let (size, rest) ← readWord64 rest
  if rest = [] then some (address, size) else none

theorem readCell_bigEndian32 (word : BitVec 32) : readCell (bigEndian32 word) = some word := by
  have read := readWord32_bigEndian32 word []
  rw [List.append_nil] at read
  rw [readCell, read]
  rfl

theorem readWord64_bigEndian32 (high low : BitVec 32) (rest : List (BitVec 8)) :
    readWord64 (bigEndian32 high ++ (bigEndian32 low ++ rest)) = some (high ++ low, rest) := by
  simp only [readWord64, readWord32_bigEndian32, Option.bind_eq_bind, Option.bind_some, Option.pure_def]

theorem readReg_bigEndian32 (addressHigh addressLow sizeHigh sizeLow : BitVec 32) :
    readReg (bigEndian32 addressHigh ++ (bigEndian32 addressLow ++
      (bigEndian32 sizeHigh ++ bigEndian32 sizeLow))) =
        some (addressHigh ++ addressLow, sizeHigh ++ sizeLow) := by
  have size := readWord64_bigEndian32 sizeHigh sizeLow []
  rw [List.append_nil] at size
  simp only [readReg, readWord64_bigEndian32, size, Option.bind_eq_bind, Option.bind_some, if_true]

/-- A doubleword is its two halves. -/
theorem append_halves (value : Nat) :
    BitVec.ofNat 32 ((value >>> 32) % 2 ^ 32) ++ BitVec.ofNat 32 (value % 2 ^ 32) = BitVec.ofNat 64 value := by
  apply BitVec.eq_of_toNat_eq
  rw [BitVec.toNat_append, BitVec.toNat_ofNat, BitVec.toNat_ofNat, BitVec.toNat_ofNat, Nat.mod_mod, Nat.mod_mod,
    ← Nat.shiftLeft_add_eq_or_of_lt (Nat.mod_lt _ (by decide)), Nat.shiftLeft_eq, Nat.shiftRight_eq_div_pow]
  omega

end YaRiscV.Library
