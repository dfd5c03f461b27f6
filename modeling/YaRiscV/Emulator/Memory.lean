import YaRiscV.Library.ByteStore
import YaRiscV.Emulator.Region

/-! The shared buffer as one worker sees it, with that worker's module variables, and
the accesses of `utils/atomics.ts`. A call runs without interference: every
compare-exchange finds the value just loaded, and `notify` leaves no trace here. -/

namespace YaRiscV.Emulator

open YaRiscV.Library YaRiscV.Utils

def ramRegionId : String := "ram"
def uartRegionId : String := "uart"
def clintRegionId : String := "clint"
def plicRegionId : String := "plic"
def sysconRegionId : String := "syscon"
def reservationRegionId : String := "reservation"
def irqLevelRegionId : String := "irqLevel"

@[simp] def uartHostByteLength : Nat := 48
@[simp] def clintHostByteLength : Nat := 48
@[simp] def plicHostByteLength : Nat := 168
@[simp] def sysconHostByteLength : Nat := 12
@[simp] def reservationHostByteLength : Nat := 136
@[simp] def irqLevelHostByteLength : Nat := 4

/-- A region exposed to the guest. -/
structure MappedRegion where
  hostIndex : Nat
  hostByteLength : Nat
  guestAddress : Bytes8
  guestByteLength : Nat
  deriving DecidableEq, Repr

def MappedRegion.toRegion (region : MappedRegion) : Region :=
  ⟨region.hostIndex, region.hostByteLength, some ⟨region.guestAddress, region.guestByteLength⟩⟩

/-- A table `createMemory` accepted and on which no device's region getter throws:
the five guest regions are mapped, the two others are host-only, and every device
slab has its module's length. -/
structure Layout where
  specs : List RegionSpec
  table : RegionTable
  accepted : createMemory specs = .ok table
  ram : MappedRegion
  uart : MappedRegion
  clint : MappedRegion
  plic : MappedRegion
  syscon : MappedRegion
  reservation : Nat
  irqLevel : Nat
  ramFound : table.regions.lookup ramRegionId = some ram.toRegion
  uartFound : table.regions.lookup uartRegionId = some uart.toRegion
  clintFound : table.regions.lookup clintRegionId = some clint.toRegion
  plicFound : table.regions.lookup plicRegionId = some plic.toRegion
  sysconFound : table.regions.lookup sysconRegionId = some syscon.toRegion
  reservationFound : table.regions.lookup reservationRegionId =
    some ⟨reservation, reservationHostByteLength, none⟩
  irqLevelFound : table.regions.lookup irqLevelRegionId = some ⟨irqLevel, irqLevelHostByteLength, none⟩
  uartLength : uart.hostByteLength = uartHostByteLength
  clintLength : clint.hostByteLength = clintHostByteLength
  plicLength : plic.hostByteLength = plicHostByteLength
  sysconLength : syscon.hostByteLength = sysconHostByteLength

/-- The module-level variables of a worker and the readings its host clock will give. -/
structure Worker where
  monitorLockDepth : Nat
  scMonitorHeld : Bool
  plicGatewayLockDepth : Nat
  hrtime : Nat → Nat

@[ext] structure Memory where
  layout : Layout
  bytes : ByteStore
  worker : Worker

variable (memory : Memory) (index : Nat)

/-- `Atomics.store` on the byte view. -/
def Memory.store (value : BitVec 8) : Memory :=
  { memory with bytes := memory.bytes.put index value }

/-- A plain element read, 0 past the end of the buffer. -/
def Memory.element : BitVec 8 :=
  if index < memory.layout.table.byteLength then memory.bytes index else 0

/-- A plain element write, ignored past the end of the buffer. -/
def Memory.setElement (value : BitVec 8) : Memory :=
  if index < memory.layout.table.byteLength then memory.store index value else memory

def Memory.load32 : BitVec 32 := memory.bytes.word index 4

def Memory.store32 (value : BitVec 32) : Memory :=
  { memory with bytes := memory.bytes.putWord index 4 value }

def Memory.load64 : BitVec 64 := memory.bytes.word index 8

def Memory.store64 (value : BitVec 64) : Memory :=
  { memory with bytes := memory.bytes.putWord index 8 value }

/-- `bytes.fill(0, start, stop)`. -/
def Memory.fillZero (start stop : Nat) : Memory :=
  { memory with bytes := fun position =>
      if start ≤ position ∧ position < stop then 0 else memory.bytes position }

/-- `Atomics.compareExchange` on a byte: the value found, and the buffer afterwards. -/
def Memory.compareExchange (expected replacement : BitVec 8) : BitVec 8 × Memory :=
  let found := memory.bytes index
  (found, if found = expected then memory.store index replacement else memory)

def Memory.compareExchange32 (expected replacement : BitVec 32) : BitVec 32 × Memory :=
  let found := memory.load32 index
  (found, if found = expected then memory.store32 index replacement else memory)

def Memory.compareExchange64 (expected replacement : BitVec 64) : BitVec 64 × Memory :=
  let found := memory.load64 index
  (found, if found = expected then memory.store64 index replacement else memory)

/-- `process.hrtime.bigint()`: the next reading of the host clock. -/
def Memory.readHostClock : Nat × Memory :=
  (memory.worker.hrtime 0,
    { memory with worker := { memory.worker with hrtime := fun n => memory.worker.hrtime (n + 1) } })

def atomicLoadBit (bit : Nat) : Bool :=
  (memory.bytes index).getLsbD bit

/-- The compare-exchange loop of `atomicUpdateBit`; `fuel` bounds its turns. -/
def atomicUpdateBitLoop (bit : Nat) (value : Bool) : Nat → BitVec 8 → Memory → Memory
  | 0, _, memory => memory
  | fuel + 1, previous, memory =>
    let mask := (1 : BitVec 8) <<< bit
    let next := if value then previous ||| mask else previous &&& ~~~mask
    let (current, memory) := memory.compareExchange index previous next
    if current = previous then memory else atomicUpdateBitLoop bit value fuel current memory

/-- One turn suffices here, as the exchange cannot fail. -/
def atomicUpdateBit (bit : Nat) (value : Bool) : Memory :=
  atomicUpdateBitLoop index bit value 1 (memory.bytes index) memory

def atomicUpdate32Loop (mask value : BitVec 32) : Nat → BitVec 32 → Memory → Memory
  | 0, _, memory => memory
  | fuel + 1, previous, memory =>
    let next := (previous &&& ~~~mask) ||| value
    let (current, memory) := memory.compareExchange32 index previous next
    if current = previous then memory else atomicUpdate32Loop mask value fuel current memory

/-- Replace the bits of a word selected by `mask`. -/
def atomicUpdate32 (mask value : BitVec 32) : Memory :=
  let replacement := value &&& mask
  if mask = 0xffffffff then memory.store32 index replacement
  else atomicUpdate32Loop index mask replacement 1 (memory.load32 index) memory

variable {memory index}

@[simp] theorem Memory.store_layout (value : BitVec 8) :
    (memory.store index value).layout = memory.layout := rfl

@[simp] theorem Memory.store_worker (value : BitVec 8) :
    (memory.store index value).worker = memory.worker := rfl

@[simp] theorem Memory.store32_layout (value : BitVec 32) :
    (memory.store32 index value).layout = memory.layout := rfl

@[simp] theorem Memory.store32_worker (value : BitVec 32) :
    (memory.store32 index value).worker = memory.worker := rfl

@[simp] theorem Memory.store64_layout (value : BitVec 64) :
    (memory.store64 index value).layout = memory.layout := rfl

@[simp] theorem Memory.store64_worker (value : BitVec 64) :
    (memory.store64 index value).worker = memory.worker := rfl

@[simp] theorem Memory.readHostClock_layout : memory.readHostClock.2.layout = memory.layout := rfl

@[simp] theorem Memory.readHostClock_bytes : memory.readHostClock.2.bytes = memory.bytes := rfl

theorem Memory.store_bytes (value : BitVec 8) (position : Nat) :
    (memory.store index value).bytes position = if position = index then value else memory.bytes position :=
  rfl

theorem Memory.store32_outside (value : BitVec 32) (outside : position < index ∨ index + 4 ≤ position) :
    (memory.store32 index value).bytes position = memory.bytes position :=
  ByteStore.putWord_outside value outside

theorem Memory.store64_outside (value : BitVec 64) (outside : position < index ∨ index + 8 ≤ position) :
    (memory.store64 index value).bytes position = memory.bytes position :=
  ByteStore.putWord_outside value outside

@[simp] theorem Memory.load32_store32 (value : BitVec 32) :
    (memory.store32 index value).load32 index = value :=
  ByteStore.word_putWord value rfl

@[simp] theorem Memory.load64_store64 (value : BitVec 64) :
    (memory.store64 index value).load64 index = value :=
  ByteStore.word_putWord value rfl

theorem Memory.load32_congr {other : Memory}
    (same : ∀ offset < 4, memory.bytes (index + offset) = other.bytes (index + offset)) :
    memory.load32 index = other.load32 index :=
  ByteStore.word_congr same

theorem Memory.load64_congr {other : Memory}
    (same : ∀ offset < 8, memory.bytes (index + offset) = other.bytes (index + offset)) :
    memory.load64 index = other.load64 index :=
  ByteStore.word_congr same

/-- Writing back what is there changes nothing. -/
theorem Memory.store_self (same : memory.bytes index = value) : memory.store index value = memory := by
  rw [store, ← same, ByteStore.put_self]

theorem Memory.store32_self (same : memory.load32 index = value) : memory.store32 index value = memory := by
  rw [store32, ← same, load32, ByteStore.putWord_self (by decide)]

/-- An exchange expecting what was just loaded cannot fail. -/
@[simp] theorem Memory.compareExchange64_self (replacement : BitVec 64) :
    memory.compareExchange64 index (memory.load64 index) replacement =
      (memory.load64 index, memory.store64 index replacement) := by
  simp [compareExchange64]

theorem atomicUpdateBit_eq (bit : Nat) (value : Bool) :
    atomicUpdateBit memory index bit value = memory.store index
      (if value then memory.bytes index ||| (1 : BitVec 8) <<< bit
        else memory.bytes index &&& ~~~((1 : BitVec 8) <<< bit)) := by
  simp [atomicUpdateBit, atomicUpdateBitLoop, Memory.compareExchange]

@[simp] theorem atomicUpdateBit_layout (bit : Nat) (value : Bool) :
    (atomicUpdateBit memory index bit value).layout = memory.layout := by
  rw [atomicUpdateBit_eq, Memory.store_layout]

@[simp] theorem atomicUpdateBit_worker (bit : Nat) (value : Bool) :
    (atomicUpdateBit memory index bit value).worker = memory.worker := by
  rw [atomicUpdateBit_eq, Memory.store_worker]

theorem atomicUpdate32_eq (mask value : BitVec 32) :
    atomicUpdate32 memory index mask value =
      memory.store32 index ((memory.load32 index &&& ~~~mask) ||| (value &&& mask)) := by
  simp only [atomicUpdate32]
  split
  · rename_i whole
    subst whole
    have cleared : ~~~(0xffffffff : BitVec 32) = 0 := by decide
    rw [cleared]
    simp
  · simp [atomicUpdate32Loop, Memory.compareExchange32]

private theorem getLsbD_one_shiftLeft (bit position : Nat) (small : position < 8) :
    ((1 : BitVec 8) <<< bit).getLsbD position = decide (position = bit) := by
  rw [BitVec.getLsbD_shiftLeft, show (1 : BitVec 8) = 1#8 from rfl, BitVec.getLsbD_one]
  by_cases same : position = bit
  · subst same
    simp [small]
  · have nonzero : ¬ (¬ position < bit ∧ position - bit = 0) := by omega
    by_cases before : position < bit
    · simp [same, before]
    · have positive : position - bit ≠ 0 := by omega
      simp [same, positive]

/-- Updating one bit of a byte leaves every other bit of the buffer as it was. -/
theorem atomicLoadBit_update (memory : Memory) (index bit : Nat) (value : Bool) (position other : Nat) (small : other < 8) :
    atomicLoadBit (atomicUpdateBit memory index bit value) position other =
      if position = index ∧ other = bit then value else atomicLoadBit memory position other := by
  rw [atomicUpdateBit_eq, atomicLoadBit, Memory.store_bytes]
  by_cases here : position = index
  · subst here
    by_cases same : other = bit
    · subst same
      cases value <;>
        simp only [getLsbD_one_shiftLeft, small, BitVec.getLsbD_not, BitVec.getLsbD_or,
          BitVec.getLsbD_and, ↓reduceIte, decide_true, Bool.or_true, Bool.not_true, Bool.and_false,
          Bool.false_eq_true, and_self]
    · cases value <;>
        simp only [getLsbD_one_shiftLeft, small, same, BitVec.getLsbD_not, BitVec.getLsbD_or,
          BitVec.getLsbD_and, ↓reduceIte, decide_true, decide_false, Bool.or_false, Bool.not_false,
          Bool.and_true, Bool.false_eq_true, and_false, atomicLoadBit]
  · simp only [here, false_and, ↓reduceIte, atomicLoadBit]

/-- Updating a bit to the value it has changes nothing. -/
theorem atomicUpdateBit_self (same : atomicLoadBit memory index bit = value) :
    atomicUpdateBit memory index bit value = memory := by
  rw [atomicUpdateBit_eq]
  apply Memory.store_self
  apply BitVec.eq_of_getLsbD_eq
  intro position inside
  have updated := atomicLoadBit_update memory index bit value index position inside
  rw [atomicUpdateBit_eq, atomicLoadBit, Memory.store_bytes, if_pos rfl] at updated
  rw [updated]
  by_cases here : position = bit
  · simp only [here, and_self, ↓reduceIte, ← same, atomicLoadBit]
  · simp only [here, and_false, ↓reduceIte, atomicLoadBit]

/-- `after` differs from `before` in no byte that `touched` leaves out. -/
structure ChangesOnly (touched : Nat → Prop) (before after : Memory) : Prop where
  layout : after.layout = before.layout
  bytes : ∀ position, ¬ touched position → after.bytes position = before.bytes position

namespace ChangesOnly

variable {touched : Nat → Prop} {before middle after : Memory}

theorem refl : ChangesOnly touched memory memory :=
  ⟨rfl, fun _ _ => rfl⟩

theorem trans (first : ChangesOnly touched before middle) (second : ChangesOnly touched middle after) :
    ChangesOnly touched before after :=
  ⟨second.layout.trans first.layout, fun position outside =>
    (second.bytes position outside).trans (first.bytes position outside)⟩

theorem mono {wider : Nat → Prop} (changes : ChangesOnly touched before after)
    (within : ∀ position, touched position → wider position) : ChangesOnly wider before after :=
  ⟨changes.layout, fun position outside =>
    changes.bytes position fun inside => outside (within position inside)⟩

theorem store (inside : touched index) (value : BitVec 8) :
    ChangesOnly touched memory (memory.store index value) := by
  refine ⟨rfl, fun position outside => ByteStore.put_ne value ?_⟩
  rintro rfl
  exact outside inside

theorem store_at (value : BitVec 8) :
    ChangesOnly (fun position => position = index) memory (memory.store index value) :=
  ⟨rfl, fun _ different => ByteStore.put_ne value different⟩

theorem store32 (inside : ∀ offset < 4, touched (index + offset)) (value : BitVec 32) :
    ChangesOnly touched memory (memory.store32 index value) := by
  refine ⟨rfl, fun position outside => Memory.store32_outside value ?_⟩
  by_contra covered
  have reached := inside (position - index) (by omega)
  rw [show index + (position - index) = position by omega] at reached
  exact outside reached

theorem store64 (inside : ∀ offset < 8, touched (index + offset)) (value : BitVec 64) :
    ChangesOnly touched memory (memory.store64 index value) := by
  refine ⟨rfl, fun position outside => Memory.store64_outside value ?_⟩
  by_contra covered
  have reached := inside (position - index) (by omega)
  rw [show index + (position - index) = position by omega] at reached
  exact outside reached

theorem load32 (changes : ChangesOnly touched before after)
    (outside : ∀ offset < 4, ¬ touched (index + offset)) : after.load32 index = before.load32 index :=
  Memory.load32_congr fun offset inside => changes.bytes _ (outside offset inside)

theorem load64 (changes : ChangesOnly touched before after)
    (outside : ∀ offset < 8, ¬ touched (index + offset)) : after.load64 index = before.load64 index :=
  Memory.load64_congr fun offset inside => changes.bytes _ (outside offset inside)

end ChangesOnly

/-- No two of the named regions share a host byte. -/
theorem Layout.apart (layout : Layout) (foundA : layout.table.regions.lookup idA = some a)
    (foundB : layout.table.regions.lookup idB = some b) (different : idA ≠ idB) : a.Apart b :=
  (createMemory_packed layout.accepted).lookup_apart foundA foundB different

end YaRiscV.Emulator
