import YaRiscV.Library.BitMask
import YaRiscV.Emulator.Memory

/-! `wake.ts` and `irq-level.ts`: wake words, and the one that aggregates the device
interrupt lines for `wfi`. -/

namespace YaRiscV.Emulator

open YaRiscV.Library

def irqLevelMsip : BitVec 32 := (1 : BitVec 32) <<< 3
def irqLevelStip : BitVec 32 := (1 : BitVec 32) <<< 5
def irqLevelMtip : BitVec 32 := (1 : BitVec 32) <<< 7
def irqLevelSeip : BitVec 32 := (1 : BitVec 32) <<< 9
def irqLevelMeip : BitVec 32 := (1 : BitVec 32) <<< 11

variable (memory : Memory)

/-- Exchange a wake word; a waiter is notified when the level changes. -/
def publishWakeLevel (index : Nat) (level : BitVec 32) : Memory :=
  memory.store32 index level

def loadIrqLevel : BitVec 32 := memory.load32 memory.layout.irqLevel

def setIrqWireLoop (pending : Bool) (levelBit : BitVec 32) : Nat → BitVec 32 → Memory → Memory
  | 0, _, memory => memory
  | fuel + 1, previous, memory =>
    let next := if pending then previous ||| levelBit else previous &&& ~~~levelBit
    let (current, memory) := memory.compareExchange32 memory.layout.irqLevel previous next
    if current = previous then memory else setIrqWireLoop pending levelBit fuel current memory

/-- Drive a wire byte and publish it into the aggregate word. -/
def setIrqWire (hostByteIndex : Nat) (pending : Bool) (levelBit : BitVec 32) : Memory :=
  let memory := memory.store hostByteIndex (if pending then 1 else 0)
  setIrqWireLoop pending levelBit 1 (loadIrqLevel memory) memory

/-- The bytes of the aggregate word. -/
def InIrqLevel (layout : Layout) (position : Nat) : Prop :=
  layout.irqLevel ≤ position ∧ position < layout.irqLevel + 4

variable {memory} {hostByteIndex : Nat} {pending : Bool} {levelBit : BitVec 32}

theorem setIrqWire_eq : setIrqWire memory hostByteIndex pending levelBit =
    (memory.store hostByteIndex (if pending then 1 else 0)).store32 memory.layout.irqLevel
      (if pending then loadIrqLevel (memory.store hostByteIndex (if pending then 1 else 0)) ||| levelBit
        else loadIrqLevel (memory.store hostByteIndex (if pending then 1 else 0)) &&& ~~~levelBit) := by
  simp only [setIrqWire, setIrqWireLoop, Memory.compareExchange32, loadIrqLevel, Memory.store_layout,
    ↓reduceIte]

@[simp] theorem setIrqWire_layout :
    (setIrqWire memory hostByteIndex pending levelBit).layout = memory.layout := by
  rw [setIrqWire_eq, Memory.store32_layout, Memory.store_layout]

@[simp] theorem setIrqWire_worker :
    (setIrqWire memory hostByteIndex pending levelBit).worker = memory.worker := by
  rw [setIrqWire_eq, Memory.store32_worker, Memory.store_worker]

theorem setIrqWire_changesOnly : ChangesOnly
    (fun position => position = hostByteIndex ∨ InIrqLevel memory.layout position)
    memory (setIrqWire memory hostByteIndex pending levelBit) := by
  rw [setIrqWire_eq]
  refine (ChangesOnly.store (.inl rfl) _).trans (ChangesOnly.store32 ?_ _)
  intro offset inside
  exact .inr ⟨by omega, by omega⟩

theorem setIrqWire_wire (apart : ¬ InIrqLevel memory.layout hostByteIndex) :
    (setIrqWire memory hostByteIndex pending levelBit).bytes hostByteIndex =
      if pending then 1 else 0 := by
  have outside : hostByteIndex < memory.layout.irqLevel ∨ memory.layout.irqLevel + 4 ≤ hostByteIndex := by
    simp only [InIrqLevel] at apart
    omega
  rw [setIrqWire_eq, Memory.store32_outside _ outside, Memory.store_bytes, if_pos rfl]

/-- The published word: the line's own bit follows `pending`, the others stay. -/
theorem loadIrqLevel_setIrqWire (apart : ¬ InIrqLevel memory.layout hostByteIndex) :
    loadIrqLevel (setIrqWire memory hostByteIndex pending levelBit) =
      if pending then loadIrqLevel memory ||| levelBit else loadIrqLevel memory &&& ~~~levelBit := by
  have kept : loadIrqLevel (memory.store hostByteIndex (if pending then 1 else 0)) = loadIrqLevel memory := by
    refine (ChangesOnly.store_at _).load32 ?_
    intro offset inside reached
    have same : memory.layout.irqLevel + offset = hostByteIndex := reached
    exact apart ⟨by omega, by omega⟩
  rw [setIrqWire_eq, kept, loadIrqLevel, Memory.store32_layout, Memory.store_layout,
    Memory.load32_store32]

/-- Driving a wire to the level it has, with its line published, changes nothing. -/
theorem setIrqWire_self (wire : memory.bytes hostByteIndex = if pending then 1 else 0)
    (line : loadIrqLevel memory &&& levelBit = if pending then levelBit else 0) :
    setIrqWire memory hostByteIndex pending levelBit = memory := by
  have driven : memory.store hostByteIndex (if pending then 1 else 0) = memory := Memory.store_self wire
  rw [setIrqWire_eq, driven]
  apply Memory.store32_self
  cases pending with
  | true => exact (or_eq_of_and line).symm
  | false => exact (and_not_eq_of_and line).symm

/-- A wire and its line of the aggregate word show one level. -/
structure WireDriven (memory : Memory) (hostByteIndex : Nat) (pending : Bool) (levelBit : BitVec 32) : Prop where
  wire : memory.bytes hostByteIndex = if pending then 1 else 0
  line : loadIrqLevel memory &&& levelBit = if pending then levelBit else 0

theorem setIrqWire_driven (apart : ¬ InIrqLevel memory.layout hostByteIndex) :
    WireDriven (setIrqWire memory hostByteIndex pending levelBit) hostByteIndex pending levelBit := by
  refine ⟨setIrqWire_wire apart, ?_⟩
  rw [loadIrqLevel_setIrqWire apart]
  cases pending with
  | true => exact or_and_absorb _ _
  | false => exact and_not_and _ _

/-- Driving one wire leaves another, with its line, as it was. -/
theorem WireDriven.other {otherIndex : Nat} {otherBit : BitVec 32} {level : Bool}
    (driven : WireDriven memory hostByteIndex pending levelBit) (different : hostByteIndex ≠ otherIndex)
    (lines : otherBit &&& levelBit = 0) (apart : ¬ InIrqLevel memory.layout hostByteIndex)
    (apartOther : ¬ InIrqLevel memory.layout otherIndex) :
    WireDriven (setIrqWire memory otherIndex level otherBit) hostByteIndex pending levelBit := by
  constructor
  · rw [setIrqWire_changesOnly.bytes _ (by rintro (same | inside) <;> contradiction)]
    exact driven.wire
  · rw [loadIrqLevel_setIrqWire apartOther, published_other lines]
    exact driven.line

end YaRiscV.Emulator
