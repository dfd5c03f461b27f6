import YaRiscV.Library.RingBuffer
import YaRiscV.Emulator.Machine
import YaRiscV.Emulator.Uart.Console

/-! The two rings of `uart/queues.ts`, each between one producer and one consumer: every
load and store of an index or a data byte is a step of its own. -/

namespace YaRiscV.Emulator

open YaRiscV.Library Relation

/-- Received bytes go from the terminal to the hart, transmitted ones back. -/
inductive UartRing where
  | receive
  | transmit
  deriving DecidableEq, Repr

/-- The access the producer makes next in `enqueueReceive` or `pushTransmit`. -/
inductive EnqueuePlace where
  | outside
  | loadingHead (value : BitVec 8)
  | loadingTail (value : BitVec 8) (head : Nat)
  | storingData (value : BitVec 8) (tail : Nat)
  | storingTail (value : BitVec 8) (tail : Nat)
  | publishing
  | returned (accepted : Bool)
  deriving DecidableEq, Repr

/-- The access the consumer makes next in `popReceive` or `dequeueTransmit`. -/
inductive DequeuePlace where
  | outside
  | loadingHead
  | loadingTail (head : Nat)
  | readingData (head tail : Nat)
  | storingHead (head tail : Nat) (value : BitVec 8)
  | publishing (head tail : Nat) (value : BitVec 8)
  | returned (dequeued : Option Dequeued)
  deriving DecidableEq, Repr

def EnqueuePlace.idle : EnqueuePlace → Bool
  | .outside | .returned _ => true
  | _ => false

def DequeuePlace.idle : DequeuePlace → Bool
  | .outside | .returned _ => true
  | _ => false

/-- What `dequeueTransmit` returns for the indices it loaded. -/
def dequeuedAt (head tail : Nat) (value : BitVec 8) : Dequeued where
  value
  threBefore := !queueIsFull head tail
  threAfter := !queueIsFull ((head + 1) % uartQueueCapacity) tail

namespace UartRing

def headOffset : UartRing → Nat
  | .receive => metaRxHead
  | .transmit => metaTxHead

def tailOffset : UartRing → Nat
  | .receive => metaRxTail
  | .transmit => metaTxTail

def dataIndex (memory : Memory) (slot : Nat) : UartRing → Nat
  | .receive => rxDataIndex memory slot
  | .transmit => txDataIndex memory slot

variable (ring : UartRing) (memory : Memory)

def head : Nat := metaByte memory ring.headOffset

def tail : Nat := metaByte memory ring.tailOffset

def slot (index : Nat) : BitVec 8 := memory.element (ring.dataIndex memory index)

/-- One access of the producer. -/
def enqueueTurn : EnqueuePlace → EnqueuePlace × Memory
  | .loadingHead value => (.loadingTail value (ring.head memory), memory)
  | .loadingTail value head =>
    if queueIsFull head (ring.tail memory) then (.returned false, memory)
    else (.storingData value (ring.tail memory), memory)
  | .storingData value tail => (.storingTail value tail, memory.setElement (ring.dataIndex memory tail) value)
  | .storingTail _ tail =>
    (match ring with
      | .receive => .returned true
      | .transmit => .publishing, storeMetaByte memory ring.tailOffset ((tail + 1) % uartQueueCapacity))
  | .publishing => (.returned true, publishUartTransmitLevel memory true)
  | place => (place, memory)

/-- One access of the consumer. -/
def dequeueTurn : DequeuePlace → DequeuePlace × Memory
  | .loadingHead => (.loadingTail (ring.head memory), memory)
  | .loadingTail head =>
    if head = ring.tail memory then (.returned none, memory) else (.readingData head (ring.tail memory), memory)
  | .readingData head tail => (.storingHead head tail (memory.element (ring.dataIndex memory head)), memory)
  | .storingHead head tail value =>
    (match ring with
      | .receive => .returned (some (dequeuedAt head tail value))
      | .transmit => .publishing head tail value, storeMetaByte memory ring.headOffset ((head + 1) % uartQueueCapacity))
  | .publishing head tail value =>
    (.returned (some (dequeuedAt head tail value)),
      publishUartTransmitLevel memory ((head + 1) % uartQueueCapacity != tail))
  | place => (place, memory)

/-! A call that is not interfered with is the function. -/

/-- The producer on its own. -/
def enqueueTurns (start : EnqueuePlace) (count : Nat) : EnqueuePlace × Memory :=
  forEachIndex (fun _ reached => ring.enqueueTurn reached.2 reached.1) count (start, memory)

/-- The consumer on its own. -/
def dequeueTurns (start : DequeuePlace) (count : Nat) : DequeuePlace × Memory :=
  forEachIndex (fun _ reached => ring.dequeueTurn reached.2 reached.1) count (start, memory)

theorem enqueueReceive_turns (value : BitVec 8) : ∃ count,
    receive.enqueueTurns memory (.loadingHead value) count =
      (.returned (enqueueReceive memory value).1, (enqueueReceive memory value).2) := by
  by_cases full : queueIsFull (metaByte memory metaRxHead) (metaByte memory metaRxTail) = true
  · refine ⟨2, ?_⟩
    rw [enqueueReceive, if_pos full]
    exact if_pos full
  · refine ⟨4, ?_⟩
    rw [enqueueReceive, if_neg full]
    simp only [enqueueTurns, forEachIndex, enqueueTurn, head, tail, headOffset, tailOffset, full, Bool.false_eq_true,
      if_false]
    rfl

theorem pushTransmit_turns (value : BitVec 8) : ∃ count,
    transmit.enqueueTurns memory (.loadingHead value) count =
      (.returned (pushTransmit memory value).1, (pushTransmit memory value).2) := by
  by_cases full : queueIsFull (metaByte memory metaTxHead) (metaByte memory metaTxTail) = true
  · refine ⟨2, ?_⟩
    rw [pushTransmit, if_pos full]
    exact if_pos full
  · refine ⟨5, ?_⟩
    rw [pushTransmit, if_neg full]
    simp only [enqueueTurns, forEachIndex, enqueueTurn, head, tail, headOffset, tailOffset, full, Bool.false_eq_true,
      if_false]
    rfl

theorem popReceive_turns : ∃ count dequeued,
    receive.dequeueTurns memory .loadingHead count = (.returned dequeued, (popReceive memory).2) ∧
      (popReceive memory).1 = (dequeued.map Dequeued.value).getD 0 := by
  by_cases empty : metaByte memory metaRxHead = metaByte memory metaRxTail
  · refine ⟨2, none, ?_, ?_⟩
    · rw [popReceive, if_pos empty]
      exact if_pos empty
    · rw [popReceive, if_pos empty]
      rfl
  · refine ⟨4, some (dequeuedAt (receive.head memory) (receive.tail memory)
      (receive.slot memory (receive.head memory))), ?_, ?_⟩
    · rw [popReceive, if_neg empty]
      simp only [dequeueTurns, forEachIndex, dequeueTurn, head, tail, headOffset, tailOffset, empty, if_false]
      rfl
    · rw [popReceive, if_neg empty]
      rfl

theorem dequeueTransmit_turns : ∃ count,
    transmit.dequeueTurns memory .loadingHead count =
      (.returned ((dequeueTransmit memory).map Prod.fst), ((dequeueTransmit memory).map Prod.snd).getD memory) := by
  by_cases empty : metaByte memory metaTxHead = metaByte memory metaTxTail
  · refine ⟨2, ?_⟩
    rw [dequeueTransmit, if_pos empty]
    exact if_pos empty
  · refine ⟨5, ?_⟩
    rw [dequeueTransmit, if_neg empty]
    simp only [dequeueTurns, forEachIndex, dequeueTurn, head, tail, headOffset, tailOffset, empty, if_false]
    rfl

/-! What the accesses do to the bytes of a ring. -/

/-- The slab offsets of a ring's two indices and its slots. -/
def Owns : UartRing → Nat → Prop
  | .receive, offset => offset = 8 ∨ offset = 9 ∨ (12 ≤ offset ∧ offset < 28)
  | .transmit, offset => offset = 10 ∨ offset = 11 ∨ (28 ≤ offset ∧ offset < 44)

/-- Indices and slots are as they were. -/
structure Same (before after : Memory) : Prop where
  layout : after.layout = before.layout
  head : ring.head after = ring.head before
  tail : ring.tail after = ring.tail before
  slots : ∀ index < uartQueueCapacity, ring.slot after index = ring.slot before index

variable {ring memory} {after : Memory}

theorem dataIndex_inside (small : index < uartQueueCapacity) :
    ring.dataIndex memory index < memory.layout.table.byteLength := by
  have inside := (createMemory_packed memory.layout.accepted).inside _ (lookup_mem memory.layout.uartFound)
  have length := memory.layout.uartLength
  simp only [MappedRegion.toRegion, uartHostByteLength, uartQueueCapacity] at inside length small
  cases ring with
  | receive =>
    simp only [dataIndex, rxDataIndex, uartByteIndex, uartHostRxData]
    omega
  | transmit =>
    simp only [dataIndex, txDataIndex, uartByteIndex, uartHostTxData]
    omega

theorem slot_eq (small : index < uartQueueCapacity) :
    ring.slot memory index = memory.bytes (ring.dataIndex memory index) :=
  if_pos (dataIndex_inside small)

/-- Bytes that stay as they are leave the ring as it is. -/
theorem Same.of_bytes (layout : after.layout = memory.layout)
    (bytes : ∀ offset, ring.Owns offset → after.bytes (uartByteIndex memory offset) =
      memory.bytes (uartByteIndex memory offset)) : ring.Same memory after where
  layout := layout
  head := by
    unfold UartRing.head metaByte metaIndex
    rw [uartByteIndex, layout]
    cases ring with
    | receive => exact congrArg BitVec.toNat (bytes 8 (.inl rfl))
    | transmit => exact congrArg BitVec.toNat (bytes 10 (.inl rfl))
  tail := by
    unfold UartRing.tail metaByte metaIndex
    rw [uartByteIndex, layout]
    cases ring with
    | receive => exact congrArg BitVec.toNat (bytes 9 (.inr (.inl rfl)))
    | transmit => exact congrArg BitVec.toNat (bytes 11 (.inr (.inl rfl)))
  slots index small := by
    rw [slot_eq small, slot_eq small]
    cases ring with
    | receive =>
      rw [dataIndex, rxDataIndex, uartByteIndex, layout]
      refine bytes (uartHostRxData + index) (.inr (.inr ?_))
      simp only [uartHostRxData, uartQueueCapacity] at small ⊢
      omega
    | transmit =>
      rw [dataIndex, txDataIndex, uartByteIndex, layout]
      refine bytes (uartHostTxData + index) (.inr (.inr ?_))
      simp only [uartHostTxData, uartQueueCapacity] at small ⊢
      omega

theorem same_publish (nonempty : Bool) : ring.Same memory (publishUartTransmitLevel memory nonempty) := by
  refine Same.of_bytes rfl fun offset owned => Memory.store32_outside _ (.inl ?_)
  simp only [uartByteIndex, uartHostTxWake]
  cases ring with
  | receive | transmit =>
    rcases owned with rfl | rfl | inside
    · omega
    · omega
    · omega

/-- A byte stored outside the ring. -/
theorem same_store (value : BitVec 8) (outside : ¬ ring.Owns stored) :
    ring.Same memory (memory.store (uartByteIndex memory stored) value) := by
  refine Same.of_bytes rfl fun offset owned => ?_
  rw [Memory.store_bytes]
  refine if_neg fun met => outside ?_
  have same : offset = stored := Nat.add_left_cancel met
  rwa [← same]

@[simp] theorem head_storeHead (value : Nat) :
    ring.head (storeMetaByte memory ring.headOffset (value % uartQueueCapacity)) = value % uartQueueCapacity := by
  refine metaByte_storeMetaByte _ _ ?_
  simp only [uartQueueCapacity]
  omega

@[simp] theorem tail_storeTail (value : Nat) :
    ring.tail (storeMetaByte memory ring.tailOffset (value % uartQueueCapacity)) = value % uartQueueCapacity := by
  refine metaByte_storeMetaByte _ _ ?_
  simp only [uartQueueCapacity]
  omega

@[simp] theorem tail_storeHead (value : Nat) :
    ring.tail (storeMetaByte memory ring.headOffset value) = ring.tail memory := by
  refine metaByte_storeMetaByte_other value ?_
  cases ring <;> decide

@[simp] theorem head_storeTail (value : Nat) :
    ring.head (storeMetaByte memory ring.tailOffset value) = ring.head memory := by
  refine metaByte_storeMetaByte_other value ?_
  cases ring <;> decide

theorem dataIndex_ne_meta (inside : offset < 4) : ring.dataIndex memory index ≠ metaIndex memory offset := by
  cases ring with
  | receive =>
    simp only [dataIndex, rxDataIndex, metaIndex, uartByteIndex, uartHostRxData, uartHostMeta]
    omega
  | transmit =>
    simp only [dataIndex, txDataIndex, metaIndex, uartByteIndex, uartHostTxData, uartHostMeta]
    omega

theorem slot_storeMetaByte (value : Nat) (inside : offset < 4) (small : index < uartQueueCapacity) :
    ring.slot (storeMetaByte memory offset value) index = ring.slot memory index := by
  rw [slot_eq small, slot_eq small, storeMetaByte, Memory.store_bytes]
  exact if_neg (dataIndex_ne_meta inside)

theorem setElement_eq (value : BitVec 8) (small : stored < uartQueueCapacity) :
    memory.setElement (ring.dataIndex memory stored) value = memory.store (ring.dataIndex memory stored) value :=
  if_pos (dataIndex_inside small)

theorem metaByte_setElement (value : BitVec 8) (small : stored < uartQueueCapacity) (inside : offset < 4) :
    metaByte (memory.setElement (ring.dataIndex memory stored) value) offset = metaByte memory offset := by
  rw [setElement_eq value small, metaByte, Memory.store_bytes]
  exact congrArg BitVec.toNat (if_neg (dataIndex_ne_meta inside).symm)

theorem headOffset_lt (ring : UartRing) : ring.headOffset < 4 := by
  cases ring <;> decide

theorem tailOffset_lt (ring : UartRing) : ring.tailOffset < 4 := by
  cases ring <;> decide

theorem slot_setElement (value : BitVec 8) (small : stored < uartQueueCapacity) (other : index < uartQueueCapacity) :
    ring.slot (memory.setElement (ring.dataIndex memory stored) value) index =
      if index = stored then value else ring.slot memory index := by
  rw [setElement_eq value small, slot_eq other, slot_eq other, Memory.store_bytes]
  have same : ring.dataIndex memory index = ring.dataIndex memory stored ↔ index = stored := by
    cases ring with
    | receive => exact Nat.add_left_cancel_iff.trans Nat.add_left_cancel_iff
    | transmit => exact Nat.add_left_cancel_iff.trans Nat.add_left_cancel_iff
  exact if_congr same rfl rfl

/-! The accesses of one ring leave the other as it is. -/

theorem same_refl (ring : UartRing) (memory : Memory) : ring.Same memory memory :=
  ⟨rfl, rfl, rfl, fun _ _ => rfl⟩

theorem enqueueTurn_same {other : UartRing} (apart : ring ≠ other)
    (inside : ∀ value tail, place = .storingData value tail → tail < uartQueueCapacity) :
    ring.Same memory (other.enqueueTurn memory place).2 := by
  cases place with
  | storingData value tail =>
    have small := inside value tail rfl
    simp only [enqueueTurn, setElement_eq value small]
    simp only [uartQueueCapacity] at small
    cases ring with
    | receive =>
      cases other with
      | receive => exact absurd rfl apart
      | transmit =>
        refine same_store value fun owned => ?_
        simp only [Owns, uartHostTxData] at owned
        omega
    | transmit =>
      cases other with
      | transmit => exact absurd rfl apart
      | receive =>
        refine same_store value fun owned => ?_
        simp only [Owns, uartHostRxData] at owned
        omega
  | storingTail value tail =>
    refine same_store _ ?_
    cases ring with
    | receive =>
      cases other with
      | receive => exact absurd rfl apart
      | transmit => simp [Owns, tailOffset, metaTxTail]
    | transmit =>
      cases other with
      | transmit => exact absurd rfl apart
      | receive => simp [Owns, tailOffset, metaRxTail]
  | publishing => exact same_publish true
  | loadingTail value head =>
    simp only [enqueueTurn]
    split
    · exact same_refl ring memory
    · exact same_refl ring memory
  | outside | loadingHead | returned => exact same_refl ring memory

theorem dequeueTurn_same {other : UartRing} (apart : ring ≠ other) :
    ring.Same memory (other.dequeueTurn memory place).2 := by
  cases place with
  | storingHead head tail value =>
    refine same_store _ ?_
    cases ring with
    | receive =>
      cases other with
      | receive => exact absurd rfl apart
      | transmit => simp [Owns, headOffset, metaTxHead]
    | transmit =>
      cases other with
      | transmit => exact absurd rfl apart
      | receive => simp [Owns, headOffset, metaRxHead]
  | publishing => exact same_publish _
  | loadingTail head =>
    simp only [dequeueTurn]
    split
    · exact same_refl ring memory
    · exact same_refl ring memory
  | outside | loadingHead | readingData | returned => exact same_refl ring memory

end UartRing

end YaRiscV.Emulator
