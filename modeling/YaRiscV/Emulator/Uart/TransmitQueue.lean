import YaRiscV.Emulator.Uart.DeviceRuns
import YaRiscV.Emulator.Uart.RingWorkers

/-! Whole calls on the transmit ring, as operations of the queue it holds. -/

namespace YaRiscV.Emulator

open YaRiscV.Library YaRiscV.Utils

variable {memory after : Memory} {first : Nat} {fifo : Fifo (BitVec 8)}

/-! What leaves the transmit ring as it is. -/

theorem UartRing.Same.trans {ring : UartRing} {last : Memory} (left : ring.Same memory after)
    (right : ring.Same after last) : ring.Same memory last where
  layout := right.layout.trans left.layout
  head := right.head.trans left.head
  tail := right.tail.trans left.tail
  slots index inside := (right.slots index inside).trans (left.slots index inside)

theorem refreshUartIrq_transmit : UartRing.transmit.Same memory (refreshUartIrq memory) := by
  refine UartRing.Same.of_bytes refreshUartIrq_layout fun offset owned => ?_
  have inside : offset < uartHostByteLength := by
    simp only [UartRing.Owns] at owned
    simp only [uartHostByteLength]
    omega
  have kept := refreshUartIrq_uart memory offset inside
  rwa [uartByteIndex, refreshUartIrq_layout] at kept

/-- A register is stored outside the ring. -/
theorem storeUartRegisterByte_transmit (inside : registerIndex < uartGuestByteLength) (value : BitVec 8) :
    UartRing.transmit.Same memory (storeUartRegisterByte memory registerIndex value) := by
  refine UartRing.same_store value ?_
  simp only [UartRing.Owns, uartHostRegisters]
  simp only [uartGuestByteLength] at inside
  omega

theorem setThreIrqSticky_transmit (value : Bool) :
    UartRing.transmit.Same memory (setThreIrqSticky memory value) :=
  storeUartRegisterByte_transmit (by decide) _

theorem armThreIrqOnRisingEdge_transmit (threBefore threAfter : Bool) :
    UartRing.transmit.Same memory (armThreIrqOnRisingEdge memory threBefore threAfter) := by
  unfold armThreIrqOnRisingEdge
  split
  · exact UartRing.same_refl _ _
  split
  · exact setThreIrqSticky_transmit true
  · exact UartRing.same_refl _ _

theorem armThreIrqIfEnabledAndReady_transmit :
    UartRing.transmit.Same memory (armThreIrqIfEnabledAndReady memory) := by
  unfold armThreIrqIfEnabledAndReady
  simp only
  split
  · exact setThreIrqSticky_transmit true
  · exact UartRing.same_refl _ _

theorem popReceive_transmit : UartRing.transmit.Same memory (popReceive memory).2 := by
  unfold popReceive
  simp only
  split
  · exact UartRing.same_refl _ _
  · have stored : UartRing.transmit.Same memory
        (UartRing.receive.dequeueTurn memory (.storingHead (metaByte memory metaRxHead) 0 0)).2 :=
      UartRing.dequeueTurn_same UartRing.noConfusion
    exact stored

theorem loadUartRegister_transmit (registerIndex : Nat) :
    UartRing.transmit.Same memory (loadUartRegister memory registerIndex).2 := by
  unfold loadUartRegister
  simp only
  split
  · exact popReceive_transmit.trans refreshUartIrq_transmit
  split
  · split
    · exact (setThreIrqSticky_transmit false).trans refreshUartIrq_transmit
    · exact UartRing.same_refl _ _
  split
  · exact UartRing.same_refl _ _
  · exact UartRing.same_refl _ _

/-- A key pressed goes into the other ring. -/
theorem pushUartReceive_transmit (rings : (uartView memory).RingsValid) (value : BitVec 8) :
    UartRing.transmit.Same memory (pushUartReceive memory value).2 := by
  have small : metaByte memory metaRxTail < uartQueueCapacity := rings.rxTail
  have kept : UartRing.transmit.Same memory (enqueueReceive memory value).2 := by
    unfold enqueueReceive
    simp only
    split
    · exact UartRing.same_refl _ _
    have written : UartRing.transmit.Same memory
        (UartRing.receive.enqueueTurn memory (.storingData value (metaByte memory metaRxTail))).2 := by
      refine UartRing.enqueueTurn_same UartRing.noConfusion ?_
      intro stored tail same
      obtain ⟨rfl, rfl⟩ := EnqueuePlace.storingData.inj same
      exact small
    refine written.trans (UartRing.same_store _ ?_)
    simp [UartRing.Owns, metaRxTail]
  unfold pushUartReceive
  simp only
  split
  · exact kept
  · exact kept.trans refreshUartIrq_transmit

/-- The store of a register that puts a byte into the ring. -/
def transmits (memory : Memory) (registerIndex : Nat) (value : BitVec 8) : Bool :=
  decide (registerIndex = 0) && !(uartRegisterByte memory 3 &&& lcrDlab != 0) &&
    (pushTransmit (setThreIrqSticky memory false) value).1

/-- The transmit ring holds the queue. -/
def TransmitHolds (first : Nat) (memory : Memory) (fifo : Fifo (BitVec 8)) : Prop :=
  RingHolds uartQueueCapacity first (UartRing.transmit.head memory) (UartRing.transmit.tail memory)
    (UartRing.transmit.slot memory) fifo

namespace TransmitHolds

theorem same (holds : TransmitHolds first memory fifo) (same : UartRing.transmit.Same memory after) :
    TransmitHolds first after fifo := by
  rw [TransmitHolds, same.head, same.tail]
  exact RingHolds.congr holds same.slots uartQueueCapacity_pos

/-- A byte is refused by a full ring only, and else goes in behind the others. -/
theorem push (holds : TransmitHolds first memory fifo) (value : BitVec 8) :
    TransmitHolds first (pushTransmit memory value).2
      (if (pushTransmit memory value).1 then fifo.accept value else fifo) := by
  have close := RingHolds.close holds uartQueueCapacity_pos
  have full : queueIsFull (metaByte memory metaTxHead) (metaByte memory metaTxTail) = true ↔
      fifo.accepted.length + 1 = fifo.consumed.length + uartQueueCapacity := by
    have tail : metaByte memory metaTxTail = _ := holds.tail
    have head : metaByte memory metaTxHead = _ := holds.head
    rw [queueIsFull, beq_iff_eq, tail, head]
    exact index_full_iff holds.sound.length_le close
  simp only [pushTransmit]
  split
  · exact holds
  rename_i room
  rw [full] at room
  have less : fifo.held < uartQueueCapacity - 1 := by
    simp only [Fifo.held, uartQueueCapacity] at close room ⊢
    omega
  have small : UartRing.transmit.tail memory < uartQueueCapacity := by
    rw [holds.tail]
    exact Nat.mod_lt _ uartQueueCapacity_pos
  have written : RingHolds uartQueueCapacity first (UartRing.transmit.head memory) (UartRing.transmit.tail memory)
      (UartRing.transmit.slot (memory.setElement (UartRing.transmit.dataIndex memory
        (UartRing.transmit.tail memory)) value)) fifo := by
    refine RingHolds.write holds less fun index inside apart => ?_
    rw [UartRing.slot_setElement value small inside, if_neg apart]
  have stored := written.push less
    ((UartRing.slot_setElement value small small).trans (if_pos rfl))
  refine TransmitHolds.same ?_ (UartRing.same_publish true)
  rw [if_pos rfl]
  change RingHolds _ _ (UartRing.transmit.head (storeMetaByte _ UartRing.transmit.tailOffset _))
    (UartRing.transmit.tail (storeMetaByte _ UartRing.transmit.tailOffset _)) _ _
  rw [UartRing.head_storeTail, UartRing.tail_storeTail]
  refine RingHolds.congr ?_ (fun index inside => UartRing.slot_storeMetaByte _ UartRing.transmit.tailOffset_lt inside)
    uartQueueCapacity_pos
  have headed : UartRing.transmit.head (memory.setElement (UartRing.transmit.dataIndex memory
      (UartRing.transmit.tail memory)) value) = UartRing.transmit.head memory :=
    UartRing.metaByte_setElement value small UartRing.transmit.headOffset_lt
  rw [← headed] at stored
  exact stored

/-- An empty ring gives nothing; else the next byte comes out. -/
theorem dequeue (holds : TransmitHolds first memory fifo) :
    match dequeueTransmit memory with
    | none => fifo.accepted = fifo.consumed
    | some (dequeued, after) => fifo.accepted[fifo.consumed.length]? = some dequeued.value ∧
        TransmitHolds first after (fifo.consume dequeued.value) := by
  have ordered := holds.sound.length_le
  have empty : metaByte memory metaTxHead = metaByte memory metaTxTail ↔
      fifo.accepted.length = fifo.consumed.length := RingHolds.empty_iff holds uartQueueCapacity_pos
  rw [dequeueTransmit]
  by_cases none : metaByte memory metaTxHead = metaByte memory metaTxTail
  · rw [if_pos none]
    exact (holds.sound.order.eq_of_length (empty.mp none).symm).symm
  rw [if_neg none]
  have unempty : fifo.consumed.length < fifo.accepted.length := by
    rw [empty] at none
    exact Nat.lt_of_le_of_ne ordered (Ne.symm none)
  have next : fifo.accepted[fifo.consumed.length]? =
      some (memory.element (txDataIndex memory (metaByte memory metaTxHead))) := by
    rw [holds.next unempty]
    rfl
  refine ⟨next, TransmitHolds.same ?_ (UartRing.same_publish _)⟩
  change RingHolds _ _ (UartRing.transmit.head (storeMetaByte _ UartRing.transmit.headOffset _))
    (UartRing.transmit.tail (storeMetaByte _ UartRing.transmit.headOffset _)) _ _
  rw [UartRing.head_storeHead, UartRing.tail_storeHead]
  exact RingHolds.congr (RingHolds.pop holds next)
    (fun index inside => UartRing.slot_storeMetaByte _ UartRing.transmit.headOffset_lt inside)
    uartQueueCapacity_pos

/-- What the terminal pops is the next byte. -/
theorem pop (holds : TransmitHolds first memory fifo) :
    (popUartTransmit memory).1 = fifo.accepted[fifo.consumed.length]? ∧
      TransmitHolds first (popUartTransmit memory).2
        ((popUartTransmit memory).1.elim fifo fifo.consume) := by
  have popped := holds.dequeue
  rw [popUartTransmit]
  cases dequeued : dequeueTransmit memory with
  | none =>
    rw [dequeued] at popped
    refine ⟨?_, holds⟩
    rw [popped, List.getElem?_eq_none (Nat.le_refl _)]
  | some found =>
    rw [dequeued] at popped
    obtain ⟨next, left⟩ := popped
    exact ⟨next.symm, (left.same (armThreIrqOnRisingEdge_transmit _ _)).same refreshUartIrq_transmit⟩

/-- The guest's store of the transmit register puts its byte in where there is room. -/
theorem storeRegister (holds : TransmitHolds first memory fifo) (inside : registerIndex < uartGuestByteLength)
    (value : BitVec 8) :
    TransmitHolds first (storeUartRegister memory registerIndex value)
      (if transmits memory registerIndex value then fifo.accept value else fifo) := by
  unfold storeUartRegister transmits
  simp only
  by_cases receive : registerIndex = 0 ∧ (!(uartRegisterByte memory 3 &&& lcrDlab != 0)) = true
  · rw [if_pos receive]
    have pushed := (holds.same (setThreIrqSticky_transmit false)).push value
    have decided : (decide (registerIndex = 0) && !(uartRegisterByte memory 3 &&& lcrDlab != 0)) = true := by
      rw [Bool.and_eq_true, decide_eq_true_iff]
      exact receive
    rw [decided, Bool.true_and]
    exact pushed.same refreshUartIrq_transmit
  rw [if_neg receive]
  have decided : (decide (registerIndex = 0) && !(uartRegisterByte memory 3 &&& lcrDlab != 0)) = false := by
    rw [Bool.and_eq_false_iff, decide_eq_false_iff_not]
    rcases Decidable.not_and_iff_or_not.mp receive with other | latched
    · exact .inl other
    · exact .inr (Bool.eq_false_iff.mpr latched)
  rw [decided, Bool.false_and]
  split
  · exact holds
  have stored := holds.same (storeUartRegisterByte_transmit inside value)
  split
  · exact (stored.same armThreIrqIfEnabledAndReady_transmit).same refreshUartIrq_transmit
  · exact stored

end TransmitHolds

end YaRiscV.Emulator
