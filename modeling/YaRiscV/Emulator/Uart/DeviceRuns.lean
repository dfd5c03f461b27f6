import YaRiscV.Emulator.DeviceSteps
import YaRiscV.Emulator.Uart.Rings

/-! The operations of the UART as runs of device steps: stores into its own slab, each of which
keeps the rings within their slots, and the interrupt driven at the PLIC. -/

namespace YaRiscV.Emulator

open YaRiscV.Library YaRiscV.Utils Relation

variable {memory after : Memory}

theorem DevicesCurrent.reached (current : DevicesCurrent memory) (run : DeviceRun memory after) :
    DevicesCurrent after :=
  run.kept.current current

/-- A byte stored in the slab that keeps the rings within their slots. -/
theorem storeUart_run (inside : offset < uartHostByteLength) (value : BitVec 8)
    (rings : (uartView memory).RingsValid → (uartView (memory.store (uartByteIndex memory offset) value)).RingsValid) :
    DeviceRun memory (memory.store (uartByteIndex memory offset) value) :=
  .single (.uart (Confined.store (inRegions_uart (by decide) inside) value).changes rings)

theorem setThreIrqSticky_run (value : Bool) : DeviceRun memory (setThreIrqSticky memory value) :=
  storeUart_run (by decide) _ fun rings => by
    have view : uartView (setThreIrqSticky memory value) = { uartView memory with sticky := value } :=
      uartView_setThreIrqSticky value
    exact view ▸ ⟨rings.rxHead, rings.rxTail, rings.txHead, rings.txTail⟩

theorem storeUartRegisterByte_run (inside : stored < uartGuestByteLength) (value : BitVec 8) :
    DeviceRun memory (storeUartRegisterByte memory stored value) := by
  have slab : uartHostRegisters + stored < uartHostByteLength := by
    rw [uartGuestByteLength] at inside
    simp only [uartHostRegisters, uartHostByteLength]
    omega
  refine storeUart_run slab value fun rings => ?_
  have view := uartView_storeRegister memory inside value
  exact view ▸ ⟨rings.rxHead, rings.rxTail, rings.txHead, rings.txTail⟩

/-- A ring index that wraps. -/
theorem storeMetaByte_run (inside : offset < 4) (index : Nat) :
    DeviceRun memory (storeMetaByte memory offset ((index + 1) % uartQueueCapacity)) := by
  have wrapped : (index + 1) % uartQueueCapacity < uartQueueCapacity := Nat.mod_lt _ (by decide)
  have slab : uartHostMeta + offset < uartHostByteLength := by
    simp only [uartHostMeta, uartHostByteLength]
    omega
  refine storeUart_run slab _ fun rings => ?_
  have view : uartView (storeMetaByte memory offset ((index + 1) % uartQueueCapacity)) = _ :=
    uartView_storeMeta offset (Nat.lt_trans wrapped (by decide))
  have either {known : Nat} {chosen : Prop} [Decidable chosen] (small : known < uartQueueCapacity) :
      (if chosen then (index + 1) % uartQueueCapacity else known) < uartQueueCapacity := by
    split
    · exact wrapped
    · exact small
  exact view ▸ ⟨either rings.rxHead, either rings.rxTail, either rings.txHead, either rings.txTail⟩

/-- A byte of data in a slot of a ring. -/
theorem setSlot_run (ring : UartRing) (small : slot < uartQueueCapacity) (value : BitVec 8) :
    DeviceRun memory (memory.setElement (ring.dataIndex memory slot) value) := by
  have view : uartView (memory.setElement (ring.dataIndex memory slot) value) = uartView memory := by
    cases ring with
    | receive => exact uartView_setReceived slot value
    | transmit => exact uartView_setTransmitted slot value
  rw [UartRing.setElement_eq value small] at view ⊢
  rw [uartQueueCapacity] at small
  cases ring with
  | receive =>
    have slab : uartHostRxData + slot < uartHostByteLength := by
      simp only [uartHostRxData, uartHostByteLength]
      omega
    exact storeUart_run slab value fun rings => view.symm ▸ rings
  | transmit =>
    have slab : uartHostTxData + slot < uartHostByteLength := by
      simp only [uartHostTxData, uartHostByteLength]
      omega
    exact storeUart_run slab value fun rings => view.symm ▸ rings

theorem publishUartTransmitLevel_run (nonempty : Bool) :
    DeviceRun memory (publishUartTransmitLevel memory nonempty) := by
  have slab : Confined [uartRegionId] memory (publishUartTransmitLevel memory nonempty) := by
    refine .store32 (fun offset small => ?_) _
    rw [uartByteIndex, Nat.add_assoc]
    refine inRegions_uart (by decide) ?_
    simp only [uartHostTxWake, uartHostByteLength]
    omega
  refine .single (.uart slab.changes fun rings => ?_)
  rw [uartView_publishTransmit]
  exact rings

theorem refreshUartIrq_run : DeviceRun memory (refreshUartIrq memory) := .single (.drive _ _)

/-! The rings. -/

theorem popReceive_run : DeviceRun memory (popReceive memory).2 := by
  simp only [popReceive]
  split
  · exact .refl
  · exact storeMetaByte_run (by decide) _

theorem enqueueReceive_run (rings : (uartView memory).RingsValid) (value : BitVec 8) :
    DeviceRun memory (enqueueReceive memory value).2 := by
  simp only [enqueueReceive]
  split
  · exact .refl
  · exact (setSlot_run .receive rings.rxTail value).trans (storeMetaByte_run (by decide) _)

theorem pushTransmit_run (rings : (uartView memory).RingsValid) (value : BitVec 8) :
    DeviceRun memory (pushTransmit memory value).2 := by
  simp only [pushTransmit]
  split
  · exact .refl
  · exact ((setSlot_run .transmit rings.txTail value).trans (storeMetaByte_run (by decide) _)).trans
      (publishUartTransmitLevel_run true)

theorem dequeueTransmit_run (popped : dequeueTransmit memory = some (dequeued, after)) : DeviceRun memory after := by
  simp only [dequeueTransmit] at popped
  split at popped
  · cases popped
  · cases popped
    exact (storeMetaByte_run (by decide) _).trans (publishUartTransmitLevel_run _)

/-! The terminal. -/

theorem pushUartReceive_run (rings : (uartView memory).RingsValid) (value : BitVec 8) :
    DeviceRun memory (pushUartReceive memory value).2 := by
  have enqueued := enqueueReceive_run rings value
  simp only [pushUartReceive]
  split
  · exact enqueued
  · exact enqueued.trans refreshUartIrq_run

theorem armThreIrqOnRisingEdge_run (threBefore threAfter : Bool) :
    DeviceRun memory (armThreIrqOnRisingEdge memory threBefore threAfter) := by
  simp only [armThreIrqOnRisingEdge]
  split
  · exact .refl
  split
  · exact setThreIrqSticky_run true
  · exact .refl

theorem popUartTransmit_run : DeviceRun memory (popUartTransmit memory).2 := by
  simp only [popUartTransmit]
  split
  · exact .refl
  · rename_i popped
    exact ((dequeueTransmit_run popped).trans (armThreIrqOnRisingEdge_run _ _)).trans refreshUartIrq_run

/-! The guest. -/

theorem loadUartRegister_run (registerIndex : Nat) : DeviceRun memory (loadUartRegister memory registerIndex).2 := by
  simp only [loadUartRegister]
  split
  · exact popReceive_run.trans refreshUartIrq_run
  split
  · split
    · exact (setThreIrqSticky_run false).trans refreshUartIrq_run
    · exact .refl
  split <;> exact .refl

theorem armThreIrqIfEnabledAndReady_run : DeviceRun memory (armThreIrqIfEnabledAndReady memory) := by
  simp only [armThreIrqIfEnabledAndReady]
  split
  · exact setThreIrqSticky_run true
  · exact .refl

theorem storeUartRegister_run (current : DevicesCurrent memory) (inside : registerIndex < uartGuestByteLength)
    (value : BitVec 8) : DeviceRun memory (storeUartRegister memory registerIndex value) := by
  simp only [storeUartRegister]
  split
  · have cleared : DeviceRun memory (setThreIrqSticky memory false) := setThreIrqSticky_run false
    exact (cleared.trans (pushTransmit_run (current.reached cleared).rings value)).trans refreshUartIrq_run
  split
  · exact .refl
  · have stored : DeviceRun memory (storeUartRegisterByte memory registerIndex value) :=
      storeUartRegisterByte_run inside value
    split
    · exact (stored.trans armThreIrqIfEnabledAndReady_run).trans refreshUartIrq_run
    · exact stored

theorem loadBytesFromUart_run (destination : Bytes8) (offset byteLength : Nat) :
    DeviceRun memory (loadBytesFromUart memory destination offset byteLength).2 := by
  refine forEachIndex_preserves (fun reached : Bytes8 × Memory => DeviceRun memory reached.2) .refl
    fun byteIndex _ reached run => ?_
  rw [loadUartTurn_effect]
  split
  · exact run.trans (loadUartRegister_run _)
  · exact run

theorem storeBytesToUart_run (current : DevicesCurrent memory) (offset : Nat) (source : Bytes8) (byteLength : Nat) :
    DeviceRun memory (storeBytesToUart memory offset source byteLength) := by
  refine forEachIndex_preserves (fun reached => DeviceRun memory reached) .refl fun byteIndex _ reached run => ?_
  simp only [storeUartTurn]
  split
  · rename_i inside
    exact run.trans (storeUartRegister_run (current.reached run) inside _)
  · exact run

end YaRiscV.Emulator
