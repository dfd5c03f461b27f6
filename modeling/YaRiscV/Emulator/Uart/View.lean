import YaRiscV.Emulator.Uart.Console
import YaRiscV.Emulator.Uart.LoadEffects

/-! What the UART interrupt is a function of, and what each access does to it and to the
input level it drives at the PLIC. -/

namespace YaRiscV.Emulator

open YaRiscV.Library YaRiscV.Utils

/-- The registers and ring indices behind the interrupt. -/
structure UartView where
  ier : BitVec 8
  lcr : BitVec 8
  sticky : Bool
  rxHead : Nat
  rxTail : Nat
  txHead : Nat
  txTail : Nat
  deriving DecidableEq, Repr

def uartView (memory : Memory) : UartView where
  ier := uartRegisterByte memory 1
  lcr := uartRegisterByte memory 3
  sticky := threIrqSticky memory
  rxHead := metaByte memory metaRxHead
  rxTail := metaByte memory metaRxTail
  txHead := metaByte memory metaTxHead
  txTail := metaByte memory metaTxTail

/-- Every ring index is one of the 16 slots. -/
structure UartView.RingsValid (view : UartView) : Prop where
  rxHead : view.rxHead < uartQueueCapacity
  rxTail : view.rxTail < uartQueueCapacity
  txHead : view.txHead < uartQueueCapacity
  txTail : view.txTail < uartQueueCapacity

/-- Received data, or room to transmit that was announced, with its interrupt enabled. -/
def UartView.Interrupts (view : UartView) : Prop :=
  view.ier &&& ierErbfi ≠ 0 ∧ view.rxHead ≠ view.rxTail ∨
    view.ier &&& ierEtbei ≠ 0 ∧ view.sticky = true ∧ queueIsFull view.txHead view.txTail = false

/-- The input level of the UART's source at the PLIC. -/
def uartInputLevel (memory : Memory) : Bool :=
  isSourceBitSet memory plicHostInputLevel plicSourceUart

variable {memory after : Memory} {ids : List String}

/-! The view reads the registers and indices of the slab only. -/

theorem uartView_congr
    (same : ∀ offset < 12, after.bytes (uartByteIndex after offset) = memory.bytes (uartByteIndex memory offset)) :
    uartView after = uartView memory := by
  have register (index : Nat) (inside : index < 8) : uartRegisterByte after index = uartRegisterByte memory index :=
    same _ (by simp only [uartHostRegisters]; omega)
  have ring (offset : Nat) (inside : offset < 4) : metaByte after offset = metaByte memory offset :=
    congrArg BitVec.toNat (same _ (by simp only [uartHostMeta]; omega))
  have sticky : threIrqSticky after = threIrqSticky memory :=
    congrArg (· != 0) (register threIrqStickyRegister (by decide))
  rw [uartView, uartView, register 1 (by decide), register 3 (by decide), sticky, ring metaRxHead (by decide),
    ring metaRxTail (by decide), ring metaTxHead (by decide), ring metaTxTail (by decide)]

theorem uartView_changes (changes : ChangesOnly (InRegions memory.layout ids) memory after)
    (other : uartRegionId ∉ ids) : uartView after = uartView memory := by
  refine uartView_congr fun offset small => ?_
  rw [uartByteIndex, uartByteIndex, changes.layout]
  refine changes.bytes _ fun inside => ?_
  have apart := inside.apart memory.layout.uartFound other
  simp only [MappedRegion.toRegion, memory.layout.uartLength, uartHostByteLength] at apart
  omega

theorem uartInputLevel_changes (changes : ChangesOnly (InRegions memory.layout ids) memory after)
    (other : plicRegionId ∉ ids) : uartInputLevel after = uartInputLevel memory := by
  have same : after.bytes (plicHostIndexForSourceBit memory plicHostInputLevel plicSourceUart) =
      memory.bytes (plicHostIndexForSourceBit memory plicHostInputLevel plicSourceUart) := by
    refine changes.bytes _ fun inside => ?_
    have apart := inside.apart memory.layout.plicFound other
    have shifted : plicSourceUart >>> 3 = 1 := rfl
    simp only [MappedRegion.toRegion, memory.layout.plicLength, plicHostIndexForSourceBit, plicHostIndex, shifted,
      plicHostByteLength, plicHostInputLevel, plicHostClaimedByS, plicHostClaimedByM, plicHostThresholdS,
      plicHostThresholdM, plicHostEnableS, plicHostEnableM, plicHostPending, plicHostPriorityCount] at apart
    omega
  rw [plicHostIndexForSourceBit, plicHostIndex] at same
  rw [uartInputLevel, uartInputLevel, isSourceBitSet, isSourceBitSet, plicHostIndexForSourceBit,
    plicHostIndexForSourceBit, plicHostIndex, plicHostIndex, changes.layout, atomicLoadBit, atomicLoadBit, same]

/-- A write inside the UART slab leaves the input level alone. -/
theorem uartInputLevel_confined (confined : Confined [uartRegionId] memory after) :
    uartInputLevel after = uartInputLevel memory :=
  uartInputLevel_changes confined.changes (by decide)

theorem uart_stored (inside : offset < uartHostByteLength) (value : BitVec 8) :
    uartInputLevel (memory.store (uartByteIndex memory offset) value) = uartInputLevel memory :=
  uartInputLevel_confined (.store (inRegions_uart (by decide) inside) value)

/-! Accesses to registers. -/

theorem uartRegisterByte_store (stored index : Nat) (value : BitVec 8) :
    uartRegisterByte (storeUartRegisterByte memory stored value) index =
      if stored = index then value else uartRegisterByte memory index := by
  rw [uartRegisterByte, storeUartRegisterByte, Memory.store_bytes]
  by_cases same : stored = index
  · subst same
    exact (if_pos rfl).trans (if_pos rfl).symm
  · rw [if_neg same]
    refine if_neg ?_
    simp only [registerHostIndex, uartByteIndex, Memory.store_layout, uartHostRegisters]
    omega

theorem metaByte_storeRegister (inside : stored < 8) (offset : Nat) (value : BitVec 8) :
    metaByte (storeUartRegisterByte memory stored value) offset = metaByte memory offset := by
  rw [metaByte, storeUartRegisterByte, Memory.store_bytes]
  refine congrArg BitVec.toNat (if_neg ?_)
  simp only [registerHostIndex, metaIndex, uartByteIndex, Memory.store_layout, uartHostRegisters, uartHostMeta]
  omega

/-- What a stored register byte does to the view. -/
theorem uartView_storeRegister (memory : Memory) (inside : stored < 8) (value : BitVec 8) :
    uartView (storeUartRegisterByte memory stored value) = { uartView memory with
      ier := if stored = 1 then value else (uartView memory).ier
      lcr := if stored = 3 then value else (uartView memory).lcr
      sticky := if stored = threIrqStickyRegister then value != 0 else (uartView memory).sticky } := by
  have sticky : threIrqSticky (storeUartRegisterByte memory stored value) =
      if stored = threIrqStickyRegister then value != 0 else threIrqSticky memory := by
    refine (congrArg (· != 0) (uartRegisterByte_store stored threIrqStickyRegister value)).trans ?_
    split <;> rfl
  simp only [uartView, uartRegisterByte_store, metaByte_storeRegister inside, sticky]

@[simp] theorem uartView_setThreIrqSticky (value : Bool) :
    uartView (setThreIrqSticky memory value) = { uartView memory with sticky := value } := by
  have stored : setThreIrqSticky memory value =
      storeUartRegisterByte memory threIrqStickyRegister (if value then 1 else 0) := rfl
  rw [stored, uartView_storeRegister memory (by decide)]
  cases value <;> rfl

@[simp] theorem uartInputLevel_setThreIrqSticky (value : Bool) :
    uartInputLevel (setThreIrqSticky memory value) = uartInputLevel memory :=
  uart_stored (by decide) _

theorem uartInputLevel_storeRegister (inside : stored < 8) (value : BitVec 8) :
    uartInputLevel (storeUartRegisterByte memory stored value) = uartInputLevel memory :=
  uart_stored (by simp only [uartHostRegisters, uartHostByteLength]; omega) value

/-! Accesses to the rings. -/

theorem uartRegisterByte_storeMeta (index : Nat) (inside : index < 8) (offset value : Nat) :
    uartRegisterByte (storeMetaByte memory offset value) index = uartRegisterByte memory index := by
  rw [uartRegisterByte, storeMetaByte, Memory.store_bytes]
  refine if_neg ?_
  simp only [registerHostIndex, metaIndex, uartByteIndex, Memory.store_layout, uartHostRegisters, uartHostMeta]
  omega

/-- What a stored ring index does to the view. -/
theorem uartView_storeMeta (offset : Nat) (small : value < 256) :
    uartView (storeMetaByte memory offset value) = { uartView memory with
      rxHead := if offset = metaRxHead then value else (uartView memory).rxHead
      rxTail := if offset = metaRxTail then value else (uartView memory).rxTail
      txHead := if offset = metaTxHead then value else (uartView memory).txHead
      txTail := if offset = metaTxTail then value else (uartView memory).txTail } := by
  have ring (read : Nat) : metaByte (storeMetaByte memory offset value) read =
      if offset = read then value else metaByte memory read := by
    split
    · rename_i same
      rw [same]
      exact metaByte_storeMetaByte _ _ small
    · rename_i other
      exact metaByte_storeMetaByte_other _ (Ne.symm other)
  have sticky : threIrqSticky (storeMetaByte memory offset value) = threIrqSticky memory :=
    congrArg (· != 0) (uartRegisterByte_storeMeta threIrqStickyRegister (by decide) offset value)
  simp only [uartView, ring, sticky, uartRegisterByte_storeMeta 1 (by decide),
    uartRegisterByte_storeMeta 3 (by decide)]

theorem uartInputLevel_storeMeta (inside : offset < 4) (value : Nat) :
    uartInputLevel (storeMetaByte memory offset value) = uartInputLevel memory :=
  uart_stored (by simp only [uartHostMeta, uartHostByteLength]; omega) _

/-- Bytes behind the indices are not part of the view. -/
theorem uartView_setElement (data : 12 ≤ offset) (value : BitVec 8) :
    uartView (memory.setElement (uartByteIndex memory offset) value) = uartView memory := by
  rw [Memory.setElement]
  split
  · refine uartView_congr fun other small => ?_
    rw [Memory.store_bytes]
    refine if_neg ?_
    simp only [uartByteIndex, Memory.store_layout]
    omega
  · rfl

@[simp] theorem uartView_setReceived (slot : Nat) (value : BitVec 8) :
    uartView (memory.setElement (rxDataIndex memory slot) value) = uartView memory :=
  uartView_setElement (Nat.le_add_right _ _) value

@[simp] theorem uartView_setTransmitted (slot : Nat) (value : BitVec 8) :
    uartView (memory.setElement (txDataIndex memory slot) value) = uartView memory :=
  uartView_setElement (Nat.le_trans (by decide) (Nat.le_add_right uartHostTxData slot)) value

theorem uartInputLevel_setElement (inside : offset < uartHostByteLength) (value : BitVec 8) :
    uartInputLevel (memory.setElement (uartByteIndex memory offset) value) = uartInputLevel memory :=
  uartInputLevel_confined (.setElement (inRegions_uart (by decide) inside) value)

@[simp] theorem uartView_publishTransmit (nonempty : Bool) :
    uartView (publishUartTransmitLevel memory nonempty) = uartView memory := by
  refine uartView_congr fun offset small => ?_
  refine Memory.store32_outside _ ?_
  simp only [publishUartTransmitLevel, publishWakeLevel, uartByteIndex, Memory.store32_layout, uartHostTxWake]
  omega

@[simp] theorem uartInputLevel_publishTransmit (nonempty : Bool) :
    uartInputLevel (publishUartTransmitLevel memory nonempty) = uartInputLevel memory := by
  refine uartInputLevel_confined (.store32 (fun offset small => ?_) _)
  rw [uartByteIndex, Nat.add_assoc]
  refine inRegions_uart (by decide) ?_
  simp only [uartHostTxWake, uartHostByteLength]
  omega

/-! The interrupt. -/

@[simp] theorem uartView_setPlicSourcePending (level : Bool) :
    uartView (setPlicSourcePending memory source level) = uartView memory :=
  uartView_changes setPlicSourcePending_confined.changes (by decide)

@[simp] theorem uartInputLevel_setPlicSourcePending (level : Bool) :
    uartInputLevel (setPlicSourcePending memory plicSourceUart level) = level :=
  (setPlicSourcePending_settled (by decide) level).latched.input

@[simp] theorem uartView_refresh : uartView (refreshUartIrq memory) = uartView memory :=
  uartView_setPlicSourcePending _

@[simp] theorem uartInputLevel_refresh :
    uartInputLevel (refreshUartIrq memory) = (readInterruptIdentity memory != iirNoInterrupt) :=
  uartInputLevel_setPlicSourcePending _

theorem readLineStatus_congr (same : uartView after = uartView memory) :
    readLineStatus after = readLineStatus memory := by
  simp only [uartView, UartView.mk.injEq] at same
  obtain ⟨_, _, _, rxHead, rxTail, txHead, txTail⟩ := same
  rw [readLineStatus, readLineStatus, rxHead, rxTail, txHead, txTail]

theorem readInterruptIdentity_congr (same : uartView after = uartView memory) :
    readInterruptIdentity after = readInterruptIdentity memory := by
  have status := readLineStatus_congr same
  simp only [uartView, UartView.mk.injEq] at same
  obtain ⟨ier, _, sticky, _⟩ := same
  rw [readInterruptIdentity, readInterruptIdentity, status, ier, sticky]

theorem queueLength_pos (head : rxHead < uartQueueCapacity) (tail : rxTail < uartQueueCapacity) :
    queueLength rxHead rxTail > 0 ↔ rxHead ≠ rxTail := by
  simp only [uartQueueCapacity] at head tail
  have nonneg : (0 : Int) ≤ (rxTail : Int) - rxHead + 16 := by omega
  rw [queueLength, uartQueueCapacity]
  change Int.tmod ((rxTail : Int) - rxHead + 16) 16 > 0 ↔ _
  rw [Int.tmod_eq_emod_of_nonneg nonneg]
  omega

theorem readLineStatus_dataReady (rings : (uartView memory).RingsValid) :
    readLineStatus memory &&& lsrDr ≠ 0 ↔ metaByte memory metaRxHead ≠ metaByte memory metaRxTail := by
  refine Iff.trans ?_ (queueLength_pos rings.rxHead rings.rxTail)
  rw [readLineStatus]
  repeat' split
  all_goals simp_all [lsrDr, lsrThre, lsrTemt]

theorem readLineStatus_room (memory : Memory) : readLineStatus memory &&& lsrThre ≠ 0 ↔
    queueIsFull (metaByte memory metaTxHead) (metaByte memory metaTxTail) = false := by
  rw [readLineStatus]
  repeat' split
  all_goals simp_all [lsrDr, lsrThre, lsrTemt]

theorem readInterruptIdentity_iff (rings : (uartView memory).RingsValid) :
    readInterruptIdentity memory ≠ iirNoInterrupt ↔ (uartView memory).Interrupts := by
  have received := readLineStatus_dataReady rings
  have room := readLineStatus_room memory
  simp only [readInterruptIdentity, received, room]
  split
  · rename_i pending
    exact ⟨fun _ => .inl pending, fun _ => by decide⟩
  · rename_i unreceived
    split
    · rename_i announced
      exact ⟨fun _ => .inr announced, fun _ => by decide⟩
    · rename_i unannounced
      refine ⟨fun other => absurd rfl other, ?_⟩
      rintro (pending | announced)
      · exact absurd pending unreceived
      · exact absurd announced unannounced

end YaRiscV.Emulator
