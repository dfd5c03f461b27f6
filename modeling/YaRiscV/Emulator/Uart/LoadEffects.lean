import YaRiscV.Emulator.Confinement
import YaRiscV.Emulator.Plic.Quiescence

/-! What loads of UART registers change: RBR pops the receive ring and IIR clears the sticky
transmit interrupt, each with its interrupt line. -/

namespace YaRiscV.Emulator

open YaRiscV.Library YaRiscV.Utils

variable {memory middle : Memory}

theorem setPlicSourcePending_worker (valid : isValidSource source = true) (level : Bool) :
    (setPlicSourcePending memory source level).worker = memory.worker := by
  rw [setPlicSourcePending_eq valid]
  exact withPlicGatewayLock_worker fun _ => refreshAllContextWires_worker.trans sourceDriven_worker

theorem refreshUartIrq_layout : (refreshUartIrq memory).layout = memory.layout :=
  Confined.layout setPlicSourcePending_confined

/-- Refreshing the interrupt leaves the UART slab alone. -/
theorem refreshUartIrq_uart (memory : Memory) (offset : Nat) (inside : offset < uartHostByteLength) :
    (refreshUartIrq memory).bytes (uartByteIndex (refreshUartIrq memory) offset) =
      memory.bytes (uartByteIndex memory offset) := by
  have confined : Confined plicReach memory (refreshUartIrq memory) := setPlicSourcePending_confined
  rw [uartByteIndex, uartByteIndex, confined.layout]
  refine confined.bytes memory.layout.uartFound (by decide) (Nat.le_add_right _ _) ?_
  simpa [MappedRegion.toRegion, memory.layout.uartLength] using inside

theorem refreshUartIrq_self_iff : refreshUartIrq memory = memory ↔
    SourceSettled memory plicSourceUart (readInterruptIdentity memory != iirNoInterrupt) :=
  setPlicSourcePending_self_iff (by decide) _

/-- The registers whose loads have an effect are RBR and IIR. -/
theorem loadUartRegister_other (receive : registerIndex ≠ 0) (identity : registerIndex ≠ 2) :
    (loadUartRegister memory registerIndex).2 = memory := by
  simp only [loadUartRegister, receive, identity, false_and, if_false]
  split <;> rfl

theorem loadUartTurn_effect (offset byteIndex : Nat) (state : Bytes8 × Memory) :
    (loadUartTurn offset byteIndex state).2 =
      if offset + byteIndex = 0 ∨ offset + byteIndex = 2 then (loadUartRegister state.2 (offset + byteIndex)).2
      else state.2 := by
  obtain ⟨destination, memory⟩ := state
  simp only [loadUartTurn]
  by_cases effective : offset + byteIndex = 0 ∨ offset + byteIndex = 2
  · have inside : offset + byteIndex < uartGuestByteLength := by
      unfold uartGuestByteLength
      omega
    rw [if_pos inside, if_pos effective]
  · rw [if_neg effective]
    split
    · exact loadUartRegister_other (by omega) (by omega)
    · rfl

/-- What four loads in a row from register `offset` leave. -/
theorem loadBytesFromUart_effect (destination : Bytes8) (offset : Nat) :
    (loadBytesFromUart memory destination offset 4).2 =
      if offset = 0 then (loadUartRegister (loadUartRegister memory 0).2 2).2
      else if offset ≤ 2 then (loadUartRegister memory 2).2
      else memory := by
  simp only [loadBytesFromUart, forEachIndex, loadUartTurn_effect]
  by_cases receive : offset = 0
  · subst receive
    rfl
  by_cases first : offset = 1
  · subst first
    rfl
  by_cases second : offset = 2
  · subst second
    rfl
  · rw [if_neg (by omega), if_neg (by omega), if_neg (by omega), if_neg (by omega), if_neg receive, if_neg (by omega)]

/-- The state in which four loads from register `offset` change nothing. -/
structure UartLoadSettled (memory : Memory) (offset : Nat) : Prop where
  receive : offset = 0 → uartRegisterByte memory 3 &&& lcrDlab = 0 →
    metaByte memory metaRxHead = metaByte memory metaRxTail ∧
      SourceSettled memory plicSourceUart (readInterruptIdentity memory != iirNoInterrupt)
  identity : offset ≤ 2 → readInterruptIdentity memory ≠ iirThre

theorem loadUartRegister_identity_settled (settled : readInterruptIdentity memory ≠ iirThre) :
    (loadUartRegister memory 2).2 = memory := by
  simp [loadUartRegister, settled]

/-- A load of IIR that finds THRE clears the sticky byte, which was set. -/
theorem loadUartRegister_identity_clears (thre : readInterruptIdentity memory = iirThre) :
    memory.bytes (uartByteIndex memory threIrqStickyRegister) ≠ 0 ∧
      (loadUartRegister memory 2).2.bytes (uartByteIndex memory threIrqStickyRegister) = 0 := by
  constructor
  · have sticky : threIrqSticky memory = true := by
      simp only [readInterruptIdentity] at thre
      split at thre
      · cases thre
      split at thre
      · rename_i enabled
        exact enabled.2.1
      · cases thre
    simpa [threIrqSticky, registerHostIndex] using sticky
  · have effect : (loadUartRegister memory 2).2 = refreshUartIrq (setThreIrqSticky memory false) := by
      simp [loadUartRegister, thre]
    have kept := refreshUartIrq_uart (setThreIrqSticky memory false) threIrqStickyRegister
      (by decide)
    rw [uartByteIndex, refreshUartIrq_layout] at kept
    rw [effect]
    refine kept.trans ?_
    simp [setThreIrqSticky, Memory.store_bytes, registerHostIndex, uartByteIndex]

/-- A load of IIR leaves the rest of the UART slab alone. -/
theorem loadUartRegister_identity_other (memory : Memory) (offset : Nat) (inside : offset < uartHostByteLength)
    (other : offset ≠ threIrqStickyRegister) :
    (loadUartRegister memory 2).2.bytes (uartByteIndex memory offset) = memory.bytes (uartByteIndex memory offset) := by
  by_cases thre : readInterruptIdentity memory = iirThre
  · have effect : (loadUartRegister memory 2).2 = refreshUartIrq (setThreIrqSticky memory false) := by
      simp [loadUartRegister, thre]
    have kept := refreshUartIrq_uart (setThreIrqSticky memory false) offset inside
    rw [uartByteIndex, refreshUartIrq_layout] at kept
    rw [effect]
    refine kept.trans ?_
    simp [setThreIrqSticky, Memory.store_bytes, registerHostIndex, uartByteIndex, other]
  · rw [loadUartRegister_identity_settled thre]

/-- A load of IIR keeps the buffer exactly if THRE is not what it identifies. -/
theorem loadUartRegister_identity_bytes_iff :
    (loadUartRegister memory 2).2.bytes = memory.bytes ↔ readInterruptIdentity memory ≠ iirThre := by
  constructor
  · intro same thre
    obtain ⟨set, cleared⟩ := loadUartRegister_identity_clears thre
    rw [same] at cleared
    exact set cleared
  · intro settled
    rw [loadUartRegister_identity_settled settled]

theorem loadUartRegister_receive (clear : uartRegisterByte memory 3 &&& lcrDlab = 0) :
    (loadUartRegister memory 0).2 = refreshUartIrq (popReceive memory).2 := by
  simp [loadUartRegister, clear]

theorem loadUartRegister_divisor (set : uartRegisterByte memory 3 &&& lcrDlab ≠ 0) :
    (loadUartRegister memory 0).2 = memory := by
  have dlab : (uartRegisterByte memory 3 &&& lcrDlab != 0) = true := by simpa using set
  simp only [loadUartRegister, dlab]
  rfl

/-- Popping from a nonempty ring moves its head. -/
theorem popReceive_moves (nonempty : metaByte memory metaRxHead ≠ metaByte memory metaRxTail) :
    (popReceive memory).2.bytes (metaIndex memory metaRxHead) ≠ memory.bytes (metaIndex memory metaRxHead) := by
  have popped : (popReceive memory).2 = storeMetaByte memory metaRxHead
      ((metaByte memory metaRxHead + 1) % uartQueueCapacity) := by
    simp only [popReceive, nonempty, if_false]
  rw [popped, storeMetaByte, Memory.store_bytes, if_pos rfl]
  intro same
  have head := congrArg BitVec.toNat same
  rw [BitVec.toNat_ofNat, Nat.mod_eq_of_lt (by simp only [uartQueueCapacity]; omega)] at head
  simp only [metaByte, uartQueueCapacity] at head
  omega

/-- Refreshing with nothing popped, followed by a load of IIR. -/
private theorem refresh_identity_bytes
    (same : (loadUartRegister (refreshUartIrq memory) 2).2.bytes = memory.bytes) :
    readInterruptIdentity (refreshUartIrq memory) ≠ iirThre := by
  intro thre
  obtain ⟨set, cleared⟩ := loadUartRegister_identity_clears thre
  rw [same] at cleared
  rw [refreshUartIrq_uart _ _ (by decide)] at set
  rw [uartByteIndex, refreshUartIrq_layout] at cleared
  exact set cleared

theorem refreshUartIrq_of_bytes (same : (refreshUartIrq memory).bytes = memory.bytes) :
    refreshUartIrq memory = memory :=
  Memory.ext refreshUartIrq_layout same (setPlicSourcePending_worker (by decide) _)

/-- If RBR and then IIR are loaded and the buffer is as before, the ring was empty and the
interrupt settled. -/
theorem loadUartRegister_receive_settled (clear : uartRegisterByte memory 3 &&& lcrDlab = 0)
    (same : (loadUartRegister (loadUartRegister memory 0).2 2).2.bytes = memory.bytes) :
    metaByte memory metaRxHead = metaByte memory metaRxTail ∧
      SourceSettled memory plicSourceUart (readInterruptIdentity memory != iirNoInterrupt) := by
  rw [loadUartRegister_receive clear] at same
  have empty : metaByte memory metaRxHead = metaByte memory metaRxTail := by
    by_contra nonempty
    have layout : (popReceive memory).2.layout = memory.layout := by
      simp only [popReceive, nonempty, if_false]
      rfl
    have refreshed : (refreshUartIrq (popReceive memory).2).layout = memory.layout :=
      refreshUartIrq_layout.trans layout
    refine popReceive_moves nonempty ?_
    have kept := refreshUartIrq_uart (popReceive memory).2 (uartHostMeta + metaRxHead) (by decide)
    have later := loadUartRegister_identity_other (refreshUartIrq (popReceive memory).2)
      (uartHostMeta + metaRxHead) (by decide) (by decide)
    rw [same, kept] at later
    rw [uartByteIndex, uartByteIndex, refreshed, layout] at later
    exact later.symm
  have unpopped : (popReceive memory).2 = memory := by
    simp only [popReceive, empty, if_true]
  rw [unpopped] at same
  rw [loadUartRegister_identity_settled (refresh_identity_bytes same)] at same
  exact ⟨empty, refreshUartIrq_self_iff.mp (refreshUartIrq_of_bytes same)⟩

theorem loadUartRegister_receive_self (clear : uartRegisterByte memory 3 &&& lcrDlab = 0)
    (empty : metaByte memory metaRxHead = metaByte memory metaRxTail)
    (settled : SourceSettled memory plicSourceUart (readInterruptIdentity memory != iirNoInterrupt)) :
    (loadUartRegister memory 0).2 = memory := by
  have unpopped : (popReceive memory).2 = memory := by
    simp only [popReceive, empty, if_true]
  rw [loadUartRegister_receive clear, unpopped]
  exact refreshUartIrq_self_iff.mpr settled

/-- Four loads keep the buffer exactly where each register they meet has nothing to do. -/
theorem loadBytesFromUart_bytes_iff (destination : Bytes8) (offset : Nat) :
    (loadBytesFromUart memory destination offset 4).2.bytes = memory.bytes ↔ UartLoadSettled memory offset := by
  rw [loadBytesFromUart_effect]
  by_cases first : offset = 0
  · rw [if_pos first]
    constructor
    · intro same
      have receive : uartRegisterByte memory 3 &&& lcrDlab = 0 →
          metaByte memory metaRxHead = metaByte memory metaRxTail ∧
            SourceSettled memory plicSourceUart (readInterruptIdentity memory != iirNoInterrupt) :=
        fun clear => loadUartRegister_receive_settled clear same
      have untouched : (loadUartRegister memory 0).2 = memory := by
        by_cases clear : uartRegisterByte memory 3 &&& lcrDlab = 0
        · exact loadUartRegister_receive_self clear (receive clear).1 (receive clear).2
        · exact loadUartRegister_divisor clear
      rw [untouched] at same
      exact ⟨fun _ => receive, fun _ => loadUartRegister_identity_bytes_iff.mp same⟩
    · intro settled
      have untouched : (loadUartRegister memory 0).2 = memory := by
        by_cases clear : uartRegisterByte memory 3 &&& lcrDlab = 0
        · obtain ⟨empty, source⟩ := settled.receive first clear
          exact loadUartRegister_receive_self clear empty source
        · exact loadUartRegister_divisor clear
      rw [untouched, loadUartRegister_identity_settled (settled.identity (by omega))]
  · rw [if_neg first]
    by_cases second : offset ≤ 2
    · rw [if_pos second, loadUartRegister_identity_bytes_iff]
      exact ⟨fun settled => ⟨fun zero => absurd zero first, fun _ => settled⟩, fun settled => settled.identity second⟩
    · rw [if_neg second]
      exact ⟨fun _ => ⟨fun zero => absurd zero first, fun small => absurd small second⟩, fun _ => rfl⟩

end YaRiscV.Emulator
