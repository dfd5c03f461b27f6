import YaRiscV.Library.Latch
import YaRiscV.Emulator.MonitorOperations
import YaRiscV.Emulator.Uart.View

/-! The UART interrupt as a law over histories: what the input level of source 10 is after
any sequence of guest accesses and terminal operations, each taken whole. -/

namespace YaRiscV.Emulator

open YaRiscV.Library YaRiscV.Utils

/-- One access to a register, or one operation of the terminal. -/
inductive UartEvent where
  | loaded (registerIndex : Nat) (value : BitVec 8)
  | stored (registerIndex : Nat) (value : BitVec 8) (room : Bool)
  | received (accepted : Bool)
  | popped (full etbei : Bool)
  deriving DecidableEq, Repr

/-- ETBEI stored while there is room, or a pop from a full ring with ETBEI set. -/
def UartEvent.Arms : UartEvent → Prop
  | .stored registerIndex value room => registerIndex = 1 ∧ value &&& ierEtbei ≠ 0 ∧ room = true
  | .popped full etbei => full = true ∧ etbei = true
  | _ => False

/-- A store to THR, or a load of IIR that gives THRE. -/
def UartEvent.Clears : UartEvent → Prop
  | .loaded registerIndex value => registerIndex = 2 ∧ value = iirThre
  | .stored registerIndex _ _ => registerIndex = 0
  | _ => False

/-- The room to transmit was announced and not acknowledged since. -/
def Announced (history : List UartEvent) : Prop :=
  SetSince UartEvent.Arms UartEvent.Clears history

def transmitRoom (memory : Memory) : Bool :=
  !queueIsFull (txHead memory) (txTail memory)

/-- The registers that a load of `byteLength` bytes meets, each as it finds the memory. -/
def uartLoadEvents (memory : Memory) (offset : Nat) : Nat → List UartEvent
  | 0 => []
  | count + 1 =>
    let (_, before) := loadBytesFromUart memory 0 offset count
    uartLoadEvents memory offset count ++
      if offset + count < uartGuestByteLength then
        [.loaded (offset + count) (loadUartRegister before (offset + count)).1]
      else []

/-- The registers that a store of `byteLength` bytes meets, each as it finds the memory. -/
def uartStoreEvents (memory : Memory) (offset : Nat) (source : Bytes8) : Nat → List UartEvent
  | 0 => []
  | count + 1 =>
    let before := storeBytesToUart memory offset source count
    uartStoreEvents memory offset source count ++
      if offset + count < uartGuestByteLength then
        [.stored (offset + count) (byte source count) (transmitRoom before)]
      else []

/-- The store leaves the divisor latch unselected. -/
def DlabUnset (offset : Nat) (source : Bytes8) (byteLength : Nat) : Prop :=
  ∀ index < byteLength, offset + index = 3 → byte source index &&& lcrDlab = 0

/-- The slab and the input level are the same. -/
structure SameUart (before after : Memory) : Prop where
  layout : after.layout = before.layout
  bytes : ∀ offset < uartHostByteLength,
    after.bytes (uartByteIndex after offset) = before.bytes (uartByteIndex before offset)
  level : uartInputLevel after = uartInputLevel before

/-- A sequence of whole operations by any workers, with the history it leaves. -/
inductive UartRun (initial : Memory) : List UartEvent → Memory → Prop
  | start : UartRun initial [] initial
  | load {past : List UartEvent} {before after : Memory} {address value : Bytes8} {offset byteLength : Nat}
      (run : UartRun initial past before)
      (resolved : resolveGuestAddressToRegionAndOffset before.layout.table address = some (uartRegionId, offset))
      (loaded : loadBytes before address byteLength = .ok (value, after)) :
      UartRun initial (past ++ uartLoadEvents before offset byteLength) after
  | store {past : List UartEvent} {before after : Memory} {address source : Bytes8} {offset byteLength : Nat}
      (run : UartRun initial past before)
      (resolved : resolveGuestAddressToRegionAndOffset before.layout.table address = some (uartRegionId, offset))
      (unset : DlabUnset offset source byteLength)
      (stored : storeBytes before address source byteLength = .ok after) :
      UartRun initial (past ++ uartStoreEvents (invalidateOverlappingReservationsLocked
        (acquireMonitorLock before) address byteLength) offset source byteLength) after
  | receive {past : List UartEvent} {before : Memory} (run : UartRun initial past before) (value : BitVec 8) :
      UartRun initial (past ++ [.received (pushUartReceive before value).1]) (pushUartReceive before value).2
  | transmit {past : List UartEvent} {before : Memory} (run : UartRun initial past before) :
      UartRun initial (past ++ [.popped (!transmitRoom before) (uartRegisterByte before 1 &&& ierEtbei != 0)])
        (popUartTransmit before).2
  | elsewhere {past : List UartEvent} {before after : Memory} (run : UartRun initial past before)
      (same : SameUart before after) : UartRun initial past after

/-- A zeroed UART under an initialized PLIC. -/
structure UartStart (memory : Memory) : Prop where
  zeroed : ∀ offset < uartHostByteLength, memory.bytes (uartByteIndex memory offset) = 0
  initialized : ∃ created, memory = initializePlic created

/-- The sticky bit is the latch of the history, over valid rings with DLAB clear. -/
structure UartLatched (history : List UartEvent) (view : UartView) : Prop where
  rings : view.RingsValid
  dlab : view.lcr &&& lcrDlab = 0
  sticky : view.sticky = true ↔ Announced history

/-- The input level is driven from the registers and the latch. -/
structure UartCurrent (history : List UartEvent) (memory : Memory) : Prop where
  latched : UartLatched history (uartView memory)
  level : uartInputLevel memory = true ↔ (uartView memory).Interrupts

variable {memory after : Memory} {history : List UartEvent}

theorem UartLatched.refresh (latched : UartLatched history (uartView memory)) :
    UartCurrent history (refreshUartIrq memory) := by
  constructor
  · rw [uartView_refresh]
    exact latched
  · rw [uartInputLevel_refresh, uartView_refresh, bne_iff_ne]
    exact readInterruptIdentity_iff latched.rings

/-- An event that neither arms nor clears. -/
theorem UartLatched.skip {view : UartView} (latched : UartLatched history view) (unarmed : ¬ event.Arms)
    (kept : ¬ event.Clears) : UartLatched (history ++ [event]) view :=
  ⟨latched.rings, latched.dlab, latched.sticky.trans (setSince_other unarmed kept).symm⟩

theorem UartCurrent.skip (current : UartCurrent history memory) (unarmed : ¬ event.Arms) (kept : ¬ event.Clears) :
    UartCurrent (history ++ [event]) memory :=
  ⟨current.latched.skip unarmed kept, current.level⟩

theorem UartCurrent.of_view (current : UartCurrent history memory) (view : uartView after = uartView memory)
    (level : uartInputLevel after = uartInputLevel memory) : UartCurrent history after := by
  refine ⟨?_, ?_⟩
  · rw [view]
    exact current.latched
  · rw [view, level]
    exact current.level

theorem UartLatched.dlab_clear (latched : UartLatched history (uartView memory)) :
    uartRegisterByte memory 3 &&& lcrDlab = 0 :=
  latched.dlab

/-! What the rings do to the view. -/

private theorem wrapped (index : Nat) : (index + 1) % uartQueueCapacity < uartQueueCapacity :=
  Nat.mod_lt _ (by decide)

private theorem wrapped_byte (index : Nat) : (index + 1) % uartQueueCapacity < 256 :=
  Nat.lt_trans (wrapped index) (by decide)

theorem uartView_popReceive : uartView (popReceive memory).2 =
    if (uartView memory).rxHead = (uartView memory).rxTail then uartView memory
    else { uartView memory with rxHead := ((uartView memory).rxHead + 1) % uartQueueCapacity } := by
  rw [popReceive]
  change uartView (if (uartView memory).rxHead = (uartView memory).rxTail then _ else _ : BitVec 8 × Memory).2 = _
  split
  · rfl
  · exact uartView_storeMeta metaRxHead (wrapped_byte _)

theorem uartView_enqueueReceive (memory : Memory) (value : BitVec 8) : uartView (enqueueReceive memory value).2 =
    if queueIsFull (uartView memory).rxHead (uartView memory).rxTail then uartView memory
    else { uartView memory with rxTail := ((uartView memory).rxTail + 1) % uartQueueCapacity } := by
  rw [enqueueReceive]
  change uartView (if queueIsFull (uartView memory).rxHead (uartView memory).rxTail then _ else _ : Bool × Memory).2 = _
  split
  · rfl
  · refine (uartView_storeMeta metaRxTail (wrapped_byte _)).trans ?_
    rw [uartView_setReceived]
    rfl

theorem uartView_pushTransmit (value : BitVec 8) : uartView (pushTransmit memory value).2 =
    if queueIsFull (uartView memory).txHead (uartView memory).txTail then uartView memory
    else { uartView memory with txTail := ((uartView memory).txTail + 1) % uartQueueCapacity } := by
  rw [pushTransmit]
  change uartView (if queueIsFull (uartView memory).txHead (uartView memory).txTail then _ else _ : Bool × Memory).2 = _
  split
  · rfl
  · refine uartView_publishTransmit true |>.trans ((uartView_storeMeta metaTxTail (wrapped_byte _)).trans ?_)
    rw [uartView_setTransmitted]
    rfl

/-! Each access and each operation of the terminal. -/

theorem UartCurrent.loadRegister (current : UartCurrent history memory) (registerIndex : Nat) :
    UartCurrent (history ++ [.loaded registerIndex (loadUartRegister memory registerIndex).1])
      (loadUartRegister memory registerIndex).2 := by
  have latched := current.latched
  by_cases receive : registerIndex = 0
  · subst receive
    rw [loadUartRegister_receive latched.dlab]
    refine UartLatched.refresh (UartLatched.skip ?_ id fun clear => absurd clear.1 (by decide))
    rw [uartView_popReceive]
    split
    · exact latched
    · exact ⟨{ latched.rings with rxHead := wrapped _ }, latched.dlab, latched.sticky⟩
  by_cases identity : registerIndex = 2
  · subst identity
    by_cases thre : readInterruptIdentity memory = iirThre
    · have effect : loadUartRegister memory 2 = (iirThre, refreshUartIrq (setThreIrqSticky memory false)) := by
        simp [loadUartRegister, thre]
      rw [effect]
      refine UartLatched.refresh ?_
      rw [uartView_setThreIrqSticky]
      refine ⟨⟨latched.rings.1, latched.rings.2, latched.rings.3, latched.rings.4⟩, latched.dlab, ?_⟩
      have cleared : ¬ Announced (history ++ [.loaded 2 iirThre]) := setSince_clear id ⟨rfl, rfl⟩
      simpa using cleared
    · have effect : loadUartRegister memory 2 = (readInterruptIdentity memory, memory) := by
        simp [loadUartRegister, thre]
      rw [effect]
      exact current.skip id fun clear => thre clear.2
  · rw [loadUartRegister_other receive identity]
    exact current.skip id fun clear => identity clear.1

theorem uartView_armIfEnabledAndReady : uartView (armThreIrqIfEnabledAndReady memory) =
    if (uartView memory).ier &&& ierEtbei ≠ 0 ∧ transmitRoom memory = true then
      { uartView memory with sticky := true }
    else uartView memory := by
  have room : readLineStatus memory &&& lsrThre ≠ 0 ↔ transmitRoom memory = true := by
    rw [readLineStatus_room, transmitRoom, Bool.not_eq_true']
    rfl
  simp only [armThreIrqIfEnabledAndReady, room]
  change uartView (if (uartView memory).ier &&& ierEtbei ≠ 0 ∧ transmitRoom memory = true then _ else memory) = _
  split
  · exact uartView_setThreIrqSticky true
  · rfl

theorem transmitRoom_eq :
    transmitRoom memory = !queueIsFull (metaByte memory metaTxHead) (metaByte memory metaTxTail) := rfl

theorem transmitRoom_view : transmitRoom memory = !queueIsFull (uartView memory).txHead (uartView memory).txTail := rfl

/-- A store to THR acknowledges the room and takes some of it. -/
theorem UartCurrent.storeTransmit (current : UartCurrent history memory) (value : BitVec 8) (room : Bool) :
    UartCurrent (history ++ [.stored 0 value room]) (storeUartRegister memory 0 value) := by
  have latched := current.latched
  have effect : storeUartRegister memory 0 value =
      refreshUartIrq (pushTransmit (setThreIrqSticky memory false) value).2 := by
    simp [storeUartRegister, latched.dlab_clear]
  have cleared : ¬ Announced (history ++ [.stored 0 value room]) :=
    setSince_clear (fun arms => absurd arms.1 (by decide)) rfl
  rw [effect]
  refine UartLatched.refresh ?_
  rw [uartView_pushTransmit, uartView_setThreIrqSticky]
  split
  · exact ⟨{ latched.rings with }, latched.dlab, iff_of_false Bool.false_ne_true cleared⟩
  · exact ⟨{ latched.rings with txTail := wrapped _ }, latched.dlab, iff_of_false Bool.false_ne_true cleared⟩

/-- A store to IER announces the room there is, if it enables that interrupt. -/
theorem UartCurrent.storeEnable (current : UartCurrent history memory) (value : BitVec 8) :
    UartCurrent (history ++ [.stored 1 value (transmitRoom memory)]) (storeUartRegister memory 1 value) := by
  have latched := current.latched
  have effect : storeUartRegister memory 1 value =
      refreshUartIrq (armThreIrqIfEnabledAndReady (storeUartRegisterByte memory 1 value)) := by
    simp [storeUartRegister, latched.dlab_clear]
  have stored : uartView (storeUartRegisterByte memory 1 value) = { uartView memory with ier := value } :=
    uartView_storeRegister memory (by decide) value
  have room : transmitRoom (storeUartRegisterByte memory 1 value) = transmitRoom memory := by
    rw [transmitRoom_view, stored, transmitRoom_view]
  rw [effect]
  refine UartLatched.refresh ?_
  rw [uartView_armIfEnabledAndReady, stored, room]
  split
  · rename_i arms
    have announced : Announced (history ++ [.stored 1 value (transmitRoom memory)]) :=
      setSince_set ⟨rfl, arms⟩
    exact ⟨{ latched.rings with }, latched.dlab, iff_of_true rfl announced⟩
  · rename_i unarmed
    refine UartLatched.skip ?_ (fun arms => unarmed arms.2) (fun clear => absurd clear Nat.one_ne_zero)
    exact ⟨{ latched.rings with }, latched.dlab, latched.sticky⟩

/-- A store to any other register, which leaves the interrupt as it was. -/
theorem UartCurrent.storeOther (current : UartCurrent history memory) (transmit : registerIndex ≠ 0)
    (enable : registerIndex ≠ 1) (inside : registerIndex < uartGuestByteLength) (value : BitVec 8)
    (unset : registerIndex = 3 → value &&& lcrDlab = 0) (room : Bool) :
    UartCurrent (history ++ [.stored registerIndex value room]) (storeUartRegister memory registerIndex value) := by
  have latched := current.latched
  refine UartCurrent.skip ?_ (fun arms => enable arms.1) transmit
  simp only [storeUartRegister, transmit, enable, false_and, if_false]
  split
  · exact current
  · rename_i writable
    have sticky : registerIndex ≠ threIrqStickyRegister := fun same => writable (.inl same)
    have view := uartView_storeRegister memory inside value
    rw [if_neg enable, if_neg sticky] at view
    refine ⟨?_, ?_⟩
    · rw [view]
      refine ⟨{ latched.rings with }, ?_, latched.sticky⟩
      dsimp only
      split
      · rename_i lineControl
        exact unset lineControl
      · exact latched.dlab
    · rw [uartInputLevel_storeRegister inside, view]
      exact current.level

theorem UartCurrent.storeRegister (current : UartCurrent history memory) (inside : registerIndex < uartGuestByteLength)
    (value : BitVec 8) (unset : registerIndex = 3 → value &&& lcrDlab = 0) :
    UartCurrent (history ++ [.stored registerIndex value (transmitRoom memory)])
      (storeUartRegister memory registerIndex value) := by
  by_cases transmit : registerIndex = 0
  · rw [transmit]
    exact current.storeTransmit value _
  by_cases enable : registerIndex = 1
  · rw [enable]
    exact current.storeEnable value
  · exact current.storeOther transmit enable inside value unset _

theorem UartCurrent.receive (current : UartCurrent history memory) (value : BitVec 8) :
    UartCurrent (history ++ [.received (pushUartReceive memory value).1]) (pushUartReceive memory value).2 := by
  have latched := current.latched
  have view := uartView_enqueueReceive memory value
  rw [pushUartReceive]
  cases accepted : (enqueueReceive memory value).1 with
  | false =>
    have dropped : (enqueueReceive memory value).2 = memory := by
      rw [enqueueReceive] at accepted ⊢
      split at accepted
      · rename_i full
        exact congrArg Prod.snd (if_pos full)
      · cases accepted
    simp only [accepted, dropped]
    exact current.skip id id
  | true =>
    simp only [accepted]
    refine UartLatched.refresh (UartLatched.skip ?_ id id)
    rw [view]
    split
    · exact latched
    · exact ⟨{ latched.rings with rxTail := wrapped _ }, latched.dlab, latched.sticky⟩

/-- A slot freed in a full ring makes room. -/
theorem queueIsFull_freed {head tail : Nat} (full : queueIsFull head tail = true) :
    queueIsFull ((head + 1) % uartQueueCapacity) tail = false := by
  simp only [queueIsFull, uartQueueCapacity, beq_iff_eq, beq_eq_false_iff_ne] at full ⊢
  omega

theorem uartView_armOnRisingEdge (threBefore threAfter : Bool) :
    uartView (armThreIrqOnRisingEdge memory threBefore threAfter) =
      if threBefore = false ∧ threAfter = true ∧ (uartView memory).ier &&& ierEtbei ≠ 0 then
        { uartView memory with sticky := true }
      else uartView memory := by
  rw [armThreIrqOnRisingEdge]
  change uartView (if threBefore || !threAfter then memory
    else if (uartView memory).ier &&& ierEtbei ≠ 0 then _ else memory) = _
  cases threBefore <;> cases threAfter <;> simp
  split <;> simp

/-- A pop that freed a slot of a full ring announces the room. -/
theorem UartCurrent.transmit (current : UartCurrent history memory) :
    UartCurrent (history ++ [.popped (!transmitRoom memory) (uartRegisterByte memory 1 &&& ierEtbei != 0)])
      (popUartTransmit memory).2 := by
  have latched := current.latched
  by_cases empty : metaByte memory metaTxHead = metaByte memory metaTxTail
  · have nothing : dequeueTransmit memory = none := if_pos empty
    have head := latched.rings.txHead
    have room : transmitRoom memory = true := by
      simp only [uartView, uartQueueCapacity] at head
      simp only [transmitRoom, txHead, txTail, ← empty, queueIsFull, uartQueueCapacity, Bool.not_eq_true',
        beq_eq_false_iff_ne]
      omega
    rw [popUartTransmit, nothing, room]
    exact current.skip (fun arms => absurd arms.1 (by decide)) id
  · have popped : (popUartTransmit memory).2 = refreshUartIrq (armThreIrqOnRisingEdge
        (publishUartTransmitLevel (storeMetaByte memory metaTxHead
          ((metaByte memory metaTxHead + 1) % uartQueueCapacity))
            ((metaByte memory metaTxHead + 1) % uartQueueCapacity != metaByte memory metaTxTail))
        (!queueIsFull (metaByte memory metaTxHead) (metaByte memory metaTxTail))
        (!queueIsFull ((metaByte memory metaTxHead + 1) % uartQueueCapacity) (metaByte memory metaTxTail))) := by
      simp only [popUartTransmit, dequeueTransmit, empty, if_false]
    have moved : uartView (storeMetaByte memory metaTxHead ((metaByte memory metaTxHead + 1) % uartQueueCapacity)) =
        { uartView memory with txHead := ((uartView memory).txHead + 1) % uartQueueCapacity } :=
      uartView_storeMeta metaTxHead (wrapped_byte _)
    have rings : UartView.RingsValid
        { uartView memory with txHead := ((uartView memory).txHead + 1) % uartQueueCapacity } :=
      { latched.rings with txHead := wrapped _ }
    rw [popped]
    refine UartLatched.refresh ?_
    rw [uartView_armOnRisingEdge, uartView_publishTransmit, moved]
    split
    · rename_i arms
      obtain ⟨full, _, enabled⟩ := arms
      have announced : Announced (history ++
          [.popped (!transmitRoom memory) (uartRegisterByte memory 1 &&& ierEtbei != 0)]) :=
        setSince_set ⟨by rwa [transmitRoom_eq, Bool.not_eq_true'], by simpa [uartView] using enabled⟩
      exact ⟨{ rings with }, latched.dlab, iff_of_true rfl announced⟩
    · rename_i unarmed
      refine UartLatched.skip ⟨rings, latched.dlab, latched.sticky⟩ ?_ id
      rintro ⟨full, enabled⟩
      rw [transmitRoom_eq, Bool.not_not] at full
      refine unarmed ⟨by rw [full]; rfl, ?_, by simpa [uartView] using enabled⟩
      exact (Bool.not_eq_true' _).mpr (queueIsFull_freed full)

/-! Accesses of any width, one register after the other. -/

theorem UartCurrent.loads (current : UartCurrent history memory) (offset count : Nat) :
    UartCurrent (history ++ uartLoadEvents memory offset count) (loadBytesFromUart memory 0 offset count).2 := by
  induction count with
  | zero =>
    rw [uartLoadEvents, List.append_nil]
    exact current
  | succ count ih =>
    have next : loadBytesFromUart memory 0 offset (count + 1) =
        loadUartTurn offset count (loadBytesFromUart memory 0 offset count) := rfl
    rw [next, uartLoadEvents, ← List.append_assoc]
    simp only [loadUartTurn]
    split
    · exact ih.loadRegister (offset + count)
    · rw [List.append_nil]
      exact ih

theorem UartCurrent.stores (current : UartCurrent history memory) (offset : Nat) (source : Bytes8) (count : Nat)
    (unset : DlabUnset offset source count) :
    UartCurrent (history ++ uartStoreEvents memory offset source count) (storeBytesToUart memory offset source count) := by
  induction count with
  | zero =>
    rw [uartStoreEvents, List.append_nil]
    exact current
  | succ count ih =>
    have earlier := ih fun index below => unset index (Nat.lt_succ_of_lt below)
    have next : storeBytesToUart memory offset source (count + 1) =
        storeUartTurn offset source count (storeBytesToUart memory offset source count) := rfl
    rw [next, uartStoreEvents, ← List.append_assoc]
    simp only [storeUartTurn]
    split
    · rename_i inside
      exact earlier.storeRegister inside _ (unset count (Nat.lt_succ_self count))
    · rw [List.append_nil]
      exact earlier

theorem loadBytes_uart
    (resolved : resolveGuestAddressToRegionAndOffset memory.layout.table address = some (uartRegionId, offset)) :
    loadBytes memory address byteLength = .ok (loadBytesFromUart memory 0 offset byteLength) := by
  simp only [loadBytes, resolved]
  rfl

theorem storeBytes_uart (source : Bytes8) (byteLength : Nat)
    (resolved : resolveGuestAddressToRegionAndOffset memory.layout.table address = some (uartRegionId, offset)) :
    storeBytes memory address source byteLength = .ok (releaseScMonitorIfHeld (releaseMonitorLock
      (storeBytesToUart (invalidateOverlappingReservationsLocked (acquireMonitorLock memory) address byteLength)
        offset source byteLength))) := by
  have opens := storeBytes_opens memory address byteLength
  rw [← opens.layout] at resolved
  simp only [storeBytes, storeBytesToRegion, resolved]
  rfl

/-- Work on the reservation slots is nothing to the UART. -/
theorem UartCurrent.monitor (current : UartCurrent history memory)
    (changes : ChangesOnly (InMonitor memory.layout) memory after) : UartCurrent history after :=
  current.of_view (uartView_changes changes (by decide)) (uartInputLevel_changes changes (by decide))

theorem UartCurrent.load (current : UartCurrent history memory)
    (resolved : resolveGuestAddressToRegionAndOffset memory.layout.table address = some (uartRegionId, offset))
    (loaded : loadBytes memory address byteLength = .ok (value, after)) :
    UartCurrent (history ++ uartLoadEvents memory offset byteLength) after := by
  have loads := current.loads offset byteLength
  rw [loadBytes_uart resolved] at loaded
  rwa [Except.ok.inj loaded] at loads

theorem UartCurrent.store (current : UartCurrent history memory)
    (resolved : resolveGuestAddressToRegionAndOffset memory.layout.table address = some (uartRegionId, offset))
    (unset : DlabUnset offset source byteLength)
    (stored : storeBytes memory address source byteLength = .ok after) :
    UartCurrent (history ++ uartStoreEvents (invalidateOverlappingReservationsLocked
      (acquireMonitorLock memory) address byteLength) offset source byteLength) after := by
  have ready := current.monitor (storeBytes_opens memory address byteLength)
  rw [storeBytes_uart source byteLength resolved] at stored
  obtain rfl := Except.ok.inj stored
  exact (ready.stores offset source byteLength unset).monitor (storeBytes_closes _)

/-! Whole runs. -/

theorem UartStart.current (start : UartStart memory) : UartCurrent [] memory := by
  have byte (offset : Nat) (inside : offset < uartHostByteLength) :
      memory.bytes (uartByteIndex memory offset) = 0 := start.zeroed offset inside
  have view : uartView memory = ⟨0, 0, false, 0, 0, 0, 0⟩ := by
    simp only [uartView, uartRegisterByte, threIrqSticky, metaByte, registerHostIndex, metaIndex]
    rw [byte _ (by decide), byte _ (by decide), byte _ (by decide), byte _ (by decide), byte _ (by decide),
      byte _ (by decide), byte _ (by decide)]
    rfl
  refine ⟨?_, ?_⟩
  · rw [view]
    exact ⟨⟨by decide, by decide, by decide, by decide⟩, rfl, iff_of_false Bool.false_ne_true setSince_nil⟩
  · obtain ⟨created, rfl⟩ := start.initialized
    have low : uartInputLevel (initializePlic created) = false :=
      initializePlic_clear created (by decide) (by decide)
    rw [low, view]
    refine iff_of_false Bool.false_ne_true ?_
    rintro (received | announced)
    · exact received.2 rfl
    · exact Bool.false_ne_true announced.2.1

theorem SameUart.current (same : SameUart memory after) (current : UartCurrent history memory) :
    UartCurrent history after :=
  current.of_view (uartView_congr fun offset small => same.bytes offset (Nat.lt_trans small (by decide))) same.level

theorem UartRun.current (run : UartRun initial history memory) (start : UartStart initial) :
    UartCurrent history memory := by
  induction run with
  | start => exact start.current
  | load run resolved loaded ih => exact ih.load resolved loaded
  | store run resolved unset stored ih => exact ih.store resolved unset stored
  | receive run value ih => exact ih.receive value
  | transmit run ih => exact ih.transmit
  | elsewhere run same ih => exact same.current ih

/-- After every operation the input level of source 10 is what IER, the rings and the history
say: data received, or room that was announced since it was last acknowledged. -/
theorem uart_interrupt_law (start : UartStart initial) (run : UartRun initial history memory) :
    isSourceBitSet memory plicHostInputLevel plicSourceUart = true ↔
      uartRegisterByte memory 1 &&& ierErbfi ≠ 0 ∧ metaByte memory metaRxHead ≠ metaByte memory metaRxTail ∨
        uartRegisterByte memory 1 &&& ierEtbei ≠ 0 ∧ transmitRoom memory = true ∧
          SetSince UartEvent.Arms UartEvent.Clears history := by
  have current := run.current start
  refine current.level.trans (or_congr Iff.rfl (and_congr_right fun _ => ?_))
  rw [and_comm, transmitRoom_view, Bool.not_eq_true']
  exact and_congr_right fun _ => current.latched.sticky

theorem initializePlic_confined (created : Memory) :
    ChangesOnly (InRegions created.layout plicReach) created (initializePlic created) := by
  have cleared : ChangesOnly (InRegions created.layout plicReach) created
      (created.fillZero created.layout.plic.hostIndex (created.layout.plic.hostIndex + plicHostMeipWireOffset)) := by
    refine ⟨rfl, fun position outside => if_neg fun inside => outside ?_⟩
    obtain ⟨offset, rfl⟩ := Nat.exists_eq_add_of_le inside.1
    exact inRegions_plic (by decide) (Nat.lt_of_lt_of_le (Nat.lt_of_add_lt_add_left inside.2) (by decide))
  have reset : ChangesOnly (InRegions created.layout plicReach) created (plicCleared created) := by
    refine cleared.trans (resetPlicGatewayLock_changesOnly.mono fun position covered => ?_)
    obtain ⟨offset, rfl⟩ := Nat.exists_eq_add_of_le (Nat.le_trans (Nat.le_add_right _ _) covered.1)
    exact inRegions_plic (by decide) (Nat.lt_of_add_lt_add_left covered.2)
  have lowered : Confined plicReach (plicCleared created) (initializePlic created) :=
    setPlicContextWire_confined.trans setPlicContextWire_confined
  exact reset.trans lowered.changes

/-- Initializing the PLIC leaves a zeroed UART zeroed. -/
theorem initializePlic_uartStart {created : Memory}
    (zeroed : ∀ offset < uartHostByteLength, created.bytes (uartByteIndex created offset) = 0) :
    UartStart (initializePlic created) := by
  refine ⟨fun offset inside => ?_, created, rfl⟩
  have confined := initializePlic_confined created
  rw [← zeroed offset inside, uartByteIndex, uartByteIndex, confined.layout]
  refine confined.bytes _ fun reached => ?_
  have apart := reached.apart created.layout.uartFound (by decide)
  simp only [MappedRegion.toRegion, created.layout.uartLength] at apart
  omega

/-- ETBEI stored over an empty ring. -/
theorem uart_interrupt_law_enabled : ∃ history memory,
    storeBytes (initializePlic defaultMemory) 0x10000001 2 1 = .ok memory ∧
      UartRun (initializePlic defaultMemory) history memory ∧
        (isSourceBitSet memory plicHostInputLevel plicSourceUart = true ↔
          uartRegisterByte memory 1 &&& ierErbfi ≠ 0 ∧ metaByte memory metaRxHead ≠ metaByte memory metaRxTail ∨
            uartRegisterByte memory 1 &&& ierEtbei ≠ 0 ∧ transmitRoom memory = true ∧
              SetSince UartEvent.Arms UartEvent.Clears history) := by
  have start : UartStart (initializePlic defaultMemory) := initializePlic_uartStart fun _ _ => rfl
  have unset : DlabUnset 1 2 1 := fun index below same => by omega
  have resolved : resolveGuestAddressToRegionAndOffset (initializePlic defaultMemory).layout.table 0x10000001 =
      some (uartRegionId, 1) := by
    decide
  have stored := storeBytes_uart 2 1 resolved
  have run := UartRun.store .start resolved unset stored
  exact ⟨_, _, stored, run, uart_interrupt_law start run⟩

end YaRiscV.Emulator
