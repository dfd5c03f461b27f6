import YaRiscV.Emulator.GuestAgreement
import YaRiscV.Emulator.MachineRun

/-! What devices do on two memories that agree off hidden RAM bytes: every guest access, in a
device's window or not, and every operation of another worker goes the same way on both. -/

namespace YaRiscV.Emulator

open YaRiscV.Library YaRiscV.Utils

variable {hidden : Nat → Prop} {left right : Memory}

namespace AgreeOff

/-! The PLIC. -/

theorem plicHostIndex_eq (agree : AgreeOff hidden left right) (offset : Nat) :
    plicHostIndex right offset = plicHostIndex left offset := by
  rw [plicHostIndex, plicHostIndex, agree.layout]

theorem plicByte (agree : AgreeOff hidden left right) (inside : offset < plicHostByteLength) :
    right.bytes (plicHostIndex left offset) = left.bytes (plicHostIndex left offset) := by
  rw [← agree.plicWire inside, agree.plicHostIndex_eq]

theorem plicWord (agree : AgreeOff hidden left right) (inside : offset + 4 ≤ plicHostByteLength) :
    right.load32 (plicHostIndex right offset) = left.load32 (plicHostIndex left offset) := by
  rw [agree.plicHostIndex_eq]
  refine agree.load32 fun byteOffset small => ?_
  rw [plicHostIndex, Nat.add_assoc]
  exact agree.plic (by omega)

/-- The byte that holds a source's bit. -/
theorem sourceBitByte (agree : AgreeOff hidden left right) (inside : hostOffset + 4 ≤ plicHostByteLength)
    (valid : isValidSource source = true) :
    right.bytes (plicHostIndexForSourceBit right hostOffset source) =
      left.bytes (plicHostIndexForSourceBit left hostOffset source) := by
  have small := isValidSource_lt valid
  have place : hostOffset + (source >>> 3) < plicHostByteLength := by
    rw [Nat.shiftRight_eq_div_pow]
    omega
  simp only [plicHostIndexForSourceBit, plicHostIndex, Nat.add_assoc, agree.layout]
  exact agree.plicByte place

theorem isSourceBitSet (agree : AgreeOff hidden left right) (inside : hostOffset + 4 ≤ plicHostByteLength)
    (valid : isValidSource source = true) :
    isSourceBitSet right hostOffset source = isSourceBitSet left hostOffset source := by
  rw [Emulator.isSourceBitSet, Emulator.isSourceBitSet, atomicLoadBit, atomicLoadBit,
    agree.sourceBitByte inside valid]

theorem isSourceClaimed (agree : AgreeOff hidden left right) (valid : isValidSource source = true) :
    isSourceClaimed right source = isSourceClaimed left source := by
  rw [Emulator.isSourceClaimed, Emulator.isSourceClaimed, agree.isSourceBitSet (by decide) valid,
    agree.isSourceBitSet (by decide) valid]

theorem updateSourceBit (agree : AgreeOff hidden left right) (inside : hostOffset + 4 ≤ plicHostByteLength)
    (valid : isValidSource source = true) (value : Bool) :
    AgreeOff hidden (updateSourceBit left hostOffset source value) (updateSourceBit right hostOffset source value) := by
  rw [Emulator.updateSourceBit, Emulator.updateSourceBit, atomicUpdateBit_eq, atomicUpdateBit_eq,
    agree.sourceBitByte inside valid, plicHostIndexForSourceBit, plicHostIndexForSourceBit, agree.plicHostIndex_eq]
  exact agree.store _

theorem considerSource (agree : AgreeOff hidden left right) (context : PlicContext)
    (valid : isValidSource source = true) (threshold : BitVec 32) (selection : ClaimSelection) :
    considerSource right context threshold selection source = considerSource left context threshold selection source := by
  have small := isValidSource_lt valid
  have priority : right.load32 (plicHostIndex right (source * 4)) = left.load32 (plicHostIndex left (source * 4)) :=
    agree.plicWord (by simp only [plicHostByteLength]; omega)
  rw [Emulator.considerSource, Emulator.considerSource, agree.isSourceBitSet (by decide) valid,
    agree.isSourceBitSet (by cases context <;> decide) valid, priority]

theorem selectClaimableSource (agree : AgreeOff hidden left right) (context : PlicContext) :
    selectClaimableSource right context = selectClaimableSource left context := by
  have threshold : right.load32 (plicHostIndex right (thresholdHostOffset context)) =
      left.load32 (plicHostIndex left (thresholdHostOffset context)) :=
    agree.plicWord (by cases context <;> decide)
  simp only [Emulator.selectClaimableSource, threshold]
  congr 1
  refine List.foldl_ext _ _ _ fun selection source member => ?_
  exact agree.considerSource context (mem_sources.mp member) _ selection

theorem refreshContextWire (agree : AgreeOff hidden left right) (context : PlicContext) :
    AgreeOff hidden (refreshContextWire left context) (refreshContextWire right context) := by
  rw [Emulator.refreshContextWire, Emulator.refreshContextWire, agree.selectClaimableSource, setPlicContextWire,
    setPlicContextWire, agree.plicHostIndex_eq]
  exact agree.setIrqWire _ _

theorem refreshAllContextWires (agree : AgreeOff hidden left right) :
    AgreeOff hidden (refreshAllContextWires left) (refreshAllContextWires right) :=
  (agree.refreshContextWire .machine).refreshContextWire .supervisor

/-- Sections that agree under the gateway's lock agree around it. -/
theorem withPlicGatewayLock (agree : AgreeOff hidden left right) {first second : Memory → Value × Memory}
    (section' : ∀ left right, AgreeOff hidden left right → AgreeWith hidden (first left) (second right)) :
    AgreeWith hidden (withPlicGatewayLock left first) (withPlicGatewayLock right second) :=
  AgreeOff.hold plicGatewayLock (section' _ _ (agree.acquire plicGatewayLock))

theorem setPlicSourcePending (agree : AgreeOff hidden left right) (source : Nat) (pending : Bool) :
    AgreeOff hidden (setPlicSourcePending left source pending) (setPlicSourcePending right source pending) := by
  simp only [Emulator.setPlicSourcePending]
  cases valid : isValidSource source with
  | false => exact agree
  | true =>
    rw [if_neg (by decide), if_neg (by decide)]
    refine AgreeWith.memory (agree.withPlicGatewayLock fun left right agree => ⟨rfl, ?_⟩)
    have driven := agree.updateSourceBit (show plicHostInputLevel + 4 ≤ plicHostByteLength by decide) valid pending
    refine AgreeOff.refreshAllContextWires ?_
    rw [driven.isSourceClaimed valid]
    split
    · exact driven.updateSourceBit (by decide) valid false
    split
    · exact driven.updateSourceBit (by decide) valid true
    · exact driven

theorem claimPlicSource (agree : AgreeOff hidden left right) (context : PlicContext) :
    AgreeWith hidden (claimPlicSource left context) (claimPlicSource right context) := by
  refine agree.withPlicGatewayLock fun left right agree => ⟨agree.selectClaimableSource context, ?_⟩
  refine AgreeOff.refreshAllContextWires ?_
  rw [agree.selectClaimableSource]
  split
  · rename_i selected
    have valid := mem_sources.mp (selectClaimableSource_best selected).member
    exact (agree.updateSourceBit (by decide) valid false).updateSourceBit (by cases context <;> decide) valid true
  · exact agree

theorem completePlicSource (agree : AgreeOff hidden left right) (context : PlicContext) (source : Nat) :
    AgreeOff hidden (completePlicSource left context source) (completePlicSource right context source) := by
  simp only [Emulator.completePlicSource]
  cases valid : isValidSource source with
  | false => exact agree
  | true =>
    have claimed : claimedByHostOffset context + 4 ≤ plicHostByteLength := by cases context <;> decide
    rw [if_neg (by decide), if_neg (by decide)]
    refine AgreeWith.memory (agree.withPlicGatewayLock fun left right agree => ?_)
    rw [agree.isSourceBitSet claimed valid]
    split
    · exact ⟨rfl, agree⟩
    · have released := agree.updateSourceBit claimed valid false
      refine ⟨rfl, AgreeOff.refreshAllContextWires ?_⟩
      rw [released.isSourceBitSet (by decide) valid]
      split
      · exact released.updateSourceBit (by decide) valid true
      · exact released

theorem plicAddressToLocation (agree : AgreeOff hidden left right) (address : Bytes8) :
    plicAddressToLocation right address = plicAddressToLocation left address := by
  rw [Emulator.plicAddressToLocation, Emulator.plicAddressToLocation, agree.layout]

theorem plicLocation_eq (agree : AgreeOff hidden left right) (location : PlicHostLocation) :
    plicHostIndexForLocation right location = plicHostIndexForLocation left location := by
  cases location <;> exact agree.plicHostIndex_eq _

theorem plicLocationByte (agree : AgreeOff hidden left right) (inside : location.Inside) :
    right.bytes (plicHostIndexForLocation right location) = left.bytes (plicHostIndexForLocation left location) := by
  rw [agree.plicLocation_eq]
  cases location with
  | priority source byteOffset =>
    obtain ⟨small, short⟩ := inside
    simp only [plicHostPriorityCount] at small
    exact agree.plicByte (by simp only [plicHostByteLength]; omega)
  | pending byteOffset =>
    have short : byteOffset < 4 := inside
    exact agree.plicByte (by simp [plicHostByteLength]; omega)
  | enable context byteOffset | threshold context byteOffset =>
    have short : byteOffset < 4 := inside
    refine agree.plicByte ?_
    cases context <;> simp [enableHostOffset, thresholdHostOffset, plicHostByteLength] <;> omega

theorem loadPlicByte (agree : AgreeOff hidden left right) (address : Bytes8) :
    AgreeWith hidden (loadPlicByte left address) (loadPlicByte right address) := by
  simp only [Emulator.loadPlicByte, agree.plicAddressToLocation]
  cases decoded : Emulator.plicAddressToLocation left address with
  | none => exact ⟨rfl, agree⟩
  | some location =>
    cases location with
    | claim context byteOffset =>
      dsimp only
      split
      · exact ⟨rfl, agree⟩
      · have claimed := agree.claimPlicSource context
        exact ⟨congrArg (BitVec.ofNat 8) claimed.value, claimed.memory⟩
    | host location =>
      have same := agree.plicLocationByte (plicOffsetToLocation_inside decoded)
      dsimp only
      split
      · exact ⟨rfl, agree⟩
      · exact ⟨same, agree⟩

theorem storePlicByte (agree : AgreeOff hidden left right) (address : Bytes8) (value : BitVec 8) :
    AgreeOff hidden (storePlicByte left address value) (storePlicByte right address value) := by
  simp only [Emulator.storePlicByte, agree.plicAddressToLocation]
  cases Emulator.plicAddressToLocation left address with
  | none => exact agree
  | some location =>
    cases location with
    | claim context byteOffset =>
      dsimp only
      split
      · exact agree
      · exact agree.completePlicSource context _
    | host location =>
      simp only [agree.plicLocation_eq]
      cases location with
      | priority source byteOffset =>
        dsimp only
        split
        · exact agree
        · exact AgreeWith.memory (agree.withPlicGatewayLock fun left right agree =>
            ⟨rfl, (agree.store value).refreshAllContextWires⟩)
      | pending byteOffset => exact agree
      | enable context byteOffset =>
        exact AgreeWith.memory (agree.withPlicGatewayLock fun left right agree =>
          ⟨rfl, (agree.store _).refreshContextWire context⟩)
      | threshold context byteOffset =>
        exact AgreeWith.memory (agree.withPlicGatewayLock fun left right agree =>
          ⟨rfl, (agree.store value).refreshContextWire context⟩)

/-- Two turns of a load loop that agree, down to the address cursor. -/
private theorem loadPlicTurn_agree (byteIndex : Nat) (first second : Bytes8 × Memory × Bytes8)
    (agree : second.1 = first.1 ∧ second.2.2 = first.2.2 ∧ AgreeOff hidden first.2.1 second.2.1) :
    (loadPlicTurn byteIndex second).1 = (loadPlicTurn byteIndex first).1 ∧
      (loadPlicTurn byteIndex second).2.2 = (loadPlicTurn byteIndex first).2.2 ∧
        AgreeOff hidden (loadPlicTurn byteIndex first).2.1 (loadPlicTurn byteIndex second).2.1 := by
  obtain ⟨destination, left, cursor⟩ := first
  obtain ⟨destination', right, cursor'⟩ := second
  obtain ⟨rfl, rfl, agree⟩ := agree
  have loaded := agree.loadPlicByte cursor'
  exact ⟨congrArg (setByte destination' byteIndex) loaded.value, rfl, loaded.memory⟩

theorem loadBytesFromPlic (agree : AgreeOff hidden left right) (destination address : Bytes8) (byteLength : Nat) :
    AgreeWith hidden (loadBytesFromPlic destination left address byteLength)
      (loadBytesFromPlic destination right address byteLength) := by
  have start : (destination, right, address).1 = (destination, left, address).1 ∧
      (destination, right, address).2.2 = (destination, left, address).2.2 ∧
        AgreeOff hidden (destination, left, address).2.1 (destination, right, address).2.1 := ⟨rfl, rfl, agree⟩
  obtain ⟨value, _, memory⟩ := forEachIndex_related _ (fun byteIndex _ => loadPlicTurn_agree byteIndex) start
  exact ⟨value, memory⟩

private theorem storePlicTurn_agree (source : Bytes8) (byteIndex : Nat) (first second : Memory × Bytes8)
    (agree : second.2 = first.2 ∧ AgreeOff hidden first.1 second.1) :
    (storePlicTurn source byteIndex second).2 = (storePlicTurn source byteIndex first).2 ∧
      AgreeOff hidden (storePlicTurn source byteIndex first).1 (storePlicTurn source byteIndex second).1 := by
  obtain ⟨left, cursor⟩ := first
  obtain ⟨right, cursor'⟩ := second
  obtain ⟨rfl, agree⟩ := agree
  exact ⟨rfl, agree.storePlicByte cursor' _⟩

theorem storeBytesToPlic (agree : AgreeOff hidden left right) (address source : Bytes8) (byteLength : Nat) :
    AgreeOff hidden (storeBytesToPlic left address source byteLength)
      (storeBytesToPlic right address source byteLength) := by
  have start : (right, address).2 = (left, address).2 ∧ AgreeOff hidden (left, address).1 (right, address).1 :=
    ⟨rfl, agree⟩
  exact (forEachIndex_related _ (fun byteIndex _ => storePlicTurn_agree source byteIndex) start).2

/-! The UART. A ring's slot lies in the slab while its index is one of the ring's 16. -/

theorem uartByteIndex_eq (agree : AgreeOff hidden left right) (offset : Nat) :
    uartByteIndex right offset = uartByteIndex left offset := by
  rw [uartByteIndex, uartByteIndex, agree.layout]

theorem uartByte (agree : AgreeOff hidden left right) (inside : offset < uartHostByteLength) :
    right.bytes (uartByteIndex right offset) = left.bytes (uartByteIndex left offset) := by
  rw [agree.uartByteIndex_eq]
  refine (agree.bytes _ (agree.visible left.layout.uartFound (by decide) (Nat.le_add_right _ _) ?_)).symm
  simpa [MappedRegion.toRegion, left.layout.uartLength] using inside

theorem storeUart (agree : AgreeOff hidden left right) (offset : Nat) (value : BitVec 8) :
    AgreeOff hidden (left.store (uartByteIndex left offset) value) (right.store (uartByteIndex right offset) value) := by
  rw [agree.uartByteIndex_eq]
  exact agree.store value

theorem metaByte (agree : AgreeOff hidden left right) (inside : offset < 4) :
    metaByte right offset = metaByte left offset :=
  congrArg BitVec.toNat (agree.uartByte (by simp only [uartHostMeta, uartHostByteLength]; omega))

theorem uartRegisterByte (agree : AgreeOff hidden left right) (inside : registerIndex < uartGuestByteLength) :
    uartRegisterByte right registerIndex = uartRegisterByte left registerIndex := by
  rw [uartGuestByteLength] at inside
  exact agree.uartByte (by simp only [uartHostRegisters, uartHostByteLength]; omega)

theorem readLineStatus (agree : AgreeOff hidden left right) : readLineStatus right = readLineStatus left := by
  simp only [Emulator.readLineStatus, agree.metaByte (show metaRxHead < 4 by decide),
    agree.metaByte (show metaRxTail < 4 by decide), agree.metaByte (show metaTxHead < 4 by decide),
    agree.metaByte (show metaTxTail < 4 by decide)]

theorem threIrqSticky (agree : AgreeOff hidden left right) : threIrqSticky right = threIrqSticky left :=
  congrArg (· != 0) (agree.uartByte (by decide))

theorem readInterruptIdentity (agree : AgreeOff hidden left right) :
    readInterruptIdentity right = readInterruptIdentity left := by
  rw [Emulator.readInterruptIdentity, Emulator.readInterruptIdentity, agree.uartRegisterByte (by decide),
    agree.readLineStatus, agree.threIrqSticky]

theorem refreshUartIrq (agree : AgreeOff hidden left right) :
    AgreeOff hidden (refreshUartIrq left) (refreshUartIrq right) := by
  rw [Emulator.refreshUartIrq, Emulator.refreshUartIrq, agree.readInterruptIdentity]
  exact agree.setPlicSourcePending _ _

/-- A slot of a ring. -/
theorem slot (agree : AgreeOff hidden left right) (inside : offset < uartHostByteLength) :
    right.element (uartByteIndex right offset) = left.element (uartByteIndex left offset) := by
  rw [Memory.element, Memory.element, agree.uartByte inside, agree.uartByteIndex_eq, agree.layout]

theorem setSlot (agree : AgreeOff hidden left right) (offset : Nat) (value : BitVec 8) :
    AgreeOff hidden (left.setElement (uartByteIndex left offset) value)
      (right.setElement (uartByteIndex right offset) value) := by
  rw [agree.uartByteIndex_eq]
  exact agree.setElement value

theorem publishUartTransmitLevel (agree : AgreeOff hidden left right) (nonempty : Bool) :
    AgreeOff hidden (publishUartTransmitLevel left nonempty) (publishUartTransmitLevel right nonempty) := by
  rw [Emulator.publishUartTransmitLevel, Emulator.publishUartTransmitLevel, agree.uartByteIndex_eq]
  exact agree.store32 _

theorem popReceive (agree : AgreeOff hidden left right) (rings : (uartView left).RingsValid) :
    AgreeWith hidden (popReceive left) (popReceive right) := by
  have head : Emulator.metaByte left metaRxHead < uartQueueCapacity := rings.rxHead
  simp only [Emulator.popReceive, agree.metaByte (show metaRxHead < 4 by decide),
    agree.metaByte (show metaRxTail < 4 by decide)]
  split
  · exact ⟨rfl, agree⟩
  · refine ⟨agree.slot ?_, agree.storeUart _ _⟩
    rw [uartQueueCapacity] at head
    simp only [uartHostRxData, uartHostByteLength]
    omega

theorem pushTransmit (agree : AgreeOff hidden left right) (value : BitVec 8) :
    AgreeWith hidden (pushTransmit left value) (pushTransmit right value) := by
  simp only [Emulator.pushTransmit, agree.metaByte (show metaTxHead < 4 by decide),
    agree.metaByte (show metaTxTail < 4 by decide)]
  split
  · exact ⟨rfl, agree⟩
  · exact ⟨rfl, ((agree.setSlot _ value).storeUart _ _).publishUartTransmitLevel true⟩

theorem enqueueReceive (agree : AgreeOff hidden left right) (value : BitVec 8) :
    AgreeWith hidden (enqueueReceive left value) (enqueueReceive right value) := by
  simp only [Emulator.enqueueReceive, agree.metaByte (show metaRxHead < 4 by decide),
    agree.metaByte (show metaRxTail < 4 by decide)]
  split
  · exact ⟨rfl, agree⟩
  · exact ⟨rfl, (agree.setSlot _ value).storeUart _ _⟩

theorem pushUartReceive (agree : AgreeOff hidden left right) (value : BitVec 8) :
    AgreeOff hidden (pushUartReceive left value).2 (pushUartReceive right value).2 := by
  have enqueued := agree.enqueueReceive value
  simp only [Emulator.pushUartReceive, enqueued.value]
  split
  · exact enqueued.memory
  · exact enqueued.memory.refreshUartIrq

theorem setThreIrqSticky (agree : AgreeOff hidden left right) (value : Bool) :
    AgreeOff hidden (setThreIrqSticky left value) (setThreIrqSticky right value) :=
  agree.storeUart _ _

theorem armThreIrqOnRisingEdge (agree : AgreeOff hidden left right) (threBefore threAfter : Bool) :
    AgreeOff hidden (armThreIrqOnRisingEdge left threBefore threAfter)
      (armThreIrqOnRisingEdge right threBefore threAfter) := by
  simp only [Emulator.armThreIrqOnRisingEdge, agree.uartRegisterByte (show 1 < uartGuestByteLength by decide)]
  split
  · exact agree
  split
  · exact agree.setThreIrqSticky true
  · exact agree

theorem armThreIrqIfEnabledAndReady (agree : AgreeOff hidden left right) :
    AgreeOff hidden (armThreIrqIfEnabledAndReady left) (armThreIrqIfEnabledAndReady right) := by
  simp only [Emulator.armThreIrqIfEnabledAndReady, agree.uartRegisterByte (show 1 < uartGuestByteLength by decide),
    agree.readLineStatus]
  split
  · exact agree.setThreIrqSticky true
  · exact agree

/-- The byte the terminal takes out, and its flags. -/
theorem dequeueTransmit (agree : AgreeOff hidden left right) (rings : (uartView left).RingsValid) :
    Option.Rel (AgreeWith hidden) (dequeueTransmit left) (dequeueTransmit right) := by
  have head : Emulator.metaByte left metaTxHead < uartQueueCapacity := rings.txHead
  have inside : uartHostTxData + Emulator.metaByte left metaTxHead < uartHostByteLength := by
    rw [uartQueueCapacity] at head
    simp only [uartHostTxData, uartHostByteLength]
    omega
  have value : right.element (txDataIndex right (Emulator.metaByte left metaTxHead)) =
      left.element (txDataIndex left (Emulator.metaByte left metaTxHead)) := agree.slot inside
  simp only [Emulator.dequeueTransmit, agree.metaByte (show metaTxHead < 4 by decide),
    agree.metaByte (show metaTxTail < 4 by decide), value]
  split
  · exact .none
  · exact .some ⟨rfl, (agree.storeUart _ _).publishUartTransmitLevel _⟩

theorem popUartTransmit (agree : AgreeOff hidden left right) (rings : (uartView left).RingsValid) :
    AgreeWith hidden (popUartTransmit left) (popUartTransmit right) := by
  have popped := agree.dequeueTransmit rings
  rw [Emulator.popUartTransmit, Emulator.popUartTransmit]
  generalize Emulator.dequeueTransmit left = first at popped ⊢
  generalize Emulator.dequeueTransmit right = second at popped ⊢
  cases popped with
  | none => exact ⟨rfl, agree⟩
  | @some first second taken =>
    obtain ⟨dequeued, first⟩ := first
    obtain ⟨dequeued', second⟩ := second
    obtain ⟨rfl, memory⟩ := taken
    exact ⟨rfl, (memory.armThreIrqOnRisingEdge _ _).refreshUartIrq⟩

theorem loadUartRegister (agree : AgreeOff hidden left right) (rings : (uartView left).RingsValid)
    (inside : registerIndex < uartGuestByteLength) :
    AgreeWith hidden (loadUartRegister left registerIndex) (loadUartRegister right registerIndex) := by
  have popped := agree.popReceive rings
  simp only [Emulator.loadUartRegister, agree.uartRegisterByte (show 3 < uartGuestByteLength by decide),
    agree.readInterruptIdentity]
  split
  · exact ⟨popped.value, popped.memory.refreshUartIrq⟩
  split
  · split
    · exact ⟨rfl, (agree.setThreIrqSticky false).refreshUartIrq⟩
    · exact ⟨rfl, agree⟩
  split
  · exact ⟨agree.readLineStatus, agree⟩
  · exact ⟨agree.uartRegisterByte inside, agree⟩

theorem storeUartRegister (agree : AgreeOff hidden left right) (registerIndex : Nat) (value : BitVec 8) :
    AgreeOff hidden (storeUartRegister left registerIndex value) (storeUartRegister right registerIndex value) := by
  simp only [Emulator.storeUartRegister, agree.uartRegisterByte (show 3 < uartGuestByteLength by decide)]
  split
  · exact ((agree.setThreIrqSticky false).pushTransmit value).memory.refreshUartIrq
  split
  · exact agree
  · have stored : AgreeOff hidden (storeUartRegisterByte left registerIndex value)
        (storeUartRegisterByte right registerIndex value) := agree.storeUart _ _
    split
    · exact stored.armThreIrqIfEnabledAndReady.refreshUartIrq
    · exact stored

/-- Two turns of a load loop that agree, the devices current on the left. -/
private theorem loadUartTurn_agree (offset byteIndex : Nat) (first second : Bytes8 × Memory)
    (agree : AgreeWith hidden first second ∧ DevicesCurrent first.2) :
    AgreeWith hidden (loadUartTurn offset byteIndex first) (loadUartTurn offset byteIndex second) ∧
      DevicesCurrent (loadUartTurn offset byteIndex first).2 := by
  obtain ⟨destination, left⟩ := first
  obtain ⟨destination', right⟩ := second
  obtain ⟨⟨rfl, agree⟩, current⟩ := agree
  simp only [loadUartTurn]
  split
  · rename_i inside
    have loaded := agree.loadUartRegister current.rings inside
    exact ⟨⟨congrArg (setByte destination' byteIndex) loaded.value, loaded.memory⟩,
      current.reached (loadUartRegister_run _)⟩
  · exact ⟨⟨rfl, agree⟩, current⟩

theorem loadBytesFromUart (agree : AgreeOff hidden left right) (current : DevicesCurrent left) (destination : Bytes8)
    (offset byteLength : Nat) : AgreeWith hidden (loadBytesFromUart left destination offset byteLength)
      (loadBytesFromUart right destination offset byteLength) := by
  have start : AgreeWith hidden (destination, left) (destination, right) ∧ DevicesCurrent (destination, left).2 :=
    ⟨⟨rfl, agree⟩, current⟩
  exact (forEachIndex_related _ (fun byteIndex _ => loadUartTurn_agree offset byteIndex) start).1

theorem storeBytesToUart (agree : AgreeOff hidden left right) (offset : Nat) (source : Bytes8) (byteLength : Nat) :
    AgreeOff hidden (storeBytesToUart left offset source byteLength)
      (storeBytesToUart right offset source byteLength) := by
  refine forEachIndex_related _ (fun byteIndex _ left right agree => ?_) agree
  simp only [storeUartTurn]
  split
  · exact agree.storeUartRegister _ _
  · exact agree

/-! The syscon. -/

theorem sysconWord (agree : AgreeOff hidden left right) (inside : offset + 4 ≤ sysconHostByteLength) :
    right.load32 (left.layout.syscon.hostIndex + offset) = left.load32 (left.layout.syscon.hostIndex + offset) := by
  refine agree.load32 fun byteOffset small => ?_
  refine agree.visible left.layout.sysconFound (by decide) ?_ ?_
  · simp only [MappedRegion.toRegion]
    omega
  · simp only [MappedRegion.toRegion, left.layout.sysconLength]
    omega

theorem loadBytesFromSyscon (agree : AgreeOff hidden left right) (destination : Bytes8) (offset byteLength : Nat) :
    loadBytesFromSyscon right destination offset byteLength =
      loadBytesFromSyscon left destination offset byteLength := by
  refine forEachIndex_congr (fun byteIndex _ destination => ?_) destination
  simp only [loadSysconTurn, agree.layout]
  split
  · rfl
  · rename_i inside
    rw [agree.sysconWord]
    simp only [sysconGuestByteLength, sysconRegisterBytes, sysconHostByteLength] at inside ⊢
    rw [Nat.shiftRight_eq_div_pow]
    omega

theorem publishSysconRequest (agree : AgreeOff hidden left right) :
    AgreeOff hidden (publishSysconRequest left) (publishSysconRequest right) := by
  have published (index : Nat) (level : BitVec 32) : AgreeOff hidden
      (if level = sysconRequestIdle then left else publishWakeLevel left index level)
      (if level = sysconRequestIdle then right else publishWakeLevel right index level) := by
    split
    · exact agree
    · exact agree.store32 level
  simp only [Emulator.publishSysconRequest, registerMatches, agree.layout,
    agree.sysconWord (show sysconPoweroffOffset + 4 ≤ sysconHostByteLength by decide),
    agree.sysconWord (show sysconRebootOffset + 4 ≤ sysconHostByteLength by decide)]
  exact published _ _

theorem storeBytesToSyscon (agree : AgreeOff hidden left right) (offset : Nat) (source : Bytes8) (byteLength : Nat) :
    AgreeOff hidden (storeBytesToSyscon left offset source byteLength)
      (storeBytesToSyscon right offset source byteLength) := by
  refine AgreeOff.publishSysconRequest (forEachIndex_related _ (fun wordIndex small left right agree => ?_) agree)
  simp only [storeSysconTurn]
  split
  · exact agree
  · rw [atomicUpdate32_eq, atomicUpdate32_eq, agree.layout, agree.sysconWord]
    · exact agree.store32 _
    · simp only [sysconRegisterCount, sysconRegisterBytes, sysconHostByteLength] at small ⊢
      omega

theorem cancelSysconWatch (agree : AgreeOff hidden left right) :
    AgreeOff hidden (cancelSysconWatch left) (cancelSysconWatch right) := by
  have word : right.load32 (sysconRequestIndex left) = left.load32 (sysconRequestIndex left) :=
    agree.sysconWord (show sysconWakeOffset + 4 ≤ sysconHostByteLength by decide)
  have place : sysconRequestIndex right = sysconRequestIndex left := by
    rw [sysconRequestIndex, sysconRequestIndex, agree.layout]
  simp only [Emulator.cancelSysconWatch, Memory.compareExchange32, place, word]
  split
  · exact agree.store32 _
  · exact agree

/-! The CLINT. -/

theorem writeClint (agree : AgreeOff hidden left right) (element : Nat) (value : BitVec 64) :
    AgreeOff hidden (left.store64 (clintHostUint64 left element) value)
      (right.store64 (clintHostUint64 right element) value) := by
  rw [clintHostUint64, clintHostUint64, agree.layout]
  exact agree.store64 value

theorem reseatEpochForMtime (agree : AgreeOff hidden left right) (mtime : Nat) :
    ExceptRelated (AgreeOff hidden) (reseatEpochForMtime left mtime) (reseatEpochForMtime right mtime) := by
  have clock := agree.readHostClock
  simp only [Emulator.reseatEpochForMtime, clock.value, clock.memory.timebaseHz]
  cases Emulator.timebaseHz left.readHostClock.2 with
  | error message => exact .error message
  | ok hz => exact .ok (clock.memory.writeClint _ _)

theorem storeClintTimeBytesLoop (agree : AgreeOff hidden left right) (register : ClintTimeRegister)
    (byteOffset : Nat) (source : Bytes8) (byteLength fuel : Nat) : ExceptRelated (AgreeOff hidden)
      (storeClintTimeBytesLoop register byteOffset source byteLength fuel left)
      (storeClintTimeBytesLoop register byteOffset source byteLength fuel right) := by
  induction fuel generalizing left right with
  | zero => exact .ok agree
  | succ fuel ih =>
    rw [Emulator.storeClintTimeBytesLoop, Emulator.storeClintTimeBytesLoop]
    simp only [agree.readTimeRegister]
    have exchanged := agree.compareExchangeTimeRegister register (Emulator.readTimeRegister left register)
      (mergeTimeBytes (Emulator.readTimeRegister left register) byteOffset source byteLength)
    rw [exchanged.value]
    split
    · exact ih exchanged.memory
    split
    · exact (exchanged.memory.reseatEpochForMtime _).map fun _ _ agree => agree.updateTimerWiresLoop _
    · exact .ok (exchanged.memory.updateTimerWiresLoop _)

/-- A register read behind a tick, where it is `mtime`. -/
theorem syncedRead (agree : AgreeOff hidden left right) (register : ClintTimeRegister) (read : BitVec 64 → Result) :
    ExceptRelated (AgreeWith hidden)
      ((if register = .mtime then Emulator.tickClint left else .ok left).map fun memory =>
        (read (Emulator.readTimeRegister memory register), memory))
      ((if register = .mtime then Emulator.tickClint right else .ok right).map fun memory =>
        (read (Emulator.readTimeRegister memory register), memory)) := by
  have value (left right : Memory) (agree : AgreeOff hidden left right) :
      AgreeWith hidden (read (Emulator.readTimeRegister left register), left)
        (read (Emulator.readTimeRegister right register), right) :=
    ⟨congrArg read (agree.readTimeRegister register), agree⟩
  split
  · exact agree.tickClint.map value
  · exact .ok (value _ _ agree)

theorem isClintMachineSoftwarePending (agree : AgreeOff hidden left right) :
    isClintMachineSoftwarePending right = isClintMachineSoftwarePending left :=
  congrArg (· != 0) (agree.clintWire (by decide))

theorem loadClintByte (agree : AgreeOff hidden left right) (register : ClintRegister) (byteOffset : Nat) :
    ExceptRelated (AgreeWith hidden) (loadClintByte left register byteOffset)
      (loadClintByte right register byteOffset) := by
  cases register with
  | msip =>
    simp only [Emulator.loadClintByte, agree.isClintMachineSoftwarePending]
    exact .ok ⟨rfl, agree⟩
  | time register => exact agree.syncedRead register fun value => byte value byteOffset

theorem storeClintByte (agree : AgreeOff hidden left right) (register : ClintRegister) (byteOffset : Nat)
    (value : BitVec 8) : ExceptRelated (AgreeOff hidden) (storeClintByte left register byteOffset value)
      (storeClintByte right register byteOffset value) := by
  cases register with
  | msip =>
    simp only [Emulator.storeClintByte]
    split
    · exact .ok (agree.setClintIrqWire _ _)
    · exact .ok agree
  | time register => exact agree.storeClintTimeBytesLoop register byteOffset _ 1 1

private theorem loadClintTurn_agree (offset : Int) (byteIndex : Nat)
    (first second : Except String (Bytes8 × Memory)) (agree : ExceptRelated (AgreeWith hidden) first second) :
    ExceptRelated (AgreeWith hidden) (loadClintTurn offset byteIndex first)
      (loadClintTurn offset byteIndex second) := by
  cases agree with
  | error message => exact .error message
  | @ok first second values =>
    obtain ⟨destination, left⟩ := first
    obtain ⟨destination', right⟩ := second
    obtain ⟨rfl, agree⟩ := values
    simp only [loadClintTurn, Except.bind]
    cases clintOffsetToRegister (offset + byteIndex) with
    | none => exact .ok ⟨rfl, agree⟩
    | some place =>
      obtain ⟨register, byteOffset⟩ := place
      refine (agree.loadClintByte register byteOffset).map fun first second loaded => ?_
      exact ⟨congrArg (setByte destination' byteIndex) loaded.value, loaded.memory⟩

theorem loadBytesFromClint (agree : AgreeOff hidden left right) (destination : Bytes8) (offset : Int)
    (byteLength : Nat) : ExceptRelated (AgreeWith hidden) (loadBytesFromClint destination left offset byteLength)
      (loadBytesFromClint destination right offset byteLength) := by
  simp only [Emulator.loadBytesFromClint]
  split
  · rename_i register byteOffset _
    exact agree.syncedRead register fun value => Library.forEachIndex (fun byteIndex destination =>
      setByte destination byteIndex (byte value (byteOffset + byteIndex))) byteLength destination
  · exact forEachIndex_related _ (fun byteIndex _ => loadClintTurn_agree offset byteIndex) (.ok ⟨rfl, agree⟩)

private theorem storeClintTurn_agree (offset : Int) (source : Bytes8) (byteIndex : Nat)
    (first second : Except String Memory) (agree : ExceptRelated (AgreeOff hidden) first second) :
    ExceptRelated (AgreeOff hidden) (storeClintTurn offset source byteIndex first)
      (storeClintTurn offset source byteIndex second) := by
  cases agree with
  | error message => exact .error message
  | ok agree =>
    simp only [storeClintTurn, Except.bind]
    cases clintOffsetToRegister (offset + byteIndex) with
    | none => exact .ok agree
    | some place => exact agree.storeClintByte place.1 place.2 _

theorem storeBytesToClint (agree : AgreeOff hidden left right) (offset : Int) (source : Bytes8)
    (byteLength : Nat) : ExceptRelated (AgreeOff hidden) (storeBytesToClint left offset source byteLength)
      (storeBytesToClint right offset source byteLength) := by
  simp only [Emulator.storeBytesToClint]
  split
  · exact agree.storeClintTimeBytesLoop _ _ source byteLength 1
  · exact forEachIndex_related _ (fun byteIndex _ => storeClintTurn_agree offset source byteIndex) (.ok agree)

/-! The bus. -/

theorem storeBytesToRegion_anywhere (agree : AgreeOff hidden left right) (address source : Bytes8)
    (byteLength : Nat) : ExceptRelated (AgreeOff hidden) (Emulator.storeBytesToRegion left address source byteLength)
      (Emulator.storeBytesToRegion right address source byteLength) := by
  simp only [Emulator.storeBytesToRegion, agree.layout]
  cases resolveGuestAddressToRegionAndOffset left.layout.table address with
  | none => exact .ok agree
  | some place =>
    dsimp only
    split
    · exact .ok (agree.storeBytesToRam _ source byteLength)
    split
    · exact .ok (agree.storeBytesToUart _ source byteLength)
    split
    · exact agree.storeBytesToClint _ source byteLength
    split
    · exact .ok (agree.storeBytesToPlic address source byteLength)
    split
    · exact .ok (agree.storeBytesToSyscon _ source byteLength)
    · exact .ok agree

/-- A store anywhere goes the same way on both memories. -/
theorem storeBytes_anywhere (agree : AgreeOff hidden left right) (address source : Bytes8) (byteLength : Nat) :
    ExceptRelated (AgreeOff hidden) (Emulator.storeBytes left address source byteLength)
      (Emulator.storeBytes right address source byteLength) := by
  have locked : AgreeOff hidden (acquireMonitorLock left) (acquireMonitorLock right) := agree.acquire monitorLock
  have revoked := locked.invalidate address byteLength
  refine (revoked.storeBytesToRegion_anywhere address source byteLength).map fun _ _ stored => ?_
  exact (stored.release monitorLock).releaseScMonitorIfHeld

/-- A load from a device's window finds the same bytes. -/
theorem loadBytes_device (agree : AgreeOff hidden left right) (current : DevicesCurrent left)
    (device : ¬ OutsideDevices left.layout address) (byteLength : Nat) : ExceptRelated (AgreeWith hidden)
      (Emulator.loadBytes left address byteLength) (Emulator.loadBytes right address byteLength) := by
  simp only [Emulator.loadBytes, agree.layout]
  cases resolved : resolveGuestAddressToRegionAndOffset left.layout.table address with
  | none => exact absurd (fun _ _ found => by cases resolved.symm.trans found) device
  | some place =>
    have apart : place.1 ≠ ramRegionId := by
      intro ram
      refine device fun regionId offset found => ?_
      have same : regionId = ramRegionId := (congrArg Prod.fst (Option.some.inj (found.symm.trans resolved))).trans ram
      rw [same]
      decide
    dsimp only
    rw [if_neg apart, if_neg apart]
    split
    · exact .ok (agree.loadBytesFromUart current 0 _ byteLength)
    split
    · exact agree.loadBytesFromClint 0 _ byteLength
    split
    · exact .ok (agree.loadBytesFromPlic 0 address byteLength)
    split
    · exact .ok ⟨agree.loadBytesFromSyscon 0 _ byteLength, agree⟩
    · exact .ok ⟨rfl, agree⟩

end AgreeOff

end YaRiscV.Emulator
