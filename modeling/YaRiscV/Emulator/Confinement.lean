import YaRiscV.Emulator.Guest
import YaRiscV.Emulator.Plic.Selection

/-! Which slabs of the buffer the devices' operations can reach: each region's stores stay
inside its own slab, the PLIC's and the aggregate interrupt word. -/

namespace YaRiscV.Emulator

open YaRiscV.Library YaRiscV.Utils

/-- The host bytes of the named regions. -/
def InRegions (layout : Layout) (ids : List String) (position : Nat) : Prop :=
  ∃ id ∈ ids, ∃ region, layout.table.regions.lookup id = some region ∧
    region.hostIndex ≤ position ∧ position < region.hostIndex + region.hostByteLength

/-- Same module variables, except for the host clock. -/
def SameLocks (before after : Memory) : Prop :=
  ∃ hrtime, after.worker = { before.worker with hrtime := hrtime }

/-- `after` differs from `before` in the slabs of `ids` only. -/
structure Confined (ids : List String) (before after : Memory) : Prop where
  changes : ChangesOnly (InRegions before.layout ids) before after
  locks : SameLocks before after

variable {memory middle after : Memory} {ids : List String}

/-- A region shares no byte with regions of other names. -/
theorem InRegions.apart {layout : Layout} {id : String} {region : Region} (inside : InRegions layout ids position)
    (found : layout.table.regions.lookup id = some region) (other : id ∉ ids) :
    position < region.hostIndex ∨ region.hostIndex + region.hostByteLength ≤ position := by
  obtain ⟨owner, member, slab, owned, low, high⟩ := inside
  have apart := layout.apart owned found fun same => other (same ▸ member)
  simp only [Region.Apart] at apart
  omega

theorem inRegions_uart {layout : Layout} (member : uartRegionId ∈ ids) (inside : offset < uartHostByteLength) :
    InRegions layout ids (layout.uart.hostIndex + offset) := by
  refine ⟨_, member, _, layout.uartFound, Nat.le_add_right _ _, ?_⟩
  simpa [MappedRegion.toRegion, layout.uartLength] using inside

theorem inRegions_clint {layout : Layout} (member : clintRegionId ∈ ids) (inside : offset < clintHostByteLength) :
    InRegions layout ids (layout.clint.hostIndex + offset) := by
  refine ⟨_, member, _, layout.clintFound, Nat.le_add_right _ _, ?_⟩
  simpa [MappedRegion.toRegion, layout.clintLength] using inside

theorem inRegions_plic {layout : Layout} (member : plicRegionId ∈ ids) (inside : offset < plicHostByteLength) :
    InRegions layout ids (layout.plic.hostIndex + offset) := by
  refine ⟨_, member, _, layout.plicFound, Nat.le_add_right _ _, ?_⟩
  simpa [MappedRegion.toRegion, layout.plicLength] using inside

theorem inRegions_syscon {layout : Layout} (member : sysconRegionId ∈ ids) (inside : offset < sysconHostByteLength) :
    InRegions layout ids (layout.syscon.hostIndex + offset) := by
  refine ⟨_, member, _, layout.sysconFound, Nat.le_add_right _ _, ?_⟩
  simpa [MappedRegion.toRegion, layout.sysconLength] using inside

theorem inRegions_reservation {layout : Layout} (member : reservationRegionId ∈ ids)
    (inside : offset < reservationHostByteLength) : InRegions layout ids (layout.reservation + offset) :=
  ⟨_, member, _, layout.reservationFound, Nat.le_add_right _ _, Nat.add_lt_add_left inside _⟩

theorem inRegions_irqLevel {layout : Layout} (member : irqLevelRegionId ∈ ids) (inside : InIrqLevel layout position) :
    InRegions layout ids position :=
  ⟨_, member, _, layout.irqLevelFound, inside.1, inside.2⟩

theorem inRegions_ram {layout : Layout} (member : ramRegionId ∈ ids) (inside : offset < layout.ram.hostByteLength) :
    InRegions layout ids (layout.ram.hostIndex + offset) :=
  ⟨_, member, _, layout.ramFound, Nat.le_add_right _ _, Nat.add_lt_add_left inside _⟩

namespace SameLocks

theorem of_worker (same : after.worker = memory.worker) : SameLocks memory after :=
  ⟨memory.worker.hrtime, same⟩

theorem trans (first : SameLocks memory middle) (second : SameLocks middle after) : SameLocks memory after := by
  obtain ⟨_, one⟩ := first
  obtain ⟨hrtime, two⟩ := second
  exact ⟨hrtime, by rw [two, one]⟩

end SameLocks

namespace Confined

theorem refl : Confined ids memory memory :=
  ⟨.refl, .of_worker rfl⟩

theorem trans (first : Confined ids memory middle) (second : Confined ids middle after) :
    Confined ids memory after := by
  have later := second.changes
  rw [first.changes.layout] at later
  exact ⟨first.changes.trans later, first.locks.trans second.locks⟩

theorem mono {wider : List String} (confined : Confined ids memory after) (subset : ids ⊆ wider) :
    Confined wider memory after :=
  ⟨confined.changes.mono fun _ ⟨id, member, rest⟩ => ⟨id, subset member, rest⟩, confined.locks⟩

theorem layout (confined : Confined ids memory after) : after.layout = memory.layout :=
  confined.changes.layout

/-- Bytes of a region that is not named stay. -/
theorem bytes {id : String} {region : Region} (confined : Confined ids memory after)
    (found : memory.layout.table.regions.lookup id = some region) (other : id ∉ ids)
    (low : region.hostIndex ≤ position) (high : position < region.hostIndex + region.hostByteLength) :
    after.bytes position = memory.bytes position :=
  confined.changes.bytes position fun inside => by
    have apart := inside.apart found other
    omega

theorem store (inside : InRegions memory.layout ids index) (value : BitVec 8) :
    Confined ids memory (memory.store index value) :=
  ⟨.store inside value, .of_worker rfl⟩

theorem setElement (inside : InRegions memory.layout ids index) (value : BitVec 8) :
    Confined ids memory (memory.setElement index value) := by
  rw [Memory.setElement]
  split
  · exact store inside value
  · exact refl

theorem store32 (inside : ∀ offset < 4, InRegions memory.layout ids (index + offset)) (value : BitVec 32) :
    Confined ids memory (memory.store32 index value) :=
  ⟨.store32 inside value, .of_worker rfl⟩

theorem store64 (inside : ∀ offset < 8, InRegions memory.layout ids (index + offset)) (value : BitVec 64) :
    Confined ids memory (memory.store64 index value) :=
  ⟨.store64 inside value, .of_worker rfl⟩

theorem setIrqWire (wire : InRegions memory.layout ids index) (member : irqLevelRegionId ∈ ids)
    (pending : Bool) (levelBit : BitVec 32) : Confined ids memory (setIrqWire memory index pending levelBit) := by
  refine ⟨setIrqWire_changesOnly.mono fun position touched => ?_, .of_worker setIrqWire_worker⟩
  rcases touched with rfl | level
  · exact wire
  · exact inRegions_irqLevel member level

/-- What every turn of a loop keeps inside, the loop keeps inside. -/
theorem forEachIndex {body : Nat → Memory → Memory} (turn : ∀ index memory, Confined ids memory (body index memory)) :
    ∀ count memory, Confined ids memory (forEachIndex body count memory)
  | 0, _ => refl
  | count + 1, memory => (forEachIndex turn count memory).trans (turn count _)

end Confined

/-- A section under a lock reaches what its body reaches, the lock's word included. -/
theorem hold_confined (lock : SpinLock) {run : Memory → Result × Memory}
    (word : ∀ layout position, lock.Covers layout position → InRegions layout ids position)
    (undo : ∀ worker hrtime, let held := { lock.setDepth worker (lock.depth worker + 1) with hrtime := hrtime }
      lock.setDepth held (lock.depth held - 1) = { worker with hrtime := hrtime })
    (body : Confined ids (lock.acquire memory) (run (lock.acquire memory)).2) :
    Confined ids memory (lock.hold memory run).2 := by
  have acquired : ChangesOnly (InRegions memory.layout ids) memory (lock.acquire memory) :=
    SpinLock.acquire_changesOnly.mono (word memory.layout)
  have released : ChangesOnly (InRegions (run (lock.acquire memory)).2.layout ids)
      (run (lock.acquire memory)).2 (lock.hold memory run).2 :=
    SpinLock.release_changesOnly.mono (word _)
  have inner := body.changes
  rw [body.layout, SpinLock.acquire_layout] at released
  rw [SpinLock.acquire_layout] at inner
  obtain ⟨hrtime, same⟩ := body.locks
  refine ⟨(acquired.trans inner).trans released, hrtime, ?_⟩
  rw [SpinLock.acquire_worker] at same
  simp only [SpinLock.hold, SpinLock.release_worker, same]
  exact undo memory.worker hrtime

/-- What the PLIC can reach. -/
def plicReach : List String := [plicRegionId, irqLevelRegionId]

theorem setPlicContextWire_confined : Confined plicReach memory (setPlicContextWire memory context pending) := by
  refine .setIrqWire (inRegions_plic (by decide) ?_) (by decide) _ _
  cases context <;> simp [contextWireOffset]

theorem refreshContextWire_confined : Confined plicReach memory (refreshContextWire memory context) :=
  setPlicContextWire_confined

theorem refreshAllContextWires_confined : Confined plicReach memory (refreshAllContextWires memory) :=
  refreshContextWire_confined.trans refreshContextWire_confined

theorem updateSourceBit_confined (inside : hostOffset + 4 ≤ plicHostMeipWireOffset) (valid : isValidSource source = true) :
    Confined plicReach memory (updateSourceBit memory hostOffset source value) := by
  have small : source >>> 3 < 4 := by
    have bounded : source < 32 := isValidSource_lt valid
    rw [Nat.shiftRight_eq_div_pow]
    omega
  rw [updateSourceBit, atomicUpdateBit_eq, plicHostIndexForSourceBit, plicHostIndex, Nat.add_assoc]
  refine .store (inRegions_plic (by decide) ?_) _
  simp at inside ⊢
  omega

theorem withPlicGatewayLock_confined {run : Memory → Result × Memory}
    (body : Confined plicReach (acquirePlicGatewayLock memory) (run (acquirePlicGatewayLock memory)).2) :
    Confined plicReach memory (withPlicGatewayLock memory run).2 := by
  refine hold_confined plicGatewayLock (fun layout position covered => ?_) (fun _ _ => rfl) body
  have inside : position - layout.plic.hostIndex < plicHostByteLength := by
    simp [SpinLock.Covers, plicGatewayLock] at covered
    simp
    omega
  have reached : InRegions layout plicReach (layout.plic.hostIndex + (position - layout.plic.hostIndex)) :=
    inRegions_plic (by decide) inside
  rwa [Nat.add_sub_cancel' (by simp [SpinLock.Covers, plicGatewayLock] at covered; omega)] at reached

theorem setPlicSourcePending_confined : Confined plicReach memory (setPlicSourcePending memory source pending) := by
  simp only [setPlicSourcePending]
  split
  · exact .refl
  · rename_i valid
    simp only [Bool.not_eq_true', Bool.not_eq_false] at valid
    refine withPlicGatewayLock_confined (Confined.trans ?_ refreshAllContextWires_confined)
    have level : Confined plicReach (acquirePlicGatewayLock memory)
        (updateSourceBit (acquirePlicGatewayLock memory) plicHostInputLevel source pending) :=
      updateSourceBit_confined (by decide) valid
    split
    · exact level.trans (updateSourceBit_confined (by decide) valid)
    split
    · exact level.trans (updateSourceBit_confined (by decide) valid)
    · exact level

theorem completePlicSource_confined : Confined plicReach memory (completePlicSource memory context source) := by
  simp only [completePlicSource]
  split
  · exact .refl
  · rename_i valid
    simp only [Bool.not_eq_true', Bool.not_eq_false] at valid
    refine withPlicGatewayLock_confined ?_
    split
    · exact .refl
    · refine Confined.trans ?_ refreshAllContextWires_confined
      have given : Confined plicReach (acquirePlicGatewayLock memory)
          (updateSourceBit (acquirePlicGatewayLock memory) (claimedByHostOffset context) source false) :=
        updateSourceBit_confined (by cases context <;> decide) valid
      split
      · exact given.trans (updateSourceBit_confined (by decide) valid)
      · exact given

private theorem storeRegister_confined (location : PlicHostLocation) (memory : Memory)
    (inside : location.Inside) (value : BitVec 8) :
    Confined plicReach (acquirePlicGatewayLock memory)
      ((acquirePlicGatewayLock memory).store (plicHostIndexForLocation memory location) value) := by
  refine .store ?_ value
  rw [acquirePlicGatewayLock_layout]
  cases location with
  | priority source byteOffset =>
    refine inRegions_plic (by decide) ?_
    simp [PlicHostLocation.Inside] at inside ⊢
    omega
  | pending byteOffset =>
    refine inRegions_plic (by decide) ?_
    simp [PlicHostLocation.Inside] at inside ⊢
    omega
  | enable context byteOffset =>
    refine inRegions_plic (by decide) ?_
    cases context <;>
    · simp [PlicHostLocation.Inside, enableHostOffset] at inside ⊢
      omega
  | threshold context byteOffset =>
    refine inRegions_plic (by decide) ?_
    cases context <;>
    · simp [PlicHostLocation.Inside, thresholdHostOffset] at inside ⊢
      omega

theorem storePlicByte_confined : Confined plicReach memory (storePlicByte memory address value) := by
  have stored := storePlicByte_cases memory address value
  generalize storePlicByte memory address value = after at stored ⊢
  cases stored with
  | ignored => exact .refl
  | priority source byteOffset inside value =>
    have stored := storeRegister_confined (.priority source byteOffset) memory inside value
    exact withPlicGatewayLock_confined (stored.trans refreshAllContextWires_confined)
  | enable context byteOffset inside value =>
    have stored := storeRegister_confined (.enable context byteOffset) memory inside value
    exact withPlicGatewayLock_confined (stored.trans refreshContextWire_confined)
  | threshold context byteOffset inside value =>
    have stored := storeRegister_confined (.threshold context byteOffset) memory inside value
    exact withPlicGatewayLock_confined (stored.trans refreshContextWire_confined)
  | complete context source _ => exact completePlicSource_confined

theorem storeBytesToPlic_confined : Confined plicReach memory (storeBytesToPlic memory address source byteLength) := by
  rw [storeBytesToPlic]
  exact forEachIndex_preserves (fun state : Memory × Bytes8 => Confined plicReach memory state.1) .refl
    fun _ _ _ confined => confined.trans storePlicByte_confined

/-- What the CLINT can reach. -/
def clintReach : List String := [clintRegionId, irqLevelRegionId]

theorem setClintIrqWire_confined (inside : wireOffset < clintHostByteLength) :
    Confined clintReach memory (setClintIrqWire memory wireOffset pending levelBit) :=
  .setIrqWire (inRegions_clint (by decide) inside) (by decide) _ _

theorem storeClintUint64_confined (inside : element < 6) (value : BitVec 64) :
    Confined clintReach memory (memory.store64 (clintHostUint64 memory element) value) := by
  refine .store64 (fun offset small => ?_) value
  rw [clintHostUint64, Nat.add_assoc]
  refine inRegions_clint (by decide) ?_
  simp
  omega

theorem updateTimerWiresLoop_confined (attempts : Nat) :
    ∀ memory, Confined clintReach memory (updateTimerWiresLoop attempts memory) := by
  induction attempts with
  | zero => exact fun _ => .refl
  | succ attempts ih =>
    intro memory
    have wires (machine supervisor : Bool) : Confined clintReach memory
        (setClintSupervisorTimerWire (setClintMachineTimerWire memory machine) supervisor) :=
      (setClintIrqWire_confined (by decide)).trans (setClintIrqWire_confined (by decide))
    simp only [updateTimerWiresLoop]
    split
    · exact wires _ _
    · exact (wires _ _).trans (ih _)

theorem updateTimerWiresFromCompare_confined : Confined clintReach memory (updateTimerWiresFromCompare memory) :=
  updateTimerWiresLoop_confined _ memory

theorem compareExchangeTimeRegister_confined :
    Confined clintReach memory (compareExchangeTimeRegister memory register expected desired).2 := by
  have stored : Confined clintReach memory
      (memory.store64 (clintHostUint64 memory (timeRegisterUint64Index register)) desired) :=
    storeClintUint64_confined (by cases register <;> decide) desired
  simp only [compareExchangeTimeRegister, Memory.compareExchange64]
  split
  · exact stored
  · exact .refl

theorem readHostClock_confined : Confined clintReach memory memory.readHostClock.2 :=
  ⟨⟨rfl, fun _ _ => rfl⟩, _, rfl⟩

theorem reseatEpochForMtime_confined (reseated : reseatEpochForMtime memory mtime = .ok after) :
    Confined clintReach memory after := by
  obtain ⟨hz, _, rfl⟩ := except_map_ok.mp reseated
  exact readHostClock_confined.trans (storeClintUint64_confined (by decide) _)

theorem storeClintTimeBytesLoop_confined (fuel : Nat) : ∀ memory,
    storeClintTimeBytesLoop register byteOffset source byteLength fuel memory = .ok after →
      Confined clintReach memory after := by
  induction fuel with
  | zero =>
    intro memory stored
    cases stored
    exact .refl
  | succ fuel ih =>
    intro memory stored
    have exchanged : Confined clintReach memory (compareExchangeTimeRegister memory register
        (readTimeRegister memory register)
        (mergeTimeBytes (readTimeRegister memory register) byteOffset source byteLength)).2 :=
      compareExchangeTimeRegister_confined
    simp only [storeClintTimeBytesLoop] at stored
    split at stored
    · exact exchanged.trans (ih _ stored)
    · obtain ⟨reseated, seated, rfl⟩ := except_map_ok.mp stored
      refine Confined.trans ?_ updateTimerWiresFromCompare_confined
      split at seated
      · exact exchanged.trans (reseatEpochForMtime_confined seated)
      · cases seated
        exact exchanged

theorem storeClintByte_confined (stored : storeClintByte memory register byteOffset value = .ok after) :
    Confined clintReach memory after := by
  cases register with
  | msip =>
    simp only [storeClintByte] at stored
    cases stored
    split
    · exact setClintIrqWire_confined (by decide)
    · exact .refl
  | time register => exact storeClintTimeBytesLoop_confined 1 memory stored

theorem storeBytesToClint_confined (stored : storeBytesToClint memory offset source byteLength = .ok after) :
    Confined clintReach memory after := by
  simp only [storeBytesToClint] at stored
  split at stored
  · exact storeClintTimeBytesLoop_confined 1 memory stored
  · refine forEachIndex_preserves (fun state : Except String Memory =>
      ∀ after, state = .ok after → Confined clintReach memory after) ?_ ?_ after stored
    · rintro _ ⟨⟩
      exact .refl
    · intro index _ state confined after stored
      obtain ⟨middle, reached, turned⟩ := except_bind_ok.mp stored
      split at turned
      · cases turned
        exact confined _ reached
      · exact (confined _ reached).trans (storeClintByte_confined turned)

theorem storeSyscon32_confined (inside : offset + 4 ≤ sysconHostByteLength) (value : BitVec 32) :
    Confined [sysconRegionId] memory (memory.store32 (memory.layout.syscon.hostIndex + offset) value) := by
  refine .store32 (fun position small => ?_) value
  rw [Nat.add_assoc]
  exact inRegions_syscon (by decide) (by omega)

theorem publishSysconRequest_confined : Confined [sysconRegionId] memory (publishSysconRequest memory) := by
  simp only [publishSysconRequest]
  generalize (if registerMatches memory (memory.layout.syscon.hostIndex + sysconPoweroffOffset)
      sysconPoweroffValue then sysconRequestPoweroff
    else if registerMatches memory (memory.layout.syscon.hostIndex + sysconRebootOffset)
      sysconRebootValue then sysconRequestReboot else sysconRequestIdle) = level
  split
  · exact .refl
  · exact storeSyscon32_confined (by decide) _

theorem storeBytesToSyscon_confined :
    Confined [sysconRegionId] memory (storeBytesToSyscon memory offset source byteLength) := by
  refine Confined.trans ?_ publishSysconRequest_confined
  refine forEachIndex_preserves (fun after => Confined [sysconRegionId] memory after) .refl ?_
  intro wordIndex below after confined
  refine confined.trans ?_
  simp only [storeSysconTurn]
  split
  · exact .refl
  · rw [atomicUpdate32_eq]
    refine storeSyscon32_confined ?_ _
    simp only [sysconRegisterCount, sysconRegisterBytes, sysconHostByteLength] at below ⊢
    omega

theorem storeRamTurn_confined : Confined [ramRegionId] memory (storeRamTurn offset source byteIndex memory) := by
  simp only [storeRamTurn]
  split
  · exact .refl
  · rename_i hostIndex mapped
    obtain ⟨rfl, _, inside⟩ := denseGuestToHostIndex_some mapped
    exact .setElement (inRegions_ram (by decide) inside) _

theorem storeBytesToRam_confined :
    Confined [ramRegionId] memory (storeBytesToRam memory offset source byteLength) :=
  Confined.forEachIndex (fun _ _ => storeRamTurn_confined) byteLength memory

/-- What the UART can reach. -/
def uartReach : List String := [uartRegionId, plicRegionId, irqLevelRegionId]

theorem refreshUartIrq_confined : Confined uartReach memory (refreshUartIrq memory) :=
  setPlicSourcePending_confined.mono (by decide)

theorem storeUart_confined (inside : offset < uartHostByteLength) (value : BitVec 8) :
    Confined uartReach memory (memory.store (uartByteIndex memory offset) value) :=
  .store (inRegions_uart (by decide) inside) value

/-- The tail of the transmit ring is one of its 16 slots. -/
def TransmitTailValid (memory : Memory) : Prop := metaByte memory metaTxTail < uartQueueCapacity

theorem metaTxTail_eq (memory : Memory) :
    metaByte memory metaTxTail = (memory.bytes (uartByteIndex memory 11)).toNat := rfl

theorem TransmitTailValid.of_changes (valid : TransmitTailValid memory)
    (changes : ChangesOnly (InRegions memory.layout ids) memory after) (other : uartRegionId ∉ ids) :
    TransmitTailValid after := by
  have same : metaByte after metaTxTail = metaByte memory metaTxTail := by
    rw [metaTxTail_eq, metaTxTail_eq, uartByteIndex, uartByteIndex, changes.layout]
    refine congrArg BitVec.toNat (changes.bytes _ fun inside => ?_)
    have apart := inside.apart memory.layout.uartFound other
    simp only [MappedRegion.toRegion, memory.layout.uartLength, uartHostByteLength] at apart
    omega
  rw [TransmitTailValid, same]
  exact valid

theorem TransmitTailValid.of_confined (valid : TransmitTailValid memory) (confined : Confined ids memory after)
    (other : uartRegionId ∉ ids) : TransmitTailValid after :=
  valid.of_changes confined.changes other

theorem TransmitTailValid.storeUart (valid : TransmitTailValid memory) (other : offset ≠ 11) (value : BitVec 8) :
    TransmitTailValid (memory.store (uartByteIndex memory offset) value) := by
  have apart : uartByteIndex memory 11 ≠ uartByteIndex memory offset := by
    simp only [uartByteIndex]
    omega
  rw [TransmitTailValid, metaTxTail_eq] at valid ⊢
  rw [Memory.store_bytes]
  exact (if_neg apart).symm ▸ valid

theorem pushTransmit_confined (valid : TransmitTailValid memory) (value : BitVec 8) :
    Confined uartReach memory (pushTransmit memory value).2 ∧ TransmitTailValid (pushTransmit memory value).2 := by
  simp only [pushTransmit]
  split
  · exact ⟨.refl, valid⟩
  · generalize tailed : metaByte memory metaTxTail = tail
    have small : tail < 16 := tailed ▸ valid
    have data : Confined uartReach memory (memory.setElement (txDataIndex memory tail) value) := by
      refine .setElement (inRegions_uart (by decide) ?_) value
      simp only [uartHostTxData, uartHostByteLength]
      omega
    have indexed : Confined uartReach (memory.setElement (txDataIndex memory tail) value)
        (storeMetaByte (memory.setElement (txDataIndex memory tail) value) metaTxTail
          ((tail + 1) % uartQueueCapacity)) := storeUart_confined (by decide) _
    have advanced : TransmitTailValid (storeMetaByte (memory.setElement (txDataIndex memory tail) value)
        metaTxTail ((tail + 1) % uartQueueCapacity)) := by
      have bounded : (tail + 1) % 16 < 16 := Nat.mod_lt _ (by decide)
      have written : metaByte (storeMetaByte (memory.setElement (txDataIndex memory tail) value)
          metaTxTail ((tail + 1) % uartQueueCapacity)) metaTxTail = (tail + 1) % 16 % 2 ^ 8 := by
        rw [metaByte, storeMetaByte, Memory.store_bytes]
        exact congrArg BitVec.toNat (if_pos rfl)
      rw [TransmitTailValid, written]
      exact Nat.lt_of_le_of_lt (Nat.mod_le _ _) bounded
    generalize storeMetaByte (memory.setElement (txDataIndex memory tail) value) metaTxTail
      ((tail + 1) % uartQueueCapacity) = written at indexed advanced ⊢
    have published : Confined uartReach written (publishUartTransmitLevel written true) := by
      refine .store32 (fun offset small => ?_) 1
      rw [uartByteIndex, Nat.add_assoc]
      refine inRegions_uart (by decide) ?_
      simp only [uartHostTxWake, uartHostByteLength]
      omega
    refine ⟨(data.trans indexed).trans published, ?_⟩
    have same : (publishUartTransmitLevel written true).bytes (uartByteIndex written 11) =
        written.bytes (uartByteIndex written 11) := by
      refine Memory.store32_outside 1 ?_
      simp only [uartByteIndex, uartHostTxWake]
      omega
    rw [TransmitTailValid, metaTxTail_eq] at advanced ⊢
    rw [← same] at advanced
    exact advanced

theorem storeUartRegister_confined (valid : TransmitTailValid memory) (inside : registerIndex < uartGuestByteLength)
    (value : BitVec 8) :
    Confined uartReach memory (storeUartRegister memory registerIndex value) ∧
      TransmitTailValid (storeUartRegister memory registerIndex value) := by
  have refreshed {memory : Memory} (valid : TransmitTailValid memory) :
      Confined uartReach memory (refreshUartIrq memory) ∧ TransmitTailValid (refreshUartIrq memory) :=
    ⟨refreshUartIrq_confined, valid.of_confined setPlicSourcePending_confined (by decide)⟩
  simp only [storeUartRegister]
  split
  · have cleared : Confined uartReach memory (setThreIrqSticky memory false) := storeUart_confined (by decide) _
    have pushed := pushTransmit_confined
      (valid.storeUart (by decide : uartHostRegisters + threIrqStickyRegister ≠ 11) 0) value
    exact ⟨(cleared.trans pushed.1).trans refreshUartIrq_confined, (refreshed pushed.2).2⟩
  split
  · exact ⟨.refl, valid⟩
  · have offset : uartHostRegisters + registerIndex ≠ 11 := by
      simp only [uartHostRegisters, uartGuestByteLength] at inside ⊢
      omega
    have stored : Confined uartReach memory (storeUartRegisterByte memory registerIndex value) := by
      refine storeUart_confined ?_ value
      simp only [uartHostRegisters, uartGuestByteLength, uartHostByteLength] at inside ⊢
      omega
    have kept : TransmitTailValid (storeUartRegisterByte memory registerIndex value) := valid.storeUart offset value
    split
    · have armed : Confined uartReach (storeUartRegisterByte memory registerIndex value)
          (armThreIrqIfEnabledAndReady (storeUartRegisterByte memory registerIndex value)) ∧
          TransmitTailValid (armThreIrqIfEnabledAndReady (storeUartRegisterByte memory registerIndex value)) := by
        simp only [armThreIrqIfEnabledAndReady]
        split
        · exact ⟨storeUart_confined (by decide) _, kept.storeUart (by decide) _⟩
        · exact ⟨.refl, kept⟩
      exact ⟨(stored.trans armed.1).trans refreshUartIrq_confined, (refreshed armed.2).2⟩
    · exact ⟨stored, kept⟩

theorem storeBytesToUart_confined (valid : TransmitTailValid memory) :
    Confined uartReach memory (storeBytesToUart memory offset source byteLength) ∧
      TransmitTailValid (storeBytesToUart memory offset source byteLength) := by
  refine forEachIndex_preserves (fun after => Confined uartReach memory after ∧ TransmitTailValid after)
    ⟨.refl, valid⟩ ?_
  rintro byteIndex _ after ⟨confined, valid⟩
  simp only [storeUartTurn]
  split
  · rename_i inside
    have stored := storeUartRegister_confined valid inside (byte source byteIndex)
    exact ⟨confined.trans stored.1, stored.2⟩
  · exact ⟨confined, valid⟩

/-- What a guest store can reach besides the reservation slots. -/
def storeReach : List String :=
  [ramRegionId, uartRegionId, clintRegionId, plicRegionId, sysconRegionId, irqLevelRegionId]

/-- A store reaches no slot of the reservation monitor. -/
theorem storeBytesToRegion_confined (valid : TransmitTailValid memory)
    (stored : storeBytesToRegion memory address source byteLength = .ok after) :
    Confined storeReach memory after ∧ TransmitTailValid after := by
  simp only [storeBytesToRegion] at stored
  split at stored
  · cases stored
    exact ⟨.refl, valid⟩
  split at stored
  · cases stored
    exact ⟨storeBytesToRam_confined.mono (by decide), valid.of_confined storeBytesToRam_confined (by decide)⟩
  split at stored
  · cases stored
    exact ⟨(storeBytesToUart_confined valid).1.mono (by decide), (storeBytesToUart_confined valid).2⟩
  split at stored
  · have clint := storeBytesToClint_confined stored
    exact ⟨clint.mono (by decide), valid.of_confined clint (by decide)⟩
  split at stored
  · cases stored
    exact ⟨storeBytesToPlic_confined.mono (by decide), valid.of_confined storeBytesToPlic_confined (by decide)⟩
  split at stored
  · cases stored
    exact ⟨storeBytesToSyscon_confined.mono (by decide),
      valid.of_confined storeBytesToSyscon_confined (by decide)⟩
  · cases stored
    exact ⟨.refl, valid⟩

end YaRiscV.Emulator
