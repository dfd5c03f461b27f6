import YaRiscV.Emulator.GuestAgreement
import YaRiscV.Emulator.Cpu.PmpGrant
import YaRiscV.Emulator.Cpu.Instructions.LoadStore
import YaRiscV.Emulator.Cpu.Instructions.System

/-! The RAM bytes the PMP conceals from code below M and the ones it lets that code write,
and the guest accesses that respect both once the check let them through. -/

namespace YaRiscV.Emulator

open YaRiscV.Library YaRiscV.Utils

/-- A RAM byte whose own PMP entry grants neither a load nor a fetch. -/
def Concealed (registers : Registers) (layout : Layout) (position : Nat) : Prop :=
  ∃ offset < layout.ram.hostByteLength, position = layout.ram.hostIndex + offset ∧
    byteGranted registers (layout.ram.guestAddress.toNat + offset) .load = false ∧
    byteGranted registers (layout.ram.guestAddress.toNat + offset) .fetch = false

/-- Not a RAM byte, or one whose own PMP entry grants a store. -/
def Writable (registers : Registers) (layout : Layout) (position : Nat) : Prop :=
  ∀ offset < layout.ram.hostByteLength, position = layout.ram.hostIndex + offset →
    byteGranted registers (layout.ram.guestAddress.toNat + offset) .store = true

variable {registers : Registers} {layout : Layout} {memory after : Memory} {address : Bytes8} {width : AtomicWidth}

theorem concealed_inRam (concealed : Concealed registers layout position) :
    InRegions layout [ramRegionId] position := by
  obtain ⟨offset, inside, rfl, _⟩ := concealed
  exact inRegions_ram List.mem_cons_self inside

theorem visibleAt_of_load (granted : byteGranted registers guest .load = true) :
    VisibleAt (Concealed registers layout) layout guest := by
  rintro offset rfl ⟨other, _, same, load, _⟩
  rw [Nat.add_left_cancel same, load] at granted
  cases granted

theorem visibleAt_of_fetch (granted : byteGranted registers guest .fetch = true) :
    VisibleAt (Concealed registers layout) layout guest := by
  rintro offset rfl ⟨other, _, same, _, fetch⟩
  rw [Nat.add_left_cancel same, fetch] at granted
  cases granted

theorem writable_of_granted (granted : byteGranted registers (layout.ram.guestAddress.toNat + offset) .store = true) :
    Writable registers layout (layout.ram.hostIndex + offset) := by
  intro other _ same
  rwa [← Nat.add_left_cancel same]

theorem writable_of_regions (inside : InRegions layout ids position) (other : ramRegionId ∉ ids) :
    Writable registers layout position := by
  rintro offset small rfl
  have apart := inside.apart layout.ramFound other
  simp only [MappedRegion.toRegion] at apart
  omega

theorem ChangesOnly.writable (changes : ChangesOnly (InRegions memory.layout ids) memory after)
    (other : ramRegionId ∉ ids) : ChangesOnly (Writable registers memory.layout) memory after :=
  changes.mono fun _ inside => writable_of_regions inside other

/-- Steps that each write only what they may, one after the other. -/
theorem ChangesOnly.writable_trans (first : ChangesOnly (Writable registers memory.layout) memory middle)
    (second : ChangesOnly (Writable registers middle.layout) middle after) :
    ChangesOnly (Writable registers memory.layout) memory after := by
  rw [first.layout] at second
  exact first.trans second

/-! Writes. -/

theorem storeBytesToRam_writable (granted : ∀ index < byteLength,
      byteGranted registers (memory.layout.ram.guestAddress.toNat + (offset + index)) .store = true)
    (source : Bytes8) : ChangesOnly (Writable registers memory.layout) memory
      (storeBytesToRam memory offset source byteLength) := by
  refine forEachIndex_preserves (fun after => ChangesOnly (Writable registers memory.layout) memory after) .refl
    fun index inside state changes => ?_
  simp only [storeRamTurn, changes.layout]
  split
  · exact changes
  · rename_i hostIndex found
    obtain ⟨rfl, _⟩ := denseGuestToHostIndex_some found
    rw [storeRamByte, Memory.setElement]
    split
    · exact changes.trans (.store (writable_of_granted (granted index inside)) _)
    · exact changes

theorem releaseScMonitorIfHeld_writable :
    ChangesOnly (Writable registers memory.layout) memory (releaseScMonitorIfHeld memory) :=
  (releaseScMonitorIfHeld_changes memory).writable (by decide)

/-- A store whose bytes are all granted writes nothing else in RAM. -/
theorem storeBytes_writable (outside : OutsideDevices memory.layout address)
    (granted : ∀ index < byteLength, byteGranted registers (address.toNat + index) .store = true)
    (stored : storeBytes memory address source byteLength = .ok after) :
    ChangesOnly (Writable registers memory.layout) memory after := by
  obtain ⟨written, region, rfl⟩ := except_map_ok.mp stored
  have acquired : ChangesOnly (Writable registers memory.layout) memory (acquireMonitorLock memory) :=
    acquireMonitorLock_changes.writable (by decide)
  have revoked : ChangesOnly (Writable registers memory.layout) memory
      (invalidateOverlappingReservationsLocked (acquireMonitorLock memory) address byteLength) :=
    acquired.writable_trans (invalidate_confined.changes.writable (by decide))
  generalize invalidateOverlappingReservationsLocked (acquireMonitorLock memory) address byteLength = locked
    at region revoked
  have body : ChangesOnly (Writable registers locked.layout) locked written := by
    rw [storeBytesToRegion, revoked.layout] at region
    split at region
    · cases region
      exact .refl
    · rename_i regionId offset resolved
      have apart := outside regionId offset resolved
      simp only [List.mem_cons, List.not_mem_nil, or_false, not_or] at apart
      obtain ⟨uart, clint, plic, syscon⟩ := apart
      rw [if_neg uart, if_neg clint, if_neg plic, if_neg syscon] at region
      by_cases ram : regionId = ramRegionId
      · subst ram
        rw [if_pos rfl] at region
        cases region
        refine storeBytesToRam_writable (fun index inside => ?_) source
        rw [revoked.layout, ← Nat.add_assoc, ← (resolve_ram resolved).1]
        exact granted index inside
      · rw [if_neg ram] at region
        cases region
        exact .refl
  have released : ChangesOnly (Writable registers written.layout) written (releaseMonitorLock written) :=
    (releaseMonitorLock_changes written).writable (by decide)
  exact ((revoked.writable_trans body).writable_trans released).writable_trans releaseScMonitorIfHeld_writable

theorem atomicRamStore_writable
    (granted : ∀ index < width.byteLength, byteGranted registers (address.toNat + index) .store = true)
    (stored : atomicRamStore memory address source width = some after) :
    ChangesOnly (Writable registers memory.layout) memory after := by
  obtain ⟨hostIndex, operation⟩ := atomicRamStore_atomicStore stored
  refine ⟨operation.confined.layout, fun position readOnly => ?_⟩
  rw [operation.bytes position fun monitor => readOnly (writable_of_regions monitor (by decide))]
  refine if_neg fun covered => readOnly ?_
  obtain ⟨start, same, rfl⟩ := alignedRam_offset operation.aligned
  obtain ⟨index, rfl⟩ := Nat.exists_eq_add_of_le covered.1
  rw [Nat.add_assoc]
  apply writable_of_granted
  rw [← Nat.add_assoc, same]
  exact granted index (by omega)

theorem atomicStoreBytes_writable
    (granted : ∀ index < width.byteLength, byteGranted registers (address.toNat + index) .store = true)
    (source : Bytes8) : ChangesOnly (Writable registers memory.layout) memory
      (atomicStoreBytes memory address source width).2 := by
  rw [atomicStoreBytes]
  split
  · exact releaseScMonitorIfHeld_writable
  · rename_i stored found
    split at found
    · exact (atomicRamStore_writable granted found).writable_trans releaseScMonitorIfHeld_writable
    · cases found

theorem tryTakeReservation_writable : ChangesOnly (Writable registers memory.layout) memory
    (tryTakeReservation memory hartId address byteLength).2 := by
  have acquired : ChangesOnly (Writable registers memory.layout) memory (acquireMonitorLock memory) :=
    acquireMonitorLock_changes.writable (by decide)
  simp only [tryTakeReservation]
  split
  · exact .refl
  rename_i ready
  split
  · have valid : hartId < reservationHartCount := by
      simpa [isValidHartId] using ready
    have cleared := acquired.writable_trans
      ((clearReservationLocked_confined valid).changes.writable (by decide))
    exact cleared.writable_trans ((releaseMonitorLock_changes _).writable (by decide))
  · exact ⟨acquired.layout, acquired.bytes⟩

theorem loadAndReserve_writable : ChangesOnly (Writable registers memory.layout) memory
    (loadAndReserve registers memory address width).2 := by
  have acquired : ChangesOnly (Writable registers memory.layout) memory (monitorLock.acquire memory) :=
    acquireMonitorLock_changes.writable (by decide)
  rw [loadAndReserve, withMonitorLock, SpinLock.hold]
  dsimp only
  split
  · exact acquired.writable_trans ((releaseMonitorLock_changes _).writable (by decide))
  · exact (acquired.writable_trans (setReservationLocked_confined.changes.writable (by decide))).writable_trans
      ((releaseMonitorLock_changes _).writable (by decide))

/-! The devices the hart reads. -/

theorem setClintStimecmpMirror_confined (value : Bytes8) :
    Confined clintReach memory (setClintStimecmpMirror memory value) := by
  rw [setClintStimecmpMirror]
  split
  · exact .refl
  · exact (storeClintUint64_confined (by decide) value).trans updateTimerWiresFromCompare_confined

theorem sampleDevicePending_confined (registers : Registers) (memory : Memory) :
    Confined clintReach memory (sampleDevicePending registers memory).2 := by
  simp only [sampleDevicePending, publishSupervisorTimerCompare]
  generalize (if isSupervisorTimerCompareEnabled _ then _ else stimecmpDisabledBytes) = desired
  split
  · exact .refl
  · exact setClintStimecmpMirror_confined desired

theorem tickClint_confined (ticked : tickClint memory = .ok after) : Confined clintReach memory after := by
  simp only [tickClint, tickClintLoop] at ticked
  obtain ⟨hz, _, body⟩ := except_bind_ok.mp ticked
  generalize BitVec.ofInt 64 _ = ticks at body
  have exchanged : Confined clintReach memory (compareExchangeTimeRegister memory.readHostClock.2 .mtime
      (readTimeRegister memory.readHostClock.2 .mtime) ticks).2 :=
    readHostClock_confined.trans compareExchangeTimeRegister_confined
  split at body
  · cases body
    exact exchanged
  split at body
  · cases body
    exact exchanged
  · cases body
    exact exchanged.trans updateTimerWiresFromCompare_confined

end YaRiscV.Emulator
