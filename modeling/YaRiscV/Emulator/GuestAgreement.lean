import YaRiscV.Emulator.Agreement

/-! Guest accesses on two memories that agree off hidden RAM bytes: stores keep them
agreeing, and loads of visible bytes find the same value. -/

namespace YaRiscV.Emulator

open YaRiscV.Library YaRiscV.Utils

/-- The address lies in no device's window. -/
def OutsideDevices (layout : Layout) (address : Bytes8) : Prop :=
  ∀ regionId offset, resolveGuestAddressToRegionAndOffset layout.table address = some (regionId, offset) →
    regionId ∉ [uartRegionId, clintRegionId, plicRegionId, sysconRegionId]

/-- The RAM byte of a guest address is not hidden. -/
def VisibleAt (hidden : Nat → Prop) (layout : Layout) (address : Nat) : Prop :=
  ∀ offset, layout.ram.guestAddress.toNat + offset = address → ¬ hidden (layout.ram.hostIndex + offset)

/-- What a load of RAM reads at an offset of the window. -/
def loadRamOffset (memory : Memory) (offset : Nat) : BitVec 8 :=
  match denseGuestToHostIndex memory.layout.ram offset with
  | none => 0
  | some hostIndex => loadRamByte memory hostIndex

variable {hidden : Nat → Prop} {left right memory : Memory} {address : Bytes8} {width : AtomicWidth}

theorem byte_loadBytesFromRam (destination : Bytes8) (offset : Nat) (fits : byteLength ≤ 8) (index : Nat) :
    byte (loadBytesFromRam memory destination offset byteLength) index =
      if index < byteLength then loadRamOffset memory (offset + index) else byte destination index := by
  rw [loadBytesFromRam]
  induction byteLength with
  | zero => rfl
  | succ byteLength ih =>
    rw [forEachIndex, loadRamTurn, byte_setByte _ _ (by omega), ih (by omega)]
    by_cases last : index = byteLength
    · rw [if_pos last, if_pos (by omega), last]
      rfl
    · by_cases earlier : index < byteLength
      · rw [if_neg last, if_pos earlier, if_pos (by omega)]
      · rw [if_neg last, if_neg earlier, if_neg (by omega)]

/-- An address resolved to RAM is its offset above the window's base. -/
theorem resolve_ram {layout : Layout}
    (resolved : resolveGuestAddressToRegionAndOffset layout.table address = some (ramRegionId, offset)) :
    address.toNat = layout.ram.guestAddress.toNat + offset ∧ offset < layout.ram.guestByteLength := by
  obtain ⟨region, window, found, mapped, same, inside⟩ := resolve_window resolved
  rw [layout.ramFound] at found
  cases found
  cases mapped
  exact ⟨same, inside⟩

/-- An aligned atomic access starts at its offset inside the slab. -/
theorem alignedRam_offset (aligned : alignedRamAddressToHostIndex memory address width = some hostIndex) :
    ∃ offset, memory.layout.ram.guestAddress.toNat + offset = address.toNat ∧
      hostIndex = memory.layout.ram.hostIndex + offset :=
  (alignedRamAddressToHostIndex_some aligned).1

namespace AgreeOff

/-! Loads. -/

theorem loadRamOffset (agree : AgreeOff hidden left right)
    (visible : ¬ hidden (left.layout.ram.hostIndex + offset)) :
    loadRamOffset right offset = loadRamOffset left offset := by
  simp only [Emulator.loadRamOffset, agree.layout, loadRamByte, Memory.element]
  split
  · rfl
  · rename_i hostIndex found
    obtain ⟨rfl, _⟩ := denseGuestToHostIndex_some found
    rw [agree.bytes _ visible]

/-- A load outside the device windows changes nothing, and agrees on its visible bytes. -/
theorem loadBytes (agree : AgreeOff hidden left right) (outside : OutsideDevices left.layout address)
    (fits : byteLength ≤ 8) : ∃ first second, loadBytes left address byteLength = .ok (first, left) ∧
      loadBytes right address byteLength = .ok (second, right) ∧
      ∀ index, (index < byteLength → VisibleAt hidden left.layout (address.toNat + index)) →
        byte second index = byte first index := by
  simp only [Emulator.loadBytes, agree.layout]
  cases resolved : resolveGuestAddressToRegionAndOffset left.layout.table address with
  | none => exact ⟨_, _, rfl, rfl, fun _ _ => rfl⟩
  | some place =>
    obtain ⟨regionId, offset⟩ := place
    have apart := outside regionId offset resolved
    simp only [List.mem_cons, List.not_mem_nil, or_false, not_or] at apart
    obtain ⟨uart, clint, plic, syscon⟩ := apart
    dsimp only
    rw [if_neg uart, if_neg clint, if_neg plic, if_neg syscon, if_neg uart, if_neg clint, if_neg plic,
      if_neg syscon]
    by_cases ram : regionId = ramRegionId
    · subst ram
      rw [if_pos rfl, if_pos rfl]
      refine ⟨_, _, rfl, rfl, fun index visible => ?_⟩
      rw [byte_loadBytesFromRam _ _ fits, byte_loadBytesFromRam _ _ fits]
      split
      · rename_i inside
        refine agree.loadRamOffset (visible inside _ ?_)
        rw [(resolve_ram resolved).1, Nat.add_assoc]
      · rfl
    · rw [if_neg ram, if_neg ram]
      exact ⟨_, _, rfl, rfl, fun _ _ => rfl⟩

theorem inRam_eq (agree : AgreeOff hidden left right) : inRam right address = inRam left address := by
  rw [inRam, inRam, agree.layout]

theorem alignedRam (agree : AgreeOff hidden left right) :
    alignedRamAddressToHostIndex right address width = alignedRamAddressToHostIndex left address width :=
  alignedRamAddressToHostIndex_congr agree.layout

theorem alignedRam_visible (agree : AgreeOff hidden left right)
    (aligned : alignedRamAddressToHostIndex left address width = some hostIndex)
    (visible : ∀ offset < width.byteLength, VisibleAt hidden left.layout (address.toNat + offset)) :
    (width = .word → right.load32 hostIndex = left.load32 hostIndex) ∧
      (width = .doubleword → right.load64 hostIndex = left.load64 hostIndex) := by
  obtain ⟨start, same, rfl⟩ := alignedRam_offset aligned
  have covered (offset : Nat) (inside : offset < width.byteLength) :
      ¬ hidden (left.layout.ram.hostIndex + start + offset) := by
    rw [Nat.add_assoc]
    exact visible offset inside _ (by omega)
  constructor
  · rintro rfl
    exact agree.load32 covered
  · rintro rfl
    exact agree.load64 covered

/-- An atomic load of visible bytes. -/
theorem atomicLoadBytes (agree : AgreeOff hidden left right)
    (visible : ∀ offset < width.byteLength, VisibleAt hidden left.layout (address.toNat + offset)) :
    atomicLoadBytes right address width = atomicLoadBytes left address width := by
  rw [Emulator.atomicLoadBytes, Emulator.atomicLoadBytes, atomicRamLoad, atomicRamLoad, agree.inRam_eq,
    agree.alignedRam]
  cases aligned : alignedRamAddressToHostIndex left address width with
  | none => rw [Option.map_none, Option.map_none]
  | some hostIndex =>
    obtain ⟨word, doubleword⟩ := agree.alignedRam_visible aligned visible
    rw [Option.map_some, Option.map_some]
    cases width with
    | word =>
      dsimp only
      rw [word rfl]
    | doubleword =>
      dsimp only
      rw [doubleword rfl]

/-- Whether an atomic load finds aligned RAM does not depend on its bytes. -/
theorem atomicLoadBytes_isSome (agree : AgreeOff hidden left right) :
    (Emulator.atomicLoadBytes right address width).isSome =
      (Emulator.atomicLoadBytes left address width).isSome := by
  simp only [Emulator.atomicLoadBytes, atomicRamLoad, agree.inRam_eq, agree.alignedRam]
  split
  · rw [Option.isSome_map, Option.isSome_map]
  · rfl

/-! The reservation monitor. -/

theorem acquire (lock : SpinLock) (agree : AgreeOff hidden left right) :
    AgreeOff hidden (lock.acquire left) (lock.acquire right) := by
  have word : lock.word right.layout = lock.word left.layout := by rw [agree.layout]
  simp only [SpinLock.acquire, word, Memory.store32_worker]
  rw [agree.worker]
  split
  · exact agree.withWorker rfl
  · exact (agree.store32 1).withWorker rfl

theorem release (lock : SpinLock) (agree : AgreeOff hidden left right) :
    AgreeOff hidden (lock.release left) (lock.release right) := by
  have word : lock.word right.layout = lock.word left.layout := by rw [agree.layout]
  simp only [SpinLock.release, word]
  rw [agree.worker]
  split
  · exact agree
  split
  · exact agree.withWorker rfl
  · exact (agree.withWorker rfl).store32 0

/-- Sections that agree under a lock agree around it. -/
theorem hold (lock : SpinLock) {first second : Memory → Value × Memory}
    (section' : AgreeWith hidden (first (lock.acquire left)) (second (lock.acquire right))) :
    AgreeWith hidden (lock.hold left first) (lock.hold right second) :=
  ⟨section'.value, section'.memory.release lock⟩

theorem releaseScMonitorIfHeld (agree : AgreeOff hidden left right) :
    AgreeOff hidden (releaseScMonitorIfHeld left) (releaseScMonitorIfHeld right) := by
  rw [Emulator.releaseScMonitorIfHeld, Emulator.releaseScMonitorIfHeld, agree.worker]
  split
  · exact agree
  · exact (agree.withWorker rfl).release monitorLock

theorem reservationSlotHostIndex (agree : AgreeOff hidden left right) (hartId : Nat) :
    reservationSlotHostIndex right hartId = reservationSlotHostIndex left hartId := by
  rw [Emulator.reservationSlotHostIndex, Emulator.reservationSlotHostIndex, agree.layout]

private theorem slotVisible (agree : AgreeOff hidden left right) (valid : hartId < reservationHartCount)
    (inside : offset < reservationSlotSize) :
    ¬ hidden (Emulator.reservationSlotHostIndex left hartId + offset) := by
  rw [Emulator.reservationSlotHostIndex, Nat.add_assoc]
  refine agree.reservation ?_
  simp only [reservationHartCount, reservationSlotSize, reservationLockBytes, reservationLockPad,
    reservationHostByteLength] at *
  omega

theorem reservationSlotValid (agree : AgreeOff hidden left right) (valid : hartId < reservationHartCount) :
    reservationSlotValid right hartId = reservationSlotValid left hartId := by
  rw [Emulator.reservationSlotValid, Emulator.reservationSlotValid, agree.reservationSlotHostIndex]
  exact agree.load32 fun offset small => agree.slotVisible valid (Nat.lt_trans small (by decide))

theorem reservationSlotWidth (agree : AgreeOff hidden left right) (valid : hartId < reservationHartCount) :
    reservationSlotWidth right hartId = reservationSlotWidth left hartId := by
  rw [Emulator.reservationSlotWidth, Emulator.reservationSlotWidth, agree.reservationSlotHostIndex]
  refine agree.load32 fun offset small => ?_
  rw [Nat.add_assoc]
  exact agree.slotVisible valid (Nat.lt_trans (Nat.add_lt_add_left small 4) (by decide))

theorem reservationSlotAddress (agree : AgreeOff hidden left right) (valid : hartId < reservationHartCount) :
    reservationSlotAddress right hartId = reservationSlotAddress left hartId := by
  rw [Emulator.reservationSlotAddress, Emulator.reservationSlotAddress, agree.reservationSlotHostIndex]
  refine agree.load64 fun offset small => ?_
  rw [Nat.add_assoc]
  exact agree.slotVisible valid (Nat.add_lt_add_left small 8)

theorem clearReservationLocked (agree : AgreeOff hidden left right) (hartId : Nat) :
    AgreeOff hidden (clearReservationLocked left hartId) (clearReservationLocked right hartId) := by
  rw [Emulator.clearReservationLocked, Emulator.clearReservationLocked, agree.reservationSlotHostIndex]
  exact agree.store32 0

theorem displaceTurn (agree : AgreeOff hidden left right) (valid : other < reservationHartCount) :
    AgreeOff hidden (displaceTurn hartId lineBase other left) (displaceTurn hartId lineBase other right) := by
  simp only [Emulator.displaceTurn, agree.reservationSlotValid valid, agree.reservationSlotAddress valid]
  split
  · exact agree
  split
  · exact agree
  split
  · exact agree.clearReservationLocked other
  · exact agree

theorem invalidateTurn (agree : AgreeOff hidden left right) (valid : other < reservationHartCount) :
    AgreeOff hidden (invalidateTurn storeBase storeSize other left)
      (invalidateTurn storeBase storeSize other right) := by
  simp only [Emulator.invalidateTurn, agree.reservationSlotValid valid, agree.reservationSlotAddress valid]
  split
  · exact agree
  split
  · exact agree.clearReservationLocked other
  · exact agree

theorem invalidate (agree : AgreeOff hidden left right) (address : Bytes8) (byteLength : Nat) :
    AgreeOff hidden (invalidateOverlappingReservationsLocked left address byteLength)
      (invalidateOverlappingReservationsLocked right address byteLength) := by
  simp only [invalidateOverlappingReservationsLocked]
  split
  · exact agree
  · exact forEachIndex_related _ (fun _ valid _ _ agree => agree.invalidateTurn valid) agree

theorem setReservationLocked (agree : AgreeOff hidden left right) (hartId : Nat) (address : Bytes8)
    (byteLength : Nat) : AgreeOff hidden (setReservationLocked left hartId address byteLength)
      (setReservationLocked right hartId address byteLength) := by
  simp only [Emulator.setReservationLocked]
  split
  · exact agree
  · have displaced : AgreeOff hidden
        (forEachIndex (Emulator.displaceTurn hartId (reservationLineBase (bytesToBigInt address)))
          reservationHartCount left)
        (forEachIndex (Emulator.displaceTurn hartId (reservationLineBase (bytesToBigInt address)))
          reservationHartCount right) :=
      forEachIndex_related _ (fun _ valid _ _ agree => agree.displaceTurn valid) agree
    rw [displaced.reservationSlotHostIndex]
    exact ((displaced.store64 _).store32 _).store32 1

theorem tryTakeReservation (agree : AgreeOff hidden left right) (hartId : Nat) (address : Bytes8)
    (byteLength : Nat) : AgreeWith hidden (tryTakeReservation left hartId address byteLength)
      (tryTakeReservation right hartId address byteLength) := by
  simp only [Emulator.tryTakeReservation]
  split
  · exact ⟨rfl, agree⟩
  · rename_i ready
    have valid : hartId < reservationHartCount := by
      simpa [isValidHartId] using ready
    have locked : AgreeOff hidden (acquireMonitorLock left) (acquireMonitorLock right) := agree.acquire monitorLock
    have held : reservationHoldsLocked (acquireMonitorLock right) hartId address byteLength =
        reservationHoldsLocked (acquireMonitorLock left) hartId address byteLength := by
      rw [reservationHoldsLocked, reservationHoldsLocked, locked.reservationSlotValid valid,
        locked.reservationSlotWidth valid, locked.reservationSlotAddress valid]
    rw [held]
    split
    · exact ⟨rfl, (locked.clearReservationLocked hartId).release monitorLock⟩
    · refine ⟨rfl, ?_⟩
      exact locked.withWorker (by rw [locked.worker])

/-! Stores. -/

theorem storeBytesToRam (agree : AgreeOff hidden left right) (offset : Nat) (source : Bytes8) (byteLength : Nat) :
    AgreeOff hidden (storeBytesToRam left offset source byteLength)
      (storeBytesToRam right offset source byteLength) := by
  refine forEachIndex_related _ (fun byteIndex _ left right agree => ?_) agree
  simp only [storeRamTurn, agree.layout]
  split
  · exact agree
  · exact agree.setElement _

theorem storeBytesToRegion (agree : AgreeOff hidden left right) (outside : OutsideDevices left.layout address)
    (source : Bytes8) (byteLength : Nat) : ExceptRelated (AgreeOff hidden)
      (storeBytesToRegion left address source byteLength) (storeBytesToRegion right address source byteLength) := by
  simp only [Emulator.storeBytesToRegion, agree.layout]
  cases resolved : resolveGuestAddressToRegionAndOffset left.layout.table address with
  | none => exact .ok agree
  | some place =>
    obtain ⟨regionId, offset⟩ := place
    have apart := outside regionId offset resolved
    simp only [List.mem_cons, List.not_mem_nil, or_false, not_or] at apart
    obtain ⟨uart, clint, plic, syscon⟩ := apart
    dsimp only
    rw [if_neg uart, if_neg clint, if_neg plic, if_neg syscon, if_neg uart, if_neg clint, if_neg plic,
      if_neg syscon]
    by_cases ram : regionId = ramRegionId
    · rw [if_pos ram, if_pos ram]
      exact .ok (agree.storeBytesToRam offset source byteLength)
    · rw [if_neg ram, if_neg ram]
      exact .ok agree

theorem storeBytes (agree : AgreeOff hidden left right) (outside : OutsideDevices left.layout address)
    (source : Bytes8) (byteLength : Nat) : ExceptRelated (AgreeOff hidden)
      (storeBytes left address source byteLength) (storeBytes right address source byteLength) := by
  have locked : AgreeOff hidden (acquireMonitorLock left) (acquireMonitorLock right) := agree.acquire monitorLock
  have revoked := locked.invalidate address byteLength
  have same : (invalidateOverlappingReservationsLocked (acquireMonitorLock left) address byteLength).layout =
      left.layout := invalidate_confined.layout.trans SpinLock.acquire_layout
  refine (revoked.storeBytesToRegion (by rwa [same]) source byteLength).map fun _ _ stored => ?_
  exact (stored.release monitorLock).releaseScMonitorIfHeld

theorem storeAtomic (agree : AgreeOff hidden left right) (hostIndex : Nat) (width : AtomicWidth) (source : Bytes8) :
    AgreeOff hidden (storeAtomic left hostIndex width source) (storeAtomic right hostIndex width source) := by
  cases width with
  | word => exact agree.store32 _
  | doubleword => exact agree.store64 _

theorem atomicRamStore (agree : AgreeOff hidden left right) (address source : Bytes8) (width : AtomicWidth) :
    Option.Rel (AgreeOff hidden) (atomicRamStore left address source width)
      (atomicRamStore right address source width) := by
  simp only [Emulator.atomicRamStore, agree.alignedRam]
  cases alignedRamAddressToHostIndex left address width with
  | none => exact .none
  | some hostIndex =>
    have locked : AgreeOff hidden (monitorLock.acquire left) (monitorLock.acquire right) := agree.acquire monitorLock
    exact .some (((locked.storeAtomic hostIndex width source).invalidate address width.byteLength).release monitorLock)

theorem atomicStoreBytes (agree : AgreeOff hidden left right) (address source : Bytes8) (width : AtomicWidth) :
    AgreeWith hidden (atomicStoreBytes left address source width) (atomicStoreBytes right address source width) := by
  simp only [Emulator.atomicStoreBytes, agree.inRam_eq]
  by_cases inside : inRam left address = true
  · rw [if_pos inside, if_pos inside]
    have outcomes := agree.atomicRamStore address source width
    generalize Emulator.atomicRamStore left address source width = first at outcomes ⊢
    generalize Emulator.atomicRamStore right address source width = second at outcomes ⊢
    cases outcomes with
    | none => exact ⟨rfl, agree.releaseScMonitorIfHeld⟩
    | some stored => exact ⟨rfl, stored.releaseScMonitorIfHeld⟩
  · rw [if_neg inside, if_neg inside]
    exact ⟨rfl, agree.releaseScMonitorIfHeld⟩

end AgreeOff

end YaRiscV.Emulator
