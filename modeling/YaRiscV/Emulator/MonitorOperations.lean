import YaRiscV.Emulator.ReservationSlots
import YaRiscV.Emulator.Cpu.Instructions.Amo

/-! The operations that run under the monitor lock: what each does to the reservation
table, and which bytes it can change. -/

namespace YaRiscV.Emulator

open YaRiscV.Library YaRiscV.Utils

/-- The host bytes of the reservation slab. -/
def InMonitor (layout : Layout) (position : Nat) : Prop :=
  InRegions layout [reservationRegionId] position

variable {memory after : Memory} {hartId other : Nat} {width : AtomicWidth}

theorem acquireMonitorLock_changes :
    ChangesOnly (InMonitor memory.layout) memory (acquireMonitorLock memory) :=
  SpinLock.acquire_changesOnly.mono (inRegions_monitorLock memory.layout)

theorem releaseMonitorLock_changes (memory : Memory) :
    ChangesOnly (InMonitor memory.layout) memory (releaseMonitorLock memory) :=
  SpinLock.release_changesOnly.mono (inRegions_monitorLock memory.layout)

theorem releaseScMonitorIfHeld_changes (memory : Memory) :
    ChangesOnly (InMonitor memory.layout) memory (releaseScMonitorIfHeld memory) := by
  rw [releaseScMonitorIfHeld]
  split
  · exact ChangesOnly.refl
  · have released := releaseMonitorLock_changes
      { memory with worker := { memory.worker with scMonitorHeld := false } }
    exact ⟨released.layout, released.bytes⟩

/-- What a store does before its region's part. -/
theorem storeBytes_opens (memory : Memory) (address : Bytes8) (byteLength : Nat) : ChangesOnly
    (InMonitor memory.layout) memory
    (invalidateOverlappingReservationsLocked (acquireMonitorLock memory) address byteLength) := by
  have acquired : ChangesOnly (InMonitor memory.layout) memory (acquireMonitorLock memory) :=
    acquireMonitorLock_changes
  have revoked : Confined [reservationRegionId] (acquireMonitorLock memory)
      (invalidateOverlappingReservationsLocked (acquireMonitorLock memory) address byteLength) := invalidate_confined
  refine acquired.trans ?_
  rw [← acquired.layout]
  exact revoked.changes

/-- What a store does after its region's part. -/
theorem storeBytes_closes (memory : Memory) : ChangesOnly (InMonitor memory.layout) memory
    (releaseScMonitorIfHeld (releaseMonitorLock memory)) := by
  have released := releaseMonitorLock_changes memory
  have kept := releaseScMonitorIfHeld_changes (releaseMonitorLock memory)
  rw [released.layout] at kept
  exact released.trans kept

/-- What a store leaves, with all that it can reach on the way. -/
structure StoreParts (memory : Memory) (address source : Bytes8) (byteLength : Nat) (written after : Memory) :
    Prop where
  region : storeBytesToRegion (invalidateOverlappingReservationsLocked (acquireMonitorLock memory)
    address byteLength) address source byteLength = .ok written
  reached : Confined storeReach (invalidateOverlappingReservationsLocked (acquireMonitorLock memory)
    address byteLength) written
  released : after = releaseMonitorLock written
  confined : Confined (reservationRegionId :: storeReach) memory after
  tail : TransmitTailValid after

theorem storeBytes_parts (idle : memory.worker.scMonitorHeld = false) (valid : TransmitTailValid memory)
    (stored : storeBytes memory address source byteLength = .ok after) :
    ∃ written, StoreParts memory address source byteLength written after := by
  obtain ⟨written, region, same⟩ := except_map_ok.mp stored
  have ready : TransmitTailValid (invalidateOverlappingReservationsLocked (acquireMonitorLock memory)
      address byteLength) :=
    (valid.of_changes acquireMonitorLock_changes (by decide)).of_confined invalidate_confined (by decide)
  obtain ⟨reached, tail⟩ := storeBytesToRegion_confined ready region
  have body : Confined (reservationRegionId :: storeReach) (acquireMonitorLock memory) written :=
    (invalidate_confined.mono (by decide)).trans (reached.mono (by decide))
  have confined : Confined (reservationRegionId :: storeReach) memory
      (withMonitorLock memory fun _ => ((), written)).2 := withMonitorLock_confined body
  change Confined (reservationRegionId :: storeReach) memory (releaseMonitorLock written) at confined
  have unheld : (releaseMonitorLock written).worker.scMonitorHeld = false := by
    obtain ⟨hrtime, kept⟩ := confined.locks
    rw [kept]
    exact idle
  rw [releaseScMonitorIfHeld, unheld] at same
  refine ⟨written, region, reached, same.symm, same ▸ confined, same ▸ ?_⟩
  exact tail.of_changes (releaseMonitorLock_changes _) (by decide)

/-- A store revokes the reservations of the lines it overlaps. -/
theorem StoreParts.reservationOf {written : Memory} (parts : StoreParts memory address source byteLength written after)
    (positive : 0 < byteLength) (inside : other < reservationHartCount) : reservationOf after other =
      (reservationOf memory other).filter fun held => !overwritten address.toNat byteLength held := by
  rw [parts.released, reservationOf_release,
    reservationOf_confined parts.reached.changes (by decide) inside,
    reservationOf_invalidate positive inside, reservationOf_acquire]

/-- The bytes of an aligned atomic access lie in the RAM slab. -/
theorem alignedRam_inside (aligned : alignedRamAddressToHostIndex memory address width = some hostIndex) :
    memory.layout.ram.hostIndex ≤ hostIndex ∧
      hostIndex + width.byteLength ≤ memory.layout.ram.hostIndex + memory.layout.ram.hostByteLength := by
  obtain ⟨⟨offset, _, rfl⟩, inside⟩ := alignedRamAddressToHostIndex_some aligned
  exact ⟨Nat.le_add_right _ _, inside⟩

/-- The bytes an atomic store leaves. -/
theorem storeAtomic_bytes (memory : Memory) (hostIndex : Nat) (source : Bytes8) (position : Nat) :
    (storeAtomic memory hostIndex width source).bytes position =
      if hostIndex ≤ position ∧ position < hostIndex + width.byteLength then byte source (position - hostIndex)
      else memory.bytes position := by
  by_cases covered : hostIndex ≤ position ∧ position < hostIndex + width.byteLength
  · obtain ⟨offset, rfl⟩ := Nat.exists_eq_add_of_le covered.1
    have small : offset < width.byteLength := by omega
    rw [if_pos covered, Nat.add_sub_cancel_left]
    cases width with
    | word => exact (ByteStore.putWord_inside _ offset small).trans (byte_bytesToNumber source offset small)
    | doubleword =>
      rw [storeAtomic, ofInt_signedBytesToBigInt]
      exact ByteStore.putWord_inside source offset small
  · rw [if_neg covered]
    cases width with
    | word => exact Memory.store32_outside _ (by simp only [AtomicWidth.byteLength] at covered; omega)
    | doubleword => exact Memory.store64_outside _ (by simp only [AtomicWidth.byteLength] at covered; omega)

theorem storeAtomic_confined (inside : memory.layout.ram.hostIndex ≤ hostIndex ∧
      hostIndex + width.byteLength ≤ memory.layout.ram.hostIndex + memory.layout.ram.hostByteLength)
    (source : Bytes8) : Confined [ramRegionId] memory (storeAtomic memory hostIndex width source) := by
  have covered (offset : Nat) (small : offset < width.byteLength) :
      InRegions memory.layout [ramRegionId] (hostIndex + offset) :=
    ⟨_, List.mem_cons_self, _, memory.layout.ramFound, Nat.le_trans inside.1 (Nat.le_add_right _ _),
      Nat.lt_of_lt_of_le (Nat.add_lt_add_left small hostIndex) inside.2⟩
  cases width with
  | word => exact .store32 covered _
  | doubleword => exact .store64 covered _

/-- An atomic store: the bytes written, and everything else it can reach. -/
structure AtomicStore (memory : Memory) (hostIndex : Nat) (address source : Bytes8) (width : AtomicWidth)
    (after : Memory) : Prop where
  aligned : alignedRamAddressToHostIndex memory address width = some hostIndex
  confined : Confined [reservationRegionId, ramRegionId] memory after
  bytes : ∀ position, ¬ InMonitor memory.layout position → after.bytes position =
    if hostIndex ≤ position ∧ position < hostIndex + width.byteLength then byte source (position - hostIndex)
    else memory.bytes position
  reservationOf : ∀ other < reservationHartCount, reservationOf after other =
    (reservationOf memory other).filter fun held => !overwritten address.toNat width.byteLength held

theorem AtomicWidth.positive (width : AtomicWidth) : 0 < width.byteLength := by
  cases width <;> decide

theorem atomicRamStore_atomicStore (stored : atomicRamStore memory address source width = some after) :
    ∃ hostIndex, AtomicStore memory hostIndex address source width after := by
  obtain ⟨hostIndex, aligned, rfl⟩ := Option.map_eq_some_iff.mp stored
  have inside : (acquireMonitorLock memory).layout.ram.hostIndex ≤ hostIndex ∧
      hostIndex + width.byteLength ≤ (acquireMonitorLock memory).layout.ram.hostIndex +
        (acquireMonitorLock memory).layout.ram.hostByteLength := by
    rw [acquireMonitorLock_changes.layout]
    exact alignedRam_inside aligned
  have written : Confined [ramRegionId] (acquireMonitorLock memory)
      (storeAtomic (acquireMonitorLock memory) hostIndex width source) := storeAtomic_confined inside source
  have invalidated : Confined [reservationRegionId] (storeAtomic (acquireMonitorLock memory) hostIndex width source)
      (invalidateOverlappingReservationsLocked
        (storeAtomic (acquireMonitorLock memory) hostIndex width source) address width.byteLength) :=
    invalidate_confined
  refine ⟨hostIndex, aligned, ?_, fun position outside => ?_, fun other valid => ?_⟩
  · exact withMonitorLock_confined ((written.mono (by decide)).trans (invalidated.mono (by decide)))
  · have acquired := acquireMonitorLock_changes.bytes position outside
    have kept := invalidated.changes.bytes position (by rwa [written.layout, acquireMonitorLock_changes.layout])
    have released := (releaseMonitorLock_changes _).bytes position
      (by rwa [invalidated.layout, written.layout, acquireMonitorLock_changes.layout])
    refine released.trans (kept.trans ?_)
    rw [storeAtomic_bytes, acquired]
  · refine reservationOf_release.trans ((reservationOf_invalidate width.positive valid).trans ?_)
    have table := reservationOf_confined written.changes (by decide) valid
    rw [reservationOf_acquire] at table
    exact congrArg _ table

private theorem ram_not_monitor (aligned : alignedRamAddressToHostIndex memory address width = some hostIndex)
    (offset : Nat) (small : offset < width.byteLength) : ¬ InMonitor memory.layout (hostIndex + offset) := by
  intro reached
  have apart := reached.apart memory.layout.ramFound (by decide)
  have inside := alignedRam_inside aligned
  simp only [MappedRegion.toRegion] at apart
  omega

/-- The word an aligned access covers. -/
def atomicWord (memory : Memory) (hostIndex : Nat) (width : AtomicWidth) : BitVec (8 * width.byteLength) :=
  memory.bytes.word hostIndex width.byteLength

/-- An atomic load sign-extends the word. -/
theorem atomicRamLoad_word (aligned : alignedRamAddressToHostIndex memory address width = some hostIndex) :
    atomicRamLoad memory address width = some ((atomicWord memory hostIndex width).signExtend 64) := by
  rw [atomicRamLoad, aligned, Option.map_some]
  cases width with
  | word =>
    dsimp only
    rw [signedNumberToBytes_eq _ 32 (by decide) (by decide), BitVec.setWidth_eq]
    rfl
  | doubleword =>
    dsimp only
    rw [unsignedBigIntToBytes_eq, BitVec.ofInt_natCast, BitVec.ofNat_toNat, BitVec.setWidth_eq]
    exact congrArg some (BitVec.signExtend_eq _).symm

/-- The monitor lock leaves the word alone. -/
theorem atomicWord_acquire (aligned : alignedRamAddressToHostIndex memory address width = some hostIndex) :
    atomicWord (acquireMonitorLock memory) hostIndex width = atomicWord memory hostIndex width :=
  ByteStore.word_congr fun offset small => acquireMonitorLock_changes.bytes _ (ram_not_monitor aligned offset small)

/-- The two widths of the exchange as one, with the operands cut to the width. -/
theorem atomicRamCompareExchange_word (aligned : alignedRamAddressToHostIndex memory address width = some hostIndex)
    (expected desired : Bytes8) : atomicRamCompareExchange memory address width expected desired =
      if atomicWord memory hostIndex width = expected.setWidth (8 * width.byteLength) then
        (atomicRamStore memory address desired width).map fun after =>
          (true, (atomicWord memory hostIndex width).signExtend 64, after)
      else some (false, (atomicWord memory hostIndex width).signExtend 64,
        releaseMonitorLock (acquireMonitorLock memory)) := by
  have same := atomicWord_acquire aligned
  cases width with
  | word =>
    have observed : signedNumberToBytes (memory.load32 hostIndex) 32 = (memory.load32 hostIndex).signExtend 64 := by
      rw [signedNumberToBytes_eq _ 32 (by decide) (by decide), BitVec.setWidth_eq]
    change (monitorLock.acquire memory).load32 hostIndex = memory.load32 hostIndex at same
    change _ = if memory.load32 hostIndex = expected.setWidth 32 then _
      else some (false, (memory.load32 hostIndex).signExtend 64, _)
    simp only [atomicRamCompareExchange, atomicRamStore, aligned, Option.map_some, withMonitorLock,
      SpinLock.hold, Memory.compareExchange32, same, bytesToNumber_eq, observed]
    by_cases equal : memory.load32 hostIndex = expected.setWidth 32
    · simp only [equal, if_true, ne_eq, not_true_eq_false, if_false, storeAtomic, bytesToNumber_eq]
      rw [← equal]
      rfl
    · simp only [equal, if_false, ne_eq, not_false_eq_true, if_true]
      rfl
  | doubleword =>
    have observed :
        unsignedBigIntToBytes (memory.load64 hostIndex).toNat = (memory.load64 hostIndex).signExtend 64 := by
      rw [unsignedBigIntToBytes_eq, BitVec.ofInt_natCast, BitVec.ofNat_toNat, BitVec.setWidth_eq, BitVec.signExtend_eq]
    change (monitorLock.acquire memory).load64 hostIndex = memory.load64 hostIndex at same
    change _ = if memory.load64 hostIndex = expected.setWidth 64 then _
      else some (false, (memory.load64 hostIndex).signExtend 64, _)
    simp only [atomicRamCompareExchange, atomicRamStore, aligned, Option.map_some, withMonitorLock,
      SpinLock.hold, Memory.compareExchange64, same, ofInt_signedBytesToBigInt, observed, BitVec.setWidth_eq]
    by_cases equal : memory.load64 hostIndex = expected
    · simp only [equal, if_true, ne_eq, not_true_eq_false, if_false, storeAtomic, ofInt_signedBytesToBigInt]
      rw [← equal]
      rfl
    · simp only [equal, if_false, ne_eq, not_false_eq_true, if_true]
      rfl

/-- Swapping against the value just loaded is storing. -/
theorem atomicRamCompareExchange_eq (loaded : atomicRamLoad memory address width = some expected)
    (desired : Bytes8) : ∃ observed, atomicRamCompareExchange memory address width expected desired =
      (atomicRamStore memory address desired width).map fun after => (true, observed, after) := by
  obtain ⟨hostIndex, aligned, _⟩ := Option.map_eq_some_iff.mp loaded
  obtain rfl := Option.some.inj ((atomicRamLoad_word aligned).symm.trans loaded)
  have equal : atomicWord memory hostIndex width =
      ((atomicWord memory hostIndex width).signExtend 64).setWidth (8 * width.byteLength) := by
    have narrow : 8 * width.byteLength ≤ 64 := by cases width <;> decide
    refine BitVec.eq_of_getLsbD_eq fun bit inside => ?_
    have wide : bit < 64 := by omega
    rw [BitVec.getLsbD_setWidth, BitVec.getLsbD_signExtend, if_pos inside, decide_eq_true inside, decide_eq_true wide]
    rfl
  exact ⟨_, (atomicRamCompareExchange_word aligned _ desired).trans (if_pos equal)⟩

theorem atomicLoadBytes_some (loaded : atomicLoadBytes memory address width = some value) :
    inRam memory address = true ∧ atomicRamLoad memory address width = some value := by
  rw [atomicLoadBytes] at loaded
  split at loaded
  · rename_i inside
    exact ⟨inside, loaded⟩
  · cases loaded

/-- Where a load succeeds, so does a store. -/
theorem atomicRamStore_some (loaded : atomicRamLoad memory address width = some value) (source : Bytes8) :
    ∃ after, atomicRamStore memory address source width = some after := by
  obtain ⟨hostIndex, aligned, _⟩ := Option.map_eq_some_iff.mp loaded
  exact ⟨_, Option.map_eq_some_iff.mpr ⟨hostIndex, aligned, rfl⟩⟩

/-- The exchange loop stores the combined value in its first turn. -/
theorem amoLoop_eq (loaded : atomicLoadBytes memory address width = some oldValue) (combine : AmoCombine)
    (source : Bytes8) : ∃ after, atomicRamStore memory address (combine oldValue source width) width = some after ∧
      amoLoop combine address source width 1 oldValue memory = (oldValue, after) := by
  obtain ⟨inside, read⟩ := atomicLoadBytes_some loaded
  obtain ⟨after, stored⟩ := atomicRamStore_some read (combine oldValue source width)
  obtain ⟨observed, exchanged⟩ := atomicRamCompareExchange_eq read (combine oldValue source width)
  refine ⟨after, stored, ?_⟩
  simp only [amoLoop, atomicCompareExchangeBytes, inside, if_true, exchanged, stored, Option.map_some]

theorem amoLoop_atomicStore (loaded : atomicLoadBytes memory address width = some oldValue)
    (combine : AmoCombine) (source : Bytes8) : ∃ hostIndex after,
      amoLoop combine address source width 1 oldValue memory = (oldValue, after) ∧
        AtomicStore memory hostIndex address (combine oldValue source width) width after := by
  obtain ⟨after, stored, result⟩ := amoLoop_eq loaded combine source
  obtain ⟨hostIndex, operation⟩ := atomicRamStore_atomicStore stored
  exact ⟨hostIndex, after, result, operation⟩

/-- A hart holds exactly the reservation its slot shows. -/
theorem reservationHoldsLocked_iff : reservationHoldsLocked memory hartId address byteLength = true ↔
    reservationOf memory hartId = some ⟨address, BitVec.ofNat 32 byteLength⟩ := by
  rw [reservationHoldsLocked]
  by_cases free : reservationSlotValid memory hartId = 0
  · rw [if_pos free, reservationOf_free free]
    simp
  · rw [if_neg free, reservationOf_held free]
    by_cases same : reservationSlotWidth memory hartId = BitVec.ofNat 32 byteLength
    · simp [same, BitVec.toNat_inj]
    · simp [same]

theorem tryTakeReservation_fst (valid : hartId < reservationHartCount) :
    (tryTakeReservation memory hartId address byteLength).1 = true ↔
      reservationOf memory hartId = some ⟨address, BitVec.ofNat 32 byteLength⟩ := by
  have ready : isValidHartId hartId = true := by
    simpa [isValidHartId] using valid
  rw [← reservationOf_acquire, ← reservationHoldsLocked_iff]
  simp only [tryTakeReservation, ready, Bool.not_true, Bool.false_eq_true, if_false]
  split
  · rename_i lost
    simpa using lost
  · rename_i kept
    simpa using kept

/-- The end of a store-conditional: take the reservation, and store if it held. -/
def takeAndStore (memory : Memory) (hartId : Nat) (address source : Bytes8) (width : AtomicWidth) : Memory :=
  let (success, memory) := tryTakeReservation memory hartId address width.byteLength
  let memory := if success then (atomicStoreBytes memory address source width).2 else memory
  releaseScMonitorIfHeld memory

theorem tryTakeReservation_lost (valid : hartId < reservationHartCount)
    (lost : (tryTakeReservation memory hartId address byteLength).1 = false) :
    tryTakeReservation memory hartId address byteLength =
      (false, releaseMonitorLock (clearReservationLocked (acquireMonitorLock memory) hartId)) := by
  have ready : isValidHartId hartId = true := by
    simpa [isValidHartId] using valid
  simp only [tryTakeReservation, ready, Bool.not_true, Bool.false_eq_true, if_false] at lost ⊢
  split
  · rfl
  · rename_i kept
    rw [if_neg kept] at lost
    cases lost

theorem tryTakeReservation_held (held : (tryTakeReservation memory hartId address byteLength).1 = true) :
    tryTakeReservation memory hartId address byteLength =
      (true, { acquireMonitorLock memory with
        worker := { (acquireMonitorLock memory).worker with scMonitorHeld := true } }) := by
  simp only [tryTakeReservation] at held ⊢
  split
  · rename_i bad
    rw [if_pos bad] at held
    cases held
  · rename_i good
    rw [if_neg good] at held
    split
    · rename_i lost
      rw [if_pos lost] at held
      cases held
    · rfl

/-- Without the reservation the hart's slot is cleared and nothing else happens. -/
theorem takeAndStore_lost (valid : hartId < reservationHartCount) (idle : memory.worker.scMonitorHeld = false)
    (lost : (tryTakeReservation memory hartId address width.byteLength).1 = false) (source : Bytes8) :
    Confined [reservationRegionId] memory (takeAndStore memory hartId address source width) ∧
      ∀ other, reservationOf (takeAndStore memory hartId address source width) other =
        if other = hartId then none else reservationOf memory other := by
  have confined : Confined [reservationRegionId] memory
      (withMonitorLock memory fun memory => ((), clearReservationLocked memory hartId)).2 :=
    withMonitorLock_confined (clearReservationLocked_confined valid)
  have unheld : (releaseMonitorLock (clearReservationLocked (acquireMonitorLock memory) hartId)).worker.scMonitorHeld =
      false := by
    obtain ⟨hrtime, kept⟩ := confined.locks
    exact (congrArg Worker.scMonitorHeld kept).trans idle
  have result : takeAndStore memory hartId address source width =
      releaseMonitorLock (clearReservationLocked (acquireMonitorLock memory) hartId) := by
    simp only [takeAndStore, tryTakeReservation_lost valid lost, releaseScMonitorIfHeld, unheld,
      Bool.false_eq_true, if_false, Bool.not_false, if_true]
  rw [result]
  refine ⟨confined, fun other => ?_⟩
  rw [reservationOf_release, reservationOf_clear, reservationOf_acquire]

theorem alignedRamAddressToHostIndex_congr (layout : after.layout = memory.layout) :
    alignedRamAddressToHostIndex after address width = alignedRamAddressToHostIndex memory address width := by
  simp only [alignedRamAddressToHostIndex, ramAddressToHostIndex, layout]

/-- Releasing a lock kept across calls. -/
theorem releaseScMonitorIfHeld_held (held : memory.worker.scMonitorHeld = true) : releaseScMonitorIfHeld memory =
    releaseMonitorLock { memory with worker := { memory.worker with scMonitorHeld := false } } := by
  rw [releaseScMonitorIfHeld, held]
  rfl

theorem releaseScMonitorIfHeld_free (free : memory.worker.scMonitorHeld = false) :
    releaseScMonitorIfHeld memory = memory := by
  rw [releaseScMonitorIfHeld, free]
  rfl

/-- With the reservation the value is stored under the lock kept, which is then released. -/
theorem takeAndStore_stores (held : (tryTakeReservation memory hartId address width.byteLength).1 = true)
    (loaded : atomicLoadBytes memory address width = some value) (source : Bytes8) :
    ∃ locked stored, locked = { acquireMonitorLock memory with
        worker := { (acquireMonitorLock memory).worker with scMonitorHeld := true } } ∧
      locked.layout = memory.layout ∧ atomicRamStore locked address source width = some stored ∧
      takeAndStore memory hartId address source width = releaseScMonitorIfHeld (releaseScMonitorIfHeld stored) := by
  obtain ⟨inside, read⟩ := atomicLoadBytes_some loaded
  obtain ⟨locked, taken⟩ : ∃ locked, locked = { acquireMonitorLock memory with
        worker := { (acquireMonitorLock memory).worker with scMonitorHeld := true } } := ⟨_, rfl⟩
  have layout : locked.layout = memory.layout := by
    rw [taken]
    exact acquireMonitorLock_changes.layout
  have stillInside : inRam locked address = true := by
    rw [inRam, layout]
    exact inside
  obtain ⟨hostIndex, aligned, _⟩ := Option.map_eq_some_iff.mp read
  obtain ⟨stored, written⟩ : ∃ stored, atomicRamStore locked address source width = some stored :=
    ⟨_, Option.map_eq_some_iff.mpr ⟨hostIndex, (alignedRamAddressToHostIndex_congr layout).trans aligned, rfl⟩⟩
  refine ⟨locked, stored, taken, layout, written, ?_⟩
  simp only [takeAndStore, tryTakeReservation_held held, ← taken, if_true, atomicStoreBytes, stillInside, written]

/-- With the reservation the value is stored, as any atomic store does. -/
theorem takeAndStore_held (idle : memory.worker.scMonitorHeld = false)
    (held : (tryTakeReservation memory hartId address width.byteLength).1 = true)
    (loaded : atomicLoadBytes memory address width = some value) (source : Bytes8) :
    ∃ hostIndex, AtomicStore memory hostIndex address source width
      (takeAndStore memory hartId address source width) := by
  obtain ⟨locked, stored, taken, layout, written, stores⟩ := takeAndStore_stores held loaded source
  have acquired : ChangesOnly (InMonitor memory.layout) memory locked := by
    rw [taken]
    exact ⟨acquireMonitorLock_changes.layout, acquireMonitorLock_changes.bytes⟩
  obtain ⟨index, operation⟩ := atomicRamStore_atomicStore written
  obtain ⟨hrtime, kept⟩ := operation.confined.locks
  have heldAfter : stored.worker.scMonitorHeld = true := by
    rw [kept, taken]
  generalize released : releaseMonitorLock
    { stored with worker := { stored.worker with scMonitorHeld := false } } = final
  have worker : final.worker = { memory.worker with hrtime := hrtime } := by
    rw [← released, releaseMonitorLock, SpinLock.release_worker, kept, taken, acquireMonitorLock]
    simp only [SpinLock.acquire_worker]
    rw [← idle]
    rfl
  have result : takeAndStore memory hartId address source width = final := by
    have free : final.worker.scMonitorHeld = false := by
      rw [worker]
      exact idle
    rw [stores, releaseScMonitorIfHeld_held heldAfter, released, releaseScMonitorIfHeld_free free]
  rw [result]
  have storedLayout : stored.layout = memory.layout := operation.confined.layout.trans layout
  have freed : ChangesOnly (InMonitor stored.layout) stored final := by
    have changes : ChangesOnly (InMonitor stored.layout)
        { stored with worker := { stored.worker with scMonitorHeld := false } } final := by
      rw [← released]
      exact releaseMonitorLock_changes { stored with worker := { stored.worker with scMonitorHeld := false } }
    exact ⟨changes.layout, changes.bytes⟩
  have inner := operation.confined.changes
  rw [layout] at inner
  rw [storedLayout] at freed
  refine ⟨index, (alignedRamAddressToHostIndex_congr layout).symm.trans operation.aligned, ⟨?_, hrtime, worker⟩,
    fun position outside => ?_, fun other valid => ?_⟩
  · refine ((acquired.mono ?_).trans inner).trans (freed.mono ?_) <;>
    · rintro position ⟨id, member, rest⟩
      exact ⟨id, List.mem_append_left _ member, rest⟩
  · rw [freed.bytes position outside, operation.bytes position (by rwa [layout]), acquired.bytes position outside]
  · have table := operation.reservationOf other valid
    have start : reservationOf locked other = reservationOf memory other := by
      rw [taken, reservationOf_worker, reservationOf_acquire]
    rw [start] at table
    rw [← released, reservationOf_release, reservationOf_worker]
    exact table

end YaRiscV.Emulator
