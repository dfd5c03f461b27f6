import YaRiscV.Emulator.Unwinding

/-! What the operations on memory do to the reservation monitor's lock: each gives it back,
also where it throws. -/

namespace YaRiscV.Emulator

open YaRiscV.Library YaRiscV.Library.Unwinding YaRiscV.Utils

/-- Nobody holds the lock, and this worker keeps nothing for a store-conditional. -/
structure MonitorFree (memory : Memory) : Prop where
  depth : memory.worker.monitorLockDepth = 0
  word : memory.load32 memory.layout.reservation = 0
  kept : memory.worker.scMonitorHeld = false

variable {memory after : Memory} {ids : List String}

theorem Confined.monitorFree (confined : Confined ids memory after) (other : reservationRegionId ∉ ids)
    (free : MonitorFree memory) : MonitorFree after := by
  obtain ⟨hrtime, worker⟩ := confined.locks
  constructor
  case depth =>
    rw [worker]
    exact free.depth
  case kept =>
    rw [worker]
    exact free.kept
  case word =>
    rw [confined.layout, ← free.word]
    refine Memory.load32_congr fun offset inside => ?_
    refine confined.bytes memory.layout.reservationFound other (Nat.le_add_right _ _) ?_
    simp only [reservationHostByteLength]
    omega

theorem releaseMonitorLock_last (depth : memory.worker.monitorLockDepth = 1)
    (kept : memory.worker.scMonitorHeld = false) : MonitorFree (releaseMonitorLock memory) := by
  have worker : (releaseMonitorLock memory).worker = { memory.worker with monitorLockDepth := 0 } := by
    rw [releaseMonitorLock, SpinLock.release_worker]
    simp only [monitorLock, depth]
  constructor
  case depth => rw [worker]
  case kept =>
    rw [worker]
    exact kept
  case word =>
    simp only [releaseMonitorLock, SpinLock.release, monitorLock, depth]
    exact Memory.load32_store32 0

theorem releaseScMonitorIfHeld_last (depth : memory.worker.monitorLockDepth = 1)
    (kept : memory.worker.scMonitorHeld = true) : MonitorFree (releaseScMonitorIfHeld memory) := by
  rw [releaseScMonitorIfHeld_held kept]
  exact releaseMonitorLock_last depth rfl

theorem MonitorFree.acquired (free : MonitorFree memory) :
    (acquireMonitorLock memory).worker = { memory.worker with monitorLockDepth := 1 } := by
  rw [acquireMonitorLock, SpinLock.acquire_worker]
  simp only [monitorLock, free.depth]

/-- A locked section that leaves the lock to its end gives it back. -/
theorem MonitorFree.section (free : MonitorFree memory) (locks : SameLocks (acquireMonitorLock memory) after) :
    MonitorFree (releaseMonitorLock after) := by
  obtain ⟨hrtime, worker⟩ := locks
  rw [free.acquired] at worker
  refine releaseMonitorLock_last ?_ ?_
  · rw [worker]
  · rw [worker]
    exact free.kept

/-! Atomics. -/

theorem loadAndReserve_free (free : MonitorFree memory) (registers : Registers) (address : Bytes8)
    (width : AtomicWidth) : MonitorFree (loadAndReserve registers memory address width).2 := by
  refine free.section ?_
  split
  · exact .of_worker rfl
  · exact setReservationLocked_confined.locks

theorem atomicRamStore_free (free : MonitorFree memory)
    (stored : atomicRamStore memory address source width = some after) : MonitorFree after := by
  obtain ⟨hostIndex, aligned, rfl⟩ := Option.map_eq_some_iff.mp stored
  have inside : (acquireMonitorLock memory).layout.ram.hostIndex ≤ hostIndex ∧
      hostIndex + width.byteLength ≤ (acquireMonitorLock memory).layout.ram.hostIndex +
        (acquireMonitorLock memory).layout.ram.hostByteLength := by
    rw [acquireMonitorLock_changes.layout]
    exact alignedRam_inside aligned
  have written := storeAtomic_confined inside source
  have invalidated : Confined [reservationRegionId] (storeAtomic (acquireMonitorLock memory) hostIndex width source)
      (invalidateOverlappingReservationsLocked (storeAtomic (acquireMonitorLock memory) hostIndex width source)
        address width.byteLength) := invalidate_confined
  exact free.section (written.locks.trans invalidated.locks)

/-- A hart without a slot has no reservation to lose. -/
theorem tryTakeReservation_invalid (invalid : ¬ hartId < reservationHartCount) :
    tryTakeReservation memory hartId address byteLength = (false, memory) := by
  have refused : isValidHartId hartId = false := decide_eq_false invalid
  simp only [tryTakeReservation, refused, Bool.not_false, if_true]

theorem takeAndStore_invalid (invalid : ¬ hartId < reservationHartCount) (free : MonitorFree memory) :
    takeAndStore memory hartId address source width = memory := by
  simp only [takeAndStore, tryTakeReservation_invalid invalid, Bool.false_eq_true, if_false,
    releaseScMonitorIfHeld_free free.kept]

/-- Under a kept lock the RAM store leaves the lock kept, and nothing else holds it. -/
theorem atomicRamStore_kept {locked stored : Memory} (free : MonitorFree memory)
    (taken : locked = { acquireMonitorLock memory with
      worker := { (acquireMonitorLock memory).worker with scMonitorHeld := true } })
    (written : atomicRamStore locked address source width = some stored) :
    stored.worker.monitorLockDepth = 1 ∧ stored.worker.scMonitorHeld = true := by
  obtain ⟨hostIndex, operation⟩ := atomicRamStore_atomicStore written
  obtain ⟨hrtime, worker⟩ := operation.confined.locks
  rw [worker, taken, free.acquired]
  exact ⟨rfl, rfl⟩

/-- The end of a store-conditional, whether its reservation holds or is lost. -/
theorem takeAndStore_free (free : MonitorFree memory) (hartId : Nat)
    (loaded : atomicLoadBytes memory address width = some value) (source : Bytes8) :
    MonitorFree (takeAndStore memory hartId address source width) := by
  by_cases valid : hartId < reservationHartCount
  · cases taken : (tryTakeReservation memory hartId address width.byteLength).1 with
    | false =>
      have cleared : Confined [reservationRegionId] (acquireMonitorLock memory)
          (clearReservationLocked (acquireMonitorLock memory) hartId) := clearReservationLocked_confined valid
      have released := free.section cleared.locks
      simp only [takeAndStore, tryTakeReservation_lost valid taken, Bool.false_eq_true, if_false,
        releaseScMonitorIfHeld_free released.kept]
      exact released
    | true =>
      obtain ⟨locked, stored, opened, _, written, stores⟩ := takeAndStore_stores taken loaded source
      obtain ⟨depth, kept⟩ := atomicRamStore_kept free opened written
      have closed := releaseScMonitorIfHeld_last depth kept
      rw [stores, releaseScMonitorIfHeld_free closed.kept]
      exact closed
  · rw [takeAndStore_invalid valid free]
    exact free

/-! Accesses to the regions, thrown or not. -/

instance : Std.Refl (Confined ids) := ⟨fun _ => .refl⟩

instance : IsTrans Memory (Confined ids) := ⟨fun _ _ _ => .trans⟩

/-- What an access to a region does to the rest of the buffer, once the transmit tail is a slot. -/
def RegionEffect (before after : Memory) : Prop :=
  TransmitTailValid before → Confined storeReach before after ∧ TransmitTailValid after

instance : Std.Refl RegionEffect := ⟨fun _ tail => ⟨.refl, tail⟩⟩

instance : IsTrans Memory RegionEffect := ⟨fun _ _ _ first second tail =>
  have middle := first tail
  have last := second middle.2
  ⟨middle.1.trans last.1, last.2⟩⟩

theorem RegionEffect.of_confined (confined : Confined ids memory after) (reach : ids ⊆ storeReach)
    (other : uartRegionId ∉ ids) : RegionEffect memory after :=
  fun tail => ⟨confined.mono reach, tail.of_confined confined other⟩

theorem RegionEffect.free (effect : RegionEffect memory after) (free : MonitorFree memory)
    (tail : TransmitTailValid memory) : MonitorFree after :=
  (effect tail).1.monitorFree (by decide) free

theorem regionEffect_within {call : Unwinding.MemoryCall Result} (within : Within (Confined ids) call)
    (reach : ids ⊆ storeReach) (other : uartRegionId ∉ ids) : Within RegionEffect call :=
  fun memory => .of_confined (within memory) reach other

theorem refreshUartIrq_region (memory : Memory) : RegionEffect memory (refreshUartIrq memory) :=
  .of_confined setPlicSourcePending_confined (by decide) (by decide)

theorem storeUart_region (inside : offset < uartHostByteLength) (other : offset ≠ 11) (value : BitVec 8) :
    RegionEffect memory (memory.store (uartByteIndex memory offset) value) :=
  fun tail => ⟨(storeUart_confined inside value).mono (by decide), tail.storeUart other value⟩

theorem loadUartRegister_region (memory : Memory) (registerIndex : Nat) :
    RegionEffect memory (loadUartRegister memory registerIndex).2 := by
  have cleared : RegionEffect memory (setThreIrqSticky memory false) := storeUart_region (by decide) (by decide) _
  have popped : RegionEffect memory (popReceive memory).2 := by
    simp only [popReceive]
    split
    · exact Std.Refl.refl memory
    · exact storeUart_region (by decide) (by decide) _
  simp only [loadUartRegister]
  split
  · exact IsTrans.trans _ _ _ popped (refreshUartIrq_region _)
  split
  · split
    · exact IsTrans.trans _ _ _ cleared (refreshUartIrq_region _)
    · exact Std.Refl.refl memory
  split <;> exact Std.Refl.refl memory

theorem loadBytesFromUart_region (memory : Memory) (destination : Bytes8) (offset byteLength : Nat) :
    RegionEffect memory (loadBytesFromUart memory destination offset byteLength).2 := by
  refine forEachIndex_preserves (fun reached : Bytes8 × Memory => RegionEffect memory reached.2)
    (Std.Refl.refl memory) fun byteIndex _ reached effect => ?_
  obtain ⟨destination, middle⟩ := reached
  simp only [loadUartTurn]
  split
  · exact IsTrans.trans _ _ _ effect (loadUartRegister_region middle _)
  · exact effect

theorem claimPlicSource_confined (memory : Memory) (context : PlicContext) :
    Confined plicReach memory (claimPlicSource memory context).2 := by
  refine withPlicGatewayLock_confined (Confined.trans ?_ refreshAllContextWires_confined)
  split
  · rename_i selected
    have valid := mem_sources.mp (selectClaimableSource_best selected).member
    exact (updateSourceBit_confined (by decide) valid).trans
      (updateSourceBit_confined (by cases context <;> decide) valid)
  · exact .refl

theorem loadPlicByte_confined (memory : Memory) (address : Bytes8) :
    Confined plicReach memory (loadPlicByte memory address).2 := by
  simp only [loadPlicByte]
  split
  · exact .refl
  · split
    · exact .refl
    · exact claimPlicSource_confined memory _
  · split <;> exact .refl

theorem loadBytesFromPlic_confined (destination : Bytes8) (memory : Memory) (address : Bytes8) (byteLength : Nat) :
    Confined plicReach memory (loadBytesFromPlic destination memory address byteLength).2 :=
  forEachIndex_preserves (fun reached : Bytes8 × Memory × Bytes8 => Confined plicReach memory reached.2.1) .refl
    fun _ _ _ confined => confined.trans (loadPlicByte_confined _ _)

namespace Unwinding

theorem timebaseHz_within : Within (Confined clintReach) timebaseHz := by
  refine Within.get.bind fun memory => ?_
  dsimp only
  split
  · exact .throw _
  · exact .pure _

theorem readHostClock_within : Within (Confined clintReach) readHostClock :=
  .modifyGet fun _ => readHostClock_confined

theorem reseatEpochForMtime_within (mtime : Nat) : Within (Confined clintReach) (reseatEpochForMtime mtime) :=
  readHostClock_within.bind fun _ => timebaseHz_within.bind fun _ =>
    .modify fun _ => storeClintUint64_confined (by decide) _

theorem updateTimerWires_within : Within (Confined clintReach) (modify updateTimerWiresFromCompare : MemoryCall Unit) :=
  .modify fun _ => updateTimerWiresFromCompare_confined

theorem tickClintLoop_within (fuel : Nat) : Within (Confined clintReach) (tickClintLoop fuel) := by
  induction fuel with
  | zero => exact .pure ()
  | succ fuel ih =>
    refine Within.get.bind fun _ => readHostClock_within.bind fun _ => timebaseHz_within.bind fun _ =>
      Within.get.bind fun _ => Within.bind (.modifyGet fun _ => compareExchangeTimeRegister_confined) fun found => ?_
    split
    · exact ih
    · refine Within.get.bind fun _ => ?_
      split
      · exact ih
      · exact updateTimerWires_within

theorem syncTimeRegister_within (register : ClintTimeRegister) :
    Within (Confined clintReach) (syncTimeRegister register) := by
  simp only [syncTimeRegister]
  split
  · exact (tickClintLoop_within 1).bind fun _ => Within.get.bind fun _ => .pure _
  · exact Within.get.bind fun _ => .pure _

theorem storeClintTimeBytesLoop_within (register : ClintTimeRegister) (byteOffset : Nat) (source : Bytes8)
    (byteLength fuel : Nat) :
    Within (Confined clintReach) (storeClintTimeBytesLoop register byteOffset source byteLength fuel) := by
  induction fuel with
  | zero => exact .pure ()
  | succ fuel ih =>
    refine Within.get.bind fun _ =>
      Within.bind (.modifyGet fun _ => compareExchangeTimeRegister_confined) fun found => ?_
    split
    · exact ih
    · split
      · exact (reseatEpochForMtime_within _).bind fun _ => updateTimerWires_within
      · exact updateTimerWires_within

theorem readClintMtimeBytes_within : Within (Confined clintReach) readClintMtimeBytes :=
  (tickClintLoop_within 1).bind fun _ => Within.get.bind fun _ => .pure _

theorem loadClintTurn_within (offset : Int) (byteIndex : Nat) (destination : Bytes8) :
    Within (Confined clintReach) (loadClintTurn offset byteIndex destination) := by
  simp only [loadClintTurn]
  split
  · exact .pure _
  · rename_i register byteOffset _
    cases register with
    | msip => exact Within.bind (Within.get.bind fun _ => .pure _) fun _ => .pure _
    | time register => exact Within.bind ((syncTimeRegister_within register).bind fun _ => .pure _) fun _ => .pure _

theorem loadBytesFromClint_within (destination : Bytes8) (offset : Int) (byteLength : Nat) :
    Within (Confined clintReach) (loadBytesFromClint destination offset byteLength) := by
  simp only [loadBytesFromClint]
  split
  · exact (syncTimeRegister_within _).bind fun _ => .pure _
  · exact .forEachCall (loadClintTurn_within offset) byteLength destination

theorem storeClintTurn_within (offset : Int) (source : Bytes8) (byteIndex : Nat) :
    Within (Confined clintReach) (storeClintTurn offset source byteIndex) := by
  simp only [storeClintTurn]
  split
  · exact .pure ()
  · rename_i register byteOffset _
    cases register with
    | msip =>
      refine .modify fun memory => ?_
      split
      · exact setClintIrqWire_confined (by decide)
      · exact .refl
    | time register => exact storeClintTimeBytesLoop_within _ _ _ _ _

theorem storeBytesToClint_within (offset : Int) (source : Bytes8) (byteLength : Nat) :
    Within (Confined clintReach) (storeBytesToClint offset source byteLength) := by
  simp only [storeBytesToClint]
  split
  · exact storeClintTimeBytesLoop_within _ _ _ _ _
  · exact .forEachCall (fun byteIndex _ => storeClintTurn_within offset source byteIndex) byteLength ()

theorem storeBytesToRegion_within (address source : Bytes8) (byteLength : Nat) :
    Within RegionEffect (storeBytesToRegion address source byteLength) := by
  refine Within.get.bind fun memory => ?_
  cases resolveGuestAddressToRegionAndOffset memory.layout.table address with
  | none => exact .pure ()
  | some resolved =>
    obtain ⟨regionId, offset⟩ := resolved
    dsimp only
    split
    · exact .modify fun _ => .of_confined storeBytesToRam_confined (by decide) (by decide)
    split
    · exact .modify fun _ tail => ⟨(storeBytesToUart_confined tail).1.mono (by decide), (storeBytesToUart_confined tail).2⟩
    split
    · exact regionEffect_within (storeBytesToClint_within offset source byteLength) (by decide) (by decide)
    split
    · exact .modify fun _ => .of_confined storeBytesToPlic_confined (by decide) (by decide)
    split
    · exact .modify fun _ => .of_confined storeBytesToSyscon_confined (by decide) (by decide)
    · exact .pure ()

theorem loadBytes_within (address : Bytes8) (byteLength : Nat) :
    Within RegionEffect (loadBytes address byteLength) := by
  refine Within.get.bind fun memory => ?_
  cases resolveGuestAddressToRegionAndOffset memory.layout.table address with
  | none => exact .pure _
  | some resolved =>
    obtain ⟨regionId, offset⟩ := resolved
    dsimp only
    split
    · exact Within.get.bind fun _ => .pure _
    split
    · exact .modifyGet fun _ => loadBytesFromUart_region _ _ _ _
    split
    · exact regionEffect_within (loadBytesFromClint_within _ _ _) (by decide) (by decide)
    split
    · exact .modifyGet fun _ => .of_confined (loadBytesFromPlic_confined _ _ _ _) (by decide) (by decide)
    split
    · exact Within.get.bind fun _ => .pure _
    · exact .pure _

/-- A store gives the lock back, whether its region returns or throws. -/
theorem storeBytes_free (free : MonitorFree memory) (tail : TransmitTailValid memory) (address source : Bytes8)
    (byteLength : Nat) : MonitorFree (left (storeBytes address source byteLength) memory) ∧
      TransmitTailValid (left (storeBytes address source byteLength) memory) := by
  have invalidated : Confined [reservationRegionId] (acquireMonitorLock memory)
      (invalidateOverlappingReservationsLocked (acquireMonitorLock memory) address byteLength) := invalidate_confined
  have opened : TransmitTailValid (acquireMonitorLock memory) :=
    tail.of_changes acquireMonitorLock_changes (by decide)
  obtain ⟨reached, kept⟩ := storeBytesToRegion_within address source byteLength _
    (opened.of_confined invalidated (by decide))
  have released := free.section (invalidated.locks.trans reached.locks)
  have closed := kept.of_changes (releaseMonitorLock_changes _) (by decide)
  simp only [storeBytes, withMonitorLock, left_finally, left_modify_bind]
  rw [releaseScMonitorIfHeld_free released.kept]
  exact ⟨released, closed⟩

end Unwinding

end YaRiscV.Emulator
