import YaRiscV.Emulator.Confinement

/-! The reservation slots as a table from harts to what each one reserved, and what every
operation of the monitor does to that table. -/

namespace YaRiscV.Emulator

open YaRiscV.Library YaRiscV.Utils

/-- What a valid slot holds. -/
structure Reservation where
  address : Bytes8
  width : BitVec 32
  deriving DecidableEq, Repr

def Reservation.line (reservation : Reservation) : Nat :=
  reservationLineBase reservation.address.toNat

/-- The reservation of a hart, if its slot is valid. -/
def reservationOf (memory : Memory) (hartId : Nat) : Option Reservation :=
  if reservationSlotValid memory hartId = 0 then none
  else some ⟨reservationSlotAddress memory hartId, reservationSlotWidth memory hartId⟩

variable {memory after : Memory} {hartId other : Nat}

/-- The slot of a hart keeps what it holds while its bytes stay. -/
theorem reservationOf_congr (layout : after.layout = memory.layout)
    (same : ∀ offset < 16, after.bytes (reservationSlotHostIndex memory hartId + offset) =
      memory.bytes (reservationSlotHostIndex memory hartId + offset)) :
    reservationOf after hartId = reservationOf memory hartId := by
  have slot : reservationSlotHostIndex after hartId = reservationSlotHostIndex memory hartId := by
    rw [reservationSlotHostIndex, reservationSlotHostIndex, layout]
  have valid : reservationSlotValid after hartId = reservationSlotValid memory hartId := by
    rw [reservationSlotValid, reservationSlotValid, slot]
    exact Memory.load32_congr fun offset inside => same offset (by omega)
  have width : reservationSlotWidth after hartId = reservationSlotWidth memory hartId := by
    rw [reservationSlotWidth, reservationSlotWidth, slot]
    refine Memory.load32_congr fun offset inside => ?_
    rw [Nat.add_assoc]
    exact same (4 + offset) (by omega)
  have address : reservationSlotAddress after hartId = reservationSlotAddress memory hartId := by
    rw [reservationSlotAddress, reservationSlotAddress, slot]
    refine Memory.load64_congr fun offset inside => ?_
    rw [Nat.add_assoc]
    exact same (8 + offset) (by omega)
  rw [reservationOf, reservationOf, valid, width, address]

/-- Whatever stays out of the slab leaves the table alone. -/
theorem reservationOf_confined (changes : ChangesOnly (InRegions memory.layout ids) memory after)
    (other : reservationRegionId ∉ ids) (inside : hartId < reservationHartCount) :
    reservationOf after hartId = reservationOf memory hartId := by
  refine reservationOf_congr changes.layout fun offset small => changes.bytes _ fun reached => ?_
  have apart := reached.apart memory.layout.reservationFound other
  simp only [reservationHartCount, reservationSlotHostIndex, reservationLockBytes, reservationLockPad,
    reservationSlotSize, reservationHostByteLength] at inside apart
  omega

theorem reservationOf_acquire : reservationOf (acquireMonitorLock memory) hartId = reservationOf memory hartId := by
  have changes : ChangesOnly (monitorLock.Covers memory.layout) memory (acquireMonitorLock memory) :=
    SpinLock.acquire_changesOnly
  refine reservationOf_congr changes.layout fun offset small => changes.bytes _ fun covered => ?_
  simp only [SpinLock.Covers, monitorLock, reservationSlotHostIndex, reservationLockBytes,
    reservationLockPad] at covered
  omega

theorem reservationOf_release : reservationOf (releaseMonitorLock memory) hartId = reservationOf memory hartId := by
  have changes : ChangesOnly (monitorLock.Covers memory.layout) memory (releaseMonitorLock memory) :=
    SpinLock.release_changesOnly
  refine reservationOf_congr changes.layout fun offset small => changes.bytes _ fun covered => ?_
  simp only [SpinLock.Covers, monitorLock, reservationSlotHostIndex, reservationLockBytes,
    reservationLockPad] at covered
  omega

theorem reservationOf_worker (worker : Worker) :
    reservationOf { memory with worker := worker } hartId = reservationOf memory hartId := rfl

theorem reservationOf_clear : reservationOf (clearReservationLocked memory hartId) other =
    if other = hartId then none else reservationOf memory other := by
  split
  · rename_i same
    subst same
    have cleared : reservationSlotValid (clearReservationLocked memory other) other = 0 :=
      Memory.load32_store32 0
    rw [reservationOf, if_pos cleared]
  · rename_i different
    refine reservationOf_congr rfl fun offset small => Memory.store32_outside 0 ?_
    simp only [reservationSlotHostIndex, reservationSlotSize]
    omega

/-- A turn that clears a slot when what it holds is revoked. -/
def revokeTurn (revoked : Nat → Reservation → Bool) (hartId : Nat) (memory : Memory) : Memory :=
  if (reservationOf memory hartId).any (revoked hartId) then clearReservationLocked memory hartId else memory

theorem reservationOf_revokeTurn (revoked : Nat → Reservation → Bool) :
    reservationOf (revokeTurn revoked hartId memory) other =
      if other = hartId then (reservationOf memory other).filter fun held => !revoked other held
      else reservationOf memory other := by
  rw [revokeTurn]
  by_cases same : other = hartId
  · subst same
    rw [if_pos rfl]
    cases held : reservationOf memory other with
    | none => simpa using held
    | some reservation =>
      cases gone : revoked other reservation with
      | true => simp [gone, reservationOf_clear, Option.filter_some]
      | false => simp [gone, held, Option.filter_some]
  · rw [if_neg same]
    split
    · rw [reservationOf_clear, if_neg same]
    · rfl

theorem reservationOf_revoke (revoked : Nat → Reservation → Bool) (count : Nat) :
    reservationOf (forEachIndex (revokeTurn revoked) count memory) other =
      if other < count then (reservationOf memory other).filter fun held => !revoked other held
      else reservationOf memory other := by
  induction count with
  | zero => rfl
  | succ count ih =>
    rw [forEachIndex, reservationOf_revokeTurn, ih]
    by_cases same : other = count
    · rw [if_pos same, if_neg (by omega), if_pos (by omega)]
    · by_cases below : other < count
      · rw [if_neg same, if_pos below, if_pos (by omega)]
      · rw [if_neg same, if_neg below, if_neg (by omega)]

/-- A line belongs to another hart that reserves it. -/
def displaced (hartId lineBase other : Nat) (held : Reservation) : Bool :=
  other != hartId && held.line == lineBase

/-- A store overlaps the line a hart reserved. -/
def overwritten (storeBase storeSize : Nat) (held : Reservation) : Bool :=
  rangesOverlap held.line reservationLineSize storeBase storeSize

theorem reservationOf_free (free : reservationSlotValid memory hartId = 0) :
    reservationOf memory hartId = none :=
  if_pos free

theorem reservationOf_held (held : reservationSlotValid memory hartId ≠ 0) : reservationOf memory hartId =
    some ⟨reservationSlotAddress memory hartId, reservationSlotWidth memory hartId⟩ :=
  if_neg held

theorem displaceTurn_eq (lineBase : Nat) (memory : Memory) :
    displaceTurn hartId lineBase other memory = revokeTurn (displaced hartId lineBase) other memory := by
  rw [displaceTurn, revokeTurn]
  by_cases own : other = hartId
  · rw [if_pos own, if_neg]
    cases reservationOf memory other <;> simp [displaced, own]
  rw [if_neg own]
  by_cases free : reservationSlotValid memory other = 0
  · rw [if_pos free, reservationOf_free free]
    rfl
  · rw [if_neg free, reservationOf_held free]
    simp [displaced, own, Reservation.line]

theorem invalidateTurn_eq (storeBase storeSize : Nat) (memory : Memory) :
    invalidateTurn storeBase storeSize other memory =
      revokeTurn (fun _ => overwritten storeBase storeSize) other memory := by
  rw [invalidateTurn, revokeTurn]
  by_cases free : reservationSlotValid memory other = 0
  · rw [if_pos free, reservationOf_free free]
    rfl
  · rw [if_neg free, reservationOf_held free]
    rfl

/-- A store clears exactly the slots whose line it overlaps. -/
theorem reservationOf_invalidate (positive : 0 < byteLength) (inside : other < reservationHartCount) :
    reservationOf (invalidateOverlappingReservationsLocked memory address byteLength) other =
      (reservationOf memory other).filter fun held => !overwritten address.toNat byteLength held := by
  rw [invalidateOverlappingReservationsLocked, if_neg (by omega), bytesToBigInt_eq,
    forEachIndex_congr fun index _ => invalidateTurn_eq address.toNat byteLength, reservationOf_revoke,
    if_pos inside]

/-- The three stores that arm a slot. -/
theorem reservationOf_arm (memory : Memory) (hartId other : Nat) (address : Bytes8) (width : BitVec 32) :
    reservationOf (((memory.store64 (reservationSlotHostIndex memory hartId + 8) address).store32
      (reservationSlotHostIndex memory hartId + 4) width).store32 (reservationSlotHostIndex memory hartId) 1) other =
      if other = hartId then some ⟨address, width⟩ else reservationOf memory other := by
  generalize slotted : reservationSlotHostIndex memory hartId = slot
  generalize armed : ((memory.store64 (slot + 8) address).store32 (slot + 4) width).store32 slot 1 = after
  have layout : after.layout = memory.layout := by
    rw [← armed]
    rfl
  split
  · rename_i same
    subst same
    have moved : reservationSlotHostIndex after other = slot := by
      rw [← slotted, reservationSlotHostIndex, reservationSlotHostIndex, layout]
    have valid : reservationSlotValid after other = 1 := by
      rw [reservationSlotValid, moved, ← armed, Memory.load32_store32]
    have widthHeld : reservationSlotWidth after other = width := by
      have kept : after.load32 (slot + 4) =
          ((memory.store64 (slot + 8) address).store32 (slot + 4) width).load32 (slot + 4) := by
        rw [← armed]
        exact Memory.load32_congr fun offset inside => Memory.store32_outside 1 (by omega)
      rw [reservationSlotWidth, moved, kept, Memory.load32_store32]
    have addressHeld : reservationSlotAddress after other = address := by
      have kept : after.load64 (slot + 8) = (memory.store64 (slot + 8) address).load64 (slot + 8) := by
        rw [← armed]
        exact Memory.load64_congr fun offset inside =>
          (Memory.store32_outside 1 (by omega)).trans (Memory.store32_outside width (by omega))
      rw [reservationSlotAddress, moved, kept, Memory.load64_store64]
    rw [reservationOf_held (by rw [valid]; decide), addressHeld, widthHeld]
  · rename_i different
    refine reservationOf_congr layout fun offset small => ?_
    have apart : reservationSlotHostIndex memory other + offset < slot ∨
        slot + 16 ≤ reservationSlotHostIndex memory other + offset := by
      rw [← slotted]
      simp only [reservationSlotHostIndex, reservationSlotSize]
      omega
    rw [← armed]
    exact (Memory.store32_outside 1 (by omega)).trans
      ((Memory.store32_outside width (by omega)).trans (Memory.store64_outside address (by omega)))

/-- A load-reserved claims its address, and takes the line from the other harts. -/
theorem reservationOf_set (valid : hartId < reservationHartCount) (inside : other < reservationHartCount) :
    reservationOf (setReservationLocked memory hartId address byteLength) other =
      if other = hartId then some ⟨address, BitVec.ofNat 32 byteLength⟩
      else (reservationOf memory other).filter fun held =>
        !(held.line == reservationLineBase address.toNat) := by
  have ready : isValidHartId hartId = true := by
    simpa [isValidHartId] using valid
  have displacedTable : reservationOf (forEachIndex (displaceTurn hartId (reservationLineBase address.toNat))
      reservationHartCount memory) other = (reservationOf memory other).filter fun held =>
        !displaced hartId (reservationLineBase address.toNat) other held := by
    rw [forEachIndex_congr fun index _ => displaceTurn_eq (reservationLineBase address.toNat),
      reservationOf_revoke, if_pos inside]
  simp only [setReservationLocked, ready, bytesToBigInt_eq, Bool.not_true, Bool.false_eq_true, if_false]
  generalize forEachIndex (displaceTurn hartId (reservationLineBase address.toNat)) reservationHartCount
    memory = cleared at displacedTable ⊢
  rw [BitVec.ofNat_toNat, BitVec.setWidth_eq]
  refine (reservationOf_arm cleared hartId other address _).trans ?_
  split
  · rfl
  · rename_i different
    have foreign : (other != hartId) = true := by
      simpa using different
    rw [displacedTable]
    simp only [displaced, foreign, Bool.true_and]

theorem inRegions_monitorLock (layout : Layout) (position : Nat) (covered : monitorLock.Covers layout position) :
    InRegions layout (reservationRegionId :: ids) position := by
  simp only [SpinLock.Covers, monitorLock] at covered
  have inside : position - layout.reservation < reservationHostByteLength := by
    simp only [reservationHostByteLength]
    omega
  have reached : InRegions layout (reservationRegionId :: ids)
      (layout.reservation + (position - layout.reservation)) :=
    inRegions_reservation List.mem_cons_self inside
  rwa [Nat.add_sub_cancel' covered.1] at reached

theorem withMonitorLock_confined {run : Memory → Result × Memory}
    (body : Confined (reservationRegionId :: ids) (acquireMonitorLock memory) (run (acquireMonitorLock memory)).2) :
    Confined (reservationRegionId :: ids) memory (withMonitorLock memory run).2 :=
  hold_confined monitorLock inRegions_monitorLock (fun _ _ => rfl) body

private theorem slot_confined (memory : Memory) (valid : hartId < reservationHartCount) (small : offset < 16) :
    InRegions memory.layout [reservationRegionId] (reservationSlotHostIndex memory hartId + offset) := by
  rw [reservationSlotHostIndex, Nat.add_assoc]
  refine inRegions_reservation List.mem_cons_self ?_
  simp only [reservationHartCount, reservationLockBytes, reservationLockPad, reservationSlotSize,
    reservationHostByteLength] at valid ⊢
  omega

theorem clearReservationLocked_confined (valid : hartId < reservationHartCount) :
    Confined [reservationRegionId] memory (clearReservationLocked memory hartId) :=
  .store32 (fun _ small => slot_confined memory valid (by omega)) 0

theorem revokeTurn_confined (revoked : Nat → Reservation → Bool) (valid : hartId < reservationHartCount) :
    Confined [reservationRegionId] memory (revokeTurn revoked hartId memory) := by
  rw [revokeTurn]
  split
  · exact clearReservationLocked_confined valid
  · exact .refl

theorem revoke_confined (revoked : Nat → Reservation → Bool) :
    Confined [reservationRegionId] memory (forEachIndex (revokeTurn revoked) reservationHartCount memory) :=
  forEachIndex_preserves (fun after => Confined [reservationRegionId] memory after) .refl
    fun _ valid _ confined => confined.trans (revokeTurn_confined revoked valid)

theorem invalidate_confined :
    Confined [reservationRegionId] memory (invalidateOverlappingReservationsLocked memory address byteLength) := by
  rw [invalidateOverlappingReservationsLocked]
  split
  · exact .refl
  · rw [forEachIndex_congr fun index _ => invalidateTurn_eq _ _]
    exact revoke_confined _

theorem setReservationLocked_confined :
    Confined [reservationRegionId] memory (setReservationLocked memory hartId address byteLength) := by
  simp only [setReservationLocked]
  split
  · exact .refl
  · rename_i ready
    have valid : hartId < reservationHartCount := by
      simpa [isValidHartId] using ready
    have cleared : Confined [reservationRegionId] memory (forEachIndex
        (displaceTurn hartId (reservationLineBase (bytesToBigInt address))) reservationHartCount memory) := by
      rw [forEachIndex_congr fun index _ => displaceTurn_eq _]
      exact revoke_confined _
    refine cleared.trans ?_
    generalize forEachIndex (displaceTurn hartId (reservationLineBase (bytesToBigInt address)))
      reservationHartCount memory = cleared
    have address : Confined [reservationRegionId] cleared (cleared.store64
        (reservationSlotHostIndex cleared hartId + 8) (BitVec.ofNat 64 (bytesToBigInt address))) :=
      .store64 (fun offset small => by rw [Nat.add_assoc]; exact slot_confined cleared valid (by omega)) _
    refine (address.trans (.store32 (fun offset small => ?_) _)).trans (.store32 (fun offset small => ?_) _)
    · rw [Nat.add_assoc]
      exact slot_confined cleared valid (by omega)
    · exact slot_confined cleared valid (by omega)

end YaRiscV.Emulator
