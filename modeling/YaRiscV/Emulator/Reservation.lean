import YaRiscV.Library.Transition
import YaRiscV.Emulator.SpinLock

/-! `reservation.ts`: one slot per hart with the line its last load-reserved claimed. -/

namespace YaRiscV.Emulator

open YaRiscV.Library YaRiscV.Utils

def reservationLineSize : Nat := 64
def reservationHartCount : Nat := 8
def reservationSlotSize : Nat := 16
def reservationLockBytes : Nat := 4
def reservationLockPad : Nat := 4

def monitorLock : SpinLock where
  word layout := layout.reservation
  depth worker := worker.monitorLockDepth
  setDepth worker value := { worker with monitorLockDepth := value }
  depth_set _ _ := rfl
  set_set _ _ _ := rfl
  set_depth := Eq.refl

/-- Guest-physical base of the line that contains `guestAddress`. -/
def reservationLineBase (guestAddress : Nat) : Nat :=
  andNot guestAddress (reservationLineSize - 1)

variable (memory : Memory)

def reservationSlotHostIndex (hartId : Nat) : Nat :=
  memory.layout.reservation + (reservationLockBytes + reservationLockPad + hartId * reservationSlotSize)

def reservationSlotValid (hartId : Nat) : BitVec 32 :=
  memory.load32 (reservationSlotHostIndex memory hartId)

def reservationSlotWidth (hartId : Nat) : BitVec 32 :=
  memory.load32 (reservationSlotHostIndex memory hartId + 4)

def reservationSlotAddress (hartId : Nat) : BitVec 64 :=
  memory.load64 (reservationSlotHostIndex memory hartId + 8)

def isValidHartId (hartId : Nat) : Bool :=
  decide (hartId < reservationHartCount)

def acquireMonitorLock : Memory := monitorLock.acquire memory

def releaseMonitorLock : Memory := monitorLock.release memory

/-- Release a lock kept by a successful `tryTakeReservation`. -/
def releaseScMonitorIfHeld : Memory :=
  if !memory.worker.scMonitorHeld then memory
  else releaseMonitorLock { memory with worker := { memory.worker with scMonitorHeld := false } }

def withMonitorLock (run : Memory → Result × Memory) : Result × Memory :=
  monitorLock.hold memory run

def clearReservationLocked (hartId : Nat) : Memory :=
  memory.store32 (reservationSlotHostIndex memory hartId) 0

def reservationHoldsLocked (hartId : Nat) (address : Bytes8) (byteLength : Nat) : Bool :=
  if reservationSlotValid memory hartId = 0 then false
  else if reservationSlotWidth memory hartId ≠ BitVec.ofNat 32 byteLength then false
  else (reservationSlotAddress memory hartId).toNat == bytesToBigInt address

/-- One turn of the loop of `setReservationLocked`: another hart loses the line. -/
def displaceTurn (hartId lineBase otherHartId : Nat) (memory : Memory) : Memory :=
  if otherHartId = hartId then memory
  else if reservationSlotValid memory otherHartId = 0 then memory
  else if reservationLineBase (reservationSlotAddress memory otherHartId).toNat = lineBase then
    clearReservationLocked memory otherHartId
  else memory

/-- Arm the slot of `hartId`; a line has one owner. -/
def setReservationLocked (hartId : Nat) (address : Bytes8) (byteLength : Nat) : Memory :=
  if !isValidHartId hartId then memory
  else
    let guestAddress := bytesToBigInt address
    let lineBase := reservationLineBase guestAddress
    let memory := forEachIndex (displaceTurn hartId lineBase) reservationHartCount memory
    let slot := reservationSlotHostIndex memory hartId
    let memory := memory.store64 (slot + 8) (BitVec.ofNat 64 guestAddress)
    let memory := memory.store32 (slot + 4) (BitVec.ofNat 32 byteLength)
    memory.store32 slot 1

/-- Keep a matching reservation and the lock, or clear the slot and fail. -/
def tryTakeReservation (hartId : Nat) (address : Bytes8) (byteLength : Nat) : Bool × Memory :=
  if !isValidHartId hartId then (false, memory)
  else
    let memory := acquireMonitorLock memory
    if !reservationHoldsLocked memory hartId address byteLength then
      (false, releaseMonitorLock (clearReservationLocked memory hartId))
    else (true, { memory with worker := { memory.worker with scMonitorHeld := true } })

/-- One turn of the loop of `invalidateOverlappingReservationsLocked`. -/
def invalidateTurn (storeBase storeSize hartId : Nat) (memory : Memory) : Memory :=
  if reservationSlotValid memory hartId = 0 then memory
  else
    let lineBase := reservationLineBase (reservationSlotAddress memory hartId).toNat
    if rangesOverlap lineBase reservationLineSize storeBase storeSize then
      clearReservationLocked memory hartId
    else memory

/-- Clear every slot whose line the store overlaps. -/
def invalidateOverlappingReservationsLocked (address : Bytes8) (byteLength : Nat) : Memory :=
  if byteLength ≤ 0 then memory
  else forEachIndex (invalidateTurn (bytesToBigInt address) byteLength) reservationHartCount memory

end YaRiscV.Emulator
