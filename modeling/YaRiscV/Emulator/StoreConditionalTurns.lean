import YaRiscV.Library.Workers
import YaRiscV.Emulator.MonitorRelease

/-! The end of a store-conditional write by write: where it has the reservation, the monitor
lock is held from the check of the reservation to the end of the store. -/

namespace YaRiscV.Emulator

open YaRiscV.Library YaRiscV.Utils Relation

/-- A store-conditional past its checks, with the host index its address has. -/
structure ScAccess where
  hartId : Nat
  address : Bytes8
  source : Bytes8
  width : AtomicWidth
  hostIndex : Nat

/-- The calls of `acquireMonitorLock`: in `tryTakeReservation`, and around the RAM store. -/
inductive ScAcquire where
  | reservation
  | store
  deriving DecidableEq

/-- The calls of `releaseMonitorLock`: behind a failed check, behind the RAM store, and the two
in which `releaseScMonitorIfHeld` finds a kept lock. -/
inductive ScRelease where
  | refused
  | store
  | kept
  | final
  deriving DecidableEq

/-- The write a store-conditional makes next. -/
inductive ScPlace where
  | acquiring (call : ScAcquire)
  | entering (call : ScAcquire)
  | checking
  | keeping
  | writing
  | invalidating (hartId : Nat)
  | stored
  | clearing
  | releasing (call : ScRelease)
  | freeing (call : ScRelease)
  | closing (success : Bool)
  | finished (success : Bool)
  deriving DecidableEq

def ScAcquire.next : ScAcquire → ScPlace
  | .reservation => .checking
  | .store => .writing

def ScRelease.next : ScRelease → ScPlace
  | .refused => .closing false
  | .store => .stored
  | .kept => .closing true
  | .final => .finished true

variable (sc : ScAccess) (memory : Memory)

/-- One turn. A taken lock is waited for. -/
def scTurn : ScPlace → ScPlace × Memory
  | .acquiring call =>
    let depth := memory.worker.monitorLockDepth
    if depth > 0 then
      (call.next, { memory with worker := { memory.worker with monitorLockDepth := depth + 1 } })
    else
      let (found, memory) := memory.compareExchange32 memory.layout.reservation 0 1
      (if found = 0 then .entering call else .acquiring call, memory)
  | .entering call => (call.next, { memory with worker := { memory.worker with monitorLockDepth := 1 } })
  | .checking =>
    (if reservationHoldsLocked memory sc.hartId sc.address sc.width.byteLength then .keeping else .clearing, memory)
  | .keeping => (.acquiring .store, { memory with worker := { memory.worker with scMonitorHeld := true } })
  | .writing => (.invalidating 0, storeAtomic memory sc.hostIndex sc.width sc.source)
  | .invalidating hartId =>
    if hartId < reservationHartCount then
      (.invalidating (hartId + 1), invalidateTurn (bytesToBigInt sc.address) sc.width.byteLength hartId memory)
    else (.releasing .store, memory)
  | .stored =>
    if !memory.worker.scMonitorHeld then (.closing true, memory)
    else (.releasing .kept, { memory with worker := { memory.worker with scMonitorHeld := false } })
  | .clearing => (.releasing .refused, clearReservationLocked memory sc.hartId)
  | .releasing call =>
    let depth := memory.worker.monitorLockDepth
    if depth ≤ 0 then (call.next, memory)
    else
      (if depth - 1 > 0 then call.next else .freeing call,
        { memory with worker := { memory.worker with monitorLockDepth := depth - 1 } })
  | .freeing call => (call.next, memory.store32 memory.layout.reservation 0)
  | .closing success =>
    if !memory.worker.scMonitorHeld then (.finished success, memory)
    else (.releasing .final, { memory with worker := { memory.worker with scMonitorHeld := false } })
  | .finished success => (.finished success, memory)

/-- From the check of the reservation to the end of the store. -/
def ScPlace.storing : ScPlace → Bool
  | .checking | .keeping | .acquiring .store | .entering .store | .writing | .invalidating _ |
    .releasing .store | .freeing .store | .stored => true
  | _ => false

/-- The lock as a worker has it: its depth, whether the word is this worker's, and whether it
keeps the lock for the end of its store. -/
structure MonitorState where
  depth : Nat
  held : Bool
  kept : Bool
  deriving DecidableEq

/-- The lock at each place; `none` where no run gets to. -/
def ScPlace.lock : ScPlace → Option MonitorState
  | .acquiring .reservation => some ⟨0, false, false⟩
  | .entering .reservation => some ⟨0, true, false⟩
  | .checking | .keeping | .clearing => some ⟨1, true, false⟩
  | .acquiring .store => some ⟨1, true, true⟩
  | .writing | .invalidating _ | .releasing .store => some ⟨2, true, true⟩
  | .stored => some ⟨1, true, true⟩
  | .releasing .refused | .releasing .kept => some ⟨1, true, false⟩
  | .freeing .refused | .freeing .kept => some ⟨0, true, false⟩
  | .closing _ | .finished _ => some ⟨0, false, false⟩
  | .entering .store | .freeing .store | .releasing .final | .freeing .final => none

/-- From the exchange that takes the word to the store that clears it. -/
def ScPlace.holds (place : ScPlace) : Bool := place.lock.any (·.held)

/-- What others may do meanwhile: anything, but to the word of a lock that is held here. -/
structure Elsewhere (place : ScPlace) (before after : Memory) : Prop where
  layout : after.layout = before.layout
  worker : after.worker = before.worker
  word : place.holds = true → after.load32 after.layout.reservation = before.load32 before.layout.reservation

/-- The store-conditional takes a turn, or something happens elsewhere. -/
inductive ScStep (sc : ScAccess) : ScPlace × Memory → ScPlace × Memory → Prop
  | turn (place : ScPlace) (memory : Memory) : ScStep sc (place, memory) (scTurn sc memory place)
  | elsewhere {memory after : Memory} (others : Elsewhere place memory after) :
      ScStep sc (place, memory) (place, after)

/-- The lock is as `state` says; a word that is not this worker's is anything. -/
structure MonitorState.At (state : MonitorState) (memory : Memory) : Prop where
  depth : memory.worker.monitorLockDepth = state.depth
  word : state.held = true → memory.load32 memory.layout.reservation = 1
  kept : memory.worker.scMonitorHeld = state.kept

/-- The lock is as it is at the place. -/
def LockAt (place : ScPlace) : Prop :=
  ∃ state, place.lock = some state ∧ state.At memory

/-- The word is RAM of this machine. -/
structure ScAccess.Valid (layout : Layout) : Prop where
  low : layout.ram.hostIndex ≤ sc.hostIndex
  high : sc.hostIndex + sc.width.byteLength ≤ layout.ram.hostIndex + layout.ram.hostByteLength

variable {sc memory} {after : Memory} {place : ScPlace}

theorem store32_slot_word (hartId : Nat) (value : BitVec 32) :
    (memory.store32 (reservationSlotHostIndex memory hartId) value).load32 memory.layout.reservation =
      memory.load32 memory.layout.reservation := by
  refine Memory.load32_congr fun offset inside => Memory.store32_outside value (.inl ?_)
  simp only [reservationSlotHostIndex, reservationLockBytes, reservationLockPad]
  omega

/-- Nothing of the lock differs. -/
structure SameMonitor (before after : Memory) : Prop where
  layout : after.layout = before.layout
  worker : after.worker = before.worker
  word : after.load32 after.layout.reservation = before.load32 before.layout.reservation

theorem MonitorState.At.same {state : MonitorState} (found : state.At memory) (same : SameMonitor memory after) :
    state.At after where
  depth := by
    rw [same.worker]
    exact found.depth
  word := fun held => same.word.trans (found.word held)
  kept := by
    rw [same.worker]
    exact found.kept

theorem LockAt.same (lock : LockAt memory place) (same : SameMonitor memory after) : LockAt after place := by
  obtain ⟨state, placed, found⟩ := lock
  exact ⟨state, placed, found.same same⟩

theorem clearReservationLocked_same (hartId : Nat) : SameMonitor memory (clearReservationLocked memory hartId) :=
  ⟨rfl, rfl, store32_slot_word hartId 0⟩

theorem invalidateTurn_same (storeBase storeSize hartId : Nat) :
    SameMonitor memory (invalidateTurn storeBase storeSize hartId memory) := by
  simp only [invalidateTurn]
  split
  · exact ⟨rfl, rfl, rfl⟩
  split
  · exact clearReservationLocked_same hartId
  · exact ⟨rfl, rfl, rfl⟩

theorem storeAtomic_worker (hostIndex : Nat) (width : AtomicWidth) (source : Bytes8) :
    (storeAtomic memory hostIndex width source).worker = memory.worker := by
  cases width <;> rfl

theorem storeAtomic_layout (hostIndex : Nat) (width : AtomicWidth) (source : Bytes8) :
    (storeAtomic memory hostIndex width source).layout = memory.layout := by
  cases width <;> rfl

theorem storeAtomic_same (valid : sc.Valid memory.layout) :
    SameMonitor memory (storeAtomic memory sc.hostIndex sc.width sc.source) := by
  have confined : Confined [ramRegionId] memory (storeAtomic memory sc.hostIndex sc.width sc.source) :=
    storeAtomic_confined ⟨valid.low, valid.high⟩ sc.source
  refine ⟨storeAtomic_layout _ _ _, storeAtomic_worker _ _ _, ?_⟩
  rw [storeAtomic_layout]
  refine Memory.load32_congr fun offset inside => ?_
  refine confined.bytes memory.layout.reservationFound (by decide) (Nat.le_add_right _ _) ?_
  simp only [reservationHostByteLength]
  omega

theorem scTurn_layout (sc : ScAccess) (memory : Memory) (place : ScPlace) :
    (scTurn sc memory place).2.layout = memory.layout := by
  cases place with
  | acquiring call =>
    simp only [scTurn, Memory.compareExchange32]
    split
    · rfl
    · split <;> rfl
  | entering call => rfl
  | checking => rfl
  | keeping => rfl
  | writing => exact storeAtomic_layout _ _ _
  | invalidating hartId =>
    simp only [scTurn]
    split
    · exact (invalidateTurn_same _ _ _).layout
    · rfl
  | stored =>
    simp only [scTurn]
    split <;> rfl
  | clearing => rfl
  | releasing call =>
    simp only [scTurn]
    split <;> rfl
  | freeing call => rfl
  | closing success =>
    simp only [scTurn]
    split <;> rfl
  | finished success => rfl

theorem acquiring_lock (call : ScAcquire) (lock : LockAt memory (.acquiring call)) :
    LockAt (scTurn sc memory (.acquiring call)).2 (scTurn sc memory (.acquiring call)).1 := by
  obtain ⟨state, placed, found⟩ := id lock
  obtain ⟨depth, word, kept⟩ := found
  cases call with
  | reservation =>
    cases placed
    by_cases zero : memory.load32 memory.layout.reservation = 0
    · have entered : scTurn sc memory (.acquiring .reservation) =
          (.entering .reservation, memory.store32 memory.layout.reservation 1) := by
        simp [scTurn, depth, Memory.compareExchange32, zero]
      rw [entered]
      exact ⟨_, rfl, depth, fun _ => Memory.load32_store32 1, kept⟩
    · have taken : scTurn sc memory (.acquiring .reservation) = (.acquiring .reservation, memory) := by
        simp only [scTurn, depth, gt_iff_lt, Nat.lt_irrefl, if_false, Memory.compareExchange32, if_neg zero]
      rw [taken]
      exact lock
  | store =>
    cases placed
    have nested : scTurn sc memory (.acquiring .store) =
        (.writing, { memory with worker := { memory.worker with monitorLockDepth := 2 } }) := by
      simp [scTurn, depth, ScAcquire.next]
    rw [nested]
    exact ⟨_, rfl, rfl, word, kept⟩

theorem releasing_lock (call : ScRelease) (lock : LockAt memory (.releasing call)) :
    LockAt (scTurn sc memory (.releasing call)).2 (scTurn sc memory (.releasing call)).1 := by
  obtain ⟨state, placed, depth, word, kept⟩ := lock
  cases call with
  | refused | kept =>
    cases placed
    have lowered (call : ScRelease) : scTurn sc memory (.releasing call) =
        (.freeing call, { memory with worker := { memory.worker with monitorLockDepth := 0 } }) := by
      simp [scTurn, depth]
    rw [lowered]
    exact ⟨_, rfl, rfl, word, kept⟩
  | store =>
    cases placed
    have lowered : scTurn sc memory (.releasing .store) =
        (.stored, { memory with worker := { memory.worker with monitorLockDepth := 1 } }) := by
      simp [scTurn, depth, ScRelease.next]
    rw [lowered]
    exact ⟨_, rfl, rfl, word, kept⟩
  | final => cases placed

/-- Every turn leads from the lock its place has to the lock the next one has. -/
theorem scTurn_lock (valid : sc.Valid memory.layout) (lock : LockAt memory place) :
    LockAt (scTurn sc memory place).2 (scTurn sc memory place).1 := by
  obtain ⟨state, placed, found⟩ := id lock
  obtain ⟨depth, word, kept⟩ := found
  cases place with
  | acquiring call => exact acquiring_lock call lock
  | entering call =>
    cases call with
    | reservation =>
      cases placed
      exact ⟨_, rfl, rfl, fun _ => word rfl, kept⟩
    | store => cases placed
  | checking =>
    cases placed
    simp only [scTurn]
    split <;> exact ⟨_, rfl, depth, word, kept⟩
  | keeping =>
    cases placed
    exact ⟨_, rfl, depth, fun _ => word rfl, rfl⟩
  | writing =>
    cases placed
    exact LockAt.same ⟨_, rfl, depth, word, kept⟩ (storeAtomic_same valid)
  | invalidating hartId =>
    simp only [scTurn]
    split
    · exact LockAt.same lock (invalidateTurn_same _ _ _)
    · exact ⟨_, placed, depth, word, kept⟩
  | stored =>
    cases placed
    simp only [scTurn, kept, Bool.not_true, Bool.false_eq_true, if_false]
    exact ⟨_, rfl, depth, fun _ => word rfl, rfl⟩
  | clearing =>
    cases placed
    exact LockAt.same ⟨_, rfl, depth, word, kept⟩ (clearReservationLocked_same _)
  | releasing call => exact releasing_lock call lock
  | freeing call =>
    cases call with
    | refused | kept =>
      cases placed
      exact ⟨_, rfl, depth, fun held => absurd held (by decide), kept⟩
    | store | final => cases placed
  | closing success =>
    cases placed
    simp only [scTurn, kept, Bool.not_false, if_true]
    exact ⟨_, rfl, depth, word, kept⟩
  | finished success => exact lock

theorem MonitorFree.lock (free : MonitorFree memory) : LockAt memory (.acquiring .reservation) :=
  ⟨_, rfl, free.depth, fun held => absurd held (by decide), free.kept⟩

/-- In a run from a free lock each place has its lock. -/
theorem scRun_lock (valid : sc.Valid memory.layout) (free : MonitorFree memory)
    (run : ReflTransGen (ScStep sc) (.acquiring .reservation, memory) (place, after)) : LockAt after place := by
  suffices sound : after.layout = memory.layout ∧ LockAt after place from sound.2
  refine invariant_run (fun state : ScPlace × Memory =>
    state.2.layout = memory.layout ∧ LockAt state.2 state.1) ?_ run ⟨rfl, free.lock⟩
  rintro _ _ step ⟨layout, lock⟩
  cases step with
  | turn place middle =>
    have reached : sc.Valid middle.layout := by
      rw [layout]
      exact valid
    exact ⟨(scTurn_layout sc middle place).trans layout, scTurn_lock reached lock⟩
  | @elsewhere place middle next others =>
    obtain ⟨state, placed, found⟩ := lock
    have holding (held : state.held = true) : place.holds = true := by
      rw [ScPlace.holds, placed]
      exact held
    refine ⟨others.layout.trans layout, state, placed, ?_, fun held => ?_, ?_⟩
    · rw [others.worker]
      exact found.depth
    · exact (others.word (holding held)).trans (found.word held)
    · rw [others.worker]
      exact found.kept

/-- From the check of the reservation to the end of the store the lock is held. -/
theorem storing_held (storing : place.storing = true) (lock : LockAt memory place) :
    0 < memory.worker.monitorLockDepth ∧ memory.load32 memory.layout.reservation = 1 := by
  obtain ⟨state, placed, found⟩ := lock
  suffices held : 0 < state.depth ∧ state.held = true from ⟨found.depth ▸ held.1, found.word held.2⟩
  cases place with
  | acquiring call =>
    cases call with
    | reservation => cases storing
    | store =>
      cases placed
      decide
  | entering call =>
    cases call with
    | reservation => cases storing
    | store => cases placed
  | releasing call =>
    cases call with
    | store =>
      cases placed
      decide
    | refused | kept | final => cases storing
  | freeing call =>
    cases call with
    | store => cases placed
    | refused | kept | final => cases storing
  | checking | keeping | writing | stored | invalidating hartId =>
    cases placed
    decide
  | clearing | closing success | finished success => cases storing

/-- The stretch ends with the store, or with a check that fails. -/
theorem storing_until (storing : place.storing = true) : (scTurn sc memory place).1.storing = true ∨
    place = .stored ∨ place = .checking ∧
      reservationHoldsLocked memory sc.hartId sc.address sc.width.byteLength = false := by
  cases place with
  | checking =>
    cases holds : reservationHoldsLocked memory sc.hartId sc.address sc.width.byteLength with
    | true => exact .inl (by simp [scTurn, holds, ScPlace.storing])
    | false => exact .inr (.inr ⟨rfl, rfl⟩)
  | stored => exact .inr (.inl rfl)
  | keeping | writing => exact .inl rfl
  | acquiring call =>
    cases call with
    | reservation => cases storing
    | store =>
      left
      simp only [scTurn]
      split
      · rfl
      · generalize memory.compareExchange32 memory.layout.reservation 0 1 = exchanged
        dsimp only
        split <;> rfl
  | entering call =>
    cases call with
    | reservation => cases storing
    | store => exact .inl rfl
  | invalidating hartId =>
    left
    simp only [scTurn]
    split <;> rfl
  | releasing call =>
    cases call with
    | store =>
      left
      simp only [scTurn]
      split
      · rfl
      · split <;> rfl
    | refused | kept | final => cases storing
  | freeing call =>
    cases call with
    | store => exact .inl rfl
    | refused | kept | final => cases storing
  | clearing | closing success | finished success => cases storing

/-! A store-conditional that is not interfered with is the function. -/

private theorem sc_turn {next : ScPlace} (turned : scTurn sc memory place = (next, after)) :
    ReflTransGen (Alone (scTurn sc)) (place, memory) (next, after) :=
  Alone.run turned

theorem acquiring_alone (call : ScAcquire)
    (idle : memory.worker.monitorLockDepth = 0 → memory.load32 memory.layout.reservation = 0) :
    ReflTransGen (Alone (scTurn sc)) (.acquiring call, memory) (call.next, acquireMonitorLock memory) := by
  by_cases held : memory.worker.monitorLockDepth > 0
  · have acquired : acquireMonitorLock memory = { memory with
        worker := { memory.worker with monitorLockDepth := memory.worker.monitorLockDepth + 1 } } := if_pos held
    rw [acquired]
    exact sc_turn (if_pos held)
  · have acquired : acquireMonitorLock memory = { memory.store32 memory.layout.reservation 1 with
        worker := { memory.worker with monitorLockDepth := 1 } } := if_neg held
    have entered : scTurn sc memory (.acquiring call) =
        (.entering call, memory.store32 memory.layout.reservation 1) := by
      simp only [scTurn, if_neg held, Memory.compareExchange32, idle (by omega), if_true]
    rw [acquired]
    exact (sc_turn entered).trans (sc_turn rfl)

theorem releasing_alone (call : ScRelease) (memory : Memory) :
    ReflTransGen (Alone (scTurn sc)) (.releasing call, memory) (call.next, releaseMonitorLock memory) := by
  by_cases free : memory.worker.monitorLockDepth ≤ 0
  · have released : releaseMonitorLock memory = memory := if_pos free
    rw [released]
    exact sc_turn (if_pos free)
  · by_cases nested : memory.worker.monitorLockDepth - 1 > 0
    · have released : releaseMonitorLock memory = { memory with
          worker := { memory.worker with monitorLockDepth := memory.worker.monitorLockDepth - 1 } } :=
        (if_neg free).trans (if_pos nested)
      rw [released]
      exact sc_turn ((if_neg free).trans (by rw [if_pos nested]))
    · have released : releaseMonitorLock memory = { memory with
          worker := { memory.worker with
            monitorLockDepth := memory.worker.monitorLockDepth - 1 } }.store32 memory.layout.reservation 0 :=
        (if_neg free).trans (if_neg nested)
      rw [released]
      have lowered : scTurn sc memory (.releasing call) = (.freeing call, { memory with
          worker := { memory.worker with monitorLockDepth := memory.worker.monitorLockDepth - 1 } }) := by
        simp only [scTurn, if_neg free, if_neg nested]
      exact (sc_turn lowered).trans (sc_turn rfl)

theorem invalidating_alone (memory : Memory) : ReflTransGen (Alone (scTurn sc)) (.invalidating 0, memory)
    (.releasing .store, invalidateOverlappingReservationsLocked memory sc.address sc.width.byteLength) := by
  have turns (count : Nat) (within : count ≤ reservationHartCount) :
      ReflTransGen (Alone (scTurn sc)) (.invalidating 0, memory) (.invalidating count,
        forEachIndex (invalidateTurn (bytesToBigInt sc.address) sc.width.byteLength) count memory) := by
    induction count with
    | zero => exact .refl
    | succ count ih => exact (ih (by omega)).trans (sc_turn (if_pos (by omega)))
  have whole : invalidateOverlappingReservationsLocked memory sc.address sc.width.byteLength =
      forEachIndex (invalidateTurn (bytesToBigInt sc.address) sc.width.byteLength) reservationHartCount memory :=
    if_neg (Nat.not_le.mpr sc.width.positive)
  have last (memory : Memory) : scTurn sc memory (.invalidating reservationHartCount) = (.releasing .store, memory) := by
    simp only [scTurn, Nat.lt_irrefl, if_false]
  rw [whole]
  exact (turns reservationHartCount le_rfl).trans (sc_turn (last _))

theorem closing_alone (free : memory.worker.scMonitorHeld = false) (success : Bool) :
    ReflTransGen (Alone (scTurn sc)) (.closing success, memory) (.finished success, memory) :=
  sc_turn (by simp only [scTurn, free, Bool.not_false, if_true])

/-- Without the reservation: the slot is cleared, and the lock released. -/
theorem refused_alone (valid : sc.hartId < reservationHartCount) (free : MonitorFree memory)
    (lost : reservationHoldsLocked (acquireMonitorLock memory) sc.hartId sc.address sc.width.byteLength = false) :
    ReflTransGen (Alone (scTurn sc)) (.checking, acquireMonitorLock memory) (.finished false,
      releaseMonitorLock (clearReservationLocked (acquireMonitorLock memory) sc.hartId)) := by
  have refused : scTurn sc (acquireMonitorLock memory) .checking = (.clearing, acquireMonitorLock memory) := by
    simp only [scTurn, lost, Bool.false_eq_true, if_false]
  have cleared : Confined [reservationRegionId] (acquireMonitorLock memory)
      (clearReservationLocked (acquireMonitorLock memory) sc.hartId) := clearReservationLocked_confined valid
  have released := free.section cleared.locks
  have front := (sc_turn refused).trans (sc_turn rfl)
  exact (front.trans (releasing_alone .refused _)).trans (closing_alone released.kept false)

/-- With the reservation: the RAM store under the lock kept, and its release. -/
theorem kept_alone {locked written : Memory} (free : MonitorFree memory)
    (taken : locked = { acquireMonitorLock memory with
      worker := { (acquireMonitorLock memory).worker with scMonitorHeld := true } })
    (aligned : alignedRamAddressToHostIndex locked sc.address sc.width = some sc.hostIndex)
    (stored : atomicRamStore locked sc.address sc.source sc.width = some written) :
    ReflTransGen (Alone (scTurn sc)) (.acquiring .store, locked) (.finished true, releaseScMonitorIfHeld written) := by
  obtain ⟨depth, kept⟩ := atomicRamStore_kept free taken stored
  have held : locked.worker.monitorLockDepth = 1 := by
    rw [taken, free.acquired]
  have entered : ReflTransGen (Alone (scTurn sc)) (.acquiring .store, locked) (.writing, acquireMonitorLock locked) :=
    acquiring_alone .store fun zero => by omega
  have whole : releaseMonitorLock (invalidateOverlappingReservationsLocked
      (storeAtomic (acquireMonitorLock locked) sc.hostIndex sc.width sc.source) sc.address sc.width.byteLength) =
        written := by
    rw [atomicRamStore, aligned] at stored
    exact Option.some.inj stored
  have left := ((entered.trans (sc_turn rfl)).trans (invalidating_alone _)).trans (releasing_alone .store _)
  rw [whole] at left
  have unkept : scTurn sc written .stored = (.releasing .kept,
      { written with worker := { written.worker with scMonitorHeld := false } }) := by
    simp only [scTurn, kept, Bool.not_true, Bool.false_eq_true, if_false]
  have closed := releaseScMonitorIfHeld_last depth kept
  rw [releaseScMonitorIfHeld_held kept] at closed ⊢
  exact ((left.trans (sc_turn unkept)).trans (releasing_alone .kept _)).trans (closing_alone closed.kept true)

/-- The turns on their own end as `tryTakeReservation` answers, and leave what it and the store leave. -/
theorem storeConditional_alone (valid : sc.hartId < reservationHartCount) (free : MonitorFree memory)
    (loaded : atomicLoadBytes memory sc.address sc.width = some value)
    (aligned : alignedRamAddressToHostIndex memory sc.address sc.width = some sc.hostIndex) :
    ReflTransGen (Alone (scTurn sc)) (.acquiring .reservation, memory)
      (.finished (tryTakeReservation memory sc.hartId sc.address sc.width.byteLength).1,
        takeAndStore memory sc.hartId sc.address sc.source sc.width) := by
  have ready : isValidHartId sc.hartId = true := decide_eq_true valid
  have front : ReflTransGen (Alone (scTurn sc)) (.acquiring .reservation, memory)
      (.checking, acquireMonitorLock memory) := acquiring_alone .reservation fun _ => free.word
  refine front.trans ?_
  cases holds : reservationHoldsLocked (acquireMonitorLock memory) sc.hartId sc.address sc.width.byteLength with
  | false =>
    have taken : (tryTakeReservation memory sc.hartId sc.address sc.width.byteLength).1 = false := by
      simp [tryTakeReservation, ready, holds]
    have cleared : Confined [reservationRegionId] (acquireMonitorLock memory)
        (clearReservationLocked (acquireMonitorLock memory) sc.hartId) := clearReservationLocked_confined valid
    have released := free.section cleared.locks
    simp only [takeAndStore, tryTakeReservation_lost valid taken, Bool.false_eq_true, if_false,
      releaseScMonitorIfHeld_free released.kept]
    exact refused_alone valid free holds
  | true =>
    have taken : (tryTakeReservation memory sc.hartId sc.address sc.width.byteLength).1 = true := by
      simp [tryTakeReservation, ready, holds]
    obtain ⟨locked, written, opened, layout, stored, stores⟩ := takeAndStore_stores taken loaded sc.source
    have held : scTurn sc (acquireMonitorLock memory) .checking = (.keeping, acquireMonitorLock memory) := by
      simp only [scTurn, holds, if_true]
    have keeping : scTurn sc (acquireMonitorLock memory) .keeping = (.acquiring .store, locked) := by
      rw [opened]
      rfl
    have rest := kept_alone free opened ((alignedRamAddressToHostIndex_congr layout).trans aligned) stored
    obtain ⟨depth, kept⟩ := atomicRamStore_kept free opened stored
    rw [stores, releaseScMonitorIfHeld_free (releaseScMonitorIfHeld_last depth kept).kept, taken]
    exact ((sc_turn held).trans (sc_turn keeping)).trans rest

end YaRiscV.Emulator
