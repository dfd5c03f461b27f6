import YaRiscV.Library.Revocation
import YaRiscV.Emulator.Machine
import YaRiscV.Emulator.MonitorOperations
import YaRiscV.Emulator.Cpu.RegisterChange

/-! Load-reserved and store-conditional over whole histories: the reservation slots hold
exactly what the sequence of loads, stores and atomics of all harts says they should. -/

namespace YaRiscV.Emulator

open YaRiscV.Library YaRiscV.Utils

/-- A whole memory instruction of a hart, as the monitor sees it. -/
inductive MonitorEvent where
  | lr (hartId : Nat) (address : Bytes8) (width : AtomicWidth)
  | sc (hartId : Nat) (address : Bytes8) (width : AtomicWidth) (success : Bool)
  | store (hartId : Nat) (address : Bytes8) (function : StoreFunction)
  | amo (hartId : Nat) (address : Bytes8) (width : AtomicWidth)
  deriving DecidableEq, Repr

/-- `byteLength` bytes from `base` meet the line that contains `address`. -/
def MeetsLine (base : Bytes8) (byteLength : Nat) (address : Bytes8) : Prop :=
  base.toNat < reservationLineBase address.toNat + reservationLineSize ∧
    reservationLineBase address.toNat < base.toNat + byteLength

def SameLine (left right : Bytes8) : Prop :=
  reservationLineBase left.toNat = reservationLineBase right.toNat

/-- What ends a reservation of `address` by `hartId`. -/
def MonitorEvent.Breaks (hartId : Nat) (address : Bytes8) : MonitorEvent → Prop
  | .lr other reserved _ => other = hartId ∨ SameLine reserved address
  | .sc other written width success => other = hartId ∨ (success = true ∧ MeetsLine written width.byteLength address)
  | .store _ written function => MeetsLine written function.byteLength address
  | .amo _ written width => MeetsLine written width.byteLength address

/-- The last load-reserved of `hartId` was for exactly `address` and `width`, and nothing
since has broken it. -/
def ReservedSince (events : List MonitorEvent) (hartId : Nat) (address : Bytes8) (width : AtomicWidth) : Prop :=
  ∃ before after, events = before ++ .lr hartId address width :: after ∧
    ∀ event ∈ after, ¬ event.Breaks hartId address

/-- A hart's view of the buffer between two instructions: its own module variables, no lock held. -/
def hartView (memory : Memory) (hrtime : Nat → Nat) (plicGatewayLockDepth : Nat) : Memory :=
  { memory with worker := {
      monitorLockDepth := 0, scMonitorHeld := false, plicGatewayLockDepth, hrtime } }

/-- One instruction that completes, by a hart whose `mhartid` is below 8. -/
inductive MonitorStep (memory : Memory) : MonitorEvent → Memory → Prop
  | lr (registers : Registers) (valid : hartIdOf registers < reservationHartCount)
      (completed : (ExecuteThunk.lr width args).execute registers (hartView memory hrtime depth) length =
        .completed registers' memory') :
      MonitorStep memory
        (.lr (hartIdOf registers) (registers.generalPurpose args.sourceRegister1) width) memory'
  | sc (registers : Registers) (valid : hartIdOf registers < reservationHartCount)
      (completed : (ExecuteThunk.sc width args).execute registers (hartView memory hrtime depth) length =
        .completed registers' memory') :
      MonitorStep memory
        (.sc (hartIdOf registers) (registers.generalPurpose args.sourceRegister1) width
          (tryTakeReservation (hartView memory hrtime depth) (hartIdOf registers)
            (registers.generalPurpose args.sourceRegister1) width.byteLength).1) memory'
  | store (registers : Registers) (valid : hartIdOf registers < reservationHartCount)
      (completed : (ExecuteThunk.store function args).execute registers (hartView memory hrtime depth) length =
        .completed registers' memory') :
      MonitorStep memory
        (.store (hartIdOf registers) (storeEffectiveAddress registers args) function) memory'
  | amo (registers : Registers) (valid : hartIdOf registers < reservationHartCount)
      (completed : (ExecuteThunk.amo function width args).execute registers (hartView memory hrtime depth)
        length = .completed registers' memory') :
      MonitorStep memory
        (.amo (hartIdOf registers) (registers.generalPurpose args.sourceRegister1) width) memory'

/-- A buffer with no reservation, and a transmit ring whose tail is one of its slots. -/
structure MonitorFresh (memory : Memory) : Prop where
  invalid : ∀ hartId < reservationHartCount, reservationSlotValid memory hartId = 0
  tail : TransmitTailValid memory

/-- The instructions of all harts so far, in order, and the buffer they left. -/
inductive MonitorRun : List MonitorEvent → Memory → Prop
  | start (fresh : MonitorFresh memory) : MonitorRun [] memory
  | step (run : MonitorRun events memory) (step : MonitorStep memory event after) :
      MonitorRun (events ++ [event]) after

def Reservation.SharesLine (left right : Reservation) : Prop := left.line = right.line

/-- How events grant and revoke reservations. -/
def monitorRules : ClaimRules MonitorEvent Nat Reservation where
  grants
    | .lr hartId address width, holder =>
      if holder = hartId then some ⟨address, BitVec.ofNat 32 width.byteLength⟩ else none
    | _, _ => none
  revokes
    | .lr _ address _, _, held => held.line == reservationLineBase address.toNat
    | .sc hartId address width success, holder, held =>
      holder == hartId || (success && overwritten address.toNat width.byteLength held)
    | .store _ address function, _, held => overwritten address.toNat function.byteLength held
    | .amo _ address width, _, held => overwritten address.toNat width.byteLength held

variable {registers registers' : Registers} {memory memory' after : Memory} {events : List MonitorEvent}

theorem hartView_reservationOf (hrtime : Nat → Nat) (depth hartId : Nat) :
    reservationOf (hartView memory hrtime depth) hartId = reservationOf memory hartId := rfl

theorem TransmitTailValid.view (valid : TransmitTailValid memory) (hrtime : Nat → Nat) (depth : Nat) :
    TransmitTailValid (hartView memory hrtime depth) := valid

/-- A load-reserved that completes has loaded and reserved. -/
theorem loadReserved_completed
    (completed : loadReserved registers memory width extend args length = .completed registers' memory') :
    ∃ oldValue, loadAndReserve registers memory (registers.generalPurpose args.sourceRegister1) width =
      (some oldValue, memory') := by
  simp only [loadReserved, readGeneralPurposeRegister] at completed
  split at completed
  · cases completed
  split at completed
  · cases completed
  split at completed
  · cases completed
  · rename_i oldValue _ reserved
    cases completed
    exact ⟨oldValue, reserved⟩

theorem loadAndReserve_some (reserved : loadAndReserve registers memory address width = (some oldValue, memory')) :
    Confined [reservationRegionId] memory memory' ∧
      (hartIdOf registers < reservationHartCount → ∀ other < reservationHartCount,
        reservationOf memory' other =
          if other = hartIdOf registers then some ⟨address, BitVec.ofNat 32 width.byteLength⟩
          else (reservationOf memory other).filter fun held =>
            !(held.line == reservationLineBase address.toNat)) := by
  rw [loadAndReserve, withMonitorLock, SpinLock.hold] at reserved
  cases loaded : atomicLoadBytes (monitorLock.acquire memory) address width with
  | none => simp [loaded] at reserved
  | some value =>
    simp only [loaded, Prod.mk.injEq, Option.some.injEq] at reserved
    obtain ⟨_, rfl⟩ := reserved
    have confined : Confined [reservationRegionId] memory (withMonitorLock memory fun memory =>
        ((), setReservationLocked memory (hartIdOf registers) address width.byteLength)).2 :=
      withMonitorLock_confined setReservationLocked_confined
    refine ⟨confined, fun valid other inside => ?_⟩
    refine reservationOf_release.trans ((reservationOf_set valid inside).trans ?_)
    rw [← acquireMonitorLock, reservationOf_acquire]

/-- A store-conditional that completes took its reservation or lost it. -/
theorem storeConditional_completed
    (completed : storeConditional registers memory width args length = .completed registers' memory') :
    (∃ value, atomicLoadBytes memory (registers.generalPurpose args.sourceRegister1) width = some value) ∧
      memory' = takeAndStore memory (hartIdOf registers) (registers.generalPurpose args.sourceRegister1)
        (registers.generalPurpose args.sourceRegister2) width ∧
      registers' = advanceProgramCounter (writeGeneralPurposeRegister registers args.destinationRegister
        (if (tryTakeReservation memory (hartIdOf registers) (registers.generalPurpose args.sourceRegister1)
          width.byteLength).1 then zeroBytes else oneBytes)) length := by
  simp only [storeConditional, readGeneralPurposeRegister] at completed
  split at completed
  · cases completed
  split at completed
  · cases completed
  split at completed
  · cases completed
  · rename_i value loaded
    cases completed
    exact ⟨⟨value, loaded⟩, rfl, rfl⟩

theorem storeRegister_completed
    (completed : storeRegister registers memory byteLength args length = .completed registers' memory') :
    storeBytes memory (storeEffectiveAddress registers args) (registers.generalPurpose args.sourceRegister2)
      byteLength = .ok memory' := by
  simp only [storeRegister, readGeneralPurposeRegister] at completed
  split at completed
  · cases completed
  · simp only [Execution.ofExcept] at completed
    split at completed
    · rename_i stored
      cases completed
      exact stored
    · cases completed

theorem amoReadModifyWrite_completed
    (completed : amoReadModifyWrite registers memory args width combine length = .completed registers' memory') :
    ∃ hostIndex source, AtomicStore memory hostIndex (registers.generalPurpose args.sourceRegister1) source
      width memory' := by
  simp only [amoReadModifyWrite, readGeneralPurposeRegister] at completed
  split at completed
  · cases completed
  split at completed
  · cases completed
  split at completed
  · cases completed
  · rename_i oldValue loaded
    obtain ⟨hostIndex, after, result, stored⟩ := amoLoop_atomicStore loaded combine
      (registers.generalPurpose args.sourceRegister2)
    rw [result] at completed
    cases completed
    exact ⟨hostIndex, _, stored⟩

theorem reservationLineBase_eq (address : Nat) : reservationLineBase address = address - address % 64 :=
  andNot_lowMask address 6

/-- A store overlaps a reserved line exactly when its bytes meet it. -/
theorem overwritten_iff (positive : 0 < byteLength) (base : Bytes8) (held : Reservation) :
    overwritten base.toNat byteLength held = true ↔ MeetsLine base byteLength held.address := by
  rw [overwritten, rangesOverlap_iff, MeetsLine, Reservation.line, reservationLineSize]
  omega

/-- A reserved address lies in the line its own access writes. -/
theorem meetsLine_self (positive : 0 < byteLength) (address : Bytes8) : MeetsLine address byteLength address := by
  have base := reservationLineBase_eq address.toNat
  rw [MeetsLine, reservationLineSize]
  omega

theorem StoreFunction.positive (function : StoreFunction) : 0 < function.byteLength := by
  cases function <;> decide

private theorem next_lr (hartId other : Nat) (address : Bytes8) (width : AtomicWidth)
    (table : Nat → Option Reservation) : monitorRules.next table (.lr hartId address width) other =
      if other = hartId then some ⟨address, BitVec.ofNat 32 width.byteLength⟩
      else (table other).filter fun held => !(held.line == reservationLineBase address.toNat) := by
  by_cases same : other = hartId <;> simp [ClaimRules.next, monitorRules, same]

private theorem next_sc_lost (hartId other : Nat) (address : Bytes8) (width : AtomicWidth)
    (table : Nat → Option Reservation) : monitorRules.next table (.sc hartId address width false) other =
      if other = hartId then none else table other := by
  change (table other).filter (fun _ => !(other == hartId || false)) = _
  by_cases same : other = hartId
  · cases table other <;> simp [same]
  · have foreign : (other == hartId) = false := by
      simpa using same
    cases table other <;> simp [foreign, same]

private theorem next_sc_held {hartId : Nat} {address : Bytes8} {table : Nat → Option Reservation}
    (held : table hartId = some ⟨address, BitVec.ofNat 32 width.byteLength⟩) (other : Nat) :
    monitorRules.next table (.sc hartId address width true) other =
      (table other).filter fun held => !overwritten address.toNat width.byteLength held := by
  change (table other).filter (fun held =>
    !(other == hartId || (true && overwritten address.toNat width.byteLength held))) = _
  by_cases same : other = hartId
  · have meets : overwritten address.toNat width.byteLength ⟨address, BitVec.ofNat 32 width.byteLength⟩ = true :=
      (overwritten_iff width.positive address _).mpr (meetsLine_self width.positive address)
    rw [same, held]
    simp [Option.filter_some, meets]
  · have foreign : (other == hartId) = false := by
      simpa using same
    simp only [foreign, Bool.false_or, Bool.true_and]

/-- One instruction moves the reservation table as its event says. -/
theorem MonitorStep.next (step : MonitorStep memory event after) (tail : TransmitTailValid memory) :
    TransmitTailValid after ∧ ∀ other < reservationHartCount,
      reservationOf after other = monitorRules.next (reservationOf memory) event other := by
  cases step with
  | lr registers valid completed =>
    rename_i width args hrtime depth length registers'
    obtain ⟨extend, same⟩ := executeLr_eq width
    simp only [ExecuteThunk.execute, same] at completed
    obtain ⟨oldValue, reserved⟩ := loadReserved_completed completed
    obtain ⟨confined, table⟩ := loadAndReserve_some reserved
    refine ⟨(tail.view hrtime depth).of_confined confined (by decide), fun other inside => ?_⟩
    rw [table valid other inside, next_lr, hartView_reservationOf]
  | sc registers valid completed =>
    rename_i width args hrtime depth length registers'
    simp only [ExecuteThunk.execute, executeSc_eq] at completed
    obtain ⟨⟨value, loaded⟩, rfl, _⟩ := storeConditional_completed completed
    cases taken : (tryTakeReservation (hartView memory hrtime depth) (hartIdOf registers)
        (registers.generalPurpose args.sourceRegister1) width.byteLength).1 with
    | false =>
      obtain ⟨confined, table⟩ := takeAndStore_lost valid rfl taken
        (registers.generalPurpose args.sourceRegister2)
      refine ⟨(tail.view hrtime depth).of_confined confined (by decide), fun other inside => ?_⟩
      exact (table other).trans (next_sc_lost _ other _ width _).symm
    | true =>
      obtain ⟨hostIndex, stored⟩ := takeAndStore_held rfl taken loaded
        (registers.generalPurpose args.sourceRegister2)
      refine ⟨(tail.view hrtime depth).of_confined stored.confined (by decide), fun other inside => ?_⟩
      exact (stored.reservationOf other inside).trans (next_sc_held ((tryTakeReservation_fst valid).mp taken) other).symm
  | store registers valid completed =>
    rename_i function args hrtime depth length registers'
    simp only [ExecuteThunk.execute, StoreFunction.execute_eq] at completed
    obtain ⟨written, parts⟩ := storeBytes_parts rfl (tail.view hrtime depth) (storeRegister_completed completed)
    exact ⟨parts.tail, fun other inside => parts.reservationOf function.positive inside⟩
  | amo registers valid completed =>
    rename_i function width args hrtime depth length registers'
    obtain ⟨combine, same⟩ := function.execute_eq
    simp only [ExecuteThunk.execute, same] at completed
    obtain ⟨hostIndex, source, stored⟩ := amoReadModifyWrite_completed completed
    exact ⟨(tail.view hrtime depth).of_confined stored.confined (by decide), stored.reservationOf⟩

/-- The slots hold what the history grants and has not revoked. -/
theorem MonitorRun.table (run : MonitorRun events memory) : TransmitTailValid memory ∧
    ∀ hartId < reservationHartCount, reservationOf memory hartId = monitorRules.run events hartId := by
  induction run with
  | start fresh => exact ⟨fresh.tail, fun hartId inside => reservationOf_free (fresh.invalid hartId inside)⟩
  | step run step ih =>
    obtain ⟨tail, table⟩ := ih
    obtain ⟨tailAfter, next⟩ := step.next tail
    refine ⟨tailAfter, fun hartId inside => ?_⟩
    rw [next hartId inside, ClaimRules.run_concat]
    exact ClaimRules.next_congr (table hartId inside) _

private theorem grants_iff {event : MonitorEvent} : monitorRules.grants event hartId =
    some ⟨address, BitVec.ofNat 32 width.byteLength⟩ ↔ event = .lr hartId address width := by
  have injective (left right : AtomicWidth) :
      BitVec.ofNat 32 left.byteLength = BitVec.ofNat 32 right.byteLength ↔ left = right := by
    cases left <;> cases right <;> decide
  cases event with
  | lr other reserved reservedWidth =>
    by_cases same : hartId = other
    · simp [monitorRules, same, injective]
    · simp [monitorRules, same, Ne.symm same]
  | sc | store | amo => simp [monitorRules]

private theorem keeps_iff {event : MonitorEvent} {width : BitVec 32} :
    monitorRules.Keeps event hartId ⟨address, width⟩ ↔ ¬ event.Breaks hartId address := by
  rw [ClaimRules.Keeps]
  cases event with
  | lr other reserved reservedWidth =>
    simp only [monitorRules, ite_eq_right_iff, reduceCtorEq, imp_false, MonitorEvent.Breaks, SameLine,
      Reservation.line, beq_eq_false_iff_ne, ne_eq, not_or]
    exact and_congr (not_congr eq_comm) (not_congr eq_comm)
  | sc other written writtenWidth success =>
    have meets := overwritten_iff writtenWidth.positive written ⟨address, width⟩
    have swap : hartId = other ↔ other = hartId := eq_comm
    cases success <;> simp [monitorRules, MonitorEvent.Breaks, ← meets, swap]
  | store other written function =>
    have meets := overwritten_iff function.positive written ⟨address, width⟩
    simp [monitorRules, MonitorEvent.Breaks, ← meets]
  | amo other written writtenWidth =>
    have meets := overwritten_iff writtenWidth.positive written ⟨address, width⟩
    simp [monitorRules, MonitorEvent.Breaks, ← meets]

/-- A hart holds a reservation exactly when its history says so. -/
theorem MonitorRun.reserved_iff (run : MonitorRun events memory) (inside : hartId < reservationHartCount) :
    reservationOf memory hartId = some ⟨address, BitVec.ofNat 32 width.byteLength⟩ ↔
      ReservedSince events hartId address width := by
  rw [run.table.2 hartId inside, ClaimRules.run_eq_some_iff, ClaimRules.HeldAfter, ReservedSince]
  simp only [grants_iff, keeps_iff]
  constructor
  · rintro ⟨before, event, after, split, rfl, kept⟩
    exact ⟨before, after, split, kept⟩
  · rintro ⟨before, after, split, kept⟩
    exact ⟨before, _, after, split, rfl, kept⟩

/-- Two harts never hold the same line. -/
theorem MonitorRun.exclusive (run : MonitorRun events memory) (left right : Nat)
    (insideLeft : left < reservationHartCount) (insideRight : right < reservationHartCount)
    (different : left ≠ right) (mine : reservationOf memory left = some held)
    (theirs : reservationOf memory right = some other) : held.line ≠ other.line := by
  rw [run.table.2 left insideLeft] at mine
  rw [run.table.2 right insideRight] at theirs
  have symmetric (left right : Reservation) : left.SharesLine right → right.SharesLine left := Eq.symm
  change ¬ held.SharesLine other
  refine ClaimRules.run_exclusive symmetric ?_ ?_ events different mine theirs
  · intro event holder claim rival apart granted
    cases event with
    | lr hartId address width =>
      by_cases same : holder = hartId
      · simp [monitorRules, same ▸ apart]
      · simp [monitorRules, same] at granted
    | sc | store | amo => rfl
  · intro event holder claim rival held apart granted conflict
    cases event with
    | lr hartId address width =>
      by_cases same : holder = hartId
      · simp only [monitorRules, same, if_true, Option.some.injEq] at granted
        subst granted
        simp only [monitorRules, beq_iff_eq]
        exact conflict.symm
      · simp [monitorRules, same] at granted
    | sc | store | amo => simp [monitorRules] at granted

/-- Different harts hold different lines. -/
def ExclusiveLines (memory : Memory) : Prop :=
  ∀ left < reservationHartCount, ∀ right < reservationHartCount, left ≠ right → ∀ held other,
    reservationOf memory left = some held → reservationOf memory right = some other → held.line ≠ other.line

/-- A store-conditional that stored: 0 in `rd`, the value in RAM, and no slot on its line. -/
structure ScSucceeded (registers registers' : Registers) (memory memory' : Memory) (width : AtomicWidth)
    (args : AmoArgs) (length : Bytes8) : Prop where
  destination : registers' = advanceProgramCounter
    (writeGeneralPurposeRegister registers args.destinationRegister zeroBytes) length
  stored : ∃ hostIndex,
    alignedRamAddressToHostIndex memory (registers.generalPurpose args.sourceRegister1) width = some hostIndex ∧
      ∀ position, ¬ InMonitor memory.layout position → memory'.bytes position =
        if hostIndex ≤ position ∧ position < hostIndex + width.byteLength then
          byte (registers.generalPurpose args.sourceRegister2) (position - hostIndex)
        else memory.bytes position
  cleared : ∀ other < reservationHartCount, ∀ held, reservationOf memory' other = some held →
    held.line ≠ reservationLineBase (registers.generalPurpose args.sourceRegister1).toNat

/-- A store-conditional that failed: 1 in `rd`, and nothing stored. -/
structure ScFailed (registers registers' : Registers) (memory memory' : Memory) (args : AmoArgs)
    (length : Bytes8) : Prop where
  destination : registers' = advanceProgramCounter
    (writeGeneralPurposeRegister registers args.destinationRegister oneBytes) length
  unchanged : ∀ position, ¬ InMonitor memory.layout position → memory'.bytes position = memory.bytes position

/-- No slot that survives a store on a line is on that line. -/
private theorem cleared_of_filter {table : Option Reservation} {address : Bytes8} {width : AtomicWidth}
    (survived : (table.filter fun held => !overwritten address.toNat width.byteLength held) = some held) :
    held.line ≠ reservationLineBase address.toNat := by
  intro same
  have kept := (Option.filter_eq_some_iff.mp survived).2
  have meets : overwritten address.toNat width.byteLength held = true := by
    have own := meetsLine_self width.positive address
    rw [overwritten, rangesOverlap_iff, same, reservationLineSize]
    rw [MeetsLine, reservationLineSize] at own
    have positive := width.positive
    omega
  simp [meets] at kept

/-- A store-conditional succeeds exactly when its reservation still stands in the history
of all harts. -/
theorem MonitorRun.storeConditional (run : MonitorRun events memory)
    (valid : hartIdOf registers < reservationHartCount)
    (completed : (ExecuteThunk.sc width args).execute registers (hartView memory hrtime depth) length =
      .completed registers' memory') :
    (ReservedSince events (hartIdOf registers) (registers.generalPurpose args.sourceRegister1) width →
      ScSucceeded registers registers' memory memory' width args length) ∧
    (¬ ReservedSince events (hartIdOf registers) (registers.generalPurpose args.sourceRegister1) width →
      ScFailed registers registers' memory memory' args length) := by
  simp only [ExecuteThunk.execute, executeSc_eq] at completed
  obtain ⟨⟨value, loaded⟩, rfl, rfl⟩ := storeConditional_completed completed
  rw [← run.reserved_iff valid, ← hartView_reservationOf hrtime depth, ← tryTakeReservation_fst valid]
  refine ⟨fun taken => ?_, fun missed => ?_⟩
  · obtain ⟨hostIndex, stored⟩ := takeAndStore_held rfl taken loaded (registers.generalPurpose args.sourceRegister2)
    refine ⟨by rw [taken]; rfl, ⟨hostIndex, stored.aligned, stored.bytes⟩, fun other inside held survived => ?_⟩
    rw [stored.reservationOf other inside] at survived
    exact cleared_of_filter survived
  · have lost : (tryTakeReservation (hartView memory hrtime depth) (hartIdOf registers)
        (registers.generalPurpose args.sourceRegister1) width.byteLength).1 = false := by
      simpa using missed
    obtain ⟨confined, _⟩ := takeAndStore_lost valid rfl lost (registers.generalPurpose args.sourceRegister2)
    exact ⟨by rw [lost]; rfl, confined.changes.bytes⟩

/-- The reservation monitor is sound and exact: at any point of any run lines have one
owner, and the next store-conditional of any hart succeeds exactly when it should. -/
theorem reservation_monitor_exact (run : MonitorRun events memory) :
    ExclusiveLines memory ∧
    ∀ registers width args hrtime depth length registers' memory',
      hartIdOf registers < reservationHartCount →
      (ExecuteThunk.sc width args).execute registers (hartView memory hrtime depth) length =
        .completed registers' memory' →
      ((tryTakeReservation (hartView memory hrtime depth) (hartIdOf registers)
          (registers.generalPurpose args.sourceRegister1) width.byteLength).1 = true ↔
        ReservedSince events (hartIdOf registers) (registers.generalPurpose args.sourceRegister1) width) ∧
      (ReservedSince events (hartIdOf registers) (registers.generalPurpose args.sourceRegister1) width →
        ScSucceeded registers registers' memory memory' width args length) ∧
      (¬ ReservedSince events (hartIdOf registers) (registers.generalPurpose args.sourceRegister1) width →
        ScFailed registers registers' memory memory' args length) := by
  refine ⟨fun left insideLeft right insideRight different held other mine theirs =>
    run.exclusive left right insideLeft insideRight different mine theirs, ?_⟩
  intro registers width args hrtime depth length registers' memory' valid completed
  refine ⟨?_, run.storeConditional valid completed⟩
  rw [tryTakeReservation_fst valid, hartView_reservationOf, run.reserved_iff valid]

/-- A hart about to reserve the start of RAM. -/
def reservingRegisters : Registers := writeGeneralPurposeRegister createRegisters 1 0x80000000

theorem reservation_monitor_exact_pair : ∃ memory registers' memory',
    MonitorRun [.lr 0 0x80000000 .word] memory ∧
      (ExecuteThunk.sc .word ⟨3, 1, 2⟩).execute reservingRegisters (hartView memory (fun _ => 0) 0) 4 =
        .completed registers' memory' ∧
      ScSucceeded reservingRegisters registers' memory memory' .word ⟨3, 1, 2⟩ 4 := by
  have fresh : MonitorFresh defaultMemory := ⟨by decide, show metaByte defaultMemory metaTxTail < 16 by decide⟩
  have reserved : (ExecuteThunk.lr .word ⟨2, 1, 0⟩).execute reservingRegisters
      (hartView defaultMemory (fun _ => 0) 0) 4 = .completed _ (loadAndReserve reservingRegisters
        (hartView defaultMemory (fun _ => 0) 0) 0x80000000 .word).2 := rfl
  have run : MonitorRun [.lr 0 0x80000000 .word] _ :=
    .step (.start fresh) (.lr reservingRegisters (by decide) reserved)
  have stored : (ExecuteThunk.sc .word ⟨3, 1, 2⟩).execute reservingRegisters (hartView (loadAndReserve
      reservingRegisters (hartView defaultMemory (fun _ => 0) 0) 0x80000000 .word).2 (fun _ => 0) 0) 4 =
        .completed _ _ := rfl
  have since : ReservedSince [.lr 0 0x80000000 .word] 0 0x80000000 .word := ⟨[], [], rfl, by simp⟩
  exact ⟨_, _, _, run, stored,
    ((reservation_monitor_exact run).2 _ _ _ _ _ _ _ _ (by decide) stored).2.1 since⟩

end YaRiscV.Emulator
