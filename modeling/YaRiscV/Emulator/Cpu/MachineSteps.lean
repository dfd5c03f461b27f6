import YaRiscV.Emulator.Cpu.BareMachine
import YaRiscV.Emulator.Cpu.ControlAlignment
import YaRiscV.Emulator.Cpu.InterruptOrder
import YaRiscV.Emulator.Cpu.MonitorLock
import YaRiscV.Emulator.Cpu.PmpLock

/-! Each instruction of the table as a step of the bare machine, on a hart whose PMP lets every
access through. -/

namespace YaRiscV.Emulator

open YaRiscV.Library YaRiscV.Utils

/-- No access is denied. -/
def PmpOpen (registers : Registers) : Prop :=
  ∀ address byteLength access, physicalMemoryAccessDenied registers address byteLength access = false

/-- The buffer a bare machine runs on: RAM as aligned as its slab, and the monitor at rest. -/
structure BareMemory (memory : Memory) : Prop where
  nonempty : DevicesNonempty memory
  based : memory.layout.ram.guestAddress.toNat % 8 = 0
  idle : MonitorIdle memory

/-- An execution completes, the CSR file and the privilege kept, and the hart then shows `next`. -/
def CompletesAs (registers : Registers) (memory : Memory) (execution : Execution) (next : Rv64.Machine) : Prop :=
  ∃ after stored zero, execution = .completed after stored ∧ machineOf after stored zero = next ∧
    ControlKept registers after ∧ stored.layout = memory.layout

variable {registers after : Registers} {memory stored : Memory} {length : Bytes8}
  {zero : registers.generalPurpose 0 = 0} {next : Rv64.Machine} {offset : Nat} {width : AtomicWidth}

theorem hartIdOf_slot (registers : Registers) :
    hartIdOf registers = (bytesToNumber (registers.controlAndStatus Csr.mhartid)).toNat := rfl

theorem hartIdOf_kept (kept : ControlKept registers after) : hartIdOf after = hartIdOf registers := by
  rw [hartIdOf_slot, kept.controlAndStatus, hartIdOf_slot]

/-! Registers. -/

theorem machineOf_write (destination : BitVec 5) (value target : Bytes8) (zero' :
      (setProgramCounter (writeGeneralPurposeRegister registers destination value) target).generalPurpose 0 = 0) :
    machineOf (setProgramCounter (writeGeneralPurposeRegister registers destination value) target) memory zero' =
      (machineOf registers memory zero).write destination value target := by
  have control : ControlKept registers
      (setProgramCounter (writeGeneralPurposeRegister registers destination value) target) :=
    ControlKept.completeWith ⟨rfl, rfl⟩
  refine Rv64.Machine.ext ?_ rfl rfl ?_
  · change (writeGeneralPurposeRegister registers destination value).generalPurpose =
      if destination = 0 then registers.generalPurpose else Function.update registers.generalPurpose destination value
    rw [writeGeneralPurposeRegister]
    split <;> rfl
  · exact congrArg (reservedOf memory) (hartIdOf_kept control)

/-- An instruction whose end is `completeWith` writes its register and moves on. -/
theorem completesAs_write (memory' : Memory) (destination : BitVec 5) (value target : Bytes8)
    (layout : memory'.layout = memory.layout) : CompletesAs registers memory
    (.completed (setProgramCounter (writeGeneralPurposeRegister registers destination value) target) memory')
    ((machineOf registers memory' zero).write destination value target) :=
  ⟨setProgramCounter (writeGeneralPurposeRegister registers destination value) target, memory',
    (writeGeneralPurposeRegister_zero _ _).trans zero, rfl, machineOf_write destination value target _,
    ControlKept.completeWith ⟨rfl, rfl⟩, layout⟩

theorem completesAs_completeWith (memory' : Memory) (destination : BitVec 5) (value : Bytes8)
    (layout : memory'.layout = memory.layout) : CompletesAs registers memory
    (completeWith registers memory' destination value length)
    ((machineOf registers memory' zero).write destination value (registers.programCounter + length)) := by
  rw [completeWith_effect]
  exact completesAs_write memory' destination value _ layout

theorem completesAs_integer (thunk : ExecuteThunk) (covered : thunk.integerEffect registers length = some effect)
    (stepped : some ((machineOf registers memory zero).write effect.destination effect.value effect.programCounter) =
      some next) : CompletesAs registers memory (thunk.execute registers memory length) next := by
  obtain rfl := Option.some.inj stepped
  rw [thunk.execute_effect registers memory covered]
  exact completesAs_write memory _ _ _ rfl

/-! Loads and stores. -/

theorem RamRange.inRamWindow (range : RamRange memory address count offset) : InRamWindow memory address count offset :=
  ⟨range.place, range.window⟩

theorem RegisterLoaded.machineOf {destination : BitVec 5} {value : Bytes8}
    (loaded : RegisterLoaded registers destination value length after) (zero' : after.generalPurpose 0 = 0)
    (zero : registers.generalPurpose 0 = 0) : machineOf after memory zero' =
      (Emulator.machineOf registers memory zero).write destination value (registers.programCounter + length) := by
  have control : ControlKept registers after := by
    constructor <;> rw [loaded.rest]
  refine Rv64.Machine.ext ?_ loaded.programCounter rfl (congrArg (reservedOf memory) (hartIdOf_kept control))
  funext index
  change after.generalPurpose index = (if destination = 0 then registers.generalPurpose
    else Function.update registers.generalPurpose destination value) index
  by_cases here : index = destination
  · subst here
    by_cases hardwired : index = 0
    · subst hardwired
      rw [if_pos rfl, loaded.zero]
    · rw [if_neg hardwired, Function.update_self, loaded.value hardwired]
  · rw [loaded.others index here]
    split
    · rfl
    · rw [Function.update_of_ne here]

theorem completesAs_load (bare : BareMemory memory) (opened : PmpOpen registers) (function : LoadFunction)
    (args : LoadArgs) (stepped : ((ramBytes memory).load
        (registers.generalPurpose args.sourceRegister1 + args.immediate).toNat function.byteLength).map (fun word =>
        (machineOf registers memory zero).write args.destinationRegister (function.value word)
          (registers.programCounter + length)) = some next) :
    CompletesAs registers memory (function.execute registers memory args length) next := by
  obtain ⟨word, loaded, rfl⟩ := Option.map_eq_some_iff.mp stepped
  obtain ⟨offset, range, rfl⟩ := ramBytes_load function.byteLength_pos loaded
  obtain ⟨after, completed, written⟩ := (function.execute_loadEffect registers memory args length
    (addBytes_eq _ _)).allowed bare.nonempty offset range.inRamWindow (opened _ _ _)
  have bytes : ofBytes (fun index => loadRamOffset memory (offset + index)) function.byteLength =
      (ofBytes (fun index => ramByte memory (offset + index)) function.byteLength :
        BitVec (8 * function.byteLength)) := by
    refine eq_of_byte rfl fun index inside => ?_
    have window := range.window
    have slab := range.slab
    rw [byte_ofBytes _ inside (Nat.le_refl _), byte_ofBytes _ inside (Nat.le_refl _), loadRamOffset_eq,
      if_pos ((denseGuestToHostIndex_isSome _ _).mpr ⟨by omega, by omega⟩)]
  rw [bytes] at written
  have control : ControlKept registers after := by
    constructor <;> rw [written.rest]
  exact ⟨after, memory, written.zero.trans zero, completed, written.machineOf _ zero, control, rfl⟩

/-- A machine whose memory and reservation alone have changed. -/
theorem machineOf_store (zero : registers.generalPurpose 0 = 0) {address : Bytes8} {source : BitVec wide}
    (put : RamPut memory offset count source stored) (range : RamRange memory address count offset)
    (positive : 0 < count) (revoked : reservationOf stored (hartIdOf registers) =
      (reservationOf memory (hartIdOf registers)).filter fun held => !overwritten address.toNat count held) :
    (machineOf registers memory zero).store reservationLineSize address.toNat count source =
      some (machineOf registers stored zero) := by
  have present : (machineOf registers memory zero).memory.Present address.toNat count := range.present
  rw [Rv64.Machine.store_present present]
  refine congrArg some (Rv64.Machine.ext rfl rfl (put.ramBytes range).symm ?_)
  exact (reservedOf_store positive (hartIdOf registers) revoked).symm

theorem RegisterInvariant.hartIdOf (invariant : RegisterInvariant registers) :
    hartIdOf registers < reservationHartCount := by
  have zero := invariant.legal.identity Csr.mhartid rfl
  rw [hartIdOf_slot, zero]
  decide

theorem completesAs_store (bare : BareMemory memory) (opened : PmpOpen registers)
    (hart : hartIdOf registers < reservationHartCount) (function : StoreFunction) (args : StoreArgs)
    (stepped : ((machineOf registers memory zero).store reservationLineSize
        (registers.generalPurpose args.sourceRegister1 + args.immediate).toNat function.byteLength
        (registers.generalPurpose args.sourceRegister2)).map
          (·.jump (registers.programCounter + length)) = some next) :
    CompletesAs registers memory (function.execute registers memory args length) next := by
  obtain ⟨machine, written, _⟩ := Option.map_eq_some_iff.mp stepped
  obtain ⟨offset, range⟩ := RamRange.of_present function.byteLength_pos
    (Rv64.Machine.present_of_store (Option.isSome_of_eq_some written))
  obtain ⟨after, completed, written⟩ := (function.execute_storeEffect registers memory args length
    (addBytes_eq _ _)).allowed bare.nonempty offset range.inRamWindow (opened _ _ _)
  have kept : storeBytes memory (storeEffectiveAddress registers args)
      (registers.generalPurpose args.sourceRegister2) function.byteLength = .ok after := by
    rw [StoreFunction.execute_eq] at completed
    exact storeRegister_completed completed
  obtain ⟨middle, parts⟩ := storeBytes_parts bare.idle.free.kept bare.idle.tail kept
  have revoked := parts.reservationOf function.byteLength_pos hart
  rw [storeEffectiveAddress, addBytes_eq] at revoked
  rw [machineOf_store zero (written.put range) range function.byteLength_pos revoked] at stepped
  exact ⟨setProgramCounter registers (registers.programCounter + length), after, zero, completed,
    Option.some.inj stepped, ⟨rfl, rfl⟩, written.layout⟩

/-! Atomics. -/

theorem RamRange.location (range : RamRange memory address width.byteLength offset) (bare : BareMemory memory) :
    RamLocation memory address width offset where
  resolved := range.inRamWindow.resolved bare.nonempty width.positive
  window := range.window
  slab := range.slab

/-- A naturally aligned location of RAM can be loaded. -/
theorem RamLocation.loads (location : RamLocation memory address width offset)
    (based : memory.layout.ram.guestAddress.toNat % 8 = 0) (aligned : address.toNat % width.byteLength = 0) :
    atomicLoadBytes memory address width = some ((ramWord memory offset width).signExtend 64) := by
  have accepted : (atomicLoadBytes memory address width).isSome = true := by
    rw [location.accepted_iff aligned]
    cases width with
    | word =>
      change memory.layout.ram.guestAddress.toNat % 4 = 0
      omega
    | doubleword => exact based
  obtain ⟨value, loaded⟩ := Option.isSome_iff_exists.mp accepted
  rw [loaded, (location.loaded loaded).2]

theorem RamLocation.sameRam (location : RamLocation memory address width offset) (same : SameRam memory stored) :
    RamLocation stored address width offset := by
  obtain ⟨resolved, window, slab⟩ := location
  constructor <;> rwa [same.layout]

theorem SameRam.ramWord (same : SameRam memory stored) (slab : offset + width.byteLength ≤
    memory.layout.ram.hostByteLength) : ramWord stored offset width = ramWord memory offset width := by
  refine eq_of_byte rfl fun index inside => ?_
  rw [Emulator.ramWord, Emulator.ramWord, byte_ofBytes _ inside (Nat.le_refl _), byte_ofBytes _ inside (Nat.le_refl _),
    same.bytes _ (by omega)]

theorem AtomicStore.put {source : Bytes8} (operation : AtomicStore memory (memory.layout.ram.hostIndex + offset)
      address source width stored) : RamPut memory offset width.byteLength source stored where
  layout := operation.confined.layout
  bytes other inside := operation.ramByte other inside

theorem RamPut.narrow {source : Bytes8} (put : RamPut memory offset width.byteLength source stored) :
    RamPut memory offset width.byteLength (source.setWidth (8 * width.byteLength)) stored where
  layout := put.layout
  bytes other inside := by
    rw [put.bytes other inside]
    split
    · rw [byte_setWidth _ (by omega)]
    · rfl

theorem completesAs_amo (bare : BareMemory memory) (opened : PmpOpen registers)
    (hart : hartIdOf registers < reservationHartCount) (function : AmoFunction) (width : AtomicWidth) (args : AmoArgs)
    (stepped : (machineOf registers memory zero).amo reservationLineSize args.destinationRegister
      (registers.generalPurpose args.sourceRegister1) width.byteLength (registers.generalPurpose args.sourceRegister2)
      (registers.programCounter + length) (fun old source => function.result old source) = some next) :
    CompletesAs registers memory (function.execute registers memory args width length) next := by
  rw [Rv64.Machine.amo] at stepped
  split at stepped
  case isFalse => cases stepped
  rename_i aligned
  obtain ⟨old, loaded, stepped⟩ := Option.bind_eq_some_iff.mp stepped
  obtain ⟨offset, range, rfl⟩ := ramBytes_load width.positive loaded
  have location := range.location bare
  have accepted := location.loads bare.based aligned
  obtain ⟨index, same⟩ := location.loaded accepted
  obtain ⟨hostIndex, stored, loop, operation⟩ := amoLoop_atomicStore accepted function.combine
    (registers.generalPurpose args.sourceRegister2)
  obtain rfl := Option.some.inj (index.symm.trans operation.aligned)
  have ran : function.execute registers memory args width length = completeWith registers stored
      args.destinationRegister ((ramWord memory offset width).signExtend 64) length := by
    simp only [AmoFunction.execute_combine, amoReadModifyWrite, readGeneralPurposeRegister,
      trapIfAtomicMisaligned_aligned (naturallyAligned_iff.mpr aligned),
      trapIfPmpDeniesAtomic_allowed (opened _ _ .amo), accepted, loop, oldValue_extended]
  have put := operation.put.narrow
  rw [combine_result, ramWord] at put
  have revoked := operation.reservationOf _ hart
  rw [machineOf_store zero put range width.positive revoked] at stepped
  rw [ran]
  obtain rfl := Option.some.inj stepped
  exact completesAs_completeWith stored _ _ operation.confined.layout

/-- An atomic that ends in `completeWith`, on the memory and the reservation that it left. -/
theorem completesAs_atomic {bytes : Rv64.Bytes} {reserved : Option Rv64.Reserved} (destination : BitVec 5)
    (value : Bytes8) (layout : stored.layout = memory.layout) (shown : ramBytes stored = bytes)
    (held : reservedOf stored (hartIdOf registers) = reserved) :
    CompletesAs registers memory (completeWith registers stored destination value length)
      { (machineOf registers memory zero).write destination value (registers.programCounter + length) with
        memory := bytes, reserved := reserved } := by
  subst shown held
  have ended : CompletesAs registers memory (completeWith registers stored destination value length)
      ((machineOf registers stored zero).write destination value (registers.programCounter + length)) :=
    completesAs_completeWith stored destination value layout
  exact ended

theorem executeLr_extend (width : AtomicWidth) : executeLr registers memory width =
    loadReserved registers memory width fun old => if width = .word then signExtendBytes old 4 else old := by
  cases width <;> rfl

/-- Loading under the lock loads what is there without it. -/
theorem loadAndReserve_ram (registers : Registers) (location : RamLocation memory address width offset)
    (based : memory.layout.ram.guestAddress.toNat % 8 = 0) (aligned : address.toNat % width.byteLength = 0) :
    ∃ stored, loadAndReserve registers memory address width =
      (some ((ramWord memory offset width).signExtend 64), stored) := by
  have acquired : SameRam memory (monitorLock.acquire memory) := acquireMonitorLock_changes.sameRam
  have loaded := (location.sameRam acquired).loads (by rwa [acquired.layout]) aligned
  rw [acquired.ramWord location.slab] at loaded
  rw [loadAndReserve, withMonitorLock, SpinLock.hold]
  simp only [loaded]
  exact ⟨_, rfl⟩

theorem completesAs_lr (bare : BareMemory memory) (opened : PmpOpen registers)
    (hart : hartIdOf registers < reservationHartCount) (width : AtomicWidth) (args : AmoArgs)
    (stepped : (machineOf registers memory zero).loadReserve args.destinationRegister
      (registers.generalPurpose args.sourceRegister1) width.byteLength (registers.programCounter + length) =
        some next) :
    CompletesAs registers memory (executeLr registers memory width args length) next := by
  rw [Rv64.Machine.loadReserve] at stepped
  split at stepped
  case isFalse => cases stepped
  rename_i aligned
  obtain ⟨old, loaded, rfl⟩ := Option.map_eq_some_iff.mp stepped
  obtain ⟨offset, range, rfl⟩ := ramBytes_load width.positive loaded
  obtain ⟨stored, reserved⟩ := loadAndReserve_ram registers (range.location bare) bare.based aligned
  obtain ⟨confined, table⟩ := loadAndReserve_some reserved
  have same : SameRam memory stored := confined.changes.sameRam
  have ran : executeLr registers memory width args length = completeWith registers stored args.destinationRegister
      ((ramWord memory offset width).signExtend 64) length := by
    simp only [executeLr_extend, loadReserved, readGeneralPurposeRegister,
      trapIfAtomicMisaligned_aligned (naturallyAligned_iff.mpr aligned),
      trapIfPmpDeniesAtomic_allowed (opened _ _ .load), reserved, oldValue_extended]
  have own : reservedOf stored (hartIdOf registers) =
      some ⟨registers.generalPurpose args.sourceRegister1, width.byteLength⟩ := by
    rw [reservedOf_eq, table hart _ hart, if_pos rfl]
  rw [ran]
  exact completesAs_atomic args.destinationRegister _ same.layout same.ramBytes own

/-- A store-conditional that does not fault takes the reservation, and stores or not. -/
theorem storeConditional_ram (bare : BareMemory memory) (opened : PmpOpen registers) (args : AmoArgs)
    (range : RamRange memory (registers.generalPurpose args.sourceRegister1) width.byteLength offset)
    (aligned : (registers.generalPurpose args.sourceRegister1).toNat % width.byteLength = 0) :
    storeConditional registers memory width args length = completeWith registers
      (takeAndStore memory (hartIdOf registers) (registers.generalPurpose args.sourceRegister1)
        (registers.generalPurpose args.sourceRegister2) width) args.destinationRegister
      (if (tryTakeReservation memory (hartIdOf registers) (registers.generalPurpose args.sourceRegister1)
        width.byteLength).1 then zeroBytes else oneBytes) length := by
  simp only [storeConditional, readGeneralPurposeRegister,
    trapIfAtomicMisaligned_aligned (naturallyAligned_iff.mpr aligned), trapIfPmpDeniesAtomic_allowed (opened _ _ .store),
    (range.location bare).loads bare.based aligned, takeAndStore]
  rfl

theorem completesAs_sc (bare : BareMemory memory) (opened : PmpOpen registers)
    (hart : hartIdOf registers < reservationHartCount) (width : AtomicWidth) (args : AmoArgs)
    (stepped : (machineOf registers memory zero).storeConditional args.destinationRegister
      (registers.generalPurpose args.sourceRegister1) width.byteLength (registers.generalPurpose args.sourceRegister2)
      (registers.programCounter + length) = some next) :
    CompletesAs registers memory (executeSc registers memory width args length) next := by
  rw [Rv64.Machine.storeConditional] at stepped
  split at stepped
  case isFalse => cases stepped
  rename_i accepted
  obtain ⟨aligned, present⟩ := accepted
  obtain ⟨offset, range⟩ := RamRange.of_present width.positive present
  rw [executeSc_eq, storeConditional_ram bare opened args range aligned]
  have unlocked : memory.worker.scMonitorHeld = false := bare.idle.free.kept
  have reads := (range.location bare).loads bare.based aligned
  have hold : (machineOf registers memory zero).reserved =
      some ⟨registers.generalPurpose args.sourceRegister1, width.byteLength⟩ ↔
        (tryTakeReservation memory (hartIdOf registers) (registers.generalPurpose args.sourceRegister1)
          width.byteLength).1 = true := by
    rw [tryTakeReservation_fst hart]
    exact reservedOf_eq _ _
  by_cases held : (machineOf registers memory zero).reserved =
      some ⟨registers.generalPurpose args.sourceRegister1, width.byteLength⟩
  · rw [if_pos held] at stepped
    obtain rfl := Option.some.inj stepped
    have taken := hold.mp held
    obtain ⟨index, operation⟩ := takeAndStore_held unlocked taken reads (registers.generalPurpose args.sourceRegister2)
    obtain rfl := Option.some.inj (((range.location bare).loaded reads).1.symm.trans operation.aligned)
    have own : reservedOf (takeAndStore memory (hartIdOf registers) (registers.generalPurpose args.sourceRegister1)
        (registers.generalPurpose args.sourceRegister2) width) (hartIdOf registers) = none := by
      have meets := (overwritten_iff width.positive _ ⟨_, BitVec.ofNat 32 width.byteLength⟩).mpr
        (meetsLine_self width.positive (registers.generalPurpose args.sourceRegister1))
      rw [reservedOf, operation.reservationOf _ hart, (tryTakeReservation_fst hart).mp taken, Option.filter_some, meets]
      rfl
    rw [taken, if_pos rfl]
    exact completesAs_atomic args.destinationRegister _ operation.confined.layout (operation.put.ramBytes range) own
  · rw [if_neg held] at stepped
    obtain rfl := Option.some.inj stepped
    have lost : (tryTakeReservation memory (hartIdOf registers) (registers.generalPurpose args.sourceRegister1)
        width.byteLength).1 = false := by
      rw [← Bool.not_eq_true, ← hold]
      exact held
    obtain ⟨confined, table⟩ := takeAndStore_lost hart unlocked lost (registers.generalPurpose args.sourceRegister2)
    have same : SameRam memory (takeAndStore memory (hartIdOf registers)
        (registers.generalPurpose args.sourceRegister1) (registers.generalPurpose args.sourceRegister2) width) :=
      confined.changes.sameRam
    have own : reservedOf (takeAndStore memory (hartIdOf registers) (registers.generalPurpose args.sourceRegister1)
        (registers.generalPurpose args.sourceRegister2) width) (hartIdOf registers) = none := by
      rw [reservedOf, table, if_pos rfl]
      rfl
    rw [lost, if_neg Bool.false_ne_true]
    exact completesAs_atomic args.destinationRegister _ confined.layout same.ramBytes own

end YaRiscV.Emulator
