import YaRiscV.Emulator.Machine
import YaRiscV.Emulator.Cpu.RegisterChange
import YaRiscV.Emulator.Cpu.RegisterInvariant

/-! Synchronous traps are precise: an instruction that traps has changed nothing but the
trap state of the level it traps to. -/

namespace YaRiscV.Emulator

open YaRiscV.Library YaRiscV.Utils

/-- The slots a trap into `mode` writes. -/
def trapSlots (mode : Bytes8) : List (BitVec 12) :=
  if mode = privilegeMachine then [Csr.mepc, Csr.mcause, Csr.mtval, Csr.mstatus]
  else [Csr.sepc, Csr.scause, Csr.stval, Csr.mstatus]

def trapEpc (mode : Bytes8) : BitVec 12 :=
  if mode = privilegeMachine then Csr.mepc else Csr.sepc

def trapCause (mode : Bytes8) : BitVec 12 :=
  if mode = privilegeMachine then Csr.mcause else Csr.scause

def trapTval (mode : Bytes8) : BitVec 12 :=
  if mode = privilegeMachine then Csr.mtval else Csr.stval

/-- What a trap of `thunk` leaves as it was, and what it saves. -/
structure PreciseTrap (thunk : ExecuteThunk) (registers after : Registers) (memory memory' : Memory) : Prop where
  generalPurpose : after.generalPurpose = registers.generalPurpose
  flags : after.plicSupervisorExternalPending = registers.plicSupervisorExternalPending ∧
    after.publishedSupervisorTimerCompare = registers.publishedSupervisorTimerCompare
  slots : ∀ index ∉ trapSlots after.privilegeMode,
    (thunk.retiresBeforeTrap = true → index ≠ Csr.mcycle ∧ index ≠ Csr.minstret) →
    after.controlAndStatus index = registers.controlAndStatus index
  savedProgramCounter : after.controlAndStatus (trapEpc after.privilegeMode) = registers.programCounter &&& ~~~1
  layout : memory'.layout = memory.layout
  worker : memory'.worker = memory.worker
  regions : ∀ id region, memory.layout.table.regions.lookup id = some region → id ≠ reservationRegionId →
    ∀ offset < region.hostByteLength,
      memory'.bytes (region.hostIndex + offset) = memory.bytes (region.hostIndex + offset)
  reservations : ∀ hartId < reservationHartCount,
    reservationSlotValid memory' hartId = reservationSlotValid memory hartId ∧
      reservationSlotWidth memory' hartId = reservationSlotWidth memory hartId ∧
      reservationSlotAddress memory' hartId = reservationSlotAddress memory hartId

variable {registers after : Registers} {memory memory' : Memory}

/-- An execution that traps enters its trap from `base` and leaves the memory as it was. -/
def TrapsFrom (base : Registers) (memory : Memory) : Execution → Prop
  | .trapped after memory' => (∃ cause trapValue, after = enterTrap base cause trapValue) ∧
      LockWordOnly memory memory'
  | _ => True

/-- Every instruction that traps has done nothing before; `ecall` and `ebreak` have retired. -/
theorem execute_trapsFrom (thunk : ExecuteThunk) (registers : Registers) (memory : Memory)
    (length : Bytes8) : TrapsFrom
    (if thunk.retiresBeforeTrap then retireInstructionNow registers else registers) memory
    (thunk.execute registers memory length) := by
  have outcome := execute_outcome thunk registers memory length
  generalize thunk.execute registers memory length = execution at outcome ⊢
  cases outcome with
  | trapped started exception trapValue untouched =>
    rw [started]
    exact ⟨⟨_, trapValue, rfl⟩, untouched⟩
  | _ => trivial

theorem legalizeXepc_eq (xepc : Bytes8) : legalizeXepc xepc = xepc &&& ~~~1 := by
  have low : byte (~~~1 : Bytes8) 0 = xepcIalignMaskByte0 := by decide
  have high : ∀ index < 8, index ≠ 0 → byte (~~~1 : Bytes8) index = BitVec.allOnes 8 := by decide
  have words : 64 = 8 * 8 := rfl
  refine eq_of_byte words fun index inside => ?_
  rw [legalizeXepc, byte_setByte _ _ (by decide), byte_and]
  split
  · rename_i first
    rw [first, low]
  · rename_i later
    rw [high index inside later, BitVec.and_allOnes]

/-- The CSR writes of a trap entry. -/
def trapWrites (registers : Registers) (epc cause tval : BitVec 12) (causeBytes trapValue : Bytes8) :
    Registers :=
  let registers := writeControlAndStatusRegister registers epc registers.programCounter
  let registers := writeControlAndStatusRegister registers cause causeBytes
  writeControlAndStatusRegister registers tval trapValue

/-- What a trap entry into `mode` does to the register file. -/
structure TrapEntry (mode : Bytes8) (before after : Registers) : Prop where
  generalPurpose : after.generalPurpose = before.generalPurpose
  privilegeMode : after.privilegeMode = mode
  flags : after.plicSupervisorExternalPending = before.plicSupervisorExternalPending ∧
    after.publishedSupervisorTimerCompare = before.publishedSupervisorTimerCompare
  slots : ∀ index ∉ trapSlots mode, SlotKept index before after
  savedProgramCounter : after.controlAndStatus (trapEpc mode) = before.programCounter &&& ~~~1

theorem SlotsOnly.trans (first : SlotsOnly registers middle) (second : SlotsOnly middle after) :
    SlotsOnly registers after := by
  obtain ⟨_, rfl⟩ := first
  obtain ⟨file, rfl⟩ := second
  exact ⟨file, rfl⟩

private theorem slotKept_single (registers : Registers) (value : Bytes8) (own : writtenSlots index = [index])
    (apart : other ≠ index) :
    SlotKept other registers (writeControlAndStatusRegister registers index value) :=
  writeControlAndStatusRegister_slotKept value (by rwa [own, List.mem_singleton])

private theorem trapEntry_of_writes {mode programCounter status : Bytes8}
    (slots : trapSlots mode = [epc, cause, tval, Csr.mstatus]) (saved : trapEpc mode = epc)
    (own : writtenSlots epc = [epc] ∧ writtenSlots cause = [cause] ∧ writtenSlots tval = [tval])
    (apart : epc ≠ cause ∧ epc ≠ tval ∧ epc ≠ Csr.mstatus)
    (legalized : ∀ registers value, (writeControlAndStatusRegister registers epc value).controlAndStatus epc =
      legalizeXepc value) :
    TrapEntry mode registers { writeControlAndStatusRegister
      (trapWrites registers epc cause tval causeBytes trapValue) Csr.mstatus status with
        privilegeMode := mode, programCounter := programCounter } := by
  have only : SlotsOnly registers (writeControlAndStatusRegister
      (trapWrites registers epc cause tval causeBytes trapValue) Csr.mstatus status) :=
    (((writeControlAndStatusRegister_slotsOnly epc _).trans
      (writeControlAndStatusRegister_slotsOnly cause _)).trans
      (writeControlAndStatusRegister_slotsOnly tval _)).trans
      (writeControlAndStatusRegister_slotsOnly Csr.mstatus _)
  obtain ⟨file, same⟩ := only
  refine ⟨by rw [same], rfl, by rw [same]; exact ⟨rfl, rfl⟩, fun index outside => ?_, ?_⟩
  · rw [slots] at outside
    simp only [List.mem_cons, List.not_mem_nil, or_false, not_or] at outside
    obtain ⟨notEpc, notCause, notTval, notMstatus⟩ := outside
    exact (slotKept_single _ status rfl notMstatus).trans ((slotKept_single _ trapValue own.2.2 notTval).trans
      ((slotKept_single _ causeBytes own.2.1 notCause).trans (slotKept_single _ _ own.1 notEpc)))
  · have kept := (slotKept_single (trapWrites registers epc cause tval causeBytes trapValue)
      status rfl apart.2.2).trans ((slotKept_single _ trapValue own.2.2 apart.2.1).trans
      (slotKept_single _ causeBytes own.2.1 apart.1))
    rw [saved]
    exact kept.trans ((legalized _ _).trans (legalizeXepc_eq _))

/-- A machine trap entry writes its slots and `mstatus`, then moves to M. -/
theorem enterMachineTrap_writes (registers : Registers) (cause trapValue : Bytes8) : ∃ status programCounter,
    enterMachineTrap registers cause trapValue = { writeControlAndStatusRegister
      (trapWrites registers Csr.mepc Csr.mcause Csr.mtval cause trapValue) Csr.mstatus status with
        privilegeMode := privilegeMachine, programCounter := programCounter } :=
  ⟨_, _, rfl⟩

theorem enterSupervisorTrap_writes (registers : Registers) (cause trapValue : Bytes8) : ∃ status programCounter,
    enterSupervisorTrap registers cause trapValue = { writeControlAndStatusRegister
      (trapWrites registers Csr.sepc Csr.scause Csr.stval cause trapValue) Csr.mstatus status with
        privilegeMode := privilegeSupervisor, programCounter := programCounter } :=
  ⟨_, _, rfl⟩

theorem enterMachineTrap_entry (registers : Registers) (cause trapValue : Bytes8) :
    TrapEntry privilegeMachine registers (enterMachineTrap registers cause trapValue) := by
  obtain ⟨status, programCounter, same⟩ := enterMachineTrap_writes registers cause trapValue
  rw [same]
  exact trapEntry_of_writes (by rfl) (by rfl) ⟨rfl, rfl, rfl⟩ (by decide) (fun _ _ => by rfl)

theorem enterSupervisorTrap_entry (registers : Registers) (cause trapValue : Bytes8) :
    TrapEntry privilegeSupervisor registers (enterSupervisorTrap registers cause trapValue) := by
  obtain ⟨status, programCounter, same⟩ := enterSupervisorTrap_writes registers cause trapValue
  rw [same]
  exact trapEntry_of_writes (by rfl) (by rfl) ⟨rfl, rfl, rfl⟩ (by decide) (fun _ _ => by rfl)

theorem enterTrap_entry (registers : Registers) (cause : Nat) (trapValue : Bytes8) :
    TrapEntry (enterTrap registers cause trapValue).privilegeMode registers
      (enterTrap registers cause trapValue) := by
  simp only [enterTrap]
  split
  · have entry := enterSupervisorTrap_entry (cancelInstructionRetire registers) (exceptionCauseBytes cause)
      trapValue
    rw [entry.privilegeMode]
    exact ⟨entry.generalPurpose, entry.privilegeMode, entry.flags, entry.slots, entry.savedProgramCounter⟩
  · have entry := enterMachineTrap_entry (cancelInstructionRetire registers) (exceptionCauseBytes cause)
      trapValue
    rw [entry.privilegeMode]
    exact ⟨entry.generalPurpose, entry.privilegeMode, entry.flags, entry.slots, entry.savedProgramCounter⟩

/-- A trap entry records its cause and value in the slots of its level. -/
private theorem recorded_of_writes (registers : Registers) (epc cause tval : BitVec 12)
    (causeBytes trapValue status : Bytes8) (own : writtenSlots tval = [tval])
    (apart : cause ≠ tval ∧ cause ≠ Csr.mstatus ∧ tval ≠ Csr.mstatus)
    (plain : ∀ registers value, (writeControlAndStatusRegister registers cause value).controlAndStatus cause = value ∧
      (writeControlAndStatusRegister registers tval value).controlAndStatus tval = value) :
    (writeControlAndStatusRegister (trapWrites registers epc cause tval causeBytes trapValue)
        Csr.mstatus status).controlAndStatus cause = causeBytes ∧
      (writeControlAndStatusRegister (trapWrites registers epc cause tval causeBytes trapValue)
        Csr.mstatus status).controlAndStatus tval = trapValue := by
  have mstatus : writtenSlots Csr.mstatus = [Csr.mstatus] := by rfl
  have kept (slot : BitVec 12) (other : slot ≠ Csr.mstatus) (before : Registers) :
      SlotKept slot before (writeControlAndStatusRegister before Csr.mstatus status) :=
    writeControlAndStatusRegister_slotKept status (by rwa [mstatus, List.mem_singleton])
  have keptCause (before : Registers) :
      SlotKept cause before (writeControlAndStatusRegister before tval trapValue) :=
    writeControlAndStatusRegister_slotKept trapValue (by rw [own, List.mem_singleton]; exact apart.1)
  constructor
  · exact (kept cause apart.2.1 _).trans ((keptCause _).trans (plain _ _).1)
  · exact (kept tval apart.2.2 _).trans (plain _ _).2

theorem enterMachineTrap_recorded (registers : Registers) (cause trapValue : Bytes8) :
    (enterMachineTrap registers cause trapValue).controlAndStatus Csr.mcause = cause ∧
      (enterMachineTrap registers cause trapValue).controlAndStatus Csr.mtval = trapValue := by
  obtain ⟨status, programCounter, same⟩ := enterMachineTrap_writes registers cause trapValue
  have file := congrArg Registers.controlAndStatus same
  have recorded := recorded_of_writes registers Csr.mepc Csr.mcause Csr.mtval cause trapValue status (by rfl)
    (by decide) fun _ _ => ⟨by rfl, by rfl⟩
  exact ⟨(congrFun file _).trans recorded.1, (congrFun file _).trans recorded.2⟩

theorem enterSupervisorTrap_recorded (registers : Registers) (cause trapValue : Bytes8) :
    (enterSupervisorTrap registers cause trapValue).controlAndStatus Csr.scause = cause ∧
      (enterSupervisorTrap registers cause trapValue).controlAndStatus Csr.stval = trapValue := by
  obtain ⟨status, programCounter, same⟩ := enterSupervisorTrap_writes registers cause trapValue
  have file := congrArg Registers.controlAndStatus same
  have recorded := recorded_of_writes registers Csr.sepc Csr.scause Csr.stval cause trapValue status (by rfl)
    (by decide) fun _ _ => ⟨by rfl, by rfl⟩
  exact ⟨(congrFun file _).trans recorded.1, (congrFun file _).trans recorded.2⟩

theorem enterTrap_recorded (registers : Registers) (cause : Nat) (trapValue : Bytes8) :
    (enterTrap registers cause trapValue).controlAndStatus
        (trapCause (enterTrap registers cause trapValue).privilegeMode) = exceptionCauseBytes cause ∧
      (enterTrap registers cause trapValue).controlAndStatus
        (trapTval (enterTrap registers cause trapValue).privilegeMode) = trapValue := by
  rw [enterTrap]
  split
  · exact enterSupervisorTrap_recorded _ _ _
  · exact enterMachineTrap_recorded _ _ _

/-- Retiring moves the two counters only. -/
structure CountersOnly (before after : Registers) : Prop where
  generalPurpose : after.generalPurpose = before.generalPurpose
  programCounter : after.programCounter = before.programCounter
  flags : after.plicSupervisorExternalPending = before.plicSupervisorExternalPending ∧
    after.publishedSupervisorTimerCompare = before.publishedSupervisorTimerCompare
  slots : ∀ index, index ≠ Csr.mcycle → index ≠ Csr.minstret → SlotKept index before after

theorem retireInstructionNow_countersOnly (registers : Registers) :
    CountersOnly registers (retireInstructionNow registers) := by
  have advanced (registers : Registers) (inhibit enableBit : BitVec 8) (counter : BitVec 12)
      (member : counter = Csr.mcycle ∨ counter = Csr.minstret) :
      CountersOnly registers (advanceCounter registers inhibit enableBit counter) := by
    rw [advanceCounter]
    split
    · refine ⟨rfl, rfl, ⟨rfl, rfl⟩, fun index notCycle notInstret => .setSlot ?_⟩
      rcases member with rfl | rfl <;> assumption
    · exact ⟨rfl, rfl, ⟨rfl, rfl⟩, fun _ _ _ => rfl⟩
  have cycle := advanced (cancelInstructionRetire (beginInstructionRetire registers))
    (byte (registers.controlAndStatus Csr.mcountinhibit) 0) counterenByte0Cy Csr.mcycle (.inl rfl)
  have instret := advanced (advanceCounter (cancelInstructionRetire (beginInstructionRetire registers))
    (byte (registers.controlAndStatus Csr.mcountinhibit) 0) counterenByte0Cy Csr.mcycle)
    (byte (registers.controlAndStatus Csr.mcountinhibit) 0) counterenByte0Ir Csr.minstret (.inr rfl)
  exact ⟨instret.generalPurpose.trans cycle.generalPurpose,
    instret.programCounter.trans cycle.programCounter,
    ⟨instret.flags.1.trans cycle.flags.1, instret.flags.2.trans cycle.flags.2⟩,
    fun index notCycle notInstret =>
      (instret.slots index notCycle notInstret).trans (cycle.slots index notCycle notInstret)⟩

/-- The lock word lies outside every region but the reservation slab. -/
theorem LockWordOnly.region {id : String} {region : Region} (only : LockWordOnly memory memory')
    (found : memory.layout.table.regions.lookup id = some region) (other : id ≠ reservationRegionId)
    (offset : Nat) (inside : offset < region.hostByteLength) :
    memory'.bytes (region.hostIndex + offset) = memory.bytes (region.hostIndex + offset) := by
  have apart := memory.layout.apart found memory.layout.reservationFound other
  refine only.changes.bytes _ fun covered => ?_
  simp only [SpinLock.Covers, monitorLock] at covered
  simp only [Region.Apart, reservationHostByteLength] at apart
  omega

theorem LockWordOnly.reservation (only : LockWordOnly memory memory') (hartId : Nat) :
    reservationSlotValid memory' hartId = reservationSlotValid memory hartId ∧
      reservationSlotWidth memory' hartId = reservationSlotWidth memory hartId ∧
      reservationSlotAddress memory' hartId = reservationSlotAddress memory hartId := by
  have slot : reservationSlotHostIndex memory' hartId = reservationSlotHostIndex memory hartId := by
    rw [reservationSlotHostIndex, reservationSlotHostIndex, only.changes.layout]
  rw [reservationSlotValid, reservationSlotWidth, reservationSlotAddress, slot]
  refine ⟨only.changes.load32 ?_, only.changes.load32 ?_, only.changes.load64 ?_⟩ <;>
  · intro offset _ covered
    simp only [SpinLock.Covers, monitorLock, reservationSlotHostIndex, reservationLockBytes,
      reservationLockPad] at covered
    omega

/-- An instruction that traps leaves general-purpose registers, RAM, devices, reservations
and every CSR outside its trap state as they were, and saves its own PC. -/
theorem execute_trapped_precise (thunk : ExecuteThunk)
    (trapped : thunk.execute registers memory length = .trapped after memory') :
    PreciseTrap thunk registers after memory memory' := by
  have traps := execute_trapsFrom thunk registers memory length
  rw [trapped] at traps
  obtain ⟨⟨cause, trapValue, rfl⟩, only⟩ := traps
  generalize started : (if thunk.retiresBeforeTrap then retireInstructionNow registers else registers) = base
  have counters : CountersOnly registers base := by
    rw [← started]
    split
    · exact retireInstructionNow_countersOnly registers
    · exact ⟨rfl, rfl, ⟨rfl, rfl⟩, fun _ _ _ => rfl⟩
  have entry := enterTrap_entry base cause trapValue
  constructor
  case generalPurpose => exact entry.generalPurpose.trans counters.generalPurpose
  case flags => exact ⟨entry.flags.1.trans counters.flags.1, entry.flags.2.trans counters.flags.2⟩
  case slots =>
    intro index outside notCounter
    refine (entry.slots index outside).trans ?_
    cases retires : thunk.retiresBeforeTrap with
    | true => exact counters.slots index (notCounter retires).1 (notCounter retires).2
    | false =>
      rw [retires] at started
      rw [← started]
      rfl
  case savedProgramCounter => rw [entry.savedProgramCounter, counters.programCounter]
  case layout => exact only.changes.layout
  case worker => exact only.worker
  case regions => exact fun id region found other => only.region found other
  case reservations => exact fun hartId _ => only.reservation hartId

/-- A load-reserved outside RAM. -/
theorem execute_trapped_precise_lr : ∃ after memory',
    (ExecuteThunk.lr .word ⟨1, 0, 0⟩).execute createRegisters defaultMemory 4 = .trapped after memory' ∧
      PreciseTrap (.lr .word ⟨1, 0, 0⟩) createRegisters after defaultMemory memory' := by
  have trapped : (ExecuteThunk.lr .word ⟨1, 0, 0⟩).execute createRegisters defaultMemory 4 =
      .trapped _ _ := rfl
  exact ⟨_, _, trapped, execute_trapped_precise _ trapped⟩

end YaRiscV.Emulator
