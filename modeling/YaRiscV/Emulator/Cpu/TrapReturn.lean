import YaRiscV.Emulator.Cpu.MstatusBits
import YaRiscV.Emulator.Cpu.ModifyPrivilege

/-! Trap entry against trap return: each level's return undoes its entry, the two levels keep
out of each other's way, and how many interrupts can follow one another. -/

namespace YaRiscV.Emulator

open YaRiscV.Library YaRiscV.Utils

/-- One bit of `mstatus`. -/
def statusBit (registers : Registers) (bit : Nat) : Bool := (registers.controlAndStatus Csr.mstatus).getLsbD bit

/-- The MPP field. -/
def statusMpp (registers : Registers) : BitVec 8 := mppBits (registers.controlAndStatus Csr.mstatus)

def tsrBit : Nat := 22

/-- A trap: an exception, to the level `medeleg` says, or the interrupt to take. -/
inductive TrapTaken (registers : Registers) : Registers → Prop
  | exception (cause : Nat) (trapValue : Bytes8) : TrapTaken registers (enterTrap registers cause trapValue)
  | interrupt (taken : takeInterruptIfAny registers = some after) : TrapTaken registers after

/-- What a trap to M and the `mret` after it leave. -/
structure MachineRoundTrip (before after : Registers) : Prop where
  programCounter : after.programCounter = before.programCounter
  privilegeMode : after.privilegeMode = before.privilegeMode
  mie : statusBit after mieBit = statusBit before mieBit
  mprv : before.privilegeMode ≠ privilegeMachine → statusBit after mprvBit = false
  mpie : statusBit after mpieBit = true
  mpp : statusMpp after = mstatusByte1MppUser
  supervisorBits : ∀ bit ∈ [sieBit, spieBit, sppBit, tsrBit], statusBit after bit = statusBit before bit
  supervisorSlots : ∀ index ∈ [Csr.sepc, Csr.scause, Csr.stval], SlotKept index before after

/-- What a trap to S and the `sret` after it leave. -/
structure SupervisorRoundTrip (before after : Registers) : Prop where
  programCounter : after.programCounter = before.programCounter
  privilegeMode : after.privilegeMode = before.privilegeMode
  sie : statusBit after sieBit = statusBit before sieBit
  spie : statusBit after spieBit = true
  spp : statusBit after sppBit = false
  machineBits : ∀ bit ∈ [mieBit, mpieBit], statusBit after bit = statusBit before bit
  mpp : statusMpp after = statusMpp before
  machineSlots : ∀ index ∈ [Csr.mepc, Csr.mcause, Csr.mtval], SlotKept index before after

/-- Two states that `sret` returns from alike. -/
structure SameSupervisorReturn (left right : Registers) : Prop where
  programCounter : left.programCounter = right.programCounter
  privilegeMode : left.privilegeMode = right.privilegeMode
  bits : ∀ bit ∈ [sieBit, spieBit, sppBit], statusBit left bit = statusBit right bit

variable {registers before after : Registers} {memory : Memory} {length : Bytes8}

theorem enterMachineTrap_mstatus (registers : Registers) (cause trapValue : Bytes8) :
    (enterMachineTrap registers cause trapValue).controlAndStatus Csr.mstatus =
      machineEntryMstatus registers.privilegeMode (registers.controlAndStatus Csr.mstatus) := by
  have entered : (enterMachineTrap registers cause trapValue).controlAndStatus Csr.mstatus =
      (applyTrapEntryToMstatus (trapWrites registers Csr.mepc Csr.mcause Csr.mtval cause
        trapValue)).controlAndStatus Csr.mstatus := rfl
  have kept : SlotKept Csr.mstatus registers
      (trapWrites registers Csr.mepc Csr.mcause Csr.mtval cause trapValue) :=
    ((writeControlAndStatusRegister_slotKept trapValue (by decide)).trans
      (writeControlAndStatusRegister_slotKept cause (by decide))).trans
      (writeControlAndStatusRegister_slotKept _ (by decide))
  have slot : (trapWrites registers Csr.mepc Csr.mcause Csr.mtval cause trapValue).controlAndStatus Csr.mstatus =
      registers.controlAndStatus Csr.mstatus := kept
  rw [entered, applyTrapEntryToMstatus_eq, setSlot_controlAndStatus, if_pos rfl, slot]
  simp only [trapWrites, writeControlAndStatusRegister_privilegeMode]

theorem enterSupervisorTrap_mstatus (registers : Registers) (cause trapValue : Bytes8) :
    (enterSupervisorTrap registers cause trapValue).controlAndStatus Csr.mstatus =
      supervisorEntryMstatus registers.privilegeMode (registers.controlAndStatus Csr.mstatus) := by
  have entered : (enterSupervisorTrap registers cause trapValue).controlAndStatus Csr.mstatus =
      (applyTrapEntryToSstatus (trapWrites registers Csr.sepc Csr.scause Csr.stval cause
        trapValue)).controlAndStatus Csr.mstatus := rfl
  have kept : SlotKept Csr.mstatus registers
      (trapWrites registers Csr.sepc Csr.scause Csr.stval cause trapValue) :=
    ((writeControlAndStatusRegister_slotKept trapValue (by decide)).trans
      (writeControlAndStatusRegister_slotKept cause (by decide))).trans
      (writeControlAndStatusRegister_slotKept _ (by decide))
  have slot : (trapWrites registers Csr.sepc Csr.scause Csr.stval cause trapValue).controlAndStatus Csr.mstatus =
      registers.controlAndStatus Csr.mstatus := kept
  rw [entered, applyTrapEntryToSstatus_eq, setSlot_controlAndStatus, if_pos rfl, slot]
  simp only [trapWrites, writeControlAndStatusRegister_privilegeMode]

/-- A trap is an entry of one level, with the retirement of an exception cancelled; to S only
from below M. -/
theorem TrapTaken.entry (taken : TrapTaken registers after) : ∃ base cause trapValue,
    (base = registers ∨ base = cancelInstructionRetire registers) ∧
      (after = enterMachineTrap base cause trapValue ∨
        after = enterSupervisorTrap base cause trapValue ∧ registers.privilegeMode ≠ privilegeMachine) := by
  cases taken with
  | exception cause trapValue =>
    refine ⟨cancelInstructionRetire registers, exceptionCauseBytes cause, trapValue, .inr rfl, ?_⟩
    simp only [enterTrap]
    split
    · rename_i delegated
      refine .inr ⟨rfl, fun machine => ?_⟩
      simp [shouldDelegateExceptionToSupervisor, cancelInstructionRetire, machine] at delegated
    · exact .inl rfl
  | interrupt taken =>
    simp only [takeInterruptIfAny, Option.map_eq_some_iff] at taken
    obtain ⟨takeable, selected, rfl⟩ := taken
    refine ⟨registers, interruptCauseBytes takeable.code, signedNumberToBytes 0 32, .inl rfl, ?_⟩
    split
    · rename_i toSupervisor
      exact .inr ⟨rfl, selectTakeableInterrupt_belowMachine selected toSupervisor⟩
    · exact .inl rfl

/-- What a return to `mode` through the slot `epc` does, leaving `status` in `mstatus`. -/
structure Returned (epc : BitVec 12) (mode status : Bytes8) (before after : Registers) : Prop where
  programCounter : after.programCounter = before.controlAndStatus epc
  privilegeMode : after.privilegeMode = mode
  mstatus : after.controlAndStatus Csr.mstatus = status
  slots : ∀ index ≠ Csr.mstatus, SlotKept index before after

theorem returnFromMachineTrap_returned (registers : Registers) :
    Returned Csr.mepc (machineReturnMode (registers.controlAndStatus Csr.mstatus))
      (machineReturnMstatus (registers.controlAndStatus Csr.mstatus)) registers (returnFromMachineTrap registers) where
  programCounter := rfl
  privilegeMode := machineReturn_mode _
  mstatus := rfl
  slots _ apart := SlotKept.setSlot apart

theorem returnFromSupervisorTrap_returned (registers : Registers) :
    Returned Csr.sepc (if statusBit registers sppBit then privilegeSupervisor else privilegeUser)
      (supervisorReturnMstatus (registers.controlAndStatus Csr.mstatus)) registers
      (returnFromSupervisorTrap registers) where
  programCounter := rfl
  privilegeMode := supervisorReturn_mode registers
  mstatus := rfl
  slots _ apart := SlotKept.setSlot apart

/-- An even address is saved whole. -/
theorem savedAddress_even (even : address.getLsbD 0 = false) : address &&& ~~~1 = (address : Bytes8) := by
  apply BitVec.eq_of_getLsbD_eq
  intro bit inside
  have one : ∀ bit < 64, (~~~1 : Bytes8).getLsbD bit = !decide (bit = 0) := by decide
  rw [BitVec.getLsbD_and, one bit inside]
  by_cases first : bit = 0
  · rw [first, even]
    rfl
  · rw [decide_eq_false first]
    simp

theorem RegisterInvariant.mpp (invariant : RegisterInvariant registers) :
    mppBits (registers.controlAndStatus Csr.mstatus) ≠ mstatusByte1MppReserved := by
  have legal : LegalMstatus (registers.controlAndStatus Csr.mstatus) := invariant.slots Csr.mstatus
  exact legal.1

theorem machineTrap_returned (invariant : RegisterInvariant registers)
    (even : registers.programCounter.getLsbD 0 = false) (cause trapValue : Bytes8) :
    MachineRoundTrip registers (returnFromMachineTrap (enterMachineTrap registers cause trapValue)) := by
  have entry := enterMachineTrap_entry registers cause trapValue
  have status := enterMachineTrap_mstatus registers cause trapValue
  have returned := returnFromMachineTrap_returned (enterMachineTrap registers cause trapValue)
  rw [status, machineReturnMode_entry _ invariant.privilege] at returned
  have bits {bit : Nat} (inside : bit < 64) (mpp : bit ≠ 11 ∧ bit ≠ 12) (xl : bit / 4 ≠ 8) :
      statusBit (returnFromMachineTrap (enterMachineTrap registers cause trapValue)) bit =
        if bit = mprvBit ∧ registers.privilegeMode ≠ privilegeMachine then false
        else if bit = mpieBit then true else statusBit registers bit := by
    rw [statusBit, returned.mstatus, getLsbD_machineRoundTrip _ invariant.privilege inside mpp xl, statusBit]
  constructor
  case programCounter => rw [returned.programCounter, ← savedAddress_even even, ← entry.savedProgramCounter]; rfl
  case privilegeMode => exact returned.privilegeMode
  case mie => exact bits (by decide) (by decide) (by decide)
  case mprv =>
    intro below
    rw [bits (by decide) (by decide) (by decide), if_pos ⟨rfl, below⟩]
  case mpie => exact bits (by decide) (by decide) (by decide)
  case mpp => rw [statusMpp, returned.mstatus, mppBits_machineReturn]
  case supervisorBits =>
    intro bit member
    simp only [List.mem_cons, List.not_mem_nil, or_false] at member
    rcases member with rfl | rfl | rfl | rfl <;> exact bits (by decide) (by decide) (by decide)
  case supervisorSlots =>
    intro index member
    simp only [List.mem_cons, List.not_mem_nil, or_false] at member
    rcases member with rfl | rfl | rfl
    all_goals
      exact (returned.slots _ (by decide)).trans (entry.slots _ (by decide))

theorem supervisorTrap_returned (invariant : RegisterInvariant registers)
    (below : registers.privilegeMode ≠ privilegeMachine)
    (even : registers.programCounter.getLsbD 0 = false) (cause trapValue : Bytes8) :
    SupervisorRoundTrip registers (returnFromSupervisorTrap (enterSupervisorTrap registers cause trapValue)) := by
  have entry := enterSupervisorTrap_entry registers cause trapValue
  have status := enterSupervisorTrap_mstatus registers cause trapValue
  have returned := returnFromSupervisorTrap_returned (enterSupervisorTrap registers cause trapValue)
  have legal := invariant.mpp
  have saved : statusBit (enterSupervisorTrap registers cause trapValue) sppBit =
      decide (registers.privilegeMode = privilegeSupervisor) := by
    rw [statusBit, status, getLsbD_supervisorEntry _ legal (by decide) (by decide), if_pos rfl]
  rw [status, saved] at returned
  have bits {bit : Nat} (inside : bit < 64) (xl : bit / 4 ≠ 8) :
      statusBit (returnFromSupervisorTrap (enterSupervisorTrap registers cause trapValue)) bit =
        if bit = mprvBit then false else if bit = sppBit then false else if bit = spieBit then true
        else statusBit registers bit := by
    rw [statusBit, returned.mstatus, getLsbD_supervisorRoundTrip _ legal inside xl, statusBit]
  constructor
  case programCounter => rw [returned.programCounter, ← savedAddress_even even, ← entry.savedProgramCounter]; rfl
  case privilegeMode =>
    rw [returned.privilegeMode]
    rcases invariant.privilege with user | supervisor | machine
    · rw [user]
      decide
    · rw [supervisor]
      decide
    · exact absurd machine below
  case sie => exact bits (by decide) (by decide)
  case spie => exact bits (by decide) (by decide)
  case spp => exact bits (by decide) (by decide)
  case machineBits =>
    intro bit member
    simp only [List.mem_cons, List.not_mem_nil, or_false] at member
    rcases member with rfl | rfl <;> exact bits (by decide) (by decide)
  case mpp => exact mppBits_congr (bits (by decide) (by decide)) (bits (by decide) (by decide))
  case machineSlots =>
    intro index member
    simp only [List.mem_cons, List.not_mem_nil, or_false] at member
    rcases member with rfl | rfl | rfl
    all_goals
      exact (returned.slots _ (by decide)).trans (entry.slots _ (by decide))

theorem MachineRoundTrip.cancelled (trip : MachineRoundTrip (cancelInstructionRetire registers) after) :
    MachineRoundTrip registers after :=
  ⟨trip.programCounter, trip.privilegeMode, trip.mie, trip.mprv, trip.mpie, trip.mpp, trip.supervisorBits,
    trip.supervisorSlots⟩

theorem SupervisorRoundTrip.cancelled (trip : SupervisorRoundTrip (cancelInstructionRetire registers) after) :
    SupervisorRoundTrip registers after :=
  ⟨trip.programCounter, trip.privilegeMode, trip.sie, trip.spie, trip.spp, trip.machineBits, trip.mpp,
    trip.machineSlots⟩

theorem mret_completes (machine : registers.privilegeMode = privilegeMachine) :
    ExecuteThunk.mret.execute registers memory length = .completed (returnFromMachineTrap registers) memory := by
  rw [ExecuteThunk.execute, mret, if_neg]
  simpa using machine

theorem tsrSet_eq (mstatus : Bytes8) : (byte mstatus 2 &&& mstatusByte2Tsr != 0) = mstatus.getLsbD tsrBit :=
  lineSet_eq mstatus _ tsrBit (by decide)

theorem sret_completes (supervisor : registers.privilegeMode = privilegeSupervisor)
    (tsr : statusBit registers tsrBit = false) :
    ExecuteThunk.sret.execute registers memory length = .completed (returnFromSupervisorTrap registers) memory := by
  have allowed : ¬ byte (registers.controlAndStatus Csr.mstatus) 2 &&& mstatusByte2Tsr ≠ 0 := by
    rw [← bne_iff_ne, tsrSet_eq]
    exact Bool.not_eq_true _ ▸ tsr
  have notBelow : ¬ compareUnsignedBytes registers.privilegeMode privilegeSupervisor < 0 := by
    rw [supervisor]
    decide
  rw [ExecuteThunk.execute, sret, if_neg notBelow, if_neg fun both => allowed both.2]

/-- A machine round trip leaves a pending `sret` as it was. -/
theorem MachineRoundTrip.sret (trip : MachineRoundTrip registers after) (legal : RegisterInvariant registers) :
    SameSupervisorReturn (returnFromSupervisorTrap registers) (returnFromSupervisorTrap after) := by
  have direct := returnFromSupervisorTrap_returned registers
  have pending := returnFromSupervisorTrap_returned after
  have user : mppBits (after.controlAndStatus Csr.mstatus) ≠ mstatusByte1MppReserved := by
    have cleared : mppBits (after.controlAndStatus Csr.mstatus) = mstatusByte1MppUser := trip.mpp
    rw [cleared]
    decide
  constructor
  · have sepc : after.controlAndStatus Csr.sepc = registers.controlAndStatus Csr.sepc :=
      trip.supervisorSlots Csr.sepc (by decide)
    rw [direct.programCounter, pending.programCounter, sepc]
  · rw [direct.privilegeMode, pending.privilegeMode, trip.supervisorBits sppBit (by decide)]
  · have spie : statusBit after spieBit = statusBit registers spieBit := trip.supervisorBits spieBit (by decide)
    intro bit member
    simp only [List.mem_cons, List.not_mem_nil, or_false] at member
    rw [statusBit, statusBit, direct.mstatus, pending.mstatus]
    rcases member with rfl | rfl | rfl
    · rw [getLsbD_supervisorReturn legal.mpp (by decide) (by decide),
        getLsbD_supervisorReturn user (by decide) (by decide)]
      exact spie.symm
    · rw [getLsbD_supervisorReturn legal.mpp (by decide) (by decide),
        getLsbD_supervisorReturn user (by decide) (by decide)]
      rfl
    · rw [getLsbD_supervisorReturn legal.mpp (by decide) (by decide),
        getLsbD_supervisorReturn user (by decide) (by decide)]
      rfl

/-- `sret` from S returns alike from both states. -/
def SretsAlike (left right : Registers) (memory : Memory) (length : Bytes8) : Prop :=
  ∃ leftAfter rightAfter, ExecuteThunk.sret.execute left memory length = .completed leftAfter memory ∧
    ExecuteThunk.sret.execute right memory length = .completed rightAfter memory ∧
      SameSupervisorReturn leftAfter rightAfter

/-- The return of a level undoes its trap, and leaves the stack of the other level alone. -/
theorem trapReturn_inverse (reachable : CpuReachable registers)
    (even : registers.programCounter.getLsbD 0 = false) (taken : TrapTaken registers trapped)
    (memory : Memory) (length : Bytes8) :
    (trapped.privilegeMode = privilegeMachine → ∃ after,
      ExecuteThunk.mret.execute trapped memory length = .completed after memory ∧ MachineRoundTrip registers after ∧
        (registers.privilegeMode = privilegeSupervisor → statusBit registers tsrBit = false →
          SretsAlike registers after memory length)) ∧
    (trapped.privilegeMode = privilegeSupervisor → statusBit registers tsrBit = false → ∃ after,
      ExecuteThunk.sret.execute trapped memory length = .completed after memory ∧
        SupervisorRoundTrip registers after) := by
  have invariant := reachable.invariant
  obtain ⟨base, cause, trapValue, started, entered⟩ := taken.entry
  have begun : RegisterInvariant base := by
    rcases started with rfl | rfl
    · exact invariant
    · exact invariant.retireFlag false
  have same : base.programCounter = registers.programCounter ∧ base.privilegeMode = registers.privilegeMode := by
    rcases started with rfl | rfl <;> exact ⟨rfl, rfl⟩
  constructor
  · intro machine
    rcases entered with rfl | ⟨rfl, _⟩
    · have trip : MachineRoundTrip registers (returnFromMachineTrap (enterMachineTrap base cause trapValue)) := by
        have trip := machineTrap_returned begun (same.1 ▸ even) cause trapValue
        rcases started with rfl | rfl
        · exact trip
        · exact trip.cancelled
      refine ⟨_, mret_completes machine, trip, fun supervisor tsr => ?_⟩
      have kept := trip.supervisorBits tsrBit (by decide)
      exact ⟨_, _, sret_completes supervisor tsr,
        sret_completes (trip.privilegeMode.trans supervisor) (kept.trans tsr), trip.sret invariant⟩
    · rw [(enterSupervisorTrap_entry _ _ _).privilegeMode] at machine
      exact absurd machine (by decide)
  · intro supervisor tsr
    rcases entered with rfl | ⟨rfl, below⟩
    · rw [(enterMachineTrap_entry _ _ _).privilegeMode] at supervisor
      exact absurd supervisor (by decide)
    · have trip : SupervisorRoundTrip registers
          (returnFromSupervisorTrap (enterSupervisorTrap base cause trapValue)) := by
        have trip := supervisorTrap_returned begun (same.2 ▸ below) (same.1 ▸ even) cause trapValue
        rcases started with rfl | rfl
        · exact trip
        · exact trip.cancelled
      have held : statusBit (enterSupervisorTrap base cause trapValue) tsrBit = statusBit registers tsrBit := by
        rw [statusBit, enterSupervisorTrap_mstatus, getLsbD_supervisorEntry _ begun.mpp (by decide) (by decide)]
        rcases started with rfl | rfl <;> rfl
      exact ⟨_, sret_completes supervisor (held.trans tsr), trip⟩

/-- Delegate breakpoints to S, and leave M for S with SIE set. -/
def enterSupervisor : List ExecuteThunk :=
  [.lui ⟨1, 0x1000⟩, .opImm .addi ⟨1, 1, -2046⟩, .csrRegister .csrrw ⟨0, 1, Csr.mstatus, 0⟩,
    .csrImmediate .csrrwi ⟨0, 8, Csr.medeleg, 0⟩, .mret]

/-- A breakpoint taken and returned from in S, and an illegal instruction that goes to M. -/
theorem trapReturn_inverse_delegated : ∃ registers resumed returned,
    executeAll enterSupervisor createRegisters = some registers ∧
    registers.privilegeMode = privilegeSupervisor ∧ statusBit registers sieBit = true ∧
    ExecuteThunk.sret.execute (enterTrap registers causeBreakpoint 0) defaultMemory 4 =
      .completed resumed defaultMemory ∧ SupervisorRoundTrip registers resumed ∧
    ExecuteThunk.mret.execute (enterTrap registers causeIllegalInstruction 0) defaultMemory 4 =
      .completed returned defaultMemory ∧ MachineRoundTrip registers returned ∧
    SretsAlike registers returned defaultMemory 4 := by
  have shown : (executeAll enterSupervisor createRegisters).any (fun registers =>
      decide ((registers.privilegeMode = privilegeSupervisor ∧ statusBit registers sieBit = true) ∧
        (enterTrap registers causeBreakpoint 0).privilegeMode = privilegeSupervisor ∧
        (enterTrap registers causeIllegalInstruction 0).privilegeMode = privilegeMachine ∧
        registers.programCounter.getLsbD 0 = false ∧ statusBit registers tsrBit = false)) = true := by decide +kernel
  obtain ⟨registers, executed, holds⟩ := (Option.any_eq_true _ _).mp shown
  obtain ⟨⟨supervisor, enabled⟩, delegated, undelegated, even, tsr⟩ := of_decide_eq_true holds
  have reachable : CpuReachable registers := executeAll_reaches executed
  obtain ⟨resumed, resumes, trip⟩ :=
    (trapReturn_inverse reachable even (.exception causeBreakpoint 0) defaultMemory 4).2 delegated tsr
  obtain ⟨returned, returns, roundTrip, alike⟩ :=
    (trapReturn_inverse reachable even (.exception causeIllegalInstruction 0) defaultMemory 4).1 undelegated
  exact ⟨registers, resumed, returned, executed, supervisor, enabled, resumes, trip, returns, roundTrip,
    alike supervisor tsr⟩

end YaRiscV.Emulator
