import YaRiscV.Emulator.Cpu.Reachable

/-! `mstatus.MPRV`: set only in M-mode, and cleared by every way down, so that code below
M never borrows the privilege of MPP. -/

namespace YaRiscV.Emulator

open YaRiscV.Library YaRiscV.Utils

/-- The MPRV bit is clear. -/
def ModifyPrivilegeClear (mstatus : Bytes8) : Prop := byte mstatus 2 &&& mstatusByte2Mprv = 0

/-- Below M the MPRV bit is clear. -/
def ModifyPrivilegeInvariant (registers : Registers) : Prop :=
  registers.privilegeMode ≠ privilegeMachine → ModifyPrivilegeClear (registers.controlAndStatus Csr.mstatus)

variable {registers after : Registers}

theorem byte_setBits (bytes : Bytes8) (mask : BitVec 8) (value : Bool) (inside : 8 * byteIndex + 8 ≤ 64)
    (other : index ≠ byteIndex) : byte (setBits bytes byteIndex mask value) index = byte bytes index := by
  rw [setBits, byte_setByte _ _ inside, if_neg other]

theorem modifyPrivilegeClear_congr (same : byte mstatus 2 = byte other 2) :
    ModifyPrivilegeClear mstatus ↔ ModifyPrivilegeClear other := by
  rw [ModifyPrivilegeClear, ModifyPrivilegeClear, same]

theorem modifyPrivilegeClear_setBits (bytes : Bytes8) :
    ModifyPrivilegeClear (setBits bytes 2 mstatusByte2Mprv false) := by
  have cleared (value : BitVec 8) : value &&& ~~~mstatusByte2Mprv &&& mstatusByte2Mprv = 0 := by
    revert value
    decide
  rw [ModifyPrivilegeClear, setBits, byte_setByte _ _ (by decide), if_pos rfl]
  exact cleared _

theorem modifyPrivilegeClear_legalizeMstatus :
    ModifyPrivilegeClear (legalizeMstatus mstatus) ↔ ModifyPrivilegeClear mstatus :=
  modifyPrivilegeClear_congr (byte_legalizeMstatus mstatus 2 (by decide))

theorem writeControlAndStatusRegister_mstatus (value : Bytes8) :
    writeControlAndStatusRegister registers Csr.mstatus value =
      registers.setSlot Csr.mstatus (legalizeMstatus value) := rfl

theorem writeControlAndStatusRegister_sstatus (value : Bytes8) :
    writeControlAndStatusRegister registers Csr.sstatus value = registers.setSlot Csr.mstatus
      (legalizeMstatus (orBytes (andBytes (registers.controlAndStatus Csr.mstatus) mstatusKeepOutsideSstatus)
        (andBytes value sstatusMaskBytes))) := rfl

/-- `sstatus` does not show MPRV, and its writes keep it. -/
theorem modifyPrivilegeClear_writeSstatus (value : Bytes8)
    (clear : ModifyPrivilegeClear (registers.controlAndStatus Csr.mstatus)) : ModifyPrivilegeClear
      ((writeControlAndStatusRegister registers Csr.sstatus value).controlAndStatus Csr.mstatus) := by
  have kept : byte mstatusKeepOutsideSstatus 2 = 0xf3 := by decide
  have shown : byte sstatusMaskBytes 2 &&& mstatusByte2Mprv = 0 := by decide
  rw [ModifyPrivilegeClear] at clear
  rw [writeControlAndStatusRegister_sstatus, setSlot_controlAndStatus, if_pos rfl,
    modifyPrivilegeClear_legalizeMstatus, ModifyPrivilegeClear, orBytes_eq, andBytes_eq, andBytes_eq,
    byte_or, byte_and, byte_and, BitVec.and_or_distrib_right, BitVec.and_assoc, BitVec.and_assoc, shown]
  rw [BitVec.and_comm (byte mstatusKeepOutsideSstatus 2), ← BitVec.and_assoc, clear]
  simp

/-- Below M an allowed write is not to `mstatus`. -/
theorem mstatus_requires_machine (invariant : RegisterInvariant registers)
    (below : registers.privilegeMode ≠ privilegeMachine) :
    isControlAndStatusRegisterAccessAllowed registers Csr.mstatus writes = false := by
  have lower : compareUnsignedBytes registers.privilegeMode
      (controlAndStatusRegisterRequiredPrivilege Csr.mstatus) < 0 := by
    rcases invariant.privilege with user | supervisor | machine
    · rw [user]
      decide
    · rw [supervisor]
      decide
    · exact absurd machine below
  simp only [isControlAndStatusRegisterAccessAllowed, lower, if_true, ite_self]

/-- A write to any CSR but `mstatus` and `sstatus` leaves the `mstatus` slot alone. -/
theorem mstatus_not_written (mstatus : index ≠ Csr.mstatus) (sstatus : index ≠ Csr.sstatus) :
    Csr.mstatus ∉ writtenSlots index := by
  rw [writtenSlots, if_neg sstatus]
  split
  · decide
  split
  · decide
  split
  · decide
  · simpa using Ne.symm mstatus

/-- Trap entry to S leaves the third byte of `mstatus` alone. -/
theorem byte_applyTrapEntryToSstatus (registers : Registers) :
    byte ((applyTrapEntryToSstatus registers).controlAndStatus Csr.mstatus) 2 =
      byte (registers.controlAndStatus Csr.mstatus) 2 := by
  rw [applyTrapEntryToSstatus, writeControlAndStatusRegister_mstatus, setSlot_controlAndStatus, if_pos rfl,
    byte_legalizeMstatus _ _ (by decide), byte_setBits _ _ _ (by decide) (by decide),
    byte_setBits _ _ _ (by decide) (by decide), byte_setBits _ _ _ (by decide) (by decide)]
  rfl

/-- An interrupt goes to S only from below M. -/
theorem selectTakeableInterrupt_belowMachine (selected : selectTakeableInterrupt registers = some takeable)
    (toSupervisor : takeable.toSupervisor = true) : registers.privilegeMode ≠ privilegeMachine := by
  intro machine
  obtain ⟨code, _, considered⟩ := List.exists_of_findSome?_eq_some selected
  simp only [considerInterrupt, machine, supervisorInterruptIsGloballyEnabled] at considered
  split at considered
  · cases considered
  split at considered
  · simp at considered
  · split at considered
    · cases considered
    · cases considered
      cases toSupervisor

namespace ModifyPrivilegeInvariant

/-- Registers with the same privilege and `mstatus` slot agree on the invariant. -/
theorem of_same (invariant : ModifyPrivilegeInvariant registers)
    (privilege : after.privilegeMode = registers.privilegeMode) (slot : SlotKept Csr.mstatus registers after) :
    ModifyPrivilegeInvariant after := by
  intro below
  rw [privilege] at below
  rw [slot]
  exact invariant below

theorem write (invariant : ModifyPrivilegeInvariant registers) (legal : RegisterInvariant registers)
    (allowed : isControlAndStatusRegisterAccessAllowed registers index true = true) :
    ModifyPrivilegeInvariant (writeControlAndStatusRegister registers index value) := by
  intro below
  rw [writeControlAndStatusRegister_privilegeMode] at below
  by_cases mstatus : index = Csr.mstatus
  · rw [mstatus, mstatus_requires_machine legal below] at allowed
    cases allowed
  by_cases sstatus : index = Csr.sstatus
  · subst sstatus
    exact modifyPrivilegeClear_writeSstatus value (invariant below)
  · rw [writeControlAndStatusRegister_slotKept value (mstatus_not_written mstatus sstatus)]
    exact invariant below

private theorem advanceCounter (invariant : ModifyPrivilegeInvariant registers) (other : Csr.mstatus ≠ counter) :
    ModifyPrivilegeInvariant (advanceCounter registers inhibit enableBit counter) := by
  rw [Emulator.advanceCounter]
  split
  · exact invariant.of_same rfl (.setSlot other)
  · exact invariant

theorem commitInstructionRetire (invariant : ModifyPrivilegeInvariant registers) :
    ModifyPrivilegeInvariant (commitInstructionRetire registers) := by
  have cancelled : ModifyPrivilegeInvariant (cancelInstructionRetire registers) := invariant
  simp only [Emulator.commitInstructionRetire]
  split
  · exact invariant
  · exact (cancelled.advanceCounter (by decide)).advanceCounter (by decide)

theorem enterMachineTrap (cause trapValue : Bytes8) :
    ModifyPrivilegeInvariant (enterMachineTrap registers cause trapValue) :=
  fun below => absurd rfl below

/-- A trap to S comes from below M, and its `mstatus` update leaves MPRV alone. -/
theorem enterSupervisorTrap (invariant : ModifyPrivilegeInvariant registers)
    (below : registers.privilegeMode ≠ privilegeMachine) (cause trapValue : Bytes8) :
    ModifyPrivilegeInvariant (enterSupervisorTrap registers cause trapValue) := by
  intro _
  have clear := invariant below
  have kept : SlotKept Csr.mstatus registers
      (writeControlAndStatusRegister (writeControlAndStatusRegister (writeControlAndStatusRegister registers
        Csr.sepc registers.programCounter) Csr.scause cause) Csr.stval trapValue) :=
    ((writeControlAndStatusRegister_slotKept trapValue (by decide)).trans
      (writeControlAndStatusRegister_slotKept cause (by decide))).trans
      (writeControlAndStatusRegister_slotKept _ (by decide))
  rw [← kept] at clear
  exact (modifyPrivilegeClear_congr (byte_applyTrapEntryToSstatus _)).mpr clear

theorem enterTrap (invariant : ModifyPrivilegeInvariant registers) (cause : Nat) (trapValue : Bytes8) :
    ModifyPrivilegeInvariant (enterTrap registers cause trapValue) := by
  simp only [Emulator.enterTrap]
  split
  · rename_i delegated
    have cancelled : ModifyPrivilegeInvariant (cancelInstructionRetire registers) := invariant
    refine cancelled.enterSupervisorTrap (fun machine => ?_) _ _
    simp [shouldDelegateExceptionToSupervisor, machine] at delegated
  · exact enterMachineTrap _ _

theorem takeInterruptIfAny (invariant : ModifyPrivilegeInvariant registers)
    (taken : takeInterruptIfAny registers = some after) : ModifyPrivilegeInvariant after := by
  simp only [Emulator.takeInterruptIfAny, Option.map_eq_some_iff] at taken
  obtain ⟨takeable, selected, rfl⟩ := taken
  split
  · rename_i toSupervisor
    exact invariant.enterSupervisorTrap (selectTakeableInterrupt_belowMachine selected toSupervisor) _ _
  · exact enterMachineTrap _ _

theorem returnFromMachineTrap : ModifyPrivilegeInvariant (returnFromMachineTrap registers) := by
  intro below
  rw [Emulator.returnFromMachineTrap, applyMachineReturnToMstatus] at below ⊢
  generalize privilegeModeFromMppBits _ = previous at below ⊢
  have lowered : compareUnsignedBytes previous privilegeMachine ≠ 0 := by
    simpa [setProgramCounter, setPrivilegeMode] using below
  dsimp only [setProgramCounter, setPrivilegeMode]
  rw [if_pos lowered, writeControlAndStatusRegister_mstatus, setSlot_controlAndStatus, if_pos rfl,
    modifyPrivilegeClear_legalizeMstatus]
  exact modifyPrivilegeClear_setBits _

theorem returnFromSupervisorTrap : ModifyPrivilegeInvariant (returnFromSupervisorTrap registers) := by
  intro _
  dsimp only [Emulator.returnFromSupervisorTrap, applySupervisorReturnToSstatus, setProgramCounter,
    setPrivilegeMode]
  rw [writeControlAndStatusRegister_mstatus, setSlot_controlAndStatus, if_pos rfl,
    modifyPrivilegeClear_legalizeMstatus]
  exact modifyPrivilegeClear_setBits _

theorem sampleDevicePending (invariant : ModifyPrivilegeInvariant registers) (memory : Memory) :
    ModifyPrivilegeInvariant (sampleDevicePending registers memory).1 := by
  have sampled := sampleDevicePending_sampledFrom registers memory
  exact invariant.of_same sampled.privilegeMode (sampled.slots Csr.mstatus (by decide))

/-- Every change of the registers keeps the invariant. -/
theorem change (invariant : ModifyPrivilegeInvariant registers) (legal : RegisterInvariant registers)
    (change : RegisterChange registers after) : ModifyPrivilegeInvariant after := by
  cases change with
  | generalPurpose index value =>
    exact invariant.of_same (writeGeneralPurposeRegister_privilegeMode _ _)
      (congrFun (writeGeneralPurposeRegister_controlAndStatus _ _) _)
  | programCounter value => exact invariant
  | controlAndStatus index value allowed => exact invariant.write legal allowed
  | retire pending => exact invariant
  | count => exact invariant.commitInstructionRetire
  | trap cause trapValue => exact invariant.enterTrap cause trapValue
  | interrupt taken => exact invariant.takeInterruptIfAny taken
  | machineReturn _ => exact returnFromMachineTrap
  | supervisorReturn _ => exact returnFromSupervisorTrap
  | sample memory => exact invariant.sampleDevicePending memory

end ModifyPrivilegeInvariant

/-- MPRV is clear below M in every run from reset. -/
theorem CpuReachable.modifyPrivilegeClear (reachable : CpuReachable registers)
    (below : registers.privilegeMode ≠ privilegeMachine) :
    ModifyPrivilegeClear (registers.controlAndStatus Csr.mstatus) := by
  have invariant : RegisterInvariant registers ∧ ModifyPrivilegeInvariant registers :=
    reachable.induction (fun registers => RegisterInvariant registers ∧ ModifyPrivilegeInvariant registers)
      (fun _ _ change both => ⟨both.1.change change, both.2.change both.1 change⟩)
      ⟨RegisterInvariant.created, fun below => absurd rfl below⟩
  exact invariant.2 below

/-- With MPRV clear an access is checked at the privilege of the hart. -/
theorem ModifyPrivilegeClear.accessIsMachine (clear : ModifyPrivilegeClear (registers.controlAndStatus Csr.mstatus))
    (below : registers.privilegeMode ≠ privilegeMachine) (access : PmpAccess) :
    accessIsMachine registers access = false := by
  rw [Emulator.accessIsMachine, if_neg (fun modified => modified.2 clear)]
  simpa using below

/-- Below M no access is checked as M-mode: MPRV is clear in every run from reset. -/
theorem accessIsMachine_belowMachine (reachable : CpuReachable registers)
    (below : registers.privilegeMode ≠ privilegeMachine) :
    ModifyPrivilegeClear (registers.controlAndStatus Csr.mstatus) ∧
      ∀ access, accessIsMachine registers access = false := by
  have clear : ModifyPrivilegeClear (registers.controlAndStatus Csr.mstatus) := reachable.modifyPrivilegeClear below
  exact ⟨clear, clear.accessIsMachine below⟩

theorem accessIsMachine_belowMachine_user :
    ModifyPrivilegeClear ((returnFromMachineTrap createRegisters).controlAndStatus Csr.mstatus) ∧
      ∀ access, accessIsMachine (returnFromMachineTrap createRegisters) access = false :=
  accessIsMachine_belowMachine
    (.single (.execute .mret defaultMemory 4 rfl)) (by decide)

end YaRiscV.Emulator
