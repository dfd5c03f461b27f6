import YaRiscV.Emulator.Cpu.InstructionEffect
import YaRiscV.Emulator.Cpu.TrapPrecision
import YaRiscV.Emulator.Cpu.ModifyPrivilege

/-! Privilege isolation: below M an instruction gains privilege only by a trap to the handler
of the new level, and changes no machine-level state its level may not touch. -/

namespace YaRiscV.Emulator

open Relation YaRiscV.Library YaRiscV.Utils

/-- The vector of the level a trap goes to. -/
def trapVector (mode : Bytes8) : BitVec 12 :=
  if mode = privilegeMachine then Csr.mtvec else Csr.stvec

/-- Of the CSR file only the counters differ. -/
def OnlyCounters (before after : Registers) : Prop :=
  ∀ index, index ≠ Csr.mcycle → index ≠ Csr.minstret → SlotKept index before after

/-- Of the CSRs that require M only the counters differ, the fields of `mstatus` that `sstatus`
shows, bits 1, 5 and 9 of `mie`, and bits 1 and 5 of `mip`. -/
structure MachineStateKept (before after : Registers) : Prop where
  mstatus : KeptOutside sstatusMaskBytes (before.controlAndStatus Csr.mstatus) (after.controlAndStatus Csr.mstatus)
  mie : KeptOutside 0x222 (before.controlAndStatus Csr.mie) (after.controlAndStatus Csr.mie)
  mip : KeptOutside 0x22 (before.controlAndStatus Csr.mip) (after.controlAndStatus Csr.mip)
  slots : ∀ index, controlAndStatusRegisterRequiredPrivilege index = privilegeMachine →
    index ∉ [Csr.mcycle, Csr.minstret, Csr.mstatus, Csr.mie, Csr.mip] → SlotKept index before after

/-- `after` is `unsampled`, but for the samples of `wfi`. -/
structure WfiSamples (thunk : ExecuteThunk) (unsampled after : Registers) : Prop where
  samples : Samples unsampled after
  other : thunk ≠ .wfi → after = unsampled

/-- What a step below M may do. MPRV, which `sret` clears, is already clear there. -/
structure PrivilegeIsolation (thunk : ExecuteThunk) (registers : Registers) (execution : Execution)
    (after : Registers) : Prop where
  rise : registers.privilegeMode.toNat < after.privilegeMode.toNat →
    (∃ memory, execution = .trapped after memory) ∧
      after.programCounter = after.controlAndStatus (trapVector after.privilegeMode) &&& ~~~3
  machine : after.privilegeMode ≠ privilegeMachine →
    ∃ unsampled, MachineStateKept registers unsampled ∧ WfiSamples thunk unsampled after
  user : registers.privilegeMode = privilegeUser → (∀ memory, execution ≠ .trapped after memory) →
    ∃ unsampled, OnlyCounters registers unsampled ∧ WfiSamples thunk unsampled after

variable {registers after : Registers} {memory : Memory} {thunk : ExecuteThunk}

namespace OnlyCounters

theorem refl (registers : Registers) : OnlyCounters registers registers :=
  fun _ _ _ => rfl

theorem trans (first : OnlyCounters before middle) (second : OnlyCounters middle after) : OnlyCounters before after :=
  fun index notCycle notInstret => (second index notCycle notInstret).trans (first index notCycle notInstret)

theorem machineStateKept (counters : OnlyCounters before after) : MachineStateKept before after where
  mstatus := .of_eq (counters Csr.mstatus (by decide) (by decide))
  mie := .of_eq (counters Csr.mie (by decide) (by decide))
  mip := .of_eq (counters Csr.mip (by decide) (by decide))
  slots index _ outside := by
    simp only [List.mem_cons, not_or] at outside
    exact counters index outside.1 outside.2.1

end OnlyCounters

theorem MachineStateKept.trans (first : MachineStateKept before middle) (second : MachineStateKept middle after) :
    MachineStateKept before after where
  mstatus := first.mstatus.trans second.mstatus
  mie := first.mie.trans second.mie
  mip := first.mip.trans second.mip
  slots index machine outside := (second.slots index machine outside).trans (first.slots index machine outside)

/-! Retirement. -/

/-- Counting a retirement moves the counters only. -/
structure Retired (before after : Registers) : Prop where
  privilegeMode : after.privilegeMode = before.privilegeMode
  programCounter : after.programCounter = before.programCounter
  slots : OnlyCounters before after

theorem advanceCounter_privilegeMode (registers : Registers) (inhibit enableBit : BitVec 8) (counter : BitVec 12) :
    (advanceCounter registers inhibit enableBit counter).privilegeMode = registers.privilegeMode := by
  rw [advanceCounter]
  split <;> rfl

theorem retireInstructionNow_retired (registers : Registers) : Retired registers (retireInstructionNow registers) where
  privilegeMode := (advanceCounter_privilegeMode _ _ _ _).trans (advanceCounter_privilegeMode _ _ _ _)
  programCounter := (retireInstructionNow_countersOnly registers).programCounter
  slots := (retireInstructionNow_countersOnly registers).slots

theorem commitInstructionRetire_idle (idle : registers.retireInstruction = false) :
    commitInstructionRetire registers = registers := by
  rw [commitInstructionRetire, idle]
  rfl

theorem commitInstructionRetire_retired (registers : Registers) :
    Retired registers (commitInstructionRetire registers) := by
  cases pending : registers.retireInstruction with
  | false =>
    rw [commitInstructionRetire_idle pending]
    exact ⟨rfl, rfl, .refl registers⟩
  | true =>
    have begun : beginInstructionRetire registers = registers := by
      rw [beginInstructionRetire, ← pending]
    have retired := retireInstructionNow_retired registers
    rwa [retireInstructionNow, begun] at retired

theorem advanceCounter_retireInstruction (registers : Registers) (inhibit enableBit : BitVec 8)
    (counter : BitVec 12) :
    (advanceCounter registers inhibit enableBit counter).retireInstruction = registers.retireInstruction := by
  rw [advanceCounter]
  split <;> rfl

theorem retireInstructionNow_idle (registers : Registers) :
    (retireInstructionNow registers).retireInstruction = false :=
  (advanceCounter_retireInstruction _ _ _ _).trans (advanceCounter_retireInstruction _ _ _ _)

/-! Samples. -/

theorem sampleDevicePending_retireInstruction (registers : Registers) (memory : Memory) :
    (sampleDevicePending registers memory).1.retireInstruction = registers.retireInstruction := by
  have timer (registers : Registers) (pending : Bool) :
      (setSupervisorTimerInterruptPending registers pending).retireInstruction = registers.retireInstruction := by
    rw [setSupervisorTimerInterruptPending]
    split <;> rfl
  have published (registers : Registers) (memory : Memory) :
      (publishSupervisorTimerCompare registers memory).1.retireInstruction = registers.retireInstruction := by
    unfold publishSupervisorTimerCompare
    dsimp only
    split
    · split <;> rfl
    · split <;> rfl
  exact (timer _ _).trans (published _ _)

theorem Samples.privilegeMode (samples : Samples registers after) : after.privilegeMode = registers.privilegeMode := by
  refine invariant_run (fun state => state.privilegeMode = registers.privilegeMode) ?_ samples rfl
  rintro before _ ⟨memory, rfl⟩ same
  exact (sampleDevicePending_sampledFrom before memory).privilegeMode.trans same

theorem Samples.retireInstruction (samples : Samples registers after) :
    after.retireInstruction = registers.retireInstruction := by
  refine invariant_run (fun state => state.retireInstruction = registers.retireInstruction) ?_ samples rfl
  rintro before _ ⟨memory, rfl⟩ same
  exact (sampleDevicePending_retireInstruction before memory).trans same

/-! Trap entry. -/

theorem trapHandlerProgramCounter_exception (xtvec : Bytes8) (exception : cause < 16) :
    trapHandlerProgramCounter xtvec (exceptionCauseBytes cause) = xtvec &&& ~~~3 := by
  have synchronous : ∀ cause < 16, bytesToBigInt (exceptionCauseBytes cause) &&& interruptCauseBit = 0 := by
    decide
  have low : byte (~~~3 : Bytes8) 0 = ~~~xtvecModeMask := by decide
  have high : ∀ index < 8, index ≠ 0 → byte (~~~3 : Bytes8) index = BitVec.allOnes 8 := by decide
  have words : 64 = 8 * 8 := rfl
  simp only [trapHandlerProgramCounter, synchronous cause exception, bne_self_eq_false, Bool.false_eq_true,
    and_false, if_false]
  refine eq_of_byte words fun index inside => ?_
  rw [byte_setByte _ _ (by decide), byte_and]
  split
  · rename_i first
    rw [first, low]
  · rename_i later
    rw [high index inside later, BitVec.and_allOnes]

/-- An exception goes to the base of the vector of its level. -/
theorem enterTrap_programCounter (registers : Registers) (trapValue : Bytes8) (exception : cause < 16) :
    (enterTrap registers cause trapValue).programCounter = (enterTrap registers cause trapValue).controlAndStatus
      (trapVector (enterTrap registers cause trapValue).privilegeMode) &&& ~~~3 := by
  simp only [enterTrap]
  split
  · exact trapHandlerProgramCounter_exception _ exception
  · exact trapHandlerProgramCounter_exception _ exception

/-! `mstatus` outside of what `sstatus` shows. -/

theorem KeptOutside.setBits {before bytes : Bytes8} (kept : KeptOutside mask before bytes) (inside : byteIndex < 8)
    (covered : Within bits (byte mask byteIndex)) (value : Bool) :
    KeptOutside mask before (setBits bytes byteIndex bits value) := by
  have words : 64 = 8 * 8 := rfl
  have keptByte := (keptOutside_iff_byte words).mp kept byteIndex inside
  refine kept.setByte words inside ?_
  cases value with
  | true => exact keptByte.or covered
  | false => exact keptByte.and_not covered

private theorem mppBits_of_kept {before after : BitVec 8} (kept : KeptOutside 1 before after) :
    after &&& mstatusByte1MppMask = before &&& mstatusByte1MppMask := by
  have above (value : BitVec 8) : value &&& mstatusByte1MppMask = value &&& ~~~1 &&& mstatusByte1MppMask := by
    revert value
    decide
  rw [above after, above before, kept]

private theorem keptOutside_hardwired {before after : BitVec 8} (kept : KeptOutside 3 before after)
    (legal : before &&& mstatusByte4UxlSxlMask = mstatusByte4UxlSxl64) :
    KeptOutside 3 before ((after &&& ~~~mstatusByte4UxlSxlMask) ||| mstatusByte4UxlSxl64) := by
  have above (value : BitVec 8) : ((value &&& ~~~mstatusByte4UxlSxlMask) ||| mstatusByte4UxlSxl64) &&& ~~~3 =
      (value &&& ~~~3 &&& ~~~mstatusByte4UxlSxlMask) ||| (mstatusByte4UxlSxl64 &&& ~~~3) := by
    revert value
    decide
  have whole (value : BitVec 8) : value &&& mstatusByte4UxlSxlMask = mstatusByte4UxlSxl64 →
      (value &&& ~~~3 &&& ~~~mstatusByte4UxlSxlMask) ||| (mstatusByte4UxlSxl64 &&& ~~~3) = value &&& ~~~3 := by
    revert value
    decide
  rw [KeptOutside] at kept
  rw [KeptOutside, above, kept, whole before legal]

/-- Nothing `sstatus` hides is made legal: it was so before. -/
theorem KeptOutside.legalizeMstatus {before after : Bytes8} (kept : KeptOutside sstatusMaskBytes before after)
    (legal : LegalMstatus before) : KeptOutside sstatusMaskBytes before (legalizeMstatus after) := by
  have words : 64 = 8 * 8 := rfl
  have kept1 : KeptOutside 1 (byte before 1) (byte after 1) := (keptOutside_iff_byte words).mp kept 1 (by decide)
  have kept4 : KeptOutside 3 (byte before 4) (byte after 4) := (keptOutside_iff_byte words).mp kept 4 (by decide)
  have granted : ¬ byte after 1 &&& mstatusByte1MppMask = mstatusByte1MppReserved := by
    rw [mppBits_of_kept kept1]
    exact legal.1
  rw [Emulator.legalizeMstatus, if_neg granted]
  exact kept.setByte words (by decide) (keptOutside_hardwired kept4 legal.2)

/-! CSR writes. -/

/-- The PMP registers belong to M-mode. -/
theorem pmp_requires_machine (pmp : isPmpControlAndStatusRegister index = true) :
    controlAndStatusRegisterRequiredPrivilege index = privilegeMachine := by
  simp only [isPmpControlAndStatusRegister, isPmpCfgRegister, isPmpAddrRegister, Bool.or_eq_true, beq_iff_eq,
    Bool.and_eq_true, decide_eq_true_eq] at pmp
  rcases pmp with (rfl | rfl) | ⟨low, high⟩
  · decide
  · decide
  · have bounds : 0x3b0 ≤ index.toNat ∧ index.toNat < 0x3c0 := ⟨low, high⟩
    have same : index = BitVec.ofNat 12 index.toNat := by simp
    rw [same]
    generalize index.toNat = number at bounds
    obtain ⟨atLeast, below⟩ := bounds
    interval_cases number <;> decide

/-- The CSRs of U-mode are read-only. -/
theorem user_readOnly (implemented : isImplementedControlAndStatusRegister index = true)
    (user : controlAndStatusRegisterRequiredPrivilege index = privilegeUser) :
    isReadOnlyControlAndStatusRegister index = true := by
  simp only [isImplementedControlAndStatusRegister, isIdentityControlAndStatusRegister, Bool.or_eq_true, beq_iff_eq,
    or_assoc] at implemented
  repeat
    rcases implemented with rfl | implemented
    · revert user
      decide
  rw [pmp_requires_machine implemented] at user
  cases user

/-- What the access check has made sure of. -/
structure AccessAllowed (registers : Registers) (index : BitVec 12) (writes : Bool) : Prop where
  implemented : isImplementedControlAndStatusRegister index = true
  privileged : ¬ registers.privilegeMode.toNat < (controlAndStatusRegisterRequiredPrivilege index).toNat
  writable : writes = true → isReadOnlyControlAndStatusRegister index = false

theorem accessAllowed (allowed : isControlAndStatusRegisterAccessAllowed registers index writes = true) :
    AccessAllowed registers index writes := by
  rw [isControlAndStatusRegisterAccessAllowed] at allowed
  split at allowed
  · cases allowed
  rename_i implemented
  split at allowed
  · cases allowed
  rename_i privileged
  split at allowed
  · cases allowed
  split at allowed
  · cases allowed
  rename_i writable
  exact ⟨by simpa using implemented, by simpa using privileged, fun writes => by simpa [writes] using writable⟩

/-- Below M no CSR that requires M is accessed. -/
theorem AccessAllowed.notMachine (allowed : AccessAllowed registers index writes)
    (invariant : RegisterInvariant registers) (below : registers.privilegeMode ≠ privilegeMachine) :
    controlAndStatusRegisterRequiredPrivilege index ≠ privilegeMachine := by
  intro machine
  have privileged := allowed.privileged
  rw [machine] at privileged
  rcases invariant.privilege with user | supervisor | same
  · rw [user] at privileged
    exact privileged (by decide)
  · rw [supervisor] at privileged
    exact privileged (by decide)
  · exact below same

/-- U-mode writes no CSR. -/
theorem AccessAllowed.notUser (allowed : AccessAllowed registers index true) :
    registers.privilegeMode ≠ privilegeUser := by
  intro user
  have privileged := allowed.privileged
  rw [user] at privileged
  have lowest : controlAndStatusRegisterRequiredPrivilege index = privilegeUser := by
    apply BitVec.eq_of_toNat_eq
    have zero : privilegeUser.toNat = 0 := by decide
    omega
  have writable := allowed.writable rfl
  rw [user_readOnly allowed.implemented lowest] at writable
  cases writable

theorem writeSstatus_kept (legal : LegalMstatus (registers.controlAndStatus Csr.mstatus)) (value : Bytes8) :
    KeptOutside sstatusMaskBytes (registers.controlAndStatus Csr.mstatus)
      ((writeControlAndStatusRegister registers Csr.sstatus value).controlAndStatus Csr.mstatus) := by
  have complement : mstatusKeepOutsideSstatus = ~~~sstatusMaskBytes := by decide
  rw [writeControlAndStatusRegister_sstatus, setSlot_controlAndStatus, if_pos rfl, orBytes_eq, andBytes_eq,
    andBytes_eq, complement]
  exact KeptOutside.legalizeMstatus (.merge _ _ _) legal

theorem writeSie_kept (value : Bytes8) : KeptOutside 0x222 (registers.controlAndStatus Csr.mie)
    ((writeControlAndStatusRegister registers Csr.sie value).controlAndStatus Csr.mie) := by
  have written : (writeControlAndStatusRegister registers Csr.sie value).controlAndStatus Csr.mie =
      (registers.controlAndStatus Csr.mie &&& ~~~0x222) ||| (value &&& 0x222) := by
    have complement : mieMipKeepOutsideSieSip = ~~~0x222 := by decide
    have mask : sieSipMaskBytes = 0x222 := by decide
    rw [← complement, ← mask, ← andBytes_eq, ← andBytes_eq, ← orBytes_eq]
    rfl
  rw [written]
  exact .merge _ _ _

/-- `sip` leaves every bit of `mip` but SSIP and a software-owned STIP alone. -/
theorem mergeSip_kept (value : Bytes8) :
    KeptOutside 0x22 (registers.controlAndStatus Csr.mip) (mergeSip registers value) := by
  have words : 64 = 8 * 8 := rfl
  have writable : Within (sipWritableMaskBytes registers) 0x22 := by
    rw [sipWritableMaskBytes]
    split <;> decide
  have covered : ∀ index < 8, index ≠ 1 → Within (~~~byte (0x22 : Bytes8) index)
      (byte (mieMipKeepOutsideSieSip ||| mipHardwareMaskBytes registers) index) := by
    rw [mipHardwareMaskBytes]
    split <;> decide
  have covered1 : Within (~~~byte (0x22 : Bytes8) 1)
      (byte (mieMipKeepOutsideSieSip ||| mipHardwareMaskBytes registers) 1 ||| mipByte1Seip) := by
    rw [mipHardwareMaskBytes]
    split <;> decide
  simp only [mergeSip, andBytes_eq, orBytes_eq, ← BitVec.and_or_distrib_left]
  refine KeptOutside.or ((keptOutside_iff_byte words).mpr fun index inside => ?_) ((within_and _ _).trans writable)
  rw [byte_setByte _ _ (by decide), byte_and, ← BitVec.and_or_distrib_left]
  split
  · rename_i first
    rw [first]
    exact .and _ covered1
  · rename_i other
    rw [byte_and]
    exact .and _ (covered index inside other)

/-- Below M the slots that require M are written through the three views only. -/
theorem writtenSlots_machine (notMachine : controlAndStatusRegisterRequiredPrivilege index ≠ privilegeMachine)
    (machine : controlAndStatusRegisterRequiredPrivilege slot = privilegeMachine)
    (written : slot ∈ writtenSlots index) :
    index = Csr.sstatus ∧ slot = Csr.mstatus ∨ index = Csr.sie ∧ slot = Csr.mie ∨
      index = Csr.sip ∧ slot = Csr.mip := by
  rw [writtenSlots] at written
  split at written
  · rename_i sstatus
    exact .inl ⟨sstatus, List.mem_singleton.mp written⟩
  split at written
  · rename_i sie
    exact .inr (.inl ⟨sie, List.mem_singleton.mp written⟩)
  split at written
  · rename_i sip
    exact .inr (.inr ⟨sip, List.mem_singleton.mp written⟩)
  split at written
  · rename_i menvcfg
    subst menvcfg
    exact absurd rfl notMachine
  · rw [List.mem_singleton.mp written] at machine
    exact absurd machine notMachine

/-- What a CSR write from below M leaves alone. -/
theorem writeControlAndStatusRegister_machineStateKept (invariant : RegisterInvariant registers)
    (notMachine : controlAndStatusRegisterRequiredPrivilege index ≠ privilegeMachine) (value : Bytes8) :
    MachineStateKept registers (writeControlAndStatusRegister registers index value) where
  mstatus := by
    by_cases sstatus : index = Csr.sstatus
    · subst sstatus
      exact writeSstatus_kept (invariant.slots Csr.mstatus) value
    · refine .of_eq (writeControlAndStatusRegister_slotKept value fun written => ?_)
      rcases writtenSlots_machine notMachine rfl written with ⟨same, _⟩ | ⟨_, other⟩ | ⟨_, other⟩
      · exact sstatus same
      · exact absurd other (by decide)
      · exact absurd other (by decide)
  mie := by
    by_cases sie : index = Csr.sie
    · subst sie
      exact writeSie_kept value
    · refine .of_eq (writeControlAndStatusRegister_slotKept value fun written => ?_)
      rcases writtenSlots_machine notMachine rfl written with ⟨_, other⟩ | ⟨same, _⟩ | ⟨_, other⟩
      · exact absurd other (by decide)
      · exact sie same
      · exact absurd other (by decide)
  mip := by
    by_cases sip : index = Csr.sip
    · subst sip
      exact mergeSip_kept value
    · refine .of_eq (writeControlAndStatusRegister_slotKept value fun written => ?_)
      rcases writtenSlots_machine notMachine rfl written with ⟨_, other⟩ | ⟨_, other⟩ | ⟨same, _⟩
      · exact absurd other (by decide)
      · exact absurd other (by decide)
      · exact sip same
  slots slot machine outside := by
    simp only [List.mem_cons, List.not_mem_nil, or_false, not_or] at outside
    obtain ⟨_, _, notMstatus, notMie, notMip⟩ := outside
    refine writeControlAndStatusRegister_slotKept value fun written => ?_
    rcases writtenSlots_machine notMachine machine written with ⟨_, same⟩ | ⟨_, same⟩ | ⟨_, same⟩
    · exact notMstatus same
    · exact notMie same
    · exact notMip same

/-! Traps to S and returns from it. -/

theorem supervisorLevel_requires {index : BitVec 12} (level : (index >>> 8) &&& 3 = 1) :
    controlAndStatusRegisterRequiredPrivilege index ≠ privilegeMachine := by
  rw [controlAndStatusRegisterRequiredPrivilege, level]
  decide

/-- A change of `mstatus` among slots of the supervisor level. -/
private theorem machineStateKept_of_slots (slots : List (BitVec 12))
    (lower : ∀ index ∈ slots, index ≠ Csr.mstatus → (index >>> 8) &&& 3 = 1)
    (kept : ∀ index ∉ slots, SlotKept index registers after)
    (mstatus : KeptOutside sstatusMaskBytes (registers.controlAndStatus Csr.mstatus)
      (after.controlAndStatus Csr.mstatus)) : MachineStateKept registers after where
  mstatus := mstatus
  mie := .of_eq (kept Csr.mie fun member => supervisorLevel_requires (lower _ member (by decide)) rfl)
  mip := .of_eq (kept Csr.mip fun member => supervisorLevel_requires (lower _ member (by decide)) rfl)
  slots index machine outside := by
    simp only [List.mem_cons, not_or] at outside
    exact kept index fun member => supervisorLevel_requires (lower index member outside.2.2.1) machine

theorem enterSupervisorTrap_machineStateKept (invariant : RegisterInvariant registers) (cause trapValue : Bytes8) :
    MachineStateKept registers (enterSupervisorTrap registers cause trapValue) := by
  have entered : trapSlots privilegeSupervisor = [Csr.sepc, Csr.scause, Csr.stval, Csr.mstatus] := by rfl
  have entry := (enterSupervisorTrap_entry registers cause trapValue).slots
  rw [entered] at entry
  refine machineStateKept_of_slots _ (by simp) entry ?_
  have same : (writeControlAndStatusRegister (writeControlAndStatusRegister (writeControlAndStatusRegister registers
      Csr.sepc registers.programCounter) Csr.scause cause) Csr.stval trapValue).controlAndStatus Csr.mstatus =
      registers.controlAndStatus Csr.mstatus :=
    ((writeControlAndStatusRegister_slotKept trapValue (by decide)).trans
      (writeControlAndStatusRegister_slotKept cause (by decide))).trans
      (writeControlAndStatusRegister_slotKept _ (by decide))
  change KeptOutside _ _ ((applyTrapEntryToSstatus _).controlAndStatus Csr.mstatus)
  rw [applyTrapEntryToSstatus, writeControlAndStatusRegister_mstatus, setSlot_controlAndStatus, if_pos rfl]
  refine KeptOutside.legalizeMstatus ?_ (invariant.slots Csr.mstatus)
  iterate 3 refine KeptOutside.setBits ?_ (by decide) (by decide) _
  exact .of_eq same

theorem returnFromSupervisorTrap_machineStateKept (invariant : RegisterInvariant registers)
    (clear : ModifyPrivilegeClear (registers.controlAndStatus Csr.mstatus)) :
    MachineStateKept registers (returnFromSupervisorTrap registers) := by
  have own : writtenSlots Csr.mstatus = [Csr.mstatus] := by rfl
  refine machineStateKept_of_slots [Csr.mstatus] (by simp)
    (fun _ other => writeControlAndStatusRegister_slotKept _ (own ▸ other)) ?_
  have lowered (bytes : Bytes8)
      (kept : KeptOutside sstatusMaskBytes (registers.controlAndStatus Csr.mstatus) bytes)
      (same : byte bytes 2 = byte (registers.controlAndStatus Csr.mstatus) 2) :
      KeptOutside sstatusMaskBytes (registers.controlAndStatus Csr.mstatus)
        (setBits bytes 2 mstatusByte2Mprv false) := by
    have words : 64 = 8 * 8 := rfl
    rw [ModifyPrivilegeClear, ← same] at clear
    refine kept.setByte words (by decide) ?_
    rw [if_neg Bool.false_ne_true, and_not_eq_of_and clear, same]
    exact .refl _ _
  change KeptOutside _ _ ((applySupervisorReturnToSstatus registers).controlAndStatus Csr.mstatus)
  dsimp only [applySupervisorReturnToSstatus, setPrivilegeMode]
  rw [writeControlAndStatusRegister_mstatus, setSlot_controlAndStatus, if_pos rfl]
  refine KeptOutside.legalizeMstatus (lowered _ ?_ ?_) (invariant.slots Csr.mstatus)
  · iterate 3 refine KeptOutside.setBits ?_ (by decide) (by decide) _
    exact .refl _ _
  · iterate 3 rw [byte_setBits _ _ _ (by decide) (by decide)]
    rfl

namespace PrivilegeIsolation

/-- A step that stays at its level or falls below it, and does not sample. -/
theorem of_completed (lower : middle.privilegeMode.toNat ≤ registers.privilegeMode.toNat)
    (machine : MachineStateKept registers middle)
    (user : registers.privilegeMode = privilegeUser → OnlyCounters registers middle) :
    PrivilegeIsolation thunk registers (.completed (commitInstructionRetire middle) memory)
      (commitInstructionRetire middle) := by
  have retired := commitInstructionRetire_retired middle
  constructor
  case rise =>
    intro rises
    rw [retired.privilegeMode] at rises
    exact absurd rises (Nat.not_lt.mpr lower)
  case machine => exact fun _ => ⟨_, machine.trans retired.slots.machineStateKept, .refl, fun _ => rfl⟩
  case user => exact fun inUser _ => ⟨_, (user inUser).trans retired.slots, .refl, fun _ => rfl⟩

theorem of_trapped (invariant : RegisterInvariant base) (counters : OnlyCounters registers base)
    (exception : cause < 16) :
    PrivilegeIsolation thunk registers
      (.trapped (commitInstructionRetire (enterTrap base cause trapValue)) memory)
      (commitInstructionRetire (enterTrap base cause trapValue)) := by
  have retired := commitInstructionRetire_retired (enterTrap base cause trapValue)
  constructor
  case rise =>
    refine fun _ => ⟨⟨memory, rfl⟩, ?_⟩
    have vector : trapVector (enterTrap base cause trapValue).privilegeMode ≠ Csr.mcycle ∧
        trapVector (enterTrap base cause trapValue).privilegeMode ≠ Csr.minstret := by
      rw [trapVector]
      split <;> decide
    rw [retired.privilegeMode, retired.programCounter, retired.slots _ vector.1 vector.2]
    exact enterTrap_programCounter base trapValue exception
  case machine =>
    intro notMachine
    have entered : MachineStateKept base (enterTrap base cause trapValue) := by
      rw [retired.privilegeMode, enterTrap] at notMachine
      rw [enterTrap]
      split
      · have kept := enterSupervisorTrap_machineStateKept (invariant.retireFlag false) (exceptionCauseBytes cause)
          trapValue
        exact ⟨kept.mstatus, kept.mie, kept.mip, kept.slots⟩
      · rename_i undelegated
        rw [if_neg undelegated] at notMachine
        exact absurd rfl notMachine
    exact ⟨_, (counters.machineStateKept.trans entered).trans retired.slots.machineStateKept, .refl, fun _ => rfl⟩
  case user => exact fun _ notTrapped => absurd rfl (notTrapped memory)

/-- Where `wfi` has sampled. -/
theorem of_sampled (samples : Samples (retireInstructionNow (advanceProgramCounter registers length)) after) :
    PrivilegeIsolation .wfi registers execution after := by
  have retired := retireInstructionNow_retired (advanceProgramCounter registers length)
  have counters : OnlyCounters registers (retireInstructionNow (advanceProgramCounter registers length)) :=
    retired.slots
  constructor
  case rise =>
    intro rises
    rw [samples.privilegeMode, retired.privilegeMode] at rises
    exact absurd rises (Nat.lt_irrefl _)
  case machine => exact fun _ => ⟨_, counters.machineStateKept, samples, fun other => absurd rfl other⟩
  case user => exact fun _ _ => ⟨_, counters, samples, fun other => absurd rfl other⟩

/-- The retirement flag is no part of what is isolated. -/
theorem of_begun (isolation : PrivilegeIsolation thunk (beginInstructionRetire registers) execution after) :
    PrivilegeIsolation thunk registers execution after where
  rise := isolation.rise
  machine notMachine := by
    obtain ⟨unsampled, kept, samples⟩ := isolation.machine notMachine
    exact ⟨unsampled, ⟨kept.mstatus, kept.mie, kept.mip, kept.slots⟩, samples⟩
  user := isolation.user

end PrivilegeIsolation

/-- Each way an instruction can end below M is isolated. -/
theorem InstructionEffect.isolated (effect : InstructionEffect thunk registers executed)
    (invariant : RegisterInvariant registers) (below : registers.privilegeMode ≠ privilegeMachine)
    (clear : ModifyPrivilegeClear (registers.controlAndStatus Csr.mstatus))
    (result : executed.commit.registers? = some after) :
    PrivilegeIsolation thunk registers executed.commit after := by
  cases effect with
  | kept control =>
    cases result
    have same : OnlyCounters registers _ := fun index _ _ => congrFun control.controlAndStatus index
    exact .of_completed (by rw [control.privilegeMode]) same.machineStateKept fun _ => same
  | written allowed control =>
    rename_i index value _ _
    cases result
    have access := accessAllowed allowed
    have kept := writeControlAndStatusRegister_machineStateKept invariant (access.notMachine invariant below) value
    have same : OnlyCounters _ _ := fun index _ _ => congrFun control.controlAndStatus index
    refine .of_completed ?_ (kept.trans same.machineStateKept) fun user => absurd user access.notUser
    rw [control.privilegeMode, writeControlAndStatusRegister_privilegeMode]
  | machineReturn inMachine => exact absurd inMachine below
  | supervisorReturn notUser =>
    cases result
    refine .of_completed ?_ (returnFromSupervisorTrap_machineStateKept invariant clear) fun user => ?_
    · have returned : (returnFromSupervisorTrap registers).privilegeMode.toNat ≤ privilegeSupervisor.toNat := by
        dsimp only [returnFromSupervisorTrap, applySupervisorReturnToSstatus, setProgramCounter, setPrivilegeMode]
        split <;> decide
      omega
    · rw [user] at notUser
      exact absurd (by decide) notUser
  | trapped started exception =>
    cases result
    rcases started with rfl | rfl
    · exact .of_trapped invariant (.refl _) exception
    · exact .of_trapped ((invariant.retireFlag true).commitInstructionRetire)
        (retireInstructionNow_retired registers).slots exception
  | woken waits sampled =>
    cases result
    subst waits
    have idle := sampled.retireInstruction.trans (retireInstructionNow_idle _)
    rw [commitInstructionRetire_idle idle]
    exact .of_sampled sampled
  | waiting waits sampled =>
    cases result
    subst waits
    exact .of_sampled sampled
  | threw => cases result

/-- Below M no instruction raises the privilege but by a trap to its handler, none that does
not enter M changes what only M may change, and in U-mode none that enters no trap changes a
CSR but the counters. -/
theorem instruction_isolated (reachable : CpuReachable registers)
    (below : registers.privilegeMode ≠ privilegeMachine) (step : InstructionStep thunk registers execution)
    (result : execution.registers? = some after) : PrivilegeIsolation thunk registers execution after := by
  obtain ⟨executed, effect, rfl⟩ := step.effect
  have begun : RegisterInvariant (beginInstructionRetire registers) := reachable.invariant.retireFlag true
  exact .of_begun (effect.isolated begun below (reachable.modifyPrivilegeClear below) result)

/-- An `ecall` from U-mode. -/
theorem instruction_isolated_ecall : ∃ execution after,
    InstructionStep .ecall (returnFromMachineTrap createRegisters) execution ∧
      execution.registers? = some after ∧
      PrivilegeIsolation .ecall (returnFromMachineTrap createRegisters) execution after := by
  have reachable : CpuReachable (returnFromMachineTrap createRegisters) :=
    .single (.execute .mret defaultMemory 4 rfl)
  have step : InstructionStep .ecall (returnFromMachineTrap createRegisters) _ := .executed defaultMemory 4
  exact ⟨_, _, step, rfl, instruction_isolated reachable (by decide) step rfl⟩

end YaRiscV.Emulator
