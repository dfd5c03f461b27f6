import YaRiscV.Emulator.Cpu.Reachable
import YaRiscV.Emulator.Cpu.TrapPrecision

/-! A locked PMP entry keeps its config byte, its address and its range, and so does the
address below a locked TOR entry. -/

namespace YaRiscV.Emulator

open Relation YaRiscV.Library YaRiscV.Utils

def EntryLocked (registers : Registers) (entry : Nat) : Prop :=
  configByte registers entry &&& pmpCfgLock ≠ 0

/-- An entry reads the same before and after. -/
structure EntryKept (entry : Nat) (before after : Registers) : Prop where
  config : configByte after entry = configByte before entry
  address : readPmpAddress after entry = readPmpAddress before entry
  range : entryRange after entry = entryRange before entry

/-- Every PMP slot of the CSR file is as it was. -/
def PmpKept (before after : Registers) : Prop :=
  ∀ index, isPmpControlAndStatusRegister index = true → SlotKept index before after

variable {registers before middle after : Registers}

theorem EntryKept.trans (first : EntryKept entry before middle) (second : EntryKept entry middle after) :
    EntryKept entry before after where
  config := second.config.trans first.config
  address := second.address.trans first.address
  range := second.range.trans first.range

theorem EntryLocked.kept (locked : EntryLocked before entry) (kept : EntryKept entry before after) :
    EntryLocked after entry := by
  unfold EntryLocked
  rw [kept.config]
  exact locked

/-- A range is computed from the entry's own registers and, for a TOR entry, the address below. -/
theorem entryKept_of_registers (config : configByte after entry = configByte before entry)
    (address : readPmpAddress after entry = readPmpAddress before entry)
    (below : configByte before entry &&& pmpCfgAMask = pmpCfgATor → entry ≠ 0 →
      readPmpAddress after (entry - 1) = readPmpAddress before (entry - 1)) :
    EntryKept entry before after := by
  refine ⟨config, address, ?_⟩
  unfold entryRange
  rw [config, address]
  by_cases tor : configByte before entry &&& pmpCfgAMask = pmpCfgATor
  · have low : (if entry = 0 then 0 else readPmpAddress after (entry - 1) <<< 2) =
        if entry = 0 then 0 else readPmpAddress before (entry - 1) <<< 2 := by
      split
      · rfl
      · rename_i later
        rw [below tor later]
    simp only [low]
  · simp only [if_neg tor]

theorem isPmpAddrRegister_entry (inside : entry < pmpEntryCount) :
    isPmpAddrRegister (Csr.pmpaddr0 + BitVec.ofNat 12 entry) = true := by
  unfold pmpEntryCount at inside
  interval_cases entry <;> decide

/-- The address registers are those of the sixteen entries. -/
theorem pmpaddr_entry (pmpaddr : isPmpAddrRegister index = true) :
    ∃ entry < pmpEntryCount, index = Csr.pmpaddr0 + BitVec.ofNat 12 entry := by
  simp only [isPmpAddrRegister, Bool.and_eq_true, decide_eq_true_eq] at pmpaddr
  obtain ⟨low, high⟩ := pmpaddr
  have first : Csr.pmpaddr0.toNat = 0x3b0 := rfl
  have atLeast : Csr.pmpaddr0.toNat ≤ index.toNat := low
  have wide := index.isLt
  refine ⟨index.toNat - Csr.pmpaddr0.toNat, by omega, ?_⟩
  apply BitVec.eq_of_toNat_eq
  rw [BitVec.toNat_add, BitVec.toNat_ofNat]
  omega

theorem pmpaddr_entry_toNat (inside : entry < pmpEntryCount) :
    (Csr.pmpaddr0 + BitVec.ofNat 12 entry).toNat - Csr.pmpaddr0.toNat = entry := by
  have first : Csr.pmpaddr0.toNat = 0x3b0 := rfl
  unfold pmpEntryCount at inside
  rw [BitVec.toNat_add, BitVec.toNat_ofNat]
  omega

theorem pmpaddr_entry_injective (inside : entry < pmpEntryCount) (other : number < pmpEntryCount)
    (same : Csr.pmpaddr0 + BitVec.ofNat 12 entry = Csr.pmpaddr0 + BitVec.ofNat 12 number) : entry = number := by
  rw [← pmpaddr_entry_toNat inside, same, pmpaddr_entry_toNat other]

namespace PmpKept

theorem refl (registers : Registers) : PmpKept registers registers := fun _ _ => rfl

theorem trans (first : PmpKept before middle) (second : PmpKept middle after) : PmpKept before after :=
  fun index pmp => (second index pmp).trans (first index pmp)

/-- A change confined to slots of no PMP register. -/
theorem of_slots (slots : List (BitVec 12)) (apart : ∀ slot ∈ slots, isPmpControlAndStatusRegister slot = false)
    (kept : ∀ index ∉ slots, SlotKept index before after) : PmpKept before after := by
  intro index pmp
  apply kept
  intro member
  rw [apart index member] at pmp
  cases pmp

theorem address (kept : PmpKept before after) (inside : entry < pmpEntryCount) :
    readPmpAddress after entry = readPmpAddress before entry := by
  have same := kept _ (by rw [isPmpControlAndStatusRegister, isPmpAddrRegister_entry inside, Bool.or_true])
  rw [readPmpAddress, same, readPmpAddress]

theorem config (kept : PmpKept before after) (entry : Nat) : configByte after entry = configByte before entry := by
  have same : SlotKept (if entry < 8 then Csr.pmpcfg0 else Csr.pmpcfg2) before after := by
    apply kept
    split <;> rfl
  rw [configByte, same, configByte]

theorem entryKept (kept : PmpKept before after) (inside : entry < pmpEntryCount) : EntryKept entry before after :=
  entryKept_of_registers (kept.config entry) (kept.address inside)
    fun _ _ => kept.address (Nat.lt_of_le_of_lt (Nat.sub_le _ _) inside)

end PmpKept

/-- A list of slots checked one by one. -/
theorem slots_notPmp {slots : List (BitVec 12)}
    (checked : (slots.all fun slot => !isPmpControlAndStatusRegister slot) = true) :
    ∀ slot ∈ slots, isPmpControlAndStatusRegister slot = false := by
  intro slot member
  have apart := List.all_eq_true.mp checked slot member
  exact (Bool.not_eq_true' _).mp apart

theorem writtenSlots_pmp (other : isPmpControlAndStatusRegister index = false) :
    ∀ slot ∈ writtenSlots index, isPmpControlAndStatusRegister slot = false := by
  unfold writtenSlots
  split
  · exact slots_notPmp rfl
  split
  · exact slots_notPmp rfl
  split
  · exact slots_notPmp rfl
  split
  · exact slots_notPmp rfl
  · intro slot member
    rw [List.mem_singleton.mp member]
    exact other

theorem write_pmpKept (value : Bytes8) (other : isPmpControlAndStatusRegister index = false) :
    PmpKept registers (writeControlAndStatusRegister registers index value) :=
  .of_slots _ (writtenSlots_pmp other) fun _ apart => writeControlAndStatusRegister_slotKept value apart

theorem write_pmpcfg (value : Bytes8) (pmpcfg : isPmpCfgRegister index = true) :
    writeControlAndStatusRegister registers index value =
      registers.setSlot index (legalizePmpCfg (registers.controlAndStatus index) value) := by
  simp only [isPmpCfgRegister, Bool.or_eq_true, beq_iff_eq] at pmpcfg
  rcases pmpcfg with rfl | rfl
  · rfl
  · rfl

theorem write_pmpaddr (value : Bytes8) (inside : entry < pmpEntryCount) :
    writeControlAndStatusRegister registers (Csr.pmpaddr0 + BitVec.ofNat 12 entry) value =
      if pmpAddressWriteIgnored registers (Csr.pmpaddr0 + BitVec.ofNat 12 entry) then registers
      else registers.setSlot (Csr.pmpaddr0 + BitVec.ofNat 12 entry) (legalizePmpAddr value) := by
  unfold pmpEntryCount at inside
  interval_cases entry <;> rfl

/-- A write of a config register keeps the byte of a locked entry. -/
theorem write_pmpcfg_locked (value : Bytes8) (pmpcfg : isPmpCfgRegister index = true)
    (locked : EntryLocked registers entry) :
    configByte (writeControlAndStatusRegister registers index value) entry = configByte registers entry := by
  have inside : entry &&& 7 < 8 := Nat.lt_of_le_of_lt Nat.and_le_right (by decide)
  rw [write_pmpcfg value pmpcfg]
  unfold EntryLocked at locked
  unfold configByte at locked ⊢
  generalize (if entry < 8 then Csr.pmpcfg0 else Csr.pmpcfg2) = slot at locked ⊢
  rw [setSlot_controlAndStatus]
  split
  · rename_i own
    rw [own] at locked ⊢
    rw [legalizePmpCfg, byte_ofBytes _ inside (by decide)]
    exact if_pos locked
  · rfl

/-- A write of a config register keeps every address. -/
theorem write_pmpcfg_address (value : Bytes8) (pmpcfg : isPmpCfgRegister index = true)
    (inside : entry < pmpEntryCount) :
    readPmpAddress (writeControlAndStatusRegister registers index value) entry = readPmpAddress registers entry := by
  have apart : Csr.pmpaddr0 + BitVec.ofNat 12 entry ≠ index := by
    rintro rfl
    unfold pmpEntryCount at inside
    revert pmpcfg
    interval_cases entry <;> decide
  rw [write_pmpcfg value pmpcfg, readPmpAddress, setSlot_controlAndStatus, if_neg apart, readPmpAddress]

theorem write_pmpaddr_config (value : Bytes8) (written : number < pmpEntryCount) (entry : Nat) :
    configByte (writeControlAndStatusRegister registers (Csr.pmpaddr0 + BitVec.ofNat 12 number) value) entry =
      configByte registers entry := by
  rw [write_pmpaddr value written]
  split
  · rfl
  · have apart : (if entry < 8 then Csr.pmpcfg0 else Csr.pmpcfg2) ≠ Csr.pmpaddr0 + BitVec.ofNat 12 number := by
      unfold pmpEntryCount at written
      split <;> interval_cases number <;> decide
    rw [configByte, setSlot_controlAndStatus, if_neg apart, configByte]

/-- An address changes only by a write of its own register that is not ignored. -/
theorem write_pmpaddr_address (value : Bytes8) (written : number < pmpEntryCount) (inside : entry < pmpEntryCount)
    (frozen : entry = number →
      pmpAddressWriteIgnored registers (Csr.pmpaddr0 + BitVec.ofNat 12 number) = true) :
    readPmpAddress (writeControlAndStatusRegister registers (Csr.pmpaddr0 + BitVec.ofNat 12 number) value) entry =
      readPmpAddress registers entry := by
  rw [write_pmpaddr value written]
  split
  · rfl
  · rename_i accepted
    have apart : Csr.pmpaddr0 + BitVec.ofNat 12 entry ≠ Csr.pmpaddr0 + BitVec.ofNat 12 number := by
      intro same
      exact accepted (frozen (pmpaddr_entry_injective inside written same))
    rw [readPmpAddress, setSlot_controlAndStatus, if_neg apart, readPmpAddress]

/-- A locked entry ignores writes of its address. -/
theorem addressIgnored_of_locked (inside : entry < pmpEntryCount) (locked : EntryLocked registers entry) :
    pmpAddressWriteIgnored registers (Csr.pmpaddr0 + BitVec.ofNat 12 entry) = true := by
  unfold pmpAddressWriteIgnored
  rw [pmpaddr_entry_toNat inside]
  exact if_pos locked

/-- So does the entry below a locked TOR entry. -/
theorem addressIgnored_below_tor (inside : entry + 1 < pmpEntryCount) (locked : EntryLocked registers (entry + 1))
    (tor : configByte registers (entry + 1) &&& pmpCfgAMask = pmpCfgATor) :
    pmpAddressWriteIgnored registers (Csr.pmpaddr0 + BitVec.ofNat 12 entry) = true := by
  unfold pmpAddressWriteIgnored
  rw [pmpaddr_entry_toNat (Nat.lt_of_succ_lt inside)]
  dsimp only
  split
  · rfl
  · rw [if_neg (Nat.not_le.mpr inside), tor]
    have set := bne_iff_ne.mpr locked
    rw [set]
    rfl

/-- Whatever CSR is written, a locked entry stays. -/
theorem write_entryKept (index : BitVec 12) (value : Bytes8) (inside : entry < pmpEntryCount)
    (locked : EntryLocked registers entry) :
    EntryKept entry registers (writeControlAndStatusRegister registers index value) := by
  cases pmp : isPmpControlAndStatusRegister index with
  | false => exact (write_pmpKept value pmp).entryKept inside
  | true =>
    rcases Bool.or_eq_true_iff.mp pmp with pmpcfg | pmpaddr
    · refine entryKept_of_registers (write_pmpcfg_locked value pmpcfg locked)
        (write_pmpcfg_address value pmpcfg inside) fun _ _ => ?_
      exact write_pmpcfg_address value pmpcfg (Nat.lt_of_le_of_lt (Nat.sub_le _ _) inside)
    · obtain ⟨number, written, rfl⟩ := pmpaddr_entry pmpaddr
      refine entryKept_of_registers (write_pmpaddr_config value written entry) ?_ fun tor later => ?_
      · apply write_pmpaddr_address value written inside
        rintro rfl
        exact addressIgnored_of_locked inside locked
      · obtain ⟨below, rfl⟩ := Nat.exists_eq_succ_of_ne_zero later
        apply write_pmpaddr_address value written (Nat.lt_of_succ_lt inside)
        rintro rfl
        exact addressIgnored_below_tor inside locked tor

private theorem mstatus_notPmp : isPmpControlAndStatusRegister Csr.mstatus = false := rfl

theorem trapSlots_pmp (mode : Bytes8) : ∀ slot ∈ trapSlots mode, isPmpControlAndStatusRegister slot = false := by
  unfold trapSlots
  split
  · exact slots_notPmp rfl
  · exact slots_notPmp rfl

theorem takeInterruptIfAny_pmpKept (taken : takeInterruptIfAny registers = some after) : PmpKept registers after := by
  simp only [takeInterruptIfAny, Option.map_eq_some_iff] at taken
  obtain ⟨takeable, _, rfl⟩ := taken
  split
  · exact .of_slots _ (trapSlots_pmp _) (enterSupervisorTrap_entry registers _ _).slots
  · exact .of_slots _ (trapSlots_pmp _) (enterMachineTrap_entry registers _ _).slots

theorem advanceCounter_pmpKept (registers : Registers) (inhibit enableBit : BitVec 8)
    (other : isPmpControlAndStatusRegister counter = false) :
    PmpKept registers (advanceCounter registers inhibit enableBit counter) := by
  unfold advanceCounter
  split
  · refine .of_slots [counter] ?_ fun index apart => ?_
    · intro slot member
      rw [List.mem_singleton.mp member]
      exact other
    · exact .setSlot (List.mem_singleton.not.mp apart)
  · exact .refl registers

theorem commitInstructionRetire_pmpKept (registers : Registers) :
    PmpKept registers (commitInstructionRetire registers) := by
  unfold commitInstructionRetire
  split
  · exact .refl registers
  · have mcycle : isPmpControlAndStatusRegister Csr.mcycle = false := rfl
    have minstret : isPmpControlAndStatusRegister Csr.minstret = false := rfl
    exact (advanceCounter_pmpKept (cancelInstructionRetire registers) _ _ mcycle).trans
      (advanceCounter_pmpKept _ _ _ minstret)

/-- Every change of the registers keeps a locked entry. -/
theorem RegisterChange.entryKept (change : RegisterChange before after) (inside : entry < pmpEntryCount)
    (locked : EntryLocked before entry) : EntryKept entry before after := by
  cases change with
  | generalPurpose index value =>
    have kept : PmpKept before (writeGeneralPurposeRegister before index value) := by
      intro slot _
      rw [SlotKept, writeGeneralPurposeRegister_controlAndStatus]
    exact kept.entryKept inside
  | programCounter value => exact ⟨rfl, rfl, rfl⟩
  | controlAndStatus index value _ => exact write_entryKept index value inside locked
  | retire pending => exact ⟨rfl, rfl, rfl⟩
  | count => exact (commitInstructionRetire_pmpKept before).entryKept inside
  | trap cause trapValue =>
    have kept := PmpKept.of_slots _ (trapSlots_pmp _) (enterTrap_entry before cause trapValue).slots
    exact kept.entryKept inside
  | interrupt taken => exact (takeInterruptIfAny_pmpKept taken).entryKept inside
  | machineReturn _ =>
    have kept : PmpKept before (returnFromMachineTrap before) :=
      fun index pmp => write_pmpKept _ mstatus_notPmp index pmp
    exact kept.entryKept inside
  | supervisorReturn _ =>
    have kept : PmpKept before (returnFromSupervisorTrap before) :=
      fun index pmp => write_pmpKept _ mstatus_notPmp index pmp
    exact kept.entryKept inside
  | sample memory =>
    have kept : PmpKept before (sampleDevicePending before memory).1 := by
      refine .of_slots [Csr.mip] (slots_notPmp rfl) fun index apart => ?_
      exact (sampleDevicePending_sampledFrom before memory).slots index (List.mem_singleton.not.mp apart)
    exact kept.entryKept inside

/-- Nothing the hart does, from any state on, moves a locked entry: neither its config byte,
nor its address, nor its range. -/
theorem pmpLock_permanent (run : ReflTransGen CpuStep registers after) (inside : entry < pmpEntryCount)
    (locked : EntryLocked registers entry) :
    configByte after entry = configByte registers entry ∧
      readPmpAddress after entry = readPmpAddress registers entry ∧
      entryRange after entry = entryRange registers entry := by
  have kept : EntryKept entry registers after := by
    refine invariant_run (EntryKept entry registers) ?_ run (.mk rfl rfl rfl)
    intro before next step held
    refine invariant_run (EntryKept entry registers) ?_ step.changes held
    intro early late change sofar
    exact sofar.trans (change.entryKept inside (locked.kept sofar))
  exact ⟨kept.config, kept.address, kept.range⟩

/-- Entry 1 as a locked TOR region over the first 16 KiB. -/
def lockedTorRegisters : Registers :=
  writeControlAndStatusRegister (writeControlAndStatusRegister createRegisters (Csr.pmpaddr0 + 1) 0x1000)
    Csr.pmpcfg0 (uint8ArrayOf 0 0x8f 0 0 0 0 0 0)

/-- A write of the address below the region, then a trap. -/
theorem pmpLock_permanent_tor : ∃ after, ReflTransGen CpuStep lockedTorRegisters after ∧
    configByte after 1 = configByte lockedTorRegisters 1 ∧
    readPmpAddress after 1 = readPmpAddress lockedTorRegisters 1 ∧
    entryRange after 1 = entryRange lockedTorRegisters 1 := by
  have locked : EntryLocked lockedTorRegisters 1 := by
    unfold EntryLocked
    decide
  have run := (ReflTransGen.single (.execute (.csrImmediate .csrrwi ⟨0, 31, Csr.pmpaddr0, 0⟩)
    defaultMemory 4 rfl : CpuStep lockedTorRegisters _)).tail (.trap causeBreakpoint 0)
  exact ⟨_, run, pmpLock_permanent run (by decide) locked⟩

end YaRiscV.Emulator
