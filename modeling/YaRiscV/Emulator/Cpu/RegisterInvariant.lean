import YaRiscV.Library.BitMask
import YaRiscV.Emulator.Cpu.RegisterChange

/-! The values the hart's registers can hold: every slot of the CSR file stays legal in
every run from reset. -/

namespace YaRiscV.Emulator

open Relation YaRiscV.Library YaRiscV.Utils

/-- MPP is not the reserved encoding; UXL and SXL are 64. -/
def LegalMstatus (value : Bytes8) : Prop :=
  byte value 1 &&& mstatusByte1MppMask ≠ mstatusByte1MppReserved ∧
    byte value 4 &&& mstatusByte4UxlSxlMask = mstatusByte4UxlSxl64

def LegalXtvec (value : Bytes8) : Prop :=
  byte value 0 &&& xtvecModeMask = 0 ∨ byte value 0 &&& xtvecModeMask = xtvecModeVectored

instance : DecidablePred LegalMstatus := fun _ => inferInstanceAs (Decidable (_ ∧ _))

instance : DecidablePred LegalXtvec := fun _ => inferInstanceAs (Decidable (_ ∨ _))

/-- No reserved bit, and no W without R. -/
def LegalPmpCfgByte (value : BitVec 8) : Prop :=
  value &&& pmpCfgReserved = 0 ∧ (value &&& pmpCfgW ≠ 0 → value &&& pmpCfgR ≠ 0)

instance : DecidablePred LegalPmpCfgByte := fun _ => inferInstanceAs (Decidable (_ ∧ _))

/-- What a slot of the CSR file may hold. -/
def LegalSlot (index : BitVec 12) (value : Bytes8) : Prop :=
  if index = Csr.mstatus then LegalMstatus value
  else if index = Csr.misa then value = misaHardwiredBytes
  else if isIdentityControlAndStatusRegister index then value = 0
  else if index = Csr.mepc ∨ index = Csr.sepc then byte value 0 &&& 1 = 0
  else if index = Csr.mtvec ∨ index = Csr.stvec then LegalXtvec value
  else if index = Csr.mie then Within value mieMaskBytes
  else if index = Csr.mip then Within value mieMaskBytes
  else if index = Csr.mideleg then Within value midelegMaskBytes
  else if index = Csr.medeleg then byte value 1 &&& medelegByte1EcallFromM = 0
  else if index = Csr.mcounteren ∨ index = Csr.scounteren then Within value counterenMaskBytes
  else if index = Csr.mcountinhibit then Within value mcountinhibitMaskBytes
  else if index = Csr.menvcfg then Within value menvcfgWritableMaskBytes
  else if isPmpCfgRegister index then ∀ byteIndex < 8, LegalPmpCfgByte (byte value byteIndex)
  else if isPmpAddrRegister index then value.toNat < 2 ^ 54
  else True

def LegalSlots (registers : Registers) : Prop :=
  ∀ index, LegalSlot index (registers.controlAndStatus index)

/-- What holds of the registers in every reachable state. -/
structure RegisterInvariant (registers : Registers) : Prop where
  zero : registers.generalPurpose 0 = 0
  privilege : registers.privilegeMode = privilegeUser ∨ registers.privilegeMode = privilegeSupervisor ∨
    registers.privilegeMode = privilegeMachine
  slots : LegalSlots registers

theorem byte_legalizeMstatus (mstatus : Bytes8) (index : Nat) (other : index ≠ 1 ∧ index ≠ 4) :
    byte (legalizeMstatus mstatus) index = byte mstatus index := by
  simp only [legalizeMstatus]
  rw [byte_setByte _ _ (by decide), if_neg other.2]
  split
  · rw [byte_setByte _ _ (by decide), if_neg other.1]
  · rfl

theorem legalizeMstatus_legal (mstatus : Bytes8) : LegalMstatus (legalizeMstatus mstatus) := by
  have cleared (value : BitVec 8) : ((value &&& ~~~mstatusByte1MppMask) ||| mstatusByte1MppUser) &&&
      mstatusByte1MppMask ≠ mstatusByte1MppReserved := by
    revert value
    decide
  have hardwired (value : BitVec 8) : ((value &&& ~~~mstatusByte4UxlSxlMask) ||| mstatusByte4UxlSxl64) &&&
      mstatusByte4UxlSxlMask = mstatusByte4UxlSxl64 := by
    revert value
    decide
  constructor
  · simp only [legalizeMstatus]
    rw [byte_setByte _ _ (by decide), if_neg (by decide)]
    split
    · rw [byte_setByte _ _ (by decide), if_pos rfl]
      exact cleared _
    · assumption
  · rw [legalizeMstatus, byte_setByte _ _ (by decide), if_pos rfl]
    exact hardwired _

theorem legalizeXepc_legal (xepc : Bytes8) : byte (legalizeXepc xepc) 0 &&& 1 = 0 := by
  have cleared (value : BitVec 8) : value &&& xepcIalignMaskByte0 &&& 1 = 0 := by
    revert value
    decide
  rw [legalizeXepc, byte_setByte _ _ (by decide), if_pos rfl]
  exact cleared _

theorem legalizeXtvec_legal (xtvec : Bytes8) : LegalXtvec (legalizeXtvec xtvec) := by
  have cleared (value : BitVec 8) : value &&& ~~~xtvecModeMask &&& xtvecModeMask = 0 := by
    revert value
    decide
  simp only [legalizeXtvec, LegalXtvec]
  split
  · rw [byte_setByte _ _ (by decide), if_pos rfl]
    exact .inl (cleared _)
  · rename_i legal
    by_cases direct : byte xtvec 0 &&& xtvecModeMask = 0
    · exact .inl direct
    · exact .inr (by_contra fun reserved => legal ⟨direct, reserved⟩)

theorem legalizePmpCfgByte_legal (incoming : BitVec 8) : LegalPmpCfgByte (legalizePmpCfgByte incoming) := by
  revert incoming
  decide

theorem legalizePmpCfg_legal (incoming : Bytes8)
    (previous : ∀ byteIndex < 8, LegalPmpCfgByte (byte value byteIndex)) (byteIndex : Nat)
    (inside : byteIndex < 8) : LegalPmpCfgByte (byte (legalizePmpCfg value incoming) byteIndex) := by
  rw [legalizePmpCfg, byte_ofBytes _ inside (by decide)]
  dsimp only
  split
  · exact previous byteIndex inside
  · exact legalizePmpCfgByte_legal _

theorem legalizePmpAddr_legal (value : Bytes8) : (legalizePmpAddr value).toNat < 2 ^ 54 := by
  have small : value.toNat &&& pmpaddrValueMask < 2 ^ 54 :=
    Nat.lt_of_le_of_lt Nat.and_le_right (by decide)
  simp only [legalizePmpAddr, bytesToBigInt_eq, unsignedBigIntToBytes_eq, BitVec.ofInt_natCast,
    BitVec.toNat_ofNat]
  exact Nat.lt_of_le_of_lt (Nat.mod_le _ _) small

/-- The slots stay legal when a legal value is copied into one of them. -/
theorem LegalSlots.setSlot {registers : Registers} (slots : LegalSlots registers)
    (legal : LegalSlot index value) : LegalSlots (registers.setSlot index value) := by
  intro other
  rw [setSlot_controlAndStatus]
  split
  · rename_i same
    rwa [same]
  · exact slots other

section

variable {registers : Registers} (slots : LegalSlots registers)
include slots

theorem LegalSlots.mie : Within (registers.controlAndStatus Csr.mie) mieMaskBytes := by
  simpa [LegalSlot, isIdentityControlAndStatusRegister] using slots Csr.mie

theorem LegalSlots.mip : Within (registers.controlAndStatus Csr.mip) mieMaskBytes := by
  simpa [LegalSlot, isIdentityControlAndStatusRegister] using slots Csr.mip

private theorem mergeSip_within (value : Bytes8) : Within (mergeSip registers value) mieMaskBytes := by
  have mip := slots.mip
  have writable : Within (sipWritableMaskBytes registers) mieMaskBytes := by
    rw [sipWritableMaskBytes]
    split <;> decide
  have soft (value : BitVec 8) : Within (value &&& mipByte1Seip) (byte mieMaskBytes 1) := by
    revert value
    decide
  have words : 64 = 8 * 8 := rfl
  simp only [mergeSip, andBytes_eq, orBytes_eq]
  have keep := (mip.and mieMipKeepOutsideSieSip).or (mip.and (mipHardwareMaskBytes registers))
  have byte1 := (within_iff_byte words).mp keep 1 (by decide)
  exact (keep.setByte words (by decide) (byte1.or (soft _))).or ((within_and _ _).trans writable)

private theorem setMipBits_legal (pending : Bool) (inside : byteIndex < 8)
    (covered : Within mask (byte mieMaskBytes byteIndex)) :
    LegalSlots (setMipBits registers byteIndex mask pending) := by
  have words : 64 = 8 * 8 := rfl
  have mipByte := (within_iff_byte words).mp slots.mip byteIndex inside
  have legal : Within (setBits (registers.controlAndStatus Csr.mip) byteIndex mask pending) mieMaskBytes := by
    rw [setBits]
    cases pending with
    | true => exact slots.mip.setByte words inside (mipByte.or covered)
    | false => exact slots.mip.setByte words inside (mipByte.and _)
  exact slots.setSlot (by simpa [LegalSlot, isIdentityControlAndStatusRegister] using legal)

private theorem writeMenvcfg_legal (value : Bytes8) : LegalSlots (writeMenvcfg registers value) := by
  have menvcfg : LegalSlots (registers.setSlot Csr.menvcfg (andBytes value menvcfgWritableMaskBytes)) :=
    slots.setSlot (by simpa [LegalSlot, isIdentityControlAndStatusRegister] using within_and _ _)
  simp only [writeMenvcfg]
  split
  · exact setMipBits_legal menvcfg false (by decide) (by decide)
  · exact menvcfg

/-- A CSR write leaves every slot legal. -/
theorem LegalSlots.write (index : BitVec 12) (value : Bytes8) :
    LegalSlots (writeControlAndStatusRegister registers index value) := by
  unfold writeControlAndStatusRegister
  refine iteInduction (fun _ => slots) fun guest => ?_
  simp only [Bool.or_eq_true, not_or, Bool.not_eq_true] at guest
  refine iteInduction (fun _ => slots.setSlot ?_) fun _ => ?_
  · exact legalizeMstatus_legal _
  refine iteInduction (fun _ => slots.setSlot ?_) fun _ => ?_
  · have merged : Within (orBytes (andBytes (registers.controlAndStatus Csr.mie) mieMipKeepOutsideSieSip)
        (andBytes value sieSipMaskBytes)) mieMaskBytes := by
      simp only [andBytes_eq, orBytes_eq]
      exact (slots.mie.and _).or ((within_and _ _).trans (by decide))
    simpa [LegalSlot, isIdentityControlAndStatusRegister] using merged
  refine iteInduction (fun _ => slots.setSlot ?_) fun _ => ?_
  · simpa [LegalSlot, isIdentityControlAndStatusRegister] using mergeSip_within slots value
  refine iteInduction (fun _ => slots.setSlot ?_) fun mstatus => ?_
  · exact legalizeMstatus_legal _
  refine iteInduction (fun _ => slots.setSlot ?_) fun misa => ?_
  · rfl
  refine iteInduction (fun _ => slots.setSlot ?_) fun mie => ?_
  · simpa [LegalSlot, isIdentityControlAndStatusRegister] using within_and value mieMaskBytes
  refine iteInduction (fun _ => slots.setSlot ?_) fun mip => ?_
  · have writable : Within (mipWritableMaskBytes registers) mieMaskBytes := by
      rw [mipWritableMaskBytes]
      split <;> decide
    have merged := ((within_and value _).trans writable).or
      (slots.mip.and (mipHardwareMaskBytes registers))
    simpa [LegalSlot, isIdentityControlAndStatusRegister] using merged
  refine iteInduction (fun _ => writeMenvcfg_legal slots value) fun menvcfg => ?_
  refine iteInduction (fun _ => slots.setSlot ?_) fun mideleg => ?_
  · simpa [LegalSlot, isIdentityControlAndStatusRegister] using within_and value midelegMaskBytes
  refine iteInduction (fun _ => slots.setSlot ?_) fun medeleg => ?_
  · have cleared (value : BitVec 8) : value &&& ~~~medelegByte1EcallFromM &&& medelegByte1EcallFromM = 0 := by
      revert value
      decide
    have legal : byte (setByte value 1 (byte value 1 &&& ~~~medelegByte1EcallFromM)) 1 &&&
        medelegByte1EcallFromM = 0 := by
      rw [byte_setByte _ _ (by decide), if_pos rfl]
      exact cleared _
    simpa [LegalSlot, isIdentityControlAndStatusRegister] using legal
  refine iteInduction (fun counteren => slots.setSlot ?_) fun counteren => ?_
  · rcases counteren with rfl | rfl <;>
      simpa [LegalSlot, isIdentityControlAndStatusRegister] using within_and value counterenMaskBytes
  refine iteInduction (fun _ => slots.setSlot ?_) fun mcountinhibit => ?_
  · simpa [LegalSlot, isIdentityControlAndStatusRegister] using within_and value mcountinhibitMaskBytes
  refine iteInduction (fun xtvec => slots.setSlot ?_) fun xtvec => ?_
  · rcases xtvec with rfl | rfl <;>
      simpa [LegalSlot, isIdentityControlAndStatusRegister] using legalizeXtvec_legal value
  refine iteInduction (fun xepc => slots.setSlot ?_) fun xepc => ?_
  · rcases xepc with rfl | rfl <;>
      simpa [LegalSlot, isIdentityControlAndStatusRegister] using legalizeXepc_legal value
  have previous := slots index
  simp only [LegalSlot, guest.1, mstatus, misa, mie, mip, menvcfg, mideleg, medeleg, counteren,
    mcountinhibit, xtvec, xepc, if_false, Bool.false_eq_true] at previous
  refine iteInduction (fun pmpcfg => slots.setSlot ?_) fun pmpcfg => ?_
  · simp only [pmpcfg, if_true] at previous
    simp only [LegalSlot, guest.1, mstatus, misa, mie, mip, menvcfg, mideleg, medeleg, counteren,
      mcountinhibit, xtvec, xepc, pmpcfg, if_false, if_true, Bool.false_eq_true]
    exact legalizePmpCfg_legal value previous
  refine iteInduction (fun pmpaddr => ?_) fun pmpaddr => slots.setSlot ?_
  · refine iteInduction (fun _ => slots) fun _ => slots.setSlot ?_
    simp only [LegalSlot, guest.1, mstatus, misa, mie, mip, menvcfg, mideleg, medeleg, counteren,
      mcountinhibit, xtvec, xepc, pmpcfg, pmpaddr, if_false, if_true, Bool.false_eq_true]
    exact legalizePmpAddr_legal value
  · simp only [LegalSlot, guest.1, mstatus, misa, mie, mip, menvcfg, mideleg, medeleg, counteren,
      mcountinhibit, xtvec, xepc, pmpcfg, pmpaddr, if_false, Bool.false_eq_true]

end

private theorem ite_both {condition yes no : Prop} [Decidable condition] (left : yes) (right : no) :
    if condition then yes else no := by
  split <;> assumption

namespace RegisterInvariant

theorem created : RegisterInvariant createRegisters where
  zero := rfl
  privilege := .inr (.inr rfl)
  slots := by
    intro index
    change LegalSlot index (resetControlAndStatus index)
    by_cases mstatus : index = Csr.mstatus
    · subst mstatus
      exact (by decide : LegalMstatus (setByte 0 4 mstatusByte4UxlSxl64))
    by_cases misa : index = Csr.misa
    · subst misa
      rfl
    by_cases stimecmp : index = Csr.stimecmp
    · subst stimecmp
      simp [LegalSlot, isIdentityControlAndStatusRegister, isPmpCfgRegister, isPmpAddrRegister]
    simp only [resetControlAndStatus, LegalSlot, mstatus, misa, stimecmp, if_false]
    repeat' apply ite_both
    all_goals decide

variable {registers after : Registers} (invariant : RegisterInvariant registers)
include invariant

theorem write (index : BitVec 12) (value : Bytes8) :
    RegisterInvariant (writeControlAndStatusRegister registers index value) where
  zero := by rw [writeControlAndStatusRegister_generalPurpose, invariant.zero]
  privilege := by rw [writeControlAndStatusRegister_privilegeMode]; exact invariant.privilege
  slots := invariant.slots.write index value

theorem setPrivilegeMode (valid : mode = privilegeUser ∨ mode = privilegeSupervisor ∨ mode = privilegeMachine) :
    RegisterInvariant (setPrivilegeMode registers mode) :=
  ⟨invariant.zero, valid, invariant.slots⟩

theorem setProgramCounter (value : Bytes8) : RegisterInvariant (setProgramCounter registers value) :=
  ⟨invariant.zero, invariant.privilege, invariant.slots⟩

theorem writeGeneralPurposeRegister (index : BitVec 5) (value : Bytes8) :
    RegisterInvariant (writeGeneralPurposeRegister registers index value) where
  zero := by rw [writeGeneralPurposeRegister_zero, invariant.zero]
  privilege := by rw [writeGeneralPurposeRegister_privilegeMode]; exact invariant.privilege
  slots := by
    intro other
    rw [writeGeneralPurposeRegister_controlAndStatus]
    exact invariant.slots other

theorem enterMachineTrap (cause trapValue : Bytes8) :
    RegisterInvariant (enterMachineTrap registers cause trapValue) :=
  (((((invariant.write _ _).write _ _).write _ _).write _ _).setPrivilegeMode
    (.inr (.inr rfl))).setProgramCounter _

theorem enterSupervisorTrap (cause trapValue : Bytes8) :
    RegisterInvariant (enterSupervisorTrap registers cause trapValue) :=
  (((((invariant.write _ _).write _ _).write _ _).write _ _).setPrivilegeMode
    (.inr (.inl rfl))).setProgramCounter _

theorem retireFlag (pending : Bool) : RegisterInvariant { registers with retireInstruction := pending } :=
  ⟨invariant.zero, invariant.privilege, invariant.slots⟩

private theorem advanceCounter (inhibit enableBit : BitVec 8) (free : ∀ value, LegalSlot counter value) :
    RegisterInvariant (advanceCounter registers inhibit enableBit counter) := by
  rw [Emulator.advanceCounter]
  split
  · exact ⟨invariant.zero, invariant.privilege, invariant.slots.setSlot (free _)⟩
  · exact invariant

theorem commitInstructionRetire : RegisterInvariant (commitInstructionRetire registers) := by
  have mcycle (value : Bytes8) : LegalSlot Csr.mcycle value := by
    simp [LegalSlot, isIdentityControlAndStatusRegister, isPmpCfgRegister, isPmpAddrRegister, pmpEntryCount]
  have minstret (value : Bytes8) : LegalSlot Csr.minstret value := by
    simp [LegalSlot, isIdentityControlAndStatusRegister, isPmpCfgRegister, isPmpAddrRegister, pmpEntryCount]
  simp only [Emulator.commitInstructionRetire]
  split
  · exact invariant
  · exact ((invariant.retireFlag false).advanceCounter _ _ mcycle).advanceCounter _ _ minstret

theorem enterTrap (cause : Nat) (trapValue : Bytes8) :
    RegisterInvariant (enterTrap registers cause trapValue) := by
  simp only [Emulator.enterTrap]
  split
  · exact (invariant.retireFlag false).enterSupervisorTrap _ _
  · exact (invariant.retireFlag false).enterMachineTrap _ _

theorem takeInterruptIfAny (taken : takeInterruptIfAny registers = some after) : RegisterInvariant after := by
  simp only [Emulator.takeInterruptIfAny, Option.map_eq_some_iff] at taken
  obtain ⟨takeable, _, rfl⟩ := taken
  split
  · exact invariant.enterSupervisorTrap _ _
  · exact invariant.enterMachineTrap _ _

theorem returnFromMachineTrap : RegisterInvariant (returnFromMachineTrap registers) := by
  refine ((invariant.write _ _).setPrivilegeMode ?_).setProgramCounter _
  rw [privilegeModeFromMppBits]
  split
  · exact .inr (.inr rfl)
  split
  · exact .inr (.inl rfl)
  · exact .inl rfl

theorem returnFromSupervisorTrap : RegisterInvariant (returnFromSupervisorTrap registers) := by
  refine ((invariant.write _ _).setPrivilegeMode ?_).setProgramCounter _
  split
  · exact .inr (.inl rfl)
  · exact .inl rfl

private theorem setMipBits (pending : Bool) (inside : byteIndex < 8)
    (covered : Within mask (byte mieMaskBytes byteIndex)) :
    RegisterInvariant (setMipBits registers byteIndex mask pending) :=
  ⟨invariant.zero, invariant.privilege, setMipBits_legal invariant.slots pending inside covered⟩

private theorem publishSupervisorTimerCompare (memory : Memory) :
    RegisterInvariant (publishSupervisorTimerCompare registers memory).1 := by
  unfold Emulator.publishSupervisorTimerCompare
  generalize (if isSupervisorTimerCompareEnabled registers then registers.controlAndStatus Csr.stimecmp
    else stimecmpDisabledBytes) = desired
  dsimp only
  split
  · exact invariant
  · exact ⟨invariant.zero, invariant.privilege, invariant.slots⟩

theorem sampleDevicePending (memory : Memory) :
    RegisterInvariant (sampleDevicePending registers memory).1 := by
  have machine : RegisterInvariant (setMachineSoftwareInterruptPending
      (setMachineTimerInterruptPending registers (isClintMachineTimerPending memory))
      (isClintMachineSoftwarePending memory)) :=
    (invariant.setMipBits _ (by decide) (by decide)).setMipBits _ (by decide) (by decide)
  have published := machine.publishSupervisorTimerCompare memory
  unfold Emulator.sampleDevicePending
  dsimp only
  generalize Emulator.publishSupervisorTimerCompare (setMachineSoftwareInterruptPending
      (setMachineTimerInterruptPending registers (isClintMachineTimerPending memory))
      (isClintMachineSoftwarePending memory)) memory = result at published
  obtain ⟨registers, memory⟩ := result
  have supervisor : RegisterInvariant
      (setSupervisorTimerInterruptPending registers (isClintSupervisorTimerPending memory)) := by
    rw [setSupervisorTimerInterruptPending]
    split
    · exact published
    · exact published.setMipBits _ (by decide) (by decide)
  have external := supervisor.setMipBits (isPlicMachineExternalPending memory) (by decide : 1 < 8)
    (by decide : Within mipByte1Meip (byte mieMaskBytes 1))
  exact ⟨external.zero, external.privilege, external.slots⟩

/-- Every change of the registers keeps the invariant. -/
theorem change (change : RegisterChange registers after) : RegisterInvariant after := by
  cases change with
  | generalPurpose index value => exact invariant.writeGeneralPurposeRegister index value
  | programCounter value => exact invariant.setProgramCounter value
  | controlAndStatus index value _ => exact invariant.write index value
  | retire pending => exact invariant.retireFlag pending
  | count => exact invariant.commitInstructionRetire
  | trap cause trapValue => exact invariant.enterTrap cause trapValue
  | interrupt taken => exact invariant.takeInterruptIfAny taken
  | machineReturn _ => exact invariant.returnFromMachineTrap
  | supervisorReturn _ => exact invariant.returnFromSupervisorTrap
  | sample memory => exact invariant.sampleDevicePending memory

end RegisterInvariant

end YaRiscV.Emulator
