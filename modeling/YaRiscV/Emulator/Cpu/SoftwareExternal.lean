import YaRiscV.Emulator.Machine
import YaRiscV.Emulator.Cpu.Decode.Thunk

/-! Read-modify-write of `mip` and its SEIP bit: the value read shows the wire of the PLIC
besides the bit software wrote, and is what the write is built from. -/

namespace YaRiscV.Emulator

open YaRiscV.Library YaRiscV.Utils

/-- What `csrrs` and `csrrc` do with their mask. -/
inductive MaskUpdate where
  | set
  | clear
  deriving DecidableEq, Repr

def MaskUpdate.apply (update : MaskUpdate) (previous mask : Bytes8) : Bytes8 :=
  match update with
  | .set => orBytes previous mask
  | .clear => andBytes previous (xorBytes mask allOnesBytes)

def MaskUpdate.onBit (update : MaskUpdate) (previous mask : Bool) : Bool :=
  match update with
  | .set => previous || mask
  | .clear => previous && !mask

variable {registers : Registers} {memory : Memory} {thunk : ExecuteThunk} {update : MaskUpdate} {mask : Bytes8}

/-- The update of `mip` a thunk makes with its mask, if it writes `mip` so. -/
def mipUpdate (registers : Registers) : ExecuteThunk → Option (MaskUpdate × Bytes8)
  | .csrRegister .csrrs args =>
    if args.controlAndStatusRegister = Csr.mip ∧ args.sourceRegister1 ≠ 0 then
      some (.set, readGeneralPurposeRegister registers args.sourceRegister1)
    else none
  | .csrRegister .csrrc args =>
    if args.controlAndStatusRegister = Csr.mip ∧ args.sourceRegister1 ≠ 0 then
      some (.clear, readGeneralPurposeRegister registers args.sourceRegister1)
    else none
  | .csrImmediate .csrrsi args =>
    if args.controlAndStatusRegister = Csr.mip ∧ !isZeroBytes args.immediate then some (.set, args.immediate)
    else none
  | .csrImmediate .csrrci args =>
    if args.controlAndStatusRegister = Csr.mip ∧ !isZeroBytes args.immediate then some (.clear, args.immediate)
    else none
  | _ => none

/-- The `mip` slot after a write of `value`. -/
def mipWritten (registers : Registers) (value : Bytes8) : Bytes8 :=
  orBytes (andBytes value (mipWritableMaskBytes registers))
    (andBytes (registers.controlAndStatus Csr.mip) (mipHardwareMaskBytes registers))

theorem writeControlAndStatusRegister_mip (value : Bytes8) :
    writeControlAndStatusRegister registers Csr.mip value = registers.setSlot Csr.mip (mipWritten registers value) :=
  rfl

theorem csrReadWrite_mip (allowed : isControlAndStatusRegisterAccessAllowed registers Csr.mip true = true) :
    ∃ after, csrReadWrite registers memory true (fun previous => update.apply previous mask) destination Csr.mip
        word length = .completed after memory ∧
      after.controlAndStatus Csr.mip = mipWritten registers (update.apply (readMipWithPlicSeip registers) mask) := by
  refine ⟨_, by rw [csrReadWrite, allowed]; rfl, ?_⟩
  simp only [advanceProgramCounter, writeGeneralPurposeRegister_controlAndStatus, if_true]
  rw [writeControlAndStatusRegister_mip, setSlot_controlAndStatus, if_pos rfl]
  rfl

/-- Such a thunk is one `csrReadWrite`. -/
theorem mipUpdate_execute (updates : mipUpdate registers thunk = some (update, mask)) (memory : Memory)
    (length : Bytes8) : ∃ destination word, thunk.execute registers memory length =
      csrReadWrite registers memory true (fun previous => update.apply previous mask) destination Csr.mip
        word length := by
  unfold mipUpdate at updates
  split at updates
  all_goals try cases updates
  · rename_i args
    split at updates
    · rename_i writes
      cases updates
      refine ⟨args.destinationRegister, args.instructionWord, ?_⟩
      have source : (args.sourceRegister1 != 0) = true := bne_iff_ne.mpr writes.2
      simp only [ExecuteThunk.execute, CsrRegisterFunction.execute, csrrs, writes.1, source, MaskUpdate.apply]
    · cases updates
  · rename_i args
    split at updates
    · rename_i writes
      cases updates
      refine ⟨args.destinationRegister, args.instructionWord, ?_⟩
      have source : (args.sourceRegister1 != 0) = true := bne_iff_ne.mpr writes.2
      simp only [ExecuteThunk.execute, CsrRegisterFunction.execute, csrrc, writes.1, source, MaskUpdate.apply]
    · cases updates
  · rename_i args
    split at updates
    · rename_i writes
      cases updates
      refine ⟨args.destinationRegister, args.instructionWord, ?_⟩
      simp only [ExecuteThunk.execute, CsrImmediateFunction.execute, csrrsi, writes.1, writes.2, MaskUpdate.apply]
    · cases updates
  · rename_i args
    split at updates
    · rename_i writes
      cases updates
      refine ⟨args.destinationRegister, args.instructionWord, ?_⟩
      simp only [ExecuteThunk.execute, CsrImmediateFunction.execute, csrrci, writes.1, writes.2, MaskUpdate.apply]
    · cases updates

/-- The bit of SEIP. -/
def seipBit : Nat := 9

theorem getLsbD_readMip (registers : Registers) (bit : Nat) : (readMipWithPlicSeip registers).getLsbD bit =
    ((registers.controlAndStatus Csr.mip).getLsbD bit ||
      (registers.plicSupervisorExternalPending && decide (bit = seipBit))) := by
  rw [readMipWithPlicSeip]
  cases registers.plicSupervisorExternalPending with
  | false => simp
  | true =>
    have line (low : Nat) (inside : low < 8) : mipByte1Seip.getLsbD low = decide (low = 1) := by
      interval_cases low <;> rfl
    have small : bit % 8 < 8 := Nat.mod_lt _ (by decide)
    simp only [if_true, getLsbD_setByte, BitVec.getLsbD_or, getLsbD_byte, small, line _ small, decide_true,
      Bool.true_and, seipBit]
    by_cases second : bit / 8 = 1
    · have whole : 8 * 1 + bit % 8 = bit := by omega
      have inside : bit < 64 := by omega
      simp only [second, if_true, inside, decide_true, Bool.true_and, whole]
      congr 1
      exact decide_eq_decide.mpr (by omega)
    · have other : bit ≠ 9 := by omega
      simp only [second, if_false, other, decide_false, Bool.or_false]

theorem MaskUpdate.getLsbD_apply (update : MaskUpdate) (previous mask : Bytes8) (inside : bit < 64) :
    (update.apply previous mask).getLsbD bit = update.onBit (previous.getLsbD bit) (mask.getLsbD bit) := by
  have ones : allOnesBytes = BitVec.allOnes 64 := by decide
  cases update with
  | set => simp [MaskUpdate.apply, MaskUpdate.onBit]
  | clear =>
    simp only [MaskUpdate.apply, MaskUpdate.onBit, ones, andBytes_eq, xorBytes_eq, BitVec.getLsbD_and,
      BitVec.getLsbD_xor, BitVec.getLsbD_allOnes, inside, decide_true, Bool.xor_true]

theorem mipWritableMask_seip : (mipWritableMaskBytes registers).getLsbD seipBit = true := by
  rw [mipWritableMaskBytes]
  split <;> decide

theorem mipHardwareMask_seip : (mipHardwareMaskBytes registers).getLsbD seipBit = false := by
  rw [mipHardwareMaskBytes]
  split <;> decide

/-- The slot that an update of `mip` leaves. -/
def mipUpdated (registers : Registers) (update : MaskUpdate) (mask : Bytes8) : Bytes8 :=
  mipWritten registers (update.apply (readMipWithPlicSeip registers) mask)

theorem getLsbD_mipUpdated (registers : Registers) (update : MaskUpdate) (mask : Bytes8) (inside : bit < 64) :
    (mipUpdated registers update mask).getLsbD bit =
      (update.onBit ((registers.controlAndStatus Csr.mip).getLsbD bit ||
          (registers.plicSupervisorExternalPending && decide (bit = seipBit))) (mask.getLsbD bit) &&
        (mipWritableMaskBytes registers).getLsbD bit ||
      (registers.controlAndStatus Csr.mip).getLsbD bit && (mipHardwareMaskBytes registers).getLsbD bit) := by
  rw [mipUpdated, mipWritten, orBytes_eq, andBytes_eq, andBytes_eq, BitVec.getLsbD_or, BitVec.getLsbD_and,
    BitVec.getLsbD_and, update.getLsbD_apply _ _ inside, getLsbD_readMip]

/-- The SEIP bit that an update leaves takes the wire for a bit software wrote. -/
theorem mipUpdated_seip (registers : Registers) (update : MaskUpdate) (mask : Bytes8) :
    (mipUpdated registers update mask).getLsbD seipBit =
      update.onBit ((registers.controlAndStatus Csr.mip).getLsbD seipBit || registers.plicSupervisorExternalPending)
        (mask.getLsbD seipBit) := by
  rw [getLsbD_mipUpdated _ _ _ (by decide), mipWritableMask_seip, mipHardwareMask_seip]
  simp

/-- The other bits do not depend on the wire. -/
theorem mipUpdated_other (registers : Registers) (update : MaskUpdate) (mask : Bytes8) (inside : bit < 64)
    (other : bit ≠ seipBit) (wire : Bool) :
    (mipUpdated (setSupervisorExternalInterruptPending registers wire) update mask).getLsbD bit =
      (mipUpdated registers update mask).getLsbD bit := by
  rw [getLsbD_mipUpdated _ _ _ inside, getLsbD_mipUpdated _ _ _ inside, decide_eq_false other, Bool.and_false,
    Bool.and_false]
  rfl

/-- What the update of `mip` by a thunk should do, whatever the wire shows: one slot results,
with SEIP built from what software wrote, and that is what reads once the wire drops. -/
def SoftwareSeipOnly (registers : Registers) (memory : Memory) (thunk : ExecuteThunk) (length : Bytes8)
    (update : MaskUpdate) (mask : Bytes8) : Prop :=
  ∃ slot : Bytes8, slot.getLsbD seipBit =
      update.onBit ((registers.controlAndStatus Csr.mip).getLsbD seipBit) (mask.getLsbD seipBit) ∧
    ∀ wire, ∃ after, thunk.execute (setSupervisorExternalInterruptPending registers wire) memory length =
        .completed after memory ∧
      after.controlAndStatus Csr.mip = slot ∧
      readControlAndStatusRegister (setSupervisorExternalInterruptPending after false) Csr.mip = slot

theorem mipUpdate_wire (wire : Bool) :
    mipUpdate (setSupervisorExternalInterruptPending registers wire) thunk = mipUpdate registers thunk := rfl

/-- The PLIC's wire stays out of an update of `mip` exactly if SEIP is set already by software
or is in the mask. -/
theorem mip_update_software_only_iff (updates : mipUpdate registers thunk = some (update, mask))
    (allowed : isControlAndStatusRegisterAccessAllowed registers Csr.mip true = true) :
    SoftwareSeipOnly registers memory thunk length update mask ↔
      (registers.controlAndStatus Csr.mip).getLsbD seipBit = true ∨ mask.getLsbD seipBit = true := by
  have run (wire : Bool) : ∃ after, thunk.execute (setSupervisorExternalInterruptPending registers wire) memory
      length = .completed after memory ∧ after.controlAndStatus Csr.mip =
        mipUpdated (setSupervisorExternalInterruptPending registers wire) update mask := by
    obtain ⟨destination, word, same⟩ := mipUpdate_execute ((mipUpdate_wire wire).trans updates) memory length
    rw [same]
    exact csrReadWrite_mip allowed
  have seip (wire : Bool) : (mipUpdated (setSupervisorExternalInterruptPending registers wire) update
      mask).getLsbD seipBit = update.onBit ((registers.controlAndStatus Csr.mip).getLsbD seipBit || wire)
        (mask.getLsbD seipBit) := mipUpdated_seip _ update mask
  constructor
  · rintro ⟨slot, software, both⟩
    obtain ⟨after, completed, written, _⟩ := both true
    obtain ⟨after', completed', written'⟩ := run true
    obtain ⟨rfl, -⟩ := Execution.completed.inj (completed.symm.trans completed')
    rw [← written, written', seip true] at software
    revert software
    cases update <;> cases (registers.controlAndStatus Csr.mip).getLsbD seipBit <;>
      cases mask.getLsbD seipBit <;> simp [MaskUpdate.onBit]
  · intro masked
    have wired (wire : Bool) : update.onBit ((registers.controlAndStatus Csr.mip).getLsbD seipBit || wire)
        (mask.getLsbD seipBit) = update.onBit ((registers.controlAndStatus Csr.mip).getLsbD seipBit)
          (mask.getLsbD seipBit) := by
      rcases masked with soft | asked
      · rw [soft, Bool.true_or]
      · rw [asked]
        cases update <;> simp [MaskUpdate.onBit]
    have slots (wire : Bool) : mipUpdated (setSupervisorExternalInterruptPending registers wire) update mask =
        mipUpdated (setSupervisorExternalInterruptPending registers false) update mask := by
      apply BitVec.eq_of_getLsbD_eq
      intro bit inside
      by_cases same : bit = seipBit
      · rw [same, seip, seip, wired, wired]
      · rw [mipUpdated_other _ _ _ inside same, mipUpdated_other _ _ _ inside same]
    refine ⟨_, (seip false).trans (wired false), fun wire => ?_⟩
    obtain ⟨after, completed, written⟩ := run wire
    exact ⟨after, completed, written.trans (slots wire), written.trans (slots wire)⟩

/-- `csrrsi mip, 2` in M-mode. -/
theorem mip_update_software_only_iff_reset :
    SoftwareSeipOnly createRegisters defaultMemory (.csrImmediate .csrrsi ⟨0, 2, Csr.mip, 0⟩) 4 .set 2 ↔
      (createRegisters.controlAndStatus Csr.mip).getLsbD seipBit = true ∨ (2 : Bytes8).getLsbD seipBit = true :=
  mip_update_software_only_iff rfl rfl

/-- Setting SSIP while the wire is high leaves SEIP set in the slot. -/
theorem mip_update_captures_wire :
    ¬ SoftwareSeipOnly createRegisters defaultMemory (.csrImmediate .csrrsi ⟨0, 2, Csr.mip, 0⟩) 4 .set 2 ∧
      ∃ after, (ExecuteThunk.csrImmediate .csrrsi ⟨0, 2, Csr.mip, 0⟩).execute
          (setSupervisorExternalInterruptPending createRegisters true) defaultMemory 4 = .completed after defaultMemory ∧
        after.controlAndStatus Csr.mip = 0x202 := by
  have high : ∃ after, (ExecuteThunk.csrImmediate .csrrsi ⟨0, 2, Csr.mip, 0⟩).execute
      (setSupervisorExternalInterruptPending createRegisters true) defaultMemory 4 = .completed after defaultMemory ∧
        after.controlAndStatus Csr.mip = 0x202 := ⟨_, rfl, by decide⟩
  refine ⟨?_, high⟩
  rintro ⟨slot, software, both⟩
  obtain ⟨after, completed, written, _⟩ := both true
  obtain ⟨after', completed', written'⟩ := high
  obtain ⟨rfl, -⟩ := Execution.completed.inj (completed.symm.trans completed')
  rw [← written, written'] at software
  revert software
  decide

end YaRiscV.Emulator
