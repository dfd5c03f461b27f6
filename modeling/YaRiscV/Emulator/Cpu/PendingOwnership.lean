import YaRiscV.Emulator.Cpu.SoftwareExternal
import YaRiscV.Emulator.Cpu.TimerWires
import YaRiscV.Emulator.Cpu.Reachable
import YaRiscV.Emulator.Cpu.TrapPrecision

/-! Who owns which bit of `mip`: CSR instructions reach SSIP, the soft SEIP and, while
`menvcfg.STCE` is clear, STIP; the rest belongs to the devices. -/

namespace YaRiscV.Emulator

open YaRiscV.Library YaRiscV.Utils

def ssipBit : Nat := 1
def meipBit : Nat := 11

/-- The CSR a CSR instruction accesses. -/
def ExecuteThunk.controlAndStatusRegister : ExecuteThunk → Option (BitVec 12)
  | .csrRegister _ args => some args.controlAndStatusRegister
  | .csrImmediate _ args => some args.controlAndStatusRegister
  | _ => none

/-- One bit of the `mip` slot. -/
def pendingBit (registers : Registers) (bit : Nat) : Bool := (registers.controlAndStatus Csr.mip).getLsbD bit

/-- What an access to the CSR `index` may do to `mip`. -/
structure PendingOwnersKept (index : BitVec 12) (before after : Registers) : Prop where
  hardware : ∀ bit ∈ [msipBit, mtipBit, meipBit], pendingBit after bit = pendingBit before bit
  timer : isSupervisorTimerCompareEnabled before = true → isSupervisorTimerCompareEnabled after = true →
    pendingBit after stipBit = pendingBit before stipBit
  throughSip : index = Csr.sip → ∀ bit, pendingBit after bit ≠ pendingBit before bit →
    bit = ssipBit ∨ bit = stipBit ∧ isSupervisorTimerCompareEnabled before = false
  throughMip : index = Csr.mip → ∀ bit, pendingBit after bit ≠ pendingBit before bit →
    bit = ssipBit ∨ bit = seipBit ∨ bit = stipBit ∧ isSupervisorTimerCompareEnabled before = false
  compareDisabled : index = Csr.menvcfg → isSupervisorTimerCompareEnabled before = true →
    isSupervisorTimerCompareEnabled after = false →
      pendingBit after stipBit = false ∧ ∀ bit ≠ stipBit, pendingBit after bit = pendingBit before bit
  elsewhere : index ≠ Csr.sip → index ≠ Csr.mip → index ≠ Csr.menvcfg →
    ∀ bit, pendingBit after bit = pendingBit before bit

variable {registers after : Registers} {memory : Memory} {index : BitVec 12} {bit : Nat}

theorem isSupervisorTimerCompareEnabled_congr (kept : SlotKept Csr.menvcfg registers after) :
    isSupervisorTimerCompareEnabled after = isSupervisorTimerCompareEnabled registers := by
  rw [isSupervisorTimerCompareEnabled, kept]
  rfl

namespace PendingOwnersKept

/-- An access that leaves the two slots alone. -/
theorem of_kept (mip : SlotKept Csr.mip registers after) (menvcfg : SlotKept Csr.menvcfg registers after) :
    PendingOwnersKept index registers after := by
  have same (bit : Nat) : pendingBit after bit = pendingBit registers bit := by
    rw [pendingBit, mip]
    rfl
  refine ⟨fun bit _ => same bit, fun _ _ => same _, fun _ bit changed => absurd (same bit) changed,
    fun _ bit changed => absurd (same bit) changed, fun _ enabled disabled => ?_, fun _ _ _ bit => same bit⟩
  rw [isSupervisorTimerCompareEnabled_congr menvcfg, enabled] at disabled
  cases disabled

theorem congr (kept : PendingOwnersKept index registers middle)
    (file : after.controlAndStatus = middle.controlAndStatus) : PendingOwnersKept index registers after := by
  have pending : pendingBit after = pendingBit middle := by
    funext bit
    rw [pendingBit, file]
    rfl
  have enabled : isSupervisorTimerCompareEnabled after = isSupervisorTimerCompareEnabled middle :=
    isSupervisorTimerCompareEnabled_congr (congrFun file _)
  constructor <;> rw [pending]
  · exact kept.hardware
  · rw [enabled]
    exact kept.timer
  · exact kept.throughSip
  · exact kept.throughMip
  · rw [enabled]
    exact kept.compareDisabled
  · exact kept.elsewhere

end PendingOwnersKept

/-- The bits a write to `sip` keeps from the slot and those it takes from its value. -/
theorem getLsbD_mergeSip (registers : Registers) (value : Bytes8) (inside : bit < 64) :
    (mergeSip registers value).getLsbD bit =
      (pendingBit registers bit && (mieMipKeepOutsideSieSip.getLsbD bit ||
          (mipHardwareMaskBytes registers).getLsbD bit || decide (bit = seipBit)) ||
        value.getLsbD bit && (sipWritableMaskBytes registers).getLsbD bit) := by
  have line : ∀ low < 8, mipByte1Seip.getLsbD low = decide (low = 1) := by decide
  have small : bit % 8 < 8 := Nat.mod_lt _ (by decide)
  simp only [mergeSip, orBytes_eq, andBytes_eq, BitVec.getLsbD_or, BitVec.getLsbD_and, getLsbD_setByte, pendingBit]
  by_cases second : bit / 8 = 1
  · have whole : 8 * 1 + bit % 8 = bit := by omega
    have position : decide (bit % 8 = 1) = decide (bit = seipBit) := decide_eq_decide.mpr (by simp only [seipBit]; omega)
    simp only [second, if_true, inside, decide_true, Bool.true_and, getLsbD_byte, small, BitVec.getLsbD_or,
      BitVec.getLsbD_and, whole, line _ small, position]
    cases (registers.controlAndStatus Csr.mip).getLsbD bit <;> simp
  · have other : decide (bit = seipBit) = false := decide_eq_false (by simp only [seipBit]; omega)
    simp only [second, if_false, other, Bool.or_false]
    cases (registers.controlAndStatus Csr.mip).getLsbD bit <;> simp

/-- A write to `sip` changes SSIP, and STIP while the software owns it. -/
theorem mergeSip_pendingBit (value : Bytes8) (inside : bit < 64) (other : bit ≠ ssipBit)
    (timer : bit = stipBit → isSupervisorTimerCompareEnabled registers = true) :
    (mergeSip registers value).getLsbD bit = pendingBit registers bit := by
  have covered : ∀ bit < 64, bit ≠ ssipBit → bit ≠ stipBit →
      (mieMipKeepOutsideSieSip.getLsbD bit || decide (bit = seipBit)) = true ∧
        sipWritableMaskBytesWithStip.getLsbD bit = false ∧
        sipWritableMaskBytesWithoutStip.getLsbD bit = false := by decide
  rw [getLsbD_mergeSip _ _ inside]
  by_cases stip : bit = stipBit
  · have owned : (mipHardwareMaskBytes registers).getLsbD stipBit = true ∧
        (sipWritableMaskBytes registers).getLsbD stipBit = false := by
      rw [mipHardwareMaskBytes, sipWritableMaskBytes, timer stip]
      decide
    rw [stip, owned.1, owned.2]
    simp
  · obtain ⟨keeps, withStip, withoutStip⟩ := covered bit inside other stip
    have closed : (sipWritableMaskBytes registers).getLsbD bit = false := by
      rw [sipWritableMaskBytes]
      split <;> assumption
    rw [Bool.or_right_comm, keeps, closed]
    simp

/-- A write to `mip` changes SSIP, the soft SEIP, and STIP while the software owns it. -/
theorem mipWritten_pendingBit (legal : Within (registers.controlAndStatus Csr.mip) mieMaskBytes) (value : Bytes8)
    (inside : bit < 64) (software : bit ≠ ssipBit ∧ bit ≠ seipBit)
    (timer : bit = stipBit → isSupervisorTimerCompareEnabled registers = true) :
    (mipWritten registers value).getLsbD bit = pendingBit registers bit := by
  have covered : ∀ bit < 64, bit ≠ ssipBit ∧ bit ≠ seipBit → bit ≠ stipBit →
      mipWritableMaskBytesWithStip.getLsbD bit = false ∧ mipWritableMaskBytesWithoutStip.getLsbD bit = false ∧
        mipHardwareMaskBytesWithStip.getLsbD bit = mieMaskBytes.getLsbD bit ∧
        mipHardwareMaskBytesWithoutStip.getLsbD bit = mieMaskBytes.getLsbD bit := by decide
  rw [mipWritten, orBytes_eq, andBytes_eq, andBytes_eq, BitVec.getLsbD_or, BitVec.getLsbD_and, BitVec.getLsbD_and]
  by_cases stip : bit = stipBit
  · have owned : (mipHardwareMaskBytes registers).getLsbD stipBit = true ∧
        (mipWritableMaskBytes registers).getLsbD stipBit = false := by
      rw [mipHardwareMaskBytes, mipWritableMaskBytes, timer stip]
      decide
    rw [stip, owned.1, owned.2]
    simp [pendingBit]
  · obtain ⟨withStip, withoutStip, hardwareWith, hardwareWithout⟩ := covered bit inside software stip
    have closed : (mipWritableMaskBytes registers).getLsbD bit = false := by
      rw [mipWritableMaskBytes]
      split <;> assumption
    have hardware : (mipHardwareMaskBytes registers).getLsbD bit = mieMaskBytes.getLsbD bit := by
      rw [mipHardwareMaskBytes]
      split <;> assumption
    rw [closed, hardware, Bool.and_false, Bool.false_or, pendingBit]
    cases implemented : mieMaskBytes.getLsbD bit with
    | true => rw [Bool.and_true]
    | false => rw [Bool.and_false, legal.clear inside implemented]

/-- Bits from 64 on are clear. -/
theorem pendingBit_high (registers : Registers) (high : ¬ bit < 64) : pendingBit registers bit = false :=
  BitVec.getLsbD_of_ge _ _ (Nat.le_of_not_lt high)

private theorem pendingBit_setSlot (registers : Registers) (value : Bytes8) (bit : Nat) :
    pendingBit (registers.setSlot Csr.mip value) bit = value.getLsbD bit := by
  rw [pendingBit, setSlot_controlAndStatus, if_pos rfl]

private theorem stce_setMip (registers : Registers) (value : Bytes8) :
    isSupervisorTimerCompareEnabled (registers.setSlot Csr.mip value) = isSupervisorTimerCompareEnabled registers :=
  isSupervisorTimerCompareEnabled_congr (.setSlot (by decide))

theorem writeSip_owners (registers : Registers) (value : Bytes8) :
    PendingOwnersKept Csr.sip registers (writeControlAndStatusRegister registers Csr.sip value) := by
  have written : writeControlAndStatusRegister registers Csr.sip value =
      registers.setSlot Csr.mip (mergeSip registers value) := rfl
  have kept {bit : Nat} (other : bit ≠ ssipBit)
      (timer : bit = stipBit → isSupervisorTimerCompareEnabled registers = true) :
      pendingBit (registers.setSlot Csr.mip (mergeSip registers value)) bit = pendingBit registers bit := by
    by_cases inside : bit < 64
    · rw [pendingBit_setSlot, mergeSip_pendingBit value inside other timer]
    · rw [pendingBit_high _ inside, pendingBit_high _ inside]
  rw [written]
  constructor
  case hardware =>
    intro bit owned
    have apart : ∀ bit ∈ [msipBit, mtipBit, meipBit], bit ≠ ssipBit ∧ bit ≠ stipBit := by decide
    exact kept (apart bit owned).1 fun timer => absurd timer (apart bit owned).2
  case timer => exact fun enabled _ => kept (by decide) fun _ => enabled
  case throughSip =>
    intro _ bit changed
    by_contra closed
    push Not at closed
    exact changed (kept closed.1 fun timer => by simpa using closed.2 timer)
  case throughMip => exact fun same => absurd same (by decide)
  case compareDisabled => exact fun same => absurd same (by decide)
  case elsewhere => exact fun other => absurd rfl other

theorem writeMip_owners (slots : LegalSlots registers) (value : Bytes8) :
    PendingOwnersKept Csr.mip registers (writeControlAndStatusRegister registers Csr.mip value) := by
  have kept {bit : Nat} (software : bit ≠ ssipBit ∧ bit ≠ seipBit)
      (timer : bit = stipBit → isSupervisorTimerCompareEnabled registers = true) :
      pendingBit (registers.setSlot Csr.mip (mipWritten registers value)) bit = pendingBit registers bit := by
    by_cases inside : bit < 64
    · rw [pendingBit_setSlot, mipWritten_pendingBit slots.mip value inside software timer]
    · rw [pendingBit_high _ inside, pendingBit_high _ inside]
  rw [writeControlAndStatusRegister_mip]
  constructor
  case hardware =>
    intro bit owned
    have apart : ∀ bit ∈ [msipBit, mtipBit, meipBit], (bit ≠ ssipBit ∧ bit ≠ seipBit) ∧ bit ≠ stipBit := by decide
    exact kept (apart bit owned).1 fun timer => absurd timer (apart bit owned).2
  case timer => exact fun enabled _ => kept (by decide) fun _ => enabled
  case throughSip => exact fun same => absurd same (by decide)
  case throughMip =>
    intro _ bit changed
    by_contra closed
    push Not at closed
    exact changed (kept ⟨closed.1, closed.2.1⟩ fun timer => by simpa using closed.2.2 timer)
  case compareDisabled => exact fun same => absurd same (by decide)
  case elsewhere => exact fun _ other => absurd rfl other

/-- A write to `menvcfg` clears STIP exactly if it turns STCE off. -/
theorem writeMenvcfg_pending (registers : Registers) (value : Bytes8) (bit : Nat) :
    pendingBit (writeMenvcfg registers value) bit =
      if isSupervisorTimerCompareEnabled registers = true ∧
          isSupervisorTimerCompareEnabled (writeMenvcfg registers value) = false ∧ bit = stipBit then false
      else pendingBit registers bit := by
  generalize enabled : registers.setSlot Csr.menvcfg (andBytes value menvcfgWritableMaskBytes) = configured
  have mip : pendingBit configured = pendingBit registers := by
    rw [← enabled]
    rfl
  have menvcfg : writeMenvcfg registers value =
      if isSupervisorTimerCompareEnabled registers && !isSupervisorTimerCompareEnabled configured then
        configured.setSlot Csr.mip (setBits (configured.controlAndStatus Csr.mip) 0 mipByte0Stip false)
      else configured := by
    rw [← enabled]
    rfl
  have after : isSupervisorTimerCompareEnabled (writeMenvcfg registers value) =
      isSupervisorTimerCompareEnabled configured := by
    rw [menvcfg]
    split
    · exact stce_setMip configured _
    · rfl
  rw [after, menvcfg]
  split
  · rename_i dropped
    rw [Bool.and_eq_true, Bool.not_eq_true'] at dropped
    simp only [dropped.1, dropped.2, true_and, pendingBit_setSlot]
    by_cases inside : bit < 64
    · have line : ∀ bit < 64, (bit / 8 = 0 ∧ mipByte0Stip.getLsbD (bit % 8) = true) = (bit = stipBit) := by
        intro bit small
        have each : ∀ bit < 64, (bit / 8 = 0 ∧ mipByte0Stip.getLsbD (bit % 8) = true) ↔ bit = stipBit := by decide
        exact propext (each bit small)
      rw [getLsbD_setBits _ _ _ _ inside, ← mip, pendingBit]
      simp only [line bit inside]
    · have other : bit ≠ stipBit := fun same => inside (same ▸ by decide)
      rw [if_neg other, pendingBit_high _ inside, BitVec.getLsbD_of_ge _ _ (Nat.le_of_not_lt inside)]
  · rename_i held
    rw [Bool.and_eq_true, Bool.not_eq_true'] at held
    rw [mip, if_neg fun both => held ⟨both.1, both.2.1⟩]

theorem writeMenvcfg_owners (registers : Registers) (value : Bytes8) :
    PendingOwnersKept Csr.menvcfg registers (writeControlAndStatusRegister registers Csr.menvcfg value) := by
  have written : writeControlAndStatusRegister registers Csr.menvcfg value = writeMenvcfg registers value := rfl
  have kept {bit : Nat} (other : bit ≠ stipBit) :
      pendingBit (writeMenvcfg registers value) bit = pendingBit registers bit := by
    rw [writeMenvcfg_pending, if_neg fun both => other both.2.2]
  rw [written]
  constructor
  case hardware =>
    intro bit owned
    have apart : ∀ bit ∈ [msipBit, mtipBit, meipBit], bit ≠ stipBit := by decide
    exact kept (apart bit owned)
  case timer =>
    intro _ enabled
    rw [writeMenvcfg_pending, enabled, if_neg fun both => absurd both.2.1 Bool.true_eq_false.mp]
  case throughSip => exact fun same => absurd same (by decide)
  case throughMip => exact fun same => absurd same (by decide)
  case compareDisabled =>
    intro _ enabled disabled
    refine ⟨?_, fun bit other => kept other⟩
    rw [writeMenvcfg_pending, if_pos ⟨enabled, disabled, rfl⟩]
  case elsewhere => exact fun _ _ other => absurd rfl other

/-- Every CSR write respects the owners of the bits. -/
theorem writeControlAndStatusRegister_owners (slots : LegalSlots registers) (index : BitVec 12) (value : Bytes8) :
    PendingOwnersKept index registers (writeControlAndStatusRegister registers index value) := by
  by_cases sip : index = Csr.sip
  · subst sip
    exact writeSip_owners registers value
  by_cases mip : index = Csr.mip
  · subst mip
    exact writeMip_owners slots value
  by_cases menvcfg : index = Csr.menvcfg
  · subst menvcfg
    exact writeMenvcfg_owners registers value
  · have apart : Csr.mip ∉ writtenSlots index ∧ Csr.menvcfg ∉ writtenSlots index := by
      rw [writtenSlots]
      split
      · decide
      split
      · decide
      · rw [List.mem_singleton, List.mem_singleton]
        exact ⟨Ne.symm mip, Ne.symm menvcfg⟩
    exact .of_kept (writeControlAndStatusRegister_slotKept value apart.1)
      (writeControlAndStatusRegister_slotKept value apart.2)

theorem enterTrap_owners (registers : Registers) (cause : Nat) (trapValue : Bytes8) :
    PendingOwnersKept index registers (enterTrap registers cause trapValue) := by
  have entry := enterTrap_entry registers cause trapValue
  have apart (mode : Bytes8) : Csr.mip ∉ trapSlots mode ∧ Csr.menvcfg ∉ trapSlots mode := by
    rw [trapSlots]
    split <;> decide
  exact .of_kept (entry.slots _ (apart _).1) (entry.slots _ (apart _).2)

theorem csrReadWrite_owners (slots : LegalSlots registers)
    (result : (csrReadWrite registers memory writes update destination index word length).registers? = some after) :
    PendingOwnersKept index registers after := by
  rw [csrReadWrite] at result
  split at result
  · cases result
    exact enterTrap_owners _ _ _
  cases read : snapshotControlAndStatusRegister registers index memory with
  | error message =>
    rw [read] at result
    cases result
  | ok snapshot =>
    rw [read] at result
    cases result
    cases writes with
    | true =>
      refine (writeControlAndStatusRegister_owners slots index (update snapshot.1)).congr ?_
      exact writeGeneralPurposeRegister_controlAndStatus _ _
    | false =>
      refine .of_kept ?_ ?_
      · exact congrFun (writeGeneralPurposeRegister_controlAndStatus _ _) _
      · exact congrFun (writeGeneralPurposeRegister_controlAndStatus _ _) _

/-- In every reachable state a CSR instruction leaves the bits of `mip` that are not the
software's as they were. -/
theorem csrInstruction_pendingOwners (reachable : CpuReachable registers) (thunk : ExecuteThunk)
    (accesses : thunk.controlAndStatusRegister = some index)
    (result : (thunk.execute registers memory length).registers? = some after) :
    PendingOwnersKept index registers after := by
  have slots := reachable.invariant.slots
  cases thunk with
  | csrRegister function args =>
    cases accesses
    obtain ⟨writes, update, same⟩ := function.execute_eq args registers
    rw [ExecuteThunk.execute, same] at result
    exact csrReadWrite_owners slots result
  | csrImmediate function args =>
    cases accesses
    obtain ⟨writes, update, same⟩ := function.execute_eq args
    rw [ExecuteThunk.execute, same] at result
    exact csrReadWrite_owners slots result
  | _ => cases accesses

/-- With the supervisor's timer compare enabled, a write of ones to `mip` sets SSIP and SEIP only. -/
theorem csrInstruction_pendingOwners_compare : ∃ before after,
    executeAll (writeOnes [Csr.menvcfg]) createRegisters = some before ∧
    ((ExecuteThunk.csrRegister .csrrs ⟨2, 1, Csr.mip, 0⟩).execute before defaultMemory 4).registers? = some after ∧
    before.controlAndStatus Csr.menvcfg = 0x8000000000000000 ∧ after.controlAndStatus Csr.mip = 0x202 ∧
    PendingOwnersKept Csr.mip before after := by
  have shown : (executeAll (writeOnes [Csr.menvcfg]) createRegisters).any (fun before =>
      decide (before.controlAndStatus Csr.menvcfg = 0x8000000000000000) &&
        ((ExecuteThunk.csrRegister .csrrs ⟨2, 1, Csr.mip, 0⟩).execute before defaultMemory 4).registers?.any
          fun after => decide (after.controlAndStatus Csr.mip = 0x202)) = true := by decide +kernel
  obtain ⟨before, executed, holds⟩ := (Option.any_eq_true _ _).mp shown
  obtain ⟨enabled, written⟩ := Bool.and_eq_true_iff.mp holds
  obtain ⟨after, result, set⟩ := (Option.any_eq_true _ _).mp written
  exact ⟨before, after, executed, result, of_decide_eq_true enabled, of_decide_eq_true set,
    csrInstruction_pendingOwners (executeAll_reaches executed) _ rfl result⟩

end YaRiscV.Emulator
