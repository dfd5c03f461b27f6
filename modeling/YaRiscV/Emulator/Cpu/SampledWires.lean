import YaRiscV.Emulator.Cpu.WfiTurns
import YaRiscV.Emulator.Cpu.SoftwareExternal
import YaRiscV.Emulator.Cpu.InterruptOrder

/-! What a hart learns of the device wires by reading them, one access at a time. -/

namespace YaRiscV.Emulator

open YaRiscV.Library YaRiscV.Utils Relation

/-- `mie` lets the wire end a `wfi`; the supervisor timer's counts only while STCE is set. -/
structure WireEnabled (registers : Registers) (wire : IrqWire) : Prop where
  enabled : (registers.controlAndStatus Csr.mie).getLsbD wire.number = true
  compared : wire = .supervisorTimer → isSupervisorTimerCompareEnabled registers = true

/-- The wire's interrupt is pending, as `mip` reads. -/
def WirePending (registers : Registers) (wire : IrqWire) : Prop :=
  (readControlAndStatusRegister registers Csr.mip).getLsbD wire.number = true

/-- The registers after a wire has been read at a level. -/
def wireSampled (registers : Registers) (level : Bool) : IrqWire → Registers
  | .machineSoftware => setMachineSoftwareInterruptPending registers level
  | .supervisorTimer => setSupervisorTimerInterruptPending registers level
  | .machineTimer => setMachineTimerInterruptPending registers level
  | .supervisorExternal => setSupervisorExternalInterruptPending registers level
  | .machineExternal => setMachineExternalInterruptPending registers level

variable {registers : Registers} {level : Bool} {wire other : IrqWire}

/-- What a hart does not change by reading a wire. -/
structure SampleKept (before after : Registers) : Prop where
  mie : after.controlAndStatus Csr.mie = before.controlAndStatus Csr.mie
  enabled : isSupervisorTimerCompareEnabled after = isSupervisorTimerCompareEnabled before
  desired : publishedCompare after = publishedCompare before

theorem SampledFrom.sampleKept {after : Registers} (sampled : SampledFrom registers after) :
    SampleKept registers after := by
  have menvcfg : after.controlAndStatus Csr.menvcfg = registers.controlAndStatus Csr.menvcfg :=
    sampled.slots _ (by decide)
  have stimecmp : after.controlAndStatus Csr.stimecmp = registers.controlAndStatus Csr.stimecmp :=
    sampled.slots _ (by decide)
  have enabled : isSupervisorTimerCompareEnabled after = isSupervisorTimerCompareEnabled registers := by
    rw [isSupervisorTimerCompareEnabled, isSupervisorTimerCompareEnabled, menvcfg]
  refine ⟨sampled.slots _ (by decide), enabled, ?_⟩
  rw [publishedCompare, publishedCompare, enabled, stimecmp]

theorem SampleKept.wireEnabled {after : Registers} (kept : SampleKept registers after) :
    WireEnabled after wire ↔ WireEnabled registers wire := by
  constructor
  · intro enabled
    exact ⟨kept.mie ▸ enabled.enabled, fun timer => kept.enabled ▸ enabled.compared timer⟩
  · intro enabled
    exact ⟨kept.mie.symm ▸ enabled.enabled, fun timer => kept.enabled.symm ▸ enabled.compared timer⟩

theorem wireSampled_sampledFrom (registers : Registers) (level : Bool) (wire : IrqWire) :
    SampledFrom registers (wireSampled registers level wire) := by
  cases wire with
  | supervisorTimer => exact SampledFrom.setSupervisorTimerInterruptPending registers level
  | supervisorExternal => exact ⟨rfl, rfl, rfl, fun _ _ => rfl⟩
  | machineSoftware | machineTimer | machineExternal => exact SampledFrom.setMipBits registers _ _ level

theorem wireSampled_published : (wireSampled registers level wire).publishedSupervisorTimerCompare =
    registers.publishedSupervisorTimerCompare := by
  cases wire with
  | supervisorTimer =>
    rw [wireSampled, setSupervisorTimerInterruptPending]
    split
    · rfl
    · rfl
  | _ => rfl

theorem setMipBits_mip (byteIndex : Nat) (mask : BitVec 8) (inside : bit < 64) :
    (readMipWithPlicSeip (setMipBits registers byteIndex mask level)).getLsbD bit =
      if bit / 8 = byteIndex ∧ mask.getLsbD (bit % 8) = true then
        level || (registers.plicSupervisorExternalPending && decide (bit = seipBit))
      else (readMipWithPlicSeip registers).getLsbD bit := by
  have line : (setMipBits registers byteIndex mask level).plicSupervisorExternalPending =
      registers.plicSupervisorExternalPending := rfl
  rw [getLsbD_readMip, getLsbD_readMip, setMipBits, setSlot_controlAndStatus, if_pos rfl,
    getLsbD_setBits _ _ _ _ inside, ← setMipBits, line]
  split
  · rfl
  · rfl

/-- A wire read high is pending, if the sample counts it. -/
theorem wireSampled_pending (counts : wire = .supervisorTimer → isSupervisorTimerCompareEnabled registers = true) :
    WirePending (wireSampled registers true wire) wire := by
  have set (byteIndex : Nat) (mask : BitVec 8) (inside : wire.number < 64)
      (own : wire.number / 8 = byteIndex ∧ mask.getLsbD (wire.number % 8) = true) :
      WirePending (setMipBits registers byteIndex mask true) wire := by
    refine (setMipBits_mip byteIndex mask inside).trans ?_
    rw [if_pos own, Bool.true_or]
  cases wire with
  | machineSoftware => exact set 0 mipByte0Msip (by decide) (by decide)
  | supervisorTimer =>
    rw [wireSampled, setSupervisorTimerInterruptPending, counts rfl]
    exact set 0 mipByte0Stip (by decide) (by decide)
  | machineTimer => exact set 0 mipByte0Mtip (by decide) (by decide)
  | machineExternal => exact set 1 mipByte1Meip (by decide) (by decide)
  | supervisorExternal =>
    have read := getLsbD_readMip (setSupervisorExternalInterruptPending registers true) seipBit
    exact read.trans (Bool.or_true _)

theorem wireSampled_other (different : other ≠ wire) :
    WirePending (wireSampled registers level wire) other ↔ WirePending registers other := by
  have inside : other.number < 64 := by
    cases other <;> decide
  have kept (byteIndex : Nat) (mask : BitVec 8)
      (apart : ¬ (other.number / 8 = byteIndex ∧ mask.getLsbD (other.number % 8) = true)) :
      WirePending (setMipBits registers byteIndex mask level) other ↔ WirePending registers other := by
    refine Eq.congr ((setMipBits_mip byteIndex mask inside).trans ?_) rfl
    rw [if_neg apart]
    rfl
  cases wire with
  | machineSoftware =>
    refine kept 0 mipByte0Msip ?_
    revert different
    cases other <;> decide
  | supervisorTimer =>
    rw [wireSampled, setSupervisorTimerInterruptPending]
    split
    · rfl
    · refine kept 0 mipByte0Stip ?_
      revert different
      cases other <;> decide
  | machineTimer =>
    refine kept 0 mipByte0Mtip ?_
    revert different
    cases other <;> decide
  | machineExternal =>
    refine kept 1 mipByte1Meip ?_
    revert different
    cases other <;> decide
  | supervisorExternal =>
    refine Eq.congr ((getLsbD_readMip _ _).trans (Eq.trans ?_ (getLsbD_readMip _ _).symm)) rfl
    have apart : decide (other.number = seipBit) = false := by
      revert different
      cases other <;> decide
    rw [apart, Bool.and_false, Bool.and_false]
    rfl

theorem not_wirePending (idle : ¬ isPendingEnabledInterrupt registers = true) (enabled : WireEnabled registers wire) :
    ¬ WirePending registers wire := by
  intro pending
  refine idle (List.any_eq_true.mpr ⟨wire.number, ?_, ?_⟩)
  · cases wire <;> decide
  · rw [csrBitIsSet_eq, csrBitIsSet_eq, Bool.and_eq_true]
    exact ⟨pending, enabled.enabled⟩

/-! What an access of a pass learns and keeps. -/

/-- The CLINT has been handed the compare value the hart would publish. -/
def Published (registers : Registers) : Prop :=
  registers.publishedSupervisorTimerCompare = publishedCompare registers

namespace SamplePlace

/-- The wire the access reads. -/
def reads : SamplePlace → Option IrqWire
  | .readingMachineTimer => some .machineTimer
  | .readingMachineSoftware => some .machineSoftware
  | .readingSupervisorTimer => some .supervisorTimer
  | .readingMachineExternal => some .machineExternal
  | .readingSupervisorExternal => some .supervisorExternal
  | _ => none

/-- The wires that have been read. -/
def wiresRead : SamplePlace → List IrqWire
  | .readingMachineTimer => []
  | .readingMachineSoftware => [.machineTimer]
  | .publishing | .loadingMirror _ | .storingMirror _ | .refreshing _ | .readingSupervisorTimer =>
    [.machineSoftware, .machineTimer]
  | .readingMachineExternal => [.supervisorTimer, .machineSoftware, .machineTimer]
  | .readingSupervisorExternal => [.machineExternal, .supervisorTimer, .machineSoftware, .machineTimer]
  | .sampled => [.supervisorExternal, .machineExternal, .supervisorTimer, .machineSoftware, .machineTimer]

/-- The pass is past its publishing. -/
def past : SamplePlace → Bool
  | .readingMachineTimer | .readingMachineSoftware | .publishing => false
  | _ => true

/-- The pass moves the mirror of `stimecmp`. -/
def moves : SamplePlace → Bool
  | .loadingMirror _ | .storingMirror _ | .refreshing _ => true
  | _ => false

end SamplePlace

variable {place : SamplePlace}

theorem sampleTurn_reads (view : HartView) (reading : place.reads = some wire) :
    (sampleTurn view place).2 = (wireSampled view.1 (wire.high view.2) wire, view.2) ∧
      (sampleTurn view place).1.wiresRead = wire :: place.wiresRead := by
  cases place with
  | readingMachineTimer | readingMachineSoftware | readingSupervisorTimer | readingMachineExternal
  | readingSupervisorExternal =>
    cases reading
    exact ⟨rfl, rfl⟩
  | publishing | loadingMirror | storingMirror | refreshing | sampled => cases reading

theorem sampleTurn_sampledFrom (view : HartView) (place : SamplePlace) :
    SampledFrom view.1 (sampleTurn view place).2.1 := by
  cases reading : place.reads with
  | some wire =>
    rw [(sampleTurn_reads view reading).1]
    exact wireSampled_sampledFrom view.1 _ wire
  | none =>
    cases place with
    | publishing =>
      rw [sampleTurn]
      split
      · exact .refl view.1
      · exact ⟨rfl, rfl, rfl, fun _ _ => rfl⟩
    | refreshing place =>
      cases place with
      | _ => exact .refl view.1
    | loadingMirror | storingMirror | sampled => exact .refl view.1
    | readingMachineTimer | readingMachineSoftware | readingSupervisorTimer | readingMachineExternal
    | readingSupervisorExternal => cases reading

theorem Published.wireSampled (published : Published registers) (level : Bool) (wire : IrqWire) :
    Published (wireSampled registers level wire) := by
  rw [Published, wireSampled_published, (wireSampled_sampledFrom registers level wire).sampleKept.desired]
  exact published

theorem sampleTurn_published (view : HartView) (published : place.past = true → Published view.1)
    (past : (sampleTurn view place).1.past = true) : Published (sampleTurn view place).2.1 := by
  cases place with
  | publishing =>
    revert past
    rw [sampleTurn]
    split
    · rename_i current
      exact fun _ => (compareUnsignedBytes_eq_zero _ _).mp current
    · exact fun _ => rfl
  | refreshing place =>
    cases place with
    | _ => exact published rfl
  | loadingMirror | storingMirror | sampled => exact published rfl
  | readingMachineTimer | readingMachineSoftware => cases past
  | readingSupervisorTimer => exact Published.wireSampled (published rfl) _ .supervisorTimer
  | readingMachineExternal => exact Published.wireSampled (published rfl) _ .machineExternal
  | readingSupervisorExternal => exact Published.wireSampled (published rfl) _ .supervisorExternal

/-- A hart whose compare value stands published drives no wire while it samples. -/
theorem sampleTurn_still (view : HartView) (published : Published view.1) (still : place.moves = false) :
    (sampleTurn view place).1.moves = false ∧ (sampleTurn view place).2.2 = view.2 ∧
      Published (sampleTurn view place).2.1 := by
  have stands : Published (sampleTurn view place).2.1 := by
    cases reading : place.reads with
    | some wire =>
      rw [(sampleTurn_reads view reading).1]
      exact published.wireSampled _ wire
    | none =>
      cases place with
      | publishing =>
        rw [sampleTurn, if_pos ((compareUnsignedBytes_eq_zero _ _).mpr published)]
        exact published
      | sampled => exact published
      | loadingMirror | storingMirror | refreshing => cases still
      | readingMachineTimer | readingMachineSoftware | readingSupervisorTimer | readingMachineExternal
      | readingSupervisorExternal => cases reading
  refine ⟨?_, ?_, stands⟩
  · cases place with
    | publishing =>
      rw [sampleTurn, if_pos ((compareUnsignedBytes_eq_zero _ _).mpr published)]
      rfl
    | loadingMirror | storingMirror | refreshing => cases still
    | _ => rfl
  · cases place with
    | publishing =>
      rw [sampleTurn, if_pos ((compareUnsignedBytes_eq_zero _ _).mpr published)]
    | loadingMirror | storingMirror | refreshing => cases still
    | _ => rfl

end YaRiscV.Emulator
