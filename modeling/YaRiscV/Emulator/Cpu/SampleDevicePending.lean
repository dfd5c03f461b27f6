import YaRiscV.Emulator.Plic.Gateway
import YaRiscV.Emulator.Cpu.Registers

/-! `cpu/sample-device-pending.ts`. -/

namespace YaRiscV.Emulator

/-- Sample the CLINT and PLIC wires into the hart. -/
def sampleDevicePending (registers : Registers) (memory : Memory) : Registers × Memory :=
  let registers := setMachineTimerInterruptPending registers (isClintMachineTimerPending memory)
  let registers := setMachineSoftwareInterruptPending registers (isClintMachineSoftwarePending memory)
  let (registers, memory) := publishSupervisorTimerCompare registers memory
  let registers := setSupervisorTimerInterruptPending registers (isClintSupervisorTimerPending memory)
  let registers := setMachineExternalInterruptPending registers (isPlicMachineExternalPending memory)
  (setSupervisorExternalInterruptPending registers (isPlicSupervisorExternalPending memory), memory)

/-- `after` differs from `before` in the `mip` slot and the host-only flags. -/
structure SampledFrom (before after : Registers) : Prop where
  generalPurpose : after.generalPurpose = before.generalPurpose
  programCounter : after.programCounter = before.programCounter
  privilegeMode : after.privilegeMode = before.privilegeMode
  slots : ∀ other ≠ Csr.mip, SlotKept other before after

namespace SampledFrom

theorem refl (registers : Registers) : SampledFrom registers registers :=
  ⟨rfl, rfl, rfl, fun _ _ => rfl⟩

theorem trans (first : SampledFrom before middle) (second : SampledFrom middle after) :
    SampledFrom before after where
  generalPurpose := second.generalPurpose.trans first.generalPurpose
  programCounter := second.programCounter.trans first.programCounter
  privilegeMode := second.privilegeMode.trans first.privilegeMode
  slots other apart := (second.slots other apart).trans (first.slots other apart)

theorem setMipBits (registers : Registers) (byteIndex : Nat) (mask : BitVec 8) (pending : Bool) :
    SampledFrom registers (setMipBits registers byteIndex mask pending) :=
  ⟨rfl, rfl, rfl, fun _ apart => .setSlot apart⟩

theorem setSupervisorTimerInterruptPending (registers : Registers) (pending : Bool) :
    SampledFrom registers (setSupervisorTimerInterruptPending registers pending) := by
  rw [Emulator.setSupervisorTimerInterruptPending]
  split
  · exact refl registers
  · exact setMipBits _ _ _ _

theorem publishSupervisorTimerCompare (registers : Registers) (memory : Memory) :
    SampledFrom registers (publishSupervisorTimerCompare registers memory).1 := by
  unfold Emulator.publishSupervisorTimerCompare
  generalize (if isSupervisorTimerCompareEnabled registers then registers.controlAndStatus Csr.stimecmp
    else stimecmpDisabledBytes) = desired
  dsimp only
  split
  · exact refl registers
  · exact ⟨rfl, rfl, rfl, fun _ _ => rfl⟩

end SampledFrom

theorem sampleDevicePending_sampledFrom (registers : Registers) (memory : Memory) :
    SampledFrom registers (sampleDevicePending registers memory).1 := by
  have machine := (SampledFrom.setMipBits registers 0 mipByte0Mtip (isClintMachineTimerPending memory)).trans
    (SampledFrom.setMipBits _ 0 mipByte0Msip (isClintMachineSoftwarePending memory))
  have published := machine.trans (SampledFrom.publishSupervisorTimerCompare _ memory)
  have supervisor := published.trans
    (SampledFrom.setSupervisorTimerInterruptPending _ (isClintSupervisorTimerPending
      (publishSupervisorTimerCompare (setMachineSoftwareInterruptPending
        (setMachineTimerInterruptPending registers (isClintMachineTimerPending memory))
        (isClintMachineSoftwarePending memory)) memory).2))
  have external := supervisor.trans (SampledFrom.setMipBits _ 1 mipByte1Meip (isPlicMachineExternalPending
    (publishSupervisorTimerCompare (setMachineSoftwareInterruptPending
      (setMachineTimerInterruptPending registers (isClintMachineTimerPending memory))
      (isClintMachineSoftwarePending memory)) memory).2))
  exact ⟨external.generalPurpose, external.programCounter, external.privilegeMode, external.slots⟩

end YaRiscV.Emulator
