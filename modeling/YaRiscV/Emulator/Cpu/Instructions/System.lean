import YaRiscV.Emulator.Cpu.Instructions.Integer
import YaRiscV.Emulator.Cpu.SampleDevicePending

/-! `cpu/instructions/system.ts`: environment calls, trap returns, `wfi` and the CSR
instructions. -/

namespace YaRiscV.Emulator

open YaRiscV.Library YaRiscV.Utils

structure CsrRegisterArgs where
  destinationRegister : BitVec 5
  sourceRegister1 : BitVec 5
  controlAndStatusRegister : BitVec 12
  instructionWord : BitVec 32

structure CsrImmediateArgs where
  destinationRegister : BitVec 5
  immediate : Bytes8
  controlAndStatusRegister : BitVec 12
  instructionWord : BitVec 32

def allOnesBytes : Bytes8 := uint8ArrayOf 0xff 0xff 0xff 0xff 0xff 0xff 0xff 0xff
def mretInstructionWord : BitVec 32 := 0x30200073
def sretInstructionWord : BitVec 32 := 0x10200073
def wfiInstructionWord : BitVec 32 := 0x10500073
def mstatusByte2Tw : BitVec 8 := 0x20
def mstatusByte2Tsr : BitVec 8 := 0x40

variable (registers : Registers) (memory : Memory)

def trapIllegalCsrAccess (instructionWord : BitVec 32) : Registers :=
  enterTrap registers causeIllegalInstruction (instructionWordTrapValue instructionWord)

/-- `ecall` retires before it traps. -/
def ecall : Execution :=
  let registers := retireInstructionNow registers
  .trapped (enterTrap registers (ecallCauseForPrivilege registers) (signedNumberToBytes 0 32)) memory

def ebreak : Execution :=
  let registers := retireInstructionNow registers
  .trapped (enterTrap registers causeBreakpoint (signedNumberToBytes 0 32)) memory

def mret : Execution :=
  if compareUnsignedBytes registers.privilegeMode privilegeMachine ≠ 0 then
    .trapped (enterTrap registers causeIllegalInstruction (instructionWordTrapValue mretInstructionWord)) memory
  else .completed (returnFromMachineTrap registers) memory

def sret : Execution :=
  let mstatus := readControlAndStatusRegister registers Csr.mstatus
  if compareUnsignedBytes registers.privilegeMode privilegeSupervisor < 0 then
    .trapped (enterTrap registers causeIllegalInstruction (instructionWordTrapValue sretInstructionWord)) memory
  else if compareUnsignedBytes registers.privilegeMode privilegeSupervisor = 0 ∧
      byte mstatus 2 &&& mstatusByte2Tsr ≠ 0 then
    .trapped (enterTrap registers causeIllegalInstruction (instructionWordTrapValue sretInstructionWord)) memory
  else .completed (returnFromSupervisorTrap registers) memory

/-- A no-op where it is legal: page walks are not cached. -/
def sfenceVma (instructionWord : BitVec 32) (instructionByteLength : Bytes8) : Execution :=
  let mstatus := readControlAndStatusRegister registers Csr.mstatus
  if compareUnsignedBytes registers.privilegeMode privilegeSupervisor < 0 then
    .trapped (enterTrap registers causeIllegalInstruction (instructionWordTrapValue instructionWord)) memory
  else if compareUnsignedBytes registers.privilegeMode privilegeSupervisor = 0 ∧
      byte mstatus 2 &&& mstatusByte2Tvm ≠ 0 then
    .trapped (enterTrap registers causeIllegalInstruction (instructionWordTrapValue instructionWord)) memory
  else .completed (advanceProgramCounter registers instructionByteLength) memory

/-- One turn of the loop of `wfi`: it ends, or waits for the level to change and turns again. -/
def wfiTurn : Execution :=
  let (registers, memory) := sampleDevicePending registers memory
  if isPendingEnabledInterrupt registers then .completed registers memory
  else
    let fromLevel := loadIrqLevel memory
    let (registers, memory) := sampleDevicePending registers memory
    if isPendingEnabledInterrupt registers then .completed registers memory
    else .waiting registers memory fromLevel

def wfi (instructionByteLength : Bytes8) : Execution :=
  let mstatus := readControlAndStatusRegister registers Csr.mstatus
  if compareUnsignedBytes registers.privilegeMode privilegeMachine < 0 ∧
      byte mstatus 2 &&& mstatusByte2Tw ≠ 0 then
    .trapped (enterTrap registers causeIllegalInstruction (instructionWordTrapValue wfiInstructionWord)) memory
  else
    let registers := advanceProgramCounter registers instructionByteLength
    wfiTurn (retireInstructionNow registers) memory

/-- The shape of the CSR instructions: read, write `update previous` if `writes`, then `rd`. -/
def csrReadWrite (writes : Bool) (update : Bytes8 → Bytes8) (destinationRegister : BitVec 5)
    (controlAndStatusRegister : BitVec 12) (instructionWord : BitVec 32)
    (instructionByteLength : Bytes8) : Execution :=
  if !isControlAndStatusRegisterAccessAllowed registers controlAndStatusRegister writes then
    .trapped (trapIllegalCsrAccess registers instructionWord) memory
  else
    .ofExcept (snapshotControlAndStatusRegister registers controlAndStatusRegister memory)
      fun (previous, memory) =>
        let registers :=
          if writes then writeControlAndStatusRegister registers controlAndStatusRegister (update previous)
          else registers
        completeWith registers memory destinationRegister previous instructionByteLength

def csrrw (args : CsrRegisterArgs) (instructionByteLength : Bytes8) : Execution :=
  csrReadWrite registers memory true
    (fun _ => readGeneralPurposeRegister registers args.sourceRegister1)
    args.destinationRegister args.controlAndStatusRegister args.instructionWord instructionByteLength

def csrrs (args : CsrRegisterArgs) (instructionByteLength : Bytes8) : Execution :=
  csrReadWrite registers memory (args.sourceRegister1 != 0)
    (fun previous => orBytes previous (readGeneralPurposeRegister registers args.sourceRegister1))
    args.destinationRegister args.controlAndStatusRegister args.instructionWord instructionByteLength

def csrrc (args : CsrRegisterArgs) (instructionByteLength : Bytes8) : Execution :=
  csrReadWrite registers memory (args.sourceRegister1 != 0)
    (fun previous => andBytes previous
      (xorBytes (readGeneralPurposeRegister registers args.sourceRegister1) allOnesBytes))
    args.destinationRegister args.controlAndStatusRegister args.instructionWord instructionByteLength

def csrrwi (args : CsrImmediateArgs) (instructionByteLength : Bytes8) : Execution :=
  csrReadWrite registers memory true (fun _ => args.immediate)
    args.destinationRegister args.controlAndStatusRegister args.instructionWord instructionByteLength

def csrrsi (args : CsrImmediateArgs) (instructionByteLength : Bytes8) : Execution :=
  csrReadWrite registers memory (!isZeroBytes args.immediate)
    (fun previous => orBytes previous args.immediate)
    args.destinationRegister args.controlAndStatusRegister args.instructionWord instructionByteLength

def csrrci (args : CsrImmediateArgs) (instructionByteLength : Bytes8) : Execution :=
  csrReadWrite registers memory (!isZeroBytes args.immediate)
    (fun previous => andBytes previous (xorBytes args.immediate allOnesBytes))
    args.destinationRegister args.controlAndStatusRegister args.instructionWord instructionByteLength

end YaRiscV.Emulator
