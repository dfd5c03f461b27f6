import YaRiscV.Emulator.Cpu.Registers

/-! `cpu/trap.ts`: trap entry and return, and the choice of an interrupt. -/

namespace YaRiscV.Emulator

open YaRiscV.Library YaRiscV.Utils

def causeInstructionAddressMisaligned : Nat := 0
def causeInstructionAccessFault : Nat := 1
def causeIllegalInstruction : Nat := 2
def causeBreakpoint : Nat := 3
def causeLoadAddressMisaligned : Nat := 4
def causeLoadAccessFault : Nat := 5
def causeStoreAmoAddressMisaligned : Nat := 6
def causeStoreAmoAccessFault : Nat := 7
def causeEcallFromU : Nat := 8
def causeEcallFromS : Nat := 9
def causeEcallFromM : Nat := 11

def causeSupervisorSoftwareInterrupt : Nat := 1
def causeMachineSoftwareInterrupt : Nat := 3
def causeSupervisorTimerInterrupt : Nat := 5
def causeMachineTimerInterrupt : Nat := 7
def causeSupervisorExternalInterrupt : Nat := 9
def causeMachineExternalInterrupt : Nat := 11

/-- Highest first. -/
def interruptPriority : List Nat :=
  [causeMachineExternalInterrupt, causeMachineSoftwareInterrupt, causeMachineTimerInterrupt,
    causeSupervisorExternalInterrupt, causeSupervisorSoftwareInterrupt, causeSupervisorTimerInterrupt]

def mstatusByte0Sie : BitVec 8 := 0x02
def mstatusByte0Mie : BitVec 8 := 0x08
def mstatusByte0Spie : BitVec 8 := 0x20
def mstatusByte0Mpie : BitVec 8 := 0x80
def mstatusByte1Spp : BitVec 8 := 0x01

def interruptCauseBit : Nat := 1 <<< 63

def exceptionCauseBytes (code : Nat) : Bytes8 :=
  signedNumberToBytes (BitVec.ofNat 32 code) 32

def interruptCauseBytes (code : Nat) : Bytes8 :=
  unsignedBigIntToBytes ((interruptCauseBit ||| code : Nat) : Int)

def csrBitIsSet (csr : Bytes8) (bit : Nat) : Bool :=
  bytesToBigInt csr &&& (1 <<< bit) != 0

variable (registers : Registers)

def ecallCauseForPrivilege : Nat :=
  if compareUnsignedBytes registers.privilegeMode privilegeUser = 0 then causeEcallFromU
  else if compareUnsignedBytes registers.privilegeMode privilegeSupervisor = 0 then causeEcallFromS
  else causeEcallFromM

/-- Outside M, `medeleg` decides. -/
def shouldDelegateExceptionToSupervisor (cause : Nat) : Bool :=
  if compareUnsignedBytes registers.privilegeMode privilegeMachine = 0 then false
  else bytesToBigInt (readControlAndStatusRegister registers Csr.medeleg) &&& (1 <<< cause) != 0

/-- MPIE takes MIE, MIE is cleared, MPP takes the privilege. -/
def applyTrapEntryToMstatus : Registers :=
  let mstatus := readControlAndStatusRegister registers Csr.mstatus
  let mieSet := byte mstatus 0 &&& mstatusByte0Mie != 0
  let mstatus := setBits mstatus 0 mstatusByte0Mpie mieSet
  let mstatus := setBits mstatus 0 mstatusByte0Mie false
  let mstatus := setByte mstatus 1
    ((byte mstatus 1 &&& ~~~mstatusByte1MppMask) ||| mppBitsFromPrivilegeMode registers.privilegeMode)
  writeControlAndStatusRegister registers Csr.mstatus mstatus

/-- SPIE takes SIE, SIE is cleared, SPP takes the privilege. -/
def applyTrapEntryToSstatus : Registers :=
  let mstatus := readControlAndStatusRegister registers Csr.mstatus
  let sieSet := byte mstatus 0 &&& mstatusByte0Sie != 0
  let mstatus := setBits mstatus 0 mstatusByte0Spie sieSet
  let mstatus := setBits mstatus 0 mstatusByte0Sie false
  let mstatus := setBits mstatus 1 mstatusByte1Spp
    (compareUnsignedBytes registers.privilegeMode privilegeSupervisor == 0)
  writeControlAndStatusRegister registers Csr.mstatus mstatus

/-- MIE takes MPIE, the privilege takes MPP; MPRV is cleared below M. -/
def applyMachineReturnToMstatus : Registers :=
  let mstatus := readControlAndStatusRegister registers Csr.mstatus
  let mpieSet := byte mstatus 0 &&& mstatusByte0Mpie != 0
  let mstatus := setBits mstatus 0 mstatusByte0Mie mpieSet
  let mstatus := setBits mstatus 0 mstatusByte0Mpie true
  let previous := privilegeModeFromMppBits (byte mstatus 1 &&& mstatusByte1MppMask)
  let mstatus := setByte mstatus 1 ((byte mstatus 1 &&& ~~~mstatusByte1MppMask) ||| mstatusByte1MppUser)
  let mstatus :=
    if compareUnsignedBytes previous privilegeMachine ≠ 0 then setBits mstatus 2 mstatusByte2Mprv false
    else mstatus
  setPrivilegeMode (writeControlAndStatusRegister registers Csr.mstatus mstatus) previous

/-- SIE takes SPIE, the privilege takes SPP; MPRV is cleared. -/
def applySupervisorReturnToSstatus : Registers :=
  let mstatus := readControlAndStatusRegister registers Csr.mstatus
  let spieSet := byte mstatus 0 &&& mstatusByte0Spie != 0
  let mstatus := setBits mstatus 0 mstatusByte0Sie spieSet
  let mstatus := setBits mstatus 0 mstatusByte0Spie true
  let previous := if byte mstatus 1 &&& mstatusByte1Spp ≠ 0 then privilegeSupervisor else privilegeUser
  let mstatus := setBits mstatus 1 mstatusByte1Spp false
  let mstatus := setBits mstatus 2 mstatusByte2Mprv false
  setPrivilegeMode (writeControlAndStatusRegister registers Csr.mstatus mstatus) previous

/-- BASE, or BASE + 4 × cause for a vectored interrupt. -/
def trapHandlerProgramCounter (xtvec cause : Bytes8) : Bytes8 :=
  let mode := byte xtvec 0 &&& xtvecModeMask
  let handler := setByte xtvec 0 (byte xtvec 0 &&& ~~~xtvecModeMask)
  let causeValue := bytesToBigInt cause
  let isInterrupt := causeValue &&& interruptCauseBit != 0
  if mode = xtvecModeVectored ∧ isInterrupt then
    let causeCode := causeValue &&& 0xff
    addBytes handler (signedNumberToBytes (BitVec.ofNat 32 (causeCode * 4)) 32)
  else handler

def enterMachineTrap (cause trapValue : Bytes8) : Registers :=
  let registers := writeControlAndStatusRegister registers Csr.mepc registers.programCounter
  let registers := writeControlAndStatusRegister registers Csr.mcause cause
  let registers := writeControlAndStatusRegister registers Csr.mtval trapValue
  let registers := applyTrapEntryToMstatus registers
  let registers := setPrivilegeMode registers privilegeMachine
  setProgramCounter registers
    (trapHandlerProgramCounter (readControlAndStatusRegister registers Csr.mtvec) cause)

def enterSupervisorTrap (cause trapValue : Bytes8) : Registers :=
  let registers := writeControlAndStatusRegister registers Csr.sepc registers.programCounter
  let registers := writeControlAndStatusRegister registers Csr.scause cause
  let registers := writeControlAndStatusRegister registers Csr.stval trapValue
  let registers := applyTrapEntryToSstatus registers
  let registers := setPrivilegeMode registers privilegeSupervisor
  setProgramCounter registers
    (trapHandlerProgramCounter (readControlAndStatusRegister registers Csr.stvec) cause)

/-- Enter a synchronous exception trap; the instruction does not retire. -/
def enterTrap (cause : Nat) (trapValue : Bytes8) : Registers :=
  let registers := cancelInstructionRetire registers
  let causeBytes := exceptionCauseBytes cause
  if shouldDelegateExceptionToSupervisor registers cause then
    enterSupervisorTrap registers causeBytes trapValue
  else enterMachineTrap registers causeBytes trapValue

/-- The trap of an odd PC, if it is odd. -/
def trapIfInstructionAddressMisaligned : Option Registers :=
  let pc := registers.programCounter
  if byte pc 0 &&& 0x01 = 0 then none
  else some (enterTrap registers causeInstructionAddressMisaligned pc)

structure TakeableInterrupt where
  code : Nat
  toSupervisor : Bool
  deriving DecidableEq, Repr

structure InterruptGateContext where
  inMachine : Bool
  inSupervisor : Bool
  mieGlobal : Bool
  sieGlobal : Bool

def supervisorInterruptIsGloballyEnabled (ctx : InterruptGateContext) : Bool :=
  if ctx.inMachine then false
  else if ctx.inSupervisor then ctx.sieGlobal
  else true

def machineInterruptIsGloballyEnabled (ctx : InterruptGateContext) : Bool :=
  !ctx.inMachine || ctx.mieGlobal

/-- One turn of the selection loop: `none` goes on to the next code. -/
def considerInterrupt (mip mie mideleg : Bytes8) (ctx : InterruptGateContext) (code : Nat) :
    Option TakeableInterrupt :=
  if !csrBitIsSet mip code || !csrBitIsSet mie code then none
  else if csrBitIsSet mideleg code then
    if !supervisorInterruptIsGloballyEnabled ctx then none else some ⟨code, true⟩
  else if !machineInterruptIsGloballyEnabled ctx then none
  else some ⟨code, false⟩

def selectTakeableInterrupt : Option TakeableInterrupt :=
  let mip := readControlAndStatusRegister registers Csr.mip
  let mie := readControlAndStatusRegister registers Csr.mie
  let mideleg := readControlAndStatusRegister registers Csr.mideleg
  let mstatus := readControlAndStatusRegister registers Csr.mstatus
  let ctx : InterruptGateContext := {
    inMachine := compareUnsignedBytes registers.privilegeMode privilegeMachine == 0
    inSupervisor := compareUnsignedBytes registers.privilegeMode privilegeSupervisor == 0
    mieGlobal := byte mstatus 0 &&& mstatusByte0Mie != 0
    sieGlobal := byte mstatus 0 &&& mstatusByte0Sie != 0 }
  interruptPriority.findSome? (considerInterrupt mip mie mideleg ctx)

/-- Pending and enabled, whatever `mstatus` says: enough to end `wfi`. -/
def isPendingEnabledInterrupt : Bool :=
  let mip := readControlAndStatusRegister registers Csr.mip
  let mie := readControlAndStatusRegister registers Csr.mie
  interruptPriority.any fun code => csrBitIsSet mip code && csrBitIsSet mie code

/-- The trap of the interrupt to take, if there is one. -/
def takeInterruptIfAny : Option Registers :=
  (selectTakeableInterrupt registers).map fun takeable =>
    let cause := interruptCauseBytes takeable.code
    let trapValue := signedNumberToBytes 0 32
    if takeable.toSupervisor then enterSupervisorTrap registers cause trapValue
    else enterMachineTrap registers cause trapValue

def returnFromMachineTrap : Registers :=
  let registers := applyMachineReturnToMstatus registers
  setProgramCounter registers (readControlAndStatusRegister registers Csr.mepc)

def returnFromSupervisorTrap : Registers :=
  let registers := applySupervisorReturnToSstatus registers
  setProgramCounter registers (readControlAndStatusRegister registers Csr.sepc)

/-- Zero-extend an encoding for `mtval` and `stval`. -/
def instructionWordTrapValue (instructionWord : BitVec 32) : Bytes8 :=
  unsignedNumberToBytes instructionWord

end YaRiscV.Emulator
