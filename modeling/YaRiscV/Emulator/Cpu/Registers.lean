import YaRiscV.Emulator.Clint.Memory
import YaRiscV.Emulator.Cpu.Pmp

/-! `cpu/registers.ts`: reset values, the CSR file with its views and legal values, and
the pending bits the devices drive. -/

namespace YaRiscV.Emulator

open YaRiscV.Library YaRiscV.Utils

def privilegeUser : Bytes8 := signedNumberToBytes 0 32
def privilegeSupervisor : Bytes8 := signedNumberToBytes 1 32
def privilegeHypervisor : Bytes8 := signedNumberToBytes 2 32

/-- Minimum privilege by CSR address bits 9:8. -/
def privilegeByCsrLevel : List Bytes8 :=
  [privilegeUser, privilegeSupervisor, privilegeHypervisor, privilegeMachine]

namespace Csr

@[simp] def cycle : BitVec 12 := 0xc00
@[simp] def time : BitVec 12 := 0xc01
@[simp] def instret : BitVec 12 := 0xc02
@[simp] def sstatus : BitVec 12 := 0x100
@[simp] def sie : BitVec 12 := 0x104
@[simp] def stvec : BitVec 12 := 0x105
@[simp] def scounteren : BitVec 12 := 0x106
@[simp] def sscratch : BitVec 12 := 0x140
@[simp] def sepc : BitVec 12 := 0x141
@[simp] def scause : BitVec 12 := 0x142
@[simp] def stval : BitVec 12 := 0x143
@[simp] def sip : BitVec 12 := 0x144
@[simp] def stimecmp : BitVec 12 := 0x14d
@[simp] def satp : BitVec 12 := 0x180
@[simp] def misa : BitVec 12 := 0x301
@[simp] def medeleg : BitVec 12 := 0x302
@[simp] def mideleg : BitVec 12 := 0x303
@[simp] def mie : BitVec 12 := 0x304
@[simp] def mtvec : BitVec 12 := 0x305
@[simp] def mcounteren : BitVec 12 := 0x306
@[simp] def mcountinhibit : BitVec 12 := 0x320
@[simp] def mscratch : BitVec 12 := 0x340
@[simp] def mepc : BitVec 12 := 0x341
@[simp] def mcause : BitVec 12 := 0x342
@[simp] def mtval : BitVec 12 := 0x343
@[simp] def mip : BitVec 12 := 0x344
@[simp] def menvcfg : BitVec 12 := 0x30a
@[simp] def mcycle : BitVec 12 := 0xb00
@[simp] def minstret : BitVec 12 := 0xb02
@[simp] def mvendorid : BitVec 12 := 0xf11
@[simp] def marchid : BitVec 12 := 0xf12
@[simp] def mimpid : BitVec 12 := 0xf13
@[simp] def mhartid : BitVec 12 := 0xf14

end Csr

/-- MXL = 64 and the extensions A, C, I, M, S and U. -/
def misaHardwiredBytes : Bytes8 :=
  unsignedBigIntToBytes (((2 <<< 62) ||| (1 <<< 20) ||| (1 <<< 18) ||| (1 <<< 12) ||| (1 <<< 8) |||
    (1 <<< 2) ||| (1 <<< 0) : Nat) : Int)

def sstatusMaskBytes : Bytes8 := uint8ArrayOf 0x22 0x01 0x0c 0 0x03 0 0 0
def mstatusKeepOutsideSstatus : Bytes8 := uint8ArrayOf 0xdd 0xfe 0xf3 0xff 0xfc 0xff 0xff 0xff
def mstatusByte4UxlSxlMask : BitVec 8 := 0x0f
def mstatusByte4UxlSxl64 : BitVec 8 := 0x0a
def mieMaskBytes : Bytes8 := uint8ArrayOf 0xaa 0x0a 0 0 0 0 0 0
def mipWritableMaskBytesWithStip : Bytes8 := uint8ArrayOf 0x22 0x02 0 0 0 0 0 0
def mipHardwareMaskBytesWithoutStip : Bytes8 := uint8ArrayOf 0x88 0x08 0 0 0 0 0 0
def sipWritableMaskBytesWithStip : Bytes8 := uint8ArrayOf 0x22 0 0 0 0 0 0 0
def stimecmpDisabledBytes : Bytes8 := uint8ArrayOf 0xff 0xff 0xff 0xff 0xff 0xff 0xff 0xff
def menvcfgByte7Stce : BitVec 8 := 0x80
def menvcfgWritableMaskBytes : Bytes8 := uint8ArrayOf 0 0 0 0 0 0 0 0x80
def mipWritableMaskBytesWithoutStip : Bytes8 := uint8ArrayOf 0x02 0x02 0 0 0 0 0 0
def mipHardwareMaskBytesWithStip : Bytes8 := uint8ArrayOf 0xa8 0x08 0 0 0 0 0 0
def sipWritableMaskBytesWithoutStip : Bytes8 := uint8ArrayOf 0x02 0 0 0 0 0 0 0
def counterenMaskBytes : Bytes8 := uint8ArrayOf 0x07 0 0 0 0 0 0 0
def mcountinhibitMaskBytes : Bytes8 := uint8ArrayOf 0x05 0 0 0 0 0 0 0
def counterenByte0Cy : BitVec 8 := 0x01
def counterenByte0Tm : BitVec 8 := 0x02
def counterenByte0Ir : BitVec 8 := 0x04
def xepcIalignMaskByte0 : BitVec 8 := 0xfe
def mipByte0Mtip : BitVec 8 := 0x80
def mipByte0Msip : BitVec 8 := 0x08
def mipByte0Stip : BitVec 8 := 0x20
def mipByte1Meip : BitVec 8 := 0x08
def mipByte1Seip : BitVec 8 := 0x02
def mieMipKeepOutsideSieSip : Bytes8 := uint8ArrayOf 0xdd 0xfd 0xff 0xff 0xff 0xff 0xff 0xff
def sieSipMaskBytes : Bytes8 := uint8ArrayOf 0x22 0x02 0 0 0 0 0 0
def midelegMaskBytes : Bytes8 := uint8ArrayOf 0x22 0x02 0 0 0 0 0 0
def medelegByte1EcallFromM : BitVec 8 := 0x08
def xtvecModeMask : BitVec 8 := 0x03
def xtvecModeVectored : BitVec 8 := 0x01
def mstatusByte1MppUser : BitVec 8 := 0x00
def mstatusByte1MppSupervisor : BitVec 8 := 0x08
def mstatusByte1MppReserved : BitVec 8 := 0x10
def mstatusByte2Tvm : BitVec 8 := 0x10

def registerZeroBytes : Bytes8 := 0
def registerOneBytes : Bytes8 := signedNumberToBytes 1 32
def twoBytes : Bytes8 := signedNumberToBytes 2 32
def fourBytes : Bytes8 := signedNumberToBytes 4 32

def isIdentityControlAndStatusRegister (index : BitVec 12) : Bool :=
  index == Csr.mvendorid || index == Csr.marchid || index == Csr.mimpid || index == Csr.mhartid

def isUnprivilegedCounterControlAndStatusRegister (index : BitVec 12) : Bool :=
  index == Csr.cycle || index == Csr.time || index == Csr.instret

def isImplementedControlAndStatusRegister (index : BitVec 12) : Bool :=
  index == Csr.cycle || index == Csr.time || index == Csr.instret || index == Csr.sstatus ||
  index == Csr.sie || index == Csr.stvec || index == Csr.scounteren || index == Csr.sscratch ||
  index == Csr.sepc || index == Csr.scause || index == Csr.stval || index == Csr.sip ||
  index == Csr.stimecmp || index == Csr.satp || index == Csr.mstatus || index == Csr.misa ||
  index == Csr.medeleg || index == Csr.mideleg || index == Csr.mie || index == Csr.mtvec ||
  index == Csr.mcounteren || index == Csr.mcountinhibit || index == Csr.mscratch ||
  index == Csr.mepc || index == Csr.mcause || index == Csr.mtval || index == Csr.mip ||
  index == Csr.menvcfg || index == Csr.mcycle || index == Csr.minstret ||
  isIdentityControlAndStatusRegister index || isPmpControlAndStatusRegister index

def isReadOnlyControlAndStatusRegister (index : BitVec 12) : Bool :=
  isIdentityControlAndStatusRegister index || isUnprivilegedCounterControlAndStatusRegister index

def controlAndStatusRegisterRequiredPrivilege (index : BitVec 12) : Bytes8 :=
  privilegeByCsrLevel.getD ((index >>> 8) &&& 3).toNat privilegeUser

def counterEnableBit (index : BitVec 12) : BitVec 8 :=
  if index = Csr.cycle then counterenByte0Cy
  else if index = Csr.time then counterenByte0Tm
  else counterenByte0Ir

variable (registers : Registers)

/-- Counters below M need `mcounteren`; U also needs `scounteren`. -/
def isCounterAccessEnabled (index : BitVec 12) : Bool :=
  let enableBit := counterEnableBit index
  if compareUnsignedBytes registers.privilegeMode privilegeMachine < 0 ∧
      byte (registers.controlAndStatus Csr.mcounteren) 0 &&& enableBit = 0 then false
  else if compareUnsignedBytes registers.privilegeMode privilegeUser = 0 ∧
      byte (registers.controlAndStatus Csr.scounteren) 0 &&& enableBit = 0 then false
  else true

/-- `menvcfg.STCE`: the devices own STIP. -/
def isSupervisorTimerCompareEnabled : Bool :=
  byte (registers.controlAndStatus Csr.menvcfg) 7 &&& menvcfgByte7Stce != 0

def isSatpBlockedByTvm (index : BitVec 12) : Bool :=
  index == Csr.satp && compareUnsignedBytes registers.privilegeMode privilegeSupervisor == 0 &&
    byte (registers.controlAndStatus Csr.mstatus) 2 &&& mstatusByte2Tvm != 0

/-- Whether a CSR instruction may complete. -/
def isControlAndStatusRegisterAccessAllowed (index : BitVec 12) (writes : Bool) : Bool :=
  if !isImplementedControlAndStatusRegister index then false
  else if compareUnsignedBytes registers.privilegeMode
      (controlAndStatusRegisterRequiredPrivilege index) < 0 then false
  else if index = Csr.stimecmp ∧ compareUnsignedBytes registers.privilegeMode privilegeMachine < 0 ∧
      (!isSupervisorTimerCompareEnabled registers || !isCounterAccessEnabled registers Csr.time) then false
  else if writes && isReadOnlyControlAndStatusRegister index then false
  else if isSatpBlockedByTvm registers index then false
  else if isUnprivilegedCounterControlAndStatusRegister index &&
      !isCounterAccessEnabled registers index then false
  else true

def beginInstructionRetire : Registers := { registers with retireInstruction := true }

def cancelInstructionRetire : Registers := { registers with retireInstruction := false }

/-- Advance a counter by one unless its bit of `mcountinhibit` is set. -/
def advanceCounter (inhibit enableBit : BitVec 8) (counter : BitVec 12) : Registers :=
  if inhibit &&& enableBit = 0 then
    registers.setSlot counter (addBytes (registers.controlAndStatus counter) registerOneBytes)
  else registers

/-- Count a pending retirement. -/
def commitInstructionRetire : Registers :=
  if !registers.retireInstruction then registers
  else
    let registers := cancelInstructionRetire registers
    let inhibit := byte (registers.controlAndStatus Csr.mcountinhibit) 0
    let registers := advanceCounter registers inhibit counterenByte0Cy Csr.mcycle
    advanceCounter registers inhibit counterenByte0Ir Csr.minstret

def retireInstructionNow : Registers :=
  commitInstructionRetire (beginInstructionRetire registers)

/-- The CSR file at reset. -/
def resetControlAndStatus (index : BitVec 12) : Bytes8 :=
  if index = Csr.mstatus then setByte 0 4 mstatusByte4UxlSxl64
  else if index = Csr.misa then misaHardwiredBytes
  else if index = Csr.stimecmp then stimecmpDisabledBytes
  else 0

def createRegisters : Registers where
  generalPurpose _ := 0
  programCounter := 0
  controlAndStatus := resetControlAndStatus
  privilegeMode := privilegeMachine
  plicSupervisorExternalPending := false
  publishedSupervisorTimerCompare := stimecmpDisabledBytes
  retireInstruction := false

def setPrivilegeMode (mode : Bytes8) : Registers := { registers with privilegeMode := mode }

/-- `x0` ignores writes. -/
def writeGeneralPurposeRegister (index : BitVec 5) (value : Bytes8) : Registers :=
  if index = 0 then registers
  else { registers with generalPurpose := Function.update registers.generalPurpose index value }

def readGeneralPurposeRegister (index : BitVec 5) : Bytes8 := registers.generalPurpose index

def setProgramCounter (value : Bytes8) : Registers := { registers with programCounter := value }

def advanceProgramCounter (byteLength : Bytes8) : Registers :=
  { registers with programCounter := addBytes registers.programCounter byteLength }

/-- A reserved MPP becomes U; UXL and SXL are 64. -/
def legalizeMstatus (mstatus : Bytes8) : Bytes8 :=
  let mstatus :=
    if byte mstatus 1 &&& mstatusByte1MppMask = mstatusByte1MppReserved then
      setByte mstatus 1 ((byte mstatus 1 &&& ~~~mstatusByte1MppMask) ||| mstatusByte1MppUser)
    else mstatus
  setByte mstatus 4 ((byte mstatus 4 &&& ~~~mstatusByte4UxlSxlMask) ||| mstatusByte4UxlSxl64)

def legalizeXepc (xepc : Bytes8) : Bytes8 :=
  setByte xepc 0 (byte xepc 0 &&& xepcIalignMaskByte0)

/-- Reserved MODE encodings become Direct. -/
def legalizeXtvec (xtvec : Bytes8) : Bytes8 :=
  let mode := byte xtvec 0 &&& xtvecModeMask
  if mode ≠ 0 ∧ mode ≠ xtvecModeVectored then setByte xtvec 0 (byte xtvec 0 &&& ~~~xtvecModeMask)
  else xtvec

def readMipWithPlicSeip : Bytes8 :=
  let mip := registers.controlAndStatus Csr.mip
  if registers.plicSupervisorExternalPending then setByte mip 1 (byte mip 1 ||| mipByte1Seip) else mip

/-- Every CSR but `time`, which lives in the memory. -/
def readControlAndStatusRegister (index : BitVec 12) : Bytes8 :=
  if index = Csr.cycle then registers.controlAndStatus Csr.mcycle
  else if index = Csr.instret then registers.controlAndStatus Csr.minstret
  else if index = Csr.sstatus then andBytes (registers.controlAndStatus Csr.mstatus) sstatusMaskBytes
  else if index = Csr.sie then andBytes (registers.controlAndStatus Csr.mie) sieSipMaskBytes
  else if index = Csr.sip then andBytes (readMipWithPlicSeip registers) sieSipMaskBytes
  else if index = Csr.mip then readMipWithPlicSeip registers
  else registers.controlAndStatus index

/-- Any CSR, `time` by ticking the CLINT. -/
def snapshotControlAndStatusRegister (index : BitVec 12) (memory : Memory) :
    Except String (Bytes8 × Memory) :=
  if index = Csr.time then readClintMtimeBytes memory
  else .ok (readControlAndStatusRegister registers index, memory)

def mipWritableMaskBytes : Bytes8 :=
  if isSupervisorTimerCompareEnabled registers then mipWritableMaskBytesWithoutStip
  else mipWritableMaskBytesWithStip

def mipHardwareMaskBytes : Bytes8 :=
  if isSupervisorTimerCompareEnabled registers then mipHardwareMaskBytesWithStip
  else mipHardwareMaskBytesWithoutStip

def sipWritableMaskBytes : Bytes8 :=
  if isSupervisorTimerCompareEnabled registers then sipWritableMaskBytesWithoutStip
  else sipWritableMaskBytesWithStip

/-- `sip` leaves the soft SEIP bit alone. -/
def mergeSip (value : Bytes8) : Bytes8 :=
  let mip := registers.controlAndStatus Csr.mip
  let keep := orBytes (andBytes mip mieMipKeepOutsideSieSip) (andBytes mip (mipHardwareMaskBytes registers))
  let keep := setByte keep 1 (byte keep 1 ||| (byte mip 1 &&& mipByte1Seip))
  orBytes keep (andBytes value (sipWritableMaskBytes registers))

/-- Set or clear the bits of `mask` in one byte. -/
def setBits (bytes : Bytes8) (byteIndex : Nat) (mask : BitVec 8) (value : Bool) : Bytes8 :=
  setByte bytes byteIndex (if value then byte bytes byteIndex ||| mask else byte bytes byteIndex &&& ~~~mask)

/-- Turning STCE off drops the STIP bit the devices owned. -/
def writeMenvcfg (value : Bytes8) : Registers :=
  let hadStce := isSupervisorTimerCompareEnabled registers
  let registers := registers.setSlot Csr.menvcfg (andBytes value menvcfgWritableMaskBytes)
  if hadStce && !isSupervisorTimerCompareEnabled registers then
    registers.setSlot Csr.mip (setBits (registers.controlAndStatus Csr.mip) 0 mipByte0Stip false)
  else registers

/-- Write a CSR, keeping what it holds legal; identity CSRs and counters ignore it. -/
def writeControlAndStatusRegister (index : BitVec 12) (value : Bytes8) : Registers :=
  if isIdentityControlAndStatusRegister index || isUnprivilegedCounterControlAndStatusRegister index then
    registers
  else if index = Csr.sstatus then
    let cleared := andBytes (registers.controlAndStatus Csr.mstatus) mstatusKeepOutsideSstatus
    let incoming := andBytes value sstatusMaskBytes
    registers.setSlot Csr.mstatus (legalizeMstatus (orBytes cleared incoming))
  else if index = Csr.sie then
    let cleared := andBytes (registers.controlAndStatus Csr.mie) mieMipKeepOutsideSieSip
    let incoming := andBytes value sieSipMaskBytes
    registers.setSlot Csr.mie (orBytes cleared incoming)
  else if index = Csr.sip then registers.setSlot Csr.mip (mergeSip registers value)
  else if index = Csr.mstatus then registers.setSlot Csr.mstatus (legalizeMstatus value)
  else if index = Csr.misa then registers.setSlot Csr.misa misaHardwiredBytes
  else if index = Csr.mie then registers.setSlot Csr.mie (andBytes value mieMaskBytes)
  else if index = Csr.mip then
    let writable := andBytes value (mipWritableMaskBytes registers)
    let hardware := andBytes (registers.controlAndStatus Csr.mip) (mipHardwareMaskBytes registers)
    registers.setSlot Csr.mip (orBytes writable hardware)
  else if index = Csr.menvcfg then writeMenvcfg registers value
  else if index = Csr.mideleg then registers.setSlot Csr.mideleg (andBytes value midelegMaskBytes)
  else if index = Csr.medeleg then
    registers.setSlot Csr.medeleg (setByte value 1 (byte value 1 &&& ~~~medelegByte1EcallFromM))
  else if index = Csr.mcounteren ∨ index = Csr.scounteren then
    registers.setSlot index (andBytes value counterenMaskBytes)
  else if index = Csr.mcountinhibit then
    registers.setSlot Csr.mcountinhibit (andBytes value mcountinhibitMaskBytes)
  else if index = Csr.mtvec ∨ index = Csr.stvec then registers.setSlot index (legalizeXtvec value)
  else if index = Csr.mepc ∨ index = Csr.sepc then registers.setSlot index (legalizeXepc value)
  else if isPmpCfgRegister index then
    registers.setSlot index (legalizePmpCfg (registers.controlAndStatus index) value)
  else if isPmpAddrRegister index then
    if pmpAddressWriteIgnored registers index then registers
    else registers.setSlot index (legalizePmpAddr value)
  else registers.setSlot index value

def privilegeModeFromMppBits (mppBits : BitVec 8) : Bytes8 :=
  if mppBits = mstatusByte1MppMachine then privilegeMachine
  else if mppBits = mstatusByte1MppSupervisor then privilegeSupervisor
  else privilegeUser

def mppBitsFromPrivilegeMode (mode : Bytes8) : BitVec 8 :=
  if compareUnsignedBytes mode privilegeMachine = 0 then mstatusByte1MppMachine
  else if compareUnsignedBytes mode privilegeSupervisor = 0 then mstatusByte1MppSupervisor
  else mstatusByte1MppUser

/-- Set or clear bits of one byte of the `mip` slot. -/
def setMipBits (byteIndex : Nat) (mask : BitVec 8) (pending : Bool) : Registers :=
  registers.setSlot Csr.mip (setBits (registers.controlAndStatus Csr.mip) byteIndex mask pending)

def setMachineTimerInterruptPending (pending : Bool) : Registers :=
  setMipBits registers 0 mipByte0Mtip pending

/-- Hand the hart's `stimecmp` to the CLINT when it changed. -/
def publishSupervisorTimerCompare (memory : Memory) : Registers × Memory :=
  let desired :=
    if isSupervisorTimerCompareEnabled registers then registers.controlAndStatus Csr.stimecmp
    else stimecmpDisabledBytes
  if compareUnsignedBytes registers.publishedSupervisorTimerCompare desired = 0 then (registers, memory)
  else
    ({ registers with publishedSupervisorTimerCompare := desired }, setClintStimecmpMirror memory desired)

/-- The software owns STIP while STCE is clear. -/
def setSupervisorTimerInterruptPending (pending : Bool) : Registers :=
  if !isSupervisorTimerCompareEnabled registers then registers
  else setMipBits registers 0 mipByte0Stip pending

def setMachineSoftwareInterruptPending (pending : Bool) : Registers :=
  setMipBits registers 0 mipByte0Msip pending

def setMachineExternalInterruptPending (pending : Bool) : Registers :=
  setMipBits registers 1 mipByte1Meip pending

def setSupervisorExternalInterruptPending (pending : Bool) : Registers :=
  { registers with plicSupervisorExternalPending := pending }

variable {registers}

@[simp] theorem setSlot_controlAndStatus (index other : BitVec 12) (value : Bytes8) :
    (registers.setSlot index value).controlAndStatus other =
      if other = index then value else registers.controlAndStatus other :=
  Function.update_apply _ _ _ _

@[simp] theorem setSlot_generalPurpose (index : BitVec 12) (value : Bytes8) :
    (registers.setSlot index value).generalPurpose = registers.generalPurpose := rfl

@[simp] theorem setSlot_privilegeMode (index : BitVec 12) (value : Bytes8) :
    (registers.setSlot index value).privilegeMode = registers.privilegeMode := rfl

@[simp] theorem setSlot_programCounter (index : BitVec 12) (value : Bytes8) :
    (registers.setSlot index value).programCounter = registers.programCounter := rfl

@[simp] theorem writeGeneralPurposeRegister_controlAndStatus (index : BitVec 5) (value : Bytes8) :
    (writeGeneralPurposeRegister registers index value).controlAndStatus = registers.controlAndStatus := by
  rw [writeGeneralPurposeRegister]
  split <;> rfl

@[simp] theorem writeGeneralPurposeRegister_privilegeMode (index : BitVec 5) (value : Bytes8) :
    (writeGeneralPurposeRegister registers index value).privilegeMode = registers.privilegeMode := by
  rw [writeGeneralPurposeRegister]
  split <;> rfl

@[simp] theorem writeGeneralPurposeRegister_programCounter (index : BitVec 5) (value : Bytes8) :
    (writeGeneralPurposeRegister registers index value).programCounter = registers.programCounter := by
  rw [writeGeneralPurposeRegister]
  split <;> rfl

@[simp] theorem writeGeneralPurposeRegister_zero (index : BitVec 5) (value : Bytes8) :
    (writeGeneralPurposeRegister registers index value).generalPurpose 0 = registers.generalPurpose 0 := by
  rw [writeGeneralPurposeRegister]
  split
  · rfl
  · rename_i other
    exact Function.update_of_ne (Ne.symm other) _ _

theorem getLsbD_setBits (bytes : Bytes8) (byteIndex : Nat) (mask : BitVec 8) (value : Bool) (inside : bit < 64) :
    (setBits bytes byteIndex mask value).getLsbD bit =
      if bit / 8 = byteIndex ∧ mask.getLsbD (bit % 8) = true then value else bytes.getLsbD bit := by
  have small : bit % 8 < 8 := Nat.mod_lt bit (by decide)
  have position : 8 * (bit / 8) + bit % 8 = bit := Nat.div_add_mod bit 8
  have own : (byte bytes (bit / 8)).getLsbD (bit % 8) = bytes.getLsbD bit := by
    rw [getLsbD_byte, position, decide_eq_true small, Bool.true_and]
  rw [setBits, getLsbD_setByte]
  by_cases same : bit / 8 = byteIndex
  · subst same
    rw [← own]
    cases masked : mask.getLsbD (bit % 8) <;> cases value <;>
      simp only [if_true, if_false, Bool.false_eq_true, inside, small, decide_true, Bool.true_and, BitVec.getLsbD_or,
        BitVec.getLsbD_and, BitVec.getLsbD_not, masked, Bool.or_false, Bool.or_true, Bool.and_false, Bool.and_true,
        Bool.not_true, Bool.not_false, and_self, and_false]
  · rw [if_neg same, if_neg fun both => same both.1]

/-- `after` differs from `before` in slots of the CSR file only. -/
def SlotsOnly (before after : Registers) : Prop :=
  ∃ file, after = { before with controlAndStatus := file }

theorem writeControlAndStatusRegister_slotsOnly (index : BitVec 12) (value : Bytes8) :
    SlotsOnly registers (writeControlAndStatusRegister registers index value) := by
  unfold writeControlAndStatusRegister writeMenvcfg
  repeat' refine iteInduction (fun _ => ?_) (fun _ => ?_)
  all_goals exact ⟨_, rfl⟩

@[simp] theorem writeControlAndStatusRegister_generalPurpose (index : BitVec 12) (value : Bytes8) :
    (writeControlAndStatusRegister registers index value).generalPurpose = registers.generalPurpose := by
  obtain ⟨file, same⟩ : SlotsOnly registers _ := writeControlAndStatusRegister_slotsOnly index value
  rw [same]

@[simp] theorem writeControlAndStatusRegister_privilegeMode (index : BitVec 12) (value : Bytes8) :
    (writeControlAndStatusRegister registers index value).privilegeMode = registers.privilegeMode := by
  obtain ⟨file, same⟩ : SlotsOnly registers _ := writeControlAndStatusRegister_slotsOnly index value
  rw [same]

@[simp] theorem writeControlAndStatusRegister_programCounter (index : BitVec 12) (value : Bytes8) :
    (writeControlAndStatusRegister registers index value).programCounter = registers.programCounter := by
  obtain ⟨file, same⟩ : SlotsOnly registers _ := writeControlAndStatusRegister_slotsOnly index value
  rw [same]

@[simp] theorem writeControlAndStatusRegister_pending (index : BitVec 12) (value : Bytes8) :
    (writeControlAndStatusRegister registers index value).retireInstruction = registers.retireInstruction := by
  obtain ⟨file, same⟩ : SlotsOnly registers _ := writeControlAndStatusRegister_slotsOnly index value
  rw [same]

/-- The slots of the CSR file a write to `index` can change. -/
def writtenSlots (index : BitVec 12) : List (BitVec 12) :=
  if index = Csr.sstatus then [Csr.mstatus]
  else if index = Csr.sie then [Csr.mie]
  else if index = Csr.sip then [Csr.mip]
  else if index = Csr.menvcfg then [Csr.menvcfg, Csr.mip]
  else [index]

/-- `after` holds in the slot `other` what `before` holds there. -/
def SlotKept (other : BitVec 12) (before after : Registers) : Prop :=
  after.controlAndStatus other = before.controlAndStatus other

theorem SlotKept.setSlot (apart : other ≠ index) : SlotKept other registers (registers.setSlot index value) := by
  rw [SlotKept, setSlot_controlAndStatus, if_neg apart]

/-- A CSR write leaves every slot but its own alone. -/
theorem writeControlAndStatusRegister_slotKept (value : Bytes8) (apart : other ∉ writtenSlots index) :
    SlotKept other registers (writeControlAndStatusRegister registers index value) := by
  unfold writeControlAndStatusRegister
  unfold writtenSlots at apart
  refine iteInduction (fun _ => rfl) fun _ => ?_
  refine iteInduction (fun same => .setSlot ?_) fun sstatus => ?_
  · simpa [same] using apart
  refine iteInduction (fun same => .setSlot ?_) fun sie => ?_
  · simpa [same] using apart
  refine iteInduction (fun same => .setSlot ?_) fun sip => ?_
  · simpa [same] using apart
  by_cases menvcfg : index = Csr.menvcfg
  · subst menvcfg
    have both : other ≠ Csr.menvcfg ∧ other ≠ Csr.mip := by simpa using apart
    have written : SlotKept other registers (writeMenvcfg registers value) := by
      unfold writeMenvcfg
      refine iteInduction (fun _ => ?_) fun _ => .setSlot both.1
      exact (SlotKept.setSlot both.2).trans (SlotKept.setSlot both.1)
    exact written
  rw [if_neg sstatus, if_neg sie, if_neg sip, if_neg menvcfg, List.mem_singleton] at apart
  refine iteInduction (fun same => .setSlot (same ▸ apart)) fun _ => ?_
  refine iteInduction (fun same => .setSlot (same ▸ apart)) fun _ => ?_
  refine iteInduction (fun same => .setSlot (same ▸ apart)) fun _ => ?_
  refine iteInduction (fun same => .setSlot (same ▸ apart)) fun _ => ?_
  refine iteInduction (fun same => absurd same menvcfg) fun _ => ?_
  repeat' refine iteInduction (fun same => ?_) fun _ => ?_
  all_goals first
    | exact .setSlot apart
    | exact .setSlot (same ▸ apart)
    | rfl

end YaRiscV.Emulator
