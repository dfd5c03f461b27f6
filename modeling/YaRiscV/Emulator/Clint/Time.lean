import YaRiscV.Library.Transition
import YaRiscV.Emulator.IrqLevel

/-! `clint/layout.ts`, `clint/wires.ts` and `clint/time.ts`: the free-running time base.
An access to a CLINT whose frequency was never set throws. -/

namespace YaRiscV.Emulator

open YaRiscV.Library YaRiscV.Utils

def clintMsipOffset : Int := 0x0
def clintMtimecmpOffset : Int := 0x4000
def clintMtimeOffset : Int := 0xbff8
def clintMsipSize : Int := 4
def clintRegisterSize : Nat := 8

@[simp] def clintHostMtimeUint64Index : Nat := 0
@[simp] def clintHostMtimecmpUint64Index : Nat := 1
@[simp] def clintHostEpochNsUint64Index : Nat := 3
@[simp] def clintHostTimebaseHzUint64Index : Nat := 4
@[simp] def clintHostStimecmpUint64Index : Nat := 5
@[simp] def clintHostMachineTimerWireOffset : Nat := 16
@[simp] def clintHostMachineSoftwareWireOffset : Nat := 17
@[simp] def clintHostSupervisorTimerWireOffset : Nat := 18

inductive ClintTimeRegister where
  | mtime
  | mtimecmp
  deriving DecidableEq, Repr

inductive ClintRegister where
  | msip
  | time (register : ClintTimeRegister)
  deriving DecidableEq, Repr

def clintByteIndex (memory : Memory) (offset : Nat) : Nat :=
  memory.layout.clint.hostIndex + offset

/-- Host index of an element of `clintHostUint64s`. -/
def clintHostUint64 (memory : Memory) (element : Nat) : Nat :=
  memory.layout.clint.hostIndex + element * 8

/-- Decode a guest offset within the window; holes give `none`. -/
def clintOffsetToRegister (offset : Int) : Option (ClintRegister × Nat) :=
  if offset ≥ clintMsipOffset ∧ offset < clintMsipOffset + clintMsipSize then
    some (.msip, (offset - clintMsipOffset).toNat)
  else if offset ≥ clintMtimeOffset ∧ offset < clintMtimeOffset + clintRegisterSize then
    some (.time .mtime, (offset - clintMtimeOffset).toNat)
  else if offset ≥ clintMtimecmpOffset ∧ offset < clintMtimecmpOffset + clintRegisterSize then
    some (.time .mtimecmp, (offset - clintMtimecmpOffset).toNat)
  else none

variable (memory : Memory)

def setClintIrqWire (wireOffset : Nat) (pending : Bool) (levelBit : BitVec 32) : Memory :=
  setIrqWire memory (clintByteIndex memory wireOffset) pending levelBit

def setClintMachineTimerWire (pending : Bool) : Memory :=
  setClintIrqWire memory clintHostMachineTimerWireOffset pending irqLevelMtip

def isClintMachineTimerPending : Bool :=
  memory.bytes (clintByteIndex memory clintHostMachineTimerWireOffset) != 0

def setClintSupervisorTimerWire (pending : Bool) : Memory :=
  setClintIrqWire memory clintHostSupervisorTimerWireOffset pending irqLevelStip

def isClintSupervisorTimerPending : Bool :=
  memory.bytes (clintByteIndex memory clintHostSupervisorTimerWireOffset) != 0

def setClintMachineSoftwareWire (pending : Bool) : Memory :=
  setClintIrqWire memory clintHostMachineSoftwareWireOffset pending irqLevelMsip

def isClintMachineSoftwarePending : Bool :=
  memory.bytes (clintByteIndex memory clintHostMachineSoftwareWireOffset) != 0

def nsPerSecond : Nat := 1000000000
def timebaseHzMax : Nat := 0xffffffff
def timerWireUpdateAttempts : Nat := 4

def timeRegisterUint64Index : ClintTimeRegister → Nat
  | .mtime => clintHostMtimeUint64Index
  | .mtimecmp => clintHostMtimecmpUint64Index

def readTimeRegister (register : ClintTimeRegister) : BitVec 64 :=
  memory.load64 (clintHostUint64 memory (timeRegisterUint64Index register))

def writeTimeRegister (register : ClintTimeRegister) (value : Int) : Memory :=
  memory.store64 (clintHostUint64 memory (timeRegisterUint64Index register)) (BitVec.ofInt 64 value)

def compareExchangeTimeRegister (register : ClintTimeRegister) (expected desired : BitVec 64) :
    BitVec 64 × Memory :=
  memory.compareExchange64 (clintHostUint64 memory (timeRegisterUint64Index register)) expected desired

/-- Keep the low 64 bits of the epoch. -/
def writeEpochNs (value : Int) : Memory :=
  memory.store64 (clintHostUint64 memory clintHostEpochNsUint64Index) (BitVec.ofInt 64 value)

def readEpochNs : BitVec 64 :=
  memory.load64 (clintHostUint64 memory clintHostEpochNsUint64Index)

def readTimebaseHz : BitVec 64 :=
  memory.load64 (clintHostUint64 memory clintHostTimebaseHzUint64Index)

def readStimecmpMirror : BitVec 64 :=
  memory.load64 (clintHostUint64 memory clintHostStimecmpUint64Index)

def writeStimecmpMirror (value : BitVec 64) : Memory :=
  memory.store64 (clintHostUint64 memory clintHostStimecmpUint64Index) value

def setClintTimebaseHz (timebaseHz : Int) : Except String Memory :=
  if timebaseHz < 1 ∨ timebaseHz > timebaseHzMax then
    .error "CLINT timebase frequency must be an integer from 1 through 2^32-1."
  else
    .ok (memory.store64 (clintHostUint64 memory clintHostTimebaseHzUint64Index) (BitVec.ofInt 64 timebaseHz))

def timebaseHz : Except String Nat :=
  let hz := (readTimebaseHz memory).toNat
  if hz = 0 then .error "CLINT timebase frequency is not set." else .ok hz

def updateTimerWiresLoop : Nat → Memory → Memory
  | 0, memory => memory
  | attempts + 1, memory =>
    let mtime := readTimeRegister memory .mtime
    let mtimecmp := readTimeRegister memory .mtimecmp
    let stimecmp := readStimecmpMirror memory
    let memory := setClintMachineTimerWire memory (decide (mtime ≥ mtimecmp))
    let memory := setClintSupervisorTimerWire memory (decide (mtime ≥ stimecmp))
    if readTimeRegister memory .mtime = mtime ∧ readTimeRegister memory .mtimecmp = mtimecmp ∧
        readStimecmpMirror memory = stimecmp then memory
    else updateTimerWiresLoop attempts memory

/-- Derive both timer wires, again while an input moved. -/
def updateTimerWiresFromCompare : Memory :=
  updateTimerWiresLoop timerWireUpdateAttempts memory

/-- Publish the hart's `stimecmp`. -/
def setClintStimecmpMirror (value : Bytes8) : Memory :=
  if value = readStimecmpMirror memory then memory
  else updateTimerWiresFromCompare (writeStimecmpMirror memory value)

/-- Reseat the epoch so that `tickClint` reproduces `mtime`. -/
def reseatEpochForMtime (mtime : Nat) : Except String Memory :=
  let (now, memory) := memory.readHostClock
  (timebaseHz memory).map fun hz =>
    writeEpochNs memory ((now : Int) - ((mtime : Int) * nsPerSecond).tdiv hz)

def tickClintLoop : Nat → Memory → Except String Memory
  | 0, memory => .ok memory
  | fuel + 1, memory =>
    let epochNs := readEpochNs memory
    let (now, memory) := memory.readHostClock
    let elapsedNs : Int := now - epochNs.toNat
    (timebaseHz memory).bind fun hz =>
      let ticks := BitVec.ofInt 64 ((elapsedNs * hz).tdiv nsPerSecond)
      let previous := readTimeRegister memory .mtime
      let (found, memory) := compareExchangeTimeRegister memory .mtime previous ticks
      if found ≠ previous then tickClintLoop fuel memory
      else if readEpochNs memory ≠ epochNs then tickClintLoop fuel memory
      else .ok (updateTimerWiresFromCompare memory)

/-- Advance `mtime` from the host clock and refresh both timer wires. -/
def tickClint : Except String Memory :=
  tickClintLoop 1 memory

def resetClintTimebase : Memory :=
  let memory := writeTimeRegister memory .mtime 0
  let memory := writeTimeRegister memory .mtimecmp 0xffffffffffffffff
  let memory := writeStimecmpMirror memory 0xffffffffffffffff
  let (now, memory) := memory.readHostClock
  updateTimerWiresFromCompare (writeEpochNs memory now)

/-- Load bytes of a time register into `destination`. -/
def loadClintTimeBytes (register : ClintTimeRegister) (byteOffset : Nat) (destination : Bytes8)
    (byteLength : Nat) : Except String (Bytes8 × Memory) :=
  (if register = .mtime then tickClint memory else .ok memory).map fun memory =>
    let value := readTimeRegister memory register
    (forEachIndex (fun byteIndex destination =>
      setByte destination byteIndex (byte value (byteOffset + byteIndex))) byteLength destination, memory)

/-- The value a store of `byteLength` bytes at `byteOffset` leaves in a time register. -/
def mergeTimeBytes (previous : BitVec 64) (byteOffset : Nat) (source : Bytes8) (byteLength : Nat) : BitVec 64 :=
  if byteLength = 8 ∧ byteOffset = 0 then source
  else forEachIndex (fun byteIndex next =>
    setByte next (byteOffset + byteIndex) (byte source byteIndex)) byteLength previous

def storeClintTimeBytesLoop (register : ClintTimeRegister) (byteOffset : Nat) (source : Bytes8)
    (byteLength : Nat) : Nat → Memory → Except String Memory
  | 0, memory => .ok memory
  | fuel + 1, memory =>
    let previous := readTimeRegister memory register
    let next := mergeTimeBytes previous byteOffset source byteLength
    let (found, memory) := compareExchangeTimeRegister memory register previous next
    if found ≠ previous then storeClintTimeBytesLoop register byteOffset source byteLength fuel memory
    else
      (if register = .mtime then reseatEpochForMtime memory next.toNat else .ok memory).map
        updateTimerWiresFromCompare

/-- Store bytes of a time register; a store to `mtime` reseats the epoch. -/
def storeClintTimeBytes (register : ClintTimeRegister) (byteOffset : Nat) (source : Bytes8)
    (byteLength : Nat) : Except String Memory :=
  storeClintTimeBytesLoop register byteOffset source byteLength 1 memory

def loadClintTimeRegisterByte (register : ClintTimeRegister) (byteOffset : Nat) :
    Except String (BitVec 8 × Memory) :=
  (if register = .mtime then tickClint memory else .ok memory).map fun memory =>
    (byte (readTimeRegister memory register) byteOffset, memory)

def storeClintTimeRegisterByte (register : ClintTimeRegister) (byteOffset : Nat) (value : BitVec 8) :
    Except String Memory :=
  storeClintTimeBytes memory register byteOffset (uint8ArrayOf value 0 0 0 0 0 0 0) 1

/-- `mtime` as the `time` CSR reads it. -/
def readClintMtimeBytes : Except String (Bytes8 × Memory) :=
  (tickClint memory).map fun memory =>
    (unsignedBigIntToBytes (readTimeRegister memory .mtime).toNat, memory)

/-- Set the frequency, reset the time base and lower the three wires. -/
def initializeClint (timebaseHz : Int) : Except String Memory :=
  (setClintTimebaseHz memory timebaseHz).map fun memory =>
    let memory := resetClintTimebase memory
    let memory := setClintMachineTimerWire memory false
    let memory := setClintMachineSoftwareWire memory false
    setClintSupervisorTimerWire memory false

end YaRiscV.Emulator
