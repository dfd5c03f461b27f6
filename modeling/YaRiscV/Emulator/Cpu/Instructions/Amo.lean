import YaRiscV.Emulator.Guest
import YaRiscV.Emulator.Cpu.Instructions.Integer

/-! `cpu/instructions/amo.ts`: load-reserved, store-conditional and the atomic memory
operations. -/

namespace YaRiscV.Emulator

open YaRiscV.Library YaRiscV.Utils

structure AmoArgs where
  destinationRegister : BitVec 5
  sourceRegister1 : BitVec 5
  sourceRegister2 : BitVec 5

def zeroBytes : Bytes8 := 0
def oneBytes : Bytes8 := signedNumberToBytes 1 32

def isNaturallyAligned (address : Bytes8) (byteLength : AtomicWidth) : Bool :=
  bytesToBigInt address &&& (byteLength.byteLength - 1) == 0

/-- The side of a fault: `'load' | 'store'`. -/
inductive AtomicAccess where
  | load
  | store
  deriving DecidableEq, Repr

variable (registers : Registers) (memory : Memory)

/-- The hart's slot in the reservation monitor. -/
def hartIdOf : Nat :=
  (bytesToNumber (readControlAndStatusRegister registers Csr.mhartid)).toNat

def trapIfAtomicMisaligned (address : Bytes8) (byteLength : AtomicWidth) (access : AtomicAccess) :
    Option Registers :=
  if isNaturallyAligned address byteLength then none
  else
    some (enterTrap registers
      (if access = .load then causeLoadAddressMisaligned else causeStoreAmoAddressMisaligned) address)

def trapIfPmpDeniesAtomic (address : Bytes8) (byteLength : Nat) (access : PmpAccess) : Option Registers :=
  if !physicalMemoryAccessDenied registers address byteLength access then none
  else
    some (enterTrap registers
      (if access = .load then causeLoadAccessFault else causeStoreAmoAccessFault) address)

def trapAtomicAccessFault (address : Bytes8) (access : AtomicAccess) : Registers :=
  enterTrap registers (if access = .load then causeLoadAccessFault else causeStoreAmoAccessFault) address

/-- The locked section of `lrW` and `lrD`: load and reserve. -/
def loadAndReserve (address : Bytes8) (byteLength : AtomicWidth) : Option Bytes8 × Memory :=
  withMonitorLock memory fun memory =>
    match atomicLoadBytes memory address byteLength with
    | none => (none, memory)
    | some oldValue =>
      (some oldValue, setReservationLocked memory (hartIdOf registers) address byteLength.byteLength)

/-- The shape of `lrW` and `lrD`. -/
def loadReserved (byteLength : AtomicWidth) (extend : Bytes8 → Bytes8) (args : AmoArgs)
    (instructionByteLength : Bytes8) : Execution :=
  let address := readGeneralPurposeRegister registers args.sourceRegister1
  match trapIfAtomicMisaligned registers address byteLength .load with
  | some registers => .trapped registers memory
  | none =>
    match trapIfPmpDeniesAtomic registers address byteLength.byteLength .load with
    | some registers => .trapped registers memory
    | none =>
      match loadAndReserve registers memory address byteLength with
      | (none, memory) => .trapped (trapAtomicAccessFault registers address .load) memory
      | (some oldValue, memory) =>
        completeWith registers memory args.destinationRegister (extend oldValue) instructionByteLength

def lrW := loadReserved registers memory .word fun oldValue => signExtendBytes oldValue 4
def lrD := loadReserved registers memory .doubleword fun oldValue => oldValue

/-- The shape of `scW` and `scD`: fault before the reservation is taken. -/
def storeConditional (byteLength : AtomicWidth) (args : AmoArgs) (instructionByteLength : Bytes8) : Execution :=
  let address := readGeneralPurposeRegister registers args.sourceRegister1
  match trapIfAtomicMisaligned registers address byteLength .store with
  | some registers => .trapped registers memory
  | none =>
    match trapIfPmpDeniesAtomic registers address byteLength.byteLength .store with
    | some registers => .trapped registers memory
    | none =>
      match atomicLoadBytes memory address byteLength with
      | none => .trapped (trapAtomicAccessFault registers address .store) memory
      | some _ =>
        let (success, memory) := tryTakeReservation memory (hartIdOf registers) address byteLength.byteLength
        let memory :=
          if success then
            (atomicStoreBytes memory address (readGeneralPurposeRegister registers args.sourceRegister2)
              byteLength).2
          else memory
        let memory := releaseScMonitorIfHeld memory
        completeWith registers memory args.destinationRegister (if success then zeroBytes else oneBytes)
          instructionByteLength

def scW := storeConditional registers memory .word
def scD := storeConditional registers memory .doubleword

abbrev AmoCombine := Bytes8 → Bytes8 → AtomicWidth → Bytes8

/-- The compare-exchange loop: the value replaced, and the memory. -/
def amoLoop (combine : AmoCombine) (address source : Bytes8) (byteLength : AtomicWidth) :
    Nat → Bytes8 → Memory → Bytes8 × Memory
  | 0, oldValue, memory => (oldValue, memory)
  | fuel + 1, oldValue, memory =>
    let next := combine oldValue source byteLength
    match atomicCompareExchangeBytes memory 0 address byteLength oldValue next with
    | (true, _, memory) => (oldValue, memory)
    | (false, observed, memory) => amoLoop combine address source byteLength fuel observed memory

/-- Load, combine and exchange; one turn of the loop suffices, as the exchange of a whole
instruction cannot fail. -/
def amoReadModifyWrite (args : AmoArgs) (byteLength : AtomicWidth) (combine : AmoCombine)
    (instructionByteLength : Bytes8) : Execution :=
  let address := readGeneralPurposeRegister registers args.sourceRegister1
  match trapIfAtomicMisaligned registers address byteLength .store with
  | some registers => .trapped registers memory
  | none =>
    match trapIfPmpDeniesAtomic registers address byteLength.byteLength .amo with
    | some registers => .trapped registers memory
    | none =>
      let source := readGeneralPurposeRegister registers args.sourceRegister2
      match atomicLoadBytes memory address byteLength with
      | none => .trapped (trapAtomicAccessFault registers address .store) memory
      | some oldValue =>
        let (oldValue, memory) := amoLoop combine address source byteLength 1 oldValue memory
        let oldValue := if byteLength = .word then signExtendBytes oldValue 4 else oldValue
        completeWith registers memory args.destinationRegister oldValue instructionByteLength

/-- Operands of a signed operation, sign-extended from a word. -/
def asSignedOperands (oldValue source : Bytes8) : AtomicWidth → Bytes8 × Bytes8
  | .word => (signExtendBytes oldValue 4, signExtendBytes source 4)
  | .doubleword => (oldValue, source)

def asUnsignedOperands (oldValue source : Bytes8) : AtomicWidth → Bytes8 × Bytes8
  | .word => (zeroExtendBytes oldValue 4, zeroExtendBytes source 4)
  | .doubleword => (oldValue, source)

def narrowStoreValue (value : Bytes8) : AtomicWidth → Bytes8
  | .word => low32Bytes value
  | .doubleword => value

/-- An operation on sign-extended operands. -/
def signedCombine (operation : Bytes8 → Bytes8 → Bytes8) : AmoCombine :=
  fun oldValue source width =>
    let (left, right) := asSignedOperands oldValue source width
    narrowStoreValue (operation left right) width

def unsignedCombine (operation : Bytes8 → Bytes8 → Bytes8) : AmoCombine :=
  fun oldValue source width =>
    let (left, right) := asUnsignedOperands oldValue source width
    narrowStoreValue (operation left right) width

variable (args : AmoArgs) (byteLength : AtomicWidth)

def amoswap := amoReadModifyWrite registers memory args byteLength fun _ source _ => source
def amoadd := amoReadModifyWrite registers memory args byteLength (signedCombine addBytes)
def amoxor := amoReadModifyWrite registers memory args byteLength (signedCombine xorBytes)
def amoand := amoReadModifyWrite registers memory args byteLength (signedCombine andBytes)
def amoor := amoReadModifyWrite registers memory args byteLength (signedCombine orBytes)
def amomin := amoReadModifyWrite registers memory args byteLength
  (signedCombine fun left right => if compareSignedBytes left right ≤ 0 then left else right)
def amomax := amoReadModifyWrite registers memory args byteLength
  (signedCombine fun left right => if compareSignedBytes left right ≥ 0 then left else right)
def amominu := amoReadModifyWrite registers memory args byteLength
  (unsignedCombine fun left right => if compareUnsignedBytes left right ≤ 0 then left else right)
def amomaxu := amoReadModifyWrite registers memory args byteLength
  (unsignedCombine fun left right => if compareUnsignedBytes left right ≥ 0 then left else right)

end YaRiscV.Emulator
