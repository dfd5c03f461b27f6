import YaRiscV.Utils.Bytes
import YaRiscV.Utils.Ranges
import Mathlib.Logic.Function.Basic

/-! `cpu/types.ts` and `cpu/pmp.ts`: the register file, and Physical Memory Protection
over its 16 entries. -/

namespace YaRiscV.Emulator

open YaRiscV.Library YaRiscV.Utils

/-- The architectural state of the hart and its host-only flags. -/
@[ext] structure Registers where
  generalPurpose : BitVec 5 → Bytes8
  programCounter : Bytes8
  controlAndStatus : BitVec 12 → Bytes8
  privilegeMode : Bytes8
  plicSupervisorExternalPending : Bool
  publishedSupervisorTimerCompare : Bytes8
  retireInstruction : Bool

/-- Copy a value into a slot of the CSR file. -/
def Registers.setSlot (registers : Registers) (index : BitVec 12) (value : Bytes8) : Registers :=
  { registers with controlAndStatus := Function.update registers.controlAndStatus index value }

@[simp] def Csr.pmpcfg0 : BitVec 12 := 0x3a0
@[simp] def Csr.pmpcfg2 : BitVec 12 := 0x3a2
@[simp] def Csr.pmpaddr0 : BitVec 12 := 0x3b0
@[simp] def Csr.mstatus : BitVec 12 := 0x300

def pmpEntryCount : Nat := 16

def pmpCfgR : BitVec 8 := 0x01
def pmpCfgW : BitVec 8 := 0x02
def pmpCfgX : BitVec 8 := 0x04
def pmpCfgAMask : BitVec 8 := 0x18
def pmpCfgAOff : BitVec 8 := 0x00
def pmpCfgATor : BitVec 8 := 0x08
def pmpCfgANa4 : BitVec 8 := 0x10
def pmpCfgANapot : BitVec 8 := 0x18
def pmpCfgReserved : BitVec 8 := 0x60
def pmpCfgLock : BitVec 8 := 0x80

def mstatusByte2Mprv : BitVec 8 := 0x02
def mstatusByte1MppMask : BitVec 8 := 0x18
def mstatusByte1MppMachine : BitVec 8 := 0x18
def privilegeMachine : Bytes8 := signedNumberToBytes 3 32
def pmpaddrValueMask : Nat := (1 <<< 54) - 1

inductive PmpAccess where
  | load
  | store
  | amo
  | fetch
  deriving DecidableEq, Repr

def isPmpCfgRegister (index : BitVec 12) : Bool :=
  index == Csr.pmpcfg0 || index == Csr.pmpcfg2

def isPmpAddrRegister (index : BitVec 12) : Bool :=
  decide (index ≥ Csr.pmpaddr0) && decide (index.toNat < Csr.pmpaddr0.toNat + pmpEntryCount)

def isPmpControlAndStatusRegister (index : BitVec 12) : Bool :=
  isPmpCfgRegister index || isPmpAddrRegister index

/-- Drop reserved bits; W without R does not stick. -/
def legalizePmpCfgByte (incoming : BitVec 8) : BitVec 8 :=
  let next := incoming &&& ~~~pmpCfgReserved
  if next &&& pmpCfgW ≠ 0 ∧ next &&& pmpCfgR = 0 then next &&& ~~~pmpCfgW else next

/-- Merge a `pmpcfg` write; a locked byte stays. -/
def legalizePmpCfg (previous incoming : Bytes8) : Bytes8 :=
  ofBytes (fun byteIndex =>
    let prior := byte previous byteIndex
    if prior &&& pmpCfgLock ≠ 0 then prior else legalizePmpCfgByte (byte incoming byteIndex)) 8

variable (registers : Registers)

def configByte (entry : Nat) : BitVec 8 :=
  byte (registers.controlAndStatus (if entry < 8 then Csr.pmpcfg0 else Csr.pmpcfg2)) (entry &&& 7)

/-- A locked entry ignores writes of its address, and so does the entry below a locked TOR. -/
def pmpAddressWriteIgnored (index : BitVec 12) : Bool :=
  let entry := index.toNat - Csr.pmpaddr0.toNat
  if configByte registers entry &&& pmpCfgLock ≠ 0 then true
  else if entry + 1 ≥ pmpEntryCount then false
  else
    let next := configByte registers (entry + 1)
    next &&& pmpCfgLock != 0 && next &&& pmpCfgAMask == pmpCfgATor

/-- Keep the 54 implemented address bits. -/
def legalizePmpAddr (value : Bytes8) : Bytes8 :=
  unsignedBigIntToBytes ((bytesToBigInt value &&& pmpaddrValueMask : Nat) : Int)

def readPmpAddress (entry : Nat) : Nat :=
  bytesToBigInt (registers.controlAndStatus (Csr.pmpaddr0 + BitVec.ofNat 12 entry))

/-- The low ones of `bits`, counted up to `limit`. -/
def trailingOnesUpTo : (limit bits : Nat) → Nat
  | 0, _ => 0
  | limit + 1, bits => if bits &&& 1 = 1 then trailingOnesUpTo limit (bits >>> 1) + 1 else 0

def trailingOnes (value : Nat) : Nat :=
  trailingOnesUpTo 64 value

structure PmpRange where
  low : Nat
  high : Nat
  deriving DecidableEq, Repr

/-- Half-open byte range of an entry; OFF and an empty TOR match nothing. -/
def entryRange (entry : Nat) : Option PmpRange :=
  let mode := configByte registers entry &&& pmpCfgAMask
  if mode = pmpCfgAOff then none
  else
    let highBits := readPmpAddress registers entry
    if mode = pmpCfgATor then
      let low := if entry = 0 then 0 else readPmpAddress registers (entry - 1) <<< 2
      let high := highBits <<< 2
      if low < high then some ⟨low, high⟩ else none
    else if mode = pmpCfgANa4 then some ⟨highBits <<< 2, (highBits <<< 2) + 4⟩
    else if mode ≠ pmpCfgANapot then none
    else
      let ones := trailingOnes highBits
      if ones ≥ 64 then some ⟨0, 1 <<< 64⟩
      else
        let encoded := (1 <<< (ones + 1)) - 1
        let low := andNot highBits encoded <<< 2
        some ⟨low, low + (1 <<< (ones + 3))⟩

def permissionGranted (config : BitVec 8) (access : PmpAccess) : Bool :=
  let read := config &&& pmpCfgR != 0
  let write := config &&& pmpCfgW != 0
  let execute := config &&& pmpCfgX != 0
  match access with
  | .load => read
  | .store => write
  | .fetch => execute
  | .amo => read && write

/-- Whether an access is checked as M-mode; a fetch ignores `mstatus.MPRV`. -/
def accessIsMachine (access : PmpAccess) : Bool :=
  let mstatus := registers.controlAndStatus Csr.mstatus
  if access ≠ .fetch ∧ byte mstatus 2 &&& mstatusByte2Mprv ≠ 0 then
    byte mstatus 1 &&& mstatusByte1MppMask == mstatusByte1MppMachine
  else compareUnsignedBytes registers.privilegeMode privilegeMachine == 0

/-- One turn of the entry loop: `none` goes on to the next entry. -/
def entryDenies (start stop : Nat) (machine : Bool) (access : PmpAccess) (entry : Nat) : Option Bool :=
  match entryRange registers entry with
  | none => none
  | some range =>
    if stop ≤ range.low ∨ start ≥ range.high then none
    else if start < range.low ∨ stop > range.high then some true
    else
      let config := configByte registers entry
      if machine ∧ config &&& pmpCfgLock = 0 then some false
      else some (!permissionGranted config access)

/-- Whether `[address, address + byteLength)` is forbidden: the lowest entry that
overlaps it must cover it and grant the access. -/
def physicalMemoryAccessDenied (address : Bytes8) (byteLength : Nat) (access : PmpAccess) : Bool :=
  let start := bytesToBigInt address
  let stop := start + byteLength
  let machine := accessIsMachine registers access
  ((List.range pmpEntryCount).findSome? (entryDenies registers start stop machine access)).getD (!machine)

end YaRiscV.Emulator
