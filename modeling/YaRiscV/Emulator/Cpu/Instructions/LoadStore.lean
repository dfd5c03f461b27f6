import YaRiscV.Emulator.Guest
import YaRiscV.Emulator.Cpu.Instructions.Integer

/-! `cpu/instructions/load.ts` and `store.ts`: scalar loads and stores, checked against
the memory map and the PMP first. -/

namespace YaRiscV.Emulator

open YaRiscV.Library YaRiscV.Utils

structure LoadArgs where
  destinationRegister : BitVec 5
  sourceRegister1 : BitVec 5
  immediate : Bytes8

structure StoreArgs where
  sourceRegister1 : BitVec 5
  sourceRegister2 : BitVec 5
  immediate : Bytes8

variable (registers : Registers) (memory : Memory)

def loadEffectiveAddress (args : LoadArgs) : Bytes8 :=
  addBytes (readGeneralPurposeRegister registers args.sourceRegister1) args.immediate

def storeEffectiveAddress (args : StoreArgs) : Bytes8 :=
  addBytes (readGeneralPurposeRegister registers args.sourceRegister1) args.immediate

/-- The trap of a denied load: unmapped, or refused by the PMP. -/
def denyLoad (address : Bytes8) (byteLength : Nat) : Option Registers :=
  if !guestAccessIsMapped memory.layout.table address byteLength then
    some (enterTrap registers causeLoadAccessFault address)
  else if !physicalMemoryAccessDenied registers address byteLength .load then none
  else some (enterTrap registers causeLoadAccessFault address)

/-- The trap of a denied store. -/
def denyStore (address : Bytes8) (byteLength : Nat) : Option Registers :=
  if !guestAccessIsMapped memory.layout.table address byteLength then
    some (enterTrap registers causeStoreAmoAccessFault address)
  else if !physicalMemoryAccessDenied registers address byteLength .store then none
  else some (enterTrap registers causeStoreAmoAccessFault address)

/-- The shape of the loads: `rd = extend(mem[rs1 + imm])`. -/
def loadRegister (byteLength : Nat) (extend : Bytes8 → Bytes8) (args : LoadArgs)
    (instructionByteLength : Bytes8) : Execution :=
  let address := loadEffectiveAddress registers args
  match denyLoad registers memory address byteLength with
  | some registers => .trapped registers memory
  | none => .ofExcept (loadBytes memory address byteLength) fun (loaded, memory) =>
      completeWith registers memory args.destinationRegister (extend loaded) instructionByteLength

def lb := loadRegister registers memory 1 fun loaded => signExtendBytes loaded 1
def lh := loadRegister registers memory 2 fun loaded => signExtendBytes loaded 2
def lw := loadRegister registers memory 4 fun loaded => signExtendBytes loaded 4
def ld := loadRegister registers memory 8 fun loaded => loaded
def lbu := loadRegister registers memory 1 fun loaded => zeroExtendBytes loaded 1
def lhu := loadRegister registers memory 2 fun loaded => zeroExtendBytes loaded 2
def lwu := loadRegister registers memory 4 fun loaded => zeroExtendBytes loaded 4

/-- The shape of the stores: `mem[rs1 + imm] = rs2`. -/
def storeRegister (byteLength : Nat) (args : StoreArgs) (instructionByteLength : Bytes8) : Execution :=
  let address := storeEffectiveAddress registers args
  match denyStore registers memory address byteLength with
  | some registers => .trapped registers memory
  | none =>
    .ofExcept (storeBytes memory address (readGeneralPurposeRegister registers args.sourceRegister2)
      byteLength) fun memory => .completed (advanceProgramCounter registers instructionByteLength) memory

def sb := storeRegister registers memory 1
def sh := storeRegister registers memory 2
def sw := storeRegister registers memory 4
def sd := storeRegister registers memory 8

end YaRiscV.Emulator
