import YaRiscV.Emulator.Clint.Time

/-! `clint/memory.ts`: guest accesses to the CLINT window. -/

namespace YaRiscV.Emulator

open YaRiscV.Library YaRiscV.Utils

/-- The time register a transfer lies entirely inside, if any. -/
def isClintTimeRegisterTransfer (offset : Int) (byteLength : Nat) : Option (ClintTimeRegister × Nat) :=
  if byteLength ≤ 0 then none
  else
    match clintOffsetToRegister offset with
    | some (.time register, byteOffset) =>
      if byteOffset + byteLength > clintRegisterSize then none
      else
        match clintOffsetToRegister (offset + ((byteLength - 1 : Nat) : Int)) with
        | some (.time last, _) => if last = register then some (register, byteOffset) else none
        | _ => none
    | _ => none

def loadClintByte (memory : Memory) (register : ClintRegister) (byteOffset : Nat) :
    Except String (BitVec 8 × Memory) :=
  match register with
  | .msip => .ok (if byteOffset = 0 ∧ isClintMachineSoftwarePending memory then 1 else 0, memory)
  | .time register => loadClintTimeRegisterByte memory register byteOffset

def storeClintByte (memory : Memory) (register : ClintRegister) (byteOffset : Nat) (value : BitVec 8) :
    Except String Memory :=
  match register with
  | .msip =>
    .ok (if byteOffset = 0 then setClintMachineSoftwareWire memory (value &&& 1 != 0) else memory)
  | .time register => storeClintTimeRegisterByte memory register byteOffset value

/-- One turn of the load loop. -/
def loadClintTurn (offset : Int) (byteIndex : Nat) (state : Except String (Bytes8 × Memory)) :
    Except String (Bytes8 × Memory) :=
  state.bind fun (destination, memory) =>
    match clintOffsetToRegister (offset + byteIndex) with
    | none => .ok (setByte destination byteIndex 0, memory)
    | some (register, byteOffset) =>
      (loadClintByte memory register byteOffset).map fun (value, memory) =>
        (setByte destination byteIndex value, memory)

def loadBytesFromClint (destination : Bytes8) (memory : Memory) (offset : Int) (byteLength : Nat) :
    Except String (Bytes8 × Memory) :=
  match isClintTimeRegisterTransfer offset byteLength with
  | some (register, byteOffset) => loadClintTimeBytes memory register byteOffset destination byteLength
  | none => forEachIndex (loadClintTurn offset) byteLength (.ok (destination, memory))

/-- One turn of the store loop. -/
def storeClintTurn (offset : Int) (source : Bytes8) (byteIndex : Nat) (state : Except String Memory) :
    Except String Memory :=
  state.bind fun memory =>
    match clintOffsetToRegister (offset + byteIndex) with
    | none => .ok memory
    | some (register, byteOffset) => storeClintByte memory register byteOffset (byte source byteIndex)

def storeBytesToClint (memory : Memory) (offset : Int) (source : Bytes8) (byteLength : Nat) :
    Except String Memory :=
  match isClintTimeRegisterTransfer offset byteLength with
  | some (register, byteOffset) => storeClintTimeBytes memory register byteOffset source byteLength
  | none => forEachIndex (storeClintTurn offset source) byteLength (.ok memory)

end YaRiscV.Emulator
