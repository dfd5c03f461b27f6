import YaRiscV.Emulator.Cpu.Decode.DecodeC

/-! `cpu/run.ts` and `cpu/boot.ts`: instruction fetch and the loop of the hart. -/

namespace YaRiscV.Emulator

open YaRiscV.Library YaRiscV.Utils

variable (registers : Registers) (memory : Memory)

def bootA0 : BitVec 5 := 10
def bootA1 : BitVec 5 := 11

/-- `a0` is the hart id and `a1` the device tree, or 0. -/
def applyBootHandoff (deviceTreeAddress : Option Bytes8) : Registers :=
  let registers := writeGeneralPurposeRegister registers bootA0
    (readControlAndStatusRegister registers Csr.mhartid)
  writeGeneralPurposeRegister registers bootA1 (deviceTreeAddress.getD 0)

/-- The trap of an unmapped fetch. -/
def trapIfFetchUnmapped (address : Bytes8) (byteLength : Nat) : Option Registers :=
  if guestAccessIsMapped memory.layout.table address byteLength then none
  else some (enterTrap registers causeInstructionAccessFault address)

/-- What `fetchInstruction` returns: `true` with the bytes, or `false` with the trap entered. -/
inductive Fetch where
  | fetched (instructionBytes : Bytes8) (memory : Memory)
  | faulted (registers : Registers) (memory : Memory)
  | threw (message : String)

/-- Load four bytes at the PC, then check as many as the encoding needs. -/
def fetchInstruction : Fetch :=
  let pc := registers.programCounter
  match loadBytes memory pc 4 with
  | .error message => .threw message
  | .ok (instructionBytes, memory) =>
    let length :=
      if (byte instructionBytes 0).setWidth 32 &&& encodingLengthMask = encodingLength32Bit then 4 else 2
    if physicalMemoryAccessDenied registers pc length .fetch then
      .faulted (enterTrap registers causeInstructionAccessFault pc) memory
    else
      match trapIfFetchUnmapped registers memory pc length with
      | some registers => .faulted registers memory
      | none => .fetched instructionBytes memory

/-- Count a completed or trapped instruction. -/
def Execution.commit : Execution → Execution
  | .completed registers memory => .completed (commitInstructionRetire registers) memory
  | .trapped registers memory => .trapped (commitInstructionRetire registers) memory
  | .waiting registers memory fromLevel => .waiting registers memory fromLevel
  | .threw message => .threw message

/-- Fetch, decode and execute at the PC. -/
def stepInstruction : Execution :=
  match fetchInstruction registers memory with
  | .threw message => .threw message
  | .faulted registers memory => .trapped registers memory
  | .fetched instructionBytes memory =>
    let registers := beginInstructionRetire registers
    let (thunk, instructionByteLength) := decode instructionBytes
    (thunk.execute registers memory instructionByteLength).commit

/-- The body of the loop of `main`. -/
def runLoopTurn : Execution :=
  let (registers, memory) := sampleDevicePending registers memory
  match takeInterruptIfAny registers with
  | some registers => .trapped registers memory
  | none =>
    match trapIfInstructionAddressMisaligned registers with
    | some registers => .trapped registers memory
    | none => stepInstruction registers memory

end YaRiscV.Emulator
