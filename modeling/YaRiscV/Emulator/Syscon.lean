import YaRiscV.Library.Transition
import YaRiscV.Emulator.Uart.Queues

/-! `syscon/region.ts`: the poweroff and reboot registers and the request word. -/

namespace YaRiscV.Emulator

open YaRiscV.Library YaRiscV.Utils

def sysconGuestByteLength : Nat := 8
def sysconPoweroffOffset : Nat := 0
def sysconRebootOffset : Nat := 4
def sysconPoweroffValue : BitVec 32 := 1
def sysconRebootValue : BitVec 32 := 1
def sysconWakeOffset : Nat := 8
def sysconRegisterBytes : Nat := 4
def sysconRegisterCount : Nat := 2
def sysconRequestIdle : BitVec 32 := 0
def sysconRequestPoweroff : BitVec 32 := 1
def sysconRequestReboot : BitVec 32 := 2

/-- The bits of one register word an access replaces, and their values. -/
structure RegisterUpdate where
  mask : BitVec 32 := 0
  value : BitVec 32 := 0
  deriving DecidableEq, Repr

/-- One turn of the loop of `registerUpdate`. -/
def registerUpdateTurn (offset : Nat) (source : Bytes8) (wordOffset byteIndex : Nat)
    (update : RegisterUpdate) : RegisterUpdate :=
  let registerOffset := offset + byteIndex
  if registerOffset < wordOffset ∨ registerOffset ≥ wordOffset + sysconRegisterBytes then update
  else if registerOffset ≥ sysconGuestByteLength then update
  else
    let shift := (registerOffset - wordOffset) * 8
    { mask := update.mask ||| ((0xff : BitVec 32) <<< shift)
      value := update.value ||| ((byte source byteIndex).setWidth 32 <<< shift) }

def registerUpdate (offset : Nat) (source : Bytes8) (byteLength wordOffset : Nat) : RegisterUpdate :=
  forEachIndex (registerUpdateTurn offset source wordOffset) byteLength {}

variable (memory : Memory)

def registerMatches (index : Nat) (value : BitVec 32) : Bool :=
  memory.load32 index == value

def publishSysconRequest : Memory :=
  let base := memory.layout.syscon.hostIndex
  let level :=
    if registerMatches memory (base + sysconPoweroffOffset) sysconPoweroffValue then sysconRequestPoweroff
    else if registerMatches memory (base + sysconRebootOffset) sysconRebootValue then sysconRequestReboot
    else sysconRequestIdle
  if level = sysconRequestIdle then memory
  else publishWakeLevel memory (base + sysconWakeOffset) level

/-- One turn of the load loop; both registers are read once, before the loop here. -/
def loadSysconTurn (offset : Nat) (words : Nat → BitVec 32) (byteIndex : Nat) (destination : Bytes8) : Bytes8 :=
  let registerOffset := offset + byteIndex
  if registerOffset ≥ sysconGuestByteLength then setByte destination byteIndex 0
  else setByte destination byteIndex (byte (words (registerOffset >>> 2)) (registerOffset &&& 3))

def loadBytesFromSyscon (destination : Bytes8) (offset byteLength : Nat) : Bytes8 :=
  let words := fun wordIndex => memory.load32 (memory.layout.syscon.hostIndex + wordIndex * sysconRegisterBytes)
  forEachIndex (loadSysconTurn offset words) byteLength destination

/-- One turn of the store loop over the two registers. -/
def storeSysconTurn (offset : Nat) (source : Bytes8) (byteLength wordIndex : Nat) (memory : Memory) : Memory :=
  let wordOffset := wordIndex * sysconRegisterBytes
  let update := registerUpdate offset source byteLength wordOffset
  if update.mask = 0 then memory
  else atomicUpdate32 memory (memory.layout.syscon.hostIndex + wordOffset) update.mask update.value

def storeBytesToSyscon (offset : Nat) (source : Bytes8) (byteLength : Nat) : Memory :=
  publishSysconRequest
    (forEachIndex (storeSysconTurn offset source byteLength) sysconRegisterCount memory)

end YaRiscV.Emulator
