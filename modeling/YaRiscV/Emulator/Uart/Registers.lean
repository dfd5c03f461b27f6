import YaRiscV.Library.Transition
import YaRiscV.Emulator.Plic.Gateway
import YaRiscV.Emulator.Uart.Queues

/-! `uart/registers.ts` and `uart/memory.ts`: the 16550 registers and their interrupt,
PLIC source 10. -/

namespace YaRiscV.Emulator

open YaRiscV.Library YaRiscV.Utils

def ierErbfi : BitVec 8 := 0x01
def ierEtbei : BitVec 8 := 0x02
def iirNoInterrupt : BitVec 8 := 0x01
def iirThre : BitVec 8 := 0x02
def iirRda : BitVec 8 := 0x04
def lcrDlab : BitVec 8 := 0x80

variable (memory : Memory)

def threIrqSticky : Bool :=
  memory.bytes (registerHostIndex memory threIrqStickyRegister) != 0

def setThreIrqSticky (value : Bool) : Memory :=
  memory.store (registerHostIndex memory threIrqStickyRegister) (if value then 1 else 0)

/-- Arm the sticky bit when room appears while its interrupt is enabled. -/
def armThreIrqOnRisingEdge (threBefore threAfter : Bool) : Memory :=
  if threBefore || !threAfter then memory
  else if uartRegisterByte memory 1 &&& ierEtbei ≠ 0 then setThreIrqSticky memory true
  else memory

def armThreIrqIfEnabledAndReady : Memory :=
  let ier := uartRegisterByte memory 1
  let lsr := readLineStatus memory
  if ier &&& ierEtbei ≠ 0 ∧ lsr &&& lsrThre ≠ 0 then setThreIrqSticky memory true else memory

/-- The pending interrupt of highest priority. -/
def readInterruptIdentity : BitVec 8 :=
  let ier := uartRegisterByte memory 1
  let lsr := readLineStatus memory
  if ier &&& ierErbfi ≠ 0 ∧ lsr &&& lsrDr ≠ 0 then iirRda
  else if ier &&& ierEtbei ≠ 0 ∧ threIrqSticky memory ∧ lsr &&& lsrThre ≠ 0 then iirThre
  else iirNoInterrupt

def refreshUartIrq : Memory :=
  setPlicSourcePending memory plicSourceUart (readInterruptIdentity memory != iirNoInterrupt)

/-- The keyboard side: `false` when the byte was dropped. -/
def pushUartReceive (value : BitVec 8) : Bool × Memory :=
  let (accepted, memory) := enqueueReceive memory value
  if !accepted then (false, memory) else (true, refreshUartIrq memory)

/-- The terminal side of the transmit ring. -/
def popUartTransmit : Option (BitVec 8) × Memory :=
  match dequeueTransmit memory with
  | none => (none, memory)
  | some (dequeued, memory) =>
    let memory := armThreIrqOnRisingEdge memory dequeued.threBefore dequeued.threAfter
    (some dequeued.value, refreshUartIrq memory)

def loadUartRegister (registerIndex : Nat) : BitVec 8 × Memory :=
  let dlab := uartRegisterByte memory 3 &&& lcrDlab != 0
  if registerIndex = 0 ∧ !dlab then
    let (value, memory) := popReceive memory
    (value, refreshUartIrq memory)
  else if registerIndex = 2 then
    let identity := readInterruptIdentity memory
    if identity = iirThre then (identity, refreshUartIrq (setThreIrqSticky memory false))
    else (identity, memory)
  else if registerIndex = 5 then (readLineStatus memory, memory)
  else (uartRegisterByte memory registerIndex, memory)

def storeUartRegister (registerIndex : Nat) (value : BitVec 8) : Memory :=
  let dlab := uartRegisterByte memory 3 &&& lcrDlab != 0
  if registerIndex = 0 ∧ !dlab then
    let memory := setThreIrqSticky memory false
    let (_, memory) := pushTransmit memory value
    refreshUartIrq memory
  else if registerIndex = 2 ∨ registerIndex = 5 then memory
  else
    let memory := storeUartRegisterByte memory registerIndex value
    if registerIndex = 1 ∧ !dlab then refreshUartIrq (armThreIrqIfEnabledAndReady memory) else memory

/-- One turn of the load loop. -/
def loadUartTurn (offset byteIndex : Nat) : Bytes8 × Memory → Bytes8 × Memory
  | (destination, memory) =>
    let registerIndex := offset + byteIndex
    if registerIndex < uartGuestByteLength then
      let (value, memory) := loadUartRegister memory registerIndex
      (setByte destination byteIndex value, memory)
    else (setByte destination byteIndex 0, memory)

def loadBytesFromUart (destination : Bytes8) (offset byteLength : Nat) : Bytes8 × Memory :=
  forEachIndex (loadUartTurn offset) byteLength (destination, memory)

/-- One turn of the store loop. -/
def storeUartTurn (offset : Nat) (source : Bytes8) (byteIndex : Nat) (memory : Memory) : Memory :=
  let registerIndex := offset + byteIndex
  if registerIndex < uartGuestByteLength then storeUartRegister memory registerIndex (byte source byteIndex)
  else memory

def storeBytesToUart (offset : Nat) (source : Bytes8) (byteLength : Nat) : Memory :=
  forEachIndex (storeUartTurn offset source) byteLength memory

end YaRiscV.Emulator
