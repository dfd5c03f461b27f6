import YaRiscV.Emulator.IrqLevel

/-! `uart/region.ts` and `uart/queues.ts`: the UART slab with its two rings, and the
wake word the terminal sleeps on. -/

namespace YaRiscV.Emulator

def uartGuestByteLength : Nat := 8
def uartQueueCapacity : Nat := 16

@[simp] def uartHostRegisters : Nat := 0
@[simp] def uartHostMeta : Nat := 8
@[simp] def uartHostRxData : Nat := 12
@[simp] def uartHostTxData : Nat := 28
@[simp] def uartHostTxWake : Nat := 44

def metaRxHead : Nat := 0
def metaRxTail : Nat := 1
def metaTxHead : Nat := 2
def metaTxTail : Nat := 3

def threIrqStickyRegister : Nat := 2

def lsrDr : BitVec 8 := 0x01
def lsrThre : BitVec 8 := 0x20
def lsrTemt : BitVec 8 := 0x40

variable (memory : Memory)

def uartByteIndex (offset : Nat) : Nat := memory.layout.uart.hostIndex + offset

def metaIndex (offset : Nat) : Nat := uartByteIndex memory (uartHostMeta + offset)

def registerHostIndex (registerIndex : Nat) : Nat := uartByteIndex memory (uartHostRegisters + registerIndex)

def rxDataIndex (slot : Nat) : Nat := uartByteIndex memory (uartHostRxData + slot)

def txDataIndex (slot : Nat) : Nat := uartByteIndex memory (uartHostTxData + slot)

def uartRegisterByte (registerIndex : Nat) : BitVec 8 := memory.bytes (registerHostIndex memory registerIndex)

def storeUartRegisterByte (registerIndex : Nat) (value : BitVec 8) : Memory :=
  memory.store (registerHostIndex memory registerIndex) value

/-- A ring index byte. -/
def metaByte (offset : Nat) : Nat := (memory.bytes (metaIndex memory offset)).toNat

def storeMetaByte (offset value : Nat) : Memory :=
  memory.store (metaIndex memory offset) (BitVec.ofNat 8 value)

def publishUartTransmitLevel (nonempty : Bool) : Memory :=
  publishWakeLevel memory (uartByteIndex memory uartHostTxWake) (if nonempty then 1 else 0)

def uartTransmitPending : Bool :=
  metaByte memory metaTxHead != metaByte memory metaTxTail

def queueLength (head tail : Nat) : Int :=
  ((tail : Int) - head + uartQueueCapacity).tmod uartQueueCapacity

def queueIsFull (head tail : Nat) : Bool :=
  (tail + 1) % uartQueueCapacity == head

def readLineStatus : BitVec 8 :=
  let rxHead := metaByte memory metaRxHead
  let rxTail := metaByte memory metaRxTail
  let txHead := metaByte memory metaTxHead
  let txTail := metaByte memory metaTxTail
  let lsr : BitVec 8 := 0
  let lsr := if queueLength rxHead rxTail > 0 then lsr ||| lsrDr else lsr
  let lsr := if !queueIsFull txHead txTail then lsr ||| lsrThre else lsr
  if txHead = txTail then lsr ||| lsrTemt else lsr

/-- Pop one received byte, 0 when the ring is empty. -/
def popReceive : BitVec 8 × Memory :=
  let head := metaByte memory metaRxHead
  let tail := metaByte memory metaRxTail
  if head = tail then (0, memory)
  else
    let value := memory.element (rxDataIndex memory head)
    (value, storeMetaByte memory metaRxHead ((head + 1) % uartQueueCapacity))

/-- Push one byte for the terminal; `false` when the ring is full. -/
def pushTransmit (value : BitVec 8) : Bool × Memory :=
  let head := metaByte memory metaTxHead
  let tail := metaByte memory metaTxTail
  if queueIsFull head tail then (false, memory)
  else
    let memory := memory.setElement (txDataIndex memory tail) value
    let memory := storeMetaByte memory metaTxTail ((tail + 1) % uartQueueCapacity)
    (true, publishUartTransmitLevel memory true)

def enqueueReceive (value : BitVec 8) : Bool × Memory :=
  let head := metaByte memory metaRxHead
  let tail := metaByte memory metaRxTail
  if queueIsFull head tail then (false, memory)
  else
    let memory := memory.setElement (rxDataIndex memory tail) value
    (true, storeMetaByte memory metaRxTail ((tail + 1) % uartQueueCapacity))

structure Dequeued where
  value : BitVec 8
  threBefore : Bool
  threAfter : Bool
  deriving DecidableEq, Repr

/-- Pop one byte for the terminal, with room before and after. -/
def dequeueTransmit : Option (Dequeued × Memory) :=
  let head := metaByte memory metaTxHead
  let tail := metaByte memory metaTxTail
  if head = tail then none
  else
    let threBefore := !queueIsFull head tail
    let value := memory.element (txDataIndex memory head)
    let nextHead := (head + 1) % uartQueueCapacity
    let memory := storeMetaByte memory metaTxHead nextHead
    let memory := publishUartTransmitLevel memory (nextHead != tail)
    some ({ value, threBefore, threAfter := !queueIsFull nextHead tail }, memory)

end YaRiscV.Emulator
