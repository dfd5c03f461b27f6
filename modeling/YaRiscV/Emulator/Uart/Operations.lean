import YaRiscV.Library.Publication
import YaRiscV.Emulator.Uart.View

/-! The operations of `uart/registers.ts` and `uart/queues.ts` access by access. A load or
store of one byte and the exchange of the wake word are accesses; the locked section of
`setPlicSourcePending` is a publication. -/

namespace YaRiscV.Emulator

open YaRiscV.Library YaRiscV.Library.Operation

/-- Rings within their slots and the divisor latch unselected. -/
structure UartSteady (memory : Memory) : Prop where
  rings : (uartView memory).RingsValid
  dlab : (uartView memory).lcr &&& lcrDlab = 0

/-- Source 10: wanted while the identity is an interrupt, and shown at the PLIC's input. -/
def uartSignal : Signal Memory where
  invariant := UartSteady
  wanted memory := readInterruptIdentity memory != iirNoInterrupt
  shown := uartInputLevel
  drive level memory := setPlicSourcePending memory plicSourceUart level
  shown_drive level _ := uartInputLevel_setPlicSourcePending level
  wanted_drive level _ := by rw [readInterruptIdentity_congr (uartView_setPlicSourcePending level)]
  invariant_drive level memory steady := by
    have same : uartView (setPlicSourcePending memory plicSourceUart level) = uartView memory :=
      uartView_setPlicSourcePending level
    exact ⟨same ▸ steady.rings, same ▸ steady.dlab⟩

/-- The line status the four ring indices give. -/
def lineStatus (rxHead rxTail txHead txTail : Nat) : BitVec 8 :=
  let lsr : BitVec 8 := 0
  let lsr := if queueLength rxHead rxTail > 0 then lsr ||| lsrDr else lsr
  let lsr := if !queueIsFull txHead txTail then lsr ||| lsrThre else lsr
  if txHead = txTail then lsr ||| lsrTemt else lsr

def readLineStatusSteps : Operation Memory (BitVec 8) := do
  let rxHead ← observe (metaByte · metaRxHead)
  let rxTail ← observe (metaByte · metaRxTail)
  let txHead ← observe (metaByte · metaTxHead)
  let txTail ← observe (metaByte · metaTxTail)
  return lineStatus rxHead rxTail txHead txTail

def popReceiveSteps : Operation Memory (BitVec 8) := do
  let head ← observe (metaByte · metaRxHead)
  let tail ← observe (metaByte · metaRxTail)
  if head = tail then return 0
  else
    let value ← observe fun memory => memory.element (rxDataIndex memory head)
    modify (storeMetaByte · metaRxHead ((head + 1) % uartQueueCapacity))
    return value

def pushTransmitSteps (value : BitVec 8) : Operation Memory Bool := do
  let head ← observe (metaByte · metaTxHead)
  let tail ← observe (metaByte · metaTxTail)
  if queueIsFull head tail then return false
  else
    modify fun memory => memory.setElement (txDataIndex memory tail) value
    modify (storeMetaByte · metaTxTail ((tail + 1) % uartQueueCapacity))
    modify (publishUartTransmitLevel · true)
    return true

def enqueueReceiveSteps (value : BitVec 8) : Operation Memory Bool := do
  let head ← observe (metaByte · metaRxHead)
  let tail ← observe (metaByte · metaRxTail)
  if queueIsFull head tail then return false
  else
    modify fun memory => memory.setElement (rxDataIndex memory tail) value
    modify (storeMetaByte · metaRxTail ((tail + 1) % uartQueueCapacity))
    return true

def dequeueTransmitSteps : Operation Memory (Option Dequeued) := do
  let head ← observe (metaByte · metaTxHead)
  let tail ← observe (metaByte · metaTxTail)
  if head = tail then return none
  else
    let threBefore := !queueIsFull head tail
    let value ← observe fun memory => memory.element (txDataIndex memory head)
    let nextHead := (head + 1) % uartQueueCapacity
    modify (storeMetaByte · metaTxHead nextHead)
    modify (publishUartTransmitLevel · (nextHead != tail))
    return some { value, threBefore, threAfter := !queueIsFull nextHead tail }

def armThreIrqOnRisingEdgeSteps (threBefore threAfter : Bool) : Operation Memory Unit :=
  if threBefore || !threAfter then return ()
  else do
    let ier ← observe (uartRegisterByte · 1)
    if ier &&& ierEtbei ≠ 0 then modify (setThreIrqSticky · true) else return ()

def armThreIrqIfEnabledAndReadySteps : Operation Memory Unit := do
  let ier ← observe (uartRegisterByte · 1)
  let lsr ← readLineStatusSteps
  if ier &&& ierEtbei ≠ 0 ∧ lsr &&& lsrThre ≠ 0 then modify (setThreIrqSticky · true) else return ()

/-- The sticky bit is loaded only where ETBEI is set and no data is reported. -/
def readInterruptIdentitySteps : Operation Memory (BitVec 8) := do
  let ier ← observe (uartRegisterByte · 1)
  let lsr ← readLineStatusSteps
  if ier &&& ierErbfi ≠ 0 ∧ lsr &&& lsrDr ≠ 0 then return iirRda
  else if ier &&& ierEtbei ≠ 0 then
    let sticky ← observe threIrqSticky
    if sticky ∧ lsr &&& lsrThre ≠ 0 then return iirThre else return iirNoInterrupt
  else return iirNoInterrupt

/-- The identity is worked out before the lock is taken. -/
def refreshUartIrqSteps : Operation Memory Unit := do
  let identity ← readInterruptIdentitySteps
  announce (identity != iirNoInterrupt)

def pushUartReceiveSteps (value : BitVec 8) : Operation Memory Bool := do
  let accepted ← enqueueReceiveSteps value
  if !accepted then return false
  else
    refreshUartIrqSteps
    return true

def popUartTransmitSteps : Operation Memory (Option (BitVec 8)) := do
  match ← dequeueTransmitSteps with
  | none => return none
  | some dequeued =>
    armThreIrqOnRisingEdgeSteps dequeued.threBefore dequeued.threAfter
    refreshUartIrqSteps
    return some dequeued.value

def loadUartRegisterSteps (registerIndex : Nat) : Operation Memory (BitVec 8) := do
  let lcr ← observe (uartRegisterByte · 3)
  let dlab := lcr &&& lcrDlab != 0
  if registerIndex = 0 ∧ !dlab then
    let value ← popReceiveSteps
    refreshUartIrqSteps
    return value
  else if registerIndex = 2 then
    let identity ← readInterruptIdentitySteps
    if identity = iirThre then
      modify (setThreIrqSticky · false)
      refreshUartIrqSteps
      return identity
    else return identity
  else if registerIndex = 5 then readLineStatusSteps
  else observe (uartRegisterByte · registerIndex)

def storeUartRegisterSteps (registerIndex : Nat) (value : BitVec 8) : Operation Memory Unit := do
  let lcr ← observe (uartRegisterByte · 3)
  let dlab := lcr &&& lcrDlab != 0
  if registerIndex = 0 ∧ !dlab then
    modify (setThreIrqSticky · false)
    let _ ← pushTransmitSteps value
    refreshUartIrqSteps
  else if registerIndex = 2 ∨ registerIndex = 5 then return ()
  else
    modify (storeUartRegisterByte · registerIndex value)
    if registerIndex = 1 ∧ !dlab then
      armThreIrqIfEnabledAndReadySteps
      refreshUartIrqSteps
    else return ()

variable (memory : Memory)

/-! On its own each operation is the function. -/

theorem readLineStatusSteps_run : readLineStatusSteps.run uartSignal memory = (readLineStatus memory, memory) := rfl

theorem popReceiveSteps_run : popReceiveSteps.run uartSignal memory = popReceive memory := by
  simp only [popReceiveSteps, popReceive, run_observe_bind]
  split <;> rfl

theorem pushTransmitSteps_run (value : BitVec 8) :
    (pushTransmitSteps value).run uartSignal memory = pushTransmit memory value := by
  simp only [pushTransmitSteps, pushTransmit, run_observe_bind]
  split <;> rfl

theorem enqueueReceiveSteps_run (value : BitVec 8) :
    (enqueueReceiveSteps value).run uartSignal memory = enqueueReceive memory value := by
  simp only [enqueueReceiveSteps, enqueueReceive, run_observe_bind]
  split <;> rfl

theorem readInterruptIdentitySteps_run :
    readInterruptIdentitySteps.run uartSignal memory = (readInterruptIdentity memory, memory) := by
  rw [readInterruptIdentitySteps, run_observe_bind, run_bind (readLineStatusSteps_run memory)]
  simp only [readInterruptIdentity]
  split
  · rfl
  · by_cases enabled : uartRegisterByte memory 1 &&& ierEtbei = 0
    · simp [enabled]
    · simp only [enabled, ne_eq, not_false_eq_true, if_true, true_and, run_observe_bind]
      split <;> rfl

theorem refreshUartIrqSteps_run : refreshUartIrqSteps.run uartSignal memory = ((), refreshUartIrq memory) := by
  rw [refreshUartIrqSteps, run_bind (readInterruptIdentitySteps_run memory), run_announce]
  rfl

theorem armThreIrqIfEnabledAndReadySteps_run :
    armThreIrqIfEnabledAndReadySteps.run uartSignal memory = ((), armThreIrqIfEnabledAndReady memory) := by
  rw [armThreIrqIfEnabledAndReadySteps, run_observe_bind, run_bind (readLineStatusSteps_run memory)]
  simp only [armThreIrqIfEnabledAndReady]
  split <;> rfl

theorem armThreIrqOnRisingEdgeSteps_run (threBefore threAfter : Bool) :
    (armThreIrqOnRisingEdgeSteps threBefore threAfter).run uartSignal memory =
      ((), armThreIrqOnRisingEdge memory threBefore threAfter) := by
  simp only [armThreIrqOnRisingEdgeSteps, armThreIrqOnRisingEdge]
  split
  · rfl
  · rw [run_observe_bind]
    split <;> rfl

theorem pushUartReceiveSteps_run (value : BitVec 8) :
    (pushUartReceiveSteps value).run uartSignal memory = pushUartReceive memory value := by
  rw [pushUartReceiveSteps, run_bind (enqueueReceiveSteps_run memory value), pushUartReceive]
  dsimp only
  split
  · rfl
  · exact run_bind (refreshUartIrqSteps_run _)

theorem dequeueTransmitSteps_run : dequeueTransmitSteps.run uartSignal memory =
    match dequeueTransmit memory with
    | none => (none, memory)
    | some (dequeued, after) => (some dequeued, after) := by
  simp only [dequeueTransmitSteps, dequeueTransmit, run_observe_bind]
  by_cases empty : metaByte memory metaTxHead = metaByte memory metaTxTail
  · rw [if_pos empty, if_pos empty]
    rfl
  · rw [if_neg empty, if_neg empty]
    rfl

theorem popUartTransmitSteps_run : popUartTransmitSteps.run uartSignal memory = popUartTransmit memory := by
  have dequeued := dequeueTransmitSteps_run memory
  cases popped : dequeueTransmit memory with
  | none =>
    rw [popped] at dequeued
    simp only [popUartTransmit, popped]
    rw [popUartTransmitSteps, run_bind dequeued]
    rfl
  | some result =>
    rw [popped] at dequeued
    simp only [popUartTransmit, popped]
    rw [popUartTransmitSteps, run_bind dequeued]
    dsimp only
    rw [run_bind (armThreIrqOnRisingEdgeSteps_run _ _ _), run_bind (refreshUartIrqSteps_run _)]
    rfl

theorem loadUartRegisterSteps_run (registerIndex : Nat) :
    (loadUartRegisterSteps registerIndex).run uartSignal memory = loadUartRegister memory registerIndex := by
  rw [loadUartRegisterSteps, run_observe_bind, loadUartRegister]
  dsimp only
  split
  · rw [run_bind (popReceiveSteps_run memory), run_bind (refreshUartIrqSteps_run _)]
    rfl
  split
  · rw [run_bind (readInterruptIdentitySteps_run memory)]
    split
    · rw [run_modify_bind, run_bind (refreshUartIrqSteps_run _)]
      rfl
    · rfl
  split <;> rfl

theorem storeUartRegisterSteps_run (registerIndex : Nat) (value : BitVec 8) :
    (storeUartRegisterSteps registerIndex value).run uartSignal memory =
      ((), storeUartRegister memory registerIndex value) := by
  rw [storeUartRegisterSteps, run_observe_bind, storeUartRegister]
  dsimp only
  split
  · rw [run_modify_bind, run_bind (pushTransmitSteps_run _ value), refreshUartIrqSteps_run]
  split
  · rfl
  · rw [run_modify_bind]
    split
    · rw [run_bind (armThreIrqIfEnabledAndReadySteps_run _), refreshUartIrqSteps_run]
    · rfl

end YaRiscV.Emulator
