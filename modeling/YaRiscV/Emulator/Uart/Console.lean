import YaRiscV.Library.Transition
import YaRiscV.Emulator.Uart.Queues

/-! `pushTransmit` on the hart against `drainTransmitRing` and `waitUartTransmit` on the
terminal, `terminal/run.ts`: every load, store, exchange, compare and notify is a step of
its own. -/

namespace YaRiscV.Emulator

open YaRiscV.Library

/-- The access the hart makes next in `pushTransmit`, with the locals it still needs. -/
inductive PushPhase where
  | outside
  | loadingHead (value : BitVec 8)
  | loadingTail (value : BitVec 8) (head : Nat)
  | storingData (value : BitVec 8) (tail : Nat)
  | storingTail (tail : Nat)
  | exchanging
  | notifying
  deriving DecidableEq, Repr

/-- The access the terminal makes next: `dequeueTransmit` until it gives null, then
`waitUartTransmit` with its two checks around the snapshot of the level. -/
inductive PumpPhase where
  | poppingHead
  | poppingTail (head : Nat)
  | readingValue (head tail : Nat)
  | storingHead (head tail : Nat) (value : BitVec 8)
  | exchanging (dequeued : Dequeued) (nonempty : Bool)
  | notifying (dequeued : Dequeued)
  | popped (dequeued : Dequeued)
  | checkingHead
  | checkingTail (head : Nat)
  | loadingLevel
  | recheckingHead (fromLevel : BitVec 32)
  | recheckingTail (fromLevel : BitVec 32) (head : Nat)
  | comparing (fromLevel : BitVec 32)
  | parked (fromLevel : BitVec 32)
  | woken
  deriving DecidableEq, Repr

variable (memory : Memory)

def txHead : Nat := metaByte memory metaTxHead

def txTail : Nat := metaByte memory metaTxTail

def txWakeLevel : BitVec 32 := memory.load32 (uartByteIndex memory uartHostTxWake)

/-- One access of `pushTransmit`. -/
def pushTurn : PushPhase → PushPhase × Memory
  | .outside => (.outside, memory)
  | .loadingHead value => (.loadingTail value (txHead memory), memory)
  | .loadingTail value head =>
    if queueIsFull head (txTail memory) then (.outside, memory) else (.storingData value (txTail memory), memory)
  | .storingData value tail => (.storingTail tail, memory.setElement (txDataIndex memory tail) value)
  | .storingTail tail => (.exchanging, storeMetaByte memory metaTxTail ((tail + 1) % uartQueueCapacity))
  | .exchanging =>
    (if txWakeLevel memory ≠ 1 then .notifying else .outside, publishUartTransmitLevel memory true)
  | .notifying => (.outside, memory)

/-- One access of the terminal. After `popped` it arms THRE, refreshes its interrupt and
writes the byte out, which touches neither the ring nor its level. -/
def pumpTurn : PumpPhase → PumpPhase × Memory
  | .poppingHead => (.poppingTail (txHead memory), memory)
  | .poppingTail head =>
    if head = txTail memory then (.checkingHead, memory) else (.readingValue head (txTail memory), memory)
  | .readingValue head tail => (.storingHead head tail (memory.element (txDataIndex memory head)), memory)
  | .storingHead head tail value =>
    let nextHead := (head + 1) % uartQueueCapacity
    (.exchanging { value, threBefore := !queueIsFull head tail, threAfter := !queueIsFull nextHead tail }
      (nextHead != tail), storeMetaByte memory metaTxHead nextHead)
  | .exchanging dequeued nonempty =>
    (if txWakeLevel memory ≠ (if nonempty then 1 else 0) then .notifying dequeued else .popped dequeued,
      publishUartTransmitLevel memory nonempty)
  | .notifying dequeued => (.popped dequeued, memory)
  | .popped _ => (.poppingHead, memory)
  | .checkingHead => (.checkingTail (txHead memory), memory)
  | .checkingTail head => (if head ≠ txTail memory then .poppingHead else .loadingLevel, memory)
  | .loadingLevel => (.recheckingHead (txWakeLevel memory), memory)
  | .recheckingHead fromLevel => (.recheckingTail fromLevel (txHead memory), memory)
  | .recheckingTail fromLevel head =>
    (if head ≠ txTail memory then .poppingHead else .comparing fromLevel, memory)
  | .comparing fromLevel => (if txWakeLevel memory ≠ fromLevel then .checkingHead else .parked fromLevel, memory)
  | .parked fromLevel => (.parked fromLevel, memory)
  | .woken => (.checkingHead, memory)

/-- `Atomics.notify` on the level word: a parked terminal is woken. -/
def PumpPhase.notify : PumpPhase → PumpPhase
  | .parked _ => .woken
  | phase => phase

structure Console where
  memory : Memory
  hart : PushPhase
  terminal : PumpPhase

/-- Who acts: the hart is handed a byte outside `pushTransmit`, or makes its next access. -/
inductive Party where
  | call (value : BitVec 8)
  | hart
  | terminal
  deriving DecidableEq, Repr

/-- A notify of the terminal's own finds nobody parked. -/
def Console.act (console : Console) : Party → Console
  | .call value => { console with hart := if console.hart = .outside then .loadingHead value else console.hart }
  | .hart =>
    let (hart, memory) := pushTurn console.memory console.hart
    { memory, hart, terminal := if console.hart = .notifying then console.terminal.notify else console.terminal }
  | .terminal =>
    let (terminal, memory) := pumpTurn console.memory console.terminal
    { console with memory, terminal }

/-- Ring indices and level agree. -/
structure SameTransmit (before after : Memory) : Prop where
  layout : after.layout = before.layout
  head : txHead after = txHead before
  tail : txTail after = txTail before
  level : txWakeLevel after = txWakeLevel before

/-- One step of any interleaving: an access by a party that may act there, or anything that
any worker does outside ring indices and level. -/
inductive ConsoleStep (allowed : Party → Console → Prop) : Console → Console → Prop
  | act {console : Console} (party : Party) (may : allowed party console) :
      ConsoleStep allowed console (console.act party)
  | elsewhere {console : Console} {after : Memory} (same : SameTransmit console.memory after) :
      ConsoleStep allowed console { console with memory := after }

/-- A schedule carried out without other steps. -/
def Console.acts (console : Console) (schedule : List Party) : Console :=
  schedule.foldl Console.act console

/-- The console as it starts, over an empty ring with its level down. -/
structure ConsoleStart (console : Console) : Prop where
  empty : txHead console.memory = txTail console.memory
  tail : txTail console.memory < uartQueueCapacity
  level : txWakeLevel console.memory = 0
  hart : console.hart = .outside
  terminal : console.terminal = .poppingHead

variable {memory}

/-! Reads after writes of the ring indices and the level. -/

theorem metaByte_storeMetaByte (offset value : Nat) (small : value < 256) :
    metaByte (storeMetaByte memory offset value) offset = value := by
  rw [metaByte, storeMetaByte, Memory.store_bytes]
  refine (congrArg BitVec.toNat (if_pos rfl)).trans ?_
  rw [BitVec.toNat_ofNat, Nat.mod_eq_of_lt small]

theorem metaByte_storeMetaByte_other (value : Nat) (other : offset ≠ stored) :
    metaByte (storeMetaByte memory stored value) offset = metaByte memory offset := by
  have apart : metaIndex memory offset ≠ metaIndex memory stored := by
    simp only [metaIndex, uartByteIndex]
    omega
  rw [metaByte, storeMetaByte, Memory.store_bytes]
  exact congrArg BitVec.toNat (if_neg apart)

theorem txWakeLevel_storeMetaByte (value : Nat) (inside : offset < 4) :
    txWakeLevel (storeMetaByte memory offset value) = txWakeLevel memory := by
  refine Memory.load32_congr fun position small => ?_
  rw [storeMetaByte, Memory.store_bytes]
  refine if_neg ?_
  simp only [metaIndex, uartByteIndex, Memory.store_layout, uartHostTxWake, uartHostMeta]
  omega

theorem txWakeLevel_publish (nonempty : Bool) :
    txWakeLevel (publishUartTransmitLevel memory nonempty) = if nonempty then 1 else 0 :=
  Memory.load32_store32 _

theorem metaByte_publish (nonempty : Bool) (inside : offset < 4) :
    metaByte (publishUartTransmitLevel memory nonempty) offset = metaByte memory offset := by
  refine congrArg BitVec.toNat (Memory.store32_outside _ ?_)
  simp only [publishUartTransmitLevel, publishWakeLevel, metaIndex, uartByteIndex, Memory.store32_layout,
    uartHostTxWake, uartHostMeta]
  omega

@[simp] theorem txHead_storeTail (value : Nat) : txHead (storeMetaByte memory metaTxTail value) = txHead memory :=
  metaByte_storeMetaByte_other value (by decide)

@[simp] theorem txTail_storeHead (value : Nat) : txTail (storeMetaByte memory metaTxHead value) = txTail memory :=
  metaByte_storeMetaByte_other value (by decide)

@[simp] theorem txHead_storeHead (value : Nat) :
    txHead (storeMetaByte memory metaTxHead (value % uartQueueCapacity)) = value % uartQueueCapacity := by
  refine metaByte_storeMetaByte _ _ ?_
  simp only [uartQueueCapacity]
  omega

@[simp] theorem txTail_storeTail (value : Nat) :
    txTail (storeMetaByte memory metaTxTail (value % uartQueueCapacity)) = value % uartQueueCapacity := by
  refine metaByte_storeMetaByte _ _ ?_
  simp only [uartQueueCapacity]
  omega

@[simp] theorem txWakeLevel_storeTail (value : Nat) :
    txWakeLevel (storeMetaByte memory metaTxTail value) = txWakeLevel memory :=
  txWakeLevel_storeMetaByte value (by decide)

@[simp] theorem txWakeLevel_storeHead (value : Nat) :
    txWakeLevel (storeMetaByte memory metaTxHead value) = txWakeLevel memory :=
  txWakeLevel_storeMetaByte value (by decide)

@[simp] theorem txHead_publish (nonempty : Bool) : txHead (publishUartTransmitLevel memory nonempty) = txHead memory :=
  metaByte_publish nonempty (by decide)

@[simp] theorem txTail_publish (nonempty : Bool) : txTail (publishUartTransmitLevel memory nonempty) = txTail memory :=
  metaByte_publish nonempty (by decide)

/-- A byte put into a slot of the ring. -/
theorem setElement_sameTransmit (value : BitVec 8) (slot : tail < uartQueueCapacity) :
    SameTransmit memory (memory.setElement (txDataIndex memory tail) value) := by
  rw [Memory.setElement]
  split
  · have other (offset : Nat) (inside : offset < 4) : metaByte (memory.store (txDataIndex memory tail) value) offset =
        metaByte memory offset := by
      have apart : metaIndex memory offset ≠ txDataIndex memory tail := by
        simp only [metaIndex, txDataIndex, uartByteIndex, uartHostMeta, uartHostTxData]
        omega
      rw [metaByte, Memory.store_bytes]
      exact congrArg BitVec.toNat (if_neg apart)
    refine ⟨rfl, other metaTxHead (by decide), other metaTxTail (by decide), ?_⟩
    refine Memory.load32_congr fun position small => ?_
    rw [Memory.store_bytes]
    refine if_neg ?_
    simp only [txDataIndex, uartByteIndex, Memory.store_layout, uartHostTxWake, uartHostTxData, uartQueueCapacity] at *
    omega
  · exact ⟨rfl, rfl, rfl, rfl⟩

/-! A call that is not interfered with is the function. -/

theorem pushTransmit_turns (memory : Memory) (value : BitVec 8) (terminal : PumpPhase) : ∃ schedule terminal',
    (Console.mk memory (.loadingHead value) terminal).acts schedule =
      ⟨(pushTransmit memory value).2, .outside, terminal'⟩ := by
  by_cases full : queueIsFull (txHead memory) (txTail memory) = true
  · refine ⟨[.hart, .hart], terminal, ?_⟩
    have dropped : (pushTransmit memory value).2 = memory := by
      rw [pushTransmit]
      exact congrArg Prod.snd (if_pos full)
    simp [Console.acts, Console.act, pushTurn, full, dropped]
  · have pushed : (pushTransmit memory value).2 = publishUartTransmitLevel (storeMetaByte
        (memory.setElement (txDataIndex memory (txTail memory)) value) metaTxTail
          ((txTail memory + 1) % uartQueueCapacity)) true := by
      rw [pushTransmit]
      exact congrArg Prod.snd (if_neg full)
    rw [pushed]
    by_cases raised : txWakeLevel (storeMetaByte (memory.setElement (txDataIndex memory (txTail memory)) value)
        metaTxTail ((txTail memory + 1) % uartQueueCapacity)) = 1
    · refine ⟨[.hart, .hart, .hart, .hart, .hart], terminal, ?_⟩
      simp only [Console.acts, Console.act, pushTurn, full, Bool.false_eq_true, if_false, List.foldl_cons, List.foldl_nil]
      rw [if_neg (not_not.mpr raised)]
      rfl
    · refine ⟨[.hart, .hart, .hart, .hart, .hart, .hart], terminal.notify, ?_⟩
      simp only [Console.acts, Console.act, pushTurn, full, Bool.false_eq_true, if_false, List.foldl_cons, List.foldl_nil]
      rw [if_pos raised]
      rfl

theorem dequeueTransmit_turns (memory : Memory) (hart : PushPhase) : ∃ schedule,
    (Console.mk memory hart .poppingHead).acts schedule =
      match dequeueTransmit memory with
      | some (dequeued, after) => ⟨after, hart, .popped dequeued⟩
      | none => ⟨memory, hart, .checkingHead⟩ := by
  by_cases empty : txHead memory = txTail memory
  · refine ⟨[.terminal, .terminal], ?_⟩
    have nothing : dequeueTransmit memory = none := by
      rw [dequeueTransmit]
      exact if_pos empty
    simp [Console.acts, Console.act, pumpTurn, empty, nothing]
  · have dequeued : dequeueTransmit memory = some
        ({ value := memory.element (txDataIndex memory (txHead memory))
           threBefore := !queueIsFull (txHead memory) (txTail memory)
           threAfter := !queueIsFull ((txHead memory + 1) % uartQueueCapacity) (txTail memory) },
          publishUartTransmitLevel (storeMetaByte memory metaTxHead ((txHead memory + 1) % uartQueueCapacity))
            ((txHead memory + 1) % uartQueueCapacity != txTail memory)) := by
      rw [dequeueTransmit]
      exact if_neg empty
    rw [dequeued]
    by_cases level : txWakeLevel (storeMetaByte memory metaTxHead ((txHead memory + 1) % uartQueueCapacity)) =
        if ((txHead memory + 1) % uartQueueCapacity != txTail memory) then 1 else 0
    · refine ⟨[.terminal, .terminal, .terminal, .terminal, .terminal], ?_⟩
      simp only [Console.acts, Console.act, pumpTurn, empty, List.foldl_cons, List.foldl_nil, if_false]
      rw [if_neg (not_not.mpr level)]
    · refine ⟨[.terminal, .terminal, .terminal, .terminal, .terminal, .terminal], ?_⟩
      simp only [Console.acts, Console.act, pumpTurn, empty, List.foldl_cons, List.foldl_nil, if_false]
      rw [if_pos level]

end YaRiscV.Emulator
