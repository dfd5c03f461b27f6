import YaRiscV.Emulator.Uart.InterruptHistory
import YaRiscV.Emulator.Uart.Operations

/-! The hart's register accesses against the terminal's operations, access by access: when
the input level of source 10 is what the interrupt identity calls for. -/

namespace YaRiscV.Emulator

open YaRiscV.Library YaRiscV.Library.Operation Relation

variable {memory after : Memory}

/-! What the stores do to rings, divisor latch and input level. -/

theorem UartSteady.of_view (steady : UartSteady memory) (view : uartView after = uartView memory) :
    UartSteady after :=
  ⟨view ▸ steady.rings, view ▸ steady.dlab⟩

theorem quiet_sticky (value : Bool) : uartSignal.Quiet (setThreIrqSticky · value) := by
  intro memory steady
  refine ⟨⟨?_, ?_⟩, uartInputLevel_setThreIrqSticky value⟩
  · rw [uartView_setThreIrqSticky]
    exact { steady.rings with }
  · rw [uartView_setThreIrqSticky]
    exact steady.dlab

theorem quiet_storeRegister (inside : registerIndex < 8) (value : BitVec 8)
    (unset : registerIndex = 3 → value &&& lcrDlab = 0) :
    uartSignal.Quiet (storeUartRegisterByte · registerIndex value) := by
  intro memory steady
  refine ⟨⟨?_, ?_⟩, uartInputLevel_storeRegister inside value⟩
  · rw [uartView_storeRegister memory inside]
    exact { steady.rings with }
  · rw [uartView_storeRegister memory inside]
    dsimp only
    split
    · rename_i lineControl
      exact unset lineControl
    · exact steady.dlab

theorem quiet_storeMeta (inside : offset < 4) (index : Nat) :
    uartSignal.Quiet (storeMetaByte · offset ((index + 1) % uartQueueCapacity)) := by
  have small : (index + 1) % uartQueueCapacity < uartQueueCapacity := Nat.mod_lt _ (by decide)
  intro memory steady
  refine ⟨⟨?_, ?_⟩, uartInputLevel_storeMeta inside _⟩
  · rw [uartView_storeMeta offset (Nat.lt_trans small (by decide))]
    constructor
    · dsimp only
      split
      · exact small
      · exact steady.rings.rxHead
    · dsimp only
      split
      · exact small
      · exact steady.rings.rxTail
    · dsimp only
      split
      · exact small
      · exact steady.rings.txHead
    · dsimp only
      split
      · exact small
      · exact steady.rings.txTail
  · rw [uartView_storeMeta offset (Nat.lt_trans small (by decide))]
    exact steady.dlab

theorem quiet_setReceived (slot : tail < uartQueueCapacity) (value : BitVec 8) :
    uartSignal.Quiet fun memory => memory.setElement (rxDataIndex memory tail) value := by
  intro memory steady
  refine ⟨steady.of_view (uartView_setReceived tail value), uartInputLevel_setElement ?_ value⟩
  simp only [uartQueueCapacity] at slot
  simp only [uartHostRxData, uartHostByteLength]
  omega

theorem quiet_setTransmitted (slot : tail < uartQueueCapacity) (value : BitVec 8) :
    uartSignal.Quiet fun memory => memory.setElement (txDataIndex memory tail) value := by
  intro memory steady
  refine ⟨steady.of_view (uartView_setTransmitted tail value), uartInputLevel_setElement ?_ value⟩
  simp only [uartQueueCapacity] at slot
  simp only [uartHostTxData, uartHostByteLength]
  omega

theorem quiet_publishTransmit (nonempty : Bool) : uartSignal.Quiet (publishUartTransmitLevel · nonempty) :=
  fun _ steady => ⟨steady.of_view (uartView_publishTransmit nonempty), uartInputLevel_publishTransmit nonempty⟩

/-! Which operations end with a refresh, and that all of them make up for what they store. -/

theorem readLineStatusSteps_sound {owes : BitVec 8 → Prop} : readLineStatusSteps.Sound uartSignal owes :=
  sound_observe fun _ _ => sound_observe fun _ _ => sound_observe fun _ _ => sound_observe fun _ _ => trivial

theorem readInterruptIdentitySteps_closed : readInterruptIdentitySteps.Closed uartSignal := by
  refine sound_observe fun memory _ => sound_then readLineStatusSteps_sound fun lsr => ?_
  split
  · trivial
  split
  · refine sound_observe fun memory _ => ?_
    split <;> trivial
  · trivial

theorem refreshUartIrqSteps_commits {owes : Unit → Prop} : refreshUartIrqSteps.Commits owes :=
  commits_last fun _ => commits_announce _

theorem refreshUartIrqSteps_sound {owes : Unit → Prop} : refreshUartIrqSteps.Sound uartSignal owes :=
  sound_then readInterruptIdentitySteps_closed fun _ => sound_announce _

/-- A refresh pays what came before it owes. -/
theorem refresh_commits {Value : Type} {next : Unit → Operation Memory Value} {owes : Value → Prop} :
    (refreshUartIrqSteps >>= next).Commits owes := by
  have refreshes : refreshUartIrqSteps.Commits fun _ => False := refreshUartIrqSteps_commits
  exact commits_bind refreshes fun _ owed => owed.elim

theorem refresh_closed (value : Value) : (refreshUartIrqSteps >>= fun _ => pure value).Closed uartSignal :=
  sound_then refreshUartIrqSteps_sound fun _ => trivial

theorem popReceiveSteps_sound : popReceiveSteps.Sound uartSignal fun _ => True := by
  refine sound_observe fun memory _ => sound_observe fun memory _ => ?_
  split
  · trivial
  · exact sound_observe fun _ _ => sound_modify (quiet_storeMeta (by decide) _) trivial trivial

theorem pushTransmitSteps_sound (value : BitVec 8) :
    (pushTransmitSteps value).Sound uartSignal fun _ => True := by
  refine sound_observe fun memory _ => sound_observe fun memory steady => ?_
  split
  · trivial
  · refine sound_modify (quiet_setTransmitted steady.rings.txTail value) (commits_last fun _ => ?_) ?_
    · exact commits_last fun _ => trivial
    refine sound_modify (quiet_storeMeta (by decide) _) (commits_last fun _ => trivial) ?_
    exact sound_modify (quiet_publishTransmit true) trivial trivial

/-- A dropped byte owes nothing. -/
theorem enqueueReceiveSteps_sound (value : BitVec 8) :
    (enqueueReceiveSteps value).Sound uartSignal fun accepted => accepted = true := by
  refine sound_observe fun memory _ => sound_observe fun memory steady => ?_
  split
  · trivial
  · refine sound_modify (quiet_setReceived steady.rings.rxTail value) (commits_last fun _ => commits_pure rfl) ?_
    exact sound_modify (quiet_storeMeta (by decide) _) (commits_pure rfl) trivial

/-- An empty ring owes nothing. -/
theorem dequeueTransmitSteps_sound :
    dequeueTransmitSteps.Sound uartSignal fun dequeued => dequeued ≠ none := by
  refine sound_observe fun memory _ => sound_observe fun memory _ => ?_
  split
  · trivial
  · refine sound_observe fun _ _ => sound_modify (quiet_storeMeta (by decide) _) ?_ ?_
    · exact commits_last fun _ => commits_pure (Option.some_ne_none _)
    · exact sound_modify (quiet_publishTransmit _) (commits_pure (Option.some_ne_none _)) trivial

theorem armThreIrqOnRisingEdgeSteps_sound (threBefore threAfter : Bool) :
    (armThreIrqOnRisingEdgeSteps threBefore threAfter).Sound uartSignal fun _ => True := by
  rw [armThreIrqOnRisingEdgeSteps]
  split
  · trivial
  · refine sound_observe fun memory _ => ?_
    split
    · exact sound_last (quiet_sticky true) trivial
    · trivial

theorem armThreIrqIfEnabledAndReadySteps_sound :
    armThreIrqIfEnabledAndReadySteps.Sound uartSignal fun _ => True := by
  refine sound_observe fun memory _ => sound_then readLineStatusSteps_sound fun lsr => ?_
  split
  · exact sound_last (quiet_sticky true) trivial
  · trivial

theorem pushUartReceiveSteps_closed (value : BitVec 8) : (pushUartReceiveSteps value).Closed uartSignal := by
  refine sound_bind (enqueueReceiveSteps_sound value) (fun accepted => ?_) fun accepted owed => ?_
  · split
    · trivial
    · exact refresh_closed true
  · rw [owed]
    exact refresh_commits

theorem popUartTransmitSteps_closed : popUartTransmitSteps.Closed uartSignal := by
  refine sound_bind dequeueTransmitSteps_sound (fun dequeued => ?_) fun dequeued owed => ?_
  · cases dequeued with
    | none => trivial
    | some dequeued =>
      refine sound_bind (armThreIrqOnRisingEdgeSteps_sound _ _) (fun _ => refresh_closed _) fun _ _ => ?_
      exact refresh_commits
  · cases dequeued with
    | none => exact absurd rfl owed
    | some dequeued => exact commits_last fun _ => refresh_commits

theorem loadUartRegisterSteps_closed (registerIndex : Nat) :
    (loadUartRegisterSteps registerIndex).Closed uartSignal := by
  refine sound_observe fun memory _ => ?_
  dsimp only
  split
  · exact sound_bind popReceiveSteps_sound (fun _ => refresh_closed _) fun _ _ => refresh_commits
  split
  · refine sound_then readInterruptIdentitySteps_closed fun identity => ?_
    split
    · exact sound_modify (quiet_sticky false) refresh_commits (refresh_closed identity)
    · trivial
  split
  · exact readLineStatusSteps_sound
  · exact sound_load _

/-- The interrupt does not depend on the registers behind IIR. -/
theorem wanted_storeRegister (inside : registerIndex < 8) (enable : registerIndex ≠ 1)
    (identity : registerIndex ≠ threIrqStickyRegister) (value : BitVec 8) (steady : UartSteady memory) :
    uartSignal.wanted (storeUartRegisterByte memory registerIndex value) = uartSignal.wanted memory := by
  have view := uartView_storeRegister memory inside value
  rw [if_neg enable, if_neg identity] at view
  have rings : (uartView (storeUartRegisterByte memory registerIndex value)).RingsValid := by
    rw [view]
    exact { steady.rings with }
  have same : (uartView (storeUartRegisterByte memory registerIndex value)).Interrupts ↔
      (uartView memory).Interrupts := by
    rw [view]
    rfl
  change (readInterruptIdentity _ != iirNoInterrupt) = (readInterruptIdentity memory != iirNoInterrupt)
  rw [Bool.eq_iff_iff, bne_iff_ne, bne_iff_ne]
  exact (readInterruptIdentity_iff rings).trans (same.trans (readInterruptIdentity_iff steady.rings).symm)

/-- A store to a register that leaves the divisor latch unselected. -/
theorem storeUartRegisterSteps_closed (inside : registerIndex < uartGuestByteLength) (value : BitVec 8)
    (unset : registerIndex = 3 → value &&& lcrDlab = 0) :
    (storeUartRegisterSteps registerIndex value).Closed uartSignal := by
  refine sound_observe fun memory steady => ?_
  have clear : uartRegisterByte memory 3 &&& lcrDlab = 0 := steady.dlab
  rw [clear]
  dsimp only
  split
  · refine sound_modify (quiet_sticky false) (commits_last fun _ => refreshUartIrqSteps_commits) ?_
    exact sound_bind (pushTransmitSteps_sound value) (fun _ => refreshUartIrqSteps_sound)
      fun _ _ => refreshUartIrqSteps_commits
  split
  · trivial
  · rename_i readable
    by_cases enable : registerIndex = 1
    · have latched : registerIndex = 1 ∧ (!((0 : BitVec 8) != 0)) = true := ⟨enable, rfl⟩
      rw [if_pos latched]
      refine sound_modify (quiet_storeRegister inside value unset) (commits_last fun _ => ?_) ?_
      · exact refreshUartIrqSteps_commits
      · exact sound_bind armThreIrqIfEnabledAndReadySteps_sound (fun _ => refreshUartIrqSteps_sound)
          fun _ _ => refreshUartIrqSteps_commits
    · rw [if_neg fun latched => enable latched.1]
      refine sound_then (closed_modify (quiet_storeRegister inside value unset) fun memory steady => ?_)
        fun _ => trivial
      exact wanted_storeRegister inside enable (fun same => readable (.inl same)) value steady

/-! The two workers. -/

inductive UartParty where
  | hart
  | terminal
  deriving DecidableEq, Repr

/-- What each takes up: register accesses that leave the divisor latch unselected, and the
two operations of the terminal. -/
inductive UartOffer : UartParty → Operation Memory Unit → Prop
  | load (registerIndex : Nat) : UartOffer .hart (loadUartRegisterSteps registerIndex).discard
  | store {registerIndex : Nat} (inside : registerIndex < uartGuestByteLength) (value : BitVec 8)
      (unset : registerIndex = 3 → value &&& lcrDlab = 0) :
      UartOffer .hart (storeUartRegisterSteps registerIndex value)
  | receive (value : BitVec 8) : UartOffer .terminal (pushUartReceiveSteps value).discard
  | transmit : UartOffer .terminal popUartTransmitSteps.discard

abbrev UartParties := Parties Memory UartParty

abbrev UartStep (allowed : UartParty → UartParties → Prop) : UartParties → UartParties → Prop :=
  Parties.Step uartSignal UartOffer SameUart allowed

/-- The condition on a step: no locked section publishes a level that the registers no
longer call for, unless the other worker is bound to publish after it. -/
def publishesCurrent (party : UartParty) (parties : UartParties) : Prop :=
  ¬ Parties.Stale uartSignal party parties

def anyTurn (_ : UartParty) (_ : UartParties) : Prop := True

/-- Both workers outside, over a UART whose input level is what it calls for. -/
structure UartRaceStart (parties : UartParties) : Prop where
  idle : parties.Idle
  steady : UartSteady parties.shared
  level : uartInputLevel parties.shared = (readInterruptIdentity parties.shared != iirNoInterrupt)

theorem UartOffer.closed {party : UartParty} {operation : Operation Memory Unit}
    (offer : UartOffer party operation) : operation.Closed uartSignal := by
  cases offer with
  | load registerIndex => exact closed_discard (loadUartRegisterSteps_closed registerIndex)
  | store inside value unset => exact storeUartRegisterSteps_closed inside value unset
  | receive value => exact closed_discard (pushUartReceiveSteps_closed value)
  | transmit => exact closed_discard popUartTransmitSteps_closed

theorem SameUart.unseen (same : SameUart memory after) : Parties.Unseen uartSignal memory after := by
  have view : uartView after = uartView memory :=
    uartView_congr fun offset small => same.bytes offset (Nat.lt_trans small (by decide))
  refine ⟨fun steady => steady.of_view view, ?_, same.level⟩
  exact congrArg (· != iirNoInterrupt) (readInterruptIdentity_congr view)

theorem UartRaceStart.settled {parties : UartParties} (start : UartRaceStart parties) :
    Parties.Settled uartSignal parties := by
  refine ⟨start.steady, fun party => ?_, .inl start.level⟩
  rw [start.idle party]
  trivial

/-- In a run that publishes nothing stale the level is right whenever both workers are
outside; and where one publishes a stale level with the other outside it is wrong at once. -/
theorem uart_level_current {initial : UartParties} (start : UartRaceStart initial) :
    (∀ parties, ReflTransGen (UartStep publishesCurrent) initial parties → parties.Idle →
      uartInputLevel parties.shared = (readInterruptIdentity parties.shared != iirNoInterrupt)) ∧
      ∀ parties party level, ¬ publishesCurrent party parties → parties.doing party = .publish level (.done ()) →
        (∀ other ≠ party, parties.doing other = .done ()) →
          (parties.turn uartSignal party).Idle ∧
            uartInputLevel (parties.turn uartSignal party).shared ≠
              (readInterruptIdentity (parties.turn uartSignal party).shared != iirNoInterrupt) := by
  constructor
  · intro parties run idle
    have settled : Parties.Settled uartSignal parties := Parties.settled_run (fun _ _ offer => offer.closed)
      (fun _ _ same => same.unseen) (fun _ _ current => current) run start.settled
    exact settled.of_idle idle
  · intro parties party level stale last others
    exact (not_not.mp stale).breaks last others

/-- Both workers outside, over the default machine with its PLIC initialized. -/
def resetWorkers : UartParties := ⟨initializePlic defaultMemory, fun _ => .done ()⟩

theorem resetWorkers_start : UartRaceStart resetWorkers := by
  have start : UartStart (initializePlic defaultMemory) := initializePlic_uartStart fun _ _ => rfl
  have latched := start.current.latched
  exact ⟨fun _ => rfl, ⟨latched.rings, latched.dlab⟩, by decide +kernel⟩

theorem uart_level_current_reset :
    (∀ parties, ReflTransGen (UartStep publishesCurrent) resetWorkers parties → parties.Idle →
      uartInputLevel parties.shared = (readInterruptIdentity parties.shared != iirNoInterrupt)) ∧
      ∀ parties party level, ¬ publishesCurrent party parties → parties.doing party = .publish level (.done ()) →
        (∀ other ≠ party, parties.doing other = .done ()) →
          (parties.turn uartSignal party).Idle ∧
            uartInputLevel (parties.turn uartSignal party).shared ≠
              (readInterruptIdentity (parties.turn uartSignal party).shared != iirNoInterrupt) :=
  uart_level_current resetWorkers_start

/-- ERBFI enabled and one byte received, with both workers outside. -/
def byteReceived : UartParties :=
  { resetWorkers with shared := (pushUartReceive (storeUartRegister resetWorkers.shared 1 ierErbfi) 0x41).2 }

/-- The hart has popped that byte and found no interrupt, but not yet taken the lock. -/
def bytePopped : UartParties :=
  Parties.turns uartSignal .hart 10 (byteReceived.call .hart (loadUartRegisterSteps 0).discard)

/-- The terminal pushes the next byte and raises the level. -/
def nextReceived : UartParties :=
  { bytePopped with shared := (pushUartReceive bytePopped.shared 0x42).2 }

/-- The hart takes the lock and lowers it. -/
def levelOverwritten : UartParties :=
  nextReceived.turn uartSignal .hart

/-- A worker that is outside may carry out an operation whole. -/
theorem run_whole {parties : UartParties} {party : UartParty} {operation : Operation Memory Unit}
    (idle : parties.doing party = .done ()) (offer : UartOffer party operation)
    (ran : operation.run uartSignal parties.shared = ((), after)) :
    ReflTransGen (UartStep anyTurn) parties { parties with shared := after } := by
  have run : ReflTransGen (UartStep anyTurn) parties _ := Parties.run_operation (fun _ => trivial) idle offer
  rwa [ran] at run

theorem run_receive {parties : UartParties} (idle : parties.doing .terminal = .done ()) (value : BitVec 8) :
    ReflTransGen (UartStep anyTurn) parties { parties with shared := (pushUartReceive parties.shared value).2 } :=
  run_whole idle (.receive value) (run_discard (pushUartReceiveSteps_run parties.shared value))

theorem levelOverwritten_run : ReflTransGen (UartStep anyTurn) resetWorkers levelOverwritten := by
  have enable : UartOffer .hart (storeUartRegisterSteps 1 ierErbfi) := .store (by decide) _ (by decide)
  have enabled : ReflTransGen (UartStep anyTurn) resetWorkers _ :=
    run_whole rfl enable (storeUartRegisterSteps_run resetWorkers.shared 1 ierErbfi)
  have received : ReflTransGen (UartStep anyTurn) resetWorkers byteReceived := enabled.trans (run_receive rfl 0x41)
  have called : ReflTransGen (UartStep anyTurn) resetWorkers
      (byteReceived.call .hart (loadUartRegisterSteps 0).discard) :=
    received.tail (.call UartParty.hart rfl (UartOffer.load 0))
  have popped : ReflTransGen (UartStep anyTurn) resetWorkers bytePopped :=
    called.trans (Parties.run_turns (fun _ => trivial) 10 _)
  have outside : bytePopped.doing .terminal = .done () := eq_done_of_isDone (by decide +kernel)
  have pushed : ReflTransGen (UartStep anyTurn) resetWorkers nextReceived :=
    popped.trans (run_receive outside 0x42)
  have may : anyTurn .hart nextReceived := trivial
  exact pushed.tail (Parties.Step.turn UartParty.hart may)

/-- The level stays low over a byte that ERBFI reports, with both workers outside. -/
theorem uart_level_lost : UartRaceStart resetWorkers ∧
    ReflTransGen (UartStep anyTurn) resetWorkers levelOverwritten ∧ levelOverwritten.Idle ∧
      uartInputLevel levelOverwritten.shared = false ∧ readInterruptIdentity levelOverwritten.shared = iirRda := by
  refine ⟨resetWorkers_start, levelOverwritten_run, fun party => ?_, by decide +kernel, by decide +kernel⟩
  cases party with
  | hart => exact eq_done_of_isDone (by decide +kernel)
  | terminal => exact eq_done_of_isDone (by decide +kernel)

end YaRiscV.Emulator
