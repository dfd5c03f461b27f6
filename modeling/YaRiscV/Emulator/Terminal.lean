import YaRiscV.Library.Ranking
import YaRiscV.Emulator.Uart.TransmitQueue

/-! `terminal/run.ts`: the worker that pumps the transmit ring into `stdout`, and what is left
of the bytes when it is stopped. -/

namespace YaRiscV.Emulator

open YaRiscV.Library YaRiscV.Utils Relation

/-- Where the pump is; `final` in the pass after the stop. -/
inductive TerminalPlace where
  /-- In `drainTransmitRing`, before a pop. -/
  | draining (final : Bool)
  /-- In `drainOrClosed`. -/
  | backpressured (final : Bool)
  /-- In the race of `waitUartTransmit` with the stop. -/
  | racing
  /-- After `stdout.end()`. -/
  | ending
  | exited
  deriving DecidableEq, Repr

/-- Waiting for an event of the stream. -/
def TerminalPlace.awaitsStream : TerminalPlace → Bool
  | .backpressured _ | .ending => true
  | _ => false

structure Terminal where
  memory : Memory
  place : TerminalPlace
  stopRequested : Bool
  /-- The bytes `stdout.write` took, and those of them that reached the host. -/
  written : List (BitVec 8)
  delivered : List (BitVec 8)
  /-- `stdout` is closed or has failed. -/
  dead : Bool
  /-- What went through the ring, and how much of it the guest had sent when the stop came. -/
  fifo : Fifo (BitVec 8)
  due : Nat

namespace Terminal

variable (terminal : Terminal)

/-- A turn of the loop of `drainTransmitRing`; a dead stream takes nothing. -/
def drainTransmitRing (final keepGoing : Bool) : Terminal :=
  match popUartTransmit terminal.memory with
  | (none, memory) => { terminal with memory, place := if final then .ending else .racing }
  | (some value, memory) =>
    { terminal with
      memory
      fifo := terminal.fifo.consume value
      written := if terminal.dead then terminal.written else terminal.written ++ [value]
      place := if keepGoing && !terminal.dead then .draining final else .backpressured final }

/-- The stream ends: a wait for it returns. -/
def close : Terminal :=
  { terminal with
    dead := true
    place := if terminal.place.awaitsStream then .exited else terminal.place }

/-- The guest stores a byte in a register. -/
def guestStore (registerIndex : Nat) (value : BitVec 8) : Terminal :=
  { terminal with
    memory := storeUartRegister terminal.memory registerIndex value
    fifo := if transmits terminal.memory registerIndex value then terminal.fifo.accept value else terminal.fifo }

end Terminal

/-- What the worker and its stream do by themselves. -/
inductive PumpTurn : Terminal → Terminal → Prop
  | pop {terminal : Terminal} {final : Bool} (keepGoing : Bool) (place : terminal.place = .draining final) :
      PumpTurn terminal (terminal.drainTransmitRing final keepGoing)
  | drained {terminal : Terminal} {final : Bool} (place : terminal.place = .backpressured final)
      (alive : terminal.dead = false) : PumpTurn terminal { terminal with place := .draining final }
  | raced {terminal : Terminal} (place : terminal.place = .racing)
      (woken : uartTransmitPending terminal.memory = true ∨ terminal.stopRequested = true) :
      PumpTurn terminal { terminal with place := .draining terminal.stopRequested }
  | deliver {terminal : Terminal} {value : BitVec 8} (alive : terminal.dead = false)
      (running : terminal.place ≠ .exited) (next : terminal.written[terminal.delivered.length]? = some value) :
      PumpTurn terminal { terminal with delivered := terminal.delivered ++ [value] }
  | finish {terminal : Terminal} (place : terminal.place = .ending) (alive : terminal.dead = false)
      (flushed : terminal.delivered = terminal.written) : PumpTurn terminal { terminal with place := .exited }

/-- A turn of the worker, or what else happens in the meantime. -/
inductive TerminalStep : Terminal → Terminal → Prop
  | turn {terminal after : Terminal} (turn : PumpTurn terminal after) : TerminalStep terminal after
  | guestStore {terminal : Terminal} {registerIndex : Nat} (inside : registerIndex < uartGuestByteLength)
      (value : BitVec 8) : TerminalStep terminal (terminal.guestStore registerIndex value)
  | elsewhere {terminal : Terminal} {memory : Memory} (same : UartRing.transmit.Same terminal.memory memory) :
      TerminalStep terminal { terminal with memory }
  | stop {terminal : Terminal} (first : terminal.stopRequested = false) :
      TerminalStep terminal { terminal with stopRequested := true, due := terminal.fifo.accepted.length }
  | close (terminal : Terminal) : TerminalStep terminal terminal.close
  /-- An error of the stream that nothing listens for. -/
  | fail (terminal : Terminal) : TerminalStep terminal { terminal with dead := true, place := .exited }

/-- A load of a register by the guest happens elsewhere. -/
theorem TerminalStep.guestLoad (terminal : Terminal) (registerIndex : Nat) :
    TerminalStep terminal { terminal with memory := (loadUartRegister terminal.memory registerIndex).2 } :=
  .elsewhere (loadUartRegister_transmit registerIndex)

/-- So does a key pressed. -/
theorem TerminalStep.keyPressed {terminal : Terminal} (rings : (uartView terminal.memory).RingsValid)
    (value : BitVec 8) :
    TerminalStep terminal { terminal with memory := (pushUartReceive terminal.memory value).2 } :=
  .elsewhere (pushUartReceive_transmit rings value)

/-- The worker as it starts, with an empty ring. -/
structure TerminalStart (terminal : Terminal) : Prop where
  empty : UartRing.transmit.head terminal.memory = UartRing.transmit.tail terminal.memory
  inside : UartRing.transmit.tail terminal.memory < uartQueueCapacity
  fifo : terminal.fifo = .empty
  place : terminal.place = .draining false
  running : terminal.stopRequested = false
  written : terminal.written = []
  delivered : terminal.delivered = []
  alive : terminal.dead = false
  due : terminal.due = 0

/-- What each place of the pump knows of the stop. -/
def TerminalKnows (terminal : Terminal) : TerminalPlace → Prop
  | .draining final | .backpressured final => final = true → terminal.stopRequested = true
  | .racing => True
  | .ending => terminal.stopRequested = true ∧ terminal.due ≤ terminal.fifo.consumed.length
  | .exited => terminal.dead = true ∨
    terminal.stopRequested = true ∧ terminal.due ≤ terminal.fifo.consumed.length ∧
      terminal.delivered = terminal.written

/-- What holds in every run. -/
structure TerminalSound (first : Nat) (terminal : Terminal) : Prop where
  holds : TransmitHolds first terminal.memory terminal.fifo
  written : terminal.written <+: terminal.fifo.consumed
  complete : terminal.dead = false → terminal.written = terminal.fifo.consumed
  delivered : terminal.delivered <+: terminal.written
  due : terminal.due ≤ terminal.fifo.accepted.length
  knows : TerminalKnows terminal terminal.place

variable {terminal after : Terminal} {first : Nat}

theorem TerminalStart.sound (start : TerminalStart terminal) :
    TerminalSound (UartRing.transmit.tail terminal.memory) terminal where
  holds := by
    rw [start.fifo]
    exact {
      head := by
        rw [start.empty]
        exact (Nat.mod_eq_of_lt start.inside).symm
      tail := (Nat.mod_eq_of_lt start.inside).symm
      sound := Fifo.empty_sound _
      slots := by
        intro position value _ found
        exact absurd found (by simp [Fifo.empty]) }
  written := by
    rw [start.written]
    exact List.nil_prefix
  complete := by
    intro _
    rw [start.written, start.fifo]
    rfl
  delivered := by
    rw [start.delivered]
    exact List.nil_prefix
  due := by
    rw [start.due]
    exact Nat.zero_le _
  knows := by
    rw [start.place]
    intro final
    exact absurd final Bool.false_ne_true

theorem Terminal.drainTransmitRing_sound {final : Bool} (keepGoing : Bool) (sound : TerminalSound first terminal)
    (place : terminal.place = .draining final) :
    TerminalSound first (terminal.drainTransmitRing final keepGoing) := by
  have knows := sound.knows
  rw [place] at knows
  have popped := sound.holds.pop
  unfold drainTransmitRing
  generalize popUartTransmit terminal.memory = result at popped ⊢
  obtain ⟨value, memory⟩ := result
  obtain ⟨next, holds⟩ := popped
  cases value with
  | none =>
    refine { sound with holds := holds, knows := ?_ }
    cases final with
    | false => exact trivial
    | true =>
      -- Nothing left in the ring: all that was accepted has come out.
      have all : terminal.fifo.accepted.length ≤ terminal.fifo.consumed.length :=
        List.getElem?_eq_none_iff.mp next.symm
      exact ⟨knows rfl, sound.due.trans all⟩
  | some value =>
    refine {
      holds := holds
      written := ?_
      complete := ?_
      delivered := ?_
      due := sound.due
      knows := ?_ }
    · change (if terminal.dead then terminal.written else terminal.written ++ [value]) <+:
        terminal.fifo.consumed ++ [value]
      cases alive : terminal.dead with
      | true => exact sound.written.trans (List.prefix_append _ _)
      | false =>
        rw [sound.complete alive]
        exact List.prefix_rfl
    · intro alive
      change terminal.dead = false at alive
      change (if terminal.dead then terminal.written else terminal.written ++ [value]) =
        terminal.fifo.consumed ++ [value]
      rw [alive, sound.complete alive]
      rfl
    · change terminal.delivered <+: if terminal.dead then terminal.written else terminal.written ++ [value]
      split
      · exact sound.delivered
      · exact sound.delivered.trans (List.prefix_append _ _)
    · simp only
      split
      · exact knows
      · exact knows

theorem PumpTurn.sound (turn : PumpTurn terminal after) (sound : TerminalSound first terminal) :
    TerminalSound first after := by
  have knows := sound.knows
  cases turn with
  | pop keepGoing place => exact Terminal.drainTransmitRing_sound keepGoing sound place
  | drained place alive =>
    rw [place] at knows
    exact { sound with knows := knows }
  | raced place woken => exact { sound with knows := fun requested => requested }
  | deliver alive running next =>
    refine { sound with delivered := ?_, knows := ?_ }
    · obtain ⟨rest, same⟩ := sound.delivered
      rw [← same] at next ⊢
      rw [List.getElem?_append_right (Nat.le_refl _), Nat.sub_self] at next
      cases rest with
      | nil => exact absurd next (by simp)
      | cons head rest =>
        obtain rfl : head = _ := Option.some.inj next
        exact ⟨rest, by simp⟩
    · simp only
      cases place : terminal.place with
      | exited => exact absurd place running
      | _ =>
        rw [place] at knows
        exact knows
  | finish place alive flushed =>
    rw [place] at knows
    exact { sound with knows := .inr ⟨knows.1, knows.2, flushed⟩ }

theorem Terminal.guestStore_sound {registerIndex : Nat} (sound : TerminalSound first terminal)
    (inside : registerIndex < uartGuestByteLength) (value : BitVec 8) :
    TerminalSound first (terminal.guestStore registerIndex value) := by
  have holds := sound.holds.storeRegister inside value
  have accepted : terminal.fifo.accepted.length ≤ (terminal.guestStore registerIndex value).fifo.accepted.length := by
    unfold guestStore
    simp only
    split
    · simp [Fifo.accept]
    · exact Nat.le_refl _
  have consumed : (terminal.guestStore registerIndex value).fifo.consumed = terminal.fifo.consumed := by
    unfold guestStore
    simp only
    split
    · rfl
    · rfl
  refine {
    holds := holds
    written := ?_
    complete := ?_
    delivered := sound.delivered
    due := sound.due.trans accepted
    knows := ?_ }
  · rw [consumed]
    exact sound.written
  · rw [consumed]
    exact sound.complete
  · have knows := sound.knows
    change TerminalKnows _ terminal.place
    cases place : terminal.place with
    | ending | exited =>
      rw [place] at knows
      simp only [TerminalKnows, consumed] at knows ⊢
      exact knows
    | _ =>
      rw [place] at knows
      exact knows

theorem Terminal.close_sound (sound : TerminalSound first terminal) : TerminalSound first terminal.close := by
  refine { sound with complete := fun alive => absurd alive.symm Bool.false_ne_true, knows := ?_ }
  have knows := sound.knows
  unfold close
  simp only
  cases place : terminal.place with
  | backpressured | ending | exited => exact .inl rfl
  | draining | racing =>
    rw [place] at knows
    exact knows

theorem TerminalStep.sound (step : TerminalStep terminal after) (sound : TerminalSound first terminal) :
    TerminalSound first after := by
  cases step with
  | turn turn => exact turn.sound sound
  | guestStore inside value => exact Terminal.guestStore_sound sound inside value
  | elsewhere same => exact { sound with holds := sound.holds.same same, knows := sound.knows }
  | stop unrequested =>
    refine { sound with due := Nat.le_refl _, knows := ?_ }
    have knows := sound.knows
    simp only
    cases place : terminal.place with
    | draining | backpressured => exact fun _ => rfl
    | racing => trivial
    | ending =>
      rw [place] at knows
      exact absurd (knows.1.symm.trans unrequested) Bool.noConfusion
    | exited =>
      rw [place] at knows
      rcases knows with dead | flushed
      · exact .inl dead
      · exact absurd (flushed.1.symm.trans unrequested) Bool.noConfusion
  | close => exact Terminal.close_sound sound
  | fail => exact { sound with complete := fun alive => absurd alive.symm Bool.false_ne_true, knows := .inl rfl }

theorem TerminalSound.flushed (sound : TerminalSound first terminal)
    (reached : terminal.due ≤ terminal.fifo.consumed.length) (flushed : terminal.delivered = terminal.written)
    (alive : terminal.dead = false) : terminal.fifo.accepted.take terminal.due <+: terminal.delivered := by
  rw [flushed, sound.complete alive]
  refine List.prefix_of_prefix_length_le (List.take_prefix _ _) sound.holds.sound.order ?_
  rw [List.length_take]
  exact (Nat.min_le_left _ _).trans reached

/-- In every run the host receives a prefix of what the guest sent, without loss as long as the
stream lives; and the worker exits over a dead stream, or with all that had been sent before the
stop delivered. -/
theorem terminal_delivers (run : ReflTransGen TerminalStep terminal after) (start : TerminalStart terminal) :
    after.delivered <+: after.fifo.accepted ∧ after.written <+: after.fifo.accepted ∧
      (after.dead = false → after.written = after.fifo.consumed) ∧
      (after.place = .exited → after.dead = true ∨
        after.stopRequested = true ∧ after.fifo.accepted.take after.due <+: after.delivered) := by
  have sound : TerminalSound (UartRing.transmit.tail terminal.memory) after :=
    invariant_run (TerminalSound (UartRing.transmit.tail terminal.memory)) (fun _ _ step => step.sound) run
      start.sound
  have written := sound.written.trans sound.holds.sound.order
  refine ⟨sound.delivered.trans written, written, sound.complete, fun exited => ?_⟩
  have knows := sound.knows
  rw [exited] at knows
  rcases knows with dead | ⟨requested, reached, flushed⟩
  · exact .inl dead
  cases alive : after.dead with
  | true => exact .inl rfl
  | false => exact .inr ⟨requested, sound.flushed reached flushed alive⟩

/-- A worker whose machine has sent nothing yet. -/
def idleTerminal : Terminal :=
  ⟨defaultMemory, .draining false, false, [], [], false, .empty, 0⟩

theorem idleTerminal_start : TerminalStart idleTerminal where
  empty := rfl
  inside := by decide
  fifo := rfl
  place := rfl
  running := rfl
  written := rfl
  delivered := rfl
  alive := rfl
  due := rfl

/-- The guest reads its line status, a key is pressed, and the letter sent before that arrives. -/
theorem terminal_delivers_letter : ∃ terminal, ReflTransGen TerminalStep idleTerminal terminal ∧
    terminal.place = .exited ∧ terminal.delivered = [0x41] ∧
      (terminal.delivered <+: terminal.fifo.accepted ∧ terminal.written <+: terminal.fifo.accepted ∧
        (terminal.dead = false → terminal.written = terminal.fifo.consumed) ∧
        (terminal.place = .exited → terminal.dead = true ∨
          terminal.stopRequested = true ∧ terminal.fifo.accepted.take terminal.due <+: terminal.delivered)) := by
  have sent : ReflTransGen TerminalStep idleTerminal _ := .single (@TerminalStep.guestStore _ 0 (by decide) 0x41)
  have loaded := sent.tail (.guestLoad _ 5)
  have pressed := loaded.tail (.keyPressed ⟨by decide +kernel, by decide +kernel, by decide +kernel,
    by decide +kernel⟩ 0x42)
  have popped := (pressed.tail (.turn (.pop true rfl))).tail (.turn (@PumpTurn.pop _ false true (by decide +kernel)))
  have stopped := popped.tail (.stop (by decide +kernel))
  have raced := stopped.tail (.turn (.raced (by decide +kernel) (.inr (by decide +kernel))))
  have drained := raced.tail (.turn (@PumpTurn.pop _ true true (by decide +kernel)))
  have delivered := drained.tail (.turn (@PumpTurn.deliver _ 0x41 (by decide +kernel) (by decide +kernel)
    (by decide +kernel)))
  have exited := delivered.tail (.turn (.finish (by decide +kernel) (by decide +kernel) (by decide +kernel)))
  exact ⟨_, exited, by decide +kernel, by decide +kernel, terminal_delivers exited idleTerminal_start⟩

/-! How long a stopped worker can go on. -/

def TerminalPlace.rank : TerminalPlace → Nat
  | .exited => 0
  | .ending => 1
  | .draining true => 2
  | .backpressured true | .racing => 3
  | .draining false => 4
  | .backpressured false => 5

/-- The work left: a byte in the ring is yet to be popped, waited for and delivered. -/
def Terminal.rank (terminal : Terminal) : Nat :=
  3 * terminal.fifo.held + terminal.place.rank + (terminal.written.length - terminal.delivered.length)

/-- A worker that was asked to stop, with a reader at the other end. -/
structure TerminalStopping (first : Nat) (terminal : Terminal) : Prop where
  sound : TerminalSound first terminal
  requested : terminal.stopRequested = true
  alive : terminal.dead = false

theorem TerminalPlace.rank_le (place : TerminalPlace) : place.rank ≤ 5 := by
  cases place with
  | draining final | backpressured final => cases final <;> decide
  | _ => decide

theorem TerminalStopping.rank_le (stopping : TerminalStopping first terminal) :
    terminal.rank ≤ 50 + (terminal.written.length - terminal.delivered.length) := by
  have room : terminal.fifo.held ≤ 15 := stopping.sound.holds.sound.room
  have place := terminal.place.rank_le
  unfold Terminal.rank
  omega

theorem Terminal.drainTransmitRing_rank {final : Bool} (keepGoing : Bool) (stopping : TerminalStopping first terminal)
    (place : terminal.place = .draining final) :
    (terminal.drainTransmitRing final keepGoing).rank < terminal.rank := by
  have popped := stopping.sound.holds.pop
  have behind := stopping.sound.delivered.length_le
  unfold drainTransmitRing
  generalize popUartTransmit terminal.memory = result at popped ⊢
  obtain ⟨value, memory⟩ := result
  obtain ⟨next, _⟩ := popped
  cases value with
  | none =>
    simp only [rank, place]
    cases final with
    | false => exact Nat.add_lt_add_right (Nat.add_lt_add_left (by decide) _) _
    | true => exact Nat.add_lt_add_right (Nat.add_lt_add_left (by decide) _) _
  | some value =>
    obtain ⟨below, _⟩ := List.getElem?_eq_some_iff.mp next.symm
    have held : (terminal.fifo.consume value).held + 1 = terminal.fifo.held := by
      simp only [Fifo.held, Fifo.consume, List.length_append, List.length_singleton]
      omega
    have later : (if keepGoing then TerminalPlace.draining final else .backpressured final).rank ≤
        (TerminalPlace.draining final).rank + 1 := by
      cases keepGoing <;> cases final <;> decide
    simp only [rank, place, stopping.alive, Bool.not_false, Bool.and_true, Bool.false_eq_true, if_false,
      List.length_append, List.length_singleton]
    omega

theorem PumpTurn.stopping (turn : PumpTurn terminal after) (stopping : TerminalStopping first terminal) :
    TerminalStopping first after := by
  have sound := turn.sound stopping.sound
  cases turn with
  | pop keepGoing place =>
    refine ⟨sound, ?_, ?_⟩
    · unfold Terminal.drainTransmitRing
      split
      · exact stopping.requested
      · exact stopping.requested
    · unfold Terminal.drainTransmitRing
      split
      · exact stopping.alive
      · exact stopping.alive
  | _ => exact ⟨sound, stopping.requested, stopping.alive⟩

theorem PumpTurn.rank_lt (turn : PumpTurn terminal after) (stopping : TerminalStopping first terminal) :
    after.rank < terminal.rank := by
  have behind := stopping.sound.delivered.length_le
  cases turn with
  | pop keepGoing place => exact Terminal.drainTransmitRing_rank keepGoing stopping place
  | @drained final place alive =>
    have lower : (TerminalPlace.draining final).rank < (TerminalPlace.backpressured final).rank := by
      cases final <;> decide
    simp only [Terminal.rank, place]
    omega
  | raced place woken =>
    have lower : (TerminalPlace.draining true).rank < TerminalPlace.racing.rank := by decide
    simp only [Terminal.rank, place, stopping.requested]
    omega
  | deliver alive running next =>
    obtain ⟨below, _⟩ := List.getElem?_eq_some_iff.mp next
    simp only [Terminal.rank, List.length_append, List.length_singleton]
    omega
  | finish place alive flushed =>
    have lower : TerminalPlace.exited.rank < TerminalPlace.ending.rank := by decide
    simp only [Terminal.rank, place]
    omega

/-- There is always a turn to make before the exit. -/
theorem TerminalStopping.turns (stopping : TerminalStopping first terminal) (running : terminal.place ≠ .exited) :
    ∃ after, PumpTurn terminal after := by
  cases place : terminal.place with
  | draining final => exact ⟨_, .pop true place⟩
  | backpressured final => exact ⟨_, .drained place stopping.alive⟩
  | racing => exact ⟨_, .raced place (.inr stopping.requested)⟩
  | ending =>
    have ordered := stopping.sound.delivered
    by_cases flushed : terminal.delivered = terminal.written
    · exact ⟨_, .finish place stopping.alive flushed⟩
    have less : terminal.delivered.length < terminal.written.length := by
      refine Nat.lt_of_le_of_ne ordered.length_le fun same => ?_
      exact flushed (ordered.eq_of_length same)
    exact ⟨_, .deliver stopping.alive running (List.getElem?_eq_getElem less)⟩
  | exited => exact absurd place running

/-- After a stop, with a reader at the other end and no more bytes from the guest, the worker makes
at most fifty turns besides the deliveries outstanding, and when it can make no more it has exited
with all that had been sent before the stop delivered. -/
theorem terminal_flushes {middle : Terminal} (run : ReflTransGen TerminalStep terminal middle)
    (start : TerminalStart terminal) (requested : middle.stopRequested = true) (alive : middle.dead = false)
    (turns : RunIn PumpTurn count middle after) :
    count ≤ 50 + (middle.written.length - middle.delivered.length) ∧
      ((∀ next, ¬ PumpTurn after next) →
        after.place = .exited ∧ after.fifo.accepted.take after.due <+: after.delivered) := by
  have sound : TerminalSound (UartRing.transmit.tail terminal.memory) middle :=
    invariant_run (TerminalSound (UartRing.transmit.tail terminal.memory)) (fun _ _ step => step.sound) run
      start.sound
  have stopping : TerminalStopping (UartRing.transmit.tail terminal.memory) middle := ⟨sound, requested, alive⟩
  have bound := turns.rank_le (TerminalStopping (UartRing.transmit.tail terminal.memory)) Terminal.rank
    (fun _ _ turn => turn.stopping) (fun _ _ turn => turn.rank_lt) stopping
  refine ⟨(Nat.le_of_add_right_le bound).trans stopping.rank_le, fun stuck => ?_⟩
  have ended : TerminalStopping (UartRing.transmit.tail terminal.memory) after :=
    invariant_run (TerminalStopping (UartRing.transmit.tail terminal.memory)) (fun _ _ turn => turn.stopping)
      turns.reaches stopping
  have exited : after.place = .exited := by
    by_contra running
    obtain ⟨next, turn⟩ := ended.turns running
    exact stuck next turn
  refine ⟨exited, ?_⟩
  have knows := ended.sound.knows
  rw [exited] at knows
  rcases knows with dead | ⟨_, reached, flushed⟩
  · exact absurd (dead.symm.trans ended.alive) Bool.noConfusion
  exact ended.sound.flushed reached flushed ended.alive

theorem terminal_flushes_letter : ∃ terminal, ReflTransGen TerminalStep idleTerminal terminal ∧
    ∃ after, RunIn PumpTurn 6 terminal after ∧ after.place = .exited ∧
      6 ≤ 50 + (terminal.written.length - terminal.delivered.length) ∧
        ((∀ next, ¬ PumpTurn after next) →
          after.place = .exited ∧ after.fifo.accepted.take after.due <+: after.delivered) := by
  have sent : ReflTransGen TerminalStep idleTerminal _ := .single (@TerminalStep.guestStore _ 0 (by decide) 0x41)
  have stopped := sent.tail (.stop rfl)
  have popped := ((RunIn.refl { idleTerminal.guestStore 0 0x41 with
    stopRequested := true, due := (idleTerminal.guestStore 0 0x41).fifo.accepted.length }).tail
      (@PumpTurn.pop _ false true rfl)).tail
    (@PumpTurn.pop _ false true (by decide +kernel))
  have raced := popped.tail (.raced (by decide +kernel) (.inr (by decide +kernel)))
  have drained := raced.tail (@PumpTurn.pop _ true true (by decide +kernel))
  have delivered := drained.tail (@PumpTurn.deliver _ 0x41 (by decide +kernel) (by decide +kernel)
    (by decide +kernel))
  have exited := delivered.tail (.finish (by decide +kernel) (by decide +kernel) (by decide +kernel))
  exact ⟨_, stopped, _, exited, rfl, terminal_flushes stopped idleTerminal_start rfl rfl exited⟩

end YaRiscV.Emulator
