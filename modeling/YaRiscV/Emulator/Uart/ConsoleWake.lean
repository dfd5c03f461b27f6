import YaRiscV.Emulator.Uart.Console
import YaRiscV.Emulator.Machine

/-! When the terminal sleeps through a byte: it may park on a level that is up, and only
there does a push that follows not wake it. -/

namespace YaRiscV.Emulator

open YaRiscV.Library Relation

/-- The terminal sleeps on the level the word has, nothing is under way to wake it, and the
ring holds a byte. -/
def Console.LostWake (console : Console) : Prop :=
  console.terminal = .parked (txWakeLevel console.memory) ∧ uartTransmitPending console.memory = true ∧
    console.hart = .outside

/-- The terminal is about to park on a level that is up, with no notify to come. -/
def Console.StalePark (console : Console) : Prop :=
  console.terminal = .comparing 1 ∧ txWakeLevel console.memory = 1 ∧ console.hart ≠ .notifying

/-- The condition on a step: it is not one that parks on a level that is up. -/
def parksFresh (party : Party) (console : Console) : Prop :=
  party = .terminal → ¬ console.StalePark

def anyStep (_ : Party) (_ : Console) : Prop := True

variable {memory : Memory} {console before after : Console} {allowed : Party → Console → Prop}

/-! What an access leaves of the ring indices and the level. -/

/-- The slot a push is about to fill is one of the ring. -/
def PushPhase.SlotValid (phase : PushPhase) : Prop :=
  ∀ value tail, phase = .storingData value tail → tail < uartQueueCapacity

theorem pushTurn_head {phase : PushPhase} (valid : phase.SlotValid) :
    txHead (pushTurn memory phase).2 = txHead memory := by
  cases phase with
  | storingData value tail => exact (setElement_sameTransmit value (valid value tail rfl)).head
  | storingTail tail => exact txHead_storeTail _
  | exchanging => exact txHead_publish true
  | loadingTail value head =>
    rw [pushTurn]
    split <;> rfl
  | outside | loadingHead value | notifying => rfl

theorem pushTurn_tail {phase : PushPhase} (valid : phase.SlotValid) (other : ∀ tail, phase ≠ .storingTail tail) :
    txTail (pushTurn memory phase).2 = txTail memory := by
  cases phase with
  | storingData value tail => exact (setElement_sameTransmit value (valid value tail rfl)).tail
  | storingTail tail => exact absurd rfl (other tail)
  | exchanging => exact txTail_publish true
  | loadingTail value head =>
    rw [pushTurn]
    split <;> rfl
  | outside | loadingHead value | notifying => rfl

theorem pushTurn_level {phase : PushPhase} (valid : phase.SlotValid) (other : phase ≠ .exchanging) :
    txWakeLevel (pushTurn memory phase).2 = txWakeLevel memory := by
  cases phase with
  | storingData value tail => exact (setElement_sameTransmit value (valid value tail rfl)).level
  | storingTail tail => exact txWakeLevel_storeTail _
  | exchanging => exact absurd rfl other
  | loadingTail value head =>
    rw [pushTurn]
    split <;> rfl
  | outside | loadingHead value | notifying => rfl

theorem pumpTurn_tail (phase : PumpPhase) : txTail (pumpTurn memory phase).2 = txTail memory := by
  cases phase with
  | storingHead head tail value => exact txTail_storeHead _
  | exchanging dequeued nonempty => exact txTail_publish nonempty
  | poppingTail head =>
    rw [pumpTurn]
    split <;> rfl
  | _ => rfl

theorem pumpTurn_level {phase : PumpPhase} (other : ∀ dequeued nonempty, phase ≠ .exchanging dequeued nonempty) :
    txWakeLevel (pumpTurn memory phase).2 = txWakeLevel memory := by
  cases phase with
  | storingHead head tail value => exact txWakeLevel_storeHead _
  | exchanging dequeued nonempty => exact absurd rfl (other dequeued nonempty)
  | poppingTail head =>
    rw [pumpTurn]
    split <;> rfl
  | _ => rfl

/-! Every run. -/

/-- What holds of the console in any run. -/
structure ConsoleSound (console : Console) : Prop where
  tail : txTail console.memory < uartQueueCapacity
  slot : console.hart.SlotValid
  level : txWakeLevel console.memory = 0 ∨ txWakeLevel console.memory = 1
  head : ∀ fromLevel head, console.terminal = .recheckingTail fromLevel head → head = txHead console.memory

theorem ConsoleStart.sound (start : ConsoleStart console) : ConsoleSound console := by
  refine ⟨start.tail, fun value tail at_slot => ?_, .inl start.level, fun fromLevel head at_check => ?_⟩
  · rw [start.hart] at at_slot
    cases at_slot
  · rw [start.terminal] at at_check
    cases at_check

theorem publish_level (nonempty : Bool) : txWakeLevel (publishUartTransmitLevel memory nonempty) = 0 ∨
    txWakeLevel (publishUartTransmitLevel memory nonempty) = 1 := by
  rw [txWakeLevel_publish]
  cases nonempty with
  | false => exact .inl rfl
  | true => exact .inr rfl

/-- A notify wakes; it moves no terminal to another check. -/
theorem notify_recheckingTail {phase : PumpPhase} (at_check : phase.notify = .recheckingTail fromLevel head) :
    phase = .recheckingTail fromLevel head := by
  cases phase <;> first | exact at_check | cases at_check

theorem ConsoleSound.call (sound : ConsoleSound console) (value : BitVec 8) :
    ConsoleSound (console.act (.call value)) := by
  refine ⟨sound.tail, fun value tail at_slot => ?_, sound.level, sound.head⟩
  simp only [Console.act] at at_slot
  split at at_slot
  · cases at_slot
  · exact sound.slot value tail at_slot

theorem ConsoleSound.hartTurn (sound : ConsoleSound console) : ConsoleSound (console.act .hart) := by
  constructor
  case tail =>
    by_cases stores : ∃ tail, console.hart = .storingTail tail
    · obtain ⟨tail, stores⟩ := stores
      simp only [Console.act, stores, pushTurn, txTail_storeTail]
      exact Nat.mod_lt _ (by decide)
    · exact (pushTurn_tail sound.slot fun tail same => stores ⟨tail, same⟩).symm ▸ sound.tail
  case slot =>
    intro value tail at_slot
    simp only [Console.act] at at_slot
    cases phase : console.hart with
    | loadingTail value head =>
      rw [phase, pushTurn] at at_slot
      split at at_slot
      · cases at_slot
      · cases at_slot
        exact sound.tail
    | exchanging =>
      rw [phase, pushTurn] at at_slot
      dsimp only at at_slot
      split at at_slot <;> cases at_slot
    | _ =>
      rw [phase] at at_slot
      cases at_slot
  case level =>
    by_cases exchanges : console.hart = .exchanging
    · simp only [Console.act, exchanges, pushTurn]
      exact publish_level true
    · rw [show txWakeLevel (console.act .hart).memory = txWakeLevel console.memory from
        pushTurn_level sound.slot exchanges]
      exact sound.level
  case head =>
    intro fromLevel head at_check
    have kept : txHead (console.act .hart).memory = txHead console.memory := pushTurn_head sound.slot
    rw [kept]
    simp only [Console.act] at at_check
    split at at_check
    · exact sound.head fromLevel head (notify_recheckingTail at_check)
    · exact sound.head fromLevel head at_check

theorem pumpTurn_recheckingTail {phase : PumpPhase} (at_check : (pumpTurn memory phase).1 = .recheckingTail fromLevel head) :
    phase = .recheckingHead fromLevel ∧ head = txHead memory := by
  cases phase with
  | recheckingHead _ =>
    cases at_check
    exact ⟨rfl, rfl⟩
  | poppingTail _ | checkingTail _ | recheckingTail _ _ | comparing _ =>
    simp only [pumpTurn] at at_check
    split at at_check <;> cases at_check
  | exchanging dequeued nonempty =>
    rcases ite_eq_or_eq (txWakeLevel memory ≠ if nonempty then 1 else 0) (PumpPhase.notifying dequeued)
      (.popped dequeued) with same | same <;> cases same.symm.trans at_check
  | _ => cases at_check

theorem ConsoleSound.terminalTurn (sound : ConsoleSound console) : ConsoleSound (console.act .terminal) := by
  constructor
  case tail => exact (pumpTurn_tail console.terminal).symm ▸ sound.tail
  case slot => exact sound.slot
  case level =>
    by_cases exchanges : ∃ dequeued nonempty, console.terminal = .exchanging dequeued nonempty
    · obtain ⟨dequeued, nonempty, exchanges⟩ := exchanges
      simp only [Console.act, exchanges, pumpTurn]
      exact publish_level nonempty
    · rw [show txWakeLevel (console.act .terminal).memory = txWakeLevel console.memory from
        pumpTurn_level fun dequeued nonempty same => exchanges ⟨dequeued, nonempty, same⟩]
      exact sound.level
  case head =>
    intro fromLevel head at_check
    obtain ⟨phase, rfl⟩ := pumpTurn_recheckingTail at_check
    simp only [Console.act, phase, pumpTurn]

theorem ConsoleSound.step (sound : ConsoleSound before) (step : ConsoleStep allowed before after) :
    ConsoleSound after := by
  cases step with
  | act party may =>
    cases party with
    | call value => exact sound.call value
    | hart => exact sound.hartTurn
    | terminal => exact sound.terminalTurn
  | elsewhere same =>
    refine ⟨same.tail.symm ▸ sound.tail, sound.slot, same.level.symm ▸ sound.level, fun fromLevel head at_check => ?_⟩
    exact (sound.head fromLevel head at_check).trans same.head.symm

theorem ConsoleSound.run (start : ConsoleStart before) (run : ReflTransGen (ConsoleStep allowed) before after) :
    ConsoleSound after :=
  invariant_run ConsoleSound (fun _ _ step sound => sound.step step) run start.sound

/-! Runs that park on a level that is down only. -/

/-- The terminal that watches a level that is down has seen the ring empty since, or the hart
is about to raise the level; and it is parked on no other level but with a notify to come. -/
structure ConsoleWatched (console : Console) : Prop where
  sound : ConsoleSound console
  watched : console.terminal = .comparing 0 ∨ console.terminal = .parked 0 → txWakeLevel console.memory = 0 →
    txHead console.memory = txTail console.memory ∨ console.hart = .exchanging
  roused : ∀ fromLevel, console.terminal = .parked fromLevel → fromLevel = 0 ∨ console.hart = .notifying

theorem ConsoleStart.watched (start : ConsoleStart console) : ConsoleWatched console := by
  refine ⟨start.sound, fun _ _ => .inl start.empty, fun fromLevel at_park => ?_⟩
  rw [start.terminal] at at_park
  cases at_park

theorem ConsoleWatched.call (invariant : ConsoleWatched console) (value : BitVec 8) :
    ConsoleWatched (console.act (.call value)) := by
  refine ⟨invariant.sound.call value, fun watches low => ?_, fun fromLevel at_park => ?_⟩
  · rcases invariant.watched watches low with empty | exchanges
    · exact .inl empty
    · right
      simp [Console.act, exchanges]
  · rcases invariant.roused fromLevel at_park with low | notifies
    · exact .inl low
    · right
      simp [Console.act, notifies]

theorem notify_comparing {phase : PumpPhase} (watches : phase.notify = .comparing fromLevel) :
    phase = .comparing fromLevel := by
  cases phase <;> first | exact watches | cases watches

theorem notify_not_parked (phase : PumpPhase) (fromLevel : BitVec 32) : phase.notify ≠ .parked fromLevel := by
  cases phase <;> exact PumpPhase.noConfusion

theorem ConsoleWatched.hartTurn (invariant : ConsoleWatched console) : ConsoleWatched (console.act .hart) := by
  have terminal : (console.act .hart).terminal =
      if console.hart = .notifying then console.terminal.notify else console.terminal := rfl
  refine ⟨invariant.sound.hartTurn, fun watches low => ?_, fun fromLevel at_park => ?_⟩
  · have before : console.terminal = .comparing 0 ∨ console.terminal = .parked 0 := by
      rw [terminal] at watches
      split at watches
      · rcases watches with compares | parks
        · exact .inl (notify_comparing compares)
        · exact absurd parks (notify_not_parked _ _)
      · exact watches
    by_cases exchanges : console.hart = .exchanging
    · have raised : txWakeLevel (console.act .hart).memory = 1 := by
        simp only [Console.act, exchanges, pushTurn, txWakeLevel_publish, if_true]
      rw [raised] at low
      cases low
    by_cases stores : ∃ tail, console.hart = .storingTail tail
    · obtain ⟨tail, stores⟩ := stores
      right
      simp only [Console.act, stores, pushTurn]
    · left
      have level : txWakeLevel (console.act .hart).memory = txWakeLevel console.memory :=
        pushTurn_level invariant.sound.slot exchanges
      rw [level] at low
      rcases invariant.watched before low with empty | exchanging
      · refine (pushTurn_head invariant.sound.slot).trans (empty.trans ?_)
        exact (pushTurn_tail invariant.sound.slot fun tail same => stores ⟨tail, same⟩).symm
      · exact absurd exchanging exchanges
  · rw [terminal] at at_park
    split at at_park
    · exact absurd at_park (notify_not_parked _ _)
    · rename_i quiet
      exact .inl ((invariant.roused fromLevel at_park).resolve_right quiet)

/-- The terminal compares after its second look found the ring empty. -/
theorem pumpTurn_comparing {phase : PumpPhase} (compares : (pumpTurn memory phase).1 = .comparing fromLevel) :
    ∃ head, phase = .recheckingTail fromLevel head ∧ head = txTail memory := by
  cases phase with
  | recheckingTail _ head =>
    simp only [pumpTurn] at compares
    split at compares
    · cases compares
    · rename_i empty
      cases compares
      exact ⟨head, rfl, not_not.mp empty⟩
  | poppingTail _ | checkingTail _ | comparing _ =>
    simp only [pumpTurn] at compares
    split at compares <;> cases compares
  | exchanging dequeued nonempty =>
    rcases ite_eq_or_eq (txWakeLevel memory ≠ if nonempty then 1 else 0) (PumpPhase.notifying dequeued)
      (.popped dequeued) with same | same <;> cases same.symm.trans compares
  | _ => cases compares

/-- The terminal parks on the level it finds. -/
theorem pumpTurn_parked {phase : PumpPhase} (parks : (pumpTurn memory phase).1 = .parked fromLevel) :
    phase = .parked fromLevel ∨ phase = .comparing fromLevel ∧ txWakeLevel memory = fromLevel := by
  cases phase with
  | comparing _ =>
    simp only [pumpTurn] at parks
    split at parks
    · cases parks
    · rename_i same
      cases parks
      exact .inr ⟨rfl, not_not.mp same⟩
  | parked _ => exact .inl parks
  | poppingTail _ | checkingTail _ | recheckingTail _ _ =>
    simp only [pumpTurn] at parks
    split at parks <;> cases parks
  | exchanging dequeued nonempty =>
    rcases ite_eq_or_eq (txWakeLevel memory ≠ if nonempty then 1 else 0) (PumpPhase.notifying dequeued)
      (.popped dequeued) with same | same <;> cases same.symm.trans parks
  | _ => cases parks

theorem pumpTurn_watching {phase : PumpPhase}
    (watches : phase = .parked fromLevel ∨ phase = .comparing fromLevel) : (pumpTurn memory phase).2 = memory := by
  rcases watches with rfl | rfl <;> rfl

theorem ConsoleWatched.terminalTurn (invariant : ConsoleWatched console) (fresh : ¬ console.StalePark) :
    ConsoleWatched (console.act .terminal) := by
  refine ⟨invariant.sound.terminalTurn, fun watches low => ?_, fun fromLevel at_park => ?_⟩
  · rcases watches with compares | parks
    · obtain ⟨head, phase, empty⟩ := pumpTurn_comparing compares
      left
      simp only [Console.act, phase, pumpTurn]
      exact (invariant.sound.head 0 head phase).symm.trans empty
    · have phase := pumpTurn_parked parks
      have same : (console.act .terminal).memory = console.memory :=
        pumpTurn_watching (phase.imp_right And.left)
      rw [same] at low ⊢
      exact invariant.watched (phase.imp_right And.left).symm low
  · rcases pumpTurn_parked at_park with phase | ⟨phase, same⟩
    · exact invariant.roused fromLevel phase
    · rcases invariant.sound.level with low | high
      · exact .inl (same.symm.trans low)
      · right
        by_contra quiet
        have one : fromLevel = 1 := same.symm.trans high
        exact fresh ⟨one ▸ phase, high, quiet⟩

theorem ConsoleWatched.step (invariant : ConsoleWatched before) (step : ConsoleStep parksFresh before after) :
    ConsoleWatched after := by
  cases step with
  | act party may =>
    cases party with
    | call value => exact invariant.call value
    | hart => exact invariant.hartTurn
    | terminal => exact invariant.terminalTurn (may rfl)
  | elsewhere same =>
    have moved : ConsoleStep anyStep before _ := .elsewhere same
    refine ⟨invariant.sound.step moved, ?_, invariant.roused⟩
    intro watches low
    rw [same.level] at low
    rw [same.head, same.tail]
    exact invariant.watched watches low

theorem ConsoleWatched.notLost (invariant : ConsoleWatched console) : ¬ console.LostWake := by
  rintro ⟨parked, pending, outside⟩
  have nonempty : txHead console.memory ≠ txTail console.memory := by
    simpa [uartTransmitPending, txHead, txTail] using pending
  rcases invariant.roused _ parked with low | notifies
  · rw [low] at parked
    rcases invariant.watched (.inr parked) low with empty | exchanges
    · exact nonempty empty
    · rw [outside] at exchanges
      cases exchanges
  · rw [outside] at notifies
    cases notifies

/-! A run that parks on a level that is up. -/

theorem acts_run (console : Console) (schedule : List Party) :
    ReflTransGen (ConsoleStep anyStep) console (console.acts schedule) := by
  induction schedule generalizing console with
  | nil => exact .refl
  | cons party rest ih => exact .head (.act party trivial) (ih (console.act party))

/-- Asleep on a level that is up, with no notify to come. -/
structure StaleParked (console : Console) : Prop where
  sound : ConsoleSound console
  parked : console.terminal = .parked 1
  level : txWakeLevel console.memory = 1
  quiet : console.hart ≠ .notifying

theorem ConsoleSound.parks (sound : ConsoleSound console) (stale : console.StalePark) :
    StaleParked (console.act .terminal) := by
  obtain ⟨compares, level, quiet⟩ := stale
  have same : (console.act .terminal).memory = console.memory := pumpTurn_watching (.inr compares)
  refine ⟨sound.terminalTurn, ?_, same ▸ level, quiet⟩
  simp only [Console.act, compares, pumpTurn]
  exact if_neg (not_not.mpr level)

/-- How many accesses a push has left at most. -/
def PushPhase.remaining : PushPhase → Nat
  | .outside => 0
  | .notifying => 1
  | .exchanging => 2
  | .storingTail _ => 3
  | .storingData _ _ => 4
  | .loadingTail _ _ => 5
  | .loadingHead _ => 6

/-- The hart comes nearer to the end of its push, and wakes nobody. -/
theorem StaleParked.hartTurn (stale : StaleParked console) : StaleParked (console.act .hart) ∧
    (console.hart ≠ .outside → (console.act .hart).hart.remaining < console.hart.remaining) := by
  have terminal : (console.act .hart).terminal = .parked 1 := by
    simp only [Console.act, if_neg stale.quiet]
    exact stale.parked
  by_cases exchanges : console.hart = .exchanging
  · have next : (console.act .hart).hart = .outside := by
      simp only [Console.act, exchanges, pushTurn]
      exact if_neg (not_not.mpr stale.level)
    refine ⟨⟨stale.sound.hartTurn, terminal, ?_, ?_⟩, fun _ => ?_⟩
    · simp only [Console.act, exchanges, pushTurn, txWakeLevel_publish, if_true]
    · rw [next]
      exact PushPhase.noConfusion
    · rw [next, exchanges]
      decide
  · have level := (pushTurn_level stale.sound.slot exchanges).trans stale.level
    have next : (console.act .hart).hart ≠ .notifying ∧ (console.hart ≠ .outside →
        (console.act .hart).hart.remaining < console.hart.remaining) := by
      simp only [Console.act]
      cases phase : console.hart with
      | exchanging => exact absurd phase exchanges
      | notifying => exact absurd phase stale.quiet
      | outside => exact ⟨PushPhase.noConfusion, fun inside => absurd rfl inside⟩
      | loadingTail value head =>
        rw [pushTurn]
        split
        · exact ⟨PushPhase.noConfusion, fun _ => Nat.succ_pos 4⟩
        · exact ⟨PushPhase.noConfusion, fun _ => Nat.lt_succ_self 4⟩
      | loadingHead value => exact ⟨PushPhase.noConfusion, fun _ => Nat.lt_succ_self 5⟩
      | storingData value tail => exact ⟨PushPhase.noConfusion, fun _ => Nat.lt_succ_self 3⟩
      | storingTail tail => exact ⟨PushPhase.noConfusion, fun _ => Nat.lt_succ_self 2⟩
    exact ⟨⟨stale.sound.hartTurn, terminal, level, next.1⟩, next.2⟩

/-- The hart ends the push it is in with the terminal still asleep. -/
theorem StaleParked.settles (stale : StaleParked console) : ∃ count,
    StaleParked (console.acts (List.replicate count .hart)) ∧
      (console.acts (List.replicate count .hart)).hart = .outside := by
  generalize bound : console.hart.remaining = remaining
  induction remaining using Nat.strong_induction_on generalizing console with
  | _ remaining ih =>
    by_cases outside : console.hart = .outside
    · exact ⟨0, stale, outside⟩
    · obtain ⟨next, nearer⟩ := stale.hartTurn
      obtain ⟨count, settled⟩ := ih _ (bound ▸ nearer outside) next rfl
      exact ⟨count + 1, settled⟩

/-- The next byte is pushed over the sleeping terminal. -/
theorem StaleParked.push (stale : StaleParked console) (outside : console.hart = .outside)
    (empty : txHead console.memory = txTail console.memory) :
    (console.acts [.call 0, .hart, .hart, .hart, .hart, .hart]).LostWake := by
  obtain ⟨memory, hart, terminal⟩ := console
  obtain rfl : hart = .outside := outside
  obtain rfl : terminal = .parked 1 := stale.parked
  have valid : txTail memory < 16 := stale.sound.tail
  have level : txWakeLevel memory = 1 := stale.level
  dsimp only at empty
  have room : queueIsFull (txHead memory) (txTail memory) = false := by
    simp only [queueIsFull, uartQueueCapacity, beq_eq_false_iff_ne, empty]
    omega
  have stored : SameTransmit memory (memory.setElement (txDataIndex memory (txTail memory)) 0) :=
    setElement_sameTransmit 0 valid
  have kept : txWakeLevel (storeMetaByte (memory.setElement (txDataIndex memory (txTail memory)) 0) metaTxTail
      ((txTail memory + 1) % uartQueueCapacity)) = 1 :=
    (txWakeLevel_storeTail _).trans (stored.level.trans level)
  have final : (Console.mk memory .outside (.parked 1)).acts [.call 0, .hart, .hart, .hart, .hart, .hart] =
      ⟨publishUartTransmitLevel (storeMetaByte (memory.setElement (txDataIndex memory (txTail memory)) 0) metaTxTail
        ((txTail memory + 1) % uartQueueCapacity)) true, .outside, .parked 1⟩ := by
    simp only [Console.acts, Console.act, pushTurn, room, Bool.false_eq_true, if_true, if_false, List.foldl_cons,
      List.foldl_nil]
    rw [if_neg (not_not.mpr kept)]
    rfl
  rw [final]
  refine ⟨?_, ?_, rfl⟩
  · rw [txWakeLevel_publish]
    rfl
  · have head : txHead (publishUartTransmitLevel (storeMetaByte (memory.setElement
        (txDataIndex memory (txTail memory)) 0) metaTxTail ((txTail memory + 1) % uartQueueCapacity)) true) =
        txTail memory := by
      rw [txHead_publish, txHead_storeTail, stored.head, empty]
    have tail : txTail (publishUartTransmitLevel (storeMetaByte (memory.setElement
        (txDataIndex memory (txTail memory)) 0) metaTxTail ((txTail memory + 1) % uartQueueCapacity)) true) =
        (txTail memory + 1) % 16 := by
      rw [txTail_publish, txTail_storeTail, uartQueueCapacity]
    rw [txHead] at head
    rw [txTail] at tail
    simp only [uartTransmitPending, head, tail, bne_iff_ne]
    omega

/-- A terminal that is asleep on a level that is up misses a byte that the hart can still push. -/
theorem StaleParked.loses (stale : StaleParked console) : ∃ schedule, (console.acts schedule).LostWake ∧
    ∀ party ∈ schedule, party ≠ .terminal := by
  obtain ⟨count, settled, outside⟩ := stale.settles
  have hart : ∀ party ∈ List.replicate count Party.hart, party ≠ .terminal := by
    intro party member
    rw [List.eq_of_mem_replicate member]
    exact Party.noConfusion
  generalize List.replicate count Party.hart = first at settled outside hart
  by_cases empty : txHead (console.acts first).memory = txTail (console.acts first).memory
  · refine ⟨first ++ [.call 0, .hart, .hart, .hart, .hart, .hart], ?_, ?_⟩
    · rw [Console.acts, List.foldl_append]
      exact settled.push outside empty
    · intro party member
      rcases List.mem_append.mp member with early | late
      · exact hart party early
      · rintro rfl
        simp at late
  · refine ⟨first, ⟨?_, ?_, outside⟩, hart⟩
    · rw [settled.level]
      exact settled.parked
    · simpa [uartTransmitPending, txHead, txTail] using empty

/-- No wake-up is lost in a run that never parks on a level that is up with no notify to come;
and from each such parking the hart alone goes on to where one is lost. -/
theorem console_wakes {initial : Console} (start : ConsoleStart initial) :
    (∀ console, ReflTransGen (ConsoleStep parksFresh) initial console → ¬ console.LostWake) ∧
      ∀ console, ReflTransGen (ConsoleStep anyStep) initial console → console.StalePark →
        ∃ schedule, ((console.act .terminal).acts schedule).LostWake ∧ ∀ party ∈ schedule, party ≠ .terminal := by
  refine ⟨fun console run => ?_, fun console run stale => ?_⟩
  · have invariant := invariant_run ConsoleWatched (fun _ _ step invariant => invariant.step step) run start.watched
    exact invariant.notLost
  · have sound : ConsoleSound console := ConsoleSound.run start run
    exact (sound.parks stale).loses

/-- The console of the default machine at reset. -/
def resetConsole : Console := ⟨defaultMemory, .outside, .poppingHead⟩

theorem resetConsole_start : ConsoleStart resetConsole := by
  refine ⟨by rfl, by decide, by rfl, rfl, rfl⟩

theorem console_wakes_reset :
    (∀ console, ReflTransGen (ConsoleStep parksFresh) resetConsole console → ¬ console.LostWake) ∧
      ∀ console, ReflTransGen (ConsoleStep anyStep) resetConsole console → console.StalePark →
        ∃ schedule, ((console.act .terminal).acts schedule).LostWake ∧ ∀ party ∈ schedule, party ≠ .terminal :=
  console_wakes resetConsole_start

/-- The byte is taken and the level lowered between the tail store and the exchange of its
push, which then raises the level over an empty ring. -/
def overtakenSchedule : List Party :=
  [.call 0x41, .hart, .hart, .hart, .hart] ++ List.replicate 6 .terminal ++ [.hart, .hart] ++
    List.replicate 8 .terminal ++ [.call 0x42, .hart, .hart, .hart, .hart, .hart]

theorem console_loses_wake : ConsoleStart resetConsole ∧
    ReflTransGen (ConsoleStep anyStep) resetConsole (resetConsole.acts overtakenSchedule) ∧
      (resetConsole.acts overtakenSchedule).LostWake := by
  refine ⟨resetConsole_start, acts_run _ _, ?_, ?_, ?_⟩
  · rfl
  · rfl
  · rfl

end YaRiscV.Emulator
