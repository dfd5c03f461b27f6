import YaRiscV.Emulator.Uart.Rings

/-! One ring of the UART in any interleaving of its producer, its consumer and whatever else
happens in the buffer: a queue of at most fifteen bytes. -/

namespace YaRiscV.Emulator

open YaRiscV.Library Relation

/-- A call at one end of a ring: what had passed that end before, the accesses made so far,
and how many bytes the ring has held since. -/
structure RingCall where
  before : List (BitVec 8)
  accesses : Nat
  moments : List Nat

/-- A call that begins now. -/
def RingCall.opened (fifo : Fifo (BitVec 8)) (before : List (BitVec 8)) : RingCall := ⟨before, 0, [fifo.held]⟩

/-- The buffer, where the two parties are, what has passed through the ring, and the last call
of each party. -/
structure RingState where
  memory : Memory
  producer : EnqueuePlace
  consumer : DequeuePlace
  fifo : Fifo (BitVec 8)
  /-- The byte the producer was last called with. -/
  pushed : BitVec 8
  push : RingCall
  pop : RingCall

namespace RingState

variable (ring : UartRing) (state : RingState)

/-- A step to a new state, whose length is one more moment of both calls. -/
def goTo (memory : Memory) (producer : EnqueuePlace) (consumer : DequeuePlace) (fifo : Fifo (BitVec 8)) : RingState :=
  { state with
    memory, producer, consumer, fifo
    push.moments := state.push.moments ++ [fifo.held]
    pop.moments := state.pop.moments ++ [fifo.held] }

def countPush : RingState := { state with push.accesses := state.push.accesses + 1 }

def countPop : RingState := { state with pop.accesses := state.pop.accesses + 1 }

/-- The producer's next access; its store of the tail takes the byte in. -/
def produce : RingState :=
  countPush <| state.goTo (ring.enqueueTurn state.memory state.producer).2
    (ring.enqueueTurn state.memory state.producer).1 state.consumer <|
    match state.producer with
    | .storingTail value _ => state.fifo.accept value
    | _ => state.fifo

/-- The consumer's next access; its store of the head gives the byte out. -/
def consume : RingState :=
  countPop <| state.goTo (ring.dequeueTurn state.memory state.consumer).2 state.producer
    (ring.dequeueTurn state.memory state.consumer).1 <|
    match state.consumer with
    | .storingHead _ _ value => state.fifo.consume value
    | _ => state.fifo

end RingState

/-- One step of any interleaving. -/
inductive RingStep (ring : UartRing) : RingState → RingState → Prop
  | enqueue {state : RingState} (value : BitVec 8) (idle : state.producer.idle = true) :
      RingStep ring state { state with
        producer := .loadingHead value
        pushed := value
        push := .opened state.fifo state.fifo.accepted }
  | dequeue {state : RingState} (idle : state.consumer.idle = true) :
      RingStep ring state { state with consumer := .loadingHead, pop := .opened state.fifo state.fifo.consumed }
  | produce (state : RingState) : RingStep ring state (state.produce ring)
  | consume (state : RingState) : RingStep ring state (state.consume ring)
  | elsewhere {state : RingState} {after : Memory} (same : ring.Same state.memory after) :
      RingStep ring state (state.goTo after state.producer state.consumer state.fifo)

/-- An empty ring before the first call. -/
structure RingStart (ring : UartRing) (state : RingState) : Prop where
  empty : ring.head state.memory = ring.tail state.memory
  inside : ring.tail state.memory < uartQueueCapacity
  producer : state.producer = .outside
  consumer : state.consumer = .outside
  fifo : state.fifo = .empty

/-- Nothing is lost, duplicated or reordered: what a call returns says what it has put into the
ring or taken out of it, and no call makes more than five accesses. -/
structure RingLossless (state : RingState) : Prop where
  order : state.fifo.consumed <+: state.fifo.accepted
  room : state.fifo.accepted.length ≤ state.fifo.consumed.length + 15
  accepts : state.producer = .returned true → state.fifo.accepted = state.push.before ++ [state.pushed]
  refuses : state.producer = .returned false →
    state.fifo.accepted = state.push.before ∧ 15 ∈ state.push.moments
  gives : ∀ dequeued, state.consumer = .returned (some dequeued) →
    state.fifo.consumed = state.pop.before ++ [dequeued.value]
  empty : state.consumer = .returned none → state.fifo.consumed = state.pop.before ∧ 0 ∈ state.pop.moments
  pushes : state.producer.idle = false → state.push.accesses < 5
  pops : state.consumer.idle = false → state.pop.accesses < 5

theorem uartQueueCapacity_pos : 0 < uartQueueCapacity := by decide

variable {ring : UartRing} {memory after : Memory} {state next : RingState} {first : Nat} {fifo : Fifo (BitVec 8)}
  {moments : List Nat} {slot : Nat → BitVec 8}

/-- What the producer's locals say about the queue. -/
def EnqueueKnows (first : Nat) (slot : Nat → BitVec 8) (fifo : Fifo (BitVec 8)) (moments : List Nat) :
    EnqueuePlace → Prop
  | .loadingTail _ head => ∃ seen ≤ fifo.consumed.length, head = (first + seen) % uartQueueCapacity ∧
      fifo.accepted.length < seen + uartQueueCapacity ∧ fifo.accepted.length - seen ∈ moments
  | .storingData _ tail => tail = (first + fifo.accepted.length) % uartQueueCapacity ∧ fifo.held < 15
  | .storingTail value tail =>
    tail = (first + fifo.accepted.length) % uartQueueCapacity ∧ fifo.held < 15 ∧ slot tail = value
  | .returned accepted => accepted = false → 15 ∈ moments
  | _ => True

/-- What the consumer's locals say about the queue. -/
def DequeueKnows (first : Nat) (fifo : Fifo (BitVec 8)) (moments : List Nat) : DequeuePlace → Prop
  | .loadingTail head => head = (first + fifo.consumed.length) % uartQueueCapacity
  | .readingData head _ =>
    head = (first + fifo.consumed.length) % uartQueueCapacity ∧ fifo.consumed.length < fifo.accepted.length
  | .storingHead head _ value =>
    head = (first + fifo.consumed.length) % uartQueueCapacity ∧ fifo.accepted[fifo.consumed.length]? = some value
  | .returned dequeued => dequeued = none → 0 ∈ moments
  | _ => True

/-- What holds in every run. -/
structure RingSound (ring : UartRing) (first : Nat) (state : RingState) : Prop where
  holds : RingHolds uartQueueCapacity first (ring.head state.memory) (ring.tail state.memory)
    (ring.slot state.memory) state.fifo
  producer : EnqueueKnows first (ring.slot state.memory) state.fifo state.push.moments state.producer
  consumer : DequeueKnows first state.fifo state.pop.moments state.consumer

theorem RingStart.sound (start : RingStart ring state) : RingSound ring (ring.tail state.memory) state where
  holds := {
    head := by
      rw [start.fifo, start.empty]
      exact (Nat.mod_eq_of_lt start.inside).symm
    tail := by
      rw [start.fifo]
      exact (Nat.mod_eq_of_lt start.inside).symm
    sound := by
      rw [start.fifo]
      exact Fifo.empty_sound _
    slots := by
      rw [start.fifo]
      nofun }
  producer := by
    rw [start.producer]
    trivial
  consumer := by
    rw [start.consumer]
    trivial

/-! What one party knows stays true when the other acts. -/

theorem EnqueueKnows.later {place : EnqueuePlace} (knows : EnqueueKnows first slot fifo moments place)
    (moment : Nat) : EnqueueKnows first slot fifo (moments ++ [moment]) place := by
  cases place with
  | loadingTail value head =>
    obtain ⟨seen, before, index, close, held⟩ := knows
    exact ⟨seen, before, index, close, List.mem_append_left _ held⟩
  | returned accepted => exact fun refused => List.mem_append_left _ (knows refused)
  | _ => exact knows

theorem EnqueueKnows.congr {place : EnqueuePlace} {slot' : Nat → BitVec 8}
    (knows : EnqueueKnows first slot fifo moments place) (same : ∀ index < uartQueueCapacity, slot' index = slot index) :
    EnqueueKnows first slot' fifo moments place := by
  cases place with
  | storingTail value tail =>
    obtain ⟨index, room, written⟩ := knows
    refine ⟨index, room, ?_⟩
    rw [same, written]
    rw [index]
    exact Nat.mod_lt _ uartQueueCapacity_pos
  | _ => exact knows

theorem EnqueueKnows.consume {place : EnqueuePlace} (knows : EnqueueKnows first slot fifo moments place)
    (value : BitVec 8) : EnqueueKnows first slot (fifo.consume value) moments place := by
  have less : (fifo.consume value).held ≤ fifo.held := by
    simp only [Fifo.held, Fifo.consume, List.length_append]
    omega
  cases place with
  | loadingTail value head =>
    obtain ⟨seen, before, index, close, held⟩ := knows
    refine ⟨seen, ?_, index, close, held⟩
    rw [Fifo.consume, List.length_append]
    omega
  | storingData value tail => exact ⟨knows.1, Nat.lt_of_le_of_lt less knows.2⟩
  | storingTail value tail => exact ⟨knows.1, Nat.lt_of_le_of_lt less knows.2.1, knows.2.2⟩
  | _ => exact knows

theorem DequeueKnows.later {place : DequeuePlace} (knows : DequeueKnows first fifo moments place) (moment : Nat) :
    DequeueKnows first fifo (moments ++ [moment]) place := by
  cases place with
  | returned dequeued => exact fun nothing => List.mem_append_left _ (knows nothing)
  | _ => exact knows

theorem DequeueKnows.accept {place : DequeuePlace} (knows : DequeueKnows first fifo moments place) (value : BitVec 8) :
    DequeueKnows first (fifo.accept value) moments place := by
  cases place with
  | readingData head tail =>
    refine ⟨knows.1, ?_⟩
    rw [Fifo.accept, List.length_append]
    exact Nat.lt_add_right _ knows.2
  | storingHead head tail value =>
    refine ⟨knows.1, ?_⟩
    obtain ⟨below, _⟩ := List.getElem?_eq_some_iff.mp knows.2
    rw [Fifo.accept, List.getElem?_append_left below]
    exact knows.2
  | _ => exact knows

/-- A step that leaves ring and queue alone. -/
theorem RingSound.unchanged (sound : RingSound ring first state) (same : ring.Same state.memory memory)
    (producer : EnqueueKnows first (ring.slot state.memory) state.fifo (state.push.moments ++ [state.fifo.held]) place)
    (consumer : DequeueKnows first state.fifo (state.pop.moments ++ [state.fifo.held]) place') :
    RingSound ring first (state.goTo memory place place' state.fifo) where
  holds := by
    change RingHolds _ _ (ring.head memory) (ring.tail memory) (ring.slot memory) state.fifo
    rw [same.head, same.tail]
    exact sound.holds.congr same.slots uartQueueCapacity_pos
  producer := producer.congr same.slots
  consumer := consumer

theorem RingSound.countPush (sound : RingSound ring first state) : RingSound ring first state.countPush :=
  ⟨sound.holds, sound.producer, sound.consumer⟩

theorem RingSound.countPop (sound : RingSound ring first state) : RingSound ring first state.countPop :=
  ⟨sound.holds, sound.producer, sound.consumer⟩

theorem RingSound.produce (sound : RingSound ring first state) : RingSound ring first (state.produce ring) := by
  have knows := sound.producer
  have later := knows.later state.fifo.held
  have waits := sound.consumer.later state.fifo.held
  have holds := sound.holds
  have same := ring.same_refl state.memory
  unfold RingState.produce
  apply RingSound.countPush
  cases place : state.producer with
  | outside | returned accepted =>
    rw [place] at later
    exact sound.unchanged same later waits
  | loadingHead value =>
    refine sound.unchanged same ?_ waits
    exact ⟨_, Nat.le_refl _, holds.head, holds.close uartQueueCapacity_pos, List.mem_append_right _ List.mem_cons_self⟩
  | loadingTail value head =>
    rw [place] at knows later
    obtain ⟨seen, before, index, close, held⟩ := knows
    have ordered : seen ≤ state.fifo.accepted.length := before.trans holds.sound.length_le
    have full : queueIsFull head (ring.tail state.memory) = true ↔ state.fifo.accepted.length + 1 = seen + 16 := by
      rw [queueIsFull, beq_iff_eq, holds.tail, index]
      exact index_full_iff ordered close
    simp only [UartRing.enqueueTurn]
    split
    · rename_i refused
      refine sound.unchanged same (fun _ => List.mem_append_left _ ?_) waits
      have turn := full.mp refused
      rwa [show state.fifo.accepted.length - seen = 15 by omega] at held
    · rename_i room
      refine sound.unchanged same ⟨holds.tail, ?_⟩ waits
      rw [full] at room
      simp only [Fifo.held, uartQueueCapacity] at close ⊢
      omega
  | storingData value tail =>
    rw [place] at knows
    obtain ⟨placed, room⟩ := knows
    have small : tail < uartQueueCapacity := placed ▸ Nat.mod_lt _ uartQueueCapacity_pos
    have written : ∀ index < uartQueueCapacity,
        ring.slot (state.memory.setElement (ring.dataIndex state.memory tail) value) index =
          if index = tail then value else ring.slot state.memory index :=
      fun index inside => UartRing.slot_setElement value small inside
    refine ⟨?_, ⟨placed, room, ?_⟩, waits⟩
    · change RingHolds _ _ (metaByte (state.memory.setElement (ring.dataIndex state.memory tail) value) ring.headOffset)
        (metaByte (state.memory.setElement (ring.dataIndex state.memory tail) value) ring.tailOffset)
        (ring.slot (state.memory.setElement (ring.dataIndex state.memory tail) value)) state.fifo
      rw [UartRing.metaByte_setElement value small ring.headOffset_lt,
        UartRing.metaByte_setElement value small ring.tailOffset_lt]
      refine holds.write room fun index inside apart => ?_
      rw [written index inside, if_neg]
      rwa [holds.tail, ← placed] at apart
    · exact (written tail small).trans (if_pos rfl)
  | storingTail value tail =>
    rw [place] at knows
    obtain ⟨index, room, written⟩ := knows
    have tailed : ring.tail state.memory = tail := holds.tail.trans index.symm
    refine ⟨?_, ?_, (sound.consumer.accept value).later _⟩
    · change RingHolds _ _ (ring.head (storeMetaByte state.memory ring.tailOffset _))
        (ring.tail (storeMetaByte state.memory ring.tailOffset _)) (ring.slot _) (state.fifo.accept value)
      rw [UartRing.head_storeTail, UartRing.tail_storeTail]
      refine RingHolds.congr ?_ (fun index inside => UartRing.slot_storeMetaByte _ ring.tailOffset_lt inside)
        uartQueueCapacity_pos
      rw [← tailed] at written ⊢
      exact holds.push room written
    · cases ring with
      | receive => exact fun refused => absurd refused.symm Bool.false_ne_true
      | transmit => trivial
  | publishing =>
    refine sound.unchanged (UartRing.same_publish true) ?_ waits
    exact fun refused => absurd refused.symm Bool.false_ne_true

theorem RingSound.consume (sound : RingSound ring first state) : RingSound ring first (state.consume ring) := by
  have knows := sound.consumer
  have later := sound.producer.later state.fifo.held
  have holds := sound.holds
  have same := ring.same_refl state.memory
  have waits := knows.later state.fifo.held
  unfold RingState.consume
  apply RingSound.countPop
  cases place : state.consumer with
  | outside | returned dequeued =>
    rw [place] at waits
    exact sound.unchanged same later waits
  | loadingHead => exact sound.unchanged same later holds.head
  | loadingTail head =>
    rw [place] at knows
    have empty := holds.empty_iff uartQueueCapacity_pos
    simp only [UartRing.dequeueTurn]
    split
    · rename_i met
      rw [knows.trans holds.head.symm, empty] at met
      refine sound.unchanged same later fun _ => List.mem_append_right _ (List.mem_singleton.mpr ?_)
      rw [Fifo.held, met, Nat.sub_self]
    · rename_i unempty
      refine sound.unchanged same later ⟨knows, ?_⟩
      have ordered := holds.sound.length_le
      rw [knows.trans holds.head.symm, empty] at unempty
      omega
  | readingData head tail =>
    rw [place] at knows
    refine sound.unchanged same later ⟨knows.1, ?_⟩
    rw [holds.next knows.2, holds.head, ← knows.1]
    rfl
  | storingHead head tail value =>
    rw [place] at knows
    have headed : ring.head state.memory = head := holds.head.trans knows.1.symm
    have slots : ∀ index < uartQueueCapacity, ring.slot (storeMetaByte state.memory ring.headOffset
        ((head + 1) % uartQueueCapacity)) index = ring.slot state.memory index :=
      fun index inside => UartRing.slot_storeMetaByte _ ring.headOffset_lt inside
    refine ⟨?_, ?_, ?_⟩
    · change RingHolds _ _ (ring.head (storeMetaByte state.memory ring.headOffset _))
        (ring.tail (storeMetaByte state.memory ring.headOffset _)) (ring.slot _) (state.fifo.consume value)
      rw [UartRing.head_storeHead, UartRing.tail_storeHead]
      refine RingHolds.congr ?_ slots uartQueueCapacity_pos
      rw [← headed]
      exact holds.pop knows.2
    · exact ((sound.producer.consume value).later _).congr slots
    · cases ring with
      | receive => exact fun nothing => absurd nothing (Option.some_ne_none _)
      | transmit => trivial
  | publishing head tail value =>
    refine sound.unchanged (UartRing.same_publish _) later ?_
    exact fun nothing => absurd nothing (Option.some_ne_none _)

/-- Every step of a ring is one of the queue, or none. -/
theorem RingStep.refines (step : RingStep ring state next) (sound : RingSound ring first state) :
    FifoStep 15 state.fifo next.fifo := by
  cases step with
  | enqueue | dequeue | elsewhere => exact .keep _
  | produce =>
    have knows := sound.producer
    unfold RingState.produce
    cases place : state.producer with
    | storingTail value tail =>
      rw [place] at knows
      exact .accept value knows.2.1
    | _ => exact .keep _
  | consume =>
    have knows := sound.consumer
    unfold RingState.consume
    cases place : state.consumer with
    | storingHead head tail value =>
      rw [place] at knows
      exact .consume knows.2
    | _ => exact .keep _

theorem RingStep.sound (step : RingStep ring state next) (sound : RingSound ring first state) :
    RingSound ring first next := by
  cases step with
  | enqueue value idle => exact ⟨sound.holds, trivial, sound.consumer⟩
  | dequeue idle => exact ⟨sound.holds, sound.producer, trivial⟩
  | produce => exact sound.produce
  | consume => exact sound.consume
  | elsewhere same => exact sound.unchanged same (sound.producer.later _) (sound.consumer.later _)

/-! What a call has put into the ring or taken out of it so far, and the accesses it has made. -/

def EnqueuePlace.Accounts (pushed : BitVec 8) (before : List (BitVec 8)) (accesses : Nat)
    (accepted : List (BitVec 8)) : EnqueuePlace → Prop
  | .outside => True
  | .loadingHead value => accesses = 0 ∧ value = pushed ∧ accepted = before
  | .loadingTail value _ => accesses = 1 ∧ value = pushed ∧ accepted = before
  | .storingData value _ => accesses = 2 ∧ value = pushed ∧ accepted = before
  | .storingTail value _ => accesses = 3 ∧ value = pushed ∧ accepted = before
  | .publishing => accesses = 4 ∧ accepted = before ++ [pushed]
  | .returned true => accepted = before ++ [pushed]
  | .returned false => accepted = before

def DequeuePlace.Accounts (before : List (BitVec 8)) (accesses : Nat) (consumed : List (BitVec 8)) :
    DequeuePlace → Prop
  | .outside => True
  | .loadingHead => accesses = 0 ∧ consumed = before
  | .loadingTail _ => accesses = 1 ∧ consumed = before
  | .readingData _ _ => accesses = 2 ∧ consumed = before
  | .storingHead _ _ _ => accesses = 3 ∧ consumed = before
  | .publishing _ _ value => accesses = 4 ∧ consumed = before ++ [value]
  | .returned (some dequeued) => consumed = before ++ [dequeued.value]
  | .returned none => consumed = before

structure RingAccounts (state : RingState) : Prop where
  pushes : state.producer.Accounts state.pushed state.push.before state.push.accesses state.fifo.accepted
  pops : state.consumer.Accounts state.pop.before state.pop.accesses state.fifo.consumed

theorem RingAccounts.produce (accounts : RingAccounts state) : RingAccounts (state.produce ring) := by
  obtain ⟨pushes, pops⟩ := accounts
  unfold RingState.produce
  cases place : state.producer with
  | outside => exact ⟨trivial, pops⟩
  | loadingHead value =>
    rw [place] at pushes
    exact ⟨⟨congrArg Nat.succ pushes.1, pushes.2⟩, pops⟩
  | loadingTail value head =>
    rw [place] at pushes
    refine ⟨?_, pops⟩
    simp only [UartRing.enqueueTurn]
    split
    · exact pushes.2.2
    · exact ⟨congrArg Nat.succ pushes.1, pushes.2⟩
  | storingData value tail =>
    rw [place] at pushes
    exact ⟨⟨congrArg Nat.succ pushes.1, pushes.2⟩, pops⟩
  | storingTail value tail =>
    rw [place] at pushes
    obtain ⟨made, rfl, same⟩ := pushes
    refine ⟨?_, pops⟩
    have taken : (state.fifo.accept state.pushed).accepted = state.push.before ++ [state.pushed] := by
      rw [Fifo.accept, same]
    cases ring with
    | receive => exact taken
    | transmit => exact ⟨congrArg Nat.succ made, taken⟩
  | publishing =>
    rw [place] at pushes
    exact ⟨pushes.2, pops⟩
  | returned accepted =>
    rw [place] at pushes
    refine ⟨?_, pops⟩
    cases accepted with
    | false => exact pushes
    | true => exact pushes

theorem RingAccounts.consume (accounts : RingAccounts state) : RingAccounts (state.consume ring) := by
  obtain ⟨pushes, pops⟩ := accounts
  unfold RingState.consume
  cases place : state.consumer with
  | outside => exact ⟨pushes, trivial⟩
  | loadingHead =>
    rw [place] at pops
    exact ⟨pushes, congrArg Nat.succ pops.1, pops.2⟩
  | loadingTail head =>
    rw [place] at pops
    refine ⟨pushes, ?_⟩
    simp only [UartRing.dequeueTurn]
    split
    · exact pops.2
    · exact ⟨congrArg Nat.succ pops.1, pops.2⟩
  | readingData head tail =>
    rw [place] at pops
    exact ⟨pushes, congrArg Nat.succ pops.1, pops.2⟩
  | storingHead head tail value =>
    rw [place] at pops
    refine ⟨pushes, ?_⟩
    have given : (state.fifo.consume value).consumed = state.pop.before ++ [value] := by
      rw [Fifo.consume, pops.2]
    cases ring with
    | receive => exact given
    | transmit => exact ⟨congrArg Nat.succ pops.1, given⟩
  | publishing head tail value =>
    rw [place] at pops
    exact ⟨pushes, pops.2⟩
  | returned dequeued =>
    rw [place] at pops
    refine ⟨pushes, ?_⟩
    cases dequeued with
    | none => exact pops
    | some dequeued => exact pops

theorem RingStep.accounts (step : RingStep ring state next) (accounts : RingAccounts state) : RingAccounts next := by
  cases step with
  | enqueue value idle => exact ⟨⟨rfl, rfl, rfl⟩, accounts.pops⟩
  | dequeue idle => exact ⟨accounts.pushes, rfl, rfl⟩
  | produce => exact accounts.produce
  | consume => exact accounts.consume
  | elsewhere same => exact ⟨accounts.pushes, accounts.pops⟩

theorem RingStart.accounts (start : RingStart ring state) : RingAccounts state := by
  constructor
  · rw [start.producer]
    trivial
  · rw [start.consumer]
    trivial

theorem EnqueuePlace.Accounts.few {place : EnqueuePlace} {pushed : BitVec 8} {before accepted : List (BitVec 8)}
    (accounts : place.Accounts pushed before accesses accepted) (inside : place.idle = false) : accesses < 5 := by
  cases place with
  | outside | returned => exact absurd inside.symm Bool.false_ne_true
  | loadingHead | loadingTail | storingData | storingTail | publishing =>
    rw [accounts.1]
    decide

theorem DequeuePlace.Accounts.few {place : DequeuePlace} {before consumed : List (BitVec 8)}
    (accounts : place.Accounts before accesses consumed) (inside : place.idle = false) : accesses < 5 := by
  cases place with
  | outside | returned => exact absurd inside.symm Bool.false_ne_true
  | loadingHead | loadingTail | readingData | storingHead | publishing =>
    rw [accounts.1]
    decide

/-- In every run the bytes consumed are a prefix of the bytes accepted and at most fifteen are
in between; a call that accepts its byte has put it in once, one that refuses it has put in
nothing and the ring has held fifteen bytes since; a pop returns the byte it has taken out. -/
theorem uartRing_lossless (run : ReflTransGen (RingStep ring) state next) (start : RingStart ring state) :
    RingLossless next := by
  have sound : RingSound ring (ring.tail state.memory) next :=
    invariant_run (RingSound ring (ring.tail state.memory)) (fun _ _ step => step.sound) run start.sound
  have accounts : RingAccounts next := invariant_run RingAccounts (fun _ _ step => step.accounts) run start.accounts
  have knows := sound.producer
  have waits := sound.consumer
  obtain ⟨pushes, pops⟩ := accounts
  refine ⟨sound.holds.sound.order, sound.holds.sound.accepted_le, ?_, ?_, ?_, ?_, pushes.few, pops.few⟩
  · intro accepted
    rw [accepted] at pushes
    exact pushes
  · intro refused
    rw [refused] at pushes knows
    exact ⟨pushes, knows rfl⟩
  · intro dequeued returned
    rw [returned] at pops
    exact pops
  · intro returned
    rw [returned] at pops waits
    exact ⟨pops, waits rfl⟩

/-- The buffer of a machine before its first byte. -/
def emptyRingState : RingState where
  memory := defaultMemory
  producer := .outside
  consumer := .outside
  fifo := .empty
  pushed := 0
  push := .opened .empty []
  pop := .opened .empty []

theorem emptyRingState_start (ring : UartRing) : RingStart ring emptyRingState where
  empty := by cases ring <;> rfl
  inside := by cases ring <;> decide
  producer := rfl
  consumer := rfl
  fifo := rfl

/-- A move of a schedule: a party calls if it is idle, or makes its next access. -/
inductive RingMove where
  | enqueue (value : BitVec 8)
  | dequeue
  | produce
  | consume
  deriving DecidableEq, Repr

def RingMove.apply (ring : UartRing) (state : RingState) : RingMove → RingState
  | .enqueue value =>
    if state.producer.idle then
      { state with
        producer := .loadingHead value
        pushed := value
        push := .opened state.fifo state.fifo.accepted }
    else state
  | .dequeue =>
    if state.consumer.idle then
      { state with consumer := .loadingHead, pop := .opened state.fifo state.fifo.consumed }
    else state
  | .produce => state.produce ring
  | .consume => state.consume ring

theorem RingMove.run (ring : UartRing) (moves : List RingMove) (state : RingState) :
    ReflTransGen (RingStep ring) state (moves.foldl (RingMove.apply ring) state) := by
  induction moves generalizing state with
  | nil => exact .refl
  | cons move moves inductionHypothesis =>
    refine ReflTransGen.trans ?_ (inductionHypothesis _)
    cases move with
    | enqueue value =>
      by_cases idle : state.producer.idle = true
      · rw [RingMove.apply, if_pos idle]
        exact .single (.enqueue value idle)
      · rw [RingMove.apply, if_neg idle]
    | dequeue =>
      by_cases idle : state.consumer.idle = true
      · rw [RingMove.apply, if_pos idle]
        exact .single (.dequeue idle)
      · rw [RingMove.apply, if_neg idle]
    | produce => exact .single (.produce state)
    | consume => exact .single (.consume state)

/-- The moves of a whole push to the receive ring. -/
def pushMoves (value : Nat) : List RingMove :=
  [.enqueue (BitVec.ofNat 8 value), .produce, .produce, .produce, .produce]

def popMoves : List RingMove := [.dequeue, .consume, .consume, .consume, .consume]

/-- Ten bytes pass, fifteen more fill the ring, one is refused beside a pop that has not stored
its head yet, and that pop and seven more go past the end of the slots. -/
def wrappedMoves : List RingMove :=
  (List.range 10).flatMap (fun value => pushMoves value ++ popMoves) ++
    (List.range' 10 15).flatMap pushMoves ++
    [.enqueue 25, .dequeue, .consume, .produce, .consume, .produce, .consume, .consume] ++
    (List.range 7).flatMap fun _ => popMoves

/-- Twenty-five bytes taken in, eighteen given out, the twenty-sixth refused. -/
theorem uartRing_lossless_wrapped : ∃ state, ReflTransGen (RingStep .receive) emptyRingState state ∧
    state.fifo.accepted = (List.range 25).map (BitVec.ofNat 8) ∧
    state.fifo.consumed = (List.range 18).map (BitVec.ofNat 8) ∧
    state.producer = .returned false ∧ state.pushed = 25 ∧
    (∃ dequeued, state.consumer = .returned (some dequeued) ∧ dequeued.value = 17) ∧ RingLossless state := by
  have run := RingMove.run .receive wrappedMoves emptyRingState
  refine ⟨_, run, ?_, ?_, ?_, ?_, ?_, uartRing_lossless run (emptyRingState_start .receive)⟩
  · decide +kernel
  · decide +kernel
  · decide +kernel
  · decide +kernel
  · exact ⟨⟨17, true, true⟩, by decide +kernel, rfl⟩

end YaRiscV.Emulator
