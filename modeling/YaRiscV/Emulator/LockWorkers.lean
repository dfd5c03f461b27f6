import YaRiscV.Library.Workers
import YaRiscV.Library.Transition
import YaRiscV.Emulator.Machine
import YaRiscV.Emulator.Plic.Gateway

/-! The locks of `plic/gateway.ts` and `reservation.ts` under any number of workers: every
compare-exchange, wait, store and notify is a step of its own. -/

namespace YaRiscV.Emulator

open YaRiscV.Library Relation

/-- The access a worker makes next: the two of the acquire loop, asleep in its wait, the
two of a release, or none of these. -/
inductive LockPhase where
  | outside
  | exchanging
  | waiting
  | parked
  | clearing
  | notifying
  deriving DecidableEq, Repr

/-- Inside the acquire loop and awake. -/
def LockPhase.contends : LockPhase → Bool
  | .exchanging | .waiting => true
  | _ => false

/-- A worker with its module variables. -/
structure LockUser where
  worker : Worker
  phase : LockPhase

abbrev LockWorkers (Party : Type) := Workers Memory Party LockUser

namespace SpinLock

variable (lock : SpinLock) (memory : Memory)

/-- A call of `acquire` before its first access. -/
def acquireCall : LockPhase × Memory :=
  if lock.depth memory.worker > 0 then
    (.outside, { memory with worker := lock.setDepth memory.worker (lock.depth memory.worker + 1) })
  else (.exchanging, memory)

/-- A call of `release` before its first access. -/
def releaseCall : LockPhase × Memory :=
  if lock.depth memory.worker ≤ 0 then (.outside, memory)
  else
    let memory := { memory with worker := lock.setDepth memory.worker (lock.depth memory.worker - 1) }
    if lock.depth memory.worker > 0 then (.outside, memory) else (.clearing, memory)

/-- One access; the notify itself is a step of the system. -/
def turn : LockPhase → LockPhase × Memory
  | .exchanging =>
    let (found, memory) := memory.compareExchange32 (lock.word memory.layout) 0 1
    if found = 0 then (.outside, { memory with worker := lock.setDepth memory.worker 1 }) else (.waiting, memory)
  | .waiting => (if memory.load32 (lock.word memory.layout) = 1 then .parked else .exchanging, memory)
  | .clearing => (.notifying, memory.store32 (lock.word memory.layout) 0)
  | phase => (phase, memory)

/-! A call that is not interfered with is the function. -/

theorem acquire_turns (free : lock.depth memory.worker = 0 → memory.load32 (lock.word memory.layout) = 0) :
    (lock.acquireCall memory = (.outside, lock.acquire memory)) ∨
      ∃ called, lock.acquireCall memory = (.exchanging, called) ∧
        lock.turn called .exchanging = (.outside, lock.acquire memory) := by
  unfold acquireCall acquire
  split
  · exact .inl rfl
  · rename_i unheld
    refine .inr ⟨memory, rfl, ?_⟩
    have empty := free (by omega)
    simp only [turn, Memory.compareExchange32, empty, if_true]

theorem release_turns : (lock.releaseCall memory = (.outside, lock.release memory)) ∨
    ∃ called, lock.releaseCall memory = (.clearing, called) ∧
      lock.turn called .clearing = (.notifying, lock.release memory) := by
  unfold releaseCall release
  split
  · exact .inl rfl
  dsimp only
  split
  · exact .inl rfl
  · exact .inr ⟨_, rfl, rfl⟩

end SpinLock

variable {Party : Type} (lock : SpinLock)

def lockWord (workers : LockWorkers Party) : BitVec 32 :=
  workers.shared.load32 (lock.word workers.shared.layout)

/-- The buffer as one worker sees it. -/
def LockWorkers.view (workers : LockWorkers Party) (party : Party) : Memory :=
  { workers.shared with worker := (workers.place party).worker }

/-- Between the winning compare-exchange and the releasing store. -/
def LockUser.Holds (user : LockUser) : Prop :=
  user.phase = .clearing ∨ (user.phase = .outside ∧ 0 < lock.depth user.worker)

/-- Anything that touches neither the lock word, nor a depth, nor a phase. -/
structure SameLock (before after : LockWorkers Party) : Prop where
  word : lockWord lock after = lockWord lock before
  phase : ∀ party, (after.place party).phase = (before.place party).phase
  depth : ∀ party, lock.depth (after.place party).worker = lock.depth (before.place party).worker

/-- Nobody has called, and the word is clear. -/
structure LockStart (workers : LockWorkers Party) : Prop where
  word : lockWord lock workers = 0
  phase : ∀ party, (workers.place party).phase = .outside
  depth : ∀ party, lock.depth (workers.place party).worker = 0

/-- The lock as its callers see it: free, or taken by one party. -/
inductive MutexStep : Option Party → Option Party → Prop
  | keep (holder : Option Party) : MutexStep holder holder
  | take (party : Party) : MutexStep none (some party)
  | leave (party : Party) : MutexStep (some party) none

/-- A notify is to come, or an awake worker is to try again. -/
def LockPhase.active : LockPhase → Bool
  | .notifying => true
  | phase => phase.contends

/-- What holds in every run, with the holder the word stands for. -/
structure LockSound (workers : LockWorkers Party) (holder : Option Party) : Prop where
  holds : ∀ party, (workers.place party).Holds lock ↔ holder = some party
  word : lockWord lock workers = if holder.isSome then 1 else 0
  depth : ∀ party, (workers.place party).phase ≠ .outside → lock.depth (workers.place party).worker = 0
  wake : ∀ party, (workers.place party).phase = .parked → holder = none →
    ∃ other, (workers.place other).phase.active = true

variable {lock}

theorem LockStart.sound {workers : LockWorkers Party} (start : LockStart lock workers) :
    LockSound lock workers none where
  holds party := by
    simp only [LockUser.Holds, start.phase, start.depth]
    simp
  word := start.word
  depth party _ := start.depth party
  wake party asleep := by
    rw [start.phase] at asleep
    cases asleep

theorem LockSound.elsewhere {before after : LockWorkers Party} {holder : Option Party}
    (sound : LockSound lock before holder)
    (same : SameLock lock before after) :
    LockSound lock after holder where
  holds party := by
    rw [LockUser.Holds, same.phase, same.depth]
    exact sound.holds party
  word := same.word.trans sound.word
  depth party inside := by
    rw [same.phase] at inside
    rw [same.depth]
    exact sound.depth party inside
  wake party asleep free := by
    rw [same.phase] at asleep
    obtain ⟨other, active⟩ := sound.wake party asleep free
    exact ⟨other, by rwa [same.phase]⟩

variable (lock) [DecidableEq Party]

def LockWorkers.enter (workers : LockWorkers Party) (party : Party) (next : LockPhase × Memory) : LockWorkers Party :=
  workers.move party next.2 ⟨next.2.worker, next.1⟩

/-- A worker that sleeps in its wait returns to the top of the loop. -/
def LockWorkers.wake (workers : LockWorkers Party) (party : Party) : LockWorkers Party :=
  workers.enter party (.exchanging, workers.view party)

/-- One step of any interleaving: a worker outside calls `acquire` or `release`, a worker
makes its next access, a notify wakes one worker that is asleep if there is one, or
something happens elsewhere. -/
inductive LockStep : LockWorkers Party → LockWorkers Party → Prop
  | acquire {workers : LockWorkers Party} (party : Party) (outside : (workers.place party).phase = .outside) :
      LockStep workers (workers.enter party (lock.acquireCall (workers.view party)))
  | release {workers : LockWorkers Party} (party : Party) (outside : (workers.place party).phase = .outside) :
      LockStep workers (workers.enter party (lock.releaseCall (workers.view party)))
  | turn {workers : LockWorkers Party} (party : Party) :
      LockStep workers (workers.enter party (lock.turn (workers.view party) (workers.place party).phase))
  | notifyNobody {workers : LockWorkers Party} (party : Party) (notifies : (workers.place party).phase = .notifying)
      (nobody : ∀ other, (workers.place other).phase ≠ .parked) :
      LockStep workers (workers.enter party (.outside, workers.view party))
  | notifyOne {workers : LockWorkers Party} (party woken : Party)
      (notifies : (workers.place party).phase = .notifying) (asleep : (workers.place woken).phase = .parked) :
      LockStep workers (((workers.wake woken).enter party (.outside, (workers.wake woken).view party)))
  | elsewhere {workers after : LockWorkers Party} (same : SameLock lock workers after) : LockStep workers after

variable {lock} {workers before after : LockWorkers Party} {holder : Option Party} {party : Party}
  {next : LockPhase × Memory}

@[simp] theorem enter_self : (workers.enter party next).place party = ⟨next.2.worker, next.1⟩ :=
  Workers.move_self

theorem enter_other (apart : other ≠ party) : (workers.enter party next).place other = workers.place other :=
  Workers.move_other apart

/-- A step that moves one party and neither takes nor leaves the lock. -/
theorem LockSound.enter (sound : LockSound lock workers holder)
    (word : next.2.load32 (lock.word next.2.layout) = lockWord lock workers)
    (holds : (LockUser.mk next.2.worker next.1).Holds lock ↔ (workers.place party).Holds lock)
    (depth : next.1 ≠ .outside → lock.depth next.2.worker = 0)
    (asleep : next.1 = .parked → holder ≠ none)
    (wake : (workers.place party).phase.active = true → holder = none → next.1.active = true ∨
      (∀ other, (workers.place other).phase ≠ .parked) ∨ ∃ other ≠ party, (workers.place other).phase.active = true) :
    LockSound lock (workers.enter party next) holder where
  holds := by
    refine Workers.move_all (fun each (user : LockUser) => user.Holds lock ↔ holder = some each) ?_ fun other _ => ?_
    · exact holds.trans (sound.holds party)
    · exact sound.holds other
  word := word.trans sound.word
  depth := by
    refine Workers.move_all (fun _ (user : LockUser) => user.phase ≠ .outside → lock.depth user.worker = 0) depth ?_
    exact fun other _ => sound.depth other
  wake other parked free := by
    have apart : other ≠ party := by
      rintro rfl
      rw [enter_self] at parked
      exact asleep parked free
    rw [enter_other apart] at parked
    obtain ⟨active, stands⟩ := sound.wake other parked free
    by_cases same : active = party
    · subst same
      rcases wake stands free with stays | nobody | ⟨another, different, stays⟩
      · exact ⟨active, by rwa [enter_self]⟩
      · exact absurd parked (nobody other)
      · exact ⟨another, by rwa [enter_other different]⟩
    · exact ⟨active, by rwa [enter_other same]⟩

/-- A worker at an access of its own has no depth, so it holds only where it is to clear. -/
private theorem holds_iff (depth : lock.depth worker = 0) :
    (LockUser.mk worker phase).Holds lock ↔ phase = .clearing := by
  simp [LockUser.Holds, depth]

private theorem holds_outside : (LockUser.mk worker .outside).Holds lock ↔ 0 < lock.depth worker := by
  simp [LockUser.Holds]

/-- The rule for a call of a worker that stands outside. -/
private theorem LockSound.call (sound : LockSound lock workers holder)
    (outside : (workers.place party).phase = .outside)
    (word : next.2.load32 (lock.word next.2.layout) = lockWord lock workers)
    (holds : (LockUser.mk next.2.worker next.1).Holds lock ↔ 0 < lock.depth (workers.place party).worker)
    (depth : next.1 ≠ .outside → lock.depth next.2.worker = 0) (awake : next.1 ≠ .parked) :
    LockSound lock (workers.enter party next) holder := by
  refine sound.enter word (holds.trans ?_) depth (fun asleep => absurd asleep awake) fun active _ => ?_
  · rw [LockUser.Holds, outside]
    simp
  · rw [outside] at active
    cases active

theorem LockSound.acquireCall (sound : LockSound lock workers holder)
    (outside : (workers.place party).phase = .outside) :
    LockSound lock (workers.enter party (lock.acquireCall (workers.view party))) holder := by
  unfold SpinLock.acquireCall
  split
  · rename_i held
    refine sound.call outside rfl ?_ (fun inside => absurd rfl inside) nofun
    rw [holds_outside, lock.depth_set]
    exact ⟨fun _ => held, fun _ => Nat.succ_pos _⟩
  · rename_i unheld
    have zero : lock.depth (workers.view party).worker = 0 := Nat.eq_zero_of_not_pos unheld
    refine sound.call outside rfl ?_ (fun _ => zero) nofun
    rw [holds_iff zero]
    exact ⟨nofun, fun held => absurd held unheld⟩

theorem LockSound.releaseCall (sound : LockSound lock workers holder)
    (outside : (workers.place party).phase = .outside) :
    LockSound lock (workers.enter party (lock.releaseCall (workers.view party))) holder := by
  unfold SpinLock.releaseCall
  split
  · exact sound.call outside rfl holds_outside (fun inside => absurd rfl inside) nofun
  rename_i unfree
  have held : 0 < lock.depth (workers.place party).worker := Nat.not_le.mp unfree
  dsimp only
  split
  · rename_i still
    refine sound.call outside rfl ?_ (fun inside => absurd rfl inside) nofun
    rw [holds_outside]
    exact ⟨fun _ => held, fun _ => still⟩
  · rename_i last
    have zero := Nat.eq_zero_of_not_pos last
    refine sound.call outside rfl ?_ (fun _ => zero) nofun
    rw [holds_iff zero]
    exact ⟨fun _ => held, fun _ => rfl⟩

/-- The compare-exchange of a free lock takes it. -/
theorem LockSound.take (sound : LockSound lock workers none) :
    LockSound lock (workers.enter party (.outside, { (workers.view party).store32
      (lock.word (workers.view party).layout) 1 with worker := lock.setDepth (workers.view party).worker 1 }))
      (some party) where
  holds := by
    refine Workers.move_all (fun each (user : LockUser) => user.Holds lock ↔ some party = some each) ?_
      fun other apart => ?_
    · rw [holds_outside, lock.depth_set]
      simp
    · rw [sound.holds other, Option.some.injEq]
      exact ⟨nofun, fun same => absurd same.symm apart⟩
  word := Memory.load32_store32 1
  depth := by
    refine Workers.move_all (fun _ (user : LockUser) => user.phase ≠ .outside → lock.depth user.worker = 0) ?_ ?_
    · exact fun inside => absurd rfl inside
    · exact fun other _ => sound.depth other
  wake _ _ free := by cases free

/-- The releasing store leaves it, with a notify to come. -/
theorem LockSound.leave (sound : LockSound lock workers holder) (clears : (workers.place party).phase = .clearing) :
    holder = some party ∧ LockSound lock (workers.enter party (.notifying,
      (workers.view party).store32 (lock.word (workers.view party).layout) 0)) none := by
  have mine : holder = some party := (sound.holds party).mp (.inl clears)
  have zero : lock.depth (workers.place party).worker = 0 := sound.depth party (by rw [clears]; decide)
  refine ⟨mine, ?_, Memory.load32_store32 0, ?_, fun _ _ _ => ⟨party, by rw [enter_self]; rfl⟩⟩
  · refine Workers.move_all (fun each (user : LockUser) => user.Holds lock ↔ none = some each) ?_ fun other apart => ?_
    · have depth : lock.depth ((workers.view party).store32 (lock.word (workers.view party).layout) 0).worker = 0 :=
        zero
      rw [holds_iff depth]
      simp
    · rw [sound.holds other, mine, Option.some.injEq]
      exact ⟨fun same => absurd same.symm apart, nofun⟩
  · refine Workers.move_all (fun _ (user : LockUser) => user.phase ≠ .outside → lock.depth user.worker = 0) ?_ ?_
    · exact fun _ => zero
    · exact fun other _ => sound.depth other

/-- The rule for an access that neither takes nor leaves the lock. -/
private theorem LockSound.access (sound : LockSound lock workers holder)
    (inside : (workers.place party).phase ≠ .outside) (unclear : (workers.place party).phase ≠ .clearing)
    (still : phase ≠ .clearing) (asleep : phase = .parked → holder ≠ none)
    (wake : (workers.place party).phase.active = true → holder = none → phase.active = true ∨
      (∀ other, (workers.place other).phase ≠ .parked) ∨ ∃ other ≠ party, (workers.place other).phase.active = true) :
    LockSound lock (workers.enter party (phase, workers.view party)) holder := by
  have zero : lock.depth (workers.place party).worker = 0 := sound.depth party inside
  refine sound.enter rfl ?_ (fun _ => zero) asleep wake
  change (LockUser.mk (workers.place party).worker phase).Holds lock ↔ _
  rw [holds_iff zero, LockUser.Holds]
  exact ⟨fun clears => absurd clears still, fun held => held.elim (fun clears => absurd clears unclear)
    fun deep => absurd deep.1 inside⟩

/-- An access at which nothing happens. -/
private theorem enter_stay (workers : LockWorkers Party) (party : Party) :
    workers.enter party ((workers.place party).phase, workers.view party) =
      { workers with shared := workers.view party } := by
  unfold LockWorkers.enter Workers.move
  congr 1
  exact Function.update_eq_self party workers.place

theorem LockSound.turn (sound : LockSound lock workers holder) : ∃ holder', MutexStep holder holder' ∧
    LockSound lock (workers.enter party (lock.turn (workers.view party) (workers.place party).phase)) holder' := by
  have word : (workers.view party).load32 (lock.word (workers.view party).layout) = if holder.isSome then 1 else 0 :=
    sound.word
  have stays : LockSound lock (workers.enter party ((workers.place party).phase, workers.view party)) holder := by
    rw [enter_stay]
    exact ⟨sound.holds, sound.word, sound.depth, sound.wake⟩
  cases phase : (workers.place party).phase with
  | outside | parked | notifying =>
    rw [phase] at stays
    exact ⟨holder, .keep holder, stays⟩
  | exchanging =>
    cases holder with
    | none =>
      have free : (workers.view party).load32 (lock.word (workers.view party).layout) = 0 := word
      refine ⟨some party, .take party, ?_⟩
      simp only [SpinLock.turn, Memory.compareExchange32, free, if_true]
      exact sound.take
    | some owner =>
      have taken : (workers.view party).load32 (lock.word (workers.view party).layout) = 1 := word
      refine ⟨some owner, .keep _, ?_⟩
      have retry : lock.turn (workers.view party) .exchanging = (.waiting, workers.view party) := by
        simp only [SpinLock.turn, Memory.compareExchange32, taken]
        rfl
      rw [retry]
      exact sound.access (by rw [phase]; decide) (by rw [phase]; decide) (by decide)
        (fun asleep => by cases asleep) fun _ _ => .inl rfl
  | waiting =>
    refine ⟨holder, .keep holder, ?_⟩
    cases holder with
    | none =>
      have retry : lock.turn (workers.view party) .waiting = (.exchanging, workers.view party) := by
        rw [SpinLock.turn, word]
        rfl
      rw [retry]
      exact sound.access (by rw [phase]; decide) (by rw [phase]; decide) (by decide)
        (fun asleep => by cases asleep) fun _ _ => .inl rfl
    | some owner =>
      have sleep : lock.turn (workers.view party) .waiting = (.parked, workers.view party) := by
        rw [SpinLock.turn, word]
        rfl
      rw [sleep]
      exact sound.access (by rw [phase]; decide) (by rw [phase]; decide) (by decide) (fun _ => Option.some_ne_none owner)
        fun _ free => by cases free
  | clearing =>
    obtain ⟨rfl, left⟩ := sound.leave phase
    exact ⟨none, .leave party, left⟩

theorem LockSound.wakeUp (sound : LockSound lock workers holder) (asleep : (workers.place party).phase = .parked) :
    LockSound lock (workers.wake party) holder := by
  refine sound.access (by rw [asleep]; decide) (by rw [asleep]; decide) nofun nofun fun active => ?_
  rw [asleep] at active
  cases active

/-- A worker that has notified leaves its release. -/
theorem LockSound.notified (sound : LockSound lock workers holder) (notifies : (workers.place party).phase = .notifying)
    (done : (∀ other, (workers.place other).phase ≠ .parked) ∨
      ∃ other ≠ party, (workers.place other).phase.active = true) :
    LockSound lock (workers.enter party (.outside, workers.view party)) holder :=
  sound.access (by rw [notifies]; decide) (by rw [notifies]; decide) nofun nofun fun _ _ => .inr done

/-- Every step of the workers is one of the mutex, or none. -/
theorem LockStep.refines (step : LockStep lock before after) (sound : LockSound lock before holder) :
    ∃ holder', MutexStep holder holder' ∧ LockSound lock after holder' := by
  cases step with
  | acquire party outside => exact ⟨holder, .keep holder, sound.acquireCall outside⟩
  | release party outside => exact ⟨holder, .keep holder, sound.releaseCall outside⟩
  | turn party => exact sound.turn
  | notifyNobody party notifies nobody => exact ⟨holder, .keep holder, sound.notified notifies (.inl nobody)⟩
  | notifyOne party woken notifies asleep =>
    have apart : party ≠ woken := by
      rintro rfl
      rw [notifies] at asleep
      cases asleep
    refine ⟨holder, .keep holder, (sound.wakeUp asleep).notified ?_ (.inr ⟨woken, apart.symm, ?_⟩)⟩
    · rw [LockWorkers.wake, enter_other apart, notifies]
    · rw [LockWorkers.wake, enter_self]
      rfl
  | elsewhere same => exact ⟨holder, .keep holder, sound.elsewhere same⟩

theorem lockSound_run (run : ReflTransGen (LockStep lock) before workers) (start : LockStart lock before) :
    ∃ holder, LockSound lock workers holder := by
  refine invariant_run (fun workers => ∃ holder, LockSound lock workers holder) ?_ run ⟨none, start.sound⟩
  rintro before after step ⟨holder, sound⟩
  obtain ⟨holder', _, kept⟩ := step.refines sound
  exact ⟨holder', kept⟩

/-- In every run of any number of workers at most one is between its winning compare-exchange
and its releasing store, the word is 1 exactly while one is, and nobody sleeps on a free lock
with nobody about to wake it or to take the lock. -/
theorem lock_excludes_and_wakes (run : ReflTransGen (LockStep lock) before workers) (start : LockStart lock before) :
    (∀ party other, (workers.place party).Holds lock → (workers.place other).Holds lock → party = other) ∧
      (lockWord lock workers = 1 ↔ ∃ party, (workers.place party).Holds lock) ∧
      ¬ ∃ party, (workers.place party).phase = .parked ∧ lockWord lock workers = 0 ∧
        (∀ other, (workers.place other).phase ≠ .notifying) ∧
        ∀ other, (workers.place other).phase.contends = false := by
  obtain ⟨holder, sound⟩ := lockSound_run run start
  refine ⟨fun party other held also => ?_, ?_, ?_⟩
  · exact Option.some.inj (((sound.holds party).mp held).symm.trans ((sound.holds other).mp also))
  · rw [sound.word]
    cases holder with
    | none => simp [sound.holds]
    | some owner => simp [sound.holds]
  · rintro ⟨party, asleep, clear, unnotified, uncontended⟩
    have free : holder = none := by
      cases holder with
      | none => rfl
      | some owner =>
        rw [sound.word] at clear
        cases clear
    obtain ⟨other, active⟩ := sound.wake party asleep free
    have silent := unnotified other
    have awake := uncontended other
    cases phase : (workers.place other).phase with
    | notifying => exact silent phase
    | _ =>
      rw [phase] at active awake
      rw [LockPhase.active] at active
      · rw [awake] at active
        cases active
      · nofun

/-- Two workers of the gateway lock before their first call. -/
def idleLockWorkers : LockWorkers Bool :=
  ⟨defaultMemory, fun _ => ⟨defaultMemory.worker, .outside⟩⟩

theorem idleLockWorkers_start : LockStart plicGatewayLock idleLockWorkers :=
  ⟨rfl, fun _ => rfl, fun _ => rfl⟩

/-- One worker holds the lock and the other has called for it. -/
theorem lock_excludes_and_wakes_held : ∃ workers : LockWorkers Bool,
    ReflTransGen (LockStep plicGatewayLock) idleLockWorkers workers ∧
      (∀ party other, (workers.place party).Holds plicGatewayLock →
        (workers.place other).Holds plicGatewayLock → party = other) ∧
      (lockWord plicGatewayLock workers = 1 ↔ ∃ party, (workers.place party).Holds plicGatewayLock) ∧
      ¬ ∃ party, (workers.place party).phase = .parked ∧ lockWord plicGatewayLock workers = 0 ∧
        (∀ other, (workers.place other).phase ≠ .notifying) ∧
        ∀ other, (workers.place other).phase.contends = false := by
  have start : ReflTransGen (LockStep plicGatewayLock) idleLockWorkers _ := .single (.acquire false rfl)
  have run := (((start.tail (.turn false)).tail (.acquire true rfl)).tail (.turn true)).tail (.turn true)
  exact ⟨_, run, lock_excludes_and_wakes run idleLockWorkers_start⟩

end YaRiscV.Emulator
