import YaRiscV.Library.Workers
import YaRiscV.Emulator.Machine
import YaRiscV.Emulator.Syscon

/-! `storeBytesToSyscon`, `cancelSysconWatch` and `watchSyscon` in any number of workers:
every load, store, exchange, wait and notify is a step of its own. -/

namespace YaRiscV.Emulator

open YaRiscV.Library YaRiscV.Utils Relation

def sysconRequestStopped : BitVec 32 := 3

/-- What `watchSyscon` returns. -/
inductive SysconRequest where
  | poweroff
  | reboot
  | idle
  deriving DecidableEq, Repr

/-- The arguments of `storeBytesToSyscon`. -/
structure SysconStore where
  offset : Nat
  source : Bytes8
  byteLength : Nat
  deriving DecidableEq

def SysconStore.update (store : SysconStore) (wordIndex : Nat) : RegisterUpdate :=
  registerUpdate store.offset store.source store.byteLength (wordIndex * sysconRegisterBytes)

/-- The access a worker makes next: in a store its loop over the register words with the
retry loop of `atomicUpdate32`, then `publishSysconRequest`; the compare-exchange of a
cancel; the loop of the watch. -/
inductive SysconPlace where
  | outside
  | storing (store : SysconStore) (wordIndex : Nat)
  | updating (store : SysconStore) (wordIndex : Nat) (previous : BitVec 32)
  | matchingPoweroff
  | matchingReboot
  | publishing (level : BitVec 32)
  | cancelling
  | notifying
  | watching
  | comparing (level : BitVec 32)
  | parked (level : BitVec 32)
  | returned (request : SysconRequest)
  deriving DecidableEq

def SysconPlace.wake : SysconPlace → SysconPlace
  | .parked _ => .watching
  | place => place

variable (memory : Memory)

def sysconRequestIndex : Nat := memory.layout.syscon.hostIndex + sysconWakeOffset

def sysconRequestLevel : BitVec 32 := memory.load32 (sysconRequestIndex memory)

/-- One access, with the place it leads to. -/
def sysconTurn : SysconPlace → SysconPlace × Memory
  | .storing store wordIndex =>
    let update := store.update wordIndex
    let index := memory.layout.syscon.hostIndex + wordIndex * sysconRegisterBytes
    if wordIndex ≥ sysconRegisterCount then (.matchingPoweroff, memory)
    else if update.mask = 0 then (.storing store (wordIndex + 1), memory)
    else if update.mask = 0xffffffff then
      (.storing store (wordIndex + 1), memory.store32 index (update.value &&& update.mask))
    else (.updating store wordIndex (memory.load32 index), memory)
  | .updating store wordIndex previous =>
    let update := store.update wordIndex
    let next := (previous &&& ~~~update.mask) ||| (update.value &&& update.mask)
    let (current, memory) :=
      memory.compareExchange32 (memory.layout.syscon.hostIndex + wordIndex * sysconRegisterBytes) previous next
    if current = previous then (.storing store (wordIndex + 1), memory)
    else (.updating store wordIndex current, memory)
  | .matchingPoweroff =>
    if registerMatches memory (memory.layout.syscon.hostIndex + sysconPoweroffOffset) sysconPoweroffValue then
      (.publishing sysconRequestPoweroff, memory)
    else (.matchingReboot, memory)
  | .matchingReboot =>
    if registerMatches memory (memory.layout.syscon.hostIndex + sysconRebootOffset) sysconRebootValue then
      (.publishing sysconRequestReboot, memory)
    else (.outside, memory)
  | .publishing level =>
    (if sysconRequestLevel memory ≠ level then .notifying else .outside,
      publishWakeLevel memory (sysconRequestIndex memory) level)
  | .cancelling =>
    let (found, memory) :=
      memory.compareExchange32 (sysconRequestIndex memory) sysconRequestIdle sysconRequestStopped
    (if found = sysconRequestIdle then .notifying else .outside, memory)
  | .watching =>
    let level := sysconRequestLevel memory
    if level = sysconRequestPoweroff then (.returned .poweroff, memory)
    else if level = sysconRequestReboot then (.returned .reboot, memory)
    else if level = sysconRequestStopped then (.returned .idle, memory)
    else (.comparing level, memory)
  | .comparing level => (if sysconRequestLevel memory = level then .parked level else .watching, memory)
  | .parked level => (.parked level, memory)
  | .outside | .notifying | .returned _ => (.outside, memory)

/-- What has been done to the request word, for the statements only. -/
inductive SysconEvent where
  | published (level : BitVec 32)
  | cancelled
  deriving DecidableEq

def sysconEvent : SysconPlace → List SysconEvent
  | .publishing level => [.published level]
  | .cancelling => if sysconRequestLevel memory = sysconRequestIdle then [.cancelled] else []
  | _ => []

/-- The shared buffer, and the changes of the request word so far. -/
structure SysconShared where
  memory : Memory
  history : List SysconEvent

abbrev SysconWorkers (Party : Type) := Workers SysconShared Party SysconPlace

variable {Party : Type}

/-- The request word is as it was. -/
def SameRequest (before after : Memory) : Prop :=
  sysconRequestLevel after = sysconRequestLevel before

/-- The first places of the three functions. -/
inductive SysconEntry : SysconPlace → Prop
  | store (store : SysconStore) : SysconEntry (.storing store 0)
  | cancel : SysconEntry .cancelling
  | watch : SysconEntry .watching

section

variable [DecidableEq Party]

/-- The next access of a party; its notify wakes whoever sleeps. -/
def SysconWorkers.turn (workers : SysconWorkers Party) (party : Party) : SysconWorkers Party :=
  let place := workers.place party
  let next := sysconTurn workers.shared.memory place
  let moved := workers.move party
    ⟨next.2, workers.shared.history ++ sysconEvent workers.shared.memory place⟩ next.1
  if place = .notifying then moved.notify SysconPlace.wake else moved

/-- One step of any interleaving: a worker outside calls one of the functions, a worker makes
its next access, or something happens elsewhere. -/
inductive SysconStep : SysconWorkers Party → SysconWorkers Party → Prop
  | call {workers : SysconWorkers Party} (party : Party) (outside : workers.place party = .outside)
      (entry : SysconEntry place) : SysconStep workers (workers.move party workers.shared place)
  | turn {workers : SysconWorkers Party} (party : Party) : SysconStep workers (workers.turn party)
  | elsewhere {workers : SysconWorkers Party} {after : Memory} (same : SameRequest workers.shared.memory after) :
      SysconStep workers { workers with shared := { workers.shared with memory := after } }

end

/-- Nobody has called, and the word is idle. -/
structure SysconStart (workers : SysconWorkers Party) : Prop where
  idle : sysconRequestLevel workers.shared.memory = sysconRequestIdle
  history : workers.shared.history = []
  outside : ∀ party, workers.place party = .outside

def RequestLevel (level : BitVec 32) : Prop :=
  level = sysconRequestPoweroff ∨ level = sysconRequestReboot

variable {memory}

/-! A store that is not interfered with is the function. -/

private theorem alone_turn {place next : SysconPlace} {after : Memory} (turned : sysconTurn memory place = (next, after)) :
    ReflTransGen (Alone sysconTurn) (place, memory) (next, after) :=
  Alone.run turned

theorem storing_alone (store : SysconStore) (memory : Memory) (inside : wordIndex < sysconRegisterCount) :
    ReflTransGen (Alone sysconTurn) (.storing store wordIndex, memory) (.storing store (wordIndex + 1),
      storeSysconTurn store.offset store.source store.byteLength wordIndex memory) := by
  have more : ¬ wordIndex ≥ sysconRegisterCount := Nat.not_le.mpr inside
  change ReflTransGen (Alone sysconTurn) _ (_, if (store.update wordIndex).mask = 0 then memory
    else atomicUpdate32 memory (memory.layout.syscon.hostIndex + wordIndex * sysconRegisterBytes)
      (store.update wordIndex).mask (store.update wordIndex).value)
  by_cases none : (store.update wordIndex).mask = 0
  · rw [if_pos none]
    apply alone_turn
    simp only [sysconTurn, more, none, if_false, if_true]
  rw [if_neg none]
  by_cases whole : (store.update wordIndex).mask = 0xffffffff
  · apply alone_turn
    simp only [sysconTurn, atomicUpdate32, more, whole, if_false, if_true]
    rfl
  · rw [atomicUpdate32_eq]
    refine .trans (b := (.updating store wordIndex (memory.load32 (memory.layout.syscon.hostIndex +
      wordIndex * sysconRegisterBytes)), memory)) (alone_turn ?_) (alone_turn ?_)
    · simp only [sysconTurn, more, none, whole, if_false]
    · simp only [sysconTurn, Memory.compareExchange32, if_true]

private theorem exchange_alone (memory : Memory) (level : BitVec 32) :
    ∃ last, (last = .outside ∨ last = .notifying) ∧ ReflTransGen (Alone sysconTurn) (.publishing level, memory)
      (last, publishWakeLevel memory (sysconRequestIndex memory) level) := by
  refine ⟨_, ?_, alone_turn rfl⟩
  split
  · exact .inr rfl
  · exact .inl rfl

theorem publishing_alone (memory : Memory) : ∃ last, (last = .outside ∨ last = .notifying) ∧
    ReflTransGen (Alone sysconTurn) (.matchingPoweroff, memory) (last, publishSysconRequest memory) := by
  by_cases poweroff : registerMatches memory (memory.layout.syscon.hostIndex + sysconPoweroffOffset)
      sysconPoweroffValue = true
  · have matched : sysconTurn memory .matchingPoweroff = (.publishing sysconRequestPoweroff, memory) := if_pos poweroff
    obtain ⟨last, ended, run⟩ := exchange_alone memory sysconRequestPoweroff
    simp only [publishSysconRequest, poweroff, if_true]
    exact ⟨last, ended, (alone_turn matched).trans run⟩
  have unmatched : sysconTurn memory .matchingPoweroff = (.matchingReboot, memory) := if_neg poweroff
  by_cases reboot : registerMatches memory (memory.layout.syscon.hostIndex + sysconRebootOffset)
      sysconRebootValue = true
  · have matched : sysconTurn memory .matchingReboot = (.publishing sysconRequestReboot, memory) := if_pos reboot
    obtain ⟨last, ended, run⟩ := exchange_alone memory sysconRequestReboot
    simp only [publishSysconRequest, poweroff, reboot, Bool.false_eq_true, if_true, if_false]
    exact ⟨last, ended, ((alone_turn unmatched).trans (alone_turn matched)).trans run⟩
  · have nothing : sysconTurn memory .matchingReboot = (.outside, memory) := if_neg reboot
    simp only [publishSysconRequest, poweroff, reboot, Bool.false_eq_true, if_true, if_false]
    exact ⟨.outside, .inl rfl, (alone_turn unmatched).trans (alone_turn nothing)⟩

theorem storeBytesToSyscon_alone (store : SysconStore) (memory : Memory) :
    ∃ last, (last = .outside ∨ last = .notifying) ∧ ReflTransGen (Alone sysconTurn) (.storing store 0, memory)
      (last, storeBytesToSyscon memory store.offset store.source store.byteLength) := by
  have loop := (storing_alone store memory (by decide : 0 < sysconRegisterCount)).trans
    (storing_alone store _ (by decide : 1 < sysconRegisterCount))
  obtain ⟨last, ended, published⟩ := publishing_alone
    (forEachIndex (storeSysconTurn store.offset store.source store.byteLength) sysconRegisterCount memory)
  exact ⟨last, ended, (loop.trans (alone_turn rfl)).trans published⟩

/-! What an access does to the request word. -/

/-- What the locals of a place are known to be. -/
def SysconPlace.Valid : SysconPlace → Prop
  | .updating _ wordIndex _ => wordIndex < sysconRegisterCount
  | .publishing level => RequestLevel level
  | _ => True

theorem SysconEntry.valid (entry : SysconEntry place) : place.Valid := by
  cases entry <;> trivial

theorem SysconEntry.awake (entry : SysconEntry place) : ∀ level, place ≠ .parked level := by
  cases entry <;> nofun

theorem sysconTurn_valid (valid : place.Valid) : (sysconTurn memory place).1.Valid := by
  cases place with
  | storing store wordIndex =>
    simp only [sysconTurn]
    split
    · trivial
    split
    · trivial
    split
    · trivial
    · rename_i inside _ _
      exact Nat.not_le.mp inside
  | updating store wordIndex previous =>
    simp only [sysconTurn]
    split
    · trivial
    · exact valid
  | matchingPoweroff =>
    simp only [sysconTurn]
    split
    · exact .inl rfl
    · trivial
  | matchingReboot =>
    simp only [sysconTurn]
    split
    · exact .inr rfl
    · trivial
  | watching =>
    simp only [sysconTurn]
    repeat' split
    all_goals trivial
  | publishing level | comparing level =>
    simp only [sysconTurn]
    split <;> trivial
  | cancelling =>
    simp only [sysconTurn]
    split <;> trivial
  | _ => trivial

theorem sysconRequestLevel_store32 (value : BitVec 32) (inside : wordIndex < sysconRegisterCount) :
    sysconRequestLevel (memory.store32 (memory.layout.syscon.hostIndex + wordIndex * sysconRegisterBytes) value) =
      sysconRequestLevel memory := by
  refine Memory.load32_congr fun offset small => Memory.store32_outside value ?_
  simp only [sysconRegisterCount] at inside
  simp only [sysconRequestIndex, Memory.store32_layout, sysconWakeOffset, sysconRegisterBytes]
  omega

theorem sysconRequestLevel_store (level : BitVec 32) :
    sysconRequestLevel (memory.store32 (sysconRequestIndex memory) level) = level := by
  change (memory.store32 (sysconRequestIndex memory) level).load32 (sysconRequestIndex memory) = level
  rw [Memory.load32_store32]

theorem sysconTurn_cancel (idle : sysconRequestLevel memory = sysconRequestIdle) :
    sysconTurn memory .cancelling =
      (.notifying, memory.store32 (sysconRequestIndex memory) sysconRequestStopped) := by
  have found : memory.load32 (sysconRequestIndex memory) = sysconRequestIdle := idle
  simp only [sysconTurn, Memory.compareExchange32, found, if_true]

theorem sysconTurn_cancelled (late : sysconRequestLevel memory ≠ sysconRequestIdle) :
    sysconTurn memory .cancelling = (.outside, memory) := by
  have found : memory.load32 (sysconRequestIndex memory) ≠ sysconRequestIdle := late
  simp only [sysconTurn, Memory.compareExchange32, found, if_false]

/-- The three things an access can do to the request word: publish a request, cancel while
idle, or leave it. -/
theorem sysconTurn_level (valid : place.Valid) :
    (∃ level, place = .publishing level ∧ sysconRequestLevel (sysconTurn memory place).2 = level) ∨
      (place = .cancelling ∧ sysconRequestLevel memory = sysconRequestIdle ∧
        sysconRequestLevel (sysconTurn memory place).2 = sysconRequestStopped) ∨
      (sysconEvent memory place = [] ∧
        sysconRequestLevel (sysconTurn memory place).2 = sysconRequestLevel memory) := by
  cases place with
  | publishing level => exact .inl ⟨level, rfl, sysconRequestLevel_store level⟩
  | cancelling =>
    right
    by_cases idle : sysconRequestLevel memory = sysconRequestIdle
    · refine .inl ⟨rfl, idle, ?_⟩
      rw [sysconTurn_cancel idle, sysconRequestLevel_store]
    · right
      rw [sysconTurn_cancelled idle]
      exact ⟨if_neg idle, rfl⟩
  | storing store wordIndex =>
    refine .inr (.inr ⟨rfl, ?_⟩)
    simp only [sysconTurn]
    split
    · rfl
    split
    · rfl
    split
    · rename_i inside _ _
      exact sysconRequestLevel_store32 _ (Nat.not_le.mp inside)
    · rfl
  | updating store wordIndex previous =>
    refine .inr (.inr ⟨rfl, ?_⟩)
    simp only [sysconTurn, Memory.compareExchange32]
    split
    · exact sysconRequestLevel_store32 _ valid
    · rfl
  | matchingPoweroff | matchingReboot =>
    refine .inr (.inr ⟨rfl, ?_⟩)
    simp only [sysconTurn]
    split <;> rfl
  | watching =>
    refine .inr (.inr ⟨rfl, ?_⟩)
    simp only [sysconTurn]
    repeat' split
    all_goals rfl
  | _ => exact .inr (.inr ⟨rfl, rfl⟩)

/-- Whoever changes the word goes on to notify. -/
theorem sysconTurn_notifies (valid : place.Valid)
    (changed : sysconRequestLevel (sysconTurn memory place).2 ≠ sysconRequestLevel memory) :
    (sysconTurn memory place).1 = .notifying := by
  rcases sysconTurn_level valid with ⟨level, rfl, after⟩ | ⟨rfl, idle, _⟩ | ⟨_, same⟩
  · rw [after] at changed
    exact if_pos changed.symm
  · rw [sysconTurn_cancel idle]
  · exact absurd same changed

/-- A watch parks on the level the word has. -/
theorem sysconTurn_parked (parks : (sysconTurn memory place).1 = .parked level) (awake : place ≠ .parked level) :
    level = sysconRequestLevel memory := by
  cases place with
  | comparing snapshot =>
    simp only [sysconTurn] at parks
    split at parks
    · rename_i same
      cases parks
      exact same.symm
    · cases parks
  | parked snapshot =>
    cases parks
    exact absurd rfl awake
  | storing store wordIndex =>
    simp only [sysconTurn] at parks
    repeat' split at parks
    all_goals cases parks
  | watching =>
    simp only [sysconTurn] at parks
    repeat' split at parks
    all_goals cases parks
  | updating store wordIndex previous | matchingPoweroff | matchingReboot | publishing published | cancelling =>
    simp only [sysconTurn] at parks
    split at parks <;> cases parks
  | _ => cases parks

/-! Every run. -/

/-- What the request word holds, by what has been done to it. -/
inductive RequestState : BitVec 32 → List SysconEvent → Prop
  | idle : RequestState sysconRequestIdle []
  | stopped : RequestState sysconRequestStopped [.cancelled]
  | requested (request : RequestLevel level) (published : .published other ∈ history) : RequestState level history

structure SysconSound (workers : SysconWorkers Party) : Prop where
  valid : ∀ party, (workers.place party).Valid
  state : RequestState (sysconRequestLevel workers.shared.memory) workers.shared.history
  parked : ∀ party level, workers.place party = .parked level →
    level = sysconRequestLevel workers.shared.memory ∨ ∃ other, workers.place other = .notifying

theorem SysconStart.sound {workers : SysconWorkers Party} (start : SysconStart workers) : SysconSound workers where
  valid party := by
    rw [start.outside]
    trivial
  state := by
    rw [start.idle, start.history]
    exact .idle
  parked party level asleep := by
    rw [start.outside] at asleep
    cases asleep

theorem not_requestLevel_idle : ¬ RequestLevel sysconRequestIdle := by
  unfold RequestLevel
  decide

theorem not_requestLevel_stopped : ¬ RequestLevel sysconRequestStopped := by
  unfold RequestLevel
  decide

/-- While the word is idle nothing has been done to it. -/
theorem RequestState.nothing (state : RequestState sysconRequestIdle history) : history = [] := by
  generalize held : sysconRequestIdle = level at state
  cases state with
  | idle => rfl
  | stopped => exact absurd held (by decide)
  | requested request _ => exact absurd (held ▸ request) not_requestLevel_idle

/-- While it is stopped a cancel has been, and no request. -/
theorem RequestState.onlyCancelled (state : RequestState sysconRequestStopped history) : history = [.cancelled] := by
  generalize held : sysconRequestStopped = level at state
  cases state with
  | idle => exact absurd held (by decide)
  | stopped => rfl
  | requested request _ => exact absurd (held ▸ request) not_requestLevel_stopped

theorem RequestState.access (state : RequestState (sysconRequestLevel memory) history) (valid : place.Valid) :
    RequestState (sysconRequestLevel (sysconTurn memory place).2) (history ++ sysconEvent memory place) := by
  rcases sysconTurn_level valid with ⟨level, rfl, after⟩ | ⟨rfl, idle, after⟩ | ⟨silent, same⟩
  · have published : SysconEvent.published level ∈ history ++ sysconEvent memory (.publishing level) :=
      List.mem_append_right _ (List.mem_singleton_self _)
    rw [after]
    exact .requested valid published
  · have cancelled : sysconEvent memory .cancelling = [.cancelled] := if_pos idle
    rw [idle] at state
    have first := state.nothing
    rw [after, first, cancelled]
    exact RequestState.stopped
  · rw [silent, same, List.append_nil]
    exact state

/-- A request is never taken back. -/
theorem RequestLevel.access (request : RequestLevel (sysconRequestLevel memory)) (valid : place.Valid) :
    RequestLevel (sysconRequestLevel (sysconTurn memory place).2) := by
  rcases sysconTurn_level valid with ⟨level, rfl, after⟩ | ⟨_, idle, _⟩ | ⟨_, same⟩
  · rw [after]
    exact valid
  · rw [idle] at request
    exact absurd request not_requestLevel_idle
  · rwa [same]

variable [DecidableEq Party] {workers before after : SysconWorkers Party}

@[simp] theorem turn_shared (party : Party) : (workers.turn party).shared =
    ⟨(sysconTurn workers.shared.memory (workers.place party)).2,
      workers.shared.history ++ sysconEvent workers.shared.memory (workers.place party)⟩ := by
  simp only [SysconWorkers.turn]
  split <;> rfl

theorem turn_place (party : Party) (quiet : workers.place party ≠ .notifying) :
    (workers.turn party).place = (workers.move party (workers.turn party).shared
      (sysconTurn workers.shared.memory (workers.place party)).1).place := by
  simp only [SysconWorkers.turn, quiet, if_false]
  rfl

theorem SysconPlace.wake_awake (place : SysconPlace) (level : BitVec 32) : place.wake ≠ .parked level := by
  cases place <;> nofun

theorem SysconPlace.Valid.wake {place : SysconPlace} (valid : place.Valid) : place.wake.Valid := by
  cases place <;> exact valid

theorem SysconSound.call {place : SysconPlace} (sound : SysconSound workers) (entry : SysconEntry place) (party : Party)
    (outside : workers.place party = .outside) : SysconSound (workers.move party workers.shared place) where
  valid := Workers.move_all (fun _ (place : SysconPlace) => place.Valid) entry.valid fun other _ => sound.valid other
  state := sound.state
  parked other level asleep := by
    have apart : other ≠ party := by
      rintro rfl
      rw [Workers.move_self] at asleep
      exact entry.awake level asleep
    rw [Workers.move_other apart] at asleep
    refine (sound.parked other level asleep).imp_right fun somebody => ?_
    refine Workers.move_exists (· = SysconPlace.notifying) somebody fun notifies => ?_
    rw [outside] at notifies
    cases notifies

theorem turn_place_notifying (party : Party) (notifies : workers.place party = .notifying) (other : Party) :
    (workers.turn party).place other = ((workers.move party (workers.turn party).shared .outside).place other).wake := by
  simp only [SysconWorkers.turn, notifies, if_true]
  rfl

theorem SysconSound.turn (sound : SysconSound workers) (party : Party) : SysconSound (workers.turn party) := by
  have state : RequestState (sysconRequestLevel (workers.turn party).shared.memory)
      (workers.turn party).shared.history := by
    rw [turn_shared]
    exact sound.state.access (sound.valid party)
  by_cases notifies : workers.place party = .notifying
  · refine ⟨fun other => ?_, state, fun other level asleep => ?_⟩
    · rw [turn_place_notifying party notifies]
      have moved : ∀ each, ((workers.move party (workers.turn party).shared .outside).place each).Valid :=
        Workers.move_all (fun _ (place : SysconPlace) => place.Valid) trivial fun other _ => sound.valid other
      exact (moved other).wake
    · rw [turn_place_notifying party notifies] at asleep
      exact absurd asleep (SysconPlace.wake_awake _ level)
  · refine ⟨fun other => ?_, state, fun other level asleep => ?_⟩
    · rw [turn_place party notifies]
      exact Workers.move_all (fun _ (place : SysconPlace) => place.Valid) (sysconTurn_valid (sound.valid party))
        (fun other _ => sound.valid other) other
    · have others (somebody : ∃ other, workers.place other = .notifying) :
          ∃ other, (workers.turn party).place other = .notifying := by
        rw [turn_place party notifies]
        exact Workers.move_exists (· = SysconPlace.notifying) somebody fun stands => absurd stands notifies
      rw [turn_place party notifies] at asleep
      rw [turn_shared]
      by_cases changed : sysconRequestLevel (sysconTurn workers.shared.memory (workers.place party)).2 =
          sysconRequestLevel workers.shared.memory
      · rw [changed]
        by_cases mine : other = party
        · subst mine
          rw [Workers.move_self] at asleep
          by_cases already : workers.place other = .parked level
          · exact (sound.parked other level already).imp_right others
          · exact .inl (sysconTurn_parked asleep already)
        · rw [Workers.move_other mine] at asleep
          exact (sound.parked other level asleep).imp_right others
      · refine .inr ⟨party, ?_⟩
        rw [turn_place party notifies, Workers.move_self]
        exact sysconTurn_notifies (sound.valid party) changed

theorem SysconStep.sound (step : SysconStep before after) (sound : SysconSound before) : SysconSound after := by
  cases step with
  | call party outside entry => exact sound.call entry party outside
  | turn party => exact sound.turn party
  | elsewhere same =>
    refine ⟨sound.valid, same ▸ sound.state, fun party level asleep => ?_⟩
    exact same ▸ sound.parked party level asleep

theorem SysconStep.requested (step : SysconStep before after) (sound : SysconSound before)
    (request : RequestLevel (sysconRequestLevel before.shared.memory)) :
    RequestLevel (sysconRequestLevel after.shared.memory) := by
  cases step with
  | call party outside entry => exact request
  | turn party =>
    rw [turn_shared]
    exact request.access (sound.valid party)
  | elsewhere same => exact same ▸ request

theorem sysconSound_run (run : ReflTransGen SysconStep before after) (sound : SysconSound before) :
    SysconSound after :=
  invariant_run SysconSound (fun _ _ step sound => step.sound sound) run sound

theorem requested_run (run : ReflTransGen SysconStep before after) (sound : SysconSound before)
    (request : RequestLevel (sysconRequestLevel before.shared.memory)) :
    RequestLevel (sysconRequestLevel after.shared.memory) := by
  have both := invariant_run (fun workers => SysconSound workers ∧ RequestLevel (sysconRequestLevel workers.shared.memory))
    (fun _ _ step held => ⟨step.sound held.1, step.requested held.1 held.2⟩) run ⟨sound, request⟩
  exact both.2

/-- What the watch makes of the level it reads. -/
theorem watching_requested (request : RequestLevel (sysconRequestLevel memory)) :
    (sysconTurn memory .watching).1 = .returned .poweroff ∨ (sysconTurn memory .watching).1 = .returned .reboot := by
  rcases request with poweroff | reboot
  · left
    simp only [sysconTurn, poweroff, if_true]
  · right
    have other : sysconRequestReboot ≠ sysconRequestPoweroff := by decide
    simp only [sysconTurn, reboot, other, if_true, if_false]

theorem watching_idle (idle : (sysconTurn memory .watching).1 = .returned .idle) :
    sysconRequestLevel memory = sysconRequestStopped := by
  simp only [sysconTurn] at idle
  split at idle
  · cases idle
  split at idle
  · cases idle
  split at idle
  · assumption
  · cases idle

variable {initial : SysconWorkers Party}

/-- A power request is never swallowed: once the word holds one it holds one for good, and the
watch returns it; the watch returns idle only after a cancel and before any request; and it
never sleeps on a word that has left the level it read unless a notify is to come. -/
theorem syscon_request_kept (start : SysconStart initial) (reached : ReflTransGen SysconStep initial before)
    (run : ReflTransGen SysconStep before after) :
    (RequestLevel (sysconRequestLevel before.shared.memory) →
      RequestLevel (sysconRequestLevel after.shared.memory) ∧
        ∀ party, after.place party = .watching → (after.turn party).place party = .returned .poweroff ∨
          (after.turn party).place party = .returned .reboot) ∧
      (∀ party, after.place party = .watching → (after.turn party).place party = .returned .idle →
        .cancelled ∈ after.shared.history ∧ ∀ level, .published level ∉ after.shared.history) ∧
      ¬ ∃ party level, after.place party = .parked level ∧ sysconRequestLevel after.shared.memory ≠ level ∧
        ∀ other, after.place other ≠ .notifying := by
  have earlier := sysconSound_run reached start.sound
  have sound := sysconSound_run run earlier
  have read (party : Party) (watching : after.place party = .watching) :
      (after.turn party).place party = (sysconTurn after.shared.memory .watching).1 := by
    rw [turn_place party (by rw [watching]; nofun), Workers.move_self, watching]
  refine ⟨fun request => ?_, fun party watching idle => ?_, ?_⟩
  · have later := requested_run run earlier request
    refine ⟨later, fun party watching => ?_⟩
    rw [read party watching]
    exact watching_requested later
  · rw [read party watching] at idle
    have state := sound.state
    rw [watching_idle idle] at state
    rw [state.onlyCancelled]
    exact ⟨List.mem_singleton_self _, fun level published => by cases List.mem_singleton.mp published⟩
  · rintro ⟨party, level, asleep, differs, silent⟩
    rcases sound.parked party level asleep with same | ⟨other, notifies⟩
    · exact differs same.symm
    · exact silent other notifies

/-- Two workers before their first call. -/
def idleSysconWorkers : SysconWorkers Bool :=
  ⟨⟨defaultMemory, []⟩, fun _ => .outside⟩

theorem idleSysconWorkers_start : SysconStart idleSysconWorkers :=
  ⟨rfl, rfl, fun _ => rfl⟩

/-- The watch of one of them has gone to sleep. -/
def asleepSysconWorkers : SysconWorkers Bool :=
  let watching : SysconWorkers Bool := idleSysconWorkers.move true idleSysconWorkers.shared .watching
  (watching.turn true).turn true

/-- A watch that sleeps while a cancel is about to notify it. -/
theorem syscon_request_kept_cancelled : ∃ before after : SysconWorkers Bool,
    ReflTransGen SysconStep idleSysconWorkers before ∧ ReflTransGen SysconStep before after ∧
      (RequestLevel (sysconRequestLevel before.shared.memory) →
        RequestLevel (sysconRequestLevel after.shared.memory) ∧
          ∀ party, after.place party = .watching → (after.turn party).place party = .returned .poweroff ∨
            (after.turn party).place party = .returned .reboot) ∧
      (∀ party, after.place party = .watching → (after.turn party).place party = .returned .idle →
        .cancelled ∈ after.shared.history ∧ ∀ level, .published level ∉ after.shared.history) ∧
      ¬ ∃ party level, after.place party = .parked level ∧ sysconRequestLevel after.shared.memory ≠ level ∧
        ∀ other, after.place other ≠ .notifying := by
  have called : ReflTransGen SysconStep idleSysconWorkers _ := .single (.call true rfl .watch)
  have reached : ReflTransGen SysconStep idleSysconWorkers asleepSysconWorkers :=
    (called.tail (.turn true)).tail (.turn true)
  have cancels : asleepSysconWorkers.place false = .outside := rfl
  have run := (ReflTransGen.single (SysconStep.call false cancels .cancel)).tail (SysconStep.turn false)
  exact ⟨_, _, reached, run, syscon_request_kept idleSysconWorkers_start reached run⟩

end YaRiscV.Emulator
