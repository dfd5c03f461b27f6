import YaRiscV.Library.Ranking
import YaRiscV.Emulator.SysconWatch
import Mathlib.Logic.Function.Basic

/-! `cpu/index.ts`, `timer/index.ts`, `terminal/index.ts` and the handle of `emulator/index.ts`:
three workers that are started, stopped and waited for together. -/

namespace YaRiscV.Emulator

open YaRiscV.Library Relation

/-- A promise, which settles once. -/
inductive Lifetime where
  | pending
  | resolved
  | rejected (reason : String)
  deriving DecidableEq, Repr

def Lifetime.settle : Lifetime → Lifetime → Lifetime
  | .pending, outcome => outcome
  | settled, _ => settled

/-- A worker thread as the host sees it: whether it has yet to exit, and what it has been told. -/
structure HostWorker where
  running : Bool
  terminating : Bool
  stopPosted : Bool
  fallbackArmed : Bool
  deriving DecidableEq, Repr

namespace HostWorker

def fresh : HostWorker := ⟨true, false, false, false⟩

/-- `worker.terminate()`. -/
def terminate (worker : HostWorker) : HostWorker := { worker with terminating := true }

/-- The stop message, with the fallback timer unless the worker has exited. -/
def requestDrain (worker : HostWorker) : HostWorker :=
  { worker with stopPosted := true, fallbackArmed := worker.fallbackArmed || worker.running }

def exited (worker : HostWorker) : HostWorker := { worker with running := false, fallbackArmed := false }

/-- Terminated, or asked to drain and to be terminated if that takes too long. -/
def Asked (worker : HostWorker) : Prop :=
  worker.terminating = true ∨ worker.stopPosted = true ∧ worker.fallbackArmed = true

end HostWorker

/-- The handle of one worker. -/
structure ChildHandle where
  worker : Option HostWorker
  started : Bool
  stopped : Bool
  lifetime : Lifetime
  /-- How many workers have been constructed. -/
  created : Nat
  deriving DecidableEq, Repr

inductive Child where
  | cpu
  | timer
  | terminal
  deriving DecidableEq, Repr

namespace Child

def name : Child → String
  | .cpu => "CPU"
  | .timer => "Timer"
  | .terminal => "Terminal"

/-- How a handle has its worker stop. -/
def ask : Child → HostWorker → HostWorker
  | .cpu | .timer => HostWorker.terminate
  | .terminal => HostWorker.requestDrain

end Child

namespace ChildHandle

variable (handle : ChildHandle)

def fresh : ChildHandle := ⟨none, false, false, .pending, 0⟩

/-- `failure` is what the constructor of the worker throws, if anything. -/
def start (failure : Option String) : Except String ChildHandle :=
  if handle.stopped then .error "Already stopped."
  else if handle.started then .error "Already started."
  else
    match failure with
    | some reason => .error reason
    | none => .ok { handle with worker := some .fresh, started := true, created := handle.created + 1 }

def stop (ask : HostWorker → HostWorker) : ChildHandle :=
  if handle.stopped then handle
  else
    match handle.worker with
    | some worker => { handle with stopped := true, worker := some (ask worker) }
    | none => { handle with stopped := true, lifetime := handle.lifetime.settle .resolved }

def onError (reason : String) : ChildHandle :=
  { handle with lifetime := handle.lifetime.settle (.rejected reason) }

def onExit (name : String) (code : Int) : ChildHandle :=
  { handle with
    worker := handle.worker.map HostWorker.exited
    lifetime := handle.lifetime.settle <|
      if handle.stopped || code = 0 then .resolved
      else .rejected s!"{name} worker exited with code {code}" }

/-- The fallback timer fires. -/
def onFallback : ChildHandle := { handle with worker := handle.worker.map HostWorker.terminate }

end ChildHandle

/-- `#watchSyscon`: not called, awaiting `watchSyscon`, or returned. -/
inductive WatchPlace where
  | idle
  | watching
  | returned
  deriving DecidableEq, Repr

structure EmulatorHandle where
  children : Child → ChildHandle
  started : Bool
  stopped : Bool
  watch : WatchPlace
  done : Lifetime

namespace EmulatorHandle

variable (emulator : EmulatorHandle)

def fresh : EmulatorHandle := ⟨fun _ => .fresh, false, false, .idle, .pending⟩

/-- Start the children in turn, up to the first that throws. -/
def startChildren (failure : Child → Option String) :
    List Child → (Child → ChildHandle) → Option String × (Child → ChildHandle)
  | [], children => (none, children)
  | child :: rest, children =>
    match (children child).start (failure child) with
    | .error reason => (some reason, children)
    | .ok handle => startChildren failure rest (Function.update children child handle)

def stopChildren (children : Child → ChildHandle) : Child → ChildHandle :=
  fun child => (children child).stop child.ask

/-- What `start` throws, if anything, and what it leaves. -/
def start (failure : Child → Option String) : Option String × EmulatorHandle :=
  if emulator.stopped then (some "Already stopped.", emulator)
  else if emulator.started then (some "Already started.", emulator)
  else
    match startChildren failure [.timer, .cpu, .terminal] emulator.children with
    | (some reason, children) =>
      (some reason, { emulator with children := stopChildren children, stopped := true })
    | (none, children) => (none, { emulator with children, started := true, watch := .watching })

def stop : EmulatorHandle :=
  if emulator.stopped then emulator
  else { emulator with stopped := true, children := stopChildren emulator.children }

/-- `#watchSyscon` after its `await`. -/
def watched (request : SysconRequest) : EmulatorHandle :=
  let emulator := { emulator with watch := .returned }
  if emulator.stopped || request = .idle then emulator else emulator.stop

/-- A child's handle after an event of its worker. -/
def onChild (child : Child) (event : ChildHandle → ChildHandle) : EmulatorHandle :=
  { emulator with children := Function.update emulator.children child (event (emulator.children child)) }

/-- `Promise.all` settles, and `finally` stops. -/
def finish (outcome : Lifetime) : EmulatorHandle := { emulator with done := outcome }.stop

/-- A worker that has not exited. -/
def Running (child : Child) : Prop :=
  ∃ worker, (emulator.children child).worker = some worker ∧ worker.running = true

/-- What `Promise.all` settles to. -/
def Settles : Lifetime → Prop
  | .pending => False
  | .resolved => ∀ child, (emulator.children child).lifetime = .resolved
  | .rejected reason => ∃ child, (emulator.children child).lifetime = .rejected reason

end EmulatorHandle

/-- What goes on until everything has ended: exits of workers, and the end of the wait for them. -/
inductive ClosingStep : EmulatorHandle → EmulatorHandle → Prop
  | exit {emulator : EmulatorHandle} (child : Child) (code : Int) (running : emulator.Running child) :
      ClosingStep emulator (emulator.onChild child (·.onExit child.name code))
  | finish {emulator : EmulatorHandle} (outcome : Lifetime) (waiting : emulator.done = .pending)
      (settles : emulator.Settles outcome) : ClosingStep emulator (emulator.finish outcome)

/-- A call on the emulator, an event of a worker, or the return of a wait, in any order. -/
inductive LifecycleStep : EmulatorHandle → EmulatorHandle → Prop
  | start {emulator : EmulatorHandle} (failure : Child → Option String) :
      LifecycleStep emulator (emulator.start failure).2
  | stop (emulator : EmulatorHandle) : LifecycleStep emulator emulator.stop
  | watched {emulator : EmulatorHandle} (request : SysconRequest) (watching : emulator.watch = .watching) :
      LifecycleStep emulator (emulator.watched request)
  | error {emulator : EmulatorHandle} (child : Child) (reason : String) (running : emulator.Running child) :
      LifecycleStep emulator (emulator.onChild child (·.onError reason))
  | fallback {emulator : EmulatorHandle} {worker : HostWorker}
      (armed : (emulator.children .terminal).worker = some worker ∧ worker.fallbackArmed = true) :
      LifecycleStep emulator (emulator.onChild .terminal ChildHandle.onFallback)
  | closing {emulator after : EmulatorHandle} (step : ClosingStep emulator after) : LifecycleStep emulator after

/-- What holds of each child, by whether the emulator has ended. -/
structure ChildSound (ended : Bool) (handle : ChildHandle) : Prop where
  stopped : handle.stopped = ended
  started : handle.started = handle.worker.isSome
  created : handle.created = if handle.worker.isSome then 1 else 0
  asked : ∀ worker, handle.worker = some worker → worker.running = true → (ended = true ↔ worker.Asked)
  armed : ∀ worker, handle.worker = some worker → worker.fallbackArmed = true → ended = true
  pending : handle.lifetime = .pending →
    handle.worker = none ∧ ended = false ∨ ∃ worker, handle.worker = some worker ∧ worker.running = true
  resolved : handle.lifetime = .resolved → ∀ worker, handle.worker = some worker → worker.running = false
  unborn : handle.worker = none → ended = false → handle.lifetime = .pending

/-- What holds in every run. -/
structure EmulatorSound (emulator : EmulatorHandle) : Prop where
  children : ∀ child, ChildSound emulator.stopped (emulator.children child)
  started : emulator.started = true → ∀ child, (emulator.children child).worker.isSome = true
  unstarted : emulator.started = false → emulator.stopped = false →
    ∀ child, (emulator.children child).worker = none
  done : emulator.done ≠ .pending → emulator.stopped = true
  settled : emulator.done ≠ .pending → emulator.Settles emulator.done

variable {handle after : ChildHandle} {ended : Bool} {emulator : EmulatorHandle} {children : Child → ChildHandle}
  {failure : Child → Option String}

theorem Lifetime.settle_ne {lifetime outcome : Lifetime} (settles : outcome ≠ .pending) :
    lifetime.settle outcome ≠ .pending := by
  cases lifetime with
  | pending => exact settles
  | _ => exact Lifetime.noConfusion

theorem Lifetime.settle_eq {lifetime outcome : Lifetime} (settled : lifetime ≠ .pending) :
    lifetime.settle outcome = lifetime := by
  cases lifetime with
  | pending => exact absurd rfl settled
  | _ => rfl

theorem Child.ask_asked (child : Child) {worker : HostWorker} (running : worker.running = true) :
    (child.ask worker).Asked := by
  cases child with
  | cpu | timer => exact .inl rfl
  | terminal => exact .inr ⟨rfl, by simp [ask, HostWorker.requestDrain, running]⟩

theorem Child.ask_running (child : Child) (worker : HostWorker) :
    (child.ask worker).running = worker.running := by
  cases child with
  | _ => rfl

/-! One child. -/

theorem ChildSound.fresh : ChildSound false .fresh where
  stopped := rfl
  started := rfl
  created := rfl
  asked := by
    intro worker found
    cases found
  armed := by
    intro worker found
    cases found
  pending _ := .inl ⟨rfl, rfl⟩
  resolved := Lifetime.noConfusion
  unborn _ _ := rfl

/-- A start makes the only worker of a child. -/
theorem ChildSound.start (sound : ChildSound false handle) {failure : Option String}
    (started : handle.start failure = .ok after) :
    ChildSound false after ∧ handle.worker = none ∧ after.worker = some .fresh := by
  unfold ChildHandle.start at started
  rw [if_neg (by simp [sound.stopped])] at started
  split at started
  · cases started
  rename_i unstarted
  have unborn : handle.worker = none := by
    rw [sound.started] at unstarted
    exact Option.not_isSome_iff_eq_none.mp unstarted
  cases failure with
  | some reason => cases started
  | none =>
    obtain rfl := Except.ok.inj started
    have pending := sound.unborn unborn rfl
    refine ⟨{
      stopped := sound.stopped
      started := rfl
      created := ?_
      asked := ?_
      armed := ?_
      pending := fun _ => .inr ⟨.fresh, rfl, rfl⟩
      resolved := fun resolved => absurd (pending.symm.trans resolved) Lifetime.noConfusion
      unborn := fun _ _ => pending }, unborn, rfl⟩
    · have created := sound.created
      rw [unborn] at created
      exact congrArg Nat.succ created
    · intro worker found _
      obtain rfl := Option.some.inj found
      refine ⟨fun stopped => absurd stopped Bool.false_ne_true, fun asked => ?_⟩
      rcases asked with terminating | drained
      · exact terminating
      · exact drained.1
    · intro worker found armed
      obtain rfl := Option.some.inj found
      exact armed

/-- A child fails to start for its constructor alone. -/
theorem ChildSound.start_error (sound : ChildSound false handle) (unborn : handle.worker = none)
    {failure : Option String} {reason : String} (failed : handle.start failure = .error reason) :
    failure = some reason := by
  unfold ChildHandle.start at failed
  have unstarted : handle.started = false := by
    rw [sound.started, unborn]
    rfl
  rw [if_neg (by simp [sound.stopped]), if_neg (by simp [unstarted])] at failed
  cases failure with
  | some thrown =>
    obtain rfl := Except.error.inj failed
    rfl
  | none => cases failed

/-- A stop reaches a worker that runs, and unblocks whoever waits for one that never did. -/
theorem ChildSound.stop (sound : ChildSound false handle) (child : Child) :
    ChildSound true (handle.stop child.ask) := by
  unfold ChildHandle.stop
  rw [if_neg (by simp [sound.stopped])]
  split
  · rename_i worker found
    exact {
      stopped := rfl
      started := by
        have started := sound.started
        rw [found] at started
        exact started
      created := by
        have created := sound.created
        rw [found] at created
        exact created
      asked := by
        intro asked same running
        obtain rfl := Option.some.inj same
        rw [child.ask_running] at running
        exact ⟨fun _ => child.ask_asked running, fun _ => rfl⟩
      armed := fun _ _ _ => rfl
      pending := by
        intro pending
        rcases sound.pending pending with unborn | ⟨worker', same, running⟩
        · rw [found] at unborn
          cases unborn.1
        · obtain rfl := Option.some.inj (found.symm.trans same)
          exact .inr ⟨_, rfl, (child.ask_running worker).trans running⟩
      resolved := by
        intro resolved asked same
        obtain rfl := Option.some.inj same
        rw [child.ask_running]
        exact sound.resolved resolved worker found
      unborn := by
        intro unborn
        cases unborn }
  · rename_i found
    exact {
      stopped := rfl
      started := sound.started
      created := sound.created
      asked := by
        intro worker same
        cases found.symm.trans same
      armed := fun _ _ _ => rfl
      pending := fun pending => absurd pending (Lifetime.settle_ne Lifetime.noConfusion)
      resolved := by
        intro _ worker same
        cases found.symm.trans same
      unborn := by
        intro _ ended
        cases ended }

theorem ChildSound.stop_unborn (sound : ChildSound false handle) (ask : HostWorker → HostWorker)
    (unborn : handle.worker = none) :
    (handle.stop ask).worker = none ∧ (handle.stop ask).lifetime = .resolved := by
  unfold ChildHandle.stop
  rw [if_neg (by simp [sound.stopped])]
  split
  · rename_i worker found
    cases unborn.symm.trans found
  · refine ⟨unborn, ?_⟩
    rw [sound.unborn unborn rfl]
    rfl

theorem ChildSound.stop_born (sound : ChildSound false handle) (ask : HostWorker → HostWorker) {worker : HostWorker}
    (born : handle.worker = some worker) : (handle.stop ask).worker = some (ask worker) := by
  unfold ChildHandle.stop
  rw [if_neg (by simp [sound.stopped])]
  split
  · rename_i other found
    obtain rfl := Option.some.inj (born.symm.trans found)
    rfl
  · rename_i found
    cases born.symm.trans found

theorem ChildSound.onError (sound : ChildSound ended handle) (reason : String)
    (running : ∃ worker, handle.worker = some worker ∧ worker.running = true) :
    ChildSound ended (handle.onError reason) :=
  { sound with
    pending := fun pending => absurd pending (Lifetime.settle_ne Lifetime.noConfusion)
    resolved := by
      intro resolved
      cases before : handle.lifetime with
      | pending =>
        rw [ChildHandle.onError, before] at resolved
        cases resolved
      | resolved => exact sound.resolved before
      | rejected reason =>
        rw [ChildHandle.onError, before] at resolved
        cases resolved
    unborn := by
      intro unborn
      obtain ⟨worker, found, _⟩ := running
      cases found.symm.trans unborn }

theorem ChildSound.onExit (sound : ChildSound ended handle) (name : String) (code : Int)
    (running : ∃ worker, handle.worker = some worker ∧ worker.running = true) :
    ChildSound ended (handle.onExit name code) := by
  obtain ⟨worker, found, running⟩ := running
  have exited : (handle.onExit name code).worker = some worker.exited := by
    rw [ChildHandle.onExit, found]
    rfl
  exact {
    stopped := sound.stopped
    started := by
      rw [exited, ChildHandle.onExit, sound.started, found]
      rfl
    created := by
      rw [exited, ChildHandle.onExit, sound.created, found]
      rfl
    asked := by
      intro after same going
      obtain rfl := Option.some.inj (exited.symm.trans same)
      cases going
    armed := by
      intro after same armed
      obtain rfl := Option.some.inj (exited.symm.trans same)
      cases armed
    pending := by
      intro pending
      refine absurd pending (Lifetime.settle_ne ?_)
      split
      · exact Lifetime.noConfusion
      · exact Lifetime.noConfusion
    resolved := by
      intro _ after same
      obtain rfl := Option.some.inj (exited.symm.trans same)
      rfl
    unborn := by
      intro unborn
      cases exited.symm.trans unborn }

theorem ChildSound.onFallback (sound : ChildSound ended handle)
    (armed : ∃ worker, handle.worker = some worker ∧ worker.fallbackArmed = true) :
    ChildSound ended handle.onFallback := by
  obtain ⟨worker, found, armed⟩ := armed
  have stopped := sound.armed worker found armed
  have told : handle.onFallback.worker = some worker.terminate := by
    rw [ChildHandle.onFallback, found]
    rfl
  exact {
    stopped := sound.stopped
    started := by
      rw [told, ChildHandle.onFallback, sound.started, found]
      rfl
    created := by
      rw [told, ChildHandle.onFallback, sound.created, found]
      rfl
    asked := by
      intro after same _
      obtain rfl := Option.some.inj (told.symm.trans same)
      exact ⟨fun _ => .inl rfl, fun _ => stopped⟩
    armed := fun _ _ _ => stopped
    pending := by
      intro pending
      rcases sound.pending pending with unborn | ⟨worker', same, running⟩
      · cases found.symm.trans unborn.1
      · obtain rfl := Option.some.inj (found.symm.trans same)
        exact .inr ⟨_, told, running⟩
    resolved := by
      intro resolved after same
      obtain rfl := Option.some.inj (told.symm.trans same)
      exact sound.resolved resolved worker found
    unborn := by
      intro unborn
      cases told.symm.trans unborn }

/-! The three together. -/

theorem ChildSound.update (sound : ∀ child, ChildSound ended (children child)) (changed : Child)
    (each : ChildSound ended handle) (child : Child) :
    ChildSound ended (Function.update children changed handle child) := by
  by_cases same : child = changed
  · subst same
    rw [Function.update_self]
    exact each
  · rw [Function.update_of_ne same]
    exact sound child

namespace EmulatorHandle

/-- However far the start came, what was started is sound, and the rest is as it was. -/
theorem startChildren_sound (failure : Child → Option String) (sound : ∀ child, ChildSound false (children child))
    (order : List Child) (child : Child) :
    ChildSound false ((startChildren failure order children).2 child) := by
  induction order generalizing children with
  | nil => exact sound child
  | cons first rest kept =>
    rw [startChildren]
    split
    · exact sound child
    · rename_i started
      exact kept (ChildSound.update sound first ((sound first).start started).1)

/-- A start that throws has met a constructor that did. -/
theorem startChildren_error (sound : ∀ child, ChildSound false (children child)) (order : List Child)
    (distinct : order.Nodup) (unborn : ∀ child ∈ order, (children child).worker = none) {reason : String}
    (failed : (startChildren failure order children).1 = some reason) :
    ∃ child ∈ order, failure child = some reason := by
  induction order generalizing children with
  | nil => cases failed
  | cons first rest kept =>
    rw [startChildren] at failed
    split at failed
    · rename_i error
      obtain rfl := Option.some.inj failed
      exact ⟨first, List.mem_cons_self, (sound first).start_error (unborn first List.mem_cons_self) error⟩
    · rename_i handle started
      obtain ⟨fresh, apart⟩ := List.nodup_cons.mp distinct
      have later : ∀ child ∈ rest, (Function.update children first handle child).worker = none := by
        intro child member
        have other : child ≠ first := fun same => fresh (same ▸ member)
        rw [Function.update_of_ne other]
        exact unborn child (List.mem_cons_of_mem _ member)
      obtain ⟨child, member, same⟩ :=
        kept (ChildSound.update sound first ((sound first).start started).1) apart later failed
      exact ⟨child, List.mem_cons_of_mem _ member, same⟩

/-- A start that does not throw has made a worker for every child. -/
theorem startChildren_started (sound : ∀ child, ChildSound false (children child)) (order : List Child)
    (distinct : order.Nodup) (succeeded : (startChildren failure order children).1 = none) (child : Child) :
    ((startChildren failure order children).2 child).worker =
      if child ∈ order then some .fresh else (children child).worker := by
  induction order generalizing children with
  | nil => rfl
  | cons first rest kept =>
    rw [startChildren] at succeeded ⊢
    split at succeeded
    · cases succeeded
    rename_i handle started
    obtain ⟨fresh, apart⟩ := List.nodup_cons.mp distinct
    obtain ⟨each, _, made⟩ := (sound first).start started
    rw [kept (ChildSound.update sound first each) apart succeeded]
    by_cases same : child = first
    · subst same
      rw [if_neg fresh, if_pos List.mem_cons_self, Function.update_self]
      exact made
    · rw [Function.update_of_ne same]
      simp only [List.mem_cons, same, false_or]

theorem onChild_self {event : ChildHandle → ChildHandle} {child : Child} :
    (emulator.onChild child event).children child = event (emulator.children child) :=
  Function.update_self ..

theorem onChild_other {event : ChildHandle → ChildHandle} {child other : Child} (apart : other ≠ child) :
    (emulator.onChild child event).children other = emulator.children other :=
  Function.update_of_ne apart ..

theorem Settles.later {after : EmulatorHandle} {outcome : Lifetime} (settles : emulator.Settles outcome)
    (kept : ∀ child, (emulator.children child).lifetime ≠ .pending →
      (after.children child).lifetime = (emulator.children child).lifetime) : after.Settles outcome := by
  cases outcome with
  | pending => exact settles
  | resolved =>
    intro child
    have resolved := settles child
    rw [kept child, resolved]
    rw [resolved]
    exact Lifetime.noConfusion
  | rejected reason =>
    obtain ⟨child, rejected⟩ := settles
    refine ⟨child, ?_⟩
    rw [kept child, rejected]
    rw [rejected]
    exact Lifetime.noConfusion

end EmulatorHandle

theorem ChildHandle.stop_lifetime (ask : HostWorker → HostWorker) (settled : handle.lifetime ≠ .pending) :
    (handle.stop ask).lifetime = handle.lifetime := by
  unfold stop
  split
  · rfl
  split
  · rfl
  · exact Lifetime.settle_eq settled

theorem ChildHandle.stop_isSome (ask : HostWorker → HostWorker) :
    (handle.stop ask).worker.isSome = handle.worker.isSome := by
  unfold stop
  split
  · rfl
  split
  · rename_i found
    rw [found]
    rfl
  · rfl

namespace EmulatorSound

theorem fresh : EmulatorSound .fresh where
  children _ := .fresh
  started started := absurd started Bool.false_ne_true
  unstarted _ _ _ := rfl
  done settled := absurd rfl settled
  settled settled := absurd rfl settled

theorem stop (sound : EmulatorSound emulator) : EmulatorSound emulator.stop := by
  unfold EmulatorHandle.stop
  split
  · exact sound
  rename_i going
  have running : emulator.stopped = false := Bool.eq_false_iff.mpr going
  have children := sound.children
  rw [running] at children
  exact {
    children := fun child => (children child).stop child
    started := fun started child => (ChildHandle.stop_isSome _).trans (sound.started started child)
    unstarted := by
      intro _ stopped
      cases stopped
    done := fun _ => rfl
    settled := fun settled => absurd (sound.done settled) going }

theorem start (sound : EmulatorSound emulator) (failure : Child → Option String) :
    EmulatorSound (emulator.start failure).2 := by
  unfold EmulatorHandle.start
  split
  · exact sound
  rename_i going
  split
  · exact sound
  rename_i unstarted
  have running : emulator.stopped = false := Bool.eq_false_iff.mpr going
  have children := sound.children
  rw [running] at children
  have reached := EmulatorHandle.startChildren_sound failure children [.timer, .cpu, .terminal]
  have waiting : emulator.done = .pending := by
    by_contra settled
    exact going (sound.done settled)
  split
  · rename_i reason after came
    rw [came] at reached
    exact {
      children := fun child => (reached child).stop child
      started := fun started => absurd started unstarted
      unstarted := by
        intro _ stopped
        cases stopped
      done := fun _ => rfl
      settled := fun settled => absurd waiting settled }
  · rename_i after came
    have made := EmulatorHandle.startChildren_started children
      [.timer, .cpu, .terminal] (by decide) (congrArg Prod.fst came)
    rw [came] at reached made
    exact {
      children := by
        rw [running]
        exact reached
      started := by
        intro _ child
        rw [made child]
        cases child <;> rfl
      unstarted := by
        intro started
        cases started
      done := sound.done
      settled := fun settled => absurd waiting settled }

theorem watched (sound : EmulatorSound emulator) (request : SysconRequest) :
    EmulatorSound (emulator.watched request) := by
  have returned : EmulatorSound { emulator with watch := .returned } :=
    ⟨sound.children, sound.started, sound.unstarted, sound.done, sound.settled⟩
  unfold EmulatorHandle.watched
  simp only
  split
  · exact returned
  · exact returned.stop

/-- An event of a worker that keeps its handle sound and what has settled. -/
theorem onChild (sound : EmulatorSound emulator) {child : Child} {event : ChildHandle → ChildHandle}
    (each : ChildSound emulator.stopped (event (emulator.children child)))
    (kept : (emulator.children child).lifetime ≠ .pending →
      (event (emulator.children child)).lifetime = (emulator.children child).lifetime)
    (made : (event (emulator.children child)).worker.isSome = (emulator.children child).worker.isSome) :
    EmulatorSound (emulator.onChild child event) where
  children := ChildSound.update sound.children child each
  started := by
    intro started other
    by_cases same : other = child
    · subst same
      rw [EmulatorHandle.onChild_self, made]
      exact sound.started started _
    · rw [EmulatorHandle.onChild_other same]
      exact sound.started started other
  unstarted := by
    intro unstarted going other
    have unborn := sound.unstarted unstarted going
    by_cases same : other = child
    · subst same
      rw [EmulatorHandle.onChild_self, ← Option.not_isSome_iff_eq_none, made, unborn]
      exact Bool.false_ne_true
    · rw [EmulatorHandle.onChild_other same]
      exact unborn other
  done := sound.done
  settled := by
    intro settled
    refine EmulatorHandle.Settles.later (sound.settled settled) fun other before => ?_
    by_cases same : other = child
    · subst same
      rw [EmulatorHandle.onChild_self]
      exact kept before
    · rw [EmulatorHandle.onChild_other same]

theorem finish (sound : EmulatorSound emulator) {outcome : Lifetime} (settles : emulator.Settles outcome) :
    EmulatorSound (emulator.finish outcome) := by
  unfold EmulatorHandle.finish EmulatorHandle.stop
  split
  · rename_i stopped
    exact ⟨sound.children, sound.started, sound.unstarted, fun _ => stopped, fun _ => settles⟩
  rename_i going
  have running : emulator.stopped = false := Bool.eq_false_iff.mpr going
  have children := sound.children
  rw [running] at children
  exact {
    children := fun child => (children child).stop child
    started := fun started child => (ChildHandle.stop_isSome _).trans (sound.started started child)
    unstarted := by
      intro _ stopped
      cases stopped
    done := fun _ => rfl
    settled := by
      intro _
      exact EmulatorHandle.Settles.later settles fun child settled => ChildHandle.stop_lifetime _ settled }

end EmulatorSound

theorem ClosingStep.sound {after : EmulatorHandle} (step : ClosingStep emulator after)
    (sound : EmulatorSound emulator) : EmulatorSound after := by
  cases step with
  | exit child code running =>
    refine sound.onChild ((sound.children child).onExit child.name code running) ?_ ?_
    · exact Lifetime.settle_eq
    · exact Option.isSome_map
  | finish outcome waiting settles => exact sound.finish settles

theorem LifecycleStep.sound {after : EmulatorHandle} (step : LifecycleStep emulator after)
    (sound : EmulatorSound emulator) : EmulatorSound after := by
  cases step with
  | start failure => exact sound.start failure
  | stop => exact sound.stop
  | watched request watching => exact sound.watched request
  | error child reason running =>
    exact sound.onChild ((sound.children child).onError reason running) Lifetime.settle_eq rfl
  | fallback armed =>
    exact sound.onChild ((sound.children .terminal).onFallback ⟨_, armed⟩) (fun _ => rfl) Option.isSome_map
  | closing step => exact step.sound sound

theorem lifecycle_sound (run : ReflTransGen LifecycleStep .fresh emulator) : EmulatorSound emulator :=
  invariant_run EmulatorSound (fun _ _ step => step.sound) run .fresh

/-- In every run each child has at most one worker, and one each once the emulator has started;
children and emulator are stopped together, and from then on every worker that has not exited has
been told to; the wait settles only once stopped, and resolves only after every worker has exited. -/
theorem emulator_lifecycle (run : ReflTransGen LifecycleStep .fresh emulator) :
    (∀ child, (emulator.children child).created ≤ 1) ∧
      (emulator.started = true → ∀ child, (emulator.children child).created = 1) ∧
      (∀ child, (emulator.children child).stopped = emulator.stopped) ∧
      (∀ child worker, (emulator.children child).worker = some worker → worker.running = true →
        (emulator.stopped = true ↔ worker.Asked)) ∧
      (emulator.done ≠ .pending → emulator.stopped = true) ∧
      (emulator.done = .resolved → ∀ child, ¬ emulator.Running child) ∧
      (∀ reason, emulator.done = .rejected reason →
        ∃ child, (emulator.children child).lifetime = .rejected reason) := by
  have sound := lifecycle_sound run
  refine ⟨fun child => ?_, fun started child => ?_, fun child => (sound.children child).stopped,
    fun child => (sound.children child).asked, sound.done, fun resolved child => ?_, fun reason rejected => ?_⟩
  · rw [(sound.children child).created]
    split
    · exact Nat.le_refl 1
    · exact Nat.zero_le 1
  · rw [(sound.children child).created, sound.started started child]
    rfl
  · rintro ⟨worker, found, running⟩
    have settles := sound.settled (by
      rw [resolved]
      exact Lifetime.noConfusion)
    rw [resolved] at settles
    exact Bool.noConfusion (((sound.children child).resolved (settles child) worker found).symm.trans running)
  · have settles := sound.settled (by
      rw [rejected]
      exact Lifetime.noConfusion)
    rw [rejected] at settles
    exact settles

/-- The CPU worker crashes, and the wait fails over it. -/
theorem emulator_lifecycle_crash : ∃ emulator, ReflTransGen LifecycleStep .fresh emulator ∧
    emulator.done = .rejected "CPU worker exited with code 1" ∧
    (∀ child, (emulator.children child).created ≤ 1) ∧
      (emulator.started = true → ∀ child, (emulator.children child).created = 1) ∧
      (∀ child, (emulator.children child).stopped = emulator.stopped) ∧
      (∀ child worker, (emulator.children child).worker = some worker → worker.running = true →
        (emulator.stopped = true ↔ worker.Asked)) ∧
      (emulator.done ≠ .pending → emulator.stopped = true) ∧
      (emulator.done = .resolved → ∀ child, ¬ emulator.Running child) ∧
      (∀ reason, emulator.done = .rejected reason →
        ∃ child, (emulator.children child).lifetime = .rejected reason) := by
  have started : ReflTransGen LifecycleStep .fresh _ := .single (.start fun _ => none)
  have crashed := started.tail (.closing (.exit .cpu 1 ⟨.fresh, rfl, rfl⟩))
  have ended := crashed.tail (.closing (.finish (.rejected "CPU worker exited with code 1") rfl ⟨.cpu, by decide⟩))
  exact ⟨_, ended, rfl, emulator_lifecycle ended⟩

/-! A start. -/

theorem EmulatorHandle.startChildren_fresh (failure : Child → Option String)
    (sound : ∀ child, ChildSound false (children child)) (order : List Child)
    (unborn : ∀ child, (children child).worker = none ∨ (children child).worker = some .fresh) (child : Child) :
    ((startChildren failure order children).2 child).worker = none ∨
      ((startChildren failure order children).2 child).worker = some .fresh := by
  induction order generalizing children with
  | nil => exact unborn child
  | cons first rest kept =>
    rw [startChildren]
    split
    · exact unborn child
    · rename_i handle started
      obtain ⟨each, _, made⟩ := (sound first).start started
      refine kept (ChildSound.update sound first each) fun other => ?_
      by_cases same : other = first
      · subst same
        rw [Function.update_self]
        exact .inr made
      · rw [Function.update_of_ne same]
        exact unborn other

/-- A start leaves three new workers, or throws: before it does anything, or for the constructor of
a worker, with the workers made before told to exit and nobody left to wait for the others. -/
theorem emulator_start (run : ReflTransGen LifecycleStep .fresh emulator) (failure : Child → Option String) :
    match emulator.start failure with
    | (none, after) => after.started = true ∧ after.stopped = false ∧ after.watch = .watching ∧
        ∀ child, (after.children child).worker = some .fresh
    | (some reason, after) =>
      after = emulator ∧ (emulator.stopped = true ∧ reason = "Already stopped." ∨
        emulator.started = true ∧ emulator.stopped = false ∧ reason = "Already started.") ∨
      (∃ child, failure child = some reason) ∧ after.stopped = true ∧ after.started = false ∧
        ∀ child, (after.children child).worker = none ∧ (after.children child).lifetime = .resolved ∨
          (after.children child).worker = some (child.ask .fresh) := by
  have sound := lifecycle_sound run
  by_cases stopped : emulator.stopped = true
  · rw [EmulatorHandle.start, if_pos stopped]
    exact .inl ⟨rfl, .inl ⟨stopped, rfl⟩⟩
  have running : emulator.stopped = false := Bool.eq_false_iff.mpr stopped
  by_cases unstarted : emulator.started = true
  · rw [EmulatorHandle.start, if_neg stopped, if_pos unstarted]
    exact .inl ⟨rfl, .inr ⟨unstarted, running, rfl⟩⟩
  rw [EmulatorHandle.start, if_neg stopped, if_neg unstarted]
  have children := sound.children
  rw [running] at children
  have unborn := sound.unstarted (Bool.eq_false_iff.mpr unstarted) running
  cases came : EmulatorHandle.startChildren failure [.timer, .cpu, .terminal] emulator.children with
  | mk thrown after =>
  cases thrown with
  | none =>
    have made := EmulatorHandle.startChildren_started children
      [.timer, .cpu, .terminal] (by decide) (congrArg Prod.fst came)
    rw [came] at made
    refine ⟨rfl, running, rfl, fun child => ?_⟩
    rw [made child]
    cases child <;> rfl
  | some reason =>
    have reached := EmulatorHandle.startChildren_sound failure children [.timer, .cpu, .terminal]
    have fresh := EmulatorHandle.startChildren_fresh failure children [.timer, .cpu, .terminal]
      fun child => .inl (unborn child)
    obtain ⟨child, _, failed⟩ := EmulatorHandle.startChildren_error children
      [.timer, .cpu, .terminal] (by decide) (fun child _ => unborn child) (congrArg Prod.fst came)
    rw [came] at reached fresh
    refine .inr ⟨⟨child, failed⟩, rfl, Bool.eq_false_iff.mpr unstarted, fun child => ?_⟩
    change ((after child).stop child.ask).worker = none ∧ ((after child).stop child.ask).lifetime = .resolved ∨
      ((after child).stop child.ask).worker = some (child.ask .fresh)
    rcases fresh child with unborn | made
    · exact .inl ((reached child).stop_unborn child.ask unborn)
    · exact .inr ((reached child).stop_born child.ask made)

/-- The terminal's worker cannot be made. -/
theorem emulator_start_rollback :
    match EmulatorHandle.fresh.start fun child => if child = .terminal then some "no memory" else none with
    | (none, after) => after.started = true ∧ after.stopped = false ∧ after.watch = .watching ∧
        ∀ child, (after.children child).worker = some .fresh
    | (some reason, after) =>
      after = .fresh ∧ (EmulatorHandle.fresh.stopped = true ∧ reason = "Already stopped." ∨
        EmulatorHandle.fresh.started = true ∧ EmulatorHandle.fresh.stopped = false ∧
          reason = "Already started.") ∨
      (∃ child : Child, (if child = .terminal then some "no memory" else none) = some reason) ∧
        after.stopped = true ∧ after.started = false ∧
        ∀ child, (after.children child).worker = none ∧ (after.children child).lifetime = .resolved ∨
          (after.children child).worker = some (child.ask .fresh) :=
  emulator_start .refl fun child => if child = .terminal then some "no memory" else none

/-! The end. -/

def ChildHandle.runs (handle : ChildHandle) : Bool :=
  match handle.worker with
  | some worker => worker.running
  | none => false

theorem ChildHandle.stop_runs (child : Child) : (handle.stop child.ask).runs = handle.runs := by
  unfold stop
  split
  · rfl
  split
  · rename_i worker found
    simp only [runs, found]
    exact child.ask_running worker
  · rfl

namespace EmulatorHandle

/-- The workers still running, and the wait for them. -/
def rank (emulator : EmulatorHandle) : Nat :=
  (emulator.children .cpu).runs.toNat + (emulator.children .timer).runs.toNat +
    (emulator.children .terminal).runs.toNat + if emulator.done = .pending then 1 else 0

theorem running_iff {child : Child} : emulator.Running child ↔ (emulator.children child).runs = true := by
  unfold Running ChildHandle.runs
  cases found : (emulator.children child).worker with
  | none =>
    constructor
    · rintro ⟨worker, same, _⟩
      cases same
    · intro running
      cases running
  | some worker =>
    constructor
    · rintro ⟨other, same, running⟩
      obtain rfl := Option.some.inj same
      exact running
    · intro running
      exact ⟨worker, rfl, running⟩

theorem rank_le (emulator : EmulatorHandle) : emulator.rank ≤ 4 := by
  have cpu := Bool.toNat_le (emulator.children .cpu).runs
  have timer := Bool.toNat_le (emulator.children .timer).runs
  have terminal := Bool.toNat_le (emulator.children .terminal).runs
  unfold rank
  split
  · omega
  · omega

end EmulatorHandle

theorem ClosingStep.rank_lt {after : EmulatorHandle} (step : ClosingStep emulator after) :
    after.rank < emulator.rank := by
  cases step with
  | exit child code running =>
    have before := EmulatorHandle.running_iff.mp running
    have exited : ((emulator.children child).onExit child.name code).runs = false := by
      obtain ⟨worker, found, _⟩ := running
      rw [ChildHandle.runs, ChildHandle.onExit, found]
      rfl
    have self : ((emulator.onChild child (·.onExit child.name code)).children child).runs = false := by
      rw [EmulatorHandle.onChild_self]
      exact exited
    have others (other : Child) (apart : other ≠ child) :
        ((emulator.onChild child (·.onExit child.name code)).children other).runs =
          (emulator.children other).runs := by
      rw [EmulatorHandle.onChild_other apart]
    have done : (emulator.onChild child (·.onExit child.name code)).done = emulator.done := rfl
    unfold EmulatorHandle.rank
    rw [done]
    cases child with
    | cpu =>
      rw [self, others .timer Child.noConfusion, others .terminal Child.noConfusion, before]
      simp only [Bool.toNat_true, Bool.toNat_false]
      omega
    | timer =>
      rw [self, others .cpu Child.noConfusion, others .terminal Child.noConfusion, before]
      simp only [Bool.toNat_true, Bool.toNat_false]
      omega
    | terminal =>
      rw [self, others .cpu Child.noConfusion, others .timer Child.noConfusion, before]
      simp only [Bool.toNat_true, Bool.toNat_false]
      omega
  | finish outcome waiting settles =>
    have settled : outcome ≠ .pending := by
      rintro rfl
      exact settles
    have kept (child : Child) : ((emulator.finish outcome).children child).runs = (emulator.children child).runs := by
      unfold EmulatorHandle.finish EmulatorHandle.stop
      split
      · rfl
      · exact ChildHandle.stop_runs child
    have done : (emulator.finish outcome).done = outcome := by
      unfold EmulatorHandle.finish EmulatorHandle.stop
      split
      · rfl
      · rfl
    unfold EmulatorHandle.rank
    rw [kept, kept, kept, done, if_neg settled, if_pos waiting]
    exact Nat.lt_succ_self _

theorem EmulatorHandle.finish_stopped (emulator : EmulatorHandle) (outcome : Lifetime) :
    (emulator.finish outcome).stopped = true := by
  unfold finish stop
  split
  · rename_i stopped
    exact stopped
  · rfl

theorem ClosingStep.stopped {after : EmulatorHandle} (step : ClosingStep emulator after)
    (stopped : emulator.stopped = true) : after.stopped = true := by
  cases step with
  | exit => exact stopped
  | finish outcome => exact emulator.finish_stopped outcome

/-- A stopped emulator whose workers have exited has nothing left to wait for. -/
theorem EmulatorSound.settles (sound : EmulatorSound emulator) (stopped : emulator.stopped = true)
    (exited : ∀ child, ¬ emulator.Running child) : ∃ outcome, emulator.Settles outcome := by
  have settled (child : Child) : (emulator.children child).lifetime ≠ .pending := by
    intro pending
    rcases (sound.children child).pending pending with unborn | running
    · exact absurd (unborn.2.symm.trans stopped) Bool.false_ne_true
    · exact exited child running
  by_cases failed : ∃ child reason, (emulator.children child).lifetime = .rejected reason
  · obtain ⟨child, reason, rejected⟩ := failed
    exact ⟨.rejected reason, child, rejected⟩
  refine ⟨.resolved, fun child => ?_⟩
  cases lifetime : (emulator.children child).lifetime with
  | pending => exact absurd lifetime (settled child)
  | resolved => rfl
  | rejected reason => exact absurd ⟨child, reason, lifetime⟩ failed

/-- Once stopped, at most three exits and the end of the wait are to come, and when nothing more can
come every worker has exited and the wait has settled. -/
theorem emulator_settles {after : EmulatorHandle} (run : ReflTransGen LifecycleStep .fresh emulator)
    (stopped : emulator.stopped = true) (closing : RunIn ClosingStep count emulator after) :
    count ≤ 4 ∧ ((∀ next, ¬ ClosingStep after next) →
      after.done ≠ .pending ∧ ∀ child, ¬ after.Running child) := by
  have bound := closing.rank_le (fun _ => True) EmulatorHandle.rank (fun _ _ _ _ => trivial)
    (fun _ _ step _ => step.rank_lt) trivial
  refine ⟨(Nat.le_of_add_right_le bound).trans emulator.rank_le, fun stuck => ?_⟩
  have reached : EmulatorSound after ∧ after.stopped = true :=
    invariant_run (fun emulator => EmulatorSound emulator ∧ emulator.stopped = true)
      (fun _ _ step before => ⟨step.sound before.1, step.stopped before.2⟩) closing.reaches
      ⟨lifecycle_sound run, stopped⟩
  have exited (child : Child) : ¬ after.Running child := fun running => stuck _ (.exit child 0 running)
  refine ⟨fun waiting => ?_, exited⟩
  obtain ⟨outcome, settles⟩ := reached.1.settles reached.2 exited
  exact stuck _ (.finish outcome waiting settles)

/-- The guest powers off. -/
theorem emulator_settles_poweroff : ∃ emulator, ReflTransGen LifecycleStep .fresh emulator ∧
    emulator.stopped = true ∧ ∃ after, RunIn ClosingStep 4 emulator after ∧ after.done = .resolved ∧
      4 ≤ 4 ∧ ((∀ next, ¬ ClosingStep after next) →
        after.done ≠ .pending ∧ ∀ child, ¬ after.Running child) := by
  have started : ReflTransGen LifecycleStep .fresh _ := .single (.start fun _ => none)
  have stopped := started.tail (.watched .poweroff rfl)
  have exited := ((RunIn.refl ((EmulatorHandle.fresh.start fun _ => none).2.watched .poweroff)).tail
    (ClosingStep.exit .cpu 1 ⟨HostWorker.fresh.terminate, rfl, rfl⟩)).tail
      (ClosingStep.exit .timer 1 ⟨HostWorker.fresh.terminate, rfl, rfl⟩)
  have flushed := exited.tail (.exit .terminal 0 ⟨HostWorker.fresh.requestDrain, rfl, rfl⟩)
  have ended := flushed.tail (.finish .resolved rfl fun child => by cases child <;> rfl)
  exact ⟨_, stopped, rfl, _, ended, rfl, emulator_settles stopped rfl ended⟩

end YaRiscV.Emulator
