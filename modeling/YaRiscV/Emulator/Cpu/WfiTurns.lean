import YaRiscV.Emulator.Clint.Turns
import YaRiscV.Emulator.Cpu.Instructions.System
import YaRiscV.Emulator.Cpu.TimerWires

/-! `sampleDevicePending` and the loop of `wfi` access by access: every read of a wire and
every access to the shared words is a step of its own. -/

namespace YaRiscV.Emulator

open YaRiscV.Library YaRiscV.Utils Relation

/-- The access a hart makes next in `sampleDevicePending`. -/
inductive SamplePlace where
  | readingMachineTimer
  | readingMachineSoftware
  | publishing
  | loadingMirror (desired : Bytes8)
  | storingMirror (desired : Bytes8)
  | refreshing (place : RefreshPlace)
  | readingSupervisorTimer
  | readingMachineExternal
  | readingSupervisorExternal
  | sampled
  deriving DecidableEq, Repr

/-- A hart's registers beside the memory it shares. -/
abbrev HartView := Registers × Memory

variable (view : HartView)

/-- One access of `sampleDevicePending`. -/
def sampleTurn : SamplePlace → SamplePlace × HartView
  | .readingMachineTimer => (.readingMachineSoftware,
      setMachineTimerInterruptPending view.1 (isClintMachineTimerPending view.2), view.2)
  | .readingMachineSoftware => (.publishing,
      setMachineSoftwareInterruptPending view.1 (isClintMachineSoftwarePending view.2), view.2)
  | .publishing =>
    if compareUnsignedBytes view.1.publishedSupervisorTimerCompare (publishedCompare view.1) = 0 then
      (.readingSupervisorTimer, view)
    else (.loadingMirror (publishedCompare view.1),
      { view.1 with publishedSupervisorTimerCompare := publishedCompare view.1 }, view.2)
  | .loadingMirror desired =>
    (if desired = readStimecmpMirror view.2 then .readingSupervisorTimer else .storingMirror desired, view)
  | .storingMirror desired => (.refreshing (.loadingMtime 0), view.1, writeStimecmpMirror view.2 desired)
  | .refreshing (.refreshed _) => (.readingSupervisorTimer, view)
  | .refreshing place =>
    let (place, memory) := refreshTurn view.2 place
    (.refreshing place, view.1, memory)
  | .readingSupervisorTimer => (.readingMachineExternal,
      setSupervisorTimerInterruptPending view.1 (isClintSupervisorTimerPending view.2), view.2)
  | .readingMachineExternal => (.readingSupervisorExternal,
      setMachineExternalInterruptPending view.1 (isPlicMachineExternalPending view.2), view.2)
  | .readingSupervisorExternal => (.sampled,
      setSupervisorExternalInterruptPending view.1 (isPlicSupervisorExternalPending view.2), view.2)
  | .sampled => (.sampled, view)

/-- The access a hart makes next in the loop of `wfi`. -/
inductive WfiPlace where
  | first (place : SamplePlace)
  | loadingLevel
  | second (fromLevel : BitVec 32) (place : SamplePlace)
  | comparing (fromLevel : BitVec 32)
  | parked (fromLevel : BitVec 32)
  | resumed
  deriving DecidableEq, Repr

/-- One access of the loop of `wfi`; `Atomics.waitAsync` compares and parks in one. -/
def waitTurn : WfiPlace → WfiPlace × HartView
  | .first .sampled => (if isPendingEnabledInterrupt view.1 then .resumed else .loadingLevel, view)
  | .first place =>
    let (place, view) := sampleTurn view place
    (.first place, view)
  | .loadingLevel => (.second (loadIrqLevel view.2) .readingMachineTimer, view)
  | .second fromLevel .sampled =>
    (if isPendingEnabledInterrupt view.1 then .resumed else .comparing fromLevel, view)
  | .second fromLevel place =>
    let (place, view) := sampleTurn view place
    (.second fromLevel place, view)
  | .comparing fromLevel =>
    (if loadIrqLevel view.2 = fromLevel then .parked fromLevel else .first .readingMachineTimer, view)
  | .parked fromLevel => (.parked fromLevel, view)
  | .resumed => (.resumed, view)

variable {view}

/-! A sample or a turn of the loop that is not interfered with is the function. -/

theorem sample_refresh (place : RefreshPlace) (registers : Registers) (memory : Memory) :
    ReflTransGen (Alone sampleTurn) (.refreshing place, registers, memory)
      (.refreshing (refreshTurn memory place).1, registers, (refreshTurn memory place).2) := by
  cases place with
  | refreshed settled => exact .refl
  | _ => exact Alone.run rfl

theorem sample_publishes (registers : Registers) (memory : Memory) :
    ReflTransGen (Alone sampleTurn) (.publishing, registers, memory)
      (.readingSupervisorTimer, publishSupervisorTimerCompare registers memory) := by
  have unfolded : publishSupervisorTimerCompare registers memory =
      if compareUnsignedBytes registers.publishedSupervisorTimerCompare (publishedCompare registers) = 0 then
        (registers, memory)
      else ({ registers with publishedSupervisorTimerCompare := publishedCompare registers },
        setClintStimecmpMirror memory (publishedCompare registers)) := rfl
  rw [unfolded]
  by_cases current : compareUnsignedBytes registers.publishedSupervisorTimerCompare (publishedCompare registers) = 0
  · rw [if_pos current]
    exact Alone.run (if_pos current)
  rw [if_neg current]
  have starts : ReflTransGen (Alone sampleTurn) (.publishing, registers, memory) _ := Alone.run (if_neg current)
  generalize ({ registers with publishedSupervisorTimerCompare := publishedCompare registers } : Registers) = published
    at starts
  generalize publishedCompare registers = desired at starts
  refine starts.trans ?_
  rw [setClintStimecmpMirror]
  by_cases same : desired = readStimecmpMirror memory
  · rw [if_pos same]
    exact Alone.run (congrArg (·, published, memory) (if_pos same))
  rw [if_neg same]
  have stores : ReflTransGen (Alone sampleTurn) (.loadingMirror desired, published, memory)
      (.storingMirror desired, published, memory) := Alone.run (congrArg (·, published, memory) (if_neg same))
  have writes : ReflTransGen (Alone sampleTurn) (.storingMirror desired, published, memory)
      (.refreshing (.loadingMtime 0), published, writeStimecmpMirror memory desired) := Alone.run rfl
  have refreshes : ReflTransGen (Alone sampleTurn)
      (.refreshing (.loadingMtime 0), published, writeStimecmpMirror memory desired)
      (.refreshing (.refreshed true), published, updateTimerWiresFromCompare (writeStimecmpMirror memory desired)) := by
    refine (refresh_alone (writeStimecmpMirror memory desired)).lift'
      (fun state => (SamplePlace.refreshing state.1, published, state.2)) ?_
    rintro _ _ ⟨place, memory⟩
    exact sample_refresh place published memory
  exact ((stores.trans writes).trans refreshes).trans (Alone.run rfl)

theorem sample_alone (registers : Registers) (memory : Memory) :
    ReflTransGen (Alone sampleTurn) (.readingMachineTimer, registers, memory)
      (.sampled, sampleDevicePending registers memory) := by
  have machine : ReflTransGen (Alone sampleTurn) (.readingMachineTimer, registers, memory)
      (.publishing, machineWiresSampled registers memory, memory) :=
    .trans (.single (.turn _ _)) (.single (.turn _ _))
  refine (machine.trans (sample_publishes _ memory)).trans ?_
  exact .trans (.single (.turn _ _)) (.trans (.single (.turn _ _)) (.single (.turn _ _)))

theorem wait_first (run : ReflTransGen (Alone sampleTurn) (place, view) (last, after)) :
    ReflTransGen (Alone waitTurn) (.first place, view) (.first last, after) := by
  refine run.lift' (fun state => (WfiPlace.first state.1, state.2)) ?_
  rintro _ _ ⟨place, view⟩
  cases place with
  | sampled => exact .refl
  | _ => exact Alone.run rfl

theorem wait_second (fromLevel : BitVec 32) (run : ReflTransGen (Alone sampleTurn) (place, view) (last, after)) :
    ReflTransGen (Alone waitTurn) (.second fromLevel place, view) (.second fromLevel last, after) := by
  refine run.lift' (fun state => (WfiPlace.second fromLevel state.1, state.2)) ?_
  rintro _ _ ⟨place, view⟩
  cases place with
  | sampled => exact .refl
  | _ => exact Alone.run rfl

/-- A turn of the loop returns, or comes to the compare of `Atomics.waitAsync`. -/
theorem wfiTurn_alone (registers : Registers) (memory : Memory) : ∃ place after memory',
    ReflTransGen (Alone waitTurn) (.first .readingMachineTimer, registers, memory) (place, after, memory') ∧
      ((place = .resumed ∧ wfiTurn registers memory = .completed after memory') ∨
        ∃ fromLevel, place = .comparing fromLevel ∧ wfiTurn registers memory = .waiting after memory' fromLevel) := by
  have first := wait_first (sample_alone registers memory)
  have second := wait_second (loadIrqLevel (sampleDevicePending registers memory).2)
    (sample_alone (sampleDevicePending registers memory).1 (sampleDevicePending registers memory).2)
  simp only [wfiTurn]
  generalize sampleDevicePending registers memory = view at first second
  obtain ⟨middle, shared⟩ := view
  generalize sampleDevicePending middle shared = view at second
  obtain ⟨after, left⟩ := view
  by_cases wakes : isPendingEnabledInterrupt middle = true
  · refine ⟨.resumed, middle, shared, first.trans (Alone.run ?_), .inl ⟨rfl, if_pos wakes⟩⟩
    rw [waitTurn, if_pos wakes]
  have loads : ReflTransGen (Alone waitTurn) (.first .sampled, middle, shared) (.loadingLevel, middle, shared) :=
    Alone.run (by rw [waitTurn, if_neg wakes])
  have samples := ((first.trans loads).trans (Alone.run rfl)).trans second
  rw [if_neg wakes]
  by_cases pending : isPendingEnabledInterrupt after = true
  · refine ⟨.resumed, after, left, samples.trans (Alone.run ?_), .inl ⟨rfl, if_pos pending⟩⟩
    rw [waitTurn, if_pos pending]
  · refine ⟨.comparing (loadIrqLevel shared), after, left, samples.trans (Alone.run ?_), .inr ⟨_, rfl, if_neg pending⟩⟩
    rw [waitTurn, if_neg pending]

end YaRiscV.Emulator
