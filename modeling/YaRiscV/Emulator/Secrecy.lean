import YaRiscV.Emulator.Cpu.DeviceMediation

/-! Secrets of M-mode over whole runs: while the hart stays below M, two machines that differ in
concealed RAM bytes only go on alike, devices, console and other workers included. -/

namespace YaRiscV.Emulator

open YaRiscV.Library YaRiscV.Utils Relation

variable {registers base : Registers} {left right memory : Memory}

/-! Turns. -/

theorem Hart.turn_reaches {hart next : Hart} (ended : hart.turn.hart? = some next) :
    ReflTransGen CpuStep hart.registers next.registers := by
  obtain ⟨result, _⟩ := Execution.hart_eq ended
  rw [Hart.turn] at result
  split at result
  · exact runLoopTurn_reaches result
  · obtain ⟨before, turned, committed⟩ := commit_registers result
    have resumed : ReflTransGen CpuStep hart.registers before := .single (.resume hart.memory turned)
    rcases committed with same | same
    · rw [same]
      exact resumed
    · rw [same]
      exact resumed.tail .commitRetire

theorem wfiTurn_pmpKept {after : Registers} (result : (wfiTurn registers memory).registers? = some after) :
    PmpKept registers after := by
  obtain ⟨reached, memory', sampled, same | ⟨fromLevel, same⟩⟩ := wfiTurn_samples registers memory
  · rw [same] at result
    cases result
    exact .samples sampled
  · rw [same] at result
    cases result
    exact .samples sampled

theorem Hart.turn_pmpKept {hart next : Hart} (legal : RegisterInvariant hart.registers)
    (below : hart.registers.privilegeMode ≠ privilegeMachine) (ended : hart.turn.hart? = some next) :
    PmpKept hart.registers next.registers := by
  obtain ⟨result, _⟩ := Execution.hart_eq ended
  rw [Hart.turn] at result
  split at result
  · exact .turn legal below result
  · exact .commit (fun _ turned => wfiTurn_pmpKept turned) result

/-! Runs. -/

/-- One operation of one worker. -/
inductive WorkerOperation where
  | turn
  | tick (worker : Worker)
  | receive (worker : Worker) (value : BitVec 8)
  | transmit (worker : Worker)
  | cancel (worker : Worker)

/-- Carry out an operation: the byte it hands to the host, if any, and where it leaves the hart. -/
def Hart.operate (hart : Hart) : WorkerOperation → Option (Option (BitVec 8) × Hart)
  | .turn => hart.turn.hart?.map fun next => (none, next)
  | .tick worker => (tickClint (hart.seenBy worker)).toOption.map fun memory => (none, hart.beside memory)
  | .receive worker value => some (none, hart.beside (pushUartReceive (hart.seenBy worker) value).2)
  | .transmit worker =>
    let (value, memory) := popUartTransmit (hart.seenBy worker)
    some (value, hart.beside memory)
  | .cancel worker => some (none, hart.beside (cancelSysconWatch (hart.seenBy worker)))

/-- Operations in their order, each from below M, and the bytes they hand to the host. -/
def Hart.runBelowMachine : List WorkerOperation → Hart → Option (List (Option (BitVec 8)) × Hart)
  | [], hart => some ([], hart)
  | operation :: rest, hart =>
    if hart.registers.privilegeMode = privilegeMachine then none
    else (hart.operate operation).bind fun (shown, next) =>
      (runBelowMachine rest next).map fun (others, last) => (shown :: others, last)

/-- The same registers, and memories alike but for what `base` conceals. -/
structure HartsAlike (base : Registers) (left right : Hart) : Prop where
  registers : right.registers = left.registers
  asleep : right.asleep = left.asleep
  memories : AlikeButConcealed base left.memory right.memory

/-- What holds between any two operations while code below M runs from `base` on. -/
structure BelowMachineSound (base : Registers) (hart : Hart) : Prop where
  sound : MachineSound hart
  reachable : CpuReachable hart.registers
  pmp : PmpKept base hart.registers

variable {hart next leftHart rightHart : Hart}

theorem AlikeButConcealed.agree (alike : AlikeButConcealed base left right) :
    AgreeOff (Concealed base left.layout) left right :=
  ⟨alike.layout, alike.worker, alike.bytes, fun _ => concealed_inRam⟩

theorem AgreeOff.alike (agree : AgreeOff (Concealed base left.layout) left right) : AlikeButConcealed base left right :=
  ⟨agree.layout, agree.worker, agree.bytes⟩

/-- An operation is a step of its worker. -/
theorem Hart.operate_step (operated : hart.operate operation = some (shown, next)) : WorkerStep hart next := by
  cases operation with
  | turn =>
    obtain ⟨ended, turned, same⟩ := Option.map_eq_some_iff.mp operated
    cases same
    exact .turn turned
  | tick worker =>
    obtain ⟨memory, ticked, same⟩ := Option.map_eq_some_iff.mp operated
    cases same
    generalize found : tickClint (hart.seenBy worker) = outcome at ticked
    cases outcome with
    | error message => cases ticked
    | ok memory =>
      cases ticked
      exact .tick worker found
  | receive worker value =>
    cases operated
    exact .receive worker value
  | transmit worker =>
    cases operated
    exact .transmit worker
  | cancel worker =>
    cases operated
    exact .cancel worker

/-- Two operations that hand over the same byte and leave alike harts. -/
def OperatedAlike (base : Registers) (first second : Option (BitVec 8) × Hart) : Prop :=
  second.1 = first.1 ∧ HartsAlike base first.2 second.2

theorem MediatedOutcome.harts {executed executed' : Execution} (outcome : MediatedOutcome base left executed executed') :
    Option.Rel (HartsAlike base) executed.hart? executed'.hart? := by
  have alike {first second : Memory} (memories : Mediated base left first second) :
      AlikeButConcealed base first second := by
    refine AgreeOff.alike ?_
    rw [memories.writes.layout]
    exact memories.agree
  cases outcome with
  | completed after memories => exact .some ⟨rfl, rfl, alike memories⟩
  | trapped after memories => exact .some ⟨rfl, rfl, alike memories⟩
  | waiting after fromLevel memories => exact .some ⟨rfl, rfl, alike memories⟩
  | threw message => exact .none

theorem Hart.turn_alike (guest : BelowMachineSound base leftHart)
    (below : leftHart.registers.privilegeMode ≠ privilegeMachine) (alike : HartsAlike base leftHart rightHart) :
    MediatedOutcome base leftHart.memory leftHart.turn rightHart.turn := by
  have agree := alike.memories.agree
  rw [Hart.turn, Hart.turn, alike.asleep, alike.registers]
  refine MediatedOutcome.of_pmpKept guest.pmp ?_
  have agreed : AgreeOff (Concealed leftHart.registers leftHart.memory.layout) leftHart.memory rightHart.memory := by
    rw [guest.pmp.concealed]
    exact agree
  split
  · exact runLoopTurn_alike agreed guest.reachable below guest.sound.current
  · exact (wfiTurn_mediated agreed leftHart.registers).commit

/-- Another worker's part, with the hart's own module variables put back. -/
theorem HartsAlike.beside (alike : HartsAlike base leftHart rightHart)
    (agree : AgreeOff (Concealed base left.layout) left right) :
    HartsAlike base (leftHart.beside left) (rightHart.beside right) :=
  ⟨alike.registers, alike.asleep, agree.layout, alike.memories.worker, agree.bytes⟩

/-- One operation, on both machines. -/
theorem Hart.operate_alike (guest : BelowMachineSound base leftHart)
    (below : leftHart.registers.privilegeMode ≠ privilegeMachine) (alike : HartsAlike base leftHart rightHart)
    (operation : WorkerOperation) :
    Option.Rel (OperatedAlike base) (leftHart.operate operation) (rightHart.operate operation) := by
  have agree := alike.memories.agree
  have seen (worker : Worker) : AgreeOff (Concealed base leftHart.memory.layout) (leftHart.seenBy worker)
      (rightHart.seenBy worker) := agree.withWorker rfl
  have devices (worker : Worker) : DevicesCurrent (leftHart.seenBy worker) :=
    guest.sound.current.devices.onWorker worker
  have beside {worker : Worker} {first second : Memory}
      (layout : first.layout = (leftHart.seenBy worker).layout)
      (agreed : AgreeOff (Concealed base leftHart.memory.layout) first second) :
      HartsAlike base (leftHart.beside first) (rightHart.beside second) := by
    refine alike.beside ?_
    rw [layout]
    exact agreed
  cases operation with
  | turn =>
    have turned := (Hart.turn_alike guest below alike).harts
    simp only [Hart.operate]
    generalize leftHart.turn.hart? = first at turned ⊢
    generalize rightHart.turn.hart? = second at turned ⊢
    cases turned with
    | none => exact .none
    | some harts => exact .some ⟨rfl, harts⟩
  | tick worker =>
    have outcomes := (seen worker).tickClint
    simp only [Hart.operate]
    generalize found : tickClint (leftHart.seenBy worker) = ticked at outcomes ⊢
    generalize tickClint (rightHart.seenBy worker) = ticked' at outcomes ⊢
    cases outcomes with
    | error message => exact .none
    | ok memories => exact .some ⟨rfl, beside (tickClint_confined found).layout memories⟩
  | receive worker value =>
    exact .some ⟨rfl, beside (pushUartReceive_confined (devices worker).rings value).layout
      ((seen worker).pushUartReceive value)⟩
  | transmit worker =>
    have popped := (seen worker).popUartTransmit (devices worker).rings
    exact .some ⟨popped.value, beside popUartTransmit_confined.layout popped.memory⟩
  | cancel worker =>
    exact .some ⟨rfl, beside cancelSysconWatch_confined.layout (seen worker).cancelSysconWatch⟩

/-- What an operation from below M keeps, and the bytes it leaves alone. -/
theorem BelowMachineSound.operate (guest : BelowMachineSound base hart)
    (below : hart.registers.privilegeMode ≠ privilegeMachine) (operated : hart.operate operation = some (shown, next)) :
    BelowMachineSound base next := by
  have step := Hart.operate_step operated
  have sound := step.sound guest.sound
  cases operation with
  | turn =>
    obtain ⟨ended, turned, same⟩ := Option.map_eq_some_iff.mp operated
    cases same
    exact ⟨sound, guest.reachable.trans (Hart.turn_reaches turned),
      guest.pmp.trans (Hart.turn_pmpKept guest.sound.legal below turned)⟩
  | tick worker =>
    obtain ⟨memory, ticked, same⟩ := Option.map_eq_some_iff.mp operated
    cases same
    exact ⟨sound, guest.reachable, guest.pmp⟩
  | receive worker value | transmit worker | cancel worker =>
    cases operated
    exact ⟨sound, guest.reachable, guest.pmp⟩

theorem BelowMachineSound.operate_writes (guest : BelowMachineSound base hart)
    (below : hart.registers.privilegeMode ≠ privilegeMachine) (operated : hart.operate operation = some (shown, next)) :
    ChangesOnly (Writable base hart.memory.layout) hart.memory next.memory := by
  have beside (worker : Worker) {memory : Memory} {ids : List String}
      (confined : Confined ids (hart.seenBy worker) memory) (apart : ramRegionId ∉ ids) :
      ChangesOnly (Writable base hart.memory.layout) hart.memory (hart.beside memory).memory := by
    have writes : ChangesOnly (Writable base (hart.seenBy worker).layout) (hart.seenBy worker) memory :=
      confined.changes.writable apart
    exact ⟨writes.layout, writes.bytes⟩
  cases operation with
  | turn =>
    obtain ⟨ended, turned, same⟩ := Option.map_eq_some_iff.mp operated
    cases same
    have alike : HartsAlike base hart hart := ⟨rfl, rfl, rfl, rfl, fun _ _ => rfl⟩
    exact (Hart.turn_alike guest below alike).writes (Execution.hart_eq turned).2
  | tick worker =>
    obtain ⟨memory, ticked, same⟩ := Option.map_eq_some_iff.mp operated
    cases same
    generalize found : tickClint (hart.seenBy worker) = outcome at ticked
    cases outcome with
    | error message => cases ticked
    | ok memory =>
      cases ticked
      exact beside worker (tickClint_confined found) (by decide)
  | receive worker value =>
    cases operated
    have rings := (guest.sound.current.devices.onWorker worker).rings
    exact beside worker (pushUartReceive_confined rings value) (by decide)
  | transmit worker =>
    cases operated
    exact beside worker popUartTransmit_confined (by decide)
  | cancel worker =>
    cases operated
    exact beside worker cancelSysconWatch_confined (by decide)

/-- Where a run of alike machines ends, and what it has written. -/
theorem runBelowMachine_alike (operations : List WorkerOperation) (guest : BelowMachineSound base leftHart)
    (alike : HartsAlike base leftHart rightHart)
    (ran : leftHart.runBelowMachine operations = some (shown, leftHart')) :
    ∃ rightHart', rightHart.runBelowMachine operations = some (shown, rightHart') ∧
      HartsAlike base leftHart' rightHart' ∧
      ChangesOnly (Writable base leftHart.memory.layout) leftHart.memory leftHart'.memory := by
  induction operations generalizing leftHart rightHart shown with
  | nil =>
    cases ran
    exact ⟨rightHart, rfl, alike, .refl⟩
  | cons operation rest ih =>
    rw [Hart.runBelowMachine] at ran
    split at ran
    · cases ran
    · rename_i below
      obtain ⟨⟨first, next⟩, operated, later⟩ := Option.bind_eq_some_iff.mp ran
      obtain ⟨⟨others, last⟩, ranRest, same⟩ := Option.map_eq_some_iff.mp later
      cases same
      have outcomes := Hart.operate_alike guest below alike operation
      rw [operated] at outcomes
      generalize found : rightHart.operate operation = operated' at outcomes
      cases outcomes with
      | @some _ second both =>
        obtain ⟨first', next'⟩ := second
        obtain ⟨rfl, alikeNext⟩ := both
        obtain ⟨rightLast, ran', alikeLast, writes⟩ := ih (guest.operate below operated) alikeNext ranRest
        have written := guest.operate_writes below operated
        refine ⟨rightLast, ?_, alikeLast, ?_⟩
        · rw [Hart.runBelowMachine, alike.registers, if_neg below, found]
          simp only [Option.bind_some, ran', Option.map_some]
        · exact written.writable_trans writes

theorem bootRegisters_reachable (options : EmulatorCreateOptions) (deviceTreeAddress : Option Bytes8) :
    CpuReachable (bootRegisters options deviceTreeAddress) :=
  .single (.boot _ _)

theorem WorkerStep.reaches (step : WorkerStep hart next) : ReflTransGen CpuStep hart.registers next.registers := by
  cases step with
  | turn ended => exact Hart.turn_reaches ended
  | tick | receive | transmit | cancel => exact .refl

theorem WorkerRun.reachable (run : WorkerRun hart next) (reachable : CpuReachable hart.registers) :
    CpuReachable next.registers :=
  invariant_run (fun hart => CpuReachable hart.registers)
    (fun _ _ step reached => ReflTransGen.trans reached step.reaches) run reachable

variable {options : EmulatorCreateOptions} {hrtime clock : Nat → Nat} {created : Created}

/-- What M-mode conceals stays concealed for as long as the hart stays below M: two machines that
differ only in RAM bytes which the PMP lets the code below M neither load nor fetch go through the
same operations of every worker with the same registers, device state and console bytes, and the
only RAM bytes that change are such that the PMP grants a store of them. -/
theorem secrets_kept (returned : createEmulator options hrtime = .ok created)
    (reached : WorkerRun (created.hart options clock) leftHart)
    (alike : HartsAlike leftHart.registers leftHart rightHart)
    (ran : leftHart.runBelowMachine operations = some (shown, leftHart')) :
    (∃ rightHart', rightHart.runBelowMachine operations = some (shown, rightHart') ∧
      HartsAlike leftHart.registers leftHart' rightHart') ∧
    ∀ offset < leftHart.memory.layout.ram.hostByteLength,
      leftHart'.memory.bytes (leftHart.memory.layout.ram.hostIndex + offset) ≠
          leftHart.memory.bytes (leftHart.memory.layout.ram.hostIndex + offset) →
        byteGranted leftHart.registers (leftHart.memory.layout.ram.guestAddress.toNat + offset) .store = true := by
  have guest : BelowMachineSound leftHart.registers leftHart :=
    ⟨reached.booted returned, reached.reachable (bootRegisters_reachable _ _), .refl _⟩
  obtain ⟨rightHart', ran', alikeLast, writes⟩ := runBelowMachine_alike operations guest alike ran
  refine ⟨⟨rightHart', ran', alikeLast⟩, fun offset inside changed => ?_⟩
  by_contra refused
  exact changed (writes.bytes _ fun writable => refused (writable offset inside rfl))

/-- A machine whose first instruction returns to U-mode. -/
def guestMachine : EmulatorCreateOptions := { smallMachine with image := [0x73, 0x00, 0x20, 0x30] }

/-- A key is pressed, the terminal looks for output, and the hart takes its turn. -/
def guestOperations : List WorkerOperation :=
  [.receive (freshWorker fun _ => 0) 0x61, .transmit (freshWorker fun _ => 0), .turn]

/-- The hart in U-mode, a page of RAM concealed from it, and the operations possible. -/
def guestStarted (hart : Hart) : Bool :=
  decide (4096 < hart.memory.layout.ram.hostByteLength) &&
    !byteGranted hart.registers (hart.memory.layout.ram.guestAddress.toNat + 4096) .load &&
    !byteGranted hart.registers (hart.memory.layout.ram.guestAddress.toNat + 4096) .fetch &&
    (hart.runBelowMachine guestOperations).isSome

theorem guestMachine_started : ∃ created left, createEmulator guestMachine (fun _ => 0) = .ok created ∧
    (created.hart guestMachine fun _ => 0).turn.hart? = some left ∧ guestStarted left = true := by
  have started : ((createEmulator guestMachine fun _ => 0).toOption.bind fun created =>
      (created.hart guestMachine fun _ => 0).turn.hart?).any guestStarted = true := by decide +kernel
  obtain ⟨left, found, holds⟩ := (Option.any_eq_true _ _).mp started
  obtain ⟨created, returned, turned⟩ := Option.bind_eq_some_iff.mp found
  exact ⟨created, left, except_toOption_ok returned, turned, holds⟩

/-- A page that holds something else in the twin of a machine in U-mode. -/
theorem secrets_kept_guest : ∃ (created : Created) (left right last : Hart) (shown : List (Option (BitVec 8))),
    createEmulator guestMachine (fun _ => 0) = .ok created ∧
    right.memory = left.memory.store (left.memory.layout.ram.hostIndex + 4096) 0x42 ∧
    left.runBelowMachine guestOperations = some (shown, last) ∧
    (∃ last', right.runBelowMachine guestOperations = some (shown, last') ∧ HartsAlike left.registers last last') ∧
    ∀ offset < left.memory.layout.ram.hostByteLength,
      last.memory.bytes (left.memory.layout.ram.hostIndex + offset) ≠
          left.memory.bytes (left.memory.layout.ram.hostIndex + offset) →
        byteGranted left.registers (left.memory.layout.ram.guestAddress.toNat + offset) .store = true := by
  obtain ⟨created, left, returned, turned, started⟩ := guestMachine_started
  simp only [guestStarted, Bool.and_eq_true, decide_eq_true_eq, Bool.not_eq_true'] at started
  obtain ⟨⟨⟨inside, load⟩, fetch⟩, possible⟩ := started
  obtain ⟨⟨shown, last⟩, ran⟩ := Option.isSome_iff_exists.mp possible
  have reached : WorkerRun (created.hart guestMachine fun _ => 0) left := .single (.turn turned)
  have alike : HartsAlike left.registers left
      { left with memory := left.memory.store (left.memory.layout.ram.hostIndex + 4096) 0x42 } := by
    refine ⟨rfl, rfl, rfl, rfl, fun position visible => ?_⟩
    rw [Memory.store_bytes, if_neg]
    rintro rfl
    exact visible ⟨4096, inside, rfl, load, fetch⟩
  exact ⟨created, left, _, last, shown, returned, rfl, ran, secrets_kept returned reached alike ran⟩

end YaRiscV.Emulator
