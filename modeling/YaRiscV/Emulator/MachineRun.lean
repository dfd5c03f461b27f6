import YaRiscV.Emulator.BootState
import YaRiscV.Emulator.Cpu.ControlAlignment
import YaRiscV.Emulator.SysconWatch

/-! The machine as it runs: the hart, the timer, the terminal and the host, whose operations
interleave as wholes. -/

namespace YaRiscV.Emulator

open YaRiscV.Library YaRiscV.Utils YaRiscV.Fdt Relation

/-- The hart between two turns, with the memory as its worker sees it, and the level it sleeps on. -/
structure Hart where
  registers : Registers
  memory : Memory
  asleep : Option (BitVec 32)

/-- Where an execution leaves the hart. -/
def Execution.hart? : Execution → Option Hart
  | .completed registers memory | .trapped registers memory => some ⟨registers, memory, none⟩
  | .waiting registers memory fromLevel => some ⟨registers, memory, some fromLevel⟩
  | .threw _ => none

/-- An iteration of the loop, or of the `wfi` it awaits. -/
def Hart.turn (hart : Hart) : Execution :=
  match hart.asleep with
  | none => runLoopTurn hart.registers hart.memory
  | some _ => (wfiTurn hart.registers hart.memory).commit

/-- The hart beside what another worker did. -/
def Hart.beside (hart : Hart) (memory : Memory) : Hart :=
  { hart with memory := { memory with worker := hart.memory.worker } }

/-- The memory as another worker sees it. -/
def Hart.seenBy (hart : Hart) (worker : Worker) : Memory := { hart.memory with worker := worker }

/-- Stop the watch, unless a request has been made. -/
def cancelSysconWatch (memory : Memory) : Memory :=
  (memory.compareExchange32 (sysconRequestIndex memory) sysconRequestIdle sysconRequestStopped).2

/-- One operation of one worker. -/
inductive WorkerStep : Hart → Hart → Prop
  | turn (ended : hart.turn.hart? = some after) : WorkerStep hart after
  | tick (worker : Worker) (ticked : tickClint (hart.seenBy worker) = .ok memory) : WorkerStep hart (hart.beside memory)
  | receive (worker : Worker) (value : BitVec 8) :
      WorkerStep hart (hart.beside (pushUartReceive (hart.seenBy worker) value).2)
  | transmit (worker : Worker) : WorkerStep hart (hart.beside (popUartTransmit (hart.seenBy worker)).2)
  | cancel (worker : Worker) : WorkerStep hart (hart.beside (cancelSysconWatch (hart.seenBy worker)))

abbrev WorkerRun : Hart → Hart → Prop := ReflTransGen WorkerStep

/-- The hart of a new machine: its worker has its own module variables. -/
def Created.hart (created : Created) (options : EmulatorCreateOptions) (hrtime : Nat → Nat) : Hart where
  registers := bootRegisters options created.tree
  memory := { created.memory with worker := freshWorker hrtime }
  asleep := none

/-- What holds between any two operations. -/
structure MachineSound (hart : Hart) : Prop where
  current : MachineCurrent hart.registers hart.memory
  legal : RegisterInvariant hart.registers

variable {memory after : Memory} {hart next : Hart} {ids : List String}

/-! Another worker's module variables. -/

theorem DevicesCurrent.onWorker (current : DevicesCurrent memory) (worker : Worker) :
    DevicesCurrent { memory with worker := worker } := by
  have same : ChangesOnly (InRegions memory.layout plainReach) memory { memory with worker := worker } :=
    ⟨rfl, fun _ _ => rfl⟩
  exact current.reached (.single (.plain same))

/-- What another worker did outside the monitor. -/
theorem MachineCurrent.beside (current : MachineCurrent hart.registers hart.memory) (worker : Worker)
    (run : DeviceRun (hart.seenBy worker) after) (confined : Confined ids (hart.seenBy worker) after)
    (monitor : reservationRegionId ∉ ids) : MachineCurrent hart.registers (hart.beside after).memory := by
  have seen := current.devices.onWorker worker
  have devices := seen.reached run
  have own := devices.onWorker hart.memory.worker
  refine ⟨own, (run.kept.mirror seen).trans current.mirror, ⟨?_, ?_⟩⟩
  · refine ⟨current.idle.free.depth, ?_, current.idle.free.kept⟩
    rw [← current.idle.free.word]
    change after.load32 after.layout.reservation = (hart.seenBy worker).load32 (hart.seenBy worker).layout.reservation
    rw [confined.layout]
    refine Memory.load32_congr fun offset inside => ?_
    refine confined.bytes (hart.seenBy worker).layout.reservationFound monitor (Nat.le_add_right _ _) ?_
    simp only [reservationHostByteLength]
    omega
  · exact own.rings.txTail

/-! The terminal. -/

theorem enqueueReceive_confined (rings : (uartView memory).RingsValid) (value : BitVec 8) :
    Confined uartReach memory (enqueueReceive memory value).2 := by
  simp only [enqueueReceive]
  split
  · exact .refl
  · have small : metaByte memory metaRxTail < uartQueueCapacity := rings.rxTail
    refine Confined.trans (.setElement (inRegions_uart (by decide) ?_) value) (storeUart_confined (by decide) _)
    rw [uartQueueCapacity] at small
    simp only [uartHostRxData, uartHostByteLength]
    omega

theorem pushUartReceive_confined (rings : (uartView memory).RingsValid) (value : BitVec 8) :
    Confined uartReach memory (pushUartReceive memory value).2 := by
  have enqueued := enqueueReceive_confined rings value
  simp only [pushUartReceive]
  split
  · exact enqueued
  · exact enqueued.trans refreshUartIrq_confined

theorem dequeueTransmit_confined (popped : dequeueTransmit memory = some (dequeued, after)) :
    Confined uartReach memory after := by
  simp only [dequeueTransmit] at popped
  split at popped
  · cases popped
  · cases popped
    have indexed : Confined uartReach memory (storeMetaByte memory metaTxHead
        ((metaByte memory metaTxHead + 1) % uartQueueCapacity)) := storeUart_confined (by decide) _
    refine indexed.trans (.store32 (fun offset small => ?_) _)
    generalize storeMetaByte memory metaTxHead ((metaByte memory metaTxHead + 1) % uartQueueCapacity) = stored
    rw [uartByteIndex, Nat.add_assoc]
    refine inRegions_uart (by decide) ?_
    simp only [uartHostTxWake, uartHostByteLength]
    omega

theorem armThreIrqOnRisingEdge_confined (threBefore threAfter : Bool) :
    Confined uartReach memory (armThreIrqOnRisingEdge memory threBefore threAfter) := by
  have sticky : Confined uartReach memory (setThreIrqSticky memory true) := storeUart_confined (by decide) _
  simp only [armThreIrqOnRisingEdge]
  split
  · exact .refl
  split
  · exact sticky
  · exact .refl

theorem popUartTransmit_confined : Confined uartReach memory (popUartTransmit memory).2 := by
  simp only [popUartTransmit]
  split
  · exact .refl
  · rename_i popped
    exact ((dequeueTransmit_confined popped).trans (armThreIrqOnRisingEdge_confined _ _)).trans refreshUartIrq_confined

theorem cancelSysconWatch_confined : Confined [sysconRegionId] memory (cancelSysconWatch memory) := by
  simp only [cancelSysconWatch, Memory.compareExchange32]
  split
  · refine .store32 (fun offset small => ?_) _
    refine ⟨sysconRegionId, List.mem_singleton_self _, _, memory.layout.sysconFound, ?_, ?_⟩
    · simp only [MappedRegion.toRegion, sysconRequestIndex]
      omega
    · simp only [MappedRegion.toRegion, memory.layout.sysconLength, sysconRequestIndex, sysconWakeOffset,
        sysconHostByteLength]
      omega
  · exact .refl

/-! Steps and runs. -/

theorem Execution.hart_eq {execution : Execution} (left : execution.hart? = some next) :
    execution.registers? = some next.registers ∧ execution.memory? = some next.memory := by
  cases execution with
  | completed registers memory | trapped registers memory | waiting registers memory fromLevel =>
    cases left
    exact ⟨rfl, rfl⟩
  | threw message => cases left

theorem MachineSound.leaves (sound : MachineSound hart) : LeavesCurrent hart.turn := by
  rw [Hart.turn]
  split
  · exact runLoopTurn_leavesCurrent sound.current
  · exact (wfiTurn_leavesCurrent sound.current).commit

theorem LeavesCurrent.ended {execution : Execution} (leaves : LeavesCurrent execution)
    (left : execution.hart? = some next) : MachineCurrent next.registers next.memory := by
  cases execution with
  | completed registers memory | trapped registers memory | waiting registers memory fromLevel =>
    cases left
    exact leaves
  | threw message => cases left

theorem MachineSound.turn_legal (sound : MachineSound hart) (ended : hart.turn.hart? = some next) :
    RegisterInvariant next.registers := by
  obtain ⟨result, _⟩ := Execution.hart_eq ended
  rw [Hart.turn] at result
  split at result
  · exact sound.legal.reaches (runLoopTurn_reaches result)
  · obtain ⟨before, turned, committed⟩ := commit_registers result
    have resumed : ReflTransGen CpuStep hart.registers before := .single (.resume hart.memory turned)
    rcases committed with same | same
    · rw [same]
      exact sound.legal.reaches resumed
    · rw [same]
      exact sound.legal.reaches (resumed.tail .commitRetire)

/-- One operation, of any worker. -/
theorem WorkerStep.sound (step : WorkerStep hart next) (sound : MachineSound hart) : MachineSound next := by
  have devices (worker : Worker) := sound.current.devices.onWorker worker
  cases step with
  | turn ended => exact ⟨LeavesCurrent.ended sound.leaves ended, sound.turn_legal ended⟩
  | tick worker ticked =>
    have run : DeviceRun (hart.seenBy worker) _ := .single (.tick ticked)
    exact ⟨sound.current.beside worker run (tickClint_confined ticked) (by decide), sound.legal⟩
  | receive worker value =>
    have rings := (devices worker).rings
    exact ⟨sound.current.beside worker (pushUartReceive_run rings value) (pushUartReceive_confined rings value)
      (by decide), sound.legal⟩
  | transmit worker =>
    exact ⟨sound.current.beside worker popUartTransmit_run popUartTransmit_confined (by decide), sound.legal⟩
  | cancel worker =>
    have cancelled : Confined [sysconRegionId] (hart.seenBy worker) _ := cancelSysconWatch_confined
    exact ⟨sound.current.beside worker (.of_confined cancelled (by decide)) cancelled (by decide), sound.legal⟩

theorem WorkerRun.sound (run : WorkerRun hart next) (sound : MachineSound hart) : MachineSound next :=
  invariant_run MachineSound (fun _ _ step holds => step.sound holds) run sound

/-- Between any two operations: no reserved value in a CSR, every wire and line where its registers
put it, the rings within their slots, the monitor free, and nothing that throws next. -/
structure MachineSafe (hart : Hart) : Prop where
  legal : RegisterInvariant hart.registers
  timers : TimerWiresExact hart.registers hart.memory
  outputs : OutputsCurrent hart.memory
  gateway : ∃ gateway, Represents hart.memory gateway
  rings : (uartView hart.memory).RingsValid
  monitor : MonitorFree hart.memory
  turns : ∃ next, hart.turn.hart? = some next
  ticks : ∀ worker, ∃ after, tickClint (hart.seenBy worker) = .ok after

theorem LeavesCurrent.hart_isSome {execution : Execution} (leaves : LeavesCurrent execution) :
    ∃ next, execution.hart? = some next := by
  cases execution with
  | completed registers memory | trapped registers memory | waiting registers memory fromLevel => exact ⟨_, rfl⟩
  | threw message => exact leaves.elim

theorem MachineSound.safe (sound : MachineSound hart) : MachineSafe hart where
  legal := sound.legal
  timers := sound.current.hartClint.exact
  outputs := sound.current.devices.outputs
  gateway := sound.current.devices.gateway
  rings := sound.current.devices.rings
  monitor := sound.current.idle.free
  turns := LeavesCurrent.hart_isSome sound.leaves
  ticks worker := by
    obtain ⟨after, ticked, _⟩ := tickClint_writes (sound.current.devices.onWorker worker)
    exact ⟨after, ticked⟩

variable {options : EmulatorCreateOptions} {hrtime clock : Nat → Nat} {created : Created}

theorem Booted.sound (booted : Booted options created) (clock : Nat → Nat) :
    MachineSound (created.hart options clock) := by
  have current := booted.current
  have devices := current.devices.onWorker (freshWorker clock)
  refine ⟨⟨devices, current.mirror, ⟨⟨rfl, current.idle.free.word, rfl⟩, devices.rings.txTail⟩⟩, booted.legal⟩

/-- From every machine that `create` accepts, in every interleaving of the workers. -/
theorem WorkerRun.booted (returned : createEmulator options hrtime = .ok created)
    (run : WorkerRun (created.hart options clock) hart) : MachineSound hart := by
  obtain ⟨ram, fresh, clocked, imaged, staged⟩ := createEmulator_staged returned
  exact run.sound (staged.booted.sound clock)

/-- Whatever the workers do, in whatever order, from an accepted machine on: no wire is stale, no
lock is left held, no CSR holds a reserved value, and nothing throws. -/
theorem workers_safe (returned : createEmulator options hrtime = .ok created)
    (run : WorkerRun (created.hart options clock) hart) : MachineSafe hart :=
  (run.booted returned).safe

/-- A received byte and the turn after it. -/
theorem workers_safe_small : ∃ created first next, createEmulator smallMachine (fun _ => 0) = .ok created ∧
    first = (created.hart smallMachine fun _ => 0).beside
      (pushUartReceive ((created.hart smallMachine fun _ => 0).seenBy (freshWorker fun _ => 0)) 0x61).2 ∧
    first.turn.hart? = some next ∧ MachineSafe next := by
  obtain ⟨created, returned⟩ := smallMachine_accepted
  have received : WorkerRun (created.hart smallMachine fun _ => 0) _ :=
    .single (.receive (freshWorker fun _ => 0) 0x61)
  obtain ⟨next, ended⟩ := LeavesCurrent.hart_isSome (received.booted returned).leaves
  exact ⟨created, _, next, returned, rfl, ended, workers_safe returned (received.tail (.turn ended))⟩

end YaRiscV.Emulator
