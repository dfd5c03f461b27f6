import YaRiscV.Emulator.SpinLock
import YaRiscV.Emulator.Plic.Layout

/-! `plic/gateway.ts` and `plic/wires.ts`: the claim gateway of the PLIC, its lock and
the two context wires. -/

namespace YaRiscV.Emulator

variable (memory : Memory)

/-- The line `setPlicContextWire` publishes. -/
def contextIrqLevel : PlicContext → BitVec 32
  | .machine => irqLevelMeip
  | .supervisor => irqLevelSeip

/-- Drive the wire of `context` and publish it into the aggregate word. -/
def setPlicContextWire (context : PlicContext) (pending : Bool) : Memory :=
  setIrqWire memory (plicHostIndex memory (contextWireOffset context)) pending (contextIrqLevel context)

def isPlicMachineExternalPending : Bool :=
  memory.bytes (plicHostIndex memory plicHostMeipWireOffset) != 0

def isPlicSupervisorExternalPending : Bool :=
  memory.bytes (plicHostIndex memory plicHostSeipWireOffset) != 0

def plicHostIndexForSourceBit (hostOffset source : Nat) : Nat :=
  plicHostIndex memory hostOffset + (source >>> 3)

def updateSourceBit (hostOffset source : Nat) (value : Bool) : Memory :=
  atomicUpdateBit memory (plicHostIndexForSourceBit memory hostOffset source) (source &&& 7) value

def isSourceBitSet (hostOffset source : Nat) : Bool :=
  atomicLoadBit memory (plicHostIndexForSourceBit memory hostOffset source) (source &&& 7)

def isSourceClaimed (source : Nat) : Bool :=
  isSourceBitSet memory plicHostClaimedByM source || isSourceBitSet memory plicHostClaimedByS source

def plicGatewayLock : SpinLock where
  word layout := layout.plic.hostIndex + plicHostGatewayLock
  depth worker := worker.plicGatewayLockDepth
  setDepth worker value := { worker with plicGatewayLockDepth := value }
  depth_set _ _ := rfl
  set_set _ _ _ := rfl
  set_depth _ := rfl

def acquirePlicGatewayLock : Memory := plicGatewayLock.acquire memory

def releasePlicGatewayLock : Memory := plicGatewayLock.release memory

def withPlicGatewayLock (run : Memory → Result × Memory) : Result × Memory :=
  plicGatewayLock.hold memory run

def resetPlicGatewayLock : Memory :=
  memory.store32 (plicHostIndex memory plicHostGatewayLock) 0

/-- The variables of the selection loop. -/
structure ClaimSelection where
  bestSource : Nat := 0
  bestPriority : BitVec 32 := 0
  deriving DecidableEq, Repr

/-- One turn of the selection loop. -/
def considerSource (context : PlicContext) (threshold : BitVec 32) (selection : ClaimSelection)
    (source : Nat) : ClaimSelection :=
  if !isSourceBitSet memory plicHostPending source ||
      !isSourceBitSet memory (enableHostOffset context) source then selection
  else
    let priority := memory.load32 (plicHostIndex memory (source * 4))
    if priority ≤ threshold then selection
    else if selection.bestSource = 0 ∨ priority > selection.bestPriority ∨
        (priority = selection.bestPriority ∧ source < selection.bestSource) then
      { bestSource := source, bestPriority := priority }
    else selection

/-- Highest-priority pending and enabled source above the threshold, or 0. -/
def selectClaimableSource (context : PlicContext) : Nat :=
  let threshold := memory.load32 (plicHostIndex memory (thresholdHostOffset context))
  ((List.range' 1 plicMaxSource).foldl (considerSource memory context threshold) {}).bestSource

def refreshContextWire (context : PlicContext) : Memory :=
  setPlicContextWire memory context (selectClaimableSource memory context != 0)

def refreshAllContextWires : Memory :=
  refreshContextWire (refreshContextWire memory .machine) .supervisor

/-- A device drives the input level of `source`. -/
def setPlicSourcePending (source : Nat) (pending : Bool) : Memory :=
  if !isValidSource source then memory
  else
    (withPlicGatewayLock memory fun memory =>
      let memory := updateSourceBit memory plicHostInputLevel source pending
      let memory :=
        if !pending then updateSourceBit memory plicHostPending source false
        else if !isSourceClaimed memory source then updateSourceBit memory plicHostPending source true
        else memory
      ((), refreshAllContextWires memory)).2

/-- Claim for `context`: the source taken into service, or 0. -/
def claimPlicSource (context : PlicContext) : Nat × Memory :=
  withPlicGatewayLock memory fun memory =>
    let source := selectClaimableSource memory context
    let memory :=
      if source ≠ 0 then
        updateSourceBit (updateSourceBit memory plicHostPending source false)
          (claimedByHostOffset context) source true
      else memory
    (source, refreshAllContextWires memory)

/-- Complete by `context`; ignored unless `context` claimed the source. -/
def completePlicSource (context : PlicContext) (source : Nat) : Memory :=
  if !isValidSource source then memory
  else
    (withPlicGatewayLock memory fun memory =>
      if !isSourceBitSet memory (claimedByHostOffset context) source then ((), memory)
      else
        let memory := updateSourceBit memory (claimedByHostOffset context) source false
        let memory :=
          if isSourceBitSet memory plicHostInputLevel source then
            updateSourceBit memory plicHostPending source true
          else memory
        ((), refreshAllContextWires memory)).2

variable {memory}

@[simp] theorem updateSourceBit_layout : (updateSourceBit memory hostOffset source value).layout = memory.layout := by
  rw [updateSourceBit, atomicUpdateBit_layout]

@[simp] theorem updateSourceBit_worker : (updateSourceBit memory hostOffset source value).worker = memory.worker := by
  rw [updateSourceBit, atomicUpdateBit_worker]

@[simp] theorem setPlicContextWire_layout : (setPlicContextWire memory context pending).layout = memory.layout := by
  rw [setPlicContextWire, setIrqWire_layout]

@[simp] theorem setPlicContextWire_worker : (setPlicContextWire memory context pending).worker = memory.worker := by
  rw [setPlicContextWire, setIrqWire_worker]

@[simp] theorem refreshContextWire_layout : (refreshContextWire memory context).layout = memory.layout := by
  rw [refreshContextWire, setPlicContextWire_layout]

@[simp] theorem refreshContextWire_worker : (refreshContextWire memory context).worker = memory.worker := by
  rw [refreshContextWire, setPlicContextWire_worker]

@[simp] theorem refreshAllContextWires_layout : (refreshAllContextWires memory).layout = memory.layout := by
  rw [refreshAllContextWires, refreshContextWire_layout, refreshContextWire_layout]

@[simp] theorem refreshAllContextWires_worker : (refreshAllContextWires memory).worker = memory.worker := by
  rw [refreshAllContextWires, refreshContextWire_worker, refreshContextWire_worker]

/-- The bytes of the gateway lock. -/
def InPlicLock (layout : Layout) (position : Nat) : Prop :=
  layout.plic.hostIndex + plicHostGatewayLock ≤ position ∧
    position < layout.plic.hostIndex + plicHostByteLength

/-- The wire byte of `context` and the aggregate word. -/
def InPlicWire (layout : Layout) (context : PlicContext) (position : Nat) : Prop :=
  position = layout.plic.hostIndex + contextWireOffset context ∨ InIrqLevel layout position

private theorem lock_covers (inside : plicGatewayLock.Covers layout position) : InPlicLock layout position := by
  simp [SpinLock.Covers, plicGatewayLock, InPlicLock] at *
  omega

theorem acquirePlicGatewayLock_changesOnly :
    ChangesOnly (InPlicLock memory.layout) memory (acquirePlicGatewayLock memory) :=
  SpinLock.acquire_changesOnly.mono fun _ => lock_covers

theorem releasePlicGatewayLock_changesOnly :
    ChangesOnly (InPlicLock memory.layout) memory (releasePlicGatewayLock memory) :=
  SpinLock.release_changesOnly.mono fun _ => lock_covers

@[simp] theorem acquirePlicGatewayLock_layout : (acquirePlicGatewayLock memory).layout = memory.layout :=
  acquirePlicGatewayLock_changesOnly.layout

/-- The lock's depth is back to where it was once a locked section ends. -/
theorem withPlicGatewayLock_worker {run : Memory → Result × Memory}
    (kept : ∀ memory, (run memory).2.worker = memory.worker) :
    (withPlicGatewayLock memory run).2.worker = memory.worker :=
  SpinLock.hold_worker kept

theorem resetPlicGatewayLock_changesOnly :
    ChangesOnly (InPlicLock memory.layout) memory (resetPlicGatewayLock memory) :=
  ChangesOnly.store32 (fun _ inside => lock_covers ⟨Nat.le_add_right _ _, Nat.add_lt_add_left inside _⟩) 0

theorem setPlicContextWire_changesOnly :
    ChangesOnly (InPlicWire memory.layout context) memory (setPlicContextWire memory context pending) :=
  setIrqWire_changesOnly

/-- The slab's registers: everything below the wires. -/
def InPlicRegisters (layout : Layout) (position : Nat) : Prop :=
  layout.plic.hostIndex ≤ position ∧ position < layout.plic.hostIndex + plicHostMeipWireOffset

theorem InPlicWire.not_registers (inside : InPlicWire layout context position) :
    ¬ InPlicRegisters layout position := by
  have apart := layout.plic_irqLevel
  cases context <;>
    simp only [InPlicWire, InPlicRegisters, InIrqLevel, contextWireOffset] at * <;>
    simp at * <;> omega

theorem InPlicLock.not_registers (inside : InPlicLock layout position) :
    ¬ InPlicRegisters layout position := by
  simp [InPlicLock, InPlicRegisters] at *
  omega

theorem setPlicContextWire_registers (memory : Memory) (context : PlicContext) (pending : Bool) :
    ChangesOnly (fun position => ¬ InPlicRegisters memory.layout position) memory
      (setPlicContextWire memory context pending) :=
  setPlicContextWire_changesOnly.mono fun _ => InPlicWire.not_registers

theorem refreshContextWire_registers (memory : Memory) (context : PlicContext) :
    ChangesOnly (fun position => ¬ InPlicRegisters memory.layout position) memory
      (refreshContextWire memory context) :=
  setPlicContextWire_registers memory context _

theorem refreshAllContextWires_registers (memory : Memory) :
    ChangesOnly (fun position => ¬ InPlicRegisters memory.layout position) memory
      (refreshAllContextWires memory) := by
  have second := refreshContextWire_registers (refreshContextWire memory .machine) .supervisor
  rw [refreshContextWire_layout] at second
  exact (refreshContextWire_registers memory .machine).trans second

end YaRiscV.Emulator
