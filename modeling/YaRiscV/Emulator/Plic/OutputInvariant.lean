import YaRiscV.Emulator.Plic.GatewayInvariant

/-! The context wires and the aggregate word follow the registers in every run, and a
claim returns the best source behind its wire. -/

namespace YaRiscV.Emulator

open YaRiscV.Library YaRiscV.Utils

variable {memory after : Memory} {context : PlicContext}

/-- The bytes the selection for `context` reads. -/
def InSelection (layout : Layout) (context : PlicContext) (position : Nat) : Prop :=
  (layout.plic.hostIndex ≤ position ∧ position < layout.plic.hostIndex + plicHostEnableM) ∨
  (layout.plic.hostIndex + enableHostOffset context ≤ position ∧
    position < layout.plic.hostIndex + enableHostOffset context + 4) ∨
  (layout.plic.hostIndex + thresholdHostOffset context ≤ position ∧
    position < layout.plic.hostIndex + thresholdHostOffset context + 4)

theorem selectClaimableSource_frame (changes : ChangesOnly touched memory after)
    (apart : ∀ position, touched position → ¬ InSelection memory.layout context position) :
    selectClaimableSource after context = selectClaimableSource memory context := by
  have kept (hostOffset byteOffset : Nat)
      (inside : InSelection memory.layout context (memory.layout.plic.hostIndex + hostOffset + byteOffset)) :
      after.bytes (memory.layout.plic.hostIndex + hostOffset + byteOffset) =
        memory.bytes (memory.layout.plic.hostIndex + hostOffset + byteOffset) :=
    changes.bytes _ fun reached => apart _ reached inside
  have threshold : after.load32 (plicHostIndex after (thresholdHostOffset context)) =
      memory.load32 (plicHostIndex memory (thresholdHostOffset context)) := by
    simp only [plicHostIndex, changes.layout]
    refine Memory.load32_congr fun offset inside => kept _ _ (.inr (.inr ?_))
    omega
  simp only [selectClaimableSource, threshold]
  congr 1
  apply List.foldl_ext
  intro selection source member
  have small : source < 32 := by
    have bound := (List.mem_range'_1.mp member).2
    simp only [plicMaxSource] at bound
    omega
  have shifted := shift_small small
  have priority : after.load32 (plicHostIndex after (source * 4)) =
      memory.load32 (plicHostIndex memory (source * 4)) := by
    simp only [plicHostIndex, changes.layout]
    refine Memory.load32_congr fun offset inside => kept _ _ (.inl ?_)
    simp
    omega
  have pending : isSourceBitSet after plicHostPending source = isSourceBitSet memory plicHostPending source := by
    simp only [isSourceBitSet, atomicLoadBit, plicHostIndexForSourceBit, plicHostIndex, changes.layout]
    rw [kept _ _ (.inl ?_)]
    simp
    omega
  have enabled : isSourceBitSet after (enableHostOffset context) source =
      isSourceBitSet memory (enableHostOffset context) source := by
    simp only [isSourceBitSet, atomicLoadBit, plicHostIndexForSourceBit, plicHostIndex, changes.layout]
    rw [kept _ _ (.inr (.inl ?_))]
    omega
  simp only [considerSource, pending, enabled, priority]

/-- The wire of `context` and its bit of the aggregate word say whether a claim would
find a source. -/
structure WireCurrent (memory : Memory) (context : PlicContext) : Prop where
  wire : memory.bytes (plicHostIndex memory (contextWireOffset context)) =
    if selectClaimableSource memory context ≠ 0 then 1 else 0
  line : loadIrqLevel memory &&& contextIrqLevel context =
    if selectClaimableSource memory context ≠ 0 then contextIrqLevel context else 0

theorem WireCurrent.frame (current : WireCurrent memory context) (changes : ChangesOnly touched memory after)
    (apart : ∀ position, touched position → ¬ InSelection memory.layout context position ∧
      position ≠ plicHostIndex memory (contextWireOffset context))
    (line : loadIrqLevel after &&& contextIrqLevel context = loadIrqLevel memory &&& contextIrqLevel context) :
    WireCurrent after context := by
  have selection := selectClaimableSource_frame changes fun position reached => (apart position reached).1
  have wire : after.bytes (plicHostIndex memory (contextWireOffset context)) =
      memory.bytes (plicHostIndex memory (contextWireOffset context)) :=
    changes.bytes _ fun reached => (apart _ reached).2 rfl
  constructor
  · rw [selection, ← current.wire, ← wire]
    simp only [plicHostIndex, changes.layout]
  · rw [selection, line, current.line]

theorem contextWire_apart (layout : Layout) (context : PlicContext) :
    ¬ InIrqLevel layout (layout.plic.hostIndex + contextWireOffset context) := by
  have apart := layout.plic_irqLevel
  cases context <;> simp [InIrqLevel, contextWireOffset] at * <;> omega

theorem contextWire_selection (layout : Layout) (context other : PlicContext) (position : Nat)
    (reached : InPlicWire layout context position) : ¬ InSelection layout other position := by
  have apart := layout.plic_irqLevel
  cases context <;> cases other <;>
    simp [InPlicWire, InIrqLevel, InSelection, contextWireOffset, enableHostOffset, thresholdHostOffset] at * <;>
    omega

theorem lock_selection (layout : Layout) (position : Nat) (reached : InPlicLock layout position) :
    ¬ InSelection layout context position ∧
      position ≠ layout.plic.hostIndex + contextWireOffset context := by
  cases context <;>
    simp [InPlicLock, InSelection, contextWireOffset, enableHostOffset, thresholdHostOffset] at * <;> omega

theorem lock_irqLevel (layout : Layout) (reached : InPlicLock layout position) :
    ¬ InIrqLevel layout position := by
  have apart := layout.plic_irqLevel
  simp [InPlicLock, InIrqLevel] at *
  omega

theorem loadIrqLevel_frame (changes : ChangesOnly touched memory after)
    (apart : ∀ position, touched position → ¬ InIrqLevel memory.layout position) :
    loadIrqLevel after = loadIrqLevel memory := by
  simp only [loadIrqLevel, changes.layout]
  exact changes.load32 fun offset inside reached => apart _ reached ⟨by omega, by omega⟩

theorem refreshContextWire_current (memory : Memory) (context : PlicContext) :
    WireCurrent (refreshContextWire memory context) context := by
  have selection : selectClaimableSource (refreshContextWire memory context) context =
      selectClaimableSource memory context :=
    selectClaimableSource_frame setPlicContextWire_changesOnly (contextWire_selection _ _ _)
  have apart := contextWire_apart memory.layout context
  constructor
  · rw [selection]
    simp only [plicHostIndex, refreshContextWire_layout]
    refine (setIrqWire_wire apart).trans ?_
    simp
  · rw [selection]
    refine (congrArg (· &&& contextIrqLevel context) (loadIrqLevel_setIrqWire apart)).trans ?_
    by_cases nothing : selectClaimableSource memory context = 0
    · simpa [nothing] using and_not_and _ _
    · simpa [nothing] using or_and_absorb _ _

theorem refreshContextWire_other (current : WireCurrent memory context) (different : other ≠ context) :
    WireCurrent (refreshContextWire memory other) context := by
  refine current.frame setPlicContextWire_changesOnly (fun position reached => ⟨?_, ?_⟩) ?_
  · exact contextWire_selection _ _ _ position reached
  · have apart := contextWire_apart memory.layout context
    rcases reached with rfl | inside
    · cases context <;> cases other <;> simp [plicHostIndex, contextWireOffset] at *
    · rintro rfl
      exact apart inside
  · refine (congrArg (· &&& contextIrqLevel context)
      (loadIrqLevel_setIrqWire (contextWire_apart memory.layout other))).trans ?_
    refine published_other ?_ _ _
    cases context <;> cases other <;> simp [contextIrqLevel, irqLevelMeip, irqLevelSeip] at *

theorem refreshAllContextWires_current (memory : Memory) (context : PlicContext) :
    WireCurrent (refreshAllContextWires memory) context := by
  cases context with
  | machine => exact refreshContextWire_other (refreshContextWire_current memory .machine) (by decide)
  | supervisor => exact refreshContextWire_current _ .supervisor

theorem WireCurrent.acquire (current : WireCurrent memory context) :
    WireCurrent (acquirePlicGatewayLock memory) context := by
  refine current.frame acquirePlicGatewayLock_changesOnly (lock_selection _) ?_
  rw [loadIrqLevel_frame acquirePlicGatewayLock_changesOnly fun _ => lock_irqLevel _]

/-- Releasing the lock does not disturb the outputs. -/
theorem WireCurrent.locked {run : Memory → Result × Memory}
    (body : WireCurrent (run (acquirePlicGatewayLock memory)).2 context) :
    WireCurrent (withPlicGatewayLock memory run).2 context := by
  refine body.frame releasePlicGatewayLock_changesOnly (lock_selection _) ?_
  have kept : loadIrqLevel (withPlicGatewayLock memory run).2 =
      loadIrqLevel (run (acquirePlicGatewayLock memory)).2 :=
    loadIrqLevel_frame releasePlicGatewayLock_changesOnly fun _ => lock_irqLevel _
  exact congrArg (· &&& contextIrqLevel context) kept

/-- Both outputs are current. -/
def OutputsCurrent (memory : Memory) : Prop :=
  ∀ context, WireCurrent memory context

theorem setPlicSourcePending_current (memory : Memory) (valid : isValidSource source = true) (level : Bool) :
    OutputsCurrent (setPlicSourcePending memory source level) := by
  intro context
  simp only [setPlicSourcePending, valid, Bool.not_true, Bool.false_eq_true, ↓reduceIte]
  exact WireCurrent.locked (refreshAllContextWires_current _ context)

theorem claimPlicSource_current (memory : Memory) (context : PlicContext) :
    OutputsCurrent (claimPlicSource memory context).2 :=
  fun _ => WireCurrent.locked (refreshAllContextWires_current _ _)

theorem completePlicSource_current (current : OutputsCurrent memory) (valid : isValidSource source = true)
    (context : PlicContext) : OutputsCurrent (completePlicSource memory context source) := by
  intro other
  simp only [completePlicSource, valid, Bool.not_true, Bool.false_eq_true, ↓reduceIte]
  apply WireCurrent.locked
  split
  · exact (current other).acquire
  · exact refreshAllContextWires_current _ other

/-- A store to one context's own register is no input of the other context. -/
theorem WireCurrent.storeOwn {location : PlicHostLocation} (current : WireCurrent memory context)
    (apart : ¬ InSelection memory.layout context (plicHostIndexForLocation memory location) ∧
      plicHostIndexForLocation memory location ≠ plicHostIndex memory (contextWireOffset context) ∧
      ¬ InIrqLevel memory.layout (plicHostIndexForLocation memory location)) (value : BitVec 8) :
    WireCurrent ((acquirePlicGatewayLock memory).store (plicHostIndexForLocation memory location) value)
      context := by
  refine current.acquire.frame (ChangesOnly.store_at value) ?_ ?_
  · rintro _ rfl
    simpa [plicHostIndex] using And.intro apart.1 apart.2.1
  · rw [loadIrqLevel_frame (ChangesOnly.store_at value)]
    rintro _ rfl
    simpa using apart.2.2

theorem PlicByteStore.current (stored : PlicByteStore memory after) (current : OutputsCurrent memory) :
    OutputsCurrent after := by
  have apart := memory.layout.plic_irqLevel
  cases stored with
  | ignored => exact current
  | priority source byteOffset inside value =>
    exact fun _ => WireCurrent.locked (refreshAllContextWires_current _ _)
  | enable context byteOffset inside value =>
    intro other
    apply WireCurrent.locked
    by_cases same : other = context
    · subst same
      exact refreshContextWire_current _ _
    · refine refreshContextWire_other ((current other).storeOwn ?_ value) (Ne.symm same)
      cases context <;> cases other <;>
        simp [InSelection, InIrqLevel, plicHostIndexForLocation, plicHostIndex, enableHostOffset,
          thresholdHostOffset, contextWireOffset] at * <;> omega
  | threshold context byteOffset inside value =>
    intro other
    apply WireCurrent.locked
    by_cases same : other = context
    · subst same
      exact refreshContextWire_current _ _
    · refine refreshContextWire_other ((current other).storeOwn ?_ value) (Ne.symm same)
      cases context <;> cases other <;>
        simp [InSelection, InIrqLevel, plicHostIndexForLocation, plicHostIndex, enableHostOffset,
          thresholdHostOffset, contextWireOffset] at * <;> omega
  | complete context source valid => exact completePlicSource_current current valid context

theorem selectClaimableSource_idle
    (idle : ∀ source, isValidSource source = true → isSourceBitSet memory plicHostPending source = false) :
    selectClaimableSource memory context = 0 := by
  refine selectClaimableSource_zero.mpr fun source valid => ?_
  rw [claimable, idle source valid, Bool.false_and, Bool.false_and]

/-- Nothing is pending after initialization, so its low wires are refreshed wires. -/
theorem initializePlic_current (start : Memory) : OutputsCurrent (initializePlic start) := by
  have machine : selectClaimableSource (plicCleared start) .machine = 0 :=
    selectClaimableSource_idle fun source valid =>
      plicCleared_clear start (by decide) (isValidSource_lt valid)
  have supervisor : selectClaimableSource (refreshContextWire (plicCleared start) .machine) .supervisor = 0 := by
    refine selectClaimableSource_idle fun source valid => ?_
    rw [SameRegisters.isSourceBitSet (refreshContextWire_registers _ _) (by decide) (isValidSource_lt valid)]
    exact plicCleared_clear start (by decide) (isValidSource_lt valid)
  have same : initializePlic start = refreshAllContextWires (plicCleared start) := by
    have first : refreshContextWire (plicCleared start) .machine =
        setPlicContextWire (plicCleared start) .machine false := by
      rw [refreshContextWire, machine]
      rfl
    rw [refreshAllContextWires, refreshContextWire.eq_def _ .supervisor, supervisor, first]
    rfl
  rw [same]
  exact refreshAllContextWires_current _

theorem outputs_step (step : PlicStep memory after) (current : OutputsCurrent memory) :
    OutputsCurrent after := by
  refine step.preserves OutputsCurrent current ?_ ?_ ?_ ?_
  · exact fun memory source level valid _ => setPlicSourcePending_current memory valid level
  · exact fun memory context _ => claimPlicSource_current memory context
  · exact fun memory after stored current => stored.current current
  · intro memory after changes lines current context
    refine (current context).frame changes (fun position outside => ⟨fun inside => outside ?_, ?_⟩)
      (lines context)
    · cases context <;>
        simp [InSelection, InPlic, enableHostOffset, thresholdHostOffset] at * <;> omega
    · rintro rfl
      apply outside
      cases context <;> simp [InPlic, plicHostIndex, contextWireOffset]

/-- In every reachable state the wire of each context, and its bit of the aggregate word,
is up exactly when some source is claimable, and a claim returns the best such source. -/
theorem plic_outputs_current (reached : PlicReachable memory) (context : PlicContext) :
    (memory.bytes (plicHostIndex memory (contextWireOffset context)) = 1 ↔
      ∃ source, isValidSource source = true ∧ claimable memory context source = true) ∧
    (loadIrqLevel memory &&& contextIrqLevel context ≠ 0 ↔
      ∃ source, isValidSource source = true ∧ claimable memory context source = true) ∧
    ((claimPlicSource memory context).1 = 0 ↔
      memory.bytes (plicHostIndex memory (contextWireOffset context)) = 0) ∧
    ((claimPlicSource memory context).1 ≠ 0 →
      isValidSource (claimPlicSource memory context).1 = true ∧
      claimable memory context (claimPlicSource memory context).1 = true ∧
      ∀ source, isValidSource source = true → claimable memory context source = true →
        sourcePriority memory source < sourcePriority memory (claimPlicSource memory context).1 ∨
        sourcePriority memory source = sourcePriority memory (claimPlicSource memory context).1 ∧
          (claimPlicSource memory context).1 ≤ source) := by
  obtain ⟨start, run⟩ := reached
  have current := invariant_run OutputsCurrent (fun _ _ => outputs_step) run (initializePlic_current start) context
  have result : (claimPlicSource memory context).1 = selectClaimableSource memory context :=
    selectClaimableSource_frame acquirePlicGatewayLock_changesOnly fun position reached =>
      (lock_selection _ position reached).1
  have some_iff : (∃ source, isValidSource source = true ∧ claimable memory context source = true) ↔
      selectClaimableSource memory context ≠ 0 := by
    rw [ne_eq, selectClaimableSource_zero]
    simp
  have nonzero : contextIrqLevel context ≠ 0 := by cases context <;> decide
  rw [some_iff, result, current.wire, current.line]
  by_cases nothing : selectClaimableSource memory context = 0
  · simp [nothing]
  · have best := selectClaimableSource_best nothing
    simp only [nothing, ne_eq, not_false_eq_true, ↓reduceIte, nonzero, forall_const]
    refine ⟨trivial, trivial, by decide, mem_sources.mp best.member, best.eligible, ?_⟩
    intro source valid able
    rcases lt_or_eq_of_le (best.highest source (mem_sources.mpr valid) able) with lower | same
    · exact .inl lower
    · exact .inr ⟨same, best.least source (mem_sources.mpr valid) able same⟩

theorem plic_outputs_current_uart : (claimPlicSource uartRaised .machine).1 = plicSourceUart ∧
    (uartRaised.bytes (plicHostIndex uartRaised (contextWireOffset .machine)) = 1 ↔
      ∃ source, isValidSource source = true ∧ claimable uartRaised .machine source = true) ∧
    (loadIrqLevel uartRaised &&& contextIrqLevel .machine ≠ 0 ↔
      ∃ source, isValidSource source = true ∧ claimable uartRaised .machine source = true) ∧
    ((claimPlicSource uartRaised .machine).1 = 0 ↔
      uartRaised.bytes (plicHostIndex uartRaised (contextWireOffset .machine)) = 0) ∧
    ((claimPlicSource uartRaised .machine).1 ≠ 0 →
      isValidSource (claimPlicSource uartRaised .machine).1 = true ∧
      claimable uartRaised .machine (claimPlicSource uartRaised .machine).1 = true ∧
      ∀ source, isValidSource source = true → claimable uartRaised .machine source = true →
        sourcePriority uartRaised source <
          sourcePriority uartRaised (claimPlicSource uartRaised .machine).1 ∨
        sourcePriority uartRaised source =
          sourcePriority uartRaised (claimPlicSource uartRaised .machine).1 ∧
          (claimPlicSource uartRaised .machine).1 ≤ source) :=
  ⟨by decide +kernel, plic_outputs_current uartRaised_reachable PlicContext.machine⟩

end YaRiscV.Emulator
