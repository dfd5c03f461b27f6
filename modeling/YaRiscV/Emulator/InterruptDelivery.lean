import YaRiscV.Emulator.MachineRun
import YaRiscV.Emulator.Cpu.InterruptChain
import YaRiscV.Emulator.Cpu.PendingOwnership
import YaRiscV.Emulator.Cpu.SampledWires

/-! Interrupts of the whole machine: from the registers of the devices to the trap the next turn
takes, and to the wake of a hart asleep in `wfi`. -/

namespace YaRiscV.Emulator

open YaRiscV.Library YaRiscV.Utils Relation

/-- A source is pending, enabled and above the threshold of the context. -/
def Claimable (memory : Memory) (context : PlicContext) : Prop :=
  ∃ source, isValidSource source = true ∧ claimable memory context source = true

/-- The machine asks for the interrupt of a wire, by its devices or by what software wrote in `mip`. -/
def WireAsserted (registers : Registers) (memory : Memory) : IrqWire → Prop
  | .machineTimer => readTimeRegister memory .mtime ≥ readTimeRegister memory .mtimecmp
  | .machineSoftware => isClintMachineSoftwarePending memory = true
  | .supervisorTimer =>
    if isSupervisorTimerCompareEnabled registers = true then
      readTimeRegister memory .mtime ≥ registers.controlAndStatus Csr.stimecmp
    else pendingBit registers stipBit = true
  | .machineExternal => Claimable memory .machine
  | .supervisorExternal => Claimable memory .supervisor ∨ pendingBit registers seipBit = true

/-- A cause is asked for: by a wire, or SSIP by software. -/
def CauseAsserted (registers : Registers) (memory : Memory) (code : Nat) : Prop :=
  (∃ wire : IrqWire, wire.number = code ∧ WireAsserted registers memory wire) ∨
    code = ssipBit ∧ pendingBit registers ssipBit = true

/-- A cause that is asked for, enabled, and let through by `mstatus` at the present privilege. -/
structure CauseTakeable (registers : Registers) (memory : Memory) (code : Nat) : Prop where
  asserted : CauseAsserted registers memory code
  enabled : (registers.controlAndStatus Csr.mie).getLsbD code = true
  supervisor : interruptDelegated registers code = true → registers.privilegeMode ≠ privilegeMachine ∧
    (registers.privilegeMode = privilegeSupervisor → (registers.controlAndStatus Csr.mstatus).getLsbD 1 = true)
  machine : interruptDelegated registers code = false →
    registers.privilegeMode = privilegeMachine → (registers.controlAndStatus Csr.mstatus).getLsbD 3 = true

variable {registers after : Registers} {memory : Memory} {hart : Hart} {code bit : Nat} {level : Bool}
  {wire : IrqWire}

/-- The wires whose level a sample writes into the slot of `mip`. -/
def WireStored (registers : Registers) (wire : IrqWire) : Prop :=
  wire ≠ .supervisorExternal ∧ (wire = .supervisorTimer → isSupervisorTimerCompareEnabled registers = true)

instance (registers : Registers) (wire : IrqWire) : Decidable (WireStored registers wire) :=
  inferInstanceAs (Decidable (_ ∧ _))

theorem setMipBits_line (registers : Registers) (mask : BitVec 8) (level : Bool) (line : Nat)
    (selects : ∀ position < 8, mask.getLsbD position = decide (position = line % 8)) (inside : bit < 64) :
    pendingBit (setMipBits registers (line / 8) mask level) bit =
      if bit = line then level else pendingBit registers bit := by
  rw [pendingBit, setMipBits, setSlot_controlAndStatus, if_pos rfl, getLsbD_setBits_line _ _ _ _ selects inside]
  rfl

/-- The slot after a wire has been read. -/
theorem wireSampled_pendingBit (registers : Registers) (level : Bool) (wire : IrqWire) (inside : bit < 64) :
    pendingBit (wireSampled registers level wire) bit =
      if WireStored registers wire ∧ bit = wire.number then level else pendingBit registers bit := by
  have stored (mask : BitVec 8) (line : WireStored registers wire)
      (selects : ∀ position < 8, mask.getLsbD position = decide (position = wire.number % 8)) :
      pendingBit (setMipBits registers (wire.number / 8) mask level) bit =
        if WireStored registers wire ∧ bit = wire.number then level else pendingBit registers bit := by
    rw [setMipBits_line registers mask level wire.number selects inside]
    simp only [line, true_and]
  cases wire with
  | machineSoftware => exact stored mipByte0Msip ⟨by decide, fun same => by cases same⟩ (by decide)
  | machineTimer => exact stored mipByte0Mtip ⟨by decide, fun same => by cases same⟩ (by decide)
  | machineExternal => exact stored mipByte1Meip ⟨by decide, fun same => by cases same⟩ (by decide)
  | supervisorExternal =>
    rw [if_neg fun both => both.1.1 rfl]
    rfl
  | supervisorTimer =>
    cases enabled : isSupervisorTimerCompareEnabled registers with
    | false =>
      rw [if_neg fun both => Bool.false_ne_true (enabled.symm.trans (both.1.2 rfl))]
      rw [wireSampled, setSupervisorTimerInterruptPending, enabled]
      rfl
    | true =>
      rw [wireSampled, setSupervisorTimerInterruptPending, enabled]
      exact stored mipByte0Stip ⟨by decide, fun _ => enabled⟩ (by decide)

theorem wireSampled_skip (registers : Registers) (level : Bool) (inside : bit < 64)
    (apart : WireStored registers wire → bit ≠ wire.number) :
    pendingBit (wireSampled registers level wire) bit = pendingBit registers bit := by
  rw [wireSampled_pendingBit registers level wire inside, if_neg fun both => apart both.1 both.2]

theorem wireSampled_at (level : Bool) (stored : WireStored registers wire) :
    pendingBit (wireSampled registers level wire) wire.number = level := by
  have inside : wire.number < 64 := by cases wire <;> decide
  rw [wireSampled_pendingBit registers level wire inside, if_pos ⟨stored, rfl⟩]

theorem wireStored_other (external : wire ≠ .supervisorExternal) (timer : wire ≠ .supervisorTimer) :
    WireStored registers wire := ⟨external, fun same => absurd same timer⟩

theorem wireStored_sampled (registers : Registers) (level : Bool) (sampled : IrqWire) :
    WireStored (wireSampled registers level sampled) wire ↔ WireStored registers wire := by
  rw [WireStored, WireStored, (wireSampled_sampledFrom registers level sampled).sampleKept.enabled]

/-- The hart after the CLINT has been handed its compare value. -/
def publishedRegisters (registers : Registers) (memory : Memory) : Registers :=
  (publishSupervisorTimerCompare (machineWiresSampled registers memory) memory).1

/-- A sample reads the wires one after the other. -/
theorem sampleDevicePending_wires (registers : Registers) (memory : Memory) :
    (sampleDevicePending registers memory).1 =
      wireSampled (wireSampled (wireSampled (publishedRegisters registers memory)
        (isClintSupervisorTimerPending (sampleDevicePending registers memory).2) .supervisorTimer)
        (isPlicMachineExternalPending (sampleDevicePending registers memory).2) .machineExternal)
        (isPlicSupervisorExternalPending (sampleDevicePending registers memory).2) .supervisorExternal := rfl

theorem machineWiresSampled_wires (registers : Registers) (memory : Memory) : machineWiresSampled registers memory =
    wireSampled (wireSampled registers (isClintMachineTimerPending memory) .machineTimer)
      (isClintMachineSoftwarePending memory) .machineSoftware := rfl

theorem publishedRegisters_eq (current : MachineCurrent registers memory) :
    publishedRegisters registers memory = { machineWiresSampled registers memory with
      publishedSupervisorTimerCompare := publishedCompare (machineWiresSampled registers memory) } := by
  have sampled : HartClintCurrent (machineWiresSampled registers memory) memory :=
    ⟨current.devices.clint, current.mirror⟩
  exact (publishSupervisorTimerCompare_moved sampled).2

theorem publishedRegisters_pendingBit (current : MachineCurrent registers memory) :
    pendingBit (publishedRegisters registers memory) bit = pendingBit (machineWiresSampled registers memory) bit := by
  rw [publishedRegisters_eq current]
  rfl

theorem publishedRegisters_stored (current : MachineCurrent registers memory) :
    WireStored (publishedRegisters registers memory) wire ↔ WireStored registers wire := by
  rw [publishedRegisters_eq current]
  rfl

/-- The bits that the sampled wires leave to software. -/
theorem sampled_software (current : MachineCurrent registers memory) (inside : bit < 64)
    (apart : ∀ wire : IrqWire, WireStored registers wire → bit ≠ wire.number) :
    pendingBit (sampleDevicePending registers memory).1 bit = pendingBit registers bit := by
  rw [sampleDevicePending_wires]
  repeat rw [wireSampled_skip _ _ inside fun stored => apart _ <| by
    simpa only [wireStored_sampled, publishedRegisters_stored current] using stored]
  rw [publishedRegisters_pendingBit current, machineWiresSampled_wires]
  repeat rw [wireSampled_skip _ _ inside fun stored => apart _ <| by simpa only [wireStored_sampled] using stored]

/-- What a sample reads on a wire. -/
def sampledLevel (registers : Registers) (memory : Memory) : IrqWire → Bool
  | .machineTimer => isClintMachineTimerPending memory
  | .machineSoftware => isClintMachineSoftwarePending memory
  | .supervisorTimer => isClintSupervisorTimerPending (sampleDevicePending registers memory).2
  | .machineExternal => isPlicMachineExternalPending (sampleDevicePending registers memory).2
  | .supervisorExternal => isPlicSupervisorExternalPending (sampleDevicePending registers memory).2

/-- The bit of a stored wire shows the level read. -/
theorem sampled_stored (current : MachineCurrent registers memory) (stored : WireStored registers wire) :
    pendingBit (sampleDevicePending registers memory).1 wire.number = sampledLevel registers memory wire := by
  rw [sampleDevicePending_wires]
  cases wire with
  | supervisorExternal => exact absurd rfl stored.1
  | machineExternal =>
    rw [wireSampled_skip _ _ (by decide) fun stored => absurd rfl stored.1]
    exact wireSampled_at _ (wireStored_other (by decide) (by decide))
  | supervisorTimer =>
    rw [wireSampled_skip _ _ (by decide) fun stored => absurd rfl stored.1,
      wireSampled_skip _ _ (by decide) fun _ => by decide]
    exact wireSampled_at _ ((publishedRegisters_stored current).mpr stored)
  | machineSoftware =>
    rw [wireSampled_skip _ _ (by decide) fun _ => by decide, wireSampled_skip _ _ (by decide) fun _ => by decide,
      wireSampled_skip _ _ (by decide) fun _ => by decide, publishedRegisters_pendingBit current,
      machineWiresSampled_wires]
    exact wireSampled_at _ (wireStored_other (by decide) (by decide))
  | machineTimer =>
    rw [wireSampled_skip _ _ (by decide) fun _ => by decide, wireSampled_skip _ _ (by decide) fun _ => by decide,
      wireSampled_skip _ _ (by decide) fun _ => by decide, publishedRegisters_pendingBit current,
      machineWiresSampled_wires, wireSampled_skip _ _ (by decide) fun _ => by decide]
    exact wireSampled_at _ (wireStored_other (by decide) (by decide))

theorem claimable_iff : selectClaimableSource memory context ≠ 0 ↔ Claimable memory context := by
  rw [Ne, selectClaimableSource_zero, Claimable]
  simp only [not_forall, Bool.not_eq_false, exists_prop]

/-- An output of the PLIC is high exactly for a claimable source. -/
theorem WireCurrent.high_iff (current : WireCurrent memory context) :
    (memory.bytes (plicHostIndex memory (contextWireOffset context)) != 0) = true ↔ Claimable memory context := by
  rw [current.wire, ← claimable_iff]
  split
  · rename_i claimed
    exact iff_of_true rfl claimed
  · rename_i unclaimed
    exact iff_of_false (by decide) unclaimed

theorem sampled_memory_plic (registers : Registers) (memory : Memory) (inside : offset < plicHostByteLength) :
    (sampleDevicePending registers memory).2.bytes (plicHostIndex (sampleDevicePending registers memory).2 offset) =
      memory.bytes (plicHostIndex memory offset) := by
  have confined := (sampleDevicePending_clintMoved registers memory).changes
  rw [plicHostIndex, plicHostIndex, confined.layout]
  refine confined.bytes _ fun reached => ?_
  have apart := reached.apart memory.layout.plicFound (by decide)
  simp only [MappedRegion.toRegion, memory.layout.plicLength] at apart
  omega

theorem sampledLevel_iff (current : MachineCurrent registers memory) (stored : WireStored registers wire) :
    sampledLevel registers memory wire = true ↔ WireAsserted registers memory wire := by
  cases wire with
  | machineTimer =>
    rw [sampledLevel, current.devices.clint.machine_pending, decide_eq_true_eq]
    rfl
  | machineSoftware => rfl
  | supervisorTimer =>
    have sampled : HartClintCurrent (machineWiresSampled registers memory) memory :=
      ⟨current.devices.clint, current.mirror⟩
    have moved := (publishSupervisorTimerCompare_moved sampled).1
    rw [← sampleDevicePending_memory] at moved
    have compare : publishedCompare (machineWiresSampled registers memory) = registers.controlAndStatus Csr.stimecmp :=
      if_pos (stored.2 rfl)
    rw [sampledLevel, moved.current.supervisor_pending, decide_eq_true_eq, moved.mirror, moved.mtime, compare,
      WireAsserted, if_pos (stored.2 rfl)]
  | machineExternal =>
    rw [sampledLevel, isPlicMachineExternalPending, sampled_memory_plic _ _ (by decide)]
    exact (current.devices.outputs .machine).high_iff
  | supervisorExternal => exact absurd rfl stored.1

theorem sampled_supervisorExternal (current : MachineCurrent registers memory) :
    (sampleDevicePending registers memory).1.plicSupervisorExternalPending = true ↔ Claimable memory .supervisor := by
  have level : (sampleDevicePending registers memory).1.plicSupervisorExternalPending =
      isPlicSupervisorExternalPending (sampleDevicePending registers memory).2 := rfl
  rw [level, isPlicSupervisorExternalPending, sampled_memory_plic _ _ (by decide)]
  exact (current.devices.outputs .supervisor).high_iff

theorem sampled_stimecmp_enabled (registers : Registers) (memory : Memory) :
    isSupervisorTimerCompareEnabled (sampleDevicePending registers memory).1 =
      isSupervisorTimerCompareEnabled registers :=
  (sampleDevicePending_sampledFrom registers memory).sampleKept.enabled

/-- The wires that `mip` shows after a sample are those the machine asserts. -/
theorem sampled_asserted (current : MachineCurrent registers memory) (wire : IrqWire) :
    (readControlAndStatusRegister (sampleDevicePending registers memory).1 Csr.mip).getLsbD wire.number = true ↔
      WireAsserted registers memory wire := by
  have read : (readControlAndStatusRegister (sampleDevicePending registers memory).1 Csr.mip).getLsbD wire.number =
      (pendingBit (sampleDevicePending registers memory).1 wire.number ||
        ((sampleDevicePending registers memory).1.plicSupervisorExternalPending && decide (wire.number = seipBit))) :=
    getLsbD_readMip _ _
  by_cases stored : WireStored registers wire
  · have apart : decide (wire.number = seipBit) = false := by
      have external := stored.1
      revert external
      cases wire <;> decide
    rw [read, apart, Bool.and_false, Bool.or_false, sampled_stored current stored]
    exact sampledLevel_iff current stored
  · have inside : wire.number < 64 := by cases wire <;> decide
    have software : pendingBit (sampleDevicePending registers memory).1 wire.number =
        pendingBit registers wire.number := by
      refine sampled_software current inside fun other otherStored same => stored ?_
      have equal : wire = other := by
        revert same
        cases wire <;> cases other <;> decide
      exact equal ▸ otherStored
    rw [read, software]
    cases wire with
    | supervisorExternal =>
      have own : decide (IrqWire.supervisorExternal.number = seipBit) = true := by decide
      rw [own, Bool.and_true, Bool.or_eq_true, or_comm, sampled_supervisorExternal current]
      rfl
    | supervisorTimer =>
      have disabled : ¬ isSupervisorTimerCompareEnabled registers = true := fun enabled =>
        stored ⟨by decide, fun _ => enabled⟩
      have apart : decide (IrqWire.supervisorTimer.number = seipBit) = false := by decide
      rw [apart, Bool.and_false, Bool.or_false, WireAsserted, if_neg disabled]
      rfl
    | machineTimer | machineSoftware | machineExternal =>
      exact absurd (wireStored_other (by decide) (by decide)) stored

/-! Causes. -/

theorem interruptPriority_wires (listed : code ∈ interruptPriority) :
    code = ssipBit ∨ ∃ wire : IrqWire, wire.number = code := by
  simp only [interruptPriority, List.mem_cons, List.not_mem_nil, or_false] at listed
  rcases listed with rfl | rfl | rfl | rfl | rfl | rfl
  · exact .inr ⟨.machineExternal, rfl⟩
  · exact .inr ⟨.machineSoftware, rfl⟩
  · exact .inr ⟨.machineTimer, rfl⟩
  · exact .inr ⟨.supervisorExternal, rfl⟩
  · exact .inl rfl
  · exact .inr ⟨.supervisorTimer, rfl⟩

theorem wire_number_injective {other : IrqWire} (same : wire.number = other.number) : wire = other := by
  revert same
  cases wire <;> cases other <;> decide

/-- The causes that `mip` shows after a sample are those the machine asserts. -/
theorem sampled_cause (current : MachineCurrent registers memory) (listed : code ∈ interruptPriority) :
    (readControlAndStatusRegister (sampleDevicePending registers memory).1 Csr.mip).getLsbD code = true ↔
      CauseAsserted registers memory code := by
  rcases interruptPriority_wires listed with rfl | ⟨wire, rfl⟩
  · have apart (wire : IrqWire) : ssipBit ≠ wire.number := by cases wire <;> decide
    have read : (readControlAndStatusRegister (sampleDevicePending registers memory).1 Csr.mip).getLsbD ssipBit =
        (pendingBit (sampleDevicePending registers memory).1 ssipBit ||
          ((sampleDevicePending registers memory).1.plicSupervisorExternalPending && decide (ssipBit = seipBit))) :=
      getLsbD_readMip _ _
    have other : decide (ssipBit = seipBit) = false := by decide
    rw [read, other, Bool.and_false, Bool.or_false, sampled_software current (by decide) fun wire _ => apart wire]
    constructor
    · exact fun pending => .inr ⟨rfl, pending⟩
    · rintro (⟨wire, same, _⟩ | ⟨_, pending⟩)
      · exact absurd same.symm (apart wire)
      · exact pending
  · rw [sampled_asserted current wire]
    constructor
    · exact fun asserted => .inl ⟨wire, rfl, asserted⟩
    · rintro (⟨other, same, asserted⟩ | ⟨same, _⟩)
      · exact wire_number_injective same ▸ asserted
      · have apart : wire.number ≠ ssipBit := by cases wire <;> decide
        exact absurd same apart

theorem sampled_enabled (current : MachineCurrent registers memory) (listed : code ∈ interruptPriority) :
    InterruptEnabled (sampleDevicePending registers memory).1 code ↔ CauseTakeable registers memory code := by
  have sampled := sampleDevicePending_sampledFrom registers memory
  have mie : (sampleDevicePending registers memory).1.controlAndStatus Csr.mie = registers.controlAndStatus Csr.mie :=
    sampled.slots _ (by decide)
  have mstatus : (sampleDevicePending registers memory).1.controlAndStatus Csr.mstatus =
      registers.controlAndStatus Csr.mstatus := sampled.slots _ (by decide)
  have mideleg : (sampleDevicePending registers memory).1.controlAndStatus Csr.mideleg =
      registers.controlAndStatus Csr.mideleg := sampled.slots _ (by decide)
  have delegated : interruptDelegated (sampleDevicePending registers memory).1 code =
      interruptDelegated registers code := by
    rw [interruptDelegated, interruptDelegated, mideleg]
  have cause := sampled_cause current listed
  constructor
  · rintro ⟨pending, enabled, supervisor, machine⟩
    rw [delegated, sampled.privilegeMode, mstatus] at supervisor machine
    exact ⟨cause.mp pending, mie ▸ enabled, supervisor, machine⟩
  · rintro ⟨asserted, enabled, supervisor, machine⟩
    refine ⟨cause.mpr asserted, mie.symm ▸ enabled, ?_, ?_⟩
    · rw [delegated, sampled.privilegeMode, mstatus]
      exact supervisor
    · rw [delegated, sampled.privilegeMode, mstatus]
      exact machine

/-- A sample changes nothing that the machine asserts. -/
theorem sampled_wireAsserted (current : MachineCurrent registers memory) (wire : IrqWire) :
    WireAsserted (sampleDevicePending registers memory).1 (sampleDevicePending registers memory).2 wire ↔
      WireAsserted registers memory wire := by
  have sampled : HartClintCurrent (machineWiresSampled registers memory) memory :=
    ⟨current.devices.clint, current.mirror⟩
  have moved := (publishSupervisorTimerCompare_moved sampled).1
  rw [← sampleDevicePending_memory] at moved
  have after := (sampleDevicePending_machineCurrent current).devices.outputs
  have claims (context : PlicContext) : Claimable (sampleDevicePending registers memory).2 context ↔
      Claimable memory context := by
    have inside : contextWireOffset context < plicHostByteLength := by cases context <;> decide
    rw [← (after context).high_iff, ← (current.devices.outputs context).high_iff, sampled_memory_plic _ _ inside]
  have slots := (sampleDevicePending_sampledFrom registers memory).slots
  have stimecmp : (sampleDevicePending registers memory).1.controlAndStatus Csr.stimecmp =
      registers.controlAndStatus Csr.stimecmp := slots _ (by decide)
  cases wire with
  | machineTimer => rw [WireAsserted, WireAsserted, moved.mtime, moved.mtimecmp]
  | machineSoftware => rw [WireAsserted, WireAsserted, moved.software]
  | machineExternal => exact claims .machine
  | supervisorExternal =>
    have soft : pendingBit (sampleDevicePending registers memory).1 seipBit = pendingBit registers seipBit := by
      refine sampled_software current (by decide) fun wire stored same => ?_
      have own : IrqWire.supervisorExternal = wire := wire_number_injective same
      exact stored.1 own.symm
    rw [WireAsserted, WireAsserted, claims .supervisor, soft]
  | supervisorTimer =>
    rw [WireAsserted, WireAsserted, sampled_stimecmp_enabled, stimecmp, moved.mtime]
    by_cases enabled : isSupervisorTimerCompareEnabled registers = true
    · rw [if_pos enabled, if_pos enabled]
    · have soft : pendingBit (sampleDevicePending registers memory).1 stipBit = pendingBit registers stipBit := by
        refine sampled_software current (by decide) fun wire stored same => enabled ?_
        have own : IrqWire.supervisorTimer = wire := wire_number_injective same
        exact stored.2 own.symm
      rw [if_neg enabled, if_neg enabled, soft]

theorem sampled_causeAsserted (current : MachineCurrent registers memory) (code : Nat) :
    CauseAsserted (sampleDevicePending registers memory).1 (sampleDevicePending registers memory).2 code ↔
      CauseAsserted registers memory code := by
  have soft : pendingBit (sampleDevicePending registers memory).1 ssipBit = pendingBit registers ssipBit :=
    sampled_software current (by decide) fun wire _ => by cases wire <;> decide
  simp only [CauseAsserted, sampled_wireAsserted current, soft]

/-! Waking. -/

/-- Some cause is asked for and enabled in `mie`, whatever `mstatus` says. -/
def WakeAsserted (registers : Registers) (memory : Memory) : Prop :=
  ∃ code ∈ interruptPriority, CauseAsserted registers memory code ∧
    (registers.controlAndStatus Csr.mie).getLsbD code = true

theorem sampled_pendingEnabled (current : MachineCurrent registers memory) :
    isPendingEnabledInterrupt (sampleDevicePending registers memory).1 = true ↔ WakeAsserted registers memory := by
  have mie : readControlAndStatusRegister (sampleDevicePending registers memory).1 Csr.mie =
      registers.controlAndStatus Csr.mie := (sampleDevicePending_sampledFrom registers memory).slots Csr.mie (by decide)
  rw [isPendingEnabledInterrupt, List.any_eq_true]
  refine exists_congr fun code => and_congr_right fun listed => ?_
  rw [Bool.and_eq_true, csrBitIsSet_eq, csrBitIsSet_eq, mie, sampled_cause current listed]

theorem sampled_wakeAsserted (current : MachineCurrent registers memory) :
    WakeAsserted (sampleDevicePending registers memory).1 (sampleDevicePending registers memory).2 ↔
      WakeAsserted registers memory := by
  have mie : (sampleDevicePending registers memory).1.controlAndStatus Csr.mie = registers.controlAndStatus Csr.mie :=
    (sampleDevicePending_sampledFrom registers memory).slots Csr.mie (by decide)
  refine exists_congr fun code => and_congr_right fun _ => ?_
  rw [sampled_causeAsserted current code, mie]

/-- A turn of a waiting `wfi` ends exactly if an enabled cause is asked for. -/
theorem wfiTurn_wakes_iff (current : MachineCurrent registers memory) :
    (∃ reached left, wfiTurn registers memory = .completed reached left) ↔ WakeAsserted registers memory := by
  have first := sampled_pendingEnabled current
  have sampled := sampleDevicePending_machineCurrent current
  have second := (sampled_pendingEnabled sampled).trans (sampled_wakeAsserted current)
  simp only [wfiTurn]
  by_cases asserted : WakeAsserted registers memory
  · rw [if_pos (first.mpr asserted)]
    exact iff_of_true ⟨_, _, rfl⟩ asserted
  · rw [if_neg fun pending => asserted (first.mp pending), if_neg fun pending => asserted (second.mp pending)]
    refine iff_of_false ?_ asserted
    rintro ⟨reached, left, ended⟩
    cases ended

/-- Delivery, as the devices and `mstatus`, `mie` and `mideleg` stand: an awake hart's next turn takes
an interrupt exactly if some cause is takeable, and then the first of the list; a hart asleep wakes
exactly if an enabled cause is asked for. -/
structure InterruptsDelivered (hart : Hart) : Prop where
  taken : hart.asleep = none → ((∃ after, TurnInterrupted hart.registers hart.memory after) ↔
    ∃ code ∈ interruptPriority, CauseTakeable hart.registers hart.memory code)
  entered : ∀ after, TurnInterrupted hart.registers hart.memory after → hart.asleep = none →
    hart.turn = .trapped after (sampleDevicePending hart.registers hart.memory).2 ∧
      ∃ code ∈ interruptPriority, CauseTakeable hart.registers hart.memory code ∧
        after = interruptTrap (sampleDevicePending hart.registers hart.memory).1 code ∧
        ∀ other ∈ interruptPriority, CauseTakeable hart.registers hart.memory other →
          interruptPriority.idxOf code ≤ interruptPriority.idxOf other
  wakes : hart.asleep.isSome = true →
    ((∃ reached left, hart.turn = .completed reached left) ↔ WakeAsserted hart.registers hart.memory)

theorem MachineSound.delivered (sound : MachineSound hart) : InterruptsDelivered hart := by
  have current := sound.current
  constructor
  case taken =>
    intro _
    constructor
    · rintro ⟨after, taken⟩
      obtain ⟨code, listed, enabled, _⟩ := takeInterruptIfAny_some taken
      exact ⟨code, listed, (sampled_enabled current listed).mp enabled⟩
    · rintro ⟨code, listed, takeable⟩
      have enabled := (sampled_enabled current listed).mpr takeable
      have selected := selectTakeableInterrupt_isSome.mpr ⟨code, listed, enabled⟩
      obtain ⟨chosen, found⟩ := Option.isSome_iff_exists.mp selected
      exact ⟨_, by rw [TurnInterrupted, takeInterruptIfAny, found]; rfl⟩
  case entered =>
    intro after taken awake
    obtain ⟨code, listed, enabled, same, first⟩ := takeInterruptIfAny_some taken
    refine ⟨?_, code, listed, (sampled_enabled current listed).mp enabled, same, fun other known takeable => ?_⟩
    · rw [Hart.turn, awake]
      exact taken.turn
    · exact first other known ((sampled_enabled current known).mpr takeable)
  case wakes =>
    intro asleep
    obtain ⟨fromLevel, slept⟩ := Option.isSome_iff_exists.mp asleep
    rw [← wfiTurn_wakes_iff current, Hart.turn, slept]
    cases wfiTurn hart.registers hart.memory with
    | completed reached left => exact iff_of_true ⟨_, _, rfl⟩ ⟨_, _, rfl⟩
    | trapped | waiting | threw =>
      refine iff_of_false ?_ ?_
      · rintro ⟨reached, left, ended⟩
        cases ended
      · rintro ⟨reached, left, ended⟩
        cases ended

/-- Whatever the workers did before, the devices' registers decide the next interrupt. -/
theorem interrupts_delivered {options : EmulatorCreateOptions} {hrtime clock : Nat → Nat} {created : Created}
    (returned : createEmulator options hrtime = .ok created) (run : WorkerRun (created.hart options clock) hart) :
    InterruptsDelivered hart := (run.booted returned).delivered

/-- Turns of the hart, with nothing in between. -/
def Hart.turns (hart : Hart) : Nat → Option Hart
  | 0 => some hart
  | count + 1 => hart.turn.hart?.bind fun next => next.turns count

theorem Hart.turns_run {hart after : Hart} (turned : hart.turns count = some after) : WorkerRun hart after := by
  induction count generalizing hart with
  | zero =>
    cases turned
    exact .refl
  | succ count inductionHypothesis =>
    obtain ⟨next, ended, rest⟩ := Option.bind_eq_some_iff.mp turned
    exact .head (.turn ended) (inductionHypothesis rest)

/-- `csrrwi x0, mie, 8`, `csrrsi x0, mstatus, 8`, `lui x1, 0x2000`, `addi x2, x0, 1` and
`sw x2, 0(x1)`: the hart asks for its own software interrupt. -/
def askingMachine : EmulatorCreateOptions := { smallMachine with
  image := [0x73, 0x50, 0x44, 0x30, 0x73, 0x60, 0x04, 0x30, 0xb7, 0x00, 0x00, 0x02, 0x13, 0x01, 0x10, 0x00,
    0x23, 0xa0, 0x20, 0x00] }

/-- What the next turn of an interrupted hart leaves. -/
def interruptedWith (hart : Hart) (cause : Bytes8) : Bool :=
  (takeInterruptIfAny (sampleDevicePending hart.registers hart.memory).1).any fun after =>
    decide (after.controlAndStatus Csr.mcause = cause)

theorem askingMachine_turned : ∃ created hart, createEmulator askingMachine (fun _ => 0) = .ok created ∧
    (created.hart askingMachine fun _ => 0).turns 5 = some hart ∧
    interruptedWith hart 0x8000000000000003 = true := by
  have turned : ((createEmulator askingMachine fun _ => 0).toOption.bind fun created =>
      (created.hart askingMachine fun _ => 0).turns 5).any (interruptedWith · 0x8000000000000003) = true := by
    decide +kernel
  obtain ⟨hart, found, holds⟩ := (Option.any_eq_true _ _).mp turned
  obtain ⟨created, returned, ran⟩ := Option.bind_eq_some_iff.mp found
  exact ⟨created, hart, except_toOption_ok returned, ran, holds⟩

/-- After five turns the software interrupt is takeable, and the sixth takes it. -/
theorem interrupts_delivered_software : ∃ created hart after,
    createEmulator askingMachine (fun _ => 0) = .ok created ∧
    (created.hart askingMachine fun _ => 0).turns 5 = some hart ∧
    TurnInterrupted hart.registers hart.memory after ∧ after.controlAndStatus Csr.mcause = 0x8000000000000003 ∧
    InterruptsDelivered hart := by
  obtain ⟨created, hart, returned, turned, interrupted⟩ := askingMachine_turned
  obtain ⟨after, taken, cause⟩ := (Option.any_eq_true _ _).mp interrupted
  exact ⟨created, hart, after, returned, turned, taken, of_decide_eq_true cause,
    interrupts_delivered returned (Hart.turns_run turned)⟩

end YaRiscV.Emulator
