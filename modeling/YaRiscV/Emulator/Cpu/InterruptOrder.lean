import YaRiscV.Library.Selection
import YaRiscV.Emulator.Cpu.TrapPrecision

/-! The choice of an interrupt against the rule of the privileged architecture: causes bound
for M come first, and only causes of one destination are ordered by the list of priorities. -/

namespace YaRiscV.Emulator

open YaRiscV.Library YaRiscV.Utils

variable {registers : Registers} {code : Nat}

/-- The destination of a cause is S. -/
def interruptDelegated (registers : Registers) (code : Nat) : Bool :=
  (registers.controlAndStatus Csr.mideleg).getLsbD code

/-- A cause is pending and enabled, and `mstatus` lets it through at the present privilege. -/
structure InterruptEnabled (registers : Registers) (code : Nat) : Prop where
  pending : (readControlAndStatusRegister registers Csr.mip).getLsbD code = true
  enabled : (registers.controlAndStatus Csr.mie).getLsbD code = true
  supervisor : interruptDelegated registers code = true → registers.privilegeMode ≠ privilegeMachine ∧
    (registers.privilegeMode = privilegeSupervisor → (registers.controlAndStatus Csr.mstatus).getLsbD 1 = true)
  machine : interruptDelegated registers code = false →
    registers.privilegeMode = privilegeMachine → (registers.controlAndStatus Csr.mstatus).getLsbD 3 = true

/-- The trap of a cause, into its destination. -/
def interruptTrap (registers : Registers) (code : Nat) : Registers :=
  if interruptDelegated registers code then enterSupervisorTrap registers (interruptCauseBytes code) 0
  else enterMachineTrap registers (interruptCauseBytes code) 0

/-- The cause that the architecture takes: bound for M if any enabled one is, and within its
destination the first of MEI, MSI, MTI, SEI, SSI, STI. -/
structure ForemostInterrupt (registers : Registers) (code : Nat) : Prop where
  listed : code ∈ interruptPriority
  enabled : InterruptEnabled registers code
  destination : interruptDelegated registers code = true →
    ∀ other ∈ interruptPriority, InterruptEnabled registers other → interruptDelegated registers other = true
  order : ∀ other ∈ interruptPriority, InterruptEnabled registers other →
    interruptDelegated registers other = interruptDelegated registers code →
      interruptPriority.idxOf code ≤ interruptPriority.idxOf other

/-- What the architecture asks of `takeInterruptIfAny` on a register file. -/
structure InterruptLaw (registers : Registers) : Prop where
  entered : (takeInterruptIfAny registers).isSome = true ↔
    ∃ code ∈ interruptPriority, InterruptEnabled registers code
  chosen : ∀ after, takeInterruptIfAny registers = some after →
    ∃ code, ForemostInterrupt registers code ∧ after = interruptTrap registers code

/-- Before each enabled cause bound for S stands one bound for M, if any of these is enabled. -/
def MachineCauseLeads (registers : Registers) : Prop :=
  ∀ code ∈ interruptPriority, InterruptEnabled registers code → interruptDelegated registers code = true →
    (∃ other ∈ interruptPriority, InterruptEnabled registers other ∧ interruptDelegated registers other = false) →
      ∃ other ∈ interruptPriority, InterruptEnabled registers other ∧ interruptDelegated registers other = false ∧
        interruptPriority.idxOf other < interruptPriority.idxOf code

theorem csrBitIsSet_eq (csr : Bytes8) (bit : Nat) : csrBitIsSet csr bit = csr.getLsbD bit := by
  rw [csrBitIsSet, bytesToBigInt_eq, BitVec.getLsbD, Nat.shiftLeft_eq, Nat.one_mul]
  cases set : csr.toNat.testBit bit with
  | true =>
    rw [Nat.and_two_pow, set]
    simp
  | false =>
    rw [Nat.and_two_pow, set]
    simp

theorem mieGlobal_eq (mstatus : Bytes8) : (byte mstatus 0 &&& mstatusByte0Mie != 0) = mstatus.getLsbD 3 := by
  have line (low : BitVec 8) : (low &&& mstatusByte0Mie != 0) = low.getLsbD 3 := by
    revert low
    decide
  rw [line, getLsbD_byte]
  rfl

theorem sieGlobal_eq (mstatus : Bytes8) : (byte mstatus 0 &&& mstatusByte0Sie != 0) = mstatus.getLsbD 1 := by
  have line (low : BitVec 8) : (low &&& mstatusByte0Sie != 0) = low.getLsbD 1 := by
    revert low
    decide
  rw [line, getLsbD_byte]
  rfl

/-- The gates as `selectTakeableInterrupt` sets them up. -/
def interruptGates (registers : Registers) : InterruptGateContext where
  inMachine := compareUnsignedBytes registers.privilegeMode privilegeMachine == 0
  inSupervisor := compareUnsignedBytes registers.privilegeMode privilegeSupervisor == 0
  mieGlobal := byte (readControlAndStatusRegister registers Csr.mstatus) 0 &&& mstatusByte0Mie != 0
  sieGlobal := byte (readControlAndStatusRegister registers Csr.mstatus) 0 &&& mstatusByte0Sie != 0

theorem supervisorInterruptIsGloballyEnabled_iff :
    supervisorInterruptIsGloballyEnabled (interruptGates registers) = true ↔
      registers.privilegeMode ≠ privilegeMachine ∧
        (registers.privilegeMode = privilegeSupervisor → (registers.controlAndStatus Csr.mstatus).getLsbD 1 = true) := by
  have mstatus : readControlAndStatusRegister registers Csr.mstatus = registers.controlAndStatus Csr.mstatus := rfl
  have apart : privilegeMachine ≠ privilegeSupervisor := by decide
  simp only [supervisorInterruptIsGloballyEnabled, interruptGates, mstatus, sieGlobal_eq, beq_iff_eq,
    compareUnsignedBytes_eq_zero]
  by_cases inMachine : registers.privilegeMode = privilegeMachine
  · simp [inMachine]
  · by_cases inSupervisor : registers.privilegeMode = privilegeSupervisor
    · simp [inSupervisor, apart.symm]
    · simp [inMachine, inSupervisor]

theorem machineInterruptIsGloballyEnabled_iff :
    machineInterruptIsGloballyEnabled (interruptGates registers) = true ↔
      (registers.privilegeMode = privilegeMachine → (registers.controlAndStatus Csr.mstatus).getLsbD 3 = true) := by
  have mstatus : readControlAndStatusRegister registers Csr.mstatus = registers.controlAndStatus Csr.mstatus := rfl
  simp only [machineInterruptIsGloballyEnabled, interruptGates, mstatus, mieGlobal_eq, Bool.or_eq_true,
    Bool.not_eq_true', beq_eq_false_iff_ne, ne_eq, compareUnsignedBytes_eq_zero]
  exact Decidable.imp_iff_not_or.symm

/-- The turn of the selection loop for one cause. -/
def interruptAnswer (registers : Registers) (code : Nat) : Option TakeableInterrupt :=
  considerInterrupt (readControlAndStatusRegister registers Csr.mip)
    (readControlAndStatusRegister registers Csr.mie) (readControlAndStatusRegister registers Csr.mideleg)
    (interruptGates registers) code

theorem selectTakeableInterrupt_answers : selectTakeableInterrupt registers =
    interruptPriority.findSome? (interruptAnswer registers) := rfl

/-- A turn answers exactly for an enabled cause, with its destination. -/
theorem interruptAnswer_eq_some {takeable : TakeableInterrupt} : interruptAnswer registers code = some takeable ↔
    InterruptEnabled registers code ∧ takeable = ⟨code, interruptDelegated registers code⟩ := by
  have delegated : csrBitIsSet (readControlAndStatusRegister registers Csr.mideleg) code =
      interruptDelegated registers code := csrBitIsSet_eq _ _
  have enabled : csrBitIsSet (readControlAndStatusRegister registers Csr.mie) code =
      (registers.controlAndStatus Csr.mie).getLsbD code := csrBitIsSet_eq _ _
  rw [interruptAnswer, considerInterrupt, delegated, enabled, csrBitIsSet_eq]
  constructor
  · intro answered
    cases pends : (readControlAndStatusRegister registers Csr.mip).getLsbD code with
    | false =>
      simp only [pends, Bool.not_false, Bool.true_or, if_true, reduceCtorEq] at answered
    | true =>
      cases enables : (registers.controlAndStatus Csr.mie).getLsbD code with
      | false =>
        simp only [enables, Bool.not_false, Bool.or_true, if_true, reduceCtorEq] at answered
      | true =>
        cases bound : interruptDelegated registers code with
        | true =>
          simp only [pends, enables, bound, Bool.not_true, Bool.or_self, Bool.false_eq_true, if_false, if_true] at answered
          split at answered
          · cases answered
          · rename_i gate
            cases answered
            refine ⟨⟨pends, enables, fun _ => ?_, fun other => ?_⟩, rfl⟩
            · exact supervisorInterruptIsGloballyEnabled_iff.mp (by simpa using gate)
            · rw [bound] at other
              cases other
        | false =>
          simp only [pends, enables, bound, Bool.not_true, Bool.or_self, Bool.false_eq_true, if_false] at answered
          split at answered
          · cases answered
          · rename_i gate
            cases answered
            refine ⟨⟨pends, enables, fun other => ?_, fun _ => ?_⟩, rfl⟩
            · rw [bound] at other
              cases other
            · exact machineInterruptIsGloballyEnabled_iff.mp (by simpa using gate)
  · rintro ⟨enabled, rfl⟩
    cases bound : interruptDelegated registers code with
    | true =>
      have gate := supervisorInterruptIsGloballyEnabled_iff.mpr (enabled.supervisor bound)
      simp only [enabled.pending, enabled.enabled, gate, Bool.not_true, Bool.or_self, Bool.false_eq_true, if_false,
        if_true]
    | false =>
      have gate := machineInterruptIsGloballyEnabled_iff.mpr (enabled.machine bound)
      simp only [enabled.pending, enabled.enabled, gate, Bool.not_true, Bool.or_self, Bool.false_eq_true, if_false]

theorem interruptAnswer_isSome : (interruptAnswer registers code).isSome = true ↔ InterruptEnabled registers code := by
  rw [Option.isSome_iff_exists]
  constructor
  · rintro ⟨takeable, answered⟩
    exact (interruptAnswer_eq_some.mp answered).1
  · exact fun enabled => ⟨_, interruptAnswer_eq_some.mpr ⟨enabled, rfl⟩⟩

/-- What the selection returns is the first enabled cause of the list, whatever its destination. -/
theorem selectTakeableInterrupt_some {takeable : TakeableInterrupt}
    (selected : selectTakeableInterrupt registers = some takeable) : ∃ code ∈ interruptPriority,
      InterruptEnabled registers code ∧ takeable = ⟨code, interruptDelegated registers code⟩ ∧
      ∀ other ∈ interruptPriority, InterruptEnabled registers other →
        interruptPriority.idxOf code ≤ interruptPriority.idxOf other := by
  rw [selectTakeableInterrupt_answers] at selected
  obtain ⟨code, listed, answered, first⟩ := findSome?_precedes selected
  obtain ⟨enabled, same⟩ := interruptAnswer_eq_some.mp answered
  exact ⟨code, listed, enabled, same, fun other member live => first other member (interruptAnswer_isSome.mpr live)⟩

theorem selectTakeableInterrupt_isSome : (selectTakeableInterrupt registers).isSome = true ↔
    ∃ code ∈ interruptPriority, InterruptEnabled registers code := by
  rw [selectTakeableInterrupt_answers, List.findSome?_isSome_iff]
  simp only [interruptAnswer_isSome]

theorem takeInterruptIfAny_some (taken : takeInterruptIfAny registers = some after) : ∃ code ∈ interruptPriority,
    InterruptEnabled registers code ∧ after = interruptTrap registers code ∧
      ∀ other ∈ interruptPriority, InterruptEnabled registers other →
        interruptPriority.idxOf code ≤ interruptPriority.idxOf other := by
  have zero : signedNumberToBytes 0 32 = (0 : Bytes8) := by decide
  rw [takeInterruptIfAny, zero] at taken
  obtain ⟨takeable, selected, entered⟩ := Option.map_eq_some_iff.mp taken
  obtain ⟨code, listed, enabled, rfl, first⟩ := selectTakeableInterrupt_some selected
  exact ⟨code, listed, enabled, entered.symm, first⟩

theorem interruptTrap_privilege (registers : Registers) (code : Nat) : (interruptTrap registers code).privilegeMode =
    if interruptDelegated registers code then privilegeSupervisor else privilegeMachine := by
  rw [interruptTrap]
  split
  · exact (enterSupervisorTrap_entry _ _ _).privilegeMode
  · exact (enterMachineTrap_entry _ _ _).privilegeMode

/-- The choice is the architecture's exactly where a cause bound for M leads. -/
theorem takeInterruptIfAny_law_iff : InterruptLaw registers ↔ MachineCauseLeads registers := by
  constructor
  · rintro law code listed enabled delegated ⟨machine, machineListed, machineEnabled, machineBound⟩
    obtain ⟨after, taken⟩ := Option.isSome_iff_exists.mp (law.entered.mpr ⟨code, listed, enabled⟩)
    obtain ⟨first, firstListed, firstEnabled, entered, leads⟩ := takeInterruptIfAny_some taken
    obtain ⟨foremost, chosen, same⟩ := law.chosen after taken
    have foremostBound : interruptDelegated registers foremost = false := by
      by_contra bound
      rw [Bool.not_eq_false] at bound
      rw [chosen.destination bound machine machineListed machineEnabled] at machineBound
      cases machineBound
    have firstBound : interruptDelegated registers first = false := by
      by_contra bound
      rw [Bool.not_eq_false] at bound
      have modes := congrArg Registers.privilegeMode (entered.symm.trans same)
      rw [interruptTrap_privilege, interruptTrap_privilege, bound, foremostBound] at modes
      revert modes
      decide
    refine ⟨first, firstListed, firstEnabled, firstBound, Nat.lt_of_le_of_ne (leads code listed enabled) ?_⟩
    intro level
    rw [(List.idxOf_inj firstListed).mp level, delegated] at firstBound
    cases firstBound
  · intro leads
    constructor
    · rw [takeInterruptIfAny, Option.isSome_map]
      exact selectTakeableInterrupt_isSome
    · intro after taken
      obtain ⟨code, listed, enabled, entered, first⟩ := takeInterruptIfAny_some taken
      refine ⟨code, ⟨listed, enabled, fun delegated other otherListed otherEnabled => ?_,
        fun other otherListed otherEnabled _ => first other otherListed otherEnabled⟩, entered⟩
      by_contra bound
      rw [Bool.not_eq_true] at bound
      obtain ⟨machine, machineListed, machineEnabled, _, before⟩ :=
        leads code listed enabled delegated ⟨other, otherListed, otherEnabled, bound⟩
      exact Nat.not_lt.mpr (first machine machineListed machineEnabled) before

/-- U-mode with SEI delegated and SSI not, both pending and enabled. -/
def partlyDelegatedRegisters : Registers :=
  let registers := writeControlAndStatusRegister createRegisters Csr.mideleg 0x200
  let registers := writeControlAndStatusRegister registers Csr.mie 0x202
  setPrivilegeMode (writeControlAndStatusRegister registers Csr.mip 0x202) privilegeUser

/-- SEI is taken into S while SSI waits for M. -/
theorem partlyDelegated_breaks_law :
    InterruptEnabled partlyDelegatedRegisters causeSupervisorSoftwareInterrupt ∧
      interruptDelegated partlyDelegatedRegisters causeSupervisorSoftwareInterrupt = false ∧
      takeInterruptIfAny partlyDelegatedRegisters =
        some (enterSupervisorTrap partlyDelegatedRegisters (interruptCauseBytes causeSupervisorExternalInterrupt) 0) ∧
      ¬ InterruptLaw partlyDelegatedRegisters := by
  have bound : interruptDelegated partlyDelegatedRegisters causeSupervisorSoftwareInterrupt = false := by decide
  have enabled : InterruptEnabled partlyDelegatedRegisters causeSupervisorSoftwareInterrupt := by
    refine ⟨by decide, by decide, fun delegated => ?_, fun _ => by decide⟩
    rw [bound] at delegated
    cases delegated
  have taken : takeInterruptIfAny partlyDelegatedRegisters =
      some (enterSupervisorTrap partlyDelegatedRegisters (interruptCauseBytes causeSupervisorExternalInterrupt) 0) :=
    rfl
  refine ⟨enabled, bound, taken, fun law => ?_⟩
  obtain ⟨code, foremost, entered⟩ := law.chosen _ taken
  have delegated : interruptDelegated partlyDelegatedRegisters code = true := by
    by_contra machine
    rw [Bool.not_eq_true] at machine
    have modes := congrArg Registers.privilegeMode entered
    rw [(enterSupervisorTrap_entry _ _ _).privilegeMode, interruptTrap_privilege, machine] at modes
    revert modes
    decide
  have waiting := foremost.destination delegated causeSupervisorSoftwareInterrupt (by decide) enabled
  rw [bound] at waiting
  cases waiting

end YaRiscV.Emulator
