import YaRiscV.Emulator.Machine
import YaRiscV.Emulator.Cpu.RegisterInvariant
import YaRiscV.Library.Transition

/-! Runs of the hart from reset, and what its registers hold in all of them. -/

namespace YaRiscV.Emulator

open Relation YaRiscV.Library YaRiscV.Utils

/-- What moves the registers of a hart: an instruction, a waiting `wfi` that turns again
after the memory changed, a trap, an interrupt, a sample, retirement, and the boot values. -/
inductive CpuStep (registers : Registers) : Registers → Prop
  | execute (thunk : ExecuteThunk) (memory : Memory) (instructionByteLength : Bytes8)
      (result : (thunk.execute registers memory instructionByteLength).registers? = some after) :
      CpuStep registers after
  | resume (memory : Memory) (result : (wfiTurn registers memory).registers? = some after) :
      CpuStep registers after
  | trap (cause : Nat) (trapValue : Bytes8) : CpuStep registers (enterTrap registers cause trapValue)
  | interrupt (taken : takeInterruptIfAny registers = some after) : CpuStep registers after
  | sample (memory : Memory) : CpuStep registers (sampleDevicePending registers memory).1
  | beginRetire : CpuStep registers (beginInstructionRetire registers)
  | commitRetire : CpuStep registers (commitInstructionRetire registers)
  | boot (resetPc : Bytes8) (deviceTreeAddress : Option Bytes8) :
      CpuStep registers (applyBootHandoff (setProgramCounter registers resetPc) deviceTreeAddress)

def CpuReachable (registers : Registers) : Prop :=
  ReflTransGen CpuStep createRegisters registers

variable {registers after : Registers} {memory : Memory}

theorem CpuStep.changes (step : CpuStep registers after) : RegisterChanges registers after := by
  cases step with
  | execute thunk memory length result => exact execute_changes thunk result
  | resume memory result => exact wfiTurn_changes result
  | trap cause trapValue => exact .single (.trap cause trapValue)
  | interrupt taken => exact .single (.interrupt taken)
  | sample memory => exact .single (.sample memory)
  | beginRetire => exact .single (.retire true)
  | commitRetire => exact .single .count
  | boot resetPc deviceTreeAddress =>
    exact ((ReflTransGen.single (.programCounter resetPc)).tail (.generalPurpose _ _)).tail
      (.generalPurpose _ _)

/-- A property that every change keeps holds in every reachable state. -/
theorem CpuReachable.induction (invariant : Registers → Prop)
    (change : ∀ before after, RegisterChange before after → invariant before → invariant after)
    (reachable : CpuReachable registers) (created : invariant createRegisters) : invariant registers :=
  invariant_run invariant
    (fun _ _ step holds => invariant_run invariant change step.changes holds) reachable created

theorem CpuReachable.invariant (reachable : CpuReachable registers) : RegisterInvariant registers :=
  reachable.induction RegisterInvariant (fun _ _ change holds => holds.change change)
    RegisterInvariant.created

theorem commit_registers {execution : Execution} (result : execution.commit.registers? = some after) :
    ∃ before, execution.registers? = some before ∧
      (after = before ∨ after = commitInstructionRetire before) := by
  cases execution with
  | completed registers memory =>
    cases result
    exact ⟨_, rfl, .inr rfl⟩
  | trapped registers memory =>
    cases result
    exact ⟨_, rfl, .inr rfl⟩
  | waiting registers memory fromLevel =>
    cases result
    exact ⟨_, rfl, .inl rfl⟩
  | threw message => cases result

theorem fetchInstruction_faulted (faulted : fetchInstruction registers memory = .faulted after memory') :
    after = enterTrap registers causeInstructionAccessFault registers.programCounter := by
  rw [fetchInstruction] at faulted
  split at faulted
  · cases faulted
  · rename_i instructionBytes _ _
    dsimp only at faulted
    generalize (if (byte instructionBytes 0).setWidth 32 &&& encodingLengthMask = encodingLength32Bit
      then 4 else 2) = length at faulted
    split at faulted
    · cases faulted
      rfl
    split at faulted
    · rename_i unmapped
      simp only [trapIfFetchUnmapped] at unmapped
      split at unmapped
      · cases unmapped
      · cases unmapped
        cases faulted
        rfl
    · cases faulted

theorem stepInstruction_reaches (result : (stepInstruction registers memory).registers? = some after) :
    ReflTransGen CpuStep registers after := by
  simp only [stepInstruction] at result
  split at result
  · cases result
  · rename_i faulted
    cases result
    rw [fetchInstruction_faulted faulted]
    exact .single (.trap _ _)
  · obtain ⟨before, executed, committed⟩ := commit_registers result
    have started : ReflTransGen CpuStep registers before :=
      (ReflTransGen.single .beginRetire).tail (.execute _ _ _ executed)
    rcases committed with rfl | rfl
    · exact started
    · exact started.tail .commitRetire

/-- One turn of the hart's loop is made of such steps. -/
theorem runLoopTurn_reaches (result : (runLoopTurn registers memory).registers? = some after) :
    ReflTransGen CpuStep registers after := by
  have sampled : ReflTransGen CpuStep registers (sampleDevicePending registers memory).1 :=
    .single (.sample memory)
  simp only [runLoopTurn] at result
  split at result
  · rename_i taken
    cases result
    exact sampled.tail (.interrupt taken)
  split at result
  · rename_i misaligned
    simp only [trapIfInstructionAddressMisaligned] at misaligned
    split at misaligned
    · cases misaligned
    · cases misaligned
      cases result
      exact sampled.tail (.trap _ _)
  · exact sampled.trans (stepInstruction_reaches result)

/-- The values the registers may hold. -/
structure LegalRegisters (registers : Registers) : Prop where
  zero : registers.generalPurpose 0 = 0
  privilege : registers.privilegeMode = 0 ∨ registers.privilegeMode = 1 ∨ registers.privilegeMode = 3
  mpp : (registers.controlAndStatus Csr.mstatus).extractLsb' 11 2 ≠ 0b10
  uxl : (registers.controlAndStatus Csr.mstatus).extractLsb' 32 2 = 2
  sxl : (registers.controlAndStatus Csr.mstatus).extractLsb' 34 2 = 2
  misa : registers.controlAndStatus Csr.misa = misaHardwiredBytes
  identity : ∀ index, isIdentityControlAndStatusRegister index = true →
    registers.controlAndStatus index = 0
  xepc : ∀ index, index = Csr.mepc ∨ index = Csr.sepc →
    (registers.controlAndStatus index).extractLsb' 0 1 = 0
  xtvec : ∀ index, index = Csr.mtvec ∨ index = Csr.stvec →
    (registers.controlAndStatus index).extractLsb' 0 2 = 0 ∨
      (registers.controlAndStatus index).extractLsb' 0 2 = 1
  mie : Within (registers.controlAndStatus Csr.mie) 0xaaa
  mip : Within (registers.controlAndStatus Csr.mip) 0xaaa
  mideleg : Within (registers.controlAndStatus Csr.mideleg) 0x222
  medeleg : (registers.controlAndStatus Csr.medeleg).extractLsb' 11 1 = 0
  counteren : ∀ index, index = Csr.mcounteren ∨ index = Csr.scounteren →
    Within (registers.controlAndStatus index) 7
  mcountinhibit : Within (registers.controlAndStatus Csr.mcountinhibit) 5
  menvcfg : Within (registers.controlAndStatus Csr.menvcfg) (1 <<< 63)
  pmpaddr : ∀ entry < pmpEntryCount, readPmpAddress registers entry < 2 ^ 54
  pmpcfg : ∀ entry < pmpEntryCount, LegalPmpCfgByte (configByte registers entry)

theorem LegalSlots.pmpaddr (slots : LegalSlots registers) (entry : Nat) (inside : entry < pmpEntryCount) :
    readPmpAddress registers entry < 2 ^ 54 := by
  have same := slots (Csr.pmpaddr0 + BitVec.ofNat 12 entry)
  rw [readPmpAddress, bytesToBigInt_eq]
  unfold pmpEntryCount at inside
  interval_cases entry <;>
    simpa [LegalSlot, isIdentityControlAndStatusRegister, isPmpCfgRegister, isPmpAddrRegister,
      pmpEntryCount] using same

theorem LegalSlots.pmpcfg (slots : LegalSlots registers) (entry : Nat) :
    LegalPmpCfgByte (configByte registers entry) := by
  have low : ∀ byteIndex < 8, LegalPmpCfgByte (byte (registers.controlAndStatus Csr.pmpcfg0) byteIndex) := by
    simpa [LegalSlot, isIdentityControlAndStatusRegister, isPmpCfgRegister] using slots Csr.pmpcfg0
  have high : ∀ byteIndex < 8, LegalPmpCfgByte (byte (registers.controlAndStatus Csr.pmpcfg2) byteIndex) := by
    simpa [LegalSlot, isIdentityControlAndStatusRegister, isPmpCfgRegister] using slots Csr.pmpcfg2
  have small : entry &&& 7 < 8 := Nat.lt_of_le_of_lt Nat.and_le_right (by decide)
  rw [configByte]
  split
  · exact low _ small
  · exact high _ small

theorem extract_byte (value : Bytes8) (index start count : Nat) (inside : start + count ≤ 8) :
    value.extractLsb' (8 * index + start) count = (byte value index).extractLsb' start count := by
  apply BitVec.eq_of_getLsbD_eq
  intro position below
  have small : start + position < 8 := by omega
  simp only [BitVec.getLsbD_extractLsb', below, getLsbD_byte, small, decide_true, Bool.true_and, Nat.add_assoc]

theorem RegisterInvariant.legal (invariant : RegisterInvariant registers) : LegalRegisters registers := by
  have slots := invariant.slots
  have mstatus : LegalMstatus (registers.controlAndStatus Csr.mstatus) := slots Csr.mstatus
  constructor
  case zero => exact invariant.zero
  case privilege => exact invariant.privilege
  case mpp =>
    have legal (value : BitVec 8) : value &&& mstatusByte1MppMask ≠ mstatusByte1MppReserved →
        value.extractLsb' 3 2 ≠ 0b10 := by
      revert value
      decide
    rw [extract_byte _ 1 3 2 (by decide)]
    exact legal _ mstatus.1
  case uxl =>
    have legal (value : BitVec 8) : value &&& mstatusByte4UxlSxlMask = mstatusByte4UxlSxl64 →
        value.extractLsb' 0 2 = 2 := by
      revert value
      decide
    rw [extract_byte _ 4 0 2 (by decide)]
    exact legal _ mstatus.2
  case sxl =>
    have legal (value : BitVec 8) : value &&& mstatusByte4UxlSxlMask = mstatusByte4UxlSxl64 →
        value.extractLsb' 2 2 = 2 := by
      revert value
      decide
    rw [extract_byte _ 4 2 2 (by decide)]
    exact legal _ mstatus.2
  case misa => exact slots Csr.misa
  case identity =>
    intro index identity
    simp only [isIdentityControlAndStatusRegister, Bool.or_eq_true, beq_iff_eq] at identity
    have same := slots index
    rcases identity with ((rfl | rfl) | rfl) | rfl <;>
      simpa [LegalSlot, isIdentityControlAndStatusRegister] using same
  case xepc =>
    intro index xepc
    have legal (value : BitVec 8) : value &&& 1 = 0 → value.extractLsb' 0 1 = 0 := by
      revert value
      decide
    rw [extract_byte _ 0 0 1 (by decide)]
    apply legal
    have same := slots index
    rcases xepc with rfl | rfl <;> simpa [LegalSlot, isIdentityControlAndStatusRegister] using same
  case xtvec =>
    intro index xtvec
    have legal (value : BitVec 8) : value &&& xtvecModeMask = 0 ∨ value &&& xtvecModeMask = xtvecModeVectored →
        value.extractLsb' 0 2 = 0 ∨ value.extractLsb' 0 2 = 1 := by
      revert value
      decide
    rw [extract_byte _ 0 0 2 (by decide)]
    apply legal
    have same := slots index
    rcases xtvec with rfl | rfl <;>
      simpa [LegalSlot, isIdentityControlAndStatusRegister, LegalXtvec] using same
  case mie => exact slots.mie
  case mip => exact slots.mip
  case mideleg =>
    have within : Within (registers.controlAndStatus Csr.mideleg) midelegMaskBytes := by
      simpa [LegalSlot, isIdentityControlAndStatusRegister] using slots Csr.mideleg
    exact within
  case medeleg =>
    have legal (value : BitVec 8) : value &&& medelegByte1EcallFromM = 0 → value.extractLsb' 3 1 = 0 := by
      revert value
      decide
    rw [extract_byte _ 1 3 1 (by decide)]
    apply legal
    simpa [LegalSlot, isIdentityControlAndStatusRegister] using slots Csr.medeleg
  case counteren =>
    intro index counteren
    have same := slots index
    have within : Within (registers.controlAndStatus index) counterenMaskBytes := by
      rcases counteren with rfl | rfl <;>
        simpa [LegalSlot, isIdentityControlAndStatusRegister] using same
    exact within
  case mcountinhibit =>
    have within : Within (registers.controlAndStatus Csr.mcountinhibit) mcountinhibitMaskBytes := by
      simpa [LegalSlot, isIdentityControlAndStatusRegister] using slots Csr.mcountinhibit
    exact within
  case menvcfg =>
    have within : Within (registers.controlAndStatus Csr.menvcfg) menvcfgWritableMaskBytes := by
      simpa [LegalSlot, isIdentityControlAndStatusRegister] using slots Csr.menvcfg
    exact within
  case pmpaddr => exact slots.pmpaddr
  case pmpcfg => exact fun entry _ => slots.pmpcfg entry

/-- The register file stays legal in every run from reset. -/
theorem cpuReachable_legal (reachable : CpuReachable registers) : LegalRegisters registers :=
  reachable.invariant.legal

/-- Instructions one after another, whose effects on memory are left aside. -/
def executeAll (thunks : List ExecuteThunk) (registers : Registers) : Option Registers :=
  thunks.foldlM (fun registers thunk => (thunk.execute registers defaultMemory 4).registers?) registers

theorem executeAll_reaches (executed : executeAll thunks registers = some after) :
    ReflTransGen CpuStep registers after := by
  induction thunks generalizing registers with
  | nil =>
    cases executed
    exact .refl
  | cons thunk thunks inductionHypothesis =>
    obtain ⟨middle, first, rest⟩ := Option.bind_eq_some_iff.mp executed
    exact .head (.execute thunk defaultMemory 4 first) (inductionHypothesis rest)

/-- `addi x1, x0, -1`, and all its bits to one CSR after another. -/
def writeOnes (indices : List (BitVec 12)) : List ExecuteThunk :=
  .opImm .addi ⟨1, 0, -1⟩ :: indices.map fun index => .csrRegister .csrrw ⟨0, 1, index, 0⟩

/-- The CSRs with fields that do not hold what is written to them. -/
def legalizedCsrs : List (BitVec 12) :=
  [Csr.mstatus, Csr.mepc, Csr.mtvec, Csr.mie, Csr.mip, Csr.mideleg, Csr.medeleg, Csr.mcounteren, Csr.mcountinhibit,
    Csr.menvcfg, Csr.pmpaddr0, Csr.pmpcfg0]

theorem cpuReachable_legal_onesWritten : ∃ after, executeAll (writeOnes legalizedCsrs) createRegisters = some after ∧
    after.controlAndStatus Csr.mie = 0xaaa ∧ after.controlAndStatus Csr.mideleg = 0x222 ∧
    after.controlAndStatus Csr.mepc = -2 ∧ LegalRegisters after := by
  have shown : (executeAll (writeOnes legalizedCsrs) createRegisters).any (fun after =>
      decide (after.controlAndStatus Csr.mie = 0xaaa ∧ after.controlAndStatus Csr.mideleg = 0x222 ∧
        after.controlAndStatus Csr.mepc = -2)) = true := by decide +kernel
  obtain ⟨after, executed, holds⟩ := (Option.any_eq_true _ _).mp shown
  obtain ⟨enabled, delegated, returns⟩ := of_decide_eq_true holds
  exact ⟨after, executed, enabled, delegated, returns, cpuReachable_legal (executeAll_reaches executed)⟩

end YaRiscV.Emulator
