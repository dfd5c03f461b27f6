import YaRiscV.Emulator.Cpu.Decode.Encodings
import YaRiscV.Emulator.Cpu.TrapReturn
import YaRiscV.Emulator.Cpu.Retirement

/-! Control flow stays on even addresses: where every jump, trap and return goes, and every
run of the loop from an even reset PC. -/

namespace YaRiscV.Emulator

open Relation YaRiscV.Library YaRiscV.Utils

def EvenAddress (address : Bytes8) : Prop := address.getLsbD 0 = false

instance : DecidablePred EvenAddress := fun _ => inferInstanceAs (Decidable (_ = _))

/-- The offset of a jump or a branch is even. -/
def ExecuteThunk.EvenOffset : ExecuteThunk → Prop
  | .jal args => EvenAddress args.immediate
  | .branch _ args => EvenAddress args.immediate
  | _ => True

/-- The state in which a hart booted at `resetPc` comes to an iteration of its loop. -/
inductive LoopReachable (resetPc : Bytes8) (deviceTreeAddress : Option Bytes8) : Registers → Prop
  | booted : LoopReachable resetPc deviceTreeAddress
      (applyBootHandoff (setProgramCounter createRegisters resetPc) deviceTreeAddress)
  | iterated (reached : LoopReachable resetPc deviceTreeAddress registers)
      (iteration : LoopIteration registers memory execution) (ended : execution.ended? = some after) :
      LoopReachable resetPc deviceTreeAddress after

/-- An even PC in a legal register file. -/
structure AlignedControl (registers : Registers) : Prop where
  invariant : RegisterInvariant registers
  programCounter : EvenAddress registers.programCounter

variable {registers middle after : Registers} {memory memory' : Memory} {thunk : ExecuteThunk}
  {length resetPc : Bytes8} {deviceTreeAddress : Option Bytes8} {execution : Execution}

theorem EvenAddress.add (first : EvenAddress address) (second : EvenAddress offset) :
    EvenAddress (addBytes address offset) := by
  unfold EvenAddress at *
  rw [addBytes_eq, BitVec.getLsbD_add (by decide), first, second]
  simp

/-- The check of `trapIfInstructionAddressMisaligned`. -/
theorem evenAddress_byte (address : Bytes8) : EvenAddress address ↔ byte address 0 &&& 1 = 0 := by
  have lowest (value : BitVec 8) : value.getLsbD 0 = false ↔ value &&& 1 = 0 := by
    revert value
    decide
  rw [← lowest, getLsbD_byte]
  rfl

/-- The low bits of the first byte are cleared. -/
theorem EvenAddress.masked (value : Bytes8) (mask : BitVec 8) (cleared : mask.getLsbD 0 = false) :
    EvenAddress (setByte value 0 (byte value 0 &&& mask)) := by
  rw [EvenAddress, getLsbD_setByte, if_pos (by decide), BitVec.getLsbD_and, cleared]
  simp

/-! The offsets that the decoders build. -/

theorem signedNumberToBytes_even (value : BitVec 32) (width : Nat) (positive : 0 < width) (fits : width ≤ 32)
    (even : value.getLsbD 0 = false) : EvenAddress (signedNumberToBytes value width) := by
  rw [EvenAddress, signedNumberToBytes_eq _ _ positive fits, BitVec.getLsbD_signExtend, BitVec.getLsbD_setWidth, even]
  simp [positive]

theorem decodeBTypeImmediate_even (word : BitVec 32) : EvenAddress (decodeBTypeImmediate word) :=
  signedNumberToBytes_even _ 13 (by decide) (by decide) (by simp)

theorem decodeJTypeImmediate_even (word : BitVec 32) : EvenAddress (decodeJTypeImmediate word) :=
  signedNumberToBytes_even _ 21 (by decide) (by decide) (by simp)

theorem decodeCjOffset_even (halfword : BitVec 32) : EvenAddress (Compressed.decodeCjOffset halfword) :=
  signedNumberToBytes_even _ 12 (by decide) (by decide) (by simp)

theorem decodeCbOffset_even (halfword : BitVec 32) : EvenAddress (Compressed.decodeCbOffset halfword) :=
  signedNumberToBytes_even _ 9 (by decide) (by decide) (by simp)

private theorem decodeBranch_evenOffset (word : BitVec 32) : (decodeBranch word).EvenOffset := by
  have even := decodeBTypeImmediate_even word
  unfold decodeBranch
  dsimp only
  split <;> first | exact even | trivial

private theorem decodeLoad_evenOffset (word : BitVec 32) : (decodeLoad word).EvenOffset := by
  unfold decodeLoad
  dsimp only
  split <;> trivial

private theorem decodeStore_evenOffset (word : BitVec 32) : (decodeStore word).EvenOffset := by
  unfold decodeStore
  dsimp only
  split <;> trivial

private theorem decodeAmo_evenOffset (word : BitVec 32) : (decodeAmo word).EvenOffset := by
  unfold decodeAmo decodeAmoOfWidth
  dsimp only
  repeat' split
  all_goals trivial

private theorem decodeOpImm_evenOffset (word : BitVec 32) : (decodeOpImm word).EvenOffset := by
  unfold decodeOpImm
  dsimp only
  repeat' split
  all_goals trivial

private theorem decodeOp_evenOffset (word : BitVec 32) : (decodeOp word).EvenOffset := by
  unfold decodeOp
  dsimp only
  repeat' split
  all_goals trivial

private theorem decodeOpImm32_evenOffset (word : BitVec 32) : (decodeOpImm32 word).EvenOffset := by
  unfold decodeOpImm32
  dsimp only
  repeat' split
  all_goals trivial

private theorem decodeOp32_evenOffset (word : BitVec 32) : (decodeOp32 word).EvenOffset := by
  unfold decodeOp32
  dsimp only
  repeat' split
  all_goals trivial

private theorem decodeMiscMem_evenOffset (word : BitVec 32) : (decodeMiscMem word).EvenOffset := by
  unfold decodeMiscMem
  split <;> trivial

private theorem decodeSystem_evenOffset (word : BitVec 32) : (decodeSystem word).EvenOffset := by
  unfold decodeSystem withoutOperands
  dsimp only
  repeat' split
  all_goals trivial

theorem decode32_evenOffset (word : BitVec 32) : (decode32 word).EvenOffset := by
  unfold decode32
  dsimp only
  split
  case h_3 => exact decodeJTypeImmediate_even word
  case h_4 => split <;> trivial
  case h_5 => exact decodeBranch_evenOffset word
  case h_6 => exact decodeLoad_evenOffset word
  case h_7 => exact decodeStore_evenOffset word
  case h_8 => exact decodeAmo_evenOffset word
  case h_9 => exact decodeOpImm_evenOffset word
  case h_10 => exact decodeOp_evenOffset word
  case h_11 => exact decodeOpImm32_evenOffset word
  case h_12 => exact decodeOp32_evenOffset word
  case h_13 => exact decodeMiscMem_evenOffset word
  case h_14 => exact decodeSystem_evenOffset word
  all_goals trivial

private theorem decodeQuadrant0_evenOffset (halfword : BitVec 32) :
    (Compressed.decodeQuadrant0 halfword).EvenOffset := by
  unfold Compressed.decodeQuadrant0
  dsimp only
  repeat' split
  all_goals trivial

private theorem decodeQuadrant1Arithmetic_evenOffset (halfword : BitVec 32) :
    (Compressed.decodeQuadrant1Arithmetic halfword).EvenOffset := by
  unfold Compressed.decodeQuadrant1Arithmetic
  dsimp only
  repeat' split
  all_goals trivial

private theorem decodeQuadrant1_evenOffset (halfword : BitVec 32) :
    (Compressed.decodeQuadrant1 halfword).EvenOffset := by
  unfold Compressed.decodeQuadrant1
  dsimp only
  split
  case h_5 => exact decodeQuadrant1Arithmetic_evenOffset halfword
  case h_6 => exact decodeCjOffset_even halfword
  case h_7 => exact decodeCbOffset_even halfword
  case h_8 => exact decodeCbOffset_even halfword
  all_goals
    repeat' split
    all_goals trivial

private theorem decodeQuadrant2_evenOffset (halfword : BitVec 32) :
    (Compressed.decodeQuadrant2 halfword).EvenOffset := by
  unfold Compressed.decodeQuadrant2
  dsimp only
  repeat' split
  all_goals trivial

theorem decodeC_evenOffset (halfword : BitVec 32) : (decodeC halfword).EvenOffset := by
  unfold decodeC
  dsimp only
  split
  · trivial
  split
  · exact decodeQuadrant0_evenOffset _
  · exact decodeQuadrant1_evenOffset _
  · exact decodeQuadrant2_evenOffset _
  · trivial

/-- Both the offset and the width of what `decode` returns are even. -/
theorem decode_even (instructionBytes : Bytes8) :
    (decode instructionBytes).1.EvenOffset ∧ EvenAddress (decode instructionBytes).2 := by
  unfold decode
  dsimp only
  split
  · exact ⟨decodeC_evenOffset _, (by decide : EvenAddress twoBytes)⟩
  · exact ⟨decode32_evenOffset _, (by decide : EvenAddress fourBytes)⟩

/-! Where traps and returns go. -/

theorem trapHandlerProgramCounter_even (xtvec cause : Bytes8) :
    EvenAddress (trapHandlerProgramCounter xtvec cause) := by
  have base : EvenAddress (setByte xtvec 0 (byte xtvec 0 &&& ~~~xtvecModeMask)) := .masked _ _ (by decide)
  simp only [trapHandlerProgramCounter]
  split
  · refine base.add (signedNumberToBytes_even _ 32 (by decide) (by decide) ?_)
    rw [BitVec.getLsbD_ofNat, Nat.testBit_zero]
    simp
    omega
  · exact base

theorem enterTrap_even (registers : Registers) (cause : Nat) (trapValue : Bytes8) :
    EvenAddress (enterTrap registers cause trapValue).programCounter := by
  unfold enterTrap
  dsimp only
  split <;> exact trapHandlerProgramCounter_even _ _

theorem takeInterruptIfAny_even (taken : takeInterruptIfAny registers = some after) :
    EvenAddress after.programCounter := by
  rw [takeInterruptIfAny, Option.map_eq_some_iff] at taken
  obtain ⟨takeable, _, rfl⟩ := taken
  split <;> exact trapHandlerProgramCounter_even _ _

theorem LegalSlots.xepc_even (slots : LegalSlots registers) (saved : index = Csr.mepc ∨ index = Csr.sepc) :
    EvenAddress (registers.controlAndStatus index) := by
  have legal := slots index
  rw [evenAddress_byte]
  rcases saved with rfl | rfl <;> simpa [LegalSlot, isIdentityControlAndStatusRegister] using legal

theorem commitInstructionRetire_programCounter (registers : Registers) :
    (commitInstructionRetire registers).programCounter = registers.programCounter := by
  simp only [commitInstructionRetire, advanceCounter]
  repeat' split
  all_goals rfl

theorem Samples.programCounter (samples : Samples registers after) :
    after.programCounter = registers.programCounter := by
  induction samples with
  | refl => rfl
  | tail _ last ih =>
    obtain ⟨memory, rfl⟩ := last
    exact (sampleDevicePending_sampledFrom _ memory).programCounter.trans ih

/-- Where a jump or a taken branch goes. -/
theorem ExecuteThunk.jumpTarget_even (offset : thunk.EvenOffset) (even : EvenAddress registers.programCounter)
    (jumps : thunk.jumpTarget registers = some target) : EvenAddress target := by
  cases thunk with
  | jal args | branch function args =>
    cases jumps
    exact even.add offset
  | jalr args =>
    cases jumps
    exact .masked _ _ (by decide)
  | _ => cases jumps

/-- An instruction that completes leaves an even PC. -/
theorem Completion.even (completion : Completion thunk registers length after) (aligned : AlignedControl registers)
    (offset : thunk.EvenOffset) (width : EvenAddress length) : EvenAddress after.programCounter := by
  have even := aligned.programCounter
  cases completion with
  | advanced index value =>
    refine EvenAddress.add ?_ width
    rw [writeGeneralPurposeRegister_programCounter]
    exact even
  | jumped jumps index value => exact ExecuteThunk.jumpTarget_even offset even jumps
  | @written index value writes allowed destination =>
    refine EvenAddress.add ?_ width
    rw [writeGeneralPurposeRegister_programCounter, writeControlAndStatusRegister_programCounter]
    exact even
  | machineReturn inMachine returns =>
    have slots := (aligned.invariant.change (.machineReturn inMachine)).slots
    exact slots.xepc_even (.inl rfl)
  | supervisorReturn notUser returns =>
    have slots := (aligned.invariant.change (.supervisorReturn notUser)).slots
    exact slots.xepc_even (.inr rfl)
  | woken waits sampled =>
    rw [sampled.programCounter, retireInstructionNow, commitInstructionRetire_programCounter]
    exact even.add width

/-- While it waits, `wfi` has advanced and samples. -/
theorem execute_waiting_programCounter
    (waits : thunk.execute registers memory length = .waiting after memory' fromLevel) :
    after.programCounter = addBytes registers.programCounter length := by
  have outcome := execute_outcome thunk registers memory length
  rw [waits] at outcome
  cases outcome with
  | waiting same =>
    subst same
    simp only [ExecuteThunk.execute, wfi] at waits
    split at waits
    · cases waits
    obtain ⟨turned, left, sampled, ended | ⟨level, ended⟩⟩ := wfiTurn_samples
      (retireInstructionNow (advanceProgramCounter registers length)) memory
    · rw [ended] at waits
      cases waits
    · rw [ended] at waits
      cases waits
      rw [sampled.programCounter, retireInstructionNow, commitInstructionRetire_programCounter]
      rfl

/-- An instruction that ends or waits leaves an even PC. -/
theorem execute_even (aligned : AlignedControl registers) (offset : thunk.EvenOffset) (width : EvenAddress length)
    (result : (thunk.execute registers memory length).registers? = some after) : EvenAddress after.programCounter := by
  cases executed : thunk.execute registers memory length with
  | completed moved left =>
    rw [executed] at result
    cases result
    exact (execute_completion thunk executed).even aligned offset width
  | trapped moved left =>
    have outcome := execute_outcome thunk registers memory length
    rw [executed] at result outcome
    cases result
    cases outcome with
    | trapped => exact enterTrap_even _ _ _
  | waiting moved left fromLevel =>
    rw [executed] at result
    cases result
    rw [execute_waiting_programCounter executed]
    exact aligned.programCounter.add width
  | threw message =>
    rw [executed] at result
    cases result

theorem Execution.commit_programCounter {execution : Execution} (result : execution.commit.registers? = some after) :
    ∃ before, execution.registers? = some before ∧ after.programCounter = before.programCounter := by
  obtain ⟨before, executed, rfl | rfl⟩ := commit_registers result
  · exact ⟨after, executed, rfl⟩
  · exact ⟨before, executed, commitInstructionRetire_programCounter before⟩

theorem stepInstruction_even (aligned : AlignedControl registers)
    (result : (stepInstruction registers memory).registers? = some after) : EvenAddress after.programCounter := by
  simp only [stepInstruction] at result
  cases fetched : fetchInstruction registers memory with
  | threw message =>
    rw [fetched] at result
    cases result
  | faulted trapped left =>
    rw [fetched] at result
    cases result
    rw [fetchInstruction_faulted fetched]
    exact enterTrap_even _ _ _
  | fetched instructionBytes left =>
    rw [fetched] at result
    obtain ⟨before, executed, same⟩ := Execution.commit_programCounter result
    have started : AlignedControl (beginInstructionRetire registers) :=
      ⟨aligned.invariant.retireFlag true, aligned.programCounter⟩
    obtain ⟨offset, width⟩ := decode_even instructionBytes
    rw [same]
    exact execute_even started offset width executed

/-! Turns of the loop and runs. -/

theorem AlignedControl.sampled (aligned : AlignedControl registers) (memory : Memory) :
    AlignedControl (sampleDevicePending registers memory).1 where
  invariant := aligned.invariant.sampleDevicePending memory
  programCounter := (sampleDevicePending_sampledFrom registers memory).programCounter ▸ aligned.programCounter

/-- An even PC is never misaligned. -/
theorem AlignedControl.unmisaligned (aligned : AlignedControl registers) :
    trapIfInstructionAddressMisaligned registers = none := by
  rw [trapIfInstructionAddressMisaligned, if_pos ((evenAddress_byte _).mp aligned.programCounter)]

theorem RegisterInvariant.reaches (invariant : RegisterInvariant registers)
    (reached : ReflTransGen CpuStep registers after) : RegisterInvariant after :=
  invariant_run RegisterInvariant
    (fun _ _ step holds => invariant_run RegisterInvariant (fun _ _ change holds => holds.change change)
      step.changes holds) reached invariant

/-- One turn of the loop keeps control flow aligned. -/
theorem runLoopTurn_aligned (aligned : AlignedControl registers)
    (result : (runLoopTurn registers memory).registers? = some after) : AlignedControl after := by
  refine ⟨aligned.invariant.reaches (runLoopTurn_reaches result), ?_⟩
  have sampled := aligned.sampled memory
  simp only [runLoopTurn, sampled.unmisaligned] at result
  cases taken : takeInterruptIfAny (sampleDevicePending registers memory).1 with
  | some trapped =>
    rw [taken] at result
    cases result
    exact takeInterruptIfAny_even taken
  | none =>
    rw [taken] at result
    exact stepInstruction_even sampled result

/-- So does a turn of a waiting `wfi`. -/
theorem wfiTurn_aligned (aligned : AlignedControl registers)
    (result : (wfiTurn registers memory).commit.registers? = some after) : AlignedControl after := by
  obtain ⟨before, turned, committed⟩ := commit_registers result
  have resumed : ReflTransGen CpuStep registers before := .single (.resume memory turned)
  have invariant : RegisterInvariant after := by
    rcases committed with rfl | rfl
    · exact aligned.invariant.reaches resumed
    · exact aligned.invariant.reaches (resumed.tail .commitRetire)
  have moved : before.programCounter = registers.programCounter := by
    obtain ⟨reached, left, sampled, ended | ⟨fromLevel, ended⟩⟩ := wfiTurn_samples registers memory <;>
      rw [ended] at turned <;> cases turned <;> exact sampled.programCounter
  obtain ⟨_, executed, same⟩ := Execution.commit_programCounter result
  cases turned.symm.trans executed
  exact ⟨invariant, by rw [same, moved]; exact aligned.programCounter⟩

/-- One iteration, wherever it ends or waits. -/
theorem LoopIteration.aligned (iteration : LoopIteration registers memory execution)
    (aligned : AlignedControl registers) (result : execution.registers? = some after) : AlignedControl after := by
  induction iteration generalizing after with
  | turned => exact runLoopTurn_aligned aligned result
  | resumed waited changed ih => exact wfiTurn_aligned (ih rfl) result

theorem Execution.ended_registers {execution : Execution} (ended : execution.ended? = some after) :
    execution.registers? = some after := by
  cases execution with
  | completed | trapped => exact ended
  | waiting | threw => cases ended

theorem LoopReachable.aligned (even : EvenAddress resetPc)
    (reached : LoopReachable resetPc deviceTreeAddress registers) : AlignedControl registers := by
  induction reached with
  | booted =>
    have started := (RegisterInvariant.created.setProgramCounter resetPc)
    exact ⟨(started.writeGeneralPurposeRegister _ _).writeGeneralPurposeRegister _ _, even⟩
  | iterated _ iteration ended ih => exact iteration.aligned ih (Execution.ended_registers ended)

/-- From an even reset PC the PC is even at the start of every iteration, at its end and while
its `wfi` waits, and no iteration finds it misaligned. -/
theorem loopReachable_even (even : EvenAddress resetPc)
    (reached : LoopReachable resetPc deviceTreeAddress registers) :
    EvenAddress registers.programCounter ∧
      (∀ memory, trapIfInstructionAddressMisaligned (sampleDevicePending registers memory).1 = none) ∧
      ∀ memory execution after, LoopIteration registers memory execution →
        execution.registers? = some after → EvenAddress after.programCounter := by
  have aligned := reached.aligned even
  exact ⟨aligned.programCounter, fun memory => (aligned.sampled memory).unmisaligned,
    fun _ _ _ iteration result => (iteration.aligned aligned result).programCounter⟩

/-- One iteration from the start of RAM. -/
theorem loopReachable_even_turned : ∃ after, LoopReachable 0x80000000 none after ∧
    EvenAddress after.programCounter := by
  have started : LoopReachable 0x80000000 none _ := .booted
  have ended : (runLoopTurn (applyBootHandoff (setProgramCounter createRegisters 0x80000000) none)
    counterMemory).ended? = some _ := rfl
  have reached := started.iterated .turned ended
  exact ⟨_, reached, (loopReachable_even (by decide) reached).1⟩

end YaRiscV.Emulator
