import YaRiscV.Emulator.Cpu.Completion
import YaRiscV.Emulator.Cpu.InstructionEffect
import YaRiscV.Emulator.Cpu.TrapPrecision
import YaRiscV.Emulator.Cpu.Reachable
import YaRiscV.Emulator.Machine

/-! The retirement counters over runs of the hart's loop: what one iteration adds, what a run
adds, and what is read after a write. -/

namespace YaRiscV.Emulator

open Relation YaRiscV.Library YaRiscV.Utils

/-- The instruction a turn of the loop executes, if it comes to execute one. -/
def turnInstruction (registers : Registers) (memory : Memory) : Option ExecuteThunk :=
  let (registers, memory) := sampleDevicePending registers memory
  match takeInterruptIfAny registers, trapIfInstructionAddressMisaligned registers,
      fetchInstruction registers memory with
  | none, none, .fetched instructionBytes _ => some (decode instructionBytes).1
  | _, _, _ => none

/-- One iteration of the loop: a turn, then the turns of its `wfi` after the memory changed. -/
inductive LoopIteration (registers : Registers) (memory : Memory) : Execution → Prop
  | turned : LoopIteration registers memory (runLoopTurn registers memory)
  | resumed (waited : LoopIteration registers memory (.waiting middle held fromLevel)) (changed : Memory) :
      LoopIteration registers memory (wfiTurn middle changed).commit

/-- The iterations that count: those whose instruction completed or is `ecall` or `ebreak`. A
waiting `wfi` counts already. -/
def retirements (executed : Option ExecuteThunk) : Execution → Nat
  | .completed _ _ => 1
  | .trapped _ _ => if (executed.map ExecuteThunk.retiresBeforeTrap).getD false then 1 else 0
  | .waiting _ _ _ => 1
  | .threw _ => 0

def countedRegisters : List (BitVec 12) := [Csr.mcycle, Csr.minstret, Csr.mcountinhibit]

/-- The instruction, if it completed, wrote neither counter nor `mcountinhibit`. -/
def CountersUnwritten (registers : Registers) (executed : Option ExecuteThunk) : Execution → Prop
  | .completed _ _ => ∀ thunk index value, executed = some thunk →
      thunk.controlWrite registers = some (index, value) → index ∉ countedRegisters
  | _ => True

/-- How an iteration ends, unless it still waits. -/
def Execution.ended? : Execution → Option Registers
  | .completed registers _ => some registers
  | .trapped registers _ => some registers
  | _ => none

/-- A run of whole iterations without a write to the counters, with the number of them that
count. Any memory may be there when an iteration starts. -/
inductive LoopRun (before : Registers) : Nat → Registers → Prop
  | refl : LoopRun before 0 before
  | tail (run : LoopRun before count middle) (iteration : LoopIteration middle memory execution)
      (ended : execution.ended? = some after)
      (unwritten : CountersUnwritten middle (turnInstruction middle memory) execution) :
      LoopRun before (count + retirements (turnInstruction middle memory) execution) after

/-- A counter after `count` retirements, unless `mcountinhibit` holds it. -/
def countedUp (registers : Registers) (counter : BitVec 12) (enableBit : BitVec 8) (count : Nat) : Bytes8 :=
  if byte (registers.controlAndStatus Csr.mcountinhibit) 0 &&& enableBit = 0 then
    registers.controlAndStatus counter + BitVec.ofNat 64 count
  else registers.controlAndStatus counter

/-- Both counters have counted `count` retirements. -/
structure Counted (count : Nat) (before after : Registers) : Prop where
  mcycle : after.controlAndStatus Csr.mcycle = countedUp before Csr.mcycle counterenByte0Cy count
  minstret : after.controlAndStatus Csr.minstret = countedUp before Csr.minstret counterenByte0Ir count
  mcountinhibit : SlotKept Csr.mcountinhibit before after

/-- The slots that matter to counting are the same. -/
def CountersKept (before after : Registers) : Prop := ∀ index ∈ countedRegisters, SlotKept index before after

/-- The counter a CSR shows. -/
def shownCounter (index : BitVec 12) : BitVec 12 :=
  if index = Csr.cycle then Csr.mcycle else if index = Csr.instret then Csr.minstret else index

/-- The write that the instruction of a turn makes. -/
def turnWrite (registers : Registers) (memory : Memory) : Option (BitVec 12 × Bytes8) :=
  (turnInstruction registers memory).bind (·.controlWrite (sampleDevicePending registers memory).1)

/-- A turn completes a CSR instruction that writes `value` to `counter`, and the next turn that
retires an instruction completes one that reads `shown` from that counter. -/
inductive CounterReadBack (counter : BitVec 12) (registers : Registers) (memory : Memory) (value : Bytes8) :
    Bytes8 → Prop
  | readBack (writes : turnWrite registers memory = some (counter, value))
      (wrote : runLoopTurn registers memory = .completed written memory') (quiet : LoopRun written 0 middle)
      (reads : (turnInstruction middle left).bind ExecuteThunk.controlRead = some (index, destination))
      (same : shownCounter index = counter) (kept : destination ≠ 0)
      (read : runLoopTurn middle left = .completed after final) :
      CounterReadBack counter registers memory value (readGeneralPurposeRegister after destination)

/-- The counters that count, and their bits of `mcountinhibit`. -/
def counterBits : List (BitVec 12 × BitVec 8) :=
  [(Csr.mcycle, counterenByte0Cy), (Csr.minstret, counterenByte0Ir)]

variable {registers before middle after : Registers} {memory memory' : Memory} {thunk : ExecuteThunk}
  {execution : Execution} {count : Nat}

theorem countedUp_zero (registers : Registers) (counter : BitVec 12) (enableBit : BitVec 8) :
    countedUp registers counter enableBit 0 = registers.controlAndStatus counter := by
  rw [countedUp]
  split
  · exact BitVec.add_zero _
  · rfl

namespace Counted

theorem of_kept (kept : CountersKept before after) : Counted 0 before after where
  mcycle := (kept Csr.mcycle (by decide)).trans (countedUp_zero _ _ _).symm
  minstret := (kept Csr.minstret (by decide)).trans (countedUp_zero _ _ _).symm
  mcountinhibit := kept Csr.mcountinhibit (by decide)

private theorem countedUp_trans {counter : BitVec 12} {enableBit : BitVec 8}
    (inhibit : SlotKept Csr.mcountinhibit before middle)
    (first : middle.controlAndStatus counter = countedUp before counter enableBit count) (more : Nat) :
    countedUp middle counter enableBit more = countedUp before counter enableBit (count + more) := by
  have same : middle.controlAndStatus Csr.mcountinhibit = before.controlAndStatus Csr.mcountinhibit := inhibit
  rw [countedUp, same, first, countedUp, countedUp]
  split
  · rw [BitVec.ofNat_add, BitVec.add_assoc]
  · rfl

theorem trans (first : Counted count before middle) (second : Counted more middle after) :
    Counted (count + more) before after where
  mcycle := second.mcycle.trans (countedUp_trans first.mcountinhibit first.mcycle more)
  minstret := second.minstret.trans (countedUp_trans first.mcountinhibit first.minstret more)
  mcountinhibit := Eq.trans second.mcountinhibit first.mcountinhibit

theorem after_kept (kept : CountersKept before middle) (counted : Counted count middle after) :
    Counted count before after := by
  have both := (of_kept kept).trans counted
  rwa [Nat.zero_add] at both

theorem advanceCounter_slot (registers : Registers) (inhibit enableBit : BitVec 8) (counter other : BitVec 12) :
    (advanceCounter registers inhibit enableBit counter).controlAndStatus other =
      if other = counter ∧ inhibit &&& enableBit = 0 then registers.controlAndStatus counter + 1
      else registers.controlAndStatus other := by
  have one : registerOneBytes = 1 := by decide
  rw [advanceCounter]
  by_cases enabled : inhibit &&& enableBit = 0
  · rw [if_pos enabled, setSlot_controlAndStatus, addBytes_eq, one]
    simp only [enabled, and_true]
  · rw [if_neg enabled, if_neg fun both => enabled both.2]

/-- A pending retirement counts one. -/
theorem commit (pending : registers.retireInstruction = true) :
    Counted 1 registers (commitInstructionRetire registers) := by
  have one : BitVec.ofNat 64 1 = 1 := rfl
  have committed : commitInstructionRetire registers = advanceCounter
      (advanceCounter (cancelInstructionRetire registers)
        (byte (registers.controlAndStatus Csr.mcountinhibit) 0) counterenByte0Cy Csr.mcycle)
      (byte (registers.controlAndStatus Csr.mcountinhibit) 0) counterenByte0Ir Csr.minstret := by
    rw [commitInstructionRetire, pending]
    rfl
  have cancelled : (cancelInstructionRetire registers).controlAndStatus = registers.controlAndStatus := rfl
  rw [committed]
  constructor
  · rw [advanceCounter_slot, if_neg fun both => absurd both.1 (by decide), advanceCounter_slot, cancelled, countedUp,
      one]
    simp only [true_and]
  · have apart : Csr.minstret ≠ Csr.mcycle := by decide
    rw [advanceCounter_slot, advanceCounter_slot, cancelled, countedUp, one]
    simp only [apart, false_and, if_false, true_and]
  · rw [SlotKept, advanceCounter_slot, if_neg fun both => absurd both.1 (by decide), advanceCounter_slot,
      if_neg fun both => absurd both.1 (by decide), cancelled]

theorem commit_settled (settled : registers.retireInstruction = false) :
    commitInstructionRetire registers = registers := by
  rw [commitInstructionRetire, settled]
  rfl

/-- Marking an instruction to retire changes no counter. -/
theorem ofBegun (counted : Counted count (beginInstructionRetire before) after) : Counted count before after :=
  ⟨counted.mcycle, counted.minstret, counted.mcountinhibit⟩

theorem retireInstructionNow (registers : Registers) : Counted 1 registers (retireInstructionNow registers) := by
  have begun : (beginInstructionRetire registers).retireInstruction = true := rfl
  exact (commit begun).ofBegun

end Counted

/-! What keeps the counters and the pending retirement. -/

/-- The counters and the pending retirement are as they were. -/
structure RetirementKept (before after : Registers) : Prop where
  counters : CountersKept before after
  pending : after.retireInstruction = before.retireInstruction

namespace RetirementKept

theorem trans (first : RetirementKept before middle) (second : RetirementKept middle after) :
    RetirementKept before after :=
  ⟨fun index counted => (second.counters index counted).trans (first.counters index counted),
    second.pending.trans first.pending⟩

theorem generalPurpose (registers : Registers) (index : BitVec 5) (value : Bytes8) :
    RetirementKept registers (writeGeneralPurposeRegister registers index value) := by
  rw [writeGeneralPurposeRegister]
  split <;> exact ⟨fun _ _ => rfl, rfl⟩

theorem programCounter (registers : Registers) (value : Bytes8) :
    RetirementKept registers (setProgramCounter registers value) := ⟨fun _ _ => rfl, rfl⟩

/-- A write to another CSR. -/
theorem write (value : Bytes8) (other : index ∉ countedRegisters) :
    RetirementKept registers (writeControlAndStatusRegister registers index value) := by
  obtain ⟨file, same⟩ : SlotsOnly registers _ := writeControlAndStatusRegister_slotsOnly index value
  refine ⟨fun counter counted => writeControlAndStatusRegister_slotKept value fun written => ?_, by rw [same]⟩
  rw [writtenSlots] at written
  split at written
  · rw [List.mem_singleton.mp written] at counted
    exact absurd counted (by decide)
  split at written
  · rw [List.mem_singleton.mp written] at counted
    exact absurd counted (by decide)
  split at written
  · rw [List.mem_singleton.mp written] at counted
    exact absurd counted (by decide)
  split at written
  · rcases List.mem_pair.mp written with rfl | rfl <;> exact absurd counted (by decide)
  · rw [List.mem_singleton.mp written] at counted
    exact other counted

theorem sample (registers : Registers) (memory : Memory) :
    RetirementKept registers (sampleDevicePending registers memory).1 := by
  refine ⟨fun index counted => (sampleDevicePending_sampledFrom registers memory).slots index fun same => ?_, ?_⟩
  · rw [same] at counted
    exact absurd counted (by decide)
  · simp only [sampleDevicePending, setSupervisorTimerInterruptPending, publishSupervisorTimerCompare]
    repeat' split
    all_goals rfl

theorem samples (sampled : Samples before after) : RetirementKept before after := by
  induction sampled with
  | refl => exact ⟨fun _ _ => rfl, rfl⟩
  | tail _ step ih =>
    obtain ⟨memory, rfl⟩ := step
    exact ih.trans (sample _ memory)

theorem machineReturn (registers : Registers) : RetirementKept registers (returnFromMachineTrap registers) :=
  ⟨fun index counted => .setSlot fun same => absurd (same ▸ counted) (by decide), rfl⟩

theorem supervisorReturn (registers : Registers) : RetirementKept registers (returnFromSupervisorTrap registers) :=
  ⟨fun index counted => .setSlot fun same => absurd (same ▸ counted) (by decide), rfl⟩

end RetirementKept

theorem enterMachineTrap_pending (registers : Registers) (cause trapValue : Bytes8) :
    (enterMachineTrap registers cause trapValue).retireInstruction = registers.retireInstruction := by
  obtain ⟨status, programCounter, same⟩ := enterMachineTrap_writes registers cause trapValue
  simp only [same, trapWrites, writeControlAndStatusRegister_pending]

theorem enterSupervisorTrap_pending (registers : Registers) (cause trapValue : Bytes8) :
    (enterSupervisorTrap registers cause trapValue).retireInstruction = registers.retireInstruction := by
  obtain ⟨status, programCounter, same⟩ := enterSupervisorTrap_writes registers cause trapValue
  simp only [same, trapWrites, writeControlAndStatusRegister_pending]

/-- A trap adds nothing and ends the pending retirement. -/
theorem enterTrap_uncounted (registers : Registers) (cause : Nat) (trapValue : Bytes8) :
    CountersKept registers (enterTrap registers cause trapValue) ∧
      (enterTrap registers cause trapValue).retireInstruction = false := by
  have entry := enterTrap_entry registers cause trapValue
  refine ⟨fun index counted => entry.slots index fun written => ?_, ?_⟩
  · simp only [countedRegisters, List.mem_cons, List.not_mem_nil, or_false] at counted
    rw [trapSlots] at written
    rcases counted with rfl | rfl | rfl <;> split at written <;> exact absurd written (by decide)
  · rw [enterTrap]
    split
    · exact enterSupervisorTrap_pending _ _ _
    · exact enterMachineTrap_pending _ _ _

theorem commit_notPending (registers : Registers) : (commitInstructionRetire registers).retireInstruction = false := by
  rw [commitInstructionRetire]
  cases pending : registers.retireInstruction with
  | false => exact pending
  | true =>
    simp only [Bool.not_true, Bool.false_eq_true, if_false, advanceCounter]
    split <;> split <;> rfl

/-! One instruction. -/

theorem RetirementKept.counted (kept : RetirementKept before after) (pending : before.retireInstruction = true) :
    Counted 1 before (commitInstructionRetire after) :=
  (Counted.of_kept kept.counters).trans (.commit (kept.pending.trans pending))

/-- `wfi` retires before it waits, and its later commit is a no-op. -/
theorem Samples.counted (sampled : Samples (retireInstructionNow (advanceProgramCounter registers length)) after) :
    Counted 1 registers after ∧ after.retireInstruction = false := by
  have kept := RetirementKept.samples sampled
  have retired : Counted 1 registers (retireInstructionNow (advanceProgramCounter registers length)) :=
    (Counted.of_kept (RetirementKept.programCounter registers _).counters).trans (.retireInstructionNow _)
  exact ⟨retired.trans (.of_kept kept.counters), kept.pending.trans (commit_notPending _)⟩

theorem Completion.counted (completion : Completion thunk registers length after)
    (pending : registers.retireInstruction = true)
    (unwritten : ∀ index value, thunk.controlWrite registers = some (index, value) → index ∉ countedRegisters) :
    Counted 1 registers (commitInstructionRetire after) := by
  cases completion with
  | advanced index value =>
    exact ((RetirementKept.generalPurpose _ _ _).trans (.programCounter _ _)).counted pending
  | jumped jumps index value =>
    exact ((RetirementKept.generalPurpose _ _ _).trans (.programCounter _ _)).counted pending
  | written writes allowed destination =>
    exact (((RetirementKept.write _ (unwritten _ _ writes)).trans (.generalPurpose _ _ _)).trans
      (.programCounter _ _)).counted pending
  | machineReturn inMachine returns => exact (RetirementKept.machineReturn registers).counted pending
  | supervisorReturn notUser returns => exact (RetirementKept.supervisorReturn registers).counted pending
  | woken waits sampled =>
    obtain ⟨counted, settled⟩ := sampled.counted
    rwa [Counted.commit_settled settled]

/-- What one instruction has added when it ended or waits. -/
def StepCounted (executed : Option ExecuteThunk) (registers : Registers) : Execution → Prop
  | .completed after _ => Counted 1 registers after
  | .trapped after memory => Counted (retirements executed (.trapped after memory)) registers after
  | .waiting after _ _ => Counted 1 registers after ∧ after.retireInstruction = false
  | .threw _ => True

/-- A trap of an instruction adds nothing but for `ecall` and `ebreak`. -/
theorem enterTrap_counted (started : base = if thunk.retiresBeforeTrap then retireInstructionNow registers else registers)
    (cause : Nat) (trapValue : Bytes8) :
    Counted (if thunk.retiresBeforeTrap then 1 else 0) registers
      (commitInstructionRetire (enterTrap base cause trapValue)) := by
  obtain ⟨kept, settled⟩ := enterTrap_uncounted base cause trapValue
  rw [Counted.commit_settled settled, started]
  rw [started] at kept
  cases retires : thunk.retiresBeforeTrap with
  | true =>
    rw [retires] at kept
    exact (Counted.retireInstructionNow registers).trans (.of_kept kept)
  | false =>
    rw [retires] at kept
    exact .of_kept kept

theorem execute_counted (thunk : ExecuteThunk) (registers : Registers) (memory : Memory) (length : Bytes8)
    (unwritten : CountersUnwritten registers (some thunk)
      (thunk.execute (beginInstructionRetire registers) memory length)) :
    StepCounted (some thunk) registers (thunk.execute (beginInstructionRetire registers) memory length).commit := by
  have outcome := execute_outcome thunk (beginInstructionRetire registers) memory length
  cases result : thunk.execute (beginInstructionRetire registers) memory length with
  | completed after memory' =>
    rw [result] at unwritten
    have completion := execute_completion thunk result
    exact (completion.counted rfl fun index value writes => unwritten thunk index value rfl writes).ofBegun
  | trapped after memory' =>
    rw [result] at outcome
    cases outcome with
    | trapped started exception trapValue untouched => exact (enterTrap_counted started _ trapValue).ofBegun
  | waiting after memory' fromLevel =>
    rw [result] at outcome
    cases outcome with
    | waiting waits sampled => exact ⟨sampled.counted.1.ofBegun, sampled.counted.2⟩
  | threw message => trivial

theorem wfiTurn_counted (counted : Counted 1 registers middle) (settled : middle.retireInstruction = false)
    (memory : Memory) : StepCounted executed registers (wfiTurn middle memory).commit := by
  obtain ⟨after, left, sampled, ended | ⟨fromLevel, ended⟩⟩ := wfiTurn_samples middle memory
  · have kept := RetirementKept.samples sampled
    have same := Counted.commit_settled (kept.pending.trans settled)
    rw [ended, Execution.commit, same]
    exact counted.trans (.of_kept kept.counters)
  · have kept := RetirementKept.samples sampled
    rw [ended]
    exact ⟨counted.trans (.of_kept kept.counters), kept.pending.trans settled⟩

/-! One iteration, and runs of them. -/

/-- Which CSR is written does not depend on the registers. -/
theorem controlWrite_index (writes : thunk.controlWrite registers = some (index, value)) (other : Registers) :
    ∃ value, thunk.controlWrite other = some (index, value) := by
  cases thunk with
  | csrRegister function args =>
    simp only [ExecuteThunk.controlWrite] at writes ⊢
    split at writes
    · rename_i written
      cases writes
      exact ⟨_, if_pos written⟩
    · cases writes
  | csrImmediate function args =>
    simp only [ExecuteThunk.controlWrite] at writes ⊢
    split at writes
    · rename_i written
      cases writes
      exact ⟨_, if_pos written⟩
    · cases writes
  | _ => cases writes

theorem CountersUnwritten.of (unwritten : CountersUnwritten before (some thunk) execution.commit)
    (registers : Registers) : CountersUnwritten registers (some thunk) execution := by
  cases execution with
  | completed after memory =>
    intro thunk' index value same writes
    obtain ⟨value', writes'⟩ := controlWrite_index writes before
    exact unwritten thunk' index value' same writes'
  | _ => trivial

theorem StepCounted.trans (kept : CountersKept before middle) (counted : StepCounted executed middle execution) :
    StepCounted executed before execution := by
  cases execution with
  | completed after memory => exact Counted.after_kept kept counted
  | trapped after memory => exact Counted.after_kept kept counted
  | waiting after memory fromLevel => exact ⟨Counted.after_kept kept counted.1, counted.2⟩
  | threw message => trivial

theorem interrupt_uncounted (taken : takeInterruptIfAny registers = some after) : CountersKept registers after := by
  rw [takeInterruptIfAny] at taken
  obtain ⟨takeable, _, rfl⟩ := Option.map_eq_some_iff.mp taken
  intro index counted
  simp only [countedRegisters, List.mem_cons, List.not_mem_nil, or_false] at counted
  split
  · have entry := enterSupervisorTrap_entry registers (interruptCauseBytes takeable.code) (signedNumberToBytes 0 32)
    refine entry.slots index ?_
    rcases counted with rfl | rfl | rfl <;> decide
  · have entry := enterMachineTrap_entry registers (interruptCauseBytes takeable.code) (signedNumberToBytes 0 32)
    refine entry.slots index ?_
    rcases counted with rfl | rfl | rfl <;> decide

theorem runLoopTurn_counted
    (unwritten : CountersUnwritten registers (turnInstruction registers memory) (runLoopTurn registers memory)) :
    StepCounted (turnInstruction registers memory) registers (runLoopTurn registers memory) := by
  have kept := (RetirementKept.sample registers memory).counters
  refine StepCounted.trans kept ?_
  simp only [runLoopTurn, turnInstruction] at unwritten ⊢
  generalize sampleDevicePending registers memory = sampled at unwritten ⊢
  cases taken : takeInterruptIfAny sampled.1 with
  | some after => exact .of_kept (interrupt_uncounted taken)
  | none =>
    cases misaligned : trapIfInstructionAddressMisaligned sampled.1 with
    | some after =>
      simp only [trapIfInstructionAddressMisaligned] at misaligned
      split at misaligned
      · cases misaligned
      · cases misaligned
        exact .of_kept (enterTrap_uncounted _ _ _).1
    | none =>
      simp only [taken, misaligned, stepInstruction] at unwritten ⊢
      cases fetched : fetchInstruction sampled.1 sampled.2 with
      | fetched instructionBytes memory' =>
        rw [fetched] at unwritten
        exact execute_counted _ sampled.1 memory' _ (unwritten.of sampled.1)
      | faulted after memory' =>
        rw [fetchInstruction_faulted fetched]
        exact .of_kept (enterTrap_uncounted _ _ _).1
      | threw message => trivial

/-- One iteration adds its retirement, however often its `wfi` waits. -/
theorem LoopIteration.counted (iteration : LoopIteration registers memory execution)
    (unwritten : CountersUnwritten registers (turnInstruction registers memory) execution) :
    StepCounted (turnInstruction registers memory) registers execution := by
  induction iteration with
  | turned => exact runLoopTurn_counted unwritten
  | resumed waited changed ih =>
    obtain ⟨counted, settled⟩ := ih trivial
    exact wfiTurn_counted counted settled changed

theorem LoopIteration.counted_ended (iteration : LoopIteration registers memory execution)
    (unwritten : CountersUnwritten registers (turnInstruction registers memory) execution)
    (ended : execution.ended? = some after) :
    Counted (retirements (turnInstruction registers memory) execution) registers after := by
  have counted := iteration.counted unwritten
  cases execution with
  | completed registers memory =>
    cases ended
    exact counted
  | trapped registers memory =>
    cases ended
    exact counted
  | waiting registers memory fromLevel => cases ended
  | threw message => cases ended

theorem LoopRun.counted (run : LoopRun before count after) : Counted count before after := by
  induction run with
  | refl => exact .of_kept fun _ _ => rfl
  | tail _ iteration ended unwritten ih => exact ih.trans (iteration.counted_ended unwritten ended)

/-- Each counter that is not inhibited counts the iterations of a run whose instruction completed
or is `ecall` or `ebreak`, and a `wfi` counts once, before it first waits. -/
theorem loopRun_retirements (run : LoopRun before count after) :
    Counted count before after ∧ ∀ memory waiting held fromLevel,
      LoopIteration after memory (.waiting waiting held fromLevel) → Counted (count + 1) before waiting :=
  ⟨run.counted, fun _ _ _ _ iteration => run.counted.trans (iteration.counted trivial).1⟩

/-- `csrrw x0, minstret, x1` and `csrrs x2, minstret, x0` at the start of RAM. -/
def counterMemory : Memory := (defaultMemory.store32 0 0xb0209073).store32 4 0xb0202173

/-- The hart at that program, with 5 in `x1`. -/
def counterRegisters : Registers :=
  writeGeneralPurposeRegister (setProgramCounter createRegisters 0x80000000) 1 5

/-- One iteration, whose `wfi` finds one memory after the other. -/
def loopIteration (registers : Registers) (memory : Memory) (changes : List Memory) : Execution :=
  changes.foldl (fun execution changed =>
    match execution with
    | .waiting middle _ _ => (wfiTurn middle changed).commit
    | ended => ended) (runLoopTurn registers memory)

theorem loopIteration_iteration (registers : Registers) (memory : Memory) (changes : List Memory) :
    LoopIteration registers memory (loopIteration registers memory changes) := by
  suffices follows : ∀ execution, LoopIteration registers memory execution →
      LoopIteration registers memory (changes.foldl _ execution) from follows _ .turned
  induction changes with
  | nil => exact fun execution iteration => iteration
  | cons changed changes inductionHypothesis =>
    intro execution iteration
    refine inductionHypothesis _ ?_
    cases execution with
    | waiting middle held fromLevel => exact .resumed iteration changed
    | completed | trapped | threw => exact iteration

def countersUnwritten (registers : Registers) (executed : Option ExecuteThunk) : Bool :=
  (executed.bind (ExecuteThunk.controlWrite registers)).all fun write => decide (write.1 ∉ countedRegisters)

theorem countersUnwritten_sound (unwritten : countersUnwritten registers executed = true) (execution : Execution) :
    CountersUnwritten registers executed execution := by
  cases execution with
  | completed after memory =>
    intro thunk index value executes writes
    subst executes
    rw [countersUnwritten, Option.bind_some, writes] at unwritten
    exact of_decide_eq_true unwritten
  | trapped | waiting | threw => trivial

/-- An iteration that ends, with the retirements so far. -/
def countedIteration (memory : Memory) (state : Nat × Registers) (changes : List Memory) : Option (Nat × Registers) :=
  if countersUnwritten state.2 (turnInstruction state.2 memory) then
    (loopIteration state.2 memory changes).ended?.map fun after =>
      (state.1 + retirements (turnInstruction state.2 memory) (loopIteration state.2 memory changes), after)
  else none

theorem countedIterations_run {iterations : List (List Memory)} {state : Nat × Registers}
    (run : LoopRun before state.1 state.2)
    (counted : iterations.foldlM (countedIteration memory) state = some last) : LoopRun before last.1 last.2 := by
  induction iterations generalizing state with
  | nil =>
    cases counted
    exact run
  | cons changes iterations inductionHypothesis =>
    obtain ⟨next, turned, rest⟩ := Option.bind_eq_some_iff.mp counted
    rw [countedIteration] at turned
    split at turned
    · rename_i unwritten
      obtain ⟨after, ended, rfl⟩ := Option.map_eq_some_iff.mp turned
      refine inductionHypothesis ?_ rest
      exact run.tail (loopIteration_iteration _ _ changes) ended (countersUnwritten_sound unwritten _)
    · cases turned

/-- An illegal word; at 16, `nop`, `wfi` and `ecall`. -/
def trappingMemory : Memory :=
  (((defaultMemory.store32 0 0xffffffff).store32 16 0x00000013).store32 20 0x10500073).store32 24 0x00000073

/-- The hart at that program, with its handler at 16 and the timer enabled. -/
def trappingRegisters : Registers :=
  writeControlAndStatusRegister (writeControlAndStatusRegister (setProgramCounter createRegisters 0x80000000)
    Csr.mtvec 0x80000010) Csr.mie 0x80

/-- The illegal word is not counted, `nop`, the `wfi` that waits twice and `ecall` are. -/
theorem loopRun_retirements_trapping : ∃ after, LoopRun trappingRegisters 3 after ∧
    after.controlAndStatus Csr.minstret = 3 ∧ after.controlAndStatus Csr.mcause = 11 ∧
    Counted 3 trappingRegisters after := by
  have shown : ([[], [], [trappingMemory, setClintMachineTimerWire trappingMemory true], []].foldlM
      (countedIteration trappingMemory) (0, trappingRegisters)).any (fun last =>
        decide (last.1 = 3 ∧ last.2.controlAndStatus Csr.minstret = 3 ∧ last.2.controlAndStatus Csr.mcause = 11)) =
      true := by decide +kernel
  obtain ⟨⟨count, after⟩, counted, holds⟩ := (Option.any_eq_true _ _).mp shown
  obtain ⟨rfl, minstret, cause⟩ := of_decide_eq_true holds
  have run : LoopRun trappingRegisters 3 after := countedIterations_run .refl counted
  exact ⟨after, run, minstret, cause, (loopRun_retirements run).1⟩

/-! Reading a counter after writing it. -/

theorem commit_completed {execution : Execution} (committed : execution.commit = .completed after memory) :
    ∃ executed, execution = .completed executed memory ∧ after = commitInstructionRetire executed := by
  cases execution <;> cases committed
  exact ⟨_, rfl, rfl⟩

theorem runLoopTurn_completed (completed : runLoopTurn registers memory = .completed after memory') :
    ∃ thunk left length executed, turnInstruction registers memory = some thunk ∧
      thunk.execute (beginInstructionRetire (sampleDevicePending registers memory).1) left length =
        .completed executed memory' ∧ after = commitInstructionRetire executed := by
  simp only [runLoopTurn, turnInstruction] at completed ⊢
  generalize sampleDevicePending registers memory = sampled at completed ⊢
  cases taken : takeInterruptIfAny sampled.1 with
  | some trapped =>
    rw [taken] at completed
    cases completed
  | none =>
    cases misaligned : trapIfInstructionAddressMisaligned sampled.1 with
    | some trapped =>
      simp only [taken, misaligned] at completed
      cases completed
    | none =>
      simp only [taken, misaligned, stepInstruction] at completed ⊢
      cases fetched : fetchInstruction sampled.1 sampled.2 with
      | fetched instructionBytes left =>
        rw [fetched] at completed
        obtain ⟨executed, result, same⟩ := commit_completed completed
        exact ⟨_, left, _, executed, rfl, result, same⟩
      | faulted trapped left =>
        rw [fetched] at completed
        cases completed
      | threw message =>
        rw [fetched] at completed
        cases completed

theorem controlWrite_reads (writes : thunk.controlWrite registers = some (index, value)) :
    ∃ destination, thunk.controlRead = some (index, destination) := by
  cases thunk with
  | csrRegister function args =>
    simp only [ExecuteThunk.controlWrite] at writes
    split at writes
    · cases writes
      exact ⟨_, rfl⟩
    · cases writes
  | csrImmediate function args =>
    simp only [ExecuteThunk.controlWrite] at writes
    split at writes
    · cases writes
      exact ⟨_, rfl⟩
    · cases writes
  | _ => cases writes

/-- What a CSR instruction that completes leaves in `rd`. -/
theorem controlRead_destination (reads : thunk.controlRead = some (index, destination)) (other : index ≠ Csr.time)
    (kept : destination ≠ 0) (completed : thunk.execute registers memory length = .completed after memory') :
    readGeneralPurposeRegister after destination = readControlAndStatusRegister registers index := by
  obtain ⟨writes, update, word, same, _⟩ := ExecuteThunk.controlRead_execute reads
  rw [same] at completed
  obtain ⟨previous, middle, read, _, _, rfl⟩ := csrReadWrite_completed completed
  rw [← read other, readGeneralPurposeRegister, advanceProgramCounter, writeGeneralPurposeRegister, if_neg kept]
  exact Function.update_self _ _ _

/-- What a CSR instruction that completes leaves in the CSR file. -/
theorem controlWrite_file (writes : thunk.controlWrite registers = some (index, value))
    (completed : thunk.execute registers memory length = .completed after memory') :
    after.controlAndStatus = (writeControlAndStatusRegister registers index value).controlAndStatus ∧
      after.retireInstruction = registers.retireInstruction := by
  obtain ⟨destination, reads⟩ := controlWrite_reads writes
  obtain ⟨written, update, word, same, shape⟩ := ExecuteThunk.controlRead_execute reads
  rw [same] at completed
  obtain ⟨previous, middle, read, allowed, rfl, rfl⟩ := csrReadWrite_completed completed
  cases written with
  | false =>
    rw [shape] at writes
    cases writes
  | true =>
    rw [shape] at writes
    cases writes
    rw [read (write_notTime (allowed rfl))]
    have moved := (RetirementKept.generalPurpose (writeControlAndStatusRegister registers index
      (update (readControlAndStatusRegister registers index))) destination
      (readControlAndStatusRegister registers index)).pending
    exact ⟨writeGeneralPurposeRegister_controlAndStatus _ _, moved.trans (writeControlAndStatusRegister_pending _ _)⟩

theorem writeControlAndStatusRegister_counter (member : (counter, enableBit) ∈ counterBits) (value : Bytes8) :
    writeControlAndStatusRegister registers counter value = registers.setSlot counter value := by
  simp only [counterBits, List.mem_cons, List.not_mem_nil, or_false, Prod.mk.injEq] at member
  rcases member with ⟨rfl, rfl⟩ | ⟨rfl, rfl⟩ <;> rfl

theorem Counted.counter {counter : BitVec 12} (counted : Counted count before after)
    (member : (counter, enableBit) ∈ counterBits) :
    after.controlAndStatus counter = countedUp before counter enableBit count := by
  simp only [counterBits, List.mem_cons, List.not_mem_nil, or_false, Prod.mk.injEq] at member
  rcases member with ⟨rfl, rfl⟩ | ⟨rfl, rfl⟩
  · exact counted.mcycle
  · exact counted.minstret

theorem counterBits_counted (member : (counter, enableBit) ∈ counterBits) :
    counter ∈ countedRegisters ∧ counter ≠ Csr.mcountinhibit := by
  simp only [counterBits, List.mem_cons, List.not_mem_nil, or_false, Prod.mk.injEq] at member
  rcases member with ⟨rfl, rfl⟩ | ⟨rfl, rfl⟩ <;> decide

/-- `cycle` and `instret` read the counters. -/
theorem shownCounter_read (member : (shownCounter index, enableBit) ∈ counterBits) (registers : Registers) :
    index ≠ Csr.time ∧
      readControlAndStatusRegister registers index = registers.controlAndStatus (shownCounter index) := by
  have apart : Csr.cycle ≠ Csr.instret := by decide
  by_cases cycle : index = Csr.cycle
  · subst cycle
    exact ⟨by decide, rfl⟩
  by_cases instret : index = Csr.instret
  · subst instret
    exact ⟨by decide, rfl⟩
  rw [shownCounter, if_neg cycle, if_neg instret] at member ⊢
  simp only [counterBits, List.mem_cons, List.not_mem_nil, or_false, Prod.mk.injEq] at member
  rcases member with ⟨rfl, rfl⟩ | ⟨rfl, rfl⟩ <;> exact ⟨by decide, rfl⟩

/-- The write is followed by the writer's own retirement. -/
theorem counterWrite_counted (member : (counter, enableBit) ∈ counterBits)
    (counting : byte (registers.controlAndStatus Csr.mcountinhibit) 0 &&& enableBit = 0)
    (writes : turnWrite registers memory = some (counter, value))
    (wrote : runLoopTurn registers memory = .completed written memory') :
    written.controlAndStatus counter = value + 1 := by
  obtain ⟨thunk, left, length, executed, executes, completed, rfl⟩ := runLoopTurn_completed wrote
  rw [turnWrite, executes] at writes
  have kept := (RetirementKept.sample registers memory).counters
  generalize (sampleDevicePending registers memory).1 = sampled at writes completed kept
  have same : thunk.controlWrite (beginInstructionRetire sampled) = some (counter, value) := writes
  obtain ⟨file, pending⟩ := controlWrite_file same completed
  obtain ⟨counted, apart⟩ := counterBits_counted member
  have slot : executed.controlAndStatus counter = value := by
    rw [file, writeControlAndStatusRegister_counter member, setSlot_controlAndStatus, if_pos rfl]
  have inhibit : executed.controlAndStatus Csr.mcountinhibit = registers.controlAndStatus Csr.mcountinhibit := by
    rw [file, writeControlAndStatusRegister_counter member, setSlot_controlAndStatus, if_neg apart.symm]
    exact kept Csr.mcountinhibit (by decide)
  have committed := (Counted.commit pending).counter member
  rw [countedUp, inhibit, if_pos counting, slot] at committed
  exact committed

theorem commitInstructionRetire_generalPurpose (registers : Registers) :
    (commitInstructionRetire registers).generalPurpose = registers.generalPurpose := by
  rw [commitInstructionRetire]
  cases registers.retireInstruction with
  | false => rfl
  | true =>
    simp only [Bool.not_true, Bool.false_eq_true, if_false, advanceCounter]
    split <;> split <;> rfl

/-- A counter that is not inhibited reads one more than what was written to it: the instruction
that writes it is counted as well. -/
theorem counterReadBack_counted (member : (counter, enableBit) ∈ counterBits)
    (counting : byte (registers.controlAndStatus Csr.mcountinhibit) 0 &&& enableBit = 0)
    (readBack : CounterReadBack counter registers memory value shown) : shown = value + 1 := by
  cases readBack with
  | readBack writes wrote quiet reads same kept read =>
    rename_i written memory' middle left index destination after final
    have stored := counterWrite_counted member counting writes wrote
    have idle : middle.controlAndStatus counter = value + 1 := by
      rw [quiet.counted.counter member, countedUp_zero, stored]
    obtain ⟨thunk, left', length, executed, executes, completed, rfl⟩ := runLoopTurn_completed read
    rw [executes] at reads
    have sampled := (RetirementKept.sample middle left).counters counter (counterBits_counted member).1
    have shows (registers : Registers) : index ≠ Csr.time ∧
        readControlAndStatusRegister registers index = registers.controlAndStatus counter := by
      rw [← same]
      exact shownCounter_read (same ▸ member) registers
    have destined := controlRead_destination reads (shows executed).1 kept completed
    have file : (beginInstructionRetire (sampleDevicePending middle left).1).controlAndStatus counter =
      middle.controlAndStatus counter := sampled
    rw [readGeneralPurposeRegister, commitInstructionRetire_generalPurpose]
    rw [(shows _).2, file, idle] at destined
    exact destined

theorem counterReadBack_five : CounterReadBack Csr.minstret counterRegisters counterMemory 5 6 := by
  have writes : turnWrite counterRegisters counterMemory = some (Csr.minstret, 5) := rfl
  have wrote : runLoopTurn counterRegisters counterMemory = .completed _ _ := rfl
  have read := CounterReadBack.readBack writes wrote .refl
    (rfl : (turnInstruction _ counterMemory).bind ExecuteThunk.controlRead = some (Csr.minstret, 2)) rfl (by decide) rfl
  exact read

theorem counterReadBack_counted_minstret :
    CounterReadBack Csr.minstret counterRegisters counterMemory 5 6 ∧ (6 : Bytes8) = 5 + 1 :=
  ⟨counterReadBack_five, counterReadBack_counted (by decide : (Csr.minstret, counterenByte0Ir) ∈ counterBits)
    (by decide) counterReadBack_five⟩

/-- 5 written to `minstret` reads 6. -/
theorem counterReadBack_not_exact :
    ¬ ∀ counter enableBit registers memory value shown, (counter, enableBit) ∈ counterBits →
      byte (registers.controlAndStatus Csr.mcountinhibit) 0 &&& enableBit = 0 →
      CounterReadBack counter registers memory value shown → shown = value := by
  intro always
  have same := always _ _ _ _ _ _ (by decide : (Csr.minstret, counterenByte0Ir) ∈ counterBits) (by decide)
    counterReadBack_five
  revert same
  decide

end YaRiscV.Emulator
