import YaRiscV.Emulator.StoreConditionalTurns
import YaRiscV.Emulator.Cpu.ReservationHistory
import YaRiscV.Emulator.Cpu.Isolation

/-! Every instruction gives the reservation monitor's lock back, also one that throws, and a
store-conditional that stores holds it from the check of its reservation to the end of the store. -/

namespace YaRiscV.Emulator

open YaRiscV.Library YaRiscV.Library.Unwinding YaRiscV.Utils Relation

namespace Unwinding

/-- How an instruction that returns ends. -/
inductive Ending where
  | completed (registers : Registers)
  | trapped (registers : Registers)
  | waiting (registers : Registers) (fromLevel : BitVec 32)

/-- The execution of an outcome. -/
def executionOf : Except String (Ending × Memory) → Execution
  | .ok (.completed registers, memory) => .completed registers memory
  | .ok (.trapped registers, memory) => .trapped registers memory
  | .ok (.waiting registers fromLevel, memory) => .waiting registers memory fromLevel
  | .error message => .threw message

/-- An instruction that makes no access that can throw. -/
def returning (instruction : Memory → Execution) : MemoryCall Ending := fun memory =>
  match instruction memory with
  | .completed registers memory => .ok (.completed registers) memory
  | .trapped registers memory => .ok (.trapped registers) memory
  | .waiting registers memory fromLevel => .ok (.waiting registers fromLevel) memory
  | .threw message => .error message memory

variable (registers : Registers)

def completeWith (destinationRegister : BitVec 5) (value instructionByteLength : Bytes8) : MemoryCall Ending :=
  return .completed (advanceProgramCounter (writeGeneralPurposeRegister registers destinationRegister value)
    instructionByteLength)

def loadRegister (byteLength : Nat) (extend : Bytes8 → Bytes8) (args : LoadArgs)
    (instructionByteLength : Bytes8) : MemoryCall Ending := do
  let address := loadEffectiveAddress registers args
  match denyLoad registers (← get) address byteLength with
  | some registers => return .trapped registers
  | none =>
    let loaded ← loadBytes address byteLength
    completeWith registers args.destinationRegister (extend loaded) instructionByteLength

def storeRegister (byteLength : Nat) (args : StoreArgs) (instructionByteLength : Bytes8) : MemoryCall Ending := do
  let address := storeEffectiveAddress registers args
  match denyStore registers (← get) address byteLength with
  | some registers => return .trapped registers
  | none =>
    storeBytes address (readGeneralPurposeRegister registers args.sourceRegister2) byteLength
    return .completed (advanceProgramCounter registers instructionByteLength)

def snapshotControlAndStatusRegister (index : BitVec 12) : MemoryCall Bytes8 :=
  if index = Csr.time then readClintMtimeBytes else pure (readControlAndStatusRegister registers index)

def csrReadWrite (writes : Bool) (update : Bytes8 → Bytes8) (destinationRegister : BitVec 5)
    (controlAndStatusRegister : BitVec 12) (instructionWord : BitVec 32) (instructionByteLength : Bytes8) :
    MemoryCall Ending :=
  if !isControlAndStatusRegisterAccessAllowed registers controlAndStatusRegister writes then
    return .trapped (trapIllegalCsrAccess registers instructionWord)
  else do
    let previous ← snapshotControlAndStatusRegister registers controlAndStatusRegister
    let registers :=
      if writes then writeControlAndStatusRegister registers controlAndStatusRegister (update previous)
      else registers
    completeWith registers destinationRegister previous instructionByteLength

def load : LoadFunction → LoadArgs → Bytes8 → MemoryCall Ending
  | .lb => loadRegister registers 1 fun loaded => signExtendBytes loaded 1
  | .lh => loadRegister registers 2 fun loaded => signExtendBytes loaded 2
  | .lw => loadRegister registers 4 fun loaded => signExtendBytes loaded 4
  | .ld => loadRegister registers 8 fun loaded => loaded
  | .lbu => loadRegister registers 1 fun loaded => zeroExtendBytes loaded 1
  | .lhu => loadRegister registers 2 fun loaded => zeroExtendBytes loaded 2
  | .lwu => loadRegister registers 4 fun loaded => zeroExtendBytes loaded 4

/-- A CSR instruction that takes its operand from a register. -/
def csrRegister (function : CsrRegisterFunction) (args : CsrRegisterArgs) (instructionByteLength : Bytes8) :
    MemoryCall Ending :=
  let source := readGeneralPurposeRegister registers args.sourceRegister1
  let execute := fun writes update => csrReadWrite registers writes update args.destinationRegister
    args.controlAndStatusRegister args.instructionWord instructionByteLength
  match function with
  | .csrrw => execute true fun _ => source
  | .csrrs => execute (args.sourceRegister1 != 0) fun previous => orBytes previous source
  | .csrrc => execute (args.sourceRegister1 != 0) fun previous => andBytes previous (xorBytes source allOnesBytes)

/-- A CSR instruction with an immediate operand. -/
def csrImmediate (function : CsrImmediateFunction) (args : CsrImmediateArgs) (instructionByteLength : Bytes8) :
    MemoryCall Ending :=
  let execute := fun writes update => csrReadWrite registers writes update args.destinationRegister
    args.controlAndStatusRegister args.instructionWord instructionByteLength
  match function with
  | .csrrwi => execute true fun _ => args.immediate
  | .csrrsi => execute (!isZeroBytes args.immediate) fun previous => orBytes previous args.immediate
  | .csrrci => execute (!isZeroBytes args.immediate) fun previous =>
    andBytes previous (xorBytes args.immediate allOnesBytes)

/-- Call a thunk. Loads, stores and reads of `time` can throw. -/
def execute (thunk : ExecuteThunk) (instructionByteLength : Bytes8) : MemoryCall Ending :=
  match thunk with
  | .load function args => load registers function args instructionByteLength
  | .store function args => storeRegister registers function.byteLength args instructionByteLength
  | .csrRegister function args => csrRegister registers function args instructionByteLength
  | .csrImmediate function args => csrImmediate registers function args instructionByteLength
  | thunk => returning fun memory => thunk.execute registers memory instructionByteLength

variable {registers} {memory : Memory}

/-! What callers see of an instruction is its execution. -/

theorem returning_outcome (instruction : Memory → Execution) :
    executionOf (outcome (returning instruction) memory) = instruction memory := by
  simp only [outcome, returning]
  cases instruction memory <;> rfl

theorem loadRegister_outcome : executionOf (outcome (loadRegister registers byteLength extend args length) memory) =
    Emulator.loadRegister registers memory byteLength extend args length := by
  simp only [loadRegister, outcome_bind, outcome_get, Except.bind, Emulator.loadRegister]
  cases denyLoad registers memory (loadEffectiveAddress registers args) byteLength with
  | some trapped => rfl
  | none =>
    simp only [outcome_bind, loadBytes_outcome]
    cases Emulator.loadBytes memory (loadEffectiveAddress registers args) byteLength <;> rfl

theorem storeRegister_outcome : executionOf (outcome (storeRegister registers byteLength args length) memory) =
    Emulator.storeRegister registers memory byteLength args length := by
  simp only [storeRegister, outcome_bind, outcome_get, Except.bind, Emulator.storeRegister]
  cases denyStore registers memory (storeEffectiveAddress registers args) byteLength with
  | some trapped => rfl
  | none =>
    simp only [outcome_bind, storeBytes_outcome, unitOutcome]
    cases Emulator.storeBytes memory (storeEffectiveAddress registers args)
      (readGeneralPurposeRegister registers args.sourceRegister2) byteLength <;> rfl

theorem snapshotControlAndStatusRegister_outcome (index : BitVec 12) :
    outcome (snapshotControlAndStatusRegister registers index) memory =
      Emulator.snapshotControlAndStatusRegister registers index memory := by
  simp only [snapshotControlAndStatusRegister, Emulator.snapshotControlAndStatusRegister]
  split
  · exact readClintMtimeBytes_outcome
  · rfl

theorem csrReadWrite_outcome :
    executionOf (outcome (csrReadWrite registers writes update destination index word length) memory) =
      Emulator.csrReadWrite registers memory writes update destination index word length := by
  simp only [csrReadWrite, Emulator.csrReadWrite]
  split
  · rfl
  · simp only [outcome_bind, snapshotControlAndStatusRegister_outcome]
    cases Emulator.snapshotControlAndStatusRegister registers index memory <;> rfl

theorem execute_outcome (thunk : ExecuteThunk) (length : Bytes8) :
    executionOf (outcome (execute registers thunk length) memory) = thunk.execute registers memory length := by
  cases thunk with
  | load function args => cases function <;> exact loadRegister_outcome
  | store function args =>
    simp only [ExecuteThunk.execute, StoreFunction.execute_eq]
    exact storeRegister_outcome
  | csrRegister function args => cases function <;> exact csrReadWrite_outcome
  | csrImmediate function args => cases function <;> exact csrReadWrite_outcome
  | _ => simp only [execute, returning_outcome]

end Unwinding

/-- What every instruction keeps: the lock is free, and the transmit tail is a slot of its ring. -/
structure MonitorIdle (memory : Memory) : Prop where
  free : MonitorFree memory
  tail : TransmitTailValid memory

variable {registers : Registers} {memory after : Memory} {ids : List String}

namespace MonitorIdle

theorem of_confined (idle : MonitorIdle memory) (confined : Confined ids memory after)
    (monitor : reservationRegionId ∉ ids) (uart : uartRegionId ∉ ids) : MonitorIdle after :=
  ⟨confined.monitorFree monitor idle.free, idle.tail.of_confined confined uart⟩

theorem of_effect (idle : MonitorIdle memory) (effect : RegionEffect memory after) : MonitorIdle after :=
  ⟨effect.free idle.free idle.tail, (effect idle.tail).2⟩

theorem loadAndReserve (idle : MonitorIdle memory) (registers : Registers) (address : Bytes8)
    (width : AtomicWidth) : MonitorIdle (loadAndReserve registers memory address width).2 := by
  have confined : Confined [reservationRegionId] memory (Emulator.loadAndReserve registers memory address width).2 := by
    refine withMonitorLock_confined ?_
    split
    · exact .refl
    · exact setReservationLocked_confined
  exact ⟨loadAndReserve_free idle.free registers address width, idle.tail.of_confined confined (by decide)⟩

theorem atomicRamStore (idle : MonitorIdle memory)
    (stored : atomicRamStore memory address source width = some after) : MonitorIdle after := by
  obtain ⟨hostIndex, operation⟩ := atomicRamStore_atomicStore stored
  exact ⟨atomicRamStore_free idle.free stored, idle.tail.of_confined operation.confined (by decide)⟩

/-- The end of a store-conditional that passed its checks. -/
theorem takeAndStore (idle : MonitorIdle memory) (hartId : Nat)
    (loaded : atomicLoadBytes memory address width = some value) (source : Bytes8) :
    MonitorIdle (takeAndStore memory hartId address source width) := by
  refine ⟨takeAndStore_free idle.free hartId loaded source, ?_⟩
  cases taken : (tryTakeReservation memory hartId address width.byteLength).1 with
  | true =>
    obtain ⟨hostIndex, operation⟩ := takeAndStore_held idle.free.kept taken loaded source
    exact idle.tail.of_confined operation.confined (by decide)
  | false =>
    by_cases valid : hartId < reservationHartCount
    · exact idle.tail.of_confined (takeAndStore_lost valid idle.free.kept taken source).1 (by decide)
    · rw [takeAndStore_invalid valid idle.free]
      exact idle.tail

end MonitorIdle

/-- The state stays idle. -/
def KeepsIdle (before after : Memory) : Prop := MonitorIdle before → MonitorIdle after

instance : Std.Refl KeepsIdle := ⟨fun _ => id⟩

instance : IsTrans Memory KeepsIdle := ⟨fun _ _ _ first second => second ∘ first⟩

/-! The instructions that make no access that can throw. -/

theorem loadReserved_idle (idle : MonitorIdle memory) :
    ∃ after, (loadReserved registers memory width extend args length).memory? = some after ∧ MonitorIdle after := by
  simp only [loadReserved]
  split
  · exact ⟨_, rfl, idle⟩
  split
  · exact ⟨_, rfl, idle⟩
  have reserved := idle.loadAndReserve registers (readGeneralPurposeRegister registers args.sourceRegister1) width
  split
  · rename_i ended
    rw [ended] at reserved
    exact ⟨_, rfl, reserved⟩
  · rename_i ended
    rw [ended] at reserved
    exact ⟨_, rfl, reserved⟩

theorem storeConditional_idle (idle : MonitorIdle memory) :
    ∃ after, (storeConditional registers memory width args length).memory? = some after ∧ MonitorIdle after := by
  simp only [storeConditional]
  split
  · exact ⟨_, rfl, idle⟩
  split
  · exact ⟨_, rfl, idle⟩
  split
  · exact ⟨_, rfl, idle⟩
  · rename_i loaded
    exact ⟨_, rfl, idle.takeAndStore (hartIdOf registers) loaded
      (readGeneralPurposeRegister registers args.sourceRegister2)⟩

theorem amoReadModifyWrite_idle (idle : MonitorIdle memory) :
    ∃ after, (amoReadModifyWrite registers memory args width combine length).memory? = some after ∧
      MonitorIdle after := by
  simp only [amoReadModifyWrite]
  split
  · exact ⟨_, rfl, idle⟩
  split
  · exact ⟨_, rfl, idle⟩
  split
  · exact ⟨_, rfl, idle⟩
  · rename_i loaded
    obtain ⟨stored, written, exchanged⟩ := amoLoop_eq loaded combine
      (readGeneralPurposeRegister registers args.sourceRegister2)
    rw [exchanged]
    exact ⟨_, rfl, idle.atomicRamStore written⟩

theorem sampleDevicePending_idle (idle : MonitorIdle memory) (registers : Registers) :
    MonitorIdle (sampleDevicePending registers memory).2 :=
  idle.of_confined (sampleDevicePending_confined registers memory) (by decide) (by decide)

/-- Every turn of a waiting `wfi`. -/
theorem wfiTurn_idle (idle : MonitorIdle memory) :
    ∃ after, (wfiTurn registers memory).memory? = some after ∧ MonitorIdle after := by
  have first := sampleDevicePending_idle idle registers
  simp only [wfiTurn]
  split
  · exact ⟨_, rfl, first⟩
  split <;> exact ⟨_, rfl, sampleDevicePending_idle first _⟩

theorem wfi_idle (idle : MonitorIdle memory) :
    ∃ after, (wfi registers memory length).memory? = some after ∧ MonitorIdle after := by
  simp only [wfi]
  split
  · exact ⟨_, rfl, idle⟩
  · exact wfiTurn_idle idle

namespace Unwinding

theorem returning_within {instruction : Memory → Execution}
    (idle : ∀ memory, MonitorIdle memory → ∃ after, (instruction memory).memory? = some after ∧ MonitorIdle after) :
    Within KeepsIdle (returning instruction) := by
  intro memory started
  obtain ⟨after, ended, kept⟩ := idle memory started
  simp only [left, returning]
  cases ran : instruction memory with
  | completed registers reached | trapped registers reached | waiting registers reached fromLevel =>
    rw [ran] at ended
    cases ended
    exact kept
  | threw message =>
    rw [ran] at ended
    cases ended

/-- An instruction that leaves the memory alone. -/
theorem returning_same {instruction : Memory → Execution}
    (same : ∀ memory, (instruction memory).memory? = some memory) : Within KeepsIdle (returning instruction) :=
  returning_within fun memory idle => ⟨memory, same memory, idle⟩

theorem loadRegister_within : Within KeepsIdle (loadRegister registers byteLength extend args length) := by
  refine Within.get.bind fun memory => ?_
  split
  · exact .pure _
  · exact Within.bind (fun memory idle => idle.of_effect (loadBytes_within _ _ memory)) fun _ => .pure _

theorem storeRegister_within : Within KeepsIdle (storeRegister registers byteLength args length) := by
  refine Within.get.bind fun memory => ?_
  split
  · exact .pure _
  · refine Within.bind (fun memory idle => ?_) fun _ => .pure _
    obtain ⟨free, tail⟩ := storeBytes_free idle.free idle.tail (storeEffectiveAddress registers args)
      (readGeneralPurposeRegister registers args.sourceRegister2) byteLength
    exact ⟨free, tail⟩

theorem csrReadWrite_within :
    Within KeepsIdle (csrReadWrite registers writes update destination index word length) := by
  simp only [csrReadWrite, snapshotControlAndStatusRegister]
  split
  · exact .pure _
  refine Within.bind ?_ fun _ => .pure _
  split
  · exact fun memory idle => idle.of_confined (readClintMtimeBytes_within memory) (by decide) (by decide)
  · exact .pure _

/-- However an instruction ends, the lock is free again. -/
theorem execute_within (thunk : ExecuteThunk) : Within KeepsIdle (execute registers thunk length) := by
  cases thunk with
  | load function args => cases function <;> exact loadRegister_within
  | store function args => exact storeRegister_within
  | csrRegister function args => cases function <;> exact csrReadWrite_within
  | csrImmediate function args => cases function <;> exact csrReadWrite_within
  | lr width args =>
    obtain ⟨extend, same⟩ := executeLr_eq width
    refine returning_within fun memory idle => ?_
    simp only [ExecuteThunk.execute, same]
    exact loadReserved_idle idle
  | sc width args =>
    refine returning_within fun memory idle => ?_
    simp only [ExecuteThunk.execute, executeSc_eq]
    exact storeConditional_idle idle
  | amo function width args =>
    obtain ⟨combine, same⟩ := function.execute_eq
    refine returning_within fun memory idle => ?_
    simp only [ExecuteThunk.execute, same]
    exact amoReadModifyWrite_idle idle
  | wfi => exact returning_within fun memory idle => wfi_idle idle
  | op function args | opImm function args | shiftImm function args =>
    obtain ⟨operation, same⟩ := function.execute_eq
    refine returning_same fun memory => ?_
    simp only [ExecuteThunk.execute, same]
    rfl
  | branch function args =>
    obtain ⟨condition, same⟩ := function.execute_eq
    refine returning_same fun memory => ?_
    simp only [ExecuteThunk.execute, same, branchIf]
    split <;> rfl
  | mret | sret | sfenceVma =>
    refine returning_same fun memory => ?_
    simp only [ExecuteThunk.execute, mret, sret, sfenceVma]
    split_ifs <;> rfl
  | lui | auipc | jal | jalr | fence | fenceI | cNop | ecall | ebreak | illegalInstruction | illegalC =>
    simp only [execute]
    exact returning_same fun memory => rfl

/-- The memory of an execution that returns is the memory left. -/
theorem execute_left (ended : (thunk.execute registers memory length).memory? = some after) :
    left (execute registers thunk length) memory = after := by
  rw [← execute_outcome] at ended
  cases returned : outcome (execute registers thunk length) memory with
  | error message =>
    rw [returned] at ended
    cases ended
  | ok reached =>
    obtain ⟨ending, middle⟩ := reached
    rw [left_of_outcome returned]
    rw [returned] at ended
    cases ending <;> exact Option.some.inj ended

end Unwinding

/-- What is left of an instruction, whether it returns or throws, has a free lock. -/
structure MonitorReleased (registers : Registers) (thunk : ExecuteThunk) (length : Bytes8) (memory : Memory) :
    Prop where
  same : Unwinding.executionOf (outcome (Unwinding.execute registers thunk length) memory) =
    thunk.execute registers memory length
  returned : ∀ after, (thunk.execute registers memory length).memory? = some after →
    left (Unwinding.execute registers thunk length) memory = after
  free : MonitorFree (left (Unwinding.execute registers thunk length) memory)
  tail : TransmitTailValid (left (Unwinding.execute registers thunk length) memory)

/-- A store-conditional that stores: undisturbed it ends in `after`, and in every run it has the
lock at each place of the stretch, which only the end of the store or a failed check ends. -/
structure MonitorHeld (sc : ScAccess) (memory after : Memory) : Prop where
  alone : ReflTransGen (Alone (scTurn sc)) (.acquiring .reservation, memory) (.finished true, after)
  held : ∀ place middle, ReflTransGen (ScStep sc) (.acquiring .reservation, memory) (place, middle) →
    place.storing = true → 0 < middle.worker.monitorLockDepth ∧ middle.load32 middle.layout.reservation = 1
  stretch : ∀ place middle, place.storing = true → (scTurn sc middle place).1.storing = true ∨ place = .stored ∨
    place = .checking ∧ reservationHoldsLocked middle sc.hartId sc.address sc.width.byteLength = false

theorem storeConditional_monitorHeld (free : MonitorFree memory)
    (loaded : atomicLoadBytes memory address width = some value)
    (taken : (tryTakeReservation memory hartId address width.byteLength).1 = true) (source : Bytes8) :
    ∃ hostIndex, alignedRamAddressToHostIndex memory address width = some hostIndex ∧
      MonitorHeld ⟨hartId, address, source, width, hostIndex⟩ memory (takeAndStore memory hartId address source width) := by
  obtain ⟨hostIndex, aligned, _⟩ := Option.map_eq_some_iff.mp (atomicLoadBytes_some loaded).2
  obtain ⟨low, high⟩ := alignedRam_inside aligned
  have valid : hartId < reservationHartCount := by
    by_contra outside
    rw [tryTakeReservation_invalid outside] at taken
    cases taken
  refine ⟨hostIndex, aligned, ?_, fun place middle run storing => ?_, fun place middle storing => storing_until storing⟩
  · have turns : ReflTransGen (Alone (scTurn ⟨hartId, address, source, width, hostIndex⟩)) _ _ :=
      storeConditional_alone valid free loaded aligned
    rwa [taken] at turns
  · exact storing_held storing (scRun_lock ⟨low, high⟩ free run)

/-- From a free lock every instruction leaves a free lock, so does every turn of a waiting
`wfi`, and a store-conditional has the lock from the check of its reservation to the end of its store. -/
theorem monitorLock_released (registers : Registers) (thunk : ExecuteThunk) (length : Bytes8)
    (free : MonitorFree memory) (tail : TransmitTailValid memory) :
    MonitorReleased registers thunk length memory ∧
    (∃ after, (wfiTurn registers memory).memory? = some after ∧ MonitorFree after ∧ TransmitTailValid after) ∧
    ∀ width args registers' after, thunk = .sc width args →
      thunk.execute registers memory length = .completed registers' after →
      (tryTakeReservation memory (hartIdOf registers) (readGeneralPurposeRegister registers args.sourceRegister1)
        width.byteLength).1 = true →
      ∃ hostIndex, alignedRamAddressToHostIndex memory
          (readGeneralPurposeRegister registers args.sourceRegister1) width = some hostIndex ∧
        MonitorHeld ⟨hartIdOf registers, readGeneralPurposeRegister registers args.sourceRegister1,
          readGeneralPurposeRegister registers args.sourceRegister2, width, hostIndex⟩ memory after := by
  obtain ⟨released, kept⟩ := Unwinding.execute_within thunk memory ⟨free, tail⟩
  refine ⟨⟨Unwinding.execute_outcome thunk length, fun after ended => Unwinding.execute_left ended, released, kept⟩,
    ?_, ?_⟩
  · obtain ⟨after, turned, idle⟩ := wfiTurn_idle ⟨free, tail⟩
    exact ⟨after, turned, idle.free, idle.tail⟩
  · rintro width args registers' after rfl completed taken
    simp only [ExecuteThunk.execute, executeSc_eq] at completed
    obtain ⟨⟨value, loaded⟩, rfl, _⟩ := storeConditional_completed completed
    exact storeConditional_monitorHeld free loaded taken _

/-- `x1` has the address of `mtime`. -/
def mtimeStoreRegisters : Registers :=
  writeGeneralPurposeRegister createRegisters 1 0x0200bff8

/-- `x1` has the start of RAM. -/
def ramStoreRegisters : Registers :=
  writeGeneralPurposeRegister createRegisters 1 0x80000000

/-- Hart 0 has reserved the first word of RAM. -/
def reservedMemory : Memory :=
  (loadAndReserve ramStoreRegisters defaultMemory 0x80000000 .word).2

/-- A store to `mtime` throws while the timebase is not set, and a store-conditional behind its
load-reserved stores. -/
theorem monitorLock_released_default :
    (((ExecuteThunk.store .sd ⟨1, 2, 0⟩).execute mtimeStoreRegisters defaultMemory 4).memory? = none ∧
      MonitorFree (left (Unwinding.execute mtimeStoreRegisters (.store .sd ⟨1, 2, 0⟩) 4) defaultMemory)) ∧
    ∃ registers' after,
      (ExecuteThunk.sc .word ⟨3, 1, 2⟩).execute ramStoreRegisters reservedMemory 4 = .completed registers' after ∧
        MonitorFree after ∧ MonitorHeld ⟨0, 0x80000000, 0, .word, 0⟩ reservedMemory after := by
  have free : MonitorFree defaultMemory := ⟨rfl, by decide, rfl⟩
  have tail : metaByte defaultMemory metaTxTail < uartQueueCapacity := by decide
  have idle : MonitorIdle reservedMemory :=
    MonitorIdle.loadAndReserve ⟨free, tail⟩ ramStoreRegisters 0x80000000 .word
  have thrown := (monitorLock_released mtimeStoreRegisters (.store .sd ⟨1, 2, 0⟩) 4 free tail).1
  obtain ⟨released, -, stores⟩ := monitorLock_released ramStoreRegisters (.sc .word ⟨3, 1, 2⟩) 4 idle.free idle.tail
  obtain ⟨registers', after, completed⟩ : ∃ registers' after,
      (ExecuteThunk.sc .word ⟨3, 1, 2⟩).execute ramStoreRegisters reservedMemory 4 = .completed registers' after :=
    ⟨_, _, rfl⟩
  have ended := released.returned after (by rw [completed]; rfl)
  have freed := released.free
  rw [ended] at freed
  obtain ⟨hostIndex, aligned, held⟩ := stores .word ⟨3, 1, 2⟩ registers' after rfl completed (by decide)
  have hart : hartIdOf ramStoreRegisters = 0 := by decide
  have address : readGeneralPurposeRegister ramStoreRegisters 1 = 0x80000000 := by decide
  have source : readGeneralPurposeRegister ramStoreRegisters 2 = 0 := by decide
  have first : alignedRamAddressToHostIndex reservedMemory 0x80000000 .word = some 0 := by decide
  rw [address] at aligned
  cases first.symm.trans aligned
  rw [hart, address, source] at held
  have threw : ((ExecuteThunk.store .sd ⟨1, 2, 0⟩).execute mtimeStoreRegisters defaultMemory 4).memory?.isNone =
      true := by
    decide +kernel
  exact ⟨⟨Option.isNone_iff_eq_none.mp threw, thrown.free⟩, registers', after, completed, freed, held⟩

end YaRiscV.Emulator
