import YaRiscV.Emulator.Cpu.Mediation
import YaRiscV.Emulator.Cpu.ModifyPrivilege
import YaRiscV.Emulator.Cpu.TrapPrecision

/-! The PMP mediates every access of code below M: a step shows nothing of the concealed RAM
bytes and writes none that are not granted. -/

namespace YaRiscV.Emulator

open YaRiscV.Library YaRiscV.Utils

/-- The memories two mediated runs leave, the first having started from `left`. -/
structure Mediated (registers : Registers) (left first second : Memory) : Prop where
  agree : AgreeOff (Concealed registers left.layout) first second
  writes : ChangesOnly (Writable registers left.layout) left first

/-- Two runs that end the same way, in the same registers, with mediated memories. -/
inductive MediatedOutcome (registers : Registers) (left : Memory) : Execution → Execution → Prop
  | completed (after : Registers) (memories : Mediated registers left first second) :
      MediatedOutcome registers left (.completed after first) (.completed after second)
  | trapped (after : Registers) (memories : Mediated registers left first second) :
      MediatedOutcome registers left (.trapped after first) (.trapped after second)
  | waiting (after : Registers) (fromLevel : BitVec 32) (memories : Mediated registers left first second) :
      MediatedOutcome registers left (.waiting after first fromLevel) (.waiting after second fromLevel)
  | threw (message : String) : MediatedOutcome registers left (.threw message) (.threw message)

variable {registers base : Registers} {left right : Memory} {address length : Bytes8} {width : AtomicWidth}

theorem AgreeOff.mediated (agree : AgreeOff (Concealed registers left.layout) left right) :
    Mediated registers left left right :=
  ⟨agree, .refl⟩

theorem MediatedOutcome.commit (outcome : MediatedOutcome base left first second) :
    MediatedOutcome base left first.commit second.commit := by
  cases outcome with
  | completed after memories => exact .completed _ memories
  | trapped after memories => exact .trapped _ memories
  | waiting after fromLevel memories => exact .waiting _ _ memories
  | threw message => exact .threw message

/-- Starting to retire touches neither the PMP slots nor the privilege. -/
theorem MediatedOutcome.of_beginRetire
    (outcome : MediatedOutcome (beginInstructionRetire registers) left first second) :
    MediatedOutcome registers left first second := by
  cases outcome with
  | completed after memories => exact .completed _ ⟨memories.agree, memories.writes⟩
  | trapped after memories => exact .trapped _ ⟨memories.agree, memories.writes⟩
  | waiting after fromLevel memories => exact .waiting _ _ ⟨memories.agree, memories.writes⟩
  | threw message => exact .threw message

/-! Instructions. -/

theorem denyLoad_none (allowed : denyLoad registers memory address byteLength = none) :
    physicalMemoryAccessDenied registers address byteLength .load = false := by
  simp only [denyLoad] at allowed
  split at allowed
  · cases allowed
  split at allowed
  · rename_i granted
    simpa using granted
  · cases allowed

theorem denyStore_none (allowed : denyStore registers memory address byteLength = none) :
    physicalMemoryAccessDenied registers address byteLength .store = false := by
  simp only [denyStore] at allowed
  split at allowed
  · cases allowed
  split at allowed
  · rename_i granted
    simpa using granted
  · cases allowed

theorem trapIfPmpDeniesAtomic_none
    (allowed : trapIfPmpDeniesAtomic registers address byteLength access = none) :
    physicalMemoryAccessDenied registers address byteLength access = false := by
  rw [trapIfPmpDeniesAtomic] at allowed
  split at allowed
  · rename_i granted
    simpa using granted
  · cases allowed

private theorem loadAndReserve_agree (width : AtomicWidth) (agree : AgreeOff (Concealed registers left.layout) left right)
    (visible : ∀ offset < width.byteLength,
      VisibleAt (Concealed registers left.layout) left.layout (address.toNat + offset)) :
    AgreeWith (Concealed registers left.layout) (loadAndReserve registers left address width)
      (loadAndReserve registers right address width) := by
  have locked : AgreeOff (Concealed registers left.layout) (monitorLock.acquire left) (monitorLock.acquire right) :=
    agree.acquire monitorLock
  rw [loadAndReserve, loadAndReserve, withMonitorLock, withMonitorLock]
  refine AgreeOff.hold monitorLock ?_
  rw [locked.atomicLoadBytes (by rwa [SpinLock.acquire_layout])]
  split
  · exact ⟨rfl, locked⟩
  · exact ⟨rfl, locked.setReservationLocked _ _ _⟩

section Instructions

variable (agree : AgreeOff (Concealed registers left.layout) left right)
  (below : ∀ access, accessIsMachine registers access = false)

include agree below

theorem loadRegister_mediated (fits : byteLength ≤ 8)
    (outside : OutsideDevices left.layout (loadEffectiveAddress registers args)) :
    MediatedOutcome registers left (loadRegister registers left byteLength extend args length)
      (loadRegister registers right byteLength extend args length) := by
  have checked : denyLoad registers right (loadEffectiveAddress registers args) byteLength =
      denyLoad registers left (loadEffectiveAddress registers args) byteLength := by
    rw [denyLoad, denyLoad, agree.layout]
  simp only [loadRegister, checked]
  split
  · exact .trapped _ agree.mediated
  · rename_i allowed
    obtain ⟨first, second, loaded, loaded', same⟩ := agree.loadBytes outside fits
    have equal : second = first := eq_of_byte (show 64 = 8 * 8 from rfl) fun index _ => same index fun inside =>
      visibleAt_of_load (byteGranted_of_allowed (below _) (denyLoad_none allowed) inside)
    rw [loaded, loaded', equal]
    exact .completed _ agree.mediated

theorem storeRegister_mediated (outside : OutsideDevices left.layout (storeEffectiveAddress registers args)) :
    MediatedOutcome registers left (storeRegister registers left byteLength args length)
      (storeRegister registers right byteLength args length) := by
  have checked : denyStore registers right (storeEffectiveAddress registers args) byteLength =
      denyStore registers left (storeEffectiveAddress registers args) byteLength := by
    rw [denyStore, denyStore, agree.layout]
  simp only [storeRegister, checked]
  split
  · exact .trapped _ agree.mediated
  · rename_i allowed
    have granted (index : Nat) (inside : index < byteLength) :=
      byteGranted_of_allowed (below _) (denyStore_none allowed) inside
    have outcomes := agree.storeBytes outside
      (readGeneralPurposeRegister registers args.sourceRegister2) byteLength
    generalize found : storeBytes left _ _ _ = stored at outcomes ⊢
    generalize storeBytes right _ _ _ = stored' at outcomes ⊢
    cases outcomes with
    | error message => exact .threw message
    | ok memories => exact .completed _ ⟨memories, storeBytes_writable outside granted found⟩

theorem loadReserved_mediated : MediatedOutcome registers left (loadReserved registers left width extend args length)
    (loadReserved registers right width extend args length) := by
  simp only [loadReserved]
  split
  · exact .trapped _ agree.mediated
  split
  · exact .trapped _ agree.mediated
  · rename_i allowed
    have reserved := loadAndReserve_agree width agree fun offset inside =>
      visibleAt_of_load (byteGranted_of_allowed (below _) (trapIfPmpDeniesAtomic_none allowed) inside)
    have memories : Mediated registers left _ _ := ⟨reserved.memory, loadAndReserve_writable⟩
    have value := reserved.value
    generalize loadAndReserve registers left _ width = first at memories value ⊢
    generalize loadAndReserve registers right _ width = second at memories value ⊢
    obtain ⟨loaded, first⟩ := first
    obtain ⟨loaded', second⟩ := second
    obtain rfl : loaded = loaded' := value.symm
    cases loaded with
    | none => exact .trapped _ memories
    | some oldValue => exact .completed _ memories

theorem storeConditional_mediated : MediatedOutcome registers left (storeConditional registers left width args length)
    (storeConditional registers right width args length) := by
  simp only [storeConditional]
  split
  · exact .trapped _ agree.mediated
  split
  · exact .trapped _ agree.mediated
  · rename_i allowed
    have granted (index : Nat) (inside : index < width.byteLength) :=
      byteGranted_of_allowed (below _) (trapIfPmpDeniesAtomic_none allowed) inside
    generalize readGeneralPurposeRegister registers args.sourceRegister1 = address at granted ⊢
    have found : (atomicLoadBytes right address width).isSome = (atomicLoadBytes left address width).isSome :=
      agree.atomicLoadBytes_isSome
    generalize atomicLoadBytes left address width = loaded at found ⊢
    generalize atomicLoadBytes right address width = loaded' at found ⊢
    cases loaded with
    | none =>
      rw [Option.isSome_none, Option.isSome_eq_false_iff, Option.isNone_iff_eq_none] at found
      rw [found]
      exact .trapped _ agree.mediated
    | some oldValue =>
      obtain ⟨_, rfl⟩ := Option.isSome_iff_exists.mp found
      have taken := agree.tryTakeReservation (hartIdOf registers) address width.byteLength
      have writes : ChangesOnly (Writable registers left.layout) left
          (tryTakeReservation left (hartIdOf registers) address width.byteLength).2 := tryTakeReservation_writable
      dsimp only
      rw [taken.value]
      split
      · have stored := taken.memory.atomicStoreBytes address
          (readGeneralPurposeRegister registers args.sourceRegister2) width
        have written := writes.writable_trans (atomicStoreBytes_writable granted
          (readGeneralPurposeRegister registers args.sourceRegister2))
        exact .completed _ ⟨stored.memory.releaseScMonitorIfHeld,
          written.writable_trans releaseScMonitorIfHeld_writable⟩
      · exact .completed _ ⟨taken.memory.releaseScMonitorIfHeld,
          writes.writable_trans releaseScMonitorIfHeld_writable⟩

theorem amoReadModifyWrite_mediated :
    MediatedOutcome registers left (amoReadModifyWrite registers left args width combine length)
      (amoReadModifyWrite registers right args width combine length) := by
  simp only [amoReadModifyWrite]
  split
  · exact .trapped _ agree.mediated
  split
  · exact .trapped _ agree.mediated
  · rename_i allowed
    have granted (index : Nat) (inside : index < width.byteLength) :=
      byteGranted_amo (byteGranted_of_allowed (below _) (trapIfPmpDeniesAtomic_none allowed) inside)
    generalize readGeneralPurposeRegister registers args.sourceRegister1 = address at granted ⊢
    have same : atomicLoadBytes right address width = atomicLoadBytes left address width :=
      agree.atomicLoadBytes fun offset inside => visibleAt_of_load (granted offset inside).1
    rw [same]
    split
    · exact .trapped _ agree.mediated
    · rename_i oldValue loaded
      obtain ⟨first, stored, result⟩ := amoLoop_eq loaded combine
        (readGeneralPurposeRegister registers args.sourceRegister2)
      obtain ⟨second, stored', result'⟩ := amoLoop_eq (same.trans loaded) combine
        (readGeneralPurposeRegister registers args.sourceRegister2)
      have outcomes := agree.atomicRamStore address
        (combine oldValue (readGeneralPurposeRegister registers args.sourceRegister2) width) width
      rw [stored, stored'] at outcomes
      rw [result, result']
      cases outcomes with
      | some memories =>
        exact .completed _ ⟨memories, atomicRamStore_writable (fun index inside => (granted index inside).2) stored⟩

omit below in
theorem csrReadWrite_mediated : MediatedOutcome registers left
    (csrReadWrite registers left writes update destination index word length)
    (csrReadWrite registers right writes update destination index word length) := by
  simp only [csrReadWrite, snapshotControlAndStatusRegister]
  split
  · exact .trapped _ agree.mediated
  by_cases time : index = Csr.time
  · rw [if_pos time, if_pos time, readClintMtimeBytes, readClintMtimeBytes]
    have ticked := agree.tickClint
    generalize found : tickClint left = first at ticked ⊢
    generalize tickClint right = second at ticked ⊢
    cases ticked with
    | error message => exact .threw message
    | ok memories =>
      have writes : ChangesOnly (Writable registers left.layout) left _ :=
        (tickClint_confined found).changes.writable (by decide)
      simp only [Except.map, Execution.ofExcept, memories.readTimeRegister]
      exact .completed _ ⟨memories, writes⟩
  · rw [if_neg time, if_neg time]
    exact .completed _ agree.mediated

omit below in
/-- Sampling the devices shows nothing of RAM. -/
theorem wfiTurn_mediated (sampled : Registers) :
    MediatedOutcome registers left (wfiTurn sampled left) (wfiTurn sampled right) := by
  have first := agree.sampleDevicePending sampled
  have firstWrites : ChangesOnly (Writable registers left.layout) left (sampleDevicePending sampled left).2 :=
    (sampleDevicePending_confined sampled left).changes.writable (by decide)
  have second := first.memory.sampleDevicePending (sampleDevicePending sampled left).1
  have secondWrites := firstWrites.writable_trans
    ((sampleDevicePending_confined (sampleDevicePending sampled left).1 _).changes.writable (by decide))
  simp only [wfiTurn, first.value, first.memory.loadIrqLevel, second.value]
  split
  · exact .completed _ ⟨first.memory, firstWrites⟩
  split
  · exact .completed _ ⟨second.memory, secondWrites⟩
  · exact .waiting _ _ ⟨second.memory, secondWrites⟩

/-- Every instruction is mediated, if a load or store stays clear of the devices. -/
theorem execute_mediated (thunk : ExecuteThunk)
    (outside : ∀ address, thunk.effectiveAddress registers = some address → OutsideDevices left.layout address) :
    MediatedOutcome registers left (thunk.execute registers left length) (thunk.execute registers right length) := by
  have unchanged := agree.mediated
  cases thunk with
  | lui | auipc | jal | jalr | fence | fenceI | cNop => exact .completed _ unchanged
  | ecall | ebreak | illegalInstruction | illegalC => exact .trapped _ unchanged
  | branch function args =>
    obtain ⟨condition, same⟩ := function.execute_eq
    simp only [ExecuteThunk.execute, same, branchIf]
    split <;> exact .completed _ unchanged
  | load function args =>
    obtain ⟨byteLength, extend, widths, same⟩ := function.execute_eq
    have fits : byteLength ≤ 8 := by
      simp only [List.mem_cons, List.not_mem_nil, or_false] at widths
      omega
    simp only [ExecuteThunk.execute, same]
    exact loadRegister_mediated agree below fits (outside _ rfl)
  | store function args =>
    simp only [ExecuteThunk.execute, StoreFunction.execute_eq]
    exact storeRegister_mediated agree below (outside _ rfl)
  | lr width args =>
    obtain ⟨extend, same⟩ := executeLr_eq width
    simp only [ExecuteThunk.execute, same]
    exact loadReserved_mediated agree below
  | sc width args =>
    simp only [ExecuteThunk.execute, executeSc_eq]
    exact storeConditional_mediated agree below
  | amo function width args =>
    obtain ⟨combine, same⟩ := function.execute_eq
    simp only [ExecuteThunk.execute, same]
    exact amoReadModifyWrite_mediated agree below
  | op function args =>
    obtain ⟨operation, same⟩ := function.execute_eq
    simp only [ExecuteThunk.execute, same]
    exact .completed _ unchanged
  | opImm function args =>
    obtain ⟨operation, same⟩ := function.execute_eq
    simp only [ExecuteThunk.execute, same]
    exact .completed _ unchanged
  | shiftImm function args =>
    obtain ⟨operation, same⟩ := function.execute_eq
    simp only [ExecuteThunk.execute, same]
    exact .completed _ unchanged
  | mret =>
    simp only [ExecuteThunk.execute, mret]
    split
    · exact .trapped _ unchanged
    · exact .completed _ unchanged
  | sret =>
    simp only [ExecuteThunk.execute, sret]
    split
    · exact .trapped _ unchanged
    split
    · exact .trapped _ unchanged
    · exact .completed _ unchanged
  | wfi =>
    simp only [ExecuteThunk.execute, wfi]
    split
    · exact .trapped _ unchanged
    · exact wfiTurn_mediated agree _
  | sfenceVma word =>
    simp only [ExecuteThunk.execute, sfenceVma]
    split
    · exact .trapped _ unchanged
    split
    · exact .trapped _ unchanged
    · exact .completed _ unchanged
  | csrRegister function args =>
    obtain ⟨writes, update, same⟩ := function.execute_eq args registers
    simp only [ExecuteThunk.execute, same]
    exact csrReadWrite_mediated agree
  | csrImmediate function args =>
    obtain ⟨writes, update, same⟩ := function.execute_eq args
    simp only [ExecuteThunk.execute, same]
    exact csrReadWrite_mediated agree

end Instructions

/-! The fetch. -/

/-- Masks that end below a byte clear it. -/
private theorem and_byte_eq {left right mask : BitVec 32}
    (same : ∀ index < 4, byte mask index ≠ 0 → byte left index = byte right index) :
    left &&& mask = right &&& mask := by
  refine eq_of_byte (show 32 = 8 * 4 from rfl) fun index inside => ?_
  rw [byte_and, byte_and]
  by_cases clear : byte mask index = 0
  · simp [clear]
  · rw [same index inside clear]

/-- The low byte of a word tells how long its encoding is. -/
theorem encodingLength_byte (word : Bytes8) :
    bytesToNumber word &&& encodingLengthMask = (byte word 0).setWidth 32 &&& encodingLengthMask := by
  refine and_byte_eq fun index inside covered => ?_
  have first : index = 0 := by
    revert covered
    interval_cases index <;> decide
  subst first
  rw [byte_bytesToNumber _ _ inside]
  apply BitVec.eq_of_getLsbD_eq
  intro bit small
  rw [getLsbD_byte, getLsbD_byte, BitVec.getLsbD_setWidth, getLsbD_byte]
  simp [small]
  omega

/-- A compressed instruction is decoded from its first two bytes. -/
theorem decode_compressed (compressed : (byte first 0).setWidth 32 &&& encodingLengthMask ≠ encodingLength32Bit)
    (same : ∀ index < 2, byte second index = byte first index) : decode second = decode first := by
  have low : byte second 0 = byte first 0 := same 0 (by decide)
  have halfword : bytesToNumber second &&& 0xffff = bytesToNumber first &&& 0xffff := by
    refine and_byte_eq fun index inside covered => ?_
    have short : index < 2 := by
      revert covered
      interval_cases index <;> decide
    rw [byte_bytesToNumber _ _ inside, byte_bytesToNumber _ _ inside, same index short]
  simp only [decode, encodingLength_byte, low, halfword, ne_eq, compressed, not_false_eq_true, if_true]

/-- Two fetches that go the same way: to one instruction, or into one trap. -/
inductive SameFetch (left right : Memory) : Fetch → Fetch → Prop
  | fetched (first second : Bytes8) (same : decode second = decode first) :
      SameFetch left right (.fetched first left) (.fetched second right)
  | faulted (after : Registers) : SameFetch left right (.faulted after left) (.faulted after right)

/-- What is fetched depends on bytes the PMP grants, although four are loaded before the check. -/
theorem fetchInstruction_mediated (agree : AgreeOff (Concealed registers left.layout) left right)
    (below : ∀ access, accessIsMachine registers access = false)
    (outside : OutsideDevices left.layout registers.programCounter) :
    SameFetch left right (fetchInstruction registers left) (fetchInstruction registers right) := by
  obtain ⟨first, second, loaded, loaded', same⟩ := agree.loadBytes outside (show 4 ≤ 8 by decide)
  have unmapped (byteLength : Nat) : trapIfFetchUnmapped registers right registers.programCounter byteLength =
      trapIfFetchUnmapped registers left registers.programCounter byteLength := by
    rw [trapIfFetchUnmapped, trapIfFetchUnmapped, agree.layout]
  have granted (byteLength index : Nat) (inside : index < byteLength)
      (allowed : ¬ physicalMemoryAccessDenied registers registers.programCounter byteLength .fetch = true) :
      VisibleAt (Concealed registers left.layout) left.layout (registers.programCounter.toNat + index) :=
    visibleAt_of_fetch (byteGranted_of_allowed (below _) (by simpa using allowed) inside)
  simp only [fetchInstruction, loaded, loaded', unmapped]
  by_cases low : byte second 0 = byte first 0
  · rw [low]
    by_cases whole : (byte first 0).setWidth 32 &&& encodingLengthMask = encodingLength32Bit
    · rw [if_pos whole]
      split
      · exact .faulted _
      · rename_i allowed
        have equal : second = first := eq_of_byte (show 64 = 8 * 8 from rfl) fun index _ =>
          same index fun inside => granted 4 index inside allowed
        split
        · exact .faulted _
        · exact .fetched _ _ (by rw [equal])
    · rw [if_neg whole]
      split
      · exact .faulted _
      · rename_i allowed
        have halfword (index : Nat) (short : index < 2) : byte second index = byte first index :=
          same index fun _ => granted 2 index short allowed
        split
        · exact .faulted _
        · exact .fetched _ _ (decode_compressed whole halfword)
  · -- The lengths may differ here, but neither can be granted.
    have denied (byteLength : Nat) (positive : 0 < byteLength) :
        physicalMemoryAccessDenied registers registers.programCounter byteLength .fetch = true := by
      by_contra allowed
      exact low (same 0 fun _ => granted byteLength 0 positive allowed)
    rw [if_pos (denied _ (by split <;> decide)), if_pos (denied _ (by split <;> decide))]
    exact .faulted _

/-- The two memories of a pair of runs: alike but for concealed RAM bytes. -/
structure AlikeButConcealed (registers : Registers) (left right : Memory) : Prop where
  layout : right.layout = left.layout
  worker : right.worker = left.worker
  bytes : ∀ position, ¬ Concealed registers left.layout position → left.bytes position = right.bytes position

/-- What an execution shows of itself, its memory left out. -/
inductive ExecutionShown where
  | completed (registers : Registers)
  | trapped (registers : Registers)
  | waiting (registers : Registers) (fromLevel : BitVec 32)
  | threw (message : String)

/-- How an execution ended, and with which registers, CSRs, PC and privilege. -/
def Execution.shown : Execution → ExecutionShown
  | .completed registers _ => .completed registers
  | .trapped registers _ => .trapped registers
  | .waiting registers _ fromLevel => .waiting registers fromLevel
  | .threw message => .threw message

/-- The memory an execution left. -/
def Execution.memory? : Execution → Option Memory
  | .completed _ memory | .trapped _ memory | .waiting _ memory _ => some memory
  | .threw _ => none

theorem MediatedOutcome.shown (outcome : MediatedOutcome base left first second) : second.shown = first.shown := by
  cases outcome <;> rfl

theorem MediatedOutcome.writes (outcome : MediatedOutcome base left first second)
    (ended : first.memory? = some after) : ChangesOnly (Writable base left.layout) left after := by
  cases outcome with
  | completed registers memories =>
    cases ended
    exact memories.writes
  | trapped registers memories =>
    cases ended
    exact memories.writes
  | waiting registers fromLevel memories =>
    cases ended
    exact memories.writes
  | threw message => cases ended

theorem stepInstruction_mediated (agree : AgreeOff (Concealed registers left.layout) left right)
    (below : ∀ access, accessIsMachine registers access = false)
    (outside : OutsideDevices left.layout registers.programCounter)
    (effective : ∀ instructionBytes memory address,
      fetchInstruction registers left = .fetched instructionBytes memory →
        (decode instructionBytes).1.effectiveAddress registers = some address →
          OutsideDevices left.layout address) :
    MediatedOutcome registers left (stepInstruction registers left) (stepInstruction registers right) := by
  have fetched := fetchInstruction_mediated agree below outside
  rw [stepInstruction, stepInstruction]
  generalize found : fetchInstruction registers left = first at fetched effective ⊢
  generalize fetchInstruction registers right = second at fetched ⊢
  cases fetched with
  | faulted after => exact .trapped _ agree.mediated
  | fetched first second same =>
    dsimp only
    rw [same]
    have begun : AgreeOff (Concealed (beginInstructionRetire registers) left.layout) left right := agree
    have executed : MediatedOutcome (beginInstructionRetire registers) left
        ((decode first).1.execute (beginInstructionRetire registers) left (decode first).2)
        ((decode first).1.execute (beginInstructionRetire registers) right (decode first).2) :=
      execute_mediated begun below (decode first).1 fun address reached => effective _ _ _ rfl reached
    exact executed.of_beginRetire.commit

/-- Below M a step ends in the same registers whatever the concealed RAM bytes are, and changes
no RAM byte whose own PMP entry does not grant a store. -/
theorem stepInstruction_isolated (reachable : CpuReachable registers)
    (below : registers.privilegeMode ≠ privilegeMachine) (alike : AlikeButConcealed registers left right)
    (outside : OutsideDevices left.layout registers.programCounter)
    (effective : ∀ instructionBytes memory address,
      fetchInstruction registers left = .fetched instructionBytes memory →
        (decode instructionBytes).1.effectiveAddress registers = some address →
          OutsideDevices left.layout address) :
    (stepInstruction registers right).shown = (stepInstruction registers left).shown ∧
      ∀ after, (stepInstruction registers left).memory? = some after →
        ∀ offset < left.layout.ram.hostByteLength,
          after.bytes (left.layout.ram.hostIndex + offset) ≠ left.bytes (left.layout.ram.hostIndex + offset) →
            byteGranted registers (left.layout.ram.guestAddress.toNat + offset) .store = true := by
  have clear : ModifyPrivilegeClear (registers.controlAndStatus Csr.mstatus) := reachable.modifyPrivilegeClear below
  have agree : AgreeOff (Concealed registers left.layout) left right :=
    ⟨alike.layout, alike.worker, alike.bytes, fun _ => concealed_inRam⟩
  have outcome := stepInstruction_mediated agree (clear.accessIsMachine below) outside effective
  refine ⟨outcome.shown, fun after ended offset inside changed => ?_⟩
  by_contra refused
  refine changed ((outcome.writes ended).bytes _ fun writable => refused ?_)
  exact writable offset inside rfl

/-- U-mode at the start of RAM, with no PMP entry set. -/
def confinedRegisters : Registers :=
  returnFromMachineTrap (advanceProgramCounter
    (writeControlAndStatusRegister createRegisters Csr.mepc 0x80000000) 4)

theorem confinedRegisters_reachable : CpuReachable confinedRegisters :=
  (Relation.ReflTransGen.single (.execute (.csrImmediate .csrrwi ⟨0, 0x80000000, Csr.mepc, 0⟩) defaultMemory 4 rfl)).tail
    (.execute .mret defaultMemory 4 rfl)

/-- The concealed byte at the PC even decides how long the encoding is. -/
theorem stepInstruction_isolated_confined :
    (stepInstruction confinedRegisters (defaultMemory.store 0 3)).shown =
        (stepInstruction confinedRegisters defaultMemory).shown ∧
      ∀ after, (stepInstruction confinedRegisters defaultMemory).memory? = some after →
        ∀ offset < defaultLayout.ram.hostByteLength,
          after.bytes (defaultLayout.ram.hostIndex + offset) ≠ defaultMemory.bytes (defaultLayout.ram.hostIndex + offset) →
            byteGranted confinedRegisters (defaultLayout.ram.guestAddress.toNat + offset) .store = true := by
  refine stepInstruction_isolated confinedRegisters_reachable (by decide) ⟨rfl, rfl, fun position visible => ?_⟩
    ?_ fun instructionBytes memory address fetched => ?_
  · rw [Memory.store_bytes, if_neg]
    rintro rfl
    exact visible ⟨0, by decide, rfl, by decide, by decide⟩
  · intro regionId offset resolved
    have place : resolveGuestAddressToRegionAndOffset defaultLayout.table confinedRegisters.programCounter =
        some (ramRegionId, 0) := by decide
    cases place.symm.trans resolved
    decide
  · have faulted : fetchInstruction confinedRegisters defaultMemory = .faulted
        (enterTrap confinedRegisters causeInstructionAccessFault confinedRegisters.programCounter) defaultMemory := rfl
    cases faulted.symm.trans fetched

end YaRiscV.Emulator
