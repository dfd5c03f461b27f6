import YaRiscV.Emulator.Uart.DeviceRuns
import YaRiscV.Emulator.Cpu.MonitorLock
import YaRiscV.Emulator.Cpu.Run

/-! What a hart's accesses do to the devices: with the devices current every load, store and
instruction returns, and the memory it leaves is reached by steps of the devices. -/

namespace YaRiscV.Emulator

open YaRiscV.Library YaRiscV.Utils Relation

variable {memory middle after : Memory} {ids : List String}

/-- An access that returns at the end of a run of the devices. -/
def Completes (memory : Memory) (outcome : Except String (Result × Memory)) : Prop :=
  ∃ result after, outcome = .ok (result, after) ∧ DeviceRun memory after

/-- A write that returns at the end of a run of the devices. -/
def Writes (memory : Memory) (outcome : Except String Memory) : Prop :=
  ∃ after, outcome = .ok after ∧ DeviceRun memory after

theorem Completes.map {outcome : Except String (Result × Memory)} (completes : Completes memory outcome)
    (change : Result → Other) : Completes memory (outcome.map fun reached => (change reached.1, reached.2)) := by
  obtain ⟨result, after, rfl, run⟩ := completes
  exact ⟨change result, after, rfl, run⟩

theorem DeviceRun.plain (changes : ChangesOnly (InRegions memory.layout ids) memory after)
    (within : ids ⊆ plainReach) : DeviceRun memory after :=
  .single (.plain (changes.mono fun _ ⟨id, member, found⟩ => ⟨id, within member, found⟩))

theorem DeviceRun.of_confined (confined : Confined ids memory after) (within : ids ⊆ plainReach) :
    DeviceRun memory after := .plain confined.changes within

theorem DeviceRun.monitor (changes : ChangesOnly (InMonitor memory.layout) memory after) : DeviceRun memory after :=
  .plain changes (by decide)

/-! The CLINT. -/

theorem tickClint_writes (current : DevicesCurrent memory) : Writes memory (tickClint memory) := by
  obtain ⟨after, ticked, _⟩ := tickClint_kept current.clint
  exact ⟨after, ticked, .single (.tick ticked)⟩

theorem storeClintTimeBytes_writes (current : DevicesCurrent memory) (register : ClintTimeRegister) (byteOffset : Nat)
    (source : Bytes8) (byteLength : Nat) :
    Writes memory (storeClintTimeBytes memory register byteOffset source byteLength) := by
  obtain ⟨after, stored, _⟩ := storeClintTimeBytes_kept current.clint register byteOffset source byteLength
  exact ⟨after, stored, .single (.timeStore register byteOffset source byteLength stored)⟩

/-- A register is read behind a tick, where it is `mtime`. -/
theorem syncedRead_completes (current : DevicesCurrent memory) (register : ClintTimeRegister) (read : Memory → Result) :
    Completes memory ((if register = .mtime then tickClint memory else .ok memory).map fun memory =>
      (read memory, memory)) := by
  split
  · obtain ⟨after, ticked, run⟩ := tickClint_writes current
    rw [ticked]
    exact ⟨read after, after, rfl, run⟩
  · exact ⟨read memory, memory, rfl, .refl⟩

theorem loadClintByte_completes (current : DevicesCurrent memory) (register : ClintRegister) (byteOffset : Nat) :
    Completes memory (loadClintByte memory register byteOffset) := by
  cases register with
  | msip => exact ⟨_, memory, rfl, .refl⟩
  | time register =>
    exact syncedRead_completes current register fun memory => byte (readTimeRegister memory register) byteOffset

theorem loadClintTurn_run (current : DevicesCurrent memory) (offset : Int) (byteIndex : Nat)
    (destination : Bytes8) : Completes memory (loadClintTurn offset byteIndex (.ok (destination, memory))) := by
  simp only [loadClintTurn, Except.bind]
  split
  · exact ⟨_, memory, rfl, .refl⟩
  · exact (loadClintByte_completes current _ _).map fun value => setByte destination byteIndex value

theorem loadBytesFromClint_completes (current : DevicesCurrent memory) (destination : Bytes8) (offset : Int)
    (byteLength : Nat) : Completes memory (loadBytesFromClint destination memory offset byteLength) := by
  simp only [loadBytesFromClint]
  split
  · exact syncedRead_completes current _ _
  · refine forEachIndex_preserves (Completes memory) ⟨destination, memory, rfl, .refl⟩ ?_
    intro byteIndex _ state completes
    obtain ⟨loaded, middle, rfl, run⟩ := completes
    obtain ⟨value, after, turned, further⟩ := loadClintTurn_run (current.reached run) offset byteIndex loaded
    exact ⟨value, after, turned, run.trans further⟩

theorem storeClintTurn_writes (current : DevicesCurrent memory) (offset : Int) (source : Bytes8) (byteIndex : Nat) :
    Writes memory (storeClintTurn offset source byteIndex (.ok memory)) := by
  simp only [storeClintTurn, Except.bind]
  split
  · exact ⟨memory, rfl, .refl⟩
  · rename_i register byteOffset _
    cases register with
    | msip =>
      refine ⟨_, rfl, ?_⟩
      split
      · exact .single (.software _)
      · exact .refl
    | time register => exact storeClintTimeBytes_writes current register byteOffset _ 1

theorem storeBytesToClint_writes (current : DevicesCurrent memory) (offset : Int) (source : Bytes8)
    (byteLength : Nat) : Writes memory (storeBytesToClint memory offset source byteLength) := by
  simp only [storeBytesToClint]
  split
  · exact storeClintTimeBytes_writes current _ _ source byteLength
  · refine forEachIndex_preserves (Writes memory) ⟨memory, rfl, .refl⟩ ?_
    intro byteIndex _ state writes
    obtain ⟨middle, rfl, run⟩ := writes
    obtain ⟨after, turned, further⟩ := storeClintTurn_writes (current.reached run) offset source byteIndex
    exact ⟨after, turned, run.trans further⟩

/-! The PLIC. -/

theorem loadPlicByte_run (memory : Memory) (address : Bytes8) : DeviceRun memory (loadPlicByte memory address).2 := by
  rcases loadPlicByte_cases memory address with same | ⟨context, claimed⟩
  · rw [same]
  · rw [claimed]
    exact .single (.claim context)

theorem loadBytesFromPlic_run (destination : Bytes8) (memory : Memory) (address : Bytes8) (byteLength : Nat) :
    DeviceRun memory (loadBytesFromPlic destination memory address byteLength).2 :=
  forEachIndex_preserves (fun reached : Bytes8 × Memory × Bytes8 => DeviceRun memory reached.2.1) .refl
    fun _ _ _ run => run.trans (loadPlicByte_run _ _)

theorem storeBytesToPlic_run (memory : Memory) (address source : Bytes8) (byteLength : Nat) :
    DeviceRun memory (storeBytesToPlic memory address source byteLength) := by
  rw [storeBytesToPlic]
  exact forEachIndex_preserves (fun reached : Memory × Bytes8 => DeviceRun memory reached.1) .refl
    fun _ _ _ run => run.tail (.plicStore (storePlicByte_cases _ _ _))

/-! The bus. -/

theorem loadBytes_completes (current : DevicesCurrent memory) (address : Bytes8) (byteLength : Nat) :
    Completes memory (loadBytes memory address byteLength) := by
  simp only [loadBytes]
  cases resolveGuestAddressToRegionAndOffset memory.layout.table address with
  | none => exact ⟨_, memory, rfl, .refl⟩
  | some resolved =>
    obtain ⟨regionId, offset⟩ := resolved
    dsimp only
    split
    · exact ⟨_, memory, rfl, .refl⟩
    split
    · exact ⟨_, _, rfl, loadBytesFromUart_run _ _ _⟩
    split
    · exact loadBytesFromClint_completes current _ _ _
    split
    · exact ⟨_, _, rfl, loadBytesFromPlic_run _ memory address byteLength⟩
    split
    · exact ⟨_, memory, rfl, .refl⟩
    · exact ⟨_, memory, rfl, .refl⟩

theorem storeBytesToRegion_writes (current : DevicesCurrent memory) (address source : Bytes8) (byteLength : Nat) :
    Writes memory (storeBytesToRegion memory address source byteLength) := by
  simp only [storeBytesToRegion]
  cases resolveGuestAddressToRegionAndOffset memory.layout.table address with
  | none => exact ⟨memory, rfl, .refl⟩
  | some resolved =>
    obtain ⟨regionId, offset⟩ := resolved
    dsimp only
    split
    · exact ⟨_, rfl, .of_confined storeBytesToRam_confined (by decide)⟩
    split
    · exact ⟨_, rfl, storeBytesToUart_run current offset source byteLength⟩
    split
    · exact storeBytesToClint_writes current _ _ _
    split
    · exact ⟨_, rfl, storeBytesToPlic_run memory address source byteLength⟩
    split
    · exact ⟨_, rfl, .of_confined storeBytesToSyscon_confined (by decide)⟩
    · exact ⟨memory, rfl, .refl⟩

/-- A store, with its invalidation and its lock. -/
theorem storeBytes_writes (current : DevicesCurrent memory) (address source : Bytes8) (byteLength : Nat) :
    Writes memory (storeBytes memory address source byteLength) := by
  have opened : DeviceRun memory
      (invalidateOverlappingReservationsLocked (acquireMonitorLock memory) address byteLength) :=
    .monitor (storeBytes_opens memory address byteLength)
  obtain ⟨stored, written, run⟩ := storeBytesToRegion_writes (current.reached opened) address source byteLength
  have closed : DeviceRun stored (releaseScMonitorIfHeld (releaseMonitorLock stored)) := .monitor (storeBytes_closes stored)
  refine ⟨_, ?_, (opened.trans run).trans closed⟩
  simp only [storeBytes, written]
  rfl

/-! Instructions. -/

/-- An instruction that returns, the memory it leaves at the end of a run of the devices. -/
def Runs (memory : Memory) (execution : Execution) : Prop :=
  ∃ after, execution.memory? = some after ∧ DeviceRun memory after

variable {registers : Registers} {thunk : ExecuteThunk}

/-- An instruction that leaves the memory alone. -/
theorem runs_same {execution : Execution} (same : execution.memory? = some memory) : Runs memory execution :=
  ⟨memory, same, .refl⟩

theorem loadRegister_runs (current : DevicesCurrent memory) :
    Runs memory (loadRegister registers memory byteLength extend args length) := by
  simp only [loadRegister]
  split
  · exact runs_same rfl
  · obtain ⟨loaded, after, returned, run⟩ := loadBytes_completes current (loadEffectiveAddress registers args) byteLength
    rw [returned]
    exact ⟨after, rfl, run⟩

theorem storeRegister_runs (current : DevicesCurrent memory) :
    Runs memory (storeRegister registers memory byteLength args length) := by
  simp only [storeRegister]
  split
  · exact runs_same rfl
  · obtain ⟨after, returned, run⟩ := storeBytes_writes current (storeEffectiveAddress registers args)
      (readGeneralPurposeRegister registers args.sourceRegister2) byteLength
    rw [returned]
    exact ⟨after, rfl, run⟩

theorem csrReadWrite_runs (current : DevicesCurrent memory) :
    Runs memory (csrReadWrite registers memory writes update destination index word length) := by
  simp only [csrReadWrite]
  split
  · exact runs_same rfl
  · simp only [snapshotControlAndStatusRegister]
    split
    · obtain ⟨after, ticked, run⟩ := tickClint_writes current
      rw [readClintMtimeBytes, ticked]
      exact ⟨after, rfl, run⟩
    · exact runs_same rfl

theorem loadReserved_runs : Runs memory (loadReserved registers memory width extend args length) := by
  simp only [loadReserved]
  split
  · exact runs_same rfl
  split
  · exact runs_same rfl
  have reserved : DeviceRun memory
      (loadAndReserve registers memory (readGeneralPurposeRegister registers args.sourceRegister1) width).2 := by
    have locked : Confined [reservationRegionId] memory
        (loadAndReserve registers memory (readGeneralPurposeRegister registers args.sourceRegister1) width).2 := by
      refine withMonitorLock_confined ?_
      split
      · exact .refl
      · exact setReservationLocked_confined
    exact .of_confined locked (by decide)
  split
  · rename_i ended
    rw [ended] at reserved
    exact ⟨_, rfl, reserved⟩
  · rename_i ended
    rw [ended] at reserved
    exact ⟨_, rfl, reserved⟩

/-- The end of a store-conditional that passed its checks. -/
theorem takeAndStore_run (free : MonitorFree memory) (hartId : Nat)
    (loaded : atomicLoadBytes memory address width = some value) (source : Bytes8) :
    DeviceRun memory (takeAndStore memory hartId address source width) := by
  cases taken : (tryTakeReservation memory hartId address width.byteLength).1 with
  | true =>
    obtain ⟨hostIndex, operation⟩ := takeAndStore_held free.kept taken loaded source
    exact .of_confined operation.confined (by decide)
  | false =>
    by_cases valid : hartId < reservationHartCount
    · exact .of_confined (takeAndStore_lost valid free.kept taken source).1 (by decide)
    · rw [takeAndStore_invalid valid free]

theorem storeConditional_runs (free : MonitorFree memory) :
    Runs memory (storeConditional registers memory width args length) := by
  simp only [storeConditional]
  split
  · exact runs_same rfl
  split
  · exact runs_same rfl
  split
  · exact runs_same rfl
  · rename_i loaded
    exact ⟨_, rfl, takeAndStore_run free (hartIdOf registers) loaded
      (readGeneralPurposeRegister registers args.sourceRegister2)⟩

theorem amoReadModifyWrite_runs : Runs memory (amoReadModifyWrite registers memory args width combine length) := by
  simp only [amoReadModifyWrite]
  split
  · exact runs_same rfl
  split
  · exact runs_same rfl
  split
  · exact runs_same rfl
  · rename_i loaded
    obtain ⟨stored, written, exchanged⟩ := amoLoop_eq loaded combine
      (readGeneralPurposeRegister registers args.sourceRegister2)
    obtain ⟨hostIndex, operation⟩ := atomicRamStore_atomicStore written
    rw [exchanged]
    exact ⟨_, rfl, .of_confined operation.confined (by decide)⟩

/-- Every instruction but `wfi`, which samples the wires. -/
theorem execute_runs (current : DevicesCurrent memory) (free : MonitorFree memory) (awake : thunk ≠ .wfi) :
    Runs memory (thunk.execute registers memory length) := by
  cases thunk with
  | load function args =>
    obtain ⟨byteLength, extend, _, same⟩ := function.execute_eq
    simp only [ExecuteThunk.execute, same]
    exact loadRegister_runs current
  | store function args =>
    simp only [ExecuteThunk.execute, StoreFunction.execute_eq]
    exact storeRegister_runs current
  | csrRegister function args =>
    obtain ⟨writes, update, same⟩ := function.execute_eq args registers
    simp only [ExecuteThunk.execute, same]
    exact csrReadWrite_runs current
  | csrImmediate function args =>
    obtain ⟨writes, update, same⟩ := function.execute_eq args
    simp only [ExecuteThunk.execute, same]
    exact csrReadWrite_runs current
  | lr width args =>
    obtain ⟨extend, same⟩ := executeLr_eq width
    simp only [ExecuteThunk.execute, same]
    exact loadReserved_runs
  | sc width args =>
    simp only [ExecuteThunk.execute, executeSc_eq]
    exact storeConditional_runs free
  | amo function width args =>
    obtain ⟨combine, same⟩ := function.execute_eq
    simp only [ExecuteThunk.execute, same]
    exact amoReadModifyWrite_runs
  | wfi => exact absurd rfl awake
  | op function args | opImm function args | shiftImm function args =>
    obtain ⟨operation, same⟩ := function.execute_eq
    simp only [ExecuteThunk.execute, same]
    exact runs_same rfl
  | branch function args =>
    obtain ⟨condition, same⟩ := function.execute_eq
    simp only [ExecuteThunk.execute, same, branchIf]
    split <;> exact runs_same rfl
  | mret | sret | sfenceVma =>
    simp only [ExecuteThunk.execute, mret, sret, sfenceVma]
    split_ifs <;> exact runs_same rfl
  | lui | auipc | jal | jalr | fence | fenceI | cNop | ecall | ebreak | illegalInstruction | illegalC =>
    exact runs_same rfl

end YaRiscV.Emulator
