import YaRiscV.Emulator.DeviceAgreement
import YaRiscV.Emulator.Cpu.Isolation
import YaRiscV.Emulator.Cpu.PmpBelowMachine

/-! A turn below M shows nothing of the concealed RAM bytes wherever it fetches, loads and stores,
in a device's window or not. -/

namespace YaRiscV.Emulator

open YaRiscV.Library YaRiscV.Utils Relation

variable {registers base : Registers} {left right memory after : Memory} {address length : Bytes8}

/-! Accesses in the devices' windows write no RAM byte. -/

theorem loadUartRegister_confined : Confined uartReach memory (loadUartRegister memory registerIndex).2 := by
  have refreshed {memory : Memory} : Confined uartReach memory (refreshUartIrq memory) := refreshUartIrq_confined
  simp only [loadUartRegister]
  split
  · refine Confined.trans ?_ refreshed
    simp only [popReceive]
    split
    · exact .refl
    · exact storeUart_confined (by decide) _
  split
  · split
    · have sticky : Confined uartReach memory (setThreIrqSticky memory false) := storeUart_confined (by decide) _
      exact sticky.trans refreshed
    · exact .refl
  split <;> exact .refl

theorem loadBytesFromUart_confined :
    Confined uartReach memory (loadBytesFromUart memory destination offset byteLength).2 := by
  refine forEachIndex_preserves (fun reached : Bytes8 × Memory => Confined uartReach memory reached.2) .refl
    fun byteIndex _ reached confined => ?_
  obtain ⟨destination, middle⟩ := reached
  simp only [loadUartTurn]
  split
  · exact confined.trans loadUartRegister_confined
  · exact confined

/-- A register read behind a tick, where it is `mtime`. -/
private theorem syncedRead_confined {read : Memory → Result}
    (synced : (if register = ClintTimeRegister.mtime then tickClint memory else .ok memory).map
      (fun memory => (read memory, memory)) = .ok (value, after)) : Confined clintReach memory after := by
  obtain ⟨reached, ticked, same⟩ := except_map_ok.mp synced
  cases same
  split at ticked
  · exact tickClint_confined ticked
  · cases ticked
    exact .refl

theorem loadClintByte_confined (loaded : loadClintByte memory register byteOffset = .ok (value, after)) :
    Confined clintReach memory after := by
  cases register with
  | msip =>
    cases loaded
    exact .refl
  | time register => exact syncedRead_confined loaded

theorem loadBytesFromClint_confined
    (loaded : loadBytesFromClint destination memory offset byteLength = .ok (value, after)) :
    Confined clintReach memory after := by
  simp only [loadBytesFromClint] at loaded
  split at loaded
  · exact syncedRead_confined loaded
  · refine forEachIndex_preserves (fun state : Except String (Bytes8 × Memory) =>
      ∀ value after, state = .ok (value, after) → Confined clintReach memory after) ?_ ?_ _ _ loaded
    · intro value after same
      cases same
      exact .refl
    intro byteIndex _ state confined value after turned
    obtain ⟨⟨destination, middle⟩, rfl, body⟩ := except_bind_ok.mp turned
    have reached := confined destination middle rfl
    dsimp only at body
    split at body
    · cases body
      exact reached
    · obtain ⟨⟨byteLoaded, next⟩, loaded, same⟩ := except_map_ok.mp body
      cases same
      exact reached.trans (loadClintByte_confined loaded)

theorem loadBytes_writable (loaded : loadBytes memory address byteLength = .ok (value, after)) :
    ChangesOnly (Writable registers memory.layout) memory after := by
  simp only [loadBytes] at loaded
  split at loaded
  · cases loaded
    exact .refl
  split at loaded
  · cases loaded
    exact .refl
  split at loaded
  · have confined : Confined uartReach memory after := by
      rw [show after = _ from (congrArg Prod.snd (Except.ok.inj loaded)).symm]
      exact loadBytesFromUart_confined
    exact confined.changes.writable (by decide)
  split at loaded
  · exact (loadBytesFromClint_confined loaded).changes.writable (by decide)
  split at loaded
  · have confined : Confined plicReach memory after := by
      rw [show after = _ from (congrArg Prod.snd (Except.ok.inj loaded)).symm]
      exact loadBytesFromPlic_confined _ _ _ _
    exact confined.changes.writable (by decide)
  split at loaded
  · cases loaded
    exact .refl
  · cases loaded
    exact .refl

theorem storeBytesToRegion_device (tail : TransmitTailValid memory) (device : ¬ OutsideDevices memory.layout address)
    (stored : storeBytesToRegion memory address source byteLength = .ok after) :
    ChangesOnly (Writable registers memory.layout) memory after := by
  simp only [storeBytesToRegion] at stored
  cases resolved : resolveGuestAddressToRegionAndOffset memory.layout.table address with
  | none => exact absurd (fun _ _ found => by cases resolved.symm.trans found) device
  | some place =>
    rw [resolved] at stored
    dsimp only at stored
    split at stored
    · rename_i ram
      refine absurd (fun regionId offset found => ?_) device
      have same : regionId = ramRegionId := (congrArg Prod.fst (Option.some.inj (found.symm.trans resolved))).trans ram
      rw [same]
      decide
    split at stored
    · cases stored
      exact (storeBytesToUart_confined tail).1.changes.writable (by decide)
    split at stored
    · exact (storeBytesToClint_confined stored).changes.writable (by decide)
    split at stored
    · cases stored
      exact storeBytesToPlic_confined.changes.writable (by decide)
    split at stored
    · cases stored
      exact storeBytesToSyscon_confined.changes.writable (by decide)
    · cases stored
      exact .refl

theorem storeBytes_device (tail : TransmitTailValid memory) (device : ¬ OutsideDevices memory.layout address)
    (stored : storeBytes memory address source byteLength = .ok after) :
    ChangesOnly (Writable registers memory.layout) memory after := by
  obtain ⟨written, region, rfl⟩ := except_map_ok.mp stored
  have acquired : ChangesOnly (Writable registers memory.layout) memory (acquireMonitorLock memory) :=
    acquireMonitorLock_changes.writable (by decide)
  have revoked : ChangesOnly (Writable registers memory.layout) memory
      (invalidateOverlappingReservationsLocked (acquireMonitorLock memory) address byteLength) :=
    acquired.writable_trans (invalidate_confined.changes.writable (by decide))
  have kept : TransmitTailValid (invalidateOverlappingReservationsLocked (acquireMonitorLock memory) address byteLength) :=
    (tail.of_changes acquireMonitorLock_changes (by decide)).of_confined invalidate_confined (by decide)
  have released : ChangesOnly (Writable registers written.layout) written (releaseMonitorLock written) :=
    (releaseMonitorLock_changes written).writable (by decide)
  have body : ChangesOnly (Writable registers _) _ written :=
    storeBytesToRegion_device kept (by rwa [revoked.layout]) region
  exact ((revoked.writable_trans body).writable_trans released).writable_trans releaseScMonitorIfHeld_writable

/-! Instructions. -/

/-- What an execution does from a mediated pair on. -/
theorem MediatedOutcome.from (memories : Mediated base left first second) (same : first.layout = left.layout)
    {executed executed' : Execution} (outcome : MediatedOutcome base first executed executed') :
    MediatedOutcome base left executed executed' := by
  have extend {middle middle' : Memory} (later : Mediated base first middle middle') :
      Mediated base left middle middle' :=
    ⟨same ▸ later.agree, memories.writes.writable_trans later.writes⟩
  cases outcome with
  | completed after later => exact .completed _ (extend later)
  | trapped after later => exact .trapped _ (extend later)
  | waiting after fromLevel later => exact .waiting _ _ (extend later)
  | threw message => exact .threw message

section Instructions

variable (agree : AgreeOff (Concealed registers left.layout) left right)
  (below : ∀ access, accessIsMachine registers access = false) (current : DevicesCurrent left)

include agree below current

theorem loadRegister_alike (fits : byteLength ≤ 8) :
    MediatedOutcome registers left (loadRegister registers left byteLength extend args length)
      (loadRegister registers right byteLength extend args length) := by
  by_cases outside : OutsideDevices left.layout (loadEffectiveAddress registers args)
  · exact loadRegister_mediated agree below fits outside
  have checked : denyLoad registers right (loadEffectiveAddress registers args) byteLength =
      denyLoad registers left (loadEffectiveAddress registers args) byteLength := by
    rw [denyLoad, denyLoad, agree.layout]
  simp only [loadRegister, checked]
  split
  · exact .trapped _ agree.mediated
  · have outcomes := agree.loadBytes_device current outside byteLength
    generalize found : loadBytes left _ _ = loaded at outcomes ⊢
    generalize loadBytes right _ _ = loaded' at outcomes ⊢
    cases outcomes with
    | error message => exact .threw message
    | @ok first second values =>
      obtain ⟨value, first⟩ := first
      obtain ⟨value', second⟩ := second
      obtain ⟨rfl, memories⟩ := values
      exact .completed _ ⟨memories, loadBytes_writable found⟩

theorem storeRegister_alike :
    MediatedOutcome registers left (storeRegister registers left byteLength args length)
      (storeRegister registers right byteLength args length) := by
  by_cases outside : OutsideDevices left.layout (storeEffectiveAddress registers args)
  · exact storeRegister_mediated agree below outside
  have checked : denyStore registers right (storeEffectiveAddress registers args) byteLength =
      denyStore registers left (storeEffectiveAddress registers args) byteLength := by
    rw [denyStore, denyStore, agree.layout]
  simp only [storeRegister, checked]
  split
  · exact .trapped _ agree.mediated
  · have outcomes := agree.storeBytes_anywhere (storeEffectiveAddress registers args)
      (readGeneralPurposeRegister registers args.sourceRegister2) byteLength
    generalize found : storeBytes left _ _ _ = stored at outcomes ⊢
    generalize storeBytes right _ _ _ = stored' at outcomes ⊢
    cases outcomes with
    | error message => exact .threw message
    | ok memories => exact .completed _ ⟨memories, storeBytes_device current.rings.txTail outside found⟩

/-- Every instruction, wherever it loads and stores. -/
theorem execute_alike (thunk : ExecuteThunk) :
    MediatedOutcome registers left (thunk.execute registers left length) (thunk.execute registers right length) := by
  cases thunk with
  | load function args =>
    obtain ⟨byteLength, extend, widths, same⟩ := function.execute_eq
    have fits : byteLength ≤ 8 := by
      simp only [List.mem_cons, List.not_mem_nil, or_false] at widths
      omega
    simp only [ExecuteThunk.execute, same]
    exact loadRegister_alike agree below current fits
  | store function args =>
    simp only [ExecuteThunk.execute, StoreFunction.execute_eq]
    exact storeRegister_alike agree below current
  | lr width args =>
    obtain ⟨extend, same⟩ := executeLr_eq width
    simp only [ExecuteThunk.execute, same]
    exact loadReserved_mediated agree below
  | sc width args =>
    simp only [ExecuteThunk.execute, executeSc_eq]
    exact storeConditional_mediated agree below
  | amo function width args =>
    obtain ⟨combine, same⟩ := function.execute_eq
    simp only [ExecuteThunk.execute, same]
    exact amoReadModifyWrite_mediated agree below
  | _ => exact execute_mediated agree below _ fun address reached => by cases reached

end Instructions

/-! Fetches. -/

/-- Two fetches that go the same way, the memories they leave included. -/
inductive FetchAlike (registers : Registers) (left : Memory) : Fetch → Fetch → Prop
  | fetched (first second : Bytes8) (same : decode second = decode first)
      (memories : Mediated registers left middle middle') (run : DeviceRun left middle) :
      FetchAlike registers left (.fetched first middle) (.fetched second middle')
  | faulted (after : Registers) (memories : Mediated registers left middle middle') :
      FetchAlike registers left (.faulted after middle) (.faulted after middle')

theorem fetchInstruction_alike (agree : AgreeOff (Concealed registers left.layout) left right)
    (below : ∀ access, accessIsMachine registers access = false) (current : DevicesCurrent left) :
    FetchAlike registers left (fetchInstruction registers left) (fetchInstruction registers right) := by
  by_cases outside : OutsideDevices left.layout registers.programCounter
  · have same := fetchInstruction_mediated agree below outside
    generalize fetchInstruction registers left = first at same ⊢
    generalize fetchInstruction registers right = second at same ⊢
    cases same with
    | fetched first second same => exact .fetched _ _ same agree.mediated .refl
    | faulted after => exact .faulted _ agree.mediated
  · obtain ⟨instructionBytes, middle, loaded, run⟩ := loadBytes_completes current registers.programCounter 4
    have outcomes := agree.loadBytes_device current outside 4
    rw [loaded] at outcomes
    generalize found : loadBytes right registers.programCounter 4 = loaded' at outcomes
    cases outcomes with
    | @ok _ second values =>
      obtain ⟨instructionBytes', middle'⟩ := second
      obtain ⟨rfl, agree⟩ := values
      have memories : Mediated registers left middle middle' := ⟨agree, loadBytes_writable loaded⟩
      have unmapped (byteLength : Nat) :
          trapIfFetchUnmapped registers middle' registers.programCounter byteLength =
            trapIfFetchUnmapped registers middle registers.programCounter byteLength := by
        rw [trapIfFetchUnmapped, trapIfFetchUnmapped, memories.agree.layout]
      simp only [fetchInstruction, loaded, found, unmapped]
      split
      all_goals
        split
        · exact .faulted _ memories
        split
        · exact .faulted _ memories
        · exact .fetched _ _ rfl memories run

/-- A step from anywhere to anywhere. -/
theorem stepInstruction_alike (agree : AgreeOff (Concealed registers left.layout) left right)
    (below : ∀ access, accessIsMachine registers access = false) (current : DevicesCurrent left) :
    MediatedOutcome registers left (stepInstruction registers left) (stepInstruction registers right) := by
  have fetched := fetchInstruction_alike agree below current
  rw [stepInstruction, stepInstruction]
  generalize fetchInstruction registers left = first at fetched ⊢
  generalize fetchInstruction registers right = second at fetched ⊢
  cases fetched with
  | faulted after memories => exact .trapped _ memories
  | @fetched middle middle' first second same memories run =>
    dsimp only
    rw [same]
    have layout : middle.layout = left.layout := memories.writes.layout
    have begun : AgreeOff (Concealed (beginInstructionRetire registers) middle.layout) middle middle' := by
      rw [layout]
      exact memories.agree
    have executed : MediatedOutcome (beginInstructionRetire registers) middle
        ((decode first).1.execute (beginInstructionRetire registers) middle (decode first).2)
        ((decode first).1.execute (beginInstructionRetire registers) middle' (decode first).2) :=
      execute_alike begun below (current.reached run) (decode first).1
    exact MediatedOutcome.from memories layout executed.of_beginRetire.commit

/-- What differs and what may be written is the same before and after such a change. -/
theorem MediatedOutcome.of_pmpKept (kept : PmpKept base registers) {executed executed' : Execution}
    (outcome : MediatedOutcome registers left executed executed') : MediatedOutcome base left executed executed' := by
  have memories {first second : Memory} (mediated : Mediated registers left first second) :
      Mediated base left first second :=
    ⟨kept.concealed ▸ mediated.agree, kept.writable ▸ mediated.writes⟩
  cases outcome with
  | completed after later => exact .completed _ (memories later)
  | trapped after later => exact .trapped _ (memories later)
  | waiting after fromLevel later => exact .waiting _ _ (memories later)
  | threw message => exact .threw message

/-! Turns. -/

/-- A turn of the loop below M: the sample, an interrupt or a step. -/
theorem runLoopTurn_alike (agree : AgreeOff (Concealed registers left.layout) left right)
    (reachable : CpuReachable registers) (below : registers.privilegeMode ≠ privilegeMachine)
    (current : MachineCurrent registers left) :
    MediatedOutcome registers left (runLoopTurn registers left) (runLoopTurn registers right) := by
  have sampled := agree.sampleDevicePending registers
  have memories : Mediated registers left (sampleDevicePending registers left).2
      (sampleDevicePending registers right).2 :=
    ⟨sampled.memory, (sampleDevicePending_confined registers left).changes.writable (by decide)⟩
  have kept := PmpKept.sample registers left
  have reached : CpuReachable (sampleDevicePending registers left).1 := reachable.tail (.sample left)
  have still : (sampleDevicePending registers left).1.privilegeMode ≠ privilegeMachine := by
    rwa [(sampleDevicePending_sampledFrom registers left).privilegeMode]
  have devices := (sampleDevicePending_machineCurrent current).devices
  have layout : (sampleDevicePending registers left).2.layout = left.layout := memories.writes.layout
  simp only [runLoopTurn, sampled.value]
  split
  · exact .trapped _ memories
  split
  · exact .trapped _ memories
  · have agreed : AgreeOff (Concealed (sampleDevicePending registers left).1
        (sampleDevicePending registers left).2.layout) (sampleDevicePending registers left).2
        (sampleDevicePending registers right).2 := by
      rw [kept.concealed, layout]
      exact sampled.memory
    have stepped := stepInstruction_alike agreed ((reached.modifyPrivilegeClear still).accessIsMachine still) devices
    exact MediatedOutcome.from memories layout (stepped.of_pmpKept kept)

end YaRiscV.Emulator
