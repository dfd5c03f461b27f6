import YaRiscV.Emulator.Clint.Compare
import YaRiscV.Emulator.MonitorOperations
import YaRiscV.Emulator.Machine

/-! Which host bytes a guest store can change, over every accepted region list: slabs do not
alias, and each window's stores stay in the slabs the window stands for. -/

namespace YaRiscV.Emulator

open YaRiscV.Library YaRiscV.Utils

variable {memory after : Memory}

/-- The bytes the region's part of a store can change. -/
def RegionTouches (layout : Layout) (address : Bytes8) (byteLength position : Nat) : Prop :=
  match resolveGuestAddressToRegionAndOffset layout.table address with
  | none => False
  | some (regionId, offset) =>
    if regionId = ramRegionId then
      ∃ i < byteLength, offset + i < layout.ram.guestByteLength ∧ offset + i < layout.ram.hostByteLength ∧
        position = layout.ram.hostIndex + (offset + i)
    else InRegions layout [regionId, plicRegionId, irqLevelRegionId] position

/-- The bytes a store can change: the region's and the monitor's. -/
def StoreTouches (layout : Layout) (address : Bytes8) (byteLength position : Nat) : Prop :=
  InMonitor layout position ∨ RegionTouches layout address byteLength position

/-- What every store finds: a transmit tail inside the ring and a frequency. -/
structure BusReady (memory : Memory) : Prop where
  tail : TransmitTailValid memory
  frequency : (readTimebaseHz memory).toNat ≠ 0

theorem readTimebaseHz_elsewhere (changes : ChangesOnly (InRegions memory.layout ids) memory after)
    (clint : clintRegionId ∉ ids) : readTimebaseHz after = readTimebaseHz memory := by
  rw [readTimebaseHz, readTimebaseHz, clintHostUint64, clintHostUint64, changes.layout]
  refine changes.load64 fun offset small inside => ?_
  have apart := inside.apart memory.layout.clintFound clint
  simp only [MappedRegion.toRegion, memory.layout.clintLength, clintHostByteLength,
    clintHostTimebaseHzUint64Index] at apart
  omega

theorem BusReady.elsewhere (ready : BusReady memory) (changes : ChangesOnly (InRegions memory.layout ids) memory after)
    (uart : uartRegionId ∉ ids) (clint : clintRegionId ∉ ids) : BusReady after := by
  refine ⟨ready.tail.of_changes changes uart, ?_⟩
  rw [readTimebaseHz_elsewhere changes clint]
  exact ready.frequency

theorem storeBytesToRam_touches (memory : Memory) (offset : Nat) (source : Bytes8) (byteLength : Nat) :
    ChangesOnly (fun position => ∃ i < byteLength, offset + i < memory.layout.ram.guestByteLength ∧
      offset + i < memory.layout.ram.hostByteLength ∧ position = memory.layout.ram.hostIndex + (offset + i))
      memory (storeBytesToRam memory offset source byteLength) := by
  rw [storeBytesToRam]
  refine forEachIndex_preserves (fun after => ChangesOnly _ memory after) ChangesOnly.refl ?_
  intro i early middle changes
  refine changes.trans ?_
  simp only [storeRamTurn]
  split
  · exact ChangesOnly.refl
  · rename_i hostIndex mapped
    rw [changes.layout] at mapped
    obtain ⟨rfl, window, slab⟩ := denseGuestToHostIndex_some mapped
    rw [storeRamByte, Memory.setElement]
    split
    · exact ChangesOnly.store ⟨i, early, window, slab, rfl⟩ _
    · exact ChangesOnly.refl

theorem regionTouches_ram {layout : Layout} (resolved :
    resolveGuestAddressToRegionAndOffset layout.table address = some (ramRegionId, offset)) :
    RegionTouches layout address byteLength position ↔
      ∃ i < byteLength, offset + i < layout.ram.guestByteLength ∧ offset + i < layout.ram.hostByteLength ∧
        position = layout.ram.hostIndex + (offset + i) := by
  rw [RegionTouches, resolved]
  simp only [if_true]

/-- Within a device's reach, a change is one its window stands for. -/
theorem Confined.touches (confined : Confined ids memory after)
    (resolved : resolveGuestAddressToRegionAndOffset memory.layout.table address = some (regionId, offset))
    (device : regionId ≠ ramRegionId) (reach : ids ⊆ [regionId, plicRegionId, irqLevelRegionId]) :
    ChangesOnly (RegionTouches memory.layout address byteLength) memory after := by
  refine (confined.mono reach).changes.mono fun position inside => ?_
  rw [RegionTouches, resolved]
  simp only [if_neg device]
  exact inside

/-- The region's part completes, changes what its region stands for and leaves the bus ready. -/
theorem storeBytesToRegion_touches (ready : BusReady memory) (address source : Bytes8) (byteLength : Nat) :
    ∃ after, storeBytesToRegion memory address source byteLength = .ok after ∧
      ChangesOnly (RegionTouches memory.layout address byteLength) memory after ∧ BusReady after := by
  have stay : ChangesOnly (RegionTouches memory.layout address byteLength) memory memory := ChangesOnly.refl
  rw [storeBytesToRegion]
  split
  · exact ⟨memory, rfl, stay, ready⟩
  rename_i regionId offset resolved
  split
  · rename_i ram
    subst ram
    have confined : Confined [ramRegionId] memory (storeBytesToRam memory offset source byteLength) :=
      storeBytesToRam_confined
    have touches := (storeBytesToRam_touches memory offset source byteLength).mono fun position inside =>
      (regionTouches_ram resolved).mpr inside
    exact ⟨_, rfl, touches, ready.elsewhere confined.changes (by decide) (by decide)⟩
  split
  · rename_i uart
    subst uart
    have stored : Confined uartReach memory (storeBytesToUart memory offset source byteLength) ∧
        TransmitTailValid (storeBytesToUart memory offset source byteLength) := storeBytesToUart_confined ready.tail
    refine ⟨_, rfl, stored.1.touches resolved (by decide) (by decide), stored.2, ?_⟩
    rw [readTimebaseHz_elsewhere stored.1.changes (by decide)]
    exact ready.frequency
  split
  · rename_i clint
    subst clint
    obtain ⟨after, stored, frequency⟩ := storeBytesToClint_completes ready.frequency offset source byteLength
    have confined : Confined clintReach memory after := storeBytesToClint_confined stored
    refine ⟨after, stored, confined.touches resolved (by decide) (by decide),
      ready.tail.of_confined confined (by decide), ?_⟩
    rw [frequency]
    exact ready.frequency
  split
  · rename_i plic
    subst plic
    have confined : Confined plicReach memory (storeBytesToPlic memory address source byteLength) :=
      storeBytesToPlic_confined
    exact ⟨_, rfl, confined.touches resolved (by decide) (by decide),
      ready.elsewhere confined.changes (by decide) (by decide)⟩
  split
  · rename_i syscon
    subst syscon
    have confined : Confined [sysconRegionId] memory (storeBytesToSyscon memory offset source byteLength) :=
      storeBytesToSyscon_confined
    exact ⟨_, rfl, confined.touches resolved (by decide) (by decide),
      ready.elsewhere confined.changes (by decide) (by decide)⟩
  · exact ⟨memory, rfl, stay, ready⟩

theorem storeBytes_touches (ready : BusReady memory) (address source : Bytes8) (byteLength : Nat) :
    ∃ after, storeBytes memory address source byteLength = .ok after ∧
      ChangesOnly (StoreTouches memory.layout address byteLength) memory after ∧ BusReady after := by
  have opened := storeBytes_opens memory address byteLength
  have opening := ready.elsewhere opened (by decide) (by decide)
  obtain ⟨written, stored, touches, writtenReady⟩ := storeBytesToRegion_touches opening address source byteLength
  have closed := storeBytes_closes written
  rw [opened.layout] at touches
  have layout : written.layout = memory.layout := touches.layout.trans opened.layout
  refine ⟨_, by rw [storeBytes]; simp only [stored]; rfl, ?_, writtenReady.elsewhere closed (by decide) (by decide)⟩
  rw [layout] at closed
  exact ((opened.mono fun _ inside => .inl inside).trans (touches.mono fun _ inside => .inr inside)).trans
    (closed.mono fun _ inside => .inl inside)

theorem initializeClint_confined {timebaseHz : Int} (initialized : initializeClint memory timebaseHz = .ok after) :
    Confined clintReach memory after := by
  obtain ⟨clocked, accepted, rfl⟩ := except_map_ok.mp initialized
  have clock : Confined clintReach memory clocked := by
    rw [setClintTimebaseHz] at accepted
    split at accepted
    · cases accepted
    · cases accepted
      exact storeClintUint64_confined (by decide) _
  have registers : Confined clintReach clocked (resetClintTimebase clocked) :=
    (storeClintUint64_confined (by decide) _).trans <| (storeClintUint64_confined (by decide) _).trans <|
      (storeClintUint64_confined (by decide) _).trans <| readHostClock_confined.trans <|
      (storeClintUint64_confined (by decide) _).trans updateTimerWiresFromCompare_confined
  exact (clock.trans registers).trans <| (setClintIrqWire_confined (by decide)).trans <|
    (setClintIrqWire_confined (by decide)).trans (setClintIrqWire_confined (by decide))

/-- The memories a guest store can find: the initialized buffer, after any stores and anything else
the workers do. Only a store's `pushTransmit` moves the transmit tail, and only
`initializeClint` sets the frequency. -/
inductive BusReachable : Memory → Prop
  | initialized {timebaseHz : Int} (zeroed : ∀ position, fresh.bytes position = 0)
      (booted : initializeClint fresh timebaseHz = .ok clocked) : BusReachable clocked
  | store (reachable : BusReachable before) (stored : storeBytes before address source byteLength = .ok written) :
      BusReachable written
  | other (reachable : BusReachable before) (layout : moved.layout = before.layout)
      (tail : metaByte moved metaTxTail = metaByte before metaTxTail)
      (frequency : readTimebaseHz moved = readTimebaseHz before) : BusReachable moved

theorem BusReachable.ready (reachable : BusReachable memory) : BusReady memory := by
  induction reachable with
  | @initialized fresh clocked timebaseHz zeroed booted =>
    have zero : TransmitTailValid fresh := by
      rw [TransmitTailValid, metaTxTail_eq, zeroed]
      decide
    exact ⟨zero.of_confined (initializeClint_confined booted) (by decide),
      (initializeClint_current booted).1.frequency⟩
  | store _ stored ih =>
    obtain ⟨_, completed, _, ready⟩ := storeBytes_touches ih _ _ _
    cases stored.symm.trans completed
    exact ready
  | other _ layout tail frequency ih =>
    refine ⟨?_, by rw [frequency]; exact ih.frequency⟩
    rw [TransmitTailValid, tail]
    exact ih.tail

/-- Host slabs never alias, and a guest store stays in the slabs its window stands for. -/
theorem host_slabs_never_alias :
    (∀ specs table, createMemory specs = .ok table → table.Packed) ∧
      ∀ memory, BusReachable memory → ∀ address source byteLength, ∃ after,
        storeBytes memory address source byteLength = .ok after ∧
          ChangesOnly (StoreTouches memory.layout address byteLength) memory after := by
  refine ⟨fun _ _ accepted => createMemory_packed accepted, fun memory reachable address source byteLength => ?_⟩
  obtain ⟨after, stored, touches, _⟩ := storeBytes_touches reachable.ready address source byteLength
  exact ⟨after, stored, touches⟩

/-- Eight bytes stored four below the end of RAM. -/
theorem host_slabs_never_alias_default : defaultTable.Packed ∧ ∃ booted,
    initializeClint defaultMemory 10000000 = .ok booted ∧ ∃ after,
      storeBytes booted 0x80000ffc 0xffffffffffffffff 8 = .ok after ∧
        ChangesOnly (StoreTouches booted.layout 0x80000ffc 8) booted after := by
  obtain ⟨booted, initialized⟩ : ∃ booted, initializeClint defaultMemory 10000000 = .ok booted := ⟨_, rfl⟩
  exact ⟨host_slabs_never_alias.1 _ _ defaultTable_accepted, booted, initialized,
    host_slabs_never_alias.2 booted (.initialized (fun _ => rfl) initialized) _ _ _⟩

end YaRiscV.Emulator
