import YaRiscV.FdtSize
import YaRiscV.Library.DeviceTreeQuery
import YaRiscV.Emulator.BootState
import YaRiscV.Emulator.SysconRegisters

/-! The device tree in RAM, against the machine it was made with: what a guest reads there are the
windows that resolve, the source the UART drives, the frequency the clock runs at, and stores that
power the machine off. -/

namespace YaRiscV.Emulator

open YaRiscV.Library YaRiscV.Utils YaRiscV.Fdt

/-- `reg` names exactly the addresses that resolve to the region. -/
def RegDescribes (memory : Memory) (id : String) (node : FdtNode) : Prop :=
  ∃ base size, (node.value? propReg).bind readReg = some (base, size) ∧
    ∀ address : Bytes8,
      (∃ offset, resolveGuestAddressToRegionAndOffset memory.layout.table address = some (id, offset)) ↔
        base.toNat ≤ address.toNat ∧ address.toNat < base.toNat + size.toNat

/-- A store of the node's value at its offset makes the request, where the machine allows it. -/
def ResetDescribes (node : FdtNode) (allowed : Memory → Prop) (request : BitVec 32) : Prop :=
  ∃ offset value, (node.value? "offset").bind readCell = some offset ∧
    (node.value? "value").bind readCell = some value ∧
    ∀ memory, allowed memory →
      sysconRequestWord (storeBytesToSyscon memory offset.toNat (value.setWidth 64) 4) = request

/-- The device nodes against the devices. -/
structure SocDescribes (memory : Memory) (soc : FdtNode) : Prop where
  clint : ∃ node, soc.childWith propCompatible (concat [cstring "riscv,clint0", cstring "sifive,clint0"]) =
      some node ∧ RegDescribes memory clintRegionId node
  uart : ∃ node controller phandle source, soc.childWith propCompatible (cstring "ns16550a") = some node ∧
    RegDescribes memory uartRegionId node ∧
    soc.childWith propCompatible (concat [cstring "riscv,plic0", cstring "sifive,plic-1.0.0"]) = some controller ∧
    RegDescribes memory plicRegionId controller ∧
    controller.value? propPhandle = some phandle ∧ node.value? "interrupt-parent" = some phandle ∧
    (node.value? "interrupts").bind readCell = some source ∧
    ∀ memory, refreshUartIrq memory =
      setPlicSourcePending memory source.toNat (readInterruptIdentity memory != iirNoInterrupt)
  syscon : ∃ node poweroff reboot, soc.childWith propCompatible (cstring "syscon") = some node ∧
    RegDescribes memory sysconRegionId node ∧
    node.childWith propCompatible (cstring "syscon-poweroff") = some poweroff ∧
    ResetDescribes poweroff (fun _ => True) sysconRequestPoweroff ∧
    node.childWith propCompatible (cstring "syscon-reboot") = some reboot ∧
    ResetDescribes reboot (fun memory => sysconPoweroff memory ≠ sysconPoweroffValue) sysconRequestReboot

/-- A tree that tells of a machine what is there. -/
structure TreeDescribes (memory : Memory) (root : FdtNode) : Prop where
  ram : ∃ node, root.childWith propDeviceType (cstring "memory") = some node ∧ RegDescribes memory ramRegionId node
  soc : ∃ soc, root.childWith propCompatible (cstring "simple-bus") = some soc ∧ SocDescribes memory soc
  clock : ∃ cpus ∈ root.children, ∃ word, (cpus.value? "timebase-frequency").bind readCell = some word ∧
    timebaseHz memory = .ok word.toNat

/-- Bytes of RAM from a guest address on. -/
def bytesInRam (memory : Memory) (address : Bytes8) (length : Nat) : Bytes :=
  (List.range length).map fun index =>
    memory.bytes (memory.layout.ram.hostIndex + (address.toNat - memory.layout.ram.guestAddress.toNat) + index)

variable {options : EmulatorCreateOptions} {hrtime : Nat → Nat} {created : Created} {ram : Fdt.GuestWindow}
  {fresh clocked imaged memory after : Memory} {regions : GuestRegions} {windows : GuestMap}

/-! The windows. -/

/-- `reg` holds the base and the length of the window, up to a length of 2^64. -/
theorem readReg_reg64 (address : Nat) (size : Int) :
    readReg (reg64 address size) = some (BitVec.ofNat 64 address, BitVec.ofNat 64 (size % 2 ^ 64).toNat) := by
  have low : (size % 2 ^ 32).toNat = (size % 2 ^ 64).toNat % 2 ^ 32 := by omega
  have high : ((size >>> (32 : Nat)) % 2 ^ 32).toNat = ((size % 2 ^ 64).toNat >>> 32) % 2 ^ 32 := by
    rw [Int.shiftRight_eq_div_pow, Nat.shiftRight_eq_div_pow]
    omega
  have cells : reg64 address size = bigEndian32 (BitVec.ofNat 32 ((address >>> 32) % 2 ^ 32)) ++
      (bigEndian32 (BitVec.ofNat 32 (address % 2 ^ 32)) ++
        (bigEndian32 (BitVec.ofNat 32 (((size % 2 ^ 64).toNat >>> 32) % 2 ^ 32)) ++
          bigEndian32 (BitVec.ofNat 32 ((size % 2 ^ 64).toNat % 2 ^ 32)))) := by
    rw [reg64, high, low]
    rfl
  rw [cells, readReg_bigEndian32, append_halves, append_halves]

/-- The regions of a map are those of its windows. -/
theorem emulatorRegions_whole (ok : emulatorRegions windows = .ok regions) : ∃ whole : WholeMap windows,
    regions = ⟨(whole.ram.guestAddress, whole.ram.guestByteLength), (whole.uart.guestAddress, whole.uart.guestByteLength),
      (whole.clint.guestAddress, whole.clint.guestByteLength), (whole.plic.guestAddress, whole.plic.guestByteLength),
      (whole.syscon.guestAddress, whole.syscon.guestByteLength)⟩ := by
  obtain ⟨_, ramOk, rest⟩ := except_bind_ok.mp ok
  obtain ⟨_, uartOk, rest⟩ := except_bind_ok.mp rest
  obtain ⟨_, clintOk, rest⟩ := except_bind_ok.mp rest
  obtain ⟨_, plicOk, rest⟩ := except_bind_ok.mp rest
  obtain ⟨_, sysconOk, rest⟩ := except_bind_ok.mp rest
  cases rest
  obtain ⟨ram, ramFound, rfl⟩ := except_map_ok.mp ramOk
  obtain ⟨uart, uartFound, rfl⟩ := except_map_ok.mp uartOk
  obtain ⟨clint, clintFound, rfl⟩ := except_map_ok.mp clintOk
  obtain ⟨plic, plicFound, rfl⟩ := except_map_ok.mp plicOk
  obtain ⟨syscon, sysconFound, rfl⟩ := except_map_ok.mp sysconOk
  exact ⟨⟨ram, uart, clint, plic, syscon, guestRegion_ok ramFound, guestRegion_ok uartFound,
    guestRegion_ok clintFound, guestRegion_ok plicFound, guestRegion_ok sysconFound⟩, rfl⟩

theorem createSharedMemory_specs (ok : createSharedMemory regions hrtime = .ok fresh) :
    fresh.layout.specs = regions.specs := by
  rw [createSharedMemory] at ok
  split at ok
  · cases ok
  · cases ok
    rfl

/-- Every window has a byte, and a length that `reg` can hold. -/
def WindowsSized (windows : GuestMap) : Prop :=
  ∀ id window, windows.get? id = some window → 0 < window.guestByteLength ∧ window.guestByteLength < 2 ^ 64

/-- A node with the window of a region tells which addresses resolve to it. -/
theorem RegionTable.Indexed.regDescribes (indexed : memory.layout.table.Indexed specs) (nonempty : WindowsNonempty specs)
    {id : String} {hostByteLength size : Int} {base : Bytes8}
    (member : ⟨id, hostByteLength, some (base, size)⟩ ∈ specs) (short : size < 2 ^ 64) {node : FdtNode}
    (reg : node.value? propReg = some (reg64 (bytesToBigInt base) size)) : RegDescribes memory id node := by
  have someByte : 0 < size := nonempty _ member base size rfl
  have baseCell : BitVec.ofNat 64 (bytesToBigInt base) = base := by
    rw [bytesToBigInt_eq]
    exact (BitVec.ofNat_toNat 64 base).trans (BitVec.setWidth_eq base)
  have sizeCell : (BitVec.ofNat 64 (size % 2 ^ 64).toNat).toNat = size.toNat := by
    rw [BitVec.toNat_ofNat]
    omega
  refine ⟨base, BitVec.ofNat 64 (size % 2 ^ 64).toNat, ?_, fun address => ?_⟩
  · rw [reg, Option.bind_some, readReg_reg64, baseCell]
  rw [sizeCell]
  constructor
  · rintro ⟨offset, resolved⟩
    obtain ⟨spec, known, same, ⟨base', size', window, low, high⟩, _⟩ := (indexed.resolve_iff nonempty address).mp resolved
    obtain ⟨region, found, windows, _⟩ := indexed.window spec known
    obtain ⟨own, ownFound, ownWindows, _⟩ := indexed.window _ member
    rw [same] at found
    obtain rfl := Option.some.inj (found.symm.trans ownFound)
    rw [windows, window] at ownWindows
    obtain ⟨sameBase, sameSize⟩ := GuestWindow.mk.inj (Option.some.inj ownWindows)
    simp only at sameBase sameSize
    subst sameBase
    omega
  · rintro ⟨low, high⟩
    have contained : RegionSpec.Contains ⟨id, hostByteLength, some (base, size)⟩ address.toNat :=
      ⟨base, size, rfl, low, by omega⟩
    obtain ⟨_, _, _, resolved⟩ := indexed.resolve_contained nonempty member contained
    exact ⟨_, resolved⟩

/-! The clock. -/

theorem initializeClint_frequency {frequency : Int} (initialized : initializeClint memory frequency = .ok after) :
    1 ≤ frequency ∧ frequency ≤ timebaseHzMax ∧ readTimebaseHz after = BitVec.ofInt 64 frequency := by
  obtain ⟨clocked, accepted, rfl⟩ := except_map_ok.mp initialized
  rw [setClintTimebaseHz] at accepted
  split at accepted
  · cases accepted
  rename_i legal
  obtain rfl := Except.ok.inj accepted
  refine ⟨by omega, by omega, ?_⟩
  have word : readTimebaseHz (memory.store64 (clintHostUint64 memory clintHostTimebaseHzUint64Index)
      (BitVec.ofInt 64 frequency)) = BitVec.ofInt 64 frequency := Memory.load64_store64 _
  refine Eq.trans ?_ ((resetClintTimebase_reset _).frequency.trans word)
  refine ((setClintIrqWire_same (by decide)).word 4 (by decide) (by decide)).trans ?_
  refine ((setClintIrqWire_same (by decide)).word 4 (by decide) (by decide)).trans ?_
  exact (setClintIrqWire_same (by decide)).word 4 (by decide) (by decide)

/-- A frequency the clock takes is a number of its own. -/
theorem numberOfBigInt_small {frequency : Int} (low : 1 ≤ frequency) (high : frequency ≤ timebaseHzMax) :
    numberOfBigInt frequency = frequency := by
  simp only [timebaseHzMax] at high
  have bits : frequency.natAbs.log2 + 1 - 53 = 0 := by
    have small : frequency.natAbs.log2 < 32 := (Nat.log2_lt (by omega)).mpr (by omega)
    omega
  simp only [numberOfBigInt, bits, Nat.pow_zero, Nat.div_one, Nat.mod_one]
  rw [if_neg (by omega), Int.sign_eq_one_of_pos (by omega)]
  omega

/-! The nodes. -/

/-- The word of a register is the one that was just stored there. -/
theorem storeBytesToSyscon_word (memory : Memory) {start : Nat} (inside : start + 4 ≤ sysconGuestByteLength)
    (value : BitVec 32) : (storeBytesToSyscon memory start (value.setWidth 64) 4).load32
      ((storeBytesToSyscon memory start (value.setWidth 64) 4).layout.syscon.hostIndex + start) = value := by
  have stored := storeBytesToSyscon_stored memory start (value.setWidth 64) 4
  have bytes : 32 = 8 * 4 := rfl
  refine eq_of_byte bytes fun index small => ?_
  have window := stored.window (start + index) (by omega)
  rw [if_pos ⟨Nat.le_add_right _ _, Nat.add_lt_add_left small _⟩, Nat.add_sub_cancel_left] at window
  rw [Memory.load32, ByteStore.byte_word small (by decide), Nat.add_assoc]
  exact window.trans (byte_setWidth value (by omega))

/-- A store to the reboot register leaves the poweroff register. -/
theorem storeBytesToSyscon_poweroff (memory : Memory) (value : BitVec 32) :
    sysconPoweroff (storeBytesToSyscon memory sysconRebootOffset (value.setWidth 64) 4) = sysconPoweroff memory := by
  have stored := storeBytesToSyscon_stored memory sysconRebootOffset (value.setWidth 64) 4
  have bytes : 32 = 8 * 4 := rfl
  refine eq_of_byte bytes fun index small => ?_
  have window := stored.window index (by
    simp only [sysconGuestByteLength]
    omega)
  rw [if_neg (by simp only [sysconRebootOffset]; omega)] at window
  rw [sysconPoweroff, sysconPoweroff, Memory.load32, Memory.load32, ByteStore.byte_word small (by decide),
    ByteStore.byte_word small (by decide)]
  exact window

theorem poweroff_describes : ResetDescribes
    (sysconResetNode "poweroff" "syscon-poweroff" sysconPoweroffOffset sysconPoweroffValue.toNat)
    (fun _ => True) sysconRequestPoweroff := by
  refine ⟨0, 1, readCell_bigEndian32 _, readCell_bigEndian32 _, fun memory _ => ?_⟩
  have request := (storeBytesToSyscon_stored memory 0 ((1 : BitVec 32).setWidth 64) 4).request
  have word := @storeBytesToSyscon_word memory 0 (by decide) 1
  exact request.trans (if_pos word)

theorem reboot_describes : ResetDescribes
    (sysconResetNode "reboot" "syscon-reboot" sysconRebootOffset sysconRebootValue.toNat)
    (fun memory => sysconPoweroff memory ≠ sysconPoweroffValue) sysconRequestReboot := by
  refine ⟨4, 1, readCell_bigEndian32 _, readCell_bigEndian32 _, fun memory running => ?_⟩
  have request := (storeBytesToSyscon_stored memory 4 ((1 : BitVec 32).setWidth 64) 4).request
  have word := @storeBytesToSyscon_word memory 4 (by decide) 1
  have kept := storeBytesToSyscon_poweroff memory 1
  refine request.trans ((if_neg fun poweroff => running (kept.symm.trans poweroff)).trans ?_)
  exact if_pos word

/-- The tree of a map describes a machine with its windows and its frequency. -/
theorem tree_describes (whole : WholeMap windows) {frequency : Int} {specs : List RegionSpec}
    (indexed : memory.layout.table.Indexed specs) (nonempty : WindowsNonempty specs) (sized : WindowsSized windows)
    (known : ∀ id ∈ guestRegionIds, ∀ window, windows.get? id = some window → ∃ hostByteLength,
      ⟨id, hostByteLength, some (window.guestAddress, window.guestByteLength)⟩ ∈ specs)
    (low : 1 ≤ frequency) (high : frequency ≤ timebaseHzMax)
    (clock : readTimebaseHz memory = BitVec.ofInt 64 frequency) : TreeDescribes memory (whole.tree frequency) := by
  have region {id : String} (mapped : id ∈ guestRegionIds) {window : Fdt.GuestWindow}
      (found : windows.get? id = some window) {node : FdtNode}
      (reg : node.value? propReg = some (reg64 (bytesToBigInt window.guestAddress) window.guestByteLength)) :
      RegDescribes memory id node := by
    obtain ⟨hostByteLength, member⟩ := known id mapped window found
    exact indexed.regDescribes nonempty member (sized id window found).2 reg
  refine ⟨⟨memoryNode whole.ram, rfl, region (by decide) whole.ramFound rfl⟩, ⟨socNode whole.devices, rfl, ?_⟩, ?_⟩
  · exact {
      clint := ⟨clintNode whole.clint, rfl, region (by decide) whole.clintFound rfl⟩
      uart := ⟨uartNode whole.uart (some whole.plic), plicNode whole.plic, u32 phandlePlic, 10, rfl,
        region (by decide) whole.uartFound rfl, rfl, region (by decide) whole.plicFound rfl, rfl, rfl,
        readCell_bigEndian32 _, fun _ => rfl⟩
      syscon := ⟨sysconNode whole.syscon, _, _, rfl, region (by decide) whole.sysconFound rfl, rfl, poweroff_describes, rfl,
        reboot_describes⟩ }
  · refine ⟨cpusNode frequency, List.mem_cons_self, _, readCell_bigEndian32 _, ?_⟩
    have word : (BitVec.ofInt 64 frequency).toNat = (BitVec.ofNat 32 (frequency % 2 ^ 32).toNat).toNat := by
      simp only [timebaseHzMax] at high
      rw [BitVec.toNat_ofInt, BitVec.toNat_ofNat]
      omega
    have set : (BitVec.ofNat 32 (frequency % 2 ^ 32).toNat).toNat ≠ 0 := by
      simp only [timebaseHzMax] at high
      rw [BitVec.toNat_ofNat]
      omega
    rw [numberOfBigInt_small low high, timebaseHz, clock, word]
    exact if_neg set

/-- The bytes of a tree that was placed, from the address handed over. -/
theorem bytesInRam_blob (start : Nat) {blob : Bytes} {address : Bytes8}
    (placed : address.toNat = memory.layout.ram.guestAddress.toNat + start)
    (held : ∀ index < blob.length, memory.bytes (memory.layout.ram.hostIndex + (start + index)) = blob.getD index 0) :
    bytesInRam memory address blob.length = blob := by
  refine List.ext_getElem ?_ fun index left right => ?_
  · rw [bytesInRam, List.length_map, List.length_range]
  · have byte := held index right
    rw [List.getD_eq_getElem _ _ right, ← Nat.add_assoc] at byte
    simp only [bytesInRam, List.getElem_map, List.getElem_range]
    rw [placed, Nat.add_sub_cancel_left]
    exact byte

theorem sysconPoweroff_elsewhere (changes : ChangesOnly (InRegions memory.layout ids) memory after)
    (apart : sysconRegionId ∉ ids) : sysconPoweroff after = sysconPoweroff memory := by
  rw [sysconPoweroff, sysconPoweroff, changes.layout]
  refine changes.load32 fun offset small inside => ?_
  have outside := inside.apart memory.layout.sysconFound apart
  simp only [MappedRegion.toRegion, memory.layout.sysconLength, sysconHostByteLength, sysconPoweroffOffset] at outside
  omega

/-- A new machine has no request to power off. -/
theorem Staged.poweroff (staged : Staged options hrtime created ram fresh clocked imaged) :
    sysconPoweroff created.memory = 0 := by
  have zeroed : sysconPoweroff fresh = 0 := by
    rw [sysconPoweroff, Memory.load32, staged.zeroed.bytes]
    apply BitVec.eq_of_getLsbD_eq
    intro bit _
    simp [ByteStore.word, getLsbD_ofBytes]
  rw [sysconPoweroff_elsewhere staged.treed.1.changes (by decide),
    sysconPoweroff_elsewhere staged.imagedRam.1.changes (by decide),
    sysconPoweroff_elsewhere staged.initialized.changes (by decide), zeroed]

/-- Whatever machine is made with a device tree, what its guest reads at the address in a1 is a
version 17 blob of a tree that describes this machine, and nothing stands against a reboot yet. -/
theorem bootTree_describes (returned : createEmulator options hrtime = .ok created)
    (asked : options.deviceTreeAddress.isSome = true) (sized : WindowsSized options.guestRegions) :
    ∃ address length tree, readGeneralPurposeRegister (bootRegisters options created.tree) bootA1 = address ∧
      readDeviceTree decodeAscii (bytesInRam created.memory address length) = some tree ∧
      tree.header.totalSize = length ∧ tree.reservations = [] ∧ TreeDescribes created.memory tree.root ∧
      sysconPoweroff created.memory ≠ sysconPoweroffValue := by
  obtain ⟨ram, fresh, clocked, imaged, staged⟩ := createEmulator_staged returned
  obtain ⟨regions, listed, shared⟩ := staged.shared
  obtain ⟨whole, rfl⟩ := emulatorRegions_whole listed
  obtain ⟨written, tree, stored, contents⟩ := staged.treed
  have layout := written.layout.trans (staged.imagedRam.1.layout.trans staged.initialized.layout)
  have specs := createSharedMemory_specs shared
  rw [← layout] at specs
  have handed : readGeneralPurposeRegister (bootRegisters options created.tree) bootA1 = created.tree.getD 0 :=
    bootRegisters_handoff created.tree
  generalize created.tree = given at stored handed
  cases stored with
  | absent unasked =>
    rw [unasked] at asked
    cases asked
  | @stored address start blob asked placed =>
  obtain ⟨header, read, size, _⟩ := whole.encode_roundTrips placed.encoded
  have blobRead : bytesInRam created.memory address blob.length = blob := by
    have inside := placed.inside
    have slab := staged.zeroed.slab
    refine bytesInRam_blob start ?_ fun index within => ?_
    · rw [layout, slab]
      exact placed.placed
    · have byte := contents (start + index) (by
        rw [slab]
        simp only
        omega)
      have above := placed.above
      rw [bootByte_past (by omega)] at byte
      simp only [Nat.le_add_right, if_true, Nat.add_sub_cancel_left] at byte
      rw [layout]
      exact byte
  have running : sysconPoweroff created.memory ≠ sysconPoweroffValue := by
    rw [staged.poweroff]
    decide
  refine ⟨address, blob.length, _, handed, blobRead.symm ▸ read, size, rfl, ?_, running⟩
  obtain ⟨low, high, clock⟩ := initializeClint_frequency staged.clock
  have kept : readTimebaseHz created.memory = readTimebaseHz clocked := by
    rw [readTimebaseHz_elsewhere written.changes (by decide),
      readTimebaseHz_elsewhere staged.imagedRam.1.changes (by decide),
      readTimebaseHz_elsewhere (initializePlic_reach clocked).changes (by decide)]
  refine tree_describes whole (createMemory_indexed created.memory.layout.accepted) ?_ sized ?_ low high
    (kept.trans clock)
  · rw [specs]
    intro spec member base length window
    simp only [GuestRegions.specs, List.mem_cons, List.not_mem_nil, or_false] at member
    rcases member with rfl | rfl | rfl | rfl | rfl | rfl | rfl
    · cases window
      exact (sized _ _ whole.ramFound).1
    · cases window
      exact (sized _ _ whole.uartFound).1
    · cases window
      exact (sized _ _ whole.clintFound).1
    · cases window
      exact (sized _ _ whole.plicFound).1
    · cases window
      exact (sized _ _ whole.sysconFound).1
    · cases window
    · cases window
  · rw [specs]
    intro id mapped window found
    simp only [guestRegionIds, List.mem_cons, List.not_mem_nil, or_false] at mapped
    rcases mapped with rfl | rfl | rfl | rfl | rfl
    · obtain rfl := Option.some.inj (whole.ramFound.symm.trans found)
      exact ⟨_, List.mem_cons_self⟩
    · obtain rfl := Option.some.inj (whole.uartFound.symm.trans found)
      exact ⟨uartHostByteLength, by simp [GuestRegions.specs]⟩
    · obtain rfl := Option.some.inj (whole.clintFound.symm.trans found)
      exact ⟨clintHostByteLength, by simp [GuestRegions.specs]⟩
    · obtain rfl := Option.some.inj (whole.plicFound.symm.trans found)
      exact ⟨plicHostByteLength, by simp [GuestRegions.specs]⟩
    · obtain rfl := Option.some.inj (whole.sysconFound.symm.trans found)
      exact ⟨sysconHostByteLength, by simp [GuestRegions.specs]⟩

theorem smallMachine_sized : WindowsSized smallMachine.guestRegions := by
  intro id window found
  have sizes : ∀ entry ∈ smallMachine.guestRegions.entries,
      0 < entry.2.guestByteLength ∧ entry.2.guestByteLength < 2 ^ 64 := by decide
  exact sizes (id, window) (InsertionMap.get?_mem found)

theorem bootTree_describes_small : ∃ created, createEmulator smallMachine (fun _ => 0) = .ok created ∧
    ∃ address length tree,
      readGeneralPurposeRegister (bootRegisters smallMachine created.tree) bootA1 = address ∧
      readDeviceTree decodeAscii (bytesInRam created.memory address length) = some tree ∧
      tree.header.totalSize = length ∧ tree.reservations = [] ∧ TreeDescribes created.memory tree.root ∧
      sysconPoweroff created.memory ≠ sysconPoweroffValue := by
  obtain ⟨created, returned⟩ := smallMachine_accepted
  exact ⟨created, returned, bootTree_describes returned rfl smallMachine_sized⟩

end YaRiscV.Emulator
