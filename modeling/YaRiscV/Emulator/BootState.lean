import YaRiscV.Emulator.Boot
import YaRiscV.Emulator.Cpu.RegisterInvariant
import YaRiscV.Emulator.StoreFrame
import YaRiscV.Emulator.Uart.InterruptHistory

/-! What an accepted machine starts from: current devices, the image and the device tree in RAM,
zeros elsewhere, and a hart at the reset PC. -/

namespace YaRiscV.Emulator

open YaRiscV.Library YaRiscV.Utils YaRiscV.Fdt Relation

/-- The stages of a constructor call that returns. -/
structure Staged (options : EmulatorCreateOptions) (hrtime : Nat → Nat) (created : Created)
    (ram : Fdt.GuestWindow) (fresh clocked imaged : Memory) : Prop where
  window : options.guestRegions.get? ramRegionId = some ram
  fits : (options.image.length : Int) ≤ ram.guestByteLength
  shared : ∃ regions, emulatorRegions options.guestRegions = .ok regions ∧
    createSharedMemory regions hrtime = .ok fresh
  low : ram.guestAddress.toNat ≤ options.resetPc.toNat
  high : (options.resetPc.toNat : Int) < ram.guestAddress.toNat + ram.guestByteLength
  clock : initializeClint fresh options.timebaseHz = .ok clocked
  image : storeImageToRam (initializePlic clocked) options.image = .ok imaged
  tree : storeTree options imaged = .ok created

/-- The zeroed buffer of the regions that were asked for. -/
structure Zeroed (hrtime : Nat → Nat) (ram : Fdt.GuestWindow) (fresh : Memory) : Prop where
  bytes : fresh.bytes = fun _ => 0
  worker : fresh.worker = freshWorker hrtime
  slab : fresh.layout.ram = ⟨fresh.layout.ram.hostIndex, ram.guestByteLength.toNat, ram.guestAddress,
    ram.guestByteLength.toNat⟩
  member : ⟨ramRegionId, ram.guestByteLength, some (ram.guestAddress, ram.guestByteLength)⟩ ∈ fresh.layout.specs

variable {options : EmulatorCreateOptions} {hrtime : Nat → Nat} {created : Created} {ram : Fdt.GuestWindow}
  {fresh clocked imaged memory after : Memory} {regions : GuestRegions} {windows : GuestMap}

theorem guestRegion_ok {id : String} (ok : guestRegion windows id = .ok ram) : windows.get? id = some ram := by
  rw [guestRegion] at ok
  split at ok
  · cases ok
  · rename_i found
    cases ok
    exact found

/-- The windows, with the slab lengths and the host-only slabs, are the specs given to `createMemory`. -/
theorem emulatorSpecs_eq (windows : GuestMap) :
    emulatorSpecs windows = (emulatorRegions windows).map GuestRegions.specs := by
  simp only [emulatorSpecs, emulatorRegions, guestRegionIds, guestRegionSpec, List.mapM_cons, List.mapM_nil]
  cases guestRegion windows ramRegionId with
  | error message => rfl
  | ok ram =>
  cases guestRegion windows uartRegionId with
  | error message => rfl
  | ok uart =>
  cases guestRegion windows clintRegionId with
  | error message => rfl
  | ok clint =>
  cases guestRegion windows plicRegionId with
  | error message => rfl
  | ok plic =>
  cases guestRegion windows sysconRegionId with
  | error message => rfl
  | ok syscon => rfl

theorem emulatorRegions_ram (ok : emulatorRegions windows = .ok regions)
    (window : windows.get? ramRegionId = some ram) : regions.ram = (ram.guestAddress, ram.guestByteLength) := by
  have found : guestRegion windows ramRegionId = .ok ram := by
    rw [guestRegion, window]
  obtain ⟨_, ramOk, rest⟩ := except_bind_ok.mp ok
  obtain ⟨_, _, rest⟩ := except_bind_ok.mp rest
  obtain ⟨_, _, rest⟩ := except_bind_ok.mp rest
  obtain ⟨_, _, rest⟩ := except_bind_ok.mp rest
  obtain ⟨_, _, rest⟩ := except_bind_ok.mp rest
  cases rest
  simp only [found] at ramOk
  cases ramOk
  rfl

theorem createSharedMemory_zeroed (ok : createSharedMemory regions hrtime = .ok fresh)
    (window : regions.ram = (ram.guestAddress, ram.guestByteLength)) : Zeroed hrtime ram fresh := by
  rw [createSharedMemory] at ok
  split at ok
  · cases ok
  · cases ok
    refine ⟨rfl, rfl, ?_, ?_⟩
    · simp only [GuestRegions.layout, window]
    · simp only [GuestRegions.layout, GuestRegions.specs, window]
      exact List.mem_cons_self

/-- A call that returns went through every stage. -/
theorem createEmulator_staged (returned : createEmulator options hrtime = .ok created) :
    ∃ ram fresh clocked imaged, Staged options hrtime created ram fresh clocked imaged := by
  rw [createEmulator] at returned
  split at returned
  · cases returned
  obtain ⟨ram, found, returned⟩ := except_bind_ok.mp returned
  split at returned
  · cases returned
  rename_i fits
  obtain ⟨regions, known, returned⟩ := except_bind_ok.mp returned
  obtain ⟨fresh, packed, returned⟩ := except_bind_ok.mp returned
  simp only [bytesToBigInt_eq] at returned
  split at returned
  · cases returned
  rename_i inside
  obtain ⟨low, high⟩ := not_or.mp inside
  obtain ⟨clocked, clock, returned⟩ := except_bind_ok.mp returned
  obtain ⟨imaged, image, tree⟩ := except_bind_ok.mp returned
  exact ⟨ram, fresh, clocked, imaged, guestRegion_ok found, Int.not_lt.mp fits, ⟨regions, known, packed⟩,
    Nat.not_lt.mp low, Int.not_le.mp high, clock, image, tree⟩

namespace Staged

variable (staged : Staged options hrtime created ram fresh clocked imaged)
include staged

theorem zeroed : Zeroed hrtime ram fresh := by
  obtain ⟨regions, known, packed⟩ := staged.shared
  exact createSharedMemory_zeroed packed (emulatorRegions_ram known staged.window)

end Staged

/-! The initialized devices. -/

theorem Zeroed.free (zeroed : Zeroed hrtime ram fresh) : MonitorFree fresh := by
  constructor
  case depth => rw [zeroed.worker, freshWorker]
  case kept => rw [zeroed.worker, freshWorker]
  case word =>
    rw [Memory.load32, zeroed.bytes]
    apply BitVec.eq_of_getLsbD_eq
    intro bit _
    simp [ByteStore.word, getLsbD_ofBytes]

theorem zeroed_uartView (zeroed : Zeroed hrtime ram fresh) : uartView fresh = ⟨0, 0, false, 0, 0, 0, 0⟩ := by
  simp only [uartView, uartRegisterByte, threIrqSticky, metaByte, zeroed.bytes]
  rfl

theorem plicCleared_changes (start : Memory) :
    ChangesOnly (InRegions start.layout [plicRegionId]) start (plicCleared start) := by
  have slab (position : Nat) (low : start.layout.plic.hostIndex ≤ position)
      (high : position < start.layout.plic.hostIndex + plicHostByteLength) :
      InRegions start.layout [plicRegionId] position := by
    refine ⟨plicRegionId, List.mem_singleton_self _, _, start.layout.plicFound, low, ?_⟩
    rw [MappedRegion.toRegion, start.layout.plicLength]
    exact high
  have wires : plicHostMeipWireOffset ≤ plicHostByteLength := by decide
  have cleared : ChangesOnly (InRegions start.layout [plicRegionId]) start
      (start.fillZero start.layout.plic.hostIndex (start.layout.plic.hostIndex + plicHostMeipWireOffset)) := by
    refine ⟨rfl, fun position outside => if_neg fun inside => outside ?_⟩
    exact slab position inside.1 (Nat.lt_of_lt_of_le inside.2 (Nat.add_le_add_left wires _))
  refine cleared.trans (resetPlicGatewayLock_changesOnly.mono fun position covered => ?_)
  exact slab position (Nat.le_trans (Nat.le_add_right _ _) covered.1) covered.2

theorem plicCleared_confined (start : Memory) : Confined [plicRegionId] start (plicCleared start) :=
  ⟨plicCleared_changes start, ⟨start.worker.hrtime, rfl⟩⟩

theorem initializePlic_moved (start : Memory) : PlicMoved start (initializePlic start) :=
  (plicSlab_moved (plicCleared_changes start)).trans (setPlicContextWire_moved.trans setPlicContextWire_moved)

theorem initializePlic_reach (start : Memory) : Confined plicReach start (initializePlic start) := by
  have cleared : Confined plicReach start (plicCleared start) :=
    (plicCleared_confined start).mono fun _ inside => by
      rw [List.mem_singleton.mp inside]
      exact List.mem_cons_self
  exact cleared.trans (setPlicContextWire_confined.trans setPlicContextWire_confined)

/-- Initialization leaves every device current, and nobody in the monitor. -/
theorem Zeroed.initialized {timebaseHz : Int} (zeroed : Zeroed hrtime ram fresh)
    (clock : initializeClint fresh timebaseHz = .ok clocked) :
    MachineCurrent createRegisters (initializePlic clocked) := by
  have clint := initializeClint_confined clock
  have plic := initializePlic_reach clocked
  obtain ⟨current, mirror⟩ := initializeClint_current clock
  have kept := current.others_moved (initializePlic_moved clocked) (by decide)
  have rings : uartView (initializePlic clocked) = ⟨0, 0, false, 0, 0, 0, 0⟩ := by
    rw [uartView_changes plic.changes (by decide), uartView_changes clint.changes (by decide)]
    exact zeroed_uartView zeroed
  refine ⟨⟨kept.current, initializePlic_current clocked, ⟨_, initializePlic_represents clocked⟩, ?_⟩,
    kept.mirror.trans mirror, plic.monitorFree (by decide) (clint.monitorFree (by decide) zeroed.free), ?_⟩
  · rw [rings]
    exact ⟨by decide, by decide, by decide, by decide⟩
  · have tail := congrArg UartView.txTail rings
    rw [TransmitTailValid]
    exact Nat.lt_of_le_of_lt (Nat.le_of_eq tail) (by decide)

/-! Calls on the buffer alone. -/

theorem Call.bind_returned {call : Call First} {next : First → Call Second} {shared final : SharedMemory}
    (returned : (call >>= next) shared = .ok result final) :
    ∃ first middle, call shared = .ok first middle ∧ next first middle = .ok result final := by
  change EStateM.bind call next shared = _ at returned
  rw [EStateM.bind] at returned
  split at returned
  · rename_i first middle called
    exact ⟨first, middle, called, returned⟩
  · cases returned

theorem Call.ofExcept_returned {outcome : Except String First} {shared final : SharedMemory}
    (returned : Call.ofExcept outcome shared = .ok result final) : outcome = .ok result ∧ final = shared := by
  cases outcome with
  | error message => cases returned
  | ok first =>
    cases returned
    exact ⟨rfl, rfl⟩

theorem onBuffer_ok {call : Call Result} (ok : onBuffer memory call = .ok (result, after)) :
    ∃ shared, call ⟨memory.layout.table, memory.bytes⟩ = .ok result shared ∧
      after = { memory with bytes := shared.bytes } := by
  rw [onBuffer] at ok
  split at ok
  · rename_i shared called
    cases ok
    exact ⟨shared, called, rfl⟩
  · cases ok

theorem setBytes_returned {shared final : SharedMemory} (returned : setBytes source index shared = .ok result final) :
    final = shared.written source index := by
  rw [setBytes] at returned
  split at returned
  · cases returned
  · cases returned
    rfl

theorem bigIntAsNumber_ok {value : Nat} (ok : bigIntAsNumber (value : Int) = .ok number) : number = value := by
  rw [bigIntAsNumber] at ok
  split at ok
  · cases ok
  · cases ok
    rfl

/-- The image lands at the start of the slab. -/
theorem storeImageToRam_ok (stored : storeImageToRam memory image = .ok after) :
    after = { memory with
      bytes := (SharedMemory.written ⟨memory.layout.table, memory.bytes⟩ image memory.layout.ram.hostIndex).bytes } := by
  obtain ⟨⟨_, reached⟩, ok, rfl⟩ := except_map_ok.mp stored
  obtain ⟨shared, returned, rfl⟩ := onBuffer_ok ok
  obtain ⟨region, middle, found, returned⟩ := Call.bind_returned returned
  obtain ⟨known, rfl⟩ := Call.ofExcept_returned found
  rw [ramRegion_machine] at known
  cases known
  obtain ⟨index, final, number, returned⟩ := Call.bind_returned returned
  obtain ⟨safe, rfl⟩ := Call.ofExcept_returned number
  cases bigIntAsNumber_ok safe
  rw [setBytes_returned returned]

/-- A copy that returns lands at the host index of its address. -/
theorem copyIntoRam_returned {packed : MappedRegion} {shared final : SharedMemory}
    (known : Fdt.ramRegion shared.table = .ok packed)
    (returned : copyIntoRam address source shared = .ok () final) :
    ∃ hostIndex, Fdt.ramAddressToHostIndex packed address = some hostIndex ∧
      final = shared.written source hostIndex := by
  obtain ⟨state, middle, got, rest⟩ := Call.bind_returned returned
  cases got
  obtain ⟨region, middle, called, body⟩ := Call.bind_returned rest
  obtain ⟨same, rfl⟩ := Call.ofExcept_returned called
  cases known.symm.trans same
  cases mapped : Fdt.ramAddressToHostIndex packed address with
  | none =>
    simp only [mapped] at body
    cases body
  | some hostIndex =>
    simp only [mapped] at body
    split at body
    · cases body
    obtain ⟨index, middle, number, wrote⟩ := Call.bind_returned body
    obtain ⟨safe, rfl⟩ := Call.ofExcept_returned number
    cases bigIntAsNumber_ok safe
    exact ⟨hostIndex, rfl, setBytes_returned wrote⟩

/-- A mapped address is in the window, and its host index as far into the slab. -/
theorem ramAddressToHostIndex_some {packed : MappedRegion}
    (mapped : Fdt.ramAddressToHostIndex packed address = some hostIndex) :
    packed.guestAddress.toNat ≤ address.toNat ∧
      hostIndex = packed.hostIndex + (address.toNat - packed.guestAddress.toNat) := by
  simp only [Fdt.ramAddressToHostIndex, bytesToBigInt_eq] at mapped
  split at mapped
  · cases mapped
  rename_i inside
  rw [denseGuestToHostIndex] at mapped
  split at mapped
  · cases mapped
  split at mapped
  · cases mapped
  cases mapped
  exact ⟨Nat.not_lt.mp (not_or.mp inside).1, rfl⟩

/-- A placement that returns has stored the whole blob, wherever the RAM window ends. -/
theorem storeDeviceTreeToRam_returned {shared final : SharedMemory} {timebaseHz : Int} {imageByteLength : Nat}
    (built : Fdt.BuiltFrom windows shared ram) {region : Region}
    (found : shared.table.regions.lookup ramRegionId = some region)
    (returned : storeDeviceTreeToRam windows imageByteLength timebaseHz place shared = .ok address final) :
    ∃ blob, encodeDeviceTree windows timebaseHz = .ok blob ∧
      BlobStored ram region.hostIndex imageByteLength blob shared address final ∧
      ∀ requested, place = .given requested → address = requested := by
  obtain ⟨packed, known, slab, buffer, safe⟩ := built.ramRegion
  cases found.symm.trans known
  obtain ⟨window, middle, windowed, rest⟩ := Call.bind_returned returned
  obtain ⟨same, rfl⟩ := Call.ofExcept_returned windowed
  rw [Fdt.guestWindow, built.window] at same
  cases same
  obtain ⟨blob, middle, called, body⟩ := Call.bind_returned rest
  obtain ⟨encoded, rfl⟩ := Call.ofExcept_returned called
  refine ⟨blob, encoded, ?_⟩
  simp only [bytesToBigInt_eq, fdtAlign] at body
  split at body
  · cases body
  rename_i asked
  split at body
  · cases body
  rename_i fits
  obtain ⟨above, inside⟩ := not_or.mp fits
  obtain ⟨_, copied, wrote, ending⟩ := Call.bind_returned body
  cases ending
  obtain ⟨hostIndex, mapped, rfl⟩ := copyIntoRam_returned slab wrote
  obtain ⟨reached, rfl⟩ := ramAddressToHostIndex_some mapped
  generalize placed : place.place ram.guestAddress.toNat ram.guestByteLength blob.length = start at *
  obtain ⟨start, rfl⟩ : ∃ address : Nat, start = address := ⟨start.toNat, by omega⟩
  simp only [unsignedBigIntToBytes_eq] at reached ⊢
  have wrapped : (BitVec.ofInt 64 (start : Int)).toNat = start % 2 ^ 64 := by
    rw [BitVec.ofInt_natCast, BitVec.toNat_ofNat]
  have bound : ram.guestByteLength ≤ maxSafeInteger := by omega
  have short : start < 2 ^ 64 := by
    -- A place past 2^64 would wrap to an address below the window.
    have base := ram.guestAddress.isLt
    rw [wrapped] at reached
    simp only [maxSafeInteger] at bound
    omega
  have stored : (BitVec.ofInt 64 (start : Int)).toNat = start := wrapped.trans (Nat.mod_eq_of_lt short)
  have aligned : start % 8 = 0 := by
    cases place with
    | top =>
      rw [DeviceTreeAddress.place, alignDown_eight] at placed
      omega
    | given requested =>
      have divides := not_and.mp asked (by simp)
      omega
  have offset : ((start : Int) - ram.guestAddress.toNat).toNat =
      (BitVec.ofInt 64 (start : Int)).toNat - ram.guestAddress.toNat := by
    rw [stored]
    omega
  have written : BlobStored ram region.hostIndex imageByteLength blob middle _ _ :=
    blobStored_written middle region.hostIndex aligned (by omega) (by omega) short
  rw [offset] at written
  refine ⟨written, ?_⟩
  rintro requested rfl
  rw [DeviceTreeAddress.place, bytesToBigInt_eq] at placed
  rw [← placed, BitVec.ofInt_natCast, BitVec.ofNat_toNat, BitVec.setWidth_eq]

/-! The whole constructor. -/

/-- The RAM of a new machine: the image, the device tree at its offset, and zeros. -/
def bootByte (image : Bytes) (tree : Option (Nat × Bytes)) (offset : Nat) : BitVec 8 :=
  if offset < image.length then image.getD offset 0
  else
    match tree with
    | none => 0
    | some (start, blob) => if start ≤ offset then blob.getD (offset - start) 0 else 0

theorem bootByte_image {tree : Option (Nat × Bytes)} (early : offset < image.length) :
    bootByte image tree offset = image.getD offset 0 := if_pos early

theorem bootByte_past {tree : Option (Nat × Bytes)} (past : ¬ offset < image.length) :
    bootByte image tree offset =
      match tree with
      | none => 0
      | some (start, blob) => if start ≤ offset then blob.getD (offset - start) 0 else 0 := if_neg past

/-- A device tree handed over: aligned, between the image and the end of RAM, and where it was asked for. -/
structure TreePlaced (options : EmulatorCreateOptions) (ram : Fdt.GuestWindow) (address : Bytes8) (start : Nat)
    (blob : Bytes) : Prop where
  encoded : encodeDeviceTree options.guestRegions options.timebaseHz = .ok blob
  placed : address.toNat = ram.guestAddress.toNat + start
  aligned : address.toNat % 8 = 0
  above : options.image.length ≤ start
  inside : (start + blob.length : Int) ≤ ram.guestByteLength
  chosen : ∀ requested, options.deviceTreeAddress = some (.given requested) → address = requested

/-- The tree of the machine, if one was asked for. -/
inductive TreeStored (options : EmulatorCreateOptions) (ram : Fdt.GuestWindow) :
    Option Bytes8 → Option (Nat × Bytes) → Prop
  | absent (unasked : options.deviceTreeAddress = none) : TreeStored options ram none none
  | stored (asked : options.deviceTreeAddress.isSome) (placed : TreePlaced options ram address start blob) :
      TreeStored options ram (some address) (some (start, blob))

/-- What the workers are started with. -/
structure Booted (options : EmulatorCreateOptions) (created : Created) : Prop where
  current : MachineCurrent (bootRegisters options created.tree) created.memory
  legal : RegisterInvariant (bootRegisters options created.tree)
  counter : (bootRegisters options created.tree).programCounter = options.resetPc
  hart : readGeneralPurposeRegister (bootRegisters options created.tree) bootA0 = 0
  handoff : readGeneralPurposeRegister (bootRegisters options created.tree) bootA1 = created.tree.getD 0
  loaded : ∃ ram tree, options.guestRegions.get? ramRegionId = some ram ∧
    created.memory.layout.ram = ⟨created.memory.layout.ram.hostIndex, ram.guestByteLength.toNat, ram.guestAddress,
      ram.guestByteLength.toNat⟩ ∧
    (options.image.length : Int) ≤ ram.guestByteLength ∧
    ram.guestAddress.toNat ≤ options.resetPc.toNat ∧
    (options.resetPc.toNat : Int) < ram.guestAddress.toNat + ram.guestByteLength ∧
    TreeStored options ram created.tree tree ∧
    ∀ offset : Nat, (offset : Int) < ram.guestByteLength →
      created.memory.bytes (created.memory.layout.ram.hostIndex + offset) = bootByte options.image tree offset

theorem bootRegisters_published (tree : Option Bytes8) : PublishedKept createRegisters (bootRegisters options tree) :=
  (PublishedKept.setProgramCounter _).trans <|
    (PublishedKept.generalPurpose _ _).trans (PublishedKept.generalPurpose _ _)

theorem bootRegisters_legal (tree : Option Bytes8) : RegisterInvariant (bootRegisters options tree) := by
  have placed := RegisterInvariant.created.setProgramCounter options.resetPc
  have hart := placed.writeGeneralPurposeRegister bootA0
    (readControlAndStatusRegister (setProgramCounter createRegisters options.resetPc) Csr.mhartid)
  exact hart.writeGeneralPurposeRegister bootA1 (tree.getD 0)

theorem bootRegisters_handoff (tree : Option Bytes8) :
    readGeneralPurposeRegister (bootRegisters options tree) bootA1 = tree.getD 0 := by
  rw [bootRegisters, applyBootHandoff, writeGeneralPurposeRegister, if_neg (by decide), readGeneralPurposeRegister]
  dsimp only
  rw [Function.update_self]

/-- Bytes written inside the RAM slab. -/
theorem written_ram (memory : Memory) (source : Bytes) (offset : Nat)
    (inside : offset + source.length ≤ memory.layout.ram.hostByteLength) :
    Confined [ramRegionId] memory { memory with
      bytes := (SharedMemory.written ⟨memory.layout.table, memory.bytes⟩ source
        (memory.layout.ram.hostIndex + offset)).bytes } := by
  refine ⟨⟨rfl, fun position outside => ?_⟩, ⟨memory.worker.hrtime, rfl⟩⟩
  refine written_outside ⟨memory.layout.table, memory.bytes⟩ _ ?_
  by_contra covered
  refine outside ⟨ramRegionId, List.mem_singleton_self _, _, memory.layout.ramFound, ?_, ?_⟩
  · simp only [MappedRegion.toRegion]
    omega
  · simp only [MappedRegion.toRegion]
    omega

theorem MachineCurrent.ramWritten (current : MachineCurrent registers memory)
    (written : Confined [ramRegionId] memory after) : MachineCurrent registers after := by
  have plain : Confined plainReach memory after := written.mono fun _ inside => by
    rw [List.mem_singleton.mp inside]
    exact List.mem_cons_self
  exact current.run (.single (.plain plain.changes)) (current.idle.of_confined written (by decide) (by decide))

namespace Staged

variable (staged : Staged options hrtime created ram fresh clocked imaged)
include staged

theorem initialized : Confined (clintReach ++ plicReach) fresh (initializePlic clocked) :=
  ((initializeClint_confined staged.clock).mono (List.subset_append_left _ _)).trans
    ((initializePlic_reach clocked).mono (List.subset_append_right _ _))

/-- No device reaches into RAM while it is initialized. -/
theorem initializedRam (inside : offset < fresh.layout.ram.hostByteLength) :
    (initializePlic clocked).bytes (fresh.layout.ram.hostIndex + offset) = 0 := by
  have kept := staged.initialized.bytes fresh.layout.ramFound (by decide) (Nat.le_add_right _ offset)
    (Nat.add_lt_add_left inside _)
  exact kept.trans (congrFun staged.zeroed.bytes _)

/-- The image at the start of RAM, zeros after it. -/
theorem imagedRam : Confined [ramRegionId] (initializePlic clocked) imaged ∧ ∀ offset : Nat,
    offset < fresh.layout.ram.hostByteLength →
      imaged.bytes (fresh.layout.ram.hostIndex + offset) = bootByte options.image none offset := by
  have layout := staged.initialized.layout
  have slab := congrArg MappedRegion.hostByteLength staged.zeroed.slab
  have fits := staged.fits
  rw [storeImageToRam_ok staged.image]
  refine ⟨written_ram (initializePlic clocked) options.image 0 ?_, fun offset inside => ?_⟩
  · rw [layout, slab]
    simp only
    omega
  simp only [SharedMemory.written, layout, bootByte]
  rw [if_pos (Nat.le_add_right _ _), Nat.add_sub_cancel_left, staged.initializedRam inside]
  split
  · rfl
  · rename_i past
    exact List.getD_eq_default _ _ (Nat.not_lt.mp past)

theorem imagedCurrent : MachineCurrent createRegisters imaged :=
  (staged.zeroed.initialized staged.clock).ramWritten staged.imagedRam.1

theorem built : Fdt.BuiltFrom options.guestRegions ⟨imaged.layout.table, imaged.bytes⟩ ram := by
  have layout := staged.imagedRam.1.layout.trans staged.initialized.layout
  refine ⟨staged.window, fresh.layout.specs, ?_, staged.zeroed.member⟩
  rw [layout]
  exact fresh.layout.accepted

/-- The tree, if one was asked for, changes RAM alone. -/
theorem treed : Confined [ramRegionId] imaged created.memory ∧ ∃ tree, TreeStored options ram created.tree tree ∧
    ∀ offset : Nat, offset < fresh.layout.ram.hostByteLength →
      created.memory.bytes (fresh.layout.ram.hostIndex + offset) = bootByte options.image tree offset := by
  have layout := staged.imagedRam.1.layout.trans staged.initialized.layout
  have imagedRam := staged.imagedRam.2
  have ended := staged.tree
  rw [storeTree] at ended
  split at ended
  · rename_i unasked
    cases ended
    exact ⟨.refl, none, .absent unasked, imagedRam⟩
  rename_i place asked
  obtain ⟨⟨address, after⟩, ok, rfl⟩ := except_map_ok.mp ended
  obtain ⟨shared, returned, rfl⟩ := onBuffer_ok ok
  have found : imaged.layout.table.regions.lookup ramRegionId = some fresh.layout.ram.toRegion := by
    rw [layout]
    exact fresh.layout.ramFound
  obtain ⟨blob, encoded, stored, chosen⟩ := storeDeviceTreeToRam_returned staged.built found returned
  have above := stored.above
  have inside := stored.inside
  have slab := congrArg MappedRegion.hostByteLength staged.zeroed.slab
  simp only at slab
  refine ⟨⟨⟨rfl, fun position outside => ?_⟩, ⟨imaged.worker.hrtime, rfl⟩⟩,
    some (address.toNat - ram.guestAddress.toNat, blob), .stored (by rw [asked]; rfl) ?_, ?_⟩
  · refine stored.others position ?_
    by_contra covered
    refine outside ⟨ramRegionId, List.mem_singleton_self _, _, found, ?_, ?_⟩
    · simp only [MappedRegion.toRegion] at covered ⊢
      omega
    · simp only [MappedRegion.toRegion] at covered ⊢
      omega
  · refine ⟨encoded, by omega, stored.aligned, by omega, by omega, fun requested chose => ?_⟩
    rw [asked] at chose
    exact chosen requested (Option.some.inj chose)
  · intro offset below
    have before := imagedRam offset below
    by_cases early : offset < options.image.length
    · rw [bootByte_image early] at before ⊢
      exact (stored.image offset early).trans before
    rw [bootByte_past early] at before ⊢
    simp only at before ⊢
    by_cases reached : address.toNat - ram.guestAddress.toNat ≤ offset
    · obtain ⟨index, rfl⟩ := Nat.exists_eq_add_of_le reached
      rw [if_pos reached, Nat.add_sub_cancel_left, ← Nat.add_assoc]
      by_cases within : index < blob.length
      · rw [List.getD_eq_getElem _ _ within]
        exact stored.written index within
      · rw [List.getD_eq_default _ _ (Nat.not_lt.mp within), ← before, ← Nat.add_assoc]
        exact stored.others _ (.inr (Nat.add_le_add_left (Nat.not_lt.mp within) _))
    · rw [if_neg reached, ← before]
      exact stored.others _ (.inl (Nat.add_lt_add_left (Nat.not_le.mp reached) _))

end Staged

theorem Staged.booted (staged : Staged options hrtime created ram fresh clocked imaged) : Booted options created := by
  obtain ⟨written, tree, stored, contents⟩ := staged.treed
  have layout := written.layout.trans (staged.imagedRam.1.layout.trans staged.initialized.layout)
  have slab := staged.zeroed.slab
  constructor
  case current => exact (staged.imagedCurrent.ramWritten written).published (bootRegisters_published created.tree)
  case legal => exact bootRegisters_legal created.tree
  case counter => rfl
  case hart => rfl
  case handoff => exact bootRegisters_handoff created.tree
  case loaded =>
    refine ⟨ram, tree, staged.window, ?_, staged.fits, staged.low, staged.high, stored, fun offset inside => ?_⟩
    · rw [layout]
      exact slab
    · rw [layout]
      refine contents offset ?_
      rw [slab]
      simp only
      omega

/-- Whatever `create` accepts starts with every device current, a legal hart at its reset PC, and in
RAM the image, the device tree that was asked for, and zeros. -/
theorem createEmulator_booted (returned : createEmulator options hrtime = .ok created) : Booted options created := by
  obtain ⟨ram, fresh, clocked, imaged, staged⟩ := createEmulator_staged returned
  exact staged.booted

/-- Two pages of RAM, one instruction, and the device tree at the top. -/
def smallMachine : EmulatorCreateOptions where
  image := [0x6f, 0, 0, 0]
  guestRegions := ⟨[(ramRegionId, ⟨0x80000000, 8192⟩), (uartRegionId, ⟨0x10000000, 8⟩),
    (clintRegionId, ⟨0x02000000, 0xc000⟩), (plicRegionId, ⟨0x0c000000, 0x201008⟩),
    (sysconRegionId, ⟨0x00100000, 8⟩)], by decide⟩
  resetPc := 0x80000000
  timebaseHz := 10000000
  deviceTreeAddress := some .top

theorem smallMachine_accepted : ∃ created, createEmulator smallMachine (fun _ => 0) = .ok created := by
  have accepted : (createEmulator smallMachine fun _ => 0).toOption.isSome = true := by decide +kernel
  obtain ⟨created, returned⟩ := Option.isSome_iff_exists.mp accepted
  exact ⟨created, except_toOption_ok returned⟩

theorem createEmulator_booted_small : ∃ created, createEmulator smallMachine (fun _ => 0) = .ok created ∧
    Booted smallMachine created := by
  obtain ⟨created, returned⟩ := smallMachine_accepted
  exact ⟨created, returned, createEmulator_booted returned⟩

end YaRiscV.Emulator
