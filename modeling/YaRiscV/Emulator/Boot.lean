import YaRiscV.FdtPlacement
import YaRiscV.Emulator.Cpu.MachineTurns

/-! `emulator/index.ts`: the constructor, from the guest regions to the memory the workers share,
and the registers the hart starts from. -/

namespace YaRiscV.Emulator

open YaRiscV.Library YaRiscV.Utils YaRiscV.Fdt

/-- What `create` is told, streams apart. -/
structure EmulatorCreateOptions where
  image : Bytes
  guestRegions : GuestMap
  resetPc : Bytes8
  timebaseHz : Int
  deviceTreeAddress : Option DeviceTreeAddress

/-- Guest-mapped region ids, in pack order. -/
def guestRegionIds : List String := [ramRegionId, uartRegionId, clintRegionId, plicRegionId, sysconRegionId]

def hostByteLength (id : String) (guestByteLength : Int) : Except String Int :=
  if id = ramRegionId then .ok guestByteLength
  else if id = uartRegionId then .ok uartHostByteLength
  else if id = clintRegionId then .ok clintHostByteLength
  else if id = plicRegionId then .ok plicHostByteLength
  else if id = sysconRegionId then .ok sysconHostByteLength
  else .error s!"Unknown guest region '{id}'."

def guestRegion (guestRegions : GuestMap) (id : String) : Except String Fdt.GuestWindow :=
  match guestRegions.get? id with
  | none => .error s!"Missing guest region '{id}'."
  | some region => .ok region

def guestRegionSpec (guestRegions : GuestMap) (id : String) : Except String RegionSpec := do
  let region ← guestRegion guestRegions id
  return ⟨id, ← hostByteLength id region.guestByteLength, some (region.guestAddress, region.guestByteLength)⟩

/-- The specs given to `createMemory`: the guest regions, then the two host-only slabs. -/
def emulatorSpecs (guestRegions : GuestMap) : Except String (List RegionSpec) := do
  return (← guestRegionIds.mapM (guestRegionSpec guestRegions)) ++
    [⟨reservationRegionId, reservationHostByteLength, none⟩, ⟨irqLevelRegionId, irqLevelHostByteLength, none⟩]

/-- The windows of the five guest regions. -/
def emulatorRegions (guestRegions : GuestMap) : Except String GuestRegions := do
  let window := fun id => (guestRegion guestRegions id).map fun region => (region.guestAddress, region.guestByteLength)
  return {
    ram := ← window ramRegionId
    uart := ← window uartRegionId
    clint := ← window clintRegionId
    plic := ← window plicRegionId
    syscon := ← window sysconRegionId }

/-- Where a slab was packed. -/
def RegionTable.packedHostIndex (table : RegionTable) (id : String) : Nat :=
  ((table.regions.lookup id).map Region.hostIndex).getD 0

theorem RegionTable.Indexed.lookup {table : RegionTable} (indexed : table.Indexed specs) (spec : RegionSpec)
    (member : spec ∈ specs) : table.regions.lookup spec.id = some ⟨table.packedHostIndex spec.id, spec.hostByteLength.toNat,
      spec.window.map fun window => ⟨window.1, window.2.toNat⟩⟩ := by
  obtain ⟨⟨hostIndex, slab, window⟩, found, rfl, rfl⟩ := indexed.window spec member
  have packed : table.packedHostIndex spec.id = hostIndex := by
    rw [packedHostIndex, found]
    rfl
  rw [found, packed]

/-- The layout of an accepted table, on which no region getter throws. -/
def GuestRegions.layout (regions : GuestRegions) (table : RegionTable)
    (accepted : createMemory regions.specs = .ok table) : Layout where
  specs := regions.specs
  table := table
  accepted := accepted
  ram := ⟨table.packedHostIndex ramRegionId, regions.ram.2.toNat, regions.ram.1, regions.ram.2.toNat⟩
  uart := ⟨table.packedHostIndex uartRegionId, uartHostByteLength, regions.uart.1, regions.uart.2.toNat⟩
  clint := ⟨table.packedHostIndex clintRegionId, clintHostByteLength, regions.clint.1, regions.clint.2.toNat⟩
  plic := ⟨table.packedHostIndex plicRegionId, plicHostByteLength, regions.plic.1, regions.plic.2.toNat⟩
  syscon := ⟨table.packedHostIndex sysconRegionId, sysconHostByteLength, regions.syscon.1, regions.syscon.2.toNat⟩
  reservation := table.packedHostIndex reservationRegionId
  irqLevel := table.packedHostIndex irqLevelRegionId
  ramFound := (createMemory_indexed accepted).lookup ⟨ramRegionId, regions.ram.2, some regions.ram⟩ (by simp [specs])
  uartFound :=
    (createMemory_indexed accepted).lookup ⟨uartRegionId, uartHostByteLength, some regions.uart⟩ (by simp [specs])
  clintFound :=
    (createMemory_indexed accepted).lookup ⟨clintRegionId, clintHostByteLength, some regions.clint⟩ (by simp [specs])
  plicFound :=
    (createMemory_indexed accepted).lookup ⟨plicRegionId, plicHostByteLength, some regions.plic⟩ (by simp [specs])
  sysconFound :=
    (createMemory_indexed accepted).lookup ⟨sysconRegionId, sysconHostByteLength, some regions.syscon⟩ (by simp [specs])
  reservationFound :=
    (createMemory_indexed accepted).lookup ⟨reservationRegionId, reservationHostByteLength, none⟩ (by simp [specs])
  irqLevelFound :=
    (createMemory_indexed accepted).lookup ⟨irqLevelRegionId, irqLevelHostByteLength, none⟩ (by simp [specs])
  uartLength := rfl
  clintLength := rfl
  plicLength := rfl
  sysconLength := rfl

/-- The module variables a worker starts with. -/
def freshWorker (hrtime : Nat → Nat) : Worker := ⟨0, false, 0, hrtime⟩

/-- `createMemory`, with its zeroed buffer. -/
def createSharedMemory (regions : GuestRegions) (hrtime : Nat → Nat) : Except String Memory :=
  match accepted : createMemory regions.specs with
  | .error message => .error message
  | .ok table => .ok ⟨regions.layout table accepted, fun _ => 0, freshWorker hrtime⟩

/-- A call on the shared buffer alone. -/
def onBuffer (memory : Memory) (call : Fdt.Call Result) : Except String (Result × Memory) :=
  match call ⟨memory.layout.table, memory.bytes⟩ with
  | .ok result shared => .ok (result, { memory with bytes := shared.bytes })
  | .error message _ => .error message

/-- Store a program image at the start of the RAM slab. -/
def storeImageToRam (memory : Memory) (image : Bytes) : Except String Memory :=
  (onBuffer memory do
    let ram ← Call.ofExcept (Fdt.ramRegion memory.layout.table)
    setBytes image (← Call.ofExcept (bigIntAsNumber ram.hostIndex))).map Prod.snd

/-- What the constructor hands to the workers. -/
structure Created where
  memory : Memory
  tree : Option Bytes8

/-- The device tree, where one is asked for. -/
def storeTree (options : EmulatorCreateOptions) (memory : Memory) : Except String Created :=
  match options.deviceTreeAddress with
  | none => .ok ⟨memory, none⟩
  | some place =>
    (onBuffer memory (storeDeviceTreeToRam options.guestRegions options.image.length options.timebaseHz place)).map
      fun (address, memory) => ⟨memory, some address⟩

/-- The constructor, up to the workers. -/
def createEmulator (options : EmulatorCreateOptions) (hrtime : Nat → Nat) : Except String Created :=
  match options.guestRegions.entries.find? fun entry => entry.1 ∉ guestRegionIds with
  | some (id, _) => .error s!"Unknown guest region '{id}'."
  | none =>
    (guestRegion options.guestRegions ramRegionId).bind fun ram =>
      if ram.guestByteLength < options.image.length then
        .error (s!"image ({options.image.length} bytes) does not fit in ram region " ++
          s!"({ram.guestByteLength} bytes).")
      else
        (emulatorRegions options.guestRegions).bind fun regions =>
          (createSharedMemory regions hrtime).bind fun memory =>
            let ramBase := bytesToBigInt ram.guestAddress
            let resetPcAddress := bytesToBigInt options.resetPc
            if resetPcAddress < ramBase ∨ (resetPcAddress : Int) ≥ ramBase + ram.guestByteLength then
              .error "reset PC is outside the ram region."
            else
              (initializeClint memory options.timebaseHz).bind fun memory =>
                (storeImageToRam (initializePlic memory) options.image).bind (storeTree options)

/-- The registers of `cpu/run.ts` when its loop begins. -/
def bootRegisters (options : EmulatorCreateOptions) (tree : Option Bytes8) : Registers :=
  applyBootHandoff (setProgramCounter createRegisters options.resetPc) tree

end YaRiscV.Emulator
