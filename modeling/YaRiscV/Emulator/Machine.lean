import YaRiscV.Emulator.Memory

/-! The regions `emulator/index.ts` packs, at the addresses the command line defaults to. -/

namespace YaRiscV.Emulator

open YaRiscV.Utils

/-- The guest windows of a machine, as the command line sets them. -/
structure GuestRegions where
  ram : Bytes8 × Int
  uart : Bytes8 × Int := (0x10000000, 8)
  clint : Bytes8 × Int := (0x02000000, 0xc000)
  plic : Bytes8 × Int := (0x0c000000, 0x201008)
  syscon : Bytes8 × Int := (0x00100000, 8)
  deriving DecidableEq, Repr

/-- Pack order: ram, uart, clint, plic, syscon, reservation, irqLevel. -/
def GuestRegions.specs (regions : GuestRegions) : List RegionSpec := [
  ⟨ramRegionId, regions.ram.2, some regions.ram⟩,
  ⟨uartRegionId, uartHostByteLength, some regions.uart⟩,
  ⟨clintRegionId, clintHostByteLength, some regions.clint⟩,
  ⟨plicRegionId, plicHostByteLength, some regions.plic⟩,
  ⟨sysconRegionId, sysconHostByteLength, some regions.syscon⟩,
  ⟨reservationRegionId, reservationHostByteLength, none⟩,
  ⟨irqLevelRegionId, irqLevelHostByteLength, none⟩]

/-- The options of the command line that place the windows. -/
structure CliOptions where
  ramSize : Nat
  ramBase : Bytes8
  uartBase : Bytes8
  clintBase : Bytes8
  plicBase : Bytes8
  sysconBase : Bytes8

/-- The windows the command line asks for: only RAM's length is its own. -/
def guestRegions (options : CliOptions) : GuestRegions where
  ram := (options.ramBase, options.ramSize)
  uart := (options.uartBase, 8)
  clint := (options.clintBase, 0xc000)
  plic := (options.plicBase, 0x201008)
  syscon := (options.sysconBase, 8)

/-- The default machine with 4 KiB of RAM. -/
def defaultRegions : GuestRegions := { ram := (0x80000000, 4096) }

def defaultTable : RegionTable where
  regions := [
    (ramRegionId, ⟨0, 4096, some ⟨0x80000000, 4096⟩⟩),
    (uartRegionId, ⟨4096, 48, some ⟨0x10000000, 8⟩⟩),
    (clintRegionId, ⟨4144, 48, some ⟨0x02000000, 0xc000⟩⟩),
    (plicRegionId, ⟨4192, 168, some ⟨0x0c000000, 0x201008⟩⟩),
    (sysconRegionId, ⟨4360, 12, some ⟨0x00100000, 8⟩⟩),
    (reservationRegionId, ⟨4376, 136, none⟩),
    (irqLevelRegionId, ⟨4512, 4, none⟩)]
  regionsByBaseGuestAddress := [(0x00100000, sysconRegionId), (0x02000000, clintRegionId),
    (0x0c000000, plicRegionId), (0x10000000, uartRegionId), (0x80000000, ramRegionId)]
  byteLength := 4516

theorem defaultTable_accepted : createMemory defaultRegions.specs = .ok defaultTable := by
  decide

def defaultLayout : Layout where
  specs := defaultRegions.specs
  table := defaultTable
  accepted := defaultTable_accepted
  ram := ⟨0, 4096, 0x80000000, 4096⟩
  uart := ⟨4096, 48, 0x10000000, 8⟩
  clint := ⟨4144, 48, 0x02000000, 0xc000⟩
  plic := ⟨4192, 168, 0x0c000000, 0x201008⟩
  syscon := ⟨4360, 12, 0x00100000, 8⟩
  reservation := 4376
  irqLevel := 4512
  ramFound := rfl
  uartFound := rfl
  clintFound := rfl
  plicFound := rfl
  sysconFound := rfl
  reservationFound := rfl
  irqLevelFound := rfl
  uartLength := rfl
  clintLength := rfl
  plicLength := rfl
  sysconLength := rfl

/-- The default machine's buffer as `createMemory` leaves it, on a clock standing still. -/
def defaultMemory : Memory where
  layout := defaultLayout
  bytes := fun _ => 0
  worker := { monitorLockDepth := 0, scMonitorHeld := false, plicGatewayLockDepth := 0, hrtime := fun _ => 0 }

end YaRiscV.Emulator
