import YaRiscV.Emulator.Ram
import YaRiscV.Emulator.Syscon
import YaRiscV.Emulator.Clint.Memory
import YaRiscV.Emulator.Plic.Memory
import YaRiscV.Emulator.Uart.Registers

/-! `memory.ts`: guest accesses, dispatched to the region that holds the address. -/

namespace YaRiscV.Emulator

open YaRiscV.Utils

variable (memory : Memory)

/-- Load `byteLength` bytes into a cleared array; unmapped bytes read as zero. -/
def loadBytes (address : Bytes8) (byteLength : Nat) : Except String (Bytes8 × Memory) :=
  let destination : Bytes8 := 0
  match resolveGuestAddressToRegionAndOffset memory.layout.table address with
  | none => .ok (destination, memory)
  | some (regionId, offset) =>
    if regionId = ramRegionId then .ok (loadBytesFromRam memory destination offset byteLength, memory)
    else if regionId = uartRegionId then .ok (loadBytesFromUart memory destination offset byteLength)
    else if regionId = clintRegionId then loadBytesFromClint destination memory offset byteLength
    else if regionId = plicRegionId then .ok (loadBytesFromPlic destination memory address byteLength)
    else if regionId = sysconRegionId then
      .ok (loadBytesFromSyscon memory destination offset byteLength, memory)
    else .ok (destination, memory)

/-- The region's part of a store. -/
def storeBytesToRegion (address source : Bytes8) (byteLength : Nat) : Except String Memory :=
  match resolveGuestAddressToRegionAndOffset memory.layout.table address with
  | none => .ok memory
  | some (regionId, offset) =>
    if regionId = ramRegionId then .ok (storeBytesToRam memory offset source byteLength)
    else if regionId = uartRegionId then .ok (storeBytesToUart memory offset source byteLength)
    else if regionId = clintRegionId then storeBytesToClint memory offset source byteLength
    else if regionId = plicRegionId then .ok (storeBytesToPlic memory address source byteLength)
    else if regionId = sysconRegionId then .ok (storeBytesToSyscon memory offset source byteLength)
    else .ok memory

/-- Store bytes; the monitor lock covers the invalidation and the write. -/
def storeBytes (address source : Bytes8) (byteLength : Nat) : Except String Memory :=
  let memory := acquireMonitorLock memory
  let memory := invalidateOverlappingReservationsLocked memory address byteLength
  (storeBytesToRegion memory address source byteLength).map fun memory =>
    releaseScMonitorIfHeld (releaseMonitorLock memory)

/-- Only RAM has atomics. -/
def inRam (address : Bytes8) : Bool :=
  match resolveGuestAddressToRegionAndOffset memory.layout.table address with
  | none => false
  | some (regionId, _) => regionId == ramRegionId

def atomicLoadBytes (address : Bytes8) (byteLength : AtomicWidth) : Option Bytes8 :=
  if inRam memory address then atomicRamLoad memory address byteLength else none

/-- Whether the store took place; a kept monitor lock is released either way. -/
def atomicStoreBytes (address source : Bytes8) (byteLength : AtomicWidth) : Bool × Memory :=
  match if inRam memory address then atomicRamStore memory address source byteLength else none with
  | none => (false, releaseScMonitorIfHeld memory)
  | some memory => (true, releaseScMonitorIfHeld memory)

/-- Whether the swap took place, the value observed in `destination`, and the memory. -/
def atomicCompareExchangeBytes (destination address : Bytes8) (byteLength : AtomicWidth)
    (expected desired : Bytes8) : Bool × Bytes8 × Memory :=
  match if inRam memory address then atomicRamCompareExchange memory address byteLength expected desired
    else none with
  | none => (false, destination, memory)
  | some result => result

end YaRiscV.Emulator
