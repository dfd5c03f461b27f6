import YaRiscV.FdtMachine
import YaRiscV.Emulator.Resolution
import YaRiscV.Emulator.Ram
import Mathlib.Data.Int.Bitwise

/-! `fdt.ts`: placing the device tree in RAM. A call that throws keeps the memory it leaves. -/

namespace YaRiscV.Fdt

open YaRiscV.Library YaRiscV.Utils
open YaRiscV.Emulator (RegionSpec RegionTable MappedRegion createMemory denseGuestToHostIndex ramRegionId)

/-- What `createMemory` returns: the packed regions and their buffer. -/
structure SharedMemory where
  table : RegionTable
  bytes : ByteStore

/-- A call on the shared memory. -/
abbrev Call (Result : Type) := EStateM String SharedMemory Result

def Call.ofExcept (outcome : Except String Result) : Call Result := fun memory =>
  match outcome with
  | .ok result => .ok result memory
  | .error message => .error message memory

def ramRegion (table : RegionTable) : Except String MappedRegion :=
  match table.regions.lookup ramRegionId with
  | none => .error s!"Memory region '{ramRegionId}' is not packed."
  | some region =>
    match region.window with
    | none => .error s!"Memory region '{ramRegionId}' is host-only; expected a guest window."
    | some window =>
      .ok ⟨region.hostIndex, region.hostByteLength, window.guestAddress, window.guestByteLength⟩

def ramAddressToHostIndex (ram : MappedRegion) (address : Bytes8) : Option Nat :=
  let guestAddress := bytesToBigInt address
  let base := bytesToBigInt ram.guestAddress
  if guestAddress < base ∨ guestAddress ≥ base + ram.guestByteLength then none
  else denseGuestToHostIndex ram (guestAddress - base)

/-- The buffer with the bytes of `source` from `index` on. -/
def SharedMemory.written (memory : SharedMemory) (source : Bytes) (index : Nat) : SharedMemory where
  table := memory.table
  bytes position := if index ≤ position then source.getD (position - index) (memory.bytes position)
    else memory.bytes position

/-- `TypedArray.prototype.set`, which checks the whole range first. -/
def setBytes (source : Bytes) (index : Nat) : Call Unit := fun memory =>
  if index + source.length > memory.table.byteLength then .error "offset is out of bounds" memory
  else .ok () (memory.written source index)

def copyIntoRam (address : Bytes8) (source : Bytes) : Call Unit := do
  let ram ← Call.ofExcept (ramRegion (← get).table)
  match ramAddressToHostIndex ram address with
  | none => throw "Copy exceeds the ram region."
  | some hostIndex =>
    if hostIndex + source.length > ram.hostIndex + ram.hostByteLength then
      throw "Copy exceeds the ram region."
    else setBytes source (← Call.ofExcept (bigIntAsNumber hostIndex))

def fdtAlign : Int := 8

/-- `value & ~(alignment - 1n)`. -/
def alignDown (value alignment : Int) : Int := value.land (alignment - 1).lnot

/-- `'end'`, the top of the RAM window, or an address. -/
inductive DeviceTreeAddress where
  | top
  | given (address : Bytes8)
  deriving DecidableEq, Repr

/-- The address asked for, before any check. -/
def DeviceTreeAddress.place (base guestByteLength : Int) (blobByteLength : Nat) : DeviceTreeAddress → Int
  | .top => alignDown (base + guestByteLength - blobByteLength) fdtAlign
  | .given address => bytesToBigInt address

def storeDeviceTreeToRam (guestRegions : GuestMap) (imageByteLength : Nat) (timebaseHz : Int)
    (deviceTreeAddress : DeviceTreeAddress) : Call Bytes8 := do
  let ram ← Call.ofExcept (guestWindow guestRegions ramRegionId)
  let blob ← Call.ofExcept (encodeDeviceTree guestRegions timebaseHz)
  let base : Int := bytesToBigInt ram.guestAddress
  let address := deviceTreeAddress.place base ram.guestByteLength blob.length
  if deviceTreeAddress ≠ .top ∧ address % fdtAlign ≠ 0 then
    throw "device tree address must be 8-byte aligned."
  else if address < base + imageByteLength ∨ address + blob.length > base + ram.guestByteLength then
    throw (s!"device tree ({blob.length} bytes) does not fit in the ram region above the image " ++
      s!"({imageByteLength} bytes).")
  else
    let storedAddress := unsignedBigIntToBytes address
    copyIntoRam storedAddress blob
    return storedAddress

/-- On the machine's memory these are the operations of `ram.ts`. -/
theorem ramAddressToHostIndex_machine (memory : Emulator.Memory) (address : Bytes8) :
    ramAddressToHostIndex memory.layout.ram address = Emulator.ramAddressToHostIndex memory address := rfl

theorem ramRegion_machine (memory : Emulator.Memory) : ramRegion memory.layout.table = .ok memory.layout.ram := by
  rw [ramRegion, memory.layout.ramFound]
  rfl

theorem ldiff_seven (value : Nat) : Nat.ldiff value 7 = value / 8 * 8 := by
  have seven : 7 = 2 ^ 3 - 1 := rfl
  have shifted : value / 8 * 8 = (value >>> 3) <<< 3 := by
    rw [Nat.shiftRight_eq_div_pow, Nat.shiftLeft_eq]
  apply Nat.eq_of_testBit_eq
  intro bit
  rw [shifted, Nat.testBit_ldiff, seven, Nat.testBit_two_pow_sub_one, Nat.testBit_shiftLeft, Nat.testBit_shiftRight]
  by_cases low : bit < 3
  · have early : ¬ bit ≥ 3 := by omega
    simp [low]
  · have place : 3 + (bit - 3) = bit := by omega
    have late : bit ≥ 3 := by omega
    simp [low, late, place]

theorem or_seven (value : Nat) : value ||| 7 = value / 8 * 8 + 7 := by
  have seven : 7 = 2 ^ 3 - 1 := rfl
  have shifted : value / 8 * 8 + 7 = (value >>> 3) <<< 3 ||| 7 := by
    rw [← Nat.shiftLeft_add_eq_or_of_lt (by decide), Nat.shiftRight_eq_div_pow, Nat.shiftLeft_eq]
  apply Nat.eq_of_testBit_eq
  intro bit
  rw [shifted, Nat.testBit_or, Nat.testBit_or, seven, Nat.testBit_two_pow_sub_one, Nat.testBit_shiftLeft,
    Nat.testBit_shiftRight]
  by_cases low : bit < 3
  · simp [low]
  · have place : 3 + (bit - 3) = bit := by omega
    have late : bit ≥ 3 := by omega
    simp [late, place]

/-- Rounding down to a multiple of eight, of negative values too. -/
theorem alignDown_eight (value : Int) : alignDown value fdtAlign = value / 8 * 8 := by
  have mask : (fdtAlign - 1).lnot = Int.negSucc 7 := rfl
  rw [alignDown, mask]
  cases value with
  | ofNat value =>
    change (Nat.ldiff value 7 : Int) = _
    rw [ldiff_seven]
    rfl
  | negSucc value =>
    change Int.negSucc (value ||| 7) = _
    rw [or_seven]
    omega

/-- A memory that `createMemory` packed with this window as its RAM. -/
structure BuiltFrom (guestRegions : GuestMap) (memory : SharedMemory) (ram : GuestWindow) : Prop where
  window : guestRegions.get? ramRegionId = some ram
  packed : ∃ specs, createMemory specs = .ok memory.table ∧
    ⟨ramRegionId, ram.guestByteLength, some (ram.guestAddress, ram.guestByteLength)⟩ ∈ specs

/-- Where the blob of a device tree was stored, and that nothing else was. -/
structure BlobStored (ram : GuestWindow) (hostIndex : Nat) (imageByteLength : Nat) (blob : Bytes)
    (memory : SharedMemory) (address : Bytes8) (after : SharedMemory) : Prop where
  aligned : address.toNat % 8 = 0
  above : ram.guestAddress.toNat + imageByteLength ≤ address.toNat
  inside : (address.toNat + blob.length : Int) ≤ ram.guestAddress.toNat + ram.guestByteLength
  table : after.table = memory.table
  written : ∀ index, (within : index < blob.length) →
    after.bytes (hostIndex + (address.toNat - ram.guestAddress.toNat) + index) = blob[index]
  others : ∀ position, position < hostIndex + (address.toNat - ram.guestAddress.toNat) ∨
      hostIndex + (address.toNat - ram.guestAddress.toNat) + blob.length ≤ position →
    after.bytes position = memory.bytes position
  image : ∀ index < imageByteLength, after.bytes (hostIndex + index) = memory.bytes (hostIndex + index)

variable {guestRegions : GuestMap} {memory after : SharedMemory} {ram : GuestWindow} {blob : Bytes}

/-- RAM's slab is as long as its window, and all of it in the buffer. -/
theorem BuiltFrom.ramRegion (built : BuiltFrom guestRegions memory ram) : ∃ region,
    memory.table.regions.lookup ramRegionId = some region ∧
      Fdt.ramRegion memory.table = .ok ⟨region.hostIndex, ram.guestByteLength.toNat, ram.guestAddress,
        ram.guestByteLength.toNat⟩ ∧
      region.hostIndex + ram.guestByteLength.toNat ≤ memory.table.byteLength ∧
      memory.table.byteLength ≤ maxSafeInteger := by
  obtain ⟨specs, accepted, member⟩ := built.packed
  obtain ⟨⟨hostIndex, hostByteLength, window⟩, found, windowed, slab⟩ :=
    (Emulator.createMemory_indexed accepted).window _ member
  have bound := (Emulator.createMemory_packed accepted).inside _ (Emulator.lookup_mem found)
  cases slab
  cases windowed
  refine ⟨_, found, ?_, bound, Emulator.createMemory_safe accepted⟩
  rw [Fdt.ramRegion, found]
  rfl

theorem Call.ofExcept_bind {outcome : Except String First} (next : First → Call Second) (ok : outcome = .ok first) :
    (Call.ofExcept outcome >>= next) memory = next first memory := by
  subst ok
  rfl

theorem Call.bind_ok {call : Call First} (next : First → Call Second) (ok : call memory = .ok first after) :
    (call >>= next) memory = next first after := by
  change EStateM.bind call next memory = _
  rw [EStateM.bind, ok]

/-- A blob inside the slab is copied, whole. -/
theorem copyIntoRam_written {packed : MappedRegion} (found : Fdt.ramRegion memory.table = .ok packed)
    (mapped : ramAddressToHostIndex packed address = some hostIndex)
    (slab : hostIndex + blob.length ≤ packed.hostIndex + packed.hostByteLength)
    (buffer : packed.hostIndex + packed.hostByteLength ≤ memory.table.byteLength)
    (safe : memory.table.byteLength ≤ maxSafeInteger) :
    copyIntoRam address blob memory = .ok () (memory.written blob hostIndex) := by
  have number : bigIntAsNumber (hostIndex : Int) = .ok hostIndex := by
    rw [bigIntAsNumber, if_neg (by omega)]
    rfl
  have within : setBytes blob hostIndex memory = .ok () (memory.written blob hostIndex) := by
    rw [setBytes, if_neg (by omega)]
  refine (Call.ofExcept_bind _ found).trans ?_
  simp only [mapped]
  rw [if_neg (by omega)]
  exact (Call.ofExcept_bind _ number).trans within

/-- The three ways a placement ends. -/
theorem storeDeviceTreeToRam_eq {place : Int} (imageByteLength : Nat) (built : BuiltFrom guestRegions memory ram)
    (ends : (ram.guestAddress.toNat : Int) + ram.guestByteLength ≤ 2 ^ 64)
    (encoded : encodeDeviceTree guestRegions timebaseHz = .ok blob) (nonempty : 0 < blob.length)
    (placed : deviceTreeAddress.place ram.guestAddress.toNat ram.guestByteLength blob.length = place) :
    ∃ region, memory.table.regions.lookup ramRegionId = some region ∧
      storeDeviceTreeToRam guestRegions imageByteLength timebaseHz deviceTreeAddress memory =
      if deviceTreeAddress ≠ .top ∧ place % 8 ≠ 0 then
        .error "device tree address must be 8-byte aligned." memory
      else if place < ram.guestAddress.toNat + imageByteLength ∨
          place + blob.length > ram.guestAddress.toNat + ram.guestByteLength then
        .error (s!"device tree ({blob.length} bytes) does not fit in the ram region above the image " ++
          s!"({imageByteLength} bytes).") memory
      else .ok (BitVec.ofInt 64 place)
        (memory.written blob (region.hostIndex + (place - ram.guestAddress.toNat).toNat)) := by
  obtain ⟨region, known, found, buffer, safe⟩ := built.ramRegion
  have windowed : guestWindow guestRegions ramRegionId = .ok ram := by
    rw [guestWindow, built.window]
  refine ⟨region, known, ?_⟩
  refine (Call.ofExcept_bind _ windowed).trans ((Call.ofExcept_bind _ encoded).trans ?_)
  simp only [bytesToBigInt_eq, placed, fdtAlign]
  by_cases misaligned : deviceTreeAddress ≠ .top ∧ place % 8 ≠ 0
  · rw [if_pos misaligned, if_pos misaligned]
    rfl
  rw [if_neg misaligned, if_neg misaligned]
  by_cases fits : place < ram.guestAddress.toNat + imageByteLength ∨
    place + blob.length > ram.guestAddress.toNat + ram.guestByteLength
  · rw [if_pos fits, if_pos fits]
    rfl
  rw [if_neg fits, if_neg fits]
  obtain ⟨above, inside⟩ := not_or.mp fits
  obtain ⟨address, rfl⟩ : ∃ address : Nat, place = address := ⟨place.toNat, by omega⟩
  have stored : (BitVec.ofInt 64 (address : Int)).toNat = address := by
    rw [BitVec.toNat_ofInt]
    omega
  have mapped : ramAddressToHostIndex ⟨region.hostIndex, ram.guestByteLength.toNat, ram.guestAddress,
      ram.guestByteLength.toNat⟩ (BitVec.ofInt 64 address) =
      some (region.hostIndex + ((address : Int) - ram.guestAddress.toNat).toNat) := by
    rw [ramAddressToHostIndex]
    simp only [bytesToBigInt_eq, stored, denseGuestToHostIndex]
    rw [if_neg (by omega), if_neg (by omega), if_neg (by omega)]
    congr 2
    omega
  have slab : region.hostIndex + ((address : Int) - ram.guestAddress.toNat).toNat + blob.length ≤
      region.hostIndex + ram.guestByteLength.toNat := by omega
  have copied := copyIntoRam_written found mapped slab buffer safe
  simp only [unsignedBigIntToBytes_eq]
  exact Call.bind_ok _ copied

theorem written_inside (memory : SharedMemory) (start : Nat) (within : index < blob.length) :
    (memory.written blob start).bytes (start + index) = blob[index] := by
  rw [SharedMemory.written]
  dsimp only
  rw [if_pos (Nat.le_add_right start index), Nat.add_sub_cancel_left, List.getD_eq_getElem _ _ within]

theorem written_outside (memory : SharedMemory) (start : Nat)
    (outside : position < start ∨ start + blob.length ≤ position) :
    (memory.written blob start).bytes position = memory.bytes position := by
  rw [SharedMemory.written]
  dsimp only
  split
  · exact List.getD_eq_default _ _ (by omega)
  · rfl

/-- A blob written at an aligned place between the image and the end of the window is stored. -/
theorem blobStored_written (memory : SharedMemory) (hostIndex : Nat) {place : Nat} (aligned : place % 8 = 0)
    (above : ram.guestAddress.toNat + imageByteLength ≤ place)
    (inside : (place + blob.length : Int) ≤ ram.guestAddress.toNat + ram.guestByteLength) (short : place < 2 ^ 64) :
    BlobStored ram hostIndex imageByteLength blob memory (BitVec.ofInt 64 (place : Int))
      (memory.written blob (hostIndex + ((place : Int) - ram.guestAddress.toNat).toNat)) := by
  have stored : (BitVec.ofInt 64 (place : Int)).toNat = place := by
    rw [BitVec.toNat_ofInt]
    omega
  have offset : ((place : Int) - ram.guestAddress.toNat).toNat = place - ram.guestAddress.toNat := by omega
  rw [offset]
  constructor
  case table => rfl
  case image =>
    intro index early
    exact written_outside memory _ (.inl (by omega))
  all_goals rw [stored]
  case aligned => exact aligned
  case above => exact above
  case inside => exact inside
  case written =>
    intro index within
    exact written_inside memory _ within
  case others =>
    intro position outside
    exact written_outside memory _ outside

/-- What a placement leaves: the memory as it was, and for `'end'` no place at all, or the whole blob. -/
def Placement (ram : GuestWindow) (hostIndex imageByteLength : Nat) (blob : Bytes)
    (deviceTreeAddress : DeviceTreeAddress) (memory : SharedMemory) :
    EStateM.Result String SharedMemory Bytes8 → Prop
  | .error _ after => after = memory ∧ (deviceTreeAddress = .top → ∀ place : Nat, place % 8 = 0 →
      ram.guestAddress.toNat + imageByteLength ≤ place →
      ¬ (place + blob.length : Int) ≤ ram.guestAddress.toNat + ram.guestByteLength)
  | .ok address after => BlobStored ram hostIndex imageByteLength blob memory address after ∧
      ∀ requested, deviceTreeAddress = .given requested → address = requested

/-- Placement is all or nothing: a call that throws has changed nothing, one that returns has stored
the whole blob, and the top of RAM is refused only where no aligned place is left. -/
theorem storeDeviceTreeToRam_placement (built : BuiltFrom guestRegions memory ram)
    (ends : (ram.guestAddress.toNat : Int) + ram.guestByteLength ≤ 2 ^ 64) (imageByteLength : Nat) (timebaseHz : Int)
    (deviceTreeAddress : DeviceTreeAddress) :
    ∃ blob region, encodeDeviceTree guestRegions timebaseHz = .ok blob ∧
      memory.table.regions.lookup ramRegionId = some region ∧
      Placement ram region.hostIndex imageByteLength blob deviceTreeAddress memory
        (storeDeviceTreeToRam guestRegions imageByteLength timebaseHz deviceTreeAddress memory) := by
  obtain ⟨blob, encoded, header, _⟩ := encodeDeviceTree_ok guestRegions timebaseHz
  have nonempty : 0 < blob.length := Nat.lt_of_lt_of_le (by decide) header
  generalize placed : deviceTreeAddress.place ram.guestAddress.toNat ram.guestByteLength blob.length = place
  obtain ⟨region, known, outcome⟩ :=
    storeDeviceTreeToRam_eq imageByteLength built ends encoded nonempty placed
  refine ⟨blob, region, encoded, known, ?_⟩
  rw [outcome]
  split
  · rename_i misaligned
    exact ⟨rfl, fun top => absurd top misaligned.1⟩
  rename_i asked
  split
  · rename_i unfit
    refine ⟨rfl, fun top candidate aligned above inside => ?_⟩
    subst top
    rw [DeviceTreeAddress.place, alignDown_eight] at placed
    omega
  · rename_i fits
    obtain ⟨above, inside⟩ := not_or.mp fits
    obtain ⟨address, rfl⟩ : ∃ address : Nat, place = address := ⟨place.toNat, by omega⟩
    have aligned : address % 8 = 0 := by
      cases deviceTreeAddress with
      | top =>
        rw [DeviceTreeAddress.place, alignDown_eight] at placed
        omega
      | given requested =>
        have divides := not_and.mp asked (by simp)
        omega
    refine ⟨blobStored_written memory region.hostIndex aligned (by omega) (by omega) (by omega), ?_⟩
    intro requested same
    subst same
    rw [DeviceTreeAddress.place, bytesToBigInt_eq] at placed
    rw [← placed]
    rw [BitVec.ofInt_natCast, BitVec.ofNat_toNat, BitVec.setWidth_eq]

/-- RAM alone, 64 KiB. -/
def ramOnly : GuestWindow := ⟨0x80000000, 0x10000⟩

def ramOnlyMap : GuestMap := ⟨[(ramRegionId, ramOnly)], by decide⟩

def ramOnlyMemory : SharedMemory where
  table := ⟨[(ramRegionId, ⟨0, 0x10000, some ⟨0x80000000, 0x10000⟩⟩)], [(0x80000000, ramRegionId)], 0x10000⟩
  bytes _ := 0

theorem ramOnlyMemory_built : BuiltFrom ramOnlyMap ramOnlyMemory ramOnly where
  window := rfl
  packed := ⟨[⟨ramRegionId, 0x10000, some (0x80000000, 0x10000)⟩], by decide, List.mem_singleton.mpr rfl⟩

theorem storeDeviceTreeToRam_placement_top : ∃ blob region, encodeDeviceTree ramOnlyMap 10000000 = .ok blob ∧
    ramOnlyMemory.table.regions.lookup ramRegionId = some region ∧
    Placement ramOnly region.hostIndex 4 blob .top ramOnlyMemory
      (storeDeviceTreeToRam ramOnlyMap 4 10000000 .top ramOnlyMemory) :=
  storeDeviceTreeToRam_placement ramOnlyMemory_built (by decide) 4 10000000 .top

end YaRiscV.Fdt
