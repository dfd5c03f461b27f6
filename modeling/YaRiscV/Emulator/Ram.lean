import YaRiscV.Emulator.Reservation

/-! `ram.ts`: the dense map from the RAM window to its slab, plain and atomic accesses. -/

namespace YaRiscV.Emulator

open YaRiscV.Library YaRiscV.Utils

/-- The widths of an atomic access, `4 | 8`. -/
inductive AtomicWidth where
  | word
  | doubleword
  deriving DecidableEq, Repr

def AtomicWidth.byteLength : AtomicWidth → Nat
  | .word => 4
  | .doubleword => 8

def denseGuestToHostIndex (ram : MappedRegion) (guestOffset : Nat) : Option Nat :=
  if guestOffset ≥ ram.guestByteLength then none
  else if guestOffset ≥ ram.hostByteLength then none
  else some (ram.hostIndex + guestOffset)

theorem denseGuestToHostIndex_some (mapped : denseGuestToHostIndex ram guestOffset = some hostIndex) :
    hostIndex = ram.hostIndex + guestOffset ∧ guestOffset < ram.guestByteLength ∧
      guestOffset < ram.hostByteLength := by
  rw [denseGuestToHostIndex] at mapped
  split at mapped
  · cases mapped
  split at mapped
  · cases mapped
  · rename_i window slab
    exact ⟨(Option.some.inj mapped).symm, Nat.lt_of_not_ge window, Nat.lt_of_not_ge slab⟩

variable (memory : Memory)

def ramAddressToHostIndex (address : Bytes8) : Option Nat :=
  let ram := memory.layout.ram
  let guestAddress := bytesToBigInt address
  let base := bytesToBigInt ram.guestAddress
  if guestAddress < base ∨ guestAddress ≥ base + ram.guestByteLength then none
  else denseGuestToHostIndex ram (guestAddress - base)

def loadRamByte (hostIndex : Nat) : BitVec 8 := memory.element hostIndex

def storeRamByte (hostIndex : Nat) (value : BitVec 8) : Memory := memory.setElement hostIndex value

/-- One turn of the load loop. -/
def loadRamTurn (offset byteIndex : Nat) (destination : Bytes8) : Bytes8 :=
  setByte destination byteIndex
    (match denseGuestToHostIndex memory.layout.ram (offset + byteIndex) with
      | none => 0
      | some hostIndex => loadRamByte memory hostIndex)

def loadBytesFromRam (destination : Bytes8) (offset byteLength : Nat) : Bytes8 :=
  forEachIndex (loadRamTurn memory offset) byteLength destination

/-- One turn of the store loop. -/
def storeRamTurn (offset : Nat) (source : Bytes8) (byteIndex : Nat) (memory : Memory) : Memory :=
  match denseGuestToHostIndex memory.layout.ram (offset + byteIndex) with
  | none => memory
  | some hostIndex => storeRamByte memory hostIndex (byte source byteIndex)

def storeBytesToRam (offset : Nat) (source : Bytes8) (byteLength : Nat) : Memory :=
  forEachIndex (storeRamTurn offset source) byteLength memory

/-- The host index of an aligned access that stays inside the slab. -/
def alignedRamAddressToHostIndex (address : Bytes8) (byteLength : AtomicWidth) : Option Nat :=
  match ramAddressToHostIndex memory address with
  | none => none
  | some hostIndex =>
    let ram := memory.layout.ram
    if hostIndex + byteLength.byteLength > ram.hostIndex + ram.hostByteLength then none
    else if hostIndex % byteLength.byteLength ≠ 0 then none
    else some hostIndex

variable {memory} in
/-- An aligned access starts at its offset in the slab, and its bytes lie inside. -/
theorem alignedRamAddressToHostIndex_some
    (aligned : alignedRamAddressToHostIndex memory address byteLength = some hostIndex) :
    (∃ offset, memory.layout.ram.guestAddress.toNat + offset = address.toNat ∧
      hostIndex = memory.layout.ram.hostIndex + offset) ∧
      hostIndex + byteLength.byteLength ≤ memory.layout.ram.hostIndex + memory.layout.ram.hostByteLength := by
  rw [alignedRamAddressToHostIndex] at aligned
  split at aligned
  · cases aligned
  rename_i found mapped
  dsimp only at aligned
  split at aligned
  · cases aligned
  rename_i inside
  split at aligned
  · cases aligned
  cases aligned
  simp only [ramAddressToHostIndex, bytesToBigInt_eq] at mapped
  split at mapped
  · cases mapped
  obtain ⟨rfl, _⟩ := denseGuestToHostIndex_some mapped
  exact ⟨⟨_, by omega, rfl⟩, Nat.le_of_not_gt inside⟩

def atomicRamLoad (address : Bytes8) (byteLength : AtomicWidth) : Option Bytes8 :=
  (alignedRamAddressToHostIndex memory address byteLength).map fun hostIndex =>
    match byteLength with
    | .word => signedNumberToBytes (memory.load32 hostIndex) 32
    | .doubleword => unsignedBigIntToBytes (memory.load64 hostIndex).toNat

/-- The bytes of an atomic store, as the typed array writes them. -/
def storeAtomic (hostIndex : Nat) (byteLength : AtomicWidth) (source : Bytes8) : Memory :=
  match byteLength with
  | .word => memory.store32 hostIndex (bytesToNumber source)
  | .doubleword => memory.store64 hostIndex (BitVec.ofInt 64 (signedBytesToBigInt source))

/-- `none` outside RAM or misaligned; the write and the invalidation share the lock. -/
def atomicRamStore (address source : Bytes8) (byteLength : AtomicWidth) : Option Memory :=
  (alignedRamAddressToHostIndex memory address byteLength).map fun hostIndex =>
    (withMonitorLock memory fun memory =>
      let memory := storeAtomic memory hostIndex byteLength source
      ((), invalidateOverlappingReservationsLocked memory address byteLength.byteLength)).2

/-- `none` outside RAM or misaligned; otherwise whether the swap took place, the value
observed, and the memory afterwards. -/
def atomicRamCompareExchange (address : Bytes8) (byteLength : AtomicWidth) (expected desired : Bytes8) :
    Option (Bool × Bytes8 × Memory) :=
  (alignedRamAddressToHostIndex memory address byteLength).map fun hostIndex =>
    let ((swapped, destination), memory) := withMonitorLock memory fun memory =>
      match byteLength with
      | .word =>
        let expectedBits := bytesToNumber expected
        let (previous, memory) := memory.compareExchange32 hostIndex expectedBits (bytesToNumber desired)
        let destination := signedNumberToBytes previous 32
        if previous ≠ expectedBits then ((false, destination), memory)
        else ((true, destination),
          invalidateOverlappingReservationsLocked memory address byteLength.byteLength)
      | .doubleword =>
        let expectedBits := BitVec.ofInt 64 (signedBytesToBigInt expected)
        let (previous, memory) := memory.compareExchange64 hostIndex expectedBits
          (BitVec.ofInt 64 (signedBytesToBigInt desired))
        let destination := unsignedBigIntToBytes previous.toNat
        if previous ≠ expectedBits then ((false, destination), memory)
        else ((true, destination),
          invalidateOverlappingReservationsLocked memory address byteLength.byteLength)
    (swapped, destination, memory)

end YaRiscV.Emulator
