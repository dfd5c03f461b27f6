import YaRiscV.Emulator.GuestAgreement
import YaRiscV.Emulator.Machine

/-! RAM as one byte-addressed memory: what a load finds after a store, and the atomic accesses
against the plain ones. -/

namespace YaRiscV.Emulator

open YaRiscV.Library YaRiscV.Utils

/-- The byte of the RAM slab at an offset. -/
def ramByte (memory : Memory) (offset : Nat) : BitVec 8 := memory.bytes (memory.layout.ram.hostIndex + offset)

/-- The same bytes in the RAM slab. -/
structure SameRam (left right : Memory) : Prop where
  layout : right.layout = left.layout
  bytes : ∀ offset < left.layout.ram.hostByteLength, ramByte right offset = ramByte left offset

/-- The bytes of `source` that a store puts into RAM, zero-extended. -/
def storedBytes (ram : MappedRegion) (offset : Nat) (source : Bytes8) (byteLength : Nat) : Bytes8 :=
  ofBytes (fun index =>
    if index < byteLength ∧ (denseGuestToHostIndex ram (offset + index)).isSome then byte source index else 0) 8

variable {memory after : Memory} {address source : Bytes8} {offset byteLength : Nat} {width : AtomicWidth}

theorem denseGuestToHostIndex_isSome (ram : MappedRegion) (offset : Nat) :
    (denseGuestToHostIndex ram offset).isSome ↔ offset < ram.guestByteLength ∧ offset < ram.hostByteLength := by
  rw [denseGuestToHostIndex]
  split
  · simp
    omega
  split
  · simp
    omega
  · simp
    omega

/-- The RAM slab lies inside the buffer. -/
theorem ram_element (memory : Memory) (inside : offset < memory.layout.ram.hostByteLength) :
    memory.layout.ram.hostIndex + offset < memory.layout.table.byteLength := by
  have bound := (createMemory_packed memory.layout.accepted).inside _ (lookup_mem memory.layout.ramFound)
  simp only [MappedRegion.toRegion] at bound
  omega

theorem loadRamOffset_eq (memory : Memory) (offset : Nat) : loadRamOffset memory offset =
    if (denseGuestToHostIndex memory.layout.ram offset).isSome then ramByte memory offset else 0 := by
  rw [loadRamOffset]
  cases mapped : denseGuestToHostIndex memory.layout.ram offset with
  | none => rfl
  | some hostIndex =>
    obtain ⟨rfl, _, slab⟩ := denseGuestToHostIndex_some mapped
    exact if_pos (ram_element memory slab)

/-- One turn of the store loop. -/
theorem storeRamTurn_ramByte (memory : Memory) (offset : Nat) (source : Bytes8) (index other : Nat)
    (slab : other < memory.layout.ram.hostByteLength) : ramByte (storeRamTurn offset source index memory) other =
      if other = offset + index ∧ other < memory.layout.ram.guestByteLength then byte source index
      else ramByte memory other := by
  simp only [storeRamTurn]
  cases mapped : denseGuestToHostIndex memory.layout.ram (offset + index) with
  | none =>
    have unmapped := denseGuestToHostIndex_isSome memory.layout.ram (offset + index)
    rw [mapped] at unmapped
    simp only [Option.isSome_none, Bool.false_eq_true, false_iff] at unmapped
    rw [if_neg (by omega)]
  | some hostIndex =>
    obtain ⟨rfl, window, inside⟩ := denseGuestToHostIndex_some mapped
    dsimp only
    rw [storeRamByte, Memory.setElement, if_pos (ram_element memory inside), ramByte, Memory.store_bytes,
      Memory.store_layout]
    by_cases here : other = offset + index
    · rw [if_pos (by omega), if_pos (by omega)]
    · rw [if_neg (by omega), if_neg (by omega), ramByte]

/-- The bytes of the slab after the store loop. -/
theorem storeBytesToRam_ramByte (memory : Memory) (offset : Nat) (source : Bytes8) (byteLength other : Nat)
    (slab : other < memory.layout.ram.hostByteLength) :
    ramByte (storeBytesToRam memory offset source byteLength) other =
      if offset ≤ other ∧ other < offset + byteLength ∧ other < memory.layout.ram.guestByteLength then
        byte source (other - offset)
      else ramByte memory other := by
  induction byteLength with
  | zero =>
    rw [if_neg (by omega)]
    rfl
  | succ byteLength ih =>
    have layout : (storeBytesToRam memory offset source byteLength).layout = memory.layout :=
      storeBytesToRam_confined.layout
    have turn := storeRamTurn_ramByte (storeBytesToRam memory offset source byteLength) offset source byteLength
      other (by rwa [layout])
    rw [layout, ih] at turn
    refine turn.trans ?_
    by_cases last : other = offset + byteLength
    · have index : other - offset = byteLength := by omega
      by_cases window : other < memory.layout.ram.guestByteLength
      · rw [if_pos ⟨last, window⟩, if_pos (by omega), index]
      · rw [if_neg (by omega), if_neg (by omega), if_neg (by omega)]
    · rw [if_neg (by omega)]
      congr 1
      apply propext
      omega

/-- The stores and loads of the monitor leave RAM alone. -/
theorem ChangesOnly.sameRam (changes : ChangesOnly (InMonitor memory.layout) memory after) : SameRam memory after where
  layout := changes.layout
  bytes offset inside := by
    rw [ramByte, changes.layout]
    refine changes.bytes _ fun reached => ?_
    have apart := reached.apart memory.layout.ramFound (by decide)
    simp only [MappedRegion.toRegion] at apart
    omega

theorem SameRam.trans {middle : Memory} (first : SameRam memory middle) (second : SameRam middle after) :
    SameRam memory after where
  layout := second.layout.trans first.layout
  bytes offset inside := (second.bytes offset (by rwa [first.layout])).trans (first.bytes offset inside)

/-- A store that resolves to RAM succeeds, and leaves these bytes there. -/
theorem storeBytes_ram (resolved : resolveGuestAddressToRegionAndOffset memory.layout.table address =
      some (ramRegionId, offset)) (source : Bytes8) (byteLength : Nat) :
    ∃ after, storeBytes memory address source byteLength = .ok after ∧ after.layout = memory.layout ∧
      ∀ other < memory.layout.ram.hostByteLength, ramByte after other =
        if offset ≤ other ∧ other < offset + byteLength ∧ other < memory.layout.ram.guestByteLength then
          byte source (other - offset)
        else ramByte memory other := by
  have opened := (storeBytes_opens memory address byteLength).sameRam
  generalize found : invalidateOverlappingReservationsLocked (acquireMonitorLock memory) address byteLength = start
    at opened
  have written : (storeBytesToRam start offset source byteLength).layout = start.layout :=
    storeBytesToRam_confined.layout
  have closed := (storeBytes_closes (storeBytesToRam start offset source byteLength)).sameRam
  have stored : storeBytesToRegion start address source byteLength =
      .ok (storeBytesToRam start offset source byteLength) := by
    rw [storeBytesToRegion, opened.layout, resolved]
    rfl
  refine ⟨_, ?_, closed.layout.trans (written.trans opened.layout), fun other slab => ?_⟩
  · simp only [storeBytes, found, stored]
    rfl
  · have whole := storeBytesToRam_ramByte start offset source byteLength other (by rwa [opened.layout])
    rw [closed.bytes other (by rwa [written, opened.layout]), whole, opened.layout, opened.bytes other slab]

/-- A load that resolves to RAM reads these bytes and changes nothing. -/
theorem loadBytes_ram (resolved : resolveGuestAddressToRegionAndOffset memory.layout.table address =
      some (ramRegionId, offset)) (byteLength : Nat) : loadBytes memory address byteLength =
    .ok (loadBytesFromRam memory 0 offset byteLength, memory) := by
  rw [loadBytes, resolved]
  rfl

/-- Loading where a store has been made finds the bytes it put into RAM. -/
theorem loadBytesFromRam_stored (fits : byteLength ≤ 8)
    (stored : ∀ other < memory.layout.ram.hostByteLength, ramByte after other =
      if offset ≤ other ∧ other < offset + byteLength ∧ other < memory.layout.ram.guestByteLength then
        byte source (other - offset)
      else ramByte memory other) (layout : after.layout = memory.layout) :
    loadBytesFromRam after 0 offset byteLength = storedBytes memory.layout.ram offset source byteLength := by
  have words : 64 = 8 * 8 := rfl
  refine eq_of_byte words fun index inside => ?_
  rw [byte_loadBytesFromRam _ _ fits, loadRamOffset_eq, layout, storedBytes, byte_ofBytes _ inside (by decide)]
  by_cases early : index < byteLength
  · rw [if_pos early]
    by_cases mapped : (denseGuestToHostIndex memory.layout.ram (offset + index)).isSome
    · obtain ⟨window, slab⟩ := (denseGuestToHostIndex_isSome _ _).mp mapped
      rw [if_pos mapped, if_pos ⟨early, mapped⟩, stored _ slab, if_pos (by omega), Nat.add_sub_cancel_left]
    · rw [if_neg mapped, if_neg fun both => mapped both.2]
  · rw [if_neg early, if_neg fun both => early both.1, byte_zero]

/-- Nothing is cut off where the whole access is in RAM. -/
theorem storedBytes_inside {ram : MappedRegion} (window : offset + byteLength ≤ ram.guestByteLength)
    (slab : offset + byteLength ≤ ram.hostByteLength) :
    storedBytes ram offset source byteLength = zeroExtendBytes source byteLength := by
  have words : 64 = 8 * 8 := rfl
  refine eq_of_byte words fun index inside => ?_
  rw [storedBytes, zeroExtendBytes, byte_ofBytes _ inside (by decide), byte_ofBytes _ inside (by decide)]
  by_cases early : index < byteLength
  · have mapped := (denseGuestToHostIndex_isSome ram (offset + index)).mpr ⟨by omega, by omega⟩
    rw [if_pos early, if_pos ⟨early, mapped⟩]
  · rw [if_neg early, if_neg fun both => early both.1]

/-- What a load of an access inside RAM reads, as a word of the buffer. -/
theorem loadBytesFromRam_word (fits : byteLength ≤ 8)
    (window : offset + byteLength ≤ memory.layout.ram.guestByteLength)
    (slab : offset + byteLength ≤ memory.layout.ram.hostByteLength) :
    loadBytesFromRam memory 0 offset byteLength =
      (memory.bytes.word (memory.layout.ram.hostIndex + offset) byteLength : BitVec (8 * byteLength)).setWidth 64 := by
  have words : 64 = 8 * 8 := rfl
  refine eq_of_byte words fun index inside => ?_
  rw [byte_loadBytesFromRam _ _ fits, byte_setWidth _ (by omega)]
  by_cases early : index < byteLength
  · have mapped := (denseGuestToHostIndex_isSome memory.layout.ram (offset + index)).mpr ⟨by omega, by omega⟩
    rw [if_pos early, ByteStore.byte_word early (Nat.le_refl _), loadRamOffset_eq, if_pos mapped, ramByte,
      Nat.add_assoc]
  · have beyond : 8 * byteLength ≤ 8 * index := by omega
    rw [if_neg early, byte_of_ge _ beyond, byte_zero]

/-- A plain store and the load of the same bytes after it. Bytes that are not in RAM are neither
stored nor found. -/
structure StoreThenLoad (memory : Memory) (address : Bytes8) (offset : Nat) (source : Bytes8) (byteLength : Nat)
    (after : Memory) : Prop where
  stored : storeBytes memory address source byteLength = .ok after
  loaded : loadBytes after address byteLength = .ok (storedBytes memory.layout.ram offset source byteLength, after)
  whole : guestAccessIsMapped memory.layout.table address byteLength = true →
    offset + byteLength ≤ memory.layout.ram.hostByteLength →
      loadBytes after address byteLength = .ok (zeroExtendBytes source byteLength, after)
  others : ∀ other < memory.layout.ram.hostByteLength, ¬ (offset ≤ other ∧ other < offset + byteLength) →
    ramByte after other = ramByte memory other

/-- How the atomic accesses of one location compare with the plain ones: `loaded` is what a plain
load finds there, `value` what an atomic load finds. -/
structure AtomicAgreement (memory : Memory) (address : Bytes8) (width : AtomicWidth) (loaded value : Bytes8) :
    Prop where
  load : loadBytes memory address width.byteLength = .ok (loaded, memory)
  extended : value = signExtendBytes loaded width.byteLength
  store : ∀ source, (atomicStoreBytes memory address source width).1 = true ∧ ∃ plain,
    storeBytes memory address source width.byteLength = .ok plain ∧
      SameRam plain (atomicStoreBytes memory address source width).2
  swapped : ∀ destination expected desired, zeroExtendBytes expected width.byteLength = loaded → ∃ swapped plain,
    atomicCompareExchangeBytes memory destination address width expected desired = (true, value, swapped) ∧
      storeBytes memory address desired width.byteLength = .ok plain ∧ SameRam plain swapped
  kept : ∀ destination expected desired, zeroExtendBytes expected width.byteLength ≠ loaded → ∃ kept,
    atomicCompareExchangeBytes memory destination address width expected desired = (false, value, kept) ∧
      SameRam memory kept

theorem inRam_resolved (inside : inRam memory address = true) : ∃ offset,
    resolveGuestAddressToRegionAndOffset memory.layout.table address = some (ramRegionId, offset) := by
  rw [inRam] at inside
  split at inside
  · cases inside
  · rename_i regionId offset resolved
    exact ⟨offset, by rw [resolved, beq_iff_eq.mp inside]⟩

/-- An atomic store leaves the bytes a plain store leaves. -/
theorem atomicRamStore_sameRam {stored plain : Memory} (offset : Nat)
    (aligned : alignedRamAddressToHostIndex memory address width = some (memory.layout.ram.hostIndex + offset))
    (window : offset + width.byteLength ≤ memory.layout.ram.guestByteLength)
    (resolved : resolveGuestAddressToRegionAndOffset memory.layout.table address = some (ramRegionId, offset))
    (atomic : atomicRamStore memory address source width = some stored)
    (plainly : storeBytes memory address source width.byteLength = .ok plain) : SameRam plain stored := by
  obtain ⟨hostIndex, operation⟩ := atomicRamStore_atomicStore atomic
  obtain rfl := Option.some.inj (aligned.symm.trans operation.aligned)
  obtain ⟨other, written, layout, bytes⟩ := storeBytes_ram resolved source width.byteLength
  cases plainly.symm.trans written
  refine ⟨operation.confined.layout.trans layout.symm, fun place slab => ?_⟩
  rw [layout] at slab
  have unmonitored : ¬ InMonitor memory.layout (memory.layout.ram.hostIndex + place) := by
    intro reached
    have apart := reached.apart memory.layout.ramFound (by decide)
    simp only [MappedRegion.toRegion] at apart
    omega
  rw [bytes place slab, ramByte, operation.confined.layout, operation.bytes _ unmonitored]
  by_cases covered : offset ≤ place ∧ place < offset + width.byteLength
  · rw [if_pos (by omega), if_pos (by omega), Nat.add_sub_add_left]
  · rw [if_neg (by omega), if_neg (by omega), ramByte]

theorem mapped_window (resolved : resolveGuestAddressToRegionAndOffset memory.layout.table address =
      some (ramRegionId, offset)) : guestAccessIsMapped memory.layout.table address byteLength = true ↔
    offset + byteLength ≤ memory.layout.ram.guestByteLength := by
  rw [guestAccessIsMapped, resolved]
  simp only [memory.layout.ramFound, Option.bind_some, MappedRegion.toRegion, Option.any_some, decide_eq_true_eq]

/-- A word fits the eight bytes it is extended to. -/
theorem setWidth_atomicWord (word : BitVec (8 * width.byteLength)) :
    (word.setWidth 64).setWidth (8 * width.byteLength) = word := by
  have narrow : 8 * width.byteLength ≤ 64 := by cases width <;> decide
  rw [BitVec.setWidth_setWidth_of_le _ narrow, BitVec.setWidth_eq]

/-- The bytes equal `expected` when the words do. -/
theorem zeroExtendBytes_atomicWord (expected : Bytes8) (word : BitVec (8 * width.byteLength)) :
    zeroExtendBytes expected width.byteLength = word.setWidth 64 ↔ word = expected.setWidth (8 * width.byteLength) := by
  rw [zeroExtendBytes_eq]
  constructor
  · intro same
    have cut := congrArg (BitVec.setWidth (8 * width.byteLength)) same
    rw [setWidth_atomicWord, setWidth_atomicWord] at cut
    exact cut.symm
  · rintro rfl
    rfl

/-- An atomic access that is accepted starts at its offset in the slab. -/
theorem atomicLoadBytes_place (accepted : atomicLoadBytes memory address width = some value) : ∃ offset,
    resolveGuestAddressToRegionAndOffset memory.layout.table address = some (ramRegionId, offset) ∧
      alignedRamAddressToHostIndex memory address width = some (memory.layout.ram.hostIndex + offset) ∧
      offset + width.byteLength ≤ memory.layout.ram.hostByteLength := by
  obtain ⟨inside, read⟩ := atomicLoadBytes_some accepted
  obtain ⟨hostIndex, aligned, _⟩ := Option.map_eq_some_iff.mp read
  obtain ⟨⟨start, place, rfl⟩, bound⟩ := alignedRamAddressToHostIndex_some aligned
  obtain ⟨offset, resolved⟩ := inRam_resolved inside
  obtain ⟨same, _⟩ := resolve_ram resolved
  obtain rfl : start = offset := by omega
  exact ⟨start, resolved, aligned, by omega⟩

/-- Where the whole access is mapped, the atomic accesses agree with the plain ones. -/
theorem atomicLoadBytes_agreement (mapped : guestAccessIsMapped memory.layout.table address width.byteLength = true)
    (accepted : atomicLoadBytes memory address width = some value) :
    ∃ loaded, AtomicAgreement memory address width loaded value := by
  obtain ⟨offset, resolved, aligned, slab⟩ := atomicLoadBytes_place accepted
  obtain ⟨inside, read⟩ := atomicLoadBytes_some accepted
  obtain rfl := Option.some.inj ((atomicRamLoad_word aligned).symm.trans read)
  have window := (mapped_window resolved).mp mapped
  have fits : width.byteLength ≤ 8 := by cases width <;> decide
  refine ⟨(atomicWord memory (memory.layout.ram.hostIndex + offset) width).setWidth 64, ?_, ?_, ?_, ?_, ?_⟩
  · rw [loadBytes_ram resolved, loadBytesFromRam_word fits window slab]
    rfl
  · rw [signExtendBytes_eq _ width.positive fits, setWidth_atomicWord]
  · intro source
    obtain ⟨stored, atomic⟩ := atomicRamStore_some read source
    obtain ⟨plain, plainly, _⟩ := storeBytes_ram resolved source width.byteLength
    have same := atomicRamStore_sameRam offset aligned window resolved atomic plainly
    have released := releaseScMonitorIfHeld_changes stored
    simp only [atomicStoreBytes, inside, if_true, atomic]
    exact ⟨trivial, plain, plainly, same.trans released.sameRam⟩
  · intro destination expected desired equal
    obtain ⟨stored, atomic⟩ := atomicRamStore_some read desired
    obtain ⟨plain, plainly, _⟩ := storeBytes_ram resolved desired width.byteLength
    have words := (zeroExtendBytes_atomicWord expected _).mp equal
    refine ⟨stored, plain, ?_, plainly, atomicRamStore_sameRam offset aligned window resolved atomic plainly⟩
    rw [atomicCompareExchangeBytes, inside, if_pos rfl, atomicRamCompareExchange_word aligned, if_pos words, atomic]
    rfl
  · intro destination expected desired different
    have words := (zeroExtendBytes_atomicWord expected _).not.mp different
    have locked : ChangesOnly (InMonitor memory.layout) memory (acquireMonitorLock memory) := acquireMonitorLock_changes
    have acquired := locked.sameRam
    have released := (releaseMonitorLock_changes (acquireMonitorLock memory)).sameRam
    refine ⟨releaseMonitorLock (acquireMonitorLock memory), ?_, acquired.trans released⟩
    rw [atomicCompareExchangeBytes, inside, if_pos rfl, atomicRamCompareExchange_word aligned, if_neg words]

theorem storeThenLoad (resolved : resolveGuestAddressToRegionAndOffset memory.layout.table address =
      some (ramRegionId, offset)) (source : Bytes8) (fits : byteLength ≤ 8) :
    ∃ after, StoreThenLoad memory address offset source byteLength after := by
  obtain ⟨after, stored, layout, bytes⟩ := storeBytes_ram resolved source byteLength
  have loaded : loadBytes after address byteLength =
      .ok (storedBytes memory.layout.ram offset source byteLength, after) := by
    rw [loadBytes_ram (by rw [layout]; exact resolved), loadBytesFromRam_stored fits bytes layout]
  refine ⟨after, stored, loaded, fun mapped slab => ?_, fun other slab apart => ?_⟩
  · rw [loaded, storedBytes_inside ((mapped_window resolved).mp mapped) slab]
  · rw [bytes other slab, if_neg fun covered => apart ⟨covered.1, covered.2.1⟩]

/-- RAM is one byte-addressed memory on both paths: plain stores and loads at every address of the
window, and the atomic accesses wherever they are accepted on mapped bytes, which is everywhere
they are accepted when the whole slab is guest-addressable. -/
theorem ram_coherent (memory : Memory) :
    (∀ address offset source byteLength, byteLength ≤ 8 →
      resolveGuestAddressToRegionAndOffset memory.layout.table address = some (ramRegionId, offset) →
        ∃ after, StoreThenLoad memory address offset source byteLength after) ∧
    (∀ address width value, atomicLoadBytes memory address width = some value →
      guestAccessIsMapped memory.layout.table address width.byteLength = true →
        ∃ loaded, AtomicAgreement memory address width loaded value) ∧
    (memory.layout.ram.hostByteLength ≤ memory.layout.ram.guestByteLength →
      ∀ address width value, atomicLoadBytes memory address width = some value →
        guestAccessIsMapped memory.layout.table address width.byteLength = true) := by
  refine ⟨fun address offset source byteLength fits resolved => storeThenLoad resolved source fits,
    fun address width value accepted mapped => atomicLoadBytes_agreement mapped accepted,
    fun entire address width value accepted => ?_⟩
  obtain ⟨offset, resolved, _, slab⟩ := atomicLoadBytes_place accepted
  exact (mapped_window resolved).mpr (by omega)

/-- A store that runs off the end of RAM, and a word at its start. -/
theorem ram_coherent_default :
    (∃ after, StoreThenLoad defaultMemory 0x80000ffe 0xffe 0x1122334455667788 8 after) ∧
      ∃ loaded, AtomicAgreement defaultMemory 0x80000000 .word loaded 0 := by
  obtain ⟨plain, atomic, entire⟩ := ram_coherent defaultMemory
  have accepted : atomicLoadBytes defaultMemory 0x80000000 .word = some 0 := by decide
  exact ⟨plain 0x80000ffe 0xffe 0x1122334455667788 8 (by decide) (by decide),
    atomic 0x80000000 .word 0 accepted (entire (by decide) _ _ _ accepted)⟩

end YaRiscV.Emulator
