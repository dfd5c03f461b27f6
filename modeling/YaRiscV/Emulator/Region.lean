import YaRiscV.Utils.Bytes
import YaRiscV.Utils.Ranges
import Mathlib.Data.List.Sort

/-! `memory.ts`: packing region specs into one shared buffer, and resolving guest
addresses against the packed windows. -/

namespace YaRiscV.Emulator

open YaRiscV.Utils

/-- A guest physical window of a packed region. -/
structure GuestWindow where
  guestAddress : Bytes8
  guestByteLength : Nat
  deriving DecidableEq, Repr

/-- One contiguous host slab; `window` is `none` for host-only regions. -/
structure Region where
  hostIndex : Nat
  hostByteLength : Nat
  window : Option GuestWindow
  deriving DecidableEq, Repr

structure RegionSpec where
  id : String
  hostByteLength : Int
  window : Option (Bytes8 × Int)
  deriving DecidableEq, Repr

/-- What `createMemory` fixes for good: everything but the buffer's contents. -/
structure RegionTable where
  regions : List (String × Region)
  regionsByBaseGuestAddress : List (Bytes8 × String)
  byteLength : Nat
  deriving DecidableEq, Repr

def regionHostAlign : Nat := 8

/-- The variables of the packing loop. -/
structure Packing where
  regions : List (String × Region) := []
  regionsByBaseGuestAddress : List (Bytes8 × String) := []
  packedByteLength : Nat := 0

def packRegion (packing : Packing) (spec : RegionSpec) : Except String Packing :=
  if spec.hostByteLength < 0 then
    .error s!"Region '{spec.id}' hostByteLength must be non-negative."
  else if spec.window.any (fun window => decide (window.2 < 0)) then
    .error s!"Region '{spec.id}' guestByteLength must be non-negative."
  else if (packing.regions.lookup spec.id).isSome then
    .error s!"Duplicate memory region ID '{spec.id}'."
  else
    let hostIndex := alignUp packing.packedByteLength regionHostAlign
    let region : Region := {
      hostIndex
      hostByteLength := spec.hostByteLength.toNat
      window := spec.window.map fun window => ⟨window.1, window.2.toNat⟩ }
    .ok {
      regions := packing.regions ++ [(spec.id, region)]
      packedByteLength := hostIndex + spec.hostByteLength.toNat
      regionsByBaseGuestAddress := packing.regionsByBaseGuestAddress ++
        (spec.window.map fun window => (window.1, spec.id)).toList }

def packRegions (packing : Packing) : List RegionSpec → Except String Packing
  | [] => .ok packing
  | spec :: rest => (packRegion packing spec).bind fun next => packRegions next rest

/-- The named ranges of the guest-mapped specs. -/
def guestWindows (regionSpecs : List RegionSpec) : List NamedRange :=
  regionSpecs.filterMap fun spec =>
    spec.window.map fun window => ⟨spec.id, bytesToBigInt window.1, window.2⟩

/-- The order of the window sort; the sort keeps windows of one base in pack order. -/
def baseAtMost (a b : Bytes8 × String) : Prop :=
  compareUnsignedBytes a.1 b.1 ≤ 0

instance : DecidableRel baseAtMost := fun a b =>
  inferInstanceAs (Decidable (compareUnsignedBytes a.1 b.1 ≤ 0))

/-- Pack `regionSpecs` in order; the buffer itself starts out zeroed. -/
def createMemory (regionSpecs : List RegionSpec) : Except String RegionTable :=
  match findOverlappingPair (guestWindows regionSpecs) with
  | some (a, b) => .error s!"{a.name} window overlaps {b.name}."
  | none =>
    (packRegions {} regionSpecs).bind fun packing =>
      (bigIntAsNumber packing.packedByteLength).map fun byteLength => {
        regions := packing.regions
        regionsByBaseGuestAddress := packing.regionsByBaseGuestAddress.insertionSort baseAtMost
        byteLength }

/-- Resolve a guest address to its region and the offset inside that window. -/
def resolveGuestAddressToRegionAndOffset (table : RegionTable) (guestAddress : Bytes8) :
    Option (String × Nat) :=
  let index := findLastIndex table.regionsByBaseGuestAddress fun entry =>
    decide (compareUnsignedBytes entry.1 guestAddress ≤ 0)
  if index < 0 then none
  else do
    let (_, regionId) ← table.regionsByBaseGuestAddress[index.toNat]?
    let region ← table.regions.lookup regionId
    let window ← region.window
    let address := bytesToBigInt guestAddress
    let base := bytesToBigInt window.guestAddress
    if address < base ∨ address ≥ base + window.guestByteLength then none
    else some (regionId, address - base)

def guestAccessIsMapped (table : RegionTable) (address : Bytes8) (byteLength : Nat) : Bool :=
  match resolveGuestAddressToRegionAndOffset table address with
  | none => false
  | some (regionId, offset) =>
    ((table.regions.lookup regionId).bind Region.window).any fun window =>
      decide (offset + byteLength ≤ window.guestByteLength)

/-- Slabs laid out so far: aligned, in order without overlap, below the packed length. -/
structure Packing.Sound (packing : Packing) : Prop where
  aligned : ∀ entry ∈ packing.regions, entry.2.hostIndex % 8 = 0
  inside : ∀ entry ∈ packing.regions,
    entry.2.hostIndex + entry.2.hostByteLength ≤ packing.packedByteLength
  ordered : packing.regions.Pairwise fun a b => a.2.hostIndex + a.2.hostByteLength ≤ b.2.hostIndex
  distinct : packing.regions.Pairwise fun a b => a.1 ≠ b.1

theorem lookup_none_ne {entries : List (String × α)} (absent : entries.lookup regionId = none)
    (member : entry ∈ entries) : entry.1 ≠ regionId := by
  rintro rfl
  have present := List.lookup_eq_none_iff.mp absent entry member
  simp at present

theorem packRegion_sound {packing next : Packing} (sound : packing.Sound)
    (packed : packRegion packing spec = .ok next) : next.Sound := by
  simp only [packRegion] at packed
  split at packed
  · cases packed
  split at packed
  · cases packed
  split at packed
  · cases packed
  rename_i _ _ fresh
  cases packed
  have placed := alignUp_eight packing.packedByteLength
  have absent : packing.regions.lookup spec.id = none := Option.not_isSome_iff_eq_none.mp fresh
  constructor
  · intro entry member
    rcases List.mem_append.mp member with old | new
    · exact sound.aligned entry old
    · simp only [List.mem_singleton.mp new, regionHostAlign, placed]
      omega
  · intro entry member
    rcases List.mem_append.mp member with old | new
    · have bound := sound.inside entry old
      simp only [regionHostAlign, placed]
      omega
    · rw [List.mem_singleton.mp new]
  · apply List.pairwise_append.mpr
    refine ⟨sound.ordered, List.pairwise_singleton _ _, ?_⟩
    intro entry old last new
    have bound := sound.inside entry old
    simp only [List.mem_singleton.mp new, regionHostAlign, placed]
    omega
  · apply List.pairwise_append.mpr
    refine ⟨sound.distinct, List.pairwise_singleton _ _, ?_⟩
    intro entry old last new
    rw [List.mem_singleton.mp new]
    exact lookup_none_ne absent old

theorem packRegions_sound {packing final : Packing} (sound : packing.Sound)
    (packed : packRegions packing specs = .ok final) : final.Sound := by
  induction specs generalizing packing with
  | nil =>
    cases packed
    exact sound
  | cons spec rest ih =>
    simp only [packRegions] at packed
    cases step : packRegion packing spec with
    | error message => simp [step, Except.bind] at packed
    | ok next =>
      rw [step] at packed
      exact ih (packRegion_sound sound step) packed

/-- Two slabs of a table that share no byte, in either order. -/
def Region.Apart (a b : Region) : Prop :=
  a.hostIndex + a.hostByteLength ≤ b.hostIndex ∨ b.hostIndex + b.hostByteLength ≤ a.hostIndex

/-- The host slabs of an accepted region list. -/
structure RegionTable.Packed (table : RegionTable) : Prop where
  aligned : ∀ entry ∈ table.regions, entry.2.hostIndex % 8 = 0
  inside : ∀ entry ∈ table.regions,
    entry.2.hostIndex + entry.2.hostByteLength ≤ table.byteLength
  apart : table.regions.Pairwise fun a b => a.2.Apart b.2
  distinct : table.regions.Pairwise fun a b => a.1 ≠ b.1

theorem createMemory_accepted {table : RegionTable} (accepted : createMemory specs = .ok table) :
    findOverlappingPair (guestWindows specs) = none ∧ ∃ packing, packRegions {} specs = .ok packing ∧
      table = ⟨packing.regions, packing.regionsByBaseGuestAddress.insertionSort baseAtMost,
        packing.packedByteLength⟩ := by
  simp only [createMemory] at accepted
  split at accepted
  · cases accepted
  · rename_i clear
    cases packed : packRegions {} specs with
    | error message => simp [packed, Except.bind] at accepted
    | ok packing =>
      simp only [packed, Except.bind, bigIntAsNumber] at accepted
      split at accepted
      · cases accepted
      · cases accepted
        exact ⟨clear, packing, rfl, rfl⟩

/-- The buffer of an accepted table has a safe length. -/
theorem createMemory_safe {table : RegionTable} (accepted : createMemory specs = .ok table) :
    table.byteLength ≤ maxSafeInteger := by
  simp only [createMemory] at accepted
  split at accepted
  · cases accepted
  · cases packed : packRegions {} specs with
    | error message => simp [packed, Except.bind] at accepted
    | ok packing =>
      simp only [packed, Except.bind, bigIntAsNumber] at accepted
      split at accepted
      · cases accepted
      · rename_i safe
        cases accepted
        have below := (not_or.mp safe).2
        simp only [Int.toNat_natCast]
        omega

theorem createMemory_packed {table : RegionTable} (accepted : createMemory specs = .ok table) :
    table.Packed := by
  obtain ⟨_, packing, packed, rfl⟩ := createMemory_accepted accepted
  have sound : packing.Sound :=
    packRegions_sound ⟨by simp, by simp, by simp, by simp⟩ packed
  exact ⟨sound.aligned, sound.inside, sound.ordered.imp fun order => .inl order, sound.distinct⟩

theorem lookup_of_mem {entries : List (String × α)} (distinct : entries.Pairwise fun a b => a.1 ≠ b.1)
    (member : (regionId, value) ∈ entries) : entries.lookup regionId = some value := by
  obtain ⟨before, after, rfl⟩ := List.append_of_mem member
  refine List.lookup_eq_some_iff.mpr ⟨before, after, rfl, fun entry early => ?_⟩
  have different := (List.pairwise_append.mp distinct).2.2 entry early _ List.mem_cons_self
  simpa using different.symm

theorem lookup_mem {entries : List (String × α)} (found : entries.lookup regionId = some value) :
    (regionId, value) ∈ entries := by
  obtain ⟨before, after, same, _⟩ := List.lookup_eq_some_iff.mp found
  simp [same]

/-- Regions found under different ids share no host byte. -/
theorem RegionTable.Packed.lookup_apart {table : RegionTable} (packed : table.Packed)
    (foundA : table.regions.lookup idA = some a) (foundB : table.regions.lookup idB = some b)
    (different : idA ≠ idB) : a.Apart b := by
  have symmetric : Std.Symm fun a b : String × Region => a.2.Apart b.2 :=
    ⟨fun _ _ apart => apart.symm⟩
  have unequal : (idA, a) ≠ (idB, b) := by
    intro same
    exact different (congrArg Prod.fst same)
  exact packed.apart.forall (lookup_mem foundA) (lookup_mem foundB) unequal

/-- A resolved address lies in the window it was resolved to. -/
theorem resolve_window {table : RegionTable} {address : Bytes8}
    (resolved : resolveGuestAddressToRegionAndOffset table address = some (regionId, offset)) :
    ∃ region window, table.regions.lookup regionId = some region ∧ region.window = some window ∧
      address.toNat = window.guestAddress.toNat + offset ∧ offset < window.guestByteLength := by
  simp only [resolveGuestAddressToRegionAndOffset, bytesToBigInt_eq] at resolved
  split at resolved
  · cases resolved
  · simp only [Option.bind_eq_bind, Option.bind_eq_some_iff] at resolved
    obtain ⟨⟨base, id⟩, _, region, found, window, mapped, checked⟩ := resolved
    split at checked
    · cases checked
    · cases checked
      refine ⟨region, window, found, mapped, ?_, ?_⟩ <;> omega

end YaRiscV.Emulator
