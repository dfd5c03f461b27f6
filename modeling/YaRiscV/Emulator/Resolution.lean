import YaRiscV.Emulator.Region

/-! Resolution is exact: over every accepted region list, an address resolves to the window that
contains it, and to nothing where no window does. -/

namespace YaRiscV.Emulator

open YaRiscV.Utils

/-- The window of the spec contains an address; windows may end beyond 2^64. -/
def RegionSpec.Contains (spec : RegionSpec) (address : Nat) : Prop :=
  ∃ base length, spec.window = some (base, length) ∧ base.toNat ≤ address ∧ (address : Int) < base.toNat + length

/-- Every window of the list has at least one byte. -/
def WindowsNonempty (specs : List RegionSpec) : Prop :=
  ∀ spec ∈ specs, ∀ base length, spec.window = some (base, length) → 0 < length

/-- What packing keeps of the specs: ids, lengths and windows, and the bases in pack order. -/
structure Packing.Keeps (packing : Packing) (specs : List RegionSpec) : Prop where
  regions : packing.regions.map (fun entry => (entry.1, entry.2.hostByteLength, entry.2.window)) =
    specs.map fun spec => (spec.id, spec.hostByteLength.toNat,
      spec.window.map fun window => ⟨window.1, window.2.toNat⟩)
  bases : packing.regionsByBaseGuestAddress =
    specs.filterMap fun spec => spec.window.map fun window => (window.1, spec.id)

theorem packRegion_keeps {packing next : Packing} (kept : packing.Keeps specs)
    (packed : packRegion packing spec = .ok next) : next.Keeps (specs ++ [spec]) := by
  simp only [packRegion] at packed
  split at packed
  · cases packed
  split at packed
  · cases packed
  split at packed
  · cases packed
  cases packed
  constructor
  · rw [List.map_append, List.map_append, kept.regions]
    rfl
  · rw [List.filterMap_append, kept.bases, List.filterMap_cons, List.filterMap_nil]
    cases spec.window <;> rfl

theorem packRegions_keeps {packing final : Packing} (kept : packing.Keeps before)
    (packed : packRegions packing specs = .ok final) : final.Keeps (before ++ specs) := by
  induction specs generalizing packing before with
  | nil =>
    cases packed
    rw [List.append_nil]
    exact kept
  | cons spec rest ih =>
    simp only [packRegions] at packed
    cases step : packRegion packing spec with
    | error message => simp [step, Except.bind] at packed
    | ok next =>
      rw [step] at packed
      rw [List.append_cons]
      exact ih (packRegion_keeps kept step) packed

/-- An accepted table over its specs: every window under its id, sorted by base, none overlapping. -/
structure RegionTable.Indexed (table : RegionTable) (specs : List RegionSpec) : Prop where
  window : ∀ spec ∈ specs, ∃ region, table.regions.lookup spec.id = some region ∧
    region.window = (spec.window.map fun window => ⟨window.1, window.2.toNat⟩) ∧
    region.hostByteLength = spec.hostByteLength.toNat
  known : ∀ regionId region, table.regions.lookup regionId = some region → ∃ spec ∈ specs, spec.id = regionId
  entry : ∀ base regionId, (base, regionId) ∈ table.regionsByBaseGuestAddress ↔
    ∃ spec ∈ specs, spec.id = regionId ∧ ∃ length, spec.window = some (base, length)
  sorted : table.regionsByBaseGuestAddress.Pairwise fun a b => a.1.toNat ≤ b.1.toNat
  clear : specs.Pairwise fun a b => ∀ base length base' length', a.window = some (base, length) →
    b.window = some (base', length') → rangesOverlap base.toNat length base'.toNat length' = false

theorem baseAtMost_iff {a b : Bytes8 × String} : baseAtMost a b ↔ a.1.toNat ≤ b.1.toNat :=
  compareUnsignedBytes_nonpos a.1 b.1

theorem guestWindows_clear (clear : findOverlappingPair (guestWindows specs) = none) :
    specs.Pairwise fun a b => ∀ base length base' length', a.window = some (base, length) →
      b.window = some (base', length') → rangesOverlap base.toNat length base'.toNat length' = false := by
  have apart := findOverlappingPair_none.mp clear
  rw [guestWindows, List.pairwise_filterMap] at apart
  refine apart.imp fun {a b} separate base length base' length' windowA windowB => ?_
  have outcome := separate ⟨a.id, bytesToBigInt base, length⟩ (by rw [windowA]; rfl)
    ⟨b.id, bytesToBigInt base', length'⟩ (by rw [windowB]; rfl)
  rw [bytesToBigInt_eq, bytesToBigInt_eq] at outcome
  exact outcome

theorem createMemory_indexed {table : RegionTable} (accepted : createMemory specs = .ok table) :
    table.Indexed specs := by
  obtain ⟨clear, packing, packed, rfl⟩ := createMemory_accepted accepted
  have empty : Packing.Keeps {} [] := ⟨rfl, rfl⟩
  have kept : packing.Keeps specs := packRegions_keeps empty packed
  have sound : packing.Sound := packRegions_sound ⟨by simp, by simp, by simp, by simp⟩ packed
  constructor
  · intro spec member
    have listed := List.mem_map_of_mem (f := fun spec : RegionSpec => (spec.id, spec.hostByteLength.toNat,
      spec.window.map fun window => (⟨window.1, window.2.toNat⟩ : GuestWindow))) member
    rw [← kept.regions] at listed
    obtain ⟨⟨regionId, region⟩, present, same⟩ := List.mem_map.mp listed
    obtain ⟨rfl, rest⟩ := Prod.mk.inj same
    obtain ⟨lengths, windowed⟩ := Prod.mk.inj rest
    exact ⟨region, lookup_of_mem sound.distinct present, windowed, lengths⟩
  · intro regionId region found
    have listed := List.mem_map_of_mem (f := fun entry : String × Region =>
      (entry.1, entry.2.hostByteLength, entry.2.window))
      (lookup_mem found)
    rw [kept.regions] at listed
    obtain ⟨spec, member, same⟩ := List.mem_map.mp listed
    exact ⟨spec, member, (Prod.mk.inj same).1⟩
  · intro base regionId
    rw [List.mem_insertionSort, kept.bases, List.mem_filterMap]
    constructor
    · rintro ⟨spec, member, mapped⟩
      obtain ⟨⟨start, length⟩, windowed, same⟩ := Option.map_eq_some_iff.mp mapped
      obtain ⟨rfl, rfl⟩ := Prod.mk.inj same
      exact ⟨spec, member, rfl, length, windowed⟩
    · rintro ⟨spec, member, rfl, length, windowed⟩
      exact ⟨spec, member, by rw [windowed]; rfl⟩
  · have total : Std.Total baseAtMost := ⟨fun a b => by
      rw [baseAtMost_iff, baseAtMost_iff]
      exact Nat.le_total _ _⟩
    have transitive : IsTrans _ baseAtMost := ⟨fun a b c first second =>
      baseAtMost_iff.mpr (Nat.le_trans (baseAtMost_iff.mp first) (baseAtMost_iff.mp second))⟩
    exact (List.pairwise_insertionSort baseAtMost _).imp baseAtMost_iff.mp
  · exact guestWindows_clear clear

/-- Two windows of an accepted list that contain one address are the same. -/
theorem RegionTable.Indexed.contains_unique {table : RegionTable} (indexed : table.Indexed specs)
    (memberA : a ∈ specs) (memberB : b ∈ specs) (containsA : a.Contains address) (containsB : b.Contains address) :
    a = b := by
  have symmetric : Std.Symm fun a b : RegionSpec => ∀ base length base' length',
      a.window = some (base, length) → b.window = some (base', length') →
      rangesOverlap base.toNat length base'.toNat length' = false := by
    constructor
    intro a b apart base length base' length' windowA windowB
    have outcome := apart base' length' base length windowB windowA
    rw [← Bool.not_eq_true, rangesOverlap_iff] at outcome ⊢
    omega
  by_contra different
  obtain ⟨base, length, windowA, fromA, untilA⟩ := containsA
  obtain ⟨base', length', windowB, fromB, untilB⟩ := containsB
  have outcome := indexed.clear.forall memberA memberB different base length base' length' windowA windowB
  rw [← Bool.not_eq_true, rangesOverlap_iff] at outcome
  omega

/-- The last base at or below an address that a window contains is that window's own. -/
theorem RegionTable.Indexed.resolve_contained {table : RegionTable} (indexed : table.Indexed specs)
    (nonempty : WindowsNonempty specs) (member : spec ∈ specs) {address : Bytes8}
    (contains : spec.Contains address.toNat) : ∃ base length, spec.window = some (base, length) ∧
      resolveGuestAddressToRegionAndOffset table address = some (spec.id, address.toNat - base.toNat) := by
  obtain ⟨base, length, windowed, start, finish⟩ := contains
  refine ⟨base, length, windowed, ?_⟩
  have partitioned : Partitioned table.regionsByBaseGuestAddress fun entry =>
      decide (compareUnsignedBytes entry.1 address ≤ 0) := by
    refine indexed.sorted.imp fun order later => ?_
    rw [decide_eq_true_eq, compareUnsignedBytes_nonpos] at later ⊢
    exact Nat.le_trans order later
  obtain ⟨i, inside, listed⟩ := List.getElem_of_mem ((indexed.entry base spec.id).mpr ⟨spec, member, rfl, length,
    windowed⟩)
  obtain ⟨last, ⟨otherBase, otherId⟩, found, later, entry, reached⟩ := findLastIndex_last partitioned inside (by
    rw [listed, decide_eq_true_eq, compareUnsignedBytes_nonpos]
    exact start)
  rw [decide_eq_true_eq, compareUnsignedBytes_nonpos] at reached
  change otherBase.toNat ≤ address.toNat at reached
  obtain ⟨other, otherMember, rfl, otherLength, otherWindow⟩ :=
    (indexed.entry otherBase otherId).mp (List.mem_of_getElem? entry)
  have order : base.toNat ≤ otherBase.toNat := by
    obtain ⟨bound, atLast⟩ := List.getElem?_eq_some_iff.mp entry
    rcases Nat.lt_or_eq_of_le later with less | same
    · have ordered := List.pairwise_iff_getElem.mp indexed.sorted i last inside bound less
      rw [listed, atLast] at ordered
      exact ordered
    · subst same
      rw [listed] at atLast
      exact Nat.le_of_eq (congrArg (fun entry => entry.1.toNat) atLast)
  have positive := nonempty other otherMember otherBase otherLength otherWindow
  -- The window at that base starts inside `spec`'s, so the overlap check makes it the same one.
  have same : spec = other := indexed.contains_unique member otherMember
    ⟨base, length, windowed, order, by omega⟩ ⟨otherBase, otherLength, otherWindow, Nat.le_refl _, by omega⟩
  subst same
  obtain ⟨region, known, mapped, _⟩ := indexed.window spec member
  rw [windowed] at mapped
  have present : ¬ (last : Int) < 0 := by omega
  simp only [resolveGuestAddressToRegionAndOffset, found, if_neg present, Int.toNat_natCast, entry, known, mapped,
    bytesToBigInt_eq, Option.bind_eq_bind, Option.bind_some, Option.map_some]
  rw [if_neg (by omega)]

theorem RegionTable.Indexed.resolve_source {table : RegionTable} (indexed : table.Indexed specs) {address : Bytes8}
    (resolved : resolveGuestAddressToRegionAndOffset table address = some (regionId, offset)) :
    ∃ spec ∈ specs, spec.id = regionId ∧ spec.Contains address.toNat ∧
      ∃ base length, spec.window = some (base, length) ∧ offset = address.toNat - base.toNat := by
  obtain ⟨region, window, found, windowed, placed, inside⟩ := resolve_window resolved
  obtain ⟨spec, member, rfl⟩ := indexed.known regionId region found
  obtain ⟨region', found', mapped, _⟩ := indexed.window spec member
  obtain rfl := Option.some.inj (found.symm.trans found')
  obtain ⟨⟨base, length⟩, specWindow, rfl⟩ := Option.map_eq_some_iff.mp (mapped.symm.trans windowed)
  change address.toNat = base.toNat + offset at placed
  change offset < length.toNat at inside
  exact ⟨spec, member, rfl, ⟨base, length, specWindow, by omega, by omega⟩, base, length, specWindow, by omega⟩

/-- What resolution promises about the windows of a region list. -/
structure ResolutionExact (specs : List RegionSpec) (table : RegionTable) : Prop where
  resolved : ∀ address regionId offset, resolveGuestAddressToRegionAndOffset table address = some (regionId, offset) ↔
    ∃ spec ∈ specs, spec.id = regionId ∧ spec.Contains address.toNat ∧
      ∃ base length, spec.window = some (base, length) ∧ offset = address.toNat - base.toNat
  unique : ∀ address, ∀ a ∈ specs, ∀ b ∈ specs, a.Contains address → b.Contains address → a = b
  unmapped : ∀ address, resolveGuestAddressToRegionAndOffset table address = none ↔
    ∀ spec ∈ specs, ¬ spec.Contains address.toNat
  mapped : ∀ address byteLength, 1 ≤ byteLength → (guestAccessIsMapped table address byteLength = true ↔
    ∃ spec ∈ specs, ∀ i < byteLength, spec.Contains (address.toNat + i))

theorem RegionTable.Indexed.resolve_iff {table : RegionTable} (indexed : table.Indexed specs)
    (nonempty : WindowsNonempty specs) (address : Bytes8) :
    resolveGuestAddressToRegionAndOffset table address = some (regionId, offset) ↔
      ∃ spec ∈ specs, spec.id = regionId ∧ spec.Contains address.toNat ∧
        ∃ base length, spec.window = some (base, length) ∧ offset = address.toNat - base.toNat := by
  constructor
  · exact indexed.resolve_source
  · rintro ⟨spec, member, rfl, contains, base, length, windowed, rfl⟩
    obtain ⟨base', length', windowed', resolved⟩ := indexed.resolve_contained nonempty member contains
    obtain ⟨rfl, -⟩ := Prod.mk.inj (Option.some.inj (windowed.symm.trans windowed'))
    exact resolved

theorem RegionTable.Indexed.resolve_none_iff {table : RegionTable} (indexed : table.Indexed specs)
    (nonempty : WindowsNonempty specs) (address : Bytes8) :
    resolveGuestAddressToRegionAndOffset table address = none ↔ ∀ spec ∈ specs, ¬ spec.Contains address.toNat := by
  constructor
  · intro missed spec member contains
    obtain ⟨base, length, _, resolved⟩ := indexed.resolve_contained nonempty member contains
    rw [missed] at resolved
    cases resolved
  · intro outside
    cases resolved : resolveGuestAddressToRegionAndOffset table address with
    | none => rfl
    | some hit =>
      obtain ⟨spec, member, _, contains, _⟩ := indexed.resolve_source resolved
      exact absurd contains (outside spec member)

theorem RegionTable.Indexed.guestAccessIsMapped_iff {table : RegionTable} (indexed : table.Indexed specs)
    (nonempty : WindowsNonempty specs) (address : Bytes8) {byteLength : Nat} (someByte : 1 ≤ byteLength) :
    guestAccessIsMapped table address byteLength = true ↔
      ∃ spec ∈ specs, ∀ i < byteLength, spec.Contains (address.toNat + i) := by
  constructor
  · intro mapped
    rw [guestAccessIsMapped] at mapped
    split at mapped
    · cases mapped
    · rename_i regionId offset resolved
      obtain ⟨spec, member, rfl, ⟨base, length, windowed, start, _⟩, base', length', windowed', rfl⟩ :=
        indexed.resolve_source resolved
      obtain ⟨rfl, rfl⟩ := Prod.mk.inj (Option.some.inj (windowed.symm.trans windowed'))
      obtain ⟨region, known, kept, _⟩ := indexed.window spec member
      rw [known, Option.bind_some, kept, windowed, Option.map_some, Option.any_some, decide_eq_true_eq] at mapped
      change address.toNat - base.toNat + byteLength ≤ length.toNat at mapped
      exact ⟨spec, member, fun i early => ⟨base, length, windowed, by omega, by omega⟩⟩
  · rintro ⟨spec, member, contains⟩
    obtain ⟨base, length, windowed, resolved⟩ := indexed.resolve_contained nonempty member (contains 0 someByte)
    obtain ⟨base', length', windowed', start, finish⟩ := contains (byteLength - 1) (by omega)
    obtain ⟨rfl, rfl⟩ := Prod.mk.inj (Option.some.inj (windowed.symm.trans windowed'))
    obtain ⟨first, firstLength, firstWindowed, firstStart, _⟩ := contains 0 someByte
    obtain ⟨rfl, rfl⟩ := Prod.mk.inj (Option.some.inj (windowed.symm.trans firstWindowed))
    obtain ⟨region, known, kept, _⟩ := indexed.window spec member
    rw [guestAccessIsMapped, resolved]
    simp only [known, Option.bind_some, kept, windowed, Option.map_some, Option.any_some, decide_eq_true_eq]
    omega

/-- Resolution is exact over every accepted list of nonempty windows. -/
theorem createMemory_resolution {table : RegionTable} (accepted : createMemory specs = .ok table)
    (nonempty : WindowsNonempty specs) : ResolutionExact specs table := by
  have indexed := createMemory_indexed accepted
  exact ⟨fun address _ _ => indexed.resolve_iff nonempty address,
    fun _ _ memberA _ memberB => indexed.contains_unique memberA memberB,
    fun address => indexed.resolve_none_iff nonempty address,
    fun address _ someByte => indexed.guestAccessIsMapped_iff nonempty address someByte⟩

/-- A host-only slab between two windows, packed against their order; one ends beyond 2^64. -/
theorem createMemory_resolution_mixed :
    ∃ table, createMemory [⟨"high", 16, some (0xfffffffffffffff0, 0x20)⟩, ⟨"host", 4, none⟩,
        ⟨"low", 8, some (0x1000, 8)⟩] = .ok table ∧
      ResolutionExact [⟨"high", 16, some (0xfffffffffffffff0, 0x20)⟩, ⟨"host", 4, none⟩,
        ⟨"low", 8, some (0x1000, 8)⟩] table := by
  refine ⟨_, rfl, createMemory_resolution rfl ?_⟩
  intro spec member base length windowed
  simp only [List.mem_cons, List.not_mem_nil, or_false] at member
  rcases member with rfl | rfl | rfl <;> cases windowed <;> decide

end YaRiscV.Emulator
