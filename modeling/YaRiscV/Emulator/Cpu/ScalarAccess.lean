import YaRiscV.Emulator.RamCoherence
import YaRiscV.Emulator.Resolution
import YaRiscV.Emulator.Cpu.Completion
import YaRiscV.Emulator.Cpu.TrapPrecision

/-! Scalar loads and stores: what is refused and how, and the bytes of RAM an access reads or
writes where it is allowed. -/

namespace YaRiscV.Emulator

open YaRiscV.Library YaRiscV.Utils

/-- How many bytes each load reads. -/
def LoadFunction.byteLength : LoadFunction → Nat
  | .lb | .lbu => 1
  | .lh | .lhu => 2
  | .lw | .lwu => 4
  | .ld => 8

def LoadFunction.isUnsigned : LoadFunction → Bool
  | .lbu | .lhu | .lwu => true
  | .lb | .lh | .lw | .ld => false

/-- The value of a load: the word it read, extended to the register. -/
def LoadFunction.value (function : LoadFunction) (word : BitVec (8 * function.byteLength)) : BitVec 64 :=
  if function.isUnsigned then word.setWidth 64 else word.signExtend 64

/-- All bytes of an access lie in one guest window; windows may end beyond 2^64. -/
def InOneWindow (memory : Memory) (address : Bytes8) (byteLength : Nat) : Prop :=
  ∃ spec ∈ memory.layout.specs, ∀ i < byteLength, spec.Contains (address.toNat + i)

/-- The bytes of an access are those from `offset` on in the RAM window. -/
structure InRamWindow (memory : Memory) (address : Bytes8) (byteLength offset : Nat) : Prop where
  place : memory.layout.ram.guestAddress.toNat + offset = address.toNat
  inside : offset + byteLength ≤ memory.layout.ram.guestByteLength

/-- Every window but RAM's has at least one byte. -/
def DevicesNonempty (memory : Memory) : Prop :=
  ∀ spec ∈ memory.layout.specs, spec.id ≠ ramRegionId →
    ∀ base length, spec.window = some (base, length) → 0 < length

/-- An access fault: the trap entered, and what it records. -/
structure AccessFault (registers : Registers) (cause : Nat) (address : Bytes8) (after : Registers) : Prop where
  entered : after = enterTrap registers cause address
  cause : after.controlAndStatus (trapCause after.privilegeMode) = BitVec.ofNat 64 cause
  trapValue : after.controlAndStatus (trapTval after.privilegeMode) = address

/-- `rd` holds the value, unless it is `x0`; the program counter moves on; all else stays. -/
structure RegisterLoaded (registers : Registers) (destination : BitVec 5) (value length : Bytes8)
    (after : Registers) : Prop where
  value : destination ≠ 0 → after.generalPurpose destination = value
  zero : after.generalPurpose 0 = registers.generalPurpose 0
  others : ∀ index, index ≠ destination → after.generalPurpose index = registers.generalPurpose index
  programCounter : after.programCounter = registers.programCounter + length
  rest : after = { registers with
    generalPurpose := after.generalPurpose, programCounter := after.programCounter }

/-- RAM holds the low bytes of `source` from `offset` on, and its other bytes still. -/
structure RamStored (memory : Memory) (offset : Nat) (source : Bytes8) (byteLength : Nat) (after : Memory) :
    Prop where
  layout : after.layout = memory.layout
  written : ∀ index < byteLength, offset + index < memory.layout.ram.hostByteLength →
    ramByte after (offset + index) = byte source index
  others : ∀ other < memory.layout.ram.hostByteLength, other < offset ∨ offset + byteLength ≤ other →
    ramByte after other = ramByte memory other

variable {registers : Registers} {memory : Memory} {address : Bytes8} {byteLength offset : Nat}

theorem LoadFunction.byteLength_pos (function : LoadFunction) : 0 < function.byteLength := by
  cases function <;> decide

theorem StoreFunction.byteLength_pos (function : StoreFunction) : 0 < function.byteLength := by
  cases function <;> decide

theorem LoadFunction.byteLength_le (function : LoadFunction) : function.byteLength ≤ 8 := by
  cases function <;> decide

theorem LoadFunction.value_signed (function : LoadFunction) (signed : function.isUnsigned = false) (loaded : Bytes8) :
    function.value (loaded.setWidth (8 * function.byteLength)) = signExtendBytes loaded function.byteLength := by
  rw [value, if_neg (by rw [signed]; exact Bool.false_ne_true),
    signExtendBytes_eq loaded function.byteLength_pos function.byteLength_le]

theorem LoadFunction.value_unsigned (function : LoadFunction) (unsigned : function.isUnsigned = true)
    (loaded : Bytes8) :
    function.value (loaded.setWidth (8 * function.byteLength)) = zeroExtendBytes loaded function.byteLength := by
  rw [value, if_pos unsigned, zeroExtendBytes_eq]

/-- All eight bytes extend to themselves. -/
theorem signExtendBytes_eight (bytes : Bytes8) : signExtendBytes bytes 8 = bytes := by
  rw [signExtendBytes_eq bytes (by decide) (by decide), BitVec.signExtend_eq, BitVec.setWidth_eq]

/-- What the code makes of the bytes it loaded is the value of the load. -/
theorem LoadFunction.execute_value (function : LoadFunction) (registers : Registers) (memory : Memory) :
    function.execute registers memory = loadRegister registers memory function.byteLength fun loaded =>
      function.value (loaded.setWidth (8 * function.byteLength)) := by
  cases unsigned : function.isUnsigned with
  | true =>
    have value := funext (function.value_unsigned unsigned)
    rw [value]
    cases function
    case lbu | lhu | lwu => rfl
    all_goals cases unsigned
  | false =>
    have value := funext (function.value_signed unsigned)
    rw [value]
    cases function
    case lb | lh | lw => rfl
    case ld =>
      have whole := funext signExtendBytes_eight
      exact congrArg (loadRegister registers memory 8) whole.symm
    all_goals cases unsigned

/-- An access the code finds mapped lies in one window. -/
theorem inOneWindow_of_mapped (mapped : guestAccessIsMapped memory.layout.table address byteLength = true) :
    InOneWindow memory address byteLength := by
  rw [guestAccessIsMapped] at mapped
  split at mapped
  · cases mapped
  rename_i regionId offset resolved
  have indexed := createMemory_indexed memory.layout.accepted
  obtain ⟨spec, member, rfl, ⟨base, length, windowed, start, _⟩, base', length', windowed', rfl⟩ :=
    indexed.resolve_source resolved
  cases windowed.symm.trans windowed'
  obtain ⟨region, known, kept, _⟩ := indexed.window spec member
  rw [known, Option.bind_some, kept, windowed, Option.map_some, Option.any_some, decide_eq_true_eq] at mapped
  change address.toNat - base.toNat + byteLength ≤ length.toNat at mapped
  exact ⟨spec, member, fun i early => ⟨base, length, windowed, by omega, by omega⟩⟩

/-- An access inside the RAM window resolves to RAM, at its offset. -/
theorem InRamWindow.resolved (nonempty : DevicesNonempty memory) (positive : 0 < byteLength)
    (ram : InRamWindow memory address byteLength offset) :
    resolveGuestAddressToRegionAndOffset memory.layout.table address = some (ramRegionId, offset) := by
  have indexed := createMemory_indexed memory.layout.accepted
  have found := memory.layout.ramFound
  obtain ⟨spec, member, named⟩ := indexed.known _ _ found
  obtain ⟨region, known, windowed, _⟩ := indexed.window spec member
  rw [named] at known
  cases known.symm.trans found
  obtain ⟨⟨base, length⟩, specWindow, same⟩ := Option.map_eq_some_iff.mp windowed.symm
  obtain ⟨baseSame, lengthSame⟩ := GuestWindow.mk.inj same
  have place := ram.place
  have inside := ram.inside
  change base = memory.layout.ram.guestAddress at baseSame
  change length.toNat = memory.layout.ram.guestByteLength at lengthSame
  rw [← baseSame] at place
  have windowsNonempty : WindowsNonempty memory.layout.specs := by
    intro other otherMember otherBase otherLength otherWindow
    by_cases isRam : other.id = ramRegionId
    · obtain ⟨region, known, windowed, _⟩ := indexed.window other otherMember
      rw [isRam] at known
      cases known.symm.trans found
      rw [otherWindow] at windowed
      have lengths := congrArg GuestWindow.guestByteLength (Option.some.inj windowed)
      change memory.layout.ram.guestByteLength = otherLength.toNat at lengths
      omega
    · exact nonempty other otherMember isRam otherBase otherLength otherWindow
  have contained : spec.Contains address.toNat := ⟨base, length, specWindow, by omega, by omega⟩
  obtain ⟨start, extent, startWindow, resolved⟩ := indexed.resolve_contained windowsNonempty member contained
  cases startWindow.symm.trans specWindow
  rw [resolved, named]
  congr
  omega

/-- A trap on an access fault records its cause and the address. -/
theorem enterTrap_accessFault (registers : Registers) (address : Bytes8) (member : cause ∈ [5, 7]) :
    AccessFault registers cause address (enterTrap registers cause address) := by
  obtain ⟨recorded, value⟩ := enterTrap_recorded registers cause address
  refine ⟨rfl, recorded.trans ?_, value⟩
  simp only [List.mem_cons, List.not_mem_nil, or_false] at member
  rcases member with rfl | rfl <;> decide

theorem denyLoad_refused (refused : ¬ InOneWindow memory address byteLength ∨
      physicalMemoryAccessDenied registers address byteLength .load = true) :
    denyLoad registers memory address byteLength = some (enterTrap registers causeLoadAccessFault address) := by
  rw [denyLoad]
  cases mapped : guestAccessIsMapped memory.layout.table address byteLength with
  | false => rfl
  | true =>
    have denied := refused.resolve_left fun outside => outside (inOneWindow_of_mapped mapped)
    rw [denied]
    rfl

theorem denyStore_refused (refused : ¬ InOneWindow memory address byteLength ∨
      physicalMemoryAccessDenied registers address byteLength .store = true) :
    denyStore registers memory address byteLength = some (enterTrap registers causeStoreAmoAccessFault address) := by
  rw [denyStore]
  cases mapped : guestAccessIsMapped memory.layout.table address byteLength with
  | false => rfl
  | true =>
    have denied := refused.resolve_left fun outside => outside (inOneWindow_of_mapped mapped)
    rw [denied]
    rfl

theorem denyLoad_allowed (mapped : guestAccessIsMapped memory.layout.table address byteLength = true)
    (allowed : physicalMemoryAccessDenied registers address byteLength .load = false) :
    denyLoad registers memory address byteLength = none := by
  rw [denyLoad, mapped, allowed]
  rfl

theorem denyStore_allowed (mapped : guestAccessIsMapped memory.layout.table address byteLength = true)
    (allowed : physicalMemoryAccessDenied registers address byteLength .store = false) :
    denyStore registers memory address byteLength = none := by
  rw [denyStore, mapped, allowed]
  rfl

/-- The word a load of RAM returns is assembled from its bytes, lowest address first. -/
theorem loadBytesFromRam_bytes (fits : byteLength ≤ 8) :
    (loadBytesFromRam memory 0 offset byteLength).setWidth (8 * byteLength) =
      ofBytes (fun index => loadRamOffset memory (offset + index)) byteLength := by
  refine eq_of_byte rfl fun index inside => ?_
  rw [byte_setWidth _ (by omega), byte_loadBytesFromRam _ _ fits, if_pos inside,
    byte_ofBytes _ inside (Nat.le_refl _)]

theorem completeWith_loaded (registers : Registers) (memory : Memory) (destination : BitVec 5)
    (value length : Bytes8) : ∃ after, completeWith registers memory destination value length =
      .completed after memory ∧ RegisterLoaded registers destination value length after := by
  have moved := addBytes_eq registers.programCounter length
  refine ⟨_, rfl, ?_, writeGeneralPurposeRegister_zero _ _, ?_, ?_, ?_⟩
  · intro writable
    change (writeGeneralPurposeRegister registers destination value).generalPurpose destination = value
    rw [writeGeneralPurposeRegister, if_neg writable]
    exact Function.update_self ..
  · intro index other
    change (writeGeneralPurposeRegister registers destination value).generalPurpose index = _
    rw [writeGeneralPurposeRegister]
    split
    · rfl
    · exact Function.update_of_ne other ..
  · rw [advanceProgramCounter, writeGeneralPurposeRegister_programCounter, moved]
  · rw [advanceProgramCounter, writeGeneralPurposeRegister]
    split <;> rfl

/-- What a load from `address` does: the fault where it is refused, its value where RAM answers. -/
structure LoadEffect (registers : Registers) (memory : Memory) (function : LoadFunction) (args : LoadArgs)
    (length address : Bytes8) : Prop where
  refused : ¬ InOneWindow memory address function.byteLength ∨
      physicalMemoryAccessDenied registers address function.byteLength .load = true →
    ∃ after, function.execute registers memory args length = .trapped after memory ∧
      AccessFault registers 5 address after
  allowed : DevicesNonempty memory → ∀ offset, InRamWindow memory address function.byteLength offset →
    physicalMemoryAccessDenied registers address function.byteLength .load = false →
    ∃ after, function.execute registers memory args length = .completed after memory ∧
      RegisterLoaded registers args.destinationRegister
        (function.value (ofBytes (fun index => loadRamOffset memory (offset + index)) function.byteLength))
        length after

/-- What a store to `address` does: the fault where it is refused, its bytes where RAM takes them. -/
structure StoreEffect (registers : Registers) (memory : Memory) (function : StoreFunction) (args : StoreArgs)
    (length address : Bytes8) : Prop where
  refused : ¬ InOneWindow memory address function.byteLength ∨
      physicalMemoryAccessDenied registers address function.byteLength .store = true →
    ∃ after, function.execute registers memory args length = .trapped after memory ∧
      AccessFault registers 7 address after
  allowed : DevicesNonempty memory → ∀ offset, InRamWindow memory address function.byteLength offset →
    physicalMemoryAccessDenied registers address function.byteLength .store = false →
    ∃ after, function.execute registers memory args length =
        .completed { registers with programCounter := registers.programCounter + length } after ∧
      RamStored memory offset (registers.generalPurpose args.sourceRegister2) function.byteLength after

theorem LoadFunction.execute_loadEffect (function : LoadFunction) (registers : Registers) (memory : Memory)
    (args : LoadArgs) (length : Bytes8) (effective : loadEffectiveAddress registers args = address) :
    LoadEffect registers memory function args length address := by
  constructor
  case refused =>
    intro refused
    refine ⟨enterTrap registers causeLoadAccessFault address, ?_, enterTrap_accessFault registers address (by decide)⟩
    rw [function.execute_value, loadRegister, effective, denyLoad_refused refused]
  case allowed =>
    intro nonempty offset ram permitted
    have resolved := ram.resolved nonempty function.byteLength_pos
    have mapped := (mapped_window resolved).mpr ram.inside
    obtain ⟨after, completed, loaded⟩ := completeWith_loaded registers memory args.destinationRegister
      (function.value (ofBytes (fun index => loadRamOffset memory (offset + index)) function.byteLength)) length
    refine ⟨after, ?_, loaded⟩
    rw [function.execute_value, loadRegister, effective, denyLoad_allowed mapped permitted]
    simp only [loadBytes_ram resolved, Execution.ofExcept, loadBytesFromRam_bytes function.byteLength_le]
    exact completed

theorem StoreFunction.execute_storeEffect (function : StoreFunction) (registers : Registers) (memory : Memory)
    (args : StoreArgs) (length : Bytes8) (effective : storeEffectiveAddress registers args = address) :
    StoreEffect registers memory function args length address := by
  constructor
  case refused =>
    intro refused
    refine ⟨enterTrap registers causeStoreAmoAccessFault address, ?_,
      enterTrap_accessFault registers address (by decide)⟩
    rw [function.execute_eq, storeRegister, effective, denyStore_refused refused]
  case allowed =>
    intro nonempty offset ram permitted
    have resolved := ram.resolved nonempty function.byteLength_pos
    have mapped := (mapped_window resolved).mpr ram.inside
    have inside := ram.inside
    obtain ⟨after, stored, layout, bytes⟩ := storeBytes_ram resolved
      (registers.generalPurpose args.sourceRegister2) function.byteLength
    refine ⟨after, ?_, layout, fun index early slab => ?_, fun other slab apart => ?_⟩
    · rw [function.execute_eq, storeRegister, effective, denyStore_allowed mapped permitted]
      simp only [readGeneralPurposeRegister, stored, Execution.ofExcept, advanceProgramCounter, addBytes_eq]
    · rw [bytes _ slab, if_pos ⟨by omega, by omega, by omega⟩, Nat.add_sub_cancel_left]
    · rw [bytes other slab, if_neg (by omega)]

/-- Scalar accesses trap where they are refused, and otherwise move the bytes of RAM they name, at
any alignment and with any destination. -/
theorem scalar_access (registers : Registers) (memory : Memory) (length : Bytes8) :
    (∀ function args, LoadEffect registers memory function args length
      (registers.generalPurpose args.sourceRegister1 + args.immediate)) ∧
    ∀ function args, StoreEffect registers memory function args length
      (registers.generalPurpose args.sourceRegister1 + args.immediate) :=
  ⟨fun function args => function.execute_loadEffect registers memory args length (addBytes_eq _ _),
    fun function args => function.execute_storeEffect registers memory args length (addBytes_eq _ _)⟩

/-- `x1` holds the address of the last byte of RAM. -/
def edgeRegisters : Registers := writeGeneralPurposeRegister createRegisters 1 0x80000fff

theorem defaultMemory_nonempty : WindowsNonempty defaultMemory.layout.specs := by
  intro spec member base length windowed
  simp only [defaultMemory, defaultLayout, GuestRegions.specs, List.mem_cons, List.not_mem_nil, or_false] at member
  rcases member with rfl | rfl | rfl | rfl | rfl | rfl | rfl <;> cases windowed <;> decide

/-- At the last byte of RAM the load of a word is refused, and the store of a byte is taken. -/
theorem scalar_access_edge :
    (∃ after, Emulator.lw edgeRegisters defaultMemory ⟨1, 1, 0⟩ 4 = .trapped after defaultMemory ∧
      AccessFault edgeRegisters 5 0x80000fff after) ∧
    ∃ after, Emulator.sb edgeRegisters defaultMemory ⟨1, 1, 0⟩ 4 =
        .completed { edgeRegisters with programCounter := 4 } after ∧
      RamStored defaultMemory 0xfff 0x80000fff 1 after := by
  obtain ⟨loads, stores⟩ := scalar_access edgeRegisters defaultMemory 4
  have outside : ¬ InOneWindow defaultMemory 0x80000fff 4 :=
    ((createMemory_indexed defaultMemory.layout.accepted).guestAccessIsMapped_iff defaultMemory_nonempty 0x80000fff
      (by decide)).not.mp (by decide)
  have refused := (loads .lw ⟨1, 1, 0⟩).refused (.inl outside)
  have allowed := (stores .sb ⟨1, 1, 0⟩).allowed (fun spec member _ => defaultMemory_nonempty spec member) 0xfff
    ⟨by decide, by decide⟩ (by decide)
  exact ⟨refused, allowed⟩

end YaRiscV.Emulator
