import YaRiscV.Emulator.Machine
import YaRiscV.Emulator.Resolution
import YaRiscV.Emulator.MonitorOperations
import YaRiscV.Emulator.Cpu.TrapPrecision

/-! When an atomic instruction on RAM faults: outside the window, and inside it wherever the
slab's alignment is not the guest's. -/

namespace YaRiscV.Emulator

open YaRiscV.Library YaRiscV.Utils

/-- An atomic instruction's access: its operands, its width, the PMP's view of it and the cause
of its faults. -/
structure AtomicAccessOf where
  args : AmoArgs
  width : AtomicWidth
  access : PmpAccess
  cause : Nat

/-- LR faults as a load, SC and AMO fault as a store. -/
def atomicAccessOf : ExecuteThunk → Option AtomicAccessOf
  | .lr width args => some ⟨args, width, .load, causeLoadAccessFault⟩
  | .sc width args => some ⟨args, width, .store, causeStoreAmoAccessFault⟩
  | .amo _ width args => some ⟨args, width, .amo, causeStoreAmoAccessFault⟩
  | _ => none

/-- The address of an atomic instruction. -/
def AtomicAccessOf.address (atomic : AtomicAccessOf) (registers : Registers) : Bytes8 :=
  readGeneralPurposeRegister registers atomic.args.sourceRegister1

variable {memory : Memory} {registers : Registers} {width : AtomicWidth} {address : Bytes8} {options : CliOptions}

/-- The buffer of a machine whose windows the command line placed. -/
def BuiltFrom (memory : Memory) (options : CliOptions) : Prop :=
  memory.layout.specs = (guestRegions options).specs

/-- Every byte of the access lies in the RAM window. -/
def InsideRam (options : CliOptions) (address : Bytes8) (width : AtomicWidth) : Prop :=
  ∀ i < width.byteLength, options.ramBase.toNat ≤ address.toNat + i ∧
    address.toNat + i < options.ramBase.toNat + options.ramSize

def ramSpec (options : CliOptions) : RegionSpec :=
  ⟨ramRegionId, options.ramSize, some (options.ramBase, options.ramSize)⟩

theorem BuiltFrom.ram (built : BuiltFrom memory options) : memory.layout.ram.guestAddress = options.ramBase ∧
    memory.layout.ram.guestByteLength = options.ramSize ∧ memory.layout.ram.hostByteLength = options.ramSize := by
  have indexed := createMemory_indexed memory.layout.accepted
  have member : ramSpec options ∈ memory.layout.specs := by
    rw [built]
    exact List.mem_cons_self
  obtain ⟨region, found, windowed, length⟩ := indexed.window _ member
  obtain rfl := Option.some.inj (found.symm.trans memory.layout.ramFound)
  obtain ⟨base, size⟩ := GuestWindow.mk.inj (Option.some.inj windowed)
  exact ⟨base, size.trans (Int.toNat_natCast _), length.trans (Int.toNat_natCast _)⟩

theorem BuiltFrom.nonempty (built : BuiltFrom memory options) (some_ram : 0 < options.ramSize) :
    WindowsNonempty memory.layout.specs := by
  intro spec member base length windowed
  rw [built] at member
  simp only [GuestRegions.specs, guestRegions, List.mem_cons, List.not_mem_nil, or_false] at member
  rcases member with rfl | rfl | rfl | rfl | rfl | rfl | rfl <;> cases windowed
  · exact Int.natCast_pos.mpr some_ram
  all_goals decide

theorem BuiltFrom.slab_aligned (memory : Memory) : memory.layout.ram.hostIndex % 8 = 0 :=
  (createMemory_packed memory.layout.accepted).aligned _ (lookup_mem memory.layout.ramFound)

theorem naturallyAligned_iff : isNaturallyAligned address width = true ↔ address.toNat % width.byteLength = 0 := by
  rw [isNaturallyAligned, bytesToBigInt_eq, beq_iff_eq]
  cases width with
  | word => exact Nat.and_two_pow_sub_one_eq_mod address.toNat 2 ▸ Iff.rfl
  | doubleword => exact Nat.and_two_pow_sub_one_eq_mod address.toNat 3 ▸ Iff.rfl

/-- An address of the window resolves to RAM. -/
theorem BuiltFrom.inRam (built : BuiltFrom memory options) (low : options.ramBase.toNat ≤ address.toNat)
    (high : address.toNat < options.ramBase.toNat + options.ramSize) : inRam memory address = true := by
  have indexed := createMemory_indexed memory.layout.accepted
  have member : ramSpec options ∈ memory.layout.specs := by
    rw [built]
    exact List.mem_cons_self
  obtain ⟨base, length, _, resolved⟩ := indexed.resolve_contained (built.nonempty (by omega)) member
    ⟨options.ramBase, options.ramSize, rfl, low, by omega⟩
  rw [Emulator.inRam, resolved]
  exact beq_self_eq_true _

/-- The slab index of an access is found exactly inside the window, if the slab's alignment is
the guest's. -/
theorem alignedRam_isSome (built : BuiltFrom memory options) (aligned : isNaturallyAligned address width = true) :
    (alignedRamAddressToHostIndex memory address width).isSome = true ↔
      InsideRam options address width ∧ options.ramBase.toNat % width.byteLength = 0 := by
  obtain ⟨base, size, length⟩ := built.ram
  have slab := BuiltFrom.slab_aligned memory
  have natural := naturallyAligned_iff.mp aligned
  have positive := width.positive
  have multiple : ∀ value, (memory.layout.ram.hostIndex + value) % width.byteLength = value % width.byteLength := by
    intro value
    cases width <;> simp only [AtomicWidth.byteLength] <;> omega
  have difference (low : options.ramBase.toNat ≤ address.toNat) :
      (address.toNat - options.ramBase.toNat) % width.byteLength = 0 ↔
        options.ramBase.toNat % width.byteLength = 0 := by
    cases width <;> simp only [AtomicWidth.byteLength] at natural ⊢ <;> omega
  rw [alignedRamAddressToHostIndex, ramAddressToHostIndex]
  simp only [bytesToBigInt_eq, base, size, denseGuestToHostIndex, length]
  by_cases window : address.toNat < options.ramBase.toNat ∨ address.toNat ≥ options.ramBase.toNat + options.ramSize
  · rw [if_pos window]
    simp only [Option.isSome_none, Bool.false_eq_true, false_iff, not_and]
    intro inside
    have first := inside 0 positive
    omega
  · rw [if_neg window, if_neg (by omega), if_neg (by omega)]
    dsimp only
    rw [multiple]
    split
    · rename_i beyond
      simp only [Option.isSome_none, Bool.false_eq_true, false_iff, not_and]
      intro inside
      have last := inside (width.byteLength - 1) (Nat.sub_lt positive Nat.one_pos)
      omega
    split
    · rename_i _ skewed
      simp only [Option.isSome_none, Bool.false_eq_true, false_iff, not_and]
      intro _ based
      exact skewed ((difference (by omega)).mpr based)
    · rename_i fits even
      simp only [Option.isSome_some, true_iff]
      exact ⟨fun i early => ⟨by omega, by omega⟩, (difference (by omega)).mp (Decidable.not_not.mp even)⟩

theorem atomicLoadBytes_isSome (built : BuiltFrom memory options) (aligned : isNaturallyAligned address width = true) :
    (atomicLoadBytes memory address width).isSome = true ↔
      InsideRam options address width ∧ options.ramBase.toNat % width.byteLength = 0 := by
  rw [← alignedRam_isSome built aligned, atomicLoadBytes]
  split
  · rw [atomicRamLoad, Option.isSome_map]
  · rename_i elsewhere
    simp only [Option.isSome_none, Bool.false_eq_true, false_iff]
    intro found
    have inside := ((alignedRam_isSome built aligned).mp found).1 0 width.positive
    exact elsewhere (built.inRam (by omega) (by omega))

/-- A fault leaves no trace but the word of a lock it waited for. -/
structure FaultUnchanged (before after : Memory) : Prop where
  lockWord : LockWordOnly before after
  idle : monitorLock.Idle before → after = before

theorem FaultUnchanged.refl (memory : Memory) : FaultUnchanged memory memory :=
  ⟨.refl memory, fun _ => rfl⟩

/-- What an allowed, aligned atomic instruction does once its load is refused or not. -/
inductive AtomicOutcome (registers : Registers) (memory : Memory) (atomic : AtomicAccessOf) :
    Bool → Execution → Prop
  | completed (after : Registers) (stored : Memory) : AtomicOutcome registers memory atomic true (.completed after stored)
  | faulted (unchanged : FaultUnchanged memory left) : AtomicOutcome registers memory atomic false
      (.trapped (enterTrap registers atomic.cause (readGeneralPurposeRegister registers atomic.args.sourceRegister1))
        left)

theorem atomicLoadBytes_isSome_layout {other : Memory} (layout : other.layout = memory.layout) :
    (atomicLoadBytes other address width).isSome = (atomicLoadBytes memory address width).isSome := by
  have found : alignedRamAddressToHostIndex other address width = alignedRamAddressToHostIndex memory address width :=
    alignedRamAddressToHostIndex_congr layout
  rw [atomicLoadBytes, atomicLoadBytes, inRam, inRam, layout, atomicRamLoad, atomicRamLoad, found]
  split <;> split <;> simp only [Option.isSome_map, Option.isSome_none]

theorem trapIfAtomicMisaligned_aligned (aligned : isNaturallyAligned address width = true) (access : AtomicAccess) :
    trapIfAtomicMisaligned registers address width access = none :=
  if_pos aligned

theorem trapIfPmpDeniesAtomic_allowed {access : PmpAccess} {byteLength : Nat}
    (allowed : physicalMemoryAccessDenied registers address byteLength access = false) :
    trapIfPmpDeniesAtomic registers address byteLength access = none :=
  if_pos (by rw [allowed]; rfl)

theorem loadReserved_outcome {extend : Bytes8 → Bytes8} {args : AmoArgs} {length : Bytes8}
    (aligned : isNaturallyAligned (readGeneralPurposeRegister registers args.sourceRegister1) width = true)
    (allowed : physicalMemoryAccessDenied registers (readGeneralPurposeRegister registers args.sourceRegister1)
      width.byteLength .load = false) :
    AtomicOutcome registers memory ⟨args, width, .load, causeLoadAccessFault⟩
      (atomicLoadBytes memory (readGeneralPurposeRegister registers args.sourceRegister1) width).isSome
      (loadReserved registers memory width extend args length) := by
  have layout : (acquireMonitorLock memory).layout = memory.layout := SpinLock.acquire_layout
  rw [← atomicLoadBytes_isSome_layout layout]
  simp only [loadReserved, trapIfAtomicMisaligned_aligned aligned, trapIfPmpDeniesAtomic_allowed allowed, loadAndReserve,
    withMonitorLock, SpinLock.hold]
  change AtomicOutcome _ _ _ (atomicLoadBytes (monitorLock.acquire memory) _ width).isSome _
  cases atomicLoadBytes (monitorLock.acquire memory) (readGeneralPurposeRegister registers args.sourceRegister1)
      width with
  | none => exact .faulted ⟨.release_acquire memory, SpinLock.release_acquire_self⟩
  | some oldValue => exact .completed _ _

theorem storeConditional_outcome {args : AmoArgs} {length : Bytes8}
    (aligned : isNaturallyAligned (readGeneralPurposeRegister registers args.sourceRegister1) width = true)
    (allowed : physicalMemoryAccessDenied registers (readGeneralPurposeRegister registers args.sourceRegister1)
      width.byteLength .store = false) :
    AtomicOutcome registers memory ⟨args, width, .store, causeStoreAmoAccessFault⟩
      (atomicLoadBytes memory (readGeneralPurposeRegister registers args.sourceRegister1) width).isSome
      (storeConditional registers memory width args length) := by
  simp only [storeConditional, trapIfAtomicMisaligned_aligned aligned, trapIfPmpDeniesAtomic_allowed allowed]
  cases atomicLoadBytes memory (readGeneralPurposeRegister registers args.sourceRegister1) width with
  | none => exact .faulted (.refl memory)
  | some probe => exact .completed _ _

theorem amoReadModifyWrite_outcome {args : AmoArgs} {combine : AmoCombine} {length : Bytes8}
    (aligned : isNaturallyAligned (readGeneralPurposeRegister registers args.sourceRegister1) width = true)
    (allowed : physicalMemoryAccessDenied registers (readGeneralPurposeRegister registers args.sourceRegister1)
      width.byteLength .amo = false) :
    AtomicOutcome registers memory ⟨args, width, .amo, causeStoreAmoAccessFault⟩
      (atomicLoadBytes memory (readGeneralPurposeRegister registers args.sourceRegister1) width).isSome
      (amoReadModifyWrite registers memory args width combine length) := by
  simp only [amoReadModifyWrite, trapIfAtomicMisaligned_aligned aligned, trapIfPmpDeniesAtomic_allowed allowed]
  cases atomicLoadBytes memory (readGeneralPurposeRegister registers args.sourceRegister1) width with
  | none => exact .faulted (.refl memory)
  | some oldValue => exact .completed _ _

theorem atomic_outcome {thunk : ExecuteThunk} {atomic : AtomicAccessOf} (known : atomicAccessOf thunk = some atomic)
    (length : Bytes8) (aligned : isNaturallyAligned (atomic.address registers) atomic.width = true)
    (allowed : physicalMemoryAccessDenied registers (atomic.address registers) atomic.width.byteLength
      atomic.access = false) :
    AtomicOutcome registers memory atomic (atomicLoadBytes memory (atomic.address registers) atomic.width).isSome
      (thunk.execute registers memory length) := by
  cases thunk with
  | lr width args =>
    obtain rfl := Option.some.inj known
    obtain ⟨extend, same⟩ := executeLr_eq width
    simp only [ExecuteThunk.execute, same]
    exact loadReserved_outcome aligned allowed
  | sc width args =>
    obtain rfl := Option.some.inj known
    simp only [ExecuteThunk.execute, executeSc_eq]
    exact storeConditional_outcome aligned allowed
  | amo function width args =>
    obtain rfl := Option.some.inj known
    obtain ⟨combine, same⟩ := function.execute_eq
    simp only [ExecuteThunk.execute, same]
    exact amoReadModifyWrite_outcome aligned allowed
  | _ => cases known

/-- What an allowed, aligned atomic instruction should do: complete exactly inside RAM, else trap
and change nothing. -/
structure AtomicFaultLaw (options : CliOptions) (registers : Registers) (memory : Memory) (thunk : ExecuteThunk)
    (length : Bytes8) (atomic : AtomicAccessOf) : Prop where
  completes : (∃ after stored, thunk.execute registers memory length = .completed after stored) ↔
    InsideRam options (atomic.address registers) atomic.width
  faults : ¬ InsideRam options (atomic.address registers) atomic.width → ∃ left,
    thunk.execute registers memory length = .trapped (enterTrap registers atomic.cause (atomic.address registers))
      left ∧ FaultUnchanged memory left

/-- An atomic instruction faults exactly where it should if and only if its access leaves the
window or the RAM base is a multiple of its width. -/
theorem atomic_fault_law_iff {thunk : ExecuteThunk} {atomic : AtomicAccessOf} (built : BuiltFrom memory options)
    (known : atomicAccessOf thunk = some atomic) (length : Bytes8)
    (aligned : (atomic.address registers).toNat % atomic.width.byteLength = 0)
    (allowed : physicalMemoryAccessDenied registers (atomic.address registers) atomic.width.byteLength
      atomic.access = false) :
    AtomicFaultLaw options registers memory thunk length atomic ↔
      (InsideRam options (atomic.address registers) atomic.width →
        options.ramBase.toNat % atomic.width.byteLength = 0) := by
  have natural := naturallyAligned_iff.mpr aligned
  have loads := atomicLoadBytes_isSome built natural
  have outcome : AtomicOutcome registers memory atomic _ (thunk.execute registers memory length) :=
    atomic_outcome known length natural allowed
  generalize (atomicLoadBytes memory (atomic.address registers) atomic.width).isSome = loaded at loads outcome
  generalize executed : thunk.execute registers memory length = execution at outcome
  cases outcome with
  | completed after stored =>
    obtain ⟨inside, based⟩ := loads.mp rfl
    refine ⟨fun _ _ => based, fun _ => ⟨?_, fun outside => absurd inside outside⟩⟩
    exact ⟨fun _ => inside, fun _ => ⟨after, stored, executed⟩⟩
  | @faulted left unchanged =>
    have refused : ¬ (InsideRam options (atomic.address registers) atomic.width ∧
        options.ramBase.toNat % atomic.width.byteLength = 0) := fun both => absurd (loads.mpr both) Bool.false_ne_true
    constructor
    · intro law inside
      obtain ⟨after, stored, completed⟩ := law.completes.mpr inside
      rw [executed] at completed
      cases completed
    · intro based
      have outside : ¬ InsideRam options (atomic.address registers) atomic.width :=
        fun inside => refused ⟨inside, based inside⟩
      refine ⟨⟨?_, fun inside => absurd inside outside⟩, fun _ => ⟨left, executed, unchanged⟩⟩
      rintro ⟨after, stored, completed⟩
      rw [executed] at completed
      cases completed

/-- The default windows, with RAM at `ramBase`. -/
def optionsWithRamAt (ramBase : Bytes8) : CliOptions :=
  ⟨4096, ramBase, 0x10000000, 0x02000000, 0x0c000000, 0x00100000⟩

/-- `lr.w` at the default RAM base. -/
theorem atomic_fault_law_iff_default :
    AtomicFaultLaw (optionsWithRamAt 0x80000000) (writeGeneralPurposeRegister createRegisters 1 0x80000000)
        defaultMemory (.lr .word ⟨2, 1, 0⟩) 4 ⟨⟨2, 1, 0⟩, .word, .load, causeLoadAccessFault⟩ ↔
      (InsideRam (optionsWithRamAt 0x80000000) 0x80000000 .word →
        (optionsWithRamAt 0x80000000).ramBase.toNat % AtomicWidth.word.byteLength = 0) := by
  have built : BuiltFrom defaultMemory (optionsWithRamAt 0x80000000) := rfl
  exact atomic_fault_law_iff built rfl 4 (by decide) (by decide)

/-- The default machine with its RAM four bytes up. -/
def skewedLayout : Layout where
  specs := (guestRegions (optionsWithRamAt 0x80000004)).specs
  table := {
    regions := [
      (ramRegionId, ⟨0, 4096, some ⟨0x80000004, 4096⟩⟩),
      (uartRegionId, ⟨4096, 48, some ⟨0x10000000, 8⟩⟩),
      (clintRegionId, ⟨4144, 48, some ⟨0x02000000, 0xc000⟩⟩),
      (plicRegionId, ⟨4192, 168, some ⟨0x0c000000, 0x201008⟩⟩),
      (sysconRegionId, ⟨4360, 12, some ⟨0x00100000, 8⟩⟩),
      (reservationRegionId, ⟨4376, 136, none⟩),
      (irqLevelRegionId, ⟨4512, 4, none⟩)]
    regionsByBaseGuestAddress := [(0x00100000, sysconRegionId), (0x02000000, clintRegionId),
      (0x0c000000, plicRegionId), (0x10000000, uartRegionId), (0x80000004, ramRegionId)]
    byteLength := 4516 }
  accepted := by decide
  ram := ⟨0, 4096, 0x80000004, 4096⟩
  uart := ⟨4096, 48, 0x10000000, 8⟩
  clint := ⟨4144, 48, 0x02000000, 0xc000⟩
  plic := ⟨4192, 168, 0x0c000000, 0x201008⟩
  syscon := ⟨4360, 12, 0x00100000, 8⟩
  reservation := 4376
  irqLevel := 4512
  ramFound := rfl
  uartFound := rfl
  clintFound := rfl
  plicFound := rfl
  sysconFound := rfl
  reservationFound := rfl
  irqLevelFound := rfl
  uartLength := defaultLayout.uartLength
  clintLength := defaultLayout.clintLength
  plicLength := defaultLayout.plicLength
  sysconLength := defaultLayout.sysconLength

def skewedMemory : Memory := { defaultMemory with layout := skewedLayout }

/-- `amoadd.d` on the aligned address 0x80000008, well inside that RAM, faults with cause 7. -/
theorem skewed_ram_faults :
    BuiltFrom skewedMemory (optionsWithRamAt 0x80000004) ∧
      InsideRam (optionsWithRamAt 0x80000004) 0x80000008 .doubleword ∧
      (ExecuteThunk.amo .amoadd .doubleword ⟨2, 1, 3⟩).execute
          (writeGeneralPurposeRegister createRegisters 1 0x80000008) skewedMemory 4 =
        .trapped (enterTrap (writeGeneralPurposeRegister createRegisters 1 0x80000008) causeStoreAmoAccessFault
          0x80000008) skewedMemory ∧
      ¬ AtomicFaultLaw (optionsWithRamAt 0x80000004) (writeGeneralPurposeRegister createRegisters 1 0x80000008)
        skewedMemory (.amo .amoadd .doubleword ⟨2, 1, 3⟩) 4
        ⟨⟨2, 1, 3⟩, .doubleword, .amo, causeStoreAmoAccessFault⟩ := by
  have inside : InsideRam (optionsWithRamAt 0x80000004) 0x80000008 .doubleword := by
    rw [InsideRam]
    decide
  have trapped : (ExecuteThunk.amo .amoadd .doubleword ⟨2, 1, 3⟩).execute
      (writeGeneralPurposeRegister createRegisters 1 0x80000008) skewedMemory 4 =
        .trapped (enterTrap (writeGeneralPurposeRegister createRegisters 1 0x80000008) causeStoreAmoAccessFault
          0x80000008) skewedMemory := rfl
  refine ⟨rfl, inside, trapped, fun law => ?_⟩
  obtain ⟨after, stored, completed⟩ := law.completes.mpr inside
  rw [trapped] at completed
  cases completed

end YaRiscV.Emulator
