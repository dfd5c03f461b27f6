import YaRiscV.Emulator.Cpu.AtomicFaults
import YaRiscV.Emulator.Cpu.IntegerSemantics
import YaRiscV.Emulator.RamCoherence

/-! The atomic memory operations against RV64A: what each leaves at its location and in `rd`,
in the width of the access, and where the code performs them. -/

namespace YaRiscV.Emulator

open YaRiscV.Library YaRiscV.Utils

/-- The closure each AMO passes to `amoReadModifyWrite`. -/
def AmoFunction.combine : AmoFunction → AmoCombine
  | .amoswap => fun _ source _ => source
  | .amoadd => signedCombine addBytes
  | .amoxor => signedCombine xorBytes
  | .amoand => signedCombine andBytes
  | .amoor => signedCombine orBytes
  | .amomin => signedCombine fun left right => if compareSignedBytes left right ≤ 0 then left else right
  | .amomax => signedCombine fun left right => if compareSignedBytes left right ≥ 0 then left else right
  | .amominu => unsignedCombine fun left right => if compareUnsignedBytes left right ≤ 0 then left else right
  | .amomaxu => unsignedCombine fun left right => if compareUnsignedBytes left right ≥ 0 then left else right

/-- What each AMO leaves at its location, in the width of the access. -/
def AmoFunction.result (old source : BitVec width) : AmoFunction → BitVec width
  | .amoswap => source
  | .amoadd => old + source
  | .amoxor => old ^^^ source
  | .amoand => old &&& source
  | .amoor => old ||| source
  | .amomin => if old.toInt ≤ source.toInt then old else source
  | .amomax => if source.toInt ≤ old.toInt then old else source
  | .amominu => if old.toNat ≤ source.toNat then old else source
  | .amomaxu => if source.toNat ≤ old.toNat then old else source

/-- The word of an access in the RAM slab. -/
def ramWord (memory : Memory) (offset : Nat) (width : AtomicWidth) : BitVec (8 * width.byteLength) :=
  ofBytes (fun index => ramByte memory (offset + index)) width.byteLength

/-- The bytes of an access are in the RAM window and in its slab. -/
structure RamLocation (memory : Memory) (address : Bytes8) (width : AtomicWidth) (offset : Nat) : Prop where
  resolved : resolveGuestAddressToRegionAndOffset memory.layout.table address = some (ramRegionId, offset)
  window : offset + width.byteLength ≤ memory.layout.ram.guestByteLength
  slab : offset + width.byteLength ≤ memory.layout.ram.hostByteLength

/-- The effect of an AMO on the location at `offset`. -/
structure AmoEffect (registers : Registers) (memory : Memory) (function : AmoFunction) (width : AtomicWidth)
    (args : AmoArgs) (length : Bytes8) (offset : Nat) (after : Registers) (stored : Memory) : Prop where
  location : ramWord stored offset width = function.result (ramWord memory offset width)
    ((registers.generalPurpose args.sourceRegister2).setWidth (8 * width.byteLength))
  others : ∀ other < memory.layout.ram.hostByteLength,
    ¬ (offset ≤ other ∧ other < offset + width.byteLength) → ramByte stored other = ramByte memory other
  destination : args.destinationRegister ≠ 0 →
    after.generalPurpose args.destinationRegister = (ramWord memory offset width).signExtend 64
  programCounter : after.programCounter = registers.programCounter + length
  oneTurn : ∀ turns, amoLoop function.combine (registers.generalPurpose args.sourceRegister1)
    (registers.generalPurpose args.sourceRegister2) width (turns + 1) ((ramWord memory offset width).signExtend 64)
    memory = ((ramWord memory offset width).signExtend 64, stored)
  otherRegisters : ∀ index, index ≠ args.destinationRegister ∨ index = 0 →
    after.generalPurpose index = registers.generalPurpose index

variable {registers : Registers} {memory : Memory} {width : AtomicWidth} {address : Bytes8} {offset : Nat}

theorem AmoFunction.execute_combine (function : AmoFunction) (args : AmoArgs) (length : Bytes8) :
    function.execute registers memory args width length =
      amoReadModifyWrite registers memory args width function.combine length := by
  cases function <;> rfl

/-! The operations in the width of the access. -/

theorem low_signExtend (value : BitVec 32) : (value.signExtend 64).setWidth 32 = value := by
  apply BitVec.eq_of_getLsbD_eq
  intro bit inside
  have wide : bit < 64 := by omega
  rw [BitVec.getLsbD_setWidth, BitVec.getLsbD_signExtend, if_pos inside, decide_eq_true inside, decide_eq_true wide]
  rfl

theorem signedCombine_word (operation : Bytes8 → Bytes8 → Bytes8) (old : BitVec 32) (source : Bytes8) :
    (signedCombine operation (old.signExtend 64) source .word).setWidth 32 =
      (operation (old.signExtend 64) ((source.setWidth 32).signExtend 64)).setWidth 32 := by
  simp only [signedCombine, asSignedOperands, narrowStoreValue, signExtendBytes_four, low32Bytes_eq, low_signExtend,
    setWidth_low32]

theorem unsignedCombine_word (operation : Bytes8 → Bytes8 → Bytes8) (old : BitVec 32) (source : Bytes8) :
    (unsignedCombine operation (old.signExtend 64) source .word).setWidth 32 =
      (operation (old.setWidth 64) ((source.setWidth 32).setWidth 64)).setWidth 32 := by
  have extended (value : Bytes8) : zeroExtendBytes value 4 = (value.setWidth 32).setWidth 64 :=
    zeroExtendBytes_eq value 4
  simp only [unsignedCombine, asUnsignedOperands, narrowStoreValue, extended, low32Bytes_eq, low_signExtend,
    setWidth_low32]

/-- A choice between extended words is a choice between the words. -/
theorem setWidth_chosen (choice : Prop) [Decidable choice] (left right : BitVec 64) :
    (if choice then left else right).setWidth 32 =
      if choice then left.setWidth 32 else right.setWidth 32 :=
  apply_ite (BitVec.setWidth 32) choice left right

theorem combine_word (function : AmoFunction) (old : BitVec 32) (source : Bytes8) :
    (function.combine (old.signExtend 64) source .word).setWidth 32 = function.result old (source.setWidth 32) := by
  have signedOld : (old.signExtend 64).toInt = old.toInt := BitVec.toInt_signExtend_of_le (by decide)
  have signedSource : ((source.setWidth 32).signExtend 64).toInt = (source.setWidth 32).toInt :=
    BitVec.toInt_signExtend_of_le (by decide)
  have unsignedOld : (old.setWidth 64).toNat = old.toNat := BitVec.toNat_setWidth_of_le (by decide)
  have unsignedSource : ((source.setWidth 32).setWidth 64).toNat = (source.setWidth 32).toNat :=
    BitVec.toNat_setWidth_of_le (by decide)
  cases function with
  | amoswap => rfl
  | amoadd =>
    rw [AmoFunction.combine, signedCombine_word, addBytes_eq, BitVec.setWidth_add _ _ (by decide), low_signExtend,
      low_signExtend]
    rfl
  | amoxor =>
    rw [AmoFunction.combine, signedCombine_word, xorBytes_eq, BitVec.setWidth_xor, low_signExtend,
      low_signExtend]
    rfl
  | amoand =>
    rw [AmoFunction.combine, signedCombine_word, andBytes_eq, BitVec.setWidth_and, low_signExtend,
      low_signExtend]
    rfl
  | amoor =>
    rw [AmoFunction.combine, signedCombine_word, orBytes_eq, BitVec.setWidth_or, low_signExtend,
      low_signExtend]
    rfl
  | amomin =>
    rw [AmoFunction.combine, signedCombine_word, setWidth_chosen, low_signExtend, low_signExtend]
    simp only [compareSignedBytes_nonpos, signedOld, signedSource]
    rfl
  | amomax =>
    rw [AmoFunction.combine, signedCombine_word, setWidth_chosen, low_signExtend, low_signExtend]
    simp only [ge_iff_le, compareSignedBytes_nonneg, signedOld, signedSource]
    rfl
  | amominu =>
    rw [AmoFunction.combine, unsignedCombine_word, setWidth_chosen, setWidth_low32, setWidth_low32]
    simp only [compareUnsignedBytes_nonpos, unsignedOld, unsignedSource]
    rfl
  | amomaxu =>
    rw [AmoFunction.combine, unsignedCombine_word, setWidth_chosen, setWidth_low32, setWidth_low32]
    simp only [ge_iff_le, compareUnsignedBytes_nonneg, unsignedOld, unsignedSource]
    rfl

theorem combine_doubleword (function : AmoFunction) (old source : Bytes8) :
    function.combine old source .doubleword = function.result old source := by
  cases function with
  | amoswap => rfl
  | amoadd => exact addBytes_eq old source
  | amoxor => exact xorBytes_eq old source
  | amoand => exact andBytes_eq old source
  | amoor => exact orBytes_eq old source
  | amomin =>
    simp only [AmoFunction.combine, signedCombine, asSignedOperands, narrowStoreValue, compareSignedBytes_nonpos]
    rfl
  | amomax =>
    simp only [AmoFunction.combine, signedCombine, asSignedOperands, narrowStoreValue, ge_iff_le,
      compareSignedBytes_nonneg]
    rfl
  | amominu =>
    simp only [AmoFunction.combine, unsignedCombine, asUnsignedOperands, narrowStoreValue, compareUnsignedBytes_nonpos]
    rfl
  | amomaxu =>
    simp only [AmoFunction.combine, unsignedCombine, asUnsignedOperands, narrowStoreValue, ge_iff_le,
      compareUnsignedBytes_nonneg]
    rfl

/-- The value an AMO stores, cut to the width. -/
theorem combine_result (function : AmoFunction) (old : BitVec (8 * width.byteLength)) (source : Bytes8) :
    (function.combine (old.signExtend 64) source width).setWidth (8 * width.byteLength) =
      function.result old (source.setWidth (8 * width.byteLength)) := by
  cases width with
  | word => exact combine_word function old source
  | doubleword =>
    have whole : old.signExtend 64 = old := BitVec.signExtend_eq old
    have cut : source.setWidth (8 * AtomicWidth.doubleword.byteLength) = source := BitVec.setWidth_eq source
    rw [whole, cut]
    exact (BitVec.setWidth_eq _).trans (combine_doubleword function old source)

/-! The location. -/

/-- Where the slab index of a location is accepted. -/
theorem RamLocation.slabIndex (location : RamLocation memory address width offset) :
    alignedRamAddressToHostIndex memory address width =
      if (memory.layout.ram.hostIndex + offset) % width.byteLength ≠ 0 then none
      else some (memory.layout.ram.hostIndex + offset) := by
  obtain ⟨same, inside⟩ := resolve_ram location.resolved
  have window := location.window
  have slab := location.slab
  have positive := width.positive
  have difference : address.toNat - memory.layout.ram.guestAddress.toNat = offset := by omega
  have mapped : ramAddressToHostIndex memory address = some (memory.layout.ram.hostIndex + offset) := by
    simp only [ramAddressToHostIndex, bytesToBigInt_eq, difference, denseGuestToHostIndex]
    rw [if_neg (by omega), if_neg (by omega), if_neg (by omega)]
  simp only [alignedRamAddressToHostIndex, mapped]
  rw [if_neg (by omega)]

theorem RamLocation.inRam (location : RamLocation memory address width offset) : inRam memory address = true := by
  rw [Emulator.inRam, location.resolved]
  exact beq_self_eq_true _

/-- An aligned location is accepted exactly when the base of RAM has its alignment. -/
theorem RamLocation.accepted_iff (location : RamLocation memory address width offset)
    (aligned : address.toNat % width.byteLength = 0) : (atomicLoadBytes memory address width).isSome = true ↔
      memory.layout.ram.guestAddress.toNat % width.byteLength = 0 := by
  obtain ⟨same, _⟩ := resolve_ram location.resolved
  have slab := BuiltFrom.slab_aligned memory
  rw [atomicLoadBytes, location.inRam, if_pos rfl, atomicRamLoad, Option.isSome_map, location.slabIndex]
  split
  · rename_i skewed
    simp only [Option.isSome_none, Bool.false_eq_true, false_iff]
    cases width <;> simp only [AtomicWidth.byteLength] at aligned skewed ⊢ <;> omega
  · rename_i even
    simp only [Option.isSome_some, true_iff]
    cases width <;> simp only [AtomicWidth.byteLength] at aligned even ⊢ <;> omega

/-- What an accepted load of a location finds. -/
theorem RamLocation.loaded (location : RamLocation memory address width offset)
    (accepted : atomicLoadBytes memory address width = some value) :
    alignedRamAddressToHostIndex memory address width = some (memory.layout.ram.hostIndex + offset) ∧
      value = (ramWord memory offset width).signExtend 64 := by
  obtain ⟨_, read⟩ := atomicLoadBytes_some accepted
  obtain ⟨hostIndex, aligned, _⟩ := Option.map_eq_some_iff.mp read
  have index := location.slabIndex
  rw [aligned] at index
  split at index
  · cases index
  · cases index
    refine ⟨aligned, ?_⟩
    rw [atomicRamLoad_word aligned] at read
    refine (Option.some.inj read).symm.trans ?_
    simp only [atomicWord, ramWord, ByteStore.word, ramByte, Nat.add_assoc]

/-- The loop ends in its first turn, however many it may take. -/
theorem amoLoop_oneTurn (accepted : atomicLoadBytes memory address width = some oldValue) (combine : AmoCombine)
    (source : Bytes8) (turns : Nat) : amoLoop combine address source width (turns + 1) oldValue memory =
      amoLoop combine address source width 1 oldValue memory := by
  obtain ⟨inside, read⟩ := atomicLoadBytes_some accepted
  obtain ⟨after, stored⟩ := atomicRamStore_some read (combine oldValue source width)
  obtain ⟨observed, exchanged⟩ := atomicRamCompareExchange_eq read (combine oldValue source width)
  simp only [amoLoop, atomicCompareExchangeBytes, inside, if_true, exchanged, stored, Option.map_some]

/-- The bytes of RAM after an atomic store. -/
theorem AtomicStore.ramByte (operation : AtomicStore memory (memory.layout.ram.hostIndex + offset) address source width
      stored) (other : Nat) (inside : other < memory.layout.ram.hostByteLength) : ramByte stored other =
    if offset ≤ other ∧ other < offset + width.byteLength then byte source (other - offset)
    else ramByte memory other := by
  have unmonitored : ¬ InMonitor memory.layout (memory.layout.ram.hostIndex + other) := by
    intro reached
    have apart := reached.apart memory.layout.ramFound (by decide)
    simp only [MappedRegion.toRegion] at apart
    omega
  rw [Emulator.ramByte, operation.confined.layout, operation.bytes _ unmonitored]
  by_cases covered : offset ≤ other ∧ other < offset + width.byteLength
  · rw [if_pos (by omega), if_pos covered, Nat.add_sub_add_left]
  · rw [if_neg (by omega), if_neg covered, Emulator.ramByte]

/-- The word after an atomic store is the stored value, cut to the width. -/
theorem AtomicStore.ramWord (operation : AtomicStore memory (memory.layout.ram.hostIndex + offset) address source width
      stored) (slab : offset + width.byteLength ≤ memory.layout.ram.hostByteLength) :
    ramWord stored offset width = source.setWidth (8 * width.byteLength) := by
  refine eq_of_byte rfl fun index inside => ?_
  rw [Emulator.ramWord, byte_ofBytes _ inside (Nat.le_refl _), operation.ramByte _ (by omega), if_pos (by omega),
    Nat.add_sub_cancel_left, byte_setWidth _ (by omega)]

/-- The old value, sign-extended once more. -/
theorem oldValue_extended (old : BitVec (8 * width.byteLength)) :
    (if width = .word then signExtendBytes (old.signExtend 64) 4 else old.signExtend 64) = old.signExtend 64 := by
  cases width with
  | word =>
    rw [if_pos rfl, signExtendBytes_four]
    exact congrArg (BitVec.signExtend 64) (low_signExtend old)
  | doubleword => rfl

/-- An AMO that is neither refused by the PMP nor by the slab has its effect. -/
theorem amo_effect (function : AmoFunction) (args : AmoArgs) (length : Bytes8)
    (location : RamLocation memory (registers.generalPurpose args.sourceRegister1) width offset)
    (aligned : (registers.generalPurpose args.sourceRegister1).toNat % width.byteLength = 0)
    (allowed : physicalMemoryAccessDenied registers (registers.generalPurpose args.sourceRegister1) width.byteLength
      .amo = false)
    (accepted : atomicLoadBytes memory (registers.generalPurpose args.sourceRegister1) width = some oldValue) :
    ∃ after stored, function.execute registers memory args width length = .completed after stored ∧
      AmoEffect registers memory function width args length offset after stored := by
  obtain ⟨index, rfl⟩ := location.loaded accepted
  obtain ⟨hostIndex, stored, loop, operation⟩ := amoLoop_atomicStore accepted function.combine
    (registers.generalPurpose args.sourceRegister2)
  obtain rfl := Option.some.inj (index.symm.trans operation.aligned)
  have natural := naturallyAligned_iff.mpr aligned
  have ran : function.execute registers memory args width length = completeWith registers stored
      args.destinationRegister ((ramWord memory offset width).signExtend 64) length := by
    simp only [AmoFunction.execute_combine, amoReadModifyWrite, readGeneralPurposeRegister,
      trapIfAtomicMisaligned_aligned natural, trapIfPmpDeniesAtomic_allowed allowed, accepted, loop, oldValue_extended]
  refine ⟨_, stored, ran, ?_⟩
  constructor
  · rw [operation.ramWord location.slab, combine_result]
  · intro other inside apart
    rw [operation.ramByte other inside, if_neg apart]
  · intro writable
    rw [writeGeneralPurposeRegister, if_neg writable]
    exact Function.update_self ..
  · simp only [advanceProgramCounter, addBytes_eq, writeGeneralPurposeRegister_programCounter]
  · intro turns
    exact (amoLoop_oneTurn accepted function.combine _ turns).trans loop
  · intro other apart
    rw [writeGeneralPurposeRegister]
    split
    · rfl
    · rename_i writable
      refine Function.update_of_ne ?_ ..
      rintro rfl
      exact apart.elim (fun different => different rfl) writable

/-- An AMO on an aligned RAM location has its RV64A effect if and only if the PMP allows it and
the base of RAM is a multiple of its width. -/
theorem amo_semantics_iff (function : AmoFunction) (args : AmoArgs) (length : Bytes8)
    (location : RamLocation memory (registers.generalPurpose args.sourceRegister1) width offset)
    (aligned : (registers.generalPurpose args.sourceRegister1).toNat % width.byteLength = 0) :
    (∃ after stored, function.execute registers memory args width length = .completed after stored ∧
        AmoEffect registers memory function width args length offset after stored) ↔
      physicalMemoryAccessDenied registers (registers.generalPurpose args.sourceRegister1) width.byteLength .amo = false ∧
        memory.layout.ram.guestAddress.toNat % width.byteLength = 0 := by
  rw [← location.accepted_iff aligned]
  constructor
  · rintro ⟨after, stored, ran, _⟩
    rw [AmoFunction.execute_combine] at ran
    simp only [amoReadModifyWrite, readGeneralPurposeRegister,
      trapIfAtomicMisaligned_aligned (naturallyAligned_iff.mpr aligned)] at ran
    cases denied : physicalMemoryAccessDenied registers (registers.generalPurpose args.sourceRegister1)
        width.byteLength .amo with
    | true =>
      rw [trapIfPmpDeniesAtomic, denied] at ran
      cases ran
    | false =>
      rw [trapIfPmpDeniesAtomic_allowed denied] at ran
      cases loaded : atomicLoadBytes memory (registers.generalPurpose args.sourceRegister1) width with
      | none =>
        rw [loaded] at ran
        cases ran
      | some oldValue => exact ⟨rfl, rfl⟩
  · rintro ⟨allowed, accepted⟩
    obtain ⟨oldValue, loaded⟩ := Option.isSome_iff_exists.mp accepted
    exact amo_effect function args length location aligned allowed loaded

/-- `amomin.w` of a location of the default machine into the register that holds its address. -/
theorem amo_semantics_iff_default :
    RamLocation defaultMemory 0x80000010 .word 0x10 ∧
      ∃ after stored, (AmoFunction.amomin.execute (writeGeneralPurposeRegister (writeGeneralPurposeRegister
          createRegisters 1 0x80000010) 2 0x1ffffffff) defaultMemory ⟨1, 1, 2⟩ .word 4 = .completed after stored) ∧
        ramWord stored 0x10 .word = 0xffffffff ∧ after.generalPurpose 1 = 0 := by
  have location : RamLocation defaultMemory 0x80000010 .word 0x10 := ⟨by decide, by decide, by decide⟩
  have aligned : ((writeGeneralPurposeRegister (writeGeneralPurposeRegister createRegisters 1 0x80000010) 2
      0x1ffffffff).generalPurpose 1).toNat % AtomicWidth.word.byteLength = 0 := by decide
  obtain ⟨after, stored, ran, effect⟩ := (amo_semantics_iff .amomin ⟨1, 1, 2⟩ 4 location aligned).mpr (by decide)
  exact ⟨location, after, stored, ran, effect.location.trans (by decide),
    (effect.destination (by decide)).trans (by decide)⟩

/-- With RAM four bytes up, `amoadd.d` on an aligned location does not complete. -/
theorem skewed_amo_refused :
    RamLocation skewedMemory 0x80000008 .doubleword 4 ∧ (0x80000008 : Bytes8).toNat % 8 = 0 ∧
      AmoFunction.amoadd.execute (writeGeneralPurposeRegister createRegisters 1 0x80000008) skewedMemory ⟨2, 1, 3⟩
          .doubleword 4 =
        .trapped (enterTrap (writeGeneralPurposeRegister createRegisters 1 0x80000008) causeStoreAmoAccessFault
          0x80000008) skewedMemory ∧
      ¬ ∃ after stored,
        AmoFunction.amoadd.execute (writeGeneralPurposeRegister createRegisters 1 0x80000008) skewedMemory ⟨2, 1, 3⟩
            .doubleword 4 = .completed after stored ∧
          AmoEffect (writeGeneralPurposeRegister createRegisters 1 0x80000008) skewedMemory .amoadd .doubleword
            ⟨2, 1, 3⟩ 4 4 after stored := by
  have trapped : AmoFunction.amoadd.execute (writeGeneralPurposeRegister createRegisters 1 0x80000008) skewedMemory
      ⟨2, 1, 3⟩ .doubleword 4 =
        .trapped (enterTrap (writeGeneralPurposeRegister createRegisters 1 0x80000008) causeStoreAmoAccessFault
          0x80000008) skewedMemory := rfl
  refine ⟨⟨by decide, by decide, by decide⟩, by decide, trapped, ?_⟩
  rintro ⟨after, stored, completed, _⟩
  rw [trapped] at completed
  cases completed

end YaRiscV.Emulator
