import YaRiscV.Library.MemoryProtection
import YaRiscV.Emulator.Cpu.PmpGrant
import YaRiscV.Emulator.Cpu.PmpLock

/-! The PMP check decides what the specification of memory protection decides. -/

namespace YaRiscV.Emulator

open YaRiscV.Library YaRiscV.Utils

/-- The A field of a config byte. -/
def addressMatching (config : BitVec 8) : AddressMatching :=
  match (config.extractLsb' 3 2).toNat with
  | 0 => .off
  | 1 => .topOfRange
  | 2 => .naturallyAlignedFour
  | _ => .naturallyAlignedPowerOfTwo

/-- The X, W and R bits of a config byte; an AMO needs R and W. -/
def permissionBits (config : BitVec 8) : PmpAccess → Bool
  | .load => config.getLsbD 0
  | .store => config.getLsbD 1
  | .amo => config.getLsbD 0 && config.getLsbD 1
  | .fetch => config.getLsbD 2

/-- The PMP registers read as the specification's entries. -/
def protectionUnit (registers : Registers) : ProtectionUnit PmpAccess where
  entry index := {
    matching := addressMatching (configByte registers index)
    address := readPmpAddress registers index
    locked := (configByte registers index).getLsbD 7
    permits := permissionBits (configByte registers index) }
  count := pmpEntryCount

/-- The mode an access is checked in: MPP under MPRV, for data only; else the privilege. -/
def EffectivelyMachine (registers : Registers) (access : PmpAccess) : Prop :=
  if access ≠ .fetch ∧ (registers.controlAndStatus Csr.mstatus).getLsbD 17 = true then
    (registers.controlAndStatus Csr.mstatus).extractLsb' 11 2 = 3
  else registers.privilegeMode = 3

variable {registers : Registers}

theorem trailingOnesUpTo_spec (limit bits : Nat) : trailingOnesUpTo limit bits ≤ limit ∧
    (∀ position < trailingOnesUpTo limit bits, bits.testBit position = true) ∧
    (trailingOnesUpTo limit bits < limit → bits.testBit (trailingOnesUpTo limit bits) = false) := by
  induction limit generalizing bits with
  | zero =>
    exact ⟨Nat.le_refl _, fun _ below => absurd below (Nat.not_lt_zero _), fun below => absurd below (Nat.lt_irrefl _)⟩
  | succ limit ih =>
    obtain ⟨bounded, ones, stopped⟩ := ih (bits >>> 1)
    have odd : bits &&& 1 = 1 ↔ bits.testBit 0 = true := by
      rw [Nat.testBit_zero, Nat.and_one_is_mod, decide_eq_true_eq]
    rw [trailingOnesUpTo]
    split
    · rename_i set
      refine ⟨Nat.succ_le_succ bounded, fun position below => ?_, fun below => ?_⟩
      · cases position with
        | zero => exact odd.mp set
        | succ position =>
          have next := ones position (Nat.lt_of_succ_lt_succ below)
          rwa [Nat.testBit_shiftRight, Nat.add_comm] at next
      · have next := stopped (Nat.lt_of_succ_lt_succ below)
        rwa [Nat.testBit_shiftRight, Nat.add_comm] at next
    · rename_i clear
      refine ⟨Nat.zero_le _, fun _ below => absurd below (Nat.not_lt_zero _), fun _ => ?_⟩
      exact Bool.eq_false_iff.mpr (odd.not.mp clear)

/-- A value below `2 ^ 64` that is not all ones has a zero among its bits. -/
theorem trailingOnes_lt (small : value < 2 ^ 64) (notAll : value ≠ 2 ^ 64 - 1) : trailingOnes value < 64 := by
  obtain ⟨bounded, ones, _⟩ := trailingOnesUpTo_spec 64 value
  by_contra full
  have all : trailingOnesUpTo 64 value = 64 := Nat.le_antisymm bounded (Nat.not_lt.mp full)
  apply notAll
  apply Nat.eq_of_testBit_eq
  intro position
  rw [Nat.testBit_two_pow_sub_one]
  by_cases inside : position < 64
  · rw [decide_eq_true inside]
    exact ones position (by rwa [all])
  · rw [decide_eq_false inside]
    exact Nat.testBit_lt_two_pow (Nat.lt_of_lt_of_le small (Nat.pow_le_pow_right (by decide) (Nat.not_lt.mp inside)))

/-- An aligned block of `4 * size` bytes is given by the quotient of its bytes. -/
private theorem alignedBlock_iff (positive : 0 < size) :
    (pattern - pattern % size) * 4 ≤ position ∧ position < (pattern - pattern % size) * 4 + size * 4 ↔
      position / 4 / size = pattern / size := by
  have start : pattern - pattern % size = pattern / size * size := by
    rw [Nat.mul_comm]
    exact Nat.sub_eq_of_eq_add (Nat.div_add_mod pattern size).symm
  rw [start, Nat.div_div_eq_div_mul, Nat.mul_comm 4 size, Nat.mul_assoc,
    Nat.div_eq_iff (Nat.mul_pos positive (by decide))]
  generalize pattern / size * (size * 4) = base
  have whole : 0 < size * 4 := Nat.mul_pos positive (by decide)
  omega

/-- The block of a NAPOT entry holds the bytes that agree with its address above the lowest zero. -/
theorem napot_block (below : trailingOnes pattern < 64) :
    andNot pattern ((1 <<< (trailingOnes pattern + 1)) - 1) <<< 2 ≤ position ∧
      position < (andNot pattern ((1 <<< (trailingOnes pattern + 1)) - 1) <<< 2) +
        (1 <<< (trailingOnes pattern + 3)) ↔
      AgreeAboveLowestZero pattern (position / 4) := by
  obtain ⟨_, ones, stopped⟩ := trailingOnesUpTo_spec 64 pattern
  have clear := stopped below
  change ∀ position < trailingOnes pattern, _ at ones
  change pattern.testBit (trailingOnes pattern) = false at clear
  have length : 2 ^ (trailingOnes pattern + 3) = 2 ^ (trailingOnes pattern + 1) * 4 := by
    rw [Nat.pow_add, Nat.pow_add, Nat.mul_assoc]
  rw [agreeAboveLowestZero_iff ones clear, Nat.one_shiftLeft, Nat.one_shiftLeft, andNot_lowMask,
    Nat.shiftLeft_eq, length]
  exact alignedBlock_iff (Nat.two_pow_pos _)

/-- No PMP address is all ones, so each has a lowest zero bit. -/
def AddressesHaveZero (registers : Registers) : Prop :=
  ∀ entry < pmpEntryCount, readPmpAddress registers entry ≠ 2 ^ 64 - 1

theorem LegalRegisters.addressesHaveZero (legal : LegalRegisters registers) : AddressesHaveZero registers := by
  intro entry inside full
  have small := legal.pmpaddr entry inside
  rw [full] at small
  exact absurd small (by decide)

theorem readPmpAddress_lt (registers : Registers) (entry : Nat) : readPmpAddress registers entry < 2 ^ 64 := by
  rw [readPmpAddress, bytesToBigInt_eq]
  exact BitVec.isLt _

/-- The A field decides which branch computes the range. -/
theorem addressMatching_eq (config : BitVec 8) : addressMatching config =
    if config &&& pmpCfgAMask = pmpCfgAOff then .off
    else if config &&& pmpCfgAMask = pmpCfgATor then .topOfRange
    else if config &&& pmpCfgAMask = pmpCfgANa4 then .naturallyAlignedFour
    else .naturallyAlignedPowerOfTwo := by
  revert config
  decide

theorem napot_of_others (config : BitVec 8) (off : config &&& pmpCfgAMask ≠ pmpCfgAOff)
    (tor : config &&& pmpCfgAMask ≠ pmpCfgATor) (na4 : config &&& pmpCfgAMask ≠ pmpCfgANa4) :
    config &&& pmpCfgAMask = pmpCfgANapot := by
  revert config
  decide

/-- What an entry matches, by its A field. -/
theorem protectionUnit_matches (entry position : Nat) : (protectionUnit registers).Matches entry position ↔
    match addressMatching (configByte registers entry) with
    | .off => False
    | .topOfRange => (if entry = 0 then 0 else readPmpAddress registers (entry - 1)) * 4 ≤ position ∧
        position < readPmpAddress registers entry * 4
    | .naturallyAlignedFour => position / 4 = readPmpAddress registers entry
    | .naturallyAlignedPowerOfTwo => AgreeAboveLowestZero (readPmpAddress registers entry) (position / 4) :=
  Iff.rfl

theorem entryRange_nonempty (found : entryRange registers entry = some range) : range.low < range.high := by
  simp only [entryRange] at found
  split at found
  · cases found
  split at found
  · generalize (if entry = 0 then 0 else readPmpAddress registers (entry - 1) <<< 2) = low at found
    split at found
    · rename_i ordered
      cases found
      exact ordered
    · cases found
  split at found
  · cases found
    exact Nat.lt_add_of_pos_right (by decide)
  split at found
  · cases found
  split at found
  · cases found
    exact Nat.two_pow_pos 64
  · cases found
    refine Nat.lt_add_of_pos_right ?_
    rw [Nat.one_shiftLeft]
    exact Nat.two_pow_pos _

/-- The range of an entry holds the bytes the entry matches. -/
theorem entryMatches_iff (notAll : readPmpAddress registers entry ≠ 2 ^ 64 - 1) :
    entryMatches registers position entry = true ↔ (protectionUnit registers).Matches entry position := by
  rw [protectionUnit_matches, addressMatching_eq, entryMatches, entryRange]
  dsimp only
  by_cases off : configByte registers entry &&& pmpCfgAMask = pmpCfgAOff
  · rw [if_pos off, if_pos off]
    simp
  rw [if_neg off, if_neg off]
  by_cases tor : configByte registers entry &&& pmpCfgAMask = pmpCfgATor
  · have low : (if entry = 0 then 0 else readPmpAddress registers (entry - 1) <<< 2) =
        (if entry = 0 then 0 else readPmpAddress registers (entry - 1)) * 4 := by
      split
      · rfl
      · exact Nat.shiftLeft_eq _ 2
    rw [if_pos tor, if_pos tor, low, Nat.shiftLeft_eq]
    dsimp only
    generalize (if entry = 0 then 0 else readPmpAddress registers (entry - 1)) = start
    split
    · rw [Option.any_some, decide_eq_true_eq]
    · rename_i empty
      refine ⟨(fun impossible => by cases impossible), fun inside => absurd ?_ empty⟩
      omega
  rw [if_neg tor, if_neg tor]
  by_cases na4 : configByte registers entry &&& pmpCfgAMask = pmpCfgANa4
  · rw [if_pos na4, if_pos na4, Option.any_some, decide_eq_true_eq, Nat.shiftLeft_eq]
    dsimp only
    omega
  rw [if_neg na4, if_neg na4, if_neg (not_not.mpr (napot_of_others _ off tor na4))]
  have below := trailingOnes_lt (readPmpAddress_lt registers entry) notAll
  rw [if_neg (Nat.not_le.mpr below), Option.any_some, decide_eq_true_eq]
  exact napot_block below

theorem permissionGranted_eq (config : BitVec 8) (access : PmpAccess) :
    permissionGranted config access = permissionBits config access := by
  have bits : (config &&& pmpCfgR != 0) = config.getLsbD 0 ∧ (config &&& pmpCfgW != 0) = config.getLsbD 1 ∧
      (config &&& pmpCfgX != 0) = config.getLsbD 2 := by
    revert config
    decide
  cases access with
  | load => exact bits.1
  | store => exact bits.2.1
  | fetch => exact bits.2.2
  | amo =>
    change ((config &&& pmpCfgR != 0) && (config &&& pmpCfgW != 0)) = _
    rw [bits.1, bits.2.1]
    rfl

theorem lock_iff (config : BitVec 8) : config &&& pmpCfgLock = 0 ↔ config.getLsbD 7 = false := by
  revert config
  decide

theorem accessIsMachine_iff (registers : Registers) (access : PmpAccess) :
    accessIsMachine registers access = true ↔ EffectivelyMachine registers access := by
  have mprv : byte (registers.controlAndStatus Csr.mstatus) 2 &&& mstatusByte2Mprv ≠ 0 ↔
      (registers.controlAndStatus Csr.mstatus).getLsbD 17 = true := by
    have bit (value : BitVec 8) : value &&& mstatusByte2Mprv ≠ 0 ↔ value.getLsbD 1 = true := by
      revert value
      decide
    rw [bit, getLsbD_byte, decide_eq_true (by decide), Bool.true_and]
  have mpp : (byte (registers.controlAndStatus Csr.mstatus) 1 &&& mstatusByte1MppMask ==
      mstatusByte1MppMachine) = true ↔ (registers.controlAndStatus Csr.mstatus).extractLsb' 11 2 = 3 := by
    have field (value : BitVec 8) : (value &&& mstatusByte1MppMask == mstatusByte1MppMachine) = true ↔
        value.extractLsb' 3 2 = 3 := by
      revert value
      decide
    rw [field, extract_byte _ 1 3 2 (by decide)]
  have machine : (compareUnsignedBytes registers.privilegeMode privilegeMachine == 0) = true ↔
      registers.privilegeMode = 3 := by
    rw [beq_iff_eq, compareUnsignedBytes_eq_zero]
    rfl
  rw [accessIsMachine, EffectivelyMachine]
  by_cases borrowed : access ≠ .fetch ∧ byte (registers.controlAndStatus Csr.mstatus) 2 &&& mstatusByte2Mprv ≠ 0
  · rw [if_pos borrowed, if_pos ⟨borrowed.1, mprv.mp borrowed.2⟩]
    exact mpp
  · rw [if_neg borrowed, if_neg fun both => borrowed ⟨both.1, mprv.mpr both.2⟩]
    exact machine

/-- An entry answers for an access exactly when it matches one of its bytes. -/
theorem entryDenies_isSome_iff (zeros : AddressesHaveZero registers) (inside : entry < pmpEntryCount)
    (bytes : 0 < byteLength) (machine : Bool) (access : PmpAccess) :
    (entryDenies registers start (start + byteLength) machine access entry).isSome = true ↔
      (protectionUnit registers).Touches start byteLength entry := by
  constructor
  · intro answers
    cases found : entryRange registers entry with
    | none =>
      rw [entryDenies, found] at answers
      cases answers
    | some range =>
      have nonempty := entryRange_nonempty found
      rw [entryDenies, found] at answers
      dsimp only at answers
      split at answers
      · cases answers
      · refine ⟨max start range.low - start, by omega, ?_⟩
        rw [← entryMatches_iff (zeros entry inside), entryMatches, found, Option.any_some, decide_eq_true_eq]
        omega
  · rintro ⟨offset, below, matched⟩
    exact entryDenies_isSome ((entryMatches_iff (zeros entry inside)).mpr matched) (Nat.le_add_right _ _)
      (Nat.add_lt_add_left below _)

/-- The answer of an entry that matches a byte: it must match them all, and grant the access. -/
theorem entryDenies_true_iff (zeros : AddressesHaveZero registers) (inside : entry < pmpEntryCount)
    (answered : entryDenies registers start (start + byteLength) machine access entry = some denied) :
    denied = true ↔ (∃ offset < byteLength, ¬ (protectionUnit registers).Matches entry (start + offset)) ∨
      ((¬ machine = true ∨ ((protectionUnit registers).entry entry).locked = true) ∧
        ((protectionUnit registers).entry entry).permits access = false) := by
  cases found : entryRange registers entry with
  | none =>
    rw [entryDenies, found] at answered
    cases answered
  | some range =>
    have matched (offset : Nat) : (protectionUnit registers).Matches entry (start + offset) ↔
        range.low ≤ start + offset ∧ start + offset < range.high := by
      rw [← entryMatches_iff (zeros entry inside), entryMatches, found, Option.any_some, decide_eq_true_eq]
    simp only [matched]
    rw [entryDenies, found] at answered
    dsimp only at answered
    split at answered
    · cases answered
    rename_i overlap
    split at answered
    · rename_i outside
      cases answered
      simp only [true_iff]
      left
      rcases outside with before | after
      · exact ⟨0, by omega, by omega⟩
      · exact ⟨byteLength - 1, by omega, by omega⟩
    · rename_i covered
      have all : ¬ ∃ offset < byteLength, ¬ (range.low ≤ start + offset ∧ start + offset < range.high) := by
        rintro ⟨offset, below, outside⟩
        omega
      simp only [all, false_or]
      change denied = true ↔ (¬ machine = true ∨ (configByte registers entry).getLsbD 7 = true) ∧
        permissionBits (configByte registers entry) access = false
      split at answered
      · rename_i passes
        cases answered
        have unlocked := (lock_iff _).mp passes.2
        rw [passes.1, unlocked]
        simp
      · rename_i held
        cases answered
        rw [lock_iff, Decidable.not_and_iff_not_or_not, Bool.not_eq_false] at held
        rw [permissionGranted_eq, Bool.not_eq_true']
        exact ⟨fun lacking => ⟨held, lacking⟩, fun both => both.2⟩

/-- The check is the specification's: the lowest entry that matches a byte of the access
must match all of them and grant it, to M-mode only where it is locked. -/
theorem physicalMemoryAccessDenied_iff (zeros : AddressesHaveZero registers) (address : Bytes8)
    (bytes : 0 < byteLength) (access : PmpAccess) :
    physicalMemoryAccessDenied registers address byteLength access = true ↔
      (protectionUnit registers).Denied (EffectivelyMachine registers access) address.toNat byteLength access := by
  rw [← accessIsMachine_iff]
  unfold physicalMemoryAccessDenied
  rw [bytesToBigInt_eq]
  dsimp only
  cases decided : (List.range pmpEntryCount).findSome?
      (entryDenies registers address.toNat (address.toNat + byteLength) (accessIsMachine registers access) access) with
  | none =>
    have silent := List.findSome?_eq_none_iff.mp decided
    have untouched : ∀ index < (protectionUnit registers).count,
        ¬ (protectionUnit registers).Touches address.toNat byteLength index := by
      intro index inside touched
      have answers := (entryDenies_isSome_iff zeros inside bytes (accessIsMachine registers access) access).mpr touched
      rw [silent index (List.mem_range.mpr inside)] at answers
      cases answers
    rw [ProtectionUnit.denied_of_untouched untouched]
    simp
  | some denied =>
    obtain ⟨index, first, answered⟩ := findSome?_first decided
    obtain ⟨answers, member, before⟩ := List.find?_range_eq_some.mp first
    have inside := List.mem_range.mp member
    have lowest : (protectionUnit registers).IsLowest address.toNat byteLength index := by
      refine ⟨inside, (entryDenies_isSome_iff zeros inside bytes _ access).mp answers, fun other below touched => ?_⟩
      have silent := before other below
      rw [(entryDenies_isSome_iff zeros (below.trans inside) bytes _ access).mpr touched] at silent
      cases silent
    rw [ProtectionUnit.denied_of_lowest lowest, Option.getD_some]
    exact entryDenies_true_iff zeros inside answered

/-- A store by M-mode that runs over the end of a locked region. -/
theorem physicalMemoryAccessDenied_iff_straddling :
    physicalMemoryAccessDenied lockedTorRegisters 0x3ffe 4 .store = true ∧
      (protectionUnit lockedTorRegisters).Denied (EffectivelyMachine lockedTorRegisters .store)
        (0x3ffe : Bytes8).toNat 4 .store := by
  have denied : physicalMemoryAccessDenied lockedTorRegisters 0x3ffe 4 .store = true := by decide
  have legal : LegalRegisters lockedTorRegisters :=
    ((RegisterInvariant.created.write _ _).write _ _).legal
  exact ⟨denied, (physicalMemoryAccessDenied_iff legal.addressesHaveZero 0x3ffe (by decide) .store).mp denied⟩

end YaRiscV.Emulator
