import YaRiscV.Emulator.Cpu.InterruptOrder

/-! The bits of `mstatus`, one at a time: what making it legal, a trap and a return do to each. -/

namespace YaRiscV.Emulator

open YaRiscV.Library YaRiscV.Utils

def sieBit : Nat := 1
def mieBit : Nat := 3
def spieBit : Nat := 5
def mpieBit : Nat := 7
def sppBit : Nat := 8
def mprvBit : Nat := 17

/-- MPP as the two bits it is stored in. -/
def mppBits (mstatus : Bytes8) : BitVec 8 := byte mstatus 1 &&& mstatusByte1MppMask

variable {registers : Registers} {mstatus : Bytes8} {bit : Nat}

theorem getLsbD_eq_byte (word : Bytes8) (bit : Nat) :
    word.getLsbD bit = (byte word (bit / 8)).getLsbD (bit % 8) := by
  have small : bit % 8 < 8 := Nat.mod_lt bit (by decide)
  have position : 8 * (bit / 8) + bit % 8 = bit := Nat.div_add_mod bit 8
  rw [getLsbD_byte, position, decide_eq_true small, Bool.true_and]

/-- A legal word is left as it is. -/
theorem legalizeMstatus_of_legal (legal : LegalMstatus mstatus) : legalizeMstatus mstatus = mstatus := by
  have words : 64 = 8 * 8 := rfl
  have hardwired (value : BitVec 8) : value &&& mstatusByte4UxlSxlMask = mstatusByte4UxlSxl64 →
      (value &&& ~~~mstatusByte4UxlSxlMask) ||| mstatusByte4UxlSxl64 = value := by
    revert value
    decide
  refine eq_of_byte words fun index inside => ?_
  rw [legalizeMstatus, if_neg legal.1, byte_setByte _ _ (by decide)]
  split
  · rename_i same
    rw [same, hardwired _ legal.2]
  · rfl

theorem byte_legalizeMstatus_mpp (mstatus : Bytes8) : byte (legalizeMstatus mstatus) 1 =
    if mppBits mstatus = mstatusByte1MppReserved then byte mstatus 1 &&& ~~~mstatusByte1MppMask
    else byte mstatus 1 := by
  have cleared (value : BitVec 8) : value ||| mstatusByte1MppUser = value := by
    revert value
    decide
  by_cases reserved : mppBits mstatus = mstatusByte1MppReserved
  · have held : byte mstatus 1 &&& mstatusByte1MppMask = mstatusByte1MppReserved := reserved
    rw [if_pos reserved, legalizeMstatus, if_pos held, byte_setByte _ _ (by decide), if_neg (by decide),
      byte_setByte _ _ (by decide), if_pos rfl, cleared]
  · have other : ¬ byte mstatus 1 &&& mstatusByte1MppMask = mstatusByte1MppReserved := reserved
    rw [if_neg reserved, legalizeMstatus, if_neg other, byte_setByte _ _ (by decide), if_neg (by decide)]

theorem byte_legalizeMstatus_xl (mstatus : Bytes8) : byte (legalizeMstatus mstatus) 4 =
    (byte mstatus 4 &&& ~~~mstatusByte4UxlSxlMask) ||| mstatusByte4UxlSxl64 := by
  have kept : byte (if byte mstatus 1 &&& mstatusByte1MppMask = mstatusByte1MppReserved then
      setByte mstatus 1 ((byte mstatus 1 &&& ~~~mstatusByte1MppMask) ||| mstatusByte1MppUser) else mstatus) 4 =
        byte mstatus 4 := by
    split
    · rw [byte_setByte _ _ (by decide), if_neg (by decide)]
    · rfl
  rw [legalizeMstatus, kept, byte_setByte _ _ (by decide), if_pos rfl]

/-- Only MPP, UXL and SXL can change. -/
theorem getLsbD_legalizeMstatus (mstatus : Bytes8) (bit : Nat)
    (mpp : bit ≠ 11 ∧ bit ≠ 12) (xl : bit / 4 ≠ 8) :
    (legalizeMstatus mstatus).getLsbD bit = mstatus.getLsbD bit := by
  have outsideMpp (value : BitVec 8) : ∀ position < 8, position ≠ 3 → position ≠ 4 →
      (value &&& ~~~mstatusByte1MppMask).getLsbD position = value.getLsbD position := by
    revert value
    decide
  have outsideXl (value : BitVec 8) : ∀ position < 8, ¬ position < 4 →
      ((value &&& ~~~mstatusByte4UxlSxlMask) ||| mstatusByte4UxlSxl64).getLsbD position = value.getLsbD position := by
    revert value
    decide
  have small : bit % 8 < 8 := Nat.mod_lt bit (by decide)
  rw [getLsbD_eq_byte, getLsbD_eq_byte mstatus]
  by_cases second : bit / 8 = 1
  · rw [second, byte_legalizeMstatus_mpp]
    split
    · exact outsideMpp _ _ small (by omega) (by omega)
    · rfl
  by_cases fifth : bit / 8 = 4
  · rw [fifth, byte_legalizeMstatus_xl]
    exact outsideXl _ _ small (by omega)
  · rw [byte_legalizeMstatus _ _ ⟨second, fifth⟩]

/-- With a legal MPP only UXL and SXL can change. -/
theorem getLsbD_legalizeMstatus_mpp (legal : mppBits mstatus ≠ mstatusByte1MppReserved) (xl : bit / 4 ≠ 8) :
    (legalizeMstatus mstatus).getLsbD bit = mstatus.getLsbD bit := by
  by_cases second : bit / 8 = 1
  · rw [getLsbD_eq_byte, getLsbD_eq_byte mstatus, second, byte_legalizeMstatus_mpp, if_neg legal]
  · exact getLsbD_legalizeMstatus mstatus bit (by omega) xl

theorem mppBits_legalizeMstatus (legal : mppBits mstatus ≠ mstatusByte1MppReserved) :
    mppBits (legalizeMstatus mstatus) = mppBits mstatus := by
  rw [mppBits, byte_legalizeMstatus_mpp, if_neg legal, mppBits]

/-! What a trap and a return write to the slot. -/

def machineEntryMstatus (mode mstatus : Bytes8) : Bytes8 :=
  let mieSet := byte mstatus 0 &&& mstatusByte0Mie != 0
  let mstatus := setBits mstatus 0 mstatusByte0Mpie mieSet
  let mstatus := setBits mstatus 0 mstatusByte0Mie false
  legalizeMstatus (setByte mstatus 1
    ((byte mstatus 1 &&& ~~~mstatusByte1MppMask) ||| mppBitsFromPrivilegeMode mode))

def supervisorEntryMstatus (mode mstatus : Bytes8) : Bytes8 :=
  let sieSet := byte mstatus 0 &&& mstatusByte0Sie != 0
  let mstatus := setBits mstatus 0 mstatusByte0Spie sieSet
  let mstatus := setBits mstatus 0 mstatusByte0Sie false
  legalizeMstatus (setBits mstatus 1 mstatusByte1Spp (compareUnsignedBytes mode privilegeSupervisor == 0))

def machineReturnMstatus (mstatus : Bytes8) : Bytes8 :=
  let mpieSet := byte mstatus 0 &&& mstatusByte0Mpie != 0
  let mstatus := setBits mstatus 0 mstatusByte0Mie mpieSet
  let mstatus := setBits mstatus 0 mstatusByte0Mpie true
  let previous := privilegeModeFromMppBits (byte mstatus 1 &&& mstatusByte1MppMask)
  let mstatus := setByte mstatus 1 ((byte mstatus 1 &&& ~~~mstatusByte1MppMask) ||| mstatusByte1MppUser)
  legalizeMstatus
    (if compareUnsignedBytes previous privilegeMachine ≠ 0 then setBits mstatus 2 mstatusByte2Mprv false else mstatus)

def supervisorReturnMstatus (mstatus : Bytes8) : Bytes8 :=
  let spieSet := byte mstatus 0 &&& mstatusByte0Spie != 0
  let mstatus := setBits mstatus 0 mstatusByte0Sie spieSet
  let mstatus := setBits mstatus 0 mstatusByte0Spie true
  let mstatus := setBits mstatus 1 mstatusByte1Spp false
  legalizeMstatus (setBits mstatus 2 mstatusByte2Mprv false)

theorem applyTrapEntryToMstatus_eq (registers : Registers) : applyTrapEntryToMstatus registers =
    registers.setSlot Csr.mstatus
      (machineEntryMstatus registers.privilegeMode (registers.controlAndStatus Csr.mstatus)) := rfl

theorem applyTrapEntryToSstatus_eq (registers : Registers) : applyTrapEntryToSstatus registers =
    registers.setSlot Csr.mstatus
      (supervisorEntryMstatus registers.privilegeMode (registers.controlAndStatus Csr.mstatus)) := rfl

/-- A mask that selects a single line. -/
theorem getLsbD_setBits_line (bytes : Bytes8) (mask : BitVec 8) (value : Bool) (line : Nat)
    (selects : ∀ position < 8, mask.getLsbD position = decide (position = line % 8)) (inside : bit < 64) :
    (setBits bytes (line / 8) mask value).getLsbD bit = if bit = line then value else bytes.getLsbD bit := by
  rw [getLsbD_setBits _ _ _ _ inside, selects _ (Nat.mod_lt bit (by decide))]
  by_cases same : bit = line
  · rw [if_pos same, if_pos ⟨by rw [same], decide_eq_true (by rw [same])⟩]
  · rw [if_neg same, if_neg fun both => same (by have := of_decide_eq_true both.2; omega)]

theorem lineSet_eq (word : Bytes8) (mask : BitVec 8) (line : Nat)
    (selects : ∀ position < 8, mask.getLsbD position = decide (position = line % 8)) :
    (byte word (line / 8) &&& mask != 0) = word.getLsbD line := by
  have small : line % 8 < 8 := Nat.mod_lt line (by decide)
  rw [getLsbD_eq_byte word line]
  generalize byte word (line / 8) = low
  cases set : low.getLsbD (line % 8) with
  | true =>
    refine bne_iff_ne.mpr fun clear => ?_
    have bit := congrArg (·.getLsbD (line % 8)) clear
    simp [set, selects _ small] at bit
  | false =>
    refine bne_eq_false_iff_eq.mpr (BitVec.eq_of_getLsbD_eq fun position inside => ?_)
    rw [BitVec.getLsbD_and, selects position inside]
    by_cases same : position = line % 8
    · rw [same, set]
      simp
    · rw [decide_eq_false same]
      simp

/-- MPP replaced. -/
def setMpp (mstatus : Bytes8) (bits : BitVec 8) : Bytes8 :=
  setByte mstatus 1 ((byte mstatus 1 &&& ~~~mstatusByte1MppMask) ||| bits)

def MppBits (bits : BitVec 8) : Prop := Within bits mstatusByte1MppMask

theorem getLsbD_setMpp (mstatus : Bytes8) (within : MppBits bits) (inside : bit < 64) (mpp : bit ≠ 11 ∧ bit ≠ 12) :
    (setMpp mstatus bits).getLsbD bit = mstatus.getLsbD bit := by
  have small : bit % 8 < 8 := Nat.mod_lt bit (by decide)
  have mask : ∀ position < 8, position ≠ 3 → position ≠ 4 → mstatusByte1MppMask.getLsbD position = false := by
    decide
  rw [setMpp, getLsbD_setByte]
  split
  · rename_i second
    have outside := mask (bit % 8) small (by omega) (by omega)
    rw [decide_eq_true inside, Bool.true_and, BitVec.getLsbD_or, BitVec.getLsbD_and, BitVec.getLsbD_not, outside,
      within.clear small outside, getLsbD_eq_byte mstatus, second]
    simp [small]
  · rfl

theorem mppBits_setMpp (mstatus : Bytes8) (within : MppBits bits) : mppBits (setMpp mstatus bits) = bits := by
  have merged : ((byte mstatus 1 &&& ~~~mstatusByte1MppMask) ||| bits) &&& mstatusByte1MppMask = bits := by
    rw [BitVec.and_or_distrib_right, and_not_and, within.and_self]
    simp
  rw [mppBits, setMpp, byte_setByte _ _ (by decide), if_pos rfl, merged]

/-- Words with the same two bits have the same MPP. -/
theorem mppBits_congr {left right : Bytes8} (low : left.getLsbD 11 = right.getLsbD 11)
    (high : left.getLsbD 12 = right.getLsbD 12) : mppBits left = mppBits right := by
  have mask : ∀ position < 8, position ≠ 3 → position ≠ 4 → mstatusByte1MppMask.getLsbD position = false := by
    decide
  apply BitVec.eq_of_getLsbD_eq
  intro position small
  rw [mppBits, mppBits, BitVec.getLsbD_and, BitVec.getLsbD_and]
  by_cases first : position = 3
  · rw [first, getLsbD_byte, getLsbD_byte, low]
  by_cases second : position = 4
  · rw [second, getLsbD_byte, getLsbD_byte, high]
  · rw [mask position small first second, Bool.and_false, Bool.and_false]

theorem mppBitsFromPrivilegeMode_within (mode : Bytes8) : MppBits (mppBitsFromPrivilegeMode mode) := by
  rw [mppBitsFromPrivilegeMode]
  split
  · exact (by decide : Within mstatusByte1MppMachine mstatusByte1MppMask)
  split
  · exact (by decide : Within mstatusByte1MppSupervisor mstatusByte1MppMask)
  · exact (by decide : Within mstatusByte1MppUser mstatusByte1MppMask)

section

variable (bytes : Bytes8) (value : Bool) (inside : bit < 64)
include inside

private theorem getLsbD_setMie : (setBits bytes 0 mstatusByte0Mie value).getLsbD bit =
    if bit = mieBit then value else bytes.getLsbD bit :=
  getLsbD_setBits_line bytes _ value mieBit (by decide) inside

private theorem getLsbD_setMpie : (setBits bytes 0 mstatusByte0Mpie value).getLsbD bit =
    if bit = mpieBit then value else bytes.getLsbD bit :=
  getLsbD_setBits_line bytes _ value mpieBit (by decide) inside

private theorem getLsbD_setSie : (setBits bytes 0 mstatusByte0Sie value).getLsbD bit =
    if bit = sieBit then value else bytes.getLsbD bit :=
  getLsbD_setBits_line bytes _ value sieBit (by decide) inside

private theorem getLsbD_setSpie : (setBits bytes 0 mstatusByte0Spie value).getLsbD bit =
    if bit = spieBit then value else bytes.getLsbD bit :=
  getLsbD_setBits_line bytes _ value spieBit (by decide) inside

private theorem getLsbD_setSpp : (setBits bytes 1 mstatusByte1Spp value).getLsbD bit =
    if bit = sppBit then value else bytes.getLsbD bit :=
  getLsbD_setBits_line bytes _ value sppBit (by decide) inside

private theorem getLsbD_setMprv : (setBits bytes 2 mstatusByte2Mprv value).getLsbD bit =
    if bit = mprvBit then value else bytes.getLsbD bit :=
  getLsbD_setBits_line bytes _ value mprvBit (by decide) inside

end

/-- Trap entry to M changes MIE, MPIE and MPP. -/
theorem getLsbD_machineEntry (mode mstatus : Bytes8) (inside : bit < 64) (mpp : bit ≠ 11 ∧ bit ≠ 12)
    (xl : bit / 4 ≠ 8) : (machineEntryMstatus mode mstatus).getLsbD bit =
      if bit = mieBit then false else if bit = mpieBit then mstatus.getLsbD mieBit else mstatus.getLsbD bit := by
  rw [machineEntryMstatus, mieGlobal_eq, getLsbD_legalizeMstatus _ _ mpp xl, ← setMpp,
    getLsbD_setMpp _ (mppBitsFromPrivilegeMode_within mode) inside mpp, getLsbD_setMie _ _ inside,
    getLsbD_setMpie _ _ inside]
  rfl

theorem mppBitsFromPrivilegeMode_legal (mode : Bytes8) : mppBitsFromPrivilegeMode mode ≠ mstatusByte1MppReserved := by
  rw [mppBitsFromPrivilegeMode]
  split
  · decide
  split <;> decide

theorem mppBits_machineEntry (mode mstatus : Bytes8) :
    mppBits (machineEntryMstatus mode mstatus) = mppBitsFromPrivilegeMode mode := by
  have within := mppBitsFromPrivilegeMode_within mode
  have legal := mppBitsFromPrivilegeMode_legal mode
  rw [machineEntryMstatus, ← setMpp, mppBits_legalizeMstatus (by rwa [mppBits_setMpp _ within]),
    mppBits_setMpp _ within]

/-- Trap entry to S changes SIE, SPIE and SPP. -/
theorem getLsbD_supervisorEntry (mode : Bytes8) (legal : mppBits mstatus ≠ mstatusByte1MppReserved)
    (inside : bit < 64) (xl : bit / 4 ≠ 8) : (supervisorEntryMstatus mode mstatus).getLsbD bit =
      if bit = sppBit then decide (mode = privilegeSupervisor) else if bit = sieBit then false
      else if bit = spieBit then mstatus.getLsbD sieBit else mstatus.getLsbD bit := by
  have supervisor : (compareUnsignedBytes mode privilegeSupervisor == 0) = decide (mode = privilegeSupervisor) := by
    rw [Bool.eq_iff_iff, beq_iff_eq, decide_eq_true_eq, compareUnsignedBytes_eq_zero]
  have kept (bit : Nat) (inside : bit < 64) :
      (setBits (setBits (setBits mstatus 0 mstatusByte0Spie (mstatus.getLsbD sieBit)) 0 mstatusByte0Sie false) 1
        mstatusByte1Spp (decide (mode = privilegeSupervisor))).getLsbD bit =
        if bit = sppBit then decide (mode = privilegeSupervisor) else if bit = sieBit then false
        else if bit = spieBit then mstatus.getLsbD sieBit else mstatus.getLsbD bit := by
    rw [getLsbD_setSpp _ _ inside, getLsbD_setSie _ _ inside, getLsbD_setSpie _ _ inside]
  have same : mppBits (setBits (setBits (setBits mstatus 0 mstatusByte0Spie (mstatus.getLsbD sieBit)) 0
      mstatusByte0Sie false) 1 mstatusByte1Spp (decide (mode = privilegeSupervisor))) = mppBits mstatus :=
    mppBits_congr (kept 11 (by decide)) (kept 12 (by decide))
  rw [supervisorEntryMstatus, sieGlobal_eq, supervisor]
  exact (getLsbD_legalizeMstatus_mpp (same ▸ legal) xl).trans (kept bit inside)

theorem mppBits_supervisorEntry (mode : Bytes8) (legal : mppBits mstatus ≠ mstatusByte1MppReserved) :
    mppBits (supervisorEntryMstatus mode mstatus) = mppBits mstatus :=
  mppBits_congr (getLsbD_supervisorEntry mode legal (by decide) (by decide))
    (getLsbD_supervisorEntry mode legal (by decide) (by decide))

theorem mpieSet_eq (mstatus : Bytes8) : (byte mstatus 0 &&& mstatusByte0Mpie != 0) = mstatus.getLsbD mpieBit :=
  lineSet_eq mstatus _ mpieBit (by decide)

theorem spieSet_eq (mstatus : Bytes8) : (byte mstatus 0 &&& mstatusByte0Spie != 0) = mstatus.getLsbD spieBit :=
  lineSet_eq mstatus _ spieBit (by decide)

theorem sppSet_eq (mstatus : Bytes8) : (byte mstatus 1 &&& mstatusByte1Spp != 0) = mstatus.getLsbD sppBit :=
  lineSet_eq mstatus _ sppBit (by decide)

/-- `mstatus` while a machine return has moved the enables only. -/
private def machineReturned (mstatus : Bytes8) : Bytes8 :=
  setBits (setBits mstatus 0 mstatusByte0Mie (mstatus.getLsbD mpieBit)) 0 mstatusByte0Mpie true

private theorem getLsbD_machineReturned (mstatus : Bytes8) (inside : bit < 64) :
    (machineReturned mstatus).getLsbD bit =
      if bit = mpieBit then true else if bit = mieBit then mstatus.getLsbD mpieBit else mstatus.getLsbD bit := by
  rw [machineReturned, getLsbD_setMpie _ _ inside, getLsbD_setMie _ _ inside]

/-- The privilege a machine return goes to. -/
def machineReturnMode (mstatus : Bytes8) : Bytes8 := privilegeModeFromMppBits (mppBits mstatus)

private theorem mppBits_machineReturned (mstatus : Bytes8) : mppBits (machineReturned mstatus) = mppBits mstatus :=
  mppBits_congr (getLsbD_machineReturned mstatus (by decide)) (getLsbD_machineReturned mstatus (by decide))

theorem machineReturn_mode (registers : Registers) : (applyMachineReturnToMstatus registers).privilegeMode =
    machineReturnMode (registers.controlAndStatus Csr.mstatus) := by
  have moved : (applyMachineReturnToMstatus registers).privilegeMode = privilegeModeFromMppBits (mppBits
      (setBits (setBits (registers.controlAndStatus Csr.mstatus) 0 mstatusByte0Mie
        (byte (registers.controlAndStatus Csr.mstatus) 0 &&& mstatusByte0Mpie != 0)) 0 mstatusByte0Mpie true)) := rfl
  rw [moved, mpieSet_eq, ← machineReturned, mppBits_machineReturned, machineReturnMode]

theorem supervisorReturn_mode (registers : Registers) : (applySupervisorReturnToSstatus registers).privilegeMode =
    if (registers.controlAndStatus Csr.mstatus).getLsbD sppBit then privilegeSupervisor else privilegeUser := by
  generalize slot : registers.controlAndStatus Csr.mstatus = mstatus
  have moved : (applySupervisorReturnToSstatus registers).privilegeMode =
      if byte (setBits (setBits mstatus 0 mstatusByte0Sie (byte mstatus 0 &&& mstatusByte0Spie != 0)) 0
        mstatusByte0Spie true) 1 &&& mstatusByte1Spp ≠ 0 then privilegeSupervisor else privilegeUser := by
    rw [← slot]
    rfl
  have spp : byte (setBits (setBits mstatus 0 mstatusByte0Sie (byte mstatus 0 &&& mstatusByte0Spie != 0)) 0
      mstatusByte0Spie true) 1 &&& mstatusByte1Spp ≠ 0 ↔ mstatus.getLsbD sppBit = true := by
    rw [← bne_iff_ne, sppSet_eq, getLsbD_setSpie _ _ (by decide), getLsbD_setSie _ _ (by decide)]
    rfl
  rw [moved]
  simp only [spp]

theorem machineReturnMstatus_eq (mstatus : Bytes8) : machineReturnMstatus mstatus = legalizeMstatus
    (if machineReturnMode mstatus ≠ privilegeMachine then
      setBits (setMpp (machineReturned mstatus) mstatusByte1MppUser) 2 mstatusByte2Mprv false
    else setMpp (machineReturned mstatus) mstatusByte1MppUser) := by
  rw [machineReturnMstatus, mpieSet_eq, machineReturnMode, ← mppBits_machineReturned]
  simp only [ne_eq, compareUnsignedBytes_eq_zero]
  rfl

/-- A machine return changes MIE, MPIE, MPP and, below M, MPRV. -/
theorem getLsbD_machineReturn (mstatus : Bytes8) (inside : bit < 64) (mpp : bit ≠ 11 ∧ bit ≠ 12)
    (xl : bit / 4 ≠ 8) : (machineReturnMstatus mstatus).getLsbD bit =
      if bit = mprvBit ∧ machineReturnMode mstatus ≠ privilegeMachine then false
      else if bit = mpieBit then true else if bit = mieBit then mstatus.getLsbD mpieBit else mstatus.getLsbD bit := by
  have user : MppBits mstatusByte1MppUser := by
    exact (by decide : Within mstatusByte1MppUser mstatusByte1MppMask)
  rw [machineReturnMstatus_eq, getLsbD_legalizeMstatus _ _ mpp xl, ← getLsbD_machineReturned _ inside]
  by_cases lowered : machineReturnMode mstatus ≠ privilegeMachine
  · rw [if_pos lowered, getLsbD_setMprv _ _ inside, getLsbD_setMpp _ user inside mpp]
    simp only [lowered, ne_eq, not_false_eq_true, and_true]
  · rw [if_neg lowered, getLsbD_setMpp _ user inside mpp, if_neg fun both => lowered both.2]

theorem mppBits_machineReturn (mstatus : Bytes8) : mppBits (machineReturnMstatus mstatus) = mstatusByte1MppUser := by
  have user : MppBits mstatusByte1MppUser := by
    exact (by decide : Within mstatusByte1MppUser mstatusByte1MppMask)
  have legal : mstatusByte1MppUser ≠ mstatusByte1MppReserved := by decide
  have cleared := mppBits_setMpp (machineReturned mstatus) user
  rw [machineReturnMstatus_eq]
  split
  · have kept : mppBits (setBits (setMpp (machineReturned mstatus) mstatusByte1MppUser) 2 mstatusByte2Mprv false) =
        mstatusByte1MppUser :=
      (mppBits_congr (getLsbD_setMprv _ _ (by decide)) (getLsbD_setMprv _ _ (by decide))).trans cleared
    rw [mppBits_legalizeMstatus (by rwa [kept]), kept]
  · rw [mppBits_legalizeMstatus (by rwa [cleared]), cleared]

/-- A supervisor return changes SIE, SPIE, SPP and MPRV. -/
theorem getLsbD_supervisorReturn (legal : mppBits mstatus ≠ mstatusByte1MppReserved)
    (inside : bit < 64) (xl : bit / 4 ≠ 8) : (supervisorReturnMstatus mstatus).getLsbD bit =
      if bit = mprvBit then false else if bit = sppBit then false else if bit = spieBit then true
      else if bit = sieBit then mstatus.getLsbD spieBit else mstatus.getLsbD bit := by
  generalize returned : setBits (setBits (setBits (setBits mstatus 0 mstatusByte0Sie (mstatus.getLsbD spieBit)) 0
      mstatusByte0Spie true) 1 mstatusByte1Spp false) 2 mstatusByte2Mprv false = after
  have kept (bit : Nat) (inside : bit < 64) : after.getLsbD bit =
      if bit = mprvBit then false else if bit = sppBit then false else if bit = spieBit then true
      else if bit = sieBit then mstatus.getLsbD spieBit else mstatus.getLsbD bit := by
    rw [← returned, getLsbD_setMprv _ _ inside, getLsbD_setSpp _ _ inside, getLsbD_setSpie _ _ inside,
      getLsbD_setSie _ _ inside]
  have same : mppBits after = mppBits mstatus := mppBits_congr (kept 11 (by decide)) (kept 12 (by decide))
  rw [supervisorReturnMstatus, spieSet_eq, returned]
  exact (getLsbD_legalizeMstatus_mpp (same ▸ legal) xl).trans (kept bit inside)

/-! A return after its entry. -/

/-- The return of M goes to the privilege that its entry saved. -/
theorem machineReturnMode_entry (mstatus : Bytes8)
    (valid : mode = privilegeUser ∨ mode = privilegeSupervisor ∨ mode = privilegeMachine) :
    machineReturnMode (machineEntryMstatus mode mstatus) = mode := by
  rw [machineReturnMode, mppBits_machineEntry]
  rcases valid with rfl | rfl | rfl <;> decide

theorem getLsbD_machineRoundTrip (mstatus : Bytes8)
    (valid : mode = privilegeUser ∨ mode = privilegeSupervisor ∨ mode = privilegeMachine)
    (inside : bit < 64) (mpp : bit ≠ 11 ∧ bit ≠ 12) (xl : bit / 4 ≠ 8) :
    (machineReturnMstatus (machineEntryMstatus mode mstatus)).getLsbD bit =
      if bit = mprvBit ∧ mode ≠ privilegeMachine then false
      else if bit = mpieBit then true else mstatus.getLsbD bit := by
  have saved : (machineEntryMstatus mode mstatus).getLsbD mpieBit = mstatus.getLsbD mieBit := by
    rw [getLsbD_machineEntry _ _ (by decide) (by decide) (by decide)]
    rfl
  rw [getLsbD_machineReturn _ inside mpp xl, machineReturnMode_entry mstatus valid, saved,
    getLsbD_machineEntry _ _ inside mpp xl]
  by_cases mie : bit = mieBit
  · subst mie
    rfl
  · rw [if_neg mie, if_neg mie]
    by_cases mpie : bit = mpieBit
    · rw [if_pos mpie, if_pos mpie]
    · rw [if_neg mpie, if_neg mpie, if_neg mpie]

theorem getLsbD_supervisorRoundTrip (mode : Bytes8) (legal : mppBits mstatus ≠ mstatusByte1MppReserved)
    (inside : bit < 64) (xl : bit / 4 ≠ 8) :
    (supervisorReturnMstatus (supervisorEntryMstatus mode mstatus)).getLsbD bit =
      if bit = mprvBit then false else if bit = sppBit then false else if bit = spieBit then true
      else mstatus.getLsbD bit := by
  have legal' : mppBits (supervisorEntryMstatus mode mstatus) ≠ mstatusByte1MppReserved := by
    rwa [mppBits_supervisorEntry mode legal]
  have saved : (supervisorEntryMstatus mode mstatus).getLsbD spieBit = mstatus.getLsbD sieBit := by
    rw [getLsbD_supervisorEntry mode legal (by decide) (by decide)]
    rfl
  rw [getLsbD_supervisorReturn legal' inside xl, saved, getLsbD_supervisorEntry mode legal inside xl]
  by_cases sie : bit = sieBit
  · subst sie
    rfl
  · rw [if_neg sie, if_neg sie]
    by_cases spp : bit = sppBit
    · rw [if_pos spp, if_pos spp]
    · rw [if_neg spp, if_neg spp, if_neg spp]
      by_cases spie : bit = spieBit
      · rw [if_pos spie, if_pos spie]
      · rw [if_neg spie, if_neg spie, if_neg spie]

end YaRiscV.Emulator
