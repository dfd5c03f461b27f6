import YaRiscV.Library.MaskedView
import YaRiscV.Emulator.Cpu.MstatusBits
import YaRiscV.Emulator.Cpu.Reachable

/-! `sstatus` and `sie` as views of `mstatus` and `mie`: they have no slot of their own. -/

namespace YaRiscV.Emulator

open YaRiscV.Library YaRiscV.Utils

/-- What `sstatus` shows of a value written to it: UXL is fixed. -/
def sstatusShown (value : Bytes8) : Bytes8 := (value &&& 0xc0122) ||| 0x200000000

/-- What `sie` shows of a value written to it. -/
def sieShown (value : Bytes8) : Bytes8 := value &&& 0x222

/-- `view` reads and writes the bits of `mask` of the CSR `store`; `shown` is what it shows of
a value written to it. -/
structure LawfulView (registers : Registers) (view store : BitVec 12) (mask : Bytes8)
    (shown : Bytes8 → Bytes8) : Prop where
  readBack : ∀ value, readControlAndStatusRegister (writeControlAndStatusRegister registers view value) view =
    shown value
  writeBack : writeControlAndStatusRegister registers view (readControlAndStatusRegister registers view) = registers
  overwritten : ∀ first second,
    writeControlAndStatusRegister (writeControlAndStatusRegister registers view first) view second =
      writeControlAndStatusRegister registers view second
  outside : ∀ value bit, mask.getLsbD bit = false →
    (readControlAndStatusRegister (writeControlAndStatusRegister registers view value) store).getLsbD bit =
      (readControlAndStatusRegister registers store).getLsbD bit
  throughStore : ∀ value,
    readControlAndStatusRegister (writeControlAndStatusRegister registers store value) view =
      readControlAndStatusRegister (writeControlAndStatusRegister registers store value) store &&& mask

variable {registers : Registers}

theorem setSlot_self (registers : Registers) (index : BitVec 12) :
    registers.setSlot index (registers.controlAndStatus index) = registers := by
  simp only [Registers.setSlot, Function.update_eq_self]

theorem setSlot_setSlot (registers : Registers) (index : BitVec 12) (first second : Bytes8) :
    (registers.setSlot index first).setSlot index second = registers.setSlot index second := by
  simp only [Registers.setSlot, Function.update_idem]

/-- A masked view of a slot obeys the laws. -/
theorem LawfulView.of_settling {view store : BitVec 12} {mask : Bytes8} {settled : Bytes8 → Prop}
    {settle shown : Bytes8 → Bytes8} (settling : Settling mask settled settle)
    (legal : settled (registers.controlAndStatus store))
    (read : ∀ registers, readControlAndStatusRegister registers view = registers.controlAndStatus store &&& mask)
    (readStore : ∀ registers, readControlAndStatusRegister registers store = registers.controlAndStatus store)
    (write : ∀ registers value, writeControlAndStatusRegister registers view value =
      registers.setSlot store (putMasked mask settle (registers.controlAndStatus store) value))
    (shows : ∀ value, settle value &&& mask = shown value) :
    LawfulView registers view store mask shown := by
  have stored (value : Bytes8) : (writeControlAndStatusRegister registers view value).controlAndStatus store =
      putMasked mask settle (registers.controlAndStatus store) value := by
    rw [write, setSlot_controlAndStatus, if_pos rfl]
  constructor
  · intro value
    rw [read, stored, settling.get_put, shows]
  · rw [read, write, settling.put_get legal, setSlot_self]
  · intro first second
    rw [write _ second, stored, settling.put_put legal, write, write, setSlot_setSlot]
  · intro value bit hidden
    rw [readStore, readStore, stored]
    by_cases inside : bit < 64
    · exact keptOutside_iff.mp (settling.put_outside legal value) bit inside hidden
    · rw [BitVec.getLsbD_of_ge _ _ (Nat.le_of_not_lt inside), BitVec.getLsbD_of_ge _ _ (Nat.le_of_not_lt inside)]
  · intro value
    rw [read, readStore]

/-- The second byte of a legal `mstatus`. -/
private def settleMpp (value : BitVec 8) : BitVec 8 :=
  if value &&& mstatusByte1MppMask = mstatusByte1MppReserved then value &&& ~~~mstatusByte1MppMask else value

/-- `sstatus` shows nothing of MPP and SXL, and all of UXL. -/
theorem sstatus_settling : Settling sstatusMaskBytes LegalMstatus legalizeMstatus := by
  have words : 64 = 8 * 8 := rfl
  have mpp (word : Bytes8) : byte (legalizeMstatus word) 1 = settleMpp (byte word 1) :=
    byte_legalizeMstatus_mpp word
  constructor
  · exact fun word => legalizeMstatus_of_legal
  · intro word other same
    have hidden (value : BitVec 8) : settleMpp value &&& byte sstatusMaskBytes 1 =
        value &&& byte sstatusMaskBytes 1 := by
      revert value
      decide
    have fixed (value : BitVec 8) : ((value &&& ~~~mstatusByte4UxlSxlMask) ||| mstatusByte4UxlSxl64) &&&
        byte sstatusMaskBytes 4 = 2 := by
      revert value
      decide
    refine eq_of_byte words fun index inside => ?_
    have agree := congrArg (byte · index) same
    simp only [byte_and] at agree ⊢
    by_cases second : index = 1
    · subst second
      rw [mpp, mpp, hidden, hidden, agree]
    by_cases fifth : index = 4
    · subst fifth
      rw [byte_legalizeMstatus_xl, byte_legalizeMstatus_xl, fixed, fixed]
    · rw [byte_legalizeMstatus _ _ ⟨second, fifth⟩, byte_legalizeMstatus _ _ ⟨second, fifth⟩, agree]
  · intro word other kept
    have apart (value : BitVec 8) : settleMpp value &&& ~~~byte sstatusMaskBytes 1 =
        settleMpp (value &&& ~~~byte sstatusMaskBytes 1) &&& ~~~byte sstatusMaskBytes 1 := by
      revert value
      decide
    have above (value : BitVec 8) : ((value &&& ~~~mstatusByte4UxlSxlMask) ||| mstatusByte4UxlSxl64) &&&
        ~~~byte sstatusMaskBytes 4 = ((value &&& ~~~byte sstatusMaskBytes 4 &&& ~~~mstatusByte4UxlSxlMask) |||
          mstatusByte4UxlSxl64) &&& ~~~byte sstatusMaskBytes 4 := by
      revert value
      decide
    rw [keptOutside_iff_byte words] at kept ⊢
    intro index inside
    have agree : byte other index &&& ~~~byte sstatusMaskBytes index = byte word index &&&
      ~~~byte sstatusMaskBytes index := kept index inside
    rw [KeptOutside]
    by_cases second : index = 1
    · subst second
      rw [mpp, mpp, apart, agree, ← apart]
    by_cases fifth : index = 4
    · subst fifth
      rw [byte_legalizeMstatus_xl, byte_legalizeMstatus_xl, above, agree, ← above]
    · rw [byte_legalizeMstatus _ _ ⟨second, fifth⟩, byte_legalizeMstatus _ _ ⟨second, fifth⟩, agree]

theorem legalizeMstatus_shown (value : Bytes8) : legalizeMstatus value &&& sstatusMaskBytes = sstatusShown value := by
  have words : 64 = 8 * 8 := rfl
  have fixed (low : BitVec 8) : ((low &&& ~~~mstatusByte4UxlSxlMask) ||| mstatusByte4UxlSxl64) &&&
      byte sstatusMaskBytes 4 = 2 := by
    revert low
    decide
  have hidden (low : BitVec 8) : settleMpp low &&& byte sstatusMaskBytes 1 = low &&& 1 := by
    revert low
    decide
  refine eq_of_byte words fun index inside => ?_
  rw [sstatusShown, byte_or, byte_and, byte_and]
  by_cases second : index = 1
  · subst second
    have masks : byte (0xc0122 : Bytes8) 1 = 1 ∧ byte (0x200000000 : Bytes8) 1 = 0 := by decide
    have settled : byte (legalizeMstatus value) 1 = settleMpp (byte value 1) := byte_legalizeMstatus_mpp value
    rw [settled, hidden, masks.1, masks.2]
    simp
  by_cases fifth : index = 4
  · subst fifth
    have masks : byte (0xc0122 : Bytes8) 4 = 0 ∧ byte (0x200000000 : Bytes8) 4 = 2 := by decide
    rw [byte_legalizeMstatus_xl, fixed, masks.1, masks.2]
    simp
  · have masks : ∀ index < 8, index ≠ 1 → index ≠ 4 →
        byte (0xc0122 : Bytes8) index = byte sstatusMaskBytes index ∧ byte (0x200000000 : Bytes8) index = 0 := by decide
    rw [byte_legalizeMstatus _ _ ⟨second, fifth⟩, (masks index inside second fifth).1,
      (masks index inside second fifth).2]
    simp

theorem sstatus_lawful (legal : LegalMstatus (registers.controlAndStatus Csr.mstatus)) :
    LawfulView registers Csr.sstatus Csr.mstatus 0x3000c0122 sstatusShown := by
  have mask : (0x3000c0122 : Bytes8) = sstatusMaskBytes := by decide
  have complement : mstatusKeepOutsideSstatus = ~~~sstatusMaskBytes := by decide
  rw [mask]
  refine .of_settling sstatus_settling legal ?_ (fun _ => rfl) ?_ legalizeMstatus_shown
  · exact fun registers => andBytes_eq _ _
  · intro registers value
    rw [putMasked, ← complement, ← andBytes_eq, ← andBytes_eq, ← orBytes_eq]
    rfl

theorem sie_lawful (registers : Registers) : LawfulView registers Csr.sie Csr.mie 0x222 sieShown := by
  have mask : sieSipMaskBytes = 0x222 := by decide
  have complement : mieMipKeepOutsideSieSip = ~~~0x222 := by decide
  refine .of_settling (.free 0x222) trivial ?_ (fun _ => rfl) ?_ (fun _ => rfl)
  · intro registers
    rw [← mask, ← andBytes_eq]
    rfl
  · intro registers value
    rw [putMasked, ← complement, ← mask, ← andBytes_eq, ← andBytes_eq, id, ← orBytes_eq]
    rfl

/-- In every reachable state `sstatus` and `sie` are lawful views of `mstatus` and `mie`. -/
theorem supervisorViews_lawful (reachable : CpuReachable registers) :
    LawfulView registers Csr.sstatus Csr.mstatus 0x3000c0122 sstatusShown ∧
      LawfulView registers Csr.sie Csr.mie 0x222 sieShown :=
  ⟨sstatus_lawful (reachable.invariant.slots Csr.mstatus), sie_lawful registers⟩

/-- The views of a hart all of whose legal bits are set. -/
theorem supervisorViews_lawful_onesWritten : ∃ registers,
    executeAll (writeOnes legalizedCsrs) createRegisters = some registers ∧
    readControlAndStatusRegister registers Csr.sie = 0x222 ∧
    LawfulView registers Csr.sstatus Csr.mstatus 0x3000c0122 sstatusShown ∧
    LawfulView registers Csr.sie Csr.mie 0x222 sieShown := by
  have shown : (executeAll (writeOnes legalizedCsrs) createRegisters).any (fun registers =>
      decide (readControlAndStatusRegister registers Csr.sie = 0x222)) = true := by decide +kernel
  obtain ⟨registers, executed, enabled⟩ := (Option.any_eq_true _ _).mp shown
  exact ⟨registers, executed, of_decide_eq_true enabled, supervisorViews_lawful (executeAll_reaches executed)⟩

end YaRiscV.Emulator
