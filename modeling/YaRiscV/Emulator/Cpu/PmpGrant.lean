import YaRiscV.Library.Selection
import YaRiscV.Emulator.Cpu.Pmp

/-! What the PMP says about a single byte, and that an access below M that passes the
check is granted on each of its bytes. -/

namespace YaRiscV.Emulator

open YaRiscV.Library YaRiscV.Utils

variable (registers : Registers)

def entryMatches (address entry : Nat) : Bool :=
  (entryRange registers entry).any fun range => decide (range.low ≤ address ∧ address < range.high)

/-- The lowest entry whose range contains the byte. -/
def matchingEntry (address : Nat) : Option Nat :=
  (List.range pmpEntryCount).find? (entryMatches registers address)

/-- Whether the byte's own lowest matching entry grants `access`. -/
def byteGranted (address : Nat) (access : PmpAccess) : Bool :=
  (matchingEntry registers address).any fun entry => permissionGranted (configByte registers entry) access

variable {registers : Registers} {access : PmpAccess}

theorem byteGranted_amo (granted : byteGranted registers address .amo = true) :
    byteGranted registers address .load = true ∧ byteGranted registers address .store = true := by
  simp only [byteGranted, Option.any_eq_true] at granted ⊢
  obtain ⟨entry, found, permitted⟩ := granted
  obtain ⟨read, write⟩ := Bool.and_eq_true_iff.mp permitted
  exact ⟨⟨entry, found, read⟩, ⟨entry, found, write⟩⟩

/-- An entry that has an answer for an interval overlaps it; if the access goes through
below M, the entry covers the interval and grants the access. -/
theorem entryDenies_some (answered : entryDenies registers start stop false access entry = some false) :
    ∃ range, entryRange registers entry = some range ∧ range.low ≤ start ∧ stop ≤ range.high ∧
      permissionGranted (configByte registers entry) access = true := by
  simp only [entryDenies] at answered
  split at answered
  · cases answered
  · rename_i range found
    split at answered
    · cases answered
    split at answered
    · cases answered
    · rename_i _ covered
      refine ⟨range, found, by omega, by omega, ?_⟩
      simpa using answered

theorem entryDenies_isSome (matched : entryMatches registers address entry = true) (low : start ≤ address)
    (high : address < stop) : (entryDenies registers start stop machine access entry).isSome = true := by
  obtain ⟨range, found, inside⟩ := Option.any_eq_true _ _ |>.mp matched
  have overlap : ¬ (stop ≤ range.low ∨ start ≥ range.high) := by
    have bounds := of_decide_eq_true inside
    omega
  rw [entryDenies, found]
  dsimp only
  rw [if_neg overlap]
  split
  · rfl
  split <;> rfl

/-- Below M, an access that is not denied is granted on each of its bytes. -/
theorem byteGranted_of_allowed (below : accessIsMachine registers access = false)
    (allowed : physicalMemoryAccessDenied registers address byteLength access = false)
    (inside : offset < byteLength) : byteGranted registers (address.toNat + offset) access = true := by
  simp only [physicalMemoryAccessDenied, below, bytesToBigInt_eq, Bool.not_false] at allowed
  obtain answered | ⟨answer, answered⟩ := Option.eq_none_or_eq_some
    ((List.range pmpEntryCount).findSome? (entryDenies registers address.toNat (address.toNat + byteLength)
      false access))
  · rw [answered] at allowed
    cases allowed
  rw [answered, Option.getD_some] at allowed
  subst allowed
  obtain ⟨entry, first, decided⟩ := findSome?_first answered
  obtain ⟨range, found, low, high, permitted⟩ := entryDenies_some decided
  have matched : entryMatches registers (address.toNat + offset) entry = true := by
    simp only [entryMatches, found, Option.any_some, decide_eq_true_eq]
    omega
  have lowest : matchingEntry registers (address.toNat + offset) = some entry :=
    find?_of_narrower first matched fun other hit =>
      entryDenies_isSome hit (Nat.le_add_right _ _) (Nat.add_lt_add_left inside _)
  rw [byteGranted, lowest]
  exact permitted

end YaRiscV.Emulator
