import YaRiscV.Library.Rv64Machine
import YaRiscV.Emulator.Cpu.AmoSemantics
import YaRiscV.Emulator.Cpu.ReservationHistory
import YaRiscV.Emulator.Cpu.ScalarAccess
import YaRiscV.Emulator.Cpu.Decode.Acceptance
import YaRiscV.Emulator.Cpu.Completion
import YaRiscV.Emulator.Cpu.InstructionEffect

/-! The hart as a bare machine: its registers, the RAM it sees and its own reservation. Each
instruction of the table that has a step there completes with that step here. -/

namespace YaRiscV.Emulator

open YaRiscV.Library YaRiscV.Utils

/-- RAM by guest address. -/
def ramBytes (memory : Memory) : Rv64.Bytes := fun address =>
  let ram := memory.layout.ram
  if ram.guestAddress.toNat ≤ address ∧ (denseGuestToHostIndex ram (address - ram.guestAddress.toNat)).isSome then
    some (ramByte memory (address - ram.guestAddress.toNat))
  else none

/-- What a hart has reserved. -/
def reservedOf (memory : Memory) (hartId : Nat) : Option Rv64.Reserved :=
  (reservationOf memory hartId).map fun held => ⟨held.address, held.width.toNat⟩

/-- The bare machine a hart shows. -/
def machineOf (registers : Registers) (memory : Memory) (zero : registers.generalPurpose 0 = 0) : Rv64.Machine where
  x := registers.generalPurpose
  x0 := zero
  pc := registers.programCounter
  memory := ramBytes memory
  reserved := reservedOf memory (hartIdOf registers)

/-- The bytes of an access are those from `offset` on in RAM. -/
structure RamRange (memory : Memory) (address : Bytes8) (count offset : Nat) : Prop where
  place : memory.layout.ram.guestAddress.toNat + offset = address.toNat
  window : offset + count ≤ memory.layout.ram.guestByteLength
  slab : offset + count ≤ memory.layout.ram.hostByteLength

/-- RAM with the low `count` bytes of `value` at `offset`. -/
structure RamPut (memory : Memory) (offset count : Nat) (value : BitVec width) (after : Memory) : Prop where
  layout : after.layout = memory.layout
  bytes : ∀ other < memory.layout.ram.hostByteLength, ramByte after other =
    if offset ≤ other ∧ other < offset + count then byte value (other - offset) else ramByte memory other

variable {registers after : Registers} {memory stored : Memory} {address : Bytes8} {count offset : Nat}

/-! The memory. -/

theorem ramBytes_offset (memory : Memory) (offset : Nat) :
    ramBytes memory (memory.layout.ram.guestAddress.toNat + offset) =
      if offset < memory.layout.ram.guestByteLength ∧ offset < memory.layout.ram.hostByteLength then
        some (ramByte memory offset) else none := by
  have index : memory.layout.ram.guestAddress.toNat + offset - memory.layout.ram.guestAddress.toNat = offset := by
    omega
  simp only [ramBytes, index, denseGuestToHostIndex_isSome]
  refine if_congr (and_iff_right (Nat.le_add_right _ _)) rfl rfl

theorem RamRange.present (range : RamRange memory address count offset) :
    (ramBytes memory).Present address.toNat count := by
  intro index inside
  have window := range.window
  have slab := range.slab
  rw [← range.place, Nat.add_assoc, ramBytes_offset, if_pos ⟨by omega, by omega⟩]
  rfl

theorem RamRange.of_present (positive : 0 < count) (present : (ramBytes memory).Present address.toNat count) :
    ∃ offset, RamRange memory address count offset := by
  have covered (index : Nat) (inside : index < count) :
      memory.layout.ram.guestAddress.toNat ≤ address.toNat + index ∧
        address.toNat + index - memory.layout.ram.guestAddress.toNat < memory.layout.ram.guestByteLength ∧
        address.toNat + index - memory.layout.ram.guestAddress.toNat < memory.layout.ram.hostByteLength := by
    have there := present index inside
    simp only [ramBytes] at there
    split at there
    · rename_i mapped
      exact ⟨mapped.1, (denseGuestToHostIndex_isSome _ _).mp mapped.2⟩
    · cases there
  have first := covered 0 positive
  have last := covered (count - 1) (by omega)
  exact ⟨address.toNat - memory.layout.ram.guestAddress.toNat, by omega, by omega, by omega⟩

/-- What the machine loads are the bytes of the slab. -/
theorem RamRange.load (range : RamRange memory address count offset) :
    (ramBytes memory).load address.toNat count =
      some (ofBytes (fun index => ramByte memory (offset + index)) count) := by
  rw [Rv64.Bytes.load, if_pos range.present]
  refine congrArg some (eq_of_byte rfl fun index inside => ?_)
  have window := range.window
  have slab := range.slab
  rw [byte_ofBytes _ inside (Nat.le_refl _), byte_ofBytes _ inside (Nat.le_refl _), ← range.place, Nat.add_assoc,
    ramBytes_offset, if_pos ⟨by omega, by omega⟩]
  rfl

theorem ramBytes_load (positive : 0 < count) (loaded : (ramBytes memory).load address.toNat count = some word) :
    ∃ offset, RamRange memory address count offset ∧
      word = ofBytes (fun index => ramByte memory (offset + index)) count := by
  have present : (ramBytes memory).Present address.toNat count := by
    by_contra missing
    rw [Rv64.Bytes.load, if_neg missing] at loaded
    cases loaded
  obtain ⟨offset, range⟩ := RamRange.of_present positive present
  exact ⟨offset, range, Option.some.inj (loaded.symm.trans range.load)⟩

theorem RamPut.ramBytes {value : BitVec width} (put : RamPut memory offset count value stored)
    (range : RamRange memory address count offset) :
    ramBytes stored = (ramBytes memory).put address.toNat count value := by
  have place := range.place
  have window := range.window
  have slab := range.slab
  funext position
  by_cases below : position < memory.layout.ram.guestAddress.toNat
  · rw [Rv64.Bytes.put, if_neg (by omega), Emulator.ramBytes, Emulator.ramBytes, put.layout, if_neg (by omega),
      if_neg (by omega)]
  obtain ⟨other, rfl⟩ := Nat.exists_eq_add_of_le (Nat.le_of_not_lt below)
  have after := ramBytes_offset stored other
  rw [put.layout] at after
  rw [after, Rv64.Bytes.put, ramBytes_offset]
  by_cases covered : offset ≤ other ∧ other < offset + count
  · rw [if_pos ⟨by omega, by omega⟩, if_pos ⟨by omega, by omega⟩, put.bytes other (by omega), if_pos covered]
    congr 2
    omega
  · rw [if_neg (c := address.toNat ≤ _ ∧ _) (by omega)]
    split
    · rename_i mapped
      rw [put.bytes other mapped.2, if_neg covered]
    · rfl

theorem SameRam.ramBytes (same : SameRam memory stored) : ramBytes stored = ramBytes memory := by
  funext position
  simp only [Emulator.ramBytes, same.layout]
  split
  · rename_i mapped
    rw [same.bytes _ ((denseGuestToHostIndex_isSome _ _).mp mapped.2).2]
  · rfl

theorem RamStored.put {source : Bytes8} (written : RamStored memory offset source count stored)
    (range : RamRange memory address count offset) : RamPut memory offset count source stored where
  layout := written.layout
  bytes other slab := by
    have inside := range.slab
    by_cases covered : offset ≤ other ∧ other < offset + count
    · obtain ⟨index, rfl⟩ := Nat.exists_eq_add_of_le covered.1
      rw [if_pos covered, written.written index (by omega) (by omega), Nat.add_sub_cancel_left]
    · rw [if_neg covered, written.others other slab (by omega)]

/-! The reservation. -/

theorem overwritten_meets (positive : 0 < count) (held : Reservation) : overwritten address.toNat count held =
    (⟨held.address, held.width.toNat⟩ : Rv64.Reserved).meets reservationLineSize address.toNat count := by
  rw [Bool.eq_iff_iff, overwritten, rangesOverlap_iff, Reservation.line, reservationLineBase_eq, Rv64.Reserved.meets,
    reservationLineSize, Bool.and_eq_true, decide_eq_true_eq, decide_eq_true_eq]
  dsimp only
  omega

/-- A store ends the reservations that it meets. -/
theorem reservedOf_store (positive : 0 < count) (hartId : Nat)
    (revoked : reservationOf stored hartId =
      (reservationOf memory hartId).filter fun held => !overwritten address.toNat count held) :
    reservedOf stored hartId =
      (reservedOf memory hartId).filter fun held => !held.meets reservationLineSize address.toNat count := by
  rw [reservedOf, reservedOf, revoked]
  cases reservationOf memory hartId with
  | none => rfl
  | some held =>
    rw [Option.filter_some, Option.map_some, Option.filter_some, overwritten_meets positive]
    split <;> rfl

theorem AtomicWidth.byteLength_word (width : AtomicWidth) :
    (BitVec.ofNat 32 width.byteLength).toNat = width.byteLength := by
  cases width <;> rfl

theorem reservedOf_eq (hartId : Nat) (width : AtomicWidth) :
    reservedOf memory hartId = some ⟨address, width.byteLength⟩ ↔
      reservationOf memory hartId = some ⟨address, BitVec.ofNat 32 width.byteLength⟩ := by
  rw [reservedOf, Option.map_eq_some_iff]
  constructor
  · rintro ⟨⟨place, held⟩, found, same⟩
    obtain ⟨rfl, length⟩ := Rv64.Reserved.mk.inj same
    rw [found, ← length, BitVec.ofNat_toNat, BitVec.setWidth_eq]
  · intro found
    exact ⟨_, found, by rw [width.byteLength_word]⟩

end YaRiscV.Emulator
