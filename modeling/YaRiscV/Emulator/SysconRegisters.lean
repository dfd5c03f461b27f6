import YaRiscV.Emulator.Syscon

/-! The syscon window is eight plain bytes: masked word updates against byte stores, and the
request a store publishes. -/

namespace YaRiscV.Emulator

open YaRiscV.Library YaRiscV.Utils

/-- A byte of the syscon window. -/
def sysconByte (memory : Memory) (index : Nat) : BitVec 8 := memory.bytes (memory.layout.syscon.hostIndex + index)

def sysconPoweroff (memory : Memory) : BitVec 32 :=
  memory.load32 (memory.layout.syscon.hostIndex + sysconPoweroffOffset)

def sysconReboot (memory : Memory) : BitVec 32 :=
  memory.load32 (memory.layout.syscon.hostIndex + sysconRebootOffset)

/-- The plain byte store: the bytes of `source` that fall into the window, and nothing else. -/
def sysconPlainStore (memory : Memory) (offset : Nat) (source : Bytes8) (byteLength : Nat) : Memory where
  layout := memory.layout
  bytes position :=
    let start := memory.layout.syscon.hostIndex + offset
    if start ≤ position ∧ position < start + byteLength ∧
        position < memory.layout.syscon.hostIndex + sysconGuestByteLength then byte source (position - start)
    else memory.bytes position
  worker := memory.worker

/-- The request that the registers hold. -/
def sysconRequest (memory : Memory) : Option (BitVec 32) :=
  if sysconPoweroff memory = sysconPoweroffValue then some sysconRequestPoweroff
  else if sysconReboot memory = sysconRebootValue then some sysconRequestReboot
  else none

variable (memory : Memory) (offset : Nat) (source : Bytes8) (byteLength : Nat)

/-- The bytes of a register that an access covers. -/
def CoversByte (wordOffset index : Nat) : Prop :=
  offset ≤ wordOffset + index ∧ wordOffset + index < offset + byteLength ∧ wordOffset + index < sysconGuestByteLength

instance (wordOffset index : Nat) : Decidable (CoversByte offset byteLength wordOffset index) :=
  inferInstanceAs (Decidable (_ ∧ _ ∧ _))

/-- The loop of `registerUpdate` selects the covered bytes, and holds their values. -/
theorem registerUpdate_bytes (wordOffset : Nat) (inside : index < 4) :
    byte (registerUpdate offset source byteLength wordOffset).mask index =
        (if CoversByte offset byteLength wordOffset index then 0xff else 0) ∧
      byte (registerUpdate offset source byteLength wordOffset).value index =
        if CoversByte offset byteLength wordOffset index then byte source (wordOffset + index - offset) else 0 := by
  induction byteLength with
  | zero =>
    have none : ¬ CoversByte offset 0 wordOffset index := fun covered => by
      obtain ⟨from_, until_, _⟩ := covered
      omega
    rw [if_neg none, if_neg none]
    exact ⟨byte_zero index, byte_zero index⟩
  | succ byteLength ih =>
    have ones : (0xff : BitVec 32) = (0xff#8).setWidth 32 := by decide
    have fits : 8 * index + 8 ≤ 32 := by omega
    obtain ⟨mask, value⟩ := ih
    rw [registerUpdate] at mask value ⊢
    rw [forEachIndex, registerUpdateTurn]
    simp only [sysconRegisterBytes]
    by_cases here : offset + byteLength = wordOffset + index ∧ offset + byteLength < sysconGuestByteLength
    · have before : ¬ CoversByte offset byteLength wordOffset index := fun covered => by
        have bound := covered.2.1
        omega
      have after : CoversByte offset (byteLength + 1) wordOffset index := ⟨by omega, by omega, by omega⟩
      have shift : (offset + byteLength - wordOffset) * 8 = 8 * index := by omega
      have last : wordOffset + index - offset = byteLength := by omega
      rw [if_neg before] at mask value
      rw [if_pos after, if_pos after, if_neg (by omega), if_neg (by omega), shift, ones]
      simp only [byte_or, byte_shifted _ _ fits, mask, value, if_true, last]
      exact ⟨BitVec.zero_or, BitVec.zero_or⟩
    · have same : CoversByte offset (byteLength + 1) wordOffset index ↔ CoversByte offset byteLength wordOffset index := by
        rw [CoversByte, CoversByte]
        omega
      simp only [same]
      split
      · exact ⟨mask, value⟩
      split
      · exact ⟨mask, value⟩
      obtain ⟨other, shift, apart⟩ : ∃ other, (offset + byteLength - wordOffset) * 8 = 8 * other ∧ index ≠ other :=
        ⟨offset + byteLength - wordOffset, by omega, by omega⟩
      rw [shift, ones]
      simp only [byte_or, byte_shifted _ _ fits, mask, value, if_neg apart]
      exact ⟨BitVec.or_zero, BitVec.or_zero⟩

theorem selected_byte (kept value : BitVec 8) : (kept &&& ~~~0xff) ||| (value &&& 0xff) = value := by
  have ones : (0xff : BitVec 8) = BitVec.allOnes 8 := by decide
  rw [ones, BitVec.not_allOnes, BitVec.and_zero, BitVec.and_allOnes, BitVec.zero_or]

theorem kept_bits (kept value : BitVec width) :
    (kept &&& ~~~BitVec.ofNat width 0) ||| (value &&& BitVec.ofNat width 0) = kept := by
  rw [BitVec.and_zero, BitVec.or_zero, BitVec.not_zero, BitVec.and_allOnes]

/-- A turn writes the merged word; where it has nothing to write, that is the word itself. -/
theorem storeSysconTurn_eq (wordIndex : Nat) : storeSysconTurn offset source byteLength wordIndex memory =
    memory.store32 (memory.layout.syscon.hostIndex + wordIndex * sysconRegisterBytes)
      ((memory.load32 (memory.layout.syscon.hostIndex + wordIndex * sysconRegisterBytes) &&&
          ~~~(registerUpdate offset source byteLength (wordIndex * sysconRegisterBytes)).mask) |||
        ((registerUpdate offset source byteLength (wordIndex * sysconRegisterBytes)).value &&&
          (registerUpdate offset source byteLength (wordIndex * sysconRegisterBytes)).mask)) := by
  rw [storeSysconTurn]
  split
  · rename_i none
    rw [none]
    exact (Memory.store32_self (kept_bits _ _).symm).symm
  · exact atomicUpdate32_eq _ _

theorem storeSysconTurn_bytes (wordIndex position : Nat) :
    (storeSysconTurn offset source byteLength wordIndex memory).bytes position =
      if memory.layout.syscon.hostIndex + 4 * wordIndex ≤ position ∧
          position < memory.layout.syscon.hostIndex + 4 * wordIndex + 4 then
        (sysconPlainStore memory offset source byteLength).bytes position
      else memory.bytes position := by
  have place : wordIndex * sysconRegisterBytes = 4 * wordIndex := Nat.mul_comm _ _
  rw [storeSysconTurn_eq, place]
  split
  · rename_i reached
    obtain ⟨index, rfl⟩ := Nat.exists_eq_add_of_le reached.1
    have small : index < 4 := by omega
    obtain ⟨mask, value⟩ := registerUpdate_bytes offset source byteLength (4 * wordIndex) small
    have fits : 8 * index + 8 ≤ 32 := by omega
    have loaded : byte (memory.load32 (memory.layout.syscon.hostIndex + 4 * wordIndex)) index =
        memory.bytes (memory.layout.syscon.hostIndex + 4 * wordIndex + index) :=
      ByteStore.byte_word small (by decide)
    have written (word : BitVec 32) :
        (memory.store32 (memory.layout.syscon.hostIndex + 4 * wordIndex) word).bytes
          (memory.layout.syscon.hostIndex + 4 * wordIndex + index) = byte word index :=
      ByteStore.putWord_inside word index small
    rw [written, byte_or, byte_and, byte_and, byte_not _ fits, mask, value, loaded, sysconPlainStore]
    dsimp only
    by_cases covered : CoversByte offset byteLength (4 * wordIndex) index
    · obtain ⟨lower, upper, window⟩ := covered
      have place : memory.layout.syscon.hostIndex + 4 * wordIndex + index - (memory.layout.syscon.hostIndex + offset) =
        4 * wordIndex + index - offset := by omega
      rw [if_pos ⟨lower, upper, window⟩, if_pos ⟨lower, upper, window⟩, if_pos (by omega), place, selected_byte]
    · have apart : ¬ (memory.layout.syscon.hostIndex + offset ≤ memory.layout.syscon.hostIndex + 4 * wordIndex + index ∧
          memory.layout.syscon.hostIndex + 4 * wordIndex + index < memory.layout.syscon.hostIndex + offset + byteLength ∧
          memory.layout.syscon.hostIndex + 4 * wordIndex + index <
            memory.layout.syscon.hostIndex + sysconGuestByteLength) := fun reached => covered
        ⟨by omega, by omega, by omega⟩
      rw [if_neg covered, if_neg covered, if_neg apart]
      exact kept_bits _ _
  · exact Memory.store32_outside _ (by omega)

/-- Both turns together are the plain byte store. -/
theorem storeSysconTurns_eq : forEachIndex (storeSysconTurn offset source byteLength) sysconRegisterCount memory =
    sysconPlainStore memory offset source byteLength := by
  have kept (wordIndex : Nat) (memory : Memory) :
      (storeSysconTurn offset source byteLength wordIndex memory).layout = memory.layout ∧
        (storeSysconTurn offset source byteLength wordIndex memory).worker = memory.worker := by
    rw [storeSysconTurn_eq]
    exact ⟨rfl, rfl⟩
  generalize first : storeSysconTurn offset source byteLength 0 memory = middle
  have same : middle.layout = memory.layout ∧ middle.worker = memory.worker := first ▸ kept 0 memory
  have unrolled (turn : Nat → Memory → Memory) : forEachIndex turn sysconRegisterCount memory =
      turn 1 (turn 0 memory) := rfl
  rw [unrolled, first]
  apply Memory.ext
  · exact (kept 1 middle).1.trans same.1
  · funext position
    have low := storeSysconTurn_bytes memory offset source byteLength 0 position
    rw [first] at low
    rw [storeSysconTurn_bytes _ _ _ _ 1 position, same.1, sysconPlainStore, sysconPlainStore]
    dsimp only
    rw [same.1, low, sysconPlainStore]
    dsimp only
    have window : sysconGuestByteLength = 8 := rfl
    split_ifs <;> first | rfl | omega
  · exact (kept 1 middle).2.trans same.2

/-- Publishing writes the request word with what the registers ask for. -/
theorem publishSysconRequest_eq : publishSysconRequest memory = (match sysconRequest memory with
    | none => memory
    | some level => publishWakeLevel memory (memory.layout.syscon.hostIndex + sysconWakeOffset) level) := by
  have matching (index : Nat) (value : BitVec 32) : registerMatches memory index value = true ↔
      memory.load32 index = value := beq_iff_eq
  rw [publishSysconRequest, sysconRequest]
  by_cases poweroff : sysconPoweroff memory = sysconPoweroffValue
  · simp only [if_pos poweroff, if_pos ((matching _ _).mpr poweroff)]
    rfl
  by_cases reboot : sysconReboot memory = sysconRebootValue
  · simp only [if_neg poweroff, if_neg ((matching _ _).not.mpr poweroff), if_pos reboot,
      if_pos ((matching _ _).mpr reboot)]
    rfl
  · simp only [if_neg poweroff, if_neg ((matching _ _).not.mpr poweroff), if_neg reboot,
      if_neg ((matching _ _).not.mpr reboot)]
    rfl

/-- The word that carries requests to the host. -/
def sysconRequestWord (memory : Memory) : BitVec 32 :=
  memory.load32 (memory.layout.syscon.hostIndex + sysconWakeOffset)

/-- What a store to the syscon leaves: the window as a plain byte store leaves it, and a request
exactly where the registers then hold one. -/
structure SysconStored (memory : Memory) (offset : Nat) (source : Bytes8) (byteLength : Nat) (after : Memory) :
    Prop where
  window : ∀ index < sysconGuestByteLength, sysconByte after index =
    if offset ≤ index ∧ index < offset + byteLength then byte source (index - offset) else sysconByte memory index
  published : after = (match sysconRequest after with
    | none => sysconPlainStore memory offset source byteLength
    | some level => publishWakeLevel (sysconPlainStore memory offset source byteLength)
        (memory.layout.syscon.hostIndex + sysconWakeOffset) level)
  request : sysconRequestWord after =
    if sysconPoweroff after = 1 then sysconRequestPoweroff
    else if sysconReboot after = 1 then sysconRequestReboot
    else sysconRequestWord memory

/-- The registers are outside the request word. -/
theorem publishWakeLevel_window (level : BitVec 32) (inside : index < sysconGuestByteLength) :
    sysconByte (publishWakeLevel memory (memory.layout.syscon.hostIndex + sysconWakeOffset) level) index =
      sysconByte memory index := by
  have window : sysconGuestByteLength = sysconWakeOffset := rfl
  exact Memory.store32_outside _ (.inl (by dsimp only [publishWakeLevel, Memory.store32_layout]; omega))

/-- The registers are words of the window. -/
theorem sysconWord_congr {other : Memory} (layout : other.layout = memory.layout)
    (same : ∀ index < sysconGuestByteLength, sysconByte other index = sysconByte memory index) (start : Nat)
    (inside : start + 4 ≤ sysconGuestByteLength) :
    other.load32 (other.layout.syscon.hostIndex + start) = memory.load32 (memory.layout.syscon.hostIndex + start) := by
  rw [layout]
  refine Memory.load32_congr fun offset early => ?_
  have loaded := same (start + offset) (by omega)
  rw [sysconByte, sysconByte, layout, ← Nat.add_assoc] at loaded
  exact loaded

variable {memory} in
theorem sysconRequest_congr {other : Memory} (layout : other.layout = memory.layout)
    (same : ∀ index < sysconGuestByteLength, sysconByte other index = sysconByte memory index) :
    sysconRequest other = sysconRequest memory := by
  have poweroff : sysconPoweroff other = sysconPoweroff memory :=
    sysconWord_congr memory layout same sysconPoweroffOffset (by decide)
  have reboot : sysconReboot other = sysconReboot memory :=
    sysconWord_congr memory layout same sysconRebootOffset (by decide)
  rw [sysconRequest, sysconRequest, poweroff, reboot]

/-- Publishing leaves the window and the layout alone, and the word holds what was asked for. -/
theorem publishSysconRequest_spec : (publishSysconRequest memory).layout = memory.layout ∧
    (∀ index < sysconGuestByteLength, sysconByte (publishSysconRequest memory) index = sysconByte memory index) ∧
    sysconRequestWord (publishSysconRequest memory) = (sysconRequest memory).getD (sysconRequestWord memory) := by
  rw [publishSysconRequest_eq]
  cases sysconRequest memory with
  | none => exact ⟨rfl, fun _ _ => rfl, rfl⟩
  | some level =>
    refine ⟨rfl, fun index inside => publishWakeLevel_window memory level inside, ?_⟩
    exact Memory.load32_store32 level

theorem sysconPlainStore_window (inside : index < sysconGuestByteLength) :
    sysconByte (sysconPlainStore memory offset source byteLength) index =
      if offset ≤ index ∧ index < offset + byteLength then byte source (index - offset)
      else sysconByte memory index := by
  have place : memory.layout.syscon.hostIndex + index - (memory.layout.syscon.hostIndex + offset) = index - offset := by
    omega
  rw [sysconByte, sysconByte, sysconPlainStore]
  dsimp only
  by_cases covered : offset ≤ index ∧ index < offset + byteLength
  · rw [if_pos covered, if_pos (by omega), place]
  · rw [if_neg covered, if_neg (by omega)]

theorem storeBytesToSyscon_stored :
    SysconStored memory offset source byteLength (storeBytesToSyscon memory offset source byteLength) := by
  rw [storeBytesToSyscon, storeSysconTurns_eq]
  have window (index : Nat) (inside : index < sysconGuestByteLength) :=
    sysconPlainStore_window memory offset source byteLength inside
  have word : sysconRequestWord (sysconPlainStore memory offset source byteLength) = sysconRequestWord memory := by
    refine Memory.load32_congr fun index early => ?_
    rw [sysconPlainStore]
    dsimp only
    exact if_neg fun reached => by
      have below := reached.2.2
      dsimp only [sysconGuestByteLength, sysconWakeOffset] at below
      omega
  have layout : (sysconPlainStore memory offset source byteLength).layout = memory.layout := rfl
  generalize plain : sysconPlainStore memory offset source byteLength = stored at window word layout ⊢
  obtain ⟨kept, same, request⟩ := publishSysconRequest_spec stored
  have asked := sysconRequest_congr kept same
  constructor
  · intro index inside
    rw [same index inside, window index inside]
  · rw [asked, plain, ← layout]
    exact publishSysconRequest_eq stored
  · rw [request, word, ← asked, sysconRequest]
    change _ = if sysconPoweroff (publishSysconRequest stored) = sysconPoweroffValue then sysconRequestPoweroff
      else if sysconReboot (publishSysconRequest stored) = sysconRebootValue then sysconRequestReboot
      else sysconRequestWord memory
    by_cases poweroff : sysconPoweroff (publishSysconRequest stored) = sysconPoweroffValue
    · rw [if_pos poweroff, if_pos poweroff]
      rfl
    rw [if_neg poweroff, if_neg poweroff]
    by_cases reboot : sysconReboot (publishSysconRequest stored) = sysconRebootValue
    · rw [if_pos reboot, if_pos reboot]
      rfl
    · rw [if_neg reboot, if_neg reboot]
      rfl

/-- A load reads the bytes of the window, and zeros past its end. -/
theorem byte_loadBytesFromSyscon (destination : Bytes8) (inside : index < 8) :
    byte (loadBytesFromSyscon memory destination offset byteLength) index =
      if index < byteLength then
        if offset + index < sysconGuestByteLength then sysconByte memory (offset + index) else 0
      else byte destination index := by
  rw [loadBytesFromSyscon]
  induction byteLength with
  | zero => rfl
  | succ byteLength ih =>
    have turn (value : BitVec 8) (before : Bytes8) : byte (setByte before byteLength value) index =
        if index = byteLength then value else byte before index := by
      by_cases fits : byteLength < 8
      · exact byte_setByte before value (by omega) index
      · rw [setByte_of_ge before value (by omega), if_neg (by omega)]
    rw [forEachIndex, loadSysconTurn]
    by_cases last : index = byteLength
    · subst last
      rw [if_pos (Nat.lt_succ_self index)]
      by_cases beyond : offset + index ≥ sysconGuestByteLength
      · rw [if_pos beyond, turn, if_pos rfl, if_neg (by omega)]
      · have quotient : (offset + index) >>> 2 = (offset + index) / 4 := Nat.shiftRight_eq_div_pow _ 2
        have remainder : (offset + index) &&& 3 = (offset + index) % 4 := Nat.and_two_pow_sub_one_eq_mod _ 2
        rw [if_neg beyond, turn, if_pos rfl, if_pos (by omega), quotient, remainder]
        refine (ByteStore.byte_word (Nat.mod_lt _ (by decide)) (by decide)).trans ?_
        rw [sysconByte]
        congr 1
        dsimp only [sysconRegisterBytes]
        omega
    · have same : index < byteLength + 1 ↔ index < byteLength := by omega
      simp only [same]
      rw [← ih]
      split
      · rw [turn, if_neg last]
      · rw [turn, if_neg last]

/-- The syscon window is eight plain bytes at every offset and length, and a store publishes a
request exactly where the registers hold one after it. -/
theorem syscon_registers :
    SysconStored memory offset source byteLength (storeBytesToSyscon memory offset source byteLength) ∧
    ∀ destination, ∀ index < 8, byte (loadBytesFromSyscon memory destination offset byteLength) index =
      if index < byteLength then
        if offset + index < sysconGuestByteLength then sysconByte memory (offset + index) else 0
      else byte destination index :=
  ⟨storeBytesToSyscon_stored memory offset source byteLength, fun destination _ inside =>
    byte_loadBytesFromSyscon memory offset byteLength destination inside⟩

end YaRiscV.Emulator
