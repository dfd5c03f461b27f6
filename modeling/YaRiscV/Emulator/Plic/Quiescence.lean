import YaRiscV.Emulator.Plic.OutputInvariant

/-! When driving a source or claiming leaves the whole buffer as it was: each operation
establishes facts that, where they hold already, make it change nothing. -/

namespace YaRiscV.Emulator

open YaRiscV.Library YaRiscV.Utils

variable {memory : Memory} {context : PlicContext}

theorem refreshContextWire_self (current : WireCurrent memory context) :
    refreshContextWire memory context = memory := by
  refine setIrqWire_self ?_ ?_
  · rw [current.wire]
    simp
  · rw [current.line]
    simp

theorem refreshAllContextWires_self (current : OutputsCurrent memory) : refreshAllContextWires memory = memory := by
  rw [refreshAllContextWires, refreshContextWire_self (current .machine), refreshContextWire_self (current .supervisor)]

/-- The bits `setPlicSourcePending` updates under the lock. -/
def sourceDriven (memory : Memory) (source : Nat) (level : Bool) : Memory :=
  let memory := updateSourceBit memory plicHostInputLevel source level
  if !level then updateSourceBit memory plicHostPending source false
  else if !isSourceClaimed memory source then updateSourceBit memory plicHostPending source true
  else memory

theorem setPlicSourcePending_eq (valid : isValidSource source = true) (level : Bool) :
    setPlicSourcePending memory source level = (withPlicGatewayLock memory fun memory =>
      ((), refreshAllContextWires (sourceDriven memory source level))).2 := by
  simp only [setPlicSourcePending, valid, Bool.not_true, Bool.false_eq_true, if_false]
  rfl

/-- The input level follows the device, and the source pends while it is high and unclaimed. -/
structure LevelLatched (memory : Memory) (source : Nat) (level : Bool) : Prop where
  input : isSourceBitSet memory plicHostInputLevel source = level
  lowered : level = false → isSourceBitSet memory plicHostPending source = false
  raised : level = true → isSourceClaimed memory source = true ∨ isSourceBitSet memory plicHostPending source = true

theorem LevelLatched.same (latched : LevelLatched memory source level) (same : SameRegisters memory after)
    (small : source < 32) : LevelLatched after source level := by
  constructor
  · rw [same.isSourceBitSet (by decide) small]
    exact latched.input
  · rw [same.isSourceBitSet (by decide) small]
    exact latched.lowered
  · rw [isSourceClaimed, same.isSourceBitSet (by decide) small, same.isSourceBitSet (by decide) small,
      same.isSourceBitSet (by decide) small]
    exact latched.raised

theorem sourceDriven_latched (memory : Memory) (small : source < 32) (level : Bool) :
    LevelLatched (sourceDriven memory source level) source level := by
  cases level with
  | false =>
    constructor
    · simp [sourceDriven, small]
    · simp [sourceDriven, small]
    · simp
  | true =>
    by_cases claimed : isSourceClaimed (updateSourceBit memory plicHostInputLevel source true) source = true
    · simp only [sourceDriven, claimed, Bool.not_true, Bool.false_eq_true, if_false]
      constructor
      · simp [small]
      · simp
      · exact fun _ => .inl claimed
    · simp only [sourceDriven, claimed, Bool.not_true, Bool.false_eq_true, if_false]
      constructor
      · simp [small]
      · simp
      · simp [small]

/-- Driving a source to the level it latched changes no bit. -/
theorem sourceDriven_self (latched : LevelLatched memory source level) : sourceDriven memory source level = memory := by
  simp only [sourceDriven, updateSourceBit_self latched.input]
  cases level with
  | false => exact updateSourceBit_self (latched.lowered rfl)
  | true =>
    simp only [Bool.not_true, Bool.false_eq_true, if_false]
    rcases latched.raised rfl with claimed | pending
    · rw [claimed]
      rfl
    · split
      · exact updateSourceBit_self pending
      · rfl

/-- What `setPlicSourcePending` establishes. -/
structure SourceSettled (memory : Memory) (source : Nat) (level : Bool) : Prop where
  lock : plicGatewayLock.Idle memory
  latched : LevelLatched memory source level
  outputs : OutputsCurrent memory

theorem sourceDriven_worker : (sourceDriven memory source level).worker = memory.worker := by
  simp only [sourceDriven]
  split
  · simp
  · split <;> simp

theorem setPlicSourcePending_settled (valid : isValidSource source = true) (level : Bool) :
    SourceSettled (setPlicSourcePending memory source level) source level := by
  have small := isValidSource_lt valid
  have outputs := setPlicSourcePending_current memory valid level
  rw [setPlicSourcePending_eq valid] at outputs ⊢
  refine ⟨SpinLock.hold_idle fun memory => ?_, ?_, outputs⟩
  · exact refreshAllContextWires_worker.trans sourceDriven_worker
  · have driven := sourceDriven_latched (acquirePlicGatewayLock memory) small level
    exact (driven.same (refreshAllContextWires_registers _) small).same (releasePlicGatewayLock_same _) small

/-- Driving a source changes nothing exactly where its level is settled already. -/
theorem setPlicSourcePending_self_iff (valid : isValidSource source = true) (level : Bool) :
    setPlicSourcePending memory source level = memory ↔ SourceSettled memory source level := by
  constructor
  · intro unchanged
    rw [← unchanged]
    exact setPlicSourcePending_settled valid level
  · intro settled
    have latched : LevelLatched (acquirePlicGatewayLock memory) source level :=
      settled.latched.same (acquirePlicGatewayLock_same memory) (isValidSource_lt valid)
    have outputs : OutputsCurrent (acquirePlicGatewayLock memory) := fun context => (settled.outputs context).acquire
    rw [setPlicSourcePending_eq valid, withPlicGatewayLock, SpinLock.hold]
    refine Eq.trans (congrArg plicGatewayLock.release ?_) (SpinLock.release_acquire_self settled.lock)
    exact (congrArg refreshAllContextWires (sourceDriven_self latched)).trans (refreshAllContextWires_self outputs)

/-- What a claim that finds nothing establishes. -/
structure NothingToClaim (memory : Memory) (context : PlicContext) : Prop where
  lock : plicGatewayLock.Idle memory
  selected : selectClaimableSource memory context = 0
  outputs : OutputsCurrent memory

theorem selectClaimableSource_acquire :
    selectClaimableSource (acquirePlicGatewayLock memory) context = selectClaimableSource memory context :=
  selectClaimableSource_frame acquirePlicGatewayLock_changesOnly fun position reached =>
    And.left (lock_selection _ position reached)

/-- A claimed source no longer pends. -/
theorem claimPlicSource_pending (selected : selectClaimableSource memory context ≠ 0) :
    isSourceBitSet memory plicHostPending (selectClaimableSource memory context) = true ∧
      isSourceBitSet (claimPlicSource memory context).2 plicHostPending
        (selectClaimableSource memory context) = false := by
  have best := selectClaimableSource_best selected
  have small := isValidSource_lt (mem_sources.mp best.member)
  have eligible := best.eligible
  simp only [claimable, Bool.and_eq_true] at eligible
  refine ⟨eligible.1.1, ?_⟩
  simp only [claimPlicSource, withPlicGatewayLock, SpinLock.hold]
  refine (isSourceBitSet_release (by decide) small).trans ((isSourceBitSet_refreshAll (by decide) small).trans ?_)
  have same : selectClaimableSource (plicGatewayLock.acquire memory) context = selectClaimableSource memory context :=
    selectClaimableSource_acquire
  rw [same, if_pos selected]
  cases context <;> simp [small, claimedByHostOffset]

theorem claimPlicSource_layout : (claimPlicSource memory context).2.layout = memory.layout := by
  simp only [claimPlicSource, withPlicGatewayLock, SpinLock.hold, SpinLock.release_layout,
    refreshAllContextWires_layout]
  split <;> simp

theorem claimPlicSource_worker : (claimPlicSource memory context).2.worker = memory.worker := by
  refine withPlicGatewayLock_worker fun memory => ?_
  dsimp only
  rw [refreshAllContextWires_worker]
  split <;> simp

/-- A claim changes nothing exactly where there is nothing to claim and all is settled. -/
theorem claimPlicSource_self_iff : (claimPlicSource memory context).2 = memory ↔ NothingToClaim memory context := by
  constructor
  · intro unchanged
    have outputs := claimPlicSource_current memory context
    have lock : plicGatewayLock.Idle (claimPlicSource memory context).2 := by
      refine SpinLock.hold_idle fun memory => ?_
      dsimp only
      rw [refreshAllContextWires_worker]
      split <;> simp
    rw [unchanged] at outputs lock
    refine ⟨lock, ?_, outputs⟩
    by_contra selected
    obtain ⟨before, after⟩ := claimPlicSource_pending selected
    rw [unchanged, before] at after
    cases after
  · intro settled
    have outputs : OutputsCurrent (acquirePlicGatewayLock memory) := fun context => (settled.outputs context).acquire
    have selected : selectClaimableSource (plicGatewayLock.acquire memory) context = 0 :=
      selectClaimableSource_acquire.trans settled.selected
    simp only [claimPlicSource, withPlicGatewayLock, SpinLock.hold, selected, ne_eq, not_true_eq_false, if_false]
    exact Eq.trans (congrArg plicGatewayLock.release (refreshAllContextWires_self outputs))
      (SpinLock.release_acquire_self settled.lock)

/-! Loads of the window. -/

/-- The context whose claim register has its low byte at an address. -/
def claimedContext (memory : Memory) (address : Bytes8) : Option PlicContext :=
  match plicAddressToLocation memory address with
  | some (.claim context 0) => some context
  | _ => none

theorem loadPlicByte_effect (memory : Memory) (address : Bytes8) :
    (loadPlicByte memory address).2 =
      match claimedContext memory address with
      | some context => (claimPlicSource memory context).2
      | none => memory := by
  simp only [loadPlicByte, claimedContext]
  cases plicAddressToLocation memory address with
  | none => rfl
  | some location =>
    cases location with
    | host location =>
      dsimp only
      split <;> rfl
    | claim context byteOffset =>
      cases byteOffset with
      | zero => rfl
      | succ byteOffset => rfl

theorem claimedContext_congr (layout : after.layout = memory.layout) (address : Bytes8) :
    claimedContext after address = claimedContext memory address := by
  rw [claimedContext, claimedContext, plicAddressToLocation, plicAddressToLocation, layout]

/-- The guest offset of each claim register. -/
def claimOffset : PlicContext → Nat
  | .machine => plicClaimMOffset
  | .supervisor => plicClaimSOffset

/-- An offset decoded as a claim lies in the claim register of its context. -/
theorem plicOffsetToLocation_claim (decoded : plicOffsetToLocation offset = some (.claim context byteOffset)) :
    offset = claimOffset context + byteOffset := by
  have whole : andNot offset.toNat 3 + (offset.toNat &&& 3) = offset.toNat := Nat.sub_add_cancel Nat.and_le_left
  rw [plicOffsetToLocation] at decoded
  split at decoded
  · cases decoded
  rename_i window
  suffices found : andNot offset.toNat 3 = claimOffset context ∧ offset.toNat &&& 3 = byteOffset by
    rw [found.1, found.2] at whole
    omega
  dsimp only at decoded
  generalize andNot offset.toNat 3 = register at decoded ⊢
  generalize offset.toNat &&& 3 = byte at decoded ⊢
  repeat' split at decoded
  all_goals cases decoded
  all_goals exact ⟨by assumption, rfl⟩

theorem claimedContext_some (claimed : claimedContext memory address = some context) :
    address.toNat = memory.layout.plic.guestAddress.toNat + claimOffset context := by
  rw [claimedContext] at claimed
  split at claimed
  · rename_i found
    cases claimed
    have offset := plicOffsetToLocation_claim found
    rw [bytesToBigInt_eq, bytesToBigInt_eq] at offset
    omega
  · cases claimed

/-- Of four bytes in a row at most one is the low byte of a claim register. -/
theorem claimedContext_once (claimed : claimedContext memory (address + BitVec.ofNat 64 first) = some context)
    (later : first < second) (close : second < 4) :
    claimedContext memory (address + BitVec.ofNat 64 second) = none := by
  rw [Option.eq_none_iff_forall_ne_some]
  intro other again
  have one := claimedContext_some claimed
  have two := claimedContext_some again
  have apart : claimOffset context = claimOffset other ∨ claimOffset context + 0x1000 = claimOffset other ∨
      claimOffset other + 0x1000 = claimOffset context := by
    cases context <;> cases other <;> decide
  rw [BitVec.toNat_add, BitVec.toNat_ofNat] at one two
  have bounded := address.isLt
  omega

/-- What loads of consecutive bytes leave: at most one claim took place. -/
theorem loadPlicTurns_effect (memory : Memory) (destination address : Bytes8) (few : count ≤ 4) :
    ∃ loaded, forEachIndex loadPlicTurn count (destination, memory, address) =
      (loaded, (match (List.range count).findSome? fun index =>
          claimedContext memory (address + BitVec.ofNat 64 index) with
        | some context => (claimPlicSource memory context).2
        | none => memory), address + BitVec.ofNat 64 count) := by
  induction count with
  | zero => exact ⟨destination, by simp [forEachIndex]⟩
  | succ count ih =>
    obtain ⟨loaded, turns⟩ := ih (by omega)
    have next : addBytes (address + BitVec.ofNat 64 count) oneByte = address + BitVec.ofNat 64 (count + 1) := by
      have one : oneByte = 1 := by decide
      rw [addBytes_eq, one, BitVec.add_assoc]
      congr 1
      apply BitVec.eq_of_toNat_eq
      simp
    have turn (destination : Bytes8) (memory : Memory) (cursor : Bytes8) :
        loadPlicTurn count (destination, memory, cursor) =
          (setByte destination count (loadPlicByte memory cursor).1, (loadPlicByte memory cursor).2,
            addBytes cursor oneByte) := rfl
    rw [forEachIndex, turns, turn, next, List.range_succ, List.findSome?_append, loadPlicByte_effect]
    refine ⟨_, Prod.ext rfl (Prod.ext ?_ rfl)⟩
    dsimp only
    cases earlier : (List.range count).findSome? fun index =>
        claimedContext memory (address + BitVec.ofNat 64 index) with
    | none =>
      simp
    | some context =>
      obtain ⟨index, member, claimed⟩ := List.exists_of_findSome?_eq_some earlier
      rw [claimedContext_congr claimPlicSource_layout, claimedContext_once claimed (List.mem_range.mp member) (by omega)]
      rfl

/-- The state in which loads of the four bytes from `address` claim nothing and change nothing. -/
def PlicLoadSettled (memory : Memory) (address : Bytes8) : Prop :=
  ∀ index < 4, ∀ context, claimedContext memory (address + BitVec.ofNat 64 index) = some context →
    NothingToClaim memory context

/-- The buffer alone tells whether a claim changed anything. -/
theorem claimPlicSource_bytes_iff :
    (claimPlicSource memory context).2.bytes = memory.bytes ↔ NothingToClaim memory context := by
  rw [← claimPlicSource_self_iff]
  constructor
  · exact fun same => Memory.ext claimPlicSource_layout same claimPlicSource_worker
  · exact fun same => congrArg Memory.bytes same

theorem loadBytesFromPlic_bytes_iff (destination address : Bytes8) :
    (loadBytesFromPlic destination memory address 4).2.bytes = memory.bytes ↔ PlicLoadSettled memory address := by
  obtain ⟨loaded, turns⟩ := loadPlicTurns_effect memory destination address (Nat.le_refl 4)
  rw [loadBytesFromPlic, turns]
  dsimp only
  cases claims : (List.range 4).findSome? fun index =>
      claimedContext memory (address + BitVec.ofNat 64 index) with
  | none =>
    simp only [true_iff]
    intro index inside context claimed
    have absent := List.findSome?_eq_none_iff.mp claims index (List.mem_range.mpr inside)
    rw [absent] at claimed
    cases claimed
  | some context =>
    obtain ⟨index, member, claimed⟩ := List.exists_of_findSome?_eq_some claims
    rw [claimPlicSource_bytes_iff]
    constructor
    · intro settled other inside again found
      rcases Nat.lt_trichotomy index other with later | rfl | earlier
      · rw [claimedContext_once claimed later inside] at found
        cases found
      · rw [claimed] at found
        cases found
        exact settled
      · rw [claimedContext_once found earlier (List.mem_range.mp member)] at claimed
        cases claimed
    · exact fun settled => settled index (List.mem_range.mp member) context claimed

end YaRiscV.Emulator
