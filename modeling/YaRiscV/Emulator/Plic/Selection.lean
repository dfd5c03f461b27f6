import YaRiscV.Library.Selection
import YaRiscV.Emulator.Plic.Gateway

/-! What the gateway reads: source bits and register words depend on the registers
only, and the selection loop returns the best claimable source. -/

namespace YaRiscV.Emulator

open YaRiscV.Library

variable {memory after : Memory}

def SameRegisters (before after : Memory) : Prop :=
  ChangesOnly (fun position => ¬ InPlicRegisters before.layout position) before after

theorem SameRegisters.bytes (same : SameRegisters memory after)
    (inside : InPlicRegisters memory.layout position) : after.bytes position = memory.bytes position :=
  ChangesOnly.bytes same position (not_not_intro inside)

theorem SameRegisters.trans (first : SameRegisters memory middle) (second : SameRegisters middle after) :
    SameRegisters memory after := by
  have layout : middle.layout = memory.layout := ChangesOnly.layout first
  rw [SameRegisters, layout] at second
  exact ChangesOnly.trans first second

theorem acquirePlicGatewayLock_same (memory : Memory) : SameRegisters memory (acquirePlicGatewayLock memory) :=
  acquirePlicGatewayLock_changesOnly.mono fun _ => InPlicLock.not_registers

theorem releasePlicGatewayLock_same (memory : Memory) : SameRegisters memory (releasePlicGatewayLock memory) :=
  releasePlicGatewayLock_changesOnly.mono fun _ => InPlicLock.not_registers

theorem resetPlicGatewayLock_same (memory : Memory) : SameRegisters memory (resetPlicGatewayLock memory) :=
  resetPlicGatewayLock_changesOnly.mono fun _ => InPlicLock.not_registers

theorem shift_small (small : source < 32) : source >>> 3 < 4 := by
  rw [Nat.shiftRight_eq_div_pow]
  omega

theorem SameRegisters.isSourceBitSet (same : SameRegisters memory after)
    (inside : hostOffset + 4 ≤ 160) (small : source < 32) :
    isSourceBitSet after hostOffset source = isSourceBitSet memory hostOffset source := by
  have byte := shift_small small
  have kept : after.bytes (plicHostIndexForSourceBit memory hostOffset source) =
      memory.bytes (plicHostIndexForSourceBit memory hostOffset source) := by
    apply same.bytes
    simp [InPlicRegisters, plicHostIndexForSourceBit, plicHostIndex]
    omega
  simp only [Emulator.isSourceBitSet, atomicLoadBit, plicHostIndexForSourceBit, plicHostIndex, same.layout] at kept ⊢
  rw [kept]

@[simp] theorem isSourceBitSet_acquire (inside : hostOffset + 4 ≤ 160) (small : source < 32) :
    isSourceBitSet (acquirePlicGatewayLock memory) hostOffset source = isSourceBitSet memory hostOffset source :=
  (acquirePlicGatewayLock_same memory).isSourceBitSet inside small

@[simp] theorem isSourceBitSet_release (inside : hostOffset + 4 ≤ 160) (small : source < 32) :
    isSourceBitSet (releasePlicGatewayLock memory) hostOffset source = isSourceBitSet memory hostOffset source :=
  (releasePlicGatewayLock_same memory).isSourceBitSet inside small

@[simp] theorem isSourceBitSet_refreshAll (inside : hostOffset + 4 ≤ 160)
    (small : source < 32) :
    isSourceBitSet (refreshAllContextWires memory) hostOffset source = isSourceBitSet memory hostOffset source :=
  SameRegisters.isSourceBitSet (refreshAllContextWires_registers memory) inside small

/-- Two source bits of the aligned bitfields are one bit exactly when field and source agree. -/
@[simp] theorem isSourceBitSet_updateSourceBit (aligned : hostOffset % 4 = 0) (alignedOther : otherOffset % 4 = 0)
    (small : source < 32) (smallOther : other < 32) :
    isSourceBitSet (updateSourceBit memory hostOffset source value) otherOffset other =
      if otherOffset = hostOffset ∧ other = source then value else isSourceBitSet memory otherOffset other := by
  have low (number : Nat) : number &&& 7 = number % 8 := Nat.and_two_pow_sub_one_eq_mod number 3
  have high (number : Nat) : number >>> 3 = number / 8 := Nat.shiftRight_eq_div_pow number 3
  have place : (plicHostIndexForSourceBit memory otherOffset other =
        plicHostIndexForSourceBit memory hostOffset source ∧ other &&& 7 = source &&& 7) ↔
      (otherOffset = hostOffset ∧ other = source) := by
    simp only [plicHostIndexForSourceBit, plicHostIndex, low, high]
    omega
  have layout : plicHostIndexForSourceBit (updateSourceBit memory hostOffset source value) otherOffset other =
      plicHostIndexForSourceBit memory otherOffset other := by
    simp only [plicHostIndexForSourceBit, plicHostIndex, updateSourceBit_layout]
  have bound : other &&& 7 < 8 := by
    rw [low]
    omega
  simp only [isSourceBitSet, layout]
  rw [updateSourceBit, atomicLoadBit_update _ _ _ _ _ _ bound]
  simp only [place]

theorem updateSourceBit_self (same : isSourceBitSet memory hostOffset source = value) :
    updateSourceBit memory hostOffset source value = memory :=
  atomicUpdateBit_self same

/-- The sources a claim by `context` may return. -/
def claimable (memory : Memory) (context : PlicContext) (source : Nat) : Bool :=
  isSourceBitSet memory plicHostPending source && isSourceBitSet memory (enableHostOffset context) source &&
    decide (memory.load32 (plicHostIndex memory (thresholdHostOffset context)) <
      memory.load32 (plicHostIndex memory (source * 4)))

def sourcePriority (memory : Memory) (source : Nat) : Nat :=
  (memory.load32 (plicHostIndex memory (source * 4))).toNat

/-- The loop's two variables as an optional source. -/
def ClaimSelection.Holds (memory : Memory) (selection : ClaimSelection) : Option Nat → Prop
  | none => selection = {}
  | some source => 0 < source ∧ selection.bestSource = source ∧
      selection.bestPriority = memory.load32 (plicHostIndex memory (source * 4))

theorem considerSource_holds {best : Option Nat} {selection : ClaimSelection}
    (holds : selection.Holds memory best) (later : ∀ current ∈ best, current < source) (positive : 0 < source) :
    (considerSource memory context (memory.load32 (plicHostIndex memory (thresholdHostOffset context)))
      selection source).Holds memory
      (keepBest (claimable memory context) (sourcePriority memory) best source) := by
  rw [considerSource, keepBest.eq_def, claimable]
  cases pending : isSourceBitSet memory plicHostPending source with
  | false => simpa [pending] using holds
  | true =>
    cases enabled : isSourceBitSet memory (enableHostOffset context) source with
    | false => simpa [pending, enabled] using holds
    | true =>
      by_cases above : memory.load32 (plicHostIndex memory (thresholdHostOffset context)) <
          memory.load32 (plicHostIndex memory (source * 4))
      · have notBelow := BitVec.not_le.mpr above
        simp only [above, notBelow, Bool.not_true, Bool.or_self, Bool.false_eq_true,
          ↓reduceIte, decide_true, Bool.and_self]
        cases best with
        | none =>
          simp only [ClaimSelection.Holds] at holds
          subst holds
          simp [ClaimSelection.Holds, positive]
        | some current =>
          obtain ⟨currentPositive, same, priority⟩ := holds
          have nonzero : selection.bestSource ≠ 0 := by omega
          have earlier : ¬ source < selection.bestSource := by
            have := later current rfl
            omega
          have order : sourcePriority memory current < sourcePriority memory source ↔
              memory.load32 (plicHostIndex memory (current * 4)) <
                memory.load32 (plicHostIndex memory (source * 4)) := Iff.rfl
          simp only [nonzero, earlier, and_false, or_false, false_or, priority, gt_iff_lt]
          by_cases lower : sourcePriority memory current < sourcePriority memory source
          · rw [if_pos (order.mp lower), if_pos lower]
            exact ⟨positive, rfl, rfl⟩
          · rw [if_neg (fun less => lower (order.mpr less)), if_neg lower]
            exact ⟨currentPositive, same, priority⟩
      · have below := BitVec.not_lt.mp above
        simpa [pending, enabled, above, below] using holds

theorem selection_holds (memory : Memory) (context : PlicContext) (ascending : sources.Pairwise (· < ·))
    (positive : ∀ source ∈ sources, 0 < source) :
    ClaimSelection.Holds memory (sources.foldl (considerSource memory context
      (memory.load32 (plicHostIndex memory (thresholdHostOffset context)))) {})
      (selectBest (claimable memory context) (sourcePriority memory) sources) := by
  induction sources using List.reverseRecOn with
  | nil => rfl
  | append_singleton sources last ih =>
    obtain ⟨earlier, _, below⟩ := List.pairwise_append.mp ascending
    rw [selectBest_append, List.foldl_append]
    refine considerSource_holds (ih earlier fun source member => positive source (by simp [member])) ?_
      (positive last (by simp))
    intro current selected
    exact below _ (selectBest_some earlier selected).member last (by simp)

theorem mem_sources : source ∈ List.range' 1 plicMaxSource ↔ isValidSource source = true := by
  simp only [List.mem_range'_1, isValidSource, Bool.and_eq_true, decide_eq_true_eq]
  omega

theorem isValidSource_lt (valid : isValidSource source = true) : source < 32 := by
  have bound : plicMaxSource = 31 := rfl
  simp only [isValidSource, Bool.and_eq_true, decide_eq_true_eq] at valid
  omega

/-- A nonzero selection is the best claimable source. -/
theorem selectClaimableSource_best (selected : selectClaimableSource memory context ≠ 0) :
    IsBest (claimable memory context) (sourcePriority memory) (List.range' 1 plicMaxSource)
      (selectClaimableSource memory context) := by
  have ascending : (List.range' 1 plicMaxSource).Pairwise (· < ·) := by decide
  have holds := selection_holds memory context ascending
    (fun source member => (List.mem_range'_1.mp member).1)
  cases best : selectBest (claimable memory context) (sourcePriority memory) (List.range' 1 plicMaxSource) with
  | none =>
    rw [best] at holds
    exact absurd (congrArg ClaimSelection.bestSource holds) selected
  | some source =>
    rw [best] at holds
    have same : selectClaimableSource memory context = source := holds.2.1
    rw [same]
    exact selectBest_some ascending best

/-- The selection is 0 exactly when nothing is claimable. -/
theorem selectClaimableSource_zero : selectClaimableSource memory context = 0 ↔
    ∀ source, isValidSource source = true → claimable memory context source = false := by
  have ascending : (List.range' 1 plicMaxSource).Pairwise (· < ·) := by decide
  have holds := selection_holds memory context ascending
    (fun source member => (List.mem_range'_1.mp member).1)
  cases best : selectBest (claimable memory context) (sourcePriority memory) (List.range' 1 plicMaxSource) with
  | none =>
    rw [best] at holds
    have zero : selectClaimableSource memory context = 0 := congrArg ClaimSelection.bestSource holds
    have absent := selectBest_none.mp best
    simp only [zero, true_iff]
    exact fun source valid => absent source (mem_sources.mpr valid)
  | some source =>
    rw [best] at holds
    have same : selectClaimableSource memory context = source := holds.2.1
    have positive : 0 < source := holds.1
    have chosen := selectBest_some ascending best
    constructor
    · intro zero
      omega
    · intro none
      have absent := none source (mem_sources.mp chosen.member)
      rw [chosen.eligible] at absent
      cases absent

end YaRiscV.Emulator
