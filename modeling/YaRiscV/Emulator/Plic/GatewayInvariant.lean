import YaRiscV.Library.LevelGateway
import YaRiscV.Emulator.Plic.Selection
import YaRiscV.Emulator.Plic.Memory
import YaRiscV.Emulator.Machine

/-! The PLIC's bitfields refine a level-triggered gateway, in every run of the device. -/

namespace YaRiscV.Emulator

open YaRiscV.Library YaRiscV.Utils Relation

/-- The bitfields spell out a gateway over the sources 1 to 31. -/
structure Represents (memory : Memory) (gateway : Gateway Nat PlicContext) : Prop where
  level : ∀ source, isValidSource source = true →
    isSourceBitSet memory plicHostInputLevel source = gateway.asserted source
  claimedByM : ∀ source, isValidSource source = true →
    (isSourceBitSet memory plicHostClaimedByM source = true ↔ gateway.servedBy source = some .machine)
  claimedByS : ∀ source, isValidSource source = true →
    (isSourceBitSet memory plicHostClaimedByS source = true ↔ gateway.servedBy source = some .supervisor)
  pending : ∀ source, isValidSource source = true →
    isSourceBitSet memory plicHostPending source = gateway.pending source

variable {memory after : Memory} {gateway : Gateway Nat PlicContext}

/-- The bytes of the gateway's bitfields. -/
def InPlicGateway (layout : Layout) (position : Nat) : Prop :=
  (layout.plic.hostIndex + plicHostPending ≤ position ∧
    position < layout.plic.hostIndex + plicHostEnableM) ∨
  (layout.plic.hostIndex + plicHostClaimedByM ≤ position ∧
    position < layout.plic.hostIndex + plicHostMeipWireOffset)

theorem Represents.frame (represents : Represents memory gateway)
    (changes : ChangesOnly touched memory after)
    (apart : ∀ position, touched position → ¬ InPlicGateway memory.layout position) :
    Represents after gateway := by
  have kept (hostOffset : Nat) (field : hostOffset = 128 ∨ 148 ≤ hostOffset ∧ hostOffset ≤ 156)
      (source : Nat) (valid : isValidSource source = true) :
      isSourceBitSet after hostOffset source = isSourceBitSet memory hostOffset source := by
    have small := shift_small (isValidSource_lt valid)
    simp only [isSourceBitSet, atomicLoadBit, plicHostIndexForSourceBit, plicHostIndex, changes.layout]
    rw [changes.bytes]
    intro inside
    apply apart _ inside
    simp [InPlicGateway]
    omega
  constructor
  · intro source valid
    rw [kept _ (by simp) source valid, represents.level source valid]
  · intro source valid
    rw [kept _ (by simp) source valid, represents.claimedByM source valid]
  · intro source valid
    rw [kept _ (by simp) source valid, represents.claimedByS source valid]
  · intro source valid
    rw [kept _ (by simp) source valid, represents.pending source valid]

theorem Represents.same (represents : Represents memory gateway) (same : SameRegisters memory after) :
    Represents after gateway := by
  refine represents.frame same fun position outside inside => outside ?_
  simp [InPlicGateway, InPlicRegisters] at *
  omega

/-- A locked section may be judged by its body alone. -/
theorem Represents.locked {run : Memory → Result × Memory}
    (body : Represents (run (acquirePlicGatewayLock memory)).2 gateway) :
    Represents (withPlicGatewayLock memory run).2 gateway :=
  body.same (releasePlicGatewayLock_same _)

theorem Represents.acquire (represents : Represents memory gateway) :
    Represents (acquirePlicGatewayLock memory) gateway :=
  represents.same (acquirePlicGatewayLock_same memory)

theorem Represents.refreshAll (represents : Represents memory gateway) :
    Represents (refreshAllContextWires memory) gateway :=
  represents.same (refreshAllContextWires_registers memory)

theorem isSourceClaimed_eq (represents : Represents memory gateway) (valid : isValidSource source = true) :
    isSourceClaimed memory source = (gateway.servedBy source).isSome := by
  have machine := represents.claimedByM source valid
  have supervisor := represents.claimedByS source valid
  rw [isSourceClaimed, Bool.eq_iff_iff, Bool.or_eq_true, machine, supervisor]
  cases gateway.servedBy source with
  | none => simp
  | some context => cases context <;> simp

/-- The input level moves the line and, for an idle source, what is presented. -/
theorem Represents.drive (represents : Represents memory gateway) (valid : isValidSource source = true)
    (level : Bool) :
    Represents
      (updateSourceBit (updateSourceBit memory plicHostInputLevel source level) plicHostPending source
        (level && (gateway.servedBy source).isNone))
      (gateway.drive source level) := by
  have small := isValidSource_lt valid
  constructor
  · intro other validOther
    have old := represents.level other validOther
    by_cases same : other = source <;>
      simp_all [isValidSource_lt validOther, Gateway.drive]
  · intro other validOther
    have old := represents.claimedByM other validOther
    simp_all [isValidSource_lt validOther, Gateway.drive]
  · intro other validOther
    have old := represents.claimedByS other validOther
    simp_all [isValidSource_lt validOther, Gateway.drive]
  · intro other validOther
    have old := represents.pending other validOther
    rw [Gateway.pending_drive]
    by_cases same : other = source <;>
      simp_all [isValidSource_lt validOther]

theorem Represents.take (represents : Represents memory gateway) (valid : isValidSource source = true)
    (idle : gateway.servedBy source = none) (context : PlicContext) :
    Represents
      (updateSourceBit (updateSourceBit memory plicHostPending source false)
        (claimedByHostOffset context) source true)
      (gateway.claim context source) := by
  have small := isValidSource_lt valid
  constructor
  · intro other validOther
    have old := represents.level other validOther
    cases context <;> simp_all [isValidSource_lt validOther, Gateway.claim, claimedByHostOffset]
  · intro other validOther
    have old := represents.claimedByM other validOther
    cases context <;> by_cases same : other = source <;>
      simp_all [isValidSource_lt validOther, Gateway.claim, claimedByHostOffset]
  · intro other validOther
    have old := represents.claimedByS other validOther
    cases context <;> by_cases same : other = source <;>
      simp_all [isValidSource_lt validOther, Gateway.claim, claimedByHostOffset]
  · intro other validOther
    have old := represents.pending other validOther
    rw [Gateway.pending_claim]
    cases context <;> by_cases same : other = source <;>
      simp_all [isValidSource_lt validOther, claimedByHostOffset]

theorem Represents.giveBack (represents : Represents memory gateway) (valid : isValidSource source = true)
    (serving : gateway.servedBy source = some context) :
    Represents
      (updateSourceBit (updateSourceBit memory (claimedByHostOffset context) source false)
        plicHostPending source (gateway.asserted source))
      (gateway.complete context source) := by
  have small := isValidSource_lt valid
  constructor
  · intro other validOther
    have old := represents.level other validOther
    cases context <;> simp_all [isValidSource_lt validOther, Gateway.complete, claimedByHostOffset]
  · intro other validOther
    have old := represents.claimedByM other validOther
    cases context <;> by_cases same : other = source <;>
      simp_all [isValidSource_lt validOther, Gateway.complete, claimedByHostOffset]
  · intro other validOther
    have old := represents.claimedByS other validOther
    cases context <;> by_cases same : other = source <;>
      simp_all [isValidSource_lt validOther, Gateway.complete, claimedByHostOffset]
  · intro other validOther
    have old := represents.pending other validOther
    rw [Gateway.pending_complete serving]
    cases context <;> by_cases same : other = source <;>
      simp_all [isValidSource_lt validOther, claimedByHostOffset]

theorem setPlicSourcePending_represents (represents : Represents memory gateway)
    (valid : isValidSource source = true) (level : Bool) :
    Represents (setPlicSourcePending memory source level) (gateway.drive source level) := by
  have small := isValidSource_lt valid
  have start := represents.acquire
  have driven := (start.drive valid level).refreshAll
  simp only [setPlicSourcePending, valid, Bool.not_true, Bool.false_eq_true, ↓reduceIte]
  apply Represents.locked
  have claimed : isSourceClaimed
      (updateSourceBit (acquirePlicGatewayLock memory) plicHostInputLevel source level) source =
      (gateway.servedBy source).isSome := by
    rw [← isSourceClaimed_eq start valid, isSourceClaimed, isSourceClaimed]
    simp [small]
  cases level with
  | false =>
    simp only [Bool.false_and, Bool.not_false, ↓reduceIte] at driven ⊢
    exact driven
  | true =>
    simp only [Bool.true_and, Bool.not_true, Bool.false_eq_true, ↓reduceIte, claimed] at driven ⊢
    cases serving : gateway.servedBy source with
    | none =>
      simp only [serving, Option.isNone_none, Option.isSome_none, Bool.not_false, ↓reduceIte] at driven ⊢
      exact driven
    | some context =>
      have absent : isSourceBitSet
          (updateSourceBit (acquirePlicGatewayLock memory) plicHostInputLevel source true)
          plicHostPending source = false := by
        have old := start.pending source valid
        simpa [small, Gateway.pending, serving] using old
      simp only [serving, Option.isNone_some, updateSourceBit_self absent] at driven
      simp only [Option.isSome_some, Bool.not_true, Bool.false_eq_true, ↓reduceIte]
      exact driven

/-- A claim takes the idle source it returns into service, or finds nothing. -/
theorem claimPlicSource_represents (represents : Represents memory gateway) (context : PlicContext) :
    Represents (claimPlicSource memory context).2
      (if (claimPlicSource memory context).1 = 0 then gateway
        else gateway.claim context (claimPlicSource memory context).1) := by
  have start := represents.acquire
  have result : (claimPlicSource memory context).1 =
      selectClaimableSource (acquirePlicGatewayLock memory) context := rfl
  rw [result]
  apply Represents.locked
  apply Represents.refreshAll
  by_cases nothing : selectClaimableSource (acquirePlicGatewayLock memory) context = 0
  · simp only [nothing, ne_eq, not_true_eq_false, ↓reduceIte]
    exact start
  · have best := selectClaimableSource_best nothing
    have valid := mem_sources.mp best.member
    have eligible := best.eligible
    simp only [claimable, start.pending _ valid, Gateway.pending, Bool.and_eq_true,
      Option.isNone_iff_eq_none] at eligible
    simp only [nothing, ne_eq, not_false_eq_true, ↓reduceIte]
    exact start.take valid eligible.1.1.2 context

theorem completePlicSource_represents (represents : Represents memory gateway)
    (valid : isValidSource source = true) (context : PlicContext) :
    Represents (completePlicSource memory context source) (gateway.complete context source) := by
  have small := isValidSource_lt valid
  have start := represents.acquire
  have claimed : isSourceBitSet (acquirePlicGatewayLock memory) (claimedByHostOffset context) source = true ↔
      gateway.servedBy source = some context := by
    cases context with
    | machine => exact start.claimedByM source valid
    | supervisor => exact start.claimedByS source valid
  simp only [completePlicSource, valid, Bool.not_true, Bool.false_eq_true, ↓reduceIte]
  apply Represents.locked
  by_cases serving : gateway.servedBy source = some context
  · have returned := (start.giveBack valid serving).refreshAll
    have level : isSourceBitSet (updateSourceBit (acquirePlicGatewayLock memory)
        (claimedByHostOffset context) source false) plicHostInputLevel source = gateway.asserted source := by
      rw [← start.level source valid]
      cases context <;> simp [claimedByHostOffset, small]
    simp only [claimed.mpr serving, level, Bool.not_true, Bool.false_eq_true, ↓reduceIte]
    cases asserted : gateway.asserted source with
    | true =>
      simp only [asserted, ↓reduceIte] at returned ⊢
      exact returned
    | false =>
      have absent : isSourceBitSet (updateSourceBit (acquirePlicGatewayLock memory)
          (claimedByHostOffset context) source false) plicHostPending source = false := by
        have old := start.pending source valid
        cases context <;> simpa [claimedByHostOffset, small, Gateway.pending, asserted] using old
      rw [asserted, updateSourceBit_self absent] at returned
      simp only [Bool.false_eq_true, ↓reduceIte]
      exact returned
  · rw [Gateway.complete_other serving]
    have missed : isSourceBitSet (acquirePlicGatewayLock memory) (claimedByHostOffset context) source = false :=
      Bool.eq_false_iff.mpr fun set => serving (claimed.mp set)
    simp only [missed, Bool.not_false, ↓reduceIte]
    exact start

theorem PlicHostLocation.Inside.apart {location : PlicHostLocation} (inside : location.Inside)
    (stored : ∀ byteOffset, location ≠ .pending byteOffset) :
    ¬ InPlicGateway memory.layout (plicHostIndexForLocation memory location) := by
  cases location with
  | priority source byteOffset =>
    simp [InPlicGateway, plicHostIndexForLocation, plicHostIndex, PlicHostLocation.Inside] at *
    omega
  | pending byteOffset => exact absurd rfl (stored byteOffset)
  | enable context byteOffset =>
    cases context <;>
      simp [InPlicGateway, plicHostIndexForLocation, plicHostIndex, PlicHostLocation.Inside,
        enableHostOffset] at * <;> omega
  | threshold context byteOffset =>
    cases context <;>
      simp [InPlicGateway, plicHostIndexForLocation, plicHostIndex, PlicHostLocation.Inside,
        thresholdHostOffset] at * <;> omega

theorem Represents.storeRegister (represents : Represents memory gateway) (location : PlicHostLocation)
    (inside : location.Inside) (stored : ∀ byteOffset, location ≠ .pending byteOffset) (value : BitVec 8) :
    Represents ((acquirePlicGatewayLock memory).store (plicHostIndexForLocation memory location) value)
      gateway := by
  refine represents.acquire.frame (ChangesOnly.store_at value) ?_
  rintro _ rfl
  rw [acquirePlicGatewayLock_layout]
  exact inside.apart stored

theorem PlicByteStore.represents (represents : Represents memory gateway) (stored : PlicByteStore memory after) :
    ∃ next, Represents after next := by
  cases stored with
  | ignored => exact ⟨gateway, represents⟩
  | priority source byteOffset inside value =>
    exact ⟨gateway, Represents.locked (represents.storeRegister _ inside (by simp) value).refreshAll⟩
  | enable context byteOffset inside value =>
    have body := represents.storeRegister (.enable context byteOffset) inside (by simp) value
    exact ⟨gateway, Represents.locked (body.same (refreshContextWire_registers _ context))⟩
  | threshold context byteOffset inside value =>
    have body := represents.storeRegister (.threshold context byteOffset) inside (by simp) value
    exact ⟨gateway, Represents.locked (body.same (refreshContextWire_registers _ context))⟩
  | complete context source valid => exact ⟨_, completePlicSource_represents represents valid context⟩

/-- One operation on the PLIC, by a device, the host or a guest access of any width. The
byte-wise constructors reach the states inside a wide access; `elsewhere` is anything
that leaves the slab and the two lines of the aggregate word alone. -/
inductive PlicStep : Memory → Memory → Prop
  | drive (memory : Memory) (source : Nat) (level : Bool) :
      PlicStep memory (setPlicSourcePending memory source level)
  | claim (memory : Memory) (context : PlicContext) : PlicStep memory (claimPlicSource memory context).2
  | complete (memory : Memory) (context : PlicContext) (source : Nat) :
      PlicStep memory (completePlicSource memory context source)
  | loadByte (memory : Memory) (address : Bytes8) : PlicStep memory (loadPlicByte memory address).2
  | storeByte (memory : Memory) (address : Bytes8) (value : BitVec 8) :
      PlicStep memory (storePlicByte memory address value)
  | load (memory : Memory) (destination address : Bytes8) (byteLength : Nat) :
      PlicStep memory (loadBytesFromPlic destination memory address byteLength).2
  | store (memory : Memory) (address source : Bytes8) (byteLength : Nat) :
      PlicStep memory (storeBytesToPlic memory address source byteLength)
  | elsewhere (memory after : Memory) (changes : ChangesOnly (fun position => ¬ InPlic memory.layout position)
      memory after) (lines : ∀ context, loadIrqLevel after &&& contextIrqLevel context =
        loadIrqLevel memory &&& contextIrqLevel context) : PlicStep memory after

/-- A state some run from `initializePlic` reaches. -/
def PlicReachable (memory : Memory) : Prop :=
  ∃ start, ReflTransGen PlicStep (initializePlic start) memory

/-- What every stored or loaded byte preserves, wide accesses and all other steps do too. -/
theorem PlicStep.preserves (holds : Memory → Prop) (step : PlicStep memory after) (initial : holds memory)
    (drive : ∀ memory source level, isValidSource source = true → holds memory →
      holds (setPlicSourcePending memory source level))
    (claim : ∀ memory context, holds memory → holds (claimPlicSource memory context).2)
    (stored : ∀ memory after, PlicByteStore memory after → holds memory → holds after)
    (elsewhere : ∀ memory after, ChangesOnly (fun position => ¬ InPlic memory.layout position) memory after →
      (∀ context, loadIrqLevel after &&& contextIrqLevel context =
        loadIrqLevel memory &&& contextIrqLevel context) → holds memory → holds after) : holds after := by
  have loadedByte (memory : Memory) (address : Bytes8) (initial : holds memory) :
      holds (loadPlicByte memory address).2 := by
    rcases loadPlicByte_cases memory address with same | ⟨context, claimed⟩
    · rwa [same]
    · rw [claimed]
      exact claim memory context initial
  cases step with
  | drive source level =>
    by_cases valid : isValidSource source = true
    · exact drive memory source level valid initial
    · simpa [setPlicSourcePending, valid] using initial
  | claim context => exact claim memory context initial
  | complete context source =>
    by_cases valid : isValidSource source = true
    · exact stored memory _ (.complete context source valid) initial
    · simpa [completePlicSource, valid] using initial
  | loadByte address => exact loadedByte memory address initial
  | storeByte address value => exact stored memory _ (storePlicByte_cases memory address value) initial
  | load destination address byteLength =>
    exact forEachIndex_preserves (fun state : Bytes8 × Memory × Bytes8 => holds state.2.1)
      initial fun _ _ state held => loadedByte _ _ held
  | store address source byteLength =>
    exact forEachIndex_preserves (fun state : Memory × Bytes8 => holds state.1)
      initial fun _ _ state held => stored _ _ (storePlicByte_cases _ _ _) held
  | elsewhere _ changes lines => exact elsewhere memory after changes lines initial

/-- The slab with its registers zeroed and the lock free. -/
def plicCleared (start : Memory) : Memory :=
  resetPlicGatewayLock
    (start.fillZero start.layout.plic.hostIndex (start.layout.plic.hostIndex + plicHostMeipWireOffset))

theorem plicCleared_same (start : Memory) : SameRegisters (plicCleared start) (initializePlic start) :=
  SameRegisters.trans (setPlicContextWire_registers (plicCleared start) .machine false)
    (setPlicContextWire_registers _ .supervisor false)

theorem plicCleared_clear (start : Memory) (inside : hostOffset + 4 ≤ 160) (small : source < 32) :
    isSourceBitSet (plicCleared start) hostOffset source = false := by
  have shifted := shift_small small
  have zero : (start.fillZero start.layout.plic.hostIndex
      (start.layout.plic.hostIndex + plicHostMeipWireOffset)).bytes
        (plicHostIndexForSourceBit start hostOffset source) = 0 := by
    apply if_pos
    simp [plicHostIndexForSourceBit, plicHostIndex]
    omega
  rw [plicCleared, (resetPlicGatewayLock_same _).isSourceBitSet inside small]
  exact (congrArg (fun value => BitVec.getLsbD value (source &&& 7)) zero).trans BitVec.getLsbD_zero

theorem initializePlic_clear (start : Memory) (inside : hostOffset + 4 ≤ 160) (small : source < 32) :
    isSourceBitSet (initializePlic start) hostOffset source = false := by
  rw [(plicCleared_same start).isSourceBitSet inside small, plicCleared_clear start inside small]

theorem initializePlic_represents (start : Memory) :
    Represents (initializePlic start) ⟨fun _ => false, fun _ => none⟩ := by
  constructor
  · exact fun source valid => initializePlic_clear start (by decide) (isValidSource_lt valid)
  · intro source valid
    rw [initializePlic_clear start (by decide) (isValidSource_lt valid)]
    simp
  · intro source valid
    rw [initializePlic_clear start (by decide) (isValidSource_lt valid)]
    simp
  · exact fun source valid => initializePlic_clear start (by decide) (isValidSource_lt valid)

theorem represents_step (step : PlicStep memory after) (represents : ∃ gateway, Represents memory gateway) :
    ∃ gateway, Represents after gateway := by
  refine step.preserves (fun memory => ∃ gateway, Represents memory gateway) represents ?_ ?_ ?_ ?_
  · rintro memory source level valid ⟨gateway, represents⟩
    exact ⟨_, setPlicSourcePending_represents represents valid level⟩
  · rintro memory context ⟨gateway, represents⟩
    exact ⟨_, claimPlicSource_represents represents context⟩
  · rintro memory after stored ⟨gateway, represents⟩
    exact stored.represents represents
  · rintro memory after changes _ ⟨gateway, represents⟩
    refine ⟨gateway, represents.frame changes fun position outside inside => outside ?_⟩
    simp [InPlicGateway, InPlic] at *
    omega

/-- A source is presented exactly while its line is asserted and no context serves it,
and no source is served twice, in every reachable state. -/
theorem plic_gateway_sound (reached : PlicReachable memory) (valid : isValidSource source = true) :
    (isSourceBitSet memory plicHostPending source = true ↔
      isSourceBitSet memory plicHostInputLevel source = true ∧
        ¬ isSourceBitSet memory plicHostClaimedByM source = true ∧
        ¬ isSourceBitSet memory plicHostClaimedByS source = true) ∧
    ¬ (isSourceBitSet memory plicHostClaimedByM source = true ∧
      isSourceBitSet memory plicHostClaimedByS source = true) := by
  obtain ⟨start, run⟩ := reached
  obtain ⟨gateway, represents⟩ := invariant_run (fun memory => ∃ gateway, Represents memory gateway)
    (fun _ _ => represents_step) run ⟨_, initializePlic_represents start⟩
  rw [represents.pending source valid, represents.level source valid, represents.claimedByM source valid,
    represents.claimedByS source valid, Gateway.pending]
  cases serving : gateway.servedBy source with
  | none => simp
  | some context => cases context <;> simp

/-- A guest gives the UART's source priority 3 and enables it for the machine context, and the
UART raises its line. -/
def uartRaised : Memory :=
  setPlicSourcePending
    (storeBytesToPlic (storeBytesToPlic (initializePlic defaultMemory) 0x0c000028 3 4) 0x0c002000 0x400 4)
    plicSourceUart true

/-- The machine context claims it. -/
def uartClaimed : Memory :=
  (claimPlicSource uartRaised .machine).2

theorem uartRaised_reachable : PlicReachable uartRaised :=
  ⟨defaultMemory, .tail (.tail (.tail .refl (.store _ _ _ _)) (.store _ _ _ _)) (.drive _ _ _)⟩

theorem uartClaimed_reachable : PlicReachable uartClaimed := by
  obtain ⟨start, run⟩ := uartRaised_reachable
  exact ⟨start, run.tail (.claim _ _)⟩

theorem plic_gateway_sound_uart : isSourceBitSet uartClaimed plicHostClaimedByM plicSourceUart = true ∧
    (isSourceBitSet uartClaimed plicHostPending plicSourceUart = true ↔
      isSourceBitSet uartClaimed plicHostInputLevel plicSourceUart = true ∧
        ¬ isSourceBitSet uartClaimed plicHostClaimedByM plicSourceUart = true ∧
        ¬ isSourceBitSet uartClaimed plicHostClaimedByS plicSourceUart = true) ∧
    ¬ (isSourceBitSet uartClaimed plicHostClaimedByM plicSourceUart = true ∧
      isSourceBitSet uartClaimed plicHostClaimedByS plicSourceUart = true) :=
  ⟨by decide +kernel, plic_gateway_sound uartClaimed_reachable (by decide)⟩

end YaRiscV.Emulator
