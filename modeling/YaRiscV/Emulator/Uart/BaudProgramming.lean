import YaRiscV.Emulator.Uart.View
import YaRiscV.Emulator.Machine

/-! Programming the baud rate: the divisor latch shares its host bytes with the registers behind
it, so what was written to it is still there once the latch is deselected. -/

namespace YaRiscV.Emulator

open YaRiscV.Library YaRiscV.Utils

/-- A guest access to one register of the UART. -/
inductive UartAccess where
  | load (registerIndex : Nat)
  | store (registerIndex : Nat) (value : BitVec 8)
  deriving DecidableEq, Repr

namespace UartAccess

def registerIndex : UartAccess → Nat
  | .load registerIndex => registerIndex
  | .store registerIndex _ => registerIndex

/-- A write to the divisor latch, while it is selected. -/
def isDivisorWrite : UartAccess → Bool
  | .load _ => false
  | .store registerIndex _ => registerIndex == 0 || registerIndex == 1

/-- An access to the window that leaves the divisor latch selected. -/
structure KeepsLatch (access : UartAccess) : Prop where
  window : access.registerIndex < uartGuestByteLength
  selected : ∀ value, access = .store 3 value → value &&& lcrDlab ≠ 0

def apply (memory : Memory) : UartAccess → Memory
  | .load registerIndex => (loadUartRegister memory registerIndex).2
  | .store registerIndex value => storeUartRegister memory registerIndex value

end UartAccess

/-- Accesses while the divisor latch is selected, then the write to LCR that deselects it. -/
def programBaud (memory : Memory) (accesses : List UartAccess) (lcr : BitVec 8) : Memory :=
  storeUartRegister (accesses.foldl UartAccess.apply memory) 3 lcr

def withoutDivisorWrites (accesses : List UartAccess) : List UartAccess :=
  accesses.filter fun access => !access.isDivisorWrite

/-- IER and the identity read afterwards as if the divisor latch had not been written. -/
structure BaudUndisturbed (memory : Memory) (accesses : List UartAccess) (lcr : BitVec 8) : Prop where
  ier : (loadUartRegister (programBaud memory accesses lcr) 1).1 =
    (loadUartRegister (programBaud memory (withoutDivisorWrites accesses) lcr) 1).1
  identity : (loadUartRegister (programBaud memory accesses lcr) 2).1 =
    (loadUartRegister (programBaud memory (withoutDivisorWrites accesses) lcr) 2).1

/-- The value at offset 1 after an access. -/
def UartAccess.highLatch (latch : BitVec 8) : UartAccess → BitVec 8
  | .load _ => latch
  | .store registerIndex value => if registerIndex = 1 then value else latch

/-- The values at offset 1 that the reads of IIR find. -/
def identityLatches (latch : BitVec 8) : List UartAccess → List (BitVec 8)
  | [] => []
  | access :: rest =>
    (if access = .load 2 then [latch] else []) ++ identityLatches (access.highLatch latch) rest

/-- With `value` at offset 1 a set sticky bit shows as the transmit interrupt. -/
def ShowsThre (lsr value : BitVec 8) : Prop :=
  ¬ (value &&& ierErbfi ≠ 0 ∧ lsr &&& lsrDr ≠ 0) ∧ value &&& ierEtbei ≠ 0 ∧ lsr &&& lsrThre ≠ 0

instance (lsr value : BitVec 8) : Decidable (ShowsThre lsr value) := inferInstanceAs (Decidable (_ ∧ _))

/-- The divisor latch was left at the IER it hides, and a transmit interrupt that a read of IIR
would have acknowledged was acknowledged. -/
structure BaudHarmless (memory : Memory) (accesses : List UartAccess) : Prop where
  restored : accesses.foldl UartAccess.highLatch (uartRegisterByte memory 1) = uartRegisterByte memory 1
  acknowledged : ShowsThre (readLineStatus memory) (uartRegisterByte memory 1) → threIrqSticky memory = true →
    identityLatches (uartRegisterByte memory 1) accesses ≠ [] →
      ∃ latch ∈ identityLatches (uartRegisterByte memory 1) accesses, ShowsThre (readLineStatus memory) latch

variable {memory after : Memory} {accesses : List UartAccess} {access : UartAccess} {latch lcr : BitVec 8}

/-! The identity as a function of the registers. -/

theorem readInterruptIdentity_thre (memory : Memory) : readInterruptIdentity memory = iirThre ↔
    ShowsThre (readLineStatus memory) (uartRegisterByte memory 1) ∧ threIrqSticky memory = true := by
  rw [readInterruptIdentity, ShowsThre]
  by_cases received : uartRegisterByte memory 1 &&& ierErbfi ≠ 0 ∧ readLineStatus memory &&& lsrDr ≠ 0
  · rw [if_pos received]
    exact ⟨fun same => absurd same (by decide), fun both => absurd received both.1.1⟩
  · rw [if_neg received]
    constructor
    · intro same
      split at same
      · rename_i announced
        exact ⟨⟨received, announced.1, announced.2.2⟩, announced.2.1⟩
      · exact absurd same (by decide)
    · rintro ⟨⟨_, enabled, room⟩, sticky⟩
      exact if_pos ⟨enabled, sticky, room⟩

/-- Two states that differ in the sticky bit have the same identity unless it shows. -/
theorem readInterruptIdentity_sticky (status : readLineStatus after = readLineStatus memory)
    (enabled : uartRegisterByte after 1 = uartRegisterByte memory 1) :
    readInterruptIdentity after = readInterruptIdentity memory ↔
      (ShowsThre (readLineStatus memory) (uartRegisterByte memory 1) →
        (threIrqSticky after = true ↔ threIrqSticky memory = true)) := by
  have left := readInterruptIdentity_thre after
  have right := readInterruptIdentity_thre memory
  rw [status, enabled] at left
  constructor
  · intro same shows
    rw [same, right] at left
    simpa [shows] using left.symm
  · intro agree
    by_cases shows : ShowsThre (readLineStatus memory) (uartRegisterByte memory 1)
    · have sticky : threIrqSticky after = threIrqSticky memory := Bool.eq_iff_iff.mpr (agree shows)
      rw [readInterruptIdentity, readInterruptIdentity, status, enabled, sticky]
    · rw [readInterruptIdentity, readInterruptIdentity, status, enabled]
      by_cases received : uartRegisterByte memory 1 &&& ierErbfi ≠ 0 ∧ readLineStatus memory &&& lsrDr ≠ 0
      · rw [if_pos received, if_pos received]
      · have unshown (sticky : Bool) : ¬ (uartRegisterByte memory 1 &&& ierEtbei ≠ 0 ∧ sticky = true ∧
            readLineStatus memory &&& lsrThre ≠ 0) :=
          fun announced => shows ⟨received, announced.1, announced.2.2⟩
        rw [if_neg received, if_neg received, if_neg (unshown _), if_neg (unshown _)]

/-! One access while the divisor latch is selected. -/

theorem storeUartRegister_selected (selected : uartRegisterByte memory 3 &&& lcrDlab ≠ 0) (registerIndex : Nat)
    (value : BitVec 8) : storeUartRegister memory registerIndex value =
      if registerIndex = 2 ∨ registerIndex = 5 then memory
      else storeUartRegisterByte memory registerIndex value := by
  have dlab : (uartRegisterByte memory 3 &&& lcrDlab != 0) = true := bne_iff_ne.mpr selected
  simp only [storeUartRegister, dlab, Bool.not_true, Bool.false_eq_true, and_false, if_false]

theorem loadUartRegister_selected (selected : uartRegisterByte memory 3 &&& lcrDlab ≠ 0) (registerIndex : Nat) :
    (loadUartRegister memory registerIndex).2 =
      if registerIndex = 2 ∧ readInterruptIdentity memory = iirThre then
        refreshUartIrq (setThreIrqSticky memory false)
      else memory := by
  have dlab : (uartRegisterByte memory 3 &&& lcrDlab != 0) = true := bne_iff_ne.mpr selected
  simp only [loadUartRegister, dlab, Bool.not_true, Bool.false_eq_true, and_false, if_false]
  by_cases identity : registerIndex = 2
  · rw [if_pos identity]
    by_cases announced : readInterruptIdentity memory = iirThre
    · rw [if_pos announced, if_pos ⟨identity, announced⟩]
    · rw [if_neg announced, if_neg fun both => announced both.2]
  · have other : ¬ (registerIndex = 2 ∧ readInterruptIdentity memory = iirThre) := fun both => identity both.1
    rw [if_neg identity, if_neg other]
    split <;> rfl

/-- What accesses have made of the state they started in. -/
structure Programmed (before : Memory) (accesses : List UartAccess) (after : Memory) : Prop where
  selected : uartRegisterByte after 3 &&& lcrDlab ≠ 0
  status : readLineStatus after = readLineStatus before
  latch : uartRegisterByte after 1 = accesses.foldl UartAccess.highLatch (uartRegisterByte before 1)
  sticky : threIrqSticky after = true ↔ threIrqSticky before = true ∧
    ∀ latch ∈ identityLatches (uartRegisterByte before 1) accesses, ¬ ShowsThre (readLineStatus before) latch

theorem Programmed.none (selected : uartRegisterByte memory 3 &&& lcrDlab ≠ 0) : Programmed memory [] memory :=
  ⟨selected, rfl, rfl, by simp [identityLatches]⟩

/-- An access is given by the registers it leaves; it moves no ring. -/
theorem Programmed.of_view {ier : BitVec 8} {sticky : Bool}
    (view : uartView after = { uartView memory with ier := ier, lcr := lcr, sticky := sticky })
    (selected : lcr &&& lcrDlab ≠ 0) (latch : ier = access.highLatch (uartRegisterByte memory 1))
    (acknowledged : sticky = true ↔ threIrqSticky memory = true ∧
      ∀ latch ∈ identityLatches (uartRegisterByte memory 1) [access], ¬ ShowsThre (readLineStatus memory) latch) :
    Programmed memory [access] after := by
  simp only [uartView, UartView.mk.injEq] at view
  obtain ⟨rfl, rfl, rfl, rxHead, rxTail, txHead, txTail⟩ := view
  exact ⟨selected, by rw [readLineStatus, readLineStatus, rxHead, rxTail, txHead, txTail], latch, acknowledged⟩

/-- One access. -/
theorem UartAccess.programmed (keeps : access.KeepsLatch) (selected : uartRegisterByte memory 3 &&& lcrDlab ≠ 0) :
    Programmed memory [access] (access.apply memory) := by
  cases access with
  | load registerIndex =>
    rw [UartAccess.apply, loadUartRegister_selected selected]
    have shown := readInterruptIdentity_thre memory
    by_cases identity : registerIndex = 2
    · subst identity
      by_cases announced : readInterruptIdentity memory = iirThre
      · have view : uartView (refreshUartIrq (setThreIrqSticky memory false)) =
            { uartView memory with sticky := false } := by
          rw [uartView_refresh, uartView_setThreIrqSticky]
        rw [if_pos ⟨rfl, announced⟩]
        refine .of_view view selected rfl ⟨fun set => (Bool.false_ne_true set).elim, fun both => ?_⟩
        exact absurd (shown.mp announced).1 (both.2 _ (List.mem_singleton_self _))
      · rw [if_neg fun both => announced both.2]
        rw [shown] at announced
        refine .of_view rfl selected rfl ⟨fun set => ⟨set, fun latch found shows => ?_⟩, And.left⟩
        rw [List.mem_singleton.mp found] at shows
        exact announced ⟨shows, set⟩
    · rw [if_neg fun both => identity both.1]
      exact .of_view rfl selected rfl (by simp [identityLatches, identity])
  | store registerIndex value =>
    have window : registerIndex < 8 := keeps.window
    have view := uartView_storeRegister memory window value
    rw [UartAccess.apply, storeUartRegister_selected selected]
    have unread : identityLatches (uartRegisterByte memory 1) [.store registerIndex value] = [] := rfl
    by_cases ignored : registerIndex = 2 ∨ registerIndex = 5
    · rw [if_pos ignored]
      refine .of_view rfl selected ?_ (by rw [unread]; simp)
      rcases ignored with rfl | rfl <;> rfl
    · rw [if_neg ignored]
      refine .of_view view ?_ rfl ?_
      · split
        · rename_i control
          subst control
          exact keeps.selected value rfl
        · exact selected
      · have apart : registerIndex ≠ threIrqStickyRegister := fun same => ignored (.inl same)
        rw [unread, if_neg apart]
        simp [uartView]

/-! Sequences of accesses. -/

theorem Programmed.cons {middle : Memory} (first : Programmed memory [access] middle)
    (rest : Programmed middle accesses after) : Programmed memory (access :: accesses) after := by
  have moved : uartRegisterByte middle 1 = access.highLatch (uartRegisterByte memory 1) := first.latch
  have latch := rest.latch
  have sticky := rest.sticky
  rw [moved] at latch sticky
  rw [first.sticky, first.status] at sticky
  refine ⟨rest.selected, rest.status.trans first.status, latch, sticky.trans ?_⟩
  simp only [identityLatches, List.append_nil, List.mem_append, or_imp, forall_and, and_assoc]

theorem programmed_accesses (keeps : ∀ access ∈ accesses, access.KeepsLatch)
    (selected : uartRegisterByte memory 3 &&& lcrDlab ≠ 0) :
    Programmed memory accesses (accesses.foldl UartAccess.apply memory) := by
  induction accesses generalizing memory with
  | nil => exact .none selected
  | cons access rest ih =>
    have first := UartAccess.programmed (keeps access List.mem_cons_self) selected
    exact first.cons (ih (fun other later => keeps other (List.mem_cons_of_mem _ later)) first.selected)

theorem UartAccess.highLatch_of_not (other : access.isDivisorWrite = false) (latch : BitVec 8) :
    access.highLatch latch = latch := by
  cases access with
  | load => rfl
  | store registerIndex value =>
    rw [isDivisorWrite, Bool.or_eq_false_iff] at other
    exact if_neg (beq_eq_false_iff_ne.mp other.2)

/-- Without the divisor writes offset 1 keeps its value. -/
theorem highLatch_without (latch : BitVec 8) (accesses : List UartAccess) :
    (withoutDivisorWrites accesses).foldl UartAccess.highLatch latch = latch := by
  induction accesses with
  | nil => rfl
  | cons access rest ih =>
    rw [withoutDivisorWrites, List.filter_cons]
    cases divisor : access.isDivisorWrite with
    | true => exact ih
    | false =>
      rw [if_pos (by rfl), List.foldl_cons, UartAccess.highLatch_of_not divisor]
      exact ih

/-- Every read of IIR then finds that value. -/
theorem identityLatches_without (latch other : BitVec 8) (accesses : List UartAccess) :
    identityLatches latch (withoutDivisorWrites accesses) =
      (identityLatches other accesses).map fun _ => latch := by
  induction accesses generalizing other with
  | nil => rfl
  | cons access rest ih =>
    rw [withoutDivisorWrites, List.filter_cons, identityLatches, List.map_append, ← ih (access.highLatch other)]
    cases divisor : access.isDivisorWrite with
    | true =>
      have unread : access ≠ .load 2 := by
        rintro rfl
        cases divisor
      rw [if_neg unread]
      rfl
    | false =>
      rw [if_pos (by rfl), identityLatches, UartAccess.highLatch_of_not divisor]
      congr 1
      split <;> rfl

/-! The registers read after the latch is deselected. -/

theorem loadUartRegister_ier (memory : Memory) : (loadUartRegister memory 1).1 = uartRegisterByte memory 1 := by
  simp [loadUartRegister]

theorem loadUartRegister_iir (memory : Memory) : (loadUartRegister memory 2).1 = readInterruptIdentity memory := by
  have other : ¬ ((2 : Nat) = 0 ∧ (!(uartRegisterByte memory 3 &&& lcrDlab != 0)) = true) := by simp
  simp only [loadUartRegister, if_neg other, if_true]
  split <;> rfl

/-- Deselecting the latch changes LCR only. -/
theorem Programmed.deselected (programmed : Programmed memory accesses (accesses.foldl UartAccess.apply memory))
    (lcr : BitVec 8) :
    readLineStatus (programBaud memory accesses lcr) = readLineStatus memory ∧
      uartRegisterByte (programBaud memory accesses lcr) 1 =
        accesses.foldl UartAccess.highLatch (uartRegisterByte memory 1) ∧
      (threIrqSticky (programBaud memory accesses lcr) = true ↔ threIrqSticky memory = true ∧
        ∀ latch ∈ identityLatches (uartRegisterByte memory 1) accesses, ¬ ShowsThre (readLineStatus memory) latch) := by
  have view : uartView (programBaud memory accesses lcr) =
      { uartView (accesses.foldl UartAccess.apply memory) with lcr := lcr } := by
    rw [programBaud, storeUartRegister_selected programmed.selected, if_neg (by decide),
      uartView_storeRegister _ (by decide)]
    rfl
  simp only [uartView, UartView.mk.injEq] at view
  obtain ⟨ier, _, sticky, rxHead, rxTail, txHead, txTail⟩ := view
  refine ⟨?_, ier.trans programmed.latch, by rw [sticky, programmed.sticky]⟩
  rw [← programmed.status, readLineStatus, readLineStatus, rxHead, rxTail, txHead, txTail]

/-- The sticky bit ends up the same where reading IIR with the hidden IER in place, or not at all,
would have left it. -/
private theorem acknowledged_iff {lsr ier : BitVec 8} {sticky : Bool} (latches : List (BitVec 8))
    (shows : ShowsThre lsr ier) :
    ((sticky = true ∧ ∀ latch ∈ latches, ¬ ShowsThre lsr latch) ↔
      (sticky = true ∧ ∀ latch ∈ latches.map fun _ => ier, ¬ ShowsThre lsr latch)) ↔
    (sticky = true → latches ≠ [] → ∃ latch ∈ latches, ShowsThre lsr latch) := by
  have unread : (∀ latch ∈ latches.map fun _ => ier, ¬ ShowsThre lsr latch) ↔ latches = [] := by
    cases latches with
    | nil => simp
    | cons latch rest => exact ⟨fun none => absurd shows (none ier List.mem_cons_self), by rintro ⟨⟩⟩
  rw [unread]
  constructor
  · intro agree set read
    by_contra none
    push Not at none
    exact read (agree.mp ⟨set, none⟩).2
  · intro harmless
    constructor
    · rintro ⟨set, none⟩
      refine ⟨set, by_contra fun read => ?_⟩
      obtain ⟨latch, member, shown⟩ := harmless set read
      exact none latch member shown
    · rintro ⟨set, rfl⟩
      exact ⟨set, by simp⟩

/-- Programming the baud rate disturbs neither IER nor the identity exactly when it is harmless,
whatever is written to LCR at its end. -/
theorem baudUndisturbed_iff (selected : uartRegisterByte memory 3 &&& lcrDlab ≠ 0)
    (keeps : ∀ access ∈ accesses, access.KeepsLatch) :
    BaudUndisturbed memory accesses lcr ↔ BaudHarmless memory accesses := by
  have kept : ∀ access ∈ withoutDivisorWrites accesses, access.KeepsLatch :=
    fun access member => keeps access (List.mem_filter.mp member).1
  obtain ⟨status, ier, sticky⟩ := (programmed_accesses keeps selected).deselected lcr
  obtain ⟨status', ier', sticky'⟩ := (programmed_accesses kept selected).deselected lcr
  rw [highLatch_without] at ier'
  rw [identityLatches_without _ (uartRegisterByte memory 1) accesses] at sticky'
  have same (restored : accesses.foldl UartAccess.highLatch (uartRegisterByte memory 1) = uartRegisterByte memory 1) :=
    readInterruptIdentity_sticky (status.trans status'.symm) ((ier.trans restored).trans ier'.symm)
  rw [sticky, sticky', status', ier'] at same
  constructor
  · intro undisturbed
    have restored : accesses.foldl UartAccess.highLatch (uartRegisterByte memory 1) = uartRegisterByte memory 1 := by
      rw [← ier, ← loadUartRegister_ier, undisturbed.ier, loadUartRegister_ier, ier']
    have identity := undisturbed.identity
    rw [loadUartRegister_iir, loadUartRegister_iir] at identity
    exact ⟨restored, fun shows => (acknowledged_iff _ shows).mp ((same restored).mp identity shows)⟩
  · rintro ⟨restored, harmless⟩
    refine ⟨?_, ?_⟩
    · rw [loadUartRegister_ier, loadUartRegister_ier, ier, ier', restored]
    · rw [loadUartRegister_iir, loadUartRegister_iir]
      exact (same restored).mpr fun shows => (acknowledged_iff _ shows).mpr (harmless shows)

/-- Received data enabled, and the divisor latch selected. -/
def baudMemory : Memory := storeUartRegister (storeUartRegister defaultMemory 1 ierErbfi) 3 lcrDlab

/-- A divisor of 13 for 8N1: the high latch is zero, and so is IER afterwards. -/
theorem baudProgramming_disturbs : ¬ ∀ memory accesses lcr, uartRegisterByte memory 3 &&& lcrDlab ≠ 0 →
    (∀ access ∈ accesses, UartAccess.KeepsLatch access) → lcr &&& lcrDlab = 0 →
      BaudUndisturbed memory accesses lcr := by
  intro always
  have keeps : ∀ access ∈ [UartAccess.store 0 13, .store 1 0], access.KeepsLatch := by
    intro access member
    rcases List.mem_pair.mp member with rfl | rfl <;> exact ⟨by decide, by rintro value ⟨⟩⟩
  have undisturbed := always baudMemory [.store 0 13, .store 1 0] 3 (by decide) keeps (by decide)
  have ier := undisturbed.ier
  revert ier
  decide

/-- Writing the hidden IER to the high latch is harmless. -/
theorem baudUndisturbed_restored : BaudUndisturbed baudMemory [.store 0 13, .store 1 ierErbfi] 3 := by
  have keeps : ∀ access ∈ [UartAccess.store 0 13, .store 1 ierErbfi], access.KeepsLatch := by
    intro access member
    rcases List.mem_pair.mp member with rfl | rfl <;> exact ⟨by decide, by rintro value ⟨⟩⟩
  exact (baudUndisturbed_iff (by decide) keeps).mpr ⟨by decide, by decide⟩

end YaRiscV.Emulator
