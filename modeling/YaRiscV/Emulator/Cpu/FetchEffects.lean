import YaRiscV.Emulator.Clint.TickHistory
import YaRiscV.Emulator.Uart.LoadEffects
import YaRiscV.Emulator.Cpu.TrapPrecision
import YaRiscV.Emulator.Cpu.Reachable

/-! What a fetch that faults changes: `fetchInstruction` loads four bytes before it checks,
and a device register at the PC answers that load as any other. -/

namespace YaRiscV.Emulator

open YaRiscV.Library YaRiscV.Utils

variable {registers after : Registers} {memory memory' : Memory}

theorem loadUartRegister_layout (memory : Memory) (registerIndex : Nat) :
    (loadUartRegister memory registerIndex).2.layout = memory.layout := by
  by_cases receive : registerIndex = 0
  · subst receive
    by_cases clear : uartRegisterByte memory 3 &&& lcrDlab = 0
    · rw [loadUartRegister_receive clear, refreshUartIrq_layout, popReceive]
      split <;> rfl
    · rw [loadUartRegister_divisor clear]
  by_cases identity : registerIndex = 2
  · subst identity
    by_cases thre : readInterruptIdentity memory = iirThre
    · have effect : (loadUartRegister memory 2).2 = refreshUartIrq (setThreIrqSticky memory false) := by
        simp [loadUartRegister, thre]
      rw [effect, refreshUartIrq_layout]
      rfl
    · rw [loadUartRegister_identity_settled thre]
  · rw [loadUartRegister_other receive identity]

theorem loadBytesFromUart_layout (destination : Bytes8) (offset : Nat) :
    (loadBytesFromUart memory destination offset 4).2.layout = memory.layout := by
  rw [loadBytesFromUart_effect]
  split
  · rw [loadUartRegister_layout, loadUartRegister_layout]
  split
  · exact loadUartRegister_layout _ _
  · rfl

theorem loadBytesFromPlic_layout (destination address : Bytes8) :
    (loadBytesFromPlic destination memory address 4).2.layout = memory.layout := by
  obtain ⟨loaded, turns⟩ := loadPlicTurns_effect memory destination address (Nat.le_refl 4)
  rw [loadBytesFromPlic, turns]
  dsimp only
  split
  · exact claimPlicSource_layout
  · rfl

/-- The device registers that four bytes from `address` meet have nothing to do for a load. -/
def LoadSettled (memory : Memory) (address : Bytes8) : Prop :=
  match resolveGuestAddressToRegionAndOffset memory.layout.table address with
  | none => True
  | some (regionId, offset) =>
    if regionId = uartRegionId then UartLoadSettled memory offset
    else if regionId = clintRegionId then ClintLoadSettled memory offset 4
    else if regionId = plicRegionId then PlicLoadSettled memory address
    else True

/-- A load that went through kept the layout, and the buffer exactly if it was settled. -/
theorem loadBytes_effect (loaded : loadBytes memory address 4 = .ok (bytes, memory')) :
    memory'.layout = memory.layout ∧ (memory'.bytes = memory.bytes ↔ LoadSettled memory address) := by
  rw [loadBytes] at loaded
  rw [LoadSettled]
  cases place : resolveGuestAddressToRegionAndOffset memory.layout.table address with
  | none =>
    rw [place] at loaded
    cases loaded
    exact ⟨rfl, iff_of_true rfl trivial⟩
  | some found =>
    obtain ⟨regionId, offset⟩ := found
    rw [place] at loaded
    dsimp only at loaded ⊢
    by_cases ram : regionId = ramRegionId
    · rw [if_pos ram] at loaded
      cases loaded
      subst ram
      exact ⟨rfl, iff_of_true rfl trivial⟩
    rw [if_neg ram] at loaded
    by_cases uart : regionId = uartRegionId
    · rw [if_pos uart] at loaded ⊢
      obtain ⟨rfl, rfl⟩ := Prod.ext_iff.mp (Except.ok.inj loaded)
      exact ⟨loadBytesFromUart_layout _ _, loadBytesFromUart_bytes_iff _ _⟩
    rw [if_neg uart] at loaded ⊢
    by_cases clint : regionId = clintRegionId
    · rw [if_pos clint] at loaded ⊢
      exact ⟨(loadBytesFromClint_ticked loaded).changes.layout, loadBytesFromClint_bytes_iff loaded⟩
    rw [if_neg clint] at loaded ⊢
    by_cases plic : regionId = plicRegionId
    · rw [if_pos plic] at loaded ⊢
      obtain ⟨rfl, rfl⟩ := Prod.ext_iff.mp (Except.ok.inj loaded)
      exact ⟨loadBytesFromPlic_layout _ _, loadBytesFromPlic_bytes_iff _ _⟩
    rw [if_neg plic] at loaded ⊢
    refine ⟨?_, iff_of_true ?_ trivial⟩
    · split at loaded <;> cases loaded <;> rfl
    · split at loaded <;> cases loaded <;> rfl

/-- The memory a faulting fetch leaves is what its load left. -/
theorem fetchInstruction_loaded (faulted : fetchInstruction registers memory = .faulted after memory') :
    ∃ bytes, loadBytes memory registers.programCounter 4 = .ok (bytes, memory') := by
  rw [fetchInstruction] at faulted
  dsimp only at faulted
  split at faulted
  · cases faulted
  rename_i instructionBytes loadedMemory loaded
  refine ⟨instructionBytes, ?_⟩
  rw [loaded]
  split at faulted
  · split at faulted
    · cases faulted
      rfl
    · split at faulted
      · cases faulted
        rfl
      · cases faulted
  · split at faulted
    · cases faulted
      rfl
    · split at faulted
      · cases faulted
        rfl
      · cases faulted

theorem enterTrap_retireInstruction (cause : Nat) (trapValue : Bytes8) :
    (enterTrap registers cause trapValue).retireInstruction = false := by
  rw [enterTrap]
  split
  · simp [enterSupervisorTrap, applyTrapEntryToSstatus, setPrivilegeMode, setProgramCounter,
      cancelInstructionRetire]
  · simp [enterMachineTrap, applyTrapEntryToMstatus, setPrivilegeMode, setProgramCounter,
      cancelInstructionRetire]

/-- A trap that left the whole buffer alone, and of the hart changed the trap state only. -/
structure TrapStateOnly (registers after : Registers) (memory memory' : Memory) : Prop where
  layout : memory'.layout = memory.layout
  bytes : memory'.bytes = memory.bytes
  generalPurpose : after.generalPurpose = registers.generalPurpose
  flags : after.plicSupervisorExternalPending = registers.plicSupervisorExternalPending ∧
    after.publishedSupervisorTimerCompare = registers.publishedSupervisorTimerCompare
  slots : ∀ index ∉ trapSlots after.privilegeMode, SlotKept index registers after
  retirement : after.retireInstruction = false

/-- A faulting fetch has no side effect exactly where the device registers at the PC, if there
are any, have nothing to do for its load. -/
theorem fetchInstruction_faulted_trapStateOnly_iff
    (faulted : fetchInstruction registers memory = .faulted after memory') :
    TrapStateOnly registers after memory memory' ↔ LoadSettled memory registers.programCounter := by
  obtain ⟨bytes, loaded⟩ := fetchInstruction_loaded faulted
  obtain ⟨layout, settled⟩ := loadBytes_effect loaded
  rw [← settled]
  refine ⟨TrapStateOnly.bytes, fun same => ?_⟩
  rw [fetchInstruction_faulted faulted]
  have entry := enterTrap_entry registers causeInstructionAccessFault registers.programCounter
  exact ⟨layout, same, entry.generalPurpose, entry.flags, entry.slots, enterTrap_retireInstruction _ _⟩

/-- The default machine after a byte was received. -/
def receivedMemory : Memory :=
  (enqueueReceive defaultMemory 0x41).2

/-- U-mode at the base of the UART window, with no PMP entry set. -/
def uartRegisters : Registers :=
  returnFromMachineTrap (writeControlAndStatusRegister createRegisters Csr.mepc 0x10000000)

theorem uartRegisters_faulted : fetchInstruction uartRegisters receivedMemory =
    .faulted (enterTrap uartRegisters causeInstructionAccessFault 0x10000000)
      (loadUartRegister (loadUartRegister receivedMemory 0).2 2).2 := by
  rfl

theorem fetchInstruction_faulted_trapStateOnly_iff_uart :
    TrapStateOnly uartRegisters (enterTrap uartRegisters causeInstructionAccessFault 0x10000000) receivedMemory
        (loadUartRegister (loadUartRegister receivedMemory 0).2 2).2 ↔
      LoadSettled receivedMemory uartRegisters.programCounter :=
  fetchInstruction_faulted_trapStateOnly_iff uartRegisters_faulted

/-- The refused fetch at RBR takes the received byte out of the ring. -/
theorem fetchInstruction_faulted_pops : ∃ after memory',
    fetchInstruction uartRegisters receivedMemory = .faulted after memory' ∧
      metaByte receivedMemory metaRxHead = 0 ∧ metaByte memory' metaRxHead = 1 ∧
      ¬ TrapStateOnly uartRegisters after receivedMemory memory' := by
  have before : receivedMemory.bytes (metaIndex receivedMemory metaRxHead) = 0 := by rfl
  have popped : (loadUartRegister (loadUartRegister receivedMemory 0).2 2).2.bytes
      (metaIndex receivedMemory metaRxHead) = 1 := by rfl
  refine ⟨_, _, uartRegisters_faulted, congrArg BitVec.toNat before, congrArg BitVec.toNat popped, fun only => ?_⟩
  rw [only.bytes, before] at popped
  cases popped

end YaRiscV.Emulator
