import YaRiscV.Emulator.Cpu.MachineSteps
import YaRiscV.Emulator.Cpu.Isolation
import YaRiscV.Emulator.Cpu.PrivilegeIsolation
import YaRiscV.Emulator.Cpu.Decode.DecodeCache
import YaRiscV.Emulator.Cpu.Decode.Expansion

/-! The hart refines the bare machine: whatever program is in RAM, turn after turn of the loop
does what the machine does. -/

namespace YaRiscV.Emulator

open YaRiscV.Library YaRiscV.Utils

/-- Whatever `mip` shows, no interrupt is taken. -/
def InterruptsMasked (registers : Registers) : Prop :=
  registers.controlAndStatus Csr.mie = 0 ∨
    (registers.privilegeMode = privilegeMachine ∧ (registers.controlAndStatus Csr.mstatus).getLsbD 3 = false)

/-- A hart that runs as a bare machine. -/
structure BareHart (registers : Registers) (memory : Memory) : Prop where
  aligned : AlignedControl registers
  masked : InterruptsMasked registers
  opened : PmpOpen registers
  bare : BareMemory memory

/-- Everyone else has run: RAM and the reservation of this hart are as they were. -/
structure RanElsewhere (hartId : Nat) (before after : Memory) : Prop where
  ram : SameRam before after
  reservation : reservationOf after hartId = reservationOf before hartId
  idle : MonitorIdle before → MonitorIdle after

/-- Turns of the loop that complete, `elsewhere` before each. -/
def completedTurns (elsewhere : Nat → Memory → Memory) (registers : Registers) (memory : Memory) :
    Nat → Option (Registers × Memory)
  | 0 => some (registers, memory)
  | count + 1 =>
    (completedTurns elsewhere registers memory count).bind fun (registers, memory) =>
      match runLoopTurn registers (elsewhere count memory) with
      | .completed registers memory => some (registers, memory)
      | _ => none

/-- Only `mip` and the counters differ. -/
structure BareKept (before after : Registers) : Prop where
  privilegeMode : after.privilegeMode = before.privilegeMode
  slots : ∀ index, index ∉ [Csr.mip, Csr.mcycle, Csr.minstret] → SlotKept index before after

variable {registers before middle after : Registers} {memory stored : Memory} {length : Bytes8}
  {zero : registers.generalPurpose 0 = 0} {next : Rv64.Machine} {offset : Nat}

/-! What a turn keeps. -/

namespace BareKept

theorem trans (first : BareKept before middle) (second : BareKept middle after) : BareKept before after where
  privilegeMode := second.privilegeMode.trans first.privilegeMode
  slots index other := (second.slots index other).trans (first.slots index other)

theorem of_control (kept : ControlKept before after) : BareKept before after where
  privilegeMode := kept.privilegeMode
  slots index _ := congrFun kept.controlAndStatus index

theorem of_sampled (sampled : SampledFrom before after) : BareKept before after where
  privilegeMode := sampled.privilegeMode
  slots index other := by
    apply sampled.slots
    intro same
    exact other (same ▸ List.mem_cons_self)

theorem of_retired (retired : Retired before after) : BareKept before after where
  privilegeMode := retired.privilegeMode
  slots index other := by
    simp only [List.mem_cons, not_or] at other
    exact retired.slots index other.2.1 other.2.2.1

theorem masked (kept : BareKept before after) (masked : InterruptsMasked before) : InterruptsMasked after := by
  have mie : after.controlAndStatus Csr.mie = before.controlAndStatus Csr.mie := kept.slots Csr.mie (by decide)
  have mstatus : after.controlAndStatus Csr.mstatus = before.controlAndStatus Csr.mstatus :=
    kept.slots Csr.mstatus (by decide)
  rw [InterruptsMasked, mie, mstatus, kept.privilegeMode]
  exact masked

theorem pmpKept (kept : BareKept before after) : PmpKept before after :=
  .of_slots [Csr.mip, Csr.mcycle, Csr.minstret] (slots_notPmp rfl) kept.slots

theorem entryDenies (kept : BareKept before after) (inside : entry < pmpEntryCount) :
    entryDenies after start stop machine access entry = entryDenies before start stop machine access entry := by
  have same := kept.pmpKept.entryKept inside
  rw [Emulator.entryDenies, Emulator.entryDenies, same.range, same.config]

theorem opened (kept : BareKept before after) (opened : PmpOpen before) : PmpOpen after := by
  intro address byteLength access
  have mstatus : after.controlAndStatus Csr.mstatus = before.controlAndStatus Csr.mstatus :=
    kept.slots Csr.mstatus (by decide)
  have machine : accessIsMachine after access = accessIsMachine before access := by
    rw [accessIsMachine, accessIsMachine, mstatus, kept.privilegeMode]
  have entries : (List.range pmpEntryCount).findSome? (Emulator.entryDenies after (bytesToBigInt address)
        (bytesToBigInt address + byteLength) (accessIsMachine after access) access) =
      (List.range pmpEntryCount).findSome? (Emulator.entryDenies before (bytesToBigInt address)
        (bytesToBigInt address + byteLength) (accessIsMachine before access) access) := by
    rw [machine]
    refine findSome?_congr fun entry member => ?_
    exact kept.entryDenies (List.mem_range.mp member)
  have denied := opened address byteLength access
  rw [physicalMemoryAccessDenied, entries, machine]
  exact denied

theorem hartIdOf (kept : BareKept before after) : hartIdOf after = hartIdOf before := by
  have mhartid : after.controlAndStatus Csr.mhartid = before.controlAndStatus Csr.mhartid :=
    kept.slots Csr.mhartid (by decide)
  rw [hartIdOf_slot, mhartid, hartIdOf_slot]

end BareKept

/-- No interrupt is taken while they are masked. -/
theorem InterruptsMasked.takeInterruptIfAny (masked : InterruptsMasked registers) :
    takeInterruptIfAny registers = none := by
  cases taken : Emulator.takeInterruptIfAny registers with
  | none => rfl
  | some trapped =>
    obtain ⟨code, _, enabled, _⟩ := takeInterruptIfAny_some taken
    rcases masked with disabled | ⟨machine, global⟩
    · have set := enabled.enabled
      rw [disabled] at set
      simp at set
    · cases delegated : interruptDelegated registers code with
      | true => exact absurd machine (enabled.supervisor delegated).1
      | false =>
        have set := enabled.machine delegated machine
        rw [global] at set
        cases set

/-! The fetch. -/

/-- What is loaded begins with the bytes of the range. -/
theorem RamRange.byte_loaded (range : RamRange memory address count offset) (short : count ≤ 4) :
    ∀ index < count, byte (loadBytesFromRam memory 0 offset 4) index = ramByte memory (offset + index) := by
  intro index inside
  have window := range.window
  have slab := range.slab
  rw [byte_loadBytesFromRam _ _ (by decide), if_pos (by omega), loadRamOffset_eq,
    if_pos ((denseGuestToHostIndex_isSome _ _).mpr ⟨by omega, by omega⟩)]

/-- A fetch asks for as many bytes as the encoding has. -/
theorem fetchInstruction_ram (bare : BareMemory memory) (opened : PmpOpen registers)
    (range : RamRange memory registers.programCounter count offset) (positive : 0 < count)
    (needed : (if bytesToNumber (loadBytesFromRam memory 0 offset 4) &&& encodingLengthMask = encodingLength32Bit then 4
      else 2) = count) :
    fetchInstruction registers memory = .fetched (loadBytesFromRam memory 0 offset 4) memory := by
  have resolved := range.inRamWindow.resolved bare.nonempty positive
  have mapped : trapIfFetchUnmapped registers memory registers.programCounter count = none :=
    if_pos ((mapped_window resolved).mpr range.window)
  rw [encodingLength_byte] at needed
  simp only [fetchInstruction, loadBytes_ram resolved, needed, opened _ _ .fetch, mapped, Bool.false_eq_true, if_false]

/-- The length of an encoding is told by its two low bits. -/
theorem encodingLength_iff (word : BitVec 32) :
    word &&& encodingLengthMask = encodingLength32Bit ↔ word.extractLsb' 0 2 = 0b11 := by
  rw [encodingLengthMask, masked word 2 3 rfl]
  rcases funct2_cases (word.extractLsb' 0 2) with low | low | low | low <;> rw [low] <;> decide

theorem decodeC_meets (compressed : halfword.extractLsb' 0 2 ≠ 0b11) (named : Rv64.expand halfword ≠ .reserved) :
    Meets halfword (decodeC (halfword.setWidth 32)) (Rv64.expand halfword) := by
  have wide : halfword.setWidth 32 ≠ 0 := by
    intro zero
    have value := congrArg BitVec.toNat zero
    have none : halfword = 0 := by
      apply BitVec.eq_of_toNat_eq
      rw [BitVec.toNat_setWidth, Nat.mod_eq_of_lt (by omega)] at value
      exact value
    subst none
    exact named rfl
  rw [decodeC, Rv64.expand, whole_halfword, if_neg wide, masked _ 2 3 rfl, extract_setWidth]
  rcases funct2_cases (halfword.extractLsb' 0 2) with quadrant | quadrant | quadrant | quadrant
  · rw [quadrant]
    exact decodeQuadrant0_meets halfword
  · rw [quadrant]
    exact decodeQuadrant1_meets halfword
  · rw [quadrant]
    exact decodeQuadrant2_meets halfword
  · exact absurd quadrant compressed

/-- A word that the machine fetches is fetched and decoded whole. -/
theorem fetchInstruction_word (bare : BareMemory memory) (opened : PmpOpen registers) {word : BitVec 32}
    (fetched : (ramBytes memory).load registers.programCounter.toNat 4 = some word)
    (long : word.extractLsb' 0 2 = 0b11) : ∃ bytes, fetchInstruction registers memory = .fetched bytes memory ∧
      decode bytes = (decode32 word, fourBytes) := by
  obtain ⟨offset, range, same⟩ := ramBytes_load (by decide) fetched
  have number : bytesToNumber (loadBytesFromRam memory 0 offset 4) = word := by
    refine eq_of_byte (show 32 = 8 * 4 from rfl) fun index inside => ?_
    rw [byte_bytesToNumber _ _ inside, range.byte_loaded (Nat.le_refl 4) index inside, same]
    have read : byte (ofBytes (fun index => ramByte memory (offset + index)) 4 : BitVec 32) index =
        ramByte memory (offset + index) := byte_ofBytes _ inside (by decide)
    exact read.symm
  have whole := (encodingLength_iff word).mpr long
  refine ⟨_, fetchInstruction_ram bare opened range (by decide) ?_, ?_⟩
  · rw [number, if_pos whole]
  · simp only [decode, number, whole, ne_eq, not_true_eq_false, if_false]

/-- A halfword that the machine fetches is decoded alone, whatever was loaded behind it. -/
theorem fetchInstruction_halfword (bare : BareMemory memory) (opened : PmpOpen registers) {halfword : BitVec 16}
    (fetched : (ramBytes memory).load registers.programCounter.toNat 2 = some halfword)
    (compressed : halfword.extractLsb' 0 2 ≠ 0b11) :
    ∃ bytes, fetchInstruction registers memory = .fetched bytes memory ∧
      decode bytes = (decodeC (halfword.setWidth 32), twoBytes) := by
  obtain ⟨offset, range, same⟩ := ramBytes_load (by decide) fetched
  have low : bytesToNumber (loadBytesFromRam memory 0 offset 4) &&& 0xffff = halfword.setWidth 32 := by
    refine eq_of_byte (show 32 = 8 * 4 from rfl) fun index inside => ?_
    rw [byte_and, byte_bytesToNumber _ _ inside, byte_setWidth _ (by omega)]
    by_cases first : index < 2
    · have covered : byte (0xffff : BitVec 32) index = BitVec.allOnes 8 := by
        interval_cases index <;> rfl
      have read : byte (ofBytes (fun index => ramByte memory (offset + index)) 2 : BitVec 16) index =
          ramByte memory (offset + index) := byte_ofBytes _ first (by decide)
      rw [covered, range.byte_loaded (by decide) index first, same, BitVec.and_allOnes]
      exact read.symm
    · have cleared : byte (0xffff : BitVec 32) index = BitVec.ofNat 8 0 := by
        interval_cases index <;> rfl
      rw [cleared, BitVec.and_zero, byte_of_ge _ (by omega)]
      rfl
  have short : bytesToNumber (loadBytesFromRam memory 0 offset 4) &&& encodingLengthMask ≠ encodingLength32Bit := by
    rw [← halfword_encodingLength, low]
    intro long
    rw [encodingLength_iff, extract_setWidth] at long
    exact compressed long
  refine ⟨_, fetchInstruction_ram bare opened range (by decide) (if_neg short), ?_⟩
  simp only [decode, low, short, ne_eq, not_false_eq_true, if_true]

/-! One instruction. -/

theorem completesAs_branch (function : BranchFunction) (args : BranchArgs)
    (stepped : (machineOf registers memory zero).branch (function.taken
      (registers.generalPurpose args.sourceRegister1) (registers.generalPurpose args.sourceRegister2)) args.immediate
      (registers.programCounter + length) = some next) :
    CompletesAs registers memory (function.execute registers memory args length) next := by
  have written : some ((machineOf registers memory zero).write 0 0
      (if function.taken (registers.generalPurpose args.sourceRegister1)
          (registers.generalPurpose args.sourceRegister2) then registers.programCounter + args.immediate
        else registers.programCounter + length)) = some next := stepped
  exact completesAs_integer (.branch function args) rfl written

theorem completesAs_advance (stepped : some ((machineOf registers memory zero).jump
      (registers.programCounter + length)) = some next) :
    CompletesAs registers memory (.completed (advanceProgramCounter registers length) memory) next := by
  obtain rfl := Option.some.inj stepped
  have shown : machineOf (advanceProgramCounter registers length) memory zero =
      (machineOf registers memory zero).jump (registers.programCounter + length) :=
    Rv64.Machine.ext rfl (addBytes_eq _ _) rfl rfl
  exact ⟨advanceProgramCounter registers length, memory, zero, rfl, shown, ⟨rfl, rfl⟩, rfl⟩

/-- Each instruction completes with its step. -/
theorem executeMnemonic_completesAs (bare : BareMemory memory) (opened : PmpOpen registers)
    (hart : hartIdOf registers < reservationHartCount) (word : BitVec 32) (mnemonic : Rv64.Mnemonic)
    (stepped : (machineOf registers memory zero).execute reservationLineSize word length mnemonic = some next) :
    CompletesAs registers memory (executeMnemonic registers memory word length mnemonic) next := by
  cases mnemonic with
  | lui => exact completesAs_integer (.lui ⟨_, _⟩) rfl stepped
  | auipc => exact completesAs_integer (.auipc ⟨_, _⟩) rfl stepped
  | jal => exact completesAs_integer (.jal ⟨_, _⟩) rfl stepped
  | jalr => exact completesAs_integer (.jalr ⟨_, _, _⟩) rfl stepped
  | beq => exact completesAs_branch .beq ⟨_, _, _⟩ stepped
  | bne => exact completesAs_branch .bne ⟨_, _, _⟩ stepped
  | blt => exact completesAs_branch .blt ⟨_, _, _⟩ stepped
  | bge => exact completesAs_branch .bge ⟨_, _, _⟩ stepped
  | bltu => exact completesAs_branch .bltu ⟨_, _, _⟩ stepped
  | bgeu => exact completesAs_branch .bgeu ⟨_, _, _⟩ stepped
  | lb => exact completesAs_load bare opened .lb ⟨_, _, _⟩ stepped
  | lh => exact completesAs_load bare opened .lh ⟨_, _, _⟩ stepped
  | lw => exact completesAs_load bare opened .lw ⟨_, _, _⟩ stepped
  | ld => exact completesAs_load bare opened .ld ⟨_, _, _⟩ stepped
  | lbu => exact completesAs_load bare opened .lbu ⟨_, _, _⟩ stepped
  | lhu => exact completesAs_load bare opened .lhu ⟨_, _, _⟩ stepped
  | lwu => exact completesAs_load bare opened .lwu ⟨_, _, _⟩ stepped
  | sb => exact completesAs_store bare opened hart .sb ⟨_, _, _⟩ stepped
  | sh => exact completesAs_store bare opened hart .sh ⟨_, _, _⟩ stepped
  | sw => exact completesAs_store bare opened hart .sw ⟨_, _, _⟩ stepped
  | sd => exact completesAs_store bare opened hart .sd ⟨_, _, _⟩ stepped
  | addi => exact completesAs_integer (.opImm .addi ⟨_, _, _⟩) rfl stepped
  | slti => exact completesAs_integer (.opImm .slti ⟨_, _, _⟩) rfl stepped
  | sltiu => exact completesAs_integer (.opImm .sltiu ⟨_, _, _⟩) rfl stepped
  | xori => exact completesAs_integer (.opImm .xori ⟨_, _, _⟩) rfl stepped
  | ori => exact completesAs_integer (.opImm .ori ⟨_, _, _⟩) rfl stepped
  | andi => exact completesAs_integer (.opImm .andi ⟨_, _, _⟩) rfl stepped
  | addiw => exact completesAs_integer (.opImm .addiw ⟨_, _, _⟩) rfl stepped
  | slli => exact completesAs_integer (.shiftImm .slli ⟨_, _, _⟩) rfl stepped
  | srli => exact completesAs_integer (.shiftImm .srli ⟨_, _, _⟩) rfl stepped
  | srai => exact completesAs_integer (.shiftImm .srai ⟨_, _, _⟩) rfl stepped
  | slliw => exact completesAs_integer (.shiftImm .slliw ⟨_, _, _⟩) rfl stepped
  | srliw => exact completesAs_integer (.shiftImm .srliw ⟨_, _, _⟩) rfl stepped
  | sraiw => exact completesAs_integer (.shiftImm .sraiw ⟨_, _, _⟩) rfl stepped
  | add => exact completesAs_integer (.op .add ⟨_, _, _⟩) rfl stepped
  | sub => exact completesAs_integer (.op .sub ⟨_, _, _⟩) rfl stepped
  | sll => exact completesAs_integer (.op .sll ⟨_, _, _⟩) rfl stepped
  | slt => exact completesAs_integer (.op .slt ⟨_, _, _⟩) rfl stepped
  | sltu => exact completesAs_integer (.op .sltu ⟨_, _, _⟩) rfl stepped
  | xor => exact completesAs_integer (.op .xor ⟨_, _, _⟩) rfl stepped
  | srl => exact completesAs_integer (.op .srl ⟨_, _, _⟩) rfl stepped
  | sra => exact completesAs_integer (.op .sra ⟨_, _, _⟩) rfl stepped
  | or => exact completesAs_integer (.op .or ⟨_, _, _⟩) rfl stepped
  | and => exact completesAs_integer (.op .and ⟨_, _, _⟩) rfl stepped
  | addw => exact completesAs_integer (.op .addw ⟨_, _, _⟩) rfl stepped
  | subw => exact completesAs_integer (.op .subw ⟨_, _, _⟩) rfl stepped
  | sllw => exact completesAs_integer (.op .sllw ⟨_, _, _⟩) rfl stepped
  | srlw => exact completesAs_integer (.op .srlw ⟨_, _, _⟩) rfl stepped
  | sraw => exact completesAs_integer (.op .sraw ⟨_, _, _⟩) rfl stepped
  | mul => exact completesAs_integer (.op .mul ⟨_, _, _⟩) rfl stepped
  | mulh => exact completesAs_integer (.op .mulh ⟨_, _, _⟩) rfl stepped
  | mulhsu => exact completesAs_integer (.op .mulhsu ⟨_, _, _⟩) rfl stepped
  | mulhu => exact completesAs_integer (.op .mulhu ⟨_, _, _⟩) rfl stepped
  | div => exact completesAs_integer (.op .div ⟨_, _, _⟩) rfl stepped
  | divu => exact completesAs_integer (.op .divu ⟨_, _, _⟩) rfl stepped
  | rem => exact completesAs_integer (.op .rem ⟨_, _, _⟩) rfl stepped
  | remu => exact completesAs_integer (.op .remu ⟨_, _, _⟩) rfl stepped
  | mulw => exact completesAs_integer (.op .mulw ⟨_, _, _⟩) rfl stepped
  | divw => exact completesAs_integer (.op .divw ⟨_, _, _⟩) rfl stepped
  | divuw => exact completesAs_integer (.op .divuw ⟨_, _, _⟩) rfl stepped
  | remw => exact completesAs_integer (.op .remw ⟨_, _, _⟩) rfl stepped
  | remuw => exact completesAs_integer (.op .remuw ⟨_, _, _⟩) rfl stepped
  | lrW => exact completesAs_lr bare opened hart .word ⟨_, _, _⟩ stepped
  | scW => exact completesAs_sc bare opened hart .word ⟨_, _, _⟩ stepped
  | amoswapW => exact completesAs_amo bare opened hart .amoswap .word ⟨_, _, _⟩ stepped
  | amoaddW => exact completesAs_amo bare opened hart .amoadd .word ⟨_, _, _⟩ stepped
  | amoxorW => exact completesAs_amo bare opened hart .amoxor .word ⟨_, _, _⟩ stepped
  | amoandW => exact completesAs_amo bare opened hart .amoand .word ⟨_, _, _⟩ stepped
  | amoorW => exact completesAs_amo bare opened hart .amoor .word ⟨_, _, _⟩ stepped
  | amominW => exact completesAs_amo bare opened hart .amomin .word ⟨_, _, _⟩ stepped
  | amomaxW => exact completesAs_amo bare opened hart .amomax .word ⟨_, _, _⟩ stepped
  | amominuW => exact completesAs_amo bare opened hart .amominu .word ⟨_, _, _⟩ stepped
  | amomaxuW => exact completesAs_amo bare opened hart .amomaxu .word ⟨_, _, _⟩ stepped
  | lrD => exact completesAs_lr bare opened hart .doubleword ⟨_, _, _⟩ stepped
  | scD => exact completesAs_sc bare opened hart .doubleword ⟨_, _, _⟩ stepped
  | amoswapD => exact completesAs_amo bare opened hart .amoswap .doubleword ⟨_, _, _⟩ stepped
  | amoaddD => exact completesAs_amo bare opened hart .amoadd .doubleword ⟨_, _, _⟩ stepped
  | amoxorD => exact completesAs_amo bare opened hart .amoxor .doubleword ⟨_, _, _⟩ stepped
  | amoandD => exact completesAs_amo bare opened hart .amoand .doubleword ⟨_, _, _⟩ stepped
  | amoorD => exact completesAs_amo bare opened hart .amoor .doubleword ⟨_, _, _⟩ stepped
  | amominD => exact completesAs_amo bare opened hart .amomin .doubleword ⟨_, _, _⟩ stepped
  | amomaxD => exact completesAs_amo bare opened hart .amomax .doubleword ⟨_, _, _⟩ stepped
  | amominuD => exact completesAs_amo bare opened hart .amominu .doubleword ⟨_, _, _⟩ stepped
  | amomaxuD => exact completesAs_amo bare opened hart .amomaxu .doubleword ⟨_, _, _⟩ stepped
  | fence | fenceI => exact completesAs_advance stepped
  | csrrw | csrrs | csrrc | csrrwi | csrrsi | csrrci | ecall | ebreak | sret | mret | wfi | sfenceVma => cases stepped

/-- What is fetched where the machine has a step completes with that step. -/
theorem fetched_completesAs (bare : BareMemory memory) (opened : PmpOpen registers)
    (hart : hartIdOf registers < reservationHartCount)
    (step : Rv64.Step reservationLineSize (machineOf registers memory zero) next) :
    ∃ bytes, fetchInstruction registers memory = .fetched bytes memory ∧
      CompletesAs registers memory ((decode bytes).1.execute registers memory (decode bytes).2) next := by
  cases step with
  | @word word mnemonic _ fetched long matched executed =>
    obtain ⟨bytes, ran, decoded⟩ := fetchInstruction_word bare opened fetched long
    refine ⟨bytes, ran, ?_⟩
    rw [decoded, execute_of_matches mnemonic matched]
    exact executeMnemonic_completesAs bare opened hart word mnemonic executed
  | @halfword halfword word mnemonic _ fetched compressed expands matched executed =>
    obtain ⟨bytes, ran, decoded⟩ := fetchInstruction_halfword bare opened fetched compressed
    have meets := decodeC_meets compressed (by rw [expands]; intro other; cases other)
    rw [expands] at meets
    refine ⟨bytes, ran, ?_⟩
    rw [decoded, meets, execute_of_matches mnemonic matched]
    exact executeMnemonic_completesAs bare opened hart word mnemonic executed
  | @hint halfword word fetched compressed expands =>
    obtain ⟨bytes, ran, decoded⟩ := fetchInstruction_halfword bare opened fetched compressed
    have meets := decodeC_meets compressed (by rw [expands]; intro other; cases other)
    rw [expands] at meets
    refine ⟨bytes, ran, ?_⟩
    rw [decoded, meets.2]
    exact completesAs_advance rfl

/-- Counting an instruction does not show. -/
theorem machineOf_committed (memory : Memory) (zero : registers.generalPurpose 0 = 0) :
    ∃ zero', machineOf (commitInstructionRetire registers) memory zero' = machineOf registers memory zero := by
  have file := commitInstructionRetire_generalPurpose registers
  have retired := commitInstructionRetire_retired registers
  have identity := (BareKept.of_retired retired).hartIdOf
  exact ⟨(congrFun file 0).trans zero,
    Rv64.Machine.ext file retired.programCounter rfl (congrArg (reservedOf memory) identity)⟩

theorem execute_idle {thunk : ExecuteThunk} (idle : MonitorIdle memory)
    (completed : thunk.execute registers memory length = .completed after stored) : MonitorIdle stored := by
  have kept : Unwinding.Within KeepsIdle (Unwinding.execute registers thunk length) := Unwinding.execute_within thunk
  have released := kept memory idle
  have ended : (thunk.execute registers memory length).memory? = some stored := by
    rw [completed]
    rfl
  rwa [Unwinding.execute_left ended] at released

theorem BareMemory.of_layout (bare : BareMemory memory) (layout : stored.layout = memory.layout)
    (idle : MonitorIdle stored) : BareMemory stored where
  nonempty := by
    have nonempty := bare.nonempty
    unfold DevicesNonempty at *
    rwa [layout]
  based := by
    rw [layout]
    exact bare.based
  idle := idle

/-- A step of the machine is a step of the hart. -/
theorem stepInstruction_completesAs (bare : BareMemory memory) (opened : PmpOpen registers)
    (hart : hartIdOf registers < reservationHartCount)
    (step : Rv64.Step reservationLineSize (machineOf registers memory zero) next) :
    ∃ after stored zero', stepInstruction registers memory = .completed after stored ∧
      machineOf after stored zero' = next ∧ BareKept registers after ∧ BareMemory stored := by
  have begun : Rv64.Step reservationLineSize (machineOf (beginInstructionRetire registers) memory zero) next := step
  have granted : PmpOpen (beginInstructionRetire registers) := opened
  obtain ⟨bytes, fetched, after, stored, zero', completed, shown, kept, layout⟩ :=
    fetched_completesAs bare granted hart begun
  have found : fetchInstruction registers memory = .fetched bytes memory := fetched
  obtain ⟨zeroAfter, same⟩ := machineOf_committed stored zero'
  refine ⟨commitInstructionRetire after, stored, zeroAfter, ?_, same.trans shown, ?_,
    bare.of_layout layout (execute_idle bare.idle completed)⟩
  · simp only [stepInstruction, found, completed, Execution.commit]
  · have started : BareKept registers (beginInstructionRetire registers) := ⟨rfl, fun _ _ => rfl⟩
    exact started.trans ((BareKept.of_control kept).trans (.of_retired (commitInstructionRetire_retired after)))

/-! Turns of the loop. -/

theorem Confined.sameRam {ids : List String} (confined : Confined ids memory stored) (other : ramRegionId ∉ ids) :
    SameRam memory stored where
  layout := confined.changes.layout
  bytes offset inside := by
    rw [ramByte, ramByte, confined.changes.layout]
    refine confined.changes.bytes _ fun reached => ?_
    have apart := reached.apart memory.layout.ramFound other
    simp only [MappedRegion.toRegion] at apart
    omega

namespace RanElsewhere

/-- What touches neither RAM nor the monitor runs elsewhere. -/
theorem of_confined {ids : List String} (confined : Confined ids memory stored) (hart : hartId < reservationHartCount)
    (apart : ramRegionId ∉ ids ∧ reservationRegionId ∉ ids ∧ uartRegionId ∉ ids) :
    RanElsewhere hartId memory stored where
  ram := confined.sameRam apart.1
  reservation := reservationOf_confined confined.changes apart.2.1 hart
  idle idle := idle.of_confined confined apart.2.1 apart.2.2

theorem bare (ran : RanElsewhere hartId memory stored) (bare : BareMemory memory) : BareMemory stored :=
  bare.of_layout ran.ram.layout (ran.idle bare.idle)

theorem machineOf (ran : RanElsewhere (hartIdOf registers) memory stored) (zero : registers.generalPurpose 0 = 0) :
    machineOf registers stored zero = Emulator.machineOf registers memory zero := by
  refine Rv64.Machine.ext rfl rfl ran.ram.ramBytes ?_
  change reservedOf stored _ = reservedOf memory _
  rw [reservedOf, ran.reservation, reservedOf]

end RanElsewhere

/-- A sample of the wires does not show. -/
theorem machineOf_sampled (memory : Memory) (zero : registers.generalPurpose 0 = 0) : ∃ zero',
    machineOf (sampleDevicePending registers memory).1 memory zero' = machineOf registers memory zero := by
  have sampled := sampleDevicePending_sampledFrom registers memory
  have identity := (BareKept.of_sampled sampled).hartIdOf
  exact ⟨(congrFun sampled.generalPurpose 0).trans zero, Rv64.Machine.ext sampled.generalPurpose
    sampled.programCounter rfl (congrArg (reservedOf memory) identity)⟩

theorem BareHart.elsewhere (hart : BareHart registers memory) (ran : RanElsewhere (hartIdOf registers) memory stored) :
    BareHart registers stored :=
  ⟨hart.aligned, hart.masked, hart.opened, ran.bare hart.bare⟩

/-- A turn of the loop does what the machine does. -/
theorem runLoopTurn_step (hart : BareHart registers memory)
    (step : Rv64.Step reservationLineSize (machineOf registers memory zero) next) :
    ∃ after stored zero', runLoopTurn registers memory = .completed after stored ∧
      machineOf after stored zero' = next ∧ BareKept registers after ∧ BareHart after stored := by
  have sampled := BareKept.of_sampled (sampleDevicePending_sampledFrom registers memory)
  have identity := sampled.hartIdOf
  have valid := hart.aligned.invariant.hartIdOf
  have ran : RanElsewhere (hartIdOf registers) memory (sampleDevicePending registers memory).2 :=
    .of_confined (sampleDevicePending_confined registers memory) valid (by decide)
  obtain ⟨zeroSampled, same⟩ := machineOf_sampled memory zero
  rw [← same, ← RanElsewhere.machineOf (by rwa [identity]) zeroSampled] at step
  obtain ⟨after, stored, zero', completed, shown, kept, bare⟩ :=
    stepInstruction_completesAs (ran.bare hart.bare) (sampled.opened hart.opened) (by rwa [identity]) step
  have turned : runLoopTurn registers memory = .completed after stored := by
    simp only [runLoopTurn, (sampled.masked hart.masked).takeInterruptIfAny, (hart.aligned.sampled memory).unmisaligned,
      completed]
  refine ⟨after, stored, zero', turned, shown, sampled.trans kept, ?_, ?_, ?_, bare⟩
  · exact runLoopTurn_aligned hart.aligned (by rw [turned]; rfl)
  · exact kept.masked (sampled.masked hart.masked)
  · exact kept.opened (sampled.opened hart.opened)

/-- A hart that runs as a bare machine does, turn by turn, what the machine does, whatever runs
elsewhere in between. -/
theorem completedTurns_refines (elsewhere : Nat → Memory → Memory) (hart : BareHart registers memory)
    (ran : ∀ turn before, RanElsewhere (hartIdOf registers) before (elsewhere turn before))
    (run : Rv64.Steps reservationLineSize (machineOf registers memory hart.aligned.invariant.zero) count final) :
    ∃ after stored, ∃ finished : BareHart after stored,
      completedTurns elsewhere registers memory count = some (after, stored) ∧
        machineOf after stored finished.aligned.invariant.zero = final ∧ hartIdOf after = hartIdOf registers := by
  induction run with
  | refl => exact ⟨registers, memory, hart, rfl, rfl, rfl⟩
  | @tail count _ _ run step ih =>
    obtain ⟨middle, left, reached, turned, shown, identity⟩ := ih
    have others := ran count left
    rw [← identity] at others
    rw [← shown, ← others.machineOf] at step
    obtain ⟨after, stored, zero', completed, same, kept, finished⟩ := runLoopTurn_step (reached.elsewhere others) step
    refine ⟨after, stored, finished, ?_, same, kept.hartIdOf.trans identity⟩
    rw [completedTurns, turned, Option.bind_some]
    dsimp only
    rw [completed]

/-- With every entry off, M-mode may access everything. -/
theorem pmpOpen_off (off : ∀ entry < pmpEntryCount, entryRange registers entry = none)
    (machine : ∀ access, accessIsMachine registers access = true) : PmpOpen registers := by
  intro address byteLength access
  have silent : (List.range pmpEntryCount).findSome? (entryDenies registers (bytesToBigInt address)
      (bytesToBigInt address + byteLength) (accessIsMachine registers access) access) = none := by
    refine List.findSome?_eq_none_iff.mpr fun entry member => ?_
    rw [entryDenies, off entry (List.mem_range.mp member)]
  rw [physicalMemoryAccessDenied, silent, machine]
  rfl

/-- `addi x1, x0, 5` and `c.addi x1, 1` at the base of RAM. -/
def addingMemory : Memory := storeBytesToRam defaultMemory 0 0x8500500093 8

theorem addingHart : BareHart (setProgramCounter createRegisters 0x80000000) addingMemory where
  aligned := ⟨RegisterInvariant.created.setProgramCounter _, by decide⟩
  masked := .inr (by decide)
  opened := pmpOpen_off (by decide) fun access => by cases access <;> decide
  bare := ⟨fun spec member _ => defaultMemory_nonempty spec member, by decide, ⟨by decide, by decide, by decide⟩,
    by unfold TransmitTailValid; decide⟩

theorem completedTurns_refines_addition : ∃ after stored,
    completedTurns (fun _ => updateTimerWiresFromCompare) (setProgramCounter createRegisters 0x80000000) addingMemory 2 =
      some (after, stored) ∧ after.generalPurpose 1 = 6 := by
  have ran (turn : Nat) (before : Memory) : RanElsewhere (hartIdOf (setProgramCounter createRegisters 0x80000000))
      before (updateTimerWiresFromCompare before) :=
    .of_confined updateTimerWiresFromCompare_confined (by decide) (by decide)
  have word := @Rv64.Step.word reservationLineSize
    (machineOf (setProgramCounter createRegisters 0x80000000) addingMemory addingHart.aligned.invariant.zero)
    0x00500093 .addi _ (by decide) (by decide) rfl rfl
  have halfword := @Rv64.Step.halfword reservationLineSize
    ((machineOf (setProgramCounter createRegisters 0x80000000) addingMemory
      addingHart.aligned.invariant.zero).write 1 5 0x80000004)
    0x0085 (Rv64.addi 1 1 1) .addi _ (by decide) (by decide) (by decide) rfl rfl
  obtain ⟨after, stored, finished, turned, shown, _⟩ := completedTurns_refines (fun _ => updateTimerWiresFromCompare)
    addingHart ran ((Rv64.Steps.refl.tail word).tail halfword)
  refine ⟨after, stored, turned, ?_⟩
  exact congrFun (congrArg Rv64.Machine.x shown) 1

end YaRiscV.Emulator
