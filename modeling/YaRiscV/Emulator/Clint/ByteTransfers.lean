import YaRiscV.Emulator.Clint.Compare

/-! CLINT transfers of several bytes against the same bytes one at a time, on a host clock that
stands still. -/

namespace YaRiscV.Emulator

open YaRiscV.Library YaRiscV.Utils

/-- Every reading of the host clock is the same. -/
def ClockFrozen (memory : Memory) : Prop := ∀ reading, memory.worker.hrtime reading = memory.worker.hrtime 0

/-- One byte as a source. -/
def singleByte (value : BitVec 8) : Bytes8 := uint8ArrayOf value 0 0 0 0 0 0 0

/-- The stores of the bytes of `source` one at a time, in address order. -/
def storeClintBytewise (memory : Memory) (offset : Int) (source : Bytes8) (byteLength : Nat) : Except String Memory :=
  forEachIndex (fun byteIndex state => state.bind fun memory =>
    storeBytesToClint memory (offset + byteIndex) (singleByte (byte source byteIndex)) 1) byteLength (.ok memory)

/-- The loads of the bytes one at a time, collected in `destination`. -/
def loadClintBytewise (destination : Bytes8) (memory : Memory) (offset : Int) (byteLength : Nat) :
    Except String (Bytes8 × Memory) :=
  forEachIndex (fun byteIndex state => state.bind fun (destination, memory) =>
    (loadBytesFromClint 0 memory (offset + byteIndex) 1).map fun (loaded, memory) =>
      (setByte destination byteIndex (byte loaded 0), memory)) byteLength (.ok (destination, memory))

/-- The wires of the timers, and the word that gathers the lines. -/
def InTimerWires (layout : Layout) (position : Nat) : Prop :=
  position = layout.clint.hostIndex + clintHostMachineTimerWireOffset ∨
    position = layout.clint.hostIndex + clintHostSupervisorTimerWireOffset ∨ InIrqLevel layout position

/-- Two memories that differ in the timer wires and their lines only. -/
structure SameButTimerWires (left right : Memory) : Prop where
  changes : ChangesOnly (InTimerWires left.layout) left right
  worker : right.worker = left.worker
  line : loadIrqLevel right &&& ~~~timerLines = loadIrqLevel left &&& ~~~timerLines

variable {memory left right middle : Memory}

theorem InTimerWires.timebase (inside : InTimerWires memory.layout position) :
    ¬ InClintTimebase memory.layout position := by
  have apart := memory.layout.clint_irqLevel
  simp [InTimerWires, InClintTimebase, InIrqLevel] at inside apart ⊢
  omega

theorem updateTimerWiresFromCompare_wiresOnly (memory : Memory) :
    ChangesOnly (InTimerWires memory.layout) memory (updateTimerWiresFromCompare memory) := by
  refine ⟨updateTimerWiresFromCompare_layout, fun position outside => ?_⟩
  by_cases word : InClintTimebase memory.layout position
  · exact updateTimerWiresFromCompare_same.bytes position (not_not_intro word)
  · refine (updateTimerWiresFromCompare_changes memory).bytes position fun reached => ?_
    rcases reached with time | wires
    · simp only [InClintTimebase] at word
      omega
    · exact outside wires

/-- Deriving the timer wires leaves nothing of what they were. -/
theorem SameButTimerWires.updated (same : SameButTimerWires left right) :
    updateTimerWiresFromCompare right = updateTimerWiresFromCompare left := by
  have layout : right.layout = left.layout := same.changes.layout
  have words : SameTimebase left right := same.changes.mono fun _ inside => inside.timebase
  have updatedLeft : SameTimebase left (updateTimerWiresFromCompare left) := updateTimerWiresFromCompare_same
  have updatedRight : SameTimebase right (updateTimerWiresFromCompare right) := updateTimerWiresFromCompare_same
  have word (element : Nat) (real : element < 6) (notWires : element ≠ 2) :
      (updateTimerWiresFromCompare right).load64 (clintHostUint64 (updateTimerWiresFromCompare right) element) =
        (updateTimerWiresFromCompare left).load64 (clintHostUint64 (updateTimerWiresFromCompare left) element) :=
    ((words.trans updatedRight).word element real notWires).trans (updatedLeft.word element real notWires).symm
  have mtime : readTimeRegister (updateTimerWiresFromCompare right) .mtime =
      readTimeRegister (updateTimerWiresFromCompare left) .mtime := word 0 (by decide) (by decide)
  have mtimecmp : readTimeRegister (updateTimerWiresFromCompare right) .mtimecmp =
      readTimeRegister (updateTimerWiresFromCompare left) .mtimecmp := word 1 (by decide) (by decide)
  have mirror : readStimecmpMirror (updateTimerWiresFromCompare right) =
      readStimecmpMirror (updateTimerWiresFromCompare left) := word 5 (by decide) (by decide)
  have currentRight : TimerWiresCurrent (updateTimerWiresFromCompare right) := updateTimerWiresFromCompare_current
  have currentLeft : TimerWiresCurrent (updateTimerWiresFromCompare left) := updateTimerWiresFromCompare_current
  obtain ⟨machineRight, supervisorRight⟩ := currentRight
  obtain ⟨machineLeft, supervisorLeft⟩ := currentLeft
  rw [mtime, mtimecmp, clintByteIndex, updateTimerWiresFromCompare_layout, layout] at machineRight
  rw [mtime, mirror, clintByteIndex, updateTimerWiresFromCompare_layout, layout] at supervisorRight
  rw [clintByteIndex, updateTimerWiresFromCompare_layout] at machineLeft supervisorLeft
  have level : loadIrqLevel (updateTimerWiresFromCompare right) = loadIrqLevel (updateTimerWiresFromCompare left) := by
    refine eq_of_lines (machineRight.line.trans machineLeft.line.symm)
      (supervisorRight.line.trans supervisorLeft.line.symm) ?_
    rw [timerWires_line, timerWires_line, same.line]
  apply Memory.ext
  · rw [updateTimerWiresFromCompare_layout, updateTimerWiresFromCompare_layout, layout]
  · funext position
    by_cases reached : InTimerWires left.layout position
    · rcases reached with rfl | rfl | ⟨low, high⟩
      · exact machineRight.wire.trans machineLeft.wire.symm
      · exact supervisorRight.wire.trans supervisorLeft.wire.symm
      · rw [loadIrqLevel, loadIrqLevel, updateTimerWiresFromCompare_layout, updateTimerWiresFromCompare_layout,
          layout] at level
        exact byte_of_load32 level low high
    · rw [(updateTimerWiresFromCompare_wiresOnly left).bytes position reached,
        (updateTimerWiresFromCompare_wiresOnly right).bytes position (by rwa [layout]),
        same.changes.bytes position reached]
  · rw [updateTimerWiresFromCompare_worker, updateTimerWiresFromCompare_worker, same.worker]

/-! A store of a time register: what it writes before it derives the wires. -/

/-- The register's word, and the epoch with `mtime`. -/
def TimeWords (layout : Layout) (register : ClintTimeRegister) (position : Nat) : Prop :=
  match register with
  | .mtime => layout.clint.hostIndex ≤ position ∧ position < layout.clint.hostIndex + 8 ∨
      layout.clint.hostIndex + 24 ≤ position ∧ position < layout.clint.hostIndex + 32
  | .mtimecmp => layout.clint.hostIndex + 8 ≤ position ∧ position < layout.clint.hostIndex + 16

/-- The register written, and the epoch reseated with `mtime`. -/
def timeWritten (memory : Memory) (register : ClintTimeRegister) (value : BitVec 64) : Except String Memory :=
  let written := memory.store64 (clintHostUint64 memory (timeRegisterUint64Index register)) value
  if register = .mtime then reseatEpochForMtime written value.toNat else .ok written

structure TimeWritten (memory : Memory) (register : ClintTimeRegister) (value : BitVec 64) (after : Memory) :
    Prop where
  changes : ChangesOnly (TimeWords memory.layout register) memory after
  worker : after.worker = memory.worker
  stored : readTimeRegister after register = value
  epoch : register = .mtime → readEpochNs after = BitVec.ofInt 64 ((memory.worker.hrtime 0 : Int) -
    ((value.toNat : Int) * nsPerSecond).tdiv (readTimebaseHz memory).toNat)

theorem storeClintTimeBytes_eq (memory : Memory) (register : ClintTimeRegister) (byteOffset : Nat) (source : Bytes8)
    (byteLength : Nat) : storeClintTimeBytes memory register byteOffset source byteLength =
      (timeWritten memory register (mergeTimeBytes (readTimeRegister memory register) byteOffset source
        byteLength)).map updateTimerWiresFromCompare := by
  simp only [storeClintTimeBytes, storeClintTimeBytesLoop, compareExchangeTimeRegister_self, ne_eq,
    not_true_eq_false, ↓reduceIte, timeWritten]

theorem readHostClock_frozen (frozen : ClockFrozen memory) : memory.readHostClock.2 = memory := by
  have same : (fun reading => memory.worker.hrtime (reading + 1)) = memory.worker.hrtime :=
    funext fun reading => (frozen (reading + 1)).trans (frozen reading).symm
  rw [Memory.readHostClock]
  simp only [same]

/-- A store throws only where a reseat finds no frequency. -/
theorem timeWritten_unset (unset : (readTimebaseHz memory).toNat = 0) (value : BitVec 64) :
    timeWritten memory .mtime value = .error "CLINT timebase frequency is not set." := by
  have kept : readTimebaseHz (memory.store64 (clintHostUint64 memory 0) value) = readTimebaseHz memory :=
    load64_store64_other memory (by decide) value
  have hz : timebaseHz (memory.store64 (clintHostUint64 memory 0) value).readHostClock.2 =
      .error "CLINT timebase frequency is not set." :=
    if_pos (by rw [← kept] at unset; exact unset)
  simp only [timeWritten, reseatEpochForMtime, ↓reduceIte, timeRegisterUint64Index, clintHostMtimeUint64Index,
    hz, Except.map]
  rfl

theorem timeWritten_mtime (frozen : ClockFrozen memory) (set : (readTimebaseHz memory).toNat ≠ 0)
    (value : BitVec 64) : timeWritten memory .mtime value = .ok
      (writeEpochNs (memory.store64 (clintHostUint64 memory 0) value) ((memory.worker.hrtime 0 : Int) -
        ((value.toNat : Int) * nsPerSecond).tdiv (readTimebaseHz memory).toNat)) := by
  have kept : readTimebaseHz (memory.store64 (clintHostUint64 memory 0) value) = readTimebaseHz memory :=
    load64_store64_other memory (by decide) value
  have still : (memory.store64 (clintHostUint64 memory 0) value).readHostClock.2 =
      memory.store64 (clintHostUint64 memory 0) value :=
    readHostClock_frozen frozen
  have hz : timebaseHz (memory.store64 (clintHostUint64 memory 0) value) = .ok (readTimebaseHz memory).toNat := by
    rw [timebaseHz_set (by rwa [kept]), kept]
  simp only [timeWritten, reseatEpochForMtime, ↓reduceIte, timeRegisterUint64Index, clintHostMtimeUint64Index,
    still, hz, Except.map]
  rfl

theorem TimeWritten.of_mtime (value epoch : BitVec 64) (seated : epoch = BitVec.ofInt 64
    ((memory.worker.hrtime 0 : Int) - ((value.toNat : Int) * nsPerSecond).tdiv (readTimebaseHz memory).toNat)) :
    TimeWritten memory .mtime value
      ((memory.store64 (clintHostUint64 memory 0) value).store64 (clintHostUint64 memory 3) epoch) := by
  have apart : (0 : Nat) ≠ 3 := by decide
  constructor
  case changes =>
    have word : ChangesOnly (TimeWords memory.layout .mtime) memory
        (memory.store64 (clintHostUint64 memory 0) value) :=
      .store64 (fun offset inside => by simp only [TimeWords, clintHostUint64]; omega) value
    refine word.trans (.store64 (fun offset inside => ?_) _)
    simp only [TimeWords, clintHostUint64]
    omega
  case worker => simp only [Memory.store64_worker]
  case stored =>
    have other := load64_store64_other (memory.store64 (clintHostUint64 memory 0) value) apart.symm epoch
    exact other.trans (Memory.load64_store64 value)
  case epoch => exact fun _ => (Memory.load64_store64 epoch).trans seated

/-- What a store of a time register leaves when it does not throw. -/
theorem timeWritten_ok (frozen : ClockFrozen memory) (register : ClintTimeRegister)
    (set : register = .mtime → (readTimebaseHz memory).toNat ≠ 0) (value : BitVec 64) :
    ∃ after, timeWritten memory register value = .ok after ∧ TimeWritten memory register value after := by
  cases register with
  | mtime => exact ⟨_, timeWritten_mtime frozen (set rfl) value, .of_mtime value _ rfl⟩
  | mtimecmp =>
    refine ⟨memory.store64 (clintHostUint64 memory 1) value, rfl, ?_⟩
    constructor
    case changes =>
      exact .store64 (fun offset inside => by simp only [TimeWords, clintHostUint64]; omega) value
    case worker => rfl
    case stored => exact Memory.load64_store64 value
    case epoch => exact fun other => by cases other

theorem TimeWords.outside (register : ClintTimeRegister) (inside : InIrqLevel memory.layout position) :
    ¬ TimeWords memory.layout register position := by
  have apart := memory.layout.clint_irqLevel
  cases register <;> simp [TimeWords, InIrqLevel] at inside apart ⊢ <;> omega

theorem TimeWritten.hz (written : TimeWritten memory register value after) :
    readTimebaseHz after = readTimebaseHz memory := by
  have layout : after.layout = memory.layout := written.changes.layout
  simp only [readTimebaseHz, clintHostUint64, layout]
  refine written.changes.load64 fun offset inside => ?_
  cases register <;> simp [TimeWords] <;> omega

theorem TimeWritten.irqLevel (written : TimeWritten memory register value after) :
    loadIrqLevel after = loadIrqLevel memory := by
  simp only [loadIrqLevel, written.changes.layout]
  exact written.changes.load32 fun offset inside =>
    TimeWords.outside register ⟨by omega, by omega⟩

/-- Of two stores to a register in a row only the second is left, but for the wires between them. -/
theorem TimeWritten.absorbed (first : TimeWritten memory register earlier middle)
    (second : TimeWritten (updateTimerWiresFromCompare middle) register value right)
    (direct : TimeWritten memory register value left) : SameButTimerWires left right := by
  have layout : (updateTimerWiresFromCompare middle).layout = memory.layout :=
    updateTimerWiresFromCompare_layout.trans first.changes.layout
  have worker : (updateTimerWiresFromCompare middle).worker = memory.worker :=
    updateTimerWiresFromCompare_worker.trans first.worker
  have rightLayout : right.layout = memory.layout := second.changes.layout.trans layout
  have leftLayout : left.layout = memory.layout := direct.changes.layout
  have hz : readTimebaseHz (updateTimerWiresFromCompare middle) = readTimebaseHz memory :=
    (updateTimerWiresFromCompare_same.word 4 (by decide) (by decide)).trans first.hz
  have register_same : readTimeRegister right register = readTimeRegister left register :=
    second.stored.trans direct.stored.symm
  simp only [readTimeRegister, clintHostUint64, rightLayout, leftLayout] at register_same
  constructor
  case worker => rw [second.worker, worker, direct.worker]
  case line => rw [second.irqLevel, timerWires_line, first.irqLevel, direct.irqLevel]
  case changes =>
    refine ⟨rightLayout.trans leftLayout.symm, fun position outside => ?_⟩
    rw [leftLayout] at outside
    by_cases written : TimeWords memory.layout register position
    · cases register with
      | mtime =>
        have epoch : readEpochNs right = readEpochNs left := by
          rw [second.epoch rfl, direct.epoch rfl, worker, hz]
        simp only [readEpochNs, clintHostUint64, rightLayout, leftLayout] at epoch
        rcases written with word | word
        · exact byte_of_load64 register_same word.1 word.2
        · exact byte_of_load64 epoch word.1 word.2
      | mtimecmp => exact byte_of_load64 register_same written.1 written.2
    · have wires := (updateTimerWiresFromCompare_wiresOnly middle).bytes position
        (by rwa [first.changes.layout])
      rw [second.changes.bytes position (by rwa [layout]), wires, first.changes.bytes position written,
        direct.changes.bytes position written]

/-- The same for whole calls, which throw together. -/
theorem timeWritten_twice (frozen : ClockFrozen memory) (register : ClintTimeRegister) (earlier value : BitVec 64) :
    ((timeWritten memory register earlier).map updateTimerWiresFromCompare).bind (fun memory =>
      (timeWritten memory register value).map updateTimerWiresFromCompare) =
        (timeWritten memory register value).map updateTimerWiresFromCompare := by
  by_cases set : register = .mtime → (readTimebaseHz memory).toNat ≠ 0
  · obtain ⟨middle, stored, first⟩ := timeWritten_ok frozen register set earlier
    obtain ⟨left, directly, direct⟩ := timeWritten_ok frozen register set value
    have hz : readTimebaseHz (updateTimerWiresFromCompare middle) = readTimebaseHz memory :=
      (updateTimerWiresFromCompare_same.word 4 (by decide) (by decide)).trans first.hz
    have still : ClockFrozen (updateTimerWiresFromCompare middle) := by
      intro reading
      rw [updateTimerWiresFromCompare_worker, first.worker, frozen reading]
    obtain ⟨right, again, second⟩ := timeWritten_ok still register (by rwa [hz]) value
    simp only [stored, directly, Except.map, Except.bind, again, (first.absorbed second direct).updated]
  · obtain ⟨rfl, unset⟩ : register = .mtime ∧ (readTimebaseHz memory).toNat = 0 := by
      simpa using set
    simp only [timeWritten_unset unset, Except.map, Except.bind]

/-! Merging bytes into a word. -/

theorem byte_singleByte (value : BitVec 8) : byte (singleByte value) 0 = value := by
  apply BitVec.eq_of_getLsbD_eq
  intro bit inside
  simp only [singleByte, uint8ArrayOf, getLsbD_byte, BitVec.getLsbD_append, inside]
  simp [inside]

/-- Replacing all eight bytes is the source. -/
theorem mergeTimeBytes_loop (previous : BitVec 64) (byteOffset : Nat) (source : Bytes8) (byteLength : Nat) :
    mergeTimeBytes previous byteOffset source byteLength = forEachIndex (fun byteIndex next =>
      setByte next (byteOffset + byteIndex) (byte source byteIndex)) byteLength previous := by
  rw [mergeTimeBytes]
  split
  · rename_i whole
    obtain ⟨rfl, rfl⟩ := whole
    apply eq_of_byte (by rfl : 64 = 8 * 8)
    intro index inside
    have merged (count : Nat) (small : count ≤ 8) : byte (forEachIndex (fun byteIndex next =>
        setByte next (0 + byteIndex) (byte source byteIndex)) count previous) index =
          if index < count then byte source index else byte previous index := by
      induction count with
      | zero => rfl
      | succ count ih =>
        rw [forEachIndex, byte_setByte _ _ (by omega), ih (by omega), Nat.zero_add]
        split_ifs <;> first | rfl | omega | simp_all
    rw [merged 8 le_rfl, if_pos inside]
  · rfl

theorem mergeTimeBytes_single (previous : BitVec 64) (byteOffset : Nat) (value : BitVec 8) :
    mergeTimeBytes previous byteOffset (singleByte value) 1 = setByte previous byteOffset value := by
  rw [mergeTimeBytes_loop, forEachIndex, forEachIndex, byte_singleByte, Nat.add_zero]

/-! Stores. -/

theorem storeClintTimeRegisterByte_eq (memory : Memory) (register : ClintTimeRegister) (byteOffset : Nat)
    (value : BitVec 8) : storeClintTimeRegisterByte memory register byteOffset value =
      (timeWritten memory register (setByte (readTimeRegister memory register) byteOffset value)).map
        updateTimerWiresFromCompare := by
  rw [storeClintTimeRegisterByte, ← singleByte, storeClintTimeBytes_eq, mergeTimeBytes_single]

theorem readTimeRegister_update (memory : Memory) (register : ClintTimeRegister) :
    readTimeRegister (updateTimerWiresFromCompare memory) register = readTimeRegister memory register := by
  have same : SameTimebase memory (updateTimerWiresFromCompare memory) := updateTimerWiresFromCompare_same
  cases register with
  | mtime => exact same.word 0 (by decide) (by decide)
  | mtimecmp => exact same.word 1 (by decide) (by decide)

/-- Stores of the bytes of a register are one store of them merged. -/
theorem storeTimeBytes_loop (frozen : ClockFrozen memory) (register : ClintTimeRegister) (byteOffset : Nat)
    (source : Bytes8) (count : Nat) :
    forEachIndex (fun byteIndex state => state.bind fun memory =>
      storeClintTimeRegisterByte memory register (byteOffset + byteIndex) (byte source byteIndex)) (count + 1)
        (.ok memory) =
      (timeWritten memory register (forEachIndex (fun byteIndex next =>
        setByte next (byteOffset + byteIndex) (byte source byteIndex)) (count + 1)
          (readTimeRegister memory register))).map updateTimerWiresFromCompare := by
  induction count with
  | zero =>
    simp only [forEachIndex, Except.bind]
    exact storeClintTimeRegisterByte_eq memory register _ _
  | succ count ih =>
    rw [forEachIndex, ih]
    generalize merged : forEachIndex (fun byteIndex next => setByte next (byteOffset + byteIndex)
      (byte source byteIndex)) (count + 1) (readTimeRegister memory register) = earlier
    have grown : forEachIndex (fun byteIndex next => setByte next (byteOffset + byteIndex) (byte source byteIndex))
        (count + 1 + 1) (readTimeRegister memory register) =
          setByte earlier (byteOffset + (count + 1)) (byte source (count + 1)) := by
      rw [← merged]
      rfl
    rw [grown, ← timeWritten_twice frozen register earlier (setByte earlier _ _)]
    by_cases set : register = .mtime → (readTimebaseHz memory).toNat ≠ 0
    · obtain ⟨middle, stored, first⟩ := timeWritten_ok frozen register set earlier
      have found : readTimeRegister (updateTimerWiresFromCompare middle) register = earlier :=
        (readTimeRegister_update middle register).trans first.stored
      simp only [stored, Except.map, Except.bind, storeClintTimeRegisterByte_eq, found]
    · obtain ⟨rfl, unset⟩ : register = .mtime ∧ (readTimebaseHz memory).toNat = 0 := by
        simpa using set
      simp only [timeWritten_unset unset, Except.map, Except.bind]

/-! The window. -/

/-- Window offset of a time register. -/
def clintTimeRegisterOffset : ClintTimeRegister → Int
  | .mtime => clintMtimeOffset
  | .mtimecmp => clintMtimecmpOffset

theorem clintOffsetToRegister_time {offset : Int} : clintOffsetToRegister offset = some (.time register, byteOffset) ↔
    offset = clintTimeRegisterOffset register + byteOffset ∧ byteOffset < 8 := by
  have msipOffset : clintMsipOffset = 0 := rfl
  have msipSize : clintMsipSize = 4 := rfl
  have mtimeOffset : clintMtimeOffset = 0xbff8 := rfl
  have mtimecmpOffset : clintMtimecmpOffset = 0x4000 := rfl
  have registerSize : clintRegisterSize = 8 := rfl
  rw [clintOffsetToRegister]
  constructor
  · intro decoded
    split at decoded
    · simp at decoded
    split at decoded
    · obtain ⟨rfl, rfl⟩ : ClintTimeRegister.mtime = register ∧ (offset - clintMtimeOffset).toNat = byteOffset := by
        simpa using decoded
      simp only [clintTimeRegisterOffset]
      omega
    split at decoded
    · obtain ⟨rfl, rfl⟩ : ClintTimeRegister.mtimecmp = register ∧
          (offset - clintMtimecmpOffset).toNat = byteOffset := by
        simpa using decoded
      simp only [clintTimeRegisterOffset]
      omega
    · cases decoded
  · intro ⟨start, inside⟩
    cases register with
    | mtime =>
      have reached : offset = clintMtimeOffset + byteOffset := start
      rw [if_neg (by omega), if_pos (by omega), reached, add_sub_cancel_left, Int.toNat_natCast]
    | mtimecmp =>
      have reached : offset = clintMtimecmpOffset + byteOffset := start
      rw [if_neg (by omega), if_neg (by omega), if_pos (by omega), reached, add_sub_cancel_left, Int.toNat_natCast]

theorem clintOffsetToRegister_next {offset : Int}
    (decoded : clintOffsetToRegister offset = some (.time register, byteOffset)) (within : byteOffset + byteIndex < 8) :
    clintOffsetToRegister (offset + byteIndex) = some (.time register, byteOffset + byteIndex) := by
  obtain ⟨rfl, -⟩ := clintOffsetToRegister_time.mp decoded
  exact clintOffsetToRegister_time.mpr ⟨by push_cast; ring, within⟩

/-- A transfer of one register begins in it and ends no later than its last byte. -/
theorem isClintTimeRegisterTransfer_inside {offset : Int}
    (transfer : isClintTimeRegisterTransfer offset byteLength = some (register, byteOffset)) :
    clintOffsetToRegister offset = some (.time register, byteOffset) ∧ 0 < byteLength ∧
      byteOffset + byteLength ≤ 8 := by
  have registerSize : clintRegisterSize = 8 := rfl
  rw [isClintTimeRegisterTransfer] at transfer
  split at transfer
  · cases transfer
  split at transfer
  · rename_i found foundOffset decoded
    by_cases beyond : foundOffset + byteLength > clintRegisterSize
    · rw [if_pos beyond] at transfer
      cases transfer
    rw [if_neg beyond] at transfer
    split at transfer
    · split_ifs at transfer
      cases transfer
      exact ⟨decoded, by omega, by omega⟩
    · cases transfer
  · cases transfer

/-- A store of one byte is a turn of the loop. -/
theorem storeBytesToClint_single (memory : Memory) (offset : Int) (source : Bytes8) (byteIndex : Nat) :
    storeBytesToClint memory (offset + byteIndex) (singleByte (byte source byteIndex)) 1 =
      storeClintTurn offset source byteIndex (.ok memory) := by
  have looped : forEachIndex (storeClintTurn (offset + byteIndex) (singleByte (byte source byteIndex))) 1 (.ok memory) =
      storeClintTurn offset source byteIndex (.ok memory) := by
    simp only [forEachIndex, storeClintTurn, byte_singleByte, Nat.cast_zero, add_zero]
  rw [storeBytesToClint]
  split
  · rename_i register byteOffset transfer
    obtain ⟨decoded, -, -⟩ := isClintTimeRegisterTransfer_inside transfer
    simp only [storeClintTurn, Except.bind, decoded, storeClintByte, storeClintTimeRegisterByte, singleByte]
  · exact looped

theorem storeBytesToClint_bytewise (frozen : ClockFrozen memory) (offset : Int) (source : Bytes8) (byteLength : Nat) :
    storeBytesToClint memory offset source byteLength = storeClintBytewise memory offset source byteLength := by
  have turns : storeClintBytewise memory offset source byteLength =
      forEachIndex (storeClintTurn offset source) byteLength (.ok memory) := by
    refine forEachIndex_congr (fun byteIndex _ state => ?_) _
    cases state with
    | error message => rfl
    | ok memory => exact storeBytesToClint_single memory offset source byteIndex
  rw [turns, storeBytesToClint]
  split
  · rename_i register byteOffset transfer
    obtain ⟨decoded, positive, fits⟩ := isClintTimeRegisterTransfer_inside transfer
    obtain ⟨count, rfl⟩ : ∃ count, byteLength = count + 1 := ⟨byteLength - 1, by omega⟩
    rw [storeClintTimeBytes_eq, mergeTimeBytes_loop, ← storeTimeBytes_loop frozen]
    refine forEachIndex_congr (fun byteIndex below state => ?_) _
    have next := clintOffsetToRegister_next decoded (Nat.lt_of_lt_of_le (Nat.add_lt_add_left below byteOffset) fits)
    simp only [storeClintTurn, next, storeClintByte]
  · rfl

/-! Loads. -/

theorem frozen_shift (frozen : ClockFrozen memory) (count : Nat) :
    { memory.worker with hrtime := fun reading => memory.worker.hrtime (reading + count) } = memory.worker := by
  have same : (fun reading => memory.worker.hrtime (reading + count)) = memory.worker.hrtime :=
    funext fun reading => (frozen (reading + count)).trans (frozen reading).symm
  rw [same]

/-- While the clock stands still a second tick finds its own values. -/
theorem tickClint_again (frozen : ClockFrozen memory) (ticked : tickClint memory = .ok after) :
    tickClint after = .ok after := by
  have first : Ticked memory 1 after := (Ticked.refl memory).tick ticked
  have clock : after.worker = memory.worker := first.clock.trans (frozen_shift frozen 1)
  have epoch : readEpochNs after = readEpochNs memory := first.timebase_kept 3 (by decide) (by decide)
  have hz : readTimebaseHz after = readTimebaseHz memory := first.timebase_kept 4 (by decide) (by decide)
  obtain ⟨mtime, wires⟩ := first.last 0 rfl
  have settled : TimerSettled after (after.worker.hrtime 0) := by
    refine ⟨?_, wires⟩
    rw [mtime, clock, ticksAt, ticksAt, epoch, hz]
  have set : (readTimebaseHz after).toNat ≠ 0 := by
    rw [hz]
    exact tickClint_ok ticked
  rw [tickClint_eq set]
  have second := (Ticked.refl after).tick (tickClint_eq set)
  have bytes := second.bytes_iff.mpr fun reading last => by
    obtain rfl : 0 = reading := Nat.succ_injective last
    exact settled
  have still : ClockFrozen after := by
    intro reading
    rw [clock, frozen reading]
  have worker := second.clock.trans (frozen_shift still 1)
  exact congrArg Except.ok (Memory.ext second.changes.layout bytes worker)

/-- The bytes of a register one at a time, with a tick before each byte of `mtime`. -/
theorem loadTimeBytes_loop (frozen : ClockFrozen memory) (register : ClintTimeRegister) (byteOffset : Nat)
    (destination : Bytes8) (count : Nat) :
    forEachIndex (fun byteIndex (state : Except String (Bytes8 × Memory)) => state.bind fun (destination, memory) =>
      (loadClintTimeRegisterByte memory register (byteOffset + byteIndex)).map fun (value, memory) =>
        (setByte destination byteIndex value, memory)) (count + 1) (.ok (destination, memory)) =
      loadClintTimeBytes memory register byteOffset destination (count + 1) := by
  cases register with
  | mtimecmp =>
    simp only [loadClintTimeBytes, loadClintTimeRegisterByte, reduceCtorEq, ↓reduceIte, Except.map]
    induction count + 1 with
    | zero => rfl
    | succ count ih => rw [forEachIndex, ih, forEachIndex, Except.bind]
  | mtime =>
    simp only [loadClintTimeBytes, loadClintTimeRegisterByte, ↓reduceIte]
    induction count with
    | zero =>
      simp only [forEachIndex, Except.bind]
      cases tickClint memory <;> rfl
    | succ count ih =>
      rw [forEachIndex, ih]
      cases ticked : tickClint memory with
      | error message => rfl
      | ok after => simp only [Except.map, Except.bind, tickClint_again frozen ticked, forEachIndex]

theorem loadBytesFromClint_single (destination : Bytes8) (memory : Memory) (offset : Int) (byteIndex : Nat) :
    (loadBytesFromClint 0 memory (offset + byteIndex) 1).map (fun (loaded, memory) =>
      (setByte destination byteIndex (byte loaded 0), memory)) =
        loadClintTurn offset byteIndex (.ok (destination, memory)) := by
  have first (value : BitVec 8) : byte (setByte (0 : Bytes8) 0 value) 0 = value := by
    rw [byte_setByte _ _ (by decide), if_pos rfl]
  rw [loadBytesFromClint]
  split
  · rename_i register byteOffset transfer
    obtain ⟨decoded, -, -⟩ := isClintTimeRegisterTransfer_inside transfer
    simp only [loadClintTurn, Except.bind, decoded, loadClintByte, loadClintTimeRegisterByte, loadClintTimeBytes]
    split <;> cases tickClint memory <;> simp only [Except.map, forEachIndex, first, Nat.add_zero]
  · simp only [forEachIndex, loadClintTurn, Except.bind, Nat.cast_zero, add_zero]
    cases clintOffsetToRegister (offset + byteIndex) with
    | none => simp only [Except.map, first]
    | some place =>
      obtain ⟨register, byteOffset⟩ := place
      cases read : loadClintByte memory register byteOffset <;> simp only [read, Except.map, first]

theorem loadBytesFromClint_bytewise (frozen : ClockFrozen memory) (destination : Bytes8) (offset : Int)
    (byteLength : Nat) : loadBytesFromClint destination memory offset byteLength =
      loadClintBytewise destination memory offset byteLength := by
  have turns : loadClintBytewise destination memory offset byteLength =
      forEachIndex (loadClintTurn offset) byteLength (.ok (destination, memory)) := by
    refine forEachIndex_congr (fun byteIndex _ state => ?_) _
    cases state with
    | error message => rfl
    | ok state => exact loadBytesFromClint_single state.1 state.2 offset byteIndex
  rw [turns, loadBytesFromClint]
  split
  · rename_i register byteOffset transfer
    obtain ⟨decoded, positive, fits⟩ := isClintTimeRegisterTransfer_inside transfer
    obtain ⟨count, rfl⟩ : ∃ count, byteLength = count + 1 := ⟨byteLength - 1, by omega⟩
    rw [← loadTimeBytes_loop frozen]
    refine forEachIndex_congr (fun byteIndex below state => ?_) _
    have next := clintOffsetToRegister_next decoded (Nat.lt_of_lt_of_le (Nat.add_lt_add_left below byteOffset) fits)
    simp only [loadClintTurn, next, loadClintByte]
  · rfl

theorem loadClintTurn_completes {destination : Bytes8} (set : (readTimebaseHz memory).toNat ≠ 0) (offset : Int)
    (byteIndex : Nat) : ∃ loaded after, loadClintTurn offset byteIndex (.ok (destination, memory)) =
      .ok (loaded, after) ∧ readTimebaseHz after = readTimebaseHz memory := by
  simp only [loadClintTurn, Except.bind]
  cases clintOffsetToRegister (offset + byteIndex) with
  | none => exact ⟨_, _, rfl, rfl⟩
  | some place =>
    obtain ⟨register, byteOffset⟩ := place
    cases register with
    | msip => exact ⟨_, _, rfl, rfl⟩
    | time register =>
      cases register with
      | mtimecmp => exact ⟨_, _, rfl, rfl⟩
      | mtime =>
        have ticked := tickClint_eq set
        have hz := ((Ticked.refl memory).tick ticked).timebase_kept 4 (by decide) (by decide)
        simp only [loadClintByte, loadClintTimeRegisterByte, ↓reduceIte, ticked, Except.map]
        exact ⟨_, _, rfl, hz⟩

theorem loadClintBytewise_completes (set : (readTimebaseHz memory).toNat ≠ 0) (destination : Bytes8) (offset : Int)
    (byteLength : Nat) : ∃ loaded, loadClintBytewise destination memory offset byteLength = .ok loaded := by
  suffices completes : ∃ loaded after, loadClintBytewise destination memory offset byteLength = .ok (loaded, after) ∧
      readTimebaseHz after = readTimebaseHz memory by
    obtain ⟨loaded, after, completed, -⟩ := completes
    exact ⟨_, completed⟩
  refine forEachIndex_preserves (fun state => ∃ loaded after, state = Except.ok (loaded, after) ∧
    readTimebaseHz after = readTimebaseHz memory) ⟨_, _, rfl, rfl⟩ ?_
  rintro byteIndex _ _ ⟨partly, middle, rfl, kept⟩
  obtain ⟨loaded, after, turned, hz⟩ := loadClintTurn_completes (by rwa [kept]) offset byteIndex
  refine ⟨loaded, after, ?_, hz.trans kept⟩
  rw [← turned]
  exact loadBytesFromClint_single partly middle offset byteIndex

/-- On a clock that stands still a transfer of the window is the transfers of its bytes in address
order, and neither throws once the frequency is set. -/
theorem clint_transfers_bytewise (memory : Memory) (frozen : ClockFrozen memory) (offset : Int) (byteLength : Nat)
    (source destination : Bytes8) :
    storeBytesToClint memory offset source byteLength = storeClintBytewise memory offset source byteLength ∧
      loadBytesFromClint destination memory offset byteLength =
        loadClintBytewise destination memory offset byteLength ∧
      ((readTimebaseHz memory).toNat ≠ 0 →
        (∃ after, storeClintBytewise memory offset source byteLength = .ok after) ∧
          ∃ loaded, loadClintBytewise destination memory offset byteLength = .ok loaded) := by
  have stores := storeBytesToClint_bytewise frozen offset source byteLength
  refine ⟨stores, loadBytesFromClint_bytewise frozen destination offset byteLength, fun set => ⟨?_, ?_⟩⟩
  · obtain ⟨after, stored, -⟩ := storeBytesToClint_completes set offset source byteLength
    exact ⟨after, stores.symm.trans stored⟩
  · exact loadClintBytewise_completes set destination offset byteLength

/-- Two bytes of which the first lies before `mtime`, the upper half of `mtimecmp`, and a load of
the whole `mtime`, at 10 MHz. -/
theorem clint_transfers_windows : ∃ memory, setClintTimebaseHz defaultMemory 10000000 = .ok memory ∧
    (∃ after, storeBytesToClint memory 0xbff7 0x1122 2 = .ok after ∧
      storeClintBytewise memory 0xbff7 0x1122 2 = .ok after ∧ readTimeRegister after .mtime = 0x11) ∧
    (∃ after, storeBytesToClint memory 0x4004 0x55667788 4 = .ok after ∧
      storeClintBytewise memory 0x4004 0x55667788 4 = .ok after ∧
      readTimeRegister after .mtimecmp = 0x5566778800000000) ∧
    ∃ loaded, loadBytesFromClint 0 memory 0xbff8 8 = .ok loaded ∧
      loadClintBytewise 0 memory 0xbff8 8 = .ok loaded := by
  obtain ⟨memory, configured⟩ : ∃ memory, setClintTimebaseHz defaultMemory 10000000 = .ok memory := ⟨_, rfl⟩
  have frozen : ClockFrozen memory := by
    cases configured
    exact fun _ => rfl
  have set : (readTimebaseHz memory).toNat ≠ 0 := by
    cases configured
    decide
  refine ⟨memory, configured, ?_, ?_, ?_⟩
  · obtain ⟨stores, -, completes⟩ := clint_transfers_bytewise memory frozen 0xbff7 2 0x1122 0
    obtain ⟨after, stored⟩ := (completes set).1
    refine ⟨after, stores.trans stored, stored, ?_⟩
    have ran := stores.trans stored
    cases configured
    cases ran
    decide
  · obtain ⟨stores, -, completes⟩ := clint_transfers_bytewise memory frozen 0x4004 4 0x55667788 0
    obtain ⟨after, stored⟩ := (completes set).1
    refine ⟨after, stores.trans stored, stored, ?_⟩
    have ran := stores.trans stored
    cases configured
    cases ran
    decide +kernel
  · obtain ⟨-, loads, completes⟩ := clint_transfers_bytewise memory frozen 0xbff8 8 0 0
    obtain ⟨loaded, read⟩ := (completes set).2
    exact ⟨loaded, loads.trans read, read⟩

end YaRiscV.Emulator
