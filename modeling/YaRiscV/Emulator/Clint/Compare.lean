import YaRiscV.Emulator.Clint.TickHistory

/-! The cached comparisons: every operation of an initialized CLINT completes and leaves its three
wires, with their lines of the aggregate word, in step with the registers. -/

namespace YaRiscV.Emulator

open YaRiscV.Library YaRiscV.Utils

variable {memory middle after : Memory}

/-- The software wire and its line show one level. -/
def SoftwareWireCurrent (memory : Memory) : Prop :=
  WireDriven memory (clintByteIndex memory clintHostMachineSoftwareWireOffset)
    (isClintMachineSoftwarePending memory) irqLevelMsip

/-- An initialized CLINT whose wires follow its registers. -/
structure ClintCurrent (memory : Memory) : Prop where
  frequency : (readTimebaseHz memory).toNat ≠ 0
  timers : TimerWiresCurrent memory
  software : SoftwareWireCurrent memory

/-- What an operation of the time base leaves to the others. -/
structure ClintKept (before after : Memory) : Prop where
  layout : after.layout = before.layout
  current : ClintCurrent after
  mirror : readStimecmpMirror after = readStimecmpMirror before

theorem ClintKept.trans (first : ClintKept memory middle) (second : ClintKept middle after) :
    ClintKept memory after :=
  ⟨second.layout.trans first.layout, second.current, second.mirror.trans first.mirror⟩

theorem ClintCurrent.kept (current : ClintCurrent memory) : ClintKept memory memory :=
  ⟨rfl, current, rfl⟩

theorem SoftwareWireCurrent.of_same (current : SoftwareWireCurrent memory) (layout : after.layout = memory.layout)
    (wire : after.bytes (clintByteIndex memory clintHostMachineSoftwareWireOffset) =
      memory.bytes (clintByteIndex memory clintHostMachineSoftwareWireOffset))
    (line : loadIrqLevel after &&& irqLevelMsip = loadIrqLevel memory &&& irqLevelMsip) :
    SoftwareWireCurrent after := by
  have index : clintByteIndex after clintHostMachineSoftwareWireOffset =
      clintByteIndex memory clintHostMachineSoftwareWireOffset := by
    rw [clintByteIndex, clintByteIndex, layout]
  have level : isClintMachineSoftwarePending after = isClintMachineSoftwarePending memory := by
    rw [isClintMachineSoftwarePending, isClintMachineSoftwarePending, index, wire]
  rw [SoftwareWireCurrent, level, index]
  exact ⟨wire.trans current.wire, line.trans current.line⟩

/-- Moving words of the time base leaves the software wire. -/
theorem SoftwareWireCurrent.timebase (current : SoftwareWireCurrent memory)
    (changes : ChangesOnly (InClintTimebase memory.layout) memory after) : SoftwareWireCurrent after := by
  have apart := memory.layout.clint_irqLevel
  refine current.of_same changes.layout (changes.bytes _ fun inside => ?_) ?_
  · simp only [InClintTimebase, clintByteIndex, clintHostMachineSoftwareWireOffset] at inside
    omega
  · rw [loadIrqLevel, loadIrqLevel, changes.layout]
    refine congrArg (· &&& irqLevelMsip) (changes.load32 fun offset small inside => ?_)
    simp only [InClintTimebase, clintHostByteLength] at inside apart
    omega

theorem updateTimerWiresFromCompare_software (memory : Memory) : (updateTimerWiresFromCompare memory).bytes
    (clintByteIndex memory clintHostMachineSoftwareWireOffset) =
      memory.bytes (clintByteIndex memory clintHostMachineSoftwareWireOffset) := by
  have apart := clintWire_apart memory.layout clintHostMachineSoftwareWireOffset (by decide)
  refine (updateTimerWiresFromCompare_changes memory).bytes _ fun inside => ?_
  simp only [InTimer, clintByteIndex, clintHostMachineSoftwareWireOffset, clintHostMachineTimerWireOffset,
    clintHostSupervisorTimerWireOffset] at inside apart
  rcases inside with word | machine | supervisor | level
  · omega
  · omega
  · omega
  · exact apart level

/-- Deriving the timer wires leaves the software wire. -/
theorem SoftwareWireCurrent.update (current : SoftwareWireCurrent memory) :
    SoftwareWireCurrent (updateTimerWiresFromCompare memory) := by
  have lines : ~~~timerLines &&& irqLevelMsip = irqLevelMsip := by decide
  refine current.of_same updateTimerWiresFromCompare_layout (updateTimerWiresFromCompare_software memory) ?_
  rw [← lines, ← BitVec.and_assoc, ← BitVec.and_assoc, timerWires_line]

/-- Deriving the timer wires after a move of the registers makes the CLINT current again. -/
theorem ClintCurrent.update (current : ClintCurrent memory)
    (changes : ChangesOnly (InClintTimebase memory.layout) memory middle)
    (frequency : readTimebaseHz middle = readTimebaseHz memory) :
    ClintCurrent (updateTimerWiresFromCompare middle) := by
  refine ⟨?_, updateTimerWiresFromCompare_current, (current.software.timebase changes).update⟩
  rw [readTimebaseHz, updateTimerWiresFromCompare_same.word _ (by decide) (by decide), ← readTimebaseHz, frequency]
  exact current.frequency

/-- The words of the time base besides the frequency and the mirror. -/
def InClintClock (layout : Layout) (position : Nat) : Prop :=
  (layout.clint.hostIndex ≤ position ∧ position < layout.clint.hostIndex + 16) ∨
  (layout.clint.hostIndex + 24 ≤ position ∧ position < layout.clint.hostIndex + 32)

theorem InClintClock.timebase {layout : Layout} (inside : InClintClock layout position) :
    InClintTimebase layout position := by
  simp only [InClintClock, InClintTimebase, clintHostByteLength] at *
  omega

theorem ChangesOnly.clock_word (changes : ChangesOnly (InClintClock memory.layout) memory middle)
    (element : Nat) (fixed : element = 4 ∨ element = 5) :
    middle.load64 (clintHostUint64 middle element) = memory.load64 (clintHostUint64 memory element) := by
  rw [clintHostUint64, clintHostUint64, changes.layout]
  refine changes.load64 fun offset inside reached => ?_
  simp only [InClintClock] at reached
  omega

theorem ClintCurrent.clock_moved (current : ClintCurrent memory)
    (changes : ChangesOnly (InClintClock memory.layout) memory middle) :
    ClintKept memory (updateTimerWiresFromCompare middle) := by
  have timebase : ChangesOnly (InClintTimebase memory.layout) memory middle :=
    changes.mono fun _ inside => inside.timebase
  refine ⟨updateTimerWiresFromCompare_layout.trans changes.layout,
    current.update timebase (changes.clock_word 4 (.inl rfl)), ?_⟩
  rw [readStimecmpMirror, updateTimerWiresFromCompare_same.word _ (by decide) (by decide)]
  exact changes.clock_word 5 (.inr rfl)

theorem store64_clock (memory : Memory) (element : Nat) (moving : element = 0 ∨ element = 1 ∨ element = 3)
    (value : BitVec 64) :
    ChangesOnly (InClintClock memory.layout) memory (memory.store64 (clintHostUint64 memory element) value) := by
  refine ChangesOnly.store64 (fun offset inside => ?_) value
  simp only [InClintClock, clintHostUint64]
  omega

theorem readHostClock_clock (memory : Memory) :
    ChangesOnly (InClintClock memory.layout) memory memory.readHostClock.2 :=
  ⟨rfl, fun _ _ => rfl⟩

theorem tickClint_kept (current : ClintCurrent memory) :
    ∃ after, tickClint memory = .ok after ∧ ClintKept memory after := by
  refine ⟨_, tickClint_eq current.frequency, current.clock_moved ?_⟩
  exact (readHostClock_clock memory).trans (store64_clock memory.readHostClock.2 0 (.inl rfl) _)

theorem reseatEpochForMtime_clock (set : (readTimebaseHz memory).toNat ≠ 0) (mtime : Nat) :
    ∃ after, reseatEpochForMtime memory mtime = .ok after ∧
      ChangesOnly (InClintClock memory.layout) memory after := by
  have hz : timebaseHz memory.readHostClock.2 = .ok (readTimebaseHz memory).toNat := timebaseHz_set set
  refine ⟨_, by simp only [reseatEpochForMtime, hz]; rfl, ?_⟩
  exact (readHostClock_clock memory).trans (store64_clock memory.readHostClock.2 3 (.inr (.inr rfl)) _)

/-- With a frequency set, a store of time bytes completes and derives the wires last. -/
theorem storeClintTimeBytes_moved (set : (readTimebaseHz memory).toNat ≠ 0) (register : ClintTimeRegister)
    (byteOffset : Nat) (source : Bytes8) (byteLength : Nat) :
    ∃ middle, storeClintTimeBytes memory register byteOffset source byteLength =
        .ok (updateTimerWiresFromCompare middle) ∧ ChangesOnly (InClintClock memory.layout) memory middle := by
  generalize merged : mergeTimeBytes (readTimeRegister memory register) byteOffset source byteLength = next
  have stored : ChangesOnly (InClintClock memory.layout) memory
      (memory.store64 (clintHostUint64 memory (timeRegisterUint64Index register)) next) := by
    refine store64_clock memory _ ?_ next
    cases register with
    | mtime => exact .inl rfl
    | mtimecmp => exact .inr (.inl rfl)
  simp only [storeClintTimeBytes, storeClintTimeBytesLoop, merged, compareExchangeTimeRegister_self, ne_eq,
    not_true_eq_false, if_false]
  split
  · have frequency : readTimebaseHz (memory.store64 (clintHostUint64 memory (timeRegisterUint64Index register))
        next) = readTimebaseHz memory := stored.clock_word 4 (.inl rfl)
    obtain ⟨seated, reseated, moved⟩ := reseatEpochForMtime_clock (by rwa [frequency]) next.toNat
    rw [reseated]
    exact ⟨seated, rfl, stored.trans moved⟩
  · exact ⟨_, rfl, stored⟩

theorem storeClintTimeBytes_kept (current : ClintCurrent memory) (register : ClintTimeRegister) (byteOffset : Nat)
    (source : Bytes8) (byteLength : Nat) :
    ∃ after, storeClintTimeBytes memory register byteOffset source byteLength = .ok after ∧
      ClintKept memory after := by
  obtain ⟨middle, stored, moved⟩ := storeClintTimeBytes_moved current.frequency register byteOffset source byteLength
  exact ⟨_, stored, current.clock_moved moved⟩

/-- Driving the software wire leaves the registers and the timer wires. -/
theorem setClintMachineSoftwareWire_kept (set : (readTimebaseHz memory).toNat ≠ 0)
    (timers : TimerWiresCurrent memory) (pending : Bool) :
    ClintKept memory (setClintMachineSoftwareWire memory pending) := by
  have same : SameTimebase memory (setClintMachineSoftwareWire memory pending) := setClintIrqWire_same (by decide)
  have layout : (setClintMachineSoftwareWire memory pending).layout = memory.layout := ChangesOnly.layout same
  have software := clintWire_apart memory.layout clintHostMachineSoftwareWireOffset (by decide)
  have machine := clintWire_apart memory.layout clintHostMachineTimerWireOffset (by decide)
  have supervisor := clintWire_apart memory.layout clintHostSupervisorTimerWireOffset (by decide)
  have index (offset : Nat) : clintByteIndex (setClintMachineSoftwareWire memory pending) offset =
      clintByteIndex memory offset := by
    rw [clintByteIndex, clintByteIndex, layout]
  have mtime : readTimeRegister (setClintMachineSoftwareWire memory pending) .mtime =
      readTimeRegister memory .mtime := same.word 0 (by decide) (by decide)
  have mtimecmp : readTimeRegister (setClintMachineSoftwareWire memory pending) .mtimecmp =
      readTimeRegister memory .mtimecmp := same.word 1 (by decide) (by decide)
  have mirror : readStimecmpMirror (setClintMachineSoftwareWire memory pending) = readStimecmpMirror memory :=
    same.word 5 (by decide) (by decide)
  have frequency : readTimebaseHz (setClintMachineSoftwareWire memory pending) = readTimebaseHz memory :=
    same.word 4 (by decide) (by decide)
  refine ⟨layout, ⟨?_, ⟨?_, ?_⟩, ?_⟩, mirror⟩
  · rw [frequency]
    exact set
  · rw [mtime, mtimecmp, index]
    refine timers.machine.other ?_ (by decide) machine software
    simp [clintByteIndex]
  · rw [mtime, mirror, index]
    refine timers.supervisor.other ?_ (by decide) supervisor software
    simp [clintByteIndex]
  · have driven : WireDriven (setClintMachineSoftwareWire memory pending)
        (clintByteIndex memory clintHostMachineSoftwareWireOffset) pending irqLevelMsip := setIrqWire_driven software
    have level : isClintMachineSoftwarePending (setClintMachineSoftwareWire memory pending) = pending := by
      rw [isClintMachineSoftwarePending, index, driven.wire]
      cases pending <;> rfl
    rw [SoftwareWireCurrent, level, index]
    exact driven

theorem storeClintByte_kept (current : ClintCurrent memory) (register : ClintRegister) (byteOffset : Nat)
    (value : BitVec 8) :
    ∃ after, storeClintByte memory register byteOffset value = .ok after ∧ ClintKept memory after := by
  cases register with
  | msip =>
    refine ⟨_, rfl, ?_⟩
    split
    · exact setClintMachineSoftwareWire_kept current.frequency current.timers _
    · exact current.kept
  | time register => exact storeClintTimeBytes_kept current register byteOffset _ 1

theorem storeClintTurn_kept (current : ClintCurrent memory) (offset : Int) (source : Bytes8) (byteIndex : Nat) :
    ∃ after, storeClintTurn offset source byteIndex (.ok memory) = .ok after ∧ ClintKept memory after := by
  simp only [storeClintTurn, Except.bind]
  split
  · exact ⟨memory, rfl, current.kept⟩
  · exact storeClintByte_kept current _ _ _

theorem storeBytesToClint_kept (current : ClintCurrent memory) (offset : Int) (source : Bytes8) (byteLength : Nat) :
    ∃ after, storeBytesToClint memory offset source byteLength = .ok after ∧ ClintKept memory after := by
  simp only [storeBytesToClint]
  split
  · exact storeClintTimeBytes_kept current _ _ _ _
  · refine forEachIndex_preserves (fun state => ∃ after, state = Except.ok after ∧ ClintKept memory after)
      ⟨memory, rfl, current.kept⟩ ?_
    rintro byteIndex _ _ ⟨middle, rfl, kept⟩
    obtain ⟨after, stored, keptAfter⟩ := storeClintTurn_kept kept.current offset source byteIndex
    exact ⟨after, stored, kept.trans keptAfter⟩

/-- A turn of the store loop needs a frequency and keeps it. -/
theorem storeClintTurn_completes (set : (readTimebaseHz memory).toNat ≠ 0) (offset : Int) (source : Bytes8)
    (byteIndex : Nat) : ∃ after, storeClintTurn offset source byteIndex (.ok memory) = .ok after ∧
      readTimebaseHz after = readTimebaseHz memory := by
  simp only [storeClintTurn, Except.bind]
  split
  · exact ⟨memory, rfl, rfl⟩
  · rename_i register byteOffset _
    cases register with
    | msip =>
      refine ⟨_, rfl, ?_⟩
      split
      · exact (setClintIrqWire_same (by decide)).word 4 (by decide) (by decide)
      · rfl
    | time register =>
      obtain ⟨middle, stored, moved⟩ := storeClintTimeBytes_moved set register byteOffset
        (uint8ArrayOf (byte source byteIndex) 0 0 0 0 0 0 0) 1
      exact ⟨_, stored, (updateTimerWiresFromCompare_same.word 4 (by decide) (by decide)).trans
        (moved.clock_word 4 (.inl rfl))⟩

theorem storeBytesToClint_completes (set : (readTimebaseHz memory).toNat ≠ 0) (offset : Int) (source : Bytes8)
    (byteLength : Nat) : ∃ after, storeBytesToClint memory offset source byteLength = .ok after ∧
      readTimebaseHz after = readTimebaseHz memory := by
  simp only [storeBytesToClint]
  split
  · rename_i register byteOffset _
    obtain ⟨middle, stored, moved⟩ := storeClintTimeBytes_moved set register byteOffset source byteLength
    exact ⟨_, stored, (updateTimerWiresFromCompare_same.word 4 (by decide) (by decide)).trans
      (moved.clock_word 4 (.inl rfl))⟩
  · refine forEachIndex_preserves (fun state => ∃ after, state = Except.ok after ∧
      readTimebaseHz after = readTimebaseHz memory) ⟨memory, rfl, rfl⟩ ?_
    rintro byteIndex _ _ ⟨middle, rfl, kept⟩
    obtain ⟨after, stored, keptAfter⟩ := storeClintTurn_completes (by rwa [kept]) offset source byteIndex
    exact ⟨after, stored, keptAfter.trans kept⟩

/-- Only the mirror moved, and the supervisor wire with it. -/
structure MirrorMoved (before after : Memory) (value : Bytes8) : Prop where
  layout : after.layout = before.layout
  current : ClintCurrent after
  mirror : readStimecmpMirror after = value
  mtime : readTimeRegister after .mtime = readTimeRegister before .mtime
  mtimecmp : readTimeRegister after .mtimecmp = readTimeRegister before .mtimecmp
  software : isClintMachineSoftwarePending after = isClintMachineSoftwarePending before

theorem ClintCurrent.stay (current : ClintCurrent memory) : MirrorMoved memory memory (readStimecmpMirror memory) :=
  ⟨rfl, current, rfl, rfl, rfl, rfl⟩

/-- Publishing a compare value moves the mirror and refreshes the supervisor wire. -/
theorem setClintStimecmpMirror_moved (current : ClintCurrent memory) (value : Bytes8) :
    MirrorMoved memory (setClintStimecmpMirror memory value) value := by
  rw [setClintStimecmpMirror]
  split
  · rename_i same
    subst same
    exact current.stay
  · have written : ChangesOnly (fun position => memory.layout.clint.hostIndex + 40 ≤ position ∧
        position < memory.layout.clint.hostIndex + 48) memory (writeStimecmpMirror memory value) := by
      refine ChangesOnly.store64 (fun offset inside => ?_) value
      simp only [clintHostUint64, clintHostStimecmpUint64Index]
      omega
    have changes : ChangesOnly (InClintTimebase memory.layout) memory (writeStimecmpMirror memory value) := by
      refine written.mono fun position inside => ?_
      simp only [InClintTimebase, clintHostByteLength]
      omega
    have other (element : Nat) (different : element ≠ 5) (real : element < 6) (notWires : element ≠ 2) :
        (updateTimerWiresFromCompare (writeStimecmpMirror memory value)).load64 (clintHostUint64
          (updateTimerWiresFromCompare (writeStimecmpMirror memory value)) element) =
        memory.load64 (clintHostUint64 memory element) := by
      rw [updateTimerWiresFromCompare_same.word element real notWires]
      exact load64_store64_other memory different.symm value
    have software : (updateTimerWiresFromCompare (writeStimecmpMirror memory value)).bytes
        (clintByteIndex memory clintHostMachineSoftwareWireOffset) =
        memory.bytes (clintByteIndex memory clintHostMachineSoftwareWireOffset) := by
      refine (updateTimerWiresFromCompare_software _).trans ?_
      refine written.bytes (clintByteIndex memory clintHostMachineSoftwareWireOffset) fun inside => ?_
      simp only [clintByteIndex, clintHostMachineSoftwareWireOffset] at inside
      omega
    constructor
    · exact updateTimerWiresFromCompare_layout
    · exact current.update changes (load64_store64_other memory (by decide) value)
    · rw [readStimecmpMirror, updateTimerWiresFromCompare_same.word _ (by decide) (by decide)]
      exact Memory.load64_store64 value
    · exact other 0 (by decide) (by decide) (by decide)
    · exact other 1 (by decide) (by decide) (by decide)
    · have index : clintByteIndex (updateTimerWiresFromCompare (writeStimecmpMirror memory value))
          clintHostMachineSoftwareWireOffset = clintByteIndex memory clintHostMachineSoftwareWireOffset := by
        rw [clintByteIndex, updateTimerWiresFromCompare_layout]
        rfl
      rw [isClintMachineSoftwarePending, index, software]
      rfl

theorem setClintTimebaseHz_set {timebaseHz : Int} (accepted : setClintTimebaseHz memory timebaseHz = .ok after) :
    (readTimebaseHz after).toNat ≠ 0 := by
  rw [setClintTimebaseHz] at accepted
  split at accepted
  · cases accepted
  · rename_i legal
    cases accepted
    have word : readTimebaseHz (memory.store64 (clintHostUint64 memory clintHostTimebaseHzUint64Index)
        (BitVec.ofInt 64 timebaseHz)) = BitVec.ofInt 64 timebaseHz := Memory.load64_store64 _
    rw [word, BitVec.toNat_ofInt]
    simp only [timebaseHzMax] at legal
    omega

theorem TimerWiresCurrent.machine_low (current : TimerWiresCurrent memory)
    (early : ¬ readTimeRegister memory .mtime ≥ readTimeRegister memory .mtimecmp) :
    setClintMachineTimerWire memory false = memory := by
  have driven := current.machine
  rw [decide_eq_false early] at driven
  exact setIrqWire_self driven.wire driven.line

theorem TimerWiresCurrent.supervisor_low (current : TimerWiresCurrent memory)
    (early : ¬ readTimeRegister memory .mtime ≥ readStimecmpMirror memory) :
    setClintSupervisorTimerWire memory false = memory := by
  have driven := current.supervisor
  rw [decide_eq_false early] at driven
  exact setIrqWire_self driven.wire driven.line

/-- The registers after a reset of the time base: no comparison holds. -/
structure TimebaseReset (before after : Memory) : Prop where
  mtime : readTimeRegister after .mtime = 0
  mtimecmp : readTimeRegister after .mtimecmp = 0xffffffffffffffff
  mirror : readStimecmpMirror after = 0xffffffffffffffff
  frequency : readTimebaseHz after = readTimebaseHz before
  timers : TimerWiresCurrent after

theorem resetClintTimebase_reset (memory : Memory) : TimebaseReset memory (resetClintTimebase memory) := by
  have word (element : Nat) (real : element < 6) (notWires : element ≠ 2) :
      (resetClintTimebase memory).load64 (clintHostUint64 (resetClintTimebase memory) element) = _ :=
    updateTimerWiresFromCompare_same.word element real notWires
  constructor
  · refine (word 0 (by decide) (by decide)).trans ?_
    refine (load64_store64_other _ (by decide) _).trans ?_
    refine (load64_store64_other _ (by decide) _).trans ?_
    refine (load64_store64_other _ (by decide) _).trans ?_
    exact Memory.load64_store64 _
  · refine (word 1 (by decide) (by decide)).trans ?_
    refine (load64_store64_other _ (by decide) _).trans ?_
    refine (load64_store64_other _ (by decide) _).trans ?_
    exact Memory.load64_store64 _
  · refine (word 5 (by decide) (by decide)).trans ?_
    refine (load64_store64_other _ (by decide) _).trans ?_
    exact Memory.load64_store64 _
  · refine (word 4 (by decide) (by decide)).trans ?_
    refine (load64_store64_other _ (by decide) _).trans ?_
    refine (load64_store64_other _ (by decide) _).trans ?_
    refine (load64_store64_other _ (by decide) _).trans ?_
    exact load64_store64_other _ (by decide) _
  · exact updateTimerWiresFromCompare_current

theorem initializeClint_current {timebaseHz : Int} (initialized : initializeClint memory timebaseHz = .ok after) :
    ClintCurrent after ∧ readStimecmpMirror after = 0xffffffffffffffff := by
  obtain ⟨clocked, accepted, same⟩ := except_map_ok.mp initialized
  have reset := resetClintTimebase_reset clocked
  have set : (readTimebaseHz (resetClintTimebase clocked)).toNat ≠ 0 := by
    rw [reset.frequency]
    exact setClintTimebaseHz_set accepted
  have machine : setClintMachineTimerWire (resetClintTimebase clocked) false = resetClintTimebase clocked := by
    refine reset.timers.machine_low ?_
    rw [reset.mtime, reset.mtimecmp]
    decide
  have kept := setClintMachineSoftwareWire_kept set reset.timers false
  have supervisor : setClintSupervisorTimerWire (setClintMachineSoftwareWire (resetClintTimebase clocked) false)
      false = setClintMachineSoftwareWire (resetClintTimebase clocked) false := by
    refine kept.current.timers.supervisor_low ?_
    have mtime : readTimeRegister (setClintMachineSoftwareWire (resetClintTimebase clocked) false) .mtime =
        readTimeRegister (resetClintTimebase clocked) .mtime :=
      (setClintIrqWire_same (by decide)).word 0 (by decide) (by decide)
    rw [mtime, kept.mirror, reset.mtime, reset.mirror]
    decide
  simp only [machine, supervisor] at same
  subst same
  exact ⟨kept.current, kept.mirror.trans reset.mirror⟩

end YaRiscV.Emulator
