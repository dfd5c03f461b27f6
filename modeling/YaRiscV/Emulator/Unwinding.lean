import YaRiscV.Library.Unwinding
import YaRiscV.Emulator.MonitorOperations

/-! The accesses of `clint/time.ts`, `clint/memory.ts` and `memory.ts` that can throw, with the
memory a throw leaves. What their callers see is what the functions without it give. -/

namespace YaRiscV.Emulator.Unwinding

open YaRiscV.Library YaRiscV.Library.Unwinding YaRiscV.Utils

abbrev MemoryCall (Result : Type) := Call String Memory Result

def readHostClock : MemoryCall Nat := modifyGet Memory.readHostClock

def timebaseHz : MemoryCall Nat := do
  let hz := (readTimebaseHz (← get)).toNat
  if hz = 0 then throw "CLINT timebase frequency is not set." else pure hz

def reseatEpochForMtime (mtime : Nat) : MemoryCall Unit := do
  let now ← readHostClock
  let hz ← timebaseHz
  modify fun memory => writeEpochNs memory ((now : Int) - ((mtime : Int) * nsPerSecond).tdiv hz)

def tickClintLoop : Nat → MemoryCall Unit
  | 0 => pure ()
  | fuel + 1 => do
    let epochNs := readEpochNs (← get)
    let now ← readHostClock
    let elapsedNs : Int := now - epochNs.toNat
    let hz ← timebaseHz
    let ticks := BitVec.ofInt 64 ((elapsedNs * hz).tdiv nsPerSecond)
    let previous := readTimeRegister (← get) .mtime
    let found ← modifyGet fun memory => compareExchangeTimeRegister memory .mtime previous ticks
    if found ≠ previous then tickClintLoop fuel
    else if readEpochNs (← get) ≠ epochNs then tickClintLoop fuel
    else modify updateTimerWiresFromCompare

def tickClint : MemoryCall Unit := tickClintLoop 1

/-- Sync `mtime` where it is the register read, and read the register. -/
def syncTimeRegister (register : ClintTimeRegister) : MemoryCall (BitVec 64) := do
  if register = .mtime then tickClint
  return readTimeRegister (← get) register

def loadClintTimeBytes (register : ClintTimeRegister) (byteOffset : Nat) (destination : Bytes8)
    (byteLength : Nat) : MemoryCall Bytes8 := do
  let value ← syncTimeRegister register
  return forEachIndex (fun byteIndex destination =>
    setByte destination byteIndex (byte value (byteOffset + byteIndex))) byteLength destination

def storeClintTimeBytesLoop (register : ClintTimeRegister) (byteOffset : Nat) (source : Bytes8)
    (byteLength : Nat) : Nat → MemoryCall Unit
  | 0 => pure ()
  | fuel + 1 => do
    let previous := readTimeRegister (← get) register
    let next := mergeTimeBytes previous byteOffset source byteLength
    let found ← modifyGet fun memory => compareExchangeTimeRegister memory register previous next
    if found ≠ previous then storeClintTimeBytesLoop register byteOffset source byteLength fuel
    else do
      if register = .mtime then reseatEpochForMtime next.toNat
      modify updateTimerWiresFromCompare

def storeClintTimeBytes (register : ClintTimeRegister) (byteOffset : Nat) (source : Bytes8)
    (byteLength : Nat) : MemoryCall Unit :=
  storeClintTimeBytesLoop register byteOffset source byteLength 1

def loadClintTimeRegisterByte (register : ClintTimeRegister) (byteOffset : Nat) : MemoryCall (BitVec 8) := do
  return byte (← syncTimeRegister register) byteOffset

def storeClintTimeRegisterByte (register : ClintTimeRegister) (byteOffset : Nat) (value : BitVec 8) :
    MemoryCall Unit :=
  storeClintTimeBytes register byteOffset (uint8ArrayOf value 0 0 0 0 0 0 0) 1

def readClintMtimeBytes : MemoryCall Bytes8 := do
  tickClint
  return unsignedBigIntToBytes (readTimeRegister (← get) .mtime).toNat

def loadClintByte (register : ClintRegister) (byteOffset : Nat) : MemoryCall (BitVec 8) :=
  match register with
  | .msip => do return if byteOffset = 0 ∧ isClintMachineSoftwarePending (← get) then 1 else 0
  | .time register => loadClintTimeRegisterByte register byteOffset

def storeClintByte (register : ClintRegister) (byteOffset : Nat) (value : BitVec 8) : MemoryCall Unit :=
  match register with
  | .msip => modify fun memory =>
    if byteOffset = 0 then setClintMachineSoftwareWire memory (value &&& 1 != 0) else memory
  | .time register => storeClintTimeRegisterByte register byteOffset value

/-- One turn of the load loop. -/
def loadClintTurn (offset : Int) (byteIndex : Nat) (destination : Bytes8) : MemoryCall Bytes8 :=
  match clintOffsetToRegister (offset + byteIndex) with
  | none => pure (setByte destination byteIndex 0)
  | some (register, byteOffset) => do return setByte destination byteIndex (← loadClintByte register byteOffset)

def loadBytesFromClint (destination : Bytes8) (offset : Int) (byteLength : Nat) : MemoryCall Bytes8 :=
  match isClintTimeRegisterTransfer offset byteLength with
  | some (register, byteOffset) => loadClintTimeBytes register byteOffset destination byteLength
  | none => forEachCall (loadClintTurn offset) byteLength destination

/-- One turn of the store loop. -/
def storeClintTurn (offset : Int) (source : Bytes8) (byteIndex : Nat) : MemoryCall Unit :=
  match clintOffsetToRegister (offset + byteIndex) with
  | none => pure ()
  | some (register, byteOffset) => storeClintByte register byteOffset (byte source byteIndex)

def storeBytesToClint (offset : Int) (source : Bytes8) (byteLength : Nat) : MemoryCall Unit :=
  match isClintTimeRegisterTransfer offset byteLength with
  | some (register, byteOffset) => storeClintTimeBytes register byteOffset source byteLength
  | none => forEachCall (fun byteIndex _ => storeClintTurn offset source byteIndex) byteLength ()

def loadBytes (address : Bytes8) (byteLength : Nat) : MemoryCall Bytes8 := do
  let destination : Bytes8 := 0
  match resolveGuestAddressToRegionAndOffset (← get).layout.table address with
  | none => return destination
  | some (regionId, offset) =>
    if regionId = ramRegionId then return loadBytesFromRam (← get) destination offset byteLength
    else if regionId = uartRegionId then
      modifyGet fun memory => loadBytesFromUart memory destination offset byteLength
    else if regionId = clintRegionId then loadBytesFromClint destination offset byteLength
    else if regionId = plicRegionId then
      modifyGet fun memory => loadBytesFromPlic destination memory address byteLength
    else if regionId = sysconRegionId then return loadBytesFromSyscon (← get) destination offset byteLength
    else return destination

/-- The region's part of a store. -/
def storeBytesToRegion (address source : Bytes8) (byteLength : Nat) : MemoryCall Unit := do
  match resolveGuestAddressToRegionAndOffset (← get).layout.table address with
  | none => return
  | some (regionId, offset) =>
    if regionId = ramRegionId then modify fun memory => storeBytesToRam memory offset source byteLength
    else if regionId = uartRegionId then modify fun memory => storeBytesToUart memory offset source byteLength
    else if regionId = clintRegionId then storeBytesToClint offset source byteLength
    else if regionId = plicRegionId then modify fun memory => storeBytesToPlic memory address source byteLength
    else if regionId = sysconRegionId then modify fun memory => storeBytesToSyscon memory offset source byteLength
    else return

/-- The lock is released whether `run` returns or throws. -/
def withMonitorLock (run : MemoryCall Result) : MemoryCall Result := do
  modify acquireMonitorLock
  tryFinally run (modify releaseMonitorLock)

/-- A store releases what a store-conditional kept, whether its region returns or throws. -/
def storeBytes (address source : Bytes8) (byteLength : Nat) : MemoryCall Unit :=
  tryFinally
    (withMonitorLock do
      modify fun memory => invalidateOverlappingReservationsLocked memory address byteLength
      storeBytesToRegion address source byteLength)
    (modify releaseScMonitorIfHeld)

/-! What callers see is what the functions that forget the memory of a throw give. -/

variable {memory : Memory}

/-- A result of the functions without it, as a call's outcome. -/
def unitOutcome (result : Except String Memory) : Except String (Unit × Memory) :=
  result.map fun after => ((), after)

theorem readHostClock_outcome : outcome readHostClock memory = .ok memory.readHostClock := rfl

theorem timebaseHz_outcome : outcome timebaseHz memory = (Emulator.timebaseHz memory).map fun hz => (hz, memory) := by
  simp only [timebaseHz, outcome_bind, outcome_get, Except.bind, Emulator.timebaseHz]
  split <;> rfl

theorem reseatEpochForMtime_outcome (mtime : Nat) : outcome (reseatEpochForMtime mtime) memory =
    unitOutcome (Emulator.reseatEpochForMtime memory mtime) := by
  simp only [reseatEpochForMtime, outcome_bind, readHostClock_outcome, Except.bind, timebaseHz_outcome,
    Emulator.reseatEpochForMtime, unitOutcome]
  cases Emulator.timebaseHz memory.readHostClock.2 <;> rfl

theorem tickClintLoop_outcome (fuel : Nat) : outcome (tickClintLoop fuel) memory =
    unitOutcome (Emulator.tickClintLoop fuel memory) := by
  induction fuel generalizing memory with
  | zero => rfl
  | succ fuel ih =>
    simp only [tickClintLoop, outcome_bind, outcome_get, readHostClock_outcome, Except.bind, timebaseHz_outcome,
      Emulator.tickClintLoop]
    cases Emulator.timebaseHz memory.readHostClock.2 with
    | error message => rfl
    | ok hz =>
      simp only [Except.map, outcome_modifyGet]
      split
      · exact ih
      · simp only [outcome_bind, outcome_get, Except.bind]
        split
        · exact ih
        · rfl

theorem syncTimeRegister_outcome (register : ClintTimeRegister) : outcome (syncTimeRegister register) memory =
    ((if register = .mtime then Emulator.tickClint memory else .ok memory).map fun memory =>
      (readTimeRegister memory register, memory)) := by
  simp only [syncTimeRegister]
  split
  · simp only [outcome_bind, tickClint, tickClintLoop_outcome, Emulator.tickClint, unitOutcome]
    cases Emulator.tickClintLoop 1 memory <;> rfl
  · rfl

theorem loadClintTimeBytes_outcome (register : ClintTimeRegister) (byteOffset : Nat) (destination : Bytes8)
    (byteLength : Nat) : outcome (loadClintTimeBytes register byteOffset destination byteLength) memory =
      Emulator.loadClintTimeBytes memory register byteOffset destination byteLength := by
  simp only [loadClintTimeBytes, outcome_bind, syncTimeRegister_outcome, Emulator.loadClintTimeBytes]
  cases (if register = .mtime then Emulator.tickClint memory else .ok memory) <;> rfl

theorem storeClintTimeBytesLoop_outcome (register : ClintTimeRegister) (byteOffset : Nat) (source : Bytes8)
    (byteLength fuel : Nat) :
    outcome (storeClintTimeBytesLoop register byteOffset source byteLength fuel) memory =
      unitOutcome (Emulator.storeClintTimeBytesLoop register byteOffset source byteLength fuel memory) := by
  induction fuel generalizing memory with
  | zero => rfl
  | succ fuel ih =>
    simp only [storeClintTimeBytesLoop, outcome_bind, outcome_get, Except.bind, outcome_modifyGet,
      Emulator.storeClintTimeBytesLoop]
    split
    · exact ih
    · split
      · simp only [outcome_bind, reseatEpochForMtime_outcome, unitOutcome]
        cases Emulator.reseatEpochForMtime _ _ <;> rfl
      · rfl

theorem loadClintTimeRegisterByte_outcome (register : ClintTimeRegister) (byteOffset : Nat) :
    outcome (loadClintTimeRegisterByte register byteOffset) memory =
      Emulator.loadClintTimeRegisterByte memory register byteOffset := by
  simp only [loadClintTimeRegisterByte, outcome_bind, syncTimeRegister_outcome, Emulator.loadClintTimeRegisterByte]
  cases (if register = .mtime then Emulator.tickClint memory else .ok memory) <;> rfl

theorem readClintMtimeBytes_outcome : outcome readClintMtimeBytes memory = Emulator.readClintMtimeBytes memory := by
  simp only [readClintMtimeBytes, outcome_bind, tickClint, tickClintLoop_outcome, unitOutcome,
    Emulator.readClintMtimeBytes, Emulator.tickClint]
  cases Emulator.tickClintLoop 1 memory <;> rfl

theorem loadClintTurn_outcome (offset : Int) (byteIndex : Nat) (destination : Bytes8) :
    outcome (loadClintTurn offset byteIndex destination) memory =
      Emulator.loadClintTurn offset byteIndex (.ok (destination, memory)) := by
  simp only [loadClintTurn, Emulator.loadClintTurn, Except.bind]
  cases clintOffsetToRegister (offset + byteIndex) with
  | none => rfl
  | some place =>
    obtain ⟨register, byteOffset⟩ := place
    cases register with
    | msip => rfl
    | time register =>
      simp only [outcome_bind, loadClintByte, loadClintTimeRegisterByte_outcome, Emulator.loadClintByte]
      cases Emulator.loadClintTimeRegisterByte memory register byteOffset <;> rfl

theorem loadBytesFromClint_outcome (destination : Bytes8) (offset : Int) (byteLength : Nat) :
    outcome (loadBytesFromClint destination offset byteLength) memory =
      Emulator.loadBytesFromClint destination memory offset byteLength := by
  simp only [loadBytesFromClint, Emulator.loadBytesFromClint]
  cases isClintTimeRegisterTransfer offset byteLength with
  | some place => exact loadClintTimeBytes_outcome _ _ _ _
  | none =>
    dsimp only
    rw [outcome_forEachCall]
    refine forEachIndex_congr (fun byteIndex _ reached => ?_) _
    cases reached with
    | error message => rfl
    | ok reached => exact loadClintTurn_outcome offset byteIndex reached.1

theorem storeClintTurn_outcome (offset : Int) (source : Bytes8) (byteIndex : Nat) :
    outcome (storeClintTurn offset source byteIndex) memory =
      unitOutcome (Emulator.storeClintTurn offset source byteIndex (.ok memory)) := by
  simp only [storeClintTurn, Emulator.storeClintTurn, Except.bind]
  cases clintOffsetToRegister (offset + byteIndex) with
  | none => rfl
  | some place =>
    obtain ⟨register, byteOffset⟩ := place
    cases register with
    | msip => rfl
    | time register => exact storeClintTimeBytesLoop_outcome _ _ _ _ _

theorem storeBytesToClint_outcome (offset : Int) (source : Bytes8) (byteLength : Nat) :
    outcome (storeBytesToClint offset source byteLength) memory =
      unitOutcome (Emulator.storeBytesToClint memory offset source byteLength) := by
  simp only [storeBytesToClint, Emulator.storeBytesToClint]
  cases isClintTimeRegisterTransfer offset byteLength with
  | some place => exact storeClintTimeBytesLoop_outcome _ _ _ _ _
  | none =>
    dsimp only
    rw [outcome_forEachCall]
    refine forEachIndex_related (fun reached result => reached = unitOutcome result) ?_ rfl
    rintro byteIndex _ _ result rfl
    cases result with
    | error message => rfl
    | ok after => exact storeClintTurn_outcome offset source byteIndex

theorem loadBytes_outcome (address : Bytes8) (byteLength : Nat) : outcome (loadBytes address byteLength) memory =
    Emulator.loadBytes memory address byteLength := by
  simp only [loadBytes, outcome_bind, outcome_get, Except.bind, Emulator.loadBytes]
  cases resolveGuestAddressToRegionAndOffset memory.layout.table address with
  | none => rfl
  | some resolved =>
    obtain ⟨regionId, offset⟩ := resolved
    dsimp only
    split_ifs <;> first | rfl | exact loadBytesFromClint_outcome _ _ _

theorem storeBytesToRegion_outcome (address source : Bytes8) (byteLength : Nat) :
    outcome (storeBytesToRegion address source byteLength) memory =
      unitOutcome (Emulator.storeBytesToRegion memory address source byteLength) := by
  simp only [storeBytesToRegion, outcome_bind, outcome_get, Except.bind, Emulator.storeBytesToRegion]
  cases resolveGuestAddressToRegionAndOffset memory.layout.table address with
  | none => rfl
  | some resolved =>
    obtain ⟨regionId, offset⟩ := resolved
    dsimp only
    split_ifs <;> first | rfl | exact storeBytesToClint_outcome _ _ _

theorem storeBytes_outcome (address source : Bytes8) (byteLength : Nat) :
    outcome (storeBytes address source byteLength) memory =
      unitOutcome (Emulator.storeBytes memory address source byteLength) := by
  simp only [storeBytes, withMonitorLock, outcome_finally, outcome_bind, outcome_modify, Except.bind,
    storeBytesToRegion_outcome, Emulator.storeBytes, unitOutcome]
  cases Emulator.storeBytesToRegion _ address source byteLength <;> rfl

end YaRiscV.Emulator.Unwinding
