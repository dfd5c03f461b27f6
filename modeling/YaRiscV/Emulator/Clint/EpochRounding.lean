import Mathlib.Tactic.LinearCombination
import YaRiscV.Emulator.Clint.Time
import YaRiscV.Emulator.Machine

/-! What a store to `mtime` leaves after the next tick: the stored value passes through
an epoch rounded to nanoseconds and kept modulo 2^64. -/

namespace YaRiscV.Emulator

open YaRiscV.Library YaRiscV.Utils

/-- The words of the slab that are not wires. -/
def InClintTimebase (layout : Layout) (position : Nat) : Prop :=
  (layout.clint.hostIndex ≤ position ∧ position < layout.clint.hostIndex + 16) ∨
  (layout.clint.hostIndex + 24 ≤ position ∧ position < layout.clint.hostIndex + clintHostByteLength)

variable {memory after : Memory}

theorem Layout.clint_irqLevel (layout : Layout) :
    layout.clint.hostIndex + clintHostByteLength ≤ layout.irqLevel ∨
      layout.irqLevel + 4 ≤ layout.clint.hostIndex := by
  have apart := layout.apart layout.clintFound layout.irqLevelFound (by decide)
  simpa only [Region.Apart, MappedRegion.toRegion, layout.clintLength, irqLevelHostByteLength] using apart

def SameTimebase (before after : Memory) : Prop :=
  ChangesOnly (fun position => ¬ InClintTimebase before.layout position) before after

theorem SameTimebase.trans (first : SameTimebase memory middle) (second : SameTimebase middle after) :
    SameTimebase memory after := by
  have layout : middle.layout = memory.layout := ChangesOnly.layout first
  rw [SameTimebase, layout] at second
  exact ChangesOnly.trans first second

theorem SameTimebase.word (same : SameTimebase memory after) (element : Nat) (real : element < 6)
    (notWires : element ≠ 2) :
    after.load64 (clintHostUint64 after element) = memory.load64 (clintHostUint64 memory element) := by
  have layout : after.layout = memory.layout := ChangesOnly.layout same
  simp only [clintHostUint64, layout]
  refine ChangesOnly.load64 same fun offset inside outside => outside ?_
  simp [InClintTimebase]
  omega

theorem setClintIrqWire_same (wire : 16 ≤ wireOffset ∧ wireOffset < 24) :
    SameTimebase memory (setClintIrqWire memory wireOffset pending levelBit) := by
  have apart := memory.layout.clint_irqLevel
  refine setIrqWire_changesOnly.mono fun position reached inside => ?_
  simp [InClintTimebase, InIrqLevel, clintByteIndex] at *
  omega

theorem setTimerWires_same (machine supervisor : Bool) : SameTimebase memory
    (setClintSupervisorTimerWire (setClintMachineTimerWire memory machine) supervisor) :=
  SameTimebase.trans (setClintIrqWire_same (by decide)) (setClintIrqWire_same (by decide))

/-- No input moves under the hart's own stores, so one attempt settles the wires. -/
theorem updateTimerWiresFromCompare_eq : updateTimerWiresFromCompare memory =
    setClintSupervisorTimerWire
      (setClintMachineTimerWire memory (decide (readTimeRegister memory .mtime ≥ readTimeRegister memory .mtimecmp)))
      (decide (readTimeRegister memory .mtime ≥ readStimecmpMirror memory)) := by
  simp only [updateTimerWiresFromCompare, timerWireUpdateAttempts, updateTimerWiresLoop]
  rw [if_pos]
  refine ⟨?_, ?_, ?_⟩
  · exact (setTimerWires_same _ _).word 0 (by decide) (by decide)
  · exact (setTimerWires_same _ _).word 1 (by decide) (by decide)
  · exact (setTimerWires_same _ _).word 5 (by decide) (by decide)

theorem updateTimerWiresFromCompare_same : SameTimebase memory (updateTimerWiresFromCompare memory) := by
  rw [updateTimerWiresFromCompare_eq]
  exact setTimerWires_same _ _

@[simp] theorem updateTimerWiresFromCompare_worker :
    (updateTimerWiresFromCompare memory).worker = memory.worker := by
  rw [updateTimerWiresFromCompare_eq]
  simp [setClintSupervisorTimerWire, setClintMachineTimerWire, setClintIrqWire]

@[simp] theorem updateTimerWiresFromCompare_layout :
    (updateTimerWiresFromCompare memory).layout = memory.layout :=
  ChangesOnly.layout updateTimerWiresFromCompare_same

/-- Storing one element of the slab leaves the others. -/
theorem load64_store64_other (memory : Memory) (different : element ≠ other) (value : BitVec 64) :
    (memory.store64 (clintHostUint64 memory element) value).load64 (clintHostUint64 memory other) =
      memory.load64 (clintHostUint64 memory other) := by
  refine Memory.load64_congr fun offset inside => Memory.store64_outside value ?_
  simp only [clintHostUint64]
  omega

/-- The value `tickClint` gives `mtime` at host time `now`. -/
def ticksAt (memory : Memory) (now : Nat) : BitVec 64 :=
  BitVec.ofInt 64 ((((now : Int) - (readEpochNs memory).toNat) * (readTimebaseHz memory).toNat).tdiv nsPerSecond)

theorem compareExchangeTimeRegister_self (register : ClintTimeRegister) (desired : BitVec 64) :
    compareExchangeTimeRegister memory register (readTimeRegister memory register) desired =
      (readTimeRegister memory register,
        memory.store64 (clintHostUint64 memory (timeRegisterUint64Index register)) desired) :=
  Memory.compareExchange64_self desired

theorem timebaseHz_set (set : (readTimebaseHz memory).toNat ≠ 0) :
    timebaseHz memory = .ok (readTimebaseHz memory).toNat :=
  if_neg set

/-- With a frequency set, one turn of the loop advances `mtime`. -/
theorem tickClint_eq (set : (readTimebaseHz memory).toNat ≠ 0) :
    tickClint memory = .ok (updateTimerWiresFromCompare
      (memory.readHostClock.2.store64 (clintHostUint64 memory clintHostMtimeUint64Index)
        (ticksAt memory memory.readHostClock.1))) := by
  have hz : timebaseHz memory.readHostClock.2 = .ok (readTimebaseHz memory).toNat := timebaseHz_set set
  have epoch : readEpochNs (memory.readHostClock.2.store64 (clintHostUint64 memory 0)
      (ticksAt memory memory.readHostClock.1)) = readEpochNs memory :=
    load64_store64_other memory.readHostClock.2 (by decide) _
  simp only [tickClint, tickClintLoop, hz, Except.bind, compareExchangeTimeRegister_self, ne_eq,
    not_true_eq_false, ↓reduceIte]
  exact if_neg (not_not_intro epoch)

theorem readEpochNs_write (memory : Memory) (value : Int) :
    readEpochNs (writeEpochNs memory value) = BitVec.ofInt 64 value :=
  Memory.load64_store64 _

theorem readTimebaseHz_writeEpochNs (memory : Memory) (value : Int) :
    readTimebaseHz (writeEpochNs memory value) = readTimebaseHz memory :=
  load64_store64_other memory (by decide) _

theorem writeEpochNs_worker (memory : Memory) (value : Int) :
    (writeEpochNs memory value).worker = memory.worker := rfl

/-- The epoch a store of `value` at host time `now` asks for. -/
def epochFor (hz value now : Nat) : Int :=
  (now : Int) - (value * nsPerSecond / hz : Nat)

theorem storeMtime_eq (set : (readTimebaseHz memory).toNat ≠ 0) (value : Bytes8) :
    storeClintTimeBytes memory .mtime 0 value 8 = .ok (updateTimerWiresFromCompare
      (writeEpochNs (memory.store64 (clintHostUint64 memory 0) value).readHostClock.2
        (epochFor (readTimebaseHz memory).toNat value.toNat (memory.worker.hrtime 0)))) := by
  have kept : readTimebaseHz (memory.store64 (clintHostUint64 memory 0) value).readHostClock.2 =
      readTimebaseHz memory :=
    load64_store64_other memory (by decide) value
  have hz : timebaseHz (memory.store64 (clintHostUint64 memory 0) value).readHostClock.2 =
      .ok (readTimebaseHz memory).toNat := by
    rw [← kept] at set
    rw [timebaseHz_set set, kept]
  simp only [storeClintTimeBytes, storeClintTimeBytesLoop, mergeTimeBytes, and_self, ↓reduceIte,
    compareExchangeTimeRegister_self, ne_eq, not_true_eq_false, reseatEpochForMtime,
    timeRegisterUint64Index, clintHostMtimeUint64Index, hz, Except.map]
  simp only [epochFor, Memory.readHostClock, Memory.store64_worker]
  congr 3

/-- Store `value` to `mtime` at the next host reading, tick at the one after, read `mtime`. -/
def mtimeStoreThenTick (memory : Memory) (value : Bytes8) : Except String (BitVec 64) :=
  ((storeClintTimeBytes memory .mtime 0 value 8).bind tickClint).map fun after => readTimeRegister after .mtime

/-- The slab after a store to `mtime`: the epoch asked for, and the same frequency. -/
theorem storeMtime_slab (set : (readTimebaseHz memory).toNat ≠ 0) (value : Bytes8) :
    ∃ after, storeClintTimeBytes memory .mtime 0 value 8 = .ok after ∧
      readTimebaseHz after = readTimebaseHz memory ∧
      readEpochNs after = BitVec.ofInt 64
        (epochFor (readTimebaseHz memory).toNat value.toNat (memory.worker.hrtime 0)) ∧
      after.worker.hrtime 0 = memory.worker.hrtime 1 := by
  refine ⟨_, storeMtime_eq set value, ?_, ?_, ?_⟩
  · rw [readTimebaseHz, updateTimerWiresFromCompare_same.word _ (by decide) (by decide), ← readTimebaseHz,
      readTimebaseHz_writeEpochNs]
    exact load64_store64_other memory (by decide) value
  · rw [readEpochNs, updateTimerWiresFromCompare_same.word _ (by decide) (by decide), ← readEpochNs,
      readEpochNs_write]
  · rw [updateTimerWiresFromCompare_worker, writeEpochNs_worker]
    rfl

/-- The register after a tick. -/
theorem tickClint_mtime (set : (readTimebaseHz memory).toNat ≠ 0) :
    ∃ after, tickClint memory = .ok after ∧
      readTimeRegister after .mtime = ticksAt memory (memory.worker.hrtime 0) := by
  refine ⟨_, tickClint_eq set, ?_⟩
  rw [readTimeRegister, timeRegisterUint64Index,
    updateTimerWiresFromCompare_same.word _ (by decide) (by decide)]
  exact Memory.load64_store64 _

theorem mtimeStoreThenTick_eq (set : (readTimebaseHz memory).toNat ≠ 0) (value : Bytes8) :
    mtimeStoreThenTick memory value = .ok (BitVec.ofInt 64
      ((((memory.worker.hrtime 1 : Int) -
        epochFor (readTimebaseHz memory).toNat value.toNat (memory.worker.hrtime 0) % 2 ^ 64) *
          (readTimebaseHz memory).toNat).tdiv nsPerSecond)) := by
  obtain ⟨stored, store, hz, epoch, clock⟩ := storeMtime_slab set value
  obtain ⟨ticked, tick, mtime⟩ := tickClint_mtime (by rwa [hz])
  have wrapped : ((BitVec.ofInt 64 (epochFor (readTimebaseHz memory).toNat value.toNat
      (memory.worker.hrtime 0))).toNat : Int) =
      epochFor (readTimebaseHz memory).toNat value.toNat (memory.worker.hrtime 0) % 2 ^ 64 := by
    rw [BitVec.toNat_ofInt]
    exact Int.toNat_of_nonneg (Int.emod_nonneg _ (by decide))
  simp only [mtimeStoreThenTick, store, Except.bind, tick, Except.map, mtime, ticksAt, hz, epoch, clock, wrapped]

/-- When the rounding of the stored epoch is invisible at host time `t1`: the wraps of
the epoch carry whole ticks, and the nanoseconds' remainder fits into the fraction of a
tick elapsed, from the side `tickClint` rounds to. -/
def EpochExact (hz value t0 t1 : Nat) : Prop :=
  (nsPerSecond : Int) ∣ epochFor hz value t0 / 2 ^ 64 * hz ∧
  if epochFor hz value t0 % 2 ^ 64 ≤ t1 then
    value * nsPerSecond % hz ≤ (t1 - t0) * hz % nsPerSecond
  else
    (t1 - t0) * hz % nsPerSecond ≤ value * nsPerSecond % hz ∧
      value * nsPerSecond % hz < (t1 - t0) * hz % nsPerSecond + nsPerSecond

theorem elapsed_split (hz value : Nat) {t0 t1 : Nat} (ordered : t0 ≤ t1) :
    ((t1 : Int) - epochFor hz value t0 % 2 ^ 64) * hz =
      1000000000 * ((value : Int) + ((t1 - t0) * hz / nsPerSecond : Nat)) +
        ((t1 - t0) * hz % nsPerSecond : Nat) - (value * nsPerSecond % hz : Nat) +
        epochFor hz value t0 / 2 ^ 64 * hz * 2 ^ 64 := by
  have quotient : (hz : Int) * (value * nsPerSecond / hz : Nat) + (value * nsPerSecond % hz : Nat) =
      value * 1000000000 := by
    exact_mod_cast Nat.div_add_mod (value * nsPerSecond) hz
  have ticks : (1000000000 : Int) * ((t1 - t0) * hz / nsPerSecond : Nat) +
      ((t1 - t0) * hz % nsPerSecond : Nat) = ((t1 : Int) - t0) * hz := by
    rw [← Nat.cast_sub ordered]
    exact_mod_cast Nat.div_add_mod ((t1 - t0) * hz) nsPerSecond
  have epoch := Int.mul_ediv_add_emod (epochFor hz value t0) (2 ^ 64)
  have asked : epochFor hz value t0 = t0 - (value * nsPerSecond / hz : Nat) := rfl
  generalize epochFor hz value t0 / 2 ^ 64 = wraps at *
  generalize epochFor hz value t0 % 2 ^ 64 = kept at *
  linear_combination quotient - ticks - hz * (epoch + asked)

private theorem ofInt_eq_iff (left right : Int) :
    BitVec.ofInt 64 left = BitVec.ofInt 64 right ↔ (left - right) % 2 ^ 64 = 0 := by
  rw [← BitVec.toNat_inj, BitVec.toNat_ofInt, BitVec.toNat_ofInt]
  omega

/-- Truncating division agrees with the whole ticks modulo 2^64 only without wraps. -/
private theorem ticks_iff (whole fraction remainder wraps : Int) (nonneg : 0 ≤ fraction)
    (small : fraction < 1000000000) (positive : 0 ≤ remainder) (bounded : remainder < 2 ^ 32) :
    BitVec.ofInt 64 ((1000000000 * whole + fraction - remainder + wraps * 2 ^ 64).tdiv 1000000000) =
        BitVec.ofInt 64 whole ↔
      wraps % 1000000000 = 0 ∧
        if 0 ≤ 1000000000 * whole + fraction - remainder + wraps * 2 ^ 64 then remainder ≤ fraction
        else fraction ≤ remainder ∧ remainder < fraction + 1000000000 := by
  rw [ofInt_eq_iff]
  split
  · rename_i forward
    rw [Int.tdiv_eq_ediv_of_nonneg forward]
    constructor
    · intro agree
      constructor <;> omega
    · rintro ⟨whole, fits⟩
      omega
  · rename_i backward
    rw [show 1000000000 * whole + fraction - remainder + wraps * 2 ^ 64 =
      -(-(1000000000 * whole + fraction - remainder + wraps * 2 ^ 64)) by ring, Int.neg_tdiv,
      Int.tdiv_eq_ediv_of_nonneg (by omega)]
    constructor
    · intro agree
      refine ⟨?_, ?_, ?_⟩ <;> omega
    · rintro ⟨whole, below, above⟩
      omega

/-- A stored `mtime` advances exactly from the value written if and only if the rounding
of the epoch does not show. -/
theorem mtime_store_exact_iff (memory : Memory) (value : Bytes8)
    (positive : 1 ≤ (readTimebaseHz memory).toNat) (bounded : (readTimebaseHz memory).toNat ≤ timebaseHzMax)
    (ordered : memory.worker.hrtime 0 ≤ memory.worker.hrtime 1) :
    mtimeStoreThenTick memory value = .ok (BitVec.ofNat 64 (value.toNat +
        (memory.worker.hrtime 1 - memory.worker.hrtime 0) * (readTimebaseHz memory).toNat / nsPerSecond)) ↔
      EpochExact (readTimebaseHz memory).toNat value.toNat (memory.worker.hrtime 0) (memory.worker.hrtime 1) := by
  have set : (readTimebaseHz memory).toNat ≠ 0 := by omega
  have limit : timebaseHzMax = 4294967295 := rfl
  rw [mtimeStoreThenTick_eq set, Except.ok.injEq]
  generalize (readTimebaseHz memory).toNat = hz at *
  generalize memory.worker.hrtime 0 = t0 at *
  generalize memory.worker.hrtime 1 = t1 at *
  have split := elapsed_split hz value.toNat ordered
  have remainder : value.toNat * nsPerSecond % hz < hz := Nat.mod_lt _ (by omega)
  have fraction : (t1 - t0) * hz % nsPerSecond < nsPerSecond := Nat.mod_lt _ (by decide)
  have second : (nsPerSecond : Int) = 1000000000 := rfl
  have cast : BitVec.ofNat 64 (value.toNat + (t1 - t0) * hz / nsPerSecond) =
      BitVec.ofInt 64 ((value.toNat : Int) + ((t1 - t0) * hz / nsPerSecond : Nat)) := by
    rw [← Nat.cast_add]
    exact (BitVec.ofInt_natCast _ _).symm
  have sign : 0 ≤ ((t1 : Int) - epochFor hz value.toNat t0 % 2 ^ 64) * hz ↔
      epochFor hz value.toNat t0 % 2 ^ 64 ≤ t1 := by
    rw [mul_nonneg_iff_of_pos_right (by omega), sub_nonneg]
  have rounding := ticks_iff (value.toNat + ((t1 - t0) * hz / nsPerSecond : Nat))
    ((t1 - t0) * hz % nsPerSecond : Nat) (value.toNat * nsPerSecond % hz : Nat)
    (epochFor hz value.toNat t0 / 2 ^ 64 * hz) (by omega) (by omega) (by omega) (by omega)
  rw [← split] at rounding
  rw [cast, EpochExact, second, rounding, Int.dvd_iff_emod_eq_zero]
  by_cases forward : epochFor hz value.toNat t0 % 2 ^ 64 ≤ t1
  · rw [if_pos (sign.mpr forward), if_pos forward, Nat.cast_le]
  · rw [if_neg fun nonneg => forward (sign.mp nonneg), if_neg forward]
    norm_cast

/-- The default machine at a given frequency, whose clock gives `t0` and then `t1`. -/
def clockedMemory (hz : BitVec 64) (t0 t1 : Nat) : Memory :=
  { defaultMemory.store64 (clintHostUint64 defaultMemory clintHostTimebaseHzUint64Index) hz with
    worker := { defaultMemory.worker with hrtime := fun n => if n = 0 then t0 else t1 } }

theorem clockedMemory_hz (hz : BitVec 64) (t0 t1 : Nat) : readTimebaseHz (clockedMemory hz t0 t1) = hz :=
  Memory.load64_store64 hz

/-- At 32768 Hz a nanosecond epoch cannot express one tick: `mtime` falls back to 0. -/
theorem mtime_store_lost_tick :
    mtimeStoreThenTick (clockedMemory 32768 1000000000 1000000000) 1 ≠
      .ok (BitVec.ofNat 64 (1 + (1000000000 - 1000000000) * 32768 / nsPerSecond)) := by
  rw [mtimeStoreThenTick_eq (by rw [clockedMemory_hz]; decide), clockedMemory_hz]
  decide

theorem mtime_store_exact_iff_default :
    mtimeStoreThenTick (clockedMemory 10000000 1000000000 2000000000) 100 =
        .ok (BitVec.ofNat 64 (100 + (2000000000 - 1000000000) * 10000000 / nsPerSecond)) ↔
      EpochExact 10000000 100 1000000000 2000000000 := by
  have exact_iff := mtime_store_exact_iff (clockedMemory 10000000 1000000000 2000000000) 100
    (by rw [clockedMemory_hz]; decide) (by rw [clockedMemory_hz]; decide) (by decide)
  rw [clockedMemory_hz] at exact_iff
  exact exact_iff

end YaRiscV.Emulator
