import YaRiscV.Emulator.WireTurns

/-! Two workers that drive different wires: what their calls of `setIrqWire` owe the wires,
the aggregate word, and a sleeper who compared that word. -/

namespace YaRiscV.Emulator

open YaRiscV.Library

/-- A call of `setIrqWire` under way. -/
structure WireDrive where
  wire : IrqWire
  pending : Bool
  phase : DrivePhase
  deriving DecidableEq, Repr

/-- The next access of a call. -/
abbrev WireDrive.turn (drive : WireDrive) (memory : Memory) : DrivePhase × Memory :=
  driveTurn drive.wire drive.pending memory drive.phase

/-- Between the store of the byte and the compare-exchange that wins. -/
def DrivePhase.stored : DrivePhase → Bool
  | .loading | .exchanging _ => true
  | _ => false

variable (call : Option WireDrive) (wire : IrqWire)

/-- The call has stored the wire at `pending`, and its line is to follow. -/
def StoredAs (pending : Bool) : Prop :=
  ∃ drive, call = some drive ∧ drive.wire = wire ∧ drive.pending = pending ∧ drive.phase.stored = true

/-- The call lowers the wire, and is still to clear its line. -/
def Lowers : Prop :=
  ∃ drive, call = some drive ∧ drive.wire = wire ∧ drive.pending = false ∧
    (drive.phase = .storing ∨ drive.phase.stored = true)

def Notifies : Prop :=
  ∃ drive, call = some drive ∧ drive.phase = .notifying

/-- The call has accesses to make. -/
def Drives : Prop :=
  ∃ drive, call = some drive ∧ drive.phase ≠ .driven

/-- No access of the call has been made yet. -/
def Fresh : Prop :=
  ∀ drive, call = some drive → drive.phase = .storing

/-- The calls are of different wires. -/
def Apart (mine other : Option WireDrive) : Prop :=
  ∀ drive another, mine = some drive → other = some another → drive.wire ≠ another.wire

/-- What the worker is in after an access of a call: the call, until it is done. -/
structure DriveLeads (memory : Memory) (drive : WireDrive) (next : Option WireDrive) : Prop where
  goes : (drive.turn memory).1 ≠ .driven → next = some { drive with phase := (drive.turn memory).1 }
  ends : (drive.turn memory).1 = .driven → Fresh next

/-- One access of a worker that may be in a call: it leaves the wires alone, or is the call's next. -/
inductive DriveMove : Memory → Option WireDrive → Memory → Option WireDrive → Prop
  | quiet (same : SameWires memory after) (fresh : Fresh next) : DriveMove memory none after next
  | turn (drive : WireDrive) (leads : DriveLeads memory drive next) :
      DriveMove memory (some drive) (drive.turn memory).2 next

/-- The wire is high only with its line, unless a call is to raise the line; and low where a
call is to clear it. -/
structure Calm (memory : Memory) (mine other : Option WireDrive) (wire : IrqWire) : Prop where
  rise : wire.high memory = true → wire.line memory = true ∨ StoredAs mine wire true ∨ StoredAs other wire true
  fall : StoredAs mine wire false ∨ StoredAs other wire false → wire.high memory = false

/-- Somebody is to notify, or the word is as it was compared and each line of interest that is
set is to be cleared. -/
def Awaits (memory : Memory) (mine other : Option WireDrive) (fromLevel : BitVec 32)
    (interest : IrqWire → Prop) : Prop :=
  Notifies mine ∨ Notifies other ∨ (loadIrqLevel memory = fromLevel ∧
    ∀ wire, interest wire → wire.line memory = true → Lowers mine wire ∨ Lowers other wire)

variable {call wire} {memory after : Memory} {mine other next : Option WireDrive}

theorem Fresh.not_stored (fresh : Fresh call) : ¬ StoredAs call wire pending := by
  rintro ⟨drive, there, _, _, stored⟩
  rw [fresh drive there] at stored
  cases stored

/-! What is owed is owed by somebody who still drives. -/

theorem StoredAs.drives (stored : StoredAs call wire pending) : Drives call := by
  obtain ⟨drive, there, _, _, owed⟩ := stored
  refine ⟨drive, there, fun ended => ?_⟩
  rw [ended] at owed
  cases owed

theorem Lowers.drives (lowers : Lowers call wire) : Drives call := by
  obtain ⟨drive, there, _, _, owed⟩ := lowers
  refine ⟨drive, there, fun ended => ?_⟩
  rw [ended] at owed
  rcases owed with early | stored
  · cases early
  · cases stored

theorem Notifies.drives (notifies : Notifies call) : Drives call := by
  obtain ⟨drive, there, owed⟩ := notifies
  refine ⟨drive, there, fun ended => ?_⟩
  rw [ended] at owed
  cases owed

theorem driveTurn_wins (pending : Bool) : driveTurn wire pending memory (.exchanging (loadIrqLevel memory)) =
    (if drivenLevel wire pending (loadIrqLevel memory) ≠ loadIrqLevel memory then .notifying else .driven,
      memory.store32 memory.layout.irqLevel (drivenLevel wire pending (loadIrqLevel memory))) := by
  simp only [driveTurn, Memory.compareExchange32, loadIrqLevel, if_true]

theorem driveTurn_loses (pending : Bool) (lost : loadIrqLevel memory ≠ previous) :
    driveTurn wire pending memory (.exchanging previous) = (.exchanging (loadIrqLevel memory), memory) := by
  have moved : ¬ memory.load32 memory.layout.irqLevel = previous := lost
  simp only [driveTurn, Memory.compareExchange32, if_neg moved]
  rfl

/-- What an access of `setIrqWire` does to the lines. -/
theorem driveTurn_line (pending : Bool) (phase : DrivePhase) (seen : IrqWire) :
    seen.line (driveTurn wire pending memory phase).2 =
      if phase = .exchanging (loadIrqLevel memory) ∧ seen = wire then pending else seen.line memory := by
  cases phase with
  | storing => exact congrArg (·.getLsbD seen.number) (level_storeWire memory wire _)
  | exchanging previous =>
    by_cases won : loadIrqLevel memory = previous
    · subst won
      rw [driveTurn_wins, IrqWire.line, level_storeLevel, getLsbD_drivenLevel]
      simp only [true_and]
      rfl
    · rw [driveTurn_loses pending won, if_neg]
      rintro ⟨same, _⟩
      exact won (DrivePhase.exchanging.inj same).symm
  | loading | notifying | driven => rfl

theorem Calm.symm (calm : Calm memory mine other wire) : Calm memory other mine wire :=
  ⟨fun high => (calm.rise high).imp id Or.symm, fun stored => calm.fall stored.symm⟩

/-- At a wire that is low, nothing is owed yet. -/
theorem Calm.of_low (low : wire.high memory = false) : Calm memory mine other wire :=
  ⟨fun high => absurd (low.symm.trans high) Bool.false_ne_true, fun _ => low⟩

theorem Calm.same (calm : Calm memory mine other wire) (same : SameWires memory after) :
    Calm after mine other wire := by
  constructor
  · rw [same.high, same.line]
    exact calm.rise
  · rw [same.high]
    exact calm.fall

/-- A new call owes nothing yet. -/
theorem Calm.fresh (calm : Calm memory none other wire) (fresh : Fresh next) : Calm memory next other wire := by
  refine ⟨fun high => ?_, fun stored => calm.fall (.inr (stored.resolve_left fresh.not_stored))⟩
  rcases calm.rise high with line | ⟨drive, there, _⟩ | stored
  · exact .inl line
  · cases there
  · exact .inr (.inr stored)

/-- What the call still owes after an access, it owed before, or the access was its store. -/
theorem StoredAs.turn {drive : WireDrive} {pending : Bool}
    (leads : DriveLeads memory drive next) :
    StoredAs next wire pending ↔ drive.wire = wire ∧ drive.pending = pending ∧
      (drive.turn memory).1.stored = true := by
  by_cases ended : (drive.turn memory).1 = .driven
  · rw [ended]
    refine ⟨fun stored => absurd stored (leads.ends ended).not_stored, fun stored => ?_⟩
    cases stored.2.2
  · rw [leads.goes ended]
    constructor
    · rintro ⟨_, there, same, level, stored⟩
      cases there
      exact ⟨same, level, stored⟩
    · rintro ⟨same, level, stored⟩
      exact ⟨_, rfl, same, level, stored⟩

theorem StoredAs.some_iff {drive : WireDrive} {pending : Bool} : StoredAs (some drive) wire pending ↔
    drive.wire = wire ∧ drive.pending = pending ∧ drive.phase.stored = true := by
  constructor
  · rintro ⟨_, there, owed⟩
    cases there
    exact owed
  · exact fun owed => ⟨drive, rfl, owed⟩

/-- A call of another wire owes this one nothing. -/
theorem Apart.not_stored {drive : WireDrive} (apart : Apart (some drive) other) :
    ¬ StoredAs other drive.wire pending := by
  rintro ⟨another, there, same, _⟩
  exact apart drive another rfl there same.symm

/-- An access leaves the other wires and their lines alone. -/
theorem driveTurn_other {drive : WireDrive} (different : drive.wire ≠ wire) :
    wire.high (drive.turn memory).2 = wire.high memory ∧
      wire.line (drive.turn memory).2 = wire.line memory := by
  constructor
  · rw [driveTurn_high, if_neg fun both => different both.2.symm]
  · rw [driveTurn_line, if_neg fun both => different both.2.symm]

theorem Calm.turn {drive : WireDrive} (calm : Calm memory (some drive) other wire) (apart : Apart (some drive) other)
    (leads : DriveLeads memory drive next) :
    Calm (drive.turn memory).2 next other wire := by
  have owes (pending : Bool) : StoredAs next wire pending ↔ drive.wire = wire ∧ drive.pending = pending ∧
      (drive.turn memory).1.stored = true := StoredAs.turn leads
  by_cases mine : drive.wire = wire
  · subst mine
    have alien (pending : Bool) : ¬ StoredAs other drive.wire pending := apart.not_stored
    obtain ⟨rise, fall⟩ := calm
    simp only [StoredAs.some_iff, alien, or_false, true_and] at rise fall
    obtain ⟨wire, pending, phase⟩ := drive
    simp only [true_and] at owes
    cases phase with
    | storing =>
      have stores : (driveTurn wire pending memory .storing).1.stored = true := rfl
      constructor
      · intro high
        rw [driveTurn_high, if_pos ⟨rfl, rfl⟩] at high
        exact .inr (.inl ((owes true).mpr ⟨high, stores⟩))
      · rintro (stored | stored)
        · rw [driveTurn_high, if_pos ⟨rfl, rfl⟩]
          exact ((owes false).mp stored).1
        · exact absurd stored (alien false)
    | loading =>
      refine ⟨fun high => (rise high).imp id fun stored => ?_, ?_⟩
      · exact .inl ((owes true).mpr ⟨stored.1, rfl⟩)
      · rintro (stored | stored)
        · exact fall ⟨((owes false).mp stored).1, rfl⟩
        · exact absurd stored (alien false)
    | exchanging previous =>
      by_cases won : loadIrqLevel memory = previous
      · subst won
        have ended (pending' : Bool) : ¬ StoredAs next wire pending' := by
          rw [owes, WireDrive.turn, driveTurn_wins]
          split
          · exact fun stored => Bool.false_ne_true stored.2
          · exact fun stored => Bool.false_ne_true stored.2
        constructor
        · intro high
          rw [driveTurn_high, if_neg (by rintro ⟨same, _⟩; cases same)] at high
          rw [driveTurn_line, if_pos ⟨rfl, rfl⟩]
          cases pending with
          | true => exact .inl rfl
          | false => exact absurd ((fall ⟨rfl, rfl⟩).symm.trans high) Bool.false_ne_true
        · rintro (stored | stored)
          · exact absurd stored (ended false)
          · exact absurd stored (alien false)
      · rw [WireDrive.turn, driveTurn_loses pending won] at owes ⊢
        refine ⟨fun high => (rise high).imp id fun stored => ?_, ?_⟩
        · exact .inl ((owes true).mpr ⟨stored.1, rfl⟩)
        · rintro (stored | stored)
          · exact fall ⟨((owes false).mp stored).1, rfl⟩
          · exact absurd stored (alien false)
    | notifying | driven =>
      have ended (pending' : Bool) : ¬ StoredAs next wire pending' := (leads.ends rfl).not_stored
      refine ⟨fun high => (rise high).imp id fun stored => (Bool.false_ne_true stored.2).elim, ?_⟩
      rintro (stored | stored)
      · exact absurd stored (ended false)
      · exact absurd stored (alien false)
  · have high : wire.high (drive.turn memory).2 = _ := (driveTurn_other mine).1
    have line : wire.line (drive.turn memory).2 = _ := (driveTurn_other mine).2
    constructor
    · rw [high, line, owes true]
      intro up
      refine (calm.rise up).imp id fun stored => ?_
      exact .inr (stored.resolve_left fun own => mine (StoredAs.some_iff.mp own).1)
    · rw [high, owes false]
      exact fun stored => calm.fall (.inr (stored.resolve_left fun own => mine own.1))

theorem Calm.move (calm : Calm memory mine other wire) (apart : Apart mine other)
    (move : DriveMove memory mine after next) : Calm after next other wire := by
  cases move with
  | quiet same fresh => exact (calm.same same).fresh fresh
  | turn drive leads => exact calm.turn apart leads

theorem Lowers.some_iff {drive : WireDrive} : Lowers (some drive) wire ↔
    drive.wire = wire ∧ drive.pending = false ∧ (drive.phase = .storing ∨ drive.phase.stored = true) := by
  constructor
  · rintro ⟨_, there, owed⟩
    cases there
    exact owed
  · exact fun owed => ⟨drive, rfl, owed⟩

theorem Apart.not_lowers {drive : WireDrive} (apart : Apart (some drive) other) : ¬ Lowers other drive.wire := by
  rintro ⟨another, there, same, _⟩
  exact apart drive another rfl there same.symm

theorem Awaits.symm {fromLevel : BitVec 32} {interest : IrqWire → Prop}
    (awaits : Awaits memory mine other fromLevel interest) : Awaits memory other mine fromLevel interest := by
  rcases awaits with notifies | notifies | ⟨level, lines⟩
  · exact .inr (.inl notifies)
  · exact .inl notifies
  · exact .inr (.inr ⟨level, fun wire asked line => (lines wire asked line).symm⟩)

/-- A call that is still between its store and its compare-exchange still lowers its wire. -/
theorem Lowers.turn {drive : WireDrive} (lowers : Lowers (some drive) wire)
    (stored : (drive.turn memory).1.stored = true)
    (leads : DriveLeads memory drive next) :
    Lowers next wire := by
  obtain ⟨same, low, _⟩ := Lowers.some_iff.mp lowers
  have more : (drive.turn memory).1 ≠ .driven := by
    intro ended
    rw [ended] at stored
    cases stored
  exact ⟨_, leads.goes more, same, low, .inr stored⟩

/-- What a sleeper waits for stays so under an access that is not the notify itself. -/
theorem Awaits.turn {fromLevel : BitVec 32} {interest : IrqWire → Prop} {drive : WireDrive}
    (awaits : Awaits memory (some drive) other fromLevel interest) (apart : Apart (some drive) other)
    (silent : ¬ Notifies (some drive))
    (leads : DriveLeads memory drive next) :
    Awaits (drive.turn memory).2 next other fromLevel interest := by
  rcases awaits with notifies | notifies | ⟨level, lines⟩
  · exact absurd notifies silent
  · exact .inr (.inl notifies)
  obtain ⟨wire, pending, phase⟩ := drive
  cases phase with
  | storing =>
    refine .inr (.inr ⟨(level_storeWire memory wire _).trans level, fun seen asked line => ?_⟩)
    rw [driveTurn_line, if_neg (by rintro ⟨same, _⟩; cases same)] at line
    exact (lines seen asked line).imp (fun lowers => lowers.turn rfl leads) id
  | loading =>
    refine .inr (.inr ⟨level, fun seen asked line => ?_⟩)
    exact (lines seen asked line).imp (fun lowers => lowers.turn rfl leads) id
  | exchanging previous =>
    by_cases won : loadIrqLevel memory = previous
    · subst won
      by_cases changes : drivenLevel wire pending (loadIrqLevel memory) = loadIrqLevel memory
      · refine .inr (.inr ⟨?_, fun seen asked line => ?_⟩)
        · rw [WireDrive.turn, driveTurn_wins, level_storeLevel, changes]
          exact level
        · rw [driveTurn_line] at line
          by_cases mine : seen = wire
          · subst mine
            rw [if_pos ⟨rfl, rfl⟩] at line
            subst line
            have bit := getLsbD_drivenLevel seen seen true (loadIrqLevel memory)
            rw [changes, if_pos rfl] at bit
            rcases lines seen asked bit with lowers | lowers
            · exact absurd (Lowers.some_iff.mp lowers).2.1.symm Bool.false_ne_true
            · exact absurd lowers apart.not_lowers
          · rw [if_neg fun both => mine both.2] at line
            refine .inr ((lines seen asked line).resolve_left fun lowers => mine (Lowers.some_iff.mp lowers).1.symm)
      · have notifies : (driveTurn wire pending memory (.exchanging (loadIrqLevel memory))).1 = .notifying := by
          rw [driveTurn_wins, if_pos changes]
        refine .inl ⟨_, leads.goes ?_, notifies⟩
        rw [notifies]
        decide
    · have goes := leads.goes
      rw [WireDrive.turn, driveTurn_loses pending won] at goes ⊢
      refine .inr (.inr ⟨level, fun seen asked line => ?_⟩)
      refine (lines seen asked line).imp (fun lowers => ?_) id
      obtain ⟨same, low, _⟩ := Lowers.some_iff.mp lowers
      exact ⟨_, goes (by rintro ⟨⟩), same, low, .inr rfl⟩
  | notifying => exact absurd ⟨_, rfl, rfl⟩ silent
  | driven =>
    refine .inr (.inr ⟨level, fun seen asked line => .inr ((lines seen asked line).resolve_left fun lowers => ?_)⟩)
    rcases (Lowers.some_iff.mp lowers).2.2 with early | stored
    · cases early
    · cases stored

theorem Awaits.move {fromLevel : BitVec 32} {interest : IrqWire → Prop}
    (awaits : Awaits memory mine other fromLevel interest) (apart : Apart mine other)
    (move : DriveMove memory mine after next) (silent : ¬ Notifies mine) :
    Awaits after next other fromLevel interest := by
  cases move with
  | quiet same fresh =>
    rcases awaits with notifies | notifies | ⟨level, lines⟩
    · exact absurd notifies silent
    · exact .inr (.inl notifies)
    · refine .inr (.inr ⟨same.level.trans level, fun wire asked line => .inr ?_⟩)
      rw [same.line] at line
      rcases lines wire asked line with ⟨drive, there, _⟩ | lowers
      · cases there
      · exact lowers
  | turn drive leads => exact awaits.turn apart silent leads

end YaRiscV.Emulator
