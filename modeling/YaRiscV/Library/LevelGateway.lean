import Mathlib.Logic.Function.Basic

/-! A gateway for level-triggered interrupt lines: each line is asserted or not, and
each source is idle or in service with one target. A source is presented exactly
while its line is asserted and nobody serves it. -/

namespace YaRiscV.Library

/-- Line levels and who serves each source. -/
structure Gateway (Source Target : Type) where
  asserted : Source → Bool
  servedBy : Source → Option Target

namespace Gateway

variable {Source Target : Type} [DecidableEq Source]
variable (gateway : Gateway Source Target)

def pending (source : Source) : Bool :=
  gateway.asserted source && (gateway.servedBy source).isNone

/-- The device changes its line. -/
def drive (source : Source) (level : Bool) : Gateway Source Target :=
  { gateway with asserted := Function.update gateway.asserted source level }

/-- A target takes a source into service. -/
def claim (target : Target) (source : Source) : Gateway Source Target :=
  { gateway with servedBy := Function.update gateway.servedBy source (some target) }

/-- The serving target gives the source back; other targets cannot. -/
def complete [DecidableEq Target] (target : Target) (source : Source) : Gateway Source Target :=
  if gateway.servedBy source = some target then
    { gateway with servedBy := Function.update gateway.servedBy source none }
  else gateway

variable {gateway}

theorem pending_drive (source other : Source) (level : Bool) :
    (gateway.drive source level).pending other =
      if other = source then level && (gateway.servedBy source).isNone else gateway.pending other := by
  by_cases same : other = source
  · subst same
    simp [drive, pending]
  · simp [drive, pending, same]

theorem pending_claim (target : Target) (source other : Source) :
    (gateway.claim target source).pending other =
      if other = source then false else gateway.pending other := by
  by_cases same : other = source
  · subst same
    simp [claim, pending]
  · simp [claim, pending, same]

theorem complete_other [DecidableEq Target] (notServing : gateway.servedBy source ≠ some target) :
    gateway.complete target source = gateway := by
  simp [complete, notServing]

theorem pending_complete [DecidableEq Target] (serving : gateway.servedBy source = some target) (other : Source) :
    (gateway.complete target source).pending other =
      if other = source then gateway.asserted source else gateway.pending other := by
  by_cases same : other = source
  · subst same
    simp [complete, serving, pending]
  · simp [complete, serving, pending, same]

end Gateway

end YaRiscV.Library
