import Mathlib.Data.List.Induction
import Mathlib.Data.Option.Basic

/-! Claims that later events revoke: one claim per holder, granted by some events and
revoked by others, and the table they leave read off their history alone. -/

namespace YaRiscV.Library

/-- What an event does to the claim of each holder; a grant replaces the claim. -/
structure ClaimRules (Event Holder Claim : Type*) where
  grants : Event → Holder → Option Claim
  revokes : Event → Holder → Claim → Bool

namespace ClaimRules

variable (rules : ClaimRules Event Holder Claim)

def next (table : Holder → Option Claim) (event : Event) (holder : Holder) : Option Claim :=
  match rules.grants event holder with
  | some claim => some claim
  | none => (table holder).filter fun claim => !rules.revokes event holder claim

/-- The table after a history that starts with no claims. -/
def run (events : List Event) : Holder → Option Claim :=
  events.foldl rules.next fun _ => none

/-- `event` lets `holder` keep `claim`, and does not replace it. -/
def Keeps (event : Event) (holder : Holder) (claim : Claim) : Prop :=
  rules.grants event holder = none ∧ rules.revokes event holder claim = false

/-- The history granted `claim` to `holder` and every later event kept it. -/
def HeldAfter (events : List Event) (holder : Holder) (claim : Claim) : Prop :=
  ∃ before event after, events = before ++ event :: after ∧ rules.grants event holder = some claim ∧
    ∀ later ∈ after, rules.Keeps later holder claim

variable {rules}

theorem run_concat (events : List Event) (event : Event) :
    rules.run (events ++ [event]) = rules.next (rules.run events) event := by
  rw [run, List.foldl_append]
  rfl

/-- A holder's next claim depends on its own claim only. -/
theorem next_congr {table other : Holder → Option Claim} (same : table holder = other holder) (event : Event) :
    rules.next table event holder = rules.next other event holder := by
  rw [next, next, same]

theorem next_eq_some {table : Holder → Option Claim} : rules.next table event holder = some claim ↔
    rules.grants event holder = some claim ∨
      (rules.Keeps event holder claim ∧ table holder = some claim) := by
  rw [next]
  cases granted : rules.grants event holder with
  | some other => simp [Keeps, granted]
  | none => simp [Keeps, granted, Option.filter_eq_some_iff, and_comm]

theorem heldAfter_concat : rules.HeldAfter (events ++ [event]) holder claim ↔
    rules.grants event holder = some claim ∨
      (rules.Keeps event holder claim ∧ rules.HeldAfter events holder claim) := by
  constructor
  · rintro ⟨before, granting, after, split, granted, kept⟩
    rcases List.eq_nil_or_concat after with rfl | ⟨middle, last, rfl⟩
    · obtain ⟨_, same⟩ := List.append_inj' split rfl
      cases same
      exact .inl granted
    · rw [List.concat_eq_append, ← List.cons_append, ← List.append_assoc] at split
      obtain ⟨same, rest⟩ := List.append_inj' split rfl
      cases rest
      exact .inr ⟨kept event (by simp), before, granting, middle, same, granted,
        fun later member => kept later (by simp [member])⟩
  · rintro (granted | ⟨keeps, before, granting, after, rfl, granted, kept⟩)
    · exact ⟨events, event, [], rfl, granted, by simp⟩
    · refine ⟨before, granting, after ++ [event], by simp, granted, fun later member => ?_⟩
      rcases List.mem_append.mp member with old | new
      · exact kept later old
      · rw [List.mem_singleton.mp new]
        exact keeps

/-- A holder has a claim exactly when the history says so. -/
theorem run_eq_some_iff : rules.run events holder = some claim ↔ rules.HeldAfter events holder claim := by
  induction events using List.reverseRecOn with
  | nil => simp [run, HeldAfter]
  | append_singleton events event ih => rw [run_concat, next_eq_some, heldAfter_concat, ih]

/-- Where every grant revokes what conflicts with it, claims never conflict. -/
theorem run_exclusive {conflicts : Claim → Claim → Prop}
    (symmetric : ∀ left right, conflicts left right → conflicts right left)
    (single : ∀ event holder claim other, other ≠ holder → rules.grants event holder = some claim →
      rules.grants event other = none)
    (clears : ∀ event holder claim other held, other ≠ holder → rules.grants event holder = some claim →
      conflicts claim held → rules.revokes event other held = true)
    (events : List Event) (different : holder ≠ other) (mine : rules.run events holder = some claim)
    (theirs : rules.run events other = some held) : ¬ conflicts claim held := by
  induction events using List.reverseRecOn with
  | nil => cases mine
  | append_singleton events event ih =>
    rw [run_concat, next_eq_some] at mine theirs
    intro conflict
    rcases mine with granted | ⟨_, mine⟩
    · rcases theirs with also | ⟨keeps, _⟩
      · rw [single event holder claim other different.symm granted] at also
        cases also
      · rw [Keeps, clears event holder claim other held different.symm granted conflict] at keeps
        cases keeps.2
    · rcases theirs with granted | ⟨_, theirs⟩
      · rename_i keeps
        rw [Keeps, clears event other held holder claim different granted (symmetric _ _ conflict)] at keeps
        cases keeps.2
      · exact ih mine theirs conflict

end ClaimRules

end YaRiscV.Library
