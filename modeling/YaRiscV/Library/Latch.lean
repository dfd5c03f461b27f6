import Mathlib.Data.List.Basic

/-! A latch over a history of events: it is set by some of them and cleared by others. -/

namespace YaRiscV.Library

variable {Event : Type u}

/-- Some event set the latch and none after it cleared it. -/
def SetSince (sets clears : Event → Prop) (history : List Event) : Prop :=
  ∃ earlier event later, history = earlier ++ event :: later ∧ sets event ∧ ∀ after ∈ later, ¬ clears after

variable {sets clears : Event → Prop} {history : List Event} {event : Event}

theorem setSince_nil : ¬ SetSince sets clears [] := by
  rintro ⟨earlier, event, later, split, _⟩
  exact List.append_ne_nil_of_right_ne_nil earlier (List.cons_ne_nil event later) split.symm

/-- Only the last event and the latch before it matter. -/
theorem setSince_concat :
    SetSince sets clears (history ++ [event]) ↔ sets event ∨ SetSince sets clears history ∧ ¬ clears event := by
  constructor
  · rintro ⟨earlier, setter, later, split, set, kept⟩
    rcases List.eq_nil_or_concat later with rfl | ⟨between, last, rfl⟩
    · obtain ⟨_, final⟩ := List.append_inj' split rfl
      obtain rfl : event = setter := List.head_eq_of_cons_eq final
      exact .inl set
    · rw [List.concat_eq_append, ← List.cons_append, ← List.append_assoc] at split
      obtain ⟨same, final⟩ := List.append_inj' split rfl
      obtain rfl : event = last := List.head_eq_of_cons_eq final
      rw [List.concat_eq_append] at kept
      refine .inr ⟨⟨earlier, setter, between, same, set, fun after member => ?_⟩, ?_⟩
      · exact kept after (List.mem_append_left _ member)
      · exact kept event (List.mem_append_right _ (List.mem_singleton_self event))
  · rintro (set | ⟨⟨earlier, setter, later, rfl, set, kept⟩, unclear⟩)
    · exact ⟨history, event, [], rfl, set, fun _ member => absurd member List.not_mem_nil⟩
    · refine ⟨earlier, setter, later ++ [event], by simp, set, fun after member => ?_⟩
      rcases List.mem_append.mp member with before | last
      · exact kept after before
      · rwa [List.mem_singleton.mp last]

theorem setSince_set (set : sets event) : SetSince sets clears (history ++ [event]) :=
  setSince_concat.mpr (.inl set)

theorem setSince_clear (unset : ¬ sets event) (clear : clears event) :
    ¬ SetSince sets clears (history ++ [event]) := by
  rw [setSince_concat]
  rintro (set | ⟨_, kept⟩)
  · exact unset set
  · exact kept clear

theorem setSince_other (unset : ¬ sets event) (kept : ¬ clears event) :
    SetSince sets clears (history ++ [event]) ↔ SetSince sets clears history := by
  rw [setSince_concat]
  exact ⟨fun since => (since.resolve_left unset).1, fun since => .inr ⟨since, kept⟩⟩

end YaRiscV.Library
