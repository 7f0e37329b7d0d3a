import Mathlib.Data.List.Induction
import Mathlib.Data.List.Infix

namespace JoyMesh.Library

variable {α : Type*} {P Q : List α → α → Prop} {history : List α} {event : α}

-- What holds of every event of a history and of all that was before it.
def Throughout (P : List α → α → Prop) (history : List α) : Prop :=
  ∀ before event after, history = before ++ event :: after → P before event

theorem throughout_nil : Throughout P [] := fun _ _ _ h => by simp at h

theorem throughout_concat : Throughout P (history ++ [event]) ↔ Throughout P history ∧ P history event := by
  constructor
  · intro h
    exact ⟨fun before other after heq => h before other (after ++ [event]) (by simp [heq]),
      h history event [] rfl⟩
  · rintro ⟨h, hevent⟩ before other after heq
    rcases List.eq_nil_or_concat after with rfl | ⟨rest, last, rfl⟩
    · obtain ⟨rfl, hlast⟩ := List.append_inj' heq rfl
      cases hlast
      exact hevent
    · rw [List.concat_eq_append, ← List.cons_append, ← List.append_assoc] at heq
      obtain ⟨rfl, -⟩ := List.append_inj' heq rfl
      exact h before other rest rfl

-- Some event of the history meets the start, and every later one is kept.
def Since (start kept : α → Prop) (history : List α) : Prop :=
  ∃ recent ∈ history.tails, begins recent
where
  begins : List α → Prop
    | [] => False
    | event :: later => start event ∧ ∀ other ∈ later, kept other

instance {start kept : α → Prop} [DecidablePred start] [DecidablePred kept] :
    DecidablePred (Since.begins start kept)
  | [] => .isFalse id
  | event :: later => inferInstanceAs (Decidable (start event ∧ ∀ other ∈ later, kept other))

instance {start kept : α → Prop} [DecidablePred start] [DecidablePred kept] :
    Decidable (Since start kept history) :=
  inferInstanceAs (Decidable (∃ recent ∈ history.tails, Since.begins start kept recent))

theorem not_since_nil {start kept : α → Prop} : ¬ Since start kept [] := by
  rintro ⟨recent, hm, hbegins⟩
  obtain rfl := List.mem_singleton.mp hm
  exact hbegins

theorem Since.start {start kept : α → Prop} (h : Since start kept history) :
    ∃ event ∈ history, start event := by
  obtain ⟨recent, hm, hbegins⟩ := h
  cases recent with
  | nil => exact hbegins.elim
  | cons event later =>
      exact ⟨event, ((List.mem_tails _ _).mp hm).subset (List.mem_cons_self ..), hbegins.1⟩

-- The last event meets the start, or it is kept since an earlier one.
theorem since_concat {start kept : α → Prop} : Since start kept (history ++ [event]) ↔
    start event ∨ Since start kept history ∧ kept event := by
  constructor
  · rintro ⟨recent, hm, hbegins⟩
    obtain ⟨before, heq⟩ := (List.mem_tails _ _).mp hm
    rcases List.eq_nil_or_concat recent with rfl | ⟨rest, last, rfl⟩
    · exact hbegins.elim
    rw [List.concat_eq_append] at heq hbegins
    rw [← List.append_assoc] at heq
    obtain ⟨rfl, hlast⟩ := List.append_inj' heq rfl
    cases hlast
    cases rest with
    | nil => exact .inl hbegins.1
    | cons head rest =>
        exact .inr ⟨⟨head :: rest, (List.mem_tails _ _).mpr ⟨before, rfl⟩, hbegins.1,
          fun other ho => hbegins.2 other (List.mem_append_left _ ho)⟩,
          hbegins.2 event (List.mem_append_right _ (List.mem_singleton_self _))⟩
  · rintro (hstart | ⟨⟨recent, hm, hbegins⟩, hkept⟩)
    · exact ⟨[event], (List.mem_tails _ _).mpr (List.suffix_append _ _), hstart,
        fun _ ho => absurd ho (List.not_mem_nil)⟩
    · obtain ⟨before, rfl⟩ := (List.mem_tails _ _).mp hm
      cases recent with
      | nil => exact hbegins.elim
      | cons head rest =>
          refine ⟨head :: rest ++ [event], (List.mem_tails _ _).mpr ⟨before, by simp⟩,
            hbegins.1, fun other ho => ?_⟩
          rcases List.mem_append.mp ho with ho | ho
          · exact hbegins.2 other ho
          · exact List.mem_singleton.mp ho ▸ hkept

end JoyMesh.Library
