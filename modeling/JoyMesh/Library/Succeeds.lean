import Mathlib.Tactic.Common

namespace JoyMesh.Library

variable {ε α β : Type} {result : Except ε α}

def Succeeds (result : Except ε α) : Prop := ∃ value, result = .ok value

@[simp] theorem succeeds_ok (value : α) : Succeeds (.ok value : Except ε α) := ⟨value, rfl⟩

@[simp] theorem succeeds_pure (value : α) : Succeeds (pure value : Except ε α) := ⟨value, rfl⟩

@[simp] theorem not_succeeds_error (error : ε) :
    ¬Succeeds (.error error : Except ε α) := by
  rintro ⟨value, h⟩
  cases h

theorem succeeds_bind {next : α → Except ε β} :
    Succeeds (result >>= next) ↔ ∃ value, result = .ok value ∧ Succeeds (next value) := by
  cases result with
  | error error => simp [Succeeds, bind, Except.bind]
  | ok value => simp [Succeeds, bind, Except.bind]

theorem succeeds_bind_pure {f : α → β} :
    Succeeds (result >>= fun value => pure (f value)) ↔ Succeeds result := by
  simp only [succeeds_bind, succeeds_pure, and_true]
  rfl

theorem succeeds_ite {p : Prop} [Decidable p] {first second : Except ε α} :
    Succeeds (if p then first else second) ↔ (p → Succeeds first) ∧ (¬p → Succeeds second) := by
  split <;> simp_all

@[simp] theorem succeeds_map {f : α → β} : Succeeds (result.map f) ↔ Succeeds result := by
  cases result with
  | error error => simp [Except.map]
  | ok value => simp [Except.map]

theorem succeeds_mapM {f : α → Except ε β} {items : List α} :
    Succeeds (items.mapM f) ↔ ∀ item ∈ items, Succeeds (f item) := by
  induction items with
  | nil => simp
  | cons item items ih =>
      rw [List.mapM_cons, succeeds_bind, List.forall_mem_cons, ← ih]
      constructor
      · rintro ⟨value, hvalue, h⟩
        obtain ⟨values, hvalues, -⟩ := succeeds_bind.mp h
        exact ⟨⟨value, hvalue⟩, values, hvalues⟩
      · rintro ⟨⟨value, hvalue⟩, values, hvalues⟩
        exact ⟨value, hvalue, succeeds_bind.mpr ⟨values, hvalues, succeeds_pure _⟩⟩

end JoyMesh.Library
