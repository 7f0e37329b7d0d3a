import Mathlib.Data.List.Sort
import Mathlib.Order.WithBot

namespace JoyMesh.Library

variable {α β τ : Type*} [LinearOrder τ]

abbrev NotOlder (time : α → τ) (first second : α) : Prop := time second ≤ time first

-- Rows in descending order of time. Rows of one time keep the order in which
-- they were stored.
def newestFirst (time : α → τ) (rows : List α) : List α :=
  rows.insertionSort (NotOlder time)

def newest (time : α → τ) (rows : List α) : Option α :=
  (newestFirst time rows).head?

variable {time : α → τ} {rows : List α} {row : α} {p : α → Bool}

@[simp] theorem mem_newestFirst : row ∈ newestFirst time rows ↔ row ∈ rows :=
  List.mem_insertionSort _

theorem newestFirst_sorted : (newestFirst time rows).Pairwise (NotOlder time) := by
  have : Std.Total (NotOlder time) := ⟨fun _ _ => le_total _ _⟩
  have : IsTrans α (NotOlder time) := ⟨fun _ _ _ h₁ h₂ => h₂.trans h₁⟩
  exact List.pairwise_insertionSort _ rows

theorem newest_mem (h : newest time rows = some row) : row ∈ rows :=
  mem_newestFirst.mp (List.mem_of_mem_head? h)

-- No stored row is later than the newest one.
theorem newest_le (h : newest time rows = some row) {other : α} (ho : other ∈ rows) :
    time other ≤ time row := by
  obtain ⟨rest, hrest⟩ := List.head?_eq_some_iff.mp h
  have hsorted : (newestFirst time rows).Pairwise (NotOlder time) := newestFirst_sorted
  have hm : other ∈ newestFirst time rows := mem_newestFirst.mpr ho
  rw [hrest] at hsorted hm
  rcases List.mem_cons.mp hm with rfl | hr
  · exact le_rfl
  · exact List.rel_of_pairwise_cons hsorted hr

theorem newest_eq_none_iff : newest time rows = none ↔ rows = [] := by
  rw [newest, List.head?_eq_none_iff, newestFirst, ← List.length_eq_zero_iff,
    List.length_insertionSort, List.length_eq_zero_iff]

-- A row that the selection drops may stand anywhere in the sorted rows.
theorem filter_orderedInsert (hsorted : rows.Pairwise (NotOlder time)) :
    (rows.orderedInsert (NotOlder time) row).filter p =
      if p row then (rows.filter p).orderedInsert (NotOlder time) row else rows.filter p := by
  induction rows with
  | nil => by_cases hp : p row <;> simp [hp]
  | cons head rest ih =>
      obtain ⟨hhead, hrest⟩ := List.pairwise_cons.mp hsorted
      by_cases hle : time head ≤ time row
      · -- every row behind the head is as old, so the selected ones are too
        have hall : ∀ kept ∈ (head :: rest).filter p, time kept ≤ time row := by
          intro kept hk
          rcases List.mem_cons.mp (List.mem_of_mem_filter hk) with rfl | hr
          · exact hle
          · exact (hhead kept hr).trans hle
        rw [List.orderedInsert_cons_of_le (NotOlder time) _ hle, List.filter_cons]
        by_cases hp : p row
        · rw [if_pos hp, if_pos hp]
          cases hf : (head :: rest).filter p with
          | nil => rfl
          | cons kept tail =>
              have hk : NotOlder time row kept := hall kept (hf ▸ List.mem_cons_self)
              rw [List.orderedInsert_cons_of_le (NotOlder time) _ hk]
        · rw [if_neg hp, if_neg hp]
      · rw [List.orderedInsert_of_not_le (NotOlder time) _ hle, List.filter_cons, ih hrest, List.filter_cons]
        by_cases hp : p row <;> by_cases hh : p head <;>
          simp [hp, hh, List.orderedInsert_of_not_le (NotOlder time) _ hle]

theorem newestFirst_filter :
    (newestFirst time rows).filter p = newestFirst time (rows.filter p) := by
  induction rows with
  | nil => rfl
  | cons row rows ih =>
      have hstep : newestFirst time (row :: rows) =
          (newestFirst time rows).orderedInsert (NotOlder time) row := rfl
      rw [hstep, filter_orderedInsert newestFirst_sorted, ih, List.filter_cons]
      by_cases hp : p row <;> simp [hp, newestFirst]

-- The first row of a kind in a sorted listing is the newest row of that kind.
theorem find?_newestFirst : (newestFirst time rows).find? p = newest time (rows.filter p) := by
  rw [newest, ← newestFirst_filter, List.head?_filter]

theorem newest_map {time : β → τ} (f : α → β) :
    newest time (rows.map f) = (newest (fun row => time (f row)) rows).map f := by
  rw [newest, newest, newestFirst, newestFirst,
    ← List.map_insertionSort (NotOlder fun row => time (f row)) (NotOlder time) f rows
      (fun _ _ _ _ => Iff.rfl), List.head?_map]

end JoyMesh.Library
