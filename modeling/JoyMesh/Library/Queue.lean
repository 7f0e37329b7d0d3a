import Mathlib.Data.List.Sort

namespace JoyMesh.Library

variable {α : Type*} {rank : α → Nat} {queue : List α} {x : α} {n : Nat}

-- The first n of a queue are those that fewer than n others come before.
theorem mem_take_iff_ahead (h : queue.Pairwise fun a b => rank a < rank b) (hx : x ∈ queue) :
    x ∈ queue.take n ↔ (queue.filter fun a => rank a < rank x).length < n := by
  induction queue generalizing n with
  | nil => cases hx
  | cons a queue ih =>
      obtain ⟨hfirst, hrest⟩ := List.pairwise_cons.mp h
      cases n with
      | zero => simp
      | succ n =>
          rw [List.take_succ_cons, List.mem_cons]
          rcases List.mem_cons.mp hx with rfl | hx
          · have hnone : (queue.filter fun a => rank a < rank x) = [] := by
              rw [List.filter_eq_nil_iff]
              intro b hb
              simpa using (hfirst b hb).le
            simp [hnone]
          · have hlt := hfirst x hx
            have hne : x ≠ a := fun he => Nat.lt_irrefl _ (he ▸ hlt)
            simp [hne, ih hrest hx, hlt]

-- Sorting by a rank that no two share leaves strictly growing ranks.
theorem pairwise_insertionSort_lt (h : (queue.map rank).Nodup) :
    (queue.insertionSort fun a b => rank a ≤ rank b).Pairwise fun a b => rank a < rank b := by
  have : Std.Total (α := α) fun a b => rank a ≤ rank b := ⟨fun a b => Nat.le_total _ _⟩
  have : IsTrans α fun a b => rank a ≤ rank b := ⟨fun a b c => Nat.le_trans⟩
  have hsorted := List.pairwise_insertionSort (fun a b => rank a ≤ rank b) queue
  have hnodup : ((queue.insertionSort fun a b => rank a ≤ rank b).map rank).Nodup :=
    ((List.perm_insertionSort _ queue).map rank).nodup_iff.mpr h
  exact (hsorted.and (List.pairwise_map.mp hnodup)).imp fun h => Nat.lt_of_le_of_ne h.1 h.2

end JoyMesh.Library
