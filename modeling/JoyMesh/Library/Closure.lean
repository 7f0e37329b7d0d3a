import Mathlib

namespace JoyMesh.Library

variable {α ε : Type*} [DecidableEq α]

-- The top of the stack is visited unless it was before, and those of its
-- successors that were not seen yet are pushed one after the other.
def explore (visit : α → Except ε (List α)) : Nat → List α → List α → Option (Except ε (List α))
  | 0, _, _ => none
  | _ + 1, seen, [] => some (.ok seen)
  | fuel + 1, seen, current :: rest =>
      if current ∈ seen then explore visit fuel seen rest
      else
        match visit current with
        | .error error => some (.error error)
        | .ok next =>
            explore visit fuel (current :: seen)
              ((next.filter fun other => other ∉ current :: seen).reverse ++ rest)

def Leads (visit : α → Except ε (List α)) (first second : α) : Prop :=
  ∃ next, visit first = .ok next ∧ second ∈ next

section Explore

variable {visit : α → Except ε (List α)} {fuel : Nat} {seen stack result : List α} {item : α}

-- Nothing is seen that the stack does not lead to.
theorem explore_sound (h : explore visit fuel seen stack = some (.ok result))
    (hm : item ∈ result) :
    item ∈ seen ∨ ∃ first ∈ stack, Relation.ReflTransGen (Leads visit) first item := by
  fun_induction explore visit fuel seen stack with
  | case1 => cases h
  | case2 fuel seen =>
      obtain rfl : seen = result := by simpa using h
      exact .inl hm
  | case3 fuel seen current rest hseen ih =>
      rcases ih h with hs | ⟨first, hf, hreach⟩
      · exact .inl hs
      · exact .inr ⟨first, List.mem_cons_of_mem _ hf, hreach⟩
  | case4 => cases h
  | case5 fuel seen current rest hseen next hvisit ih =>
      rcases ih h with hs | ⟨first, hf, hreach⟩
      · rcases List.mem_cons.mp hs with rfl | hs
        · exact .inr ⟨item, List.mem_cons_self, .refl⟩
        · exact .inl hs
      · rcases List.mem_append.mp hf with hn | hr
        · have hnext : first ∈ next := (List.mem_filter.mp (List.mem_reverse.mp hn)).1
          exact .inr ⟨current, List.mem_cons_self, .head ⟨next, hvisit, hnext⟩ hreach⟩
        · exact .inr ⟨first, List.mem_cons_of_mem _ hr, hreach⟩

-- What was seen or stood on the stack is in the result, and the successors of
-- every seen item are seen or still on the stack.
theorem explore_complete (h : explore visit fuel seen stack = some (.ok result))
    (hclosed : ∀ first ∈ seen, ∀ second, Leads visit first second →
      second ∈ seen ∨ second ∈ stack) :
    (∀ first, first ∈ seen ∨ first ∈ stack → first ∈ result) ∧
      ∀ first ∈ result, ∀ second, Leads visit first second → second ∈ result := by
  fun_induction explore visit fuel seen stack with
  | case1 => cases h
  | case2 fuel seen =>
      obtain rfl : seen = result := by simpa using h
      simp only [List.not_mem_nil, or_false] at hclosed ⊢
      exact ⟨fun _ hf => hf, hclosed⟩
  | case3 fuel seen current rest hseen ih =>
      have hsame : ∀ first, first ∈ seen ∨ first ∈ current :: rest → first ∈ seen ∨ first ∈ rest := by
        intro first hf
        rcases hf with hs | hs
        · exact .inl hs
        · rcases List.mem_cons.mp hs with rfl | hr
          · exact .inl hseen
          · exact .inr hr
      obtain ⟨hin, hall⟩ := ih h fun first hf second hl => hsame second (hclosed first hf second hl)
      exact ⟨fun first hf => hin first (hsame first hf), hall⟩
  | case4 => cases h
  | case5 fuel seen current rest hseen next hvisit ih =>
      have hpushed : ∀ second, second ∈ next → second ∈ current :: seen ∨
          second ∈ (next.filter fun other => other ∉ current :: seen).reverse ++ rest := by
        intro second hn
        by_cases hs : second ∈ current :: seen
        · exact .inl hs
        · exact .inr (List.mem_append_left _
            (List.mem_reverse.mpr (List.mem_filter.mpr ⟨hn, by simpa using hs⟩)))
      have hkept : ∀ first, first ∈ seen ∨ first ∈ current :: rest → first ∈ current :: seen ∨
          first ∈ (next.filter fun other => other ∉ current :: seen).reverse ++ rest := by
        intro first hf
        rcases hf with hs | hs
        · exact .inl (List.mem_cons_of_mem _ hs)
        · rcases List.mem_cons.mp hs with rfl | hr
          · exact .inl List.mem_cons_self
          · exact .inr (List.mem_append_right _ hr)
      obtain ⟨hin, hall⟩ := ih h fun first hf second hl => by
        rcases List.mem_cons.mp hf with rfl | hs
        · obtain ⟨successors, hv, hm⟩ := hl
          obtain rfl : next = successors := Except.ok.inj (hvisit.symm.trans hv)
          exact hpushed second hm
        · exact hkept second (hclosed first hs second hl)
      exact ⟨fun first hf => hin first (hkept first hf), hall⟩

theorem explore_visited (h : explore visit fuel seen stack = some (.ok result))
    (hm : item ∈ result) : item ∈ seen ∨ ∃ next, visit item = .ok next := by
  fun_induction explore visit fuel seen stack with
  | case1 => cases h
  | case2 fuel seen =>
      obtain rfl : seen = result := by simpa using h
      exact .inl hm
  | case3 fuel seen current rest hseen ih => exact ih h
  | case4 => cases h
  | case5 fuel seen current rest hseen next hvisit ih =>
      rcases ih h with hs | hs
      · rcases List.mem_cons.mp hs with rfl | hs
        · exact .inr ⟨next, hvisit⟩
        · exact .inl hs
      · exact .inr hs

-- A finished exploration has seen exactly what the stack leads to.
theorem explore_mem_iff (h : explore visit fuel [] stack = some (.ok result)) :
    item ∈ result ↔ ∃ first ∈ stack, Relation.ReflTransGen (Leads visit) first item := by
  constructor
  · intro hm
    rcases explore_sound h hm with hs | hreach
    · cases hs
    · exact hreach
  · rintro ⟨first, hf, hreach⟩
    obtain ⟨hin, hall⟩ := explore_complete h (by simp)
    induction hreach with
    | refl => exact hin first (.inr hf)
    | tail _ hl ih => exact hall _ ih _ hl

-- An error is raised by an item that the stack leads to.
theorem explore_error {error : ε} (h : explore visit fuel seen stack = some (.error error)) :
    ∃ item, visit item = .error error ∧
      ∃ first ∈ stack, Relation.ReflTransGen (Leads visit) first item := by
  fun_induction explore visit fuel seen stack with
  | case1 => cases h
  | case2 => simp at h
  | case3 fuel seen current rest hseen ih =>
      obtain ⟨item, hvisit, first, hf, hreach⟩ := ih h
      exact ⟨item, hvisit, first, List.mem_cons_of_mem _ hf, hreach⟩
  | case4 fuel seen current rest hseen raised hvisit =>
      obtain rfl : raised = error := by simpa using h
      exact ⟨current, hvisit, current, List.mem_cons_self, .refl⟩
  | case5 fuel seen current rest hseen next hvisit ih =>
      obtain ⟨item, hraised, first, hf, hreach⟩ := ih h
      refine ⟨item, hraised, ?_⟩
      rcases List.mem_append.mp hf with hn | hr
      · have hnext : first ∈ next := (List.mem_filter.mp (List.mem_reverse.mp hn)).1
        exact ⟨current, List.mem_cons_self, .head ⟨next, hvisit, hnext⟩ hreach⟩
      · exact ⟨first, List.mem_cons_of_mem _ hr, hreach⟩

end Explore

section Fuel

variable {visit : α → Except ε (List α)} {known : List α} {weight : α → Nat}

-- How much can still be pushed: what the known items that were not seen weigh.
def pending (known : List α) (weight : α → Nat) (seen : List α) : Nat :=
  (known.map fun item => if item ∈ seen then 0 else weight item).sum

theorem pending_cons_le {seen : List α} {item : α} :
    pending known weight (item :: seen) ≤ pending known weight seen := by
  refine List.sum_le_sum fun other _ => ?_
  by_cases hs : other ∈ seen
  · simp [hs]
  · simp only [hs, if_false]
    split
    · exact Nat.zero_le _
    · exact le_rfl

theorem pending_cons {seen : List α} {item : α} (hk : item ∈ known) (hs : item ∉ seen) :
    pending known weight (item :: seen) + weight item ≤ pending known weight seen := by
  induction known with
  | nil => cases hk
  | cons head known ih =>
      have hrest : pending known weight (item :: seen) ≤ pending known weight seen :=
        pending_cons_le
      simp only [pending, List.map_cons, List.sum_cons] at ih hrest ⊢
      by_cases hhead : head = item
      · subst hhead
        simp only [List.mem_cons_self, if_true, hs, if_false]
        omega
      · have hk : item ∈ known := (List.mem_cons.mp hk).resolve_left fun h => hhead h.symm
        have hle := ih hk
        simp only [List.mem_cons, hhead, false_or] at hle ⊢
        omega

-- The fuel is enough when it exceeds the stack and everything still to be pushed.
theorem explore_isSome (hvisit : ∀ item next, visit item = .ok next →
      item ∈ known ∧ next.length ≤ weight item) {fuel : Nat} {seen stack : List α}
    (hfuel : stack.length + pending known weight seen < fuel) :
    (explore visit fuel seen stack).isSome := by
  fun_induction explore visit fuel seen stack with
  | case1 => omega
  | case2 => rfl
  | case3 fuel seen current rest hseen ih =>
      rw [List.length_cons] at hfuel
      exact ih (by omega)
  | case4 => rfl
  | case5 fuel seen current rest hseen next hok ih =>
      obtain ⟨hknown, hlength⟩ := hvisit current next hok
      have hpushed : (next.filter fun other => other ∉ current :: seen).length ≤ next.length :=
        List.length_filter_le _ _
      have hpending : pending known weight (current :: seen) + weight current ≤
          pending known weight seen := pending_cons hknown hseen
      rw [List.length_cons] at hfuel
      refine ih ?_
      rw [List.length_append, List.length_reverse]
      omega

end Fuel

end JoyMesh.Library
