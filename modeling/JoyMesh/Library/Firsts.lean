import Mathlib.Data.List.Basic
import Mathlib.Data.List.Induction

namespace JoyMesh.Library

variable {α β γ : Type*} [DecidableEq β] [DecidableEq γ] {f : α → β} {g : α → γ} {items : List α}
  {item : α}

-- Of the items with one key the first is kept.
def firstsBy (f : α → β) : List α → List α
  | [] => []
  | item :: items => item :: (firstsBy f items).filter (f · ≠ f item)

theorem firstsBy_subset : firstsBy f items ⊆ items := by
  induction items with
  | nil => exact List.Subset.refl _
  | cons head items ih =>
      exact List.cons_subset_cons _ fun _ hm => ih (List.mem_of_mem_filter hm)

-- Every key that occurs is the key of a first.
theorem exists_firstsBy {key : β} :
    (∃ item ∈ firstsBy f items, f item = key) ↔ ∃ item ∈ items, f item = key := by
  constructor
  · rintro ⟨item, hm, hkey⟩
    exact ⟨item, firstsBy_subset hm, hkey⟩
  · rintro ⟨item, hm, hkey⟩
    induction items with
    | nil => cases hm
    | cons head items ih =>
        by_cases hhead : f head = key
        · exact ⟨head, List.mem_cons_self, hhead⟩
        · have hrest : item ∈ items :=
            (List.mem_cons.mp hm).resolve_left fun hsame => hhead (hsame ▸ hkey)
          obtain ⟨found, hfound, hk⟩ := ih hrest
          have hne : f found ≠ f head := by
            rw [hk]
            exact Ne.symm hhead
          exact ⟨found, List.mem_cons_of_mem _ (List.mem_filter.mpr ⟨hfound, by simpa using hne⟩), hk⟩

theorem firstsBy_concat : firstsBy f (items ++ [item]) =
    firstsBy f items ++ if ∃ other ∈ items, f other = f item then [] else [item] := by
  induction items with
  | nil => simp [firstsBy]
  | cons head items ih =>
      rw [List.cons_append, firstsBy, ih, firstsBy, List.filter_append, List.cons_append]
      congr 2
      by_cases hrest : ∃ other ∈ items, f other = f item
      · obtain ⟨other, hm, hkey⟩ := hrest
        have hhere : ∃ other ∈ head :: items, f other = f item :=
          ⟨other, List.mem_cons_of_mem _ hm, hkey⟩
        rw [if_pos ⟨other, hm, hkey⟩, if_pos hhere, List.filter_nil]
      · rw [if_neg hrest]
        by_cases hhead : f head = f item
        · have hhere : ∃ other ∈ head :: items, f other = f item :=
            ⟨head, List.mem_cons_self, hhead⟩
          rw [if_pos hhere, List.filter_singleton]
          simp [hhead]
        · have hnone : ¬∃ other ∈ head :: items, f other = f item := by
            rintro ⟨other, hm, hkey⟩
            rcases List.mem_cons.mp hm with rfl | hm
            · exact hhead hkey
            · exact hrest ⟨other, hm, hkey⟩
          rw [if_neg hnone, List.filter_singleton]
          simp [Ne.symm hhead]

-- Whole keys can be left out before or after.
theorem firstsBy_filter_key (wanted : β → Bool) :
    firstsBy f (items.filter fun item => wanted (f item)) =
      (firstsBy f items).filter fun item => wanted (f item) := by
  induction items using List.reverseRecOn with
  | nil => rfl
  | append_singleton items item ih =>
      rw [List.filter_append, firstsBy_concat, List.filter_append, ← ih, List.filter_singleton]
      cases hwanted : wanted (f item) with
      | false =>
          have hnone : List.filter (fun item => wanted (f item))
              (if ∃ other ∈ items, f other = f item then [] else [item]) = [] := by
            split <;> simp [hwanted]
          simp [hnone]
      | true =>
          have hsame : (∃ other ∈ items.filter fun item => wanted (f item), f other = f item) ↔
              ∃ other ∈ items, f other = f item := by
            constructor
            · rintro ⟨other, hm, hkey⟩
              exact ⟨other, List.mem_of_mem_filter hm, hkey⟩
            · rintro ⟨other, hm, hkey⟩
              exact ⟨other, List.mem_filter.mpr ⟨hm, by rw [hkey, hwanted]⟩, hkey⟩
          rw [cond_true, firstsBy_concat]
          congr 1
          by_cases hknown : ∃ other ∈ items, f other = f item
          · rw [if_pos (hsame.mpr hknown), if_pos hknown, List.filter_nil]
          · rw [if_neg (mt hsame.mp hknown), if_neg hknown, List.filter_singleton, hwanted]
            rfl

-- Leaving out items changes nothing while every first stays.
theorem firstsBy_filter (keep : α → Bool) (hkept : ∀ item ∈ firstsBy f items, keep item = true) :
    firstsBy f (items.filter keep) = firstsBy f items := by
  induction items using List.reverseRecOn with
  | nil => rfl
  | append_singleton items item ih =>
      rw [firstsBy_concat] at hkept ⊢
      have hbefore : firstsBy f (items.filter keep) = firstsBy f items :=
        ih fun first hm => hkept first (List.mem_append_left _ hm)
      have hsame : (∃ other ∈ items.filter keep, f other = f item) ↔
          ∃ other ∈ items, f other = f item := by
        rw [← exists_firstsBy, hbefore, exists_firstsBy]
      rw [List.filter_append, List.filter_singleton]
      by_cases hknown : ∃ other ∈ items, f other = f item
      · rw [if_pos hknown, List.append_nil, ← hbefore]
        cases keep item with
        | false => simp
        | true =>
            rw [cond_true, firstsBy_concat, if_pos (hsame.mpr hknown), List.append_nil]
      · rw [if_neg hknown] at hkept ⊢
        have hkeep : keep item = true :=
          hkept item (List.mem_append_right _ List.mem_cons_self)
        rw [hkeep, cond_true, firstsBy_concat, hbefore, if_neg (mt hsame.mp hknown)]

theorem firstsBy_congr
    (h : ∀ first ∈ items, ∀ second ∈ items, f first = f second ↔ g first = g second) :
    firstsBy f items = firstsBy g items := by
  induction items with
  | nil => rfl
  | cons head items ih =>
      have hrest : firstsBy f items = firstsBy g items := ih fun first hf second hs =>
        h first (List.mem_cons_of_mem _ hf) second (List.mem_cons_of_mem _ hs)
      rw [firstsBy, firstsBy, hrest]
      congr 1
      refine List.filter_congr fun other hm => ?_
      have hkey := h other (List.mem_cons_of_mem _ (firstsBy_subset hm)) head List.mem_cons_self
      simp [hkey]

end JoyMesh.Library
