import Mathlib.Data.List.Sort
import Mathlib.Order.Basic

namespace JoyMesh.Library

variable {α κ : Type*} [LinearOrder κ]

-- The items by their keys, those of one key in their order.
def ranked (key : α → κ) (items : List α) : List α :=
  items.insertionSort fun a b => key a ≤ key b

-- The first of the ranked items that passes.
def leading (key : α → κ) (passes : α → Bool) (items : List α) : Option α :=
  (ranked key items).find? passes

variable {key : α → κ} {passes : α → Bool} {items : List α} {x : α}

theorem ranked_perm : (ranked key items).Perm items := List.perm_insertionSort _ items

theorem mem_ranked : x ∈ ranked key items ↔ x ∈ items := ranked_perm.mem_iff

theorem ranked_sorted : (ranked key items).Pairwise fun a b => key a ≤ key b := by
  have htotal : Std.Total fun a b : α => key a ≤ key b := ⟨fun a b => le_total (key a) (key b)⟩
  have htrans : IsTrans α fun a b => key a ≤ key b := ⟨fun _ _ _ => le_trans⟩
  exact List.pairwise_insertionSort _ items

-- Items whose keys tell them apart are ranked alike from any order.
theorem ranked_eq_of_perm {others : List α} (hperm : others.Perm items)
    (hkey : ∀ a ∈ items, ∀ b ∈ items, key a = key b → a = b) :
    ranked key others = ranked key items := by
  have hranked : (ranked key others).Perm (ranked key items) :=
    ranked_perm.trans (hperm.trans ranked_perm.symm)
  refine hranked.eq_of_pairwise ?_ ranked_sorted ranked_sorted
  intro a b ha hb hab hba
  exact hkey a (hperm.mem_iff.mp (mem_ranked.mp ha)) b (mem_ranked.mp hb) (le_antisymm hab hba)

-- Wherever the two stand in the list, the first stands before the second.
def Precedes (items : List α) (x y : α) : Prop :=
  ∀ i j : Nat, items[i]? = some x → items[j]? = some y → i < j

theorem ranked_precedes_iff {y : α} (hx : x ∈ items) (hy : y ∈ items) (hne : key x ≠ key y) :
    Precedes (ranked key items) x y ↔ key x < key y := by
  have hle : ∀ i j (hi : i < (ranked key items).length) (hj : j < (ranked key items).length),
      i < j → key (ranked key items)[i] ≤ key (ranked key items)[j] :=
    List.pairwise_iff_getElem.mp ranked_sorted
  constructor
  · intro hprecedes
    obtain ⟨i, hi, rfl⟩ := List.mem_iff_getElem.mp (@mem_ranked _ _ _ key _ _ |>.mpr hx)
    obtain ⟨j, hj, rfl⟩ := List.mem_iff_getElem.mp (@mem_ranked _ _ _ key _ _ |>.mpr hy)
    have hlt := hprecedes i j (List.getElem?_eq_getElem hi) (List.getElem?_eq_getElem hj)
    exact lt_of_le_of_ne (hle i j hi hj hlt) hne
  · intro hlt i j hi hj
    obtain ⟨hi', rfl⟩ := List.getElem?_eq_some_iff.mp hi
    obtain ⟨hj', rfl⟩ := List.getElem?_eq_some_iff.mp hj
    by_contra hge
    rcases Nat.lt_or_eq_of_le (not_lt.mp hge) with hback | hsame
    · exact absurd hlt (not_lt.mpr (hle j i hj' hi' hback))
    · subst hsame
      exact lt_irrefl _ hlt

theorem leading_mem (h : leading key passes items = some x) : passes x = true ∧ x ∈ items :=
  ⟨List.find?_some h, mem_ranked.mp (List.mem_of_find?_eq_some h)⟩

-- Nothing that passes is ranked before the leading item.
theorem leading_le (h : leading key passes items = some x) {y : α} (hy : y ∈ items)
    (hpasses : passes y = true) : key x ≤ key y := by
  obtain ⟨-, before, after, hranked, hbefore⟩ := List.find?_eq_some_iff_append.mp h
  have hmem : y ∈ before ++ x :: after := hranked ▸ mem_ranked.mpr hy
  have hsorted : (before ++ x :: after).Pairwise fun a b => key a ≤ key b := hranked ▸ ranked_sorted
  rcases List.mem_append.mp hmem with hmem | hmem
  · have hfails := hbefore y hmem
    simp [hpasses] at hfails
  · rcases List.mem_cons.mp hmem with rfl | hmem
    · exact le_rfl
    · exact List.rel_of_pairwise_cons (List.pairwise_append.mp hsorted).2.1 hmem

theorem exists_leading (hx : x ∈ items) (hpasses : passes x = true) :
    ∃ y, leading key passes items = some y := by
  cases hleading : leading key passes items with
  | some y => exact ⟨y, rfl⟩
  | none => exact absurd hpasses (List.find?_eq_none.mp hleading x (mem_ranked.mpr hx))

-- Whether the leading item is a good one, told from the pairs of items: each bad one that
-- passes has a good one before it.
theorem leading_good_iff {Good : α → Prop}
    (hkey : ∀ a ∈ items, ∀ b ∈ items, key a = key b → Good a → Good b) :
    (∀ x, leading key passes items = some x → Good x) ↔
      ∀ x ∈ items, passes x = true → ¬Good x →
        ∃ y ∈ items, passes y = true ∧ key y < key x ∧ Good y := by
  constructor
  · intro hgood x hx hpasses hbad
    obtain ⟨y, hy⟩ := @exists_leading _ _ _ key _ _ _ hx hpasses
    obtain ⟨hypasses, hmem⟩ := leading_mem hy
    refine ⟨y, hmem, hypasses, lt_of_le_of_ne (leading_le hy hx hpasses) ?_, hgood y hy⟩
    exact fun hsame => hbad (hkey y hmem x hx hsame (hgood y hy))
  · intro hbefore x hx
    obtain ⟨hpasses, hmem⟩ := leading_mem hx
    by_contra hbad
    obtain ⟨y, hy, hypasses, hlt, -⟩ := hbefore x hmem hpasses hbad
    exact absurd (leading_le hx hy hypasses) (not_le.mpr hlt)

end JoyMesh.Library
