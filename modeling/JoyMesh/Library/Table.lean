import Mathlib.Data.List.AList
import Mathlib.Data.List.Nodup

namespace JoyMesh.Library

-- A finite table with one row per key. The rows are stored in some order; a
-- query promises its rows but not that order.
abbrev Table (κ ν : Type*) := AList fun _ : κ => ν

namespace Table

variable {κ ν : Type*} [DecidableEq κ] {table : Table κ ν} {row : ν}

def values (table : Table κ ν) : List ν :=
  table.entries.map Sigma.snd

def select (p : ν → Bool) (table : Table κ ν) : List ν :=
  table.values.filter p

def mapValues (f : ν → ν) (table : Table κ ν) : Table κ ν where
  entries := table.entries.map fun entry => ⟨entry.1, f entry.2⟩
  nodupKeys := by
    have hkeys : (table.entries.map fun entry => (⟨entry.1, f entry.2⟩ : Σ _ : κ, ν)).keys =
        table.entries.keys := by simp [List.keys, Function.comp_def]
    rw [List.NodupKeys, hkeys]
    exact table.keys_nodup

theorem mem_values : row ∈ table.values ↔ ∃ key, table.lookup key = some row := by
  constructor
  · intro h
    obtain ⟨⟨key, value⟩, hm, rfl⟩ := List.mem_map.mp h
    exact ⟨key, AList.mem_lookup_iff.mpr hm⟩
  · rintro ⟨key, h⟩
    exact List.mem_map.mpr ⟨⟨key, row⟩, AList.mem_lookup_iff.mp h, rfl⟩

theorem mem_select {p : ν → Bool} :
    row ∈ table.select p ↔ (∃ key, table.lookup key = some row) ∧ p row = true := by
  rw [select, List.mem_filter, mem_values]

theorem forall_lookup {p : κ → ν → Prop} :
    (∀ key row, table.lookup key = some row → p key row) ↔
      ∀ entry ∈ table.entries, p entry.1 entry.2 := by
  constructor
  · rintro h ⟨key, row⟩ hm
    exact h key row (AList.mem_lookup_iff.mpr hm)
  · intro h key row hl
    exact h ⟨key, row⟩ (AList.mem_lookup_iff.mp hl)

instance {table : Table κ ν} {p : κ → ν → Prop} [∀ key row, Decidable (p key row)] :
    Decidable (∀ key row, table.lookup key = some row → p key row) :=
  decidable_of_iff _ forall_lookup.symm

theorem lookup_insert_cases {key other : κ} {found : ν}
    (h : (table.insert key row).lookup other = some found) :
    other = key ∧ found = row ∨ other ≠ key ∧ table.lookup other = some found := by
  by_cases hother : other = key
  · subst hother
    rw [AList.lookup_insert, Option.some.injEq] at h
    exact .inl ⟨rfl, h.symm⟩
  · rw [AList.lookup_insert_ne hother] at h
    exact .inr ⟨hother, h⟩

-- Rows that name their own key occur once in a listing.
theorem values_nodup (key : ν → κ) (h : ∀ k row, table.lookup k = some row → key row = k) :
    table.values.Nodup := by
  apply List.Nodup.of_map key
  have hkeys : table.values.map key = table.keys := by
    rw [values, List.map_map, AList.keys, List.keys]
    apply List.map_congr_left
    rintro ⟨k, row⟩ hm
    exact h k row (AList.mem_lookup_iff.mpr hm)
  rw [hkeys]
  exact table.keys_nodup

theorem select_nodup (key : ν → κ) (h : ∀ k row, table.lookup k = some row → key row = k)
    (p : ν → Bool) : (table.select p).Nodup :=
  (values_nodup key h).filter p

@[simp] theorem lookup_mapValues (f : ν → ν) (table : Table κ ν) (key : κ) :
    (table.mapValues f).lookup key = (table.lookup key).map f := by
  cases h : table.lookup key with
  | some row =>
      have hm := AList.mem_lookup_iff.mp h
      exact AList.mem_lookup_iff.mpr (List.mem_map.mpr ⟨⟨key, row⟩, hm, rfl⟩)
  | none =>
      have hn := AList.lookup_eq_none.mp h
      refine AList.lookup_eq_none.mpr fun hm => hn ?_
      rw [AList.mem_keys] at hm ⊢
      simpa [AList.keys, mapValues, List.keys, Function.comp_def] using hm

-- The rows that the predicate keeps.
def keep (p : ν → Bool) (table : Table κ ν) : Table κ ν where
  entries := table.entries.filter fun entry => p entry.2
  nodupKeys := table.nodupKeys.sublist List.filter_sublist

theorem lookup_keep (p : ν → Bool) (table : Table κ ν) (key : κ) :
    (table.keep p).lookup key = (table.lookup key).filter p := by
  have hiff : ∀ row, (table.keep p).lookup key = some row ↔
      (table.lookup key).filter p = some row := by
    intro row
    have hkeep : (table.keep p).lookup key = some row ↔
        (⟨key, row⟩ : Σ _ : κ, ν) ∈ table.entries ∧ p row = true :=
      AList.mem_lookup_iff.trans List.mem_filter
    rw [hkeep, Option.filter_eq_some_iff, ← AList.mem_lookup_iff]
    rfl
  exact Option.ext hiff

theorem select_eq_nil_iff {p : ν → Bool} :
    table.select p = [] ↔ ∀ key row, table.lookup key = some row → p row = false := by
  rw [List.eq_nil_iff_forall_not_mem]
  constructor
  · intro h key row hl
    by_contra hp
    exact h row (mem_select.mpr ⟨⟨key, hl⟩, by simpa using hp⟩)
  · intro h row hm
    obtain ⟨⟨key, hl⟩, hp⟩ := mem_select.mp hm
    simp [h key row hl] at hp

end Table

-- Rows in a list, each with a key that no other has.
variable {κ ρ : Type*} [DecidableEq κ] {key : ρ → κ} {rows : List ρ} {update : ρ → ρ}

def updateKey (key : ρ → κ) (wanted : κ) (update : ρ → ρ) (rows : List ρ) : List ρ :=
  rows.map fun row => if key row = wanted then update row else row

theorem keys_updateKey {wanted : κ} (hkey : ∀ row, key (update row) = key row) :
    (updateKey key wanted update rows).map key = rows.map key := by
  rw [updateKey, List.map_map]
  refine List.map_congr_left fun row _ => ?_
  simp only [Function.comp_apply]
  split
  · exact hkey row
  · rfl

end JoyMesh.Library
