import Mathlib.Data.List.Induction
import Mathlib.Data.List.Sort
import JoyMesh.Library.Table

namespace JoyMesh.Library

-- The files of a file system by their paths. A directory is known by the files below it, so
-- one that holds no file is not part of the contents.
abbrev FileTree (Name Data : Type*) := Table (List Name) Data

section Assignments

variable {κ ν : Type*} [DecidableEq κ] {entries first second : List (κ × ν)} {key other : κ} {value : ν}

-- Of the values assigned to a key the last one is what it has.
def lastAt (entries : List (κ × ν)) (key : κ) : Option ν :=
  (entries.reverse.find? fun entry => entry.1 = key).map Prod.snd

theorem lastAt_append : lastAt (first ++ second) key = (lastAt second key <|> lastAt first key) := by
  rw [lastAt, List.reverse_append, List.find?_append]
  cases h : second.reverse.find? fun entry => entry.1 = key <;> simp [lastAt, h]

theorem lastAt_concat : lastAt (entries ++ [(key, value)]) other =
    if key = other then some value else lastAt entries other := by
  by_cases h : key = other <;> simp [lastAt, h]

theorem lastAt_isSome : (lastAt entries key).isSome = true ↔ ∃ value, (key, value) ∈ entries := by
  simp [lastAt, List.find?_isSome]

theorem lastAt_eq_none (h : ∀ entry ∈ entries, entry.1 ≠ key) : lastAt entries key = none := by
  rw [← Option.not_isSome_iff_eq_none, lastAt_isSome]
  rintro ⟨value, hmem⟩
  exact h _ hmem rfl

-- The dict that the assignments build.
def assignAll (entries : List (κ × ν)) : Table κ ν :=
  entries.foldl (fun table entry => table.insert entry.1 entry.2) ∅

theorem lookup_assignAll : (assignAll entries).lookup key = lastAt entries key := by
  induction entries using List.reverseRecOn with
  | nil => rfl
  | append_singleton entries entry ih =>
      have hinsert : assignAll (entries ++ [entry]) = (assignAll entries).insert entry.1 entry.2 := by
        simp [assignAll]
      rw [hinsert, show entry = (entry.1, entry.2) from rfl, lastAt_concat]
      by_cases h : entry.1 = key
      · subst h
        rw [AList.lookup_insert, if_pos rfl]
      · rw [AList.lookup_insert_ne (Ne.symm h), if_neg h, ih]

theorem mem_of_lastAt (h : lastAt entries key = some value) : (key, value) ∈ entries := by
  obtain ⟨⟨found, value⟩, hfound, rfl⟩ := Option.map_eq_some_iff.mp h
  obtain rfl : found = key := by simpa using List.find?_some hfound
  exact List.mem_reverse.mp (List.mem_of_find?_eq_some hfound)

def Table.items (table : Table κ ν) : List (κ × ν) :=
  table.entries.map fun entry => (entry.1, entry.2)

theorem Table.mem_items {table : Table κ ν} : (key, value) ∈ table.items ↔
    table.lookup key = some value := by
  rw [← Option.mem_def, AList.mem_lookup_iff, Table.items, List.mem_map]
  constructor
  · rintro ⟨⟨found, data⟩, hmem, he⟩
    cases he
    exact hmem
  · intro hmem
    exact ⟨_, hmem, rfl⟩

theorem lastAt_items {table : Table κ ν} : lastAt table.items key = table.lookup key := by
  cases h : lastAt table.items key with
  | some value => exact (Table.mem_items.mp (mem_of_lastAt h)).symm
  | none =>
      refine (Option.eq_none_iff_forall_ne_some.mpr fun value hvalue => ?_).symm
      have hsome := lastAt_isSome.mpr ⟨value, Table.mem_items.mpr hvalue⟩
      rw [h] at hsome
      cases hsome

end Assignments

section Sorting

variable {κ ν π : Type*} [LinearOrder κ] [DecidableEq π] {table : Table κ ν} {f : κ → π}
  {wanted : π} {item : κ × ν}

def Table.sortedItems (table : Table κ ν) : List (κ × ν) :=
  table.items.insertionSort fun first second => first.1 ≤ second.1

theorem Table.sortedItems_pairwise :
    table.sortedItems.Pairwise fun first second => first.1 ≤ second.1 := by
  have htotal : Std.Total fun first second : κ × ν => first.1 ≤ second.1 := ⟨fun _ _ => le_total _ _⟩
  have htrans : IsTrans (κ × ν) fun first second => first.1 ≤ second.1 := ⟨fun _ _ _ => le_trans⟩
  exact List.pairwise_insertionSort _ _

-- The item with the greatest of the keys that come to the same.
def Table.lastBy (f : κ → π) (table : Table κ ν) (wanted : π) : Option (κ × ν) :=
  table.sortedItems.reverse.find? fun item => f item.1 = wanted

theorem lastAt_sortedItems : lastAt (table.sortedItems.map (Prod.map f id)) wanted =
    (table.lastBy f wanted).map Prod.snd := by
  rw [lastAt, ← List.map_reverse, List.find?_map, Option.map_map]
  rfl

variable [DecidableEq κ]

theorem Table.mem_sortedItems : item ∈ table.sortedItems ↔ table.lookup item.1 = some item.2 :=
  (List.mem_insertionSort _).trans Table.mem_items

theorem Table.lastBy_eq_some (h : table.lastBy f wanted = some item) :
    table.lookup item.1 = some item.2 ∧ f item.1 = wanted ∧
      ∀ key value, table.lookup key = some value → f key = wanted → key ≤ item.1 := by
  obtain ⟨hitem, before, after, hsplit, hbefore⟩ := List.find?_eq_some_iff_append.mp h
  have hmem := List.mem_of_find?_eq_some h
  refine ⟨mem_sortedItems.mp (List.mem_reverse.mp hmem), by simpa using hitem,
    fun key value hkey hwanted => ?_⟩
  have hsorted : (before ++ item :: after).Pairwise fun first second => second.1 ≤ first.1 :=
    hsplit ▸ List.pairwise_reverse.mpr table.sortedItems_pairwise
  have hin : (key, value) ∈ before ++ item :: after :=
    hsplit ▸ List.mem_reverse.mpr (mem_sortedItems.mpr hkey)
  rcases List.mem_append.mp hin with hin | hin
  · simpa [hwanted] using hbefore _ hin
  · rcases List.mem_cons.mp hin with rfl | hin
    · exact le_rfl
    · exact List.rel_of_pairwise_cons (List.pairwise_append.mp hsorted).2.1 hin

theorem Table.lastBy_eq_none : table.lastBy f wanted = none ↔
    ∀ key value, table.lookup key = some value → f key ≠ wanted := by
  simp only [lastBy, List.find?_eq_none, List.mem_reverse, mem_sortedItems, decide_eq_true_eq]
  exact ⟨fun h key value hkey => h (key, value) hkey, fun h item hitem => h item.1 item.2 hitem⟩

theorem Table.lastBy_eq_some_iff : table.lastBy f wanted = some item ↔
    table.lookup item.1 = some item.2 ∧ f item.1 = wanted ∧
      ∀ key value, table.lookup key = some value → f key = wanted → key ≤ item.1 := by
  constructor
  · exact lastBy_eq_some
  · rintro ⟨hlookup, hitem, hlast⟩
    cases h : table.lastBy f wanted with
    | none => exact absurd hitem (lastBy_eq_none.mp h _ _ hlookup)
    | some found =>
        obtain ⟨hfound, hwanted, hgreatest⟩ := lastBy_eq_some h
        have hkey : found.1 = item.1 :=
          le_antisymm (hlast _ _ hfound hwanted) (hgreatest _ _ hlookup hitem)
        rw [hkey, hlookup] at hfound
        exact congrArg some (Prod.ext hkey (Option.some.inj hfound).symm)

-- Only the keys that come to the wanted value matter.
theorem Table.lastBy_congr {other : Table κ ν}
    (h : ∀ key, f key = wanted → table.lookup key = other.lookup key) :
    table.lastBy f wanted = other.lastBy f wanted := by
  refine Option.ext fun item => ?_
  rw [lastBy_eq_some_iff, lastBy_eq_some_iff]
  constructor
  · rintro ⟨hlookup, hitem, hlast⟩
    exact ⟨h _ hitem ▸ hlookup, hitem, fun key value hkey hwanted =>
      hlast key value ((h _ hwanted).trans hkey) hwanted⟩
  · rintro ⟨hlookup, hitem, hlast⟩
    exact ⟨(h _ hitem).trans hlookup, hitem, fun key value hkey hwanted =>
      hlast key value (h _ hwanted ▸ hkey) hwanted⟩

-- A key of its own is the last one unless the table has a later one, or has it already.
theorem Table.lastBy_orElse {other : Table κ ν} {own : κ} {data : ν} (hown : f own = wanted)
    (h : ∀ key, f key = wanted →
      table.lookup key = (other.lookup key <|> if key = own then some data else none)) :
    (table.lastBy f wanted).map Prod.snd = some (match other.lastBy f wanted with
      | none => data
      | some (key, value) => if key < own then data else value) := by
  have hlookup : ∀ {key value}, table.lookup key = some value → f key = wanted →
      other.lookup key = some value ∨ key = own := by
    intro key value hkey hwanted
    rw [h key hwanted] at hkey
    cases hother : other.lookup key with
    | some found =>
        rw [hother] at hkey
        exact .inl hkey
    | none =>
        rw [hother] at hkey
        by_contra hne
        rw [if_neg fun he => hne (.inr he)] at hkey
        cases hkey
  cases hlast : other.lastBy f wanted with
  | none =>
      have hnone := lastBy_eq_none.mp hlast
      have hfound : table.lastBy f wanted = some (own, data) := by
        refine lastBy_eq_some_iff.mpr ⟨?_, hown, fun key value hkey hwanted => ?_⟩
        · have hother : other.lookup own = none :=
            Option.eq_none_iff_forall_ne_some.mpr fun value hvalue => hnone _ _ hvalue hown
          rw [h own hown, hother, if_pos rfl]
          rfl
        · exact ((hlookup hkey hwanted).resolve_left fun hother => hnone _ _ hother hwanted).le
      rw [hfound]
      rfl
  | some item =>
      obtain ⟨last, value⟩ := item
      obtain ⟨hvalue, hitem, hgreatest⟩ := lastBy_eq_some hlast
      by_cases hless : last < own
      · have hfound : table.lastBy f wanted = some (own, data) := by
          refine lastBy_eq_some_iff.mpr ⟨?_, hown, fun key found hkey hwanted => ?_⟩
          · have hother : other.lookup own = none :=
              Option.eq_none_iff_forall_ne_some.mpr fun found hfound =>
                absurd (hgreatest _ _ hfound hown) (not_le.mpr hless)
            rw [h own hown, hother, if_pos rfl]
            rfl
          · rcases hlookup hkey hwanted with hother | rfl
            · exact (hgreatest _ _ hother hwanted).trans hless.le
            · exact le_rfl
        rw [hfound]
        simp [hless]
      · have hfound : table.lastBy f wanted = some (last, value) := by
          refine lastBy_eq_some_iff.mpr ⟨?_, hitem, fun key found hkey hwanted => ?_⟩
          · rw [h last hitem, hvalue]
            rfl
          · rcases hlookup hkey hwanted with hother | rfl
            · exact hgreatest _ _ hother hwanted
            · exact not_lt.mp hless
        rw [hfound]
        simp [hless]

end Sorting

namespace FileTree

section Paths

variable {Name : Type*} {dir path rest first second : List Name}

-- The path lies below the directory.
def Below (dir path : List Name) : Prop := dir <+: path ∧ dir ≠ path

instance [DecidableEq Name] : Decidable (Below dir path) := inferInstanceAs (Decidable (_ ∧ _))

theorem below_append (h : rest ≠ []) : Below dir (dir ++ rest) :=
  ⟨List.prefix_append _ _, fun he => h (List.append_right_eq_self.mp he.symm)⟩

theorem below_iff : Below dir path ↔ ∃ rest, rest ≠ [] ∧ path = dir ++ rest := by
  constructor
  · rintro ⟨⟨rest, rfl⟩, hne⟩
    refine ⟨rest, ?_, rfl⟩
    rintro rfl
    exact hne (List.append_nil dir).symm
  · rintro ⟨rest, hrest, rfl⟩
    exact below_append hrest

theorem below_append_iff : Below (dir ++ first) (dir ++ second) ↔ Below first second := by
  simp [Below, List.prefix_append_right_inj]

-- A directory on the way to a path below another one is on the way to that one, or
-- lies in it.
theorem below_append_cases (h : Below path (dir ++ rest)) :
    Below path dir ∨ ∃ first, path = dir ++ first ∧ Below first rest := by
  rcases List.prefix_or_prefix_of_prefix h.1 (List.prefix_append dir rest) with hpath | ⟨first, rfl⟩
  · by_cases he : path = dir
    · subst he
      exact .inr ⟨[], (List.append_nil _).symm, List.nil_prefix, fun hr => h.2 (by simp [← hr])⟩
    · exact .inl ⟨hpath, he⟩
  · exact .inr ⟨first, rfl, below_append_iff.mp h⟩

end Paths

variable {Name Data : Type*} [DecidableEq Name]

def isFile (files : FileTree Name Data) (path : List Name) : Bool := (files.lookup path).isSome

-- A directory on the way to the path is a file.
def underFile (files : FileTree Name Data) (path : List Name) : Bool :=
  files.keys.any fun file => Below file path

def isDirectory (files : FileTree Name Data) (path : List Name) : Bool :=
  files.keys.any fun file => Below path file

def removeTree (dir : List Name) (files : FileTree Name Data) : FileTree Name Data where
  entries := files.entries.filter fun entry => ¬dir <+: entry.1
  nodupKeys := files.nodupKeys.sublist List.filter_sublist

-- The files below a directory, by the rest of their paths.
def filesBelow (dir : List Name) (files : FileTree Name Data) : List (List Name × Data) :=
  (files.entries.filter fun entry => Below dir entry.1).map fun entry =>
    (entry.1.drop dir.length, entry.2)

variable {files : FileTree Name Data} {dir path rest : List Name} {data : Data}

theorem lookup_removeTree : (removeTree dir files).lookup path =
    if dir <+: path then none else files.lookup path := by
  refine Option.ext fun data => ?_
  have hremoved : (removeTree dir files).lookup path = some data ↔
      (⟨path, data⟩ : Σ _ : List Name, Data) ∈ files.entries ∧ decide (¬dir <+: path) = true :=
    AList.mem_lookup_iff.trans List.mem_filter
  rw [hremoved, ← AList.mem_lookup_iff]
  by_cases h : dir <+: path <;> simp [h]

theorem mem_filesBelow : (rest, data) ∈ filesBelow dir files ↔
    rest ≠ [] ∧ files.lookup (dir ++ rest) = some data := by
  simp only [filesBelow, List.mem_map, List.mem_filter, decide_eq_true_eq, Prod.mk.injEq]
  constructor
  · rintro ⟨⟨path, found⟩, ⟨hmem, hbelow⟩, hrest, rfl⟩
    obtain ⟨below, hne, rfl⟩ := below_iff.mp hbelow
    obtain rfl : below = rest := by rw [← hrest, List.drop_left]
    exact ⟨hne, AList.mem_lookup_iff.mpr hmem⟩
  · rintro ⟨hne, hlookup⟩
    exact ⟨⟨dir ++ rest, data⟩, ⟨AList.mem_lookup_iff.mp hlookup, below_append hne⟩,
      List.drop_left, rfl⟩

theorem any_keys_iff {p : List Name → Bool} :
    files.keys.any p = true ↔ ∃ file, (files.lookup file).isSome = true ∧ p file = true := by
  simp only [List.any_eq_true, AList.lookup_isSome]
  rfl

section Writing

variable {root : List Name} {before : FileTree Name Data} {entries : List (List Name × Data)}

-- The entries have been written below a root that held nothing.
def Written (root : List Name) (before : FileTree Name Data) (entries : List (List Name × Data))
    (files : FileTree Name Data) : Prop :=
  ∀ path, files.lookup path =
    if root <+: path then lastAt entries (path.drop root.length) else before.lookup path

theorem written_removeTree : Written root files [] (removeTree root files) :=
  fun _ => lookup_removeTree

theorem Written.lookup (h : Written root before entries files) :
    files.lookup (root ++ rest) = lastAt entries rest := by
  rw [h, if_pos (List.prefix_append _ _), List.drop_left]

theorem Written.insert (h : Written root before entries files) :
    Written root before (entries ++ [(rest, data)]) (AList.insert (root ++ rest) data files) := by
  intro path
  by_cases hroot : root <+: path
  · obtain ⟨found, rfl⟩ := hroot
    rw [if_pos (List.prefix_append _ _), List.drop_left, lastAt_concat]
    by_cases he : rest = found
    · subst he
      rw [AList.lookup_insert, if_pos rfl]
    · rw [AList.lookup_insert_ne (fun hsame => he (List.append_cancel_left hsame).symm), if_neg he,
        h.lookup]
  · have hne : path ≠ root ++ rest := fun he => hroot (he ▸ List.prefix_append _ _)
    rw [AList.lookup_insert_ne hne, h, if_neg hroot, if_neg hroot]

theorem Written.isDirectory (h : Written root before entries files) :
    isDirectory files (root ++ rest) = true ↔ ∃ entry ∈ entries, Below rest entry.1 := by
  rw [FileTree.isDirectory, any_keys_iff]
  simp only [decide_eq_true_eq]
  constructor
  · rintro ⟨file, hfile, hbelow⟩
    obtain ⟨found, rfl⟩ := (List.prefix_append root rest).trans hbelow.1
    rw [h.lookup, lastAt_isSome] at hfile
    obtain ⟨data, hentry⟩ := hfile
    exact ⟨(found, data), hentry, below_append_iff.mp hbelow⟩
  · rintro ⟨⟨found, data⟩, hentry, hbelow⟩
    refine ⟨root ++ found, ?_, below_append_iff.mpr hbelow⟩
    rw [h.lookup]
    exact lastAt_isSome.mpr ⟨data, hentry⟩

theorem Written.underFile (h : Written root before entries files)
    (hroot : before.underFile root = false) :
    underFile files (root ++ rest) = true ↔ ∃ entry ∈ entries, Below entry.1 rest := by
  rw [FileTree.underFile, any_keys_iff]
  simp only [decide_eq_true_eq]
  constructor
  · rintro ⟨file, hfile, hbelow⟩
    rcases below_append_cases hbelow with habove | ⟨found, rfl, hinside⟩
    · have hnot : ¬root <+: file := fun hp => habove.2 (habove.1.eq_of_length_le hp.length_le)
      rw [h, if_neg hnot] at hfile
      have hunder : before.underFile root = true :=
        any_keys_iff.mpr ⟨file, hfile, decide_eq_true_iff.mpr habove⟩
      cases hroot.symm.trans hunder
    · rw [h.lookup, lastAt_isSome] at hfile
      obtain ⟨data, hentry⟩ := hfile
      exact ⟨(found, data), hentry, hinside⟩
  · rintro ⟨⟨found, data⟩, hentry, hbelow⟩
    refine ⟨root ++ found, ?_, below_append_iff.mpr hbelow⟩
    rw [h.lookup]
    exact lastAt_isSome.mpr ⟨data, hentry⟩

end Writing

end FileTree

end JoyMesh.Library
