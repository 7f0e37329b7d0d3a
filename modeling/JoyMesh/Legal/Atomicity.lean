import JoyMesh.Legal.Bundle

namespace JoyMesh.Legal

open Library Routing FileTree

section Names

variable {rel : Path}

def evidenceName : Name := ⟨points "evidence", by decide⟩

theorem name_of (name : Name) : Name.of name.text = some name := dif_pos name.named

theorem namesOf_joined {path : Path} (h : path ≠ []) : namesOf (joined path) = path := by
  have hparts : ∀ part ∈ path.map Name.text, 47 ∉ part := by
    intro part hpart
    obtain ⟨name, -, rfl⟩ := List.mem_map.mp hpart
    exact name.named.2.2.2.1
  rw [namesOf, joined, List.splitOn_intercalate 47 hparts (by simpa using h), List.filterMap_map,
    show Name.of ∘ Name.text = some from funext name_of, List.filterMap_some]

theorem evidenceKey_eq (h : rel ≠ []) : evidenceKey rel = joined (evidenceName :: rel) := by
  obtain ⟨first, rest, rfl⟩ := List.exists_cons_of_ne_nil h
  rw [joined, List.map_cons, List.map_cons, List.intercalate_cons_cons]
  rfl

theorem namesOf_evidenceKey (h : rel ≠ []) : namesOf (evidenceKey rel) = evidenceName :: rel := by
  rw [evidenceKey_eq h]
  exact namesOf_joined (List.cons_ne_nil _ _)

end Names

section Placing

-- What stands at a path can be written below a directory that holds the done files.
def Placeable (done : List (Path × Bytes)) (rel : Points) : Prop :=
  0 ∉ rel ∧ namesOf rel ≠ [] ∧
    ∀ entry ∈ done, ¬Below entry.1 (namesOf rel) ∧ ¬Below (namesOf rel) entry.1

instance {done : List (Path × Bytes)} {rel : Points} : Decidable (Placeable done rel) :=
  inferInstanceAs (Decidable (_ ∧ _ ∧ _))

-- The files that are written, to the end or to the first that cannot be.
def placed (done : List (Path × Bytes)) :
    List (Points × Bytes) → Except (List (Path × Bytes)) (List (Path × Bytes))
  | [] => .ok done
  | (rel, data) :: rest =>
      if Placeable done rel then placed (done ++ [(namesOf rel, data)]) rest else .error done

variable {output : Path} {before files : Files} {done : List (Path × Bytes)} {rel : Points}
  {data : Bytes} {entries : List (Points × Bytes)} {all : List (Path × Bytes)}

theorem place_ok (hwritten : Written output before done files)
    (hroot : before.underFile output = false) (h : Placeable done rel) :
    place output files rel data = .ok (AList.insert (output ++ namesOf rel) data files) := by
  obtain ⟨hnull, hnames, hdone⟩ := h
  have hunder : files.underFile (output ++ namesOf rel) = false := by
    rw [Bool.eq_false_iff, Ne, hwritten.underFile hroot]
    rintro ⟨entry, hentry, hbelow⟩
    exact (hdone entry hentry).1 hbelow
  have hdirectory : files.isDirectory (output ++ namesOf rel) = false := by
    rw [Bool.eq_false_iff, Ne, hwritten.isDirectory]
    rintro ⟨entry, hentry, hbelow⟩
    exact (hdone entry hentry).2 hbelow
  simp [place, hnull, hnames, hunder, hdirectory]

theorem place_error (hwritten : Written output before done files)
    (hroot : before.underFile output = false) (h : ¬Placeable done rel) :
    ∃ error, place output files rel data = .error error := by
  by_cases hnull : 0 ∈ rel
  · exact ⟨⟨"ValueError", "embedded null byte"⟩, by simp [place, hnull]⟩
  by_cases hunder : files.underFile (output ++ namesOf rel) = true
  · simp [place, hnull, hunder]
  by_cases hnames : namesOf rel = []
  · have hunder : files.underFile output = false := by simpa [hnames] using hunder
    simp [place, hnull, hnames, hunder]
  have hdirectory : files.isDirectory (output ++ namesOf rel) = true := by
    rw [hwritten.isDirectory]
    by_contra hnone
    refine h ⟨hnull, hnames, fun entry hentry => ⟨fun hbelow => hunder ?_, fun hbelow => hnone ?_⟩⟩
    · rw [hwritten.underFile hroot]
      exact ⟨entry, hentry, hbelow⟩
    · exact ⟨entry, hentry, hbelow⟩
  simp [place, hnull, hunder, hdirectory]

theorem writeAll_placed (hwritten : Written output before done files)
    (hroot : before.underFile output = false) (h : placed done entries = .ok all) :
    ∃ after, writeAll output entries files = (none, after) ∧ Written output before all after := by
  induction entries generalizing done files with
  | nil =>
      obtain rfl : done = all := Except.ok.inj h
      exact ⟨files, rfl, hwritten⟩
  | cons entry rest ih =>
      obtain ⟨rel, data⟩ := entry
      rw [placed] at h
      split at h
      · next hplaceable =>
        rw [writeAll, place_ok hwritten hroot hplaceable]
        exact ih hwritten.insert h
      · cases h

theorem writeAll_refused (hwritten : Written output before done files)
    (hroot : before.underFile output = false) (h : placed done entries = .error all) :
    ∃ error after, writeAll output entries files = (some error, after) ∧
      Written output before all after := by
  induction entries generalizing done files with
  | nil => cases h
  | cons entry rest ih =>
      obtain ⟨rel, data⟩ := entry
      rw [placed] at h
      split at h
      · next hplaceable =>
        rw [writeAll, place_ok hwritten hroot hplaceable]
        exact ih hwritten.insert h
      · next hplaceable =>
        obtain rfl : done = all := Except.error.inj h
        obtain ⟨error, herror⟩ := @place_error _ _ _ _ _ data hwritten hroot hplaceable
        rw [writeAll, herror]
        exact ⟨error, files, rfl, hwritten⟩

theorem placed_eq_ok (h : placed done entries = .ok all) :
    all = done ++ entries.map (Prod.map namesOf id) := by
  induction entries generalizing done with
  | nil =>
      obtain rfl : done = all := Except.ok.inj h
      exact (List.append_nil _).symm
  | cons entry rest ih =>
      obtain ⟨rel, data⟩ := entry
      rw [placed] at h
      split at h
      · rw [ih h, List.append_assoc]
        rfl
      · cases h

-- The directory itself is not written.
theorem placed_named (hdone : ∀ entry ∈ done, entry.1 ≠ [])
    (h : placed done entries = .ok all ∨ placed done entries = .error all) :
    ∀ entry ∈ all, entry.1 ≠ [] := by
  induction entries generalizing done with
  | nil =>
      rcases h with h | h
      · exact Except.ok.inj h ▸ hdone
      · cases h
  | cons entry rest ih =>
      obtain ⟨rel, data⟩ := entry
      rw [placed] at h
      split at h
      · next hplaceable =>
        refine ih (fun entry hentry => ?_) h
        rcases List.mem_append.mp hentry with hentry | hentry
        · exact hdone entry hentry
        · rw [List.mem_singleton.mp hentry]
          exact hplaceable.2.1
      · rcases h with h | h
        · cases h
        · exact Except.error.inj h ▸ hdone

end Placing

section Reaching

-- How far a call comes: to nothing, to a refusal after some files, or to its end.
inductive Reached where
  | nothing
  | refused (done : List (Path × Bytes))
  | created (entries : Table Points Bytes)

variable (codec : Codec) (inputs : Inputs) (files : Files)

-- The manifest of some files, as it is written.
def manifestText (entries : List (Points × Bytes)) : Except PyError Bytes := do
  dumped codec (dictOf (← buildBundle codec inputs entries))

def reached : Reached :=
  if isFile files inputs.outputDir || underFile files inputs.outputDir then .nothing
  else
    match collect codec inputs (removeTree inputs.outputDir files) with
    | .error _ => .refused []
    | .ok entries =>
        match placed [] entries.sortedItems, manifestText codec inputs entries.sortedItems with
        | .error done, _ => .refused done
        | .ok done, .error _ => .refused done
        | .ok done, .ok _ =>
            if Placeable done (points "manifest.json") then .created entries else .refused done

variable {codec inputs files} {done : List (Path × Bytes)} {entries : Table Points Bytes}
  {after : Files} {text : Bytes}

theorem create_nothing (h : reached codec inputs files = .nothing) :
    ∃ error, createBundleDirectory codec inputs files = (.error error, files) := by
  unfold reached at h
  split at h
  · next hblocked => exact ⟨_, by rw [createBundleDirectory, if_pos hblocked]⟩
  · split at h
    · cases h
    · split at h
      · cases h
      · cases h
      · split at h <;> cases h

-- When the files are written a call ends as its manifest does.
theorem create_unbundled {error : PyError}
    (hblocked : ¬(isFile files inputs.outputDir || underFile files inputs.outputDir) = true)
    (hcollect : collect codec inputs (removeTree inputs.outputDir files) = .ok entries)
    (hwrite : writeAll inputs.outputDir entries.sortedItems
      (removeTree inputs.outputDir files) = (none, after))
    (h : manifestText codec inputs entries.sortedItems = .error error) :
    createBundleDirectory codec inputs files = (.error error, after) := by
  rw [createBundleDirectory, if_neg hblocked]
  dsimp only
  rw [hcollect]
  dsimp only
  rw [hwrite]
  dsimp only
  cases hbundle : buildBundle codec inputs entries.sortedItems with
  | error refused =>
      rw [manifestText, hbundle] at h
      obtain rfl : refused = error := Except.error.inj h
      rfl
  | ok manifest =>
      rw [manifestText, hbundle] at h
      have hdumped : dumped codec (dictOf manifest) = .error error := h
      dsimp only
      rw [hdumped]

theorem create_bundled
    (hblocked : ¬(isFile files inputs.outputDir || underFile files inputs.outputDir) = true)
    (hcollect : collect codec inputs (removeTree inputs.outputDir files) = .ok entries)
    (hwrite : writeAll inputs.outputDir entries.sortedItems
      (removeTree inputs.outputDir files) = (none, after))
    (h : manifestText codec inputs entries.sortedItems = .ok text) :
    ∃ report, createBundleDirectory codec inputs files =
      match place inputs.outputDir after (points "manifest.json") text with
      | .error error => (.error error, after)
      | .ok files => (.ok report, files) := by
  rw [createBundleDirectory, if_neg hblocked]
  dsimp only
  rw [hcollect]
  dsimp only
  rw [hwrite]
  dsimp only
  obtain ⟨manifest, hbundle, hdumped⟩ := bind_eq_ok.mp h
  rw [hbundle]
  dsimp only
  rw [hdumped]
  exact ⟨_, rfl⟩

theorem create_refused (h : reached codec inputs files = .refused done) :
    ∃ error after, createBundleDirectory codec inputs files = (.error error, after) ∧
      Written inputs.outputDir files done after := by
  unfold reached at h
  split at h
  · cases h
  next hblocked =>
  have hroot := (Bool.or_eq_false_iff.mp (Bool.eq_false_iff.mpr hblocked)).2
  have hempty := @written_removeTree _ _ _ files inputs.outputDir
  split at h
  · next error hcollect =>
    obtain rfl : [] = done := Reached.refused.inj h
    exact ⟨error, _, by rw [createBundleDirectory, if_neg hblocked]; dsimp only; rw [hcollect], hempty⟩
  next entries hcollect =>
  split at h
  · next hplaced =>
    obtain rfl := Reached.refused.inj h
    obtain ⟨error, after, hwrite, hwritten⟩ := writeAll_refused hempty hroot hplaced
    refine ⟨error, after, ?_, hwritten⟩
    rw [createBundleDirectory, if_neg hblocked]
    dsimp only
    rw [hcollect]
    dsimp only
    rw [hwrite]
  · next hplaced hmanifest =>
    obtain rfl := Reached.refused.inj h
    obtain ⟨after, hwrite, hwritten⟩ := writeAll_placed hempty hroot hplaced
    exact ⟨_, after, create_unbundled hblocked hcollect hwrite hmanifest, hwritten⟩
  · next text hplaced hmanifest =>
    split at h
    · cases h
    next hplaceable =>
    obtain rfl := Reached.refused.inj h
    obtain ⟨after, hwrite, hwritten⟩ := writeAll_placed hempty hroot hplaced
    obtain ⟨report, hcreate⟩ := create_bundled hblocked hcollect hwrite hmanifest
    obtain ⟨error, herror⟩ := @place_error _ _ _ _ _ text hwritten hroot hplaceable
    rw [herror] at hcreate
    exact ⟨error, after, hcreate, hwritten⟩

theorem reached_refused (h : reached codec inputs files = .refused done) :
    files.lookup inputs.outputDir = none ∧ ∀ entry ∈ done, entry.1 ≠ [] := by
  unfold reached at h
  split at h
  · cases h
  next hblocked =>
  have hfile := (Bool.or_eq_false_iff.mp (Bool.eq_false_iff.mpr hblocked)).1
  refine ⟨Option.not_isSome_iff_eq_none.mp (Bool.eq_false_iff.mp hfile), ?_⟩
  split at h
  · obtain rfl := Reached.refused.inj h
    simp
  next entries hcollect =>
  split at h
  · next hplaced =>
    obtain rfl := Reached.refused.inj h
    exact placed_named (by simp) (.inr hplaced)
  · next hplaced hmanifest =>
    obtain rfl := Reached.refused.inj h
    exact placed_named (by simp) (.inl hplaced)
  · next text hplaced hmanifest =>
    split at h
    · cases h
    · obtain rfl := Reached.refused.inj h
      exact placed_named (by simp) (.inl hplaced)

theorem create_created (h : reached codec inputs files = .created entries) :
    ∃ report after text, createBundleDirectory codec inputs files = (.ok report, after) ∧
      collect codec inputs (removeTree inputs.outputDir files) = .ok entries ∧
      Written inputs.outputDir files (entries.sortedItems.map (Prod.map namesOf id) ++
        [(namesOf (points "manifest.json"), text)]) after := by
  unfold reached at h
  split at h
  · cases h
  next hblocked =>
  have hroot := (Bool.or_eq_false_iff.mp (Bool.eq_false_iff.mpr hblocked)).2
  have hempty := @written_removeTree _ _ _ files inputs.outputDir
  split at h
  · cases h
  next entries' hcollect =>
  split at h
  · cases h
  · cases h
  next text hplaced hmanifest =>
  split at h
  · next hplaceable =>
    obtain rfl := Reached.created.inj h
    obtain ⟨after, hwrite, hwritten⟩ := writeAll_placed hempty hroot hplaced
    obtain ⟨report, hcreate⟩ := create_bundled hblocked hcollect hwrite hmanifest
    rw [place_ok hwritten hroot hplaceable] at hcreate
    have hall := placed_eq_ok hplaced
    rw [List.nil_append] at hall
    exact ⟨report, _, text, hcreate, hcollect, hall ▸ hwritten.insert⟩
  · cases h

end Reaching

section Evidence

variable {codec : Codec} {inputs : Inputs} {files : Files} {dir rel : Path} {key : Points}
  {data : Bytes} {entries : Table Points Bytes}

theorem document_keys {name : String} {items : Option Document} {found : List (Points × Bytes)}
    (h : document codec name items = .ok found) : ∀ file ∈ found, file.1 = points name := by
  cases items with
  | none =>
      obtain rfl : [] = found := Except.ok.inj h
      simp
  | some items =>
      rw [document] at h
      cases hdumped : dumped codec (.dict items) with
      | error error =>
          rw [hdumped] at h
          cases h
      | ok data =>
          rw [hdumped] at h
          obtain rfl : [(points name, data)] = found := Except.ok.inj h
          simp

theorem mem_evidenceFiles (hdir : inputs.evidenceDir = some dir) :
    (rel, data) ∈ evidenceFiles inputs files ↔ rel ≠ [] ∧ files.lookup (dir ++ rel) = some data := by
  rw [evidenceFiles, hdir]
  exact (List.mem_insertionSort _).trans mem_filesBelow

-- No two files of evidence_dir stand for one path of the bundle.
theorem lastAt_evidence (hdir : inputs.evidenceDir = some dir) (hrel : rel ≠ [])
    (hkey : namesOf key = evidenceName :: rel) :
    lastAt ((evidenceFiles inputs files).map fun file => (evidenceKey file.1, file.2)) key =
      if key = evidenceKey rel then files.lookup (dir ++ rel) else none := by
  have hentry : ∀ {data}, (key, data) ∈
      (evidenceFiles inputs files).map (fun file => (evidenceKey file.1, file.2)) →
        key = evidenceKey rel ∧ files.lookup (dir ++ rel) = some data := by
    intro data hmem
    obtain ⟨⟨other, found⟩, hfile, he⟩ := List.mem_map.mp hmem
    cases he
    obtain ⟨hother, hlookup⟩ := (mem_evidenceFiles hdir).mp hfile
    rw [namesOf_evidenceKey hother] at hkey
    obtain rfl := (List.cons.inj hkey).2
    exact ⟨rfl, hlookup⟩
  by_cases hsame : key = evidenceKey rel
  · rw [if_pos hsame]
    cases hlookup : files.lookup (dir ++ rel) with
    | none =>
        refine lastAt_eq_none fun entry hmem he => ?_
        have hfound := (@hentry entry.2 (he ▸ hmem)).2
        rw [hlookup] at hfound
        cases hfound
    | some data =>
        have hmem : (key, data) ∈
            (evidenceFiles inputs files).map (fun file => (evidenceKey file.1, file.2)) :=
          List.mem_map.mpr ⟨(rel, data), (mem_evidenceFiles hdir).mpr ⟨hrel, hlookup⟩, by rw [hsame]⟩
        obtain ⟨found, hfound⟩ := Option.isSome_iff_exists.mp (lastAt_isSome.mpr ⟨data, hmem⟩)
        rw [hfound, ← (hentry (mem_of_lastAt hfound)).2, hlookup]
  · rw [if_neg hsame]
    exact lastAt_eq_none fun entry hmem he => hsame (@hentry entry.2 (he ▸ hmem)).1

-- A path of the bundle below its evidence is an extra file's or one of evidence_dir.
theorem collect_lookup (h : collect codec inputs files = .ok entries)
    (hdir : inputs.evidenceDir = some dir) (hrel : rel ≠ [])
    (hkey : namesOf key = evidenceName :: rel) :
    entries.lookup key = (inputs.extraFiles.lookup key <|>
      if key = evidenceKey rel then files.lookup (dir ++ rel) else none) := by
  obtain ⟨claim, hclaim, h⟩ := bind_eq_ok.mp h
  obtain ⟨certification, hcertification, h⟩ := bind_eq_ok.mp h
  obtain ⟨-, -, h⟩ := bind_eq_ok.mp h
  obtain ⟨-, -, h⟩ := bind_eq_ok.mp h
  obtain ⟨identity, -, h⟩ := bind_eq_ok.mp h
  obtain rfl := Except.ok.inj h
  have hother : ∀ name, (namesOf (points name)).head? ≠ some evidenceName → points name ≠ key := by
    rintro name hname rfl
    exact hname (by rw [hkey, List.head?_cons])
  have hclaim : lastAt claim key = none :=
    lastAt_eq_none fun file hfile => document_keys hclaim file hfile ▸
      hother "claim-v2.json" (by decide +kernel)
  have hcertification : lastAt certification key = none :=
    lastAt_eq_none fun file hfile => document_keys hcertification file hfile ▸
      hother "certification-v2.json" (by decide +kernel)
  rw [lookup_assignAll, lastAt_concat, if_neg (hother "source-identity.json" (by decide +kernel)),
    lastAt_append, lastAt_append, lastAt_append, lastAt_items, lastAt_evidence hdir hrel hkey,
    hclaim, hcertification]
  simp

theorem manifest_apart (rel : Path) : namesOf (points "manifest.json") ≠ evidenceName :: rel := by
  intro h
  have hfirst : (namesOf (points "manifest.json")).head? = some evidenceName := by
    rw [h, List.head?_cons]
  exact absurd hfirst (by decide +kernel)

-- A file of evidence_dir is what it is in the bundle unless it lies in output_dir, or a
-- later extra file with other bytes takes its place.
def Kept (inputs : Inputs) (dir rel : Path) (data : Bytes) : Prop :=
  match inputs.extraFiles.lastBy namesOf (evidenceName :: rel) with
  | none => ¬inputs.outputDir <+: dir ++ rel
  | some (key, found) => found = data ∨ key < evidenceKey rel ∧ ¬inputs.outputDir <+: dir ++ rel

theorem lastBy_kept (h : collect codec inputs (removeTree inputs.outputDir files) = .ok entries)
    (hdir : inputs.evidenceDir = some dir) (hrel : rel ≠ [])
    (hfile : files.lookup (dir ++ rel) = some data) :
    (entries.lastBy namesOf (evidenceName :: rel)).map Prod.snd = some data ↔
      Kept inputs dir rel data := by
  by_cases hinside : inputs.outputDir <+: dir ++ rel
  · -- the file is removed, so only an extra one can stand for it
    have hlast : entries.lastBy namesOf (evidenceName :: rel) =
        inputs.extraFiles.lastBy namesOf (evidenceName :: rel) := by
      refine Table.lastBy_congr fun key hkey => ?_
      rw [collect_lookup h hdir hrel hkey, lookup_removeTree, if_pos hinside, ite_self]
      simp
    rw [hlast, Kept]
    cases inputs.extraFiles.lastBy namesOf (evidenceName :: rel) with
    | none => simp [hinside]
    | some item => simp [hinside]
  · have hlookup : ∀ key, namesOf key = evidenceName :: rel → entries.lookup key =
        (inputs.extraFiles.lookup key <|> if key = evidenceKey rel then some data else none) := by
      intro key hkey
      rw [collect_lookup h hdir hrel hkey, lookup_removeTree, if_neg hinside, hfile]
    rw [Table.lastBy_orElse (namesOf_evidenceKey hrel) hlookup, Kept]
    cases inputs.extraFiles.lastBy namesOf (evidenceName :: rel) with
    | none => simp [hinside]
    | some item =>
        obtain ⟨key, found⟩ := item
        by_cases hless : key < evidenceKey rel
        · simp [hless, hinside]
        · simp [hless]

end Evidence

section Atomic

variable (codec : Codec) (inputs : Inputs) (files : Files) {done : List (Path × Bytes)}
  {after : Files}

-- The files below a directory are the ones that were there.
def SameBelow (dir : Path) (before after : Files) : Prop :=
  ∀ rel ≠ [], after.lookup (dir ++ rel) = before.lookup (dir ++ rel)

-- A refused call leaves both directories as they were; a bundle has every evidence file.
def Atomic : Prop :=
  match createBundleDirectory codec inputs files with
  | (.error _, after) => SameBelow inputs.outputDir files after ∧
      ∀ dir ∈ inputs.evidenceDir, SameBelow dir files after
  | (.ok _, after) => ∀ dir ∈ inputs.evidenceDir, ∀ rel ≠ [], ∀ data,
      files.lookup (dir ++ rel) = some data →
        after.lookup (inputs.outputDir ++ evidenceName :: rel) = some data

-- What is refused has to find in output_dir just what it has written until then.
def Harmless : Prop :=
  match reached codec inputs files with
  | .nothing => True
  | .refused done => ∀ rel ≠ [], files.lookup (inputs.outputDir ++ rel) = lastAt done rel
  | .created _ => ∀ dir ∈ inputs.evidenceDir, ∀ rel ≠ [], ∀ data,
      files.lookup (dir ++ rel) = some data → Kept inputs dir rel data

variable {codec inputs files}

theorem sameBelow_output (hwritten : Written inputs.outputDir files done after) :
    SameBelow inputs.outputDir files after ↔
      ∀ rel ≠ [], files.lookup (inputs.outputDir ++ rel) = lastAt done rel := by
  unfold SameBelow
  simp only [hwritten.lookup]
  exact ⟨fun h rel hrel => (h rel hrel).symm, fun h rel hrel => (h rel hrel).symm⟩

-- Nothing changes outside of output_dir, which is no file before and after.
theorem sameBelow_any (dir : Path) (hfile : files.lookup inputs.outputDir = none)
    (hdone : ∀ entry ∈ done, entry.1 ≠ []) (hwritten : Written inputs.outputDir files done after)
    (h : SameBelow inputs.outputDir files after) : SameBelow dir files after := by
  intro rel _
  by_cases hinside : inputs.outputDir <+: dir ++ rel
  · obtain ⟨below, hbelow⟩ := hinside
    rw [← hbelow]
    by_cases hempty : below = []
    · subst hempty
      rw [hwritten.lookup, lastAt_eq_none hdone, List.append_nil, hfile]
    · exact h below hempty
  · rw [hwritten, if_neg hinside]

theorem atomic_iff : Atomic codec inputs files ↔ Harmless codec inputs files := by
  unfold Harmless
  cases h : reached codec inputs files with
  | nothing =>
      obtain ⟨error, hcreate⟩ := create_nothing h
      simp [Atomic, hcreate, SameBelow]
  | refused done =>
      obtain ⟨error, after, hcreate, hwritten⟩ := create_refused h
      obtain ⟨hfile, hdone⟩ := reached_refused h
      simp only [Atomic, hcreate]
      rw [sameBelow_output hwritten, and_iff_left_iff_imp]
      intro hsame dir _
      exact sameBelow_any dir hfile hdone hwritten ((sameBelow_output hwritten).mpr hsame)
  | created entries =>
      obtain ⟨report, after, text, hcreate, hcollect, hwritten⟩ := create_created h
      simp only [Atomic, hcreate]
      have hkept : ∀ dir ∈ inputs.evidenceDir, ∀ rel ≠ [], ∀ data,
          files.lookup (dir ++ rel) = some data →
            (after.lookup (inputs.outputDir ++ evidenceName :: rel) = some data ↔
              Kept inputs dir rel data) := by
        intro dir hdir rel hrel data hfile
        rw [hwritten.lookup, lastAt_concat, if_neg (manifest_apart rel), lastAt_sortedItems]
        exact lastBy_kept hcollect hdir hrel hfile
      constructor
      · intro hall dir hdir rel hrel data hfile
        exact (hkept dir hdir rel hrel data hfile).mp (hall dir hdir rel hrel data hfile)
      · intro hall dir hdir rel hrel data hfile
        exact (hkept dir hdir rel hrel data hfile).mpr (hall dir hdir rel hrel data hfile)

end Atomic

section Refused

def bundleName : Name := ⟨points "bundle", by decide⟩

def dottedName : Name := ⟨points "report..json", by decide⟩

def oldFiles : Files :=
  AList.insert [bundleName, evidenceName] [1] (AList.insert [evidenceName, dottedName] [2] ∅)

def dottedInputs : Inputs where
  identity := ⟨"joymesh", "/repo", "c0", "main", none, false, "1.0.0"⟩
  outputDir := [bundleName]
  claim := none
  certification := none
  evidenceDir := some [evidenceName]

def plainCodec : Codec where
  indented _ := []
  canonical _ := []
  sha256 _ := ""
  now := "2026-01-01T00:00:00Z"

-- The name of one evidence file has two dots, and the former bundle is gone.
theorem dotted_evidence_removes_bundle : ¬Atomic plainCodec dottedInputs oldFiles := by
  have hrefused : (createBundleDirectory plainCodec dottedInputs oldFiles).1.toBool = false := by
    decide +kernel
  have hgone : (createBundleDirectory plainCodec dottedInputs oldFiles).2.lookup
      [bundleName, evidenceName] = none := by decide +kernel
  intro h
  unfold Atomic at h
  split at h
  · next error after hcreate =>
    have hsame : after.lookup [bundleName, evidenceName] = some [1] :=
      (h.1 [evidenceName] (List.cons_ne_nil _ _)).trans rfl
    rw [hcreate, hsame] at hgone
    cases hgone
  · next report after hcreate =>
    rw [hcreate] at hrefused
    cases hrefused

end Refused

end JoyMesh.Legal
