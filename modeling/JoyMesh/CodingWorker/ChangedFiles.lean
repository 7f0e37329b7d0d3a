import JoyMesh.CodingWorker.Safety
import Mathlib.Algebra.BigOperators.Group.List.Basic

namespace JoyMesh.CodingWorker.Safety

open JoyMesh.Library

-- A path that git prints as it is, and that has not been renamed.
def Entry.Plain (entry : Entry) : Prop := entry.source = none ∧ entry.path.all isPlain = true

instance : DecidablePred Entry.Plain := fun _ => inferInstanceAs (Decidable (_ ∧ _))

-- The files that were dirty before, and the ones that changed since.
structure Exact (dirtyFiles changedFiles before after : List Points) : Prop where
  dirty : ∀ path, path ∈ dirtyFiles ↔ path ∈ before
  changed : ∀ path, path ∈ changedFiles ↔ path ∈ after ∧ path ∉ before
  once : changedFiles.Nodup

-- The lines of the status are read as they stand: no path is quoted or renamed, and the
-- first line has letters in both columns or is left out in both of its readings.
structure Legible (before : List Points) (entries : List Entry) : Prop where
  plain : ∀ entry ∈ entries, entry.Plain
  first : ∀ entry ∈ entries.head?, entry.x = 32 →
    entry.path ∈ before ∧ entry.path.drop 1 ∈ before

-- Every untracked file is in a directory with tracked ones, so that git prints it by itself.
def Uncollapsed (status : GitStatus) : Prop :=
  ∀ entry ∈ status.entries, status.untrackedDir entry = none

instance : DecidablePred Uncollapsed :=
  fun status => inferInstanceAs (Decidable (∀ entry ∈ status.entries, _ = none))

section Lengths

variable {entry : Entry} {path : Points}

theorem escapeByte_ne (b : Nat) : escapeByte b ≠ [] := by
  rw [escapeByte]
  split
  · simp
  · split <;> simp

theorem fsencodeChar_ne (c : Nat) : fsencodeChar c ≠ [] := by
  unfold fsencodeChar
  split_ifs <;> simp

theorem length_le_flatMap {α β : Type} {f : α → List β} (h : ∀ a, f a ≠ []) (items : List α) :
    items.length ≤ (items.flatMap f).length := by
  induction items with
  | nil => simp
  | cons a items ih =>
      have := List.length_pos_of_ne_nil (h a)
      rw [List.flatMap_cons, List.length_append, List.length_cons]
      omega

theorem gitName_quoted (h : ¬path.all isPlain = true) :
    ∃ text, gitName path = 34 :: text ++ [34] ∧ path.length ≤ text.length := by
  refine ⟨_, if_neg h, ?_⟩
  exact (length_le_flatMap fsencodeChar_ne path).trans (length_le_flatMap escapeByte_ne _)

theorem gitName_length : path.length ≤ (gitName path).length := by
  by_cases h : path.all isPlain = true
  · rw [gitName_plain h]
  · obtain ⟨text, hname, hlength⟩ := gitName_quoted h
    rw [hname, List.length_append, List.length_cons]
    omega

theorem shown_unrenamed (h : entry.source = none) : entry.shown = gitName entry.path := by
  rw [Entry.shown, h]
  rfl

theorem shown_plain (h : entry.Plain) : entry.shown = entry.path := by
  rw [shown_unrenamed h.1, gitName_plain h.2]

-- A line that is not plain shows more than its path, with a character that no plain path has.
theorem shown_odd (h : ¬entry.Plain) :
    (∃ c ∈ entry.shown.drop 1, isPlain c = false) ∧
      entry.path.length + 2 ≤ entry.shown.length := by
  cases hsource : entry.source with
  | none =>
      obtain ⟨text, hname, hlength⟩ := gitName_quoted fun hpath => h ⟨hsource, hpath⟩
      have hshown : entry.shown = 34 :: text ++ [34] := (shown_unrenamed hsource).trans hname
      rw [hshown]
      refine ⟨⟨34, by simp, by decide⟩, ?_⟩
      simp only [List.length_append, List.length_cons, List.length_nil]
      omega
  | some source =>
      have hshown : entry.shown = gitName source ++ (points " -> " ++ gitName entry.path) := by
        rw [Entry.shown, hsource]
        exact List.append_assoc _ _ _
      have hne := gitName_ne (entry.source_ne source hsource)
      obtain ⟨c, rest, hname⟩ := List.exists_cons_of_ne_nil hne
      have hlength := @gitName_length entry.path
      rw [hshown, hname]
      refine ⟨⟨32, by simp [points], by decide⟩, ?_⟩
      simp only [List.length_append, List.length_cons]
      have : (points " -> ").length = 4 := by decide
      omega

theorem shown_foreign {before : List Points} (hbefore : ∀ path ∈ before, path.all isPlain = true)
    (h : ¬entry.Plain) : entry.shown ∉ before ∧ entry.shown.drop 1 ∉ before := by
  obtain ⟨⟨c, hc, hodd⟩, -⟩ := shown_odd h
  constructor
  · intro hmem
    have := List.all_eq_true.mp (hbefore _ hmem) c (List.mem_of_mem_drop hc)
    simp [hodd] at this
  · intro hmem
    have := List.all_eq_true.mp (hbefore _ hmem) c hc
    simp [hodd] at this

end Lengths

section Counting

variable {before : List Points} {entry : Entry} {entries : List Entry} {paths : List Points}
  {path : Points}

def outside (before paths : List Points) : List Points :=
  paths.filter fun path => !before.contains path

def size (paths : List Points) : Nat := (paths.map List.length).sum

theorem mem_outside : path ∈ outside before paths ↔ path ∈ paths ∧ path ∉ before := by
  simp [outside]

theorem outside_cons :
    outside before (path :: paths) =
      if path ∈ before then outside before paths else path :: outside before paths := by
  by_cases h : path ∈ before <;> simp [outside, h]

-- The lines after the first one show no less than their paths.
theorem shown_sizes (hbefore : ∀ path ∈ before, path.all isPlain = true) :
    (outside before (entries.map Entry.path)).length ≤
        (outside before (entries.map Entry.shown)).length ∧
      size (outside before (entries.map Entry.path)) ≤
        size (outside before (entries.map Entry.shown)) ∧
      ((∀ entry ∈ entries, entry.Plain) ∨
        size (outside before (entries.map Entry.path)) + 2 ≤
          size (outside before (entries.map Entry.shown))) := by
  induction entries with
  | nil => simp
  | cons entry entries ih =>
      obtain ⟨hlength, hsize, hplain⟩ := ih
      rw [List.map_cons, List.map_cons, outside_cons, outside_cons, List.forall_mem_cons]
      by_cases h : entry.Plain
      · rw [shown_plain h]
        split
        · exact ⟨hlength, hsize, hplain.imp_left fun hrest => ⟨h, hrest⟩⟩
        · simp only [size, List.map_cons, List.sum_cons, List.length_cons] at hsize hplain ⊢
          refine ⟨by omega, by omega, ?_⟩
          rcases hplain with hrest | hmore
          · exact Or.inl ⟨h, hrest⟩
          · exact Or.inr (by omega)
      · have hodd := (shown_odd h).2
        rw [if_neg (shown_foreign hbefore h).1]
        split
        · simp only [size, List.map_cons, List.sum_cons, List.length_cons] at hsize ⊢
          exact ⟨by omega, by omega, Or.inr (by omega)⟩
        · simp only [size, List.map_cons, List.sum_cons, List.length_cons] at hsize ⊢
          exact ⟨by omega, by omega, Or.inr (by omega)⟩

-- A plain path is shown by no line after the first one but its own.
theorem path_unshown (hentry : entry.Plain)
    (hnodup : ((entry :: entries).map Entry.path).Nodup) :
    entry.path ∉ entries.map Entry.shown := by
  intro hmem
  obtain ⟨other, hother, hshown⟩ := List.mem_map.mp hmem
  by_cases hplain : other.Plain
  · rw [shown_plain hplain] at hshown
    exact (List.nodup_cons.mp hnodup).1 (List.mem_map.mpr ⟨other, hother, hshown⟩)
  · obtain ⟨⟨c, hc, hodd⟩, -⟩ := shown_odd hplain
    have := List.all_eq_true.mp hentry.2 c (hshown ▸ List.mem_of_mem_drop hc)
    simp [hodd] at this

-- Lines that report the paths are legible: the sizes leave no room for another way.
theorem legible_of_perm (hbefore : ∀ path ∈ before, path.all isPlain = true)
    (hnodup : (entries.map Entry.path).Nodup)
    (hperm : (outside before (reports entries)).Perm (outside before (entries.map Entry.path))) :
    Legible before entries := by
  cases entries with
  | nil => exact ⟨by simp, by simp⟩
  | cons entry entries =>
      have hlength := hperm.length_eq
      have hsize : size (outside before (reports (entry :: entries))) =
          size (outside before ((entry :: entries).map Entry.path)) :=
        (hperm.map List.length).sum_eq
      by_cases hx : entry.x = 32
      · obtain ⟨hless, hsmaller, hrest⟩ := @shown_sizes before entries hbefore
        have hne := List.length_pos_of_ne_nil entry.path_ne
        rw [reports, if_pos hx, List.map_cons] at hperm hlength hsize
        by_cases hplain : entry.Plain
        · -- the first path has lost its first character
          have hdrop : (entry.path.drop 1).length = entry.path.length - 1 := List.length_drop
          have hunshown := path_unshown hplain hnodup
          rw [shown_plain hplain] at hperm hlength hsize
          have hsees : entry.path ∉ before → entry.path ∈ entry.path.drop 1 ::
              entries.map Entry.shown := by
            intro hpath
            have := hperm.mem_iff.mpr (mem_outside.mpr ⟨List.mem_cons_self, hpath⟩)
            exact (mem_outside.mp this).1
          have hpath : entry.path ∈ before := by
            by_contra hpath
            rcases List.mem_cons.mp (hsees hpath) with heq | hmem
            · have := congrArg List.length heq
              omega
            · exact hunshown hmem
          rw [outside_cons, outside_cons, if_pos hpath] at hlength hsize
          have hlost : entry.path.drop 1 ∈ before := by
            by_contra hlost
            rw [if_neg hlost, List.length_cons] at hlength
            omega
          rw [if_pos hlost] at hsize
          refine ⟨List.forall_mem_cons.mpr ⟨hplain, hrest.resolve_right (by omega)⟩, ?_⟩
          intro other hother _
          cases hother
          exact ⟨hpath, hlost⟩
        · -- its quotes or its arrow are still there
          have hodd := (shown_odd hplain).2
          have hdrop : (entry.shown.drop 1).length = entry.shown.length - 1 := List.length_drop
          rw [outside_cons, outside_cons, if_neg (shown_foreign hbefore hplain).2] at hsize
          split at hsize
          · simp only [size, List.map_cons, List.sum_cons] at hsize hsmaller
            omega
          · simp only [size, List.map_cons, List.sum_cons] at hsize hsmaller
            omega
      · obtain ⟨-, -, hall⟩ := @shown_sizes before (entry :: entries) hbefore
        rw [reports, if_neg hx, ← List.map_cons] at hsize
        refine ⟨hall.resolve_right (by omega), ?_⟩
        intro other hother hother32
        cases hother
        exact absurd hother32 hx

theorem outside_reports (h : Legible before entries) :
    outside before (reports entries) = outside before (entries.map Entry.path) := by
  cases entries with
  | nil => rfl
  | cons entry entries =>
      obtain ⟨hentry, hentries⟩ := List.forall_mem_cons.mp h.plain
      have hrest : entries.map Entry.shown = entries.map Entry.path :=
        List.map_congr_left fun other hother => shown_plain (hentries other hother)
      rw [reports, List.map_cons, outside_cons, outside_cons, hrest, shown_plain hentry]
      by_cases hx : entry.x = 32
      · obtain ⟨hpath, hlost⟩ := h.first entry rfl hx
        rw [if_pos hx, if_pos hlost, if_pos hpath]
      · rw [if_neg hx]

theorem outside_nil (paths : List Points) : outside [] paths = paths := by
  simp [outside]

theorem reports_length : (reports entries).length = (entries.map Entry.path).length := by
  cases entries <;> simp [reports]

end Counting

variable {checkout : Checkout} {status : GitStatus} {entry : Entry} {dir : Points}

-- What inspect_repository reports of a repository of git, if it raises nothing.
theorem dirtyFiles_eq {expectedBranch expectedWorktree : Option Points}
    {report : RepositorySafetyReport} (hgit : checkout.isGit = true)
    (h : inspectRepository checkout expectedBranch expectedWorktree = .ok report) :
    report.dirtyFiles = reports checkout.status.lines := by
  rw [inspectRepository] at h
  dsimp only at h
  split_ifs at h
  cases h
  exact files_reports checkout

theorem listChangedFiles_eq {before : List Points} (hgit : checkout.isGit = true) :
    listChangedFiles checkout before = outside before (reports checkout.status.lines) := by
  rw [listChangedFiles, if_pos hgit, files_reports, outside]

theorem reported_iff :
    (∀ path, path ∈ reports status.entries ↔ path ∈ status.paths) ↔ Legible [] status.entries := by
  constructor
  · intro h
    have hsub : status.paths ⊆ reports status.entries := fun path hpath => (h path).mpr hpath
    have hperm : (reports status.entries).Perm status.paths :=
      ((status.nodup.subperm hsub).perm_of_length_le reports_length.le).symm
    refine legible_of_perm (by simp) status.nodup ?_
    rw [outside_nil, outside_nil]
    exact hperm
  · intro h path
    have := outside_reports h
    rw [outside_nil, outside_nil] at this
    rw [this]
    rfl

theorem lines_eq (h : Uncollapsed status) : status.lines = status.entries := by
  have hprinted : status.entries.map status.printed = status.entries.map id := by
    refine List.map_congr_left fun entry hentry => ?_
    unfold GitStatus.printed
    split
    next => rfl
    next dir hdir =>
      rw [h entry hentry] at hdir
      cases hdir
  rw [GitStatus.lines, hprinted, List.map_id, List.Nodup.dedup (.of_map _ status.nodup)]

-- A directory that stands for its files is reported as it is printed.
theorem untrackedDir_reported (hentry : entry ∈ status.entries)
    (h : status.untrackedDir entry = some dir) : gitName dir ∈ reports status.lines := by
  obtain ⟨⟨hx, hy⟩, -⟩ := directory_last h
  have hprinted : (status.printed entry).x = 63 ∧ (status.printed entry).shown = gitName dir := by
    unfold GitStatus.printed
    split
    next hnone =>
      rw [h] at hnone
      cases hnone
    next other hother =>
      obtain rfl := Option.some.inj (h.symm.trans hother)
      have hsource : entry.source = none :=
        Option.not_isSome_iff_eq_none.mp (by rw [entry.renamed, hx, hy]; decide)
      exact ⟨hx, shown_unrenamed hsource⟩
  have hline : status.printed entry ∈ status.lines :=
    List.mem_dedup.mpr (List.mem_map_of_mem hentry)
  rw [← hprinted.2]
  cases hlines : status.lines with
  | nil => simp [hlines] at hline
  | cons first rest =>
      rw [hlines] at hline
      rcases List.mem_cons.mp hline with heq | hmem
      · rw [reports, ← heq, if_neg (by rw [hprinted.1]; decide)]
        exact List.mem_cons_self
      · exact List.mem_cons_of_mem _ (List.mem_map_of_mem hmem)

theorem quoted_of_path (h : status.untrackedDir entry = some dir) {paths : List Points}
    (hfiles : ∀ path ∈ paths, path.getLast? ≠ some 47) (hmem : gitName dir ∈ paths) :
    ¬dir.all isPlain = true := fun hplain =>
  hfiles _ (gitName_plain hplain ▸ hmem) (directory_last h).2

theorem paths_files : ∀ path ∈ status.paths, path.getLast? ≠ some 47 := by
  intro path hpath
  obtain ⟨entry, hentry, rfl⟩ := List.mem_map.mp hpath
  exact status.files entry hentry

-- Where no directory stands for its files, they are exact exactly if both outputs of git are
-- legible: the first without a line that loses a blank, the second with such a line only where
-- both of its readings were dirty before. A directory that does is no dirty file, unless its
-- name is printed in quotes and a dirty file has the name that is printed.
theorem changedFiles_exact (before after : Checkout)
    (expectedBranch expectedWorktree : Option Points) (report : RepositorySafetyReport)
    (hbefore : before.isGit = true) (hafter : after.isGit = true)
    (h : inspectRepository before expectedBranch expectedWorktree = .ok report) :
    (Uncollapsed before.status ∧ Uncollapsed after.status →
      (Exact report.dirtyFiles (listChangedFiles after report.dirtyFiles) before.status.paths
          after.status.paths ↔
        Legible [] before.status.entries ∧ Legible before.status.paths after.status.entries)) ∧
      (Exact report.dirtyFiles (listChangedFiles after report.dirtyFiles) before.status.paths
          after.status.paths →
        (∀ entry ∈ before.status.entries, ∀ dir ∈ before.status.untrackedDir entry,
          ¬dir.all isPlain = true ∧ gitName dir ∈ before.status.paths) ∧
        ∀ entry ∈ after.status.entries, ∀ dir ∈ after.status.untrackedDir entry,
          ¬dir.all isPlain = true ∧ gitName dir ∈ before.status.paths ++ after.status.paths) := by
  rw [dirtyFiles_eq hbefore h, listChangedFiles_eq hafter]
  constructor
  · rintro ⟨hfirst, hsecond⟩
    rw [lines_eq hfirst, lines_eq hsecond]
    have hreports : Legible [] before.status.entries →
        reports before.status.entries = before.status.paths := by
      intro hlegible
      have := outside_reports hlegible
      rwa [outside_nil, outside_nil] at this
    constructor
    · rintro ⟨hdirty, hchanged, honce⟩
      have hlegible := reported_iff.mp hdirty
      rw [hreports hlegible] at hchanged honce
      have hplain : ∀ path ∈ before.status.paths, path.all isPlain = true := by
        intro path hpath
        obtain ⟨entry, hentry, rfl⟩ := List.mem_map.mp hpath
        exact (hlegible.plain entry hentry).2
      refine ⟨hlegible, legible_of_perm hplain after.status.nodup ?_⟩
      refine (List.perm_ext_iff_of_nodup honce (after.status.nodup.filter _)).mpr fun path => ?_
      rw [hchanged]
      exact mem_outside.symm
    · rintro ⟨hlegible, hrest⟩
      rw [hreports hlegible, outside_reports hrest]
      exact ⟨fun path => Iff.rfl, fun path => mem_outside, after.status.nodup.filter _⟩
  · rintro ⟨hdirty, hchanged, -⟩
    constructor
    · intro entry hentry dir hdir
      have hmem := (hdirty _).mp (untrackedDir_reported hentry hdir)
      exact ⟨quoted_of_path hdir paths_files hmem, hmem⟩
    · intro entry hentry dir hdir
      have hreported := untrackedDir_reported hentry hdir
      have hmem : gitName dir ∈ before.status.paths ++ after.status.paths := by
        by_cases hknown : gitName dir ∈ reports before.status.lines
        · exact List.mem_append_left _ ((hdirty _).mp hknown)
        · exact List.mem_append_right _ ((hchanged _).mp (mem_outside.mpr ⟨hreported, hknown⟩)).1
      refine ⟨quoted_of_path hdir (fun path hpath => ?_) hmem, hmem⟩
      rcases List.mem_append.mp hpath with hpath | hpath
      · exact paths_files path hpath
      · exact paths_files path hpath

-- A path with the letters of its status, neither of them for a renamed one.
def plainEntry (x y : Nat) (path : Points) (h : path ≠ [] := by decide)
    (hletters : x ∈ statusLetters ∧ y ∈ statusLetters := by decide)
    (hchanged : x ≠ 32 ∨ y ≠ 32 := by decide)
    (hrenamed : false = (isRenamed x || isRenamed y) := by decide) : Entry where
  x := x
  y := y
  path := path
  source := none
  letters := hletters
  changed := hchanged
  path_ne := h
  source_ne := by simp
  renamed := hrenamed

def checkoutOf (tracked : List Points) (entry : Entry)
    (hfile : entry.path.getLast? ≠ some 47 := by decide) : Checkout where
  path := points "/repo"
  resolve := id
  head := { returncode := 0, stdout := points "main\n" }
  status := {
    tracked := tracked, entries := [entry], nodup := by simp
    files := List.forall_mem_singleton.mpr hfile }

-- An untracked file beside a tracked one, before and after.
theorem changedFiles_exact_untracked :
    let checkout := checkoutOf [points "src/b.py"] (plainEntry 63 63 (points "src/a.py"))
    Exact [points "src/a.py"] (listChangedFiles checkout [points "src/a.py"]) checkout.status.paths
      checkout.status.paths := by
  intro checkout
  have h : inspectRepository checkout none none = .ok {
      path := points "/repo", exists_ := true, isGit := true, branch := some (points "main")
      dirty := true, dirtyFiles := [points "src/a.py"], expectedBranch := none, branchOk := true } := by
    rfl
  have hlegible : ∀ before, Legible before checkout.status.entries := by
    refine fun before => ⟨by decide, fun entry hentry hx => ?_⟩
    cases hentry
    exact absurd hx (by decide)
  exact ((changedFiles_exact checkout checkout none none _ rfl rfl h).1
    ⟨by decide, by decide⟩).mpr ⟨hlegible _, hlegible _⟩

-- A directory with nothing tracked in it stands for its file.
example : (checkoutOf [points "b.py"] (plainEntry 63 63 (points "src/a.py"))).files =
    [points "src/"] := by decide +kernel

-- The line " M src/a.py" is the first one.
theorem first_line_shortened :
    let checkout := checkoutOf [points "src/a.py"] (plainEntry 32 77 (points "src/a.py"))
    (inspectRepository checkout none none).toOption.map RepositorySafetyReport.dirtyFiles =
        some [points "rc/a.py"] ∧
      ¬Exact [points "rc/a.py"] (listChangedFiles checkout [points "rc/a.py"])
        checkout.status.paths checkout.status.paths := by
  intro checkout
  refine ⟨by decide +kernel, fun h => ?_⟩
  have := (h.dirty (points "rc/a.py")).mp (by simp)
  revert this
  decide +kernel

end JoyMesh.CodingWorker.Safety
