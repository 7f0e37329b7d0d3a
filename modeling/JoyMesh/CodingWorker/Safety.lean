import Mathlib
import JoyMesh.Library.Text

namespace JoyMesh.CodingWorker.Safety

open JoyMesh.Library

section Git

-- os.fsencode, where a lone surrogate stands for a byte that is no UTF-8.
def fsencodeChar (c : Nat) : List Nat :=
  if c < 0x80 then [c]
  else if c < 0x800 then [0xc0 + c / 64, 0x80 + c % 64]
  else if 0xdc80 ≤ c ∧ c < 0xdd00 then [c - 0xdc00]
  else if c < 0x10000 then [0xe0 + c / 4096, 0x80 + c / 64 % 64, 0x80 + c % 64]
  else [0xf0 + c / 262144, 0x80 + c / 4096 % 64, 0x80 + c / 64 % 64, 0x80 + c % 64]

def escapeLetter (b : Nat) : Option Nat :=
  if b = 34 ∨ b = 92 then some b else (points "abtnvfr")[b - 7]?.filter fun _ => 7 ≤ b

-- A byte in a string literal of C.
def escapeByte (b : Nat) : Points :=
  match escapeLetter b with
  | some letter => [92, letter]
  | none =>
      if 32 ≤ b ∧ b ≤ 126 then [b] else [92, 48 + b / 64 % 8, 48 + b / 8 % 8, 48 + b % 8]

def isPlain (c : Nat) : Bool := 33 ≤ c && c ≤ 126 && c != 34 && c != 92

-- How git prints a path.
def gitName (path : Points) : Points :=
  if path.all isPlain then path
  else 34 :: (path.flatMap fsencodeChar).flatMap escapeByte ++ [34]

def statusLetters : Points := points " MTADRCU?!"

-- R for a renamed path and C for a copied one.
def isRenamed (letter : Nat) : Bool := letter == 82 || letter == 67

-- A path that is dirty, with the two letters of its status.
structure Entry where
  x : Nat
  y : Nat
  path : Points
  source : Option Points := none
  letters : x ∈ statusLetters ∧ y ∈ statusLetters
  changed : x ≠ 32 ∨ y ≠ 32
  path_ne : path ≠ []
  source_ne : ∀ path ∈ source, path ≠ []
  renamed : source.isSome = (isRenamed x || isRenamed y)
deriving DecidableEq

def Entry.shown (entry : Entry) : Points :=
  (match entry.source with
    | none => []
    | some source => gitName source ++ points " -> ") ++ gitName entry.path

def Entry.line (entry : Entry) : Points := entry.x :: entry.y :: 32 :: entry.shown

-- The directories above a path, from the topmost on.
def directories (path : Points) : List Points :=
  path.inits.filter fun dir => dir.getLast? = some 47

-- The state of a working tree: the files of the index, and those that are dirty.
structure GitStatus where
  tracked : List Points := []
  entries : List Entry
  nodup : (entries.map Entry.path).Nodup
  files : ∀ entry ∈ entries, entry.path.getLast? ≠ some 47 := by decide

def GitStatus.paths (status : GitStatus) : List Points := status.entries.map Entry.path

-- The topmost directory of an untracked file in which no file is tracked.
def GitStatus.untrackedDir (status : GitStatus) (entry : Entry) : Option Points :=
  if entry.x = 63 ∧ entry.y = 63 then
    (directories entry.path).find? fun dir => !status.tracked.any dir.isPrefixOf
  else none

theorem directory_last {status : GitStatus} {entry : Entry} {dir : Points}
    (h : status.untrackedDir entry = some dir) :
    (entry.x = 63 ∧ entry.y = 63) ∧ dir.getLast? = some 47 := by
  unfold GitStatus.untrackedDir at h
  split at h
  next hx =>
    have hmem := List.mem_of_find?_eq_some h
    exact ⟨hx, by simpa using (List.mem_filter.mp hmem).2⟩
  next => cases h

-- What is printed for a dirty file: such a directory stands for all that is in it.
def GitStatus.printed (status : GitStatus) (entry : Entry) : Entry :=
  match h : status.untrackedDir entry with
  | none => entry
  | some dir =>
      { entry with
        path := dir
        path_ne := by
          rintro rfl
          simpa using (directory_last h).2 }

def GitStatus.lines (status : GitStatus) : List Entry := (status.entries.map status.printed).dedup

-- git status --porcelain, with --untracked-files=normal as it is by default
def GitStatus.porcelain (status : GitStatus) : Points :=
  status.lines.flatMap fun entry => entry.line ++ [10]

end Git

structure Completed where
  returncode : Int
  stdout : Points

-- What is found at the path of a repository, and what git answers there.
structure Checkout where
  path : Points
  resolve : Points → Points
  exists_ : Bool := true
  isDir : Bool := true
  isGit : Bool := true
  head : Completed
  status : GitStatus

def Checkout.git (checkout : Checkout) (args : List String) : Completed :=
  if args = ["status", "--porcelain"] then
    { returncode := 0, stdout := checkout.status.porcelain }
  else checkout.head

def gitStdout (checkout : Checkout) (args : List String) : Points :=
  if (checkout.git args).returncode ≠ 0 then [] else strip (checkout.git args).stdout

structure RepositorySafetyError where
  code : String
  message : Points

structure RepositorySafetyReport where
  path : Points
  exists_ : Bool
  isGit : Bool
  branch : Option Points
  dirty : Bool
  dirtyFiles : List Points
  expectedBranch : Option Points
  branchOk : Bool
deriving DecidableEq

-- tuple(line[3:] for line in status.splitlines() if line.strip())
def statusFiles (status : Points) : List Points :=
  ((splitlines status).filter fun line => !(strip line).isEmpty).map (List.drop 3)

def Checkout.files (checkout : Checkout) : List Points :=
  statusFiles (gitStdout checkout ["status", "--porcelain"])

def inspectRepository (checkout : Checkout) (expectedBranch expectedWorktree : Option Points) :
    Except RepositorySafetyError RepositorySafetyReport :=
  let worktree := expectedWorktree.filter (· ≠ [])
  if worktree.any fun worktree => checkout.resolve checkout.path ≠ checkout.resolve worktree then
    .error {
      code := "worktree_mismatch"
      message := points "repository path does not match expected worktree" }
  else if !checkout.exists_ then
    .error {
      code := "repository_missing", message := points "repository missing: " ++ checkout.path }
  else if !checkout.isDir then
    .error { code := "repository_not_dir", message := points "not a directory: " ++ checkout.path }
  else
    let branch := if checkout.isGit then
      some (gitStdout checkout ["rev-parse", "--abbrev-ref", "HEAD"]) else none
    let dirtyFiles := if checkout.isGit then checkout.files else []
    let branchOk := expectedBranch.isNone || branch == expectedBranch
    if expectedBranch.isSome && !branchOk then
      .error {
        code := "branch_mismatch"
        message := points "expected branch " ++ expectedBranch.getD [] ++ points ", found " ++
          branch.getD (points "None") }
    else
      .ok {
        path := checkout.resolve checkout.path
        exists_ := true
        isGit := checkout.isGit
        branch
        dirty := !dirtyFiles.isEmpty
        dirtyFiles
        expectedBranch
        branchOk }

def listChangedFiles (checkout : Checkout) (before : List Points) : List Points :=
  if checkout.isGit then checkout.files.filter fun item => !before.contains item else []

section Output

variable {entry : Entry} {path text : Points} {c : Nat} {lines : List Points}

def Printable (text : Points) : Prop := ∀ c ∈ text, 32 ≤ c ∧ c ≤ 126

instance (text : Points) : Decidable (Printable text) :=
  inferInstanceAs (Decidable (∀ c ∈ text, 32 ≤ c ∧ c ≤ 126))

theorem printable_append {first second : Points} :
    Printable (first ++ second) ↔ Printable first ∧ Printable second :=
  List.forall_mem_append

theorem printable_unbroken (h : Printable text) : Unbroken text := by
  intro c hc
  have := h c hc
  simp only [isLineBreak, Bool.or_eq_false_iff, Bool.and_eq_false_iff, decide_eq_false_iff_not,
    beq_eq_false_iff_ne]
  omega

theorem isPlain_iff : isPlain c = true ↔ 33 ≤ c ∧ c ≤ 126 ∧ c ≠ 34 ∧ c ≠ 92 := by
  simp [isPlain, and_assoc]

theorem isSpace_visible (h : 33 ≤ c ∧ c ≤ 126) : isSpace c = false := by
  simp only [isSpace, Bool.or_eq_false_iff, Bool.and_eq_false_iff, decide_eq_false_iff_not,
    beq_eq_false_iff_ne]
  omega

theorem escapeByte_printable (b : Nat) : Printable (escapeByte b) := by
  rw [escapeByte]
  cases hletter : escapeLetter b with
  | some letter =>
      have hprintable : 32 ≤ letter ∧ letter ≤ 126 := by
        rw [escapeLetter] at hletter
        split at hletter
        · cases hletter
          omega
        · have hmem := List.mem_of_getElem? (Option.filter_eq_some_iff.mp hletter).1
          exact (by decide : Printable (points "abtnvfr")) letter hmem
      intro c hc
      rcases List.mem_cons.mp hc with rfl | hc
      · decide
      · rwa [List.mem_singleton.mp hc]
  | none =>
      dsimp only
      split
      · intro c hc
        rwa [List.mem_singleton.mp hc]
      · intro c hc
        simp only [List.mem_cons, List.not_mem_nil, or_false] at hc
        omega

theorem gitName_printable (path : Points) : Printable (gitName path) := by
  rw [gitName]
  split
  next h =>
    intro c hc
    have := isPlain_iff.mp (List.all_eq_true.mp h c hc)
    omega
  next =>
    intro c hc
    simp only [List.mem_cons, List.mem_append, List.mem_flatMap, List.cons_append,
      List.not_mem_nil, or_false] at hc
    rcases hc with rfl | ⟨b, -, hc⟩ | rfl
    · decide
    · exact escapeByte_printable b c hc
    · decide

theorem gitName_plain (h : path.all isPlain = true) : gitName path = path := if_pos h

theorem gitName_ne (h : path ≠ []) : gitName path ≠ [] := by
  rw [gitName]
  split
  · exact h
  · simp

theorem gitName_last : ∀ c ∈ (gitName path).getLast?, isSpace c = false := by
  rw [gitName]
  split
  next h =>
    intro c hc
    have := isPlain_iff.mp (List.all_eq_true.mp h c (List.mem_of_getLast? hc))
    exact isSpace_visible (by omega)
  next =>
    intro c hc
    rw [List.getLast?_concat] at hc
    cases hc
    decide

theorem shown_printable : Printable entry.shown := by
  rw [Entry.shown, printable_append]
  refine ⟨?_, gitName_printable entry.path⟩
  cases entry.source with
  | none => simp [Printable]
  | some source =>
      exact printable_append.mpr ⟨gitName_printable source, by decide⟩

theorem line_printable : Printable entry.line := by
  have hletters : Printable statusLetters := by decide
  intro c hc
  rcases List.mem_cons.mp hc with rfl | hc
  · exact hletters _ entry.letters.1
  rcases List.mem_cons.mp hc with rfl | hc
  · exact hletters _ entry.letters.2
  rcases List.mem_cons.mp hc with rfl | hc
  · decide
  · exact shown_printable c hc

theorem line_last : ∀ c ∈ entry.line.getLast?, isSpace c = false := by
  have hname : ∃ start, entry.line = start ++ gitName entry.path := by
    cases hsource : entry.source with
    | none => exact ⟨[entry.x, entry.y, 32], by simp [Entry.line, Entry.shown, hsource]⟩
    | some source =>
        exact ⟨entry.x :: entry.y :: 32 :: (gitName source ++ points " -> "),
          by simp [Entry.line, Entry.shown, hsource]⟩
  obtain ⟨start, hstart⟩ := hname
  rw [hstart, List.getLast?_append_of_ne_nil _ (gitName_ne entry.path_ne)]
  exact gitName_last

-- The lines of a text, without a line feed after the last one.
def joined : List Points → Points
  | [] => []
  | [line] => line
  | line :: other :: lines => line ++ 10 :: joined (other :: lines)

theorem flatMap_joined (h : lines ≠ []) :
    (lines.flatMap fun line => line ++ [10]) = joined lines ++ [10] := by
  induction lines with
  | nil => exact absurd rfl h
  | cons line lines ih =>
      cases lines with
      | nil => simp [joined]
      | cons other lines =>
          rw [List.flatMap_cons, ih (by simp), joined]
          simp

theorem splitlines_joined {lines : List Points} (h : ∀ line ∈ lines, Printable line ∧ line ≠ []) :
    splitlines (joined lines) = lines := by
  induction lines with
  | nil => rfl
  | cons line lines ih =>
      obtain ⟨⟨hline, hne⟩, hlines⟩ := List.forall_mem_cons.mp h
      cases lines with
      | nil => exact splitlines_unbroken (printable_unbroken hline) hne
      | cons other lines =>
          rw [joined, splitlines_append_newline (printable_unbroken hline), ih hlines]

theorem joined_last (h : ∀ line ∈ lines, line ≠ [] ∧ ∀ c ∈ line.getLast?, isSpace c = false) :
    ∀ c ∈ (joined lines).getLast?, isSpace c = false := by
  induction lines with
  | nil => simp [joined]
  | cons line lines ih =>
      obtain ⟨⟨hne, hline⟩, hlines⟩ := List.forall_mem_cons.mp h
      cases lines with
      | nil => exact hline
      | cons other lines =>
          have hjoined : joined (other :: lines) ≠ [] := by
            have := (hlines other List.mem_cons_self).1
            cases lines <;> simp [joined, this]
          rw [joined, List.getLast?_append_of_ne_nil _ (by simp),
            List.getLast?_cons_of_ne_nil hjoined]
          exact ih hlines

-- What is reported for the entries: the first line has lost a blank at its start.
def reports : List Entry → List Points
  | [] => []
  | entry :: entries =>
      (if entry.x = 32 then entry.shown.drop 1 else entry.shown) :: entries.map Entry.shown

def firstLine (entry : Entry) : Points := if entry.x = 32 then entry.line.drop 1 else entry.line

theorem letter_visible (h : c ∈ statusLetters) (hc : c ≠ 32) : isSpace c = false :=
  (by decide : ∀ c ∈ statusLetters, c ≠ 32 → isSpace c = false) c h hc

theorem joined_cons {line : Points} :
    joined ((c :: line) :: lines) = c :: joined (line :: lines) := by
  cases lines <;> rfl

theorem firstLine_printable : Printable (firstLine entry) := by
  rw [firstLine]
  split
  · exact fun c hc => line_printable c (List.mem_of_mem_drop hc)
  · exact line_printable

theorem firstLine_ne : firstLine entry ≠ [] := by
  rw [firstLine]
  split <;> simp [Entry.line]

theorem firstLine_last : ∀ c ∈ (firstLine entry).getLast?, isSpace c = false := by
  rw [firstLine]
  split
  · exact line_last
  · exact line_last

theorem firstLine_first (rest : Points) : ∀ c ∈ (firstLine entry ++ rest).head?, isSpace c = false := by
  rw [firstLine]
  split
  next h =>
    intro c hc
    cases hc
    exact letter_visible entry.letters.2 (entry.changed.resolve_left (by simp [h]))
  next h =>
    intro c hc
    cases hc
    exact letter_visible entry.letters.1 h

theorem joined_append {line : Points} {lines : List Points} :
    ∃ rest, joined (line :: lines) = line ++ rest := by
  cases lines with
  | nil => exact ⟨[], by simp [joined]⟩
  | cons other lines => exact ⟨_, rfl⟩

theorem strip_porcelain {entries : List Entry} :
    strip ((entry :: entries).flatMap fun entry => entry.line ++ [10]) =
      joined (firstLine entry :: entries.map Entry.line) := by
  have hflat : ((entry :: entries).flatMap fun entry => entry.line ++ [10]) =
      joined (entry.line :: entries.map Entry.line) ++ [10] := by
    rw [← flatMap_joined (by simp), ← List.map_cons, List.flatMap_map]
  have hstrip : strip (joined (firstLine entry :: entries.map Entry.line) ++ [10]) =
      joined (firstLine entry :: entries.map Entry.line) := by
    refine strip_edges ?_ (joined_last ?_) (by decide)
    · obtain ⟨rest, hrest⟩ := @joined_append (firstLine entry) (entries.map Entry.line)
      rw [hrest]
      exact firstLine_first rest
    · simp only [List.forall_mem_cons, List.forall_mem_map]
      exact ⟨⟨firstLine_ne, firstLine_last⟩, fun other _ => ⟨by simp [Entry.line], line_last⟩⟩
  rw [hflat, ← hstrip]
  by_cases hx : entry.x = 32
  · rw [firstLine, if_pos hx, Entry.line, List.drop_one, List.tail_cons, joined_cons,
      List.cons_append, strip_cons_space (by rw [hx]; decide)]
  · rw [firstLine, if_neg hx]

theorem files_reports (checkout : Checkout) : checkout.files = reports checkout.status.lines := by
  have hout : gitStdout checkout ["status", "--porcelain"] = strip checkout.status.porcelain := rfl
  rw [Checkout.files, hout, GitStatus.porcelain]
  cases checkout.status.lines with
  | nil => rfl
  | cons entry entries =>
      have hlines : ∀ line ∈ firstLine entry :: entries.map Entry.line, line ≠ [] ∧
          Printable line ∧ ∀ c ∈ line.getLast?, isSpace c = false := by
        simp only [List.forall_mem_cons, List.forall_mem_map]
        exact ⟨⟨firstLine_ne, firstLine_printable, firstLine_last⟩,
          fun other _ => ⟨by simp [Entry.line], line_printable, line_last⟩⟩
      have hsplit := @splitlines_joined (firstLine entry :: entries.map Entry.line)
        fun line hline => ⟨(hlines line hline).2.1, (hlines line hline).1⟩
      have hfilter : (firstLine entry :: entries.map Entry.line).filter
          (fun line => !(strip line).isEmpty) = firstLine entry :: entries.map Entry.line := by
        rw [List.filter_eq_self]
        intro line hline
        simp [strip_ne (hlines line hline).1 (hlines line hline).2.2]
      rw [strip_porcelain, statusFiles, hsplit, hfilter, List.map_cons, List.map_map, reports]
      congr 1
      rw [firstLine]
      split <;> rfl

end Output

end JoyMesh.CodingWorker.Safety
