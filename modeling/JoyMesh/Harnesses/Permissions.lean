import Mathlib.Data.List.TakeWhile
import JoyMesh.Harnesses.TaskDelivery

namespace JoyMesh.Harnesses

open JoyMesh.Connectors JoyMesh.Library JoyMesh.Routing
open JoyMesh.Library.Grammar

section Definitions

-- The options that the builders add to let a harness write without asking.
def writeOptions : List String :=
  ["--auto", "--force", "--yolo", "--allow-all-tools", "--yes", "--dangerously-skip-permissions",
    "--auto-approve"]

def directoryOptions : List String := ["--add-dir", "--include-directories"]

def EnablesWriting (setting : String × Option String) : Prop :=
  setting.1 ∈ writeOptions ∨ setting = ("--sandbox", some "workspace-write") ∨
    setting = ("--permission-mode", some "bypassPermissions")

def RestrictsWriting (setting : String × Option String) : Prop :=
  setting = ("--permission-mode", some "plan") ∨ setting = ("--mode", some "plan") ∨
    setting = ("--readonly", none)

instance (setting : String × Option String) : Decidable (EnablesWriting setting) := by
  delta EnablesWriting
  infer_instance

instance (setting : String × Option String) : Decidable (RestrictsWriting setting) := by
  delta RestrictsWriting
  infer_instance

-- A token such as `--option=value` holds the value of its option itself.
def unjoined (setting : String × Option String) : String × Option String :=
  match setting.1.toList.dropWhile (· != '=') with
  | [] => setting
  | _ :: value =>
      (String.ofList (setting.1.toList.takeWhile (· != '=')), some (String.ofList value))

variable {machine : Machine} {lower : String → String}

-- The options of a command line, with their values.
def Adapter.settings (options : String → Bool) (adapter : Adapter machine lower)
    (spec : LaunchSpec) : List (String × Option String) :=
  (Grammar.settings ((adapter.grammar options).read .any (adapter.commandLine spec))).map unjoined

-- The launch of a read-only request differs from the one of the default mode, has an option
-- that restricts writing, and has none that enables it or grants another directory.
structure Adapter.ReadOnlyHonoured (options : String → Bool) (adapter : Adapter machine lower)
    (request : RunRequest) (spec : LaunchSpec) : Prop where
  differs : ∀ other, adapter.buildLaunchSpec { request with permissionMode := .default } =
    .ok other → other.argv ≠ spec.argv
  restricts : ∃ setting ∈ adapter.settings options spec, RestrictsWriting setting
  closed : ∀ setting ∈ adapter.settings options spec, ¬EnablesWriting setting
  directories : ∀ setting ∈ adapter.settings options spec, setting.1 ∉ directoryOptions

-- The task is read as an option that opens what the mode closes.
def Opens (task : String) : Prop :=
  EnablesWriting (unjoined (task, none)) ∨ (unjoined (task, none)).1 ∈ directoryOptions

-- The adapters that honour the mode, and the requests for which they do.
def Adapter.Restricting (request : RunRequest) : Adapter machine lower → Prop
  | .documented .grok _ => True
  | .documented .continueCli _ => True
  | .documented .cursor _ => ¬Opens request.task
  | .documented .claudeCode _ =>
      request.additionalWritableDirectories = [] ∧ request.task ≠ "--" ∧ ¬Opens request.task
  | _ => False

end Definitions

section Pieces

variable {g : Grammar String} {pieces : List (Piece String)} {request : RunRequest} {name : String}
  {value : Option String}

-- What a piece sets, if it sets something, does not open anything.
def Harmless (piece : Piece String) : Bool :=
  piece.setting.all fun setting =>
    decide (¬EnablesWriting (unjoined setting) ∧ (unjoined setting).1 ∉ directoryOptions)

theorem unjoined_of_plain (h : '=' ∉ name.toList) : unjoined (name, value) = (name, value) := by
  have hrest : name.toList.dropWhile (· != '=') = [] :=
    List.dropWhile_eq_nil_iff.mpr fun letter hletter =>
      bne_iff_ne.mpr (ne_of_mem_of_not_mem hletter h)
  simp [unjoined, hrest]

theorem mem_unjoined {settings : List (String × Option String)} (h : '=' ∉ name.toList)
    (hmem : (name, value) ∈ settings) : (name, value) ∈ settings.map unjoined :=
  List.mem_map.mpr ⟨(name, value), hmem, unjoined_of_plain h⟩

-- The options with which a setting opens what the mode closes, whatever their values.
def openings : List String :=
  "--sandbox" :: "--permission-mode" :: (writeOptions ++ directoryOptions)

theorem mem_openings {setting : String × Option String}
    (h : EnablesWriting setting ∨ setting.1 ∈ directoryOptions) : setting.1 ∈ openings := by
  rcases h with (hmem | rfl | rfl) | hmem
  · simp [openings, hmem]
  · simp [openings]
  · simp [openings]
  · simp [openings, hmem]

theorem harmless_flag (h : '=' ∉ name.toList ∧ name ∉ openings) (value : String) :
    Harmless (.flag name value) = true := by
  refine decide_eq_true ?_
  rw [unjoined_of_plain h.1]
  exact not_or.mp fun hopens => h.2 (mem_openings hopens)

theorem harmless_resume : ∀ found, Harmless (.flag "--resume" found) = true :=
  harmless_flag (by decide)

theorem harmless_model : ∀ found, Harmless (.flag "--model" found) = true :=
  harmless_flag (by decide)

theorem harmless_flagPiece (h : ∀ found, Harmless (.flag name found) = true) :
    ∀ piece ∈ flagPiece name value, Harmless piece = true := by
  intro piece hpiece
  obtain ⟨found, rfl⟩ := mem_flagPiece hpiece
  exact h found

theorem harmless_settings (h : ∀ piece ∈ pieces, Harmless piece = true) :
    ∀ setting ∈ (pieces.filterMap Piece.setting).map unjoined,
      ¬EnablesWriting setting ∧ setting.1 ∉ directoryOptions := by
  intro setting hsetting
  obtain ⟨found, hfound, rfl⟩ := List.mem_map.mp hsetting
  obtain ⟨piece, hpiece, hset⟩ := List.mem_filterMap.mp hfound
  have hharmless := h piece hpiece
  rw [Harmless, hset] at hharmless
  exact of_decide_eq_true hharmless

end Pieces

section Settings

variable {g : Grammar String} {layout : Layout} {name task : String}

theorem Layout.settings_option (hplaces : layout.Places g (.option name)) :
    Grammar.settings (g.read .any (layout.arguments task)) =
      (layout.before ++ Piece.flag name task :: layout.rest).filterMap Piece.setting := by
  obtain ⟨hoption, hname, hbefore, hrest⟩ := hplaces
  have hfits : ∀ piece ∈ layout.before ++ Piece.flag name task :: layout.rest,
      g.Fits piece = true := by
    refine forall_append (fun piece hpiece => (quiet_iff.mp (hbefore piece hpiece)).1) ?_
    rintro piece (_ | ⟨_, hpiece⟩)
    · exact hname
    · exact (quiet_iff.mp (hrest piece hpiece)).1
  have hwritten : layout.arguments task =
      (layout.before ++ Piece.flag name task :: layout.rest).flatMap Piece.written := by
    simp [Layout.arguments, hoption, Piece.written]
  rw [hwritten, settings_pieces hfits]

-- A prompt behind the options only adds a setting where it is read as one.
theorem Layout.settings_last {words : Nat} (hplaces : layout.Places g (.operand words))
    (hrest : layout.rest = []) :
    Grammar.settings (g.read .any (layout.arguments task)) =
      layout.before.filterMap Piece.setting ++
        if g.role .any task = .option then [(task, none)] else [] := by
  obtain ⟨hoption, hfits, -, -⟩ := hplaces
  have hwritten : layout.arguments task = layout.before.flatMap Piece.written ++ [task] := by
    simp [Layout.arguments, hoption, hrest]
  rw [hwritten, settings_read_append (after_pieces hfits), settings_pieces hfits]
  rfl

end Settings

namespace Adapter

variable {machine : Machine} {lower : String → String} {options : String → Bool}
  {request : RunRequest} {spec : LaunchSpec} {executable : String} {cli : DocumentedCLI}
  {task : String}

theorem documented_commandLine
    (h : (documented cli executable : Adapter machine lower).buildLaunchSpec request = .ok spec) :
    (documented cli executable : Adapter machine lower).commandLine spec =
      (cli.layout request).arguments request.task := by
  obtain ⟨other, hother, hline⟩ := documented_slot h request.task
  obtain rfl := Except.ok.inj (h.symm.trans hother)
  exact hline

-- Two launches of which one has more arguments differ.
theorem documented_differs
    (h : (documented cli executable : Adapter machine lower).buildLaunchSpec request = .ok spec)
    (hlength : (cli.arguments { request with permissionMode := .default }).length ≠
      (cli.arguments request).length) :
    ∀ other, (documented cli executable : Adapter machine lower).buildLaunchSpec
      { request with permissionMode := .default } = .ok other → other.argv ≠ spec.argv := by
  intro other hother hargv
  have hsame : (documented cli executable : Adapter machine lower).commandLine other =
      (documented cli executable : Adapter machine lower).commandLine spec := by
    rw [commandLine, commandLine, hargv]
  rw [documented_commandLine h, documented_commandLine hother] at hsame
  rw [DocumentedCLI.arguments_eq, DocumentedCLI.arguments_eq] at hlength
  exact hlength (congrArg List.length hsame)

-- A builder that does not look for the mode builds the same launch.
theorem not_honoured_of_same {adapter : Adapter machine lower}
    (h : adapter.buildLaunchSpec request = .ok spec)
    (hsame : adapter.buildLaunchSpec { request with permissionMode := .default } =
      adapter.buildLaunchSpec request) : ¬adapter.ReadOnlyHonoured options request spec :=
  fun hhonoured => hhonoured.differs spec (hsame.trans h) rfl

theorem grok_length (hmode : request.permissionMode = .readOnly) :
    (DocumentedCLI.grok.arguments { request with permissionMode := .default }).length ≠
      (DocumentedCLI.grok.arguments request).length := by
  simp only [DocumentedCLI.arguments, grokArgv, hmode, List.length_append, List.length_cons,
    List.length_nil]
  omega

theorem continue_length (hmode : request.permissionMode = .readOnly) :
    (DocumentedCLI.continueCli.arguments { request with permissionMode := .default }).length ≠
      (DocumentedCLI.continueCli.arguments request).length := by
  simp only [DocumentedCLI.arguments, continueArgv, hmode, List.length_append, List.length_cons,
    List.length_nil]
  omega

theorem cursor_length (hmode : request.permissionMode = .readOnly) :
    (DocumentedCLI.cursor.arguments { request with permissionMode := .default }).length ≠
      (DocumentedCLI.cursor.arguments request).length := by
  simp only [DocumentedCLI.arguments, cursorArgv, hmode, List.length_append, List.length_cons,
    List.length_nil]
  omega

theorem claude_length (hmode : request.permissionMode = .readOnly) :
    (DocumentedCLI.claudeCode.arguments { request with permissionMode := .default }).length ≠
      (DocumentedCLI.claudeCode.arguments request).length := by
  simp only [DocumentedCLI.arguments, claudeArgv, hmode, List.length_append, List.length_cons,
    List.length_nil]
  omega

theorem documented_honoured
    (h : (documented cli executable : Adapter machine lower).buildLaunchSpec request = .ok spec)
    (hlength : (cli.arguments { request with permissionMode := .default }).length ≠
      (cli.arguments request).length)
    (hrestricts : ∃ setting ∈ (documented cli executable : Adapter machine lower).settings options
      spec, RestrictsWriting setting)
    (hharmless : ∀ setting ∈ (documented cli executable : Adapter machine lower).settings options
      spec, ¬EnablesWriting setting ∧ setting.1 ∉ directoryOptions) :
    (documented cli executable : Adapter machine lower).ReadOnlyHonoured options request spec where
  differs := documented_differs h hlength
  restricts := hrestricts
  closed setting hsetting := (hharmless setting hsetting).1
  directories setting hsetting := (hharmless setting hsetting).2

theorem documented_settings {cli : DocumentedCLI}
    (h : (documented cli executable : Adapter machine lower).buildLaunchSpec request = .ok spec) :
    (documented cli executable : Adapter machine lower).settings options spec =
      (Grammar.settings (((documented cli executable : Adapter machine lower).grammar
        options).read .any ((cli.layout request).arguments request.task))).map unjoined := by
  rw [settings, documented_commandLine h]

theorem grok_honoured (hmode : request.permissionMode = .readOnly)
    (h : (documented .grok executable : Adapter machine lower).buildLaunchSpec request = .ok spec) :
    (documented .grok executable : Adapter machine lower).ReadOnlyHonoured options request spec := by
  have hsettings := @documented_settings _ _ options _ _ _ _ h
  rw [Layout.settings_option (DocumentedCLI.layout_places .grok executable)] at hsettings
  refine documented_honoured h (grok_length hmode) ?_ ?_
  · refine ⟨("--permission-mode", some "plan"), ?_, by decide⟩
    rw [hsettings]
    refine mem_unjoined (by decide) ?_
    simp [DocumentedCLI.layout, hmode, Piece.setting]
  · rw [hsettings]
    refine harmless_settings (forall_append (forall_of_all rfl) ?_)
    rintro piece (_ | ⟨_, hpiece⟩)
    · exact harmless_flag (by decide) _
    · revert piece
      refine forall_append (forall_append (forall_append (forall_of_all rfl)
        (harmless_flagPiece harmless_resume)) ?_) (harmless_flagPiece harmless_model)
      rw [hmode]
      exact forall_of_all rfl

theorem continue_honoured (hmode : request.permissionMode = .readOnly)
    (h : (documented .continueCli executable : Adapter machine lower).buildLaunchSpec request =
      .ok spec) :
    (documented .continueCli executable : Adapter machine lower).ReadOnlyHonoured options request
      spec := by
  have hsettings := @documented_settings _ _ options _ _ _ _ h
  rw [Layout.settings_option (DocumentedCLI.layout_places .continueCli executable)] at hsettings
  refine documented_honoured h (continue_length hmode) ?_ ?_
  · refine ⟨("--readonly", none), ?_, by decide⟩
    rw [hsettings]
    refine mem_unjoined (by decide) ?_
    simp [DocumentedCLI.layout, hmode, Piece.setting]
  · rw [hsettings]
    refine harmless_settings ?_
    rintro piece (_ | ⟨_, hpiece⟩)
    · exact harmless_flag (by decide) _
    · revert piece
      refine forall_append (forall_append ?_ ?_) (harmless_flagPiece harmless_model)
      · split <;> exact forall_of_all rfl
      · rw [hmode]
        exact forall_of_all rfl

-- A joined task is read alike whatever follows it, and any other one as it stands.
theorem unjoined_task (task : String) :
    (∀ value, unjoined (task, value) = unjoined (task, none)) ∨
      ∀ value, unjoined (task, value) = (task, value) := by
  cases hrest : task.toList.dropWhile (· != '=') with
  | nil => exact .inr fun value => by simp [unjoined, hrest]
  | cons sign rest => exact .inl fun value => by simp [unjoined, hrest]

theorem dashed_of_unjoined (h : ConnectorRuntime.dashed (unjoined (task, none)).1 = true) :
    ConnectorRuntime.dashed task = true := by
  cases hrest : task.toList.dropWhile (· != '=') with
  | nil => simpa [unjoined, hrest] using h
  | cons sign rest =>
      simp only [unjoined, hrest, ConnectorRuntime.dashed, String.toList_ofList] at h ⊢
      cases hname : task.toList with
      | nil => simp [hname] at h
      | cons first name =>
          rw [hname, List.takeWhile_cons] at h
          split at h
          · simpa using h
          · simp at h

theorem opens_dashed (h : Opens task) : ConnectorRuntime.dashed task = true ∧ task ≠ "--" := by
  have hall : ∀ token ∈ openings, ConnectorRuntime.dashed token = true := by decide
  constructor
  · exact dashed_of_unjoined (hall _ (mem_openings h))
  · rintro rfl
    rcases h with h | h
    · exact absurd h (by decide)
    · exact absurd h (by decide)

theorem opens_setting (h : Opens task) (value : Option String) :
    EnablesWriting (unjoined (task, value)) ∨ (unjoined (task, value)).1 ∈ directoryOptions := by
  rcases unjoined_task task with hjoined | hplain
  · rw [hjoined]
    exact h
  · rw [Opens, hplain none] at h
    rw [hplain value]
    rcases h with (hmem | hpair | hpair) | hmem
    · exact .inl (.inl hmem)
    · cases (Prod.mk.inj hpair).2
    · cases (Prod.mk.inj hpair).2
    · exact .inr hmem

theorem harmless_task {value : Option String} (h : ¬Opens task)
    (hwrite : value ≠ some "workspace-write") (hbypass : value ≠ some "bypassPermissions") :
    ¬EnablesWriting (unjoined (task, value)) ∧ (unjoined (task, value)).1 ∉ directoryOptions := by
  rcases unjoined_task task with hjoined | hplain
  · rw [hjoined]
    exact not_or.mp h
  · rw [Opens, hplain none] at h
    rw [hplain value]
    refine ⟨?_, fun hmem => h (.inr hmem)⟩
    rintro (hmem | hpair | hpair)
    · exact h (.inl (.inl hmem))
    · exact hwrite (Prod.mk.inj hpair).2
    · exact hbypass (Prod.mk.inj hpair).2

theorem cursor_honoured_iff (hmode : request.permissionMode = .readOnly)
    (h : (documented .cursor executable : Adapter machine lower).buildLaunchSpec request =
      .ok spec) :
    (documented .cursor executable : Adapter machine lower).ReadOnlyHonoured options request spec ↔
      ¬Opens request.task := by
  have hsettings := @documented_settings _ _ options _ _ _ _ h
  rw [Layout.settings_last (DocumentedCLI.layout_places .cursor executable) rfl] at hsettings
  constructor
  · intro hhonoured hopens
    obtain ⟨hdashed, hne⟩ := opens_dashed hopens
    have hrole : ((documented .cursor executable : Adapter machine lower).grammar options).role
        .any request.task = .option := by
      simp [role, grammar, hdashed, hne]
    rw [if_pos hrole] at hsettings
    have hmem : unjoined (request.task, none) ∈
        (documented .cursor executable : Adapter machine lower).settings options spec := by
      rw [hsettings]
      simp
    rcases hopens with hopens | hopens
    · exact hhonoured.closed _ hmem hopens
    · exact hhonoured.directories _ hmem hopens
  · intro hopens
    refine documented_honoured h (cursor_length hmode) ?_ ?_
    · refine ⟨("--mode", some "plan"), ?_, by decide⟩
      rw [hsettings]
      refine mem_unjoined (by decide) ?_
      simp [DocumentedCLI.layout, hmode, Piece.setting]
    · rw [hsettings, List.map_append]
      refine List.forall_mem_append.mpr ⟨harmless_settings ?_, ?_⟩
      · refine forall_append (forall_append (forall_of_all rfl) ?_) (harmless_flagPiece harmless_model)
        rw [hmode]
        exact forall_of_all rfl
      · split
        · intro setting hsetting
          obtain rfl := List.mem_singleton.mp hsetting
          exact harmless_task hopens (by simp) (by simp)
        · exact fun _ hnone => by cases hnone

-- What the Claude command line ends in, in the read-only mode.
def claudeTail (request : RunRequest) : List (Piece String) :=
  flagPiece "--resume" request.resumeSessionId ++ [.flag "--permission-mode" "plan"] ++
    flagPiece "--model" request.model ++
    request.additionalWritableDirectories.map (.flag "--add-dir")

-- The task stands where an option may: it is read as an operand, as an option, or as an
-- option that takes the next token.
theorem claude_pieces (hmode : request.permissionMode = .readOnly) (htask : request.task ≠ "--") :
    ∃ middle : List (Piece String),
      (DocumentedCLI.layout request .claudeCode).arguments request.task =
        (middle ++ claudeTail request).flatMap Piece.written ∧
      (∀ piece ∈ middle, ((documented .claudeCode executable : Adapter machine lower).grammar
        options).Fits piece = true) ∧
      (ConnectorRuntime.dashed request.task = true →
        ∃ value, (request.task, value) ∈ middle.filterMap Piece.setting) ∧
      (¬Opens request.task → ∀ piece ∈ middle, Harmless piece = true) := by
  have hrest : (DocumentedCLI.layout request .claudeCode).rest =
      [.flag "--output-format" "stream-json", .switch "--verbose"] ++ claudeTail request := by
    simp [DocumentedCLI.layout, claudeTail, hmode]
  have hharmless : ∀ {value : Option String}, value ≠ some "workspace-write" →
      value ≠ some "bypassPermissions" → ¬Opens request.task →
        decide (¬EnablesWriting (unjoined (request.task, value)) ∧
          (unjoined (request.task, value)).1 ∉ directoryOptions) = true :=
    fun hwrite hbypass hopens => decide_eq_true (harmless_task hopens hwrite hbypass)
  by_cases hdashed : ConnectorRuntime.dashed request.task = true
  · have hoption : ∀ {value : Bool}, (valueOptions (documented .claudeCode executable :
        Adapter machine lower)).contains request.task = value →
          ((documented .claudeCode executable : Adapter machine lower).grammar options).IsOption
            request.task value = true := fun hvalue =>
      isOption_iff.mpr ⟨hdashed, (Bool.or_false _).trans hvalue, htask⟩
    cases hvalue : (valueOptions (documented .claudeCode executable :
        Adapter machine lower)).contains request.task with
    | true =>
        refine ⟨[.switch "--print", .flag request.task "--output-format", .word "stream-json",
          .switch "--verbose"], ?_, ?_, fun _ => ⟨some "--output-format", ?_⟩, fun hopens => ?_⟩
        · rw [Layout.arguments, hrest]
          rfl
        · refine List.forall_mem_cons.mpr ⟨rfl, List.forall_mem_cons.mpr ⟨?_, forall_of_all rfl⟩⟩
          exact hoption hvalue
        · simp [Piece.setting]
        · refine List.forall_mem_cons.mpr ⟨rfl, List.forall_mem_cons.mpr ⟨?_, forall_of_all rfl⟩⟩
          exact hharmless (by decide) (by decide) hopens
    | false =>
        refine ⟨[.switch "--print", .switch request.task, .flag "--output-format" "stream-json",
          .switch "--verbose"], ?_, ?_, fun _ => ⟨none, ?_⟩, fun hopens => ?_⟩
        · rw [Layout.arguments, hrest]
          rfl
        · refine List.forall_mem_cons.mpr ⟨rfl, List.forall_mem_cons.mpr ⟨?_, forall_of_all rfl⟩⟩
          exact hoption hvalue
        · simp [Piece.setting]
        · refine List.forall_mem_cons.mpr ⟨rfl, List.forall_mem_cons.mpr ⟨?_, forall_of_all rfl⟩⟩
          exact hharmless (by simp) (by simp) hopens
  · have hplain : ConnectorRuntime.dashed request.task = false := by simpa using hdashed
    refine ⟨[.switch "--print", .word request.task, .flag "--output-format" "stream-json",
      .switch "--verbose"], ?_, ?_, fun h => absurd h hdashed, fun _ => forall_of_all rfl⟩
    · rw [Layout.arguments, hrest]
      rfl
    · refine List.forall_mem_cons.mpr ⟨rfl, List.forall_mem_cons.mpr ⟨?_, forall_of_all rfl⟩⟩
      simp [Fits, grammar, hplain]

theorem fits_claudeTail : ∀ piece ∈ claudeTail request,
    ((documented .claudeCode executable : Adapter machine lower).grammar options).Fits piece =
      true := by
  refine forall_append (forall_append (forall_append (fits_flagPiece rfl) (forall_of_all rfl))
    (fits_flagPiece rfl)) ?_
  intro piece hpiece
  obtain ⟨directory, -, rfl⟩ := List.mem_map.mp hpiece
  rfl

-- Behind the mark that ends the options nothing restricts the launch.
theorem claude_terminated (htask : request.task = "--") :
    Grammar.settings (((documented .claudeCode executable : Adapter machine lower).grammar
      options).read .any ((DocumentedCLI.layout request .claudeCode).arguments request.task)) =
        [("--print", none)] := by
  have hread : ∀ rest, ((documented .claudeCode executable : Adapter machine lower).grammar
      options).read .any ("--print" :: "--" :: rest) =
        (.option, "--print") :: (.terminator, "--") ::
          ((documented .claudeCode executable : Adapter machine lower).grammar options).read
            .operands rest := fun _ => rfl
  rw [htask, Layout.arguments]
  refine (congrArg Grammar.settings (hread _)).trans ?_
  have hmark : ((Role.terminator, "--") : Role × String).1 ≠ .option := by decide
  rw [settings_cons_option (by rintro item ⟨⟩; decide), settings_cons_other hmark,
    settings_read_operands]

theorem claude_honoured_iff (hmode : request.permissionMode = .readOnly)
    (h : (documented .claudeCode executable : Adapter machine lower).buildLaunchSpec request =
      .ok spec) :
    (documented .claudeCode executable : Adapter machine lower).ReadOnlyHonoured options request
        spec ↔
      request.additionalWritableDirectories = [] ∧ request.task ≠ "--" ∧ ¬Opens request.task := by
  have hsettings := @documented_settings _ _ options _ _ _ _ h
  by_cases htask : request.task = "--"
  · refine iff_of_false (fun hhonoured => ?_) fun hcond => hcond.2.1 htask
    rw [claude_terminated htask] at hsettings
    obtain ⟨setting, hmem, hrestricts⟩ := hhonoured.restricts
    rw [hsettings] at hmem
    obtain rfl := List.mem_singleton.mp hmem
    exact absurd hrestricts (by decide)
  obtain ⟨middle, hline, hfits, hset, hquiet⟩ :=
    @claude_pieces machine lower options request executable hmode htask
  rw [hline, settings_pieces (forall_append hfits fits_claudeTail), List.filterMap_append]
    at hsettings
  constructor
  · intro hhonoured
    refine ⟨?_, htask, fun hopens => ?_⟩
    · by_contra hdirs
      obtain ⟨directory, hdirectory⟩ := List.exists_mem_of_ne_nil _ hdirs
      refine hhonoured.directories ("--add-dir", some directory) ?_ List.mem_cons_self
      rw [hsettings]
      refine mem_unjoined (by decide) ?_
      refine List.mem_append_right _ (List.mem_filterMap.mpr ⟨.flag "--add-dir" directory, ?_, rfl⟩)
      exact List.mem_append_right _ (List.mem_map.mpr ⟨directory, hdirectory, rfl⟩)
    · obtain ⟨value, hvalue⟩ := hset (opens_dashed hopens).1
      have hmem : unjoined (request.task, value) ∈
          (documented .claudeCode executable : Adapter machine lower).settings options spec := by
        rw [hsettings]
        exact List.mem_map_of_mem (List.mem_append_left _ hvalue)
      rcases opens_setting hopens value with hopens | hopens
      · exact hhonoured.closed _ hmem hopens
      · exact hhonoured.directories _ hmem hopens
  · rintro ⟨hdirs, -, hopens⟩
    refine documented_honoured h (claude_length hmode) ?_ ?_
    · refine ⟨("--permission-mode", some "plan"), ?_, by decide⟩
      rw [hsettings]
      refine mem_unjoined (by decide) ?_
      refine List.mem_append_right _
        (List.mem_filterMap.mpr ⟨.flag "--permission-mode" "plan", ?_, rfl⟩)
      simp [claudeTail]
    · rw [hsettings, ← List.filterMap_append]
      refine harmless_settings (forall_append (hquiet hopens) ?_)
      refine forall_append (forall_append (forall_append (harmless_flagPiece harmless_resume)
        (forall_of_all rfl)) (harmless_flagPiece harmless_model)) ?_
      rw [hdirs]
      exact forall_nil

-- These builders do not look for the read-only mode.
theorem documented_same (hmode : request.permissionMode = .readOnly)
    (hcli : cli ∈ [DocumentedCLI.geminiCli, .githubCopilot, .aider, .goose, .pi, .qwenCode,
      .cline]) :
    (documented cli executable : Adapter machine lower).buildLaunchSpec
        { request with permissionMode := .default } =
      (documented cli executable : Adapter machine lower).buildLaunchSpec request := by
  have harguments : cli.arguments { request with permissionMode := .default } =
      cli.arguments request := by
    simp only [List.mem_cons, List.not_mem_nil, or_false] at hcli
    rcases hcli with rfl | rfl | rfl | rfl | rfl | rfl | rfl <;>
      simp [DocumentedCLI.arguments, geminiArgv, copilotArgv, aiderArgv, gooseArgv, piArgv,
        qwenArgv, clineArgv, hmode]
  have hconfined : ∀ (other : RunRequest) argv,
      confined machine other argv cli = .ok argv := by
    simp only [List.mem_cons, List.not_mem_nil, or_false] at hcli
    rcases hcli with rfl | rfl | rfl | rfl | rfl | rfl | rfl <;> exact fun _ _ => rfl
  rw [buildLaunchSpec, buildLaunchSpec, harguments, hconfined, hconfined]

theorem opencode_same (hmode : request.permissionMode = .readOnly) :
    (opencode executable : Adapter machine lower).buildLaunchSpec
        { request with permissionMode := .default } =
      (opencode executable : Adapter machine lower).buildLaunchSpec request := by
  simp [buildLaunchSpec, OpenCodeAdapter.arguments, OpenCodeAdapter.model, hmode]

-- The mode is honoured by the four builders that look for it, as far as the task is not read as
-- an option that opens what the mode closes.
theorem read_only_honoured_iff (adapter : Adapter machine lower)
    (hmode : request.permissionMode = .readOnly)
    (h : adapter.buildLaunchSpec request = .ok spec) :
    adapter.ReadOnlyHonoured options request spec ↔ Restricting request adapter := by
  cases adapter with
  | codex executable => exact iff_of_false (not_honoured_of_same h rfl) id
  | opencode executable => exact iff_of_false (not_honoured_of_same h (opencode_same hmode)) id
  | catalogue connector executable => exact iff_of_false (not_honoured_of_same h rfl) id
  | custom harness => exact iff_of_false (not_honoured_of_same h rfl) id
  | documented cli executable =>
      cases cli with
      | grok => exact iff_of_true (grok_honoured hmode h) trivial
      | continueCli => exact iff_of_true (continue_honoured hmode h) trivial
      | cursor => exact cursor_honoured_iff hmode h
      | claudeCode => exact claude_honoured_iff hmode h
      | _ => exact iff_of_false (not_honoured_of_same h (documented_same hmode (by decide))) id

def readOnlyRequest : RunRequest where
  task := "explain the test"
  workspace := "/tmp/ws"
  permissionMode := .readOnly

theorem grok_read_only_honoured :
    ∃ spec, (documented .grok "grok" : Adapter linuxMachine id).buildLaunchSpec readOnlyRequest =
        .ok spec ∧
      (documented .grok "grok" : Adapter linuxMachine id).ReadOnlyHonoured (fun _ => false)
        readOnlyRequest spec :=
  ⟨_, rfl, (read_only_honoured_iff (documented .grok "grok" : Adapter linuxMachine id) rfl rfl).mpr
    trivial⟩

-- Codex runs a read-only request with a writable workspace, as it runs one of the default mode.
theorem codex_read_only_writable :
    ∃ spec, (codex "codex" : Adapter linuxMachine id).buildLaunchSpec readOnlyRequest = .ok spec ∧
      (codex "codex" : Adapter linuxMachine id).buildLaunchSpec
        { readOnlyRequest with permissionMode := .default } = .ok spec ∧
      (∃ setting ∈ (codex "codex" : Adapter linuxMachine id).settings (fun _ => false) spec,
        EnablesWriting setting) ∧
      ¬(codex "codex" : Adapter linuxMachine id).ReadOnlyHonoured (fun _ => false)
        readOnlyRequest spec := by
  refine ⟨_, rfl, rfl, ⟨("--sandbox", some "workspace-write"), by decide, by decide⟩, ?_⟩
  exact not_honoured_of_same rfl rfl

end Adapter

end JoyMesh.Harnesses
