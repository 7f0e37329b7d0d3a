import JoyMesh.Harnesses.Launch

namespace JoyMesh.Harnesses

open JoyMesh.Connectors JoyMesh.Library JoyMesh.Routing
open JoyMesh.Library.Grammar

variable {machine : Machine} {lower : String → String} {options : String → Bool}
  {request : RunRequest} {g : Grammar String}

namespace Adapter

-- Where each harness takes its prompt.
def place (request : RunRequest) : Adapter machine lower → Place String
  | codex _ => .operand (if (given request.resumeSessionId).isSome then 3 else 1)
  | opencode _ => .operand 1
  | documented .claudeCode _ => .operand 0
  | documented .geminiCli _ => .option "--prompt"
  | documented .githubCopilot _ => .option "--prompt"
  | documented .aider _ => .option "--message"
  | documented .goose _ => .option "--text"
  | documented .pi _ => .operand 0
  | documented .continueCli _ => .option "--prompt"
  | documented .qwenCode _ => .option "--prompt"
  | documented .cline _ => .operand 0
  | documented .cursor _ => .operand 0
  | documented .grok _ => .option "-p"
  | catalogue .amp _ => .operand 0
  | catalogue .factoryDroid _ => .operand 1
  | catalogue .kiro _ => .operand 1
  | catalogue .openhands _ => .option "--task"
  | catalogue .warp _ => .option "--prompt"
  | custom _ => .option "--task"

-- The task of the request has a place of its own on the command line, whatever it is, and
-- what is there is read as the prompt, and nothing else is.
def Delivered (options : String → Bool) (adapter : Adapter machine lower)
    (request : RunRequest) : Prop :=
  ∃ before rest,
    (∀ task, ∃ spec, adapter.buildLaunchSpec { request with task } = .ok spec ∧
      adapter.commandLine spec = before ++ task :: rest) ∧
    (adapter.grammar options).Delivers (adapter.place request) before request.task rest

end Adapter

section Layouts

variable {place : Place String} {name : String} {value : Option String}

-- The layout puts the prompt where the harness takes it.
def Layout.Places (layout : Layout) (g : Grammar String) : Place String → Prop
  | .operand words =>
      layout.option = none ∧ (∀ piece ∈ layout.before, g.Fits piece = true) ∧
        (layout.before.filterMap Piece.operand).length = words ∧
        ∀ piece ∈ layout.rest, g.Quiet (.operand words) piece = true
  | .option name =>
      layout.option = some name ∧ g.IsOption name true = true ∧
        (∀ piece ∈ layout.before, g.Quiet (.option name) piece = true) ∧
        ∀ piece ∈ layout.rest, g.Quiet (.option name) piece = true

-- What a prompt has to be to arrive at its place.
def Readable (prompt : String) : Place String → Prop
  | .operand _ => ConnectorRuntime.dashed prompt = false
  | .option _ => True

theorem Layout.delivers_iff {layout : Layout} {prompt : String}
    (hg : g.dashed = ConnectorRuntime.dashed) (h : layout.Places g place) :
    g.Delivers place (layout.before.flatMap Piece.written ++ layout.option.toList) prompt
      (layout.rest.flatMap Piece.written) ↔ Readable prompt place := by
  cases place with
  | operand words =>
      obtain ⟨hoption, hbefore, hwords, hrest⟩ := h
      rw [hoption, Option.toList_none, List.append_nil, delivers_operand_iff hbefore hwords hrest,
        hg]
      exact Iff.rfl
  | option name =>
      obtain ⟨hoption, hname, hbefore, hrest⟩ := h
      rw [hoption]
      exact iff_of_true (delivers_value hname hbefore hrest) trivial

theorem mem_flagPiece {piece : Piece String} (h : piece ∈ flagPiece name value) :
    ∃ found, piece = .flag name found := by
  unfold flagPiece at h
  split at h
  · cases h
  · exact ⟨_, List.mem_singleton.mp h⟩

theorem fits_flagPiece (h : g.IsOption name true = true) :
    ∀ piece ∈ flagPiece name value, g.Fits piece = true := by
  intro piece hpiece
  obtain ⟨found, rfl⟩ := mem_flagPiece hpiece
  exact h

theorem quiet_flagPiece (h : g.IsOption name true = true) (hplace : place ≠ .option name) :
    ∀ piece ∈ flagPiece name value, g.Quiet place piece = true := by
  intro piece hpiece
  obtain ⟨found, rfl⟩ := mem_flagPiece hpiece
  refine quiet_iff.mpr ⟨h, ?_⟩
  cases place with
  | operand => rfl
  | option other =>
      rintro setting ⟨⟩ rfl
      exact hplace rfl

theorem operand_flagPiece : (flagPiece name value).filterMap Piece.operand = [] := by
  unfold flagPiece
  split <;> rfl

theorem forall_append {p : Piece String → Prop} {first second : List (Piece String)}
    (hfirst : ∀ piece ∈ first, p piece) (hsecond : ∀ piece ∈ second, p piece) :
    ∀ piece ∈ first ++ second, p piece :=
  List.forall_mem_append.mpr ⟨hfirst, hsecond⟩

theorem forall_of_all {p : Piece String → Bool} {pieces : List (Piece String)}
    (h : pieces.all p = true) : ∀ piece ∈ pieces, p piece = true :=
  List.all_eq_true.mp h

theorem forall_nil {p : Piece String → Prop} : ∀ piece ∈ ([] : List (Piece String)), p piece :=
  fun _ hpiece => nomatch hpiece

theorem OpenCodeAdapter.layout_places (executable : String) :
    (layout request).Places ((Adapter.opencode executable : Adapter machine lower).grammar options)
      (.operand 1) := by
  refine ⟨rfl, ?_, ?_, forall_nil⟩
  · refine forall_append (forall_append (forall_append (forall_of_all rfl)
      (fits_flagPiece rfl)) ?_) (fits_flagPiece rfl)
    split
    · exact forall_of_all rfl
    · exact forall_nil
  · simp only [layout, List.filterMap_append, operand_flagPiece, List.append_nil]
    split <;> rfl

theorem DocumentedCLI.layout_places (cli : DocumentedCLI) (executable : String) :
    (cli.layout request).Places
      ((Adapter.documented cli executable : Adapter machine lower).grammar options)
      ((Adapter.documented cli executable : Adapter machine lower).place request) := by
  cases cli with
  | claudeCode =>
      refine ⟨rfl, forall_of_all rfl, rfl, ?_⟩
      refine forall_append (forall_append (forall_append (forall_append (forall_of_all rfl)
        (quiet_flagPiece rfl (by simp))) ?_) (quiet_flagPiece rfl (by simp))) ?_
      · split <;> exact forall_of_all rfl
      · intro piece hpiece
        obtain ⟨directory, -, rfl⟩ := List.mem_map.mp hpiece
        rfl
  | geminiCli =>
      refine ⟨rfl, rfl, forall_nil, ?_⟩
      refine forall_append (forall_append (forall_append (forall_append (forall_of_all rfl)
        (quiet_flagPiece rfl (by decide))) ?_) (quiet_flagPiece rfl (by decide))) ?_
      · split <;> exact forall_of_all rfl
      · split <;> exact forall_of_all rfl
  | githubCopilot =>
      refine ⟨rfl, rfl, forall_nil, ?_⟩
      refine forall_append (forall_append (forall_append (forall_of_all rfl)
        (quiet_flagPiece rfl (by decide))) ?_) (quiet_flagPiece rfl (by decide))
      split <;> exact forall_of_all rfl
  | aider =>
      refine ⟨rfl, rfl, forall_nil, ?_⟩
      refine forall_append (forall_append (forall_of_all rfl) ?_)
        (quiet_flagPiece rfl (by decide))
      split <;> exact forall_of_all rfl
  | goose => exact ⟨rfl, rfl, forall_of_all rfl, forall_nil⟩
  | pi =>
      refine ⟨rfl, forall_of_all rfl, rfl, ?_⟩
      exact forall_append (forall_append (forall_append (forall_of_all rfl)
        (quiet_flagPiece rfl (by simp))) (quiet_flagPiece rfl (by simp))) (quiet_flagPiece rfl (by simp))
  | continueCli =>
      refine ⟨rfl, rfl, forall_nil, ?_⟩
      refine forall_append (forall_append ?_ ?_) (quiet_flagPiece rfl (by decide))
      · split <;> exact forall_of_all rfl
      · split <;> exact forall_of_all rfl
  | qwenCode =>
      refine ⟨rfl, rfl, forall_nil, ?_⟩
      refine forall_append (forall_append (forall_append (forall_of_all rfl)
        (quiet_flagPiece rfl (by decide))) ?_) (quiet_flagPiece rfl (by decide))
      split <;> exact forall_of_all rfl
  | cline =>
      refine ⟨rfl, forall_append (forall_of_all rfl) ?_, ?_, forall_nil⟩
      · split <;> exact forall_of_all rfl
      · simp only [layout, List.filterMap_append]
        split <;> rfl
  | cursor =>
      refine ⟨rfl, ?_, ?_, forall_nil⟩
      · refine forall_append (forall_append (forall_of_all rfl) ?_) (fits_flagPiece rfl)
        split <;> exact forall_of_all rfl
      · simp only [layout, List.filterMap_append, operand_flagPiece, List.append_nil]
        split <;> rfl
  | grok =>
      refine ⟨rfl, rfl, forall_of_all rfl, ?_⟩
      refine forall_append (forall_append (forall_append (forall_of_all rfl)
        (quiet_flagPiece rfl (by decide))) ?_) (quiet_flagPiece rfl (by decide))
      split <;> exact forall_of_all rfl

theorem CatalogueConnector.layout_places (connector : CatalogueConnector) (executable : String) :
    (connector.layout request).Places
      ((Adapter.catalogue connector executable : Adapter machine lower).grammar options)
      ((Adapter.catalogue connector executable : Adapter machine lower).place request) := by
  cases connector with
  | amp => exact ⟨rfl, forall_of_all rfl, rfl, forall_nil⟩
  | factoryDroid =>
      refine ⟨rfl, forall_append (forall_of_all rfl) (fits_flagPiece rfl), ?_, forall_nil⟩
      simp only [layout, List.filterMap_append, operand_flagPiece]
      rfl
  | kiro =>
      refine ⟨rfl, forall_append (forall_of_all rfl) (fits_flagPiece rfl), ?_, forall_nil⟩
      simp only [layout, List.filterMap_append, operand_flagPiece]
      rfl
  | openhands =>
      exact ⟨rfl, rfl, forall_append (forall_of_all rfl) (quiet_flagPiece rfl (by decide)),
        forall_nil⟩
  | warp => exact ⟨rfl, rfl, forall_of_all rfl, forall_nil⟩

end Layouts

section Slots

-- The rest of a layout does not depend on the task.
theorem DocumentedCLI.layout_task (cli : DocumentedCLI) (task : String) :
    cli.layout { request with task } = cli.layout request := by
  cases cli <;> rfl

theorem CatalogueConnector.layout_task (connector : CatalogueConnector) (task : String) :
    connector.layout { request with task } = connector.layout request := by
  cases connector <;> rfl

theorem given_eq_some {value : Option String} {found : String} (h : given value = some found) :
    value = some found :=
  (Option.filter_eq_some_iff.mp h).1

theorem CatalogueConnector.arguments_eq (connector : CatalogueConnector) :
    catalogueBuilder connector.harnessId connector.execution request =
      .ok ((connector.layout request).arguments request.task) := by
  cases hsession : given request.resumeSessionId with
  | none =>
      cases connector <;>
        simp [catalogueBuilder, execution, layout, Layout.arguments, flagPiece, hsession,
          Piece.written]
  | some session =>
      have hraw : request.resumeSessionId.getD "" = session := by
        rw [given_eq_some hsession, Option.getD_some]
      cases connector <;>
        simp [catalogueBuilder, execution, layout, Layout.arguments, flagPiece, hsession, hraw,
          Piece.written]

theorem CodexAdapter.addDirs_pieces {seen directories arguments : List String}
    (h : addDirs machine seen directories = .ok arguments) :
    ∃ added : List String,
      arguments = (added.map (Piece.flag "--add-dir")).flatMap Piece.written := by
  induction directories generalizing seen arguments with
  | nil =>
      cases h
      exact ⟨[], rfl⟩
  | cons directory rest ih =>
      obtain ⟨resolved, -, h⟩ := bind_eq_ok.mp h
      split at h
      · exact ih h
      · obtain ⟨others, hothers, h⟩ := bind_eq_ok.mp h
        obtain ⟨added, rfl⟩ := ih hothers
        cases h
        exact ⟨resolved :: added, rfl⟩

namespace Adapter

variable {adapter : Adapter machine lower} {before rest : List String} {spec : LaunchSpec}
  {executable : String}

theorem delivered_iff (hslot : ∀ task, ∃ spec,
      adapter.buildLaunchSpec { request with task } = .ok spec ∧
        adapter.commandLine spec = before ++ task :: rest) :
    adapter.Delivered options request ↔
      (adapter.grammar options).Delivers (adapter.place request) before request.task rest := by
  constructor
  · rintro ⟨otherBefore, otherRest, hother, hdelivers⟩
    have hline : ∀ task, otherBefore ++ task :: otherRest = before ++ task :: rest := by
      intro task
      obtain ⟨spec, hspec, hfirst⟩ := hslot task
      obtain ⟨other, hbuilt, hsecond⟩ := hother task
      obtain rfl := Except.ok.inj (hspec.symm.trans hbuilt)
      exact hsecond.symm.trans hfirst
    have : Nontrivial String := ⟨"", "task", by decide⟩
    obtain ⟨rfl, rfl⟩ := slot_unique hline
    exact hdelivers
  · intro hdelivers
    exact ⟨before, rest, hslot, hdelivers⟩

theorem confined_ok {cli : DocumentedCLI} {executable : String} {argv : List String}
    {arguments : List String}
    (h : confined machine request (executable :: arguments) cli = .ok argv) (task : String)
    (other : List String) :
    ∃ argv, confined machine { request with task } (executable :: other) cli = .ok argv ∧
      argv.drop ((documented cli executable : Adapter machine lower).wrapper + 1) = other := by
  cases cli with
  | cursor =>
      obtain ⟨profile, scratch, hwrap⟩ := cursorSandboxArgv_ok h
      exact ⟨_, hwrap (executable :: other), rfl⟩
  | _ => exact ⟨_, rfl, rfl⟩

theorem documented_slot {cli : DocumentedCLI}
    (h : (documented cli executable : Adapter machine lower).buildLaunchSpec request = .ok spec)
    (task : String) : ∃ spec,
      (documented cli executable : Adapter machine lower).buildLaunchSpec { request with task } =
          .ok spec ∧
        (documented cli executable : Adapter machine lower).commandLine spec =
          (cli.layout request).arguments task := by
  obtain ⟨argv, hargv, h⟩ := bind_eq_ok.mp h
  obtain ⟨cwd, hcwd, -⟩ := bind_eq_ok.mp h
  obtain ⟨other, hother, hdrop⟩ := @confined_ok machine lower request cli executable _ _ hargv task
    (cli.arguments { request with task })
  refine ⟨⟨other, cwd.text⟩, bind_eq_ok.mpr ⟨other, hother, bind_eq_ok.mpr ⟨cwd, hcwd, rfl⟩⟩, ?_⟩
  rw [commandLine, hdrop, DocumentedCLI.arguments_eq, DocumentedCLI.layout_task]

theorem catalogue_slot {connector : CatalogueConnector}
    (h : (catalogue connector executable : Adapter machine lower).buildLaunchSpec request =
      .ok spec) (task : String) : ∃ spec,
      (catalogue connector executable : Adapter machine lower).buildLaunchSpec
          { request with task } = .ok spec ∧
        (catalogue connector executable : Adapter machine lower).commandLine spec =
          (connector.layout request).arguments task := by
  obtain ⟨arguments, -, h⟩ := bind_eq_ok.mp h
  obtain ⟨cwd, hcwd, -⟩ := bind_eq_ok.mp h
  refine ⟨⟨executable :: (connector.layout request).arguments task, cwd.text⟩, ?_, rfl⟩
  refine bind_eq_ok.mpr ⟨_, CatalogueConnector.arguments_eq connector, ?_⟩
  rw [CatalogueConnector.layout_task]
  exact bind_eq_ok.mpr ⟨cwd, hcwd, rfl⟩

end Adapter

end Slots

section Claims

-- When the prompt arrives: an operand that does not start like an option (and behind a
-- session that does not), the value of an option always. A custom harness is only given the
-- task in argv mode, behind arguments that leave its reader ready for an option.
def Deliverable (options : String → Bool) (request : RunRequest)
    (adapter : Adapter machine lower) : Prop :=
  match adapter with
  | .codex _ => ConnectorRuntime.dashed request.task = false ∧
      ∀ session ∈ given request.resumeSessionId, ConnectorRuntime.dashed session = false
  | .custom harness => harness.config.inputMode = "argv" ∧
      (Adapter.grammar options (.custom harness)).after .any harness.config.args = .any ∧
      (Adapter.grammar options (.custom harness)).prompts (.option "--task")
        harness.config.args = []
  | adapter => Readable request.task (adapter.place request)

namespace Adapter

variable {executable : String} {spec : LaunchSpec}

theorem layout_delivered_iff {adapter : Adapter machine lower} {layout : Layout}
    (hslot : ∀ task, ∃ spec, adapter.buildLaunchSpec { request with task } = .ok spec ∧
      adapter.commandLine spec = layout.arguments task)
    (hplaces : layout.Places (adapter.grammar options) (adapter.place request)) :
    adapter.Delivered options request ↔ Readable request.task (adapter.place request) :=
  (delivered_iff hslot).trans (Layout.delivers_iff rfl hplaces)

-- Behind a session that starts like an option the task is not the third word.
theorem prompts_of_dashed {pieces : List (Piece String)} {session task : String}
    (hfits : ∀ piece ∈ pieces, g.Fits piece = true)
    (hwords : (pieces.filterMap Piece.operand).length = 2) (hdashed : g.dashed session = true) :
    g.prompts (.operand 3) (pieces.flatMap Piece.written ++ [session, task]) = [] := by
  have hsession : g.role .any session ≠ .operand := role_any_of_dashed hdashed
  have hcount : (operands (g.read .any [session, task])).length ≤ 1 := by
    have hskip : operands (g.read .any [session, task]) =
        operands (g.read (g.next .any session) [task]) := by
      simp [Grammar.read, operands, hsession]
    have hone : (g.read (g.next .any session) [task]).length = 1 := read_length
    rw [hskip, operands, List.length_map, ← hone]
    exact List.length_filter_le ..
  rw [prompts, operands_read_append (after_pieces hfits), operands_pieces hfits,
    List.drop_eq_nil_iff, List.length_append]
  omega

theorem codex_delivered_iff
    (h : (codex executable : Adapter machine lower).buildLaunchSpec request = .ok spec) :
    (codex executable : Adapter machine lower).Delivered options request ↔
      Deliverable options request (codex executable : Adapter machine lower) := by
  obtain ⟨arguments, harguments, -⟩ := bind_eq_ok.mp h
  obtain ⟨directories, hdirectories, -⟩ := bind_eq_ok.mp harguments
  obtain ⟨added, rfl⟩ := CodexAdapter.addDirs_pieces hdirectories
  let pieces : List (Piece String) := [.word "exec", .switch "--json",
      .switch "--skip-git-repo-check", .flag "--sandbox" "workspace-write",
      .flag "-c" CodexAdapter.unixIpcConfig, .flag "--cd" request.workspace] ++
    flagPiece "--model" request.model ++ added.map (Piece.flag "--add-dir")
  have hslot : ∀ task, ∃ spec,
      (codex executable : Adapter machine lower).buildLaunchSpec { request with task } = .ok spec ∧
        (codex executable : Adapter machine lower).commandLine spec =
          pieces.flatMap Piece.written ++ flag "resume" request.resumeSessionId ++ task :: [] := by
    intro task
    refine ⟨_, bind_eq_ok.mpr ⟨_, bind_eq_ok.mpr ⟨_, hdirectories, rfl⟩, rfl⟩, ?_⟩
    simp [commandLine, wrapper, pieces, flag_eq, Piece.written]
  have hfits : ∀ piece ∈ pieces,
      ((codex executable : Adapter machine lower).grammar options).Fits piece = true := by
    refine forall_append (forall_append (forall_of_all rfl) (fits_flagPiece rfl)) ?_
    intro piece hpiece
    obtain ⟨directory, -, rfl⟩ := List.mem_map.mp hpiece
    rfl
  have hwords : pieces.filterMap Piece.operand = ["exec"] := by
    simp only [pieces, List.filterMap_append, operand_flagPiece, List.append_nil]
    simp [Piece.operand, List.filterMap_map, Function.comp_def]
  rw [delivered_iff hslot]
  cases hsession : given request.resumeSessionId with
  | none =>
      have hplain := @delivers_operand_iff _ _ ((codex executable : Adapter machine lower).grammar
        options) pieces [] request.task 1 hfits (by rw [hwords]; rfl) forall_nil
      simp only [place, flag, Deliverable, hsession, List.append_nil]
      exact hplain.trans (and_iff_left fun _ hnone => by cases hnone).symm
  | some session =>
      simp only [place, flag, Deliverable, hsession, Option.isSome_some, if_pos, Option.mem_def,
        Option.some.injEq, forall_eq']
      by_cases hdashed : ConnectorRuntime.dashed session = true
      · refine iff_of_false (fun hdelivers => ?_) (by simp [hdashed])
        have hmore : ∀ piece ∈ pieces ++ [.word "resume"],
            ((codex executable : Adapter machine lower).grammar options).Fits piece = true :=
          forall_append hfits (forall_of_all rfl)
        have hnone := @prompts_of_dashed _ (pieces ++ [.word "resume"]) session request.task hmore
          (by rw [List.filterMap_append, hwords]; rfl) hdashed
        have hprompt := hdelivers.prompt_read
        rw [List.flatMap_append] at hnone
        rw [List.append_assoc] at hnone hprompt
        cases hnone.symm.trans hprompt
      · have hplain : ConnectorRuntime.dashed session = false := by simpa using hdashed
        have hmore : ∀ piece ∈ pieces ++ [.word "resume", .word session],
            ((codex executable : Adapter machine lower).grammar options).Fits piece = true :=
          forall_append hfits (forall_of_all (by simp [Fits, grammar, hplain]; rfl))
        have hdelivers := @delivers_operand_iff _ _
          ((codex executable : Adapter machine lower).grammar options)
          (pieces ++ [.word "resume", .word session]) [] request.task 3 hmore
          (by rw [List.filterMap_append, hwords]; rfl) forall_nil
        rw [List.flatMap_append] at hdelivers
        exact hdelivers.trans (and_iff_left hplain).symm

theorem custom_delivered_iff (harness : CustomHarnessAdapter machine lower) :
    (custom harness).Delivered options request ↔
      Deliverable options request (custom harness) := by
  by_cases hmode : harness.config.inputMode = "argv"
  · have hslot : ∀ task, ∃ spec,
        (custom harness).buildLaunchSpec { request with task } = .ok spec ∧
          (custom harness).commandLine spec =
            (harness.config.args ++ ["--task"]) ++ task :: [] := by
      intro task
      refine ⟨_, rfl, ?_⟩
      simp [commandLine, wrapper, CustomHarnessAdapter.buildLaunchSpec,
        CustomHarnessAdapter.arguments, hmode]
    rw [delivered_iff hslot]
    exact (delivers_last_iff rfl).trans (and_iff_right hmode).symm
  · refine iff_of_false ?_ fun hdeliverable => hmode hdeliverable.1
    rintro ⟨before, rest, hslot, -⟩
    have hline : ∀ task, harness.config.args = before ++ task :: rest := by
      intro task
      obtain ⟨spec, ⟨⟩, hline⟩ := hslot task
      simpa [commandLine, wrapper, CustomHarnessAdapter.buildLaunchSpec,
        CustomHarnessAdapter.arguments, hmode] using hline
    have hsame := (hline "").symm.trans (hline "task")
    have hcons := List.append_cancel_left hsame
    exact absurd (List.cons.inj hcons).1 (by decide)

-- The process that is launched receives the task of its request as the one prompt exactly
-- under these conditions.
theorem task_delivered_iff (adapter : Adapter machine lower)
    (h : adapter.buildLaunchSpec request = .ok spec) :
    adapter.Delivered options request ↔ Deliverable options request adapter := by
  cases adapter with
  | codex executable => exact codex_delivered_iff h
  | opencode executable =>
      have hslot : ∀ task, ∃ spec,
          (opencode executable : Adapter machine lower).buildLaunchSpec { request with task } =
              .ok spec ∧
            (opencode executable : Adapter machine lower).commandLine spec =
              (OpenCodeAdapter.layout request).arguments task :=
        fun task => ⟨_, rfl, @OpenCodeAdapter.arguments_eq { request with task }⟩
      exact layout_delivered_iff hslot (OpenCodeAdapter.layout_places executable)
  | documented cli executable =>
      exact layout_delivered_iff (documented_slot h) (DocumentedCLI.layout_places cli executable)
  | catalogue connector executable =>
      exact layout_delivered_iff (catalogue_slot h)
        (CatalogueConnector.layout_places connector executable)
  | custom harness => exact custom_delivered_iff harness

def linuxMachine : Machine where
  toHost := linuxHost
  expanduser := .ok
  isDir := fun _ => false
  which := fun _ => none
  exists_ := fun _ => false
  getcwd := "/tmp"

def fixRequest : RunRequest where
  task := "fix the test"
  workspace := "/tmp/ws"

theorem opencode_task_delivered :
    ∃ spec, (opencode "opencode" : Adapter linuxMachine id).buildLaunchSpec fixRequest = .ok spec ∧
      (opencode "opencode" : Adapter linuxMachine id).Delivered (fun _ => false) fixRequest :=
  ⟨_, rfl, (task_delivered_iff (opencode "opencode" : Adapter linuxMachine id) rfl).mpr rfl⟩

-- A custom harness of the default input mode.
def stdinHarness : CustomHarnessAdapter linuxMachine id where
  config := { harnessId := "mine", displayName := "Mine", executable := "mine" }
  valid := by decide

-- The mode says that the task comes over stdin, where nothing sends it.
theorem stdin_task_dropped :
    ∃ spec, (custom stdinHarness).buildLaunchSpec fixRequest = .ok spec ∧ spec.argv = ["mine"] ∧
      ¬(custom stdinHarness).Delivered (fun _ => false) fixRequest := by
  refine ⟨_, rfl, rfl, fun hdelivered => ?_⟩
  have hmode := ((custom_delivered_iff stdinHarness).mp hdelivered).1
  exact absurd hmode (by decide)

end Adapter

end Claims

end JoyMesh.Harnesses
