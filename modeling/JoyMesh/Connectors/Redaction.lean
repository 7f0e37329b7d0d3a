import JoyMesh.Connectors.Argv

namespace JoyMesh.Connectors

open JoyMesh.Routing

-- What execute() reads of a ConnectorRunRequest before the process starts.
structure ConnectorRunRequest where
  prompt : String
  workspacePath : String
deriving DecidableEq, Repr

-- The event task.started, and the argv of the process that is started after it.
structure TaskStarted where
  published : List String
  connectorId : String
  argv : List String
deriving DecidableEq, Repr

-- [*argv[:-1], "<PROMPT>"]
def maskLast (argv : List String) : List String := argv.dropLast ++ ["<PROMPT>"]

-- The part of execute() up to the start of the process.
def startTask (connectorId executableName : String)
    (build : ExecRequest → Except PyError (List String)) (redact : List String → List String)
    (which : String → Option String) (request : ConnectorRunRequest) :
    Except PyError TaskStarted :=
  match (which executableName).filter (· ≠ "") with
  | none => .error ⟨"RuntimeError", executableName ++ " not found"⟩
  | some executable => do
      let argv ← build
        { executable, prompt := request.prompt, workspacePath := request.workspacePath }
      .ok { published := redact argv, connectorId, argv }

section Connectors

variable (host : Host) (which : String → Option String) (request : ConnectorRunRequest)

def CodexConnectorRuntime.execute : Except PyError TaskStarted :=
  startTask "codex" "codex" (ConnectorRuntime.codex.buildExecArgv host) maskLast which request

def ClaudeConnectorRuntime.execute : Except PyError TaskStarted :=
  startTask "claude" "claude" (ConnectorRuntime.claude.buildExecArgv host) maskLast which request

def OpenCodeConnectorRuntime.execute : Except PyError TaskStarted :=
  startTask "opencode" "opencode" (ConnectorRuntime.opencode.buildExecArgv host) maskLast which
    request

def GrokConnectorRuntime.redactArgv (argv : List String) : List String :=
  if argv.isEmpty then [] else maskLast argv

def GrokConnectorRuntime.execute : Except PyError TaskStarted :=
  startTask "grok" "grok" (ConnectorRuntime.grok.buildExecArgv host)
    GrokConnectorRuntime.redactArgv which request

def CursorConnectorRuntime.execute : Except PyError TaskStarted :=
  startTask "cursor" "cursor-agent" (ConnectorRuntime.cursor.buildExecArgv host) maskLast which
    request

def ConnectorRuntime.execute : ConnectorRuntime → Except PyError TaskStarted
  | codex => CodexConnectorRuntime.execute host which request
  | claude => ClaudeConnectorRuntime.execute host which request
  | opencode => OpenCodeConnectorRuntime.execute host which request
  | grok => GrokConnectorRuntime.execute host which request
  | cursor => CursorConnectorRuntime.execute host which request

end Connectors

structure Detection where
  executablePath : Option String := none
  version : Option String := none
  fingerprint : Option String := none
deriving DecidableEq, Repr

-- What prepare() reads of the context: an entry may be missing.
structure HarnessContext where
  workspacePath : String
  readOnly : Option Value := none
deriving DecidableEq

structure Prepared where
  executable : String
  argvRedacted : List String
  argv : List String
  version : Option String
  fingerprint : Option String
deriving DecidableEq, Repr

structure ConnectorHarnessAdapter where
  harnessId : String
  connector : ConnectorRuntime
deriving DecidableEq, Repr

-- The validation of the workspace and the detection are given by how they end.
def ConnectorHarnessAdapter.prepare (adapter : ConnectorHarnessAdapter) (host : Host)
    (which : String → Option String) (validated : Except PyError Unit)
    (detected : Except PyError Detection) (prompt : String) (context : HarnessContext) :
    Except PyError Prepared := do
  validated
  let detection ← detected
  match ((detection.executablePath.filter (· ≠ "")).or (which adapter.harnessId)).filter
      (· ≠ "") with
  | none => .error ⟨"RuntimeError", adapter.harnessId ++ " executable not found"⟩
  | some executable =>
      let argv ← adapter.connector.buildExecArgv host
        { executable
          prompt
          workspacePath := context.workspacePath
          readOnly := (context.readOnly.map Value.truthy).getD true }
      .ok
        { executable
          argvRedacted := if argv.isEmpty then [] else maskLast argv
          argv
          version := detection.version
          fingerprint := detection.fingerprint }

def Contains (token part : String) : Prop := part.toList <:+: token.toList

instance (token part : String) : Decidable (Contains token part) :=
  inferInstanceAs (Decidable (_ <:+: _))

-- The two places where a connector publishes the command line it runs.
inductive Publishes (connector : ConnectorRuntime) (host : Host) (which : String → Option String)
    (prompt workspacePath : String) : List String → List String → Prop where
  | started {event : TaskStarted}
      (h : connector.execute host which { prompt, workspacePath } = .ok event) :
      Publishes connector host which prompt workspacePath event.argv event.published
  | prepared {harnessId : String} {validated : Except PyError Unit}
      {detected : Except PyError Detection} {readOnly : Option Value} {prepared : Prepared}
      (h : ConnectorHarnessAdapter.prepare { harnessId, connector } host which validated detected
        prompt { workspacePath, readOnly } = .ok prepared) :
      Publishes connector host which prompt workspacePath prepared.argv prepared.argvRedacted

-- No published element contains the prompt, and the other elements are all there
-- in their order.
structure Redacted (prompt : String) (argv published : List String) : Prop where
  hidden : ∀ token ∈ published, ¬ Contains token prompt
  others : (argv.erase prompt).Sublist published

section Masks

variable {connector : ConnectorRuntime} {host : Host} {which : String → Option String}
  {prompt workspacePath : String} {argv published before : List String}

theorem contains_self : Contains prompt prompt := List.infix_rfl

theorem startTask_ok {connectorId executableName : String}
    {build : ExecRequest → Except PyError (List String)} {redact : List String → List String}
    {request : ConnectorRunRequest} {event : TaskStarted}
    (h : startTask connectorId executableName build redact which request = .ok event) :
    event.published = redact event.argv ∧ ∃ launched : ExecRequest,
      build { launched with prompt := request.prompt } = .ok event.argv := by
  unfold startTask at h
  split at h
  case h_1 => cases h
  case h_2 executable _ =>
    obtain ⟨argv, hbuild, h⟩ := bind_eq_ok.mp h
    cases h
    exact ⟨rfl, { executable, prompt := "", workspacePath := request.workspacePath }, hbuild⟩

theorem mask_of_ne_nil (h : argv ≠ []) :
    (if argv.isEmpty then [] else maskLast argv) = maskLast argv := by
  cases argv with
  | nil => exact absurd rfl h
  | cons token rest => rfl

theorem execute_eq {request : ConnectorRunRequest} :
    ∃ connectorId executableName redact, (∀ argv ≠ [], redact argv = maskLast argv) ∧
      connector.execute host which request = startTask connectorId executableName
        (fun launched => connector.buildExecArgv host launched) redact which request := by
  cases connector with
  | grok => exact ⟨_, _, _, fun _ => mask_of_ne_nil, rfl⟩
  | _ => exact ⟨_, _, _, fun _ _ => rfl, rfl⟩

-- Wherever the command line is published, its last element is masked.
theorem Publishes.masks
    (h : Publishes connector host which prompt workspacePath argv published) :
    ∃ request : ExecRequest, connector.buildExecArgv host { request with prompt } = .ok argv ∧
      (argv ≠ [] → published = maskLast argv) := by
  cases h with
  | started h =>
      obtain ⟨connectorId, executableName, redact, hredact, heq⟩ := execute_eq
      obtain ⟨hmask, request, hbuild⟩ := startTask_ok (heq.symm.trans h)
      exact ⟨request, hbuild, fun hne => hmask.trans (hredact _ hne)⟩
  | @prepared _ _ _ readOnly _ h =>
      obtain ⟨-, -, h⟩ := bind_eq_ok.mp h
      obtain ⟨detection, -, h⟩ := bind_eq_ok.mp h
      split at h
      case h_1 => cases h
      case h_2 executable _ =>
        obtain ⟨argv, hbuild, h⟩ := bind_eq_ok.mp h
        cases h
        exact ⟨{ executable, prompt, workspacePath
                 readOnly := (readOnly.map Value.truthy).getD true }, hbuild, mask_of_ne_nil⟩

-- The prompt of a command line that ends with it is masked.
theorem redacted_concat_iff
    (hapart : ∀ token ∈ (before ++ [prompt]).erase prompt, ¬ Contains token prompt) :
    Redacted prompt (before ++ [prompt]) (maskLast (before ++ [prompt])) ↔
      ¬ Contains "<PROMPT>" prompt := by
  have hnot : prompt ∉ before := by
    intro hmem
    refine hapart prompt ?_ contains_self
    rw [List.erase_append_left _ hmem]
    simp
  have herase : (before ++ [prompt]).erase prompt = before := by
    rw [List.erase_append_right _ hnot]
    simp
  have hmask : maskLast (before ++ [prompt]) = before ++ ["<PROMPT>"] := by simp [maskLast]
  rw [herase] at hapart
  rw [hmask]
  constructor
  · exact fun h => h.hidden _ (by simp)
  · intro hplain
    refine ⟨fun token hmem => ?_, by rw [herase]; exact List.sublist_append_left _ _⟩
    rcases List.mem_append.mp hmem with hbefore | hlast
    · exact hapart token hbefore
    · rw [List.mem_singleton.mp hlast]
      exact hplain

-- A prompt that is followed by other elements stays where it is.
theorem not_redacted_of_rest {rest : List String} (hrest : rest ≠ []) :
    ¬ Redacted prompt argv (maskLast (before ++ prompt :: rest)) := by
  intro h
  refine h.hidden prompt ?_ contains_self
  rw [maskLast, List.dropLast_append_cons, List.dropLast_cons_of_ne_nil hrest]
  simp

theorem Publishes.redacted_iff
    (h : Publishes connector host which prompt workspacePath argv published)
    (hapart : ∀ token ∈ argv.erase prompt, ¬ Contains token prompt) :
    Redacted prompt argv published ↔ connector ≠ .grok ∧ ¬ Contains "<PROMPT>" prompt := by
  obtain ⟨request, hbuild, hmask⟩ := h.masks
  obtain ⟨command, before, rest, hlayout, -, hrest⟩ := ConnectorRuntime.exists_layout hbuild
  obtain rfl : (command :: before) ++ prompt :: rest = argv :=
    Except.ok.inj ((hlayout prompt).symm.trans hbuild)
  rw [hmask (by simp)]
  by_cases hgrok : connector = .grok
  · have hne : rest ≠ [] := fun hnil => hrest.mp hnil hgrok
    exact iff_of_false (not_redacted_of_rest hne) fun hand => hand.1 hgrok
  · obtain rfl := hrest.mpr hgrok
    rw [redacted_concat_iff hapart]
    simp [hgrok]

end Masks

def installed (executableName : String) : Option String := some ("/usr/bin/" ++ executableName)

theorem codex_prompt_redacted :
    ∃ event,
      ConnectorRuntime.codex.execute linuxHost installed ⟨"summarise", "/tmp/ws"⟩ = .ok event ∧
      (∀ token ∈ event.argv.erase "summarise", ¬ Contains token "summarise") ∧
      ¬ Contains "<PROMPT>" "summarise" ∧
      Redacted "summarise" event.argv event.published :=
  ⟨_, rfl, by decide, by decide,
    (@Publishes.redacted_iff .codex linuxHost installed "summarise" "/tmp/ws" _ _ (.started rfl)
      (by decide)).mpr ⟨by decide, by decide⟩⟩

-- The mask takes the place of the last denied tool, and the prompt is published.
theorem grok_prompt_published :
    ∃ event,
      ConnectorRuntime.grok.execute linuxHost installed ⟨"summarise", "/tmp/ws"⟩ = .ok event ∧
      (∀ token ∈ event.argv.erase "summarise", ¬ Contains token "summarise") ∧
      "summarise" ∈ event.published ∧ ¬ Redacted "summarise" event.argv event.published :=
  ⟨_, rfl, by decide +kernel, by decide +kernel, fun h => h.hidden "summarise" (by decide +kernel) contains_self⟩

end JoyMesh.Connectors
