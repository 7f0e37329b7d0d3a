import JoyMesh.Harnesses.Custom

namespace JoyMesh.Harnesses

open JoyMesh.Connectors JoyMesh.Library JoyMesh.Routing
open JoyMesh.Library.Grammar

section Definitions

inductive Adapter (machine : Machine) (lower : String → String) where
  | codex (executable : String)
  | opencode (executable : String)
  | documented (cli : DocumentedCLI) (executable : String)
  | catalogue (connector : CatalogueConnector) (executable : String)
  | custom (adapter : CustomHarnessAdapter machine lower)

namespace Adapter

variable {machine : Machine} {lower : String → String}

-- The Cursor command line is run inside the sandbox of the host.
def confined (machine : Machine) (request : RunRequest) (argv : List String) :
    DocumentedCLI → Except PyError (List String)
  | .cursor =>
      cursorSandboxArgv machine.toHost argv request.workspace
        (request.permissionMode = .readOnly)
  | _ => .ok argv

def buildLaunchSpec (request : RunRequest) : Adapter machine lower → Except PyError LaunchSpec
  | codex executable => do
      let arguments ← CodexAdapter.arguments machine request
      return ⟨executable :: arguments, request.workspace⟩
  | opencode executable =>
      .ok ⟨executable :: OpenCodeAdapter.arguments request, request.workspace⟩
  | documented cli executable => do
      let argv ← confined machine request (executable :: cli.arguments request) cli
      let cwd ← machine.resolve request.workspace
      return ⟨argv, cwd.text⟩
  | catalogue connector executable => do
      let arguments ← catalogueBuilder connector.harnessId connector.execution request
      let cwd ← machine.resolve request.workspace
      return ⟨executable :: arguments, cwd.text⟩
  | custom adapter => .ok (adapter.buildLaunchSpec request)

-- How much of the argv stands before the executable of the harness.
def wrapper : Adapter machine lower → Nat
  | documented .cursor _ => 5
  | _ => 0

-- What the harness is given on its command line.
def commandLine (adapter : Adapter machine lower) (spec : LaunchSpec) : List String :=
  spec.argv.drop (adapter.wrapper + 1)

-- The options of each command line that take the next token as their value. Those of a
-- custom executable are its own.
def valueOptions : Adapter machine lower → List String
  | codex _ => ["--sandbox", "-c", "--cd", "--model", "--add-dir"]
  | opencode _ => ["--format", "--dir", "--session", "--model"]
  | documented .claudeCode _ =>
      ["--output-format", "--resume", "--permission-mode", "--model", "--add-dir"]
  | documented .geminiCli _ =>
      ["--prompt", "--output-format", "--resume", "--model", "--include-directories"]
  | documented .githubCopilot _ => ["--prompt", "--resume", "--model"]
  | documented .aider _ => ["--message", "--model"]
  | documented .goose _ => ["--text"]
  | documented .pi _ => ["--mode", "--session", "--provider", "--model"]
  | documented .continueCli _ => ["--prompt", "--model"]
  | documented .qwenCode _ => ["--prompt", "--output-format", "--resume", "--model"]
  | documented .cline _ => ["--auto-approve"]
  | documented .cursor _ => ["--output-format", "--sandbox", "--mode", "--model"]
  | documented .grok _ =>
      ["-p", "--output-format", "--resume", "--sandbox", "--permission-mode", "--model"]
  | catalogue .amp _ => []
  | catalogue .factoryDroid _ => ["--output-format", "-s"]
  | catalogue .kiro _ => ["--resume-id"]
  | catalogue .openhands _ => ["--resume", "--task"]
  | catalogue .warp _ => ["--prompt"]
  | custom _ => ["--task"]

-- The parameter is whether an option of a custom executable takes a value.
def grammar (options : String → Bool) (adapter : Adapter machine lower) : Grammar String where
  dashed := ConnectorRuntime.dashed
  takesValue := fun token =>
    adapter.valueOptions.contains token ||
      match adapter with
      | custom _ => options token
      | _ => false
  terminator := "--"
  dashed_terminator := ConnectorRuntime.terminator_dashed

end Adapter

-- A command line around its prompt: the parts before it, the option that takes it, if there
-- is one, and the parts after it.
structure Layout where
  before : List (Piece String)
  option : Option String := none
  rest : List (Piece String) := []

def Layout.arguments (layout : Layout) (prompt : String) : List String :=
  layout.before.flatMap Piece.written ++ layout.option.toList ++
    prompt :: layout.rest.flatMap Piece.written

def flagPiece (name : String) (value : Option String) : List (Piece String) :=
  match given value with
  | none => []
  | some value => [.flag name value]

def OpenCodeAdapter.layout (request : RunRequest) : Layout where
  before := [.word "run", .flag "--format" "json", .flag "--dir" request.workspace] ++
    flagPiece "--session" request.resumeSessionId ++
    (if request.permissionMode = .autoApprove then [.switch "--auto"] else []) ++
    flagPiece "--model" (OpenCodeAdapter.model request)

def DocumentedCLI.layout (request : RunRequest) : DocumentedCLI → Layout
  | claudeCode => {
      before := [.switch "--print"]
      rest := [.flag "--output-format" "stream-json", .switch "--verbose"] ++
        flagPiece "--resume" request.resumeSessionId ++
        (match request.permissionMode with
        | .readOnly => [.flag "--permission-mode" "plan"]
        | .autoApprove => [.switch "--dangerously-skip-permissions"]
        | .default => []) ++
        flagPiece "--model" request.model ++
        request.additionalWritableDirectories.map (.flag "--add-dir") }
  | geminiCli => {
      before := []
      option := some "--prompt"
      rest := [.flag "--output-format" "stream-json"] ++
        flagPiece "--resume" request.resumeSessionId ++
        (if request.permissionMode = .autoApprove then [.switch "--yolo"] else []) ++
        flagPiece "--model" request.model ++
        (if request.additionalWritableDirectories.isEmpty then []
        else [.flag "--include-directories"
          (",".intercalate request.additionalWritableDirectories)]) }
  | githubCopilot => {
      before := []
      option := some "--prompt"
      rest := [.switch "--output-format=json", .switch "--no-ask-user"] ++
        flagPiece "--resume" request.resumeSessionId ++
        (if request.permissionMode = .autoApprove then [.switch "--allow-all-tools"] else []) ++
        flagPiece "--model" request.model }
  | aider => {
      before := []
      option := some "--message"
      rest := [.switch "--no-auto-commits", .switch "--no-pretty"] ++
        (if request.permissionMode = .autoApprove then [.switch "--yes"] else []) ++
        flagPiece "--model" request.model }
  | goose => { before := [.word "run"], option := some "--text" }
  | pi => {
      before := [.switch "--print"]
      rest := [.flag "--mode" "json"] ++ flagPiece "--session" request.resumeSessionId ++
        flagPiece "--provider" request.provider ++ flagPiece "--model" request.model }
  | continueCli => {
      before := []
      option := some "--prompt"
      rest := (if (given request.resumeSessionId).isSome then [.switch "--resume"] else []) ++
        (match request.permissionMode with
        | .readOnly => [.switch "--readonly"]
        | .autoApprove => [.switch "--auto"]
        | .default => []) ++
        flagPiece "--model" request.model }
  | qwenCode => {
      before := []
      option := some "--prompt"
      rest := [.flag "--output-format" "stream-json"] ++
        flagPiece "--resume" request.resumeSessionId ++
        (if request.permissionMode = .autoApprove then [.switch "--yolo"] else []) ++
        flagPiece "--model" request.model }
  | cline => {
      before := [.switch "--json"] ++
        if request.permissionMode = .autoApprove then [.flag "--auto-approve" "true"] else [] }
  | cursor => {
      before := [.switch "--print", .flag "--output-format" "stream-json", .switch "--trust",
          .flag "--sandbox" "enabled"] ++
        (match request.permissionMode with
        | .readOnly => [.flag "--mode" "plan"]
        | .autoApprove => [.switch "--force"]
        | .default => []) ++
        flagPiece "--model" request.model }
  | grok => {
      before := [.switch "--no-auto-update"]
      option := some "-p"
      rest := [.flag "--output-format" "streaming-json"] ++
        flagPiece "--resume" request.resumeSessionId ++
        (match request.permissionMode with
        | .readOnly => [.flag "--sandbox" "strict", .flag "--permission-mode" "plan"]
        | .autoApprove => [.flag "--permission-mode" "bypassPermissions"]
        | .default => []) ++
        flagPiece "--model" request.model }

def CatalogueConnector.layout (request : RunRequest) : CatalogueConnector → Layout
  | amp => { before := [.switch "--execute", .switch "--stream-json"] }
  | factoryDroid => {
      before := [.word "exec", .flag "--output-format" "json"] ++
        flagPiece "-s" request.resumeSessionId }
  | kiro => {
      before := [.word "chat", .switch "--no-interactive"] ++
        flagPiece "--resume-id" request.resumeSessionId }
  | openhands => {
      before := [.switch "--headless", .switch "--json"] ++
        flagPiece "--resume" request.resumeSessionId
      option := some "--task" }
  | warp => { before := [.word "agent", .word "run"], option := some "--prompt" }

end Definitions

section Layouts

variable {request : RunRequest}

theorem flag_eq (name : String) (value : Option String) :
    flag name value = (flagPiece name value).flatMap Piece.written := by
  cases h : given value <;> simp [flag, flagPiece, h, Piece.written]

theorem OpenCodeAdapter.arguments_eq :
    OpenCodeAdapter.arguments request = (OpenCodeAdapter.layout request).arguments request.task := by
  cases h : request.permissionMode <;>
    simp [arguments, layout, Layout.arguments, flag_eq, Piece.written, h]

theorem DocumentedCLI.arguments_eq (cli : DocumentedCLI) :
    cli.arguments request = (cli.layout request).arguments request.task := by
  cases cli with
  | claudeCode =>
      have hdirs : request.additionalWritableDirectories.flatMap (fun directory =>
          ["--add-dir", directory]) =
            (request.additionalWritableDirectories.map (Piece.flag "--add-dir")).flatMap
              Piece.written := by
        rw [List.flatMap_map]
        rfl
      cases h : request.permissionMode <;>
        simp only [arguments, claudeArgv, layout, Layout.arguments, flag_eq, hdirs, h,
          List.flatMap_append, List.append_assoc] <;> rfl
  | geminiCli =>
      cases h : request.permissionMode <;>
        cases hdirs : request.additionalWritableDirectories.isEmpty <;>
          simp [arguments, geminiArgv, layout, Layout.arguments, flag_eq, Piece.written, h, hdirs]
  | githubCopilot =>
      cases h : request.permissionMode <;>
        simp [arguments, copilotArgv, layout, Layout.arguments, flag_eq, Piece.written, h]
  | aider =>
      cases h : request.permissionMode <;>
        simp [arguments, aiderArgv, layout, Layout.arguments, flag_eq, Piece.written, h]
  | goose => rfl
  | pi => simp [arguments, piArgv, layout, Layout.arguments, flag_eq, Piece.written]
  | continueCli =>
      cases h : request.permissionMode <;> cases hresume : (given request.resumeSessionId).isSome <;>
        simp [arguments, continueArgv, layout, Layout.arguments, flag_eq, Piece.written, h, hresume]
  | qwenCode =>
      cases h : request.permissionMode <;>
        simp [arguments, qwenArgv, layout, Layout.arguments, flag_eq, Piece.written, h]
  | cline =>
      cases h : request.permissionMode <;>
        simp [arguments, clineArgv, layout, Layout.arguments, Piece.written, h]
  | cursor =>
      cases h : request.permissionMode <;>
        simp [arguments, cursorArgv, layout, Layout.arguments, flag_eq, Piece.written, h]
  | grok =>
      cases h : request.permissionMode <;>
        simp [arguments, grokArgv, layout, Layout.arguments, flag_eq, Piece.written, h]

end Layouts

end JoyMesh.Harnesses
