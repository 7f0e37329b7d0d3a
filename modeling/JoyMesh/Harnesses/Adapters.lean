import Mathlib.Algebra.Order.Ring.Rat
import Mathlib.Data.Finset.Basic
import JoyMesh.Connectors.Argv

namespace JoyMesh.Harnesses

open JoyMesh.Routing

inductive Capability where
  | nonInteractive
  | fileRead
  | fileWrite
  | shell
  | streaming
  | structuredEvents
  | sessionCreate
  | sessionResume
  | modelSelection
  | providerSelection
  | toolUse
  | toolPermissions
  | filesystemSandbox
  | networkSandbox
  | approvalModes
  | workingDirectory
  | additionalWritableDirectories
  | imageInput
  | mcp
  | acp
  | usageReporting
  | contextWindowReporting
  | rateLimitReporting
  | costReporting
  | cancellation
  | timeoutEnforcement
  | processTreeCleanup
deriving DecidableEq, Repr

namespace Capability

def all : List Capability := [
  nonInteractive, fileRead, fileWrite, shell, streaming, structuredEvents, sessionCreate,
  sessionResume, modelSelection, providerSelection, toolUse, toolPermissions, filesystemSandbox,
  networkSandbox, approvalModes, workingDirectory, additionalWritableDirectories, imageInput, mcp,
  acp, usageReporting, contextWindowReporting, rateLimitReporting, costReporting, cancellation,
  timeoutEnforcement, processTreeCleanup]

def value : Capability → String
  | nonInteractive => "execution.non_interactive"
  | fileRead => "file.read"
  | fileWrite => "file.write"
  | shell => "shell"
  | streaming => "streaming"
  | structuredEvents => "events.structured"
  | sessionCreate => "session.create"
  | sessionResume => "session.resume"
  | modelSelection => "model.selection"
  | providerSelection => "provider.selection"
  | toolUse => "tool.use"
  | toolPermissions => "tool.permissions"
  | filesystemSandbox => "sandbox.filesystem"
  | networkSandbox => "sandbox.network"
  | approvalModes => "approval.modes"
  | workingDirectory => "workspace.selection"
  | additionalWritableDirectories => "workspace.additional_writable"
  | imageInput => "input.image"
  | mcp => "protocol.mcp"
  | acp => "protocol.acp"
  | usageReporting => "usage.reporting"
  | contextWindowReporting => "usage.context_window"
  | rateLimitReporting => "limit.rate"
  | costReporting => "usage.cost"
  | cancellation => "runtime.cancellation"
  | timeoutEnforcement => "runtime.timeout"
  | processTreeCleanup => "runtime.process_tree_cleanup"

end Capability

inductive PermissionMode where
  | default
  | readOnly
  | autoApprove
deriving DecidableEq, Repr

structure RouteCandidate where
  harnessId : String
  subscriptionId : Option String := none
  score : ℚ
  eligible : Bool
deriving DecidableEq

structure ExecutionDirective where
  executionId : String
  attemptId : String
  selectedHarness : String
  allowedFallbacks : List String := []
  requiredCapabilities : Finset Capability := ∅
  authorizationReference : String
  expiresAt : Time
  fallbackAuthorizationReferences : Finset String := ∅
deriving DecidableEq

-- A request, with its directive as it was parsed.
structure RunRequest where
  task : String
  workspace : String
  route : Option RouteCandidate := none
  requiredCapabilities : Finset Capability := ∅
  preferredHarness : Option String := none
  timeoutSeconds : Option ℚ := some 300
  resumeSessionId : Option String := none
  allowedHarnesses : Finset String := ∅
  deniedHarnesses : Finset String := ∅
  paidRoutesApproved : Bool := false
  permissionMode : PermissionMode := .default
  model : Option String := none
  provider : Option String := none
  additionalWritableDirectories : List String := []
  executionId : Option String := none
  directive : Option ExecutionDirective := none
deriving DecidableEq

-- An optional string that is neither None nor empty.
def given (value : Option String) : Option String := value.filter (· ≠ "")

open JoyMesh.Connectors

-- What the adapters read of the machine they run on.
structure Machine extends Host where
  expanduser : String → Except PyError String
  isDir : String → Bool
  which : String → Option String
  exists_ : String → Bool
  getcwd : String

-- The argv and the directory of a launch.
structure LaunchSpec where
  argv : List String
  cwd : String
deriving DecidableEq, Repr

-- An option with its value, where there is one.
def flag (name : String) (value : Option String) : List String :=
  match given value with
  | none => []
  | some value => [name, value]

-- The runtime directory of JoyMux, where it exists.
def joymuxWritableRoots (machine : Machine) : List String :=
  let runtime := Path.text (machine.home ++ [".joymux"])
  if machine.isDir runtime then [runtime] else []

namespace CodexAdapter

def unixIpcConfig : String := "sandbox_workspace_write.network_access=true"

-- One --add-dir for each directory, in their order.
def addDirs (machine : Machine) : List String → List String → Except PyError (List String)
  | _, [] => .ok []
  | seen, directory :: rest => do
      let resolved ← machine.expanduser directory
      if resolved = "" ∨ resolved ∈ seen then addDirs machine seen rest
      else return ["--add-dir", resolved] ++ (← addDirs machine (resolved :: seen) rest)

def arguments (machine : Machine) (request : RunRequest) : Except PyError (List String) := do
  let directories ← addDirs machine []
    (request.additionalWritableDirectories ++ joymuxWritableRoots machine)
  return ["exec", "--json", "--skip-git-repo-check", "--sandbox", "workspace-write", "-c",
      unixIpcConfig, "--cd", request.workspace] ++
    flag "--model" request.model ++ directories ++ flag "resume" request.resumeSessionId ++
    [request.task]

end CodexAdapter

namespace OpenCodeAdapter

def model (request : RunRequest) : Option String :=
  (given request.model).map fun model =>
    match given request.provider with
    | none => model
    | some provider => provider ++ "/" ++ model

def arguments (request : RunRequest) : List String :=
  ["run", "--format", "json", "--dir", request.workspace] ++
    flag "--session" request.resumeSessionId ++
    (if request.permissionMode = .autoApprove then ["--auto"] else []) ++
    flag "--model" (model request) ++ [request.task]

end OpenCodeAdapter

-- The builders of documented command lines. What they are given as the executable stands
-- before these arguments.
inductive DocumentedCLI where
  | claudeCode
  | geminiCli
  | githubCopilot
  | aider
  | goose
  | pi
  | continueCli
  | qwenCode
  | cline
  | cursor
  | grok
deriving DecidableEq, Repr

def cursorArgv (request : RunRequest) : List String :=
  ["--print", "--output-format", "stream-json", "--trust", "--sandbox", "enabled"] ++
    (match request.permissionMode with
    | .readOnly => ["--mode", "plan"]
    | .autoApprove => ["--force"]
    | .default => []) ++
    flag "--model" request.model ++ [request.task]

def grokArgv (request : RunRequest) : List String :=
  ["--no-auto-update", "-p", request.task, "--output-format", "streaming-json"] ++
    flag "--resume" request.resumeSessionId ++
    (match request.permissionMode with
    | .readOnly => ["--sandbox", "strict", "--permission-mode", "plan"]
    | .autoApprove => ["--permission-mode", "bypassPermissions"]
    | .default => []) ++
    flag "--model" request.model

def claudeArgv (request : RunRequest) : List String :=
  ["--print", request.task, "--output-format", "stream-json", "--verbose"] ++
    flag "--resume" request.resumeSessionId ++
    (match request.permissionMode with
    | .readOnly => ["--permission-mode", "plan"]
    | .autoApprove => ["--dangerously-skip-permissions"]
    | .default => []) ++
    flag "--model" request.model ++
    request.additionalWritableDirectories.flatMap fun directory => ["--add-dir", directory]

def geminiArgv (request : RunRequest) : List String :=
  ["--prompt", request.task, "--output-format", "stream-json"] ++
    flag "--resume" request.resumeSessionId ++
    (if request.permissionMode = .autoApprove then ["--yolo"] else []) ++
    flag "--model" request.model ++
    (if request.additionalWritableDirectories.isEmpty then []
    else ["--include-directories", ",".intercalate request.additionalWritableDirectories])

def copilotArgv (request : RunRequest) : List String :=
  ["--prompt", request.task, "--output-format=json", "--no-ask-user"] ++
    flag "--resume" request.resumeSessionId ++
    (if request.permissionMode = .autoApprove then ["--allow-all-tools"] else []) ++
    flag "--model" request.model

def aiderArgv (request : RunRequest) : List String :=
  ["--message", request.task, "--no-auto-commits", "--no-pretty"] ++
    (if request.permissionMode = .autoApprove then ["--yes"] else []) ++
    flag "--model" request.model

def gooseArgv (request : RunRequest) : List String := ["run", "--text", request.task]

def piArgv (request : RunRequest) : List String :=
  ["--print", request.task, "--mode", "json"] ++ flag "--session" request.resumeSessionId ++
    flag "--provider" request.provider ++ flag "--model" request.model

def continueArgv (request : RunRequest) : List String :=
  ["--prompt", request.task] ++
    (if (given request.resumeSessionId).isSome then ["--resume"] else []) ++
    (match request.permissionMode with
    | .readOnly => ["--readonly"]
    | .autoApprove => ["--auto"]
    | .default => []) ++
    flag "--model" request.model

def qwenArgv (request : RunRequest) : List String :=
  ["--prompt", request.task, "--output-format", "stream-json"] ++
    flag "--resume" request.resumeSessionId ++
    (if request.permissionMode = .autoApprove then ["--yolo"] else []) ++
    flag "--model" request.model

def clineArgv (request : RunRequest) : List String :=
  ["--json"] ++
    (if request.permissionMode = .autoApprove then ["--auto-approve", "true"] else []) ++
    [request.task]

def DocumentedCLI.arguments (request : RunRequest) : DocumentedCLI → List String
  | claudeCode => claudeArgv request
  | geminiCli => geminiArgv request
  | githubCopilot => copilotArgv request
  | aider => aiderArgv request
  | goose => gooseArgv request
  | pi => piArgv request
  | continueCli => continueArgv request
  | qwenCode => qwenArgv request
  | cline => clineArgv request
  | cursor => cursorArgv request
  | grok => grokArgv request

-- The argv templates of a connector.
structure ExecutionDefinition where
  argv : List String := []
  resumeArgv : List String := []

-- The connectors that have no builder of their own and are run from their templates.
inductive CatalogueConnector where
  | amp
  | factoryDroid
  | kiro
  | openhands
  | warp
deriving DecidableEq, Repr

namespace CatalogueConnector

def harnessId : CatalogueConnector → String
  | amp => "amp"
  | factoryDroid => "factory-droid"
  | kiro => "kiro"
  | openhands => "openhands"
  | warp => "warp"

def execution : CatalogueConnector → ExecutionDefinition
  | amp => { argv := ["amp", "--execute", "--stream-json", "\x7btask\x7d"] }
  | factoryDroid => {
      argv := ["droid", "exec", "--output-format", "json", "\x7btask\x7d"]
      resumeArgv := ["droid", "exec", "--output-format", "json", "-s", "\x7bsession_id\x7d",
        "\x7btask\x7d"] }
  | kiro => {
      argv := ["kiro-cli", "chat", "--no-interactive", "\x7btask\x7d"]
      resumeArgv := ["kiro-cli", "chat", "--no-interactive", "--resume-id", "\x7bsession_id\x7d",
        "\x7btask\x7d"] }
  | openhands => {
      argv := ["openhands", "--headless", "--json", "--task", "\x7btask\x7d"]
      resumeArgv := ["openhands", "--headless", "--json", "--resume", "\x7bsession_id\x7d",
        "--task", "\x7btask\x7d"] }
  | warp => { argv := ["oz", "agent", "run", "--prompt", "\x7btask\x7d"] }

end CatalogueConnector

-- The template without its first item, each item that is a placeholder replaced.
def catalogueBuilder (harnessId : String) (execution : ExecutionDefinition)
    (request : RunRequest) : Except PyError (List String) :=
  let template := if (given request.resumeSessionId).isSome ∧ execution.resumeArgv ≠ [] then
      execution.resumeArgv
    else execution.argv
  let fill : String → String := fun item =>
    if item = "\x7btask\x7d" then request.task
    else if item = "\x7bsession_id\x7d" then request.resumeSessionId.getD ""
    else item
  match template.map fill with
  | [] => .error ⟨"ValueError", harnessId ++ " has no executable task contract"⟩
  | _ :: arguments => .ok arguments

end JoyMesh.Harnesses
