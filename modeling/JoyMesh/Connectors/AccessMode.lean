import JoyMesh.Connectors.Redaction
import JoyMesh.Library.Json

namespace JoyMesh.Connectors

open JoyMesh.Library JoyMesh.Routing

abbrev Environment := List (String × String)

def OpenCodeConnectorRuntime.readOnlyPermission : List (String × String) :=
  [("edit", "deny"), ("bash", "deny"), ("webfetch", "deny"), ("websearch", "deny"),
    ("task", "deny"), ("external_directory", "deny"), ("doom_loop", "deny"), ("read", "allow"),
    ("glob", "allow"), ("grep", "allow")]

-- json.dumps of a dict of strings, with sorted keys.
def jsonObject (members : List (String × String)) : String :=
  "\x7b" ++ ", ".intercalate ((sortMembers members).map fun member =>
    jsonString member.1 ++ ": " ++ jsonString member.2) ++ "\x7d"

section Environments

variable (readOnly : Bool)

def CodexConnectorRuntime.executionEnvironment : Environment := []

def ClaudeConnectorRuntime.executionEnvironment : Environment := []

def OpenCodeConnectorRuntime.executionEnvironment : Environment :=
  if readOnly then [("OPENCODE_PERMISSION", jsonObject readOnlyPermission)] else []

def GrokConnectorRuntime.executionEnvironment : Environment :=
  if readOnly then [("GROK_TELEMETRY_ENABLED", "0"), ("GROK_TELEMETRY_TRACE_UPLOAD", "0")] else []

def CursorConnectorRuntime.executionEnvironment : Environment := []

def ConnectorRuntime.executionEnvironment : ConnectorRuntime → Environment
  | codex => CodexConnectorRuntime.executionEnvironment
  | claude => ClaudeConnectorRuntime.executionEnvironment
  | opencode => OpenCodeConnectorRuntime.executionEnvironment readOnly
  | grok => GrokConnectorRuntime.executionEnvironment readOnly
  | cursor => CursorConnectorRuntime.executionEnvironment

end Environments

-- What is handed to the process runner.
structure LaunchRequest where
  argv : List String
  cwd : String
  timeoutSeconds : Rat
  extraEnvKeys : List String
  extraEnv : Environment
  runId : String
deriving DecidableEq

inductive RunnerCall where
  | run (request : LaunchRequest)
  | streamLines (request : LaunchRequest)
deriving DecidableEq

def RunnerCall.request : RunnerCall → LaunchRequest
  | run request => request
  | streamLines request => request

-- A launch reads two more entries of the context than its preparation does.
structure LaunchContext extends HarnessContext where
  executionId : Option String := none
  timeoutSeconds : Option Rat := none

def HarnessContext.mode (context : HarnessContext) : Bool :=
  (context.readOnly.map Value.truthy).getD true

namespace ConnectorHarnessAdapter

variable (adapter : ConnectorHarnessAdapter) (host : Host) (which : String → Option String)
  (uuid4 : String) (validated : Except PyError Unit) (detected : Except PyError Detection)
  (prompt : String) (context : LaunchContext)

-- The argv is prepared for the mode of the context, the environment for a read-only launch.
def launch : Except PyError LaunchRequest := do
  let prepared ← adapter.prepare host which validated detected prompt context.toHarnessContext
  let extra := adapter.connector.executionEnvironment true
  return {
    argv := prepared.argv
    cwd := context.workspacePath
    timeoutSeconds := (context.timeoutSeconds.filter (· ≠ 0)).getD 300
    extraEnvKeys := extra.map Prod.fst
    extraEnv := extra
    runId := (context.executionId.filter (· ≠ "")).getD uuid4 }

def execute : Except PyError RunnerCall :=
  (adapter.launch host which uuid4 validated detected prompt context).map .run

def stream : Except PyError RunnerCall :=
  (adapter.launch host which uuid4 validated detected prompt context).map .streamLines

-- The two entry points to a process.
inductive Launches : RunnerCall → Prop where
  | executed {call : RunnerCall}
      (h : adapter.execute host which uuid4 validated detected prompt context = .ok call) :
      Launches call
  | streamed {call : RunnerCall}
      (h : adapter.stream host which uuid4 validated detected prompt context = .ok call) :
      Launches call

end ConnectorHarnessAdapter

-- The argv and the environment of a launch are those of the mode of its context.
structure OneMode (connector : ConnectorRuntime) (host : Host) (prompt : String)
    (context : LaunchContext) (request : LaunchRequest) : Prop where
  argv : ∃ executable, connector.buildExecArgv host
    { executable, prompt, workspacePath := context.workspacePath, readOnly := context.mode } =
      .ok request.argv
  environment : request.extraEnv = connector.executionEnvironment context.mode

section Modes

variable {adapter : ConnectorHarnessAdapter} {host : Host} {which : String → Option String}
  {uuid4 : String} {validated : Except PyError Unit} {detected : Except PyError Detection}
  {prompt : String} {context : LaunchContext} {request : LaunchRequest} {call : RunnerCall}

theorem launch_ok
    (h : adapter.launch host which uuid4 validated detected prompt context = .ok request) :
    (∃ executable, adapter.connector.buildExecArgv host
      { executable, prompt, workspacePath := context.workspacePath, readOnly := context.mode } =
        .ok request.argv) ∧
      request.extraEnv = adapter.connector.executionEnvironment true := by
  obtain ⟨prepared, hprepared, h⟩ := bind_eq_ok.mp h
  cases h
  refine ⟨?_, rfl⟩
  obtain ⟨-, -, hprepared⟩ := bind_eq_ok.mp hprepared
  obtain ⟨detection, -, hprepared⟩ := bind_eq_ok.mp hprepared
  split at hprepared
  case h_1 => cases hprepared
  case h_2 executable _ =>
    obtain ⟨argv, hbuild, hprepared⟩ := bind_eq_ok.mp hprepared
    cases hprepared
    exact ⟨executable, hbuild⟩

theorem launches_request
    (h : adapter.Launches host which uuid4 validated detected prompt context call) :
    adapter.launch host which uuid4 validated detected prompt context = .ok call.request := by
  have hmap : ∀ {wrap : LaunchRequest → RunnerCall}, (∀ request, (wrap request).request = request) →
      (adapter.launch host which uuid4 validated detected prompt context).map wrap = .ok call →
        adapter.launch host which uuid4 validated detected prompt context = .ok call.request := by
    intro wrap hwrap hcall
    cases hlaunch : adapter.launch host which uuid4 validated detected prompt context with
    | error error =>
        rw [hlaunch] at hcall
        cases hcall
    | ok request =>
        rw [hlaunch] at hcall
        rw [← Except.ok.inj hcall, hwrap]
  cases h with
  | executed h => exact hmap (fun _ => rfl) h
  | streamed h => exact hmap (fun _ => rfl) h

-- Two of the connectors look at the mode when they make the environment.
theorem executionEnvironment_eq_iff {connector : ConnectorRuntime} {mode : Bool} :
    connector.executionEnvironment true = connector.executionEnvironment mode ↔
      mode = true ∨ (connector ≠ .opencode ∧ connector ≠ .grok) := by
  cases mode with
  | true => simp
  | false => cases connector <;> simp [ConnectorRuntime.executionEnvironment,
      CodexConnectorRuntime.executionEnvironment, ClaudeConnectorRuntime.executionEnvironment,
      OpenCodeConnectorRuntime.executionEnvironment, GrokConnectorRuntime.executionEnvironment,
      CursorConnectorRuntime.executionEnvironment]

theorem one_mode_iff
    (h : adapter.Launches host which uuid4 validated detected prompt context call) :
    OneMode adapter.connector host prompt context call.request ↔
      context.mode = true ∨ (adapter.connector ≠ .opencode ∧ adapter.connector ≠ .grok) := by
  obtain ⟨hargv, henvironment⟩ := launch_ok (launches_request h)
  rw [← executionEnvironment_eq_iff, ← henvironment]
  exact ⟨fun hmode => hmode.environment, fun hsame => ⟨hargv, hsame⟩⟩

end Modes

def writable : LaunchContext where
  workspacePath := "/tmp/ws"
  readOnly := some (.bool false)
  executionId := some "execution"

def detectedAt (path : String) : Except PyError Detection := .ok { executablePath := some path }

theorem codex_one_mode :
    ∃ call, ConnectorHarnessAdapter.Launches ⟨"codex", .codex⟩ linuxHost installed "uuid" (.ok ())
        (detectedAt "/usr/bin/codex") "summarise" writable call ∧
      OneMode .codex linuxHost "summarise" writable call.request :=
  ⟨_, .executed rfl, (@one_mode_iff ⟨"codex", .codex⟩ linuxHost installed "uuid" (.ok ())
    (detectedAt "/usr/bin/codex") "summarise" writable _ (.executed rfl)).mpr (.inr (by decide))⟩

-- A launch that may write is given the permissions of a read-only one.
theorem opencode_write_denied :
    ∃ call, ConnectorHarnessAdapter.Launches ⟨"opencode", .opencode⟩ linuxHost installed "uuid"
        (.ok ()) (detectedAt "/usr/bin/opencode") "summarise" writable call ∧
      writable.mode = false ∧ call.request.extraEnvKeys = ["OPENCODE_PERMISSION"] ∧
      ¬OneMode .opencode linuxHost "summarise" writable call.request := by
  refine ⟨_, .executed rfl, rfl, rfl, fun h => ?_⟩
  have hsame : ConnectorRuntime.executionEnvironment true .opencode =
      ConnectorRuntime.executionEnvironment false .opencode := h.environment
  exact absurd (executionEnvironment_eq_iff.mp hsame) (by decide)

end JoyMesh.Connectors
