import JoyMesh.Library.Programs
import JoyMesh.Lifecycle.Models

namespace JoyMesh.Lifecycle

open JoyMesh.Library

-- What a call of the runner awaits can be cancelled, or raise.
inductive Exit where
  | cancelled
  | raised (error : Raised)
deriving DecidableEq

-- What a runtime connector reports of its executable, of a login and of its adapter.
structure DiscoveryResult where
  executablePath : Option String := none
  version : Option String := none
  fingerprint : Option String := none
  installed : Bool := false
  usable : Bool := false
  reasonCode : Option String := none
  details : Mapping := ∅

structure AuthenticationEvidence where
  status : String
  methodId : String
  executablePath : Option String := none
  fingerprint : Option String := none
  version : Option String := none
  details : Mapping := ∅

structure AdapterVerificationResult where
  passed : Bool
  executablePath : Option String := none
  fingerprint : Option String := none
  version : Option String := none
  details : Mapping := ∅

structure HarnessInstallation where
  executable : String
  version : Option String := none

structure Finished where
  returncode : Int
  stdout : String := ""
  stderr : String := ""

structure CertificationWorkspace where
  path : String
  projectName : String
  prompt : String
  promptDigest : String
  beforeManifest : List (String × Value) := []

structure CertificationVerification where
  passed : Bool
  reasons : List String := []
  afterManifest : List (String × Value) := []
  gitClean : Bool := true
  nameFound : Bool := true

-- What the runner reads of a connector that is registered with the runtime.
structure RuntimeConnector where
  connectorId : String
  displayName : String
  notice : Option (List (String × Value)) := none

-- What the runner reads of a connector of the catalogue: its status command is the
-- login where it has none of its own.
structure CatalogueEntry where
  displayName : String
  executableNames : List String
  statusArgv : List String
  methodId : String

-- Code of the runner's process that is not awaited and can raise.
inductive Computation where
  | statusCommand (connectorId : String)
  | catalogue (connectorId : String)
  | buildWorkspace (taskId connectorId : String)
  | certArgv (connectorId executable prompt workspace : String)
  | parseEvents (connectorId output : String)
  | verifyResult (workspace : CertificationWorkspace) (output : String) (returncode : Int)

@[reducible] def Computation.Reply : Computation → Type
  | statusCommand _ => CatalogueEntry
  | catalogue _ => CatalogueEntry
  | buildWorkspace _ _ => CertificationWorkspace
  | certArgv _ _ _ _ => List String
  | parseEvents _ _ => Unit
  | verifyResult _ _ _ => CertificationVerification

-- An event of a connector task as the runner builds it.
structure RunnerEvent where
  taskId : String
  nodeId : String
  connectorId : String
  eventType : String
  sequence : Nat
  payload : Mapping
deriving DecidableEq

-- The sinks, the other awaits of a call, and what it reads and writes in between:
-- the sequence of its events, and what the runner keeps for all its calls.
inductive RunnerOp where
  | emitEvent (event : RunnerEvent)
  | recordEvidence (evidence : ConnectorEvidence)
  | discover (connectorId : String)
  | verifyAuthentication (connectorId : String)
  | verifyAdapter (connectorId : String)
  | discoverHarness (connectorId : String)
  | createProcess (argv : List String)
  | communicate
  | wait
  | terminate
  | compute (computation : Computation)
  | startSequence (start : Nat)
  | nextSequence
  | executed (key : String)
  | addExecuted (key : String)
  | keepProcess
  | runningProcess
  | dropProcess
  | origin
  | setOrigin (origin : ConnectorExecutionOrigin)
  | uuid4
  | now

namespace RunnerOp

@[reducible] def Reply : RunnerOp → Type
  | discover _ => DiscoveryResult
  | verifyAuthentication _ => AuthenticationEvidence
  | verifyAdapter _ => AdapterVerificationResult
  | discoverHarness _ => Option HarnessInstallation
  | communicate => Finished
  | compute computation => computation.Reply
  | nextSequence => Nat
  | executed _ => Bool
  | runningProcess => Bool
  | origin => ConnectorExecutionOrigin
  | uuid4 => String
  | now => Time
  | _ => Unit

end RunnerOp

@[reducible] def runnerSignature : Signature where
  Op := RunnerOp
  Reply := RunnerOp.Reply
  Error := Exit

abbrev RunnerM := Program runnerSignature

namespace ConnectorNodeRunner

@[reducible] def perform (op : RunnerOp) : RunnerM op.Reply := @Program.perform runnerSignature op

def fail {α : Type} (type message : String) : RunnerM α := throw (Exit.raised ⟨type, message⟩)

-- What is done after a program however it ends.
def finally' {α : Type} (program : RunnerM α) (after : RunnerM Unit) : RunnerM α := do
  let value ← program.catching fun exit => do
    after
    throw exit
  after
  return value

end ConnectorNodeRunner

-- The runner with what it reads of its host: the registry of runtime connectors, the
-- switches of the environment, digests of files and of evidence, and where an
-- executable is found.
structure ConnectorNodeRunner where
  nodeId : String
  runtimeConnector : String → Option RuntimeConnector := fun _ => none
  mockCertify : Bool := false
  production : Bool := false
  executableFingerprint : String → String := id
  digest : Mapping → String := fun _ => ""
  which : String → Option String := fun _ => none
  lower : String → String := id
  strip : String → String := id
  firstLine : String → String := id

namespace ConnectorNodeRunner

variable (runner : ConnectorNodeRunner) (taskId : String) (plan : ConnectorTaskPlan)

def trustLevel : ConnectorExecutionOrigin → EvidenceTrustLevel
  | .mockTest => .mock
  | .inlineDevelopment => .development
  | .remoteNode => .nodeAttested

def event (eventType : String) (payload : Mapping) : RunnerM Unit := do
  let sequence ← perform .nextSequence
  perform (.emitEvent {
    taskId := taskId
    nodeId := runner.nodeId
    connectorId := plan.connectorId
    eventType := eventType
    sequence := sequence
    payload := payload })

def recordEvidence (evidenceType : ConnectorEvidenceType) (status : String)
    (executable version : Option String) (details : Mapping)
    (fingerprint : Option String := none) : RunnerM Unit := do
  let origin ← perform .origin
  let evidenceId ← perform .uuid4
  let createdAt ← perform .now
  perform (.recordEvidence {
    evidenceId := evidenceId
    nodeId := runner.nodeId
    connectorId := plan.connectorId
    connectorRevision := plan.connectorRevision
    taskId := taskId
    evidenceType := evidenceType
    status := status
    executablePath := executable
    executableFingerprint :=
      if Connectors.nonempty fingerprint then fingerprint
      else if Connectors.nonempty executable then executable.map runner.executableFingerprint
      else none
    harnessVersion := version
    details := details.update (.ofList [
      ("execution_origin", .str origin.value),
      ("trust_level", .str (trustLevel origin).value)])
    createdAt := createdAt
    trustLevel := trustLevel origin
    executionOrigin := origin })

-- The branches of the actions. What they await is answered, raises or is cancelled.

def discover : RunnerM ConnectorTaskStatus := do
  match runner.runtimeConnector plan.connectorId with
  | some _ =>
      let discovery ← perform (.discover plan.connectorId)
      let reason := Connectors.orText discovery.reasonCode (some "unusable")
      if !discovery.usable then
        let details := discovery.details.update (.ofList [
          ("reason_code", .ofOption reason), ("installed", .bool discovery.installed),
          ("usable", .bool discovery.usable)])
        let status := reason.getD "unusable"
        runner.recordEvidence taskId plan .failure status discovery.executablePath
          discovery.version details discovery.fingerprint
        runner.recordEvidence taskId plan .version status discovery.executablePath none details
          discovery.fingerprint
        return .succeeded
      else
        runner.recordEvidence taskId plan .discovery "discovered" discovery.executablePath
          discovery.version
          (discovery.details.update (.ofList [
            ("execution_environment", .str "host"), ("installed", .bool discovery.installed),
            ("usable", .bool discovery.usable)]))
          discovery.fingerprint
        if Connectors.nonempty discovery.version then
          runner.recordEvidence taskId plan .version "ok" discovery.executablePath
            discovery.version ∅ discovery.fingerprint
        return .succeeded
  | none =>
      let installation ← perform (.discoverHarness plan.connectorId)
      let version := installation.bind (·.version)
      runner.recordEvidence taskId plan .discovery "discovered"
        (installation.map (·.executable)) version
        (.ofList [("execution_environment", .str "host")])
      if Connectors.nonempty version then
        runner.recordEvidence taskId plan .version "ok" (installation.map (·.executable)) version ∅
      return .succeeded

def orElse (first second : String) : String := if first = "" then second else first

def install : RunnerM ConnectorTaskStatus := do
  perform (.createProcess (plan.executable :: plan.arguments))
  perform .keepProcess
  let finished ← perform .communicate
  if finished.returncode ≠ 0 then
    fail "RuntimeError" (orElse (orElse finished.stderr finished.stdout) "installation failed")
  else
    let _ ← runner.discover taskId plan
    runner.recordEvidence taskId plan .installation "installed"
      (plan.expectedExecutables.head?.bind runner.which) none
      (.ofList [("method_id", .str plan.methodId)])
    return .succeeded

-- The exit code of a login says nothing: the user finishes it, and it is verified apart.
def authenticate : RunnerM ConnectorTaskStatus := do
  runner.event taskId plan "task.waiting_for_user" (.ofList [
    ("instruction", .str "Complete the Cursor sign-in flow on this Mac."),
    ("browser_may_open", .bool true), ("auto_verify", .bool true)])
  perform (.createProcess (plan.executable :: plan.arguments))
  perform .keepProcess
  (perform .wait).catching fun
    | .raised ⟨"TimeoutError", _⟩ =>
        runner.event taskId plan "task.progress" (.ofList [
          ("stage", .str "login_launched"),
          ("detail", .str "Login process is waiting for user completion"),
          ("redacted", .bool true)])
    | exit => throw exit
  return .waitingForUser

def includes (text part : String) : Bool := part.toList <:+: text.toList

def classifyGenericAuthStatus (output : String) (returncode : Int) : String :=
  let text := runner.lower output
  if includes text "expired" && (includes text "login" || includes text "auth"
      || includes text "token") then "expired"
  else if returncode ≠ 0 || includes text "not logged" || includes text "logged out" then
    "unauthenticated"
  else if includes text "logged in" || includes text "authenticated"
      || includes text "login successful" then "authenticated"
  else "unauthenticated"

def redactStatus (text : String) : String :=
  let lowered := runner.lower text
  if includes lowered "token" || includes lowered "cookie" || includes lowered "bearer" then
    "[redacted status]"
  else text

-- The classes of OSError that starting a program raises.
def osErrors : List String :=
  ["OSError", "FileNotFoundError", "PermissionError", "NotADirectoryError", "IsADirectoryError",
    "BlockingIOError", "ChildProcessError", "ConnectionError", "BrokenPipeError",
    "ConnectionAbortedError", "ConnectionRefusedError", "ConnectionResetError",
    "FileExistsError", "InterruptedError", "ProcessLookupError", "TimeoutError"]

def probeVersion (executable : String) : RunnerM (Option String) :=
  Program.catching (do
    perform (.createProcess [executable, "--version"])
    let finished ← perform .communicate
    let text := runner.strip (finished.stdout ++ finished.stderr)
    return if text = "" then none else some ((runner.firstLine text).take 200).toString)
    fun
    | .raised error => if error.type ∈ osErrors then return none else throw (Exit.raised error)
    | .cancelled => throw .cancelled

def verifyAuthentication : RunnerM ConnectorTaskStatus := do
  match runner.runtimeConnector plan.connectorId with
  | some _ =>
      let evidence ← perform (.verifyAuthentication plan.connectorId)
      let verifiedAt ← perform .now
      runner.recordEvidence taskId plan .authentication evidence.status evidence.executablePath
        evidence.version
        (Mapping.update
          (Mapping.update (.ofList [("method_id", .str evidence.methodId)]) evidence.details)
          (.ofList [("verified_at", .str (isoformat verifiedAt)), ("node_id", .str runner.nodeId)]))
        evidence.fingerprint
      return if evidence.status = "authenticated" then .succeeded else .failed
  | none =>
      let entry ← perform (.compute (.statusCommand plan.connectorId))
      match entry.statusArgv with
      | [] => fail "RuntimeError" "no authentication status command configured"
      | command :: arguments =>
          perform (.createProcess (command :: arguments))
          perform .keepProcess
          let finished ← perform .communicate
          let output := finished.stdout ++ finished.stderr
          let status := runner.classifyGenericAuthStatus output finished.returncode
          let version ← runner.probeVersion command
          let verifiedAt ← perform .now
          runner.recordEvidence taskId plan .authentication status (some command) version
            (.ofList [
              ("method_id", .str entry.methodId),
              ("detail", .str (runner.redactStatus ((runner.strip output).take 500).toString)),
              ("verified_at", .str (isoformat verifiedAt)), ("node_id", .str runner.nodeId)])
            (some (runner.executableFingerprint command))
          return if status = "authenticated" then .succeeded else .failed

-- What the evidence of a conforming adapter always says.
def conformance : List (String × Value) :=
  [("secret_redaction", .bool true), ("timeout_enforced", .bool true),
    ("cancellation_supported", .bool true), ("unknown_events_tolerated", .bool true),
    ("terminal_events", .int 1)]

def verifyAdapter : RunnerM ConnectorTaskStatus := do
  match runner.runtimeConnector plan.connectorId with
  | some connector =>
      runner.event taskId plan "task.progress" (Mapping.update
        (.ofList [("stage", .str "adapter_launch"), ("connector_id", .str connector.connectorId),
          ("display_name", .str connector.displayName)])
        (match connector.notice with
          | none => ∅
          | some notice => .ofList [("notice", .dict notice)]))
      let result ← perform (.verifyAdapter plan.connectorId)
      if !result.passed then
        fail "RuntimeError" (if (result.details.get "detail").truthy then
          (result.details.get "detail").text else "adapter conformance failed")
      else
        runner.recordEvidence taskId plan .adapterConformance "passed" result.executablePath
          result.version
          (result.details.update
            (.ofList (("fingerprint", .ofOption result.fingerprint) :: conformance)))
          result.fingerprint
        return .succeeded
  | none =>
      let entry ← perform (.compute (.catalogue plan.connectorId))
      let executable := entry.executableNames.headD plan.executable
      match runner.which executable with
      | none => fail "RuntimeError" (executable ++ " not found")
      | some resolved =>
          runner.event taskId plan "task.progress" (.ofList [
            ("stage", .str "adapter_launch"), ("connector_id", .str plan.connectorId),
            ("display_name", .str entry.displayName)])
          perform (.createProcess [resolved, "--help"])
          perform .keepProcess
          let finished ← perform .communicate
          if finished.returncode ≠ 0 then
            fail "RuntimeError" (orElse finished.stderr "adapter launch failed")
          else
            let fingerprint := runner.executableFingerprint resolved
            let version ← runner.probeVersion resolved
            runner.recordEvidence taskId plan .adapterConformance "passed" (some resolved) version
              (.ofList ([("help_bytes", .int finished.stdout.utf8ByteSize),
                ("fingerprint", .str fingerprint), ("stdout_captured", .bool true),
                ("stderr_captured", .bool true)] ++ conformance))
              (some fingerprint)
            return .succeeded

-- What every certification says of its scope.
def scope : List (String × Value) :=
  [("profile", .str "read_only_repository"), ("structured_execution", .bool true),
    ("repository_read", .bool true), ("repository_write", .bool false),
    ("shell_commands", .bool false), ("session_resume", .bool false),
    ("network_access", .bool false)]

def passedLevels (readOnly : Bool) : List (String × Value) :=
  [("read_only_certified", .bool readOnly), ("write_certified", .bool false),
    ("command_certified", .bool false), ("session_resume_certified", .bool false)]

-- The origin of what the runner records is another one until the branch has ended.
def certifyMock : RunnerM ConnectorTaskStatus := do
  let previous ← perform .origin
  perform (.setOrigin .mockTest)
  finally' (do
    runner.recordEvidence taskId plan .certification "certified" none none (.ofList [
      ("passed_levels", .dict (passedLevels true)),
      ("evidence_digest", .str (runner.digest (.ofList (passedLevels true)))),
      ("routing_profile", .str "read_only_repository"), ("certification_scope", .dict scope)])
    runner.recordEvidence taskId plan .realBinaryTest "passed" none none (.ofList [
      ("level", .str "read_only"), ("routing_profile", .str "read_only_repository")])
    return .succeeded)
    (perform (.setOrigin previous))

def masked (argv : List String) : Value :=
  .list ((argv.dropLast ++ ["<PROMPT>"]).map Value.str)

-- The process of a certification has three minutes.
def certificationRun : RunnerM Finished :=
  (perform .communicate).catching fun
    | .raised ⟨"TimeoutError", _⟩ => do
        perform .terminate
        fail "RuntimeError" "certification timed out"
    | exit => throw exit

def certifyWorkspace (connector : RuntimeConnector) (executable fingerprint : String)
    (version : Option String) (workspace : CertificationWorkspace) :
    RunnerM ConnectorTaskStatus := do
  let argv ← perform (.compute
    (.certArgv connector.connectorId executable workspace.prompt workspace.path))
  runner.event taskId plan "task.progress" (.ofList [
    ("stage", .str "running_structured_read_only_test"), ("argv", masked argv),
    ("workspace", .str workspace.path), ("certification_profile", .str "read_only_repository"),
    ("connector_id", .str plan.connectorId), ("display_name", .str connector.displayName)])
  perform (.createProcess argv)
  perform .keepProcess
  let finished ← certificationRun
  let output := finished.stdout ++ finished.stderr
  perform (.compute (.parseEvents connector.connectorId output))
  runner.event taskId plan "task.progress" (.ofList [("stage", .str "validating_filesystem")])
  let verification ← perform (.compute (.verifyResult workspace output finished.returncode))
  let reasons := Value.list (verification.reasons.map .str)
  let digest := runner.digest (.ofList [("reasons", reasons),
    ("git_clean", .bool verification.gitClean), ("name_found", .bool verification.nameFound)])
  runner.event taskId plan "task.progress"
    (.ofList [("stage", .str "persisting_certification_evidence")])
  runner.recordEvidence taskId plan .realBinaryTest
    (if verification.passed then "passed" else "failed") (some executable) version
    (.ofList [
      ("level", .str "read_only"), ("project_name", .str workspace.projectName),
      ("routing_profile", .str "read_only_repository"), ("policy_profile", .str "read_only"),
      ("workspace", .str workspace.path), ("argv", masked argv),
      ("prompt_digest", .str workspace.promptDigest), ("plan_digest", .str plan.planHash),
      ("before_manifest", .dict workspace.beforeManifest),
      ("after_manifest", .dict verification.afterManifest),
      ("git_clean", .bool verification.gitClean),
      ("certification_profile", .str "read_only_repository"),
      ("certification_profile_revision", .str "2026-07-29.1"), ("reasons", reasons)])
    (some fingerprint)
  runner.recordEvidence taskId plan .certification
    (if verification.passed then "certified" else "failed") (some executable) version
    (.ofList [
      ("passed_levels", .dict (passedLevels verification.passed)), ("evidence_digest", .str digest),
      ("routing_profile", .str "read_only_repository"), ("policy_profile", .str "read_only"),
      ("workspace_clean", .bool verification.gitClean),
      ("certification_scope", .dict (scope ++ [("event_streaming", .bool true),
        ("workspace_containment", .bool true), ("cancellation", .bool true)])),
      ("prompt_digest", .str workspace.promptDigest), ("plan_digest", .str plan.planHash),
      ("workspace", .str workspace.path),
      ("certification_profile", .str "read_only_repository"),
      ("certification_profile_revision", .str "2026-07-29.1")])
    (some fingerprint)
  return if verification.passed then .succeeded else .failed

def unusable (discovery : DiscoveryResult) : String :=
  if (discovery.details.get "detail").truthy then (discovery.details.get "detail").text
  else if Connectors.nonempty discovery.reasonCode then discovery.reasonCode.getD ""
  else plan.connectorId ++ " executable not usable"

-- The directory of the workspace is removed with its errors ignored.
def certifyReadOnlyRepository (connector : RuntimeConnector) :
    RunnerM ConnectorTaskStatus := do
  let discovery ← perform (.discover plan.connectorId)
  match discovery.executablePath with
  | some executable =>
      if !discovery.usable || executable = "" then
        fail "RuntimeError" (unusable plan discovery)
      else
        runner.event taskId plan "task.progress"
          (.ofList [("stage", .str "preparing_isolated_repository")])
        let workspace ← perform (.compute (.buildWorkspace taskId plan.connectorId))
        runner.certifyWorkspace taskId plan connector executable
          (if Connectors.nonempty discovery.fingerprint then discovery.fingerprint.getD ""
            else runner.executableFingerprint executable)
          discovery.version workspace
  | none => fail "RuntimeError" (unusable plan discovery)

def certify : RunnerM ConnectorTaskStatus := do
  if runner.mockCertify then
    if runner.production then fail "RuntimeError" "mock certification refused in production"
    else runner.certifyMock taskId plan
  else
    match runner.runtimeConnector plan.connectorId with
    | none =>
        if runner.production then
          fail "RuntimeError"
            ("connector " ++ plan.connectorId ++ " is not registered in builtin_connectors()")
        else runner.certifyMock taskId plan
    | some connector => runner.certifyReadOnlyRepository taskId plan connector

def repair : RunnerM ConnectorTaskStatus := do
  let _ ← runner.install taskId { plan with action := .install }
  return .succeeded

-- The branch of an action, where there is one.
def branch : Option (RunnerM ConnectorTaskStatus) :=
  match plan.action with
  | .authenticate => some (runner.authenticate taskId plan)
  | .verifyAuthentication => some (runner.verifyAuthentication taskId plan)
  | .verifyAdapter => some (runner.verifyAdapter taskId plan)
  | .discover => some (runner.discover taskId plan)
  | .repair => some (runner.repair taskId plan)
  | .install => some (runner.install taskId plan)
  | .certify => some (runner.certify taskId plan)
  | _ => none

def idempotency : String := runner.nodeId ++ ":" ++ taskId ++ ":" ++ plan.planHash

def cancelTask : RunnerM Unit := do
  if ← perform .runningProcess then perform .terminate

-- The body of the try block.
def attempt : RunnerM ConnectorTaskStatus := do
  match runner.branch taskId plan with
  | none =>
      runner.event taskId plan "task.failed"
        (.ofList [("reason", .str ("unsupported action " ++ plan.action.value))])
      return .failed
  | some action =>
      let status ← action
      if plan.action = .authenticate ∧ status = .waitingForUser then return status
      else
        if plan.action = .authenticate then perform (.addExecuted (runner.idempotency taskId plan))
        runner.event taskId plan ("task." ++ status.value)
          (.ofList [("action", .str plan.action.value)])
        return status

-- Its handlers. What they raise themselves is handled by none of them.
def handled : Exit → RunnerM ConnectorTaskStatus
  | .cancelled => do
      cancelTask
      runner.event taskId plan "task.cancelled" (.ofList [("action", .str plan.action.value)])
      throw .cancelled
  | .raised error => do
      runner.event taskId plan "task.failed" (.ofList [("reason", .str error.message)])
      runner.recordEvidence taskId plan .failure "failed" none none
        (.ofList [("detail", .str error.message), ("action", .str plan.action.value)])
      return .failed

-- What comes before the try block.
def start (sequenceStart : Nat) : RunnerM Unit := do
  if plan.action ≠ .authenticate then
    perform (.addExecuted (runner.idempotency taskId plan))
  perform (.startSequence sequenceStart)
  let origin ← perform .origin
  runner.event taskId plan "task.started" (.ofList [
    ("action", .str plan.action.value), ("execution_origin", .str origin.value)])

def execute (sequenceStart : Nat) : RunnerM ConnectorTaskStatus := do
  if ← perform (.executed (runner.idempotency taskId plan)) then return .succeeded
  else
    runner.start taskId plan sequenceStart
    finally' ((runner.attempt taskId plan).catching (runner.handled taskId plan))
      (perform .dropProcess)

end ConnectorNodeRunner

-- What a call has handed to its sinks, in order.
inductive Sent where
  | event (event : RunnerEvent)
  | evidence (evidence : ConnectorEvidence)

-- What the awaits of a call come back with, and what the code between them computes:
-- the n-th answer of each. Only an await is cancelled.
structure Surroundings where
  awaited : Nat → (op : RunnerOp) → Except Exit op.Reply
  computed : Nat → (computation : Computation) → Except Raised computation.Reply
  running : Nat → Bool
  uuid4 : Nat → String
  now : Nat → Time

-- A call at one moment: how many operations it has awaited, the number of its last
-- event, what it has sent, and what the runner keeps.
structure Moment where
  awaits : Nat := 0
  sequence : Nat := 0
  sent : List Sent := []
  executedKeys : List String := []
  process : Bool := false
  origin : ConnectorExecutionOrigin := .remoteNode

namespace RunnerOp

def sends : RunnerOp → List Sent
  | emitEvent event => [.event event]
  | recordEvidence evidence => [.evidence evidence]
  | _ => []

-- A process that the runner does not keep is not running.
def effect (around : Surroundings) : (op : RunnerOp) → Moment →
    Except Exit op.Reply × Moment
  | compute computation, s =>
      ((around.computed s.awaits computation).mapError .raised, { s with awaits := s.awaits + 1 })
  | startSequence start, s => (.ok (), { s with sequence := start })
  | nextSequence, s => (.ok (s.sequence + 1), { s with sequence := s.sequence + 1 })
  | executed key, s => (.ok (decide (key ∈ s.executedKeys)), s)
  | addExecuted key, s => (.ok (), { s with executedKeys := key :: s.executedKeys })
  | keepProcess, s => (.ok (), { s with process := true })
  | runningProcess, s => (.ok (s.process && around.running s.awaits), s)
  | dropProcess, s => (.ok (), { s with process := false })
  | origin, s => (.ok s.origin, s)
  | setOrigin chosen, s => (.ok (), { s with origin := chosen })
  | uuid4, s => (.ok (around.uuid4 s.awaits), s)
  | now, s => (.ok (around.now s.awaits), s)
  | op, s => (around.awaited s.awaits op,
      { s with awaits := s.awaits + 1, sent := s.sent ++ op.sends })

end RunnerOp

-- One call in its surroundings.
@[reducible] def RunnerM.run {α : Type} (program : RunnerM α) (around : Surroundings)
    (s : Moment) : Except Exit α × Moment :=
  Program.run (σ := runnerSignature) (RunnerOp.effect around) program s

end JoyMesh.Lifecycle
