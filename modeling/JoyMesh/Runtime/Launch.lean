import JoyMesh.Runtime.Tasks

namespace JoyMesh.Runtime

open Library Routing

-- The planner's input. What the bridge leaves at its default is left out, and
-- of the routing preferences the policy reads only these.
structure MissionSpec where
  prompt : String
  workspacePath : String
  missionId : String
  preferredHarness : Option String
  requiredCapabilities : List ExecutionCapability
  requiresProviderRoute : Bool
  requiresRemoteWorker : Bool
  requiresLocalFilesystem : Bool
  localityPreference : String
  timeoutSeconds : Nat
  preferredConnectors : List String
  policyProfile : String
  runtimeTaskId : String
deriving DecidableEq, Repr

def mapRuntimeCapability (value : String) : Option ExecutionCapability :=
  [("internet", ExecutionCapability.internet), ("gpu", .gpu), ("filesystem", .filesystem),
    ("browser", .browser), ("vision", .vision), ("voice", .voice),
    ("multi_agent", .multiAgent)].lookup value

def missionSpecFromTask (task : RuntimeTaskRecord) (prompt workspacePath localityPreference : String)
    (requiresRemoteWorker : Bool) : MissionSpec where
  prompt := prompt
  workspacePath := workspacePath
  missionId := task.missionId.getD task.taskId
  preferredHarness := task.requiredConnector.or task.preferredConnectors.head?
  requiredCapabilities :=
    (if task.expandedCapabilities = [] then task.requestedCapabilities
      else task.expandedCapabilities).filterMap mapRuntimeCapability
  requiresProviderRoute := task.requiredProvider.any fun provider =>
    provider ∉ ["", "native", "local"]
  requiresRemoteWorker := requiresRemoteWorker
  requiresLocalFilesystem := !requiresRemoteWorker
  localityPreference := localityPreference
  timeoutSeconds := task.timeoutSeconds
  preferredConnectors := task.preferredConnectors
  policyProfile := task.policyProfile
  runtimeTaskId := task.taskId

-- What the analysis of the prompt adds to a mission.
structure TaskAnalysis where
  derivedExecutionCapabilities : List ExecutionCapability := []
  prefersLocal : Bool := false
  privacyRequired : Bool := false
deriving DecidableEq, Repr

def plan (analysis : TaskAnalysis) (executionId : String) (mission : MissionSpec) :
    ExecutionIntent where
  missionId := mission.missionId
  executionId := executionId
  prompt := mission.prompt
  workspacePath := mission.workspacePath
  requiredCapabilities :=
    (mission.requiredCapabilities ++ analysis.derivedExecutionCapabilities ++
      (if mission.requiresLocalFilesystem then [ExecutionCapability.filesystem] else []) ++
      [ExecutionCapability.persistentWorkspace] ++
      (if mission.requiresProviderRoute then [ExecutionCapability.providerRouting] else []) ++
      (if mission.requiresRemoteWorker then [ExecutionCapability.remoteWorker] else [])).dedup
  preferredHarness := mission.preferredHarness
  requiresProviderRoute := mission.requiresProviderRoute
  localityPreference := mission.localityPreference
  timeoutSeconds := mission.timeoutSeconds
  policyProfile := some mission.policyProfile
  routingPreferences :=
    { preset := some "balanced"
      preferLocal := some (mission.localityPreference = "local" ∨ analysis.prefersLocal ∨
        analysis.privacyRequired)
      preferCheapest := some false
      preferFastest := some false
      preferStrongestReasoning := some false
      preferOpenModels := some false
      avoidPaidApis := some false
      maximizeQuality := some false
      preferredConnectors := mission.preferredConnectors }
  runtimeTaskId := some mission.runtimeTaskId

-- What a harness adapter is run with. The coding worker passes on no backend
-- and no profile.
structure HarnessContext where
  executionId : String
  workspacePath : String
  timeoutSeconds : Nat
  readOnly : Bool
  policyProfile : Option String := none
  backendId : Option String := none
deriving DecidableEq, Repr

structure CodingWorkerAllowedActions where
  editFiles : Bool := true
  runTests : Bool := true
  commit : Bool := false
  push : Bool := false
deriving DecidableEq, Repr

structure CodingWorkerTask where
  taskId : String
  missionId : String
  executionId : String
  repositoryPath : String
  objective : String
  constraints : List String
  allowedActions : CodingWorkerAllowedActions
  timeoutSeconds : Nat
deriving DecidableEq, Repr

-- Built without a look at the capabilities that the task was granted, apart
-- from the Git ones.
def codingWorkerTask (task : RuntimeTaskRecord) (intent : ExecutionIntent) : CodingWorkerTask :=
  let restricted := task.policyProfile ∈ ["read_only", "production_restricted", "ci"]
  let allow (capability : String) : Bool := capability ∈ task.requestedCapabilities ∧
    capability ∉ task.prohibitedCapabilities ∧ ¬restricted
  let allowCommit := allow "git.commit"
  let allowPush := allow "git.push"
  { taskId := task.taskId
    missionId := task.missionId.getD task.taskId
    executionId := intent.executionId
    repositoryPath := intent.workspacePath
    objective := intent.prompt
    constraints :=
      (if allowCommit then [] else ["Do not commit"]) ++ (if allowPush then [] else ["Do not push"]) ++
        ["Stay inside the repository"]
    allowedActions := { editFiles := true, runTests := true, commit := allowCommit, push := allowPush }
    timeoutSeconds := task.timeoutSeconds }

-- The path is the one that the inspection of the repository returned.
def CodingWorkerTask.context (task : CodingWorkerTask) (safePath : String) : HarnessContext where
  executionId := task.executionId
  workspacePath := safePath
  timeoutSeconds := task.timeoutSeconds
  readOnly := !task.allowedActions.editFiles

def localBackendContext (intent : ExecutionIntent) : HarnessContext :=
  let policyProfile := match intent.policyProfile with
    | some profile => if profile = "" then "read_only" else profile
    | none => "read_only"
  { executionId := intent.executionId
    workspacePath := intent.workspacePath
    timeoutSeconds := intent.timeoutSeconds
    readOnly := policyProfile ∈ ["read_only", "production_restricted"]
    policyProfile := some policyProfile
    backendId := some "local" }

-- The local Codex route bypasses the backend.
def codingWorkerRoute (decision : ExecutionDecision) : Bool :=
  decision.selectedBackendId = "local" ∧ decision.selectedHarnessId = "codex"

-- The harness run that a routed task may begin on this machine, through the
-- coding worker or through LocalBackend.execute.
def launch (task : RuntimeTaskRecord) (intent : ExecutionIntent) (decision : ExecutionDecision)
    (safePath : String) : Option HarnessContext :=
  if codingWorkerRoute decision then
    some ((codingWorkerTask task intent).context safePath)
  else if "local" ∈ decision.order then some (localBackendContext intent)
  else none

-- The record with which create_task, or a later approve_task, enters route_task.
def Admitted (engine : PolicyEngine) (order : Iteration) (body : CreateRuntimeTaskBody)
    (taskId : String) (task : RuntimeTaskRecord) : Prop :=
  (createTask engine order body taskId = .ok task ∧ task.status = .routing) ∨
    ∃ stored, createTask engine order body taskId = .ok stored ∧ stored.approve = .ok task

def WriteGated (verdict : PolicyDecision) (run : HarnessContext) : Prop :=
  run.readOnly = false → ∃ capability ∈ verdict.grantedCapabilities,
    capability ∈ mutatingCapabilities

section Gate

variable {engine : PolicyEngine} {order : Iteration} {body : CreateRuntimeTaskBody}
  {taskId : String} {task : RuntimeTaskRecord} {verdict : PolicyDecision}

theorem Admitted.created (h : Admitted engine order body taskId task) :
    ∃ stored, createTask engine order body taskId = .ok stored ∧ stored.status ≠ .rejected ∧
      task.policyProfile = stored.policyProfile := by
  rcases h with ⟨h, hs⟩ | ⟨stored, h, happroved⟩
  · exact ⟨task, h, by simp [hs], rfl⟩
  · unfold RuntimeTaskRecord.approve at happroved
    split at happroved
    · cases happroved
    next hs =>
      obtain rfl := Except.ok.inj happroved
      have hs : stored.status = .approvalRequired := not_not.mp hs
      exact ⟨stored, h, by simp [hs], rfl⟩

theorem Admitted.policyProfile (h : Admitted engine order body taskId task) :
    task.policyProfile = body.policyProfile := by
  obtain ⟨stored, hstored, -, hsame⟩ := h.created
  exact hsame.trans (createTask_kept hstored).2.1

theorem Admitted.granted (h : Admitted engine order body taskId task)
    (hverdict : engine.evaluate order (body.request taskId) = .ok verdict) {capability : String} :
    capability ∈ verdict.grantedCapabilities ↔
      Required engine.registry body.requestedCapabilities capability := by
  obtain ⟨stored, hstored, hs, -⟩ := h.created
  obtain ⟨decision, hdecision, hallowed⟩ := createTask_allowed hstored hs
  obtain rfl := Except.ok.inj (hdecision.symm.trans hverdict)
  rw [expandCapabilities_mem_iff (PolicyEngine.evaluate_allowed hdecision hallowed)]
  simp only [Required, CreateRuntimeTaskBody.request, List.mem_dedup]

theorem localBackendContext_readOnly {intent : ExecutionIntent} {profile : String}
    (h : intent.policyProfile = some profile) :
    (localBackendContext intent).readOnly = true ↔
      profile ∈ ["", "read_only", "production_restricted"] := by
  by_cases hp : profile = ""
  · subst hp
    simp [localBackendContext, h]
  · simp [localBackendContext, h, hp]

-- The mode of a run is decided by its path and the name of the profile alone.
theorem launch_readOnly {analysis : TaskAnalysis} {decision : ExecutionDecision}
    {executionId prompt workspacePath locality safePath : String} {remote : Bool}
    {run : HarnessContext}
    (h : launch task (plan analysis executionId
      (missionSpecFromTask task prompt workspacePath locality remote)) decision safePath =
        some run) :
    run.readOnly = true ↔ codingWorkerRoute decision = false ∧
      task.policyProfile ∈ ["", "read_only", "production_restricted"] := by
  unfold launch at h
  split at h
  next hworker =>
    obtain rfl := Option.some.inj h
    simp [CodingWorkerTask.context, codingWorkerTask, hworker]
  next hworker =>
    split at h
    · obtain rfl := Option.some.inj h
      rw [localBackendContext_readOnly rfl]
      simp [hworker, missionSpecFromTask]
    · cases h

-- Over every request, engine and route.
theorem write_gated_iff (hadmitted : Admitted engine order body taskId task)
    (hverdict : engine.evaluate order (body.request taskId) = .ok verdict)
    {analysis : TaskAnalysis} {decision : ExecutionDecision}
    {executionId prompt workspacePath locality safePath : String} {remote : Bool}
    {run : HarnessContext}
    (hlaunch : launch task (plan analysis executionId
      (missionSpecFromTask task prompt workspacePath locality remote)) decision safePath =
        some run) :
    WriteGated verdict run ↔
      (codingWorkerRoute decision = false ∧
        body.policyProfile ∈ ["", "read_only", "production_restricted"]) ∨
      ∃ capability ∈ mutatingCapabilities,
        Required engine.registry body.requestedCapabilities capability := by
  have hmode := launch_readOnly hlaunch
  rw [hadmitted.policyProfile] at hmode
  have hgranted : (∃ capability ∈ verdict.grantedCapabilities, capability ∈ mutatingCapabilities) ↔
      ∃ capability ∈ mutatingCapabilities,
        Required engine.registry body.requestedCapabilities capability := by
    constructor
    · rintro ⟨capability, hm, hmutating⟩
      exact ⟨capability, hmutating, (hadmitted.granted hverdict).mp hm⟩
    · rintro ⟨capability, hmutating, hr⟩
      exact ⟨capability, (hadmitted.granted hverdict).mpr hr, hmutating⟩
  rw [WriteGated, hgranted, ← hmode]
  cases run.readOnly <;> simp

end Gate

section Runs

def sampleRead : CreateRuntimeTaskBody where
  workspaceId := "workspace"
  prompt := "summarise"
  requestedCapabilities := ["repository.read"]

def samplePatch : CreateRuntimeTaskBody where
  workspaceId := "workspace"
  prompt := "fix"
  policyProfile := "developer"
  requestedCapabilities := ["repository.patch"]

def sampleRoute (backendId harnessId : String) : ExecutionDecision where
  executionId := "execution"
  selectedBackendId := backendId
  selectedHarnessId := harnessId
  reason := "selected"
  fallbackOrder := []
  providerRoutingRequired := false

def sampleLaunch (task : RuntimeTaskRecord) (prompt : String) (decision : ExecutionDecision) :
    Option HarnessContext :=
  launch task (plan {} "execution" (missionSpecFromTask task prompt "/repo" "local" false))
    decision "/repo"

def sampleEngine : PolicyEngine := .create

-- The record of the sample request to read, with what it was granted.
def sampleReadTask : RuntimeTaskRecord :=
  (sampleRead.request "task").record none
    ["repository.read", "filesystem.read", "workspace.contained"] .routing false none

def samplePatchTask : RuntimeTaskRecord :=
  (samplePatch.request "task").record none
    ["repository.patch", "repository.write", "filesystem.write", "workspace.contained"]
    .approvalRequired true none

theorem samplePatch_created :
    createTask sampleEngine .asGiven samplePatch "task" = .ok samplePatchTask := by
  decide +kernel

theorem write_gated_patch : ∃ task verdict run,
    Admitted sampleEngine .asGiven samplePatch "task" task ∧
      sampleLaunch task "fix" (sampleRoute "local" "codex") = some run ∧ WriteGated verdict run := by
  have hcreated := samplePatch_created
  have hverdict : ∃ verdict, sampleEngine.evaluate .asGiven (samplePatch.request "task") =
      .ok verdict := by
    cases h : sampleEngine.evaluate .asGiven (samplePatch.request "task") with
    | ok verdict => exact ⟨verdict, rfl⟩
    | error error => simp [createTask, h] at hcreated
  obtain ⟨verdict, hverdict⟩ := hverdict
  obtain ⟨task, happroved⟩ : ∃ task, samplePatchTask.approve = .ok task := ⟨_, rfl⟩
  have hadmitted : Admitted sampleEngine .asGiven samplePatch "task" task :=
    .inr ⟨samplePatchTask, hcreated, happroved⟩
  obtain ⟨run, hlaunch⟩ : ∃ run, sampleLaunch task "fix" (sampleRoute "local" "codex") = some run :=
    ⟨_, rfl⟩
  refine ⟨task, verdict, run, hadmitted, hlaunch,
    (write_gated_iff hadmitted hverdict hlaunch).mpr (.inr ?_)⟩
  exact ⟨"repository.patch", by decide, "repository.patch", by decide, .refl⟩

-- Everything that the profile for reading grants is read-only, yet the coding
-- worker may write.
theorem read_only_written : ∃ verdict run,
    Admitted sampleEngine .asGiven sampleRead "task" sampleReadTask ∧
      sampleEngine.evaluate .asGiven (sampleRead.request "task") = .ok verdict ∧
      sampleLaunch sampleReadTask "summarise" (sampleRoute "local" "codex") = some run ∧
      (∀ capability ∈ verdict.grantedCapabilities, capability ∈ readOnlyCapabilities) ∧
      ¬WriteGated verdict run := by
  have hcreated : createTask sampleEngine .asGiven sampleRead "task" = .ok sampleReadTask := by
    decide +kernel
  have hverdict : (sampleEngine.evaluate .asGiven (sampleRead.request "task")).toOption.map
      (·.grantedCapabilities) =
        some ["filesystem.read", "workspace.contained", "repository.read"] := by
    decide +kernel
  cases h : sampleEngine.evaluate .asGiven (sampleRead.request "task") with
  | error error => simp [h, Except.toOption] at hverdict
  | ok verdict =>
      simp only [h, Except.toOption, Option.map_some, Option.some.injEq] at hverdict
      refine ⟨verdict, _, .inl ⟨hcreated, rfl⟩, rfl, rfl, by rw [hverdict]; decide, fun hgated => ?_⟩
      obtain ⟨capability, hm, hmutating⟩ := hgated rfl
      rw [hverdict] at hm
      exact absurd hmutating (by revert capability; decide)

end Runs

end JoyMesh.Runtime
