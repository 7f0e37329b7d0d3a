import JoyMesh.Harnesses.Router

namespace JoyMesh.Harnesses

open JoyMesh.Library JoyMesh.Routing

-- What a call of the service raises: the type of the exception, its text and its code.
structure ServiceError where
  type : String
  message : String
  code : Option String := none
deriving DecidableEq, Repr

def ServiceError.noRoute (message : String) (code : Option String := none) : ServiceError where
  type := "NoRouteError"
  message := message
  code := code

def ServiceError.ofPy (error : PyError) : ServiceError where
  type := error.type
  message := error.text

def HarnessAvailability.value : HarnessAvailability → String
  | ready => "ready"
  | authenticationRequired => "authentication_required"
  | configurationRequired => "configuration_required"
  | quotaExhausted => "quota_exhausted"
  | rateLimited => "rate_limited"
  | offline => "offline"
  | providerUnavailable => "provider_unavailable"
  | unknown => "unknown"

-- The code of an availability that forbids a launch. The diagnostic codes of a directive are
-- the same texts.
def availabilityToCode (availability : HarnessAvailability) : Option String :=
  if autoBlockedAvailabilities.contains availability then some availability.value else none

-- What the runtime snapshots say at a launch: first probed anew, then as they are cached.
structure LaunchReading where
  now : Time
  refreshed : String → Except ServiceError HarnessAvailability
  cached : String → Except ServiceError HarnessAvailability

def missingCapabilities (required supported : Finset Capability) : List String :=
  ((Capability.all.filter (· ∈ required \ supported)).map Capability.value).insertionSort (· ≤ ·)

section Definitions

variable (registry : HarnessRegistry) (reading : LaunchReading)

def snapshotCapabilities (harnessId : String) : Finset Capability :=
  match registry.get harnessId with
  | .ok adapter => adapter.capabilities
  | .error _ => ∅

-- The snapshot that is taken here is at once the prior one, so a launch never finds that the
-- runtime has changed.
def revalidateForLaunch (harnessId : String) (required : Finset Capability) :
    Except ServiceError HarnessAvailability := do
  let availability ← reading.refreshed harnessId
  let missing := missingCapabilities required (snapshotCapabilities registry harnessId)
  if missing ≠ [] then
    .error ⟨"RuntimeLaunchError", "capability mismatch for " ++ harnessId ++ ": " ++
      ", ".intercalate missing, some "capability_mismatch"⟩
  else
    match availabilityToCode availability with
    | some code => .error ⟨"RuntimeLaunchError",
        "harness " ++ harnessId ++ " unavailable: " ++ availability.value, some code⟩
    | none => return availability

def validateDirective (directive : ExecutionDirective) (harnessEnabled isFallback : Bool) :
    Except ServiceError Unit :=
  if directive.expiresAt ≤ reading.now then
    .error ⟨"DirectiveValidationError", "execution directive has expired",
      some "directive_expired"⟩
  else if directive.authorizationReference.toList.all isSpace then
    .error ⟨"DirectiveValidationError", "authorization reference is required",
      some (if isFallback then "fallback_not_authorized" else "unknown_failure")⟩
  else if isFallback ∧ directive.selectedHarness ∉ directive.allowedFallbacks then
    .error ⟨"DirectiveValidationError", "selected harness is not an authorized fallback",
      some "fallback_not_authorized"⟩
  else if isFallback ∧ directive.fallbackAuthorizationReferences ≠ ∅ ∧
      directive.authorizationReference ∉ directive.fallbackAuthorizationReferences then
    .error ⟨"DirectiveValidationError", "fallback authorization reference is not approved",
      some "fallback_not_authorized"⟩
  else if ¬harnessEnabled then
    .error ⟨"DirectiveValidationError", "harness disabled: " ++ directive.selectedHarness,
      some "provider_unavailable"⟩
  else
    match registry.get directive.selectedHarness with
    | .error _ => .error ⟨"DirectiveValidationError",
        "unknown harness: " ++ directive.selectedHarness, some "provider_unavailable"⟩
    | .ok _ => do
        let _ ← match revalidateForLaunch registry reading directive.selectedHarness
            directive.requiredCapabilities with
          | .error error =>
              if error.type = "RuntimeLaunchError" then
                .error { error with type := "DirectiveValidationError" }
              else .error error
          | .ok availability => .ok availability
        let availability ← reading.cached directive.selectedHarness
        match availabilityToCode availability with
        | some code => .error ⟨"DirectiveValidationError",
            "harness unavailable: " ++ availability.value, some code⟩
        | none => return

def assertCapabilities (harnessId : String) (required : Finset Capability) :
    Except ServiceError Unit := do
  let adapter ← (registry.get harnessId).mapError ServiceError.ofPy
  let missing := missingCapabilities required adapter.capabilities
  if missing ≠ [] then
    .error (.noRoute ("harness capability mismatch: " ++ harnessId ++ " missing " ++
      ", ".intercalate missing) "harness_capability_mismatch")
  else return

-- The errors of the validations are raised as those of the route.
def asNoRoute (error : ServiceError) : ServiceError :=
  if error.type = "DirectiveValidationError" ∨ error.type = "RuntimeLaunchError" then
    .noRoute error.message error.code
  else error

-- What start_run checks of a harness before it makes the run.
def checkStart (request : RunRequest) (harnessId : String) (isFallback : Bool) :
    Except ServiceError Unit := do
  assertCapabilities registry harnessId request.requiredCapabilities
  match request.directive with
  | some directive =>
      (validateDirective registry reading directive true isFallback).mapError asNoRoute
      if directive.selectedHarness ≠ harnessId then
        .error (.noRoute "directive selected_harness does not match route" "runtime_changed")
      else pure ()
  | none =>
      let _ ← (revalidateForLaunch registry reading harnessId
        request.requiredCapabilities).mapError asNoRoute
  let _ ← (registry.get harnessId).mapError ServiceError.ofPy

-- The row of a new run, and the request that is kept for it.
structure StartedRun where
  harnessId : String
  subscriptionId : Option String
  task : String
  workspace : String
  taskContextId : Option String
  continuationOfRunId : Option String
  request : RunRequest
deriving DecidableEq

-- The parameter is resolve_workspace.
def startRun (resolveWorkspace : String → Except PyError String) (request : RunRequest)
    (route : RouteCandidate) (taskContextId continuationOfRunId : Option String) :
    Except ServiceError StartedRun := do
  let resolved ← (resolveWorkspace request.workspace).mapError ServiceError.ofPy
  if route.eligible = false then
    .error (.noRoute "selected route is not eligible")
  else
    checkStart registry reading request route.harnessId (given continuationOfRunId).isSome
    return {
      harnessId := route.harnessId
      subscriptionId := route.subscriptionId
      task := request.task
      workspace := resolved
      taskContextId := taskContextId
      continuationOfRunId := continuationOfRunId
      request := { request with workspace := resolved, route := some route } }

end Definitions

theorem mapError_eq_ok {ε ε' α : Type} {f : ε → ε'} {result : Except ε α} {value : α} :
    result.mapError f = .ok value ↔ result = .ok value := by
  cases result <;> simp [Except.mapError]

theorem startRun_ok_iff {registry : HarnessRegistry} {reading : LaunchReading}
    {resolveWorkspace : String → Except PyError String} {request : RunRequest}
    {route : RouteCandidate} {taskContextId continuationOfRunId : Option String}
    {started : StartedRun} :
    startRun registry reading resolveWorkspace request route taskContextId continuationOfRunId =
        .ok started ↔
      route.eligible = true ∧ ∃ workspace, resolveWorkspace request.workspace = .ok workspace ∧
        checkStart registry reading request route.harnessId (given continuationOfRunId).isSome =
          .ok () ∧
        started = {
          harnessId := route.harnessId
          subscriptionId := route.subscriptionId
          task := request.task
          workspace := workspace
          taskContextId := taskContextId
          continuationOfRunId := continuationOfRunId
          request := { request with workspace := workspace, route := some route } } := by
  rw [startRun, bind_eq_ok]
  constructor
  · rintro ⟨workspace, hworkspace, h⟩
    split at h
    case isTrue => cases h
    case isFalse heligible =>
      obtain ⟨⟨⟩, hcheck, h⟩ := bind_eq_ok.mp h
      cases h
      exact ⟨by simpa using heligible, workspace, mapError_eq_ok.mp hworkspace, hcheck, rfl⟩
  · rintro ⟨heligible, workspace, hworkspace, hcheck, rfl⟩
    refine ⟨workspace, mapError_eq_ok.mpr hworkspace, ?_⟩
    rw [if_neg (by simp [heligible]), bind_eq_ok]
    exact ⟨(), hcheck, rfl⟩

section Definitions

-- What one call of run reads: the preferences, what is detected at its start, what the
-- preview of the routes reads, and what the launch does. resolve_workspace is called at both.
structure RunReading where
  prefs : HarnessPreferences
  detected : String → Bool
  previewWorkspace : String → Except PyError String
  router : RouterReading
  launchWorkspace : String → Except PyError String
  launch : LaunchReading

-- The ids that detect reports, each adapter with its definition.
def HarnessRegistry.detect (registry : HarnessRegistry) : Except PyError (List String) :=
  registry.list.mapM fun adapter => do
    let _ ← registry.definition adapter.harnessId
    return adapter.harnessId

namespace JoyMeshService

variable (registry : HarnessRegistry)

-- The routes for what a request asks of them.
def previewRoutes (resolveWorkspace : String → Except PyError String) (router : RouterReading)
    (request : RunRequest) (preferredHarness : Option String) :
    Except ServiceError (Option RouteCandidate × List RouteCandidate) := do
  let resolved ← (resolveWorkspace request.workspace).mapError ServiceError.ofPy
  let _ ← registry.detect.mapError ServiceError.ofPy
  (Router.preview {
    task := request.task
    workspace := resolved
    requiredCapabilities := request.requiredCapabilities
    preferredHarness := preferredHarness
    allowedHarnesses := request.allowedHarnesses
    deniedHarnesses := request.deniedHarnesses
    paidRoutesApproved := request.paidRoutesApproved } router registry).mapError
      ServiceError.ofPy

variable (reading : RunReading)

def resolveRoute (request : RunRequest) (preferredHarness : Option String) :
    Except ServiceError RouteCandidate := do
  let preview ← previewRoutes registry reading.previewWorkspace reading.router request
    preferredHarness
  match preview.1 with
  | some selected => return selected
  | none => .error (.noRoute "no eligible harness route")

-- An alias of a harness is resolved, any other name is taken as it is.
def canonical (harness : Option String) : Option String :=
  (given harness).map fun name =>
    match registry.resolveId name with
    | .ok harnessId => harnessId
    | .error _ => name

def override (harness : String) : Option String :=
  canonical registry (if harness = "auto" then none else some harness)

-- The part of run up to the resolved harness.
def resolution (request : RunRequest) (harness : String) :
    Except ServiceError HarnessResolution := do
  let detected ← registry.detect.mapError ServiceError.ofPy
  let ready := detected.filter fun item => reading.detected item &&
    (reading.prefs.enabled.isEmpty || reading.prefs.enabled.contains item)
  (resolveHarness reading.prefs (given (override registry harness)).isSome
    registry.allowTestHarnesses ready (override registry harness)
    (canonical registry request.preferredHarness) false none detected).mapError
      fun error => .noRoute error.message error.code

-- The request that an override locks to its harness.
def lockedRequest (request : RunRequest) (harnessId : String) : RunRequest :=
  { request with allowedHarnesses := {harnessId}, preferredHarness := some harnessId }

-- A call of run without a route, on the registry with the custom harnesses.
def runResolved (request : RunRequest) (harness : String) : Except ServiceError StartedRun := do
  let resolved ← resolution registry reading request harness
  if (given (override registry harness)).isSome then do
    assertCapabilities registry resolved.harnessId request.requiredCapabilities
    let locked := lockedRequest request resolved.harnessId
    let selected ← resolveRoute registry reading locked (some resolved.harnessId)
    startRun registry reading.launch reading.launchWorkspace locked selected none none
  else do
    let selected ← resolveRoute registry reading request (some resolved.harnessId)
    startRun registry reading.launch reading.launchWorkspace request selected none none

def run (machine : Machine) (lower : String → String) (access : String → Bool)
    (route : Option RouteCandidate) (request : RunRequest) (harness : String := "auto") :
    Except ServiceError StartedRun :=
  match route with
  | some route =>
      startRun registry reading.launch reading.launchWorkspace request route none none
  | none => do
      let registry ← (applyCustomHarnesses machine lower access registry
        reading.prefs).mapError ServiceError.ofPy
      runResolved registry reading request harness

end JoyMeshService

end Definitions

end JoyMesh.Harnesses
