import Mathlib.Data.List.Basic
import JoyMesh.Value

namespace JoyMesh.Routing

inductive ExecutionFailureClass where
  | backendUnavailable
  | backendUnhealthy
  | capabilityChanged
  | preparationFailure
  | retryableLaunchFailure
  | rateLimited
  | quotaExhausted
  | entitlementRequired
  | backendNotEntitled
  | harnessNotEntitled
  | invalidAuthorisation
  | policyDenied
  | tenantViolation
  | workspaceViolation
  | credentialValidationFailure
  | nonRetryableUserCodeFailure
  | evidenceIntegrityFailure
  | verificationFailure
  | providerRestoreFailure
  | connectorBlocked
  | cancelled
  | timeout
  | processFailure
  | unknown
deriving DecidableEq, Repr

namespace ExecutionFailureClass

def value : ExecutionFailureClass → String
  | backendUnavailable => "backend_unavailable"
  | backendUnhealthy => "backend_unhealthy"
  | capabilityChanged => "capability_changed"
  | preparationFailure => "preparation_failure"
  | retryableLaunchFailure => "retryable_launch_failure"
  | rateLimited => "rate_limited"
  | quotaExhausted => "quota_exhausted"
  | entitlementRequired => "entitlement_required"
  | backendNotEntitled => "backend_not_entitled"
  | harnessNotEntitled => "harness_not_entitled"
  | invalidAuthorisation => "invalid_authorisation"
  | policyDenied => "policy_denied"
  | tenantViolation => "tenant_violation"
  | workspaceViolation => "workspace_violation"
  | credentialValidationFailure => "credential_validation_failure"
  | nonRetryableUserCodeFailure => "non_retryable_user_code_failure"
  | evidenceIntegrityFailure => "evidence_integrity_failure"
  | verificationFailure => "verification_failure"
  | providerRestoreFailure => "provider_restore_failure"
  | connectorBlocked => "connector_blocked"
  | cancelled => "cancelled"
  | timeout => "timeout"
  | processFailure => "process_failure"
  | unknown => "unknown"

def all : List ExecutionFailureClass :=
  [backendUnavailable, backendUnhealthy, capabilityChanged, preparationFailure,
    retryableLaunchFailure, rateLimited, quotaExhausted, entitlementRequired, backendNotEntitled,
    harnessNotEntitled, invalidAuthorisation, policyDenied, tenantViolation, workspaceViolation,
    credentialValidationFailure, nonRetryableUserCodeFailure, evidenceIntegrityFailure,
    verificationFailure, providerRestoreFailure, connectorBlocked, cancelled, timeout,
    processFailure, unknown]

-- Failures that may advance to the next backend in the fallback chain.
def fallbackEligible : List ExecutionFailureClass :=
  [backendUnavailable, backendUnhealthy, capabilityChanged, preparationFailure,
    retryableLaunchFailure, rateLimited, quotaExhausted]

-- Failures that must never fall back.
def fallbackForbidden : List ExecutionFailureClass :=
  [invalidAuthorisation, policyDenied, tenantViolation, workspaceViolation,
    credentialValidationFailure, nonRetryableUserCodeFailure, evidenceIntegrityFailure,
    verificationFailure, providerRestoreFailure, connectorBlocked, cancelled, entitlementRequired,
    backendNotEntitled, harnessNotEntitled]

def mayFallback (failure : ExecutionFailureClass) : Bool :=
  if failure ∈ fallbackForbidden then false else failure ∈ fallbackEligible

-- A missing class is a process failure, a class of another name an unknown one.
def parseFailure (value : Option String) : ExecutionFailureClass :=
  match value with
  | none => processFailure
  | some text =>
      if text = "" then processFailure
      else (all.find? fun failure => failure.value == text).getD unknown

def entitlementFailure (reasonCode : String) : ExecutionFailureClass :=
  if reasonCode = "entitlement_required" then entitlementRequired
  else if reasonCode = "backend_not_entitled" then backendNotEntitled
  else if reasonCode = "harness_not_entitled" then harnessNotEntitled
  else if reasonCode = "quota_exhausted" then quotaExhausted
  else policyDenied

-- The failures after which a result is blocked rather than failed.
def blocks : List ExecutionFailureClass :=
  [providerRestoreFailure, policyDenied, workspaceViolation, backendUnavailable, backendUnhealthy,
    entitlementRequired, backendNotEntitled, harnessNotEntitled, quotaExhausted]

end ExecutionFailureClass

inductive ExecutionCapability where
  | internet
  | gpu
  | filesystem
  | providerRouting
  | sandbox
  | streaming
  | persistentWorkspace
  | ephemeralWorkspace
  | vision
  | voice
  | browser
  | multiAgent
  | longRunning
  | remoteWorker
  | localProcess
deriving DecidableEq, Repr

inductive ExecutionStatus where
  | pending
  | planned
  | routed
  | preparing
  | running
  | succeeded
  | failed
  | cancelled
  | blocked
  | fallback
deriving DecidableEq, Repr

structure SubscriptionConstraints where
  denied : Bool := false
  detail : Option String := none
  deniedHarnesses : List String := []
deriving DecidableEq, Repr

-- The routing preferences of a mission, before they become a policy.
structure RoutingPreferences where
  preset : Option String := none
  policy : Option String := none
  preferLocal : Option Bool := none
  preferCheapest : Option Bool := none
  preferFastest : Option Bool := none
  preferStrongestReasoning : Option Bool := none
  preferOpenModels : Option Bool := none
  avoidPaidApis : Option Bool := none
  maximizeQuality : Option Bool := none
  deniedHarnesses : List String := []
  deniedConnectors : List String := []
  deniedModels : List String := []
  preferredHarnesses : List String := []
  preferredConnectors : List String := []
  preferredModels : List String := []
deriving DecidableEq, Repr

structure ExecutionIntent where
  missionId : String
  executionId : String
  prompt : String
  workspacePath : String
  requiredCapabilities : List ExecutionCapability
  preferredModel : Option String := none
  preferredHarness : Option String := none
  requiresProviderRoute : Bool := false
  costPreference : String := "balanced"
  localityPreference : String := "any"
  timeoutSeconds : Nat := 300
  policyProfile : Option String := none
  subscriptionConstraints : SubscriptionConstraints := {}
  routingPreferences : RoutingPreferences := {}
  runtimeTaskId : Option String := none
deriving DecidableEq, Repr

structure ExecutionDecision where
  executionId : String
  selectedBackendId : String
  selectedHarnessId : String
  reason : String
  fallbackOrder : List String
  providerRoutingRequired : Bool
  selectedConnectorId : Option String := none
  selectedModelId : Option String := none
deriving DecidableEq, Repr

-- The backends in the order in which they may be tried.
def ExecutionDecision.order (decision : ExecutionDecision) : List String :=
  decision.selectedBackendId :: decision.fallbackOrder

structure ExecutionRouterError where
  reasonCode : String
  message : String
deriving DecidableEq, Repr

-- A Python exception by the name of its type and its text.
structure PyError where
  type : String
  text : String
deriving DecidableEq, Repr

theorem bind_eq_ok {ε α β : Type} {result : Except ε α} {next : α → Except ε β} {value : β} :
    (result >>= next) = .ok value ↔ ∃ found, result = .ok found ∧ next found = .ok value := by
  cases result <;> simp [bind, Except.bind]

-- What a loop has collected came out of its rounds.
theorem mem_of_mapM_ok {ε α β : Type} {f : α → Except ε β} {items : List α} {found : List β}
    (h : items.mapM f = .ok found) {y : β} (hy : y ∈ found) : ∃ x ∈ items, f x = .ok y := by
  induction items generalizing found with
  | nil =>
      cases h
      cases hy
  | cons x items ih =>
      rw [List.mapM_cons] at h
      obtain ⟨first, hfirst, h⟩ := bind_eq_ok.mp h
      obtain ⟨rest, hrest, h⟩ := bind_eq_ok.mp h
      cases h
      rcases List.mem_cons.mp hy with rfl | hy
      · exact ⟨x, List.mem_cons_self, hfirst⟩
      · obtain ⟨x', hx', hok⟩ := ih hrest hy
        exact ⟨x', List.mem_cons_of_mem _ hx', hok⟩

-- How an awaited call ends: with a value, with an ordinary exception, or cut
-- off by one that is not (CancelledError, KeyboardInterrupt).
inductive Outcome (α : Type) where
  | returned (value : α)
  | raised (error : PyError)
  | aborted (error : PyError)
deriving DecidableEq, Repr

end JoyMesh.Routing
