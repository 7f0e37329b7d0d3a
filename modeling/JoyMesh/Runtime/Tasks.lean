import JoyMesh.Runtime.Policy

namespace JoyMesh.Runtime

open Library Routing

inductive RuntimeTaskStatus where
  | pending
  | approvalRequired
  | routing
  | queued
  | leased
  | offered
  | accepted
  | running
  | reconciling
  | succeeded
  | failed
  | cancelled
  | rejected
deriving DecidableEq, Repr

inductive FailureClass where
  | nodeUnavailable
  | nodeDisconnected
  | connectorUnavailable
  | authenticationInvalid
  | certificationInvalid
  | workspaceUnavailable
  | quotaExhausted
  | rateLimited
  | offerTimeout
  | taskTimeout
  | processFailure
  | policyRejected
  | userCancelled
  | uncertainExecution
  | unknown
deriving DecidableEq, Repr

structure CreateRuntimeTaskBody where
  workspaceId : String
  prompt : String
  missionId : Option String := none
  policyProfile : String := "read_only"
  requestedCapabilities : List String
  prohibitedCapabilities : List String := []
  preferredConnectors : List String := []
  requiredConnector : Option String := none
  preferredProviders : List String := []
  requiredProvider : Option String := none
  preferredNodes : List String := []
  requiredNode : Option String := none
  timeoutSeconds : Nat := 300
  maxAttempts : Nat := 2
  timeoutSeconds_range : 1 ≤ timeoutSeconds ∧ timeoutSeconds ≤ 86400 := by decide
  maxAttempts_range : 1 ≤ maxAttempts ∧ maxAttempts ≤ 10 := by decide

structure RuntimeTaskRecord where
  taskId : String
  missionId : Option String
  workspaceId : String
  requestedCapabilities : List String
  prohibitedCapabilities : List String
  expandedCapabilities : List String
  policyProfile : String
  preferredConnectors : List String
  requiredConnector : Option String
  preferredProviders : List String
  requiredProvider : Option String
  preferredNodes : List String
  requiredNode : Option String
  timeoutSeconds : Nat
  maxAttempts : Nat
  status : RuntimeTaskStatus
  approvalRequired : Bool := false
  detail : Option String := none
  executionId : Option String := none
  selectedNodeId : Option String := none
  selectedConnectorId : Option String := none
  selectedBackendId : Option String := none
  selectedHarnessId : Option String := none
  executionDecisionReason : Option String := none
  executionFallbackOrder : List String := []
  providerRoutingRequired : Bool := false
  selectedProviderId : Option String := none
  selectedProviderRouteManagerId : Option String := none
  providerSelectionReason : Option String := none
deriving DecidableEq, Repr

def CreateRuntimeTaskBody.request (body : CreateRuntimeTaskBody) (taskId : String) :
    RuntimeTaskRequest where
  workspaceId := body.workspaceId
  requestedCapabilities := body.requestedCapabilities.dedup
  prohibitedCapabilities := body.prohibitedCapabilities.dedup
  policyProfile := body.policyProfile
  preferredConnectors := body.preferredConnectors
  requiredConnector := body.requiredConnector
  preferredProviders := body.preferredProviders
  requiredProvider := body.requiredProvider
  preferredNodes := body.preferredNodes
  requiredNode := body.requiredNode
  timeoutSeconds := body.timeoutSeconds
  maxAttempts := body.maxAttempts
  taskId := taskId

-- The record that create_task first saves, with the fields that the verdict
-- decides.
def RuntimeTaskRequest.record (request : RuntimeTaskRequest) (missionId : Option String)
    (expanded : List String) (status : RuntimeTaskStatus) (approvalRequired : Bool)
    (detail : Option String) : RuntimeTaskRecord where
  taskId := request.taskId
  missionId := missionId
  workspaceId := request.workspaceId
  requestedCapabilities := sorted request.requestedCapabilities
  prohibitedCapabilities := sorted request.prohibitedCapabilities
  expandedCapabilities := sorted expanded
  policyProfile := request.policyProfile
  preferredConnectors := request.preferredConnectors
  requiredConnector := request.requiredConnector
  preferredProviders := request.preferredProviders
  requiredProvider := request.requiredProvider
  preferredNodes := request.preferredNodes
  requiredNode := request.requiredNode
  timeoutSeconds := request.timeoutSeconds
  maxAttempts := request.maxAttempts
  status := status
  approvalRequired := approvalRequired
  detail := detail

-- The expansion after the verdict is made with the built-in registry.
def createTask (engine : PolicyEngine) (order : Iteration) (body : CreateRuntimeTaskBody)
    (taskId : String) : Except PyError RuntimeTaskRecord :=
  let request := body.request taskId
  match engine.evaluate order request with
  | .error error => .error error
  | .ok decision =>
      if decision.allowed = false then
        .ok (request.record body.missionId [] .rejected false
          (some ("; ".intercalate decision.reasons)))
      else
        match expandCapabilities order .builtin request.requestedCapabilities
            request.prohibitedCapabilities with
        | .error error => .error error
        | .ok expanded =>
            let approvalRequired := decision.approvalRequirements ≠ []
            .ok (request.record body.missionId expanded
              (if approvalRequired then .approvalRequired else .routing) approvalRequired none)

namespace RuntimeTaskRecord

variable (task : RuntimeTaskRecord)

-- The second save of create_task when the routing is skipped.
def queue : RuntimeTaskRecord :=
  { task with status := .queued, detail := some "Queued for routing when workers available" }

def approve : Except PyError RuntimeTaskRecord :=
  if task.status ≠ .approvalRequired then
    .error ⟨"PermissionError", "task is not awaiting approval"⟩
  else .ok { task with status := .routing, approvalRequired := false }

def mutating : Bool := task.expandedCapabilities.any (· ∈ mutatingCapabilities)

end RuntimeTaskRecord

structure RetryDecision where
  retry : Bool
  reason : String
deriving DecidableEq, Repr

def safeBeforeStart : List FailureClass :=
  [.nodeUnavailable, .offerTimeout, .connectorUnavailable, .rateLimited, .workspaceUnavailable]

def decideRetry (task : RuntimeTaskRecord) (failureClass : FailureClass) (attemptNumber : Nat)
    (executionStarted : Bool) (uncertain : Bool := false) : RetryDecision :=
  if task.maxAttempts ≤ attemptNumber then ⟨false, "max attempts reached"⟩
  else if failureClass = .userCancelled then ⟨false, "user cancellation is not retried"⟩
  else if failureClass = .policyRejected then ⟨false, "policy rejection is not retried"⟩
  else if failureClass = .authenticationInvalid then
    ⟨false, "authentication failure is not automatically retried"⟩
  else if uncertain ∨ failureClass = .uncertainExecution then
    ⟨false, "uncertain execution requires reconciliation first"⟩
  else if task.mutating ∧ executionStarted then
    ⟨false, "side-effecting attempt already started; not retry-safe"⟩
  else if failureClass ∈ safeBeforeStart ∧ !executionStarted then
    ⟨true, "pre-start failure is retry-safe"⟩
  else if !task.mutating ∧ !executionStarted ∧
      failureClass ∈ [.nodeDisconnected, .processFailure, .connectorUnavailable] then
    ⟨true, "read-only pre-start failure may fail over"⟩
  else ⟨false, "failure class is not automatically retryable"⟩

section Created

variable {engine : PolicyEngine} {order : Iteration} {body : CreateRuntimeTaskBody}
  {taskId : String} {task : RuntimeTaskRecord}

theorem createTask_kept (h : createTask engine order body taskId = .ok task) :
    task.taskId = taskId ∧ task.policyProfile = body.policyProfile ∧
      task.maxAttempts = body.maxAttempts := by
  unfold createTask at h
  dsimp only at h
  split at h
  · cases h
  · split at h
    · obtain rfl := Except.ok.inj h
      exact ⟨rfl, rfl, rfl⟩
    · split at h
      · cases h
      · obtain rfl := Except.ok.inj h
        exact ⟨rfl, rfl, rfl⟩

theorem createTask_status (h : createTask engine order body taskId = .ok task) :
    task.status = .rejected ∨ task.status = .approvalRequired ∨ task.status = .routing := by
  unfold createTask at h
  dsimp only at h
  split at h
  · cases h
  · split at h
    · obtain rfl := Except.ok.inj h
      exact .inl rfl
    · split at h
      · cases h
      next decision _ _ _ _ _ =>
        obtain rfl := Except.ok.inj h
        by_cases ha : decision.approvalRequirements = []
        · exact .inr (.inr (by simp [RuntimeTaskRequest.record, ha]))
        · exact .inr (.inl (by simp [RuntimeTaskRequest.record, ha]))

-- A record that is not rejected belongs to an allowed request.
theorem createTask_allowed (h : createTask engine order body taskId = .ok task)
    (hs : task.status ≠ .rejected) :
    ∃ decision, engine.evaluate order (body.request taskId) = .ok decision ∧
      decision.allowed = true := by
  unfold createTask at h
  dsimp only at h
  split at h
  · cases h
  next decision hdecision =>
    split at h
    · obtain rfl := Except.ok.inj h
      exact absurd rfl hs
    next hallowed => exact ⟨decision, hdecision, by simpa using hallowed⟩

end Created

section Retry

variable {task : RuntimeTaskRecord} {failureClass : FailureClass} {attemptNumber : Nat}
  {executionStarted : Bool}

-- No approval comes once the execution is seen to have started.
theorem decideRetry_iff :
    (decideRetry task failureClass attemptNumber executionStarted).retry = true ↔
      attemptNumber < task.maxAttempts ∧ executionStarted = false ∧
        (failureClass ∈ safeBeforeStart ∨ task.mutating = false ∧
          failureClass ∈ [.nodeDisconnected, .processFailure]) := by
  rw [decideRetry]
  by_cases ha : task.maxAttempts ≤ attemptNumber
  · have hn : ¬attemptNumber < task.maxAttempts := by omega
    simp [ha, hn]
  · have hn : attemptNumber < task.maxAttempts := by omega
    rw [if_neg ha]
    cases executionStarted <;> cases hm : task.mutating <;> cases failureClass <;>
      simp [hn, safeBeforeStart]

end Retry

end JoyMesh.Runtime
