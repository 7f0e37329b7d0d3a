import JoyMesh.Completion.Orchestrator
import JoyMesh.Runtime.Service

namespace JoyMesh.Runtime

open Library Completion

structure NodeEvent where
  taskId : String
  attemptId : String
  leaseId : String
  fencingToken : Nat
  eventType : String
  payload : Mapping

-- An event with the two readings of the clock that its ingestion may take.
structure Delivery where
  now : Time
  releasing : Time
  event : NodeEvent

-- What ingest_node_event reads and writes of the service, with the completion
-- orchestrator itself.
structure Ingestion where
  tasks : Table String RuntimeTaskRecord := ∅
  leases : LeaseService
  completion : Orchestrator := {}
  authoritativeAttempts : Table String String := ∅

def verdictOf (outcome : CompletionOutcome) : CompletionVerdict where
  ok := outcome.ok
  state := outcome.state
  detail := outcome.detail
  failureClass := outcome.failureClass

section Events

variable (services : Services) (task : RuntimeTaskRecord)
  (executionId attemptId eventType : String) (payload : Mapping)

-- int(payload.get("sequence") or 1)
def eventSequence : Except String Int :=
  if (payload.get "sequence").truthy then services.conversions.int (payload.get "sequence")
  else .ok 1

-- The provenance names the task for a mission.
def verificationCandidate (sequence : Int) (verification : Mapping) (evidenceId : String) :
    CandidateEvidence where
  evidenceType := "remote_verification"
  sequence := sequence
  provenance := .ofList
    [("execution_id", .str executionId), ("attempt_id", .str attemptId),
      ("mission_id", .str task.taskId), ("project_id", .str task.workspaceId)]
  payload := verification
  evidenceId := evidenceId

-- A verification in the payload comes before the flag of a success.
def eventCandidates (evidenceId : String) : Except String (List CandidateEvidence) :=
  match payload.get "verification" with
  | .dict items => do
      let sequence ← eventSequence services payload
      return [verificationCandidate task executionId attemptId sequence (.ofList items) evidenceId]
  | _ =>
      if eventType = "task.succeeded" ∧ payload.get "verified" = .bool true then do
        let sequence ← eventSequence services payload
        return [verificationCandidate task executionId attemptId sequence
          (.ofList [("outcome", .str "verified"), ("passed", .bool true)]) evidenceId]
      else .ok []

def eventContext (authoritative : String) : CompletionContext where
  organisationId := none
  projectId := some task.workspaceId
  missionId := (task.missionId.filter (· ≠ "")).getD task.taskId
  executionId := executionId
  attemptId := attemptId
  authoritativeAttemptId := authoritative
  backendId := (task.selectedBackendId.filter (· ≠ "")).getD "joymesh"
  harnessId := (task.selectedHarnessId.filter (· ≠ "")).or task.selectedConnectorId
  cancelled := eventType ∈ ["task.cancelled", "execution.cancelled"]
  requireEvidence := true
  verificationStrategy := "remote_verifier_event"
  requiredEvidenceTypes := ["remote_verification"]

end Events

namespace Ingestion

variable (services : Services) (fresh : Nat → String)

-- The first evidence id is for the candidate of the service.
def complete (s : Ingestion) (task : RuntimeTaskRecord) (event : NodeEvent) :
    Option CompletionOutcome × Ingestion :=
  let executionId := (task.executionId.filter (· ≠ "")).getD event.taskId
  match eventCandidates services task executionId event.attemptId event.eventType event.payload
      (fresh 0) with
  | .error _ => (none, s)
  | .ok candidates =>
      let authoritative := (s.authoritativeAttempts.lookup executionId).getD event.attemptId
      let ended := completeFromRemoteEvent services s.completion
        (eventContext task executionId event.attemptId event.eventType authoritative)
        event.eventType event.payload candidates fun index => fresh (index + 1)
      (ended.outcome, { s with completion := ended.now })

-- What the task is saved as once the completion has answered.
def settle (s : Ingestion) (task : RuntimeTaskRecord) (delivery : Delivery)
    (verdict : CompletionVerdict) : Option RuntimeTaskRecord × Ingestion :=
  if verdict.failureClass ∈ lateFailures then (some task, s)
  else if task.status ∈ endedStatuses then (some task, s)
  else
    let updated := { task with status := nodeStatus verdict, detail := some verdict.detail }
    let s := { s with tasks := s.tasks.insert updated.taskId updated }
    match s.leases.release delivery.releasing delivery.event.taskId delivery.event.fencingToken with
    | (.error _, leases) => (none, { s with leases })
    | (.ok _, leases) => (some updated, { s with leases })

-- A call without an answer has raised.
def ingestNodeEvent (s : Ingestion) (delivery : Delivery) :
    Option RuntimeTaskRecord × Ingestion :=
  let event := delivery.event
  match s.leases.validateEvent delivery.now event.taskId event.leaseId event.fencingToken
      event.attemptId with
  | (.error _, leases) => (none, { s with leases })
  | (.ok _, leases) =>
      let s := { s with leases }
      match s.tasks.lookup event.taskId with
      | none => (none, s)
      | some task =>
          let note (status : RuntimeTaskStatus) : Option RuntimeTaskRecord × Ingestion :=
            let updated := { task with status }
            (some updated, { s with tasks := s.tasks.insert updated.taskId updated })
          if event.eventType = "task.accepted" then note .accepted
          else if event.eventType = "task.started" then note .running
          else if event.eventType ∉ endingEvents then (some task, s)
          else
            match s.complete services fresh task event with
            | (none, s) => (none, s)
            | (some outcome, s) => s.settle task delivery (verdictOf outcome)

-- The end of _submit_remote_execution, for an execution that has just been planned.
def lease (s : Ingestion) (routed : Routed) (fresh : RuntimeTaskRecord)
    (candidate : RouteCandidate) (leaseId attemptId : String) (now stamp : Time) :
    Option (RuntimeTaskRecord × Ingestion) :=
  match s.leases.acquire now stamp leaseId
      { taskId := fresh.taskId
        nodeId := candidate.nodeId
        connectorId := candidate.connectorId
        attemptId } with
  | (.error _, _) => none
  | (.ok lease, leases) =>
      let leased := routed.leasedRemotely fresh lease
      some (leased,
        { s with
          tasks := s.tasks.insert leased.taskId leased
          leases
          authoritativeAttempts := s.authoritativeAttempts.insert routed.intent.executionId attemptId })

end Ingestion

end JoyMesh.Runtime
