import JoyMesh.Completion.Models
import JoyMesh.Runtime.Launch
import JoyMesh.Runtime.Leases

namespace JoyMesh.Runtime

open Library Routing Completion

structure RouteCandidate where
  nodeId : String
  connectorId : String
  eligible : Bool
  rejectionReasons : List String := []
deriving DecidableEq, Repr

structure ExecutionAttempt where
  attemptId : String
  taskId : String
  attemptNumber : Nat
  nodeId : String
  connectorId : String
  leaseId : String
  status : String := "leased"
deriving DecidableEq, Repr

-- What the completion orchestrator decides about a result.
structure CompletionVerdict where
  ok : Bool
  state : CompletionLifecycleState
  detail : String
  failureClass : Option String := none
deriving DecidableEq, Repr

-- How the coding worker ends, apart from its lease.
structure CodingWorkerEnd where
  status : String
  summary : String
  error : Option String := none
  evidence : List String := []
deriving DecidableEq, Repr

-- A route_task call once the router has decided.
structure Routed where
  task : RuntimeTaskRecord
  intent : ExecutionIntent
  decision : ExecutionDecision
deriving DecidableEq

-- A backend's turn in execute_with_fallback, with the backends behind it.
structure BackendTurn where
  routed : Routed
  progress : Progress
  backendId : String
  attempt : ExecutionAttemptRecord
  rest : List String

-- What _submit_remote_execution answers.
structure Submission where
  status : String
  message : Option String := none
deriving DecidableEq, Repr

-- A suspended call, by what it does when it goes on. The copies of the task are
-- the ones that the call has read.
inductive Call where
  | queueing (task : RuntimeTaskRecord)
  | routing (taskId : String)
  | selecting (task : RuntimeTaskRecord) (intent : ExecutionIntent)
  | selected (routed : Routed)
  | handing (routed : Routed)
  | working (routed : Routed) (lease : TaskLease)
  | trying (routed : Routed) (progress : Progress) (order : List String)
  | preparing (turn : BackendTurn)
  | submitting (turn : BackendTurn) (fresh : RuntimeTaskRecord) (candidates : List RouteCandidate)
  | granted (turn : BackendTurn) (fresh : RuntimeTaskRecord) (lease : TaskLease) (number : Nat)
  | recorded (turn : BackendTurn) (fresh : RuntimeTaskRecord) (lease : TaskLease)
  | remote (turn : BackendTurn) (submission : Submission)
  | executing (turn : BackendTurn)
  | completing (routed : Routed) (result : ExecutionResult)
  | ingesting (task : RuntimeTaskRecord) (fencingToken : Nat) (eventType : String)
  | releasing (taskId : String) (fencingToken : Nat)
  | cancelling (task : RuntimeTaskRecord)
  | cancelled (task : RuntimeTaskRecord)
  | retrying (task : RuntimeTaskRecord)

-- What route_task reads besides the task.
structure Planning where
  prompt : String
  workspacePath : String
  hasNodes : Bool
  analysis : TaskAnalysis
  executionId : String

-- What a suspended call meets when it goes on.
inductive Input where
  | go
  | planned (planning : Planning)
  | chosen (selection : Except PyError ExecutionDecision)
  | handed (leaseId attemptId : String) (stamp : Time)
  | beat (stamp : Time)
  | worked (ended : CodingWorkerEnd)
  | opened (turn : Routing.Turn)
  | ranked (candidates : List RouteCandidate)
  | leasing (leaseId attemptId : String) (stamp : Time)
  | prepared (outcome : Outcome Unit)
  | validated (outcome : Outcome Unit)
  | executed (outcome : Outcome BackendResult)
  | completed (verdict : CompletionVerdict)
  | raised (error : PyError)
  | aborted

inductive Operation where
  | createTask (taskId : String) (body : CreateRuntimeTaskBody) (skipRouting : Bool)
  | approveTask (taskId : String)
  | markOffered (taskId : String) (fencingToken : Nat)
  | nodeEvent (taskId attemptId leaseId : String) (fencingToken : Nat) (eventType : String)
  | cancelTask (taskId : String)
  | retryTask (taskId : String) (failureClass : FailureClass)
  | heartbeat (taskId : String) (fencingToken : Nat) (stamp : Time)
  | lookUpLease (taskId : String)

structure RuntimeService where
  tasks : Table String RuntimeTaskRecord := ∅
  attempts : Table String (List ExecutionAttempt) := ∅
  leases : LeaseService
  calls : Nat → Option Call := fun _ => none
  clock : Time := 0

-- What one stretch of a call does before it is suspended again or ends.
structure Effect where
  leaseCalls : List TimedCall := []
  attempt : Option ExecutionAttempt := none
  saved : Option RuntimeTaskRecord := none
  next : Option Call := none
  answer : Option (Except PyError RuntimeTaskRecord) := none

inductive Label where
  | tick (later : Time)
  | start (i : Nat) (operation : Operation)
  | resume (i : Nat) (input : Input)

def endedStatuses : List RuntimeTaskStatus := [.succeeded, .failed, .cancelled, .rejected]

-- The event types that end a remote execution.
def endingEvents : List String :=
  ["task.succeeded", "task.failed", "task.cancelled", "verification.completed",
    "execution.completed", "execution.failed", "execution.cancelled"]

-- The failure classes of an event that came too late to count.
def lateFailures : List (Option String) :=
  [some CompletionFailureClass.staleAttempt.value,
    some CompletionFailureClass.supersededAttempt.value,
    some CompletionFailureClass.lateEvent.value]

def saveAttempt (attempts : List ExecutionAttempt) (attempt : ExecutionAttempt) :
    List ExecutionAttempt :=
  (attempts.filter (·.attemptId ≠ attempt.attemptId) ++ [attempt]).insertionSort
    fun first second => first.attemptNumber ≤ second.attemptNumber

section Results

def offline (message : String) : Bool := "offline".toList <:+: message.toList

def submissionStatus (result : ExecutionResult) : Value :=
  match result.output.get "submission" with
  | .dict items => (items.lookup "status").getD .none
  | _ => .none

-- The record that the tail of route_task saves.
def finalRecord (routed : Routed) (result : ExecutionResult) (verdict : CompletionVerdict) :
    RuntimeTaskRecord :=
  let detail := if verdict.detail = "" then result.message else verdict.detail
  if verdict.ok ∧ verdict.state = .completed then
    { routed.task with
      status := .succeeded
      selectedBackendId := some result.backendId
      selectedHarnessId := some result.harnessId
      selectedConnectorId := some result.harnessId
      detail := some verdict.detail }
  else if verdict.state = .blocked ∨ result.status = .blocked ∨
      (!result.ok ∧ offline result.message) then
    { routed.task with
      status :=
        if submissionStatus result = .str "queued" ∨ offline result.message then .queued
        else .rejected
      detail := some detail }
  else if submissionStatus result = .str "rejected" then
    { routed.task with status := .rejected, detail := some detail }
  else
    { routed.task with
      status := .failed
      detail := some detail
      selectedBackendId := some result.backendId
      selectedHarnessId := some result.harnessId }

-- A node's verdict of any other kind counts as a failure.
def nodeStatus (verdict : CompletionVerdict) : RuntimeTaskStatus :=
  if verdict.state = .completed then .succeeded
  else if verdict.state = .cancelled then .cancelled
  else .failed

def workerResult (routed : Routed) (ended : CodingWorkerEnd) : ExecutionResult :=
  let ok : Bool := ended.status = "completed"
  { ok := ok
    executionId := routed.intent.executionId
    backendId := "local"
    harnessId := "codex"
    status :=
      if ended.status = "cancelled" then .cancelled else if ok then .succeeded else .failed
    message := ended.summary
    attemptedBackends := ["local"]
    decision := routed.decision
    output := .ofList [("ok", .bool ok)]
    attempts :=
      [{ attemptId := "coding_attempt_" ++ routed.task.taskId
         executionId := routed.intent.executionId
         attemptNumber := 1
         backendId := "local"
         harnessId := "codex"
         status := ended.status }]
    failureClass :=
      if ok then none else some ((ended.error.filter (· ≠ "")).getD "coding_worker_failed")
    evidenceRefs := ended.evidence }

def workerFailed (error : String) : CodingWorkerEnd :=
  { status := "failed", summary := "coding worker failed", error := some error }

-- JoyMeshBackend.execute over a submission that was made in its preparation.
def joymeshResult (submission : Submission) : BackendResult :=
  let ok : Bool := submission.status ∈ ["leased", "submitted", "claimed", "completed", "verified"]
  { ok := ok
    message := (submission.message.filter (· ≠ "")).getD "joymesh remote execution leased"
    output := .ofList
      [("submission", .dict [("status", .str submission.status)]), ("remote", .bool true),
        ("completion_verified", .bool false), ("awaiting_node_events", .bool ok)]
    failureClass := if ok then none else some "backend_unavailable" }

end Results

section Turns

-- The round of a backend up to the try block.
def openTurn (intent : ExecutionIntent) (decision : ExecutionDecision) (p : Progress)
    (backendId : String) (turn : Routing.Turn) :
    TurnEnd × Progress ⊕ Progress × ExecutionAttemptRecord :=
  if turn.cancelled then .inl (cancelledResult intent decision p backendId)
  else
    match enforceEntitlements turn.entitlements intent (some backendId) with
    | .error error => .inl (refusedResult intent decision p backendId error)
    | .ok _ =>
        let p := { p with attempted := p.attempted ++ [backendId] }
        let attempt : ExecutionAttemptRecord :=
          { attemptId := turn.attemptId
            executionId := intent.executionId
            attemptNumber := p.attempts.length + 1
            backendId := backendId
            harnessId := decision.selectedHarnessId }
        match turn.registered with
        | .error text => .inl (unregistered intent decision p attempt backendId text)
        | .ok _ =>
            let p := p.called (.health backendId)
            match turn.health with
            | .aborted error => .inl (.finish (.aborted error), p)
            | .raised error => .inl (.finish (.raised error), p)
            | .returned health =>
                if !health.healthy ∨ health.state = "disabled" ∨ health.state = "unsupported" then
                  .inl (unhealthy intent decision p attempt backendId health)
                else
                  let p := p.called (.supports backendId)
                  match turn.supports with
                  | .aborted error => .inl (.finish (.aborted error), p)
                  | .raised error => .inl (.finish (.raised error), p)
                  | .returned false => .inl (unsupported intent decision p attempt backendId)
                  | .returned true => .inr (p, attempt)

-- Cut at the try block, the round is the one of the fallback loop.
theorem takeTurn_eq_openTurn {intent : ExecutionIntent} {decision : ExecutionDecision}
    {p : Progress} {backendId : String} {turn : Routing.Turn} :
    takeTurn intent decision p backendId turn =
      match openTurn intent decision p backendId turn with
      | .inl ended => ended
      | .inr (p, attempt) =>
          cleanUp turn backendId (tryBackend intent decision p attempt backendId turn) := by
  unfold takeTurn openTurn
  repeat' split
  all_goals simp_all

-- Where the loop goes after a turn.
def afterTurn (routed : Routed) (rest : List String) : TurnEnd × Progress → Effect
  | (.finish (.returned result), _) => { next := some (.completing routed result) }
  | (.finish (.raised error), _) => { answer := some (.error error) }
  | (.finish (.aborted error), _) => { answer := some (.error error) }
  | (.stop, p) => { next := some (.completing routed (concluded routed.intent routed.decision p)) }
  | (.next, p) => { next := some (.trying routed p rest) }

namespace BackendTurn

variable (turn : BackendTurn)

-- The finally block calls the clean-up before the loop goes on.
def leave (ended : TurnEnd × Progress) : Effect :=
  afterTurn turn.routed turn.rest (ended.1, ended.2.called (.cleanup turn.backendId))

def called (call : BackendCall) : BackendTurn :=
  { turn with progress := turn.progress.called call }

-- The validation has passed and the execution begins.
def ready : BackendTurn :=
  let event (eventType : String) : BackendAuditEvent :=
    auditEvent turn.routed.intent turn.routed.decision eventType turn.backendId true none
  { turn with
    progress := ((turn.progress.called (.validate turn.backendId)).audit
      (event "backend.ready")).audit (event "execution.started") }

-- The handler around the preparation and the execution.
def fail (error : PyError) : Effect :=
  turn.leave (prepareFailed turn.routed.intent turn.routed.decision turn.progress turn.attempt
    turn.backendId error)

def finish (result : BackendResult) : Effect :=
  turn.leave (Routing.executed turn.routed.intent turn.routed.decision turn.progress turn.attempt
    turn.backendId result)

def execute (outcome : Outcome BackendResult) : Effect :=
  let turn := turn.called (.execute turn.backendId outcome)
  match outcome with
  | .returned result => turn.finish result
  | .raised error => turn.fail error
  | .aborted error => { answer := some (.error error) }

-- A call within the try block has ended.
def settle (outcome : Outcome Unit) (continued : Effect) : Effect :=
  match outcome with
  | .returned _ => continued
  | .raised error => turn.fail error
  | .aborted error => { answer := some (.error error) }

end BackendTurn

end Turns

namespace Routed

variable (routed : Routed)

-- The record with the decision of the router.
def decided (task : RuntimeTaskRecord) (decision : ExecutionDecision) : RuntimeTaskRecord :=
  { task with
    executionId := some decision.executionId
    selectedBackendId := some decision.selectedBackendId
    selectedHarnessId := some decision.selectedHarnessId
    selectedConnectorId :=
      some ((decision.selectedConnectorId.filter (· ≠ "")).getD decision.selectedHarnessId)
    executionDecisionReason := some decision.reason
    executionFallbackOrder := decision.fallbackOrder
    providerRoutingRequired := decision.providerRoutingRequired }

def annotated : Routed :=
  { routed with
    task := { routed.task with
      selectedProviderId := some "fireworks"
      selectedProviderRouteManagerId := some "fireconnect"
      providerSelectionReason := some "provider_routing_required_via_execution_router" } }

def queuedRemotely (fresh : RuntimeTaskRecord) (detail : String) : RuntimeTaskRecord :=
  { fresh with
    status := .queued
    detail := some detail
    executionId := some routed.intent.executionId
    selectedBackendId := some routed.decision.selectedBackendId
    selectedHarnessId := some routed.decision.selectedHarnessId }

def leasedRemotely (fresh : RuntimeTaskRecord) (lease : TaskLease) : RuntimeTaskRecord :=
  { fresh with
    status := .leased
    selectedNodeId := some lease.nodeId
    selectedConnectorId := some lease.connectorId
    selectedHarnessId := some lease.connectorId
    selectedBackendId := some routed.decision.selectedBackendId
    executionId := some routed.intent.executionId
    executionDecisionReason := some routed.decision.reason
    executionFallbackOrder := routed.decision.fallbackOrder
    providerRoutingRequired := routed.decision.providerRoutingRequired
    detail := none }

-- The first audit event of execute_with_fallback.
def entered : Progress where
  audits := [auditEvent routed.intent routed.decision "backend.selected"
    routed.decision.selectedBackendId true (some routed.decision.reason)]

end Routed

-- The reasons that a task without an eligible worker is queued with.
def queueDetail (candidates : List RouteCandidate) : String :=
  match candidates.head? with
  | some candidate => "; ".intercalate candidate.rejectionReasons
  | none => "no workers available"

def unknownTask (taskId : String) : PyError := ⟨"KeyError", "unknown runtime task: " ++ taskId⟩

def LeaseRefusal.error (refusal : LeaseRefusal) : PyError := ⟨"PermissionError", refusal.text⟩

namespace RuntimeService

variable (engine : PolicyEngine) (order : Iteration) (s : RuntimeService)

def initial (ttl : Time) : RuntimeService := { leases := .initial ttl }

def lease (call : LeaseCall) (stamp : Time := s.clock) : TimedCall := ⟨s.clock, stamp, call⟩

def attemptsOf (taskId : String) : List ExecutionAttempt := (s.attempts.lookup taskId).getD []

def raised (error : PyError) : Effect := { answer := some (.error error) }

-- The record of a task, or the KeyError of get_task, which reads the memory of
-- the store and is never suspended.
def withTask (taskId : String) (continued : RuntimeTaskRecord → Effect) : Effect :=
  match s.tasks.lookup taskId with
  | none => raised (unknownTask taskId)
  | some task => continued task

-- Up to its first save create_task reads nothing that other calls write. The
-- id of the task comes from uuid4.
def createTask (taskId : String) (body : CreateRuntimeTaskBody) (skipRouting : Bool) :
    Option Effect :=
  if (s.tasks.lookup taskId).isSome then none
  else
    match Runtime.createTask engine order body taskId with
    | .error error => some (raised error)
    | .ok task =>
        if task.status = .routing then
          some
            { saved := some task
              next := some (if skipRouting then .queueing task else .routing taskId) }
        else some { saved := some task, answer := some (.ok task) }

def approveTask (taskId : String) : Effect :=
  s.withTask taskId fun task =>
    match task.approve with
    | .error error => raised error
    | .ok task => { saved := some task, next := some (.routing taskId) }

def markOffered (taskId : String) (fencingToken : Nat) : Effect :=
  let call := s.lease (.activeLease taskId)
  match (s.leases.respond call).1 with
  | .ok (some lease) =>
      if lease.fencingToken ≠ fencingToken then
        { raised LeaseRefusal.staleFencingToken.error with leaseCalls := [call] }
      else
        { s.withTask taskId fun task =>
            { saved := some { task with status := .offered }
              answer := some (.ok { task with status := .offered }) } with
          leaseCalls := [call] }
  | _ => { raised LeaseRefusal.staleFencingToken.error with leaseCalls := [call] }

-- A call that ends the task is suspended while the completion is audited.
def nodeEvent (taskId attemptId leaseId : String) (fencingToken : Nat) (eventType : String) :
    Effect :=
  let call := s.lease (.validateEvent taskId leaseId fencingToken attemptId)
  match (s.leases.respond call).1 with
  | .error refusal => { raised refusal.error with leaseCalls := [call] }
  | .ok _ =>
      { s.withTask taskId fun task =>
          if eventType = "task.accepted" then
            { saved := some { task with status := .accepted }
              answer := some (.ok { task with status := .accepted }) }
          else if eventType = "task.started" then
            { saved := some { task with status := .running }
              answer := some (.ok { task with status := .running }) }
          else if eventType ∉ endingEvents then { answer := some (.ok task) }
          else { next := some (.ingesting task fencingToken eventType) } with
        leaseCalls := [call] }

def cancelTask (taskId : String) : Effect :=
  s.withTask taskId fun task =>
    if task.status ∈ endedStatuses then { answer := some (.ok task) }
    else { next := some (.cancelling task) }

-- Whether the execution has started is read off the status of the moment.
def retryDecision (taskId : String) (task : RuntimeTaskRecord) (failureClass : FailureClass) :
    RetryDecision :=
  decideRetry task failureClass (s.attemptsOf taskId).length
    (task.status = .running ∨ task.status = .accepted)

def retryTask (taskId : String) (failureClass : FailureClass) : Effect :=
  s.withTask taskId fun task =>
    let decision := s.retryDecision taskId task failureClass
    if decision.retry then { next := some (.retrying task) }
    else raised ⟨"PermissionError", decision.reason⟩

def startOperation : Operation → Option Effect
  | .createTask taskId body skipRouting => s.createTask engine order taskId body skipRouting
  | .approveTask taskId => some (s.approveTask taskId)
  | .markOffered taskId fencingToken => some (s.markOffered taskId fencingToken)
  | .nodeEvent taskId attemptId leaseId fencingToken eventType =>
      some (s.nodeEvent taskId attemptId leaseId fencingToken eventType)
  | .cancelTask taskId => some (s.cancelTask taskId)
  | .retryTask taskId failureClass => some (s.retryTask taskId failureClass)
  | .heartbeat taskId fencingToken stamp =>
      some { leaseCalls := [s.lease (.heartbeat taskId fencingToken) stamp] }
  | .lookUpLease taskId => some { leaseCalls := [s.lease (.activeLease taskId)] }

-- Whatever the release raises is dropped.
def workerEnds (routed : Routed) (lease : TaskLease) (ended : CodingWorkerEnd) : Effect where
  leaseCalls := [s.lease (.release lease.taskId lease.fencingToken)]
  next := some (.completing routed (workerResult routed ended))

def holdsActive : Except LeaseRefusal (Option TaskLease) → Bool
  | .ok (some lease) => lease.status = .active
  | _ => false

-- The coding worker begins with its lease.
def startWorker (routed : Routed) (leaseId attemptId : String) (stamp : Time) : Effect :=
  let taskId := routed.task.taskId
  let look := s.lease (.activeLease taskId)
  let acquire := s.lease (.acquire leaseId
    { taskId := taskId, nodeId := "local-codex-worker", connectorId := "codex",
      attemptId := attemptId }) stamp
  if holdsActive (s.leases.respond look).1 then
    { leaseCalls := [look]
      next := some (.completing routed (workerResult routed
        { status := "failed"
          summary := "duplicate task lease prevented"
          error := some "duplicate task lease prevented" })) }
  else
    match ((s.leases.respond look).2.respond acquire).1 with
    | .ok (some lease) => { leaseCalls := [look, acquire], next := some (.working routed lease) }
    | .ok none => { leaseCalls := [look, acquire] }
    | .error refusal => { raised refusal.error with leaseCalls := [look, acquire] }

def handOver (routed : Routed) (leaseId attemptId : String) (stamp : Time) : Effect :=
  if codingWorkerRoute routed.decision then s.startWorker routed leaseId attemptId stamp
  else { next := some (.trying routed routed.entered routed.decision.order) }

-- A worker that cannot renew its lease fails.
def beat (routed : Routed) (lease : TaskLease) (stamp : Time) : Effect :=
  let call := s.lease (.heartbeat lease.taskId lease.fencingToken) stamp
  match (s.leases.respond call).1 with
  | .ok (some renewed) => { leaseCalls := [call], next := some (.working routed renewed) }
  | _ =>
      { s.workerEnds routed lease (workerFailed "PermissionError") with
        leaseCalls := [call, s.lease (.release lease.taskId lease.fencingToken)] }

def openBackend (routed : Routed) (p : Progress) (backendId : String) (rest : List String)
    (turn : Routing.Turn) : Effect :=
  match openTurn routed.intent routed.decision p backendId turn with
  | .inl ended => afterTurn routed rest ended
  | .inr (p, attempt) =>
      let preparing := auditEvent routed.intent routed.decision "backend.preparing" backendId true none
      { next := some (.preparing
          { routed := routed
            progress := (p.audit preparing).called (.prepare backendId)
            backendId := backendId
            attempt := attempt
            rest := rest }) }

-- The submission reads the task anew.
def submit (turn : BackendTurn) (candidates : List RouteCandidate) : Effect :=
  let taskId := turn.routed.task.taskId
  match s.tasks.lookup taskId with
  | none => turn.fail (unknownTask taskId)
  | some fresh => { next := some (.submitting turn fresh candidates) }

def submitted (turn : BackendTurn) (fresh : RuntimeTaskRecord) (candidates : List RouteCandidate)
    (leaseId attemptId : String) (stamp : Time) : Effect :=
  match candidates.find? (·.eligible) with
  | none =>
      let detail := queueDetail candidates
      { saved := some (turn.routed.queuedRemotely fresh detail)
        next := some (.remote turn { status := "queued", message := some detail }) }
  | some candidate =>
      let call := s.lease (.acquire leaseId
        { taskId := fresh.taskId
          nodeId := candidate.nodeId
          connectorId := candidate.connectorId
          attemptId := attemptId }) stamp
      match (s.leases.respond call).1 with
      | .ok (some lease) =>
          { leaseCalls := [call]
            next := some (.granted turn fresh lease ((s.attemptsOf fresh.taskId).length + 1)) }
      | .ok none => { leaseCalls := [call] }
      | .error refusal => { turn.fail refusal.error with leaseCalls := [call] }

def executionAttempt (fresh : RuntimeTaskRecord) (lease : TaskLease) (number : Nat) :
    ExecutionAttempt where
  attemptId := lease.attemptId
  taskId := fresh.taskId
  attemptNumber := number
  nodeId := lease.nodeId
  connectorId := lease.connectorId
  leaseId := lease.leaseId

-- An exception out of the call that the suspended one waits for.
def interrupted (error : PyError) : Call → Effect
  | .working routed lease => s.workerEnds routed lease (workerFailed error.type)
  | .preparing turn => turn.fail error
  | .submitting turn .. => turn.fail error
  | .granted turn .. => turn.fail error
  | .recorded turn .. => turn.fail error
  | .remote turn _ => turn.fail error
  | .executing turn => turn.fail error
  | _ => raised error

-- A call that is cancelled from outside runs its finally blocks only.
def abandoned : Call → Effect
  | .working _ lease => { leaseCalls := [s.lease (.release lease.taskId lease.fencingToken)] }
  | _ => {}

def selectRoute (task : RuntimeTaskRecord) (intent : ExecutionIntent) :
    Except PyError ExecutionDecision → Effect
  | .error error =>
      let rejected := { task with
        status := .rejected
        detail := some error.text
        executionId := some intent.executionId }
      { saved := some rejected, answer := some (.ok rejected) }
  | .ok decision =>
      let task := Routed.decided task decision
      { saved := some task, next := some (.selected ⟨task, intent, decision⟩) }

def annotate (routed : Routed) : Effect :=
  if routed.decision.providerRoutingRequired then
    { saved := some routed.annotated.task, next := some (.handing routed.annotated) }
  else { next := some (.handing routed) }

-- The task stays with its node when the joymesh backend was selected.
def complete (routed : Routed) (result : ExecutionResult) (verdict : CompletionVerdict) : Effect :=
  if routed.decision.selectedBackendId = "joymesh" ∧ result.ok then
    s.withTask routed.task.taskId fun task => { answer := some (.ok task) }
  else
    let final := finalRecord routed result verdict
    { saved := some final, answer := some (.ok final) }

def ingest (task : RuntimeTaskRecord) (fencingToken : Nat) (verdict : CompletionVerdict) :
    Effect :=
  if verdict.failureClass ∈ lateFailures then { answer := some (.ok task) }
  else if task.status ∈ endedStatuses then { answer := some (.ok task) }
  else
    { saved := some { task with status := nodeStatus verdict, detail := some verdict.detail }
      next := some (.releasing task.taskId fencingToken) }

def releaseEnded (taskId : String) (fencingToken : Nat) : Effect :=
  let call := s.lease (.release taskId fencingToken)
  match (s.leases.respond call).1 with
  | .error refusal => { raised refusal.error with leaseCalls := [call] }
  | .ok _ => { s.withTask taskId fun task => { answer := some (.ok task) } with leaseCalls := [call] }

def freeLease (task : RuntimeTaskRecord) : Effect :=
  let look := s.lease (.activeLease task.taskId)
  match (s.leases.respond look).1 with
  | .ok (some lease) =>
      if lease.status = .active then
        { leaseCalls := [look, s.lease (.release task.taskId lease.fencingToken)]
          next := some (.cancelled task) }
      else { leaseCalls := [look], next := some (.cancelled task) }
  | _ => { leaseCalls := [look], next := some (.cancelled task) }

def cancelledRecord (task : RuntimeTaskRecord) : RuntimeTaskRecord :=
  { task with status := .cancelled, detail := some "user_cancelled" }

def reset (task : RuntimeTaskRecord) : RuntimeTaskRecord :=
  { task with status := .routing, detail := none }

def proceed : Call → Input → Option Effect
  | call, .raised error => some (s.interrupted error call)
  | call, .aborted => some (s.abandoned call)
  | .queueing task, .go => some { saved := some task.queue, answer := some (.ok task.queue) }
  | .routing taskId, .planned planning =>
      some (s.withTask taskId fun task =>
        let remote := planning.hasNodes ∨ task.requiredNode.any (· ≠ "")
        let mission := missionSpecFromTask task planning.prompt planning.workspacePath
          (if remote then "remote" else "local") remote
        { next := some (.selecting task (plan planning.analysis planning.executionId mission)) })
  | .selecting task intent, .chosen selection => some (selectRoute task intent selection)
  | .selected routed, .go => some (annotate routed)
  | .handing routed, .handed leaseId attemptId stamp =>
      some (s.handOver routed leaseId attemptId stamp)
  | .working routed lease, .beat stamp => some (s.beat routed lease stamp)
  | .working routed lease, .worked ended => some (s.workerEnds routed lease ended)
  | .trying routed p [], .go =>
      some { next := some (.completing routed (concluded routed.intent routed.decision p)) }
  | .trying routed p (backendId :: rest), .opened turn =>
      some (openBackend routed p backendId rest turn)
  | .preparing turn, .ranked candidates =>
      if turn.backendId = "joymesh" then some (s.submit turn candidates) else none
  | .preparing turn, .prepared outcome =>
      if turn.backendId = "joymesh" then none
      else some (turn.settle outcome { next := some (.executing turn.ready) })
  | .submitting turn fresh candidates, .leasing leaseId attemptId stamp =>
      some (s.submitted turn fresh candidates leaseId attemptId stamp)
  | .granted turn fresh lease number, .go =>
      some
        { attempt := some (executionAttempt fresh lease number)
          next := some (.recorded turn fresh lease) }
  | .recorded turn fresh lease, .go =>
      some
        { saved := some (turn.routed.leasedRemotely fresh lease)
          next := some (.remote turn { status := "leased" }) }
  | .remote turn submission, .validated outcome =>
      some (turn.settle outcome (turn.ready.execute (.returned (joymeshResult submission))))
  | .executing turn, .executed outcome => some (turn.execute outcome)
  | .completing routed result, .completed verdict => some (s.complete routed result verdict)
  | .ingesting task fencingToken _, .completed verdict => some (ingest task fencingToken verdict)
  | .releasing taskId fencingToken, .go => some (s.releaseEnded taskId fencingToken)
  | .cancelling task, .go => some (s.freeLease task)
  | .cancelled task, .go =>
      some { saved := some (cancelledRecord task), answer := some (.ok (cancelledRecord task)) }
  | .retrying task, .go => some { saved := some (reset task), next := some (.routing task.taskId) }
  | _, _ => none

-- Saves write the memory of the store before they are suspended.
def apply (effect : Effect) : RuntimeService :=
  { s with
    leases := play LeaseService.respond s.leases effect.leaseCalls
    attempts := match effect.attempt with
      | some attempt =>
          s.attempts.insert attempt.taskId (saveAttempt (s.attemptsOf attempt.taskId) attempt)
      | none => s.attempts
    tasks := match effect.saved with
      | some task => s.tasks.insert task.taskId task
      | none => s.tasks }

def setCall (i : Nat) (call : Option Call) : RuntimeService :=
  { s with calls := Function.update s.calls i call }

def advance (i : Nat) (effect : Effect) : RuntimeService := (s.apply effect).setCall i effect.next

def step (s : RuntimeService) : Label → Option RuntimeService
  | .tick later => if s.clock ≤ later then some { s with clock := later } else none
  | .start i operation =>
      if (s.calls i).isSome then none
      else (s.startOperation engine order operation).map (s.advance i)
  | .resume i input => (s.calls i).bind fun call => (s.proceed call input).map (s.advance i)

end RuntimeService

end JoyMesh.Runtime
