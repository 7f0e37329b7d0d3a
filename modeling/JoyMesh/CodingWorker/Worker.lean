import JoyMesh.Runtime.Launch
import JoyMesh.Runtime.Leases

namespace JoyMesh.CodingWorker

open JoyMesh.Library JoyMesh.Routing JoyMesh.Runtime

inductive CodingWorkerStatus where
  | completed
  | failed
  | cancelled
deriving DecidableEq, Repr

def CodingWorkerStatus.value : CodingWorkerStatus → String
  | completed => "completed"
  | failed => "failed"
  | cancelled => "cancelled"

structure CodingWorkerTestResult where
  command : String
  status : String
  outputSummary : String
deriving DecidableEq, Repr

structure ArtifactReference where
  kind : String
  uri : String
deriving DecidableEq, Repr

structure EvidenceReference where
  kind : String
  uri : String
  summary : String
deriving DecidableEq, Repr

structure CodingWorkerResult where
  taskId : String
  status : CodingWorkerStatus
  summary : String
  changedFiles : List String := []
  testsRun : List CodingWorkerTestResult := []
  artifacts : List ArtifactReference := []
  evidence : List EvidenceReference := []
  error : Option String := none
  workerId : String
  leaseId : Option String := none
  fencingToken : Option Nat := none
  progressEvents : List String := []
deriving DecidableEq, Repr

def publicProgressEvents : List String :=
  ["Worker acquired task", "Repository opened", "Implementation started", "Tests running",
    "Verification evidence prepared", "Task completed"]

def progressEvent (index : Nat) : String := publicProgressEvents.getD index ""

-- What the coding worker reads of a RepositorySafetyReport.
structure RepositorySafetyReport where
  path : String
  dirtyFiles : List String
deriving DecidableEq, Repr

inductive Inspection where
  | safe (report : RepositorySafetyReport)
  | rejected (code message : String)
  | raised (type : String)
deriving DecidableEq, Repr

-- How adapter.run ends: with its output, with a ProcessRunnerError, with another
-- exception, or cut off.
inductive RunEnd where
  | returned (output : Mapping)
  | refused (reasonCode message : String)
  | raised (type : String)
  | aborted
deriving DecidableEq

-- The await that a call is suspended in: the callback of a progress event or
-- adapter.run. A call is over once it has returned or an exception has left it.
inductive Stage where
  | acquired
  | opened (safety : RepositorySafetyReport)
  | started (safety : RepositorySafetyReport)
  | running (safety : RepositorySafetyReport)
  | tested (safety : RepositorySafetyReport) (output : Mapping)
  | prepared (safety : RepositorySafetyReport) (output : Mapping)
      (tests : List CodingWorkerTestResult) (changed : List String)
  | reported (result : CodingWorkerResult)
  | returned (result : CodingWorkerResult)
  | escaped
deriving DecidableEq

-- A call of execute. Its output and its changed files are kept beside it.
structure Call where
  worker : Nat
  task : CodingWorkerTask
  workerId : String
  lease : TaskLease
  progress : List String := []
  stage : Stage
  output : Option Mapping := none
  changed : Option (List String) := none

-- The workers that share a lease service, each with the tasks that it was told to
-- cancel. The calls that got no lease leave their results.
structure Crew where
  leases : LeaseService
  cancelled : List (Nat × String) := []
  calls : Table Nat Call := ∅
  refused : List CodingWorkerResult := []

-- What a call meets on the way to its next await: how the one it is in ends, the
-- clock, and what it looks at.
structure Met where
  callback : Outcome Unit := .returned ()
  now : Time
  stamp : Time
  releasing : Time
  inspection : Inspection := .raised "OSError"
  run : RunEnd := .aborted
  tests : Except String (List CodingWorkerTestResult) := .ok []
  listing : Except String (List String) := .ok []

namespace Call

variable (call : Call)

def ended : Bool :=
  match call.stage with
  | .returned _ => true
  | .escaped => true
  | _ => false

-- The fields of a result that has come past the lease.
def result (status : CodingWorkerStatus) (summary : String) : CodingWorkerResult where
  taskId := call.task.taskId
  status := status
  summary := summary
  workerId := call.workerId
  leaseId := some call.lease.leaseId
  fencingToken := some call.lease.fencingToken
  progressEvents := call.progress

def failed (summary error : String) : CodingWorkerResult :=
  { call.result .failed summary with error := some error }

def cancelledResult : CodingWorkerResult :=
  { call.result .cancelled "task cancelled" with error := some "cancelled" }

-- emit(): the label is noted before the callback is awaited.
def emit (label : String) (stage : Stage) : Call :=
  { call with progress := call.progress ++ [label], stage }

def textOr (value : Value) (default : String) : String :=
  if value.truthy then value.text else default

def succeeded (output : Mapping) : Bool := (output.get "ok").truthy

-- The tests that stand for the run when the output names none.
def testsRun (output : Mapping) (tests : List CodingWorkerTestResult) :
    List CodingWorkerTestResult :=
  if tests = [] ∧ call.task.allowedActions.runTests then
    [{ command := "git status --short"
       status := if succeeded output then "passed" else "failed"
       outputSummary := "verification captured from worker evidence" }]
  else tests

def reportResult (safety : RepositorySafetyReport) (output : Mapping)
    (tests : List CodingWorkerTestResult) (changed : List String) : CodingWorkerResult :=
  let ok := succeeded output
  let status : CodingWorkerStatus := if ok then .completed else .failed
  let summary := textOr (output.get "message") status.value
  let uri := "ref://joymesh/coding-worker/" ++ call.task.taskId
  { call.result status summary with
    changedFiles := changed
    testsRun := tests
    artifacts := changed.map fun item => ⟨"changed_file", "file://" ++ safety.path ++ "/" ++ item⟩
    evidence :=
      [⟨"coding_worker_result", uri, summary⟩,
        ⟨"changed_files", uri ++ "/files",
          if changed = [] then "no new changes" else ", ".intercalate changed⟩]
    error := if ok then none else some (textOr (output.get "failure_class") "process_failure") }

end Call

namespace Crew

variable (s : Crew)

def isCancelled (call : Call) : Bool := s.cancelled.contains (call.worker, call.task.taskId)

-- The finally block: whatever the release raises is dropped.
def close (id : Nat) (call : Call) (stage : Stage) (met : Met) : Crew where
  leases := (s.leases.release met.releasing call.lease.taskId call.lease.fencingToken).2
  cancelled := s.cancelled.filter (· ≠ (call.worker, call.task.taskId))
  calls := s.calls.insert id { call with stage }
  refused := s.refused

def fail (id : Nat) (call : Call) (summary error : String) (met : Met) : Crew :=
  s.close id call (.returned (call.failed summary error)) met

def suspend (id : Nat) (call : Call) : Crew := { s with calls := s.calls.insert id call }

-- handle.heartbeat(), with what comes after it.
def beat (id : Nat) (call : Call) (met : Met) (next : Crew → Call → Crew) : Crew :=
  match s.leases.heartbeat met.now met.stamp call.lease.taskId call.lease.fencingToken with
  | (.error _, leases) =>
      { s with leases }.fail id call "coding worker failed" "PermissionError" met
  | (.ok lease, leases) => next { s with leases } { call with lease }

-- The output of a run that has returned, read under a renewed lease.
def collect (id : Nat) (call : Call) (safety : RepositorySafetyReport) (output : Mapping)
    (met : Met) : Crew :=
  s.beat id call met fun s call =>
    match met.tests with
    | .error type => s.fail id call "coding worker failed" type met
    | .ok tests =>
        match met.listing with
        | .error type => s.fail id call "coding worker failed" type met
        | .ok changed =>
            let call := { call with changed := some changed }
            s.suspend id (call.emit (progressEvent 4)
              (.prepared safety output (call.testsRun output tests) changed))

def ran (id : Nat) (call : Call) (safety : RepositorySafetyReport) (met : Met) : Crew :=
  match met.run with
  | .returned output =>
      let call := { call with output := some output }
      if call.task.allowedActions.runTests then
        s.suspend id (call.emit (progressEvent 3) (.tested safety output))
      else s.collect id call safety output met
  | .refused reasonCode message =>
      s.beat id call met fun s call => s.fail id call message reasonCode met
  | .raised type => s.fail id call "coding worker failed" type met
  | .aborted => s.close id call .escaped met

-- From the callback of a progress event to the next await.
def goOn (id : Nat) (call : Call) (met : Met) : Stage → Crew
  | .acquired =>
      if s.isCancelled call then s.close id call (.returned call.cancelledResult) met
      else
        match met.inspection with
        | .safe safety => s.suspend id (call.emit (progressEvent 1) (.opened safety))
        | .rejected code message => s.fail id call message code met
        | .raised type => s.fail id call "coding worker failed" type met
  | .opened safety =>
      s.beat id call met fun s call =>
        if !call.task.allowedActions.editFiles && !call.task.allowedActions.runTests then
          s.fail id call "coding worker has no allowed actions" "no_actions" met
        else s.suspend id (call.emit (progressEvent 2) (.started safety))
  | .started safety =>
      s.beat id call met fun s call =>
        if s.isCancelled call then s.close id call (.returned call.cancelledResult) met
        else s.suspend id { call with stage := .running safety }
  | .tested safety output => s.collect id call safety output met
  | .prepared safety output tests changed =>
      if s.isCancelled call then s.close id call (.returned call.cancelledResult) met
      else
        let call := call.emit
          (if Call.succeeded output then progressEvent 5 else "Task failed") call.stage
        s.suspend id
          { call with stage := .reported (call.reportResult safety output tests changed) }
  | .reported result => s.close id call (.returned result) met
  | _ => s

-- The first event is reported before the try: what its callback raises leaves the
-- call with the lease as it is.
def interrupted (id : Nat) (call : Call) (met : Met) : Stage → Crew
  | .acquired => s.suspend id { call with stage := .escaped }
  | _ =>
      match met.callback with
      | .raised error => s.fail id call "coding worker failed" error.type met
      | _ => s.close id call .escaped met

def resume (id : Nat) (met : Met) : Option Crew :=
  match s.calls.lookup id with
  | none => none
  | some call =>
      match call.stage with
      | .returned _ => none
      | .escaped => none
      | .running safety => some (s.ran id call safety met)
      | stage =>
          some <| match met.callback with
          | .returned _ => s.goOn id call met stage
          | _ => s.interrupted id call met stage

-- execute() up to its first await: a task with an active lease is refused. The
-- service looks twice at the lease.
def start (id worker : Nat) (task : CodingWorkerTask) (workerId leaseId attemptId : String)
    (looking now stamp : Time) : Option Crew :=
  if (s.calls.lookup id).isSome then none
  else
    let (current, leases) := s.leases.activeLease looking task.taskId
    if current.any (·.status = .active) then
      let result : CodingWorkerResult :=
        { taskId := task.taskId
          status := .failed
          summary := "duplicate task lease prevented"
          error := some "duplicate task lease prevented"
          workerId }
      some { s with leases, refused := s.refused ++ [result] }
    else
      let (granted, leases) := leases.acquire now stamp leaseId
        { taskId := task.taskId, nodeId := workerId, connectorId := "codex", attemptId }
      match granted with
      | .error _ => some { s with leases }
      | .ok lease =>
          let call : Call := { worker, task, workerId, lease, stage := .acquired }
          some ({ s with leases }.suspend id (call.emit (progressEvent 0) .acquired))

end Crew

inductive Label where
  | start (id worker : Nat) (task : CodingWorkerTask) (workerId leaseId attemptId : String)
      (looking now stamp : Time)
  | cancel (worker : Nat) (taskId : String)
  | resume (id : Nat) (met : Met)

def step (s : Crew) : Label → Option Crew
  | .start id worker task workerId leaseId attemptId looking now stamp =>
      s.start id worker task workerId leaseId attemptId looking now stamp
  | .cancel worker taskId => some { s with cancelled := (worker, taskId) :: s.cancelled }
  | .resume id met => s.resume id met

end JoyMesh.CodingWorker
