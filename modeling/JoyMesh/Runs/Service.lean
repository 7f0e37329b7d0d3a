import JoyMesh.Library.Programs

namespace JoyMesh.Runs

open JoyMesh.Library

inductive RunStatus where
  | queued
  | running
  | completed
  | failed
  | cancelled
  | timedOut
deriving DecidableEq, Repr

def RunStatus.terminal : RunStatus → Bool
  | .completed | .failed | .cancelled | .timedOut => true
  | _ => false

-- What is raised: the timeout of the runtime, the cancellation of a task, any other
-- exception, and what is no Exception.
inductive Fault where
  | timeout
  | cancelled
  | exception
  | abort
deriving DecidableEq, Repr

-- The awaits of the runtime and of the callbacks that it is given, which update other
-- columns of the run.
inductive RuntimeAwait where
  | spawn
  | processId
  | line
  | sessionId
  | sessionIdentified
  | recordUsage
  | usageRecorded
  | supervise

inductive Op where
  | initializeDatabase
  | getRun
  | loadRow
  | commitRow (loaded target : RunStatus)
  | findRequest
  | popRequest
  | adapter
  | runtime (await : RuntimeAwait)
  | classify
  | observe
  | event
  | handleRateLimit
  | taskDone
  | runtimeCancel
  | findTask
  | cancelTask
  | gatherTask
  | saveCheckpoint
  | publish
  | flushOnce

@[reducible] def Op.Reply : Op → Type
  | getRun => Option RunStatus
  | loadRow => RunStatus
  | findRequest => Bool
  | runtime _ => Int
  | classify => Bool
  | runtimeCancel => Bool
  | findTask => Bool
  | _ => Unit

@[reducible] def signature : Signature where
  Op := Op
  Reply := Op.Reply
  Error := Fault

abbrev RunM := Program signature

@[reducible] def perform (op : Op) : RunM op.Reply := @Program.perform signature op

-- The status is written with the row that was loaded.
def updateRun (target : RunStatus) : RunM Unit := do
  let loaded ← perform .loadRow
  perform (.commitRow loaded target)

-- What the adapter reads in a line.
structure Line where
  nativeSession : Bool
  usage : Bool

def sessionIdentified (line : Line) : RunM Unit :=
  if line.nativeSession then do
    let _ ← perform (.runtime .sessionId)
    let _ ← perform (.runtime .sessionIdentified)
    return ()
  else return ()

def usageRecorded (subscribed : Bool) (line : Line) : RunM Unit :=
  if line.usage && subscribed then do
    let _ ← perform (.runtime .recordUsage)
    let _ ← perform (.runtime .usageRecorded)
    return ()
  else return ()

def onLine (subscribed : Bool) (line : Line) : RunM Unit := do
  let _ ← perform (.runtime .line)
  sessionIdentified line
  usageRecorded subscribed line

def onLines (subscribed : Bool) : List Line → RunM Unit
  | [] => return ()
  | line :: rest => do
      onLine subscribed line
      onLines subscribed rest

def runtimeExecute (subscribed : Bool) (lines : List Line) : RunM Int := do
  let _ ← perform (.runtime .spawn)
  let _ ← perform (.runtime .processId)
  onLines subscribed lines
  perform (.runtime .supervise)

def publishRuntimeObservation : RunM Unit := do
  perform .observe
  perform .event

-- The try block of _execute.
def attempt (subscribed : Bool) (lines : List Line) : RunM Unit := do
  let exitCode ← runtimeExecute subscribed lines
  let current ← perform .getRun
  if current = none ∨ current = some .cancelled then return ()
  else if exitCode = 0 then
    updateRun .completed
    publishRuntimeObservation
    perform .event
  else
    let rateLimit ← perform .classify
    updateRun .failed
    publishRuntimeObservation
    perform .event
    if rateLimit then perform .handleRateLimit

-- Its except clauses. The status is not read again.
def handled : Fault → RunM Unit
  | .timeout => do
      updateRun .timedOut
      publishRuntimeObservation
      perform .event
  | .cancelled => throw Fault.cancelled
  | .exception => do
      updateRun .failed
      publishRuntimeObservation
      perform .event
  | .abort => throw Fault.abort

-- What is done however the program ends.
def ending (op : Op) (program : RunM Unit) : RunM Unit := do
  program.catching fun fault => do
    let _ ← perform op
    throw fault
  let _ ← perform op
  return ()

def execute (subscribed : Bool) (lines : List Line) : RunM Unit := do
  let run ← perform .getRun
  let request ← perform .findRequest
  if run = none ∨ request = false then return ()
  else
    perform .adapter
    updateRun .running
    perform .event
    ending .popRequest ((attempt subscribed lines).catching handled)

-- A task whose child is not there to be terminated is cancelled, and waited for.
def stopTask : RunM Unit := do
  let terminated ← perform .runtimeCancel
  let task ← perform .findTask
  if !terminated && task then
    perform .cancelTask
    perform .gatherTask
  else return ()

def cancel : RunM (Option RunStatus) := do
  perform .initializeDatabase
  match ← perform .getRun with
  | none => throw Fault.exception
  | some status =>
      if status.terminal then return some status
      else
        updateRun .cancelled
        stopTask
        perform .saveCheckpoint
        perform .event
        perform .publish
        perform .flushOnce
        return some .cancelled

inductive Call where
  | execute (subscribed : Bool) (lines : List Line)
  | cancel

-- The task of a run, which is done when _execute has ended.
def Call.program : Call → RunM (Option RunStatus)
  | .execute subscribed lines => do
      ending .taskDone (Runs.execute subscribed lines)
      return none
  | .cancel => Runs.cancel

-- One run: its row, and what the service keeps of it in memory.
structure Shared where
  row : Option RunStatus := some .queued
  started : Bool := false
  requested : Bool := true
  done : Bool := false

-- A run is executed once, by the task that start_run makes.
def Call.enter : Call → Shared → Option Shared
  | .execute _ _, s => if s.started then none else some { s with started := true }
  | .cancel, s => some s

-- What is raised where, whether a commit that raises has written, and what the child, the
-- adapter and the runtime answer.
structure Choice where
  fault : Option Fault := none
  wrote : Bool := false
  exitCode : Int := 0
  rateLimit : Bool := false
  terminated : Bool := false

-- Only the runtime raises its timeout.
def answered {α : Type} (choice : Choice) (value : α) (s : Shared) :
    Option (Except Fault α × Shared) :=
  match choice.fault with
  | none => some (.ok value, s)
  | some .timeout => none
  | some fault => some (.error fault, s)

-- A commit writes what differs from the row that was loaded.
def Shared.write (s : Shared) (loaded target : RunStatus) : Shared :=
  if loaded = target then s else { s with row := s.row.map fun _ => target }

def effect : (op : Op) → Choice → Shared → Option (Except Fault op.Reply × Shared)
  | .getRun, choice, s => answered choice s.row s
  | .loadRow, choice, s =>
      match s.row with
      | none => some (.error .exception, s)
      | some status => answered choice status s
  | .commitRow loaded target, choice, s =>
      if choice.fault = none ∨ choice.wrote then answered choice () (s.write loaded target)
      else answered choice () s
  | .findRequest, _, s => some (.ok s.requested, s)
  | .popRequest, _, s => some (.ok (), { s with requested := false })
  | .runtime _, choice, s =>
      match choice.fault with
      | none => some (.ok choice.exitCode, s)
      | some fault => some (.error fault, s)
  | .classify, choice, s => answered choice choice.rateLimit s
  | .taskDone, _, s => some (.ok (), { s with done := true })
  | .runtimeCancel, choice, s => answered choice choice.terminated s
  | .findTask, _, s => some (.ok (s.started && !s.done), s)
  | .cancelTask, _, s => some (.ok (), s)
  | .gatherTask, choice, s => if s.done ∨ choice.fault ≠ none then answered choice () s else none
  | .initializeDatabase, choice, s => answered choice () s
  | .adapter, choice, s => answered choice () s
  | .observe, choice, s => answered choice () s
  | .event, choice, s => answered choice () s
  | .handleRateLimit, choice, s => answered choice () s
  | .saveCheckpoint, choice, s => answered choice () s
  | .publish, choice, s => answered choice () s
  | .flushOnce, choice, s => answered choice () s

-- Any number of cancel calls beside the task of one run, each at one of its awaits.
@[reducible] def runs : System signature where
  Shared := Shared
  Call := Call
  Choice := Choice
  Outside := Empty
  Result := Option RunStatus
  program := Call.program
  enter := Call.enter
  effect := effect
  outside event := nomatch event

end JoyMesh.Runs
