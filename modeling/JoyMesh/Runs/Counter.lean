import JoyMesh.Runs.Service

namespace JoyMesh.Runs.Counter

open JoyMesh.Library

section Definitions

-- What _execute awaits, and the calls in it that can raise.
inductive Io where
  | getRun
  | findRequest
  | adapter
  | updateRun
  | event
  | runtimeExecute
  | classifyFailure
  | observeQuota
  | snapshot
  | handleRateLimit
deriving DecidableEq

@[reducible] def Io.Reply : Io → Type
  | getRun => Option RunStatus
  | findRequest => Bool
  | runtimeExecute => Int
  | classifyFailure => Bool
  | _ => Unit

-- Where it stands there: before the try block, in the block until the observation, in it
-- after that, and the same two in a handler.
inductive Stage where
  | starting
  | trying
  | tried
  | handling
  | handled
deriving DecidableEq

inductive Op where
  | io (stage : Stage) (what : Io)
  | markRunStarted (runId harnessId : String)
  | markRunning (runId harnessId : String)
  | popRequest
  | taskDone (runId : String)

@[reducible] def Op.Reply : Op → Type
  | io _ what => what.Reply
  | _ => Unit

@[reducible] def signature : Signature where
  Op := Op
  Reply := Op.Reply
  Error := Fault

abbrev CounterM := Program signature

@[reducible] def perform (op : Op) : CounterM op.Reply := @Program.perform signature op

@[reducible] def await (stage : Stage) (what : Io) : CounterM what.Reply := perform (.io stage what)

variable (runId harnessId : String)

-- The count goes down before anything is awaited.
def observeExecution (stage : Stage) : CounterM Unit := do
  perform (.markRunning runId harnessId)
  await stage .observeQuota
  await stage .snapshot

def publishRuntimeObservation (stage : Stage) : CounterM Unit := do
  observeExecution runId harnessId stage
  await stage .event

-- The try block of _execute.
def attempt : CounterM Unit := do
  let exitCode ← await .trying .runtimeExecute
  let current ← await .trying .getRun
  if current = none ∨ current = some .cancelled then
    perform (.markRunning runId harnessId)
  else if exitCode = 0 then do
    await .trying .updateRun
    publishRuntimeObservation runId harnessId .tried
    await .tried .event
  else do
    let rateLimit ← await .trying .classifyFailure
    await .trying .updateRun
    publishRuntimeObservation runId harnessId .tried
    await .tried .event
    if rateLimit then await .tried .handleRateLimit else return ()

def recorded : CounterM Unit := do
  await .handling .updateRun
  publishRuntimeObservation runId harnessId .handled
  await .handled .event

-- Its except clauses.
def handle : Fault → CounterM Unit
  | .timeout => recorded runId harnessId
  | .cancelled => do
      perform (.markRunning runId harnessId)
      throw Fault.cancelled
  | .exception => recorded runId harnessId
  | .abort => throw Fault.abort

-- What is done however the program ends.
def ending (op : Op) (program : CounterM Unit) : CounterM Unit := do
  program.catching fun fault => do
    let _ ← perform op
    throw fault
  let _ ← perform op
  return ()

def execute : CounterM Unit := do
  let run ← await .starting .getRun
  let request ← await .starting .findRequest
  if run = none ∨ request = false then return ()
  else do
    await .starting .adapter
    await .starting .updateRun
    await .starting .event
    perform (.markRunStarted runId harnessId)
    ending .popRequest ((attempt runId harnessId).catching (handle runId harnessId))

structure Call where
  runId : String
  harnessId : String

-- The task of a run.
def Call.program (call : Call) : CounterM Unit :=
  ending (.taskDone call.runId) (execute call.runId call.harnessId)

-- The running counts, with what is kept beside them: the runs that were executed, the calls
-- that are marked and have not ended, every mark and every undoing, and the tasks that are done.
structure Shared where
  running : String → Nat := fun _ => 0
  executed : List String := []
  opened : List (String × String) := []
  marked : List String := []
  undone : List String := []
  done : List String := []

-- A run has one task.
def Call.enter (call : Call) (s : Shared) : Option Shared :=
  if call.runId ∈ s.executed then none else some { s with executed := call.runId :: s.executed }

-- What is raised where, and what is answered.
structure Choice where
  fault : Option Fault := none
  row : Option RunStatus := some .running
  requested : Bool := true
  exitCode : Int := 0
  rateLimit : Bool := false

def Choice.reply (choice : Choice) : (what : Io) → what.Reply
  | .getRun => choice.row
  | .findRequest => choice.requested
  | .adapter => ()
  | .updateRun => ()
  | .event => ()
  | .runtimeExecute => choice.exitCode
  | .classifyFailure => choice.rateLimit
  | .observeQuota => ()
  | .snapshot => ()
  | .handleRateLimit => ()

def Shared.mark (s : Shared) (runId harnessId : String) : Shared :=
  { s with
    running := Function.update s.running harnessId (s.running harnessId + 1)
    opened := (runId, harnessId) :: s.opened
    marked := runId :: s.marked }

-- The count does not go below zero. A call has ended with the first time that it undoes.
def Shared.unmark (s : Shared) (runId harnessId : String) : Shared :=
  { s with
    running := Function.update s.running harnessId (s.running harnessId - 1)
    opened := s.opened.erase (runId, harnessId)
    undone := runId :: s.undone }

def Shared.finish (s : Shared) (runId : String) : Shared :=
  { s with
    opened := s.opened.filter fun call => call.1 ≠ runId
    done := runId :: s.done }

-- Only the runtime raises its timeout.
def effect : (op : Op) → Choice → Shared → Option (Except Fault op.Reply × Shared)
  | .io _ what, choice, s =>
      match choice.fault with
      | none => some (.ok (choice.reply what), s)
      | some fault =>
          if fault = .timeout ∧ what ≠ .runtimeExecute then none else some (.error fault, s)
  | .markRunStarted runId harnessId, _, s => some (.ok (), s.mark runId harnessId)
  | .markRunning runId harnessId, _, s => some (.ok (), s.unmark runId harnessId)
  | .popRequest, _, s => some (.ok (), s)
  | .taskDone runId, _, s => some (.ok (), s.finish runId)

-- Any number of runs, each at one of its awaits.
@[reducible] def counters : System signature where
  Shared := Shared
  Call := Call
  Choice := Choice
  Outside := Empty
  Result := Unit
  program := Call.program
  enter := Call.enter
  effect := effect
  outside event := nomatch event

-- The count of every harness is the number of its open calls. No start is undone twice, and
-- none is left when its task is done.
structure Balanced (s : Shared) : Prop where
  count : ∀ harnessId, s.running harnessId = s.opened.countP fun call => call.2 = harnessId
  once : s.undone.Nodup
  started : s.undone ⊆ s.marked
  undone : ∀ runId ∈ s.done, runId ∈ s.marked → runId ∈ s.undone

-- What can be raised where without the count going wrong: not what no handler takes while the
-- start is not undone, not what a handler takes after it was, and nothing in a handler before.
def Tolerated : Stage → Fault → Prop
  | .starting, _ => True
  | .trying, fault => fault ≠ .abort
  | .tried, fault => fault = .abort
  | .handling, _ => False
  | .handled, _ => True

instance : (stage : Stage) → (fault : Fault) → Decidable (Tolerated stage fault)
  | .starting, _ => .isTrue trivial
  | .trying, fault => inferInstanceAs (Decidable (fault ≠ .abort))
  | .tried, fault => inferInstanceAs (Decidable (fault = .abort))
  | .handling, _ => .isFalse id
  | .handled, _ => .isTrue trivial

def Permits : Op → Choice → Prop
  | .io stage _, choice => ∀ fault ∈ choice.fault, Tolerated stage fault
  | _, _ => True

instance : (op : Op) → (choice : Choice) → Decidable (Permits op choice)
  | .io stage _, choice => inferInstanceAs (Decidable (∀ fault ∈ choice.fault, Tolerated stage fault))
  | .markRunStarted _ _, _ => .isTrue trivial
  | .markRunning _ _, _ => .isTrue trivial
  | .popRequest, _ => .isTrue trivial
  | .taskDone _, _ => .isTrue trivial

def Contained (w : counters.World) : counters.Label → Prop
  | .go id choice => ∀ op ∈ w.awaiting id, Permits op choice
  | _ => True

instance (w : counters.World) : DecidablePred (Contained w)
  | .start _ _ => .isTrue trivial
  | .go id choice => inferInstanceAs (Decidable (∀ op ∈ w.awaiting id, Permits op choice))
  | .outside _ => .isTrue trivial

end Definitions

end JoyMesh.Runs.Counter
