import JoyMesh.Library.Programs
import Mathlib.Data.List.DropRight

namespace JoyMesh.Processes

open JoyMesh.Library

abbrev Bytes := List UInt8

-- How long something may take is not told: any wait with a timeout can run out.
structure ProcessRunRequest where
  argv : List String
  cwd : String
  maxStdoutBytes : Nat := 8000000
  maxStderrBytes : Nat := 2000000
  runId : String
deriving DecidableEq

structure ProcessRunResult where
  ok : Bool
  runId : String
  returncode : Option Int
  timedOut : Bool
  cancelled : Bool
  stdout : String
  stderr : String
  stdoutDigest : String
  stderrDigest : String
  truncated : Bool
  lingering : Bool := false
  classification : String := "ok"
deriving DecidableEq

-- What the runner calls to make texts of bytes.
structure Texts where
  decode : Bytes → String
  digest : String → String
  redactSecrets : String → String

inductive Fault where
  | processRunnerError (reasonCode message : String)
  | valueError
  | osError
  | cancelledError
  | generatorExit
deriving DecidableEq

-- CancelledError and GeneratorExit are no Exception.
def Fault.isException : Fault → Bool
  | .cancelledError | .generatorExit => false
  | _ => true

inductive Signal where
  | sigint
  | sigterm
  | sigkill
deriving DecidableEq

inductive StreamEvent where
  | output (sequence : Nat) (line : String)
  | cancelled (sequence : Nat)
  | failed (sequence : Nat) (reason : String)
  | exited (sequence : Nat) (returncode : Option Int)
deriving DecidableEq

namespace StreamEvent

def terminal : StreamEvent → Bool
  | output _ _ => false
  | _ => true

end StreamEvent

inductive Reading where
  | line (line : Bytes)
  | eof
  | timeout
deriving DecidableEq

-- The awaits of the runner, and what it does between them at one instant. The check
-- for a cancellation in run is one with its finally block.
inductive Op where
  | validateCwd (cwd : String)
  | spawn (request : ProcessRunRequest) (cwd : String)
  | communicate (child : Nat)
  | readAll (child : Nat)
  | returncode (child : Nat)
  | signal (child : Nat) (signal : Signal)
  | waitFor (child : Nat) (signal : Signal)
  | flagged (runId : String)
  | readline (child : Nat)
  | wait (child : Nat)
  | emit (child : Nat) (event : StreamEvent)
  | resume (child : Nat)
  | conclude (child : Nat) (runId : String)
  | release (child : Nat) (runId : String)
  | mark (runId : String)

@[reducible] def Op.Reply : Op → Type
  | validateCwd _ => String
  | spawn _ _ => Nat
  | communicate _ => Option (Bytes × Bytes)
  | readAll _ => Bytes
  | returncode _ => Option Int
  | waitFor _ _ => Bool
  | flagged _ => Bool
  | readline _ => Reading
  | conclude _ _ => Bool × Option Int
  | mark _ => Option Nat
  | _ => Unit

@[reducible] def signature : Signature where
  Op := Op
  Reply := Op.Reply
  Error := Fault

abbrev RunnerM := Program signature

@[reducible] def perform (op : Op) : RunnerM op.Reply := @Program.perform signature op

section Programs

variable (texts : Texts) (request : ProcessRunRequest) (child : Nat)

-- Whether the child is left lingering.
def terminateProcessTree : RunnerM Bool := do
  if (← perform (.returncode child)).isSome then return false
  else
    perform (.signal child .sigint)
    if ← perform (.waitFor child .sigint) then return false
    else
      perform (.signal child .sigterm)
      if ← perform (.waitFor child .sigterm) then return false
      else
        perform (.signal child .sigkill)
        return !(← perform (.waitFor child .sigkill))

structure Output where
  timedOut : Bool := false
  lingering : Bool := false
  stdout : Bytes := []
  stderr : Bytes := []

-- What is there of one stream, unless the reading raises.
def drainOne : RunnerM (Option Bytes) :=
  (do return some (← perform (.readAll child))).catching fun fault =>
    if fault.isException then return none else throw fault

def drain : RunnerM (Bytes × Bytes) := do
  match ← drainOne child with
  | none => return ([], [])
  | some stdout =>
      match ← drainOne child with
      | none => return (stdout, [])
      | some stderr => return (stdout, stderr)

def outputs : RunnerM Output := do
  match ← perform (.communicate child) with
  | some (stdout, stderr) => return { stdout, stderr }
  | none =>
      let lingering ← terminateProcessTree child
      let (stdout, stderr) ← drain child
      return { timedOut := true, lingering, stdout, stderr }

def classifyExit (returncode : Option Int) (timedOut cancelled : Bool) : String :=
  if cancelled then "cancelled"
  else if timedOut then "timeout"
  else
    match returncode with
    | some 0 => "ok"
    | none => "unknown"
    | some _ => "process_failure"

def Texts.result (output : Output) (cancelled : Bool) (returncode : Option Int) :
    ProcessRunResult :=
  let stdout := texts.decode (output.stdout.take request.maxStdoutBytes)
  let stderr := texts.decode (output.stderr.take request.maxStderrBytes)
  let classification := classifyExit returncode output.timedOut cancelled
  { ok := classification = "ok" ∧ returncode = some 0
    runId := request.runId
    returncode
    timedOut := output.timedOut
    cancelled
    stdout, stderr
    stdoutDigest := texts.digest stdout
    stderrDigest := texts.digest stderr
    truncated := request.maxStdoutBytes < output.stdout.length ∨
      request.maxStderrBytes < output.stderr.length
    lingering := output.lingering
    classification }

-- The finally block after an exception.
def releasing {α : Type} (program : RunnerM α) : RunnerM α :=
  program.catching fun fault => do
    let _ ← perform (.release child request.runId)
    throw fault

-- How run and stream_lines begin.
def spawning {α : Type} (next : Nat → RunnerM α) : RunnerM α := do
  let cwd ← perform (.validateCwd request.cwd)
  let child ← perform (.spawn request cwd)
  next child

def concluded : RunnerM ProcessRunResult := do
  let output ← outputs child
  let (cancelled, returncode) ← perform (.conclude child request.runId)
  return texts.result request output cancelled returncode

def run : RunnerM ProcessRunResult :=
  if request.argv = [] then
    throw (Fault.processRunnerError "invalid_argv" "argv must be non-empty")
  else spawning request fun child => releasing request child (concluded texts request child)

-- An event is handed over, and the generator rests until the next one is asked for.
def yielding (event : StreamEvent) : RunnerM Unit := do
  perform (.emit child event)
  perform (.resume child)

def Texts.outputLine (line : Bytes) : String :=
  texts.redactSecrets (String.ofList ((texts.decode line).toList.rdropWhile (· = '\n')))

def cancelling (sequence : Nat) : RunnerM Unit := do
  let _ ← terminateProcessTree child
  yielding child (.cancelled (sequence + 1))

def failing (sequence : Nat) (reason : String) : RunnerM Unit := do
  let _ ← terminateProcessTree child
  yielding child (.failed (sequence + 1) reason)

def completing (sequence : Nat) : RunnerM Unit := do
  perform (.wait child)
  let returncode ← perform (.returncode child)
  yielding child (.exited (sequence + 1) returncode)

-- A line is not empty, so there are no more rounds than bytes within the limit, and one.
def streamLoop : Nat → Nat → Nat → RunnerM Unit
  | 0, _, _ => return ()
  | rounds + 1, sequence, collected => do
      if ← perform (.flagged request.runId) then cancelling child sequence
      else
        match ← perform (.readline child) with
        | .timeout => failing child sequence "timeout"
        | .eof => completing child sequence
        | .line line =>
            if request.maxStdoutBytes < collected + line.length then
              failing child sequence "output_limit"
            else do
              yielding child (.output (sequence + 1) (texts.outputLine line))
              streamLoop rounds (sequence + 1) (collected + line.length)

def streamed : RunnerM Unit := do
  releasing request child (streamLoop texts request child (request.maxStdoutBytes + 1) 0 0)
  perform (.release child request.runId)

def streamLines : RunnerM Unit :=
  spawning request fun child => streamed texts request child

structure CancelReport where
  cancelled : Bool := true
  lingering : Bool := false
  detail : Option String := none

def cancel (runId : String) : RunnerM CancelReport := do
  match ← perform (.mark runId) with
  | none => return { detail := some "no active process" }
  | some child => return { lingering := ← terminateProcessTree child }

-- ConnectorHarnessAdapter.cleanup
def cleanup (executionId : String) : RunnerM Unit := do
  let _ ← cancel executionId
  return ()

end Programs

inductive Call where
  | run (request : ProcessRunRequest)
  | stream (request : ProcessRunRequest)
  | cancel (runId : String)
  | cleanup (executionId : String)

inductive Result where
  | ran (result : ProcessRunResult)
  | streamed
  | cancelled (report : CancelReport)
  | cleaned

def Call.program (texts : Texts) : Call → RunnerM Result
  | .run request => do return .ran (← Processes.run texts request)
  | .stream request => do
      streamLines texts request
      return .streamed
  | .cancel runId => do return .cancelled (← Processes.cancel runId)
  | .cleanup executionId => do
      Processes.cleanup executionId
      return .cleaned

-- A child leads a process group of its own. What it has printed to stdout is there
-- in lines, and the unread ones are still to be read.
structure Child where
  printed : List Bytes := []
  unread : List Bytes := []
  closed : Bool := false
  exit : Option Int := none
  others : Bool := false

-- The runner with its processes and its cancelled ids, and the children.
structure Shared where
  processes : String → Option Nat := fun _ => none
  cancelled : List String := []
  children : Nat → Option Child := fun _ => none

namespace Shared

variable (s : Shared)

def exited (child : Nat) : Option Int := (s.children child).bind (·.exit)

def change (child : Nat) (change : Child → Child) : Shared :=
  { s with children := Function.update s.children child ((s.children child).map change) }

-- The finally block of a run.
def forget (runId : String) : Shared :=
  { s with
    processes := Function.update s.processes runId none
    cancelled := s.cancelled.filter (· ≠ runId) }

end Shared

-- What is raised where, whether a timeout runs out first, and what the system answers.
structure Choice where
  fault : Option Fault := none
  late : Bool := false
  child : Nat := 0
  path : String := ""
  stdout : Bytes := []
  stderr : Bytes := []

-- The limit of a StreamReader, which a line without its newline must not exceed.
def lineLimit : Nat := 65536

def overLong (line : Bytes) : Bool := lineLimit < (line.filter (· ≠ 10)).length

def answered {α : Type} (choice : Choice) (value : α) (s : Shared) :
    Option (Except Fault α × Shared) :=
  match choice.fault with
  | none => some (.ok value, s)
  | some fault => some (.error fault, s)

def readlineEffect (child : Nat) (choice : Choice) (s : Shared) :
    Option (Except Fault Reading × Shared) :=
  match s.children child with
  | none => none
  | some found =>
      match choice.fault with
      | some .valueError =>
          if found.unread.head?.any overLong then some (.error .valueError, s) else none
      | some fault => some (.error fault, s)
      | none =>
          if choice.late then some (.ok .timeout, s)
          else
            match found.unread with
            | line :: rest =>
                if overLong line then none
                else some (.ok (.line line), s.change child fun found => { found with unread := rest })
            | [] => if found.closed then some (.ok .eof, s) else none

-- What a reading of stdout can come to.
inductive Reads (s : Shared) (child : Nat) (choice : Choice) (found : Child) :
    Except Fault Reading → Shared → Prop
  | raised {fault : Fault} (hfault : choice.fault = some fault)
      (hlong : fault = .valueError → found.unread.head?.any overLong = true) :
      Reads s child choice found (.error fault) s
  | timeout : Reads s child choice found (.ok .timeout) s
  | line {line : Bytes} {rest : List Bytes} (hunread : found.unread = line :: rest) :
      Reads s child choice found (.ok (.line line))
        (s.change child fun found => { found with unread := rest })
  | eof (hunread : found.unread = []) (hclosed : found.closed = true) :
      Reads s child choice found (.ok .eof) s

theorem readline_cases {child : Nat} {choice : Choice} {s t : Shared}
    {answer : Except Fault Reading} (h : readlineEffect child choice s = some (answer, t)) :
    ∃ found, s.children child = some found ∧ Reads s child choice found answer t := by
  unfold readlineEffect at h
  cases hfound : s.children child with
  | none => simp [hfound] at h
  | some found =>
      refine ⟨found, rfl, ?_⟩
      simp only [hfound] at h
      split at h
      next hfault =>
        split at h
        next hlong =>
          cases h
          exact .raised hfault fun _ => hlong
        · cases h
      next fault hother hfault =>
        cases h
        exact .raised hfault fun hvalue => (hother hvalue).elim
      next =>
        split at h
        · cases h
          exact .timeout
        · split at h
          next line rest hunread =>
            split at h
            · cases h
            · cases h
              exact .line hunread
          next hunread =>
            split at h
            next hclosed =>
              cases h
              exact .eof hunread hclosed
            · cases h

theorem answered_shared {α : Type} {choice : Choice} {value : α} {s t : Shared}
    {answer : Except Fault α} (h : answered choice value s = some (answer, t)) : t = s := by
  unfold answered at h
  split at h
  all_goals
    cases h
    rfl

def effect : (op : Op) → Choice → Shared → Option (Except Fault op.Reply × Shared)
  | .validateCwd _, choice, s => answered choice choice.path s
  | .spawn request _, choice, s =>
      match choice.fault with
      | some fault => some (.error fault, s)
      | none =>
          if (s.children choice.child).isSome then none
          else
            some (.ok choice.child,
              { s with
                processes := Function.update s.processes request.runId (some choice.child)
                children := Function.update s.children choice.child (some {}) })
  | .communicate child, choice, s =>
      if choice.fault = none ∧ choice.late = false ∧ (s.exited child).isNone then none
      else
        let output := if choice.late then none else some (choice.stdout, choice.stderr)
        answered choice output s
  | .readAll _, choice, s => answered choice choice.stdout s
  | .returncode child, _, s => some (.ok (s.exited child), s)
  | .signal _ _, choice, s => answered choice () s
  | .waitFor child _, choice, s =>
      if choice.fault = none ∧ choice.late = false ∧ (s.exited child).isNone then none
      else answered choice (s.exited child).isSome s
  | .flagged runId, _, s => some (.ok (s.cancelled.contains runId), s)
  | .readline child, choice, s => readlineEffect child choice s
  | .wait child, choice, s =>
      if choice.fault = none ∧ (s.exited child).isNone then none else answered choice () s
  | .emit _ _, _, s => some (.ok (), s)
  | .resume _, choice, s => answered choice () s
  | .conclude child runId, _, s =>
      some (.ok (s.cancelled.contains runId, s.exited child), s.forget runId)
  | .release _ runId, _, s => some (.ok (), s.forget runId)
  | .mark runId, _, s =>
      some (.ok (s.processes runId), { s with cancelled := runId :: s.cancelled })

-- What the children do by themselves or at a signal.
inductive Outside where
  | prints (child : Nat) (line : Bytes)
  | closes (child : Nat)
  | exits (child : Nat) (returncode : Int)
  | forks (child : Nat)
  | joins (child : Nat)

def Outside.child : Outside → Nat
  | prints child _ => child
  | closes child => child
  | exits child _ => child
  | forks child => child
  | joins child => child

def Outside.possible (found : Child) : Outside → Bool
  | prints _ line => !found.closed && !line.isEmpty
  | closes _ => true
  | exits _ _ => found.exit.isNone
  | forks _ => found.exit.isNone || found.others
  | joins _ => found.others

def Outside.changes (found : Child) : Outside → Child
  | prints _ line =>
      { found with printed := found.printed ++ [line], unread := found.unread ++ [line] }
  | closes _ => { found with closed := true }
  | exits _ returncode => { found with exit := some returncode }
  | forks _ => { found with others := true }
  | joins _ => { found with others := false }

def happen (event : Outside) (s : Shared) : Option Shared :=
  if (s.children event.child).any event.possible then some (s.change event.child event.changes)
  else none

-- Any number of calls beside each other on one runner.
@[reducible] def processRunner (texts : Texts) : System signature where
  Shared := Shared
  Call := Call
  Choice := Choice
  Outside := Outside
  Result := Result
  program := Call.program texts
  enter _ s := some s
  effect := effect
  outside := happen

end JoyMesh.Processes
