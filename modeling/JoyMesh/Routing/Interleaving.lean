import JoyMesh.Library.Run
import JoyMesh.Routing.Discipline

namespace JoyMesh.Routing

-- The function that cancels the execution on its backend is known by the backend.
structure ActiveExecution where
  executionId : String
  attemptId : String
  backendId : String
  harnessId : Option String
  cancelFn : Option String := none
  cancelled : Bool := false
  cancelCount : Nat := 0
deriving DecidableEq, Repr

-- No operation waits while it holds the lock, so each of them is one step.
structure CancellationRegistry where
  active : Finmap fun _ : String => ActiveExecution := ∅

namespace CancellationRegistry

variable (registry : CancellationRegistry) (executionId : String)

def register (backendId : String) (harnessId : Option String) (attemptId : String) :
    CancellationRegistry where
  active := registry.active.insert executionId { executionId, attemptId, backendId, harnessId }

def updateAttempt (attemptId backendId : String) (harnessId cancelFn : Option String) :
    CancellationRegistry :=
  match registry.active.lookup executionId with
  | none => registry
  | some row =>
      { active := registry.active.insert executionId
          { row with attemptId, backendId, harnessId, cancelFn := cancelFn.or row.cancelFn } }

def get : Option ActiveExecution := registry.active.lookup executionId

def isCancelled : Bool := (registry.active.lookup executionId).any (·.cancelled)

-- A cancellation that is the first to mark the execution.
def marks : Bool := (registry.active.lookup executionId).any (!·.cancelled)

-- What cancel() does before it waits for the backend.
def cancel : CancellationRegistry :=
  match registry.active.lookup executionId with
  | none => registry
  | some row =>
      { active := registry.active.insert executionId
          { row with cancelled := true, cancelCount := row.cancelCount + 1 } }

def clear : CancellationRegistry where
  active := registry.active.erase executionId

variable {registry executionId}

@[simp] theorem isCancelled_register (backendId : String) (harnessId : Option String)
    (attemptId : String) :
    (registry.register executionId backendId harnessId attemptId).isCancelled executionId = false := by
  simp [isCancelled, register]

@[simp] theorem get_clear : (registry.clear executionId).get executionId = none := by
  simp [get, clear]

theorem get_cancel_of_none (h : registry.get executionId = none) :
    (registry.cancel executionId).get executionId = none := by
  unfold cancel
  rw [show registry.active.lookup executionId = none from h]
  exact h

theorem marks_of_get (h : registry.get executionId = none) :
    registry.marks executionId = false := by
  unfold marks
  rw [show registry.active.lookup executionId = none from h]
  rfl

theorem isCancelled_cancel_marks (h : registry.marks executionId = true) :
    (registry.cancel executionId).isCancelled executionId = true := by
  unfold marks at h
  unfold cancel isCancelled
  cases hrow : registry.active.lookup executionId with
  | none =>
      rw [hrow] at h
      cases h
  | some row => simp

-- Only the first cancellation changes what is_cancelled says.
theorem isCancelled_cancel (h : registry.marks executionId = false) :
    (registry.cancel executionId).isCancelled executionId = registry.isCancelled executionId := by
  unfold marks at h
  unfold cancel isCancelled
  cases hrow : registry.active.lookup executionId with
  | none => simp [hrow]
  | some row =>
      rw [hrow] at h
      simpa using h

end CancellationRegistry

open Library

-- The await that a turn is suspended in. The cleanup comes after the end of the
-- try block.
inductive Stage where
  | health
  | prepare
  | validate
  | execute
  | cleanup (ended : TurnEnd)

-- The turn that the loop is in.
structure Turning where
  backendId : String
  turn : Turn
  attempt : ExecutionAttemptRecord

inductive Standing where
  | suspended (turning : Turning) (stage : Stage)
  | left (outcome : Outcome ExecutionResult)

-- What happens in a call until it is left.
inductive Event where
  | marked
  | began (backendId : String)
deriving DecidableEq, Repr

-- The loop of a call that has registered, with the turns that are still to come.
structure Loop where
  registry : CancellationRegistry
  progress : Progress
  remaining : List (String × Turn) := []
  log : List Event := []

structure Execution extends Loop where
  standing : Standing

section Calls

variable (intent : ExecutionIntent) (decision : ExecutionDecision)

namespace Loop

-- The end of the call: out of the loop the registry is cleared.
def leave (loop : Loop) (ended : TurnEnd × Progress) : Execution :=
  match ended.1 with
  | .finish outcome => { toLoop := { loop with progress := ended.2 }, standing := .left outcome }
  | _ =>
      { toLoop := { loop with
          registry := loop.registry.clear intent.executionId
          progress := ended.2 }
        standing := .left (.returned (concluded intent decision ended.2)) }

-- On to the next await of the turn.
def suspend (loop : Loop) (turning : Turning) (stage : Stage) (p : Progress) : Execution where
  toLoop := { loop with progress := p }
  standing := .suspended turning stage

-- On to the next turn that waits for a backend, or out of the loop.
def advance (loop : Loop) : List (String × Turn) → Execution
  | [] => loop.leave intent decision (.next, loop.progress)
  | (backendId, turn) :: rest =>
      if loop.registry.isCancelled intent.executionId then
        loop.leave intent decision (cancelledResult intent decision loop.progress backendId)
      else
        match enforceEntitlements turn.entitlements intent (some backendId) with
        | .error error =>
            loop.leave intent decision (refusedResult intent decision loop.progress backendId error)
        | .ok _ =>
            let p := { loop.progress with attempted := loop.progress.attempted ++ [backendId] }
            let attempt : ExecutionAttemptRecord :=
              { attemptId := turn.attemptId
                executionId := intent.executionId
                attemptNumber := p.attempts.length + 1
                backendId := backendId
                harnessId := decision.selectedHarnessId }
            match turn.registered with
            | .error text =>
                advance
                  { loop with
                    progress := (unregistered intent decision p attempt backendId text).2 }
                  rest
            | .ok _ =>
                let registry := loop.registry.updateAttempt intent.executionId turn.attemptId
                  backendId (some decision.selectedHarnessId) (some backendId)
                Loop.suspend { loop with registry, remaining := rest }
                  { backendId, turn, attempt } .health (p.called (.health backendId))

def settle (loop : Loop) (ended : TurnEnd × Progress) : Execution :=
  match ended.1 with
  | .next => advance intent decision { loop with progress := ended.2 } loop.remaining
  | _ => loop.leave intent decision ended

-- The finally block.
def cleanUp (loop : Loop) (turning : Turning) (ended : TurnEnd × Progress) : Execution :=
  loop.suspend turning (.cleanup ended.1) (ended.2.called (.cleanup turning.backendId))

def checked (loop : Loop) (turning : Turning) (health : BackendHealth) : Execution :=
  let p := loop.progress
  if !health.healthy ∨ health.state = "disabled" ∨ health.state = "unsupported" then
    loop.settle intent decision
      (unhealthy intent decision p turning.attempt turning.backendId health)
  else
    let p := p.called (.supports turning.backendId)
    match turning.turn.supports with
    | .aborted error => loop.leave intent decision (.finish (.aborted error), p)
    | .raised error => loop.leave intent decision (.finish (.raised error), p)
    | .returned false =>
        loop.settle intent decision
          (unsupported intent decision p turning.attempt turning.backendId)
    | .returned true =>
        let p := p.audit (auditEvent intent decision "backend.preparing" turning.backendId true none)
        loop.suspend turning .prepare (p.called (.prepare turning.backendId))

def validated (loop : Loop) (turning : Turning) : Execution :=
  let audit (p : Progress) (eventType : String) : Progress :=
    p.audit (auditEvent intent decision eventType turning.backendId true none)
  let p := audit (audit loop.progress "backend.ready") "execution.started"
  Loop.suspend { loop with log := loop.log ++ [.began turning.backendId] } turning .execute
    (p.called (.execute turning.backendId turning.turn.execute))

def raised (loop : Loop) (turning : Turning) (error : PyError) : Execution :=
  loop.cleanUp turning
    (prepareFailed intent decision loop.progress turning.attempt turning.backendId error)

def aborted (loop : Loop) (turning : Turning) (error : PyError) : Execution :=
  loop.cleanUp turning (.finish (.aborted error), loop.progress)

def returned (loop : Loop) (turning : Turning) (result : BackendResult) : Execution :=
  let registry := if result.ok then loop.registry.clear intent.executionId else loop.registry
  Loop.cleanUp { loop with registry } turning
    (executed intent decision loop.progress turning.attempt turning.backendId result)

-- From the await of a turn to the next await, or out of the call.
def proceed (loop : Loop) (turning : Turning) : Stage → Execution
  | .health =>
      match turning.turn.health with
      | .aborted error => loop.leave intent decision (.finish (.aborted error), loop.progress)
      | .raised error => loop.leave intent decision (.finish (.raised error), loop.progress)
      | .returned health => loop.checked intent decision turning health
  | .prepare =>
      match turning.turn.prepare with
      | .aborted error => loop.aborted turning error
      | .raised error => loop.raised intent decision turning error
      | .returned _ =>
          loop.suspend turning .validate (loop.progress.called (.validate turning.backendId))
  | .validate =>
      match turning.turn.validate with
      | .aborted error => loop.aborted turning error
      | .raised error => loop.raised intent decision turning error
      | .returned _ => loop.validated intent decision turning
  | .execute =>
      match turning.turn.execute with
      | .aborted error => loop.aborted turning error
      | .raised error => loop.raised intent decision turning error
      | .returned result => loop.returned intent decision turning result
  | .cleanup ended =>
      match turning.turn.cleanup with
      | .aborted error => loop.leave intent decision (.finish (.aborted error), loop.progress)
      | _ => loop.settle intent decision (ended, loop.progress)

end Loop

namespace Execution

def proceed (e : Execution) : Option Execution :=
  match e.standing with
  | .left _ => none
  | .suspended turning stage => some (e.toLoop.proceed intent decision turning stage)

-- router.cancel(execution_id), up to where it waits for the backend.
def cancel (e : Execution) : Execution :=
  let registry := e.registry.cancel intent.executionId
  match e.standing with
  | .left _ => { e with registry }
  | .suspended _ _ =>
      { e with
        registry
        log := if e.registry.marks intent.executionId then e.log ++ [.marked] else e.log }

end Execution

inductive Label where
  | proceed
  | cancel
deriving DecidableEq, Repr

def interleaved (e : Execution) : Label → Option Execution
  | .proceed => e.proceed intent decision
  | .cancel => some (e.cancel intent)

-- The call registers and comes to its first await.
def registered (registry : CancellationRegistry) (attemptId : String)
    (turns : List (String × Turn)) : Execution :=
  let selected := auditEvent intent decision "backend.selected" decision.selectedBackendId true
    (some decision.reason)
  Loop.advance intent decision
    { registry := registry.register intent.executionId decision.selectedBackendId
        (some decision.selectedHarnessId) attemptId
      progress := { audits := [selected] } }
    turns

end Calls

end JoyMesh.Routing
