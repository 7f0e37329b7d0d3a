import JoyMesh.Routing.Intent

namespace JoyMesh.Routing

structure BackendHealth where
  healthy : Bool
  detail : String
  state : String := "unknown"
deriving DecidableEq, Repr

structure BackendResult where
  ok : Bool
  message : String
  output : Mapping := ∅
  failureClass : Option String := none
  usage : Mapping := ∅
  evidenceRefs : List String := []
  verification : Mapping := ∅
  restoreStatus : Option String := none
deriving DecidableEq

structure BackendAuditEvent where
  eventType : String
  executionId : String
  backendId : Option String
  harnessId : Option String := none
  reason : Option String := none
  payload : Mapping := ∅
deriving DecidableEq

structure ExecutionAttemptRecord where
  attemptId : String
  executionId : String
  attemptNumber : Nat
  backendId : String
  harnessId : String
  failureClass : Option String := none
  fallbackReason : Option String := none
  usage : Mapping := ∅
  evidenceRefs : List String := []
  status : String := "started"
deriving DecidableEq

structure ExecutionResult where
  ok : Bool
  executionId : String
  backendId : String
  harnessId : String
  status : ExecutionStatus
  message : String
  attemptedBackends : List String := []
  decision : ExecutionDecision
  output : Mapping := ∅
  audits : List BackendAuditEvent := []
  attempts : List ExecutionAttemptRecord := []
  failureClass : Option String := none
  usage : Mapping := ∅
  evidenceRefs : List String := []
  verification : Mapping := ∅
  restoreStatus : Option String := none
deriving DecidableEq

-- What the router allows by backend id, where it says anything.
structure Entitlements where
  subscriptionAllows : List (String × Bool) := []
  quotaAllows : List (String × Bool) := []
deriving DecidableEq, Repr

def Entitlements.refuses (allows : List (String × Bool)) (backendId : String) : Bool :=
  allows.lookup backendId == some false

def enforceEntitlements (entitlements : Entitlements) (intent : ExecutionIntent)
    (backendId : Option String) : Except ExecutionRouterError Unit :=
  let constraints := intent.subscriptionConstraints
  let refused (allows : List (String × Bool)) : Bool :=
    backendId.any fun backendId => backendId != "" && Entitlements.refuses allows backendId
  if constraints.denied then
    .error ⟨"entitlement_required",
      match constraints.detail with
      | some detail => if detail = "" then "subscription entitlement required" else detail
      | none => "subscription entitlement required"⟩
  else if refused entitlements.subscriptionAllows then
    .error ⟨"backend_not_entitled", "backend not entitled: " ++ backendId.getD ""⟩
  else if refused entitlements.quotaAllows then
    .error ⟨"quota_exhausted", "quota exhausted for backend: " ++ backendId.getD ""⟩
  else
    match intent.preferredHarness with
    | none => .ok ()
    | some harness =>
        if harness ≠ "" ∧ harness ∈ constraints.deniedHarnesses then
          .error ⟨"harness_not_entitled", "harness not entitled: " ++ harness⟩
        else .ok ()

-- What the loop meets when a backend's turn comes: the cancellation mark, the
-- entitlements, the registered backend (or the text of the KeyError), and how
-- each call on it ends.
structure Turn where
  cancelled : Bool := false
  entitlements : Entitlements := {}
  registered : Except String Unit := .ok ()
  attemptId : String := "execution_attempt"
  health : Outcome BackendHealth := .returned ⟨true, "ready", "healthy"⟩
  supports : Outcome Bool := .returned true
  prepare : Outcome Unit := .returned ()
  validate : Outcome Unit := .returned ()
  execute : Outcome BackendResult
  cleanup : Outcome Unit := .returned ()

-- The calls on backends, in the order in which they begin.
inductive BackendCall where
  | health (backendId : String)
  | supports (backendId : String)
  | prepare (backendId : String)
  | validate (backendId : String)
  | execute (backendId : String) (outcome : Outcome BackendResult)
  | cleanup (backendId : String)
deriving DecidableEq

structure Progress where
  audits : List BackendAuditEvent
  attempts : List ExecutionAttemptRecord := []
  attempted : List String := []
  lastError : String := "no backend attempted"
  lastFailure : ExecutionFailureClass := .unknown
  calls : List BackendCall := []

-- A turn ends the whole call, leaves the loop, or lets the next backend try.
inductive TurnEnd where
  | finish (outcome : Outcome ExecutionResult)
  | stop
  | next

section Turns

variable (intent : ExecutionIntent) (decision : ExecutionDecision)

def auditEvent (eventType : String) (backendId : String) (harness : Bool) (reason : Option String) :
    BackendAuditEvent where
  eventType := eventType
  executionId := intent.executionId
  backendId := some backendId
  harnessId := if harness then some decision.selectedHarnessId else none
  reason := reason

namespace Progress

def audit (p : Progress) (event : BackendAuditEvent) : Progress :=
  { p with audits := p.audits ++ [event] }

def attempt (p : Progress) (record : ExecutionAttemptRecord) : Progress :=
  { p with attempts := p.attempts ++ [record] }

def called (p : Progress) (call : BackendCall) : Progress :=
  { p with calls := p.calls ++ [call] }

def failed (p : Progress) (message : String) (failure : ExecutionFailureClass) : Progress :=
  { p with lastError := message, lastFailure := failure }

end Progress

-- The fallback that a failure allows, with its audit event.
def fallBack (p : Progress) (backendId reason : String) (failure : ExecutionFailureClass) :
    TurnEnd × Progress :=
  if failure.mayFallback then
    (.next, p.audit (auditEvent intent decision "backend.fallback" backendId false (some reason)))
  else (.stop, p)

-- The handler of an exception in the preparation or in the execution.
def prepareFailed (p : Progress) (attempt : ExecutionAttemptRecord) (backendId : String)
    (error : PyError) : TurnEnd × Progress :=
  let failure := ExecutionFailureClass.preparationFailure
  let p := (p.failed error.text failure).attempt
    { attempt with
      status := "failed"
      failureClass := some failure.value
      fallbackReason := some error.type }
  let p := p.audit
    { auditEvent intent decision "backend.failed" backendId false (some error.type) with
      payload := .ofList [("error", .str (String.ofList (error.text.toList.take 200)))] }
  fallBack intent decision p backendId error.type failure

-- The branch after execute() has returned.
def executed (p : Progress) (attempt : ExecutionAttemptRecord) (backendId : String)
    (result : BackendResult) : TurnEnd × Progress :=
  let failure := ExecutionFailureClass.parseFailure result.failureClass
  let p := p.attempt
    { attempt with
      status := if result.ok then "succeeded" else "failed"
      failureClass := result.failureClass
      usage := result.usage
      evidenceRefs := result.evidenceRefs }
  let p := p.audit (auditEvent intent decision
    (if result.ok then "backend.completed" else "backend.failed") backendId true
    (some result.message))
  if result.ok then
    (.finish (.returned
      { ok := true
        executionId := intent.executionId
        backendId := backendId
        harnessId := decision.selectedHarnessId
        status := .succeeded
        message := result.message
        attemptedBackends := p.attempted
        decision := decision
        output := result.output
        audits := p.audits
        attempts := p.attempts
        usage := result.usage
        evidenceRefs := result.evidenceRefs
        verification := result.verification }), p)
  else fallBack intent decision (p.failed result.message failure) backendId result.message failure

-- The try block: prepare, validate and execute under one handler.
def tryBackend (p : Progress) (attempt : ExecutionAttemptRecord) (backendId : String)
    (turn : Turn) : TurnEnd × Progress :=
  let p := p.audit (auditEvent intent decision "backend.preparing" backendId true none)
  let p := p.called (.prepare backendId)
  match turn.prepare with
  | .aborted error => (.finish (.aborted error), p)
  | .raised error => prepareFailed intent decision p attempt backendId error
  | .returned _ =>
      let p := p.called (.validate backendId)
      match turn.validate with
      | .aborted error => (.finish (.aborted error), p)
      | .raised error => prepareFailed intent decision p attempt backendId error
      | .returned _ =>
          let p := p.audit (auditEvent intent decision "backend.ready" backendId true none)
          let p := p.audit (auditEvent intent decision "execution.started" backendId true none)
          let p := p.called (.execute backendId turn.execute)
          match turn.execute with
          | .aborted error => (.finish (.aborted error), p)
          | .raised error => prepareFailed intent decision p attempt backendId error
          | .returned result => executed intent decision p attempt backendId result

-- The finally block: only an exception that is not ordinary gets past it.
def cleanUp (turn : Turn) (backendId : String) (ended : TurnEnd × Progress) : TurnEnd × Progress :=
  let p := ended.2.called (.cleanup backendId)
  match turn.cleanup with
  | .aborted error => (.finish (.aborted error), p)
  | _ => (ended.1, p)

def unhealthy (p : Progress) (attempt : ExecutionAttemptRecord) (backendId : String)
    (health : BackendHealth) : TurnEnd × Progress :=
  let failure := ExecutionFailureClass.backendUnhealthy
  let p := p.attempt
    { attempt with
      status := "unavailable"
      failureClass := some failure.value
      fallbackReason := some health.detail }
  let p := p.audit (auditEvent intent decision "backend.unavailable" backendId false
    (some health.detail))
  fallBack intent decision (p.failed health.detail failure) backendId health.detail failure

def unsupported (p : Progress) (attempt : ExecutionAttemptRecord) (backendId : String) :
    TurnEnd × Progress :=
  let failure := ExecutionFailureClass.capabilityChanged
  let p := p.attempt
    { attempt with
      status := "failed"
      failureClass := some failure.value
      fallbackReason := some "capability mismatch" }
  let p := p.audit (auditEvent intent decision "backend.failed" backendId false
    (some "capability mismatch"))
  (.next, p.failed "capability mismatch" failure)

def unregistered (p : Progress) (attempt : ExecutionAttemptRecord) (backendId text : String) :
    TurnEnd × Progress :=
  let failure := ExecutionFailureClass.backendUnavailable
  let p := p.attempt
    { attempt with
      status := "unavailable"
      failureClass := some failure.value
      fallbackReason := some text }
  let p := p.audit (auditEvent intent decision "backend.unavailable" backendId false (some text))
  (.next, p.failed text failure)

def cancelledResult (p : Progress) (backendId : String) : TurnEnd × Progress :=
  let p := p.audit (auditEvent intent decision "backend.cancelled" backendId true (some "cancelled"))
  (.finish (.returned
    { ok := false
      executionId := intent.executionId
      backendId := backendId
      harnessId := decision.selectedHarnessId
      status := .cancelled
      message := "execution cancelled"
      attemptedBackends := if p.attempted.isEmpty then [backendId] else p.attempted
      decision := decision
      audits := p.audits
      attempts := p.attempts
      failureClass := some ExecutionFailureClass.cancelled.value }), p)

def refusedResult (p : Progress) (backendId : String) (error : ExecutionRouterError) :
    TurnEnd × Progress :=
  let p := p.audit (auditEvent intent decision "execution.blocked" backendId false
    (some error.message))
  (.finish (.returned
    { ok := false
      executionId := intent.executionId
      backendId := backendId
      harnessId := decision.selectedHarnessId
      status := .blocked
      message := error.message
      attemptedBackends := p.attempted
      decision := decision
      audits := p.audits
      attempts := p.attempts
      failureClass := some (ExecutionFailureClass.entitlementFailure error.reasonCode).value }), p)

-- One round of the loop over the backends.
def takeTurn (p : Progress) (backendId : String) (turn : Turn) : TurnEnd × Progress :=
  if turn.cancelled then cancelledResult intent decision p backendId
  else
    match enforceEntitlements turn.entitlements intent (some backendId) with
    | .error error => refusedResult intent decision p backendId error
    | .ok _ =>
        let p := { p with attempted := p.attempted ++ [backendId] }
        let attempt : ExecutionAttemptRecord :=
          { attemptId := turn.attemptId
            executionId := intent.executionId
            attemptNumber := p.attempts.length + 1
            backendId := backendId
            harnessId := decision.selectedHarnessId }
        match turn.registered with
        | .error text => unregistered intent decision p attempt backendId text
        | .ok _ =>
            let p := p.called (.health backendId)
            match turn.health with
            | .aborted error => (.finish (.aborted error), p)
            | .raised error => (.finish (.raised error), p)
            | .returned health =>
                if !health.healthy ∨ health.state = "disabled" ∨ health.state = "unsupported" then
                  unhealthy intent decision p attempt backendId health
                else
                  let p := p.called (.supports backendId)
                  match turn.supports with
                  | .aborted error => (.finish (.aborted error), p)
                  | .raised error => (.finish (.raised error), p)
                  | .returned false => unsupported intent decision p attempt backendId
                  | .returned true =>
                      cleanUp turn backendId (tryBackend intent decision p attempt backendId turn)

-- The result when no backend has finished the call.
def concluded (p : Progress) : ExecutionResult where
  ok := false
  executionId := intent.executionId
  backendId := decision.selectedBackendId
  harnessId := decision.selectedHarnessId
  status := if p.attempted.isEmpty ∨ p.lastFailure ∈ ExecutionFailureClass.blocks then .blocked
    else .failed
  message := "all backends failed or unavailable: " ++ p.lastError
  attemptedBackends := p.attempted
  decision := decision
  audits := p.audits
  attempts := p.attempts
  failureClass := some p.lastFailure.value

def tryOrder (p : Progress) : List (String × Turn) → Outcome ExecutionResult × Progress
  | [] => (.returned (concluded intent decision p), p)
  | (backendId, turn) :: rest =>
      match takeTurn intent decision p backendId turn with
      | (.finish outcome, p) => (outcome, p)
      | (.stop, p) => (.returned (concluded intent decision p), p)
      | (.next, p) => tryOrder p rest

-- The turns are given by the place of a backend in the order.
def executeWithFallback (turn : Nat → Turn) : Outcome ExecutionResult × Progress :=
  let selected := auditEvent intent decision "backend.selected" decision.selectedBackendId true
    (some decision.reason)
  tryOrder intent decision { audits := [selected] }
    (decision.order.mapIdx fun place backendId => (backendId, turn place))

end Turns

end JoyMesh.Routing
