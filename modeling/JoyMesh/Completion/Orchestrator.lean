import JoyMesh.Completion.Evidence
import JoyMesh.Completion.Verification

namespace JoyMesh.Completion

open Library

-- What the orchestrator calls and does not define. The projector of the mission
-- graph is known by the exception it raises for a record, if any.
structure Services where
  digests : Digests
  conversions : Conversions
  projectionError : CompletionRecord → Option String

-- The records as they are in memory and as they were last saved. A record that
-- is changed in memory is the one that the store hands out.
structure Orchestrator where
  evidence : EvidenceBoundary := {}
  usage : UsageFinaliser := {}
  live : Table String CompletionRecord := ∅
  saved : Table String CompletionRecord := ∅

namespace Orchestrator

def mutate (o : Orchestrator) (record : CompletionRecord) : Orchestrator :=
  { o with live := o.live.insert record.executionId record }

def save (o : Orchestrator) (record : CompletionRecord) : Orchestrator :=
  { o with
    live := o.live.insert record.executionId record
    saved := o.saved.insert record.executionId record }

-- A process that stops loses what it had not saved.
def restart (o : Orchestrator) : Orchestrator := { o with live := o.saved }

def listResumable (o : Orchestrator) : List CompletionRecord :=
  o.live.select fun record => record.state ∈ resumableCompletionStates

end Orchestrator

-- What a call does to the state that outlives it, in order. A verification and
-- a projection change nothing of it.
inductive Effect where
  | saved
  | backendCompleted (context : CompletionContext)
  | evidenceTaken
  | verified (request : VerificationRequest) (result : VerificationResult)
  | usageRead
  | projected (record : CompletionRecord)

structure Entry where
  effect : Effect
  after : Orchestrator

-- A call under way: the state, the record that it works on, and its effects.
structure Flight where
  now : Orchestrator
  record : CompletionRecord
  trace : List Entry := []

-- A call that is over. Without an outcome it has raised.
structure Ended where
  outcome : Option CompletionOutcome
  now : Orchestrator
  trace : List Entry := []

namespace Flight

def reach (f : Flight) (effect : Effect) (now : Orchestrator) : Flight :=
  { f with now, trace := f.trace ++ [⟨effect, now⟩] }

def modify (f : Flight) (change : CompletionRecord → CompletionRecord) : Flight :=
  { f with record := change f.record }

def become (f : Flight) (state : CompletionLifecycleState) : Flight :=
  f.modify fun record => { record with state }

def fail (f : Flight) (state : CompletionLifecycleState) (failureClass detail : String) : Flight :=
  f.modify fun record =>
    { record with state, failureClass := some failureClass, detail := some detail }

-- The terminal events of which an identical one is not emitted twice.
def deduplicated : List String :=
  ["execution.completed", "execution.failed", "execution.blocked", "execution.cancelled"]

def emitAs (f : Flight) (effect : Effect) (eventType : String) (payload : EventPayload)
    (force : Bool) : Flight :=
  let f := f.modify fun record => { record with sequence := record.sequence + 1 }
  let event : CompletionEvent :=
    { eventType, attemptId := f.record.attemptId, sequence := f.record.sequence, payload }
  if !force && eventType ∈ deduplicated && f.record.events.any fun prior =>
      prior.eventType = eventType && prior.payload.sameItems payload then
    -- the sequence has been counted up, but the record is not saved
    { f with now := f.now.mutate f.record }
  else
    let f := f.modify fun record => { record with events := record.events ++ [event] }
    f.reach effect (f.now.save f.record)

def emit (f : Flight) (eventType : String) (payload : List (String × Value)) : Flight :=
  f.emitAs .saved eventType (.items (.ofList payload)) false

def emitResult (f : Flight) (eventType : String) (result : VerificationResult) : Flight :=
  f.emitAs .saved eventType (.verification result) false

def ended (f : Flight) : Ended where
  outcome := some f.record.outcome
  now := f.now
  trace := f.trace

end Flight

section Calls

variable (services : Services)

-- The record of the execution, updated in memory, or a new one, saved.
def ensureRecord (o : Orchestrator) (trace : List Entry) (context : CompletionContext)
    (backendOk restoreOk updateAttempt : Bool) : Flight :=
  match o.live.lookup context.executionId with
  | some existing =>
      let record := if updateAttempt then
          { existing with backendOk, restoreOk, attemptId := context.attemptId }
        else existing
      { now := o.mutate record, record, trace }
  | none =>
      let record : CompletionRecord :=
        { executionId := context.executionId
          missionId := context.missionId
          state := .running
          attemptId := context.attemptId
          authoritativeAttemptId := context.authoritativeAttemptId
          backendId := context.backendId
          harnessId := context.harnessId
          organisationId := context.organisationId
          projectId := context.projectId
          backendOk
          restoreOk }
      Flight.reach { now := o, record, trace } .saved (o.save record)

def Flight.finaliseUsage (f : Flight) (usageFacts : List UsageFact) (success : Bool) :
    Flight × Bool :=
  let record := f.record
  let (result, usage) := f.now.usage.finalise services.conversions record.executionId
    record.organisationId record.projectId record.missionId usageFacts
  let f := f.reach .usageRead { f.now with usage }
  match result with
  | .ok aggregate =>
      let f := f.modify fun record =>
        { record with usageFinalised := true, usageAggregate := some aggregate }
      (f.emit "usage.finalised" [("execution_id", .str record.executionId)], success)
  | .error type =>
      let f := f.fail .blocked CompletionFailureClass.usageFinalisationFailed.value
        ("usage finalisation failed: " ++ type)
      (f.emit "execution.blocked" [("reason", .str "usage_finalisation_failed")], false)

def Flight.projectResult (f : Flight) : Flight :=
  let f := f.reach (.projected f.record) f.now
  match services.projectionError f.record with
  | none => f
  | some type =>
      let f := f.fail .blocked CompletionFailureClass.missionProjectionFailed.value
        ("mission projection failed: " ++ type)
      f.emit "execution.blocked" [("reason", .str "mission_projection_failed")]

def Flight.startFinalising (f : Flight) (success : Bool) : Flight :=
  let f := f.become (if success then .finalising else if f.record.isTerminal then f.record.state
    else .failed)
  if success then f.emit "execution.finalising" [] else f

def Flight.conclude (f : Flight) (success : Bool) : Flight :=
  if success then
    let f := f.become .completed
    let f := f.modify fun record =>
      { record with detail := (record.detail.filter (· ≠ "")).or (some "verified completion") }
    f.emit "execution.completed" [("verified", .bool true)]
  else if f.record.state = .finalising then f.become .failed
  else f

def Flight.finaliseTerminal (f : Flight) (success : Bool) (usageFacts : List UsageFact) : Ended :=
  if f.record.terminalEmitted ∧ f.record.isTerminal then f.ended else
    let (f, success) := (f.startFinalising success).finaliseUsage services usageFacts success
    let f := (f.conclude success).projectResult services
    let f := f.modify fun record => { record with terminalEmitted := true }
    (f.reach .saved (f.now.save f.record)).ended

-- A stale attempt leaves an event behind. Its state is the authoritative one's.
def rejectStale (o : Orchestrator) (context : CompletionContext) (reason : CompletionFailureClass)
    (detail : String) : Ended :=
  let f := ensureRecord o [] context false true false
  let f := f.emitAs .saved "execution.stale_attempt_rejected"
    (.items (.ofList [("attempt_id", .str context.attemptId), ("reason", .str reason.value)])) true
  if f.record.isTerminal then f.ended else
    { f.ended with
      outcome := some
        { ok := false
          state := f.record.state
          executionId := context.executionId
          missionId := context.missionId
          attemptId := context.attemptId
          detail
          failureClass := some reason.value
          events := f.record.events } }

def finaliseCancelled (o : Orchestrator) (trace : List Entry) (context : CompletionContext)
    (cleanupCompleted : Bool) : Ended :=
  let f := ensureRecord o trace context false true true
  if f.record.isTerminal ∧ f.record.terminalEmitted then f.ended
  else if ¬ cleanupCompleted then
    let f := f.fail .blocked CompletionFailureClass.cleanupFailed.value
      "cancellation cleanup incomplete"
    let f := f.emit "execution.blocked" [("reason", .str "cleanup_timeout")]
    f.finaliseTerminal services false []
  else
    let f := f.modify fun record =>
      { record with state := .cancelled, detail := some "execution cancelled" }
    let f := f.emit "execution.cancelled" [("cleanup_completed", .bool true)]
    f.finaliseTerminal services false []

def usageFact (context : CompletionContext) (facts : Mapping) : UsageFact where
  organisationId := context.organisationId
  projectId := context.projectId
  missionId := context.missionId
  executionId := context.executionId
  attemptId := context.attemptId
  backendId := context.backendId
  harnessId := context.harnessId
  facts := facts

def usageFromResult (result : BackendFacts) (context : CompletionContext) : List UsageFact :=
  let facts := if result.usage = ∅ then
      .ofList [("wall_clock_seconds", .int 0), ("input_tokens", .int 0), ("output_tokens", .int 0)]
    else result.usage
  [usageFact context facts]

-- How the outcome of a verification ends the record when it is not verified.
def unverified (result : VerificationResult) :
    String × CompletionLifecycleState × CompletionFailureClass :=
  match result.outcome with
  | .pendingHumanApproval =>
      ("verification.blocked", .blocked, result.failureClass.getD .verificationInconclusive)
  | .blocked => ("verification.blocked", .blocked, result.failureClass.getD .restoreFailed)
  | .inconclusive => ("verification.inconclusive", .blocked, .verificationInconclusive)
  | .verificationError =>
      ("verification.failed",
        if result.failureClass = some .verificationTimeout then .timedOut else .failed,
        result.failureClass.getD .verificationError)
  | _ => ("verification.failed", .failed, result.failureClass.getD .verificationFailed)

def verificationRequest (evidence : EvidenceBoundary) (context : CompletionContext)
    (backendOk restoreOk : Bool) : VerificationRequest where
  missionId := context.missionId
  executionId := context.executionId
  attemptId := context.attemptId
  strategy := context.verificationStrategy
  requiredEvidenceTypes := context.requiredEvidenceTypes
  policy := context.verificationPolicy
  acceptedEvidence := evidence.listAccepted context.executionId
  backendOk
  restoreOk

def Flight.startVerification (f : Flight) (context : CompletionContext) : Flight :=
  let f := f.become .verificationPending
  let f := f.emit "verification.requested" [("strategy", .str context.verificationStrategy)]
  let f := f.become .verifying
  f.emit "verification.started" []

def Flight.runVerification (f : Flight) (context : CompletionContext) (result : BackendFacts) :
    Ended :=
  let f := f.startVerification context
  let request := verificationRequest f.now.evidence context (result.ok && f.record.backendOk)
    f.record.restoreOk
  let verify := request.verify
  let f := f.reach (.verified request verify) f.now
  let f := f.modify fun record => { record with verification := some verify }
  if verify.outcome = .verified then
    let f := f.emitResult "verification.passed" verify
    let f := f.modify fun record =>
      { record with state := .verified, detail := some verify.detail }
    f.finaliseTerminal services true (usageFromResult result context)
  else
    let (eventType, state, failureClass) := unverified verify
    let f := f.emitResult eventType verify
    let f := f.fail state failureClass.value verify.detail
    f.finaliseTerminal services false (usageFromResult result context)

def restoreOk (result : BackendFacts) : Bool :=
  result.failureClass != some "provider_restore_failure" &&
    result.restoreStatus ∉ [some "failed", some "unresolved", some "blocked"] &&
    result.output.lookup "restored" != some (.bool false)

-- The evidence that a result carries when no candidates are given. The ids are
-- fresh ones.
def candidatesFromResult (result : BackendFacts) (fresh : Nat → String) : List CandidateEvidence :=
  let provenance := Mapping.ofList [("execution_id", .str result.executionId)]
  let refs := result.evidenceRefs.zipIdx.map fun (ref, index) =>
    { evidenceType := "structured_result"
      contentRef := some ref
      sequence := index + 1
      provenance
      payload := .ofList [("ref", .str ref)]
      evidenceId := fresh index : CandidateEvidence }
  let output := if result.ok then
      [{ evidenceType := "backend_output"
         sequence := refs.length + 1
         provenance
         payload := .ofList
           [("message", .str result.message), ("backend_id", .str result.backendId),
             ("harness_id", .str result.harnessId)]
         sizeBytes := result.message.length
         evidenceId := fresh refs.length : CandidateEvidence }]
    else []
  let verification := if result.candidateVerification = ∅ then result.verification
    else result.candidateVerification
  let observed := if verification = ∅ then [] else
    [{ evidenceType := "remote_verification"
       sequence := (refs ++ output).length + 1
       provenance
       payload := verification
       evidenceId := fresh (refs ++ output).length : CandidateEvidence }]
  refs ++ output ++ observed

-- One event for each envelope, the accepted ones first.
def Flight.emitEvidence (f : Flight) (intake : EvidenceBoundary.Intake) : Flight :=
  let f := intake.accepted.foldl (fun f item =>
    (f.modify fun record =>
      { record with evidenceIds := record.evidenceIds ++ [item.evidenceId] }).emit
        "evidence.accepted" [("evidence_id", .str item.evidenceId)]) f
  intake.rejected.foldl (fun f item =>
    f.emit "evidence.rejected"
      [("evidence_id", .str item.evidenceId),
        ("reason", .ofOption (item.rejectionReason.map (·.value)))]) f

-- The intake of the evidence, with what was accepted.
def Flight.takeEvidence (f : Flight) (context : CompletionContext)
    (candidates : List CandidateEvidence) : Flight × List EvidenceEnvelope :=
  let f := f.become .evidencePending
  let f := f.emit "evidence.received" []
  let intake := f.now.evidence.intake services.digests context f.record.state
    context.backendId context.harnessId candidates
  let f := f.reach .evidenceTaken { f.now with evidence := intake.boundary }
  (f.emitEvidence intake, intake.accepted)

def Flight.completeWithEvidence (f : Flight) (result : BackendFacts) (context : CompletionContext)
    (candidates : List CandidateEvidence) : Ended :=
  let (f, accepted) := f.takeEvidence services context candidates
  if context.requireEvidence ∧ accepted = [] then
    let f := f.fail .failed CompletionFailureClass.evidenceMissing.value
      "required evidence missing or rejected"
    let f := f.emit "execution.failed" [("reason", .str "evidence_missing")]
    f.finaliseTerminal services false (usageFromResult result context)
  else (f.become .evidenceAccepted).runVerification services context result

def completeFromBackend (o : Orchestrator) (result : BackendFacts) (context : CompletionContext)
    (candidates : List CandidateEvidence) (fresh : Nat → String) : Ended :=
  let finished := (o.live.lookup context.executionId).filter fun existing =>
    existing.isTerminal && existing.terminalEmitted
  match finished with
  | some existing => { outcome := some existing.outcome, now := o }
  | none =>
      if context.attemptId ≠ context.authoritativeAttemptId then
        rejectStale o context .staleAttempt "stale attempt cannot finalise"
      else if ¬ restoreOk result then
        let f := ensureRecord o [] context false false true
        let f := f.fail .blocked CompletionFailureClass.restoreFailed.value
          "provider route restoration unresolved"
        let f := f.emit "execution.blocked" [("reason", .str "restore_failed")]
        f.finaliseTerminal services false (usageFromResult result context)
      else
        let f := ensureRecord o [] context result.ok true true
        let f := f.become .backendCompleted
        let f := f.emitAs (.backendCompleted context) "backend.completed"
          (.items (.ofList [("ok", .bool result.ok), ("message", .str result.message)])) false
        if context.cancelled then finaliseCancelled services f.now f.trace context true
        else if ¬ result.ok then
          let f := f.fail .failed ((result.failureClass.filter (· ≠ "")).getD "process_failure")
            result.message
          let f := f.emit "execution.failed" [("backend_ok", .bool false)]
          f.finaliseTerminal services false (usageFromResult result context)
        else
          let candidates := if candidates = [] then candidatesFromResult result fresh
            else candidates
          f.completeWithEvidence services result context candidates

-- dict(value or {}): anything but a dict raises.
def asMapping (value : Value) : Option Mapping :=
  if ¬ value.truthy then some ∅ else
    match value with
    | .dict items => some (.ofList items)
    | _ => none

def orText (value : Value) (default : String) : String :=
  if value.truthy then value.text else default

-- The remote verifier's context for an event that carries a verification, and
-- for one whose own context asks for no evidence.
def remoteContext (context : CompletionContext) (eventType : String) (payload : Mapping) :
    CompletionContext :=
  let remote (types : List String) : CompletionContext :=
    { context with
      requireEvidence := true
      verificationStrategy := "remote_verifier_event"
      requiredEvidenceTypes := types }
  if eventType = "verification.completed" ∨ (payload.get "verification").truthy then
    remote (if context.requiredEvidenceTypes = [] then ["remote_verification"]
      else context.requiredEvidenceTypes)
  else if context.requireEvidence ∨ context.verificationStrategy = "remote_verifier_event" then
    context
  else remote ["remote_verification"]

-- The candidate made of a verification in the payload, when none was given.
def remoteCandidates (context : CompletionContext) (payload : Mapping)
    (candidates : List CandidateEvidence) (fresh : Nat → String) :
    Option (List CandidateEvidence) :=
  let verification := payload.get "verification"
  if candidates = [] ∧ verification.truthy then do
    let sequence ← if (payload.get "sequence").truthy then
        (services.conversions.int (payload.get "sequence")).toOption else some 1
    let payload ← asMapping verification
    return [{
      evidenceType := "remote_verification"
      sequence
      provenance := .ofList
        [("execution_id", .str context.executionId), ("attempt_id", .str context.attemptId),
          ("mission_id", .str context.missionId),
          ("organisation_id", .ofOption context.organisationId),
          ("project_id", .ofOption context.projectId)]
      payload
      evidenceId := fresh 0 }]
  else some candidates

def remoteSuccess (context : CompletionContext) (payload : Mapping) : BackendFacts where
  ok := true
  executionId := context.executionId
  backendId := context.backendId
  harnessId := (context.harnessId.filter (· ≠ "")).getD "unknown"
  message := "remote backend reported success"
  output := payload

def remoteFailed (o : Orchestrator) (context : CompletionContext) (payload : Mapping) : Ended :=
  let f := ensureRecord o [] context false true true
  let f := f.fail .failed (orText (payload.get "failure_class") "process_failure")
    (orText (payload.get "detail") "remote execution failed")
  let f := f.emit "backend.completed" [("ok", .bool false), ("remote", .bool true)]
  match asMapping (payload.get "usage") with
  | none => { outcome := none, now := f.now, trace := f.trace }
  | some facts => f.finaliseTerminal services false [usageFact context facts]

def remoteProgress (o : Orchestrator) (context : CompletionContext) (eventType : String)
    (payload : Mapping) : Ended :=
  let f := ensureRecord o [] context false true true
  let f := f.become .running
  let f := f.emitAs .saved eventType (.items payload) false
  let f := f.reach .saved (f.now.save f.record)
  { outcome := some
      { ok := false
        state := f.record.state
        executionId := context.executionId
        missionId := context.missionId
        attemptId := context.attemptId
        detail := "progress event recorded"
        events := f.record.events }
    now := f.now
    trace := f.trace }

def completeFromRemoteEvent (o : Orchestrator) (context : CompletionContext) (eventType : String)
    (payload : Mapping) (candidates : List CandidateEvidence) (fresh : Nat → String) : Ended :=
  let finished := (o.live.lookup context.executionId).filter fun existing =>
    existing.isTerminal && existing.terminalEmitted
  match finished with
  | some existing =>
      if eventType ∈ ["task.succeeded", "task.failed", "execution.completed"] then
        (Flight.emitAs { now := o, record := existing } .saved "execution.late_event_ignored"
          (.items (.ofList [("event_type", .str eventType)])) true).ended
      else { outcome := some existing.outcome, now := o }
  | none =>
      if context.attemptId ≠ context.authoritativeAttemptId then
        rejectStale o context .supersededAttempt "superseded remote attempt rejected"
      else if eventType ∈ ["task.cancelled", "execution.cancelled"] then
        finaliseCancelled services o [] context true
      else if eventType ∈ ["task.failed", "execution.failed"] then
        remoteFailed services o context payload
      else if eventType ∉ ["task.succeeded", "execution.completed", "verification.completed"] then
        remoteProgress o context eventType payload
      else
        let remote := remoteContext context eventType payload
        match remoteCandidates services remote payload candidates fresh with
        | none => { outcome := none, now := o }
        | some candidates =>
            completeFromBackend services o (remoteSuccess context payload) remote candidates fresh

def resumedContext (record : CompletionRecord) : CompletionContext where
  organisationId := record.organisationId
  projectId := record.projectId
  missionId := record.missionId
  executionId := record.executionId
  attemptId := record.attemptId
  authoritativeAttemptId := record.authoritativeAttemptId
  backendId := record.backendId
  harnessId := record.harnessId

def resumedResult (record : CompletionRecord) : BackendFacts where
  ok := record.backendOk
  executionId := record.executionId
  backendId := record.backendId
  harnessId := (record.harnessId.filter (· ≠ "")).getD "unknown"
  message := "resumed completion"

-- The states whose verification is run again from the accepted evidence.
def reverifiedStates : List CompletionLifecycleState :=
  [.backendCompleted, .evidencePending, .evidenceAccepted, .verificationPending, .verifying]

-- The context that the record was completed with is not saved: what the record
-- says nothing about has its default.
def resume (o : Orchestrator) (executionId : String) : Ended :=
  match o.live.lookup executionId with
  | none => { outcome := none, now := o }
  | some record =>
      let f : Flight := { now := o, record }
      if record.isTerminal then f.ended
      else if record.state ∈ reverifiedStates then
        f.runVerification services (resumedContext record) (resumedResult record)
      else if record.state = .finalising then f.finaliseTerminal services false []
      else f.ended

end Calls

inductive Call where
  | backend (result : BackendFacts) (context : CompletionContext)
      (candidates : List CandidateEvidence) (fresh : Nat → String)
  | remote (context : CompletionContext) (eventType : String) (payload : Mapping)
      (candidates : List CandidateEvidence) (fresh : Nat → String)
  | cancelled (context : CompletionContext) (cleanupCompleted : Bool)
  | resume (executionId : String)

def Call.run (services : Services) (o : Orchestrator) : Call → Ended
  | backend result context candidates fresh =>
      completeFromBackend services o result context candidates fresh
  | remote context eventType payload candidates fresh =>
      completeFromRemoteEvent services o context eventType payload candidates fresh
  | cancelled context cleanupCompleted => finaliseCancelled services o [] context cleanupCompleted
  | resume executionId => Completion.resume services o executionId

-- A call that runs to its end, or a process that stops after some of its
-- effects and is started again.
structure Turn where
  call : Call
  stoppedAfter : Option Nat := none

-- The effects of a turn. It has to come to the one that it stops after.
def Turn.play (services : Services) (o : Orchestrator) (turn : Turn) :
    Option (List Entry × Orchestrator) :=
  let ended := turn.call.run services o
  match turn.stoppedAfter with
  | none => some (ended.trace, ended.now)
  | some count =>
      if count ≤ ended.trace.length then
        let trace := ended.trace.take count
        some (trace, ((trace.getLast?.map (·.after)).getD o).restart)
      else none

def turned (services : Services) (o : Orchestrator) (turn : Turn) : Option Orchestrator :=
  (turn.play services o).map (·.2)

end JoyMesh.Completion
