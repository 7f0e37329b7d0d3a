import JoyMesh.Routing.Fallback

namespace JoyMesh.Completion

inductive CompletionLifecycleState where
  | queued
  | routing
  | preparing
  | running
  | backendCompleted
  | evidencePending
  | evidenceAccepted
  | verificationPending
  | verifying
  | verified
  | finalising
  | completed
  | failed
  | blocked
  | cancelled
  | timedOut
deriving DecidableEq, Repr

def CompletionLifecycleState.value : CompletionLifecycleState → String
  | queued => "queued"
  | routing => "routing"
  | preparing => "preparing"
  | running => "running"
  | backendCompleted => "backend_completed"
  | evidencePending => "evidence_pending"
  | evidenceAccepted => "evidence_accepted"
  | verificationPending => "verification_pending"
  | verifying => "verifying"
  | verified => "verified"
  | finalising => "finalising"
  | completed => "completed"
  | failed => "failed"
  | blocked => "blocked"
  | cancelled => "cancelled"
  | timedOut => "timed_out"

def terminalCompletionStates : List CompletionLifecycleState :=
  [.completed, .failed, .blocked, .cancelled, .timedOut]

def resumableCompletionStates : List CompletionLifecycleState :=
  [.backendCompleted, .evidencePending, .evidenceAccepted, .verificationPending, .verifying,
    .finalising]

inductive EvidenceTrustClassification where
  | untrustedBackendOutput
  | declared
  | accepted
  | verified
  | rejected
deriving DecidableEq, Repr

inductive EvidenceRejectionReason where
  | identityMismatch
  | wrongTenant
  | wrongProject
  | wrongMission
  | wrongExecution
  | wrongAttempt
  | invalidSequence
  | duplicateConflicting
  | unsupportedType
  | oversized
  | invalidContentHash
  | missingProvenance
  | staleAttempt
  | lateAfterTerminal
  | cancelledExecution
deriving DecidableEq, Repr

def EvidenceRejectionReason.value : EvidenceRejectionReason → String
  | identityMismatch => "identity_mismatch"
  | wrongTenant => "wrong_tenant"
  | wrongProject => "wrong_project"
  | wrongMission => "wrong_mission"
  | wrongExecution => "wrong_execution"
  | wrongAttempt => "wrong_attempt"
  | invalidSequence => "invalid_sequence"
  | duplicateConflicting => "duplicate_conflicting"
  | unsupportedType => "unsupported_evidence_type"
  | oversized => "oversized_evidence"
  | invalidContentHash => "invalid_content_hash"
  | missingProvenance => "missing_provenance"
  | staleAttempt => "stale_attempt"
  | lateAfterTerminal => "late_evidence_after_terminal_state"
  | cancelledExecution => "cancelled_execution"

inductive VerificationOutcome where
  | verified
  | failed
  | inconclusive
  | blocked
  | cancelled
  | verificationError
  | pendingHumanApproval
deriving DecidableEq, Repr

inductive CompletionFailureClass where
  | evidenceRejected
  | evidenceMissing
  | verificationFailed
  | verificationInconclusive
  | verificationTimeout
  | verificationError
  | staleAttempt
  | supersededAttempt
  | lateEvent
  | usageFinalisationFailed
  | missionProjectionFailed
  | restoreFailed
  | cleanupFailed
  | leaseLost
deriving DecidableEq, Repr

def CompletionFailureClass.value : CompletionFailureClass → String
  | evidenceRejected => "evidence_rejected"
  | evidenceMissing => "evidence_missing"
  | verificationFailed => "verification_failed"
  | verificationInconclusive => "verification_inconclusive"
  | verificationTimeout => "verification_timeout"
  | verificationError => "verification_error"
  | staleAttempt => "stale_attempt"
  | supersededAttempt => "superseded_attempt"
  | lateEvent => "late_event"
  | usageFinalisationFailed => "usage_finalisation_failed"
  | missionProjectionFailed => "mission_projection_failed"
  | restoreFailed => "restore_failed"
  | cleanupFailed => "cleanup_failed"
  | leaseLost => "lease_lost"

-- A terminal state is never resumed.
example : ∀ state ∈ resumableCompletionStates, state ∉ terminalCompletionStates := by decide

structure CandidateEvidence where
  evidenceType : String
  contentRef : Option String := none
  contentHash : Option String := none
  sizeBytes : Int := 0
  sequence : Int := 0
  provenance : Mapping := ∅
  payload : Mapping := ∅
  evidenceId : String
deriving DecidableEq

structure EvidenceEnvelope where
  evidenceId : String
  executionId : String
  attemptId : String
  missionId : String
  projectId : Option String
  organisationId : Option String
  evidenceType : String
  sourceBackend : String
  sourceHarness : Option String
  contentRef : Option String
  contentHash : String
  sizeBytes : Int
  sequence : Int
  trust : EvidenceTrustClassification
  provenance : Mapping
  payload : Mapping
  rejectionReason : Option EvidenceRejectionReason
deriving DecidableEq

-- What the service reads of a verification policy, without the child policy.
structure VerificationPolicy where
  cancelled : Bool := false
  requireHumanApproval : Bool := false
  forceTimeout : Bool := false
  forceError : Bool := false
  requiredArtifacts : List String := []
  expectedHash : String := ""
  requiredKeys : List String := []
  strategies : List String := []
deriving DecidableEq, Repr

-- A policy is followed by its child policy, the child of that one and so on.
-- The empty list is the empty policy.
structure VerificationRequest where
  missionId : String
  executionId : String
  attemptId : String
  strategy : String := "backend_success_with_evidence"
  requiredEvidenceTypes : List String := []
  policy : List VerificationPolicy := []
  acceptedEvidence : List EvidenceEnvelope := []
  backendOk : Bool := false
  restoreOk : Bool := true
deriving DecidableEq

-- The checks of a composite are the results of its children.
structure VerificationResult where
  outcome : VerificationOutcome
  strategy : String
  detail : String
  failureClass : Option CompletionFailureClass := none
  checks : Mapping := ∅
  children : List (String × VerificationResult) := []

structure UsageFact where
  organisationId : Option String
  projectId : Option String
  missionId : String
  executionId : String
  attemptId : String
  backendId : String
  harnessId : Option String
  facts : Mapping := ∅
deriving DecidableEq

structure UsageAggregate where
  executionId : String
  organisationId : Option String
  projectId : Option String
  missionId : String
  wallClockSeconds : String
  inputTokens : Int
  outputTokens : Int
  attempts : List UsageFact
deriving DecidableEq

structure CompletionContext where
  organisationId : Option String
  projectId : Option String
  missionId : String
  executionId : String
  attemptId : String
  authoritativeAttemptId : String
  backendId : String
  harnessId : Option String
  cancelled : Bool := false
  requireEvidence : Bool := false
  verificationStrategy : String := "backend_success_with_evidence"
  requiredEvidenceTypes : List String := []
  maxEvidenceBytes : Int := 2000000
  -- The entry "verification_policy" of the metadata.
  verificationPolicy : List VerificationPolicy := []
deriving DecidableEq

-- The verification of a payload is kept as it is, the others are mappings.
inductive EventPayload where
  | items (payload : Mapping)
  | verification (result : VerificationResult)

def EventPayload.sameItems : EventPayload → EventPayload → Bool
  | .items a, .items b => a = b
  | _, _ => false

structure CompletionEvent where
  eventType : String
  attemptId : String
  sequence : Nat
  payload : EventPayload

structure CompletionRecord where
  executionId : String
  missionId : String
  state : CompletionLifecycleState
  attemptId : String
  authoritativeAttemptId : String
  backendId : String
  harnessId : Option String := none
  organisationId : Option String := none
  projectId : Option String := none
  backendOk : Bool := false
  restoreOk : Bool := true
  evidenceIds : List String := []
  verification : Option VerificationResult := none
  usageFinalised : Bool := false
  usageAggregate : Option UsageAggregate := none
  events : List CompletionEvent := []
  failureClass : Option String := none
  detail : Option String := none
  sequence : Nat := 0
  terminalEmitted : Bool := false

structure CompletionOutcome where
  ok : Bool
  state : CompletionLifecycleState
  executionId : String
  missionId : String
  attemptId : String
  detail : String
  failureClass : Option String := none
  verification : Option VerificationResult := none
  evidenceIds : List String := []
  usage : Option UsageAggregate := none
  events : List CompletionEvent := []

-- What completion reads of an ExecutionResult.
structure BackendFacts where
  ok : Bool
  executionId : String
  backendId : String
  harnessId : String
  message : String
  output : Mapping := ∅
  failureClass : Option String := none
  usage : Mapping := ∅
  evidenceRefs : List String := []
  candidateVerification : Mapping := ∅
  verification : Mapping := ∅
  restoreStatus : Option String := none
deriving DecidableEq

namespace CompletionRecord

def isTerminal (record : CompletionRecord) : Bool :=
  record.state ∈ terminalCompletionStates

def outcome (record : CompletionRecord) : CompletionOutcome where
  ok := record.state = .completed
  state := record.state
  executionId := record.executionId
  missionId := record.missionId
  attemptId := record.attemptId
  detail := (record.detail.filter (· ≠ "")).getD record.state.value
  failureClass := record.failureClass
  verification := record.verification
  evidenceIds := record.evidenceIds
  usage := record.usageAggregate
  events := record.events

end CompletionRecord

end JoyMesh.Completion
