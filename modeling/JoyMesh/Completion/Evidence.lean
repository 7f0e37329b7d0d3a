import Mathlib
import JoyMesh.Completion.Models
import JoyMesh.Library.Table

namespace JoyMesh.Completion

open Library

section Redaction

variable (redactSecrets : String → String)

mutual

-- Texts in nested dicts are redacted too, but none in a list.
def redactValue : Value → Value
  | .str text => .str (redactSecrets text)
  | .dict items => .dict (redactItems items)
  | value => value

def redactItems : List (String × Value) → List (String × Value)
  | [] => []
  | (key, value) :: items => (key, redactValue value) :: redactItems items

end

def redactPayload (payload : Mapping) : Mapping :=
  payload.liftOn (fun table => (Table.mapValues (redactValue redactSecrets) table).toFinmap) (by
    intro first second h
    exact AList.toFinmap_eq.mpr (h.map _))

end Redaction

-- The parts of the environment that the boundary calls: the digest of a payload
-- and the redaction of a text.
structure Digests where
  hashPayload : Mapping → String
  redactSecrets : String → String

structure EvidenceBoundary where
  byExecution : String → List EvidenceEnvelope := fun _ => []
  fingerprints : String → List String := fun _ => []

namespace EvidenceBoundary

variable (digests : Digests) (boundary : EvidenceBoundary) (context : CompletionContext)

def listAccepted (executionId : String) : List EvidenceEnvelope :=
  (boundary.byExecution executionId).filter (·.trust = .accepted)

-- The first check on the candidate itself that fails.
def intakeReason (lifecycleState : CompletionLifecycleState) (candidate : CandidateEvidence) :
    Option EvidenceRejectionReason :=
  if context.cancelled ∨ lifecycleState = .cancelled then some .cancelledExecution
  else if lifecycleState ∈ terminalCompletionStates then some .lateAfterTerminal
  else if context.attemptId ≠ context.authoritativeAttemptId then some .staleAttempt
  else if context.maxEvidenceBytes < candidate.sizeBytes then some .oversized
  else if candidate.evidenceType = "" ∨ candidate.evidenceType = "unknown" then
    some .unsupportedType
  else if candidate.provenance = ∅ ∧ (candidate.contentHash.filter (· ≠ "")) = none ∧
      candidate.payload = ∅ then some .missingProvenance
  else none

-- The identities that the provenance claims. A later mismatch replaces the
-- reason that an earlier check gave.
def claimedReason (candidate : CandidateEvidence) (reason : Option EvidenceRejectionReason) :
    Option EvidenceRejectionReason :=
  let differs (key expected : String) : Bool :=
    let claimed := candidate.provenance.get key
    claimed.truthy && claimed != .str expected
  let check (key : String) (expected : Option String) (mismatch : EvidenceRejectionReason)
      (reason : Option EvidenceRejectionReason) : Option EvidenceRejectionReason :=
    if (expected.filter (· ≠ "")).any (differs key) then some mismatch else reason
  let reason := check "organisation_id" context.organisationId .wrongTenant reason
  let reason := check "project_id" context.projectId .wrongProject reason
  let reason := if differs "mission_id" context.missionId then some .wrongMission else reason
  let reason := if differs "execution_id" context.executionId then some .wrongExecution else reason
  if differs "attempt_id" context.attemptId then some .wrongAttempt else reason

-- The checks against the envelopes that are already stored, rejected ones
-- included in the first.
def storedReason (candidate : CandidateEvidence) (contentHash : String) :
    Option EvidenceRejectionReason :=
  let stored := boundary.byExecution context.executionId
  if stored.any fun item => item.sequence = candidate.sequence ∧
      item.evidenceType = candidate.evidenceType ∧ item.contentHash ≠ "" ∧ contentHash ≠ "" ∧
      item.contentHash ≠ contentHash then some .duplicateConflicting
  else if (stored.filter (·.trust = .accepted)).any (candidate.sequence < ·.sequence) then
    some .invalidSequence
  else none

-- The accepted envelope that a candidate without a reason against it repeats.
def identical (reason : Option EvidenceRejectionReason) (candidate : CandidateEvidence)
    (contentHash fingerprint : String) : Option EvidenceEnvelope :=
  if reason = none ∧ fingerprint ∈ boundary.fingerprints context.executionId then
    (boundary.byExecution context.executionId).find? fun item =>
      item.contentHash = contentHash && item.evidenceType = candidate.evidenceType &&
        item.sequence = candidate.sequence && item.trust = .accepted
  else none

-- The envelope of a candidate, whether it is accepted, and the boundary with
-- what is newly stored. An accepted duplicate is given back as it was stored.
def acceptOne (lifecycleState : CompletionLifecycleState) (sourceBackend : String)
    (sourceHarness : Option String) (candidate : CandidateEvidence) :
    EvidenceEnvelope × Bool × EvidenceBoundary :=
  let executionId := context.executionId
  let reason := claimedReason context candidate (intakeReason context lifecycleState candidate)
  let contentHash := (candidate.contentHash.filter (· ≠ "")).getD
    (digests.hashPayload candidate.payload)
  let fingerprint := candidate.evidenceType ++ ":" ++ contentHash ++ ":" ++ toString candidate.sequence
  match boundary.identical context reason candidate contentHash fingerprint with
  | some item => (item, true, boundary)
  | none =>
      let reason := reason.or (boundary.storedReason context candidate contentHash)
      let envelope : EvidenceEnvelope :=
        { evidenceId := candidate.evidenceId
          executionId := executionId
          attemptId := context.attemptId
          missionId := context.missionId
          projectId := context.projectId
          organisationId := context.organisationId
          evidenceType := candidate.evidenceType
          sourceBackend
          sourceHarness
          contentRef := candidate.contentRef
          contentHash
          sizeBytes := candidate.sizeBytes
          sequence := candidate.sequence
          trust := if reason = none then .accepted else .rejected
          provenance := candidate.provenance
          payload := redactPayload digests.redactSecrets candidate.payload
          rejectionReason := reason }
      (envelope, reason = none,
        { byExecution := Function.update boundary.byExecution executionId
            (boundary.byExecution executionId ++ [envelope])
          fingerprints := if reason = none then
              Function.update boundary.fingerprints executionId
                (fingerprint :: boundary.fingerprints executionId)
            else boundary.fingerprints })

structure Intake where
  accepted : List EvidenceEnvelope := []
  rejected : List EvidenceEnvelope := []
  boundary : EvidenceBoundary

def Intake.take (lifecycleState : CompletionLifecycleState) (sourceBackend : String)
    (sourceHarness : Option String) (intake : Intake) (candidate : CandidateEvidence) : Intake :=
  let (envelope, ok, boundary) := intake.boundary.acceptOne digests context lifecycleState
    sourceBackend sourceHarness candidate
  if ok then { intake with accepted := intake.accepted ++ [envelope], boundary }
  else { intake with rejected := intake.rejected ++ [envelope], boundary }

def intake (lifecycleState : CompletionLifecycleState) (sourceBackend : String)
    (sourceHarness : Option String) (candidates : List CandidateEvidence) : Intake :=
  candidates.foldl (Intake.take digests context lifecycleState sourceBackend sourceHarness)
    { boundary }

end EvidenceBoundary

-- Python's int() and float() where they read a text or round, and the sum of
-- floats. A refusal is the name of the exception's type.
structure Conversions where
  intOfText : String → Except String Int
  intOfFloat : String → Except String Int
  floatOfText : String → Except String String
  floatOfInt : Int → Except String String
  sum : List String → String

namespace Conversions

variable (conversions : Conversions)

-- int(value or 0)
def int (value : Value) : Except String Int :=
  if ¬ value.truthy then .ok 0 else
    match value with
    | .int n => .ok n
    | .bool b => .ok (if b then 1 else 0)
    | .float text => conversions.intOfFloat text
    | .str text => conversions.intOfText text
    | _ => .error "TypeError"

-- float(value or 0)
def float (value : Value) : Except String String :=
  if ¬ value.truthy then .ok "0.0" else
    match value with
    | .int n => conversions.floatOfInt n
    | .bool b => .ok (if b then "1.0" else "0.0")
    | .float text => .ok text
    | .str text => conversions.floatOfText text
    | _ => .error "TypeError"

end Conversions

-- Python's dict() of a value that is not a dict.
structure Readings extends Conversions where
  dict : Value → Except String Mapping

namespace Readings

variable (readings : Readings)

-- dict(value or {})
def mapping (value : Value) : Except String Mapping :=
  if ¬ value.truthy then .ok ∅ else
    match value with
    | .dict items => .ok (.ofList items)
    | value => readings.dict value

def textOr (value : Value) (default : String) : String :=
  if value.truthy then value.text else default

end Readings

-- Readings that know whole numbers and dicts.
def sampleReadings : Readings where
  intOfText _ := .error "ValueError"
  intOfFloat _ := .error "ValueError"
  floatOfText _ := .error "ValueError"
  floatOfInt n := .ok (toString n ++ ".0")
  sum _ := "0.0"
  dict _ := .error "ValueError"

-- An execution is finalised when it has an aggregate.
structure UsageFinaliser where
  attemptUsage : List (String × UsageFact) := []
  executionAggregate : Table String UsageAggregate := ∅

namespace UsageFinaliser

variable (conversions : Conversions) (usage : UsageFinaliser)

def attemptKey (executionId attemptId : String) : String := executionId ++ ":" ++ attemptId

-- Only the first fact of an attempt counts.
def recordAttempt (fact : UsageFact) : Except String UsageFinaliser :=
  let key := attemptKey fact.executionId fact.attemptId
  if usage.attemptUsage.any (·.1 = key) then .ok usage else
    let foreign : Bool := (usage.executionAggregate.lookup fact.executionId).any fun aggregate =>
      match aggregate.organisationId.filter (· ≠ ""), fact.organisationId.filter (· ≠ "") with
      | some known, some claimed => known != claimed
      | _, _ => false
    if foreign then .error "PermissionError" else
      .ok { usage with attemptUsage := usage.attemptUsage ++ [(key, fact)] }

-- The facts up to the first that is refused.
def recordAttempts : List UsageFact → UsageFinaliser → Option String × UsageFinaliser
  | [], usage => (none, usage)
  | fact :: facts, usage =>
      match usage.recordAttempt fact with
      | .error type => (some type, usage)
      | .ok usage => recordAttempts facts usage

-- Every attempt whose key begins with the execution id and a colon.
def attemptsOf (executionId : String) : List UsageFact :=
  (usage.attemptUsage.filter fun row => (attemptKey executionId "").toList <+: row.1.toList).map
    (·.2)

def sums (attempts : List UsageFact) : Except String (String × Int × Int) := do
  let wall ← attempts.mapM fun fact => conversions.float (fact.facts.get "wall_clock_seconds")
  let tokensIn ← attempts.mapM fun fact => conversions.int (fact.facts.get "input_tokens")
  let tokensOut ← attempts.mapM fun fact => conversions.int (fact.facts.get "output_tokens")
  return (conversions.sum wall, tokensIn.sum, tokensOut.sum)

-- The attempts stay recorded when their sums cannot be formed.
def finalise (executionId : String) (organisationId projectId : Option String) (missionId : String)
    (attemptFacts : List UsageFact) : Except String UsageAggregate × UsageFinaliser :=
  match usage.executionAggregate.lookup executionId with
  | some aggregate => (.ok aggregate, usage)
  | none =>
      match recordAttempts attemptFacts usage with
      | (some type, usage) => (.error type, usage)
      | (none, usage) =>
          let attempts := usage.attemptsOf executionId
          match sums conversions attempts with
          | .error type => (.error type, usage)
          | .ok (wallClockSeconds, inputTokens, outputTokens) =>
              let aggregate : UsageAggregate :=
                { executionId, organisationId, projectId, missionId, wallClockSeconds
                  inputTokens, outputTokens, attempts }
              (.ok aggregate, { usage with
                executionAggregate := usage.executionAggregate.insert executionId aggregate })

end UsageFinaliser

end JoyMesh.Completion
