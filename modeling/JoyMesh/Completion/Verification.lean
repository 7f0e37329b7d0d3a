import Mathlib.Data.List.Sort
import JoyMesh.Completion.Models

namespace JoyMesh.Completion

namespace VerificationRequest

variable (request : VerificationRequest)

def missingEvidence : List String :=
  request.requiredEvidenceTypes.filter fun type =>
    !request.acceptedEvidence.any (·.evidenceType = type)

-- The service's default strategy, under whatever name the request has for it.
def backendSuccessWithEvidence : VerificationResult :=
  if ¬ request.backendOk then
    { outcome := .failed
      strategy := request.strategy
      detail := "backend did not succeed"
      failureClass := some .verificationFailed
      checks := .ofList [("backend_ok", .bool false)] }
  else if request.missingEvidence ≠ [] then
    { outcome := .failed
      strategy := request.strategy
      detail := "missing required evidence: " ++ ", ".intercalate request.missingEvidence
      failureClass := some .evidenceMissing
      checks := .ofList [("missing", .list (request.missingEvidence.map .str))] }
  else
    { outcome := .verified
      strategy := request.strategy
      detail := "backend success with required evidence"
      checks := .ofList
        [("backend_ok", .bool true), ("evidence_count", .int request.acceptedEvidence.length)] }

def artifactOf (evidence : EvidenceEnvelope) : String :=
  let artifact := evidence.payload.get "artifact"
  if artifact.truthy then artifact.text
  else (evidence.contentRef.filter (· ≠ "")).getD evidence.evidenceType

def artifactExistence (policy : VerificationPolicy) : VerificationResult :=
  let required := if policy.requiredArtifacts = [] then request.requiredEvidenceTypes
    else policy.requiredArtifacts
  let present := (request.acceptedEvidence.map artifactOf).dedup
  let missing := required.filter (· ∉ present)
  if missing ≠ [] then
    { outcome := .failed
      strategy := "artifact_existence"
      detail := "missing artifacts: " ++ ", ".intercalate missing
      failureClass := some .evidenceMissing
      checks := .ofList [("missing", .list (missing.map .str))] }
  else
    { outcome := .verified
      strategy := "artifact_existence"
      detail := "required artifacts present"
      checks := .ofList [("artifacts", .list ((present.insertionSort (· ≤ ·)).map .str))] }

-- The first test evidence decides.
def testCommand : VerificationResult :=
  match request.acceptedEvidence.find? (·.evidenceType ∈ ["test_summary", "test_command"]) with
  | some evidence =>
      let passed := (evidence.payload.lookup "passed").getD (evidence.payload.get "ok")
      if passed.truthy then
        { outcome := .verified
          strategy := "test_command"
          detail := "tests passed"
          checks := evidence.payload }
      else
        { outcome := .failed
          strategy := "test_command"
          detail := "tests failed"
          failureClass := some .verificationFailed
          checks := evidence.payload }
  | none =>
      { outcome := .failed
        strategy := "test_command"
        detail := "no test evidence"
        failureClass := some .evidenceMissing }

def contentHashMatch (policy : VerificationPolicy) : VerificationResult :=
  if policy.expectedHash = "" then
    { outcome := .inconclusive
      strategy := "content_hash_match"
      detail := "expected_hash not configured"
      failureClass := some .verificationInconclusive }
  else if request.acceptedEvidence.any (·.contentHash = policy.expectedHash) then
    { outcome := .verified
      strategy := "content_hash_match"
      detail := "content hash matched"
      checks := .ofList [("hash", .str policy.expectedHash)] }
  else
    { outcome := .failed
      strategy := "content_hash_match"
      detail := "content hash mismatch"
      failureClass := some .verificationFailed }

-- The first structured result decides.
def schemaValidation (policy : VerificationPolicy) : VerificationResult :=
  match request.acceptedEvidence.find? (·.evidenceType = "structured_result") with
  | some evidence =>
      let missing := policy.requiredKeys.filter (· ∉ evidence.payload)
      if missing ≠ [] then
        { outcome := .failed
          strategy := "schema_validation"
          detail := "schema missing keys: " ++ ", ".intercalate missing
          failureClass := some .verificationFailed }
      else
        { outcome := .verified
          strategy := "schema_validation"
          detail := "schema valid" }
  | none =>
      { outcome := .failed
        strategy := "schema_validation"
        detail := "no structured_result evidence"
        failureClass := some .evidenceMissing }

def remoteAccepted (evidence : EvidenceEnvelope) : Bool :=
  evidence.payload.get "outcome" = .str "verified" ∨ evidence.payload.get "passed" = .bool true

def remoteRejected (evidence : EvidenceEnvelope) : Bool :=
  evidence.payload.get "outcome" = .str "failed" ∨ evidence.payload.get "passed" = .bool false

-- The first remote observation that is decided decides. Without one the
-- required evidence types are asked for, unless there are none.
def remoteVerifier : VerificationResult :=
  match request.acceptedEvidence.find? fun evidence =>
      evidence.evidenceType ∈ ["remote_verification", "verification"] &&
        (remoteAccepted evidence || remoteRejected evidence) with
  | some evidence =>
      if remoteAccepted evidence then
        { outcome := .verified
          strategy := "remote_verifier_event"
          detail := "remote verifier accepted"
          checks := evidence.payload }
      else
        { outcome := .failed
          strategy := "remote_verifier_event"
          detail := "remote verifier rejected"
          failureClass := some .verificationFailed
          checks := evidence.payload }
  | none =>
      if request.backendOk ∧ request.requiredEvidenceTypes = [] then
        { outcome := .failed
          strategy := "remote_verifier_event"
          detail := "remote completion without verification evidence"
          failureClass := some .evidenceMissing }
      else request.backendSuccessWithEvidence

-- The children in order, up to the first that is not verified.
def compositeLoop (verifyChild : VerificationRequest → VerificationResult) :
    List String → List (String × VerificationResult) → VerificationResult
  | [], children =>
      { outcome := .verified
        strategy := "composite"
        detail := "all composite strategies verified"
        children }
  | strategy :: strategies, children =>
      let result := verifyChild { request with strategy }
      let children := children ++ [(strategy, result)]
      if result.outcome ≠ .verified then
        { outcome := result.outcome
          strategy := "composite"
          detail := "composite failed at " ++ strategy ++ ": " ++ result.detail
          failureClass := result.failureClass
          children }
      else compositeLoop verifyChild strategies children

def composite (verifyChild : VerificationRequest → VerificationResult)
    (policy : VerificationPolicy) : VerificationResult :=
  let strategies := if policy.strategies = [] then ["backend_success_with_evidence"]
    else policy.strategies
  request.compositeLoop verifyChild strategies []

-- One level of the service: the policy's flags, then the strategy. Only a
-- composite asks the level below.
def verifyWith (verifyChild : VerificationRequest → VerificationResult)
    (policy : VerificationPolicy) : VerificationResult :=
  if policy.cancelled then
    { outcome := .cancelled
      strategy := request.strategy
      detail := "verification cancelled" }
  else if ¬ request.restoreOk then
    { outcome := .blocked
      strategy := request.strategy
      detail := "provider route restoration unresolved"
      failureClass := some .restoreFailed
      checks := .ofList [("restore_ok", .bool false)] }
  else if policy.requireHumanApproval then
    { outcome := .pendingHumanApproval
      strategy := request.strategy
      detail := "human approval required"
      failureClass := some .verificationInconclusive }
  else if policy.forceTimeout then
    { outcome := .verificationError
      strategy := request.strategy
      detail := "verification timed out"
      failureClass := some .verificationTimeout }
  else if policy.forceError then
    { outcome := .verificationError
      strategy := request.strategy
      detail := "verification infrastructure error"
      failureClass := some .verificationError }
  else if request.strategy = "always_pass" then
    { outcome := .verified
      strategy := request.strategy
      detail := "strategy always_pass"
      checks := .ofList [("backend_ok", .bool request.backendOk)] }
  else if request.strategy = "artifact_existence" then request.artifactExistence policy
  else if request.strategy = "test_command" then request.testCommand
  else if request.strategy = "content_hash_match" then request.contentHashMatch policy
  else if request.strategy = "schema_validation" then request.schemaValidation policy
  else if request.strategy = "composite" then request.composite verifyChild policy
  else if request.strategy = "remote_verifier_event" then request.remoteVerifier
  else request.backendSuccessWithEvidence

-- The child of an empty policy is empty again. A composite there has the
-- default strategy for its only child, which asks no further level.
def verifyPolicies : List VerificationPolicy → VerificationRequest → VerificationResult
  | [], request =>
      request.verifyWith (fun child => child.verifyWith backendSuccessWithEvidence {}) {}
  | policy :: policies, request => request.verifyWith (verifyPolicies policies) policy

-- VerificationService.verify.
def verify : VerificationResult := verifyPolicies request.policy request

variable {request : VerificationRequest}

theorem backendSuccessWithEvidence_verified_iff :
    request.backendSuccessWithEvidence.outcome = .verified ↔
      request.backendOk = true ∧ request.missingEvidence = [] := by
  unfold backendSuccessWithEvidence
  by_cases hbackend : request.backendOk = true
  · by_cases hmissing : request.missingEvidence = []
    · simp [hbackend, hmissing]
    · simp [hbackend, hmissing]
  · simp [hbackend]

-- A verdict needs a restored route, whatever the strategy.
theorem restoreOk_of_verifyWith {verifyChild : VerificationRequest → VerificationResult}
    {policy : VerificationPolicy}
    (h : (request.verifyWith verifyChild policy).outcome = .verified) :
    request.restoreOk = true := by
  by_contra hrestore
  by_cases hcancelled : policy.cancelled = true
  · simp [verifyWith, hcancelled] at h
  · simp [verifyWith, hcancelled, hrestore] at h

theorem restoreOk_of_verified (h : request.verify.outcome = .verified) :
    request.restoreOk = true := by
  unfold verify at h
  cases hpolicy : request.policy with
  | nil =>
      rw [hpolicy] at h
      exact restoreOk_of_verifyWith h
  | cons policy policies =>
      rw [hpolicy] at h
      exact restoreOk_of_verifyWith h

end VerificationRequest

namespace VerificationRequest

variable (request : VerificationRequest)

-- Neither the restoration nor a flag of the policy answers before the strategy.
def reachesStrategy : Bool :=
  let policy := request.policy.head?.getD {}
  request.restoreOk && !policy.cancelled && !policy.requireHumanApproval && !policy.forceTimeout &&
    !policy.forceError

def isRemote (evidence : EvidenceEnvelope) : Bool :=
  evidence.evidenceType ∈ ["remote_verification", "verification"]

-- Some accepted evidence of the remote verifier says that it verified.
def RemotelyVerified : Prop :=
  ∃ evidence ∈ request.acceptedEvidence, isRemote evidence = true ∧ remoteAccepted evidence = true

-- The strategy comes to the one that only counts evidence types: no remote
-- evidence is decided, and every type that is asked for is there.
structure FallsThrough : Prop where
  reaches : request.reachesStrategy = true
  undecided : ∀ evidence ∈ request.acceptedEvidence, isRemote evidence = true →
    remoteAccepted evidence = false ∧ remoteRejected evidence = false
  backendOk : request.backendOk = true
  required : request.requiredEvidenceTypes ≠ []
  present : request.missingEvidence = []

variable {request : VerificationRequest}

theorem verifyWith_remote {verifyChild : VerificationRequest → VerificationResult}
    {policy : VerificationPolicy} (hstrategy : request.strategy = "remote_verifier_event") :
    (request.verifyWith verifyChild policy).outcome = .verified ↔
      (request.restoreOk && !policy.cancelled && !policy.requireHumanApproval &&
        !policy.forceTimeout && !policy.forceError) = true ∧
      request.remoteVerifier.outcome = .verified := by
  unfold verifyWith
  cases policy.cancelled <;> cases request.restoreOk <;> cases policy.requireHumanApproval <;>
    cases policy.forceTimeout <;> cases policy.forceError <;> simp [hstrategy]

theorem verify_remote (hstrategy : request.strategy = "remote_verifier_event") :
    request.verify.outcome = .verified ↔
      request.reachesStrategy = true ∧ request.remoteVerifier.outcome = .verified := by
  unfold verify reachesStrategy
  cases request.policy with
  | nil => exact verifyWith_remote hstrategy
  | cons policy policies => exact verifyWith_remote hstrategy

theorem remoteVerifier_verified_iff :
    request.remoteVerifier.outcome = .verified ↔
      match request.acceptedEvidence.find? fun evidence =>
          isRemote evidence && (remoteAccepted evidence || remoteRejected evidence) with
      | some evidence => remoteAccepted evidence = true
      | none => request.backendOk = true ∧ request.requiredEvidenceTypes ≠ [] ∧
          request.missingEvidence = [] := by
  unfold remoteVerifier
  change (match request.acceptedEvidence.find? fun evidence =>
    isRemote evidence && (remoteAccepted evidence || remoteRejected evidence) with
    | some evidence => _
    | none => _ : VerificationResult).outcome = _ ↔ _
  cases request.acceptedEvidence.find? fun evidence =>
      isRemote evidence && (remoteAccepted evidence || remoteRejected evidence) with
  | some evidence => cases haccepted : remoteAccepted evidence <;> simp [haccepted]
  | none =>
      dsimp only
      by_cases hbackend : request.backendOk = true
      · by_cases hrequired : request.requiredEvidenceTypes = []
        · simp [hbackend, hrequired]
        · simp [hbackend, hrequired, backendSuccessWithEvidence_verified_iff]
      · simp [hbackend, backendSuccessWithEvidence_verified_iff]

-- The remote strategy verifies on a remote verdict alone, except where it falls
-- through to the count of evidence types.
theorem remote_verified_iff (hstrategy : request.strategy = "remote_verifier_event") :
    (request.verify.outcome = .verified → request.RemotelyVerified) ↔ ¬ request.FallsThrough := by
  rw [verify_remote hstrategy, remoteVerifier_verified_iff]
  cases hfound : request.acceptedEvidence.find? fun evidence =>
      isRemote evidence && (remoteAccepted evidence || remoteRejected evidence) with
  | some evidence =>
      have hmem := List.mem_of_find?_eq_some hfound
      have hdecision := List.find?_some hfound
      obtain ⟨hremote, hdecided⟩ : isRemote evidence = true ∧
          (remoteAccepted evidence = true ∨ remoteRejected evidence = true) := by
        simpa using hdecision
      constructor
      · intro _ hfalls
        obtain ⟨haccepted, hrejected⟩ := hfalls.undecided evidence hmem hremote
        simp [haccepted, hrejected] at hdecided
      · rintro _ ⟨-, haccepted⟩
        exact ⟨evidence, hmem, hremote, haccepted⟩
  | none =>
      have hundecided : ∀ evidence ∈ request.acceptedEvidence, isRemote evidence = true →
          remoteAccepted evidence = false ∧ remoteRejected evidence = false := by
        intro evidence hmem hremote
        have := List.find?_eq_none.mp hfound evidence hmem
        simpa [hremote] using this
      have hno : ¬ request.RemotelyVerified := by
        rintro ⟨evidence, hmem, hremote, haccepted⟩
        rw [(hundecided evidence hmem hremote).1] at haccepted
        cases haccepted
      constructor
      · intro h hfalls
        exact hno (h ⟨hfalls.reaches, hfalls.backendOk, hfalls.required, hfalls.present⟩)
      · rintro hfalls ⟨hreaches, hbackend, hrequired, hpresent⟩
        exact absurd ⟨hreaches, hundecided, hbackend, hrequired, hpresent⟩ hfalls

end VerificationRequest

section Sample

def pendingEvidence : EvidenceEnvelope where
  evidenceId := "evidence"
  executionId := "e"
  attemptId := "a"
  missionId := "m"
  projectId := none
  organisationId := none
  evidenceType := "remote_verification"
  sourceBackend := "joymesh"
  sourceHarness := none
  contentRef := none
  contentHash := "hash"
  sizeBytes := 0
  sequence := 1
  trust := .accepted
  provenance := ∅
  payload := .ofList [("outcome", .str "pending")]
  rejectionReason := none

-- The request of a remote success whose verifier has not decided yet.
def pendingRequest : VerificationRequest where
  missionId := "m"
  executionId := "e"
  attemptId := "a"
  strategy := "remote_verifier_event"
  requiredEvidenceTypes := ["remote_verification"]
  acceptedEvidence := [pendingEvidence]
  backendOk := true

end Sample

namespace VerificationRequest

-- Without a type that is asked for, the same evidence verifies nothing.
theorem pending_not_verified :
    pendingRequest.strategy = "remote_verifier_event" ∧
      ({ pendingRequest with requiredEvidenceTypes := [] }.verify.outcome = .verified →
        { pendingRequest with requiredEvidenceTypes := [] }.RemotelyVerified) :=
  ⟨rfl, (remote_verified_iff rfl).mpr fun hfalls => hfalls.required rfl⟩

theorem pending_verified : ¬ ∀ request : VerificationRequest,
    request.strategy = "remote_verifier_event" → request.verify.outcome = .verified →
      request.RemotelyVerified := by
  intro h
  obtain ⟨evidence, hmem, -, haccepted⟩ := h pendingRequest rfl (by decide +kernel)
  obtain rfl := List.mem_singleton.mp hmem
  revert haccepted
  decide +kernel

end VerificationRequest

end JoyMesh.Completion
