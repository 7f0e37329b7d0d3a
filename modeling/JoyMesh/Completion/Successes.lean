import JoyMesh.Completion.Branches

namespace JoyMesh.Completion

open Library

theorem unverified_ne_completed (verify : VerificationResult) :
    (unverified verify).2.1 ≠ .completed := by
  unfold unverified
  cases verify.outcome <;> simp
  split <;> simp

section Completed

variable {services : Services} {o : Orchestrator} {context : CompletionContext}
  {result : BackendFacts} {outcome : CompletionOutcome} {f : Flight} {success : Bool}

namespace Flight

@[simp] theorem emitAs_failureClass (effect : Effect) (eventType : String) (payload : EventPayload)
    (force : Bool) :
    (f.emitAs effect eventType payload force).record.failureClass = f.record.failureClass := by
  obtain ⟨_, _, h⟩ := f.emitAs_record effect eventType payload force
  rw [h]

theorem startFinalising_failureClass :
    (f.startFinalising success).record.failureClass = f.record.failureClass := by
  unfold startFinalising
  cases success <;> simp [emit]

-- Only a blocked record gets a failure class from the usage.
theorem finaliseUsage_kept (services : Services) (usageFacts : List UsageFact) (success : Bool) :
    let (g, ok) := f.finaliseUsage services usageFacts success
    (ok = success ∧ g.record.state = f.record.state ∧
      g.record.failureClass = f.record.failureClass) ∨ (ok = false ∧ g.record.state = .blocked) := by
  unfold finaliseUsage
  dsimp only
  rcases f.now.usage.finalise services.conversions f.record.executionId f.record.organisationId
    f.record.projectId f.record.missionId usageFacts with ⟨_ | aggregate, usage⟩
  · exact .inr ⟨rfl, by simp [emit]⟩
  · exact .inl ⟨rfl, by simp [emit], by simp [emit]⟩

theorem conclude_kept : (f.conclude success).record.failureClass = f.record.failureClass ∧
    ((f.conclude success).record.state = .completed →
      success = true ∨ f.record.state = .completed) := by
  unfold conclude
  cases success with
  | true => exact ⟨by simp [emit], fun _ => .inl rfl⟩
  | false =>
      by_cases hstate : f.record.state = .finalising
      · simp [hstate]
      · simp [hstate]

theorem projectResult_kept (services : Services) :
    ((f.projectResult services).record.state = f.record.state ∧
      (f.projectResult services).record.failureClass = f.record.failureClass) ∨
      (f.projectResult services).record.state = .blocked := by
  unfold projectResult
  dsimp only
  split
  · exact .inl ⟨rfl, rfl⟩
  · exact .inr (by simp [emit])

-- A call that ends in a completion was a success, and its failure class is the
-- one that it came with.
theorem finaliseTerminal_completed (hunfinished : f.record.terminalEmitted = false)
    (hstate : f.record.state ≠ .completed) {usageFacts : List UsageFact}
    (h : (f.finaliseTerminal services success usageFacts).outcome = some outcome)
    (hcompleted : outcome.state = .completed) :
    success = true ∧ outcome.failureClass = f.record.failureClass := by
  unfold finaliseTerminal at h
  rw [if_neg (by simp [hunfinished])] at h
  have hused := (f.startFinalising success).finaliseUsage_kept services usageFacts success
  have hbegan : (f.startFinalising success).record.state ≠ .completed := by
    rw [startFinalising_state]
    split
    · simp
    · split <;> simp [hstate]
  rw [startFinalising_failureClass] at hused
  generalize (f.startFinalising success).finaliseUsage services usageFacts success = used at h hused
  obtain ⟨g, ok⟩ := used
  obtain rfl := Option.some.inj h
  have hprojected := (g.conclude ok).projectResult_kept services
  obtain ⟨hkept, hconcluded⟩ : (g.conclude ok).record.failureClass = g.record.failureClass ∧
    ((g.conclude ok).record.state = .completed → ok = true ∨ g.record.state = .completed) :=
    conclude_kept
  have hlast : ((g.conclude ok).projectResult services).record.state = .completed := hcompleted
  change success = true ∧ ((g.conclude ok).projectResult services).record.failureClass = _
  rcases hprojected with ⟨hsame, hclass⟩ | hblocked
  · rcases hused with ⟨rfl, hgstate, hgclass⟩ | ⟨rfl, hgblocked⟩
    · refine ⟨?_, hclass.trans (hkept.trans hgclass)⟩
      rcases hconcluded (hsame.symm.trans hlast) with hok | hgcompleted
      · exact hok
      · exact absurd (hgstate.symm.trans hgcompleted) hbegan
    · rcases hconcluded (hsame.symm.trans hlast) with hok | hgcompleted
      · cases hok
      · cases hgblocked.symm.trans hgcompleted
  · cases hblocked.symm.trans hlast

theorem startVerification_kept (context : CompletionContext) :
    (f.startVerification context).record.failureClass = f.record.failureClass ∧
      (f.startVerification context).record.terminalEmitted = f.record.terminalEmitted := by
  simp [startVerification, emit]

theorem runVerification_completed (hunfinished : f.record.terminalEmitted = false)
    (h : (f.runVerification services context result).outcome = some outcome)
    (hcompleted : outcome.state = .completed) : outcome.failureClass = f.record.failureClass := by
  obtain ⟨hclass, hemitted⟩ := f.startVerification_kept context
  unfold runVerification at h
  dsimp only at h
  generalize VerificationRequest.verify _ = verify at h
  split at h
  · obtain ⟨-, hlast⟩ := finaliseTerminal_completed (by simp [emitResult, hemitted, hunfinished])
      (by simp) h hcompleted
    simpa [emitResult, hclass] using hlast
  · obtain ⟨hsuccess, -⟩ := finaliseTerminal_completed
      (by simp [emitResult, hemitted, hunfinished]) (unverified_ne_completed verify) h hcompleted
    cases hsuccess

theorem emitEvidence_kept (intake : EvidenceBoundary.Intake) :
    (f.emitEvidence intake).record.failureClass = f.record.failureClass ∧
      (f.emitEvidence intake).record.terminalEmitted = f.record.terminalEmitted := by
  unfold emitEvidence
  let Kept (g : Flight) : Prop := g.record.failureClass = f.record.failureClass ∧
    g.record.terminalEmitted = f.record.terminalEmitted
  have haccepted : Kept (intake.accepted.foldl (fun f item =>
      (f.modify fun record =>
        { record with evidenceIds := record.evidenceIds ++ [item.evidenceId] }).emit
          "evidence.accepted" [("evidence_id", .str item.evidenceId)]) f) := by
    refine List.foldlRecOn intake.accepted _ ⟨rfl, rfl⟩ ?_
    rintro g ⟨hclass, hemitted⟩ item -
    exact ⟨by simpa [emit] using hclass, by simpa [emit] using hemitted⟩
  refine List.foldlRecOn intake.rejected _ haccepted ?_
  rintro g ⟨hclass, hemitted⟩ item -
  exact ⟨by simpa [emit] using hclass, by simpa [emit] using hemitted⟩

theorem takeEvidence_kept (services : Services) (context : CompletionContext)
    (candidates : List CandidateEvidence) :
    (f.takeEvidence services context candidates).1.record.failureClass = f.record.failureClass ∧
      (f.takeEvidence services context candidates).1.record.terminalEmitted =
        f.record.terminalEmitted := by
  unfold takeEvidence
  dsimp only
  generalize EvidenceBoundary.intake _ _ _ _ _ _ _ = intake
  obtain ⟨hclass, hemitted⟩ := emitEvidence_kept (f := (((f.become .evidencePending).emit
    "evidence.received" []).reach .evidenceTaken _)) intake
  exact ⟨by simpa [emit] using hclass, by simpa [emit] using hemitted⟩

theorem completeWithEvidence_completed (hunfinished : f.record.terminalEmitted = false)
    {candidates : List CandidateEvidence}
    (h : (f.completeWithEvidence services result context candidates).outcome = some outcome)
    (hcompleted : outcome.state = .completed) : outcome.failureClass = f.record.failureClass := by
  obtain ⟨hclass, hemitted⟩ := f.takeEvidence_kept services context candidates
  unfold completeWithEvidence at h
  dsimp only at h
  split at h
  · obtain ⟨hsuccess, -⟩ := finaliseTerminal_completed
      (by simp [emit, hemitted, hunfinished]) (by simp [emit]) h hcompleted
    cases hsuccess
  · rw [← hclass]
    exact runVerification_completed (by simpa using hemitted.trans hunfinished) h hcompleted

end Flight

-- A success that is completed at once has no failure class.
theorem completeFromBackend_completed (hnew : o.live.lookup context.executionId = none)
    (hattempt : context.attemptId = context.authoritativeAttemptId)
    (hrestored : restoreOk result = true) (hgoing : context.cancelled = false)
    (hok : result.ok = true) {candidates : List CandidateEvidence} {fresh : Nat → String}
    (h : (completeFromBackend services o result context candidates fresh).outcome = some outcome)
    (hcompleted : outcome.state = .completed) : outcome.failureClass = none := by
  unfold completeFromBackend at h
  simp only [hnew, hattempt, hrestored, hgoing, hok, ensureRecord, Option.filter_none, ne_eq,
    not_true_eq_false, if_false, Bool.false_eq_true] at h
  have hlast := Flight.completeWithEvidence_completed ?_ h hcompleted
  · simpa using hlast
  · simp

end Completed

-- The completion has seen nothing of the execution yet.
structure Orchestrator.Untouched (o : Orchestrator) (executionId : String) : Prop where
  live : o.live.lookup executionId = none
  evidence : o.evidence.byExecution executionId = []
  aggregate : o.usage.executionAggregate.lookup executionId = none
  attempts : o.usage.attemptsOf executionId = []

section Single

variable {o : Orchestrator} {context : CompletionContext}

-- The first candidate of an execution has only itself against it.
theorem EvidenceBoundary.intake_single {boundary : EvidenceBoundary} (digests : Digests)
    (h : boundary.byExecution context.executionId = []) (state : CompletionLifecycleState)
    (sourceBackend : String) (sourceHarness : Option String) (candidate : CandidateEvidence) :
    let reason := claimedReason context candidate (intakeReason context state candidate)
    let taken := boundary.intake digests context state sourceBackend sourceHarness [candidate]
    (reason ≠ none → taken.accepted = []) ∧
      (reason = none → ∃ envelope, taken.accepted = [envelope] ∧
        taken.boundary.listAccepted context.executionId = [envelope] ∧
        envelope.evidenceType = candidate.evidenceType ∧
        envelope.payload = redactPayload digests.redactSecrets candidate.payload) := by
  have hidentical (reason : Option EvidenceRejectionReason) (contentHash fingerprint : String) :
      boundary.identical context reason candidate contentHash fingerprint = none := by
    simp [identical, h]
  have hstored (contentHash : String) : boundary.storedReason context candidate contentHash = none := by
    simp [storedReason, h]
  simp only [intake, List.foldl_cons, List.foldl_nil, Intake.take, acceptOne, hidentical, hstored,
    Option.or_none]
  constructor
  · intro hreason
    simp [hreason]
  · intro hreason
    simp [hreason, listAccepted, h]

-- An attempt whose use is all zeros can be added up.
theorem Orchestrator.Untouched.readable (h : o.Untouched context.executionId) (conversions : Conversions)
    {result : BackendFacts} (husage : result.usage = ∅) :
    o.usage.fails conversions context.executionId (usageFromResult result context) = false := by
  let fact := usageFact context
    (.ofList [("wall_clock_seconds", .int 0), ("input_tokens", .int 0), ("output_tokens", .int 0)])
  have hfacts : usageFromResult result context = [fact] := by simp [usageFromResult, husage, fact]
  have hzero : UsageFinaliser.sums conversions [fact] = .ok (conversions.sum ["0.0"], 0, 0) := by
    rfl
  have hnone : UsageFinaliser.sums conversions [] = .ok (conversions.sum [], 0, 0) := rfl
  have hattempts (key : String) : ({ o.usage with
      attemptUsage := o.usage.attemptUsage ++ [(key, fact)] } : UsageFinaliser).attemptsOf
        context.executionId ∈ [[], [fact]] := by
    have h := h.attempts
    unfold UsageFinaliser.attemptsOf at h ⊢
    rw [List.filter_append, List.map_append, h]
    cases hkey : decide ((UsageFinaliser.attemptKey context.executionId "").toList <+: key.toList) <;>
      simp [hkey]
  rw [hfacts, UsageFinaliser.fails, UsageFinaliser.finalise, h.aggregate]
  by_cases hknown : o.usage.attemptUsage.any (·.1 =
      UsageFinaliser.attemptKey fact.executionId fact.attemptId) = true
  · simp [UsageFinaliser.recordAttempts, UsageFinaliser.recordAttempt, hknown, h.attempts, hnone]
  · have haggregate : o.usage.executionAggregate.lookup fact.executionId = none := h.aggregate
    simp only [UsageFinaliser.recordAttempts, UsageFinaliser.recordAttempt, hknown, haggregate]
    rcases List.mem_pair.mp (hattempts (UsageFinaliser.attemptKey fact.executionId fact.attemptId))
      with hlist | hlist
    · simp [hlist, hnone]
    · simp [hlist, hzero]

end Single

namespace VerificationRequest

-- What is observed says that the verification failed and does not say that it passed.
def Refuted (payload : Mapping) : Prop :=
  (payload.get "outcome" = .str "failed" ∨ payload.get "passed" = .bool false) ∧
    ¬ (payload.get "outcome" = .str "verified" ∨ payload.get "passed" = .bool true)

instance : DecidablePred Refuted := fun _ => inferInstanceAs (Decidable (_ ∧ ¬ _))

-- A single remote observation verifies the execution unless it refutes it.
theorem verified_iff_not_refuted {request : VerificationRequest} {envelope : EvidenceEnvelope}
    (hstrategy : request.strategy = "remote_verifier_event") (hpolicy : request.policy = [])
    (hrestore : request.restoreOk = true) (hbackend : request.backendOk = true)
    (htypes : request.requiredEvidenceTypes = ["remote_verification"])
    (haccepted : request.acceptedEvidence = [envelope])
    (htype : envelope.evidenceType = "remote_verification") :
    request.verify.outcome = .verified ↔ ¬ Refuted envelope.payload := by
  have hreaches : request.reachesStrategy = true := by simp [reachesStrategy, hpolicy, hrestore]
  have hmissing : request.missingEvidence = [] := by
    simp [missingEvidence, htypes, haccepted, htype]
  have hremote : isRemote envelope = true := by simp [isRemote, htype]
  have hrefuted : Refuted envelope.payload ↔
      remoteRejected envelope = true ∧ remoteAccepted envelope = false := by
    simp [Refuted, remoteRejected, remoteAccepted]
  rw [verify_remote hstrategy, remoteVerifier_verified_iff, haccepted, hrefuted]
  cases hpassed : remoteAccepted envelope with
  | true => simp [hreaches, hremote, hpassed]
  | false =>
      cases hfailed : remoteRejected envelope with
      | true => simp [hremote, hpassed, hfailed]
      | false => simp [hreaches, hremote, hpassed, hfailed, hbackend, htypes, hmissing]

end VerificationRequest

-- The context of the remote verifier, for an attempt that counts.
structure CompletionContext.Remote (context : CompletionContext) : Prop where
  attempt : context.attemptId = context.authoritativeAttemptId
  going : context.cancelled = false
  evidence : context.requireEvidence = true
  strategy : context.verificationStrategy = "remote_verifier_event"
  types : context.requiredEvidenceTypes = ["remote_verification"]
  policy : context.verificationPolicy = []

section Remote

variable {services : Services} {o : Orchestrator} {context : CompletionContext}
  {candidate : CandidateEvidence} {payload : Mapping}

theorem CompletionContext.Remote.remoteContext_eq (h : context.Remote) (eventType : String)
    (payload : Mapping) : remoteContext context eventType payload = context := by
  obtain ⟨-, -, hevidence, hstrategy, htypes, -⟩ := h
  unfold remoteContext
  dsimp only
  split
  · rw [if_neg (by simp [htypes]), ← hevidence, ← hstrategy]
  · simp [hevidence]

-- The first event of an execution is a remote success with one observation.
theorem remoteBranch_ending (services : Services) (payload : Mapping) (hcontext : context.Remote) (huntouched : o.Untouched context.executionId)
    (htype : candidate.evidenceType = "remote_verification") (fresh : Nat → String) :
    ∃ branch usageFacts,
      remoteBranch services o context "task.succeeded" payload [candidate] fresh = some branch ∧
      branch.usageFacts = some usageFacts ∧
      o.usage.fails services.conversions context.executionId usageFacts = false ∧
      (branch.ending false false = .completed ↔
        payload.lookup "restored" ≠ some (.bool false) ∧
        EvidenceBoundary.claimedReason context candidate
          (EvidenceBoundary.intakeReason context .evidencePending candidate) = none ∧
        ¬ VerificationRequest.Refuted
          (redactPayload services.digests.redactSecrets candidate.payload)) := by
  have husage : o.usage.fails services.conversions context.executionId
      (usageFromResult (remoteSuccess context payload) context) = false :=
    huntouched.readable services.conversions rfl
  have hrestored : restoreOk (remoteSuccess context payload) = true ↔
      payload.lookup "restored" ≠ some (.bool false) := by
    simp [restoreOk, remoteSuccess]
  have hcandidates : remoteCandidates services context payload [candidate] fresh =
      some [candidate] := by simp [remoteCandidates]
  have hbranch : remoteBranch services o context "task.succeeded" payload [candidate] fresh =
      backendBranch services o (remoteSuccess context payload) context [candidate] fresh := by
    simp [remoteBranch, hcontext.attempt, hcontext.remoteContext_eq, hcandidates]
  rw [hbranch, backendBranch, if_neg (not_not.mpr hcontext.attempt)]
  by_cases hroute : restoreOk (remoteSuccess context payload) = true
  · rw [if_neg (not_not.mpr hroute), if_neg (by simp [hcontext.going]),
      if_neg (by simp [remoteSuccess]), if_neg (List.cons_ne_nil _ _)]
    obtain ⟨hrejected, haccepted⟩ := EvidenceBoundary.intake_single services.digests
      huntouched.evidence .evidencePending context.backendId context.harnessId candidate
    unfold evidenceBranch
    dsimp only
    generalize o.evidence.intake services.digests context .evidencePending context.backendId
      context.harnessId [candidate] = taken at hrejected haccepted ⊢
    by_cases hreason : EvidenceBoundary.claimedReason context candidate
        (EvidenceBoundary.intakeReason context .evidencePending candidate) = none
    · obtain ⟨envelope, htaken, hlisted, hkind, hpayload⟩ := haccepted hreason
      have hverdict : (verificationRequest taken.boundary context true true).verify.outcome =
          .verified ↔ ¬ VerificationRequest.Refuted envelope.payload :=
        VerificationRequest.verified_iff_not_refuted hcontext.strategy hcontext.policy rfl rfl
          hcontext.types hlisted (hkind.trans htype)
      rw [if_neg (by simp [htaken]), verificationBranch, ← hpayload]
      by_cases hverified : (verificationRequest taken.boundary context true true).verify.outcome =
          .verified
      · rw [if_pos hverified]
        exact ⟨_, _, rfl, rfl, husage, by
          simp [Branch.ending, hrestored.mp hroute, hreason, hverdict.mp hverified]⟩
      · rw [if_neg hverified]
        exact ⟨_, _, rfl, rfl, husage, by
          simp [Branch.ending, unverified_ne_completed, not_not.mp (mt hverdict.mpr hverified)]⟩
    · rw [if_pos ⟨hcontext.evidence, hrejected hreason⟩]
      exact ⟨_, _, rfl, rfl, husage, by simp [Branch.ending, hreason]⟩
  · rw [if_pos hroute]
    exact ⟨_, _, rfl, rfl, husage, by simp [Branch.ending, not_not.mp (mt hrestored.mpr hroute)]⟩

-- With a projector that raises nothing, the execution is completed exactly then.
theorem remoteSuccess_completed (candidate : CandidateEvidence) (payload : Mapping)
    (hcontext : context.Remote)
    (huntouched : o.Untouched context.executionId)
    (htype : candidate.evidenceType = "remote_verification")
    (hprojector : ∀ record, services.projectionError record = none) (fresh : Nat → String) :
    ∃ outcome, (completeFromRemoteEvent services o context "task.succeeded" payload [candidate]
        fresh).outcome = some outcome ∧
      (outcome.state = .completed → outcome.failureClass = none) ∧
      (outcome.state = .completed ↔
        payload.lookup "restored" ≠ some (.bool false) ∧
        EvidenceBoundary.claimedReason context candidate
          (EvidenceBoundary.intakeReason context .evidencePending candidate) = none ∧
        ¬ VerificationRequest.Refuted
          (redactPayload services.digests.redactSecrets candidate.payload)) := by
  obtain ⟨branch, usageFacts, hbranch, hfacts, husage, hending⟩ :=
    remoteBranch_ending services payload hcontext huntouched htype fresh
  have hopen : o.Open context.executionId := by
    intro record hrecord
    cases huntouched.live.symm.trans hrecord
  have hleaves : Leaves services o context.executionId _ _ :=
    completeFromRemoteEvent_leaves hopen "task.succeeded" payload [candidate] fresh
  rw [hbranch, Leaves, hfacts] at hleaves
  obtain ⟨record, hclosed⟩ := hleaves
  have hprojected (trace : List Entry) : projectionFails services trace = false := by
    rw [projectionFails, List.any_eq_false]
    intro entry _
    cases heffect : entry.effect <;> simp [Effect.failsProjection, hprojector]
  have hstate : record.outcome.state = branch.ending false false := by
    have hrecord := hclosed.state
    rwa [husage, hprojected] at hrecord
  refine ⟨record.outcome, hclosed.outcome, ?_, hstate ▸ hending⟩
  intro hcompleted
  have hrestored : restoreOk (remoteSuccess context payload) = true := by
    simpa [restoreOk, remoteSuccess] using (hending.mp (hstate.symm.trans hcompleted)).1
  have hcandidates : remoteCandidates services context payload [candidate] fresh =
      some [candidate] := by simp [remoteCandidates]
  have hcall : completeFromRemoteEvent services o context "task.succeeded" payload [candidate] fresh =
      completeFromBackend services o (remoteSuccess context payload) context [candidate] fresh := by
    simp [completeFromRemoteEvent, huntouched.live, hcontext.attempt, hcontext.remoteContext_eq,
      hcandidates]
  exact completeFromBackend_completed huntouched.live hcontext.attempt hrestored hcontext.going rfl
    (hcall ▸ hclosed.outcome) hcompleted

end Remote

end JoyMesh.Completion
