import JoyMesh.Completion.Branches
import JoyMesh.Completion.Histories

namespace JoyMesh.Completion

open Library

section Finaliser

variable {own done success : Bool} {history : History} {executionId : String}
  {given : Option CompletionContext} {f : Flight} {services : Services}

namespace Flight

theorem Ready.finaliseUsage (h : f.Ready own history executionId given done)
    (services : Services) (usageFacts : List UsageFact) (success : Bool) :
    (f.finaliseUsage services usageFacts success).1.Ready own history executionId given done ∧
      ((f.finaliseUsage services usageFacts success).2 = true → success = true) := by
  have hread (usage : UsageFinaliser) : (f.reach .usageRead { f.now with usage }).Ready own history
      executionId given done := h.reach _ (fun _ => Effect.noConfusion) rfl rfl
  unfold Flight.finaliseUsage
  dsimp only
  split <;> dsimp only
  · exact ⟨Prepared.emit ((hread _).touch rfl rfl rfl rfl) _ _, id⟩
  · exact ⟨Ready.emit ((hread _).fail (by decide) (by decide) _ _) _ _, fun h => nomatch h⟩

theorem Ready.projectResult (h : f.Ready own history executionId given done) (services : Services) :
    (f.projectResult services).Ready own history executionId given done := by
  have hread : (f.reach (.projected f.record) f.now).Ready own history executionId given done :=
    h.reach _ (fun _ => Effect.noConfusion) rfl rfl
  unfold Flight.projectResult
  dsimp only
  split
  · exact hread
  · exact Ready.emit (hread.fail (by decide) (by decide) _ _) _ _

theorem Ready.startFinalising (h : f.Ready own history executionId given done) (success : Bool) :
    (f.startFinalising success).Ready own history executionId given done := by
  have hfinalising : (f.become .finalising).Ready own history executionId given done :=
    h.become (by decide) (by decide)
  have hsame : (f.become f.record.state).Ready own history executionId given done :=
    h.modify (h.record.congr rfl rfl rfl rfl)
  have hfailed : (f.become .failed).Ready own history executionId given done :=
    h.become (by decide) (by decide)
  unfold Flight.startFinalising
  cases success with
  | true => exact hfinalising.emit _ _
  | false =>
      cases hterminal : f.record.isTerminal with
      | true => simpa [hterminal] using hsame
      | false => simpa [hterminal] using hfailed

-- Only a success that has been verified becomes a completion.
theorem Ready.conclude (h : f.Ready own history executionId given done)
    (hdone : success = true → done = true) :
    (f.conclude success).Ready own history executionId given done := by
  unfold Flight.conclude
  cases success with
  | true =>
      have hcompleted : (f.become .completed).Ready own history executionId given done :=
        h.modify ⟨h.record.keyed, fun _ => h.done (hdone rfl), fun hwaits =>
          absurd (show CompletionLifecycleState.completed ∈ reverifiedStates from hwaits)
            (by decide)⟩
      exact Prepared.emit (hcompleted.touch rfl rfl rfl rfl) _ _
  | false =>
      rw [if_neg (by simp)]
      split
      · exact h.become (by decide) (by decide)
      · exact h

theorem Ready.finaliseTerminal (h : f.Ready own history executionId given done)
    (hdone : success = true → done = true) (services : Services) (usageFacts : List UsageFact) :
    (f.finaliseTerminal services success usageFacts).Backed own history executionId := by
  unfold Flight.finaliseTerminal
  split
  · exact h.ended
  · obtain ⟨hused, hok⟩ := (h.startFinalising success).finaliseUsage services usageFacts success
    have hprojected := (hused.conclude fun h => hdone (hok h)).projectResult services
    exact (Prepared.save (hprojected.touch rfl rfl rfl rfl) .saved plain_saved).ended

theorem Ready.finaliseFailed (h : f.Ready own history executionId given done)
    (services : Services) (usageFacts : List UsageFact) :
    (f.finaliseTerminal services false usageFacts).Backed own history executionId := by
  have hdone : false = true → done = true := fun h => nomatch h
  exact h.finaliseTerminal hdone services usageFacts

end Flight

end Finaliser

-- An outcome that is not verified is no completion, and nothing to wait for.
theorem unverified_plain (result : VerificationResult) :
    (unverified result).2.1 ≠ .completed ∧ (unverified result).2.1 ∉ reverifiedStates := by
  unfold unverified
  cases result.outcome with
  | verificationError => dsimp only; split <;> decide
  | _ => exact ⟨by simp, by simp [reverifiedStates]⟩

section Verification

variable {own done : Bool} {history : History} {executionId : String}
  {given : Option CompletionContext} {f : Flight} {services : Services} {context : CompletionContext}

namespace Flight

-- The verification is asked while the record waits, and the record is saved.
theorem Ready.startVerification (h : f.Ready own history executionId given done)
    (hwaits : f.record.state ∈ reverifiedStates) (context : CompletionContext) :
    (f.startVerification context).Ready own history executionId given done ∧
      (f.startVerification context).record.state = .verifying ∧
      (f.startVerification context).now.saved.lookup executionId =
        some (f.startVerification context).record := by
  have hpending : ((f.become .verificationPending).emit "verification.requested"
      [("strategy", .str context.verificationStrategy)]).Ready own history executionId given done :=
    (h.wait hwaits (by decide)).emit _ _
  have hstate : ((f.become .verificationPending).emit "verification.requested"
      [("strategy", .str context.verificationStrategy)]).record.state = .verificationPending := by
    simp [Flight.emit]
  unfold Flight.startVerification
  dsimp only
  generalize (f.become .verificationPending).emit "verification.requested"
    [("strategy", .str context.verificationStrategy)] = g at hpending hstate ⊢
  have hverifying : (g.become .verifying).Ready own history executionId given done :=
    hpending.wait (by rw [hstate]; decide) (by decide)
  refine ⟨hverifying.emit _ _, by simp [Flight.emit], ?_⟩
  exact emitAs_saved_lookup _ _ _ _ _ (by decide) hverifying.record.keyed

-- A verification that passes as the completion asks is the one that it needs.
theorem Ready.verified (h : f.Ready own history executionId given done)
    (hwaits : f.record.state ∈ reverifiedStates)
    (hsaved : f.now.saved.lookup executionId = some f.record) {request : VerificationRequest}
    (hid : request.executionId = executionId) (hpassed : request.verify.outcome = .verified)
    (hevidence : request.acceptedEvidence = f.now.evidence.listAccepted executionId)
    (hbackend : request.backendOk = true ∧ f.record.backendOk = true)
    (hrestore : request.restoreOk = f.record.restoreOk)
    (hasked : ∀ asked, given = some asked → request.strategy = asked.verificationStrategy ∧
      request.requiredEvidenceTypes = asked.requiredEvidenceTypes) :
    (f.reach (.verified request request.verify) f.now).Ready own history executionId given true := by
  have hreached := h.reach (.verified request request.verify) (fun _ => Effect.noConfusion) rfl rfl
  refine ⟨⟨hreached.toCuts, hreached.record, hreached.given, fun _ => ?_⟩, hreached.live⟩
  obtain ⟨started, hstarted, hattempt, hauthority, hown⟩ := h.record.awaited hwaits
  obtain ⟨hstrategy, htypes⟩ := hasked started.context (by rw [← h.given, hstarted]; rfl)
  have hrestored := VerificationRequest.restoreOk_of_verified hpassed
  subst hid
  rw [reach_trace, History.after_concat]
  refine ⟨{ started with verified := started.verified ++ [⟨request, request.verify, f.now⟩] }, ?_,
    hauthority, _, List.mem_append_right _ (List.mem_singleton_self _), rfl, hpassed, hstrategy,
    htypes, hevidence, hbackend.1, hrestored, f.record, hsaved, hbackend.2, hrestore ▸ hrestored,
    hattempt, hown⟩
  simp [History.note, hstarted]

theorem Ready.runVerification (h : f.Ready own history executionId given done)
    (hwaits : f.record.state ∈ reverifiedStates) (hid : context.executionId = executionId)
    (services : Services) (result : BackendFacts)
    (hasked : (verificationRequest f.now.evidence context (result.ok && f.record.backendOk)
        f.record.restoreOk).verify.outcome = .verified →
      done = true ∨ (result.ok && f.record.backendOk) = true ∧ ∀ asked, given = some asked →
        context.verificationStrategy = asked.verificationStrategy ∧
        context.requiredEvidenceTypes = asked.requiredEvidenceTypes) :
    (f.runVerification services context result).Backed own history executionId := by
  obtain ⟨hstarted, hstate, hsaved⟩ := h.startVerification hwaits context
  have hevidence : (f.startVerification context).now.evidence = f.now.evidence := by
    simp [Flight.startVerification, Flight.emit]
  have hbackend : (f.startVerification context).record.backendOk = f.record.backendOk := by
    simp [Flight.startVerification, Flight.emit]
  have hrestore : (f.startVerification context).record.restoreOk = f.record.restoreOk := by
    simp [Flight.startVerification, Flight.emit]
  unfold Flight.runVerification
  dsimp only
  rw [← hevidence, ← hbackend, ← hrestore] at hasked
  generalize f.startVerification context = g at hstarted hstate hsaved hasked ⊢
  have hobserved (request : VerificationRequest) {done : Bool}
      (hreached : (g.reach (.verified request request.verify) g.now).Ready own history executionId
        given done) (eventType : String) :
      (((g.reach (.verified request request.verify) g.now).modify fun record =>
        { record with verification := some request.verify }).emitResult eventType
          request.verify).Ready own history executionId given done :=
    Prepared.emitAs (hreached.touch rfl rfl rfl rfl) .saved plain_saved _ _ _
  generalize hrequest : verificationRequest g.now.evidence context (result.ok && g.record.backendOk)
    g.record.restoreOk = request at hasked ⊢
  have hreached : (g.reach (.verified request request.verify) g.now).Ready own history executionId
      given done := hstarted.reach _ (fun _ => Effect.noConfusion) rfl rfl
  split
  · rename_i hpassed
    have hdone : (g.reach (.verified request request.verify) g.now).Ready own history executionId
        given true := by
      rcases hasked hpassed with rfl | ⟨hok, hcontext⟩
      · exact hreached
      · have hown : g.record.backendOk = true := (Bool.and_eq_true _ _ ▸ hok).2
        subst hrequest
        exact hstarted.verified (by rw [hstate]; decide) hsaved hid hpassed (by rw [← hid]; rfl)
          ⟨hok, hown⟩ rfl hcontext
    have hemitted := hobserved request hdone "verification.passed"
    refine Ready.finaliseTerminal (hemitted.modify ?_) (fun _ => rfl) services _
    have hplain : CompletionLifecycleState.verified ∉ reverifiedStates := by decide
    exact .of_plain hemitted.record.keyed (fun h => by cases h) hplain
  · have hemitted := hobserved request hreached (unverified request.verify).1
    obtain ⟨hcompleted, hwaiting⟩ := unverified_plain request.verify
    exact Ready.finaliseFailed (hemitted.fail hcompleted hwaiting _ _) services _

-- The events of the intake leave the record waiting.
theorem Ready.emitEvidence (h : f.Ready own history executionId given done)
    (intake : EvidenceBoundary.Intake) :
    (f.emitEvidence intake).Ready own history executionId given done ∧
      (f.emitEvidence intake).record.state = f.record.state ∧
      (f.emitEvidence intake).record.backendOk = f.record.backendOk := by
  let Kept (g : Flight) : Prop := g.Ready own history executionId given done ∧
    g.record.state = f.record.state ∧ g.record.backendOk = f.record.backendOk
  have haccepted (items : List EvidenceEnvelope) : Kept (items.foldl (fun f item =>
      (f.modify fun record =>
        { record with evidenceIds := record.evidenceIds ++ [item.evidenceId] }).emit
          "evidence.accepted" [("evidence_id", .str item.evidenceId)]) f) := by
    refine List.foldlRecOn items _ ⟨h, rfl, rfl⟩ ?_
    rintro g ⟨hg, hstate, hbackend⟩ item -
    refine ⟨Prepared.emit (hg.touch rfl rfl rfl rfl) _ _, ?_, ?_⟩
    · simpa [Flight.emit] using hstate
    · simpa [Flight.emit] using hbackend
  refine List.foldlRecOn intake.rejected _ (haccepted intake.accepted) ?_
  rintro g ⟨hg, hstate, hbackend⟩ item -
  refine ⟨hg.emit _ _, ?_, ?_⟩
  · simpa [Flight.emit] using hstate
  · simpa [Flight.emit] using hbackend

theorem Ready.takeEvidence (h : f.Ready own history executionId given done)
    (hwaits : f.record.state ∈ reverifiedStates) (services : Services) (context : CompletionContext)
    (candidates : List CandidateEvidence) :
    (f.takeEvidence services context candidates).1.Ready own history executionId given done ∧
      (f.takeEvidence services context candidates).1.record.state = .evidencePending ∧
      (f.takeEvidence services context candidates).1.record.backendOk = f.record.backendOk := by
  have hreceived : ((f.become .evidencePending).emit "evidence.received" []).Ready own history
      executionId given done := (h.wait hwaits (by decide)).emit _ _
  have hstate : ((f.become .evidencePending).emit "evidence.received" []).record.state =
      .evidencePending := by simp [Flight.emit]
  have hbackend : ((f.become .evidencePending).emit "evidence.received" []).record.backendOk =
      f.record.backendOk := by simp [Flight.emit]
  unfold Flight.takeEvidence
  dsimp only
  generalize (f.become .evidencePending).emit "evidence.received" [] = g at hreceived hstate hbackend ⊢
  generalize g.now.evidence.intake services.digests context g.record.state context.backendId
    context.harnessId candidates = intake
  have hread : (g.reach .evidenceTaken { g.now with evidence := intake.boundary }).Ready own history
      executionId given done := hreceived.reach _ (fun _ => Effect.noConfusion) rfl rfl
  obtain ⟨hemitted, hstate', hbackend'⟩ := hread.emitEvidence intake
  exact ⟨hemitted, hstate'.trans hstate, hbackend'.trans hbackend⟩

-- A completion that is under way ends backed when its own context is verified.
theorem Ready.completeWithEvidence (h : f.Ready own history executionId (some context) done)
    (hwaits : f.record.state ∈ reverifiedStates) (hid : context.executionId = executionId)
    {result : BackendFacts} (hok : result.ok = true) (hbackend : f.record.backendOk = true)
    (services : Services) (candidates : List CandidateEvidence) :
    (f.completeWithEvidence services result context candidates).Backed own history executionId := by
  obtain ⟨htaken, hstate, hkept⟩ := h.takeEvidence hwaits services context candidates
  unfold Flight.completeWithEvidence
  dsimp only
  generalize f.takeEvidence services context candidates = taken at htaken hstate hkept ⊢
  split
  · have hfailed : (taken.1.fail .failed CompletionFailureClass.evidenceMissing.value
        "required evidence missing or rejected").Ready own history executionId (some context) done :=
      htaken.fail (by decide) (by decide) _ _
    exact (hfailed.emit _ _).finaliseFailed services _
  · have hwaiting : taken.1.record.state ∈ reverifiedStates := by rw [hstate]; decide
    refine Ready.runVerification (htaken.wait hwaiting (by decide)) (by simp [reverifiedStates]) hid
      services result ?_
    intro _
    refine .inr ⟨?_, ?_⟩
    · simp [hok, hkept, hbackend]
    · rintro asked hasked
      obtain rfl := Option.some.inj hasked
      exact ⟨rfl, rfl⟩

end Flight

end Verification

section Calls

variable {own : Bool} {history : History} {executionId : String} {f : Flight} {services : Services}
  {o : Orchestrator} {trace : List Entry} {context : CompletionContext}

-- Every record is backed, as it is in memory and as it was saved.
structure Orchestrator.Backed (own : Bool) (history : History) (o : Orchestrator) : Prop where
  live : ∀ executionId record, o.live.lookup executionId = some record →
    record.Backed own history executionId
  saved : ∀ executionId record, o.saved.lookup executionId = some record →
    record.Backed own history executionId

-- A flight that has come to its record, which may now be one of another attempt
-- than the completion that it waits for.
structure Flight.Opened (own : Bool) (history : History) (executionId : String) (f : Flight) : Prop
    extends Cuts own history executionId f.now f.trace where
  keyed : f.record.executionId = executionId
  completed : f.record.state = .completed → (history.after f.trace).Justified own executionId
  live : f.now.live.lookup executionId = some f.record

theorem Orchestrator.Backed.ended (h : o.Backed own history) (executionId : String)
    (outcome : Option CompletionOutcome) :
    Ended.Backed own history executionId { outcome, now := o } where
  saved := h.saved executionId
  cuts before entry after hsplit := by simp at hsplit
  live := h.live executionId

theorem ensureRecord_opened
    (h : Ended.Backed own history context.executionId { outcome := none, now := o, trace })
    (backendOk restoreOk updateAttempt : Bool) :
    (ensureRecord o trace context backendOk restoreOk updateAttempt).Opened own history
      context.executionId := by
  unfold ensureRecord
  cases hexisting : o.live.lookup context.executionId with
  | some existing =>
      have hbacked := h.live existing hexisting
      have hlive (record : CompletionRecord) (hid : record.executionId = context.executionId) :
          (o.mutate record).live.lookup context.executionId = some record := by
        rw [← hid]
        exact AList.lookup_insert _
      cases updateAttempt with
      | true => exact ⟨⟨h.saved, h.cuts⟩, hbacked.keyed, hbacked.completed, hlive _ hbacked.keyed⟩
      | false => exact ⟨⟨h.saved, h.cuts⟩, hbacked.keyed, hbacked.completed, hlive _ hbacked.keyed⟩
  | none =>
      refine ⟨h.toCuts.save (.of_plain rfl ?_ ?_), rfl, ?_, AList.lookup_insert _⟩
      · exact fun h => nomatch h
      · exact fun h => nomatch h
      · exact fun h => nomatch h

-- Where the attempts are left alone the record stays backed.
theorem ensureRecord_prepared
    (h : Ended.Backed own history context.executionId { outcome := none, now := o, trace })
    (backendOk restoreOk : Bool) :
    (ensureRecord o trace context backendOk restoreOk false).Prepared own history
      context.executionId ((history.after (ensureRecord o trace context backendOk restoreOk
        false).trace context.executionId).map (·.context)) false where
  toCuts := (ensureRecord_opened h backendOk restoreOk false).toCuts
  record := by
    unfold ensureRecord
    cases hexisting : o.live.lookup context.executionId with
    | some existing => exact h.live existing hexisting
    | none => exact .of_plain rfl (fun h => nomatch h) fun h => nomatch h
  given := rfl
  done h := nomatch h

theorem ensureRecord_attempts (o : Orchestrator) (trace : List Entry) (context : CompletionContext)
    (backendOk restoreOk : Bool) :
    (ensureRecord o trace context backendOk restoreOk true).record.attemptId = context.attemptId ∧
      ((∀ record, o.live.lookup context.executionId = some record →
        record.authoritativeAttemptId = context.authoritativeAttemptId) →
      (ensureRecord o trace context backendOk restoreOk true).record.authoritativeAttemptId =
        context.authoritativeAttemptId) := by
  unfold ensureRecord
  cases hexisting : o.live.lookup context.executionId with
  | some existing => exact ⟨rfl, fun h => h existing rfl⟩
  | none => exact ⟨rfl, fun _ => rfl⟩

namespace Flight

theorem Opened.prepared (h : f.Opened own history executionId)
    {change : CompletionRecord → CompletionRecord}
    (hid : (change f.record).executionId = f.record.executionId)
    (hcompleted : (change f.record).state ≠ .completed)
    (hwaits : (change f.record).state ∉ reverifiedStates) :
    (f.modify change).Prepared own history executionId
      ((history.after f.trace executionId).map (·.context)) false where
  toCuts := h.toCuts
  record := .of_plain (hid.trans h.keyed) hcompleted hwaits
  given := rfl
  done h := nomatch h

theorem Opened.fail (h : f.Opened own history executionId) {state : CompletionLifecycleState}
    (hcompleted : state ≠ .completed) (hwaits : state ∉ reverifiedStates)
    (failureClass detail : String) :
    (f.fail state failureClass detail).Prepared own history executionId
      ((history.after f.trace executionId).map (·.context)) false :=
  h.prepared rfl hcompleted hwaits

-- The backend is done: the record waits for the completion that starts here.
theorem Opened.backendCompleted (h : f.Opened own history executionId)
    (hid : context.executionId = executionId) (hattempt : f.record.attemptId = context.attemptId)
    (hauthority : context.attemptId = context.authoritativeAttemptId)
    (hown : own = true → f.record.authoritativeAttemptId = context.authoritativeAttemptId)
    (payload : EventPayload) :
    ((f.become .backendCompleted).emitAs (.backendCompleted context) "backend.completed" payload
      false).Ready own history executionId (some context) false := by
  obtain ⟨sequence, events, hsaving⟩ := (f.become .backendCompleted).emitAs_saving
    (.backendCompleted context) "backend.completed" payload false (by decide)
  rw [hsaving]
  subst hid
  have hnoted (now : Orchestrator) : (history.after f.trace).note ⟨.backendCompleted context, now⟩
      context.executionId = some { context, verified := [] } := Function.update_self _ _ _
  have hbacked (now : Orchestrator) : CompletionRecord.Backed own
      ((history.after f.trace).note ⟨.backendCompleted context, now⟩) context.executionId
      { f.record with state := .backendCompleted, sequence, events } := by
    refine ⟨h.keyed, (fun h => nomatch h), fun _ => ⟨_, hnoted now, hattempt, hauthority, fun h => ?_⟩⟩
    exact hattempt.trans (hauthority.trans (hown h).symm)
  refine Prepared.ready ⟨h.toCuts.save (hbacked _), ?_, ?_, fun h => nomatch h⟩ ?_
  · rw [reach_trace, modify_trace, become_trace, History.after_concat]
    exact hbacked _
  · rw [reach_trace, modify_trace, become_trace, History.after_concat, hnoted]
    rfl
  · rw [← h.keyed]
    exact AList.lookup_insert _

end Flight

theorem rejectStale_backed (h : o.Backed own history) (context : CompletionContext)
    (reason : CompletionFailureClass) (detail : String) :
    (rejectStale o context reason detail).Backed own history context.executionId := by
  have hrejected := (ensureRecord_prepared (h.ended context.executionId none) false true).emitAs
    .saved Flight.plain_saved "execution.stale_attempt_rejected"
      (.items (.ofList [("attempt_id", .str context.attemptId), ("reason", .str reason.value)])) true
  unfold rejectStale
  dsimp only
  split
  · exact hrejected.ended
  · exact ⟨hrejected.toCuts, hrejected.live⟩

theorem finaliseCancelled_backed
    (h : Ended.Backed own history context.executionId { outcome := none, now := o, trace })
    (services : Services) (cleanupCompleted : Bool) :
    (finaliseCancelled services o trace context cleanupCompleted).Backed own history
      context.executionId := by
  have hopened := ensureRecord_opened h false true true
  unfold finaliseCancelled
  dsimp only
  generalize ensureRecord o trace context false true true = f at hopened ⊢
  split
  · rename_i hfinished
    refine ⟨hopened.toCuts, fun record hrecord => ?_⟩
    obtain rfl := Option.some.inj (hopened.live.symm.trans hrecord)
    refine ⟨hopened.keyed, hopened.completed, fun hwaits => ?_⟩
    have hterminal : f.record.state ∈ terminalCompletionStates := by
      simpa [CompletionRecord.isTerminal] using hfinished.1
    exact absurd hterminal (by revert hwaits; cases f.record.state <;> decide)
  · split
    · exact (Flight.Prepared.emit (hopened.fail (by decide) (by decide) _ _) _ _).finaliseFailed
        services _
    · have hcancelled : (f.modify fun record => { record with
          state := .cancelled, detail := some "execution cancelled" }).Prepared own history
          context.executionId ((history.after f.trace context.executionId).map (·.context)) false :=
        hopened.prepared rfl (fun h => by cases h) (show .cancelled ∉ reverifiedStates by decide)
      exact (hcancelled.emit _ _).finaliseFailed services _

-- The record of an unfinished execution names the attempt that the context does.
def Orchestrator.SameAuthority (o : Orchestrator) (context : CompletionContext) : Prop :=
  ∀ record, o.live.lookup context.executionId = some record → record.isFinished = false →
    record.authoritativeAttemptId = context.authoritativeAttemptId

theorem completeFromBackend_backed (h : o.Backed own history)
    (hguarded : own = true → o.SameAuthority context) (services : Services) (result : BackendFacts)
    (candidates : List CandidateEvidence) (fresh : Nat → String) :
    (completeFromBackend services o result context candidates fresh).Backed own history
      context.executionId := by
  have hstart := h.ended context.executionId none
  unfold completeFromBackend
  cases hfinished : (o.live.lookup context.executionId).filter fun existing =>
      existing.isTerminal && existing.terminalEmitted with
  | some existing => exact h.ended _ _
  | none =>
      dsimp only
      split
      · exact rejectStale_backed h _ _ _
      rename_i hattempt
      split
      · have hopened := ensureRecord_opened hstart false false true
        exact (Flight.Prepared.emit (hopened.fail (by decide) (by decide) _ _) _ _).finaliseFailed
          services _
      have hopened := ensureRecord_opened hstart result.ok true true
      obtain ⟨hrecord, hauthority⟩ := ensureRecord_attempts o [] context result.ok true
      obtain ⟨hbackend, -, -⟩ := ensureRecord_updated o [] context result.ok true
      have hsame (hown : own = true) : (ensureRecord o [] context result.ok true
          true).record.authoritativeAttemptId = context.authoritativeAttemptId := by
        refine hauthority fun record hlookup => hguarded hown record hlookup ?_
        have hunfinished := Option.filter_eq_none_iff.mp hfinished record hlookup
        simpa [CompletionRecord.isFinished] using hunfinished
      have hcompleted := hopened.backendCompleted rfl hrecord (not_not.mp hattempt) hsame
        (.items (.ofList [("ok", .bool result.ok), ("message", .str result.message)]))
      split
      · exact finaliseCancelled_backed ⟨hcompleted.toCuts, hcompleted.live⟩ services true
      · split
        · exact (Flight.Ready.emit (hcompleted.fail (by decide) (by decide) _ _) _ _).finaliseFailed
            services _
        · rename_i hok
          refine hcompleted.completeWithEvidence ?_ rfl (by simpa using hok) ?_ services _
          · simp [reverifiedStates]
          · simpa [hbackend] using hok

theorem remoteFailed_backed (h : o.Backed own history) (services : Services)
    (context : CompletionContext) (payload : Mapping) :
    (remoteFailed services o context payload).Backed own history context.executionId := by
  have hopened := ensureRecord_opened (h.ended context.executionId none) false true true
  have hfailed : (Flight.fail _ .failed (orText (payload.get "failure_class") "process_failure")
      (orText (payload.get "detail") "remote execution failed")).Prepared own history
        context.executionId _ false := hopened.fail (by decide) (by decide) _ _
  have hcompleted := hfailed.emit "backend.completed" [("ok", .bool false), ("remote", .bool true)]
  unfold remoteFailed
  dsimp only
  split
  · exact ⟨hcompleted.toCuts, hcompleted.live⟩
  · exact hcompleted.finaliseFailed services _

theorem remoteProgress_backed (h : o.Backed own history) (context : CompletionContext)
    (eventType : String) (payload : Mapping) :
    (remoteProgress o context eventType payload).Backed own history context.executionId := by
  have hopened := ensureRecord_opened (h.ended context.executionId none) false true true
  have hrunning : (Flight.become _ .running).Prepared own history context.executionId _ false :=
    hopened.prepared rfl (fun h => nomatch h) (show .running ∉ reverifiedStates by decide)
  have hsaved := ((hrunning.emitAs .saved Flight.plain_saved eventType (.items payload)
    false).toPrepared).save .saved Flight.plain_saved
  exact ⟨hsaved.toCuts, hsaved.live⟩

theorem completeFromRemoteEvent_backed (h : o.Backed own history)
    (hguarded : own = true → o.SameAuthority context) (services : Services) (eventType : String)
    (payload : Mapping) (candidates : List CandidateEvidence) (fresh : Nat → String) :
    (completeFromRemoteEvent services o context eventType payload candidates fresh).Backed own
      history context.executionId := by
  unfold completeFromRemoteEvent
  dsimp only
  split
  · rename_i existing hexisting
    split
    · have hrecord := h.live _ _ (finished_eq_some_iff.mp hexisting).1
      have hfound : Flight.Prepared own history context.executionId _ false
          { now := o, record := existing } :=
        ⟨(h.ended context.executionId none).toCuts, hrecord, rfl, fun h => nomatch h⟩
      exact (hfound.emitAs .saved Flight.plain_saved _ _ _).ended
    · exact h.ended _ _
  · split
    · exact rejectStale_backed h _ _ _
    · split
      · exact finaliseCancelled_backed (h.ended _ none) services true
      · split
        · exact remoteFailed_backed h services _ _
        · split
          · exact remoteProgress_backed h _ _ _
          · split
            · exact h.ended _ _
            · rename_i candidates _
              have hremote : own = true →
                  o.SameAuthority (remoteContext context eventType payload) := by
                intro hown record hrecord
                rw [remoteContext_executionId] at hrecord
                rw [remoteContext_authoritativeAttemptId]
                exact hguarded hown record hrecord
              have hcompleted := completeFromBackend_backed h hremote services
                (remoteSuccess context payload) candidates fresh
              rwa [remoteContext_executionId] at hcompleted

-- The default strategy, without types that are asked for, asks for a backend
-- that has succeeded and a route that is restored.
theorem resumed_verified {evidence : EvidenceBoundary} {record : CompletionRecord}
    (h : (verificationRequest evidence (resumedContext record) record.backendOk
      record.restoreOk).verify.outcome = .verified) :
    record.backendOk = true ∧ record.restoreOk = true := by
  have hrestore := VerificationRequest.restoreOk_of_verified h
  refine ⟨?_, hrestore⟩
  have hdefault : (verificationRequest evidence (resumedContext record) record.backendOk
      record.restoreOk).verify = (verificationRequest evidence (resumedContext record)
        record.backendOk record.restoreOk).backendSuccessWithEvidence := by
    have hrestored : record.restoreOk = true := hrestore
    simp [VerificationRequest.verify, VerificationRequest.verifyPolicies,
      VerificationRequest.verifyWith, verificationRequest, resumedContext, hrestored]
  rw [hdefault] at h
  exact (VerificationRequest.backendSuccessWithEvidence_verified_iff.mp h).1

-- What a resumption verifies is what was asked: the verification has passed
-- already, cannot pass, or was to be the one of a record without its context.
def History.Resumable (history : History) (own : Bool) (o : Orchestrator) (executionId : String) :
    Prop :=
  ∀ record, o.live.lookup executionId = some record → record.state ∈ reverifiedStates →
    record.backendOk = true → record.restoreOk = true → history.Justified own executionId ∨
      ∃ started, history executionId = some started ∧
        started.context.verificationStrategy = "backend_success_with_evidence" ∧
        started.context.requiredEvidenceTypes = []

theorem resume_backed (h : o.Backed own history) (hguarded : history.Resumable own o executionId)
    (services : Services) : (resume services o executionId).Backed own history executionId := by
  unfold resume
  cases hrecord : o.live.lookup executionId with
  | none => exact h.ended _ _
  | some record =>
      have hfound (done : Bool) (hdone : done = true → history.Justified own executionId) :
          Flight.Ready own history executionId ((history executionId).map (·.context)) done
            { now := o, record } :=
        ⟨⟨(h.ended executionId none).toCuts, h.live _ _ hrecord, rfl, hdone⟩, h.live executionId⟩
      dsimp only
      split
      · exact (hfound false (fun h => nomatch h)).ended
      · split
        · rename_i hwaits
          have hkey : record.executionId = executionId := (h.live _ _ hrecord).keyed
          by_cases hjustified : history.Justified own executionId
          · exact (hfound true fun _ => hjustified).runVerification hwaits hkey services _
              fun _ => .inl rfl
          · refine (hfound false (fun h => nomatch h)).runVerification hwaits hkey services _
              fun hpassed => .inr ?_
            have hok : ((resumedResult record).ok && record.backendOk) = record.backendOk := by
              simp [resumedResult]
            rw [hok] at hpassed ⊢
            obtain ⟨hbackend, hrestore⟩ := resumed_verified hpassed
            obtain ⟨started, hstarted, hstrategy, htypes⟩ :=
              (hguarded record hrecord hwaits hbackend hrestore).resolve_left hjustified
            refine ⟨hbackend, fun asked hasked => ?_⟩
            rw [hstarted] at hasked
            obtain rfl := Option.some.inj hasked
            exact ⟨hstrategy.symm, htypes.symm⟩
        · split
          · exact (hfound false (fun h => nomatch h)).finaliseFailed services _
          · exact (hfound false (fun h => nomatch h)).ended

end Calls

section Turns

variable {own : Bool} {history : History} {o : Orchestrator} {services : Services} {turn : Turn}

-- A completion is started for the attempt that the record names, and a
-- resumption verifies what was asked.
def Call.Guarded (own : Bool) (history : History) (o : Orchestrator) : Call → Prop
  | backend _ context _ _ => own = true → o.SameAuthority context
  | remote context _ _ _ _ => own = true → o.SameAuthority context
  | cancelled _ _ => True
  | resume executionId => history.Resumable own o executionId

theorem Call.run_backed (h : o.Backed own history) {call : Call}
    (hguarded : call.Guarded own history o) (services : Services) :
    (call.run services o).Backed own history call.executionId := by
  cases call with
  | backend result context candidates fresh =>
      exact completeFromBackend_backed h hguarded services result candidates fresh
  | remote context eventType payload candidates fresh =>
      exact completeFromRemoteEvent_backed h hguarded services eventType payload candidates fresh
  | cancelled context cleanupCompleted =>
      exact finaliseCancelled_backed (h.ended _ none) services cleanupCompleted
  | resume executionId => exact resume_backed h hguarded services

theorem Orchestrator.Backed.keyed (h : o.Backed own history) : o.Keyed where
  live _ _ hrecord := (h.live _ _ hrecord).keyed
  saved _ _ hrecord := (h.saved _ _ hrecord).keyed

-- What backs a record is the history of its own execution.
theorem CompletionRecord.Backed.other {record : CompletionRecord} {executionId : String}
    (h : record.Backed own history executionId) {later : History}
    (hsame : later executionId = history executionId) : record.Backed own later executionId where
  keyed := h.keyed
  completed hcompleted := by
    obtain ⟨started, hstarted, hjustified⟩ := h.completed hcompleted
    exact ⟨started, hsame.trans hstarted, hjustified⟩
  awaited hwaits := by
    obtain ⟨started, hstarted, hattempts⟩ := h.awaited hwaits
    exact ⟨started, hsame.trans hstarted, hattempts⟩

-- A table whose row of one execution is backed now, and the others were before.
theorem Apart.backed {before after : Table String CompletionRecord} {id : String} {later : History}
    (h : Apart before after id) (hsame : ∀ other, other ≠ id → later other = history other)
    (hbefore : ∀ executionId record, before.lookup executionId = some record →
      record.Backed own history executionId)
    (hrow : ∀ record, after.lookup id = some record → record.Backed own later id)
    (executionId : String) (record : CompletionRecord)
    (hrecord : after.lookup executionId = some record) : record.Backed own later executionId := by
  by_cases hid : executionId = id
  · subst hid
    exact hrow record hrecord
  · rw [h.others executionId hid] at hrecord
    exact (hbefore executionId record hrecord).other (hsame executionId hid)

-- A turn leaves every record backed, wherever its call is stopped.
theorem Turn.play_backed (h : o.Backed own history) (hguarded : turn.call.Guarded own history o)
    {trace : List Entry} {next : Orchestrator}
    (hplay : turn.play services o = some (trace, next)) :
    next.Backed own (history.after trace) := by
  have hended := Call.run_backed h hguarded services
  have hwithin := turn.call.run_within services h.keyed
  unfold Turn.play at hplay
  dsimp only at hplay
  generalize turn.call.run services o = ended at hended hwithin hplay
  have hsame (part : List Entry) (hpart : part ⊆ ended.trace) (other : String)
      (hne : other ≠ turn.call.executionId) : history.after part other = history other :=
    History.after_other (fun entry hentry => (hwithin.trace entry (hpart hentry)).2) hne
  cases hstopped : turn.stoppedAfter with
  | none =>
      rw [hstopped] at hplay
      obtain ⟨rfl, rfl⟩ := Prod.mk.inj (Option.some.inj hplay)
      have hall := hsame ended.trace (List.Subset.refl _)
      exact ⟨hwithin.live.backed hall h.live hended.live,
        hwithin.saved.backed hall h.saved hended.saved⟩
  | some count =>
      rw [hstopped] at hplay
      dsimp only at hplay
      split at hplay
      · obtain ⟨rfl, rfl⟩ := Prod.mk.inj (Option.some.inj hplay)
        have hpart := hsame (ended.trace.take count) (List.take_subset _ _)
        -- what is found after the stop is what the last effect before it had saved
        have hcut : ∀ executionId record, ((((ended.trace.take count).getLast?.map
            (·.after)).getD o).saved.lookup executionId) = some record →
            record.Backed own (history.after (ended.trace.take count)) executionId := by
          rcases List.eq_nil_or_concat' (ended.trace.take count) with hnil | ⟨before, entry, hlast⟩
          · rw [hnil]
            exact h.saved
          · have hsplit : ended.trace = before ++ entry :: ended.trace.drop count :=
              calc ended.trace
                _ = ended.trace.take count ++ ended.trace.drop count :=
                    (List.take_append_drop count ended.trace).symm
                _ = before ++ entry :: ended.trace.drop count := by
                    rw [hlast, List.append_assoc, List.singleton_append]
            have hmem : entry ∈ ended.trace := hsplit ▸ List.mem_append_cons_self
            rw [hlast] at hpart ⊢
            rw [List.getLast?_concat, Option.map_some, Option.getD_some]
            refine (hwithin.trace entry hmem).1.backed hpart h.saved fun record hrecord => ?_
            rw [History.after_concat]
            exact hended.cuts before entry _ hsplit record hrecord
        exact ⟨hcut, hcut⟩
      · cases hplay

-- The history of a run of turns.
def History.turned (services : Services) (history : History) (o : Orchestrator) (turn : Turn) :
    History :=
  ((turn.play services o).map fun played => history.after played.1).getD history

def AllBacked (own : Bool) (s : Orchestrator × History) : Prop := s.1.Backed own s.2

theorem turned_backed (s : Orchestrator × History) (turn : Turn) (next : Orchestrator × History)
    (h : AllBacked own s) (hguarded : turn.call.Guarded own s.2 s.1)
    (hturned : watched (turned services) (History.turned services) s turn = some next) :
    AllBacked own next := by
  obtain ⟨hstep, hnote⟩ := watched_eq_some hturned
  unfold turned at hstep
  obtain ⟨⟨trace, after⟩, hplay, hafter⟩ := Option.map_eq_some_iff.mp hstep
  rw [AllBacked, hnote, History.turned, hplay, ← hafter]
  exact Turn.play_backed h hguarded hplay

theorem Orchestrator.Backed.empty : ({} : Orchestrator).Backed own history where
  live _ _ hrecord := nomatch hrecord
  saved _ _ hrecord := nomatch hrecord

-- In every run that starts each completion for the attempt of its record, and
-- resumes what a record without its context would have asked, a completed record
-- has been verified as its context asked.
theorem completed_verified (services : Services) (own : Bool) {turns : List Turn} {o : Orchestrator}
    {history : History}
    (hguarded : Along (watched (turned services) (History.turned services))
      (fun s turn => turn.call.Guarded own s.2 s.1) ({}, fun _ => none) turns)
    (hrun : run (watched (turned services) (History.turned services)) ({}, fun _ => none) turns =
      some (o, history)) (executionId : String) (record : CompletionRecord)
    (hrecord : o.live.lookup executionId = some record ∨
      o.saved.lookup executionId = some record)
    (hcompleted : record.state = .completed) : history.Justified own executionId := by
  have hfirst : AllBacked own ({}, fun _ => none) := Orchestrator.Backed.empty
  have hbacked : AllBacked own (o, history) := run_invariant turned_backed hfirst hguarded hrun
  rcases hrecord with hlive | hsaved
  · exact (hbacked.live _ _ hlive).completed hcompleted
  · exact (hbacked.saved _ _ hsaved).completed hcompleted

end Turns

section Sample

-- A completion that asks for the evidence that is given.
def testedContext (requiredEvidenceTypes : List String) : CompletionContext :=
  { EvidenceBoundary.evidenceContext with requiredEvidenceTypes }

-- The process stops when the backend is done, and the completion is resumed.
def stoppedTurns (context : CompletionContext) : List Turn :=
  [{ call := .backend completedResult context [] fun _ => "x", stoppedAfter := some 2 },
    { call := .resume "e" }]

def stoppedRun (context : CompletionContext) : Option (Orchestrator × History) :=
  run (watched (turned sampleServices) (History.turned sampleServices)) ({}, fun _ => none)
    (stoppedTurns context)

-- Whatever it asks for, the resumption completes it.
theorem stoppedRun_completed {context : CompletionContext}
    (h : ((stoppedRun context).bind fun s => s.1.live.lookup "e").map (·.state) = some .completed) :
    ∃ o history record, stoppedRun context = some (o, history) ∧
      o.live.lookup "e" = some record ∧ record.state = .completed := by
  obtain ⟨record, hrecord, hcompleted⟩ := Option.map_eq_some_iff.mp h
  obtain ⟨⟨o, history⟩, hrun, hlookup⟩ := Option.bind_eq_some_iff.mp hrecord
  exact ⟨o, history, record, hrun, hlookup, hcompleted⟩

end Sample

theorem default_resumed_verified : ∃ o history, stoppedRun (testedContext []) = some (o, history) ∧
    history.Justified true "e" := by
  obtain ⟨o, history, record, hrun, hrecord, hcompleted⟩ :=
    @stoppedRun_completed (testedContext []) (by decide +kernel)
  refine ⟨o, history, hrun, ?_⟩
  refine completed_verified sampleServices true ?_ hrun "e" record (.inl hrecord) hcompleted
  refine ⟨fun _ _ hfound => (nomatch hfound), fun s hs => ⟨?_, fun _ _ => trivial⟩⟩
  · intro found hfound hwaits hbackend hrestore
    obtain ⟨-, hnote⟩ := watched_eq_some hs
    have hcontext : (History.turned sampleServices (fun _ => none) {}
        { call := .backend completedResult (testedContext []) [] fun _ => "x"
          stoppedAfter := some 2 } "e").map (·.context) = some (testedContext []) := by
      decide +kernel
    obtain ⟨started, hstarted, hasked⟩ := Option.map_eq_some_iff.mp hcontext
    exact .inr ⟨started, hnote ▸ hstarted, hasked ▸ rfl, hasked ▸ rfl⟩

-- Resumed, a completion that asks for tests is verified without them.
theorem tested_resumed_unverified : ¬ ∀ (services : Services) (turns : List Turn) (o : Orchestrator)
    (history : History),
    run (watched (turned services) (History.turned services)) ({}, fun _ => none) turns =
      some (o, history) →
    ∀ executionId record, (o.live.lookup executionId = some record ∨
      o.saved.lookup executionId = some record) → record.state = .completed →
      history.Justified false executionId := by
  intro h
  obtain ⟨o, history, record, hrun, hrecord, hcompleted⟩ :=
    @stoppedRun_completed (testedContext ["test_summary"]) (by decide +kernel)
  obtain ⟨started, hstarted, -, verified, hmem, -, -, -, htypes, -⟩ :=
    h sampleServices _ o history hrun "e" record (.inl hrecord) hcompleted
  have hasked : ((stoppedRun (testedContext ["test_summary"])).bind fun s => s.2 "e").map
      (fun started => (started.context.requiredEvidenceTypes,
        started.verified.map (·.request.requiredEvidenceTypes))) =
      some (["test_summary"], [[]]) := by decide +kernel
  rw [hrun, Option.bind_some] at hasked
  dsimp only at hasked
  rw [hstarted, Option.map_some, Option.some_inj, Prod.mk.injEq] at hasked
  have hmem' := List.mem_map_of_mem (f := (·.request.requiredEvidenceTypes)) hmem
  rw [hasked.2, htypes, hasked.1] at hmem'
  simp at hmem'

end JoyMesh.Completion
