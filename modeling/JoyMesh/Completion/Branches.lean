import JoyMesh.Completion.Endings

namespace JoyMesh.Completion

open Library

section Calls

variable {services : Services} {o now : Orchestrator} {trace : List Entry}
  {context : CompletionContext} {result : BackendFacts} {priors : List Announcement}
  {executionId : String} {f : Flight} {candidates : List CandidateEvidence} {branch : Branch}
  {fresh : Nat → String}

def Orchestrator.announced (o : Orchestrator) (executionId : String) : List Announcement :=
  ((o.live.lookup executionId).map fun record => announcedOf record.events).getD []

-- The execution has no record, or one whose terminal event is still to come.
def Orchestrator.Open (o : Orchestrator) (executionId : String) : Prop :=
  ∀ record, o.live.lookup executionId = some record →
    record.executionId = executionId ∧ record.terminalEmitted = false

theorem ensureRecord_arriving (husage : now.usage = o.usage) (hopen : now.Open context.executionId)
    (hquiet : ∀ entry ∈ trace, entry.effect.isProjected = false)
    (backendOk restoreOk updateAttempt : Bool) :
    (ensureRecord now trace context backendOk restoreOk updateAttempt).Arriving o
        context.executionId ∧
      announcedOf (ensureRecord now trace context backendOk restoreOk updateAttempt).record.events =
        now.announced context.executionId := by
  unfold ensureRecord Orchestrator.announced
  cases hrecord : now.live.lookup context.executionId with
  | some existing =>
      obtain ⟨hid, hunfinished⟩ := hopen existing hrecord
      cases updateAttempt with
      | true => exact ⟨⟨hid, husage, hunfinished, hquiet⟩, rfl⟩
      | false => exact ⟨⟨hid, husage, hunfinished, hquiet⟩, rfl⟩
  | none =>
      refine ⟨⟨rfl, husage, rfl, fun entry hentry => ?_⟩, rfl⟩
      rcases List.mem_append.mp hentry with hold | hnew
      · exact hquiet entry hold
      · obtain rfl := List.mem_singleton.mp hnew
        rfl

-- What the record says of the backend is what the call says.
theorem ensureRecord_updated (now : Orchestrator) (trace : List Entry) (context : CompletionContext)
    (backendOk restoreOk : Bool) :
    (ensureRecord now trace context backendOk restoreOk true).record.backendOk = backendOk ∧
      (ensureRecord now trace context backendOk restoreOk true).record.restoreOk = restoreOk ∧
      (ensureRecord now trace context backendOk restoreOk true).now.evidence = now.evidence := by
  unfold ensureRecord
  cases now.live.lookup context.executionId <;> exact ⟨rfl, rfl, rfl⟩

theorem unverified_isTerminal (result : VerificationResult) :
    (unverified result).2.1 ∈ terminalCompletionStates := by
  unfold unverified
  cases result.outcome <;> simp [terminalCompletionStates]
  tauto

theorem unverified_event (result : VerificationResult) :
    (unverified result).1 ∉ Flight.deduplicated := by
  unfold unverified
  cases result.outcome <;> simp [Flight.deduplicated]

theorem Flight.Arriving.runVerification (h : f.Arriving o executionId)
    (hpriors : announcedOf f.record.events = priors) (services : Services) (context : CompletionContext)
    (result : BackendFacts) :
    ∃ record, Closed services o executionId priors
      (verificationBranch (verificationRequest f.now.evidence context
        (result.ok && f.record.backendOk) f.record.restoreOk) (usageFromResult result context))
      (usageFromResult result context) (f.runVerification services context result) record := by
  have hstarted : (f.startVerification context).Arriving o executionId :=
    (((h.become _).emit _ _).become _).emit _ _
  have hannounced : announcedOf (f.startVerification context).record.events = priors := by
    rw [← hpriors]
    simp [startVerification, deduplicated]
  have hrequest : verificationRequest (f.startVerification context).now.evidence context
      (result.ok && (f.startVerification context).record.backendOk)
      (f.startVerification context).record.restoreOk =
      verificationRequest f.now.evidence context (result.ok && f.record.backendOk)
        f.record.restoreOk := by
    simp [startVerification, Flight.emit]
  unfold Flight.runVerification
  dsimp only
  rw [hrequest]
  generalize verificationRequest f.now.evidence context (result.ok && f.record.backendOk)
    f.record.restoreOk = request
  have hobserved : (((f.startVerification context).reach (.verified request request.verify)
      (f.startVerification context).now).modify fun record =>
        { record with verification := some request.verify }).Arriving o executionId :=
    Arriving.modify (hstarted.reach rfl rfl) rfl rfl
  unfold verificationBranch
  split
  · refine Arriving.finaliseTerminal (Arriving.modify (hobserved.emitAs .saved rfl _ _ _) rfl rfl) _ ?_ ?_
    · exact fun h => by cases h
    · simpa [emitResult, deduplicated] using hannounced
  · refine Arriving.finaliseTerminal (Arriving.fail (hobserved.emitAs .saved rfl _ _ _) _ _ _) _ ?_ ?_
    · intro _
      exact if_pos (by simpa [CompletionRecord.isTerminal] using unverified_isTerminal request.verify)
    · simpa [emitResult, unverified_event] using hannounced

theorem Flight.emitEvidence_frame (h : f.Arriving o executionId) (intake : EvidenceBoundary.Intake) :
    (f.emitEvidence intake).Arriving o executionId ∧
      announcedOf (f.emitEvidence intake).record.events = announcedOf f.record.events ∧
      (f.emitEvidence intake).record.backendOk = f.record.backendOk ∧
      (f.emitEvidence intake).record.restoreOk = f.record.restoreOk ∧
      (f.emitEvidence intake).now.evidence = f.now.evidence := by
  let Kept (g : Flight) : Prop := g.Arriving o executionId ∧
    announcedOf g.record.events = announcedOf f.record.events ∧
    g.record.backendOk = f.record.backendOk ∧ g.record.restoreOk = f.record.restoreOk ∧
    g.now.evidence = f.now.evidence
  have haccepted (items : List EvidenceEnvelope) : Kept (items.foldl (fun f item =>
      (f.modify fun record =>
        { record with evidenceIds := record.evidenceIds ++ [item.evidenceId] }).emit
          "evidence.accepted" [("evidence_id", .str item.evidenceId)]) f) := by
    refine List.foldlRecOn items _ ⟨h, rfl, rfl, rfl, rfl⟩ ?_
    rintro g ⟨hg, hannounced, hbackend, hrestore, hevidence⟩ item -
    refine ⟨Arriving.emit (Arriving.modify hg rfl rfl) _ _, ?_, ?_, ?_, ?_⟩
    · simpa [deduplicated] using hannounced
    · simpa [Flight.emit] using hbackend
    · simpa [Flight.emit] using hrestore
    · simpa [Flight.emit] using hevidence
  refine List.foldlRecOn intake.rejected _ (haccepted intake.accepted) ?_
  rintro g ⟨hg, hannounced, hbackend, hrestore, hevidence⟩ item -
  refine ⟨hg.emit _ _, ?_, ?_, ?_, ?_⟩
  · simpa [deduplicated] using hannounced
  · simpa [Flight.emit] using hbackend
  · simpa [Flight.emit] using hrestore
  · simpa [Flight.emit] using hevidence

theorem Flight.takeEvidence_frame (h : f.Arriving o executionId) (services : Services)
    (context : CompletionContext) (candidates : List CandidateEvidence) :
    let intake := f.now.evidence.intake services.digests context .evidencePending context.backendId
      context.harnessId candidates
    let (g, accepted) := f.takeEvidence services context candidates
    accepted = intake.accepted ∧ g.now.evidence = intake.boundary ∧ g.Arriving o executionId ∧
      announcedOf g.record.events = announcedOf f.record.events ∧
      g.record.backendOk = f.record.backendOk ∧ g.record.restoreOk = f.record.restoreOk := by
  have hreceived := (h.become .evidencePending).emit "evidence.received" []
  have hevidence : ((f.become .evidencePending).emit "evidence.received" []).now.evidence =
      f.now.evidence := by simp [Flight.emit]
  have hstate : ((f.become .evidencePending).emit "evidence.received" []).record.state =
      .evidencePending := by simp [Flight.emit]
  have hannounced : announcedOf ((f.become .evidencePending).emit "evidence.received"
      []).record.events = announcedOf f.record.events := by simp [deduplicated]
  have hbackend : ((f.become .evidencePending).emit "evidence.received" []).record.backendOk =
      f.record.backendOk := by simp [Flight.emit]
  have hrestore : ((f.become .evidencePending).emit "evidence.received" []).record.restoreOk =
      f.record.restoreOk := by simp [Flight.emit]
  unfold Flight.takeEvidence
  dsimp only
  rw [hevidence, hstate]
  generalize (f.become .evidencePending).emit "evidence.received" [] = g at *
  generalize f.now.evidence.intake services.digests context .evidencePending context.backendId
    context.harnessId candidates = intake
  have hread : (g.reach .evidenceTaken { g.now with evidence := intake.boundary }).Arriving o
      executionId := hreceived.reach rfl rfl
  obtain ⟨hg, hsame, hbackend', hrestore', hevidence'⟩ := Flight.emitEvidence_frame hread intake
  exact ⟨rfl, hevidence', hg, hsame.trans hannounced, hbackend'.trans hbackend,
    hrestore'.trans hrestore⟩

theorem Flight.Arriving.completeWithEvidence (h : f.Arriving o executionId)
    (hpriors : announcedOf f.record.events = priors) (hevidence : f.now.evidence = o.evidence)
    (hresult : result.ok = true) (hbackend : f.record.backendOk = true)
    (hrestore : f.record.restoreOk = true)
    (services : Services) (context : CompletionContext) (candidates : List CandidateEvidence) :
    ∃ record, Closed services o executionId priors
      (evidenceBranch services o result context candidates) (usageFromResult result context)
      (f.completeWithEvidence services result context candidates) record := by
  have htaken := Flight.takeEvidence_frame h services context candidates
  unfold Flight.completeWithEvidence evidenceBranch
  rw [hevidence] at htaken
  dsimp only
  generalize o.evidence.intake services.digests context .evidencePending context.backendId
    context.harnessId candidates = intake at htaken ⊢
  generalize f.takeEvidence services context candidates = taken at htaken ⊢
  obtain ⟨g, accepted⟩ := taken
  obtain ⟨rfl, hboundary, hg, hsame, hbackend', hrestore'⟩ := htaken
  split
  · refine Flight.Arriving.finaliseTerminal ((hg.fail _ _ _).emit _ _) _ ?_ ?_
    · intro _
      simp [Flight.emit, CompletionRecord.isTerminal, terminalCompletionStates]
    · simp [deduplicated, hsame, hpriors]
  · have hverified := (hg.become .evidenceAccepted).runVerification
      (hsame.trans hpriors) services context result
    simpa [hboundary, hresult, hbackend', hbackend, hrestore', hrestore] using hverified

theorem finaliseCancelled_closed (husage : now.usage = o.usage) (hopen : now.Open context.executionId)
    (hpriors : now.announced context.executionId = priors)
    (hquiet : ∀ entry ∈ trace, entry.effect.isProjected = false) (services : Services)
    (cleanupCompleted : Bool) :
    ∃ record, Closed services o context.executionId priors (cancelledBranch cleanupCompleted) []
      (finaliseCancelled services now trace context cleanupCompleted) record := by
  obtain ⟨hensured, hannounced⟩ := ensureRecord_arriving husage hopen hquiet false true true
  rw [hpriors] at hannounced
  unfold finaliseCancelled
  dsimp only
  rw [if_neg (by simp [hensured.unfinished])]
  cases cleanupCompleted with
  | true =>
      rw [if_neg (by simp)]
      refine Flight.Arriving.finaliseTerminal (Flight.Arriving.emit (hensured.modify rfl rfl) _ _) _
        ?_ ?_
      · intro _
        simp [Flight.emit, CompletionRecord.isTerminal, terminalCompletionStates, cancelledBranch]
      · simp [Flight.deduplicated, hannounced, cancelledBranch]
  | false =>
      rw [if_pos (by simp)]
      refine Flight.Arriving.finaliseTerminal ((hensured.fail _ _ _).emit _ _) _ ?_ ?_
      · intro _
        simp [Flight.emit, CompletionRecord.isTerminal, terminalCompletionStates, cancelledBranch]
      · simp [Flight.deduplicated, hannounced, cancelledBranch]

theorem Orchestrator.Open.unfinished (hopen : o.Open executionId) :
    ((o.live.lookup executionId).filter fun existing =>
      existing.isTerminal && existing.terminalEmitted) = none := by
  refine Option.filter_eq_none_iff.mpr fun record hrecord => ?_
  simp [(hopen record hrecord).2]

theorem evidenceBranch_usageFacts (candidates : List CandidateEvidence) :
    (evidenceBranch services o result context candidates).usageFacts =
      some (usageFromResult result context) := by
  unfold evidenceBranch verificationBranch
  dsimp only
  split
  · rfl
  · split <;> rfl

theorem completeFromBackend_closed (hopen : o.Open context.executionId)
    (hbranch : backendBranch services o result context candidates fresh = some branch) :
    ∃ usageFacts, branch.usageFacts = some usageFacts ∧ ∃ record,
      Closed services o context.executionId (o.announced context.executionId) branch usageFacts
        (completeFromBackend services o result context candidates fresh) record := by
  have hnil : ∀ entry ∈ ([] : List Entry), entry.effect.isProjected = false := fun _ h => nomatch h
  unfold backendBranch at hbranch
  unfold completeFromBackend
  rw [hopen.unfinished]
  dsimp only
  by_cases hattempt : context.attemptId ≠ context.authoritativeAttemptId
  · rw [if_pos hattempt] at hbranch
    cases hbranch
  rw [if_neg hattempt] at hbranch ⊢
  by_cases hrestore : ¬ restoreOk result
  · rw [if_pos hrestore] at hbranch ⊢
    obtain rfl := Option.some.inj hbranch
    obtain ⟨hensured, hannounced⟩ := ensureRecord_arriving rfl hopen hnil false false true
    refine ⟨_, rfl, Flight.Arriving.finaliseTerminal ((hensured.fail _ _ _).emit _ _) _ ?_ ?_⟩
    · intro _
      simp [Flight.emit, CompletionRecord.isTerminal, terminalCompletionStates]
    · simp [Flight.deduplicated, hannounced]
  rw [if_neg hrestore] at hbranch ⊢
  obtain ⟨hensured, hannounced⟩ := ensureRecord_arriving rfl hopen hnil result.ok true true
  have hcompleted := (hensured.become .backendCompleted).emitAs (.backendCompleted context) rfl
    "backend.completed"
      (.items (.ofList [("ok", .bool result.ok), ("message", .str result.message)])) false
  by_cases hcancelled : context.cancelled = true
  · rw [if_pos hcancelled] at hbranch ⊢
    obtain rfl := Option.some.inj hbranch
    have hlookup := Flight.emitAs_lookup (ensureRecord o [] context result.ok true true |>.become
      .backendCompleted) (.backendCompleted context) "backend.completed"
        (.items (.ofList [("ok", .bool result.ok), ("message", .str result.message)])) false
        hensured.record
    refine ⟨[], rfl, finaliseCancelled_closed hcompleted.usage ?_ ?_ hcompleted.quiet services true⟩
    · intro record hrecord
      obtain rfl := Option.some.inj (hlookup.symm.trans hrecord)
      exact ⟨hcompleted.record, hcompleted.unfinished⟩
    · rw [Orchestrator.announced, hlookup]
      simp [Flight.deduplicated, hannounced]
  rw [if_neg hcancelled] at hbranch ⊢
  by_cases hok : ¬ result.ok
  · rw [if_pos hok] at hbranch ⊢
    obtain rfl := Option.some.inj hbranch
    refine ⟨_, rfl, Flight.Arriving.finaliseTerminal ((hcompleted.fail _ _ _).emit _ _) _ ?_ ?_⟩
    · intro _
      simp [Flight.emit, CompletionRecord.isTerminal, terminalCompletionStates]
    · simp [Flight.deduplicated, hannounced]
  rw [if_neg hok] at hbranch ⊢
  obtain rfl := Option.some.inj hbranch
  obtain ⟨hbackend, hrestored, hevidence⟩ := ensureRecord_updated o [] context result.ok true
  have hresult : result.ok = true := by simpa using hok
  refine ⟨usageFromResult result context, ?_, hcompleted.completeWithEvidence ?_ ?_ hresult ?_ ?_
    services context _⟩
  · exact evidenceBranch_usageFacts _
  · simp [Flight.deduplicated, hannounced]
  · simp [hevidence]
  · simpa [hresult] using hbackend
  · simpa using hrestored

-- A call that does not come to the finaliser leaves the record without its
-- terminal event, and not terminal unless it was before.
def LeavesOpen (o : Orchestrator) (executionId : String) (ended : Ended) : Prop :=
  ∀ record, ended.now.live.lookup executionId = some record → record.terminalEmitted = false ∧
    (record.isTerminal = true →
      ∃ before, o.live.lookup executionId = some before ∧ before.isTerminal = true)

theorem Orchestrator.Open.leavesOpen (hopen : o.Open executionId)
    (outcome : Option CompletionOutcome) : LeavesOpen o executionId { outcome, now := o } :=
  fun record hrecord => ⟨(hopen record hrecord).2, fun hterminal => ⟨record, hrecord, hterminal⟩⟩

theorem rejectStale_open (hopen : o.Open context.executionId) (reason : CompletionFailureClass)
    (detail : String) :
    LeavesOpen o context.executionId (rejectStale o context reason detail) := by
  have hnil : ∀ entry ∈ ([] : List Entry), entry.effect.isProjected = false := fun _ h => nomatch h
  obtain ⟨hensured, -⟩ := ensureRecord_arriving rfl hopen hnil false true false
  have hterminal : (ensureRecord o [] context false true false).record.isTerminal = true →
      ∃ before, o.live.lookup context.executionId = some before ∧ before.isTerminal = true := by
    unfold ensureRecord
    cases o.live.lookup context.executionId with
    | some existing => exact fun h => ⟨existing, rfl, h⟩
    | none => exact fun h => nomatch h
  have hlookup := Flight.emitAs_lookup (ensureRecord o [] context false true false) .saved
    "execution.stale_attempt_rejected"
    (.items (.ofList [("attempt_id", .str context.attemptId), ("reason", .str reason.value)])) true
    hensured.record
  have hnow : (rejectStale o context reason detail).now =
      ((ensureRecord o [] context false true false).emitAs .saved "execution.stale_attempt_rejected"
        (.items (.ofList [("attempt_id", .str context.attemptId), ("reason", .str reason.value)]))
        true).now := by
    unfold rejectStale
    dsimp only
    split <;> rfl
  intro record hrecord
  rw [hnow] at hrecord
  obtain rfl := Option.some.inj (hlookup.symm.trans hrecord)
  exact ⟨by simpa using hensured.unfinished, by simpa using hterminal⟩

theorem completeFromBackend_open (hopen : o.Open context.executionId)
    (hbranch : backendBranch services o result context candidates fresh = none) :
    LeavesOpen o context.executionId
      (completeFromBackend services o result context candidates fresh) := by
  unfold completeFromBackend
  rw [hopen.unfinished]
  dsimp only
  unfold backendBranch at hbranch
  split at hbranch
  · rename_i hattempt
    rw [if_pos hattempt]
    exact rejectStale_open hopen _ _
  · split_ifs at hbranch

theorem remoteProgress_open (hopen : o.Open context.executionId) (eventType : String)
    (payload : Mapping) :
    LeavesOpen o context.executionId (remoteProgress o context eventType payload) := by
  have hnil : ∀ entry ∈ ([] : List Entry), entry.effect.isProjected = false := fun _ h => nomatch h
  obtain ⟨hensured, -⟩ := ensureRecord_arriving rfl hopen hnil false true true
  have hrunning := (hensured.become .running).emitAs .saved rfl eventType (.items payload) false
  have hlookup : (remoteProgress o context eventType payload).now.live.lookup context.executionId =
      some (((ensureRecord o [] context false true true).become .running).emitAs .saved eventType
        (.items payload) false).record := by
    rw [← hrunning.record]
    exact AList.lookup_insert _
  intro record hrecord
  obtain rfl := Option.some.inj (hlookup.symm.trans hrecord)
  refine ⟨hrunning.unfinished, fun hterminal => ?_⟩
  simp [CompletionRecord.isTerminal, terminalCompletionStates] at hterminal

-- A remote failure whose usage cannot be read leaves a failed record without a
-- terminal event.
theorem remoteFailed_closed (hopen : o.Open context.executionId) (services : Services)
    (payload : Mapping) :
    match asMapping (payload.get "usage") with
    | none => ∃ record,
        (remoteFailed services o context payload).now.live.lookup context.executionId = some record ∧
        record.state = .failed ∧ record.terminalEmitted = false ∧
        announcedOf record.events = o.announced context.executionId
    | some facts => ∃ record, Closed services o context.executionId
        (o.announced context.executionId)
        { state := .failed, usageFacts := some [usageFact context facts] } [usageFact context facts]
        (remoteFailed services o context payload) record := by
  have hnil : ∀ entry ∈ ([] : List Entry), entry.effect.isProjected = false := fun _ h => nomatch h
  obtain ⟨hensured, hannounced⟩ := ensureRecord_arriving rfl hopen hnil false true true
  have hfailed := (hensured.fail .failed (orText (payload.get "failure_class") "process_failure")
    (orText (payload.get "detail") "remote execution failed")).emit "backend.completed"
      [("ok", .bool false), ("remote", .bool true)]
  unfold remoteFailed
  cases asMapping (payload.get "usage") with
  | none =>
      dsimp only
      refine ⟨_, Flight.emitAs_lookup _ _ _ _ _ hensured.record, ?_, ?_, ?_⟩
      · simp
      · exact hfailed.unfinished
      · simp [Flight.deduplicated, hannounced]
  | some facts =>
      dsimp only
      refine hfailed.finaliseTerminal _ ?_ ?_
      · intro _
        simp [Flight.emit, CompletionRecord.isTerminal, terminalCompletionStates]
      · simp [Flight.deduplicated, hannounced]

theorem resume_closed (services : Services) (hopen : o.Open executionId)
    (hbranch : resumeBranch o executionId = some branch) :
    ∃ usageFacts, branch.usageFacts = some usageFacts ∧ ∃ record,
      Closed services o executionId (o.announced executionId) branch usageFacts
        (resume services o executionId) record := by
  unfold resumeBranch at hbranch
  unfold resume
  cases hrecord : o.live.lookup executionId with
  | none => rw [hrecord] at hbranch; cases hbranch
  | some record =>
      obtain ⟨hid, hunfinished⟩ := hopen record hrecord
      have hflight : Flight.Arriving o executionId { now := o, record } :=
        ⟨hid, rfl, hunfinished, fun _ h => nomatch h⟩
      have hannounced : announcedOf record.events = o.announced executionId := by
        simp [Orchestrator.announced, hrecord]
      rw [hrecord, Option.bind_some] at hbranch
      dsimp only
      split at hbranch
      · cases hbranch
      · rename_i hterminal
        rw [if_neg hterminal]
        split at hbranch
        · rename_i hwaiting
          obtain rfl := Option.some.inj hbranch
          rw [if_pos hwaiting]
          have hverified := hflight.runVerification hannounced services (resumedContext record)
            (resumedResult record)
          rw [show ((resumedResult record).ok && record.backendOk) = record.backendOk by
            simp [resumedResult]] at hverified
          refine ⟨_, ?_, hverified⟩
          unfold verificationBranch
          split <;> rfl
        · rename_i hwaiting
          rw [if_neg hwaiting]
          split at hbranch
          · rename_i hfinalising
            obtain rfl := Option.some.inj hbranch
            rw [if_pos hfinalising]
            refine ⟨[], rfl, hflight.finaliseTerminal _ ?_ ?_⟩
            · intro _
              simp [hterminal]
            · simpa using hannounced
          · cases hbranch

theorem resume_open (hopen : o.Open executionId) (hbranch : resumeBranch o executionId = none) :
    LeavesOpen o executionId (resume services o executionId) := by
  unfold resumeBranch at hbranch
  unfold resume
  cases hrecord : o.live.lookup executionId with
  | none => exact hopen.leavesOpen none
  | some record =>
      rw [hrecord, Option.bind_some] at hbranch
      dsimp only
      by_cases hterminal : record.isTerminal = true
      · rw [if_pos hterminal]
        exact hopen.leavesOpen _
      · rw [if_neg hterminal] at hbranch ⊢
        by_cases hwaiting : record.state ∈ reverifiedStates
        · rw [if_pos hwaiting] at hbranch
          cases hbranch
        · rw [if_neg hwaiting] at hbranch ⊢
          by_cases hfinalising : record.state = .finalising
          · rw [if_pos hfinalising] at hbranch
            cases hbranch
          · rw [if_neg hfinalising]
            exact hopen.leavesOpen _

-- How a call leaves the record of an execution that is not finished.
def Leaves (services : Services) (o : Orchestrator) (executionId : String) (ended : Ended) :
    Option Branch → Prop
  | none => LeavesOpen o executionId ended
  | some branch =>
      match branch.usageFacts with
      | some usageFacts => ∃ record,
          Closed services o executionId (o.announced executionId) branch usageFacts ended record
      | none => ∃ record, ended.now.live.lookup executionId = some record ∧
          record.state = branch.state ∧ record.terminalEmitted = false ∧
          announcedOf record.events = o.announced executionId

theorem completeFromBackend_leaves (services : Services) (result : BackendFacts)
    (hopen : o.Open context.executionId) (candidates : List CandidateEvidence) (fresh : Nat → String) :
    Leaves services o context.executionId
      (completeFromBackend services o result context candidates fresh)
      (backendBranch services o result context candidates fresh) := by
  cases hbranch : backendBranch services o result context candidates fresh with
  | none => exact completeFromBackend_open hopen hbranch
  | some branch =>
      obtain ⟨usageFacts, hfacts, hclosed⟩ := completeFromBackend_closed hopen hbranch
      simpa only [Leaves, hfacts] using hclosed

theorem completeFromRemoteEvent_leaves (hopen : o.Open context.executionId) (eventType : String)
    (payload : Mapping) (candidates : List CandidateEvidence) (fresh : Nat → String) :
    Leaves services o context.executionId
      (completeFromRemoteEvent services o context eventType payload candidates fresh)
      (remoteBranch services o context eventType payload candidates fresh) := by
  have hnil : ∀ entry ∈ ([] : List Entry), entry.effect.isProjected = false := fun _ h => nomatch h
  unfold completeFromRemoteEvent remoteBranch
  rw [hopen.unfinished]
  dsimp only
  by_cases hattempt : context.attemptId ≠ context.authoritativeAttemptId
  · rw [if_pos hattempt, if_pos hattempt]
    exact rejectStale_open hopen _ _
  rw [if_neg hattempt, if_neg hattempt]
  by_cases hcancelled : eventType ∈ ["task.cancelled", "execution.cancelled"]
  · rw [if_pos hcancelled, if_pos hcancelled]
    exact finaliseCancelled_closed rfl hopen rfl hnil services true
  rw [if_neg hcancelled, if_neg hcancelled]
  by_cases hfailed : eventType ∈ ["task.failed", "execution.failed"]
  · rw [if_pos hfailed, if_pos hfailed]
    have hclosed := remoteFailed_closed hopen services payload
    unfold Leaves
    cases husage : asMapping (payload.get "usage") with
    | none => simpa [husage] using hclosed
    | some facts => simpa [husage] using hclosed
  rw [if_neg hfailed, if_neg hfailed]
  by_cases hprogress : eventType ∉ ["task.succeeded", "execution.completed", "verification.completed"]
  · rw [if_pos hprogress, if_pos hprogress]
    exact remoteProgress_open hopen _ _
  rw [if_neg hprogress, if_neg hprogress]
  cases hcandidates : remoteCandidates services (remoteContext context eventType payload) payload
      candidates fresh with
  | none => exact hopen.leavesOpen _
  | some taken =>
      have hremote : o.Open (remoteContext context eventType payload).executionId := by
        rwa [remoteContext_executionId]
      have hleaves := completeFromBackend_leaves services (remoteSuccess context payload) hremote
        taken fresh
      rwa [remoteContext_executionId] at hleaves

theorem resume_leaves (services : Services) (hopen : o.Open executionId) :
    Leaves services o executionId (resume services o executionId)
      (resumeBranch o executionId) := by
  cases hbranch : resumeBranch o executionId with
  | none => exact resume_open hopen hbranch
  | some branch =>
      obtain ⟨usageFacts, hfacts, hclosed⟩ := resume_closed services hopen hbranch
      simpa only [Leaves, hfacts] using hclosed

-- A call for an execution that is not finished goes as its branch says.
theorem Call.run_leaves (services : Services) (call : Call) (hopen : o.Open call.executionId) :
    Leaves services o call.executionId (call.run services o) (call.branch services o) := by
  cases call with
  | backend result context candidates fresh =>
      exact completeFromBackend_leaves services result hopen candidates fresh
  | remote context eventType payload candidates fresh =>
      exact completeFromRemoteEvent_leaves hopen eventType payload candidates fresh
  | cancelled context cleanupCompleted =>
      have hnil : ∀ entry ∈ ([] : List Entry), entry.effect.isProjected = false :=
        fun _ h => nomatch h
      have hclosed := finaliseCancelled_closed rfl hopen rfl hnil services cleanupCompleted
      cases cleanupCompleted <;> exact hclosed
  | resume executionId =>
      exact resume_leaves services hopen

end Calls

end JoyMesh.Completion
