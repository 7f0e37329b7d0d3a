import JoyMesh.Completion.Orchestrator

namespace JoyMesh.Completion

open Library

-- A table whose row of one execution has changed, if any.
structure Apart (before after : Table String CompletionRecord) (executionId : String) : Prop where
  others : ∀ other, other ≠ executionId → after.lookup other = before.lookup other
  keyed : ∀ record, after.lookup executionId = some record → record.executionId = executionId

-- Every record is found under its own id.
structure Orchestrator.Keyed (o : Orchestrator) : Prop where
  live : ∀ executionId record, o.live.lookup executionId = some record →
    record.executionId = executionId
  saved : ∀ executionId record, o.saved.lookup executionId = some record →
    record.executionId = executionId

-- A completion that is started and a verification are those of the execution.
def Effect.About (executionId : String) : Effect → Prop
  | backendCompleted context => context.executionId = executionId
  | verified request _ => request.executionId = executionId
  | _ => True

-- A call that works on the record of one execution and leaves the others alone.
structure Flight.Within (start : Orchestrator) (executionId : String) (f : Flight) : Prop where
  record : f.record.executionId = executionId
  live : Apart start.live f.now.live executionId
  saved : Apart start.saved f.now.saved executionId
  trace : ∀ entry ∈ f.trace,
    Apart start.saved entry.after.saved executionId ∧ entry.effect.About executionId

structure Ended.Within (start : Orchestrator) (executionId : String) (ended : Ended) : Prop where
  live : Apart start.live ended.now.live executionId
  saved : Apart start.saved ended.now.saved executionId
  trace : ∀ entry ∈ ended.trace,
    Apart start.saved entry.after.saved executionId ∧ entry.effect.About executionId

section Tables

variable {before after : Table String CompletionRecord} {executionId : String}
  {record : CompletionRecord}

theorem Apart.insert (h : Apart before after executionId) (hid : record.executionId = executionId) :
    Apart before (after.insert record.executionId record) executionId where
  others other hother := by
    rw [hid, AList.lookup_insert_ne hother, h.others other hother]
  keyed found hfound := by
    rw [hid, AList.lookup_insert] at hfound
    obtain rfl := Option.some.inj hfound
    exact hid

theorem Orchestrator.Keyed.apart {o : Orchestrator} (h : o.Keyed) (executionId : String) :
    Apart o.live o.live executionId ∧ Apart o.saved o.saved executionId :=
  ⟨⟨fun _ _ => rfl, h.live executionId⟩, ⟨fun _ _ => rfl, h.saved executionId⟩⟩

theorem Orchestrator.Keyed.ended {o : Orchestrator} (h : o.Keyed) {call : Ended}
    (hwithin : call.Within o executionId) : call.now.Keyed where
  live other record hrecord := by
    by_cases hother : other = executionId
    · subst hother
      exact hwithin.live.keyed record hrecord
    · exact h.live other record (hwithin.live.others other hother ▸ hrecord)
  saved other record hrecord := by
    by_cases hother : other = executionId
    · subst hother
      exact hwithin.saved.keyed record hrecord
    · exact h.saved other record (hwithin.saved.others other hother ▸ hrecord)

end Tables

namespace Flight

section Changes

variable (f : Flight) (effect : Effect) (now : Orchestrator)
  (change : CompletionRecord → CompletionRecord) (state : CompletionLifecycleState)
  (failureClass detail : String)

@[simp] theorem reach_now : (f.reach effect now).now = now := rfl

@[simp] theorem reach_record : (f.reach effect now).record = f.record := rfl

@[simp] theorem reach_trace : (f.reach effect now).trace = f.trace ++ [⟨effect, now⟩] := rfl

@[simp] theorem modify_now : (f.modify change).now = f.now := rfl

@[simp] theorem modify_record : (f.modify change).record = change f.record := rfl

@[simp] theorem modify_trace : (f.modify change).trace = f.trace := rfl

@[simp] theorem become_now : (f.become state).now = f.now := rfl

@[simp] theorem become_record : (f.become state).record = { f.record with state } := rfl

@[simp] theorem become_trace : (f.become state).trace = f.trace := rfl

@[simp] theorem fail_now : (f.fail state failureClass detail).now = f.now := rfl

@[simp] theorem fail_record : (f.fail state failureClass detail).record =
    { f.record with state, failureClass := some failureClass, detail := some detail } := rfl

@[simp] theorem fail_trace : (f.fail state failureClass detail).trace = f.trace := rfl

end Changes

section Emissions

variable (f : Flight) (effect : Effect) (eventType : String) (payload : EventPayload) (force : Bool)

-- An emission counts the sequence up and may add an event. Nothing else of the
-- record changes.
theorem emitAs_record : ∃ sequence events,
    (f.emitAs effect eventType payload force).record = { f.record with sequence, events } := by
  unfold emitAs
  dsimp only
  split
  · exact ⟨_, f.record.events, rfl⟩
  · exact ⟨_, _, rfl⟩

@[simp] theorem emitAs_executionId :
    (f.emitAs effect eventType payload force).record.executionId = f.record.executionId := by
  obtain ⟨_, _, h⟩ := f.emitAs_record effect eventType payload force
  rw [h]

@[simp] theorem emitAs_state :
    (f.emitAs effect eventType payload force).record.state = f.record.state := by
  obtain ⟨_, _, h⟩ := f.emitAs_record effect eventType payload force
  rw [h]

@[simp] theorem emitAs_isTerminal :
    (f.emitAs effect eventType payload force).record.isTerminal = f.record.isTerminal := by
  obtain ⟨_, _, h⟩ := f.emitAs_record effect eventType payload force
  rw [h]
  rfl

@[simp] theorem emitAs_attemptId :
    (f.emitAs effect eventType payload force).record.attemptId = f.record.attemptId := by
  obtain ⟨_, _, h⟩ := f.emitAs_record effect eventType payload force
  rw [h]

@[simp] theorem emitAs_authoritativeAttemptId :
    (f.emitAs effect eventType payload force).record.authoritativeAttemptId =
      f.record.authoritativeAttemptId := by
  obtain ⟨_, _, h⟩ := f.emitAs_record effect eventType payload force
  rw [h]

@[simp] theorem emitAs_backendOk :
    (f.emitAs effect eventType payload force).record.backendOk = f.record.backendOk := by
  obtain ⟨_, _, h⟩ := f.emitAs_record effect eventType payload force
  rw [h]

@[simp] theorem emitAs_restoreOk :
    (f.emitAs effect eventType payload force).record.restoreOk = f.record.restoreOk := by
  obtain ⟨_, _, h⟩ := f.emitAs_record effect eventType payload force
  rw [h]

@[simp] theorem emitAs_terminalEmitted :
    (f.emitAs effect eventType payload force).record.terminalEmitted =
      f.record.terminalEmitted := by
  obtain ⟨_, _, h⟩ := f.emitAs_record effect eventType payload force
  rw [h]

-- The record is in memory afterwards, whether it has been saved or not.
@[simp] theorem emitAs_live :
    (f.emitAs effect eventType payload force).now.live =
      f.now.live.insert f.record.executionId (f.emitAs effect eventType payload force).record := by
  unfold emitAs
  dsimp only
  split <;> rfl

theorem emitAs_lookup {executionId : String} (hid : f.record.executionId = executionId) :
    (f.emitAs effect eventType payload force).now.live.lookup executionId =
      some (f.emitAs effect eventType payload force).record := by
  rw [emitAs_live, hid, AList.lookup_insert]

-- Only a terminal event may fail to be saved.
theorem emitAs_saving (hevent : eventType ∉ deduplicated) : ∃ sequence events,
    f.emitAs effect eventType payload force =
      (f.modify fun record => { record with sequence, events }).reach effect
        (f.now.save { f.record with sequence, events }) := by
  unfold emitAs
  simp only [hevent, decide_false, Bool.and_false, Bool.false_and, Bool.false_eq_true, if_false]
  exact ⟨_, _, rfl⟩

theorem emitAs_saved_lookup {executionId : String} (hevent : eventType ∉ deduplicated)
    (hid : f.record.executionId = executionId) :
    (f.emitAs effect eventType payload force).now.saved.lookup executionId =
      some (f.emitAs effect eventType payload force).record := by
  obtain ⟨sequence, events, h⟩ := f.emitAs_saving effect eventType payload force hevent
  rw [h, ← hid]
  exact AList.lookup_insert _

@[simp] theorem emitAs_usage :
    (f.emitAs effect eventType payload force).now.usage = f.now.usage := by
  unfold emitAs
  dsimp only
  split <;> rfl

@[simp] theorem emitAs_evidence :
    (f.emitAs effect eventType payload force).now.evidence = f.now.evidence := by
  unfold emitAs
  dsimp only
  split <;> rfl

end Emissions

section Within

variable {start : Orchestrator} {executionId : String} {f : Flight} {effect : Effect}
  {services : Services}

theorem Within.modify (h : f.Within start executionId) {change : CompletionRecord → CompletionRecord}
    (hid : (change f.record).executionId = f.record.executionId) :
    (f.modify change).Within start executionId where
  record := hid.trans h.record
  live := h.live
  saved := h.saved
  trace := h.trace

-- An effect beside the tables.
theorem Within.reach (h : f.Within start executionId) (effect : Effect) {now : Orchestrator}
    (habout : effect.About executionId) (hlive : now.live = f.now.live) (hsaved : now.saved = f.now.saved) :
    (f.reach effect now).Within start executionId where
  record := h.record
  live := hlive ▸ h.live
  saved := hsaved ▸ h.saved
  trace entry hentry := by
    rcases List.mem_append.mp hentry with hold | hnew
    · exact h.trace entry hold
    · obtain rfl := List.mem_singleton.mp hnew
      exact ⟨hsaved ▸ h.saved, habout⟩

theorem Within.withUsage (h : f.Within start executionId) (usage : UsageFinaliser) :
    (f.reach .usageRead { f.now with usage }).Within start executionId :=
  h.reach .usageRead trivial rfl rfl

theorem Within.withEvidence (h : f.Within start executionId) (evidence : EvidenceBoundary) :
    (f.reach .evidenceTaken { f.now with evidence }).Within start executionId :=
  h.reach .evidenceTaken trivial rfl rfl

theorem Within.save (h : f.Within start executionId) (effect : Effect) (habout : effect.About executionId) :
    (f.reach effect (f.now.save f.record)).Within start executionId where
  record := h.record
  live := h.live.insert h.record
  saved := h.saved.insert h.record
  trace entry hentry := by
    rcases List.mem_append.mp hentry with hold | hnew
    · exact h.trace entry hold
    · obtain rfl := List.mem_singleton.mp hnew
      exact ⟨h.saved.insert h.record, habout⟩

theorem Within.emitAs (h : f.Within start executionId) (effect : Effect)
    (habout : effect.About executionId) (eventType : String)
    (payload : EventPayload) (force : Bool) :
    (f.emitAs effect eventType payload force).Within start executionId := by
  unfold Flight.emitAs
  have hcounted : (f.modify fun record => { record with sequence := record.sequence + 1 }).Within
      start executionId := h.modify rfl
  dsimp only
  split
  · exact ⟨h.record, h.live.insert h.record, h.saved, h.trace⟩
  · exact (hcounted.modify rfl).save _ habout

theorem Within.ended (h : f.Within start executionId) : f.ended.Within start executionId where
  live := h.live
  saved := h.saved
  trace := h.trace

theorem Within.become (h : f.Within start executionId) (state : CompletionLifecycleState) :
    (f.become state).Within start executionId := h.modify rfl

theorem Within.fail (h : f.Within start executionId) (state : CompletionLifecycleState)
    (failureClass detail : String) : (f.fail state failureClass detail).Within start executionId :=
  h.modify rfl

theorem Within.emit (h : f.Within start executionId) (eventType : String)
    (payload : List (String × Value)) : (f.emit eventType payload).Within start executionId :=
  h.emitAs .saved trivial _ _ _

theorem Within.finaliseUsage (h : f.Within start executionId) (usageFacts : List UsageFact)
    (success : Bool) :
    (f.finaliseUsage services usageFacts success).1.Within start executionId := by
  unfold Flight.finaliseUsage
  dsimp only
  split <;> dsimp only
  · exact Within.emit (Within.modify (h.withUsage _) rfl) _ _
  · exact Within.emit (Within.fail (h.withUsage _) _ _ _) _ _

theorem Within.projectResult (h : f.Within start executionId) :
    (f.projectResult services).Within start executionId := by
  unfold Flight.projectResult
  dsimp only
  split
  · exact h.reach (.projected f.record) trivial rfl rfl
  · exact Within.emit (Within.fail (h.reach (.projected f.record) trivial rfl rfl) _ _ _) _ _

theorem Within.startFinalising (h : f.Within start executionId) (success : Bool) :
    (f.startFinalising success).Within start executionId := by
  unfold Flight.startFinalising
  dsimp only
  split
  · exact (h.become _).emit _ _
  · exact h.become _

theorem Within.conclude (h : f.Within start executionId) (success : Bool) :
    (f.conclude success).Within start executionId := by
  unfold Flight.conclude
  split
  · exact Within.emit (Within.modify (h.become _) rfl) _ _
  · split
    · exact h.become _
    · exact h

theorem Within.finaliseTerminal (h : f.Within start executionId) (success : Bool)
    (usageFacts : List UsageFact) :
    (f.finaliseTerminal services success usageFacts).Within start executionId := by
  unfold Flight.finaliseTerminal
  split
  · exact h.ended
  · have hused : ((f.startFinalising success).finaliseUsage services usageFacts success).1.Within
        start executionId := (h.startFinalising success).finaliseUsage _ _
    exact (Within.save (Within.modify (Within.projectResult (hused.conclude _)) rfl) .saved trivial).ended

theorem Within.startVerification (h : f.Within start executionId) (context : CompletionContext) :
    (f.startVerification context).Within start executionId :=
  (((h.become _).emit _ _).become _).emit _ _

theorem Within.runVerification (h : f.Within start executionId) {context : CompletionContext}
    (hid : context.executionId = executionId) (result : BackendFacts) :
    (f.runVerification services context result).Within start executionId := by
  unfold Flight.runVerification
  dsimp only
  have hobserved (request : VerificationRequest) (hrequest : request.executionId = executionId) :
      (((f.startVerification context).reach (.verified request request.verify)
        (f.startVerification context).now).modify fun record =>
          { record with verification := some request.verify }).Within start executionId :=
    Within.modify ((h.startVerification context).reach (.verified request request.verify) hrequest
      rfl rfl) rfl
  split
  · exact Within.finaliseTerminal (Within.modify ((hobserved _ hid).emitAs .saved trivial _ _ _) rfl)
      _ _
  · exact Within.finaliseTerminal (Within.fail ((hobserved _ hid).emitAs .saved trivial _ _ _) _ _ _)
      _ _

theorem Within.emitEvidence (h : f.Within start executionId) (intake : EvidenceBoundary.Intake) :
    (f.emitEvidence intake).Within start executionId := by
  unfold Flight.emitEvidence
  have haccepted : (intake.accepted.foldl (fun f item => (f.modify fun record =>
      { record with evidenceIds := record.evidenceIds ++ [item.evidenceId] }).emit
        "evidence.accepted" [("evidence_id", .str item.evidenceId)]) f).Within start executionId := by
    generalize intake.accepted = accepted
    induction accepted generalizing f with
    | nil => exact h
    | cons item accepted ih => exact ih (Within.emit (Within.modify h rfl) _ _)
  revert haccepted
  generalize intake.accepted.foldl _ f = g
  generalize intake.rejected = rejected
  intro hg
  induction rejected generalizing g with
  | nil => exact hg
  | cons item rejected ih => exact ih _ (hg.emit _ _)

theorem Within.takeEvidence (h : f.Within start executionId) (context : CompletionContext)
    (candidates : List CandidateEvidence) :
    (f.takeEvidence services context candidates).1.Within start executionId :=
  Within.emitEvidence (((h.become _).emit _ _).withEvidence _) _

theorem Within.completeWithEvidence (h : f.Within start executionId) (result : BackendFacts)
    {context : CompletionContext} (hid : context.executionId = executionId) (candidates : List CandidateEvidence) :
    (f.completeWithEvidence services result context candidates).Within start executionId := by
  have htaken : (f.takeEvidence services context candidates).1.Within start executionId :=
    h.takeEvidence _ _
  unfold Flight.completeWithEvidence
  dsimp only
  split
  · exact ((htaken.fail _ _ _).emit _ _).finaliseTerminal _ _
  · exact (htaken.become _).runVerification hid _

end Within

end Flight

section Calls

variable {services : Services} {start o : Orchestrator} {trace : List Entry}
  {context : CompletionContext}

theorem ensureRecord_within (h : Ended.Within start context.executionId { outcome := none, now := o, trace })
    (backendOk restoreOk updateAttempt : Bool) :
    (ensureRecord o trace context backendOk restoreOk updateAttempt).Within start
      context.executionId := by
  unfold ensureRecord
  split
  · rename_i existing hexisting
    have hid : existing.executionId = context.executionId := h.live.keyed _ hexisting
    have hupdated : (if updateAttempt then
        { existing with backendOk, restoreOk, attemptId := context.attemptId }
        else existing).executionId = context.executionId := by
      split <;> exact hid
    exact ⟨hupdated, h.live.insert hupdated, h.saved, h.trace⟩
  · refine Flight.Within.save ?_ .saved trivial
    exact ⟨rfl, h.live, h.saved, h.trace⟩

theorem Orchestrator.Keyed.within (hkeyed : o.Keyed) (executionId : String)
    (outcome : Option CompletionOutcome) :
    Ended.Within o executionId { outcome, now := o } where
  live := (hkeyed.apart executionId).1
  saved := (hkeyed.apart executionId).2
  trace _ hentry := nomatch hentry

theorem finaliseCancelled_within
    (h : Ended.Within start context.executionId { outcome := none, now := o, trace })
    (cleanupCompleted : Bool) :
    (finaliseCancelled services o trace context cleanupCompleted).Within start
      context.executionId := by
  have hensured := ensureRecord_within h false true true
  unfold finaliseCancelled
  dsimp only
  split
  · exact hensured.ended
  · split
    · exact ((hensured.fail _ _ _).emit _ _).finaliseTerminal _ _
    · exact Flight.Within.finaliseTerminal (Flight.Within.emit (hensured.modify rfl) _ _) _ _

theorem rejectStale_within (hkeyed : o.Keyed) (context : CompletionContext)
    (reason : CompletionFailureClass) (detail : String) :
    (rejectStale o context reason detail).Within o context.executionId := by
  have hrejected := (ensureRecord_within (hkeyed.within context.executionId none) false true
    false).emitAs .saved trivial "execution.stale_attempt_rejected"
      (.items (.ofList [("attempt_id", .str context.attemptId), ("reason", .str reason.value)])) true
  unfold rejectStale
  dsimp only
  split
  · exact hrejected.ended
  · exact ⟨hrejected.live, hrejected.saved, hrejected.trace⟩

theorem completeFromBackend_within (hkeyed : o.Keyed) (result : BackendFacts)
    (context : CompletionContext) (candidates : List CandidateEvidence) (fresh : Nat → String) :
    (completeFromBackend services o result context candidates fresh).Within o
      context.executionId := by
  have hstart := hkeyed.within context.executionId none
  unfold completeFromBackend
  dsimp only
  split
  · exact hkeyed.within _ _
  · split
    · exact rejectStale_within hkeyed _ _ _
    · split
      · have hensured := ensureRecord_within hstart false false true
        exact ((hensured.fail _ _ _).emit _ _).finaliseTerminal _ _
      · have hensured := ensureRecord_within hstart result.ok true true
        have hcompleted := (hensured.become .backendCompleted).emitAs
          (.backendCompleted context) rfl "backend.completed"
          (.items (.ofList [("ok", .bool result.ok), ("message", .str result.message)])) false
        split
        · exact finaliseCancelled_within ⟨hcompleted.live, hcompleted.saved, hcompleted.trace⟩ _
        · split
          · exact ((hcompleted.fail _ _ _).emit _ _).finaliseTerminal _ _
          · exact hcompleted.completeWithEvidence _ rfl _

theorem remoteFailed_within (hkeyed : o.Keyed) (context : CompletionContext) (payload : Mapping) :
    (remoteFailed services o context payload).Within o context.executionId := by
  have hfailed := Flight.Within.emit (Flight.Within.fail (ensureRecord_within
    (hkeyed.within context.executionId none) false true true) .failed
      (orText (payload.get "failure_class") "process_failure")
      (orText (payload.get "detail") "remote execution failed")) "backend.completed"
      [("ok", .bool false), ("remote", .bool true)]
  unfold remoteFailed
  dsimp only
  split
  · exact ⟨hfailed.live, hfailed.saved, hfailed.trace⟩
  · exact hfailed.finaliseTerminal _ _

theorem remoteProgress_within (hkeyed : o.Keyed) (context : CompletionContext)
    (eventType : String) (payload : Mapping) :
    (remoteProgress o context eventType payload).Within o context.executionId := by
  have hrunning := Flight.Within.emitAs (Flight.Within.become (ensureRecord_within
    (hkeyed.within context.executionId none) false true true) .running) .saved trivial
      eventType (.items payload) false
  have hsaved : Flight.Within o context.executionId (Flight.reach _ .saved _) :=
    hrunning.save .saved trivial
  exact ⟨hsaved.live, hsaved.saved, hsaved.trace⟩

@[simp] theorem remoteContext_executionId (eventType : String) (payload : Mapping) :
    (remoteContext context eventType payload).executionId = context.executionId := by
  unfold remoteContext
  dsimp only
  split
  · rfl
  · split <;> rfl

@[simp] theorem remoteContext_authoritativeAttemptId (eventType : String) (payload : Mapping) :
    (remoteContext context eventType payload).authoritativeAttemptId =
      context.authoritativeAttemptId := by
  unfold remoteContext
  dsimp only
  split
  · rfl
  · split <;> rfl

theorem finished_eq_some_iff {executionId : String} {existing : CompletionRecord} :
    ((o.live.lookup executionId).filter fun existing =>
      existing.isTerminal && existing.terminalEmitted) = some existing ↔
      o.live.lookup executionId = some existing ∧ existing.isTerminal = true ∧
        existing.terminalEmitted = true := by
  simp [Option.filter_eq_some_iff]

theorem completeFromRemoteEvent_within (hkeyed : o.Keyed) (context : CompletionContext)
    (eventType : String) (payload : Mapping) (candidates : List CandidateEvidence)
    (fresh : Nat → String) :
    (completeFromRemoteEvent services o context eventType payload candidates fresh).Within o
      context.executionId := by
  have hstart := hkeyed.within context.executionId none
  unfold completeFromRemoteEvent
  dsimp only
  split
  · rename_i existing hexisting
    have hid := hkeyed.live _ _ (finished_eq_some_iff.mp hexisting).1
    split
    · exact (Flight.Within.emitAs ⟨hid, hstart.live, hstart.saved, hstart.trace⟩ .saved trivial _ _
        _).ended
    · exact hkeyed.within _ _
  · split
    · exact rejectStale_within hkeyed _ _ _
    · split
      · exact finaliseCancelled_within hstart _
      · split
        · exact remoteFailed_within hkeyed _ _
        · split
          · exact remoteProgress_within hkeyed _ _ _
          · split
            · exact hkeyed.within _ _
            · rename_i candidates _
              have hcompleted : (completeFromBackend services o (remoteSuccess context payload)
                  (remoteContext context eventType payload) candidates fresh).Within o
                    (remoteContext context eventType payload).executionId :=
                completeFromBackend_within hkeyed _ _ _ _
              rwa [remoteContext_executionId] at hcompleted

theorem resume_within (hkeyed : o.Keyed) (executionId : String) :
    (resume services o executionId).Within o executionId := by
  have hstart := hkeyed.within executionId none
  unfold resume
  split
  · exact hstart
  · rename_i record hrecord
    have hflight : Flight.Within o executionId { now := o, record } :=
      ⟨hkeyed.live _ _ hrecord, hstart.live, hstart.saved, hstart.trace⟩
    dsimp only
    split
    · exact hflight.ended
    · split
      · exact hflight.runVerification hflight.record _
      · split
        · exact hflight.finaliseTerminal _ _
        · exact hflight.ended

def Call.executionId : Call → String
  | backend _ context _ _ => context.executionId
  | remote context _ _ _ _ => context.executionId
  | cancelled context _ => context.executionId
  | resume executionId => executionId

variable (services) in
-- A call leaves the records of the other executions alone.
theorem Call.run_within (hkeyed : o.Keyed) (call : Call) :
    (call.run services o).Within o call.executionId := by
  cases call with
  | backend result context candidates fresh =>
      exact completeFromBackend_within hkeyed result context candidates fresh
  | remote context eventType payload candidates fresh =>
      exact completeFromRemoteEvent_within hkeyed context eventType payload candidates fresh
  | cancelled context cleanupCompleted =>
      exact finaliseCancelled_within (hkeyed.within _ _) cleanupCompleted
  | resume executionId => exact resume_within hkeyed executionId

theorem Orchestrator.Keyed.empty : ({} : Orchestrator).Keyed where
  live _ _ hrecord := nomatch hrecord
  saved _ _ hrecord := nomatch hrecord

end Calls

end JoyMesh.Completion
