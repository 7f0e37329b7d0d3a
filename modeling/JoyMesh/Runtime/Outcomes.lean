import JoyMesh.Runtime.Course

namespace JoyMesh.Runtime

open Library Routing Completion

section Completion

def backendFacts (result : ExecutionResult) : BackendFacts where
  ok := result.ok
  executionId := result.executionId
  backendId := result.backendId
  harnessId := result.harnessId
  message := result.message
  output := result.output
  failureClass := result.failureClass
  usage := result.usage
  evidenceRefs := result.evidenceRefs
  verification := result.verification
  restoreStatus := result.restoreStatus

-- The attempt that the completion is for is the one that counts.
def completionContext (routed : Routed) (result : ExecutionResult) : CompletionContext :=
  let task := routed.task
  let attemptId := match result.attempts.getLast? with
    | some attempt => attempt.attemptId
    | none => "execution_attempt_" ++ (task.executionId.filter (· ≠ "")).getD task.taskId
  { organisationId := none
    projectId := some task.workspaceId
    missionId := (task.missionId.filter (· ≠ "")).getD task.taskId
    executionId := result.executionId
    attemptId := attemptId
    authoritativeAttemptId := attemptId
    backendId := result.backendId
    harnessId := some result.harnessId
    verificationStrategy := "backend_success_with_evidence" }

-- The verdict of the orchestrator, which has no record of the execution yet. A result that is
-- returned as leased is not put before it.
def Verified (services : Services) (routed : Routed) (result : ExecutionResult)
    (verdict : CompletionVerdict) : Prop :=
  routed.decision.selectedBackendId = "joymesh" ∧ result.ok = true ∨
    ∃ (o : Orchestrator) (fresh : Nat → String) (outcome : CompletionOutcome),
      o.live.lookup result.executionId = none ∧
        (completeFromBackend services o (backendFacts result) (completionContext routed result) []
          fresh).outcome = some outcome ∧
        verdict = verdictOf outcome

variable {services : Services} {routed : Routed} {result : ExecutionResult}
  {verdict : CompletionVerdict}

theorem failure_not_completed {o : Orchestrator} {facts : BackendFacts}
    {context : CompletionContext} {candidates : List CandidateEvidence} {fresh : Nat → String}
    {outcome : CompletionOutcome} (hnew : o.live.lookup context.executionId = none)
    (hattempt : context.attemptId = context.authoritativeAttemptId)
    (hgoing : context.cancelled = false) (hok : facts.ok = false)
    (h : (completeFromBackend services o facts context candidates fresh).outcome = some outcome) :
    outcome.state ≠ .completed := by
  intro hcompleted
  have hsuccess : false = true := by
    unfold completeFromBackend at h
    simp only [hnew, Option.filter_none, hattempt, ne_eq, not_true_eq_false, if_false, hok,
      hgoing, Bool.false_eq_true, not_false_eq_true, if_true] at h
    split at h
    · exact (Flight.finaliseTerminal_completed (by simp [Flight.emit, ensureRecord, hnew])
        (by simp [Flight.emit, ensureRecord, hnew]) h hcompleted).1
    · exact (Flight.finaliseTerminal_completed (by simp [Flight.emit, ensureRecord, hnew])
        (by simp [Flight.emit, ensureRecord, hnew]) h hcompleted).1
  exact Bool.false_ne_true hsuccess

theorem Verified.not_completed (h : Verified services routed result verdict)
    (hok : result.ok = false) : verdict.state ≠ .completed := by
  rcases h with ⟨-, hsucceeded⟩ | ⟨o, fresh, outcome, hnew, houtcome, rfl⟩
  · rw [hok] at hsucceeded
    cases hsucceeded
  · exact failure_not_completed hnew rfl rfl hok houtcome

end Completion

section Agreement

-- The stored record agrees with the last backend that ran: a task with a lease is leased, one
-- without an eligible node is queued, and a run after the remote one is completed and verified
-- rather than returned as leased.
structure Agrees (course : Course) (ending : Ending) (stored : Option RuntimeTaskRecord) : Prop where
  leased : course.leased = true → ∃ task, stored = some task ∧ task.status = .leased
  queued : course.unplaced = true → course.leased = false → course.others = [] →
    ∃ task, stored = some task ∧ task.status = .queued
  verified : ending.returned = true → course.submitted = true → course.since ≠ [] →
    ∃ done, ending.completion = some done ∧ course.since.getLast? = some done.result.ok ∧
      stored = some (finalRecord done.routed done.result done.verdict)

-- The lease was acquired for the selected backend and nothing was raised after it, a failure
-- without an eligible node says that something is offline, and no other backend succeeds in
-- place of a selected remote one. A call that raises has only to have saved its lease.
structure Straight (course : Course) (ending : Ending) : Prop where
  leased : course.leased = true →
    if ending.returned = true then course.selected = "joymesh" ∧ course.held = true
    else course.recorded = true
  queued : ending.returned = true → course.unplaced = true → course.leased = false →
    course.others = [] → offline course.text = true
  verified : ending.returned = true → course.submitted = true →
    course.since.getLast? = some true → course.selected ≠ "joymesh"

-- No part of the text before a failure's own text is a part of the word.
theorem offline_concluded (text : String) :
    offline ("all backends failed or unavailable: " ++ text) = offline text := by
  have hinfix : "offline".toList <:+: ("all backends failed or unavailable: " ++ text).toList ↔
      "offline".toList <:+: text.toList := by
    rw [String.toList_append, List.infix_append_iff_ne_nil]
    constructor
    · rintro (hbefore | hafter | ⟨first, second, hne, -, heq, hsuffix, -⟩)
      · exact absurd hbefore (by decide)
      · exact hafter
      · have hspace : ' ' ∈ first := by
          obtain ⟨front, hfront⟩ := hsuffix
          have hlast : (front ++ first).getLast? = some ' ' := by rw [hfront]; decide
          rw [List.getLast?_append_of_ne_nil _ hne] at hlast
          exact List.mem_of_getLast? hlast
        exact absurd (heq ▸ List.mem_append_left second hspace) (by decide)
    · exact fun h => .inr (.inl h)
  unfold offline
  exact decide_eq_decide.mpr hinfix

end Agreement

section Stages

-- What the record in the store says while the call goes on.
structure Standing (stored : Option RuntimeTaskRecord) (course : Course) : Prop where
  kept : ∃ task, stored = some task ∧ (course.recorded = true ↔ task.status = .leased) ∧
    (course.unplaced = true → course.leased = false → task.status = .queued)
  lease : course.held = true → course.leased = true
  remote : course.leased = true ∨ course.unplaced = true → course.submitted = true
  ran : course.since ≠ [] → course.others ≠ []

-- Nothing has been tried yet.
structure Course.Fresh (course : Course) : Prop where
  submitted : course.submitted = false
  held : course.held = false
  since : course.since = []
  text : course.text = "no backend attempted"

-- The loop goes on because nothing has succeeded.
structure Losing (routed : Routed) (course : Course) : Prop where
  selected : routed.decision.selectedBackendId = course.selected
  free : course.held = false
  failing : course.since.getLast? ≠ some true

-- The remote backend is under way.
structure Remote (turn : BackendTurn) (course : Course) : Prop where
  selected : turn.routed.decision.selectedBackendId = course.selected
  submitted : course.submitted = true
  since : course.since = []

structure Concluding (routed : Routed) (result : ExecutionResult) (course : Course) : Prop where
  selected : routed.decision.selectedBackendId = course.selected
  since : course.since ≠ [] → course.since.getLast? = some result.ok ∧ course.held = false
  held : course.submitted = true → course.since = [] → result.ok = course.held
  recorded : course.held = true → course.recorded = true
  failure : course.submitted = true → result.ok = false →
    submissionStatus result = .none ∧ offline result.message = offline course.text

def Stage (taskId : String) (course : Course) : Call → Prop
  | .routing id => id = taskId ∧ course.Fresh
  | .selecting task _ =>
      task.taskId = taskId ∧ course.Fresh ∧ (course.recorded = true ↔ task.status = .leased)
  | .selected routed =>
      routed.task.taskId = taskId ∧ course.Fresh ∧
        routed.decision.selectedBackendId = course.selected ∧
        (course.recorded = true ↔ routed.task.status = .leased)
  | .handing routed =>
      routed.task.taskId = taskId ∧ course.Fresh ∧
        routed.decision.selectedBackendId = course.selected
  | .working routed _ =>
      routed.task.taskId = taskId ∧ course.Fresh ∧
        routed.decision.selectedBackendId = course.selected
  | .trying routed p _ =>
      routed.task.taskId = taskId ∧ Losing routed course ∧ p.lastError = course.text
  | .preparing turn =>
      turn.routed.task.taskId = taskId ∧ Losing turn.routed course ∧
        turn.progress.lastError = course.text
  | .submitting turn fresh _ =>
      turn.routed.task.taskId = taskId ∧ fresh.taskId = taskId ∧ Remote turn course ∧
        course.held = false ∧ turn.backendId = "joymesh"
  | .granted turn fresh _ _ =>
      turn.routed.task.taskId = taskId ∧ fresh.taskId = taskId ∧ Remote turn course ∧
        course.held = true
  | .recorded turn fresh _ =>
      turn.routed.task.taskId = taskId ∧ fresh.taskId = taskId ∧ Remote turn course ∧
        course.held = true
  | .remote turn submission =>
      turn.routed.task.taskId = taskId ∧ Remote turn course ∧
        (submission.status = "leased" ∧ course.held = true ∧ course.recorded = true ∨
          submission.status = "queued" ∧ course.held = false)
  | .executing turn =>
      turn.routed.task.taskId = taskId ∧ Losing turn.routed course
  | .completing routed result =>
      routed.task.taskId = taskId ∧ Concluding routed result course
  | _ => False

-- The record in the store and the place of the call follow the course.
def Follows (taskId : String) (stored : Option RuntimeTaskRecord) (course : Course)
    (ending : Ending) : Option Call → Prop
  | some call => Standing stored course ∧ Stage taskId course call
  | none => Agrees course ending stored ↔ Straight course ending

variable {taskId : String} {stored : Option RuntimeTaskRecord} {course : Course} {ending : Ending}
  {routed : Routed} {result : ExecutionResult} {verdict : CompletionVerdict} {p : Progress}
  {intent : ExecutionIntent} {decision : ExecutionDecision} {backendId : String}
  {turn : Routing.Turn} {ended : TurnEnd × Progress} {rest : List String}

-- A call that raises saves nothing more.
theorem Standing.raised (h : Standing stored course) (hraised : ending.returned = false) :
    Agrees course ending stored ↔ Straight course ending := by
  obtain ⟨task, hstored, hrecorded, hqueued⟩ := h.kept
  have hnot (hreturned : ending.returned = true) : False := by
    rw [hraised] at hreturned
    cases hreturned
  constructor
  · intro hagrees
    refine ⟨fun hleased => ?_, fun hreturned => (hnot hreturned).elim,
      fun hreturned => (hnot hreturned).elim⟩
    obtain ⟨found, hfound, hstatus⟩ := hagrees.leased hleased
    obtain rfl := Option.some.inj (hstored.symm.trans hfound)
    rw [if_neg hnot]
    exact hrecorded.mpr hstatus
  · intro hstraight
    refine ⟨fun hleased => ?_, fun hunplaced hleased _ => ⟨task, hstored, hqueued hunplaced hleased⟩,
      fun hreturned => (hnot hreturned).elim⟩
    have hcond := hstraight.leased hleased
    rw [if_neg hnot] at hcond
    exact ⟨task, hstored, hrecorded.mp hcond⟩

theorem submissionStatus_empty (h : result.output = ∅) : submissionStatus result = .none := by
  unfold submissionStatus
  rw [h]
  rfl

-- What a loop without a success concludes.
theorem Losing.concludes (h : Losing routed course) (hok : result.ok = false)
    (houtput : result.output = ∅) (hmessage : offline result.message = offline course.text) :
    Concluding routed result course where
  selected := h.selected
  since hsince := by
    refine ⟨?_, h.free⟩
    cases hlast : course.since.getLast? with
    | none => exact absurd (List.getLast?_eq_none_iff.mp hlast) hsince
    | some last =>
        cases last with
        | true => exact absurd hlast h.failing
        | false => rw [hok]
  held _ _ := hok.trans h.free.symm
  recorded hheld := by
    rw [h.free] at hheld
    cases hheld
  failure _ _ := ⟨submissionStatus_empty houtput, hmessage⟩

-- What a backend's round that does not succeed tells the loop.
def Tells (text : String) : TurnEnd × Progress → Prop
  | (.finish (.returned result), _) =>
      result.ok = false ∧ result.output = ∅ ∧ offline result.message = offline text
  | (.finish _, _) => True
  | (_, p) => p.lastError = text

theorem fallBack_tells {reason text : String} {failure : ExecutionFailureClass}
    (h : p.lastError = text) :
    Tells text (fallBack intent decision p backendId reason failure) := by
  unfold fallBack
  split
  · exact h
  · exact h

theorem openTurn_tells (h : openTurn intent decision p backendId turn = .inl ended) :
    Tells ((openingText intent backendId turn).getD p.lastError) ended := by
  unfold openTurn at h
  unfold openingText
  split at h
  next hcancelled =>
    obtain rfl := Sum.inl.inj h
    rw [if_pos hcancelled]
    exact ⟨rfl, rfl, rfl⟩
  next hgoing =>
    rw [if_neg hgoing]
    cases hallowed : enforceEntitlements turn.entitlements intent (some backendId) with
    | error error =>
        simp only [hallowed] at h
        obtain rfl := Sum.inl.inj h
        exact ⟨rfl, rfl, rfl⟩
    | ok allowed =>
        simp only [hallowed] at h
        cases hregistered : turn.registered with
        | error text =>
            simp only [hregistered] at h
            obtain rfl := Sum.inl.inj h
            rfl
        | ok registered =>
            simp only [hregistered] at h
            cases hhealth : turn.health with
            | aborted error | raised error =>
                simp only [hhealth] at h
                obtain rfl := Sum.inl.inj h
                trivial
            | returned health =>
                simp only [hhealth] at h
                split at h
                next hunhealthy =>
                  obtain rfl := Sum.inl.inj h
                  simp only [if_pos hunhealthy]
                  exact fallBack_tells rfl
                next hhealthy =>
                  simp only [if_neg hhealthy]
                  cases hsupports : turn.supports with
                  | aborted error | raised error =>
                      simp only [hsupports] at h
                      obtain rfl := Sum.inl.inj h
                      trivial
                  | returned supported =>
                      cases supported with
                      | false =>
                          simp only [hsupports] at h
                          obtain rfl := Sum.inl.inj h
                          rfl
                      | true =>
                          simp only [hsupports] at h
                          cases h

-- A round that is gone through up to the try block leaves the failure of the loop.
theorem openTurn_opens {q : Progress} {attempt : ExecutionAttemptRecord}
    (h : openTurn intent decision p backendId turn = .inr (q, attempt)) :
    openingText intent backendId turn = none ∧ q.lastError = p.lastError := by
  unfold openTurn at h
  unfold openingText
  split at h
  next => cases h
  next hgoing =>
    rw [if_neg hgoing]
    cases hallowed : enforceEntitlements turn.entitlements intent (some backendId) with
    | error error =>
        simp only [hallowed] at h
        cases h
    | ok allowed =>
        simp only [hallowed] at h
        cases hregistered : turn.registered with
        | error text =>
            simp only [hregistered] at h
            cases h
        | ok registered =>
            simp only [hregistered] at h
            cases hhealth : turn.health with
            | aborted error | raised error =>
                simp only [hhealth] at h
                cases h
            | returned health =>
                simp only [hhealth] at h
                split at h
                next => cases h
                next hhealthy =>
                  simp only [if_neg hhealthy]
                  cases hsupports : turn.supports with
                  | aborted error | raised error =>
                      simp only [hsupports] at h
                      cases h
                  | returned supported =>
                      cases supported with
                      | false =>
                          simp only [hsupports] at h
                          cases h
                      | true =>
                          simp only [hsupports] at h
                          obtain ⟨rfl, -⟩ := Prod.mk.inj (Sum.inr.inj h)
                          exact ⟨rfl, rfl⟩

theorem afterTurn_saved :
    (afterTurn routed rest ended).saved = none ∧
      (afterTurn routed rest ended).answer.any Except.isOk = false := by
  obtain ⟨ended, p⟩ := ended
  rcases ended with (_ | _ | _) | _ | _ <;> exact ⟨rfl, rfl⟩

-- After a round without a success the loop goes on, or the call concludes or raises.
theorem Losing.afterTurn (h : Losing routed course) (hstanding : Standing stored course)
    (hid : routed.task.taskId = taskId) (htells : Tells course.text ended)
    (hraised : ending.returned = false) :
    Follows taskId stored course ending (afterTurn routed rest ended).next := by
  obtain ⟨ended, p⟩ := ended
  cases ended with
  | finish outcome =>
      cases outcome with
      | returned result =>
          obtain ⟨hok, houtput, hmessage⟩ := htells
          exact ⟨hstanding, hid, h.concludes hok houtput hmessage⟩
      | raised error => exact hstanding.raised hraised
      | aborted error => exact hstanding.raised hraised
  | stop =>
      have hp : p.lastError = course.text := htells
      exact ⟨hstanding, hid, h.concludes rfl rfl (by rw [concluded, offline_concluded, hp])⟩
  | next => exact ⟨hstanding, hid, h, htells⟩

end Stages

section Rounds

variable {taskId : String} {stored : Option RuntimeTaskRecord} {course : Course} {ending : Ending}
  {turn : BackendTurn} {error : PyError} {outcome : Outcome BackendResult}

theorem Tells.called {text : String} {ended : TurnEnd × Progress} (h : Tells text ended)
    (call : BackendCall) : Tells text (ended.1, ended.2.called call) := by
  obtain ⟨ended, p⟩ := ended
  cases ended with
  | finish outcome =>
      cases outcome with
      | returned result => exact h
      | raised error => trivial
      | aborted error => trivial
  | stop => exact h
  | next => exact h

theorem fail_follows (h : Losing turn.routed course) (hstanding : Standing stored course)
    (hid : turn.routed.task.taskId = taskId) (htext : course.text = error.text)
    (hraised : ending.returned = false) :
    Follows taskId stored course ending (turn.fail error).next := by
  have htells : Tells course.text (prepareFailed turn.routed.intent turn.routed.decision
      turn.progress turn.attempt turn.backendId error) := fallBack_tells htext.symm
  exact h.afterTurn hstanding hid (htells.called _) hraised

theorem fail_saved : (turn.fail error).saved = none ∧
    (turn.fail error).answer.any Except.isOk = false :=
  afterTurn_saved

-- A backend that fails lets the loop go on, one that succeeds ends it.
theorem execute_follows (hstanding : Standing stored course)
    (hid : turn.routed.task.taskId = taskId)
    (hselected : turn.routed.decision.selectedBackendId = course.selected)
    (htext : course.text = outcomeText outcome)
    (hfailed : succeeded outcome = false → Losing turn.routed course)
    (hsucceeded : succeeded outcome = true →
      (course.since ≠ [] → course.since.getLast? = some true ∧ course.held = false) ∧
        (course.submitted = true → course.since = [] → course.held = true) ∧
        (course.held = true → course.recorded = true)) (hraised : ending.returned = false) :
    Follows taskId stored course ending (turn.execute outcome).next := by
  cases outcome with
  | aborted error => exact hstanding.raised hraised
  | raised error =>
      have hlosing : Losing (turn.called (.execute turn.backendId (.raised error))).routed course :=
        hfailed rfl
      exact fail_follows hlosing hstanding hid htext hraised
  | returned result =>
      cases hok : result.ok with
      | false =>
          have htells : Tells course.text (Routing.executed turn.routed.intent turn.routed.decision
              (turn.called (.execute turn.backendId (.returned result))).progress turn.attempt
              turn.backendId result) := by
            unfold Routing.executed
            simp only [hok, Bool.false_eq_true, if_false]
            exact fallBack_tells htext.symm
          exact (hfailed hok).afterTurn hstanding hid (htells.called _) hraised
      | true =>
          obtain ⟨hsince, hheld, hrecorded⟩ := hsucceeded hok
          have hends : ∃ done, done.ok = true ∧ turn.execute (.returned result) =
              { next := some (.completing turn.routed done) } := by
            unfold BackendTurn.execute
            dsimp only [BackendTurn.finish, BackendTurn.leave, Routing.executed]
            simp only [hok, if_true]
            exact ⟨_, rfl, rfl⟩
          obtain ⟨done, hdone, heffect⟩ := hends
          rw [heffect]
          refine ⟨hstanding, hid, hselected, fun hne => ?_, fun hsubmitted hnil => ?_, hrecorded,
            fun _ hfailure => ?_⟩
          · rw [hdone]
            exact hsince hne
          · rw [hdone, hheld hsubmitted hnil]
          · rw [hdone] at hfailure
            cases hfailure

theorem execute_saved : (turn.execute outcome).saved = none ∧
    (turn.execute outcome).answer.any Except.isOk = false := by
  cases outcome with
  | aborted error => exact ⟨rfl, rfl⟩
  | raised error => exact afterTurn_saved
  | returned result => exact afterTurn_saved

end Rounds

section Endings

variable {services : Services} {s : RuntimeService} {taskId : String} {course : Course}
  {routed : Routed} {result : ExecutionResult} {verdict : CompletionVerdict}

theorem finalRecord_not_leased : (finalRecord routed result verdict).status ≠ .leased := by
  unfold finalRecord
  dsimp only
  split_ifs <;> exact fun h => by cases h

-- A failure is saved as queued exactly when its message says that something is offline.
theorem finalRecord_queued (hok : result.ok = false) (hverdict : verdict.state ≠ .completed)
    (hsubmission : submissionStatus result = .none) :
    (finalRecord routed result verdict).status = .queued ↔ offline result.message = true := by
  have hnot : ¬ (verdict.ok = true ∧ verdict.state = .completed) := fun h => hverdict h.2
  unfold finalRecord
  cases hoffline : offline result.message with
  | true => simp [hnot, hok]
  | false =>
      simp only [hnot, hsubmission, if_false, and_false, or_false, reduceCtorEq,
        Bool.false_eq_true]
      split_ifs <;> simp

-- The end of a call with a result: returned as leased, or completed and saved.
theorem complete_follows (hstanding : Standing (s.tasks.lookup taskId) course)
    (hid : routed.task.taskId = taskId) (h : Concluding routed result course)
    (hverified : Verified services routed result verdict) :
    let effect := s.complete routed result verdict
    let ending := effect.ending (.completing routed result) (.completed verdict)
    Agrees course ending (effect.saved.or (s.tasks.lookup taskId)) ↔ Straight course ending := by
  obtain ⟨task, hstored, hrecorded, -⟩ := hstanding.kept
  by_cases hreturns : routed.decision.selectedBackendId = "joymesh" ∧ result.ok = true
  · obtain ⟨hjoymesh, hok⟩ := hreturns
    have heffect : s.complete routed result verdict = { answer := some (.ok task) } := by
      unfold RuntimeService.complete RuntimeService.withTask
      rw [if_pos ⟨hjoymesh, hok⟩, hid, hstored]
    have hselected : course.selected = "joymesh" := h.selected ▸ hjoymesh
    -- without a run after the remote one the lease is held
    have hheld (hsubmitted : course.submitted = true) (hnil : course.since = []) :
        course.held = true := (h.held hsubmitted hnil).symm.trans hok
    dsimp only
    rw [heffect, hstored]
    constructor
    · intro hagrees
      have hnil (hsubmitted : course.submitted = true) : course.since = [] := by
        by_contra hsince
        obtain ⟨done, hdone, -⟩ := hagrees.verified rfl hsubmitted hsince
        cases hdone
      refine ⟨fun hleased => ?_, fun _ hunplaced hleased _ => ?_, fun _ hsubmitted hlast => ?_⟩
      · have hsubmitted := hstanding.remote (.inl hleased)
        exact ⟨hselected, hheld hsubmitted (hnil hsubmitted)⟩
      · have hsubmitted := hstanding.remote (.inr hunplaced)
        have hlease := hstanding.lease (hheld hsubmitted (hnil hsubmitted))
        exact absurd hlease (by simp [hleased])
      · rw [hnil hsubmitted] at hlast
        cases hlast
    · intro hstraight
      have hnil (hsubmitted : course.submitted = true) : course.since = [] := by
        by_contra hsince
        exact hstraight.verified rfl hsubmitted (hok ▸ (h.since hsince).1) hselected
      refine ⟨fun hleased => ?_, fun hunplaced hleased _ => ?_, fun _ hsubmitted hsince => ?_⟩
      · have hheld : course.held = true := (hstraight.leased hleased).2
        exact ⟨task, rfl, hrecorded.mp (h.recorded hheld)⟩
      · have hsubmitted := hstanding.remote (.inr hunplaced)
        have hlease := hstanding.lease (hheld hsubmitted (hnil hsubmitted))
        exact absurd hlease (by simp [hleased])
      · exact absurd (hnil hsubmitted) hsince
  · have heffect : s.complete routed result verdict =
        { saved := some (finalRecord routed result verdict)
          answer := some (.ok (finalRecord routed result verdict)) } := by
      unfold RuntimeService.complete
      rw [if_neg hreturns]
    have hfailure (hunplaced : course.unplaced = true) (hleased : course.leased = false)
        (hothers : course.others = []) :
        (finalRecord routed result verdict).status = .queued ↔ offline course.text = true := by
      have hsubmitted := hstanding.remote (.inr hunplaced)
      have hnil : course.since = [] := by
        by_contra hsince
        exact hstanding.ran hsince hothers
      have hok : result.ok = false := by
        rw [h.held hsubmitted hnil]
        cases hheld : course.held with
        | false => rfl
        | true => exact absurd (hstanding.lease hheld) (by simp [hleased])
      obtain ⟨hsubmission, hmessage⟩ := h.failure hsubmitted hok
      rw [finalRecord_queued hok (hverified.not_completed hok) hsubmission, hmessage]
    dsimp only
    rw [heffect]
    constructor
    · intro hagrees
      refine ⟨fun hleased => ?_, fun _ hunplaced hleased hothers => ?_,
        fun _ _ hlast hselected => ?_⟩
      · obtain ⟨found, hfound, hstatus⟩ := hagrees.leased hleased
        obtain rfl := Option.some.inj hfound
        exact absurd hstatus finalRecord_not_leased
      · obtain ⟨found, hfound, hstatus⟩ := hagrees.queued hunplaced hleased hothers
        obtain rfl := Option.some.inj hfound
        exact (hfailure hunplaced hleased hothers).mp hstatus
      · have hsince : course.since ≠ [] := fun hnil => by rw [hnil] at hlast; cases hlast
        have hok : some result.ok = some true := (h.since hsince).1.symm.trans hlast
        exact hreturns ⟨h.selected.trans hselected, Option.some.inj hok⟩
    · intro hstraight
      refine ⟨fun hleased => ?_, fun hunplaced hleased hothers => ?_,
        fun _ _ hsince => ⟨_, rfl, (h.since hsince).1, rfl⟩⟩
      · obtain ⟨hselected, hheld⟩ : course.selected = "joymesh" ∧ course.held = true :=
          hstraight.leased hleased
        have hnil : course.since = [] := by
          by_contra hsince
          rw [(h.since hsince).2] at hheld
          cases hheld
        have hok := h.held (hstanding.remote (.inl hleased)) hnil
        exact absurd ⟨h.selected.trans hselected, hok.trans hheld⟩ hreturns
      · exact ⟨_, rfl, (hfailure hunplaced hleased hothers).mpr
          (hstraight.queued rfl hunplaced hleased hothers)⟩

end Endings

section Steps

variable {s : RuntimeService} {taskId : String} {stored : Option RuntimeTaskRecord}
  {course : Course} {ending : Ending} {routed : Routed} {e : Effect}
  {outcome : Outcome BackendResult} {leaseId attemptId : String} {stamp : Time} {call : Call}
  {input : Input}

theorem Standing.fails (h : Standing stored course) (text : String) :
    Standing stored (course.fails text) :=
  ⟨h.kept, h.lease, h.remote, h.ran⟩

theorem Standing.loses (h : Standing stored course) (error : PyError) :
    Standing stored (course.loses error) :=
  ⟨h.kept, fun hheld => (by cases hheld), h.remote, h.ran⟩

theorem Standing.runs (h : Standing stored course) (outcome : Outcome BackendResult) :
    Standing stored (course.runs outcome) :=
  ⟨h.kept, h.lease, h.remote, fun _ hothers => by simp [Course.runs] at hothers⟩

theorem Losing.fails (h : Losing routed course) (text : String) :
    Losing routed (course.fails text) :=
  ⟨h.selected, h.free, h.failing⟩

-- A run without the remote backend concludes with whatever it has.
theorem concluding_local {result : ExecutionResult}
    (hselected : routed.decision.selectedBackendId = course.selected)
    (hsubmitted : course.submitted = false) (hheld : course.held = false)
    (hsince : course.since = []) : Concluding routed result course where
  selected := hselected
  since hne := absurd hsince hne
  held h := by rw [hsubmitted] at h; cases h
  recorded h := by rw [hheld] at h; cases h
  failure h := by rw [hsubmitted] at h; cases h

theorem handOver_follows (hstanding : Standing stored course) (hid : routed.task.taskId = taskId)
    (hfresh : course.Fresh) (hselected : routed.decision.selectedBackendId = course.selected) :
    let effect := s.handOver routed leaseId attemptId stamp
    Follows taskId (effect.saved.or stored) course (effect.ending call input) effect.next := by
  dsimp only
  unfold RuntimeService.handOver
  split
  · unfold RuntimeService.startWorker
    dsimp only
    split
    · exact ⟨hstanding, hid, concluding_local hselected hfresh.submitted hfresh.held hfresh.since⟩
    · split
      · exact ⟨hstanding, hid, hfresh, hselected⟩
      · exact hstanding.raised rfl
      · exact hstanding.raised rfl
  · refine ⟨hstanding, hid, ⟨hselected, hfresh.held, ?_⟩, hfresh.text.symm⟩
    rw [hfresh.since]
    exact fun hlast => by cases hlast

theorem beat_follows (hstanding : Standing stored course) (hid : routed.task.taskId = taskId)
    (hfresh : course.Fresh) (hselected : routed.decision.selectedBackendId = course.selected)
    {lease : TaskLease} :
    let effect := s.beat routed lease stamp
    Follows taskId (effect.saved.or stored) course (effect.ending call input) effect.next := by
  dsimp only
  unfold RuntimeService.beat
  dsimp only
  split
  · exact ⟨hstanding, hid, hfresh, hselected⟩
  · exact ⟨hstanding, hid, concluding_local hselected hfresh.submitted hfresh.held hfresh.since⟩

-- A backend's turn begins: the course has the failure that the turn meets before the try block.
theorem openBackend_follows (hstanding : Standing stored course) (hid : routed.task.taskId = taskId)
    (hlosing : Losing routed course) {p : Progress} (htext : p.lastError = course.text)
    {backendId : String} {rest : List String} {turn : Routing.Turn} :
    let effect := RuntimeService.openBackend routed p backendId rest turn
    Follows taskId (effect.saved.or stored)
      (course.fails ((openingText routed.intent backendId turn).getD course.text))
      (effect.ending call input) effect.next := by
  dsimp only
  unfold RuntimeService.openBackend
  split
  next ended hopened =>
    have htells := openTurn_tells hopened
    have hplain : (afterTurn routed rest ended).saved = none ∧
        (afterTurn routed rest ended).answer.any Except.isOk = false := afterTurn_saved
    obtain ⟨hsaved, hanswer⟩ := hplain
    rw [hsaved, Option.none_or]
    exact (hlosing.fails _).afterTurn (hstanding.fails _) hid (htext ▸ htells) hanswer
  next q attempt hopened =>
    obtain ⟨hnone, hq⟩ := openTurn_opens hopened
    rw [hnone]
    exact ⟨hstanding.fails _, hid, hlosing.fails _, hq.trans htext⟩

-- The submission reads the record of the task and asks for a lease.
theorem submitted_follows (hstanding : Standing stored course) {turn : BackendTurn}
    {fresh : RuntimeTaskRecord} {candidates : List RouteCandidate}
    (hstage : Stage taskId course (.submitting turn fresh candidates)) :
    let effect := s.submitted turn fresh candidates leaseId attemptId stamp
    Follows taskId (effect.saved.or stored)
      (course.submits candidates (Course.acquisition s fresh candidates leaseId attemptId stamp))
      (effect.ending call input) effect.next := by
  obtain ⟨hid, hfresh, hremote, hfree, -⟩ := hstage
  obtain ⟨task, hstored, hrecorded, hqueued⟩ := hstanding.kept
  have hlosing : Losing turn.routed course :=
    ⟨hremote.selected, hfree, by rw [hremote.since]; exact fun hlast => by cases hlast⟩
  have hfound : candidates.any (·.eligible) = (candidates.find? (·.eligible)).isSome := by
    rw [Bool.eq_iff_iff, List.find?_isSome, List.any_eq_true]
  dsimp only
  unfold RuntimeService.submitted Course.submits Course.acquisition
  cases hcandidate : candidates.find? (·.eligible) with
  | none =>
      rw [hfound, hcandidate]
      refine ⟨⟨⟨_, rfl, iff_of_false (by simp) (by simp [Routed.queuedRemotely]), fun _ _ => rfl⟩,
        hstanding.lease, fun _ => hremote.submitted, hstanding.ran⟩, hid,
        ⟨hremote.selected, hremote.submitted, hremote.since⟩, .inr ⟨rfl, hfree⟩⟩
  | some candidate =>
      rw [hfound, hcandidate]
      dsimp only [Option.isSome_some, if_true]
      have hleased : Standing stored { course with leased := true, held := true } :=
        ⟨⟨task, hstored, hrecorded, fun _ h => by cases h⟩, fun _ => rfl,
          fun _ => hremote.submitted, hstanding.ran⟩
      split
      next lease hanswer =>
        simp only [hanswer]
        exact ⟨hleased, hid, hfresh, ⟨hremote.selected, hremote.submitted, hremote.since⟩, rfl⟩
      next hanswer =>
        simp only [hanswer]
        exact hleased.raised rfl
      next refusal hanswer =>
        simp only [hanswer]
        have hplain : (turn.fail refusal.error).saved = none ∧
            (turn.fail refusal.error).answer.any Except.isOk = false := fail_saved
        rw [hplain.1, Option.none_or]
        exact fail_follows (hlosing.fails _) (hstanding.fails _) hid rfl hplain.2

theorem Remote.failing {turn : BackendTurn} (h : Remote turn course) :
    course.since.getLast? ≠ some true := by
  rw [h.since]
  exact fun hlast => by cases hlast

-- An exception within the try block of a backend.
theorem loses_follows (hstanding : Standing stored course) {turn : BackendTurn}
    (hid : turn.routed.task.taskId = taskId)
    (hselected : turn.routed.decision.selectedBackendId = course.selected)
    (hfailing : course.since.getLast? ≠ some true) {error : PyError} :
    Follows taskId ((turn.fail error).saved.or stored) (course.loses error)
      ((turn.fail error).ending call input) (turn.fail error).next := by
  have hplain : (turn.fail error).saved = none ∧
      (turn.fail error).answer.any Except.isOk = false := fail_saved
  have hlosing : Losing turn.routed (course.loses error) := ⟨hselected, rfl, hfailing⟩
  rw [hplain.1, Option.none_or]
  exact fail_follows hlosing (hstanding.loses error) hid rfl hplain.2

theorem Losing.runs (h : Losing routed course) (hfailed : succeeded outcome = false) :
    Losing routed (course.runs outcome) where
  selected := h.selected
  free := h.free
  failing := by
    have hlast : (course.runs outcome).since.getLast? = some (succeeded outcome) :=
      List.getLast?_concat
    rw [hlast, hfailed]
    exact fun h => by cases h

-- The execution of another backend, whatever comes of it.
theorem runs_follows (hstanding : Standing stored course) {turn : BackendTurn}
    (hid : turn.routed.task.taskId = taskId) (hlosing : Losing turn.routed course) :
    Follows taskId ((turn.execute outcome).saved.or stored) (course.runs outcome)
      ((turn.execute outcome).ending call input) (turn.execute outcome).next := by
  have hplain : (turn.execute outcome).saved = none ∧
      (turn.execute outcome).answer.any Except.isOk = false := execute_saved
  have hlast : (course.runs outcome).since.getLast? = some (succeeded outcome) :=
    List.getLast?_concat
  rw [hplain.1, Option.none_or]
  refine execute_follows (hstanding.runs outcome) hid hlosing.selected rfl hlosing.runs
    (fun hsucceeded => ?_) hplain.2
  refine ⟨fun _ => ⟨hsucceeded ▸ hlast, hlosing.free⟩, fun _ hnil => ?_, fun hheld => ?_⟩
  · rw [hnil] at hlast
    cases hlast
  · have hfree : (course.runs outcome).held = false := hlosing.free
    rw [hfree] at hheld
    cases hheld

-- The remote backend executes what was submitted in its preparation.
theorem remote_follows (hstanding : Standing stored course) {turn : BackendTurn}
    {submission : Submission} (hstage : Stage taskId course (.remote turn submission)) :
    let effect := turn.ready.execute (.returned (joymeshResult submission))
    Follows taskId (effect.saved.or stored) (course.fails (joymeshResult submission).message)
      (effect.ending call input) effect.next := by
  obtain ⟨hid, hremote, hsubmission⟩ := hstage
  have hplain : (turn.ready.execute (.returned (joymeshResult submission))).saved = none ∧
      (turn.ready.execute (.returned (joymeshResult submission))).answer.any Except.isOk = false :=
    execute_saved
  dsimp only
  rw [hplain.1, Option.none_or]
  refine execute_follows (hstanding.fails _) hid hremote.selected rfl (fun hfailed => ?_)
    (fun hsucceeded => ?_) hplain.2
  · rcases hsubmission with ⟨hleased, -, -⟩ | ⟨-, hfree⟩
    · simp [succeeded, joymeshResult, hleased] at hfailed
    · refine ⟨hremote.selected, hfree, ?_⟩
      rw [show (course.fails (joymeshResult submission).message).since = [] from hremote.since]
      exact fun h => by cases h
  · rcases hsubmission with ⟨-, hheld, hrecorded⟩ | ⟨hqueued, -⟩
    · exact ⟨fun hne => absurd hremote.since hne, fun _ _ => hheld, fun _ => hrecorded⟩
    · simp [succeeded, joymeshResult, hqueued] at hsucceeded

-- A call that has submitted nothing agrees however it ends.
theorem unsubmitted_agrees (hstanding : Standing stored course)
    (hsubmitted : course.submitted = false) {saved : Option RuntimeTaskRecord} :
    Agrees course ending saved ↔ Straight course ending := by
  have hno (h : course.leased = true ∨ course.unplaced = true) : False := by
    have hremote := hstanding.remote h
    rw [hsubmitted] at hremote
    cases hremote
  have hnot (h : course.submitted = true) : False := by
    rw [hsubmitted] at h
    cases h
  refine iff_of_true ⟨fun h => (hno (.inl h)).elim, fun h => (hno (.inr h)).elim,
    fun _ h => (hnot h).elim⟩ ⟨fun h => (hno (.inl h)).elim, fun _ h => (hno (.inr h)).elim,
    fun _ h => (hnot h).elim⟩

-- The record is saved anew with the status that it had.
theorem Standing.saves (h : Standing stored course) (hfresh : course.Fresh)
    {task : RuntimeTaskRecord} (hstatus : course.recorded = true ↔ task.status = .leased) :
    Standing (some task) course := by
  refine ⟨⟨task, rfl, hstatus, fun hunplaced => ?_⟩, h.lease, h.remote, h.ran⟩
  have hsubmitted := h.remote (.inr hunplaced)
  rw [hfresh.submitted] at hsubmitted
  cases hsubmitted

variable {services : Services}

theorem proceed_follows (hs : s.Coherent) (hstanding : Standing (s.tasks.lookup taskId) course)
    (hstage : Stage taskId course call)
    (hverified : ∀ routed result verdict, call = .completing routed result →
      input = .completed verdict → Verified services routed result verdict)
    (h : s.proceed call input = some e) :
    Follows taskId (e.saved.or (s.tasks.lookup taskId)) (course.meets s call input)
      (e.ending call input) e.next := by
  obtain ⟨stored, hstored, hrecorded, hqueued⟩ := hstanding.kept
  cases call with
  | routing id =>
      obtain ⟨rfl, hfresh⟩ := hstage
      cases input with
      | raised error => cases h; exact (hstanding.loses error).raised rfl
      | aborted => cases h; exact hstanding.raised rfl
      | planned planning =>
          cases h
          have hread (continued : RuntimeTaskRecord → Effect) :
              s.withTask id continued = continued stored := by
            unfold RuntimeService.withTask
            rw [hstored]
          rw [hread]
          exact ⟨hstanding, hs.stored _ _ hstored, hfresh, hrecorded⟩
      | _ => cases h
  | selecting task intent =>
      obtain ⟨hid, hfresh, hstatus⟩ := hstage
      cases input with
      | raised error => cases h; exact (hstanding.loses error).raised rfl
      | aborted => cases h; exact hstanding.raised rfl
      | chosen selection =>
          cases h
          cases selection with
          | error error => exact unsubmitted_agrees hstanding hfresh.submitted
          | ok decision =>
              have hsaved := hstanding.saves hfresh hstatus
              obtain ⟨-, hlease, hremote, hran⟩ := hsaved
              refine ⟨⟨⟨_, rfl, hstatus, fun hunplaced => ?_⟩, hlease, hremote, hran⟩, hid,
                ⟨hfresh.submitted, hfresh.held, hfresh.since, hfresh.text⟩, rfl, hstatus⟩
              exact absurd (hremote (.inr hunplaced)) (by simp [hfresh.submitted])
      | _ => cases h
  | selected routed =>
      obtain ⟨hid, hfresh, hselected, hstatus⟩ := hstage
      cases input with
      | raised error => cases h; exact (hstanding.loses error).raised rfl
      | aborted => cases h; exact hstanding.raised rfl
      | go =>
          cases h
          unfold RuntimeService.annotate
          split
          · have hannotated : course.recorded = true ↔ routed.annotated.task.status = .leased :=
              hstatus
            exact ⟨hstanding.saves hfresh hannotated, hid, hfresh, hselected⟩
          · exact ⟨hstanding, hid, hfresh, hselected⟩
      | _ => cases h
  | handing routed =>
      obtain ⟨hid, hfresh, hselected⟩ := hstage
      cases input with
      | raised error => cases h; exact (hstanding.loses error).raised rfl
      | aborted => cases h; exact hstanding.raised rfl
      | handed leaseId attemptId stamp =>
          cases h
          exact handOver_follows hstanding hid hfresh hselected
      | _ => cases h
  | working routed lease =>
      obtain ⟨hid, hfresh, hselected⟩ := hstage
      cases input with
      | raised error =>
          cases h
          exact ⟨hstanding.loses error, hid,
            concluding_local hselected hfresh.submitted rfl hfresh.since⟩
      | aborted => cases h; exact hstanding.raised rfl
      | beat stamp =>
          cases h
          exact beat_follows hstanding hid hfresh hselected
      | worked ended =>
          cases h
          exact ⟨hstanding, hid,
            concluding_local hselected hfresh.submitted hfresh.held hfresh.since⟩
      | _ => cases h
  | trying routed p order =>
      obtain ⟨hid, hlosing, htext⟩ := hstage
      cases order with
      | nil =>
          cases input with
          | raised error => cases h; exact (hstanding.loses error).raised rfl
          | aborted => cases h; exact hstanding.raised rfl
          | go =>
              cases h
              exact ⟨hstanding, hid,
                hlosing.concludes rfl rfl (by rw [concluded, offline_concluded, htext])⟩
          | _ => cases h
      | cons backendId rest =>
          cases input with
          | raised error => cases h; exact (hstanding.loses error).raised rfl
          | aborted => cases h; exact hstanding.raised rfl
          | opened turn =>
              cases h
              exact openBackend_follows hstanding hid hlosing htext
          | _ => cases h
  | preparing turn =>
      obtain ⟨hid, hlosing, htext⟩ := hstage
      cases input with
      | raised error => cases h; exact loses_follows hstanding hid hlosing.selected hlosing.failing
      | aborted => cases h; exact hstanding.raised rfl
      | ranked candidates =>
          dsimp only [RuntimeService.proceed] at h
          split at h
          next hjoymesh =>
            cases h
            unfold RuntimeService.submit
            dsimp only
            rw [hid, hstored]
            refine ⟨⟨⟨stored, rfl, hrecorded, hqueued⟩, hstanding.lease, fun _ => rfl,
              fun hne => absurd rfl hne⟩, hid, hs.stored _ _ hstored, ⟨hlosing.selected, rfl, rfl⟩,
              hlosing.free, hjoymesh⟩
          next => cases h
      | prepared outcome =>
          dsimp only [RuntimeService.proceed] at h
          split at h
          next => cases h
          next =>
            cases h
            cases outcome with
            | returned done => exact ⟨hstanding, hid, hlosing⟩
            | aborted error => exact hstanding.raised rfl
            | raised error =>
                have hplain : (turn.fail error).saved = none ∧
                    (turn.fail error).answer.any Except.isOk = false := fail_saved
                dsimp only [BackendTurn.settle]
                rw [hplain.1, Option.none_or]
                exact fail_follows (hlosing.fails _) (hstanding.fails _) hid rfl hplain.2
      | _ => cases h
  | submitting turn fresh candidates =>
      obtain ⟨hid, hfresh, hremote, hfree, hjoymesh⟩ := hstage
      cases input with
      | raised error => cases h; exact loses_follows hstanding hid hremote.selected hremote.failing
      | aborted => cases h; exact hstanding.raised rfl
      | leasing leaseId attemptId stamp =>
          cases h
          exact submitted_follows hstanding ⟨hid, hfresh, hremote, hfree, hjoymesh⟩
      | _ => cases h
  | granted turn fresh lease number =>
      obtain ⟨hid, hfresh, hremote, hheld⟩ := hstage
      cases input with
      | raised error => cases h; exact loses_follows hstanding hid hremote.selected hremote.failing
      | aborted => cases h; exact hstanding.raised rfl
      | go => cases h; exact ⟨hstanding, hid, hfresh, hremote, hheld⟩
      | _ => cases h
  | recorded turn fresh lease =>
      obtain ⟨hid, hfresh, hremote, hheld⟩ := hstage
      cases input with
      | raised error => cases h; exact loses_follows hstanding hid hremote.selected hremote.failing
      | aborted => cases h; exact hstanding.raised rfl
      | go =>
          cases h
          have hleased := hstanding.lease hheld
          refine ⟨⟨⟨_, rfl, iff_of_true rfl rfl, fun _ hnot => ?_⟩, hstanding.lease,
            hstanding.remote, hstanding.ran⟩, hid,
            ⟨hremote.selected, hremote.submitted, hremote.since⟩, .inl ⟨rfl, hheld, rfl⟩⟩
          exact absurd hleased (by simp [show course.leased = false from hnot])
      | _ => cases h
  | remote turn submission =>
      obtain ⟨hid, hremote, hsubmission⟩ := hstage
      cases input with
      | raised error => cases h; exact loses_follows hstanding hid hremote.selected hremote.failing
      | aborted => cases h; exact hstanding.raised rfl
      | validated outcome =>
          cases h
          cases outcome with
          | returned done => exact remote_follows hstanding ⟨hid, hremote, hsubmission⟩
          | aborted error => exact hstanding.raised rfl
          | raised error => exact loses_follows hstanding hid hremote.selected hremote.failing
      | _ => cases h
  | executing turn =>
      obtain ⟨hid, hlosing⟩ := hstage
      cases input with
      | raised error =>
          cases h
          have hplain : (turn.fail error).saved = none ∧
              (turn.fail error).answer.any Except.isOk = false := fail_saved
          dsimp only [RuntimeService.interrupted]
          rw [hplain.1, Option.none_or]
          exact fail_follows (hlosing.runs rfl) (hstanding.runs _) hid rfl hplain.2
      | aborted => cases h; exact hstanding.raised rfl
      | executed outcome =>
          cases h
          exact runs_follows hstanding hid hlosing
      | _ => cases h
  | completing routed result =>
      obtain ⟨hid, hconcluding⟩ := hstage
      cases input with
      | raised error => cases h; exact (hstanding.loses error).raised rfl
      | aborted => cases h; exact hstanding.raised rfl
      | completed verdict =>
          cases h
          have hagrees := complete_follows hstanding hid hconcluding
            (hverified routed result verdict rfl rfl)
          have hends : (s.complete routed result verdict).next = none := by
            unfold RuntimeService.complete RuntimeService.withTask
            split
            · rw [hid, hstored]
            · rfl
          rw [hends]
          exact hagrees
      | _ => cases h
  | _ => exact hstage.elim

end Steps

end JoyMesh.Runtime
