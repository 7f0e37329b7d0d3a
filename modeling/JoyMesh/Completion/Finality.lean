import JoyMesh.Completion.Flights
import JoyMesh.Completion.Rejected

namespace JoyMesh.Completion

open Library

-- What a finished record says, but for its events.
@[ext] structure Settlement where
  state : CompletionLifecycleState
  detail : Option String
  failureClass : Option String
  backendOk : Bool
  restoreOk : Bool
  attemptId : String
  verification : Option VerificationResult
  evidenceIds : List String
  usageAggregate : Option UsageAggregate

def CompletionRecord.settlement (record : CompletionRecord) : Settlement where
  state := record.state
  detail := record.detail
  failureClass := record.failureClass
  backendOk := record.backendOk
  restoreOk := record.restoreOk
  attemptId := record.attemptId
  verification := record.verification
  evidenceIds := record.evidenceIds
  usageAggregate := record.usageAggregate

def CompletionRecord.isFinished (record : CompletionRecord) : Bool :=
  record.isTerminal && record.terminalEmitted

-- A call that runs to its end.
def answer (services : Services) (o : Orchestrator) (call : Call) :
    Option CompletionOutcome × Orchestrator :=
  ((call.run services o).outcome, (call.run services o).now)

-- The record of the execution is as settled as before, and a call for it is
-- answered with the same state and flag.
def StaysFinal (services : Services) (executionId : String) (record : CompletionRecord)
    (o : Orchestrator) (call : Call) : Prop :=
  (∃ now, (answer services o call).2.live.lookup executionId = some now ∧
    now.settlement = record.settlement) ∧
  (call.executionId = executionId → ∃ outcome, (answer services o call).1 = some outcome ∧
    outcome.state = record.outcome.state ∧ outcome.ok = record.outcome.ok)

-- What a call changes of a finished record.
def Call.touch (settlement : Settlement) : Call → Settlement
  | cancelled context _ =>
      { settlement with backendOk := false, restoreOk := true, attemptId := context.attemptId }
  | _ => settlement

-- A cancellation finds the record as it would make it.
def Call.Harmless (executionId : String) (record : CompletionRecord) (call : Call) : Prop :=
  ∀ context cleanupCompleted, call = .cancelled context cleanupCompleted →
    context.executionId = executionId → record.backendOk = false ∧ record.restoreOk = true ∧
      record.attemptId = context.attemptId

section Finished

variable {services : Services} {o : Orchestrator} {executionId : String} {record : CompletionRecord}
  {call : Call}

theorem Call.touch_eq_iff (hid : call.executionId = executionId) :
    call.touch record.settlement = record.settlement ↔ call.Harmless executionId record := by
  cases call with
  | cancelled context cleanupCompleted =>
      simp only [Call.touch, Settlement.ext_iff, CompletionRecord.settlement, true_and, and_true]
      constructor
      · rintro ⟨hbackend, hrestore, hattempt⟩ other _ hcall -
        cases hcall
        exact ⟨hbackend.symm, hrestore.symm, hattempt.symm⟩
      · intro h
        obtain ⟨hbackend, hrestore, hattempt⟩ := h context cleanupCompleted rfl hid
        exact ⟨hbackend.symm, hrestore.symm, hattempt.symm⟩
  | backend result context candidates fresh => exact iff_of_true rfl fun _ _ h => nomatch h
  | remote context eventType payload candidates fresh =>
      exact iff_of_true rfl fun _ _ h => nomatch h
  | resume executionId => exact iff_of_true rfl fun _ _ h => nomatch h

variable (services) in
-- Every call for a finished execution comes to an end at once. Only a
-- cancellation touches the record before it looks.
theorem Call.run_finished (hkeyed : o.Keyed) (hid : call.executionId = executionId)
    (hrecord : o.live.lookup executionId = some record) (hfinished : record.isFinished = true) :
    ∃ later outcome, (call.run services o).now.live.lookup executionId = some later ∧
      (call.run services o).outcome = some outcome ∧ later.isFinished = true ∧
      later.settlement = call.touch record.settlement ∧
      outcome.state = record.state ∧ outcome.ok = record.outcome.ok := by
  obtain ⟨hterminal, hemitted⟩ : record.isTerminal = true ∧ record.terminalEmitted = true := by
    simpa [CompletionRecord.isFinished] using hfinished
  have hfound := finished_eq_some_iff.mpr ⟨hrecord, hterminal, hemitted⟩
  have hkey := hkeyed.live _ _ hrecord
  cases call with
  | backend result context candidates fresh =>
      obtain rfl : context.executionId = executionId := hid
      have hrun : Call.run services o (.backend result context candidates fresh) =
          { outcome := some record.outcome, now := o } := by
        rw [Call.run, completeFromBackend, hfound]
      rw [hrun]
      exact ⟨record, record.outcome, hrecord, rfl, hfinished, rfl, rfl, rfl⟩
  | remote context eventType payload candidates fresh =>
      obtain rfl : context.executionId = executionId := hid
      rw [Call.run, completeFromRemoteEvent, hfound]
      dsimp only
      split
      · obtain ⟨sequence, events, hlate⟩ := Flight.emitAs_record { now := o, record } .saved
          "execution.late_event_ignored" (.items (.ofList [("event_type", .str eventType)])) true
        refine ⟨{ record with sequence, events }, _, ?_, rfl, hfinished, rfl, ?_, ?_⟩
        · rw [Flight.ended, Flight.emitAs_live, hlate, ← hkey]
          exact AList.lookup_insert _
        · rw [hlate]
          rfl
        · rw [hlate]
          rfl
      · exact ⟨record, record.outcome, hrecord, rfl, hfinished, rfl, rfl, rfl⟩
  | cancelled context cleanupCompleted =>
      obtain rfl : context.executionId = executionId := hid
      rw [Call.run, finaliseCancelled, ensureRecord, hrecord]
      dsimp only
      rw [if_pos ⟨hterminal, hemitted⟩]
      refine ⟨{ record with backendOk := false, restoreOk := true, attemptId := context.attemptId },
        _, ?_, rfl, hfinished, rfl, rfl, rfl⟩
      rw [← hkey]
      exact AList.lookup_insert _
  | resume other =>
      obtain rfl : other = executionId := hid
      have hrun : Call.run services o (.resume other) =
          { outcome := some record.outcome, now := o } := by
        rw [Call.run, Completion.resume, hrecord]
        exact if_pos hterminal
      rw [hrun]
      exact ⟨record, record.outcome, hrecord, rfl, hfinished, rfl, rfl, rfl⟩

theorem Orchestrator.Keyed.answer (hkeyed : o.Keyed) (call : Call) :
    (Completion.answer services o call).2.Keyed :=
  hkeyed.ended (call.run_within services hkeyed)

-- A record that is finished, and as settled as the one given.
def Orchestrator.Final (executionId : String) (record : CompletionRecord) (o : Orchestrator) :
    Prop :=
  o.Keyed ∧ ∃ now, o.live.lookup executionId = some now ∧ now.isFinished = true ∧
    now.settlement = record.settlement

theorem CompletionRecord.outcome_of_settlement {now : CompletionRecord}
    (h : now.settlement = record.settlement) :
    now.state = record.state ∧ now.outcome.ok = record.outcome.ok := by
  have hstate : now.state = record.state := congrArg Settlement.state h
  exact ⟨hstate, by simp [CompletionRecord.outcome, hstate]⟩

variable (services) in
theorem staysFinal_iff (hfinal : o.Final executionId record) :
    StaysFinal services executionId record o call ↔ call.Harmless executionId record := by
  obtain ⟨hkeyed, now, hnow, hfinished, hsettled⟩ := hfinal
  by_cases hid : call.executionId = executionId
  · obtain ⟨later, outcome, hlater, houtcome, -, htouched, hstate, hok⟩ :=
      Call.run_finished services hkeyed hid hnow hfinished
    obtain ⟨hsameState, hsameOk⟩ := CompletionRecord.outcome_of_settlement hsettled
    rw [← Call.touch_eq_iff hid, ← hsettled, ← htouched, hsettled]
    constructor
    · rintro ⟨⟨found, hfound, hfinal⟩, -⟩
      obtain rfl : later = found := Option.some.inj (hlater.symm.trans hfound)
      exact hfinal
    · intro hfinal
      exact ⟨⟨later, hlater, hfinal⟩, fun _ =>
        ⟨outcome, houtcome, hstate.trans hsameState, hok.trans hsameOk⟩⟩
  · refine iff_of_true ⟨⟨now, ?_, hsettled⟩, fun h => absurd h hid⟩ ?_
    · exact ((call.run_within services hkeyed).live.others executionId (Ne.symm hid)).trans hnow
    · rintro context cleanupCompleted rfl hcontext
      exact absurd hcontext hid

theorem Orchestrator.Final.step (hfinal : o.Final executionId record)
    (hharmless : call.Harmless executionId record) :
    (answer services o call).2.Final executionId record := by
  obtain ⟨⟨later, hlater, hsettled⟩, -⟩ := (staysFinal_iff services hfinal).mpr hharmless
  obtain ⟨hkeyed, now, hnow, hfinished, -⟩ := hfinal
  refine ⟨hkeyed.answer call, later, hlater, ?_, hsettled⟩
  by_cases hid : call.executionId = executionId
  · obtain ⟨found, -, hfound, -, hstill, -⟩ :=
      Call.run_finished services hkeyed hid hnow hfinished
    obtain rfl : later = found := Option.some.inj (hlater.symm.trans hfound)
    exact hstill
  · have hsame := ((call.run_within services hkeyed).live.others executionId
      (Ne.symm hid)).trans hnow
    obtain rfl : later = now := Option.some.inj (hlater.symm.trans hsame)
    exact hfinished

end Finished

-- A finished record stays as it is in every later call exactly when each
-- cancellation of the execution would write what the record says already.
theorem finality_iff {services : Services} {before after : List Call} {executionId : String}
    {record : CompletionRecord}
    (hrecord : (play (answer services) {} before).live.lookup executionId = some record)
    (hfinished : record.isFinished = true) :
    PlayAlong (answer services) (StaysFinal services executionId record)
        (play (answer services) {} before) after ↔
      ∀ call ∈ after, call.Harmless executionId record := by
  have hkeyed : (play (answer services) {} before).Keyed :=
    play_invariant (fun _ call hkeyed => hkeyed.answer call) .empty
  have hfinal : (play (answer services) {} before).Final executionId record :=
    ⟨hkeyed, record, hrecord, hfinished, rfl⟩
  have hany : PlayAlong (answer services) (fun _ _ => True) (play (answer services) {} before)
      after := playAlong_labels.mpr fun _ _ => trivial
  have hcalls : PlayAlong (answer services) (StaysFinal services executionId record)
      (play (answer services) {} before) after ↔
      PlayAlong (answer services) (fun _ call => call.Harmless executionId record)
        (play (answer services) {} before) after :=
    playAlong_iff (Orchestrator.Final executionId record)
      (fun _ _ hfinal _ => staysFinal_iff services hfinal)
      (fun _ _ hfinal _ hharmless => hfinal.step hharmless) hfinal hany
  exact hcalls.trans playAlong_labels

section Sample

def sampleServices : Services where
  digests := EvidenceBoundary.sampleDigests
  conversions :=
    { intOfText := fun _ => .error "ValueError"
      intOfFloat := fun _ => .error "ValueError"
      floatOfText := fun _ => .error "ValueError"
      floatOfInt := fun _ => .ok "0.0"
      sum := fun _ => "0.0" }
  projectionError _ := none

def completedResult : BackendFacts where
  ok := true
  executionId := "e"
  backendId := "joymesh"
  harnessId := "codex"
  message := "done"

-- An execution that completes, and is cancelled afterwards.
def completedCall : Call := .backend completedResult EvidenceBoundary.evidenceContext [] fun _ => "x"

def lateCancellation : Call := .cancelled EvidenceBoundary.evidenceContext true

def completedRecord : CompletionRecord :=
  ((play (answer sampleServices) {} [completedCall]).live.lookup "e").get (by decide +kernel)

end Sample

theorem completed_resumed_final :
    PlayAlong (answer sampleServices) (StaysFinal sampleServices "e" completedRecord)
      (play (answer sampleServices) {} [completedCall]) [.resume "e", completedCall] :=
  (finality_iff (Option.some_get _).symm (by decide +kernel)).mpr (by
    rintro call hcall context cleanupCompleted rfl
    simp [completedCall] at hcall)

theorem completed_cancelled_not_final : ¬ ∀ (services : Services) (before after : List Call)
    (executionId : String) (record : CompletionRecord),
    (play (answer services) {} before).live.lookup executionId = some record →
    record.isFinished = true →
    PlayAlong (answer services) (StaysFinal services executionId record)
      (play (answer services) {} before) after := by
  intro h
  obtain ⟨⟨⟨now, hnow, hsettled⟩, -⟩, -⟩ := h sampleServices [completedCall] [lateCancellation] "e"
    completedRecord (Option.some_get _).symm (by decide +kernel)
  have hbackend : now.backendOk = completedRecord.backendOk :=
    congrArg Settlement.backendOk hsettled
  have hcancelled : ((answer sampleServices (play (answer sampleServices) {} [completedCall])
      lateCancellation).2.live.lookup "e").map (·.backendOk) = some false := by decide +kernel
  have hcompleted : completedRecord.backendOk = true := by decide +kernel
  rw [hnow, Option.map_some, hbackend, hcompleted] at hcancelled
  cases hcancelled

end JoyMesh.Completion
