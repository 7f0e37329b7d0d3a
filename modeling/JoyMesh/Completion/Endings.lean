import JoyMesh.Completion.Finality

namespace JoyMesh.Completion

open Library

-- An event that is announced once.
abbrev Announcement := String × EventPayload

def announce (announced : List Announcement) (event : Announcement) : List Announcement :=
  if announced.any fun prior => prior.1 = event.1 && prior.2.sameItems event.2 then announced
  else announced ++ [event]

-- The terminal events among the events of a record.
def announcedOf (events : List CompletionEvent) : List Announcement :=
  (events.filter (·.eventType ∈ Flight.deduplicated)).map fun event => (event.eventType, event.payload)

-- The terminal event that corresponds to a state.
def CompletionLifecycleState.terminalEvent : CompletionLifecycleState → Option String
  | .completed => some "execution.completed"
  | .failed => some "execution.failed"
  | .timedOut => some "execution.failed"
  | .blocked => some "execution.blocked"
  | .cancelled => some "execution.cancelled"
  | _ => none

-- How a call comes to the shared finaliser: the terminal event that it has
-- emitted itself, the state that it has given, and whether it is a success. When
-- the usage facts cannot be read it raises before.
structure Branch where
  own : Option Announcement := none
  state : CompletionLifecycleState
  success : Bool := false
  usageFacts : Option (List UsageFact)

def announcement (eventType : String) (payload : List (String × Value)) : Announcement :=
  (eventType, .items (.ofList payload))

def cancelledBranch (cleanupCompleted : Bool) : Branch :=
  if cleanupCompleted then
    { own := some (announcement "execution.cancelled" [("cleanup_completed", .bool true)])
      state := .cancelled
      usageFacts := some [] }
  else
    { own := some (announcement "execution.blocked" [("reason", .str "cleanup_timeout")])
      state := .blocked
      usageFacts := some [] }

def verificationBranch (request : VerificationRequest) (usageFacts : List UsageFact) : Branch :=
  if request.verify.outcome = .verified then
    { state := .verified, success := true, usageFacts }
  else { state := (unverified request.verify).2.1, usageFacts }

def evidenceBranch (services : Services) (o : Orchestrator) (result : BackendFacts)
    (context : CompletionContext) (candidates : List CandidateEvidence) : Branch :=
  let intake := o.evidence.intake services.digests context .evidencePending context.backendId
    context.harnessId candidates
  if context.requireEvidence ∧ intake.accepted = [] then
    { own := some (announcement "execution.failed" [("reason", .str "evidence_missing")])
      state := .failed
      usageFacts := usageFromResult result context }
  else
    verificationBranch (verificationRequest intake.boundary context true true)
      (usageFromResult result context)

def backendBranch (services : Services) (o : Orchestrator) (result : BackendFacts)
    (context : CompletionContext) (candidates : List CandidateEvidence) (fresh : Nat → String) :
    Option Branch :=
  if context.attemptId ≠ context.authoritativeAttemptId then none
  else if ¬ restoreOk result then
    some
      { own := some (announcement "execution.blocked" [("reason", .str "restore_failed")])
        state := .blocked
        usageFacts := usageFromResult result context }
  else if context.cancelled then some (cancelledBranch true)
  else if ¬ result.ok then
    some
      { own := some (announcement "execution.failed" [("backend_ok", .bool false)])
        state := .failed
        usageFacts := usageFromResult result context }
  else
    some (evidenceBranch services o result context
      (if candidates = [] then candidatesFromResult result fresh else candidates))

def remoteBranch (services : Services) (o : Orchestrator) (context : CompletionContext)
    (eventType : String) (payload : Mapping) (candidates : List CandidateEvidence)
    (fresh : Nat → String) : Option Branch :=
  if context.attemptId ≠ context.authoritativeAttemptId then none
  else if eventType ∈ ["task.cancelled", "execution.cancelled"] then some (cancelledBranch true)
  else if eventType ∈ ["task.failed", "execution.failed"] then
    some
      { state := .failed
        usageFacts := (asMapping (payload.get "usage")).map fun facts => [usageFact context facts] }
  else if eventType ∉ ["task.succeeded", "execution.completed", "verification.completed"] then none
  else
    let remote := remoteContext context eventType payload
    (remoteCandidates services remote payload candidates fresh).bind fun candidates =>
      backendBranch services o (remoteSuccess context payload) remote candidates fresh

def resumeBranch (o : Orchestrator) (executionId : String) : Option Branch :=
  (o.live.lookup executionId).bind fun record =>
    if record.isTerminal then none
    else if record.state ∈ reverifiedStates then
      some (verificationBranch
        (verificationRequest o.evidence (resumedContext record) record.backendOk record.restoreOk)
        (usageFromResult (resumedResult record) (resumedContext record)))
    else if record.state = .finalising then some { state := .failed, usageFacts := some [] }
    else none

-- The branch of a call for an execution that is not finished, if it ends it.
def Call.branch (services : Services) (o : Orchestrator) : Call → Option Branch
  | backend result context candidates fresh => backendBranch services o result context candidates fresh
  | remote context eventType payload candidates fresh =>
      remoteBranch services o context eventType payload candidates fresh
  | cancelled _ cleanupCompleted => some (cancelledBranch cleanupCompleted)
  | resume executionId => resumeBranch o executionId

def UsageFinaliser.fails (conversions : Conversions) (usage : UsageFinaliser) (executionId : String)
    (attemptFacts : List UsageFact) : Bool :=
  match (usage.finalise conversions executionId none none "" attemptFacts).1 with
  | .ok _ => false
  | .error _ => true

def Effect.isProjected : Effect → Bool
  | projected _ => true
  | _ => false

-- The projector raises on a record that it is handed.
def Effect.failsProjection (services : Services) : Effect → Bool
  | projected record => (services.projectionError record).isSome
  | _ => false

def projectionFails (services : Services) (trace : List Entry) : Bool :=
  trace.any fun entry => entry.effect.failsProjection services

namespace Branch

def blockedBy (reason : String) : Announcement :=
  announcement "execution.blocked" [("reason", .str reason)]

-- What is announced in all, when the finaliser of the usage or the projector of
-- the graph fails or neither does.
def announcements (branch : Branch) (usageFails projectionFails : Bool) : List Announcement :=
  branch.own.toList ++
    (if usageFails then [blockedBy "usage_finalisation_failed"]
      else if branch.success then [announcement "execution.completed" [("verified", .bool true)]]
      else []) ++
    if projectionFails then [blockedBy "mission_projection_failed"] else []

def ending (branch : Branch) (usageFails projectionFails : Bool) : CompletionLifecycleState :=
  if usageFails || projectionFails then .blocked
  else if branch.success then .completed
  else branch.state

end Branch

-- A call on the way to the finaliser.
structure Flight.Arriving (o : Orchestrator) (executionId : String) (f : Flight) : Prop where
  record : f.record.executionId = executionId
  usage : f.now.usage = o.usage
  unfinished : f.record.terminalEmitted = false
  quiet : ∀ entry ∈ f.trace, entry.effect.isProjected = false

-- The record that a call ends with at the finaliser.
structure Closed (services : Services) (o : Orchestrator) (executionId : String)
    (priors : List Announcement) (branch : Branch) (usageFacts : List UsageFact) (ended : Ended)
    (record : CompletionRecord) : Prop where
  live : ended.now.live.lookup executionId = some record
  outcome : ended.outcome = some record.outcome
  emitted : record.terminalEmitted = true
  terminal : record.isTerminal = true
  state : record.state =
    branch.ending (o.usage.fails services.conversions executionId usageFacts)
      (projectionFails services ended.trace)
  announced : announcedOf record.events =
    (branch.announcements (o.usage.fails services.conversions executionId usageFacts)
      (projectionFails services ended.trace)).foldl announce priors

section Finaliser

variable {services : Services} {o : Orchestrator} {executionId : String} {f : Flight}
  {effect : Effect} {success : Bool} {usageFacts : List UsageFact}

theorem UsageFinaliser.finalise_fails (executionId : String) (usageFacts : List UsageFact)
    (conversions : Conversions) (usage : UsageFinaliser) (organisationId projectId : Option String)
    (missionId : String) :
    (match (usage.finalise conversions executionId organisationId projectId missionId usageFacts).1
      with
    | .ok _ => false
    | .error _ => true) = usage.fails conversions executionId usageFacts := by
  unfold fails finalise
  cases usage.executionAggregate.lookup executionId with
  | some aggregate => rfl
  | none =>
      rcases UsageFinaliser.recordAttempts usageFacts usage with ⟨_ | type, recorded⟩
      · dsimp only
        cases sums conversions (recorded.attemptsOf executionId) <;> rfl
      · rfl

namespace Flight

@[simp] theorem emitAs_announced (eventType : String) (payload : EventPayload) :
    announcedOf (f.emitAs effect eventType payload false).record.events =
      if eventType ∈ deduplicated then announce (announcedOf f.record.events) (eventType, payload)
      else announcedOf f.record.events := by
  have hany : eventType ∈ deduplicated →
      (f.record.events.any fun prior =>
        prior.eventType = eventType && prior.payload.sameItems payload) =
      (announcedOf f.record.events).any fun prior => prior.1 = eventType && prior.2.sameItems payload := by
    intro hmem
    rw [announcedOf, List.any_map, List.any_filter]
    congr 1
    funext prior
    by_cases hprior : prior.eventType = eventType
    · subst hprior
      simp [hmem]
    · simp [hprior]
  unfold emitAs announce
  by_cases hmem : eventType ∈ deduplicated
  · rw [if_pos hmem]
    rw [← hany hmem]
    by_cases hprior : f.record.events.any fun prior =>
        prior.eventType = eventType && prior.payload.sameItems payload
    · simp [hmem, hprior, modify, announcedOf]
    · simp [hmem, hprior, modify, reach, announcedOf]
  · simp [hmem, modify, reach, announcedOf]

@[simp] theorem emit_announced (eventType : String) (payload : List (String × Value)) :
    announcedOf (f.emit eventType payload).record.events =
      if eventType ∈ deduplicated then
        announce (announcedOf f.record.events) (announcement eventType payload)
      else announcedOf f.record.events :=
  f.emitAs_announced eventType _

theorem Arriving.reach (h : f.Arriving o executionId) {now : Orchestrator}
    (husage : now.usage = f.now.usage) (hquiet : effect.isProjected = false) :
    (f.reach effect now).Arriving o executionId where
  record := h.record
  usage := husage.trans h.usage
  unfinished := h.unfinished
  quiet entry hentry := by
    rcases List.mem_append.mp hentry with hold | hnew
    · exact h.quiet entry hold
    · obtain rfl := List.mem_singleton.mp hnew
      exact hquiet

theorem Arriving.modify (h : f.Arriving o executionId) {change : CompletionRecord → CompletionRecord}
    (hid : (change f.record).executionId = f.record.executionId)
    (hunfinished : (change f.record).terminalEmitted = f.record.terminalEmitted) :
    (f.modify change).Arriving o executionId where
  record := hid.trans h.record
  usage := h.usage
  unfinished := hunfinished.trans h.unfinished
  quiet := h.quiet

theorem Arriving.become (h : f.Arriving o executionId) (state : CompletionLifecycleState) :
    (f.become state).Arriving o executionId := h.modify rfl rfl

theorem Arriving.fail (h : f.Arriving o executionId) (state : CompletionLifecycleState)
    (failureClass detail : String) : (f.fail state failureClass detail).Arriving o executionId :=
  h.modify rfl rfl

theorem Arriving.emitAs (h : f.Arriving o executionId) (effect : Effect) (hquiet : effect.isProjected = false)
    (eventType : String) (payload : EventPayload) (force : Bool) :
    (f.emitAs effect eventType payload force).Arriving o executionId := by
  have hcounted : (f.modify fun record => { record with sequence := record.sequence + 1 }).Arriving
      o executionId := h.modify rfl rfl
  unfold Flight.emitAs
  dsimp only
  split
  · exact ⟨hcounted.record, hcounted.usage, hcounted.unfinished, hcounted.quiet⟩
  · exact Arriving.reach (Arriving.modify hcounted rfl rfl) rfl hquiet

theorem Arriving.emit (h : f.Arriving o executionId) (eventType : String)
    (payload : List (String × Value)) : (f.emit eventType payload).Arriving o executionId :=
  h.emitAs .saved rfl _ _ _

@[simp] theorem emit_projectionFails (eventType : String) (payload : List (String × Value)) :
    projectionFails services (f.emit eventType payload).trace = projectionFails services f.trace := by
  unfold emit emitAs
  dsimp only
  split
  · rfl
  · simp [projectionFails, Flight.reach, modify, Effect.failsProjection]

theorem startFinalising_announced :
    announcedOf (f.startFinalising success).record.events = announcedOf f.record.events := by
  unfold startFinalising
  cases success with
  | true => simp [deduplicated]
  | false => rfl

theorem startFinalising_state : (f.startFinalising success).record.state =
    if success then .finalising else if f.record.isTerminal then f.record.state else .failed := by
  unfold startFinalising
  cases success with
  | true => simp [emit, become, modify]
  | false => rfl

theorem Arriving.startFinalising (h : f.Arriving o executionId) (success : Bool) :
    (f.startFinalising success).Arriving o executionId := by
  unfold Flight.startFinalising
  dsimp only
  split
  · exact (h.become _).emit _ _
  · exact h.become _

theorem Arriving.readUsage (h : f.Arriving o executionId) (usage : UsageFinaliser) :
    (f.reach .usageRead { f.now with usage }).Arriving { o with usage } executionId where
  record := h.record
  usage := rfl
  unfinished := h.unfinished
  quiet entry hentry := by
    rcases List.mem_append.mp hentry with hold | hnew
    · exact h.quiet entry hold
    · obtain rfl := List.mem_singleton.mp hnew
      rfl

-- The usage is read once. A failure blocks the record and is announced.
theorem Arriving.finaliseUsage (h : f.Arriving o executionId) (services : Services) (success : Bool)
    (usageFacts : List UsageFact) :
    let fails := o.usage.fails services.conversions executionId usageFacts
    let (g, ok) := f.finaliseUsage services usageFacts success
    ok = (success && !fails) ∧
      g.record.state = (if fails then .blocked else f.record.state) ∧
      announcedOf g.record.events = (if fails then
        announce (announcedOf f.record.events) (Branch.blockedBy "usage_finalisation_failed")
        else announcedOf f.record.events) ∧
      ∃ usage, g.Arriving { o with usage } executionId := by
  have hfails := UsageFinaliser.finalise_fails executionId usageFacts services.conversions o.usage
    f.record.organisationId f.record.projectId f.record.missionId
  unfold Flight.finaliseUsage
  dsimp only
  rw [h.record, h.usage]
  generalize o.usage.finalise services.conversions executionId f.record.organisationId
    f.record.projectId f.record.missionId usageFacts = finalised at hfails ⊢
  obtain ⟨result, usage⟩ := finalised
  rw [← hfails]
  have hread := h.readUsage usage
  cases result with
  | ok aggregate =>
      dsimp only
      refine ⟨(Bool.and_true _).symm, ?_, ?_, usage, Arriving.emit (Arriving.modify hread rfl rfl) _ _⟩
      · simp [Flight.emit]
      · simp [deduplicated]
  | error type =>
      dsimp only
      refine ⟨(Bool.and_false _).symm, ?_, ?_, usage, Arriving.emit (hread.fail _ _ _) _ _⟩
      · simp [Flight.emit]
      · simp [deduplicated]
        rfl

-- A success becomes the completion and is announced.
theorem Arriving.conclude (h : f.Arriving o executionId) (success : Bool) :
    (f.conclude success).Arriving o executionId ∧
      (f.conclude success).record.state = (if success then .completed
        else if f.record.state = .finalising then .failed else f.record.state) ∧
      announcedOf (f.conclude success).record.events = if success then
        announce (announcedOf f.record.events) (announcement "execution.completed" [("verified", .bool true)])
        else announcedOf f.record.events := by
  unfold Flight.conclude
  cases success with
  | true =>
      refine ⟨Arriving.emit (Arriving.modify (h.become _) rfl rfl) _ _, ?_, ?_⟩
      · simp [Flight.emit]
      · simp [deduplicated]
  | false =>
      by_cases hstate : f.record.state = .finalising
      · simp only [Bool.false_eq_true, if_false, hstate, if_true]
        exact ⟨h.become _, rfl, rfl⟩
      · simp only [Bool.false_eq_true, if_false, hstate]
        exact ⟨h, trivial, trivial⟩

-- The projector is handed the record once. A failure blocks it and is announced.
theorem Arriving.projectResult (h : f.Arriving o executionId) (services : Services) :
    let fails := (services.projectionError f.record).isSome
    let g := f.projectResult services
    g.record.executionId = executionId ∧
      g.record.state = (if fails then .blocked else f.record.state) ∧
      announcedOf g.record.events = (if fails then
        announce (announcedOf f.record.events) (Branch.blockedBy "mission_projection_failed")
        else announcedOf f.record.events) ∧
      projectionFails services g.trace = fails := by
  have hquiet : projectionFails services f.trace = false := by
    rw [projectionFails, List.any_eq_false]
    intro entry hentry
    have := h.quiet entry hentry
    cases heffect : entry.effect <;> simp_all [Effect.isProjected, Effect.failsProjection]
  have hread : projectionFails services (f.trace ++ [⟨.projected f.record, f.now⟩]) =
      (services.projectionError f.record).isSome := by
    rw [projectionFails, List.any_append, ← projectionFails, hquiet]
    simp [Effect.failsProjection]
  have hrecord : (f.reach (.projected f.record) f.now).record = f.record := rfl
  unfold Flight.projectResult
  dsimp only
  rw [hrecord, ← hread]
  cases hfails : services.projectionError f.record with
  | none =>
      rw [hfails] at hread
      simp only [hread, Option.isSome_none, Bool.false_eq_true, if_false]
      exact ⟨h.record, rfl, rfl, hread⟩
  | some type =>
      rw [hfails] at hread
      simp only [hread, Option.isSome_some, if_true, emit_projectionFails]
      refine ⟨?_, ?_, ?_, hread⟩
      · simp [Flight.emit, h.record]
      · simp [Flight.emit]
      · simp [deduplicated]
        rfl

theorem Arriving.finaliseTerminal (h : f.Arriving o executionId) {services : Services}
    {branch : Branch} {priors : List Announcement} (usageFacts : List UsageFact)
    (hstate : branch.success = false →
      (if f.record.isTerminal then f.record.state else .failed) = branch.state)
    (hown : announcedOf f.record.events = branch.own.toList.foldl announce priors) :
    ∃ record, Closed services o executionId priors branch usageFacts
      (f.finaliseTerminal services branch.success usageFacts) record := by
  have hstarted := h.startFinalising branch.success
  have hused := hstarted.finaliseUsage services branch.success usageFacts
  unfold Flight.finaliseTerminal
  rw [if_neg (by simp [h.unfinished])]
  generalize (f.startFinalising branch.success).finaliseUsage services usageFacts branch.success =
    used at hused ⊢
  obtain ⟨g, ok⟩ := used
  obtain ⟨hok, hgstate, hgannounced, usage, hg⟩ := hused
  obtain ⟨hconcluded, hcstate, hcannounced⟩ := hg.conclude ok
  obtain ⟨hid, hpstate, hpannounced, hprojection⟩ := hconcluded.projectResult services
  generalize services.projectionError (g.conclude ok).record = raised at hpstate hpannounced hprojection
  dsimp only
  generalize (g.conclude ok).projectResult services = last at hid hpstate hpannounced hprojection ⊢
  have htrace : projectionFails services (last.trace ++
      [⟨.saved, last.now.save { last.record with terminalEmitted := true }⟩]) = raised.isSome := by
    rw [← hprojection]
    simp [projectionFails, Effect.failsProjection]
  have hnot : (if f.record.isTerminal then f.record.state else .failed) ≠ .finalising := by
    split
    · rename_i hterminal
      rintro hfinalising
      rw [CompletionRecord.isTerminal, hfinalising] at hterminal
      cases hterminal
    · exact fun h => nomatch h
  have hending : last.record.state =
      branch.ending (o.usage.fails services.conversions executionId usageFacts) raised.isSome := by
    rw [hpstate, hcstate, hgstate, hok, startFinalising_state, Branch.ending]
    cases o.usage.fails services.conversions executionId usageFacts <;> cases raised <;>
      cases hsuccess : branch.success <;> simp
    rw [if_neg hnot]
    exact hstate hsuccess
  refine ⟨{ last.record with terminalEmitted := true }, ?_, rfl, rfl, ?_, ?_, ?_⟩
  · rw [← hid]
    exact AList.lookup_insert _
  · change decide (last.record.state ∈ terminalCompletionStates) = true
    have hgiven : branch.success = false → branch.state ∈ terminalCompletionStates := by
      intro hsuccess
      rw [← hstate hsuccess]
      split
      · simpa [CompletionRecord.isTerminal] using ‹f.record.isTerminal = true›
      · decide
    rw [hending, decide_eq_true_iff, Branch.ending]
    split
    · decide
    · split
      · decide
      · exact hgiven (by simpa using ‹¬ branch.success = true›)
  · change last.record.state = branch.ending _ (projectionFails services (last.trace ++
      [⟨.saved, last.now.save { last.record with terminalEmitted := true }⟩]))
    rw [htrace, hending]
  · change announcedOf last.record.events = (branch.announcements _ (projectionFails services (last.trace ++
      [⟨.saved, last.now.save { last.record with terminalEmitted := true }⟩]))).foldl announce priors
    rw [htrace, hpannounced, hcannounced, hgannounced, hok, startFinalising_announced, hown,
      Branch.announcements]
    cases o.usage.fails services.conversions executionId usageFacts <;> cases raised <;>
      cases hsuccess : branch.success <;> simp [List.foldl_append]

end Flight

end Finaliser

end JoyMesh.Completion
