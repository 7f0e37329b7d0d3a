import JoyMesh.Completion.Branches

namespace JoyMesh.Completion

open Library

-- One terminal event, and the one that corresponds to the state.
def OneTerminalEvent (record : CompletionRecord) : Prop :=
  ∃ event, announcedOf record.events = [event] ∧ record.state.terminalEvent = some event.1

-- An event that is not announced again after the other one.
def Announcement.repeats (event prior : Announcement) : Bool :=
  prior.1 = event.1 && prior.2.sameItems event.2

-- What a call announces on its branch, and the state that it ends in.
def Call.announcements (services : Services) (o : Orchestrator) (call : Call) (branch : Branch) :
    List Announcement :=
  match branch.usageFacts with
  | none => []
  | some usageFacts =>
      branch.announcements
        (o.usage.fails services.conversions call.executionId usageFacts)
        (projectionFails services (call.run services o).trace)

def Call.ending (services : Services) (o : Orchestrator) (call : Call) (branch : Branch) :
    CompletionLifecycleState :=
  match branch.usageFacts with
  | none => branch.state
  | some usageFacts =>
      branch.ending
        (o.usage.fails services.conversions call.executionId usageFacts)
        (projectionFails services (call.run services o).trace)

-- Exactly one of the branch, the completion, the usage finaliser and the projector
-- announces an end that nothing has announced before; or none announces another
-- end than the one that has been announced, and it is the right one.
def AnnouncesOne (services : Services) (o : Orchestrator) (call : Call) : Prop :=
  ∃ branch, call.branch services o = some branch ∧
    (o.announced call.executionId = [] ∧ (call.announcements services o branch).length = 1 ∨
      ∃ prior, o.announced call.executionId = [prior] ∧
        (∀ event ∈ call.announcements services o branch, event.repeats prior = true) ∧
        (call.ending services o branch).terminalEvent = some prior.1)

section Announcing

variable {events priors : List Announcement} {event prior : Announcement}

theorem announce_eq : announce priors event =
    if priors.any event.repeats then priors else priors ++ [event] := rfl

theorem foldl_announce_prefix : priors <+: events.foldl announce priors := by
  induction events generalizing priors with
  | nil => exact List.prefix_rfl
  | cons event events ih =>
      refine List.IsPrefix.trans ?_ ih
      rw [announce_eq]
      split
      · exact List.prefix_rfl
      · exact List.prefix_append _ _

theorem foldl_announce_eq_iff : events.foldl announce priors = priors ↔
    ∀ event ∈ events, priors.any event.repeats = true := by
  induction events with
  | nil => exact iff_of_true rfl fun _ h => nomatch h
  | cons event events ih =>
      rw [List.foldl_cons, List.forall_mem_cons, announce_eq]
      by_cases hprior : priors.any event.repeats = true
      · rw [if_pos hprior, ih]
        simp only [hprior, true_and]
      · rw [if_neg hprior]
        refine iff_of_false (fun h => ?_) fun h => hprior h.1
        have hprefix : priors ++ [event] <+: events.foldl announce (priors ++ [event]) :=
          foldl_announce_prefix
        rw [h] at hprefix
        have hlength := hprefix.length_le
        simp only [List.length_append, List.length_singleton] at hlength
        omega

-- Events of which none repeats another are all announced.
theorem foldl_announce_pairwise (h : events.Pairwise fun prior event => event.repeats prior = false) :
    events.foldl announce [] = events := by
  induction events using List.reverseRecOn with
  | nil => rfl
  | append_singleton events event ih =>
      obtain ⟨hevents, -, hlast⟩ := List.pairwise_append.mp h
      rw [List.foldl_append, ih hevents, List.foldl_cons, List.foldl_nil, announce_eq, if_neg]
      rw [List.any_eq_true]
      rintro ⟨prior, hprior, hrepeats⟩
      rw [hlast prior hprior event (List.mem_singleton_self _)] at hrepeats
      cases hrepeats

end Announcing

section Proper

-- The events that a branch can emit itself.
def ownEvents : List Announcement :=
  [announcement "execution.cancelled" [("cleanup_completed", .bool true)],
    announcement "execution.blocked" [("reason", .str "cleanup_timeout")],
    announcement "execution.blocked" [("reason", .str "restore_failed")],
    announcement "execution.failed" [("backend_ok", .bool false)],
    announcement "execution.failed" [("reason", .str "evidence_missing")]]

-- A branch that emits an event itself is no success, and the event is the one
-- of the state that it gives.
def Branch.Proper (branch : Branch) : Prop :=
  ∀ event, branch.own = some event →
    event ∈ ownEvents ∧ branch.success = false ∧ branch.state.terminalEvent = some event.1

variable {services : Services} {o : Orchestrator} {branch : Branch}

theorem cancelledBranch_proper (cleanupCompleted : Bool) : (cancelledBranch cleanupCompleted).Proper := by
  rintro event hown
  cases cleanupCompleted with
  | true =>
      obtain rfl := Option.some.inj hown
      exact ⟨.head _, rfl, rfl⟩
  | false =>
      obtain rfl := Option.some.inj hown
      exact ⟨.tail _ (.head _), rfl, rfl⟩

theorem verificationBranch_proper (request : VerificationRequest) (usageFacts : List UsageFact) :
    (verificationBranch request usageFacts).Proper := by
  unfold verificationBranch
  split <;> exact fun _ hown => nomatch hown

theorem evidenceBranch_proper (result : BackendFacts) (context : CompletionContext)
    (candidates : List CandidateEvidence) :
    (evidenceBranch services o result context candidates).Proper := by
  unfold evidenceBranch
  dsimp only
  split
  · rintro event hown
    obtain rfl := Option.some.inj hown
    exact ⟨.tail _ (.tail _ (.tail _ (.tail _ (.head _)))), rfl, rfl⟩
  · exact verificationBranch_proper _ _

theorem backendBranch_proper {result : BackendFacts} {context : CompletionContext}
    {candidates : List CandidateEvidence} {fresh : Nat → String}
    (h : backendBranch services o result context candidates fresh = some branch) :
    branch.Proper := by
  unfold backendBranch at h
  split at h
  · cases h
  split at h
  · obtain rfl := Option.some.inj h
    rintro event hown
    obtain rfl := Option.some.inj hown
    exact ⟨.tail _ (.tail _ (.head _)), rfl, rfl⟩
  split at h
  · obtain rfl := Option.some.inj h
    exact cancelledBranch_proper true
  split at h
  · obtain rfl := Option.some.inj h
    rintro event hown
    obtain rfl := Option.some.inj hown
    exact ⟨.tail _ (.tail _ (.tail _ (.head _))), rfl, rfl⟩
  · obtain rfl := Option.some.inj h
    exact evidenceBranch_proper _ _ _

theorem Call.branch_proper {call : Call} (h : call.branch services o = some branch) :
    branch.Proper := by
  cases call with
  | backend result context candidates fresh => exact backendBranch_proper h
  | remote context eventType payload candidates fresh =>
      simp only [Call.branch, remoteBranch] at h
      split at h
      · cases h
      split at h
      · obtain rfl := Option.some.inj h
        exact cancelledBranch_proper true
      split at h
      · obtain rfl := Option.some.inj h
        exact fun _ hown => nomatch hown
      split at h
      · cases h
      · obtain ⟨taken, -, htaken⟩ := Option.bind_eq_some_iff.mp h
        exact backendBranch_proper htaken
  | cancelled context cleanupCompleted =>
      obtain rfl := Option.some.inj h
      exact cancelledBranch_proper _
  | resume executionId =>
      obtain ⟨record, -, hrecord⟩ := Option.bind_eq_some_iff.mp h
      split at hrecord
      · cases hrecord
      split at hrecord
      · obtain rfl := Option.some.inj hrecord
        exact verificationBranch_proper _ _
      split at hrecord
      · obtain rfl := Option.some.inj hrecord
        exact fun _ hown => nomatch hown
      · cases hrecord

-- No event of a call repeats another one.
theorem Branch.Proper.pairwise (hproper : branch.Proper) (usageFails projectionFails : Bool) :
    (branch.announcements usageFails projectionFails).Pairwise
      fun prior event => event.repeats prior = false := by
  unfold Branch.announcements
  cases hown : branch.own with
  | none =>
      cases usageFails <;> cases projectionFails <;> cases branch.success <;> decide +kernel
  | some event =>
      obtain ⟨hevent, hsuccess, -⟩ := hproper event hown
      have hdistinct : ∀ event ∈ ownEvents, ∀ usageFails projectionFails : Bool,
          (([event] ++ if usageFails then [blockedBy "usage_finalisation_failed"] else []) ++
            if projectionFails then [blockedBy "mission_projection_failed"] else []).Pairwise
              fun prior event => event.repeats prior = false := by
        decide +kernel
      simpa [hsuccess] using hdistinct event hevent usageFails projectionFails

-- A single announcement is the event of the state that the call ends in.
theorem Branch.Proper.terminalEvent (hproper : branch.Proper) {usageFails projectionFails : Bool}
    {event : Announcement}
    (h : branch.announcements usageFails projectionFails = [event]) :
    (branch.ending usageFails projectionFails).terminalEvent = some event.1 := by
  unfold Branch.announcements at h
  unfold Branch.ending
  cases hown : branch.own with
  | none =>
      rw [hown] at h
      generalize branch.success = success at h ⊢
      cases usageFails <;> cases projectionFails <;> cases success <;> simp at h
      all_goals subst h; rfl
  | some own =>
      obtain ⟨-, hsuccess, hstate⟩ := hproper own hown
      rw [hown, hsuccess] at h
      cases usageFails <;> cases projectionFails <;> simp at h
      subst h
      simpa [hsuccess] using hstate

end Proper

section Steady

variable {services : Services} {o : Orchestrator} {executionId : String} {call : Call}

-- A record whose terminal event is out is terminal.
structure Orchestrator.Steady (o : Orchestrator) : Prop where
  keyed : o.Keyed
  terminal : ∀ executionId record, o.live.lookup executionId = some record →
    record.terminalEmitted = true → record.isTerminal = true

theorem Orchestrator.Steady.empty : ({} : Orchestrator).Steady where
  keyed := .empty
  terminal _ _ hrecord := nomatch hrecord

theorem Orchestrator.Steady.answer (h : o.Steady) (services : Services) (call : Call) :
    (answer services o call).2.Steady where
  keyed := h.keyed.answer call
  terminal executionId record hrecord hemitted := by
    by_cases hid : call.executionId = executionId
    · subst hid
      by_cases hopen : o.Open call.executionId
      · have hleaves := call.run_leaves services hopen
        unfold Leaves at hleaves
        split at hleaves
        · rw [(hleaves record hrecord).1] at hemitted
          cases hemitted
        · split at hleaves
          · obtain ⟨closed, hclosed⟩ := hleaves
            obtain rfl := Option.some.inj (hclosed.live.symm.trans hrecord)
            exact hclosed.terminal
          · obtain ⟨raised, hraised, -, hunfinished, -⟩ := hleaves
            obtain rfl := Option.some.inj (hraised.symm.trans hrecord)
            rw [hunfinished] at hemitted
            cases hemitted
      · obtain ⟨known, hknown, hfinished⟩ : ∃ known, o.live.lookup call.executionId = some known ∧
            known.terminalEmitted = true := by
          by_contra hnone
          refine hopen fun known hknown => ⟨h.keyed.live _ _ hknown, ?_⟩
          by_contra hfinished
          exact hnone ⟨known, hknown, by simpa using hfinished⟩
        have hdone : known.isFinished = true := by
          simp [CompletionRecord.isFinished, h.terminal _ _ hknown hfinished, hfinished]
        obtain ⟨later, -, hlater, -, hstill, -⟩ := Call.run_finished services h.keyed rfl hknown hdone
        obtain rfl := Option.some.inj (hlater.symm.trans hrecord)
        exact (by simpa [CompletionRecord.isFinished] using hstill : _ ∧ _).1
    · have hsame := (call.run_within services h.keyed).live.others executionId (Ne.symm hid)
      exact h.terminal executionId record (hsame.symm.trans hrecord) hemitted

theorem Orchestrator.Steady.open (h : o.Steady)
    (hstart : ∀ record, o.live.lookup executionId = some record → record.isTerminal = false) :
    o.Open executionId := by
  intro record hrecord
  refine ⟨h.keyed.live _ _ hrecord, ?_⟩
  by_contra hemitted
  have := h.terminal _ _ hrecord (by simpa using hemitted)
  rw [hstart record hrecord] at this
  cases this

end Steady

section One

variable {services : Services} {o : Orchestrator} {call : Call} {branch : Branch}
  {record : CompletionRecord}

theorem Call.announcements_pairwise (hproper : branch.Proper) :
    (call.announcements services o branch).Pairwise
      fun prior event => event.repeats prior = false := by
  unfold Call.announcements
  split
  · exact .nil
  · exact hproper.pairwise _ _

theorem Call.ending_terminalEvent (hproper : branch.Proper) {event : Announcement}
    (h : call.announcements services o branch = [event]) :
    (call.ending services o branch).terminalEvent = some event.1 := by
  unfold Call.announcements at h
  unfold Call.ending
  cases hfacts : branch.usageFacts with
  | none =>
      rw [hfacts] at h
      cases h
  | some usageFacts =>
      rw [hfacts] at h
      exact hproper.terminalEvent h

theorem one_announced_iff {events priors : List Announcement} {state : CompletionLifecycleState}
    (hpairwise : events.Pairwise fun prior event => event.repeats prior = false)
    (hending : ∀ event, events = [event] → state.terminalEvent = some event.1) :
    (∃ event, events.foldl announce priors = [event] ∧ state.terminalEvent = some event.1) ↔
      (priors = [] ∧ events.length = 1 ∨
        ∃ prior, priors = [prior] ∧ (∀ event ∈ events, event.repeats prior = true) ∧
          state.terminalEvent = some prior.1) := by
  have hprefix : priors <+: events.foldl announce priors := foldl_announce_prefix
  match priors with
  | [] =>
      rw [foldl_announce_pairwise hpairwise]
      simp only [true_and, reduceCtorEq, false_and, exists_false, or_false, List.length_eq_one_iff]
      exact exists_congr fun event => and_iff_left_of_imp (hending event)
  | [prior] =>
      have hsame : events.foldl announce [prior] = [prior] ↔
          ∀ event ∈ events, event.repeats prior = true := by
        rw [foldl_announce_eq_iff]
        simp
      constructor
      · rintro ⟨event, hevents, hstate⟩
        obtain rfl : prior = event := by
          rw [hevents] at hprefix
          simpa using hprefix
        exact .inr ⟨prior, rfl, hsame.mp hevents, hstate⟩
      · rintro (⟨hnil, -⟩ | ⟨known, hknown, hrepeat, hstate⟩)
        · cases hnil
        · obtain rfl : prior = known := by simpa using hknown
          exact ⟨prior, hsame.mpr hrepeat, hstate⟩
  | first :: second :: rest =>
      refine iff_of_false ?_ (by simp)
      rintro ⟨event, hevents, -⟩
      rw [hevents] at hprefix
      simpa using hprefix.length_le

theorem oneTerminalEvent_iff_of_branch (hproper : branch.Proper)
    (hstate : record.state = call.ending services o branch)
    (hannounced : announcedOf record.events =
      (call.announcements services o branch).foldl announce (o.announced call.executionId)) :
    OneTerminalEvent record ↔
      (o.announced call.executionId = [] ∧ (call.announcements services o branch).length = 1 ∨
        ∃ prior, o.announced call.executionId = [prior] ∧
          (∀ event ∈ call.announcements services o branch, event.repeats prior = true) ∧
          (call.ending services o branch).terminalEvent = some prior.1) := by
  unfold OneTerminalEvent
  rw [hstate, hannounced]
  exact one_announced_iff (Call.announcements_pairwise hproper)
    fun event h => Call.ending_terminalEvent hproper h

end One

-- A call that makes the record terminal leaves one terminal event exactly when
-- one of those that may announce it does.
theorem one_terminal_event_iff {services : Services} {before : List Call} {call : Call}
    {record : CompletionRecord}
    (hstart : ∀ known, (play (answer services) {} before).live.lookup call.executionId = some known →
      known.isTerminal = false)
    (hend : (answer services (play (answer services) {} before) call).2.live.lookup
      call.executionId = some record)
    (hterminal : record.isTerminal = true) :
    OneTerminalEvent record ↔ AnnouncesOne services (play (answer services) {} before) call := by
  have hsteady : (play (answer services) {} before).Steady :=
    play_invariant (fun _ call hsteady => hsteady.answer services call) .empty
  generalize play (answer services) {} before = o at *
  have hleaves := call.run_leaves services (hsteady.open hstart)
  unfold AnnouncesOne
  cases hbranch : call.branch services o with
  | none =>
      rw [hbranch] at hleaves
      obtain ⟨known, hknown, hwas⟩ := (hleaves record hend).2 hterminal
      rw [hstart known hknown] at hwas
      cases hwas
  | some branch =>
      rw [hbranch] at hleaves
      simp only [Option.some.injEq, exists_eq_left']
      unfold Leaves at hleaves
      dsimp only at hleaves
      split at hleaves
      · rename_i usageFacts hfacts
        obtain ⟨closed, hclosed⟩ := hleaves
        obtain rfl := Option.some.inj (hclosed.live.symm.trans hend)
        refine oneTerminalEvent_iff_of_branch (Call.branch_proper hbranch) ?_ ?_
        · rw [Call.ending, hfacts]
          exact hclosed.state
        · rw [Call.announcements, hfacts]
          exact hclosed.announced
      · rename_i hfacts
        obtain ⟨raised, hraised, hstate, -, hannounced⟩ := hleaves
        obtain rfl := Option.some.inj (hraised.symm.trans hend)
        refine oneTerminalEvent_iff_of_branch (Call.branch_proper hbranch) ?_ ?_
        · rw [Call.ending, hfacts]
          exact hstate
        · rw [Call.announcements, hfacts]
          exact hannounced

theorem completed_one_terminal_event : OneTerminalEvent completedRecord :=
  (@one_terminal_event_iff sampleServices [] completedCall completedRecord
    (fun _ hknown => nomatch hknown) (Option.some_get _).symm (by decide +kernel)).mpr
      ⟨(completedCall.branch sampleServices {}).get (by decide +kernel), (Option.some_get _).symm,
        .inl ⟨rfl, by decide +kernel⟩⟩

-- The verification of this completion fails.
def unprovenCall : Call :=
  .backend completedResult
    { EvidenceBoundary.evidenceContext with requiredEvidenceTypes := ["test_summary"] } [] fun _ => "x"

def unprovenRecord : CompletionRecord :=
  ((answer sampleServices {} unprovenCall).2.live.lookup "e").get (by decide +kernel)

theorem unproven_no_terminal_event : ¬ ∀ (services : Services) (before : List Call) (call : Call)
    (record : CompletionRecord),
    (∀ known, (play (answer services) {} before).live.lookup call.executionId = some known →
      known.isTerminal = false) →
    (answer services (play (answer services) {} before) call).2.live.lookup call.executionId =
      some record →
    record.isTerminal = true → OneTerminalEvent record := by
  intro h
  obtain ⟨event, hevents, -⟩ := h sampleServices [] unprovenCall unprovenRecord
    (fun _ hknown => nomatch hknown) (Option.some_get _).symm (by decide +kernel)
  have hcount : (announcedOf unprovenRecord.events).length = 0 := by decide +kernel
  rw [hevents] at hcount
  cases hcount

end JoyMesh.Completion
