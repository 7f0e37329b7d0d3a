import JoyMesh.Harnesses.Fallback

namespace JoyMesh.Harnesses

open JoyMesh.Library JoyMesh.Routing

section Definitions

-- What a call of approve_fallback holds at its awaits.
inductive ApprovalCall where
  | loaded (proposalId : String) (proposal : FallbackProposal)
  | bound (proposalId : String) (proposal : FallbackProposal) (original : StartedRun)
  | created (proposalId runId : String)

def ApprovalCall.proposalId : ApprovalCall → String
  | loaded proposalId _ => proposalId
  | bound proposalId _ _ => proposalId
  | created proposalId _ => proposalId

-- The tables with the calls in progress. What the calls have made is kept beside them, and
-- the proposals of the calls that were cut off after they made a run.
structure Approvals where
  runs : Table String StartedRun := ∅
  proposals : Table String FallbackProposal := ∅
  calls : Nat → Option ApprovalCall := fun _ => none
  made : List (String × String) := []
  abandoned : List String := []

namespace Approvals

inductive Label where
  | createRun (id : String) (run : StartedRun)
  | createFallback (id originalRunId : String) (route : RouteCandidate) (requiresApproval : Bool)
  | proposalById (call : Nat) (id : String)
  | inspectRun (call : Nat)
  | startRun (call : Nat) (id : String) (resolveWorkspace : String → Except PyError String)
      (launch : LaunchReading)
  | approveFallback (call : Nat)
  | abort (call : Nat)

variable (registry : HarnessRegistry) (s : Approvals)

def setCall (call : Nat) (held : Option ApprovalCall) : Approvals :=
  { s with calls := Function.update s.calls call held }

-- The run that a call starts, if start_run lets it through and its id is new.
def continuation (id : String) (resolveWorkspace : String → Except PyError String)
    (launch : LaunchReading) (proposal : FallbackProposal) (original : StartedRun) :
    Option StartedRun :=
  match JoyMesh.Harnesses.startRun registry launch resolveWorkspace
      (Fallbacks.continuationRequest original) proposal.route original.taskContextId
      (some proposal.originalRunId) with
  | .ok started => if (s.runs.lookup id).isSome then none else some started
  | .error _ => none

-- Each label is the part of a call between two awaits. A call that raises ends, and it may be
-- cut off at any await.
def step : Label → Option Approvals
  | .createRun id run =>
      if (s.runs.lookup id).isSome then some s
      else some { s with runs := s.runs.insert id run }
  | .createFallback id originalRunId route requiresApproval =>
      if (s.proposals.lookup id).isSome then some s
      else some { s with
        proposals := s.proposals.insert id ⟨id, originalRunId, route, requiresApproval, false, none,
          "Selected harness encountered a rate limit"⟩ }
  | .proposalById call id =>
      match s.calls call, s.proposals.lookup id with
      | some _, _ => none
      | none, none => some s
      | none, some proposal => some (s.setCall call (some (.loaded id proposal)))
  | .inspectRun call =>
      match s.calls call with
      | some (.loaded id proposal) =>
          match s.runs.lookup proposal.originalRunId with
          | none => some (s.setCall call none)
          | some original => some (s.setCall call (some (.bound id proposal original)))
      | _ => none
  | .startRun call id resolveWorkspace launch =>
      match s.calls call with
      | some (.bound proposalId proposal original) =>
          match s.continuation registry id resolveWorkspace launch proposal original with
          | none => some (s.setCall call none)
          | some started => some { s.setCall call (some (.created proposalId id)) with
              runs := s.runs.insert id started
              made := (proposalId, id) :: s.made }
      | _ => none
  | .approveFallback call =>
      match s.calls call with
      | some (.created proposalId runId) =>
          match s.proposals.lookup proposalId with
          | none => some (s.setCall call none)
          | some row => some { s.setCall call none with
              proposals := s.proposals.insert proposalId
                { row with approved := true, continuationRunId := some runId } }
      | _ => none
  | .abort call =>
      match s.calls call with
      | some (.created proposalId _) =>
          some { s.setCall call none with abandoned := proposalId :: s.abandoned }
      | some _ => some (s.setCall call none)
      | none => none

-- A call for the proposal stands between its create_run and its approval.
def Creating (proposalId : String) : Prop :=
  ∃ call runId, s.calls call = some (.created proposalId runId)

-- A call that makes a run finds its proposal unapproved, no other call on the way to approve
-- it, and none that was cut off there.
def Alone : Label → Prop
  | .startRun call id resolveWorkspace launch =>
      ∀ proposalId proposal original,
        s.calls call = some (.bound proposalId proposal original) →
          (s.continuation registry id resolveWorkspace launch proposal original).isSome = true →
            (∀ row ∈ s.proposals.lookup proposalId, row.approved = false) ∧
              ¬s.Creating proposalId ∧ proposalId ∉ s.abandoned
  | _ => True

-- A continuation that a proposal names is not replaced.
def Stable (label : Label) : Prop :=
  ∀ t, s.step registry label = some t → ∀ proposalId row runId,
    s.proposals.lookup proposalId = some row → row.continuationRunId = some runId →
      ∃ later, t.proposals.lookup proposalId = some later ∧ later.continuationRunId = some runId

end Approvals

end Definitions

namespace Approvals

-- What a step does.
inductive Step (registry : HarnessRegistry) (s : Approvals) : Label → Approvals → Prop
  | kept {label : Label} (hlabel : ∀ call id resolve launch, label ≠ .startRun call id resolve launch) :
      Step registry s label s
  | run {id : String} {run : StartedRun} :
      Step registry s (.createRun id run) { s with runs := s.runs.insert id run }
  | proposed {id originalRunId : String} {route : RouteCandidate} {requiresApproval : Bool}
      {row : FallbackProposal} (hnew : s.proposals.lookup id = none)
      (happroved : row.approved = false) (hcontinuation : row.continuationRunId = none) :
      Step registry s (.createFallback id originalRunId route requiresApproval)
        { s with proposals := s.proposals.insert id row }
  | held {label : Label} {call : Nat} {held : Option ApprovalCall}
      (hlabel : ∀ call id resolve launch, label ≠ .startRun call id resolve launch)
      (hbefore : ∀ proposalId runId, s.calls call ≠ some (.created proposalId runId))
      (hheld : ∀ proposalId runId, held ≠ some (.created proposalId runId))
      (hknown : ∀ item ∈ held, (s.proposals.lookup item.proposalId).isSome = true ∨
        ∃ before, s.calls call = some before ∧ before.proposalId = item.proposalId) :
      Step registry s label (s.setCall call held)
  | refused {call : Nat} {id proposalId : String} {proposal : FallbackProposal}
      {original : StartedRun} {resolve : String → Except PyError String} {launch : LaunchReading}
      (hcall : s.calls call = some (.bound proposalId proposal original))
      (hnone : s.continuation registry id resolve launch proposal original = none) :
      Step registry s (.startRun call id resolve launch) (s.setCall call none)
  | created {call : Nat} {id proposalId : String} {proposal : FallbackProposal}
      {original started : StartedRun} {resolve : String → Except PyError String}
      {launch : LaunchReading} (hcall : s.calls call = some (.bound proposalId proposal original))
      (hstarted : s.continuation registry id resolve launch proposal original = some started) :
      Step registry s (.startRun call id resolve launch)
        { s.setCall call (some (.created proposalId id)) with
          runs := s.runs.insert id started
          made := (proposalId, id) :: s.made }
  | lost {call : Nat} {proposalId runId : String}
      (hcall : s.calls call = some (.created proposalId runId))
      (hrow : s.proposals.lookup proposalId = none) :
      Step registry s (.approveFallback call) (s.setCall call none)
  | approved {call : Nat} {proposalId runId : String} {row : FallbackProposal}
      (hcall : s.calls call = some (.created proposalId runId))
      (hrow : s.proposals.lookup proposalId = some row) :
      Step registry s (.approveFallback call)
        { s.setCall call none with
          proposals := s.proposals.insert proposalId
            { row with approved := true, continuationRunId := some runId } }
  | abandoned {call : Nat} {proposalId runId : String}
      (hcall : s.calls call = some (.created proposalId runId)) :
      Step registry s (.abort call)
        { s.setCall call none with abandoned := proposalId :: s.abandoned }

variable {registry : HarnessRegistry} {s t : Approvals} {label : Label} {labels : List Label}
  {call : Nat} {held : Option ApprovalCall} {proposalId runId : String}

theorem step_cases (h : s.step registry label = some t) : Step registry s label t := by
  cases label with
  | createRun id run =>
      simp only [step] at h
      split at h <;> cases h
      · exact .kept (by simp)
      · exact .run
  | createFallback id originalRunId route requiresApproval =>
      simp only [step] at h
      split at h <;> cases h
      · exact .kept (by simp)
      next hnew => exact .proposed (by simpa using hnew) rfl rfl
  | proposalById call id =>
      simp only [step] at h
      split at h
      · cases h
      · cases h
        exact .kept (by simp)
      next proposal hcall hrow =>
        cases h
        refine .held (by simp) (by simp [hcall]) (by simp) ?_
        rintro item ⟨⟩
        exact .inl (by simp [ApprovalCall.proposalId, hrow])
  | inspectRun call =>
      simp only [step] at h
      split at h
      next id proposal hcall =>
        have hbefore : ∀ proposalId runId, s.calls call ≠ some (.created proposalId runId) := by
          simp [hcall]
        split at h <;> cases h
        · exact .held (by simp) hbefore (by simp) (by simp)
        · refine .held (by simp) hbefore (by simp) ?_
          rintro item ⟨⟩
          exact .inr ⟨_, hcall, rfl⟩
      next => cases h
  | startRun call id resolve launch =>
      simp only [step] at h
      split at h
      next proposalId proposal original hcall =>
        split at h
        next hnone =>
          cases h
          exact .refused hcall hnone
        next started hstarted =>
          cases h
          exact .created hcall hstarted
      next => cases h
  | approveFallback call =>
      simp only [step] at h
      split at h
      next proposalId runId hcall =>
        split at h
        next hrow =>
          cases h
          exact .lost hcall hrow
        next row hrow =>
          cases h
          exact .approved hcall hrow
      next => cases h
  | abort call =>
      simp only [step] at h
      split at h
      next proposalId runId hcall =>
        cases h
        exact .abandoned hcall
      next held hcreated hcall =>
        cases h
        refine .held (by simp) (fun proposalId runId hcall' => ?_) (by simp) (by simp)
        exact hcreated proposalId runId (Option.some.inj (hcall.symm.trans hcall'))
      next => cases h

theorem setCall_calls {other : Nat} {item : ApprovalCall}
    (h : (s.setCall call held).calls other = some item) :
    held = some item ∨ s.calls other = some item := by
  by_cases hother : other = call
  · subst hother
    exact .inl (by simpa [setCall] using h)
  · exact .inr (by simpa [setCall, Function.update_of_ne hother] using h)

-- Where a call did not stand before its approval, only what it is given counts.
theorem creating_setCall (h : ∀ proposalId runId, s.calls call ≠ some (.created proposalId runId)) :
    (s.setCall call held).Creating proposalId ↔
      (∃ runId, held = some (.created proposalId runId)) ∨ s.Creating proposalId := by
  constructor
  · rintro ⟨other, runId, hother⟩
    rcases setCall_calls hother with hheld | hbefore
    · exact .inl ⟨runId, hheld⟩
    · exact .inr ⟨other, runId, hbefore⟩
  · rintro (⟨runId, rfl⟩ | ⟨other, runId, hother⟩)
    · exact ⟨call, runId, by simp [setCall]⟩
    · have hne : other ≠ call := by
        rintro rfl
        exact h proposalId runId hother
      exact ⟨other, runId, by simpa [setCall, Function.update_of_ne hne] using hother⟩

-- A call that ends leaves the calls for other proposals where they are.
theorem creating_release {other : String} (h : s.calls call = some (.created proposalId runId))
    (hother : other ≠ proposalId) : (s.setCall call none).Creating other ↔ s.Creating other := by
  constructor
  · rintro ⟨caller, run, hcaller⟩
    exact ⟨caller, run, (setCall_calls hcaller).resolve_left nofun⟩
  · rintro ⟨caller, run, hcaller⟩
    have hne : caller ≠ call := by
      rintro rfl
      rw [h] at hcaller
      cases hcaller
      exact hother rfl
    exact ⟨caller, run, by simpa [setCall, Function.update_of_ne hne] using hcaller⟩

-- A run was made for a proposal exactly where it is approved, on its way to be, or left there.
structure Tracked (s : Approvals) : Prop where
  made_iff : ∀ proposalId, proposalId ∈ s.made.map Prod.fst ↔
    (∃ row, s.proposals.lookup proposalId = some row ∧ row.approved = true) ∨
      s.Creating proposalId ∨ proposalId ∈ s.abandoned
  created : ∀ call proposalId runId, s.calls call = some (.created proposalId runId) →
    (proposalId, runId) ∈ s.made
  known : ∀ call held, s.calls call = some held →
    (s.proposals.lookup held.proposalId).isSome = true
  stored : ∀ proposalId row runId, s.proposals.lookup proposalId = some row →
    row.continuationRunId = some runId → (proposalId, runId) ∈ s.made

theorem tracked_empty : Tracked {} where
  made_iff proposalId := by simp [Creating]
  created _ _ _ := nofun
  known _ _ := nofun
  stored _ _ _ := nofun

theorem lookup_isSome_insert {ν : Type*} {table : Table String ν} {key other : String} {row : ν}
    (h : (table.lookup other).isSome = true) : ((table.insert key row).lookup other).isSome = true := by
  by_cases hother : other = key
  · subst hother
    simp
  · rwa [AList.lookup_insert_ne hother]

theorem Tracked.setCall (h : Tracked s)
    (hbefore : ∀ proposalId runId, s.calls call ≠ some (.created proposalId runId))
    (hheld : ∀ proposalId runId, held ≠ some (.created proposalId runId))
    (hknown : ∀ item ∈ held, (s.proposals.lookup item.proposalId).isSome = true ∨
      ∃ before, s.calls call = some before ∧ before.proposalId = item.proposalId) :
    Tracked (s.setCall call held) := by
  refine ⟨fun proposalId => (h.made_iff proposalId).trans ?_, ?_, ?_, h.stored⟩
  · rw [creating_setCall hbefore]
    have hnone : ¬∃ runId, held = some (.created proposalId runId) :=
      fun ⟨runId, hrun⟩ => hheld proposalId runId hrun
    rw [or_iff_right hnone]
    rfl
  · intro other proposalId runId hother
    rcases setCall_calls hother with hnew | hold
    · exact absurd hnew (hheld proposalId runId)
    · exact h.created other proposalId runId hold
  · intro other item hother
    rcases setCall_calls hother with hnew | hold
    · rcases hknown item hnew with hrow | ⟨before, hcall, hsame⟩
      · exact hrow
      · exact hsame ▸ h.known call before hcall
    · exact h.known other item hold

theorem Tracked.step (h : Tracked s) (hstep : s.step registry label = some t) : Tracked t := by
  cases step_cases hstep with
  | kept => exact h
  | run => exact ⟨h.made_iff, h.created, h.known, h.stored⟩
  | @proposed id _ _ _ row hnew happroved hcontinuation =>
      refine ⟨fun proposalId => (h.made_iff proposalId).trans ?_, h.created, fun call held hcall =>
        lookup_isSome_insert (h.known call held hcall), fun proposalId found runId hfound hrun => ?_⟩
      · refine or_congr_left (exists_congr fun found => and_congr_left fun hfound => ?_)
        constructor
        · intro hlookup
          have hne : proposalId ≠ id := by
            rintro rfl
            simp [hnew] at hlookup
          rwa [AList.lookup_insert_ne hne]
        · intro hlookup
          rcases Table.lookup_insert_cases hlookup with ⟨-, rfl⟩ | ⟨-, hold⟩
          · simp [happroved] at hfound
          · exact hold
      · rcases Table.lookup_insert_cases hfound with ⟨-, rfl⟩ | ⟨-, hold⟩
        · simp [hcontinuation] at hrun
        · exact h.stored proposalId found runId hold hrun
  | held hlabel hbefore hheld hknown => exact h.setCall hbefore hheld hknown
  | refused hcall hnone => exact h.setCall (by simp [hcall]) (by simp) (by simp)
  | @created call id proposalId proposal original started resolve launch hcall hstarted =>
      have hbefore : ∀ proposalId runId, s.calls call ≠ some (.created proposalId runId) := by
        simp [hcall]
      refine ⟨fun other => ?_, ?_, ?_, ?_⟩
      · have hheld : (∃ runId, some (ApprovalCall.created proposalId id) =
            some (.created other runId)) ↔ other = proposalId := by
          constructor
          · rintro ⟨runId, ⟨⟩⟩
            rfl
          · rintro rfl
            exact ⟨id, rfl⟩
        have hcreating : ({ s.setCall call (some (.created proposalId id)) with
            runs := s.runs.insert id started
            made := (proposalId, id) :: s.made } : Approvals).Creating other ↔
              other = proposalId ∨ s.Creating other :=
          (creating_setCall hbefore).trans (or_congr_left hheld)
        rw [hcreating, List.map_cons, List.mem_cons, h.made_iff other, or_assoc, or_left_comm]
        rfl
      · intro other proposalId' runId hother
        rcases setCall_calls hother with hnew | hold
        · cases hnew
          exact List.mem_cons_self
        · exact List.mem_cons_of_mem _ (h.created other proposalId' runId hold)
      · intro other item hother
        rcases setCall_calls hother with hnew | hold
        · cases hnew
          have hknown := h.known call _ hcall
          exact hknown
        · exact h.known other item hold
      · exact fun proposalId' row runId hrow hrun =>
          List.mem_cons_of_mem _ (h.stored proposalId' row runId hrow hrun)
  | @lost call proposalId runId hcall hrow =>
      have hknown := h.known call _ hcall
      simp [ApprovalCall.proposalId, hrow] at hknown
  | @approved call proposalId runId row hcall hrow =>
      have hmade := h.created call proposalId runId hcall
      refine ⟨fun other => ?_, ?_, ?_, ?_⟩
      · by_cases hother : other = proposalId
        · subst hother
          refine iff_of_true (List.mem_map_of_mem hmade) (.inl ⟨_, AList.lookup_insert _, rfl⟩)
        · refine (h.made_iff other).trans (or_congr ?_ (or_congr_left ?_))
          · simp only [AList.lookup_insert_ne hother]
          · exact (creating_release hcall hother).symm
      · intro other proposalId' runId' hother
        exact h.created other proposalId' runId' ((setCall_calls hother).resolve_left nofun)
      · intro other item hother
        exact lookup_isSome_insert (h.known other item ((setCall_calls hother).resolve_left nofun))
      · intro proposalId' found runId' hfound hrun
        rcases Table.lookup_insert_cases hfound with ⟨rfl, rfl⟩ | ⟨-, hold⟩
        · cases hrun
          exact hmade
        · exact h.stored proposalId' found runId' hold hrun
  | @abandoned call proposalId runId hcall =>
      have hmade := h.created call proposalId runId hcall
      refine ⟨fun other => ?_, ?_, ?_, h.stored⟩
      · by_cases hother : other = proposalId
        · subst hother
          exact iff_of_true (List.mem_map_of_mem hmade) (.inr (.inr List.mem_cons_self))
        · refine (h.made_iff other).trans (or_congr_right (or_congr ?_ ?_))
          · exact (creating_release hcall hother).symm
          · simp [hother]
      · intro other proposalId' runId' hother
        exact h.created other proposalId' runId' ((setCall_calls hother).resolve_left nofun)
      · intro other item hother
        exact h.known other item ((setCall_calls hother).resolve_left nofun)

theorem made_grows (hstep : s.step registry label = some t) :
    t.made.map Prod.fst = s.made.map Prod.fst ∨
      ∃ proposalId, t.made.map Prod.fst = proposalId :: s.made.map Prod.fst := by
  cases step_cases hstep with
  | @created call id proposalId => exact .inr ⟨proposalId, rfl⟩
  | _ => exact .inl rfl

theorem Tracked.not_made_iff (h : Tracked s) : proposalId ∉ s.made.map Prod.fst ↔
    (∀ row ∈ s.proposals.lookup proposalId, row.approved = false) ∧
      ¬s.Creating proposalId ∧ proposalId ∉ s.abandoned := by
  rw [h.made_iff, not_or, not_or]
  refine and_congr_left fun _ => ?_
  rw [not_exists]
  exact forall_congr' fun row => by simp

-- A step makes the first run of its proposal exactly where its call is alone.
theorem Tracked.alone_iff (h : Tracked s) :
    (∀ t proposalId, s.step registry label = some t →
        t.made.map Prod.fst = proposalId :: s.made.map Prod.fst →
          proposalId ∉ s.made.map Prod.fst) ↔ Alone registry s label := by
  constructor
  · intro hnew
    cases label with
    | startRun call id resolve launch =>
        intro proposalId proposal original hcall hstarted
        obtain ⟨started, hstarted⟩ := Option.isSome_iff_exists.mp hstarted
        have hstep : s.step registry (.startRun call id resolve launch) =
            some { s.setCall call (some (.created proposalId id)) with
              runs := s.runs.insert id started
              made := (proposalId, id) :: s.made } := by
          simp only [Approvals.step, hcall, hstarted]
        exact h.not_made_iff.mp (hnew _ proposalId hstep rfl)
    | _ => trivial
  · intro halone t proposalId hstep hmade
    cases step_cases hstep with
    | created hcall hstarted =>
        obtain ⟨rfl, -⟩ := List.cons.inj hmade
        exact h.not_made_iff.mpr
          (halone _ _ _ hcall (Option.isSome_iff_exists.mpr ⟨_, hstarted⟩))
    | _ => exact absurd hmade.symm (List.cons_ne_self _ _)

-- Where each proposal has one run, what a proposal names is what its call writes again.
theorem Tracked.stable (h : Tracked s) (hnodup : (s.made.map Prod.fst).Nodup) :
    Stable registry s label := by
  intro t hstep proposalId row runId hrow hrun
  cases step_cases hstep with
  | @proposed id _ _ _ new hnew =>
      have hne : proposalId ≠ id := by
        rintro rfl
        simp [hnew] at hrow
      exact ⟨row, (AList.lookup_insert_ne hne).trans hrow, hrun⟩
  | @approved call id made old hcall hold =>
      by_cases hsame : proposalId = id
      · subst hsame
        refine ⟨_, AList.lookup_insert _, ?_⟩
        have hfirst := h.stored proposalId row runId hrow hrun
        have hlater := h.created call proposalId made hcall
        have hpair := List.inj_on_of_nodup_map hnodup hfirst hlater rfl
        cases hpair
        rfl
      · exact ⟨row, (AList.lookup_insert_ne hsame).trans hrow, hrun⟩
  | _ => exact ⟨row, hrow, hrun⟩

theorem made_nodup_iff (hrun : run (step registry) {} labels = some t) :
    (t.made.map Prod.fst).Nodup ↔ Along (step registry) (Alone registry) {} labels := by
  have hempty : (({} : Approvals).made.map Prod.fst).Nodup := List.nodup_nil
  rw [@nodup_iff_along _ _ _ _ _ _ _ (fun s : Approvals => s.made.map Prod.fst)
    (fun _ _ _ => made_grows) hrun, and_iff_right hempty]
  exact along_iff Tracked (fun s label h => h.alone_iff) (fun s label t h _ hstep => h.step hstep)
    tracked_empty

-- In any interleaving of calls each proposal has at most one continuation, and keeps the one
-- it names, exactly where every call that makes a run is alone with its proposal.
theorem one_continuation_iff (hrun : run (step registry) {} labels = some t) :
    ((t.made.map Prod.fst).Nodup ∧ Along (step registry) (Stable registry) {} labels) ↔
      Along (step registry) (Alone registry) {} labels := by
  rw [← made_nodup_iff hrun, and_iff_left_iff_imp]
  intro hnodup
  have hstep : ∀ s label t, (Tracked s ∧ (s.made.map Prod.fst).Nodup) → Alone registry s label →
      s.step registry label = some t → Tracked t ∧ (t.made.map Prod.fst).Nodup := by
    rintro s label t ⟨htracked, hdistinct⟩ halone hstep
    refine ⟨htracked.step hstep, ?_⟩
    rcases made_grows hstep with hsame | ⟨proposalId, hnew⟩
    · rwa [hsame]
    · rw [hnew]
      exact List.nodup_cons.mpr ⟨htracked.alone_iff.mpr halone t proposalId hstep hnew, hdistinct⟩
  exact Along.of_invariant hstep (fun s label h _ => h.1.stable h.2) ⟨tracked_empty, List.nodup_nil⟩
    ((made_nodup_iff hrun).mp hnodup)

def originalRun : StartedRun where
  harnessId := "codex"
  subscriptionId := some "s1"
  task := "explain the test"
  workspace := "/tmp/ws"
  taskContextId := none
  continuationOfRunId := none
  request := Adapter.readOnlyRequest

-- A call for the one proposal from its load to its approval.
def approval (call : Nat) (runId : String) : List Label :=
  [.proposalById call "p1", .inspectRun call, .startRun call runId .ok Fallbacks.readyLaunch,
    .approveFallback call]

def proposedLabels : List Label :=
  [.createRun "r1" originalRun,
    .createFallback "p1" "r1" ⟨"opencode", some "s2", 100, true⟩ false]

-- A second call for it, which the launch checks refuse.
def refusedApproval : List Label :=
  [.proposalById 1 "p1", .inspectRun 1,
    .startRun 1 "r3" .ok { Fallbacks.readyLaunch with refreshed := fun _ => .ok .offline }]

def refusedLabels : List Label := proposedLabels ++ approval 0 "r2" ++ refusedApproval

theorem refused_made : (run (step JoyMeshService.twoHarnesses) {} refusedLabels).map made =
    some [("p1", "r2")] := by
  decide +kernel

theorem refused_approval_stable :
    ∃ t, run (step JoyMeshService.twoHarnesses) {} refusedLabels = some t ∧
      (t.made.map Prod.fst).Nodup ∧
        Along (step JoyMeshService.twoHarnesses) (Stable JoyMeshService.twoHarnesses) {}
          refusedLabels := by
  obtain ⟨t, hrun, hmade⟩ := Option.map_eq_some_iff.mp refused_made
  have hnodup : (t.made.map Prod.fst).Nodup := hmade ▸ List.nodup_singleton _
  exact ⟨t, hrun, (one_continuation_iff hrun).mpr ((made_nodup_iff hrun).mp hnodup)⟩

-- A second approval of the proposal starts a second run and takes the place of the first.
theorem second_approval_starts :
    (run (step JoyMeshService.twoHarnesses) {}
      (proposedLabels ++ approval 0 "r2" ++ approval 1 "r3")).map (fun s =>
        (s.made, (s.proposals.lookup "p1").map FallbackProposal.continuationRunId)) =
          some ([("p1", "r3"), ("p1", "r2")], some (some "r3")) ∧
      (run (step JoyMeshService.twoHarnesses) {} (proposedLabels ++ approval 0 "r2")).map (fun s =>
        (s.proposals.lookup "p1").map FallbackProposal.continuationRunId) =
          some (some (some "r2")) := by
  decide +kernel

end Approvals

end JoyMesh.Harnesses
