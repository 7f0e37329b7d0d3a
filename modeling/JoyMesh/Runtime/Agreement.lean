import JoyMesh.Runtime.Executors
import JoyMesh.Runtime.Outcomes

namespace JoyMesh.Runtime

open Library Routing Completion

theorem Stage.taskId {taskId : String} {course : Course} {call : Call}
    (h : Stage taskId course call) : call.taskId = taskId := by
  cases call with
  | routing id => exact h.1
  | selecting task intent => exact h.1
  | selected routed => exact h.1
  | handing routed => exact h.1
  | working routed lease => exact h.1
  | trying routed p order => exact h.1
  | preparing turn => exact h.1
  | submitting turn fresh candidates => exact h.1
  | granted turn fresh lease number => exact h.1
  | recorded turn fresh lease => exact h.1
  | remote turn submission => exact h.1
  | executing turn => exact h.1
  | completing routed result => exact h.1
  | _ => exact h.elim

namespace RuntimeService

-- Nothing but the one call goes on, and its completion is the orchestrator's.
def Alone (services : Services) (i : Nat) (s : RuntimeService) : Label → Prop
  | .tick _ => True
  | .start .. => False
  | .resume j input =>
      j = i ∧ ∀ routed result verdict, s.calls i = some (.completing routed result) →
        input = .completed verdict → Verified services routed result verdict

variable {engine : PolicyEngine} {order : Iteration} {services : Services}
  {s t : RuntimeService} {i : Nat} {taskId : String} {course : Course} {ending : Ending}
  {e : Effect} {label : Label}

theorem advance_task (he : e.On taskId s.clock) :
    (s.advance i e).tasks.lookup taskId = e.saved.or (s.tasks.lookup taskId) := by
  cases hsaved : e.saved with
  | none => rw [advance_unsaved hsaved, Option.none_or]
  | some task =>
      rw [advance_saved hsaved, he.saved task hsaved, AList.lookup_insert]
      rfl

-- The invariant of the run of one call.
structure Following (i : Nat) (taskId : String) (s : RuntimeService × Course × Ending) :
    Prop where
  coherent : s.1.Coherent
  follows : Follows taskId (s.1.tasks.lookup taskId) s.2.1 s.2.2 (s.1.calls i)

theorem Following.step {s t : RuntimeService × Course × Ending} (hs : Following i taskId s)
    (halone : s.1.Alone services i label)
    (h : watched (step engine order) (noteCall i) s label = some t) : Following i taskId t := by
  obtain ⟨s, course, ending⟩ := s
  obtain ⟨t, after⟩ := t
  obtain ⟨hstep, hnote⟩ := watched_eq_some h
  obtain ⟨hcoherent, hfollows⟩ := hs
  dsimp only at halone hstep hnote hcoherent hfollows
  refine ⟨step_coherent hcoherent hstep, ?_⟩
  rcases step_cases hstep with ⟨later, rfl, -, rfl⟩ | ⟨j, operation, e, rfl, -⟩ |
    ⟨j, input, call, e, rfl, hcall, he, rfl⟩
  · obtain rfl := hnote
    exact hfollows
  · exact halone.elim
  · obtain ⟨rfl, hverified⟩ := halone
    rw [hcall] at hfollows
    obtain ⟨hstanding, hstage⟩ := hfollows
    have hon := proceed_on hcoherent (hcoherent.calls _ _ hcall) he
    rw [hstage.taskId] at hon
    have hafter : after = (course.meets s call input, e.ending call input) := by
      rw [hnote]
      simp only [noteCall, if_true, hcall, he]
    rw [hafter, advance_task hon, advance_calls, Function.update_self]
    exact proceed_follows hcoherent hstanding hstage
      (fun routed result verdict hcompleting hinput =>
        hverified routed result verdict (hcompleting ▸ hcall) hinput) he

theorem begun_following (hs : s.Coherent) {task : RuntimeTaskRecord}
    (hcall : s.calls i = some (.routing taskId)) (htask : s.tasks.lookup taskId = some task) :
    Following i taskId (s, Course.begun s taskId, {}) := by
  refine ⟨hs, ?_⟩
  dsimp only
  rw [hcall]
  refine ⟨⟨⟨task, htask, ?_, fun h => by cases h⟩, fun h => (by cases h), ?_, fun h => absurd rfl h⟩,
    rfl, rfl, rfl, rfl, rfl⟩
  · simp [Course.begun, htask]
  · rintro (h | h) <;> cases h

-- For every task, decision and history of the backends, the status that a route_task call
-- leaves agrees with the last backend that ran exactly when its course is straight.
theorem routing_outcome_followed {ttl : Time} {before labels : List Label}
    {task : RuntimeTaskRecord} (hreached : run (step engine order) (initial ttl) before = some s)
    (hcall : s.calls i = some (.routing taskId)) (htask : s.tasks.lookup taskId = some task)
    (halone : Along (step engine order) (Alone services i) s labels)
    (hrun : run (watched (step engine order) (noteCall i)) (s, Course.begun s taskId, {}) labels =
      some (t, course, ending))
    (hended : t.calls i = none) :
    Agrees course ending (t.tasks.lookup taskId) ↔ Straight course ending := by
  have hcoherent : s.Coherent :=
    run_keeps (fun s label t h ht => step_coherent h ht) initial_coherent hreached
  have hstep : ∀ s label t, Following i taskId s → s.1.Alone services i label →
      watched (step engine order) (noteCall i) s label = some t → Following i taskId t :=
    fun s label t hs hc ht => hs.step hc ht
  have hfollowing := run_invariant hstep (begun_following hcoherent hcall htask) halone.watched hrun
  have hfollows := hfollowing.follows
  dsimp only at hfollows
  rw [hended] at hfollows
  exact hfollows

section Runs

def sampleRouting : RuntimeService := sampleRoutingState.1

theorem sampleRouting_reached :
    run (step sampleEngine .asGiven) (initial 60) [.start 0 (.createTask "task" sampleRead false)] =
      some sampleRouting := by
  simp only [run_cons, run_nil, step, startOperation, sampleRead_started]
  rfl

-- The remote backend is selected and gets its lease.
def sampleRemote : List Label :=
  sampleLeasing 0 "lease-1" "attempt-1" ++
    [.resume 0 .go, .resume 0 .go, .resume 0 (.validated (.returned ())),
      .resume 0 (.completed ⟨false, .running, "", none⟩)]

-- The local backend fails, and the remote one gets its lease in its stead.
def sampleStead : List Label :=
  [.resume 0 (.planned samplePlanning),
    .resume 0 (.chosen (.ok { sampleRoute "local" "claude_code" with
      fallbackOrder := ["joymesh"] })),
    .resume 0 .go, .resume 0 (.handed "" "" 0), .resume 0 (.opened sampleTurn),
    .resume 0 (.prepared (.returned ())),
    .resume 0 (.executed (.returned
      { ok := false, message := "exit 1", failureClass := some "backend_unavailable" })),
    .resume 0 (.opened sampleTurn), .resume 0 (.ranked [⟨"node", "claude_code", true, []⟩]),
    .resume 0 (.leasing "lease-1" "attempt-1" 0), .resume 0 .go, .resume 0 .go,
    .resume 0 (.validated (.returned ())),
    .resume 0 (.completed
      ⟨true, .completed, "backend success with required evidence", none⟩)]

-- A stretch other than the end of a completion.
theorem alone_going {input : Input} (h : ∀ verdict, input ≠ .completed verdict) :
    s.Alone services i (.resume i input) :=
  ⟨rfl, fun _ _ verdict _ hinput => absurd hinput (h verdict)⟩

-- What the orchestrator says to the result that the call is about to complete.
def sampleVerdict : Option Call → Option CompletionVerdict
  | some (.completing routed result) =>
      (completeFromBackend sampleServices {} (backendFacts result) (completionContext routed result)
        [] fun _ => "x").outcome.map verdictOf
  | _ => none

theorem verified_sample {routed : Routed} {result : ExecutionResult} {verdict : CompletionVerdict}
    {call : Option Call} (hcall : call = some (.completing routed result))
    (h : sampleVerdict call = some verdict) : Verified sampleServices routed result verdict := by
  subst hcall
  obtain ⟨outcome, houtcome, rfl⟩ := Option.map_eq_some_iff.mp h
  exact .inr ⟨{}, fun _ => "x", outcome, rfl, houtcome, rfl⟩

-- The call is about to return its task as leased.
def sampleReturns : Option Call → Bool
  | some (.completing routed result) =>
      routed.decision.selectedBackendId = "joymesh" && result.ok
  | _ => false

theorem verified_returning {routed : Routed} {result : ExecutionResult}
    {verdict : CompletionVerdict} {call : Option Call}
    (hcall : call = some (.completing routed result)) (h : sampleReturns call = true) :
    Verified services routed result verdict := by
  subst hcall
  exact .inl (by simpa [sampleReturns] using h)

theorem sampleRemote_alone : Along (step sampleEngine .asGiven) (Alone sampleServices 0)
    sampleRouting sampleRemote := by
  refine .cons (alone_going (by simp)) rfl <| .cons (alone_going (by simp)) rfl <|
    .cons (alone_going (by simp)) rfl <| .cons (alone_going (by simp)) rfl <|
    .cons (alone_going (by simp)) rfl <| .cons (alone_going (by simp)) rfl <|
    .cons (alone_going (by simp)) rfl <| .cons (alone_going (by simp)) rfl <|
    .cons (alone_going (by simp)) rfl <| .cons (alone_going (by simp)) rfl <|
    .cons ⟨rfl, fun routed result verdict hcall _ => ?_⟩ rfl trivial
  exact verified_returning hcall (by decide +kernel)

theorem sampleStead_alone : Along (step sampleEngine .asGiven) (Alone sampleServices 0)
    sampleRouting sampleStead := by
  refine .cons (alone_going (by simp)) rfl <| .cons (alone_going (by simp)) rfl <|
    .cons (alone_going (by simp)) rfl <| .cons (alone_going (by simp)) rfl <|
    .cons (alone_going (by simp)) rfl <| .cons (alone_going (by simp)) rfl <|
    .cons (alone_going (by simp)) rfl <| .cons (alone_going (by simp)) rfl <|
    .cons (alone_going (by simp)) rfl <| .cons (alone_going (by simp)) rfl <|
    .cons (alone_going (by simp)) rfl <| .cons (alone_going (by simp)) rfl <|
    .cons (alone_going (by simp)) rfl <|
    .cons ⟨rfl, fun routed result verdict hcall hinput => ?_⟩ rfl trivial
  cases hinput
  exact verified_sample hcall (by decide +kernel)

def sampleFollow (labels : List Label) : Option (RuntimeService × Course × Ending) :=
  run (watched (step sampleEngine .asGiven) (noteCall 0))
    (sampleRouting, Course.begun sampleRouting "task", {}) labels

-- The call is over, and a task with a lease is left with this status.
def sampleLeft (status : RuntimeTaskStatus) (left : RuntimeService × Course × Ending) : Bool :=
  (left.1.calls 0).isNone && left.2.1.leased &&
    (left.1.tasks.lookup "task").map (·.status) = some status

theorem routing_outcome_followed_leased : ∃ t course ending,
    sampleFollow sampleRemote = some (t, course, ending) ∧ course.leased = true ∧
      Agrees course ending (t.tasks.lookup "task") := by
  have hruns : (sampleFollow sampleRemote).any (fun left => sampleLeft .leased left &&
      left.2.1.held && left.2.1.selected = "joymesh" && !left.2.1.unplaced &&
        left.2.1.recorded && left.2.1.since = []) = true := by decide +kernel
  obtain ⟨⟨t, course, ending⟩, hrun, hleft⟩ := (Option.any_eq_true _ _).mp hruns
  simp only [sampleLeft, Bool.and_eq_true, decide_eq_true_eq, Option.isNone_iff_eq_none,
    Bool.not_eq_true'] at hleft
  obtain ⟨⟨⟨⟨⟨⟨⟨hended, hleased⟩, -⟩, hheld⟩, hselected⟩, hplaced⟩, hrecorded⟩, hsince⟩ := hleft
  refine ⟨t, course, ending, hrun, hleased, (routing_outcome_followed sampleRouting_reached rfl rfl
    sampleRemote_alone hrun hended).mpr ⟨fun _ => ?_, fun _ hunplaced => ?_, fun _ _ hlast => ?_⟩⟩
  · split
    · exact ⟨hselected, hheld⟩
    · exact hrecorded
  · rw [hplaced] at hunplaced
    cases hunplaced
  · rw [hsince] at hlast
    cases hlast

-- The node has its lease and has done nothing yet when the task is said to have succeeded. The
-- registry is a custom one, whose local backend takes what joymesh takes.
theorem leased_task_succeeded : ∃ t course ending,
    Along (step sampleEngine .asGiven) (Alone sampleServices 0) sampleRouting sampleStead ∧
      sampleFollow sampleStead = some (t, course, ending) ∧ t.calls 0 = none ∧
      (t.tasks.lookup "task").map (·.status) = some .succeeded ∧
      ¬ Agrees course ending (t.tasks.lookup "task") := by
  have hruns : (sampleFollow sampleStead).any (sampleLeft .succeeded) = true := by decide +kernel
  obtain ⟨⟨t, course, ending⟩, hrun, hleft⟩ := (Option.any_eq_true _ _).mp hruns
  simp only [sampleLeft, Bool.and_eq_true, decide_eq_true_eq, Option.isNone_iff_eq_none] at hleft
  obtain ⟨⟨hended, hleased⟩, hstatus⟩ := hleft
  refine ⟨t, course, ending, sampleStead_alone, hrun, hended, hstatus, fun hagrees => ?_⟩
  obtain ⟨task, htask, hremains⟩ := hagrees.leased hleased
  rw [htask, Option.map_some, hremains] at hstatus
  cases hstatus

end Runs

end RuntimeService

end JoyMesh.Runtime
