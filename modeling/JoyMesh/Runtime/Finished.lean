import JoyMesh.Runtime.Moves

namespace JoyMesh.Runtime

open Library Routing Completion

def finishedStatuses : List RuntimeTaskStatus := [.succeeded, .failed, .cancelled]

namespace Call

-- What the call may still save is no harm to a task with this finished status.
def spares : Call → RuntimeTaskStatus → Bool
  | releasing .., _ => true
  | ingesting task .., _ => task.status ∈ endedStatuses
  | completing routed result, _ => routed.decision.selectedBackendId = "joymesh" && result.ok
  | cancelling _, status => status = .cancelled
  | cancelled _, status => status = .cancelled
  | retrying _, status => status = .failed
  | _, _ => false

-- The status that the call leaves its task with when it goes on like this.
def ends : Call → Input → Option RuntimeTaskStatus
  | completing routed result, .completed verdict =>
      if routed.decision.selectedBackendId = "joymesh" ∧ result.ok then none
      else some (finalRecord routed result verdict).status
  | ingesting task .., .completed verdict =>
      if verdict.failureClass ∈ lateFailures ∨ task.status ∈ endedStatuses then none
      else some (nodeStatus verdict)
  | cancelled _, .go => some .cancelled
  | _, _ => none

-- The copies that a call saves with the status that it has read.
def Unfinished : Call → Prop
  | selecting task _ => task.status ∉ finishedStatuses
  | selected routed => routed.task.status ∉ finishedStatuses
  | _ => True

end Call

namespace RuntimeService

variable (engine : PolicyEngine) (order : Iteration)

-- The step leaves succeeded and cancelled tasks so, and takes a failed task out
-- of its status only as the save of an approved retry_task.
def Keeps (s : RuntimeService) (label : Label) (t : RuntimeService) (taskId : String)
    (task : RuntimeTaskRecord) : Prop :=
  ∃ later, t.tasks.lookup taskId = some later ∧
    (task.status = .succeeded ∨ task.status = .cancelled → later.status = task.status) ∧
    (task.status = .failed → later.status = .failed ∨
      ∃ i copy, label = .resume i .go ∧ s.calls i = some (.retrying copy) ∧ copy.taskId = taskId)

def StepKeeps (s : RuntimeService) (label : Label) : Prop :=
  ∀ t, step engine order s label = some t →
    ∀ taskId task, s.tasks.lookup taskId = some task → s.Keeps label t taskId task

variable {engine order}

-- No operation takes a finished task for an unfinished one, and a call that
-- finishes a task does so while no other call is still to save what it has read.
def Orderly (s : RuntimeService) : Label → Prop
  | .start _ (.retryTask taskId failureClass) =>
      ∀ task ∈ s.tasks.lookup taskId, (s.retryDecision taskId task failureClass).retry = true →
        task.status ≠ .succeeded ∧ task.status ≠ .cancelled
  | .start _ (.markOffered taskId fencingToken) =>
      ∀ lease, (s.leases.respond (s.lease (.activeLease taskId))).1 = .ok (some lease) →
        lease.fencingToken = fencingToken →
          ∀ task ∈ s.tasks.lookup taskId, task.status ∉ finishedStatuses
  | .start _ (.nodeEvent taskId attemptId leaseId fencingToken eventType) =>
      eventType = "task.accepted" ∨ eventType = "task.started" →
        ∀ lease, (s.leases.respond
            (s.lease (.validateEvent taskId leaseId fencingToken attemptId))).1 = .ok lease →
          ∀ task ∈ s.tasks.lookup taskId, task.status ∉ finishedStatuses
  | .resume i input =>
      ∀ call ∈ s.calls i, ∀ status ∈ call.ends input, status ∈ finishedStatuses →
        ∀ j other, j ≠ i → s.calls j = some other → other.taskId = call.taskId →
          other.spares status = true
  | _ => True

structure FinishedInv (s : RuntimeService) : Prop where
  coherent : s.Coherent
  spared : ∀ i call, s.calls i = some call → ∀ task, s.tasks.lookup call.taskId = some task →
    task.status ∈ finishedStatuses → call.spares task.status = true
  unfinished : ∀ i call, s.calls i = some call → call.Unfinished

variable {s t : RuntimeService} {e : Effect} {taskId : String} {now : Time} {i : Nat}

-- What an effect has to be like for the calls of its task.
structure KeepsFinished (s : RuntimeService) (i : Nat) (e : Effect) (taskId : String) : Prop where
  -- a finished status is saved only over calls that spare it
  saves : ∀ task, e.saved = some task → task.status ∈ finishedStatuses →
    (∀ j call, j ≠ i → s.calls j = some call → call.taskId = taskId →
      call.spares task.status = true) ∧
    ∀ call, e.next = some call → call.spares task.status = true
  goes : e.saved = none → ∀ call, e.next = some call →
    ∀ task, s.tasks.lookup taskId = some task → task.status ∈ finishedStatuses →
      call.spares task.status = true
  unfinished : ∀ call, e.next = some call → call.Unfinished

theorem advance_finishedInv (hs : FinishedInv s) (hon : e.On taskId now)
    (hkeeps : KeepsFinished s i e taskId) : FinishedInv (s.advance i e) where
  coherent := advance_coherent hs.coherent hon
  spared := by
    intro j call hcall task htask hfinished
    by_cases hj : j = i
    · subst hj
      rw [advance_calls, Function.update_self] at hcall
      obtain ⟨hid, -⟩ := hon.next call hcall
      rw [hid] at htask
      cases hsaved : e.saved with
      | none =>
          rw [advance_unsaved hsaved] at htask
          exact hkeeps.goes hsaved call hcall task htask hfinished
      | some saved =>
          rw [advance_saved hsaved, hon.saved saved hsaved, AList.lookup_insert] at htask
          obtain rfl := Option.some.inj htask
          exact (hkeeps.saves saved hsaved hfinished).2 call hcall
    · rw [advance_calls, Function.update_of_ne hj] at hcall
      by_cases hid : call.taskId = taskId
      · cases hsaved : e.saved with
        | none =>
            rw [advance_unsaved hsaved] at htask
            exact hs.spared j call hcall task htask hfinished
        | some saved =>
            rw [advance_saved hsaved, hid, hon.saved saved hsaved, AList.lookup_insert] at htask
            obtain rfl := Option.some.inj htask
            exact (hkeeps.saves saved hsaved hfinished).1 j call hj hcall hid
      · rw [advance_tasks_other hon hid] at htask
        exact hs.spared j call hcall task htask hfinished
  unfinished := by
    intro j call hcall
    by_cases hj : j = i
    · subst hj
      rw [advance_calls, Function.update_self] at hcall
      exact hkeeps.unfinished call hcall
    · rw [advance_calls, Function.update_of_ne hj] at hcall
      exact hs.unfinished j call hcall

theorem ended_of_finished {status : RuntimeTaskStatus} (h : status ∈ finishedStatuses) :
    status ∈ endedStatuses := by
  revert h
  cases status <;> decide

section Starts

variable {operation : Operation} {calls : List TimedCall} {saved : Option RuntimeTaskRecord}
  {next : Option Call}

-- No operation begins with the save of a finished status.
theorem StartMove.saved_unfinished
    (hmove : StartMove engine order s operation calls saved next) :
    ∀ task, saved = some task → task.status ∉ finishedStatuses := by
  intro task htask
  cases hmove with
  | created hnew hcreated hrouting hgated =>
      obtain rfl := Option.some.inj htask
      rcases createTask_status hcreated with h | h | h <;> simp [h, finishedStatuses]
  | approved hl hs =>
      obtain rfl := Option.some.inj htask
      simp [finishedStatuses]
  | offered hl hlease htoken =>
      obtain rfl := Option.some.inj htask
      simp [finishedStatuses]
  | reported hl hvalid hstatus =>
      obtain rfl := Option.some.inj htask
      rcases hstatus with ⟨-, rfl⟩ | ⟨-, rfl⟩ <;> simp [finishedStatuses]
  | _ => cases htask

-- Nor with a save over a finished task.
theorem StartMove.saves_over_unfinished (hcond : Orderly s (.start i operation))
    (hmove : StartMove engine order s operation calls saved next) (hsaved : saved ≠ none) :
    ∀ task, s.tasks.lookup operation.taskId = some task → task.status ∉ finishedStatuses := by
  intro task htask
  cases hmove with
  | created hnew hcreated hrouting hgated => exact absurd (hnew.symm.trans htask) (by simp)
  | approved hl hs =>
      obtain rfl := Option.some.inj (hl.symm.trans htask)
      simp [hs, finishedStatuses]
  | offered hl hlease htoken => exact hcond _ hlease htoken task htask
  | reported hl hvalid hstatus =>
      exact hcond (hstatus.imp And.left And.left) _ hvalid task htask
  | _ => exact absurd rfl hsaved

theorem StartMove.next_spares (hcond : Orderly s (.start i operation))
    (hmove : StartMove engine order s operation calls saved next) (hsaved : saved = none) :
    ∀ call, next = some call → ∀ task, s.tasks.lookup operation.taskId = some task →
      task.status ∈ finishedStatuses → call.spares task.status = true := by
  intro call hcall task htask hfinished
  cases hmove with
  | created hnew hcreated hrouting hgated => cases hsaved
  | approved hl hs => cases hsaved
  | ended hl hvalid =>
      obtain rfl := Option.some.inj hcall
      obtain rfl := Option.some.inj (hl.symm.trans htask)
      exact decide_eq_true (ended_of_finished hfinished)
  | cancelling hl hs =>
      obtain rfl := Option.some.inj (hl.symm.trans htask)
      exact absurd (ended_of_finished hfinished) hs
  | retrying hl hretry =>
      obtain rfl := Option.some.inj hcall
      obtain rfl := Option.some.inj (hl.symm.trans htask)
      obtain ⟨hsucceeded, hcancelled⟩ := hcond _ hl hretry
      refine decide_eq_true ?_
      simpa [finishedStatuses, hsucceeded, hcancelled] using hfinished
  | _ => cases hcall

theorem StartMove.next_unfinished (hmove : StartMove engine order s operation calls saved next) :
    ∀ call, next = some call → call.Unfinished := by
  intro call hcall
  cases hmove with
  | created hnew hcreated hrouting hgated =>
      rename_i skipRouting task
      by_cases hstatus : task.status = .routing
      · rw [hrouting hstatus] at hcall
        obtain rfl := Option.some.inj hcall
        cases skipRouting <;> trivial
      · rw [hgated hstatus] at hcall
        cases hcall
  | approved hl hs =>
      obtain rfl := Option.some.inj hcall
      trivial
  | ended hl hvalid =>
      obtain rfl := Option.some.inj hcall
      trivial
  | cancelling hl hs =>
      obtain rfl := Option.some.inj hcall
      trivial
  | retrying hl hretry =>
      obtain rfl := Option.some.inj hcall
      trivial
  | _ => cases hcall

end Starts

section Moves

variable {call : Call} {input : Input} {calls : List TimedCall}
  {attempt : Option ExecutionAttempt} {saved : Option RuntimeTaskRecord} {next : Option Call}

theorem leaves_unfinished {routed : Routed} {rest : List String} (h : Leaves routed rest next) :
    ∀ call, next = some call → call.Unfinished := by
  intro call hcall
  cases h with
  | ends => cases hcall
  | completes result =>
      obtain rfl := Option.some.inj hcall
      trivial
  | tries p =>
      obtain rfl := Option.some.inj hcall
      trivial

-- A finished status is saved by a call that ends the task, and only its lease
-- is then left to release.
theorem Move.saved_ends (hmove : Move s call input calls attempt saved next)
    (hu : call.Unfinished) :
    ∀ task, saved = some task → task.status ∈ finishedStatuses →
      call.ends input = some task.status ∧
        ∀ after, next = some after → after.spares task.status = true := by
  intro task htask hfinished
  cases hmove with
  | decides =>
      obtain rfl := Option.some.inj htask
      exact absurd hfinished hu
  | annotates =>
      obtain rfl := Option.some.inj htask
      exact absurd hfinished hu
  | completes hwrites =>
      obtain rfl := Option.some.inj htask
      exact ⟨by simp only [Call.ends, if_neg hwrites], by simp⟩
  | ingests hlate hs =>
      obtain rfl := Option.some.inj htask
      refine ⟨by simp [Call.ends, hlate, hs], fun after hafter => ?_⟩
      obtain rfl := Option.some.inj hafter
      rfl
  | cancels =>
      obtain rfl := Option.some.inj htask
      exact ⟨rfl, by simp⟩
  | queues =>
      obtain rfl := Option.some.inj htask
      simp [RuntimeTaskRecord.queue, finishedStatuses] at hfinished
  | refuses =>
      obtain rfl := Option.some.inj htask
      simp [finishedStatuses] at hfinished
  | queuesRemotely =>
      obtain rfl := Option.some.inj htask
      simp [Routed.queuedRemotely, finishedStatuses] at hfinished
  | leases =>
      obtain rfl := Option.some.inj htask
      simp [Routed.leasedRemotely, finishedStatuses] at hfinished
  | reroutes =>
      obtain rfl := Option.some.inj htask
      simp [reset, finishedStatuses] at hfinished
  | _ => cases htask

-- A call that spares a finished task goes on as one that does.
theorem Move.next_spares (hmove : Move s call input calls attempt saved next) (hsaved : saved = none)
    {status : RuntimeTaskStatus} (hspares : call.spares status = true) :
    ∀ after, next = some after → after.spares status = true := by
  intro after hafter
  cases hmove with
  | frees hcalls =>
      obtain rfl := Option.some.inj hafter
      exact hspares
  | stops hcalls => cases hafter
  | ingests hlate hs => cases hsaved
  | reroutes => cases hsaved
  | cancels => cases hafter
  | completes hwrites => cases hsaved
  | _ => cases hspares

theorem Move.next_unfinished (hmove : Move s call input calls attempt saved next)
    (hu : call.Unfinished)
    (hspared : ∀ task, s.tasks.lookup call.taskId = some task →
      task.status ∈ finishedStatuses → call.spares task.status = true) :
    ∀ after, next = some after → after.Unfinished := by
  intro after hafter
  cases hmove with
  | enters hl =>
      obtain rfl := Option.some.inj hafter
      intro hfinished
      exact absurd (hspared _ hl hfinished) (by simp [Call.spares])
  | decides =>
      obtain rfl := Option.some.inj hafter
      exact hu
  | passesOver hnext => exact leaves_unfinished hnext after hafter
  | unprepared hnext => exact leaves_unfinished hnext after hafter
  | refusesLease hrequest hlease hnext => exact leaves_unfinished hnext after hafter
  | unsubmitted hnext => exact leaves_unfinished hnext after hafter
  | ungranted hnext => exact leaves_unfinished hnext after hafter
  | unrecorded hnext => exact leaves_unfinished hnext after hafter
  | returns hinput hnext => exact leaves_unfinished hnext after hafter
  | executed hnext => exact leaves_unfinished hnext after hafter
  | _ =>
      cases hafter <;> trivial

-- A save over a finished task: a cancellation cancels it once more, or an
-- approved retry takes it out of its failure.
theorem Move.saves_over (hmove : Move s call input calls attempt saved next)
    {status : RuntimeTaskStatus} (hspares : call.spares status = true) :
    ∀ task, saved = some task → (status = .cancelled ∧ task.status = .cancelled) ∨
      (status = .failed ∧ input = .go ∧ ∃ copy, call = .retrying copy) := by
  intro task htask
  cases hmove with
  | cancels =>
      obtain rfl := Option.some.inj htask
      exact .inl ⟨of_decide_eq_true hspares, rfl⟩
  | reroutes => exact .inr ⟨of_decide_eq_true hspares, rfl, _, rfl⟩
  | completes hwrites => exact absurd (by simpa [Call.spares] using hspares) hwrites
  | ingests hlate hs => exact absurd (of_decide_eq_true hspares) hs
  | stops hcalls => cases htask
  | frees hcalls => cases htask
  | _ => cases hspares

end Moves

theorem FinishedInv.step {label : Label} (hs : FinishedInv s) (hcond : Orderly s label)
    (h : step engine order s label = some t) : FinishedInv t := by
  rcases step_cases h with ⟨later, rfl, -, rfl⟩ | ⟨i, operation, e, rfl, -, he, rfl⟩ |
    ⟨i, input, call, e, rfl, hcall, he, rfl⟩
  · exact ⟨⟨hs.coherent.leases, hs.coherent.stored, hs.coherent.calls⟩, hs.spared, hs.unfinished⟩
  · obtain ⟨-, hmove⟩ := startOperation_move he
    refine advance_finishedInv hs (startOperation_on hs.coherent he) ⟨?_, ?_, ?_⟩
    · intro task hsaved hfinished
      exact absurd hfinished (hmove.saved_unfinished task hsaved)
    · exact fun hsaved => hmove.next_spares hcond hsaved
    · exact hmove.next_unfinished
  · have hmove := proceed_move hs.coherent he
    have hon := proceed_on hs.coherent (hs.coherent.calls i call hcall) he
    refine advance_finishedInv hs hon ⟨?_, ?_, ?_⟩
    · intro task hsaved hfinished
      obtain ⟨hends, hnext⟩ := hmove.saved_ends (hs.unfinished i call hcall) task hsaved hfinished
      exact ⟨hcond call hcall task.status hends hfinished, hnext⟩
    · intro hsaved after hafter task htask hfinished
      exact hmove.next_spares hsaved (hs.spared i call hcall task htask hfinished) after hafter
    · exact hmove.next_unfinished (hs.unfinished i call hcall) (hs.spared i call hcall)

theorem initial_finishedInv {ttl : Time} : FinishedInv (initial ttl) where
  coherent := initial_coherent
  spared := by simp [initial]
  unfinished := by simp [initial]

section Keeping

variable {task : RuntimeTaskRecord} {label : Label}

theorem Keeps.unchanged (h : t.tasks.lookup taskId = some task) : s.Keeps label t taskId task :=
  ⟨task, h, fun _ => rfl, fun hfailed => .inl hfailed⟩

theorem start_keeps (hs : FinishedInv s) {operation : Operation}
    (hcond : Orderly s (.start i operation))
    (he : s.startOperation engine order operation = some e)
    (htask : s.tasks.lookup taskId = some task) :
    s.Keeps (.start i operation) (s.advance i e) taskId task := by
  have hon := startOperation_on hs.coherent he
  obtain ⟨-, hmove⟩ := startOperation_move he
  by_cases hid : taskId = operation.taskId
  · cases hsaved : e.saved with
    | none => exact .unchanged (by rwa [advance_unsaved hsaved])
    | some saved =>
        have hunfinished : task.status ∉ finishedStatuses :=
          hmove.saves_over_unfinished hcond (by simp [hsaved]) task (hid ▸ htask)
        refine ⟨saved, ?_, fun hfinished => ?_, fun hfailed => ?_⟩
        · rw [advance_saved hsaved, hon.saved saved hsaved, hid]
          exact AList.lookup_insert _
        · exact absurd (by rcases hfinished with h | h <;> simp [h, finishedStatuses]) hunfinished
        · exact absurd (by simp [hfailed, finishedStatuses]) hunfinished
  · exact .unchanged (by rwa [advance_tasks_other hon hid])

theorem resume_keeps (hs : FinishedInv s) {call : Call} {input : Input}
    (hcall : s.calls i = some call) (he : s.proceed call input = some e)
    (htask : s.tasks.lookup taskId = some task) :
    s.Keeps (.resume i input) (s.advance i e) taskId task := by
  have hmove := proceed_move hs.coherent he
  have hon := proceed_on hs.coherent (hs.coherent.calls i call hcall) he
  by_cases hid : taskId = call.taskId
  · subst hid
    cases hsaved : e.saved with
    | none => exact .unchanged (by rwa [advance_unsaved hsaved])
    | some saved =>
        have hover : task.status ∈ finishedStatuses → _ := fun hfinished =>
          hmove.saves_over (hs.spared i call hcall task htask hfinished) saved hsaved
        refine ⟨saved, ?_, fun hfinished => ?_, fun hfailed => ?_⟩
        · rw [advance_saved hsaved, hon.saved saved hsaved]
          exact AList.lookup_insert _
        · rcases hover (by rcases hfinished with h | h <;> simp [h, finishedStatuses]) with
            ⟨hwas, his⟩ | ⟨hwas, -⟩
          · rw [hwas, his]
          · simp [hwas] at hfinished
        · rcases hover (by simp [hfailed, finishedStatuses]) with ⟨hwas, -⟩ | ⟨-, rfl, copy, rfl⟩
          · simp [hwas] at hfailed
          · exact .inr ⟨i, copy, rfl, hcall, rfl⟩
  · exact .unchanged (by rwa [advance_tasks_other hon hid])

theorem FinishedInv.keeps (hs : FinishedInv s) (hcond : Orderly s label) :
    StepKeeps engine order s label := by
  intro t h taskId task htask
  rcases step_cases h with ⟨later, -, -, rfl⟩ | ⟨i, operation, e, rfl, -, he, rfl⟩ |
    ⟨i, input, call, e, rfl, hcall, he, rfl⟩
  · exact .unchanged htask
  · exact start_keeps hs hcond he htask
  · exact resume_keeps hs hcall he htask

end Keeping

-- Over every run and interleaving.
theorem finished_kept {ttl : Time} {labels : List Label}
    (hcond : Along (step engine order) Orderly (initial ttl) labels) :
    Along (step engine order) (StepKeeps engine order) (initial ttl) labels :=
  Along.of_invariant (fun _ _ _ hs hc h => hs.step hc h) (fun _ _ hs hc => hs.keeps hc)
    initial_finishedInv hcond

section Runs

-- A task that awaits its approval is cancelled.
def sampleCancelled : List Label :=
  [.start 0 (.createTask "task" samplePatch false), .start 1 (.cancelTask "task"), .resume 1 .go,
    .resume 1 .go]

def sampleAwaiting : RuntimeService :=
  (initial 60).advance 0 { saved := some samplePatchTask, answer := some (.ok samplePatchTask) }

theorem step_samplePatch :
    step sampleEngine .asGiven (initial 60) (.start 0 (.createTask "task" samplePatch false)) =
      some sampleAwaiting := by
  have hstart : (initial 60).createTask sampleEngine .asGiven "task" samplePatch false =
      some { saved := some samplePatchTask, answer := some (.ok samplePatchTask) } := by
    simp only [RuntimeService.createTask, samplePatch_created]
    rfl
  simp only [step, startOperation, hstart]
  rfl

theorem orderly_of_alone {input : Input} (h : ∀ j, j ≠ i → s.calls j = none) :
    Orderly s (.resume i input) := by
  intro call _ status _ _ j other hj hother
  rw [h j hj] at hother
  cases hother

theorem userCancelled_refused {task : RuntimeTaskRecord} :
    (s.retryDecision taskId task .userCancelled).retry = false := by
  unfold retryDecision decideRetry
  split <;> rfl

-- Then it is to be retried as one that the user has cancelled.
def sampleRefused : List Label := sampleCancelled ++ [.start 2 (.retryTask "task" .userCancelled)]

theorem sampleRefused_along :
    Along (step sampleEngine .asGiven) Orderly (initial 60) sampleRefused := by
  have halone : ∀ j, j ≠ 1 → sampleAwaiting.calls j = none := by
    intro j hj
    by_cases h : j = 0 <;> simp [sampleAwaiting, initial, h]
  refine ⟨trivial, fun s hs => ?_⟩
  obtain rfl := Option.some.inj (step_samplePatch.symm.trans hs)
  refine ⟨trivial, fun s hs => ?_⟩
  obtain rfl : sampleAwaiting.advance 1 { next := some (.cancelling samplePatchTask) } = s :=
    Option.some.inj hs
  refine ⟨orderly_of_alone fun j hj => ?_, fun s hs => ?_⟩
  · rw [advance_calls, Function.update_of_ne hj]
    exact halone j hj
  obtain rfl := Option.some.inj hs
  refine ⟨orderly_of_alone fun j hj => ?_, fun _ _ => ⟨fun task _ hretry => ?_, fun _ _ => trivial⟩⟩
  · rw [advance_calls, Function.update_of_ne hj, advance_calls, Function.update_of_ne hj]
    exact halone j hj
  · rw [userCancelled_refused] at hretry
    cases hretry

theorem finished_kept_refused :
    Along (step sampleEngine .asGiven) (StepKeeps sampleEngine .asGiven) (initial 60)
      sampleRefused :=
  finished_kept sampleRefused_along

-- The cancelled task is retried as if its node had been unavailable.
theorem cancelled_routed : ∃ s,
    run (step sampleEngine .asGiven) (initial 60)
      (sampleCancelled ++ [.start 2 (.retryTask "task" .nodeUnavailable)]) = some s ∧
        ¬StepKeeps sampleEngine .asGiven s (.resume 2 .go) := by
  rw [sampleCancelled, List.cons_append, run_cons, step_samplePatch]
  refine ⟨_, rfl, fun h => ?_⟩
  obtain ⟨later, hlater, hkept, -⟩ := h _ rfl "task" (cancelledRecord samplePatchTask) rfl
  have hlater : some (reset (cancelledRecord samplePatchTask)) = some later := hlater
  obtain rfl := Option.some.inj hlater
  exact absurd (hkept (.inr rfl)) (by decide)

end Runs

end RuntimeService

end JoyMesh.Runtime
