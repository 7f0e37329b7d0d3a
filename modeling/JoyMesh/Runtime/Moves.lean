import JoyMesh.Runtime.Frames

namespace JoyMesh.Runtime

open Library Routing Completion

def TimedCall.Acquires (timed : TimedCall) : Prop :=
  ∃ leaseId request, timed.call = .acquire leaseId request

-- Where a turn leaves the loop of execute_with_fallback.
inductive Leaves (routed : Routed) (rest : List String) : Option Call → Prop
  | ends : Leaves routed rest none
  | completes (result : ExecutionResult) : Leaves routed rest (some (.completing routed result))
  | tries (p : Progress) : Leaves routed rest (some (.trying routed p rest))

namespace RuntimeService

-- The effects that an operation can begin with.
inductive StartMove (engine : PolicyEngine) (order : Iteration) (s : RuntimeService) :
    Operation → List TimedCall → Option RuntimeTaskRecord → Option Call → Prop
  | invalid {taskId body skipRouting error}
      (herror : Runtime.createTask engine order body taskId = .error error) :
      StartMove engine order s (.createTask taskId body skipRouting) [] none none
  | unapproved {taskId}
      (hs : ∀ task, s.tasks.lookup taskId = some task → task.status ≠ .approvalRequired) :
      StartMove engine order s (.approveTask taskId) [] none none
  | idle {operation calls} (hcalls : ∀ timed ∈ calls, ¬timed.Acquires)
      (hcreate : ∀ taskId body skipRouting, operation ≠ .createTask taskId body skipRouting)
      (happrove : ∀ taskId, operation ≠ .approveTask taskId) :
      StartMove engine order s operation calls none none
  | created {taskId body skipRouting task next} (hnew : s.tasks.lookup taskId = none)
      (hcreated : Runtime.createTask engine order body taskId = .ok task)
      (hrouting : task.status = .routing →
        next = some (if skipRouting then .queueing task else .routing taskId))
      (hgated : task.status ≠ .routing → next = none) :
      StartMove engine order s (.createTask taskId body skipRouting) [] (some task) next
  | approved {taskId task} (hl : s.tasks.lookup taskId = some task)
      (hs : task.status = .approvalRequired) :
      StartMove engine order s (.approveTask taskId) []
        (some { task with status := .routing, approvalRequired := false })
        (some (.routing taskId))
  | offered {taskId token task lease} (hl : s.tasks.lookup taskId = some task)
      (hlease : (s.leases.respond (s.lease (.activeLease taskId))).1 = .ok (some lease))
      (htoken : lease.fencingToken = token) :
      StartMove engine order s (.markOffered taskId token) [s.lease (.activeLease taskId)]
        (some { task with status := .offered }) none
  | reported {taskId attemptId leaseId token eventType task status lease}
      (hl : s.tasks.lookup taskId = some task)
      (hvalid : (s.leases.respond (s.lease (.validateEvent taskId leaseId token attemptId))).1 =
        .ok lease)
      (hstatus : eventType = "task.accepted" ∧ status = .accepted ∨
        eventType = "task.started" ∧ status = .running) :
      StartMove engine order s (.nodeEvent taskId attemptId leaseId token eventType)
        [s.lease (.validateEvent taskId leaseId token attemptId)]
        (some { task with status := status }) none
  | ended {taskId attemptId leaseId token eventType task lease}
      (hl : s.tasks.lookup taskId = some task)
      (hvalid : (s.leases.respond (s.lease (.validateEvent taskId leaseId token attemptId))).1 =
        .ok lease) :
      StartMove engine order s (.nodeEvent taskId attemptId leaseId token eventType)
        [s.lease (.validateEvent taskId leaseId token attemptId)] none
        (some (.ingesting task token eventType))
  | cancelling {taskId task} (hl : s.tasks.lookup taskId = some task)
      (hs : task.status ∉ endedStatuses) :
      StartMove engine order s (.cancelTask taskId) [] none (some (.cancelling task))
  | retrying {taskId failureClass task} (hl : s.tasks.lookup taskId = some task)
      (hretry : (s.retryDecision taskId task failureClass).retry = true) :
      StartMove engine order s (.retryTask taskId failureClass) [] none (some (.retrying task))

-- The effects that a suspended call can go on with.
inductive Move (s : RuntimeService) : Call → Input → List TimedCall → Option ExecutionAttempt →
    Option RuntimeTaskRecord → Option Call → Prop
  | stops {call input calls} (hcalls : ∀ timed ∈ calls, ¬timed.Acquires) :
      Move s call input calls none none none
  | queues {task} : Move s (.queueing task) .go [] none (some task.queue) none
  | enters {taskId task planning intent} (hl : s.tasks.lookup taskId = some task) :
      Move s (.routing taskId) (.planned planning) [] none none (some (.selecting task intent))
  | refuses {task intent error} :
      Move s (.selecting task intent) (.chosen (.error error)) [] none
        (some { task with
          status := .rejected
          detail := some error.text
          executionId := some intent.executionId }) none
  | decides {task intent decision} :
      Move s (.selecting task intent) (.chosen (.ok decision)) [] none
        (some (Routed.decided task decision))
        (some (.selected ⟨Routed.decided task decision, intent, decision⟩))
  | annotates {routed} :
      Move s (.selected routed) .go [] none (some routed.annotated.task)
        (some (.handing routed.annotated))
  | passes {routed} : Move s (.selected routed) .go [] none none (some (.handing routed))
  | duplicate {routed leaseId attemptId stamp ended}
      (hworker : codingWorkerRoute routed.decision = true) :
      Move s (.handing routed) (.handed leaseId attemptId stamp)
        [s.lease (.activeLease routed.task.taskId)] none none
        (some (.completing routed (workerResult routed ended)))
  | works {routed leaseId attemptId stamp request lease}
      (hworker : codingWorkerRoute routed.decision = true)
      (hrequest : request.taskId = routed.task.taskId)
      (hlease : ((s.leases.respond (s.lease (.activeLease routed.task.taskId))).2.respond
        (s.lease (.acquire leaseId request) stamp)).1 = .ok (some lease)) :
      Move s (.handing routed) (.handed leaseId attemptId stamp)
        [s.lease (.activeLease routed.task.taskId), s.lease (.acquire leaseId request) stamp]
        none none (some (.working routed lease))
  | unleased {routed leaseId attemptId stamp request refusal}
      (hworker : codingWorkerRoute routed.decision = true)
      (hlease : ((s.leases.respond (s.lease (.activeLease routed.task.taskId))).2.respond
        (s.lease (.acquire leaseId request) stamp)).1 = .error refusal) :
      Move s (.handing routed) (.handed leaseId attemptId stamp)
        [s.lease (.activeLease routed.task.taskId), s.lease (.acquire leaseId request) stamp]
        none none none
  | loops {routed leaseId attemptId stamp}
      (hworker : codingWorkerRoute routed.decision = false) :
      Move s (.handing routed) (.handed leaseId attemptId stamp) [] none none
        (some (.trying routed routed.entered routed.decision.order))
  | beats {routed lease input call renewed} (hcall : ¬call.Acquires)
      (hrenewed : renewed.taskId = lease.taskId) :
      Move s (.working routed lease) input [call] none none (some (.working routed renewed))
  | workerEnds {routed lease input calls ended} (hcalls : ∀ timed ∈ calls, ¬timed.Acquires) :
      Move s (.working routed lease) input calls none none
        (some (.completing routed (workerResult routed ended)))
  | exhausts {routed p result} :
      Move s (.trying routed p []) .go [] none none (some (.completing routed result))
  | passesOver {routed p backendId rest input next} (hnext : Leaves routed rest next) :
      Move s (.trying routed p (backendId :: rest)) input [] none none next
  | opens {routed p rest input} {turn : BackendTurn} (hrouted : turn.routed = routed)
      (hrest : turn.rest = rest) :
      Move s (.trying routed p (turn.backendId :: rest)) input [] none none (some (.preparing turn))
  | submits {turn candidates fresh} (hbackend : turn.backendId = "joymesh")
      (hl : s.tasks.lookup turn.routed.task.taskId = some fresh) :
      Move s (.preparing turn) (.ranked candidates) [] none none
        (some (.submitting turn fresh candidates))
  | executes {turn} (hbackend : turn.backendId ≠ "joymesh") :
      Move s (.preparing turn) (.prepared (.returned ())) [] none none (some (.executing turn.ready))
  | unprepared {turn input next} (hnext : Leaves turn.routed turn.rest next) :
      Move s (.preparing turn) input [] none none next
  | queuesRemotely {turn fresh candidates leaseId attemptId stamp detail submission} :
      Move s (.submitting turn fresh candidates) (.leasing leaseId attemptId stamp) [] none
        (some (turn.routed.queuedRemotely fresh detail)) (some (.remote turn submission))
  | grants {turn fresh candidates leaseId attemptId stamp request lease number}
      (hrequest : request.taskId = fresh.taskId)
      (hlease : (s.leases.respond (s.lease (.acquire leaseId request) stamp)).1 =
        .ok (some lease))
      (hnumber : number = (s.attemptsOf fresh.taskId).length + 1) :
      Move s (.submitting turn fresh candidates) (.leasing leaseId attemptId stamp)
        [s.lease (.acquire leaseId request) stamp] none none
        (some (.granted turn fresh lease number))
  | refusesLease {turn fresh candidates leaseId attemptId stamp request refusal next}
      (hrequest : request.taskId = fresh.taskId)
      (hlease : (s.leases.respond (s.lease (.acquire leaseId request) stamp)).1 =
        .error refusal)
      (hnext : Leaves turn.routed turn.rest next) :
      Move s (.submitting turn fresh candidates) (.leasing leaseId attemptId stamp)
        [s.lease (.acquire leaseId request) stamp] none none next
  | unsubmitted {turn fresh candidates error next} (hnext : Leaves turn.routed turn.rest next) :
      Move s (.submitting turn fresh candidates) (.raised error) [] none none next
  | records {turn fresh lease number} :
      Move s (.granted turn fresh lease number) .go [] (some (executionAttempt fresh lease number))
        none (some (.recorded turn fresh lease))
  | ungranted {turn fresh lease number error next} (hnext : Leaves turn.routed turn.rest next) :
      Move s (.granted turn fresh lease number) (.raised error) [] none none next
  | leases {turn fresh lease} :
      Move s (.recorded turn fresh lease) .go [] none
        (some (turn.routed.leasedRemotely fresh lease)) (some (.remote turn { status := "leased" }))
  | unrecorded {turn fresh lease error next} (hnext : Leaves turn.routed turn.rest next) :
      Move s (.recorded turn fresh lease) (.raised error) [] none none next
  | staysLeased {turn submission result} (hleased : submission.status = "leased") :
      Move s (.remote turn submission) (.validated (.returned ())) [] none none
        (some (.completing turn.routed result))
  | returns {turn submission input next}
      (hinput : submission.status = "leased" →
        (∃ error, input = .raised error) ∨ ∃ error, input = .validated (.raised error))
      (hnext : Leaves turn.routed turn.rest next) :
      Move s (.remote turn submission) input [] none none next
  | executed {turn input next} (hnext : Leaves turn.routed turn.rest next) :
      Move s (.executing turn) input [] none none next
  | completes {routed result verdict}
      (hwrites : ¬(routed.decision.selectedBackendId = "joymesh" ∧ result.ok = true)) :
      Move s (.completing routed result) (.completed verdict) [] none
        (some (finalRecord routed result verdict)) none
  | ingests {task token eventType verdict} (hlate : verdict.failureClass ∉ lateFailures)
      (hs : task.status ∉ endedStatuses) :
      Move s (.ingesting task token eventType) (.completed verdict) [] none
        (some { task with status := nodeStatus verdict, detail := some verdict.detail })
        (some (.releasing task.taskId token))
  | frees {task input calls} (hcalls : ∀ timed ∈ calls, ¬timed.Acquires) :
      Move s (.cancelling task) input calls none none (some (.cancelled task))
  | cancels {task} :
      Move s (.cancelled task) .go [] none (some (cancelledRecord task)) none
  | reroutes {task} :
      Move s (.retrying task) .go [] none (some (reset task)) (some (.routing task.taskId))

variable {engine : PolicyEngine} {order : Iteration} {s t : RuntimeService} {e : Effect}
  {taskId : String} {i : Nat} {stamp : Time}

-- The effect has no traces but the place that the call goes to.
structure Plain (e : Effect) (routed : Routed) (rest : List String) : Prop where
  leaseCalls : e.leaseCalls = []
  attempt : e.attempt = none
  saved : e.saved = none
  next : Leaves routed rest e.next

theorem afterTurn_plain {routed : Routed} {rest : List String} {ended : TurnEnd × Progress} :
    Plain (afterTurn routed rest ended) routed rest := by
  obtain ⟨ended, p⟩ := ended
  cases ended with
  | finish outcome =>
      cases outcome with
      | returned result => exact ⟨rfl, rfl, rfl, .completes result⟩
      | raised error => exact ⟨rfl, rfl, rfl, .ends⟩
      | aborted error => exact ⟨rfl, rfl, rfl, .ends⟩
  | stop => exact ⟨rfl, rfl, rfl, .completes _⟩
  | next => exact ⟨rfl, rfl, rfl, .tries p⟩

section Turns

variable {turn : BackendTurn}

theorem leave_plain {ended : TurnEnd × Progress} :
    Plain (turn.leave ended) turn.routed turn.rest :=
  afterTurn_plain

theorem fail_plain {error : PyError} : Plain (turn.fail error) turn.routed turn.rest := by
  unfold BackendTurn.fail
  exact leave_plain

theorem execute_plain {outcome : Outcome BackendResult} :
    Plain (turn.execute outcome) turn.routed turn.rest := by
  cases outcome with
  | returned result =>
      have h : Plain ((turn.called (.execute turn.backendId (.returned result))).finish result)
          turn.routed turn.rest := leave_plain
      exact h
  | raised error =>
      have h : Plain ((turn.called (.execute turn.backendId (.raised error))).fail error)
          turn.routed turn.rest := fail_plain
      exact h
  | aborted error => exact ⟨rfl, rfl, rfl, .ends⟩

-- A submission that was leased ends the loop.
theorem leased_completes {submission : Submission} (h : submission.status = "leased") :
    ∃ result, turn.execute (.returned (joymeshResult submission)) =
      { next := some (.completing turn.routed result) } := by
  obtain ⟨status, message⟩ := submission
  obtain rfl : status = "leased" := h
  exact ⟨_, rfl⟩

end Turns

theorem not_acquires {call : LeaseCall} (h : ∀ leaseId request, call ≠ .acquire leaseId request) :
    ∀ timed ∈ [s.lease call stamp], ¬timed.Acquires := by
  intro timed ht ⟨leaseId, request, hcall⟩
  obtain rfl := List.mem_singleton.mp ht
  exact h leaseId request hcall

-- Every way that an operation can begin.
theorem startOperation_move {operation : Operation}
    (h : s.startOperation engine order operation = some e) :
    e.attempt = none ∧ StartMove engine order s operation e.leaseCalls e.saved e.next := by
  cases operation with
  | createTask taskId body skipRouting =>
      have hcreate : s.createTask engine order taskId body skipRouting = some e := h
      unfold createTask at hcreate
      split at hcreate
      · cases hcreate
      next hnew =>
        have hnew : s.tasks.lookup taskId = none := by simpa using hnew
        split at hcreate
        next error herror =>
          obtain rfl := Option.some.inj hcreate
          exact ⟨rfl, .invalid herror⟩
        next task hcreated =>
          split at hcreate
          next hrouting =>
            obtain rfl := Option.some.inj hcreate
            exact ⟨rfl, .created hnew hcreated (fun _ => rfl) fun hn => absurd hrouting hn⟩
          next hrouting =>
            obtain rfl := Option.some.inj hcreate
            exact ⟨rfl, .created hnew hcreated (fun hr => absurd hr hrouting) fun _ => rfl⟩
  | approveTask taskId =>
      obtain rfl := Option.some.inj h
      unfold approveTask withTask
      cases hl : s.tasks.lookup taskId with
      | none => exact ⟨rfl, .unapproved (by simp [hl])⟩
      | some task =>
          dsimp only
          cases happroved : task.approve with
          | error error =>
              refine ⟨rfl, .unapproved fun other ho => ?_⟩
              obtain rfl : task = other := Option.some.inj (hl.symm.trans ho)
              intro hs
              simp [RuntimeTaskRecord.approve, hs] at happroved
          | ok approved =>
              unfold RuntimeTaskRecord.approve at happroved
              split at happroved
              · cases happroved
              next hs =>
                obtain rfl := Except.ok.inj happroved
                exact ⟨rfl, .approved hl (not_not.mp hs)⟩
  | markOffered taskId fencingToken =>
      obtain rfl := Option.some.inj h
      have hcalls : ∀ timed ∈ [s.lease (.activeLease taskId)], ¬timed.Acquires :=
        not_acquires (by simp)
      unfold markOffered withTask
      dsimp only
      split
      next lease hlease =>
        split
        · exact ⟨rfl, .idle hcalls (by simp) (by simp)⟩
        next htoken =>
          cases hl : s.tasks.lookup taskId with
          | none => exact ⟨rfl, .idle hcalls (by simp) (by simp)⟩
          | some task => exact ⟨rfl, .offered hl hlease (not_not.mp htoken)⟩
      · exact ⟨rfl, .idle hcalls (by simp) (by simp)⟩
  | nodeEvent taskId attemptId leaseId fencingToken eventType =>
      obtain rfl := Option.some.inj h
      have hcalls : ∀ timed ∈ [s.lease (.validateEvent taskId leaseId fencingToken attemptId)],
          ¬timed.Acquires := not_acquires (by simp)
      unfold nodeEvent withTask
      dsimp only
      split
      · exact ⟨rfl, .idle hcalls (by simp) (by simp)⟩
      next answered hanswer =>
        cases hl : s.tasks.lookup taskId with
        | none => exact ⟨rfl, .idle hcalls (by simp) (by simp)⟩
        | some task =>
            dsimp only
            split_ifs with haccepted hstarted
            · exact ⟨rfl, .reported hl hanswer (.inl ⟨haccepted, rfl⟩)⟩
            · exact ⟨rfl, .reported hl hanswer (.inr ⟨hstarted, rfl⟩)⟩
            · exact ⟨rfl, .ended hl hanswer⟩
            · exact ⟨rfl, .idle hcalls (by simp) (by simp)⟩
  | cancelTask taskId =>
      obtain rfl := Option.some.inj h
      unfold cancelTask withTask
      cases hl : s.tasks.lookup taskId with
      | none => exact ⟨rfl, .idle (by simp [raised]) (by simp) (by simp)⟩
      | some task =>
          dsimp only
          split
          · exact ⟨rfl, .idle (by simp) (by simp) (by simp)⟩
          next hs => exact ⟨rfl, .cancelling hl hs⟩
  | retryTask taskId failureClass =>
      obtain rfl := Option.some.inj h
      unfold retryTask withTask
      cases hl : s.tasks.lookup taskId with
      | none => exact ⟨rfl, .idle (by simp [raised]) (by simp) (by simp)⟩
      | some task =>
          dsimp only
          split
          next hretry => exact ⟨rfl, .retrying hl hretry⟩
          · exact ⟨rfl, .idle (by simp [raised]) (by simp) (by simp)⟩
  | heartbeat taskId fencingToken stamp =>
      obtain rfl := Option.some.inj h
      exact ⟨rfl, .idle (not_acquires (by simp)) (by simp) (by simp)⟩
  | lookUpLease taskId =>
      obtain rfl := Option.some.inj h
      exact ⟨rfl, .idle (not_acquires (by simp)) (by simp) (by simp)⟩

-- An acquisition that is not refused answers with the lease.
theorem acquire_ne_none {leases : LeaseService} {leaseId : String} {request : AcquireRequest}
    {now : Time} : (leases.respond ⟨now, stamp, .acquire leaseId request⟩).1 ≠ .ok none := by
  intro h
  have hchange := LeaseService.respond_change leases ⟨now, stamp, .acquire leaseId request⟩
  rw [h] at hchange
  generalize (leases.respond ⟨now, stamp, .acquire leaseId request⟩).2 = after at hchange
  cases hchange with
  | kept hrefused =>
      obtain ⟨refusal, hr⟩ := hrefused leaseId request rfl
      cases hr
  | written _ _ _ _ _ _ hcall => exact absurd rfl (hcall leaseId request)

section Proceeding

variable {call : Call} {input : Input} {routed : Routed} {rest : List String}
  {leaseId attemptId : String} {stamp : Time} {outcome : Outcome Unit}

theorem Plain.move (h : Plain e routed rest)
    (hmove : ∀ next, Leaves routed rest next → Move s call input [] none none next) :
    Move s call input e.leaseCalls e.attempt e.saved e.next := by
  rw [h.leaseCalls, h.attempt, h.saved]
  exact hmove e.next h.next

theorem interrupted_move {error : PyError} :
    Move s call (.raised error) (s.interrupted error call).leaseCalls
      (s.interrupted error call).attempt (s.interrupted error call).saved
      (s.interrupted error call).next := by
  cases call with
  | working routed lease => exact .workerEnds (not_acquires (by simp))
  | preparing turn => exact fail_plain.move fun next hnext => .unprepared hnext
  | submitting turn fresh candidates => exact fail_plain.move fun next hnext => .unsubmitted hnext
  | granted turn fresh lease number => exact fail_plain.move fun next hnext => .ungranted hnext
  | recorded turn fresh lease => exact fail_plain.move fun next hnext => .unrecorded hnext
  | remote turn submission =>
      exact fail_plain.move fun next hnext => .returns (fun _ => .inl ⟨error, rfl⟩) hnext
  | executing turn => exact fail_plain.move fun next hnext => .executed hnext
  | _ => exact .stops (by simp [interrupted, raised])

theorem abandoned_move :
    Move s call .aborted (s.abandoned call).leaseCalls (s.abandoned call).attempt
      (s.abandoned call).saved (s.abandoned call).next := by
  cases call with
  | working routed lease => exact .stops (not_acquires (by simp))
  | _ => exact .stops (by simp [abandoned])

theorem handOver_move :
    Move s (.handing routed) (.handed leaseId attemptId stamp)
      (s.handOver routed leaseId attemptId stamp).leaseCalls
      (s.handOver routed leaseId attemptId stamp).attempt
      (s.handOver routed leaseId attemptId stamp).saved
      (s.handOver routed leaseId attemptId stamp).next := by
  unfold handOver
  split
  next hworker =>
    unfold startWorker
    dsimp only
    split
    · exact .duplicate hworker
    · split
      next lease hlease => exact .works hworker rfl hlease
      next hlease => exact absurd hlease acquire_ne_none
      next refusal hlease => exact .unleased hworker hlease
  next hworker => exact .loops (by simpa using hworker)

theorem beat_move (hs : s.Coherent) {lease : TaskLease} :
    Move s (.working routed lease) (.beat stamp) (s.beat routed lease stamp).leaseCalls
      (s.beat routed lease stamp).attempt (s.beat routed lease stamp).saved
      (s.beat routed lease stamp).next := by
  unfold beat
  dsimp only
  split
  next renewed hrenewed =>
    refine .beats (not_acquires (by simp) _ (List.mem_singleton_self _)) ?_
    exact LeaseService.renewed_taskId hs.leases hrenewed
  · refine .workerEnds fun timed ht => ?_
    rcases List.mem_pair.mp ht with rfl | rfl
    · exact not_acquires (by simp) _ (List.mem_singleton_self _)
    · exact not_acquires (by simp) _ (List.mem_singleton_self _)

theorem submitted_move {turn : BackendTurn} {fresh : RuntimeTaskRecord}
    {candidates : List RouteCandidate} :
    Move s (.submitting turn fresh candidates) (.leasing leaseId attemptId stamp)
      (s.submitted turn fresh candidates leaseId attemptId stamp).leaseCalls
      (s.submitted turn fresh candidates leaseId attemptId stamp).attempt
      (s.submitted turn fresh candidates leaseId attemptId stamp).saved
      (s.submitted turn fresh candidates leaseId attemptId stamp).next := by
  unfold submitted
  split
  · exact .queuesRemotely
  next candidate hcandidate =>
    dsimp only
    split
    next lease hlease => exact .grants rfl hlease rfl
    next hlease => exact absurd hlease acquire_ne_none
    next refusal hlease =>
      have hplain : Plain (turn.fail refusal.error) turn.routed turn.rest := fail_plain
      dsimp only
      rw [hplain.attempt, hplain.saved]
      exact .refusesLease rfl hlease hplain.next

theorem settle_move {turn : BackendTurn} {continued : Effect} (hcontinued : outcome = .returned () →
      Move s call input continued.leaseCalls continued.attempt continued.saved continued.next)
    (hraised : ∀ error, outcome = .raised error → ∀ next, Leaves turn.routed turn.rest next →
      Move s call input [] none none next) :
    Move s call input (turn.settle outcome continued).leaseCalls
      (turn.settle outcome continued).attempt (turn.settle outcome continued).saved
      (turn.settle outcome continued).next := by
  cases outcome with
  | returned value => exact hcontinued rfl
  | raised error =>
      have hplain : Plain (turn.fail error) turn.routed turn.rest := fail_plain
      exact hplain.move (hraised error rfl)
  | aborted error =>
      have hstops : Move s call input [] none none none := .stops (by simp)
      exact hstops

theorem openBackend_move {p : Progress} {backendId : String} {turn : Routing.Turn} :
    Move s (.trying routed p (backendId :: rest)) (.opened turn)
      (openBackend routed p backendId rest turn).leaseCalls
      (openBackend routed p backendId rest turn).attempt
      (openBackend routed p backendId rest turn).saved
      (openBackend routed p backendId rest turn).next := by
  unfold openBackend
  split
  · exact afterTurn_plain.move fun next hnext => .passesOver hnext
  next q attempt hopen =>
    let preparing : BackendTurn :=
      { routed := routed
        progress := (q.audit (auditEvent routed.intent routed.decision "backend.preparing"
          backendId true none)).called (.prepare backendId)
        backendId := backendId
        attempt := attempt
        rest := rest }
    have h : Move s (.trying routed p (preparing.backendId :: rest)) (.opened turn) [] none none
        (some (.preparing preparing)) := .opens rfl rfl
    exact h

theorem remote_move {turn : BackendTurn} {submission : Submission} :
    Move s (.remote turn submission) (.validated outcome)
      (turn.settle outcome (turn.ready.execute (.returned (joymeshResult submission)))).leaseCalls
      (turn.settle outcome (turn.ready.execute (.returned (joymeshResult submission)))).attempt
      (turn.settle outcome (turn.ready.execute (.returned (joymeshResult submission)))).saved
      (turn.settle outcome (turn.ready.execute (.returned (joymeshResult submission)))).next := by
  refine settle_move (fun hout => ?_) fun error hout next hnext =>
    .returns (fun _ => .inr ⟨error, congrArg _ hout⟩) hnext
  subst hout
  by_cases hleased : submission.status = "leased"
  · have hends : ∃ result, turn.ready.execute (.returned (joymeshResult submission)) =
        { next := some (.completing turn.ready.routed result) } := leased_completes hleased
    obtain ⟨result, hresult⟩ := hends
    rw [hresult]
    exact .staysLeased hleased
  · have hplain : Plain (turn.ready.execute (.returned (joymeshResult submission))) turn.routed
        turn.rest := execute_plain
    exact hplain.move fun next hnext => .returns (fun h => absurd h hleased) hnext

-- Every way that a suspended call can go on.
theorem proceed_move (hs : s.Coherent) (h : s.proceed call input = some e) :
    Move s call input e.leaseCalls e.attempt e.saved e.next := by
  unfold proceed at h
  split at h
  · obtain rfl := Option.some.inj h
    exact interrupted_move
  · obtain rfl := Option.some.inj h
    exact abandoned_move
  · obtain rfl := Option.some.inj h
    exact .queues
  · obtain rfl := Option.some.inj h
    unfold withTask
    split
    · exact .stops (by simp [raised])
    next task hl => exact .enters hl
  · obtain rfl := Option.some.inj h
    unfold selectRoute
    split
    · exact .refuses
    · exact .decides
  · obtain rfl := Option.some.inj h
    unfold annotate
    split
    · exact .annotates
    · exact .passes
  · obtain rfl := Option.some.inj h
    exact handOver_move
  · obtain rfl := Option.some.inj h
    exact beat_move hs
  · obtain rfl := Option.some.inj h
    exact .workerEnds (not_acquires (by simp))
  · obtain rfl := Option.some.inj h
    exact .exhausts
  · obtain rfl := Option.some.inj h
    exact openBackend_move
  · split at h
    next hbackend =>
      obtain rfl := Option.some.inj h
      unfold submit
      dsimp only
      split
      · exact fail_plain.move fun next hnext => .unprepared hnext
      next fresh hl => exact .submits hbackend hl
    · cases h
  · split at h
    · cases h
    next hbackend =>
      obtain rfl := Option.some.inj h
      refine settle_move (fun hout => ?_) fun _ _ next hnext => .unprepared hnext
      subst hout
      exact .executes hbackend
  · obtain rfl := Option.some.inj h
    exact submitted_move
  · obtain rfl := Option.some.inj h
    exact .records
  · obtain rfl := Option.some.inj h
    exact .leases
  · obtain rfl := Option.some.inj h
    exact remote_move
  · obtain rfl := Option.some.inj h
    exact execute_plain.move fun next hnext => .executed hnext
  · obtain rfl := Option.some.inj h
    unfold complete withTask
    split
    · split
      · exact .stops (by simp [raised])
      · exact .stops (by simp)
    next hwrites => exact .completes hwrites
  · obtain rfl := Option.some.inj h
    unfold ingest
    split_ifs with hlate hended
    · exact .stops (by simp)
    · exact .stops (by simp)
    · exact .ingests hlate hended
  · obtain rfl := Option.some.inj h
    unfold releaseEnded withTask
    dsimp only
    split
    · exact .stops (not_acquires (by simp))
    · split
      · exact .stops (not_acquires (by simp))
      · exact .stops (not_acquires (by simp))
  · obtain rfl := Option.some.inj h
    have hlook : ∀ {task : RuntimeTaskRecord},
        ∀ timed ∈ [s.lease (.activeLease task.taskId)], ¬timed.Acquires := not_acquires (by simp)
    unfold freeLease
    dsimp only
    split
    · split
      · refine .frees fun timed ht => ?_
        rcases List.mem_pair.mp ht with rfl | rfl
        · exact hlook _ (List.mem_singleton_self _)
        · exact not_acquires (by simp) _ (List.mem_singleton_self _)
      · exact .frees hlook
    · exact .frees hlook
  · obtain rfl := Option.some.inj h
    exact .cancels
  · obtain rfl := Option.some.inj h
    exact .reroutes
  · cases h

end Proceeding

section Known

variable {key : String} {leases : LeaseService} {calls : List TimedCall} {label : Label}

theorem respond_empty {timed : TimedCall} (hn : ¬timed.Acquires)
    (h : leases.active.lookup timed.call.taskId = none) :
    (leases.respond timed).2.active.lookup timed.call.taskId = none := by
  have hchange := LeaseService.respond_change leases timed
  have hlooked : (leases.activeLease timed.now timed.call.taskId).2.active.lookup
      timed.call.taskId = none := by
    rw [LeaseService.activeLease_lookup, if_pos rfl, h]
    rfl
  generalize (leases.respond timed).1 = answer at hchange
  generalize (leases.respond timed).2 = after at hchange
  cases hchange with
  | kept _ => exact hlooked
  | written hslot hid htask hattempt htoken hactive hcall => simp [hlooked] at hslot
  | granted hcall hfree hid htask hattempt htoken hactive => exact absurd ⟨_, _, hcall⟩ hn

-- Only an acquisition fills an empty slot.
theorem play_empty (hn : ∀ timed ∈ calls, ¬timed.Acquires) (h : leases.active.lookup key = none) :
    (play LeaseService.respond leases calls).active.lookup key = none := by
  induction calls generalizing leases with
  | nil => exact h
  | cons timed calls ih =>
      refine ih (fun other ho => hn other (List.mem_cons_of_mem _ ho)) ?_
      by_cases hk : key = timed.call.taskId
      · subst hk
        exact respond_empty (hn timed List.mem_cons_self) h
      · rw [LeaseService.respond_other hk, h]

theorem StartMove.acquires_nothing {operation : Operation} {saved : Option RuntimeTaskRecord}
    {next : Option Call} (h : StartMove engine order s operation calls saved next) :
    ∀ timed ∈ calls, ¬timed.Acquires := by
  cases h with
  | idle hcalls _ _ => exact hcalls
  | offered hl hlease htoken => exact not_acquires (by simp)
  | reported hl hvalid hstatus => exact not_acquires (by simp)
  | ended hl hvalid => exact not_acquires (by simp)
  | _ => simp

-- Only a task that is stored, or that the operation stores, gets a call.
theorem StartMove.stored {operation : Operation} {calls : List TimedCall}
    {saved : Option RuntimeTaskRecord} {next : Option Call}
    (hmove : StartMove engine order s operation calls saved next) (hnext : next ≠ none) :
    (∃ task, saved = some task ∧ task.taskId = operation.taskId) ∨
      s.tasks.lookup operation.taskId ≠ none := by
  cases hmove with
  | created hnew hcreated hrouting hgated =>
      exact .inl ⟨_, rfl, (createTask_kept hcreated).1⟩
  | approved hl hs => exact .inr fun hn => absurd (hl.symm.trans hn) (by simp)
  | ended hl hvalid => exact .inr fun hn => absurd (hl.symm.trans hn) (by simp)
  | cancelling hl hs => exact .inr fun hn => absurd (hl.symm.trans hn) (by simp)
  | retrying hl hretry => exact .inr fun hn => absurd (hl.symm.trans hn) (by simp)
  | _ => exact absurd rfl hnext

-- No step removes a task.
theorem advance_stored (h : s.tasks.lookup key ≠ none) :
    (s.advance i e).tasks.lookup key ≠ none := by
  cases he : e.saved with
  | none => rwa [advance_unsaved he]
  | some task =>
      rw [advance_saved he]
      by_cases hk : key = task.taskId
      · subst hk
        simp
      · rwa [AList.lookup_insert_ne hk]

-- Nothing refers to a task that has not been created.
structure Known (s : RuntimeService) : Prop where
  coherent : s.Coherent
  unknown_slot : ∀ taskId, s.tasks.lookup taskId = none → s.leases.active.lookup taskId = none
  unknown_calls : ∀ i call, s.calls i = some call → s.tasks.lookup call.taskId ≠ none

theorem initial_known {ttl : Time} : (initial ttl).Known where
  coherent := initial_coherent
  unknown_slot := by simp [initial, LeaseService.initial]
  unknown_calls := by simp [initial]

theorem step_unknown_slot (hs : s.Known) (hstep : step engine order s label = some t)
    (hkey : t.tasks.lookup key = none) : t.leases.active.lookup key = none := by
  rcases step_cases hstep with ⟨later, -, -, rfl⟩ | ⟨i, operation, e, -, -, he, rfl⟩ |
    ⟨i, input, call, e, -, hcall, he, rfl⟩
  · exact hs.unknown_slot key hkey
  · have hold : s.tasks.lookup key = none := by
      by_contra hold
      exact advance_stored hold hkey
    obtain ⟨-, hmove⟩ := startOperation_move he
    rw [advance_leases]
    exact play_empty hmove.acquires_nothing (hs.unknown_slot key hold)
  · have hold : s.tasks.lookup key = none := by
      by_contra hold
      exact advance_stored hold hkey
    have hk : key ≠ call.taskId := by
      rintro rfl
      exact hs.unknown_calls i call hcall hold
    rw [advance_lease_other (proceed_on hs.coherent (hs.coherent.calls i call hcall) he) hk]
    exact hs.unknown_slot key hold

theorem step_unknown_calls (hs : s.Known) (hstep : step engine order s label = some t) {call : Call}
    (hcall : t.calls i = some call) : t.tasks.lookup call.taskId ≠ none := by
  rcases step_cases hstep with ⟨later, -, -, rfl⟩ | ⟨j, operation, e, -, -, he, rfl⟩ |
    ⟨j, input, other, e, -, hother, he, rfl⟩
  · exact hs.unknown_calls i call hcall
  · by_cases hi : i = j
    · subst hi
      rw [advance_calls, Function.update_self] at hcall
      have hon := startOperation_on hs.coherent he
      obtain ⟨-, hmove⟩ := startOperation_move he
      rw [(hon.next call hcall).1]
      rcases hmove.stored (by simp [hcall]) with ⟨task, hsaved, hid⟩ | hold
      · rw [advance_saved hsaved, hid]
        simp
      · exact advance_stored hold
    · rw [advance_calls, Function.update_of_ne hi] at hcall
      exact advance_stored (hs.unknown_calls i call hcall)
  · refine advance_stored ?_
    by_cases hi : i = j
    · subst hi
      rw [advance_calls, Function.update_self] at hcall
      have hon := proceed_on hs.coherent (hs.coherent.calls i other hother) he
      rw [(hon.next call hcall).1]
      exact hs.unknown_calls i other hother
    · rw [advance_calls, Function.update_of_ne hi] at hcall
      exact hs.unknown_calls i call hcall

theorem Known.step (hs : s.Known) {label : Label} (h : step engine order s label = some t) :
    t.Known :=
  ⟨step_coherent hs.coherent h, fun _ => step_unknown_slot hs h, fun _ _ => step_unknown_calls hs h⟩

end Known

end RuntimeService

end JoyMesh.Runtime
