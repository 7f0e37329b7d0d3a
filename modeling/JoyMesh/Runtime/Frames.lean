import JoyMesh.Runtime.Service

namespace JoyMesh.Runtime

open Library Routing Completion

namespace Call

def taskId : Call → String
  | queueing task => task.taskId
  | routing taskId => taskId
  | selecting task _ => task.taskId
  | selected routed => routed.task.taskId
  | handing routed => routed.task.taskId
  | working routed _ => routed.task.taskId
  | trying routed .. => routed.task.taskId
  | preparing turn => turn.routed.task.taskId
  | submitting turn .. => turn.routed.task.taskId
  | granted turn .. => turn.routed.task.taskId
  | recorded turn .. => turn.routed.task.taskId
  | remote turn _ => turn.routed.task.taskId
  | executing turn => turn.routed.task.taskId
  | completing routed _ => routed.task.taskId
  | ingesting task .. => task.taskId
  | releasing taskId _ => taskId
  | cancelling task => task.taskId
  | cancelled task => task.taskId
  | retrying task => task.taskId

-- The call is a route_task, from its entry to its last save.
def inRouteTask : Call → Bool
  | routing _ | selecting .. | selected _ | handing _ | working .. | trying .. | preparing _
  | submitting .. | granted .. | recorded .. | remote .. | executing _ | completing .. => true
  | _ => false

-- The other things that the call holds are about its task.
def Coherent : Call → Prop
  | working routed lease => lease.taskId = routed.task.taskId
  | submitting turn fresh _ => fresh.taskId = turn.routed.task.taskId
  | granted turn fresh lease _ =>
      fresh.taskId = turn.routed.task.taskId ∧ lease.taskId = turn.routed.task.taskId
  | recorded turn fresh lease =>
      fresh.taskId = turn.routed.task.taskId ∧ lease.taskId = turn.routed.task.taskId
  | _ => True

end Call

def Operation.taskId : Operation → String
  | createTask taskId .. => taskId
  | approveTask taskId => taskId
  | markOffered taskId _ => taskId
  | nodeEvent taskId .. => taskId
  | cancelTask taskId => taskId
  | retryTask taskId _ => taskId
  | heartbeat taskId .. => taskId
  | lookUpLease taskId => taskId

-- Everything that an effect touches belongs to one task.
structure Effect.On (e : Effect) (taskId : String) (now : Time) : Prop where
  saved : ∀ task, e.saved = some task → task.taskId = taskId
  attempt : ∀ attempt, e.attempt = some attempt → attempt.taskId = taskId
  leaseCalls : ∀ call ∈ e.leaseCalls, call.call.taskId = taskId ∧ call.now = now
  next : ∀ call, e.next = some call → call.taskId = taskId ∧ call.Coherent

namespace LeaseService

variable {s : LeaseService} {timed : TimedCall} {calls : List TimedCall} {now stamp : Time}
  {taskId key : String} {lease : TaskLease} {token : Nat}

-- Every record of a slot names the task of the slot.
def Coherent (s : LeaseService) : Prop :=
  ∀ key lease, s.active.lookup key = some lease → lease.taskId = key

theorem activeLease_coherent (hs : s.Coherent) : (s.activeLease now taskId).2.Coherent := by
  intro key lease h
  rw [activeLease_lookup] at h
  split at h
  next hk =>
    subst hk
    obtain ⟨record, hr, rfl⟩ := Option.map_eq_some_iff.mp h
    rw [seen_taskId]
    exact hs _ _ hr
  · exact hs _ _ h

theorem respond_coherent (hs : s.Coherent) : (s.respond timed).2.Coherent := by
  have hchange := respond_change s timed
  have hlooked : (s.activeLease timed.now timed.call.taskId).2.Coherent := activeLease_coherent hs
  generalize (s.respond timed).1 = answer at hchange
  generalize (s.respond timed).2 = after at hchange
  cases hchange with
  | kept _ => exact hlooked
  | written hslot hid htask hattempt htoken hactive hcall =>
      intro key lease h
      by_cases hk : key = timed.call.taskId
      · subst hk
        rw [AList.lookup_insert, Option.some.injEq] at h
        exact h ▸ htask.trans (hlooked _ _ hslot)
      · rw [AList.lookup_insert_ne hk] at h
        exact hlooked _ _ h
  | granted hcall hfree hid htask hattempt htoken hactive =>
      rename_i leaseId request granted
      intro key lease h
      by_cases hk : key = request.taskId
      · subst hk
        rw [AList.lookup_insert, Option.some.injEq] at h
        exact h ▸ htask
      · rw [AList.lookup_insert_ne hk] at h
        exact hlooked _ _ h

theorem respond_other (h : key ≠ timed.call.taskId) :
    (s.respond timed).2.active.lookup key = s.active.lookup key := by
  have hchange := respond_change s timed
  have hlooked : (s.activeLease timed.now timed.call.taskId).2.active.lookup key =
      s.active.lookup key := by rw [activeLease_lookup, if_neg h]
  generalize (s.respond timed).1 = answer at hchange
  generalize (s.respond timed).2 = after at hchange
  cases hchange with
  | kept _ => exact hlooked
  | written _ _ _ _ _ _ _ => rw [AList.lookup_insert_ne h, hlooked]
  | granted hcall hfree hid htask hattempt htoken hactive =>
      rename_i leaseId request granted
      have hkey : timed.call.taskId = request.taskId := by rw [hcall]; rfl
      rw [AList.lookup_insert_ne (hkey ▸ h), hlooked]

theorem play_coherent (hs : s.Coherent) : (play respond s calls).Coherent := by
  induction calls generalizing s with
  | nil => exact hs
  | cons timed calls ih => exact ih (respond_coherent hs)

theorem play_other (h : ∀ timed ∈ calls, timed.call.taskId ≠ key) :
    (play respond s calls).active.lookup key = s.active.lookup key := by
  induction calls generalizing s with
  | nil => rfl
  | cons timed calls ih =>
      rw [play, ih fun other ho => h other (List.mem_cons_of_mem _ ho),
        respond_other (Ne.symm (h timed List.mem_cons_self))]

theorem acquired_taskId {leaseId : String} {request : AcquireRequest}
    (h : (s.respond ⟨now, stamp, .acquire leaseId request⟩).1 = .ok (some lease)) :
    lease.taskId = request.taskId := by
  have hchange := respond_change s ⟨now, stamp, .acquire leaseId request⟩
  rw [h] at hchange
  generalize (s.respond ⟨now, stamp, .acquire leaseId request⟩).2 = after at hchange
  cases hchange with
  | kept hrefused =>
      obtain ⟨refusal, hr⟩ := hrefused leaseId request rfl
      cases hr
  | written _ _ _ _ _ _ hcall => exact absurd rfl (hcall leaseId request)
  | granted hcall _ _ htask _ _ _ =>
      cases hcall
      exact htask

-- The renewed lease is the record that the heartbeat leaves.
theorem renewed_slot (h : (s.respond ⟨now, stamp, .heartbeat taskId token⟩).1 = .ok (some lease)) :
    (s.respond ⟨now, stamp, .heartbeat taskId token⟩).2.active.lookup taskId = some lease := by
  cases hl : s.activeLease now taskId with
  | mk found t =>
      cases found with
      | none => simp [respond, heartbeat, hl, Except.map] at h
      | some record =>
          simp only [respond, heartbeat, hl] at h ⊢
          split_ifs at h ⊢
          · simp [Except.map] at h
          · simp [Except.map] at h
          · simp only [Prod.map_fst, Except.map, Except.ok.injEq, Option.some.injEq] at h
            subst h
            exact AList.lookup_insert _

theorem renewed_taskId (hs : s.Coherent)
    (h : (s.respond ⟨now, stamp, .heartbeat taskId token⟩).1 = .ok (some lease)) :
    lease.taskId = taskId :=
  respond_coherent hs taskId lease (renewed_slot h)

end LeaseService

namespace Effect

variable {e : Effect} {taskId : String} {now : Time}
  {answer : Option (Except PyError RuntimeTaskRecord)} {call : Call} {task : RuntimeTaskRecord}
  {calls : List TimedCall}

theorem On.answered : On { answer := answer } taskId now where
  saved := by simp
  attempt := by simp
  leaseCalls := by simp
  next := by simp

theorem On.goes (ht : call.taskId = taskId) (hc : call.Coherent) :
    On { next := some call } taskId now where
  saved := by simp
  attempt := by simp
  leaseCalls := by simp
  next := by
    intro next h
    obtain rfl := Option.some.inj h
    exact ⟨ht, hc⟩

theorem On.saves {next : Option Call} (ht : task.taskId = taskId)
    (hn : ∀ call, next = some call → call.taskId = taskId ∧ call.Coherent) :
    On { saved := some task, next := next, answer := answer } taskId now where
  saved := by
    intro saved h
    obtain rfl := Option.some.inj h
    exact ht
  attempt := by simp
  leaseCalls := by simp
  next := hn

theorem On.ends (ht : task.taskId = taskId) :
    On { saved := some task, answer := answer } taskId now :=
  On.saves ht fun _ hn => by simp at hn

theorem On.goesCalling (hcalls : ∀ call ∈ calls, call.call.taskId = taskId ∧ call.now = now)
    (ht : call.taskId = taskId) (hc : call.Coherent) :
    On { leaseCalls := calls, next := some call } taskId now where
  saved := by simp
  attempt := by simp
  leaseCalls := hcalls
  next := by
    intro next h
    obtain rfl := Option.some.inj h
    exact ⟨ht, hc⟩

theorem On.calling (h : e.On taskId now)
    (hcalls : ∀ call ∈ calls, call.call.taskId = taskId ∧ call.now = now) :
    On { e with leaseCalls := calls } taskId now :=
  ⟨h.saved, h.attempt, hcalls, h.next⟩

end Effect

namespace RuntimeService

-- A stored record names its own key.
structure Coherent (s : RuntimeService) : Prop where
  leases : s.leases.Coherent
  stored : ∀ key task, s.tasks.lookup key = some task → task.taskId = key
  calls : ∀ i call, s.calls i = some call → call.Coherent

variable {engine : PolicyEngine} {order : Iteration} {s t : RuntimeService} {e : Effect}
  {taskId : String} {now : Time} {i : Nat} {routed : Routed} {rest : List String} {stamp : Time}
  {lease : TaskLease} {leaseId attemptId : String} {candidates : List RouteCandidate}
  {task : RuntimeTaskRecord} {label : Label}

theorem withTask_on {continued : RuntimeTaskRecord → Effect}
    (h : ∀ task, s.tasks.lookup taskId = some task → (continued task).On taskId now) :
    (s.withTask taskId continued).On taskId now := by
  unfold RuntimeService.withTask
  cases hl : s.tasks.lookup taskId with
  | none => exact Effect.On.answered
  | some task => exact h task hl

theorem afterTurn_on {ended : TurnEnd × Progress} :
    (afterTurn routed rest ended).On routed.task.taskId now := by
  obtain ⟨ended, p⟩ := ended
  cases ended with
  | finish outcome =>
      cases outcome with
      | returned result => exact Effect.On.goes rfl trivial
      | raised error => exact Effect.On.answered
      | aborted error => exact Effect.On.answered
  | stop => exact Effect.On.goes rfl trivial
  | next => exact Effect.On.goes rfl trivial

section Turns

variable {turn : BackendTurn}

theorem leave_on {ended : TurnEnd × Progress} :
    (turn.leave ended).On turn.routed.task.taskId now :=
  afterTurn_on

theorem fail_on {error : PyError} : (turn.fail error).On turn.routed.task.taskId now := by
  unfold BackendTurn.fail
  exact leave_on

theorem settle_on {outcome : Outcome Unit} {continued : Effect}
    (h : continued.On turn.routed.task.taskId now) :
    (turn.settle outcome continued).On turn.routed.task.taskId now := by
  cases outcome with
  | returned value => exact h
  | raised error => exact fail_on
  | aborted error => exact Effect.On.answered

theorem execute_on {outcome : Outcome BackendResult} :
    (turn.execute outcome).On turn.routed.task.taskId now := by
  cases outcome with
  | returned result =>
      have h : ((turn.called (.execute turn.backendId (.returned result))).finish result).On
          turn.routed.task.taskId now := leave_on
      exact h
  | raised error =>
      have h : ((turn.called (.execute turn.backendId (.raised error))).fail error).On
          turn.routed.task.taskId now := fail_on
      exact h
  | aborted error => exact Effect.On.answered

end Turns

theorem lease_on {call : LeaseCall} (h : call.taskId = taskId) :
    (s.lease call stamp).call.taskId = taskId ∧ (s.lease call stamp).now = s.clock := ⟨h, rfl⟩

theorem workerEnds_on {ended : CodingWorkerEnd} (h : lease.taskId = routed.task.taskId) :
    (s.workerEnds routed lease ended).On routed.task.taskId s.clock where
  saved := by simp [workerEnds]
  attempt := by simp [workerEnds]
  leaseCalls := by
    intro call hc
    obtain rfl := List.mem_singleton.mp hc
    exact lease_on h
  next := by
    intro next hn
    obtain rfl := Option.some.inj hn
    exact ⟨rfl, trivial⟩

theorem startWorker_on :
    (s.startWorker routed leaseId attemptId stamp).On routed.task.taskId s.clock := by
  have hcalls : ∀ call ∈ [s.lease (.activeLease routed.task.taskId),
      s.lease (.acquire leaseId ⟨routed.task.taskId, "local-codex-worker", "codex", attemptId, none⟩)
        stamp], call.call.taskId = routed.task.taskId ∧ call.now = s.clock := by
    intro call hc
    rcases List.mem_pair.mp hc with rfl | rfl
    · exact lease_on rfl
    · exact lease_on rfl
  unfold startWorker
  dsimp only
  split
  · refine Effect.On.goesCalling (fun call hc => ?_) rfl trivial
    obtain rfl := List.mem_singleton.mp hc
    exact lease_on rfl
  · split
    next lease hlease => exact Effect.On.goesCalling hcalls rfl (LeaseService.acquired_taskId hlease)
    · exact Effect.On.answered.calling hcalls
    · exact Effect.On.answered.calling hcalls

theorem handOver_on :
    (s.handOver routed leaseId attemptId stamp).On routed.task.taskId s.clock := by
  unfold handOver
  split
  · exact startWorker_on
  · exact Effect.On.goes rfl trivial

theorem beat_on (hs : s.leases.Coherent) (h : lease.taskId = routed.task.taskId) :
    (s.beat routed lease stamp).On routed.task.taskId s.clock := by
  have hbeat : ∀ call ∈ [s.lease (.heartbeat lease.taskId lease.fencingToken) stamp],
      call.call.taskId = routed.task.taskId ∧ call.now = s.clock := by
    intro call hc
    obtain rfl := List.mem_singleton.mp hc
    exact lease_on h
  unfold beat
  dsimp only
  split
  next renewed hrenewed =>
    exact Effect.On.goesCalling hbeat rfl ((LeaseService.renewed_taskId hs hrenewed).trans h)
  · refine (workerEnds_on h).calling fun call hc => ?_
    rcases List.mem_pair.mp hc with rfl | rfl
    · exact lease_on h
    · exact lease_on h

theorem openBackend_on {p : Progress} {backendId : String} {turn : Routing.Turn} :
    (openBackend routed p backendId rest turn).On routed.task.taskId now := by
  unfold openBackend
  split
  · exact afterTurn_on
  · exact Effect.On.goes rfl trivial

theorem submit_on (hs : s.Coherent) {turn : BackendTurn} :
    (s.submit turn candidates).On turn.routed.task.taskId now := by
  unfold submit
  dsimp only
  split
  · exact fail_on
  next fresh hfresh => exact Effect.On.goes rfl (hs.stored _ _ hfresh)

theorem submitted_on {turn : BackendTurn} {fresh : RuntimeTaskRecord}
    (h : fresh.taskId = turn.routed.task.taskId) :
    (s.submitted turn fresh candidates leaseId attemptId stamp).On turn.routed.task.taskId
      s.clock := by
  unfold submitted
  split
  · refine Effect.On.saves h fun next hn => ?_
    obtain rfl := Option.some.inj hn
    exact ⟨rfl, trivial⟩
  next candidate _ =>
    have hcalls : ∀ call ∈ [s.lease (.acquire leaseId
        ⟨fresh.taskId, candidate.nodeId, candidate.connectorId, attemptId, none⟩) stamp],
        call.call.taskId = turn.routed.task.taskId ∧ call.now = s.clock := by
      intro call hc
      obtain rfl := List.mem_singleton.mp hc
      exact lease_on h
    dsimp only
    split
    next lease hlease =>
      exact Effect.On.goesCalling hcalls rfl ⟨h, (LeaseService.acquired_taskId hlease).trans h⟩
    · exact Effect.On.answered.calling hcalls
    · exact fail_on.calling hcalls

theorem releaseEnded_on {fencingToken : Nat} :
    (s.releaseEnded taskId fencingToken).On taskId s.clock := by
  have hcalls : ∀ call ∈ [s.lease (.release taskId fencingToken)],
      call.call.taskId = taskId ∧ call.now = s.clock := by
    intro call hc
    obtain rfl := List.mem_singleton.mp hc
    exact lease_on rfl
  unfold releaseEnded
  dsimp only
  split
  · exact Effect.On.answered.calling hcalls
  · exact (withTask_on fun _ _ => Effect.On.answered).calling hcalls

theorem freeLease_on : (s.freeLease task).On task.taskId s.clock := by
  have hlook : ∀ call ∈ [s.lease (.activeLease task.taskId)],
      call.call.taskId = task.taskId ∧ call.now = s.clock := by
    intro call hc
    obtain rfl := List.mem_singleton.mp hc
    exact lease_on rfl
  unfold freeLease
  dsimp only
  split
  · split
    · refine Effect.On.goesCalling (fun call hc => ?_) rfl trivial
      rcases List.mem_pair.mp hc with rfl | rfl
      · exact lease_on rfl
      · exact lease_on rfl
    · exact Effect.On.goesCalling hlook rfl trivial
  · exact Effect.On.goesCalling hlook rfl trivial

theorem interrupted_on {call : Call} (hc : call.Coherent) {error : PyError} :
    (s.interrupted error call).On call.taskId s.clock := by
  cases call with
  | working routed lease => exact workerEnds_on hc
  | preparing turn => exact fail_on
  | submitting turn fresh candidates => exact fail_on
  | granted turn fresh lease number => exact fail_on
  | recorded turn fresh lease => exact fail_on
  | remote turn submission => exact fail_on
  | executing turn => exact fail_on
  | _ => exact Effect.On.answered

theorem abandoned_on {call : Call} (hc : call.Coherent) :
    (s.abandoned call).On call.taskId s.clock := by
  cases call with
  | working routed lease =>
      refine Effect.On.answered.calling fun timed ht => ?_
      obtain rfl := List.mem_singleton.mp ht
      exact lease_on hc
  | _ => exact Effect.On.answered

theorem finalRecord_taskId {result : ExecutionResult} {verdict : CompletionVerdict} :
    (finalRecord routed result verdict).taskId = routed.task.taskId := by
  unfold finalRecord
  split_ifs <;> rfl

theorem proceed_on (hs : s.Coherent) {call : Call} {input : Input} (hc : call.Coherent)
    (h : s.proceed call input = some e) : e.On call.taskId s.clock := by
  unfold proceed at h
  split at h
  · obtain rfl := Option.some.inj h
    exact interrupted_on hc
  · obtain rfl := Option.some.inj h
    exact abandoned_on hc
  · obtain rfl := Option.some.inj h
    exact .ends rfl
  · obtain rfl := Option.some.inj h
    refine withTask_on fun task ht => .goes (hs.stored _ _ ht) trivial
  · obtain rfl := Option.some.inj h
    unfold selectRoute
    split
    · exact .ends rfl
    · refine .saves rfl fun next hn => ?_
      obtain rfl := Option.some.inj hn
      exact ⟨rfl, trivial⟩
  · obtain rfl := Option.some.inj h
    unfold annotate
    split
    · refine .saves rfl fun next hn => ?_
      obtain rfl := Option.some.inj hn
      exact ⟨rfl, trivial⟩
    · exact .goes rfl trivial
  · obtain rfl := Option.some.inj h
    exact handOver_on
  · obtain rfl := Option.some.inj h
    exact beat_on hs.leases hc
  · obtain rfl := Option.some.inj h
    exact workerEnds_on hc
  · obtain rfl := Option.some.inj h
    exact .goes rfl trivial
  · obtain rfl := Option.some.inj h
    exact openBackend_on
  · split at h
    · obtain rfl := Option.some.inj h
      exact submit_on hs
    · cases h
  · split at h
    · cases h
    · obtain rfl := Option.some.inj h
      exact settle_on (.goes rfl trivial)
  · obtain rfl := Option.some.inj h
    exact submitted_on hc
  · obtain rfl := Option.some.inj h
    refine ⟨by simp, fun attempt ha => ?_, by simp, fun next hn => ?_⟩
    · obtain rfl := Option.some.inj ha
      exact hc.1
    · obtain rfl := Option.some.inj hn
      exact ⟨rfl, hc⟩
  · obtain rfl := Option.some.inj h
    refine .saves hc.1 fun next hn => ?_
    obtain rfl := Option.some.inj hn
    exact ⟨rfl, trivial⟩
  · obtain rfl := Option.some.inj h
    exact settle_on execute_on
  · obtain rfl := Option.some.inj h
    exact execute_on
  · obtain rfl := Option.some.inj h
    unfold complete
    split
    · exact withTask_on fun task ht => .answered
    · exact .ends finalRecord_taskId
  · obtain rfl := Option.some.inj h
    unfold ingest
    split_ifs
    · exact .answered
    · exact .answered
    · refine .saves rfl fun next hn => ?_
      obtain rfl := Option.some.inj hn
      exact ⟨rfl, trivial⟩
  · obtain rfl := Option.some.inj h
    exact releaseEnded_on
  · obtain rfl := Option.some.inj h
    exact freeLease_on
  · obtain rfl := Option.some.inj h
    exact .ends rfl
  · obtain rfl := Option.some.inj h
    refine .saves rfl fun next hn => ?_
    obtain rfl := Option.some.inj hn
    exact ⟨rfl, trivial⟩
  · cases h

theorem createTask_on {body : CreateRuntimeTaskBody} {skipRouting : Bool}
    (h : s.createTask engine order taskId body skipRouting = some e) : e.On taskId now := by
  unfold createTask at h
  split at h
  · cases h
  · split at h
    · obtain rfl := Option.some.inj h
      exact .answered
    next task hcreated =>
      have ht : task.taskId = taskId := (createTask_kept hcreated).1
      split at h
      · obtain rfl := Option.some.inj h
        refine .saves ht fun next hn => ?_
        obtain rfl := Option.some.inj hn
        cases skipRouting with
        | true => exact ⟨ht, trivial⟩
        | false => exact ⟨rfl, trivial⟩
      · obtain rfl := Option.some.inj h
        exact .ends ht

theorem approve_taskId {approved : RuntimeTaskRecord} (h : task.approve = .ok approved) :
    approved.taskId = task.taskId := by
  unfold RuntimeTaskRecord.approve at h
  split at h
  · cases h
  · obtain rfl := Except.ok.inj h
    rfl

theorem startOperation_on (hs : s.Coherent) {operation : Operation}
    (h : s.startOperation engine order operation = some e) : e.On operation.taskId s.clock := by
  have hcalls : ∀ call : LeaseCall, ∀ stamp : Time, call.taskId = operation.taskId →
      ∀ timed ∈ [s.lease call stamp], timed.call.taskId = operation.taskId ∧
        timed.now = s.clock := by
    intro call stamp hcall timed ht
    obtain rfl := List.mem_singleton.mp ht
    exact lease_on hcall
  cases operation with
  | createTask taskId body skipRouting => exact createTask_on h
  | approveTask taskId =>
      obtain rfl := Option.some.inj h
      refine withTask_on fun task ht => ?_
      split
      · exact .answered
      next approved happroved =>
        refine .saves ((approve_taskId happroved).trans (hs.stored _ _ ht)) fun next hn => ?_
        obtain rfl := Option.some.inj hn
        exact ⟨rfl, trivial⟩
  | markOffered taskId fencingToken =>
      obtain rfl := Option.some.inj h
      unfold markOffered
      dsimp only
      split
      · split_ifs
        · exact Effect.On.answered.calling (hcalls _ _ rfl)
        · refine (withTask_on fun task ht => ?_).calling (hcalls _ _ rfl)
          have hid : task.taskId = taskId := hs.stored _ _ ht
          exact .ends hid
      · exact Effect.On.answered.calling (hcalls _ _ rfl)
  | nodeEvent taskId attemptId leaseId fencingToken eventType =>
      obtain rfl := Option.some.inj h
      unfold nodeEvent
      dsimp only
      split
      · exact Effect.On.answered.calling (hcalls _ _ rfl)
      · refine (withTask_on fun task ht => ?_).calling (hcalls _ _ rfl)
        have hid : task.taskId = taskId := hs.stored _ _ ht
        split_ifs
        · exact .ends hid
        · exact .ends hid
        · exact .goes hid trivial
        · exact .answered
  | cancelTask taskId =>
      obtain rfl := Option.some.inj h
      refine withTask_on fun task ht => ?_
      split_ifs
      · exact .answered
      · exact .goes (hs.stored _ _ ht) trivial
  | retryTask taskId failureClass =>
      obtain rfl := Option.some.inj h
      refine withTask_on fun task ht => ?_
      dsimp only
      split_ifs
      · exact .goes (hs.stored _ _ ht) trivial
      · exact .answered
  | heartbeat taskId fencingToken stamp =>
      obtain rfl := Option.some.inj h
      exact Effect.On.answered.calling (hcalls _ _ rfl)
  | lookUpLease taskId =>
      obtain rfl := Option.some.inj h
      exact Effect.On.answered.calling (hcalls _ _ rfl)

-- What a step does: the clock moves, an operation starts, or a call goes on.
theorem step_cases (h : step engine order s label = some t) :
    (∃ later, label = .tick later ∧ s.clock ≤ later ∧ t = { s with clock := later }) ∨
      (∃ i operation e, label = .start i operation ∧ s.calls i = none ∧
        s.startOperation engine order operation = some e ∧ t = s.advance i e) ∨
      ∃ i input call e, label = .resume i input ∧ s.calls i = some call ∧
        s.proceed call input = some e ∧ t = s.advance i e := by
  cases label with
  | tick later =>
      dsimp only [step] at h
      split at h
      next hlater => exact .inl ⟨later, rfl, hlater, (Option.some.inj h).symm⟩
      · cases h
  | start i operation =>
      dsimp only [step] at h
      split at h
      · cases h
      next hfree =>
        obtain ⟨e, he, rfl⟩ := Option.map_eq_some_iff.mp h
        exact .inr (.inl ⟨i, operation, e, rfl, by simpa using hfree, he, rfl⟩)
  | resume i input =>
      dsimp only [step] at h
      obtain ⟨call, hcall, h⟩ := Option.bind_eq_some_iff.mp h
      obtain ⟨e, he, rfl⟩ := Option.map_eq_some_iff.mp h
      exact .inr (.inr ⟨i, input, call, e, rfl, hcall, he, rfl⟩)

section Advance

variable {key : String}

theorem advance_saved {task : RuntimeTaskRecord} (h : e.saved = some task) :
    (s.advance i e).tasks = s.tasks.insert task.taskId task := by
  simp [advance, apply, setCall, h]

theorem advance_unsaved (h : e.saved = none) : (s.advance i e).tasks = s.tasks := by
  simp [advance, apply, setCall, h]

@[simp] theorem advance_clock : (s.advance i e).clock = s.clock := rfl

@[simp] theorem advance_leases :
    (s.advance i e).leases = play LeaseService.respond s.leases e.leaseCalls := rfl

@[simp] theorem advance_calls : (s.advance i e).calls = Function.update s.calls i e.next := rfl

-- Steps on other tasks leave the record, the attempts and the lease of a task.
theorem advance_tasks_other (he : e.On taskId now) (h : key ≠ taskId) :
    (s.advance i e).tasks.lookup key = s.tasks.lookup key := by
  cases hsaved : e.saved with
  | none => rw [advance_unsaved hsaved]
  | some task =>
      rw [advance_saved hsaved, AList.lookup_insert_ne]
      rw [he.saved task hsaved]
      exact h

theorem advance_lease_other (he : e.On taskId now) (h : key ≠ taskId) :
    (s.advance i e).leases.active.lookup key = s.leases.active.lookup key := by
  rw [advance_leases]
  exact LeaseService.play_other fun timed ht => (he.leaseCalls timed ht).1 ▸ h.symm

theorem advance_coherent (hs : s.Coherent) (he : e.On taskId now) : (s.advance i e).Coherent where
  leases := LeaseService.play_coherent hs.leases
  stored := by
    intro key task h
    cases hsaved : e.saved with
    | none =>
        rw [advance_unsaved hsaved] at h
        exact hs.stored key task h
    | some saved =>
        rw [advance_saved hsaved] at h
        by_cases hk : key = saved.taskId
        · subst hk
          rw [AList.lookup_insert, Option.some.injEq] at h
          exact h ▸ rfl
        · rw [AList.lookup_insert_ne hk] at h
          exact hs.stored key task h
  calls := by
    intro j call h
    by_cases hj : j = i
    · subst hj
      rw [advance_calls, Function.update_self] at h
      exact (he.next call h).2
    · rw [advance_calls, Function.update_of_ne hj] at h
      exact hs.calls j call h

end Advance

theorem initial_coherent {ttl : Time} : (initial ttl).Coherent :=
  ⟨fun _ _ h => by simp [initial, LeaseService.initial] at h, fun _ _ h => by simp [initial] at h,
    fun _ _ h => by simp [initial] at h⟩

theorem step_coherent (hs : s.Coherent) (h : step engine order s label = some t) : t.Coherent := by
  rcases step_cases h with ⟨later, -, -, rfl⟩ | ⟨i, operation, e, -, -, he, rfl⟩ |
    ⟨i, input, call, e, -, hcall, he, rfl⟩
  · exact ⟨hs.leases, hs.stored, hs.calls⟩
  · exact advance_coherent hs (startOperation_on hs he)
  · exact advance_coherent hs (proceed_on hs (hs.calls i call hcall) he)

end RuntimeService

end JoyMesh.Runtime
