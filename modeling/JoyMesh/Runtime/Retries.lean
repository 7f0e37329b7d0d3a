import JoyMesh.Runtime.Executors

namespace JoyMesh.Runtime

open Library Routing Completion

namespace Call

-- The call may still hand its task to a backend before it has to start anew.
def pending : Call → Bool
  | retrying _ | routing _ | selecting .. | selected _ | handing _ | preparing _
  | submitting .. => true
  | trying _ _ order => order ≠ []
  | remote _ submission => submission.status ≠ "leased"
  | _ => false

-- A backend is handed the task: the coding worker, the execute() of a local
-- backend, or a node by its lease.
def hands : Call → Call → Bool
  | handing _, working .. => true
  | preparing _, executing _ => true
  | submitting .., granted .. => true
  | _, _ => false

-- The records of its task that the call holds.
def records : Call → List RuntimeTaskRecord
  | queueing task | selecting task _ | ingesting task .. | cancelling task | cancelled task
  | retrying task => [task]
  | selected routed | handing routed | working routed _ | trying routed .. | completing routed _ =>
      [routed.task]
  | preparing turn | remote turn _ | executing turn => [turn.routed.task]
  | submitting turn fresh _ | granted turn fresh .. | recorded turn fresh _ =>
      [turn.routed.task, fresh]
  | routing _ | releasing .. => []

end Call

-- The tasks that have been reported as started, the hand-overs so far by their
-- tasks, and what max_attempts each task was created with.
structure Tally where
  started : List String := []
  handed : List String := []
  budget : Table String Nat := ∅

namespace RuntimeService

section Definitions

variable (engine : PolicyEngine) (order : Iteration)

def handedOver (s : RuntimeService) (i : Nat) (input : Input) : List String :=
  match s.calls i with
  | none => []
  | some call =>
      match (s.proceed call input).bind (·.next) with
      | none => []
      | some next => if call.hands next then [call.taskId] else []

def count (h : Tally) (s : RuntimeService) : Label → Tally
  | .start _ (.createTask taskId body _) =>
      match Runtime.createTask engine order body taskId with
      | .error _ => h
      | .ok _ => { h with budget := h.budget.insert taskId body.maxAttempts }
  | .start _ (.nodeEvent taskId attemptId leaseId fencingToken eventType) =>
      match (s.leases.respond (s.lease (.validateEvent taskId leaseId fencingToken attemptId))).1 with
      | .error _ => h
      | .ok _ => if eventType = "task.started" then { h with started := taskId :: h.started } else h
  | .resume i input => { h with handed := s.handedOver i input ++ h.handed }
  | _ => h

-- No retry_task call takes up a task that changes something and has started.
def RetrySafe (s : RuntimeService × Tally) (label : Label) : Prop :=
  ∀ t, step engine order s.1 label = some t → ∀ i taskId failureClass,
    label = .start i (.retryTask taskId failureClass) → taskId ∈ s.2.started →
      ∀ task, s.1.tasks.lookup taskId = some task → task.mutating = true → t.calls i = none

def WithinBudget (s : RuntimeService × Tally) : Prop :=
  ∀ taskId max, s.2.budget.lookup taskId = some max → s.2.handed.count taskId ≤ max

-- No call is about to hand the task over.
def Unpending (s : RuntimeService) (taskId : String) : Prop :=
  ∀ i call, s.calls i = some call → call.pending = true → call.taskId ≠ taskId

-- What decide_retry looks at is there to be seen when it decides: the status of a
-- started task, and a row for each time that the task was handed over. A task is
-- approved before it is handed over, and none is by two calls at once. A backend
-- that was handed the task is the last one of its call.
def Sparing (s : RuntimeService × Tally) : Label → Prop
  | .start _ (.approveTask taskId) =>
      ∀ task ∈ s.1.tasks.lookup taskId, task.status = .approvalRequired →
        taskId ∉ s.2.handed ∧ Unpending s.1 taskId
  | .start _ (.retryTask taskId failureClass) =>
      ∀ task ∈ s.1.tasks.lookup taskId,
        (taskId ∈ s.2.started → task.mutating = true →
          task.status = .running ∨ task.status = .accepted ∨ failureClass ∉ safeBeforeStart ∨
            task.maxAttempts ≤ (s.1.attemptsOf taskId).length) ∧
        s.2.handed.count taskId ≤ (s.1.attemptsOf taskId).length ∧ Unpending s.1 taskId
  | .resume i input =>
      ∀ call ∈ s.1.calls i, call.pending = false →
        ∀ e ∈ s.1.proceed call input, ∀ next ∈ e.next, next.fallsBack = false
  | _ => True

end Definitions

-- The task may be handed over once more, and no other call is about to do so.
def Spare (s : RuntimeService × Tally) (taskId : String) : Prop :=
  (∀ max, s.2.budget.lookup taskId = some max → s.2.handed.count taskId < max) ∧
    Unpending s.1 taskId

-- Every record of a task allows the attempts that the task was created with.
structure Budgeted (s : RuntimeService × Tally) : Prop where
  known : s.1.Known
  stored : ∀ taskId task, s.1.tasks.lookup taskId = some task →
    s.2.budget.lookup taskId = some task.maxAttempts
  held : ∀ i call, s.1.calls i = some call → ∀ task ∈ call.records,
    s.2.budget.lookup call.taskId = some task.maxAttempts
  positive : ∀ taskId max, s.2.budget.lookup taskId = some max → 1 ≤ max

structure TallyInv (s : RuntimeService × Tally) : Prop where
  budgeted : Budgeted s
  unhanded : ∀ taskId, s.1.tasks.lookup taskId = none → taskId ∉ s.2.handed
  one_pending : ∀ i j first second, s.1.calls i = some first → s.1.calls j = some second →
    first.pending = true → second.pending = true → first.taskId = second.taskId → i = j
  within : WithinBudget s
  pending_within : ∀ i call, s.1.calls i = some call → call.pending = true →
    ∀ max, s.2.budget.lookup call.taskId = some max → s.2.handed.count call.taskId < max

variable {engine : PolicyEngine} {order : Iteration} {s t : RuntimeService} {e : Effect}
  {h after : Tally} {taskId : String} {now : Time} {i : Nat}

-- What an effect on a task and the tally after it have to be like.
structure Tallied (s : RuntimeService) (h : Tally) (i : Nat) (e : Effect) (taskId : String)
    (after : Tally) : Prop where
  budget : ∀ key, key ≠ taskId → after.budget.lookup key = h.budget.lookup key
  handed : ∀ key, key ≠ taskId → after.handed.count key = h.handed.count key
  unhanded : (s.advance i e).tasks.lookup taskId = none → taskId ∉ after.handed
  within : ∀ max, after.budget.lookup taskId = some max → after.handed.count taskId ≤ max
  alone : ∀ call, e.next = some call → call.pending = true →
    ∀ j other, j ≠ i → s.calls j = some other → other.pending = true → other.taskId ≠ taskId
  spare : ∀ j call, (s.advance i e).calls j = some call → call.pending = true →
    call.taskId = taskId → ∀ max, after.budget.lookup taskId = some max →
      after.handed.count taskId < max

theorem TallyInv.advance (hs : TallyInv (s, h)) (hon : e.On taskId now)
    (hbudgeted : Budgeted (s.advance i e, after)) (htallied : Tallied s h i e taskId after) :
    TallyInv (s.advance i e, after) where
  budgeted := hbudgeted
  unhanded := by
    intro key hkey
    by_cases hk : key = taskId
    · subst hk
      exact htallied.unhanded hkey
    · rw [← List.count_eq_zero, htallied.handed key hk, List.count_eq_zero]
      exact hs.unhanded key (by rwa [advance_tasks_other hon hk] at hkey)
  one_pending := by
    intro j k first second hfirst hsecond hpf hps hid
    rcases advance_call hfirst with ⟨rfl, hnext⟩ | ⟨hj, hold⟩
    · rcases advance_call hsecond with ⟨rfl, -⟩ | ⟨hk, hother⟩
      · rfl
      · have hne := htallied.alone first hnext hpf k second hk hother hps
        exact absurd (hid.symm.trans (hon.next first hnext).1) hne
    · rcases advance_call hsecond with ⟨rfl, hnext⟩ | ⟨hk, hother⟩
      · have hne := htallied.alone second hnext hps j first hj hold hpf
        exact absurd (hid.trans (hon.next second hnext).1) hne
      · exact hs.one_pending j k first second hold hother hpf hps hid
  within := by
    intro key max hmax
    by_cases hk : key = taskId
    · subst hk
      exact htallied.within max hmax
    · dsimp only at hmax
      rw [htallied.budget key hk] at hmax
      rw [htallied.handed key hk]
      exact hs.within key max hmax
  pending_within := by
    intro j call hcall hp max hmax
    dsimp only at hmax hcall
    by_cases hk : call.taskId = taskId
    · rw [hk] at hmax ⊢
      exact htallied.spare j call hcall hp hk max hmax
    · rw [htallied.budget _ hk] at hmax
      rw [htallied.handed _ hk]
      rcases advance_call hcall with ⟨rfl, hnext⟩ | ⟨hj, hold⟩
      · exact absurd (hon.next call hnext).1 hk
      · exact hs.pending_within j call hold hp max hmax

section Moves

variable {call : Call} {input : Input} {calls : List TimedCall}
  {attempt : Option ExecutionAttempt} {saved : Option RuntimeTaskRecord} {next : Option Call}

theorem leaves_pending {routed : Routed} {rest : List String} (h : Leaves routed rest next) :
    ∀ after, next = some after → after.pending = true → after.fallsBack = true := by
  intro after hafter hp
  cases h with
  | ends => cases hafter
  | completes result =>
      obtain rfl := Option.some.inj hafter
      cases hp
  | tries p =>
      obtain rfl := Option.some.inj hafter
      cases rest with
      | nil => simp [Call.pending] at hp
      | cons backendId rest => rfl

-- A call that is not to hand its task over comes to it by falling back only.
theorem Move.next_pending (hmove : Move s call input calls attempt saved next)
    (hp : call.pending = false) :
    ∀ after, next = some after → after.pending = true → after.fallsBack = true := by
  intro after hafter hpending
  cases hmove with
  | ungranted hnext => exact leaves_pending hnext after hafter hpending
  | unrecorded hnext => exact leaves_pending hnext after hafter hpending
  | returns hinput hnext => exact leaves_pending hnext after hafter hpending
  | executed hnext => exact leaves_pending hnext after hafter hpending
  | stops hcalls => cases hafter
  | queues => cases hafter
  | completes hwrites => cases hafter
  | cancels => cases hafter
  | exhausts =>
      obtain rfl := Option.some.inj hafter
      cases hpending
  | beats hcall hrenewed =>
      obtain rfl := Option.some.inj hafter
      cases hpending
  | workerEnds hcalls =>
      obtain rfl := Option.some.inj hafter
      cases hpending
  | records =>
      obtain rfl := Option.some.inj hafter
      cases hpending
  | leases =>
      obtain rfl := Option.some.inj hafter
      cases hpending
  | staysLeased hleased =>
      obtain rfl := Option.some.inj hafter
      cases hpending
  | frees hcalls =>
      obtain rfl := Option.some.inj hafter
      cases hpending
  | ingests hlate hs =>
      obtain rfl := Option.some.inj hafter
      cases hpending
  | _ => cases hp

end Moves

theorem hands_pending {call next : Call} (hh : call.hands next = true) :
    call.pending = true ∧ next.pending = false := by
  cases call <;> cases next <;> first | exact ⟨rfl, rfl⟩ | cases hh

-- The call before the step or the condition gives what a pending call needs.
theorem resume_tallied (hs : TallyInv (s, h)) {call : Call} {input : Input}
    (hcall : s.calls i = some call) (hcond : Sparing (s, h) (.resume i input))
    (he : s.proceed call input = some e) :
    Tallied s h i e call.taskId { h with handed := s.handedOver i input ++ h.handed } := by
  have hmove := proceed_move hs.budgeted.known.coherent he
  have hstored : s.tasks.lookup call.taskId ≠ none := hs.budgeted.known.unknown_calls i call hcall
  have halone (hp : call.pending = true) : ∀ j other, j ≠ i → s.calls j = some other →
      other.pending = true → other.taskId ≠ call.taskId := by
    intro j other hj hother hpo hid
    exact hj (hs.one_pending j i other call hother hcall hpo hp hid)
  have hpends {next : Call} (hnext : e.next = some next) (hp : next.pending = true) :
      call.pending = true := by
    by_contra hnot
    have hnot : call.pending = false := by simpa using hnot
    have hfalls := hmove.next_pending hnot next hnext hp
    simp [hcond call hcall hnot e he next hnext] at hfalls
  by_cases hhands : ∃ next, e.next = some next ∧ call.hands next = true
  · obtain ⟨next, hnext, hh⟩ := hhands
    obtain ⟨hp, hnp⟩ := hands_pending hh
    have hover : s.handedOver i input = [call.taskId] := by
      simp [handedOver, hcall, he, hnext, hh]
    have hlt := hs.pending_within i call hcall hp
    have hgone {key : String} {other : Call} (hother : e.next = some other)
        (hpo : other.pending = true) : other.taskId ≠ key := by
      obtain rfl := Option.some.inj (hnext.symm.trans hother)
      simp [hnp] at hpo
    rw [hover]
    refine ⟨fun _ _ => rfl, fun key hk => List.count_cons_of_ne hk.symm,
      fun hn => absurd hn (advance_stored hstored), fun max hmax => ?_,
      fun other hother hpo => absurd rfl (hgone hother hpo), fun j other hother hpo hid => ?_⟩
    · have hbound : h.handed.count call.taskId < max := hlt max hmax
      rw [List.singleton_append, List.count_cons_self]
      omega
    · rcases advance_call hother with ⟨rfl, hgoes⟩ | ⟨hj, hold⟩
      · exact absurd hid (hgone hgoes hpo)
      · exact absurd hid (halone hp j other hj hold hpo)
  · have hover : s.handedOver i input = [] := by
      simp only [handedOver, hcall, he, Option.bind_some]
      cases hnext : e.next with
      | none => rfl
      | some next => exact if_neg fun hh => hhands ⟨next, hnext, hh⟩
    rw [hover, List.nil_append]
    refine ⟨fun _ _ => rfl, fun _ _ => rfl, fun hn => absurd hn (advance_stored hstored),
      hs.within call.taskId, fun next hnext hpn => halone (hpends hnext hpn),
      fun j other hother hpo hid => ?_⟩
    · rcases advance_call hother with ⟨rfl, hgoes⟩ | ⟨hj, hold⟩
      · exact hs.pending_within j call hcall (hpends hgoes hpo)
      · rw [← hid]
        exact hs.pending_within j other hold hpo

section Starts

variable {operation : Operation}

theorem count_handed : (count engine order h s (.start i operation)).handed = h.handed := by
  unfold count
  split
  next hl =>
    cases hl
    split <;> rfl
  next hl =>
    cases hl
    split
    · rfl
    · split <;> rfl
  next hl => cases hl
  · rfl

theorem count_budget (hcreate : ∀ taskId body skipRouting task,
      operation = .createTask taskId body skipRouting →
        Runtime.createTask engine order body taskId ≠ .ok task) :
    (count engine order h s (.start i operation)).budget = h.budget := by
  unfold count
  split
  next hl =>
    cases hl
    split
    · rfl
    next hcreated => exact absurd hcreated (hcreate _ _ _ _ rfl)
  next hl =>
    cases hl
    split
    · rfl
    · split <;> rfl
  next hl => cases hl
  · rfl

-- Where nothing is counted, only a new pending call asks for more.
theorem kept_tallied (hs : TallyInv (s, h)) (hbudget : after.budget = h.budget)
    (hhanded : after.handed = h.handed)
    (hspare : ∀ call, e.next = some call → call.pending = true → Spare (s, h) taskId) :
    Tallied s h i e taskId after where
  budget := fun _ _ => by rw [hbudget]
  handed := fun _ _ => by rw [hhanded]
  unhanded := by
    intro hn
    rw [hhanded]
    refine hs.unhanded taskId ?_
    by_contra hold
    exact advance_stored hold hn
  within := by
    rw [hbudget, hhanded]
    exact hs.within taskId
  alone := fun call hcall hp j other _ hother hpo =>
    (hspare call hcall hp).2 j other hother hpo
  spare := by
    intro j call hcall hp hid
    rw [hbudget, hhanded]
    rcases advance_call hcall with ⟨rfl, hnext⟩ | ⟨hj, hold⟩
    · exact (hspare call hnext hp).1
    · rw [← hid]
      exact hs.pending_within j call hold hp

-- A new task has its whole budget.
theorem created_tallied (hs : TallyInv (s, h)) (hnew : s.tasks.lookup taskId = none)
    (body : CreateRuntimeTaskBody) :
    Tallied s h i e taskId { h with budget := h.budget.insert taskId body.maxAttempts } := by
  have hunhanded : taskId ∉ h.handed := hs.unhanded taskId hnew
  have hcount : h.handed.count taskId = 0 := List.count_eq_zero.mpr hunhanded
  have hothers {j : Nat} {other : Call} (hother : s.calls j = some other) :
      other.taskId ≠ taskId := by
    rintro rfl
    exact hs.budgeted.known.unknown_calls j other hother hnew
  refine ⟨fun key hk => AList.lookup_insert_ne hk, fun _ _ => rfl, fun _ => hunhanded,
    fun max _ => ?_, fun _ _ _ j other _ hother _ => hothers hother, fun j call hcall _ hid max hmax => ?_⟩
  · rw [hcount]
    exact Nat.zero_le max
  · rw [AList.lookup_insert, Option.some.injEq] at hmax
    have hrange := body.maxAttempts_range.1
    dsimp only
    omega

-- An approval comes first, and decide_retry has seen a row for each hand-over.
theorem start_tallied (hs : TallyInv (s, h)) (hcond : Sparing (s, h) (.start i operation))
    (he : s.startOperation engine order operation = some e) :
    Tallied s h i e operation.taskId (count engine order h s (.start i operation)) := by
  obtain ⟨-, hmove⟩ := startOperation_move he
  generalize e.saved = saved at hmove
  generalize hnext : e.next = next at hmove
  generalize e.leaseCalls = calls at hmove
  have hquiet (hn : ∀ call, next = some call → call.pending = false) :
      ∀ call, e.next = some call → call.pending = true → Spare (s, h) operation.taskId := by
    intro call hcall hp
    simp [hn call (hnext.symm.trans hcall)] at hp
  cases hmove with
  | invalid herror => exact kept_tallied hs (by simp [count, herror]) count_handed (hquiet (by simp))
  | created hnew hcreated hrouting hgated =>
      rename_i taskId body skipRouting task
      have hcount : count engine order h s (.start i (.createTask taskId body skipRouting)) =
          { h with budget := h.budget.insert taskId body.maxAttempts } := by
        simp [count, hcreated]
      rw [hcount]
      exact created_tallied hs hnew body
  | approved hl hstatus =>
      obtain ⟨hunhanded, hunpending⟩ := hcond _ hl hstatus
      refine kept_tallied hs (count_budget (by simp)) count_handed fun _ _ _ =>
        ⟨fun max hmax => ?_, hunpending⟩
      have hzero : h.handed.count (Operation.approveTask _).taskId = 0 :=
        List.count_eq_zero.mpr hunhanded
      exact hzero ▸ hs.budgeted.positive _ max hmax
  | retrying hl hretry =>
      obtain ⟨-, hrows, hunpending⟩ := hcond _ hl
      obtain ⟨hattempts, -⟩ := decideRetry_iff.mp hretry
      refine kept_tallied hs (count_budget (by simp)) count_handed fun _ _ _ =>
        ⟨fun max hmax => ?_, hunpending⟩
      obtain rfl := Option.some.inj ((hs.budgeted.stored _ _ hl).symm.trans hmax)
      exact lt_of_le_of_lt hrows hattempts
  | idle hcalls hcreate happrove =>
      exact kept_tallied hs (count_budget fun _ _ _ _ heq => absurd heq (hcreate _ _ _))
        count_handed (hquiet (by simp))
  | _ =>
      exact kept_tallied hs (count_budget (by simp)) count_handed (hquiet (by simp [Call.pending]))

end Starts

section Budgets

variable {call : Call} {input : Input} {calls : List TimedCall}
  {attempt : Option ExecutionAttempt} {saved : Option RuntimeTaskRecord} {next : Option Call}
  {operation : Operation} {max : Nat}

theorem finalRecord_maxAttempts {routed : Routed} {result : ExecutionResult}
    {verdict : CompletionVerdict} :
    (finalRecord routed result verdict).maxAttempts = routed.task.maxAttempts := by
  unfold finalRecord
  split_ifs <;> rfl

theorem leaves_records {routed : Routed} {rest : List String} (h : Leaves routed rest next) :
    ∀ after, next = some after → ∀ task ∈ after.records, task = routed.task := by
  intro after hafter task htask
  cases h with
  | ends => cases hafter
  | completes result =>
      obtain rfl := Option.some.inj hafter
      exact List.mem_singleton.mp htask
  | tries p =>
      obtain rfl := Option.some.inj hafter
      exact List.mem_singleton.mp htask

-- No record changes what max_attempts it has on its way through a call.
theorem Move.max_kept (hmove : Move s call input calls attempt saved next)
    (hstored : ∀ task, s.tasks.lookup call.taskId = some task → task.maxAttempts = max)
    (hheld : ∀ task ∈ call.records, task.maxAttempts = max) :
    (∀ task, saved = some task → task.maxAttempts = max) ∧
      ∀ after, next = some after → ∀ task ∈ after.records, task.maxAttempts = max := by
  have hleaves {routed : Routed} {rest : List String} (h : Leaves routed rest next)
      (hrouted : routed.task ∈ call.records) :
      ∀ after, next = some after → ∀ task ∈ after.records, task.maxAttempts = max := by
    intro after hafter task htask
    rw [leaves_records h after hafter task htask]
    exact hheld _ hrouted
  cases hmove with
  | passesOver hnext => exact ⟨by simp, hleaves hnext (by simp [Call.records])⟩
  | unprepared hnext => exact ⟨by simp, hleaves hnext (by simp [Call.records])⟩
  | refusesLease hrequest hlease hnext => exact ⟨by simp, hleaves hnext (by simp [Call.records])⟩
  | unsubmitted hnext => exact ⟨by simp, hleaves hnext (by simp [Call.records])⟩
  | ungranted hnext => exact ⟨by simp, hleaves hnext (by simp [Call.records])⟩
  | unrecorded hnext => exact ⟨by simp, hleaves hnext (by simp [Call.records])⟩
  | returns hinput hnext => exact ⟨by simp, hleaves hnext (by simp [Call.records])⟩
  | executed hnext => exact ⟨by simp, hleaves hnext (by simp [Call.records])⟩
  | enters hl => simpa [Call.records] using hstored _ hl
  | submits hbackend hl => simpa [Call.records, hstored _ hl] using hheld
  | completes hwrites =>
      refine ⟨fun task htask => ?_, by simp⟩
      obtain rfl := Option.some.inj htask
      rw [finalRecord_maxAttempts]
      exact hheld _ (List.mem_singleton_self _)
  | _ =>
      clear hleaves
      simp_all [Call.records, RuntimeTaskRecord.queue, Routed.decided, Routed.annotated,
        Routed.queuedRemotely, Routed.leasedRemotely, cancelledRecord, reset, BackendTurn.ready]

-- What an operation saves or takes along is the stored record, or a new one.
theorem StartMove.max_kept (hmove : StartMove engine order s operation calls saved next)
    {task : RuntimeTaskRecord}
    (h : saved = some task ∨ ∃ call, next = some call ∧ task ∈ call.records) :
    (∃ stored, s.tasks.lookup operation.taskId = some stored ∧
        stored.maxAttempts = task.maxAttempts) ∨
      ∃ taskId body skipRouting, operation = .createTask taskId body skipRouting ∧
        s.tasks.lookup taskId = none ∧ Runtime.createTask engine order body taskId = .ok task := by
  cases hmove with
  | created hnew hcreated hrouting hgated =>
      rename_i taskId body skipRouting made
      refine .inr ⟨taskId, body, skipRouting, rfl, hnew, ?_⟩
      rcases h with h | ⟨call, hcall, htask⟩
      · exact Option.some.inj h ▸ hcreated
      · by_cases hs : made.status = .routing
        · obtain rfl := Option.some.inj ((hrouting hs).symm.trans hcall)
          cases skipRouting with
          | true => exact List.mem_singleton.mp htask ▸ hcreated
          | false => cases htask
        · exact absurd ((hgated hs).symm.trans hcall) (by simp)
  | approved hl hs =>
      refine .inl ⟨_, hl, ?_⟩
      have heq := by simpa [Call.records] using h
      rw [← heq]
  | offered hl hlease htoken =>
      refine .inl ⟨_, hl, ?_⟩
      have heq := by simpa using h
      rw [← heq]
  | reported hl hvalid hreport =>
      refine .inl ⟨_, hl, ?_⟩
      have heq := by simpa using h
      rw [← heq]
  | ended hl hvalid =>
      refine .inl ⟨_, hl, ?_⟩
      have heq := by simpa [Call.records] using h
      rw [heq]
  | cancelling hl hs =>
      refine .inl ⟨_, hl, ?_⟩
      have heq := by simpa [Call.records] using h
      rw [heq]
  | retrying hl hretry =>
      refine .inl ⟨_, hl, ?_⟩
      have heq := by simpa [Call.records] using h
      rw [heq]
  | _ => simp at h

theorem createTask_new {body : CreateRuntimeTaskBody} {skipRouting : Bool}
    (he : s.startOperation engine order (.createTask taskId body skipRouting) = some e) :
    s.tasks.lookup taskId = none := by
  have hcreate : s.createTask engine order taskId body skipRouting = some e := he
  unfold createTask at hcreate
  by_contra hstored
  obtain ⟨task, htask⟩ := Option.ne_none_iff_exists'.mp hstored
  simp [htask] at hcreate

theorem Budgeted.advance (hs : Budgeted (s, h)) (hon : e.On taskId now)
    (hknown : (s.advance i e).Known)
    (hpositive : ∀ key max, after.budget.lookup key = some max → 1 ≤ max)
    (hold : ∀ key, s.tasks.lookup key ≠ none → after.budget.lookup key = h.budget.lookup key)
    (hkept : ∀ task, (e.saved = some task ∨ ∃ call, e.next = some call ∧ task ∈ call.records) →
      after.budget.lookup taskId = some task.maxAttempts) :
    Budgeted (s.advance i e, after) where
  known := hknown
  positive := hpositive
  stored := by
    have hkeeps : ∀ key task, s.tasks.lookup key = some task →
        after.budget.lookup key = some task.maxAttempts := fun key task htask => by
      rw [hold key (by simp [htask])]
      exact hs.stored key task htask
    intro key task htask
    cases hsaved : e.saved with
    | none =>
        dsimp only at htask
        rw [advance_unsaved hsaved] at htask
        exact hkeeps key task htask
    | some saved =>
        dsimp only at htask
        rw [advance_saved hsaved] at htask
        by_cases hk : key = saved.taskId
        · subst hk
          rw [AList.lookup_insert, Option.some.injEq] at htask
          rw [← htask, hon.saved saved hsaved]
          exact hkept saved (.inl hsaved)
        · rw [AList.lookup_insert_ne hk] at htask
          exact hkeeps key task htask
  held := by
    intro j call hcall task htask
    rcases advance_call hcall with ⟨rfl, hnext⟩ | ⟨hj, hother⟩
    · rw [(hon.next call hnext).1]
      exact hkept task (.inr ⟨call, hnext, htask⟩)
    · rw [hold _ (hs.known.unknown_calls j call hother)]
      exact hs.held j call hother task htask

theorem Budgeted.step {s t : RuntimeService × Tally} {label : Label} (hs : Budgeted s)
    (h : watched (step engine order) (count engine order) s label = some t) : Budgeted t := by
  obtain ⟨s, tally⟩ := s
  obtain ⟨t, after⟩ := t
  obtain ⟨hstep, hcounted⟩ := watched_eq_some h
  dsimp only at hstep hcounted
  subst hcounted
  have hknown := hs.known.step hstep
  have hcoherent := hs.known.coherent
  rcases step_cases hstep with ⟨later, rfl, -, rfl⟩ | ⟨i, operation, e, rfl, -, he, rfl⟩ |
    ⟨i, input, call, e, rfl, hcall, he, rfl⟩
  · exact ⟨hknown, hs.stored, hs.held, hs.positive⟩
  · have hmove := (startOperation_move he).2
    have hon := startOperation_on hcoherent he
    by_cases hcreate : ∃ taskId body skipRouting task,
        operation = .createTask taskId body skipRouting ∧
          Runtime.createTask engine order body taskId = .ok task
    · obtain ⟨taskId, body, skipRouting, made, rfl, hmade⟩ := hcreate
      have hnew := createTask_new he
      have hcount : count engine order tally s (.start i (.createTask taskId body skipRouting)) =
          { tally with budget := tally.budget.insert taskId body.maxAttempts } := by
        simp [count, hmade]
      rw [hcount]
      refine hs.advance hon hknown (fun key max hmax => ?_) (fun key hkey => ?_) fun task htask => ?_
      · by_cases hk : key = taskId
        · subst hk
          rw [AList.lookup_insert, Option.some.injEq] at hmax
          exact hmax ▸ body.maxAttempts_range.1
        · rw [AList.lookup_insert_ne hk] at hmax
          exact hs.positive key max hmax
      · exact AList.lookup_insert_ne fun hk => hkey (hk ▸ hnew)
      · rcases hmove.max_kept htask with ⟨stored, hl, -⟩ | ⟨_, _, _, hoperation, -, hcreated⟩
        · exact absurd (hnew.symm.trans hl) (by simp)
        · cases hoperation
          rw [(createTask_kept hcreated).2.2]
          exact AList.lookup_insert _
    · have hbudget := count_budget (h := tally) (s := s) (i := i)
        fun _ _ _ _ heq hcreated => hcreate ⟨_, _, _, _, heq, hcreated⟩
      refine hs.advance hon hknown (hbudget ▸ hs.positive) (fun _ _ => by rw [hbudget])
        fun task htask => ?_
      rcases hmove.max_kept htask with ⟨stored, hl, hmax⟩ | ⟨_, _, _, hoperation, -, hcreated⟩
      · rw [hbudget, ← hmax]
        exact hs.stored _ _ hl
      · exact absurd ⟨_, _, _, _, hoperation, hcreated⟩ hcreate
  · obtain ⟨stored, hstored⟩ := Option.ne_none_iff_exists'.mp (hs.known.unknown_calls i call hcall)
    have hbudget := hs.stored _ _ hstored
    have hheld : ∀ task ∈ call.records, task.maxAttempts = stored.maxAttempts := fun task htask =>
      Option.some.inj ((hs.held i call hcall task htask).symm.trans hbudget)
    obtain ⟨hsaved, hnext⟩ := (proceed_move hcoherent he).max_kept
      (fun task htask => by rw [Option.some.inj (htask.symm.trans hstored)]) hheld
    refine hs.advance (proceed_on hcoherent (hcoherent.calls i call hcall) he) hknown hs.positive
      (fun _ _ => rfl) fun task htask => ?_
    have hmax : task.maxAttempts = stored.maxAttempts := by
      rcases htask with htask | ⟨next, hgoes, htask⟩
      · exact hsaved task htask
      · exact hnext next hgoes task htask
    rw [hmax]
    exact hbudget

end Budgets

theorem TallyInv.step {s t : RuntimeService × Tally} {label : Label} (hs : TallyInv s)
    (hcond : Sparing s label)
    (hwatched : watched (step engine order) (count engine order) s label = some t) :
    TallyInv t := by
  obtain ⟨s, h⟩ := s
  obtain ⟨t, after⟩ := t
  have ⟨hstep, hcounted⟩ := watched_eq_some hwatched
  dsimp only at hstep hcounted
  subst hcounted
  have hbudgeted := hs.budgeted.step hwatched
  have hcoherent := hs.budgeted.known.coherent
  rcases step_cases hstep with ⟨later, rfl, -, rfl⟩ | ⟨i, operation, e, rfl, -, he, rfl⟩ |
    ⟨i, input, call, e, rfl, hcall, he, rfl⟩
  · exact ⟨hbudgeted, hs.unhanded, hs.one_pending, hs.within, hs.pending_within⟩
  · exact hs.advance (startOperation_on hcoherent he) hbudgeted (start_tallied hs hcond he)
  · exact hs.advance (proceed_on hcoherent (hcoherent.calls i call hcall) he) hbudgeted
      (resume_tallied hs hcall hcond he)

-- decide_retry takes up a task that changes something before its start only, by
-- what the status of the moment says.
theorem retryDecision_refused {task : RuntimeTaskRecord} {failureClass : FailureClass}
    (hmutating : task.mutating = true)
    (h : task.status = .running ∨ task.status = .accepted ∨ failureClass ∉ safeBeforeStart ∨
      task.maxAttempts ≤ (s.attemptsOf taskId).length) :
    (s.retryDecision taskId task failureClass).retry = false := by
  rw [Bool.eq_false_iff]
  intro hretry
  obtain ⟨hattempts, hstarted, hclass⟩ := decideRetry_iff.mp hretry
  have hunstarted := of_decide_eq_false hstarted
  rcases h with hrunning | haccepted | hunsafe | hmax
  · exact hunstarted (.inl hrunning)
  · exact hunstarted (.inr haccepted)
  · rcases hclass with hsafe | ⟨hreads, -⟩
    · exact hunsafe hsafe
    · simp [hmutating] at hreads
  · omega

theorem retrySafe {s : RuntimeService × Tally} {label : Label} (hcond : Sparing s label) :
    RetrySafe engine order s label := by
  intro t hstep i taskId failureClass hlabel hstarted task htask hmutating
  subst hlabel
  rcases step_cases hstep with ⟨_, hl, -⟩ | ⟨j, operation, e, hl, hfree, he, rfl⟩ |
    ⟨_, _, _, _, hl, -⟩
  · cases hl
  · cases hl
    obtain ⟨-, hmove⟩ := startOperation_move he
    obtain ⟨hrefused, -⟩ := hcond task htask
    rw [advance_calls, Function.update_self]
    generalize e.leaseCalls = calls at hmove
    generalize e.saved = saved at hmove
    generalize e.next = next at hmove
    cases hmove with
    | idle hcalls hcreate happrove => rfl
    | retrying hl hretry =>
        obtain rfl := Option.some.inj (hl.symm.trans htask)
        rw [retryDecision_refused hmutating (hrefused hstarted hmutating)] at hretry
        cases hretry
  · cases hl

theorem initial_tallyInv {ttl : Time} : TallyInv (initial ttl, {}) where
  budgeted := ⟨initial_known, by simp [initial], by simp [initial], by simp⟩
  unhanded := by simp
  one_pending := by simp [initial]
  within := by simp [WithinBudget]
  pending_within := by simp [initial]

-- Over every run and interleaving.
theorem retries_bounded {ttl : Time} {labels : List Label}
    (hcond : Along (watched (step engine order) (count engine order)) Sparing (initial ttl, {})
      labels) :
    Along (watched (step engine order) (count engine order)) (RetrySafe engine order)
        (initial ttl, {}) labels ∧
      ∀ s, run (watched (step engine order) (count engine order)) (initial ttl, {}) labels =
        some s → WithinBudget s := by
  have hstep : ∀ s label t, TallyInv s → Sparing s label →
      watched (step engine order) (count engine order) s label = some t → TallyInv t :=
    fun s label t hs hc h => hs.step hc h
  refine ⟨hcond.mono fun s label hc => retrySafe hc, fun s hr => ?_⟩
  have hs := run_invariant hstep initial_tallyInv hcond hr
  exact hs.within

section Runs

def sampleBegun (body : CreateRuntimeTaskBody) (task : RuntimeTaskRecord) :
    RuntimeService × Tally :=
  ((initial 60).advance 0
    (if task.status = .routing then { saved := some task, next := some (.routing "task") }
    else { saved := some task, answer := some (.ok task) }),
    { budget := (∅ : Table String Nat).insert "task" body.maxAttempts })

theorem count_created {body : CreateRuntimeTaskBody} {task : RuntimeTaskRecord}
    (hcreated : Runtime.createTask sampleEngine .asGiven body "task" = .ok task) :
    watched (step sampleEngine .asGiven) (count sampleEngine .asGiven) (initial 60, {})
      (.start 0 (.createTask "task" body false)) = some (sampleBegun body task) := by
  have hstart : (initial 60).createTask sampleEngine .asGiven "task" body false =
      some (if task.status = .routing then { saved := some task, next := some (.routing "task") }
        else { saved := some task, answer := some (.ok task) }) := by
    simp only [RuntimeService.createTask, hcreated]
    by_cases hs : task.status = .routing <;> simp [hs, initial]
  have hstep : step sampleEngine .asGiven (initial 60)
      (.start 0 (.createTask "task" body false)) = some (sampleBegun body task).1 := by
    simp only [step, startOperation, hstart]
    rfl
  simp only [watched, hstep, count, hcreated]
  rfl

theorem sparing_pending {s : RuntimeService × Tally} {call : Call} {input : Input}
    (hcall : s.1.calls i = some call) (hp : call.pending = true) : Sparing s (.resume i input) := by
  intro other hother hnot
  obtain rfl := Option.some.inj (hcall.symm.trans hother)
  simp [hp] at hnot

theorem sparing_goes {s : RuntimeService × Tally} {call : Call} {input : Input}
    (hcall : s.1.calls i = some call) (he : s.1.proceed call input = some e)
    (hnext : e.next.all (·.fallsBack = false) = true) : Sparing s (.resume i input) := by
  intro other hother _ effect heffect next hgoes
  obtain rfl := Option.some.inj (hcall.symm.trans hother)
  obtain rfl := Option.some.inj (he.symm.trans heffect)
  have hgoes : e.next = some next := hgoes
  simpa [hgoes] using hnext

theorem sparing_retry {s : RuntimeService × Tally} {failureClass : FailureClass}
    (hstarted : s.2.started = []) (hrows : s.2.handed.count taskId ≤ (s.1.attemptsOf taskId).length)
    (hcalls : ∀ j, (s.1.calls j).all (·.pending = false) = true) :
    Sparing s (.start i (.retryTask taskId failureClass)) := by
  intro task _
  refine ⟨fun h => ?_, hrows, fun j call hcall hp => ?_⟩
  · rw [hstarted] at h
    cases h
  · have hall := hcalls j
    simp [hcall, hp] at hall

-- The lease runs out, and a second node gets the task; the third is refused.
def sampleRetaken : List Label :=
  sampleLeased ++ [.resume 0 (.validated (.returned ())),
    .resume 0 (.completed ⟨true, .running, "awaiting node", none⟩), .tick 61,
    .start 1 (.retryTask "task" .nodeUnavailable), .resume 1 .go] ++
    sampleLeasing 1 "lease-2" "attempt-2" ++ [.resume 1 .go, .resume 1 .go,
      .start 2 (.retryTask "task" .nodeUnavailable)]

theorem sampleRetaken_sparing :
    Along (watched (step sampleEngine .asGiven) (count sampleEngine .asGiven)) Sparing
      (initial 60, {}) sampleRetaken := by
  refine .cons trivial (count_created sampleRead_created) ?_
  exact .cons (sparing_pending rfl rfl) rfl <| .cons (sparing_pending rfl rfl) rfl <|
    .cons (sparing_pending rfl rfl) rfl <| .cons (sparing_pending rfl rfl) rfl <|
    .cons (sparing_pending rfl rfl) rfl <| .cons (sparing_pending rfl rfl) rfl <|
    .cons (sparing_pending rfl rfl) rfl <|
    .cons (sparing_goes rfl rfl rfl) rfl <|
    .cons (sparing_goes rfl rfl rfl) rfl <|
    .cons (sparing_goes rfl rfl rfl) rfl <|
    .cons (sparing_goes rfl rfl rfl) rfl <| .cons trivial rfl <|
    .cons (sparing_retry rfl (by decide) (by rintro (_ | j) <;> rfl)) rfl <|
    .cons (sparing_pending rfl rfl) rfl <| .cons (sparing_pending rfl rfl) rfl <|
    .cons (sparing_pending rfl rfl) rfl <| .cons (sparing_pending rfl rfl) rfl <|
    .cons (sparing_pending rfl rfl) rfl <| .cons (sparing_pending rfl rfl) rfl <|
    .cons (sparing_pending rfl rfl) rfl <| .cons (sparing_pending rfl rfl) rfl <|
    .cons (sparing_goes rfl rfl rfl) rfl <|
    .cons (sparing_goes rfl rfl rfl) rfl <|
    .cons (sparing_retry rfl (by decide) (by rintro (_ | _ | j) <;> rfl)) rfl trivial

theorem retries_bounded_retaken : ∃ s,
    run (watched (step sampleEngine .asGiven) (count sampleEngine .asGiven)) (initial 60, {})
      sampleRetaken = some s ∧ s.2.handed = ["task", "task"] ∧ s.1.calls 2 = none ∧
        WithinBudget s := by
  obtain ⟨s, hr, hs⟩ : ∃ s, run (watched (step sampleEngine .asGiven)
      (count sampleEngine .asGiven)) (initial 60, {}) sampleRetaken = some s ∧
        s.2.handed = ["task", "task"] ∧ s.1.calls 2 = none := by
    rw [sampleRetaken, sampleLeased, List.cons_append, List.cons_append, List.cons_append,
      List.cons_append, run_cons, count_created sampleRead_created]
    exact ⟨_, rfl, rfl, rfl⟩
  exact ⟨s, hr, hs.1, hs.2, (retries_bounded sampleRetaken_sparing).2 s hr⟩

-- One attempt is all that the task may have.
def sampleOnce : CreateRuntimeTaskBody :=
  { sampleRead with maxAttempts := 1, maxAttempts_range := by decide }

def sampleOnceTask : RuntimeTaskRecord := { sampleReadTask with maxAttempts := 1 }

theorem sampleOnce_created :
    Runtime.createTask sampleEngine .asGiven sampleOnce "task" = .ok sampleOnceTask := by
  decide +kernel

-- The local backend raises, and fireconnect stands in for it.
def sampleFallen : List Label :=
  [.resume 0 (.planned samplePlanning),
    .resume 0 (.chosen (.ok { sampleRoute "local" "claude_code" with
      fallbackOrder := ["fireconnect"] })), .resume 0 .go, .resume 0 (.handed "" "" 0),
    .resume 0 (.opened sampleTurn), .resume 0 (.prepared (.returned ())),
    .resume 0 (.executed (.raised ⟨"TimeoutError", "harness timed out"⟩)),
    .resume 0 (.opened sampleTurn), .resume 0 (.prepared (.returned ()))]

-- The node reports the start of a task that may write, and then its failure.
def sampleFailed : List Label :=
  .start 1 (.approveTask "task") :: sampleLeasing 1 "lease-1" "attempt-1" ++
    [.resume 1 .go, .resume 1 .go, .resume 1 (.validated (.returned ())),
      .resume 1 (.completed ⟨true, .running, "awaiting node", none⟩),
      .start 2 (.nodeEvent "task" "attempt-1" "lease-1" 1 "task.started"),
      .start 2 (.nodeEvent "task" "attempt-1" "lease-1" 1 "task.failed"),
      .resume 2 (.completed ⟨false, .failed, "failed", none⟩), .resume 2 .go]

-- A task with one attempt is handed to two backends, and a task that may write
-- is routed anew after its node has begun with it.
theorem retries_unbounded :
    (∃ s, run (watched (step sampleEngine .asGiven) (count sampleEngine .asGiven)) (initial 60, {})
      (.start 0 (.createTask "task" sampleOnce false) :: sampleFallen) = some s ∧
        ¬WithinBudget s) ∧
    ∃ s, run (watched (step sampleEngine .asGiven) (count sampleEngine .asGiven)) (initial 60, {})
      (.start 0 (.createTask "task" samplePatch false) :: sampleFailed) = some s ∧
        ¬RetrySafe sampleEngine .asGiven s (.start 3 (.retryTask "task" .nodeUnavailable)) := by
  constructor
  · rw [run_cons, count_created sampleOnce_created]
    refine ⟨_, rfl, fun h => ?_⟩
    have hle : ["task", "task"].count "task" ≤ 1 := h "task" 1 rfl
    exact absurd hle (by decide)
  · rw [run_cons, count_created samplePatch_created]
    refine ⟨_, rfl, fun h => ?_⟩
    have hnone := h _ rfl 3 "task" .nodeUnavailable rfl (List.mem_singleton_self "task") _ rfl rfl
    cases hnone

end Runs

end RuntimeService

end JoyMesh.Runtime
