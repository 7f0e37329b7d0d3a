import JoyMesh.Runtime.Moves

namespace JoyMesh.Runtime

open Library Routing Completion

namespace Call

def cancels : Call → Bool
  | cancelling _ | cancelled _ => true
  | _ => false

theorem not_inRouteTask_of_cancels {call : Call} (h : call.cancels = true) :
    call.inRouteTask = false := by
  cases call <;> first | rfl | cases h

end Call

-- The tasks that create_task stored as rejected, and those that it stored as
-- awaiting an approval which has not come since.
structure Gates where
  rejected : List String := []
  awaiting : List String := []

namespace Gates

variable (engine : PolicyEngine) (order : Iteration)

def note (g : Gates) (s : RuntimeService) : Label → Gates
  | .start _ (.createTask taskId body _) =>
      match createTask engine order body taskId with
      | .error _ => g
      | .ok task =>
          if task.status = .rejected then { g with rejected := taskId :: g.rejected }
          else if task.status = .approvalRequired then { g with awaiting := taskId :: g.awaiting }
          else g
  | .start _ (.approveTask taskId) =>
      match s.tasks.lookup taskId with
      | none => g
      | some task =>
          if task.status = .approvalRequired then
            { g with awaiting := g.awaiting.filter (· ≠ taskId) }
          else g
  | _ => g

end Gates

def Gates.Shut (g : Gates) (taskId : String) : Prop := taskId ∈ g.rejected ∨ taskId ∈ g.awaiting

namespace RuntimeService

-- No route_task call is about a task behind a gate, and its status is not the
-- one that a route_task begins with.
def GateHeld (s : RuntimeService × Gates) : Prop :=
  ∀ taskId, s.2.Shut taskId →
    (∀ i call, s.1.calls i = some call → call.taskId = taskId → call.inRouteTask = false) ∧
      ∀ task, s.1.tasks.lookup taskId = some task → task.status ≠ .routing

-- A retry of a task behind a gate gives a failure class that is never retried
-- before the start, or not for a task that may change something.
def RetriesRefused (s : RuntimeService × Gates) : Label → Prop
  | .start _ (.retryTask taskId failureClass) =>
      s.2.Shut taskId → ∀ task ∈ s.1.tasks.lookup taskId,
        failureClass ∉ safeBeforeStart ∧
          (task.mutating = true ∨ failureClass ∉ [.nodeDisconnected, .processFailure])
  | _ => True

-- A task behind a gate has no lease, and its only calls are cancellations.
structure Untouched (s : RuntimeService) (awaiting : Bool) (taskId : String) : Prop where
  stored : ∃ task, s.tasks.lookup taskId = some task ∧
    (task.status = .rejected ∨ task.status = .cancelled ∨
      awaiting = true ∧ task.status = .approvalRequired)
  slot : s.leases.active.lookup taskId = none
  calls : ∀ i call, s.calls i = some call → call.taskId = taskId → call.cancels = true

structure GateInv (s : RuntimeService × Gates) : Prop where
  known : s.1.Known
  rejected : ∀ taskId ∈ s.2.rejected, s.1.Untouched false taskId
  awaiting : ∀ taskId ∈ s.2.awaiting, s.1.Untouched true taskId

variable {engine : PolicyEngine} {order : Iteration} {s t : RuntimeService} {e : Effect} {g : Gates}
  {taskId key : String} {now : Time} {i : Nat} {awaiting : Bool} {leases : LeaseService}
  {timed : TimedCall} {calls : List TimedCall} {saved : Option RuntimeTaskRecord}
  {next : Option Call} {task : RuntimeTaskRecord}

namespace Untouched

-- Steps on other tasks leave it so.
theorem other (h : s.Untouched awaiting key) (he : e.On taskId now) (hk : key ≠ taskId) :
    (s.advance i e).Untouched awaiting key where
  stored := by
    rw [advance_tasks_other he hk]
    exact h.stored
  slot := by
    rw [advance_lease_other he hk]
    exact h.slot
  calls := by
    intro j call hcall hid
    by_cases hj : j = i
    · subst hj
      rw [advance_calls, Function.update_self] at hcall
      exact absurd ((he.next call hcall).1.symm.trans hid).symm hk
    · rw [advance_calls, Function.update_of_ne hj] at hcall
      exact h.calls j call hcall hid

-- So does a step without a grant that saves a gated status, if anything, and
-- goes on as a cancellation, if at all.
theorem advance (h : s.Untouched awaiting key) (hn : ∀ timed ∈ e.leaseCalls, ¬timed.Acquires)
    (hsaved : ∀ task, e.saved = some task → task.status = .cancelled)
    (hnext : ∀ call, e.next = some call → call.cancels = true) :
    (s.advance i e).Untouched awaiting key where
  stored := by
    cases he : e.saved with
    | none =>
        rw [advance_unsaved he]
        exact h.stored
    | some task =>
        rw [advance_saved he]
        by_cases hk : key = task.taskId
        · subst hk
          exact ⟨task, AList.lookup_insert _, .inr (.inl (hsaved task he))⟩
        · rw [AList.lookup_insert_ne hk]
          exact h.stored
  slot := by
    rw [advance_leases]
    exact play_empty hn h.slot
  calls := by
    intro j call hcall hid
    by_cases hj : j = i
    · subst hj
      rw [advance_calls, Function.update_self] at hcall
      exact hnext call hcall
    · rw [advance_calls, Function.update_of_ne hj] at hcall
      exact h.calls j call hcall hid

end Untouched

theorem activeLease_empty (hkey : timed.call = .activeLease key)
    (h : leases.active.lookup key = none) : (leases.respond timed).1 = .ok none := by
  simp [LeaseService.respond, hkey, LeaseService.activeLease, h]

theorem validateEvent_empty {leaseId attemptId : String} {token : Nat}
    (hkey : timed.call = .validateEvent key leaseId token attemptId)
    (h : leases.active.lookup key = none) : (leases.respond timed).1 = .error .noLeaseForTask := by
  simp [LeaseService.respond, hkey, LeaseService.validateEvent, LeaseService.activeLease, h,
    Except.map]

-- What an operation can do to a task behind a gate, short of its approval.
theorem StartMove.gated {operation : Operation}
    (hmove : StartMove engine order s operation calls saved next)
    (h : s.Untouched awaiting operation.taskId)
    (hretry : ∀ failureClass task, operation = .retryTask operation.taskId failureClass →
      s.tasks.lookup operation.taskId = some task →
        (s.retryDecision operation.taskId task failureClass).retry = false)
    (happrove : awaiting = true → operation = .approveTask operation.taskId →
      ∀ task, s.tasks.lookup operation.taskId = some task → task.status ≠ .approvalRequired) :
    (∀ task, saved = some task → task.status = .cancelled) ∧
      ∀ call, next = some call → call.cancels = true := by
  obtain ⟨held, hheld, hstatus⟩ := h.stored
  have hslot := h.slot
  cases hmove with
  | invalid herror => simp
  | unapproved hs => simp
  | idle hcalls hcreate happrove => simp
  | created hnew hcreated hrouting hgated => exact absurd (hnew.symm.trans hheld) (by simp)
  | approved hl hs =>
      obtain rfl := Option.some.inj (hl.symm.trans hheld)
      have hawaiting : awaiting = true := by simpa [hs] using hstatus
      exact absurd hs (happrove hawaiting rfl _ hl)
  | offered hl hlease htoken =>
      rw [activeLease_empty rfl hslot] at hlease
      cases hlease
  | reported hl hvalid hreport =>
      rw [validateEvent_empty rfl hslot] at hvalid
      cases hvalid
  | ended hl hvalid =>
      rw [validateEvent_empty rfl hslot] at hvalid
      cases hvalid
  | cancelling hl hs =>
      refine ⟨by simp, fun call hcall => ?_⟩
      obtain rfl := Option.some.inj hcall
      rfl
  | retrying hl happroved =>
      exact absurd (happroved.symm.trans (hretry _ _ rfl hl)) (by simp)

-- A cancellation goes on as one, and saves the record as cancelled.
theorem Move.gated {call : Call} {input : Input} {attempt : Option ExecutionAttempt}
    (hmove : Move s call input calls attempt saved next) (h : call.cancels = true) :
    (∀ timed ∈ calls, ¬timed.Acquires) ∧ (∀ task, saved = some task → task.status = .cancelled) ∧
      ∀ after, next = some after → after.cancels = true := by
  cases hmove with
  | stops hcalls => exact ⟨hcalls, by simp, by simp⟩
  | frees hcalls =>
      refine ⟨hcalls, by simp, fun after hafter => ?_⟩
      obtain rfl := Option.some.inj hafter
      rfl
  | cancels =>
      refine ⟨by simp, fun task htask => ?_, by simp⟩
      obtain rfl := Option.some.inj htask
      rfl
  | _ => cases h

-- A task that create_task stores behind a gate has been touched by nothing else.
theorem created_untouched (hs : GateInv (s, g)) {body : CreateRuntimeTaskBody} {skipRouting : Bool}
    (hcreated : Runtime.createTask engine order body key = .ok task)
    (hstatus : task.status = .rejected ∨ awaiting = true ∧ task.status = .approvalRequired)
    (he : s.startOperation engine order (.createTask key body skipRouting) = some e) :
    (s.advance i e).Untouched awaiting key := by
  have hid : task.taskId = key := (createTask_kept hcreated).1
  have hgate : task.status ≠ .routing := by
    rcases hstatus with h | ⟨-, h⟩ <;> simp [h]
  obtain ⟨-, hmove⟩ := startOperation_move he
  have hn := hmove.acquires_nothing
  generalize hcalls : e.leaseCalls = calls at hmove hn
  generalize hsaved : e.saved = saved at hmove
  generalize hnext : e.next = next at hmove
  cases hmove with
  | invalid herror => exact absurd (herror.symm.trans hcreated) (by simp)
  | idle _ hcreate _ => exact absurd rfl (hcreate _ _ _)
  | created hnew hmade hrouting hgated =>
      rename_i made
      obtain rfl : made = task := Except.ok.inj (hmade.symm.trans hcreated)
      have hkept : (s.advance i e).tasks.lookup key = some made := by
        rw [advance_saved hsaved, hid]
        exact AList.lookup_insert _
      refine ⟨⟨made, hkept, hstatus.imp_right .inr⟩, ?_, fun j call hcall htask => ?_⟩
      · rw [advance_leases, hcalls]
        exact play_empty hn (hs.known.unknown_slot key hnew)
      · by_cases hj : j = i
        · subst hj
          rw [advance_calls, Function.update_self, hnext, hgated hgate] at hcall
          cases hcall
        · rw [advance_calls, Function.update_of_ne hj] at hcall
          exact absurd (htask ▸ hnew) (hs.known.unknown_calls j call hcall)

section Notes

variable {label : Label}

theorem mem_note_rejected (h : key ∈ (g.note engine order s label).rejected) :
    key ∈ g.rejected ∨
      ∃ i body skipRouting task, label = .start i (.createTask key body skipRouting) ∧
        Runtime.createTask engine order body key = .ok task ∧ task.status = .rejected := by
  unfold Gates.note at h
  split at h
  next j taskId body skipRouting =>
    split at h
    · exact .inl h
    next task hcreated =>
      split_ifs at h with hrejected
      · rcases List.mem_cons.mp h with rfl | h
        · exact .inr ⟨j, body, skipRouting, task, rfl, hcreated, hrejected⟩
        · exact .inl h
      · exact .inl h
      · exact .inl h
  · split at h
    · exact .inl h
    · split_ifs at h
      · exact .inl h
      · exact .inl h
  · exact .inl h

theorem mem_note_awaiting (h : key ∈ (g.note engine order s label).awaiting) :
    (key ∈ g.awaiting ∧ ∀ i, label = .start i (.approveTask key) →
      ∀ task, s.tasks.lookup key = some task → task.status ≠ .approvalRequired) ∨
      ∃ i body skipRouting task, label = .start i (.createTask key body skipRouting) ∧
        Runtime.createTask engine order body key = .ok task ∧
          task.status = .approvalRequired := by
  unfold Gates.note at h
  split at h
  next j taskId body skipRouting =>
    have hold (h : key ∈ g.awaiting) : key ∈ g.awaiting ∧ ∀ i,
        Label.start j (.createTask taskId body skipRouting) = .start i (.approveTask key) →
          ∀ task, s.tasks.lookup key = some task → task.status ≠ .approvalRequired :=
      ⟨h, by simp⟩
    split at h
    · exact .inl (hold h)
    next task hcreated =>
      split_ifs at h with hrejected hawaiting
      · exact .inl (hold h)
      · rcases List.mem_cons.mp h with rfl | h
        · exact .inr ⟨j, body, skipRouting, task, rfl, hcreated, hawaiting⟩
        · exact .inl (hold h)
      · exact .inl (hold h)
  next j taskId =>
    split at h
    next hl =>
      refine .inl ⟨h, fun i hi task htask => ?_⟩
      cases hi
      exact absurd (hl.symm.trans htask) (by simp)
    next held hl =>
      split_ifs at h with hstatus
      · obtain ⟨hg, hk⟩ := List.mem_filter.mp h
        refine .inl ⟨hg, fun i hi => ?_⟩
        cases hi
        simp at hk
      · refine .inl ⟨h, fun i hi task htask => ?_⟩
        cases hi
        obtain rfl := Option.some.inj (hl.symm.trans htask)
        exact hstatus
  next hcreate happrove => exact .inl ⟨h, fun i hi => absurd hi (happrove i key)⟩

end Notes

theorem retry_refused {failureClass : FailureClass} (h : failureClass ∉ safeBeforeStart ∧
      (task.mutating = true ∨ failureClass ∉ [.nodeDisconnected, .processFailure])) :
    (s.retryDecision taskId task failureClass).retry = false := by
  rw [Bool.eq_false_iff]
  intro hretry
  obtain ⟨-, -, hclass⟩ := decideRetry_iff.mp hretry
  rcases hclass with hsafe | ⟨hreads, hlost⟩
  · exact h.1 hsafe
  · rcases h.2 with hmutating | hkept
    · simp [hmutating] at hreads
    · exact hkept hlost

-- A step leaves a task behind a gate untouched, short of its approval.
theorem step_untouched (hs : GateInv (s, g)) {label : Label} (hcond : RetriesRefused (s, g) label)
    (hshut : g.Shut key) (h : s.Untouched awaiting key)
    (happrove : awaiting = true → ∀ i, label = .start i (.approveTask key) →
      ∀ task, s.tasks.lookup key = some task → task.status ≠ .approvalRequired)
    (hstep : step engine order s label = some t) : t.Untouched awaiting key := by
  rcases step_cases hstep with ⟨later, rfl, -, rfl⟩ | ⟨i, operation, e, rfl, -, he, rfl⟩ |
    ⟨i, input, call, e, rfl, hcall, he, rfl⟩
  · exact ⟨h.stored, h.slot, h.calls⟩
  · by_cases hk : key = operation.taskId
    · subst hk
      obtain ⟨-, hmove⟩ := startOperation_move he
      have hretry : ∀ failureClass task, operation = .retryTask operation.taskId failureClass →
          s.tasks.lookup operation.taskId = some task →
            (s.retryDecision operation.taskId task failureClass).retry = false := by
        intro failureClass task hoperation hl
        rw [hoperation] at hcond
        exact retry_refused (hcond hshut task hl)
      obtain ⟨hsaved, hnext⟩ := hmove.gated h hretry fun haw hoperation =>
        happrove haw i (congrArg _ hoperation)
      exact h.advance hmove.acquires_nothing hsaved hnext
    · exact h.other (startOperation_on hs.known.coherent he) hk
  · have hon := proceed_on hs.known.coherent (hs.known.coherent.calls i call hcall) he
    by_cases hk : key = call.taskId
    · subst hk
      have hmove := proceed_move hs.known.coherent he
      obtain ⟨hn, hsaved, hnext⟩ := hmove.gated (h.calls i call hcall rfl)
      exact h.advance hn hsaved hnext
    · exact h.other hon hk

theorem GateInv.step {s t : RuntimeService × Gates} {label : Label} (hs : GateInv s)
    (hcond : RetriesRefused s label)
    (h : watched (step engine order) (Gates.note engine order) s label = some t) : GateInv t := by
  obtain ⟨s, g⟩ := s
  obtain ⟨t, after⟩ := t
  obtain ⟨hstep, hnote⟩ := watched_eq_some h
  dsimp only at hstep hnote
  subst hnote
  have hcreated {awaiting : Bool} {key : String} {i : Nat} {body : CreateRuntimeTaskBody}
      {skipRouting : Bool} {task : RuntimeTaskRecord}
      (hcreated : Runtime.createTask engine order body key = .ok task)
      (hstatus : task.status = .rejected ∨ awaiting = true ∧ task.status = .approvalRequired)
      (hlabel : label = .start i (.createTask key body skipRouting)) :
      t.Untouched awaiting key := by
    subst hlabel
    rcases step_cases hstep with ⟨_, hl, -⟩ | ⟨j, operation, e, hl, -, he, rfl⟩ | ⟨_, _, _, _, hl, -⟩
    · cases hl
    · cases hl
      exact created_untouched hs hcreated hstatus he
    · cases hl
  refine ⟨hs.known.step hstep, fun key hkey => ?_, fun key hkey => ?_⟩
  · rcases mem_note_rejected hkey with hold | ⟨i, body, skipRouting, task, hlabel, hmade, hstatus⟩
    · exact step_untouched hs hcond (.inl hold) (hs.rejected key hold) (by simp) hstep
    · exact hcreated hmade (.inl hstatus) hlabel
  · rcases mem_note_awaiting hkey with ⟨hold, happrove⟩ |
      ⟨i, body, skipRouting, task, hlabel, hmade, hstatus⟩
    · exact step_untouched hs hcond (.inr hold) (hs.awaiting key hold) (fun _ => happrove) hstep
    · exact hcreated hmade (.inr ⟨rfl, hstatus⟩) hlabel

theorem initial_gateInv {ttl : Time} : GateInv (initial ttl, {}) where
  known := initial_known
  rejected := by simp
  awaiting := by simp

theorem GateInv.held {s : RuntimeService × Gates} (hs : GateInv s) : GateHeld s := by
  have huntouched {awaiting : Bool} {key : String} (h : s.1.Untouched awaiting key) :
      (∀ i call, s.1.calls i = some call → call.taskId = key → call.inRouteTask = false) ∧
        ∀ task, s.1.tasks.lookup key = some task → task.status ≠ .routing := by
    refine ⟨fun i call hcall hid => Call.not_inRouteTask_of_cancels (h.calls i call hcall hid),
      fun task htask hrouting => ?_⟩
    obtain ⟨held, hheld, hstatus⟩ := h.stored
    obtain rfl := Option.some.inj (hheld.symm.trans htask)
    simp [hrouting] at hstatus
  intro key hkey
  rcases hkey with hrejected | hawaiting
  · exact huntouched (hs.rejected key hrejected)
  · exact huntouched (hs.awaiting key hawaiting)

-- Over every run, engine and interleaving, in every state that is reached.
theorem gate_held {ttl : Time} {labels : List Label} {s : RuntimeService × Gates}
    (hcond : Along (watched (step engine order) (Gates.note engine order)) RetriesRefused
      (initial ttl, {}) labels)
    (hr : run (watched (step engine order) (Gates.note engine order)) (initial ttl, {}) labels =
      some s) : GateHeld s := by
  have hstep : ∀ s label t, GateInv s → RetriesRefused s label →
      watched (step engine order) (Gates.note engine order) s label = some t → GateInv t :=
    fun s label t hs hc h => hs.step hc h
  have h := run_invariant hstep initial_gateInv hcond hr
  exact h.held

section Runs

-- The profile for reading denies the sample request to patch.
def sampleDenied : CreateRuntimeTaskBody :=
  { sampleRead with prompt := "fix", requestedCapabilities := ["repository.patch"] }

def sampleDeniedTask : RuntimeTaskRecord :=
  (sampleDenied.request "task").record none [] .rejected false
    (some "policy rejected capabilities: filesystem.write, repository.patch, repository.write")

theorem sample_denied :
    Runtime.createTask sampleEngine .asGiven sampleDenied "task" = .ok sampleDeniedTask := by
  decide +kernel

-- The request comes in, is denied, and is retried with a failure class.
def sampleRetried (failureClass : FailureClass) : List Label :=
  [.start 0 (.createTask "task" sampleDenied false), .start 1 (.retryTask "task" failureClass),
    .resume 1 .go]

def sampleCreated : RuntimeService :=
  (initial 60).advance 0 { saved := some sampleDeniedTask, answer := some (.ok sampleDeniedTask) }

theorem step_sampleDenied :
    watched (step sampleEngine .asGiven) (Gates.note sampleEngine .asGiven) (initial 60, {})
      (.start 0 (.createTask "task" sampleDenied false)) =
        some (sampleCreated, { rejected := ["task"] }) := by
  have hstart : (initial 60).createTask sampleEngine .asGiven "task" sampleDenied false =
      some { saved := some sampleDeniedTask, answer := some (.ok sampleDeniedTask) } := by
    simp only [RuntimeService.createTask, sample_denied]
    rfl
  have hstep : step sampleEngine .asGiven (initial 60)
      (.start 0 (.createTask "task" sampleDenied false)) = some sampleCreated := by
    simp only [step, startOperation, hstart]
    rfl
  simp only [watched, hstep, Gates.note, sample_denied]
  rfl

theorem sampleRetried_along :
    Along (watched (step sampleEngine .asGiven) (Gates.note sampleEngine .asGiven)) RetriesRefused
      (initial 60, {}) ((sampleRetried .unknown).take 2) := by
  refine ⟨trivial, fun t ht => ⟨?_, fun _ _ => trivial⟩⟩
  obtain rfl := Option.some.inj (step_sampleDenied.symm.trans ht)
  intro _ task htask
  obtain rfl : sampleDeniedTask = task := Option.some.inj htask
  exact ⟨by decide, .inr (by decide)⟩

theorem gate_held_denied : ∃ s,
    run (watched (step sampleEngine .asGiven) (Gates.note sampleEngine .asGiven)) (initial 60, {})
      ((sampleRetried .unknown).take 2) = some s ∧ s.2.Shut "task" ∧ GateHeld s := by
  obtain ⟨s, hr, hs⟩ : ∃ s, run (watched (step sampleEngine .asGiven)
      (Gates.note sampleEngine .asGiven)) (initial 60, {}) ((sampleRetried .unknown).take 2) =
        some s ∧ s.2.Shut "task" := by
    rw [sampleRetried, List.take_succ_cons, run_cons, step_sampleDenied]
    exact ⟨_, rfl, .inl (List.mem_singleton_self "task")⟩
  exact ⟨s, hr, hs, gate_held sampleRetried_along hr⟩

-- A task that was denied is retried as if its node had been unavailable.
theorem denied_routed : ∃ s,
    run (watched (step sampleEngine .asGiven) (Gates.note sampleEngine .asGiven)) (initial 60, {})
      (sampleRetried .nodeUnavailable) = some s ∧ ¬GateHeld s := by
  rw [sampleRetried, run_cons, step_sampleDenied]
  refine ⟨_, rfl, fun h => ?_⟩
  have hcall := (h "task" (.inl (List.mem_singleton_self "task"))).1 1 (.routing "task") rfl rfl
  cases hcall

end Runs

end RuntimeService

end JoyMesh.Runtime
