import JoyMesh.Runtime.Fencing
import JoyMesh.Runtime.Moves

namespace JoyMesh.Runtime

open Library Routing Completion

namespace LeaseService

-- No lease of the task is active at the time.
def Free (s : LeaseService) (now : Time) (taskId : String) : Prop :=
  ∀ lease, s.active.lookup taskId = some lease → ¬(lease.status = .active ∧ now < lease.expiresAt)

variable {s : LeaseService} {timed : TimedCall} {calls : List TimedCall} {now : Time}
  {taskId : String}

theorem Free.later (h : s.Free now taskId) {later : Time} (hlater : now ≤ later) :
    s.Free later taskId := by
  intro lease hl hlive
  exact h lease hl ⟨hlive.1, lt_of_le_of_lt hlater hlive.2⟩

theorem seen_not_active (h : s.Free now taskId) {lease : TaskLease}
    (hl : s.active.lookup taskId = some lease) : (seen lease now).status ≠ .active :=
  fun hactive => h lease hl (seen_active hactive)

-- Only an acquisition makes a lease active.
theorem respond_free (h : s.Free timed.now taskId) (hn : ¬timed.Acquires) :
    (s.respond timed).2.Free timed.now taskId := by
  by_cases hk : taskId = timed.call.taskId
  · subst hk
    have hlooked : ∀ record,
        (s.activeLease timed.now timed.call.taskId).2.active.lookup timed.call.taskId = some record →
          record.status ≠ .active := by
      intro record hr
      rw [activeLease_lookup, if_pos rfl] at hr
      obtain ⟨lease, hl, rfl⟩ := Option.map_eq_some_iff.mp hr
      exact seen_not_active h hl
    have hchange := respond_change s timed
    generalize (s.respond timed).1 = answer at hchange
    generalize (s.respond timed).2 = after at hchange
    intro lease hl hlive
    cases hchange with
    | kept _ => exact hlooked lease hl hlive.1
    | written hslot hid htask hattempt htoken hactive hcall =>
        rw [AList.lookup_insert, Option.some.injEq] at hl
        subst hl
        exact hlooked _ hslot (hactive hlive.1)
    | granted hcall hfree hid htask hattempt htoken hactive => exact hn ⟨_, _, hcall⟩
  · intro lease hl
    rw [respond_other hk] at hl
    exact h lease hl

theorem play_free (h : s.Free now taskId) (hn : ∀ timed ∈ calls, ¬timed.Acquires)
    (hnow : ∀ timed ∈ calls, timed.now = now) :
    (play respond s calls).Free now taskId := by
  induction calls generalizing s with
  | nil => exact h
  | cons timed calls ih =>
      obtain rfl := hnow timed List.mem_cons_self
      exact ih (respond_free h (hn timed List.mem_cons_self))
        (fun other ho => hn other (List.mem_cons_of_mem _ ho))
        fun other ho => hnow other (List.mem_cons_of_mem _ ho)

-- What is free is granted.
theorem free_acquires {leaseId : String} {request : AcquireRequest} {stamp : Time}
    (h : s.Free now request.taskId) (refusal : LeaseRefusal) :
    (s.respond ⟨now, stamp, .acquire leaseId request⟩).1 ≠ .error refusal := by
  have hfree : (s.activeLease now request.taskId).1.any (·.status = .active) = false := by
    rw [activeLease_fst]
    cases hl : s.active.lookup request.taskId with
    | none => rfl
    | some lease => exact decide_eq_false (seen_not_active h hl)
  simp [respond, acquire, hfree, Except.map]

end LeaseService

namespace Call

-- A route_task that does not hold a lease.
def unleased : Call → Bool
  | routing _ | selecting .. | selected _ | handing _ | trying .. | preparing _ | submitting ..
  | executing _ => true
  | remote _ submission => submission.status ≠ "leased"
  | _ => false

-- The execute() of a local backend begins, or the coding worker.
def begins : Call → Call → Bool
  | preparing _, executing _ => true
  | handing _, working .. => true
  | _, _ => false

-- The submission of the joymesh backend asks for a lease.
def asksLease : Call → Input → Bool
  | submitting _ _ candidates, .leasing .. => (candidates.find? (·.eligible)).isSome
  | _, _ => false

-- The loop goes on to another backend.
def fallsBack : Call → Bool
  | trying _ _ (_ :: _) => true
  | _ => false

theorem inRouteTask_of_unleased {call : Call} (h : call.unleased = true) :
    call.inRouteTask = true := by
  cases call <;> first | rfl | cases h

end Call

namespace RuntimeService

section Definitions

variable (engine : PolicyEngine) (order : Iteration)

-- The calls that a step makes to the lease service.
def leaseCalls (s : RuntimeService) : Label → List TimedCall
  | .tick _ => []
  | .start _ operation => ((s.startOperation engine order operation).map (·.leaseCalls)).getD []
  | .resume i input => (((s.calls i).bind (s.proceed · input)).map (·.leaseCalls)).getD []

def observe (o : Observed) (s : RuntimeService) (label : Label) : Observed :=
  play Observed.respond o (s.leaseCalls engine order label)

-- The coding worker takes its leases for a node of its own.
def RemoteLive (s : RuntimeService) (taskId : String) : Prop :=
  ∃ lease, s.leases.active.lookup taskId = some lease ∧ lease.status = .active ∧
    s.clock < lease.expiresAt ∧ lease.nodeId ≠ "local-codex-worker"

-- Nothing begins elsewhere beside a remote lease, and a refused lease is not
-- answered by another backend.
def Exclusive (s : RuntimeService × Observed) (label : Label) : Prop :=
  ∀ t, step engine order s.1 label = some t → ∀ i input call next, label = .resume i input →
    s.1.calls i = some call → t.calls i = some next →
      (call.begins next = true → ¬s.1.RemoteLive call.taskId) ∧
        (call.asksLease input = true → next.fallsBack = false)

def OneLive (s : RuntimeService × Observed) : Prop :=
  ∀ first ∈ s.2.granted, ∀ second ∈ s.2.granted, first.taskId = second.taskId →
    s.2.Live s.1.clock first → s.2.Live s.1.clock second → first = second

-- No lease of the task is live, and no route_task of it is under way.
def Settled (s : RuntimeService) (taskId : String) : Prop :=
  s.leases.Free s.clock taskId ∧
    ∀ i call, s.calls i = some call → call.inRouteTask = true → call.taskId ≠ taskId

-- A new route_task finds its task settled, and one with a lease is not thrown
-- back into the loop.
def Undisturbed (s : RuntimeService) : Call → Input → Prop
  | .retrying task, .go => s.Settled task.taskId
  | .granted .., .raised _ => False
  | .recorded .., .raised _ => False
  | .remote _ submission, .raised _ => submission.status ≠ "leased"
  | .remote _ submission, .validated (.raised _) => submission.status ≠ "leased"
  | _, _ => True

-- The ids of leases come from uuid4.
def Uncontended (s : RuntimeService × Observed) (label : Label) : Prop :=
  PlayAlong Observed.respond Observed.FreshId s.2 (s.1.leaseCalls engine order label) ∧
    match label with
    | .start _ (.approveTask taskId) =>
        ∀ task ∈ s.1.tasks.lookup taskId, task.status = .approvalRequired → s.1.Settled taskId
    | .resume i input => ∀ call ∈ s.1.calls i, s.1.Undisturbed call input
    | _ => True

end Definitions

structure ExclusiveInv (s : RuntimeService × Observed) : Prop where
  known : s.1.Known
  observed : s.2.service = s.1.leases
  sound : s.2.Sound
  one_route : ∀ i j first second, s.1.calls i = some first → s.1.calls j = some second →
    first.inRouteTask = true → second.inRouteTask = true → first.taskId = second.taskId → i = j
  unleased : ∀ i call, s.1.calls i = some call → call.unleased = true →
    s.1.leases.Free s.1.clock call.taskId

variable {engine : PolicyEngine} {order : Iteration} {s t : RuntimeService} {e : Effect}
  {o : Observed} {taskId : String} {now : Time} {i : Nat} {j : Nat} {call : Call} {input : Input}

-- What an effect has to be like for the calls of its task.
structure RoutesAlone (s : RuntimeService) (i : Nat) (e : Effect) (taskId : String) : Prop where
  -- a new route_task is the only one
  alone : ∀ call, e.next = some call → call.inRouteTask = true →
    ∀ j other, j ≠ i → s.calls j = some other → other.inRouteTask = true → other.taskId ≠ taskId
  -- a lease is acquired by the route_task only, which then holds it
  holds : (∃ timed ∈ e.leaseCalls, timed.Acquires) →
    (∀ j other, j ≠ i → s.calls j = some other → other.inRouteTask = true →
      other.taskId ≠ taskId) ∧ ∀ call, e.next = some call → call.unleased = false
  free : ∀ call, e.next = some call → call.unleased = true → s.leases.Free s.clock taskId

-- The calls of an advanced state: the one that has moved, and the others.
theorem advance_call (h : (s.advance i e).calls j = some call) :
    (j = i ∧ e.next = some call) ∨ (j ≠ i ∧ s.calls j = some call) := by
  by_cases hj : j = i
  · subst hj
    rw [advance_calls, Function.update_self] at h
    exact .inl ⟨rfl, h⟩
  · rw [advance_calls, Function.update_of_ne hj] at h
    exact .inr ⟨hj, h⟩

theorem RoutesAlone.one_route (h : RoutesAlone s i e taskId) (hon : e.On taskId now)
    (hs : ExclusiveInv (s, o)) {k : Nat} {first second : Call}
    (hfirst : (s.advance i e).calls j = some first)
    (hsecond : (s.advance i e).calls k = some second) (hrf : first.inRouteTask = true)
    (hrs : second.inRouteTask = true) (hid : first.taskId = second.taskId) : j = k := by
  rcases advance_call hfirst with ⟨rfl, hnext⟩ | ⟨hj, hold⟩
  · rcases advance_call hsecond with ⟨rfl, -⟩ | ⟨hk, hother⟩
    · rfl
    · have hne := h.alone first hnext hrf k second hk hother hrs
      exact absurd (hid.symm.trans (hon.next first hnext).1) hne
  · rcases advance_call hsecond with ⟨rfl, hnext⟩ | ⟨hk, hother⟩
    · have hne := h.alone second hnext hrs j first hj hold hrf
      exact absurd (hid.trans (hon.next second hnext).1) hne
    · exact hs.one_route j k first second hold hother hrf hrs hid

theorem RoutesAlone.unleased (h : RoutesAlone s i e taskId) (hon : e.On taskId s.clock)
    (hs : ExclusiveInv (s, o)) (hcall : (s.advance i e).calls j = some call)
    (hu : call.unleased = true) : (s.advance i e).leases.Free s.clock call.taskId := by
  have hfree : s.leases.Free s.clock call.taskId := by
    rcases advance_call hcall with ⟨rfl, hnext⟩ | ⟨hj, hold⟩
    · rw [(hon.next call hnext).1]
      exact h.free call hnext hu
    · exact hs.unleased j call hold hu
  by_cases hacquires : ∃ timed ∈ e.leaseCalls, timed.Acquires
  · obtain ⟨hothers, hnext⟩ := h.holds hacquires
    have hne : call.taskId ≠ taskId := by
      rcases advance_call hcall with ⟨rfl, hgoes⟩ | ⟨hj, hold⟩
      · exact absurd hu (by simp [hnext call hgoes])
      · exact hothers j call hj hold (Call.inRouteTask_of_unleased hu)
    intro lease hl
    rw [advance_lease_other hon hne] at hl
    exact hfree lease hl
  · rw [advance_leases]
    exact LeaseService.play_free hfree (fun timed ht hacq => hacquires ⟨timed, ht, hacq⟩)
      fun timed ht => (hon.leaseCalls timed ht).2

section Moves

variable {call : Call} {input : Input} {calls : List TimedCall}
  {attempt : Option ExecutionAttempt} {saved : Option RuntimeTaskRecord} {next : Option Call}

-- Only a route_task goes on as one, and an approved retry.
theorem Move.next_route (hmove : Move s call input calls attempt saved next) :
    ∀ after, next = some after → after.inRouteTask = true →
      call.inRouteTask = true ∨ ∃ task, call = .retrying task ∧ input = .go := by
  intro after hafter hroute
  cases hmove with
  | reroutes => exact .inr ⟨_, rfl, rfl⟩
  | frees hcalls =>
      obtain rfl := Option.some.inj hafter
      cases hroute
  | ingests hlate hs =>
      obtain rfl := Option.some.inj hafter
      cases hroute
  | stops hcalls => cases hafter
  | queues => cases hafter
  | cancels => cases hafter
  | _ => exact .inl rfl

-- A route_task without a lease stays without one.
theorem Move.next_unleased (hmove : Move s call input calls attempt saved next)
    (hcond : s.Undisturbed call input) :
    ∀ after, next = some after → after.unleased = true →
      call.unleased = true ∨ ∃ task, call = .retrying task ∧ input = .go := by
  intro after hafter hunleased
  cases hmove with
  | reroutes => exact .inr ⟨_, rfl, rfl⟩
  | ungranted hnext => exact hcond.elim
  | unrecorded hnext => exact hcond.elim
  | returns hinput hnext =>
      refine .inl (decide_eq_true fun hleased => ?_)
      rcases hinput hleased with ⟨error, rfl⟩ | ⟨error, rfl⟩
      · exact hcond hleased
      · exact hcond hleased
  | stops hcalls => cases hafter
  | queues => cases hafter
  | completes hwrites => cases hafter
  | cancels => cases hafter
  | beats hcall hrenewed =>
      obtain rfl := Option.some.inj hafter
      cases hunleased
  | workerEnds hcalls =>
      obtain rfl := Option.some.inj hafter
      cases hunleased
  | records =>
      obtain rfl := Option.some.inj hafter
      cases hunleased
  | leases =>
      obtain rfl := Option.some.inj hafter
      cases hunleased
  | staysLeased hleased =>
      obtain rfl := Option.some.inj hafter
      cases hunleased
  | frees hcalls =>
      obtain rfl := Option.some.inj hafter
      cases hunleased
  | ingests hlate hs =>
      obtain rfl := Option.some.inj hafter
      cases hunleased
  | _ => exact .inl rfl

-- Where an acquisition of a free lease leads.
theorem Move.acquires (hmove : Move s call input calls attempt saved next)
    (hc : call.Coherent) (hfree : call.unleased = true → s.leases.Free s.clock call.taskId)
    (hacquires : ∃ timed ∈ calls, timed.Acquires) :
    call.inRouteTask = true ∧ ∀ after, next = some after → after.unleased = false := by
  obtain ⟨timed, ht, hacq⟩ := hacquires
  have hnot {calls : List TimedCall} (hcalls : ∀ timed ∈ calls, ¬timed.Acquires)
      (ht : timed ∈ calls) : False := hcalls timed ht hacq
  cases hmove with
  | stops hcalls => exact (hnot hcalls ht).elim
  | frees hcalls => exact (hnot hcalls ht).elim
  | workerEnds hcalls => exact (hnot hcalls ht).elim
  | beats hcall hrenewed =>
      obtain rfl := List.mem_singleton.mp ht
      exact absurd hacq hcall
  | duplicate hworker => exact (hnot (not_acquires (by simp)) ht).elim
  | works hworker hrequest hlease =>
      refine ⟨rfl, fun after hafter => ?_⟩
      obtain rfl := Option.some.inj hafter
      rfl
  | unleased hworker hlease => exact ⟨rfl, by simp⟩
  | grants hrequest hlease hnumber =>
      refine ⟨rfl, fun after hafter => ?_⟩
      obtain rfl := Option.some.inj hafter
      rfl
  | refusesLease hrequest hlease hnext =>
      have hid : _ = _ := hrequest.trans hc
      exact absurd hlease (LeaseService.free_acquires (hid ▸ hfree rfl) _)
  | _ => cases ht

end Moves

-- A route_task begins with a task that nothing is under way for.
theorem StartMove.settled {operation : Operation} {calls : List TimedCall}
    {saved : Option RuntimeTaskRecord} {next : Option Call} (hs : s.Known)
    (happrove : ∀ taskId, operation = .approveTask taskId → ∀ task, s.tasks.lookup taskId = some task →
      task.status = .approvalRequired → s.Settled taskId)
    (hmove : StartMove engine order s operation calls saved next) :
    ∀ call, next = some call → call.inRouteTask = true → s.Settled operation.taskId := by
  intro call hcall hroute
  cases hmove with
  | created hnew hcreated hrouting hgated =>
      refine ⟨fun lease hl => ?_, fun i other hother _ hid => ?_⟩
      · exact absurd ((hs.unknown_slot _ hnew).symm.trans hl) (by simp)
      · exact hs.unknown_calls i other hother (hid ▸ hnew)
  | approved hl hstatus => exact happrove _ rfl _ hl hstatus
  | ended hl hvalid =>
      obtain rfl := Option.some.inj hcall
      cases hroute
  | cancelling hl hstatus =>
      obtain rfl := Option.some.inj hcall
      cases hroute
  | retrying hl hretry =>
      obtain rfl := Option.some.inj hcall
      cases hroute
  | _ => cases hcall

theorem start_routesAlone (hs : ExclusiveInv (s, o)) {operation : Operation}
    (hcond : Uncontended engine order (s, o) (.start i operation))
    (he : s.startOperation engine order operation = some e) :
    RoutesAlone s i e operation.taskId := by
  obtain ⟨-, hmove⟩ := startOperation_move he
  have hsettled := hmove.settled hs.known fun taskId hoperation => by
    subst hoperation
    exact hcond.2
  refine ⟨fun call hcall hroute j other _ hother hrs => ?_, fun hacquires => ?_,
    fun call hcall hu => ?_⟩
  · exact (hsettled call hcall hroute).2 j other hother hrs
  · obtain ⟨timed, ht, hacq⟩ := hacquires
    exact absurd hacq (hmove.acquires_nothing timed ht)
  · exact (hsettled call hcall (Call.inRouteTask_of_unleased hu)).1

theorem resume_routesAlone (hs : ExclusiveInv (s, o)) (hcall : s.calls i = some call)
    (hcond : s.Undisturbed call input) (he : s.proceed call input = some e) :
    RoutesAlone s i e call.taskId := by
  have hmove := proceed_move hs.known.coherent he
  have halone (hroute : call.inRouteTask = true) : ∀ j other, j ≠ i → s.calls j = some other →
      other.inRouteTask = true → other.taskId ≠ call.taskId := by
    intro j other hj hother hr hid
    exact hj (hs.one_route j i other call hother hcall hr hroute hid)
  refine ⟨fun after hafter hroute => ?_, fun hacquires => ?_, fun after hafter hu => ?_⟩
  · rcases hmove.next_route after hafter hroute with hold | ⟨task, rfl, rfl⟩
    · exact halone hold
    · exact fun j other _ hother hr => hcond.2 j other hother hr
  · obtain ⟨hroute, hnext⟩ := hmove.acquires (hs.known.coherent.calls i call hcall)
      (hs.unleased i call hcall) hacquires
    exact ⟨halone hroute, hnext⟩
  · rcases hmove.next_unleased hcond after hafter hu with hold | ⟨task, rfl, rfl⟩
    · exact hs.unleased i call hcall hold
    · exact hcond.1

theorem ExclusiveInv.advance (hs : ExclusiveInv (s, o)) (hon : e.On taskId s.clock)
    (halone : RoutesAlone s i e taskId) (hknown : (s.advance i e).Known)
    (hfresh : PlayAlong Observed.respond Observed.FreshId o e.leaseCalls) :
    ExclusiveInv (s.advance i e, play Observed.respond o e.leaseCalls) where
  known := hknown
  observed := by
    rw [Observed.play_service, hs.observed]
    rfl
  sound := Observed.play_sound hs.sound hfresh
  one_route := fun _ _ _ _ hf hsec => halone.one_route hon hs hf hsec
  unleased := fun _ _ hcall hu => halone.unleased hon hs hcall hu

theorem ExclusiveInv.step {s t : RuntimeService × Observed} {label : Label} (hs : ExclusiveInv s)
    (hcond : Uncontended engine order s label)
    (h : watched (step engine order) (observe engine order) s label = some t) :
    ExclusiveInv t := by
  obtain ⟨s, o⟩ := s
  obtain ⟨t, after⟩ := t
  obtain ⟨hstep, hobserved⟩ := watched_eq_some h
  dsimp only at hstep hobserved
  subst hobserved
  have hknown := hs.known.step hstep
  obtain ⟨hfresh, hcond⟩ := hcond
  rcases step_cases hstep with ⟨later, rfl, hlater, rfl⟩ | ⟨i, operation, e, rfl, -, he, rfl⟩ |
    ⟨i, input, call, e, rfl, hcall, he, rfl⟩
  · exact ⟨hknown, hs.observed, hs.sound, hs.one_route,
      fun j call hcall hu => (hs.unleased j call hcall hu).later hlater⟩
  · have hcalls : s.leaseCalls engine order (.start i operation) = e.leaseCalls := by
      simp [leaseCalls, he]
    rw [hcalls] at hfresh
    rw [observe, hcalls]
    exact hs.advance (startOperation_on hs.known.coherent he)
      (start_routesAlone hs ⟨hcalls ▸ hfresh, hcond⟩ he) hknown hfresh
  · have hcalls : s.leaseCalls engine order (.resume i input) = e.leaseCalls := by
      simp [leaseCalls, hcall, he]
    rw [hcalls] at hfresh
    rw [observe, hcalls]
    exact hs.advance (proceed_on hs.known.coherent (hs.known.coherent.calls i call hcall) he)
      (resume_routesAlone hs hcall (hcond call hcall) he) hknown hfresh

theorem Move.asked {calls : List TimedCall} {attempt : Option ExecutionAttempt}
    {saved : Option RuntimeTaskRecord} {next : Option Call}
    (hmove : Move s call input calls attempt saved next) (hc : call.Coherent)
    (hfree : call.unleased = true → s.leases.Free s.clock call.taskId)
    (hasks : call.asksLease input = true) :
    ∀ after, next = some after → after.fallsBack = false := by
  intro after hafter
  cases hmove with
  | queuesRemotely =>
      obtain rfl := Option.some.inj hafter
      rfl
  | grants hrequest hlease hnumber =>
      obtain rfl := Option.some.inj hafter
      rfl
  | refusesLease hrequest hlease hnext =>
      have hid : _ = _ := hrequest.trans hc
      exact absurd hlease (LeaseService.free_acquires (hid ▸ hfree rfl) _)
  | stops hcalls => cases hafter
  | _ => cases hasks

theorem ExclusiveInv.exclusive {s : RuntimeService × Observed} {label : Label}
    (hs : ExclusiveInv s) : Exclusive engine order s label := by
  intro t hstep i input call next hlabel hcall hnext
  subst hlabel
  rcases step_cases hstep with ⟨_, hl, -⟩ | ⟨_, _, _, hl, -⟩ | ⟨j, _, other, e, hl, hother, he, rfl⟩
  · cases hl
  · cases hl
  cases hl
  obtain rfl := Option.some.inj (hother.symm.trans hcall)
  have hmove := proceed_move hs.known.coherent he
  rw [advance_calls, Function.update_self] at hnext
  refine ⟨fun hbegins ⟨lease, hl, hactive, hlive, _⟩ => ?_, fun hasks => ?_⟩
  · have hunleased : other.unleased = true := by
      cases other <;> first | rfl | cases hbegins
    exact hs.unleased i other hcall hunleased lease hl ⟨hactive, hlive⟩
  · exact hmove.asked (hs.known.coherent.calls i other hcall) (hs.unleased i other hcall) hasks
      next hnext

theorem initial_exclusiveInv {ttl : Time} : ExclusiveInv (initial ttl, .initial ttl) where
  known := initial_known
  observed := rfl
  sound := Observed.initial_sound ttl
  one_route := by simp [initial]
  unleased := by simp [initial]

-- Over every run and interleaving, at any readings of the clock.
theorem one_executor {ttl : Time} {labels : List Label}
    (hcond : Along (watched (step engine order) (observe engine order)) (Uncontended engine order)
      (initial ttl, .initial ttl) labels) :
    Along (watched (step engine order) (observe engine order)) (Exclusive engine order)
        (initial ttl, .initial ttl) labels ∧
      ∀ s, run (watched (step engine order) (observe engine order)) (initial ttl, .initial ttl)
        labels = some s → OneLive s := by
  have hstep : ∀ s label t, ExclusiveInv s → Uncontended engine order s label →
      watched (step engine order) (observe engine order) s label = some t → ExclusiveInv t :=
    fun s label t hs hc h => hs.step hc h
  refine ⟨Along.of_invariant hstep (fun s label hs _ => hs.exclusive) initial_exclusiveInv hcond,
    fun s hr => ?_⟩
  have hs := run_invariant hstep initial_exclusiveInv hcond hr
  exact fun first hf second hsec ht => hs.sound.one_live hf hsec ht

section Runs

def samplePlanning : Planning where
  prompt := "summarise"
  workspacePath := "/repo"
  hasNodes := true
  analysis := {}
  executionId := "execution"

def sampleDecision : ExecutionDecision := sampleRoute "joymesh" "claude_code"

def sampleTurn : Routing.Turn where
  execute := .returned { ok := true, message := "done" }

-- A route_task from its entry to its request for a lease.
def sampleLeasing (i : Nat) (leaseId attemptId : String) : List Label :=
  [.resume i (.planned samplePlanning), .resume i (.chosen (.ok sampleDecision)), .resume i .go,
    .resume i (.handed "" "" 0), .resume i (.opened sampleTurn),
    .resume i (.ranked [⟨"node", "claude_code", true, []⟩]),
    .resume i (.leasing leaseId attemptId 0)]

-- The task is leased to a node.
def sampleLeased : List Label :=
  .start 0 (.createTask "task" sampleRead false) :: sampleLeasing 0 "lease-1" "attempt-1" ++
    [.resume 0 .go, .resume 0 .go]

-- With no node there the task is about to run on the local backend. One registers,
-- and the retry leases the task to it.
def sampleRetriedLease : List Label :=
  .start 0 (.createTask "task" sampleRead false) ::
    [.resume 0 (.planned { samplePlanning with hasNodes := false }),
      .resume 0 (.chosen (.ok (sampleRoute "local" "claude_code"))), .resume 0 .go,
      .resume 0 (.handed "" "" 0), .resume 0 (.opened sampleTurn),
      .start 1 (.retryTask "task" .nodeUnavailable), .resume 1 .go] ++
    sampleLeasing 1 "lease-1" "attempt-1"

theorem sampleRead_created :
    Runtime.createTask sampleEngine .asGiven sampleRead "task" = .ok sampleReadTask := by
  decide +kernel

def sampleRoutingState : RuntimeService × Observed :=
  ((initial 60).advance 0 { saved := some sampleReadTask, next := some (.routing "task") },
    .initial 60)

theorem sampleRead_started :
    (initial 60).createTask sampleEngine .asGiven "task" sampleRead false =
      some { saved := some sampleReadTask, next := some (.routing "task") } := by
  simp only [RuntimeService.createTask, sampleRead_created]
  rfl

theorem step_sampleRead :
    watched (step sampleEngine .asGiven) (observe sampleEngine .asGiven) (initial 60, .initial 60)
      (.start 0 (.createTask "task" sampleRead false)) = some sampleRoutingState := by
  have hstep : step sampleEngine .asGiven (initial 60)
      (.start 0 (.createTask "task" sampleRead false)) = some sampleRoutingState.1 := by
    simp only [step, startOperation, sampleRead_started]
    rfl
  have hobserved : observe sampleEngine .asGiven (.initial 60) (initial 60)
      (.start 0 (.createTask "task" sampleRead false)) = .initial 60 := by
    simp only [observe, leaseCalls, startOperation, sampleRead_started]
    rfl
  simp only [watched, hstep, hobserved]
  rfl

theorem uncontended_resume {s : RuntimeService × Observed} {call : Call} {input : Input}
    (hfresh : PlayAlong Observed.respond Observed.FreshId s.2
      (s.1.leaseCalls engine order (.resume i input)))
    (hcall : s.1.calls i = some call) (h : s.1.Undisturbed call input) :
    Uncontended engine order s (.resume i input) := by
  refine ⟨hfresh, fun other hother => ?_⟩
  obtain rfl := Option.some.inj (hcall.symm.trans hother)
  exact h

theorem sampleLeased_along :
    Along (watched (step sampleEngine .asGiven) (observe sampleEngine .asGiven))
      (Uncontended sampleEngine .asGiven) (initial 60, .initial 60) sampleLeased := by
  refine .cons ⟨?_, trivial⟩ step_sampleRead ?_
  · simp only [leaseCalls, startOperation, sampleRead_started]
    trivial
  exact .cons (uncontended_resume trivial rfl trivial) rfl <|
    .cons (uncontended_resume trivial rfl trivial) rfl <|
    .cons (uncontended_resume trivial rfl trivial) rfl <|
    .cons (uncontended_resume trivial rfl trivial) rfl <|
    .cons (uncontended_resume trivial rfl trivial) rfl <|
    .cons (uncontended_resume trivial rfl trivial) rfl <|
    .cons (uncontended_resume ⟨rfl, trivial⟩ rfl trivial) rfl <|
    .cons (uncontended_resume trivial rfl trivial) rfl <|
    .cons (uncontended_resume trivial rfl trivial) rfl trivial

theorem one_executor_leased : ∃ s,
    run (watched (step sampleEngine .asGiven) (observe sampleEngine .asGiven))
      (initial 60, .initial 60) sampleLeased = some s ∧ s.2.granted ≠ [] ∧ OneLive s := by
  obtain ⟨s, hr, hs⟩ : ∃ s, run (watched (step sampleEngine .asGiven)
      (observe sampleEngine .asGiven)) (initial 60, .initial 60) sampleLeased = some s ∧
        s.2.granted ≠ [] := by
    rw [sampleLeased, List.cons_append, run_cons, step_sampleRead]
    exact ⟨_, rfl, List.cons_ne_nil _ _⟩
  exact ⟨s, hr, hs, (one_executor sampleLeased_along).2 s hr⟩

-- The lease is live when the first call goes on to execute().
theorem retried_elsewhere : ∃ s,
    run (watched (step sampleEngine .asGiven) (observe sampleEngine .asGiven))
      (initial 60, .initial 60) sampleRetriedLease = some s ∧
        ¬Exclusive sampleEngine .asGiven s (.resume 0 (.prepared (.returned ()))) := by
  rw [sampleRetriedLease, List.cons_append, run_cons, step_sampleRead]
  refine ⟨_, rfl, fun h => ?_⟩
  have hlive := (h _ rfl 0 _ _ _ rfl rfl rfl).1 rfl
  exact hlive ⟨_, rfl, rfl, by decide, by decide⟩

end Runs

end RuntimeService

end JoyMesh.Runtime
