import JoyMesh.ProviderRoutes.Manager

namespace JoyMesh.ProviderRoutes

open JoyMesh.Library

-- A lock of one process for one key.
abbrev LocalLock := Nat × Key

section Definitions

-- A call of the coordinator that runs up to its next await: what it was answered,
-- if it was not cancelled, and how it went on.
structure Move where
  id : CallId
  call : Call
  answer : Option Answer
  resumed : Resumed Task

def Move.lock (move : Move) : Option LocalLock :=
  move.call.task.lockKey.map fun key => (move.call.process, key)

def World.move (w : World) : Label → Option Move
  | .answer id ids choice => do
      let call ← w.live id
      let await ← call.task.await ids
      let (answer, _) ← w.shared.perform call.process await choice
      let resumed ← call.task.resume ids answer
      return ⟨id, call, some answer, resumed⟩
  | .lose id ids choice => do
      let call ← w.live id
      let await ← call.task.await ids
      let _ ← w.shared.perform call.process await choice
      if call.task.shielded || !await.effective then none
      else
        let resumed ← call.task.cancel
        return ⟨id, call, none, resumed⟩
  | .cancel id => do
      let call ← w.live id
      let resumed ← call.task.cancel
      return ⟨id, call, none, resumed⟩
  | _ => none

-- The lock that each call has acquired and not released yet.
abbrev Holders := CallId → Option LocalLock

-- A call holds the lock from its local.acquire on, until it comes by its
-- local.release or its process crashes.
def Move.note (holders : Holders) (move : Move) : Holders :=
  if move.resumed.unlock then Function.update holders move.id none
  else if move.answer = some .locked then Function.update holders move.id move.lock
  else holders

def noteLock (holders : Holders) (w : World) : Label → Holders
  | .crash process => fun id => (holders id).filter fun lock => lock.1 ≠ process
  | label => ((w.move label).map (Move.note holders)).getD holders

-- A call that releases a lock has acquired it.
def ReleasesOwn (s : World × Holders) (label : Label) : Prop :=
  ∀ move ∈ s.1.move label, move.resumed.unlock = true → ∀ lock ∈ move.lock,
    s.1.shared.locks lock = true → s.2 move.id = some lock

-- At most one call is between its acquisition and its release.
def Holders.Exclusive (holders : Holders) : Prop :=
  ∀ id other lock, holders id = some lock → holders other = some lock → id = other

-- No lifecycle gives up its wait for a local lock while the lock is held: its
-- timeout does not pass then, and it is not cancelled.
def World.Patient (w : World) : Label → Prop
  | .answer id _ (.raised none .timeoutError) => patient id
  | .cancel id => patient id
  | _ => True
where
  patient (id : CallId) : Prop :=
    ∀ call ∈ w.live id,
      match call.task with
      | .lifecycle key _ .lockWait => w.shared.locks (call.process, key) = false
      | _ => True

end Definitions

section Guarded

-- Between the acquisition of the local lock and its release.
def RecoverPc.inside : RecoverPc → Bool
  | skip => false
  | claim => false
  | lockWait _ _ => false
  | _ => true

def Recovery.guarded : Recovery → Option Key
  | list => none
  | round lease _ _ pc => if pc.inside then some lease.key else none

-- The key whose lock guards a call where it is.
def LifecyclePc.guarded (key : Key) : LifecyclePc → Option Key
  | checkBlock => none
  | recovering frame => frame.guarded
  | lockWait => none
  | restore _ _ watch => if watch = .left then none else some key
  | restoreVerify _ _ watch => if watch = .left then none else some key
  | release _ _ _ watch => if watch = .left then none else some key
  | finished _ => none
  | _ => some key

def SerialisedPc.guarded (key : Key) : SerialisedPc → Option Key
  | checkBlock => none
  | recovering frame => frame.guarded
  | lockWait => none
  | finished _ => none
  | _ => some key

namespace Task

def guarded : Task → Option Key
  | lifecycle key _ pc => pc.guarded key
  | serialised key _ pc => pc.guarded key
  | recovery _ _ frame => frame.guarded
  | recovered _ => none

-- The cancelled release of run_serialised_mutation skips the local one.
def leaked : Task → Bool
  | serialised _ _ (.finished (.raised .cancelledError)) => true
  | _ => false

end Task

-- How a call that goes on after an await passes the guarded part: the key it works
-- under, and what guards it before and after.
inductive Passes : Option Key → Option Key → Option Answer → Option Key → Bool → Prop
  | stays {lockKey guarded : Option Key} {answer : Option Answer} (h : answer ≠ some .locked) :
      Passes lockKey guarded answer guarded false
  | takes {key : Key} : Passes (some key) none (some .locked) (some key) false
  | leaves {key : Key} {answer : Option Answer} (h : answer ≠ some .locked) :
      Passes (some key) (some key) answer none true

def RecoveryNext.guarded : RecoveryNext → Option Key
  | going frame => frame.guarded
  | _ => none

theorem Recovery.guarded_of_next {managerId : String} {connectors : Option (List String)}
    {reports : List RecoveryReport} {listed : List ProviderRouteLease} :
    (next managerId connectors reports listed).guarded = none := by
  cases hnext : next managerId connectors reports listed with
  | going frame =>
      cases startsIn_of_next hnext with
      | skip => rfl
      | claim => rfl
  | finished => rfl
  | raised => rfl

def Recovery.key : Recovery → Option Key
  | list => none
  | round lease _ _ _ => some lease.key

theorem Recovery.passes_of_resume {ids : Ids} {managerId : String}
    {connectors : Option (List String)} {frame : Recovery} {answer : Answer}
    {resumed : Resumed RecoveryNext}
    (h : frame.resume ids managerId connectors answer = some resumed) :
    Passes frame.key frame.guarded (some answer) resumed.next.guarded resumed.unlock := by
  cases frame with
  | list =>
      cases answer with
      | store reply late =>
          cases reply with
          | leases found =>
              rw [← Option.some.inj h]
              dsimp only
              rw [guarded_of_next]
              exact .stays (by simp)
          | _ => cases h
      | _ => cases h
  | round lease rest reports pc =>
      have hmoved : ∀ {outcome}, afterMutation answer = some outcome → some answer ≠ some .locked := by
        rintro outcome ho ⟨⟩
        cases ho
      have hread : ∀ {outcome}, afterReading lease.originalState answer = some outcome →
          some answer ≠ some .locked := by
        rintro outcome ho ⟨⟩
        cases ho
      simp only [resume] at h
      split at h
      · rw [← Option.some.inj h, guarded_of_next]
        exact .stays (by simp)
      · rw [← Option.some.inj h]
        exact .stays (by simp)
      · rw [← Option.some.inj h]
        exact .stays (by simp)
      · split at h
        · rw [← Option.some.inj h, guarded_of_next]
          exact .stays (by simp)
        · rw [← Option.some.inj h]
          exact .stays (by simp)
      · rw [← Option.some.inj h]
        exact .stays (by simp)
      · rw [← Option.some.inj h]
        exact .takes
      · obtain ⟨outcome, ho, hresumed⟩ := Option.map_eq_some_iff.mp h
        rw [← hresumed]
        cases outcome with
        | none => exact .stays (hmoved ho)
        | some => exact .stays (hmoved ho)
      · obtain ⟨outcome, ho, hresumed⟩ := Option.map_eq_some_iff.mp h
        rw [← hresumed]
        exact .stays (hread ho)
      · split at h
        · rw [← Option.some.inj h]
          exact .stays (by simp)
        · rw [← Option.some.inj h, guarded_of_next]
          exact .leaves (by simp)
      · rw [← Option.some.inj h]
        exact .stays (by simp)
      · rw [← Option.some.inj h, guarded_of_next]
        exact .leaves (by simp)
      · rw [← Option.some.inj h]
        exact .stays (by simp)
      · rw [← Option.some.inj h]
        exact .stays (by simp)
      · rw [← Option.some.inj h]
        exact .leaves (by simp)
      · rw [← Option.some.inj h, guarded_of_next]
        exact .leaves (by simp)
      · rw [← Option.some.inj h, guarded_of_next]
        exact .leaves (by simp)
      · rw [← Option.some.inj h]
        exact .leaves (by simp)
      · cases h

theorem Passes.ofFrame {key : Key} {frame : Recovery} {guarded : Option Key}
    {answer : Option Answer} {unlock : Bool}
    (h : Passes frame.key frame.guarded answer guarded unlock) :
    Passes (some (Task.lockKey.frameKey key frame)) frame.guarded answer guarded unlock := by
  cases frame with
  | list =>
      generalize hkey : Recovery.key .list = lockKey at h
      cases h with
      | stays hanswer => exact .stays hanswer
      | takes => cases hkey
  | round => exact h

theorem Lifecycle.guarded_afterCleanup {key : Key} {held : Held} {work : Work}
    {outcome : RestoreOutcome} {watch : Watch} {answer : Option Answer} (h : answer ≠ some .locked) :
    Passes (some key) ((LifecyclePc.release held work outcome watch).guarded key) answer
      ((afterCleanup key held work outcome watch).next.guarded key)
      (afterCleanup key held work outcome watch).unlock := by
  cases watch with
  | waiting =>
      unfold afterCleanup
      cases work.pending <;> exact .leaves h
  | interrupted => exact .leaves h
  | left => exact .stays h

theorem Lifecycle.passes_of_resume {ids : Ids} {key : Key} {args : LifecycleArgs}
    {pc : LifecyclePc} {answer : Answer} {resumed : Resumed LifecyclePc}
    (hframe : pc.frame = none) (h : resume ids key args pc answer = some resumed) :
    Passes (some key) (pc.guarded key) (some answer) (resumed.next.guarded key) resumed.unlock ∨
      pc = .lockWait ∧ answer = .raised .timeoutError ∧ resumed.unlock = true ∧
        resumed.next.guarded key = none := by
  simp only [resume] at h
  cases pc with
  | checkBlock =>
      dsimp only at h
      split at h
      · rw [← Option.some.inj h]
        exact .inl (.stays (by simp))
      · rw [← Option.some.inj h]
        exact .inl (.stays (by simp))
      · cases h
  | recovering => cases hframe
  | lockWait =>
      dsimp only at h
      split at h
      · rw [← Option.some.inj h]
        exact .inl .takes
      · rw [← Option.some.inj h]
        exact .inr ⟨rfl, rfl, rfl, rfl⟩
      · cases h
  | inspect =>
      dsimp only at h
      split at h
      · rw [← Option.some.inj h]
        exact .inl (.stays (by simp))
      · rw [← Option.some.inj h]
        exact .inl (.leaves (by simp))
      · cases h
  | acquire current =>
      dsimp only at h
      split at h
      · split at h
        · rw [← Option.some.inj h]
          exact .inl (.stays (by simp))
        · rw [← Option.some.inj h]
          exact .inl (.stays (by simp))
      · split at h
        · rw [← Option.some.inj h]
          exact .inl (.leaves (by simp))
        · rw [← Option.some.inj h]
          exact .inl (.stays (by simp))
      · cases h
  | poll current =>
      dsimp only at h
      split at h
      · rw [← Option.some.inj h]
        exact .inl (.stays (by simp))
      · cases h
  | enable held =>
      dsimp only at h
      split at h
      · split at h
        · rw [← Option.some.inj h]
          exact .inl (.stays (by simp))
        · rw [← Option.some.inj h]
          exact .inl (.stays (by simp))
      · rw [← Option.some.inj h]
        exact .inl (.stays (by simp))
      · cases h
  | verify held =>
      dsimp only at h
      split at h
      · split at h
        · rw [← Option.some.inj h]
          exact .inl (.stays (by simp))
        · rw [← Option.some.inj h]
          exact .inl (.stays (by simp))
      · rw [← Option.some.inj h]
        exact .inl (.stays (by simp))
      · cases h
  | renew held =>
      dsimp only at h
      split at h
      · rw [← Option.some.inj h]
        exact .inl (.stays (by simp))
      · rw [← Option.some.inj h]
        exact .inl (.stays (by simp))
      · cases h
  | execute held =>
      dsimp only at h
      split at h
      · rw [← Option.some.inj h]
        exact .inl (.stays (by simp))
      · rw [← Option.some.inj h]
        exact .inl (.stays (by simp))
      · cases h
  | restore held work watch =>
      obtain ⟨outcome, ho, hresumed⟩ := Option.map_eq_some_iff.mp h
      have hanswer : some answer ≠ some .locked := by
        rintro ⟨⟩
        cases ho
      rw [← hresumed]
      cases outcome <;> exact .inl (.stays hanswer)
  | restoreVerify held work watch =>
      obtain ⟨outcome, ho, hresumed⟩ := Option.map_eq_some_iff.mp h
      have hanswer : some answer ≠ some .locked := by
        rintro ⟨⟩
        cases ho
      rw [← hresumed]
      exact .inl (.stays hanswer)
  | release held work outcome watch =>
      dsimp only at h
      split at h
      · rw [← Option.some.inj h]
        exact .inl (guarded_afterCleanup (by simp))
      · rw [← Option.some.inj h]
        exact .inl (guarded_afterCleanup (by simp))
      · cases h
  | finished => cases h

theorem Serialised.passes_of_resume {ids : Ids} {key : Key} {pc : SerialisedPc} {answer : Answer}
    {resumed : Resumed SerialisedPc} (hframe : pc.frame = none)
    (h : resume ids key pc answer = some resumed) :
    Passes (some key) (pc.guarded key) (some answer) (resumed.next.guarded key) resumed.unlock := by
  simp only [resume] at h
  cases pc with
  | checkBlock =>
      dsimp only at h
      split at h
      · rw [← Option.some.inj h]
        exact .stays (by simp)
      · rw [← Option.some.inj h]
        exact .stays (by simp)
      · cases h
  | recovering => cases hframe
  | lockWait =>
      dsimp only at h
      split at h
      · rw [← Option.some.inj h]
        exact .takes
      · rw [← Option.some.inj h]
        exact .stays (by simp)
      · cases h
  | inspect =>
      dsimp only at h
      split at h
      · rw [← Option.some.inj h]
        exact .stays (by simp)
      · rw [← Option.some.inj h]
        exact .leaves (by simp)
      · cases h
  | acquire current =>
      dsimp only at h
      split at h
      · rw [← Option.some.inj h]
        exact .stays (by simp)
      · split at h
        · rw [← Option.some.inj h]
          exact .leaves (by simp)
        · rw [← Option.some.inj h]
          exact .stays (by simp)
      · cases h
  | poll current =>
      dsimp only at h
      split at h
      · rw [← Option.some.inj h]
        exact .stays (by simp)
      · cases h
  | mutate lease =>
      dsimp only at h
      split at h
      · rw [← Option.some.inj h]
        exact .stays (by simp)
      · rw [← Option.some.inj h]
        exact .stays (by simp)
      · cases h
  | release lease ending =>
      dsimp only at h
      split at h
      · rw [← Option.some.inj h]
        exact .leaves (by simp)
      · rw [← Option.some.inj h]
        exact .leaves (by simp)
      · cases h
  | finished => cases h

namespace Task

-- A lifecycle whose wait for the lock ends without it comes by the release all the same.
theorem passes_of_resume {ids : Ids} {task : Task} {answer : Answer} {resumed : Resumed Task}
    (h : task.resume ids answer = some resumed) :
    Passes task.lockKey task.guarded (some answer) resumed.next.guarded resumed.unlock ∨
      ∃ key args, task = .lifecycle key args .lockWait ∧ answer = .raised .timeoutError ∧
        resumed.unlock = true ∧ resumed.next.guarded = none := by
  cases task with
  | lifecycle key args pc =>
      obtain ⟨next, hnext, rfl⟩ := Option.map_eq_some_iff.mp h
      cases hframe : pc.frame with
      | some frame =>
          cases pc with
          | recovering frame =>
              obtain ⟨after, hafter, hresumed⟩ := Option.map_eq_some_iff.mp hnext
              have hpasses := @Passes.ofFrame key _ _ _ _ (Recovery.passes_of_resume hafter)
              rw [← hresumed]
              obtain ⟨after, unlock⟩ := after
              cases after <;> exact .inl hpasses
          | _ => cases hframe
      | none =>
          have hkey : (lifecycle key args pc).lockKey = some key := by
            cases pc with
            | recovering => cases hframe
            | _ => rfl
          rw [hkey]
          refine (Lifecycle.passes_of_resume hframe hnext).imp_right ?_
          rintro ⟨rfl, hanswer, hunlock, hguarded⟩
          exact ⟨key, args, rfl, hanswer, hunlock, hguarded⟩
  | serialised key args pc =>
      obtain ⟨next, hnext, rfl⟩ := Option.map_eq_some_iff.mp h
      cases hframe : pc.frame with
      | some frame =>
          cases pc with
          | recovering frame =>
              obtain ⟨after, hafter, hresumed⟩ := Option.map_eq_some_iff.mp hnext
              have hpasses := @Passes.ofFrame key _ _ _ _ (Recovery.passes_of_resume hafter)
              rw [← hresumed]
              obtain ⟨after, unlock⟩ := after
              cases after <;> exact .inl hpasses
          | _ => cases hframe
      | none =>
          have hkey : (serialised key args pc).lockKey = some key := by
            cases pc with
            | recovering => cases hframe
            | _ => rfl
          rw [hkey]
          exact .inl (Serialised.passes_of_resume hframe hnext)
  | recovery managerId connectors frame =>
      obtain ⟨after, hafter, hresumed⟩ := Option.map_eq_some_iff.mp h
      have hpasses := Recovery.passes_of_resume hafter
      have hkey : (recovery managerId connectors frame).lockKey = frame.key := by
        cases frame <;> rfl
      rw [← hresumed, hkey]
      obtain ⟨after, unlock⟩ := after
      cases after <;> exact .inl hpasses
  | recovered => cases h

theorem passes_of_frameCancel (frame : Recovery) :
    Passes frame.key frame.guarded none none frame.unlocksOnCancel := by
  cases frame with
  | list => exact .stays nofun
  | round lease rest reports pc =>
      cases pc with
      | skip => exact .stays nofun
      | claim => exact .stays nofun
      | lockWait => exact .stays nofun
      | _ => exact .leaves nofun

theorem passes_of_watched {key : Key} {pc : Watch → LifecyclePc} {watch : Watch}
    {resumed : Resumed LifecyclePc}
    (hguarded : ∀ watch, (pc watch).guarded key = if watch = .left then none else some key)
    (h : Lifecycle.watched pc watch = some resumed) :
    Passes (some key) ((pc watch).guarded key) none (resumed.next.guarded key) resumed.unlock := by
  cases watch with
  | waiting =>
      rw [← Option.some.inj h, hguarded, hguarded]
      exact .stays nofun
  | interrupted =>
      rw [← Option.some.inj h, hguarded, hguarded]
      exact .leaves nofun
  | left => cases h

-- A cancelled call comes by the release of the lock, but for a release of
-- run_serialised_mutation; a waiting lifecycle does too.
theorem passes_of_cancel {task : Task} {resumed : Resumed Task} (h : task.cancel = some resumed) :
    Passes task.lockKey task.guarded none resumed.next.guarded resumed.unlock ∨
      resumed.next.leaked = true ∧ resumed.unlock = false ∧ resumed.next.guarded = none ∨
      ∃ key args, task = .lifecycle key args .lockWait ∧ resumed.unlock = true ∧
        resumed.next.guarded = none := by
  cases task with
  | lifecycle key args pc =>
      obtain ⟨next, hnext, rfl⟩ := Option.map_eq_some_iff.mp h
      cases pc with
      | checkBlock =>
          rw [← Option.some.inj hnext]
          exact .inl (.stays nofun)
      | recovering frame =>
          rw [← Option.some.inj hnext]
          exact .inl (passes_of_frameCancel frame).ofFrame
      | lockWait =>
          rw [← Option.some.inj hnext]
          exact .inr (.inr ⟨key, args, rfl, rfl, rfl⟩)
      | inspect =>
          rw [← Option.some.inj hnext]
          exact .inl (.leaves nofun)
      | acquire =>
          rw [← Option.some.inj hnext]
          exact .inl (.leaves nofun)
      | poll =>
          rw [← Option.some.inj hnext]
          exact .inl (.leaves nofun)
      | restore held work watch => exact .inl (passes_of_watched (fun _ => rfl) hnext)
      | restoreVerify held work watch => exact .inl (passes_of_watched (fun _ => rfl) hnext)
      | release held work outcome watch => exact .inl (passes_of_watched (fun _ => rfl) hnext)
      | finished => cases hnext
      | _ =>
          rw [← Option.some.inj hnext]
          exact .inl (.stays nofun)
  | serialised key args pc =>
      obtain ⟨next, hnext, rfl⟩ := Option.map_eq_some_iff.mp h
      cases pc with
      | checkBlock =>
          rw [← Option.some.inj hnext]
          exact .inl (.stays nofun)
      | recovering frame =>
          rw [← Option.some.inj hnext]
          exact .inl (passes_of_frameCancel frame).ofFrame
      | lockWait =>
          rw [← Option.some.inj hnext]
          exact .inl (.stays nofun)
      | mutate =>
          rw [← Option.some.inj hnext]
          exact .inl (.stays nofun)
      | release =>
          rw [← Option.some.inj hnext]
          exact .inr (.inl ⟨rfl, rfl, rfl⟩)
      | finished => cases hnext
      | _ =>
          rw [← Option.some.inj hnext]
          exact .inl (.leaves nofun)
  | recovery managerId connectors frame =>
      have hkey : (recovery managerId connectors frame).lockKey = frame.key := by
        cases frame <;> rfl
      rw [← Option.some.inj h, hkey]
      exact .inl (passes_of_frameCancel frame)
  | recovered => cases h

-- A call that has leaked its lock has ended.
theorem ended_of_leaked {task : Task} (h : task.leaked = true) :
    task.cancel = none ∧ ∀ ids answer, task.resume ids answer = none := by
  unfold leaked at h
  split at h
  · exact ⟨rfl, fun _ _ => rfl⟩
  · cases h

end Task

end Guarded

section Steps

-- What a step does to the calls, the local locks and their holders. Under the
-- condition, a lifecycle that quits its wait finds the lock free.
inductive LockStep (w : World) (holders : Holders) (condition : Prop) (next : World) :
    Holders → Prop
  | calm (hcalls : next.calls = w.calls) (hlocks : next.shared.locks = w.shared.locks) :
      LockStep w holders condition next holders
  | started {id : CallId} {process : Nat} {entry : Entry} (hnew : w.calls id = none)
      (hcalls : next.calls = Function.update w.calls id (some { process, task := entry.task }))
      (hlocks : next.shared.locks = w.shared.locks) : LockStep w holders condition next holders
  | stays {id : CallId} {call : Call} {task : Task} (hcall : w.live id = some call)
      (hcalls : next.calls = Function.update w.calls id (some { call with task }))
      (hlocks : next.shared.locks = w.shared.locks)
      (htask : task.guarded = call.task.guarded ∨ task.guarded = none ∧ task.leaked = true)
      (hmoves : call.task.leaked = false) : LockStep w holders condition next holders
  | takes {id : CallId} {call : Call} {task : Task} {key : Key} (hcall : w.live id = some call)
      (hcalls : next.calls = Function.update w.calls id (some { call with task }))
      (hfree : w.shared.locks (call.process, key) = false)
      (hlocks : next.shared.locks = Function.update w.shared.locks (call.process, key) true)
      (htask : task.guarded = some key) :
      LockStep w holders condition next (Function.update holders id (some (call.process, key)))
  | leaves {id : CallId} {call : Call} {task : Task} {key : Key} (hcall : w.live id = some call)
      (hcalls : next.calls = Function.update w.calls id (some { call with task }))
      (hlocks : next.shared.locks = Function.update w.shared.locks (call.process, key) false)
      (hbefore : call.task.guarded = some key) (htask : task.guarded = none) :
      LockStep w holders condition next (Function.update holders id none)
  | quits {id : CallId} {call : Call} {task : Task} {key : Key} {args : LifecycleArgs}
      (hcall : w.live id = some call) (hbefore : call.task = .lifecycle key args .lockWait)
      (hfree : condition → w.shared.locks (call.process, key) = false)
      (hcalls : next.calls = Function.update w.calls id (some { call with task }))
      (hlocks : next.shared.locks = Function.update w.shared.locks (call.process, key) false)
      (htask : task.guarded = none) :
      LockStep w holders condition next (Function.update holders id none)
  | crashed {process : Nat}
      (hcalls : next.calls = fun id => (w.calls id).map fun call =>
        if call.process = process then { call with crashed := true } else call)
      (hlocks : next.shared.locks = fun lock =>
        if lock.1 = process then false else w.shared.locks lock) :
      LockStep w holders condition next fun id => (holders id).filter fun lock => lock.1 ≠ process

variable {w next : World} {holders : Holders} {condition : Prop}

theorem Shared.perform_locks {s t : Shared} {process : Nat} {await : Await} {choice : Choice}
    {answer : Answer} (h : s.perform process await choice = some (answer, t)) :
    answer ≠ .locked ∧ t.locks = s.locks ∨
      ∃ key, await = .acquireLock key ∧ answer = .locked ∧ s.locks (process, key) = false ∧
        t.locks = Function.update s.locks (process, key) true := by
  have hfailed : ∀ {key : Key} {route : Option RouteState} {error : Raised},
      s.failed key route error = some (answer, t) → answer ≠ .locked ∧ t.locks = s.locks := by
    intro key route error hf
    unfold failed at hf
    split at hf
    · cases hf
    · cases hf
      refine ⟨nofun, ?_⟩
      cases route <;> rfl
  unfold perform at h
  split at h
  case h_4 =>
    split at h
    · cases h
    next hfree =>
      cases h
      exact .inr ⟨_, rfl, rfl, by simpa using hfree, rfl⟩
  case h_7 => exact .inl (hfailed h)
  case h_9 => exact .inl (hfailed h)
  case h_11 => exact .inl (hfailed h)
  case h_15 => exact .inl (hfailed h)
  case h_3 =>
    split at h
    · cases h
      exact .inl ⟨nofun, rfl⟩
    · cases h
  case h_13 =>
    split at h
    · cases h
    · cases h
      exact .inl ⟨nofun, rfl⟩
  case h_17 => cases h
  all_goals
    cases h
    exact .inl ⟨nofun, rfl⟩

theorem Shared.timeout_of_perform {s t : Shared} {process : Nat} {key : Key} {choice : Choice}
    (h : s.perform process (.acquireLock key) choice = some (.raised .timeoutError, t)) :
    choice = .raised none .timeoutError := by
  cases choice with
  | plain =>
      simp only [perform] at h
      split at h <;> cases h
  | raised route error =>
      cases route with
      | none => cases error <;> first | rfl | cases h
      | some => cases h
  | _ => cases h

theorem Recovery.key_of_await {ids : Ids} {frame : Recovery} {key : Key}
    (h : frame.await ids = .acquireLock key) : frame.key = some key := by
  cases frame with
  | list => cases h
  | round lease rest reports pc =>
      cases pc with
      | lockWait => exact congrArg some (Await.acquireLock.inj h)
      | restore claimed owner =>
          simp only [await, restoreAwait] at h
          split at h <;> cases h
      | _ => cases h

theorem Task.lockKey_of_await {ids : Ids} {task : Task} {key : Key}
    (h : task.await ids = some (.acquireLock key)) : task.lockKey = some key := by
  have hframe : ∀ {outer : Key} {frame : Recovery}, frame.await ids = .acquireLock key →
      some (lockKey.frameKey outer frame) = some key := by
    intro outer frame hawait
    have hkey := Recovery.key_of_await hawait
    cases frame with
    | list => cases hkey
    | round => exact hkey
  cases task with
  | lifecycle outer args pc =>
      cases pc with
      | recovering frame => exact hframe (Option.some.inj h)
      | lockWait => exact congrArg some (Await.acquireLock.inj (Option.some.inj h))
      | restore held work watch =>
          simp only [await, Lifecycle.await, restoreAwait] at h
          split at h <;> cases h
      | _ => cases h
  | serialised outer args pc =>
      cases pc with
      | recovering frame => exact hframe (Option.some.inj h)
      | lockWait => exact congrArg some (Await.acquireLock.inj (Option.some.inj h))
      | _ => cases h
  | recovery managerId connectors frame =>
      have hkey := Recovery.key_of_await (Option.some.inj h)
      cases frame with
      | list => cases hkey
      | round => exact hkey
  | recovered => cases h

theorem World.put_locks {id : CallId} {call : Call} {shared : Shared} {resumed : Resumed Task}
    {key : Key} (hkey : call.task.lockKey = some key) :
    (w.put id call shared resumed).shared.locks =
      if resumed.unlock then Function.update shared.locks (call.process, key) false
      else shared.locks := by
  unfold put Shared.unlock
  rw [hkey]
  dsimp only
  split <;> rfl

theorem World.put_locks_kept {id : CallId} {call : Call} {shared : Shared}
    {resumed : Resumed Task} (h : resumed.unlock = false) :
    (w.put id call shared resumed).shared.locks = shared.locks := by
  unfold put Shared.unlock
  rw [h]
  dsimp only
  split <;> rfl

variable {id : CallId} {call : Call} {shared : Shared} {resumed : Resumed Task}
  {answer : Option Answer}

theorem World.lockStep_of_passes (hcall : w.live id = some call)
    (hmoves : call.task.leaked = false)
    (hpasses : Passes call.task.lockKey call.task.guarded answer resumed.next.guarded resumed.unlock)
    (hstill : answer ≠ some .locked → shared.locks = w.shared.locks)
    (hlocked : answer = some .locked → ∃ key, call.task.lockKey = some key ∧
      w.shared.locks (call.process, key) = false ∧
        shared.locks = Function.update w.shared.locks (call.process, key) true) :
    LockStep w holders condition (w.put id call shared resumed)
      (Move.note holders ⟨id, call, answer, resumed⟩) := by
  obtain ⟨task, unlock⟩ := resumed
  generalize hkey : call.task.lockKey = lockKey at hpasses
  generalize hbefore : call.task.guarded = before at hpasses
  generalize hafter : task.guarded = after at hpasses
  cases hpasses with
  | stays hanswer =>
      simp only [Move.note, if_neg hanswer]
      refine .stays hcall rfl ?_ (.inl (hafter.trans hbefore.symm)) hmoves
      exact (put_locks_kept rfl).trans (hstill hanswer)
  | takes =>
      obtain ⟨key, hown, hfree, hlocks⟩ := hlocked rfl
      obtain rfl := Option.some.inj (hkey.symm.trans hown)
      simp only [Move.note, Move.lock, hkey, if_true, Option.map_some]
      exact .takes hcall rfl hfree ((put_locks_kept rfl).trans hlocks) hafter
  | leaves hanswer =>
      simp only [Move.note, if_true]
      refine .leaves hcall rfl ?_ hbefore hafter
      rw [put_locks hkey, hstill hanswer]
      rfl

theorem World.move_of_answer {ids : Ids} {choice : Choice} {await : Await} {answer : Answer}
    (hcall : w.live id = some call) (hawait : call.task.await ids = some await)
    (hperform : w.shared.perform call.process await choice = some (answer, shared))
    (hresume : call.task.resume ids answer = some resumed) :
    w.move (.answer id ids choice) = some ⟨id, call, some answer, resumed⟩ := by
  simp [move, hcall, hawait, hperform, hresume]

theorem World.move_of_cancel (hcall : w.live id = some call)
    (hcancel : call.task.cancel = some resumed) :
    w.move (.cancel id) = some ⟨id, call, none, resumed⟩ := by
  simp [move, hcall, hcancel]

-- An operation whose answer is lost is not the acquisition of a lock.
theorem World.move_of_lose {ids : Ids} {choice : Choice}
    (h : w.step (.lose id ids choice) = some next) :
    ∃ call resumed shared, w.live id = some call ∧ call.task.cancel = some resumed ∧
      shared.locks = w.shared.locks ∧
      (∀ key args, call.task ≠ .lifecycle key args .lockWait) ∧
      w.move (.lose id ids choice) = some ⟨id, call, none, resumed⟩ ∧
      next = w.put id call shared resumed := by
  simp only [step, Option.bind_eq_bind, Option.bind_eq_some_iff] at h
  obtain ⟨call, hlive, await, hawait, ⟨answer, shared⟩, hperform, h⟩ := h
  split at h
  · cases h
  next hopen =>
    obtain ⟨resumed, hcancel, heq⟩ := Option.bind_eq_some_iff.mp h
    simp only [Bool.or_eq_true, Bool.not_eq_true', not_or, Bool.not_eq_true,
      Bool.not_eq_false] at hopen
    obtain ⟨hopen, heffective⟩ := hopen
    have hmove : w.move (.lose id ids choice) = some ⟨id, call, none, resumed⟩ := by
      simp [move, hlive, hawait, hperform, hopen, heffective, hcancel]
    refine ⟨call, resumed, shared, hlive, hcancel, ?_, ?_, hmove, (Option.some.inj heq).symm⟩
    · rcases Shared.perform_locks hperform with ⟨-, hlocks⟩ | ⟨key, rfl, -⟩
      · exact hlocks
      · cases heffective
    · intro key args htask
      rw [htask] at hawait
      cases hawait
      cases heffective

theorem World.lockStep_of_cancel (hcall : w.live id = some call)
    (hcancel : call.task.cancel = some resumed) (hlocks : shared.locks = w.shared.locks)
    (hwait : ∀ key args, call.task = .lifecycle key args .lockWait → condition →
      w.shared.locks (call.process, key) = false) :
    LockStep w holders condition (w.put id call shared resumed)
      (Move.note holders ⟨id, call, none, resumed⟩) := by
  have hmoves : call.task.leaked = false := by
    by_contra hleaked
    have hended := (Task.ended_of_leaked (by simpa using hleaked)).1
    rw [hended] at hcancel
    cases hcancel
  rcases Task.passes_of_cancel hcancel with hpasses | ⟨hleaked, hunlock, hguarded⟩ |
    ⟨key, args, htask, hunlock, hguarded⟩
  · exact lockStep_of_passes hcall hmoves hpasses (fun _ => hlocks) nofun
  · simp only [Move.note, hunlock]
    exact .stays hcall rfl ((put_locks_kept hunlock).trans hlocks) (.inr ⟨hguarded, hleaked⟩) hmoves
  · simp only [Move.note, hunlock, if_true]
    refine .quits hcall htask (hwait key args htask) rfl ?_ hguarded
    rw [put_locks (by rw [htask]; rfl), hunlock, hlocks]
    rfl

theorem World.Patient.timeout {ids : Ids} {choice : Choice} {await : Await} {key : Key}
    {args : LifecycleArgs} (h : w.Patient (.answer id ids choice)) (hcall : w.live id = some call)
    (htask : call.task = .lifecycle key args .lockWait) (hawait : call.task.await ids = some await)
    (hperform : w.shared.perform call.process await choice = some (.raised .timeoutError, shared)) :
    w.shared.locks (call.process, key) = false := by
  rw [htask] at hawait
  cases hawait
  obtain rfl := Shared.timeout_of_perform hperform
  have hfree := h call hcall
  rwa [htask] at hfree

theorem World.Patient.cancelled {key : Key} {args : LifecycleArgs} (h : w.Patient (.cancel id))
    (hcall : w.live id = some call) (htask : call.task = .lifecycle key args .lockWait) :
    w.shared.locks (call.process, key) = false := by
  have hfree := h call hcall
  rwa [htask] at hfree

theorem World.lock_step {label : Label} (h : w.step label = some next) :
    LockStep w holders (w.Patient label) next (noteLock holders w label) := by
  cases label with
  | start id process entry =>
      cases step_cases h with
      | start hnew => exact .started hnew rfl rfl
  | answer id ids choice =>
      cases step_cases h with
      | @answer _ call _ _ await answer shared resumed hcall hlive hawait hperform hresume =>
          have hcall : w.live id = some call := by simp [live, hcall, hlive]
          have hmove := move_of_answer hcall hawait hperform hresume
          simp only [noteLock, hmove, Option.map_some, Option.getD_some]
          have hmoves : call.task.leaked = false := by
            by_contra hleaked
            have hended := (Task.ended_of_leaked (by simpa using hleaked)).2 ids answer
            rw [hended] at hresume
            cases hresume
          have hlocks := Shared.perform_locks hperform
          rcases Task.passes_of_resume hresume with hpasses |
            ⟨key, args, htask, rfl, hunlock, hguarded⟩
          · refine lockStep_of_passes hcall hmoves hpasses (fun hne => ?_) (fun heq => ?_)
            · rcases hlocks with ⟨-, hsame⟩ | ⟨-, -, rfl, -⟩
              · exact hsame
              · exact absurd rfl hne
            · cases heq
              rcases hlocks with ⟨hne, -⟩ | ⟨key, rfl, -, hfree, hset⟩
              · exact absurd rfl hne
              · exact ⟨key, Task.lockKey_of_await hawait, hfree, hset⟩
          · have hsame : shared.locks = w.shared.locks := by
              rcases hlocks with ⟨-, hsame⟩ | ⟨-, -, hne, -⟩
              · exact hsame
              · cases hne
            simp only [Move.note, hunlock, if_true]
            refine .quits hcall htask (fun hpatient => ?_) rfl ?_ hguarded
            · exact hpatient.timeout hcall htask hawait hperform
            rw [put_locks (by rw [htask]; rfl), hunlock, hsame]
            rfl
  | lose id ids choice =>
      obtain ⟨call, resumed, shared, hcall, hcancel, hlocks, hwait, hmove, rfl⟩ := move_of_lose h
      simp only [noteLock, hmove, Option.map_some, Option.getD_some]
      exact lockStep_of_cancel hcall hcancel hlocks fun key args htask => absurd htask (hwait key args)
  | cancel id =>
      cases step_cases h with
      | @cancel _ call resumed hcall hlive hcancel =>
          have hcall : w.live id = some call := by simp [live, hcall, hlive]
          simp only [noteLock, move_of_cancel hcall hcancel, Option.map_some, Option.getD_some]
          exact lockStep_of_cancel hcall hcancel rfl
            fun key args htask hpatient => hpatient.cancelled hcall htask
  | crash process =>
      cases step_cases h with
      | crash => exact .crashed rfl rfl
  | tick now =>
      cases step_cases h with
      | tick => exact .calm rfl rfl
  | clearBlock key =>
      cases step_cases h with
      | clearBlock => exact .calm rfl rfl

end Steps

section Owned

-- A call that the lock guards has acquired it, and a lock that a call has acquired
-- is held, by that call alone.
structure Owned (w : World) (holders : Holders) : Prop where
  guarded : ∀ id call key, w.live id = some call → call.task.guarded = some key →
    holders id = some (call.process, key)
  held : ∀ id lock, holders id = some lock → w.shared.locks lock = true
  placed : ∀ id lock, holders id = some lock → ∃ call, w.live id = some call ∧
    call.process = lock.1 ∧ (call.task.guarded ≠ none ∨ call.task.leaked = true)
  exclusive : holders.Exclusive

variable {w next : World} {holders : Holders} {label : Label}

theorem World.live_update {id other : CallId} {call : Call} (hlive : call.crashed = false)
    (hcalls : next.calls = Function.update w.calls id (some call)) :
    next.live other = if other = id then some call else w.live other := by
  unfold live
  rw [hcalls]
  split
  next heq => rw [heq, Function.update_self, Option.filter_some, hlive]; rfl
  next hne => rw [Function.update_of_ne hne]

-- A call moves to a task that the lock it holds guards, if any.
theorem Owned.move {id : CallId} {call : Call} {task : Task} {after : Holders}
    {locks : LocalLock → Bool} (h : Owned w holders) (hcall : w.live id = some call)
    (hcalls : next.calls = Function.update w.calls id (some { call with task }))
    (hlocks : next.shared.locks = locks)
    (hothers : ∀ other, other ≠ id → after other = holders other)
    (hguarded : ∀ key, task.guarded = some key → after id = some (call.process, key))
    (hplaced : ∀ lock, after id = some lock → call.process = lock.1 ∧ locks lock = true ∧
      (task.guarded ≠ none ∨ task.leaked = true))
    (hheld : ∀ other lock, other ≠ id → holders other = some lock → locks lock = true)
    (halone : ∀ other lock, other ≠ id → holders other = some lock → after id ≠ some lock) :
    Owned next after := by
  have hnow : ∀ other, next.live other = if other = id then some { call with task } else w.live other :=
    fun other => World.live_update (World.live_eq_some hcall).2 hcalls
  refine ⟨fun other moved key hlive hg => ?_, fun other lock hl => ?_, fun other lock hl => ?_,
    fun first second lock hf hs => ?_⟩
  · rw [hnow] at hlive
    split at hlive
    next heq =>
      cases hlive
      exact heq ▸ hguarded key hg
    next hne =>
      rw [hothers other hne]
      exact h.guarded other moved key hlive hg
  · rw [hlocks]
    by_cases heq : other = id
    · exact (hplaced lock (heq ▸ hl)).2.1
    · exact hheld other lock heq (hothers other heq ▸ hl)
  · rw [hnow]
    split
    next heq =>
      obtain ⟨hprocess, -, hplace⟩ := hplaced lock (heq ▸ hl)
      exact ⟨_, rfl, hprocess, hplace⟩
    next hne => exact h.placed other lock (hothers other hne ▸ hl)
  · by_cases hfirst : first = id
    · by_cases hsecond : second = id
      · exact hfirst.trans hsecond.symm
      · exact absurd (hfirst ▸ hf) (halone second lock hsecond (hothers second hsecond ▸ hs))
    · by_cases hsecond : second = id
      · exact absurd (hsecond ▸ hs) (halone first lock hfirst (hothers first hfirst ▸ hf))
      · exact h.exclusive first second lock (hothers first hfirst ▸ hf)
          (hothers second hsecond ▸ hs)

theorem Owned.step (h : Owned w holders) (hcond : w.Patient label)
    (hstep : World.step w label = some next) : Owned next (noteLock holders w label) := by
  have hturn := @World.lock_step w next holders label hstep
  generalize noteLock holders w label = after at hturn ⊢
  cases hturn with
  | calm hcalls hlocks =>
      have hnow : ∀ id, next.live id = w.live id := fun id => by rw [World.live, hcalls]; rfl
      refine ⟨fun id call key hlive => h.guarded id call key (hnow id ▸ hlive),
        fun id lock hl => hlocks ▸ h.held id lock hl, fun id lock hl => ?_, h.exclusive⟩
      rw [hnow]
      exact h.placed id lock hl
  | @started id process entry hnew hcalls hlocks =>
      have hnow : ∀ other, next.live other =
          if other = id then some { process, task := entry.task } else w.live other :=
        fun other => World.live_update rfl hcalls
      have hfresh : entry.task.guarded = none := by cases entry <;> rfl
      refine ⟨fun other call key hlive hg => ?_, fun other lock hl => hlocks ▸ h.held other lock hl,
        fun other lock hl => ?_, h.exclusive⟩
      · rw [hnow] at hlive
        split at hlive
        · cases hlive
          rw [hfresh] at hg
          cases hg
        · exact h.guarded other call key hlive hg
      · obtain ⟨call, hlive, hplace⟩ := h.placed other lock hl
        have hne : other ≠ id := by
          rintro rfl
          rw [World.live, hnew] at hlive
          cases hlive
        exact ⟨call, by rw [hnow, if_neg hne, hlive], hplace⟩
  | @stays id call task hcall hcalls hlocks htask hmoves =>
      refine h.move hcall hcalls hlocks (fun _ _ => rfl) (fun key hg => ?_) (fun lock hl => ?_)
        (fun other lock _ hl => h.held other lock hl)
        (fun other lock hne hl hid => hne (h.exclusive other id lock hl hid))
      · rcases htask with hsame | ⟨hnone, -⟩
        · exact h.guarded id call key hcall (hsame ▸ hg)
        · rw [hnone] at hg
          cases hg
      · obtain ⟨placed, hlive, hprocess, hplace⟩ := h.placed id lock hl
        obtain rfl := Option.some.inj (hcall.symm.trans hlive)
        refine ⟨hprocess, h.held id lock hl, ?_⟩
        rcases htask with hsame | ⟨-, hleaked⟩
        · rw [hsame]
          exact .inl (hplace.resolve_right (by simp [hmoves]))
        · exact .inr hleaked
  | @takes id call task key hcall hcalls hfree hlocks htask =>
      have hunheld : ∀ other lock, holders other = some lock → lock ≠ (call.process, key) := by
        rintro other lock hl rfl
        rw [h.held other _ hl] at hfree
        cases hfree
      refine h.move hcall hcalls hlocks (fun other hne => Function.update_of_ne hne ..)
        (fun key' hg => ?_) (fun lock hl => ?_) (fun other lock _ hl => ?_)
        (fun other lock _ hl hid => ?_)
      · rw [htask, Option.some.injEq] at hg
        rw [Function.update_self, hg]
      · rw [Function.update_self, Option.some.injEq] at hl
        rw [← hl, Function.update_self, htask]
        exact ⟨rfl, rfl, .inl (by simp)⟩
      · rw [Function.update_of_ne (hunheld other lock hl)]
        exact h.held other lock hl
      · rw [Function.update_self, Option.some.injEq] at hid
        exact hunheld other lock hl hid.symm
  | @leaves id call task key hcall hcalls hlocks hbefore htask =>
      have hown := h.guarded id call key hcall hbefore
      refine h.move hcall hcalls hlocks (fun other hne => Function.update_of_ne hne ..)
        (fun key' hg => ?_) (fun lock hl => ?_) (fun other lock hne hl => ?_)
        (fun other lock _ _ hid => ?_)
      · rw [htask] at hg
        cases hg
      · rw [Function.update_self] at hl
        cases hl
      · have hlock : lock ≠ (call.process, key) := by
          rintro rfl
          exact hne (h.exclusive other id _ hl hown)
        rw [Function.update_of_ne hlock]
        exact h.held other lock hl
      · rw [Function.update_self] at hid
        cases hid
  | @quits id call task key args hcall hbefore hfree hcalls hlocks htask =>
      refine h.move hcall hcalls hlocks (fun other hne => Function.update_of_ne hne ..)
        (fun key' hg => ?_) (fun lock hl => ?_) (fun other lock hne hl => ?_)
        (fun other lock _ _ hid => ?_)
      · rw [htask] at hg
        cases hg
      · rw [Function.update_self] at hl
        cases hl
      · have hlock : lock ≠ (call.process, key) := by
          rintro rfl
          have hheld := h.held other _ hl
          rw [hfree hcond] at hheld
          cases hheld
        rw [Function.update_of_ne hlock]
        exact h.held other lock hl
      · rw [Function.update_self] at hid
        cases hid
  | @crashed process hcalls hlocks =>
      have hnow : ∀ id, next.live id = (w.live id).filter fun call => call.process ≠ process := by
        intro id
        simp only [World.live, hcalls]
        cases w.calls id with
        | none => rfl
        | some call =>
            by_cases hprocess : call.process = process <;> cases hcrashed : call.crashed <;>
              simp [Option.filter_some, hprocess, hcrashed]
      refine ⟨fun id call key hlive hg => ?_, fun id lock hl => ?_, fun id lock hl => ?_,
        fun first second lock hf hs => ?_⟩
      · rw [hnow, Option.filter_eq_some_iff] at hlive
        rw [h.guarded id call key hlive.1 hg]
        exact Option.filter_eq_some_iff.mpr ⟨rfl, hlive.2⟩
      · obtain ⟨hl, hne⟩ := Option.filter_eq_some_iff.mp hl
        rw [hlocks]
        simp only [if_neg (of_decide_eq_true hne)]
        exact h.held id lock hl
      · obtain ⟨hl, hne⟩ := Option.filter_eq_some_iff.mp hl
        obtain ⟨call, hlive, hprocess, hplace⟩ := h.placed id lock hl
        refine ⟨call, ?_, hprocess, hplace⟩
        rw [hnow, Option.filter_eq_some_iff, hprocess]
        exact ⟨hlive, hne⟩
      · obtain ⟨hf, -⟩ := Option.filter_eq_some_iff.mp hf
        obtain ⟨hs, -⟩ := Option.filter_eq_some_iff.mp hs
        exact h.exclusive first second lock hf hs

theorem Owned.not_waiting (h : Owned w holders) {id : CallId} {call : Call} {key : Key}
    {args : LifecycleArgs} {lock : LocalLock} (hcall : w.live id = some call)
    (htask : call.task = .lifecycle key args .lockWait) : holders id ≠ some lock := by
  intro hl
  obtain ⟨placed, hlive, -, hplace⟩ := h.placed id lock hl
  obtain rfl := Option.some.inj (hcall.symm.trans hlive)
  rw [htask] at hplace
  rcases hplace with hguarded | hleaked
  · exact hguarded rfl
  · cases hleaked

theorem Owned.own_of_passes (h : Owned w holders) {move : Move} {answer : Option Answer}
    {lock : LocalLock} (hcall : w.live move.id = some move.call)
    (hpasses : Passes move.call.task.lockKey move.call.task.guarded answer
      move.resumed.next.guarded move.resumed.unlock)
    (hunlock : move.resumed.unlock = true) (hlock : move.lock = some lock) :
    holders move.id = some lock := by
  rw [hunlock] at hpasses
  obtain ⟨key, hkey, rfl⟩ := Option.map_eq_some_iff.mp hlock
  generalize hbefore : move.call.task.guarded = before at hpasses
  generalize move.resumed.next.guarded = after at hpasses
  rw [hkey] at hpasses
  cases hpasses with
  | leaves => exact h.guarded _ _ key hcall hbefore

-- Where the holders are the callers, a step releases another's lock exactly when a
-- lifecycle gives up its wait for it.
theorem Owned.releasesOwn_iff (h : Owned w holders) :
    ReleasesOwn (w, holders) label ↔ w.Patient label := by
  have hgives : ∀ {id call answer ending}, w.live id = some call →
      w.move label = some ⟨id, call, answer, ending⟩ → ReleasesOwn (w, holders) label →
      ending.unlock = true → ∀ key args, call.task = .lifecycle key args .lockWait →
      w.shared.locks (call.process, key) = false := by
    intro id call answer ending hcall hmove hown hunlock key args htask
    by_contra hheld
    have hlock : Move.lock ⟨id, call, answer, ending⟩ = some (call.process, key) := by
      simp [Move.lock, htask, Task.lockKey]
    exact h.not_waiting hcall htask (hown _ hmove hunlock _ hlock (by simpa using hheld))
  constructor
  · intro hown
    unfold World.Patient
    split
    next id ids =>
      intro call hcall
      split
      next key args htask =>
        have hmove : w.move (.answer id ids (.raised none .timeoutError)) =
            some ⟨id, call, some (.raised .timeoutError),
              ⟨.lifecycle key args (.finished (.returned Lifecycle.lockTimeout)), true⟩⟩ :=
          World.move_of_answer hcall (by rw [htask]; rfl) rfl (by rw [htask]; rfl)
        exact hgives hcall hmove hown rfl key args htask
      next => trivial
    next id =>
      intro call hcall
      split
      next key args htask =>
        have hmove : w.move (.cancel id) = some ⟨id, call, none,
            ⟨.lifecycle key args (.finished (.raised .cancelledError)), true⟩⟩ :=
          World.move_of_cancel hcall (by rw [htask]; rfl)
        exact hgives hcall hmove hown rfl key args htask
      next => trivial
    next => trivial
  · intro hpatient move hmove hunlock lock hlock hheld
    cases label with
    | answer id ids choice =>
        simp only [Option.mem_def, World.move, Option.bind_eq_bind, Option.bind_eq_some_iff] at hmove
        obtain ⟨call, hcall, await, hawait, ⟨answer, shared⟩, hperform, resumed, hresume, heq⟩ :=
          hmove
        obtain rfl := Option.some.inj heq
        rcases Task.passes_of_resume hresume with hpasses | ⟨key, args, htask, rfl, -⟩
        · exact h.own_of_passes hcall hpasses hunlock hlock
        · have hfree := hpatient.timeout hcall htask hawait hperform
          simp only [Move.lock, htask, Task.lockKey, Option.map_some, Option.mem_some_iff] at hlock
          rw [← hlock, hfree] at hheld
          cases hheld
    | lose id ids choice =>
        simp only [Option.mem_def, World.move, Option.bind_eq_bind, Option.bind_eq_some_iff] at hmove
        obtain ⟨call, hcall, await, hawait, ⟨answer, shared⟩, hperform, hmove⟩ := hmove
        split at hmove
        · cases hmove
        next hopen =>
          obtain ⟨resumed, hcancel, heq⟩ := Option.bind_eq_some_iff.mp hmove
          obtain rfl := Option.some.inj heq
          rcases Task.passes_of_cancel hcancel with hpasses | ⟨-, hkept, -⟩ | ⟨key, args, htask, -⟩
          · exact h.own_of_passes hcall hpasses hunlock hlock
          · rw [hkept] at hunlock
            cases hunlock
          · rw [htask] at hawait
            cases hawait
            exact absurd (Bool.or_true _) hopen
    | cancel id =>
        simp only [Option.mem_def, World.move, Option.bind_eq_bind, Option.bind_eq_some_iff] at hmove
        obtain ⟨call, hcall, resumed, hcancel, heq⟩ := hmove
        obtain rfl := Option.some.inj heq
        rcases Task.passes_of_cancel hcancel with hpasses | ⟨-, hkept, -⟩ | ⟨key, args, htask, -⟩
        · exact h.own_of_passes hcall hpasses hunlock hlock
        · rw [hkept] at hunlock
          cases hunlock
        · have hfree := hpatient.cancelled hcall htask
          simp only [Move.lock, htask, Task.lockKey, Option.map_some, Option.mem_some_iff] at hlock
          rw [← hlock, hfree] at hheld
          cases hheld
    | _ => cases hmove

def OwnedPair (s : World × Holders) : Prop := Owned s.1 s.2

theorem owned_initial (routes : Key → RouteState) :
    Owned (World.initial routes) fun _ => none where
  guarded _ _ _ hcall := nomatch hcall
  held _ _ hl := nomatch hl
  placed _ _ hl := nomatch hl
  exclusive _ _ _ hl := nomatch hl

end Owned

-- In a run, calls release the locks they have acquired and no others, and no two
-- calls are between their acquisition and their release.
def LockSound (routes : Key → RouteState) (labels : List Label) : Prop :=
  Along (watched World.step noteLock) ReleasesOwn (World.initial routes, fun _ => none) labels ∧
    ∀ first rest w holders, labels = first ++ rest →
      run (watched World.step noteLock) (World.initial routes, fun _ => none) first =
        some (w, holders) → holders.Exclusive

theorem lockSound_iff (routes : Key → RouteState) (labels : List Label) :
    LockSound routes labels ↔ Along World.step World.Patient (World.initial routes) labels := by
  have hinitial : OwnedPair (World.initial routes, fun _ => none) := owned_initial routes
  have hstep : ∀ (s : World × Holders) (label : Label) (t : World × Holders), OwnedPair s →
      s.1.Patient label → watched World.step noteLock s label = some t → OwnedPair t := by
    intro s label t h hcond ht
    obtain ⟨hnext, hnote⟩ := watched_eq_some ht
    rw [OwnedPair, hnote]
    exact Owned.step h hcond hnext
  have hiff : Along (watched World.step noteLock) ReleasesOwn (World.initial routes, fun _ => none)
      labels ↔ Along (watched World.step noteLock) (fun s label => s.1.Patient label)
        (World.initial routes, fun _ => none) labels :=
    along_iff OwnedPair (fun s label h => Owned.releasesOwn_iff h) hstep hinitial
  constructor
  · intro h
    exact (hiff.mp h.1).unwatched
  · intro h
    refine ⟨hiff.mpr h.watched, fun first rest w holders hlabels hrun => ?_⟩
    rw [hlabels] at h
    exact (run_invariant hstep hinitial h.append_left.watched hrun).exclusive

section Samples

-- The second lifecycle times out while it waits for the lock of the first, and the
-- third takes the lock that this releases.
def impatientRun : List Label :=
  opening 0 0 "first" ++ (opening 1 0 "second").take 3 ++
    answers 1 "second" [.raised none .timeoutError] ++ opening 2 0 "third"

theorem lock_taken_twice : ¬ LockSound fireConnect.disable impatientRun ∧
    ∃ w holders, run (watched World.step noteLock) (World.initial fireConnect.disable, fun _ => none)
      impatientRun = some (w, holders) ∧ ¬ holders.Exclusive := by
  obtain ⟨⟨w, holders⟩, hrun⟩ := Option.isSome_iff_exists.mp
    (show (run (watched World.step noteLock) (World.initial fireConnect.disable, fun _ => none)
      impatientRun).isSome by decide +kernel)
  have hheld : (run (watched World.step noteLock) (World.initial fireConnect.disable, fun _ => none)
      impatientRun).map (fun s => (s.2 0, s.2 2)) =
        some (some (0, openCode), some (0, openCode)) := by decide +kernel
  rw [hrun, Option.map_some, Option.some.injEq, Prod.mk.injEq] at hheld
  have htwice : ¬ holders.Exclusive := fun h => absurd (h 0 2 _ hheld.1 hheld.2) (by decide)
  exact ⟨fun h => htwice (h.2 impatientRun [] w holders (List.append_nil _).symm hrun),
    w, holders, hrun, htwice⟩

end Samples

end JoyMesh.ProviderRoutes
