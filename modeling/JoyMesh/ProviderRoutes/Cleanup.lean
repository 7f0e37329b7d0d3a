import JoyMesh.ProviderRoutes.Holding
import JoyMesh.ProviderRoutes.LocalLock

namespace JoyMesh.ProviderRoutes

open JoyMesh.Library

section Definitions

-- What a lifecycle comes by once try_acquire has returned its lease.
inductive Mark where
  | granted
  | restoring
  | restored
  | released
  | unlocked
  | ended
deriving DecidableEq

-- The lifecycle as it has to go, each of it once and in this order.
def cleanup : List Mark := [.granted, .restoring, .restored, .released, .unlocked, .ended]

namespace LifecyclePc

-- Between the start of _restore and its end.
def restoring : LifecyclePc → Bool
  | restore _ _ _ => true
  | restoreVerify _ _ _ => true
  | _ => false

def releasing : LifecyclePc → Bool
  | release _ _ _ _ => true
  | _ => false

def watch : LifecyclePc → Option Watch
  | restore _ _ watch => some watch
  | restoreVerify _ _ watch => some watch
  | release _ _ _ watch => some watch
  | _ => none

-- run_lifecycle has returned or raised, whatever its cleanup task still does.
def isOver : LifecyclePc → Bool
  | finished _ => true
  | pc => pc.watch = some .left

-- What a lifecycle comes by on its way from one await to the next, if it was answered
-- and if it released the local lock.
def passing (pc next : LifecyclePc) (answered unlock : Bool) : List Mark :=
  if pc.held.isNone then if next.held.isSome then [.granted] else []
  else
    (if !pc.restoring && next.restoring then [.restoring] else []) ++
    (if pc.restoring && !next.restoring then [.restored] else []) ++
    (if pc.releasing && answered then [.released] else []) ++
    (if unlock then [.unlocked] else []) ++
    (if !pc.isOver && next.isOver then [.ended] else [])

end LifecyclePc

def Move.marks (move : Move) : List Mark :=
  match move.call.task, move.resumed.next with
  | .lifecycle _ _ pc, .lifecycle _ _ next =>
      pc.passing next move.answer.isSome move.resumed.unlock
  | _, _ => []

abbrev Marks := CallId → List Mark

def Move.mark (marks : Marks) (move : Move) : Marks :=
  Function.update marks move.id (marks move.id ++ move.marks)

def noteMarks (marks : Marks) (w : World) (label : Label) : Marks :=
  ((w.move label).map (Move.mark marks)).getD marks

-- A cancellation has already come in the cleanup of the lifecycle.
def Task.interrupted : Task → Bool
  | lifecycle _ _ pc => pc.watch = some .interrupted
  | _ => false

-- A lifecycle is not cancelled twice in its cleanup.
def World.Steady (w : World) : Label → Prop
  | .cancel id => ∀ call ∈ w.live id, call.task.interrupted = false
  | _ => True

-- What looks at the route of the key, or changes it.
def Await.touches (key : Key) : Await → Bool
  | inspect other => other = key
  | await => await.mutates = some key

end Definitions

section Marks

-- What a lifecycle has come by where it stands.
def LifecyclePc.due : LifecyclePc → List Mark
  | enable _ => [.granted]
  | verify _ => [.granted]
  | renew _ => [.granted]
  | execute _ => [.granted]
  | restore _ _ _ => [.granted, .restoring]
  | restoreVerify _ _ _ => [.granted, .restoring]
  | release _ _ _ _ => [.granted, .restoring, .restored]
  | _ => []

structure LifecyclePc.Fits (pc : LifecyclePc) (marks : List Mark) : Prop where
  stays : pc.watch ≠ some .left
  marks : marks = pc.due ∨ pc.ended = true ∧ marks = cleanup

def Task.Marked (marks : List Mark) : Task → Prop
  | .lifecycle _ _ pc => pc.Fits marks
  | _ => marks = []

variable {key : Key} {args : LifecycleArgs} {pc next : LifecyclePc} {ids : Ids} {answer : Answer}
  {marks : List Mark}

theorem due_nil (h : pc.held = none) : pc.due = [] := by
  cases pc with
  | enable | verify | renew | execute | restore | restoreVerify | release => cases h
  | _ => rfl

theorem guarded_held (h : pc.held.isSome = true) (hstays : pc.watch ≠ some .left) :
    pc.guarded key = some key := by
  cases pc with
  | checkBlock | recovering | lockWait | inspect | acquire | poll | finished => cases h
  | enable | verify | renew | execute => rfl
  | restore held work watch => exact if_neg fun hleft => hstays (congrArg some hleft)
  | restoreVerify held work watch => exact if_neg fun hleft => hstays (congrArg some hleft)
  | release held work outcome watch => exact if_neg fun hleft => hstays (congrArg some hleft)

theorem unlock_of_passes {lockKey before after : Option Key} {answer : Option Answer} {unlock : Bool}
    (h : Passes lockKey before answer after unlock) (hbefore : before.isSome = true) :
    unlock = after.isNone := by
  cases h with
  | stays =>
      cases before with
      | none => cases hbefore
      | some => rfl
  | takes => cases hbefore
  | leaves => rfl

variable (key) in
theorem fits_of_goes {unlock : Bool} (h : pc.Fits marks) (hpc : pc.ended = false)
    (hgoes : Lifecycle.Goes ids args pc answer next)
    (hunlock : pc.held.isSome = true → unlock = (next.guarded key).isNone) :
    next.Fits (marks ++ pc.passing next true unlock) := by
  have hdue : marks = pc.due := h.marks.resolve_right fun hfinished => by
    rw [hpc] at hfinished
    cases hfinished.1
  subst hdue
  cases hgoes with
  | unblocked => exact ⟨nofun, .inl rfl⟩
  | recovering => exact ⟨nofun, .inl rfl⟩
  | recovered => exact ⟨nofun, .inl rfl⟩
  | locked => exact ⟨nofun, .inl rfl⟩
  | inspected => exact ⟨nofun, .inl rfl⟩
  | acquired => exact ⟨nofun, .inl rfl⟩
  | acquiredEnabled => exact ⟨nofun, .inl rfl⟩
  | refused => exact ⟨nofun, .inl rfl⟩
  | polled => exact ⟨nofun, .inl rfl⟩
  | enabled =>
      obtain rfl : unlock = false := hunlock rfl
      exact ⟨nofun, .inl rfl⟩
  | verified =>
      obtain rfl : unlock = false := hunlock rfl
      exact ⟨nofun, .inl rfl⟩
  | renewed =>
      obtain rfl : unlock = false := hunlock rfl
      exact ⟨nofun, .inl rfl⟩
  | cleaning hworking =>
      rcases hworking with rfl | rfl | rfl | rfl
      all_goals
        obtain rfl : unlock = false := hunlock rfl
        exact ⟨nofun, .inl rfl⟩
  | @restored held work watch =>
      cases watch with
      | left => exact absurd rfl h.stays
      | waiting | interrupted =>
          obtain rfl : unlock = false := hunlock rfl
          exact ⟨nofun, .inl rfl⟩
  | @settled _ held work watch _ outcome hrestoring =>
      rcases hrestoring with rfl | rfl
      all_goals
        cases watch with
        | left => exact absurd rfl h.stays
        | waiting | interrupted =>
            obtain rfl : unlock = false := hunlock rfl
            exact ⟨nofun, .inl rfl⟩
  | finished hreleasing =>
      rcases hreleasing with hheld | ⟨held, work, outcome, watch, rfl⟩
      · refine ⟨nofun, .inl ?_⟩
        rw [due_nil hheld, LifecyclePc.passing, hheld]
        rfl
      · cases watch with
        | left => exact absurd rfl h.stays
        | waiting | interrupted =>
            obtain rfl : unlock = true := hunlock rfl
            exact ⟨nofun, .inr ⟨rfl, rfl⟩⟩

-- A first cancellation in the cleanup makes the lifecycle wait for it once more.
theorem fits_of_cancel {resumed : Resumed LifecyclePc} (h : pc.Fits marks) (hpc : pc.ended = false)
    (hcancel : Lifecycle.cancel pc = some resumed) (hsteady : pc.watch ≠ some .interrupted) :
    resumed.next.Fits (marks ++ pc.passing resumed.next false resumed.unlock) := by
  have hdue : marks = pc.due := h.marks.resolve_right fun hfinished => by
    rw [hpc] at hfinished
    cases hfinished.1
  subst hdue
  cases pc with
  | finished => cases hcancel
  | restore held work watch | restoreVerify held work watch | release held work outcome watch =>
      cases watch with
      | left => exact absurd rfl h.stays
      | interrupted => exact absurd rfl hsteady
      | waiting =>
          cases hcancel
          exact ⟨nofun, .inl rfl⟩
  | _ =>
      cases hcancel
      exact ⟨nofun, .inl rfl⟩

variable {id : CallId} {call : Call} {resumed : Resumed Task}

theorem marked_answer (h : call.task.Marked marks)
    (hresume : call.task.resume ids answer = some resumed) :
    resumed.next.Marked (marks ++ Move.marks ⟨id, call, some answer, resumed⟩) := by
  obtain ⟨process, task, crashed⟩ := call
  have hpasses := Task.passes_of_resume hresume
  cases task with
  | lifecycle key args pc =>
      obtain ⟨⟨next, unlock⟩, hnext, rfl⟩ := Option.map_eq_some_iff.mp hresume
      have hpc : pc.ended = false := by
        cases pc with
        | finished => cases hnext
        | _ => rfl
      have hfits : pc.Fits marks := h
      refine fits_of_goes key hfits hpc (Lifecycle.goes_of_resume hnext) fun hheld => ?_
      rcases hpasses with hpasses | ⟨_, _, hwait, -⟩
      · refine unlock_of_passes hpasses ?_
        rw [Task.guarded, guarded_held hheld hfits.stays]
        rfl
      · cases hwait
        cases hheld
  | serialised key args pc =>
      obtain ⟨next, -, rfl⟩ := Option.map_eq_some_iff.mp hresume
      rw [show marks = [] from h]
      rfl
  | recovery managerId connectors frame =>
      obtain ⟨⟨next, unlock⟩, -, rfl⟩ := Option.map_eq_some_iff.mp hresume
      rw [show marks = [] from h]
      cases next <;> rfl
  | recovered => cases hresume

theorem marked_cancel (h : call.task.Marked marks) (hcancel : call.task.cancel = some resumed)
    (hsteady : call.task.interrupted = false) :
    resumed.next.Marked (marks ++ Move.marks ⟨id, call, none, resumed⟩) := by
  obtain ⟨process, task, crashed⟩ := call
  cases task with
  | lifecycle key args pc =>
      obtain ⟨next, hnext, rfl⟩ := Option.map_eq_some_iff.mp hcancel
      have hpc : pc.ended = false := by
        cases pc with
        | finished => cases hnext
        | _ => rfl
      exact fits_of_cancel h hpc hnext (of_decide_eq_false hsteady)
  | serialised key args pc =>
      obtain ⟨next, -, rfl⟩ := Option.map_eq_some_iff.mp hcancel
      rw [show marks = [] from h]
      rfl
  | recovery managerId connectors frame =>
      cases hcancel
      rw [show marks = [] from h]
      rfl
  | recovered => cases hcancel

end Marks

section Released

-- A lifecycle acquires its lease as its owner.
def Task.OwnsLease : Task → Prop
  | .lifecycle _ args pc => ∀ held, pc.held = some held → held.lease.ownerExecutionId = args.owner
  | _ => True

abbrev World.LeasesOwned (w : World) : Prop :=
  Annotated (fun _ => True) (fun (_ : View) (call : Call) => call.task.OwnsLease)
    (fun _ _ => True) w.shared.view w.calls

variable {w next : World} {label : Label}

theorem Task.OwnsLease.answer {s t : Shared} {ids : Ids} {task : Task} {await : Await}
    {answer : Answer} {resumed : Resumed Task} (h : task.OwnsLease)
    (hawait : task.await ids = some await) (hperform : Shared.Performed s await answer t)
    (hresume : task.resume ids answer = some resumed) : resumed.next.OwnsLease := by
  cases task with
  | lifecycle key args pc =>
      obtain ⟨next, hnext, rfl⟩ := Option.map_eq_some_iff.mp hresume
      intro held hheld
      rcases Lifecycle.held_of_goes (Lifecycle.goes_of_resume hnext) hheld with
        hbefore | ⟨late, rfl, rfl⟩
      · exact h held hbefore
      · cases hawait
        rw [(LeaseTable.acquire_reply hperform.lease_reply.1).1]
        rfl
  | serialised key args pc =>
      obtain ⟨next, -, rfl⟩ := Option.map_eq_some_iff.mp hresume
      trivial
  | recovery managerId connectors frame =>
      obtain ⟨⟨next, unlock⟩, -, rfl⟩ := Option.map_eq_some_iff.mp hresume
      cases next <;> trivial
  | recovered => cases hresume

theorem Task.OwnsLease.cancel {task : Task} {resumed : Resumed Task} (h : task.OwnsLease)
    (hcancel : task.cancel = some resumed) : resumed.next.OwnsLease := by
  cases task with
  | lifecycle key args pc =>
      obtain ⟨next, hnext, rfl⟩ := Option.map_eq_some_iff.mp hcancel
      intro held hheld
      exact h held (Lifecycle.held_of_cancelled (Lifecycle.cancelled_of_cancel hnext) hheld)
  | serialised key args pc =>
      obtain ⟨next, -, rfl⟩ := Option.map_eq_some_iff.mp hcancel
      trivial
  | recovery managerId connectors frame =>
      cases hcancel
      trivial
  | recovered => cases hcancel

theorem World.LeasesOwned.step (h : w.LeasesOwned) (hstep : w.step label = some next) :
    next.LeasesOwned := by
  have hstep := World.step_cases hstep
  cases hstep with
  | @start _ _ entry hnew =>
      refine h.move trivial ?_ (fun _ _ _ _ hm => hm) (by simp)
      cases entry with
      | lifecycle => exact fun _ hheld => nomatch hheld
      | _ => trivial
  | answer hcall hlive hawait hperform hresume =>
      rw [World.LeasesOwned, World.put_view]
      exact h.move trivial ((h.thread _ _ hcall).answer hawait (Shared.performed hperform) hresume)
        (fun _ _ _ _ hm => hm) (by simp)
  | lose hcall hlive hawait hperform hopen hcancel =>
      rw [World.LeasesOwned, World.put_view]
      exact h.move trivial ((h.thread _ _ hcall).cancel hcancel) (fun _ _ _ _ hm => hm) (by simp)
  | cancel hcall hlive hcancel =>
      rw [World.LeasesOwned, World.put_view]
      exact h.move trivial ((h.thread _ _ hcall).cancel hcancel) (fun _ _ _ _ hm => hm) (by simp)
  | @crash process =>
      refine h.relabel (f := fun call => if call.process = process then { call with crashed := true }
        else call) (fun m hm => ?_) (fun _ _ h => h)
      split <;> exact hm
  | tick => exact h.shift trivial fun _ _ _ hm => hm
  | clearBlock => exact h.shift trivial fun _ _ _ hm => hm

-- The owner's release leaves no lease running: if it is refused, the lease did not run.
theorem LeaseTable.Known.released {t : LeaseTable} {key : Key} {lease : ProviderRouteLease}
    {now : Time} {owner : String} (h : t.Known lease) (howner : lease.ownerExecutionId = owner) :
    ¬ (t.respond ⟨now, .release lease.leaseId lease.leaseToken owner⟩).2.Running key
      lease.leaseId := by
  obtain ⟨row, hl, hgrant, -⟩ := h
  have htoken : row.leaseToken = lease.leaseToken := congrArg Grant.token hgrant
  have howns : row.ownerExecutionId = owner := (congrArg Grant.owner hgrant).trans howner
  rintro ⟨after, hafter, -, hmarked, hactive⟩
  simp only [respond, dbRelease, hl] at hafter
  rw [if_neg (by simp [htoken, howns])] at hafter
  split at hafter
  next hstopped =>
    obtain rfl := Option.some.inj (hl.symm.trans hafter)
    exact hstopped.elim (fun hne => hne hactive) fun hunmarked => by simp [hmarked] at hunmarked
  next hrunning =>
    rw [committed, lookup_update, hl, Option.map_some, if_pos rfl, Option.some.injEq] at hafter
    rw [← hafter] at hmarked
    cases hmarked

-- Where a lifecycle comes by the release of its lease, the lease runs no longer.
def World.Frees (w : World) (label : Label) : Prop :=
  ∀ move ∈ w.move label, .released ∈ move.marks → ∀ key args pc held,
    move.call.task = .lifecycle key args pc → pc.held = some held →
      ∀ next, w.step label = some next → ¬ next.shared.store.Running key held.lease.leaseId

theorem releasing_of_mark {move : Move} {key : Key} {args : LifecycleArgs} {pc : LifecyclePc}
    (htask : move.call.task = .lifecycle key args pc) (h : .released ∈ move.marks) :
    pc.releasing = true ∧ move.answer.isSome = true := by
  unfold Move.marks at h
  rw [htask] at h
  split at h
  next heq _ =>
    cases heq
    unfold LifecyclePc.passing at h
    split at h
    · split at h
      · cases List.mem_singleton.mp h
      · cases h
    · by_contra hnot
      rw [← Bool.and_eq_true_iff] at hnot
      rw [if_neg hnot] at h
      simp at h
  · cases h

theorem World.frees (hknown : w.Known) (howned : w.LeasesOwned) : w.Frees label := by
  intro move hmove hmark key args pc held htask hheld next hstep
  obtain ⟨hreleasing, hanswered⟩ := releasing_of_mark htask hmark
  cases label with
  | answer id ids choice =>
      cases step_cases hstep with
      | @answer _ call _ _ await answer shared resumed hcall hlive hawait hperform hresume =>
          have hfound : w.live id = some call := by simp [live, hcall, hlive]
          obtain rfl := Option.some.inj ((move_of_answer hfound hawait hperform hresume).symm.trans hmove)
          dsimp only at htask
          cases pc with
          | release held work outcome watch =>
              cases hheld
              have hholding : call.task.holding = some (key, held.lease) := by rw [htask]; rfl
              have hlease := ((hknown.thread id call hcall).holding key held.lease hholding).1
              have howner : held.lease.ownerExecutionId = args.owner := by
                have howns := howned.thread id call hcall
                rw [htask] at howns
                exact howns held rfl
              rw [htask] at hawait
              cases hawait
              have hstore : (w.put id call shared resumed).shared.store = _ :=
                (congrArg View.store (put_view ..)).trans
                  ((Shared.performed hperform).respond_store (by simp))
              rw [hstore]
              exact hlease.released howner
          | _ => cases hreleasing
  | lose id ids choice =>
      obtain ⟨call, resumed, shared, -, -, -, -, hlost, -⟩ := move_of_lose hstep
      obtain rfl := Option.some.inj (hlost.symm.trans hmove)
      cases hanswered
  | cancel id =>
      cases step_cases hstep with
      | @cancel _ call resumed hcall hlive hcancel =>
          have hfound : w.live id = some call := by simp [live, hcall, hlive]
          obtain rfl := Option.some.inj ((move_of_cancel hfound hcancel).symm.trans hmove)
          cases hanswered
  | _ => cases hmove

end Released

section Runs

-- The marks of every call are those of where it stands.
structure World.Marked (w : World) (marks : Marks) : Prop where
  calls : ∀ id call, w.calls id = some call → call.task.Marked (marks id)
  unstarted : ∀ id, w.calls id = none → marks id = []

variable {w next : World} {marks : Marks} {label : Label}

theorem World.Marked.put {id : CallId} {call : Call} {shared : Shared} {answer : Option Answer}
    {resumed : Resumed Task} (h : w.Marked marks)
    (hown : resumed.next.Marked (marks id ++ Move.marks ⟨id, call, answer, resumed⟩)) :
    (w.put id call shared resumed).Marked (Move.mark marks ⟨id, call, answer, resumed⟩) where
  calls other moved hmoved := by
    by_cases hother : other = id
    · subst hother
      rw [put_self, Option.some.injEq] at hmoved
      rw [← hmoved, Move.mark, Function.update_self]
      exact hown
    · rw [put_other w call shared resumed hother] at hmoved
      rw [Move.mark, Function.update_of_ne hother]
      exact h.calls other moved hmoved
  unstarted other hnone := by
    have hother : other ≠ id := by
      rintro rfl
      rw [put_self] at hnone
      cases hnone
    rw [put_other w call shared resumed hother] at hnone
    rw [Move.mark, Function.update_of_ne hother]
    exact h.unstarted other hnone

theorem World.Marked.step (h : w.Marked marks) (hsteady : w.Steady label)
    (hstep : w.step label = some next) : next.Marked (noteMarks marks w label) := by
  cases label with
  | start id process entry =>
      cases step_cases hstep with
      | start hnew =>
          refine ⟨fun other call hcall => ?_, fun other hnone => ?_⟩
          · dsimp only at hcall
            by_cases hother : other = id
            · subst hother
              rw [Function.update_self, Option.some.injEq] at hcall
              have hmarks : noteMarks marks w (.start other process entry) other = [] :=
                h.unstarted other hnew
              rw [hmarks, ← hcall]
              cases entry with
              | lifecycle key args => exact ⟨nofun, .inl rfl⟩
              | _ => rfl
            · rw [Function.update_of_ne hother] at hcall
              exact h.calls other call hcall
          · dsimp only at hnone
            by_cases hother : other = id
            · rw [hother, Function.update_self] at hnone
              cases hnone
            · rw [Function.update_of_ne hother] at hnone
              exact h.unstarted other hnone
  | answer id ids choice =>
      cases step_cases hstep with
      | @answer _ call _ _ await answer shared resumed hcall hlive hawait hperform hresume =>
          have hfound : w.live id = some call := by simp [live, hcall, hlive]
          rw [noteMarks, move_of_answer hfound hawait hperform hresume]
          exact h.put (marked_answer (h.calls id _ hcall) hresume)
  | lose id ids choice =>
      obtain ⟨call, resumed, shared, hlive, hcancel, -, -, hmove, hnext⟩ := move_of_lose hstep
      have hcall := (live_eq_some hlive).1
      have hopen : call.task.shielded = false := by
        cases step_cases hstep with
        | lose hfound _ _ _ hopen =>
            obtain rfl := Option.some.inj (hcall.symm.trans hfound)
            exact hopen
      rw [noteMarks, hmove, hnext]
      refine h.put (marked_cancel (h.calls id _ hcall) hcancel ?_)
      cases htask : call.task with
      | lifecycle key args pc =>
          rw [htask] at hopen
          cases pc with
          | restore | restoreVerify | release => cases hopen
          | _ => rfl
      | _ => rfl
  | cancel id =>
      cases step_cases hstep with
      | @cancel _ call resumed hcall hlive hcancel =>
          have hfound : w.live id = some call := by simp [live, hcall, hlive]
          rw [noteMarks, move_of_cancel hfound hcancel]
          exact h.put (marked_cancel (h.calls id _ hcall) hcancel (hsteady _ hfound))
  | crash process =>
      cases step_cases hstep with
      | crash =>
          refine ⟨fun id call hcall => ?_, fun id hnone => h.unstarted id (Option.map_eq_none_iff.mp hnone)⟩
          obtain ⟨before, hbefore, rfl⟩ := Option.map_eq_some_iff.mp hcall
          have hmarked := h.calls id before hbefore
          split <;> exact hmarked
  | tick now =>
      cases step_cases hstep with
      | tick => exact ⟨h.calls, h.unstarted⟩
  | clearBlock key =>
      cases step_cases hstep with
      | clearBlock => exact ⟨h.calls, h.unstarted⟩

theorem touches_restoreAwait {key other : Key} {saved : Mapping}
    (h : (restoreAwait other saved).touches key = true) : other = key := by
  unfold restoreAwait at h
  split at h
  · exact Option.some.inj (of_decide_eq_true h)
  · exact Option.some.inj (of_decide_eq_true h)

theorem Recovery.guarded_of_touches {t : LeaseTable} {frame : Recovery} {ids : Ids} {key : Key}
    (hknown : frame.Known t) (h : (frame.await ids).touches key = true) :
    frame.guarded = some key := by
  cases frame with
  | list => cases h
  | round lease rest reports pc =>
      cases pc with
      | restore claimed owner =>
          have hcopy := (hknown.copy lease rest reports _ claimed rfl rfl).2
          have hkey : claimed.key = lease.key := congrArg Grant.key hcopy
          exact congrArg some (hkey.symm.trans (touches_restoreAwait h))
      | verify claimed owner =>
          have hcopy := (hknown.copy lease rest reports _ claimed rfl rfl).2
          have hkey : claimed.key = lease.key := congrArg Grant.key hcopy
          exact congrArg some (hkey.symm.trans (of_decide_eq_true h))
      | _ => cases h

-- Whatever looks at a route or changes it stands between the acquisition of its local
-- lock and the release.
theorem guarded_of_touches {t : LeaseTable} {task : Task} {ids : Ids} {key : Key} {await : Await}
    {marks : List Mark} (hknown : task.Known t) (hmarked : task.Marked marks)
    (hawait : task.await ids = some await) (h : await.touches key = true) :
    task.guarded = some key := by
  cases hframe : task.frame with
  | some frame =>
      obtain rfl := Option.some.inj ((Task.await_frame hframe).symm.trans hawait)
      have hguarded := Recovery.guarded_of_touches (hknown.frame frame hframe) h
      cases task with
      | lifecycle other args pc =>
          cases pc with
          | recovering =>
              cases hframe
              exact hguarded
          | _ => cases hframe
      | serialised other args pc =>
          cases pc with
          | recovering =>
              cases hframe
              exact hguarded
          | _ => cases hframe
      | recovery =>
          cases hframe
          exact hguarded
      | recovered => cases hframe
  | none =>
      cases task with
      | lifecycle other args pc =>
          have hfits : pc.Fits marks := hmarked
          cases pc with
          | recovering => cases hframe
          | finished => cases hawait
          | inspect | verify =>
              cases hawait
              exact congrArg some (of_decide_eq_true h)
          | enable =>
              cases hawait
              exact of_decide_eq_true h
          | restore held work watch =>
              cases hawait
              rw [Task.guarded, guarded_held rfl hfits.stays, touches_restoreAwait h]
          | restoreVerify held work watch =>
              cases hawait
              rw [Task.guarded, guarded_held rfl hfits.stays, of_decide_eq_true h]
          | _ =>
              cases hawait
              cases h
      | serialised other args pc =>
          cases pc with
          | recovering => cases hframe
          | finished => cases hawait
          | inspect =>
              cases hawait
              exact congrArg some (of_decide_eq_true h)
          | mutate =>
              cases hawait
              exact of_decide_eq_true h
          | _ =>
              cases hawait
              cases h
      | recovery => cases hframe
      | recovered => cases hawait

def MarkedPair (s : World × Marks) : Prop := s.1.Marked s.2

-- A cleanup is not left behind, and no lifecycle gives up its wait for a held lock.
def World.Undisturbed (w : World) (label : Label) : Prop := w.Steady label ∧ w.Patient label

theorem Task.Marked.prefix {task : Task} {marks : List Mark} (h : task.Marked marks) :
    marks <+: cleanup := by
  cases task with
  | lifecycle key args pc =>
      have hfits : pc.Fits marks := h
      rcases hfits.marks with rfl | ⟨-, rfl⟩
      · cases pc with
        | enable | verify | renew | execute => exact ⟨_, rfl⟩
        | restore | restoreVerify => exact ⟨_, rfl⟩
        | release => exact ⟨_, rfl⟩
        | _ => exact List.nil_prefix
      · exact List.prefix_refl _
  | _ => exact h ▸ List.nil_prefix

-- While a lifecycle restores a route, no other call of its process looks at that route
-- or changes it.
def RestoredAlone (w : World) : Prop :=
  ∀ id other call second key args pc ids await, w.live id = some call →
    call.task = .lifecycle key args pc → pc.restoring = true → w.live other = some second →
    second.process = call.process → second.task.await ids = some await →
    await.touches key = true → id = other

theorem held_of_restoring {pc : LifecyclePc} (h : pc.restoring = true) : pc.held.isSome = true := by
  cases pc with
  | restore | restoreVerify => rfl
  | _ => cases h

theorem restoredAlone_of_owned {w : World} {marks : Marks} {holders : Holders}
    (hmarked : w.Marked marks) (hknown : w.Known) (howned : Owned w holders) : RestoredAlone w := by
  intro id other call second key args pc ids await hlive htask hrestoring hother hprocess hawait
    htouches
  have hcall := (World.live_eq_some hlive).1
  have hsecond := (World.live_eq_some hother).1
  have hfits : pc.Fits (marks id) := by
    have hmarked := hmarked.calls id call hcall
    rwa [htask] at hmarked
  have hguarded : call.task.guarded = some key := by
    rw [htask]
    exact guarded_held (held_of_restoring hrestoring) hfits.stays
  have htouching : second.task.guarded = some key :=
    guarded_of_touches (hknown.thread other second hsecond) (hmarked.calls other second hsecond)
      hawait htouches
  refine howned.exclusive id other (call.process, key)
    (howned.guarded id call key hlive hguarded) ?_
  rw [← hprocess]
  exact howned.guarded other second key hother htouching

-- However often a lifecycle with a lease is cancelled outside its cleanup, and once in
-- it: the restore runs once and to its end, then the lease is released, then the lock,
-- and only then run_lifecycle ends.
theorem cleanup_in_order (routes : Key → RouteState) (labels : List Label) (w : World)
    (hrun : run World.step (World.initial routes) labels = some w)
    (hundisturbed : Along World.step World.Undisturbed (World.initial routes) labels) :
    ∃ marks, run (watched World.step noteMarks) (World.initial routes, fun _ => []) labels =
        some (w, marks) ∧
      (∀ id, marks id <+: cleanup) ∧ Along World.step World.Frees (World.initial routes) labels ∧
      (∀ id call key args pc, w.calls id = some call → call.task = .lifecycle key args pc →
        .granted ∈ marks id → pc.isOver = true → marks id = cleanup) ∧
      RestoredAlone w := by
  obtain ⟨marks, hmarks⟩ := @run_watched World Label World.step _ _ labels Marks noteMarks
    (fun _ => []) hrun
  obtain ⟨holders, hholders⟩ := @run_watched World Label World.step _ _ labels Holders noteLock
    (fun _ => none) hrun
  have hmarked : MarkedPair (w, marks) := by
    have hinitial : MarkedPair (World.initial routes, fun _ => []) :=
      ⟨(fun _ _ hcall => by cases hcall), fun _ _ => rfl⟩
    have hstep : ∀ (s : World × Marks) label t, MarkedPair s → s.1.Steady label →
        watched World.step noteMarks s label = some t → MarkedPair t := by
      intro s label t h hsteady ht
      obtain ⟨hstep, hnote⟩ := watched_eq_some ht
      rw [MarkedPair, hnote]
      exact World.Marked.step h hsteady hstep
    exact run_invariant hstep hinitial (hundisturbed.mono fun _ _ h => h.1).watched hmarks
  have howned : OwnedPair (w, holders) := by
    have hstep : ∀ (s : World × Holders) label t, OwnedPair s → s.1.Patient label →
        watched World.step noteLock s label = some t → OwnedPair t := by
      intro s label t h hpatient ht
      obtain ⟨hstep, hnote⟩ := watched_eq_some ht
      rw [OwnedPair, hnote]
      exact Owned.step h hpatient hstep
    have hinitial : OwnedPair (World.initial routes, fun _ => none) := owned_initial routes
    exact run_invariant hstep hinitial (hundisturbed.mono fun _ _ h => h.2).watched
      hholders
  have hknown : w.Known :=
    run_keeps (fun _ _ _ h hstep => World.Known.step h hstep) (World.known_initial routes) hrun
  have hmarked : w.Marked marks := hmarked
  have hfrees : Along World.step World.Frees (World.initial routes) labels := by
    have hinitial : (World.initial routes).Known ∧ (World.initial routes).LeasesOwned :=
      ⟨World.known_initial routes, trivial, (fun _ _ hcall => by cases hcall), fun _ _ _ _ _ _ _ => trivial⟩
    have hstep : ∀ (w : World) label next, w.Known ∧ w.LeasesOwned → w.Undisturbed label →
        w.step label = some next → next.Known ∧ next.LeasesOwned :=
      fun _ _ _ h _ hstep => ⟨World.Known.step h.1 hstep, World.LeasesOwned.step h.2 hstep⟩
    have hproperty : ∀ (w : World) label, w.Known ∧ w.LeasesOwned → w.Undisturbed label →
        w.Frees label := fun _ _ h _ => World.frees h.1 h.2
    exact Along.of_invariant hstep hproperty hinitial hundisturbed
  refine ⟨marks, hmarks, fun id => ?_, hfrees, fun id call key args pc hcall htask hgranted hover => ?_,
    restoredAlone_of_owned hmarked hknown howned⟩
  · cases hcall : w.calls id with
    | none => exact hmarked.unstarted id hcall ▸ List.nil_prefix
    | some call => exact Task.Marked.prefix (hmarked.calls id call hcall)
  · have hfits : pc.Fits (marks id) := by
      have hmarked := hmarked.calls id call hcall
      rwa [htask] at hmarked
    rcases hfits.marks with hdue | ⟨-, hall⟩
    · cases pc with
      | finished =>
          rw [hdue] at hgranted
          cases hgranted
      | restore | restoreVerify | release =>
          exact absurd (of_decide_eq_true hover) hfits.stays
      | _ => cases hover
    · exact hall

end Runs

section Samples

-- The call whose wait for a local lock the step can end without it.
def Label.quits : Label → Option CallId
  | answer id _ (.raised none .timeoutError) => some id
  | cancel id => some id
  | _ => none

def Task.waiting : Task → Option Key
  | lifecycle key _ .lockWait => some key
  | _ => none

theorem World.patient_iff {w : World} {label : Label} : w.Patient label ↔
    ∀ id ∈ label.quits, ∀ call ∈ w.live id, ∀ key ∈ call.task.waiting,
      w.shared.locks (call.process, key) = false := by
  have hpatient : ∀ id, World.Patient.patient w id ↔ ∀ call ∈ w.live id,
      ∀ key ∈ call.task.waiting, w.shared.locks (call.process, key) = false := by
    intro id
    unfold World.Patient.patient
    refine forall₂_congr fun call _ => ?_
    cases call.task with
    | lifecycle key args pc => cases pc <;> simp [Task.waiting]
    | _ => simp [Task.waiting]
  unfold World.Patient Label.quits
  split
  · simp [hpatient]
  · simp [hpatient]
  · simp

instance (w : World) (label : Label) : Decidable (w.Patient label) :=
  decidable_of_iff _ World.patient_iff.symm

instance (w : World) : ∀ label, Decidable (w.Steady label)
  | .cancel id => inferInstanceAs (Decidable (∀ call ∈ w.live id, call.task.interrupted = false))
  | .start _ _ _ => .isTrue trivial
  | .answer _ _ _ => .isTrue trivial
  | .lose _ _ _ => .isTrue trivial
  | .crash _ => .isTrue trivial
  | .tick _ => .isTrue trivial
  | .clearBlock _ => .isTrue trivial

instance (w : World) (label : Label) : Decidable (w.Undisturbed label) :=
  inferInstanceAs (Decidable (w.Steady label ∧ w.Patient label))

-- A lifecycle that is cancelled while it executes, and once more in its cleanup.
def cancelledRun : List Label :=
  opening 0 0 "first" ++ answers 0 "first"
    [.reading (readingOf routeOff), .plain, switched routeOn, .reading (readingOf routeOn), .plain] ++
  [.cancel 0, .cancel 0] ++ answers 0 "first"
    [switched routeOff, .reading (readingOf routeOff), .plain]

theorem cleanup_in_order_sample : ∃ w,
    run World.step (World.initial fireConnect.disable) cancelledRun = some w ∧
      ∃ marks, run (watched World.step noteMarks) (World.initial fireConnect.disable, fun _ => [])
        cancelledRun = some (w, marks) ∧ marks 0 <+: cleanup := by
  obtain ⟨w, hrun⟩ := Option.isSome_iff_exists.mp
    (show (run World.step (World.initial fireConnect.disable) cancelledRun).isSome by decide +kernel)
  obtain ⟨marks, hmarks, hprefix, -⟩ :=
    cleanup_in_order fireConnect.disable cancelledRun w hrun (by decide +kernel)
  exact ⟨w, hrun, marks, hmarks, hprefix 0⟩

-- The third cancellation comes while the first lifecycle still restores the route, and
-- the second inspects it then.
def leftBehindRun : List Label :=
  opening 0 0 "first" ++ answers 0 "first"
    [.reading (readingOf routeOff), .plain, switched routeOn, .reading (readingOf routeOn), .plain] ++
  [.cancel 0, .cancel 0, .cancel 0] ++ opening 1 0 "second"

def leftBehind (s : World × Marks) : Bool :=
  s.2 0 = [.granted, .restoring, .unlocked, .ended] &&
    (s.1.live 1).any fun call => (call.task.await ⟨"", ""⟩).any fun await => await.touches openCode

theorem cleanup_left_behind :
    ∃ w marks, run (watched World.step noteMarks) (World.initial fireConnect.disable, fun _ => [])
        leftBehindRun = some (w, marks) ∧
      marks 0 = [.granted, .restoring, .unlocked, .ended] ∧ ¬ marks 0 <+: cleanup ∧
      ∃ call ids await, w.live 1 = some call ∧ call.task.await ids = some await ∧
        await.touches openCode = true := by
  have hleftBehind : (run (watched World.step noteMarks)
      (World.initial fireConnect.disable, fun _ => []) leftBehindRun).any leftBehind = true := by
    decide +kernel
  obtain ⟨⟨w, marks⟩, hrun, hleft⟩ := (Option.any_eq_true _ _).mp hleftBehind
  obtain ⟨hmarks, htouching⟩ := Bool.and_eq_true_iff.mp hleft
  have hmarks : marks 0 = [.granted, .restoring, .unlocked, .ended] := of_decide_eq_true hmarks
  obtain ⟨call, hcall, htouching⟩ := (Option.any_eq_true _ _).mp htouching
  obtain ⟨await, hawait, htouches⟩ := (Option.any_eq_true _ _).mp htouching
  refine ⟨w, marks, hrun, hmarks, by rw [hmarks]; decide, call, _, await, hcall, hawait, htouches⟩

end Samples

end JoyMesh.ProviderRoutes
