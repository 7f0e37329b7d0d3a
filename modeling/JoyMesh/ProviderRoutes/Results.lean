import JoyMesh.ProviderRoutes.Steps

namespace JoyMesh.ProviderRoutes

open JoyMesh.Library

-- The execution left a result exactly where it succeeded, and nothing has failed before.
structure Work.Settled (work : Work) : Prop where
  result : work.executionResult.isSome = work.ok
  reason : work.ok = true → work.reasonCode = none

-- The results that run_lifecycle can return: three early ones without a lease, and
-- the one that is put together after cleanup.
inductive LifecycleResult.Returned (key : Key) : LifecycleResult → Prop
  | blocked (detail : String) : Returned key (Lifecycle.blockedResult detail)
  | lockTimeout : Returned key Lifecycle.lockTimeout
  | leaseTimeout (original : Mapping) : Returned key (Lifecycle.leaseTimeout original)
  | concluded (held : Held) {work : Work} (outcome : RestoreOutcome) (hwork : work.Settled) :
      Returned key (Lifecycle.result key held work outcome)

namespace LifecycleResult

variable {key : Key} {result : LifecycleResult}

theorem Returned.early (h : result.Returned key) (hlease : result.lease = none) :
    result.restorationVerified = false := by
  cases h with
  | concluded => cases hlease
  | _ => rfl

-- A lifecycle that executed the work has nothing to report but its restoration.
theorem Returned.executed (h : result.Returned key) (hexecuted : result.executionResult.isSome = true)
    (hverified : result.restorationVerified = true) : result.ok = true ∧ result.reasonCode = none := by
  cases h with
  | @concluded held work outcome hwork =>
      have hok : work.ok = true := hwork.result.symm.trans hexecuted
      have houtcome : outcome.verified = true := hverified
      simp [Lifecycle.result, hok, houtcome, hwork.reason hok]
  | _ => cases hverified

end LifecycleResult

namespace Lifecycle

variable {ids : Ids} {key : Key} {args : LifecycleArgs} {pc : LifecyclePc} {answer : Answer}
  {resumed : Resumed LifecyclePc}

def Sound (key : Key) : LifecyclePc → Prop
  | .restore _ work _ => work.Settled
  | .restoreVerify _ work _ => work.Settled
  | .release _ work _ _ => work.Settled
  | .finished (.returned result) => result.Returned key
  | _ => True

theorem settled_unexecuted {work : Work} (hresult : work.executionResult = none) (hok : work.ok = false) :
    work.Settled where
  result := by rw [hresult, hok]; rfl
  reason h := by rw [hok] at h; cases h

theorem settled_failed (error : Raised) : (executionFailed error).Settled := by
  cases error <;> exact settled_unexecuted rfl rfl

theorem sound_afterCleanup {held : Held} {work : Work} (outcome : RestoreOutcome) (watch : Watch)
    (hwork : work.Settled) : Sound key (afterCleanup key held work outcome watch).next := by
  cases watch with
  | waiting =>
      simp only [afterCleanup]
      split
      · trivial
      · exact .concluded held outcome hwork
  | _ => trivial

theorem sound_resume (h : resume ids key args pc answer = some resumed) (hpc : Sound key pc) :
    Sound key resumed.next := by
  cases pc with
  | checkBlock =>
      simp only [resume] at h
      split at h <;> cases h
      · exact .blocked _
      · trivial
  | recovering frame =>
      obtain ⟨⟨next, unlock⟩, -, rfl⟩ := Option.map_eq_some_iff.mp h
      cases next <;> trivial
  | lockWait =>
      simp only [resume] at h
      split at h <;> cases h
      · trivial
      · exact .lockTimeout
  | acquire current =>
      simp only [resume] at h
      split at h
      · split at h <;> cases h <;> trivial
      · split at h <;> cases h
        · exact .leaseTimeout _
        · trivial
      · cases h
  | enable held =>
      simp only [resume] at h
      split at h
      · split at h <;> cases h
        · trivial
        · exact settled_unexecuted rfl rfl
      · cases h
        exact settled_unexecuted rfl rfl
      · cases h
  | verify held =>
      simp only [resume] at h
      split at h
      · split at h <;> cases h
        · trivial
        · exact settled_unexecuted rfl rfl
      · cases h
        exact settled_unexecuted rfl rfl
      · cases h
  | renew held =>
      simp only [resume] at h
      split at h <;> cases h
      · trivial
      · exact settled_failed _
  | execute held =>
      simp only [resume] at h
      split at h <;> cases h
      · exact ⟨rfl, fun _ => rfl⟩
      · exact settled_failed _
  | restore held work watch =>
      obtain ⟨outcome, -, rfl⟩ := Option.map_eq_some_iff.mp h
      cases outcome <;> exact hpc
  | restoreVerify held work watch =>
      obtain ⟨outcome, -, rfl⟩ := Option.map_eq_some_iff.mp h
      exact hpc
  | release held work outcome watch =>
      simp only [resume] at h
      split at h <;> cases h <;> exact sound_afterCleanup outcome watch hpc
  | finished => cases h
  | _ =>
      simp only [resume] at h
      split at h <;> cases h <;> trivial

theorem sound_cancel (h : cancel pc = some resumed) (hpc : Sound key pc) : Sound key resumed.next := by
  cases pc with
  | enable => cases h; exact settled_unexecuted rfl rfl
  | verify => cases h; exact settled_unexecuted rfl rfl
  | renew => cases h; exact settled_failed _
  | execute => cases h; exact settled_failed _
  | restore held work watch => cases watch <;> cases h <;> exact hpc
  | restoreVerify held work watch => cases watch <;> cases h <;> exact hpc
  | release held work outcome watch => cases watch <;> cases h <;> exact hpc
  | finished => cases h
  | _ => cases h; trivial

end Lifecycle

namespace Task

def Sound : Task → Prop
  | lifecycle key _ pc => Lifecycle.Sound key pc
  | _ => True

variable {task : Task} {ids : Ids} {answer : Answer} {resumed : Resumed Task}

theorem sound_resume (h : task.resume ids answer = some resumed) (htask : task.Sound) :
    resumed.next.Sound := by
  cases task with
  | lifecycle =>
      obtain ⟨next, hnext, rfl⟩ := Option.map_eq_some_iff.mp h
      exact Lifecycle.sound_resume hnext htask
  | serialised =>
      obtain ⟨next, -, rfl⟩ := Option.map_eq_some_iff.mp h
      trivial
  | recovery =>
      obtain ⟨⟨next, unlock⟩, -, rfl⟩ := Option.map_eq_some_iff.mp h
      cases next <;> trivial
  | recovered => cases h

theorem sound_cancel (h : task.cancel = some resumed) (htask : task.Sound) : resumed.next.Sound := by
  cases task with
  | lifecycle =>
      obtain ⟨next, hnext, rfl⟩ := Option.map_eq_some_iff.mp h
      exact Lifecycle.sound_cancel hnext htask
  | serialised =>
      obtain ⟨next, -, rfl⟩ := Option.map_eq_some_iff.mp h
      trivial
  | recovery =>
      cases h
      trivial
  | recovered => cases h

end Task

namespace World

variable {w next : World} {label : Label} {labels : List Label} {id : CallId} {call : Call}

def Sound (w : World) : Prop := ∀ id call, w.calls id = some call → call.task.Sound

theorem Sound.put {mover : CallId} {moved : Call} {shared : Shared} {resumed : Resumed Task}
    (h : w.Sound) (hnext : resumed.next.Sound) : (w.put mover moved shared resumed).Sound := by
  intro id call hcall
  by_cases he : id = mover
  · subst he
    rw [put_self, Option.some.injEq] at hcall
    exact hcall ▸ hnext
  · rw [put_other w moved shared resumed he] at hcall
    exact h id call hcall

theorem Sound.step (h : w.Sound) (hstep : w.step label = some next) : next.Sound := by
  cases step_cases hstep with
  | @start started process entry hnew =>
      intro id call hcall
      dsimp only at hcall
      by_cases he : id = started
      · subst he
        rw [Function.update_self, Option.some.injEq] at hcall
        subst hcall
        cases entry <;> trivial
      · rw [Function.update_of_ne he] at hcall
        exact h id call hcall
  | answer hcall hlive hawait hperform hresume => exact h.put (Task.sound_resume hresume (h _ _ hcall))
  | lose hcall hlive hawait hperform hopen hcancel =>
      exact h.put (Task.sound_cancel hcancel (h _ _ hcall))
  | cancel hcall hlive hcancel => exact h.put (Task.sound_cancel hcancel (h _ _ hcall))
  | crash =>
      intro id call hcall
      obtain ⟨found, hfound, rfl⟩ := Option.map_eq_some_iff.mp hcall
      have htask := h id found hfound
      split <;> exact htask
  | tick => exact h
  | clearBlock => exact h

-- What a lifecycle has returned in a run is one of the results.
theorem returned_of_run {routes : Key → RouteState} {key : Key} {args : LifecycleArgs}
    {result : LifecycleResult} (hrun : run World.step (World.initial routes) labels = some w)
    (hcall : w.calls id = some call)
    (htask : call.task = .lifecycle key args (.finished (.returned result))) :
    result.Returned key := by
  have hinitial : (World.initial routes).Sound := fun id call h => by cases h
  have hsound := run_keeps (fun _ _ _ h hstep => h.step hstep) hinitial hrun id call hcall
  rwa [htask] at hsound

end World

end JoyMesh.ProviderRoutes
