import JoyMesh.Library.Threads
import JoyMesh.ProviderRoutes.Rows
import JoyMesh.ProviderRoutes.Coordinator

namespace JoyMesh.ProviderRoutes

open JoyMesh.Library

-- The part of the shared state that assertions speak about.
structure View where
  store : LeaseTable
  routes : Key → RouteState

namespace Shared

def view (s : Shared) : View := ⟨s.store, s.routes⟩

@[simp] theorem unlock_view (s : Shared) (process : Nat) (key : Option Key) (resumed : Bool) :
    (s.unlock process key resumed).view = s.view := by
  unfold unlock
  split
  · split <;> rfl
  · rfl

-- A store call answers for the table as it was; an operation of the manager
-- leaves the table alone and changes at most the route of its key.
inductive Performed (s : Shared) : Await → Answer → Shared → Prop
  | store {call : LeaseCall} {late : Bool} :
      Performed s (.store call) (.store (s.store.respond ⟨s.clock, call⟩).1 late)
        { s with store := (s.store.respond ⟨s.clock, call⟩).2 }
  | listed {moment : Option Time} {found : List ProviderRouteLease}
      (h : found.Perm (s.store.listExpiredActive (moment.getD s.clock))) :
      Performed s (.store (.listExpiredActive moment)) (.store (.leases found) false) s
  | still {await : Await} {answer : Answer} {t : Shared} (h : ∀ call, await ≠ .store call)
      (hmanager : ∀ result, answer ≠ .mutated result) (hview : t.view = s.view) :
      Performed s await answer t
  | moved {await : Await} {key : Key} {route : RouteState} {answer : Answer}
      (h : await.mutates = some key) : Performed s await answer (s.setRoute key route)

variable {s t : Shared} {await : Await} {answer : Answer} {call : LeaseCall} {late : Bool}

theorem performed_failed {key : Key} {route : Option RouteState} {error : Raised}
    (hstore : ∀ call, await ≠ .store call) (hkey : route ≠ none → await.mutates = some key)
    (h : s.failed key route error = some (answer, t)) : Performed s await answer t := by
  unfold failed at h
  split at h
  · cases h
  · simp only [Option.some.injEq, Prod.mk.injEq] at h
    obtain ⟨rfl, rfl⟩ := h
    cases route with
    | none => exact .still hstore nofun rfl
    | some route => exact .moved (hkey nofun)

theorem performed {process : Nat} {choice : Choice}
    (h : s.perform process await choice = some (answer, t)) : Performed s await answer t := by
  unfold perform at h
  split at h
  · simp only [Option.some.injEq, Prod.mk.injEq] at h
    obtain ⟨rfl, rfl⟩ := h
    exact .store
  · simp only [Option.some.injEq, Prod.mk.injEq] at h
    obtain ⟨rfl, rfl⟩ := h
    exact .store
  · split at h
    next hperm =>
      simp only [Option.some.injEq, Prod.mk.injEq] at h
      obtain ⟨rfl, rfl⟩ := h
      exact .listed hperm
    next => cases h
  · split at h
    · cases h
    · simp only [Option.some.injEq, Prod.mk.injEq] at h
      obtain ⟨rfl, rfl⟩ := h
      exact .still nofun nofun rfl
  · simp only [Option.some.injEq, Prod.mk.injEq] at h
    obtain ⟨rfl, rfl⟩ := h
    exact .still nofun nofun rfl
  · simp only [Option.some.injEq, Prod.mk.injEq] at h
    obtain ⟨rfl, rfl⟩ := h
    exact .still nofun nofun rfl
  · exact performed_failed nofun (fun hn => absurd rfl hn) h
  · simp only [Option.some.injEq, Prod.mk.injEq] at h
    obtain ⟨rfl, rfl⟩ := h
    exact .moved rfl
  · exact performed_failed nofun (fun _ => rfl) h
  · simp only [Option.some.injEq, Prod.mk.injEq] at h
    obtain ⟨rfl, rfl⟩ := h
    exact .moved rfl
  · exact performed_failed nofun (fun _ => rfl) h
  · simp only [Option.some.injEq, Prod.mk.injEq] at h
    obtain ⟨rfl, rfl⟩ := h
    exact .still nofun nofun rfl
  · split at h
    · cases h
    · simp only [Option.some.injEq, Prod.mk.injEq] at h
      obtain ⟨rfl, rfl⟩ := h
      exact .still nofun nofun rfl
  · simp only [Option.some.injEq, Prod.mk.injEq] at h
    obtain ⟨rfl, rfl⟩ := h
    exact .moved rfl
  · exact performed_failed nofun (fun _ => rfl) h
  · simp only [Option.some.injEq, Prod.mk.injEq] at h
    obtain ⟨rfl, rfl⟩ := h
    exact .still nofun nofun rfl
  · cases h

-- The store answers every call but a listing in one way.
theorem Performed.respond (h : Performed s (.store call) answer t)
    (hcall : ∀ moment, call ≠ .listExpiredActive moment) :
    (∃ late, answer = .store (s.store.respond ⟨s.clock, call⟩).1 late) ∧
      t.view = ⟨(s.store.respond ⟨s.clock, call⟩).2, s.routes⟩ := by
  cases h with
  | store => exact ⟨⟨_, rfl⟩, rfl⟩
  | listed => exact absurd rfl (hcall _)
  | still hstore => exact absurd rfl (hstore _)
  | moved hkey => cases hkey

theorem Performed.respond_store (h : Performed s (.store call) answer t)
    (hcall : ∀ moment, call ≠ .listExpiredActive moment) :
    t.store = (s.store.respond ⟨s.clock, call⟩).2 := congrArg View.store (h.respond hcall).2

theorem Performed.lease_reply {found : Option ProviderRouteLease}
    (h : Performed s (.store call) (.store (.lease found) late) t) :
    (s.store.respond ⟨s.clock, call⟩).1 = .lease found ∧
      t.view = ⟨(s.store.respond ⟨s.clock, call⟩).2, s.routes⟩ := by
  generalize hreply : Reply.lease found = reply at h
  cases h with
  | store => exact ⟨rfl, rfl⟩
  | listed => cases hreply
  | still hstore => exact absurd rfl (hstore _)
  | moved hkey => cases hkey

theorem Performed.listing {moment : Option Time} {found : List ProviderRouteLease}
    (h : Performed s (.store (.listExpiredActive moment)) (.store (.leases found) late) t) :
    (∀ lease ∈ found, lease ∈ s.store.listExpiredActive (moment.getD s.clock)) ∧ t.view = s.view := by
  cases h with
  | store => exact ⟨fun _ hm => hm, rfl⟩
  | listed hperm => exact ⟨fun _ hm => hperm.subset hm, rfl⟩
  | still hstore => exact absurd rfl (hstore _)
  | moved hkey => cases hkey

end Shared

namespace World

inductive Step (w : World) : Label → World → Prop
  | start {id : CallId} {process : Nat} {entry : Entry} (hnew : w.calls id = none) :
      Step w (.start id process entry)
        { w with calls := Function.update w.calls id (some { process, task := entry.task }) }
  | answer {id : CallId} {call : Call} {ids : Ids} {choice : Choice} {await : Await}
      {answer : Answer} {shared : Shared} {resumed : Resumed Task} (hcall : w.calls id = some call)
      (hlive : call.crashed = false) (hawait : call.task.await ids = some await)
      (hperform : w.shared.perform call.process await choice = some (answer, shared))
      (hresume : call.task.resume ids answer = some resumed) :
      Step w (.answer id ids choice) (w.put id call shared resumed)
  | lose {id : CallId} {call : Call} {ids : Ids} {choice : Choice} {await : Await}
      {answer : Answer} {shared : Shared} {resumed : Resumed Task} (hcall : w.calls id = some call)
      (hlive : call.crashed = false) (hawait : call.task.await ids = some await)
      (hperform : w.shared.perform call.process await choice = some (answer, shared))
      (hopen : call.task.shielded = false) (hcancel : call.task.cancel = some resumed) :
      Step w (.lose id ids choice) (w.put id call shared resumed)
  | cancel {id : CallId} {call : Call} {resumed : Resumed Task} (hcall : w.calls id = some call)
      (hlive : call.crashed = false) (hcancel : call.task.cancel = some resumed) :
      Step w (.cancel id) (w.put id call w.shared resumed)
  | crash {process : Nat} :
      Step w (.crash process)
        { shared := { w.shared with
            locks := fun lock => if lock.1 = process then false else w.shared.locks lock }
          calls := fun id => (w.calls id).map fun call =>
            if call.process = process then { call with crashed := true } else call }
  | tick {now : Time} (h : w.shared.clock ≤ now) :
      Step w (.tick now) { w with shared := { w.shared with clock := now } }
  | clearBlock {key : Key} :
      Step w (.clearBlock key)
        { w with shared := { w.shared with store := w.shared.store.clearBlock key } }

variable {w next : World} {id : CallId} {label : Label}

theorem live_eq_some {call : Call} (h : w.live id = some call) :
    w.calls id = some call ∧ call.crashed = false := by
  obtain ⟨hc, hl⟩ := Option.filter_eq_some_iff.mp h
  exact ⟨hc, by simpa using hl⟩

theorem step_cases (h : w.step label = some next) : Step w label next := by
  cases label with
  | start id process entry =>
      simp only [step] at h
      split at h
      · cases h
      next hnew =>
        rw [← Option.some.inj h]
        exact .start hnew
  | answer id ids choice =>
      simp only [step, Option.bind_eq_bind, Option.bind_eq_some_iff] at h
      obtain ⟨call, hlive, await, hawait, ⟨answer, shared⟩, hperform, resumed, hresume, heq⟩ := h
      rw [← Option.some.inj heq]
      obtain ⟨hcall, hlive⟩ := live_eq_some hlive
      exact .answer hcall hlive hawait hperform hresume
  | lose id ids choice =>
      simp only [step, Option.bind_eq_bind, Option.bind_eq_some_iff] at h
      obtain ⟨call, hlive, await, hawait, ⟨answer, shared⟩, hperform, h⟩ := h
      split at h
      · cases h
      next hopen =>
        obtain ⟨resumed, hcancel, heq⟩ := Option.bind_eq_some_iff.mp h
        rw [← Option.some.inj heq]
        obtain ⟨hcall, hlive⟩ := live_eq_some hlive
        have hshield : call.task.shielded = false := by
          simp only [Bool.or_eq_true, not_or] at hopen
          simpa using hopen.1
        exact .lose hcall hlive hawait hperform hshield hcancel
  | cancel id =>
      simp only [step, Option.bind_eq_bind, Option.bind_eq_some_iff] at h
      obtain ⟨call, hlive, resumed, hcancel, heq⟩ := h
      rw [← Option.some.inj heq]
      obtain ⟨hcall, hlive⟩ := live_eq_some hlive
      exact .cancel hcall hlive hcancel
  | crash process =>
      rw [← Option.some.inj h]
      exact .crash
  | tick now =>
      simp only [step] at h
      split at h
      next hle =>
        rw [← Option.some.inj h]
        exact .tick hle
      next => cases h
  | clearBlock key =>
      rw [← Option.some.inj h]
      exact .clearBlock

@[simp] theorem put_view (w : World) (id : CallId) (call : Call) (shared : Shared)
    (resumed : Resumed Task) : (w.put id call shared resumed).shared.view = shared.view :=
  Shared.unlock_view ..

theorem put_self (w : World) (id : CallId) (call : Call) (shared : Shared) (resumed : Resumed Task) :
    (w.put id call shared resumed).calls id = some { call with task := resumed.next } :=
  Function.update_self ..

theorem put_other (w : World) {other : CallId} (call : Call) (shared : Shared)
    (resumed : Resumed Task) (h : other ≠ id) :
    (w.put id call shared resumed).calls other = w.calls other := Function.update_of_ne h _ _

theorem Step.calls (h : Step w label next) (hnext : next.calls id ≠ none) :
    w.calls id ≠ none ∨ label.started = some id := by
  have hput : ∀ (other : CallId) (call : Call), w.calls other = some call →
      ∀ value, Function.update w.calls other value id ≠ none → w.calls id ≠ none := by
    intro other call hcall value hne
    by_cases he : id = other
    · subst he
      simp [hcall]
    · rwa [Function.update_of_ne he] at hne
  cases h with
  | @start other process entry hnew =>
      by_cases he : id = other
      · exact .inr (congrArg some he.symm)
      · exact .inl (by simpa only [Function.update_of_ne he] using hnext)
  | answer hcall => exact .inl (hput _ _ hcall _ hnext)
  | lose hcall => exact .inl (hput _ _ hcall _ hnext)
  | cancel hcall => exact .inl (hput _ _ hcall _ hnext)
  | crash => exact .inl fun hnone => hnext (by simp [hnone])
  | tick => exact .inl hnext
  | clearBlock => exact .inl hnext

-- A call has been started.
theorem started_of_call {labels : List Label} (hnone : w.calls id = none)
    (hrun : run World.step w labels = some next) (hcall : next.calls id ≠ none) :
    id ∈ labels.filterMap Label.started := by
  induction labels generalizing w with
  | nil =>
      obtain rfl : w = next := by simpa using hrun
      exact absurd hnone hcall
  | cons label labels ih =>
      obtain ⟨middle, hstep, hrun⟩ := Option.bind_eq_some_iff.mp (run_cons ▸ hrun)
      rw [List.filterMap_cons]
      cases hmiddle : middle.calls id with
      | none =>
          have hmem := ih hmiddle hrun
          split
          · exact hmem
          · exact List.mem_cons_of_mem _ hmem
      | some call =>
          have hne : middle.calls id ≠ none := by simp [hmiddle]
          rcases (step_cases hstep).calls hne with hbefore | hstarted
          · exact absurd hnone hbefore
          · simp [hstarted]

end World

end JoyMesh.ProviderRoutes
