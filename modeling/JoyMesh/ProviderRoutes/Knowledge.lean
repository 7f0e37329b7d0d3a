import JoyMesh.ProviderRoutes.Moves

namespace JoyMesh.ProviderRoutes

open JoyMesh.Library

namespace Recovery

def leases : Recovery → List ProviderRouteLease
  | list => []
  | round lease rest _ _ => lease :: rest

end Recovery

namespace RecoverPc

-- The claimed copy of the lease, and the owner under which it was claimed.
def claimed : RecoverPc → Option (ProviderRouteLease × String)
  | lockWait claimed owner => some (claimed, owner)
  | restore claimed owner => some (claimed, owner)
  | verify claimed owner => some (claimed, owner)
  | mark claimed owner _ => some (claimed, owner)
  | _ => none

-- The key that the round works on: the claimed copy has it from the row.
def copy : RecoverPc → Option ProviderRouteLease
  | block claimed _ => some claimed
  | pc => pc.claimed.map Prod.fst

end RecoverPc

-- A recovery remembers leases that have a row, and claims a copy of the lease it listed.
structure Recovery.Known (t : LeaseTable) (frame : Recovery) : Prop where
  leases : ∀ lease ∈ frame.leases, t.Known lease
  copy : ∀ lease rest reports pc claimed, frame = .round lease rest reports pc →
    pc.copy = some claimed → claimed.leaseId = lease.leaseId ∧ claimed.grant = lease.grant

structure Task.Known (t : LeaseTable) (task : Task) : Prop where
  frame : ∀ frame, task.frame = some frame → frame.Known t
  holding : ∀ key lease, task.holding = some (key, lease) → t.Known lease ∧ lease.key = key

-- Every call knows the rows of the leases it remembers.
abbrev World.Known (w : World) : Prop :=
  Annotated (fun _ => True) (fun (view : View) (call : Call) => call.task.Known view.store)
    (fun _ _ => True) w.shared.view w.calls

section

variable {t next : LeaseTable} {timed : TimedCall} {lease : ProviderRouteLease}
  {rest : List ProviderRouteLease} {reports : List RecoveryReport} {pc : RecoverPc}

theorem Recovery.Known.step {frame : Recovery} (h : frame.Known t)
    (heffect : LeaseTable.Effect t timed next) : frame.Known next where
  leases lease hl := (h.leases lease hl).step heffect
  copy := h.copy

theorem Task.Known.step {task : Task} (h : task.Known t)
    (heffect : LeaseTable.Effect t timed next) : task.Known next where
  frame frame hf := (h.frame frame hf).step heffect
  holding key lease hh := ⟨(h.holding key lease hh).1.step heffect, (h.holding key lease hh).2⟩

theorem Recovery.known_list (t : LeaseTable) : Recovery.list.Known t where
  leases lease hm := by cases hm
  copy lease rest reports pc claimed he := by cases he

theorem Recovery.known_of_startsIn {listed : List ProviderRouteLease} {frame : Recovery}
    (h : StartsIn listed frame) (hl : ∀ lease ∈ listed, t.Known lease) : frame.Known t := by
  cases h with
  | skip hsub _ =>
      refine ⟨fun lease hm => hl lease (hsub.subset hm), ?_⟩
      rintro lease rest reports pc claimed he hc
      cases he
      cases hc
  | claim hsub _ =>
      refine ⟨fun lease hm => hl lease (hsub.subset hm), ?_⟩
      rintro lease rest reports pc claimed he hc
      cases he
      cases hc

theorem Recovery.Known.tail (h : (Recovery.round lease rest reports pc).Known t) :
    ∀ other ∈ rest, t.Known other :=
  fun other hm => h.leases other (List.mem_cons_of_mem lease hm)

theorem Recovery.Known.moved {after : RecoverPc}
    (h : (Recovery.round lease rest reports pc).Known t)
    (hcopy : ∀ claimed, after.copy = some claimed → pc.copy = some claimed) :
    (Recovery.round lease rest reports after).Known t where
  leases := h.leases
  copy := by
    rintro lease' rest' reports' pc' claimed he hc
    cases he
    exact h.copy lease rest reports pc claimed rfl (hcopy claimed hc)

end

variable {ids : Ids} {frame : Recovery} {call : LeaseCall} {task : Task} {await : Await}
  {s : Shared} {answer : Answer}

theorem Recovery.plain (h : frame.await ids = .store call) : call.Plain := by
  cases frame with
  | list =>
      cases h
      trivial
  | round lease rest reports pc =>
      cases pc with
      | restore claimed owner => exact absurd h (Task.restoreAwait_ne_store _ _ _)
      | lockWait => cases h
      | verify => cases h
      | _ =>
          cases h
          trivial

theorem Task.plain (h : task.await ids = some (.store call)) : call.Plain := by
  cases task with
  | lifecycle key args pc =>
      cases pc with
      | recovering frame => exact Recovery.plain (Option.some.inj h)
      | restore held work watch => exact absurd (Option.some.inj h) (restoreAwait_ne_store _ _ _)
      | _ =>
          cases h
          try trivial
  | serialised key args pc =>
      cases pc with
      | recovering frame => exact Recovery.plain (Option.some.inj h)
      | _ =>
          cases h
          try trivial
  | recovery managerId connectors frame => exact Recovery.plain (Option.some.inj h)
  | recovered => cases h

theorem Task.plain_of_await (h : task.await ids = some await) (call : LeaseCall)
    (he : await = .store call) : call.Plain :=
  Task.plain (he ▸ h)

-- An operation changes the table by at most one call.
theorem Shared.Performed.effect {t : Shared} (h : Performed s await answer t)
    (hplain : ∀ call, await = .store call → call.Plain) :
    t.store = s.store ∨ ∃ call, await = .store call ∧
      LeaseTable.Effect s.store ⟨s.clock, call⟩ t.store := by
  cases h with
  | store => exact .inr ⟨_, rfl, LeaseTable.effect_respond (hplain _ rfl)⟩
  | listed => exact .inl rfl
  | still _ _ hview => exact .inl (congrArg View.store hview)
  | moved => exact .inl rfl

theorem Recovery.Known.goes {t : Shared} {after : Recovery} (h : frame.Known s.store)
    (hperform : Shared.Performed s (frame.await ids) answer t) (hgoes : Goes ids frame answer after)
    (hafter : frame.Known t.store) : after.Known t.store := by
  cases hgoes with
  | listed hstarts =>
      refine known_of_startsIn hstarts fun lease hm => ?_
      rw [show t.store = s.store from congrArg View.store hperform.listing.2]
      exact LeaseTable.known_of_listed (hperform.listing.1 lease hm)
  | onward hstarts => exact known_of_startsIn hstarts hafter.tail
  | @claimed lease claimed rest reports late =>
      refine ⟨hafter.leases, ?_⟩
      rintro lease' rest' reports' pc' copy he hc
      cases he
      cases hc
      exact LeaseTable.grant_of_claimed (h.leases lease List.mem_cons_self) hperform.lease_reply.1
  | locked => exact hafter.moved fun _ hc => hc
  | mutated => exact hafter.moved fun _ hc => hc
  | settled hpc => rcases hpc with rfl | rfl <;> exact hafter.moved fun _ hc => hc
  | marked => exact hafter.moved fun _ hc => hc
  | unmarked => exact hafter.moved fun _ hc => by cases hc
  | unblocked => exact hafter.moved fun _ hc => by cases hc
  | failBlocked => exact hafter.moved fun _ hc => by cases hc

theorem Task.Known.shift {t : Shared} (h : task.Known s.store)
    (hperform : Shared.Performed s await answer t)
    (hplain : ∀ call, await = .store call → call.Plain) : task.Known t.store := by
  rcases hperform.effect hplain with hsame | ⟨call, -, heffect⟩
  · exact hsame ▸ h
  · exact h.step heffect

theorem Task.Known.resume {t : Shared} {resumed : Resumed Task} (h : task.Known s.store)
    (hawait : task.await ids = some await) (hperform : Shared.Performed s await answer t)
    (hresume : task.resume ids answer = some resumed) : resumed.next.Known t.store := by
  have hafter := h.shift hperform (Task.plain_of_await hawait)
  refine ⟨fun after ha => ?_, fun key lease hh => ?_⟩
  · rcases frame_of_resume hresume ha with rfl | ⟨frame, hf, hgoes⟩
    · exact Recovery.known_list _
    · obtain rfl := Option.some.inj (hawait.symm.trans (Task.await_frame hf))
      exact (h.frame frame hf).goes hperform hgoes (hafter.frame frame hf)
  · rcases holding_of_resume hresume hh with hsame | ⟨hacquire, late, rfl⟩
    · exact hafter.holding key lease hsame
    · rcases hacquire with ⟨args, current, rfl⟩ | ⟨args, current, rfl⟩
      · cases hawait
        obtain ⟨hreply, hview⟩ := hperform.lease_reply
        rw [show t.store = _ from congrArg View.store hview]
        refine ⟨LeaseTable.known_of_acquired hreply, ?_⟩
        rw [(LeaseTable.acquire_reply hreply).1]
        rfl
      · cases hawait
        obtain ⟨hreply, hview⟩ := hperform.lease_reply
        rw [show t.store = _ from congrArg View.store hview]
        refine ⟨LeaseTable.known_of_acquired hreply, ?_⟩
        rw [(LeaseTable.acquire_reply hreply).1]
        rfl

theorem Task.Known.cancel {t : LeaseTable} {task : Task} {resumed : Resumed Task}
    (h : task.Known t) (hcancel : task.cancel = some resumed) : resumed.next.Known t where
  frame frame hf := by
    rw [frame_of_cancel hcancel] at hf
    cases hf
  holding key lease hh := h.holding key lease (holding_of_cancel hcancel hh)

theorem Entry.known (t : LeaseTable) (entry : Entry) : entry.task.Known t := by
  cases entry with
  | recovery managerId connectors =>
      refine ⟨fun frame hf => ?_, fun key lease hh => by cases hh⟩
      cases hf
      exact Recovery.known_list t
  | _ => exact ⟨fun frame hf => (by cases hf), fun key lease hh => (by cases hh)⟩

theorem World.known_initial (routes : Key → RouteState) : (World.initial routes).Known :=
  ⟨trivial, fun _ _ hc => (by cases hc), fun _ _ _ _ _ _ _ => trivial⟩

theorem World.Known.step {w next : World} {label : Label} (h : w.Known)
    (hstep : w.step label = some next) : next.Known := by
  have hstep := World.step_cases hstep
  cases hstep with
  | start hnew => exact h.move trivial (Entry.known _ _) (fun _ _ _ _ hm => hm) (by simp)
  | answer hcall hlive hawait hperform hresume =>
      have hperform := Shared.performed hperform
      have hplain := Task.plain_of_await hawait
      rw [World.Known, World.put_view]
      exact h.move trivial ((h.thread _ _ hcall).resume hawait hperform hresume)
        (fun _ _ _ _ hm => hm.shift hperform hplain) (by simp)
  | lose hcall hlive hawait hperform hopen hcancel =>
      have hperform := Shared.performed hperform
      have hplain := Task.plain_of_await hawait
      rw [World.Known, World.put_view]
      exact h.move trivial (((h.thread _ _ hcall).shift hperform hplain).cancel hcancel)
        (fun _ _ _ _ hm => hm.shift hperform hplain) (by simp)
  | cancel hcall hlive hcancel =>
      rw [World.Known, World.put_view]
      exact h.move trivial ((h.thread _ _ hcall).cancel hcancel) (fun _ _ _ _ hm => hm) (by simp)
  | @crash process =>
      refine h.relabel (f := fun call => if call.process = process then { call with crashed := true }
        else call) (fun m hm => ?_) (fun _ _ h => h)
      split <;> exact hm
  | tick => exact h.shift trivial fun _ _ _ hm => hm
  | @clearBlock key =>
      have heffect : LeaseTable.Effect w.shared.store ⟨w.shared.clock, .clearBlock key⟩
          (w.shared.store.clearBlock key) := .cleared rfl
      exact h.shift trivial fun _ _ _ hm => hm.step heffect

end JoyMesh.ProviderRoutes
