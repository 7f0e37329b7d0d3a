import JoyMesh.ProviderRoutes.Exclusive

namespace JoyMesh.ProviderRoutes

open JoyMesh.Library

namespace LifecyclePc

-- The stages after an enabling up to its undoing.
def installed : LifecyclePc → Bool
  | verify _ => true
  | renew _ => true
  | execute _ => true
  | restore _ _ _ => true
  | _ => false

end LifecyclePc

namespace Task

def enabling (key : Key) (task : Task) : Bool :=
  match task.lifecycleOn key with
  | some (.enable _) => true
  | _ => false

def temporary (key : Key) (task : Task) : Bool :=
  (task.lifecycleOn key).any LifecyclePc.installed

end Task

namespace RecoverPc

-- The stages after a recovery has restored the route.
def undone : RecoverPc → Bool
  | verify _ _ => true
  | mark _ _ _ => true
  | _ => false

theorem claimed_of_undone {pc : RecoverPc} (h : pc.undone = true) :
    ∃ claimed owner, pc.claimed = some (claimed, owner) ∧ pc.copy = some claimed := by
  cases pc <;> first | exact ⟨_, _, rfl, rfl⟩ | cases h

end RecoverPc

namespace World

-- A lifecycle that asks for the lease of the key while no lease of it is active
-- has read the state that the route still has.
def Reread (key : Key) (w : World) : Label → Prop
  | .answer id _ _ => ∀ call ∈ w.live id, reread call.task
  | .lose id _ _ => ∀ call ∈ w.live id, reread call.task
  | _ => True
where
  reread : Task → Prop
    | .lifecycle other _ (.acquire current) =>
        other = key → w.shared.store.activeRow key = none → current.state = w.shared.routes key
    | _ => True

instance {key : Key} {w : World} (task : Task) : Decidable (Reread.reread key w task) := by
  cases task with
  | lifecycle other args pc => cases pc <;> dsimp only [Reread.reread] <;> infer_instance
  | _ => exact .isTrue trivial

instance {key : Key} {w : World} : ∀ label, Decidable (w.Reread key label)
  | .answer id _ _ | .lose id _ _ =>
      inferInstanceAs (Decidable (∀ call ∈ w.live id, Reread.reread key w call.task))
  | .start _ _ _ | .cancel _ | .crash _ | .tick _ | .clearBlock _ => .isTrue trivial

-- Every state that a lifecycle will restore is the original one, and once the
-- lifecycles of the key have finished the route has it again.
structure RouteKept (key : Key) (original : RouteState) (w : World) : Prop where
  saved : ∀ id call pc held, w.calls id = some call → call.task.lifecycleOn key = some pc →
    pc.held = some held → held.current.state = original
  restored : (∀ id call pc, w.calls id = some call → call.task.lifecycleOn key = some pc →
    pc.ended = true) → w.shared.routes key = original

end World

section Original

-- A sanitised reading of the original state.
def Restores (original : RouteState) (saved : Mapping) : Prop :=
  ∃ connectorId reading, saved = originalState connectorId reading ∧ reading.state = original

-- A restore that succeeds brings the original state back.
theorem route_restored {manager : Manager} {key : Key} {original : RouteState} {saved : Mapping}
    {s t : Shared} {answer : Answer} (hmanager : manager.Restorable key original)
    (hsaved : Restores original saved)
    (hserved : manager.Served key s t (restoreAwait key saved) answer) :
    t.routes key = original := by
  obtain ⟨connectorId, reading, rfl, rfl⟩ := hsaved
  have hdesired : desiredEnabled (originalState connectorId reading) = reading.state.enabled :=
    desiredEnabled_originalState
  rcases hmanager with hoff | ⟨model, hne, hon, hmodel, henable⟩
  · have haway : restoreAwait key (originalState connectorId reading) = .disable key := by
      rw [restoreAwait, hdesired, hoff, manager.enabled_disable]
      rfl
    rw [haway] at hserved
    cases hserved with
    | disabled _ _ hroute => exact hroute.trans hoff.symm
    | aside hother => exact absurd rfl hother
  · have haway : restoreAwait key (originalState connectorId reading) =
        .enable key (some model) (some model) := by
      rw [restoreAwait, hdesired, hon, desiredModel_originalState hmodel hne]
      rfl
    rw [haway] at hserved
    cases hserved with
    | enabled _ _ hroute =>
        rw [hroute, chosenModel_some hne, henable]
    | aside hother => exact absurd rfl hother

end Original

namespace Recovery

variable {ids : Ids} {frame after : Recovery} {answer : Answer}

theorem leases_of_startsIn {listed : List ProviderRouteLease} (h : StartsIn listed frame) :
    ∀ lease ∈ frame.leases, lease ∈ listed := by
  cases h with
  | skip hsub _ => exact fun _ hm => hsub.subset hm
  | claim hsub _ => exact fun _ hm => hsub.subset hm

-- A recovery remembers no lease that it did not list.
theorem leases_of_goes (h : Goes ids frame answer after) :
    ∀ lease ∈ after.leases, lease ∈ frame.leases ∨
      frame = .list ∧ ∃ found late, answer = .store (.leases found) late ∧ lease ∈ found := by
  intro lease hm
  cases h with
  | listed hstarts => exact .inr ⟨rfl, _, _, rfl, leases_of_startsIn hstarts lease hm⟩
  | onward hstarts => exact .inl (List.mem_cons_of_mem _ (leases_of_startsIn hstarts lease hm))
  | _ => exact .inl hm

-- A round has restored the route before it verifies or marks.
theorem undone_of_goes {lease : ProviderRouteLease} {rest : List ProviderRouteLease}
    {reports : List RecoveryReport} {pc : RecoverPc}
    (h : Goes ids frame answer (.round lease rest reports pc)) (hpc : pc.undone = true) :
    ∃ claimed owner, frame = .round lease rest reports (.restore claimed owner) ∨
      frame = .round lease rest reports (.verify claimed owner) := by
  cases h with
  | listed hstarts => cases hstarts <;> cases hpc
  | onward hstarts => cases hstarts <;> cases hpc
  | mutated => exact ⟨_, _, .inl rfl⟩
  | settled hbefore =>
      rcases hbefore with rfl | rfl
      · exact ⟨_, _, .inl rfl⟩
      · exact ⟨_, _, .inr rfl⟩
  | _ => cases hpc

end Recovery

namespace Lifecycle

theorem held_of_installed {pc : LifecyclePc}
    (h : pc.installed = true ∨ ∃ held, pc = .enable held) : pc.held ≠ none := by
  rcases h with h | ⟨held, rfl⟩
  · cases pc <;> simp [LifecyclePc.installed, LifecyclePc.held] at h ⊢
  · simp [LifecyclePc.held]

-- An enabling stays in effect until the lifecycle restores the route.
theorem installed_of_goes {ids : Ids} {args : LifecycleArgs} {pc next : LifecyclePc}
    {answer : Answer} (h : Goes ids args pc answer next)
    (hpc : pc.installed = true ∨ ∃ held, pc = .enable held) :
    next.installed = true ∨ ∃ held work watch, pc = .restore held work watch := by
  cases h with
  | settled hrestore =>
      rcases hrestore with rfl | rfl
      · exact .inr ⟨_, _, _, rfl⟩
      · rcases hpc with hpc | ⟨held, hpc⟩ <;> cases hpc
  | restored => exact .inr ⟨_, _, _, rfl⟩
  | finished hover =>
      rcases hover with hnone | ⟨held, work, outcome, watch, rfl⟩
      · exact absurd hnone (held_of_installed hpc)
      · rcases hpc with hpc | ⟨held, hpc⟩ <;> cases hpc
  | cleaning => exact .inl rfl
  | enabled => exact .inl rfl
  | verified => exact .inl rfl
  | renewed => exact .inl rfl
  | _ => rcases hpc with hpc | ⟨held, hpc⟩ <;> cases hpc

theorem installed_of_cancelled {pc next : LifecyclePc} (h : Cancelled pc next)
    (hpc : pc.installed = true ∨ ∃ held, pc = .enable held) : next.installed = true := by
  cases h with
  | ended hnone => exact absurd hnone (held_of_installed hpc)
  | cleaning => rfl
  | watched hcleanup =>
      rcases hcleanup with ⟨work, rfl⟩ | ⟨work, rfl⟩ | ⟨work, outcome, rfl⟩
      · rfl
      · rcases hpc with hpc | ⟨held, hpc⟩ <;> cases hpc
      · rcases hpc with hpc | ⟨held, hpc⟩ <;> cases hpc

theorem working_of_installed {pc : LifecyclePc} (h : pc.installed = true) :
    ∃ held, pc.working = some held := by
  cases pc <;> first | exact ⟨_, rfl⟩ | cases h

end Lifecycle

namespace LeaseTable

-- The marked leases of the key save the original state.
def Faithful (key : Key) (original : RouteState) (t : LeaseTable) : Prop :=
  ∀ id row, t.rows.lookup id = some row → row.activeMarker = true → row.key = key →
    Restores original row.originalState

-- The lease still has its marker, in the hands of its holder or of a recovery.
def Marked (t : LeaseTable) (key : Key) (id : String) : Prop :=
  ∃ row, t.rows.lookup id = some row ∧ row.key = key ∧ row.activeMarker = true

variable {t next : LeaseTable} {timed : TimedCall} {key : Key} {original : RouteState} {id : String}

theorem Running.marked (h : t.Running key id) : t.Marked key id := by
  obtain ⟨row, hl, hk, hm, -⟩ := h
  exact ⟨row, hl, hk, hm⟩

theorem Marked.active (h : t.Marked key id) : t.activeRow key ≠ none := by
  obtain ⟨row, hl, hk, hm⟩ := h
  intro hnone
  have hunmarked := activeRow_eq_none_iff.mp hnone row (t.keyed id row hl ▸ hl) hk
  rw [hm] at hunmarked
  cases hunmarked

theorem Marked.untouched (h : t.Marked key id) (heffect : Effect t timed next)
    (htarget : timed.call.target ≠ some id)
    (hrow : ∀ row, t.rows.lookup id = some row → row.ofLeaseCall) : next.Marked key id := by
  obtain ⟨row, hl, hk, hm⟩ := h
  exact ⟨row, heffect.untouched hl htarget (.inl (hrow row hl).1), hk, hm⟩

-- A claim leaves the marker.
theorem Marked.claim {now : Time} {token owner : String} (h : t.Marked key id) :
    (t.respond ⟨now, .claimRecovery id token owner⟩).2.Marked key id := by
  obtain ⟨row, hl, hk, hm⟩ := h
  have hid := t.keyed id row hl
  simp only [respond, dbClaimRecovery, hl]
  split
  · exact ⟨row, hl, hk, hm⟩
  split
  · exact ⟨row, hl, hk, hm⟩
  split
  · exact ⟨row, hl, hk, hm⟩
  split
  · exact ⟨row, hl, hk, hm⟩
  · exact ⟨row, hl, hk, hm⟩
  · refine ⟨(RowUpdate.claimed now owner).apply row, ?_, hk, hm⟩
    rw [committed, lookup_update, hl, hid]
    simp [hid]

theorem Faithful.effect (h : t.Faithful key original) (heffect : Effect t timed next)
    (hrequest : ∀ leaseId token request, timed.call = .tryAcquire leaseId token request →
      t.activeRow request.key = none → request.key = key → Restores original request.originalState) :
    next.Faithful key original := by
  intro id row hl hm hk
  rcases heffect.new hl with ⟨before, hb, hg, hmark⟩ | ⟨token, request, hcall, hfree, -, rfl⟩ |
    ⟨token, other, reason, -, rfl⟩
  · have hkey : before.key = key := (congrArg Grant.key hg).symm.trans hk
    rw [show row.originalState = before.originalState from congrArg Grant.original hg]
    exact h id before hb (hmark hm) hkey
  · exact hrequest id token request hcall hfree hk
  · cases hm

end LeaseTable

-- What a lifecycle will restore, and what a recovery restores, is the original
-- state; a recovery that has restored it finds it in place.
structure Task.Faithful (key : Key) (original : RouteState) (view : View) (task : Task) : Prop where
  saved : ∀ pc held, task.lifecycleOn key = some pc → pc.held = some held →
    held.current.state = original
  frame : ∀ frame, task.frame = some frame → ∀ lease ∈ frame.leases, lease.key = key →
    Restores original lease.originalState
  undone : ∀ lease rest reports pc, task.frame = some (.round lease rest reports pc) →
    pc.undone = true → lease.key = key → view.routes key = original

abbrev World.Faithful (key : Key) (original : RouteState) (w : World) : Prop :=
  Annotated (fun (view : View) => view.store.Faithful key original)
    (fun view (call : Call) => call.task.Faithful key original view) (fun _ _ => True)
    w.shared.view w.calls

namespace Task

variable {key : Key} {task : Task} {ids : Ids} {await : Await} {answer : Answer}
  {resumed : Resumed Task}

theorem temporary_iff : task.temporary key = true ↔
    ∃ args pc, task = .lifecycle key args pc ∧ pc.installed = true := by
  rw [temporary, Option.any_eq_true]
  constructor
  · rintro ⟨pc, hpc, hinstalled⟩
    obtain ⟨args, rfl⟩ := lifecycleOn_eq_some hpc
    exact ⟨args, pc, rfl, hinstalled⟩
  · rintro ⟨args, pc, rfl, hinstalled⟩
    exact ⟨pc, lifecycleOn_self key args pc, hinstalled⟩

theorem enabling_iff : task.enabling key = true ↔
    ∃ args held, task = .lifecycle key args (.enable held) := by
  constructor
  · intro h
    unfold enabling at h
    split at h
    next held hpc =>
      obtain ⟨args, rfl⟩ := lifecycleOn_eq_some hpc
      exact ⟨args, held, rfl⟩
    next => cases h
  · rintro ⟨args, held, rfl⟩
    rw [enabling, lifecycleOn_self]

-- An enabling that is done, or in effect, is in effect until the route is restored.
theorem temporary_of_resume (hawait : task.await ids = some await)
    (h : task.temporary key = true ∧ await.mutates ≠ some key ∨ task.enabling key = true)
    (hresume : task.resume ids answer = some resumed) : resumed.next.temporary key = true := by
  rcases h with ⟨htemporary, hother⟩ | henabling
  · obtain ⟨args, pc, rfl, hinstalled⟩ := temporary_iff.mp htemporary
    obtain ⟨after, hnext, hgoes⟩ := lifecycle_resume hresume
    rcases Lifecycle.installed_of_goes hgoes (.inl hinstalled) with hafter | ⟨held, work, watch, rfl⟩
    · exact temporary_iff.mpr ⟨args, after, hnext, hafter⟩
    · obtain rfl := Option.some.inj hawait
      exact absurd (mutates_restoreAwait _ _) hother
  · obtain ⟨args, held, rfl⟩ := enabling_iff.mp henabling
    obtain ⟨after, hnext, hgoes⟩ := lifecycle_resume hresume
    rcases Lifecycle.installed_of_goes hgoes (.inr ⟨held, rfl⟩) with hafter | ⟨_, _, _, hpc⟩
    · exact temporary_iff.mpr ⟨args, after, hnext, hafter⟩
    · cases hpc

theorem temporary_of_cancel (h : task.temporary key = true ∨ task.enabling key = true)
    (hcancel : task.cancel = some resumed) : resumed.next.temporary key = true := by
  have hpc : ∃ args pc, task = .lifecycle key args pc ∧
      (pc.installed = true ∨ ∃ held, pc = .enable held) := by
    rcases h with htemporary | henabling
    · obtain ⟨args, pc, rfl, hinstalled⟩ := temporary_iff.mp htemporary
      exact ⟨args, pc, rfl, .inl hinstalled⟩
    · obtain ⟨args, held, rfl⟩ := enabling_iff.mp henabling
      exact ⟨args, _, rfl, .inr ⟨held, rfl⟩⟩
  obtain ⟨args, pc, rfl, hpc⟩ := hpc
  obtain ⟨after, hnext, hcancelled⟩ := lifecycle_cancel hcancel
  exact temporary_iff.mpr ⟨args, after, hnext, Lifecycle.installed_of_cancelled hcancelled hpc⟩

theorem Faithful.cancel {original : RouteState} {before view : View}
    (h : task.Faithful key original before) (hcancel : task.cancel = some resumed) :
    resumed.next.Faithful key original view where
  saved pc held hpc hheld := by
    obtain ⟨args, before, rfl, hcancelled⟩ := lifecycle_of_cancel hcancel hpc
    exact h.saved before held (lifecycleOn_self key args before)
      (Lifecycle.held_of_cancelled hcancelled hheld)
  frame frame hframe := by
    rw [frame_of_cancel hcancel] at hframe
    cases hframe
  undone lease rest reports pc hframe := by
    rw [frame_of_cancel hcancel] at hframe
    cases hframe

end Task

theorem Entry.faithful {key : Key} {original : RouteState} {view : View} (entry : Entry) :
    entry.task.Faithful key original view := by
  cases entry with
  | lifecycle other args =>
      refine ⟨fun pc held hpc hheld => ?_, fun frame hframe => (by cases hframe),
        fun _ _ _ _ hframe => (by cases hframe)⟩
      obtain ⟨args, he⟩ := Task.lifecycleOn_eq_some hpc
      cases he
      cases hheld
  | serialised other args =>
      exact ⟨fun pc held hpc => (by cases hpc), fun frame hframe => (by cases hframe),
        fun _ _ _ _ hframe => (by cases hframe)⟩
  | recovery managerId connectors =>
      refine ⟨fun pc held hpc => (by cases hpc), fun frame hframe lease hm => ?_,
        fun _ _ _ _ hframe => (by cases hframe)⟩
      cases hframe
      cases hm

namespace World

-- The route has its original state, or a lifecycle whose lease is still marked
-- has yet to restore it.
def Installed (key : Key) (original : RouteState) (w : World) : Prop :=
  w.shared.routes key = original ∨
  ∃ id call pc held, w.calls id = some call ∧ call.task.lifecycleOn key = some pc ∧
    pc.installed = true ∧ pc.working = some held ∧ w.shared.store.Marked key held.lease.leaseId

structure Tidy (key : Key) (original : RouteState) (w : World) : Prop where
  known : w.Known
  secure : w.Secure False key
  faithful : w.Faithful key original
  installed : w.Installed key original

section

variable {key : Key} {original : RouteState} {manager : Manager} {w next : World}
  {id i : CallId} {call other : Call} {ids : Ids} {await : Await} {answer : Answer} {t : Shared}
  {resumed : Resumed Task} {label : Label}

-- Where no lease of the key is active, nobody has a temporary state to undo.
theorem Installed.free (h : w.Installed key original)
    (hfree : w.shared.store.activeRow key = none) : w.shared.routes key = original := by
  rcases h with hroute | ⟨id, call, pc, held, -, -, -, -, hmarked⟩
  · exact hroute
  · exact absurd hfree hmarked.active

-- What a lifecycle brings to an acquisition that is granted is the original state.
theorem Tidy.granted (h : w.Tidy key original) {args : LifecycleArgs} {current : ProviderRoute}
    (hreread : Reread.reread key w call.task) (htask : call.task = .lifecycle key args (.acquire current))
    (hfree : w.shared.store.activeRow key = none) : current.state = original := by
  rw [htask] at hreread
  exact (hreread rfl hfree).trans (h.installed.free hfree)

theorem Tidy.store_faithful (h : w.Tidy key original) (hcall : w.calls id = some call)
    (hreread : Reread.reread key w call.task) (hawait : call.task.await ids = some await)
    (hperform : Shared.Performed w.shared await answer t) : t.store.Faithful key original := by
  rcases hperform.effect (Task.plain_of_await hawait) with hsame | ⟨c, rfl, heffect⟩
  · exact hsame ▸ h.faithful.shared
  refine LeaseTable.Faithful.effect h.faithful.shared heffect fun leaseId token request hc hfree hk => ?_
  subst hc
  obtain ⟨-, -, ⟨other, args, current, htask, rfl⟩ | ⟨other, args, current, htask, rfl⟩⟩ :=
    Task.acquiring_of_await hawait
  · obtain rfl : other = key := hk
    exact ⟨_, current, rfl, h.granted hreread htask hfree⟩
  · have halone := (h.secure.thread id call hcall).alone
    rw [htask, Task.serialisedOn, decide_eq_false_iff_not] at halone
    exact absurd hk halone

-- An operation on the route of the key enables it, or brings the original state back.
theorem Tidy.route_after (h : w.Tidy key original) (hmanager : manager.Restorable key original)
    (hcall : w.calls id = some call) (hawait : call.task.await ids = some await)
    (hserved : manager.Served key w.shared t await answer) (hmutates : await.mutates = some key)
    (henabling : call.task.enabling key = false) : t.routes key = original := by
  have hfaithful := h.faithful.thread id call hcall
  have hmutating := Task.mutating_of_await hawait hmutates
  generalize htask : call.task = task at hmutating
  rw [htask] at hfaithful henabling
  cases hmutating with
  | @enable args held => simp [Task.enabling, Task.lifecycleOn_self] at henabling
  | @restore args held work watch =>
      have hsaved := hfaithful.saved _ held (Task.lifecycleOn_self key args _) rfl
      exact route_restored hmanager ⟨_, held.current, rfl, hsaved⟩ hserved
  | @recover _ lease claimed owner rest reports hframe hkey =>
      obtain ⟨-, hgrant⟩ :=
        (h.known.frame hcall (htask ▸ hframe)).copy lease rest reports _ claimed rfl rfl
      have hlease : lease.key = key := (congrArg Grant.key hgrant).symm.trans hkey
      exact route_restored hmanager (hfaithful.frame _ hframe lease List.mem_cons_self hlease) hserved
  | mutate =>
      have halone := (h.secure.thread id call hcall).alone
      rw [htask] at halone
      simp [Task.serialisedOn] at halone

-- Nobody enables the route while a recovery has its lease claimed.
theorem Tidy.undone_kept (h : w.Tidy key original) (hmanager : manager.Restorable key original)
    (hcall : w.calls id = some call) (hlive : call.crashed = false)
    (hawait : call.task.await ids = some await)
    (hperform : Shared.Performed w.shared await answer t)
    (hserved : manager.Served key w.shared t await answer) (hother : w.calls i = some other)
    {lease : ProviderRouteLease} {rest : List ProviderRouteLease} {reports : List RecoveryReport}
    {pc : RecoverPc} (hframe : other.task.frame = some (.round lease rest reports pc))
    (hundone : pc.undone = true) (hkey : lease.key = key) : t.routes key = original := by
  by_cases hmutates : await.mutates = some key
  swap
  · exact (Manager.routes_of_performed hperform hmutates).trans
      ((h.faithful.thread i other hother).undone lease rest reports pc hframe hundone hkey)
  by_cases henabling : call.task.enabling key = true
  swap
  · exact h.route_after hmanager hcall hawait hserved hmutates (by simpa using henabling)
  exfalso
  obtain ⟨args, held, htask⟩ := Task.enabling_iff.mp henabling
  have hsecure := h.secure.thread id call hcall
  rw [hlive] at hsecure
  have hrunning := hsecure.running rfl (.enable held) held
    (htask ▸ Task.lifecycleOn_self key args _) rfl
  obtain ⟨claimed, owner, hclaimed, hcopy⟩ := RecoverPc.claimed_of_undone hundone
  obtain ⟨-, hgrant⟩ := (h.known.frame hother hframe).copy lease rest reports pc claimed rfl hcopy
  exact hrunning.not_recovering ((h.secure.thread i other hother).recovering claimed owner
    (Task.claimed_of_frame hframe hclaimed) ((congrArg Grant.key hgrant).trans hkey))

-- A working lifecycle that does not move keeps its marker, until a recovery that
-- has restored the route takes it away.
theorem Tidy.marked_kept (h : w.Tidy key original) (hcall : w.calls id = some call)
    (hawait : call.task.await ids = some await)
    (hperform : Shared.Performed w.shared await answer t) (hne : i ≠ id)
    (hother : w.calls i = some other) {pc : LifecyclePc} {held : Held}
    (hpc : other.task.lifecycleOn key = some pc) (hworking : pc.working = some held)
    (hmarked : w.shared.store.Marked key held.lease.leaseId) :
    t.store.Marked key held.lease.leaseId ∨ t.routes key = original := by
  have hholding := Task.holding_of_lifecycleOn hpc (LifecyclePc.held_of_working hworking)
  have hrow : ∀ row, w.shared.store.rows.lookup held.lease.leaseId = some row → row.ofLeaseCall := by
    obtain ⟨⟨known, hk, -, hof⟩, -⟩ := (h.known.thread i other hother).holding _ _ hholding
    exact fun row hl => Option.some.inj (hk.symm.trans hl) ▸ hof
  rcases hperform.effect (Task.plain_of_await hawait) with hsame | ⟨c, rfl, heffect⟩
  · exact .inl (hsame ▸ hmarked)
  by_cases htarget : c.target = some held.lease.leaseId
  swap
  · exact .inl (hmarked.untouched heffect htarget hrow)
  have hapart : ∀ k lease, call.task.holding = some (k, lease) →
      lease.leaseId ≠ held.lease.leaseId := fun k lease hh =>
    (h.secure.pair id i call other (Ne.symm hne) hcall hother).held k key lease held.lease hh hholding
  have hfound := hmarked
  obtain ⟨row, hl, hk, hm⟩ := hfound
  have htargeting := Task.targeting_of_await hawait htarget
  generalize htask : call.task = task at htargeting
  cases htargeting with
  | renew hid => exact (hapart _ _ (by rw [htask]; rfl) hid).elim
  | release hid => exact (hapart _ _ (by rw [htask]; rfl) hid).elim
  | releaseMutation hid => exact (hapart _ _ (by rw [htask]; rfl) hid).elim
  | skip hframe hid => exact (h.secure.no_skip h.known hcall (htask ▸ hframe) (hid ▸ hl) hk).elim
  | claim =>
      rw [hperform.respond_store nofun]
      exact .inl hmarked.claim
  | @mark _ lease claimed rest reports owner token status outcome details hframe hid =>
      have hknown := h.known.frame hcall (htask ▸ hframe)
      obtain ⟨-, hgrant⟩ := hknown.copy lease rest reports _ claimed rfl rfl
      have hkey : lease.key = key := (congrArg Grant.key hgrant).symm.trans
        (((hknown.claimed rfl).key_eq (hid ▸ hl)).trans hk)
      exact .inr ((Manager.routes_of_performed hperform nofun).trans
        ((h.faithful.thread id call hcall).undone lease rest reports _ (htask ▸ hframe) rfl hkey))
  | failMark hframe hid =>
      obtain ⟨settled, hs, hnone⟩ :=
        (h.secure.thread id call hcall).settled _ _ _ _ (htask ▸ hframe) rfl
      obtain rfl := Option.some.inj (hl.symm.trans (hid ▸ hs))
      rw [hm] at hnone
      cases hnone

-- A lifecycle with an enabling in effect has its lease marked.
theorem Installed.of_temporary (hsecure : w.Secure False key) (hcall : w.calls id = some call)
    (hlive : call.crashed = false) (h : call.task.temporary key = true) :
    w.Installed key original := by
  obtain ⟨args, pc, htask, hinstalled⟩ := Task.temporary_iff.mp h
  obtain ⟨held, hworking⟩ := Lifecycle.working_of_installed hinstalled
  have hpc : call.task.lifecycleOn key = some pc := htask ▸ Task.lifecycleOn_self key args pc
  have hrunning := hsecure.thread id call hcall
  rw [hlive] at hrunning
  exact .inr ⟨id, call, pc, held, hcall, hpc, hinstalled, hworking,
    LeaseTable.Running.marked (hrunning.running rfl pc held hpc hworking)⟩

-- A call performs the operation it awaits, and goes on or is cancelled.
theorem Tidy.perform_installed (h : w.Tidy key original) (hmanager : manager.Restorable key original)
    (hsecure : (w.put id call t resumed).Secure False key) (hcall : w.calls id = some call)
    (hlive : call.crashed = false) (hawait : call.task.await ids = some await)
    (hperform : Shared.Performed w.shared await answer t)
    (hserved : manager.Served key w.shared t await answer)
    (hnext : call.task.temporary key = true ∧ await.mutates ≠ some key ∨
      call.task.enabling key = true → resumed.next.temporary key = true) :
    (w.put id call t resumed).Installed key original := by
  have hview := put_view w id call t resumed
  have hroutes : (w.put id call t resumed).shared.routes key = t.routes key :=
    congrFun (congrArg View.routes hview) key
  have hself : resumed.next.temporary key = true → (w.put id call t resumed).Installed key original :=
    fun htemporary => .of_temporary hsecure (put_self w id call t resumed) hlive htemporary
  by_cases hmutates : await.mutates = some key
  · by_cases henabling : call.task.enabling key = true
    · exact hself (hnext (.inr henabling))
    · exact .inl (hroutes.trans
        (h.route_after hmanager hcall hawait hserved hmutates (by simpa using henabling)))
  · rcases h.installed with hroute | ⟨i, other, pc, held, hother, hpc, hinstalled, hworking, hmarked⟩
    · exact .inl (hroutes.trans ((Manager.routes_of_performed hperform hmutates).trans hroute))
    by_cases hi : i = id
    · subst hi
      obtain rfl := Option.some.inj (hcall.symm.trans hother)
      obtain ⟨args, htask⟩ := Task.lifecycleOn_eq_some hpc
      exact hself (hnext (.inl ⟨Task.temporary_iff.mpr ⟨args, pc, htask, hinstalled⟩, hmutates⟩))
    rcases h.marked_kept hcall hawait hperform hi hother hpc hworking hmarked with hkept | hroute
    · have hstore : (w.put id call t resumed).shared.store = t.store := congrArg View.store hview
      exact .inr ⟨i, other, pc, held, (put_other w call t resumed hi).trans hother, hpc, hinstalled,
        hworking, hstore ▸ hkept⟩
    · exact .inl (hroutes.trans hroute)

theorem Tidy.own_faithful (h : w.Tidy key original) (hmanager : manager.Restorable key original)
    (hreread : Reread.reread key w call.task) (hcall : w.calls id = some call)
    (hlive : call.crashed = false) (hawait : call.task.await ids = some await)
    (hperform : Shared.Performed w.shared await answer t)
    (hserved : manager.Served key w.shared t await answer)
    (hresume : call.task.resume ids answer = some resumed) :
    resumed.next.Faithful key original t.view where
  saved pc held hpc hheld := by
    obtain ⟨args, before, htask, hgoes⟩ := Task.lifecycle_of_resume hresume hpc
    rcases Lifecycle.held_of_goes hgoes hheld with hsame | ⟨late, rfl, rfl⟩
    · exact (h.faithful.thread id call hcall).saved before held
        (htask ▸ Task.lifecycleOn_self key args before) hsame
    · rw [htask] at hawait
      cases hawait
      exact h.granted hreread htask (LeaseTable.acquire_reply hperform.lease_reply.1).2.1
  frame after hframe lease hm hk := by
    rcases Task.frame_of_resume hresume hframe with rfl | ⟨frame, hf, hgoes⟩
    · cases hm
    rcases Recovery.leases_of_goes hgoes lease hm with hsame | ⟨rfl, found, late, rfl, hlisted⟩
    · exact (h.faithful.thread id call hcall).frame frame hf lease hsame hk
    · obtain rfl := Option.some.inj (hawait.symm.trans (Task.await_frame hf))
      obtain ⟨row, hl, hmark, -, -, rfl⟩ :=
        LeaseTable.mem_listExpiredActive.mp (hperform.listing.1 lease hlisted)
      exact h.faithful.shared row.id row hl hmark hk
  undone lease rest reports pc hframe hundone hkey := by
    rcases Task.frame_of_resume hresume hframe with hlist | ⟨frame, hf, hgoes⟩
    · cases hlist
    obtain ⟨claimed, owner, rfl | rfl⟩ := Recovery.undone_of_goes hgoes hundone
    · obtain rfl := Option.some.inj (hawait.symm.trans (Task.await_frame hf))
      have henabling : call.task.enabling key = false := by
        by_contra henabling
        obtain ⟨args, held, htask⟩ := Task.enabling_iff.mp (by simpa using henabling)
        rw [htask] at hf
        cases hf
      obtain ⟨-, hgrant⟩ := (h.known.frame hcall hf).copy lease rest reports _ claimed rfl rfl
      have hclaimed : claimed.key = key := (congrArg Grant.key hgrant).trans hkey
      exact h.route_after hmanager hcall (Task.await_frame hf) hserved
        ((Task.mutates_restoreAwait claimed.key lease.originalState).trans (congrArg some hclaimed))
        henabling
    · exact h.undone_kept hmanager hcall hlive hawait hperform hserved hcall hf rfl hkey

theorem Tidy.faithful_step (h : w.Tidy key original) (hmanager : manager.Restorable key original)
    (hserves : w.Serves manager key label) (hreread : w.Reread key label)
    (hstep : Step w label next) : next.Faithful key original := by
  cases hstep with
  | start hnew =>
      exact h.faithful.move h.faithful.shared (Entry.faithful _) (fun _ _ _ _ hm => hm) (by simp)
  | @answer id call ids choice await answer shared resumed hcall hlive hawait hperform hresume =>
      have hserved := Manager.served hperform
        (hserves await (awaited_of_call hcall hlive ▸ hawait))
      have hperform := Shared.performed hperform
      have hreread := hreread call (live_of_call hcall hlive)
      rw [World.Faithful, World.put_view]
      refine h.faithful.move (h.store_faithful hcall hreread hawait hperform)
        (h.own_faithful hmanager hreread hcall hlive hawait hperform hserved hresume)
        (fun j m _ hm hf => ⟨hf.saved, hf.frame, fun _ _ _ _ hframe hundone hkey => ?_⟩) (by simp)
      exact h.undone_kept hmanager hcall hlive hawait hperform hserved hm hframe hundone hkey
  | @lose id call ids choice await answer shared resumed hcall hlive hawait hperform hopen hcancel =>
      have hserved := Manager.served hperform
        (hserves await (awaited_of_call hcall hlive ▸ hawait))
      have hperform := Shared.performed hperform
      have hreread := hreread call (live_of_call hcall hlive)
      rw [World.Faithful, World.put_view]
      refine h.faithful.move (h.store_faithful hcall hreread hawait hperform)
        ((h.faithful.thread id call hcall).cancel hcancel)
        (fun j m _ hm hf => ⟨hf.saved, hf.frame, fun _ _ _ _ hframe hundone hkey => ?_⟩) (by simp)
      exact h.undone_kept hmanager hcall hlive hawait hperform hserved hm hframe hundone hkey
  | cancel hcall hlive hcancel =>
      rw [World.Faithful, World.put_view]
      exact h.faithful.move h.faithful.shared ((h.faithful.thread _ _ hcall).cancel hcancel)
        (fun _ _ _ _ hm => hm) (by simp)
  | @crash process =>
      refine h.faithful.relabel (f := fun call => if call.process = process then
        { call with crashed := true } else call) (fun m hm => ?_) (fun _ _ h => h)
      split <;> exact hm
  | tick => exact h.faithful
  | @clearBlock cleared =>
      have heffect : LeaseTable.Effect w.shared.store ⟨w.shared.clock, .clearBlock cleared⟩
          (w.shared.store.clearBlock cleared) := .cleared rfl
      exact h.faithful.shift (LeaseTable.Faithful.effect h.faithful.shared heffect nofun)
        fun _ _ _ hm => ⟨hm.saved, hm.frame, hm.undone⟩

theorem Tidy.installed_step (h : w.Tidy key original) (hmanager : manager.Restorable key original)
    (hserves : w.Serves manager key label) (hsecure : next.Secure False key)
    (hstep : Step w label next) : next.Installed key original := by
  cases hstep with
  | @start id process entry hnew =>
      refine h.installed.imp_right fun ⟨i, call, pc, held, hcall, hrest⟩ =>
        ⟨i, call, pc, held, ?_, hrest⟩
      have hne : i ≠ id := by
        rintro rfl
        rw [hnew] at hcall
        cases hcall
      exact (Function.update_of_ne hne _ _).trans hcall
  | @answer id call ids choice await answer shared resumed hcall hlive hawait hperform hresume =>
      have hserved := Manager.served hperform
        (hserves await (awaited_of_call hcall hlive ▸ hawait))
      exact h.perform_installed hmanager hsecure hcall hlive hawait (Shared.performed hperform) hserved
        fun htemporary => Task.temporary_of_resume hawait htemporary hresume
  | @lose id call ids choice await answer shared resumed hcall hlive hawait hperform hopen hcancel =>
      have hserved := Manager.served hperform
        (hserves await (awaited_of_call hcall hlive ▸ hawait))
      exact h.perform_installed hmanager hsecure hcall hlive hawait (Shared.performed hperform) hserved
        fun htemporary => Task.temporary_of_cancel (htemporary.imp_left And.left) hcancel
  | @cancel id call resumed hcall hlive hcancel =>
      have hview := put_view w id call w.shared resumed
      rcases h.installed with hroute | ⟨i, other, pc, held, hother, hpc, hinstalled, hworking, hmarked⟩
      · exact .inl ((congrFun (congrArg View.routes hview) key).trans hroute)
      by_cases hi : i = id
      · subst hi
        obtain rfl := Option.some.inj (hcall.symm.trans hother)
        obtain ⟨args, htask⟩ := Task.lifecycleOn_eq_some hpc
        exact .of_temporary hsecure (put_self w i call w.shared resumed) hlive
          (Task.temporary_of_cancel (.inl (Task.temporary_iff.mpr ⟨args, pc, htask, hinstalled⟩)) hcancel)
      · have hstore : (w.put id call w.shared resumed).shared.store = w.shared.store :=
          congrArg View.store hview
        exact .inr ⟨i, other, pc, held, (put_other w call w.shared resumed hi).trans hother, hpc,
          hinstalled, hworking, hstore ▸ hmarked⟩
  | @crash process =>
      refine h.installed.imp_right fun ⟨i, call, pc, held, hcall, hpc, hrest⟩ =>
        ⟨i, _, pc, held, Option.map_eq_some_iff.mpr ⟨call, hcall, rfl⟩, ?_, hrest⟩
      split <;> exact hpc
  | tick => exact h.installed
  | @clearBlock cleared =>
      have heffect : LeaseTable.Effect w.shared.store ⟨w.shared.clock, .clearBlock cleared⟩
          (w.shared.store.clearBlock cleared) := .cleared rfl
      refine h.installed.imp_right
        fun ⟨i, call, pc, held, hcall, hpc, hinstalled, hworking, hmarked⟩ =>
          ⟨i, call, pc, held, hcall, hpc, hinstalled, hworking,
            hmarked.untouched heffect nofun fun row hl => ?_⟩
      obtain ⟨⟨known, hk, -, hof⟩, -⟩ := (h.known.thread i call hcall).holding _ _
        (Task.holding_of_lifecycleOn hpc (LifecyclePc.held_of_working hworking))
      exact Option.some.inj (hk.symm.trans hl) ▸ hof

theorem Tidy.step (h : w.Tidy key original) (hmanager : manager.Restorable key original)
    (hserves : w.Serves manager key label) (hfresh : w.FreshOwner label)
    (hkept : w.LeaseKept key label) (hreread : w.Reread key label)
    (hstep : w.step label = some next) : next.Tidy key original := by
  have hsecure := h.secure.step h.known hserves.promises hkept False.elim hfresh hstep
  exact ⟨h.known.step hstep, hsecure,
    h.faithful_step hmanager hserves hreread (World.step_cases hstep),
    h.installed_step hmanager hserves hsecure (World.step_cases hstep)⟩

theorem tidy_initial (routes : Key → RouteState) : (initial routes).Tidy key (routes key) where
  known := known_initial routes
  secure := secure_initial routes
  faithful := ⟨fun id row hl => (by cases hl), fun _ _ hc => (by cases hc), fun _ _ _ _ _ _ _ => trivial⟩
  installed := .inl rfl

theorem Tidy.routeKept (h : w.Tidy key original) : w.RouteKept key original where
  saved id call pc held hcall := (h.faithful.thread id call hcall).saved pc held
  restored hended := by
    rcases h.installed with hroute | ⟨id, call, pc, held, hcall, hpc, hinstalled, -, -⟩
    · exact hroute
    · have hend := hended id call pc hcall hpc
      cases pc <;> cases hend
      cases hinstalled

-- In every run that keeps the leases of working lifecycles, and in which a reading
-- that a lifecycle brings to a free lease is not stale, the original state comes back.
theorem route_kept {manager : Manager} {key : Key} {routes : Key → RouteState}
    {labels : List Label} {w : World} (hmanager : manager.Restorable key (routes key))
    (hserves : Along World.step (Serves manager key) (initial routes) labels)
    (hfresh : Along World.step FreshOwner (initial routes) labels)
    (hkept : Along World.step (LeaseKept key) (initial routes) labels)
    (hreread : Along World.step (Reread key) (initial routes) labels)
    (hrun : run World.step (initial routes) labels = some w) : w.RouteKept key (routes key) := by
  have hcond := (hserves.and hfresh).and (hkept.and hreread)
  have hstep : ∀ s label t, s.Tidy key (routes key) →
      (Serves manager key s label ∧ FreshOwner s label) ∧ LeaseKept key s label ∧ Reread key s label →
      World.step s label = some t → t.Tidy key (routes key) :=
    fun s label t h hc hs => h.step hmanager hc.1.1 hc.1.2 hc.2.1 hc.2.2 hs
  exact (run_invariant hstep (tidy_initial routes) hcond hrun).routeKept

end

end World

section Samples

-- Both lifecycles read the route before the first one enables it; the second one
-- is refused the lease until the first one has restored the route.
def undisturbed : List Label :=
  opening 1 1 "second" ++ answers 1 "second" [.reading (readingOf routeOff)] ++ executingRun ++
  answers 1 "second" [.plain] ++
  answers 0 "first" [.value .none, switched routeOff, .reading (readingOf routeOff), .plain] ++
  answers 1 "second"
    [.plain, .plain, switched routeOn, .reading (readingOf routeOn), .plain, .value .none,
      switched routeOff, .reading (readingOf routeOff), .plain]

theorem route_kept_undisturbed : ∃ w, run World.step (World.initial fireConnect.disable) undisturbed =
    some w ∧ w.RouteKept openCode routeOff := by
  obtain ⟨w, hrun⟩ := Option.isSome_iff_exists.mp
    (show (run World.step (World.initial fireConnect.disable) undisturbed).isSome by decide +kernel)
  have hserves : Along World.step (World.Serves fireConnect openCode)
      (World.initial fireConnect.disable) undisturbed := by decide +kernel
  have htimely : Along World.step World.Timely (World.initial fireConnect.disable) undisturbed := by
    decide +kernel
  exact ⟨w, hrun, World.route_kept (.inl rfl) hserves (by decide +kernel)
    (htimely.mono fun _ _ h => h.leaseKept) (by decide +kernel) hrun⟩

-- The second lifecycle inspects the route while the first one has it enabled.
def leaking : List Label :=
  opening 0 0 "first" ++
  answers 0 "first" [.reading (readingOf routeOff), .plain, switched routeOn] ++
  opening 1 1 "second" ++ answers 1 "second" [.reading (readingOf routeOn)] ++
  answers 0 "first"
    [.reading (readingOf routeOn), .plain, .value .none, switched routeOff,
      .reading (readingOf routeOff), .plain] ++
  answers 1 "second"
    [.plain, .plain, .value .none, switched routeOn, .reading (readingOf routeOn), .plain]

theorem route_leaked : ∃ w, run World.step (World.initial fireConnect.disable) leaking = some w ∧
    fireConnect.Restorable openCode routeOff ∧
    Along World.step (World.Serves fireConnect openCode) (World.initial fireConnect.disable) leaking ∧
    (∀ id call pc, w.calls id = some call → call.task.lifecycleOn openCode = some pc →
      pc.ended = true) ∧
    w.shared.routes openCode ≠ routeOff := by
  obtain ⟨w, hrun⟩ := Option.isSome_iff_exists.mp
    (show (run World.step (World.initial fireConnect.disable) leaking).isSome by decide +kernel)
  have hroute : (run World.step (World.initial fireConnect.disable) leaking).map
      (fun w => w.shared.routes openCode) = some routeOn := by decide +kernel
  have hended : ∀ id ∈ [0, 1], ((run World.step (World.initial fireConnect.disable) leaking).bind
      fun w => w.calls id).all (fun call =>
        (call.task.lifecycleOn openCode).all LifecyclePc.ended) = true := by decide +kernel
  refine ⟨w, hrun, .inl rfl, by decide +kernel, fun id call pc hcall hpc => ?_, ?_⟩
  · have hstarted : id ∈ [0, 1] := World.started_of_call rfl hrun (by simp [hcall])
    have hfinished := hended id hstarted
    simpa [hrun, hcall, hpc] using hfinished
  · rw [hrun, Option.map_some, Option.some.injEq] at hroute
    rw [hroute]
    decide

end Samples

end JoyMesh.ProviderRoutes
