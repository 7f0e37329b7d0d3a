import JoyMesh.ProviderRoutes.Holding
import JoyMesh.ProviderRoutes.Manager

namespace JoyMesh.ProviderRoutes

open JoyMesh.Library

-- The route is on for the provider, and for the model if one is asked for.
structure Fits (args : LifecycleArgs) (route : RouteState) : Prop where
  enabled : route.enabled = true
  provider : route.providerId = args.targetProviderId
  model : ∀ model, args.modelId = some model → model ≠ "" →
    modelMatches route.modelId (some model) = true

theorem modelMatches_self (model : String) : modelMatches (some model) (some model) = true := by
  simp [modelMatches]

variable {args : LifecycleArgs}

theorem fits_of_not_needed {route : RouteState}
    (h : needEnable route args.targetProviderId args.modelId = false) : Fits args route := by
  simp only [needEnable, Bool.not_eq_false', Bool.and_eq_true, Bool.or_eq_true,
    decide_eq_true_eq] at h
  obtain ⟨⟨henabled, hprovider⟩, hmodel⟩ := h
  refine ⟨henabled, hprovider, fun model hasked _ => ?_⟩
  rcases hmodel with (hnone | hsame) | hmatch
  · rw [hasked] at hnone
    cases hnone
  · rw [hsame, hasked]
    exact modelMatches_self model
  · exact hasked ▸ hmatch

theorem Manager.fits_enable (manager : Manager) (key : Key)
    (h : args.targetProviderId = manager.providerId) (route : RouteState) :
    Fits args (manager.enable key (chosenModel args.modelId args.approvalModelId) route) where
  enabled := manager.enabled_enable ..
  provider := (manager.provider_enable ..).trans h.symm
  model model hasked hne := by
    rw [hasked, chosenModel_some hne]
    exact manager.model_enable key model route hne

namespace LifecyclePc

-- What a lifecycle holds that has still to restore the route.
def working : LifecyclePc → Option Held
  | enable held => some held
  | verify held => some held
  | renew held => some held
  | execute held => some held
  | restore held _ _ => some held
  | _ => none

-- The stages after the route was found or made fit.
def routed : LifecyclePc → Bool
  | verify _ => true
  | renew _ => true
  | execute _ => true
  | _ => false

end LifecyclePc

namespace RecoverPc

-- The stages after the lease was resolved by a mark.
def settling : RecoverPc → Bool
  | block _ _ => true
  | failBlock _ => true
  | failMark _ => true
  | _ => false

end RecoverPc

namespace Task

def executing (key : Key) (task : Task) : Bool :=
  match task.lifecycleOn key with
  | some (.execute _) => true
  | _ => false

def claimed (task : Task) : Option (ProviderRouteLease × String) :=
  match task.frame with
  | some (.round _ _ _ pc) => pc.claimed
  | _ => none

end Task

-- The lease whose expiry the call looks at.
def LeaseCall.timed : LeaseCall → Option String
  | renew leaseId _ _ _ => some leaseId
  | claimRecovery leaseId _ _ => some leaseId
  | _ => none

namespace World

-- While a lifecycle of the key executes, no other call changes the route or
-- executes, and the route is the one that was asked for.
structure Exclusive (key : Key) (w : World) : Prop where
  alone : ∀ i j first second, i ≠ j → w.live i = some first → w.live j = some second →
    first.task.executing key = true → second.task.executing key ≠ true ∧
      ∀ ids await, second.task.await ids = some await → await.mutates ≠ some key
  fits : ∀ i call args held, w.live i = some call → call.task = .lifecycle key args (.execute held) →
    Fits args (w.shared.routes key)

-- No renewal and no claim finds the lease expired of a lifecycle that has still
-- to restore the route.
def LeaseKept (key : Key) (w : World) : Label → Prop
  | .answer id ids _ => kept id ids
  | .lose id ids _ => kept id ids
  | _ => True
where
  kept (id : CallId) (ids : Ids) : Prop :=
    ∀ call leaseId row, w.awaited id ids = some (.store call) → call.timed = some leaseId →
      w.shared.store.rows.lookup leaseId = some row → row.expiresAt ≤ w.shared.clock →
      ∀ other holder pc held, w.live other = some holder → holder.task.lifecycleOn key = some pc →
        pc.working = some held → held.lease.leaseId ≠ leaseId

-- A lifecycle that skips enabling acquires its lease when the route still needs
-- none, and one that enables asks for the provider of the manager.
def Fitting (manager : Manager) (key : Key) (w : World) : Label → Prop
  | .answer id _ _ => ∀ call ∈ w.live id, fitting call.task
  | _ => True
where
  fitting : Task → Prop
    | .lifecycle other args (.acquire current) =>
        other = key → w.shared.store.activeRow key = none →
        needEnable current.state args.targetProviderId args.modelId = false →
        needEnable (w.shared.routes key) args.targetProviderId args.modelId = false
    | .lifecycle other args (.enable _) => other = key → args.targetProviderId = manager.providerId
    | _ => True

-- A recovery claims under an owner id that no row has recorded.
def FreshOwner (w : World) : Label → Prop
  | .answer id ids _ => fresh id ids
  | .lose id ids _ => fresh id ids
  | _ => True
where
  fresh (id : CallId) (ids : Ids) : Prop :=
    match w.awaited id ids with
    | some (.store (.claimRecovery _ _ owner)) =>
        ∀ row ∈ w.shared.store.select fun _ => true,
          row.details.get "recovery_owner_id" ≠ .str owner
    | _ => True

instance {manager : Manager} {key : Key} {w : World} (task : Task) :
    Decidable (Fitting.fitting manager key w task) := by
  unfold Fitting.fitting
  split <;> infer_instance

instance {manager : Manager} {key : Key} {w : World} :
    ∀ label, Decidable (w.Fitting manager key label)
  | .answer id _ _ =>
      inferInstanceAs (Decidable (∀ call ∈ w.live id, Fitting.fitting manager key w call.task))
  | .start _ _ _ | .lose _ _ _ | .cancel _ | .crash _ | .tick _ | .clearBlock _ => .isTrue trivial

instance {w : World} (id : CallId) (ids : Ids) : Decidable (FreshOwner.fresh w id ids) :=
  have hfresh : ∀ awaited : Option Await, Decidable (match awaited with
      | some (.store (.claimRecovery _ _ owner)) =>
          ∀ row ∈ w.shared.store.select fun _ => true,
            row.details.get "recovery_owner_id" ≠ .str owner
      | _ => True) := fun awaited => by split <;> infer_instance
  hfresh (w.awaited id ids)

instance {w : World} : ∀ label, Decidable (w.FreshOwner label)
  | .answer id ids _ | .lose id ids _ => inferInstanceAs (Decidable (FreshOwner.fresh w id ids))
  | .start _ _ _ | .cancel _ | .crash _ | .tick _ | .clearBlock _ => .isTrue trivial

theorem FreshOwner.unrecorded {w : World} {id : CallId} {ids : Ids} {leaseId token owner : String}
    (h : FreshOwner.fresh w id ids)
    (hawait : w.awaited id ids = some (.store (.claimRecovery leaseId token owner)))
    {rowId : String} {row : ProviderRouteLeaseRow}
    (hl : w.shared.store.rows.lookup rowId = some row) :
    row.details.get "recovery_owner_id" ≠ .str owner := by
  rw [FreshOwner.fresh, hawait] at h
  exact h row (LeaseTable.mem_select.mpr ⟨w.shared.store.keyed rowId row hl ▸ hl, rfl⟩)

end World

-- No lease of the key is left unrestored when it expires.
def LeaseTable.Restoring (key : Key) (t : LeaseTable) : Prop :=
  ∀ id row, t.rows.lookup id = some row → row.key = key → row.grant.restoreOnExpiry ≠ .bool false

-- What a call of the key relies on. That the route fits is part of it in the runs
-- in which a skipped enabling was not needed.
structure Task.Secure (fitted : Prop) (key : Key) (view : View) (live : Bool) (task : Task) : Prop where
  running : live = true → ∀ pc held, task.lifecycleOn key = some pc → pc.working = some held →
    view.store.Running key held.lease.leaseId
  fits : fitted → live = true → ∀ args pc, task = .lifecycle key args pc → pc.routed = true →
    Fits args (view.routes key)
  recovering : ∀ claimed owner, task.claimed = some (claimed, owner) → claimed.key = key →
    view.store.Recovering key claimed.leaseId owner
  settled : ∀ lease rest reports pc, task.frame = some (.round lease rest reports pc) →
    pc.settling = true → view.store.Settled lease.leaseId
  skipping : ∀ lease rest reports, task.frame = some (.round lease rest reports .skip) →
    lease.details.get "restore_on_expiry" = .bool false
  alone : task.serialisedOn key = false

structure Task.Apart (key : Key) (first second : Task) : Prop where
  held : ∀ firstKey secondKey lease other, first.holding = some (firstKey, lease) →
    second.holding = some (secondKey, other) → lease.leaseId ≠ other.leaseId
  claimed : ∀ lease owner other otherOwner, first.claimed = some (lease, owner) →
    second.claimed = some (other, otherOwner) → lease.key = key → other.key = key →
    lease.leaseId ≠ other.leaseId

-- The leases of the key protect its calls from each other.
abbrev World.Secure (fitted : Prop) (key : Key) (w : World) : Prop :=
  Annotated (fun (view : View) => view.store.Restoring key)
    (fun view (call : Call) => call.task.Secure fitted key view !call.crashed)
    (fun first second => first.task.Apart key second.task) w.shared.view w.calls

section

variable {fitted : Prop} {key : Key} {view : View} {first second : Task} {held : Held} {task : Task}

theorem Task.Apart.symm (h : first.Apart key second) : second.Apart key first where
  held secondKey firstKey lease other hs hf := (h.held firstKey secondKey other lease hf hs).symm
  claimed lease owner other otherOwner hs hf hk hko :=
    (h.claimed other otherOwner lease owner hf hs hko hk).symm

theorem LifecyclePc.held_of_working {pc : LifecyclePc} (h : pc.working = some held) :
    pc.held = some held := by
  cases pc <;> first | exact h | cases h

theorem Task.holding_of_lifecycleOn {pc : LifecyclePc} (h : task.lifecycleOn key = some pc)
    (hheld : pc.held = some held) : task.holding = some (key, held.lease) := by
  obtain ⟨args, rfl⟩ := lifecycleOn_eq_some h
  rw [holding, hheld]
  rfl

theorem Task.claimed_of_frame {lease claimed : ProviderRouteLease} {owner : String}
    {rest : List ProviderRouteLease} {reports : List RecoveryReport} {pc : RecoverPc}
    (h : task.frame = some (.round lease rest reports pc))
    (hpc : pc.claimed = some (claimed, owner)) : task.claimed = some (claimed, owner) := by
  rw [Task.claimed, h]
  exact hpc

-- Next to a lifecycle that works on the route nobody else works on it or changes it.
theorem Task.Secure.working_alone {pc other : LifecyclePc} {otherHeld : Held}
    (hf : first.Secure fitted key view true) (hs : second.Secure fitted key view true)
    (hapart : first.Apart key second) (hpc : first.lifecycleOn key = some pc)
    (hworking : pc.working = some held) (hother : second.lifecycleOn key = some other)
    (hotherWorking : other.working = some otherHeld) : False := by
  have hid := (hf.running rfl pc held hpc hworking).unique
    (hs.running rfl other otherHeld hother hotherWorking)
  exact hapart.held key key held.lease otherHeld.lease
    (holding_of_lifecycleOn hpc (LifecyclePc.held_of_working hworking))
    (holding_of_lifecycleOn hother (LifecyclePc.held_of_working hotherWorking)) hid

theorem Task.Secure.mutating_alone {ids : Ids} {await : Await} {pc : LifecyclePc}
    (hf : first.Secure fitted key view true) (hs : second.Secure fitted key view true)
    (hapart : first.Apart key second) (hpc : first.lifecycleOn key = some pc)
    (hworking : pc.working = some held) (hawait : second.await ids = some await) :
    await.mutates ≠ some key := by
  intro hmutates
  cases mutating_of_await hawait hmutates with
  | enable => exact hf.working_alone hs hapart hpc hworking (lifecycleOn_self key _ _) rfl
  | restore => exact hf.working_alone hs hapart hpc hworking (lifecycleOn_self key _ _) rfl
  | recover hframe hkey =>
      have hrecovering := hs.recovering _ _ (claimed_of_frame hframe rfl) hkey
      exact (hf.running rfl pc held hpc hworking).not_recovering hrecovering
  | mutate => simpa [serialisedOn] using hs.alone

theorem Task.executing_iff :
    task.executing key = true ↔ ∃ held, task.lifecycleOn key = some (.execute held) := by
  unfold executing
  split
  next held hpc => exact ⟨fun _ => ⟨held, hpc⟩, fun _ => rfl⟩
  next hother => exact ⟨nofun, fun ⟨held, hpc⟩ => absurd hpc (hother held)⟩

theorem World.Secure.exclusive {w : World} (h : w.Secure True key) : w.Exclusive key where
  alone i j first second hij hfirst hsecond hexecuting := by
    obtain ⟨held, hexecuting⟩ := Task.executing_iff.mp hexecuting
    obtain ⟨hi, hfirst⟩ := live_eq_some hfirst
    obtain ⟨hj, hsecond⟩ := live_eq_some hsecond
    have hf := h.thread i first hi
    have hs := h.thread j second hj
    rw [hfirst] at hf
    rw [hsecond] at hs
    have hapart := h.pair i j first second hij hi hj
    constructor
    · intro hsecond
      obtain ⟨other, hother⟩ := Task.executing_iff.mp hsecond
      exact hf.working_alone hs hapart hexecuting rfl hother rfl
    · intro ids await hawait
      exact hf.mutating_alone hs hapart hexecuting rfl hawait
  fits i call args held hlive htask := by
    obtain ⟨hi, hlive⟩ := live_eq_some hlive
    have hcall := h.thread i call hi
    rw [hlive] at hcall
    exact hcall.fits trivial rfl args _ htask rfl

end

namespace Recovery

variable {ids : Ids} {frame : Recovery} {answer : Answer} {lease : ProviderRouteLease}
  {rest : List ProviderRouteLease} {reports : List RecoveryReport} {pc : RecoverPc}

-- A claim that a round has it had before its answer, or the answer granted it.
theorem claimed_of_goes {claimed : ProviderRouteLease} {owner : String}
    (h : Goes ids frame answer (.round lease rest reports pc))
    (hpc : pc.claimed = some (claimed, owner)) :
    (∃ before, frame = .round lease rest reports before ∧ before.claimed = some (claimed, owner) ∧
      ∀ outcome, before ≠ .mark claimed owner outcome) ∨
    frame = .round lease rest reports .claim ∧ owner = "recovery:" ++ ids.first ∧
      ∃ late, answer = .store (.lease (some claimed)) late := by
  cases h with
  | listed hstarts => cases hstarts <;> cases hpc
  | onward hstarts => cases hstarts <;> cases hpc
  | claimed =>
      cases hpc
      exact .inr ⟨rfl, rfl, _, rfl⟩
  | locked => exact .inl ⟨_, rfl, hpc, nofun⟩
  | mutated => exact .inl ⟨_, rfl, hpc, nofun⟩
  | settled hbefore => rcases hbefore with rfl | rfl <;> exact .inl ⟨_, rfl, hpc, nofun⟩
  | marked => cases hpc
  | unmarked => cases hpc
  | unblocked => cases hpc
  | failBlocked => cases hpc

-- A round settles its lease after the mark was answered.
theorem settling_of_goes (h : Goes ids frame answer (.round lease rest reports pc))
    (hpc : pc.settling = true) :
    (∃ before, frame = .round lease rest reports before ∧ before.settling = true) ∨
    ∃ claimed owner outcome, frame = .round lease rest reports (.mark claimed owner outcome) ∧
      (status outcome = "recovery_failed" ∨ ∃ failure late, answer = .store (.raised failure) late) := by
  cases h with
  | listed hstarts => cases hstarts <;> cases hpc
  | onward hstarts => cases hstarts <;> cases hpc
  | marked hfailed => exact .inr ⟨_, _, _, rfl, .inl hfailed⟩
  | unmarked => exact .inr ⟨_, _, _, rfl, .inr ⟨_, _, rfl⟩⟩
  | unblocked => exact .inl ⟨_, rfl, rfl⟩
  | failBlocked => exact .inl ⟨_, rfl, rfl⟩
  | _ => cases hpc

theorem skip_of_goes (h : Goes ids frame answer (.round lease rest reports .skip)) :
    lease.details.get "restore_on_expiry" = .bool false := by
  cases h with
  | listed hstarts =>
      cases hstarts with
      | skip _ hflag => exact hflag
  | onward hstarts =>
      cases hstarts with
      | skip _ hflag => exact hflag

end Recovery

namespace Lifecycle

variable {ids : Ids} {args : LifecycleArgs} {pc next : LifecyclePc} {answer : Answer} {held : Held}

theorem working_of_goes (h : Goes ids args pc answer next) (hnext : next.working = some held) :
    pc.working = some held ∨
      ∃ late, pc = .acquire held.current ∧ answer = .store (.lease (some held.lease)) late := by
  cases h with
  | acquired =>
      cases hnext
      exact .inr ⟨_, rfl, rfl⟩
  | acquiredEnabled =>
      cases hnext
      exact .inr ⟨_, rfl, rfl⟩
  | cleaning hpc => rcases hpc with rfl | rfl | rfl | rfl <;> exact .inl hnext
  | enabled => exact .inl hnext
  | verified => exact .inl hnext
  | renewed => exact .inl hnext
  | _ => cases hnext

theorem working_of_cancelled (h : Cancelled pc next) (hnext : next.working = some held) :
    pc.working = some held := by
  cases h with
  | ended => cases hnext
  | cleaning hpc => rcases hpc with rfl | rfl | rfl | rfl <;> exact hnext
  | watched hpc =>
      rcases hpc with ⟨work, rfl⟩ | ⟨work, rfl⟩ | ⟨work, outcome, rfl⟩
      · exact hnext
      · cases hnext
      · cases hnext

-- The route becomes fit by an enabling, or by an acquisition that needs none.
theorem routed_of_goes (h : Goes ids args pc answer next) (hnext : next.routed = true) :
    pc.routed = true ∨
      (∃ held result, pc = .enable held ∧ answer = .mutated result ∧ result.ok = true) ∨
      ∃ current lease late, pc = .acquire current ∧ answer = .store (.lease (some lease)) late ∧
        needEnable current.state args.targetProviderId args.modelId = false := by
  cases h with
  | acquiredEnabled hneed => exact .inr (.inr ⟨_, _, _, rfl, rfl, hneed⟩)
  | enabled hok => exact .inr (.inl ⟨_, _, rfl, rfl, hok⟩)
  | verified => exact .inl rfl
  | renewed => exact .inl rfl
  | _ => cases hnext

theorem not_routed_of_cancelled (h : Cancelled pc next) : next.routed = false := by
  cases h with
  | ended => rfl
  | cleaning => rfl
  | watched hpc => rcases hpc with ⟨work, rfl⟩ | ⟨work, rfl⟩ | ⟨work, outcome, rfl⟩ <;> rfl

end Lifecycle

theorem Task.claimed_eq_some {task : Task} {claimed : ProviderRouteLease} {owner : String}
    (h : task.claimed = some (claimed, owner)) :
    ∃ lease rest reports pc, task.frame = some (.round lease rest reports pc) ∧
      pc.claimed = some (claimed, owner) := by
  unfold Task.claimed at h
  split at h
  next lease rest reports pc hframe => exact ⟨lease, rest, reports, pc, hframe, h⟩
  next => cases h

section

variable {fitted : Prop} {key : Key} {w : World} {id i : CallId} {call other : Call} {ids : Ids}
  {await : Await} {answer : Answer} {t : Shared} {lease : ProviderRouteLease}
  {rest : List ProviderRouteLease} {reports : List RecoveryReport} {held : Held}

-- No round is passed over for a lease of the key.
theorem World.Secure.no_skip (h : w.Secure fitted key) (hknown : w.Known)
    (hcall : w.calls id = some call) {row : ProviderRouteLeaseRow}
    (hframe : call.task.frame = some (.round lease rest reports .skip))
    (hl : w.shared.store.rows.lookup lease.leaseId = some row) (hk : row.key = key) : False := by
  obtain ⟨known, hl', hg, -⟩ :=
    ((hknown.thread id call hcall).frame _ hframe).leases lease List.mem_cons_self
  obtain rfl := Option.some.inj (hl.symm.trans hl')
  have hflag := (h.thread id call hcall).skipping lease rest reports hframe
  exact h.shared lease.leaseId row hl hk ((congrArg Grant.restoreOnExpiry hg).trans hflag)

-- A lease runs on, whatever operation is done, as long as it is kept.
theorem World.Secure.running_kept (h : w.Secure fitted key) (hknown : w.Known)
    (hkept : LeaseKept.kept key w id ids) (hcall : w.calls id = some call)
    (hlive : call.crashed = false) (hawait : call.task.await ids = some await)
    (hperform : Shared.Performed w.shared await answer t) {pc : LifecyclePc}
    (hother : w.calls i = some other) (halive : other.crashed = false)
    (hpc : other.task.lifecycleOn key = some pc) (hworking : pc.working = some held) :
    t.store.Running key held.lease.leaseId := by
  have hsecure := h.thread i other hother
  rw [halive] at hsecure
  have hrunning : w.shared.store.Running key held.lease.leaseId :=
    hsecure.running rfl pc held hpc hworking
  have hholding := Task.holding_of_lifecycleOn hpc (LifecyclePc.held_of_working hworking)
  have htime : ∀ c, await = .store c → c.timed = some held.lease.leaseId →
      ∀ row, w.shared.store.rows.lookup held.lease.leaseId = some row →
        w.shared.clock < row.expiresAt := by
    intro c hc htimed row hl
    by_contra hexpired
    exact hkept c held.lease.leaseId row
      ((awaited_of_call hcall hlive).trans (hawait.trans (congrArg some hc))) htimed hl
      (not_lt.mp hexpired) i other pc held (live_of_call hother halive) hpc hworking rfl
  rcases hperform.effect (Task.plain_of_await hawait) with hsame | ⟨c, rfl, heffect⟩
  · exact hsame ▸ hrunning
  by_cases htarget : c.target = some held.lease.leaseId
  swap
  · exact hrunning.untouched heffect htarget
  have htargeting := Task.targeting_of_await hawait htarget
  have hsame : i ≠ id → ∀ k lease, call.task.holding = some (k, lease) →
      lease.leaseId ≠ held.lease.leaseId := fun hne k lease hh =>
    (h.pair id i call other (Ne.symm hne) hcall hother).held k key lease held.lease hh hholding
  generalize htask : call.task = task at htargeting
  cases htargeting with
  | renew hid =>
      rw [hperform.respond_store nofun]
      exact hrunning.renew (htime _ rfl rfl)
  | release hid =>
      exfalso
      by_cases hi : i = id
      · subst hi
        obtain rfl := Option.some.inj (hcall.symm.trans hother)
        obtain ⟨args, he⟩ := Task.lifecycleOn_eq_some (htask ▸ hpc)
        cases he
        cases hworking
      · exact hsame hi _ _ (by rw [htask]; rfl) hid
  | releaseMutation hid =>
      exfalso
      by_cases hi : i = id
      · subst hi
        obtain rfl := Option.some.inj (hcall.symm.trans hother)
        rw [htask] at hpc
        cases hpc
      · exact hsame hi _ _ (by rw [htask]; rfl) hid
  | skip hframe hid =>
      obtain ⟨row, hl, hk, -, -⟩ := hrunning
      exact (h.no_skip hknown hcall (htask ▸ hframe) (hid ▸ hl) hk).elim
  | claim hframe hid =>
      rw [hperform.respond_store nofun, hrunning.claim (htime _ rfl rfl)]
      exact hrunning
  | @mark _ lease claimed rest reports owner token status outcome details hframe hid =>
      have hrow := hrunning
      obtain ⟨row, hl, hk, -, -⟩ := hrow
      have hkey := ((hknown.frame hcall (htask ▸ hframe)).claimed rfl).key_eq (hid ▸ hl)
      have hrecovering := (h.thread id call hcall).recovering claimed owner
        (Task.claimed_of_frame (htask ▸ hframe) rfl) (hkey.trans hk)
      exact (hrunning.not_recovering hrecovering).elim
  | failMark hframe hid =>
      have hsettled := (h.thread id call hcall).settled _ _ _ _ (htask ▸ hframe) rfl
      exact (hrunning.not_settled (hid ▸ hsettled)).elim

-- A claimed lease stays with the recovery that claimed it until it is marked.
theorem World.Secure.recovering_kept (h : w.Secure fitted key) (hknown : w.Known)
    (hfresh : FreshOwner.fresh w id ids) (hcall : w.calls id = some call)
    (hlive : call.crashed = false) (hawait : call.task.await ids = some await)
    (hperform : Shared.Performed w.shared await answer t) {claimed : ProviderRouteLease}
    {owner : String} (hother : w.calls i = some other)
    (hclaimed : other.task.claimed = some (claimed, owner)) (hkey : claimed.key = key)
    (hmark : i = id → ∀ lease rest reports outcome, other.task.frame ≠
      some (.round lease rest reports (.mark claimed owner outcome))) :
    t.store.Recovering key claimed.leaseId owner := by
  have hrecovering : w.shared.store.Recovering key claimed.leaseId owner :=
    (h.thread i other hother).recovering claimed owner hclaimed hkey
  have hrow := hrecovering
  obtain ⟨row, hl, hk, -, -, howner⟩ := hrow
  rcases hperform.effect (Task.plain_of_await hawait) with hsame | ⟨c, rfl, heffect⟩
  · exact hsame ▸ hrecovering
  by_cases htarget : c.target = some claimed.leaseId
  swap
  · exact hrecovering.untouched heffect htarget
  have htargeting := Task.targeting_of_await hawait htarget
  generalize htask : call.task = task at htargeting
  cases htargeting with
  | renew =>
      rw [hperform.respond_store nofun, hrecovering.renew]
      exact hrecovering
  | release =>
      rw [hperform.respond_store nofun, hrecovering.release]
      exact hrecovering
  | releaseMutation =>
      rw [hperform.respond_store nofun, hrecovering.release]
      exact hrecovering
  | skip hframe hid => exact (h.no_skip hknown hcall (htask ▸ hframe) (hid ▸ hl) hk).elim
  | claim hframe hid =>
      have hne := FreshOwner.unrecorded hfresh ((awaited_of_call hcall hlive).trans hawait) hl
      obtain ⟨failure, hrefused⟩ := hrecovering.claim fun he => hne (howner.trans (he ▸ rfl))
      rw [hperform.respond_store nofun, hrefused]
      exact hrecovering
  | @mark _ lease marked rest reports markOwner token status outcome details hframe hid =>
      exfalso
      by_cases hi : i = id
      · subst hi
        obtain rfl := Option.some.inj (hcall.symm.trans hother)
        subst htask
        have hsame := (Task.claimed_of_frame hframe rfl).symm.trans hclaimed
        cases hsame
        exact hmark rfl _ _ _ _ hframe
      · have hkeyed := ((hknown.frame hcall (htask ▸ hframe)).claimed rfl).key_eq (hid ▸ hl)
        exact (h.pair id i call other (Ne.symm hi) hcall hother).claimed marked markOwner claimed
          owner (Task.claimed_of_frame (htask ▸ hframe) rfl) hclaimed (hkeyed.trans hk) hkey hid
  | failMark hframe hid =>
      have hsettled := (h.thread id call hcall).settled _ _ _ _ (htask ▸ hframe) rfl
      exact (hrecovering.not_settled (hid ▸ hsettled)).elim

-- Nobody changes the route under a lifecycle that works on it.
theorem World.Secure.route_stays (h : w.Secure fitted key) (hcall : w.calls id = some call)
    (hlive : call.crashed = false) (hawait : call.task.await ids = some await)
    (hperform : Shared.Performed w.shared await answer t) {pc : LifecyclePc} (hne : i ≠ id)
    (hother : w.calls i = some other) (halive : other.crashed = false)
    (hpc : other.task.lifecycleOn key = some pc) (hworking : pc.working = some held) :
    t.routes key = w.shared.routes key := by
  have hf := h.thread i other hother
  have hs := h.thread id call hcall
  rw [halive] at hf
  rw [hlive] at hs
  exact Manager.routes_of_performed hperform
    (hf.mutating_alone hs (h.pair i id other call hne hother hcall) hpc hworking hawait)

theorem LifecyclePc.working_of_routed {pc : LifecyclePc} (h : pc.routed = true) :
    ∃ held, pc.working = some held := by
  cases pc <;> first | exact ⟨_, rfl⟩ | cases h

theorem World.Secure.settled_kept (h : w.Secure fitted key)
    (hawait : call.task.await ids = some await)
    (hperform : Shared.Performed w.shared await answer t) (hother : w.calls i = some other)
    {pc : RecoverPc} (hframe : other.task.frame = some (.round lease rest reports pc))
    (hsettling : pc.settling = true) : t.store.Settled lease.leaseId := by
  have hsettled : w.shared.store.Settled lease.leaseId :=
    (h.thread i other hother).settled lease rest reports pc hframe hsettling
  rcases hperform.effect (Task.plain_of_await hawait) with hsame | ⟨c, -, heffect⟩
  · exact hsame ▸ hsettled
  · exact hsettled.step heffect

-- The other calls keep what they rely on.
theorem World.Secure.others (h : w.Secure fitted key) (hknown : w.Known)
    (hkept : LeaseKept.kept key w id ids) (hfresh : FreshOwner.fresh w id ids)
    (hcall : w.calls id = some call) (hlive : call.crashed = false)
    (hawait : call.task.await ids = some await)
    (hperform : Shared.Performed w.shared await answer t) (hne : i ≠ id)
    (hother : w.calls i = some other) : other.task.Secure fitted key t.view !other.crashed where
  running halive pc held hpc hworking :=
    h.running_kept hknown hkept hcall hlive hawait hperform hother (by simpa using halive) hpc hworking
  fits hfitted halive args pc htask hrouted := by
    obtain ⟨held, hworking⟩ := LifecyclePc.working_of_routed hrouted
    have hpc : other.task.lifecycleOn key = some pc := htask ▸ Task.lifecycleOn_self key args pc
    have hroute := h.route_stays hcall hlive hawait hperform hne hother (by simpa using halive) hpc
      hworking
    rw [show t.view.routes key = w.shared.routes key from hroute]
    exact (h.thread i other hother).fits hfitted halive args pc htask hrouted
  recovering claimed owner hclaimed hkey :=
    h.recovering_kept hknown hfresh hcall hlive hawait hperform hother hclaimed hkey
      fun he => absurd he hne
  settled lease rest reports pc hframe hsettling :=
    h.settled_kept hawait hperform hother hframe hsettling
  skipping := (h.thread i other hother).skipping
  alone := (h.thread i other hother).alone

variable {manager : Manager} {resumed : Resumed Task}

-- The call that moves keeps what it relies on, or comes to rely on what its answer says.
theorem World.Secure.own_resume (h : w.Secure fitted key) (hknown : w.Known)
    (hkept : LeaseKept.kept key w id ids) (hfresh : FreshOwner.fresh w id ids)
    {choice : Choice} (hfitting : fitted → Fitting manager key w (.answer id ids choice))
    (hcall : w.calls id = some call) (hlive : call.crashed = false)
    (hawait : call.task.await ids = some await)
    (hperform : w.shared.perform call.process await choice = some (answer, t))
    (hkeeps : manager.Keeps key w.shared await choice)
    (hresume : call.task.resume ids answer = some resumed) :
    resumed.next.Secure fitted key t.view true where
  running _ pc held hpc hworking := by
    have hdone := Shared.performed hperform
    obtain ⟨args, before, htask, hgoes⟩ := Task.lifecycle_of_resume hresume hpc
    have hbefore : call.task.lifecycleOn key = some before :=
      htask ▸ Task.lifecycleOn_self key args before
    rcases Lifecycle.working_of_goes hgoes hworking with hsame | ⟨late, rfl, rfl⟩
    · exact h.running_kept hknown hkept hcall hlive hawait hdone hcall hlive hbefore hsame
    · rw [htask] at hawait
      cases hawait
      obtain ⟨hreply, hview⟩ := hdone.lease_reply
      have hrunning := LeaseTable.running_of_acquired hreply
      rw [hview]
      exact hrunning
  fits hfitted _ args pc htask hrouted := by
    have hdone := Shared.performed hperform
    have hpc : resumed.next.lifecycleOn key = some pc := htask ▸ Task.lifecycleOn_self key args pc
    obtain ⟨args', before, hbefore, hgoes⟩ := Task.lifecycle_of_resume hresume hpc
    obtain rfl : args' = args := by
      obtain ⟨after, hafter, -⟩ := Task.lifecycle_resume (hbefore ▸ hresume)
      rw [hafter] at htask
      cases htask
      rfl
    have hfit := hfitting hfitted call (live_of_call hcall hlive)
    rw [hbefore] at hfit
    rcases Lifecycle.routed_of_goes hgoes hrouted with hsame | ⟨held, result, rfl, rfl, hok⟩ |
      ⟨current, lease, late, rfl, rfl, hneed⟩
    · have hsecure := h.thread id call hcall
      rw [hlive] at hsecure
      have hother : await.mutates ≠ some key := by
        rw [hbefore] at hawait
        cases before <;> cases hsame <;> cases hawait <;> nofun
      rw [show t.view.routes key = w.shared.routes key from
        Manager.routes_of_performed hdone hother]
      exact hsecure.fits hfitted rfl args' before hbefore hsame
    · rw [hbefore] at hawait
      cases hawait
      rw [show t.view.routes key = _ from hkeeps.enabled hperform hok]
      exact manager.fits_enable key (hfit rfl) (w.shared.routes key)
    · rw [hbefore] at hawait
      cases hawait
      obtain ⟨hreply, hview⟩ := hdone.lease_reply
      have hfree := (LeaseTable.acquire_reply hreply).2.1
      rw [hview]
      exact fits_of_not_needed (hfit rfl hfree hneed)
  recovering claimed owner hclaimed hkey := by
    have hdone := Shared.performed hperform
    obtain ⟨lease, rest, reports, pc, hframe, hpc⟩ := Task.claimed_eq_some hclaimed
    rcases Task.frame_of_resume hresume hframe with hlist | ⟨frame, hf, hgoes⟩
    · cases hlist
    rcases Recovery.claimed_of_goes hgoes hpc with ⟨before, rfl, hbefore, hmark⟩ |
      ⟨rfl, rfl, late, rfl⟩
    · refine h.recovering_kept hknown hfresh hcall hlive hawait hdone hcall
        (Task.claimed_of_frame hf hbefore) hkey fun _ _ _ _ outcome hmarked => ?_
      rw [hf] at hmarked
      cases hmarked
      exact hmark outcome rfl
    · obtain rfl := Option.some.inj (hawait.symm.trans (Task.await_frame hf))
      obtain ⟨hreply, hview⟩ := hdone.lease_reply
      have hrecovering := LeaseTable.recovering_of_claimed hreply
      rw [hview, ← hkey]
      exact hrecovering
  settled lease rest reports pc hframe hsettling := by
    have hdone := Shared.performed hperform
    rcases Task.frame_of_resume hresume hframe with hlist | ⟨frame, hf, hgoes⟩
    · cases hlist
    rcases Recovery.settling_of_goes hgoes hsettling with ⟨before, rfl, hbefore⟩ |
      ⟨claimed, owner, outcome, rfl, hmarked⟩
    · exact h.settled_kept hawait hdone hcall hf hbefore
    · obtain rfl := Option.some.inj (hawait.symm.trans (Task.await_frame hf))
      have hframe := (hknown.thread id call hcall).frame _ hf
      rw [← (hframe.copy lease rest reports _ claimed rfl rfl).1]
      rcases hmarked with hfailed | ⟨failure, late, rfl⟩
      · have hresolves : resolves (Recovery.status outcome) = true := by
          rw [hfailed]
          decide
        rw [show t.view.store = _ from hdone.respond_store nofun]
        exact LeaseTable.settled_of_marked (hframe.claimed rfl) hresolves
      · obtain ⟨found, late, hanswer⟩ := (hframe.claimed rfl).mark_answered hdone
        cases hanswer
  skipping lease rest reports hframe := by
    rcases Task.frame_of_resume hresume hframe with hlist | ⟨frame, hf, hgoes⟩
    · cases hlist
    · exact Recovery.skip_of_goes hgoes
  alone := (Task.serialisedOn_resume hresume).trans (h.thread id call hcall).alone

theorem World.Secure.own_cancel (h : w.Secure fitted key) (hcall : w.calls id = some call)
    (hcancel : call.task.cancel = some resumed)
    (hkept : ∀ pc held, call.task.lifecycleOn key = some pc → pc.working = some held →
      t.store.Running key held.lease.leaseId) : resumed.next.Secure fitted key t.view true where
  running _ pc held hpc hworking := by
    obtain ⟨args, before, htask, hcancelled⟩ := Task.lifecycle_of_cancel hcancel hpc
    exact hkept before held (htask ▸ Task.lifecycleOn_self key args before)
      (Lifecycle.working_of_cancelled hcancelled hworking)
  fits _ _ args pc htask hrouted := by
    obtain ⟨args, before, -, hcancelled⟩ :=
      Task.lifecycle_of_cancel hcancel (htask ▸ Task.lifecycleOn_self key args pc)
    rw [Lifecycle.not_routed_of_cancelled hcancelled] at hrouted
    cases hrouted
  recovering claimed owner hclaimed := by
    obtain ⟨lease, rest, reports, pc, hframe, -⟩ := Task.claimed_eq_some hclaimed
    rw [Task.frame_of_cancel hcancel] at hframe
    cases hframe
  settled lease rest reports pc hframe := by
    rw [Task.frame_of_cancel hcancel] at hframe
    cases hframe
  skipping lease rest reports hframe := by
    rw [Task.frame_of_cancel hcancel] at hframe
    cases hframe
  alone := (Task.serialisedOn_cancel hcancel).trans (h.thread id call hcall).alone

-- Nobody else holds the lease or the claim that the call gets.
theorem World.Secure.apart_resume (h : w.Secure fitted key) (hknown : w.Known)
    (hfresh : FreshOwner.fresh w id ids) (hcall : w.calls id = some call)
    (hlive : call.crashed = false) (hawait : call.task.await ids = some await)
    (hperform : Shared.Performed w.shared await answer t)
    (hresume : call.task.resume ids answer = some resumed) (hne : i ≠ id)
    (hother : w.calls i = some other) : resumed.next.Apart key other.task where
  held firstKey secondKey lease held hfirst hsecond := by
    rcases Task.holding_of_resume hresume hfirst with hsame | ⟨hacquire, late, rfl⟩
    · exact (h.pair id i call other (Ne.symm hne) hcall hother).held _ _ _ _ hsame hsecond
    · obtain ⟨row, hl, -, -⟩ := ((hknown.thread i other hother).holding secondKey held hsecond).1
      have hnew : w.shared.store.rows.lookup lease.leaseId = none := by
        rcases hacquire with ⟨args, current, htask⟩ | ⟨args, current, htask⟩
        all_goals
          rw [htask] at hawait
          cases hawait
          exact LeaseTable.lookup_of_acquired hperform.lease_reply.1
      intro he
      rw [he] at hnew
      cases hl.symm.trans hnew
  claimed lease owner claimed claimedOwner hfirst hsecond hk hkc := by
    obtain ⟨listed, rest, reports, pc, hframe, hpc⟩ := Task.claimed_eq_some hfirst
    rcases Task.frame_of_resume hresume hframe with hlist | ⟨frame, hf, hgoes⟩
    · cases hlist
    rcases Recovery.claimed_of_goes hgoes hpc with ⟨before, rfl, hbefore, -⟩ | ⟨rfl, rfl, late, rfl⟩
    · exact (h.pair id i call other (Ne.symm hne) hcall hother).claimed _ _ _ _
        (Task.claimed_of_frame hf hbefore) hsecond hk hkc
    · obtain rfl := Option.some.inj (hawait.symm.trans (Task.await_frame hf))
      have hrecovering : w.shared.store.Recovering key claimed.leaseId claimedOwner :=
        (h.thread i other hother).recovering claimed claimedOwner hsecond hkc
      have hreply := hperform.lease_reply.1
      have hid := (LeaseTable.grant_of_claimed
        (((hknown.thread id call hcall).frame _ hf).leases listed List.mem_cons_self) hreply).1
      intro he
      have hrow := hrecovering
      obtain ⟨row, hl, -, -, -, howner⟩ := hrow
      have hfree := FreshOwner.unrecorded hfresh ((awaited_of_call hcall hlive).trans hawait) hl
      rw [← he, hid] at hrecovering
      obtain ⟨failure, hrefused⟩ := hrecovering.claim fun hsame => hfree (howner.trans (hsame ▸ rfl))
      rw [hrefused] at hreply
      cases hreply

theorem World.Secure.apart_cancel (h : w.Secure fitted key) (hcall : w.calls id = some call)
    (hcancel : call.task.cancel = some resumed) (hne : i ≠ id)
    (hother : w.calls i = some other) : resumed.next.Apart key other.task where
  held firstKey secondKey lease held hfirst hsecond :=
    (h.pair id i call other (Ne.symm hne) hcall hother).held _ _ _ _
      (Task.holding_of_cancel hcancel hfirst) hsecond
  claimed lease owner claimed claimedOwner hfirst := by
    obtain ⟨listed, rest, reports, pc, hframe, -⟩ := Task.claimed_eq_some hfirst
    rw [Task.frame_of_cancel hcancel] at hframe
    cases hframe

theorem LeaseTable.Restoring.effect {store next : LeaseTable} {timed : TimedCall}
    (h : store.Restoring key) (heffect : Effect store timed next)
    (hrequest : ∀ leaseId token request, timed.call = .tryAcquire leaseId token request →
      request.key = key → request.details.get "restore_on_expiry" ≠ .bool false) :
    next.Restoring key := by
  intro id row hl hk
  rcases heffect.new hl with ⟨before, hb, hg, -⟩ | ⟨token, request, hcall, -, -, rfl⟩ |
    ⟨token, other, reason, -, rfl⟩
  · rw [hg]
    exact h id before hb ((congrArg Grant.key hg).symm.trans hk)
  · exact hrequest id token request hcall hk
  · nofun

theorem World.Secure.restoring (h : w.Secure fitted key) (hcall : w.calls id = some call)
    (hawait : call.task.await ids = some await)
    (hperform : Shared.Performed w.shared await answer t) : t.store.Restoring key := by
  rcases hperform.effect (Task.plain_of_await hawait) with hsame | ⟨c, rfl, heffect⟩
  · exact hsame ▸ h.shared
  refine LeaseTable.Restoring.effect h.shared heffect fun leaseId token request hc hk => ?_
  subst hc
  obtain ⟨-, -, ⟨other, args, current, htask, rfl⟩ | ⟨other, args, current, htask, rfl⟩⟩ :=
    Task.acquiring_of_await hawait
  · nofun
  · have halone := (h.thread id call hcall).alone
    rw [htask, Task.serialisedOn, decide_eq_false_iff_not] at halone
    exact absurd hk halone

theorem Entry.secure {entry : Entry} {view : View} {live : Bool}
    (h : entry.task.serialisedOn key = false) : entry.task.Secure fitted key view live := by
  cases entry with
  | lifecycle other args =>
      refine ⟨fun _ pc held hpc hworking => ?_, fun _ _ args pc htask hrouted => ?_,
        fun _ _ hclaimed => (by cases hclaimed), fun _ _ _ _ hframe => (by cases hframe),
        fun _ _ _ hframe => (by cases hframe), h⟩
      · obtain ⟨args, he⟩ := Task.lifecycleOn_eq_some hpc
        cases he
        cases hworking
      · cases htask
        cases hrouted
  | _ =>
      exact ⟨fun _ _ _ hpc => (by cases hpc), fun _ _ _ _ htask => (by cases htask),
        fun _ _ hclaimed => (by cases hclaimed), fun _ _ _ _ hframe => (by cases hframe),
        fun _ _ _ hframe => (by cases hframe), h⟩

theorem Entry.apart (entry : Entry) (task : Task) : entry.task.Apart key task := by
  cases entry <;>
    exact ⟨fun _ _ _ _ hh => (by cases hh), fun _ _ _ _ hclaimed => (by cases hclaimed)⟩

theorem Task.Secure.crashed {view : View} {live : Bool} {task : Task}
    (h : task.Secure fitted key view live) : task.Secure fitted key view false :=
  ⟨nofun, fun _ => nofun, h.recovering, h.settled, h.skipping, h.alone⟩

namespace World

variable {next : World} {label : Label}

theorem Secure.step (h : w.Secure fitted key) (hknown : w.Known)
    (hpromises : w.Promises manager key label) (hkept : w.LeaseKept key label)
    (hfitting : fitted → w.Fitting manager key label)
    (hfresh : w.FreshOwner label) (hstep : w.step label = some next) : next.Secure fitted key := by
  have hstep := World.step_cases hstep
  cases hstep with
  | start hnew =>
      exact h.move h.shared (Entry.secure hpromises) (fun _ _ _ _ hm => hm)
        fun j m _ _ _ => ⟨Entry.apart _ _, (Entry.apart _ _).symm⟩
  | @answer id call ids choice await answer shared resumed hcall hlive hawait hperform hresume =>
      have hkeeps := hpromises await (awaited_of_call hcall hlive ▸ hawait)
      have hown := h.own_resume hknown hkept hfresh hfitting hcall hlive hawait hperform hkeeps hresume
      have hperform := Shared.performed hperform
      rw [World.Secure, World.put_view]
      refine h.move (h.restoring hcall hawait hperform) (by rw [hlive]; exact hown)
        (fun j m hj hm _ => h.others hknown hkept hfresh hcall hlive hawait hperform hj hm)
        fun j m hj hm _ => ?_
      have hapart := h.apart_resume hknown hfresh hcall hlive hawait hperform hresume hj hm
      exact ⟨hapart, hapart.symm⟩
  | @lose id call ids choice await answer shared resumed hcall hlive hawait hperform hopen hcancel =>
      have hperform := Shared.performed hperform
      have hown := h.own_cancel hcall hcancel fun pc held hpc hworking =>
        h.running_kept hknown hkept hcall hlive hawait hperform hcall hlive hpc hworking
      rw [World.Secure, World.put_view]
      refine h.move (h.restoring hcall hawait hperform) (by rw [hlive]; exact hown)
        (fun j m hj hm _ => h.others hknown hkept hfresh hcall hlive hawait hperform hj hm)
        fun j m hj hm _ => ?_
      have hapart := h.apart_cancel hcall hcancel hj hm
      exact ⟨hapart, hapart.symm⟩
  | @cancel id call resumed hcall hlive hcancel =>
      have hsecure := h.thread id call hcall
      rw [hlive] at hsecure
      have hown := h.own_cancel hcall hcancel (hsecure.running rfl)
      rw [World.Secure, World.put_view]
      refine h.move h.shared (by rw [hlive]; exact hown) (fun _ _ _ _ hm => hm) fun j m hj hm _ => ?_
      have hapart := h.apart_cancel hcall hcancel hj hm
      exact ⟨hapart, hapart.symm⟩
  | @crash process =>
      refine h.relabel (f := fun call => if call.process = process then
        { call with crashed := true } else call) (fun m hm => ?_) (fun m n hmn => ?_)
      · split
        · exact hm.crashed
        · exact hm
      · split <;> split <;> exact hmn
  | tick => exact h
  | @clearBlock cleared =>
      have heffect : LeaseTable.Effect w.shared.store ⟨w.shared.clock, .clearBlock cleared⟩
          (w.shared.store.clearBlock cleared) := .cleared rfl
      refine h.shift (LeaseTable.Restoring.effect h.shared heffect nofun) fun j m _ hm => ?_
      exact ⟨fun halive pc held hpc hworking =>
          LeaseTable.Running.untouched (hm.running halive pc held hpc hworking) heffect nofun,
        hm.fits, fun claimed owner hclaimed hkey =>
          LeaseTable.Recovering.untouched (hm.recovering claimed owner hclaimed hkey) heffect nofun,
        fun lease rest reports pc hframe hsettling =>
          LeaseTable.Settled.step (hm.settled lease rest reports pc hframe hsettling) heffect,
        hm.skipping, hm.alone⟩

theorem secure_initial (routes : Key → RouteState) : (initial routes).Secure fitted key :=
  ⟨fun _ _ hl => (by cases hl), fun _ _ hc => (by cases hc), fun _ _ _ _ _ hc => (by cases hc)⟩

-- In every run that keeps the leases of working lifecycles, and in which no stale
-- reading makes one skip its enabling, execution is exclusive on a fitting route.
-- Operations of the manager may fail; only an enabling that answers ok has to have enabled.
theorem execution_exclusive {manager : Manager} {key : Key} {routes : Key → RouteState}
    {labels : List Label} {w : World}
    (hpromises : Along World.step (Promises manager key) (initial routes) labels)
    (hfresh : Along World.step FreshOwner (initial routes) labels)
    (hkept : Along World.step (LeaseKept key) (initial routes) labels)
    (hfitting : Along World.step (Fitting manager key) (initial routes) labels)
    (hrun : run World.step (initial routes) labels = some w) : w.Exclusive key := by
  have hcond := (hpromises.and hfresh).and (hkept.and hfitting)
  have hstep : ∀ s label t, s.Known ∧ s.Secure True key →
      (Promises manager key s label ∧ FreshOwner s label) ∧
        LeaseKept key s label ∧ Fitting manager key s label →
      World.step s label = some t → t.Known ∧ t.Secure True key :=
    fun s label t h hc hs =>
      ⟨h.1.step hs, h.2.step h.1 hc.1.1 hc.2.1 (fun _ => hc.2.2) hc.1.2 hs⟩
  exact (run_invariant hstep ⟨known_initial routes, secure_initial routes⟩ hcond hrun).2.exclusive

end World

end

section Samples

-- No renewal and no claim finds its lease expired.
def World.Timely (w : World) : Label → Prop
  | .answer id ids _ => timely id ids
  | .lose id ids _ => timely id ids
  | _ => True
where
  timely (id : CallId) (ids : Ids) : Prop :=
    match w.awaited id ids with
    | some (.store call) => ∀ leaseId ∈ call.timed, ∀ row ∈ w.shared.store.rows.lookup leaseId,
        w.shared.clock < row.expiresAt
    | _ => True

instance {w : World} (id : CallId) (ids : Ids) : Decidable (World.Timely.timely w id ids) :=
  have htimely : ∀ awaited : Option Await, Decidable (match awaited with
      | some (.store call) =>
          ∀ leaseId ∈ call.timed, ∀ row ∈ w.shared.store.rows.lookup leaseId,
            w.shared.clock < row.expiresAt
      | _ => True) := fun awaited => by split <;> infer_instance
  htimely (w.awaited id ids)

instance {w : World} : ∀ label, Decidable (w.Timely label)
  | .answer id ids _ | .lose id ids _ => inferInstanceAs (Decidable (World.Timely.timely w id ids))
  | .start _ _ _ | .cancel _ | .crash _ | .tick _ | .clearBlock _ => .isTrue trivial

theorem World.Timely.leaseKept {key : Key} {w : World} {label : Label} (h : w.Timely label) :
    w.LeaseKept key label := by
  have hkept : ∀ id ids, Timely.timely w id ids → LeaseKept.kept key w id ids := by
    intro id ids htimely call leaseId row hawait htimed hl hexpired
    rw [Timely.timely, hawait] at htimely
    exact absurd hexpired (not_le.mpr (htimely leaseId htimed row hl))
  cases label with
  | answer id ids => exact hkept id ids h
  | lose id ids => exact hkept id ids h
  | _ => trivial

def executingRun : List Label :=
  opening 0 0 "first" ++ answers 0 "first"
    [.reading (readingOf routeOff), .plain, switched routeOn, .reading (readingOf routeOn), .plain]

-- The second lifecycle reads the route before the first one enables it, and is
-- refused the lease until the first one, whose restore fails, has released it. The
-- third one polls while the second one executes.
def contendedRun : List Label :=
  opening 1 1 "second" ++ answers 1 "second" [.reading (readingOf routeOff)] ++ executingRun ++
  answers 1 "second" [.plain] ++
  answers 0 "first" [.value .none, .mutated routeOn { ok := false }, .plain] ++
  answers 1 "second"
    [.plain, .plain, switched routeOn, .reading (readingOf routeOn), .plain] ++
  opening 2 2 "third" ++ answers 2 "third" [.reading (readingOf routeOn), .plain]

theorem execution_exclusive_sample : ∃ w,
    run World.step (World.initial fireConnect.disable) contendedRun = some w ∧
      (w.live 1).any (fun call => call.task.executing openCode) = true ∧ w.Exclusive openCode := by
  obtain ⟨w, hrun⟩ := Option.isSome_iff_exists.mp
    (show (run World.step (World.initial fireConnect.disable) contendedRun).isSome by
      decide +kernel)
  have hexecuting : (run World.step (World.initial fireConnect.disable) contendedRun).all (fun w =>
      (w.live 1).any fun call => call.task.executing openCode) = true := by decide +kernel
  rw [hrun, Option.all_some] at hexecuting
  have hpromises : Along World.step (World.Promises fireConnect openCode)
      (World.initial fireConnect.disable) contendedRun := by decide +kernel
  have htimely : Along World.step World.Timely (World.initial fireConnect.disable) contendedRun := by
    decide +kernel
  exact ⟨w, hrun, hexecuting, World.execution_exclusive hpromises (by decide +kernel)
    (htimely.mono fun _ _ h => h.leaseKept) (by decide +kernel) hrun⟩

-- The lease of the first lifecycle expires while it executes, and the recovery
-- that the second one starts with goes to restore the route.
def overdueRun : List Label :=
  executingRun ++ [.tick 200000000] ++ opening 1 1 "second" ++ answers 1 "second" [.plain]

-- The second lifecycle skips enabling, for its reading was of the route of the first.
def staleRun : List Label :=
  opening 0 0 "first" ++
  answers 0 "first" [.reading (readingOf routeOff), .plain, switched routeOn] ++
  opening 1 1 "second" ++ answers 1 "second" [.reading (readingOf routeOn)] ++
  answers 0 "first"
    [.reading (readingOf routeOn), .plain, .value .none, switched routeOff,
      .reading (readingOf routeOff), .plain] ++
  answers 1 "second" [.plain, .plain]

theorem execution_disturbed :
    (∃ w, run World.step (World.initial fireConnect.disable) overdueRun = some w ∧
      Along World.step (World.Serves fireConnect openCode) (World.initial fireConnect.disable)
        overdueRun ∧
      Along World.step World.FreshOwner (World.initial fireConnect.disable) overdueRun ∧
      ¬ w.Exclusive openCode) ∧
    ∃ w, run World.step (World.initial fireConnect.disable) staleRun = some w ∧
      Along World.step (World.Serves fireConnect openCode) (World.initial fireConnect.disable)
        staleRun ∧
      Along World.step World.FreshOwner (World.initial fireConnect.disable) staleRun ∧
      ¬ w.Exclusive openCode := by
  constructor
  · obtain ⟨w, hrun⟩ := Option.isSome_iff_exists.mp
      (show (run World.step (World.initial fireConnect.disable) overdueRun).isSome by decide +kernel)
    refine ⟨w, hrun, by decide +kernel, by decide +kernel, fun h => ?_⟩
    have hexecuting : (run World.step (World.initial fireConnect.disable) overdueRun).all (fun w =>
        (w.live 0).any fun call => call.task.executing openCode) = true := by decide +kernel
    have hrestoring : (run World.step (World.initial fireConnect.disable) overdueRun).all (fun w =>
        (w.live 1).any fun call => (call.task.await ⟨"", ""⟩).any fun await =>
          await.mutates = some openCode) = true := by decide +kernel
    rw [hrun, Option.all_some, Option.any_eq_true] at hexecuting hrestoring
    obtain ⟨first, hfirst, hexecuting⟩ := hexecuting
    obtain ⟨second, hsecond, hrestoring⟩ := hrestoring
    obtain ⟨await, hawait, hmutates⟩ := (Option.any_eq_true ..).mp hrestoring
    exact (h.alone 0 1 first second (by decide) hfirst hsecond hexecuting).2 _ await hawait
      (of_decide_eq_true hmutates)
  · obtain ⟨w, hrun⟩ := Option.isSome_iff_exists.mp
      (show (run World.step (World.initial fireConnect.disable) staleRun).isSome by decide +kernel)
    refine ⟨w, hrun, by decide +kernel, by decide +kernel, fun h => ?_⟩
    have hexecuting : (run World.step (World.initial fireConnect.disable) staleRun).all (fun w =>
        (w.live 1).any fun call => call.task.executing openCode) = true := by decide +kernel
    have hroute : (run World.step (World.initial fireConnect.disable) staleRun).map
        (fun w => (w.shared.routes openCode).enabled) = some false := by decide +kernel
    rw [hrun, Option.all_some, Option.any_eq_true] at hexecuting
    rw [hrun, Option.map_some, Option.some.injEq] at hroute
    obtain ⟨call, hcall, hexecuting⟩ := hexecuting
    obtain ⟨held, hpc⟩ := Task.executing_iff.mp hexecuting
    obtain ⟨args, htask⟩ := Task.lifecycleOn_eq_some hpc
    have henabled := (h.fits 1 call args held hcall htask).enabled
    rw [hroute] at henabled
    cases henabled

end Samples

end JoyMesh.ProviderRoutes
