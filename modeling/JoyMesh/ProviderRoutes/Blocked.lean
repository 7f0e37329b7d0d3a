import Mathlib.Data.List.MinMax
import JoyMesh.ProviderRoutes.Holding
import JoyMesh.ProviderRoutes.Manager

namespace JoyMesh.ProviderRoutes

open JoyMesh.Library

namespace Task

-- A lifecycle or a serialised mutation of the key that has not ended.
def engagedOn (key : Key) : Task → Bool
  | lifecycle other _ pc => other = key && !pc.ended
  | serialised other _ pc => other = key && !pc.ended
  | _ => false

-- A recovery has marked its lease of the key as failed and goes to record the block.
def recording (key : Key) (task : Task) : Bool :=
  match task.frame with
  | some (.round _ _ _ (.block claimed _)) => claimed.key = key
  | _ => false

end Task

-- What a run has seen of a key: whether a recovery has failed since the last
-- clear_block, and which calls have read the block flag since that failure.
structure Alarm where
  failed : Bool := false
  informed : CallId → Bool := fun _ => false

namespace World

-- The call marks a lease of the key as failed.
def Fails (key : Key) (w : World) : Await → Prop
  | .store (.markRecovery leaseId token status _) => status = "recovery_failed" ∧
      ∃ row ∈ w.shared.store.rows.lookup leaseId, row.leaseToken = token ∧ row.key = key
  | _ => False

instance {key : Key} {w : World} {await : Await} : Decidable (w.Fails key await) := by
  unfold Fails
  split <;> infer_instance

def alarm (key : Key) (seen : Alarm) (w : World) : Label → Alarm
  | .start id _ _ => { seen with informed := Function.update seen.informed id false }
  | .answer id ids _ => after id ids
  | .lose id ids _ => after id ids
  | .clearBlock cleared => if cleared = key then { seen with failed := false } else seen
  | _ => seen
where
  after (id : CallId) (ids : Ids) : Alarm :=
    match w.awaited id ids with
    | some await =>
        if w.Fails key await then { failed := true }
        else if await = .store (.isBlocked key) then
          { seen with informed := Function.update seen.informed id true }
        else seen
    | none => seen

-- A lifecycle or a serialised mutation acquires a lease for the key, or changes its route.
def Acts (key : Key) (w : World) : Label → Prop
  | .answer id ids _ => acts id ids
  | .lose id ids _ => acts id ids
  | _ => False
where
  acts (id : CallId) (ids : Ids) : Prop :=
    match w.awaited id ids with
    | some (.store (.tryAcquire leaseId token request)) => request.key = key ∧
        (w.shared.store.respond ⟨w.shared.clock, .tryAcquire leaseId token request⟩).1 ≠ .lease none
    | some await => await.mutates = some key ∧ ∃ call ∈ w.live id, call.task.frame = none
    | none => False

-- After a failure only calls act that have read the block flag since.
def ActsInformed (key : Key) (s : World × Alarm) (label : Label) : Prop :=
  s.2.failed = true → Acts key s.1 label → ∀ id ∈ label.mover, s.2.informed id = true

-- After a failure nobody reads the block flag of the key before the block is
-- recorded, and the recovery that records it is not cancelled.
def Recorded (key : Key) (s : World × Alarm) : Label → Prop
  | .answer id ids _ => s.2.failed = true → s.1.awaited id ids = some (.store (.isBlocked key)) →
      ∀ other call, s.1.calls other = some call → call.task.recording key = false
  | .lose id ids _ => ∀ await, s.1.awaited id ids = some await → ¬ s.1.Fails key await
  | .cancel id => ∀ call, s.1.calls id = some call → call.task.recording key = false
  | _ => True

-- A block is recorded under two ids that no row has.
def FreshBlocks (w : World) : Label → Prop
  | .answer id ids _ => fresh id ids
  | .lose id ids _ => fresh id ids
  | _ => True
where
  fresh (id : CallId) (ids : Ids) : Prop :=
    match w.awaited id ids with
    | some (.store (.blockConnector rowId token _ _)) =>
        ∀ row ∈ w.shared.store.select fun _ => true, row.id ≠ rowId ∧ row.leaseToken ≠ token
    | _ => True

end World

namespace World

variable {key : Key} {w : World} {label : Label}

instance : Decidable (w.Acts key label) := by
  have hacts : ∀ id ids, Decidable (Acts.acts key w id ids) := by
    intro id ids
    unfold Acts.acts
    split <;> infer_instance
  unfold Acts
  split <;> infer_instance

instance {s : World × Alarm} : Decidable (ActsInformed key s label) := by
  unfold ActsInformed
  infer_instance

instance : Decidable (w.FreshBlocks label) := by
  have hfresh : ∀ id ids, Decidable (FreshBlocks.fresh w id ids) := by
    intro id ids
    unfold FreshBlocks.fresh
    split <;> infer_instance
  unfold FreshBlocks
  split <;> infer_instance

end World

namespace LeaseTable

variable {t next : LeaseTable} {timed : TimedCall} {key : Key} {id : String}

-- The key has a row that blocks it.
def Blocks (t : LeaseTable) (key : Key) : Prop :=
  ∃ id row, t.rows.lookup id = some row ∧ row.key = key ∧ row.status = .blocked

theorem Blocks.isBlocked {now : Time} (h : t.Blocks key) :
    ∃ reason, (t.respond ⟨now, .isBlocked key⟩).1 = .reason (some reason) := by
  obtain ⟨id, row, hl, hk, hb⟩ := h
  have hmem : row ∈ t.select fun row => decide (row.key = key) && decide (row.status = .blocked) :=
    mem_select.mpr ⟨t.keyed id row hl ▸ hl, by simp [hk, hb]⟩
  obtain ⟨last, hlast⟩ : ∃ last, List.argmax ProviderRouteLeaseRow.acquiredAt
      (t.select fun row => decide (row.key = key) && decide (row.status = .blocked)) = some last :=
    Option.ne_none_iff_exists'.mp (mt List.argmax_eq_none.mp (List.ne_nil_of_mem hmem))
  have hfound : (t.blockingRow key).isSome := by
    refine List.find?_isSome.mpr ⟨last, List.argmax_mem hlast, ?_⟩
    simp only [List.all_eq_true, decide_eq_true_eq]
    exact fun other hother => List.le_of_mem_argmax hother hlast
  obtain ⟨blocking, hblocking⟩ := Option.isSome_iff_exists.mp hfound
  refine ⟨blockReason blocking.details, ?_⟩
  rw [respond, LeaseTable.isBlocked, hblocking, Option.map_some]

-- A block stays until it is cleared: the rows of leases are no blocks.
theorem Blocks.step (h : t.Blocks key) (heffect : Effect t timed next)
    (htarget : ∀ id, timed.call.target = some id → ∀ row, t.rows.lookup id = some row → row.ofLeaseCall)
    (hclear : timed.call ≠ .clearBlock key) : next.Blocks key := by
  obtain ⟨id, row, hl, hk, hb⟩ := h
  have hid : timed.call.target ≠ some id := fun he => (htarget id he row hl).1 hb
  exact ⟨id, row, heffect.untouched hl hid (.inr (hk ▸ hclear)), hk, hb⟩

theorem blocks_of_blocked {now : Time} {rowId token reason : String}
    (hfresh : ∀ id row, t.rows.lookup id = some row → row.id ≠ rowId ∧ row.leaseToken ≠ token) :
    (t.respond ⟨now, .blockConnector rowId token key reason⟩).1 = .done ∧
      (t.respond ⟨now, .blockConnector rowId token key reason⟩).2.Blocks key := by
  have hfree : t.select (ProviderRouteLeaseRow.blockRow now rowId token key reason).clashes = [] := by
    refine Table.select_eq_nil_iff.mpr fun id row hl => ?_
    obtain ⟨hid, htoken⟩ := hfresh id row hl
    simp [ProviderRouteLeaseRow.clashes, ProviderRouteLeaseRow.blockRow, Ne.symm hid, Ne.symm htoken]
  simp only [respond, blockConnector, insert, dif_pos hfree]
  exact ⟨rfl, rowId, _, AList.lookup_insert _, rfl, rfl⟩

end LeaseTable

namespace RecoverPc

-- The stages that a store which answers is never asked for.
def irregular : RecoverPc → Bool
  | failBlock _ => true
  | failMark _ => true
  | _ => false

end RecoverPc

def Task.Regular (task : Task) : Prop :=
  ∀ lease rest reports pc, task.frame = some (.round lease rest reports pc) → pc.irregular = false

abbrev World.Regular (w : World) : Prop :=
  Annotated (fun _ => True) (fun (_ : View) (call : Call) => call.task.Regular) (fun _ _ => True)
    w.shared.view w.calls

theorem Recovery.irregular_of_goes {ids : Ids} {frame : Recovery} {answer : Answer}
    {lease : ProviderRouteLease} {rest : List ProviderRouteLease} {reports : List RecoveryReport}
    {pc : RecoverPc} (h : Goes ids frame answer (.round lease rest reports pc))
    (hpc : pc.irregular = true) :
    (∃ claimed before, frame = .round lease rest reports before ∧ before.copy = some claimed ∧
      ((∃ owner outcome, before = .mark claimed owner outcome) ∨
        ∃ outcome, before = .block claimed outcome) ∧
      ∃ failure late, answer = .store (.raised failure) late) ∨
    ∃ before, frame = .round lease rest reports before ∧ before.irregular = true := by
  cases h with
  | listed hstarts => cases hstarts <;> cases hpc
  | onward hstarts => cases hstarts <;> cases hpc
  | unmarked => exact .inl ⟨_, _, rfl, rfl, .inl ⟨_, _, rfl⟩, _, _, rfl⟩
  | unblocked => exact .inl ⟨_, _, rfl, rfl, .inr ⟨_, rfl⟩, _, _, rfl⟩
  | failBlocked => exact .inr ⟨_, rfl, rfl⟩
  | _ => cases hpc

namespace Task

variable {key : Key} {ids : Ids} {task : Task} {await : Await} {answer : Answer}
  {resumed : Resumed Task}

theorem recording_iff : task.recording key = true ↔ ∃ lease rest reports claimed outcome,
    task.frame = some (.round lease rest reports (.block claimed outcome)) ∧ claimed.key = key := by
  constructor
  · intro h
    unfold recording at h
    split at h
    next lease rest reports claimed outcome hframe =>
      exact ⟨_, _, _, _, _, hframe, of_decide_eq_true h⟩
    next => cases h
  · rintro ⟨lease, rest, reports, claimed, outcome, hframe, hkey⟩
    rw [recording, hframe]
    exact decide_eq_true hkey

-- Where a frame goes the task that has it goes.
theorem frame_of_going {frame after : Recovery} {unlock : Bool} (hframe : task.frame = some frame)
    (hgoing : ∀ managerId connectors,
      frame.resume ids managerId connectors answer = some ⟨.going after, unlock⟩)
    (h : task.resume ids answer = some resumed) : resumed.next.frame = some after := by
  cases task with
  | lifecycle other args pc =>
      cases pc with
      | recovering =>
          cases hframe
          simp only [resume, Lifecycle.resume, hgoing, Option.map_some, Option.some.injEq] at h
          rw [← h]
          rfl
      | _ => cases hframe
  | serialised other args pc =>
      cases pc with
      | recovering =>
          cases hframe
          simp only [resume, Serialised.resume, hgoing, Option.map_some, Option.some.injEq] at h
          rw [← h]
          rfl
      | _ => cases hframe
  | recovery managerId connectors other =>
      cases hframe
      simp only [resume, hgoing, Option.map_some, Option.some.injEq] at h
      rw [← h]
      rfl
  | recovered => cases hframe

-- A task that marks a lease as failed is at its regular mark, or cleans up a failure.
theorem failing_of_await {leaseId token : String} {details : Mapping}
    (h : task.await ids = some (.store (.markRecovery leaseId token "recovery_failed" details))) :
    ∃ lease rest reports pc, task.frame = some (.round lease rest reports pc) ∧
      (pc.irregular = true ∨ ∃ claimed owner outcome, pc = .mark claimed owner outcome ∧
        claimed.leaseId = leaseId ∧ claimed.leaseToken = token ∧
        Recovery.status outcome = "recovery_failed") := by
  have htargeting := targeting_of_await h rfl
  have hframe : ∃ frame, task.frame = some frame := by
    cases htargeting with
    | skip hframe => exact ⟨_, hframe⟩
    | mark hframe => exact ⟨_, hframe⟩
    | failMark hframe => exact ⟨_, hframe⟩
  obtain ⟨frame, hframe⟩ := hframe
  have hawait := Option.some.inj ((await_frame hframe).symm.trans h)
  cases frame with
  | list => cases hawait
  | round lease rest reports pc =>
      refine ⟨lease, rest, reports, pc, hframe, ?_⟩
      cases pc with
      | mark claimed owner outcome =>
          simp only [Recovery.await, Await.store.injEq, LeaseCall.markRecovery.injEq] at hawait
          exact .inr ⟨claimed, owner, outcome, rfl, hawait.1, hawait.2.1, hawait.2.2.1⟩
      | failMark => exact .inl rfl
      | restore => exact absurd hawait (restoreAwait_ne_store _ _ _)
      | skip =>
          simp only [Recovery.await, Await.store.injEq, LeaseCall.markRecovery.injEq] at hawait
          exact absurd hawait.2.2.1 (by decide)
      | _ => cases hawait

theorem checking_of_await (h : task.await ids = some (.store (.isBlocked key))) :
    (∃ args, task = .lifecycle key args .checkBlock) ∨ ∃ args, task = .serialised key args .checkBlock := by
  cases hframe : task.frame with
  | some frame =>
      have hawait := Option.some.inj ((await_frame hframe).symm.trans h)
      cases frame with
      | list => cases hawait
      | round lease rest reports pc =>
          cases pc with
          | restore => exact absurd hawait (restoreAwait_ne_store _ _ _)
          | _ => cases hawait
  | none =>
      cases task with
      | lifecycle other args pc =>
          cases pc with
          | checkBlock =>
              cases h
              exact .inl ⟨args, rfl⟩
          | restore => exact absurd (Option.some.inj h) (restoreAwait_ne_store _ _ _)
          | recovering => cases hframe
          | _ => cases h
      | serialised other args pc =>
          cases pc with
          | checkBlock =>
              cases h
              exact .inr ⟨args, rfl⟩
          | recovering => cases hframe
          | _ => cases h
      | recovery => cases hframe
      | recovered => cases h

theorem await_ne_clear : task.await ids ≠ some (.store (.clearBlock key)) := by
  intro h
  cases hframe : task.frame with
  | some frame =>
      have hawait := Option.some.inj ((await_frame hframe).symm.trans h)
      cases frame with
      | list => cases hawait
      | round lease rest reports pc =>
          cases pc with
          | restore => exact restoreAwait_ne_store _ _ _ hawait
          | _ => cases hawait
  | none =>
      cases task with
      | lifecycle other args pc =>
          cases pc with
          | restore => exact restoreAwait_ne_store _ _ _ (Option.some.inj h)
          | recovering => cases hframe
          | _ => cases h
      | serialised other args pc =>
          cases pc with
          | recovering => cases hframe
          | _ => cases h
      | recovery => cases hframe
      | recovered => cases h

-- A call of the key that has ended does not start again.
theorem engagedOn_of_resume (h : task.resume ids answer = some resumed)
    (hidle : task.engagedOn key = false) : resumed.next.engagedOn key = false := by
  cases task with
  | lifecycle other args pc =>
      obtain ⟨next, hnext, rfl⟩ := Option.map_eq_some_iff.mp h
      by_cases he : other = key
      · cases pc <;> simp [engagedOn, he, LifecyclePc.ended] at hidle
        cases hnext
      · simp [engagedOn, he]
  | serialised other args pc =>
      obtain ⟨next, hnext, rfl⟩ := Option.map_eq_some_iff.mp h
      by_cases he : other = key
      · cases pc <;> simp [engagedOn, he, SerialisedPc.ended] at hidle
        cases hnext
      · simp [engagedOn, he]
  | recovery =>
      obtain ⟨⟨next, unlock⟩, -, rfl⟩ := Option.map_eq_some_iff.mp h
      cases next <;> rfl
  | recovered => cases h

theorem engagedOn_of_cancel (h : task.cancel = some resumed) (hidle : task.engagedOn key = false) :
    resumed.next.engagedOn key = false := by
  cases task with
  | lifecycle other args pc =>
      obtain ⟨next, hnext, rfl⟩ := Option.map_eq_some_iff.mp h
      by_cases he : other = key
      · cases pc <;> simp [engagedOn, he, LifecyclePc.ended] at hidle
        cases hnext
      · simp [engagedOn, he]
  | serialised other args pc =>
      obtain ⟨next, hnext, rfl⟩ := Option.map_eq_some_iff.mp h
      by_cases he : other = key
      · cases pc <;> simp [engagedOn, he, SerialisedPc.ended] at hidle
        cases hnext
      · simp [engagedOn, he]
  | recovery =>
      cases h
      rfl
  | recovered => cases h

-- A blocked call ends.
theorem engagedOn_of_blocked {reason : String} {late : Bool}
    (hawait : task.await ids = some (.store (.isBlocked key)))
    (h : task.resume ids (.store (.reason (some reason)) late) = some resumed) :
    resumed.next.engagedOn key = false := by
  rcases checking_of_await hawait with ⟨args, rfl⟩ | ⟨args, rfl⟩ <;> cases h <;>
    simp [engagedOn, LifecyclePc.ended, SerialisedPc.ended]

theorem engagedOn_of_checking (hawait : task.await ids = some (.store (.isBlocked key)))
    (h : task.cancel = some resumed) : resumed.next.engagedOn key = false := by
  rcases checking_of_await hawait with ⟨args, rfl⟩ | ⟨args, rfl⟩ <;> cases h <;>
    simp [engagedOn, LifecyclePc.ended, SerialisedPc.ended]

end Task

namespace World

-- A failure is on record as a block, or a recovery goes to record it, and whoever
-- has read the flag since then has ended.
structure Alarmed (key : Key) (s : World × Alarm) : Prop where
  known : s.1.Known
  regular : s.1.Regular
  recorded : s.2.failed = true → s.1.shared.store.Blocks key ∨
    ∃ id call, s.1.calls id = some call ∧ call.task.recording key = true
  informed : s.2.failed = true → ∀ id call, s.1.calls id = some call → s.2.informed id = true →
    call.task.engagedOn key = false

section

variable {key : Key} {w next : World} {seen : Alarm} {label : Label} {id : CallId} {call : Call}
  {ids : Ids} {await : Await} {answer : Answer} {t : Shared} {resumed : Resumed Task}

theorem FreshBlocks.done {rowId token reason : String} (h : FreshBlocks.fresh w id ids)
    (hawait : w.awaited id ids = some (.store (.blockConnector rowId token key reason))) :
    (w.shared.store.respond ⟨w.shared.clock, .blockConnector rowId token key reason⟩).1 = .done ∧
      (w.shared.store.respond ⟨w.shared.clock, .blockConnector rowId token key reason⟩).2.Blocks
        key := by
  rw [FreshBlocks.fresh, hawait] at h
  exact LeaseTable.blocks_of_blocked fun rowId row hl =>
    h row (LeaseTable.mem_select.mpr ⟨w.shared.store.keyed rowId row hl ▸ hl, rfl⟩)

theorem Regular.own_resume (h : w.Regular) (hknown : w.Known) (hfresh : FreshBlocks.fresh w id ids)
    (hcall : w.calls id = some call) (hlive : call.crashed = false)
    (hawait : call.task.await ids = some await)
    (hperform : Shared.Performed w.shared await answer t)
    (hresume : call.task.resume ids answer = some resumed) : resumed.next.Regular := by
  intro lease rest reports pc hframe
  by_contra hirregular
  rcases Task.frame_of_resume hresume hframe with hlist | ⟨frame, hf, hgoes⟩
  · cases hlist
  have hawaited := (awaited_of_call hcall hlive).trans hawait
  obtain rfl := Option.some.inj (hawait.symm.trans (Task.await_frame hf))
  rcases Recovery.irregular_of_goes hgoes (by simpa using hirregular) with
    ⟨claimed, before, rfl, hcopy, hstage, failure, late, rfl⟩ | ⟨before, rfl, hbefore⟩
  · have hclaimed := (hknown.frame hcall hf).claimed hcopy
    rcases hstage with ⟨owner, outcome, rfl⟩ | ⟨outcome, rfl⟩
    · obtain ⟨found, late, hanswer⟩ := hclaimed.mark_answered hperform
      cases hanswer
    · obtain ⟨⟨late, hanswer⟩, -⟩ := hperform.respond nofun
      rw [(FreshBlocks.done hfresh hawaited).1] at hanswer
      cases hanswer
  · rw [h.thread id call hcall _ _ _ _ hf] at hbefore
    cases hbefore

theorem Regular.step (h : w.Regular) (hknown : w.Known) (hfresh : w.FreshBlocks label)
    (hstep : w.step label = some next) : next.Regular := by
  have hstep := World.step_cases hstep
  cases hstep with
  | @start id process entry hnew =>
      refine h.move trivial ?_ (fun _ _ _ _ hm => hm) (by simp)
      intro lease rest reports pc hframe
      cases entry <;> cases hframe
  | answer hcall hlive hawait hperform hresume =>
      rw [World.Regular, World.put_view]
      exact h.move trivial (h.own_resume hknown hfresh hcall hlive hawait (Shared.performed hperform)
        hresume) (fun _ _ _ _ hm => hm) (by simp)
  | lose hcall hlive hawait hperform hopen hcancel =>
      rw [World.Regular, World.put_view]
      refine h.move trivial (fun lease rest reports pc hframe => ?_) (fun _ _ _ _ hm => hm) (by simp)
      rw [Task.frame_of_cancel hcancel] at hframe
      cases hframe
  | cancel hcall hlive hcancel =>
      rw [World.Regular, World.put_view]
      refine h.move trivial (fun lease rest reports pc hframe => ?_) (fun _ _ _ _ hm => hm) (by simp)
      rw [Task.frame_of_cancel hcancel] at hframe
      cases hframe
  | @crash process =>
      refine h.relabel (f := fun call => if call.process = process then
        { call with crashed := true } else call) (fun m hm => ?_) (fun _ _ h => h)
      split <;> exact hm
  | tick => exact h
  | clearBlock => exact h.shift trivial fun _ _ _ hm => hm

-- The block that is there stays, or the operation is the one that records it.
theorem Alarmed.block_kept (h : Alarmed key (w, seen)) (hcall : w.calls id = some call)
    (hawait : call.task.await ids = some await)
    (hperform : Shared.Performed w.shared await answer t) (hblocks : w.shared.store.Blocks key) :
    t.store.Blocks key := by
  rcases hperform.effect (Task.plain_of_await hawait) with hsame | ⟨timed, rfl, heffect⟩
  · exact hsame ▸ hblocks
  · refine hblocks.step heffect
      (fun leaseId htarget row hl => h.known.target_ofLease hcall hawait htarget hl) ?_
    rintro rfl
    exact Task.await_ne_clear hawait

-- The failure stays on record, whatever operation is done.
theorem Alarmed.still_recorded (h : Alarmed key (w, seen)) (hfresh : FreshBlocks.fresh w id ids)
    (hcall : w.calls id = some call) (hlive : call.crashed = false)
    (hawait : call.task.await ids = some await)
    (hperform : Shared.Performed w.shared await answer t) (hfailed : seen.failed = true) :
    t.store.Blocks key ∨ ∃ other recorder, other ≠ id ∧ w.calls other = some recorder ∧
      recorder.task.recording key = true := by
  rcases h.recorded hfailed with hblocks | ⟨other, recorder, hother, hrecording⟩
  · exact .inl (h.block_kept hcall hawait hperform hblocks)
  by_cases he : other = id
  · subst he
    obtain rfl := Option.some.inj (hcall.symm.trans hother)
    obtain ⟨lease, rest, reports, claimed, outcome, hframe, rfl⟩ := Task.recording_iff.mp hrecording
    have hawaited := (awaited_of_call hcall hlive).trans hawait
    obtain rfl := Option.some.inj (hawait.symm.trans (Task.await_frame hframe))
    rw [hperform.respond_store nofun]
    exact .inl (FreshBlocks.done hfresh hawaited).2
  · exact .inr ⟨other, recorder, he, hother, hrecording⟩

theorem Alarmed.recorded_put (h : t.store.Blocks key ∨ ∃ other recorder, other ≠ id ∧
      w.calls other = some recorder ∧ recorder.task.recording key = true) :
    (w.put id call t resumed).shared.store.Blocks key ∨
      ∃ other recorder, (w.put id call t resumed).calls other = some recorder ∧
        recorder.task.recording key = true := by
  have hstore : (w.put id call t resumed).shared.store = t.store :=
    congrArg View.store (put_view w id call t resumed)
  rcases h with hblocks | ⟨other, recorder, hne, hother, hrecording⟩
  · exact .inl (hstore ▸ hblocks)
  · exact .inr ⟨other, recorder, (put_other w call t resumed hne).trans hother, hrecording⟩

-- Whoever was informed has ended, whoever moves.
theorem Alarmed.informed_put {informed : CallId → Bool}
    (h : ∀ other before, w.calls other = some before → other ≠ id → informed other = true →
      before.task.engagedOn key = false)
    (hown : informed id = true → resumed.next.engagedOn key = false) :
    ∀ other after, (w.put id call t resumed).calls other = some after → informed other = true →
      after.task.engagedOn key = false := by
  intro other after hafter hinformed
  by_cases he : other = id
  · subst he
    rw [put_self, Option.some.injEq] at hafter
    exact hafter ▸ hown hinformed
  · rw [put_other w call t resumed he] at hafter
    exact h other after hafter he hinformed

-- What an operation makes of the alarm.
theorem alarm_after (hcall : w.calls id = some call) (hlive : call.crashed = false)
    (hawait : call.task.await ids = some await) : alarm.after key seen w id ids =
      if w.Fails key await then { failed := true }
      else if await = .store (.isBlocked key) then
        { seen with informed := Function.update seen.informed id true }
      else seen := by
  simp only [alarm.after, (awaited_of_call hcall hlive).trans hawait]

-- The alarm after an operation that is no failure.
theorem Alarmed.operate (h : Alarmed key (w, seen)) (hfresh : FreshBlocks.fresh w id ids)
    (hcall : w.calls id = some call) (hlive : call.crashed = false)
    (hawait : call.task.await ids = some await)
    (hperform : Shared.Performed w.shared await answer t)
    (hknown : (w.put id call t resumed).Known) (hregular : (w.put id call t resumed).Regular)
    (hfails : ¬ w.Fails key await)
    (hchecked : seen.failed = true → await = .store (.isBlocked key) →
      resumed.next.engagedOn key = false)
    (hidle : call.task.engagedOn key = false → resumed.next.engagedOn key = false) :
    Alarmed key (w.put id call t resumed, alarm.after key seen w id ids) := by
  have hafter : alarm.after key seen w id ids = if await = .store (.isBlocked key) then
      { seen with informed := Function.update seen.informed id true } else seen :=
    (alarm_after hcall hlive hawait).trans (if_neg hfails)
  refine ⟨hknown, hregular, ?_, ?_⟩
  · intro hfailed
    have hfailed : seen.failed = true := by
      rw [hafter] at hfailed
      split at hfailed <;> exact hfailed
    exact recorded_put (h.still_recorded hfresh hcall hlive hawait hperform hfailed)
  · intro hfailed
    rw [hafter] at hfailed ⊢
    split at hfailed
    next hcheck =>
      rw [if_pos hcheck]
      refine informed_put (fun other before hbefore hne hinformed => ?_)
        fun _ => hchecked hfailed hcheck
      exact h.informed hfailed other before hbefore
        (by simpa only [Function.update_of_ne hne] using hinformed)
    next hother =>
      rw [if_neg hother]
      exact informed_put (fun other before hbefore _ => h.informed hfailed other before hbefore)
        fun hinformed => hidle (h.informed hfailed id call hcall hinformed)

-- A failing mark that is answered leads to the record of the block.
theorem Alarmed.recording_of_failure (h : Alarmed key (w, seen)) (hcall : w.calls id = some call)
    (hawait : call.task.await ids = some await)
    (hperform : Shared.Performed w.shared await answer t)
    (hresume : call.task.resume ids answer = some resumed) (hfails : w.Fails key await) :
    resumed.next.recording key = true := by
  unfold Fails at hfails
  split at hfails
  next leaseId token status details =>
    obtain ⟨rfl, row, hl, -, hk⟩ := hfails
    obtain ⟨lease, rest, reports, pc, hframe, hirregular | ⟨claimed, owner, outcome, rfl, rfl, rfl,
      hfailed⟩⟩ := Task.failing_of_await hawait
    · rw [h.regular.thread id call hcall _ _ _ _ hframe] at hirregular
      cases hirregular
    · have hclaimed := (h.known.frame hcall hframe).claimed rfl
      obtain ⟨found, late, rfl⟩ := hclaimed.mark_answered hperform
      have hgoing : ∀ managerId connectors,
          (Recovery.round lease rest reports (.mark claimed owner outcome)).resume ids managerId
            connectors (.store (.lease (some found)) late) =
          some ⟨.going (.round lease rest reports (.block claimed outcome)), false⟩ := by
        intro managerId connectors
        simp only [Recovery.resume, if_pos hfailed]
      exact Task.recording_iff.mpr ⟨lease, rest, reports, claimed, outcome,
        Task.frame_of_going hframe hgoing hresume, (hclaimed.key_eq hl).trans hk⟩
  next => exact hfails.elim

-- A call that reads the flag once the block is recorded ends.
theorem Alarmed.checked (h : Alarmed key (w, seen))
    (hawait : call.task.await ids = some (.store (.isBlocked key)))
    (hperform : Shared.Performed w.shared (.store (.isBlocked key)) answer t)
    (hresume : call.task.resume ids answer = some resumed) (hfailed : seen.failed = true)
    (hrecorded : ∀ other recorder, w.calls other = some recorder →
      recorder.task.recording key = false) : resumed.next.engagedOn key = false := by
  have hblocks : w.shared.store.Blocks key := by
    rcases h.recorded hfailed with hblocks | ⟨other, recorder, hother, hrecording⟩
    · exact hblocks
    · rw [hrecorded other recorder hother] at hrecording
      cases hrecording
  have hreply : ∃ reason, (w.shared.store.respond ⟨w.shared.clock, .isBlocked key⟩).1 =
      .reason (some reason) := hblocks.isBlocked
  obtain ⟨reason, hreason⟩ := hreply
  obtain ⟨⟨late, rfl⟩, -⟩ := hperform.respond nofun
  rw [hreason] at hresume
  exact Task.engagedOn_of_blocked hawait hresume

theorem Alarmed.step {s next : World × Alarm} (h : Alarmed key s) (hrecorded : Recorded key s label)
    (hfresh : s.1.FreshBlocks label) (hstep : watched World.step (alarm key) s label = some next) :
    Alarmed key next := by
  obtain ⟨w, seen⟩ := s
  obtain ⟨next, after⟩ := next
  obtain ⟨hstep, hnote⟩ := watched_eq_some hstep
  obtain rfl : after = alarm key seen w label := hnote
  have hknown := h.known.step hstep
  have hregular := h.regular.step h.known hfresh hstep
  have hcases := World.step_cases hstep
  cases hcases with
  | @start id process entry hnew =>
      refine ⟨hknown, hregular, fun hfailed => ?_, fun hfailed other call hcall hinformed => ?_⟩
      · rcases h.recorded hfailed with hblocks | ⟨other, recorder, hother, hrecording⟩
        · exact .inl hblocks
        · have hne : other ≠ id := by
            rintro rfl
            cases hnew.symm.trans hother
          exact .inr ⟨other, recorder, (Function.update_of_ne hne _ _).trans hother, hrecording⟩
      · by_cases he : other = id
        · subst he
          simp [alarm] at hinformed
        · refine h.informed hfailed other call ((Function.update_of_ne he _ _).symm.trans hcall) ?_
          simpa only [alarm, Function.update_of_ne he] using hinformed
  | @answer id call ids choice await answer shared resumed hcall hlive hawait hperform hresume =>
      have hperform := Shared.performed hperform
      by_cases hfails : w.Fails key await
      · have hafter : alarm key seen w (.answer id ids choice) = { failed := true } :=
          (alarm_after hcall hlive hawait).trans (if_pos hfails)
        have hrecording := h.recording_of_failure hcall hawait hperform hresume hfails
        rw [hafter]
        exact ⟨hknown, hregular, fun _ => .inr ⟨id, _, put_self .., hrecording⟩,
          fun _ _ _ _ hinformed => (by cases hinformed)⟩
      · refine h.operate hfresh hcall hlive hawait hperform hknown hregular hfails ?_
          (Task.engagedOn_of_resume hresume)
        rintro hfailed rfl
        exact h.checked hawait hperform hresume hfailed
          (hrecorded hfailed ((awaited_of_call hcall hlive).trans hawait))
  | @lose id call ids choice await answer shared resumed hcall hlive hawait hperform hopen hcancel =>
      refine h.operate hfresh hcall hlive hawait (Shared.performed hperform) hknown hregular
        (hrecorded await ((awaited_of_call hcall hlive).trans hawait)) ?_
        (Task.engagedOn_of_cancel hcancel)
      rintro - rfl
      exact Task.engagedOn_of_checking hawait hcancel
  | @cancel id call resumed hcall hlive hcancel =>
      refine ⟨hknown, hregular, fun hfailed => recorded_put ?_, fun hfailed => informed_put
        (fun other before hbefore _ => h.informed hfailed other before hbefore)
        fun hinformed => Task.engagedOn_of_cancel hcancel (h.informed hfailed id call hcall hinformed)⟩
      rcases h.recorded hfailed with hblocks | ⟨other, recorder, hother, hrecording⟩
      · exact .inl hblocks
      · refine .inr ⟨other, recorder, ?_, hother, hrecording⟩
        rintro rfl
        rw [hrecorded recorder hother] at hrecording
        cases hrecording
  | @crash process =>
      refine ⟨hknown, hregular, fun hfailed => ?_, fun hfailed other call hcall hinformed => ?_⟩
      · rcases h.recorded hfailed with hblocks | ⟨other, recorder, hother, hrecording⟩
        · exact .inl hblocks
        · refine .inr ⟨other, _, Option.map_eq_some_iff.mpr ⟨recorder, hother, rfl⟩, ?_⟩
          split <;> exact hrecording
      · obtain ⟨before, hbefore, rfl⟩ := Option.map_eq_some_iff.mp hcall
        have hidle := h.informed hfailed other before hbefore hinformed
        split <;> exact hidle
  | tick => exact ⟨hknown, hregular, h.recorded, h.informed⟩
  | @clearBlock cleared =>
      by_cases he : cleared = key
      · have hafter : alarm key seen w (.clearBlock cleared) = { seen with failed := false } :=
          if_pos he
        rw [hafter]
        exact ⟨hknown, hregular, fun hfailed => (by cases hfailed), fun hfailed => (by cases hfailed)⟩
      · have hafter : alarm key seen w (.clearBlock cleared) = seen := if_neg he
        rw [hafter]
        refine ⟨hknown, hregular, fun hfailed => ?_, h.informed⟩
        rcases h.recorded hfailed with hblocks | hrecorder
        · have heffect : LeaseTable.Effect w.shared.store ⟨w.shared.clock, .clearBlock cleared⟩
              (w.shared.store.clearBlock cleared) := .cleared rfl
          exact .inl (hblocks.step heffect nofun fun hsame => he (LeaseCall.clearBlock.inj hsame))
        · exact .inr hrecorder

-- A call that acts has not ended.
theorem Acts.engaged (h : Acts.acts key w id ids) :
    ∃ call, w.calls id = some call ∧ call.task.engagedOn key = true := by
  unfold acts at h
  split at h
  next leaseId token request hawait =>
    obtain ⟨call, hlive, hawait⟩ := Option.bind_eq_some_iff.mp hawait
    refine ⟨call, (live_eq_some hlive).1, ?_⟩
    obtain ⟨-, -, ⟨other, args, current, htask, rfl⟩ | ⟨other, args, current, htask, rfl⟩⟩ :=
      Task.acquiring_of_await hawait
    · have hkey : other = key := h.1
      simp [htask, hkey, Task.engagedOn, LifecyclePc.ended]
    · have hkey : other = key := h.1
      simp [htask, hkey, Task.engagedOn, SerialisedPc.ended]
  next await hother hawait =>
    obtain ⟨call, hlive, hawait⟩ := Option.bind_eq_some_iff.mp hawait
    obtain ⟨hmutates, same, hsame, hframe⟩ := h
    obtain rfl := Option.some.inj (hlive.symm.trans hsame)
    refine ⟨call, (live_eq_some hlive).1, ?_⟩
    have hmutating := Task.mutating_of_await hawait hmutates
    generalize call.task = task at hmutating hframe
    cases hmutating with
    | recover hf =>
        rw [hf] at hframe
        cases hframe
    | _ => simp [Task.engagedOn, LifecyclePc.ended, SerialisedPc.ended]
  next => exact h.elim

theorem Alarmed.not_acts {s : World × Alarm} (h : Alarmed key s) (hinformed : ActsInformed key s label)
    (hfailed : s.2.failed = true) : ¬ Acts key s.1 label := by
  intro hacts
  have hengaged : ∃ id ∈ label.mover, ∃ call, s.1.calls id = some call ∧
      call.task.engagedOn key = true := by
    cases label with
    | answer id ids => exact ⟨id, rfl, Acts.engaged hacts⟩
    | lose id ids => exact ⟨id, rfl, Acts.engaged hacts⟩
    | _ => exact hacts.elim
  obtain ⟨id, hmover, call, hcall, hengaged⟩ := hengaged
  rw [h.informed hfailed id call hcall (hinformed hfailed hacts id hmover)] at hengaged
  cases hengaged

theorem alarmed_initial (routes : Key → RouteState) : Alarmed key (initial routes, {}) where
  known := known_initial routes
  regular := ⟨trivial, fun _ _ hc => (by cases hc), fun _ _ _ _ _ _ _ => trivial⟩
  recorded hfailed := by cases hfailed
  informed hfailed := by cases hfailed

-- In every run in which nobody reads the flag while a failure is being recorded, and
-- nobody acts on a flag read before it, a failure stops the calls of its key.
theorem stopped_after_failure {key : Key} {routes : Key → RouteState} {labels : List Label}
    (hfresh : Along World.step FreshBlocks (initial routes) labels)
    (hrecorded : Along (watched World.step (alarm key)) (Recorded key) (initial routes, {}) labels)
    (hinformed : Along (watched World.step (alarm key)) (ActsInformed key) (initial routes, {})
      labels) :
    Along (watched World.step (alarm key)) (fun s label => s.2.failed = true → ¬ Acts key s.1 label)
      (initial routes, {}) labels := by
  have hfreshly : Along (watched World.step (alarm key)) (fun s label => FreshBlocks s.1 label)
      (initial routes, {}) labels := hfresh.watched
  have hstep : ∀ s label t, Alarmed key s →
      (FreshBlocks s.1 label ∧ Recorded key s label) ∧ ActsInformed key s label →
      watched World.step (alarm key) s label = some t → Alarmed key t :=
    fun s label t h hcond hstep => h.step hcond.1.2 hcond.1.1 hstep
  exact Along.of_invariant hstep (fun s label h hcond => h.not_acts hcond.2)
    (alarmed_initial routes) ((hfreshly.and hrecorded).and hinformed)

end

end World

section Samples

-- A lifecycle dies with the route enabled, and its lease expires.
def abandoned : List Label :=
  opening 0 0 "first" ++
  answers 0 "first" [.reading (readingOf routeOff), .plain, switched routeOn] ++
  [.crash 0, .tick 200000000]

def disableFails : Choice := .raised none (.other "RuntimeError" "disable failed")

-- A recovery of its own fails to disable the route and records the block.
def recoveryFails : List Label :=
  abandoned ++ [.start 1 1 (.recovery openCode.1 none)] ++
    answers 1 "second" [.plain, .plain, .plain, disableFails, .plain, .plain]

-- Then a lifecycle and a serialised mutation read the flag.
def turnedAway : List Label :=
  recoveryFails ++
    [.start 2 2 (.lifecycle openCode { owner := "third" }), .answer 2 ⟨"third", "third"⟩ .plain,
      .start 3 3 (.serialised openCode { owner := "fourth" }), .answer 3 ⟨"fourth", "fourth"⟩ .plain]

-- Four calls, none of them cancelled, and the flag is read when none of them is recording.
def World.Quiet (key : Key) (s : World × Alarm) : Label → Prop
  | .start id _ _ => id < 4
  | .answer id ids _ => s.2.failed = true → s.1.awaited id ids = some (.store (.isBlocked key)) →
      ∀ other < 4, ∀ call ∈ s.1.calls other, call.task.recording key = false
  | .lose _ _ _ => False
  | .cancel _ => False
  | _ => True

instance {key : Key} {s : World × Alarm} {label : Label} : Decidable (World.Quiet key s label) := by
  unfold World.Quiet
  split <;> infer_instance

theorem World.recorded_of_quiet {key : Key} {routes : Key → RouteState} {labels : List Label}
    (h : Along (watched World.step (alarm key)) (Quiet key) (initial routes, {}) labels) :
    Along (watched World.step (alarm key)) (Recorded key) (initial routes, {}) labels := by
  have hstep : ∀ s label t, (∀ id, s.1.calls id ≠ none → id < 4) → Quiet key s label →
      watched World.step (alarm key) s label = some t → ∀ id, t.1.calls id ≠ none → id < 4 := by
    intro s label t hs hquiet hstep id hid
    rcases (step_cases (watched_eq_some hstep).1).calls hid with hbefore | hstarted
    · exact hs id hbefore
    · cases label with
      | start => exact Option.some.inj hstarted ▸ hquiet
      | _ => cases hstarted
  refine h.of_invariant hstep (fun s label hs hquiet => ?_) fun id hid => absurd rfl hid
  cases label with
  | answer id ids choice =>
      exact fun hfailed hawait other call hcall =>
        hquiet hfailed hawait other (hs other (by simp [hcall])) call hcall
  | lose => exact hquiet.elim
  | cancel => exact hquiet.elim
  | _ => trivial

theorem stopped_sample :
    (run World.step (World.initial fireConnect.disable) turnedAway).map (fun w =>
        (w.awaited 2 ⟨"third", "third"⟩, w.awaited 3 ⟨"fourth", "fourth"⟩)) = some (none, none) ∧
    Along (watched World.step (World.alarm openCode))
      (fun s label => s.2.failed = true → ¬ World.Acts openCode s.1 label)
      (World.initial fireConnect.disable, {}) turnedAway :=
  ⟨by decide +kernel, World.stopped_after_failure (by decide +kernel)
    (World.recorded_of_quiet (by decide +kernel)) (by decide +kernel)⟩

-- The leading recovery of a lifecycle fails, and the lifecycle goes on to acquire.
def ownRecoveryFails : List Label :=
  abandoned ++ opening 1 1 "second" ++
    answers 1 "second"
      [.plain, disableFails, .plain, .plain, .plain, .reading (readingOf routeOn)] ++
    answers 1 "third" [.plain]

theorem acts_after_failure :
    Along World.step World.FreshBlocks (World.initial fireConnect.disable) ownRecoveryFails ∧
    ¬ Along (watched World.step (World.alarm openCode))
      (fun s label => s.2.failed = true → ¬ World.Acts openCode s.1 label)
      (World.initial fireConnect.disable, {}) ownRecoveryFails := by
  constructor <;> decide +kernel

end Samples

end JoyMesh.ProviderRoutes
