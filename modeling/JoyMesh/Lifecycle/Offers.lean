import JoyMesh.Lifecycle.Logins

namespace JoyMesh.Lifecycle

open JoyMesh.Library ConnectorLifecycleStore ConnectorLifecycleCoordinator

section Definitions

-- Where the calls stand, as the history tells it: which of them offer what is
-- queued, which tasks each has at hand (it has stored the task, or listed it as
-- queued in order to offer it), which offers have been taken and not been stored
-- yet, and which calls have had an offer taken.
structure Standing where
  offerers : List Nat := []
  held : List (Nat × String) := []
  pending : List (Nat × String) := []
  taken : List Nat := []
deriving DecidableEq

variable {setup : Setup}

def Standing.note (c : Standing) : (lifecycle setup).Event → Standing
  | .entered id (.offerQueuedTasks _) => { c with offerers := id :: c.offerers }
  | .did id (.insertTask task) (.ok _) => { c with held := (id, task.taskId) :: c.held }
  | .did id (.listActive _) (.ok found) =>
      if id ∈ c.offerers then
        { c with
          held := ((found.filter fun task => task.status = .queued).map fun task =>
            (id, task.taskId)) ++ c.held }
      else c
  | .did id (.offer task _) (.ok true) =>
      { c with pending := (id, task.taskId) :: c.pending, taken := id :: c.taken }
  | .did id (.updateTask taskId _ _) (.ok _) =>
      { c with
        held := c.held.filter fun hold => hold ≠ (id, taskId)
        pending := c.pending.filter fun hold => hold ≠ (id, taskId) }
  | .left id _ =>
      { c with
        held := c.held.filter fun hold => hold.1 ≠ id
        pending := c.pending.filter fun hold => hold.1 ≠ id }
  | _ => c

def standing (s : (lifecycle setup).State) : Standing :=
  s.history.foldl Standing.note {}

-- No step takes a task back to the offer, and nobody offers a task while another
-- call has an offer of it taken.
def HandOverKept (w : (lifecycle setup).World) (label : (lifecycle setup).Label) : Prop :=
  (∀ next taskId row now, w.step label = some next →
    w.state.shared.tasks.lookup taskId = some row →
    next.state.shared.tasks.lookup taskId = some now →
    row.status = .acceptedByNode ∨ row.status = .running ∨ row.status.terminal = true →
      now.status ≠ .offeredToNode) ∧
  match label with
  | .go id _ => ∀ task plan, w.awaiting id = some (.offer task plan) →
      ∀ other, (other, task.taskId) ∈ (standing w.state).pending → other = id
  | _ => True

-- A call that has had an offer taken does not end by raising.
def OfferReturned (w : (lifecycle setup).World) : Prop :=
  ∀ id call error, w.threads id = some ⟨call, .ended (.error error)⟩ →
    id ∉ (standing w.state).taken

-- The task is still queued when an offer of it is taken, and nothing commits on it
-- before the offer is stored; what is listed for offering is in no other call's
-- hands; a commit finds the row as its session has read it; and nothing fails in a
-- call that has had an offer taken.
def Undisturbed (id : Nat) (op : Op) (choice : Choice) (s : (lifecycle setup).State) : Prop :=
  match op, choice with
  | .offer task _, .offered true => ∃ row ∈ s.shared.tasks.lookup task.taskId, row.status = .queued
  | .updateTask taskId loaded _, .done =>
      (∀ hold ∈ (standing s).pending, hold.2 = taskId → hold.1 = id) ∧
        ∀ row ∈ s.shared.tasks.lookup taskId, row = loaded
  | .listActive _, .listed found => id ∈ (standing s).offerers →
      ∀ task ∈ found, task.status = .queued →
        ∀ hold ∈ (standing s).held, hold.2 = task.taskId → hold.1 = id
  | _, .raised _ => id ∉ (standing s).taken
  | _, _ => True

def OffersUndisturbed (w : (lifecycle setup).World) : (lifecycle setup).Label → Prop
  | .go id choice => ∀ op ∈ w.awaiting id, Undisturbed id op choice w.state
  | _ => True

end Definitions

section Standings

variable {setup : Setup} {s t : (lifecycle setup).State} {id : Nat}

theorem standing_note (event : (lifecycle setup).Event) (shared : Shared) :
    standing (s.note event shared) = (standing s).note event := by
  rw [standing, System.State.note_history, List.foldl_append]
  rfl

-- The call stands as it did.
structure Standing.Same (id : Nat) (before after : Standing) : Prop where
  offerers : id ∈ after.offerers ↔ id ∈ before.offerers
  held : ∀ taskId, (id, taskId) ∈ after.held ↔ (id, taskId) ∈ before.held
  pending : ∀ taskId, (id, taskId) ∈ after.pending ↔ (id, taskId) ∈ before.pending
  taken : id ∈ after.taken ↔ id ∈ before.taken

theorem Standing.Same.refl (c : Standing) : Standing.Same id c c :=
  ⟨.rfl, fun _ => .rfl, fun _ => .rfl, .rfl⟩

theorem Standing.Same.trans {first second third : Standing} (hf : Standing.Same id first second)
    (hs : Standing.Same id second third) : Standing.Same id first third :=
  ⟨hs.offerers.trans hf.offerers, fun taskId => (hs.held taskId).trans (hf.held taskId),
    fun taskId => (hs.pending taskId).trans (hf.pending taskId), hs.taken.trans hf.taken⟩

-- The call that an event is of.
def actor : (lifecycle setup).Event → Option Nat
  | .entered id _ => some id
  | .did id _ _ => some id
  | .left id _ => some id
  | .happened _ => none

theorem Standing.same_note (c : Standing) {event : (lifecycle setup).Event}
    (h : actor event ≠ some id) : Standing.Same id c (c.note event) := by
  have hne : ∀ other, actor event = some other → id ≠ other := by
    rintro other ho rfl
    exact h ho
  unfold Standing.note
  split
  next other _ => exact ⟨by simp [hne other rfl], fun _ => .rfl, fun _ => .rfl, .rfl⟩
  next other _ _ => exact ⟨.rfl, fun _ => by simp [hne other rfl], fun _ => .rfl, .rfl⟩
  next other _ _ =>
    split
    next => exact ⟨.rfl, fun _ => by simp [Ne.symm (hne other rfl)], fun _ => .rfl, .rfl⟩
    next => exact .refl c
  next other _ _ =>
    exact ⟨.rfl, fun _ => .rfl, fun _ => by simp [hne other rfl], by simp [hne other rfl]⟩
  next other _ _ _ _ =>
    exact ⟨.rfl, fun _ => by simp [hne other rfl], fun _ => by simp [hne other rfl], .rfl⟩
  next other _ =>
    exact ⟨.rfl, fun _ => by simp [hne other rfl], fun _ => by simp [hne other rfl], .rfl⟩
  next => exact .refl c

end Standings

section Rows

variable {setup : Setup} {s t : (lifecycle setup).State} {id : Nat}

-- A task is queued in its first version only, at most one call has it at hand, and
-- it stays queued while an offer of it that has been taken is to be stored.
structure OfferRows (s : (lifecycle setup).State) : Prop where
  keyed : ∀ taskId row, s.shared.tasks.lookup taskId = some row → row.taskId = taskId
  version : ∀ taskId row, s.shared.tasks.lookup taskId = some row →
    1 ≤ row.version ∧ (row.status = .queued ↔ row.version = 1)
  planned : ∀ taskId row, s.shared.tasks.lookup taskId = some row →
    (s.shared.plans.lookup row.planId).isSome
  plans : ∀ planId plan, s.shared.plans.lookup planId = some plan → plan.planId = planId
  held : ∀ id taskId, (id, taskId) ∈ (standing s).held → (s.shared.tasks.lookup taskId).isSome
  alone : ∀ id other taskId, (id, taskId) ∈ (standing s).held →
    (other, taskId) ∈ (standing s).held → id = other
  pending : ∀ id taskId, (id, taskId) ∈ (standing s).pending → (id, taskId) ∈ (standing s).held ∧
    ∃ row, s.shared.tasks.lookup taskId = some row ∧ row.status = .queued

def OfferLawful (id : Nat) (op : Op) (s : (lifecycle setup).State) : Prop :=
  match op with
  | .insertTask task => task.status = .queued ∧ task.version = 1 ∧
      (s.shared.plans.lookup task.planId).isSome
  | .updateTask _ loaded changed => changed.version = loaded.version + 1 ∧
      changed.status ∈ .offeredToNode :: pastOffer ∧
        (changed.status = .offeredToNode → loaded.version = 1)
  | .offer task _ => (id, task.taskId) ∈ (standing s).held
  | _ => True

-- The rows and the standing are as they were.
theorem OfferRows.same (h : OfferRows s) (htasks : t.shared.tasks = s.shared.tasks)
    (hplans : t.shared.plans = s.shared.plans)
    (hstanding : (standing t).held = (standing s).held ∧
      (standing t).pending = (standing s).pending) : OfferRows t := by
  obtain ⟨hheld, hpending⟩ := hstanding
  refine ⟨?_, ?_, ?_, ?_, ?_, ?_, ?_⟩
  · rw [htasks]; exact h.keyed
  · rw [htasks]; exact h.version
  · rw [htasks, hplans]; exact h.planned
  · rw [hplans]; exact h.plans
  · rw [htasks, hheld]; exact h.held
  · rw [hheld]; exact h.alone
  · rw [htasks, hheld, hpending]; exact h.pending

theorem pastOffer_ne_queued {status : ConnectorTaskStatus}
    (h : status ∈ .offeredToNode :: pastOffer) : status ≠ .queued := by
  rintro rfl
  exact absurd h (by decide)

theorem OfferRows.committed (h : OfferRows s) {taskId : String}
    {row changed : ConnectorTaskRecord} (hl : s.shared.tasks.lookup taskId = some row)
    (hversion : changed.version = row.version + 1)
    (hstatus : changed.status ∈ .offeredToNode :: pastOffer)
    (hmine : ∀ hold ∈ (standing s).pending, hold.2 = taskId → hold.1 = id) :
    OfferRows (s.note (.did id (.updateTask taskId row changed) (.ok ()))
      { s.shared with tasks := s.shared.tasks.insert taskId (row.flush row changed) }) := by
  have hnote : standing (s.note (.did id (.updateTask taskId row changed) (.ok ()))
      { s.shared with tasks := s.shared.tasks.insert taskId (row.flush row changed) }) =
        { standing s with
          held := (standing s).held.filter fun hold => hold ≠ (id, taskId)
          pending := (standing s).pending.filter fun hold => hold ≠ (id, taskId) } :=
    standing_note _ _
  have hrow := h.version taskId row hl
  have hnow : (row.flush row changed).version = row.version + 1 ∧
      (row.flush row changed).status = changed.status := by
    constructor
    · simp [ConnectorTaskRecord.flush, hversion]
    · simp only [ConnectorTaskRecord.flush]
      split
      next he => exact he.symm
      next => rfl
  refine ⟨fun other found hf => ?_, fun other found hf => ?_, fun other found hf => ?_, h.plans,
    fun holder other hm => ?_, fun holder twin other hm hm' => ?_, fun holder other hm => ?_⟩
  · rcases Table.lookup_insert_cases hf with ⟨rfl, rfl⟩ | ⟨-, hf⟩
    · exact h.keyed _ row hl
    · exact h.keyed other found hf
  · rcases Table.lookup_insert_cases hf with ⟨rfl, rfl⟩ | ⟨-, hf⟩
    · rw [hnow.1, hnow.2]
      exact ⟨by omega, iff_of_false (pastOffer_ne_queued hstatus) (by omega)⟩
    · exact h.version other found hf
  · rcases Table.lookup_insert_cases hf with ⟨rfl, rfl⟩ | ⟨-, hf⟩
    · exact h.planned _ row hl
    · exact h.planned other found hf
  · rw [hnote] at hm
    have hsome := h.held holder other (List.mem_filter.mp hm).1
    exact AList.lookup_isSome.mpr ((AList.mem_insert _).mpr (.inr (AList.lookup_isSome.mp hsome)))
  · rw [hnote] at hm hm'
    exact h.alone holder twin other (List.mem_filter.mp hm).1 (List.mem_filter.mp hm').1
  · rw [hnote] at hm ⊢
    obtain ⟨hbefore, hne⟩ := List.mem_filter.mp hm
    obtain ⟨hheld, old, hold, hqueued⟩ := h.pending holder other hbefore
    have hother : other ≠ taskId := by
      rintro rfl
      obtain rfl : holder = id := hmine (holder, other) hbefore rfl
      simp at hne
    exact ⟨List.mem_filter.mpr ⟨hheld, hne⟩, old, (AList.lookup_insert_ne hother).trans hold, hqueued⟩

theorem OfferRows.stored (h : OfferRows s) {task : ConnectorTaskRecord}
    (hnew : s.shared.tasks.lookup task.taskId = none) (hqueued : task.status = .queued)
    (hversion : task.version = 1) (hplanned : (s.shared.plans.lookup task.planId).isSome) :
    OfferRows (s.note (.did id (.insertTask task) (.ok ()))
      { s.shared with tasks := s.shared.tasks.insert task.taskId task }) := by
  have hnote : standing (s.note (.did id (.insertTask task) (.ok ()))
      { s.shared with tasks := s.shared.tasks.insert task.taskId task }) =
        { standing s with held := (id, task.taskId) :: (standing s).held } := standing_note _ _
  have hunheld : ∀ holder, (holder, task.taskId) ∉ (standing s).held := by
    intro holder hm
    have hsome := h.held holder _ hm
    rw [hnew] at hsome
    cases hsome
  refine ⟨fun other found hf => ?_, fun other found hf => ?_, fun other found hf => ?_, h.plans,
    fun holder other hm => ?_, fun holder twin other hm hm' => ?_, fun holder other hm => ?_⟩
  · rcases Table.lookup_insert_cases hf with ⟨rfl, rfl⟩ | ⟨-, hf⟩
    · rfl
    · exact h.keyed other found hf
  · rcases Table.lookup_insert_cases hf with ⟨rfl, rfl⟩ | ⟨-, hf⟩
    · exact ⟨hversion.ge, iff_of_true hqueued hversion⟩
    · exact h.version other found hf
  · rcases Table.lookup_insert_cases hf with ⟨rfl, rfl⟩ | ⟨-, hf⟩
    · exact hplanned
    · exact h.planned other found hf
  · rw [hnote] at hm
    rcases List.mem_cons.mp hm with he | hm
    · cases he
      exact AList.lookup_isSome.mpr ((AList.mem_insert _).mpr (.inl rfl))
    · have hsome := h.held holder other hm
      exact AList.lookup_isSome.mpr ((AList.mem_insert _).mpr (.inr (AList.lookup_isSome.mp hsome)))
  · rw [hnote] at hm hm'
    rcases List.mem_cons.mp hm with he | hm <;> rcases List.mem_cons.mp hm' with he' | hm'
    · cases he
      cases he'
      rfl
    · cases he
      exact absurd hm' (hunheld twin)
    · cases he'
      exact absurd hm (hunheld holder)
    · exact h.alone holder twin other hm hm'
  · rw [hnote] at hm ⊢
    obtain ⟨hheld, old, hold, hstatus⟩ := h.pending holder other hm
    have hother : other ≠ task.taskId := by
      rintro rfl
      exact hunheld holder hheld
    exact ⟨List.mem_cons_of_mem _ hheld, old, (AList.lookup_insert_ne hother).trans hold, hstatus⟩

theorem OfferRows.listed (h : OfferRows s) {nodeId : String} {found : List ConnectorTaskRecord}
    (hperm : found.Perm (s.shared.activeTasks nodeId))
    (hfree : id ∈ (standing s).offerers → ∀ task ∈ found, task.status = .queued →
      ∀ hold ∈ (standing s).held, hold.2 = task.taskId → hold.1 = id) :
    OfferRows (s.note (.did id (.listActive nodeId) (.ok found)) s.shared) := by
  have hnote := standing_note (s := s) (.did id (.listActive nodeId) (.ok found)) s.shared
  simp only [Standing.note] at hnote
  split at hnote
  next hoffers =>
    have hheld : ∀ holder taskId,
        (holder, taskId) ∈ (standing (s.note (.did id (.listActive nodeId) (.ok found))
          s.shared)).held → (holder = id ∧ ∃ task ∈ found, task.status = .queued ∧
            task.taskId = taskId) ∨ (holder, taskId) ∈ (standing s).held := by
      intro holder taskId hm
      rw [hnote] at hm
      rcases List.mem_append.mp hm with hm | hm
      · obtain ⟨task, htask, he⟩ := List.mem_map.mp hm
        obtain ⟨htask, hqueued⟩ := List.mem_filter.mp htask
        cases he
        exact .inl ⟨rfl, task, htask, by simpa using hqueued, rfl⟩
      · exact .inr hm
    refine ⟨h.keyed, h.version, h.planned, h.plans, fun holder taskId hm => ?_,
      fun holder twin taskId hm hm' => ?_, fun holder taskId hm => ?_⟩
    · rcases hheld holder taskId hm with ⟨-, task, htask, -, rfl⟩ | hm
      · obtain ⟨⟨key, hl⟩, -⟩ := Table.mem_select.mp (hperm.mem_iff.mp htask)
        rw [h.keyed key task hl]
        exact Option.isSome_iff_exists.mpr ⟨task, hl⟩
      · exact h.held holder taskId hm
    · rcases hheld holder taskId hm with ⟨rfl, task, htask, hqueued, rfl⟩ | hold <;>
        rcases hheld twin _ hm' with ⟨rfl, other, hother, hstatus, he⟩ | htwin
      · rfl
      · exact (hfree hoffers task htask hqueued (twin, _) htwin rfl).symm
      · exact hfree hoffers other hother hstatus (holder, taskId) hold he.symm
      · exact h.alone holder twin _ hold htwin
    · rw [hnote] at hm ⊢
      obtain ⟨hold, hrow⟩ := h.pending holder taskId hm
      exact ⟨List.mem_append_right _ hold, hrow⟩
  next => exact h.same rfl rfl (by rw [hnote]; exact ⟨rfl, rfl⟩)

theorem OfferRows.step {op : Op} {choice : Choice} {answer : Except Raised op.Reply}
    {shared : Shared} (h : OfferRows s) (hlawful : OfferLawful id op s)
    (hallowed : Undisturbed id op choice s)
    (heffect : effect setup op choice s.shared = some (answer, shared)) :
    OfferRows (s.note (.did id op answer) shared) := by
  cases effect_inv heffect with
  | updateTask hl =>
      obtain ⟨hmine, hread⟩ := hallowed
      obtain rfl := hread _ hl
      exact h.committed hl hlawful.1 hlawful.2.1 hmine
  | insertTask hnew => exact h.stored hnew hlawful.1 hlawful.2.1 hlawful.2.2
  | listActive hperm => exact h.listed hperm hallowed
  | @insertPlan plan hnew =>
      refine ⟨h.keyed, h.version, fun taskId row hl => ?_, fun planId other hl => ?_, ?_, ?_, ?_⟩
      · have hsome := h.planned taskId row hl
        exact AList.lookup_isSome.mpr ((AList.mem_insert _).mpr (.inr (AList.lookup_isSome.mp hsome)))
      · rcases Table.lookup_insert_cases hl with ⟨rfl, rfl⟩ | ⟨-, hl⟩
        · rfl
        · exact h.plans planId other hl
      · rw [standing_note]; exact h.held
      · rw [standing_note]; exact h.alone
      · rw [standing_note]; exact h.pending
  | @offer task plan taken =>
      cases taken with
      | false => exact h.same rfl rfl (by rw [standing_note]; exact ⟨rfl, rfl⟩)
      | true =>
          obtain ⟨row, hrow, hqueued⟩ := hallowed
          have hnote := standing_note (s := s) (.did id (.offer task plan) (.ok true)) s.shared
          refine ⟨h.keyed, h.version, h.planned, h.plans, ?_, ?_, fun holder taskId hm => ?_⟩
          · rw [hnote]; exact h.held
          · rw [hnote]; exact h.alone
          · rw [hnote] at hm ⊢
            rcases List.mem_cons.mp hm with he | hm
            · cases he
              exact ⟨hlawful, row, hrow, hqueued⟩
            · exact h.pending holder taskId hm
  | @raised _ error =>
      have hnote : (standing s).note (.did id op (.error error) : (lifecycle setup).Event) =
        standing s := by cases op <;> rfl
      exact h.same rfl rfl (by rw [standing_note, hnote]; exact ⟨rfl, rfl⟩)
  | _ => exact h.same rfl rfl (by rw [standing_note]; exact ⟨rfl, rfl⟩)

end Rows

section Programs

variable {setup : Setup} {s t : (lifecycle setup).State} {id : Nat} {op : Op} {choice : Choice}
  {answer : Except Raised op.Reply} {α β : Type} {program : LifecycleM α}
  {further : β → (lifecycle setup).State → Prop} {shared : Shared} {planId taskId : String}
  {expectedVersion : Nat} {taken : Bool} {left : (lifecycle setup).State → Prop}
  {rest : List ConnectorTaskRecord}

-- No row is taken away.
def Stays (s t : Shared) : Prop :=
  (∀ taskId, (s.tasks.lookup taskId).isSome → (t.tasks.lookup taskId).isSome) ∧
    ∀ planId, (s.plans.lookup planId).isSome → (t.plans.lookup planId).isSome

theorem Stays.refl (s : Shared) : Stays s s := ⟨fun _ h => h, fun _ h => h⟩

theorem Stays.trans {first second third : Shared} (hf : Stays first second)
    (hs : Stays second third) : Stays first third :=
  ⟨fun taskId h => hs.1 taskId (hf.1 taskId h), fun planId h => hs.2 planId (hf.2 planId h)⟩

theorem isSome_insert {ν : Type} {table : Table String ν} {key other : String} {row : ν}
    (h : (table.lookup other).isSome) : ((table.insert key row).lookup other).isSome :=
  AList.lookup_isSome.mpr ((AList.mem_insert _).mpr (.inr (AList.lookup_isSome.mp h)))

theorem effect_stays {s t : Shared} (h : effect setup op choice s = some (answer, t)) :
    Stays s t := by
  cases effect_inv h with
  | updateTask => exact ⟨fun _ => isSome_insert, fun _ h => h⟩
  | insertTask => exact ⟨fun _ => isSome_insert, fun _ h => h⟩
  | insertPlan => exact ⟨fun _ h => h, fun _ => isSome_insert⟩
  | _ => exact .refl _

def Untaken (id : Nat) (s : (lifecycle setup).State) : Prop := id ∉ (standing s).taken

-- An assertion about what a program returns; where it raises, no offer of the call
-- has been taken.
def Unless {α : Type} (id : Nat) (assertion : α → (lifecycle setup).State → Prop) :
    Except Raised α → (lifecycle setup).State → Prop
  | .ok value, s => assertion value s
  | .error _, s => Untaken id s

def offerDiscipline : (lifecycle setup).Discipline where
  good := OfferRows
  fresh id s := id ∉ (standing s).offerers ∧ Untaken id s ∧
    ∀ taskId, (id, taskId) ∉ (standing s).held
  rely id s t := Stays s.shared t.shared ∧ Standing.Same id (standing s) (standing t)
  lawful := OfferLawful
  post id _ := Unless id fun _ _ => True
  admitted _ _ _ := True
  allowed := Undisturbed
  happens _ _ := True
  rely_refl _ _ := ⟨.refl _, .refl _⟩
  rely_trans _ _ _ _ hf hs := ⟨hf.1.trans hs.1, hf.2.trans hs.2⟩
  fresh_rely _ _ _ hr hf := ⟨fun h => hf.1 (hr.2.offerers.mp h), fun h => hf.2.1 (hr.2.taken.mp h),
    fun taskId h => hf.2.2 taskId ((hr.2.held taskId).mp h)⟩
  post_rely _ _ result _ _ hr hp := by
    cases result with
    | ok => trivial
    | error => exact fun h => hp (hr.2.taken.mp h)
  step_good _ _ _ _ _ _ hg hlawful hallowed heffect := hg.step hlawful hallowed heffect
  step_rely id op _ answer other s t hne _ _ _ heffect := by
    refine ⟨effect_stays heffect, ?_⟩
    rw [standing_note]
    exact Standing.same_note _ fun he => hne (Option.some.inj he)
  enter_good id call s t hg _ _ he := by
    have hsame : (standing (s.note (.entered id call) t)).held = (standing s).held ∧
        (standing (s.note (.entered id call) t)).pending = (standing s).pending := by
      rw [standing_note]
      cases call <;> exact ⟨rfl, rfl⟩
    rcases enter_cases he with rfl | ⟨background, rfl⟩ <;> exact hg.same rfl rfl hsame
  enter_rely id call other s t hne _ _ he := by
    refine ⟨?_, ?_⟩
    · rcases enter_cases he with rfl | ⟨background, rfl⟩ <;> exact .refl _
    · rw [standing_note]
      exact Standing.same_note _ fun he => hne (Option.some.inj he)
  leave_good id call result s hg _ := by
    have hnote := standing_note (s := s) (.left id result) s.shared
    refine ⟨hg.keyed, hg.version, hg.planned, hg.plans, fun holder taskId hm => ?_,
      fun holder twin taskId hm hm' => ?_, fun holder taskId hm => ?_⟩
    · rw [hnote] at hm
      exact hg.held holder taskId (List.mem_filter.mp hm).1
    · rw [hnote] at hm hm'
      exact hg.alone holder twin taskId (List.mem_filter.mp hm).1 (List.mem_filter.mp hm').1
    · rw [hnote] at hm ⊢
      obtain ⟨hm, hne⟩ := List.mem_filter.mp hm
      obtain ⟨hheld, hrow⟩ := hg.pending holder taskId hm
      exact ⟨List.mem_filter.mpr ⟨hheld, hne⟩, hrow⟩
  leave_rely id call other result s hne _ _ := by
    refine ⟨.refl _, ?_⟩
    rw [standing_note]
    exact Standing.same_note _ fun he => hne (Option.some.inj he)
  leave_post id _ result s hp := by
    cases result with
    | ok => trivial
    | error => exact fun h => hp (by rwa [standing_note] at h)
  outside_good event s t hg _ he := by
    have hsame : (standing (s.note (.happened event) t)).held = (standing s).held ∧
        (standing (s.note (.happened event) t)).pending = (standing s).pending := by
      rw [standing_note]
      exact ⟨rfl, rfl⟩
    exact hg.same (outside_tasks he) (outside_plans he) hsame
  outside_rely event id s t _ _ he := by
    refine ⟨?_, ?_⟩
    · rw [Stays, System.State.note_shared, outside_tasks he, outside_plans he]
      exact ⟨fun _ h => h, fun _ h => h⟩
    · rw [standing_note]
      exact Standing.same_note _ nofun

theorem unless_bind {next : α → LifecycleM β} {assertion : α → (lifecycle setup).State → Prop}
    (h : program.Holds offerDiscipline id (Unless id assertion) s)
    (hnext : ∀ value t, assertion value t → (next value).Holds offerDiscipline id (Unless id further) t) :
    (program >>= next).Holds offerDiscipline id (Unless id further) s :=
  h.bind hnext fun _ _ huntaken => huntaken

theorem standing_raised (op : Op) (error : Raised) (shared : Shared) :
    standing (s.note (.did id op (.error error)) shared) = standing s := by
  rw [standing_note]
  cases op <;> rfl

-- An operation that fails for a reason of its own has no offer taken before it.
theorem unless_perform {next : op.Reply → LifecycleM β}
    (hsure : ∀ choice error s t, effect setup op choice s = some (.error error, t) →
      ∃ raised, choice = .raised raised)
    (hlawful : ∀ t, offerDiscipline.rely id s t → OfferRows t → OfferLawful id op t)
    (hvalue : ∀ t choice value u, offerDiscipline.rely id s t → OfferRows t →
      Undisturbed id op choice t → effect setup op choice t.shared = some (.ok value, u) →
        (next value).Holds offerDiscipline id (Unless id further)
          (t.note (.did id op (.ok value)) u)) :
    (perform op >>= next).Holds offerDiscipline id (Unless id further) s := by
  refine .perform_bind hlawful hvalue fun t choice error u _ _ hallowed heffect => ?_
  obtain ⟨raised, rfl⟩ := hsure choice error t.shared u heffect
  have huntaken : Untaken id t := by
    cases op <;> exact hallowed
  rwa [Unless, Untaken, standing_raised]

-- What neither stores nor offers a task, and stores an offer only of a queued one.
def Unoffering : Op → Prop
  | .updateTask _ loaded changed => changed.version = loaded.version + 1 ∧
      changed.status ∈ .offeredToNode :: pastOffer ∧
        (changed.status = .offeredToNode → loaded.version = 1)
  | .insertTask _ => False
  | .offer _ _ => False
  | _ => True

theorem unoffering_of_reporting (h : Reporting op) : Unoffering op := by
  cases op with
  | updateTask taskId loaded changed =>
      refine ⟨h.2.1, List.mem_cons_of_mem _ h.2.2, fun hoffered => ?_⟩
      have hpast := h.2.2
      rw [hoffered] at hpast
      exact absurd hpast (by decide)
  | _ => first | exact h.elim | trivial

theorem offerLawful_of_unoffering (h : Unoffering op) : OfferLawful id op s := by
  cases op <;> first | exact h.elim | trivial

-- The plan is stored, and no offer of the call has been taken.
def Ready (id : Nat) (planId : String) (s : (lifecycle setup).State) : Prop :=
  (s.shared.plans.lookup planId).isSome ∧ Untaken id s

theorem Untaken.rely (h : Untaken id s) (hrely : offerDiscipline.rely id s t) : Untaken id t :=
  fun hm => h (hrely.2.taken.mp hm)

theorem Untaken.did (h : Untaken id s) (hop : ∀ task plan, op ≠ .offer task plan) :
    Untaken id (s.note (.did id op answer) shared) := by
  intro hm
  refine h ?_
  rw [standing_note] at hm
  cases op with
  | offer task plan => exact absurd rfl (hop task plan)
  | listActive =>
      cases answer with
      | error => exact hm
      | ok found =>
          simp only [Standing.note] at hm
          split at hm <;> exact hm
  | _ => cases answer <;> exact hm

theorem Ready.rely (h : Ready id planId s) (hrely : offerDiscipline.rely id s t) :
    Ready id planId t := ⟨hrely.1.2 planId h.1, h.2.rely hrely⟩

theorem Ready.did (h : Ready id planId s) (hop : ∀ task plan, op ≠ .offer task plan)
    (heffect : effect setup op choice s.shared = some (answer, shared)) :
    Ready id planId (s.note (.did id op answer) shared) :=
  ⟨(effect_stays heffect).2 planId h.1, h.2.did hop⟩

theorem unoffering_ne (h : Unoffering op) (task : ConnectorTaskRecord) (plan : ConnectorTaskPlan) :
    op ≠ .offer task plan := by
  rintro rfl
  exact h

theorem unoffering_keeps (h : program.Every Unoffering) (huntaken : Untaken id s) :
    program.Holds (@offerDiscipline setup) id (Unless id fun _ s => Untaken id s) s := by
  have hkeeps : program.Holds (@offerDiscipline setup) id (fun _ s => Untaken id s) s :=
    h.keeping (fun _ _ hkind _ _ => offerLawful_of_unoffering hkind)
      (fun _ _ hrely huntaken => huntaken.rely hrely)
      (fun _ _ _ _ _ hkind huntaken _ _ => huntaken.did (unoffering_ne hkind)) huntaken
  exact hkeeps.mono fun result _ h => by cases result <;> exact h

theorem unoffering_ready (h : program.Every Unoffering) (hready : Ready id planId s) :
    program.Holds (@offerDiscipline setup) id (Unless id fun _ s => Ready id planId s) s := by
  have hkeeps : program.Holds (@offerDiscipline setup) id (fun _ s => Ready id planId s) s :=
    h.keeping (fun _ _ hkind _ _ => offerLawful_of_unoffering hkind)
      (fun _ _ hrely hready => hready.rely hrely)
      (fun _ _ _ _ _ hkind hready _ heffect => hready.did (unoffering_ne hkind) heffect) hready
  exact hkeeps.mono fun result _ h => by
    cases result with
    | ok => exact h
    | error => exact h.2

theorem unoffering_ends (h : program.Every Unoffering) (huntaken : Untaken id s) :
    program.Holds (@offerDiscipline setup) id (Unless id fun _ _ => True) s :=
  (unoffering_keeps h huntaken).mono fun result _ h => by
    cases result with
    | ok => trivial
    | error => exact h

theorem transitionTask_unoffering {status : ConnectorTaskStatus}
    (hstatus : status ∈ .offeredToNode :: pastOffer)
    (hversion : status = .offeredToNode → expectedVersion = 1) (taskId : String)
    (detail : Option String) (startedAt finishedAt : Option Time) :
    (transitionTask taskId expectedVersion status detail startedAt finishedAt).Every
      Unoffering := by
  refine transitionTask_every trivial fun loaded changed _ hloaded hnext hchanged => ?_
  subst hchanged
  exact ⟨hnext, hstatus, fun hoffered => hloaded.trans (hversion hoffered)⟩

theorem startInline_unoffering (hversion : task.version = 1) (plan : ConnectorTaskPlan) :
    (startInline task plan).Every Unoffering :=
  .bind (transitionTask_unoffering (by decide) (fun _ => hversion) _ _ _ _)
    fun _ => .perform_bind trivial fun _ => trivial

theorem planAndPersist_unoffering (nodeId connectorId : String) (action : ConnectorAction) :
    (planAndPersistConnectorTask nodeId connectorId action).Every Unoffering :=
  .perform_bind trivial fun _ => .perform_bind trivial fun _ => .perform_bind trivial fun _ => trivial

theorem readPlan_sure (planId : String) (choice : Choice) (error : Raised) (s t : Shared)
    (h : effect setup (.readPlan planId) choice s = some (.error error, t)) :
    ∃ raised, choice = .raised raised := by
  cases effect_inv h
  exact ⟨_, rfl⟩

theorem readTask_sure (taskId : String) (choice : Choice) (error : Raised) (s t : Shared)
    (h : effect setup (.readTask taskId) choice s = some (.error error, t)) :
    ∃ raised, choice = .raised raised := by
  cases effect_inv h
  exact ⟨_, rfl⟩

theorem updateTask_sure (taskId : String) (loaded changed : ConnectorTaskRecord) (choice : Choice)
    (error : Raised) (s t : Shared)
    (h : effect setup (.updateTask taskId loaded changed) choice s = some (.error error, t)) :
    ∃ raised, choice = .raised raised := by
  cases effect_inv h
  exact ⟨_, rfl⟩

theorem offer_sure (task : ConnectorTaskRecord) (plan : ConnectorTaskPlan) (choice : Choice)
    (error : Raised) (s t : Shared)
    (h : effect setup (.offer task plan) choice s = some (.error error, t)) :
    ∃ raised, choice = .raised raised := by
  cases effect_inv h
  exact ⟨_, rfl⟩

theorem getPlan_ready (planId : String) (huntaken : Untaken id s) :
    (getPlan planId).Holds (@offerDiscipline setup) id
      (Unless id fun plan s => Ready id plan.planId s) s := by
  refine unless_perform (readPlan_sure planId) (fun _ _ _ => trivial)
    fun t choice found u hrely hgood _ heffect => ?_
  have huntaken : Untaken id (t.note (.did id (.readPlan planId) (.ok found)) u) :=
    (huntaken.rely hrely).did (by simp)
  cases effect_inv heffect with
  | readPlan =>
      cases hl : t.shared.plans.lookup planId with
      | none =>
          rw [hl] at huntaken
          exact .throw huntaken
      | some plan =>
          rw [hl] at huntaken
          refine .pure ⟨?_, huntaken⟩
          have hplan := hgood.plans planId plan hl
          exact Option.isSome_iff_exists.mpr ⟨plan, hplan ▸ hl⟩

theorem approvedPlan_ready (planId : String) (huntaken : Untaken id s) :
    (approvedPlan planId).Holds (@offerDiscipline setup) id
      (Unless id fun plan s => Ready id plan.planId s) s := by
  refine .catching (getPlan_ready planId huntaken) (fun _ _ h => h) fun error t huntaken => ?_
  dsimp only
  split
  next =>
    refine unless_bind (unoffering_keeps (.perform trivial) huntaken) fun found u huntaken => ?_
    cases found with
    | none => exact .throw huntaken
    | some plan =>
        refine .perform_bind (fun _ _ _ => trivial) (fun v _ _ w hrely _ _ heffect => ?_)
          fun v _ _ _ hrely _ _ _ => (Untaken.rely huntaken hrely).did (by simp)
        have huntaken := (Untaken.rely huntaken hrely)
        cases effect_inv heffect with
        | insertPlan =>
            refine .pure ⟨?_, huntaken.did (by simp)⟩
            exact AList.lookup_isSome.mpr ((AList.mem_insert _).mpr (.inl rfl))
  next => exact .throw huntaken

-- The call has a task of its own making at hand.
def Made (id : Nat) (task : ConnectorTaskRecord) (s : (lifecycle setup).State) : Prop :=
  task.version = 1 ∧ (id, task.taskId) ∈ (standing s).held

theorem Made.rely (h : Made id task s) (hrely : offerDiscipline.rely id s t) : Made id task t :=
  ⟨h.1, (hrely.2.held task.taskId).mpr h.2⟩

theorem createTask_made (hready : Ready id plan.planId s) (previousTaskId : Option String) :
    (createTaskFromPlan plan previousTaskId).Holds (@offerDiscipline setup) id
      (Unless id fun task s => Made id task s ∧ Untaken id s) s := by
  refine unless_bind (unoffering_ready (.perform trivial) hready) fun taskId t hready => ?_
  refine unless_bind (unoffering_ready (.perform trivial) hready) fun createdAt u hready => ?_
  refine .perform_bind (fun v hrely _ => ⟨rfl, rfl, (Ready.rely hready hrely).1⟩)
    (fun v _ _ w hrely _ _ heffect => ?_)
    fun v _ _ _ hrely _ _ _ => (Untaken.rely hready.2 hrely).did (by simp)
  refine .pure ⟨⟨rfl, ?_⟩, (Untaken.rely hready.2 hrely).did (by simp)⟩
  rw [standing_note]
  exact List.mem_cons_self

-- An offer of the task has been taken, if one is said to have been.
def OfferedIf (id : Nat) (taskId : String) (offered : Bool) (s : (lifecycle setup).State) : Prop :=
  if offered then (id, taskId) ∈ (standing s).pending else Untaken id s

theorem OfferedIf.rely {offered : Bool} (h : OfferedIf id taskId offered s)
    (hrely : offerDiscipline.rely id s t) : OfferedIf id taskId offered t := by
  cases offered with
  | false => exact Untaken.rely h hrely
  | true => exact (hrely.2.pending taskId).mpr h

theorem standing_offered (task : ConnectorTaskRecord) (plan : ConnectorTaskPlan) (taken : Bool)
    (shared : Shared) :
    standing (s.note (.did id (.offer task plan) (.ok taken)) shared) =
      if taken then
        { standing s with
          pending := (id, task.taskId) :: (standing s).pending, taken := id :: (standing s).taken }
      else standing s := by
  rw [standing_note]
  cases taken <;> rfl

theorem OfferedIf.offered {offered : Bool} (h : OfferedIf id task.taskId offered s) :
    OfferedIf id task.taskId (offered || taken)
      (s.note (.did id (.offer task plan) (.ok taken)) shared) := by
  unfold OfferedIf Untaken at *
  rw [standing_offered]
  cases offered <;> cases taken <;> simp_all

-- What offering keeps: the task is at hand, the others leave it, and so do offers.
structure KeptOffering (id : Nat) (task : ConnectorTaskRecord) (plan : ConnectorTaskPlan)
    (kept : Bool → (lifecycle setup).State → Prop) : Prop where
  made : ∀ offered s, kept offered s → Made id task s
  rely : ∀ offered s t, offerDiscipline.rely id s t → kept offered s → kept offered t
  offer : ∀ offered taken s, kept offered s →
    kept (offered || taken) (s.note (.did id (.offer task plan) (.ok taken)) s.shared)

variable {task : ConnectorTaskRecord} {plan : ConnectorTaskPlan}
  {kept : Bool → (lifecycle setup).State → Prop}

theorem effect_offer {s t : Shared}
    (h : effect setup (.offer task plan) choice s = some (.ok taken, t)) : t = s := by
  cases effect_inv h
  rfl

theorem offerAll_keeps (h : KeptOffering id task plan kept) (callbacks : Nat) {offered : Bool}
    (hkept : kept offered s) :
    (offerAll task plan callbacks offered).Holds (@offerDiscipline setup) id (Unless id kept) s := by
  induction callbacks generalizing s offered with
  | zero => exact .pure hkept
  | succ callbacks ih =>
      refine unless_perform (offer_sure task plan)
        (fun t hrely _ => (h.made _ _ (h.rely _ _ _ hrely hkept)).2)
        fun t choice taken u hrely _ _ heffect => ?_
      obtain rfl := effect_offer heffect
      exact ih (h.offer offered taken t (h.rely _ _ _ hrely hkept))

theorem offerUntilTaken_keeps (h : KeptOffering id task plan kept) (callbacks : Nat)
    {offered : Bool} (hkept : kept offered s) :
    (offerUntilTaken task plan callbacks offered).Holds (@offerDiscipline setup) id
      (Unless id kept) s := by
  induction callbacks generalizing s offered with
  | zero => exact .pure hkept
  | succ callbacks ih =>
      cases offered with
      | true => exact ih hkept
      | false =>
          refine unless_perform (offer_sure task plan)
            (fun t hrely _ => (h.made _ _ (h.rely _ _ _ hrely hkept)).2)
            fun t choice taken u hrely _ _ heffect => ?_
          obtain rfl := effect_offer heffect
          exact ih (h.offer false taken t (h.rely _ _ _ hrely hkept))

theorem made_offered {other : ConnectorTaskRecord} (h : Made id other s) :
    Made id other (s.note (.did id (.offer task plan) (.ok taken)) shared) := by
  refine ⟨h.1, ?_⟩
  rw [standing_offered]
  split <;> exact h.2

theorem keptOffering_first : KeptOffering id task plan
    fun offered (s : (lifecycle setup).State) => Made id task s ∧ OfferedIf id task.taskId offered s where
  made _ _ h := h.1
  rely _ _ _ hrely h := ⟨h.1.rely hrely, h.2.rely hrely⟩
  offer _ _ _ h := ⟨made_offered h.1, h.2.offered⟩

-- What storing an offer keeps: the others leave it, and so do the sessions on the task.
structure KeptStoring (id : Nat) (taskId : String) (kept : (lifecycle setup).State → Prop) :
    Prop where
  rely : ∀ s t, offerDiscipline.rely id s t → kept s → kept t
  read : ∀ s answer, kept s → kept (s.note (.did id (.readTask taskId) answer) s.shared)
  commit : ∀ s loaded changed shared, kept s → Stays s.shared shared →
    kept (s.note (.did id (.updateTask taskId loaded changed) (.ok ())) shared)

theorem getTask_keeps (h : KeptStoring id taskId left) (hleft : left s)
    (hrow : (s.shared.tasks.lookup taskId).isSome) :
    (getTask taskId).Holds (@offerDiscipline setup) id (Unless id fun _ s => left s) s := by
  refine unless_perform (readTask_sure taskId) (fun _ _ _ => trivial)
    fun t choice found u hrely _ _ heffect => ?_
  obtain ⟨rfl, hread⟩ := effect_readTask heffect
  obtain rfl := hread found rfl
  obtain ⟨task, hl⟩ := Option.isSome_iff_exists.mp (hrely.1.1 taskId hrow)
  have hkept : left (t.note (.did id (.readTask taskId) (.ok (t.shared.tasks.lookup taskId)))
      t.shared) := h.read t _ (h.rely s t hrely hleft)
  rw [hl] at hkept ⊢
  exact .pure hkept

-- An offer that has been taken is stored.
theorem storeOffer_keeps (h : KeptStoring id taskId left) (hversion : expectedVersion = 1)
    (hpending : (id, taskId) ∈ (standing s).pending) (hleft : left s) :
    (transitionTask taskId expectedVersion .offeredToNode).Holds (@offerDiscipline setup) id
      (Unless id fun _ s => left s) s := by
  subst hversion
  refine unless_perform (readTask_sure taskId) (fun _ _ _ => trivial)
    fun t choice found u hrely hgood _ heffect => ?_
  obtain ⟨rfl, hread⟩ := effect_readTask heffect
  obtain rfl := hread found rfl
  obtain ⟨-, row, hl, hqueued⟩ := hgood.pending id taskId ((hrely.2.pending taskId).mpr hpending)
  have hfirst : row.version = 1 := (hgood.version taskId row hl).2.mp hqueued
  have hkept : left (t.note (.did id (.readTask taskId) (.ok (t.shared.tasks.lookup taskId)))
      t.shared) := h.read t _ (h.rely s t hrely hleft)
  rw [hl] at hkept ⊢
  dsimp only
  rw [if_neg (not_not.mpr hfirst), if_neg (by rw [hqueued]; decide)]
  refine unless_perform (updateTask_sure _ _ _) (fun _ _ _ => ⟨?_, by simp, fun _ => hfirst⟩)
    fun v choice value w hrely _ _ heffect => ?_
  · exact congrArg (· + 1) hfirst.symm
  · refine getTask_keeps h (h.commit v _ _ _ (h.rely _ v hrely hkept) (effect_stays heffect)) ?_
    cases effect_inv heffect with
    | updateTask => exact AList.lookup_isSome.mpr ((AList.mem_insert _).mpr (.inl rfl))

theorem keptStoring_nothing (id : Nat) (taskId : String) :
    KeptStoring id taskId fun _ : (lifecycle setup).State => True :=
  ⟨fun _ _ _ _ => trivial, fun _ _ _ => trivial, fun _ _ _ _ _ _ => trivial⟩

theorem queue_offers (hready : Ready id plan.planId s) :
    (queue setup plan).Holds (@offerDiscipline setup) id (Unless id fun _ _ => True) s := by
  refine unless_bind (createTask_made hready none) fun task t ⟨hmade, huntaken⟩ => ?_
  refine unless_bind (offerAll_keeps keptOffering_first _ ⟨hmade, huntaken⟩)
    fun offered u ⟨hmade, hoffered⟩ => ?_
  cases offered with
  | true => exact storeOffer_keeps (keptStoring_nothing ..) hmade.1 hoffered trivial
  | false =>
      simp only [Bool.false_eq_true, if_false]
      split
      next => exact unoffering_ends (startInline_unoffering hmade.1 plan) hoffered
      next => exact unoffering_ends (getTask_every trivial) hoffered

theorem approveAndQueue_offers (planId planHash : String) (approved : Bool)
    (huntaken : Untaken id s) :
    (approveAndQueue setup planId planHash approved).Holds (@offerDiscipline setup) id
      (Unless id fun _ _ => True) s := by
  refine unless_bind (approvedPlan_ready planId huntaken) fun plan t hready => ?_
  refine unless_bind (unoffering_ready (.perform trivial) hready) fun _ u hready => ?_
  split
  next =>
    have hlist : (findActiveLogin plan).Every Unoffering := .perform_bind trivial fun _ => trivial
    refine unless_bind (unoffering_ready hlist hready) fun existing v hready => ?_
    cases existing with
    | some existing => exact .pure trivial
    | none => exact queue_offers hready
  next => exact queue_offers hready

theorem retryTask_offers (taskId : String) (huntaken : Untaken id s) :
    (retryTask setup taskId).Holds (@offerDiscipline setup) id (Unless id fun _ _ => True) s := by
  refine unless_bind (unoffering_keeps (getTask_every trivial) huntaken)
    fun previous t huntaken => ?_
  split
  next => exact .throw huntaken
  next =>
    refine unless_bind (getPlan_ready _ huntaken) fun plan u hready => ?_
    refine unless_bind (createTask_made hready _) fun task v ⟨hmade, huntaken⟩ => ?_
    refine unless_bind (offerUntilTaken_keeps keptOffering_first _ ⟨hmade, huntaken⟩)
      fun offered w ⟨hmade, hoffered⟩ => ?_
    cases offered with
    | true => exact storeOffer_keeps (keptStoring_nothing ..) hmade.1 hoffered trivial
    | false =>
        simp only [Bool.false_eq_true, if_false]
        split
        next => exact unoffering_ends (startInline_unoffering hmade.1 plan) hoffered
        next => exact .pure trivial

theorem authenticationComplete_offers (taskId : String) (huntaken : Untaken id s) :
    (authenticationComplete setup taskId).Holds (@offerDiscipline setup) id
      (Unless id fun _ _ => True) s := by
  refine unless_bind (unoffering_keeps (getTask_every trivial) huntaken) fun task t huntaken => ?_
  split
  next => exact .throw huntaken
  next =>
    refine unless_bind (unoffering_keeps (planAndPersist_unoffering _ _ _) huntaken)
      fun plan u huntaken => ?_
    split
    next => exact approveAndQueue_offers _ _ _ huntaken
    next =>
      refine unless_bind (unoffering_keeps (.perform trivial) huntaken)
        fun finishedAt v huntaken => ?_
      have hended : (transitionTask taskId task.version .succeeded none none
          (some finishedAt)).Every Unoffering :=
        transitionTask_unoffering (by decide) (fun h => by cases h) _ _ _ _
      exact unless_bind (unoffering_keeps hended huntaken)
        fun _ _ huntaken => approveAndQueue_offers _ _ _ huntaken

-- The queued tasks that are left of a listing are at hand, and their plans are stored.
def Remaining (id : Nat) (rest : List ConnectorTaskRecord) (s : (lifecycle setup).State) : Prop :=
  ∀ task ∈ rest, task.status = .queued →
    Made id task s ∧ (s.shared.plans.lookup task.planId).isSome

theorem Remaining.rely (h : Remaining id rest s) (hrely : offerDiscipline.rely id s t) :
    Remaining id rest t :=
  fun task hm hqueued =>
    ⟨(h task hm hqueued).1.rely hrely, hrely.1.2 _ (h task hm hqueued).2⟩

theorem keptOffering_remaining (rest : List ConnectorTaskRecord) : KeptOffering id task plan
    fun offered (s : (lifecycle setup).State) => Made id task s ∧ Remaining id rest s ∧
      (offered = true → (id, task.taskId) ∈ (standing s).pending) where
  made _ _ h := h.1
  rely _ _ _ hrely h :=
    ⟨h.1.rely hrely, h.2.1.rely hrely, fun ho => (hrely.2.pending _).mpr (h.2.2 ho)⟩
  offer offered taken s h := by
    refine ⟨made_offered h.1, fun other hm hqueued => ?_, fun ho => ?_⟩
    · exact ⟨made_offered (h.2.1 other hm hqueued).1, (h.2.1 other hm hqueued).2⟩
    · rw [standing_offered]
      cases taken with
      | true => exact List.mem_cons_self
      | false => exact h.2.2 (by simpa using ho)

theorem keptStoring_remaining (hother : ∀ task ∈ rest, taskId ≠ task.taskId) :
    KeptStoring id taskId fun s : (lifecycle setup).State => Remaining id rest s where
  rely _ _ hrely h := h.rely hrely
  read s answer h task hm hqueued := by
    obtain ⟨hmade, hplan⟩ := h task hm hqueued
    refine ⟨⟨hmade.1, ?_⟩, hplan⟩
    rw [standing_note]
    exact hmade.2
  commit s loaded changed shared h hstays task hm hqueued := by
    obtain ⟨hmade, hplan⟩ := h task hm hqueued
    refine ⟨⟨hmade.1, ?_⟩, hstays.2 _ hplan⟩
    rw [standing_note]
    refine List.mem_filter.mpr ⟨hmade.2, ?_⟩
    simpa using Ne.symm (hother task hm)

theorem getPlan_remaining (hplan : (s.shared.plans.lookup planId).isSome)
    (hrest : Remaining id rest s) :
    (getPlan planId).Holds (@offerDiscipline setup) id
      (Unless id fun _ s => Remaining id rest s) s := by
  refine unless_perform (readPlan_sure planId) (fun _ _ _ => trivial)
    fun t choice found u hrely _ _ heffect => ?_
  cases effect_inv heffect with
  | readPlan =>
      obtain ⟨plan, hl⟩ := Option.isSome_iff_exists.mp (hrely.1.2 planId hplan)
      have hkept : Remaining id rest
          (t.note (.did id (.readPlan planId) (.ok (t.shared.plans.lookup planId))) t.shared) := by
        intro task hm hqueued
        obtain ⟨hmade, hstored⟩ := hrest.rely hrely task hm hqueued
        exact ⟨⟨hmade.1, by rw [standing_note]; exact hmade.2⟩, hstored⟩
      rw [hl] at hkept ⊢
      exact .pure hkept

theorem offerQueued_offers {tasks : List ConnectorTaskRecord}
    (hdistinct : tasks.Pairwise fun task other => task.taskId ≠ other.taskId)
    (htasks : Remaining id tasks s) :
    (offerQueued setup tasks).Holds (@offerDiscipline setup) id (Unless id fun _ _ => True) s := by
  induction tasks generalizing s with
  | nil => exact .pure trivial
  | cons task rest ih =>
      obtain ⟨hother, hdistinct⟩ := List.pairwise_cons.mp hdistinct
      unfold offerQueued
      split
      next => exact ih hdistinct fun other hm => htasks other (List.mem_cons_of_mem _ hm)
      next hqueued =>
        have hqueued := not_not.mp hqueued
        have hplan := (htasks task List.mem_cons_self hqueued).2
        refine unless_bind (getPlan_remaining hplan htasks) fun plan t htasks => ?_
        have hmade := (htasks task List.mem_cons_self hqueued).1
        have hrest : Remaining id rest t := fun other hm => htasks other (List.mem_cons_of_mem _ hm)
        refine unless_bind (offerUntilTaken_keeps (keptOffering_remaining rest) _
          ⟨hmade, hrest, fun h => by cases h⟩) fun success u hkept => ?_
        obtain ⟨hmade, hrest, hpending⟩ := hkept
        cases success with
        | false => exact ih hdistinct hrest
        | true =>
            refine unless_bind (storeOffer_keeps (keptStoring_remaining hother) hmade.1
              (hpending rfl) hrest) fun offered v hrest => ?_
            exact unless_bind (ih hdistinct hrest) fun _ _ _ => .pure trivial

theorem offerQueuedTasks_offers (nodeId : String) (huntaken : Untaken id s)
    (hoffers : id ∈ (standing s).offerers) :
    (offerQueuedTasks setup nodeId).Holds (@offerDiscipline setup) id
      (Unless id fun _ _ => True) s := by
  refine .perform_bind (fun _ _ _ => trivial) (fun t _ found _ hrely hgood _ heffect => ?_)
    fun t _ _ _ hrely _ _ _ => (huntaken.rely hrely).did (by simp)
  cases effect_inv heffect with
  | listActive hperm =>
      have hkey : ∀ task ∈ found, t.shared.tasks.lookup task.taskId = some task := by
        intro task hm
        obtain ⟨⟨key, hl⟩, -⟩ := Table.mem_select.mp (hperm.mem_iff.mp hm)
        rwa [hgood.keyed key task hl]
      refine offerQueued_offers ?_ fun task hm hqueued => ?_
      · have hnodup : found.Nodup := hperm.nodup_iff.mpr
          (Table.select_nodup _ (fun key row hl => hgood.keyed key row hl) _)
        refine hnodup.imp_of_mem fun {task other} hm ho hne he => hne ?_
        have hl := hkey task hm
        rw [he, hkey other ho] at hl
        exact (Option.some.inj hl).symm
      · have hl := hkey task hm
        refine ⟨⟨(hgood.version _ task hl).2.mp hqueued, ?_⟩, hgood.planned _ task hl⟩
        rw [standing_note]
        simp only [Standing.note, hrely.2.offerers.mpr hoffers, if_true]
        refine List.mem_append_left _ (List.mem_map.mpr ⟨task, List.mem_filter.mpr ⟨hm, ?_⟩, rfl⟩)
        simpa using hqueued

theorem reporting_ends (h : program.Every Reporting) (huntaken : Untaken id s) :
    program.Holds (@offerDiscipline setup) id (Unless id fun _ _ => True) s :=
  unoffering_ends (h.mono fun _ => unoffering_of_reporting) huntaken

theorem offer_programs : (@offerDiscipline setup).Programs := by
  intro id call s t _ hfresh _ henter
  have huntaken : Untaken id (s.note (.entered id call) t) := by
    intro hm
    rw [standing_note] at hm
    refine hfresh.2.1 ?_
    cases call <;> exact hm
  cases call with
  | planConnectorTask =>
      exact unless_bind (unoffering_ends (.perform trivial) huntaken) fun _ _ _ => .pure trivial
  | planAndPersistConnectorTask =>
      exact unless_bind (unoffering_ends (planAndPersist_unoffering _ _ _) huntaken)
        fun _ _ _ => .pure trivial
  | approveAndQueue =>
      exact unless_bind (approveAndQueue_offers _ _ _ huntaken) fun _ _ _ => .pure trivial
  | offerQueuedTasks nodeId =>
      have hoffers : id ∈ (standing (s.note (.entered id (.offerQueuedTasks nodeId)) t)).offerers := by
        rw [standing_note]
        exact List.mem_cons_self
      exact unless_bind (offerQueuedTasks_offers _ huntaken hoffers) fun _ _ _ => .pure trivial
  | runOnNode taskId plan sinks final =>
      simp only [lifecycle, Call.enter] at henter
      split at henter
      next hreturns =>
        exact unless_bind (reporting_ends (runOnNode_reporting hreturns.2 _ _ _) huntaken)
          fun _ _ _ => .pure trivial
      next => cases henter
  | cancelTask =>
      exact unless_bind (reporting_ends (cancelTask_reporting _) huntaken) fun _ _ _ => .pure trivial
  | retryTask => exact unless_bind (retryTask_offers _ huntaken) fun _ _ _ => .pure trivial
  | authenticationComplete =>
      exact unless_bind (authenticationComplete_offers _ huntaken) fun _ _ _ => .pure trivial
  | ingest =>
      exact unless_bind (reporting_ends (ingest_reporting _ _) huntaken) fun _ _ _ => .pure trivial

end Programs

section Theorem

variable {setup : Setup} {now : Time} {labels : List (lifecycle setup).Label}
  {w : (lifecycle setup).World} {label : (lifecycle setup).Label}

def OfferHandOver (setup : Setup) (now : Time) (labels : List (lifecycle setup).Label) : Prop :=
  Along System.World.step HandOverKept (lifecycleFrom setup now) labels ∧
    ∀ first rest w, labels = first ++ rest →
      run System.World.step (lifecycleFrom setup now) first = some w → OfferReturned w

theorem offer_initial (setup : Setup) (now : Time) :
    offerDiscipline.Sound (lifecycleFrom setup now) := by
  refine System.Discipline.sound_initial ⟨?_, ?_, ?_, ?_, ?_, ?_, ?_⟩
    fun _ => ⟨List.not_mem_nil, List.not_mem_nil, fun _ => List.not_mem_nil⟩
  · exact fun _ _ hl => by cases hl
  · exact fun _ _ hl => by cases hl
  · exact fun _ _ hl => by cases hl
  · exact fun _ _ hl => by cases hl
  · exact fun _ _ hm => absurd hm List.not_mem_nil
  · exact fun _ _ _ hm => absurd hm List.not_mem_nil
  · exact fun _ _ hm => absurd hm List.not_mem_nil

theorem meets_of_undisturbed (h : OffersUndisturbed w label) : offerDiscipline.Meets w label := by
  cases label with
  | start => trivial
  | go => exact h
  | outside => trivial

theorem ne_offered_of_past {status : ConnectorTaskStatus}
    (h : status = .acceptedByNode ∨ status = .running ∨ status.terminal = true) :
    status ≠ .offeredToNode := by
  rintro rfl
  exact absurd h (by decide)

-- Only a commit over a queued row stores an offer.
theorem offered_of_effect {s : (lifecycle setup).State} {id : Nat} {op : Op} {choice : Choice}
    {answer : Except Raised op.Reply} {shared : Shared} {taskId : String}
    {row after : ConnectorTaskRecord} (h : OfferRows s) (hlawful : OfferLawful id op s)
    (hallowed : Undisturbed id op choice s)
    (heffect : effect setup op choice s.shared = some (answer, shared))
    (hl : s.shared.tasks.lookup taskId = some row) (hnow : shared.tasks.lookup taskId = some after) :
    after = row ∨ (after.status = .offeredToNode → row.status = .queued) := by
  cases effect_inv heffect with
  | updateTask hfound =>
      rcases Table.lookup_insert_cases hnow with ⟨rfl, rfl⟩ | ⟨-, hnow⟩
      · obtain rfl := Option.some.inj (hl.symm.trans hfound)
        obtain rfl := hallowed.2 row hl
        refine .inr fun hoffered => (h.version _ row hl).2.mpr (hlawful.2.2 ?_)
        simp only [ConnectorTaskRecord.flush] at hoffered
        split at hoffered
        next he => exact he.trans hoffered
        next => exact hoffered
      · exact .inl (Option.some.inj (hnow.symm.trans hl))
  | insertTask hnew =>
      rcases Table.lookup_insert_cases hnow with ⟨rfl, rfl⟩ | ⟨-, hnow⟩
      · rw [hnew] at hl
        cases hl
      · exact .inl (Option.some.inj (hnow.symm.trans hl))
  | _ => exact .inl (Option.some.inj (hnow.symm.trans hl))

theorem handOverKept_of_sound (h : offerDiscipline.Sound w) (hc : OffersUndisturbed w label) :
    HandOverKept w label := by
  constructor
  · intro next taskId row after hstep hl hnow hpast hoffered
    have hstays : after = row ∨ (after.status = .offeredToNode → row.status = .queued) := by
      cases System.World.step_cases hstep with
      | start _ henter =>
          rw [System.World.put_shared, System.State.note_shared, enter_tasks henter, hl] at hnow
          exact .inl (Option.some.inj hnow).symm
      | outside hevent =>
          rw [System.State.note_shared, outside_tasks hevent, hl] at hnow
          exact .inl (Option.some.inj hnow).symm
      | go hthread heffect =>
          have hop := System.World.awaiting_of_thread hthread
          rw [System.World.put_shared, System.State.note_shared] at hnow
          exact offered_of_effect h.good (h.lawful hop) (hc _ hop) heffect hl hnow
    rcases hstays with rfl | hqueued
    · exact ne_offered_of_past hpast hoffered
    · rw [hqueued hoffered] at hpast
      exact absurd hpast (by decide)
  · cases label with
    | go id choice =>
        intro task plan hop other hpending
        exact h.good.alone other id task.taskId (h.good.pending other _ hpending).1 (h.lawful hop)
    | start => trivial
    | outside => trivial

theorem offerReturned_of_sound (h : offerDiscipline.Sound w) : OfferReturned w :=
  fun _ _ _ hthread => h.ended hthread

theorem offerHandOver_of_undisturbed
    (h : Along System.World.step OffersUndisturbed (lifecycleFrom setup now) labels) :
    OfferHandOver setup now labels := by
  refine ⟨?_, fun first rest w hlabels hrun => ?_⟩
  · exact Along.of_invariant
      (fun _ _ _ h hc hs => h.step offer_programs (meets_of_undisturbed hc) hs)
      (fun _ _ h hc => handOverKept_of_sound h hc) (offer_initial setup now) h
  · rw [hlabels] at h
    exact offerReturned_of_sound ((offer_initial setup now).run offer_programs
      (h.append_left.mono fun _ _ => meets_of_undisturbed) hrun)

end Theorem

section Samples

instance {setup : Setup} (id : Nat) (op : Op) (choice : Choice) (s : (lifecycle setup).State) :
    Decidable (Undisturbed id op choice s) := by
  unfold Undisturbed
  split <;> infer_instance

instance {setup : Setup} (w : (lifecycle setup).World) (label : (lifecycle setup).Label) :
    Decidable (OffersUndisturbed w label) :=
  match label with
  | .go id choice =>
      inferInstanceAs (Decidable (∀ op ∈ w.awaiting id, Undisturbed id op choice w.state))
  | .start _ _ | .outside _ => .isTrue trivial

def acceptedMessage : ProtocolMessage where
  type := .taskAccepted
  nodeId := "node"
  payload := .ofList [("task_id", .str "task"), ("plan_hash", .str "hash"),
    ("sequence_number", .int 1)]

-- The plan is approved and the offer is taken.
def offeringRun : List (lifecycle plainSetup).Label :=
  [.start 0 (.planAndPersistConnectorTask "node" "cursor" .discover),
    .go 0 (.planned discoverPlan), .go 0 .done, .go 0 .done,
    .start 1 (.approveAndQueue "plan" "hash" true), .go 1 .done, .go 1 .done,
    .go 1 (.generated "task"), .go 1 .done, .go 1 .done, .go 1 (.offered true)]

def storingRun : List (lifecycle plainSetup).Label := [.go 1 .done, .go 1 .done, .go 1 .done]

def acceptingRun : List (lifecycle plainSetup).Label :=
  [.start 2 (.ingest acceptedMessage), .go 2 .done, .go 2 (.generated "event"), .go 2 .done,
    .go 2 .done, .go 2 .done, .go 2 .done, .go 2 .done, .go 2 .done, .go 2 .done]

theorem accepted_after_offer :
    OfferHandOver plainSetup 0 (offeringRun ++ storingRun ++ acceptingRun) :=
  offerHandOver_of_undisturbed (by decide +kernel)

-- The node answers before the call that has offered the task goes on.
theorem fast_node_raises :
    ¬ OfferHandOver plainSetup 0 (offeringRun ++ acceptingRun ++ [.go 1 .done]) := by
  intro h
  obtain ⟨w, hrun⟩ := Option.isSome_iff_exists.mp
    (show (run System.World.step (lifecycleFrom plainSetup 0)
      (offeringRun ++ acceptingRun ++ [.go 1 .done])).isSome by decide +kernel)
  have hlast : (run System.World.step (lifecycleFrom plainSetup 0)
      (offeringRun ++ acceptingRun ++ [.go 1 .done])).map (fun w =>
        ((w.returned 1).map fun ended => ended.2.isOk, decide (1 ∈ (standing w.state).taken))) =
        some (some false, true) := by
    decide +kernel
  rw [hrun, Option.map_some, Option.some.injEq, Prod.mk.injEq] at hlast
  obtain ⟨⟨call, result⟩, hreturned, hraised⟩ := Option.map_eq_some_iff.mp hlast.1
  have hthread := System.World.thread_of_returned hreturned
  have htaken : 1 ∈ (standing w.state).taken := of_decide_eq_true hlast.2
  cases result with
  | ok => cases hraised
  | error error => exact h.2 _ [] w (List.append_nil _).symm hrun 1 call error hthread htaken

end Samples

end JoyMesh.Lifecycle
