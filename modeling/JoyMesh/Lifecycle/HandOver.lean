import JoyMesh.Library.History
import JoyMesh.Lifecycle.Coordinator
import JoyMesh.Lifecycle.Transitions

namespace JoyMesh.Lifecycle

open JoyMesh.Library ConnectorLifecycleStore ConnectorLifecycleCoordinator

section Definitions

variable {setup : Setup}

def lifecycleFrom (setup : Setup) (now : Time) : (lifecycle setup).World :=
  .initial _ { clock := now }

-- The plan that a step hands over: a callback takes the task, or it is started inline.
def handedOver (w : (lifecycle setup).World) :
    (lifecycle setup).Label → Option ConnectorTaskPlan
  | .go id choice =>
      match w.awaiting id with
      | some (.offer _ plan) => if choice = .offered true then some plan else none
      | some (.createTask _ plan) => some plan
      | _ => none
  | _ => none

-- A call of approve_and_queue has had the plan approved with its own hash.
def Presented (plan : ConnectorTaskPlan) (s : (lifecycle setup).State) : Prop :=
  ∃ id, (.did id (.present plan plan.planHash true) (.ok ()) : (lifecycle setup).Event) ∈ s.history

-- The planner accepts the plan at the moment that it is handed over, and it has
-- been approved.
def ValidHandOver (w : (lifecycle setup).World) (label : (lifecycle setup).Label) : Prop :=
  ∀ plan, handedOver w label = some plan →
    w.state.shared.validate plan = .ok () ∧ Presented plan w.state

-- A call of approve_and_queue goes on with the plan.
def Accepts (plan : ConnectorTaskPlan) : (lifecycle setup).Event → Prop
  | .did _ (.present other _ _) (.ok _) => other = plan
  | _ => False

-- No time passes up to the expiry of the plan.
def Spares (plan : ConnectorTaskPlan) : (lifecycle setup).Event → Prop
  | .happened (.passes now) => now < plan.expiresAt
  | _ => True

-- The planner is given the plan to remember: it makes it, or is asked to approve it.
def Recalls (plan : ConnectorTaskPlan) : (lifecycle setup).Event → Prop
  | .did _ (.plan _ _ _) (.ok other) => other = plan
  | .did _ (.present other _ _) _ => other = plan
  | _ => False

def Running : (lifecycle setup).Event → Prop
  | .happened .restarts => False
  | _ => True

-- A plan is handed over while the clock has stayed before its expiry since one of
-- its approvals, in a process that has not restarted since the plan was made or
-- presented to it.
def Prompt (w : (lifecycle setup).World) (label : (lifecycle setup).Label) : Prop :=
  ∀ plan, handedOver w label = some plan →
    Since (Accepts plan) (Spares plan) w.state.history ∧
      Since (Recalls plan) Running w.state.history

end Definitions

section Plans

variable {setup : Setup} {s t : (lifecycle setup).State} {plan : ConnectorTaskPlan} {id : Nat}
  {event : (lifecycle setup).Event} {shared before after : Shared} {op : Op} {choice : Choice}
  {answer : Except Raised op.Reply}

-- The planner has made the plan.
def Planned (plan : ConnectorTaskPlan) (s : (lifecycle setup).State) : Prop :=
  ∃ id nodeId connectorId action,
    (.did id (.plan nodeId connectorId action) (.ok plan) : (lifecycle setup).Event) ∈ s.history

def Cleared (plan : ConnectorTaskPlan) (s : (lifecycle setup).State) : Prop :=
  Planned plan s ∧ Presented plan s

theorem Planned.mono (hsub : s.history ⊆ t.history) (h : Planned plan s) : Planned plan t := by
  obtain ⟨id, nodeId, connectorId, action, hm⟩ := h
  exact ⟨id, nodeId, connectorId, action, hsub hm⟩

theorem Presented.mono (hsub : s.history ⊆ t.history) (h : Presented plan s) :
    Presented plan t := by
  obtain ⟨id, hm⟩ := h
  exact ⟨id, hsub hm⟩

theorem Cleared.mono (hsub : s.history ⊆ t.history) (h : Cleared plan s) : Cleared plan t :=
  ⟨h.1.mono hsub, h.2.mono hsub⟩

theorem history_note (event : (lifecycle setup).Event) (shared : Shared) :
    s.history ⊆ (s.note event shared).history := List.subset_append_left ..

theorem Planned.through (h : Planned plan s) (hsub : s.history ⊆ t.history) :
    Planned plan (t.note event shared) :=
  h.mono (List.Subset.trans hsub (history_note ..))

theorem Planned.past (h : Planned plan s) (hsub : (s.note event shared).history ⊆ t.history) :
    Planned plan t :=
  h.mono (List.Subset.trans (history_note event shared) hsub)

theorem Cleared.through (h : Cleared plan s) (hsub : s.history ⊆ t.history) :
    Cleared plan (t.note event shared) :=
  h.mono (List.Subset.trans hsub (history_note ..))

-- The task was made from a plan that is cleared.
def ClearedTask (task : ConnectorTaskRecord) (s : (lifecycle setup).State) : Prop :=
  ∃ plan, Cleared plan s ∧ plan.planId = task.planId

theorem ClearedTask.mono {task : ConnectorTaskRecord} (hsub : s.history ⊆ t.history)
    (h : ClearedTask task s) : ClearedTask task t := by
  obtain ⟨plan, hplan, hid⟩ := h
  exact ⟨plan, hplan.mono hsub, hid⟩

-- An id belongs to one plan, wherever the plan is kept.
structure KnownPlans (s : (lifecycle setup).State) : Prop where
  issued : ∀ plan, Planned plan s → plan.planId ∈ s.shared.issued
  unique : ∀ plan other, Planned plan s → Planned other s → plan.planId = other.planId →
    plan = other
  stored : ∀ planId plan, s.shared.plans.lookup planId = some plan →
    Planned plan s ∧ plan.planId = planId
  remembered : ∀ planId plan, s.shared.plannerPlans.lookup planId = some plan →
    Planned plan s ∧ plan.planId = planId
  tasks : ∀ taskId task, s.shared.tasks.lookup taskId = some task → ClearedTask task s

-- What is kept or handed over is a plan of the planner.
def PlanKept (op : Op) (s : (lifecycle setup).State) : Prop :=
  match op with
  | .putPlan plan => Planned plan s
  | .insertPlan plan => Planned plan s
  | .present plan _ _ => Planned plan s
  | .insertTask task => ClearedTask task s
  | .offer _ plan => Cleared plan s
  | .createTask _ plan => Cleared plan s
  | _ => True

theorem planKept_of_reporting (h : Reporting op) : PlanKept op s := by
  cases op <;> first | exact h.elim | trivial

theorem planned_note (h : Planned plan (s.note event shared)) :
    Planned plan s ∨ ∃ id nodeId connectorId action,
      event = .did id (.plan nodeId connectorId action) (.ok plan) := by
  obtain ⟨id, nodeId, connectorId, action, hm⟩ := h
  rcases List.mem_append.mp hm with hm | hm
  · exact .inl ⟨id, nodeId, connectorId, action, hm⟩
  · exact .inr ⟨id, nodeId, connectorId, action, (List.mem_singleton.mp hm).symm⟩

-- Where no plan is made, the plans that are stored or remembered are known before.
theorem KnownPlans.moved (h : KnownPlans s) (hevent : ∀ id nodeId connectorId action plan,
      event ≠ .did id (.plan nodeId connectorId action) (.ok plan))
    (hissued : s.shared.issued ⊆ shared.issued)
    (hstored : ∀ planId plan, shared.plans.lookup planId = some plan →
      s.shared.plans.lookup planId = some plan ∨ Planned plan s ∧ plan.planId = planId)
    (hremembered : ∀ planId plan, shared.plannerPlans.lookup planId = some plan →
      s.shared.plannerPlans.lookup planId = some plan ∨ Planned plan s ∧ plan.planId = planId)
    (htasks : ∀ taskId task, shared.tasks.lookup taskId = some task → ClearedTask task s) :
    KnownPlans (s.note event shared) := by
  have hback : ∀ plan, Planned plan (s.note event shared) → Planned plan s := by
    intro plan hplan
    rcases planned_note hplan with hplan | ⟨id, nodeId, connectorId, action, he⟩
    · exact hplan
    · exact absurd he (hevent id nodeId connectorId action plan)
  have hsub := history_note (s := s) event shared
  refine ⟨fun plan hplan => hissued (h.issued plan (hback plan hplan)),
    fun plan other hplan hother => h.unique plan other (hback plan hplan) (hback other hother),
    fun planId plan hl => ?_, fun planId plan hl => ?_,
    fun taskId task hl => (htasks taskId task hl).mono hsub⟩
  · have hknown : Planned plan s ∧ plan.planId = planId :=
      (hstored planId plan hl).elim (h.stored planId plan) id
    exact ⟨hknown.1.mono hsub, hknown.2⟩
  · have hknown : Planned plan s ∧ plan.planId = planId :=
      (hremembered planId plan hl).elim (h.remembered planId plan) id
    exact ⟨hknown.1.mono hsub, hknown.2⟩

theorem KnownPlans.made (h : KnownPlans s) {nodeId connectorId : String} {action : ConnectorAction}
    (hissued : plan.planId ∉ s.shared.issued) :
    KnownPlans (s.note (.did id (.plan nodeId connectorId action) (.ok plan))
      { s.shared.putPlan plan with issued := plan.planId :: s.shared.issued }) := by
  have hsub := history_note (s := s) (.did id (.plan nodeId connectorId action) (.ok plan))
    { s.shared.putPlan plan with issued := plan.planId :: s.shared.issued }
  have hmade : Planned plan (s.note (.did id (.plan nodeId connectorId action) (.ok plan))
      { s.shared.putPlan plan with issued := plan.planId :: s.shared.issued }) :=
    ⟨id, nodeId, connectorId, action, List.mem_append_right _ (List.mem_singleton_self _)⟩
  have hback : ∀ other, Planned other (s.note (.did id (.plan nodeId connectorId action) (.ok plan))
      { s.shared.putPlan plan with issued := plan.planId :: s.shared.issued }) →
        Planned other s ∨ other = plan := by
    intro other hother
    rcases planned_note hother with hother | ⟨_, _, _, _, he⟩
    · exact .inl hother
    · cases he
      exact .inr rfl
  have hfresh : ∀ other, Planned other s → other.planId ≠ plan.planId :=
    fun other hother he => hissued (he ▸ h.issued other hother)
  refine ⟨fun other hother => ?_, fun first second hfirst hsecond he => ?_,
    fun planId other hl => ?_, fun planId other hl => ?_,
    fun taskId task hl => (h.tasks taskId task hl).mono hsub⟩
  · rcases hback other hother with hother | rfl
    · exact List.mem_cons_of_mem _ (h.issued other hother)
    · exact List.mem_cons_self
  · rcases hback first hfirst with hold | rfl <;> rcases hback second hsecond with hknown | rfl
    · exact h.unique first second hold hknown he
    · exact absurd he (hfresh first hold)
    · exact absurd he.symm (hfresh second hknown)
    · rfl
  · obtain ⟨hknown, hid⟩ := h.stored planId other hl
    exact ⟨hknown.mono hsub, hid⟩
  · rcases Table.lookup_insert_cases hl with ⟨rfl, rfl⟩ | ⟨-, hl⟩
    · exact ⟨hmade, rfl⟩
    · obtain ⟨hknown, hid⟩ := h.remembered planId other hl
      exact ⟨hknown.mono hsub, hid⟩

theorem KnownPlans.step {op : Op} {choice : Choice} {answer : Except Raised op.Reply}
    {shared : Shared} (h : KnownPlans s) (hkept : PlanKept op s)
    (heffect : effect setup op choice s.shared = some (answer, shared)) :
    KnownPlans (s.note (.did id op answer) shared) := by
  have hput : ∀ plan, Planned plan s → ∀ planId other,
      (s.shared.putPlan plan).plannerPlans.lookup planId = some other →
        s.shared.plannerPlans.lookup planId = some other ∨ Planned other s ∧ other.planId = planId := by
    intro plan hplan planId other hl
    rcases Table.lookup_insert_cases hl with ⟨rfl, rfl⟩ | ⟨-, hl⟩
    · exact .inr ⟨hplan, rfl⟩
    · exact .inl hl
  cases effect_inv heffect with
  | plan _ _ _ hissued => exact h.made hissued
  | updateTask hl =>
      refine h.moved (by simp) (List.Subset.refl _) (fun _ _ => .inl) (fun _ _ => .inl) ?_
      intro taskId task hfound
      rcases Table.lookup_insert_cases hfound with ⟨rfl, rfl⟩ | ⟨-, hfound⟩
      · have hcleared := h.tasks _ _ hl
        exact hcleared
      · exact h.tasks taskId task hfound
  | insertTask =>
      refine h.moved (by simp) (List.Subset.refl _) (fun _ _ => .inl) (fun _ _ => .inl) ?_
      intro taskId task hfound
      rcases Table.lookup_insert_cases hfound with ⟨rfl, rfl⟩ | ⟨-, hfound⟩
      · exact hkept
      · exact h.tasks taskId task hfound
  | insertPlan =>
      refine h.moved (by simp) (List.Subset.refl _) (fun planId other hfound => ?_)
        (fun _ _ => .inl) h.tasks
      rcases Table.lookup_insert_cases hfound with ⟨rfl, rfl⟩ | ⟨-, hfound⟩
      · exact .inr ⟨hkept, rfl⟩
      · exact .inl hfound
  | putPlan => exact h.moved (by simp) (List.Subset.refl _) (fun _ _ => .inl) (hput _ hkept) h.tasks
  | present => exact h.moved (by simp) (List.Subset.refl _) (fun _ _ => .inl) (hput _ hkept) h.tasks
  | uuid4 =>
      exact h.moved (by simp) (List.subset_cons_self ..) (fun _ _ => .inl) (fun _ _ => .inl) h.tasks
  | raised =>
      refine h.moved (fun _ _ _ _ _ he => ?_) (List.Subset.refl _) (fun _ _ => .inl)
        (fun _ _ => .inl) h.tasks
      cases he
  | _ => exact h.moved (by simp) (List.Subset.refl _) (fun _ _ => .inl) (fun _ _ => .inl) h.tasks

-- Since an approval that went through, the plan has not expired while no time up to
-- its expiry has passed, and the planner remembers it until the next restart.
structure Sheltered (s : (lifecycle setup).State) : Prop extends KnownPlans s where
  unexpired : ∀ plan, Since (Accepts plan) (Spares plan) s.history →
    s.shared.clock < plan.expiresAt
  held : ∀ plan, Since (Recalls plan) Running s.history →
    (s.shared.plannerPlans.lookup plan.planId).isSome

theorem Sheltered.noted (h : Sheltered s) (hknown : KnownPlans (s.note event shared))
    (hunexpired : ∀ plan, Accepts plan event ∨ s.shared.clock < plan.expiresAt ∧ Spares plan event →
      shared.clock < plan.expiresAt) (hheld : ∀ plan, Recalls plan event ∨
      (s.shared.plannerPlans.lookup plan.planId).isSome ∧ Running event →
        (shared.plannerPlans.lookup plan.planId).isSome) : Sheltered (s.note event shared) where
  toKnownPlans := hknown
  unexpired plan hsince := by
    rcases since_concat.mp hsince with hstart | ⟨hbefore, hspares⟩
    · exact hunexpired plan (.inl hstart)
    · exact hunexpired plan (.inr ⟨h.unexpired plan hbefore, hspares⟩)
  held plan hsince := by
    rcases since_concat.mp hsince with hstart | ⟨hbefore, hrunning⟩
    · exact hheld plan (.inl hstart)
    · exact hheld plan (.inr ⟨h.held plan hbefore, hrunning⟩)

-- What does not touch the clock or the memory of the planner shelters what it did.
theorem Sheltered.aside (h : Sheltered s) (hknown : KnownPlans (s.note event shared))
    (haccepts : ∀ plan, ¬ Accepts plan event) (hrecalls : ∀ plan, ¬ Recalls plan event)
    (hclock : shared.clock = s.shared.clock) (hplans : shared.plannerPlans = s.shared.plannerPlans) :
    Sheltered (s.note event shared) :=
  h.noted hknown
    (fun plan hplan => hclock ▸ (hplan.resolve_left (haccepts plan)).1)
    fun plan hplan => hplans ▸ (hplan.resolve_left (hrecalls plan)).1

-- Only the hash of the plan itself, and only with an approval, passes the check
-- that comes after that of the expiry.
theorem presents_ok {planHash : String} {approved : Bool} {value : Unit}
    (h : shared.presents plan planHash approved = .ok value) :
    planHash = plan.planHash ∧ approved = true ∧ shared.clock < plan.expiresAt := by
  unfold Shared.presents at h
  cases hvalid : (shared.putPlan plan).validate plan with
  | error error =>
      rw [hvalid] at h
      cases h
  | ok _ =>
      rw [hvalid] at h
      simp only [bind, Except.bind] at h
      split at h
      next => cases h
      next hexact =>
        push Not at hexact
        refine ⟨hexact.2.symm, hexact.1, ?_⟩
        by_contra hexpired
        have hlookup : (shared.putPlan plan).plannerPlans.lookup plan.planId = some plan :=
          AList.lookup_insert _
        have hlate : plan.expiresAt ≤ (shared.putPlan plan).clock := not_lt.mp hexpired
        simp [Shared.validate, hlookup, hlate] at hvalid

theorem effect_clock (h : effect setup op choice before = some (answer, after)) :
    after.clock = before.clock := by
  cases effect_inv h <;> rfl

theorem effect_remembers (h : effect setup op choice before = some (answer, after))
    {planId : String} (hheld : (before.plannerPlans.lookup planId).isSome) :
    (after.plannerPlans.lookup planId).isSome := by
  have hput : ∀ plan, ((before.putPlan plan).plannerPlans.lookup planId).isSome := by
    intro plan
    by_cases he : planId = plan.planId
    · subst he
      rw [Shared.putPlan, AList.lookup_insert]
      rfl
    · rw [Shared.putPlan, AList.lookup_insert_ne he]
      exact hheld
  cases effect_inv h with
  | plan => exact hput _
  | putPlan => exact hput _
  | present => exact hput _
  | _ => exact hheld

theorem Sheltered.step {op : Op} {choice : Choice} {answer : Except Raised op.Reply}
    {shared : Shared} (h : Sheltered s) (hkept : PlanKept op s)
    (heffect : effect setup op choice s.shared = some (answer, shared)) :
    Sheltered (s.note (.did id op answer) shared) := by
  refine h.noted (h.toKnownPlans.step hkept heffect) (fun plan hplan => ?_) fun plan hplan => ?_
  · rw [effect_clock heffect]
    rcases hplan with haccepts | ⟨hbefore, -⟩
    · cases op with
      | present other planHash approved =>
          obtain ⟨rfl, -⟩ := effect_present heffect
          cases hpresents : s.shared.presents other planHash approved with
          | error error =>
              rw [hpresents] at haccepts
              exact haccepts.elim
          | ok value =>
              rw [hpresents] at haccepts
              obtain rfl : other = plan := haccepts
              exact (presents_ok hpresents).2.2
      | _ => exact haccepts.elim
    · exact hbefore
  · rcases hplan with hrecalls | ⟨hbefore, -⟩
    · cases effect_inv heffect with
      | plan =>
          obtain rfl : _ = plan := hrecalls
          exact Option.isSome_of_eq_some (AList.lookup_insert _)
      | present =>
          obtain rfl : _ = plan := hrecalls
          exact Option.isSome_of_eq_some (AList.lookup_insert _)
      | raised hfallible => cases op <;> first | exact hrecalls.elim | cases hfallible
      | _ => exact hrecalls.elim
    · exact effect_remembers heffect hbefore

end Plans

section Programs

variable {setup : Setup} {s : (lifecycle setup).State} {plan : ConnectorTaskPlan} {id : Nat}
  {α : Type} {program : LifecycleM α}

theorem leave_yields (id : Nat) (_ : (lifecycle setup).Call)
    (result : Except signature.Error (lifecycle setup).Result) (s : (lifecycle setup).State)
    (_ : Program.Yields (fun _ _ => True) result s) :
    Program.Yields (fun _ _ => True) result (s.note (.left id result) s.shared) := by
  cases result <;> trivial

def planDiscipline : (lifecycle setup).Discipline where
  good := Sheltered
  fresh _ _ := True
  rely _ s t := s.history ⊆ t.history
  lawful _ := PlanKept
  post _ _ := Program.Yields fun _ _ => True
  admitted _ _ _ := True
  allowed _ _ _ _ := True
  happens _ _ := True
  rely_refl _ _ := List.Subset.refl _
  rely_trans _ _ _ _ := List.Subset.trans
  fresh_rely _ _ _ _ _ := trivial
  post_rely _ _ result _ _ _ _ := by
    cases result <;> trivial
  step_good _ _ _ _ _ _ hg hkept _ heffect := hg.step hkept heffect
  step_rely _ _ _ _ _ _ _ _ _ _ _ _ := history_note ..
  enter_good _ call s t hg _ _ he := by
    rcases enter_cases he with rfl | ⟨background, rfl⟩ <;>
      exact hg.aside (hg.moved (by simp) (List.Subset.refl _) (fun _ _ => .inl) (fun _ _ => .inl)
        hg.tasks) (fun _ h => h) (fun _ h => h) rfl rfl
  enter_rely _ _ _ _ _ _ _ _ _ := history_note ..
  leave_good _ _ _ _ hg _ :=
    hg.aside (hg.moved (by simp) (List.Subset.refl _) (fun _ _ => .inl) (fun _ _ => .inl) hg.tasks)
      (fun _ h => h) (fun _ h => h) rfl rfl
  leave_rely _ _ _ _ _ _ _ _ := history_note ..
  leave_post := leave_yields
  outside_good event s t hg _ he := by
    cases event with
    | passes now =>
        simp only [lifecycle, Happening.effect] at he
        split at he
        next =>
          cases he
          exact hg.noted
            (hg.moved (by simp) (List.Subset.refl _) (fun _ _ => .inl) (fun _ _ => .inl) hg.tasks)
            (fun plan hplan => (hplan.resolve_left fun h => h).2)
            fun plan hplan => (hplan.resolve_left fun h => h).1
        next => cases he
    | restarts =>
        cases he
        refine hg.noted ?_ (fun plan hplan => (hplan.resolve_left fun h => h).1)
          fun plan hplan => (hplan.resolve_left fun h => h).2.elim
        refine hg.moved (by simp) (List.Subset.refl _) (fun _ _ => .inl) (fun _ _ hl => ?_) hg.tasks
        cases hl
  outside_rely _ _ _ _ _ _ _ := history_note ..

-- The one plan that has the id.
def PlanOf (planId : String) (plan : ConnectorTaskPlan) (s : (lifecycle setup).State) : Prop :=
  Planned plan s ∧ plan.planId = planId ∧
    ∀ other, Planned other s → other.planId = planId → other = plan

theorem PlanOf.cleared {task : ConnectorTaskRecord} (h : PlanOf task.planId plan s)
    (htask : ClearedTask task s) : Cleared plan s := by
  obtain ⟨other, hcleared, hid⟩ := htask
  exact h.2.2 other hcleared.1 hid ▸ hcleared

theorem getPlan_planned (planId : String) :
    (getPlan planId).Holds (@planDiscipline setup) id (Program.Yields (PlanOf planId)) s := by
  refine .perform_bind (fun _ _ _ => trivial) (fun t choice found u _ hgood _ heffect => ?_)
    fun _ _ _ _ _ _ _ _ => trivial
  cases effect_inv heffect with
  | readPlan =>
      cases hl : t.shared.plans.lookup planId with
      | none => exact .throw trivial
      | some plan =>
          obtain ⟨hplanned, rfl⟩ := hgood.stored planId plan hl
          refine .pure ⟨hplanned.mono (history_note ..), rfl, fun other hother he => ?_⟩
          rw [hl] at heffect
          have hafter : KnownPlans (t.note (.did id (.readPlan plan.planId) (.ok (some plan)))
              t.shared) :=
            @KnownPlans.step setup t id (.readPlan plan.planId) .done _ _ (Sheltered.toKnownPlans hgood)
              trivial heffect
          exact hafter.unique other plan hother (hplanned.mono (history_note ..)) he

theorem getTask_cleared (taskId : String) :
    (getTask taskId).Holds (@planDiscipline setup) id (Program.Yields ClearedTask) s := by
  refine .perform_bind (fun _ _ _ => trivial) (fun t choice found u _ hgood _ heffect => ?_)
    fun _ _ _ _ _ _ _ _ => trivial
  cases effect_inv heffect with
  | readTask =>
      cases hl : t.shared.tasks.lookup taskId with
      | none => exact .throw trivial
      | some task => exact .pure ((hgood.tasks taskId task hl).mono (history_note ..))

theorem reporting_holds (h : program.Every Reporting) :
    program.Holds (@planDiscipline setup) id (Program.Yields fun _ _ => True) s :=
  h.holds (fun _ _ hreporting _ => planKept_of_reporting hreporting)
    fun result _ => by cases result <;> trivial

-- What the history says stays so.
theorem holds_keeping {assertion : α → (lifecycle setup).State → Prop}
    {kept : (lifecycle setup).State → Prop}
    (hmono : ∀ s t : (lifecycle setup).State, s.history ⊆ t.history → kept s → kept t)
    (h : program.Holds (@planDiscipline setup) id (Program.Yields assertion) s) (hkept : kept s) :
    program.Holds (@planDiscipline setup) id
      (Program.Yields fun value s => assertion value s ∧ kept s) s :=
  h.keeping hmono (fun _ _ _ _ => hmono _ _ (history_note ..)) hkept

theorem transitionTask_holds (taskId : String) (expectedVersion : Nat)
    (status : ConnectorTaskStatus) (detail : Option String) (startedAt finishedAt : Option Time) :
    (transitionTask taskId expectedVersion status detail startedAt finishedAt).Holds
      (@planDiscipline setup) id (Program.Yields fun _ _ => True) s := by
  refine .perform_bind (fun _ _ _ => trivial) (fun t _ found u _ _ _ _ => ?_)
    fun _ _ _ _ _ _ _ _ => trivial
  cases found with
  | none => exact .throw trivial
  | some row =>
      dsimp only
      split
      next => exact .throw trivial
      next =>
        split
        next => exact .throw trivial
        next =>
          refine .perform_bind (fun _ _ _ => trivial) (fun _ _ _ _ _ _ _ _ => ?_)
            fun _ _ _ _ _ _ _ _ => trivial
          exact reporting_holds (getTask_reporting taskId)

theorem createTaskFromPlan_holds (hplan : Cleared plan s) (previousTaskId : Option String) :
    (createTaskFromPlan plan previousTaskId).Holds (@planDiscipline setup) id
      (Program.Yields fun _ s => Cleared plan s) s := by
  refine .perform_bind (fun _ _ _ => trivial) (fun t _ taskId u hrely _ _ _ => ?_)
    fun _ _ _ _ _ _ _ _ => trivial
  refine .perform_bind (fun _ _ _ => trivial) (fun t _ createdAt u hnow _ _ _ => ?_)
    fun _ _ _ _ _ _ _ _ => trivial
  refine .perform_bind (fun t hinsert _ => ?_) (fun t _ _ u hinsert _ _ _ => ?_)
    fun _ _ _ _ _ _ _ _ => trivial
  · exact ⟨plan, ((hplan.through hrely).through hnow).mono hinsert, rfl⟩
  · exact .pure (((hplan.through hrely).through hnow).through hinsert)

theorem offerAll_holds (task : ConnectorTaskRecord) (hplan : Cleared plan s) (callbacks : Nat)
    (offered : Bool) :
    (offerAll task plan callbacks offered).Holds (@planDiscipline setup) id
      (Program.Yields fun _ s => Cleared plan s) s := by
  induction callbacks generalizing s offered with
  | zero => exact .pure hplan
  | succ callbacks ih =>
      refine .perform_bind (fun t hrely _ => hplan.mono hrely) (fun t _ result u hrely _ _ _ => ?_)
        fun _ _ _ _ _ _ _ _ => trivial
      exact ih (hplan.through hrely) _

theorem offerUntilTaken_holds (task : ConnectorTaskRecord) (hplan : Cleared plan s)
    (callbacks : Nat) (offered : Bool) :
    (offerUntilTaken task plan callbacks offered).Holds (@planDiscipline setup) id
      (Program.Yields fun _ s => Cleared plan s) s := by
  induction callbacks generalizing s offered with
  | zero => exact .pure hplan
  | succ callbacks ih =>
      cases offered with
      | true => exact ih hplan true
      | false =>
          refine .perform_bind (fun t hrely _ => hplan.mono hrely)
            (fun t _ result u hrely _ _ _ => ?_) fun _ _ _ _ _ _ _ _ => trivial
          exact ih (hplan.through hrely) result

theorem startInline_holds (task : ConnectorTaskRecord) (hplan : Cleared plan s) :
    (startInline task plan).Holds (@planDiscipline setup) id (Program.Yields fun _ _ => True) s := by
  refine .yields_bind (holds_keeping (fun _ _ => Cleared.mono)
    (transitionTask_holds _ _ _ _ _ _) hplan) fun task t ht => ?_
  exact .perform_bind (fun u hrely _ => ht.2.mono hrely) (fun _ _ _ _ _ _ _ _ => .pure trivial)
    fun _ _ _ _ _ _ _ _ => trivial

theorem queue_holds (hplan : Cleared plan s) :
    (queue setup plan).Holds (@planDiscipline setup) id (Program.Yields fun _ _ => True) s := by
  refine .yields_bind (createTaskFromPlan_holds hplan none) fun task t hplan => ?_
  refine .yields_bind (offerAll_holds task hplan _ _) fun offered u hplan => ?_
  split
  next => exact transitionTask_holds _ _ _ _ _ _
  next =>
    split
    next => exact startInline_holds task hplan
    next => exact reporting_holds (getTask_reporting _)

theorem approvedPlan_planned (planId : String) :
    (approvedPlan planId).Holds (@planDiscipline setup) id (Program.Yields Planned) s := by
  refine .catching (getPlan_planned planId) (fun _ _ h => h.1) fun error t _ => ?_
  dsimp only
  split
  next =>
    refine .perform_bind (fun _ _ _ => trivial) (fun v _ found u _ hgood _ heffect => ?_)
      fun _ _ _ _ _ _ _ _ => trivial
    cases effect_inv heffect with
    | plannerPlan =>
        cases hl : v.shared.plannerPlans.lookup planId with
        | none => exact .throw trivial
        | some plan =>
            have hplan := (hgood.remembered planId plan hl).1
            refine .perform_bind (fun _ hrely _ => hplan.past hrely)
              (fun _ _ _ _ hrely _ _ _ => ?_) fun _ _ _ _ _ _ _ _ => trivial
            exact .pure ((hplan.past hrely).mono (history_note ..))
  next => exact .throw trivial

theorem approveAndQueue_holds (planId planHash : String) (approved : Bool) :
    (approveAndQueue setup planId planHash approved).Holds (@planDiscipline setup) id
      (Program.Yields fun _ _ => True) s := by
  refine .yields_bind (approvedPlan_planned planId) fun plan t hplanned => ?_
  refine .perform_bind (fun _ hrely _ => hplanned.mono hrely)
    (fun u choice value shared hrely _ _ heffect => ?_) fun _ _ _ _ _ _ _ _ => trivial
  obtain ⟨rfl, rfl, -⟩ := presents_ok (effect_present heffect).1.symm
  have hpresented : Presented plan
      (u.note (.did id (.present plan plan.planHash true) (.ok value)) shared) :=
    ⟨id, List.mem_append_right _ (List.mem_singleton_self _)⟩
  have hcleared : Cleared plan
      (u.note (.did id (.present plan plan.planHash true) (.ok value)) shared) :=
    ⟨hplanned.through hrely, hpresented⟩
  split
  next =>
    have hfound : (findActiveLogin plan).Holds (@planDiscipline setup) id
        (Program.Yields fun _ s => Cleared plan s)
        (u.note (.did id (.present plan plan.planHash true) (.ok value)) shared) :=
      .perform_bind (fun _ _ _ => trivial)
        (fun _ _ _ _ hlist _ _ _ => .pure (hcleared.through hlist)) fun _ _ _ _ _ _ _ _ => trivial
    refine hfound.yields_bind fun existing v hplan => ?_
    cases existing with
    | some existing => exact .pure trivial
    | none => exact queue_holds hplan
  next => exact queue_holds hcleared

theorem offerQueued_holds {tasks : List ConnectorTaskRecord}
    (htasks : ∀ task ∈ tasks, ClearedTask task s) :
    (offerQueued setup tasks).Holds (@planDiscipline setup) id (Program.Yields fun _ _ => True) s := by
  induction tasks generalizing s with
  | nil => exact .pure trivial
  | cons task rest ih =>
      have hmono : ∀ s t : (lifecycle setup).State, s.history ⊆ t.history →
          (∀ task ∈ rest, ClearedTask task s) → ∀ task ∈ rest, ClearedTask task t :=
        fun _ _ hsub h task hm => (h task hm).mono hsub
      have htask := htasks task List.mem_cons_self
      have hrest : ∀ task ∈ rest, ClearedTask task s :=
        fun task hm => htasks task (List.mem_cons_of_mem _ hm)
      unfold offerQueued
      split
      next => exact ih hrest
      next =>
        have hboth : ∀ s t : (lifecycle setup).State, s.history ⊆ t.history →
            (ClearedTask task s ∧ ∀ task ∈ rest, ClearedTask task s) →
              ClearedTask task t ∧ ∀ task ∈ rest, ClearedTask task t :=
          fun s t hsub h => ⟨h.1.mono hsub, hmono s t hsub h.2⟩
        refine .yields_bind (holds_keeping hboth (getPlan_planned _) ⟨htask, hrest⟩)
          fun plan t ⟨hplan, htask, hrest⟩ => ?_
        refine .yields_bind (holds_keeping hmono
          (offerUntilTaken_holds task (hplan.cleared htask) _ _) hrest) fun success u ⟨_, hrest⟩ => ?_
        split
        next =>
          refine .yields_bind (holds_keeping hmono (transitionTask_holds _ _ _ _ _ _) hrest)
            fun offered v ⟨_, hrest⟩ => ?_
          exact .yields_bind (ih hrest) fun _ _ _ => .pure trivial
        next => exact ih hrest

theorem offerQueuedTasks_holds (nodeId : String) :
    (offerQueuedTasks setup nodeId).Holds (@planDiscipline setup) id
      (Program.Yields fun _ _ => True) s := by
  refine .perform_bind (fun _ _ _ => trivial) (fun t _ found _ _ hgood _ heffect => ?_)
    fun _ _ _ _ _ _ _ _ => trivial
  cases effect_inv heffect with
  | listActive hperm =>
      refine offerQueued_holds fun task hm => ?_
      obtain ⟨⟨taskId, hl⟩, -⟩ := Table.mem_select.mp (hperm.mem_iff.mp hm)
      exact (hgood.tasks taskId task hl).mono (history_note ..)

theorem retryTask_holds (taskId : String) :
    (retryTask setup taskId).Holds (@planDiscipline setup) id
      (Program.Yields fun _ _ => True) s := by
  refine .yields_bind (getTask_cleared taskId) fun previous t htask => ?_
  split
  next => exact .throw trivial
  next =>
    refine .yields_bind (holds_keeping (fun _ _ => ClearedTask.mono) (getPlan_planned _) htask)
      fun plan u ⟨hplan, htask⟩ => ?_
    refine .yields_bind (createTaskFromPlan_holds (hplan.cleared htask) _) fun task v hplan => ?_
    refine .yields_bind (offerUntilTaken_holds task hplan _ _) fun offered w hplan => ?_
    split
    next => exact transitionTask_holds _ _ _ _ _ _
    next =>
      split
      next => exact startInline_holds task hplan
      next => exact .pure trivial

theorem planAndPersist_holds (nodeId connectorId : String) (action : ConnectorAction) :
    (planAndPersistConnectorTask nodeId connectorId action).Holds (@planDiscipline setup) id
      (Program.Yields fun _ _ => True) s := by
  refine .perform_bind (fun _ _ _ => trivial) (fun t _ plan u _ _ _ _ => ?_)
    fun _ _ _ _ _ _ _ _ => trivial
  have hplan : Planned plan (t.note (.did id (.plan nodeId connectorId action) (.ok plan)) u) :=
    ⟨id, nodeId, connectorId, action, List.mem_append_right _ (List.mem_singleton_self _)⟩
  refine .perform_bind (fun _ hrely _ => hplan.mono hrely) (fun _ _ _ _ hput _ _ _ => ?_)
    fun _ _ _ _ _ _ _ _ => trivial
  exact .perform_bind (fun _ hrely _ => (hplan.through hput).mono hrely)
    (fun _ _ _ _ _ _ _ _ => .pure trivial) fun _ _ _ _ _ _ _ _ => trivial

theorem authenticationComplete_holds (taskId : String) :
    (authenticationComplete setup taskId).Holds (@planDiscipline setup) id
      (Program.Yields fun _ _ => True) s := by
  refine .yields_bind (getTask_cleared taskId) fun task _ _ => ?_
  split
  next => exact .throw trivial
  next =>
    refine .yields_bind (planAndPersist_holds _ _ _) fun plan _ _ => ?_
    split
    next => exact approveAndQueue_holds _ _ _
    next =>
      refine .perform_bind (fun _ _ _ => trivial) (fun _ _ _ _ _ _ _ _ => ?_)
        fun _ _ _ _ _ _ _ _ => trivial
      exact .yields_bind (transitionTask_holds _ _ _ _ _ _) fun _ _ _ => approveAndQueue_holds _ _ _

theorem plan_programs : (@planDiscipline setup).Programs := by
  intro id call s t _ _ _ henter
  cases call with
  | planConnectorTask =>
      exact .perform_bind (fun _ _ _ => trivial) (fun _ _ _ _ _ _ _ _ => .pure trivial)
        fun _ _ _ _ _ _ _ _ => trivial
  | planAndPersistConnectorTask =>
      exact .yields_bind (planAndPersist_holds _ _ _) fun _ _ _ => .pure trivial
  | approveAndQueue => exact .yields_bind (approveAndQueue_holds _ _ _) fun _ _ _ => .pure trivial
  | offerQueuedTasks => exact .yields_bind (offerQueuedTasks_holds _) fun _ _ _ => .pure trivial
  | runOnNode taskId plan sinks final =>
      simp only [lifecycle, Call.enter] at henter
      split at henter
      next hreturns =>
        exact .yields_bind (reporting_holds (runOnNode_reporting hreturns.2 _ _ _))
          fun _ _ _ => .pure trivial
      next => cases henter
  | cancelTask =>
      exact .yields_bind (reporting_holds (cancelTask_reporting _)) fun _ _ _ => .pure trivial
  | retryTask => exact .yields_bind (retryTask_holds _) fun _ _ _ => .pure trivial
  | authenticationComplete =>
      exact .yields_bind (authenticationComplete_holds _) fun _ _ _ => .pure trivial
  | ingest => exact .yields_bind (reporting_holds (ingest_reporting _ _)) fun _ _ _ => .pure trivial

end Programs

section Theorem

variable {setup : Setup} {w : (lifecycle setup).World} {label : (lifecycle setup).Label}
  {plan : ConnectorTaskPlan}

theorem plan_initial (setup : Setup) (now : Time) : planDiscipline.Sound (lifecycleFrom setup now) := by
  refine System.Discipline.sound_initial ⟨⟨fun _ h => ?_, fun _ _ h => ?_, fun _ _ h => ?_,
    fun _ _ h => ?_, fun _ _ h => ?_⟩, fun _ h => (not_since_nil h).elim,
    fun _ h => (not_since_nil h).elim⟩ fun _ => trivial
  · obtain ⟨_, _, _, _, hm⟩ := h
    cases hm
  · obtain ⟨_, _, _, _, hm⟩ := h
    cases hm
  all_goals cases h

theorem cleared_of_handedOver (h : planDiscipline.Sound w) (hover : handedOver w label = some plan) :
    Cleared plan w.state := by
  cases label with
  | go id choice =>
      simp only [handedOver] at hover
      split at hover
      next hop =>
        split at hover
        next =>
          cases hover
          exact h.lawful hop
        next => cases hover
      next hop =>
        cases hover
        exact h.lawful hop
      next => cases hover
  | start => cases hover
  | outside => cases hover

-- What the planner remembers under the id of a known plan is that plan.
theorem validate_iff (h : KnownPlans w.state) (hplan : Planned plan w.state) :
    w.state.shared.validate plan = .ok () ↔ w.state.shared.clock < plan.expiresAt ∧
      (w.state.shared.plannerPlans.lookup plan.planId).isSome := by
  unfold Shared.validate
  cases hl : w.state.shared.plannerPlans.lookup plan.planId with
  | none => simp
  | some stored =>
      obtain ⟨hstored, hid⟩ := h.remembered plan.planId stored hl
      obtain rfl := h.unique stored plan hstored hplan hid
      simp

theorem Prompt.valid (h : planDiscipline.Sound w) (hprompt : Prompt w label) :
    ValidHandOver w label := by
  intro plan hover
  obtain ⟨hplanned, hpresented⟩ := cleared_of_handedOver h hover
  obtain ⟨hspared, hheld⟩ := hprompt plan hover
  exact ⟨(validate_iff h.good.toKnownPlans hplanned).mpr
    ⟨h.good.unexpired plan hspared, h.good.held plan hheld⟩, hpresented⟩

-- In every run in which plans are handed over before time has passed beyond their
-- expiry since the approval, in the process that knows them, each of them is valid.
theorem validHandOver_of_prompt (setup : Setup) (now : Time) (labels : List (lifecycle setup).Label)
    (hprompt : Along System.World.step Prompt (lifecycleFrom setup now) labels) :
    Along System.World.step ValidHandOver (lifecycleFrom setup now) labels := by
  refine Along.of_invariant (fun w label t h _ hstep => h.step plan_programs ?_ hstep)
    (fun w label h hlabel => hlabel.valid h) (plan_initial setup now) hprompt
  cases label with
  | start => trivial
  | go => exact fun _ _ => trivial
  | outside => trivial

end Theorem

section Samples

-- A plan that is good for fifteen minutes.
def discoverPlan : ConnectorTaskPlan where
  planId := "plan"
  nodeId := "node"
  connectorId := "cursor"
  connectorRevision := "1"
  action := .discover
  methodId := "discover"
  executable := "cursor"
  arguments := ["--version"]
  packageSource := "builtin"
  expectedExecutables := ["cursor"]
  expiresAt := 900
  planHash := "hash"

-- The plan is approved while the node is offline; the node connects when the plan
-- has expired.
def reconnectRun : List (lifecycle plainSetup).Label :=
  [.start 0 (.planAndPersistConnectorTask "node" "cursor" .discover),
    .go 0 (.planned discoverPlan), .go 0 .done, .go 0 .done,
    .start 1 (.approveAndQueue "plan" "hash" true), .go 1 .done, .go 1 .done,
    .go 1 (.generated "task"), .go 1 .done, .go 1 .done, .go 1 (.offered false), .go 1 .done,
    .outside (.passes 3600), .start 2 (.offerQueuedTasks "node"),
    .go 2 (.listed [{ runningTask with
      action := .discover, status := .queued, version := 1 }]), .go 2 .done]

theorem expired_plan_offered :
    ¬ Along System.World.step ValidHandOver (lifecycleFrom plainSetup 0)
      (reconnectRun ++ [.go 2 (.offered true)]) := by
  intro h
  obtain ⟨w, hrun⟩ := Option.isSome_iff_exists.mp
    (show (run System.World.step (lifecycleFrom plainSetup 0) reconnectRun).isSome by
      decide +kernel)
  have hover : (run System.World.step (lifecycleFrom plainSetup 0) reconnectRun).map
      (fun w => (handedOver w (.go 2 (.offered true)), w.state.shared.clock)) =
        some (some discoverPlan, 3600) := by decide +kernel
  rw [hrun, Option.map_some, Option.some.injEq, Prod.mk.injEq] at hover
  have hvalid := (along_iff_forall.mp h reconnectRun _ [] w rfl hrun discoverPlan hover.1).1
  unfold Shared.validate at hvalid
  rw [hover.2] at hvalid
  split at hvalid
  · cases hvalid
  · split at hvalid
    · cases hvalid
    · rw [if_pos (by decide)] at hvalid
      cases hvalid

instance {setup : Setup} {plan : ConnectorTaskPlan} :
    DecidablePred (Accepts plan : (lifecycle setup).Event → Prop) := by
  intro event
  unfold Accepts
  split <;> infer_instance

instance {setup : Setup} {plan : ConnectorTaskPlan} :
    DecidablePred (Spares plan : (lifecycle setup).Event → Prop) := by
  intro event
  unfold Spares
  split <;> infer_instance

instance {setup : Setup} {plan : ConnectorTaskPlan} :
    DecidablePred (Recalls plan : (lifecycle setup).Event → Prop) := by
  intro event
  unfold Recalls
  split <;> infer_instance

instance {setup : Setup} : DecidablePred (Running : (lifecycle setup).Event → Prop) := by
  intro event
  unfold Running
  split <;> infer_instance

instance {setup : Setup} {w : (lifecycle setup).World} {label : (lifecycle setup).Label} :
    Decidable (Prompt w label) :=
  inferInstanceAs (Decidable (∀ plan ∈ handedOver w label,
    Since (Accepts plan) (Spares plan) w.state.history ∧
      Since (Recalls plan) Running w.state.history))

-- The plan is approved after ten minutes, and the node connects three minutes later.
def promptRun : List (lifecycle plainSetup).Label :=
  [.start 0 (.planAndPersistConnectorTask "node" "cursor" .discover),
    .go 0 (.planned discoverPlan), .go 0 .done, .go 0 .done, .outside (.passes 600),
    .start 1 (.approveAndQueue "plan" "hash" true), .go 1 .done, .go 1 .done,
    .go 1 (.generated "task"), .go 1 .done, .go 1 .done, .go 1 (.offered false), .go 1 .done,
    .outside (.passes 780), .start 2 (.offerQueuedTasks "node"),
    .go 2 (.listed [{ runningTask with
      action := .discover, status := .queued, version := 1, createdAt := 600 }]), .go 2 .done,
    .go 2 (.offered true)]

theorem validHandOver_of_prompt_reconnect :
    (run System.World.step (lifecycleFrom plainSetup 0) promptRun).isSome ∧
      Along System.World.step ValidHandOver (lifecycleFrom plainSetup 0) promptRun :=
  ⟨by decide +kernel, validHandOver_of_prompt plainSetup 0 promptRun (by decide +kernel)⟩

end Samples

end JoyMesh.Lifecycle
