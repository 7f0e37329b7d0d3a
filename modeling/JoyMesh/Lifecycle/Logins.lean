import JoyMesh.Lifecycle.HandOver

namespace JoyMesh.Lifecycle

open JoyMesh.Library ConnectorLifecycleStore ConnectorLifecycleCoordinator

section Definitions

-- The rows are of logins of one connector on one node.
def SameLogin (task other : ConnectorTaskRecord) : Prop :=
  task.action = .authenticate ∧ other.action = .authenticate ∧ task.nodeId = other.nodeId ∧
    task.connectorId = other.connectorId

instance (task other : ConnectorTaskRecord) : Decidable (SameLogin task other) :=
  inferInstanceAs (Decidable (_ ∧ _))

-- No two logins of a connector on a node are both still to end.
def OneLogin (s : Shared) : Prop :=
  ∀ taskId otherId task other, s.tasks.lookup taskId = some task →
    s.tasks.lookup otherId = some other → SameLogin task other → task.status.terminal = false →
      other.status.terminal = false → taskId = otherId

variable {setup : Setup}

-- The tasks that the call has been listed among the active ones.
def listings (id : Nat) (history : List (lifecycle setup).Event) : List String :=
  history.flatMap fun event =>
    match event with
    | .did other (.listActive _) (.ok found) =>
        if other = id then found.map fun task => task.taskId else []
    | _ => []

def Listed (id : Nat) (taskId : String) (s : (lifecycle setup).State) : Prop :=
  taskId ∈ listings id s.history

-- A login is stored only where each login of the connector on the node that is still
-- to end was in the listing of the same call (a retry lists none), and no commit
-- takes back the end of a login.
def LoginUncontested (id : Nat) (op : Op) (choice : Choice) (s : (lifecycle setup).State) : Prop :=
  match op with
  | .insertTask task => choice = .done → ∀ taskId row, s.shared.tasks.lookup taskId = some row →
      SameLogin row task → row.status.terminal = false → Listed id taskId s
  | .updateTask taskId loaded changed => choice = .done → ∀ row,
      s.shared.tasks.lookup taskId = some row → row.action = .authenticate →
        row.status.terminal = true → (row.flush loaded changed).status.terminal = true
  | _ => True

def Uncontested (w : (lifecycle setup).World) : (lifecycle setup).Label → Prop
  | .go id choice => ∀ op ∈ w.awaiting id, LoginUncontested id op choice w.state
  | _ => True

end Definitions

section Rows

-- The rows stay, and what they are rows of does not change.
def Kept (before after : Table String ConnectorTaskRecord) : Prop :=
  ∀ taskId row, before.lookup taskId = some row → ∃ now, after.lookup taskId = some now ∧
    now.nodeId = row.nodeId ∧ now.connectorId = row.connectorId ∧ now.action = row.action

theorem Kept.refl (table : Table String ConnectorTaskRecord) : Kept table table :=
  fun _ row hl => ⟨row, hl, rfl, rfl, rfl⟩

theorem Kept.trans {first second third : Table String ConnectorTaskRecord}
    (hf : Kept first second) (hs : Kept second third) : Kept first third := by
  intro taskId row hl
  obtain ⟨middle, hm, hnode, hconnector, haction⟩ := hf taskId row hl
  obtain ⟨now, hn, hnode', hconnector', haction'⟩ := hs taskId middle hm
  exact ⟨now, hn, hnode'.trans hnode, hconnector'.trans hconnector, haction'.trans haction⟩

theorem Kept.update (hl : table.lookup taskId = some row) :
    Kept table (table.insert taskId (row.flush loaded changed)) := by
  intro other found hf
  by_cases hother : other = taskId
  · subst hother
    obtain rfl := Option.some.inj (hl.symm.trans hf)
    exact ⟨_, AList.lookup_insert _, rfl, rfl, rfl⟩
  · exact ⟨found, (AList.lookup_insert_ne hother).trans hf, rfl, rfl, rfl⟩

theorem Kept.insert (hnew : table.lookup task.taskId = none) :
    Kept table (table.insert task.taskId task) := by
  intro other found hf
  have hother : other ≠ task.taskId := by
    rintro rfl
    rw [hnew] at hf
    cases hf
  exact ⟨found, (AList.lookup_insert_ne hother).trans hf, rfl, rfl, rfl⟩

theorem effect_kept {setup : Setup} {op : Op} {choice : Choice} {answer : Except Raised op.Reply}
    {s t : Shared} (h : effect setup op choice s = some (answer, t)) : Kept s.tasks t.tasks := by
  cases effect_inv h with
  | updateTask hl => exact .update hl
  | insertTask hnew => exact .insert hnew
  | _ => exact .refl _

variable {setup : Setup} {s t : (lifecycle setup).State} {id : Nat}
  {table : Table String ConnectorTaskRecord} {taskId : String}
  {row loaded changed task : ConnectorTaskRecord} {event : (lifecycle setup).Event}

-- Every status that a task comes to is one of the listed ones or ends it.
def Settled (status : ConnectorTaskStatus) : Prop :=
  status = .queued ∨ status ∈ .offeredToNode :: pastOffer

theorem activeLogin_of_settled {plan : ConnectorTaskPlan} (hsettled : Settled task.status)
    (hactive : task.status.terminal = false) (hconnector : task.connectorId = plan.connectorId)
    (haction : task.action = .authenticate) : activeLogin plan task = true := by
  rw [activeLogin, hconnector, haction]
  generalize task.status = status at hsettled hactive
  cases status <;> simp_all [Settled, pastOffer, Connectors.ConnectorTaskStatus.terminal]

structure LoginRows (s : (lifecycle setup).State) : Prop where
  keyed : ∀ taskId row, s.shared.tasks.lookup taskId = some row → row.taskId = taskId
  settled : ∀ taskId row, s.shared.tasks.lookup taskId = some row → Settled row.status
  one : OneLogin s.shared

-- Whatever the call has been listed, none of it is a login of the connector.
def Unlisted (id : Nat) (connectorId : String) (s : (lifecycle setup).State) : Prop :=
  ∀ taskId, Listed id taskId s → ∃ row, s.shared.tasks.lookup taskId = some row ∧
    ¬ (row.action = .authenticate ∧ row.connectorId = connectorId)

def LoginLawful (id : Nat) (op : Op) (s : (lifecycle setup).State) : Prop :=
  match op with
  | .insertTask task => task.status = .queued ∧
      (task.action = .authenticate → Unlisted id task.connectorId s)
  | .updateTask _ _ changed => changed.status ∈ .offeredToNode :: pastOffer
  | _ => True

theorem flush_settled (hrow : Settled row.status)
    (hchanged : changed.status ∈ .offeredToNode :: pastOffer) :
    Settled (row.flush loaded changed).status := by
  simp only [ConnectorTaskRecord.flush]
  split
  next => exact hrow
  next => exact .inr hchanged

theorem LoginRows.updated (h : LoginRows s) (hl : s.shared.tasks.lookup taskId = some row)
    (hchanged : changed.status ∈ .offeredToNode :: pastOffer)
    (hended : row.action = .authenticate → row.status.terminal = true →
      (row.flush loaded changed).status.terminal = true) :
    LoginRows (s.note event
      { s.shared with tasks := s.shared.tasks.insert taskId (row.flush loaded changed) }) := by
  -- A row that is still to end was so before, under the same key.
  have hbefore : ∀ other found, (s.shared.tasks.insert taskId (row.flush loaded changed)).lookup
      other = some found → ∃ old, s.shared.tasks.lookup other = some old ∧
        old.nodeId = found.nodeId ∧ old.connectorId = found.connectorId ∧
        old.action = found.action ∧ (found.action = .authenticate →
          found.status.terminal = false → old.status.terminal = false) := by
    intro other found hf
    rcases Table.lookup_insert_cases hf with ⟨rfl, rfl⟩ | ⟨-, hf⟩
    · refine ⟨row, hl, rfl, rfl, rfl, fun haction hopen => ?_⟩
      by_contra hterminal
      rw [hended haction (by simpa using hterminal)] at hopen
      cases hopen
    · exact ⟨found, hf, rfl, rfl, rfl, fun _ hopen => hopen⟩
  refine ⟨fun other found hf => ?_, fun other found hf => ?_, ?_⟩
  · rcases Table.lookup_insert_cases hf with ⟨rfl, rfl⟩ | ⟨-, hf⟩
    · exact h.keyed _ row hl
    · exact h.keyed other found hf
  · rcases Table.lookup_insert_cases hf with ⟨rfl, rfl⟩ | ⟨-, hf⟩
    · exact flush_settled (h.settled _ row hl) hchanged
    · exact h.settled other found hf
  · intro first second task other hfirst hsecond hsame htask hother
    obtain ⟨old, hold, hnode, hconnector, haction, hopen⟩ := hbefore first task hfirst
    obtain ⟨twin, htwin, hnode', hconnector', haction', hopen'⟩ := hbefore second other hsecond
    obtain ⟨hlogin, hlogin', hnodes, hconnectors⟩ := hsame
    refine h.one first second old twin hold htwin ?_ (hopen hlogin htask) (hopen' hlogin' hother)
    exact ⟨haction.trans hlogin, haction'.trans hlogin', hnode.trans (hnodes.trans hnode'.symm),
      hconnector.trans (hconnectors.trans hconnector'.symm)⟩

theorem LoginRows.inserted (h : LoginRows s) (hqueued : task.status = .queued)
    (hunlisted : task.action = .authenticate → Unlisted id task.connectorId s)
    (hlisted : ∀ taskId row, s.shared.tasks.lookup taskId = some row → SameLogin row task →
      row.status.terminal = false → Listed id taskId s) :
    LoginRows (s.note event { s.shared with tasks := s.shared.tasks.insert task.taskId task }) := by
  have halone : ∀ taskId row, s.shared.tasks.lookup taskId = some row → SameLogin row task →
      row.status.terminal = true := by
    intro taskId row hl hsame
    by_contra hopen
    obtain ⟨found, hf, hnot⟩ := hunlisted hsame.2.1 taskId
      (hlisted taskId row hl hsame (by simpa using hopen))
    obtain rfl := Option.some.inj (hl.symm.trans hf)
    exact hnot ⟨hsame.1, hsame.2.2.2⟩
  refine ⟨fun other found hf => ?_, fun other found hf => ?_, ?_⟩
  · rcases Table.lookup_insert_cases hf with ⟨rfl, rfl⟩ | ⟨-, hf⟩
    · rfl
    · exact h.keyed other found hf
  · rcases Table.lookup_insert_cases hf with ⟨rfl, rfl⟩ | ⟨-, hf⟩
    · exact .inl hqueued
    · exact h.settled other found hf
  · intro first second row other hfirst hsecond hsame hrow hother
    rcases Table.lookup_insert_cases hfirst with ⟨rfl, rfl⟩ | ⟨-, hold⟩ <;>
      rcases Table.lookup_insert_cases hsecond with ⟨rfl, rfl⟩ | ⟨-, htwin⟩
    · rfl
    · obtain ⟨hlogin, hlogin', hnode, hconnector⟩ := hsame
      rw [halone second other htwin ⟨hlogin', hlogin, hnode.symm, hconnector.symm⟩] at hother
      cases hother
    · rw [halone first row hold hsame] at hrow
      cases hrow
    · exact h.one first second row other hold htwin hsame hrow hother

theorem LoginRows.step {op : Op} {choice : Choice} {answer : Except Raised op.Reply}
    {shared : Shared} (h : LoginRows s) (hlawful : LoginLawful id op s)
    (hallowed : LoginUncontested id op choice s)
    (heffect : effect setup op choice s.shared = some (answer, shared)) :
    LoginRows (s.note (.did id op answer) shared) := by
  cases effect_inv heffect with
  | updateTask hl => exact h.updated hl hlawful (hallowed rfl _ hl)
  | insertTask => exact h.inserted hlawful.1 hlawful.2 (hallowed rfl)
  | _ => exact ⟨h.keyed, h.settled, h.one⟩

end Rows

section Programs

variable {setup : Setup} {s t : (lifecycle setup).State} {id : Nat} {op : Op}
  {taskId connectorId : String} {event : (lifecycle setup).Event} {shared : Shared}
  {plan : ConnectorTaskPlan} {α : Type} {program : LifecycleM α}

-- What neither stores a task nor lists the active ones.
def Continuing : Op → Prop
  | .updateTask _ _ changed => changed.status ∈ .offeredToNode :: pastOffer
  | .insertTask _ => False
  | .listActive _ => False
  | _ => True

theorem continuing_of_reporting (h : Reporting op) : Continuing op := by
  cases op <;> first | exact h.elim | trivial | exact List.mem_cons_of_mem _ h.2.2

theorem loginLawful_of_continuing (h : Continuing op) : LoginLawful id op s := by
  cases op <;> first | exact h.elim | trivial

theorem listed_note (h : Listed id taskId (s.note event shared))
    (hevent : ∀ nodeId found, event ≠ .did id (.listActive nodeId) (.ok found)) :
    Listed id taskId s := by
  rw [Listed, System.State.note_history, listings, List.flatMap_append, List.mem_append] at h
  rcases h with h | h
  · exact h
  · simp only [List.flatMap_cons, List.flatMap_nil, List.append_nil] at h
    split at h
    next other nodeId found =>
      split at h
      next hmine => exact absurd (by rw [hmine]) (hevent nodeId found)
      next => cases h
    next => cases h

theorem listed_listActive {nodeId : String} {found : List ConnectorTaskRecord}
    (h : Listed id taskId (s.note (.did id (.listActive nodeId) (.ok found)) shared)) :
    Listed id taskId s ∨ ∃ listed ∈ found, listed.taskId = taskId := by
  rw [Listed, System.State.note_history, listings, List.flatMap_append, List.mem_append] at h
  rcases h with h | h
  · exact .inl h
  · exact .inr (by simpa using h)

def loginDiscipline : (lifecycle setup).Discipline where
  good := LoginRows
  fresh id s := ∀ taskId, ¬ Listed id taskId s
  rely id s t := Kept s.shared.tasks t.shared.tasks ∧
    ∀ taskId, Listed id taskId t → Listed id taskId s
  lawful := LoginLawful
  post _ _ := Program.Yields fun _ _ => True
  admitted _ _ _ := True
  allowed := LoginUncontested
  happens _ _ := True
  rely_refl _ _ := ⟨.refl _, fun _ h => h⟩
  rely_trans _ _ _ _ hf hs := ⟨hf.1.trans hs.1, fun taskId h => hf.2 taskId (hs.2 taskId h)⟩
  fresh_rely _ _ _ hr hf taskId h := hf taskId (hr.2 taskId h)
  post_rely _ _ result _ _ _ _ := by
    cases result <;> trivial
  step_good _ _ _ _ _ _ hg hlawful hallowed heffect := hg.step hlawful hallowed heffect
  step_rely id op _ answer other s t hne _ _ _ heffect := by
    refine ⟨effect_kept heffect, fun taskId h => listed_note h fun nodeId found he => ?_⟩
    cases he
    exact hne rfl
  enter_good _ call s t hg _ _ he := by
    have htasks : t.tasks = s.shared.tasks := enter_tasks he
    exact ⟨htasks ▸ hg.keyed, htasks ▸ hg.settled, by
      simpa only [OneLogin, System.State.note_shared, htasks] using hg.one⟩
  enter_rely _ call other s t _ _ _ he := by
    have htasks : t.tasks = s.shared.tasks := enter_tasks he
    exact ⟨htasks ▸ .refl _, fun taskId h => listed_note h (by simp)⟩
  leave_good _ _ _ _ hg _ := ⟨hg.keyed, hg.settled, hg.one⟩
  leave_rely _ _ _ _ _ _ _ _ := ⟨.refl _, fun taskId h => listed_note h (by simp)⟩
  leave_post := leave_yields
  outside_good event s t hg _ he := by
    have htasks : t.tasks = s.shared.tasks := outside_tasks he
    exact ⟨htasks ▸ hg.keyed, htasks ▸ hg.settled, by
      simpa only [OneLogin, System.State.note_shared, htasks] using hg.one⟩
  outside_rely event id s t _ _ he := by
    have htasks : t.tasks = s.shared.tasks := outside_tasks he
    exact ⟨htasks ▸ .refl _, fun taskId h => listed_note h (by simp)⟩

theorem transitionTask_continuing {status : ConnectorTaskStatus}
    (hstatus : status ∈ .offeredToNode :: pastOffer) (taskId : String) (expectedVersion : Nat)
    (detail : Option String) (startedAt finishedAt : Option Time) :
    (transitionTask taskId expectedVersion status detail startedAt finishedAt).Every Continuing := by
  refine transitionTask_every trivial fun loaded changed _ _ _ hchanged => ?_
  subst hchanged
  exact hstatus

theorem getPlan_continuing (planId : String) : (getPlan planId).Every Continuing := by
  refine .perform_bind trivial fun found => ?_
  cases found <;> trivial

theorem approvedPlan_continuing (planId : String) : (approvedPlan planId).Every Continuing := by
  refine .catching (getPlan_continuing planId) fun error => .ite (.perform_bind trivial fun found => ?_) trivial
  cases found with
  | none => trivial
  | some plan => exact .perform_bind trivial fun _ => trivial

theorem offerAll_continuing (task : ConnectorTaskRecord) (plan : ConnectorTaskPlan)
    (callbacks : Nat) (offered : Bool) : (offerAll task plan callbacks offered).Every Continuing := by
  induction callbacks generalizing offered with
  | zero => trivial
  | succ callbacks ih => exact .perform_bind trivial fun _ => ih _

theorem offerUntilTaken_continuing (task : ConnectorTaskRecord) (plan : ConnectorTaskPlan)
    (callbacks : Nat) (offered : Bool) :
    (offerUntilTaken task plan callbacks offered).Every Continuing := by
  induction callbacks generalizing offered with
  | zero => trivial
  | succ callbacks ih =>
      cases offered with
      | true => exact ih true
      | false => exact .perform_bind trivial fun _ => ih _

theorem startInline_continuing (task : ConnectorTaskRecord) (plan : ConnectorTaskPlan) :
    (startInline task plan).Every Continuing :=
  .bind (transitionTask_continuing (by decide) _ _ _ _ _) fun _ => .perform_bind trivial fun _ => trivial

theorem offerQueued_continuing (setup : Setup) (tasks : List ConnectorTaskRecord) :
    (offerQueued setup tasks).Every Continuing := by
  induction tasks with
  | nil => trivial
  | cons task rest ih =>
      refine .ite ih (.bind (getPlan_continuing _) fun plan => ?_)
      refine .bind (offerUntilTaken_continuing _ _ _ _) fun success => .ite ?_ ih
      exact .bind (transitionTask_continuing (by decide) _ _ _ _ _) fun _ => .bind ih fun _ => trivial

theorem planAndPersist_continuing (nodeId connectorId : String) (action : ConnectorAction) :
    (planAndPersistConnectorTask nodeId connectorId action).Every Continuing :=
  .perform_bind trivial fun _ => .perform_bind trivial fun _ => .perform_bind trivial fun _ => trivial

theorem continuing_holds (h : program.Every Continuing) :
    program.Holds (@loginDiscipline setup) id (Program.Yields fun _ _ => True) s :=
  h.holds (fun _ _ hkind _ => loginLawful_of_continuing hkind)
    fun result _ => by cases result <;> trivial

-- Nothing is listed along the way.
theorem continuing_keeps (h : program.Every Continuing) (hfresh : ∀ taskId, ¬ Listed id taskId s) :
    program.Holds (@loginDiscipline setup) id
      (Program.Yields fun _ s => ∀ taskId, ¬ Listed id taskId s) s := by
  have hkeeps : program.Holds (@loginDiscipline setup) id
      (fun _ s => ∀ taskId, ¬ Listed id taskId s) s := by
    refine h.keeping (fun _ _ hkind _ _ => loginLawful_of_continuing hkind)
      (fun _ _ hr hf taskId hl => hf taskId (hr.2 taskId hl))
      (fun t op _ answer u hkind hf _ _ => ?_) hfresh
    refine fun taskId hl => hf taskId (listed_note hl fun nodeId found he => ?_)
    cases he
    exact hkind
  refine hkeeps.mono fun result t hfresh => ?_
  cases result with
  | ok value => exact hfresh
  | error error => trivial

-- No login of the connector has been listed, if the plan is for one.
def Clear (id : Nat) (plan : ConnectorTaskPlan) (s : (lifecycle setup).State) : Prop :=
  plan.action = .authenticate → Unlisted id plan.connectorId s

theorem Unlisted.rely (h : Unlisted id connectorId s) (hrely : loginDiscipline.rely id s t) :
    Unlisted id connectorId t := by
  intro taskId hl
  obtain ⟨row, hrow, hnot⟩ := h taskId (hrely.2 taskId hl)
  obtain ⟨now, hnow, -, hconnector, haction⟩ := hrely.1 taskId row hrow
  exact ⟨now, hnow, by rwa [hconnector, haction]⟩

theorem Unlisted.note (h : Unlisted id connectorId s) (htasks : shared.tasks = s.shared.tasks)
    (hevent : ∀ nodeId found, event ≠ .did id (.listActive nodeId) (.ok found)) :
    Unlisted id connectorId (s.note event shared) := by
  intro taskId hl
  obtain ⟨row, hrow, hnot⟩ := h taskId (listed_note hl hevent)
  exact ⟨row, htasks ▸ hrow, hnot⟩

theorem createTask_login (h : Clear id plan s) (previousTaskId : Option String) :
    (createTaskFromPlan plan previousTaskId).Holds (@loginDiscipline setup) id
      (Program.Yields fun _ _ => True) s := by
  refine .perform_bind (fun _ _ _ => trivial) (fun t _ taskId u hrely _ _ heffect => ?_)
    fun _ _ _ _ _ _ _ _ => trivial
  have hid : Clear id plan (t.note (.did id .uuid4 (.ok taskId)) u) := by
    intro haction
    cases effect_inv heffect
    exact ((h haction).rely hrely).note rfl (by simp)
  refine .perform_bind (fun _ _ _ => trivial) (fun t _ createdAt u hrely _ _ heffect => ?_)
    fun _ _ _ _ _ _ _ _ => trivial
  have hnow : Clear id plan (t.note (.did id .now (.ok createdAt)) u) := by
    intro haction
    cases effect_inv heffect
    exact ((hid haction).rely hrely).note rfl (by simp)
  exact .perform_bind (fun t hrely _ => ⟨rfl, fun haction => (hnow haction).rely hrely⟩)
    (fun _ _ _ _ _ _ _ _ => .pure trivial) fun _ _ _ _ _ _ _ _ => trivial

theorem queue_login (h : Clear id plan s) :
    (queue setup plan).Holds (@loginDiscipline setup) id (Program.Yields fun _ _ => True) s := by
  refine .yields_bind (createTask_login h none) fun task t _ => continuing_holds ?_
  refine .bind (offerAll_continuing _ _ _ _) fun offered => ?_
  refine .ite (transitionTask_continuing (by decide) _ _ _ _ _) (.ite (startInline_continuing _ _) ?_)
  exact getTask_every trivial

-- What is listed and not found to be a login of the plan is none of its connector.
theorem findActiveLogin_holds (plan : ConnectorTaskPlan) (hfresh : ∀ taskId, ¬ Listed id taskId s) :
    (findActiveLogin plan).Holds (@loginDiscipline setup) id
      (Program.Yields fun existing s => existing = none → Unlisted id plan.connectorId s) s := by
  refine .perform_bind (fun _ _ _ => trivial) (fun t _ found u hrely hgood _ heffect => ?_)
    fun _ _ _ _ _ _ _ _ => trivial
  cases effect_inv heffect with
  | listActive hperm =>
      refine .pure fun hnone taskId hl => ?_
      have hmine : ∃ listed ∈ found, listed.taskId = taskId :=
        (listed_listActive hl).resolve_left fun hold => hfresh taskId (hrely.2 taskId hold)
      obtain ⟨listed, hm, rfl⟩ := hmine
      obtain ⟨⟨key, hrow⟩, hactive⟩ := Table.mem_select.mp (hperm.mem_iff.mp hm)
      have hkey := hgood.keyed key listed hrow
      subst hkey
      refine ⟨listed, hrow, fun ⟨haction, hconnector⟩ => ?_⟩
      refine List.find?_eq_none.mp hnone listed hm
        (activeLogin_of_settled (hgood.settled _ listed hrow) ?_ hconnector haction)
      simp only [Bool.and_eq_true, Connectors.ConnectorTaskStatus.active] at hactive
      simpa using hactive.2.1

theorem approveAndQueue_login (planId planHash : String) (approved : Bool)
    (hfresh : ∀ taskId, ¬ Listed id taskId s) :
    (approveAndQueue setup planId planHash approved).Holds (@loginDiscipline setup) id
      (Program.Yields fun _ _ => True) s := by
  refine .yields_bind (continuing_keeps (approvedPlan_continuing planId) hfresh)
    fun plan t hfresh => ?_
  refine .yields_bind (continuing_keeps (.perform trivial) hfresh) fun _ u hfresh => ?_
  split
  next =>
    refine .yields_bind (findActiveLogin_holds plan hfresh) fun existing v hnone => ?_
    cases existing with
    | some existing => exact .pure trivial
    | none => exact queue_login fun _ => hnone rfl
  next haction => exact queue_login fun h => absurd h haction

theorem retryTask_login (taskId : String) (hfresh : ∀ taskId, ¬ Listed id taskId s) :
    (retryTask setup taskId).Holds (@loginDiscipline setup) id
      (Program.Yields fun _ _ => True) s := by
  refine .yields_bind (continuing_keeps (getTask_every trivial) hfresh) fun previous t hfresh => ?_
  split
  next => exact .throw trivial
  next =>
    refine .yields_bind (continuing_keeps (getPlan_continuing _) hfresh) fun plan u hfresh => ?_
    refine .yields_bind (createTask_login (fun _ taskId hl => absurd hl (hfresh taskId)) _)
      fun task _ _ => continuing_holds ?_
    refine .bind (offerUntilTaken_continuing _ _ _ _) fun offered => ?_
    exact .ite (transitionTask_continuing (by decide) _ _ _ _ _)
      (.ite (startInline_continuing _ _) trivial)

theorem authenticationComplete_login (taskId : String) (hfresh : ∀ taskId, ¬ Listed id taskId s) :
    (authenticationComplete setup taskId).Holds (@loginDiscipline setup) id
      (Program.Yields fun _ _ => True) s := by
  refine .yields_bind (continuing_keeps (getTask_every trivial) hfresh) fun task t hfresh => ?_
  split
  next => exact .throw trivial
  next =>
    refine .yields_bind (continuing_keeps (planAndPersist_continuing _ _ _) hfresh)
      fun plan u hfresh => ?_
    split
    next => exact approveAndQueue_login _ _ _ hfresh
    next =>
      refine .yields_bind (continuing_keeps (.perform trivial) hfresh) fun _ v hfresh => ?_
      exact .yields_bind (continuing_keeps (transitionTask_continuing (by decide) _ _ _ _ _) hfresh)
        fun _ _ hfresh => approveAndQueue_login _ _ _ hfresh

theorem offerQueuedTasks_login (nodeId : String) :
    (offerQueuedTasks setup nodeId).Holds (@loginDiscipline setup) id
      (Program.Yields fun _ _ => True) s :=
  .perform_bind (fun _ _ _ => trivial)
    (fun _ _ _ _ _ _ _ _ => continuing_holds (offerQueued_continuing _ _))
    fun _ _ _ _ _ _ _ _ => trivial

theorem every_continuing (h : program.Every Reporting) :
    program.Every Continuing := h.mono fun _ => continuing_of_reporting

theorem login_programs : (@loginDiscipline setup).Programs := by
  intro id call s t _ hfresh _ henter
  have hfresh : ∀ taskId, ¬ Listed id taskId (s.note (.entered id call) t) :=
    fun taskId hl => hfresh taskId (listed_note hl (by simp))
  cases call with
  | planConnectorTask =>
      exact .yields_bind (continuing_holds (.perform trivial)) fun _ _ _ => .pure trivial
  | planAndPersistConnectorTask =>
      exact .yields_bind (continuing_holds (planAndPersist_continuing _ _ _))
        fun _ _ _ => .pure trivial
  | approveAndQueue =>
      exact .yields_bind (approveAndQueue_login _ _ _ hfresh) fun _ _ _ => .pure trivial
  | offerQueuedTasks nodeId =>
      exact .yields_bind (offerQueuedTasks_login nodeId) fun _ _ _ => .pure trivial
  | runOnNode taskId plan sinks final =>
      simp only [lifecycle, Call.enter] at henter
      split at henter
      next hreturns =>
        exact .yields_bind (continuing_holds
          (every_continuing (runOnNode_reporting hreturns.2 _ _ _))) fun _ _ _ => .pure trivial
      next => cases henter
  | cancelTask =>
      exact .yields_bind (continuing_holds (every_continuing (cancelTask_reporting _)))
        fun _ _ _ => .pure trivial
  | retryTask => exact .yields_bind (retryTask_login _ hfresh) fun _ _ _ => .pure trivial
  | authenticationComplete =>
      exact .yields_bind (authenticationComplete_login _ hfresh) fun _ _ _ => .pure trivial
  | ingest =>
      exact .yields_bind (continuing_holds (every_continuing (ingest_reporting _ _)))
        fun _ _ _ => .pure trivial

end Programs

section Theorem

variable {setup : Setup} {now : Time} {labels : List (lifecycle setup).Label}
  {w : (lifecycle setup).World}

theorem login_initial (setup : Setup) (now : Time) :
    loginDiscipline.Sound (lifecycleFrom setup now) := by
  refine System.Discipline.sound_initial ⟨fun _ _ h => ?_, fun _ _ h => ?_, fun _ _ _ _ h => ?_⟩
    fun _ _ h => ?_
  all_goals cases h

theorem meets_of_uncontested {label : (lifecycle setup).Label} (h : Uncontested w label) :
    loginDiscipline.Meets w label := by
  cases label with
  | start => trivial
  | go => exact h
  | outside => trivial

-- The condition is on all steps of the run; the state may be the one after any of them.
theorem oneLogin_of_uncontested
    (h : Along System.World.step Uncontested (lifecycleFrom setup now) labels)
    (hrun : run System.World.step (lifecycleFrom setup now) labels = some w) :
    OneLogin w.state.shared :=
  ((login_initial setup now).run login_programs (h.mono fun _ _ => meets_of_uncontested) hrun).good.one

end Theorem

section Samples

instance {setup : Setup} (id : Nat) (op : Op) (choice : Choice) (s : (lifecycle setup).State) :
    Decidable (LoginUncontested id op choice s) :=
  match op with
  | .insertTask _ | .updateTask _ _ _ => by
      unfold LoginUncontested Listed SameLogin
      infer_instance
  | .readTask _ | .listActive _ | .readPlan _ | .insertPlan _ | .insertEvent _ | .insertEvidence _
  | .applySideEffects _ | .recompute _ _ | .offer _ _ | .plannerPlan _ | .plan _ _ _ | .putPlan _
  | .present _ _ _ | .seeTerminal _ | .createTask _ _ | .uuid4 | .now => .isTrue trivial

instance {setup : Setup} (w : (lifecycle setup).World) (label : (lifecycle setup).Label) :
    Decidable (Uncontested w label) :=
  match label with
  | .go id choice =>
      inferInstanceAs (Decidable (∀ op ∈ w.awaiting id, LoginUncontested id op choice w.state))
  | .start _ _ | .outside _ => .isTrue trivial

def loginPlan : ConnectorTaskPlan :=
  { discoverPlan with action := .authenticate, arguments := ["login"] }

def planLogin : List (lifecycle plainSetup).Label :=
  [.start 0 (.planAndPersistConnectorTask "node" "cursor" .authenticate),
    .go 0 (.planned loginPlan), .go 0 .done, .go 0 .done]

def queuedLogin (taskId : String) : ConnectorTaskRecord :=
  { runningTask with
    taskId := taskId, status := .queued, version := 1,
    idempotencyKey := "node:" ++ taskId ++ ":hash" }

-- The second approval comes after the first has stored its task, and finds it.
theorem approved_twice : ∃ w, run System.World.step (lifecycleFrom plainSetup 0) (planLogin ++
    [.start 1 (.approveAndQueue "plan" "hash" true), .go 1 .done, .go 1 .done, .go 1 (.listed []),
      .go 1 (.generated "first"), .go 1 .done, .go 1 .done,
      .start 2 (.approveAndQueue "plan" "hash" true), .go 2 .done, .go 2 .done,
      .go 2 (.listed [queuedLogin "first"])]) = some w ∧ OneLogin w.state.shared := by
  obtain ⟨w, hrun⟩ := Option.isSome_iff_exists.mp
    (show (run System.World.step (lifecycleFrom plainSetup 0) (planLogin ++
      [.start 1 (.approveAndQueue "plan" "hash" true), .go 1 .done, .go 1 .done, .go 1 (.listed []),
        .go 1 (.generated "first"), .go 1 .done, .go 1 .done,
        .start 2 (.approveAndQueue "plan" "hash" true), .go 2 .done, .go 2 .done,
        .go 2 (.listed [queuedLogin "first"])])).isSome by decide +kernel)
  exact ⟨w, hrun, oneLogin_of_uncontested (by decide +kernel) hrun⟩

-- Both approvals list the active tasks before either stores its own.
def approvingRun : List (lifecycle plainSetup).Label :=
  planLogin ++
    [.start 1 (.approveAndQueue "plan" "hash" true), .start 2 (.approveAndQueue "plan" "hash" true),
      .go 1 .done, .go 1 .done, .go 1 (.listed []), .go 2 .done, .go 2 .done, .go 2 (.listed []),
      .go 1 (.generated "first"), .go 1 .done, .go 1 .done,
      .go 2 (.generated "second"), .go 2 .done, .go 2 .done]

theorem two_logins : ¬ ∀ w, run System.World.step (lifecycleFrom plainSetup 0) approvingRun =
    some w → OneLogin w.state.shared := by
  intro h
  obtain ⟨w, hrun⟩ := Option.isSome_iff_exists.mp
    (show (run System.World.step (lifecycleFrom plainSetup 0) approvingRun).isSome by
      decide +kernel)
  have hrows : (run System.World.step (lifecycleFrom plainSetup 0) approvingRun).map (fun w =>
      (w.state.shared.tasks.lookup "first", w.state.shared.tasks.lookup "second")) =
        some (some (queuedLogin "first"), some (queuedLogin "second")) := by decide +kernel
  rw [hrun, Option.map_some, Option.some.injEq, Prod.mk.injEq] at hrows
  exact absurd (h w hrun "first" "second" _ _ hrows.1 hrows.2 (by decide) rfl rfl) (by decide)

end Samples

end JoyMesh.Lifecycle
