import JoyMesh.Lifecycle.Store

namespace JoyMesh.Lifecycle

open JoyMesh.Library ConnectorLifecycleStore

section Definitions

-- The arguments of a call of transition_task.
structure Transition where
  taskId : String
  expectedVersion : Nat
  status : ConnectorTaskStatus
  detail : Option String := none
  startedAt : Option Time := none
  finishedAt : Option Time := none
deriving DecidableEq

def Transition.program (call : Transition) : LifecycleM ConnectorTaskRecord :=
  transitionTask call.taskId call.expectedVersion call.status call.detail call.startedAt
    call.finishedAt

-- Any number of calls of transition_task, each at one of its awaits.
@[reducible] def transitions (setup : Setup) : System signature where
  Shared := Shared
  Call := Transition
  Choice := Choice
  Outside := Empty
  Result := ConnectorTaskRecord
  program := Transition.program
  enter _ s := some s
  effect := effect setup
  outside event _ := nomatch event

variable {setup : Setup}

def transitionsFrom (setup : Setup) (tasks : Table String ConnectorTaskRecord) :
    (transitions setup).World :=
  .initial _ { tasks := tasks }

-- What the calls have committed: who, on which task, over which version.
def commits {S : System signature} (history : List S.Event) : List (Nat × String × Nat) :=
  history.filterMap fun event =>
    match event with
    | .did id (.updateTask taskId loaded _) (.ok _) => some (id, taskId, loaded.version)
    | _ => none

def Returned (w : (transitions setup).World) (id : Nat) (call : Transition) : Prop :=
  ∃ record, w.threads id = some ⟨call, .ended (.ok record)⟩

-- Of the calls with one expected version at most one returns a record, and a
-- version counts the commits, of which a call that returns has made one.
structure Counted (tasks : Table String ConnectorTaskRecord) (w : (transitions setup).World) :
    Prop where
  once : ∀ id other call twin, Returned w id call → Returned w other twin →
    call.taskId = twin.taskId → call.expectedVersion = twin.expectedVersion → id = other
  version : ∀ taskId, (w.state.shared.tasks.lookup taskId).map (·.version) =
    (tasks.lookup taskId).map fun row =>
      row.version + (commits w.state.history).countP (·.2.1 = taskId)
  commit : ∀ id call, Returned w id call →
    (commits w.state.history).filter (·.1 = id) = [(id, call.taskId, call.expectedVersion)]

-- A row with a terminal status is left as it is.
def TerminalKept (w : (transitions setup).World) (label : (transitions setup).Label) : Prop :=
  ∀ next taskId row, w.step label = some next → w.state.shared.tasks.lookup taskId = some row →
    row.status.terminal = true → next.state.shared.tasks.lookup taskId = some row

def CompareAndSet (setup : Setup) (tasks : Table String ConnectorTaskRecord)
    (labels : List (transitions setup).Label) : Prop :=
  Along System.World.step TerminalKept (transitionsFrom setup tasks) labels ∧
    ∀ first rest w, labels = first ++ rest →
      run System.World.step (transitionsFrom setup tasks) first = some w → Counted tasks w

-- A commit finds the version that its call has read: no other commit on the task
-- has come between the two.
def Unraced (w : (transitions setup).World) : (transitions setup).Label → Prop
  | .go id .done => ∀ call taskId loaded changed onward,
      w.threads id = some ⟨call, .await (.updateTask taskId loaded changed) onward⟩ →
        ∀ row, w.state.shared.tasks.lookup taskId = some row → row.version = loaded.version
  | _ => True

end Definitions

section Commits

variable {S : System signature} {history : List S.Event} {id : Nat}

theorem commits_append (event : S.Event) :
    commits (history ++ [event]) = commits history ++ commits [event] :=
  List.filterMap_append

@[simp] theorem commits_entered (call : S.Call) : commits [(.entered id call : S.Event)] = [] := rfl

@[simp] theorem commits_left (result : Except Raised S.Result) :
    commits [(.left id result : S.Event)] = [] := rfl

@[simp] theorem commits_updateTask (taskId : String) (loaded changed : ConnectorTaskRecord)
    (value : Unit) :
    commits [(.did id (.updateTask taskId loaded changed) (.ok value) : S.Event)] =
      [(id, taskId, loaded.version)] := rfl

@[simp] theorem commits_raised (op : Op) (error : Raised) :
    commits [(.did id op (.error error) : S.Event)] = [] := by
  cases op <;> rfl

@[simp] theorem commits_readTask (taskId : String) (answer : Except Raised (Option ConnectorTaskRecord)) :
    commits [(.did id (.readTask taskId) answer : S.Event)] = [] := rfl

@[simp] theorem commits_settle (s : S.State) (program : LifecycleM S.Result) :
    commits (s.settle id program).history = commits s.history := by
  cases program with
  | ended result => exact (commits_append _).trans (List.append_nil _)
  | await => rfl

-- What the calls find of the rows while others commit: versions only grow, and
-- under one version a row stays the same.
def Later (before after : Table String ConnectorTaskRecord) : Prop :=
  ∀ taskId row, before.lookup taskId = some row → ∃ now, after.lookup taskId = some now ∧
    row.version ≤ now.version ∧ (now.version = row.version → now = row)

theorem Later.refl (table : Table String ConnectorTaskRecord) : Later table table :=
  fun _ row hl => ⟨row, hl, le_rfl, fun _ => rfl⟩

theorem Later.trans {first second third : Table String ConnectorTaskRecord}
    (hf : Later first second) (hs : Later second third) : Later first third := by
  intro taskId row hl
  obtain ⟨middle, hm, hle, heq⟩ := hf taskId row hl
  obtain ⟨now, hn, hle', heq'⟩ := hs taskId middle hm
  refine ⟨now, hn, hle.trans hle', fun hversion => ?_⟩
  have hsame : middle.version = row.version := le_antisymm (hversion ▸ hle') hle
  rw [heq' (hversion.trans hsame.symm), heq hsame]

theorem Later.insert {table : Table String ConnectorTaskRecord} {taskId : String}
    {row changed : ConnectorTaskRecord} (hl : table.lookup taskId = some row)
    (hversion : row.version < changed.version) : Later table (table.insert taskId changed) := by
  intro other found hf
  by_cases hother : other = taskId
  · subst hother
    obtain rfl := Option.some.inj (hl.symm.trans hf)
    exact ⟨changed, AList.lookup_insert _, hversion.le, fun he => absurd he (Nat.ne_of_gt hversion)⟩
  · exact ⟨found, (AList.lookup_insert_ne hother).trans hf, le_rfl, fun _ => rfl⟩

-- The versions count the commits, and no two commits share the task and the version.
structure Counting (tasks now : Table String ConnectorTaskRecord)
    (commits : List (Nat × String × Nat)) : Prop where
  version : ∀ taskId, (now.lookup taskId).map (·.version) =
    (tasks.lookup taskId).map fun row => row.version + commits.countP (·.2.1 = taskId)
  passed : ∀ commit ∈ commits, ∃ row, now.lookup commit.2.1 = some row ∧ commit.2.2 < row.version
  distinct : commits.Pairwise fun first second => first.2 ≠ second.2

theorem Counting.commit {tasks now : Table String ConnectorTaskRecord}
    {commits : List (Nat × String × Nat)} {taskId : String} {loaded changed : ConnectorTaskRecord}
    (h : Counting tasks now commits) (hl : now.lookup taskId = some loaded)
    (hversion : changed.version = loaded.version + 1) (id : Nat) :
    Counting tasks (now.insert taskId changed) (commits ++ [(id, taskId, loaded.version)]) := by
  refine ⟨fun other => ?_, fun commit hm => ?_, ?_⟩
  · rw [List.countP_append]
    have hbefore := h.version other
    by_cases hother : other = taskId
    · subst hother
      rw [hl, Option.map_some] at hbefore
      obtain ⟨row, hrow, hcount⟩ := Option.map_eq_some_iff.mp hbefore.symm
      simp only [AList.lookup_insert, Option.map_some, hrow]
      simp [hversion, ← hcount, Nat.add_assoc]
    · simp only [AList.lookup_insert_ne hother, hbefore]
      simp [Ne.symm hother]
  · rw [List.mem_append, List.mem_singleton] at hm
    rcases hm with hm | rfl
    · obtain ⟨row, hrow, hpassed⟩ := h.passed commit hm
      have hlater : Later now (now.insert taskId changed) := .insert hl (by omega)
      obtain ⟨found, hfound, hle, -⟩ := hlater commit.2.1 row hrow
      exact ⟨found, hfound, hpassed.trans_le hle⟩
    · exact ⟨changed, AList.lookup_insert _, by simp [hversion]⟩
  · refine List.pairwise_append.mpr
      ⟨h.distinct, List.pairwise_singleton .., fun commit hm last hlast => ?_⟩
    obtain rfl := List.mem_singleton.mp hlast
    obtain ⟨row, hrow, hpassed⟩ := h.passed commit hm
    intro heq
    rw [heq, hl, Option.some.injEq] at hrow
    rw [heq, ← hrow] at hpassed
    exact Nat.lt_irrefl _ hpassed

variable {setup : Setup}

-- No commit, and no change to a row.
def Quiet (s t : (transitions setup).State) : Prop :=
  t.shared.tasks = s.shared.tasks ∧ commits t.history = commits s.history

-- One commit over the row that the call has read.
def Commits (id : Nat) (s t : (transitions setup).State) : Prop :=
  ∃ taskId loaded changed, s.shared.tasks.lookup taskId = some loaded ∧
    loaded.status.terminal = false ∧ changed.version = loaded.version + 1 ∧
    (commits s.history).filter (·.1 = id) = [] ∧
    t.shared.tasks = s.shared.tasks.insert taskId changed ∧
    commits t.history = commits s.history ++ [(id, taskId, loaded.version)]

-- A call commits only after a session of its own has read the row as it may change it.
def Lawful (id : Nat) (op : Op) (s : (transitions setup).State) : Prop :=
  match op with
  | .readTask _ => True
  | .updateTask taskId loaded changed =>
      loaded.status.terminal = false ∧ changed.version = loaded.version + 1 ∧
        (∀ row, s.shared.tasks.lookup taskId = some row → row.version = loaded.version →
          row = loaded) ∧
        (commits s.history).filter (·.1 = id) = []
  | _ => False

def FindsVersion (op : Op) (choice : Choice) (s : (transitions setup).State) : Prop :=
  ∀ taskId loaded changed, op = .updateTask taskId loaded changed → choice = .done →
    ∀ row, s.shared.tasks.lookup taskId = some row → row.version = loaded.version

-- Where no other commit has come in between, a step commits once or not at all.
theorem cas_step {s : (transitions setup).State} {id : Nat} {op : Op} {choice : Choice}
    {answer : Except Raised op.Reply} {t : Shared} (hlawful : Lawful id op s)
    (hunraced : FindsVersion op choice s) (heffect : effect setup op choice s.shared = some (answer, t)) :
    Quiet s (s.note (.did id op answer) t) ∨ Commits id s (s.note (.did id op answer) t) := by
  cases op with
  | readTask taskId =>
      obtain ⟨rfl, -⟩ := effect_readTask heffect
      exact .inl ⟨rfl, by
        rw [System.State.note_history, commits_append, commits_readTask, List.append_nil]⟩
  | updateTask taskId loaded changed =>
      obtain ⟨hactive, hversion, hsame, hnone⟩ := hlawful
      rcases effect_updateTask heffect with ⟨rfl, error, rfl⟩ | ⟨hdone, rfl, row, hl, rfl⟩
      · exact .inl ⟨rfl, by
          rw [System.State.note_history, commits_append, commits_raised, List.append_nil]⟩
      · obtain rfl := hsame row hl (hunraced taskId loaded changed rfl hdone row hl)
        refine .inr ⟨taskId, row, _, hl, hactive, ?_, hnone, rfl, ?_⟩
        · simp [ConnectorTaskRecord.flush, hversion]
        · rw [System.State.note_history, commits_append, commits_updateTask]
  | _ => exact hlawful.elim

theorem Commits.filter_other {s t : (transitions setup).State} {id other : Nat}
    (h : Commits id s t) (hne : id ≠ other) :
    (commits t.history).filter (·.1 = other) = (commits s.history).filter (·.1 = other) := by
  obtain ⟨taskId, loaded, -, -, -, -, -, -, hcommits⟩ := h
  rw [hcommits, List.filter_append, List.filter_singleton]
  simp [hne]

def casDiscipline (tasks : Table String ConnectorTaskRecord) : (transitions setup).Discipline where
  good s := Counting tasks s.shared.tasks (commits s.history)
  fresh id s := (commits s.history).filter (·.1 = id) = []
  rely id s t := Later s.shared.tasks t.shared.tasks ∧
    (commits t.history).filter (·.1 = id) = (commits s.history).filter (·.1 = id)
  lawful := Lawful
  post id call result s :=
    match result with
    | .ok _ => (commits s.history).filter (·.1 = id) = [(id, call.taskId, call.expectedVersion)]
    | .error _ => True
  admitted _ _ _ := True
  allowed _ := FindsVersion
  happens _ _ := True
  rely_refl _ s := ⟨.refl _, rfl⟩
  rely_trans _ _ _ _ hf hs := ⟨hf.1.trans hs.1, hs.2.trans hf.2⟩
  fresh_rely _ _ _ hr hf := hr.2.trans hf
  post_rely _ _ result _ _ hr hp := by
    cases result with
    | ok => exact hr.2.trans hp
    | error => trivial
  step_good id op choice answer s t hg hlawful hallowed heffect := by
    rcases cas_step hlawful hallowed heffect with ⟨htasks, hcommits⟩ | hcommits
    · rwa [htasks, hcommits]
    · obtain ⟨taskId, loaded, changed, hl, -, hversion, -, htasks, hcommits⟩ := hcommits
      rw [htasks, hcommits]
      exact hg.commit hl hversion id
  step_rely id op choice answer other s t hne _ hlawful hallowed heffect := by
    rcases cas_step hlawful hallowed heffect with ⟨htasks, hcommits⟩ | hcommits
    · rw [htasks, hcommits]
      exact ⟨.refl _, rfl⟩
    · refine ⟨?_, hcommits.filter_other hne⟩
      obtain ⟨taskId, loaded, changed, hl, -, hversion, -, htasks, -⟩ := hcommits
      rw [htasks]
      exact .insert hl (by omega)
  enter_good id call s t hg _ _ he := by
    cases he
    rwa [System.State.note_history, commits_append, commits_entered, List.append_nil]
  enter_rely id call _ s t _ _ _ he := by
    cases he
    rw [System.State.note_history, commits_append, commits_entered, List.append_nil]
    exact ⟨.refl _, rfl⟩
  leave_good id _ result s hg _ := by
    rwa [System.State.note_history, commits_append, commits_left, List.append_nil]
  leave_rely id _ _ result s _ _ _ := by
    rw [System.State.note_history, commits_append, commits_left, List.append_nil]
    exact ⟨.refl _, rfl⟩
  leave_post id _ result s hp := by
    rwa [System.State.note_history, commits_append, commits_left, List.append_nil]
  outside_good event := nomatch event
  outside_rely event := nomatch event

-- What a call has committed once it has come to its last read.
theorem getTask_holds {tasks : Table String ConnectorTaskRecord} {id : Nat} {call : Transition}
    {s : (transitions setup).State}
    (h : (commits s.history).filter (·.1 = id) = [(id, call.taskId, call.expectedVersion)]) :
    (getTask call.taskId).Holds (casDiscipline tasks) id ((casDiscipline tasks).post id call) s := by
  refine .perform_bind (fun _ _ _ => trivial) (fun t choice found u hrely _ _ heffect => ?_)
    fun _ _ _ _ _ _ _ _ => trivial
  have hcommitted : (commits t.history).filter (·.1 = id) =
      [(id, call.taskId, call.expectedVersion)] := hrely.2.trans h
  cases found with
  | none => exact .throw trivial
  | some record =>
      have hlast : (commits (t.note (.did id (.readTask call.taskId) (.ok (some record)))
          u).history).filter (·.1 = id) = [(id, call.taskId, call.expectedVersion)] := by
        rwa [System.State.note_history, commits_append, commits_readTask, List.append_nil]
      exact .pure hlast

theorem cas_programs (tasks : Table String ConnectorTaskRecord) :
    (@casDiscipline setup tasks).Programs := by
  intro id call s t _ hfresh _ henter
  cases henter
  refine .perform_bind (fun _ _ _ => trivial) (fun t choice found u hrely _ _ heffect => ?_)
    fun _ _ _ _ _ _ _ _ => trivial
  obtain ⟨rfl, hread⟩ := effect_readTask heffect
  obtain rfl := hread found rfl
  have hnone : (commits t.history).filter (·.1 = id) = [] := by
    refine hrely.2.trans ?_
    rwa [System.State.note_history, commits_append, commits_entered, List.append_nil]
  cases hl : t.shared.tasks.lookup call.taskId with
  | none => exact .throw trivial
  | some row =>
      dsimp only
      split
      next => exact .throw trivial
      next hversion =>
        split
        next => exact .throw trivial
        next hactive =>
          have hmine : call.expectedVersion = row.version := (not_not.mp hversion).symm
          have hbefore : (commits (t.note (.did id (.readTask call.taskId) (.ok (some row)))
              t.shared).history).filter (·.1 = id) = [] := by
            rwa [System.State.note_history, commits_append, commits_readTask, List.append_nil]
          refine .perform_bind (fun v hrely _ => ?_) (fun v choice _ u hrely _ hallowed heffect => ?_)
            fun _ _ _ _ _ _ _ _ => trivial
          · refine ⟨by simpa using hactive, congrArg (· + 1) hmine, fun now hnow hsame => ?_,
              hrely.2.trans hbefore⟩
            obtain ⟨found, hfound, -, heq⟩ := hrely.1 call.taskId row hl
            obtain rfl := Option.some.inj (hnow.symm.trans hfound)
            exact heq hsame
          · have hbefore := hrely.2.trans hbefore
            refine getTask_holds ?_
            rw [System.State.note_history, commits_append, commits_updateTask, List.filter_append,
              hbefore, hmine]
            simp

theorem meets_of_unraced {tasks : Table String ConnectorTaskRecord}
    {w : (transitions setup).World} {label : (transitions setup).Label} (h : Unraced w label) :
    (casDiscipline tasks).Meets w label := by
  cases label with
  | start => trivial
  | go id choice =>
      intro op hop taskId loaded changed he hdone
      subst he
      subst hdone
      obtain ⟨call, onward, hthread⟩ := System.World.thread_of_awaiting hop
      exact h call taskId loaded changed onward hthread
  | outside event => exact nomatch event

theorem cas_initial (tasks : Table String ConnectorTaskRecord) :
    (casDiscipline tasks).Sound (transitionsFrom setup tasks) where
  good := ⟨fun taskId => (by simp [transitionsFrom, System.World.initial, commits]),
    (fun _ hm => nomatch hm), List.Pairwise.nil⟩
  fresh _ _ := rfl
  holds _ _ hthread := nomatch hthread

theorem cas_sound {tasks : Table String ConnectorTaskRecord}
    {labels : List (transitions setup).Label} {w : (transitions setup).World}
    (hunraced : Along System.World.step Unraced (transitionsFrom setup tasks) labels)
    (hrun : run System.World.step (transitionsFrom setup tasks) labels = some w) :
    (casDiscipline tasks).Sound w := by
  exact (cas_initial tasks).run (cas_programs tasks) (hunraced.mono fun _ _ => meets_of_unraced) hrun

theorem terminalKept_of_sound {tasks : Table String ConnectorTaskRecord}
    {w : (transitions setup).World} {label : (transitions setup).Label}
    (h : (casDiscipline tasks).Sound w) (hunraced : Unraced w label) : TerminalKept w label := by
  intro next taskId row hstep hl hterminal
  cases System.World.step_cases hstep with
  | start _ henter =>
      cases henter
      exact hl
  | @outside event => exact nomatch event
  | go hthread heffect =>
      rw [System.World.put_shared]
      have hmeets : (casDiscipline tasks).Meets w _ := meets_of_unraced hunraced
      have hop := System.World.awaiting_of_thread hthread
      rcases cas_step (h.lawful hop) (hmeets _ hop) heffect with
        ⟨htasks, -⟩ | hcommits
      · rwa [htasks]
      · obtain ⟨other, loaded, changed, hloaded, hactive, -, -, htasks, -⟩ := hcommits
        have hne : taskId ≠ other := by
          rintro rfl
          rw [hl, Option.some.injEq] at hloaded
          rw [← hloaded, hterminal] at hactive
          cases hactive
        rw [htasks]
        exact (AList.lookup_insert_ne hne).trans hl

theorem returned_of_sound {tasks : Table String ConnectorTaskRecord}
    {w : (transitions setup).World} {id : Nat} {call : Transition}
    (h : (casDiscipline tasks).Sound w) (hreturned : Returned w id call) :
    (commits w.state.history).filter (·.1 = id) = [(id, call.taskId, call.expectedVersion)] := by
  obtain ⟨record, hthread⟩ := hreturned
  exact h.ended hthread

theorem counted_of_sound {tasks : Table String ConnectorTaskRecord}
    {w : (transitions setup).World} (h : (casDiscipline tasks).Sound w) : Counted tasks w := by
  refine ⟨fun id other call twin hid hother htask hversion => ?_, h.good.version,
    fun id call hreturned => returned_of_sound h hreturned⟩
  have hcommit : ∀ {id call}, Returned w id call →
      (id, call.taskId, call.expectedVersion) ∈ commits w.state.history := by
    intro id call hreturned
    have hm : (id, call.taskId, call.expectedVersion) ∈
        (commits w.state.history).filter (·.1 = id) := by
      rw [returned_of_sound h hreturned]
      exact List.mem_singleton_self _
    exact (List.mem_filter.mp hm).1
  by_contra hne
  have : Std.Symm fun first second : Nat × String × Nat => first.2 ≠ second.2 :=
    ⟨fun _ _ hne => Ne.symm hne⟩
  refine h.good.distinct.forall (hcommit hid) (hcommit hother) ?_ ?_
  · simp [hne]
  · simp [htask, hversion]

end Commits

section Theorem

variable {setup : Setup} {tasks : Table String ConnectorTaskRecord}

-- Whoever commits, the version it writes follows the one it has read.
def Successive : Op → Prop
  | .updateTask _ loaded changed => changed.version = loaded.version + 1
  | _ => True

-- A commit that writes the version after the one it has read counts one up only
-- over that version.
theorem unraced_of_counted {w : (transitions setup).World} {id : Nat} {call : Transition}
    {taskId : String} {loaded changed row : ConnectorTaskRecord}
    {onward : Except Raised Unit → LifecycleM ConnectorTaskRecord}
    (hthread : w.threads id = some ⟨call, .await (.updateTask taskId loaded changed) onward⟩)
    (hversion : changed.version = loaded.version + 1)
    (hl : w.state.shared.tasks.lookup taskId = some row) (hbefore : Counted tasks w)
    (hafter : ∀ next, w.step (.go id .done) = some next → Counted tasks next) :
    row.version = loaded.version := by
  have hstep : w.step (.go id .done) = some (w.put id ⟨call, onward (.ok ())⟩
      (w.state.note (.did id (.updateTask taskId loaded changed) (.ok ()))
        { w.state.shared with
          tasks := w.state.shared.tasks.insert taskId (row.flush loaded changed) })) := by
    simp [System.World.step, System.World.go, hthread, effect, respond, hl]
  have hcount := (hafter _ hstep).version taskId
  have hrow := hbefore.version taskId
  rw [hl, Option.map_some] at hrow
  obtain ⟨base, hbase, hsum⟩ := Option.map_eq_some_iff.mp hrow.symm
  have hwritten : (row.flush loaded changed).version = loaded.version + 1 := by
    simp [ConnectorTaskRecord.flush, hversion]
  rw [System.World.put_shared, System.World.put, commits_settle, System.State.note_history,
    commits_append, commits_updateTask] at hcount
  simp [hbase, hwritten] at hcount
  omega

theorem compareAndSet_iff (setup : Setup) (tasks : Table String ConnectorTaskRecord)
    (labels : List (transitions setup).Label) :
    CompareAndSet setup tasks labels ↔
      Along System.World.step Unraced (transitionsFrom setup tasks) labels := by
  constructor
  · rintro ⟨-, hcounted⟩
    refine along_iff_forall.mpr fun before label rest w hlabels hrun => ?_
    cases label with
    | start => trivial
    | outside event => exact nomatch event
    | go id choice =>
        cases choice with
        | done =>
            intro call taskId loaded changed onward hthread row hl
            have hprograms : ∀ call : Transition, call.program.Every Successive :=
              fun call => transitionTask_every trivial fun _ _ _ _ hversion _ => hversion
            have hevery := System.World.every_run hprograms (fun _ _ h => by cases h) hrun id _ hthread
            refine unraced_of_counted hthread hevery.1 hl (hcounted before _ w hlabels hrun) ?_
            intro next hnext
            refine hcounted (before ++ [.go id .done]) rest next (by simp [hlabels]) ?_
            rw [run_append, hrun, Option.bind_some, run_cons, hnext]
            rfl
        | _ => trivial
  · intro hunraced
    refine ⟨?_, fun first rest w hlabels hrun => ?_⟩
    · have hsteps : Along System.World.step TerminalKept (transitionsFrom setup tasks) labels :=
        Along.of_invariant
          (fun _ _ _ h hc hs => h.step (cas_programs tasks) (meets_of_unraced hc) hs)
          (fun _ _ h hc => terminalKept_of_sound h hc) (cas_initial tasks) hunraced
      exact hsteps
    · rw [hlabels] at hunraced
      exact counted_of_sound (cas_sound hunraced.append_left hrun)

end Theorem

section Samples

-- A setup whose conversions take only what needs none.
def plainSetup : Setup where
  setting := { production := false, platform := "linux", catalogue := fun _ => none, keepsZone := true }
  int value :=
    match value with
    | .int n => .ok n
    | _ => .error ⟨"TypeError", "int() argument must be a string or a real number"⟩
  dict _ := .error ⟨"TypeError", "cannot convert to a dict"⟩
  column value :=
    match value with
    | .none => .ok none
    | .str text => .ok (some text)
    | _ => .error ⟨"InterfaceError", "type is not supported"⟩

def runningTask : ConnectorTaskRecord where
  taskId := "task"
  planId := "plan"
  nodeId := "node"
  connectorId := "cursor"
  connectorRevision := "1"
  action := .authenticate
  planHash := "hash"
  status := .running
  idempotencyKey := "node:task:hash"
  version := 3
  createdAt := 0

def runningTable : Table String ConnectorTaskRecord :=
  (∅ : Table String ConnectorTaskRecord).insert "task" runningTask

def cancelling : Transition where
  taskId := "task"
  expectedVersion := 3
  status := .cancelled
  finishedAt := some 1

def waiting : Transition where
  taskId := "task"
  expectedVersion := 3
  status := .waitingForUser

-- Both calls read the row before either commits.
def racingRun : List (transitions plainSetup).Label :=
  [.start 0 cancelling, .start 1 waiting, .go 0 .done, .go 1 .done, .go 0 .done, .go 1 .done,
    .go 0 .done, .go 1 .done]

theorem transition_lost : ¬ CompareAndSet plainSetup runningTable racingRun ∧
    ((run System.World.step (transitionsFrom plainSetup runningTable) (racingRun.take 5)).bind
      fun w => w.state.shared.tasks.lookup "task").map (·.status) = some .cancelled ∧
    ((run System.World.step (transitionsFrom plainSetup runningTable) racingRun).bind
      fun w => w.state.shared.tasks.lookup "task").map (fun row => (row.status, row.version)) =
        some (.waitingForUser, 4) := by
  refine ⟨fun h => ?_, by decide +kernel, by decide +kernel⟩
  obtain ⟨w, hrun⟩ := Option.isSome_iff_exists.mp
    (show (run System.World.step (transitionsFrom plainSetup runningTable) racingRun).isSome by
      decide +kernel)
  have hversion := (h.2 racingRun [] w (List.append_nil _).symm hrun).version "task"
  have hfinal : (run System.World.step (transitionsFrom plainSetup runningTable) racingRun).map
      (fun w => ((w.state.shared.tasks.lookup "task").map (·.version),
        (commits w.state.history).countP (·.2.1 = "task"))) = some (some 4, 2) := by decide +kernel
  rw [hrun, Option.map_some, Option.some.injEq, Prod.mk.injEq] at hfinal
  rw [hfinal.1, hfinal.2] at hversion
  exact absurd hversion (by decide +kernel)

end Samples

end JoyMesh.Lifecycle
