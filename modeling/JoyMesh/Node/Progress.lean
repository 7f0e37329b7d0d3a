import JoyMesh.Node.Tasks

namespace JoyMesh.Node

open Library

-- What an offer reads off an entry: a terminal one is replayed, a started one is
-- reported and any other is accepted.
inductive Progress where
  | accepted
  | running
  | ended (status : String)
deriving DecidableEq, Repr

def LocalTaskJournalEntry.progress (entry : LocalTaskJournalEntry) : Progress :=
  if entry.terminalAt ≠ none then .ended entry.status
  else if entry.startedAt ≠ none then .running
  else .accepted

namespace Progress

def begun : Progress → Progress
  | accepted => running
  | other => other

def finish (status : String) : Progress → Progress
  | ended old => ended old
  | _ => ended status

@[simp] theorem begun_ne_accepted (progress : Progress) : progress.begun ≠ accepted := by
  cases progress <;> simp [begun]

@[simp] theorem finish_ne_accepted (progress : Progress) (status : String) :
    progress.finish status ≠ accepted := by
  cases progress <;> simp [finish]

end Progress

namespace NodeTaskJournal

variable {journal : NodeTaskJournal} {pair : Pair} {now : Time} {sequence : Nat}

def progress (journal : NodeTaskJournal) (pair : Pair) : Option Progress :=
  (journal.lookup pair).map LocalTaskJournalEntry.progress

theorem progress_amend {f : LocalTaskJournalEntry → LocalTaskJournalEntry}
    {change : Progress → Progress} (h : ∀ entry, (f entry).progress = change entry.progress)
    (other : Pair) : (journal.amend pair f).progress other =
      if other = pair then (journal.progress pair).map change else journal.progress other := by
  rw [progress, lookup_amend]
  by_cases hp : other = pair
  · rw [if_pos hp, if_pos hp, progress, Option.map_map, Option.map_map]
    congr 1
    funext entry
    exact h entry
  · rw [if_neg hp, if_neg hp, progress]

theorem progress_markStarted (other : Pair) :
    (journal.markStarted pair now).progress other =
      if other = pair then (journal.progress pair).map Progress.begun
      else journal.progress other := by
  refine progress_amend (fun entry => ?_) other
  cases ht : entry.terminalAt with
  | some at_ => simp [LocalTaskJournalEntry.progress, ht, Progress.begun]
  | none => cases hs : entry.startedAt <;> simp [LocalTaskJournalEntry.progress, ht, hs, Progress.begun]

theorem progress_markTerminal {status digest : String} (other : Pair) :
    (journal.markTerminal pair status digest sequence now).progress other =
      if other = pair then (journal.progress pair).map (Progress.finish status)
      else journal.progress other := by
  refine progress_amend (fun entry => ?_) other
  cases ht : entry.terminalAt with
  | some at_ => simp [LocalTaskJournalEntry.progress, ht, Progress.finish]
  | none => cases hs : entry.startedAt <;> simp [LocalTaskJournalEntry.progress, ht, hs, Progress.finish]

theorem progress_updateSequence (other : Pair) :
    (journal.updateSequence pair sequence).progress other = journal.progress other := by
  have h : (journal.updateSequence pair sequence).progress other =
      if other = pair then (journal.progress pair).map id else journal.progress other :=
    progress_amend (fun entry => rfl) other
  rw [h]
  by_cases hp : other = pair
  · subst hp
    simp
  · simp [hp]

theorem progress_accept {connectorId connectorRevision : String} (other : Pair) :
    (journal.accept pair connectorId connectorRevision now).progress other =
      if other = pair then some ((journal.progress pair).getD .accepted)
      else journal.progress other := by
  rw [progress, lookup_accept]
  by_cases hp : other = pair
  · subst hp
    cases h : journal.lookup other <;> simp [progress, h, LocalTaskJournalEntry.progress]
  · simp [hp, progress]

end NodeTaskJournal

namespace JoyMeshNode

variable {setup : NodeSetup} {node : JoyMeshNode} {i : Nat} {execution : Execution}
  {next : JoyMeshNode} {after : Option Execution} {moved : Execution} {stage : Stage}
  {payload : Mapping}

abbrev progress (node : JoyMeshNode) (pair : Pair) : Option Progress := node.journal.progress pair

-- What a step of an execution changes: its own place, and the progress of its
-- own pair.
structure ExecutionMove (node next : JoyMeshNode) (i : Nat) (execution : Execution)
    (after : Option Execution) (change : Progress → Progress) : Prop where
  executions : next.executions = Function.update node.executions i after
  handler : next.handler = node.handler
  envelope : ∀ moved, after = some moved → moved.envelope = execution.envelope
  progress : ∀ pair, next.progress pair =
    if pair = execution.envelope.pair then (node.progress pair).map change else node.progress pair

theorem ExecutionMove.unchanged (hexec : next.executions = Function.update node.executions i after)
    (hhandler : next.handler = node.handler)
    (henv : ∀ moved, after = some moved → moved.envelope = execution.envelope)
    (hprogress : ∀ pair, next.progress pair = node.progress pair) :
    ExecutionMove node next i execution after id :=
  ⟨hexec, hhandler, henv, fun pair => by rw [hprogress]; simp⟩

theorem setExecution_move (h : moved.envelope = execution.envelope) :
    ExecutionMove node (node.setExecution i moved) i execution (some moved) id :=
  .unchanged rfl rfl (fun _ hm => Option.some.inj hm ▸ h) fun _ => rfl

theorem finished_move : ExecutionMove node (node.finished i execution) i execution none id :=
  .unchanged rfl rfl (fun _ hm => (by cases hm)) fun _ => rfl

theorem emitEvent_move {eventType : String} :
    ∃ moved, ExecutionMove node (node.emitEvent i execution stage eventType payload) i execution
        (some moved) id ∧
      moved.place = .sending stage (execution.envelope.message (.ofEvent eventType)
        (some (execution.runnerSequence + 1)) payload) false :=
  ⟨_, .unchanged rfl rfl (fun _ hm => Option.some.inj hm ▸ rfl)
    fun _ => NodeTaskJournal.progress_updateSequence _, rfl⟩

theorem recordEvidence_move :
    ∃ moved, ExecutionMove node (node.recordEvidence i execution stage payload) i execution
        (some moved) id ∧
      moved.place = .sending stage (execution.envelope.message .taskEvidence
        (some (execution.sequence + 1)) payload) false :=
  ⟨_, setExecution_move rfl, rfl⟩

theorem sendCancelled_move :
    ∃ moved, ExecutionMove node (node.sendCancelled i execution) i execution (some moved) id ∧
      moved.place = .sending .nodeCancelled (execution.envelope.message .taskCancelled
        (some (execution.sequence + 1))) false :=
  ⟨_, setExecution_move rfl, rfl⟩

theorem concluded_move {status : ConnectorTaskStatus} {now : Time} :
    ExecutionMove node (node.concluded setup i execution status now) i execution none
      (if status = .waitingForUser then id else Progress.finish status.value) := by
  unfold concluded
  by_cases hw : status = .waitingForUser
  · rw [if_pos hw, if_pos hw]
    exact finished_move
  · rw [if_neg hw, if_neg hw]
    refine ⟨rfl, rfl, fun _ hm => (by cases hm), fun pair => ?_⟩
    refine (NodeTaskJournal.progress_markTerminal pair).trans ?_
    by_cases hp : pair = execution.envelope.pair
    · subst hp
      rfl
    · rw [if_neg hp, if_neg hp]

theorem ExecutionMove.trans {middle : JoyMeshNode} {between : Option Execution}
    {first second : Progress → Progress} (hf : ExecutionMove node middle i execution between first)
    (hs : ExecutionMove middle next i moved after second) (he : moved.envelope = execution.envelope) :
    ExecutionMove node next i execution after (second ∘ first) where
  executions := by rw [hs.executions, hf.executions, Function.update_idem]
  handler := hs.handler.trans hf.handler
  envelope other ho := (hs.envelope other ho).trans he
  progress pair := by
    rw [hs.progress, hf.progress, he]
    by_cases hp : pair = execution.envelope.pair
    · subst hp
      simp
    · simp [hp]

end JoyMeshNode

-- The message types that a stage sends.
def Stage.Sends : Stage → MessageType → Prop
  | .starting, type => type = .taskStarted
  | .emitting, type => type = .taskProgress ∨ type = .taskWaitingForUser ∨ type = .taskEvidence
  | .unsupported, type => type = .taskFailed
  | .reporting status, type => type = .ofEvent ("task." ++ status.value)
  | .failing _, type => type = .taskFailed
  | .failingEvidence, type => type = .taskEvidence
  | .cancelled, type => type = .taskCancelled
  | .nodeCancelled, type => type = .taskCancelled

-- The status with which the runner returns once the message of a stage is out.
def Stage.result : Stage → Option ConnectorTaskStatus
  | .unsupported => some .failed
  | .reporting status => some status
  | .failingEvidence => some .failed
  | _ => none

-- The places inside the try block of the runner.
def Place.inTry : Place → Bool
  | .acting => true
  | .sending .emitting _ _ => true
  | .sending .unsupported _ _ => true
  | .sending (.reporting _) _ _ => true
  | _ => false

-- What one step can do to an execution: where it goes on and how the progress
-- of its pair changes.
inductive Turn (execution : Execution) : Option Place → (Progress → Progress) → Prop where
  | invalid : execution.place = .spawned → Turn execution none Progress.begun
  | repeated : execution.place = .spawned →
      Turn execution none (Progress.finish "succeeded" ∘ Progress.begun)
  | starts (message : TaskMessage) : execution.place = .spawned →
      message.pair = execution.envelope.pair → Stage.starting.Sends message.type →
      Turn execution (some (.sending .starting message false)) Progress.begun
  | writes (stage : Stage) (message : TaskMessage) :
      execution.place = .sending stage message false →
      Turn execution (some (.sending stage message true)) id
  | acts (stage : Stage) (message : TaskMessage) :
      execution.place = .sending stage message true → stage = .starting ∨ stage = .emitting →
      Turn execution (some .acting) id
  | refuses (message next : TaskMessage) : execution.place = .sending .starting message true →
      next.pair = execution.envelope.pair → Stage.unsupported.Sends next.type →
      Turn execution (some (.sending .unsupported next false)) id
  | emits (next : TaskMessage) : execution.place = .acting →
      next.pair = execution.envelope.pair → Stage.emitting.Sends next.type →
      Turn execution (some (.sending .emitting next false)) id
  | waits : execution.place = .acting → Turn execution none id
  | reports (status : ConnectorTaskStatus) (next : TaskMessage) : execution.place = .acting →
      status = .succeeded ∨ status = .failed → next.pair = execution.envelope.pair →
      (Stage.reporting status).Sends next.type →
      Turn execution (some (.sending (.reporting status) next false)) id
  | fails (reason : String) (next : TaskMessage) : execution.place.inTry = true →
      next.pair = execution.envelope.pair → (Stage.failing reason).Sends next.type →
      Turn execution (some (.sending (.failing reason) next false)) id
  | records (reason : String) (message next : TaskMessage) :
      execution.place = .sending (.failing reason) message true →
      next.pair = execution.envelope.pair → Stage.failingEvidence.Sends next.type →
      Turn execution (some (.sending .failingEvidence next false)) id
  | concludes (stage : Stage) (message : TaskMessage) (status : ConnectorTaskStatus) :
      execution.place = .sending stage message true → stage.result = some status →
      Turn execution none (if status = .waitingForUser then id else Progress.finish status.value)
  | stops (next : TaskMessage) : execution.place = .stopping →
      next.pair = execution.envelope.pair → Stage.cancelled.Sends next.type →
      Turn execution (some (.sending .cancelled next false)) id
  | cancels (message next : TaskMessage) : execution.place = .sending .cancelled message true →
      next.pair = execution.envelope.pair → Stage.nodeCancelled.Sends next.type →
      Turn execution (some (.sending .nodeCancelled next false)) id
  | leaves : execution.place ≠ .spawned → execution.place.inTry = false → Turn execution none id

-- What a CancelledError does to an execution.
inductive Cut (execution : Execution) : Option Place → Prop where
  | unstarted : execution.place = .spawned → Cut execution none
  | stopped : execution.place.inTry = true → Cut execution (some .stopping)
  | cancelled (next : TaskMessage) : execution.place ≠ .spawned →
      execution.place.inTry = false → Cut execution (some (.sending .nodeCancelled next false))
  | left : execution.place ≠ .spawned → Cut execution none

-- The labels that step an execution.
def Label.Steps (i : Nat) : Label → Prop
  | .start j _ => j = i
  | .write j => j = i
  | .proceed j _ => j = i
  | .act j _ => j = i
  | .broken j _ => j = i
  | _ => False

namespace JoyMeshNode

variable {setup : NodeSetup} {node next : JoyMeshNode} {i : Nat} {execution : Execution}
  {now : Time} {stage : Stage} {eventType reason : String} {payload : Mapping}
  {message : TaskMessage}

-- A step of an execution is one of its turns.
def Turned (node next : JoyMeshNode) (i : Nat) (execution : Execution) : Prop :=
  ∃ after change, ExecutionMove node next i execution after change ∧
    Turn execution (after.map (·.place)) change

theorem emitEvent_turned (h : ∀ message : TaskMessage, message.pair = execution.envelope.pair →
      message.type = .ofEvent eventType →
        Turn execution (some (.sending stage message false)) id) :
    Turned node (node.emitEvent i execution stage eventType payload) i execution := by
  obtain ⟨moved, hmove, hplace⟩ : ∃ moved, ExecutionMove node
      (node.emitEvent i execution stage eventType payload) i execution (some moved) id ∧ _ :=
    emitEvent_move
  refine ⟨some moved, id, hmove, ?_⟩
  rw [Option.map_some, hplace]
  exact h _ rfl rfl

theorem recordEvidence_turned (h : ∀ message : TaskMessage, message.pair = execution.envelope.pair →
      message.type = .taskEvidence →
        Turn execution (some (.sending stage message false)) id) :
    Turned node (node.recordEvidence i execution stage payload) i execution := by
  obtain ⟨moved, hmove, hplace⟩ : ∃ moved, ExecutionMove node
      (node.recordEvidence i execution stage payload) i execution (some moved) id ∧ _ :=
    recordEvidence_move
  refine ⟨some moved, id, hmove, ?_⟩
  rw [Option.map_some, hplace]
  exact h _ rfl rfl

theorem failure_turned (h : execution.place.inTry = true) :
    Turned node (node.failure i execution reason) i execution :=
  emitEvent_turned fun message hpair htype => .fails reason message h hpair htype

theorem concluded_turned {status : ConnectorTaskStatus}
    (hplace : execution.place = .sending stage message true) (hresult : stage.result = some status) :
    Turned node (node.concluded setup i execution status now) i execution :=
  ⟨none, _, concluded_move, .concludes stage message status hplace hresult⟩

theorem finished_turned (hplace : execution.place ≠ .spawned) (htry : execution.place.inTry = false) :
    Turned node (node.finished i execution) i execution :=
  ⟨none, id, finished_move, .leaves hplace htry⟩

theorem set_turned {place : Place} (h : Turn execution (some place) id) :
    Turned node (node.setExecution i { execution with place := place }) i execution :=
  ⟨_, id, setExecution_move rfl, h⟩

-- The entry is marked before anything else.
theorem marked_move {keys : List String} (hi : node.executions i = some execution) :
    ExecutionMove node
      { node with
        journal := node.journal.markStarted execution.envelope.pair now
        executedKeys := keys } i execution (some execution) Progress.begun where
  executions := (Function.update_eq_self_iff.mpr hi.symm).symm
  handler := rfl
  envelope _ hm := Option.some.inj hm ▸ rfl
  progress pair := by
    refine (NodeTaskJournal.progress_markStarted pair).trans ?_
    by_cases hp : pair = execution.envelope.pair
    · subst hp
      rfl
    · rw [if_neg hp, if_neg hp]

theorem started_emit {marked : JoyMeshNode}
    (hm : ExecutionMove node marked i execution (some execution) Progress.begun) :
    ∃ moved, ExecutionMove node (marked.emitEvent i execution .starting eventType payload) i
        execution (some moved) Progress.begun ∧
      moved.place = .sending .starting (execution.envelope.message (.ofEvent eventType)
        (some (execution.runnerSequence + 1)) payload) false := by
  obtain ⟨moved, hmove, hplace⟩ : ∃ moved, ExecutionMove marked
      (marked.emitEvent i execution .starting eventType payload) i execution (some moved) id ∧ _ :=
    emitEvent_move
  exact ⟨moved, hm.trans hmove rfl, hplace⟩

theorem started_turned (hi : node.executions i = some execution)
    (hplace : execution.place = .spawned) :
    Turned node (node.started setup i execution now) i execution := by
  unfold started
  cases ConnectorAction.ofValue execution.envelope.action with
  | none => exact ⟨none, _, (marked_move hi).trans finished_move rfl, .invalid hplace⟩
  | some action =>
      dsimp only
      split
      · exact ⟨none, _, (marked_move hi).trans concluded_move rfl, .repeated hplace⟩
      · obtain ⟨moved, hmove, hnext⟩ : ∃ moved, ExecutionMove node _ i execution (some moved)
            Progress.begun ∧ _ := started_emit (marked_move hi)
        refine ⟨some moved, _, hmove, ?_⟩
        rw [Option.map_some, hnext]
        exact .starts _ hplace rfl rfl

theorem beginAction_turned (hplace : execution.place = .sending .starting message true) :
    Turned node (node.beginAction i execution) i execution := by
  unfold beginAction
  split
  · exact set_turned (.acts _ _ hplace (.inl rfl))
  · exact emitEvent_turned fun next hpair htype => .refuses message next hplace hpair htype

theorem proceeded_turned (hplace : execution.place = .sending stage message true) :
    Turned node (node.proceeded setup i execution now stage) i execution := by
  cases stage with
  | starting => exact beginAction_turned hplace
  | emitting => exact set_turned (.acts _ _ hplace (.inr rfl))
  | unsupported => exact concluded_turned hplace rfl
  | reporting status => exact concluded_turned hplace rfl
  | failing reason =>
      exact recordEvidence_turned fun next hpair htype =>
        .records reason message next hplace hpair htype
  | failingEvidence => exact concluded_turned hplace rfl
  | cancelled =>
      obtain ⟨moved, hmove, hnext⟩ : ∃ moved, ExecutionMove node (node.sendCancelled i execution) i
        execution (some moved) id ∧ _ := sendCancelled_move
      refine ⟨some moved, id, hmove, ?_⟩
      rw [Option.map_some, hnext]
      exact .cancels message _ hplace rfl rfl
  | nodeCancelled => exact finished_turned (by rw [hplace]; simp) (by rw [hplace]; rfl)

theorem raisedAt_turned {written : Bool} (hplace : execution.place = .sending stage message written) :
    Turned node (node.raisedAt i execution reason stage) i execution := by
  have hne : execution.place ≠ .spawned := by rw [hplace]; simp
  cases stage with
  | emitting => exact failure_turned (by rw [hplace]; rfl)
  | unsupported => exact failure_turned (by rw [hplace]; rfl)
  | reporting status => exact failure_turned (by rw [hplace]; rfl)
  | starting => exact finished_turned hne (by rw [hplace]; rfl)
  | failing => exact finished_turned hne (by rw [hplace]; rfl)
  | failingEvidence => exact finished_turned hne (by rw [hplace]; rfl)
  | cancelled => exact finished_turned hne (by rw [hplace]; rfl)
  | nodeCancelled => exact finished_turned hne (by rw [hplace]; rfl)

theorem acted_turned {action : ConnectorAction} {done : ActionStep}
    (hplace : execution.place = .acting) (h : node.acted i execution action done = some next) :
    Turned node next i execution := by
  cases done with
  | progress payload =>
      obtain rfl := Option.some.inj h
      exact emitEvent_turned fun message hpair htype => .emits message hplace hpair (.inl htype)
  | waitingForUser payload =>
      obtain rfl := Option.some.inj h
      exact emitEvent_turned fun message hpair htype =>
        .emits message hplace hpair (.inr (.inl htype))
  | evidence payload =>
      obtain rfl := Option.some.inj h
      exact recordEvidence_turned fun message hpair htype =>
        .emits message hplace hpair (.inr (.inr htype))
  | raised reason =>
      obtain rfl := Option.some.inj h
      exact failure_turned (by rw [hplace]; rfl)
  | returned status =>
      dsimp only [acted] at h
      split at h
      next hmay =>
        split at h
        · obtain rfl := Option.some.inj h
          exact ⟨none, id, finished_move, .waits hplace⟩
        next hw =>
          obtain rfl := Option.some.inj h
          have hstatus : status = .succeeded ∨ status = .failed := by
            revert hmay hw
            cases action <;> cases status <;> simp [ConnectorAction.mayReturn]
          exact emitEvent_turned fun message hpair htype =>
            .reports status message hplace hstatus hpair htype
      · cases h

-- A CancelledError moves an execution by one of its cuts.
theorem interrupted_cut : ∃ after, ExecutionMove node (node.interrupted i execution) i execution
    after id ∧ Cut execution (after.map (·.place)) := by
  have hsend : execution.place ≠ .spawned → execution.place.inTry = false →
      ∃ after, ExecutionMove node (node.sendCancelled i execution) i execution after id ∧
        Cut execution (after.map (·.place)) := by
    intro hne htry
    obtain ⟨moved, hmove, hnext⟩ : ∃ moved, ExecutionMove node (node.sendCancelled i execution) i
      execution (some moved) id ∧ _ := sendCancelled_move
    refine ⟨some moved, hmove, ?_⟩
    rw [Option.map_some, hnext]
    exact .cancelled _ hne htry
  have hstop : execution.place.inTry = true →
      ∃ after, ExecutionMove node
        (node.setExecution i { execution with place := .stopping }) i execution after id ∧
        Cut execution (after.map (·.place)) :=
    fun htry => ⟨_, setExecution_move rfl, .stopped htry⟩
  unfold interrupted
  cases hplace : execution.place with
  | spawned => exact ⟨none, finished_move, .unstarted hplace⟩
  | acting => exact hstop (by rw [hplace]; rfl)
  | stopping => exact hsend (by rw [hplace]; simp) (by rw [hplace]; rfl)
  | sending stage message written =>
      have hne : execution.place ≠ .spawned := by rw [hplace]; simp
      cases stage with
      | emitting => exact hstop (by rw [hplace]; rfl)
      | unsupported => exact hstop (by rw [hplace]; rfl)
      | reporting status => exact hstop (by rw [hplace]; rfl)
      | nodeCancelled => exact ⟨none, finished_move, .left hne⟩
      | starting => exact hsend hne (by rw [hplace]; rfl)
      | failing reason => exact hsend hne (by rw [hplace]; rfl)
      | failingEvidence => exact hsend hne (by rw [hplace]; rfl)
      | cancelled => exact hsend hne (by rw [hplace]; rfl)

theorem step_turned {label : Label} (hl : label.Steps i) (h : node.step setup label = some next) :
    ∃ execution, node.executions i = some execution ∧ Turned node next i execution := by
  cases label with
  | start j now =>
      obtain rfl : j = i := hl
      dsimp only [step] at h
      split at h
      · cases h
      next execution hj =>
        split at h
        next hplace =>
          obtain rfl := Option.some.inj h
          exact ⟨execution, hj, started_turned hj hplace⟩
        · cases h
  | write j =>
      obtain rfl : j = i := hl
      dsimp only [step] at h
      split at h
      · cases h
      next execution hj =>
        split at h
        next stage message hplace =>
          obtain rfl := Option.some.inj h
          exact ⟨execution, hj, set_turned (.writes stage message hplace)⟩
        · cases h
  | proceed j now =>
      obtain rfl : j = i := hl
      dsimp only [step] at h
      split at h
      · cases h
      next execution hj =>
        split at h
        next stage message hplace =>
          obtain rfl := Option.some.inj h
          exact ⟨execution, hj, proceeded_turned hplace⟩
        next hplace =>
          obtain rfl := Option.some.inj h
          exact ⟨execution, hj, emitEvent_turned fun message hpair htype =>
            .stops message hplace hpair htype⟩
        · cases h
  | act j done =>
      obtain rfl : j = i := hl
      dsimp only [step] at h
      split at h
      · cases h
      next execution hj =>
        split at h
        next action hplace haction => exact ⟨execution, hj, acted_turned hplace h⟩
        · cases h
  | broken j reason =>
      obtain rfl : j = i := hl
      dsimp only [step] at h
      split at h
      · cases h
      next execution hj =>
        split at h
        next stage message written hplace =>
          obtain rfl := Option.some.inj h
          exact ⟨execution, hj, raisedAt_turned hplace⟩
        next hplace =>
          obtain rfl := Option.some.inj h
          exact ⟨execution, hj, finished_turned (by rw [hplace]; simp) (by rw [hplace]; rfl)⟩
        · cases h
  | _ => exact hl.elim

end JoyMeshNode

end JoyMesh.Node
