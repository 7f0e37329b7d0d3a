import JoyMesh.Lifecycle.NodeRunner

namespace JoyMesh.Lifecycle

open JoyMesh.Library

def RunnerEvent.terminal (event : RunnerEvent) : Bool :=
  event.eventType ∈ ["task.succeeded", "task.failed", "task.cancelled", "task.interrupted"]

namespace Sent

def event? : Sent → Option RunnerEvent
  | .event sent => some sent
  | .evidence _ => none

def terminal (sent : Sent) : Bool := sent.event?.any RunnerEvent.terminal

end Sent

def events (sent : List Sent) : List RunnerEvent := sent.filterMap Sent.event?

@[simp] theorem events_append (sent more : List Sent) :
    events (sent ++ more) = events sent ++ events more := List.filterMap_append ..

-- What a call owes its sinks: it numbers its events one after another from the start,
-- it sends at most one terminal event and nothing after it, and the terminal status
-- that it returns is that of the event.
structure EventDiscipline (start : Nat) (sent : List Sent)
    (result : Except Exit ConnectorTaskStatus) : Prop where
  consecutive : (events sent).map (·.sequence) = List.range' (start + 1) (events sent).length
  once : (events sent).countP (·.terminal) ≤ 1
  last : ∀ before item after, sent = before ++ item :: after → item.terminal → after = []
  named : ∀ status, result = .ok status → status.terminal →
    ∃ event ∈ events sent, event.terminal ∧ event.eventType = "task." ++ status.value

-- How many events a call has sent is what it has counted.
structure Numbered (start : Nat) (s : Moment) : Prop where
  consecutive : (events s.sent).map (·.sequence) = List.range' (start + 1) (events s.sent).length
  counted : s.sequence = start + (events s.sent).length

variable {sent : List Sent} {start : Nat} {s t : Moment} {result : Except Exit ConnectorTaskStatus}

theorem Numbered.send {event : RunnerEvent} (h : Numbered start s)
    (hevent : event.sequence = s.sequence + 1) (hsequence : t.sequence = s.sequence + 1)
    (hsent : t.sent = s.sent ++ [.event event]) : Numbered start t := by
  have hcounted := h.counted
  constructor
  · rw [hsent, events_append, List.map_append, h.consecutive, List.length_append]
    simp only [events, List.filterMap_cons, Sent.event?, List.filterMap_nil, List.map_cons,
      List.map_nil, List.length_singleton]
    rw [List.range'_concat, hevent, hcounted]
    simp only [events, Nat.one_mul, List.append_cancel_left_eq, List.cons.injEq, and_true]
    omega
  · rw [hsent, hsequence, hcounted, events_append, List.length_append]
    simp only [events, List.filterMap_cons, Sent.event?, List.filterMap_nil,
      List.length_singleton]
    omega

theorem Numbered.keep (h : Numbered start s) (hevents : events t.sent = events s.sent)
    (hsequence : t.sequence = s.sequence) : Numbered start t := by
  constructor
  · rw [hevents]
    exact h.consecutive
  · rw [hevents, hsequence]
    exact h.counted

-- What every part of the call does to its sinks: it goes on with the numbers.
def Numbers (s t : Moment) : Prop := ∀ start, Numbered start s → Numbered start t

instance : Std.Refl Numbers := ⟨fun _ _ h => h⟩
instance : IsTrans Moment Numbers := ⟨fun _ _ _ hfirst hsecond start h =>
  hsecond start (hfirst start h)⟩

-- What the branch of an action does: no event of it is terminal.
structure Acts (s t : Moment) : Prop where
  numbers : Numbers s t
  quiet : ∃ new, t.sent = s.sent ++ new ∧ ∀ item ∈ new, item.terminal = false

instance : Std.Refl Acts := ⟨fun s => ⟨Std.Refl.refl s, [], (List.append_nil _).symm, by simp⟩⟩

instance : IsTrans Moment Acts where
  trans := by
    rintro s t u ⟨hfirst, new, ht, hnew⟩ ⟨hsecond, more, hu, hmore⟩
    refine ⟨IsTrans.trans _ _ _ hfirst hsecond, new ++ more, ?_, ?_⟩
    · rw [hu, ht, List.append_assoc]
    · intro item hitem
      rcases List.mem_append.mp hitem with hitem | hitem
      · exact hnew item hitem
      · exact hmore item hitem

namespace RunnerOp

-- An operation that hands nothing to a sink and does not count.
def silent : RunnerOp → Bool
  | emitEvent _ | recordEvidence _ | startSequence _ | nextSequence => false
  | _ => true

theorem effect_silent {op : RunnerOp} (around : Surroundings) (s : Moment)
    (h : op.silent = true) : (op.effect around s).2.sent = s.sent ∧
      (op.effect around s).2.sequence = s.sequence := by
  cases op <;> first | exact ⟨rfl, rfl⟩ | exact ⟨List.append_nil _, rfl⟩ | cases h

end RunnerOp

namespace ConnectorNodeRunner

variable {α β : Type} {after : RunnerM Unit} {eventType : String} {payload : Mapping}
  {version : Option String}

-- What a program does to the moment, whatever surrounds it.
def Moves (moves : Moment → Moment → Prop) (program : RunnerM α) : Prop :=
  ∀ around s, moves s (program.run around s).2

variable {moves : Moment → Moment → Prop}

theorem Moves.bind [IsTrans Moment moves] {program : RunnerM α} {next : α → RunnerM β}
    (h : Moves moves program) (hnext : ∀ value, Moves moves (next value)) :
    Moves moves (program >>= next) :=
  fun around => Program.Moves.bind (h around) fun value => hnext value around

theorem Moves.catching [IsTrans Moment moves] {program : RunnerM α} {caught : Exit → RunnerM α}
    (h : Moves moves program) (hcaught : ∀ exit, Moves moves (caught exit)) :
    Moves moves (program.catching caught) :=
  fun around => Program.Moves.catching (h around) fun exit => hcaught exit around

theorem Moves.pure [Std.Refl moves] (value : α) : Moves moves (Pure.pure value : RunnerM α) :=
  fun _ s => Std.Refl.refl s

theorem Moves.throw [Std.Refl moves] (exit : Exit) : Moves moves (throw exit : RunnerM α) :=
  fun _ s => Std.Refl.refl s

theorem acts_silent {op : RunnerOp} (h : op.silent = true) : Moves Acts (perform op) := by
  intro around s
  obtain ⟨hsent, hsequence⟩ := RunnerOp.effect_silent around s h
  exact ⟨fun start hs => hs.keep (congrArg events hsent) hsequence,
    [], hsent.trans (List.append_nil _).symm, by simp⟩

theorem Moves.finally' [Std.Refl moves] [IsTrans Moment moves] {program : RunnerM α}
    (h : Moves moves program) (hafter : Moves moves after) : Moves moves (finally' program after) :=
  .bind (.catching h fun exit => .bind hafter fun _ => .throw exit) fun value =>
    .bind hafter fun _ => .pure value

variable (runner : ConnectorNodeRunner) (taskId : String) (plan : ConnectorTaskPlan)

-- An event as it is built at a moment.
def eventAt (s : Moment) (eventType : String) (payload : Mapping) : RunnerEvent where
  taskId := taskId
  nodeId := runner.nodeId
  connectorId := plan.connectorId
  eventType := eventType
  sequence := s.sequence + 1
  payload := payload

theorem event_run (around : Surroundings) (s : Moment) (eventType : String) (payload : Mapping) :
    (runner.event taskId plan eventType payload).run around s =
      (around.awaited s.awaits (.emitEvent (runner.eventAt taskId plan s eventType payload)),
        { s with
          awaits := s.awaits + 1
          sequence := s.sequence + 1
          sent := s.sent ++ [.event (runner.eventAt taskId plan s eventType payload)] }) := rfl

variable {runner} {taskId} {plan}

theorem event_numbers : Moves Numbers (runner.event taskId plan eventType payload) := by
  intro around s start hs
  rw [event_run]
  exact hs.send rfl rfl rfl

theorem event_acts
    (h : eventType ∉ ["task.succeeded", "task.failed", "task.cancelled", "task.interrupted"]) :
    Moves Acts (runner.event taskId plan eventType payload) := by
  intro around s
  refine ⟨event_numbers around s, ?_⟩
  rw [event_run]
  refine ⟨_, rfl, fun item hitem => ?_⟩
  obtain rfl := List.mem_singleton.mp hitem
  exact decide_eq_false h

theorem progress_acts :
    Moves Acts (runner.event taskId plan "task.progress" payload) := event_acts (by decide)

theorem recordEvidence_acts {evidenceType : ConnectorEvidenceType} {status : String}
    {executable : Option String} {details : Mapping} {fingerprint : Option String} :
    Moves Acts (runner.recordEvidence taskId plan evidenceType status executable version details
      fingerprint) := by
  refine .bind (acts_silent rfl) fun origin => .bind (acts_silent rfl) fun evidenceId =>
    .bind (acts_silent rfl) fun createdAt => ?_
  refine fun around s => ⟨fun start hs => hs.keep ?_ rfl, _, rfl, fun item hitem => ?_⟩
  · exact (events_append ..).trans (List.append_nil _)
  · obtain rfl := List.mem_singleton.mp hitem
    rfl

theorem probeVersion_acts {executable : String} : Moves Acts (runner.probeVersion executable) := by
  refine .catching ?_ fun exit => ?_
  · exact .bind (acts_silent rfl) fun _ => .bind (acts_silent rfl) fun _ => .pure _
  · cases exit with
    | cancelled => exact .throw _
    | raised error =>
        dsimp only
        split
        next => exact .pure _
        next => exact .throw _

def Returns (allowed : List ConnectorTaskStatus) (result : Except Exit ConnectorTaskStatus) :
    Prop :=
  ∀ status, result = .ok status → status ∈ allowed

-- The branch of an action sends no terminal event and returns one of these statuses.
structure Branches (allowed : List ConnectorTaskStatus) (program : RunnerM ConnectorTaskStatus) :
    Prop where
  acts : Moves Acts program
  returns : program.Ends (Returns allowed)

variable {allowed : List ConnectorTaskStatus}

theorem Branches.pure {status : ConnectorTaskStatus} (h : status ∈ allowed) :
    Branches allowed (Pure.pure status) :=
  ⟨.pure status, fun _ hstatus => Except.ok.inj hstatus ▸ h⟩

theorem Branches.weaken {more : List ConnectorTaskStatus} {program : RunnerM ConnectorTaskStatus}
    (h : Branches allowed program) (hmore : allowed ⊆ more) : Branches more program :=
  ⟨h.acts, h.returns.mono fun _ hresult status hstatus => hmore (hresult status hstatus)⟩

theorem Branches.fail (type message : String) : Branches allowed (fail type message) :=
  ⟨.throw _, nofun⟩

theorem Branches.bind {program : RunnerM α} {next : α → RunnerM ConnectorTaskStatus}
    (h : Moves Acts program) (hnext : ∀ value, Branches allowed (next value)) :
    Branches allowed (program >>= next) :=
  ⟨.bind h fun value => (hnext value).acts,
    .bind (.of_forall fun _ => trivial) (fun value _ => (hnext value).returns) fun _ _ => nofun⟩

theorem Branches.perform {op : RunnerOp} {next : op.Reply → RunnerM ConnectorTaskStatus}
    (h : op.silent = true) (hnext : ∀ value, Branches allowed (next value)) :
    Branches allowed (ConnectorNodeRunner.perform op >>= next) := .bind (acts_silent h) hnext

theorem Branches.ite {c : Prop} [Decidable c] {first second : RunnerM ConnectorTaskStatus}
    (h : Branches allowed first) (hsecond : Branches allowed second) :
    Branches allowed (if c then first else second) := by
  split
  next => exact h
  next => exact hsecond

theorem Branches.finally' {program : RunnerM ConnectorTaskStatus} (h : Branches allowed program)
    (hafter : Moves Acts after) : Branches allowed (finally' program after) := by
  have hcaught : (program.catching fun exit => do after; throw exit).Ends (Returns allowed) :=
    .catching h.returns (fun _ hvalue => hvalue) fun _ _ =>
      .bind (.of_forall fun _ => trivial) (fun _ _ => nofun) fun _ _ => nofun
  refine ⟨.finally' h.acts hafter, hcaught.bind (fun value hvalue => ?_) fun _ _ => nofun⟩
  exact .bind (.of_forall fun _ => trivial) (fun _ _ => hvalue) fun _ _ => nofun

theorem discover_branches : Branches [.succeeded] (runner.discover taskId plan) := by
  unfold discover
  split
  next =>
    refine .perform rfl fun discovery => .ite ?_ ?_
    · refine .bind recordEvidence_acts fun _ => ?_
      exact .bind recordEvidence_acts fun _ => .pure (by decide)
    · refine .bind recordEvidence_acts fun _ => .ite ?_ (.pure (by decide))
      exact .bind recordEvidence_acts fun _ => .pure (by decide)
  next =>
    refine .perform rfl fun installation => ?_
    refine .bind recordEvidence_acts fun _ => .ite ?_ (.pure (by decide))
    exact .bind recordEvidence_acts fun _ => .pure (by decide)

theorem install_branches : Branches [.succeeded] (runner.install taskId plan) := by
  refine .perform rfl fun _ => .perform rfl fun _ => .perform rfl fun finished => ?_
  refine .ite (.fail ..) (.bind discover_branches.acts fun _ => ?_)
  exact .bind recordEvidence_acts fun _ => .pure (by decide)

theorem repair_branches : Branches [.succeeded] (runner.repair taskId plan) :=
  .bind install_branches.acts fun _ => .pure (by decide)

theorem authenticate_branches : Branches [.waitingForUser] (runner.authenticate taskId plan) := by
  refine .bind (event_acts (by decide)) fun _ => .perform rfl fun _ => .perform rfl fun _ => ?_
  refine .bind (.catching (acts_silent rfl) fun exit => ?_) fun _ => .pure (by decide)
  split
  next => exact progress_acts
  next => exact .throw _

theorem verifyAuthentication_branches :
    Branches [.succeeded, .failed] (runner.verifyAuthentication taskId plan) := by
  unfold verifyAuthentication
  split
  next =>
    refine .perform rfl fun evidence => .perform rfl fun _ => ?_
    refine .bind recordEvidence_acts fun _ => .pure ?_
    split <;> decide
  next =>
    refine .perform rfl fun entry => ?_
    split
    next => exact .fail ..
    next =>
      refine .perform rfl fun _ => .perform rfl fun _ => .perform rfl fun finished => ?_
      refine .bind probeVersion_acts fun _ => .perform rfl fun _ => ?_
      refine .bind recordEvidence_acts fun _ => .pure ?_
      split <;> decide

theorem verifyAdapter_branches : Branches [.succeeded] (runner.verifyAdapter taskId plan) := by
  unfold verifyAdapter
  split
  next =>
    refine .bind progress_acts fun _ => .perform rfl fun result => .ite (.fail ..) ?_
    exact .bind recordEvidence_acts fun _ => .pure (by decide)
  next =>
    refine .perform rfl fun entry => ?_
    dsimp only
    split
    next => exact .fail ..
    next =>
      refine .bind progress_acts fun _ => .perform rfl fun _ => .perform rfl fun _ => ?_
      refine .perform rfl fun finished => .ite (.fail ..) (.bind probeVersion_acts fun _ => ?_)
      exact .bind recordEvidence_acts fun _ => .pure (by decide)

theorem certifyMock_branches : Branches [.succeeded, .failed] (runner.certifyMock taskId plan) := by
  refine .perform rfl fun previous => .perform rfl fun _ => .finally' ?_ (acts_silent rfl)
  refine .bind recordEvidence_acts fun _ => ?_
  exact .bind recordEvidence_acts fun _ => .pure (by decide)

theorem certificationRun_acts : Moves Acts certificationRun := by
  refine .catching (acts_silent rfl) fun exit => ?_
  split
  next => exact .bind (acts_silent rfl) fun _ => .throw _
  next => exact .throw _

theorem certifyWorkspace_branches {connector : RuntimeConnector} {executable fingerprint : String}
    {workspace : CertificationWorkspace} :
    Branches [.succeeded, .failed] (runner.certifyWorkspace taskId plan connector executable
      fingerprint version workspace) := by
  refine .perform rfl fun argv => .bind progress_acts fun _ => .perform rfl fun _ => ?_
  refine .perform rfl fun _ => .bind certificationRun_acts fun finished => .perform rfl fun _ => ?_
  refine .bind progress_acts fun _ => .perform rfl fun verification => ?_
  refine .bind progress_acts fun _ => .bind recordEvidence_acts fun _ => ?_
  refine .bind recordEvidence_acts fun _ => .pure ?_
  split <;> decide

theorem certify_branches : Branches [.succeeded, .failed] (runner.certify taskId plan) := by
  refine .ite (.ite (.fail ..) certifyMock_branches) ?_
  split
  next => exact .ite (.fail ..) certifyMock_branches
  next =>
    refine .perform rfl fun discovery => ?_
    split
    next =>
      refine .ite (.fail ..) (.bind progress_acts fun _ => .perform rfl fun workspace => ?_)
      exact certifyWorkspace_branches
    next => exact .fail ..

-- Only a login waits, and it does nothing else.
theorem branch_branches {action : RunnerM ConnectorTaskStatus}
    (h : runner.branch taskId plan = some action) :
    Branches (if plan.action = .authenticate then [.waitingForUser] else [.succeeded, .failed])
      action := by
  unfold branch at h
  cases haction : plan.action <;> simp only [haction, Option.some.injEq, reduceCtorEq] at h <;>
    subst h
  · exact discover_branches.weaken (by decide)
  · exact install_branches.weaken (by decide)
  · exact repair_branches.weaken (by decide)
  · exact authenticate_branches
  · exact verifyAuthentication_branches
  · exact verifyAdapter_branches.weaken (by decide)
  · exact certify_branches

theorem cancelTask_acts : Moves Acts cancelTask :=
  .bind (acts_silent rfl) fun _ => by
    split
    next => exact acts_silent rfl
    next => exact .pure _

theorem Acts.events_numbers {program : RunnerM α} (h : Moves Acts program) :
    Moves Numbers program := fun around s => (h around s).numbers

theorem handled_numbers (exit : Exit) : Moves Numbers (runner.handled taskId plan exit) := by
  cases exit with
  | cancelled =>
      exact .bind (Acts.events_numbers cancelTask_acts) fun _ =>
        .bind event_numbers fun _ => .throw _
  | raised error =>
      exact .bind event_numbers fun _ =>
        .bind (Acts.events_numbers recordEvidence_acts) fun _ => .pure _

theorem attempt_numbers : Moves Numbers (runner.attempt taskId plan) := by
  unfold attempt
  split
  next => exact .bind event_numbers fun _ => .pure _
  next action haction =>
    refine .bind (Acts.events_numbers (branch_branches haction).acts) fun status => ?_
    split
    next => exact .pure _
    next =>
      have hreport : Moves Numbers (do
          runner.event taskId plan ("task." ++ status.value)
            (.ofList [("action", .str plan.action.value)])
          return status) := .bind event_numbers fun _ => .pure _
      split
      next => exact .bind (Acts.events_numbers (acts_silent rfl)) fun _ => hreport
      next => exact hreport

end ConnectorNodeRunner

-- Before the terminal event, and after it.
inductive Orderly (sent : List Sent) (result : Except Exit ConnectorTaskStatus) : Prop where
  | quiet (hquiet : ∀ item ∈ sent, item.terminal = false)
      (hresult : ∀ status, result = .ok status → status.terminal = false)
  | ended (before : List Sent) (event : RunnerEvent) (hsent : sent = before ++ [.event event])
      (hquiet : ∀ item ∈ before, item.terminal = false) (hterminal : event.terminal)
      (hresult : ∀ status, result = .ok status → event.eventType = "task." ++ status.value)

-- Something follows a terminal event.
def Spoiled (sent : List Sent) : Prop :=
  ∃ before event item after, sent = before ++ .event event :: item :: after ∧ event.terminal

theorem Spoiled.not_disciplined (h : Spoiled sent) : ¬EventDiscipline start sent result := by
  obtain ⟨before, event, item, after, hsent, hterminal⟩ := h
  exact fun hdiscipline =>
    List.cons_ne_nil _ _ (hdiscipline.last before (.event event) _ hsent hterminal)

theorem events_quiet (h : ∀ item ∈ sent, item.terminal = false) :
    ∀ event ∈ events sent, event.terminal = false := by
  intro event hevent
  obtain ⟨item, hitem, hsome⟩ := List.mem_filterMap.mp hevent
  have := h item hitem
  rwa [Sent.terminal, hsome, Option.any_some] at this

theorem Orderly.disciplined (h : Orderly s.sent result) (hnumbered : Numbered start s) :
    EventDiscipline start s.sent result := by
  cases h with
  | quiet hquiet hresult =>
      have hevents := events_quiet hquiet
      refine ⟨hnumbered.consecutive, ?_, ?_, ?_⟩
      · rw [List.countP_eq_zero.mpr fun event hevent => by simp [hevents event hevent]]
        exact Nat.zero_le 1
      · intro before item after hsent hterminal
        have := hquiet item (by simp [hsent])
        simp [this] at hterminal
      · intro status hstatus hterminal
        simp [hresult status hstatus] at hterminal
  | ended before event hsent hquiet hterminal hresult =>
      have hevents := events_quiet hquiet
      have hsplit : events s.sent = events before ++ [event] := by
        rw [hsent, events_append]
        rfl
      refine ⟨hnumbered.consecutive, ?_, ?_, ?_⟩
      · rw [hsplit, List.countP_append,
          List.countP_eq_zero.mpr fun event hevent => by simp [hevents event hevent]]
        simp [hterminal]
      · intro first item after hfirst hitem
        rcases List.eq_nil_or_concat after with rfl | ⟨rest, other, rfl⟩
        · rfl
        · rw [hsent, List.concat_eq_append, ← List.cons_append, ← List.append_assoc] at hfirst
          obtain ⟨rfl, -⟩ := List.append_inj' hfirst rfl
          simp [hquiet item (by simp)] at hitem
      · intro status hstatus hactive
        exact ⟨event, by simp [hsplit], hterminal, hresult status hstatus⟩

namespace ConnectorNodeRunner

variable {α β : Type} (runner : ConnectorNodeRunner) (taskId : String) (plan : ConnectorTaskPlan)
  {eventType : String} {payload : Mapping}

theorem run_bind (program : RunnerM α) (next : α → RunnerM β) (around : Surroundings)
    (s : Moment) : (program >>= next).run around s = match program.run around s with
      | (.ok value, t) => (next value).run around t
      | (.error exit, t) => (.error exit, t) := by
  induction program generalizing s with
  | ended result => cases result <;> rfl
  | await op onward ih => exact ih _ _

theorem run_catching (program : RunnerM α) (caught : Exit → RunnerM α) (around : Surroundings)
    (s : Moment) :
    RunnerM.run (program.catching caught) around s = match program.run around s with
      | (.ok value, t) => (.ok value, t)
      | (.error exit, t) => (caught exit).run around t := by
  induction program generalizing s with
  | ended result => cases result <;> rfl
  | await op onward ih => exact ih _ _

theorem run_catching_bind (program : RunnerM α) (next : α → RunnerM β) (caught : Exit → RunnerM β)
    (around : Surroundings) (s : Moment) :
    RunnerM.run (Program.catching (program >>= next) caught) around s =
      match program.run around s with
      | (.ok value, t) => RunnerM.run (Program.catching (next value) caught) around t
      | (.error exit, t) => (caught exit).run around t := by
  rw [run_catching, run_bind]
  obtain ⟨exit | value, t⟩ := program.run around s
  · rfl
  · exact (run_catching ..).symm

theorem run_return (program : RunnerM α) (value : β) (around : Surroundings) (s : Moment) :
    (RunnerM.run (do let _ ← program; return value) around s).2 = (program.run around s).2 := by
  rw [run_bind]
  obtain ⟨exit | value, t⟩ := program.run around s <;> rfl

-- The sink takes the terminal event of the try block, or its call is cancelled and the
-- cancellation of the task does not come to an end.
def Taken (around : Surroundings) (s : Moment) (eventType : String) (payload : Mapping) : Prop :=
  match (runner.event taskId plan eventType payload).run around s with
  | (.ok (), _) => True
  | (.error (.raised _), _) => False
  | (.error .cancelled, t) => (cancelTask.run around t).1 ≠ .ok ()

-- The sink of events does not take the failure of an action.
def Exited (around : Surroundings) (s : Moment) : Exit → Prop
  | .cancelled => True
  | .raised error =>
      ((runner.event taskId plan "task.failed" (.ofList [("reason", .str error.message)])).run
        around s).1 ≠ .ok ()

-- No failure of the action is taken, and the terminal event of one that returns is.
def Reported (around : Surroundings) (s : Moment) : Prop :=
  match runner.branch taskId plan with
  | none =>
      runner.Taken taskId plan around s "task.failed"
        (.ofList [("reason", .str ("unsupported action " ++ plan.action.value))])
  | some action =>
      match action.run around s with
      | (.error exit, t) => runner.Exited taskId plan around t exit
      | (.ok status, t) =>
          status = .waitingForUser ∨ runner.Taken taskId plan around t ("task." ++ status.value)
            (.ofList [("action", .str plan.action.value)])

-- When a call keeps the discipline: it is the first of its key, and its outcome is
-- reported once, unless the sink has not taken even the first event.
def Undisturbed (sequenceStart : Nat) (around : Surroundings) (s : Moment) : Prop :=
  runner.idempotency taskId plan ∉ s.executedKeys ∧
    match (runner.start taskId plan sequenceStart).run around s with
    | (.error _, _) => True
    | (.ok (), t) => runner.Reported taskId plan around t

variable {runner} {taskId} {plan}

theorem eventAt_terminal {s : Moment}
    (h : eventType ∈ ["task.succeeded", "task.failed", "task.cancelled", "task.interrupted"]) :
    (runner.eventAt taskId plan s eventType payload).terminal = true := decide_eq_true h

theorem cancelTask_sent (around : Surroundings) (s : Moment) :
    (cancelTask.run around s).2.sent = s.sent := by
  have hrun : cancelTask.run around s = RunnerM.run
      (if s.process && around.running s.awaits then perform .terminate else pure ()) around s := rfl
  rw [hrun]
  split
  · exact List.append_nil _
  · rfl

theorem recordEvidence_sent {evidenceType : ConnectorEvidenceType} {status : String}
    {executable version : Option String} {details : Mapping} {fingerprint : Option String}
    (around : Surroundings) (s : Moment) :
    ∃ evidence, ((runner.recordEvidence taskId plan evidenceType status executable version details
      fingerprint).run around s).2.sent = s.sent ++ [.evidence evidence] := ⟨_, rfl⟩

variable {around : Surroundings} {s t : Moment} {result : Except Exit ConnectorTaskStatus}

-- The event of a cancellation is sent where the task has been cancelled.
theorem handled_cancelled
    (h : (runner.handled taskId plan .cancelled).run around s = (result, t)) :
    (∀ status, result ≠ .ok status) ∧
      if (cancelTask.run around s).1 = .ok () then
        ∃ event, event.terminal ∧ t.sent = s.sent ++ [.event event]
      else t.sent = s.sent := by
  have hsent := cancelTask_sent around s
  unfold handled at h
  rw [run_bind] at h
  generalize cancelTask.run around s = cancelled at h hsent ⊢
  obtain ⟨exit | value, middle⟩ := cancelled
  · obtain ⟨rfl, rfl⟩ := Prod.mk.inj h
    exact ⟨nofun, hsent⟩
  · dsimp only at h hsent
    rw [run_bind, event_run, hsent] at h
    rw [if_pos rfl]
    cases hsink : around.awaited middle.awaits _ with
    | ok value =>
        rw [hsink] at h
        obtain ⟨rfl, rfl⟩ := Prod.mk.inj h
        exact ⟨nofun, _, eventAt_terminal (by decide), rfl⟩
    | error exit =>
        rw [hsink] at h
        obtain ⟨rfl, rfl⟩ := Prod.mk.inj h
        exact ⟨nofun, _, eventAt_terminal (by decide), rfl⟩

-- The evidence of a failure follows the terminal event, where the sink has taken it.
theorem handled_raised {error : Raised}
    (h : (runner.handled taskId plan (.raised error)).run around s = (result, t)) :
    ∃ event, event.terminal ∧
      if ((runner.event taskId plan "task.failed" (.ofList [("reason", .str error.message)])).run
          around s).1 = .ok () then
        ∃ evidence, t.sent = s.sent ++ [.event event, .evidence evidence]
      else (∀ status, result ≠ .ok status) ∧ t.sent = s.sent ++ [.event event] := by
  unfold handled at h
  rw [run_bind, event_run] at h
  rw [event_run]
  refine ⟨runner.eventAt taskId plan s "task.failed" (.ofList [("reason", .str error.message)]),
    eventAt_terminal (by decide), ?_⟩
  generalize runner.eventAt taskId plan s "task.failed"
    (.ofList [("reason", .str error.message)]) = event at h ⊢
  cases hsink : around.awaited s.awaits (.emitEvent event) with
  | ok value =>
      rw [hsink] at h
      rw [if_pos rfl]
      have ht : t = _ := (congrArg Prod.snd h).symm.trans (run_return ..)
      rw [ht]
      refine (recordEvidence_sent around _).imp fun evidence hevidence => hevidence.trans ?_
      exact List.append_assoc ..
  | error exit =>
      rw [hsink] at h
      obtain ⟨rfl, rfl⟩ := Prod.mk.inj h
      rw [if_neg nofun]
      exact ⟨nofun, rfl⟩

-- A terminal event of the try block, with the handlers around it.
theorem report_outcome {status : ConnectorTaskStatus}
    (hquiet : ∀ item ∈ s.sent, item.terminal = false) (htype : eventType = "task." ++ status.value)
    (hterminal : eventType ∈ ["task.succeeded", "task.failed", "task.cancelled", "task.interrupted"])
    (h : RunnerM.run (Program.catching (do
      runner.event taskId plan eventType payload
      return status) (runner.handled taskId plan)) around s = (result, t)) :
    (runner.Taken taskId plan around s eventType payload → Orderly t.sent result) ∧
      (¬runner.Taken taskId plan around s eventType payload → Spoiled t.sent) := by
  have hevent : (runner.eventAt taskId plan s eventType payload).terminal = true :=
    eventAt_terminal hterminal
  have hnamed : (runner.eventAt taskId plan s eventType payload).eventType = eventType := rfl
  unfold Taken
  rw [event_run]
  rw [run_catching, run_bind, event_run] at h
  generalize runner.eventAt taskId plan s eventType payload = event at h hevent hnamed ⊢
  cases hsink : around.awaited s.awaits (.emitEvent event) with
  | ok value =>
      rw [hsink] at h
      obtain ⟨rfl, rfl⟩ := Prod.mk.inj h
      refine ⟨fun _ => .ended s.sent event rfl hquiet hevent ?_, fun hnot => absurd trivial hnot⟩
      intro other hother
      cases hother
      exact hnamed.trans htype
  | error exit =>
      rw [hsink] at h
      dsimp only at h ⊢
      cases exit with
      | raised error =>
          obtain ⟨second, hsecond, hrest⟩ := handled_raised h
          refine ⟨False.elim, fun _ => ?_⟩
          split at hrest
          next =>
            obtain ⟨evidence, hsent⟩ := hrest
            exact ⟨s.sent, event, _, _, hsent.trans (List.append_assoc ..), hevent⟩
          next => exact ⟨s.sent, event, _, _, hrest.2.trans (List.append_assoc ..), hevent⟩
      | cancelled =>
          obtain ⟨hresult, hrest⟩ := handled_cancelled h
          split at hrest
          next hdone =>
            obtain ⟨second, -, hsent⟩ := hrest
            exact ⟨fun hnot => absurd hdone hnot,
              fun _ => ⟨s.sent, event, _, _, hsent.trans (List.append_assoc ..), hevent⟩⟩
          next hnot =>
            refine ⟨fun _ => .ended s.sent event hrest hquiet hevent ?_,
              fun htaken => absurd hnot htaken⟩
            exact fun status hstatus => absurd hstatus (hresult status)

-- What the handlers make of an action that does not return.
theorem exit_outcome {exit : Exit} (hquiet : ∀ item ∈ s.sent, item.terminal = false)
    (h : (runner.handled taskId plan exit).run around s = (result, t)) :
    (runner.Exited taskId plan around s exit → Orderly t.sent result) ∧
      (¬runner.Exited taskId plan around s exit → Spoiled t.sent) := by
  cases exit with
  | cancelled =>
      obtain ⟨hresult, hrest⟩ := handled_cancelled h
      refine ⟨fun _ => ?_, fun hnot => absurd trivial hnot⟩
      split at hrest
      next =>
        obtain ⟨event, hevent, hsent⟩ := hrest
        exact .ended _ event hsent hquiet hevent fun status hstatus => absurd hstatus (hresult status)
      next => exact .quiet (hrest ▸ hquiet) fun status hstatus => absurd hstatus (hresult status)
  | raised error =>
      obtain ⟨event, hevent, hrest⟩ := handled_raised h
      split at hrest
      next htaken =>
        obtain ⟨evidence, hsent⟩ := hrest
        exact ⟨fun hnot => absurd htaken hnot, fun _ => ⟨_, event, _, _, hsent, hevent⟩⟩
      next hnot =>
        refine ⟨fun _ => ?_, fun htaken => absurd hnot htaken⟩
        exact .ended _ event hrest.2 hquiet hevent fun status hstatus =>
          absurd hstatus (hrest.1 status)

theorem attempt_outcome (hquiet : ∀ item ∈ s.sent, item.terminal = false)
    (h : RunnerM.run (Program.catching (runner.attempt taskId plan) (runner.handled taskId plan))
      around s = (result, t)) :
    (runner.Reported taskId plan around s → Orderly t.sent result) ∧
      (¬runner.Reported taskId plan around s → Spoiled t.sent) := by
  unfold Reported
  unfold attempt at h
  cases hbranch : runner.branch taskId plan with
  | none =>
      rw [hbranch] at h
      exact report_outcome hquiet rfl (by decide) h
  | some action =>
      rw [hbranch, run_catching_bind] at h
      have hacts := branch_branches hbranch
      have hmoved := (hacts.acts around s).quiet
      have hreturned : Returns _ (action.run around s).1 := hacts.returns.run s
      dsimp only
      generalize action.run around s = outcome at h hmoved hreturned ⊢
      obtain ⟨exit | status, middle⟩ := outcome
      all_goals
        obtain ⟨new, hsent, hnew⟩ := hmoved
        have hmiddle : ∀ item ∈ middle.sent, item.terminal = false := by
          intro item hitem
          rcases List.mem_append.mp (hsent ▸ hitem) with hitem | hitem
          · exact hquiet item hitem
          · exact hnew item hitem
      · exact exit_outcome hmiddle h
      · by_cases haction : plan.action = .authenticate
        · have hstatus := hreturned status rfl
          rw [if_pos haction, List.mem_singleton] at hstatus
          subst hstatus
          dsimp only at h
          rw [if_pos ⟨haction, rfl⟩] at h
          cases h
          exact ⟨fun _ => .quiet hmiddle fun _ hstatus => by cases hstatus; rfl,
            fun hnot => absurd (.inl rfl) hnot⟩
        · have hstatus := hreturned status rfl
          rw [if_neg haction] at hstatus
          dsimp only at h
          rw [if_neg fun hwaits => haction hwaits.1] at h
          rw [if_neg haction] at h
          have hwaits : status ≠ .waitingForUser := by
            rintro rfl
            exact absurd hstatus (by decide)
          have hterminal : "task." ++ status.value ∈
              ["task.succeeded", "task.failed", "task.cancelled", "task.interrupted"] := by
            simp only [List.mem_cons, List.not_mem_nil, or_false] at hstatus
            rcases hstatus with rfl | rfl <;> decide
          obtain ⟨horderly, hspoiled⟩ := report_outcome hmiddle rfl hterminal h
          exact ⟨fun hreported => horderly (hreported.resolve_left hwaits),
            fun hnot => hspoiled fun htaken => hnot (.inr htaken)⟩

theorem start_outcome {sequenceStart : Nat} {outcome : Except Exit Unit}
    (h : (runner.start taskId plan sequenceStart).run around { s with sent := [] } =
      (outcome, t)) :
    Numbered sequenceStart t ∧ ∀ item ∈ t.sent, item.terminal = false := by
  have hstarted : ∃ event, event.terminal = false ∧ event.sequence = sequenceStart + 1 ∧
      t.sequence = sequenceStart + 1 ∧ t.sent = [.event event] := by
    unfold start at h
    split at h
    · obtain ⟨-, rfl⟩ := Prod.mk.inj h
      exact ⟨_, rfl, rfl, rfl, rfl⟩
    · obtain ⟨-, rfl⟩ := Prod.mk.inj h
      exact ⟨_, rfl, rfl, rfl, rfl⟩
  obtain ⟨event, hevent, hnumber, hsequence, hsent⟩ := hstarted
  have hbegun : Numbered sequenceStart { sequence := sequenceStart } := ⟨rfl, rfl⟩
  refine ⟨hbegun.send hnumber hsequence hsent, fun item hitem => ?_⟩
  rw [hsent] at hitem
  obtain rfl := List.mem_singleton.mp hitem
  exact hevent

theorem finally'_run (program : RunnerM α) (around : Surroundings) (s : Moment) :
    (finally' program (perform .dropProcess)).run around s =
      ((program.run around s).1, { (program.run around s).2 with process := false }) := by
  unfold finally'
  rw [run_bind, run_catching]
  obtain ⟨exit | value, t⟩ := program.run around s <;> rfl

variable (runner) (taskId) (plan)

-- A call with its own record of what it sends.
def call (sequenceStart : Nat) (around : Surroundings) (s : Moment) :
    Except Exit ConnectorTaskStatus × Moment :=
  (runner.execute taskId plan sequenceStart).run around { s with sent := [] }

theorem call_run (sequenceStart : Nat) (around : Surroundings) (s : Moment) :
    runner.call taskId plan sequenceStart around s = RunnerM.run
      (if decide (runner.idempotency taskId plan ∈ s.executedKeys) = true then return .succeeded
      else do
        runner.start taskId plan sequenceStart
        finally' ((runner.attempt taskId plan).catching (runner.handled taskId plan))
          (perform .dropProcess)) around { s with sent := [] } := rfl

theorem eventDiscipline_iff (sequenceStart : Nat) (around : Surroundings) (s : Moment) :
    EventDiscipline sequenceStart (runner.call taskId plan sequenceStart around s).2.sent
        (runner.call taskId plan sequenceStart around s).1 ↔
      runner.Undisturbed taskId plan sequenceStart around { s with sent := [] } := by
  unfold Undisturbed
  by_cases hkey : runner.idempotency taskId plan ∈ s.executedKeys
  · rw [call_run, if_pos (decide_eq_true hkey)]
    refine ⟨fun h => ?_, fun h => absurd hkey h.1⟩
    -- A call that repeats a key sends nothing, and returns a success all the same.
    obtain ⟨event, hevent, -⟩ := h.named _ rfl rfl
    cases hevent
  rw [call_run, if_neg (by simpa using hkey), run_bind]
  cases hstart : (runner.start taskId plan sequenceStart).run around { s with sent := [] } with
  | mk outcome started =>
    obtain ⟨hnumbered, hquiet⟩ := start_outcome hstart
    cases outcome with
    | error exit =>
        have hresult : ∀ status, (.error exit : Except Exit ConnectorTaskStatus) = .ok status →
            status.terminal = false := nofun
        exact iff_of_true ((Orderly.quiet hquiet hresult).disciplined hnumbered) ⟨hkey, trivial⟩
    | ok value =>
        dsimp only
        rw [finally'_run]
        cases hattempt : RunnerM.run
          ((runner.attempt taskId plan).catching (runner.handled taskId plan)) around started with
        | mk result t =>
          obtain ⟨horderly, hspoiled⟩ := attempt_outcome hquiet hattempt
          have hmoves : Moves Numbers
              ((runner.attempt taskId plan).catching (runner.handled taskId plan)) :=
            .catching attempt_numbers handled_numbers
          have hnumbers := hmoves around started sequenceStart hnumbered
          rw [hattempt] at hnumbers
          refine ⟨fun h => ⟨hkey, ?_⟩, fun h => (horderly h.2).disciplined hnumbers⟩
          by_contra hnot
          exact (hspoiled hnot).not_disciplined h

end ConnectorNodeRunner

-- The connection is lost when the sink is handed the terminal event.
def brokenSuccess : Surroundings where
  awaited
    | 3, .emitEvent _ => .error (.raised ⟨"ConnectionClosedError", "no close frame received"⟩)
    | _, .emitEvent _ => .ok ()
    | _, .recordEvidence _ => .ok ()
    | _, .discoverHarness _ => .ok none
    | _, _ => .error .cancelled
  computed _ _ := .error ⟨"OSError", "not reached"⟩
  running _ := false
  uuid4 n := "evidence-" ++ toString n
  now _ := 0

def ampPlan : ConnectorTaskPlan where
  planId := "plan-1"
  nodeId := "node-1"
  connectorId := "amp"
  connectorRevision := "1"
  action := .discover
  methodId := "discover"
  executable := "amp"
  arguments := ["--version"]
  packageSource := "https://ampcode.com/manual"
  expectedExecutables := ["amp"]
  riskLevel := "low"
  expiresAt := 60
  planHash := "hash-1"

-- The task is reported to have succeeded, and then to have failed.
theorem success_then_failure :
    ¬∀ (runner : ConnectorNodeRunner) (taskId : String) (plan : ConnectorTaskPlan)
      (sequenceStart : Nat) (around : Surroundings) (s : Moment),
      EventDiscipline sequenceStart (runner.call taskId plan sequenceStart around s).2.sent
        (runner.call taskId plan sequenceStart around s).1 := by
  intro h
  have honce := (h { nodeId := "node-1" } "task-1" ampPlan 0 brokenSuccess {}).once
  revert honce
  decide +kernel

end JoyMesh.Lifecycle
