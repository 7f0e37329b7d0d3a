import JoyMesh.Library.Programs
import JoyMesh.Lifecycle.Models

namespace JoyMesh.Lifecycle

open JoyMesh.Library

-- What the process runs with. The conversions of Python that depend on more than
-- the shape of a value are taken as functions: int(), dict() and what the
-- database driver binds to a text column.
structure Setup where
  setting : Connectors.Setting
  callbacks : Nat := 1
  inlineNode : Bool := false
  int : Value → Except Raised Int
  dict : Value → Except Raised Mapping
  column : Value → Except Raised (Option String)

-- The tables of the lifecycle, and what the process keeps in memory: the plans of
-- the planner, the terminals that the ingestor has seen, and the background tasks
-- that have been created and have not begun. No id that uuid4 has given is given
-- a second time.
structure Shared where
  clock : Time := 0
  tasks : Table String ConnectorTaskRecord := ∅
  plans : Table String ConnectorTaskPlan := ∅
  events : List ConnectorTaskEvent := []
  evidence : Connectors.LifecycleStore := .initial []
  plannerPlans : Table String ConnectorTaskPlan := ∅
  seenTerminals : List String := []
  background : List (String × ConnectorTaskPlan) := []
  issued : List String := []

-- The awaited operations, each one database session or one call of a callback, and
-- the pieces of code between two awaits that touch what the process shares.
inductive Op where
  | readTask (taskId : String)
  | updateTask (taskId : String) (loaded changed : ConnectorTaskRecord)
  | insertTask (task : ConnectorTaskRecord)
  | listActive (nodeId : String)
  | readPlan (planId : String)
  | insertPlan (plan : ConnectorTaskPlan)
  | insertEvent (event : ConnectorTaskEvent)
  | insertEvidence (evidence : ConnectorEvidence)
  | applySideEffects (evidence : ConnectorEvidence)
  | recompute (nodeId connectorId : String)
  | offer (task : ConnectorTaskRecord) (plan : ConnectorTaskPlan)
  | plannerPlan (planId : String)
  | plan (nodeId connectorId : String) (action : ConnectorAction)
  | putPlan (plan : ConnectorTaskPlan)
  | present (plan : ConnectorTaskPlan) (planHash : String) (approved : Bool)
  | seeTerminal (taskId : String)
  | createTask (taskId : String) (plan : ConnectorTaskPlan)
  | uuid4
  | now

namespace Op

@[reducible] def Reply : Op → Type
  | readTask _ => Option ConnectorTaskRecord
  | listActive _ => List ConnectorTaskRecord
  | readPlan _ => Option ConnectorTaskPlan
  | offer _ _ => Bool
  | plannerPlan _ => Option ConnectorTaskPlan
  | plan _ _ _ => ConnectorTaskPlan
  | seeTerminal _ => Bool
  | uuid4 => String
  | now => Time
  | _ => Unit

-- An operation that can raise for a reason of its own.
def fallible : Op → Bool
  | plannerPlan _ => false
  | putPlan _ => false
  | present _ _ _ => false
  | seeTerminal _ => false
  | createTask _ _ => false
  | uuid4 => false
  | now => false
  | _ => true

end Op

@[reducible] def signature : Signature where
  Op := Op
  Reply := Op.Reply
  Error := Raised

abbrev LifecycleM := Program signature

@[reducible] def perform (op : Op) : LifecycleM op.Reply := @Program.perform signature op

-- What the environment decides at an operation.
inductive Choice where
  | done
  | listed (found : List ConnectorTaskRecord)
  | offered (taken : Bool)
  | planned (plan : ConnectorTaskPlan)
  | generated (id : String)
  | raised (error : Raised)
deriving DecidableEq

namespace ConnectorTaskRecord

-- A session writes the columns that differ from what it has loaded.
def flush (row loaded changed : ConnectorTaskRecord) : ConnectorTaskRecord :=
  { row with
    status := if changed.status = loaded.status then row.status else changed.status
    version := if changed.version = loaded.version then row.version else changed.version
    startedAt := if changed.startedAt = loaded.startedAt then row.startedAt else changed.startedAt
    finishedAt :=
      if changed.finishedAt = loaded.finishedAt then row.finishedAt else changed.finishedAt
    detail := if changed.detail = loaded.detail then row.detail else changed.detail }

-- The row as the readiness service reads it.
def row (task : ConnectorTaskRecord) : Connectors.ConnectorTaskRow where
  id := task.taskId
  nodeId := task.nodeId
  connectorId := task.connectorId
  action := task.action.value
  status := task.status
  startedAt := task.startedAt

end ConnectorTaskRecord

namespace Shared

variable (s : Shared)

def activeTasks (nodeId : String) : List ConnectorTaskRecord :=
  s.tasks.select fun task => task.nodeId = nodeId && task.status.active

-- ConnectorPlanner.validate
def validate (plan : ConnectorTaskPlan) : Except Raised Unit :=
  match s.plannerPlans.lookup plan.planId with
  | none => .error (keyError ("unknown or expired connector plan: " ++ plan.planId))
  | some stored =>
      if stored.planHash ≠ plan.planHash ∨ stored ≠ plan then
        .error (connectorPlanError "connector plan does not match the backend-generated plan")
      else if plan.expiresAt ≤ s.clock then
        .error (connectorPlanError "connector plan has expired")
      else .ok ()

def putPlan (plan : ConnectorTaskPlan) : Shared :=
  { s with plannerPlans := s.plannerPlans.insert plan.planId plan }

-- Whether a plan that is put back into memory can be approved with this hash.
def presents (plan : ConnectorTaskPlan) (planHash : String) (approved : Bool) :
    Except Raised Unit := do
  (s.putPlan plan).validate plan
  if ¬approved ∨ plan.planHash ≠ planHash then
    throw (permissionError "exact connector plan approval required")

def withTasks : Connectors.LifecycleStore :=
  { s.evidence with tasks := s.tasks.values.map ConnectorTaskRecord.row }

end Shared

def storeError : Connectors.StoreFailure → Raised
  | .unknownConnector connectorId => keyError connectorId
  | .duplicateEvidence evidenceId => integrityError evidenceId
  | .naiveTime => ⟨"TypeError", "can't compare offset-naive and offset-aware datetimes"⟩

-- The operation of a call, done at one instant. Every insert is checked against the
-- primary key of its table.
def respond (setup : Setup) :
    (op : Op) → Choice → Shared → Option (Except Raised op.Reply × Shared)
  | .readTask taskId, .done, s => some (.ok (s.tasks.lookup taskId), s)
  | .updateTask taskId loaded changed, .done, s =>
      match s.tasks.lookup taskId with
      | none => none
      | some row =>
          some (.ok (), { s with tasks := s.tasks.insert taskId (row.flush loaded changed) })
  | .insertTask task, .done, s =>
      if (s.tasks.lookup task.taskId).isSome then some (.error (integrityError task.taskId), s)
      else some (.ok (), { s with tasks := s.tasks.insert task.taskId task })
  | .listActive nodeId, .listed found, s =>
      if found.Perm (s.activeTasks nodeId) ∧
          found.Pairwise (NotOlder fun task => Connectors.nullsLast task.startedAt) then
        some (.ok found, s)
      else none
  | .readPlan planId, .done, s => some (.ok (s.plans.lookup planId), s)
  | .insertPlan plan, .done, s =>
      if (s.plans.lookup plan.planId).isSome then some (.error (integrityError plan.planId), s)
      else some (.ok (), { s with plans := s.plans.insert plan.planId plan })
  | .insertEvent event, .done, s =>
      if s.events.any (·.eventId == event.eventId) then
        some (.error (integrityError event.eventId), s)
      else some (.ok (), { s with events := s.events ++ [event] })
  | .insertEvidence evidence, .done, s =>
      if s.evidence.evidence.any (·.evidenceId == evidence.evidenceId) then
        some (.error (storeError (.duplicateEvidence evidence.evidenceId)), s)
      else
        some (.ok (), { s with
          evidence := { s.evidence with evidence := s.evidence.evidence ++ [evidence] } })
  | .applySideEffects evidence, .done, s =>
      some (.ok (), { s with evidence := s.evidence.applyEvidenceSideEffects evidence })
  | .recompute nodeId connectorId, .done, s =>
      match s.withTasks.recompute nodeId connectorId setup.setting s.clock with
      | (.error failure, _) => some (.error (storeError failure), s)
      | (.ok _, evidence) => some (.ok (), { s with evidence := evidence })
  | .offer _ _, .offered taken, s => some (.ok taken, s)
  | .plannerPlan planId, .done, s => some (.ok (s.plannerPlans.lookup planId), s)
  | .plan nodeId connectorId action, .planned plan, s =>
      if plan.nodeId = nodeId ∧ plan.connectorId = connectorId ∧ plan.action = action ∧
          plan.planId ∉ s.issued then
        some (.ok plan, { s.putPlan plan with issued := plan.planId :: s.issued })
      else none
  | .putPlan plan, .done, s => some (.ok (), s.putPlan plan)
  | .present plan planHash approved, .done, s =>
      some (s.presents plan planHash approved, s.putPlan plan)
  | .seeTerminal taskId, .done, s =>
      if taskId ∈ s.seenTerminals then some (.ok true, s)
      else some (.ok false, { s with seenTerminals := taskId :: s.seenTerminals })
  | .createTask taskId plan, .done, s =>
      some (.ok (), { s with background := s.background ++ [(taskId, plan)] })
  | .uuid4, .generated id, s =>
      if id ∈ s.issued then none else some (.ok id, { s with issued := id :: s.issued })
  | .now, .done, s => some (.ok s.clock, s)
  | _, _, _ => none

-- An operation that raises for a reason of its own has no effect.
def effect (setup : Setup) (op : Op) (choice : Choice) (s : Shared) :
    Option (Except Raised op.Reply × Shared) :=
  match choice with
  | .raised error => if op.fallible then some (.error error, s) else none
  | choice => respond setup op choice s

section Effects

variable {setup : Setup} {choice : Choice} {s t : Shared} {taskId : String}

-- What each operation can do.
inductive Effect (setup : Setup) (s : Shared) :
    (op : Op) → Choice → Except Raised op.Reply → Shared → Prop
  | raised {op : Op} {error : Raised} (hfallible : op.fallible = true) :
      Effect setup s op (.raised error) (.error error) s
  | readTask {taskId : String} :
      Effect setup s (.readTask taskId) .done (.ok (s.tasks.lookup taskId)) s
  | updateTask {taskId : String} {loaded changed row : ConnectorTaskRecord}
      (hl : s.tasks.lookup taskId = some row) :
      Effect setup s (.updateTask taskId loaded changed) .done (.ok ())
        { s with tasks := s.tasks.insert taskId (row.flush loaded changed) }
  | taskTaken {task : ConnectorTaskRecord} :
      Effect setup s (.insertTask task) .done (.error (integrityError task.taskId)) s
  | insertTask {task : ConnectorTaskRecord} (hnew : s.tasks.lookup task.taskId = none) :
      Effect setup s (.insertTask task) .done (.ok ())
        { s with tasks := s.tasks.insert task.taskId task }
  | listActive {nodeId : String} {found : List ConnectorTaskRecord}
      (hperm : found.Perm (s.activeTasks nodeId)) :
      Effect setup s (.listActive nodeId) (.listed found) (.ok found) s
  | readPlan {planId : String} :
      Effect setup s (.readPlan planId) .done (.ok (s.plans.lookup planId)) s
  | planTaken {plan : ConnectorTaskPlan} :
      Effect setup s (.insertPlan plan) .done (.error (integrityError plan.planId)) s
  | insertPlan {plan : ConnectorTaskPlan} (hnew : s.plans.lookup plan.planId = none) :
      Effect setup s (.insertPlan plan) .done (.ok ())
        { s with plans := s.plans.insert plan.planId plan }
  | eventTaken {event : ConnectorTaskEvent} (hold : s.events.any (·.eventId == event.eventId)) :
      Effect setup s (.insertEvent event) .done (.error (integrityError event.eventId)) s
  | insertEvent {event : ConnectorTaskEvent} :
      Effect setup s (.insertEvent event) .done (.ok ()) { s with events := s.events ++ [event] }
  | evidenceTaken {evidence : ConnectorEvidence}
      (hold : s.evidence.evidence.any (·.evidenceId == evidence.evidenceId)) :
      Effect setup s (.insertEvidence evidence) .done
        (.error (storeError (.duplicateEvidence evidence.evidenceId))) s
  | insertEvidence {evidence : ConnectorEvidence} :
      Effect setup s (.insertEvidence evidence) .done (.ok ()) { s with
        evidence := { s.evidence with evidence := s.evidence.evidence ++ [evidence] } }
  | applySideEffects {evidence : ConnectorEvidence} :
      Effect setup s (.applySideEffects evidence) .done (.ok ())
        { s with evidence := s.evidence.applyEvidenceSideEffects evidence }
  | recomputeFails {nodeId connectorId : String} {failure : Connectors.StoreFailure}
      {evidence : Connectors.LifecycleStore}
      (hfails : s.withTasks.recompute nodeId connectorId setup.setting s.clock =
        (.error failure, evidence)) :
      Effect setup s (.recompute nodeId connectorId) .done (.error (storeError failure)) s
  | recompute {nodeId connectorId : String} {evidence : Connectors.LifecycleStore} :
      Effect setup s (.recompute nodeId connectorId) .done (.ok ()) { s with evidence := evidence }
  | offer {task : ConnectorTaskRecord} {plan : ConnectorTaskPlan} {taken : Bool} :
      Effect setup s (.offer task plan) (.offered taken) (.ok taken) s
  | plannerPlan {planId : String} :
      Effect setup s (.plannerPlan planId) .done (.ok (s.plannerPlans.lookup planId)) s
  | plan {nodeId connectorId : String} {action : ConnectorAction} {plan : ConnectorTaskPlan}
      (hnode : plan.nodeId = nodeId) (hconnector : plan.connectorId = connectorId)
      (haction : plan.action = action) (hissued : plan.planId ∉ s.issued) :
      Effect setup s (.plan nodeId connectorId action) (.planned plan) (.ok plan)
        { s.putPlan plan with issued := plan.planId :: s.issued }
  | putPlan {plan : ConnectorTaskPlan} :
      Effect setup s (.putPlan plan) .done (.ok ()) (s.putPlan plan)
  | present {plan : ConnectorTaskPlan} {planHash : String} {approved : Bool} :
      Effect setup s (.present plan planHash approved) .done
        (s.presents plan planHash approved) (s.putPlan plan)
  | seen {taskId : String} (hseen : taskId ∈ s.seenTerminals) :
      Effect setup s (.seeTerminal taskId) .done (.ok true) s
  | seeTerminal {taskId : String} (hnew : taskId ∉ s.seenTerminals) :
      Effect setup s (.seeTerminal taskId) .done (.ok false)
        { s with seenTerminals := taskId :: s.seenTerminals }
  | createTask {taskId : String} {plan : ConnectorTaskPlan} :
      Effect setup s (.createTask taskId plan) .done (.ok ())
        { s with background := s.background ++ [(taskId, plan)] }
  | uuid4 {id : String} (hissued : id ∉ s.issued) :
      Effect setup s .uuid4 (.generated id) (.ok id) { s with issued := id :: s.issued }
  | now : Effect setup s .now .done (.ok s.clock) s

theorem effect_inv {op : Op} {answer : Except Raised op.Reply}
    (h : effect setup op choice s = some (answer, t)) : Effect setup s op choice answer t := by
  cases choice with
  | raised error =>
      simp only [effect] at h
      split at h
      next hfallible =>
        obtain ⟨rfl, rfl⟩ := Prod.mk.inj (Option.some.inj h)
        exact .raised hfallible
      · cases h
  | done =>
      cases op with
      | readTask => cases h; exact .readTask
      | updateTask taskId loaded changed =>
          simp only [effect, respond] at h
          split at h
          · cases h
          next row hl => cases h; exact .updateTask hl
      | insertTask task =>
          simp only [effect, respond] at h
          split at h
          next => cases h; exact .taskTaken
          next hnew => cases h; exact .insertTask (by simpa using hnew)
      | readPlan => cases h; exact .readPlan
      | insertPlan plan =>
          simp only [effect, respond] at h
          split at h
          next => cases h; exact .planTaken
          next hnew => cases h; exact .insertPlan (by simpa using hnew)
      | insertEvent event =>
          simp only [effect, respond] at h
          split at h
          next hold => cases h; exact .eventTaken hold
          next => cases h; exact .insertEvent
      | insertEvidence evidence =>
          simp only [effect, respond] at h
          split at h
          next hold => cases h; exact .evidenceTaken hold
          next => cases h; exact .insertEvidence
      | applySideEffects => cases h; exact .applySideEffects
      | recompute nodeId connectorId =>
          simp only [effect, respond] at h
          split at h
          next failure evidence hfails => cases h; exact .recomputeFails hfails
          next => cases h; exact .recompute
      | plannerPlan => cases h; exact .plannerPlan
      | putPlan => cases h; exact .putPlan
      | present => cases h; exact .present
      | seeTerminal taskId =>
          simp only [effect, respond] at h
          split at h
          next hseen => cases h; exact .seen hseen
          next hnew => cases h; exact .seeTerminal hnew
      | createTask => cases h; exact .createTask
      | now => cases h; exact .now
      | _ => cases h
  | listed found =>
      cases op with
      | listActive nodeId =>
          simp only [effect, respond] at h
          split at h
          next hfound => cases h; exact .listActive hfound.1
          next => cases h
      | _ => cases h
  | offered taken =>
      cases op with
      | offer => cases h; exact .offer
      | _ => cases h
  | planned plan =>
      cases op with
      | plan nodeId connectorId action =>
          simp only [effect, respond] at h
          split at h
          next hplan => cases h; exact .plan hplan.1 hplan.2.1 hplan.2.2.1 hplan.2.2.2
          next => cases h
      | _ => cases h
  | generated id =>
      cases op with
      | uuid4 =>
          simp only [effect, respond] at h
          split at h
          next => cases h
          next hissued => cases h; exact .uuid4 hissued
      | _ => cases h

theorem effect_readTask {answer : Except Raised (Option ConnectorTaskRecord)}
    (h : effect setup (.readTask taskId) choice s = some (answer, t)) :
    t = s ∧ ∀ found, answer = .ok found → found = s.tasks.lookup taskId := by
  cases effect_inv h with
  | raised => exact ⟨rfl, fun found hf => by cases hf⟩
  | readTask => exact ⟨rfl, fun found hf => (Except.ok.inj hf).symm⟩

theorem effect_present {plan : ConnectorTaskPlan} {planHash : String} {approved : Bool}
    {answer : Except Raised Unit}
    (h : effect setup (.present plan planHash approved) choice s = some (answer, t)) :
    answer = s.presents plan planHash approved ∧ t = s.putPlan plan := by
  cases effect_inv h with
  | raised hfallible => cases hfallible
  | present => exact ⟨rfl, rfl⟩

theorem effect_updateTask {loaded changed : ConnectorTaskRecord} {answer : Except Raised Unit}
    (h : effect setup (.updateTask taskId loaded changed) choice s = some (answer, t)) :
    (t = s ∧ ∃ error, answer = .error error) ∨
      choice = .done ∧ answer = .ok () ∧ ∃ row, s.tasks.lookup taskId = some row ∧
        t = { s with tasks := s.tasks.insert taskId (row.flush loaded changed) } := by
  cases effect_inv h with
  | raised => exact .inl ⟨rfl, _, rfl⟩
  | updateTask hl => exact .inr ⟨rfl, rfl, _, hl, rfl⟩

end Effects

namespace ConnectorLifecycleStore

def getPlan (planId : String) : LifecycleM ConnectorTaskPlan := do
  match ← perform (.readPlan planId) with
  | none => throw (keyError ("unknown or expired connector plan: " ++ planId))
  | some plan => return plan

def getTask (taskId : String) : LifecycleM ConnectorTaskRecord := do
  match ← perform (.readTask taskId) with
  | none => throw (keyError ("unknown connector task: " ++ taskId))
  | some task => return task

def createTaskFromPlan (plan : ConnectorTaskPlan) (previousTaskId : Option String := none) :
    LifecycleM ConnectorTaskRecord := do
  let taskId ← perform .uuid4
  let createdAt ← perform .now
  let record : ConnectorTaskRecord :=
    { taskId := taskId
      planId := plan.planId
      nodeId := plan.nodeId
      connectorId := plan.connectorId
      connectorRevision := plan.connectorRevision
      action := plan.action
      planHash := plan.planHash
      status := .queued
      idempotencyKey := plan.nodeId ++ ":" ++ taskId ++ ":" ++ plan.planHash
      previousTaskId := previousTaskId
      createdAt := createdAt }
  perform (.insertTask record)
  return record

def transitionTask (taskId : String) (expectedVersion : Nat) (status : ConnectorTaskStatus)
    (detail : Option String := none) (startedAt finishedAt : Option Time := none) :
    LifecycleM ConnectorTaskRecord := do
  match ← perform (.readTask taskId) with
  | none => throw (keyError ("unknown connector task: " ++ taskId))
  | some row =>
      if row.version ≠ expectedVersion then throw (valueError "connector task version conflict")
      else if row.status.terminal then throw (valueError "connector task already terminal")
      else
        perform (.updateTask taskId row
          { row with
            status := status
            version := expectedVersion + 1
            detail := detail.or row.detail
            startedAt := startedAt.or row.startedAt
            finishedAt := finishedAt.or row.finishedAt })
        getTask taskId

def appendTaskEvent (event : ConnectorTaskEvent) : LifecycleM ConnectorTaskEvent := do
  let task ← getTask event.taskId
  if task.nodeId ≠ event.nodeId ∨ task.connectorId ≠ event.connectorId then
    throw (valueError "connector task event identity mismatch")
  else if task.status.terminal then
    throw (valueError "cannot append events to terminal connector task")
  else
    perform (.insertEvent event)
    return event

def recordEvidence (evidence : ConnectorEvidence) : LifecycleM ConnectorEvidence := do
  perform (.insertEvidence evidence)
  perform (.applySideEffects evidence)
  perform (.recompute evidence.nodeId evidence.connectorId)
  return evidence

variable {kind : Op → Prop}

theorem getTask_every {taskId : String} (hread : kind (.readTask taskId)) :
    (getTask taskId).Every kind := by
  refine .perform_bind hread fun found => ?_
  cases found <;> trivial

-- Whoever commits, it is over an active row that it has read with the version it
-- was called with, and the version it writes is the next one.
theorem transitionTask_every {taskId : String} {expectedVersion : Nat}
    {status : ConnectorTaskStatus} {detail : Option String} {startedAt finishedAt : Option Time}
    (hread : kind (.readTask taskId))
    (hupdate : ∀ loaded changed : ConnectorTaskRecord, loaded.status.terminal = false →
      loaded.version = expectedVersion → changed.version = loaded.version + 1 →
        changed.status = status → kind (.updateTask taskId loaded changed)) :
    (transitionTask taskId expectedVersion status detail startedAt finishedAt).Every kind := by
  refine .perform_bind hread fun found => ?_
  cases found with
  | none => trivial
  | some row =>
      dsimp only
      split
      next => trivial
      next hversion =>
        split
        next => trivial
        next hactive =>
          have hmine := not_not.mp hversion
          refine .perform_bind (hupdate row _ ?_ hmine ?_ rfl) fun _ => getTask_every hread
          · simpa using hactive
          · rw [hmine]

end ConnectorLifecycleStore

end JoyMesh.Lifecycle
