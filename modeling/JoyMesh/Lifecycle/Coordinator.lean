import JoyMesh.Lifecycle.Ingestor

namespace JoyMesh.Lifecycle

open JoyMesh.Library ConnectorLifecycleStore

-- What a runner hands to the sinks of _run_on_node.
inductive Sink where
  | event (event : ConnectorTaskEvent)
  | evidence (evidence : ConnectorEvidence)

namespace ConnectorLifecycleCoordinator

def persistPlan (plan : ConnectorTaskPlan) : LifecycleM ConnectorTaskPlan := do
  perform (.putPlan plan)
  perform (.insertPlan plan)
  return plan

def planConnectorTask (nodeId connectorId : String) (action : ConnectorAction) :
    LifecycleM ConnectorTaskPlan :=
  perform (.plan nodeId connectorId action)

def planAndPersistConnectorTask (nodeId connectorId : String) (action : ConnectorAction) :
    LifecycleM ConnectorTaskPlan := do
  let plan ← perform (.plan nodeId connectorId action)
  persistPlan plan

-- The plan that is to be approved: what is stored, or what the planner remembers,
-- which is stored then.
def approvedPlan (planId : String) : LifecycleM ConnectorTaskPlan :=
  (getPlan planId).catching fun error => do
    if error.type = "KeyError" then
      match ← perform (.plannerPlan planId) with
      | none => throw (keyError ("unknown or expired connector plan: " ++ planId))
      | some plan =>
          perform (.insertPlan plan)
          return plan
    else throw error

-- The statuses listed by hand, in which a login counts as active.
def activeLogin (plan : ConnectorTaskPlan) (task : ConnectorTaskRecord) : Bool :=
  task.connectorId = plan.connectorId && task.action = .authenticate &&
    match task.status with
    | .waitingForUser | .waitingForAuthCallback | .queued | .offeredToNode | .acceptedByNode
    | .running => true
    | _ => false

def findActiveLogin (plan : ConnectorTaskPlan) : LifecycleM (Option ConnectorTaskRecord) := do
  let tasks ← perform (.listActive plan.nodeId)
  return tasks.find? (activeLogin plan)

-- Every callback is called.
def offerAll (task : ConnectorTaskRecord) (plan : ConnectorTaskPlan) :
    Nat → Bool → LifecycleM Bool
  | 0, offered => return offered
  | callbacks + 1, offered => do
      let result ← perform (.offer task plan)
      offerAll task plan callbacks (offered || result)

-- No callback is called after one that has taken the task.
def offerUntilTaken (task : ConnectorTaskRecord) (plan : ConnectorTaskPlan) :
    Nat → Bool → LifecycleM Bool
  | 0, offered => return offered
  | callbacks + 1, true => offerUntilTaken task plan callbacks true
  | callbacks + 1, false => do
      let result ← perform (.offer task plan)
      offerUntilTaken task plan callbacks result

def startInline (task : ConnectorTaskRecord) (plan : ConnectorTaskPlan) :
    LifecycleM ConnectorTaskRecord := do
  let task ← transitionTask task.taskId task.version .offeredToNode
  perform (.createTask task.taskId plan)
  return task

def queue (setup : Setup) (plan : ConnectorTaskPlan) : LifecycleM ConnectorTaskRecord := do
  let task ← createTaskFromPlan plan
  let offered ← offerAll task plan setup.callbacks false
  if offered then transitionTask task.taskId task.version .offeredToNode
  else if setup.inlineNode then startInline task plan
  else getTask task.taskId

def approveAndQueue (setup : Setup) (planId planHash : String) (approved : Bool) :
    LifecycleM ConnectorTaskRecord := do
  let plan ← approvedPlan planId
  perform (.present plan planHash approved)
  if plan.action = .authenticate then
    match ← findActiveLogin plan with
    | some existing => return existing
    | none => queue setup plan
  else queue setup plan

def offerQueued (setup : Setup) : List ConnectorTaskRecord → LifecycleM (List ConnectorTaskRecord)
  | [] => return []
  | task :: rest => do
      if task.status ≠ .queued then offerQueued setup rest
      else
        let plan ← getPlan task.planId
        let success ← offerUntilTaken task plan setup.callbacks false
        if success then
          let offered ← transitionTask task.taskId task.version .offeredToNode
          let others ← offerQueued setup rest
          return offered :: others
        else offerQueued setup rest

def offerQueuedTasks (setup : Setup) (nodeId : String) : LifecycleM (List ConnectorTaskRecord) := do
  let tasks ← perform (.listActive nodeId)
  offerQueued setup tasks

def finalizeTask (taskId : String) (status : ConnectorTaskStatus) : LifecycleM Unit := do
  let task ← getTask taskId
  if task.status.terminal then return ()
  else
    let finishedAt ← perform .now
    let _ ← transitionTask taskId task.version status none none (some finishedAt)
    perform (.recompute task.nodeId task.connectorId)

def emitEvent (taskId : String) (event : ConnectorTaskEvent) : LifecycleM Unit := do
  let current ← getTask taskId
  if current.status.terminal then return ()
  else if event.eventType ∈ ["task.succeeded", "task.failed", "task.cancelled", "task.expired",
      "task.interrupted"] then return ()
  else
    let _ ← appendTaskEvent event
    return ()

-- Nothing that runs inline passes for a remote node.
def inlineEvidence (evidence : ConnectorEvidence) : ConnectorEvidence :=
  if evidence.executionOrigin = .remoteNode then
    { evidence with
      details := evidence.details.update (.ofList [
        ("execution_origin", .str Connectors.ConnectorExecutionOrigin.inlineDevelopment.value),
        ("trust_level", .str Connectors.EvidenceTrustLevel.development.value)])
      trustLevel := .development
      executionOrigin := .inlineDevelopment }
  else evidence

def Sink.call (taskId : String) : Sink → LifecycleM Unit
  | .event event => emitEvent taskId event
  | .evidence evidence => do
      let _ ← recordEvidence (inlineEvidence evidence)
      return ()

-- The runner calls the sinks one after another; what it does about one that raises
-- shows in the calls that follow and in how it ends.
def execute (taskId : String) : List Sink → LifecycleM Unit
  | [] => return ()
  | sink :: rest => do
      (Sink.call taskId sink).catching fun _ => return ()
      execute taskId rest

def runOnNode (taskId : String) (plan : ConnectorTaskPlan) (sinks : List Sink)
    (final : Except Raised ConnectorTaskStatus) : LifecycleM Unit := do
  let task ← getTask taskId
  let startedAt ← perform .now
  let task ← transitionTask taskId task.version .acceptedByNode none (some startedAt)
  let _ ← transitionTask taskId task.version .running
  execute taskId sinks
  let final ← ConnectorTaskEventIngestor.ofExcept final
  if final.terminal then finalizeTask taskId final
  else
    let current ← getTask taskId
    if current.status.terminal then return ()
    else
      let _ ← transitionTask taskId current.version final
      perform (.recompute plan.nodeId plan.connectorId)

def cancelTask (taskId : String) : LifecycleM ConnectorTaskRecord := do
  let task ← getTask taskId
  if task.status.terminal then return task
  else
    let finishedAt ← perform .now
    let updated ← transitionTask taskId task.version .cancelled none none (some finishedAt)
    perform (.recompute task.nodeId task.connectorId)
    return updated

def retryTask (setup : Setup) (taskId : String) : LifecycleM ConnectorTaskRecord := do
  let previous ← getTask taskId
  if previous.status ∉ [.failed, .cancelled, .interrupted, .expired] then
    throw (valueError "only failed or cancelled tasks can retry")
  else
    let plan ← getPlan previous.planId
    let task ← createTaskFromPlan plan (some previous.taskId)
    let offered ← offerUntilTaken task plan setup.callbacks false
    if offered then transitionTask task.taskId task.version .offeredToNode
    else if setup.inlineNode then startInline task plan
    else return task

def authenticationComplete (setup : Setup) (taskId : String) :
    LifecycleM ConnectorTaskRecord := do
  let task ← getTask taskId
  if task.status ∉ [.waitingForUser, .waitingForAuthCallback, .running, .succeeded] then
    throw (valueError "task is not waiting for authentication")
  else
    let plan ← planAndPersistConnectorTask task.nodeId task.connectorId .verifyAuthentication
    if task.status.terminal then approveAndQueue setup plan.planId plan.planHash true
    else
      let finishedAt ← perform .now
      let _ ← transitionTask taskId task.version .succeeded none none (some finishedAt)
      approveAndQueue setup plan.planId plan.planHash true

end ConnectorLifecycleCoordinator

inductive Call where
  | planConnectorTask (nodeId connectorId : String) (action : ConnectorAction)
  | planAndPersistConnectorTask (nodeId connectorId : String) (action : ConnectorAction)
  | approveAndQueue (planId planHash : String) (approved : Bool)
  | offerQueuedTasks (nodeId : String)
  | runOnNode (taskId : String) (plan : ConnectorTaskPlan) (sinks : List Sink)
      (final : Except Raised ConnectorTaskStatus)
  | cancelTask (taskId : String)
  | retryTask (taskId : String)
  | authenticationComplete (taskId : String)
  | ingest (message : ProtocolMessage)

-- What a call returns.
inductive Answer where
  | plan (plan : ConnectorTaskPlan)
  | record (task : ConnectorTaskRecord)
  | records (tasks : List ConnectorTaskRecord)
  | done

def Call.program (setup : Setup) : Call → LifecycleM Answer
  | .planConnectorTask nodeId connectorId action =>
      .plan <$> ConnectorLifecycleCoordinator.planConnectorTask nodeId connectorId action
  | .planAndPersistConnectorTask nodeId connectorId action =>
      .plan <$> ConnectorLifecycleCoordinator.planAndPersistConnectorTask nodeId connectorId action
  | .approveAndQueue planId planHash approved =>
      .record <$> ConnectorLifecycleCoordinator.approveAndQueue setup planId planHash approved
  | .offerQueuedTasks nodeId =>
      .records <$> ConnectorLifecycleCoordinator.offerQueuedTasks setup nodeId
  | .runOnNode taskId plan sinks final =>
      (fun _ => .done) <$> ConnectorLifecycleCoordinator.runOnNode taskId plan sinks final
  | .cancelTask taskId => .record <$> ConnectorLifecycleCoordinator.cancelTask taskId
  | .retryTask taskId => .record <$> ConnectorLifecycleCoordinator.retryTask setup taskId
  | .authenticationComplete taskId =>
      .record <$> ConnectorLifecycleCoordinator.authenticationComplete setup taskId
  | .ingest message => .record <$> ConnectorTaskEventIngestor.ingest setup message

-- The statuses that a runner returns.
def returned : Except Raised ConnectorTaskStatus → Bool
  | .ok .succeeded | .ok .failed | .ok .waitingForUser => true
  | .ok _ => false
  | .error _ => true

-- A background task begins once.
def Call.enter : Call → Shared → Option Shared
  | .runOnNode taskId plan _ final, s =>
      if (taskId, plan) ∈ s.background ∧ returned final then
        some { s with background := s.background.erase (taskId, plan) }
      else none
  | _, s => some s

-- Time passes, and the process restarts. A call that a restart has cut off is one
-- that goes no further.
inductive Happening where
  | passes (now : Time)
  | restarts
deriving DecidableEq

def Happening.effect : Happening → Shared → Option Shared
  | .passes now, s => if s.clock ≤ now then some { s with clock := now } else none
  | .restarts, s => some { s with plannerPlans := ∅, seenTerminals := [], background := [] }

variable {call : Call} {s t : Shared} {event : Happening} {status : ConnectorTaskStatus}

theorem enter_cases (h : call.enter s = some t) :
    t = s ∨ ∃ background, t = { s with background := background } := by
  cases call with
  | runOnNode =>
      simp only [Call.enter] at h
      split at h
      next =>
        cases h
        exact .inr ⟨_, rfl⟩
      next => cases h
  | _ =>
      cases h
      exact .inl rfl

theorem enter_tasks (h : call.enter s = some t) : t.tasks = s.tasks := by
  rcases enter_cases h with rfl | ⟨background, rfl⟩ <;> rfl

theorem outside_tasks (h : event.effect s = some t) : t.tasks = s.tasks := by
  cases event with
  | passes now =>
      simp only [Happening.effect] at h
      split at h
      next =>
        cases h
        rfl
      next => cases h
  | restarts =>
      cases h
      rfl

theorem outside_plans (h : event.effect s = some t) : t.plans = s.plans := by
  cases event with
  | passes now =>
      simp only [Happening.effect] at h
      split at h
      next =>
        cases h
        rfl
      next => cases h
  | restarts =>
      cases h
      rfl

-- Any number of calls of the coordinator and of the ingestor, each at one of its awaits.
@[reducible] def lifecycle (setup : Setup) : System signature where
  Shared := Shared
  Call := Call
  Choice := Choice
  Outside := Happening
  Result := Answer
  program := Call.program setup
  enter := Call.enter
  effect := effect setup
  outside := Happening.effect

open ConnectorLifecycleCoordinator

  ConnectorTaskEventIngestor

-- The statuses that the node and the user bring a task to.
def pastOffer : List ConnectorTaskStatus :=
  [.acceptedByNode, .running, .waitingForUser, .succeeded, .failed, .cancelled, .interrupted]

theorem terminalStatus_pastOffer {type : NodeProtocolMessageType}
    (h : type.terminalStatus = some status) : status ∈ pastOffer := by
  cases type <;> simp only [NodeProtocolMessageType.terminalStatus, reduceCtorEq,
    Option.some.injEq] at h <;> subst h <;> decide

theorem returned_pastOffer {final : ConnectorTaskStatus} (h : returned (.ok final) = true) :
    final ∈ pastOffer := by
  cases final <;> first | decide | cases h

-- What a call does that neither creates nor offers a task: it takes an active task
-- one version further, to a status past the offer.
def Reporting : Op → Prop
  | .updateTask _ loaded changed =>
      loaded.status.terminal = false ∧ changed.version = loaded.version + 1 ∧
        changed.status ∈ pastOffer
  | .insertTask _ => False
  | .listActive _ => False
  | .insertPlan _ => False
  | .offer _ _ => False
  | .plan _ _ _ => False
  | .putPlan _ => False
  | .present _ _ _ => False
  | .createTask _ _ => False
  | _ => True

theorem getTask_reporting (taskId : String) : (getTask taskId).Every Reporting :=
  getTask_every trivial

theorem transitionTask_reporting (hstatus : status ∈ pastOffer) (taskId : String)
    (expectedVersion : Nat) (detail : Option String) (startedAt finishedAt : Option Time) :
    (transitionTask taskId expectedVersion status detail startedAt finishedAt).Every Reporting :=
  transitionTask_every trivial fun _ _ hactive _ hversion hchanged =>
    ⟨hactive, hversion, hchanged ▸ hstatus⟩

theorem appendTaskEvent_reporting (event : ConnectorTaskEvent) :
    (appendTaskEvent event).Every Reporting := by
  refine .bind (getTask_reporting _) fun task => .ite trivial (.ite trivial ?_)
  exact .perform_bind trivial fun _ => trivial

theorem recordEvidence_reporting (evidence : ConnectorEvidence) :
    (recordEvidence evidence).Every Reporting :=
  .perform_bind trivial fun _ => .perform_bind trivial fun _ => .perform_bind trivial fun _ => trivial

theorem finalizeTask_reporting (hstatus : status ∈ pastOffer) (taskId : String) :
    (finalizeTask taskId status).Every Reporting := by
  refine .bind (getTask_reporting _) fun task => .ite trivial (.perform_bind trivial fun _ => ?_)
  exact .bind (transitionTask_reporting hstatus ..) fun _ => .perform trivial

theorem execute_reporting (taskId : String) (sinks : List Sink) :
    (execute taskId sinks).Every Reporting := by
  induction sinks with
  | nil => trivial
  | cons sink rest ih =>
      refine .bind (.catching ?_ fun _ => trivial) fun _ => ih
      cases sink with
      | event event =>
          refine .bind (getTask_reporting _) fun task => .ite trivial (.ite trivial ?_)
          exact .bind (appendTaskEvent_reporting _) fun _ => trivial
      | evidence => exact .bind (recordEvidence_reporting _) fun _ => trivial

theorem runOnNode_reporting {final : Except Raised ConnectorTaskStatus}
    (hreturned : returned final = true) (taskId : String) (plan : ConnectorTaskPlan)
    (sinks : List Sink) : (runOnNode taskId plan sinks final).Every Reporting := by
  refine .bind (getTask_reporting _) fun task => .perform_bind trivial fun startedAt => ?_
  refine .bind (transitionTask_reporting (by decide) ..) fun task => ?_
  refine .bind (transitionTask_reporting (by decide) ..) fun _ => ?_
  refine .bind (execute_reporting _ _) fun _ => ?_
  cases final with
  | error error => trivial
  | ok final =>
      have hstatus := returned_pastOffer hreturned
      refine .ite (finalizeTask_reporting hstatus _) ?_
      refine .bind (getTask_reporting _) fun current => .ite trivial ?_
      exact .bind (transitionTask_reporting hstatus ..) fun _ => .perform trivial

theorem cancelTask_reporting (taskId : String) : (cancelTask taskId).Every Reporting := by
  refine .bind (getTask_reporting _) fun task => .ite trivial (.perform_bind trivial fun _ => ?_)
  refine .bind (transitionTask_reporting (by decide) ..) fun _ => ?_
  exact .perform_bind trivial fun _ => trivial

theorem ofExcept_reporting {α : Type} (result : Except Raised α) :
    (ofExcept result).Every Reporting := trivial

theorem apply_reporting (setup : Setup) (message : ProtocolMessage) (task : ConnectorTaskRecord) :
    (ConnectorTaskEventIngestor.apply setup message task).Every Reporting := by
  unfold ConnectorTaskEventIngestor.apply
  split
  next =>
    refine .ite trivial (.perform_bind trivial fun _ => ?_)
    exact transitionTask_reporting (by decide) ..
  next => exact .ite trivial (transitionTask_reporting (by decide) ..)
  next => exact transitionTask_reporting (by decide) ..
  next =>
    unfold ingestEvidence
    split
    next =>
      refine .perform_bind trivial fun _ => .perform_bind trivial fun _ => ?_
      refine .bind (ofExcept_reporting _) fun _ => ?_
      exact .bind (recordEvidence_reporting _) fun _ => trivial
    next => trivial
  next =>
    split
    next status hterminal =>
      have hstatus := terminalStatus_pastOffer hterminal
      refine .perform_bind trivial fun seen => .ite trivial (.perform_bind trivial fun _ => ?_)
      refine .bind (transitionTask_reporting hstatus ..) fun _ => ?_
      exact .perform_bind trivial fun _ => trivial
    next => trivial

theorem ingest_reporting (setup : Setup) (message : ProtocolMessage) :
    (ingest setup message).Every Reporting := by
  refine .ite trivial (.bind (getTask_reporting _) fun task => ?_)
  refine .bind (ofExcept_reporting _) fun _ => ?_
  refine .perform_bind trivial fun _ => .perform_bind trivial fun _ => ?_
  exact .bind (appendTaskEvent_reporting _) fun _ => apply_reporting ..

end JoyMesh.Lifecycle
