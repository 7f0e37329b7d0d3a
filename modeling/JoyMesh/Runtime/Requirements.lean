import JoyMesh.Routing.Discipline
import JoyMesh.Routing.Pinned
import JoyMesh.Runtime.Scheduler

namespace JoyMesh.Runtime

open Library Routing

-- A backend, with the harnesses that it takes. A joymesh backend that is not
-- bridged to the submission of the service records a run of its own.
inductive Backend where
  | localBackend (harnesses : List String)
  | fireConnectBackend (harnesses : List String)
  | joyMeshBackend (bridged : Bool)
  | hostedBackend
deriving DecidableEq, Repr

def Backend.toExecutionBackend : Backend → ExecutionBackend
  | .localBackend harnesses => Routing.localBackend harnesses
  | .fireConnectBackend harnesses => Routing.fireConnectBackend harnesses
  | .joyMeshBackend _ => Routing.joyMeshBackend
  | .hostedBackend => Routing.hostedBackend

-- An execution that is begun or a lease that is acquired: the harness, the node
-- unless it is the machine of the service, and the provider whose route is
-- enabled for it.
structure Start where
  harnessId : String
  nodeId : Option String := none
  providerId : Option String := none
deriving DecidableEq, Repr

-- What execute() runs without a look at the requirements. The route manager
-- enables the one route that it has.
def Backend.runsItself (intent : ExecutionIntent) (decision : ExecutionDecision) :
    Backend → Option Start
  | .localBackend _ => some { harnessId := decision.selectedHarnessId }
  | .fireConnectBackend _ =>
      some
        { harnessId := decision.selectedHarnessId
          providerId := if decision.providerRoutingRequired || intent.requiresProviderRoute then
            some "fireworks" else none }
  | .joyMeshBackend bridged =>
      if bridged then none
      else some { harnessId := decision.selectedHarnessId, nodeId := some "foundation-worker" }
  | .hostedBackend => none

structure ExecutionRoutingService (σ : Type) where
  backends : List (String × Backend)
  config : BackendRegistryConfig := {}
  availableHarnesses : List String
  entitlements : Entitlements := {}
  profiles : CapabilityProfiles σ
  availableConnectors : Option (List String) := none
  analyse : String → Routing.TaskAnalysis

def ExecutionRoutingService.router {σ : Type} (service : ExecutionRoutingService σ) :
    ExecutionRouter σ where
  registry :=
    { backends := service.backends.map fun item => (item.1, item.2.toExecutionBackend)
      config := service.config }
  availableHarnesses := service.availableHarnesses
  entitlements := service.entitlements
  profiles := service.profiles
  availableConnectors := service.availableConnectors
  analyse := service.analyse

-- What the planner adds for the router alone.
structure RoutePlanning (σ : Type) extends Planning where
  taskClass : Option String := none
  requiredSemanticCapabilities : List String := []
  privacyAnalysed : Option Bool := none
  maxCost : Option σ := none

def RoutePlanning.intent {σ : Type} (planning : RoutePlanning σ) (task : RuntimeTaskRecord) :
    RoutedIntent σ :=
  let remote := planning.hasNodes ∨ task.requiredNode.any (· ≠ "")
  let mission := missionSpecFromTask task planning.prompt planning.workspacePath
    (if remote then "remote" else "local") remote
  { toExecutionIntent := plan planning.analysis planning.executionId mission
    taskClass := planning.taskClass
    requiredSemanticCapabilities := planning.requiredSemanticCapabilities
    privacyAnalysed := planning.privacyAnalysed
    maxCost := planning.maxCost }

-- What the call meets at one backend of the order: how its calls end, whether
-- execute() gets past its own validation and the enabling of the route, and the
-- nodes and the leases of that moment.
structure Encounter extends Routing.Turn where
  begins : Bool := true
  nodes : List SchedulerNodeSnapshot := []
  production : Bool := false
  leases : LeaseService
  now : Time := 0
  stamp : Time := 0
  leaseId : String := "lease"
  remoteAttemptId : String := "execution_attempt"

def requestFromRecord (task : RuntimeTaskRecord) : RuntimeTaskRequest where
  workspaceId := task.workspaceId
  requestedCapabilities := task.requestedCapabilities.dedup
  prohibitedCapabilities := task.prohibitedCapabilities.dedup
  policyProfile := task.policyProfile
  preferredConnectors := task.preferredConnectors
  requiredConnector := task.requiredConnector
  preferredProviders := task.preferredProviders
  requiredProvider := task.requiredProvider
  preferredNodes := task.preferredNodes
  requiredNode := task.requiredNode
  timeoutSeconds := task.timeoutSeconds
  maxAttempts := task.maxAttempts
  taskId := task.taskId

section Starts

-- The record that the submission reads anew makes the same request.
variable (engine : PolicyEngine) (order : Iteration) (task : RuntimeTaskRecord)
  (intent : ExecutionIntent) (decision : ExecutionDecision)

def submitRemoteExecution (e : Encounter) : Except PyError (Option TaskLease × Submission) := do
  let request := requestFromRecord task
  let harness := decision.selectedHarnessId
  let preferred := if harness ≠ "" ∧ harness ∉ request.preferredConnectors then
    harness :: request.preferredConnectors else request.preferredConnectors
  let candidates ← RuntimeScheduler.rankCandidates engine order e.production
    { request with preferredConnectors := preferred } e.nodes
  match candidates.find? (·.eligible) with
  | none =>
      let detail := queueDetail (candidates.map (·.toRouteCandidate))
      return (none, { status := "queued", message := some detail })
  | some candidate =>
      match (e.leases.acquire e.now e.stamp e.leaseId
        { taskId := task.taskId
          nodeId := candidate.nodeId
          connectorId := candidate.connectorId
          attemptId := e.remoteAttemptId }).1 with
      | .ok lease => return (some lease, { status := "leased" })
      | .error refusal => throw refusal.error

def Encounter.turn (e : Encounter) (backendId : String) : Option Backend → Routing.Turn
  | none => { e.toTurn with registered := .error ("unknown execution backend: " ++ backendId) }
  | some backend =>
      let turn : Routing.Turn := { e.toTurn with
        registered := .ok ()
        supports := .returned
          (backend.toExecutionBackend.supports intent decision.selectedHarnessId) }
      if backend = .joyMeshBackend true then
        match submitRemoteExecution engine order task decision e with
        | .error error => { turn with prepare := .raised error }
        | .ok (_, submission) =>
            match e.execute with
            | .returned _ => { turn with execute := .returned (joymeshResult submission) }
            | _ => turn
      else turn

-- What a call on a backend starts. Only the scheduler looks at the requirements.
def callStarts (backend : Backend) (e : Encounter) : BackendCall → List Start
  | .prepare _ =>
      if backend = .joyMeshBackend true then
        match submitRemoteExecution engine order task decision e with
        | .ok (some lease, _) => [{ harnessId := lease.connectorId, nodeId := some lease.nodeId }]
        | _ => []
      else []
  | .execute _ _ => if e.begins then (backend.runsItself intent decision).toList else []
  | _ => []

-- A turn of the loop, with what the calls of the turn start.
def meet (backends : List (String × Backend)) (p : Progress) (backendId : String) (e : Encounter) :
    (TurnEnd × Progress) × List Start :=
  let backend := backends.lookup backendId
  let ended := takeTurn intent decision p backendId
    (e.turn engine order task intent decision backendId backend)
  let calls := ended.2.calls.drop p.calls.length
  (ended, backend.toList.flatMap fun backend =>
    calls.flatMap (callStarts engine order task intent decision backend e))

-- The loop of execute_with_fallback over the backends of the decision.
def orderStarts (backends : List (String × Backend)) (p : Progress) :
    List (String × Encounter) → List Start
  | [] => []
  | (backendId, e) :: rest =>
      match meet engine order task intent decision backends p backendId e with
      | ((.next, p), starts) => starts ++ orderStarts backends p rest
      | (_, starts) => starts

-- The coding worker begins with a lease of its own.
def workerStarts (e : Encounter) : List Start :=
  let look := e.leases.activeLease e.now task.taskId
  if look.1.any (·.status = .active) then []
  else
    match (look.2.acquire e.now e.stamp e.leaseId
      { taskId := task.taskId
        nodeId := "local-codex-worker"
        connectorId := "codex"
        attemptId := e.remoteAttemptId }).1 with
    | .ok lease => [{ harnessId := lease.connectorId, nodeId := some lease.nodeId }]
    | .error _ => []

end Starts

section Routes

variable {σ : Type} [Score σ] (service : ExecutionRoutingService σ) (engine : PolicyEngine)
  (order : Iteration) (task : RuntimeTaskRecord) (planning : RoutePlanning σ)

-- Everything that route_task starts for a task.
def routeTask (encounter : Nat → Encounter) : List Start :=
  let intent := planning.intent task
  match service.router.select intent with
  | .error _ => []
  | .ok decision =>
      if codingWorkerRoute decision then workerStarts task (encounter 0)
      else
        let selected := auditEvent intent.toExecutionIntent decision "backend.selected"
          decision.selectedBackendId true (some decision.reason)
        orderStarts engine order task intent.toExecutionIntent decision service.backends
          { audits := [selected] }
          (decision.order.mapIdx fun place backendId => (backendId, encounter place))

-- The required provider, where it asks for a provider route.
def routedProvider (task : RuntimeTaskRecord) : Option String :=
  task.requiredProvider.filter (· ∉ ["", "native", "local"])

structure Honoured (task : RuntimeTaskRecord) (start : Start) : Prop where
  connector : ∀ required, asked task.requiredConnector = some required → start.harnessId = required
  node : ∀ required, asked task.requiredNode = some required → start.nodeId = some required
  provider : ∀ required, routedProvider task = some required → start.providerId = some required

-- Whatever the call meets, nothing is started against a requirement.
def RequirementsHonoured : Prop :=
  ∀ encounter, ∀ start ∈ routeTask service engine order task planning encounter, Honoured task start

-- No backend of the route runs the harness itself, and neither does the coding
-- worker: the scheduler alone places the task.
def LeftToScheduler : Prop :=
  ∀ decision, service.router.select (planning.intent task) = .ok decision →
    codingWorkerRoute decision = false ∧
      ∀ backendId ∈ decision.order, ∀ backend, service.backends.lookup backendId = some backend →
        backend.toExecutionBackend.supports (planning.intent task).toExecutionIntent
          decision.selectedHarnessId = true →
        backend.runsItself (planning.intent task).toExecutionIntent decision = none

-- The harness that is required is there and some backend takes it, the one
-- route that the manager has is the required one, and no required node is left
-- to a backend without workers.
structure Upheld : Prop where
  connector : ∀ required, asked task.requiredConnector = some required →
    (required ∈ service.availableHarnesses ∧
      ∃ backendId, service.router.Compatible (planning.intent task) required backendId) ∨
      LeftToScheduler service task planning
  node : ∀ required, asked task.requiredNode = some required →
    required = "foundation-worker" ∨ LeftToScheduler service task planning
  provider : ∀ required, routedProvider task = some required →
    required = "fireworks" ∨ LeftToScheduler service task planning

end Routes

section Requirements

theorem asked_eq_some {requirement : Option String} {required : String} :
    asked requirement = some required ↔ requirement = some required ∧ required ≠ "" := by
  simp [asked, Option.filter_eq_some_iff]

variable {σ : Type} {task : RuntimeTaskRecord} (planning : RoutePlanning σ) {required : String}

theorem preferredHarness_of_required (h : asked task.requiredConnector = some required) :
    (planning.intent task).preferredHarness = some required := by
  simp [RoutePlanning.intent, plan, missionSpecFromTask, (asked_eq_some.mp h).1]

-- A required node leaves the task to remote workers.
theorem remote_of_required (h : asked task.requiredNode = some required) :
    (planning.intent task).localityPreference = "remote" ∧
      ExecutionCapability.remoteWorker ∈ (planning.intent task).requiredCapabilities := by
  obtain ⟨hnode, hne⟩ := asked_eq_some.mp h
  simp [RoutePlanning.intent, plan, missionSpecFromTask, hnode, hne]

theorem requiresProviderRoute_of_required (h : routedProvider task = some required) :
    (planning.intent task).requiresProviderRoute = true := by
  obtain ⟨hprovider, hrouted⟩ := Option.filter_eq_some_iff.mp h
  simpa [RoutePlanning.intent, plan, missionSpecFromTask, hprovider] using hrouted

-- The bridge passes no constraints on.
theorem intent_unconstrained (backendId : String) :
    enforceEntitlements {} (planning.intent task).toExecutionIntent (some backendId) = .ok () := by
  have hconstraints : (planning.intent task).subscriptionConstraints = {} := rfl
  simp only [enforceEntitlements, hconstraints, Entitlements.refuses]
  cases (planning.intent task).preferredHarness <;> simp

end Requirements

section Backends

variable {intent : ExecutionIntent} {decision : ExecutionDecision} {backend : Backend}
  {start : Start} {harnessId : String}

theorem runsItself_harness (h : backend.runsItself intent decision = some start) :
    start.harnessId = decision.selectedHarnessId := by
  cases backend with
  | localBackend harnesses =>
      obtain rfl := Option.some.inj h
      rfl
  | fireConnectBackend harnesses =>
      obtain rfl := Option.some.inj h
      rfl
  | joyMeshBackend bridged =>
      cases bridged with
      | false =>
          obtain rfl := Option.some.inj h
          rfl
      | true => cases h
  | hostedBackend => cases h

-- Of the backends that run a harness themselves, only the one without workers
-- takes a task that is left to remote workers.
theorem runsItself_remote (hlocality : intent.localityPreference = "remote")
    (hworker : ExecutionCapability.remoteWorker ∈ intent.requiredCapabilities)
    (hsupports : backend.toExecutionBackend.supports intent harnessId = true)
    (h : backend.runsItself intent decision = some start) :
    start.nodeId = some "foundation-worker" := by
  cases backend with
  | localBackend harnesses =>
      simp [Backend.toExecutionBackend, Routing.localBackend, hlocality] at hsupports
  | fireConnectBackend harnesses =>
      simp only [Backend.toExecutionBackend, Routing.fireConnectBackend, covers, Bool.and_eq_true,
        List.all_eq_true] at hsupports
      exact absurd (hsupports.2 _ hworker) (by decide)
  | joyMeshBackend bridged =>
      cases bridged with
      | false =>
          obtain rfl := Option.some.inj h
          rfl
      | true => cases h
  | hostedBackend => cases h

-- Only the route manager takes a task with a provider route.
theorem runsItself_routed (hroute : intent.requiresProviderRoute = true)
    (hsupports : backend.toExecutionBackend.supports intent harnessId = true)
    (h : backend.runsItself intent decision = some start) :
    start.providerId = some "fireworks" := by
  cases backend with
  | localBackend harnesses =>
      simp [Backend.toExecutionBackend, Routing.localBackend, hroute] at hsupports
  | fireConnectBackend harnesses =>
      obtain rfl := Option.some.inj h
      simp [hroute]
  | joyMeshBackend bridged =>
      simp [Backend.toExecutionBackend, Routing.joyMeshBackend, hroute] at hsupports
  | hostedBackend => cases h

end Backends

section Worker

variable {σ : Type} [Score σ] {service : ExecutionRoutingService σ} {intent : RoutedIntent σ}
  {decision : ExecutionDecision}

-- Only the class of the local backend gives itself that id.
theorem local_of_backendId {backend : Backend}
    (h : backend.toExecutionBackend.backendId = "local") :
    ∃ harnesses, backend = .localBackend harnesses := by
  cases backend with
  | localBackend harnesses => exact ⟨harnesses, rfl⟩
  | fireConnectBackend harnesses => simp [Backend.toExecutionBackend, fireConnectBackend] at h
  | joyMeshBackend bridged => simp [Backend.toExecutionBackend, joyMeshBackend] at h
  | hostedBackend => exact absurd h (by decide)

omit [Score σ] in
theorem registered_of_enabled {backend : ExecutionBackend}
    (h : backend ∈ service.router.registry.enabled) :
    ∃ registered : Backend, backend = registered.toExecutionBackend := by
  obtain ⟨backendId, -, hfound⟩ := List.mem_filterMap.mp h
  split at hfound
  · cases hfound
  · obtain ⟨before, after, hsplit, -⟩ := List.lookup_eq_some_iff.mp hfound
    have hmem : (backendId, backend) ∈ service.router.registry.backends := by simp [hsplit]
    obtain ⟨item, -, hitem⟩ := List.mem_map.mp hmem
    exact ⟨item.2, (congrArg Prod.snd hitem).symm⟩

-- The coding worker takes the place of a local backend that has passed the
-- filters of the router.
theorem local_admitted (hselect : service.router.select intent = .ok decision)
    (hworker : codingWorkerRoute decision = true) :
    intent.requiresProviderRoute = false ∧ intent.localityPreference ≠ "remote" := by
  have hlocal : decision.selectedBackendId = "local" := (of_decide_eq_true hworker).1
  have hmem : "local" ∈ decision.order := List.mem_cons.mpr (.inl hlocal.symm)
  obtain ⟨harnessId, hcompatible⟩ := ExecutionRouter.select_compatible hselect hmem
  obtain ⟨backend, henabled, hid, hadmits⟩ := hcompatible.enabled
  obtain ⟨registered, rfl⟩ := registered_of_enabled henabled
  obtain ⟨harnesses, rfl⟩ := local_of_backendId hid
  simp only [ExecutionRouter.admits, Backend.toExecutionBackend, Routing.localBackend,
    Bool.and_eq_true, Bool.not_eq_true', bne_iff_ne] at hadmits
  obtain ⟨⟨-, ⟨⟨⟨⟨hroute, -⟩, -⟩, hlocality⟩, -⟩, -⟩, -⟩ := hadmits
  exact ⟨hroute, hlocality⟩

end Worker

section Loop

variable {engine : PolicyEngine} {order : Iteration} {task : RuntimeTaskRecord}
  {intent : ExecutionIntent} {decision : ExecutionDecision} {p : Progress} {backendId : String}
  {backend : Backend} {e : Encounter} {start : Start} {call : BackendCall} {lease : TaskLease}
  {backends : List (String × Backend)}

-- Up to the answer of supports() a turn only asks.
theorem takeTurn_asks {turn : Routing.Turn}
    (h : turn.registered = .ok () → turn.supports ≠ .returned true)
    (hcall : call ∈ (takeTurn intent decision p backendId turn).2.calls.drop p.calls.length) :
    call = .health backendId ∨ call = .supports backendId := by
  unfold takeTurn at hcall
  split at hcall
  · simp [cancelledResult, Progress.audit] at hcall
  split at hcall
  · simp [refusedResult, Progress.audit] at hcall
  dsimp only at hcall
  split at hcall
  · simp [unregistered, Progress.attempt, Progress.audit, Progress.failed] at hcall
  next registered =>
    split at hcall
    · exact .inl (by simpa [Progress.called] using hcall)
    · exact .inl (by simpa [Progress.called] using hcall)
    split at hcall
    · exact .inl (by simpa [unhealthy, fallBack_calls, Progress.called, Progress.attempt,
        Progress.audit, Progress.failed] using hcall)
    split at hcall
    · simpa [Progress.called] using hcall
    · simpa [Progress.called] using hcall
    · simpa [unsupported, Progress.called, Progress.attempt, Progress.audit,
        Progress.failed] using hcall
    next hsupports => exact absurd hsupports (h registered)

theorem acquire_placed {s : LeaseService} {now stamp : Time} {leaseId : String}
    {request : AcquireRequest} (h : (s.acquire now stamp leaseId request).1 = .ok lease) :
    lease.nodeId = request.nodeId ∧ lease.connectorId = request.connectorId := by
  simp only [LeaseService.acquire] at h
  split_ifs at h
  obtain rfl := Except.ok.inj h
  exact ⟨rfl, rfl⟩

-- A lease on a node is on one that meets the requirements.
theorem submitRemoteExecution_meets {submission : Submission}
    (h : submitRemoteExecution engine order task decision e = .ok (some lease, submission)) :
    RuntimeScheduler.Meets (requestFromRecord task) lease.nodeId lease.connectorId := by
  obtain ⟨candidates, hranked, h⟩ := bind_eq_ok.mp h
  split at h
  · cases h
  next candidate hfound =>
    split at h
    next granted hgranted =>
      obtain ⟨rfl, -⟩ : granted = lease ∧ _ := by simpa using Except.ok.inj h
      obtain ⟨hnode, hconnector⟩ := acquire_placed hgranted
      have heligible : candidate.eligible = true := by simpa using List.find?_some hfound
      have hmeets := RuntimeScheduler.rankCandidates_eligible hranked
        (List.mem_of_find?_eq_some hfound) heligible
      rw [hnode, hconnector]
      exact ⟨hmeets.node, hmeets.connector⟩
    · cases h

-- What a backend that supports the harness starts: a run of its own, or a lease
-- from the scheduler.
inductive Started (engine : PolicyEngine) (order : Iteration) (task : RuntimeTaskRecord)
    (intent : ExecutionIntent) (decision : ExecutionDecision) (backend : Backend) :
    Start → Prop
  | itself {start : Start} (h : backend.runsItself intent decision = some start) :
      Started engine order task intent decision backend start
  | scheduled {e : Encounter} {lease : TaskLease} {submission : Submission}
      (hbridged : backend = .joyMeshBackend true)
      (h : submitRemoteExecution engine order task decision e = .ok (some lease, submission)) :
      Started engine order task intent decision backend
        { harnessId := lease.connectorId, nodeId := some lease.nodeId }

theorem callStarts_started (h : start ∈ callStarts engine order task intent decision backend e call) :
    Started engine order task intent decision backend start ∧
      (∀ backendId, call ≠ .health backendId) ∧ ∀ backendId, call ≠ .supports backendId := by
  unfold callStarts at h
  split at h
  · refine ⟨?_, nofun, nofun⟩
    split at h
    next hbridged =>
      split at h
      next hsubmitted =>
        obtain rfl := List.mem_singleton.mp h
        exact .scheduled hbridged hsubmitted
      · cases h
    · cases h
  · refine ⟨?_, nofun, nofun⟩
    split at h
    · exact .itself (Option.mem_toList.mp h)
    · cases h
  · cases h

theorem turn_supports :
    (e.turn engine order task intent decision backendId (some backend)).supports =
      .returned (backend.toExecutionBackend.supports intent decision.selectedHarnessId) := by
  simp only [Encounter.turn]
  split
  · split
    · rfl
    · split <;> rfl
  · rfl

theorem meet_started (h : start ∈ (meet engine order task intent decision backends p backendId e).2) :
    ∃ backend, backends.lookup backendId = some backend ∧
      backend.toExecutionBackend.supports intent decision.selectedHarnessId = true ∧
      Started engine order task intent decision backend start := by
  obtain ⟨backend, hbackend, h⟩ := List.mem_flatMap.mp h
  obtain ⟨call, hcall, h⟩ := List.mem_flatMap.mp h
  have hregistered : backends.lookup backendId = some backend := Option.mem_toList.mp hbackend
  obtain ⟨hstarted, hhealth, hsupports⟩ := callStarts_started h
  refine ⟨backend, hregistered, ?_, hstarted⟩
  by_contra hunsupported
  rw [hregistered] at hcall
  have hasks := takeTurn_asks (fun _ => by simpa [turn_supports] using hunsupported) hcall
  exact hasks.elim (hhealth backendId) (hsupports backendId)

-- Whatever the loop starts is started on a backend of the order that supports
-- the harness.
theorem orderStarts_started {turns : List (String × Encounter)}
    (h : start ∈ orderStarts engine order task intent decision backends p turns) :
    ∃ turn ∈ turns, ∃ backend, backends.lookup turn.1 = some backend ∧
      backend.toExecutionBackend.supports intent decision.selectedHarnessId = true ∧
      Started engine order task intent decision backend start := by
  induction turns generalizing p with
  | nil => cases h
  | cons turn rest ih =>
      obtain ⟨backendId, e⟩ := turn
      have hhere {starts : List Start} {ended : TurnEnd × Progress}
          (hmeet : meet engine order task intent decision backends p backendId e = (ended, starts))
          (hstart : start ∈ starts) := meet_started (by rw [hmeet]; exact hstart)
      unfold orderStarts at h
      split at h
      next hmeet =>
        rcases List.mem_append.mp h with h | h
        · exact ⟨(backendId, e), List.mem_cons_self, hhere hmeet h⟩
        · obtain ⟨turn, hturn, hstarted⟩ := ih h
          exact ⟨turn, List.mem_cons_of_mem _ hturn, hstarted⟩
      next _ hmeet => exact ⟨(backendId, e), List.mem_cons_self, hhere hmeet h⟩

end Loop

section Reached

variable {engine : PolicyEngine} {order : Iteration} {task : RuntimeTaskRecord}
  {intent : ExecutionIntent} {decision : ExecutionDecision} {p : Progress} {backendId : String}
  {backend : Backend} {start : Start} {backends : List (String × Backend)}

-- The encounter with a backend that works, and with one that is down.
def smooth : Encounter where
  execute := .returned { ok := true, message := "done" }
  leases := .initial 0

def down : Encounter := { smooth with health := .returned ⟨false, "unavailable", "unhealthy"⟩ }

theorem meet_down (hfree : ∀ backendId, enforceEntitlements {} intent (some backendId) = .ok ()) :
    (meet engine order task intent decision backends p backendId down).1.1 = .next := by
  have hmet {turn : Routing.Turn} (hcancelled : turn.cancelled = false)
      (hentitled : turn.entitlements = {}) (hhealth : turn.health = down.health) :
      (takeTurn intent decision p backendId turn).1 = .next := by
    unfold takeTurn
    simp only [hcancelled, hentitled, hfree, hhealth]
    cases turn.registered with
    | error text => rfl
    | ok _ =>
        simp only [down, Bool.not_false, true_or, if_true, unhealthy, Bool.false_eq_true, if_false]
        exact fallBack_next.mpr rfl
  unfold meet
  cases backends.lookup backendId with
  | none => exact hmet rfl rfl rfl
  | some backend =>
      refine hmet ?_ ?_ ?_ <;> simp only [Encounter.turn] <;> repeat' split
      all_goals rfl

theorem meet_smooth (hfree : ∀ backendId, enforceEntitlements {} intent (some backendId) = .ok ())
    (hregistered : backends.lookup backendId = some backend)
    (hsupports : backend.toExecutionBackend.supports intent decision.selectedHarnessId = true)
    (h : backend.runsItself intent decision = some start) :
    start ∈ (meet engine order task intent decision backends p backendId smooth).2 := by
  have hbridged : backend ≠ .joyMeshBackend true := by
    rintro rfl
    cases h
  have hturn : smooth.turn engine order task intent decision backendId (some backend) =
      { smooth.toTurn with registered := .ok (), supports := .returned true } := by
    simp only [Encounter.turn, if_neg hbridged, hsupports]
  simp only [meet, hregistered, hturn, Option.toList_some, List.flatMap_cons, List.flatMap_nil,
    List.append_nil]
  have hcall : .execute backendId smooth.execute ∈ (takeTurn intent decision p backendId
      { smooth.toTurn with registered := .ok (), supports := .returned true }).2.calls.drop
        p.calls.length := by
    simp [takeTurn, smooth, hfree, tryBackend, cleanUp, executed_calls, Progress.called,
      Progress.audit]
  exact List.mem_flatMap.mpr ⟨_, hcall, by simp [callStarts, smooth, h]⟩

theorem orderStarts_reached
    (hfree : ∀ backendId, enforceEntitlements {} intent (some backendId) = .ok ())
    (hregistered : backends.lookup backendId = some backend)
    (hsupports : backend.toExecutionBackend.supports intent decision.selectedHarnessId = true)
    (h : backend.runsItself intent decision = some start) {before after : List (String × Encounter)}
    (hbefore : ∀ turn ∈ before, turn.2 = down) :
    start ∈ orderStarts engine order task intent decision backends p
      (before ++ (backendId, smooth) :: after) := by
  induction before generalizing p with
  | nil =>
      have hmet : start ∈ (meet engine order task intent decision backends p backendId smooth).2 :=
        meet_smooth hfree hregistered hsupports h
      rw [List.nil_append, orderStarts]
      split
      next hmeet => exact List.mem_append.mpr (.inl (by rwa [hmeet] at hmet))
      next _ hmeet => rwa [hmeet] at hmet
  | cons turn before ih =>
      obtain ⟨other, e⟩ := turn
      obtain rfl : e = down := hbefore _ List.mem_cons_self
      have hnext : (meet engine order task intent decision backends p other down).1.1 = .next :=
        meet_down hfree
      rw [List.cons_append, orderStarts]
      split
      · exact List.mem_append.mpr (.inr (ih fun turn hturn => hbefore turn
          (List.mem_cons_of_mem _ hturn)))
      next hlast hmeet =>
        rw [hmeet] at hnext
        exact (hlast _ (Prod.ext hnext rfl)).elim

-- Any backend of the order may be the first that works.
theorem order_reached (hfree : ∀ backendId, enforceEntitlements {} intent (some backendId) = .ok ())
    (hregistered : backends.lookup backendId = some backend)
    (hsupports : backend.toExecutionBackend.supports intent decision.selectedHarnessId = true)
    (h : backend.runsItself intent decision = some start) (hmem : backendId ∈ decision.order) :
    ∃ encounter : Nat → Encounter, start ∈ orderStarts engine order task intent decision backends p
      (decision.order.mapIdx fun place backendId => (backendId, encounter place)) := by
  obtain ⟨before, after, horder⟩ := List.append_of_mem hmem
  refine ⟨fun place => if place = before.length then smooth else down, ?_⟩
  rw [horder, List.mapIdx_append, List.mapIdx_cons]
  simp only [Nat.zero_add, if_true]
  refine orderStarts_reached hfree hregistered hsupports h fun turn hturn => ?_
  obtain ⟨place, hplace, rfl⟩ := List.mem_mapIdx.mp hturn
  simp [hplace.ne]

end Reached

section Unscheduled

variable {σ : Type} [Score σ] {service : ExecutionRoutingService σ} {engine : PolicyEngine}
  {order : Iteration} {task : RuntimeTaskRecord} {planning : RoutePlanning σ}
  {decision : ExecutionDecision} {start : Start} {required : String}

-- What is started without the scheduler: by the coding worker or by a backend
-- that runs the harness itself.
inductive Unscheduled (intent : ExecutionIntent) (decision : ExecutionDecision) : Start → Prop
  | worker {start : Start} (hroute : codingWorkerRoute decision = true)
      (h : start.harnessId = "codex") : Unscheduled intent decision start
  | itself {backend : Backend} {start : Start}
      (hsupports : backend.toExecutionBackend.supports intent decision.selectedHarnessId = true)
      (h : backend.runsItself intent decision = some start) : Unscheduled intent decision start

omit [Score σ] in
theorem Unscheduled.harness {intent : ExecutionIntent} (h : Unscheduled intent decision start) :
    start.harnessId = decision.selectedHarnessId := by
  cases h with
  | worker hroute h => exact h.trans (of_decide_eq_true hroute).2.symm
  | itself _ h => exact runsItself_harness h

theorem Unscheduled.node
    (h : Unscheduled (planning.intent task).toExecutionIntent decision start)
    (hselect : service.router.select (planning.intent task) = .ok decision)
    (hrequired : asked task.requiredNode = some required) :
    start.nodeId = some "foundation-worker" := by
  obtain ⟨hlocality, hworker⟩ := remote_of_required planning hrequired
  cases h with
  | worker hroute _ => exact absurd hlocality (local_admitted hselect hroute).2
  | itself hsupports h => exact runsItself_remote hlocality hworker hsupports h

theorem Unscheduled.provider
    (h : Unscheduled (planning.intent task).toExecutionIntent decision start)
    (hselect : service.router.select (planning.intent task) = .ok decision)
    (hrequired : routedProvider task = some required) : start.providerId = some "fireworks" := by
  have hroute := requiresProviderRoute_of_required planning hrequired
  cases h with
  | worker hworker _ =>
      rw [(local_admitted hselect hworker).1] at hroute
      cases hroute
  | itself hsupports h => exact runsItself_routed hroute hsupports h

theorem workerStarts_harness {e : Encounter} (h : start ∈ workerStarts task e) :
    start.harnessId = "codex" := by
  unfold workerStarts at h
  dsimp only at h
  split at h
  · cases h
  · split at h
    next hlease =>
      obtain rfl := List.mem_singleton.mp h
      exact (acquire_placed hlease).2
    · cases h

omit [Score σ] in
-- A lease from the scheduler honours the requirements, and a task with a
-- provider route gets none.
theorem Started.honoured {backend : Backend}
    (h : Started engine order task (planning.intent task).toExecutionIntent decision backend start)
    (hsupports : backend.toExecutionBackend.supports (planning.intent task).toExecutionIntent
      decision.selectedHarnessId = true)
    (hitself : backend.runsItself (planning.intent task).toExecutionIntent decision ≠ some start) :
    Honoured task start := by
  cases h with
  | itself h => exact absurd h hitself
  | scheduled hbridged h =>
      have hmeets := submitRemoteExecution_meets h
      refine ⟨hmeets.connector, fun required hrequired => ?_, fun required hrequired => ?_⟩
      · exact congrArg some (hmeets.node required hrequired)
      · have hroute := requiresProviderRoute_of_required planning hrequired
        subst hbridged
        simp [Backend.toExecutionBackend, joyMeshBackend, hroute] at hsupports

theorem routeTask_started {encounter : Nat → Encounter}
    (h : start ∈ routeTask service engine order task planning encounter) :
    Honoured task start ∨ ¬ LeftToScheduler service task planning ∧
      ∃ decision, service.router.select (planning.intent task) = .ok decision ∧
        Unscheduled (planning.intent task).toExecutionIntent decision start := by
  unfold routeTask at h
  dsimp only at h
  split at h
  · cases h
  next decision hselect =>
    split at h
    next hroute =>
      refine .inr ⟨fun hleft => ?_, decision, hselect, .worker hroute (workerStarts_harness h)⟩
      exact absurd hroute (by simp [(hleft decision hselect).1])
    next hroute =>
      obtain ⟨turn, hturn, backend, hregistered, hsupports, hstarted⟩ := orderStarts_started h
      by_cases hitself :
          backend.runsItself (planning.intent task).toExecutionIntent decision = some start
      · refine .inr ⟨fun hleft => ?_, decision, hselect, .itself hsupports hitself⟩
        have hmem : turn.1 ∈ decision.order := by
          obtain ⟨place, hplace, rfl⟩ := List.mem_mapIdx.mp hturn
          exact List.getElem_mem hplace
        have hnone := (hleft decision hselect).2 turn.1 hmem backend hregistered hsupports
        rw [hnone] at hitself
        cases hitself
      · exact .inl (hstarted.honoured hsupports hitself)

-- Where the scheduler is not alone, something may be started without it.
theorem exists_unscheduled (engine : PolicyEngine) (order : Iteration)
    (h : ¬ LeftToScheduler service task planning) :
    ∃ decision, service.router.select (planning.intent task) = .ok decision ∧
      ∃ encounter start, start ∈ routeTask service engine order task planning encounter ∧
        Unscheduled (planning.intent task).toExecutionIntent decision start := by
  unfold LeftToScheduler at h
  push Not at h
  obtain ⟨decision, hselect, h⟩ := h
  refine ⟨decision, hselect, ?_⟩
  simp only [routeTask, hselect]
  cases hroute : codingWorkerRoute decision with
  | true =>
      exact ⟨fun _ => smooth, _, List.mem_cons_self, .worker hroute rfl⟩
  | false =>
      obtain ⟨backendId, hmem, backend, hregistered, hsupports, hitself⟩ := h hroute
      obtain ⟨start, hstart⟩ := Option.ne_none_iff_exists'.mp hitself
      obtain ⟨encounter, hreached⟩ :=
        order_reached (intent_unconstrained planning) hregistered hsupports hstart hmem
      exact ⟨encounter, start, hreached, .itself hsupports hstart⟩

-- Where every joymesh backend is bridged, a task for remote workers is placed by
-- the scheduler alone.
theorem leftToScheduler_remote
    (hremote : planning.hasNodes = true ∨ (asked task.requiredNode).isSome = true)
    (hbridged : ∀ item ∈ service.backends, item.2 ≠ .joyMeshBackend false) :
    LeftToScheduler service task planning := by
  have hremote : planning.hasNodes = true ∨ (task.requiredNode.any (· ≠ "")) = true := by
    refine hremote.imp_right fun hasked => ?_
    obtain ⟨required, hrequired⟩ := Option.isSome_iff_exists.mp hasked
    simp [asked_eq_some.mp hrequired]
  have hlocality : (planning.intent task).localityPreference = "remote" := by
    simp only [RoutePlanning.intent, plan, missionSpecFromTask, if_pos hremote]
  have hworker : ExecutionCapability.remoteWorker ∈
      (planning.intent task).requiredCapabilities := by
    simp only [RoutePlanning.intent, plan, missionSpecFromTask, decide_eq_true hremote, if_true]
    exact List.mem_dedup.mpr (List.mem_append_right _ List.mem_cons_self)
  intro decision hselect
  refine ⟨Bool.eq_false_iff.mpr fun hroute => (local_admitted hselect hroute).2 hlocality, ?_⟩
  intro backendId _ backend hregistered hsupports
  refine Option.eq_none_iff_forall_ne_some.mpr fun start hstart => ?_
  obtain ⟨before, after, hsplit, -⟩ := List.lookup_eq_some_iff.mp hregistered
  have hitem : backend ≠ .joyMeshBackend false :=
    hbridged (backendId, backend) (by simp [hsplit])
  have hnode := runsItself_remote hlocality hworker hsupports hstart
  cases backend with
  | localBackend harnesses =>
      obtain rfl := Option.some.inj hstart
      cases hnode
  | fireConnectBackend harnesses =>
      obtain rfl := Option.some.inj hstart
      cases hnode
  | joyMeshBackend bridged => cases bridged <;> simp_all [Backend.runsItself]
  | hostedBackend => cases hstart

-- Over every task, route and encounter: the requirements are honoured exactly
-- where the scheduler is not needed for them, or is alone.
theorem requirements_honoured_iff :
    RequirementsHonoured service engine order task planning ↔ Upheld service task planning := by
  constructor
  · intro h
    have hstart (hleft : ¬ LeftToScheduler service task planning) :
        ∃ decision start, service.router.select (planning.intent task) = .ok decision ∧
          Unscheduled (planning.intent task).toExecutionIntent decision start ∧
            Honoured task start := by
      obtain ⟨decision, hselect, encounter, start, hmem, hunscheduled⟩ :=
        exists_unscheduled engine order hleft
      exact ⟨decision, start, hselect, hunscheduled, h encounter start hmem⟩
    refine ⟨fun required hrequired => ?_, fun required hrequired => ?_,
      fun required hrequired => ?_⟩
    all_goals
      by_cases hleft : LeftToScheduler service task planning
      · exact .inr hleft
      obtain ⟨decision, start, hselect, hunscheduled, hhonoured⟩ := hstart hleft
      refine .inl ?_
    · have hharness : decision.selectedHarnessId = required :=
        hunscheduled.harness.symm.trans (hhonoured.connector required hrequired)
      exact (ExecutionRouter.select_pinned_iff (preferredHarness_of_required planning hrequired)
        (asked_eq_some.mp hrequired).2 hselect).mp hharness
    · have hnode := hunscheduled.node hselect hrequired
      exact Option.some.inj ((hhonoured.node required hrequired).symm.trans hnode)
    · have hprovider := hunscheduled.provider hselect hrequired
      exact Option.some.inj ((hhonoured.provider required hrequired).symm.trans hprovider)
  · intro h encounter start hstart
    rcases routeTask_started hstart with hhonoured | ⟨hleft, decision, hselect, hunscheduled⟩
    · exact hhonoured
    · refine ⟨fun required hrequired => ?_, fun required hrequired => ?_,
        fun required hrequired => ?_⟩
      · have havailable := (h.connector required hrequired).resolve_right hleft
        have hharness := (ExecutionRouter.select_pinned_iff
          (preferredHarness_of_required planning hrequired) (asked_eq_some.mp hrequired).2 hselect).mpr
            havailable
        exact hunscheduled.harness.trans hharness
      · rw [(h.node required hrequired).resolve_right hleft]
        exact hunscheduled.node hselect hrequired
      · rw [(h.provider required hrequired).resolve_right hleft]
        exact hunscheduled.provider hselect hrequired

end Unscheduled

section Replaced

def knownHarnesses : List String := ["claude", "codex", "cursor", "grok", "opencode", "vscode"]

-- The registry that the service is built with.
def builtinService : ExecutionRoutingService ℚ where
  backends :=
    [("local", .localBackend knownHarnesses),
      ("fireconnect", .fireConnectBackend ["codex", "claude", "opencode", "cursor"]),
      ("joymesh", .joyMeshBackend true), ("hosted", .hostedBackend)]
  availableHarnesses := knownHarnesses
  profiles := builtinCapabilityProfiles
  analyse := fun _ => { taskClass := .unknown, requiredSemantic := [] }

-- The sample task to read, with a connector that is no known harness.
def aiderTask : RuntimeTaskRecord := { sampleReadTask with requiredConnector := some "aider" }

def anthropicTask : RuntimeTaskRecord :=
  { sampleReadTask with requiredProvider := some "anthropic" }

def localPlanning : RoutePlanning ℚ where
  prompt := "summarise"
  workspacePath := "/repo"
  hasNodes := false
  analysis := {}
  executionId := "execution"

theorem leftToScheduler_pinned : LeftToScheduler builtinService
    { sampleReadTask with requiredNode := some "node" } localPlanning :=
  leftToScheduler_remote (.inr rfl) (by simp [builtinService])

-- The search falls through to a harness that nobody asked for, and the manager
-- enables the one route that it has.
theorem requirements_replaced :
    ¬ RequirementsHonoured builtinService sampleEngine .asGiven aiderTask localPlanning ∧
      ¬ RequirementsHonoured builtinService sampleEngine .asGiven anthropicTask localPlanning := by
  constructor
  · intro h
    have hstart : { harnessId := "cursor" } ∈ routeTask builtinService sampleEngine .asGiven
        aiderTask localPlanning fun _ => smooth := by
      decide +kernel
    exact absurd ((h _ _ hstart).connector "aider" rfl) (by decide)
  · intro h
    have hstart : { harnessId := "cursor", providerId := some "fireworks" } ∈ routeTask
        builtinService sampleEngine .asGiven anthropicTask localPlanning fun _ => smooth := by
      decide +kernel
    exact absurd ((h _ _ hstart).provider "anthropic" rfl) (by decide)

end Replaced

end JoyMesh.Runtime
