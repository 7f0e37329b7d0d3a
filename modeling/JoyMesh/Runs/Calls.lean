import JoyMesh.Harnesses.Fallback
import JoyMesh.Runs.Service

namespace JoyMesh.Runs.Calls

open JoyMesh.Library JoyMesh.Routing JoyMesh.Harnesses

section Definitions

inductive Raised where
  | service (error : ServiceError)
  | fault (fault : Fault)

structure RunRow where
  id : String
  run : StartedRun
  status : RunStatus
deriving DecidableEq

structure Checkpoint where
  attemptId : String
  harnessId : String
  status : RunStatus

-- What the calls await, and the calls in between that can raise or that read the world.
inductive Op where
  | initializeDatabase
  | loadUserConfig
  | resolveWorkspace (path : String)
  | detect
  | listSubscriptions
  | quotaSnapshot (harnessId : String)
  | activeCount (harnessId : String) (subscriptionId : Option String)
  | validateLaunch
  | createRun (run : StartedRun)
  | saveCheckpoint (executionId : String) (checkpoint : Checkpoint)
  | event
  | createTask (runId : String)
  | getFallback (proposalId : String)
  | createFallback (originalRunId : String) (route : RouteCandidate) (requiresApproval : Bool)
  | approveFallback (proposalId continuationRunId : String)
  | setSubscriptionState (subscriptionId : String) (state : SubscriptionState)
  | getRun (runId : String)
  | loadRun (runId : String)
  | commitRun (runId : String) (loaded target : RunStatus)
  | findRequest (runId : String)
  | popRequest (runId : String)
  | taskDone (runId : String)
  | runtimeExecute
  | classifyFailure
  | observeExecution
  | runtimeCancel (runId : String)
  | findTask (runId : String)
  | gatherTask (runId : String)
  | publish
  | flushOnce

@[reducible] def Op.Reply : Op → Type
  | loadUserConfig => HarnessPreferences
  | resolveWorkspace _ => String
  | detect => String → Bool
  | listSubscriptions => List SubscriptionProfile
  | quotaSnapshot _ => QuotaSnapshot
  | activeCount _ _ => Nat
  | validateLaunch => LaunchReading
  | createRun _ => String
  | getFallback _ => FallbackProposal
  | getRun _ => Option RunRow
  | loadRun _ => RunStatus
  | findRequest _ => Bool
  | runtimeExecute => Int
  | classifyFailure => Bool
  | runtimeCancel _ => Bool
  | findTask _ => Bool
  | _ => Unit

@[reducible] def signature : Signature where
  Op := Op
  Reply := Op.Reply
  Error := Raised

abbrev CallM := Program signature

@[reducible] def perform (op : Op) : CallM op.Reply := @Program.perform signature op

def lift {α : Type} : Except ServiceError α → CallM α
  | .ok value => return value
  | .error error => throw (Raised.service error)

variable (registry : HarnessRegistry)

-- The quota and the active runs are read anew for each candidate.
def candidate (request : RoutePreviewRequest) (available : String → Bool)
    (subscriptions : List SubscriptionProfile) (adapter : HarnessAdapter)
    (maturity : AdapterMaturity) (profile : Option SubscriptionProfile) :
    CallM RouteCandidate := do
  let snapshot ← perform (.quotaSnapshot adapter.harnessId)
  let active ← perform (.activeCount adapter.harnessId (profile.map SubscriptionProfile.id))
  return Router.candidate request
    { available, subscriptions, quota := some fun _ => snapshot, activeCount := fun _ _ => active }
    adapter maturity profile

def candidatesOf (request : RoutePreviewRequest) (available : String → Bool)
    (subscriptions : List SubscriptionProfile) (adapter : HarnessAdapter) :
    CallM (List RouteCandidate) := do
  let definition ← lift ((registry.definition adapter.harnessId).mapError ServiceError.ofPy)
  let profiles := Router.profiles
    { available, subscriptions, quota := none, activeCount := fun _ _ => 0 } adapter
  profiles.mapM (candidate request available subscriptions adapter definition.maturity)

def preview (request : RoutePreviewRequest) : CallM (Option RouteCandidate) := do
  let available ← perform .detect
  let _ ← lift (registry.detect.mapError ServiceError.ofPy)
  let subscriptions ← perform .listSubscriptions
  let found ← registry.list.mapM (candidatesOf registry request available subscriptions)
  return leading Router.sortKey RouteCandidate.eligible found.flatten

def previewRoutes (request : RunRequest) (preferredHarness : Option String) :
    CallM (Option RouteCandidate) := do
  perform .initializeDatabase
  let resolved ← perform (.resolveWorkspace request.workspace)
  preview registry {
    task := request.task
    workspace := resolved
    requiredCapabilities := request.requiredCapabilities
    preferredHarness := preferredHarness
    allowedHarnesses := request.allowedHarnesses
    deniedHarnesses := request.deniedHarnesses
    paidRoutesApproved := request.paidRoutesApproved }

def resolveRoute (request : RunRequest) (preferredHarness : Option String) :
    CallM RouteCandidate := do
  match ← previewRoutes registry request preferredHarness with
  | some selected => return selected
  | none => throw (Raised.service (.noRoute "no eligible harness route"))

-- The row is stored as queued, many awaits after the route was previewed.
def startRun (request : RunRequest) (route : RouteCandidate)
    (taskContextId continuationOfRunId : Option String) : CallM String := do
  perform .initializeDatabase
  let resolved ← perform (.resolveWorkspace request.workspace)
  let launch ← perform .validateLaunch
  let started ← lift (Harnesses.startRun registry launch (fun _ => .ok resolved) request route
    taskContextId continuationOfRunId)
  let runId ← perform (.createRun started)
  perform (.saveCheckpoint ((given request.executionId).getD runId)
    ⟨runId, started.harnessId, .queued⟩)
  perform .event
  perform (.createTask runId)
  return runId

-- A call of run without a route, on the registry with the custom harnesses.
def runResolved (request : RunRequest) (harness : String) : CallM String := do
  let prefs ← perform .loadUserConfig
  let available ← perform .detect
  let override := JoyMeshService.override registry harness
  let known ← lift (registry.detect.mapError ServiceError.ofPy)
  let ready := known.filter fun item => available item &&
    (prefs.enabled.isEmpty || prefs.enabled.contains item)
  let resolution ← lift ((resolveHarness prefs (given override).isSome
    registry.allowTestHarnesses ready override
    (JoyMeshService.canonical registry request.preferredHarness) false none known).mapError
      fun error => .noRoute error.message error.code)
  if (given override).isSome then do
    lift (assertCapabilities registry resolution.harnessId request.requiredCapabilities)
    let locked := JoyMeshService.lockedRequest request resolution.harnessId
    let selected ← resolveRoute registry locked (some resolution.harnessId)
    startRun registry locked selected none none
  else do
    let selected ← resolveRoute registry request (some resolution.harnessId)
    startRun registry request selected none none

def approveFallback (proposalId : String) : CallM String := do
  let proposal ← perform (.getFallback proposalId)
  perform .initializeDatabase
  match ← perform (.getRun proposal.originalRunId) with
  | none => throw (Raised.service ⟨"KeyError", "original run not found", none⟩)
  | some original =>
      perform .publish
      let continuation ← startRun registry (Fallbacks.continuationRequest original.run)
        proposal.route original.run.taskContextId (some original.id)
      perform (.approveFallback proposal.id continuation)
      return continuation

def updateRun (runId : String) (target : RunStatus) : CallM Unit := do
  let loaded ← perform (.loadRun runId)
  perform (.commitRun runId loaded target)

def setRateLimited (subscriptionId : Option String) : CallM Unit :=
  match given subscriptionId with
  | some subscriptionId => perform (.setSubscriptionState subscriptionId .rateLimited)
  | none => return ()

def handleRateLimit (row : RunRow) : CallM Unit := do
  setRateLimited row.run.subscriptionId
  perform .event
  match ← previewRoutes registry
      { task := row.run.task, workspace := row.run.workspace, paidRoutesApproved := true } none with
  | none => return ()
  | some route =>
      perform .initializeDatabase
      let subscriptions ← perform .listSubscriptions
      let requiresApproval := subscriptions.any fun profile =>
        profile.id = route.subscriptionId.getD "" && profile.requiresPaidApproval
      perform (.createFallback row.id route requiresApproval)
      perform .event
      if requiresApproval then perform .event else return ()

def publishRuntimeObservation : CallM Unit := do
  perform .observeExecution
  perform .event

-- The try block of _execute.
def attempt (row : RunRow) : CallM Unit := do
  let exitCode ← perform .runtimeExecute
  let current ← perform (.getRun row.id)
  if current.all fun current => current.status = .cancelled then return ()
  else if exitCode = 0 then do
    updateRun row.id .completed
    publishRuntimeObservation
    perform .event
  else do
    let rateLimit ← perform .classifyFailure
    updateRun row.id .failed
    publishRuntimeObservation
    perform .event
    if rateLimit then handleRateLimit registry row else return ()

-- Its except clauses.
def handled (runId : String) : Raised → CallM Unit
  | .fault .timeout => do
      updateRun runId .timedOut
      publishRuntimeObservation
      perform .event
  | .fault .cancelled => throw (Raised.fault .cancelled)
  | .fault .abort => throw (Raised.fault .abort)
  | _ => do
      updateRun runId .failed
      publishRuntimeObservation
      perform .event

-- What is done however the program ends.
def ending (op : Op) (program : CallM Unit) : CallM Unit := do
  program.catching fun raised => do
    let _ ← perform op
    throw raised
  let _ ← perform op
  return ()

-- RUNNING is written over whatever the row has become since it was read.
def execute (runId : String) : CallM Unit := do
  let row ← perform (.getRun runId)
  let request ← perform (.findRequest runId)
  match row with
  | none => return ()
  | some row =>
      if request then do
        let _ ← lift ((registry.get row.run.harnessId).mapError ServiceError.ofPy)
        updateRun runId .running
        perform .event
        ending (.popRequest runId) ((attempt registry row).catching (handled runId))
      else return ()

-- A task whose child is not there to be terminated is cancelled, and waited for.
def stopTask (runId : String) : CallM Unit := do
  let terminated ← perform (.runtimeCancel runId)
  let task ← perform (.findTask runId)
  if !terminated && task then perform (.gatherTask runId) else return ()

def cancel (runId : String) : CallM Unit := do
  perform .initializeDatabase
  match ← perform (.getRun runId) with
  | none => throw (Raised.service ⟨"KeyError", "unknown run: " ++ runId, none⟩)
  | some row =>
      if row.status.terminal then return ()
      else do
        updateRun runId .cancelled
        stopTask runId
        perform (.saveCheckpoint runId ⟨runId, row.run.harnessId, .cancelled⟩)
        perform .event
        perform .publish
        perform .flushOnce

-- The public calls, and the tasks of the runs that they start.
inductive Call where
  | run (request : RunRequest) (harness : String)
  | resolveRoute (request : RunRequest) (preferredHarness : Option String)
  | startRun (request : RunRequest) (route : RouteCandidate)
      (taskContextId continuationOfRunId : Option String)
  | approveFallback (proposalId : String)
  | execute (runId : String)
  | cancel (runId : String)

inductive Outcome where
  | route (route : RouteCandidate)
  | run (runId : String)
  | ended

def Call.program : Call → CallM Outcome
  | .run request harness => return .run (← runResolved registry request harness)
  | .resolveRoute request preferredHarness =>
      return .route (← Calls.resolveRoute registry request preferredHarness)
  | .startRun request route taskContextId continuationOfRunId =>
      return .run (← Calls.startRun registry request route taskContextId continuationOfRunId)
  | .approveFallback proposalId => return .run (← Calls.approveFallback registry proposalId)
  | .execute runId => do
      ending (.taskDone runId) (Calls.execute registry runId)
      return .ended
  | .cancel runId => do
      Calls.cancel runId
      return .ended

-- The tables, each new row first, and what the service keeps in memory.
structure Shared where
  subscriptions : List SubscriptionProfile := []
  rows : List RunRow := []
  proposals : List FallbackProposal := []
  checkpoints : Table String Checkpoint := ∅
  requests : List String := []
  tasks : List String := []
  started : List String := []
  done : List String := []

-- A task begins once.
def Call.enter : Call → Shared → Option Shared
  | .execute runId, s =>
      if runId ∈ s.tasks ∧ runId ∉ s.started then some { s with started := runId :: s.started }
      else none
  | _, s => some s

def active (status : RunStatus) : Bool := status = .queued || status = .running

def RunRow.active (row : RunRow) : Bool := Calls.active row.status

-- The active runs of a kind.
def Shared.countActive (s : Shared) (kind : StartedRun → Bool) : Nat :=
  s.rows.countP fun row => row.active && kind row.run

-- An empty id of a subscription counts as none.
def Shared.activeCount (s : Shared) (harnessId : String) (subscriptionId : Option String) : Nat :=
  s.countActive fun run => run.harnessId = harnessId &&
    (given subscriptionId).all fun id => run.subscriptionId = some id

def Shared.find (s : Shared) (runId : String) : Option RunRow := s.rows.find? (·.id = runId)

-- What is raised where, whether a commit that raises has written, and what is answered.
structure Choice where
  fault : Option Fault := none
  wrote : Bool := false
  id : String := ""
  prefs : HarnessPreferences := {}
  resolved : String := "/work"
  available : String → Bool := fun _ => true
  snapshot : QuotaSnapshot := ⟨.ready, .available⟩
  launch : LaunchReading := ⟨0, fun _ => .ok .ready, fun _ => .ok .ready⟩
  exitCode : Int := 0
  rateLimit : Bool := false
  terminated : Bool := false

def Choice.writes (choice : Choice) : Bool := choice.fault = none ∨ choice.wrote

def answered {α : Type} (choice : Choice) (value : α) (s : Shared) :
    Option (Except Raised α × Shared) :=
  match choice.fault with
  | none => some (.ok value, s)
  | some .timeout => none
  | some fault => some (.error (.fault fault), s)

def keyError {α : Type} (text : String) (s : Shared) : Option (Except Raised α × Shared) :=
  some (.error (.service ⟨"KeyError", text, none⟩), s)

def Shared.write (s : Shared) (runId : String) (target : RunStatus) : Shared :=
  { s with rows := updateKey RunRow.id runId (fun row => { row with status := target }) s.rows }

def Shared.insert (s : Shared) (id : String) (run : StartedRun) : Shared :=
  { s with rows := ⟨id, run, .queued⟩ :: s.rows }

def Shared.setSubscription (s : Shared) (subscriptionId : String)
    (update : SubscriptionProfile → SubscriptionProfile) : Shared :=
  { s with
    subscriptions := updateKey SubscriptionProfile.id subscriptionId update s.subscriptions }

-- The ids are new ones. A commit writes what differs from the row that was loaded.
def effect : (op : Op) → Choice → Shared → Option (Except Raised op.Reply × Shared)
  | .initializeDatabase, choice, s => answered choice () s
  | .loadUserConfig, choice, s => answered choice choice.prefs s
  | .resolveWorkspace _, choice, s => answered choice choice.resolved s
  | .detect, choice, s => answered choice choice.available s
  | .listSubscriptions, choice, s => answered choice s.subscriptions s
  | .quotaSnapshot _, choice, s => answered choice choice.snapshot s
  | .activeCount harnessId subscriptionId, choice, s =>
      answered choice (s.activeCount harnessId subscriptionId) s
  | .validateLaunch, choice, s => answered choice choice.launch s
  | .createRun run, choice, s =>
      if (s.find choice.id).isSome then none
      else answered choice choice.id (if choice.writes then s.insert choice.id run else s)
  | .saveCheckpoint executionId checkpoint, choice, s =>
      answered choice () (if choice.writes then
        { s with checkpoints := s.checkpoints.insert executionId checkpoint } else s)
  | .event, choice, s => answered choice () s
  | .createTask runId, _, s =>
      some (.ok (), { s with requests := runId :: s.requests, tasks := runId :: s.tasks })
  | .getFallback proposalId, choice, s =>
      match s.proposals.find? (·.id = proposalId) with
      | none => keyError ("unknown fallback proposal: " ++ proposalId) s
      | some proposal => answered choice proposal s
  | .createFallback originalRunId route requiresApproval, choice, s =>
      if choice.id ∈ s.proposals.map FallbackProposal.id then none
      else answered choice () (if choice.writes then { s with
        proposals := {
          id := choice.id
          originalRunId := originalRunId
          route := route
          requiresApproval := requiresApproval } :: s.proposals } else s)
  | .approveFallback proposalId continuationRunId, choice, s =>
      if proposalId ∉ s.proposals.map FallbackProposal.id then
        keyError ("unknown fallback proposal: " ++ proposalId) s
      else answered choice () (if choice.writes then { s with
        proposals := updateKey FallbackProposal.id proposalId (fun proposal =>
          { proposal with approved := true, continuationRunId := some continuationRunId })
          s.proposals } else s)
  | .setSubscriptionState subscriptionId state, choice, s =>
      if subscriptionId ∉ s.subscriptions.map SubscriptionProfile.id then
        keyError ("unknown subscription: " ++ subscriptionId) s
      else answered choice () (if choice.writes then
        s.setSubscription subscriptionId fun profile => { profile with state := state } else s)
  | .getRun runId, choice, s => answered choice (s.find runId) s
  | .loadRun runId, choice, s =>
      match s.find runId with
      | none => keyError ("unknown run: " ++ runId) s
      | some row => answered choice row.status s
  | .commitRun runId loaded target, choice, s =>
      answered choice () (if choice.writes ∧ loaded ≠ target then s.write runId target else s)
  | .findRequest runId, _, s => some (.ok (runId ∈ s.requests), s)
  | .popRequest runId, _, s => some (.ok (), { s with requests := s.requests.filter (· ≠ runId) })
  | .taskDone runId, _, s => some (.ok (), { s with done := runId :: s.done })
  | .runtimeExecute, choice, s =>
      match choice.fault with
      | none => some (.ok choice.exitCode, s)
      | some fault => some (.error (.fault fault), s)
  | .classifyFailure, choice, s => answered choice choice.rateLimit s
  | .observeExecution, choice, s => answered choice () s
  | .runtimeCancel _, choice, s => answered choice choice.terminated s
  | .findTask runId, _, s => some (.ok (runId ∈ s.tasks ∧ runId ∉ s.done), s)
  | .gatherTask runId, choice, s =>
      if runId ∈ s.done ∨ choice.fault ≠ none then answered choice () s else none
  | .publish, choice, s => answered choice () s
  | .flushOnce, choice, s => answered choice () s

-- A new profile has an id that no run names. Its limits stay as they are.
inductive Outside where
  | createSubscription (profile : SubscriptionProfile)
  | setSubscriptionState (subscriptionId : String) (state : SubscriptionState)
  | recordUsage (subscriptionId : String) (amount : ℚ)

def outside : Outside → Shared → Option Shared
  | .createSubscription profile, s =>
      if profile.id ∈ s.subscriptions.map SubscriptionProfile.id ∨
          some profile.id ∈ s.rows.map fun row => row.run.subscriptionId then none
      else some { s with subscriptions := s.subscriptions ++ [profile] }
  | .setSubscriptionState subscriptionId state, s =>
      some (s.setSubscription subscriptionId fun profile => { profile with state := state })
  | .recordUsage subscriptionId amount, s =>
      some (s.setSubscription subscriptionId fun profile =>
        { profile with usedAmount := profile.usedAmount + amount })

-- Any number of calls and of tasks, each at one of its awaits.
@[reducible] def calls : System signature where
  Shared := Shared
  Call := Call
  Choice := Choice
  Outside := Outside
  Result := Outcome
  program := Call.program registry
  enter := Call.enter
  effect := effect
  outside := outside

end Definitions

section Rows

variable {s t : Shared} {row : RunRow} {runId : String} {target : RunStatus} {choice : Choice}

theorem mem_of_find (h : s.find runId = some row) : row ∈ s.rows ∧ row.id = runId :=
  ⟨List.mem_of_find?_eq_some h, by simpa using List.find?_some h⟩

theorem notMem_of_find (h : s.find runId = none) : runId ∉ s.rows.map RunRow.id := by
  rintro hmem
  obtain ⟨row, hrow, hid⟩ := List.mem_map.mp hmem
  simpa [hid] using List.find?_eq_none.mp h row hrow

theorem ids_write : (s.write runId target).rows.map RunRow.id = s.rows.map RunRow.id :=
  keys_updateKey fun _ => rfl

-- What an operation does to the rows: it leaves them, stores a queued run, or writes a status.
inductive Change (s : Shared) : Op → Choice → Shared → Prop
  | kept {op : Op} {choice : Choice} {t : Shared} (hrows : t.rows = s.rows)
      (hcheckpoints : (∀ executionId checkpoint, op ≠ .saveCheckpoint executionId checkpoint) →
        t.checkpoints = s.checkpoints) : Change s op choice t
  | stored {run : StartedRun} {choice : Choice} (hnew : s.find choice.id = none)
      (hwrites : choice.writes) : Change s (.createRun run) choice (s.insert choice.id run)
  | written {runId : String} {loaded target : RunStatus} {choice : Choice}
      (hwrites : choice.writes) (hne : loaded ≠ target) :
      Change s (.commitRun runId loaded target) choice (s.write runId target)

theorem answered_shared {α : Type} {value : α} {answer : Except Raised α} {first after : Shared}
    (h : answered choice value first = some (answer, after)) :
    after = first ∧ choice.fault ≠ some .timeout := by
  unfold answered at h
  split at h
  next hnone =>
    cases h
    exact ⟨rfl, by simp [hnone]⟩
  next => cases h
  next fault hne hfault =>
    cases h
    exact ⟨rfl, fun htimeout => hne (Option.some.inj (hfault.symm.trans htimeout))⟩

theorem effect_change {op : Op} {answer : Except Raised op.Reply}
    (h : effect op choice s = some (answer, t)) : Change s op choice t := by
  cases op with
  | createRun run =>
      simp only [effect] at h
      split at h
      · cases h
      next hnew =>
        obtain ⟨rfl, -⟩ := answered_shared h
        split
        next hwrites => exact .stored (by simpa using hnew) hwrites
        next => exact .kept rfl fun _ => rfl
  | commitRun runId loaded target =>
      simp only [effect] at h
      obtain ⟨rfl, -⟩ := answered_shared h
      split
      next hwrites => exact .written hwrites.1 hwrites.2
      next => exact .kept rfl fun _ => rfl
  | setSubscriptionState subscriptionId state =>
      simp only [effect] at h
      split at h
      · cases h
        exact .kept rfl fun _ => rfl
      · obtain ⟨rfl, -⟩ := answered_shared h
        split <;> exact .kept rfl fun _ => rfl
  | getFallback proposalId =>
      simp only [effect] at h
      split at h
      · cases h
        exact .kept rfl fun _ => rfl
      · obtain ⟨rfl, -⟩ := answered_shared h
        exact .kept rfl fun _ => rfl
  | createFallback =>
      simp only [effect] at h
      split at h
      · cases h
      · obtain ⟨rfl, -⟩ := answered_shared h
        split <;> exact .kept rfl fun _ => rfl
  | approveFallback =>
      simp only [effect] at h
      split at h
      · cases h
        exact .kept rfl fun _ => rfl
      · obtain ⟨rfl, -⟩ := answered_shared h
        split <;> exact .kept rfl fun _ => rfl
  | loadRun runId =>
      simp only [effect] at h
      split at h
      · cases h
        exact .kept rfl fun _ => rfl
      · obtain ⟨rfl, -⟩ := answered_shared h
        exact .kept rfl fun _ => rfl
  | runtimeExecute =>
      simp only [effect] at h
      split at h <;> (cases h; exact .kept rfl fun _ => rfl)
  | gatherTask =>
      simp only [effect] at h
      split at h
      · obtain ⟨rfl, -⟩ := answered_shared h
        exact .kept rfl fun _ => rfl
      · cases h
  | saveCheckpoint =>
      obtain ⟨rfl, -⟩ := answered_shared h
      split <;> exact .kept rfl fun hother => absurd rfl (hother _ _)
  | createTask | findRequest | popRequest | taskDone | findTask =>
      cases h
      exact .kept rfl fun _ => rfl
  | _ =>
      obtain ⟨rfl, -⟩ := answered_shared h
      exact .kept rfl fun _ => rfl

theorem Change.ids {op : Op} (h : (s.rows.map RunRow.id).Nodup) (hchange : Change s op choice t) :
    (t.rows.map RunRow.id).Nodup := by
  cases hchange with
  | kept hrows => rwa [hrows]
  | stored hnew => exact List.nodup_cons.mpr ⟨notMem_of_find hnew, h⟩
  | written => rwa [ids_write]

end Rows

end JoyMesh.Runs.Calls
