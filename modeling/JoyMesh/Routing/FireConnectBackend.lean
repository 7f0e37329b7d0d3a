import JoyMesh.ProviderRoutes.Manager
import JoyMesh.ProviderRoutes.Results
import JoyMesh.Routing.Registry

namespace JoyMesh.Routing.FireConnectBackend

open Library ProviderRoutes

section Execution

variable (intent : ExecutionIntent) (decision : ExecutionDecision)

def backendId : String := "fireconnect"

def routed : Bool := decision.providerRoutingRequired || intent.requiresProviderRoute

def validate (backend : ExecutionBackend) (health : BackendHealth) : Except Raised Unit :=
  if !backend.supports intent decision.selectedHarnessId then
    .error (.other "RuntimeError" "fireconnect backend does not support this intent/harness")
  else if !health.healthy then .error (.other "RuntimeError" health.detail)
  else .ok ()

-- bool(output.get("ok", True))
def okFlag (output : Mapping) : Bool := ((output.lookup "ok").map Value.truthy).getD true

-- Python's `text or other`.
def textOr (text other : String) : String := if text = "" then other else text

-- The output of a mapping is the mapping; anything else is told of in one.
def outputOf (lifecycle : LifecycleResult) : Mapping :=
  match lifecycle.executionResult with
  | some (.dict items) => .ofList items
  | raw => .ofList
      [("ok", .bool lifecycle.ok), ("message", .str lifecycle.message),
        ("restored", .bool lifecycle.restorationVerified), ("result", raw.getD .none)]

def response (ok : Bool) (status : ExecutionStatus) (message : String) (output : Mapping)
    (failureClass : Option ExecutionFailureClass) : ExecutionResult where
  ok
  executionId := intent.executionId
  backendId
  harnessId := decision.selectedHarnessId
  status
  message
  attemptedBackends := [backendId]
  decision
  output
  failureClass := failureClass.map ExecutionFailureClass.value

def routedResponse (lifecycle : LifecycleResult) : ExecutionResult :=
  let output := outputOf lifecycle
  if !lifecycle.restorationVerified then
    response intent decision false .blocked
      (textOr lifecycle.message "provider route restoration failed") output
      (some .providerRestoreFailure)
  else if lifecycle.reasonCode = some "connector_blocked" then
    response intent decision false .failed (textOr lifecycle.message "connector blocked") output
      (some .connectorBlocked)
  else
    let ok := lifecycle.ok && okFlag output
    response intent decision ok (if ok then .succeeded else .failed) lifecycle.message output
      (if ok then none else some .processFailure)

def directResponse (output : Mapping) : ExecutionResult :=
  let ok := okFlag output
  let message := output.get "message"
  response intent decision ok (if ok then .succeeded else .failed)
    (if message.truthy then message.text else "fireconnect execution completed") output none

-- The harness runs inside the lifecycle, or on its own.
def execute (backend : ExecutionBackend) (health : BackendHealth)
    (lifecycle : ProviderRoutes.Ending LifecycleResult) (harness : ProviderRoutes.Ending Mapping) :
    ProviderRoutes.Ending ExecutionResult :=
  match validate intent decision backend health with
  | .error error => .raised error
  | .ok _ =>
      if routed intent decision then
        match lifecycle with
        | .returned result => .returned (routedResponse intent decision result)
        | .raised error => .raised error
      else
        match harness with
        | .returned output => .returned (directResponse intent decision output)
        | .raised error => .raised error

end Execution

section Attribution

-- The output of the harness says that it is not ok.
def SaysNotOk : Value → Prop
  | .dict items => okFlag (.ofList items) = false
  | _ => False

-- A failed restoration is one under a lease, a blocked connector is one that the
-- lifecycle found blocked, and a restored execution is as good as its output says.
structure Attributed (result : LifecycleResult) (response : ExecutionResult) : Prop where
  restoration : response.failureClass = some ExecutionFailureClass.providerRestoreFailure.value ↔
    result.lease.isSome = true ∧ result.restorationVerified = false
  blocked : response.failureClass = some ExecutionFailureClass.connectorBlocked.value ↔
    ∃ detail, result = Lifecycle.blockedResult detail
  executed : ∀ raw, result.executionResult = some raw → result.restorationVerified = true →
    (response.ok = true ↔ ¬SaysNotOk raw)

-- The lifecycle held its lease, and where it restored the route it did not fail with
-- the code that stands for a blocked connector.
def Attributable (result : LifecycleResult) : Prop :=
  result.lease.isSome = true ∧
    (result.restorationVerified = true → result.reasonCode ≠ some "connector_blocked")

instance {result : LifecycleResult} : Decidable (Attributable result) := by
  unfold Attributable
  infer_instance

variable {intent : ExecutionIntent} {decision : ExecutionDecision} {result : LifecycleResult}
  {key : ProviderRoutes.Key}

theorem unrestored (h : result.restorationVerified = false) :
    (routedResponse intent decision result).failureClass =
      some ExecutionFailureClass.providerRestoreFailure.value := by
  rw [routedResponse, h]
  rfl

theorem restored_blocked (h : result.restorationVerified = true)
    (hreason : result.reasonCode = some "connector_blocked") :
    (routedResponse intent decision result).failureClass =
      some ExecutionFailureClass.connectorBlocked.value := by
  rw [routedResponse, h, hreason]
  rfl

-- A restored lifecycle with another code is reported by the flags of the two results.
theorem restored (h : result.restorationVerified = true)
    (hreason : result.reasonCode ≠ some "connector_blocked") :
    (routedResponse intent decision result).ok = (result.ok && okFlag (outputOf result)) ∧
      ((routedResponse intent decision result).failureClass = none ∨
        (routedResponse intent decision result).failureClass =
          some ExecutionFailureClass.processFailure.value) := by
  rw [routedResponse, h, Bool.not_true, if_neg (by decide), if_neg hreason]
  refine ⟨rfl, ?_⟩
  dsimp only [response]
  split
  · exact .inl rfl
  · exact .inr rfl

theorem okFlag_outputOf {raw : Value} (h : result.executionResult = some raw)
    (hok : result.ok = true) : okFlag (outputOf result) = true ↔ ¬SaysNotOk raw := by
  rw [outputOf, h]
  cases raw with
  | dict items => simp [SaysNotOk]
  | _ =>
      refine iff_of_true ?_ id
      rw [hok]
      rfl

theorem attributed_of_held (hreturned : result.Returned key) (h : Attributable result) :
    Attributed result (routedResponse intent decision result) := by
  obtain ⟨hlease, hreason⟩ := h
  have hblocked : ¬∃ detail, result = Lifecycle.blockedResult detail := by
    rintro ⟨detail, rfl⟩
    cases hlease
  cases hverified : result.restorationVerified with
  | false =>
      have hclass := @unrestored intent decision result hverified
      refine ⟨iff_of_true hclass ⟨hlease, hverified⟩, iff_of_false ?_ hblocked, fun raw _ h => ?_⟩
      · rw [hclass]
        decide
      · cases hverified.symm.trans h
  | true =>
      obtain ⟨hok, hclass⟩ := @restored intent decision result hverified (hreason hverified)
      refine ⟨iff_of_false ?_ (fun h => by cases hverified.symm.trans h.2), iff_of_false ?_ hblocked,
        fun raw hraw _ => ?_⟩
      · rcases hclass with hclass | hclass <;> rw [hclass] <;> decide
      · rcases hclass with hclass | hclass <;> rw [hclass] <;> decide
      · have hexecuted := (hreturned.executed (hraw ▸ rfl) hverified).1
        rw [hok, hexecuted, Bool.true_and]
        exact okFlag_outputOf hraw hexecuted

theorem held_of_attributed (hreturned : result.Returned key)
    (h : Attributed result (routedResponse intent decision result)) : Attributable result := by
  refine ⟨?_, fun hverified hreason => ?_⟩
  · rw [Option.isSome_iff_ne_none]
    intro hnone
    have hlease := (h.restoration.mp (unrestored (hreturned.early hnone))).1
    rw [hnone] at hlease
    cases hlease
  · obtain ⟨detail, rfl⟩ := h.blocked.mp (restored_blocked hverified hreason)
    cases hverified

-- Whatever a lifecycle of any run has returned, the response attributes it exactly
-- where the lifecycle got as far as its lease.
theorem attributed_iff {backend : ExecutionBackend} {health : BackendHealth}
    {harness : ProviderRoutes.Ending Mapping} {response : ExecutionResult}
    {routes : ProviderRoutes.Key → RouteState}
    {labels : List ProviderRoutes.Label} {w : World} {id : CallId} {call : Call} {args : LifecycleArgs}
    (hrun : run World.step (World.initial routes) labels = some w) (hcall : w.calls id = some call)
    (htask : call.task = .lifecycle key args (.finished (.returned result)))
    (hrouted : routed intent decision = true)
    (hexecute : execute intent decision backend health (.returned result) harness =
      .returned response) : Attributed result response ↔ Attributable result := by
  have hreturned := World.returned_of_run hrun hcall htask
  obtain rfl : routedResponse intent decision result = response := by
    unfold execute at hexecute
    split at hexecute
    · cases hexecute
    · rw [if_pos hrouted] at hexecute
      exact ProviderRoutes.Ending.returned.inj hexecute
  exact ⟨held_of_attributed hreturned, attributed_of_held hreturned⟩

end Attribution

section Samples

def routedIntent : ExecutionIntent where
  missionId := "mission"
  executionId := "first"
  prompt := "summarise"
  workspacePath := "/work"
  requiredCapabilities := []
  requiresProviderRoute := true

def openCodeDecision : ExecutionDecision where
  executionId := "first"
  selectedBackendId := backendId
  selectedHarnessId := "opencode"
  reason := "provider_route"
  fallbackOrder := []
  providerRoutingRequired := true

def ready : BackendHealth := ⟨true, "ready", "healthy"⟩

-- A lifecycle from its start to its end, and one that waits for the local lock in vain.
def restoredRun : List ProviderRoutes.Label :=
  opening 0 0 "first" ++ answers 0 "first"
    [.reading (readingOf routeOff), .plain, switched routeOn, .reading (readingOf routeOn), .plain,
      .value (.dict [("ok", .bool true)]), switched routeOff, .reading (readingOf routeOff), .plain]

def waitingRun : List ProviderRoutes.Label :=
  (opening 0 0 "first").take 3 ++ answers 0 "first" [.raised none .timeoutError]

def Call.returned (call : Call) : Option LifecycleResult :=
  match call.task with
  | .lifecycle _ _ (.finished (.returned result)) => some result
  | _ => none

def returnedIn (labels : List ProviderRoutes.Label) : Option LifecycleResult :=
  (run World.step (World.initial fireConnect.disable) labels).bind fun w =>
    (w.calls 0).bind Call.returned

theorem returnedIn_eq_some {labels : List ProviderRoutes.Label} {result : LifecycleResult}
    (h : returnedIn labels = some result) : ∃ w call key args,
      run World.step (World.initial fireConnect.disable) labels = some w ∧ w.calls 0 = some call ∧
      call.task = .lifecycle key args (.finished (.returned result)) := by
  obtain ⟨w, hrun, h⟩ := Option.bind_eq_some_iff.mp h
  obtain ⟨call, hcall, h⟩ := Option.bind_eq_some_iff.mp h
  unfold Call.returned at h
  split at h
  next key args found htask =>
    cases h
    exact ⟨w, call, key, args, hrun, hcall, htask⟩
  next => cases h

theorem restored_run_attributed : ∃ result response, returnedIn restoredRun = some result ∧
    execute routedIntent openCodeDecision (fireConnectBackend ["opencode"]) ready
      (.returned result) (.returned ∅) = .returned response ∧ Attributed result response := by
  obtain ⟨result, hresult⟩ := Option.isSome_iff_exists.mp
    (show (returnedIn restoredRun).isSome by decide +kernel)
  have hattributable : (returnedIn restoredRun).all (fun result => decide (Attributable result)) =
      true := by decide +kernel
  rw [hresult, Option.all_some, decide_eq_true_iff] at hattributable
  obtain ⟨w, call, key, args, hrun, hcall, htask⟩ := returnedIn_eq_some hresult
  have hexecute : execute routedIntent openCodeDecision (fireConnectBackend ["opencode"]) ready
      (.returned result) (.returned ∅) =
        .returned (routedResponse routedIntent openCodeDecision result) := rfl
  exact ⟨result, _, hresult, hexecute,
    (attributed_iff hrun hcall htask rfl hexecute).mpr hattributable⟩

-- The lifecycle has changed nothing, and the response speaks of a restoration.
theorem waiting_run_misattributed : returnedIn waitingRun = some Lifecycle.lockTimeout ∧
    ∃ response, execute routedIntent openCodeDecision (fireConnectBackend ["opencode"]) ready
        (.returned Lifecycle.lockTimeout) (.returned ∅) = .returned response ∧
      response.failureClass = some "provider_restore_failure" ∧
      ¬Attributed Lifecycle.lockTimeout response := by
  refine ⟨by decide +kernel, _, rfl, rfl, fun h => ?_⟩
  cases (h.restoration.mp rfl).1

end Samples

end JoyMesh.Routing.FireConnectBackend
