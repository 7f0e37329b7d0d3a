import JoyMesh.Routing.Scoring
import JoyMesh.Routing.Registry

namespace JoyMesh.Routing

structure ExecutionRouter (σ : Type) where
  registry : BackendRegistry
  availableHarnesses : List String
  entitlements : Entitlements := {}
  profiles : CapabilityProfiles σ
  availableConnectors : Option (List String) := none
  analyse : String → TaskAnalysis

structure RankedBackend (σ : Type) where
  backendId : String
  score : σ
  reason : String

-- The backends that one harness may use, of which there is at least one.
structure Candidates (σ : Type) where
  first : RankedBackend σ
  rest : List (RankedBackend σ)

def Candidates.toList {σ : Type} (candidates : Candidates σ) : List (RankedBackend σ) :=
  candidates.first :: candidates.rest

def backendIds {σ : Type} (ranked : List (RankedBackend σ)) : List String :=
  ranked.map (·.backendId)

structure RouteSelection (σ : Type) where
  selected : Option (ScoredRoute σ)
  candidates : List (ScoredRoute σ)

-- What the decision is written from.
structure Settled (σ : Type) where
  harnessId : String
  backendId : String
  reason : String
  route : Option (ScoredRoute σ)
  candidates : Candidates σ

section Harnesses

variable {σ : Type} [Score σ] (profiles : CapabilityProfiles σ) (analysis : TaskAnalysis)
  (policy : RoutingPolicy σ)

-- Harnesses that the scoring refuses come last. They are not dropped.
def rankHarnessIds (harnessIds : List String) : List String :=
  let scored := harnessIds.filterMap fun harnessId =>
    match profiles.harnesses.lookup harnessId with
    | none => some ((50.0 : σ), harnessId)
    | some profile =>
        let result := scoreHarnessOnly profile analysis policy
        if result.eligible then some (result.score, harnessId) else none
  let before (a b : σ × String) : Bool :=
    if -a.1 == -b.1 then a.2 < b.2 else -a.1 < -b.1
  let ordered := (sortedBy before scored).map (·.2)
  ordered ++ harnessIds.filter (· ∉ ordered)

-- A preferred harness comes first whether or not the scoring refuses it.
def orderHarnesses (availableHarnesses : List String) (preferredHarness : Option String) :
    List String :=
  let available := availableHarnesses.filter (· ≠ "")
  match preferredHarness with
  | none => rankHarnessIds profiles analysis policy available
  | some preferred =>
      if preferred ∈ available then
        preferred :: rankHarnessIds profiles analysis policy (available.filter (· ≠ preferred))
      else rankHarnessIds profiles analysis policy available

-- A harness without a profile is taken to be capable of everything.
def harnessProfile (harnessId : String) : HarnessProfile σ :=
  match profiles.harnesses.lookup harnessId with
  | some profile => profile
  | none => { harnessId, capabilities := SemanticCapability.all, quality := 0.5, costBias := 0.5 }

-- Each harness with each backend that the subscription and the quota allow.
def selectRoute (entitlements : Entitlements) (availableConnectors : Option (List String))
    (availableHarnesses : List String) (rankedBackends : List (RankedBackend σ))
    (preferredHarness : Option String) : RouteSelection σ :=
  let order := orderHarnesses profiles analysis policy availableHarnesses preferredHarness
  let allowed := rankedBackends.filter fun backend =>
    !Entitlements.refuses entitlements.subscriptionAllows backend.backendId &&
      !Entitlements.refuses entitlements.quotaAllows backend.backendId
  let candidates := order.flatMap fun harnessId =>
    allowed.filterMap fun backend =>
      bestConnectorModelForHarness analysis policy profiles availableConnectors
        (harnessProfile profiles harnessId) backend.backendId backend.score
  let ranked := rankRoutes candidates
  { selected := ranked.head?.filter (·.eligible), candidates := ranked }

end Harnesses

namespace ExecutionRouter

variable {σ : Type} [Score σ] (router : ExecutionRouter σ) (intent : RoutedIntent σ)

-- Whether the intent names a harness, available or not.
def pinned : Bool := intent.preferredHarness.any (· ≠ "")

def providerNeeded : Bool :=
  intent.requiresProviderRoute ||
    ExecutionCapability.providerRouting ∈ intent.requiredCapabilities

def backendScore (backend : ExecutionBackend) (capabilities : List ExecutionCapability) : σ :=
  let backendId := backend.backendId
  let priority := router.registry.config.priority
  let add (when : Bool) (amount score : σ) : σ := if when then score + amount else score
  let score : σ := if backendId ∈ priority then
    100.0 - ((priority.idxOf backendId * 5 : Nat) : σ) else 100.0 - 50.0
  let score := add (intent.costPreference = "cheapest" && backendId = "local") 10.0 score
  let score := add (intent.costPreference = "fastest" && backendId = "fireconnect") 5.0 score
  let score := add (intent.requiresProviderRoute &&
    ExecutionCapability.providerRouting ∈ capabilities) 20.0 score
  let score := add (intent.localityPreference = "local" && backendId = "local") 15.0 score
  add (intent.localityPreference = "remote" && backendId = "joymesh") 15.0 score

-- The capabilities of a backend with those that the configuration adds.
def capabilitiesOf (backend : ExecutionBackend) : List ExecutionCapability :=
  backend.capabilities ++ router.registry.overrideCapabilities backend.backendId

-- The filters that every ranked backend has passed. The quota is not one.
def admits (harnessId : String) (backend : ExecutionBackend) : Bool :=
  !Entitlements.refuses router.entitlements.subscriptionAllows backend.backendId &&
    backend.supports intent.toExecutionIntent harnessId &&
    covers intent.toExecutionIntent (router.capabilitiesOf backend)

-- The default backend goes to the front whatever its score is.
def defaultFirst (ranked : List (RankedBackend σ)) : List (RankedBackend σ) :=
  match router.registry.config.defaultBackend.filter (· ≠ "") with
  | none => ranked
  | some default =>
      (ranked.find? (·.backendId = default)).toList ++ ranked.eraseP (·.backendId = default)

def rankBackends (harnessId : String) : List (RankedBackend σ) :=
  let ranked := (router.registry.enabled.filter (router.admits intent harnessId)).map
    fun backend =>
      { backendId := backend.backendId
        score := router.backendScore intent backend (router.capabilitiesOf backend)
        reason := "matched capabilities via " ++ backend.backendId }
  let priority := router.registry.config.priority
  let place (item : RankedBackend σ) : Nat :=
    if item.backendId ∈ priority then priority.idxOf item.backendId else 99
  let before (a b : RankedBackend σ) : Bool :=
    if -a.score == -b.score then place a < place b else -a.score < -b.score
  router.defaultFirst (sortedBy before ranked)

-- The ranked backends that advertise provider routing themselves. What the
-- configuration adds to a backend does not count here.
def advertising : List (RankedBackend σ) → Except RouterFailure (List (RankedBackend σ))
  | [] => .ok []
  | item :: items => do
      let backend ← router.registry.get item.backendId
      let rest ← advertising items
      return if ExecutionCapability.providerRouting ∈ backend.capabilities then item :: rest
        else rest

-- What one harness is offered.
def offered (harnessId : String) : Except RouterFailure (List (RankedBackend σ)) :=
  let ranked := router.rankBackends intent harnessId
  if providerNeeded intent then router.advertising ranked else .ok ranked

-- The first harness that is offered a backend.
def chooseHarness : List String → Except RouterFailure (Option (String × Candidates σ))
  | [] => .ok none
  | harnessId :: harnessIds => do
      match ← router.offered intent harnessId with
      | [] => chooseHarness harnessIds
      | first :: rest => return some (harnessId, ⟨first, rest⟩)

def policy : RoutingPolicy σ := routingPolicy intent

def harnessOrder : List String :=
  orderHarnesses router.profiles (taskAnalysis router.analyse intent) (policy intent)
    router.availableHarnesses intent.preferredHarness

-- A preferred harness that is available is explored first.
def exploreHarnesses : List String :=
  let preferred := intent.preferredHarness.filter fun harnessId =>
    harnessId ≠ "" ∧ harnessId ∈ router.availableHarnesses
  (preferred.toList ++ router.harnessOrder intent).eraseDups

def chosen : Except RouterFailure (Option (String × Candidates σ)) :=
  router.chooseHarness intent (router.exploreHarnesses intent)

-- A better score replaces the earlier one of the backend in its place.
def keepBest (best : List (RankedBackend σ)) (item : RankedBackend σ) : List (RankedBackend σ) :=
  if best.any (·.backendId = item.backendId) then
    best.map fun prior =>
      if prior.backendId = item.backendId ∧ prior.score < item.score then item else prior
  else best ++ [item]

def backendsForHarnesses (harnessIds : List String) :
    Except RouterFailure (List (RankedBackend σ)) := do
  let offers ← harnessIds.mapM (router.offered intent)
  return sortedBy (fun a b => -a.score < -b.score) (offers.flatten.foldl keepBest [])

-- The scored routes. A pinned harness is scored with its own candidates only.
def selection (chosenHarness : String) (candidates : Candidates σ) :
    Except RouterFailure (RouteSelection σ) := do
  let select (harnesses : List String) (backends : List (RankedBackend σ)) : RouteSelection σ :=
    selectRoute router.profiles (taskAnalysis router.analyse intent) (policy intent)
      router.entitlements router.availableConnectors harnesses backends intent.preferredHarness
  if pinned intent then return select [chosenHarness] candidates.toList
  let order := router.harnessOrder intent
  let backends ← router.backendsForHarnesses intent order
  return select order (if backends.isEmpty then candidates.toList else backends)

-- The first candidate on the chosen harness, with the eligible route for it.
def firstCandidate (selection : RouteSelection σ) (chosenHarness : String)
    (candidates : Candidates σ) : Settled σ where
  harnessId := chosenHarness
  backendId := candidates.first.backendId
  reason := candidates.first.reason
  route := selection.candidates.find? fun route =>
    route.eligible && route.backendId = candidates.first.backendId &&
      route.harnessId = chosenHarness
  candidates := candidates

-- A connector or a model in a reason.
def shown (text : Option String) : String := (text.filter (· ≠ "")).getD "-"

def settle (chosenHarness : String) (candidates : Candidates σ) (selection : RouteSelection σ) :
    Except RouterFailure (Settled σ) :=
  match if pinned intent then none else selection.selected with
  | none =>
      let settled := firstCandidate selection chosenHarness candidates
      .ok { settled with
        reason := match settled.route with
          | none => settled.reason
          | some route => settled.reason ++ "; route " ++ shown route.connectorId ++ "/" ++
              shown route.modelId ++ " score=" ++ Score.fixed route.score }
  | some route => do
      let candidates := match ← router.offered intent route.harnessId with
        | [] => candidates
        | first :: rest => ⟨first, rest⟩
      if route.backendId ∈ backendIds candidates.toList then
        return {
          harnessId := route.harnessId
          backendId := route.backendId
          reason := "capability route " ++ route.harnessId ++ "+" ++ route.backendId ++ "+" ++
            shown route.connectorId ++ "+" ++ shown route.modelId ++ ": " ++ Score.fixed route.score
          route := some route
          candidates }
      -- The harness changes back to the chosen one, the candidates do not.
      return firstCandidate selection chosenHarness candidates

-- The configured order among the candidates, then the rest as ranked.
def fallbackOrder (settled : Settled σ) : List String :=
  let rest := (backendIds settled.candidates.toList).filter (· ≠ settled.backendId)
  let configured := router.registry.config.fallbackOrder.filter fun backendId =>
    backendId ≠ settled.backendId ∧ backendId ∈ backendIds settled.candidates.toList
  if configured.isEmpty then rest else
    let place (backendId : String) : Nat :=
      if backendId ∈ configured then configured.idxOf backendId
      else configured.length + rest.idxOf backendId
    sortedBy (fun a b => place a < place b) rest

def decisionOf (settled : Settled σ) : ExecutionDecision where
  executionId := intent.executionId
  selectedBackendId := settled.backendId
  selectedHarnessId := settled.harnessId
  reason := settled.reason
  fallbackOrder := router.fallbackOrder settled
  providerRoutingRequired := providerNeeded intent
  selectedConnectorId := settled.route.bind (·.connectorId)
  selectedModelId := (intent.preferredModel.filter (· ≠ "")).or
    (settled.route.bind (·.modelId))

def noBackend : ExecutionRouterError :=
  if providerNeeded intent then
    ⟨"provider_routing_unavailable",
      "provider routing required but no backend advertises provider_routing"⟩
  else
    ⟨"no_compatible_backend", "no enabled backend satisfies capability and policy constraints"⟩

def select : Except RouterFailure ExecutionDecision :=
  match enforceEntitlements router.entitlements intent.toExecutionIntent none with
  | .error error => .error (.refused error)
  | .ok () =>
      if router.harnessOrder intent = [] then
        .error (.refused ⟨"harness_unavailable", "no harnesses available"⟩)
      else do
        match ← router.chosen intent with
        | none => .error (.refused (noBackend intent))
        | some (chosenHarness, candidates) =>
            let selection ← router.selection intent chosenHarness candidates
            let settled ← router.settle intent chosenHarness candidates selection
            return router.decisionOf intent settled

end ExecutionRouter

end JoyMesh.Routing
