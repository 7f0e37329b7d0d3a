import JoyMesh.Routing.Policies
import Mathlib.Data.List.Sort

namespace JoyMesh.Routing

structure ScoredRoute (σ : Type) where
  harnessId : String
  backendId : String
  connectorId : Option String
  modelId : Option String
  score : σ
  eligible : Bool := true
  rejectionReason : Option String := none

-- The arguments by which one route is scored.
structure RouteCandidate (σ : Type) where
  harness : HarnessProfile σ
  backendId : String
  backendBaseScore : σ
  connector : Option (ConnectorProfile σ) := none
  model : Option (ModelProfile σ) := none
  subscriptionOk : Bool := true
  quotaOk : Bool := true

section Scoring

variable {σ : Type} [Score σ]

def latencyScore (latency : String) : σ :=
  ([("low", 1.0), ("medium", 0.6), ("high", 0.3)].lookup latency).getD 0.5

def reliabilityScore (reliability : String) : σ :=
  ([("low", 0.4), ("medium", 0.7), ("high", 1.0)].lookup reliability).getD 0.7

def pricingCost (tier : String) : σ :=
  ([("free", 0.0), ("cheap", 0.25), ("standard", 0.55), ("premium", 0.9)].lookup tier).getD 0.5

-- The covered share of what is required, and what is missing.
def harnessCapabilityMatch (profile : HarnessProfile σ) (required : List SemanticCapability) :
    σ × List SemanticCapability :=
  if required = [] then (1.0, []) else
    let missing := required.filter (· ∉ profile.capabilities)
    (((required.length - missing.length : Nat) : σ) / (required.length : σ), missing)

def softClasses : List TaskClass :=
  [.unknown, .quickQuestion, .planning, .documentation]

namespace RouteCandidate

variable (task : TaskAnalysis) (policy : RoutingPolicy σ) (route : RouteCandidate σ)

-- A refused candidate. Its score is below those of eligible ones.
def reject (reason : String) : ScoredRoute σ where
  harnessId := route.harness.harnessId
  backendId := route.backendId
  connectorId := route.connector.map (·.connectorId)
  modelId := route.model.map (·.modelId)
  score := -1.0
  eligible := false
  rejectionReason := some reason

-- The first rule that refuses the candidate. Local routes are asked of the
-- connectors only, never of the backend.
def rejection : Option String :=
  let (share, missing) := harnessCapabilityMatch route.harness task.requiredSemantic
  let allowPartial := task.taskClass ∈ softClasses ∧ ¬ share < (0.5 : σ)
  if missing ≠ [] ∧ ¬ allowPartial ∧ share < (1.0 : σ) then some "capability_mismatch"
  else if route.harness.harnessId ∈ policy.deniedHarnesses then some "harness_denied"
  else if route.connector.any fun c => c.connectorId ∈ policy.deniedConnectors then
    some "connector_denied"
  else if route.model.any fun m => m.modelId ∈ policy.deniedModels then some "model_denied"
  else if !route.subscriptionOk then some "subscription_unavailable"
  else if !route.quotaOk then some "quota_exhausted"
  else if (task.privacyRequired ∨ policy.preferLocal ∨
      SemanticCapability.localOnly ∈ task.requiredSemantic) ∧
      route.connector.any (fun c => !c.isLocal && c.privacy != "local") then
    some "privacy_requires_local"
  else if policy.avoidPaidApis ∧
      route.connector.any (fun c => c.pricingTier ∈ ["standard", "premium"]) then
    some "avoid_paid_apis"
  else match policy.maxCost, route.model with
    | some maxCost, some model =>
        if maxCost < model.cost then some "max_cost_exceeded" else none
    | _, _ => none

def quality : σ :=
  let quality := route.harness.quality * 15.0
  match route.model with
  | none => quality
  | some model =>
      let quality := quality + (model.coding * 8.0 + model.reasoning * 8.0 + model.toolUse * 4.0)
      let quality := if SemanticCapability.vision ∈ task.requiredSemantic then
        quality + model.vision * 6.0 else quality
      if SemanticCapability.reasoning ∈ task.requiredSemantic then
        quality + model.reasoning * 5.0 else quality

def quotaScore : σ :=
  match route.connector.bind (·.quotaRemainingFraction) with
  | none => 10.0
  | some fraction => 10.0 * fraction

def health : σ :=
  match route.connector with
  | none => 5.0
  | some connector =>
      let health : σ := 10.0 * connector.health
      if connector.rateLimited then health - 5.0 else health

def latencyComponent : σ :=
  let component := latencyScore route.harness.latency * 8.0
  let component := match route.connector with
    | none => component
    | some connector => component + latencyScore connector.latency * 4.0
  match route.model with
  | none => component
  | some model => component + (1.0 - model.latency) * 6.0

def costPenalty : σ :=
  let penalty := route.harness.costBias * 8.0
  let penalty := match route.connector with
    | none => penalty
    | some connector => penalty + pricingCost connector.pricingTier * 8.0
  match route.model with
  | none => penalty
  | some model => penalty + model.cost * 10.0

-- What the policy adds. It never makes a refused candidate eligible.
def policyBonus : σ :=
  let add (when : Bool) (amount bonus : σ) : σ := if when then bonus + amount else bonus
  let isLocal := route.connector.any (·.isLocal)
  let saved := 15.0 - costPenalty route
  let bonus : σ := 0.0
  let bonus := add (policy.preferLocal && isLocal) 20.0 bonus
  let bonus := add (policy.preferLocal && !isLocal && route.backendId = "local") 10.0 bonus
  let costSensitive := SemanticCapability.costSensitive ∈ task.requiredSemantic
  let bonus := add (policy.preferCheapest || costSensitive)
    (if (0.0 : σ) < saved then saved else 0.0) bonus
  let bonus := add policy.preferFastest (latencyComponent route * 0.5) bonus
  let bonus := match route.model with
    | none => bonus
    | some model =>
        let bonus := add policy.preferStrongestReasoning (model.reasoning * 20.0) bonus
        add (policy.preferOpenModels && model.openWeights) 15.0 bonus
  let bonus := add policy.maximizeQuality (quality task route * 0.35) bonus
  let bonus := add (route.harness.harnessId ∈ policy.preferredHarnesses) 12.0 bonus
  let bonus := add (route.connector.any fun c => c.connectorId ∈ policy.preferredConnectors) 10.0
    bonus
  let bonus := add (route.model.any fun m => m.modelId ∈ policy.preferredModels) 10.0 bonus
  if SemanticCapability.openModelSupport ∈ task.requiredSemantic then
    if route.model.any (·.openWeights) then bonus + 8.0
    else if route.connector.any (fun c => c.pricingTier ∈ ["free", "cheap"]) then bonus + 4.0
    else bonus
  else bonus

def total : σ :=
  (harnessCapabilityMatch route.harness task.requiredSemantic).1 * 40.0 + 10.0 +
    quotaScore route + quality task route + health route + latencyComponent route -
    costPenalty route +
    reliabilityScore route.harness.reliability * 8.0 + (route.backendBaseScore * 0.15 + 0.0) +
    policyBonus task policy route

end RouteCandidate

def scoreRoute (task : TaskAnalysis) (policy : RoutingPolicy σ) (route : RouteCandidate σ) :
    ScoredRoute σ :=
  match route.rejection task policy with
  | some reason => route.reject reason
  | none =>
      { harnessId := route.harness.harnessId
        backendId := route.backendId
        connectorId := route.connector.map (·.connectorId)
        modelId := route.model.map (·.modelId)
        score := route.total task policy }

-- A stable sort by the order of the keys: equal items keep their order.
def sortedBy {α : Type} (before : α → α → Bool) (items : List α) : List α :=
  items.insertionSort fun a b => before b a = false

theorem sortedBy_perm {α : Type} (before : α → α → Bool) (items : List α) :
    (sortedBy before items).Perm items :=
  List.perm_insertionSort _ items

@[simp] theorem mem_sortedBy {α : Type} {before : α → α → Bool} {items : List α} {item : α} :
    item ∈ sortedBy before items ↔ item ∈ items :=
  (sortedBy_perm before items).mem_iff

-- Best score first, then by the texts of the route.
def ScoredRoute.before (a b : ScoredRoute σ) : Bool :=
  let texts (route : ScoredRoute σ) : List String :=
    [route.harnessId, route.backendId, route.connectorId.getD "", route.modelId.getD ""]
  if -a.score == -b.score then texts a < texts b else -a.score < -b.score

def rankRoutes (routes : List (ScoredRoute σ)) : List (ScoredRoute σ) :=
  sortedBy ScoredRoute.before (routes.filter (·.eligible)) ++ routes.filter (!·.eligible)

theorem mem_rankRoutes {routes : List (ScoredRoute σ)} {route : ScoredRoute σ} :
    route ∈ rankRoutes routes ↔ route ∈ routes := by
  cases heligible : route.eligible <;> simp [rankRoutes, heligible]

-- The fitness of a harness by itself, before it is joined to a backend.
def scoreHarnessOnly (harness : HarnessProfile σ) (task : TaskAnalysis) (policy : RoutingPolicy σ) :
    ScoredRoute σ :=
  scoreRoute task policy { harness, backendId := "*", backendBaseScore := 50.0 }

def backendConnectorAffinity : List (String × List String) :=
  [("fireconnect", ["fireconnect", "openrouter", "openai", "anthropic"]),
    ("local", ["lmstudio", "ollama", "openai", "anthropic", "openrouter"]),
    ("joymesh", ["openai", "anthropic", "fireconnect", "openrouter"])]

-- Connectors nearer to the head of the backend's affinity list gain more.
def affinityBoost (backendId : String) (route : ScoredRoute σ) : ScoredRoute σ :=
  match backendConnectorAffinity.lookup backendId, route.connectorId with
  | some affinity, some connectorId =>
      if connectorId ∈ affinity ∧ route.eligible then
        { route with
          score := route.score + 5.0 * ((affinity.length - affinity.idxOf connectorId : Nat) : σ) }
      else route
  | _, _ => route

def eligibleConnectors (profiles : CapabilityProfiles σ) (backendId : String)
    (availableConnectors : Option (List String)) : List (ConnectorProfile σ) :=
  let connectors := profiles.connectors.map (·.2)
  let connectors := match availableConnectors with
    | none => connectors
    | some allowed => connectors.filter (·.connectorId ∈ allowed)
  match backendConnectorAffinity.lookup backendId with
  | none => connectors
  | some affinity =>
      let preferred := connectors.filter (·.connectorId ∈ affinity)
      if preferred.isEmpty then connectors else preferred

-- The best connector and model for a harness on a backend. Without any
-- connector the pair itself is scored, and returned even when it is refused.
def bestConnectorModelForHarness (task : TaskAnalysis) (policy : RoutingPolicy σ)
    (profiles : CapabilityProfiles σ) (availableConnectors : Option (List String))
    (harness : HarnessProfile σ) (backendId : String) (backendBaseScore : σ) :
    Option (ScoredRoute σ) :=
  match eligibleConnectors profiles backendId availableConnectors with
  | [] => some (scoreRoute task policy { harness, backendId, backendBaseScore })
  | connectors =>
      let candidates := connectors.flatMap fun connector =>
        (if connector.availableModels.isEmpty then [""] else connector.availableModels).map
          fun modelId =>
            affinityBoost backendId (scoreRoute task policy
              { harness, backendId, backendBaseScore
                connector := some connector
                model := if modelId = "" then none else profiles.models.lookup modelId })
      (rankRoutes candidates).head?.filter (·.eligible)

-- An eligible route is on a harness that the policy does not deny.
def ScoredRoute.Permitted (policy : RoutingPolicy σ) (route : ScoredRoute σ) : Prop :=
  route.eligible → route.harnessId ∉ policy.deniedHarnesses

theorem scoreRoute_permitted (task : TaskAnalysis) (policy : RoutingPolicy σ)
    (candidate : RouteCandidate σ) : (scoreRoute task policy candidate).Permitted policy := by
  intro heligible hdenied
  cases hrejection : candidate.rejection task policy with
  | some reason => simp [scoreRoute, hrejection, RouteCandidate.reject] at heligible
  | none =>
      have hharness : candidate.harness.harnessId ∈ policy.deniedHarnesses := by
        simpa [scoreRoute, hrejection] using hdenied
      simp only [RouteCandidate.rejection, hharness, if_true] at hrejection
      split at hrejection <;> cases hrejection

theorem affinityBoost_permitted {policy : RoutingPolicy σ} {route : ScoredRoute σ}
    (h : route.Permitted policy) (backendId : String) :
    (affinityBoost backendId route).Permitted policy := by
  unfold affinityBoost
  split
  · split_ifs <;> exact h
  · exact h

theorem bestConnectorModelForHarness_permitted {task : TaskAnalysis} {policy : RoutingPolicy σ}
    {profiles : CapabilityProfiles σ} {availableConnectors : Option (List String)}
    {harness : HarnessProfile σ} {backendId : String} {backendBaseScore : σ} {best : ScoredRoute σ}
    (h : bestConnectorModelForHarness task policy profiles availableConnectors harness backendId
      backendBaseScore = some best) : best.Permitted policy := by
  unfold bestConnectorModelForHarness at h
  split at h
  · obtain rfl := Option.some.inj h
    exact scoreRoute_permitted task policy _
  · obtain ⟨hhead, -⟩ := Option.filter_eq_some_iff.mp h
    have hmem := mem_rankRoutes.mp (List.mem_of_mem_head? hhead)
    obtain ⟨connector, -, hmem⟩ := List.mem_flatMap.mp hmem
    obtain ⟨modelId, -, rfl⟩ := List.mem_map.mp hmem
    exact affinityBoost_permitted (scoreRoute_permitted task policy _) backendId

end Scoring

end JoyMesh.Routing
