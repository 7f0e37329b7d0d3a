import Mathlib.Data.Prod.Lex
import Mathlib.Data.String.Basic
import JoyMesh.Harnesses.Selection
import JoyMesh.Library.Ranking

namespace JoyMesh.Harnesses

open JoyMesh.Library JoyMesh.Routing

inductive AdapterMaturity where
  | stable
  | beta
  | experimental
  | discoveryOnly
deriving DecidableEq, Repr

structure HarnessDefinition where
  id : String
  aliases : List String := []
  maturity : AdapterMaturity
deriving DecidableEq, Repr

-- What the registry reads of an adapter and of its manifest.
structure HarnessAdapter where
  harnessId : String
  capabilities : Finset Capability := ∅
  maxConcurrency : Nat := 1
  conformancePassed : Bool := false
deriving DecidableEq

-- The aliases stand with the newest first.
structure HarnessRegistry where
  definitions : List HarnessDefinition
  aliases : List (String × String)
  adapters : List HarnessAdapter
  allowTestHarnesses : Bool := false
deriving DecidableEq

namespace HarnessRegistry

variable (registry : HarnessRegistry)

def resolveId (harnessIdOrAlias : String) : Except PyError String :=
  if removedProductionHarnessIds.contains harnessIdOrAlias ∧ ¬registry.allowTestHarnesses then
    .error ⟨"KeyError", "harness removed from production: " ++ harnessIdOrAlias⟩
  else
    match registry.aliases.lookup harnessIdOrAlias with
    | some harnessId => .ok harnessId
    | none => .error ⟨"KeyError", "unknown harness: " ++ harnessIdOrAlias⟩

def definition (harnessIdOrAlias : String) : Except PyError HarnessDefinition := do
  let harnessId ← registry.resolveId harnessIdOrAlias
  match registry.definitions.find? (·.id = harnessId) with
  | some definition => return definition
  | none => .error ⟨"KeyError", harnessId⟩

def get (harnessIdOrAlias : String) : Except PyError HarnessAdapter := do
  let harnessId ← registry.resolveId harnessIdOrAlias
  match registry.adapters.find? (·.harnessId = harnessId) with
  | some adapter => return adapter
  | none => .error ⟨"KeyError", "harness is discovery-only: " ++ harnessId⟩

def list : List HarnessAdapter := ranked HarnessAdapter.harnessId registry.adapters

-- An adapter of the same id is replaced where it stands.
def register (adapter : HarnessAdapter) : Except PyError HarnessRegistry :=
  if removedProductionHarnessIds.contains adapter.harnessId ∧ ¬registry.allowTestHarnesses then
    .error ⟨"ValueError", "refusing to register removed/test-only harness in production " ++
      "registry: " ++ adapter.harnessId⟩
  else if adapter.harnessId ∉ registry.definitions.map HarnessDefinition.id then
    .error ⟨"ValueError", "adapter has no harness definition: " ++ adapter.harnessId⟩
  else if adapter.harnessId ∈ registry.adapters.map HarnessAdapter.harnessId then
    .ok { registry with
      adapters := registry.adapters.map fun other =>
        if other.harnessId = adapter.harnessId then adapter else other }
  else .ok { registry with adapters := registry.adapters ++ [adapter] }

def registerCustomDefinition (definition : HarnessDefinition) : Except PyError HarnessRegistry :=
  if removedProductionHarnessIds.contains definition.id then
    .error ⟨"ValueError", "forbidden harness id: " ++ definition.id⟩
  else .ok { registry with
    definitions := registry.definitions.filter (·.id ≠ definition.id) ++ [definition]
    aliases := (definition.id :: definition.aliases).reverse.map (·, definition.id) ++
      registry.aliases }

end HarnessRegistry

def customCapabilitySet (config : CustomHarnessConfig) : Finset Capability :=
  (Capability.all.filter fun capability =>
    config.capabilities.contains capability.value).toFinset

def customHarnessDefinition (config : CustomHarnessConfig) : HarnessDefinition where
  id := config.harnessId
  maturity := .experimental

def customHarnessAdapter (config : CustomHarnessConfig) : HarnessAdapter where
  harnessId := config.harnessId
  capabilities := customCapabilitySet config
  maxConcurrency := 1

section Custom

-- The executable bit of a path is a parameter.
variable (machine : Machine) (lower : String → String) (access : String → Bool)

def customHarnessReady (config : CustomHarnessConfig) : Bool :=
  let resolved := (given (machine.which config.executable)).or
    (if machine.isFile config.executable then some config.executable else none)
  validateCustomHarnessConfig machine lower config = [] && resolved.any access &&
    ["jsonl", "json", "text"].contains config.outputMode

def applyCustomHarness (registry : HarnessRegistry) (config : CustomHarnessConfig) :
    Except PyError HarnessRegistry :=
  if validateCustomHarnessConfig machine lower config ≠ [] then .ok registry
  else do
    let definition := customHarnessDefinition config
    let registry ← if definition.id ∈ registry.definitions.map HarnessDefinition.id then
        .ok registry
      else registry.registerCustomDefinition definition
    if customHarnessReady machine lower access config then
      match registry.get config.harnessId with
      | .ok _ => return registry
      | .error _ => registry.register (customHarnessAdapter config)
    else return registry

def applyCustomHarnesses (registry : HarnessRegistry) (prefs : HarnessPreferences) :
    Except PyError HarnessRegistry :=
  prefs.custom.foldlM (fun registry item =>
    applyCustomHarness machine lower access registry item.2) registry

end Custom

section Definitions

-- How ready a harness is in the eyes of the quota layer.
inductive HarnessAvailability where
  | ready
  | authenticationRequired
  | configurationRequired
  | quotaExhausted
  | rateLimited
  | offline
  | providerUnavailable
  | unknown
deriving DecidableEq, Repr

inductive QuotaState where
  | available
  | low
  | exhausted
  | blocked
  | unknown
deriving DecidableEq, Repr

structure QuotaSnapshot where
  availability : HarnessAvailability
  state : QuotaState
deriving DecidableEq, Repr

def autoBlockedAvailabilities : List HarnessAvailability :=
  [.authenticationRequired, .configurationRequired, .quotaExhausted, .rateLimited, .offline,
    .providerUnavailable]

def availabilityScore : HarnessAvailability → ℚ
  | .ready => 40
  | .unknown => 5
  | .rateLimited => -20
  | .quotaExhausted => -40
  | .authenticationRequired => -50
  | .configurationRequired => -50
  | .offline => -60
  | .providerUnavailable => -60

def quotaStateScore : QuotaState → ℚ
  | .available => 10
  | .low => 0
  | .unknown => -5
  | .blocked => -25
  | .exhausted => -40

-- Whether a harness is blocked, and what its snapshot adds to the score.
def routingAdjustment (snapshot : QuotaSnapshot) (explicitRequest : Bool) : Bool × ℚ :=
  (autoBlockedAvailabilities.contains snapshot.availability && !explicitRequest,
    availabilityScore snapshot.availability + quotaStateScore snapshot.state)

inductive SubscriptionState where
  | healthy
  | rateLimited
  | exhausted
  | disabled
deriving DecidableEq, Repr

structure SubscriptionProfile where
  id : String
  harnessId : String
  enabled : Bool := true
  monthlyLimit : Option ℚ := none
  usedAmount : ℚ := 0
  maxConcurrency : Nat := 1
  costWeight : ℚ := 1
  quotaReserve : ℚ := 0
  quotaKnown : Bool := false
  state : SubscriptionState := .healthy
  requiresPaidApproval : Bool := false
deriving DecidableEq

def SubscriptionProfile.remainingFraction (profile : SubscriptionProfile) : Option ℚ :=
  profile.monthlyLimit.map fun limit =>
    if limit = 0 then 0 else max 0 ((limit - profile.usedAmount) / limit)

structure RoutePreviewRequest where
  task : String
  workspace : String
  requiredCapabilities : Finset Capability := ∅
  preferredHarness : Option String := none
  allowedHarnesses : Finset String := ∅
  deniedHarnesses : Finset String := ∅
  paidRoutesApproved : Bool := false
deriving DecidableEq

-- What a preview reads while it runs.
structure RouterReading where
  available : String → Bool
  subscriptions : List SubscriptionProfile
  quota : Option (String → QuotaSnapshot)
  activeCount : String → Option String → Nat

-- Four digits, a half to the even one.
def roundScore (score : ℚ) : ℚ :=
  let scaled := score * 10000
  let part := scaled - scaled.floor
  let digits := if 1 / 2 < part ∨ (part = 1 / 2 ∧ scaled.floor % 2 = 1) then scaled.floor + 1
    else scaled.floor
  digits / 10000

namespace Router

variable (request : RoutePreviewRequest) (reading : RouterReading) (adapter : HarnessAdapter)
  (maturity : AdapterMaturity) (profile : Option SubscriptionProfile)

-- Only a request that is locked to one harness overrides a quota block.
def explicitQuotaRequest : Bool :=
  request.allowedHarnesses.card = 1 ∧ adapter.harnessId ∈ request.allowedHarnesses

def adjustment : Bool × ℚ :=
  match reading.quota with
  | none => (false, 0)
  | some snapshot =>
      routingAdjustment (snapshot adapter.harnessId) (explicitQuotaRequest request adapter)

-- What the funding profile adds to the score.
def fundingScore : Option SubscriptionProfile → ℚ
  | none => -30
  | some profile =>
      (if profile.quotaKnown ∧ profile.monthlyLimit ≠ none then
        (profile.remainingFraction.getD 0) * 10
      else if ¬profile.quotaKnown then -15
      else 0) - profile.costWeight

def reserveReached (profile : SubscriptionProfile) : Bool :=
  match profile.quotaKnown, profile.monthlyLimit with
  | true, some limit => max 0 (limit - profile.usedAmount) ≤ profile.quotaReserve
  | _, _ => false

def fundable : Option SubscriptionProfile → Bool
  | none => false
  | some profile =>
      profile.enabled && profile.state ≠ .rateLimited && profile.state ≠ .exhausted &&
        (!profile.requiresPaidApproval || request.paidRoutesApproved) && !reserveReached profile

def concurrencyLimit : Nat :=
  match profile with
  | none => adapter.maxConcurrency
  | some profile => min adapter.maxConcurrency profile.maxConcurrency

def score : ℚ :=
  100 - (if maturity = .experimental ∨ maturity = .discoveryOnly then 10 else 0) -
    (if adapter.conformancePassed then 0 else 5) +
    (if request.preferredHarness = some adapter.harnessId then 25 else 0) +
    (adjustment request reading adapter).2 + fundingScore profile

def eligible : Bool :=
  reading.available adapter.harnessId &&
    request.requiredCapabilities ⊆ adapter.capabilities &&
    (request.allowedHarnesses = ∅ || adapter.harnessId ∈ request.allowedHarnesses) &&
    adapter.harnessId ∉ request.deniedHarnesses &&
    !(adjustment request reading adapter).1 &&
    fundable request profile &&
    reading.activeCount adapter.harnessId (profile.map SubscriptionProfile.id) <
      concurrencyLimit adapter profile

def candidate : RouteCandidate where
  harnessId := adapter.harnessId
  subscriptionId := profile.map SubscriptionProfile.id
  score := roundScore (score request reading adapter maturity profile)
  eligible := eligible request reading adapter profile

-- The subscriptions of a harness, or none.
def profiles : List (Option SubscriptionProfile) :=
  match reading.subscriptions.filter (·.harnessId = adapter.harnessId) with
  | [] => [none]
  | found => found.map some

variable (registry : HarnessRegistry)

def candidatesOf : Except PyError (List RouteCandidate) := do
  let definition ← registry.definition adapter.harnessId
  return (profiles reading adapter).map (candidate request reading adapter definition.maturity)

def candidates : Except PyError (List RouteCandidate) := do
  let found ← registry.list.mapM fun adapter => candidatesOf request reading adapter registry
  return found.flatten

def sortKey (item : RouteCandidate) : Bool ×ₗ ℚ ×ₗ String ×ₗ String :=
  toLex (!item.eligible, toLex (-item.score, toLex (item.harnessId,
    item.subscriptionId.getD "")))

-- The candidates in their order, and the first eligible one.
def preview : Except PyError (Option RouteCandidate × List RouteCandidate) := do
  let found ← candidates request reading registry
  return (leading sortKey RouteCandidate.eligible found, ranked sortKey found)

end Router

end Definitions

end JoyMesh.Harnesses
