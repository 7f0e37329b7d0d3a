import JoyMesh.Routing.Intent

namespace JoyMesh.Routing

-- The operations of a Python float that the scores use. No law is assumed:
-- rounding may break every one of them.
class Score (σ : Type) extends Add σ, Sub σ, Mul σ, Div σ, Neg σ, OfScientific σ, NatCast σ,
    BEq σ, LT σ where
  decidableLT : DecidableLT σ
  -- The text of f"{score:.1f}".
  fixed : σ → String

attribute [reducible, instance] Score.decidableLT

inductive TaskClass where
  | repositoryRefactor
  | interactiveEdit
  | bugFix
  | planning
  | architecture
  | documentation
  | terminalExecution
  | vision
  | codeReview
  | largeGeneration
  | quickQuestion
  | autonomousCoding
  | privateCodebase
  | unknown
deriving DecidableEq, Repr

namespace TaskClass

def value : TaskClass → String
  | repositoryRefactor => "repository_refactor"
  | interactiveEdit => "interactive_edit"
  | bugFix => "bug_fix"
  | planning => "planning"
  | architecture => "architecture"
  | documentation => "documentation"
  | terminalExecution => "terminal_execution"
  | vision => "vision"
  | codeReview => "code_review"
  | largeGeneration => "large_generation"
  | quickQuestion => "quick_question"
  | autonomousCoding => "autonomous_coding"
  | privateCodebase => "private_codebase"
  | unknown => "unknown"

def all : List TaskClass :=
  [repositoryRefactor, interactiveEdit, bugFix, planning, architecture, documentation,
    terminalExecution, vision, codeReview, largeGeneration, quickQuestion, autonomousCoding,
    privateCodebase, unknown]

def parse (text : String) : TaskClass :=
  (all.find? fun taskClass => taskClass.value = text).getD unknown

end TaskClass

-- What a task asks of a harness, beside the capabilities of the backend.
inductive SemanticCapability where
  | repositoryEditing
  | autonomousCoding
  | terminal
  | testing
  | longRunning
  | patchGeneration
  | interactiveEditing
  | ideWorkflow
  | pairProgramming
  | providerFlexible
  | openModelSupport
  | scripting
  | longContext
  | reasoning
  | vision
  | localOnly
  | lowLatency
  | costSensitive
deriving DecidableEq, Repr

namespace SemanticCapability

def value : SemanticCapability → String
  | repositoryEditing => "repository_editing"
  | autonomousCoding => "autonomous_coding"
  | terminal => "terminal"
  | testing => "testing"
  | longRunning => "long_running"
  | patchGeneration => "patch_generation"
  | interactiveEditing => "interactive_editing"
  | ideWorkflow => "ide_workflow"
  | pairProgramming => "pair_programming"
  | providerFlexible => "provider_flexible"
  | openModelSupport => "open_model_support"
  | scripting => "scripting"
  | longContext => "long_context"
  | reasoning => "reasoning"
  | vision => "vision"
  | localOnly => "local_only"
  | lowLatency => "low_latency"
  | costSensitive => "cost_sensitive"

def all : List SemanticCapability :=
  [repositoryEditing, autonomousCoding, terminal, testing, longRunning, patchGeneration,
    interactiveEditing, ideWorkflow, pairProgramming, providerFlexible, openModelSupport, scripting,
    longContext, reasoning, vision, localOnly, lowLatency, costSensitive]

def parse (text : String) : Option SemanticCapability :=
  all.find? fun capability => capability.value = text

end SemanticCapability

-- The part of an analysis that routes are scored by.
structure TaskAnalysis where
  taskClass : TaskClass
  requiredSemantic : List SemanticCapability
  privacyRequired : Bool := false
deriving DecidableEq, Repr

-- An intent with what only the router reads: the planner's analysis, absent
-- when its mapping is empty, and the cost bound of the routing preferences.
structure RoutedIntent (σ : Type) extends ExecutionIntent where
  taskClass : Option String := none
  requiredSemanticCapabilities : List String := []
  privacyAnalysed : Option Bool := none
  maxCost : Option σ := none

-- A planned analysis is believed. Names of semantic capabilities that do not
-- exist are dropped from it.
def taskAnalysis {σ : Type} (analyse : String → TaskAnalysis) (intent : RoutedIntent σ) :
    TaskAnalysis :=
  match intent.privacyAnalysed with
  | none => analyse intent.prompt
  | some privacyRequired =>
      { taskClass := TaskClass.parse
          (match intent.taskClass with
          | none => "unknown"
          | some text => if text = "" then "unknown" else text)
        requiredSemantic :=
          (intent.requiredSemanticCapabilities.filterMap SemanticCapability.parse).dedup
        privacyRequired }

inductive RoutingPolicyPreset where
  | preferLocal
  | preferCheapest
  | preferFastest
  | preferStrongestReasoning
  | preferOpenModels
  | avoidPaidApis
  | maximizeQuality
  | balanced
deriving DecidableEq, Repr

namespace RoutingPolicyPreset

def value : RoutingPolicyPreset → String
  | preferLocal => "prefer_local"
  | preferCheapest => "prefer_cheapest"
  | preferFastest => "prefer_fastest"
  | preferStrongestReasoning => "prefer_strongest_reasoning"
  | preferOpenModels => "prefer_open_models"
  | avoidPaidApis => "avoid_paid_apis"
  | maximizeQuality => "maximize_quality"
  | balanced => "balanced"

def all : List RoutingPolicyPreset :=
  [preferLocal, preferCheapest, preferFastest, preferStrongestReasoning, preferOpenModels,
    avoidPaidApis, maximizeQuality, balanced]

-- Other texts are the cost and locality preferences of a mission.
def parse (text : String) : RoutingPolicyPreset :=
  match all.find? fun preset => preset.value = text with
  | some preset => preset
  | none =>
      if text = "cheapest" then preferCheapest
      else if text = "fastest" then preferFastest
      else if text = "local" then preferLocal
      else if text = "quality" then maximizeQuality
      else balanced

end RoutingPolicyPreset

structure RoutingPolicy (σ : Type) where
  preset : RoutingPolicyPreset := .balanced
  preferLocal : Bool := false
  preferCheapest : Bool := false
  preferFastest : Bool := false
  preferStrongestReasoning : Bool := false
  preferOpenModels : Bool := false
  avoidPaidApis : Bool := false
  maximizeQuality : Bool := false
  maxCost : Option σ := none
  deniedHarnesses : List String := []
  deniedConnectors : List String := []
  deniedModels : List String := []
  preferredHarnesses : List String := []
  preferredConnectors : List String := []
  preferredModels : List String := []

section Policy

variable {σ : Type}

def RoutingPolicy.fromMapping (raw : RoutingPreferences) (maxCost : Option σ) : RoutingPolicy σ :=
  let nonEmpty (text : Option String) : Option String := text.filter (· ≠ "")
  let preset := RoutingPolicyPreset.parse
    (((nonEmpty raw.preset).or (nonEmpty raw.policy)).getD "balanced")
  let flag (given : Option Bool) (named : RoutingPolicyPreset) : Bool :=
    given.getD false || preset = named
  { preset
    preferLocal := flag raw.preferLocal .preferLocal
    preferCheapest := flag raw.preferCheapest .preferCheapest
    preferFastest := flag raw.preferFastest .preferFastest
    preferStrongestReasoning := flag raw.preferStrongestReasoning .preferStrongestReasoning
    preferOpenModels := flag raw.preferOpenModels .preferOpenModels
    avoidPaidApis := flag raw.avoidPaidApis .avoidPaidApis
    maximizeQuality := flag raw.maximizeQuality .maximizeQuality
    maxCost
    deniedHarnesses := raw.deniedHarnesses
    deniedConnectors := raw.deniedConnectors
    deniedModels := raw.deniedModels
    preferredHarnesses := raw.preferredHarnesses
    preferredConnectors := raw.preferredConnectors
    preferredModels := raw.preferredModels }

-- The preferences of the intent, with those that its other fields imply and the
-- harnesses that the subscription denies.
def routingPolicy (intent : RoutedIntent σ) : RoutingPolicy σ :=
  let raw := intent.routingPreferences
  let raw := if intent.costPreference ≠ "" ∧ raw.preset = none then
    { raw with preset := some intent.costPreference } else raw
  let raw := if intent.localityPreference = "local" ∧ raw.preferLocal = none then
    { raw with preferLocal := some true } else raw
  let raw := match intent.preferredModel.filter (· ≠ "") with
    | none => raw
    | some model => if model ∈ raw.preferredModels then raw else
        { raw with preferredModels := model :: raw.preferredModels }
  let denied := intent.subscriptionConstraints.deniedHarnesses
  let raw := if denied = [] then raw else
    { raw with deniedHarnesses := (raw.deniedHarnesses ++ denied).eraseDups }
  .fromMapping raw intent.maxCost

@[simp] theorem mem_deniedHarnesses_routingPolicy {intent : RoutedIntent σ} {harnessId : String} :
    harnessId ∈ (routingPolicy intent).deniedHarnesses ↔
      harnessId ∈ intent.routingPreferences.deniedHarnesses ∨
        harnessId ∈ intent.subscriptionConstraints.deniedHarnesses := by
  simp only [routingPolicy, RoutingPolicy.fromMapping]
  by_cases hdenied : intent.subscriptionConstraints.deniedHarnesses = []
  · simp only [hdenied, if_true, List.not_mem_nil, or_false]
    split <;> [skip; split] <;> (split_ifs <;> rfl)
  · simp only [hdenied, if_false, List.mem_eraseDups, List.mem_append]
    split <;> [skip; split] <;> (split_ifs <;> rfl)

end Policy

structure HarnessProfile (σ : Type) where
  harnessId : String
  capabilities : List SemanticCapability
  latency : String := "medium"
  reliability : String := "high"
  quality : σ
  costBias : σ

structure ConnectorProfile (σ : Type) where
  connectorId : String
  availableModels : List String := []
  quotaRemainingFraction : Option σ := none
  pricingTier : String := "standard"
  latency : String := "medium"
  privacy : String := "remote"
  health : σ
  isLocal : Bool := false
  rateLimited : Bool := false

structure ModelProfile (σ : Type) where
  modelId : String
  coding : σ
  reasoning : σ
  vision : σ
  toolUse : σ
  cost : σ
  latency : σ
  openWeights : Bool := false

-- Profiles by id, in the order in which they were entered.
structure CapabilityProfiles (σ : Type) where
  harnesses : List (String × HarnessProfile σ) := []
  connectors : List (String × ConnectorProfile σ) := []
  models : List (String × ModelProfile σ) := []

section Builtin

variable {σ : Type} [Score σ]

def builtinHarnesses : List (HarnessProfile σ) :=
  [{ harnessId := "codex"
     capabilities := [.repositoryEditing, .autonomousCoding, .terminal, .testing, .longRunning,
       .patchGeneration, .longContext]
     quality := 0.9
     costBias := 0.7 },
    { harnessId := "cursor"
      capabilities := [.interactiveEditing, .ideWorkflow, .pairProgramming, .repositoryEditing,
        .lowLatency]
      latency := "low"
      quality := 0.85
      costBias := 0.6 },
    { harnessId := "opencode"
      capabilities := [.providerFlexible, .openModelSupport, .scripting, .autonomousCoding,
        .terminal, .repositoryEditing, .costSensitive]
      reliability := "medium"
      quality := 0.75
      costBias := 0.3 },
    { harnessId := "claude"
      capabilities := [.repositoryEditing, .autonomousCoding, .reasoning, .longContext, .terminal]
      quality := 0.92
      costBias := 0.75 },
    { harnessId := "grok"
      capabilities := [.autonomousCoding, .reasoning, .providerFlexible]
      reliability := "medium"
      quality := 0.7
      costBias := 0.5 },
    { harnessId := "vscode"
      capabilities := [.ideWorkflow, .interactiveEditing]
      latency := "low"
      reliability := "medium"
      quality := 0.6
      costBias := 0.2 }]

def builtinConnectors : List (ConnectorProfile σ) :=
  [{ connectorId := "openai"
     availableModels := ["gpt-5", "gpt-4.1", "o3"]
     pricingTier := "premium"
     health := 1.0
     quotaRemainingFraction := some 0.8 },
    { connectorId := "anthropic"
      availableModels := ["claude-sonnet", "claude-opus"]
      pricingTier := "premium"
      health := 1.0
      quotaRemainingFraction := some 0.8 },
    { connectorId := "fireconnect"
      availableModels := ["qwen", "gpt-4.1", "deepseek"]
      pricingTier := "cheap"
      health := 0.95
      quotaRemainingFraction := some 0.9 },
    { connectorId := "openrouter"
      availableModels := ["qwen", "deepseek", "llama"]
      pricingTier := "cheap"
      health := 0.9 },
    { connectorId := "lmstudio"
      availableModels := ["local-default"]
      pricingTier := "free"
      latency := "low"
      privacy := "local"
      health := 0.85
      isLocal := true
      quotaRemainingFraction := some 1.0 },
    { connectorId := "ollama"
      availableModels := ["local-default", "qwen-local"]
      pricingTier := "free"
      latency := "low"
      privacy := "local"
      health := 0.9
      isLocal := true
      quotaRemainingFraction := some 1.0 }]

def builtinModels : List (ModelProfile σ) :=
  [{ modelId := "gpt-5", coding := 0.95, reasoning := 0.95, vision := 0.8, toolUse := 0.95
     cost := 0.9, latency := 0.6 },
    { modelId := "gpt-4.1", coding := 0.85, reasoning := 0.8, vision := 0.7, toolUse := 0.85
      cost := 0.7, latency := 0.5 },
    { modelId := "o3", coding := 0.8, reasoning := 0.98, vision := 0.0, toolUse := 0.8
      cost := 0.95, latency := 0.8 },
    { modelId := "claude-sonnet", coding := 0.9, reasoning := 0.9, vision := 0.0, toolUse := 0.9
      cost := 0.75, latency := 0.5 },
    { modelId := "claude-opus", coding := 0.92, reasoning := 0.97, vision := 0.0, toolUse := 0.9
      cost := 0.95, latency := 0.7 },
    { modelId := "qwen", coding := 0.8, reasoning := 0.75, vision := 0.0, toolUse := 0.7
      cost := 0.25, latency := 0.4, openWeights := true },
    { modelId := "deepseek", coding := 0.82, reasoning := 0.8, vision := 0.0, toolUse := 0.7
      cost := 0.2, latency := 0.45, openWeights := true },
    { modelId := "local-default", coding := 0.65, reasoning := 0.6, vision := 0.0, toolUse := 0.5
      cost := 0.0, latency := 0.3, openWeights := true },
    { modelId := "qwen-local", coding := 0.7, reasoning := 0.65, vision := 0.0, toolUse := 0.55
      cost := 0.0, latency := 0.35, openWeights := true },
    { modelId := "llama", coding := 0.7, reasoning := 0.7, vision := 0.0, toolUse := 0.6
      cost := 0.2, latency := 0.4, openWeights := true }]

def builtinCapabilityProfiles : CapabilityProfiles σ where
  harnesses := builtinHarnesses.map fun profile => (profile.harnessId, profile)
  connectors := builtinConnectors.map fun profile => (profile.connectorId, profile)
  models := builtinModels.map fun profile => (profile.modelId, profile)

end Builtin

end JoyMesh.Routing
