import JoyMesh.Datetime
import JoyMesh.Harnesses.Service

namespace JoyMesh.Snapshots

open JoyMesh.Routing JoyMesh.Harnesses

-- A name of small letters, digits and underscores.
def plain (text : String) : Bool := text.toList.all fun c => c.isLower || c.isDigit || c = '_'

-- What the interpreter gives: str.lower, which leaves such a name, and the text of a float.
structure Interpreter where
  lower : String → String
  floatText : ℚ → String
  lower_plain : ∀ text, plain text = true → lower text = text

-- Any nesting of mappings, lists and tuples. A key is what str() makes of it, and any other
-- object is known by its text.
abbrev Metadata := List (String × Value)

section Quota

inductive QuotaVisibility where
  | exact
  | estimated
  | observed
  | unknown
deriving DecidableEq, Repr

def QuotaVisibility.value : QuotaVisibility → String
  | exact => "exact"
  | estimated => "estimated"
  | observed => "observed"
  | unknown => "unknown"

def QuotaState.value : QuotaState → String
  | .available => "available"
  | .low => "low"
  | .exhausted => "exhausted"
  | .blocked => "blocked"
  | .unknown => "unknown"

inductive QuotaSource where
  | officialApi
  | officialCli
  | officialHeader
  | documentedResponse
  | executionResult
  | cache
  | none
deriving DecidableEq, Repr

def QuotaSource.value : QuotaSource → String
  | officialApi => "official_api"
  | officialCli => "official_cli"
  | officialHeader => "official_header"
  | documentedResponse => "documented_response"
  | executionResult => "execution_result"
  | cache => "cache"
  | none => "none"

structure QuotaSnapshot where
  harnessId : String
  availability : HarnessAvailability
  quotaVisibility : QuotaVisibility
  state : QuotaState
  authenticated : Bool
  configured : Bool
  creditsRemaining : Option ℚ
  requestsRemaining : Option Int
  tokensRemaining : Option Int
  resetAt : Option Datetime
  observedAt : Datetime
  source : QuotaSource
  rawMetadata : Metadata
deriving DecidableEq

def unknownQuota (harnessId : String) (now : Datetime) (metadata : Metadata) : QuotaSnapshot where
  harnessId := harnessId
  availability := .unknown
  quotaVisibility := .unknown
  state := .unknown
  authenticated := false
  configured := false
  creditsRemaining := none
  requestsRemaining := none
  tokensRemaining := none
  resetAt := none
  observedAt := now
  source := .none
  rawMetadata := metadata

inductive FailureKind where
  | rateLimit
  | quotaExhausted
  | authentication
  | unsupported
  | process
  | timeout
  | invalidRequest
  | turnLimit
  | unknown
deriving DecidableEq, Repr

def FailureKind.value : FailureKind → String
  | rateLimit => "rate_limit"
  | quotaExhausted => "quota_exhausted"
  | authentication => "authentication"
  | unsupported => "unsupported"
  | process => "process"
  | timeout => "timeout"
  | invalidRequest => "invalid_request"
  | turnLimit => "turn_limit"
  | unknown => "unknown"

-- What an execution says of its harness.
structure Observation where
  success : Bool
  failureKind : Option FailureKind := none
  detail : Option String := none
  usageTokens : Option Int := none
deriving DecidableEq

-- Whether a text has a part.
def contains (text part : String) : Bool := decide (part.toList <:+: text.toList)

variable (python : Interpreter)

def Observation.lowered (observation : Observation) : String :=
  python.lower (observation.detail.getD "")

def Observation.configMissing (observation : Observation) : Bool :=
  let detail := observation.lowered python
  (contains detail "api key" || contains detail "apikey") &&
      (contains detail "missing" || contains detail "required" || contains detail "not set" ||
        contains detail "invalid") ||
    contains detail "configuration required" ||
    observation.failureKind = some .invalidRequest && contains detail "api key"

-- The failures that say what the harness is from now on.
def Observation.failure (observation : Observation) : Option HarnessAvailability :=
  if observation.success then none
  else if observation.configMissing python then some .configurationRequired
  else match observation.failureKind with
    | some .authentication => some .authenticationRequired
    | some .quotaExhausted => some .quotaExhausted
    | some .rateLimit => some .rateLimited
    | _ => none

def Observation.metadata (observation : Observation) : Value :=
  .dict [
    ("success", .bool observation.success),
    ("failure_kind", .ofOption (observation.failureKind.map FailureKind.value)),
    ("detail", .ofOption (given (observation.detail.map fun text =>
      String.ofList (text.toList.take 240)))),
    ("usage_tokens", observation.usageTokens.elim .none .int)]

-- A key that is there keeps its place.
def setItem (items : Metadata) (key : String) (value : Value) : Metadata :=
  if key ∈ items.map Prod.fst then
    items.map fun item => if item.1 = key then (key, value) else item
  else items ++ [(key, value)]

-- An observation is merged into the prior snapshot.
def applyObservation (now : Datetime) (snapshot : QuotaSnapshot) (observation : Observation) :
    QuotaSnapshot :=
  let observed := { snapshot with
    observedAt := now
    source := .executionResult
    rawMetadata := setItem snapshot.rawMetadata "last_observation" observation.metadata }
  if observation.success then { observed with
    availability := .ready
    quotaVisibility :=
      if snapshot.quotaVisibility = .unknown then .observed else snapshot.quotaVisibility
    state := .available
    authenticated := true
    configured := true }
  else match observation.failure python with
    | some .configurationRequired => { observed with
        availability := .configurationRequired
        quotaVisibility := .observed
        state := .blocked
        authenticated := false
        configured := false }
    | some .authenticationRequired => { observed with
        availability := .authenticationRequired
        quotaVisibility := .observed
        state := .blocked
        authenticated := false }
    | some .quotaExhausted => { observed with
        availability := .quotaExhausted
        quotaVisibility := .observed
        state := .exhausted
        creditsRemaining := some 0
        requestsRemaining := some 0 }
    | some .rateLimited => { observed with
        availability := .rateLimited
        quotaVisibility := .observed
        state := .blocked }
    | _ => { observed with
        availability :=
          if contains (observation.lowered python) "provider unavailable" then .providerUnavailable
          else snapshot.availability
        quotaVisibility := .observed }

end Quota

section Observations

inductive QualityLevel where
  | good
  | bad
  | unknown
deriving DecidableEq, Repr

def QualityLevel.value : QualityLevel → String
  | good => "good"
  | bad => "bad"
  | unknown => "unknown"

structure HarnessStats where
  inputTokens : Int := 0
  outputTokens : Int := 0
  executionCount : Int := 0
  lastExecution : Option Datetime := none
  durationsMs : List ℚ := []
  lastQuality : QualityLevel := .unknown
  activeRuns : Int := 0
deriving DecidableEq

-- An execution as the runtime reports it.
structure Execution where
  success : Bool
  failureKind : Option FailureKind := none
  detail : Option String := none
  durationMs : Option ℚ := none
  inputTokens : Int := 0
  outputTokens : Int := 0
deriving DecidableEq

def HarnessStats.markRunning (stats : HarnessStats) (delta : Int) : HarnessStats :=
  { stats with activeRuns := max 0 (stats.activeRuns + delta) }

def HarnessStats.sample (stats : HarnessStats) (maxSamples : Nat) (duration : ℚ) : List ℚ :=
  let durations := stats.durationsMs ++ [duration]
  durations.drop (durations.length - maxSamples)

def HarnessStats.recordExecution (stats : HarnessStats) (maxSamples : Nat) (now : Datetime)
    (execution : Execution) : HarnessStats :=
  { stats with
    executionCount := stats.executionCount + 1
    lastExecution := some now
    inputTokens := stats.inputTokens + max 0 execution.inputTokens
    outputTokens := stats.outputTokens + max 0 execution.outputTokens
    durationsMs := match execution.durationMs with
      | some duration => if 0 ≤ duration then stats.sample maxSamples duration
          else stats.durationsMs
      | none => stats.durationsMs
    lastQuality := if execution.success then .good
      else if execution.failureKind.isSome then .bad else .unknown }

structure UsageSnapshot where
  inputTokens : Int := 0
  outputTokens : Int := 0
  totalTokens : Int := 0
  executionCount : Int := 0
  lastExecution : Option Datetime := none
  averageDurationMs : Option ℚ := none
deriving DecidableEq

structure LatencySnapshot where
  averageMs : Option ℚ := none
  lastMs : Option ℚ := none
  p95Ms : Option ℚ := none
deriving DecidableEq

def HarnessStats.average (stats : HarnessStats) : Option ℚ :=
  if stats.durationsMs = [] then none
  else some (stats.durationsMs.sum / stats.durationsMs.length)

def HarnessStats.usage (stats : HarnessStats) : UsageSnapshot where
  inputTokens := stats.inputTokens
  outputTokens := stats.outputTokens
  totalTokens := stats.inputTokens + stats.outputTokens
  executionCount := stats.executionCount
  lastExecution := stats.lastExecution
  averageDurationMs := stats.average

-- The place of the 95th percentile is rounded up.
def HarnessStats.latency (stats : HarnessStats) : LatencySnapshot where
  averageMs := stats.average
  lastMs := stats.durationsMs.getLast?
  p95Ms :=
    let ordered := stats.durationsMs.insertionSort (· ≤ ·)
    ordered[min (ordered.length - 1) ((19 * ordered.length + 19) / 20 - 1)]?

end Observations

section Contracts

inductive ExecutionState where
  | idle
  | running
  | unknown
deriving DecidableEq, Repr

def ExecutionState.value : ExecutionState → String
  | idle => "idle"
  | running => "running"
  | unknown => "unknown"

structure HarnessRuntimeSnapshot where
  harnessId : String
  availability : HarnessAvailability
  authenticated : Bool
  configured : Bool
  quota : QuotaSnapshot
  capabilities : Finset Capability
  executionState : ExecutionState
  recentUsage : UsageSnapshot
  recentQuality : QualityLevel
  latency : LatencySnapshot
  providerMetadata : Metadata
deriving DecidableEq

structure RuntimeSnapshot where
  snapshotId : String
  observedAt : Datetime
  harnesses : List HarnessRuntimeSnapshot
  schemaVersion : Nat := 1
deriving DecidableEq

def RuntimeSnapshot.ids (snapshot : RuntimeSnapshot) : List String :=
  snapshot.harnesses.map HarnessRuntimeSnapshot.harnessId

def RuntimeSnapshot.harness (snapshot : RuntimeSnapshot) (harnessId : String) :
    Option HarnessRuntimeSnapshot :=
  snapshot.harnesses.find? (·.harnessId = harnessId)

variable (python : Interpreter)

def Interpreter.float (value : Option ℚ) : Value :=
  value.elim .none fun value => .float (python.floatText value)

def isoValue (value : Option Datetime) : Value := .ofOption (value.map Datetime.isoformat)

def QuotaSnapshot.asDict (quota : QuotaSnapshot) : Value :=
  .dict [
    ("harness_id", .str quota.harnessId),
    ("availability", .str quota.availability.value),
    ("quota_visibility", .str quota.quotaVisibility.value),
    ("state", .str (QuotaState.value quota.state)),
    ("authenticated", .bool quota.authenticated),
    ("configured", .bool quota.configured),
    ("credits_remaining", python.float quota.creditsRemaining),
    ("requests_remaining", quota.requestsRemaining.elim .none .int),
    ("tokens_remaining", quota.tokensRemaining.elim .none .int),
    ("reset_at", isoValue quota.resetAt),
    ("observed_at", .str quota.observedAt.isoformat),
    ("source", .str quota.source.value),
    ("raw_metadata", .dict quota.rawMetadata)]

def UsageSnapshot.asDict (usage : UsageSnapshot) : Value :=
  .dict [
    ("input_tokens", .int usage.inputTokens),
    ("output_tokens", .int usage.outputTokens),
    ("total_tokens", .int usage.totalTokens),
    ("execution_count", .int usage.executionCount),
    ("last_execution", isoValue usage.lastExecution),
    ("average_duration_ms", python.float usage.averageDurationMs)]

def LatencySnapshot.asDict (latency : LatencySnapshot) : Value :=
  .dict [
    ("average_ms", python.float latency.averageMs),
    ("last_ms", python.float latency.lastMs),
    ("p95_ms", python.float latency.p95Ms)]

def sortedCapabilities (capabilities : Finset Capability) : List String :=
  ((Capability.all.filter (· ∈ capabilities)).map Capability.value).insertionSort (· ≤ ·)

def HarnessRuntimeSnapshot.asDict (entry : HarnessRuntimeSnapshot) : Value :=
  .dict [
    ("harness_id", .str entry.harnessId),
    ("availability", .str entry.availability.value),
    ("authenticated", .bool entry.authenticated),
    ("configured", .bool entry.configured),
    ("quota", entry.quota.asDict python),
    ("capabilities", .list ((sortedCapabilities entry.capabilities).map .str)),
    ("execution_state", .str entry.executionState.value),
    ("recent_usage", entry.recentUsage.asDict python),
    ("recent_quality", .dict [("level", .str entry.recentQuality.value)]),
    ("latency", entry.latency.asDict python),
    ("provider_metadata", .dict entry.providerMetadata)]

def RuntimeSnapshot.asDict (snapshot : RuntimeSnapshot) : Value :=
  .dict [
    ("snapshot_id", .str snapshot.snapshotId),
    ("observed_at", .str snapshot.observedAt.isoformat),
    ("schema_version", .int snapshot.schemaVersion),
    ("harnesses", .list (snapshot.harnesses.map (HarnessRuntimeSnapshot.asDict python)))]

end Contracts

section Validators

variable (python : Interpreter)

def forbiddenMetadataKeys : List String :=
  ["api_key", "apikey", "token", "access_token", "refresh_token", "cookie", "cookies", "session",
    "session_secret", "password", "secret", "credential", "credentials", "authorization", "user_id",
    "userid", "user", "email", "subscription", "subscription_id", "subscription_name", "billing",
    "prompt", "conversation", "repository", "workspace", "terminal_output", "source_code",
    "checkpoint"]

def loweredKey (key : String) : String :=
  String.ofList ((python.lower key).toList.map fun c => if c = '-' then '_' else c)

def forbiddenKey (key : String) : Bool := forbiddenMetadataKeys.contains (loweredKey python key)

def droppedKey (key : String) : Bool :=
  forbiddenKey python key ||
    ["token", "secret", "password", "cookie", "api_key"].any (contains (loweredKey python key))

mutual

-- What is in a list is left as it is.
def sanitize : Value → Value
  | .dict items => .dict (sanitizeProviderMetadata items)
  | value => value

def sanitizeProviderMetadata : Metadata → Metadata
  | [] => []
  | (key, value) :: rest =>
      if droppedKey python key then sanitizeProviderMetadata rest
      else (key, sanitize value) :: sanitizeProviderMetadata rest

end

mutual

-- The keys in the order in which the stack brings them up: the last item comes first.
def visited : Value → List String
  | .dict items => items.map Prod.fst ++ visitedItems items
  | .list items => visitedList items
  | _ => []

def visitedItems : Metadata → List String
  | [] => []
  | (_, value) :: rest => visitedItems rest ++ visited value

def visitedList : List Value → List String
  | [] => []
  | value :: rest => visitedList rest ++ visited value

end

def invalid {α : Type} (text : String) : Except PyError α :=
  .error ⟨"RuntimeSnapshotValidationError", text⟩

def assertPrivacy (payload : Value) : Except PyError Unit :=
  match (visited payload).find? (forbiddenKey python) with
  | some key => invalid ("privacy violation: forbidden key " ++ Value.quote key)
  | none => .ok ()

def refuse (wrong : Bool) (text : String) : Except PyError Unit :=
  if wrong then invalid text else .ok ()

def validateHarnessEntry (entry : HarnessRuntimeSnapshot) : Except PyError Unit := do
  let negative := fun value : Option ℚ => value.any (· < 0)
  refuse (entry.harnessId = "") "harness_id must be non-empty"
  refuse (entry.quota.harnessId ≠ entry.harnessId)
    ("quota harness_id mismatch for " ++ entry.harnessId)
  refuse (entry.availability = .authenticationRequired && entry.authenticated)
    "authentication_required cannot be authenticated=true"
  refuse (entry.availability = .configurationRequired && entry.configured)
    "configuration_required cannot be configured=true"
  refuse (entry.recentUsage.inputTokens < 0) "input_tokens must not be negative"
  refuse (entry.recentUsage.outputTokens < 0) "output_tokens must not be negative"
  refuse (entry.recentUsage.totalTokens < 0) "total_tokens must not be negative"
  refuse (entry.recentUsage.executionCount < 0) "execution_count must not be negative"
  refuse (negative entry.recentUsage.averageDurationMs) "average_duration_ms must not be negative"
  refuse (negative entry.latency.averageMs) "average_ms must not be negative"
  refuse (negative entry.latency.lastMs) "last_ms must not be negative"
  refuse (negative entry.latency.p95Ms) "p95_ms must not be negative"

def validateEntries : List HarnessRuntimeSnapshot → List String → Except PyError Unit
  | [], _ => .ok ()
  | entry :: rest, seen => do
      refuse (seen.contains entry.harnessId) ("duplicate harness id: " ++ entry.harnessId)
      validateHarnessEntry entry
      validateEntries rest (entry.harnessId :: seen)

def validateSnapshot (snapshot : RuntimeSnapshot) : Except PyError Unit := do
  refuse (snapshot.schemaVersion ≠ 1)
    ("missing or unsupported schema_version: " ++ toString snapshot.schemaVersion)
  refuse (snapshot.snapshotId = "") "snapshot_id must be non-empty"
  validateEntries snapshot.harnesses []

end Validators

end JoyMesh.Snapshots
