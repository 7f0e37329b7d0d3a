import Mathlib
import JoyMesh.Library.Programs
import JoyMesh.Snapshots.Models

namespace JoyMesh.Snapshots

open JoyMesh.Library JoyMesh.Routing JoyMesh.Harnesses

section Programs

structure RuntimeError where
  type : String
  text : String
  code : Option String := none
  remediation : Option String := none
  details : Metadata := []
deriving DecidableEq

-- An exception, the cancellation of a task, and what is no Exception.
inductive Raised where
  | exception (error : RuntimeError)
  | cancelled
  | abort
deriving DecidableEq

inductive Lock where
  | quota
  | snapshots
deriving DecidableEq

-- A quota is read or probed for the status of a harness, or for what an observation is merged
-- into. Only a probe for the status is stored as it is.
inductive Purpose where
  | status
  | prior
deriving DecidableEq

-- The awaits of the two services, and what they do to their caches, to the observations and to
-- the publisher in between.
inductive Op where
  | acquire (lock : Lock)
  | release (lock : Lock)
  | utcNow
  | newId
  | getQuota (purpose : Purpose) (harnessId : String)
  | beginProbe (purpose : Purpose) (harnessId : String)
  | endProbe (purpose : Purpose) (harnessId : String)
  | storeProbe (snapshot : QuotaSnapshot)
  | storeObserved (observation : Observation) (snapshot : QuotaSnapshot)
  | invalidateQuota (harnessId : Option String)
  | getCached
  | putCached (snapshot : RuntimeSnapshot)
  | invalidateCached
  | getStats (harnessId : String)
  | recordExecution (harnessId : String) (now : Datetime) (execution : Execution)
  | markRunning (harnessId : String) (delta : Int)
  | setPrior (entries : List HarnessRuntimeSnapshot)
  | getPrior (harnessId : String)
  | publish (snapshot : RuntimeSnapshot)
deriving DecidableEq

@[reducible] def Op.Reply : Op → Type
  | utcNow => Datetime
  | newId => String
  | getQuota _ _ => Option QuotaSnapshot
  | endProbe _ _ => QuotaSnapshot
  | getCached => Option RuntimeSnapshot
  | getStats _ => HarnessStats
  | getPrior _ => Option HarnessAvailability
  | _ => Unit

@[reducible] def signature : Signature where
  Op := Op
  Reply := Op.Reply
  Error := Raised

abbrev SnapshotM := Program signature

@[reducible] def perform (op : Op) : SnapshotM op.Reply := @Program.perform signature op

def lift {α : Type} : Except PyError α → SnapshotM α
  | .ok value => return value
  | .error error => throw (Raised.exception { type := error.type, text := error.text })

-- The body of an async with on the lock.
def holding {α : Type} (lock : Lock) (body : SnapshotM α) : SnapshotM α := do
  perform (.acquire lock)
  let value ← body.catching fun raised => do
    let _ ← perform (.release lock)
    throw raised
  let _ ← perform (.release lock)
  return value

-- What the services are made of.
structure Setup where
  python : Interpreter
  registry : HarnessRegistry
  providers : List String
  quotaIds : List String
  extraIds : List String
  quotaTtl : Time
  cacheTtl : Time
  maxSamples : Nat

def sortedIds (ids : List String) : List String := ids.dedup.insertionSort (· ≤ ·)

variable (setup : Setup)

def Setup.quotaKnownIds : List String := sortedIds (setup.providers ++ setup.quotaIds)

def Setup.knownHarnessIds : List String :=
  sortedIds (setup.extraIds ++ setup.quotaKnownIds ++
    setup.registry.list.map HarnessAdapter.harnessId)

-- A probe in a thread of its own.
def asyncQuotaSnapshot (purpose : Purpose) (harnessId : String) : SnapshotM QuotaSnapshot := do
  perform (.beginProbe purpose harnessId)
  perform (.endProbe purpose harnessId)

def probed (purpose : Purpose) (harnessId : String) (metadata : RuntimeError → Metadata) :
    SnapshotM QuotaSnapshot :=
  (asyncQuotaSnapshot purpose harnessId).catching fun raised =>
    match raised with
    | .exception error => do
        let now ← perform .utcNow
        return unknownQuota harnessId now (metadata error)
    | raised => throw raised

def cachedQuota (harnessId : String) (refresh : Bool) : SnapshotM (Option QuotaSnapshot) :=
  if refresh then return none else perform (.getQuota .status harnessId)

def storedProbe (harnessId : String) : SnapshotM QuotaSnapshot := do
  let snapshot ← probed .status harnessId fun error => [("probe_error", .str error.type)]
  perform (.storeProbe snapshot)
  return snapshot

def quotaSnapshot (harnessId : String) (refresh : Bool) : SnapshotM QuotaSnapshot := do
  match ← cachedQuota harnessId refresh with
  | some cached => return cached
  | none => holding .quota do
      match ← cachedQuota harnessId refresh with
      | some cached => return cached
      | none => storedProbe harnessId

def listSnapshots (harnessIds : Option (List String)) (refresh : Bool) :
    SnapshotM (List QuotaSnapshot) :=
  (harnessIds.getD setup.quotaKnownIds).mapM (quotaSnapshot · refresh)

def refreshQuota (harnessId : Option String) : SnapshotM (List QuotaSnapshot) :=
  match given harnessId with
  | some harnessId => do
      perform (.invalidateQuota (some harnessId))
      return [← quotaSnapshot harnessId true]
  | none => do
      perform (.invalidateQuota none)
      listSnapshots setup none true

def invalidateFailed (harnessId : String) (success : Bool) : SnapshotM Unit :=
  if success then return () else perform (.invalidateQuota (some harnessId))

-- What an observation is merged into.
def priorQuota (harnessId : String) : SnapshotM QuotaSnapshot := do
  match ← perform (.getQuota .prior harnessId) with
  | some prior => return prior
  | none => probed .prior harnessId fun _ => []

def observeQuota (harnessId : String) (observation : Observation) : SnapshotM QuotaSnapshot := do
  let prior ← priorQuota harnessId
  let now ← perform .utcNow
  let updated := applyObservation setup.python now prior observation
  invalidateFailed harnessId observation.success
  perform (.storeObserved observation updated)
  return updated

def providerKeys : List String :=
  ["login_status_code", "auth_status_code", "models_code", "version_code", "version",
    "api_key_env_present", "vertex", "gca", "settings_configured", "detail"]

def harnessEntry (harnessId : String) (quota : QuotaSnapshot) (stats : HarnessStats) :
    HarnessRuntimeSnapshot where
  harnessId := harnessId
  availability := quota.availability
  authenticated := quota.authenticated
  configured := quota.configured
  quota := { quota with rawMetadata := sanitizeProviderMetadata setup.python quota.rawMetadata }
  capabilities := snapshotCapabilities setup.registry harnessId
  executionState := if 0 < stats.activeRuns then .running else .idle
  recentUsage := stats.usage
  recentQuality := stats.lastQuality
  latency := stats.latency
  providerMetadata := sanitizeProviderMetadata setup.python
    ([("reset_at", isoValue quota.resetAt),
      ("rate_limit", .bool (quota.availability = .rateLimited)),
      ("quota_visibility", .str quota.quotaVisibility.value),
      ("quota_state", .str (QuotaState.value quota.state)),
      ("quota_source", .str quota.source.value)] ++
      quota.rawMetadata.filter fun item => providerKeys.contains item.1)

-- The observations are read once the quota is there.
def buildHarness (refresh : Bool) (harnessId : String) : SnapshotM HarnessRuntimeSnapshot := do
  let quota ← quotaSnapshot harnessId refresh
  let stats ← perform (.getStats harnessId)
  return harnessEntry setup harnessId quota stats

def publish (snapshot : RuntimeSnapshot) : SnapshotM Unit := do
  lift (validateSnapshot snapshot)
  lift (assertPrivacy setup.python (snapshot.asDict setup.python))
  perform (.publish snapshot)

-- Some of the entries of a cached snapshot, if it has all that are wanted.
def RuntimeSnapshot.part (cached : RuntimeSnapshot) (harnessIds : List String) :
    Option RuntimeSnapshot :=
  let filtered := cached.harnesses.filter fun entry => harnessIds.contains entry.harnessId
  if filtered.length = harnessIds.dedup.length then some { cached with harnesses := filtered }
  else none

def cachedSnapshot (harnessIds : Option (List String)) (refresh : Bool) :
    SnapshotM (Option RuntimeSnapshot) :=
  if refresh then return none
  else do
    let cached ← perform .getCached
    return cached.bind fun cached => harnessIds.elim (some cached) cached.part

-- With the lock held, a cached snapshot is taken for all the harnesses only.
def cachedWhole (harnessIds : Option (List String)) (refresh : Bool) :
    SnapshotM (Option RuntimeSnapshot) :=
  if refresh then return none
  else do
    let cached ← perform .getCached
    return if harnessIds.isNone then cached else none

-- The snapshot is cached before it is published.
def store (snapshot : RuntimeSnapshot) : SnapshotM RuntimeSnapshot := do
  lift (validateSnapshot snapshot)
  perform (.setPrior snapshot.harnesses)
  perform (.putCached snapshot)
  publish setup snapshot
  return snapshot

def build (harnessIds : Option (List String)) (refresh : Bool) : SnapshotM RuntimeSnapshot := do
  let entries ← (harnessIds.getD setup.knownHarnessIds).mapM (buildHarness setup refresh)
  let snapshotId ← perform .newId
  let now ← perform .utcNow
  store setup { snapshotId := snapshotId, observedAt := now, harnesses := entries }

def snapshot (harnessIds : Option (List String)) (refresh : Bool) : SnapshotM RuntimeSnapshot := do
  match ← cachedSnapshot harnessIds refresh with
  | some cached => return cached
  | none => holding .snapshots do
      match ← cachedWhole harnessIds refresh with
      | some cached => return cached
      | none => build setup harnessIds refresh

def harnessSnapshot (harnessId : String) (refresh : Bool) :
    SnapshotM HarnessRuntimeSnapshot := do
  let full ← snapshot setup (some [harnessId]) refresh
  match full.harness harnessId with
  | some entry => return entry
  | none => throw (Raised.exception
      { type := "KeyError", text := "unknown harness: " ++ harnessId })

def refreshSnapshots (harnessId : Option String) : SnapshotM RuntimeSnapshot := do
  perform .invalidateCached
  snapshot setup ((given harnessId).map fun harnessId => [harnessId]) true

def Execution.observation (execution : Execution) : Observation where
  success := execution.success
  failureKind := execution.failureKind
  detail := execution.detail
  usageTokens :=
    let total := execution.inputTokens + execution.outputTokens
    if total = 0 then none else some total

def observed (harnessId : String) (execution : Execution) : SnapshotM Unit := do
  let now ← perform .utcNow
  perform (.recordExecution harnessId now execution)
  perform (.markRunning harnessId (-1))
  let _ ← observeQuota setup harnessId execution.observation
  perform .invalidateCached

def observeExecution (harnessId : String) (execution : Execution) :
    SnapshotM RuntimeSnapshot := do
  observed setup harnessId execution
  snapshot setup none false

def markRunStarted (harnessId : String) : SnapshotM Unit := do
  perform (.markRunning harnessId 1)
  perform .invalidateCached

def remediationFor : HarnessAvailability → String
  | .quotaExhausted => "Wait for quota reset or choose another harness."
  | .authenticationRequired => "Authenticate the harness, then refresh."
  | .configurationRequired => "Configure the required API key or auth method."
  | .providerUnavailable => "Retry when the provider is available."
  | .rateLimited => "Wait for the rate limit window to reset."
  | .offline => "Install or start the harness executable."
  | _ => "Refresh runtime snapshot and retry."

-- Why a launch is rejected.
def launchError (harnessId : String) (required : Finset Capability)
    (prior : Option HarnessAvailability) (entry : HarnessRuntimeSnapshot) : Option RuntimeError :=
  let missing := missingCapabilities required entry.capabilities
  if missing ≠ [] then some {
    type := "RuntimeLaunchError"
    text := "capability mismatch for " ++ harnessId ++ ": " ++ ", ".intercalate missing
    code := some "capability_mismatch"
    remediation := some "Choose a harness that declares the required capabilities."
    details := [("harness_id", .str harnessId),
      ("missing_capabilities", .list (missing.map .str))] }
  else
    match availabilityToCode entry.availability with
    | none => none
    | some code =>
        if prior = some .ready ∧ autoBlockedAvailabilities.contains entry.availability then some {
          type := "RuntimeLaunchError"
          text := "runtime changed for " ++ harnessId ++ ": now " ++ entry.availability.value
          code := some "runtime_changed"
          remediation := some "Refresh the JoyCLI routing decision and retry."
          details := [("harness_id", .str harnessId),
            ("prior_availability", .str "ready"),
            ("availability", .str entry.availability.value),
            ("entry", entry.asDict setup.python)] }
        else some {
          type := "RuntimeLaunchError"
          text := "harness " ++ harnessId ++ " unavailable: " ++ entry.availability.value
          code := some code
          remediation := some (remediationFor entry.availability)
          details := [("harness_id", .str harnessId), ("entry", entry.asDict setup.python)] }

def revalidateForLaunch (harnessId : String) (required : Finset Capability)
    (priorAvailability : Option HarnessAvailability) : SnapshotM HarnessRuntimeSnapshot := do
  let entry ← harnessSnapshot setup harnessId true
  let recorded ← perform (.getPrior harnessId)
  match launchError setup harnessId required (priorAvailability <|> recorded) entry with
  | some error => throw (Raised.exception error)
  | none => return entry

-- The calls of the quota service, and those of the runtime snapshot service over it.
inductive Call where
  | quotaSnapshot (harnessId : String) (refresh : Bool)
  | listSnapshots (harnessIds : Option (List String)) (refresh : Bool)
  | refreshQuota (harnessId : Option String)
  | observeQuota (harnessId : String) (observation : Observation)
  | snapshot (harnessIds : Option (List String)) (refresh : Bool)
  | harnessSnapshot (harnessId : String) (refresh : Bool)
  | refresh (harnessId : Option String)
  | observeExecution (harnessId : String) (execution : Execution)
  | markRunStarted (harnessId : String)
  | revalidateForLaunch (harnessId : String) (required : Finset Capability)
      (priorAvailability : Option HarnessAvailability)
deriving DecidableEq

inductive Outcome where
  | quotas (snapshots : List QuotaSnapshot)
  | snapshot (snapshot : RuntimeSnapshot)
  | entry (entry : HarnessRuntimeSnapshot)
  | marked
deriving DecidableEq

def Call.program : Call → SnapshotM Outcome
  | .quotaSnapshot harnessId renew =>
      return .quotas [← Snapshots.quotaSnapshot harnessId renew]
  | .listSnapshots harnessIds renew =>
      return .quotas (← Snapshots.listSnapshots setup harnessIds renew)
  | .refreshQuota harnessId => return .quotas (← Snapshots.refreshQuota setup harnessId)
  | .observeQuota harnessId observation =>
      return .quotas [← Snapshots.observeQuota setup harnessId observation]
  | .snapshot harnessIds renew =>
      return .snapshot (← Snapshots.snapshot setup harnessIds renew)
  | .harnessSnapshot harnessId renew =>
      return .entry (← Snapshots.harnessSnapshot setup harnessId renew)
  | .refresh harnessId => return .snapshot (← refreshSnapshots setup harnessId)
  | .observeExecution harnessId execution =>
      return .snapshot (← Snapshots.observeExecution setup harnessId execution)
  | .markRunStarted harnessId => do
      Snapshots.markRunStarted harnessId
      return .marked
  | .revalidateForLaunch harnessId required priorAvailability =>
      return .entry (← Snapshots.revalidateForLaunch setup harnessId required priorAvailability)

end Programs

section System

structure Shared where
  now : Time := 0
  held : Lock → Bool := fun _ => false
  quotas : String → Option (QuotaSnapshot × Time) := fun _ => none
  stats : String → HarnessStats := fun _ => {}
  cached : Option (RuntimeSnapshot × Time) := none
  prior : String → Option HarnessAvailability := fun _ => none
  published : List RuntimeSnapshot := []

-- What is raised, and what is answered.
structure Choice where
  raised : Option Raised := none
  probe : QuotaSnapshot := unknownQuota "" ⟨0, true⟩ []
  utc : Datetime := ⟨0, true⟩
  id : String := "s"

def answered {α : Type} (choice : Choice) (value : α) (s : Shared) :
    Option (Except Raised α × Shared) :=
  match choice.raised with
  | none => some (.ok value, s)
  | some raised => some (.error raised, s)

-- An entry is there until it expires.
def alive {α : Type} (now : Time) (entry : Option (α × Time)) : Option (α × Time) :=
  entry.filter fun entry => now < entry.2

def Shared.setStats (s : Shared) (harnessId : String) (update : HarnessStats → HarnessStats) :
    Shared :=
  { s with stats := Function.update s.stats harnessId (update (s.stats harnessId)) }

variable (setup : Setup)

def Shared.putQuota (s : Shared) (snapshot : QuotaSnapshot) : Shared :=
  { s with
    quotas := Function.update s.quotas snapshot.harnessId
      (some (snapshot, s.now + max 0 setup.quotaTtl)) }

-- A lock is waited for, and a wait can be cancelled. A provider answers for its own harness.
-- The snapshot is handed to the listeners once it is the latest.
def effect : (op : Op) → Choice → Shared → Option (Except Raised op.Reply × Shared)
  | .acquire lock, choice, s =>
      match choice.raised with
      | none => if s.held lock then none
          else some (.ok (), { s with held := Function.update s.held lock true })
      | some raised => some (.error raised, s)
  | .release lock, _, s => some (.ok (), { s with held := Function.update s.held lock false })
  | .utcNow, choice, s => some (.ok choice.utc, s)
  | .newId, choice, s => some (.ok choice.id, s)
  | .getQuota _ harnessId, _, s =>
      some (.ok ((alive s.now (s.quotas harnessId)).map Prod.fst),
        { s with quotas := Function.update s.quotas harnessId (alive s.now (s.quotas harnessId)) })
  | .beginProbe _ _, _, s => some (.ok (), s)
  | .endProbe _ harnessId, choice, s =>
      answered choice { choice.probe with harnessId := harnessId } s
  | .storeProbe snapshot, _, s => some (.ok (), s.putQuota setup snapshot)
  | .storeObserved _ snapshot, _, s => some (.ok (), s.putQuota setup snapshot)
  | .invalidateQuota (some harnessId), _, s =>
      some (.ok (), { s with quotas := Function.update s.quotas harnessId none })
  | .invalidateQuota none, _, s => some (.ok (), { s with quotas := fun _ => none })
  | .getCached, _, s =>
      some (.ok ((alive s.now s.cached).map Prod.fst), { s with cached := alive s.now s.cached })
  | .putCached snapshot, _, s =>
      some (.ok (), { s with cached := some (snapshot, s.now + max 0 setup.cacheTtl) })
  | .invalidateCached, _, s => some (.ok (), { s with cached := none })
  | .getStats harnessId, _, s => some (.ok (s.stats harnessId), s)
  | .recordExecution harnessId now execution, _, s =>
      some (.ok (), s.setStats harnessId fun stats =>
        stats.recordExecution setup.maxSamples now execution)
  | .markRunning harnessId delta, _, s =>
      some (.ok (), s.setStats harnessId fun stats => stats.markRunning delta)
  | .setPrior entries, _, s =>
      some (.ok (), { s with
        prior := entries.foldl (fun prior entry =>
          Function.update prior entry.harnessId (some entry.availability)) s.prior })
  | .getPrior harnessId, _, s => some (.ok (s.prior harnessId), s)
  | .publish snapshot, choice, s =>
      answered choice () { s with published := snapshot :: s.published }

-- Time passes.
def outside (elapsed : Nat) (s : Shared) : Option Shared := some { s with now := s.now + elapsed }

-- Any number of calls of both services, each at one of its awaits.
@[reducible] def snapshots : System signature where
  Shared := Shared
  Call := Call
  Choice := Choice
  Outside := Nat
  Result := Outcome
  program := Call.program setup
  enter _ s := some s
  effect := effect setup
  outside := outside

end System

section Effects

variable {setup : Setup} {op : Op} {choice : Choice} {shared after : Shared}
  {answer : Except Raised op.Reply} {harnessId : String}

theorem update_eq_some {α : Type} {entries : String → Option α} {key other : String}
    {value : Option α} {found : α} (h : Function.update entries key value other = some found) :
    key = other ∧ value = some found ∨ key ≠ other ∧ entries other = some found := by
  by_cases hkey : key = other
  · subst hkey
    rw [Function.update_self] at h
    exact .inl ⟨rfl, h⟩
  · rw [Function.update_of_ne (Ne.symm hkey)] at h
    exact .inr ⟨hkey, h⟩

-- A quota that is cached was stored with the step, or was there before.
theorem quotas_of_effect {quota : QuotaSnapshot} {expires : Time}
    (heffect : effect setup op choice shared = some (answer, after))
    (hquota : after.quotas harnessId = some (quota, expires)) :
    quota.harnessId = harnessId ∧
        (op = .storeProbe quota ∨ ∃ observation, op = .storeObserved observation quota) ∨
      shared.quotas harnessId = some (quota, expires) ∧
        ∀ observation snapshot, op = .storeObserved observation snapshot →
          snapshot.harnessId ≠ harnessId := by
  have hput : ∀ snapshot : QuotaSnapshot,
      (shared.putQuota setup snapshot).quotas harnessId = some (quota, expires) →
        quota = snapshot ∧ quota.harnessId = harnessId ∨
          shared.quotas harnessId = some (quota, expires) ∧ snapshot.harnessId ≠ harnessId := by
    intro snapshot h
    rcases update_eq_some h with ⟨hharness, hvalue⟩ | ⟨hharness, hbefore⟩
    · cases hvalue
      exact .inl ⟨rfl, hharness⟩
    · exact .inr ⟨hbefore, hharness⟩
  cases op with
  | storeProbe snapshot =>
      cases heffect
      rcases hput snapshot hquota with ⟨rfl, hharness⟩ | ⟨hbefore, -⟩
      · exact .inl ⟨hharness, .inl rfl⟩
      · exact .inr ⟨hbefore, fun _ _ => Op.noConfusion⟩
  | storeObserved observation snapshot =>
      cases heffect
      rcases hput snapshot hquota with ⟨rfl, hharness⟩ | ⟨hbefore, hharness⟩
      · exact .inl ⟨hharness, .inr ⟨observation, rfl⟩⟩
      · exact .inr ⟨hbefore, fun _ _ heq => by cases heq; exact hharness⟩
  | getQuota purpose observed =>
      cases heffect
      rcases update_eq_some hquota with ⟨rfl, halive⟩ | ⟨-, hbefore⟩
      · exact .inr ⟨(Option.filter_eq_some_iff.mp halive).1, fun _ _ => Op.noConfusion⟩
      · exact .inr ⟨hbefore, fun _ _ => Op.noConfusion⟩
  | invalidateQuota observed =>
      cases observed with
      | none =>
          cases heffect
          cases hquota
      | some observed =>
          cases heffect
          rcases update_eq_some hquota with ⟨-, hnone⟩ | ⟨-, hbefore⟩
          · cases hnone
          · exact .inr ⟨hbefore, fun _ _ => Op.noConfusion⟩
  | acquire =>
      simp only [effect] at heffect
      split at heffect
      · split at heffect <;> cases heffect
        exact .inr ⟨hquota, fun _ _ => Op.noConfusion⟩
      · cases heffect
        exact .inr ⟨hquota, fun _ _ => Op.noConfusion⟩
  | endProbe | publish =>
      simp only [effect, answered] at heffect
      split at heffect <;> cases heffect <;> exact .inr ⟨hquota, fun _ _ => Op.noConfusion⟩
  | _ =>
      cases heffect
      exact .inr ⟨hquota, fun _ _ => Op.noConfusion⟩

-- What is cached was put there, or was there before.
theorem cached_of_effect {snapshot : RuntimeSnapshot} {expires : Time}
    (heffect : effect setup op choice shared = some (answer, after))
    (hcached : after.cached = some (snapshot, expires)) :
    op = .putCached snapshot ∨
      ((∀ other, op ≠ .putCached other) ∧ shared.cached = some (snapshot, expires)) := by
  cases op with
  | putCached =>
      cases heffect
      cases hcached
      exact .inl rfl
  | getCached =>
      cases heffect
      exact .inr ⟨fun _ => Op.noConfusion, (Option.filter_eq_some_iff.mp hcached).1⟩
  | invalidateCached =>
      cases heffect
      cases hcached
  | acquire =>
      simp only [effect] at heffect
      split at heffect
      · split at heffect <;> cases heffect
        exact .inr ⟨fun _ => Op.noConfusion, hcached⟩
      · cases heffect
        exact .inr ⟨fun _ => Op.noConfusion, hcached⟩
  | endProbe | publish =>
      simp only [effect, answered] at heffect
      split at heffect <;> cases heffect <;> exact .inr ⟨fun _ => Op.noConfusion, hcached⟩
  | invalidateQuota harnessId =>
      cases harnessId <;> cases heffect <;> exact .inr ⟨fun _ => Op.noConfusion, hcached⟩
  | _ =>
      cases heffect
      exact .inr ⟨fun _ => Op.noConfusion, hcached⟩

end Effects

section Kinds

variable {α : Type} {kind : Op → Prop}

-- What an observation awaits of the quota service.
def ObserveOp : Op → Prop
  | .utcNow | .getQuota .prior _ | .beginProbe .prior _ | .endProbe .prior _ => True
  | .storeObserved _ _ | .invalidateQuota _ => True
  | _ => False

-- What the status of a harness awaits of the quota service.
def StatusOp : Op → Prop
  | .acquire .quota | .release .quota | .utcNow | .getQuota .status _ | .beginProbe .status _ => True
  | .endProbe .status _ | .storeProbe _ => True
  | _ => False

-- What the quota service awaits.
def QuotaOp : Op → Prop
  | .acquire .quota | .release .quota | .utcNow | .getQuota _ _ | .beginProbe _ _ => True
  | .endProbe _ _ | .storeProbe _ | .storeObserved _ _ | .invalidateQuota _ => True
  | _ => False

theorem ObserveOp.quotaOp {op : Op} (h : ObserveOp op) : QuotaOp op := by
  cases op with
  | utcNow | getQuota | beginProbe | endProbe | storeObserved | invalidateQuota => trivial
  | _ => exact h.elim

theorem StatusOp.quotaOp {op : Op} (h : StatusOp op) : QuotaOp op := by
  cases op with
  | acquire lock | release lock => cases lock <;> exact h
  | utcNow | getQuota | beginProbe | endProbe | storeProbe => trivial
  | _ => exact h.elim

theorem lift_every {result : Except PyError α} : (lift result).Every kind := by
  cases result <;> trivial

theorem holding_every {lock : Lock} {program : SnapshotM α} (h : program.Every kind)
    (hacquire : kind (.acquire lock)) (hrelease : kind (.release lock)) :
    (holding lock program).Every kind := by
  have hcaught : (program.catching fun raised => do
      let _ ← perform (.release lock)
      throw raised).Every kind :=
    h.catching fun _ => .perform_bind hrelease fun _ => trivial
  exact .perform_bind hacquire fun _ => .bind hcaught fun _ =>
    .perform_bind hrelease fun _ => trivial

theorem probed_every {purpose : Purpose} {harnessId : String} {metadata : RuntimeError → Metadata}
    (hbegin : kind (.beginProbe purpose harnessId)) (hend : kind (.endProbe purpose harnessId))
    (hnow : kind .utcNow) : (probed purpose harnessId metadata).Every kind := by
  have hprobe : (asyncQuotaSnapshot purpose harnessId).Every kind :=
    .perform_bind hbegin fun _ => .perform hend
  refine hprobe.catching fun raised => ?_
  cases raised with
  | exception => exact .perform_bind hnow fun _ => trivial
  | _ => trivial

theorem quotaSnapshot_status (harnessId : String) (refresh : Bool) :
    (quotaSnapshot harnessId refresh).Every StatusOp := by
  have hcached : (cachedQuota harnessId refresh).Every StatusOp := .ite trivial (.perform trivial)
  refine .bind hcached fun cached => ?_
  cases cached with
  | some => trivial
  | none =>
      refine holding_every (.bind hcached fun cached => ?_) trivial trivial
      cases cached with
      | some => trivial
      | none =>
          exact .bind (probed_every trivial trivial trivial) fun _ =>
            .perform_bind trivial fun _ => trivial

theorem quotaSnapshot_every (harnessId : String) (refresh : Bool) :
    (quotaSnapshot harnessId refresh).Every QuotaOp :=
  (quotaSnapshot_status harnessId refresh).mono fun _ => StatusOp.quotaOp

variable (setup : Setup)

theorem listSnapshots_every (harnessIds : Option (List String)) (refresh : Bool) :
    (listSnapshots setup harnessIds refresh).Every QuotaOp :=
  .mapM (fun harnessId => quotaSnapshot_every harnessId refresh) _

theorem refreshQuota_every (harnessId : Option String) :
    (refreshQuota setup harnessId).Every QuotaOp := by
  unfold refreshQuota
  split
  · exact .perform_bind trivial fun _ => .bind (quotaSnapshot_every _ true) fun _ => trivial
  · exact .perform_bind trivial fun _ => listSnapshots_every setup none true

theorem observeQuota_every (harnessId : String) (observation : Observation) :
    (observeQuota setup harnessId observation).Every ObserveOp := by
  have hprior : (priorQuota harnessId).Every ObserveOp := .perform_bind trivial fun cached => by
    cases cached with
    | some => trivial
    | none => exact probed_every trivial trivial trivial
  have hinvalidated : (invalidateFailed harnessId observation.success).Every ObserveOp :=
    .ite trivial (.perform trivial)
  exact .bind hprior fun _ => .perform_bind trivial fun _ => .bind hinvalidated fun _ =>
    .perform_bind trivial fun _ => trivial

end Kinds

section Parts

variable {harnessIds : Option (List String)} {cached : Option RuntimeSnapshot}
  {snapshot : RuntimeSnapshot}

-- What is taken from the cache has entries of what is there.
theorem cachedSnapshot_subset
    (h : snapshot ∈ cached.bind fun cached => harnessIds.elim (some cached) cached.part) :
    ∃ whole ∈ cached, snapshot.harnesses ⊆ whole.harnesses := by
  obtain ⟨whole, rfl, hpart⟩ := Option.bind_eq_some_iff.mp h
  refine ⟨whole, rfl, ?_⟩
  cases harnessIds with
  | none =>
      cases hpart
      exact fun _ h => h
  | some harnessIds =>
      rw [Option.elim_some, RuntimeSnapshot.part] at hpart
      split at hpart
      · cases hpart
        exact List.filter_subset_self _
      · cases hpart

theorem cachedWhole_subset (h : snapshot ∈ if harnessIds.isNone then cached else none) :
    ∃ whole ∈ cached, snapshot.harnesses ⊆ whole.harnesses := by
  split at h
  · exact ⟨snapshot, h, fun _ h => h⟩
  · cases h

end Parts

section Rules

variable {setup : Setup} {D : (snapshots setup).Discipline} {id : Nat} {s : (snapshots setup).State}
  {α : Type} {lock : Lock} {body : SnapshotM α} {assertion : α → (snapshots setup).State → Prop}

-- What the body asserts is there when the lock is released.
theorem holding_yields
    (hlawful : ∀ op t, op = .acquire lock ∨ op = .release lock → D.good t → D.lawful id op t)
    (hbody : ∀ t shared, D.rely id s t →
      body.Holds D id (Program.Yields assertion) (t.note (.did id (.acquire lock) (.ok ())) shared))
    (hreleased : ∀ value t u answer shared, assertion value t → D.rely id t u →
      assertion value (u.note (.did id (.release lock) answer) shared)) :
    (holding lock body).Holds D id (Program.Yields assertion) s := by
  refine .perform_bind (fun t _ hgood => hlawful _ t (.inl rfl) hgood)
    (fun t choice value shared hleft _ _ _ => ?_) fun _ _ _ _ _ _ _ _ => trivial
  have hcaught : (body.catching fun raised => do
      let _ ← perform (.release lock)
      throw raised).Holds D id (Program.Yields assertion)
        (t.note (.did id (.acquire lock) (.ok value)) shared) := by
    refine (hbody t shared hleft).catching (fun _ _ h => h) fun raised u _ => ?_
    exact .perform_bind (fun x _ hgood => hlawful _ x (.inr rfl) hgood)
      (fun _ _ _ _ _ _ _ _ => trivial) fun _ _ _ _ _ _ _ _ => trivial
  refine hcaught.yields_bind fun found u hfound => ?_
  exact .perform_bind (fun x _ hgood => hlawful _ x (.inr rfl) hgood)
    (fun x _ _ _ hleft _ _ _ => hreleased found u x _ _ hfound hleft)
    fun _ _ _ _ _ _ _ _ => trivial

end Rules

section Setups

theorem toLower_plain {c : Char} (h : (c.isLower || c.isDigit || c = '_') = true) : c.toLower = c := by
  unfold Char.toLower
  refine dif_neg fun hupper => ?_
  simp only [Char.isLower, Char.isDigit, Bool.or_eq_true, Bool.and_eq_true, decide_eq_true_eq,
    UInt32.le_iff_toNat_le, ge_iff_le] at h hupper
  rcases h with (h | h) | rfl
  · have hz : 'Z'.val.toNat = 90 := rfl
    have ha : 'a'.val.toNat = 97 := rfl
    omega
  · have hA : 'A'.val.toNat = 65 := rfl
    have hnine : '9'.val.toNat = 57 := rfl
    omega
  · revert hupper
    decide

theorem map_toLower_plain (text : String) (h : plain text = true) :
    String.ofList (text.toList.map Char.toLower) = text := by
  have hkept : text.toList.map Char.toLower = text.toList := by
    refine (List.map_congr_left fun c hc => ?_).trans (List.map_id _)
    exact toLower_plain (List.all_eq_true.mp h c hc)
  rw [hkept, String.ofList_toList]

-- Two harnesses, on an interpreter that lowers the letters of the runs below.
def twoProviders : Setup where
  python := {
    lower := fun text => String.ofList (text.toList.map Char.toLower)
    floatText := toString
    lower_plain := map_toLower_plain }
  registry := { definitions := [], aliases := [], adapters := [] }
  providers := ["codex", "gemini-cli"]
  quotaIds := []
  extraIds := []
  quotaTtl := 60
  cacheTtl := 60
  maxSamples := 64

def ready : QuotaSnapshot where
  harnessId := "codex"
  availability := .ready
  quotaVisibility := .observed
  state := .available
  authenticated := true
  configured := true
  creditsRemaining := none
  requestsRemaining := none
  tokensRemaining := none
  resetAt := none
  observedAt := ⟨0, true⟩
  source := .officialCli
  rawMetadata := []

def goes (id count : Nat) : List (snapshots twoProviders).Label :=
  List.replicate count (.go id { probe := ready })

end Setups

end JoyMesh.Snapshots
