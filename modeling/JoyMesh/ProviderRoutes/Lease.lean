import JoyMesh.Value

namespace JoyMesh.ProviderRoutes

-- The manager and the connector whose route a lease protects.
abbrev Key := String × String

inductive LeaseStatus where
  | active
  | recovering
  | released
  | expired
  | blocked
  | blockCleared
deriving DecidableEq, Repr

namespace LeaseStatus

def text : LeaseStatus → String
  | active => "active"
  | recovering => "recovering"
  | released => "released"
  | expired => "expired"
  | blocked => "blocked"
  | blockCleared => "block_cleared"

-- The two statuses in which a lease protects its key.
def held (status : LeaseStatus) : Bool :=
  status = active || status = recovering

end LeaseStatus

structure ProviderRouteLease where
  leaseId : String
  managerId : String
  connectorId : String
  ownerExecutionId : String
  leaseToken : String
  status : LeaseStatus
  originalState : Mapping
  targetProviderId : Option String
  targetModelId : Option String
  acquiredAt : Time
  expiresAt : Time
  heartbeatAt : Time
  recoveryStatus : Option String := none
  details : Mapping := ∅
deriving DecidableEq

def ProviderRouteLease.key (lease : ProviderRouteLease) : Key :=
  (lease.managerId, lease.connectorId)

structure ProviderRouteLeaseError where
  reasonCode : String
  message : String
deriving DecidableEq, Repr

-- Besides its own error a store call can hash a value that is not hashable, or
-- insert a row that breaks a constraint of its table.
inductive StoreFailure where
  | lease (error : ProviderRouteLeaseError)
  | typeError
  | integrityError
deriving DecidableEq, Repr

namespace StoreFailure

def notFound : StoreFailure :=
  .lease ⟨"lease_not_found", "lease not found"⟩

def tokenOrOwnerMismatch : StoreFailure :=
  .lease ⟨"stale_lease_token", "lease token or owner mismatch"⟩

def invalidToken : StoreFailure :=
  .lease ⟨"stale_lease_token", "invalid lease token"⟩

def statusIs (status : LeaseStatus) : StoreFailure :=
  .lease ⟨"lease_not_active", "lease status is " ++ status.text⟩

def leaseExpired : StoreFailure :=
  .lease ⟨"lease_expired", "lease expired"⟩

def duplicateRelease : StoreFailure :=
  .lease ⟨"duplicate_release", "lease already released"⟩

def notExpired : StoreFailure :=
  .lease ⟨"lease_not_expired", "lease has not expired"⟩

def recoveryClaimed : StoreFailure :=
  .lease ⟨"recovery_claimed", "recovery already claimed by another owner"⟩

end StoreFailure

structure AcquireRequest where
  managerId : String
  connectorId : String
  ownerExecutionId : String
  ttl : Time
  originalState : Mapping
  targetProviderId : Option String := none
  targetModelId : Option String := none
  details : Mapping := ∅
deriving DecidableEq

def AcquireRequest.key (request : AcquireRequest) : Key :=
  (request.managerId, request.connectorId)

-- The lease that try_acquire offers to the store, under two generated ids.
def AcquireRequest.lease (request : AcquireRequest) (now : Time) (leaseId token : String) :
    ProviderRouteLease where
  leaseId := leaseId
  managerId := request.managerId
  connectorId := request.connectorId
  ownerExecutionId := request.ownerExecutionId
  leaseToken := token
  status := .active
  originalState := request.originalState
  targetProviderId := request.targetProviderId
  targetModelId := request.targetModelId
  acquiredAt := now
  expiresAt := now + request.ttl
  heartbeatAt := now
  details := request.details

-- The recovery statuses that end a lease; any other text is only recorded.
def resolves (recoveryStatus : String) : Bool :=
  "restored".toList.isPrefixOf recoveryStatus.toList || recoveryStatus = "recovery_failed" ||
    recoveryStatus = "expired_no_restore"

-- The membership test of the recorded recovery owner in {None, owner}.
def claimedByOther (status : LeaseStatus) (details : Mapping) (owner : String) :
    Except StoreFailure Bool :=
  if status = .recovering then
    let existing := details.get "recovery_owner_id"
    if existing.hashable then .ok (existing != .none && existing != .str owner)
    else .error .typeError
  else .ok false

def blockDetails (reason : String) (now : Time) : Mapping :=
  .ofList [("blocked", .bool true), ("reason", .str reason), ("at", .str (isoformat now))]

-- The reason a block reports: the recorded one, when it says anything.
def blockReason (details : Mapping) : String :=
  let reason := details.get "reason"
  if reason.truthy then reason.text else "recovery_failed"

-- The public calls of the lease store. A call that creates a lease or a row
-- carries the ids generated for it.
inductive LeaseCall where
  | tryAcquire (leaseId token : String) (request : AcquireRequest)
  | renew (leaseId leaseToken ownerExecutionId : String) (ttl : Time)
  | release (leaseId leaseToken ownerExecutionId : String)
  | get (leaseId : String)
  | getActive (key : Key)
  | listExpiredActive (moment : Option Time)
  | claimRecovery (leaseId leaseToken recoveryOwnerId : String)
  | markRecovery (leaseId leaseToken recoveryStatus : String) (details : Mapping)
  | blockConnector (rowId token : String) (key : Key) (reason : String)
  | isBlocked (key : Key)
  | clearBlock (key : Key)
deriving DecidableEq

inductive Reply where
  | lease (found : Option ProviderRouteLease)
  | leases (found : List ProviderRouteLease)
  | reason (found : Option String)
  | done
  | raised (failure : StoreFailure)
deriving DecidableEq

namespace Reply

def ofLease : Except StoreFailure ProviderRouteLease → Reply
  | .ok found => .lease (some found)
  | .error failure => .raised failure

def ofUnit : Except StoreFailure Unit → Reply
  | .ok _ => .done
  | .error failure => .raised failure

end Reply

-- A call at the instant its clock readings show.
structure TimedCall where
  now : Time
  call : LeaseCall
deriving DecidableEq

-- What the manager keeps for a connector.
structure RouteState where
  enabled : Bool
  providerId : String
  modelId : Option String
deriving DecidableEq, Repr

-- A reading of the route: the kept state and what else the reading reports.
structure ProviderRoute where
  state : RouteState
  configurationStatus : String
  available : Bool
  authenticated : Bool
deriving DecidableEq, Repr

structure MutationResult where
  ok : Bool
  reasonCode : Option String := none
  message : String := ""
deriving DecidableEq, Repr

-- What a call can raise. The detail of a foreign exception is its redacted text.
inductive Raised where
  | failure (failure : StoreFailure)
  | timeoutError
  | cancelledError
  | other (errorType detail : String)
deriving DecidableEq, Repr

namespace Raised

def errorType : Raised → String
  | failure (.lease _) => "ProviderRouteLeaseError"
  | failure .typeError => "TypeError"
  | failure .integrityError => "IntegrityError"
  | timeoutError => "TimeoutError"
  | cancelledError => "CancelledError"
  | other errorType _ => errorType

def detail : Raised → String
  | failure (.lease error) => error.message
  | other _ detail => detail
  | _ => ""

end Raised

def clip (limit : Nat) (s : String) : String :=
  String.ofList (s.toList.take limit)

-- The sanitised reading that is saved to be restored.
def originalState (connectorId : String) (current : ProviderRoute) : Mapping :=
  .ofList
    [("connector_id", .str connectorId),
      ("provider_id", .str current.state.providerId),
      ("enabled", .bool current.state.enabled),
      ("model_id", .ofOption current.state.modelId),
      ("configuration_status", .str current.configurationStatus),
      ("available", .bool current.available),
      ("authenticated", .bool current.authenticated)]

def endsWith (s suffix : String) : Bool :=
  suffix.toList.isSuffixOf s.toList

-- The manager often reports short ids, so either may be the end of the other.
def modelMatches : Option String → Option String → Bool
  | _, none => true
  | none, some _ => false
  | some observed, some requested =>
      observed = requested || endsWith observed requested || endsWith requested observed

-- Enabling is skipped when the reading already shows the target.
def needEnable (current : RouteState) (targetProviderId : String) (modelId : Option String) : Bool :=
  !(current.enabled && current.providerId = targetProviderId &&
    (modelId = none || current.modelId = modelId || modelMatches current.modelId modelId))

def desiredEnabled (original : Mapping) : Bool := (original.get "enabled").truthy

def desiredModel (original : Mapping) : Option String :=
  let model := original.get "model_id"
  if model.truthy then some model.text else none

def stateMatches (route : RouteState) (original : Mapping) : Bool :=
  if route.enabled != desiredEnabled original then false
  else if desiredEnabled original then
    let desiredProvider := original.get "provider_id"
    if (desiredModel original).isSome && !modelMatches route.modelId (desiredModel original) then
      false
    else if desiredProvider.truthy && desiredProvider != .str route.providerId then false
    else true
  else true

-- The four results of _restore.
structure RestoreOutcome where
  restored : Bool
  verified : Bool
  code : Option String
  message : String
deriving DecidableEq, Repr

namespace RestoreOutcome

def failed (message : String) : RestoreOutcome :=
  ⟨false, false, some "restoration_failed", message⟩

def ofReading (route : RouteState) (original : Mapping) : RestoreOutcome :=
  if stateMatches route original then ⟨true, true, none, "exact original state restored"⟩
  else
    ⟨true, false, some "restoration_failed",
      "restored route does not match original sanitised state"⟩

end RestoreOutcome

section

variable {connectorId : String} {current : ProviderRoute}

@[simp] theorem desiredEnabled_originalState :
    desiredEnabled (originalState connectorId current) = current.state.enabled := rfl

@[simp] theorem get_provider_originalState :
    (originalState connectorId current).get "provider_id" = .str current.state.providerId := rfl

theorem desiredModel_originalState {model : String} (h : current.state.modelId = some model)
    (hne : model ≠ "") : desiredModel (originalState connectorId current) = some model := by
  have hget : (originalState connectorId current).get "model_id" = .str model := by
    change Value.ofOption current.state.modelId = _
    rw [h]
    rfl
  simp [desiredModel, hget, Value.truthy, Value.text, hne]

end

end JoyMesh.ProviderRoutes
