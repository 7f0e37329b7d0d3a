import JoyMesh.Value

namespace JoyMesh.Connectors

inductive NodeConnectorState where
  | unknown
  | notAvailable
  | availableToInstall
  | installPlanRequired
  | installApprovalRequired
  | installing
  | installed
  | executableBroken
  | authenticationRequired
  | authenticationInProgress
  | authenticated
  | authenticationFailed
  | verificationRequired
  | verificationInProgress
  | verified
  | certificationRequired
  | certificationInProgress
  | certified
  | certificationFailed
  | ideOnly
  | blocked
  | needsRepair
  | unsupportedPlatform
  | routingDisabled
  | ready
deriving DecidableEq, Repr

inductive ConnectorTaskStatus where
  | planned
  | approvalRequired
  | approved
  | queued
  | offeredToNode
  | acceptedByNode
  | running
  | waitingForUser
  | waitingForAuthCallback
  | succeeded
  | failed
  | cancelled
  | expired
  | interrupted
deriving DecidableEq, Repr

namespace ConnectorTaskStatus

def value : ConnectorTaskStatus → String
  | planned => "planned"
  | approvalRequired => "approval_required"
  | approved => "approved"
  | queued => "queued"
  | offeredToNode => "offered_to_node"
  | acceptedByNode => "accepted_by_node"
  | running => "running"
  | waitingForUser => "waiting_for_user"
  | waitingForAuthCallback => "waiting_for_auth_callback"
  | succeeded => "succeeded"
  | failed => "failed"
  | cancelled => "cancelled"
  | expired => "expired"
  | interrupted => "interrupted"

def terminal : ConnectorTaskStatus → Bool
  | .succeeded | .failed | .cancelled | .expired | .interrupted => true
  | _ => false

def active (status : ConnectorTaskStatus) : Bool :=
  !status.terminal &&
    match status with
    | .planned | .approvalRequired | .approved => false
    | _ => true

end ConnectorTaskStatus

inductive ConnectorEvidenceType where
  | discovery
  | version
  | installation
  | authentication
  | adapterConformance
  | realBinaryTest
  | certification
  | routing
  | failure
deriving DecidableEq, Repr

inductive RecommendedConnectorAction where
  | install
  | repair
  | authenticate
  | verifyAuthentication
  | verifyAdapter
  | certify
  | enableRouting
  | disableRouting
  | retry
  | none
deriving DecidableEq, Repr

inductive ConnectorExecutionOrigin where
  | remoteNode
  | inlineDevelopment
  | mockTest
deriving DecidableEq, Repr

namespace ConnectorExecutionOrigin

def value : ConnectorExecutionOrigin → String
  | .remoteNode => "remote_node"
  | .inlineDevelopment => "inline_development"
  | .mockTest => "mock_test"

-- The member with the given value, where there is one.
def parse (text : String) : Option ConnectorExecutionOrigin :=
  [remoteNode, inlineDevelopment, mockTest].find? fun origin => origin.value == text

@[simp] theorem parse_value (origin : ConnectorExecutionOrigin) :
    parse origin.value = some origin := by
  cases origin <;> rfl

end ConnectorExecutionOrigin

inductive EvidenceTrustLevel where
  | mock
  | development
  | nodeAttested
deriving DecidableEq, Repr

namespace EvidenceTrustLevel

def value : EvidenceTrustLevel → String
  | .mock => "mock"
  | .development => "development"
  | .nodeAttested => "node_attested"

def parse (text : String) : Option EvidenceTrustLevel :=
  [mock, development, nodeAttested].find? fun trust => trust.value == text

@[simp] theorem parse_value (trust : EvidenceTrustLevel) : parse trust.value = some trust := by
  cases trust <;> rfl

end EvidenceTrustLevel

inductive ConnectorMaturity where
  | catalogued
  | discoverable
  | installable
  | authenticatable
  | adapterConformant
  | realBinaryTested
  | certified
  | productionReady
  | blocked
  | deprecated
deriving DecidableEq, Repr

namespace ConnectorMaturity

def value : ConnectorMaturity → String
  | .catalogued => "catalogued"
  | .discoverable => "discoverable"
  | .installable => "installable"
  | .authenticatable => "authenticatable"
  | .adapterConformant => "adapter_conformant"
  | .realBinaryTested => "real_binary_tested"
  | .certified => "certified"
  | .productionReady => "production_ready"
  | .blocked => "blocked"
  | .deprecated => "deprecated"

end ConnectorMaturity

inductive ConnectorTier where
  | terminal
  | ide
deriving DecidableEq, Repr

inductive ConnectorExecutionMode where
  | structuredHeadless
  | textHeadless
  | ptyInteractive
  | ideOnly
  | discoveryOnly
  | unsupported
deriving DecidableEq, Repr

-- Installation options and authentication methods are known by their ids.
structure ConnectorDefinition where
  revision : String
  maturity : ConnectorMaturity
  tier : ConnectorTier := .terminal
  mode : ConnectorExecutionMode
  supportedPlatforms : List String
  installationOptions : List String := []
  authenticationMethods : List String := []
  blockedReason : Option String := none

structure ConnectorEvidence where
  evidenceId : String
  nodeId : String
  connectorId : String
  connectorRevision : String
  taskId : String
  evidenceType : ConnectorEvidenceType
  status : String
  executablePath : Option String := none
  executableFingerprint : Option String := none
  harnessVersion : Option String := none
  providerMode : Option String := none
  details : Mapping := ∅
  createdAt : Time
  expiresAt : Option Time := none
  trustLevel : EvidenceTrustLevel := .development
  executionOrigin : ConnectorExecutionOrigin := .inlineDevelopment

namespace ConnectorEvidence

-- What readiness reads of stored evidence: its details, overlaid with the
-- columns of the row.
def entry (evidence : ConnectorEvidence) : Mapping :=
  evidence.details.update (.ofList [
    ("status", .str evidence.status),
    ("connector_revision", .str evidence.connectorRevision),
    ("harness_version", .ofOption evidence.harnessVersion),
    ("detail", evidence.details.get "detail"),
    ("trust_level", .str evidence.trustLevel.value),
    ("execution_origin", .str evidence.executionOrigin.value),
    ("evidence_id", .str evidence.evidenceId),
    ("executable_fingerprint", .ofOption evidence.executableFingerprint)])

-- The columns of the row win over details of the same name.
@[simp] theorem entry_status (evidence : ConnectorEvidence) :
    evidence.entry.get "status" = .str evidence.status :=
  Mapping.get_update_of_lookup rfl

@[simp] theorem entry_trust_level (evidence : ConnectorEvidence) :
    evidence.entry.get "trust_level" = .str evidence.trustLevel.value :=
  Mapping.get_update_of_lookup rfl

@[simp] theorem entry_execution_origin (evidence : ConnectorEvidence) :
    evidence.entry.get "execution_origin" = .str evidence.executionOrigin.value :=
  Mapping.get_update_of_lookup rfl

def expired (evidence : ConnectorEvidence) (now : Time) : Bool :=
  evidence.expiresAt.any fun expiresAt => decide (expiresAt ≤ now)

end ConnectorEvidence

structure ConnectorReadiness where
  nodeId : String
  connectorId : String
  state : NodeConnectorState
  recommendedAction : Option RecommendedConnectorAction
  blockingReason : Option String
  activeTaskId : Option String
  latestEvidenceId : Option String
  routingEligible : Bool
  catalogueMaturity : String
  installedVersion : Option String
  executablePath : Option String
  routingProfile : Option String
  evidenceTrustLevel : Option EvidenceTrustLevel
  executionOrigin : Option ConnectorExecutionOrigin
  updatedAt : Time
deriving DecidableEq, Repr

end JoyMesh.Connectors
