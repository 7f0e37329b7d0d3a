import JoyMesh.Connectors.Evidence
import JoyMesh.Routing.Scoring
import JoyMesh.Runtime.Service

namespace JoyMesh.Connectors

def NodeConnectorState.value : NodeConnectorState → String
  | unknown => "unknown"
  | notAvailable => "not_available"
  | availableToInstall => "available_to_install"
  | installPlanRequired => "install_plan_required"
  | installApprovalRequired => "install_approval_required"
  | installing => "installing"
  | installed => "installed"
  | executableBroken => "executable_broken"
  | authenticationRequired => "authentication_required"
  | authenticationInProgress => "authentication_in_progress"
  | authenticated => "authenticated"
  | authenticationFailed => "authentication_failed"
  | verificationRequired => "verification_required"
  | verificationInProgress => "verification_in_progress"
  | verified => "verified"
  | certificationRequired => "certification_required"
  | certificationInProgress => "certification_in_progress"
  | certified => "certified"
  | certificationFailed => "certification_failed"
  | ideOnly => "ide_only"
  | blocked => "blocked"
  | needsRepair => "needs_repair"
  | unsupportedPlatform => "unsupported_platform"
  | routingDisabled => "routing_disabled"
  | ready => "ready"

end JoyMesh.Connectors

namespace JoyMesh.Runtime

open Library Routing
open Connectors (NodeConnectorState EvidenceTrustLevel ConnectorExecutionOrigin)

structure WorkspacePlacement where
  workspaceId : String
  writable : Bool
deriving DecidableEq, Repr

structure SchedulerConnectorSnapshot where
  installed : Bool
  readiness : NodeConnectorState
  authenticated : Bool
  routingEnabled : Bool
  certifiedCapabilities : List String
  trustLevel : Option EvidenceTrustLevel
  executionOrigin : Option ConnectorExecutionOrigin
deriving DecidableEq, Repr

structure SchedulerNodeSnapshot where
  nodeId : String
  online : Bool
  revoked : Bool
  sessionAuthenticated : Bool
  connectors : Table String SchedulerConnectorSnapshot
  placements : List WorkspacePlacement
  concurrency : Nat := 0
  queueDepth : Nat := 0
  recentFailures : Nat := 0

-- Every factor of a score is a whole number.
structure RankedCandidate extends RouteCandidate where
  score : Int
deriving DecidableEq, Repr

-- An empty requirement or preference is none.
def asked (requirement : Option String) : Option String := requirement.filter (· ≠ "")

namespace RuntimeScheduler

def placementFor (node : SchedulerNodeSnapshot) (workspaceId : String) :
    Option WorkspacePlacement :=
  node.placements.find? (·.workspaceId = workspaceId)

def needsWrite (capabilities : List String) : Bool :=
  capabilities.any (· ∈ ["repository.write", "repository.patch", "filesystem.write", "git.commit",
    "dependency.install"])

section Ranking

-- Whether JOYMESH_ENV asks for production, and the request.
variable (engine : PolicyEngine) (order : Iteration) (production : Bool)
  (request : RuntimeTaskRequest)

-- Each check that fails adds its reason.
def rejections (required : List String) (node : SchedulerNodeSnapshot) (connectorId : String)
    (connector : SchedulerConnectorSnapshot) (decision : PolicyDecision) : List String :=
  let check (failed : Bool) (reason : String) : List String := if failed then [reason] else []
  let missing := required.filter (· ∉ connector.certifiedCapabilities)
  check ((asked request.requiredNode).any (· ≠ node.nodeId)) "required node mismatch" ++
  check ((asked request.requiredConnector).any (· ≠ connectorId)) "required connector mismatch" ++
  check node.revoked "node revoked" ++
  check (!node.online) "node offline" ++
  check (!node.sessionAuthenticated) "node session not authenticated" ++
  check (!connector.installed) "connector not installed" ++
  check (connector.readiness ≠ .ready)
    ("connector readiness is " ++ connector.readiness.value) ++
  check (!connector.authenticated) "connector authentication invalid" ++
  check (!connector.routingEnabled) "routing disabled" ++
  check (missing ≠ []) ("capabilities not certified: " ++ ", ".intercalate (sorted missing)) ++
  check (production && connector.trustLevel ≠ some .nodeAttested)
    "production requires node-attested evidence" ++
  check (production && connector.executionOrigin ≠ some .remoteNode)
    "production requires remote_node execution origin" ++
  (match placementFor node request.workspaceId with
    | none => ["workspace placement missing"]
    | some placement =>
        check (!placement.writable && needsWrite required)
          "read-only workspace rejects write capabilities") ++
  if decision.allowed then [] else decision.reasons

def score (node : SchedulerNodeSnapshot) (connectorId : String) : Int :=
  let preference (most : Int) (preferred : List String) (item : String) : Int :=
    if item ∈ preferred then most - preferred.idxOf item else 0
  100 - node.concurrency * 2 - node.queueDepth - node.recentFailures * 3 +
    preference 10 request.preferredConnectors connectorId +
    preference 8 request.preferredNodes node.nodeId +
    if (placementFor node request.workspaceId).isSome then 15 else 0

def rankOne (required : List String) (node : SchedulerNodeSnapshot) (connectorId : String)
    (connector : SchedulerConnectorSnapshot) : Except PyError RankedCandidate := do
  let decision ← engine.evaluate order request (some connector.certifiedCapabilities)
  let reasons := rejections production request required node connectorId connector decision
  let eligible : Bool := reasons = []
  return {
    nodeId := node.nodeId
    connectorId := connectorId
    eligible := eligible
    rejectionReasons := reasons
    score := if eligible then score request node connectorId else 0 }

def rankNode (required : List String) (node : SchedulerNodeSnapshot) :
    Except PyError (List RankedCandidate) :=
  let connectors := (sorted node.connectors.keys).filterMap fun connectorId =>
    (node.connectors.lookup connectorId).map (connectorId, ·)
  connectors.mapM fun item => rankOne engine order production request required node item.1 item.2

-- Eligible ones first, the best score before the rest, then by their names.
def before (a b : RankedCandidate) : Bool :=
  if a.eligible ≠ b.eligible then a.eligible
  else if a.score ≠ b.score then b.score < a.score
  else if a.nodeId ≠ b.nodeId then a.nodeId < b.nodeId
  else a.connectorId < b.connectorId

def rankCandidates (nodes : List SchedulerNodeSnapshot) :
    Except PyError (List RankedCandidate) := do
  let base ← engine.evaluate order request
  if base.allowed = false then
    return [{
      nodeId := "*"
      connectorId := "*"
      eligible := false
      rejectionReasons := base.reasons
      score := 0 }]
  let candidates ← (sortedBy (fun a b => a.nodeId < b.nodeId) nodes).mapM
    (rankNode engine order production request base.grantedCapabilities)
  return sortedBy before candidates.flatten

end Ranking

section Eligible

variable {engine : PolicyEngine} {order : Iteration} {production : Bool}
  {request : RuntimeTaskRequest} {candidate : RankedCandidate} {required : List String}
  {node : SchedulerNodeSnapshot} {connectorId : String} {connector : SchedulerConnectorSnapshot}

-- A candidate is the one that the request requires.
structure Meets (request : RuntimeTaskRequest) (nodeId connectorId : String) : Prop where
  node : ∀ required, asked request.requiredNode = some required → nodeId = required
  connector : ∀ required, asked request.requiredConnector = some required → connectorId = required

theorem meets_of_rejections {decision : PolicyDecision}
    (h : rejections production request required node connectorId connector decision = []) :
    Meets request node.nodeId connectorId := by
  simp only [rejections, List.append_eq_nil_iff] at h
  obtain ⟨⟨⟨⟨⟨⟨⟨⟨⟨⟨⟨⟨⟨hnode, hconnector⟩, -⟩, -⟩, -⟩, -⟩, -⟩, -⟩, -⟩, -⟩, -⟩, -⟩, -⟩, -⟩ := h
  constructor
  · intro wanted hwanted
    simp only [hwanted, Option.any_some] at hnode
    by_contra hne
    simp [Ne.symm hne] at hnode
  · intro wanted hwanted
    simp only [hwanted, Option.any_some] at hconnector
    by_contra hne
    simp [Ne.symm hne] at hconnector

theorem rankOne_eligible
    (h : rankOne engine order production request required node connectorId connector =
      .ok candidate) (heligible : candidate.eligible = true) :
    Meets request candidate.nodeId candidate.connectorId := by
  obtain ⟨decision, -, h⟩ := bind_eq_ok.mp h
  obtain rfl := Except.ok.inj h
  have hreasons :
      rejections production request required node connectorId connector decision = [] := by
    simpa only [decide_eq_true_eq] using heligible
  exact meets_of_rejections hreasons

-- Only candidates that meet the requirements are eligible.
theorem rankCandidates_eligible {nodes : List SchedulerNodeSnapshot}
    {candidates : List RankedCandidate}
    (h : rankCandidates engine order production request nodes = .ok candidates)
    (hmem : candidate ∈ candidates) (heligible : candidate.eligible = true) :
    Meets request candidate.nodeId candidate.connectorId := by
  obtain ⟨base, -, h⟩ := bind_eq_ok.mp h
  split at h
  · obtain rfl := Except.ok.inj h
    obtain rfl := List.mem_singleton.mp hmem
    cases heligible
  · obtain ⟨lists, hlists, h⟩ := bind_eq_ok.mp h
    obtain rfl := Except.ok.inj h
    obtain ⟨list, hlist, hmem⟩ := List.mem_flatten.mp (mem_sortedBy.mp hmem)
    obtain ⟨node, -, hnode⟩ := mem_of_mapM_ok hlists hlist
    obtain ⟨item, -, hitem⟩ := mem_of_mapM_ok hnode hmem
    exact rankOne_eligible hitem heligible

end Eligible

end RuntimeScheduler

end JoyMesh.Runtime
