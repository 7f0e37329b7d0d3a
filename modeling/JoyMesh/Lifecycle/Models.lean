import JoyMesh.Connectors.Store
import JoyMesh.Node.Tasks

namespace JoyMesh.Lifecycle

open JoyMesh.Library

export JoyMesh.Connectors (ConnectorTaskStatus ConnectorEvidence ConnectorEvidenceType
  EvidenceTrustLevel ConnectorExecutionOrigin)
export JoyMesh.Node (ConnectorAction)

-- The class of an exception with its message.
structure Raised where
  type : String
  message : String
deriving DecidableEq, Repr

def keyError (message : String) : Raised := ⟨"KeyError", message⟩
def valueError (message : String) : Raised := ⟨"ValueError", message⟩
def permissionError (message : String) : Raised := ⟨"PermissionError", message⟩
def connectorPlanError (message : String) : Raised := ⟨"ConnectorPlanError", message⟩
def integrityError (message : String) : Raised := ⟨"IntegrityError", message⟩

structure ConnectorTaskPlan where
  planId : String
  nodeId : String
  connectorId : String
  connectorRevision : String
  action : ConnectorAction
  methodId : String
  executable : String
  arguments : List String
  workingDirectory : Option String := none
  environmentChanges : List (String × String) := []
  packageSource : String
  expectedExecutables : List String
  expectedVersionPattern : String := ".+"
  requiresAdmin : Bool := false
  modifiesPath : Bool := false
  modifiesShellProfile : Bool := false
  downloadDigest : Option String := none
  riskLevel : String := "medium"
  expiresAt : Time
  planHash : String
  approved : Bool := false
deriving DecidableEq

-- A row of connector_tasks, which is also the record that is read from it.
structure ConnectorTaskRecord where
  taskId : String
  planId : String
  nodeId : String
  connectorId : String
  connectorRevision : String
  action : ConnectorAction
  planHash : String
  status : ConnectorTaskStatus
  idempotencyKey : String
  previousTaskId : Option String := none
  version : Nat := 1
  createdAt : Time
  startedAt : Option Time := none
  finishedAt : Option Time := none
  detail : Option String := none
deriving DecidableEq

structure ConnectorTaskEvent where
  eventId : String
  taskId : String
  nodeId : String
  connectorId : String
  eventType : String
  sequence : Nat
  payload : Mapping
  createdAt : Time
deriving DecidableEq

inductive NodeProtocolMessageType where
  | hello
  | welcome
  | challenge
  | authenticate
  | sessionEstablished
  | ready
  | heartbeat
  | heartbeatAck
  | presence
  | taskOffer
  | taskAccepted
  | taskRejected
  | taskStarted
  | taskProgress
  | taskWaitingForUser
  | taskEvidence
  | taskSucceeded
  | taskFailed
  | taskCancelled
  | taskInterrupted
  | taskEvent
  | taskCancel
  | taskResume
  | taskComplete
  | taskReconcile
  | taskReconcileResponse
  | nodeRevoked
  | approvalRequest
  | approvalDecision
  | error
  | nodeError
  | controlError
  | goodbye
deriving DecidableEq, Repr

namespace NodeProtocolMessageType

def value : NodeProtocolMessageType → String
  | hello => "hello"
  | welcome => "welcome"
  | challenge => "control.challenge"
  | authenticate => "node.authenticate"
  | sessionEstablished => "control.session_established"
  | ready => "node.ready"
  | heartbeat => "node.heartbeat"
  | heartbeatAck => "control.heartbeat_ack"
  | presence => "presence"
  | taskOffer => "task.offer"
  | taskAccepted => "task.accepted"
  | taskRejected => "task.rejected"
  | taskStarted => "task.started"
  | taskProgress => "task.progress"
  | taskWaitingForUser => "task.waiting_for_user"
  | taskEvidence => "task.evidence"
  | taskSucceeded => "task.succeeded"
  | taskFailed => "task.failed"
  | taskCancelled => "task.cancelled"
  | taskInterrupted => "task.interrupted"
  | taskEvent => "task.event"
  | taskCancel => "task.cancel"
  | taskResume => "task.resume"
  | taskComplete => "task.complete"
  | taskReconcile => "task.reconcile"
  | taskReconcileResponse => "task.reconcile_response"
  | nodeRevoked => "node.revoked"
  | approvalRequest => "approval.request"
  | approvalDecision => "approval.decision"
  | error => "error"
  | nodeError => "node.error"
  | controlError => "control.error"
  | goodbye => "goodbye"

-- The terminal messages with the status that each gives its task.
def terminalStatus : NodeProtocolMessageType → Option ConnectorTaskStatus
  | taskSucceeded => some .succeeded
  | taskFailed => some .failed
  | taskCancelled => some .cancelled
  | taskInterrupted => some .interrupted
  | _ => none

end NodeProtocolMessageType

structure ProtocolMessage where
  type : NodeProtocolMessageType
  nodeId : String
  payload : Mapping
deriving DecidableEq

end JoyMesh.Lifecycle
