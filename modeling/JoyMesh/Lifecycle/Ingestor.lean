import JoyMesh.Lifecycle.Store

namespace JoyMesh.Lifecycle

open JoyMesh.Library ConnectorLifecycleStore

-- str(mapping.get(key, default))
def text (mapping : Mapping) (key default : String) : String :=
  (mapping.lookup key).elim default Value.text

def attributeError (value : Value) : Raised :=
  let typeName :=
    match value with
    | .none => "NoneType"
    | .bool _ => "bool"
    | .int _ => "int"
    | .float _ => "float"
    | .str _ => "str"
    | .list _ => "list"
    | .dict _ => "dict"
  ⟨"AttributeError", "'" ++ typeName ++ "' object has no attribute 'get'"⟩

def evidenceTypeValue : ConnectorEvidenceType → String
  | .discovery => "discovery"
  | .version => "version"
  | .installation => "installation"
  | .authentication => "authentication"
  | .adapterConformance => "adapter_conformance"
  | .realBinaryTest => "real_binary_test"
  | .certification => "certification"
  | .routing => "routing"
  | .failure => "failure"

def parseEvidenceType (text : String) : Except Raised ConnectorEvidenceType :=
  let all : List ConnectorEvidenceType := [.discovery, .version, .installation, .authentication,
    .adapterConformance, .realBinaryTest, .certification, .routing, .failure]
  match all.find? fun evidenceType => evidenceTypeValue evidenceType == text with
  | some evidenceType => .ok evidenceType
  | none => .error (valueError (Value.quote text ++ " is not a valid ConnectorEvidenceType"))

-- What the message says of its evidence, outright or in the details.
def reported (evidence : Mapping) (key default : String) : Except Raised String :=
  if (evidence.get key).truthy then .ok (evidence.get key).text
  else
    match evidence.get "details" with
    | .dict items =>
        let inner := (Mapping.ofList items).get key
        .ok (if inner.truthy then inner.text else default)
    | value => if value.truthy then .error (attributeError value) else .ok default

namespace ConnectorTaskEventIngestor

-- The checks of a message against the task that it names, before anything is
-- written. They end with the sequence number of the event.
def check (setup : Setup) (message : ProtocolMessage) (task : ConnectorTaskRecord) :
    Except Raised Nat :=
  let planHash := text message.payload "plan_hash" ""
  if task.nodeId ≠ message.nodeId then .error (permissionError "event for wrong node")
  else if task.connectorId ≠ text message.payload "connector_id" task.connectorId then
    .error (permissionError "event for wrong connector")
  else if planHash ≠ "" ∧ planHash ≠ task.planHash then .error (permissionError "stale plan hash")
  else if task.status.terminal then
    .error (valueError "events after terminal completion are rejected")
  else do
    let fallback := (message.payload.lookup "sequence").getD (.int 0)
    let sequence ← setup.int ((message.payload.lookup "sequence_number").getD fallback)
    if sequence < 0 then
      .error (valueError "1 validation error for ConnectorTaskEvent")
    else .ok sequence.toNat

-- The evidence of a message. A trust level or an origin that is not known is taken
-- for that of a remote node.
def evidenceOf (setup : Setup) (task : ConnectorTaskRecord) (evidence : Mapping)
    (generated : String) (createdAt : Time) : Except Raised ConnectorEvidence := do
  let trust ← reported evidence "trust_level" Connectors.EvidenceTrustLevel.nodeAttested.value
  let origin ← reported evidence "execution_origin" Connectors.ConnectorExecutionOrigin.remoteNode.value
  let evidenceType ← parseEvidenceType (text evidence "evidence_type" "failure")
  let details ←
    match evidence.get "details" with
    | .dict items => .ok (Mapping.ofList items)
    | value => if value.truthy then setup.dict value else .ok ∅
  let executablePath ← setup.column (evidence.get "executable_path")
  let executableFingerprint ← setup.column (evidence.get "executable_fingerprint")
  let harnessVersion ← setup.column (evidence.get "harness_version")
  let providerMode ← setup.column (evidence.get "provider_mode")
  return {
    evidenceId := text evidence "evidence_id" generated
    nodeId := task.nodeId
    connectorId := task.connectorId
    connectorRevision := text evidence "connector_revision" task.connectorRevision
    taskId := task.taskId
    evidenceType := evidenceType
    status := text evidence "status" "unknown"
    executablePath := executablePath
    executableFingerprint := executableFingerprint
    harnessVersion := harnessVersion
    providerMode := providerMode
    details := details
    createdAt := createdAt
    trustLevel := (Connectors.EvidenceTrustLevel.parse trust).getD .nodeAttested
    executionOrigin := (Connectors.ConnectorExecutionOrigin.parse origin).getD .remoteNode }

def ofExcept {α : Type} : Except Raised α → LifecycleM α := @Program.ended signature α

def ingestEvidence (setup : Setup) (message : ProtocolMessage) (task : ConnectorTaskRecord) :
    LifecycleM ConnectorTaskRecord := do
  match (message.payload.lookup "evidence").getD (.dict []) with
  | .dict items =>
      let generated ← perform .uuid4
      let createdAt ← perform .now
      let evidence ← ofExcept (evidenceOf setup task (.ofList items) generated createdAt)
      let _ ← recordEvidence evidence
      return task
  | _ => return task

def ingestTerminal (message : ProtocolMessage) (task : ConnectorTaskRecord)
    (status : ConnectorTaskStatus) : LifecycleM ConnectorTaskRecord := do
  if ← perform (.seeTerminal task.taskId) then
    throw (valueError "duplicate terminal event rejected")
  else
    let detail := text message.payload "detail" ""
    let finishedAt ← perform .now
    let updated ← transitionTask task.taskId task.version status
      (if detail = "" then none else some detail) none (some finishedAt)
    perform (.recompute task.nodeId task.connectorId)
    return updated

-- What a stored event does to its task.
def apply (setup : Setup) (message : ProtocolMessage) (task : ConnectorTaskRecord) :
    LifecycleM ConnectorTaskRecord := do
  match message.type with
  | .taskAccepted =>
      if task.status = .acceptedByNode ∨ task.status = .running then return task
      else
        let startedAt ← perform .now
        transitionTask task.taskId task.version .acceptedByNode none (some startedAt)
  | .taskStarted =>
      if task.status = .running then return task
      else transitionTask task.taskId task.version .running
  | .taskWaitingForUser => transitionTask task.taskId task.version .waitingForUser
  | .taskEvidence => ingestEvidence setup message task
  | type =>
      match type.terminalStatus with
      | some status => ingestTerminal message task status
      | none => return task

def ingest (setup : Setup) (message : ProtocolMessage) : LifecycleM ConnectorTaskRecord := do
  let taskId := text message.payload "task_id" ""
  if taskId = "" then throw (valueError "task_id required")
  else
    let task ← getTask taskId
    let sequence ← ofExcept (check setup message task)
    let eventId ← perform .uuid4
    let createdAt ← perform .now
    let _ ← appendTaskEvent {
      eventId := eventId
      taskId := taskId
      nodeId := message.nodeId
      connectorId := task.connectorId
      eventType := message.type.value
      sequence := sequence
      payload := message.payload
      createdAt := createdAt }
    apply setup message task

end ConnectorTaskEventIngestor

end JoyMesh.Lifecycle
