import JoyMesh.Library.Run
import JoyMesh.Library.Table
import JoyMesh.Value

namespace JoyMesh.Node

open Library

inductive ConnectorTaskStatus where
  | planned
  | approvalRequired
  | approved
  | queued
  | offeredToNode
  | acceptedByNode
  | running
  | waitingForUser
  | waitingForAuthCallback
  | succeeded
  | failed
  | cancelled
  | expired
  | interrupted
deriving DecidableEq, Repr

def ConnectorTaskStatus.value : ConnectorTaskStatus → String
  | planned => "planned"
  | approvalRequired => "approval_required"
  | approved => "approved"
  | queued => "queued"
  | offeredToNode => "offered_to_node"
  | acceptedByNode => "accepted_by_node"
  | running => "running"
  | waitingForUser => "waiting_for_user"
  | waitingForAuthCallback => "waiting_for_auth_callback"
  | succeeded => "succeeded"
  | failed => "failed"
  | cancelled => "cancelled"
  | expired => "expired"
  | interrupted => "interrupted"

-- A task id and a plan hash.
abbrev Pair := String × String

-- A row of task_journal, whose key is the pair.
structure LocalTaskJournalEntry where
  connectorId : String
  connectorRevision : String
  status : String
  acceptedAt : Option Time
  startedAt : Option Time := none
  terminalAt : Option Time := none
  terminalResultDigest : Option String := none
  lastSequenceNumber : Nat := 0
deriving DecidableEq, Repr

abbrev NodeTaskJournal := Table Pair LocalTaskJournalEntry

namespace NodeTaskJournal

variable (journal : NodeTaskJournal) (pair : Pair)

def get : Option LocalTaskJournalEntry := journal.lookup pair

-- An entry that exists already stays as it is.
def accept (connectorId connectorRevision : String) (now : Time) : NodeTaskJournal :=
  match journal.get pair with
  | some _ => journal
  | none =>
      journal.insert pair
        { connectorId := connectorId
          connectorRevision := connectorRevision
          status := "accepted"
          acceptedAt := some now }

def amend (f : LocalTaskJournalEntry → LocalTaskJournalEntry) : NodeTaskJournal :=
  match journal.get pair with
  | none => journal
  | some entry => journal.insert pair (f entry)

-- Only an entry that is not terminal is marked.
def markStarted (now : Time) : NodeTaskJournal :=
  journal.amend pair fun entry =>
    if entry.terminalAt = none then { entry with status := "running", startedAt := some now }
    else entry

def markTerminal (status resultDigest : String) (sequence : Nat) (now : Time) : NodeTaskJournal :=
  journal.amend pair fun entry =>
    if entry.terminalAt = none then
      { entry with
        status := status
        terminalAt := some now
        terminalResultDigest := some resultDigest
        lastSequenceNumber := sequence }
    else entry

def updateSequence (sequence : Nat) : NodeTaskJournal :=
  journal.amend pair fun entry => { entry with lastSequenceNumber := sequence }

section Lookups

variable {journal : NodeTaskJournal} {pair other : Pair} {entry : LocalTaskJournalEntry}
  {f : LocalTaskJournalEntry → LocalTaskJournalEntry} {connectorId connectorRevision : String}
  {now : Time}

theorem lookup_amend (other : Pair) : (journal.amend pair f).lookup other =
    if other = pair then (journal.lookup pair).map f else journal.lookup other := by
  unfold amend get
  cases h : journal.lookup pair with
  | none =>
      by_cases hp : other = pair
      · subst hp
        simp [h]
      · simp [hp]
  | some entry =>
      by_cases hp : other = pair
      · subst hp
        simp
      · simp [hp]

theorem lookup_accept (other : Pair) :
    (journal.accept pair connectorId connectorRevision now).lookup other =
      if other = pair then
        some ((journal.lookup pair).getD
          { connectorId := connectorId
            connectorRevision := connectorRevision
            status := "accepted"
            acceptedAt := some now })
      else journal.lookup other := by
  unfold accept get
  cases h : journal.lookup pair with
  | some entry =>
      by_cases hp : other = pair
      · subst hp
        simp [h]
      · simp [hp]
  | none =>
      by_cases hp : other = pair
      · subst hp
        simp
      · simp [hp]

end Lookups

end NodeTaskJournal

inductive ConnectorAction where
  | discover
  | install
  | upgrade
  | uninstall
  | repair
  | authenticate
  | verifyAuthentication
  | verifyAdapter
  | certify
  | enableRouting
  | disableRouting
deriving DecidableEq, Repr

namespace ConnectorAction

def value : ConnectorAction → String
  | discover => "discover"
  | install => "install"
  | upgrade => "upgrade"
  | uninstall => "uninstall"
  | repair => "repair"
  | authenticate => "authenticate"
  | verifyAuthentication => "verify_authentication"
  | verifyAdapter => "verify_adapter"
  | certify => "certify"
  | enableRouting => "enable_routing"
  | disableRouting => "disable_routing"

def all : List ConnectorAction :=
  [discover, install, upgrade, uninstall, repair, authenticate, verifyAuthentication,
    verifyAdapter, certify, enableRouting, disableRouting]

def ofValue (text : String) : Option ConnectorAction := all.find? fun action => action.value == text

-- The actions that the runner has a branch for.
def supported : ConnectorAction → Bool
  | upgrade | uninstall | enableRouting | disableRouting => false
  | _ => true

-- The statuses with which the branch of an action can return. A login only ever
-- waits for the user.
def mayReturn : ConnectorAction → ConnectorTaskStatus → Bool
  | authenticate, .waitingForUser => true
  | verifyAuthentication, .succeeded => true
  | verifyAuthentication, .failed => true
  | certify, .succeeded => true
  | certify, .failed => true
  | discover, .succeeded => true
  | install, .succeeded => true
  | repair, .succeeded => true
  | verifyAdapter, .succeeded => true
  | _, _ => false

end ConnectorAction

structure ConnectorTaskEnvelope where
  taskId : String
  nodeId : String
  connectorId : String
  connectorRevision : String
  action : String
  planHash : String
  expiresAt : Time
deriving DecidableEq, Repr

def ConnectorTaskEnvelope.pair (envelope : ConnectorTaskEnvelope) : Pair :=
  (envelope.taskId, envelope.planHash)

-- The task messages among the NodeProtocolMessageType values.
inductive MessageType where
  | taskAccepted
  | taskRejected
  | taskStarted
  | taskProgress
  | taskWaitingForUser
  | taskEvidence
  | taskSucceeded
  | taskFailed
  | taskCancelled
  | taskInterrupted
deriving DecidableEq, Repr

-- The message type of a runner event.
def MessageType.ofEvent (eventType : String) : MessageType :=
  if eventType = "task.started" then taskStarted
  else if eventType = "task.waiting_for_user" then taskWaitingForUser
  else if eventType = "task.succeeded" then taskSucceeded
  else if eventType = "task.failed" then taskFailed
  else if eventType = "task.cancelled" then taskCancelled
  else if eventType = "task.interrupted" then taskInterrupted
  else taskProgress

structure TaskMessage where
  type : MessageType
  taskId : String
  planHash : String
  connectorId : String
  connectorRevision : String
  sequenceNumber : Option Nat
  payload : Mapping := ∅
deriving DecidableEq

def TaskMessage.pair (message : TaskMessage) : Pair := (message.taskId, message.planHash)

def ConnectorTaskEnvelope.message (envelope : ConnectorTaskEnvelope) (type : MessageType)
    (sequenceNumber : Option Nat) (payload : Mapping := ∅) : TaskMessage where
  type := type
  taskId := envelope.taskId
  planHash := envelope.planHash
  connectorId := envelope.connectorId
  connectorRevision := envelope.connectorRevision
  sequenceNumber := sequenceNumber
  payload := payload

-- What a message is sent for, which decides what happens when the send returns,
-- raises or is cancelled.
inductive Stage where
  | starting
  | emitting
  | unsupported
  | reporting (status : ConnectorTaskStatus)
  | failing (reason : String)
  | failingEvidence
  | cancelled
  | nodeCancelled
deriving DecidableEq, Repr

-- Where an execution stands. written says that the message has left, while the
-- send has not returned yet.
inductive Place where
  | spawned
  | acting
  | stopping
  | sending (stage : Stage) (message : TaskMessage) (written : Bool)
deriving DecidableEq

-- A spawned _execute_connector_task with its own sequence and the runner's.
structure Execution where
  envelope : ConnectorTaskEnvelope
  sequence : Nat := 1
  runnerSequence : Nat := 1
  place : Place := .spawned
deriving DecidableEq

-- What the connection is doing for the message it received last.
inductive Handler where
  | answering (queue : List TaskMessage) (accepted : Option ConnectorTaskEnvelope)
  | cancelling (taskId : String)
deriving DecidableEq

structure JoyMeshNode where
  journal : NodeTaskJournal := ∅
  executedKeys : List String := []
  activeTasks : Table String Nat := ∅
  executions : Nat → Option Execution := fun _ => none
  handler : Option Handler := none
  controlPlanePublicKey : String := ""
  revoked : Bool := false

-- The signature check and the digest of the result are taken as functions.
structure NodeSetup where
  nodeId : String
  executionOrigin : String := "remote_node"
  publicKey : String := ""
  verifySignature : ConnectorTaskEnvelope → String → Bool
  resultDigest : String → String → String

-- What the branch of an action does next.
inductive ActionStep where
  | progress (payload : Mapping)
  | waitingForUser (payload : Mapping)
  | evidence (payload : Mapping)
  | returned (status : ConnectorTaskStatus)
  | raised (reason : String)

inductive Label where
  | offer (envelope : ConnectorTaskEnvelope) (now : Time)
  | answer
  | answered (i : Nat)
  | taskCancel (taskId : String)
  | cancelHandle
  | session (publicKey : String)
  | nodeRevoked
  | disconnect
  | start (i : Nat) (now : Time)
  | write (i : Nat)
  | proceed (i : Nat) (now : Time)
  | act (i : Nat) (done : ActionStep)
  | broken (i : Nat) (reason : String)
  | restart

namespace JoyMeshNode

variable (setup : NodeSetup) (node : JoyMeshNode) (i : Nat) (execution : Execution)

def setExecution (execution : Execution) : JoyMeshNode :=
  { node with executions := Function.update node.executions i (some execution) }

-- The done callback removes whatever handle stands under the task id.
def finished : JoyMeshNode :=
  { node with
    executions := Function.update node.executions i none
    activeTasks := node.activeTasks.erase execution.envelope.taskId }

def idempotency (envelope : ConnectorTaskEnvelope) : String :=
  setup.nodeId ++ ":" ++ envelope.taskId ++ ":" ++ envelope.planHash

def emitEvent (stage : Stage) (eventType : String) (payload : Mapping) : JoyMeshNode :=
  let runnerSequence := execution.runnerSequence + 1
  let sequence := max execution.sequence runnerSequence
  let message := execution.envelope.message (.ofEvent eventType) (some runnerSequence) payload
  { node with
    journal := node.journal.updateSequence execution.envelope.pair sequence }.setExecution i
      { execution with
        sequence := sequence
        runnerSequence := runnerSequence
        place := .sending stage message false }

def recordEvidence (stage : Stage) (payload : Mapping) : JoyMeshNode :=
  let sequence := execution.sequence + 1
  let message := execution.envelope.message .taskEvidence (some sequence) payload
  node.setExecution i { execution with sequence := sequence, place := .sending stage message false }

def sendCancelled : JoyMeshNode :=
  let message := execution.envelope.message .taskCancelled (some (execution.sequence + 1))
  node.setExecution i { execution with place := .sending .nodeCancelled message false }

-- The runner has returned a status.
def concluded (status : ConnectorTaskStatus) (now : Time) : JoyMeshNode :=
  if status = .waitingForUser then node.finished i execution
  else
    let digest := setup.resultDigest execution.envelope.taskId status.value
    { node with
      journal := node.journal.markTerminal execution.envelope.pair status.value digest
        execution.sequence now }.finished i execution

def failure (reason : String) : JoyMeshNode :=
  node.emitEvent i execution (.failing reason) "task.failed" (.ofList [("reason", .str reason)])

-- An execution begins: the journal is marked before anything else happens.
def started (now : Time) : JoyMeshNode :=
  let node := { node with journal := node.journal.markStarted execution.envelope.pair now }
  match ConnectorAction.ofValue execution.envelope.action with
  | none => node.finished i execution
  | some action =>
      let key := idempotency setup execution.envelope
      if key ∈ node.executedKeys then node.concluded setup i execution .succeeded now
      else
        let keys := if action = .authenticate then node.executedKeys else key :: node.executedKeys
        { node with executedKeys := keys }.emitEvent i execution .starting "task.started"
          (.ofList [("action", .str action.value), ("execution_origin", .str setup.executionOrigin)])

def beginAction : JoyMeshNode :=
  if (ConnectorAction.ofValue execution.envelope.action).any ConnectorAction.supported then
    node.setExecution i { execution with place := .acting }
  else
    node.emitEvent i execution .unsupported "task.failed"
      (.ofList [("reason", .str ("unsupported action " ++ execution.envelope.action))])

-- The send of a message has returned.
def proceeded (now : Time) : Stage → JoyMeshNode
  | .starting => node.beginAction i execution
  | .emitting => node.setExecution i { execution with place := .acting }
  | .unsupported => node.concluded setup i execution .failed now
  | .reporting status => node.concluded setup i execution status now
  | .failing reason =>
      node.recordEvidence i execution .failingEvidence
        (.ofList [("detail", .str reason), ("action", .str execution.envelope.action)])
  | .failingEvidence => node.concluded setup i execution .failed now
  | .cancelled => node.sendCancelled i execution
  | .nodeCancelled => node.finished i execution

-- The send of a message raises. Only inside the try block is that a failure of
-- the task.
def raisedAt (reason : String) : Stage → JoyMeshNode
  | .emitting => node.failure i execution reason
  | .unsupported => node.failure i execution reason
  | .reporting _ => node.failure i execution reason
  | _ => node.finished i execution

-- A CancelledError arrives where the execution waits.
def interrupted : JoyMeshNode :=
  match execution.place with
  | .spawned => node.finished i execution
  | .acting => node.setExecution i { execution with place := .stopping }
  | .stopping => node.sendCancelled i execution
  | .sending .emitting _ _ => node.setExecution i { execution with place := .stopping }
  | .sending .unsupported _ _ => node.setExecution i { execution with place := .stopping }
  | .sending (.reporting _) _ _ => node.setExecution i { execution with place := .stopping }
  | .sending .nodeCancelled _ _ => node.finished i execution
  | .sending _ _ _ => node.sendCancelled i execution

def interruptedAt (i : Nat) : JoyMeshNode :=
  match node.executions i with
  | none => node
  | some execution => node.interrupted i execution

def acted (action : ConnectorAction) : ActionStep → Option JoyMeshNode
  | .progress payload => some (node.emitEvent i execution .emitting "task.progress" payload)
  | .waitingForUser payload =>
      some (node.emitEvent i execution .emitting "task.waiting_for_user" payload)
  | .evidence payload => some (node.recordEvidence i execution .emitting payload)
  | .raised reason => some (node.failure i execution reason)
  | .returned status =>
      if action.mayReturn status then
        if status = .waitingForUser then some (node.finished i execution)
        else
          some (node.emitEvent i execution (.reporting status) ("task." ++ status.value)
            (.ofList [("action", .str action.value)]))
      else none

-- The checks that let an offer through; any other raises and ends the connection.
def admits (envelope : ConnectorTaskEnvelope) (now : Time) : Bool :=
  node.controlPlanePublicKey ≠ "" && now < envelope.expiresAt &&
    setup.verifySignature envelope node.controlPlanePublicKey && envelope.nodeId = setup.nodeId

def terminalAnswer (envelope : ConnectorTaskEnvelope) (entry : LocalTaskJournalEntry) :
    TaskMessage :=
  envelope.message (if entry.status = "succeeded" then .taskSucceeded else .taskFailed)
    (some entry.lastSequenceNumber)
    (.ofList [("detail", .str "replayed terminal result"),
      ("terminal_result_digest", .ofOption entry.terminalResultDigest)])

def activeAnswers (envelope : ConnectorTaskEnvelope) (entry : LocalTaskJournalEntry) :
    List TaskMessage :=
  let sequence := if entry.lastSequenceNumber = 0 then 1 else entry.lastSequenceNumber
  [envelope.message .taskAccepted (some sequence)
      (.ofList [("detail", .str "resumed without duplicate execution"),
        ("process_active", .bool (node.activeTasks.lookup envelope.taskId).isSome),
        ("journal_status", .str entry.status)]),
    envelope.message
      (if envelope.action = "authenticate" then .taskWaitingForUser else .taskProgress)
      (some (max entry.lastSequenceNumber 1 + 1))
      (.ofList [("detail", .str "reconciled active journal entry; Cursor not relaunched")])]

-- What the connection does for an offer that is let through.
def offered (envelope : ConnectorTaskEnvelope) (now : Time) : JoyMeshNode :=
  match node.journal.get envelope.pair with
  | some entry =>
      if entry.terminalAt ≠ none then
        { node with handler := some (.answering [terminalAnswer envelope entry] none) }
      else if entry.startedAt ≠ none then
        { node with handler := some (.answering (node.activeAnswers envelope entry) none) }
      else
        { node with
          handler := some (.answering [envelope.message .taskAccepted (some 1)] (some envelope)) }
  | none =>
      { node with
        journal := node.journal.accept envelope.pair envelope.connectorId
          envelope.connectorRevision now
        handler := some (.answering [envelope.message .taskAccepted (some 1)] (some envelope)) }

def rejected (envelope : ConnectorTaskEnvelope) : JoyMeshNode :=
  { node with
    handler := some (.answering
      [envelope.message .taskRejected none (.ofList [("reason", .str "node revoked")])] none) }

-- The queue of answers is empty.
def handled (accepted : Option ConnectorTaskEnvelope) : JoyMeshNode :=
  match accepted with
  | none => { node with handler := none }
  | some envelope =>
      { node with
        handler := none
        activeTasks := node.activeTasks.insert envelope.taskId i }.setExecution i
          { envelope := envelope }

def stopped : JoyMeshNode :=
  node.activeTasks.values.foldl (fun node i => node.interruptedAt i) node

-- A new process reads the journal of the old one.
def restarted : JoyMeshNode :=
  { journal := node.journal, controlPlanePublicKey := setup.publicKey }

def step : Label → Option JoyMeshNode
  | .offer envelope now =>
      match node.handler with
      | some _ => none
      | none =>
          if node.revoked then some (node.rejected envelope)
          else if node.admits setup envelope now then some (node.offered envelope now)
          else some node
  | .answer =>
      match node.handler with
      | some (.answering (_ :: queue) accepted) =>
          some { node with handler := some (.answering queue accepted) }
      | _ => none
  | .answered i =>
      match node.handler, node.executions i with
      | some (.answering [] accepted), none => some (node.handled i accepted)
      | _, _ => none
  | .taskCancel taskId =>
      match node.handler with
      | some _ => none
      | none => some { node with handler := some (.cancelling taskId) }
  | .cancelHandle =>
      match node.handler with
      | some (.cancelling taskId) =>
          let node := { node with handler := none }
          match node.activeTasks.lookup taskId with
          | none => some node
          | some i => some (node.interruptedAt i)
      | _ => none
  | .session publicKey =>
      match node.handler with
      | some _ => none
      | none =>
          some { node with
            controlPlanePublicKey :=
              if publicKey = "" then node.controlPlanePublicKey else publicKey }
  | .nodeRevoked =>
      match node.handler with
      | some _ => none
      | none => some { node with revoked := true }.stopped
  | .disconnect => some { node with handler := none }
  | .start i now =>
      match node.executions i with
      | none => none
      | some execution =>
          if execution.place = .spawned then some (node.started setup i execution now) else none
  | .write i =>
      match node.executions i with
      | none => none
      | some execution =>
          match execution.place with
          | .sending stage message false =>
              some (node.setExecution i { execution with place := .sending stage message true })
          | _ => none
  | .proceed i now =>
      match node.executions i with
      | none => none
      | some execution =>
          match execution.place with
          | .sending stage _ true => some (node.proceeded setup i execution now stage)
          | .stopping =>
              some (node.emitEvent i execution .cancelled "task.cancelled"
                (.ofList [("action", .str execution.envelope.action)]))
          | _ => none
  | .act i done =>
      match node.executions i with
      | none => none
      | some execution =>
          match execution.place, ConnectorAction.ofValue execution.envelope.action with
          | .acting, some action => node.acted i execution action done
          | _, _ => none
  | .broken i reason =>
      match node.executions i with
      | none => none
      | some execution =>
          match execution.place with
          | .sending stage _ _ => some (node.raisedAt i execution reason stage)
          | .stopping => some (node.finished i execution)
          | _ => none
  | .restart => some (node.restarted setup)

end JoyMeshNode

end JoyMesh.Node
