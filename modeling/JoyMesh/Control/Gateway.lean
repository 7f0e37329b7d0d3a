import JoyMesh.Control.Service
import JoyMesh.Lifecycle.Ingestor

namespace JoyMesh.Control

open JoyMesh.Library
open JoyMesh.Lifecycle (ProtocolMessage text)

structure NodeSession where
  sessionId : String
  nodeId : String
  organisationId : String
  connectedAt : Time
  lastSeenAt : Time
  runtimeVersion : String
  remoteAddress : Option String := none
  status : String := "online"
  challengeNonce : Option String := none
deriving DecidableEq

-- A websocket is told from the others by its number.
structure BoundNodeConnection where
  session : NodeSession
  websocket : Nat
  nodePublicKey : String
  organisationId : String
deriving DecidableEq

-- What authenticate is called with.
structure Attempt where
  nodeId : String
  organisationId : String
  publicKey : String
  runtimeVersion : String
  remoteAddress : Option String
deriving DecidableEq

-- The successive readings of utc_now once the answer has come.
structure Readings where
  checked : Time
  asked : Time
  consumed : Time
  connected : Time
  seen : Time
deriving DecidableEq

def Readings.Follow (readings : Readings) (clock : Time) : Prop :=
  clock ≤ readings.checked ∧ readings.checked ≤ readings.asked ∧
    readings.asked ≤ readings.consumed ∧ readings.consumed ≤ readings.connected ∧
    readings.connected ≤ readings.seen

instance (readings : Readings) (clock : Time) : Decidable (readings.Follow clock) :=
  inferInstanceAs (Decidable (_ ∧ _))

-- The first message of a websocket, with the challenge that is drawn for it.
structure Greeting where
  websocket : Nat
  message : ProtocolMessage
  remoteAddress : Option String := none
  challenge : String
  now : Time
deriving DecidableEq

-- The second message, with the id that is drawn for its session.
structure Reply where
  websocket : Nat
  message : ProtocolMessage
  readings : Readings
  sessionId : String
deriving DecidableEq

def Reply.challenge (reply : Reply) : String := text reply.message.payload "challenge" ""

def Reply.signature (reply : Reply) : String := text reply.message.payload "signature" ""

def sessionOf (attempt : Attempt) (reply : Reply) (challenge : String) : NodeSession where
  sessionId := reply.sessionId
  nodeId := attempt.nodeId
  organisationId := attempt.organisationId
  connectedAt := reply.readings.connected
  lastSeenAt := reply.readings.seen
  runtimeVersion := attempt.runtimeVersion
  remoteAddress := attempt.remoteAddress
  challengeNonce := some challenge

structure NodeGateway where
  connections : Table String BoundNodeConnection := ∅
  sessions : Table String NodeSession := ∅
  challenges : Table String (String × Time) := ∅
  challengeNonces : NonceStore := ∅

-- The check of a text against an Ed25519 signature with a public key, which raises.
abbrev VerifyBytes := String → String → String → Except Raised Unit

namespace NodeGateway

variable (g : NodeGateway)

def onlineNodeIds : List String :=
  (g.connections.entries.filter fun entry => entry.2.session.status = "online").map Sigma.fst

-- A challenge lasts a minute, and takes the place of the one that the node had.
def issue (nodeId challenge : String) (now : Time) : NodeGateway :=
  { g with challenges := g.challenges.insert nodeId (challenge, now + 60000000) }

abbrev spend (challenges : Table String (String × Time)) (nonces : NonceStore) : NodeGateway :=
  { g with challenges := challenges, challengeNonces := nonces }

def bind (attempt : Attempt) (reply : Reply) (challenge : String) : NodeGateway :=
  let session := sessionOf attempt reply challenge
  { g with
    sessions := g.sessions.insert session.sessionId session
    connections := g.connections.insert attempt.nodeId {
      session := session
      websocket := reply.websocket
      nodePublicKey := attempt.publicKey
      organisationId := attempt.organisationId } }

-- The rest of authenticate: the answer is held against the challenge that the node has
-- by now, which is gone then.
def establish (verify : VerifyBytes) (attempt : Attempt) (reply : Reply) :
    Except Raised NodeSession × NodeGateway :=
  if reply.message.type ≠ .authenticate then
    (.error (permissionError "expected node.authenticate"), g)
  else if reply.message.nodeId ≠ attempt.nodeId then
    (.error (permissionError "node identity mismatch"), g)
  else
    let challenges := g.challenges.erase attempt.nodeId
    match g.challenges.lookup attempt.nodeId with
    | none =>
        (.error (permissionError "challenge expired"), g.spend challenges g.challengeNonces)
    | some (expected, expiresAt) =>
        if expiresAt ≤ reply.readings.checked then
          (.error (permissionError "challenge expired"), g.spend challenges g.challengeNonces)
        else if reply.challenge ≠ expected then
          (.error (permissionError "challenge mismatch"), g.spend challenges g.challengeNonces)
        else
          match g.challengeNonces.consume reply.readings.consumed expected
            (reply.readings.asked + 300000000) with
          | (.error error, nonces) => (.error error, g.spend challenges nonces)
          | (.ok (), nonces) =>
              match verify expected reply.signature attempt.publicKey with
              | .error error => (.error error, g.spend challenges nonces)
              | .ok () => (.ok (sessionOf attempt reply expected),
                  (g.spend challenges nonces).bind attempt reply expected)

def disconnect (nodeId : String) (websocket : Option Nat) (now : Time) : NodeGateway :=
  match g.connections.lookup nodeId with
  | none => g
  | some current =>
      if websocket.any (· ≠ current.websocket) then g
      else
        let session := { current.session with status := "offline", lastSeenAt := now }
        { g with
          sessions := g.sessions.insert session.sessionId session
          connections := g.connections.erase nodeId }

end NodeGateway

-- A call of node_gateway: it waits for the answer to its challenge, it reads the
-- messages of its node, or it has ended.
inductive Handler where
  | greeted (attempt : Attempt)
  | bound (nodeId : String)
  | ended
deriving DecidableEq

def Handler.serves (nodeId : String) : Handler → Bool
  | greeted attempt => attempt.nodeId = nodeId
  | bound other => other = nodeId
  | ended => false

-- The registrations, the gateway, the handlers by their websocket, and the revocations
-- that wait with the websocket that they found.
structure Gate where
  clock : Time := 0
  nodes : Table String NodeRegistration := ∅
  gateway : NodeGateway := {}
  handlers : Table Nat Handler := ∅
  revocations : List (String × Nat) := []

-- A step of a handler names the state that its handler is in.
inductive GateLabel where
  | register (node : NodeRegistration)
  | hello (greeting : Greeting)
  | answer (attempt : Attempt) (reply : Reply)
  | closed (websocket : Nat) (nodeId : String) (now : Time)
  | revoke (nodeId : String) (node : NodeRegistration) (now : Time)
  | revoked (nodeId : String) (websocket : Nat) (now : Time)
deriving DecidableEq

namespace Gate

variable (s : Gate)

def greet (greeting : Greeting) (node : NodeRegistration) : Gate :=
  { s with
    clock := greeting.now
    gateway := s.gateway.issue greeting.message.nodeId greeting.challenge greeting.now
    handlers := s.handlers.insert greeting.websocket (.greeted {
      nodeId := greeting.message.nodeId
      organisationId := node.organisationId
      publicKey := node.publicKey
      runtimeVersion := text greeting.message.payload "runtime_version" node.version
      remoteAddress := greeting.remoteAddress }) }

def turnAway (websocket : Nat) (now : Time) : Gate :=
  { s with clock := now, handlers := s.handlers.insert websocket .ended }

-- The first message, up to the sending of the challenge.
def hello (greeting : Greeting) : Gate :=
  if greeting.message.type ≠ .hello then s.turnAway greeting.websocket greeting.now
  else
    match s.nodes.lookup greeting.message.nodeId with
    | none => s.turnAway greeting.websocket greeting.now
    | some node =>
        if node.revokedAt.isSome then s.turnAway greeting.websocket greeting.now
        else s.greet greeting node

-- What ends the handler of a node, whatever the reason.
def leave (websocket : Nat) (nodeId : String) (now : Time) : Gate :=
  { s with
    clock := now
    gateway := s.gateway.disconnect nodeId (some websocket) now
    handlers := s.handlers.insert websocket .ended }

def serve (websocket : Nat) (nodeId : String) (gateway : NodeGateway) (now : Time) : Gate :=
  { s with
    clock := now
    gateway := gateway
    handlers := s.handlers.insert websocket (.bound nodeId) }

def answer (verify : VerifyBytes) (attempt : Attempt) (reply : Reply) : Gate :=
  match s.gateway.establish verify attempt reply with
  | (.error _, gateway) =>
      { s with gateway := gateway }.leave reply.websocket attempt.nodeId reply.readings.seen
  | (.ok _, gateway) => s.serve reply.websocket attempt.nodeId gateway reply.readings.seen

-- Where the node has a connection it is told first, and disconnected when that is done.
def revoke (nodeId : String) (node : NodeRegistration) (now : Time) : Gate :=
  { s with
    clock := now
    nodes := s.nodes.insert nodeId { node with revokedAt := some now }
    revocations := (s.gateway.connections.lookup nodeId).toList.map
      (fun connection => (nodeId, connection.websocket)) ++ s.revocations }

def step (verify : VerifyBytes) (s : Gate) : GateLabel → Option Gate
  | .register node => some { s with nodes := s.nodes.insert node.id node }
  | .hello greeting =>
      if s.clock ≤ greeting.now ∧ s.handlers.lookup greeting.websocket = none then
        some (s.hello greeting)
      else none
  | .answer attempt reply =>
      if reply.readings.Follow s.clock ∧
          s.handlers.lookup reply.websocket = some (.greeted attempt) then
        some (s.answer verify attempt reply)
      else none
  | .closed websocket nodeId now =>
      if s.clock ≤ now ∧ (s.handlers.lookup websocket).any (·.serves nodeId) then
        some (s.leave websocket nodeId now)
      else none
  | .revoke nodeId node now =>
      if s.clock ≤ now ∧ s.nodes.lookup nodeId = some node then some (s.revoke nodeId node now)
      else none
  | .revoked nodeId websocket now =>
      if s.clock ≤ now ∧ (nodeId, websocket) ∈ s.revocations then
        some { s with
          clock := now
          gateway := s.gateway.disconnect nodeId (some websocket) now
          revocations := s.revocations.erase (nodeId, websocket) }
      else none

end Gate

end JoyMesh.Control
