import JoyMesh.Control.Nonces

namespace JoyMesh.Control

open JoyMesh.Library

structure PairingSession where
  id : String
  organisationId : String
  workspaceId : String
  userCode : String
  deviceCodeHash : String
  codeChallenge : String
  expiresAt : Time
  approvedByUserId : Option String := none
deriving DecidableEq

structure NodeRegistration where
  id : String
  organisationId : String
  workspaceId : String
  name : String
  publicKey : String
  keyId : String
  platform : String
  version : String
  createdAt : Time
  revokedAt : Option Time := none
deriving DecidableEq

structure AuditEvent where
  organisationId : String
  actorId : String
  action : String
  targetType : String
  targetId : String
  outcome : String := "success"
  metadata : List (String × String) := []
deriving DecidableEq

-- The digest of a device code, and the Ed25519 signature under a private key, which
-- raises for a key that is none.
structure Setup where
  sha256 : String → String
  sign : RemoteTaskEnvelope → String → Except Raised String

-- The registrations are listed in the order in which the dict was given them.
structure ControlPlane where
  clock : Time := 0
  issued : List String := []
  pairings : Table String PairingSession := ∅
  nodes : List NodeRegistration := []
  grants : Table String WorkspaceGrant := ∅
  tasks : Table String RemoteTaskEnvelope := ∅
  audit : List AuditEvent := []
  nonces : NonceStore := ∅

-- The calls, each with the tokens that are generated for it.
inductive Call where
  | beginPairing (organisationId workspaceId codeChallenge : String)
      (pairingId userCode deviceCode : String)
  | approvePairing (pairingId userId : String)
  | cancelPairing (pairingId : String)
  | registerNode (pairingId deviceCode name publicKey keyId platform version : String)
      (nodeId : String)
  | grantWorkspace (grant : WorkspaceGrant) (actorId : String)
  | createRemoteTask (envelope : RemoteTaskEnvelope) (signingPrivateKey : String)
  | revokeNode (nodeId actorId : String)

inductive Answer where
  | pairing (pairing : PairingSession)
  | done
  | node (node : NodeRegistration)
  | grant (grant : WorkspaceGrant)
  | task (envelope : RemoteTaskEnvelope)
deriving DecidableEq

-- The id that uuid4 gives to what a call makes.
def Call.made : Call → Option String
  | .beginPairing _ _ _ pairingId _ _ => some pairingId
  | .registerNode _ _ _ _ _ _ _ nodeId => some nodeId
  | _ => none

namespace ControlPlane

variable (setup : Setup) (s : ControlPlane)

def node (nodeId : String) : Option NodeRegistration := s.nodes.find? fun node => node.id = nodeId

def record (organisationId : String) (actorId : Option String)
    (action targetType targetId : String) (metadata : List (String × String) := []) :
    ControlPlane :=
  { s with
    audit := s.audit ++ [{
      organisationId := organisationId
      actorId := Connectors.orText actorId (some "system") |>.getD "system"
      action := action
      targetType := targetType
      targetId := targetId
      metadata := metadata }] }

-- A session lasts ten minutes.
def beginPairing (organisationId workspaceId codeChallenge pairingId userCode deviceCode : String) :
    PairingSession × ControlPlane :=
  let pairing : PairingSession := {
    id := pairingId
    organisationId := organisationId
    workspaceId := workspaceId
    userCode := userCode
    deviceCodeHash := setup.sha256 deviceCode
    codeChallenge := codeChallenge
    expiresAt := s.clock + 600000000 }
  (pairing, { s with pairings := s.pairings.insert pairingId pairing })

def inWorkspace (pairing : PairingSession) (node : NodeRegistration) : Bool :=
  node.workspaceId = pairing.workspaceId && node.organisationId = pairing.organisationId
    && node.revokedAt.isNone

-- The node that stands for the pairing: the first one of the workspace, and where the
-- name of the user is not empty the last one.
def pairedNode (pairing : PairingSession) : Option NodeRegistration :=
  let first := s.nodes.find? fun node =>
    inWorkspace pairing node && pairing.approvedByUserId.isSome
  if Connectors.nonempty pairing.approvedByUserId then
    (s.nodes.filter (inWorkspace pairing)).getLast?
  else first

inductive PairingState where
  | pending
  | expired
  | approvedWaitingForNode
  | paired
deriving DecidableEq

structure PairingStatus where
  pairingId : String
  userCode : String
  status : PairingState
  expiresAt : Time
  approved : Bool
  node : Option NodeRegistration
deriving DecidableEq

def pairingStatus (pairingId : String) : Except Raised PairingStatus :=
  match s.pairings.lookup pairingId with
  | none => .error (keyError "pairing session not found")
  | some pairing =>
      let node := s.pairedNode pairing
      let status : PairingState :=
        if pairing.expiresAt ≤ s.clock ∧ node = none then .expired
        else if Connectors.nonempty pairing.approvedByUserId ∧ node = none then
          .approvedWaitingForNode
        else if node ≠ none then .paired
        else .pending
      .ok {
        pairingId := pairing.id
        userCode := pairing.userCode
        status := status
        expiresAt := pairing.expiresAt
        approved := pairing.approvedByUserId.isSome
        node := node }

def cancelPairing (pairingId : String) : Except Raised Unit × ControlPlane :=
  match s.pairings.lookup pairingId with
  | none => (.error (keyError "pairing session not found"), s)
  | some pairing =>
      (.ok (),
        { s with pairings := s.pairings.insert pairingId { pairing with expiresAt := s.clock } })

def approvePairing (pairingId userId : String) : Except Raised PairingSession × ControlPlane :=
  match s.pairings.lookup pairingId with
  | none => (.error (keyError pairingId), s)
  | some pairing =>
      if pairing.expiresAt ≤ s.clock then (.error (permissionError "pairing session expired"), s)
      else
        let updated := { pairing with approvedByUserId := some userId }
        (.ok updated, { s with pairings := s.pairings.insert pairingId updated })

def registerNode (pairingId deviceCode name publicKey keyId platform version nodeId : String) :
    Except Raised NodeRegistration × ControlPlane :=
  match s.pairings.lookup pairingId with
  | none => (.error (keyError pairingId), s)
  | some pairing =>
      if pairing.expiresAt ≤ s.clock ∨ pairing.approvedByUserId = none then
        (.error (permissionError "pairing is not approved"), s)
      else if setup.sha256 deviceCode ≠ pairing.deviceCodeHash then
        (.error (permissionError "invalid device code"), s)
      else
        let node : NodeRegistration := {
          id := nodeId
          organisationId := pairing.organisationId
          workspaceId := pairing.workspaceId
          name := name
          publicKey := publicKey
          keyId := keyId
          platform := platform
          version := version
          createdAt := s.clock }
        (.ok node, { s with nodes := s.nodes ++ [node] }.record node.organisationId
          pairing.approvedByUserId "node.register" "node" node.id)

-- The grant is stored before its node is looked up.
def grantWorkspace (grant : WorkspaceGrant) (actorId : String) :
    Except Raised WorkspaceGrant × ControlPlane :=
  let s := { s with grants := s.grants.insert grant.id grant }
  match s.node grant.nodeId with
  | none => (.error (keyError grant.nodeId), s)
  | some node =>
      (.ok grant,
        s.record node.organisationId (some actorId) "workspace.grant" "workspace_grant" grant.id)

-- What is checked before the nonce is taken.
def taskRefused (envelope : RemoteTaskEnvelope) : Option Raised :=
  match s.node envelope.nodeId with
  | none => some (permissionError "node is unavailable or revoked")
  | some node =>
      if node.revokedAt ≠ none then some (permissionError "node is unavailable or revoked")
      else if node.organisationId ≠ envelope.organisationId then
        some (permissionError "cross-organisation task rejected")
      else if s.grants.select (fun grant => grant.nodeId = node.id
          && grant.workspaceId = envelope.workspaceId && grant.revokedAt.isNone) = [] then
        some (permissionError "workspace has not been granted to this node")
      else none

def createRemoteTask (envelope : RemoteTaskEnvelope) (signingPrivateKey : String) :
    Except Raised RemoteTaskEnvelope × ControlPlane :=
  match s.taskRefused envelope with
  | some error => (.error error, s)
  | none =>
      match s.nonces.consume s.clock envelope.nonce envelope.expiresAt with
      | (.error error, nonces) => (.error error, { s with nonces := nonces })
      | (.ok (), nonces) =>
          let s := { s with nonces := nonces }
          match setup.sign envelope signingPrivateKey with
          | .error error => (.error error, s)
          | .ok signature =>
              let signed := { envelope with signature := signature }
              (.ok signed, { s with tasks := s.tasks.insert signed.id signed }.record
                signed.organisationId (some signed.userId) "remote_task.create" "remote_task"
                signed.id [("harness_id", signed.harnessId)])

def revokeNode (nodeId actorId : String) : Except Raised NodeRegistration × ControlPlane :=
  match s.node nodeId with
  | none => (.error (keyError nodeId), s)
  | some node =>
      let updated := { node with revokedAt := some s.clock }
      let nodes := s.nodes.map fun (other : NodeRegistration) =>
        if other.id = nodeId then updated else other
      (.ok updated, { s with nodes := nodes }.record node.organisationId (some actorId)
        "node.revoke" "node" nodeId)

def respond : Call → Except Raised Answer × ControlPlane
  | .beginPairing organisationId workspaceId codeChallenge pairingId userCode deviceCode =>
      let (pairing, s) := s.beginPairing setup organisationId workspaceId codeChallenge pairingId
        userCode deviceCode
      (.ok (.pairing pairing), s)
  | .approvePairing pairingId userId =>
      let (answer, s) := s.approvePairing pairingId userId
      (answer.map .pairing, s)
  | .cancelPairing pairingId =>
      let (answer, s) := s.cancelPairing pairingId
      (answer.map fun _ => .done, s)
  | .registerNode pairingId deviceCode name publicKey keyId platform version nodeId =>
      let (answer, s) := s.registerNode setup pairingId deviceCode name publicKey keyId platform
        version nodeId
      (answer.map .node, s)
  | .grantWorkspace grant actorId =>
      let (answer, s) := s.grantWorkspace grant actorId
      (answer.map .grant, s)
  | .createRemoteTask envelope signingPrivateKey =>
      let (answer, s) := s.createRemoteTask setup envelope signingPrivateKey
      (answer.map .task, s)
  | .revokeNode nodeId actorId =>
      let (answer, s) := s.revokeNode nodeId actorId
      (answer.map .node, s)

-- Time passes before a call, and no id that uuid4 has given is given again.
structure Timed where
  elapsed : Nat
  call : Call

def passed (elapsed : Nat) : ControlPlane := { s with clock := s.clock + elapsed }

def ready (timed : Timed) : ControlPlane :=
  { s.passed timed.elapsed with issued := timed.call.made.toList ++ s.issued }

def step (timed : Timed) : Option ControlPlane :=
  if ∃ id ∈ timed.call.made, id ∈ s.issued then none
  else some ((s.ready timed).respond setup timed.call).2

variable {setup s} {call : Call}

-- No call sets the clock, and none takes an id but the one it is given.
theorem respond_clock : (s.respond setup call).2.clock = s.clock := by
  cases call <;> dsimp only [respond, beginPairing, approvePairing, cancelPairing, registerNode,
    grantWorkspace, createRemoteTask, revokeNode]
  all_goals repeat' split
  all_goals rfl

theorem respond_issued : (s.respond setup call).2.issued = s.issued := by
  cases call <;> dsimp only [respond, beginPairing, approvePairing, cancelPairing, registerNode,
    grantWorkspace, createRemoteTask, revokeNode]
  all_goals repeat' split
  all_goals rfl

theorem step_eq_some {t : ControlPlane} {timed : Timed} (h : s.step setup timed = some t) :
    (∀ id ∈ timed.call.made, id ∉ s.issued) ∧ t = ((s.ready timed).respond setup timed.call).2 := by
  unfold step at h
  split at h
  · cases h
  · next hfresh =>
      exact ⟨fun id hmade hissued => hfresh ⟨id, hmade, hissued⟩, (Option.some.inj h).symm⟩

end ControlPlane

end JoyMesh.Control
