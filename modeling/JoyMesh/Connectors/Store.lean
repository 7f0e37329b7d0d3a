import Mathlib
import JoyMesh.Library.Newest
import JoyMesh.Library.Run
import JoyMesh.Connectors.Readiness

namespace JoyMesh.Connectors

open JoyMesh.Library

structure NodeConnectorDiscoveryRow where
  nodeId : String
  connectorId : String
  connectorRevision : String
  executable : Option String
  version : Option String
  discoveredAt : Time

-- Rows are told apart by their number in the order of insertion.
structure NodeConnectorInstallationRow where
  number : Nat
  nodeId : String
  connectorId : String
  connectorRevision : String
  executable : String
  version : Option String
  enabledForRouting : Bool
  installedAt : Time

structure NodeConnectorAuthenticationRow where
  nodeId : String
  connectorId : String
  status : String
  verifiedAt : Option Time

structure NodeConnectorCertificationRow where
  nodeId : String
  connectorId : String
  certifiedAt : Time
  expiresAt : Option Time

structure ConnectorTaskRow where
  id : String
  nodeId : String
  connectorId : String
  action : String
  status : ConnectorTaskStatus
  startedAt : Option Time

namespace ConnectorEvidence

variable (evidence : ConnectorEvidence)

def discoveryRow : NodeConnectorDiscoveryRow where
  nodeId := evidence.nodeId
  connectorId := evidence.connectorId
  connectorRevision := evidence.connectorRevision
  executable := evidence.executablePath
  version := evidence.harnessVersion
  discoveredAt := evidence.createdAt

def installationRow (number : Nat) : NodeConnectorInstallationRow where
  number := number
  nodeId := evidence.nodeId
  connectorId := evidence.connectorId
  connectorRevision := evidence.connectorRevision
  executable := evidence.executablePath.getD ""
  version := evidence.harnessVersion
  enabledForRouting := false
  installedAt := evidence.createdAt

def authenticationRow : NodeConnectorAuthenticationRow where
  nodeId := evidence.nodeId
  connectorId := evidence.connectorId
  status := evidence.status
  verifiedAt := if evidence.status = "authenticated" then some evidence.createdAt else none

-- The row does not say whether the certification passed.
def certificationRow : NodeConnectorCertificationRow where
  nodeId := evidence.nodeId
  connectorId := evidence.connectorId
  certifiedAt := evidence.createdAt
  expiresAt := evidence.expiresAt

end ConnectorEvidence

-- The tables of ConnectorLifecycleStore, each in the order of insertion.
structure LifecycleStore where
  evidence : List ConnectorEvidence
  discoveries : List NodeConnectorDiscoveryRow
  installations : List NodeConnectorInstallationRow
  authentications : List NodeConnectorAuthenticationRow
  certifications : List NodeConnectorCertificationRow
  tasks : List ConnectorTaskRow
  readiness : Table (String × String) ConnectorReadiness

-- NULLS LAST in a descending order: a missing time is before every time.
def nullsLast (time : Option Time) : WithBot Time := time

theorem isSome_of_nullsLast_le {first : Time} {second : Option Time}
    (h : nullsLast (some first) ≤ nullsLast second) : second.isSome = true := by
  cases second with
  | none => exact absurd h (WithBot.not_coe_le_bot first)
  | some => rfl

-- For each kind the first entry of a listing.
def evidenceByType (rows : List ConnectorEvidence) : Table ConnectorEvidenceType Mapping :=
  rows.foldl (fun entries row =>
    if (entries.lookup row.evidenceType).isSome then entries
    else entries.insert row.evidenceType row.entry) ∅

theorem lookup_evidenceByType {rows : List ConnectorEvidence} {kind : ConnectorEvidenceType} :
    (evidenceByType rows).lookup kind =
      (rows.find? fun row => row.evidenceType = kind).map (·.entry) := by
  -- an entry that is there stays; a missing one is the first of its kind in the rest
  suffices h : ∀ entries : Table ConnectorEvidenceType Mapping,
      (rows.foldl (fun entries row =>
        if (entries.lookup row.evidenceType).isSome then entries
        else entries.insert row.evidenceType row.entry) entries).lookup kind =
      (entries.lookup kind).or ((rows.find? fun row => row.evidenceType = kind).map (·.entry)) by
    simpa [evidenceByType] using h ∅
  induction rows with
  | nil => simp
  | cons row rows ih =>
      intro entries
      rw [List.foldl_cons, ih, List.find?_cons]
      by_cases hk : row.evidenceType = kind
      · subst hk
        cases he : entries.lookup row.evidenceType <;> simp [he]
      · have hne : kind ≠ row.evidenceType := Ne.symm hk
        cases he : (entries.lookup row.evidenceType).isSome <;>
          simp [hk, AList.lookup_insert_ne hne]

namespace LifecycleStore

-- The store before the first call; tasks come from elsewhere.
def initial (tasks : List ConnectorTaskRow) : LifecycleStore where
  evidence := []
  discoveries := []
  installations := []
  authentications := []
  certifications := []
  tasks := tasks
  readiness := ∅

variable (s : LifecycleStore) (nodeId connectorId : String)

def evidenceRows : List ConnectorEvidence :=
  s.evidence.filter fun row => row.nodeId = nodeId ∧ row.connectorId = connectorId

def latestDiscovery : Option NodeConnectorDiscoveryRow :=
  newest (·.discoveredAt)
    (s.discoveries.filter fun row => row.nodeId = nodeId ∧ row.connectorId = connectorId)

def latestInstallation : Option NodeConnectorInstallationRow :=
  newest (·.installedAt)
    (s.installations.filter fun row => row.nodeId = nodeId ∧ row.connectorId = connectorId)

def latestAuthentication : Option NodeConnectorAuthenticationRow :=
  newest (fun row => nullsLast row.verifiedAt)
    (s.authentications.filter fun row => row.nodeId = nodeId ∧ row.connectorId = connectorId)

def latestCertification : Option NodeConnectorCertificationRow :=
  newest (·.certifiedAt)
    (s.certifications.filter fun row => row.nodeId = nodeId ∧ row.connectorId = connectorId)

def activeTask : Option ConnectorTaskRow :=
  newest (fun row => nullsLast row.startedAt)
    (s.tasks.filter fun row =>
      row.nodeId = nodeId ∧ row.connectorId = connectorId ∧ row.status.active = true)

def loadSnapshot (platform : String) : NodeConnectorSnapshot :=
  let discovery := s.latestDiscovery nodeId connectorId
  let installation := s.latestInstallation nodeId connectorId
  let auth := s.latestAuthentication nodeId connectorId
  let certification := s.latestCertification nodeId connectorId
  let evidenceRows := newestFirst (·.createdAt) (s.evidenceRows nodeId connectorId)
  let active := s.activeTask nodeId connectorId
  { discoveryExecutable := discovery.bind (·.executable)
    discoveryVersion := discovery.bind (·.version)
    discoveryRevision := discovery.map (·.connectorRevision)
    installationExecutable := installation.map (·.executable)
    installationVersion := installation.bind (·.version)
    installationRevision := installation.map (·.connectorRevision)
    installationRoutingEnabled := installation.any (·.enabledForRouting)
    authStatus := auth.map (·.status)
    authVerifiedAt := auth.bind (·.verifiedAt)
    certificationValid := certification.isSome
    certificationExpiresAt := certification.bind (·.expiresAt)
    evidenceByType := evidenceByType evidenceRows
    activeTaskStatus := active.map (·.status)
    activeTaskId := active.map (·.id)
    activeTaskAction := active.map (·.action)
    latestEvidenceId := evidenceRows.head?.map (·.evidenceId)
    platform := platform
    nodeOnline := true
    nodeRevoked := false }

def applyEvidenceSideEffects (evidence : ConnectorEvidence) : LifecycleStore :=
  match evidence.evidenceType with
  | .discovery => { s with discoveries := s.discoveries ++ [evidence.discoveryRow] }
  | .installation =>
      { s with installations := s.installations ++
          [evidence.installationRow s.installations.length] }
  | .authentication => { s with authentications := s.authentications ++ [evidence.authenticationRow] }
  | .certification => { s with certifications := s.certifications ++ [evidence.certificationRow] }
  | _ => s

def persistReadiness (readiness : ConnectorReadiness) : LifecycleStore :=
  { s with readiness := s.readiness.insert (readiness.nodeId, readiness.connectorId) readiness }

def recompute (setting : Setting) (now : Time) : Except StoreFailure ConnectorReadiness × LifecycleStore :=
  match deriveFromSnapshot setting now nodeId connectorId
      (s.loadSnapshot nodeId connectorId setting.platform) with
  | .error failure => (.error failure, s)
  | .ok readiness => (.ok readiness, s.persistReadiness readiness)

-- The row and its side effects stay also where the readiness cannot be derived.
def recordEvidence (setting : Setting) (now : Time) (evidence : ConnectorEvidence) :
    Except StoreFailure ConnectorEvidence × LifecycleStore :=
  if s.evidence.any (·.evidenceId == evidence.evidenceId) then
    (.error (.duplicateEvidence evidence.evidenceId), s)
  else
    let recorded := { s with evidence := s.evidence ++ [evidence] }
    let applied := recorded.applyEvidenceSideEffects evidence
    (applied.recompute evidence.nodeId evidence.connectorId setting now).map
      (·.map fun _ => evidence) id

def setRoutingEnabled (setting : Setting) (now : Time) (enabled : Bool) :
    Except StoreFailure Unit × LifecycleStore :=
  match s.latestInstallation nodeId connectorId with
  | none =>
      match setting.catalogue connectorId with
      | none => (.error (.unknownConnector connectorId), s)
      | some definition =>
          (.ok (), { s with installations := s.installations ++
            [{ number := s.installations.length
               nodeId := nodeId
               connectorId := connectorId
               connectorRevision := definition.revision
               executable := ""
               version := none
               enabledForRouting := enabled
               installedAt := now }] })
  | some installation =>
      (.ok (), { s with installations := s.installations.map fun row =>
        if row.number = installation.number then { row with enabledForRouting := enabled } else row })

end LifecycleStore

inductive StoreCall where
  | recordEvidence (evidence : ConnectorEvidence)
  | setRoutingEnabled (nodeId connectorId : String) (enabled : Bool)
  | recompute (nodeId connectorId : String)

inductive StoreAnswer where
  | evidence (evidence : ConnectorEvidence)
  | readiness (readiness : ConnectorReadiness)
  | done

-- A call with the reading of the clock that it takes.
structure TimedCall where
  now : Time
  call : StoreCall

namespace LifecycleStore

def respond (setting : Setting) (s : LifecycleStore) (timed : TimedCall) :
    Except StoreFailure StoreAnswer × LifecycleStore :=
  match timed.call with
  | .recordEvidence evidence => (s.recordEvidence setting timed.now evidence).map (·.map .evidence) id
  | .setRoutingEnabled nodeId connectorId enabled =>
      (s.setRoutingEnabled nodeId connectorId setting timed.now enabled).map (·.map fun _ => .done) id
  | .recompute nodeId connectorId =>
      (s.recompute nodeId connectorId setting timed.now).map (·.map .readiness) id

-- The store after a sequence of calls.
def after (setting : Setting) (tasks : List ConnectorTaskRow) (calls : List TimedCall) :
    LifecycleStore :=
  play (respond setting) (initial tasks) calls

end LifecycleStore

end JoyMesh.Connectors
