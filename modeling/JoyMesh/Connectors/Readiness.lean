import JoyMesh.Library.Table
import JoyMesh.Connectors.Evidence

namespace JoyMesh.Connectors

open JoyMesh.Library

-- What the process runs with. A driver that drops the zone of a stored time
-- gives it back naive, and Python refuses to compare it with the clock.
structure Setting where
  production : Bool
  platform : String
  catalogue : String → Option ConnectorDefinition
  keepsZone : Bool

-- The errors a store call raises: KeyError of the catalogue, IntegrityError of
-- a used evidence id, TypeError of a comparison with a naive time.
inductive StoreFailure where
  | unknownConnector (connectorId : String)
  | duplicateEvidence (evidenceId : String)
  | naiveTime
deriving DecidableEq, Repr

-- An entry of the evidence holds its columns, so it is never an empty dict.
structure NodeConnectorSnapshot where
  discoveryExecutable : Option String
  discoveryVersion : Option String
  discoveryRevision : Option String
  installationExecutable : Option String
  installationVersion : Option String
  installationRevision : Option String
  installationRoutingEnabled : Bool
  authStatus : Option String
  authVerifiedAt : Option Time
  certificationValid : Bool
  certificationExpiresAt : Option Time
  evidenceByType : Table ConnectorEvidenceType Mapping
  activeTaskStatus : Option ConnectorTaskStatus
  activeTaskId : Option String
  activeTaskAction : Option String
  latestEvidenceId : Option String
  platform : String
  nodeOnline : Bool
  nodeRevoked : Bool

-- Python `or` on texts: None and the empty text give way.
def orText (first second : Option String) : Option String :=
  match first with
  | some text => if text = "" then second else some text
  | none => second

def nonempty (text : Option String) : Bool := text.any (· != "")

abbrev Verdict := NodeConnectorState × Option RecommendedConnectorAction × Option String

def productionTrustOk (evidence : Mapping) : Bool :=
  let textOf (value : Value) : String := if value.truthy then value.text else ""
  let trust := textOf (evidence.get "trust_level")
  let origin := textOf (evidence.get "execution_origin")
  if trust = EvidenceTrustLevel.mock.value ∨ trust = EvidenceTrustLevel.development.value then false
  else if origin = ConnectorExecutionOrigin.mockTest.value ∨
      origin = ConnectorExecutionOrigin.inlineDevelopment.value then false
  else
    trust == EvidenceTrustLevel.nodeAttested.value &&
      origin == ConnectorExecutionOrigin.remoteNode.value

namespace NodeConnectorSnapshot

variable (snapshot : NodeConnectorSnapshot)

def evidence (kind : ConnectorEvidenceType) : Option Mapping :=
  snapshot.evidenceByType.lookup kind

def authenticationVerified (production : Bool) : Bool :=
  if snapshot.authStatus = some "authenticated" ∧ snapshot.authVerifiedAt.isSome then
    !(production && (snapshot.evidence .authentication).any fun entry => !productionTrustOk entry)
  else
    match snapshot.evidence .authentication with
    | none => false
    | some entry =>
        if entry.get "status" ≠ .str "authenticated" then false
        else !(production && !productionTrustOk entry)

def adapterConformancePassed (production : Bool) : Bool :=
  match snapshot.evidence .adapterConformance with
  | none => false
  | some entry =>
      if entry.get "status" ≠ .str "passed" then false
      else !(production && !productionTrustOk entry)

def certificationExpired (keepsZone : Bool) (now : Time) : Except StoreFailure Bool :=
  match snapshot.certificationExpiresAt with
  | none => .ok false
  | some expiresAt => if keepsZone then .ok (decide (expiresAt ≤ now)) else .error .naiveTime

def certificationAccepted (setting : Setting) (now : Time) : Except StoreFailure Bool :=
  let cert := snapshot.evidence .certification
  let tableOk : Except StoreFailure Bool :=
    if snapshot.certificationValid then
      (snapshot.certificationExpired setting.keepsZone now).map (!·)
    else .ok false
  let evidenceOk := cert.any fun entry => entry.get "status" == .str "certified"
  tableOk.map fun tableOk =>
    if !(tableOk || evidenceOk) then false
    else if setting.production then cert.any productionTrustOk
    else true

def certificationBlockReason (production : Bool) : Option String :=
  match snapshot.evidence .certification with
  | none => none
  | some entry =>
      if production && !productionTrustOk entry then
        some ("Production routing requires node-attested remote-node evidence " ++
          "(trust=" ++ (entry.get "trust_level").text ++
          ", origin=" ++ (entry.get "execution_origin").text ++ ")")
      else none

def brokenExecutableEvidence : Option String :=
  [snapshot.evidence .failure, snapshot.evidence .version].findSome? fun item =>
    match item with
    | none => none
    | some entry =>
        if entry.get "status" ≠ .str "broken_executable" then none
        else
          let detail := entry.get "detail"
          let detail := if detail.truthy then detail else entry.get "message"
          some (if detail.truthy then detail.text else "Executable failed version or launch checks")

def staleRevision (currentRevision : String) : Bool :=
  let revisions := [snapshot.discoveryRevision, snapshot.installationRevision] ++
    snapshot.evidenceByType.values.map fun entry => (entry.get "connector_revision").asStr
  let observed := revisions.filterMap fun revision => revision.filter (· != "")
  observed.any (· != currentRevision)

def evidenceVersion (kind : ConnectorEvidenceType) : Option String :=
  match snapshot.evidence kind with
  | none => none
  | some entry =>
      let version := entry.get "harness_version"
      let version := if version.truthy then version else entry.get "version"
      if version.truthy then some version.text else none

def executable : Option String :=
  orText snapshot.installationExecutable snapshot.discoveryExecutable

-- A task of the store that is still running.
def running : Bool := snapshot.activeTaskStatus.any (·.active)

def catalogueVerdict (definition : ConnectorDefinition) : Option Verdict :=
  if definition.maturity = .blocked then
    some (.blocked, some .none,
      orText definition.blockedReason (some "Connector is blocked in the catalogue"))
  else if snapshot.platform ∉ definition.supportedPlatforms then
    some (.unsupportedPlatform, some .none,
      some ("Platform " ++ snapshot.platform ++ " is not supported"))
  else if definition.tier = .ide ∨ definition.mode = .ideOnly then
    some (.ideOnly, some .none, none)
  else if snapshot.nodeRevoked then
    some (.blocked, some .none, some "Node registration is revoked")
  else none

def taskVerdict : Option Verdict :=
  let active := snapshot.activeTaskStatus
  let action := snapshot.activeTaskAction.getD ""
  if snapshot.running ∧ "install".toList <:+: action.toList then some (.installing, none, none)
  else if active = some .waitingForUser ∨ active = some .waitingForAuthCallback then
    some (.authenticationInProgress, none, none)
  else if snapshot.running ∧ action = "authenticate" then
    some (.authenticationInProgress, none, none)
  else if snapshot.running ∧ (action = "verify_authentication" ∨ action = "verify_adapter") then
    some (.verificationInProgress, none, none)
  else if snapshot.running ∧ action = "certify" then some (.certificationInProgress, none, none)
  else if snapshot.running ∧ action = "repair" then some (.needsRepair, some .repair, none)
  else if active = some .failed ∧ action = "authenticate" then
    some (.authenticationFailed, some .retry,
      if nonempty snapshot.activeTaskId then some "Authentication task failed"
      else snapshot.activeTaskId)
  else if active = some .failed ∧ action = "certify" then
    some (.certificationFailed, some .retry, some "Certification task failed")
  else none

def executableVerdict (definition : ConnectorDefinition) : Option Verdict :=
  match snapshot.brokenExecutableEvidence with
  | some broken => some (.needsRepair, some .repair, some broken)
  | none =>
      if !nonempty snapshot.executable && !definition.installationOptions.isEmpty then
        some (.availableToInstall, some .install, none)
      else if !nonempty snapshot.executable then
        some (.notAvailable, some .none, some "Executable not discovered on this node")
      else if snapshot.staleRevision definition.revision then
        some (.verificationRequired, some .verifyAdapter,
          some "Connector revision changed; evidence must be refreshed")
      else none

def conformanceVerdict (production : Bool) (definition : ConnectorDefinition) : Option Verdict :=
  let authRequired := !definition.authenticationMethods.isEmpty
  if authRequired && !snapshot.authenticationVerified production then
    some (.authenticationRequired, some .authenticate, none)
  else if !snapshot.adapterConformancePassed production then
    some (.verificationRequired, some .verifyAdapter, none)
  else none

def beforeAuthentication (definition : ConnectorDefinition) : Option Verdict :=
  (snapshot.catalogueVerdict definition).or <| snapshot.taskVerdict.or <|
    snapshot.executableVerdict definition

def beforeCertification (production : Bool) (definition : ConnectorDefinition) : Option Verdict :=
  (snapshot.beforeAuthentication definition).or <| snapshot.conformanceVerdict production definition

def routingVerdict : Verdict :=
  if !snapshot.installationRoutingEnabled then (.routingDisabled, some .enableRouting, none)
  else if !snapshot.nodeOnline then
    (.routingDisabled, some .none, some "Node is offline; routing is ineligible")
  else (.ready, some .none, none)

def deriveState (setting : Setting) (definition : ConnectorDefinition) (now : Time) :
    Except StoreFailure Verdict :=
  match snapshot.beforeCertification setting.production definition with
  | some verdict => .ok verdict
  | none =>
      (snapshot.certificationAccepted setting now).map fun certOk =>
        if certOk then snapshot.routingVerdict
        else
          (.certificationRequired, some .certify,
            snapshot.certificationBlockReason setting.production)

end NodeConnectorSnapshot

def deriveFromSnapshot (setting : Setting) (now : Time) (nodeId connectorId : String)
    (snapshot : NodeConnectorSnapshot) : Except StoreFailure ConnectorReadiness :=
  match setting.catalogue connectorId with
  | none => .error (.unknownConnector connectorId)
  | some definition =>
      (snapshot.deriveState setting definition now).map fun (state, action, blocking) =>
        let routing := state = .ready
        let cert := (snapshot.evidence .certification).getD ∅
        let profile := (cert.get "routing_profile").asStr
        let profile := if state = .ready ∧ profile = none then some "read_only_repository" else profile
        { nodeId := nodeId
          connectorId := connectorId
          state := state
          recommendedAction := action
          blockingReason := blocking
          activeTaskId := snapshot.activeTaskId
          latestEvidenceId := snapshot.latestEvidenceId
          routingEligible := routing
          catalogueMaturity := definition.maturity.value
          installedVersion := orText snapshot.installationVersion
            (orText snapshot.discoveryVersion (snapshot.evidenceVersion .version))
          executablePath := snapshot.executable
          routingProfile := if routing then profile else none
          evidenceTrustLevel := (cert.get "trust_level").asStr.bind EvidenceTrustLevel.parse
          executionOrigin := (cert.get "execution_origin").asStr.bind ConnectorExecutionOrigin.parse
          updatedAt := now }

-- What production asks of evidence: attested by the node that ran the check.
def ConnectorEvidence.Attested (evidence : ConnectorEvidence) : Prop :=
  evidence.trustLevel = .nodeAttested ∧ evidence.executionOrigin = .remoteNode

theorem productionTrustOk_entry {evidence : ConnectorEvidence} :
    productionTrustOk evidence.entry = true ↔ evidence.Attested := by
  cases ht : evidence.trustLevel <;> cases ho : evidence.executionOrigin <;>
    simp [productionTrustOk, ConnectorEvidence.Attested, ht, ho, Value.truthy, Value.text,
      EvidenceTrustLevel.value, ConnectorExecutionOrigin.value]

-- A state in which the certification has been accepted.
def NodeConnectorState.accepted (state : NodeConnectorState) : Bool :=
  state = .ready || state = .routingDisabled

-- A verdict that is given only once the authentication counts as verified.
def Verdict.PastAuthentication (verdict : Verdict) : Prop :=
  verdict.1 = .ready ∨ verdict.1 = .routingDisabled ∨ verdict.1 = .certificationRequired ∨
    verdict.1 = .verificationRequired ∧ verdict.2.2 = none

namespace NodeConnectorSnapshot

variable {snapshot : NodeConnectorSnapshot} {production : Bool} {definition : ConnectorDefinition}
  {setting : Setting} {now : Time} {verdict : Verdict}

theorem catalogueVerdict_not_accepted (h : snapshot.catalogueVerdict definition = some verdict) :
    verdict.1.accepted = false := by
  unfold catalogueVerdict at h
  split_ifs at h <;> cases h <;> rfl

theorem taskVerdict_not_accepted (h : snapshot.taskVerdict = some verdict) :
    verdict.1.accepted = false := by
  simp only [taskVerdict] at h
  split_ifs at h <;> cases h <;> rfl

theorem executableVerdict_not_accepted (h : snapshot.executableVerdict definition = some verdict) :
    verdict.1.accepted = false := by
  unfold executableVerdict at h
  split at h
  · cases h
    rfl
  · split_ifs at h <;> cases h <;> rfl

theorem conformanceVerdict_not_accepted
    (h : snapshot.conformanceVerdict production definition = some verdict) :
    verdict.1.accepted = false := by
  simp only [conformanceVerdict] at h
  split_ifs at h <;> cases h <;> rfl

theorem beforeCertification_not_accepted
    (h : snapshot.beforeCertification production definition = some verdict) :
    verdict.1.accepted = false := by
  simp only [beforeCertification, beforeAuthentication, Option.or_eq_some_iff] at h
  rcases h with (h | ⟨-, h | ⟨-, h⟩⟩) | ⟨-, h⟩
  · exact catalogueVerdict_not_accepted h
  · exact taskVerdict_not_accepted h
  · exact executableVerdict_not_accepted h
  · exact conformanceVerdict_not_accepted h

theorem routingVerdict_accepted : snapshot.routingVerdict.1.accepted = true := by
  unfold routingVerdict
  split_ifs <;> rfl

theorem accepted_iff {state : NodeConnectorState} :
    state.accepted = true ↔ state = .ready ∨ state = .routingDisabled := by
  simp [NodeConnectorState.accepted]

theorem deriveState_of_accepted
    (hb : snapshot.beforeCertification setting.production definition = none)
    (hc : snapshot.certificationAccepted setting now = .ok true) :
    snapshot.deriveState setting definition now = .ok snapshot.routingVerdict := by
  simp only [deriveState, hb, hc, Except.map, if_true]

-- The derived state tells whether the certification was reached and accepted.
theorem deriveState_accepted (h : snapshot.deriveState setting definition now = .ok verdict) :
    verdict.1.accepted = true ↔
      snapshot.beforeCertification setting.production definition = none ∧
        snapshot.certificationAccepted setting now = .ok true := by
  unfold deriveState at h
  cases hb : snapshot.beforeCertification setting.production definition with
  | some earlier =>
      obtain rfl : earlier = verdict := by simpa [hb] using h
      simp [beforeCertification_not_accepted hb]
  | none =>
      cases hc : snapshot.certificationAccepted setting now with
      | error failure => simp [hb, hc, Except.map] at h
      | ok certOk =>
          cases certOk
          · simp only [hb, hc, Except.map, Except.ok.injEq] at h
            subst h
            simp [NodeConnectorState.accepted]
          · simp only [hb, hc, Except.map, Except.ok.injEq] at h
            subst h
            simp [routingVerdict_accepted]

theorem deriveState_error_iff {failure : StoreFailure} :
    snapshot.deriveState setting definition now = .error failure ↔
      snapshot.beforeCertification setting.production definition = none ∧
        snapshot.certificationAccepted setting now = .error failure := by
  unfold deriveState
  cases hb : snapshot.beforeCertification setting.production definition with
  | some earlier => simp
  | none =>
      cases hc : snapshot.certificationAccepted setting now <;> simp [Except.map]

theorem catalogueVerdict_not_past (h : snapshot.catalogueVerdict definition = some verdict) :
    ¬ verdict.PastAuthentication := by
  unfold catalogueVerdict at h
  split_ifs at h <;> cases h <;> simp [Verdict.PastAuthentication]

theorem taskVerdict_not_past (h : snapshot.taskVerdict = some verdict) :
    ¬ verdict.PastAuthentication := by
  simp only [taskVerdict] at h
  split_ifs at h <;> cases h <;> simp [Verdict.PastAuthentication]

-- A stale revision also asks for a verification, but says why.
theorem executableVerdict_not_past (h : snapshot.executableVerdict definition = some verdict) :
    ¬ verdict.PastAuthentication := by
  unfold executableVerdict at h
  split at h
  · cases h
    simp [Verdict.PastAuthentication]
  · split_ifs at h <;> cases h <;> simp [Verdict.PastAuthentication]

theorem beforeAuthentication_not_past
    (h : snapshot.beforeAuthentication definition = some verdict) : ¬ verdict.PastAuthentication := by
  simp only [beforeAuthentication, Option.or_eq_some_iff] at h
  rcases h with h | ⟨-, h | ⟨-, h⟩⟩
  · exact catalogueVerdict_not_past h
  · exact taskVerdict_not_past h
  · exact executableVerdict_not_past h

theorem conformanceVerdict_past
    (h : snapshot.conformanceVerdict production definition = some verdict) :
    verdict.PastAuthentication ↔
      definition.authenticationMethods = [] ∨ snapshot.authenticationVerified production = true := by
  simp only [conformanceVerdict] at h
  split_ifs at h with hauth hadapter
  · cases h
    simp_all [Verdict.PastAuthentication]
  · cases h
    simp only [Bool.and_eq_true, Bool.not_eq_true', List.isEmpty_eq_false_iff, not_and,
      Bool.not_eq_false] at hauth
    have hpast := or_iff_not_imp_left.mpr hauth
    simp [Verdict.PastAuthentication, hpast]

theorem conformanceVerdict_eq_none_iff :
    snapshot.conformanceVerdict production definition = none ↔
      (definition.authenticationMethods = [] ∨ snapshot.authenticationVerified production = true) ∧
        snapshot.adapterConformancePassed production = true := by
  simp only [conformanceVerdict]
  cases hm : definition.authenticationMethods <;>
    cases hv : snapshot.authenticationVerified production <;>
    cases hp : snapshot.adapterConformancePassed production <;> simp

theorem routingVerdict_past : snapshot.routingVerdict.PastAuthentication := by
  unfold routingVerdict
  split_ifs <;> simp [Verdict.PastAuthentication]

theorem deriveState_past (h : snapshot.deriveState setting definition now = .ok verdict) :
    verdict.PastAuthentication ↔
      snapshot.beforeAuthentication definition = none ∧
        (definition.authenticationMethods = [] ∨
          snapshot.authenticationVerified setting.production = true) := by
  unfold deriveState beforeCertification at h
  cases hb : snapshot.beforeAuthentication definition with
  | some earlier =>
      obtain rfl : earlier = verdict := by simpa [hb] using h
      simp [beforeAuthentication_not_past hb]
  | none =>
      cases hconf : snapshot.conformanceVerdict setting.production definition with
      | some earlier =>
          obtain rfl : earlier = verdict := by simpa [hb, hconf] using h
          simpa using conformanceVerdict_past hconf
      | none =>
          have hverified := (conformanceVerdict_eq_none_iff.mp hconf).1
          refine iff_of_true ?_ ⟨rfl, hverified⟩
          cases hc : snapshot.certificationAccepted setting now with
          | error failure => simp [hb, hconf, hc, Except.map] at h
          | ok certOk =>
              simp only [hb, hconf, hc, Option.or_none, Except.map, Except.ok.injEq] at h
              subst h
              cases certOk
              · simp [Verdict.PastAuthentication]
              · simp [routingVerdict_past]

end NodeConnectorSnapshot

end JoyMesh.Connectors
