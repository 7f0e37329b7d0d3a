import JoyMesh.Connectors.Store

namespace JoyMesh.Connectors

open JoyMesh.Library

namespace LifecycleStore

-- The most recently created evidence of a kind.
def latestEvidence (s : LifecycleStore) (nodeId connectorId : String) (kind : ConnectorEvidenceType) :
    Option ConnectorEvidence :=
  newest (·.createdAt) ((s.evidenceRows nodeId connectorId).filter fun row => row.evidenceType = kind)

def ofKind (s : LifecycleStore) (kind : ConnectorEvidenceType) : List ConnectorEvidence :=
  s.evidence.filter fun row => row.evidenceType = kind

-- Every authentication and certification row comes from one evidence row, and
-- they stand in the same order.
structure Recorded (s : LifecycleStore) : Prop where
  authentications : s.authentications = (s.ofKind .authentication).map (·.authenticationRow)
  certifications : s.certifications = (s.ofKind .certification).map (·.certificationRow)

variable {s : LifecycleStore} {nodeId connectorId platform : String} {setting : Setting} {now : Time}
  {kind : ConnectorEvidenceType} {evidence : ConnectorEvidence}

theorem initial_recorded (tasks : List ConnectorTaskRow) : Recorded (initial tasks) :=
  ⟨rfl, rfl⟩

theorem Recorded.recompute (h : s.Recorded) :
    Recorded (s.recompute nodeId connectorId setting now).2 := by
  unfold LifecycleStore.recompute
  split
  · exact h
  · exact ⟨h.authentications, h.certifications⟩

theorem Recorded.applied (h : s.Recorded) :
    Recorded ({ s with evidence := s.evidence ++ [evidence] }.applyEvidenceSideEffects evidence) := by
  obtain ⟨hauth, hcert⟩ := h
  cases hk : evidence.evidenceType with
  | authentication =>
      simp only [applyEvidenceSideEffects, hk]
      constructor
      · rw [hauth]
        simp [ofKind, hk]
      · rw [hcert]
        simp [ofKind, hk]
  | certification =>
      simp only [applyEvidenceSideEffects, hk]
      constructor
      · rw [hauth]
        simp [ofKind, hk]
      · rw [hcert]
        simp [ofKind, hk]
  | _ =>
      simp only [applyEvidenceSideEffects, hk]
      constructor
      · rw [hauth]
        simp [ofKind, hk]
      · rw [hcert]
        simp [ofKind, hk]

theorem Recorded.recordEvidence (h : s.Recorded) :
    Recorded (s.recordEvidence setting now evidence).2 := by
  unfold LifecycleStore.recordEvidence
  split
  · exact h
  · exact h.applied.recompute

theorem Recorded.setRoutingEnabled (h : s.Recorded) {enabled : Bool} :
    Recorded (s.setRoutingEnabled nodeId connectorId setting now enabled).2 := by
  unfold LifecycleStore.setRoutingEnabled
  split
  · split
    · exact h
    · exact ⟨h.authentications, h.certifications⟩
  · exact ⟨h.authentications, h.certifications⟩

theorem Recorded.respond (h : s.Recorded) {timed : TimedCall} :
    Recorded (respond setting s timed).2 := by
  obtain ⟨now, call⟩ := timed
  cases call with
  | recordEvidence evidence => exact h.recordEvidence
  | setRoutingEnabled nodeId connectorId enabled => exact h.setRoutingEnabled
  | recompute nodeId connectorId => exact h.recompute

theorem after_recorded (tasks : List ConnectorTaskRow) (calls : List TimedCall) :
    Recorded (after setting tasks calls) :=
  play_invariant (fun _ _ h => h.respond) (initial_recorded tasks)

theorem loadSnapshot_evidence :
    (s.loadSnapshot nodeId connectorId platform).evidence kind =
      (s.latestEvidence nodeId connectorId kind).map (·.entry) := by
  rw [latestEvidence, ← find?_newestFirst, ← lookup_evidenceByType]
  rfl

theorem Recorded.latestCertification (h : s.Recorded) :
    s.latestCertification nodeId connectorId =
      (s.latestEvidence nodeId connectorId .certification).map (·.certificationRow) := by
  rw [LifecycleStore.latestCertification, latestEvidence, h.certifications, List.filter_map,
    newest_map, ofKind, evidenceRows, List.filter_comm]
  rfl

-- What recompute answers is what the readiness service derives.
theorem recompute_ok {readiness : ConnectorReadiness}
    (h : (s.recompute nodeId connectorId setting now).1 = .ok readiness) :
    ∃ definition verdict, setting.catalogue connectorId = some definition ∧
      (s.loadSnapshot nodeId connectorId setting.platform).deriveState setting definition now =
        .ok verdict ∧
      readiness.state = verdict.1 ∧ readiness.blockingReason = verdict.2.2 := by
  unfold LifecycleStore.recompute deriveFromSnapshot at h
  cases hd : setting.catalogue connectorId with
  | none => simp [hd] at h
  | some definition =>
      cases hv : (s.loadSnapshot nodeId connectorId setting.platform).deriveState setting
          definition now with
      | error failure => simp [hd, hv, Except.map] at h
      | ok verdict =>
          simp only [hd, hv, Except.map, Except.ok.injEq] at h
          subst h
          exact ⟨definition, verdict, rfl, hv, rfl, rfl⟩

theorem recompute_of_deriveState {definition : ConnectorDefinition} {verdict : Verdict}
    (hd : setting.catalogue connectorId = some definition)
    (hv : (s.loadSnapshot nodeId connectorId setting.platform).deriveState setting definition now =
      .ok verdict) :
    ∃ readiness, (s.recompute nodeId connectorId setting now).1 = .ok readiness ∧
      readiness.state = verdict.1 ∧ readiness.blockingReason = verdict.2.2 := by
  unfold LifecycleStore.recompute deriveFromSnapshot
  simp only [hd, hv, Except.map]
  exact ⟨_, rfl, rfl, rfl⟩

theorem Recorded.mem_authentications (h : s.Recorded) {row : NodeConnectorAuthenticationRow} :
    row ∈ s.authentications.filter (fun row => row.nodeId = nodeId ∧ row.connectorId = connectorId) ↔
      ∃ login ∈ s.evidenceRows nodeId connectorId, login.evidenceType = .authentication ∧
        login.authenticationRow = row := by
  rw [h.authentications]
  constructor
  · intro hm
    obtain ⟨hm, hkey⟩ := List.mem_filter.mp hm
    obtain ⟨login, hl, rfl⟩ := List.mem_map.mp hm
    obtain ⟨he, hk⟩ := List.mem_filter.mp hl
    exact ⟨login, List.mem_filter.mpr ⟨he, hkey⟩, of_decide_eq_true hk, rfl⟩
  · rintro ⟨login, hl, hk, rfl⟩
    obtain ⟨he, hkey⟩ := List.mem_filter.mp hl
    exact List.mem_filter.mpr ⟨List.mem_map.mpr ⟨login,
      List.mem_filter.mpr ⟨he, decide_eq_true hk⟩, rfl⟩, hkey⟩

-- The authentication row that is read is a successful login wherever there is one.
theorem Recorded.loggedIn_iff (h : s.Recorded) :
    ((s.loadSnapshot nodeId connectorId platform).authStatus = some "authenticated" ∧
      (s.loadSnapshot nodeId connectorId platform).authVerifiedAt.isSome = true) ↔
      ∃ login ∈ s.evidenceRows nodeId connectorId, login.evidenceType = .authentication ∧
        login.status = "authenticated" := by
  simp only [loadSnapshot]
  constructor
  · rintro ⟨hstatus, -⟩
    obtain ⟨row, hrow, hs⟩ := Option.map_eq_some_iff.mp hstatus
    obtain ⟨login, hl, hk, rfl⟩ := h.mem_authentications.mp (newest_mem hrow)
    exact ⟨login, hl, hk, hs⟩
  · rintro ⟨login, hl, hk, hs⟩
    have hm := h.mem_authentications.mpr ⟨login, hl, hk, rfl⟩
    cases hrow : s.latestAuthentication nodeId connectorId with
    | none =>
        rw [newest_eq_none_iff.mp hrow] at hm
        cases hm
    | some row =>
        have hle := newest_le hrow hm
        obtain ⟨other, -, -, rfl⟩ := h.mem_authentications.mp (newest_mem hrow)
        -- a row without a verification time would be older than the login
        by_cases ho : other.status = "authenticated"
        · simp [ConnectorEvidence.authenticationRow, ho]
        · simp only [ConnectorEvidence.authenticationRow, hs, if_true, ho, if_false] at hle
          cases isSome_of_nullsLast_le hle

end LifecycleStore

namespace LifecycleStore

-- A connector that routing may use has a certification that passed and holds.
def CertificationSound (setting : Setting) (now : Time) (nodeId connectorId : String)
    (s : LifecycleStore) : Prop :=
  ∀ readiness, (s.recompute nodeId connectorId setting now).1 = .ok readiness →
    readiness.state = .ready ∨ readiness.state = .routingDisabled →
      ∃ cert, s.latestEvidence nodeId connectorId .certification = some cert ∧
        cert.status = "certified" ∧ cert.expired now = false

-- Where the certification decides, and its expiry can be compared with the
-- clock, it has either passed and not expired or failed and expired.
def CertificationAgrees (setting : Setting) (now : Time) (nodeId connectorId : String)
    (s : LifecycleStore) : Prop :=
  ∀ definition cert, setting.catalogue connectorId = some definition →
    (s.loadSnapshot nodeId connectorId setting.platform).beforeCertification
      setting.production definition = none →
    s.latestEvidence nodeId connectorId .certification = some cert →
    (setting.production = true → cert.Attested) →
    (setting.keepsZone = true ∨ cert.expiresAt = none) →
      (cert.status = "certified" ↔ cert.expired now = false)

variable {s : LifecycleStore} {nodeId connectorId : String} {setting : Setting} {now : Time}

-- The table of certifications answers for the latest one, whatever its status.
theorem Recorded.certificationAccepted_iff (h : s.Recorded) :
    (s.loadSnapshot nodeId connectorId setting.platform).certificationAccepted setting now = .ok true ↔
      ∃ cert, s.latestEvidence nodeId connectorId .certification = some cert ∧
        (setting.keepsZone = true ∨ cert.expiresAt = none) ∧
        (cert.status = "certified" ∨ cert.expired now = false) ∧
        (setting.production = true → cert.Attested) := by
  have hevidence : (s.loadSnapshot nodeId connectorId setting.platform).evidence .certification = _ :=
    loadSnapshot_evidence
  have hvalid : (s.loadSnapshot nodeId connectorId setting.platform).certificationValid =
      (s.latestCertification nodeId connectorId).isSome := rfl
  have hexpires : (s.loadSnapshot nodeId connectorId setting.platform).certificationExpiresAt =
      (s.latestCertification nodeId connectorId).bind (·.expiresAt) := rfl
  rw [h.latestCertification] at hvalid hexpires
  unfold NodeConnectorSnapshot.certificationAccepted NodeConnectorSnapshot.certificationExpired
  rw [hevidence, hvalid, hexpires]
  cases hcert : s.latestEvidence nodeId connectorId .certification with
  | none => simp [Except.map]
  | some cert =>
      cases hx : cert.expiresAt with
      | none =>
          cases hp : setting.production <;>
            simp [Except.map, ConnectorEvidence.certificationRow, ConnectorEvidence.expired, hx,
              productionTrustOk_entry]
      | some expiresAt =>
          cases hz : setting.keepsZone <;> cases hp : setting.production <;>
            by_cases hl : expiresAt ≤ now <;> by_cases hs : cert.status = "certified" <;>
            simp [Except.map, ConnectorEvidence.certificationRow, ConnectorEvidence.expired, hx, hl, hs,
              productionTrustOk_entry]

theorem Recorded.certificationSound_iff (h : s.Recorded) :
    CertificationSound setting now nodeId connectorId s ↔
      CertificationAgrees setting now nodeId connectorId s := by
  constructor
  · intro hsound definition cert hd hbefore hcert htrust hzone
    by_contra hdiffer
    have hpassed : cert.status = "certified" ∨ cert.expired now = false := by
      by_contra hneither
      simp only [not_or, Bool.not_eq_false] at hneither
      exact hdiffer ⟨fun hs => absurd hs hneither.1, fun hx => by simp [hneither.2] at hx⟩
    have haccepted := h.certificationAccepted_iff.mpr ⟨cert, hcert, hzone, hpassed, htrust⟩
    obtain ⟨readiness, hr, hstate, -⟩ :=
      recompute_of_deriveState hd (NodeConnectorSnapshot.deriveState_of_accepted hbefore haccepted)
    have hrouted : readiness.state = .ready ∨ readiness.state = .routingDisabled :=
      hstate ▸ NodeConnectorSnapshot.accepted_iff.mp NodeConnectorSnapshot.routingVerdict_accepted
    obtain ⟨latest, hlatest, hs, hx⟩ := hsound readiness hr hrouted
    obtain rfl := Option.some.inj (hcert.symm.trans hlatest)
    exact hdiffer (by simp [hs, hx])
  · intro hagrees readiness hr hstate
    obtain ⟨definition, verdict, hd, hv, hs, -⟩ := recompute_ok hr
    have haccepted : verdict.1.accepted = true :=
      NodeConnectorSnapshot.accepted_iff.mpr (hs ▸ hstate)
    obtain ⟨hbefore, hok⟩ := (NodeConnectorSnapshot.deriveState_accepted hv).mp haccepted
    obtain ⟨cert, hcert, hzone, hpassed, htrust⟩ := h.certificationAccepted_iff.mp hok
    have hiff := hagrees definition cert hd hbefore hcert htrust hzone
    rcases hpassed with hs | hx
    · exact ⟨cert, hcert, hs, hiff.mp hs⟩
    · exact ⟨cert, hcert, hiff.mpr hx, hx⟩

-- After any calls, at any time, for any node and connector.
theorem routed_certified_iff (setting : Setting) (tasks : List ConnectorTaskRow)
    (calls : List TimedCall) (now : Time) (nodeId connectorId : String) :
    CertificationSound setting now nodeId connectorId (after setting tasks calls) ↔
      CertificationAgrees setting now nodeId connectorId (after setting tasks calls) :=
  (after_recorded tasks calls).certificationSound_iff

section Runs

def sampleDefinition : ConnectorDefinition where
  revision := "1"
  maturity := .certified
  mode := .structuredHeadless
  supportedPlatforms := ["darwin"]

def sampleSetting : Setting where
  production := false
  platform := "darwin"
  catalogue connectorId := if connectorId = "codex" then some sampleDefinition else none
  keepsZone := true

def sampleEvidence (evidenceId : String) (kind : ConnectorEvidenceType) (status : String)
    (createdAt : Time) : ConnectorEvidence where
  evidenceId := evidenceId
  nodeId := "node"
  connectorId := "codex"
  connectorRevision := "1"
  taskId := "task"
  evidenceType := kind
  status := status
  executablePath := some "/usr/bin/codex"
  createdAt := createdAt

def installed : List TimedCall :=
  [⟨1, .recordEvidence (sampleEvidence "e1" .discovery "found" 1)⟩,
    ⟨2, .recordEvidence (sampleEvidence "e2" .adapterConformance "passed" 2)⟩,
    ⟨3, .setRoutingEnabled "node" "codex" true⟩]

-- A certification that failed after one that passed.
def failedLater : List TimedCall :=
  installed ++ [⟨4, .recordEvidence (sampleEvidence "e3" .certification "certified" 4)⟩,
    ⟨5, .recordEvidence (sampleEvidence "e4" .certification "failed" 5)⟩]

-- A certification that passed and holds until instant ten.
def expiring : List TimedCall :=
  installed ++ [⟨4, .recordEvidence
    { sampleEvidence "e3" .certification "certified" 4 with expiresAt := some 10 }⟩]

theorem not_sound_of_ready
    (hready : ((s.recompute nodeId connectorId setting now).1.map (·.state)).toOption = some .ready)
    (hlatest : (s.latestEvidence nodeId connectorId .certification).all fun cert =>
      cert.status != "certified" || cert.expired now) :
    ¬ CertificationSound setting now nodeId connectorId s := by
  intro hsound
  cases hr : (s.recompute nodeId connectorId setting now).1 with
  | error failure => simp [hr, Except.map, Except.toOption] at hready
  | ok readiness =>
      have hstate : readiness.state = .ready := by
        simpa [hr, Except.map, Except.toOption] using hready
      obtain ⟨cert, hcert, hs, hx⟩ := hsound readiness hr (.inl hstate)
      simp [hcert, hs, hx] at hlatest

-- The second run is one of a database that keeps time zones. SQLite gives the expiry back
-- without its zone, and the comparison with the clock raises a TypeError.
theorem certification_unsound :
    ((failedLater.map TimedCall.now).Pairwise (· ≤ ·) ∧
      ¬ CertificationSound sampleSetting 6 "node" "codex" (after sampleSetting [] failedLater)) ∧
    ((expiring.map TimedCall.now).Pairwise (· ≤ ·) ∧
      ¬ CertificationSound sampleSetting 20 "node" "codex" (after sampleSetting [] expiring)) :=
  ⟨⟨by decide, not_sound_of_ready (by decide +kernel) (by decide +kernel)⟩,
    ⟨by decide, not_sound_of_ready (by decide +kernel) (by decide +kernel)⟩⟩

end Runs

end LifecycleStore

namespace LifecycleStore

-- After an observation that the node is not logged in, the connector does not
-- get past the authentication.
def LogoutSound (setting : Setting) (now : Time) (nodeId connectorId : String)
    (s : LifecycleStore) : Prop :=
  ∀ definition observed readiness, setting.catalogue connectorId = some definition →
    definition.authenticationMethods ≠ [] →
    s.latestEvidence nodeId connectorId .authentication = some observed →
    observed.status ≠ "authenticated" →
    (s.recompute nodeId connectorId setting now).1 = .ok readiness →
      readiness.state ≠ .ready ∧ readiness.state ≠ .routingDisabled ∧
        readiness.state ≠ .certificationRequired ∧
        ¬ (readiness.state = .verificationRequired ∧ readiness.blockingReason = none)

-- Where the logout decides, there is no earlier login, unless the check of a
-- stored expiry fails first.
def NoEarlierLogin (setting : Setting) (nodeId connectorId : String) (s : LifecycleStore) : Prop :=
  ∀ definition observed login, setting.catalogue connectorId = some definition →
    definition.authenticationMethods ≠ [] →
    s.latestEvidence nodeId connectorId .authentication = some observed →
    observed.status ≠ "authenticated" →
    (s.loadSnapshot nodeId connectorId setting.platform).beforeAuthentication definition = none →
    (setting.production = true → observed.Attested) →
    login ∈ s.evidenceRows nodeId connectorId → login.evidenceType = .authentication →
    login.status = "authenticated" →
      (s.loadSnapshot nodeId connectorId setting.platform).adapterConformancePassed
        setting.production = true ∧ setting.keepsZone = false ∧
        ∃ cert, s.latestEvidence nodeId connectorId .certification = some cert ∧ cert.expiresAt ≠ none

variable {s : LifecycleStore} {nodeId connectorId : String} {setting : Setting} {now : Time}
  {observed : ConnectorEvidence}

-- A logout that is the latest observation does not count against an older login.
theorem Recorded.authenticationVerified_iff (h : s.Recorded)
    (hlatest : s.latestEvidence nodeId connectorId .authentication = some observed)
    (hout : observed.status ≠ "authenticated") :
    (s.loadSnapshot nodeId connectorId setting.platform).authenticationVerified setting.production =
        true ↔
      (∃ login ∈ s.evidenceRows nodeId connectorId, login.evidenceType = .authentication ∧
        login.status = "authenticated") ∧
      (setting.production = true → observed.Attested) := by
  have hevidence : (s.loadSnapshot nodeId connectorId setting.platform).evidence .authentication =
      some observed.entry := by
    rw [loadSnapshot_evidence, hlatest, Option.map_some]
  have hlogged : ((s.loadSnapshot nodeId connectorId setting.platform).authStatus =
      some "authenticated" ∧
      (s.loadSnapshot nodeId connectorId setting.platform).authVerifiedAt.isSome = true) ↔ _ :=
    h.loggedIn_iff
  rw [← hlogged]
  unfold NodeConnectorSnapshot.authenticationVerified
  rw [hevidence]
  split_ifs with hlogin
  · cases hp : setting.production <;> simp [hlogin, productionTrustOk_entry]
  · simp [hlogin, hout]

theorem Recorded.certificationAccepted_error_iff (h : s.Recorded) :
    (∃ failure, (s.loadSnapshot nodeId connectorId setting.platform).certificationAccepted
      setting now = .error failure) ↔
      setting.keepsZone = false ∧ ∃ cert,
        s.latestEvidence nodeId connectorId .certification = some cert ∧ cert.expiresAt ≠ none := by
  have hvalid : (s.loadSnapshot nodeId connectorId setting.platform).certificationValid =
      (s.latestCertification nodeId connectorId).isSome := rfl
  have hexpires : (s.loadSnapshot nodeId connectorId setting.platform).certificationExpiresAt =
      (s.latestCertification nodeId connectorId).bind (·.expiresAt) := rfl
  rw [h.latestCertification] at hvalid hexpires
  unfold NodeConnectorSnapshot.certificationAccepted NodeConnectorSnapshot.certificationExpired
  rw [hvalid, hexpires]
  cases hcert : s.latestEvidence nodeId connectorId .certification with
  | none => simp [Except.map]
  | some cert =>
      cases hx : cert.expiresAt <;> cases hz : setting.keepsZone <;>
        simp [Except.map, ConnectorEvidence.certificationRow, hx]

theorem Recorded.logoutSound_iff (h : s.Recorded) :
    LogoutSound setting now nodeId connectorId s ↔ NoEarlierLogin setting nodeId connectorId s := by
  constructor
  · intro hsound definition observed login hd hm hlatest hout hbefore htrust hl hk hs
    have hverified : (s.loadSnapshot nodeId connectorId setting.platform).authenticationVerified
        setting.production = true :=
      (h.authenticationVerified_iff hlatest hout).mpr ⟨⟨login, hl, hk, hs⟩, htrust⟩
    cases hv : (s.loadSnapshot nodeId connectorId setting.platform).deriveState setting
        definition now with
    | ok verdict =>
        -- a verdict that is given here is past the authentication
        have hpast := (NodeConnectorSnapshot.deriveState_past hv).mpr ⟨hbefore, .inr hverified⟩
        obtain ⟨readiness, hr, hstate, hblock⟩ := recompute_of_deriveState hd hv
        obtain ⟨hready, hrouting, hcert, hconf⟩ :=
          hsound definition observed readiness hd hm hlatest hout hr
        rw [hstate] at hready hrouting hcert hconf
        rw [hblock] at hconf
        rcases hpast with hp | hp | hp | hp
        · exact absurd hp hready
        · exact absurd hp hrouting
        · exact absurd hp hcert
        · exact absurd hp hconf
    | error failure =>
        obtain ⟨hb, hc⟩ := NodeConnectorSnapshot.deriveState_error_iff.mp hv
        have hconf := (Option.or_eq_none_iff.mp hb).2
        have hadapter := (NodeConnectorSnapshot.conformanceVerdict_eq_none_iff.mp hconf).2
        exact ⟨hadapter, h.certificationAccepted_error_iff.mp ⟨failure, hc⟩⟩
  · intro hno definition observed readiness hd hm hlatest hout hr
    have hnot : ¬ Verdict.PastAuthentication
        (readiness.state, readiness.recommendedAction, readiness.blockingReason) := by
      intro hpast
      obtain ⟨definition', verdict, hd', hv, hstate, hblock⟩ := recompute_ok hr
      obtain rfl := Option.some.inj (hd.symm.trans hd')
      have hpast' : verdict.PastAuthentication := by
        simpa only [Verdict.PastAuthentication, hstate, hblock] using hpast
      obtain ⟨hbefore, hauth⟩ := (NodeConnectorSnapshot.deriveState_past hv).mp hpast'
      obtain ⟨⟨login, hl, hk, hs⟩, htrust⟩ :=
        (h.authenticationVerified_iff hlatest hout).mp (hauth.resolve_left hm)
      obtain ⟨hadapter, hraises⟩ := hno definition observed login hd hm hlatest hout hbefore htrust hl hk hs
      -- here recompute raises, so it has no answer
      obtain ⟨failure, hfail⟩ := h.certificationAccepted_error_iff.mpr hraises
      have hconf := NodeConnectorSnapshot.conformanceVerdict_eq_none_iff.mpr ⟨hauth, hadapter⟩
      have herror := NodeConnectorSnapshot.deriveState_error_iff.mpr
        ⟨Option.or_eq_none_iff.mpr ⟨hbefore, hconf⟩, hfail⟩
      rw [hv] at herror
      cases herror
    simp only [Verdict.PastAuthentication, not_or] at hnot
    exact hnot

-- After any calls, at any time, for any node and connector.
theorem logout_outranks_iff (setting : Setting) (tasks : List ConnectorTaskRow)
    (calls : List TimedCall) (now : Time) (nodeId connectorId : String) :
    LogoutSound setting now nodeId connectorId (after setting tasks calls) ↔
      NoEarlierLogin setting nodeId connectorId (after setting tasks calls) :=
  (after_recorded tasks calls).logoutSound_iff

section Runs

def loginSetting : Setting :=
  { sampleSetting with
    catalogue := fun connectorId =>
      if connectorId = "codex" then some { sampleDefinition with authenticationMethods := ["login"] }
      else none }

-- A login, and a logout that is observed later.
def loggedOut : List TimedCall :=
  [⟨1, .recordEvidence (sampleEvidence "e1" .discovery "found" 1)⟩,
    ⟨2, .recordEvidence (sampleEvidence "e2" .authentication "authenticated" 2)⟩,
    ⟨3, .recordEvidence (sampleEvidence "e3" .authentication "expired" 3)⟩]

theorem logout_unsound : (loggedOut.map TimedCall.now).Pairwise (· ≤ ·) ∧
    ¬ LogoutSound loginSetting 4 "node" "codex" (after loginSetting [] loggedOut) := by
  refine ⟨by decide, fun hsound => ?_⟩
  have hverify : (((after loginSetting [] loggedOut).recompute "node" "codex" loginSetting 4).1.map
      fun readiness => (readiness.state, readiness.blockingReason)).toOption =
        some (.verificationRequired, none) := by decide +kernel
  cases hr : ((after loginSetting [] loggedOut).recompute "node" "codex" loginSetting 4).1 with
  | error failure => simp [hr, Except.map, Except.toOption] at hverify
  | ok readiness =>
      have hstate : readiness.state = .verificationRequired ∧ readiness.blockingReason = none := by
        simpa [hr, Except.map, Except.toOption] using hverify
      have hlatest : (after loginSetting [] loggedOut).latestEvidence "node" "codex" .authentication =
          some (sampleEvidence "e3" .authentication "expired" 3) := rfl
      obtain ⟨-, -, -, hconf⟩ := hsound _ _ readiness rfl (by simp) hlatest (by decide) hr
      exact hconf hstate

end Runs

end LifecycleStore

end JoyMesh.Connectors
