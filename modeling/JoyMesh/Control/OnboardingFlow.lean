import JoyMesh.Connectors.Evidence
import JoyMesh.Node.Tasks

namespace JoyMesh.Control

open Connectors (NodeConnectorState ConnectorTaskStatus)

inductive OnboardingState where
  | notStarted
  | accountReady
  | nodePairingRequired
  | nodeOffline
  | environmentCheck
  | harnessSelection
  | installationReview
  | installing
  | authenticationRequired
  | verifyingAccounts
  | certificationRequired
  | certifying
  | routingSetup
  | fireconnectSetup
  | finalCheck
  | complete
  | limitedMode
  | blocked
  | failed
deriving DecidableEq, Repr

structure OnboardingProgress where
  nodeId : Option String := none
  state : OnboardingState := .notStarted
  selectedHarnesses : List String := []
deriving DecidableEq, Repr

structure ConnectorReadiness where
  connectorId : String
  state : NodeConnectorState
deriving DecidableEq, Repr

structure ConnectorTaskRecord where
  connectorId : String
  action : String
  status : ConnectorTaskStatus
deriving DecidableEq, Repr

def authStates : List NodeConnectorState :=
  [.authenticationRequired, .authenticationInProgress, .authenticationFailed]

def verifyStates : List NodeConnectorState := [.verificationRequired, .verificationInProgress]

def certStates : List NodeConnectorState := [.certificationRequired, .certificationInProgress]

def readyStates : List NodeConnectorState := [.ready, .routingDisabled]

section Derivation

-- The facts beside the progress. A plan is looked at only for its being there.
structure Facts where
  readiness : List ConnectorReadiness := []
  activeTasks : List ConnectorTaskRecord := []
  pendingPlans : List JoyMesh.Value := []

variable (progress : OnboardingProgress) (facts : Facts)

def OnboardingProgress.paired : Bool := progress.nodeId.any (· ≠ "")

-- The last row of a connector stands for it.
def Facts.rowOf (harness : String) : Option ConnectorReadiness :=
  (facts.readiness.filter fun row => row.connectorId = harness).getLast?

def selectedRows : List ConnectorReadiness :=
  progress.selectedHarnesses.dedup.filterMap facts.rowOf

def installingTasks : List ConnectorTaskRecord :=
  facts.activeTasks.filter fun task => task.connectorId ∈ progress.selectedHarnesses ∧
    task.action = Node.ConnectorAction.install.value ∧
    task.status ∈ [.queued, .running, .waitingForUser]

def isInstalling : Bool :=
  installingTasks progress facts ≠ [] ∨ (selectedRows progress facts).any (·.state = .installing)

def deriveWizardState : OnboardingState :=
  let selected := progress.selectedHarnesses.dedup
  let rows := selectedRows progress facts
  let ready := rows.all (·.state ∈ readyStates)
  if !progress.paired then .nodePairingRequired
  else if progress.state ∈ [.accountReady, .nodePairingRequired, .environmentCheck,
      .harnessSelection] ∧ selected = [] then
    if progress.state ≠ .notStarted then progress.state else .accountReady
  else if isInstalling progress facts then .installing
  else if facts.pendingPlans ≠ [] then .installationReview
  else if selected ≠ [] ∧ rows.length < selected.length ∧
      progress.state ∈ [.installationReview, .installing, .harnessSelection] then
    .installationReview
  else if rows.any (·.state ∈ authStates) then
    if rows.any (·.state = .authenticationInProgress) then .verifyingAccounts
    else .authenticationRequired
  else if rows.any (·.state ∈ verifyStates) then .verifyingAccounts
  else if rows.any (·.state ∈ certStates) then
    if rows.any (·.state = .certificationInProgress) then .certifying else .certificationRequired
  else if selected ≠ [] ∧ rows ≠ [] ∧ ready then
    if progress.state ∈ [.routingSetup, .fireconnectSetup, .finalCheck, .complete, .limitedMode]
    then progress.state
    else .routingSetup
  else if progress.state = .complete ∧ selected ≠ [] ∧ (rows = [] ∨ ¬ready) then .finalCheck
  else progress.state

end Derivation

section Soundness

-- What the rows alone ask for.
def rowsVerdict (rows : List ConnectorReadiness) : Option OnboardingState :=
  if rows.any (·.state ∈ authStates) then
    some (if rows.any (·.state = .authenticationInProgress) then .verifyingAccounts
      else .authenticationRequired)
  else if rows.any (·.state ∈ verifyStates) then some .verifyingAccounts
  else if rows.any (·.state ∈ certStates) then
    some (if rows.any (·.state = .certificationInProgress) then .certifying
      else .certificationRequired)
  else none

-- Where the stored state counts, with harnesses selected and nothing to install.
def settle (missing : Bool) (verdict : Option OnboardingState) (ready : Bool)
    (state : OnboardingState) : OnboardingState :=
  if missing ∧ state ∈ [.installationReview, .installing, .harnessSelection] then
    .installationReview
  else match verdict with
    | some verdict => verdict
    | none =>
        if ready then
          if state ∈ [.routingSetup, .fireconnectSetup, .finalCheck, .complete, .limitedMode]
          then state
          else .routingSetup
        else if state = .complete then .finalCheck
        else state

def rowsReady (rows : List ConnectorReadiness) : Bool :=
  rows ≠ [] ∧ rows.all (·.state ∈ readyStates)

variable (progress : OnboardingProgress) (facts : Facts) {rows : List ConnectorReadiness}
  {missing ready : Bool} {state : OnboardingState}

-- An install task of a selected connector that is not over.
def IsInstall (task : ConnectorTaskRecord) : Prop :=
  task.connectorId ∈ progress.selectedHarnesses ∧
    task.action = Node.ConnectorAction.install.value ∧ task.status.terminal = false

def HarnessReady (harness : String) : Prop :=
  (∃ row ∈ facts.readiness, row.connectorId = harness) ∧
    ∀ row ∈ facts.readiness, row.connectorId = harness → row.state ∈ readyStates

structure WizardSound : Prop where
  complete : deriveWizardState progress facts = .complete →
    ∀ harness ∈ progress.selectedHarnesses, HarnessReady facts harness
  installing : progress.paired = true →
    (∃ task ∈ facts.activeTasks, IsInstall progress task) →
    deriveWizardState progress facts = .installing
  stable : deriveWizardState { progress with state := deriveWizardState progress facts } facts =
    deriveWizardState progress facts

-- A stored COMPLETE that the rows there are do not contradict, although a selected
-- harness has none or has another one that is not ready.
structure Presumed : Prop where
  paired : progress.paired = true
  state : progress.state = .complete
  installing : isInstalling progress facts = false
  plans : facts.pendingPlans = []
  rows : selectedRows progress facts ≠ []
  ready : ∀ row ∈ selectedRows progress facts, row.state ∈ readyStates
  unready : ∃ harness ∈ progress.selectedHarnesses, ¬HarnessReady facts harness

-- A stored INSTALLING that nothing changes.
structure Lingering : Prop where
  state : progress.state = .installing
  plans : facts.pendingPlans = []
  rows : progress.selectedHarnesses.dedup.length ≤ (selectedRows progress facts).length
  verdict : rowsVerdict (selectedRows progress facts) = none
  unready : rowsReady (selectedRows progress facts) = false

-- An install task in a status that is not looked for.
structure Overlooked : Prop where
  paired : progress.paired = true
  installing : isInstalling progress facts = false
  lingering : ¬Lingering progress facts
  task : ∃ task ∈ facts.activeTasks, IsInstall progress task

variable {progress facts}

theorem selectedRows_nil (h : progress.selectedHarnesses.dedup = []) :
    selectedRows progress facts = [] := by
  rw [selectedRows, h, List.filterMap_nil]

theorem not_any_of_ready {rows : List ConnectorReadiness} {states : List NodeConnectorState}
    (hready : ∀ row ∈ rows, row.state ∈ readyStates) (hstates : ∀ state ∈ readyStates, state ∉ states) :
    rows.any (·.state ∈ states) = false := by
  rw [List.any_eq_false]
  intro row hrow
  simpa using hstates _ (hready row hrow)

theorem rowsVerdict_states {verdict : OnboardingState} (h : rowsVerdict rows = some verdict) :
    verdict ∈ [.verifyingAccounts,
      .authenticationRequired, .certifying, .certificationRequired] := by
  unfold rowsVerdict at h
  split_ifs at h <;> cases h <;> decide

theorem settle_stable {verdict : Option OnboardingState}
    (hverdict : ∀ asked ∈ verdict, asked ∈ [.verifyingAccounts,
      .authenticationRequired, .certifying, .certificationRequired]) :
    settle missing verdict ready (settle missing verdict ready state) =
      settle missing verdict ready state := by
  cases verdict with
  | none => cases missing <;> cases ready <;> cases state <;> rfl
  | some asked =>
      have hasked := hverdict asked rfl
      simp only [List.mem_cons, List.not_mem_nil, or_false] at hasked
      rcases hasked with rfl | rfl | rfl | rfl <;> cases missing <;> cases state <;> rfl

theorem derive_unpaired (h : progress.paired = false) :
    deriveWizardState progress facts = .nodePairingRequired := by
  simp [deriveWizardState, h]

theorem dedup_nil : progress.selectedHarnesses.dedup = [] ↔ progress.selectedHarnesses = [] :=
  List.dedup_eq_nil _

theorem isInstalling_unselected (h : progress.selectedHarnesses = []) :
    isInstalling progress facts = false := by
  have hrows : selectedRows progress facts = [] := selectedRows_nil (dedup_nil.mpr h)
  simp [isInstalling, hrows, installingTasks, h]

theorem derive_unselected (hpaired : progress.paired = true)
    (hselected : progress.selectedHarnesses = []) : deriveWizardState progress facts =
      if progress.state ∈ [.accountReady, .nodePairingRequired, .environmentCheck,
        .harnessSelection] then progress.state
      else if facts.pendingPlans ≠ [] then .installationReview
      else progress.state := by
  have hrows : selectedRows progress facts = [] := selectedRows_nil (dedup_nil.mpr hselected)
  have hdedup := dedup_nil.mpr hselected
  have hinstalling := @isInstalling_unselected progress facts hselected
  simp only [deriveWizardState, hpaired, hrows, hdedup, hinstalling, Bool.not_true,
    Bool.false_eq_true, if_false, List.any_nil, ne_eq, not_true_eq_false, false_and, and_false,
    and_true]
  cases progress.state <;> rfl

theorem derive_installing (hpaired : progress.paired = true)
    (hselected : progress.selectedHarnesses ≠ []) (h : isInstalling progress facts = true) :
    deriveWizardState progress facts = .installing := by
  have hdedup : progress.selectedHarnesses.dedup ≠ [] := fun hnil => hselected (dedup_nil.mp hnil)
  simp [deriveWizardState, hpaired, hdedup, h]

theorem derive_planned (hpaired : progress.paired = true)
    (hselected : progress.selectedHarnesses ≠ []) (hinstalling : isInstalling progress facts = false)
    (h : facts.pendingPlans ≠ []) : deriveWizardState progress facts = .installationReview := by
  have hdedup : progress.selectedHarnesses.dedup ≠ [] := fun hnil => hselected (dedup_nil.mp hnil)
  simp [deriveWizardState, hpaired, hdedup, hinstalling, h]

theorem derive_settled (hpaired : progress.paired = true)
    (hselected : progress.selectedHarnesses ≠ []) (hinstalling : isInstalling progress facts = false)
    (hplans : facts.pendingPlans = []) : deriveWizardState progress facts =
      settle (decide ((selectedRows progress facts).length < progress.selectedHarnesses.dedup.length))
        (rowsVerdict (selectedRows progress facts)) (rowsReady (selectedRows progress facts))
        progress.state := by
  have hdedup : progress.selectedHarnesses.dedup ≠ [] := fun hnil => hselected (dedup_nil.mp hnil)
  simp only [deriveWizardState, hpaired, hinstalling, hplans, hdedup, Bool.not_true,
    Bool.false_eq_true, if_false, and_false, ne_eq, not_true_eq_false, not_false_eq_true, true_and,
    settle, rowsVerdict, rowsReady]
  generalize selectedRows progress facts = rows
  simp only [decide_eq_true_eq]
  by_cases hmissing : rows.length < progress.selectedHarnesses.dedup.length ∧
      progress.state ∈ [.installationReview, .installing, .harnessSelection]
  · rw [if_pos hmissing, if_pos hmissing]
  · rw [if_neg hmissing, if_neg hmissing]
    by_cases hauth : rows.any (·.state ∈ authStates) = true
    · rw [if_pos hauth, if_pos hauth]
    · rw [if_neg hauth, if_neg hauth]
      by_cases hverify : rows.any (·.state ∈ verifyStates) = true
      · rw [if_pos hverify, if_pos hverify]
      · rw [if_neg hverify, if_neg hverify]
        by_cases hcert : rows.any (·.state ∈ certStates) = true
        · rw [if_pos hcert, if_pos hcert]
        · rw [if_neg hcert, if_neg hcert]
          by_cases hready : rows ≠ [] ∧ rows.all (·.state ∈ readyStates) = true
          · rw [if_pos hready, if_pos hready]
          · rw [if_neg hready, if_neg hready]
            have hunready : rows = [] ∨ ¬rows.all (·.state ∈ readyStates) = true := by
              by_contra hnone
              exact hready (not_or.mp hnone |>.imp id not_not.mp)
            by_cases hstate : progress.state = .complete
            · rw [if_pos ⟨hstate, hunready⟩, if_pos hstate]
            · rw [if_neg fun hboth => hstate hboth.1, if_neg hstate]

theorem settle_complete {verdict : Option OnboardingState}
    (hverdict : ∀ asked ∈ verdict, asked ∈ [.verifyingAccounts,
      .authenticationRequired, .certifying, .certificationRequired]) :
    settle missing verdict ready state = .complete ↔
      verdict = none ∧ ready = true ∧ state = .complete := by
  cases verdict with
  | none => cases missing <;> cases ready <;> cases state <;> decide
  | some asked =>
      have hasked : asked ≠ .complete := by
        rintro rfl
        exact absurd (hverdict _ rfl) (by decide)
      unfold settle
      split <;> simp [hasked]

theorem settle_installing {verdict : Option OnboardingState}
    (hverdict : ∀ asked ∈ verdict, asked ∈ [.verifyingAccounts,
      .authenticationRequired, .certifying, .certificationRequired]) :
    settle missing verdict ready state = .installing ↔
      missing = false ∧ verdict = none ∧ ready = false ∧ state = .installing := by
  cases verdict with
  | none => cases missing <;> cases ready <;> cases state <;> decide
  | some asked =>
      have hasked : asked ≠ .installing := by
        rintro rfl
        exact absurd (hverdict _ rfl) (by decide)
      unfold settle
      split <;> simp [hasked]

theorem rowsVerdict_ready (h : rowsReady rows = true) : rowsVerdict rows = none := by
  have hready : ∀ row ∈ rows, row.state ∈ readyStates := by
    simp only [rowsReady, decide_eq_true_eq, List.all_eq_true] at h
    exact h.2
  have hauth := @not_any_of_ready rows authStates hready (by decide)
  have hverify := @not_any_of_ready rows verifyStates hready (by decide)
  have hcert := @not_any_of_ready rows certStates hready (by decide)
  simp [rowsVerdict, hauth, hverify, hcert]

theorem rowsReady_iff : rowsReady rows = true ↔
    rows ≠ [] ∧ ∀ row ∈ rows, row.state ∈ readyStates := by
  simp [rowsReady]

theorem derive_complete_iff : deriveWizardState progress facts = .complete ↔
    progress.paired = true ∧ progress.state = .complete ∧ isInstalling progress facts = false ∧
      facts.pendingPlans = [] ∧ (progress.selectedHarnesses = [] ∨
        rowsReady (selectedRows progress facts) = true) := by
  cases hpaired : progress.paired with
  | false => simp [derive_unpaired hpaired]
  | true =>
      by_cases hselected : progress.selectedHarnesses = []
      · rw [derive_unselected hpaired hselected]
        have hinstalling := @isInstalling_unselected progress facts hselected
        simp only [hinstalling, hselected, true_and, true_or, and_true]
        by_cases hplans : facts.pendingPlans = [] <;> cases progress.state <;> simp [hplans]
      · cases hinstalling : isInstalling progress facts with
        | true => simp [derive_installing hpaired hselected hinstalling]
        | false =>
            by_cases hplans : facts.pendingPlans = []
            · rw [derive_settled hpaired hselected hinstalling hplans,
                settle_complete fun _ => rowsVerdict_states]
              constructor
              · rintro ⟨-, hready, hstate⟩
                exact ⟨rfl, hstate, rfl, hplans, Or.inr hready⟩
              · rintro ⟨-, hstate, -, -, hnone | hready⟩
                · exact absurd hnone hselected
                · exact ⟨rowsVerdict_ready hready, hready, hstate⟩
            · simp [derive_planned hpaired hselected hinstalling hplans, hplans]

theorem derive_installing_iff (hpaired : progress.paired = true)
    (hselected : progress.selectedHarnesses ≠ []) :
    deriveWizardState progress facts = .installing ↔
      isInstalling progress facts = true ∨ Lingering progress facts := by
  cases hinstalling : isInstalling progress facts with
  | true => simp [derive_installing hpaired hselected hinstalling]
  | false =>
      by_cases hplans : facts.pendingPlans = []
      · rw [derive_settled hpaired hselected hinstalling hplans,
          settle_installing fun _ => rowsVerdict_states]
        constructor
        · rintro ⟨hrows, hverdict, hready, hstate⟩
          exact Or.inr ⟨hstate, hplans, by simpa using hrows, hverdict, hready⟩
        · rintro (hnone | h)
          · cases hnone
          · exact ⟨by simpa using h.rows, h.verdict, h.unready, h.state⟩
      · rw [derive_planned hpaired hselected hinstalling hplans]
        constructor
        · rintro ⟨⟩
        · rintro (hnone | h)
          · cases hnone
          · exact absurd h.plans hplans

theorem derive_stable :
    deriveWizardState { progress with state := deriveWizardState progress facts } facts =
      deriveWizardState progress facts := by
  generalize hderived : deriveWizardState progress facts = derived
  cases hpaired : progress.paired with
  | false => 
      rw [← hderived, derive_unpaired hpaired]
      exact derive_unpaired hpaired
  | true =>
      by_cases hselected : progress.selectedHarnesses = []
      · have hagain := @derive_unselected { progress with state := derived } facts hpaired hselected
        rw [derive_unselected hpaired hselected] at hderived
        rw [hagain, ← hderived]
        by_cases hplans : facts.pendingPlans = [] <;> cases progress.state <;> simp [hplans]
      · cases hinstalling : isInstalling progress facts with
        | true =>
            rw [← hderived, derive_installing hpaired hselected hinstalling]
            exact derive_installing hpaired hselected hinstalling
        | false =>
            by_cases hplans : facts.pendingPlans = []
            · have hagain := @derive_settled { progress with state := derived } facts hpaired
                hselected hinstalling hplans
              rw [derive_settled hpaired hselected hinstalling hplans] at hderived
              rw [hagain, ← hderived]
              exact settle_stable fun _ => rowsVerdict_states
            · rw [← hderived, derive_planned hpaired hselected hinstalling hplans]
              exact derive_planned hpaired hselected hinstalling hplans

-- The wizard state is sound but for a COMPLETE that is presumed and an install task
-- that is overlooked.
theorem wizardSound_iff :
    WizardSound progress facts ↔ ¬Presumed progress facts ∧ ¬Overlooked progress facts := by
  constructor
  · intro h
    refine ⟨fun hpresumed => ?_, fun hoverlooked => ?_⟩
    · obtain ⟨harness, hselected, hunready⟩ := hpresumed.unready
      refine hunready (h.complete (derive_complete_iff.mpr ?_) harness hselected)
      exact ⟨hpresumed.paired, hpresumed.state, hpresumed.installing, hpresumed.plans,
        Or.inr (rowsReady_iff.mpr ⟨hpresumed.rows, hpresumed.ready⟩)⟩
    · obtain ⟨task, -, hinstall⟩ := hoverlooked.task
      have hderived := h.installing hoverlooked.paired hoverlooked.task
      rcases (derive_installing_iff hoverlooked.paired (List.ne_nil_of_mem hinstall.1)).mp hderived
        with hinstalling | hlingering
      · rw [hoverlooked.installing] at hinstalling
        cases hinstalling
      · exact hoverlooked.lingering hlingering
  · rintro ⟨hpresumed, hoverlooked⟩
    refine ⟨fun hcomplete harness hselected => ?_, fun hpaired htask => ?_, derive_stable⟩
    · obtain ⟨hpaired, hstate, hinstalling, hplans, hnone | hready⟩ :=
        derive_complete_iff.mp hcomplete
      · rw [hnone] at hselected
        cases hselected
      · obtain ⟨hrows, hready⟩ := rowsReady_iff.mp hready
        by_contra hunready
        exact hpresumed ⟨hpaired, hstate, hinstalling, hplans, hrows, hready, harness, hselected,
          hunready⟩
    · obtain ⟨task, -, hinstall⟩ := id htask
      rw [derive_installing_iff hpaired (List.ne_nil_of_mem hinstall.1)]
      by_contra hnone
      obtain ⟨hinstalling, hlingering⟩ := not_or.mp hnone
      exact hoverlooked ⟨hpaired, by simpa using hinstalling, hlingering, htask⟩

-- Two selected connectors, of which one has a row, and a stored COMPLETE.
theorem partial_complete : ¬WizardSound
    { nodeId := some "n", state := .complete, selectedHarnesses := ["claude", "codex"] }
    { readiness := [⟨"claude", .ready⟩] } := by
  intro h
  obtain ⟨⟨row, hrow, hname⟩, -⟩ := h.complete (by decide) "codex" (by simp)
  rw [List.mem_singleton.mp hrow] at hname
  exact absurd hname (by decide)

end Soundness

end JoyMesh.Control
