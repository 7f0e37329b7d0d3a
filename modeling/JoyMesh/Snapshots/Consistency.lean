import Mathlib.Algebra.Order.BigOperators.Group.List
import Mathlib.Data.Nat.Cast.Order.Ring
import JoyMesh.Snapshots.Service

namespace JoyMesh.Snapshots

open JoyMesh.Library JoyMesh.Routing JoyMesh.Harnesses

section Statistics

-- The statistics of a harness after some executions and starts.
inductive Gathered (maxSamples : Nat) : HarnessStats → Prop where
  | initial : Gathered maxSamples {}
  | recorded {stats : HarnessStats} (now : Datetime) (execution : Execution)
      (h : Gathered maxSamples stats) :
      Gathered maxSamples (stats.recordExecution maxSamples now execution)
  | marked {stats : HarnessStats} (delta : Int) (h : Gathered maxSamples stats) :
      Gathered maxSamples (stats.markRunning delta)

-- Nothing that is counted or measured is negative.
structure HarnessStats.Counted (stats : HarnessStats) : Prop where
  input : 0 ≤ stats.inputTokens
  output : 0 ≤ stats.outputTokens
  executions : 0 ≤ stats.executionCount
  durations : ∀ duration ∈ stats.durationsMs, 0 ≤ duration

variable {stats : HarnessStats} {maxSamples : Nat}

theorem Gathered.counted (h : Gathered maxSamples stats) : stats.Counted := by
  induction h with
  | initial => exact ⟨le_refl _, le_refl _, le_refl _, fun _ hm => nomatch hm⟩
  | @recorded stats now execution _ ih =>
      have hinput := ih.input
      have houtput := ih.output
      have hexecutions := ih.executions
      refine ⟨?_, ?_, ?_, ?_⟩ <;> simp only [HarnessStats.recordExecution]
      · omega
      · omega
      · omega
      · intro duration hduration
        split at hduration
        case h_1 measured _ =>
          split_ifs at hduration with hpositive
          · rcases List.mem_append.mp (List.mem_of_mem_drop hduration) with hold | hnew
            · exact ih.durations duration hold
            · exact List.mem_singleton.mp hnew ▸ hpositive
          · exact ih.durations duration hduration
        case h_2 => exact ih.durations duration hduration
  | marked delta _ ih => exact ⟨ih.input, ih.output, ih.executions, ih.durations⟩

theorem HarnessStats.Counted.average (h : stats.Counted) : ∀ value ∈ stats.average, 0 ≤ value := by
  intro value hvalue
  unfold HarnessStats.average at hvalue
  split_ifs at hvalue with hempty
  · cases hvalue
  · obtain rfl := Option.some.inj hvalue
    exact div_nonneg (List.sum_nonneg h.durations) (Nat.cast_nonneg _)

theorem HarnessStats.Counted.last (h : stats.Counted) :
    ∀ value ∈ stats.latency.lastMs, 0 ≤ value :=
  fun value hvalue => h.durations value (List.mem_of_getLast? hvalue)

theorem HarnessStats.Counted.p95 (h : stats.Counted) :
    ∀ value ∈ stats.latency.p95Ms, 0 ≤ value := by
  intro value hvalue
  have hmem : value ∈ stats.durationsMs.insertionSort (· ≤ ·) := List.mem_of_getElem? hvalue
  exact h.durations value ((List.mem_insertionSort _).mp hmem)

theorem refuse_bind_ok {wrong : Bool} {text : String} {next : Except PyError Unit} :
    (refuse wrong text >>= fun _ => next) = .ok () ↔ wrong = false ∧ next = .ok () := by
  cases wrong <;> simp [refuse, invalid, bind, Except.bind]

theorem refuse_ok {wrong : Bool} {text : String} : refuse wrong text = .ok () ↔ wrong = false := by
  cases wrong <;> simp [refuse, invalid]

theorem not_negative {value : Option ℚ} (h : ∀ x ∈ value, 0 ≤ x) : value.any (· < 0) = false := by
  cases value with
  | none => rfl
  | some x => simpa using h x rfl

-- An entry is refused for its name or for what it says of the login and the configuration.
theorem validateHarnessEntry_iff {setup : Setup} {quota : QuotaSnapshot} (h : stats.Counted) :
    validateHarnessEntry (harnessEntry setup quota.harnessId quota stats) = .ok () ↔
      quota.harnessId ≠ "" ∧
      (quota.availability = .authenticationRequired → quota.authenticated = false) ∧
      (quota.availability = .configurationRequired → quota.configured = false) := by
  have hinput := h.input
  have houtput := h.output
  have htotal : 0 ≤ stats.inputTokens + stats.outputTokens := Int.add_nonneg hinput houtput
  have hexecutions := h.executions
  have haverage := not_negative h.average
  have hlast := not_negative h.last
  have hp95 := not_negative h.p95
  have hlatency : stats.latency.averageMs = stats.average := rfl
  unfold validateHarnessEntry
  simp only [refuse_bind_ok, refuse_ok, decide_eq_false_iff_not, Bool.and_eq_false_imp,
    decide_eq_true_eq, not_lt, not_not]
  simp only [harnessEntry, HarnessStats.usage, hlatency, haverage, hlast, hp95, hinput, houtput,
    htotal, hexecutions, true_and, and_true, ne_eq]

end Statistics

section Consistency

variable (setup : Setup)

-- What the fields of a snapshot say of each other, and of the entry that is made of it.
structure QuotaSnapshot.Consistent (quota : QuotaSnapshot) : Prop where
  ready : quota.availability = .ready → (quota.state = .available ∨ quota.state = .low) ∧
    quota.authenticated = true ∧ quota.configured = true ∧
    ¬(quota.creditsRemaining = some 0 ∨ quota.requestsRemaining = some 0)
  blocked : quota.availability ∈ autoBlockedAvailabilities →
    quota.state = .blocked ∨ quota.state = .exhausted
  valid : ∀ stats, Gathered setup.maxSamples stats →
    validateHarnessEntry (harnessEntry setup quota.harnessId quota stats) = .ok ()

-- An outcome, and the time at which it is observed.
abbrev Observed := Datetime × Observation

def observe (quota : QuotaSnapshot) (outcome : Observed) : Unit × QuotaSnapshot :=
  ((), applyObservation setup.python outcome.1 quota outcome.2)

-- A success comes with something left, and a failure that says nothing of the harness comes
-- on a snapshot that agrees with what becomes of it.
def Observation.Fits (quota : QuotaSnapshot) (observation : Observation) : Prop :=
  quota.harnessId ≠ "" ∧
  (observation.success = true →
    quota.creditsRemaining ≠ some 0 ∧ quota.requestsRemaining ≠ some 0) ∧
  (observation.success = false → observation.failure setup.python = none →
    if contains (observation.lowered setup.python) "provider unavailable" then
      quota.state = .blocked ∨ quota.state = .exhausted
    else quota.Consistent setup)

variable {setup} {quota updated : QuotaSnapshot} {observation : Observation} {now : Datetime}

theorem consistent_iff : quota.Consistent setup ↔ quota.harnessId ≠ "" ∧
    (quota.availability = .ready → (quota.state = .available ∨ quota.state = .low) ∧
      quota.authenticated = true ∧ quota.configured = true ∧
      ¬(quota.creditsRemaining = some 0 ∨ quota.requestsRemaining = some 0)) ∧
    (quota.availability ∈ autoBlockedAvailabilities →
      quota.state = .blocked ∨ quota.state = .exhausted) ∧
    (quota.availability = .authenticationRequired → quota.authenticated = false) ∧
    (quota.availability = .configurationRequired → quota.configured = false) := by
  constructor
  · intro h
    have hinitial : Gathered setup.maxSamples {} := .initial
    obtain ⟨hid, hlogin, hconfiguration⟩ :=
      (validateHarnessEntry_iff hinitial.counted).mp (h.valid {} hinitial)
    exact ⟨hid, h.ready, h.blocked, hlogin, hconfiguration⟩
  · rintro ⟨hid, hready, hblocked, hlogin, hconfiguration⟩
    exact ⟨hready, hblocked, fun stats hstats =>
      (validateHarnessEntry_iff hstats.counted).mpr ⟨hid, hlogin, hconfiguration⟩⟩

theorem not_blocked_of_ready : HarnessAvailability.ready ∉ autoBlockedAvailabilities := by decide

-- Only the failures of four kinds are told.
theorem failure_cases {availability : HarnessAvailability}
    (h : observation.failure setup.python = some availability) :
    availability = .configurationRequired ∨ availability = .authenticationRequired ∨
      availability = .quotaExhausted ∨ availability = .rateLimited := by
  unfold Observation.failure at h
  split_ifs at h with hsuccess hmissing
  · exact .inl (Option.some.inj h).symm
  · split at h
    · exact .inr (.inl (Option.some.inj h).symm)
    · exact .inr (.inr (.inl (Option.some.inj h).symm))
    · exact .inr (.inr (.inr (Option.some.inj h).symm))
    · cases h

theorem applyObservation_harnessId :
    (applyObservation setup.python now quota observation).harnessId = quota.harnessId := by
  unfold applyObservation
  dsimp only
  cases observation.success with
  | true => rfl
  | false =>
      rw [if_neg Bool.false_ne_true]
      split <;> rfl

-- What one observation makes of a snapshot, whatever it was before.
theorem consistent_applyObservation_iff :
    (applyObservation setup.python now quota observation).Consistent setup ↔
      observation.Fits setup quota := by
  rw [consistent_iff, applyObservation_harnessId, Observation.Fits]
  refine and_congr_right fun hid => ?_
  unfold applyObservation
  dsimp only
  cases hsuccess : observation.success with
  | true =>
      simp [not_blocked_of_ready]
  | false =>
      simp only [Bool.false_eq_true, if_false, false_implies, true_and, true_implies]
      cases hfailure : observation.failure setup.python with
      | some availability =>
          rcases failure_cases hfailure with rfl | rfl | rfl | rfl <;>
            simp [autoBlockedAvailabilities]
      | none =>
          by_cases hprovider : contains (observation.lowered setup.python) "provider unavailable"
          · simp [hprovider, autoBlockedAvailabilities]
          · simp [hprovider, consistent_iff, hid]

-- After every observation of a run the snapshot is consistent exactly when each observation
-- fits the snapshot it is merged into.
theorem quota_consistent_iff (setup : Setup) (initial : QuotaSnapshot) (outcomes : List Observed) :
    PlayAlong (observe setup) (fun quota outcome => (observe setup quota outcome).2.Consistent setup)
        initial outcomes ↔
      PlayAlong (observe setup) (fun quota outcome => outcome.2.Fits setup quota) initial
        outcomes := by
  induction outcomes generalizing initial with
  | nil => exact Iff.rfl
  | cons outcome rest ih =>
      rw [PlayAlong, PlayAlong, ih]
      exact and_congr_left fun _ => consistent_applyObservation_iff

-- A quota that is used up stays used up when the harness is ready again.
def usedUp : List Observed :=
  [(⟨1, true⟩, { success := false, failureKind := some .quotaExhausted }),
    (⟨2, true⟩, { success := true })]

def unreachable : Observation :=
  { success := false, failureKind := some .process, detail := some "Provider unavailable" }

theorem ready_consistent : ready.Consistent twoProviders :=
  consistent_iff.mpr (by decide)

theorem used_up_inconsistent : ready.Consistent twoProviders ∧
    (play (observe twoProviders) ready usedUp).availability = .ready ∧
    (play (observe twoProviders) ready usedUp).creditsRemaining = some 0 ∧
    ¬(play (observe twoProviders) ready usedUp).Consistent twoProviders ∧
    ¬(observe twoProviders ready (⟨1, true⟩, unreachable)).2.Consistent twoProviders := by
  refine ⟨ready_consistent, by decide, by decide, fun h => ?_, fun h => ?_⟩
  · exact (h.ready (by decide)).2.2.2 (.inl (by decide))
  · exact absurd (h.blocked (by decide)) (by decide)

end Consistency

end JoyMesh.Snapshots
