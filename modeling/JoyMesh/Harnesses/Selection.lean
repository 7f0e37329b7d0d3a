import JoyMesh.Harnesses.Custom

namespace JoyMesh.Harnesses

open JoyMesh.Routing

section Definitions

-- The custom configs stand under the ids of the preferences file.
structure HarnessPreferences where
  enabled : List String := []
  default : Option String := none
  custom : List (String × CustomHarnessConfig) := []
  selectionRequired : Bool := false
deriving DecidableEq, Repr

structure HarnessSelectionError where
  code : String
  message : String
  remediation : Option String := none
deriving DecidableEq, Repr

structure HarnessResolution where
  harnessId : String
  reason : String
deriving DecidableEq, Repr

variable (prefs : HarnessPreferences) (ready known : List String)
  (allowDisabledOverride allowTestHarnesses : Bool)

def validateHarness (harnessId : String) (requireEnabled : Bool) :
    Except HarnessSelectionError String :=
  if removedProductionHarnessIds.contains harnessId ∧ ¬allowTestHarnesses then
    .error ⟨"harness_removed", "harness removed from production: " ++ harnessId,
      some "Run \x60joymesh harness select\x60 or add a custom harness."⟩
  else if known ≠ [] ∧ harnessId ∉ known ∧ harnessId ∉ prefs.custom.map Prod.fst then
    .error ⟨"unknown_harness", "unknown harness: " ++ harnessId, none⟩
  else if requireEnabled ∧ prefs.enabled ≠ [] ∧ harnessId ∉ prefs.enabled ∧
      ¬allowDisabledOverride then
    .error ⟨"harness_disabled", "harness is not enabled: " ++ harnessId,
      some "Enable it with \x60joymesh harness enable\x60."⟩
  else if harnessId ∉ ready then
    .error ⟨"harness_not_ready", "harness is not ready: " ++ harnessId,
      some "Run \x60joymesh harness doctor\x60 or validate a custom harness."⟩
  else .ok harnessId

-- The one ready harness, or the choice among several.
def selectReady (interactive : Bool) (promptFn : Option (List String → String)) :
    Except HarnessSelectionError HarnessResolution :=
  match ready.filter fun item => prefs.enabled.isEmpty || prefs.enabled.contains item with
  | [] => .error ⟨"no_ready_harness", "no ready harness available",
      some "Run \x60joymesh harness select\x60 or add a custom harness."⟩
  | [single] => .ok ⟨single, "single_enabled_ready"⟩
  | several =>
      match interactive, promptFn with
      | true, some prompt => do
          let chosen ← validateHarness prefs ready known allowDisabledOverride allowTestHarnesses
            (prompt several) true
          return ⟨chosen, "interactive_selection"⟩
      | _, _ => .error ⟨"harness_selection_required",
          "multiple ready harnesses enabled and no default configured",
          some ("Set a default with \x60joymesh harness default <id>\x60 or pass " ++
            "\x60--harness\x60.")⟩

-- explicit override, then the preferred harness, the default, and the single ready one
def resolveHarness (readyEnabled : List String) (override preferred : Option String)
    (interactive : Bool) (promptFn : Option (List String → String)) (knownIds : List String) :
    Except HarnessSelectionError HarnessResolution :=
  let ready := if allowTestHarnesses then readyEnabled
    else readyEnabled.filter fun item => !removedProductionHarnessIds.contains item
  let known := knownIds ++ ready ++ prefs.enabled ++ prefs.custom.map Prod.fst
  match given override, given preferred with
  | some override, _ => do
      let chosen ← validateHarness prefs ready known allowDisabledOverride allowTestHarnesses
        override (!allowDisabledOverride)
      return ⟨chosen, "per_run_override"⟩
  | none, some preferred => do
      let chosen ← validateHarness prefs ready known allowDisabledOverride allowTestHarnesses
        preferred true
      return ⟨chosen, "preferred_harness"⟩
  | none, none =>
      if prefs.selectionRequired ∧ prefs.default = none ∧ ¬interactive then
        .error ⟨"harness_selection_required",
          "harness selection required after legacy configuration migration",
          some "Run \x60joymesh harness select\x60."⟩
      else
        match given prefs.default with
        | some default => do
            let chosen ← validateHarness prefs ready known allowDisabledOverride
              allowTestHarnesses default true
            return ⟨chosen, "configured_default"⟩
        | none =>
            selectReady prefs ready known allowDisabledOverride allowTestHarnesses interactive
              promptFn

end Definitions

section Resolution

variable {prefs : HarnessPreferences} {ready known : List String} {harnessId chosen : String}
  {allowDisabledOverride allowTestHarnesses requireEnabled interactive : Bool}
  {promptFn : Option (List String → String)} {resolution : HarnessResolution}

theorem validateHarness_ok (h : validateHarness prefs ready known allowDisabledOverride
    allowTestHarnesses harnessId requireEnabled = .ok chosen) :
    chosen = harnessId ∧ chosen ∈ ready := by
  unfold validateHarness at h
  split_ifs at h with hremoved hunknown hdisabled hready
  cases h
  exact ⟨rfl, by simpa using hready⟩

theorem selectReady_ready (h : selectReady prefs ready known allowDisabledOverride
    allowTestHarnesses interactive promptFn = .ok resolution) : resolution.harnessId ∈ ready := by
  unfold selectReady at h
  split at h
  case h_1 => cases h
  case h_2 single hsingle =>
    cases h
    exact List.mem_of_mem_filter (hsingle ▸ List.mem_singleton_self single)
  case h_3 =>
    split at h
    · obtain ⟨chosen, hchosen, h⟩ := bind_eq_ok.mp h
      cases h
      exact (validateHarness_ok hchosen).2
    · cases h

-- Whatever is resolved is one of the harnesses that are ready.
theorem resolveHarness_ready {readyEnabled knownIds : List String}
    {override preferred : Option String}
    (h : resolveHarness prefs allowDisabledOverride allowTestHarnesses readyEnabled override
      preferred interactive promptFn knownIds = .ok resolution) :
    resolution.harnessId ∈ readyEnabled := by
  have hkept : ∀ {found : String}, found ∈ (if allowTestHarnesses then readyEnabled
      else readyEnabled.filter fun item => !removedProductionHarnessIds.contains item) →
        found ∈ readyEnabled := by
    intro found hfound
    split at hfound
    · exact hfound
    · exact List.mem_of_mem_filter hfound
  unfold resolveHarness at h
  dsimp only at h
  split at h
  case h_1 =>
    obtain ⟨chosen, hchosen, h⟩ := bind_eq_ok.mp h
    cases h
    exact hkept (validateHarness_ok hchosen).2
  case h_2 =>
    obtain ⟨chosen, hchosen, h⟩ := bind_eq_ok.mp h
    cases h
    exact hkept (validateHarness_ok hchosen).2
  case h_3 =>
    split at h
    · cases h
    · split at h
      · obtain ⟨chosen, hchosen, h⟩ := bind_eq_ok.mp h
        cases h
        exact hkept (validateHarness_ok hchosen).2
      · exact hkept (selectReady_ready h)

end Resolution

end JoyMesh.Harnesses
