import JoyMesh.Harnesses.Selection

namespace JoyMesh.Harnesses

open JoyMesh.Routing

-- A call of resolve_harness.
structure Resolving where
  prefs : HarnessPreferences
  readyEnabled : List String
  override : Option String := none
  preferred : Option String := none
  interactive : Bool := false
  promptFn : Option (List String → String) := none
  allowDisabledOverride : Bool := false
  allowTestHarnesses : Bool := false
  knownIds : List String := []

namespace Resolving

variable (call : Resolving)

def resolve : Except HarnessSelectionError HarnessResolution :=
  resolveHarness call.prefs call.allowDisabledOverride call.allowTestHarnesses call.readyEnabled
    call.override call.preferred call.interactive call.promptFn call.knownIds

def ready : List String :=
  if call.allowTestHarnesses then call.readyEnabled
  else call.readyEnabled.filter fun item => !removedProductionHarnessIds.contains item

def known : List String :=
  call.knownIds ++ call.ready ++ call.prefs.enabled ++ call.prefs.custom.map Prod.fst

def enabledReady : List String :=
  call.ready.filter fun item => call.prefs.enabled.isEmpty || call.prefs.enabled.contains item

-- The harness that is named outright: the override, else the preferred one, else the default.
def named : Option String :=
  (given call.override).or ((given call.preferred).or (given call.prefs.default))

-- Without a name, the only enabled ready harness or what the user picks of several.
def picked : Option String :=
  match call.enabledReady with
  | [] => none
  | [single] => some single
  | several => if call.interactive then call.promptFn.map fun prompt => prompt several else none

def wanted : Option String := call.named.or call.picked

def Enabled (harnessId : String) : Prop :=
  call.prefs.enabled ≠ [] → harnessId ∈ call.prefs.enabled

instance (harnessId : String) : Decidable (call.Enabled harnessId) := by
  delta Enabled
  infer_instance

-- An override that may be a disabled harness.
def Overriding : Prop := (given call.override).isSome ∧ call.allowDisabledOverride

instance : Decidable call.Overriding := inferInstanceAs (Decidable (_ ∧ _))

-- What a resolution has to be, and where there has to be none.
structure Sound : Prop where
  ready : ∀ resolution, call.resolve = .ok resolution → resolution.harnessId ∈ call.readyEnabled
  kept : ∀ resolution, call.resolve = .ok resolution → call.allowTestHarnesses = false →
    resolution.harnessId ∉ removedProductionHarnessIds
  enabled : ∀ resolution, call.resolve = .ok resolution → ¬call.Overriding →
    call.Enabled resolution.harnessId
  precedence : ∀ resolution, call.resolve = .ok resolution →
    call.wanted = some resolution.harnessId
  refused : ∀ harnessId, given call.override = none → call.named = some harnessId →
    harnessId ∉ call.readyEnabled ∨ ¬call.Enabled harnessId → ∃ error, call.resolve = .error error

-- With the permission for a disabled override, but without an override, the harness that is
-- wanted is enabled or not ready.
def Disciplined : Prop :=
  call.allowDisabledOverride = true → given call.override = none → ∀ harnessId,
    call.wanted = some harnessId → call.Enabled harnessId ∨ harnessId ∉ call.ready

variable {call : Resolving} {harnessId chosen : String} {requireEnabled : Bool}
  {resolution : HarnessResolution}

section Sources

theorem mem_known_of_ready (h : harnessId ∈ call.ready) : harnessId ∈ call.known := by
  simp [known, h]

theorem ready_kept (h : harnessId ∈ call.ready) (htest : call.allowTestHarnesses = false) :
    harnessId ∉ removedProductionHarnessIds := by
  rw [ready, htest, if_neg Bool.false_ne_true] at h
  simpa using (List.mem_filter.mp h).2

theorem mem_readyEnabled (h : harnessId ∈ call.ready) : harnessId ∈ call.readyEnabled := by
  unfold ready at h
  split at h
  · exact h
  · exact List.mem_of_mem_filter h

theorem mem_enabledReady : harnessId ∈ call.enabledReady ↔
    harnessId ∈ call.ready ∧ call.Enabled harnessId := by
  rw [enabledReady, List.mem_filter, Enabled]
  refine and_congr_right fun _ => ?_
  cases call.prefs.enabled with
  | nil => simp
  | cons first rest => simp

-- The same check stands behind every named or picked harness.
theorem validate_iff : validateHarness call.prefs call.ready call.known
    call.allowDisabledOverride call.allowTestHarnesses harnessId requireEnabled = .ok chosen ↔
      chosen = harnessId ∧ harnessId ∈ call.ready ∧
        (requireEnabled = true → call.Enabled harnessId ∨ call.allowDisabledOverride = true) := by
  unfold validateHarness
  constructor
  · intro h
    split_ifs at h with hremoved hunknown hdisabled hready
    cases h
    refine ⟨rfl, hready, fun hrequire => ?_⟩
    by_cases hallow : call.allowDisabledOverride = true
    · exact .inr hallow
    · exact .inl fun hne => by_contra fun hnot => hdisabled ⟨hrequire, hne, hnot, hallow⟩
  · rintro ⟨rfl, hready, henabled⟩
    have hremoved : ¬(removedProductionHarnessIds.contains chosen ∧ ¬call.allowTestHarnesses) := by
      rintro ⟨hremoved, htest⟩
      exact ready_kept hready (by simpa using htest) (by simpa using hremoved)
    have hunknown : ¬(call.known ≠ [] ∧ chosen ∉ call.known ∧
        chosen ∉ call.prefs.custom.map Prod.fst) := fun h => h.2.1 (mem_known_of_ready hready)
    have hdisabled : ¬(requireEnabled = true ∧ call.prefs.enabled ≠ [] ∧
        chosen ∉ call.prefs.enabled ∧ ¬call.allowDisabledOverride = true) := by
      rintro ⟨hrequire, hne, hnot, hallow⟩
      rcases henabled hrequire with henabled | hpermitted
      · exact hnot (henabled hne)
      · exact hallow hpermitted
    rw [if_neg hremoved, if_neg hunknown, if_neg hdisabled, if_neg (not_not.mpr hready)]

-- The check of a harness that is wanted, and the resolution made of it.
theorem validated_iff {reason : String} : (do
      let chosen ← validateHarness call.prefs call.ready call.known call.allowDisabledOverride
        call.allowTestHarnesses harnessId requireEnabled
      return (⟨chosen, reason⟩ : HarnessResolution)) = .ok resolution ↔
    resolution = ⟨harnessId, reason⟩ ∧ harnessId ∈ call.ready ∧
      (requireEnabled = true → call.Enabled harnessId ∨ call.allowDisabledOverride = true) := by
  constructor
  · intro h
    obtain ⟨chosen, hchosen, hreturn⟩ := bind_eq_ok.mp h
    obtain ⟨rfl, hrest⟩ := validate_iff.mp hchosen
    cases hreturn
    exact ⟨rfl, hrest⟩
  · rintro ⟨rfl, hrest⟩
    rw [validate_iff.mpr ⟨rfl, hrest⟩]
    rfl

end Sources

section Outcome

-- Whatever is resolved is wanted, ready, and enabled unless the permission was given.
theorem wanted_of_resolve (h : call.resolve = .ok resolution) :
    call.wanted = some resolution.harnessId ∧ resolution.harnessId ∈ call.ready ∧
      (call.Enabled resolution.harnessId ∨ call.allowDisabledOverride = true) := by
  have hresolve : resolveHarness call.prefs call.allowDisabledOverride call.allowTestHarnesses
    call.readyEnabled call.override call.preferred call.interactive call.promptFn
    call.knownIds = .ok resolution := h
  unfold resolveHarness at hresolve
  dsimp only at hresolve
  rw [show (if call.allowTestHarnesses = true then call.readyEnabled else _) = call.ready from rfl,
    show call.knownIds ++ call.ready ++ call.prefs.enabled ++ call.prefs.custom.map Prod.fst =
      call.known from rfl] at hresolve
  unfold wanted named
  split at hresolve
  case h_1 override hgiven =>
    obtain ⟨rfl, hready, henabled⟩ := validated_iff.mp hresolve
    refine ⟨by rw [hgiven]; rfl, hready, ?_⟩
    cases hallow : call.allowDisabledOverride with
    | true => exact .inr rfl
    | false => exact .inl ((henabled (by simp [hallow])).resolve_right (by simp [hallow]))
  case h_2 preferred hnone hgiven =>
    obtain ⟨rfl, hready, henabled⟩ := validated_iff.mp hresolve
    exact ⟨by rw [hnone, hgiven]; rfl, hready, henabled rfl⟩
  case h_3 hnone hnone' =>
    split_ifs at hresolve with hselect
    split at hresolve
    case h_1 default hgiven =>
      obtain ⟨rfl, hready, henabled⟩ := validated_iff.mp hresolve
      exact ⟨by rw [hnone, hnone', hgiven]; rfl, hready, henabled rfl⟩
    case h_2 hdefault =>
      rw [hnone, hnone', hdefault]
      unfold selectReady at hresolve
      rw [show call.ready.filter _ = call.enabledReady from rfl] at hresolve
      simp only [Option.none_or, picked]
      cases hlist : call.enabledReady with
      | nil =>
          rw [hlist] at hresolve
          cases hresolve
      | cons single rest =>
          rw [hlist] at hresolve
          cases rest with
          | nil =>
              cases hresolve
              have hmem : single ∈ call.enabledReady := hlist ▸ List.mem_singleton_self single
              exact ⟨rfl, (mem_enabledReady.mp hmem).1, .inl (mem_enabledReady.mp hmem).2⟩
          | cons second rest =>
              simp only at hresolve
              split at hresolve
              case h_1 prompt hinteractive hprompt =>
                obtain ⟨rfl, hready, henabled⟩ := validated_iff.mp hresolve
                refine ⟨?_, hready, henabled rfl⟩
                rw [hinteractive, hprompt]
                rfl
              case h_2 => cases hresolve

-- A name decides before anything else is looked at.
theorem resolve_of_named (hoverride : given call.override = none)
    (h : call.named = some harnessId) (hready : harnessId ∈ call.ready)
    (hallow : call.allowDisabledOverride = true) :
    ∃ reason, call.resolve = .ok ⟨harnessId, reason⟩ := by
  have hvalidated : ∀ reason : String, _ := fun reason => (@validated_iff call harnessId true
    ⟨harnessId, reason⟩ reason).mpr ⟨rfl, hready, fun _ => .inr hallow⟩
  rw [named, hoverride, Option.none_or] at h
  unfold resolve resolveHarness
  dsimp only
  rw [show (if call.allowTestHarnesses = true then call.readyEnabled else _) = call.ready from rfl,
    show call.knownIds ++ call.ready ++ call.prefs.enabled ++ call.prefs.custom.map Prod.fst =
      call.known from rfl, hoverride]
  cases hpreferred : given call.preferred with
  | some preferred =>
      rw [hpreferred] at h
      obtain rfl : preferred = harnessId := Option.some.inj h
      exact ⟨_, hvalidated _⟩
  | none =>
      rw [hpreferred, Option.none_or] at h
      have hdefault : call.prefs.default ≠ none := fun hnone => by
        rw [hnone] at h
        cases h
      dsimp only
      rw [if_neg fun hselect => hdefault hselect.2.1, h]
      exact ⟨_, hvalidated _⟩

theorem resolve_of_picked (hoverride : given call.override = none) (hnamed : call.named = none)
    (h : call.picked = some harnessId) (hready : harnessId ∈ call.ready)
    (hdisabled : ¬call.Enabled harnessId) (hallow : call.allowDisabledOverride = true) :
    ∃ reason, call.resolve = .ok ⟨harnessId, reason⟩ := by
  obtain ⟨-, hrest⟩ := Option.or_eq_none_iff.mp hnamed
  obtain ⟨hpreferred, hdefault⟩ := Option.or_eq_none_iff.mp hrest
  unfold picked at h
  split at h
  case h_1 => cases h
  case h_2 single hsingle =>
    obtain rfl := Option.some.inj h
    have hmem : single ∈ call.enabledReady := hsingle ▸ List.mem_singleton_self single
    exact absurd (mem_enabledReady.mp hmem).2 hdisabled
  case h_3 hnil hsingle =>
    split_ifs at h with hinteractive
    obtain ⟨prompt, hprompt, rfl⟩ := Option.map_eq_some_iff.mp h
    refine ⟨"interactive_selection", ?_⟩
    unfold resolve resolveHarness
    dsimp only
    rw [show (if call.allowTestHarnesses = true then call.readyEnabled else _) = call.ready from rfl,
      show call.knownIds ++ call.ready ++ call.prefs.enabled ++ call.prefs.custom.map Prod.fst =
        call.known from rfl, hoverride, hpreferred]
    dsimp only
    rw [if_neg fun hselect => hselect.2.2 hinteractive, hdefault]
    dsimp only
    unfold selectReady
    rw [show call.ready.filter _ = call.enabledReady from rfl]
    split
    · exact absurd ‹_› hnil
    · exact absurd ‹_› (hsingle _)
    · rw [hinteractive, hprompt]
      exact validated_iff.mpr ⟨rfl, hready, fun _ => .inr hallow⟩

end Outcome

theorem sound_iff : call.Sound ↔ call.Disciplined := by
  constructor
  · intro hsound hallow hoverride harnessId hwanted
    by_contra hnot
    obtain ⟨hdisabled, hready⟩ := not_or.mp hnot
    have hresolved : ∃ reason, call.resolve = .ok ⟨harnessId, reason⟩ := by
      rcases Option.or_eq_some_iff.mp hwanted with hnamed | ⟨hnamed, hpicked⟩
      · exact resolve_of_named hoverride hnamed (not_not.mp hready) hallow
      · exact resolve_of_picked hoverride hnamed hpicked (not_not.mp hready) hdisabled hallow
    obtain ⟨reason, hresolve⟩ := hresolved
    exact hdisabled (hsound.enabled _ hresolve fun h => by simp [Overriding, hoverride] at h)
  · intro hdisciplined
    -- only a call with an override resolves to a disabled harness
    have henabled : ∀ resolution, call.resolve = .ok resolution → ¬call.Overriding →
        call.Enabled resolution.harnessId := by
      intro resolution hresolve hover
      obtain ⟨hwanted, hready, henabled | hallow⟩ := wanted_of_resolve hresolve
      · exact henabled
      · have hnone : given call.override = none := by
          cases hgiven : given call.override with
          | none => rfl
          | some override => exact absurd ⟨by rw [hgiven]; rfl, hallow⟩ hover
        exact (hdisciplined hallow hnone _ hwanted).resolve_right (not_not.mpr hready)
    refine ⟨fun _ h => mem_readyEnabled (wanted_of_resolve h).2.1,
      fun _ h => ready_kept (wanted_of_resolve h).2.1, henabled,
      fun _ h => (wanted_of_resolve h).1, fun harnessId hnone hnamed hunfit => ?_⟩
    cases hresolve : call.resolve with
    | error error => exact ⟨error, rfl⟩
    | ok resolution =>
        obtain ⟨hwanted, hready, -⟩ := wanted_of_resolve hresolve
        rw [wanted, hnamed, Option.some_or] at hwanted
        obtain rfl := Option.some.inj hwanted
        rcases hunfit with hmissing | hdisabled
        · exact absurd (mem_readyEnabled hready) hmissing
        · exact absurd (henabled _ hresolve fun h => by simp [Overriding, hnone] at h) hdisabled

-- The preferred harness is disabled, and nobody overrides anything.
def disabledPreferred : Resolving where
  prefs := { enabled := ["codex"], default := some "codex" }
  readyEnabled := ["codex", "opencode"]
  preferred := some "opencode"
  allowDisabledOverride := true

theorem disabled_preferred_resolved :
    disabledPreferred.resolve = .ok ⟨"opencode", "preferred_harness"⟩ ∧
      ¬disabledPreferred.Enabled "opencode" ∧ ¬disabledPreferred.Sound := by
  refine ⟨by decide, by decide, fun h => ?_⟩
  have henabled := h.enabled ⟨"opencode", "preferred_harness"⟩ (by decide) (by decide)
  exact absurd henabled (by decide)

end Resolving

end JoyMesh.Harnesses
