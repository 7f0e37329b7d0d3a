import JoyMesh.Harnesses.Service
import JoyMesh.Harnesses.TaskDelivery

namespace JoyMesh.Harnesses

open JoyMesh.Library JoyMesh.Routing

namespace Router

variable {request : RoutePreviewRequest} {reading : RouterReading} {registry : HarnessRegistry}
  {found : List RouteCandidate} {item : RouteCandidate}

theorem mem_candidates (h : candidates request reading registry = .ok found)
    (hitem : item ∈ found) : ∃ adapter maturity, ∃ profile ∈ profiles reading adapter,
      item = candidate request reading adapter maturity profile := by
  obtain ⟨lists, hlists, h⟩ := bind_eq_ok.mp h
  cases h
  obtain ⟨list, hlist, hitem⟩ := List.mem_flatten.mp hitem
  obtain ⟨adapter, -, hadapter⟩ := mem_of_mapM_ok hlists hlist
  obtain ⟨definition, -, hadapter⟩ := bind_eq_ok.mp hadapter
  cases hadapter
  obtain ⟨profile, hprofile, rfl⟩ := List.mem_map.mp hitem
  exact ⟨adapter, definition.maturity, profile, hprofile, rfl⟩

-- An eligible candidate has a subscription.
theorem eligible_funded (h : candidates request reading registry = .ok found)
    (hitem : item ∈ found) (heligible : item.eligible = true) :
    ∃ profile ∈ reading.subscriptions, item.subscriptionId = some profile.id := by
  obtain ⟨adapter, maturity, profile, hprofile, rfl⟩ := mem_candidates h hitem
  have heligible : eligible request reading adapter profile = true := heligible
  simp only [eligible, Bool.and_eq_true] at heligible
  have hfundable : fundable request profile = true := heligible.1.2
  cases profile with
  | none => cases hfundable
  | some profile =>
      refine ⟨profile, ?_, rfl⟩
      unfold profiles at hprofile
      split at hprofile
      · cases List.mem_singleton.mp hprofile
      · obtain ⟨other, hother, heq⟩ := List.mem_map.mp hprofile
        cases heq
        exact List.mem_of_mem_filter hother

-- An eligible candidate is on the allowlist, where there is one.
theorem eligible_allowed (h : candidates request reading registry = .ok found)
    (hitem : item ∈ found) (heligible : item.eligible = true)
    (hallowed : request.allowedHarnesses ≠ ∅) : item.harnessId ∈ request.allowedHarnesses := by
  obtain ⟨adapter, maturity, profile, -, rfl⟩ := mem_candidates h hitem
  have heligible : eligible request reading adapter profile = true := heligible
  simp only [eligible, Bool.and_eq_true, Bool.or_eq_true, decide_eq_true_eq] at heligible
  obtain ⟨⟨⟨⟨-, hmem⟩, -⟩, -⟩, -⟩ := heligible.1
  exact hmem.resolve_left hallowed

theorem sortKey_harness {first second : RouteCandidate} (h : sortKey first = sortKey second) :
    first.harnessId = second.harnessId := by
  simp only [sortKey, toLex_inj, Prod.mk.injEq] at h
  exact h.2.2.1

end Router

namespace JoyMeshService

section Definitions

variable (registry : HarnessRegistry) (reading : RunReading) (request : RunRequest)
  (harness : String)

-- A call of run without a route starts its run on the harness that was resolved for it, and
-- without an override on an enabled one.
def Unsubstituted : Prop :=
  ∀ started, runResolved registry reading request harness = .ok started →
    ∃ resolved, resolution registry reading request harness = .ok resolved ∧
      started.harnessId = resolved.harnessId ∧
        (given (override registry harness) = none → reading.prefs.enabled ≠ [] →
          started.harnessId ∈ reading.prefs.enabled)

-- The checks of start_run before it makes a run on a harness.
def Admitted (harnessId : String) : Prop :=
  ∃ workspace, reading.launchWorkspace request.workspace = .ok workspace ∧
    checkStart registry reading.launch request harnessId false = .ok ()

-- Each eligible candidate of another harness has one before it that is of the resolved
-- harness, or that the start refuses.
def Undisplaced : Prop :=
  ∀ resolved preview, resolution registry reading request harness = .ok resolved →
    previewRoutes registry reading.previewWorkspace reading.router request
        (some resolved.harnessId) = .ok preview →
      ∀ item ∈ preview.2, item.eligible = true →
        ¬(item.harnessId = resolved.harnessId ∨
          ¬Admitted registry reading request item.harnessId) →
            ∃ other ∈ preview.2, other.eligible = true ∧
              Router.sortKey other < Router.sortKey item ∧
                (other.harnessId = resolved.harnessId ∨
                  ¬Admitted registry reading request other.harnessId)

end Definitions

variable {registry : HarnessRegistry} {reading : RunReading} {request : RunRequest}
  {harness : String} {resolved : HarnessResolution} {route : RouteCandidate}
  {preview : Option RouteCandidate × List RouteCandidate} {preferred : Option String}
  {started : StartedRun}

theorem resolution_enabled (h : resolution registry reading request harness = .ok resolved)
    (henabled : reading.prefs.enabled ≠ []) : resolved.harnessId ∈ reading.prefs.enabled := by
  obtain ⟨detected, -, h⟩ := bind_eq_ok.mp h
  have hready := resolveHarness_ready (mapError_eq_ok.mp h)
  obtain ⟨-, hfilter⟩ := List.mem_filter.mp hready
  simp only [Bool.and_eq_true, Bool.or_eq_true, List.isEmpty_iff, List.contains_eq_mem,
    decide_eq_true_eq] at hfilter
  exact hfilter.2.resolve_left henabled

theorem previewRoutes_ok {resolveWorkspace : String → Except PyError String}
    {router : RouterReading}
    (h : previewRoutes registry resolveWorkspace router request preferred = .ok preview) :
    ∃ found,
      preview = (leading Router.sortKey RouteCandidate.eligible found,
        ranked Router.sortKey found) ∧
      (request.allowedHarnesses ≠ ∅ → ∀ item ∈ found, item.eligible = true →
        item.harnessId ∈ request.allowedHarnesses) ∧
      ∀ item ∈ found, item.eligible = true →
        ∃ profile ∈ router.subscriptions, item.subscriptionId = some profile.id := by
  obtain ⟨workspace, -, h⟩ := bind_eq_ok.mp h
  obtain ⟨detected, -, h⟩ := bind_eq_ok.mp h
  obtain ⟨found, hfound, h⟩ := bind_eq_ok.mp (mapError_eq_ok.mp h)
  cases h
  refine ⟨found, rfl, ?_, fun item hitem heligible => Router.eligible_funded hfound hitem heligible⟩
  exact fun hallowed item hitem heligible =>
    Router.eligible_allowed hfound hitem heligible hallowed

theorem resolveRoute_ok_iff :
    resolveRoute registry reading request preferred = .ok route ↔
      ∃ preview, previewRoutes registry reading.previewWorkspace reading.router request preferred =
        .ok preview ∧ preview.1 = some route := by
  rw [resolveRoute, bind_eq_ok]
  refine exists_congr fun preview => and_congr_right fun _ => ?_
  cases preview.1 with
  | none => simp
  | some selected => simp [pure, Except.pure]

theorem startRun_started (heligible : route.eligible = true) :
    (∃ started, startRun registry reading.launch reading.launchWorkspace request route none none =
        .ok started) ↔ Admitted registry reading request route.harnessId := by
  simp only [startRun_ok_iff, heligible, true_and]
  constructor
  · rintro ⟨started, workspace, hworkspace, hcheck, -⟩
    exact ⟨workspace, hworkspace, hcheck⟩
  · rintro ⟨workspace, hworkspace, hcheck⟩
    exact ⟨_, workspace, hworkspace, hcheck, rfl⟩

theorem startRun_harness (h : startRun registry reading.launch reading.launchWorkspace request
    route none none = .ok started) : started.harnessId = route.harnessId := by
  obtain ⟨-, workspace, -, -, rfl⟩ := startRun_ok_iff.mp h
  rfl

theorem runResolved_overridden (h : (given (override registry harness)).isSome = true)
    (hstarted : runResolved registry reading request harness = .ok started) :
    ∃ resolved, resolution registry reading request harness = .ok resolved ∧
      started.harnessId = resolved.harnessId := by
  obtain ⟨resolved, hresolved, hstarted⟩ := bind_eq_ok.mp hstarted
  rw [if_pos h] at hstarted
  obtain ⟨-, -, hstarted⟩ := bind_eq_ok.mp hstarted
  obtain ⟨route, hroute, hstarted⟩ := bind_eq_ok.mp hstarted
  obtain ⟨preview, hpreview, hselected⟩ := resolveRoute_ok_iff.mp hroute
  obtain ⟨found, rfl, hallowed, -⟩ := previewRoutes_ok hpreview
  obtain ⟨heligible, hmem⟩ := leading_mem hselected
  have hlocked := hallowed (Finset.singleton_ne_empty _) route hmem heligible
  refine ⟨resolved, hresolved, ?_⟩
  rw [startRun_harness hstarted]
  exact Finset.mem_singleton.mp hlocked

-- Without an override the run starts on the route that leads the preview.
theorem runResolved_iff (h : (given (override registry harness)).isSome = false) :
    runResolved registry reading request harness = .ok started ↔
      ∃ resolved preview route, resolution registry reading request harness = .ok resolved ∧
        previewRoutes registry reading.previewWorkspace reading.router request
          (some resolved.harnessId) = .ok preview ∧
        preview.1 = some route ∧
        startRun registry reading.launch reading.launchWorkspace request route none none =
          .ok started := by
  rw [runResolved, bind_eq_ok]
  simp only [h, Bool.false_eq_true, if_false, bind_eq_ok, resolveRoute_ok_iff]
  constructor
  · rintro ⟨resolved, hresolved, route, ⟨preview, hpreview, hselected⟩, hstarted⟩
    exact ⟨resolved, preview, route, hresolved, hpreview, hselected, hstarted⟩
  · rintro ⟨resolved, preview, route, hresolved, hpreview, hselected, hstarted⟩
    exact ⟨resolved, hresolved, route, ⟨preview, hpreview, hselected⟩, hstarted⟩

theorem undisplaced_iff : Undisplaced registry reading request harness ↔
    ∀ resolved preview route, resolution registry reading request harness = .ok resolved →
      previewRoutes registry reading.previewWorkspace reading.router request
          (some resolved.harnessId) = .ok preview →
        preview.1 = some route → route.harnessId = resolved.harnessId ∨
          ¬Admitted registry reading request route.harnessId := by
  refine forall_congr' fun resolved => ?_
  have hleading : ∀ preview,
      previewRoutes registry reading.previewWorkspace reading.router request
          (some resolved.harnessId) = .ok preview →
        ((∀ route, preview.1 = some route → route.harnessId = resolved.harnessId ∨
            ¬Admitted registry reading request route.harnessId) ↔
          ∀ item ∈ preview.2, item.eligible = true →
            ¬(item.harnessId = resolved.harnessId ∨
              ¬Admitted registry reading request item.harnessId) →
                ∃ other ∈ preview.2, other.eligible = true ∧
                  Router.sortKey other < Router.sortKey item ∧
                    (other.harnessId = resolved.harnessId ∨
                      ¬Admitted registry reading request other.harnessId)) := by
    intro preview hpreview
    obtain ⟨found, rfl, -, -⟩ := previewRoutes_ok hpreview
    simp only [mem_ranked]
    refine leading_good_iff ?_
    intro first _ second _ hkey hgood
    rwa [Router.sortKey_harness hkey] at hgood
  constructor
  · intro h preview route hresolved hpreview
    exact (hleading preview hpreview).mpr (h preview hresolved hpreview) route
  · intro h preview hresolved hpreview
    exact (hleading preview hpreview).mp fun route => h preview route hresolved hpreview

theorem runResolved_unsubstituted_iff : Unsubstituted registry reading request harness ↔
    (given (override registry harness)).isSome = true ∨
      Undisplaced registry reading request harness := by
  cases hoverride : (given (override registry harness)).isSome with
  | true =>
      refine iff_of_true (fun started hstarted => ?_) (.inl rfl)
      obtain ⟨resolved, hresolved, hharness⟩ := runResolved_overridden hoverride hstarted
      refine ⟨resolved, hresolved, hharness, fun hnone => ?_⟩
      simp [hnone] at hoverride
  | false =>
      simp only [Bool.false_eq_true, false_or, undisplaced_iff]
      constructor
      · intro h resolved preview route hresolved hpreview hselected
        by_contra hdisplaced
        obtain ⟨hharness, hadmitted⟩ := not_or.mp hdisplaced
        obtain ⟨found, hfound, -, -⟩ := previewRoutes_ok hpreview
        have heligible : route.eligible = true := by
          rw [hfound] at hselected
          exact (leading_mem hselected).1
        obtain ⟨started, hstarted⟩ := (startRun_started heligible).mpr (not_not.mp hadmitted)
        obtain ⟨other, hother, hsame, -⟩ := h started
          ((runResolved_iff hoverride).mpr ⟨resolved, preview, route, hresolved, hpreview, hselected,
            hstarted⟩)
        obtain rfl := Except.ok.inj (hresolved.symm.trans hother)
        exact hharness ((startRun_harness hstarted).symm.trans hsame)
      · intro h started hstarted
        obtain ⟨resolved, preview, route, hresolved, hpreview, hselected, hstarted⟩ :=
          (runResolved_iff hoverride).mp hstarted
        have heligible := (startRun_ok_iff.mp hstarted).1
        have hadmitted := (startRun_started heligible).mp ⟨started, hstarted⟩
        have hharness : started.harnessId = resolved.harnessId :=
          (startRun_harness hstarted).trans
            ((h resolved preview route hresolved hpreview hselected).resolve_right
              (not_not.mpr hadmitted))
        refine ⟨resolved, hresolved, hharness, fun _ henabled => ?_⟩
        rw [hharness]
        exact resolution_enabled hresolved henabled

variable {machine : Machine} {lower : String → String} {access : String → Bool}

-- A run that is called without a route keeps to the resolved harness exactly where it is
-- overridden, or where nothing that could start is ranked before that harness.
theorem run_unsubstituted_iff :
    (∀ customized, applyCustomHarnesses machine lower access registry reading.prefs =
        .ok customized →
      ∀ started, run registry reading machine lower access none request harness = .ok started →
        ∃ resolved, resolution customized reading request harness = .ok resolved ∧
          started.harnessId = resolved.harnessId ∧
            (given (override customized harness) = none → reading.prefs.enabled ≠ [] →
              started.harnessId ∈ reading.prefs.enabled)) ↔
      ∀ customized, applyCustomHarnesses machine lower access registry reading.prefs =
          .ok customized →
        (given (override customized harness)).isSome = true ∨
          Undisplaced customized reading request harness := by
  refine forall_congr' fun customized => imp_congr_right fun hcustomized => ?_
  rw [← runResolved_unsubstituted_iff, Unsubstituted]
  have hrun : run registry reading machine lower access none request harness =
      runResolved customized reading request harness := by
    rw [run, hcustomized]
    rfl
  rw [hrun]

def twoHarnesses : HarnessRegistry where
  definitions := [⟨"codex", [], .stable⟩, ⟨"opencode", [], .stable⟩]
  aliases := [("codex", "codex"), ("opencode", "opencode")]
  adapters := [⟨"codex", ∅, 4, true⟩, ⟨"opencode", ∅, 4, true⟩]

-- The one enabled harness is ready but at its rate limit.
def codexLimited : RunReading where
  prefs := { enabled := ["codex"], default := some "codex" }
  detected := fun _ => true
  previewWorkspace := .ok
  router := {
    available := fun _ => true
    subscriptions := [{ id := "s1", harnessId := "codex" }, { id := "s2", harnessId := "opencode" }]
    quota := some fun harnessId =>
      if harnessId = "codex" then ⟨.rateLimited, .blocked⟩ else ⟨.ready, .available⟩
    activeCount := fun _ _ => 0 }
  launchWorkspace := .ok
  launch := {
    now := 0
    refreshed := fun harnessId => .ok (if harnessId = "codex" then .rateLimited else .ready)
    cached := fun _ => .ok .ready }

theorem disabled_harness_started :
    (resolution twoHarnesses codexLimited Adapter.fixRequest "auto").toOption =
        some ⟨"codex", "configured_default"⟩ ∧
      (run twoHarnesses codexLimited Adapter.linuxMachine id (fun _ => false) none
        Adapter.fixRequest).toOption.map StartedRun.harnessId = some "opencode" ∧
      codexLimited.prefs.enabled = ["codex"] := by
  decide +kernel

end JoyMeshService

end JoyMesh.Harnesses
