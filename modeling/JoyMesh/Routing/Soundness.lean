import JoyMesh.Routing.Selection
import Mathlib.Data.Rat.Floor

namespace JoyMesh.Routing

namespace ExecutionRouter

variable {σ : Type} [Score σ] (router : ExecutionRouter σ) (intent : RoutedIntent σ)

-- A harness may use the backend: some enabled backend of that id passes the
-- filters, and it advertises provider routing where that is needed.
structure Compatible (harnessId backendId : String) : Prop where
  enabled : ∃ backend ∈ router.registry.enabled,
    backend.backendId = backendId ∧ router.admits intent harnessId backend = true
  advertises : providerNeeded intent = true →
    router.registry.Advertises backendId .providerRouting

structure Sound (decision : ExecutionDecision) : Prop where
  permitted : decision.selectedHarnessId ∉ (policy intent).deniedHarnesses ∧
    decision.selectedHarnessId ∉ intent.subscriptionConstraints.deniedHarnesses
  compatible : ∀ backendId ∈ decision.order,
    router.Compatible intent decision.selectedHarnessId backendId
  quota : ∀ backendId ∈ decision.order,
    Entitlements.refuses router.entitlements.quotaAllows backendId = false
  once : decision.order.Nodup

-- All of the listed backends have quota, and none but the selected one is
-- listed twice.
structure Clean (selected : String) (listed : List String) : Prop where
  quota : ∀ backendId ∈ listed,
    Entitlements.refuses router.entitlements.quotaAllows backendId = false
  once : (listed.filter (· ≠ selected)).Nodup

section Offers

variable {router : ExecutionRouter σ} {intent : RoutedIntent σ} {harnessId backendId : String}
  {items : List (RankedBackend σ)} {candidates : Candidates σ} {route : ScoredRoute σ}
  {settled : Settled σ}

omit [Score σ] in
theorem defaultFirst_perm (router : ExecutionRouter σ) (ranked : List (RankedBackend σ)) :
    (router.defaultFirst ranked).Perm ranked := by
  unfold defaultFirst
  cases router.registry.config.defaultBackend.filter (· ≠ "") with
  | none => exact List.Perm.refl ranked
  | some default =>
      dsimp only
      induction ranked with
      | nil => exact List.Perm.refl []
      | cons item items ih =>
          by_cases hitem : item.backendId = default
          · simp [hitem]
          · simp only [List.find?_cons, List.eraseP_cons, hitem, decide_false]
            exact List.perm_middle.trans (ih.cons item)

theorem mem_backendIds_rankBackends :
    backendId ∈ backendIds (router.rankBackends intent harnessId) ↔
      ∃ backend ∈ router.registry.enabled,
        backend.backendId = backendId ∧ router.admits intent harnessId backend = true := by
  unfold rankBackends backendIds
  simp only [List.mem_map, (defaultFirst_perm router _).mem_iff, mem_sortedBy, List.mem_filter]
  constructor
  · rintro ⟨item, ⟨backend, ⟨henabled, hadmits⟩, rfl⟩, rfl⟩
    exact ⟨backend, henabled, rfl, hadmits⟩
  · rintro ⟨backend, henabled, rfl, hadmits⟩
    exact ⟨_, ⟨backend, ⟨henabled, hadmits⟩, rfl⟩, rfl⟩

omit [Score σ] in
theorem mem_backendIds_advertising {ranked : List (RankedBackend σ)}
    (h : router.advertising ranked = .ok items) :
    backendId ∈ backendIds items ↔ backendId ∈ backendIds ranked ∧
      router.registry.Advertises backendId .providerRouting := by
  induction ranked generalizing items with
  | nil =>
      obtain rfl := Except.ok.inj h
      simp [backendIds]
  | cons item ranked ih =>
      unfold advertising at h
      obtain ⟨backend, hget, h⟩ := bind_eq_ok.mp h
      obtain ⟨rest, hrest, h⟩ := bind_eq_ok.mp h
      have hadvertises : router.registry.Advertises item.backendId .providerRouting ↔
          ExecutionCapability.providerRouting ∈ backend.capabilities := by
        simp [BackendRegistry.Advertises, hget]
      have hrest' := ih hrest
      obtain rfl := Except.ok.inj h
      simp only [backendIds] at hrest' ⊢
      split_ifs with hrouting
      · simp only [List.map_cons, List.mem_cons, hrest']
        grind
      · simp only [List.map_cons, List.mem_cons, hrest']
        grind

-- What a harness is offered is what it may use.
theorem mem_offered (h : router.offered intent harnessId = .ok items) :
    backendId ∈ backendIds items ↔ router.Compatible intent harnessId backendId := by
  unfold offered at h
  cases hneeded : providerNeeded intent with
  | false =>
      simp only [hneeded] at h
      obtain rfl := Except.ok.inj h
      rw [mem_backendIds_rankBackends]
      exact ⟨fun henabled => ⟨henabled, by simp [hneeded]⟩, (·.enabled)⟩
  | true =>
      simp only [hneeded, if_true] at h
      rw [mem_backendIds_advertising h, mem_backendIds_rankBackends]
      exact ⟨fun ⟨henabled, hadvertises⟩ => ⟨henabled, fun _ => hadvertises⟩,
        fun hcompatible => ⟨hcompatible.enabled, hcompatible.advertises hneeded⟩⟩

theorem offered_of_chooseHarness {harnessIds : List String}
    (h : router.chooseHarness intent harnessIds = .ok (some (harnessId, candidates))) :
    router.offered intent harnessId = .ok candidates.toList := by
  induction harnessIds with
  | nil => cases h
  | cons next harnessIds ih =>
      unfold chooseHarness at h
      obtain ⟨items, hoffered, h⟩ := bind_eq_ok.mp h
      cases items with
      | nil => exact ih h
      | cons first rest =>
          obtain ⟨rfl, rfl⟩ : next = harnessId ∧ (⟨first, rest⟩ : Candidates σ) = candidates := by
            simpa using Except.ok.inj h
          exact hoffered

theorem selectRoute_permitted {profiles : CapabilityProfiles σ} {analysis : TaskAnalysis}
    {policy : RoutingPolicy σ} {entitlements : Entitlements}
    {availableConnectors : Option (List String)} {harnesses : List String}
    {backends : List (RankedBackend σ)} {preferred : Option String}
    (h : (selectRoute profiles analysis policy entitlements availableConnectors harnesses backends
      preferred).selected = some route) : route.harnessId ∉ policy.deniedHarnesses := by
  obtain ⟨hhead, heligible⟩ := Option.filter_eq_some_iff.mp h
  have hmem := mem_rankRoutes.mp (List.mem_of_mem_head? hhead)
  obtain ⟨harnessId, -, hmem⟩ := List.mem_flatMap.mp hmem
  obtain ⟨backend, -, hbest⟩ := List.mem_filterMap.mp hmem
  exact bestConnectorModelForHarness_permitted hbest heligible

theorem selection_permitted {chosenHarness : String} {selection : RouteSelection σ}
    (h : router.selection intent chosenHarness candidates = .ok selection)
    (hroute : selection.selected = some route) :
    route.harnessId ∉ (policy intent).deniedHarnesses := by
  unfold ExecutionRouter.selection at h
  dsimp only at h
  split at h
  · obtain rfl := Except.ok.inj h
    exact selectRoute_permitted hroute
  · obtain ⟨backends, -, h⟩ := bind_eq_ok.mp h
    obtain rfl := Except.ok.inj h
    exact selectRoute_permitted hroute

omit [Score σ] in
theorem fallbackOrder_perm (router : ExecutionRouter σ) (settled : Settled σ) :
    (router.fallbackOrder settled).Perm
      ((backendIds settled.candidates.toList).filter (· ≠ settled.backendId)) := by
  unfold fallbackOrder
  dsimp only
  split
  · exact List.Perm.refl _
  · exact sortedBy_perm _ _

omit [Score σ] in
-- What a decision lists are the candidates that it was settled with.
theorem mem_order (hselected : settled.backendId ∈ backendIds settled.candidates.toList) :
    backendId ∈ (router.decisionOf intent settled).order ↔
      backendId ∈ backendIds settled.candidates.toList := by
  simp only [ExecutionDecision.order, decisionOf, List.mem_cons,
    (fallbackOrder_perm router settled).mem_iff, List.mem_filter, decide_eq_true_eq]
  by_cases hselects : backendId = settled.backendId
  · simp [hselects, hselected]
  · simp [hselects]

omit [Score σ] in
theorem order_nodup :
    (router.decisionOf intent settled).order.Nodup ↔
      ((backendIds settled.candidates.toList).filter (· ≠ settled.backendId)).Nodup := by
  simp only [ExecutionDecision.order, decisionOf, List.nodup_cons,
    (fallbackOrder_perm router settled).nodup_iff, (fallbackOrder_perm router settled).mem_iff,
    List.mem_filter, decide_eq_true_eq, ne_eq, not_true_eq_false, and_false, not_false_eq_true,
    true_and]

omit [Score σ] in
theorem sound_decisionOf (hselected : settled.backendId ∈ backendIds settled.candidates.toList) :
    router.Sound intent (router.decisionOf intent settled) ↔
      settled.harnessId ∉ (policy intent).deniedHarnesses ∧
        (∀ backendId ∈ backendIds settled.candidates.toList,
          router.Compatible intent settled.harnessId backendId) ∧
        router.Clean settled.backendId (backendIds settled.candidates.toList) := by
  constructor
  · intro h
    exact ⟨h.permitted.1, fun backendId hmem => h.compatible backendId ((mem_order hselected).mpr hmem),
      fun backendId hmem => h.quota backendId ((mem_order hselected).mpr hmem),
      order_nodup.mp h.once⟩
  · rintro ⟨hpermitted, hcompatible, hclean⟩
    have hsubscription : settled.harnessId ∉ intent.subscriptionConstraints.deniedHarnesses :=
      fun hdenied => hpermitted (mem_deniedHarnesses_routingPolicy.mpr (.inr hdenied))
    exact ⟨⟨hpermitted, hsubscription⟩,
      fun backendId hmem => hcompatible backendId ((mem_order hselected).mp hmem),
      fun backendId hmem => hclean.quota backendId ((mem_order hselected).mp hmem),
      order_nodup.mpr hclean.once⟩

-- How a decision comes about.
theorem select_eq_ok {decision : ExecutionDecision} (h : router.select intent = .ok decision) :
    ∃ chosenHarness candidates selection settled,
      router.chosen intent = .ok (some (chosenHarness, candidates)) ∧
      router.selection intent chosenHarness candidates = .ok selection ∧
      router.settle intent chosenHarness candidates selection = .ok settled ∧
      decision = router.decisionOf intent settled := by
  unfold select at h
  split at h
  · cases h
  · split at h
    · cases h
    · obtain ⟨offer, hchosen, h⟩ := bind_eq_ok.mp h
      cases offer with
      | none => cases h
      | some offer =>
          obtain ⟨chosenHarness, candidates⟩ := offer
          obtain ⟨selection, hselection, h⟩ := bind_eq_ok.mp h
          obtain ⟨settled, hsettle, h⟩ := bind_eq_ok.mp h
          exact ⟨chosenHarness, candidates, selection, settled, hchosen, hselection, hsettle,
            (Except.ok.inj h).symm⟩

end Offers

-- The branches in which no filter is missing. A pinned harness, or the absence
-- of an eligible route, leaves the chosen harness with its own candidates. A
-- route whose backend its harness is not offered sends the choice back to the
-- chosen harness, but with the candidates of the other.
def CleanBranch (chosenHarness : String) (candidates : Candidates σ)
    (selection : RouteSelection σ) : Prop :=
  match if pinned intent then none else selection.selected with
  | none =>
      chosenHarness ∉ (policy intent).deniedHarnesses ∧
        router.Clean candidates.first.backendId (backendIds candidates.toList)
  | some route =>
      match router.offered intent route.harnessId with
      | .error _ => False
      | .ok [] =>
          chosenHarness ∉ (policy intent).deniedHarnesses ∧
            route.backendId ∉ backendIds candidates.toList ∧
            router.Clean candidates.first.backendId (backendIds candidates.toList)
      | .ok (first :: rest) =>
          if route.backendId ∈ backendIds (first :: rest) then
            router.Clean route.backendId (backendIds (first :: rest))
          else
            chosenHarness ∉ (policy intent).deniedHarnesses ∧
              (∀ backendId ∈ backendIds (first :: rest),
                router.Compatible intent chosenHarness backendId) ∧
              router.Clean first.backendId (backendIds (first :: rest))

def Undisturbed : Prop :=
  ∀ chosenHarness candidates selection,
    router.chosen intent = .ok (some (chosenHarness, candidates)) →
    router.selection intent chosenHarness candidates = .ok selection →
    router.CleanBranch intent chosenHarness candidates selection

section Branches

variable {router : ExecutionRouter σ} {intent : RoutedIntent σ} {settled : Settled σ}

-- A settled choice on a harness with what that harness is offered.
theorem sound_own_candidates (hselected : settled.backendId ∈ backendIds settled.candidates.toList)
    (hoffered : router.offered intent settled.harnessId = .ok settled.candidates.toList) :
    router.Sound intent (router.decisionOf intent settled) ↔
      settled.harnessId ∉ (policy intent).deniedHarnesses ∧
        router.Clean settled.backendId (backendIds settled.candidates.toList) := by
  have hcompatible : ∀ backendId ∈ backendIds settled.candidates.toList,
      router.Compatible intent settled.harnessId backendId :=
    fun _ hmem => (mem_offered hoffered).mp hmem
  rw [sound_decisionOf hselected]
  exact and_congr_right fun _ => and_iff_right hcompatible

omit [Score σ] in
@[simp] theorem first_mem_backendIds (candidates : Candidates σ) :
    candidates.first.backendId ∈ backendIds candidates.toList := by
  simp [backendIds, Candidates.toList]

theorem settle_sound_iff {chosenHarness : String} {candidates : Candidates σ}
    {selection : RouteSelection σ}
    (hoffered : router.offered intent chosenHarness = .ok candidates.toList)
    (hselection : router.selection intent chosenHarness candidates = .ok selection)
    (hsettle : router.settle intent chosenHarness candidates selection = .ok settled) :
    router.Sound intent (router.decisionOf intent settled) ↔
      router.CleanBranch intent chosenHarness candidates selection := by
  unfold settle at hsettle
  unfold CleanBranch
  cases hroute : if pinned intent then none else selection.selected with
  | none =>
      simp only [hroute] at hsettle
      obtain rfl := Except.ok.inj hsettle
      exact sound_own_candidates (first_mem_backendIds candidates) hoffered
  | some route =>
      simp only [hroute] at hsettle
      have hselected : selection.selected = some route := by
        split_ifs at hroute
        exact hroute
      have hpermitted : route.harnessId ∉ (policy intent).deniedHarnesses :=
        selection_permitted hselection hselected
      obtain ⟨items, hitems, hsettle⟩ := bind_eq_ok.mp hsettle
      cases items with
      | nil =>
          simp only [hitems]
          dsimp only at hsettle
          split_ifs at hsettle with hmem
          · -- nothing that is listed is offered to the harness of the route
            obtain rfl := Except.ok.inj hsettle
            rw [sound_decisionOf hmem]
            constructor
            · rintro ⟨-, hcompatible, -⟩
              have := (mem_offered hitems).mpr (hcompatible route.backendId hmem)
              simp [backendIds] at this
            · rintro ⟨-, hnot, -⟩
              exact absurd hmem hnot
          · obtain rfl := Except.ok.inj hsettle
            refine (sound_own_candidates (first_mem_backendIds candidates) hoffered).trans ?_
            exact and_congr_right fun _ => (and_iff_right hmem).symm
      | cons first rest =>
          simp only [hitems]
          dsimp only at hsettle
          change (if route.backendId ∈ backendIds (first :: rest) then _ else _) = _ at hsettle
          split_ifs at hsettle with hmem
          · obtain rfl := Except.ok.inj hsettle
            rw [if_pos hmem]
            refine (sound_own_candidates hmem hitems).trans ?_
            exact and_iff_right hpermitted
          · obtain rfl := Except.ok.inj hsettle
            rw [if_neg hmem]
            exact sound_decisionOf (first_mem_backendIds ⟨first, rest⟩)

end Branches

variable {router : ExecutionRouter σ} {intent : RoutedIntent σ}

-- A decision is sound exactly when no branch with a missing filter is taken.
theorem select_sound_iff {decision : ExecutionDecision}
    (hselect : router.select intent = .ok decision) :
    router.Sound intent decision ↔ router.Undisturbed intent := by
  obtain ⟨chosenHarness, candidates, selection, settled, hchosen, hselection, hsettle, rfl⟩ :=
    select_eq_ok hselect
  have hoffered : router.offered intent chosenHarness = .ok candidates.toList :=
    offered_of_chooseHarness hchosen
  rw [settle_sound_iff hoffered hselection hsettle]
  constructor
  · intro hclean harnessId found selection' hchosen' hselection'
    obtain ⟨rfl, rfl⟩ : chosenHarness = harnessId ∧ candidates = found := by
      simpa [hchosen] using hchosen'
    obtain rfl : selection = selection' := Except.ok.inj (hselection.symm.trans hselection')
    exact hclean
  · intro hundisturbed
    exact hundisturbed chosenHarness candidates selection hchosen hselection

end ExecutionRouter

-- Exact scores. Their text rounds to tenths, and a half to the even one.
instance : Score ℚ where
  decidableLT := inferInstance
  fixed score :=
    let tenths := |score| * 10
    let down := tenths.floor.toNat
    let half := tenths - down
    let rounded := if 1 / 2 < half ∨ (half = 1 / 2 ∧ down % 2 = 1) then down + 1 else down
    (if score < 0 then "-" else "") ++ toString (rounded / 10) ++ "." ++ toString (rounded % 10)

section Sample

def sampleRouter : ExecutionRouter ℚ where
  registry :=
    { backends :=
        [("local", localBackend ["codex", "cursor"]),
          ("fireconnect", fireConnectBackend ["codex", "cursor"]),
          ("joymesh", joyMeshBackend), ("hosted", hostedBackend)] }
  availableHarnesses := ["codex", "cursor"]
  profiles := builtinCapabilityProfiles
  availableConnectors := some ["ollama"]
  analyse := fun _ => { taskClass := .unknown, requiredSemantic := [] }

def routedIntent : RoutedIntent ℚ where
  missionId := "m"
  executionId := "e"
  prompt := "list the files"
  workspacePath := "/w"
  requiredCapabilities := [.filesystem, .persistentWorkspace]
  routingPreferences := { preferFastest := some true }

-- The policy denies the harness that the intent prefers.
def deniedIntent : RoutedIntent ℚ :=
  { routedIntent with
    preferredHarness := some "codex"
    routingPreferences := { deniedHarnesses := ["codex"] } }

def routedDecision : ExecutionDecision where
  executionId := "e"
  selectedBackendId := "local"
  selectedHarnessId := "cursor"
  reason := "capability route cursor+local+ollama+qwen-local: 156.8"
  fallbackOrder := ["fireconnect", "joymesh"]
  providerRoutingRequired := false
  selectedConnectorId := some "ollama"
  selectedModelId := some "qwen-local"

def deniedDecision : ExecutionDecision where
  executionId := "e"
  selectedBackendId := "local"
  selectedHarnessId := "codex"
  reason := "matched capabilities via local"
  fallbackOrder := ["fireconnect", "joymesh"]
  providerRoutingRequired := false

end Sample

namespace ExecutionRouter

theorem sample_sound : sampleRouter.Sound routedIntent routedDecision where
  permitted := by decide +kernel
  compatible := by
    have henabled : ∀ backendId ∈ routedDecision.order, ∃ backend ∈ sampleRouter.registry.enabled,
        backend.backendId = backendId ∧
          sampleRouter.admits routedIntent routedDecision.selectedHarnessId backend = true := by
      decide +kernel
    exact fun backendId hmem => ⟨henabled backendId hmem, fun hneeded => absurd hneeded (by decide)⟩
  quota := by decide +kernel
  once := by decide +kernel

theorem sample_undisturbed : sampleRouter.Sound routedIntent routedDecision ∧
    sampleRouter.Undisturbed routedIntent :=
  ⟨sample_sound, (select_sound_iff (by decide +kernel)).mp sample_sound⟩

theorem denied_harness_selected : ¬ ∀ decision, sampleRouter.select deniedIntent = .ok decision →
    sampleRouter.Sound deniedIntent decision := by
  intro h
  have hselect : sampleRouter.select deniedIntent = .ok deniedDecision := by decide +kernel
  exact (h deniedDecision hselect).permitted.1 (by decide)

end ExecutionRouter

end JoyMesh.Routing
