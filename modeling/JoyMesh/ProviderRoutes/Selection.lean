import JoyMesh.ProviderRoutes.FireConnect
import JoyMesh.Runtime.Preferences

namespace JoyMesh.ProviderRoutes

open Library
open FireConnect (Route)

structure ProviderRouteSelectionResult where
  connectorId : String
  connectorCandidates : List String
  selectedConnector : Option String
  connectorSelectionReason : String
  providerRouteCandidates : List Route
  selectedProviderRoute : Option Route
  providerSelectionReason : String
  selectedModel : Option String
  rejectedCandidates : List (String × String)
deriving DecidableEq

section Selection

-- The arguments of the selection beside the routes. A required provider that is the
-- empty text is none.
structure RouteSelection where
  connectorId : String
  preferredProviders : List String := []
  requiredProvider : Option String := none
  allowedProviders : Option (List String) := none
  allowDisabled : Bool := false

namespace RouteSelection

variable (selection : RouteSelection) (routes : List Route)

def required : Option String := selection.requiredProvider.filter (· ≠ "")

-- The first rule that a route breaks.
def rejection (route : Route) : Option String :=
  if route.connectorId ≠ selection.connectorId then some "connector_mismatch"
  else if selection.allowedProviders.any (route.state.providerId ∉ ·) then
    some "provider_not_allowed"
  else if selection.required.any (route.state.providerId ≠ ·) then
    some "required_provider_mismatch"
  else if !route.available then
    some ((route.reasonCode.filter (· ≠ "")).getD "provider_unavailable")
  else if !selection.allowDisabled && route.state.providerId ≠ "native" && !route.state.enabled then
    some "route_not_enabled"
  else if route.state.providerId ≠ "native" && !route.authenticated && route.state.enabled then
    some "authentication_required"
  else none

def eligible : List Route := routes.filter fun route => selection.rejection route = none

def rejected : List (String × String) :=
  routes.filterMap fun route => (selection.rejection route).map (route.routeId, ·)

-- The index among the preferred ones, and what stands for it where there is none.
def preference (providerId : String) : Nat :=
  if providerId ∈ selection.preferredProviders then selection.preferredProviders.idxOf providerId
  else if selection.preferredProviders ≠ [] then 100
  else if providerId = "native" then 0 else 10

def sortKey (route : Route) : Nat ×ₗ String ×ₗ String :=
  toLex (selection.preference route.state.providerId, toLex (route.state.providerId, route.routeId))

def ranking : List Route := ranked selection.sortKey (selection.eligible routes)

def reason (selected : Route) : String :=
  if selected.state.providerId ∈ selection.preferredProviders then "preferred_provider"
  else if selection.required.isSome then "required_provider" else "deterministic_default"

def selectProviderRoute : ProviderRouteSelectionResult :=
  let result : ProviderRouteSelectionResult :=
    { connectorId := selection.connectorId
      connectorCandidates := [selection.connectorId]
      selectedConnector := some selection.connectorId
      connectorSelectionReason := "provided"
      providerRouteCandidates := routes
      selectedProviderRoute := none
      providerSelectionReason := "no_eligible_provider_route"
      selectedModel := none
      rejectedCandidates := selection.rejected routes }
  match selection.ranking routes with
  | [] => result
  | selected :: _ =>
      { result with
        selectedProviderRoute := some selected
        providerSelectionReason := selection.reason selected
        selectedModel := selected.state.modelId }

-- What the preferred providers promise.
structure Ordered : Prop where
  first : ∀ a ∈ selection.eligible routes, ∀ b ∈ selection.eligible routes,
    Runtime.RuntimeScheduler.Earlier selection.preferredProviders a.state.providerId
      b.state.providerId → Precedes (selection.ranking routes) a b
  orderless : (routes.map (·.routeId)).Nodup → ∀ others, others.Perm routes →
    (selection.selectProviderRoute others).selectedProviderRoute =
        (selection.selectProviderRoute routes).selectedProviderRoute ∧
      (selection.selectProviderRoute others).providerSelectionReason =
        (selection.selectProviderRoute routes).providerSelectionReason
  labelled : (selection.selectProviderRoute routes).providerSelectionReason =
      "preferred_provider" → ∃ selected,
    (selection.selectProviderRoute routes).selectedProviderRoute = some selected ∧
      selected.state.providerId ∈ selection.preferredProviders ∧
      ∀ route ∈ selection.eligible routes,
        ¬Runtime.RuntimeScheduler.Earlier selection.preferredProviders route.state.providerId
          selected.state.providerId

-- A listed provider behind the place that is given to those not listed.
def LateProvider : Prop :=
  ∃ a ∈ selection.eligible routes, ∃ b ∈ selection.eligible routes,
    Runtime.RuntimeScheduler.Late 100 selection.preferredProviders a.state.providerId
      b.state.providerId

variable {selection routes}

open Runtime.RuntimeScheduler (Earlier Late)

theorem preference_unlisted {first second : String}
    (hfirst : first ∈ selection.preferredProviders)
    (hsecond : second ∉ selection.preferredProviders) :
    selection.preference first = selection.preferredProviders.idxOf first ∧
      selection.preference second = 100 := by
  unfold preference
  rw [if_pos hfirst, if_neg hsecond, if_pos (List.ne_nil_of_mem hfirst)]
  exact ⟨rfl, rfl⟩

theorem sortKey_lt {a b : Route} : selection.sortKey a < selection.sortKey b ↔
    selection.preference a.state.providerId < selection.preference b.state.providerId ∨
      selection.preference a.state.providerId = selection.preference b.state.providerId ∧
        (a.state.providerId < b.state.providerId ∨
          a.state.providerId = b.state.providerId ∧ a.routeId < b.routeId) := by
  simp only [sortKey, Prod.Lex.toLex_lt_toLex]

theorem sortKey_inj {a b : Route} (h : selection.sortKey a = selection.sortKey b) :
    a.state.providerId = b.state.providerId ∧ a.routeId = b.routeId := by
  simp only [sortKey, EmbeddingLike.apply_eq_iff_eq, Prod.mk.injEq] at h
  exact h.2

theorem sortKey_earlier {a b : Route}
    (h : Earlier selection.preferredProviders a.state.providerId b.state.providerId) :
    selection.sortKey a < selection.sortKey b ↔
      ¬Late 100 selection.preferredProviders a.state.providerId b.state.providerId := by
  have ha : a.state.providerId ∈ selection.preferredProviders :=
    List.idxOf_lt_length_iff.mp (lt_of_lt_of_le h List.idxOf_le_length)
  have hne : a.state.providerId ≠ b.state.providerId := fun hsame => lt_irrefl _ (hsame ▸ h)
  rw [sortKey_lt]
  by_cases hb : b.state.providerId ∈ selection.preferredProviders
  · refine iff_of_true (.inl ?_) fun hlate => hlate.2.1 hb
    unfold preference
    rw [if_pos ha, if_pos hb]
    exact h
  · obtain ⟨hfirst, hsecond⟩ := preference_unlisted ha hb
    simp only [hfirst, hsecond, Late, ha, hb, not_false_eq_true, true_and, not_or, not_and, not_lt,
      hne, false_and, or_false]
    constructor
    · rintro (hlt | ⟨heq, hname⟩)
      · exact ⟨hlt.le, fun hsame => absurd hlt (by omega)⟩
      · exact ⟨heq.le, fun _ => hname.le⟩
    · rintro ⟨hle, hname⟩
      rcases Nat.lt_or_eq_of_le hle with hlt | hsame
      · exact .inl hlt
      · exact .inr ⟨hsame, lt_of_le_of_ne (hname hsame.symm) hne⟩

theorem select_eq : (selection.selectProviderRoute routes).selectedProviderRoute =
      (selection.ranking routes).head? ∧
    (selection.selectProviderRoute routes).providerSelectionReason =
      ((selection.ranking routes).head?.map selection.reason).getD "no_eligible_provider_route" := by
  unfold selectProviderRoute
  cases selection.ranking routes with
  | nil => exact ⟨rfl, rfl⟩
  | cons => exact ⟨rfl, rfl⟩

theorem ranking_perm (hids : (routes.map (·.routeId)).Nodup) {others : List Route}
    (hperm : others.Perm routes) : selection.ranking others = selection.ranking routes := by
  refine ranked_eq_of_perm (hperm.filter _) fun a ha b hb hkey => ?_
  exact List.inj_on_of_nodup_map hids (List.mem_of_mem_filter ha) (List.mem_of_mem_filter hb)
    (sortKey_inj hkey).2

theorem select_labelled
    (h : (selection.selectProviderRoute routes).providerSelectionReason = "preferred_provider") :
    ∃ selected, (selection.selectProviderRoute routes).selectedProviderRoute = some selected ∧
      selected.state.providerId ∈ selection.preferredProviders ∧
      ∀ route ∈ selection.eligible routes,
        ¬Earlier selection.preferredProviders route.state.providerId selected.state.providerId := by
  rw [select_eq.2] at h
  rw [select_eq.1]
  cases hranking : selection.ranking routes with
  | nil =>
      rw [hranking] at h
      change "no_eligible_provider_route" = "preferred_provider" at h
      exact absurd h (by decide)
  | cons selected rest =>
      rw [hranking] at h
      have hlisted : selected.state.providerId ∈ selection.preferredProviders := by
        by_contra hunlisted
        simp only [List.head?_cons, Option.map_some, Option.getD_some, reason, hunlisted,
          if_false] at h
        split at h
        · exact absurd h (by decide)
        · exact absurd h (by decide)
      refine ⟨selected, rfl, hlisted, fun route hroute hearlier => ?_⟩
      have hle : selection.sortKey selected ≤ selection.sortKey route := by
        have hmem : route ∈ selected :: rest := hranking ▸ mem_ranked.mpr hroute
        have hsorted : (selected :: rest).Pairwise fun a b =>
          selection.sortKey a ≤ selection.sortKey b := hranking ▸ ranked_sorted
        rcases List.mem_cons.mp hmem with rfl | hmem
        · exact le_rfl
        · exact List.rel_of_pairwise_cons hsorted hmem
      refine absurd ((sortKey_earlier hearlier).mpr fun hlate => hlate.2.1 hlisted) ?_
      exact not_lt.mpr hle

theorem ordered_iff : selection.Ordered routes ↔ ¬selection.LateProvider routes := by
  have hprecedes : ∀ a ∈ selection.eligible routes, ∀ b ∈ selection.eligible routes,
      Earlier selection.preferredProviders a.state.providerId b.state.providerId →
      (Precedes (selection.ranking routes) a b ↔
        ¬Late 100 selection.preferredProviders a.state.providerId b.state.providerId) := by
    intro a ha b hb hearlier
    rw [← sortKey_earlier hearlier]
    refine ranked_precedes_iff ha hb fun hkey => ?_
    exact lt_irrefl _ ((sortKey_inj hkey).1 ▸ hearlier)
  constructor
  · rintro h ⟨a, ha, b, hb, hlate⟩
    have hearlier := Runtime.RuntimeScheduler.Late.earlier hlate
    exact (hprecedes a ha b hb hearlier).mp (h.first a ha b hb hearlier) hlate
  · intro h
    refine ⟨fun a ha b hb hearlier => ?_, fun hids others hperm => ?_, select_labelled⟩
    · exact (hprecedes a ha b hb hearlier).mpr fun hlate => h ⟨a, ha, b, hb, hlate⟩
    · rw [select_eq.1, select_eq.1, select_eq.2, select_eq.2, ranking_perm hids hperm]
      exact ⟨rfl, rfl⟩

end RouteSelection

-- Preferences order the choice of both rankers, unless a listed item stands behind
-- what one that is not listed is given.
theorem preferences_order_iff (engine : Runtime.PolicyEngine) (order : Runtime.Iteration)
    (production : Bool) (request : Runtime.RuntimeTaskRequest)
    (nodes : List Runtime.SchedulerNodeSnapshot) (selection : RouteSelection)
    (routes : List Route) :
    Runtime.RuntimeScheduler.Prefers engine order production request nodes ∧
        selection.Ordered routes ↔
      ¬Runtime.RuntimeScheduler.LatePlace engine order production request nodes ∧
        ¬selection.LateProvider routes :=
  and_congr Runtime.RuntimeScheduler.prefers_iff RouteSelection.ordered_iff

open JoyMesh.Runtime JoyMesh.Runtime.RuntimeScheduler in
-- The twelfth preferred connector loses a point to one that is not preferred.
theorem twelfth_connector_behind :
    ¬(Prefers .create .asGiven true
        { labRequest "shell.execute" with
          preferredConnectors := ["c0", "c1", "c2", "c3", "c4", "c5", "c6", "c7", "c8", "c9", "c10",
            "codex"] }
        [{ labNode with
            connectors := labNode.connectors.insert "opencode" labConnector
            placements := [⟨"mesh", true⟩] }] ∧
      (RouteSelection.mk "codex" [] none none false).Ordered []) := by
  rintro ⟨h, -⟩
  have hfirst := h shellDecision [⟨⟨"lab", "opencode", true, []⟩, 115⟩,
    ⟨⟨"lab", "codex", true, []⟩, 114⟩] (by decide +kernel) rfl (by decide +kernel)
  have hprecedes := hfirst.connectors _ "codex" "opencode" ⟨⟨"lab", "codex", true, []⟩, 114⟩
    ⟨⟨"lab", "opencode", true, []⟩, 115⟩
    ⟨List.mem_singleton.mpr rfl, ⟨labConnector, by decide, by decide +kernel⟩, rfl⟩
    ⟨List.mem_singleton.mpr rfl, ⟨labConnector, by decide, by decide +kernel⟩, rfl⟩
    (by unfold Earlier; decide)
  exact absurd (hprecedes 1 0 rfl rfl) (by decide)

end Selection

end JoyMesh.ProviderRoutes
