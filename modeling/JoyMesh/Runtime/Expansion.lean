import JoyMesh.Runtime.Policy
import Mathlib.Order.Bounds.Basic

namespace JoyMesh.Runtime

open Library Routing

section Closure

variable (order : Iteration) (registry : CapabilityRegistry) (requested prohibited : List String)
  {error : PyError} {first second : String} {expanded : List String}

-- The sets that hold what was requested and whatever their members depend on.
def ClosedOver : Set (Set String) :=
  {closed | (∀ item ∈ requested, item ∈ closed) ∧
    ∀ first ∈ closed, ∀ second, Depends registry first second → second ∈ closed}

def Conflicts (first second : String) : Prop :=
  ∃ definition, registry.lookup first = some definition ∧ second ∈ definition.conflicts

def Unknown : Prop :=
  ∃ item, (item ∈ requested ∨ item ∈ prohibited) ∧ registry.lookup item = none

def MeetsProhibited : Prop := ∃ item ∈ prohibited, Required registry requested item

def Conflicting : Prop :=
  ∃ first second, Required registry requested first ∧ Required registry requested second ∧
    Conflicts registry first second

-- A capability of the closure that the registry does not have.
def Unregistered : Prop :=
  ∃ item, Required registry requested item ∧ registry.lookup item = none

def Raises (kind : String) : Prop :=
  ∃ error, expandCapabilities order registry requested prohibited = .error error ∧
    error.type = kind

variable {order registry requested prohibited}

theorem required_isLeast :
    IsLeast (ClosedOver registry requested) {item | Required registry requested item} := by
  constructor
  · constructor
    · intro item hrequested
      exact ⟨item, hrequested, .refl⟩
    · rintro first ⟨start, hs, hreach⟩ second hdepends
      exact ⟨start, hs, hreach.tail hdepends⟩
  · rintro closed ⟨hsub, hclosed⟩ item ⟨start, hs, hreach⟩
    induction hreach with
    | refl => exact hsub start hs
    | tail _ hdepends ih => exact hclosed _ ih _ hdepends

theorem expand_eq_error {current : String}
    (h : expand order registry prohibited current = .error error) :
    (error.type = "ValueError" ∧ current ∈ prohibited) ∨
      (error.type = "KeyError" ∧ registry.lookup current = none) := by
  unfold expand CapabilityRegistry.get at h
  split at h
  next hprohibited =>
    obtain rfl := Except.error.inj h
    exact .inl ⟨rfl, hprohibited⟩
  · cases hl : registry.lookup current with
    | none =>
        rw [hl] at h
        obtain rfl := Except.error.inj h
        exact .inr ⟨rfl, rfl⟩
    | some definition =>
        rw [hl] at h
        cases h

theorem leads_depends (h : Leads (expand order registry prohibited) first second) :
    Depends registry first second := by
  obtain ⟨next, hvisit, hm⟩ := h
  obtain ⟨definition, hl, rfl⟩ := expand_eq_ok hvisit
  exact ⟨definition, hl, Iteration.mem_items.mp hm⟩

theorem expandAll_explores :
    explore (expand order registry prohibited) (expansionFuel order registry requested) []
      (order.items requested).reverse =
        some (expandAll order registry requested prohibited) := by
  rw [expandAll, Option.some_get]

-- The loop ends in an error only at a capability of the closure.
theorem expandAll_error (h : expandAll order registry requested prohibited = .error error) :
    (error.type = "ValueError" ∧ MeetsProhibited registry requested prohibited) ∨
      (error.type = "KeyError" ∧ Unregistered registry requested) := by
  obtain ⟨item, hvisit, first, hf, hreach⟩ := explore_error (expandAll_explores.trans (by rw [h]))
  have hrequired : Required registry requested item := by
    refine ⟨first, Iteration.mem_items.mp (List.mem_reverse.mp hf), ?_⟩
    exact Relation.ReflTransGen.mono (fun _ _ => leads_depends) _ _ hreach
  rcases expand_eq_error hvisit with ⟨htype, hprohibited⟩ | ⟨htype, hl⟩
  · exact .inl ⟨htype, item, hprohibited, hrequired⟩
  · exact .inr ⟨htype, item, hrequired, hl⟩

-- Whatever was expanded passed the checks of the loop.
theorem expandAll_ok (h : expandAll order registry requested prohibited = .ok expanded) :
    ¬MeetsProhibited registry requested prohibited ∧ ¬Unregistered registry requested := by
  have hpassed : ∀ item, Required registry requested item → item ∉ prohibited ∧
      ∃ definition, registry.lookup item = some definition := by
    intro item hrequired
    have hm : item ∈ expanded := (expandAll_mem_iff h).mpr hrequired
    rcases explore_visited (expandAll_explores.trans (by rw [h])) hm with hs | ⟨next, hvisit⟩
    · cases hs
    · obtain ⟨definition, hl, -⟩ := expand_eq_ok hvisit
      refine ⟨fun hprohibited => ?_, definition, hl⟩
      simp [expand, hprohibited] at hvisit
  constructor
  · rintro ⟨item, hprohibited, hrequired⟩
    exact (hpassed item hrequired).1 hprohibited
  · rintro ⟨item, hrequired, hl⟩
    obtain ⟨definition, hsome⟩ := (hpassed item hrequired).2
    rw [hl] at hsome
    cases hsome

theorem conflictError_some (h : conflictError registry expanded first = some error) :
    (error.type = "KeyError" ∧ registry.lookup first = none) ∨
      (error.type = "ValueError" ∧ ∃ second ∈ expanded, Conflicts registry first second) := by
  unfold conflictError CapabilityRegistry.get at h
  cases hl : registry.lookup first with
  | none =>
      rw [hl] at h
      obtain rfl := Option.some.inj h
      exact .inl ⟨rfl, rfl⟩
  | some definition =>
      simp only [hl] at h
      split at h
      · cases h
      next hsome =>
        obtain rfl := Option.some.inj h
        obtain ⟨second, hm⟩ := List.exists_mem_of_ne_nil _ hsome
        obtain ⟨hconflict, hexpanded⟩ := List.mem_filter.mp hm
        exact .inr ⟨rfl, second, by simpa using hexpanded, definition, hl, hconflict⟩

theorem conflictError_none (h : conflictError registry expanded first = none)
    (hs : second ∈ expanded) : ¬Conflicts registry first second := by
  rintro ⟨definition, hl, hconflict⟩
  unfold conflictError CapabilityRegistry.get at h
  simp only [hl] at h
  split at h
  next hnone =>
    have hm : second ∈ definition.conflicts.filter (· ∈ expanded) :=
      List.mem_filter.mpr ⟨hconflict, by simpa using hs⟩
    rw [hnone] at hm
    cases hm
  · cases h

variable (order registry requested prohibited) in
-- Which checks the closure has to pass, and what the expansion does at each.
theorem expandCapabilities_cases :
    (Unknown registry requested prohibited ∧ Raises order registry requested prohibited "ValueError") ∨
    (MeetsProhibited registry requested prohibited ∧
      Raises order registry requested prohibited "ValueError") ∨
    (¬Unknown registry requested prohibited ∧ Unregistered registry requested ∧
      Raises order registry requested prohibited "KeyError") ∨
    (¬Unregistered registry requested ∧ Conflicting registry requested ∧
      Raises order registry requested prohibited "ValueError") ∨
    (¬Unknown registry requested prohibited ∧ ¬MeetsProhibited registry requested prohibited ∧
      ¬Unregistered registry requested ∧ ¬Conflicting registry requested ∧
      ∃ expanded, expandCapabilities order registry requested prohibited = .ok expanded) := by
  unfold Raises
  by_cases hunknown : (requested ∪ prohibited).filter (fun item => !registry.known item) ≠ []
  · obtain ⟨item, hm⟩ := List.exists_mem_of_ne_nil _ hunknown
    obtain ⟨hitem, hl⟩ := List.mem_filter.mp hm
    refine .inl ⟨⟨item, List.mem_union_iff.mp hitem, ?_⟩, ?_⟩
    · simpa [CapabilityRegistry.known] using hl
    · simp only [expandCapabilities, if_pos hunknown]
      exact ⟨_, rfl, rfl⟩
  have hknown : ¬Unknown registry requested prohibited := by
    rintro ⟨item, hitem, hl⟩
    refine hunknown (List.ne_nil_of_mem (List.mem_filter.mpr ⟨List.mem_union_iff.mpr hitem, ?_⟩))
    simp [CapabilityRegistry.known, hl]
  by_cases hoverridden : requested.filter (· ∈ prohibited) ≠ []
  · obtain ⟨item, hm⟩ := List.exists_mem_of_ne_nil _ hoverridden
    obtain ⟨hrequested, hprohibited⟩ := List.mem_filter.mp hm
    refine .inr (.inl ⟨⟨item, by simpa using hprohibited, item, hrequested, .refl⟩, ?_⟩)
    simp only [expandCapabilities, if_neg hunknown, if_pos hoverridden]
    exact ⟨_, rfl, rfl⟩
  simp only [expandCapabilities, if_neg hunknown, if_neg hoverridden]
  cases hexpanded : expandAll order registry requested prohibited with
  | error error =>
      rcases expandAll_error hexpanded with ⟨htype, hmeets⟩ | ⟨htype, hunregistered⟩
      · exact .inr (.inl ⟨hmeets, error, rfl, htype⟩)
      · exact .inr (.inr (.inl ⟨hknown, hunregistered, error, rfl, htype⟩))
  | ok expanded =>
      obtain ⟨hmeets, hregistered⟩ := expandAll_ok hexpanded
      have hrequired : ∀ item, item ∈ order.items expanded ↔ Required registry requested item := by
        intro item
        rw [Iteration.mem_items, expandAll_mem_iff hexpanded]
      cases hconflict : (order.items expanded).findSome? (conflictError registry expanded) with
      | none =>
          have hclear : ¬Conflicting registry requested := by
            rintro ⟨first, second, hf, hs, hconflicts⟩
            have hnone : conflictError registry expanded first = none :=
              List.findSome?_eq_none_iff.mp hconflict first ((hrequired first).mpr hf)
            have hexpanded : second ∈ expanded := Iteration.mem_items.mp ((hrequired second).mpr hs)
            exact conflictError_none hnone hexpanded hconflicts
          exact .inr (.inr (.inr (.inr ⟨hknown, hmeets, hregistered, hclear, expanded,
            by simp [hconflict]⟩)))
      | some error =>
          obtain ⟨first, hm, herror⟩ := List.exists_of_findSome?_eq_some hconflict
          have hf : Required registry requested first := (hrequired first).mp hm
          rcases conflictError_some herror with ⟨-, hl⟩ | ⟨htype, second, hs, hconflicts⟩
          · exact absurd ⟨first, hf, hl⟩ hregistered
          · have hs : Required registry requested second :=
              (hrequired second).mp (Iteration.mem_items.mpr hs)
            exact .inr (.inr (.inr (.inl ⟨hregistered, ⟨first, second, hf, hs, hconflicts⟩,
              error, by simp [hconflict], htype⟩)))

theorem raises_ne_ok {kind : String} (h : Raises order registry requested prohibited kind) :
    ¬∃ expanded, expandCapabilities order registry requested prohibited = .ok expanded := by
  rintro ⟨expanded, hok⟩
  obtain ⟨error, herror, -⟩ := h
  rw [hok] at herror
  cases herror

theorem raises_unique (hf : Raises order registry requested prohibited first)
    (hs : Raises order registry requested prohibited second) : first = second := by
  obtain ⟨error, herror, rfl⟩ := hf
  obtain ⟨other, hother, rfl⟩ := hs
  rw [Except.error.inj (herror.symm.trans hother)]

theorem unknown_raises (h : Unknown registry requested prohibited) :
    Raises order registry requested prohibited "ValueError" := by
  rcases expandCapabilities_cases order registry requested prohibited with
    ⟨-, hraises⟩ | ⟨-, hraises⟩ | ⟨hknown, -⟩ | ⟨-, -, hraises⟩ | ⟨hknown, -⟩
  · exact hraises
  · exact hraises
  · exact absurd h hknown
  · exact hraises
  · exact absurd h hknown

variable (order prohibited) in
-- With every capability of the closure registered, the checks decide alone.
theorem registered_decides (hregistered : ¬Unregistered registry requested) :
    (Raises order registry requested prohibited "ValueError" ∧
      (Unknown registry requested prohibited ∨ MeetsProhibited registry requested prohibited ∨
        Conflicting registry requested)) ∨
    ((∃ expanded, expandCapabilities order registry requested prohibited = .ok expanded) ∧
      ¬(Unknown registry requested prohibited ∨ MeetsProhibited registry requested prohibited ∨
        Conflicting registry requested)) := by
  rcases expandCapabilities_cases order registry requested prohibited with
    ⟨hunknown, hraises⟩ | ⟨hmeets, hraises⟩ | ⟨-, hunregistered, -⟩ | ⟨-, hconflict, hraises⟩ |
      ⟨hknown, hmeets, -, hclear, hok⟩
  · exact .inl ⟨hraises, .inl hunknown⟩
  · exact .inl ⟨hraises, .inr (.inl hmeets)⟩
  · exact absurd hunregistered hregistered
  · exact .inl ⟨hraises, .inr (.inr hconflict)⟩
  · refine .inr ⟨hok, ?_⟩
    rintro (hunknown | hmeets' | hconflict)
    · exact hknown hunknown
    · exact hmeets hmeets'
    · exact hclear hconflict

theorem unregistered_raises (hknown : ¬Unknown registry requested prohibited)
    (hunregistered : Unregistered registry requested) :
    Raises order registry requested prohibited "KeyError" ∨
      (Raises order registry requested prohibited "ValueError" ∧
        MeetsProhibited registry requested prohibited) := by
  rcases expandCapabilities_cases order registry requested prohibited with
    ⟨hunknown, -⟩ | ⟨hmeets, hraises⟩ | ⟨-, -, hraises⟩ | ⟨hregistered, -⟩ | ⟨-, -, hregistered, -⟩
  · exact absurd hunknown hknown
  · exact .inr ⟨hraises, hmeets⟩
  · exact .inl hraises
  · exact absurd hunregistered hregistered
  · exact absurd hunregistered hregistered

theorem expandCapabilities_clear
    (h : expandCapabilities order registry requested prohibited = .ok expanded) :
    ¬MeetsProhibited registry requested prohibited ∧ ¬Conflicting registry requested := by
  obtain ⟨hmeets, hregistered⟩ := expandAll_ok (expandCapabilities_ok h)
  rcases registered_decides order prohibited hregistered with
    ⟨hraises, -⟩ | ⟨-, hclear⟩
  · exact absurd ⟨expanded, h⟩ (raises_ne_ok hraises)
  · exact ⟨hmeets, fun hconflict => hclear (.inr (.inr hconflict))⟩

theorem expandCapabilities_isLeast
    (h : expandCapabilities order registry requested prohibited = .ok expanded) :
    IsLeast (ClosedOver registry requested) {item | item ∈ expanded} := by
  have hset : {item | item ∈ expanded} = {item | Required registry requested item} := by
    ext item
    exact expandCapabilities_mem_iff h
  rw [hset]
  exact required_isLeast

end Closure

section Granted

variable {order : Iteration} {registry : CapabilityRegistry} {requested prohibited : List String}
  {candidate : Option (List String)} {decision : PolicyDecision}

theorem judge_granted {profile : PolicyProfile} {expanded : List String}
    (h : PolicyEngine.judge profile expanded candidate = decision)
    (hallowed : decision.allowed = true) :
    (∀ item ∈ expanded, item ∈ profile.allowed ∧ item ∉ profile.denied) ∧
      decision.approvalRequirements = sorted (profile.approvalFor.filter (· ∈ expanded)) := by
  unfold PolicyEngine.judge at h
  dsimp only at h
  split_ifs at h with hdenied
  · subst h
    cases hallowed
  · subst h
    cases hallowed
  all_goals
    subst h
    refine ⟨fun item hm => ?_, rfl⟩
    have hkept : ¬(item ∈ profile.denied ∨ item ∉ profile.allowed) := by
      intro hrejected
      exact hdenied (List.ne_nil_of_mem (List.mem_filter.mpr ⟨hm, by simpa using hrejected⟩))
    rw [not_or, not_not] at hkept
    exact ⟨hkept.2, hkept.1⟩

theorem evaluate_judges {engine : PolicyEngine} {request : RuntimeTaskRequest}
    (h : engine.evaluate order request candidate = .ok decision)
    (hallowed : decision.allowed = true) :
    ∃ profile, engine.profiles.lookup request.policyProfile = some profile ∧
      profile.enabled = true ∧
      PolicyEngine.judge profile decision.grantedCapabilities candidate = decision := by
  have hexpanded := PolicyEngine.evaluate_allowed h hallowed
  unfold PolicyEngine.evaluate PolicyEngine.get at h
  cases hprofile : engine.profiles.lookup request.policyProfile with
  | none =>
      rw [hprofile] at h
      cases h
  | some profile =>
      simp only [hprofile, hexpanded] at h
      split at h
      · obtain rfl := Except.ok.inj h
        cases hallowed
      next henabled => exact ⟨profile, rfl, by simpa using henabled, Except.ok.inj h⟩

theorem mem_sorted {items : List String} {item : String} : item ∈ sorted items ↔ item ∈ items :=
  (List.perm_insertionSort (· ≤ ·) items).mem_iff

-- A dependency that the registry does not have ends the expansion in the KeyError
-- of the lookup, unless a prohibited capability is met before it.
theorem capability_closure (order : Iteration) (registry : CapabilityRegistry)
    (requested prohibited : List String) :
    (∀ expanded, expandCapabilities order registry requested prohibited = .ok expanded →
      IsLeast (ClosedOver registry requested) {item | item ∈ expanded} ∧
      (∀ item ∈ expanded, item ∉ prohibited) ∧
      ∀ first ∈ expanded, ∀ second ∈ expanded, ¬Conflicts registry first second) ∧
    (Unknown registry requested prohibited →
      Raises order registry requested prohibited "ValueError") ∧
    (¬Unregistered registry requested →
      ((Raises order registry requested prohibited "ValueError" ↔
        Unknown registry requested prohibited ∨ MeetsProhibited registry requested prohibited ∨
          Conflicting registry requested) ∧
      ((∃ expanded, expandCapabilities order registry requested prohibited = .ok expanded) ↔
        ¬(Unknown registry requested prohibited ∨ MeetsProhibited registry requested prohibited ∨
          Conflicting registry requested)))) ∧
    (¬Unknown registry requested prohibited → Unregistered registry requested →
      Raises order registry requested prohibited "KeyError" ∨
        (Raises order registry requested prohibited "ValueError" ∧
          MeetsProhibited registry requested prohibited)) ∧
    ∀ engine : PolicyEngine, ∀ request : RuntimeTaskRequest, ∀ candidate decision,
      engine.registry = registry → request.requestedCapabilities = requested →
      request.prohibitedCapabilities = prohibited →
      engine.evaluate order request candidate = .ok decision → decision.allowed = true →
      IsLeast (ClosedOver registry requested) {item | item ∈ decision.grantedCapabilities} ∧
      ∃ profile, engine.profiles.lookup request.policyProfile = some profile ∧
        profile.enabled = true ∧
        (∀ item ∈ decision.grantedCapabilities,
          item ∈ profile.allowed ∧ item ∉ profile.denied) ∧
        ∀ item, item ∈ decision.approvalRequirements ↔
          item ∈ decision.grantedCapabilities ∧ item ∈ profile.approvalFor := by
  refine ⟨fun expanded hok => ?_, unknown_raises, fun hregistered => ?_, unregistered_raises, ?_⟩
  · obtain ⟨hmeets, hclear⟩ := expandCapabilities_clear hok
    refine ⟨expandCapabilities_isLeast hok, fun item hm hprohibited => ?_, ?_⟩
    · exact hmeets ⟨item, hprohibited, (expandCapabilities_mem_iff hok).mp hm⟩
    · intro first hf second hs hconflicts
      exact hclear ⟨first, second, (expandCapabilities_mem_iff hok).mp hf,
        (expandCapabilities_mem_iff hok).mp hs, hconflicts⟩
  · rcases registered_decides order prohibited hregistered with ⟨hraises, hfails⟩ | ⟨hok, hpasses⟩
    · exact ⟨⟨fun _ => hfails, fun _ => hraises⟩,
        ⟨fun hok => absurd hok (raises_ne_ok hraises), fun hpasses => absurd hfails hpasses⟩⟩
    · exact ⟨⟨fun hraises => absurd hok (raises_ne_ok hraises), fun hfails => absurd hfails hpasses⟩,
        ⟨fun _ => hpasses, fun _ => hok⟩⟩
  · rintro engine request candidate decision rfl rfl rfl hdecision hallowed
    have hexpanded := PolicyEngine.evaluate_allowed hdecision hallowed
    refine ⟨expandCapabilities_isLeast hexpanded, ?_⟩
    obtain ⟨profile, hprofile, henabled, hjudge⟩ := evaluate_judges hdecision hallowed
    obtain ⟨hwithin, happrovals⟩ := judge_granted hjudge hallowed
    refine ⟨profile, hprofile, henabled, hwithin, fun item => ?_⟩
    rw [happrovals, mem_sorted, List.mem_filter, decide_eq_true_eq, and_comm]

theorem capability_closure_patch :
    IsLeast (ClosedOver .builtin ["repository.patch"])
      {item | item ∈ ["workspace.contained", "filesystem.write", "repository.write",
        "repository.patch"]} :=
  ((capability_closure .asGiven .builtin ["repository.patch"] []).1 _ (by decide +kernel)).1

def Iteration.backwards : Iteration := ⟨List.reverse, List.reverse_perm⟩

def deployRegistry : CapabilityRegistry :=
  .ofDefinitions
    [{ capabilityId := "deploy", dependencies := ["network.write", "cluster.access"] },
      { capabilityId := "network.write" }]

-- The closure meets the prohibited set, and which error is raised is up to the
-- order in which the dependencies are met.
theorem prohibited_behind_unregistered :
    MeetsProhibited deployRegistry ["deploy"] ["network.write"] ∧
      Raises .asGiven deployRegistry ["deploy"] ["network.write"] "KeyError" ∧
      ¬Raises .asGiven deployRegistry ["deploy"] ["network.write"] "ValueError" ∧
      Raises .backwards deployRegistry ["deploy"] ["network.write"] "ValueError" := by
  have hkey : Raises .asGiven deployRegistry ["deploy"] ["network.write"] "KeyError" :=
    ⟨⟨"KeyError", "unknown capability: cluster.access"⟩, by decide +kernel, rfl⟩
  have hvalue : Raises .backwards deployRegistry ["deploy"] ["network.write"] "ValueError" :=
    ⟨⟨"ValueError", "prohibited capability required by expansion: network.write"⟩,
      by decide +kernel, rfl⟩
  have hdepends : Depends deployRegistry "deploy" "network.write" :=
    ⟨{ capabilityId := "deploy", dependencies := ["network.write", "cluster.access"] },
      by decide +kernel, by decide⟩
  refine ⟨⟨"network.write", by decide, "deploy", by decide, .single hdepends⟩, hkey, ?_, hvalue⟩
  intro hraises
  exact absurd (raises_unique hkey hraises) (by decide)

end Granted

end JoyMesh.Runtime
