import JoyMesh.Routing.Soundness

namespace JoyMesh.Routing

section Order

variable {σ : Type} [Score σ] {profiles : CapabilityProfiles σ} {analysis : TaskAnalysis}
  {policy : RoutingPolicy σ} {harnessId : String} {harnessIds : List String}

theorem mem_rankHarnessIds (h : harnessId ∈ rankHarnessIds profiles analysis policy harnessIds) :
    harnessId ∈ harnessIds := by
  unfold rankHarnessIds at h
  rcases List.mem_append.mp h with h | h
  · obtain ⟨scored, hscored, rfl⟩ := List.mem_map.mp h
    obtain ⟨other, hother, hfound⟩ := List.mem_filterMap.mp (mem_sortedBy.mp hscored)
    split at hfound
    · obtain rfl := Option.some.inj hfound
      exact hother
    · dsimp only at hfound
      split at hfound
      · obtain rfl := Option.some.inj hfound
        exact hother
      · cases hfound
  · exact (List.mem_filter.mp h).1

theorem mem_orderHarnesses {preferred : Option String}
    (h : harnessId ∈ orderHarnesses profiles analysis policy harnessIds preferred) :
    harnessId ∈ harnessIds := by
  have hranked : ∀ {others : List String}, (∀ other ∈ others, other ∈ harnessIds) →
      harnessId ∈ rankHarnessIds profiles analysis policy others → harnessId ∈ harnessIds :=
    fun hothers hmem => hothers _ (mem_rankHarnessIds hmem)
  unfold orderHarnesses at h
  dsimp only at h
  split at h
  · exact hranked (fun other hother => (List.mem_filter.mp hother).1) h
  next wanted =>
    split at h
    next hwanted =>
      rcases List.mem_cons.mp h with rfl | h
      · exact (List.mem_filter.mp hwanted).1
      · exact hranked
          (fun other hother => (List.mem_filter.mp (List.mem_filter.mp hother).1).1) h
    · exact hranked (fun other hother => (List.mem_filter.mp hother).1) h

end Order

namespace ExecutionRouter

variable {σ : Type} [Score σ] {router : ExecutionRouter σ} {intent : RoutedIntent σ}
  {harnessId chosenHarness : String} {candidates : Candidates σ} {selection : RouteSelection σ}
  {settled : Settled σ} {decision : ExecutionDecision} {wanted : String}

theorem mem_exploreHarnesses (h : harnessId ∈ router.exploreHarnesses intent) :
    harnessId ∈ router.availableHarnesses := by
  rcases List.mem_append.mp (List.mem_eraseDups.mp h) with h | h
  · obtain ⟨-, havailable⟩ := Option.filter_eq_some_iff.mp (Option.mem_toList.mp h)
    exact (of_decide_eq_true havailable).2
  · exact mem_orderHarnesses h

theorem mem_of_chooseHarness {harnessIds : List String}
    (h : router.chooseHarness intent harnessIds = .ok (some (chosenHarness, candidates))) :
    chosenHarness ∈ harnessIds := by
  induction harnessIds with
  | nil => cases h
  | cons next harnessIds ih =>
      obtain ⟨items, -, h⟩ := bind_eq_ok.mp h
      cases items with
      | nil => exact List.mem_cons_of_mem next (ih h)
      | cons first rest =>
          have hfound := Option.some.inj (Except.ok.inj h)
          exact List.mem_cons.mpr (.inl (congrArg Prod.fst hfound).symm)

-- What is settled is what some harness is offered, the selected backend included.
theorem settle_offered (hoffered : router.offered intent chosenHarness = .ok candidates.toList)
    (hsettle : router.settle intent chosenHarness candidates selection = .ok settled) :
    settled.backendId ∈ backendIds settled.candidates.toList ∧
      ∃ harnessId, router.offered intent harnessId = .ok settled.candidates.toList := by
  unfold settle at hsettle
  split at hsettle
  · obtain rfl := Except.ok.inj hsettle
    exact ⟨first_mem_backendIds candidates, chosenHarness, hoffered⟩
  next route _ =>
    obtain ⟨items, hitems, hsettle⟩ := bind_eq_ok.mp hsettle
    cases items with
    | nil =>
        dsimp only at hsettle
        split at hsettle
        next hmem =>
          obtain rfl := Except.ok.inj hsettle
          exact ⟨hmem, chosenHarness, hoffered⟩
        · obtain rfl := Except.ok.inj hsettle
          exact ⟨first_mem_backendIds candidates, chosenHarness, hoffered⟩
    | cons first rest =>
        dsimp only at hsettle
        split at hsettle
        next hmem =>
          obtain rfl := Except.ok.inj hsettle
          exact ⟨hmem, route.harnessId, hitems⟩
        · obtain rfl := Except.ok.inj hsettle
          exact ⟨first_mem_backendIds ⟨first, rest⟩, route.harnessId, hitems⟩

-- Every backend of a decision may be used by some harness, perhaps not by the
-- selected one.
theorem select_compatible (hselect : router.select intent = .ok decision) {backendId : String}
    (hmem : backendId ∈ decision.order) :
    ∃ harnessId, router.Compatible intent harnessId backendId := by
  obtain ⟨chosenHarness, candidates, selection, settled, hchosen, -, hsettle, rfl⟩ :=
    select_eq_ok hselect
  obtain ⟨hselected, harnessId, hoffered⟩ :=
    settle_offered (offered_of_chooseHarness hchosen) hsettle
  exact ⟨harnessId, (mem_offered hoffered).mp ((mem_order hselected).mp hmem)⟩

theorem settle_pinned (hpinned : pinned intent = true)
    (hsettle : router.settle intent chosenHarness candidates selection = .ok settled) :
    settled.harnessId = chosenHarness := by
  simp only [settle, hpinned, if_true] at hsettle
  obtain rfl := Except.ok.inj hsettle
  rfl

theorem exploreHarnesses_pinned (hwanted : intent.preferredHarness = some wanted)
    (hne : wanted ≠ "") (havailable : wanted ∈ router.availableHarnesses) :
    ∃ rest, router.exploreHarnesses intent = wanted :: rest := by
  have hexplore : router.exploreHarnesses intent =
      (wanted :: router.harnessOrder intent).eraseDups := by
    simp [exploreHarnesses, hwanted, hne, havailable, Option.filter_some]
  exact ⟨_, hexplore.trans List.eraseDups_cons⟩

-- A pinned harness is selected exactly when it is available and some backend
-- takes it. Otherwise the search falls through to another.
theorem select_pinned_iff (hwanted : intent.preferredHarness = some wanted) (hne : wanted ≠ "")
    (hselect : router.select intent = .ok decision) :
    decision.selectedHarnessId = wanted ↔
      wanted ∈ router.availableHarnesses ∧
        ∃ backendId, router.Compatible intent wanted backendId := by
  obtain ⟨chosenHarness, candidates, selection, settled, hchosen, -, hsettle, rfl⟩ :=
    select_eq_ok hselect
  have hpinned : pinned intent = true := by simp [pinned, hwanted, hne]
  have hoffered := offered_of_chooseHarness hchosen
  have hharness : (router.decisionOf intent settled).selectedHarnessId = chosenHarness :=
    settle_pinned hpinned hsettle
  rw [hharness]
  constructor
  · rintro rfl
    have hfirst := (mem_offered hoffered).mp (first_mem_backendIds candidates)
    exact ⟨mem_exploreHarnesses (mem_of_chooseHarness hchosen), _, hfirst⟩
  · rintro ⟨havailable, backendId, hcompatible⟩
    obtain ⟨rest, hexplore⟩ := exploreHarnesses_pinned hwanted hne havailable
    rw [chosen, hexplore] at hchosen
    obtain ⟨items, hitems, hfound⟩ := bind_eq_ok.mp hchosen
    have hmem := (mem_offered hitems).mpr hcompatible
    cases items with
    | nil => cases hmem
    | cons first rest =>
        exact (congrArg Prod.fst (Option.some.inj (Except.ok.inj hfound))).symm

end ExecutionRouter

end JoyMesh.Routing
