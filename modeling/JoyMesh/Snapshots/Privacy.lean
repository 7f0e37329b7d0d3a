import JoyMesh.Snapshots.Service

namespace JoyMesh.Snapshots

open JoyMesh.Library JoyMesh.Routing JoyMesh.Harnesses

section Definitions

variable (python : Interpreter)

mutual

-- The keys inside the lists of what is kept, which are not looked at.
def unsanitized : Value → List String
  | .dict items => unsanitizedItems items
  | .list items => visitedList items
  | _ => []

def unsanitizedItems : Metadata → List String
  | [] => []
  | (key, value) :: rest =>
      if droppedKey python key then unsanitizedItems rest
      else unsanitizedItems rest ++ unsanitized value

end

-- No forbidden key is inside a list of what is kept.
def Sanitary (metadata : Metadata) : Prop :=
  ∀ key ∈ unsanitizedItems python metadata, forbiddenKey python key = false

instance (metadata : Metadata) : Decidable (Sanitary python metadata) :=
  inferInstanceAs (Decidable (∀ key ∈ unsanitizedItems python metadata, _))

-- No forbidden key is anywhere in it.
def Clean (payload : Value) : Prop := ∀ key ∈ visited payload, forbiddenKey python key = false

def RuntimeSnapshot.Private (snapshot : RuntimeSnapshot) : Prop := Clean python (snapshot.asDict python)

-- A provider answers with no forbidden key inside a list of what is kept.
def AnswersSanitary (setup : Setup) (op : Op) (choice : Choice) : Prop :=
  match op with
  | .endProbe _ _ => choice.raised = none → Sanitary setup.python choice.probe.rawMetadata
  | _ => True

variable {setup : Setup}

instance (op : Op) (choice : Choice) : Decidable (AnswersSanitary setup op choice) := by
  unfold AnswersSanitary
  split <;> infer_instance

def AnsweredSanitary (w : (snapshots setup).World) : (snapshots setup).Label → Prop
  | .go id choice => ∀ op ∈ w.awaiting id, AnswersSanitary setup op choice
  | _ => True

instance (w : (snapshots setup).World) : DecidablePred (AnsweredSanitary w)
  | .go id choice =>
      inferInstanceAs (Decidable (∀ op ∈ w.awaiting id, AnswersSanitary setup op choice))
  | .start _ _ => .isTrue trivial
  | .outside _ => .isTrue trivial

-- No snapshot that is cached, published or returned has a forbidden key, and none that was cached
-- has been refused for one.
structure KeepsPrivate (w : (snapshots setup).World) : Prop where
  cached : ∀ snapshot expires, w.state.shared.cached = some (snapshot, expires) →
    snapshot.Private setup.python
  published : ∀ snapshot ∈ w.state.shared.published, snapshot.Private setup.python
  returned : ∀ id call snapshot,
    w.threads id = some ⟨call, .ended (.ok (.snapshot snapshot))⟩ → snapshot.Private setup.python
  accepted : ∀ id snapshot answer, .did id (.putCached snapshot) answer ∈ w.state.history →
    assertPrivacy setup.python (snapshot.asDict setup.python) = .ok ()

end Definitions

section Metadata

variable {python : Interpreter} {key : String} {payload : Value} {metadata rest : Metadata}
  {snapshot : RuntimeSnapshot} {entry : HarnessRuntimeSnapshot} {quota : QuotaSnapshot}

theorem forbidden_of_dropped (h : droppedKey python key = false) : forbiddenKey python key = false := by
  rw [droppedKey, Bool.or_eq_false_iff] at h
  exact h.1

mutual

-- A forbidden key is left only inside a list.
theorem mem_visited_sanitize (h : forbiddenKey python key = true) : ∀ payload : Value,
    key ∈ visited (sanitize python payload) ↔ key ∈ unsanitized python payload
  | .dict items => by
      rw [sanitize, visited, unsanitized, List.mem_append]
      exact mem_visited_sanitizeProviderMetadata h items
  | .list items => by rw [sanitize, visited, unsanitized]; exact nofun
  | .none | .bool _ | .int _ | .float _ | .str _ => by rw [sanitize, visited, unsanitized] <;> exact nofun

theorem mem_visited_sanitizeProviderMetadata (h : forbiddenKey python key = true) :
    ∀ metadata : Metadata,
      key ∈ (sanitizeProviderMetadata python metadata).map Prod.fst ∨
          key ∈ visitedItems (sanitizeProviderMetadata python metadata) ↔
        key ∈ unsanitizedItems python metadata
  | [] => by simp [sanitizeProviderMetadata, visitedItems, unsanitizedItems]
  | (name, value) :: rest => by
      have hvalue := mem_visited_sanitize h value
      have hrest := mem_visited_sanitizeProviderMetadata h rest
      rw [sanitizeProviderMetadata, unsanitizedItems]
      by_cases hdropped : droppedKey python name = true
      · rw [if_pos hdropped, if_pos hdropped]
        exact hrest
      · rw [if_neg hdropped, if_neg hdropped]
        have hname : key ≠ name := by
          rintro rfl
          rw [forbidden_of_dropped (by simpa using hdropped)] at h
          cases h
        rw [List.map_cons, List.mem_cons, visitedItems, List.mem_append, List.mem_append, hvalue,
          ← hrest]
        simp only [hname, false_or, or_assoc]

end

theorem clean_sanitize_iff :
    Clean python (.dict (sanitizeProviderMetadata python metadata)) ↔ Sanitary python metadata := by
  have hmem : ∀ key, forbiddenKey python key = true →
      (key ∈ visited (.dict (sanitizeProviderMetadata python metadata)) ↔
        key ∈ unsanitizedItems python metadata) := by
    intro key hkey
    rw [visited, List.mem_append]
    exact mem_visited_sanitizeProviderMetadata hkey metadata
  constructor
  · intro h key hunsanitized
    by_contra hforbidden
    rw [Bool.not_eq_false] at hforbidden
    rw [h key ((hmem key hforbidden).mpr hunsanitized)] at hforbidden
    cases hforbidden
  · intro h key hvisited
    by_contra hforbidden
    rw [Bool.not_eq_false] at hforbidden
    rw [h key ((hmem key hforbidden).mp hvisited)] at hforbidden
    cases hforbidden

theorem mem_visitedItems : key ∈ visitedItems metadata ↔ ∃ item ∈ metadata, key ∈ visited item.2 := by
  induction metadata with
  | nil => simp [visitedItems]
  | cons item rest ih =>
      obtain ⟨name, value⟩ := item
      simp only [visitedItems, List.mem_append, ih, List.exists_mem_cons_iff]
      exact or_comm

theorem mem_visitedList {items : List Value} :
    key ∈ visitedList items ↔ ∃ item ∈ items, key ∈ visited item := by
  induction items with
  | nil => simp [visitedList]
  | cons item rest ih =>
      simp only [visitedList, List.mem_append, ih, List.exists_mem_cons_iff]
      exact or_comm

-- A key of the contract is a plain name that is not forbidden.
def ownKey (key : String) : Bool := plain key && !forbiddenMetadataKeys.contains key

theorem ownKey_allowed (h : ownKey key = true) : forbiddenKey python key = false := by
  rw [ownKey, Bool.and_eq_true, Bool.not_eq_true'] at h
  obtain ⟨hplain, hallowed⟩ := h
  have hdashes : key.toList.map (fun c => if c = '-' then '_' else c) = key.toList := by
    refine (List.map_congr_left fun c hc => if_neg ?_).trans (List.map_id _)
    rintro rfl
    have hdash := List.all_eq_true.mp hplain '-' hc
    revert hdash
    decide
  rw [forbiddenKey, loweredKey, python.lower_plain key hplain, hdashes, String.ofList_toList]
  exact hallowed

-- The names of the contract.
def ownKeys : List String :=
  ["snapshot_id", "observed_at", "schema_version", "harnesses", "harness_id", "availability",
    "authenticated", "configured", "quota", "capabilities", "execution_state", "recent_usage",
    "recent_quality", "latency", "provider_metadata", "quota_visibility", "state",
    "credits_remaining", "requests_remaining", "tokens_remaining", "reset_at", "source",
    "raw_metadata", "input_tokens", "output_tokens", "total_tokens", "execution_count",
    "last_execution", "average_duration_ms", "level", "average_ms", "last_ms", "p95_ms"]

theorem ownKeys_own : ∀ key ∈ ownKeys, ownKey key = true := by decide +kernel

theorem clean_dict (hkeys : ∀ key ∈ metadata.map Prod.fst, key ∈ ownKeys)
    (hvalues : ∀ item ∈ metadata, Clean python item.2) : Clean python (.dict metadata) := by
  intro key hkey
  rw [visited, List.mem_append, mem_visitedItems] at hkey
  rcases hkey with hkey | ⟨item, hitem, hkey⟩
  · exact ownKey_allowed (ownKeys_own key (hkeys key hkey))
  · exact hvalues item hitem key hkey

theorem clean_list {items : List Value} (h : ∀ item ∈ items, Clean python item) :
    Clean python (.list items) := by
  intro key hkey
  rw [visited, mem_visitedList] at hkey
  obtain ⟨item, hitem, hkey⟩ := hkey
  exact h item hitem key hkey

-- What has no keys.
def keyless : Value → Bool
  | .list _ => false
  | .dict _ => false
  | _ => true

theorem clean_keyless (h : keyless payload = true) : Clean python payload := by
  cases payload with
  | list | dict => cases h
  | _ => simp [Clean, visited]

theorem keyless_ofOption (text : Option String) : keyless (.ofOption text) = true := by
  cases text <;> rfl

theorem keyless_float (value : Option ℚ) : keyless (python.float value) = true := by
  cases value <;> rfl

theorem keyless_int (value : Option Int) : keyless (value.elim .none .int) = true := by
  cases value <;> rfl

theorem clean_quota (h : Clean python (.dict quota.rawMetadata)) : Clean python (quota.asDict python) := by
  refine clean_dict (by simp [ownKeys]) ?_
  simp only [List.forall_mem_cons, List.not_mem_nil, false_imp_iff, implies_true, and_true]
  refine ⟨clean_keyless rfl, clean_keyless rfl, clean_keyless rfl, clean_keyless rfl, clean_keyless rfl,
    clean_keyless rfl, clean_keyless (keyless_float _), clean_keyless (keyless_int _),
    clean_keyless (keyless_int _), clean_keyless (keyless_ofOption _), clean_keyless rfl,
    clean_keyless rfl, h⟩

theorem clean_usage {usage : UsageSnapshot} : Clean python (usage.asDict python) := by
  refine clean_dict (by simp [ownKeys]) ?_
  simp only [List.forall_mem_cons, List.not_mem_nil, false_imp_iff, implies_true, and_true]
  exact ⟨clean_keyless rfl, clean_keyless rfl, clean_keyless rfl, clean_keyless rfl,
    clean_keyless (keyless_ofOption _), clean_keyless (keyless_float _)⟩

theorem clean_latency {latency : LatencySnapshot} : Clean python (latency.asDict python) := by
  refine clean_dict (by simp [ownKeys]) ?_
  simp only [List.forall_mem_cons, List.not_mem_nil, false_imp_iff, implies_true, and_true]
  exact ⟨clean_keyless (keyless_float _), clean_keyless (keyless_float _),
    clean_keyless (keyless_float _)⟩

theorem clean_entry (hquota : Clean python (.dict entry.quota.rawMetadata))
    (hprovider : Clean python (.dict entry.providerMetadata)) : Clean python (entry.asDict python) := by
  refine clean_dict (by simp [ownKeys]) ?_
  simp only [List.forall_mem_cons, List.not_mem_nil, false_imp_iff, implies_true, and_true]
  refine ⟨clean_keyless rfl, clean_keyless rfl, clean_keyless rfl, clean_keyless rfl,
    clean_quota hquota, clean_list fun item hitem => ?_, clean_keyless rfl, clean_usage,
    clean_dict (by simp [ownKeys]) fun item hitem => ?_, clean_latency, hprovider⟩
  · obtain ⟨capability, -, rfl⟩ := List.mem_map.mp hitem
    exact clean_keyless rfl
  · obtain rfl := List.mem_singleton.mp hitem
    exact clean_keyless rfl

theorem private_of_entries (h : ∀ entry ∈ snapshot.harnesses, Clean python (entry.asDict python)) :
    snapshot.Private python := by
  refine clean_dict (by simp [ownKeys]) ?_
  simp only [List.forall_mem_cons, List.not_mem_nil, false_imp_iff, implies_true, and_true]
  refine ⟨clean_keyless rfl, clean_keyless rfl, clean_keyless rfl, clean_list fun item hitem => ?_⟩
  obtain ⟨entry, hentry, rfl⟩ := List.mem_map.mp hitem
  exact h entry hentry

theorem mem_unsanitizedItems : key ∈ unsanitizedItems python metadata ↔
    ∃ item ∈ metadata, droppedKey python item.1 = false ∧ key ∈ unsanitized python item.2 := by
  induction metadata with
  | nil => simp [unsanitizedItems]
  | cons item rest ih =>
      obtain ⟨name, value⟩ := item
      rw [unsanitizedItems, List.exists_mem_cons_iff]
      split
      next hdropped => simp [ih, hdropped]
      next hkept =>
        rw [List.mem_append, ih, or_comm]
        simp [hkept]

theorem Sanitary.subset (h : Sanitary python metadata) (hrest : rest ⊆ metadata) :
    Sanitary python rest := by
  intro key hkey
  obtain ⟨item, hitem, hkept, hmem⟩ := mem_unsanitizedItems.mp hkey
  exact h key (mem_unsanitizedItems.mpr ⟨item, hrest hitem, hkept, hmem⟩)

theorem Sanitary.append (h : Sanitary python metadata) (hrest : Sanitary python rest) :
    Sanitary python (metadata ++ rest) := by
  intro key hkey
  obtain ⟨item, hitem, hkept, hmem⟩ := mem_unsanitizedItems.mp hkey
  rcases List.mem_append.mp hitem with hitem | hitem
  · exact h key (mem_unsanitizedItems.mpr ⟨item, hitem, hkept, hmem⟩)
  · exact hrest key (mem_unsanitizedItems.mpr ⟨item, hitem, hkept, hmem⟩)

theorem unsanitized_keyless (h : keyless payload = true) : unsanitized python payload = [] := by
  cases payload with
  | list | dict => cases h
  | _ => simp [unsanitized]

theorem sanitary_keyless (h : ∀ item ∈ metadata, keyless item.2 = true) : Sanitary python metadata := by
  intro key hkey
  obtain ⟨item, hitem, -, hmem⟩ := mem_unsanitizedItems.mp hkey
  rw [unsanitized_keyless (h item hitem)] at hmem
  exact absurd hmem List.not_mem_nil

theorem sanitary_observation {observation : Observation} (name : String) :
    Sanitary python [(name, observation.metadata)] := by
  have hmetadata : Sanitary python [("success", .bool observation.success),
      ("failure_kind", .ofOption (observation.failureKind.map FailureKind.value)),
      ("detail", .ofOption (given (observation.detail.map fun text =>
        String.ofList (text.toList.take 240)))),
      ("usage_tokens", observation.usageTokens.elim .none .int)] := by
    refine sanitary_keyless ?_
    simp only [List.forall_mem_cons, List.not_mem_nil, false_imp_iff, implies_true, and_true]
    exact ⟨rfl, keyless_ofOption _, keyless_ofOption _, keyless_int _⟩
  intro key hkey
  obtain ⟨item, hitem, -, hmem⟩ := mem_unsanitizedItems.mp hkey
  obtain rfl := List.mem_singleton.mp hitem
  rw [Observation.metadata, unsanitized] at hmem
  exact hmetadata key hmem

theorem setItem_subset {name : String} {value : Value} :
    setItem metadata name value ⊆ metadata ++ [(name, value)] := by
  unfold setItem
  split
  · intro item hitem
    obtain ⟨before, hbefore, rfl⟩ := List.mem_map.mp hitem
    split
    · exact List.mem_append_right _ (List.mem_singleton_self _)
    · exact List.mem_append_left _ hbefore
  · exact fun _ h => h

theorem rawMetadata_applyObservation {now : Datetime} {observation : Observation} :
    (applyObservation python now quota observation).rawMetadata =
      setItem quota.rawMetadata "last_observation" observation.metadata := by
  unfold applyObservation
  split
  · rfl
  · split <;> rfl

theorem sanitary_applyObservation {now : Datetime} {observation : Observation}
    (h : Sanitary python quota.rawMetadata) :
    Sanitary python (applyObservation python now quota observation).rawMetadata := by
  rw [rawMetadata_applyObservation]
  exact (h.append (sanitary_observation _)).subset setItem_subset

-- What is built from a sanitary quota has no forbidden key.
theorem clean_harnessEntry {setup : Setup} {harnessId : String} {stats : HarnessStats}
    (h : Sanitary setup.python quota.rawMetadata) :
    Clean setup.python ((harnessEntry setup harnessId quota stats).asDict setup.python) := by
  refine clean_entry (clean_sanitize_iff.mpr h) (clean_sanitize_iff.mpr (.append ?_ ?_))
  · refine sanitary_keyless ?_
    simp only [List.forall_mem_cons, List.not_mem_nil, false_imp_iff, implies_true, and_true]
    exact ⟨keyless_ofOption _, rfl, rfl, rfl, rfl⟩
  · exact h.subset (List.filter_subset_self _)

end Metadata

section Discipline

variable {setup : Setup} {s t : (snapshots setup).State} {id : Nat} {op : Op} {choice : Choice}
  {shared after : Shared} {answer : Except Raised op.Reply} {event : (snapshots setup).Event}
  {snapshot : RuntimeSnapshot}

theorem RuntimeSnapshot.Private.accepted {python : Interpreter} (h : snapshot.Private python) :
    assertPrivacy python (snapshot.asDict python) = .ok () := by
  have hnone : (visited (snapshot.asDict python)).find? (forbiddenKey python) = none :=
    List.find?_eq_none.mpr fun key hkey => by rw [h key hkey]; exact Bool.false_ne_true
  rw [assertPrivacy, hnone]

-- What is stored is sanitary, and what is cached or published is private.
def Discreet (setup : Setup) : Op → Prop
  | .storeProbe quota => Sanitary setup.python quota.rawMetadata
  | .storeObserved _ quota => Sanitary setup.python quota.rawMetadata
  | .putCached snapshot => snapshot.Private setup.python
  | .publish snapshot => snapshot.Private setup.python
  | _ => True

structure Secret (s : (snapshots setup).State) : Prop where
  quotas : ∀ harnessId quota expires, s.shared.quotas harnessId = some (quota, expires) →
    Sanitary setup.python quota.rawMetadata
  cached : ∀ snapshot expires, s.shared.cached = some (snapshot, expires) →
    snapshot.Private setup.python
  published : ∀ snapshot ∈ s.shared.published, snapshot.Private setup.python
  accepted : ∀ id snapshot answer, .did id (.putCached snapshot) answer ∈ s.history →
    snapshot.Private setup.python

theorem published_of_effect (heffect : effect setup op choice shared = some (answer, after)) :
    (∃ snapshot, op = .publish snapshot ∧ after.published = snapshot :: shared.published) ∨
      after.published = shared.published := by
  cases op with
  | publish snapshot =>
      simp only [effect, answered] at heffect
      split at heffect <;> cases heffect
      · exact .inl ⟨snapshot, rfl, rfl⟩
      · exact .inl ⟨snapshot, rfl, rfl⟩
  | acquire =>
      simp only [effect] at heffect
      split at heffect
      · split at heffect <;> cases heffect
        exact .inr rfl
      · cases heffect
        exact .inr rfl
  | endProbe =>
      simp only [effect, answered] at heffect
      split at heffect <;> cases heffect <;> exact .inr rfl
  | invalidateQuota observed => cases observed <;> cases heffect <;> exact .inr rfl
  | _ =>
      cases heffect
      exact .inr rfl

theorem Secret.did (h : Secret s) (hdiscreet : Discreet setup op)
    (heffect : effect setup op choice s.shared = some (answer, after)) :
    Secret (s.note (.did id op answer) after) where
  quotas harnessId quota expires hquota := by
    rcases quotas_of_effect heffect hquota with ⟨-, rfl | ⟨observation, rfl⟩⟩ | ⟨hbefore, -⟩
    · exact hdiscreet
    · exact hdiscreet
    · exact h.quotas harnessId quota expires hbefore
  cached snapshot expires hcached := by
    rcases cached_of_effect heffect hcached with rfl | ⟨-, hbefore⟩
    · exact hdiscreet
    · exact h.cached snapshot expires hbefore
  published snapshot hmem := by
    rcases published_of_effect heffect with ⟨latest, rfl, hpublished⟩ | hpublished
    · rw [System.State.note_shared, hpublished] at hmem
      rcases List.mem_cons.mp hmem with rfl | hmem
      · exact hdiscreet
      · exact h.published snapshot hmem
    · rw [System.State.note_shared, hpublished] at hmem
      exact h.published snapshot hmem
  accepted other snapshot stored hmem := by
    rcases List.mem_append.mp hmem with hmem | hmem
    · exact h.accepted other snapshot stored hmem
    · cases List.mem_singleton.mp hmem
      exact hdiscreet

theorem Secret.noted (h : Secret s) (hquotas : shared.quotas = s.shared.quotas)
    (hcached : shared.cached = s.shared.cached) (hpublished : shared.published = s.shared.published)
    (hevent : ∀ id op answer, event ≠ .did id op answer) : Secret (s.note event shared) where
  quotas harnessId quota expires hquota := h.quotas harnessId quota expires (hquotas ▸ hquota)
  cached snapshot expires hentry := h.cached snapshot expires (hcached ▸ hentry)
  published snapshot hmem := h.published snapshot (hpublished ▸ hmem)
  accepted other snapshot stored hmem := by
    rcases List.mem_append.mp hmem with hmem | hmem
    · exact h.accepted other snapshot stored hmem
    · exact absurd (List.mem_singleton.mp hmem).symm (hevent _ _ _)

def privacyDiscipline (setup : Setup) : (snapshots setup).Discipline where
  good := Secret
  fresh _ _ := True
  rely _ _ _ := True
  lawful _ op _ := Discreet setup op
  post _ _ result _ := ∀ snapshot, result = .ok (.snapshot snapshot) → snapshot.Private setup.python
  admitted _ _ _ := True
  allowed _ op choice _ := AnswersSanitary setup op choice
  happens _ _ := True
  rely_refl _ _ := trivial
  rely_trans _ _ _ _ _ _ := trivial
  fresh_rely _ _ _ _ _ := trivial
  post_rely _ _ _ _ _ _ h := h
  step_good _ _ _ _ _ _ hgood hdiscreet _ heffect := hgood.did hdiscreet heffect
  step_rely _ _ _ _ _ _ _ _ _ _ _ _ := trivial
  enter_good _ _ _ _ hgood _ _ henter := by
    cases henter
    exact hgood.noted rfl rfl rfl fun _ _ _ => nofun
  enter_rely _ _ _ _ _ _ _ _ _ := trivial
  leave_good _ _ _ _ hgood _ := hgood.noted rfl rfl rfl fun _ _ _ => nofun
  leave_rely _ _ _ _ _ _ _ _ := trivial
  leave_post _ _ _ _ h := h
  outside_good _ _ _ hgood _ hevent := by
    cases hevent
    exact hgood.noted rfl rfl rfl fun _ _ _ => nofun
  outside_rely _ _ _ _ _ _ _ := trivial

end Discipline

section Programs

variable {setup : Setup} {s : (snapshots setup).State} {id : Nat} {harnessId : String}
  {refresh : Bool} {harnessIds : Option (List String)}

-- The awaits that are discreet whatever they are about.
def Plain : Op → Prop
  | .storeProbe _ | .storeObserved _ _ | .putCached _ | .publish _ => False
  | _ => True

theorem Plain.discreet {op : Op} (h : Plain op) : Discreet setup op := by
  cases op with
  | storeProbe | storeObserved | putCached | publish => exact h.elim
  | _ => trivial

theorem probed_sanitary {purpose : Purpose} {metadata : RuntimeError → Metadata}
    (hmetadata : ∀ error, Sanitary setup.python (metadata error)) :
    (probed purpose harnessId metadata).Holds (privacyDiscipline setup) id
      (Program.Yields fun quota _ => Sanitary setup.python quota.rawMetadata) s := by
  have hprobe : (asyncQuotaSnapshot purpose harnessId).Holds (privacyDiscipline setup) id
      (Program.Yields fun quota _ => Sanitary setup.python quota.rawMetadata) s := by
    refine .perform_bind (fun _ _ _ => trivial) (fun t _ _ _ _ _ _ _ => ?_)
      fun _ _ _ _ _ _ _ _ => trivial
    refine fun u _ _ => ⟨trivial, fun choice answer shared hanswers heffect => ?_⟩
    cases answer with
    | error => trivial
    | ok quota =>
        have hanswer : answered choice { choice.probe with harnessId := harnessId } u.shared =
            some (.ok quota, shared) := heffect
        unfold answered at hanswer
        split at hanswer
        next hnone =>
          cases hanswer
          exact hanswers hnone
        next => cases hanswer
  refine hprobe.catching (fun _ _ h => h) fun raised t _ => ?_
  cases raised with
  | exception error =>
      exact .perform_bind (fun _ _ _ => trivial) (fun _ _ _ _ _ _ _ _ => hmetadata error)
        fun _ _ _ _ _ _ _ _ => trivial
  | _ => trivial

theorem storedProbe_sanitary : (storedProbe harnessId).Holds (privacyDiscipline setup) id
    (Program.Yields fun quota _ => Sanitary setup.python quota.rawMetadata) s := by
  have hmetadata : ∀ error : RuntimeError,
      Sanitary setup.python [("probe_error", .str error.type)] := fun error =>
    sanitary_keyless fun item hitem => by rw [List.mem_singleton.mp hitem]; rfl
  refine (probed_sanitary hmetadata).yields_bind fun quota t h => ?_
  exact .perform_bind (fun _ _ _ => h) (fun _ _ _ _ _ _ _ _ => h) fun _ _ _ _ _ _ _ _ => trivial

theorem cachedQuota_sanitary : (cachedQuota harnessId refresh).Holds (privacyDiscipline setup) id
    (Program.Yields fun found _ => ∀ quota ∈ found, Sanitary setup.python quota.rawMetadata) s := by
  unfold cachedQuota
  split
  · exact fun quota hquota => by cases hquota
  · refine fun t _ hgood => ⟨trivial, fun choice answer shared _ heffect => ?_⟩
    cases heffect
    intro quota hquota
    obtain ⟨⟨quota, expires⟩, halive, rfl⟩ := Option.map_eq_some_iff.mp hquota
    exact hgood.quotas harnessId quota expires (Option.filter_eq_some_iff.mp halive).1

theorem quotaSnapshot_sanitary : (quotaSnapshot harnessId refresh).Holds (privacyDiscipline setup) id
    (Program.Yields fun quota _ => Sanitary setup.python quota.rawMetadata) s := by
  refine cachedQuota_sanitary.yields_bind fun found t h => ?_
  cases found with
  | some quota => exact h quota rfl
  | none =>
      refine holding_yields (fun op _ hop _ => ?_) (fun u shared _ => ?_) fun _ _ _ _ _ h _ => h
      · rcases hop with rfl | rfl <;> trivial
      · refine cachedQuota_sanitary.yields_bind fun found t h => ?_
        cases found with
        | some quota => exact h quota rfl
        | none => exact storedProbe_sanitary

theorem quotaSnapshot_discreet (harnessId : String) (refresh : Bool) :
    (quotaSnapshot harnessId refresh).Safe (privacyDiscipline setup) id :=
  fun _ => quotaSnapshot_sanitary.mono fun _ _ _ => trivial

theorem listSnapshots_discreet (harnessIds : Option (List String)) (refresh : Bool) :
    (listSnapshots setup harnessIds refresh).Safe (privacyDiscipline setup) id :=
  .mapM (fun harnessId => quotaSnapshot_discreet harnessId refresh) _

theorem plain_safe {α : Type} {program : SnapshotM α} (h : program.Every Plain) :
    program.Safe (privacyDiscipline setup) id :=
  h.safe fun _ _ hop _ => hop.discreet

theorem refreshQuota_discreet (harnessId : Option String) :
    (refreshQuota setup harnessId).Safe (privacyDiscipline setup) id := by
  unfold refreshQuota
  split
  · exact .bind (plain_safe (.perform trivial)) fun _ =>
      .bind (quotaSnapshot_discreet _ true) fun _ _ => trivial
  · exact .bind (plain_safe (.perform trivial)) fun _ => listSnapshots_discreet none true

theorem priorQuota_sanitary : (priorQuota harnessId).Holds (privacyDiscipline setup) id
    (Program.Yields fun quota _ => Sanitary setup.python quota.rawMetadata) s := by
  refine .perform_bind (fun _ _ _ => trivial) (fun t _ found _ _ hgood _ heffect => ?_)
    fun _ _ _ _ _ _ _ _ => trivial
  cases heffect
  cases hfound : (alive t.shared.now (t.shared.quotas harnessId)).map Prod.fst with
  | none => exact probed_sanitary fun _ => sanitary_keyless fun _ h => absurd h List.not_mem_nil
  | some quota =>
      obtain ⟨⟨quota, expires⟩, halive, rfl⟩ := Option.map_eq_some_iff.mp hfound
      exact hgood.quotas harnessId quota expires (Option.filter_eq_some_iff.mp halive).1

theorem observeQuota_discreet (harnessId : String) (observation : Observation) :
    (observeQuota setup harnessId observation).Safe (privacyDiscipline setup) id := by
  intro s
  have hinvalidated : (invalidateFailed harnessId observation.success).Every Plain :=
    .ite trivial (.perform trivial)
  refine priorQuota_sanitary.bind (fun prior t h => ?_) fun _ _ _ => trivial
  refine .perform_bind (fun _ _ _ => trivial) (fun u _ now shared _ _ _ _ => ?_)
    fun _ _ _ _ _ _ _ _ => trivial
  refine (plain_safe hinvalidated _).bind (fun _ v _ => ?_) fun _ _ _ => trivial
  exact .perform_bind (fun _ _ _ => sanitary_applyObservation h) (fun _ _ _ _ _ _ _ _ => trivial)
    fun _ _ _ _ _ _ _ _ => trivial

-- The entries of a snapshot that is being built.
def CleanEntries (python : Interpreter) (entries : List HarnessRuntimeSnapshot) : Prop :=
  ∀ entry ∈ entries, Clean python (entry.asDict python)

theorem entries_clean {ids : List String} : (ids.mapM (buildHarness setup refresh)).Holds
    (privacyDiscipline setup) id
    (Program.Yields fun entries _ => CleanEntries setup.python entries) s := by
  have hentry : ∀ before harnessId after done t, ids = before ++ harnessId :: after →
      CleanEntries setup.python done →
        (buildHarness setup refresh harnessId).Holds (privacyDiscipline setup) id
          (Program.Yields fun entry _ => CleanEntries setup.python (done ++ [entry])) t := by
    intro before harnessId after done t _ hdone
    refine quotaSnapshot_sanitary.yields_bind fun quota u h => ?_
    refine .perform_bind (fun _ _ _ => trivial) (fun _ _ stats _ _ _ _ _ => ?_)
      fun _ _ _ _ _ _ _ _ => trivial
    intro entry hmem
    rcases List.mem_append.mp hmem with hmem | hmem
    · exact hdone entry hmem
    · exact List.mem_singleton.mp hmem ▸ clean_harnessEntry h
  exact Program.Holds.mapM hentry fun _ h => absurd h List.not_mem_nil

theorem store_private {built : RuntimeSnapshot} (h : built.Private setup.python) :
    (store setup built).Holds (privacyDiscipline setup) id
      (Program.Yields fun snapshot _ => snapshot.Private setup.python) s := by
  have hpublish : (publish setup built).Every fun op => op = Op.publish built :=
    .bind lift_every fun _ => .bind lift_every fun _ => .perform rfl
  have hsafe : (publish setup built).Safe (privacyDiscipline setup) id :=
    hpublish.safe fun _ _ hop _ => by cases hop; exact h
  refine (plain_safe lift_every s).bind (fun _ t _ => ?_) fun _ _ _ => trivial
  refine .perform_bind (fun _ _ _ => trivial) (fun _ _ _ _ _ _ _ _ => ?_)
    fun _ _ _ _ _ _ _ _ => trivial
  refine .perform_bind (fun _ _ _ => h) (fun _ _ _ _ _ _ _ _ => ?_) fun _ _ _ _ _ _ _ _ => trivial
  exact (hsafe _).bind (fun _ _ _ => h) fun _ _ _ => trivial

theorem build_private : (build setup harnessIds refresh).Holds (privacyDiscipline setup) id
    (Program.Yields fun snapshot _ => snapshot.Private setup.python) s := by
  refine entries_clean.yields_bind fun entries t h => ?_
  refine .perform_bind (fun _ _ _ => trivial) (fun _ _ _ _ _ _ _ _ => ?_)
    fun _ _ _ _ _ _ _ _ => trivial
  refine .perform_bind (fun _ _ _ => trivial) (fun _ _ _ _ _ _ _ _ => ?_)
    fun _ _ _ _ _ _ _ _ => trivial
  exact store_private (private_of_entries h)

theorem clean_of_private {snapshot : RuntimeSnapshot} (h : snapshot.Private setup.python) :
    CleanEntries setup.python snapshot.harnesses := by
  intro entry hentry key hkey
  refine h key ?_
  rw [RuntimeSnapshot.asDict, visited, List.mem_append, mem_visitedItems]
  refine .inr ⟨("harnesses", .list (snapshot.harnesses.map
    (HarnessRuntimeSnapshot.asDict setup.python))), by simp, ?_⟩
  rw [visited, mem_visitedList]
  exact ⟨_, List.mem_map_of_mem hentry, hkey⟩

-- What is found in the cache is private, and so is a part of it.
theorem getCached_private {found : Option RuntimeSnapshot → Option RuntimeSnapshot}
    (hfound : ∀ cached snapshot, snapshot ∈ found cached →
      ∃ whole ∈ cached, snapshot.harnesses ⊆ whole.harnesses) :
    (perform .getCached >>= fun cached => pure (found cached)).Holds (privacyDiscipline setup) id
      (Program.Yields fun cached _ => ∀ snapshot ∈ cached, snapshot.Private setup.python) s := by
  refine .perform_bind (fun _ _ _ => trivial) (fun t _ cached shared _ hgood _ heffect => ?_)
    fun _ _ _ _ _ _ _ _ => trivial
  cases heffect
  intro snapshot hsnapshot
  obtain ⟨whole, hwhole, hsub⟩ := hfound _ snapshot hsnapshot
  obtain ⟨⟨whole, expires⟩, halive, rfl⟩ := Option.map_eq_some_iff.mp hwhole
  have hprivate := hgood.cached whole expires (Option.filter_eq_some_iff.mp halive).1
  exact private_of_entries fun entry hentry => clean_of_private hprivate entry (hsub hentry)

theorem snapshot_private : (snapshot setup harnessIds refresh).Holds (privacyDiscipline setup) id
    (Program.Yields fun snapshot _ => snapshot.Private setup.python) s := by
  have hcached : (cachedSnapshot harnessIds refresh).Holds (privacyDiscipline setup) id
      (Program.Yields fun cached _ => ∀ snapshot ∈ cached, snapshot.Private setup.python) s := by
    unfold cachedSnapshot
    split
    · exact fun _ h => by cases h
    · exact getCached_private fun _ _ h => cachedSnapshot_subset h
  refine hcached.yields_bind fun found t h => ?_
  cases found with
  | some cached => exact h cached rfl
  | none =>
      refine holding_yields (fun op _ hop _ => ?_) (fun u shared _ => ?_) fun _ _ _ _ _ h _ => h
      · rcases hop with rfl | rfl <;> trivial
      · have hwhole : (cachedWhole harnessIds refresh).Holds (privacyDiscipline setup) id
            (Program.Yields fun cached _ => ∀ snapshot ∈ cached, snapshot.Private setup.python)
            (u.note (.did id (.acquire .snapshots) (.ok ())) shared) := by
          unfold cachedWhole
          split
          · exact fun _ h => by cases h
          · exact getCached_private fun _ _ h => cachedWhole_subset h
        refine hwhole.yields_bind fun found v h => ?_
        cases found with
        | some cached => exact h cached rfl
        | none => exact build_private

theorem harnessSnapshot_discreet : (harnessSnapshot setup harnessId refresh).Safe
    (privacyDiscipline setup) id := fun s =>
  (snapshot_private (s := s)).bind (fun full t _ => by cases full.harness harnessId <;> trivial)
    fun _ _ _ => trivial

theorem observed_discreet (harnessId : String) (execution : Execution) :
    (observed setup harnessId execution).Safe (privacyDiscipline setup) id :=
  .bind (plain_safe (.perform trivial)) fun _ => .bind (plain_safe (.perform trivial)) fun _ =>
    .bind (plain_safe (.perform trivial)) fun _ =>
      .bind (observeQuota_discreet harnessId _) fun _ => plain_safe (.perform trivial)

theorem private_of_safe {α : Type} {call : Call} {program : SnapshotM α} {outcome : α → Outcome}
    (h : program.Safe (privacyDiscipline setup) id)
    (houtcome : ∀ value snapshot, outcome value ≠ .snapshot snapshot) :
    (program >>= fun value => pure (outcome value)).Holds (privacyDiscipline setup) id
      ((privacyDiscipline setup).post id call) s :=
  (h s).bind (fun value _ _ snapshot heq => absurd (Except.ok.inj heq) (houtcome value snapshot))
    fun _ _ _ _ => nofun

theorem private_of_yields {call : Call} {program : SnapshotM RuntimeSnapshot}
    (h : program.Holds (privacyDiscipline setup) id
      (Program.Yields fun snapshot _ => snapshot.Private setup.python) s) :
    (program >>= fun snapshot => pure (Outcome.snapshot snapshot)).Holds (privacyDiscipline setup) id
      ((privacyDiscipline setup).post id call) s :=
  h.bind (fun _ _ hprivate _ heq => by cases heq; exact hprivate) fun _ _ _ _ => nofun

theorem privacy_programs : (privacyDiscipline setup).Programs := by
  intro id call s t _ _ _ _
  cases call with
  | quotaSnapshot harnessId renew =>
      exact private_of_safe (quotaSnapshot_discreet harnessId renew) fun _ _ => Outcome.noConfusion
  | listSnapshots harnessIds renew =>
      exact private_of_safe (listSnapshots_discreet harnessIds renew) fun _ _ => Outcome.noConfusion
  | refreshQuota harnessId =>
      exact private_of_safe (refreshQuota_discreet harnessId) fun _ _ => Outcome.noConfusion
  | observeQuota harnessId observation =>
      exact private_of_safe (observeQuota_discreet harnessId observation)
        fun _ _ => Outcome.noConfusion
  | snapshot => exact private_of_yields snapshot_private
  | harnessSnapshot => exact private_of_safe harnessSnapshot_discreet fun _ _ => Outcome.noConfusion
  | refresh harnessId =>
      have hcleared : (perform .invalidateCached).Safe (privacyDiscipline setup) id :=
        plain_safe (.perform trivial)
      exact private_of_yields ((hcleared _).bind (fun _ _ _ => snapshot_private) fun _ _ _ => trivial)
  | observeExecution harnessId execution =>
      exact private_of_yields ((observed_discreet harnessId execution _).bind
        (fun _ _ _ => snapshot_private) fun _ _ _ => trivial)
  | markRunStarted harnessId =>
      have hmark : (markRunStarted harnessId).Every Plain :=
        .perform_bind trivial fun _ => .perform trivial
      exact private_of_safe (plain_safe hmark) fun _ _ => Outcome.noConfusion
  | revalidateForLaunch harnessId required priorAvailability =>
      have hrevalidate : (revalidateForLaunch setup harnessId required priorAvailability).Safe
          (privacyDiscipline setup) id := by
        refine .bind harnessSnapshot_discreet fun entry => .bind (plain_safe (.perform trivial)) fun recorded => ?_
        cases launchError setup harnessId required (priorAvailability <|> recorded) entry <;>
          exact fun _ => trivial
      exact private_of_safe hrevalidate fun _ _ => Outcome.noConfusion

end Programs

section Privacy

variable {setup : Setup} {w : (snapshots setup).World} {labels : List (snapshots setup).Label}

-- Over every run of calls of both services, no snapshot with a forbidden key is returned, cached
-- or published, where no provider answers with one inside a list.
theorem snapshots_private
    (hrun : run System.World.step (.initial (snapshots setup) {}) labels = some w)
    (hanswered : Along System.World.step AnsweredSanitary (.initial (snapshots setup) {}) labels) :
    KeepsPrivate w := by
  have hsecret : Secret ({ shared := {} } : (snapshots setup).State) :=
    ⟨fun _ _ _ => nofun, fun _ _ => nofun, fun _ h => absurd h List.not_mem_nil,
      fun _ _ _ h => absurd h List.not_mem_nil⟩
  have hinitial : (privacyDiscipline setup).Sound (.initial (snapshots setup) {}) :=
    System.Discipline.sound_initial hsecret fun _ => trivial
  have hsound := hinitial.run privacy_programs (hanswered.mono fun w label h => by
    cases label with
    | start => trivial
    | go => exact h
    | outside => trivial) hrun
  exact ⟨hsound.good.cached, hsound.good.published,
    fun _ _ snapshot hthread => hsound.ended hthread snapshot rfl,
    fun id snapshot answer hmem => (hsound.good.accepted id snapshot answer hmem).accepted⟩

-- The provider's answer has a list of what it has found out.
def answersWith (id : Nat) (detail : Value) (count : Nat) : List (snapshots twoProviders).Label :=
  List.replicate count (.go id { probe := { ready with rawMetadata := [("detail", detail)] } })

-- One that it may publish.
def toldPlan : List (snapshots twoProviders).Label :=
  [.start 0 (.snapshot (some ["codex"]) false)] ++
    answersWith 0 (.list [.dict [("plan", .str "pro")]]) 17

theorem toldPlan_isSome :
    (run System.World.step (.initial (snapshots twoProviders) {}) toldPlan).isSome = true := by
  decide +kernel

def planPublished : (snapshots twoProviders).World :=
  (run System.World.step (.initial (snapshots twoProviders) {}) toldPlan).get toldPlan_isSome

theorem planPublished_private : KeepsPrivate planPublished :=
  snapshots_private (Option.some_get toldPlan_isSome).symm (by decide +kernel)

-- And one with a token: publishing is refused, and then the snapshot is asked for again.
def toldToken : List (snapshots twoProviders).Label :=
  [.start 0 (.snapshot (some ["codex"]) false)] ++
    answersWith 0 (.list [.dict [("token", .str "t")]]) 16 ++
    [.start 1 (.snapshot (some ["codex"]) false)] ++ goes 1 1

def tokenSnapshot : RuntimeSnapshot where
  snapshotId := "s"
  observedAt := ⟨0, true⟩
  harnesses := [harnessEntry twoProviders "codex"
    { ready with rawMetadata := [("detail", .list [.dict [("token", .str "t")]])] } {}]

theorem toldToken_returned :
    (run System.World.step (.initial (snapshots twoProviders) {}) toldToken).any (fun w =>
      (w.returned 0).any (fun left => left.2 = .error (.exception {
        type := "RuntimeSnapshotValidationError"
        text := "privacy violation: forbidden key 'token'" })) &&
      w.returned 1 = some (.snapshot (some ["codex"]) false, .ok (.snapshot tokenSnapshot))) = true := by
  decide +kernel

theorem token_returned :
    "token" ∈ visited (tokenSnapshot.asDict twoProviders.python) ∧
      ¬∀ labels w, run System.World.step (.initial (snapshots twoProviders) {}) labels = some w →
        KeepsPrivate w := by
  have htoken : "token" ∈ visited (tokenSnapshot.asDict twoProviders.python) := by decide +kernel
  refine ⟨htoken, fun hall => ?_⟩
  obtain ⟨w, hw, hreturned⟩ := (Option.any_eq_true ..).mp toldToken_returned
  rw [Bool.and_eq_true, decide_eq_true_eq] at hreturned
  have hprivate := (hall toldToken w hw).returned 1 _ tokenSnapshot
    (System.World.thread_of_returned hreturned.2)
  have hforbidden : forbiddenKey twoProviders.python "token" = true := by decide +kernel
  rw [hprivate "token" htoken] at hforbidden
  cases hforbidden

end Privacy

end JoyMesh.Snapshots
