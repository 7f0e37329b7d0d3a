import JoyMesh.Completion.Evidence
import JoyMesh.Library.Firsts
import JoyMesh.Library.Run

namespace JoyMesh.Completion

open Library

-- A usage fact, or the mapping it is read from.
inductive UsageItem where
  | fact (fact : UsageFact)
  | items (organisationId projectId harnessId : Option String) (raw : Mapping)

inductive UsageCall where
  | recordAttempt (fact : UsageFact)
  | finalise (executionId : String) (organisationId projectId : Option String)
      (missionId : String) (attemptFacts : List UsageItem)

namespace UsageFinaliser

variable (readings : Readings) (usage : UsageFinaliser)

def factOf (executionId missionId : String) : UsageItem → Except String UsageFact
  | .fact fact => .ok fact
  | .items organisationId projectId harnessId raw => do
      let facts ← readings.mapping (raw.get "facts")
      return {
        organisationId, projectId
        missionId := Readings.textOr (raw.get "mission_id") missionId
        executionId
        attemptId := Readings.textOr (raw.get "attempt_id") "unknown"
        backendId := Readings.textOr (raw.get "backend_id") "unknown"
        harnessId, facts }

-- The facts one after the other, up to the first that cannot be read or is refused.
def recordItems (executionId missionId : String) :
    List UsageItem → UsageFinaliser → Option String × UsageFinaliser
  | [], usage => (none, usage)
  | item :: items, usage =>
      match factOf readings executionId missionId item with
      | .error type => (some type, usage)
      | .ok fact =>
          match usage.recordAttempt fact with
          | .error type => (some type, usage)
          | .ok usage => recordItems executionId missionId items usage

-- What finalise does with the facts of one call. With these recorded it goes on
-- as with none.
def finaliseItems (executionId : String) (organisationId projectId : Option String)
    (missionId : String) (attemptFacts : List UsageItem) :
    Except String UsageAggregate × UsageFinaliser :=
  match usage.executionAggregate.lookup executionId with
  | some aggregate => (.ok aggregate, usage)
  | none =>
      match recordItems readings executionId missionId attemptFacts usage with
      | (some type, usage) => (.error type, usage)
      | (none, usage) =>
          usage.finalise readings.toConversions executionId organisationId projectId missionId []

def answer : UsageCall → Except String (Option UsageAggregate) × UsageFinaliser
  | .recordAttempt fact =>
      match usage.recordAttempt fact with
      | .error type => (.error type, usage)
      | .ok usage => (.ok none, usage)
  | .finalise executionId organisationId projectId missionId attemptFacts =>
      let (result, usage) := usage.finaliseItems readings executionId organisationId projectId
        missionId attemptFacts
      (result.map some, usage)

-- The facts among these that are recorded or repeat what is recorded.
def takenItems (executionId missionId : String) :
    List UsageItem → UsageFinaliser → List UsageFact
  | [], _ => []
  | item :: items, usage =>
      match factOf readings executionId missionId item with
      | .error _ => []
      | .ok fact =>
          match usage.recordAttempt fact with
          | .error _ => []
          | .ok usage => fact :: takenItems executionId missionId items usage

def taken : UsageCall → List UsageFact
  | .recordAttempt fact =>
      match usage.recordAttempt fact with
      | .error _ => []
      | .ok _ => [fact]
  | .finalise executionId _ _ missionId attemptFacts =>
      match usage.executionAggregate.lookup executionId with
      | some _ => []
      | none => takenItems readings executionId missionId attemptFacts usage

-- Every fact that the calls record, repeats included, in their order.
def recorded : UsageFinaliser → List UsageCall → List UsageFact
  | _, [] => []
  | usage, call :: calls =>
      usage.taken readings call ++ recorded (usage.answer readings call).2 calls

end UsageFinaliser

section Expected

-- Which organisations are one tenant, be it those that are equal.
variable (readings : Readings) (sameTenant : Option String → Option String → Bool)
  (executionId : String) (organisationId : Option String) (facts : List UsageFact)

def Owned (fact : UsageFact) : Bool :=
  fact.executionId = executionId && sameTenant fact.organisationId organisationId

-- The first fact of each attempt of the execution and its tenant.
def expectedAttempts : List UsageFact :=
  firstsBy (·.attemptId) (facts.filter (Owned sameTenant executionId organisationId))

def tokens (key : String) (attempts : List UsageFact) : Except String Int := do
  let counts ← attempts.mapM fun fact => readings.int (fact.facts.get key)
  return counts.sum

structure CountedOnce (aggregate : UsageAggregate) : Prop where
  attemptCount : aggregate.attempts.length =
    (expectedAttempts sameTenant executionId organisationId facts).length
  inputTokens : tokens readings "input_tokens"
    (expectedAttempts sameTenant executionId organisationId facts) = .ok aggregate.inputTokens
  outputTokens : tokens readings "output_tokens"
    (expectedAttempts sameTenant executionId organisationId facts) = .ok aggregate.outputTokens
  owned : ∀ fact ∈ aggregate.attempts, Owned sameTenant executionId organisationId fact = true

def factKey (fact : UsageFact) : String :=
  UsageFinaliser.attemptKey fact.executionId fact.attemptId

def beginsWith (executionId key : String) : Bool :=
  (UsageFinaliser.attemptKey executionId "").toList.isPrefixOf key.toList

-- Whatever was recorded first under a key that begins with the execution id and a
-- colon belongs to the execution and its tenant.
def KeysOwned : Prop :=
  ∀ fact ∈ firstsBy factKey facts, beginsWith executionId (factKey fact) = true →
    Owned sameTenant executionId organisationId fact = true

end Expected

namespace UsageFinaliser

variable {readings : Readings} {usage next : UsageFinaliser} {facts : List UsageFact}
  {fact : UsageFact} {executionId missionId : String} {items : List UsageItem}
  {organisationId projectId : Option String} {aggregate : UsageAggregate}

-- The rows are the first facts of the keys, in the order of their recording.
def Filed (usage : UsageFinaliser) (facts : List UsageFact) : Prop :=
  usage.attemptUsage = (firstsBy factKey facts).map fun fact => (factKey fact, fact)

theorem Filed.known_iff (h : usage.Filed facts) :
    usage.attemptUsage.any (·.1 = factKey fact) = true ↔
      ∃ other ∈ facts, factKey other = factKey fact := by
  rw [h, List.any_map, List.any_eq_true]
  simp only [Function.comp_apply, decide_eq_true_eq]
  exact exists_firstsBy

theorem recordAttempt_aggregate (hok : usage.recordAttempt fact = .ok next) :
    next.executionAggregate = usage.executionAggregate := by
  unfold UsageFinaliser.recordAttempt at hok
  dsimp only at hok
  split_ifs at hok
  all_goals
    obtain rfl := Except.ok.inj hok
    rfl

theorem recordItems_aggregate {executionId missionId : String} {items : List UsageItem} :
    (recordItems readings executionId missionId items usage).2.executionAggregate =
      usage.executionAggregate := by
  induction items generalizing usage with
  | nil => rfl
  | cons item items ih =>
      unfold recordItems
      cases factOf readings executionId missionId item with
      | error type => rfl
      | ok fact =>
          dsimp only
          cases hrecord : usage.recordAttempt fact with
          | error type => rfl
          | ok next => exact ih.trans (recordAttempt_aggregate hrecord)

theorem Filed.recordAttempt (h : usage.Filed facts) (hok : usage.recordAttempt fact = .ok next) :
    next.Filed (facts ++ [fact]) := by
  have hknown : usage.attemptUsage.any (·.1 = attemptKey fact.executionId fact.attemptId) = true ↔
      ∃ other ∈ facts, factKey other = factKey fact := h.known_iff
  unfold UsageFinaliser.recordAttempt at hok
  dsimp only at hok
  unfold Filed
  rw [firstsBy_concat, List.map_append, ← h]
  split at hok
  next hany =>
    obtain rfl := Except.ok.inj hok
    rw [if_pos (hknown.mp hany), List.map_nil, List.append_nil]
  next hnew =>
    split at hok
    · cases hok
    · obtain rfl := Except.ok.inj hok
      rw [if_neg (mt hknown.mpr hnew)]
      rfl

theorem Filed.recordItems (h : usage.Filed facts) :
    (UsageFinaliser.recordItems readings executionId missionId items usage).2.Filed
      (facts ++ takenItems readings executionId missionId items usage) := by
  induction items generalizing usage facts with
  | nil => exact by rw [takenItems, List.append_nil]; exact h
  | cons item items ih =>
      unfold UsageFinaliser.recordItems takenItems
      cases factOf readings executionId missionId item with
      | error type => exact by rw [List.append_nil]; exact h
      | ok fact =>
          dsimp only
          cases hrecord : usage.recordAttempt fact with
          | error type => exact by rw [List.append_nil]; exact h
          | ok next =>
              have hrest := ih (h.recordAttempt hrecord)
              rw [List.append_assoc] at hrest
              exact hrest

-- With nothing more to record, finalise adds its aggregate or nothing.
theorem finalise_nil {executionId : String} {organisationId projectId : Option String}
    {missionId : String} (hnew : usage.executionAggregate.lookup executionId = none) :
    let result := usage.finalise readings.toConversions executionId organisationId projectId
      missionId []
    (∃ type, result = (.error type, usage)) ∨
      ∃ wall input output, sums readings.toConversions (usage.attemptsOf executionId) =
          .ok (wall, input, output) ∧
        let aggregate : UsageAggregate :=
          ⟨executionId, organisationId, projectId, missionId, wall, input, output,
            usage.attemptsOf executionId⟩
        result = (.ok aggregate, { usage with
          executionAggregate := usage.executionAggregate.insert executionId aggregate }) := by
  unfold finalise
  rw [hnew]
  dsimp only [recordAttempts]
  cases hsums : sums readings.toConversions (usage.attemptsOf executionId) with
  | error type => exact .inl ⟨type, rfl⟩
  | ok found =>
      obtain ⟨wall, input, output⟩ := found
      exact .inr ⟨wall, input, output, rfl, rfl⟩

theorem finaliseItems_new {executionId : String} {organisationId projectId : Option String}
    {missionId : String} {items : List UsageItem}
    (hnew : usage.executionAggregate.lookup executionId = none) :
    let result := usage.finaliseItems readings executionId organisationId projectId missionId items
    result.2.attemptUsage = (recordItems readings executionId missionId items usage).2.attemptUsage ∧
      ((∃ type, result.1 = .error type ∧
          result.2.executionAggregate = usage.executionAggregate) ∨
        ∃ wall input output attempts, attempts = result.2.attemptsOf executionId ∧
          sums readings.toConversions attempts = .ok (wall, input, output) ∧
          let aggregate : UsageAggregate :=
            ⟨executionId, organisationId, projectId, missionId, wall, input, output, attempts⟩
          result.1 = .ok aggregate ∧
            result.2.executionAggregate = usage.executionAggregate.insert executionId aggregate) := by
  have hsame := @recordItems_aggregate readings usage executionId missionId items
  unfold UsageFinaliser.finaliseItems
  rw [hnew]
  dsimp only
  rcases hrecorded : UsageFinaliser.recordItems readings executionId missionId items usage with
    ⟨_ | type, middle⟩
  · rw [hrecorded] at hsame
    dsimp only at hsame ⊢
    have hnone : middle.executionAggregate.lookup executionId = none := by rw [hsame, hnew]
    rcases @finalise_nil readings middle executionId organisationId projectId missionId hnone with
      ⟨type, hresult⟩ | ⟨wall, input, output, hsums, hresult⟩
    · rw [hresult]
      exact ⟨rfl, .inl ⟨type, rfl, hsame⟩⟩
    · rw [hresult]
      exact ⟨rfl, .inr ⟨wall, input, output, _, rfl, hsums, rfl, by rw [← hsame]; rfl⟩⟩
  · rw [hrecorded] at hsame
    exact ⟨rfl, .inl ⟨type, rfl, hsame⟩⟩

theorem Filed.finaliseItems (h : usage.Filed facts)
    (hnew : usage.executionAggregate.lookup executionId = none) :
    (usage.finaliseItems readings executionId organisationId projectId missionId items).2.Filed
      (facts ++ takenItems readings executionId missionId items usage) :=
  (finaliseItems_new hnew).1.trans h.recordItems

theorem finaliseItems_again (h : usage.executionAggregate.lookup executionId = some aggregate) :
    usage.finaliseItems readings executionId organisationId projectId missionId items =
      (.ok aggregate, usage) := by
  rw [UsageFinaliser.finaliseItems, h]

theorem Filed.answer (h : usage.Filed facts) (call : UsageCall) :
    (usage.answer readings call).2.Filed (facts ++ usage.taken readings call) := by
  cases call with
  | recordAttempt fact =>
      unfold UsageFinaliser.answer taken
      dsimp only
      cases hrecord : usage.recordAttempt fact with
      | error type => exact by rw [List.append_nil]; exact h
      | ok next => exact h.recordAttempt hrecord
  | finalise executionId organisationId projectId missionId items =>
      unfold UsageFinaliser.answer taken
      dsimp only
      cases hlookup : usage.executionAggregate.lookup executionId with
      | some aggregate =>
          rw [finaliseItems_again hlookup, List.append_nil]
          exact h
      | none => exact h.finaliseItems hlookup

theorem Filed.play (h : usage.Filed facts) {calls : List UsageCall} :
    (Library.play (UsageFinaliser.answer readings) usage calls).Filed (facts ++ recorded readings usage calls) := by
  induction calls generalizing usage facts with
  | nil => exact by rw [recorded, List.append_nil]; exact h
  | cons call calls ih =>
      have hrest := ih (@Filed.answer readings usage facts h call)
      rw [List.append_assoc] at hrest
      exact hrest

-- An aggregate stays what it was.
theorem aggregate_answer (h : usage.executionAggregate.lookup executionId = some aggregate)
    (call : UsageCall) :
    (usage.answer readings call).2.executionAggregate.lookup executionId = some aggregate := by
  cases call with
  | recordAttempt fact =>
      unfold UsageFinaliser.answer
      dsimp only
      cases hrecord : usage.recordAttempt fact with
      | error type => exact h
      | ok next =>
          dsimp only
          rw [recordAttempt_aggregate hrecord]
          exact h
  | finalise other organisationId projectId missionId items =>
      unfold UsageFinaliser.answer
      dsimp only
      cases hlookup : usage.executionAggregate.lookup other with
      | some found =>
          rw [finaliseItems_again hlookup]
          exact h
      | none =>
          have hne : executionId ≠ other := by
            rintro rfl
            rw [hlookup] at h
            cases h
          rcases (@finaliseItems_new readings usage other organisationId projectId missionId items
            hlookup).2 with ⟨-, -, hkept⟩ | ⟨_, _, _, _, -, -, -, hinsert⟩
          · rw [hkept]
            exact h
          · rw [hinsert, AList.lookup_insert_ne hne]
            exact h

theorem aggregate_play (h : usage.executionAggregate.lookup executionId = some aggregate)
    {calls : List UsageCall} :
    (play (answer readings) usage calls).executionAggregate.lookup executionId = some aggregate :=
  @play_invariant UsageFinaliser UsageCall _ (answer readings) usage calls
    (fun usage => usage.executionAggregate.lookup executionId = some aggregate)
    (fun _ call hkept => aggregate_answer hkept call) h

end UsageFinaliser

section Counting

variable {readings : Readings} {sameTenant : Option String → Option String → Bool}
  {executionId : String} {organisationId : Option String} {facts : List UsageFact}
  {usage : UsageFinaliser}

theorem owned_begins {fact : UsageFact} (h : Owned sameTenant executionId organisationId fact = true) :
    beginsWith executionId (factKey fact) = true := by
  obtain ⟨rfl, -⟩ : fact.executionId = executionId ∧ _ := by simpa [Owned] using h
  rw [beginsWith, List.isPrefixOf_iff_prefix]
  exact ⟨fact.attemptId.toList, by simp [factKey, UsageFinaliser.attemptKey]⟩

-- The attempts of an execution are found by their keys alone.
theorem attemptsOf_eq (h : usage.Filed facts) : usage.attemptsOf executionId =
    (firstsBy factKey facts).filter fun fact => beginsWith executionId (factKey fact) := by
  unfold UsageFinaliser.attemptsOf
  rw [h, List.filter_map, List.map_map]
  have hid : ((fun row : String × UsageFact => row.2) ∘ fun fact => (factKey fact, fact)) = id := rfl
  rw [hid, List.map_id]
  refine List.filter_congr fun fact _ => ?_
  rw [beginsWith, Bool.eq_iff_iff, List.isPrefixOf_iff_prefix]
  exact decide_eq_true_iff

theorem keysOwned_iff (h : usage.Filed facts) :
    KeysOwned sameTenant executionId organisationId facts ↔ ∀ fact ∈ usage.attemptsOf executionId,
      Owned sameTenant executionId organisationId fact = true := by
  rw [attemptsOf_eq h]
  constructor
  · intro howned fact hm
    obtain ⟨hfirst, hbegins⟩ := List.mem_filter.mp hm
    exact howned fact hfirst hbegins
  · intro howned fact hfirst hbegins
    exact howned fact (List.mem_filter.mpr ⟨hfirst, hbegins⟩)

-- With the keys owned, what is found by them is what was expected.
theorem attemptsOf_expected (h : usage.Filed facts)
    (howned : KeysOwned sameTenant executionId organisationId facts) :
    usage.attemptsOf executionId =
      expectedAttempts sameTenant executionId organisationId facts := by
  have hfound := (keysOwned_iff h).mp howned
  rw [attemptsOf_eq h, ← firstsBy_filter_key] at hfound ⊢
  rw [← firstsBy_filter (Owned sameTenant executionId organisationId) hfound, List.filter_filter]
  have hsame : (facts.filter fun fact => Owned sameTenant executionId organisationId fact &&
      beginsWith executionId (factKey fact)) =
      facts.filter (Owned sameTenant executionId organisationId) := by
    refine List.filter_congr fun fact _ => ?_
    cases hown : Owned sameTenant executionId organisationId fact with
    | false => rfl
    | true => rw [owned_begins hown, Bool.and_self]
  rw [hsame, expectedAttempts]
  refine firstsBy_congr fun first hf second hs => ?_
  have hfirst : first.executionId = executionId := by
    have hown := (List.mem_filter.mp hf).2
    simp only [Owned, Bool.and_eq_true, decide_eq_true_eq] at hown
    exact hown.1
  have hsecond : second.executionId = executionId := by
    have hown := (List.mem_filter.mp hs).2
    simp only [Owned, Bool.and_eq_true, decide_eq_true_eq] at hown
    exact hown.1
  rw [factKey, factKey, hfirst, hsecond, ← String.toList_inj, ← String.toList_inj]
  simp [UsageFinaliser.attemptKey]

theorem sums_ok {attempts : List UsageFact} {wall : String} {input output : Int}
    (h : UsageFinaliser.sums readings.toConversions attempts = .ok (wall, input, output)) :
    tokens readings "input_tokens" attempts = .ok input ∧
      tokens readings "output_tokens" attempts = .ok output := by
  unfold UsageFinaliser.sums at h
  obtain ⟨walls, -, h⟩ := Routing.bind_eq_ok.mp h
  obtain ⟨inputs, hinputs, h⟩ := Routing.bind_eq_ok.mp h
  obtain ⟨outputs, houtputs, h⟩ := Routing.bind_eq_ok.mp h
  simp only [pure, Except.pure, Except.ok.injEq, Prod.mk.injEq] at h
  obtain ⟨-, rfl, rfl⟩ := h
  exact ⟨Routing.bind_eq_ok.mpr ⟨inputs, hinputs, rfl⟩, Routing.bind_eq_ok.mpr ⟨outputs, houtputs, rfl⟩⟩

-- An aggregate counts each attempt of its execution and tenant once, and nothing
-- else, exactly when no foreign fact came first under a key of the execution. It
-- is given back ever after.
theorem usage_counted_iff (readings : Readings)
    (sameTenant : Option String → Option String → Bool) (calls : List UsageCall)
    (executionId : String) (organisationId projectId : Option String) (missionId : String)
    (attemptFacts : List UsageItem) (aggregate : UsageAggregate)
    (hfirst : (play (UsageFinaliser.answer readings) {} calls).executionAggregate.lookup
      executionId = none)
    (hresult : ((play (UsageFinaliser.answer readings) {} calls).finaliseItems readings
      executionId organisationId projectId missionId attemptFacts).1 = .ok aggregate) :
    let finalise := UsageCall.finalise executionId organisationId projectId missionId attemptFacts
    let facts := UsageFinaliser.recorded readings {} (calls ++ [finalise])
    (CountedOnce readings sameTenant executionId organisationId facts aggregate ↔
      KeysOwned sameTenant executionId organisationId facts) ∧
    ∀ later organisationId projectId missionId attemptFacts,
      ((play (UsageFinaliser.answer readings) {} (calls ++ finalise :: later)).finaliseItems readings
        executionId organisationId projectId missionId attemptFacts).1 = .ok aggregate := by
  intro finalise facts
  have hempty : ({} : UsageFinaliser).Filed [] := rfl
  have hfiled : (play (UsageFinaliser.answer readings) {} (calls ++ [finalise])).Filed facts :=
    @UsageFinaliser.Filed.play readings {} [] hempty (calls ++ [finalise])
  rw [play_append] at hfiled
  obtain ⟨-, ⟨type, herror, -⟩ | ⟨wall, input, output, attempts, hattempts, hsums, hok, hstored⟩⟩ :=
    @UsageFinaliser.finaliseItems_new readings _ executionId organisationId projectId missionId
      attemptFacts hfirst
  · rw [herror] at hresult
    cases hresult
  obtain rfl := Except.ok.inj (hok.symm.trans hresult)
  constructor
  · constructor
    · intro hcounted
      refine (keysOwned_iff hfiled).mpr fun fact hm => hcounted.owned fact ?_
      rw [hattempts]
      exact hm
    · intro howned
      have hexpected : attempts = expectedAttempts sameTenant executionId organisationId facts :=
        hattempts.trans (attemptsOf_expected hfiled howned)
      obtain ⟨hinput, houtput⟩ := sums_ok hsums
      refine ⟨congrArg List.length hexpected, hexpected ▸ hinput, hexpected ▸ houtput, ?_⟩
      intro fact hm
      refine (keysOwned_iff hfiled).mp howned fact ?_
      rw [hattempts] at hm
      exact hm
  · intro later organisationId' projectId' missionId' attemptFacts'
    have hlookup : (play (UsageFinaliser.answer readings) {}
        (calls ++ finalise :: later)).executionAggregate.lookup executionId =
          some ⟨executionId, organisationId, projectId, missionId, wall, input, output, attempts⟩ := by
      rw [play_append, play]
      refine UsageFinaliser.aggregate_play ?_
      change AList.lookup executionId (UsageFinaliser.executionAggregate (UsageFinaliser.finaliseItems
        readings _ executionId organisationId projectId missionId attemptFacts).2) = _
      rw [hstored, AList.lookup_insert]
    rw [UsageFinaliser.finaliseItems_again hlookup]

def sampleUsage (organisationId executionId attemptId : String) : UsageFact where
  organisationId := some organisationId
  projectId := none
  missionId := "m"
  executionId
  attemptId
  backendId := "local"
  harnessId := none
  facts := .ofList [("input_tokens", .int 3), ("output_tokens", .int 4)]

theorem usage_counted_iff_sample :
    ∃ aggregate, ((play (UsageFinaliser.answer sampleReadings) {}
        [.recordAttempt (sampleUsage "acme" "e" "a")]).finaliseItems sampleReadings "e" (some "acme")
          none "m" [.fact (sampleUsage "acme" "e" "b")]).1 = .ok aggregate ∧
      (CountedOnce sampleReadings (· == ·) "e" (some "acme")
          [sampleUsage "acme" "e" "a", sampleUsage "acme" "e" "b"] aggregate ↔
        KeysOwned (· == ·) "e" (some "acme") [sampleUsage "acme" "e" "a", sampleUsage "acme" "e" "b"]) := by
  have hsome : ∃ aggregate, ((play (UsageFinaliser.answer sampleReadings) {}
      [.recordAttempt (sampleUsage "acme" "e" "a")]).finaliseItems sampleReadings "e" (some "acme")
        none "m" [.fact (sampleUsage "acme" "e" "b")]).1 = .ok aggregate := ⟨_, rfl⟩
  obtain ⟨aggregate, haggregate⟩ := hsome
  refine ⟨aggregate, haggregate, ?_⟩
  exact (usage_counted_iff sampleReadings (· == ·) [.recordAttempt (sampleUsage "acme" "e" "a")] "e"
    (some "acme") none "m" [.fact (sampleUsage "acme" "e" "b")] aggregate rfl haggregate).1

-- The usage of the execution a:b is counted for the execution a, and that of
-- another organisation for the one that finalises.
theorem foreign_usage_counted :
    (∃ aggregate, ((play (UsageFinaliser.answer sampleReadings) {}
        [.recordAttempt (sampleUsage "acme" "a:b" "c")]).finaliseItems sampleReadings "a"
          (some "acme") none "m" []).1 = .ok aggregate ∧
      ¬CountedOnce sampleReadings (· == ·) "a" (some "acme") [sampleUsage "acme" "a:b" "c"]
        aggregate) ∧
    ∃ aggregate, ((play (UsageFinaliser.answer sampleReadings) {}
        [.recordAttempt (sampleUsage "other" "e" "a")]).finaliseItems sampleReadings "e"
          (some "acme") none "m" []).1 = .ok aggregate ∧
      ¬CountedOnce sampleReadings (· == ·) "e" (some "acme") [sampleUsage "other" "e" "a"]
        aggregate := by
  refine ⟨⟨_, rfl, fun hcounted => ?_⟩, ⟨_, rfl, fun hcounted => ?_⟩⟩
  · exact absurd hcounted.attemptCount (by decide +kernel)
  · exact absurd hcounted.attemptCount (by decide +kernel)

end Counting

end JoyMesh.Completion
