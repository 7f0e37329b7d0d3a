import JoyMesh.Routing.Discipline
import JoyMesh.Completion.Branches

namespace JoyMesh.Routing

open Completion

-- What completion reads of a result that a backend has returned.
def BackendResult.facts (result : BackendResult) (executionId backendId harnessId : String) :
    BackendFacts where
  ok := result.ok
  executionId := executionId
  backendId := backendId
  harnessId := harnessId
  message := result.message
  output := result.output
  failureClass := result.failureClass
  usage := result.usage
  evidenceRefs := result.evidenceRefs
  verification := result.verification
  restoreStatus := result.restoreStatus

def ExecutionResult.facts (result : ExecutionResult) : BackendFacts where
  ok := result.ok
  executionId := result.executionId
  backendId := result.backendId
  harnessId := result.harnessId
  message := result.message
  output := result.output
  failureClass := result.failureClass
  usage := result.usage
  evidenceRefs := result.evidenceRefs
  verification := result.verification
  restoreStatus := result.restoreStatus

namespace BackendResult

def unresolved (result : BackendResult) : Bool := !restoreOk (result.facts "" "" "")

-- The field in which an unresolved restoration outlives the router: the output of
-- a success, the failure class of a failure.
def keepsUnresolved (result : BackendResult) : Bool :=
  if result.ok then result.output.lookup "restored" == some (.bool false)
  else result.failureClass == some "provider_restore_failure"

end BackendResult

-- Completion would not let the result count as restored, and blocks on it.
structure ExecutionResult.Blocks (final : ExecutionResult) : Prop where
  unresolved : restoreOk final.facts = false
  blocked : ∀ (services : Services) (o : Orchestrator) (context : CompletionContext)
    (candidates : List CandidateEvidence) (fresh : Nat → String), o.Open context.executionId →
    context.attemptId = context.authoritativeAttemptId →
      ∃ outcome, (completeFromBackend services o final.facts context candidates fresh).outcome =
        some outcome ∧ outcome.state = .blocked

-- The backend of the turn is executed and its result keeps an unresolved
-- restoration.
def Turn.Keeps (intent : ExecutionIntent) (backendId : String) (turn : Turn) : Prop :=
  turn.course intent backendId = .begins ∧
    ∃ result, turn.execute = .returned result ∧ result.keepsUnresolved = true

theorem ExecutionFailureClass.parseFailure_restore_iff {failureClass : Option String} :
    parseFailure failureClass = .providerRestoreFailure ↔
      failureClass = some "provider_restore_failure" := by
  constructor
  · intro h
    cases failureClass with
    | none => cases h
    | some text =>
        simp only [parseFailure] at h
        split at h
        case isTrue => cases h
        case isFalse =>
          cases hfind : all.find? fun failure => failure.value == text with
          | none => simp [hfind] at h
          | some failure =>
              rw [hfind, Option.getD_some] at h
              have hvalue := List.find?_some hfind
              rw [h, beq_iff_eq] at hvalue
              rw [← hvalue]
              rfl
  · rintro rfl
    rfl

theorem ExecutionResult.blocks_iff {final : ExecutionResult} :
    final.Blocks ↔ restoreOk final.facts = false := by
  refine ⟨fun h => h.unresolved, fun h => ⟨h, fun services o context candidates fresh hopen hauth => ?_⟩⟩
  have hleaves := completeFromBackend_leaves services final.facts hopen candidates fresh
  simp only [backendBranch, hauth, h, ne_eq, not_true_eq_false, if_false, Bool.false_eq_true,
    not_false_eq_true, if_true] at hleaves
  obtain ⟨record, hclosed⟩ := hleaves
  refine ⟨_, hclosed.outcome, ?_⟩
  change record.state = .blocked
  rw [hclosed.state]
  simp [Branch.ending]

section Steps

variable {intent : ExecutionIntent} {decision : ExecutionDecision} {p : Progress}
  {attempt : ExecutionAttemptRecord} {backendId : String} {turn : Turn}

-- What the end of a turn says about a restoration, when it matters whether the
-- turn keeps an unresolved one.
def Tells (keeps : Prop) : TurnEnd × Progress → Prop
  | (.next, q) => q.lastFailure ≠ .providerRestoreFailure ∧ ¬ keeps
  | (.stop, q) => q.lastFailure = .providerRestoreFailure ↔ keeps
  | (.finish (.returned final), _) => restoreOk final.facts = false ↔ keeps
  | (.finish _, _) => True

theorem Tells.congr {keeps other : Prop} {ended : TurnEnd × Progress} (h : Tells keeps ended)
    (hiff : keeps ↔ other) : Tells other ended := propext hiff ▸ h

theorem fallBack_tells {keeps : Prop} {reason : String} {failure : ExecutionFailureClass}
    (hlast : p.lastFailure = failure) (hkeeps : failure = .providerRestoreFailure ↔ keeps) :
    Tells keeps (fallBack intent decision p backendId reason failure) := by
  unfold fallBack
  split
  next hmay =>
    have hne : failure ≠ .providerRestoreFailure := by
      rintro rfl
      cases hmay
    exact ⟨hlast ▸ hne, fun hk => hne (hkeeps.mpr hk)⟩
  next =>
    subst hlast
    exact hkeeps

theorem prepareFailed_tells {keeps : Prop} {error : PyError} (hkeeps : ¬ keeps) :
    Tells keeps (prepareFailed intent decision p attempt backendId error) :=
  fallBack_tells rfl ⟨fun h => (by cases h), fun h => absurd h hkeeps⟩

theorem executed_tells {result : BackendResult} :
    Tells (result.keepsUnresolved = true)
      (executed intent decision p attempt backendId result) := by
  unfold executed BackendResult.keepsUnresolved
  dsimp only
  split
  next => simp [Tells, restoreOk, ExecutionResult.facts]
  next =>
    refine fallBack_tells rfl ?_
    rw [ExecutionFailureClass.parseFailure_restore_iff]
    simp

theorem cleanUp_tells {keeps : Prop} {ended : TurnEnd × Progress} (h : Tells keeps ended) :
    Tells keeps (cleanUp turn backendId ended) := by
  obtain ⟨ending, q⟩ := ended
  have hsame : Tells keeps (ending, q.called (.cleanup backendId)) := by
    cases ending with
    | finish outcome => cases outcome <;> exact h
    | stop => exact h
    | next => exact h
  unfold cleanUp
  cases turn.cleanup with
  | aborted error => trivial
  | returned _ => exact hsame
  | raised _ => exact hsame

theorem afterPreparation_tells :
    Tells (turn.tryCourse = .begins ∧
        ∃ result, turn.execute = .returned result ∧ result.keepsUnresolved = true)
      (afterPreparation intent decision p attempt backendId turn) := by
  unfold afterPreparation Turn.tryCourse
  cases turn.preparation with
  | aborted error => trivial
  | raised error =>
      refine prepareFailed_tells fun h => ?_
      have hcourse := h.1
      dsimp only at hcourse
      split at hcourse <;> cases hcourse
  | returned _ =>
      cases turn.execute with
      | aborted error => trivial
      | raised error => exact prepareFailed_tells fun ⟨_, _, h, _⟩ => nomatch h
      | returned result => exact executed_tells.congr (by simp)

theorem entitlementFailure_ne_restore (reasonCode : String) :
    (ExecutionFailureClass.entitlementFailure reasonCode).value ≠ "provider_restore_failure" := by
  unfold ExecutionFailureClass.entitlementFailure
  split_ifs <;> decide

theorem takeTurn_tells :
    Tells (turn.Keeps intent backendId) (takeTurn intent decision p backendId turn) := by
  unfold takeTurn Turn.Keeps Turn.course
  by_cases hc : turn.cancelled
  · rw [if_pos hc, if_pos hc]
    simp [Tells, cancelledResult, restoreOk, ExecutionResult.facts, ExecutionFailureClass.value]
  rw [if_neg hc, if_neg hc]
  cases enforceEntitlements turn.entitlements intent (some backendId) with
  | error error =>
      simp [Tells, refusedResult, restoreOk, ExecutionResult.facts, entitlementFailure_ne_restore]
  | ok _ =>
      cases turn.registered with
      | error text => exact ⟨by simp [Progress.failed], fun h => by cases h.1⟩
      | ok _ =>
          cases turn.health with
          | aborted error => trivial
          | raised error => trivial
          | returned health =>
              dsimp only
              by_cases hu : !health.healthy ∨ health.state = "disabled" ∨ health.state = "unsupported"
              · rw [if_pos hu, if_pos hu]
                exact fallBack_tells rfl (iff_of_false (by simp) fun h => by cases h.1)
              · rw [if_neg hu, if_neg hu]
                cases turn.supports with
                | aborted error => trivial
                | raised error => trivial
                | returned supported =>
                    cases supported
                    · exact ⟨by simp [Progress.failed], fun h => by cases h.1⟩
                    · dsimp only
                      refine cleanUp_tells ?_
                      obtain ⟨q, -, he⟩ : ∃ q : Progress, executions q.calls = _ ∧
                          tryBackend intent decision _ _ backendId turn =
                            afterPreparation intent decision q _ backendId turn := tryBackend_eq
                      rw [he]
                      exact afterPreparation_tells

theorem begun_cons {rest : List (String × Turn)} :
    begun intent ((backendId, turn) :: rest) =
      match turn.course intent backendId with
      | .passedOver => begun intent rest
      | .ends => []
      | .begins => turn.execute :: if turn.goesOn then begun intent rest else [] := rfl

theorem concluded_unresolved_iff :
    restoreOk (concluded intent decision p).facts = false ↔
      p.lastFailure = .providerRestoreFailure := by
  have hvalue : p.lastFailure.value = "provider_restore_failure" ↔
      p.lastFailure = .providerRestoreFailure := by
    cases p.lastFailure <;> simp [ExecutionFailureClass.value]
  rw [← hvalue]
  simp [restoreOk, concluded, ExecutionResult.facts]

-- The result reports an unresolved restoration exactly when a result that some
-- backend of the loop has returned keeps one.
theorem tryOrder_unresolved_iff {turns : List (String × Turn)} {final : ExecutionResult}
    (hfinal : (tryOrder intent decision p turns).1 = .returned final)
    (hlast : p.lastFailure ≠ .providerRestoreFailure) :
    restoreOk final.facts = false ↔
      ∃ result, .returned result ∈ begun intent turns ∧ result.keepsUnresolved = true := by
  induction turns generalizing p with
  | nil =>
      obtain rfl := Outcome.returned.inj hfinal
      rw [concluded_unresolved_iff]
      simp [begun, hlast]
  | cons head rest ih =>
      obtain ⟨backendId, turn⟩ := head
      have hmet : Met p turn (takeTurn intent decision p backendId turn)
          (turn.course intent backendId) := takeTurn_met
      have htells : Tells (turn.Keeps intent backendId)
          (takeTurn intent decision p backendId turn) := takeTurn_tells
      unfold tryOrder at hfinal
      -- a turn after which the loop ends is the last one that begins an execution
      have hends : (takeTurn intent decision p backendId turn).1 ≠ .next →
          (turn.Keeps intent backendId ↔ ∃ result,
            .returned result ∈ begun intent ((backendId, turn) :: rest) ∧
              result.keepsUnresolved = true) := by
        intro hne
        rw [Turn.Keeps, begun_cons]
        cases hc : turn.course intent backendId with
        | passedOver => exact absurd (hc ▸ hmet).1 hne
        | ends => simp
        | begins =>
            have hg : turn.goesOn = false := by
              by_contra hg
              exact hne ((hc ▸ hmet).1.mpr (by simpa using hg))
            simp [hg, eq_comm (a := turn.execute)]
      generalize takeTurn intent decision p backendId turn = ended at hmet htells hfinal hends
      obtain ⟨ending, q⟩ := ended
      cases ending with
      | finish outcome =>
          subst hfinal
          exact htells.trans (hends (by simp))
      | stop =>
          obtain rfl := Outcome.returned.inj hfinal
          rw [concluded_unresolved_iff]
          exact htells.trans (hends (by simp))
      | next =>
          rw [ih hfinal htells.1]
          have hkeeps : ¬ turn.Keeps intent backendId := htells.2
          rw [Turn.Keeps] at hkeeps
          rw [begun_cons]
          cases hc : turn.course intent backendId with
          | passedOver => rfl
          | ends => exact absurd rfl (hc ▸ hmet).1
          | begins =>
              have hg : turn.goesOn = true := (hc ▸ hmet).1.mp rfl
              simp only [hc, true_and] at hkeeps
              simp only [hg, if_true, List.mem_cons]
              constructor
              · rintro ⟨result, hmem, hk⟩
                exact ⟨result, .inr hmem, hk⟩
              · rintro ⟨result, heq | hmem, hk⟩
                · exact absurd ⟨result, heq.symm, hk⟩ hkeeps
                · exact ⟨result, hmem, hk⟩

end Steps

-- A result is unresolved in any of the three fields that completion reads. It
-- blocks the completion of the call where some backend of it has reported an
-- unresolved restoration in the field that the router passes on.
theorem restoration_reported_iff (intent : ExecutionIntent) (decision : ExecutionDecision)
    (turn : Nat → Turn) {final : ExecutionResult}
    (hfinal : (executeWithFallback intent decision turn).1 = .returned final) :
    (∀ result, .returned result ∈ executions (executeWithFallback intent decision turn).2.calls →
      result.unresolved = true → final.Blocks) ↔
      (∀ result, .returned result ∈ begun intent
          (decision.order.mapIdx fun place backendId => (backendId, turn place)) →
        result.unresolved = false) ∨
      ∃ result, .returned result ∈ begun intent
          (decision.order.mapIdx fun place backendId => (backendId, turn place)) ∧
        result.keepsUnresolved = true := by
  have hexec : executions (executeWithFallback intent decision turn).2.calls =
      begun intent (decision.order.mapIdx fun place backendId => (backendId, turn place)) :=
    tryOrder_executions _
  rw [hexec, ExecutionResult.blocks_iff,
    tryOrder_unresolved_iff hfinal (by simp : ExecutionFailureClass.unknown ≠ .providerRestoreFailure)]
  constructor
  · intro h
    by_cases hany : ∃ result, .returned result ∈ begun intent
        (decision.order.mapIdx fun place backendId => (backendId, turn place)) ∧
          result.unresolved = true
    · obtain ⟨result, hmem, hunresolved⟩ := hany
      exact .inr (h result hmem hunresolved)
    · refine .inl fun result hmem => ?_
      by_contra hunresolved
      exact hany ⟨result, hmem, by simpa using hunresolved⟩
  · rintro (hall | hkept) result hmem hunresolved
    · rw [hall result hmem] at hunresolved
      cases hunresolved
    · exact hkept

def blockedRestore : BackendResult where
  ok := false
  message := "provider route restoration failed"
  failureClass := some "provider_restore_failure"

def unreportedRestore : BackendResult where
  ok := true
  message := "harness execution completed"
  restoreStatus := some "failed"

theorem blockedRestore_reported :
    ∃ final,
      (executeWithFallback sampleIntent sampleDecision fun _ => { execute := .returned blockedRestore }).1 =
        .returned final ∧
      (∀ result, .returned result ∈ executions (executeWithFallback sampleIntent sampleDecision
          fun _ => { execute := .returned blockedRestore }).2.calls →
        result.unresolved = true → final.Blocks) := by
  refine ⟨_, rfl, (restoration_reported_iff sampleIntent sampleDecision
    (fun _ => { execute := .returned blockedRestore }) rfl).mpr (.inr ⟨blockedRestore, ?_, rfl⟩)⟩
  exact List.mem_cons_self

-- The router does not pass on the status of the restoration.
theorem unreportedRestore_lost :
    ∃ final,
      (executeWithFallback sampleIntent sampleDecision
        fun _ => { execute := .returned unreportedRestore }).1 = .returned final ∧
      ¬ ∀ result, .returned result ∈ executions (executeWithFallback sampleIntent sampleDecision
          fun _ => { execute := .returned unreportedRestore }).2.calls →
        result.unresolved = true → final.Blocks := by
  refine ⟨_, rfl, fun h => ?_⟩
  have hblocks := h unreportedRestore List.mem_cons_self (by decide +kernel)
  exact absurd hblocks.unresolved (by decide +kernel)

end JoyMesh.Routing
