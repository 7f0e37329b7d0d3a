import JoyMesh.Routing.Fallback

namespace JoyMesh.Routing

-- How the executions that were begun ended, in the order in which they began.
def executions (calls : List BackendCall) : List (Outcome BackendResult) :=
  calls.filterMap fun call =>
    match call with
    | .execute _ outcome => some outcome
    | _ => none

-- A failure that lets another backend run the task.
def Outcome.Retryable (outcome : Outcome BackendResult) : Prop :=
  ∃ result, outcome = .returned result ∧ result.ok = false ∧
    (ExecutionFailureClass.parseFailure result.failureClass).mayFallback = true

-- An execution begins only after earlier ones that failed retryably.
def Disciplined (calls : List BackendCall) : Prop :=
  (executions calls).Pairwise fun earlier _ => earlier.Retryable

-- How far a turn gets: it is passed over, it ends the call, or it begins the
-- execution of its backend.
inductive Course where
  | passedOver
  | ends
  | begins
deriving DecidableEq

def Outcome.isAborted {α : Type} : Outcome α → Bool
  | .aborted _ => true
  | _ => false

namespace Turn

variable (turn : Turn)

-- How the preparation ends, of which the validation is the second half.
def preparation : Outcome Unit :=
  match turn.prepare with
  | .returned _ => turn.validate
  | .raised error => .raised error
  | .aborted error => .aborted error

-- The course of the try block.
def tryCourse : Course :=
  match turn.preparation with
  | .aborted _ => .ends
  | .raised _ => if turn.cleanup.isAborted then .ends else .passedOver
  | .returned _ => .begins

def course (intent : ExecutionIntent) (backendId : String) : Course :=
  if turn.cancelled then .ends
  else
    match enforceEntitlements turn.entitlements intent (some backendId) with
    | .error _ => .ends
    | .ok _ =>
        match turn.registered with
        | .error _ => .passedOver
        | .ok _ =>
            match turn.health with
            | .aborted _ => .ends
            | .raised _ => .ends
            | .returned health =>
                if !health.healthy ∨ health.state = "disabled" ∨ health.state = "unsupported" then
                  .passedOver
                else
                  match turn.supports with
                  | .aborted _ => .ends
                  | .raised _ => .ends
                  | .returned false => .passedOver
                  | .returned true => turn.tryCourse

-- The loop goes on after the execution.
def goesOn : Bool :=
  !turn.cleanup.isAborted &&
    match turn.execute with
    | .raised _ => true
    | .returned result =>
        !result.ok && (ExecutionFailureClass.parseFailure result.failureClass).mayFallback
    | .aborted _ => false

end Turn

-- No backend of the order gets to its execution.
def NoneBegins (intent : ExecutionIntent) : List (String × Turn) → Prop
  | [] => True
  | (backendId, turn) :: rest =>
      match turn.course intent backendId with
      | .passedOver => NoneBegins intent rest
      | .ends => True
      | .begins => False

-- After an execution that raises, no later backend gets to its own.
def RaisesLast (intent : ExecutionIntent) : List (String × Turn) → Prop
  | [] => True
  | (backendId, turn) :: rest =>
      match turn.course intent backendId with
      | .passedOver => RaisesLast intent rest
      | .ends => True
      | .begins =>
          match turn.execute with
          | .raised _ => turn.cleanup.isAborted = true ∨ NoneBegins intent rest
          | .returned _ => turn.goesOn = true → RaisesLast intent rest
          | .aborted _ => True

-- The executions that the loop begins.
def begun (intent : ExecutionIntent) : List (String × Turn) → List (Outcome BackendResult)
  | [] => []
  | (backendId, turn) :: rest =>
      match turn.course intent backendId with
      | .passedOver => begun intent rest
      | .ends => []
      | .begins => turn.execute :: if turn.goesOn then begun intent rest else []

section Loop

variable {intent : ExecutionIntent} {decision : ExecutionDecision} {p : Progress}
  {attempt : ExecutionAttemptRecord} {backendId : String} {turn : Turn} {reason : String}
  {failure : ExecutionFailureClass} {error : PyError} {result : BackendResult}
  {ended : TurnEnd × Progress}

theorem fallBack_calls :
    (fallBack intent decision p backendId reason failure).2.calls = p.calls := by
  unfold fallBack
  split <;> rfl

theorem fallBack_next :
    (fallBack intent decision p backendId reason failure).1 = .next ↔ failure.mayFallback = true := by
  unfold fallBack
  split <;> simp_all

theorem prepareFailed_calls :
    (prepareFailed intent decision p attempt backendId error).2.calls = p.calls := by
  rw [prepareFailed, fallBack_calls]
  rfl

-- A preparation failure is eligible, so the next backend tries.
theorem prepareFailed_next : (prepareFailed intent decision p attempt backendId error).1 = .next :=
  fallBack_next.mpr rfl

theorem executed_calls :
    (executed intent decision p attempt backendId result).2.calls = p.calls := by
  simp only [executed]
  split
  · rfl
  · rw [fallBack_calls]
    rfl

theorem executed_next :
    (executed intent decision p attempt backendId result).1 = .next ↔
      result.ok = false ∧
        (ExecutionFailureClass.parseFailure result.failureClass).mayFallback = true := by
  simp only [executed]
  split
  next hok => simp [hok]
  next hok => rw [fallBack_next]; simp [hok]

theorem cleanUp_next :
    (cleanUp turn backendId ended).1 = .next ↔ turn.cleanup.isAborted = false ∧ ended.1 = .next := by
  unfold cleanUp
  cases turn.cleanup <;> simp [Outcome.isAborted]

theorem cleanUp_executions :
    executions (cleanUp turn backendId ended).2.calls = executions ended.2.calls := by
  unfold cleanUp
  cases turn.cleanup <;> simp [Progress.called, executions]

-- What a turn of each course adds to the executions, and whether the loop goes on.
def Met (p : Progress) (turn : Turn) (ended : TurnEnd × Progress) : Course → Prop
  | .passedOver => ended.1 = .next ∧ executions ended.2.calls = executions p.calls
  | .ends => ended.1 ≠ .next ∧ executions ended.2.calls = executions p.calls
  | .begins => (ended.1 = .next ↔ turn.goesOn = true) ∧
      executions ended.2.calls = executions p.calls ++ [turn.execute]

-- The try block after the preparation.
def afterPreparation (intent : ExecutionIntent) (decision : ExecutionDecision) (p : Progress)
    (attempt : ExecutionAttemptRecord) (backendId : String) (turn : Turn) : TurnEnd × Progress :=
  match turn.preparation with
  | .aborted error => (.finish (.aborted error), p)
  | .raised error => prepareFailed intent decision p attempt backendId error
  | .returned _ =>
      let p := p.called (.execute backendId turn.execute)
      match turn.execute with
      | .aborted error => (.finish (.aborted error), p)
      | .raised error => prepareFailed intent decision p attempt backendId error
      | .returned result => executed intent decision p attempt backendId result

theorem tryBackend_eq : ∃ q : Progress, executions q.calls = executions p.calls ∧
    tryBackend intent decision p attempt backendId turn =
      afterPreparation intent decision q attempt backendId turn := by
  unfold tryBackend afterPreparation Turn.preparation
  cases turn.prepare with
  | aborted error => exact ⟨_, by simp [Progress.called, Progress.audit, executions], rfl⟩
  | raised error => exact ⟨_, by simp [Progress.called, Progress.audit, executions], rfl⟩
  | returned _ =>
      cases turn.validate with
      | aborted error =>
          refine ⟨_, ?_, rfl⟩
          simp [Progress.called, Progress.audit, executions]
      | raised error =>
          refine ⟨_, ?_, rfl⟩
          simp [Progress.called, Progress.audit, executions]
      | returned _ =>
          refine ⟨_, ?_, rfl⟩
          simp [Progress.called, Progress.audit, executions]

theorem afterPreparation_met : Met p turn
    (cleanUp turn backendId (afterPreparation intent decision p attempt backendId turn))
    turn.tryCourse := by
  unfold afterPreparation Turn.tryCourse
  cases turn.preparation with
  | aborted error =>
      refine ⟨fun h => ?_, by rw [cleanUp_executions]⟩
      cases (cleanUp_next.mp h).2
  | raised error =>
      have hcalls : executions (cleanUp turn backendId
          (prepareFailed intent decision p attempt backendId error)).2.calls =
            executions p.calls := by rw [cleanUp_executions, prepareFailed_calls]
      dsimp only
      split
      next ha => exact ⟨fun h => by simp [(cleanUp_next.mp h).1] at ha, hcalls⟩
      next ha => exact ⟨cleanUp_next.mpr ⟨by simpa using ha, prepareFailed_next⟩, hcalls⟩
  | returned _ =>
      cases he : turn.execute with
      | aborted error =>
          refine ⟨?_, by rw [cleanUp_executions, he]; simp [Progress.called, executions]⟩
          simp [cleanUp_next, Turn.goesOn, he]
      | raised error =>
          refine ⟨?_, by rw [cleanUp_executions, prepareFailed_calls, he]; simp [Progress.called, executions]⟩
          simp [cleanUp_next, prepareFailed_next, Turn.goesOn, he]
      | returned result =>
          refine ⟨?_, by rw [cleanUp_executions, executed_calls, he]; simp [Progress.called, executions]⟩
          simp [cleanUp_next, executed_next, Turn.goesOn, he]

theorem Met.congr {q : Progress} {course : Course} (hq : executions q.calls = executions p.calls)
    (h : Met q turn ended course) : Met p turn ended course := by
  cases course with
  | passedOver => exact ⟨h.1, h.2.trans hq⟩
  | ends => exact ⟨h.1, h.2.trans hq⟩
  | begins => exact ⟨h.1, by rw [h.2, hq]⟩

theorem tried_met : Met p turn
    (cleanUp turn backendId (tryBackend intent decision p attempt backendId turn)) turn.tryCourse := by
  obtain ⟨q, hq, he⟩ : ∃ q : Progress, executions q.calls = executions p.calls ∧
      tryBackend intent decision p attempt backendId turn =
        afterPreparation intent decision q attempt backendId turn := tryBackend_eq
  rw [he]
  exact Met.congr hq afterPreparation_met

theorem unhealthy_met {health : BackendHealth} :
    Met p turn (unhealthy intent decision p attempt backendId health) .passedOver := by
  refine ⟨fallBack_next.mpr rfl, ?_⟩
  rw [unhealthy, fallBack_calls]
  rfl

theorem takeTurn_met :
    Met p turn (takeTurn intent decision p backendId turn) (turn.course intent backendId) := by
  unfold takeTurn Turn.course
  by_cases hc : turn.cancelled
  · simp only [hc, if_true]
    exact ⟨fun h => (by cases h), rfl⟩
  rw [if_neg hc, if_neg hc]
  cases enforceEntitlements turn.entitlements intent (some backendId) with
  | error error => exact ⟨fun h => (by cases h), rfl⟩
  | ok _ =>
      cases turn.registered with
      | error text => exact ⟨rfl, rfl⟩
      | ok _ =>
          cases turn.health with
          | aborted error => exact ⟨fun h => (by cases h), by simp [Progress.called, executions]⟩
          | raised error => exact ⟨fun h => (by cases h), by simp [Progress.called, executions]⟩
          | returned health =>
              dsimp only
              by_cases hu : !health.healthy ∨ health.state = "disabled" ∨ health.state = "unsupported"
              · rw [if_pos hu, if_pos hu]
                exact Met.congr (by simp [Progress.called, executions]) unhealthy_met
              · rw [if_neg hu, if_neg hu]
                cases turn.supports with
                | aborted error =>
                    exact ⟨fun h => (by cases h), by simp [Progress.called, executions]⟩
                | raised error =>
                    exact ⟨fun h => (by cases h), by simp [Progress.called, executions]⟩
                | returned supported =>
                    cases supported
                    · exact ⟨rfl, by simp [unsupported, Progress.called, Progress.attempt,
                        Progress.audit, Progress.failed, executions]⟩
                    · exact Met.congr (by simp [Progress.called, executions]) tried_met

-- The loop begins exactly the executions that the turns say.
theorem tryOrder_executions (turns : List (String × Turn)) :
    executions (tryOrder intent decision p turns).2.calls =
      executions p.calls ++ begun intent turns := by
  induction turns generalizing p with
  | nil => exact (List.append_nil _).symm
  | cons head rest ih =>
      obtain ⟨backendId, turn⟩ := head
      have hmet : Met p turn (takeTurn intent decision p backendId turn)
          (turn.course intent backendId) := takeTurn_met
      unfold tryOrder begun
      generalize takeTurn intent decision p backendId turn = ended at hmet
      obtain ⟨ending, q⟩ := ended
      cases hc : turn.course intent backendId with
      | passedOver =>
          rw [hc] at hmet
          obtain ⟨rfl, hq⟩ := hmet
          exact ih.trans (congrArg (· ++ begun intent rest) hq)
      | ends =>
          rw [hc] at hmet
          obtain ⟨hne, hq⟩ := hmet
          cases ending with
          | finish outcome => simpa using hq
          | stop => simpa using hq
          | next => exact absurd rfl hne
      | begins =>
          rw [hc] at hmet
          obtain ⟨hnext, hq⟩ := hmet
          cases ending with
          | finish outcome =>
              have hg : ¬ turn.goesOn = true := fun hg => (by cases hnext.mpr hg)
              simpa [hg] using hq
          | stop =>
              have hg : ¬ turn.goesOn = true := fun hg => (by cases hnext.mpr hg)
              simpa [hg] using hq
          | next =>
              have hg : turn.goesOn = true := hnext.mp rfl
              have hi := ih (p := q)
              rw [hq] at hi
              simpa [hg] using hi

end Loop

variable {intent : ExecutionIntent} {turns : List (String × Turn)}

theorem noneBegins_iff : NoneBegins intent turns ↔ begun intent turns = [] := by
  induction turns with
  | nil => simp [NoneBegins, begun]
  | cons head rest ih =>
      obtain ⟨backendId, turn⟩ := head
      unfold NoneBegins begun
      cases turn.course intent backendId with
      | passedOver => exact ih
      | ends => simp
      | begins => simp

theorem Turn.goesOn_returned {turn : Turn} {result : BackendResult}
    (he : turn.execute = .returned result) (hg : turn.goesOn = true) :
    turn.execute.Retryable := by
  simp only [goesOn, he, Bool.and_eq_true, Bool.not_eq_true'] at hg
  exact ⟨result, he, hg.2.1, hg.2.2⟩

theorem raisesLast_iff :
    RaisesLast intent turns ↔ (begun intent turns).Pairwise fun earlier _ => earlier.Retryable := by
  induction turns with
  | nil => simp [RaisesLast, begun]
  | cons head rest ih =>
      obtain ⟨backendId, turn⟩ := head
      unfold RaisesLast begun
      cases turn.course intent backendId with
      | passedOver => exact ih
      | ends => simp
      | begins =>
          dsimp only
          rw [List.pairwise_cons]
          cases he : turn.execute with
          | aborted error =>
              have hg : turn.goesOn = false := by simp [Turn.goesOn, he]
              simp [hg]
          | raised error =>
              have hg : turn.goesOn = !turn.cleanup.isAborted := by simp [Turn.goesOn, he]
              have hnot : ¬ Outcome.Retryable (.raised error) := by
                rintro ⟨result, hr, -⟩
                cases hr
              -- an execution that raised must be the last one
              cases ha : turn.cleanup.isAborted with
              | true => simp [hg, ha]
              | false =>
                  rw [noneBegins_iff]
                  cases begun intent rest with
                  | nil => simp [hg, ha]
                  | cons later others =>
                      simp only [hg, ha, Bool.not_false, if_true, reduceCtorEq, or_self, false_iff]
                      rintro ⟨hlater, -⟩
                      exact hnot (hlater later List.mem_cons_self)
          | returned result =>
              by_cases hg : turn.goesOn = true
              · have hr := Turn.goesOn_returned he hg
                rw [he] at hr
                simp [hg, hr, ih]
              · simp [hg]

-- For every intent, decision and behaviour of the backends.
theorem fallback_disciplined_iff (intent : ExecutionIntent) (decision : ExecutionDecision)
    (turn : Nat → Turn) :
    Disciplined (executeWithFallback intent decision turn).2.calls ↔
      RaisesLast intent (decision.order.mapIdx fun place backendId => (backendId, turn place)) := by
  have hexec : executions (executeWithFallback intent decision turn).2.calls =
      begun intent (decision.order.mapIdx fun place backendId => (backendId, turn place)) :=
    tryOrder_executions _
  rw [Disciplined, hexec, raisesLast_iff]

section Runs

def sampleIntent : ExecutionIntent where
  missionId := "mission"
  executionId := "execution"
  prompt := "fix the bug"
  workspacePath := "/work"
  requiredCapabilities := [.filesystem]

def sampleDecision : ExecutionDecision where
  executionId := "execution"
  selectedBackendId := "local"
  selectedHarnessId := "codex"
  reason := "matched capabilities via local"
  fallbackOrder := ["fireconnect"]
  providerRoutingRequired := false

-- The first execution raises when it is already under way.
def raisingTurns (place : Nat) : Turn :=
  if place = 0 then { execute := .raised ⟨"TimeoutError", "harness timed out"⟩ }
  else { execute := .returned ⟨true, "done", ∅, none, ∅, [], ∅, none⟩ }

theorem fallback_undisciplined :
    ¬ Disciplined (executeWithFallback sampleIntent sampleDecision raisingTurns).2.calls := by
  intro h
  obtain ⟨hfirst, -⟩ := List.pairwise_cons.mp h
  obtain ⟨result, hr, -⟩ := hfirst _ List.mem_cons_self
  cases hr

end Runs

end JoyMesh.Routing
