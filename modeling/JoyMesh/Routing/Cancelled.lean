import JoyMesh.Routing.Interleaving

namespace JoyMesh.Routing

open Library

-- How a turn goes on from an await: it begins an execution, the execution that it
-- has begun succeeds, it passes on to the next backend, or it ends the loop.
inductive Ending where
  | begins
  | succeeds
  | passes
  | stops
deriving DecidableEq, Repr

namespace Turn

variable (turn : Turn)

-- An exception in the cleanup that is not ordinary ends the call.
def closing (ending : Ending) : Ending := if turn.cleanup.isAborted then .stops else ending

def preparing : Ending :=
  match turn.preparation with
  | .returned _ => .begins
  | .raised _ => turn.closing .passes
  | .aborted _ => .stops

def ending : Stage → Ending
  | .health =>
      match turn.health with
      | .returned health =>
          if !health.healthy ∨ health.state = "disabled" ∨ health.state = "unsupported" then .passes
          else
            match turn.supports with
            | .returned true => turn.preparing
            | .returned false => .passes
            | _ => .stops
      | _ => .stops
  | .prepare => turn.preparing
  | .validate =>
      match turn.validate with
      | .returned _ => .begins
      | .raised _ => turn.closing .passes
      | .aborted _ => .stops
  | .execute =>
      match turn.execute with
      | .returned result =>
          turn.closing <|
            if result.ok then .succeeds
            else if (ExecutionFailureClass.parseFailure result.failureClass).mayFallback then .passes
            else .stops
      | .raised _ => turn.closing .passes
      | .aborted _ => .stops
  | .cleanup ended =>
      match ended with
      | .next => turn.closing .passes
      | _ => .stops

-- After the await the turn begins no execution, and none that it has begun succeeds.
def Spent (stage : Stage) : Prop := turn.ending stage = .passes ∨ turn.ending stage = .stops

end Turn

-- The next turn that the loop comes to is refused by the entitlements.
def refusedNext (intent : ExecutionIntent) : List (String × Turn) → Bool
  | [] => false
  | (backendId, turn) :: rest =>
      match enforceEntitlements turn.entitlements intent (some backendId) with
      | .error _ => true
      | .ok _ =>
          match turn.registered with
          | .error _ => refusedNext intent rest
          | .ok _ => false

namespace Execution

-- No execution begins after a mark, and a call that is marked before it is left
-- does not succeed.
structure Obeyed (e : Execution) : Prop where
  noExecution : e.log.Pairwise fun earlier later =>
    earlier = .marked → ∀ backendId, later ≠ .began backendId
  notSucceeded : ∀ final, e.standing = .left (.returned final) → .marked ∈ e.log →
    final.status ≠ .succeeded

-- A call that returns leaves no entry.
def Cleared (intent : ExecutionIntent) (e : Execution) : Prop :=
  ∀ final, e.standing = .left (.returned final) → e.registry.get intent.executionId = none

structure CancelWins (intent : ExecutionIntent) (e : Execution) : Prop extends e.Obeyed where
  cleared : e.Cleared intent

-- A mark comes when the turn in progress begins no execution any more.
def TimelyAt (intent : ExecutionIntent) (e : Execution) : Standing → Label → Prop
  | .suspended turning stage, .cancel =>
      e.registry.marks intent.executionId = true → turning.turn.Spent stage
  | _, _ => True

def Timely (intent : ExecutionIntent) (e : Execution) (label : Label) : Prop :=
  e.TimelyAt intent e.standing label

-- A further backend gets its turn in a call that is not marked, and only where the
-- entitlements allow it.
def HandsOnAt (intent : ExecutionIntent) (e : Execution) : Standing → Label → Prop
  | .suspended turning stage, .proceed => turning.turn.ending stage = .passes →
      e.remaining = [] ∨
        e.registry.isCancelled intent.executionId = false ∧ refusedNext intent e.remaining = false
  | _, _ => True

def HandsOn (intent : ExecutionIntent) (e : Execution) (label : Label) : Prop :=
  e.HandsOnAt intent e.standing label

instance (intent : ExecutionIntent) (e : Execution) :
    ∀ standing label, Decidable (e.TimelyAt intent standing label)
  | .left _, _ => .isTrue trivial
  | .suspended _ _, .cancel => inferInstanceAs (Decidable (_ = true → _ ∨ _))
  | .suspended _ _, .proceed => .isTrue trivial

instance (intent : ExecutionIntent) (e : Execution) (label : Label) :
    Decidable (e.Timely intent label) :=
  inferInstanceAs (Decidable (e.TimelyAt intent e.standing label))

instance (intent : ExecutionIntent) (e : Execution) :
    ∀ standing label, Decidable (e.HandsOnAt intent standing label)
  | .left _, _ => .isTrue trivial
  | .suspended _ _, .cancel => .isTrue trivial
  | .suspended _ _, .proceed => inferInstanceAs (Decidable (_ = _ → _ = [] ∨ _ = false ∧ _ = false))

instance (intent : ExecutionIntent) (e : Execution) (label : Label) :
    Decidable (e.HandsOn intent label) :=
  inferInstanceAs (Decidable (e.HandsOnAt intent e.standing label))

end Execution

section Steps

variable {intent : ExecutionIntent} {decision : ExecutionDecision} {loop : Loop} {e : Execution}
  {turning : Turning} {stage : Stage}

-- Where a call goes from an await of a turn.
inductive Goes (intent : ExecutionIntent) (decision : ExecutionDecision) (loop : Loop)
    (turning : Turning) : Stage → Execution → Prop
  | waits {stage next p} (hnext : ∀ ended, next ≠ .cleanup ended)
      (hending : turning.turn.ending next = turning.turn.ending stage) :
      Goes intent decision loop turning stage (loop.suspend turning next p)
  | begins {stage p} (hending : turning.turn.ending stage = .begins) :
      Goes intent decision loop turning stage
        (Loop.suspend { loop with log := loop.log ++ [.began turning.backendId] } turning .execute p)
  | closes {stage ended p} (hended : ∀ final, ended ≠ .finish (.returned final))
      (hending : turning.turn.ending (.cleanup ended) = .stops ∨
        turning.turn.ending (.cleanup ended) = turning.turn.ending stage) :
      Goes intent decision loop turning stage (loop.suspend turning (.cleanup ended) p)
  | succeeds {stage final p}
      (hending : turning.turn.cleanup.isAborted = false → turning.turn.ending stage = .succeeds) :
      Goes intent decision loop turning stage
        (Loop.suspend { loop with registry := loop.registry.clear intent.executionId } turning
          (.cleanup (.finish (.returned final))) p)
  | passes {stage p} (hending : turning.turn.ending stage = .passes) :
      Goes intent decision loop turning stage
        (Loop.advance intent decision { loop with progress := p } loop.remaining)
  | stops {stage p} : Goes intent decision loop turning stage (loop.leave intent decision (.stop, p))
  | raises {stage outcome p} (houtcome : ∀ final, outcome ≠ .returned final) :
      Goes intent decision loop turning stage (loop.leave intent decision (.finish outcome, p))
  | returns {final p} (hclosed : turning.turn.cleanup.isAborted = false) :
      Goes intent decision loop turning (.cleanup (.finish (.returned final)))
        (loop.leave intent decision (.finish (.returned final), p))

namespace Loop

theorem settle_next {ended : TurnEnd × Progress} (h : ended.1 = .next)
    (hending : turning.turn.ending stage = .passes) :
    Goes intent decision loop turning stage (loop.settle intent decision ended) := by
  unfold settle
  rw [h]
  exact .passes hending

theorem raised_goes (error : PyError)
    (hending : turning.turn.ending (.cleanup .next) = turning.turn.ending stage) :
    Goes intent decision loop turning stage (loop.raised intent decision turning error) := by
  have hnext : (prepareFailed intent decision loop.progress turning.attempt turning.backendId
      error).1 = .next := prepareFailed_next
  unfold raised cleanUp
  rw [hnext]
  exact .closes (by simp) (.inr hending)

theorem aborted_goes (error : PyError) :
    Goes intent decision loop turning stage (loop.aborted turning error) :=
  .closes (by simp) (.inl rfl)

theorem health_goes :
    Goes intent decision loop turning .health (loop.proceed intent decision turning .health) := by
  unfold proceed
  cases hhealth : turning.turn.health with
  | aborted error => exact .raises (by simp)
  | raised error => exact .raises (by simp)
  | returned health =>
      dsimp only
      unfold checked
      dsimp only
      split
      next hu =>
        refine settle_next (fallBack_next.mpr rfl) ?_
        simp only [Turn.ending, hhealth, if_pos hu]
      next hu =>
        cases hsupports : turning.turn.supports with
        | aborted error => exact .raises (by simp)
        | raised error => exact .raises (by simp)
        | returned supported =>
            cases supported with
            | false =>
                refine settle_next rfl ?_
                simp only [Turn.ending, hhealth, if_neg hu, hsupports]
            | true =>
                refine .waits (by simp) ?_
                simp only [Turn.ending, hhealth, if_neg hu, hsupports]

theorem prepare_goes :
    Goes intent decision loop turning .prepare (loop.proceed intent decision turning .prepare) := by
  unfold proceed
  cases hprepare : turning.turn.prepare with
  | aborted error => exact aborted_goes error
  | raised error =>
      refine raised_goes error ?_
      simp [Turn.ending, Turn.preparing, Turn.preparation, hprepare]
  | returned _ =>
      refine .waits (by simp) ?_
      simp [Turn.ending, Turn.preparing, Turn.preparation, hprepare]

theorem validate_goes :
    Goes intent decision loop turning .validate (loop.proceed intent decision turning .validate) := by
  unfold proceed
  cases hvalidate : turning.turn.validate with
  | aborted error => exact aborted_goes error
  | raised error =>
      refine raised_goes error ?_
      simp [Turn.ending, hvalidate]
  | returned _ => exact .begins (by simp [Turn.ending, hvalidate])

theorem executed_failed {result : BackendResult} (hok : ¬ result.ok = true) {p : Progress}
    {attempt : ExecutionAttemptRecord} {backendId : String} :
    (executed intent decision p attempt backendId result).1 =
      if (ExecutionFailureClass.parseFailure result.failureClass).mayFallback then .next
      else .stop := by
  simp only [executed]
  split
  case isTrue h => exact absurd h hok
  case isFalse =>
    unfold fallBack
    split <;> rfl

theorem execute_goes :
    Goes intent decision loop turning .execute (loop.proceed intent decision turning .execute) := by
  unfold proceed
  cases hexecute : turning.turn.execute with
  | aborted error => exact aborted_goes error
  | raised error =>
      refine raised_goes error ?_
      simp [Turn.ending, hexecute]
  | returned result =>
      by_cases hok : result.ok = true
      · simp only [returned, executed, hok, if_true]
        refine .succeeds fun hclosed => ?_
        simp [Turn.ending, hexecute, Turn.closing, hclosed, hok]
      · have hended : (executed intent decision loop.progress turning.attempt turning.backendId
            result).1 = if (ExecutionFailureClass.parseFailure result.failureClass).mayFallback then
              .next else .stop := executed_failed hok
        simp only [returned, hok, cleanUp, hended]
        by_cases hmay : (ExecutionFailureClass.parseFailure result.failureClass).mayFallback = true
        · simp only [hmay, if_true]
          refine .closes (by simp) (.inr ?_)
          simp [Turn.ending, hexecute, hok, hmay]
        · simp only [hmay]
          exact .closes (by simp) (.inl rfl)

theorem cleanup_goes {ended : TurnEnd} : Goes intent decision loop turning (.cleanup ended)
    (loop.proceed intent decision turning (.cleanup ended)) := by
  have hsettle (hclosed : turning.turn.cleanup.isAborted = false) :
      Goes intent decision loop turning (.cleanup ended)
        (loop.settle intent decision (ended, loop.progress)) := by
    cases ended with
    | next => exact settle_next rfl (by simp [Turn.ending, Turn.closing, hclosed])
    | stop => exact .stops
    | finish outcome =>
        cases outcome with
        | returned final => exact .returns hclosed
        | raised error => exact .raises (by simp)
        | aborted error => exact .raises (by simp)
  unfold proceed
  cases hcleanup : turning.turn.cleanup with
  | aborted error => exact .raises (by simp)
  | raised error => exact hsettle (by simp [hcleanup, Outcome.isAborted])
  | returned _ => exact hsettle (by simp [hcleanup, Outcome.isAborted])

theorem proceed_goes :
    Goes intent decision loop turning stage (loop.proceed intent decision turning stage) := by
  cases stage with
  | health => exact health_goes
  | prepare => exact prepare_goes
  | validate => exact validate_goes
  | execute => exact execute_goes
  | cleanup ended => exact cleanup_goes

theorem concluded_status (p : Progress) :
    (concluded intent decision p).status ≠ .succeeded := by
  unfold concluded
  dsimp only
  split <;> simp

-- The loop tests the mark before each turn: it ends the call, without success, or
-- it opens a turn of a call that is not marked.
theorem advance_opens (turns : List (String × Turn)) :
    (loop.advance intent decision turns).log = loop.log ∧
      ((∃ final, (loop.advance intent decision turns).standing = .left (.returned final) ∧
          final.status ≠ .succeeded) ∨
        loop.registry.isCancelled intent.executionId = false ∧
          ∃ turning, (loop.advance intent decision turns).standing =
            .suspended turning .health) := by
  induction turns generalizing loop with
  | nil => exact ⟨rfl, .inl ⟨_, rfl, concluded_status _⟩⟩
  | cons head rest ih =>
      obtain ⟨backendId, turn⟩ := head
      unfold advance
      by_cases hcancelled : loop.registry.isCancelled intent.executionId = true
      · rw [if_pos hcancelled]
        exact ⟨rfl, .inl ⟨_, rfl, by simp⟩⟩
      · rw [if_neg hcancelled]
        cases enforceEntitlements turn.entitlements intent (some backendId) with
        | error error => exact ⟨rfl, .inl ⟨_, rfl, by simp⟩⟩
        | ok _ =>
            dsimp only
            cases turn.registered with
            | error text => exact ih
            | ok _ => exact ⟨rfl, .inr ⟨by simpa using hcancelled, _, rfl⟩⟩

theorem advance_cleared (turns : List (String × Turn)) (h : turns = [] ∨
      loop.registry.isCancelled intent.executionId = false ∧ refusedNext intent turns = false) :
    (loop.advance intent decision turns).Cleared intent := by
  induction turns generalizing loop with
  | nil => exact fun _ _ => CancellationRegistry.get_clear
  | cons head rest ih =>
      obtain ⟨backendId, turn⟩ := head
      obtain ⟨hcancelled, hrefused⟩ := h.resolve_left (by simp)
      unfold advance
      unfold refusedNext at hrefused
      rw [if_neg (by simp [hcancelled])]
      cases he : enforceEntitlements turn.entitlements intent (some backendId) with
      | error error => simp [he] at hrefused
      | ok _ =>
          rw [he] at hrefused
          dsimp only at hrefused ⊢
          cases hr : turn.registered with
          | error text =>
              rw [hr] at hrefused
              exact ih (.inr ⟨hcancelled, hrefused⟩)
          | ok _ =>
              intro final heq
              cases heq

end Loop

theorem Execution.proceed_eq_some {after : Execution}
    (h : e.proceed intent decision = some after) : ∃ turning stage,
      e.standing = .suspended turning stage ∧
        Goes intent decision e.toLoop turning stage after := by
  unfold Execution.proceed at h
  cases hstanding : e.standing with
  | left outcome =>
      rw [hstanding] at h
      cases h
  | suspended turning stage =>
      rw [hstanding] at h
      obtain rfl := Option.some.inj h
      exact ⟨turning, stage, rfl, Loop.proceed_goes⟩

namespace Execution

-- A call that a mark has come to is in the last turn that it takes.
structure Obeys (intent : ExecutionIntent) (e : Execution) : Prop extends e.Obeyed where
  noticed : ∀ turning stage, e.standing = .suspended turning stage → .marked ∈ e.log →
    turning.turn.ending stage = .stops ∨
      turning.turn.ending stage = .passes ∧ e.registry.isCancelled intent.executionId = true
  succeeding : ∀ turning final,
    e.standing = .suspended turning (.cleanup (.finish (.returned final))) →
      e.registry.get intent.executionId = none ∧
        (.marked ∈ e.log → turning.turn.cleanup.isAborted = true)

structure Clears (intent : ExecutionIntent) (e : Execution) : Prop where
  cleared : e.Cleared intent
  succeeding : ∀ turning final,
    e.standing = .suspended turning (.cleanup (.finish (.returned final))) →
      e.registry.get intent.executionId = none

theorem advance_obeys (h : loop.log.Pairwise fun earlier later =>
      earlier = .marked → ∀ backendId, later ≠ .began backendId)
    (hnoticed : .marked ∈ loop.log → loop.registry.isCancelled intent.executionId = true)
    (turns : List (String × Turn)) : (loop.advance intent decision turns).Obeys intent := by
  obtain ⟨hlog, hopens⟩ : _ ∧ _ := loop.advance_opens turns
  generalize loop.advance intent decision turns = e at hlog hopens
  obtain ⟨final, hleft, hstatus⟩ | ⟨hcancelled, turning, hopened⟩ := hopens
  · refine ⟨⟨hlog ▸ h, fun other heq _ => ?_⟩, fun other stage heq => ?_, fun other final heq => ?_⟩
    · cases hleft.symm.trans heq
      exact hstatus
    · cases hleft.symm.trans heq
    · cases hleft.symm.trans heq
  · refine ⟨⟨hlog ▸ h, fun other heq => ?_⟩, fun other stage heq hmarked => ?_,
      fun other final heq => ?_⟩
    · cases hopened.symm.trans heq
    · rw [hnoticed (hlog ▸ hmarked)] at hcancelled
      cases hcancelled
    · cases hopened.symm.trans heq

theorem advance_clears {turns : List (String × Turn)} (h : turns = [] ∨
      loop.registry.isCancelled intent.executionId = false ∧ refusedNext intent turns = false) :
    (loop.advance intent decision turns).Clears intent := by
  refine ⟨loop.advance_cleared turns h, fun other final heq => ?_⟩
  obtain ⟨-, ⟨_, hleft, -⟩ | ⟨-, _, hopened⟩⟩ := loop.advance_opens turns
  · cases hleft.symm.trans heq
  · cases hopened.symm.trans heq

theorem Obeys.goes {after : Execution} (h : e.Obeys intent)
    (hstanding : e.standing = .suspended turning stage)
    (hgoes : Goes intent decision e.toLoop turning stage after) : after.Obeys intent := by
  have hnoticed := h.noticed turning stage hstanding
  cases hgoes with
  | waits hnext hending =>
      refine ⟨⟨h.noExecution, fun _ heq => by cases heq⟩, fun other stage heq hmarked => ?_,
        fun other final heq => ?_⟩
      · cases heq
        rw [hending]
        exact hnoticed hmarked
      · cases heq
        exact absurd rfl (hnext _)
  | begins hending =>
      -- the turn of a marked call does not come to this
      have hmarked : .marked ∉ e.log := by simpa [hending] using hnoticed
      have hbegan : .marked ∉ e.log ++ [.began turning.backendId] := by simpa using hmarked
      refine ⟨⟨?_, fun _ heq => by cases heq⟩, fun other stage _ hm => absurd hm hbegan,
        fun other final heq => by cases heq⟩
      refine List.pairwise_append.mpr ⟨h.noExecution, List.pairwise_singleton _ _,
        fun earlier hmem _ _ heq => ?_⟩
      exact absurd (heq ▸ hmem) hmarked
  | closes hended hending =>
      refine ⟨⟨h.noExecution, fun _ heq => by cases heq⟩, fun other stage heq hmarked => ?_,
        fun other final heq => ?_⟩
      · cases heq
        rcases hending with hstops | hending
        · exact .inl hstops
        · rw [hending]
          exact hnoticed hmarked
      · cases heq
        exact absurd rfl (hended final)
  | succeeds hending =>
      refine ⟨⟨h.noExecution, fun _ heq => by cases heq⟩, fun other stage heq _ => ?_,
        fun other final heq => ?_⟩
      · cases heq
        exact .inl rfl
      · cases heq
        refine ⟨CancellationRegistry.get_clear, fun hmarked => ?_⟩
        by_contra hclosed
        have hsucceeds := hending (by simpa using hclosed)
        have hunmarked : .marked ∉ e.log := by simpa [hsucceeds] using hnoticed
        exact hunmarked hmarked
  | passes hending =>
      apply advance_obeys
      · exact h.noExecution
      · intro hmarked
        rcases hnoticed hmarked with hstops | ⟨-, hcancelled⟩
        · rw [hending] at hstops
          cases hstops
        · exact hcancelled
  | stops =>
      refine ⟨⟨h.noExecution, fun final heq _ => ?_⟩, fun other stage heq => (by cases heq),
        fun other final heq => by cases heq⟩
      cases heq
      exact Loop.concluded_status _
  | raises houtcome =>
      refine ⟨⟨h.noExecution, fun final heq _ => ?_⟩, fun other stage heq => (by cases heq),
        fun other final heq => by cases heq⟩
      exact absurd (Standing.left.inj heq) (houtcome final)
  | returns hclosed =>
      refine ⟨⟨h.noExecution, fun final heq hmarked => ?_⟩, fun other stage heq => (by cases heq),
        fun other final heq => by cases heq⟩
      rw [(h.succeeding turning _ hstanding).2 hmarked] at hclosed
      cases hclosed

theorem Obeys.cancel (h : e.Obeys intent) (htimely : e.Timely intent .cancel) :
    (e.cancel intent).Obeys intent := by
  unfold Execution.cancel
  cases hstanding : e.standing with
  | left outcome =>
      refine ⟨⟨h.noExecution, fun final heq => h.notSucceeded final ?_⟩, fun _ _ heq => (by cases heq),
        fun _ _ heq => by cases heq⟩
      exact hstanding.trans heq
  | suspended turning stage =>
      rw [Timely, hstanding] at htimely
      have hnoticed := h.noticed turning stage hstanding
      dsimp only
      by_cases hmarks : e.registry.marks intent.executionId = true
      · rw [if_pos hmarks]
        refine ⟨⟨?_, fun _ heq => by cases heq⟩, fun other await heq _ => ?_,
          fun other final heq => ?_⟩
        · refine List.pairwise_append.mpr ⟨h.noExecution, List.pairwise_singleton _ _,
            fun _ _ later hlater _ backendId => ?_⟩
          rw [List.mem_singleton.mp hlater]
          simp
        · cases heq
          rcases htimely hmarks with hpasses | hstops
          · exact .inr ⟨hpasses, CancellationRegistry.isCancelled_cancel_marks hmarks⟩
          · exact .inl hstops
        · obtain ⟨hget, -⟩ := h.succeeding other final (hstanding.trans heq)
          rw [CancellationRegistry.marks_of_get hget] at hmarks
          cases hmarks
      · rw [if_neg hmarks]
        refine ⟨⟨h.noExecution, fun _ heq => by cases heq⟩, fun other await heq hm => ?_,
          fun other final heq => ?_⟩
        · cases heq
          dsimp only
          rw [CancellationRegistry.isCancelled_cancel (by simpa using hmarks)]
          exact hnoticed hm
        · obtain ⟨hget, haborted⟩ := h.succeeding other final (hstanding.trans heq)
          exact ⟨CancellationRegistry.get_cancel_of_none hget, haborted⟩

theorem Obeys.step {after : Execution} {label : Label} (h : e.Obeys intent)
    (htimely : e.Timely intent label) (hstep : interleaved intent decision e label = some after) :
    after.Obeys intent := by
  cases label with
  | proceed =>
      obtain ⟨turning, stage, hstanding, hgoes⟩ := proceed_eq_some hstep
      exact h.goes hstanding hgoes
  | cancel =>
      obtain rfl := Option.some.inj hstep
      exact h.cancel htimely

theorem Clears.goes {after : Execution} (h : e.Clears intent) (hguard : e.HandsOn intent .proceed)
    (hstanding : e.standing = .suspended turning stage)
    (hgoes : Goes intent decision e.toLoop turning stage after) : after.Clears intent := by
  cases hgoes with
  | waits hnext hending =>
      refine ⟨fun _ heq => (by cases heq), fun _ _ heq => ?_⟩
      cases heq
      exact absurd rfl (hnext _)
  | begins hending => exact ⟨fun _ heq => (by cases heq), fun _ _ heq => by cases heq⟩
  | closes hended hending =>
      refine ⟨fun _ heq => (by cases heq), fun _ final heq => ?_⟩
      cases heq
      exact absurd rfl (hended final)
  | succeeds hending =>
      exact ⟨fun _ heq => (by cases heq), fun _ _ _ => CancellationRegistry.get_clear⟩
  | passes hending =>
      rw [HandsOn, hstanding] at hguard
      exact advance_clears (hguard hending)
  | stops => exact ⟨fun _ _ => CancellationRegistry.get_clear, fun _ _ heq => by cases heq⟩
  | raises houtcome =>
      refine ⟨fun final heq => ?_, fun _ _ heq => by cases heq⟩
      exact absurd (Standing.left.inj heq) (houtcome final)
  | returns hclosed =>
      exact ⟨fun _ _ => h.succeeding turning _ hstanding, fun _ _ heq => by cases heq⟩

theorem Clears.step {after : Execution} {label : Label} (h : e.Clears intent)
    (hguard : e.HandsOn intent label) (hstep : interleaved intent decision e label = some after) :
    after.Clears intent := by
  cases label with
  | proceed =>
      obtain ⟨turning, stage, hstanding, hgoes⟩ := proceed_eq_some hstep
      exact h.goes hguard hstanding hgoes
  | cancel =>
      obtain rfl := Option.some.inj hstep
      unfold Execution.cancel
      cases hstanding : e.standing with
      | left outcome =>
          refine ⟨fun final heq => ?_, fun _ _ heq => by cases heq⟩
          exact CancellationRegistry.get_cancel_of_none (h.cleared final (hstanding.trans heq))
      | suspended turning stage =>
          refine ⟨fun _ heq => (by cases heq), fun other final heq => ?_⟩
          exact CancellationRegistry.get_cancel_of_none
            (h.succeeding other final (hstanding.trans heq))

end Execution

end Steps

-- A mark wins where it comes when its turn has nothing more to begin, since the
-- loop looks at it before the next turn.
theorem cancellation_wins (intent : ExecutionIntent) (decision : ExecutionDecision)
    (registry : CancellationRegistry) (attemptId : String) (turns : List (String × Turn))
    (labels : List Label) {e : Execution}
    (hrun : run (interleaved intent decision)
      (registered intent decision registry attemptId turns) labels = some e) :
    (Along (interleaved intent decision) (Execution.Timely intent)
        (registered intent decision registry attemptId turns) labels → e.Obeyed) ∧
      (refusedNext intent turns = false → Along (interleaved intent decision)
        (Execution.HandsOn intent) (registered intent decision registry attemptId turns) labels →
          e.Cleared intent) := by
  have hcancelled : (registry.register intent.executionId decision.selectedBackendId
      (some decision.selectedHarnessId) attemptId).isCancelled intent.executionId = false :=
    CancellationRegistry.isCancelled_register _ _ _
  constructor
  · intro htimely
    have hfirst : (registered intent decision registry attemptId turns).Obeys intent :=
      Execution.advance_obeys List.Pairwise.nil (by simp) turns
    have h := run_invariant (fun _ _ _ h hc hs => Execution.Obeys.step h hc hs) hfirst htimely hrun
    exact h.toObeyed
  · intro hrefused hhands
    have hfirst : (registered intent decision registry attemptId turns).Clears intent :=
      Execution.advance_clears (.inr ⟨hcancelled, hrefused⟩)
    have h := run_invariant (fun _ _ _ h hc hs => Execution.Clears.step h hc hs) hfirst hhands hrun
    exact h.cleared

section Runs

-- The harness fails, which no other backend makes up for.
def failingTurn : Turn where
  execute := .returned ⟨false, "killed", ∅, some "process_failure", ∅, [], ∅, none⟩

def succeedingTurn : Turn where
  execute := .returned ⟨true, "done", ∅, none, ∅, [], ∅, none⟩

def loneCall (turn : Turn) : Execution :=
  registered sampleIntent sampleDecision {} "execution_attempt" [("local", turn)]

-- The first harness is not there, so that the next backend would have its turn.
def missingTurn : Turn where
  execute := .returned ⟨false, "missing", ∅, some "harness_unavailable", ∅, [], ∅, none⟩

def pairedCall : Execution :=
  registered sampleIntent sampleDecision {} "execution_attempt"
    [("local", missingTurn), ("fireconnect", succeedingTurn)]

-- A mark while the harness runs that then fails: the loop does not come to the
-- second backend, and the entry goes where there is none.
theorem marked_call_wins :
    (∃ e, run (interleaved sampleIntent sampleDecision) pairedCall
        [.proceed, .proceed, .proceed, .cancel, .proceed, .proceed] = some e ∧
      e.log = [.began "local", .marked] ∧ e.Obeyed) ∧
    ∃ e, run (interleaved sampleIntent sampleDecision) (loneCall failingTurn)
        [.proceed, .proceed, .proceed, .cancel, .proceed, .proceed] = some e ∧
      .marked ∈ e.log ∧ e.Cleared sampleIntent :=
  ⟨⟨_, (Option.some_get (by decide +kernel)).symm, by decide +kernel,
      (cancellation_wins sampleIntent sampleDecision {} "execution_attempt"
        [("local", missingTurn), ("fireconnect", succeedingTurn)]
        [.proceed, .proceed, .proceed, .cancel, .proceed, .proceed]
        (Option.some_get (by decide +kernel)).symm).1 (by decide +kernel)⟩,
    _, (Option.some_get (by decide +kernel)).symm, by decide +kernel,
      (cancellation_wins sampleIntent sampleDecision {} "execution_attempt" [("local", failingTurn)]
        [.proceed, .proceed, .proceed, .cancel, .proceed, .proceed]
        (Option.some_get (by decide +kernel)).symm).2 (by decide +kernel) (by decide +kernel)⟩

-- A mark while the backend prepares does not stop the execution.
theorem succeeding_call_not_cancelled :
    ∃ e, run (interleaved sampleIntent sampleDecision) (loneCall succeedingTurn)
        [.proceed, .cancel, .proceed, .proceed] = some e ∧ ¬ e.CancelWins sampleIntent := by
  refine ⟨_, (Option.some_get (by decide +kernel)).symm, fun h => ?_⟩
  have hlog : [Event.marked, .began "local"].Pairwise fun earlier later =>
      earlier = .marked → ∀ backendId, later ≠ .began backendId := by
    convert h.noExecution using 1
    decide +kernel
  exact (List.pairwise_cons.mp hlog).1 _ List.mem_cons_self rfl "local" rfl

end Runs

end JoyMesh.Routing
