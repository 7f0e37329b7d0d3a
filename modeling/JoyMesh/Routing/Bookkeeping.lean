import JoyMesh.Routing.Discipline

namespace JoyMesh.Routing

def BackendCall.backendId : BackendCall → String
  | health backendId => backendId
  | supports backendId => backendId
  | prepare backendId => backendId
  | validate backendId => backendId
  | execute backendId _ => backendId
  | cleanup backendId => backendId

-- The calls on one backend that is tried: they go on as far as they do, and the clean-up
-- follows the preparation.
inductive Round (b : String) : List BackendCall → Prop
  | none : Round b []
  | health : Round b [.health b]
  | supports : Round b [.health b, .supports b]
  | prepared : Round b [.health b, .supports b, .prepare b, .cleanup b]
  | validated : Round b [.health b, .supports b, .prepare b, .validate b, .cleanup b]
  | executed (outcome : Outcome BackendResult) : Round b
      [.health b, .supports b, .prepare b, .validate b, .execute b outcome, .cleanup b]

-- One round for each backend, in their order.
inductive Rounds : List String → List BackendCall → Prop
  | nil : Rounds [] []
  | concat {backends : List String} {calls round : List BackendCall} {b : String}
      (h : Rounds backends calls) (hround : Round b round) :
      Rounds (backends ++ [b]) (calls ++ round)

-- An execution of the backend has returned a success.
def Succeeds (b : String) (calls : List BackendCall) : Prop :=
  ∃ result, .execute b (.returned result) ∈ calls ∧ result.ok = true

-- The last attempted backend is one whose execution has succeeded.
def LastSucceeds (p : Progress) : Prop :=
  ∃ b, p.attempted.getLast? = some b ∧ Succeeds b p.calls

-- The records are numbered from one on, one for each attempted backend.
structure Numbered (attempts : List ExecutionAttemptRecord) (attempted : List String) : Prop where
  numbers : attempts.map (·.attemptNumber) = List.range' 1 attempts.length
  backends : attempts.map (·.backendId) = attempted

section Rounds

variable {b : String} {backends : List String} {calls round : List BackendCall}

theorem Round.backendId (h : Round b round) : ∀ call ∈ round, call.backendId = b := by
  cases h <;> simp [BackendCall.backendId]

theorem Round.counts (h : Round b round) : round.count (.cleanup b) = round.count (.prepare b) ∧
    round.count (.prepare b) ≤ 1 := by
  cases h <;> simp

theorem Rounds.backendId (h : Rounds backends calls) :
    ∀ call ∈ calls, call.backendId ∈ backends := by
  induction h with
  | nil => simp
  | @concat backends calls round last h hround ih =>
      intro call hcall
      rcases List.mem_append.mp hcall with hcall | hcall
      · exact List.mem_append_left _ (ih call hcall)
      · exact List.mem_append_right _ (by simp [hround.backendId call hcall])

theorem Rounds.absent (h : Rounds backends calls) (hb : b ∉ backends) {call : BackendCall}
    (hcall : call.backendId = b) : calls.count call = 0 :=
  List.count_eq_zero.mpr fun hmem => hb (hcall ▸ h.backendId call hmem)

-- A backend that is prepared once is cleaned up once, and no other is.
theorem Rounds.counts (h : Rounds backends calls) (hnodup : backends.Nodup) (b : String) :
    calls.count (.cleanup b) = calls.count (.prepare b) ∧ calls.count (.prepare b) ≤ 1 := by
  induction h with
  | nil => simp
  | @concat backends calls round last h hround ih =>
      have hbefore : backends.Nodup := (List.nodup_append.mp hnodup).1
      have hlast : last ∉ backends := fun hmem =>
        (List.nodup_append.mp hnodup).2.2 last hmem last (by simp) rfl
      rw [List.count_append, List.count_append]
      by_cases hb : b = last
      · subst hb
        rw [h.absent hlast rfl, h.absent hlast rfl, Nat.zero_add, Nat.zero_add]
        exact hround.counts
      · have habsent (call : BackendCall) (hcall : call.backendId = b) : round.count call = 0 :=
          List.count_eq_zero.mpr fun hmem => hb (hcall ▸ hround.backendId call hmem)
        rw [habsent _ rfl, habsent _ rfl, Nat.add_zero, Nat.add_zero]
        exact ih hbefore

-- Calls on an earlier backend are over before those on a later one begin.
theorem Rounds.inOrder (h : Rounds backends calls) {order : List String}
    (hinitial : backends <+: order) (hnodup : order.Nodup) :
    calls.Pairwise fun first second =>
      order.idxOf first.backendId ≤ order.idxOf second.backendId := by
  induction h with
  | nil => exact List.Pairwise.nil
  | @concat backends calls round last h hround ih =>
      have hbefore : backends <+: order := (List.prefix_append _ _).trans hinitial
      obtain ⟨rest, hrest⟩ := hinitial
      have hlast : order.idxOf last = backends.length := by
        have hnot : last ∉ backends := by
          rw [← hrest, List.append_assoc] at hnodup
          intro hmem
          exact (List.nodup_append.mp hnodup).2.2 last hmem last (by simp) rfl
        rw [← hrest, List.append_assoc, List.idxOf_append_of_notMem hnot]
        simp
      refine List.pairwise_append.mpr ⟨ih hbefore, ?_, fun first hfirst second hsecond => ?_⟩
      · refine List.pairwise_of_forall_mem_list fun first hfirst second hsecond => ?_
        rw [hround.backendId first hfirst, hround.backendId second hsecond]
      · have hmem := h.backendId first hfirst
        rw [hround.backendId second hsecond, hlast]
        obtain ⟨after, hafter⟩ := hbefore
        rw [← hafter, List.idxOf_append_of_mem hmem]
        exact (List.idxOf_lt_length_of_mem hmem).le

end Rounds

section Turns

variable {intent : ExecutionIntent} {decision : ExecutionDecision} {p q : Progress}
  {attempt : ExecutionAttemptRecord} {b : String} {turn : Turn} {ended : TurnEnd × Progress}
  {round : List BackendCall} {error : PyError} {cut : Prop}

def TurnEnd.Escapes : TurnEnd → Prop
  | .finish (.raised _) => True
  | .finish (.aborted _) => True
  | _ => False

-- A round that tries the backend: what it leaves in the books, and what it makes of a success,
-- which is lost only where the clean-up is cut off.
structure Tried (p : Progress) (b : String) (cut : Prop) (ended : TurnEnd × Progress)
    (round : List BackendCall) : Prop where
  attempted : ended.2.attempted = p.attempted ++ [b]
  calls : ended.2.calls = p.calls ++ round
  recorded : ¬ ended.1.Escapes → ∃ record : ExecutionAttemptRecord,
    ended.2.attempts = p.attempts ++ [record] ∧ record.backendId = b ∧
      record.attemptNumber = p.attempts.length + 1
  returned : ∀ result, ended.1 = .finish (.returned result) → result.ok = true ∧
    result.attempts = ended.2.attempts ∧ result.attemptedBackends = ended.2.attempted
  succeeds : ¬ ended.1.Escapes →
    (Succeeds b round ↔ ∃ result, ended.1 = .finish (.returned result))
  lost : ended.1.Escapes → Succeeds b round → cut

-- A round that ends the loop before the backend is tried.
structure Refused (p : Progress) (b : String) (ended : TurnEnd × Progress) : Prop where
  attempted : ended.2.attempted = p.attempted
  calls : ended.2.calls = p.calls
  attempts : ended.2.attempts = p.attempts
  returned : ∃ result, ended.1 = .finish (.returned result) ∧ result.ok = false ∧
    result.attempts = p.attempts ∧
    (result.attemptedBackends = p.attempted ∨
      p.attempted = [] ∧ result.status = .cancelled ∧ result.attemptedBackends = [b])

-- A round that fails has its record and goes on or stops.
structure Failed (p : Progress) (attempt : ExecutionAttemptRecord) (ended : TurnEnd × Progress) :
    Prop where
  goesOn : ended.1 = .next ∨ ended.1 = .stop
  attempted : ended.2.attempted = p.attempted
  calls : ended.2.calls = p.calls
  recorded : ∃ record : ExecutionAttemptRecord, ended.2.attempts = p.attempts ++ [record] ∧
    record.backendId = attempt.backendId ∧ record.attemptNumber = attempt.attemptNumber

theorem fallBack_failed {reason : String} {failure : ExecutionFailureClass}
    (hattempted : q.attempted = p.attempted) (hcalls : q.calls = p.calls)
    (hrecorded : ∃ record : ExecutionAttemptRecord, q.attempts = p.attempts ++ [record] ∧
      record.backendId = attempt.backendId ∧ record.attemptNumber = attempt.attemptNumber) :
    Failed p attempt (fallBack intent decision q b reason failure) := by
  unfold fallBack
  split
  · exact ⟨.inl rfl, hattempted, hcalls, hrecorded⟩
  · exact ⟨.inr rfl, hattempted, hcalls, hrecorded⟩

theorem prepareFailed_failed : Failed p attempt (prepareFailed intent decision p attempt b error) :=
  fallBack_failed rfl rfl ⟨_, rfl, rfl, rfl⟩

theorem unhealthy_failed {health : BackendHealth} :
    Failed p attempt (unhealthy intent decision p attempt b health) :=
  fallBack_failed rfl rfl ⟨_, rfl, rfl, rfl⟩

theorem unsupported_failed : Failed p attempt (unsupported intent decision p attempt b) :=
  ⟨.inl rfl, rfl, rfl, _, rfl, rfl, rfl⟩

theorem unregistered_failed {text : String} :
    Failed p attempt (unregistered intent decision p attempt b text) :=
  ⟨.inl rfl, rfl, rfl, _, rfl, rfl, rfl⟩

-- The books of a backend that is being tried, before its record is written.
structure Trying (p q : Progress) (b : String) (attempt : ExecutionAttemptRecord)
    (round : List BackendCall) : Prop where
  attempted : q.attempted = p.attempted ++ [b]
  calls : q.calls = p.calls ++ round
  attempts : q.attempts = p.attempts
  backend : attempt.backendId = b
  number : attempt.attemptNumber = p.attempts.length + 1

theorem Trying.called (h : Trying p q b attempt round) (call : BackendCall) :
    Trying p (q.called call) b attempt (round ++ [call]) :=
  ⟨h.attempted, by rw [Progress.called, h.calls, List.append_assoc], h.attempts, h.backend, h.number⟩

theorem Trying.audit (h : Trying p q b attempt round) (event : BackendAuditEvent) :
    Trying p (q.audit event) b attempt round :=
  ⟨h.attempted, h.calls, h.attempts, h.backend, h.number⟩

theorem Trying.failed (h : Trying p q b attempt round) (hfailed : Failed q attempt ended)
    (hround : ¬ Succeeds b round) : Tried p b cut ended round := by
  have hnot (result : ExecutionResult) : ended.1 ≠ .finish (.returned result) := by
    intro hreturned
    rcases hfailed.goesOn with hgoes | hgoes <;> rw [hgoes] at hreturned <;> cases hreturned
  refine ⟨hfailed.attempted.trans h.attempted, hfailed.calls.trans h.calls, fun _ => ?_,
    fun result hreturned => absurd hreturned (hnot result),
    fun _ => iff_of_false hround fun ⟨result, hreturned⟩ => hnot result hreturned,
    fun _ hsucceeds => absurd hsucceeds hround⟩
  obtain ⟨record, hattempts, hbackend, hnumber⟩ := hfailed.recorded
  exact ⟨record, by rw [hattempts, h.attempts], hbackend.trans h.backend, hnumber.trans h.number⟩

theorem Trying.escapes (h : Trying p q b attempt round) {ending : TurnEnd}
    (hescapes : ending.Escapes) (hround : ¬ Succeeds b round) :
    Tried p b cut (ending, q) round := by
  refine ⟨h.attempted, h.calls, fun hnot => absurd hescapes hnot, fun result hreturned => ?_,
    fun hnot => absurd hescapes hnot, fun _ hsucceeds => absurd hsucceeds hround⟩
  have heq : ending = .finish (.returned result) := hreturned
  rw [heq] at hescapes
  exact hescapes.elim

theorem Trying.aborts (h : Trying p q b attempt round) (hround : ¬ Succeeds b round) :
    Tried p b cut (.finish (.aborted error), q) round := by
  have hescapes : (TurnEnd.finish (.aborted error)).Escapes := trivial
  exact h.escapes hescapes hround

theorem Trying.raises (h : Trying p q b attempt round) (hround : ¬ Succeeds b round) :
    Tried p b cut (.finish (.raised error), q) round := by
  have hescapes : (TurnEnd.finish (.raised error)).Escapes := trivial
  exact h.escapes hescapes hround

theorem succeeds_append_other {call : BackendCall}
    (hcall : ∀ outcome, call ≠ .execute b outcome) :
    Succeeds b (round ++ [call]) ↔ Succeeds b round := by
  unfold Succeeds
  refine exists_congr fun result => and_congr_left fun _ => ?_
  rw [List.mem_append, List.mem_singleton]
  exact or_iff_left fun heq => hcall _ heq.symm

-- The branch after execute() writes the record of its result.
theorem Trying.executed (h : Trying p q b attempt round) (hround : ¬ Succeeds b round)
    {result : BackendResult} :
    Tried p b False (Routing.executed intent decision (q.called (.execute b (.returned result))) attempt b
      result) (round ++ [.execute b (.returned result)]) := by
  have hcalled := h.called (.execute b (.returned result))
  cases hok : result.ok with
  | false =>
      refine hcalled.failed ?_ fun hsucceeds => ?_
      · unfold Routing.executed
        simp only [hok, Bool.false_eq_true, if_false]
        exact fallBack_failed rfl rfl ⟨_, rfl, rfl, rfl⟩
      · obtain ⟨other, hmem, hother⟩ := hsucceeds
        rcases List.mem_append.mp hmem with hmem | hmem
        · exact hround ⟨other, hmem, hother⟩
        · obtain rfl : other = result := by simpa using hmem
          rw [hok] at hother
          cases hother
  | true =>
      unfold Routing.executed
      simp only [hok, if_true]
      refine ⟨h.attempted, hcalled.calls, fun _ => ⟨_, congrArg (· ++ _) h.attempts, h.backend, h.number⟩,
        fun returned hreturned => ?_, fun _ => iff_of_true ⟨result, by simp, hok⟩ ⟨_, rfl⟩,
        fun hescapes => hescapes.elim⟩
      cases hreturned
      exact ⟨rfl, rfl, rfl⟩

-- The finally block adds the clean-up to the round.
theorem Tried.cleaned (h : Tried p b False ended round) :
    Tried p b (∃ error, turn.cleanup = .aborted error) (cleanUp turn b ended)
      (round ++ [.cleanup b]) := by
  have hcalls : (ended.2.called (.cleanup b)).calls = p.calls ++ (round ++ [.cleanup b]) := by
    rw [Progress.called, h.calls, List.append_assoc]
  have hsame : Succeeds b (round ++ [.cleanup b]) ↔ Succeeds b round :=
    succeeds_append_other fun outcome => by simp
  unfold cleanUp
  dsimp only
  split
  next error haborted =>
    exact ⟨h.attempted, hcalls, fun hnot => absurd trivial hnot,
      fun result hreturned => (by cases hreturned), fun hnot => absurd trivial hnot,
      fun _ _ => ⟨error, haborted⟩⟩
  next =>
    exact ⟨h.attempted, hcalls, h.recorded, h.returned, fun hnot => hsame.trans (h.succeeds hnot),
      fun hescapes hsucceeds => (h.lost hescapes (hsame.mp hsucceeds)).elim⟩

theorem not_succeeds_opening {calls : List BackendCall}
    (hcalls : ∀ call ∈ calls, ∀ outcome, call ≠ .execute b outcome) : ¬ Succeeds b calls :=
  fun ⟨_, hmem, _⟩ => hcalls _ hmem _ rfl

theorem tryBackend_tried (h : Trying p q b attempt [.health b, .supports b]) :
    ∃ round, Round b (round ++ [.cleanup b]) ∧
      Tried p b False (tryBackend intent decision q attempt b turn) round := by
  have hpreparing := (h.audit (auditEvent intent decision "backend.preparing" b true none)).called
    (.prepare b)
  have hnone : ¬ Succeeds b [.health b, .supports b, .prepare b] :=
    not_succeeds_opening (by simp)
  unfold tryBackend
  dsimp only
  cases turn.prepare with
  | aborted error => exact ⟨_, .prepared, hpreparing.aborts hnone⟩
  | raised error => exact ⟨_, .prepared, hpreparing.failed prepareFailed_failed hnone⟩
  | returned _ =>
      have hvalidating := hpreparing.called (.validate b)
      have hnone : ¬ Succeeds b [.health b, .supports b, .prepare b, .validate b] :=
        not_succeeds_opening (by simp)
      dsimp only
      cases turn.validate with
      | aborted error => exact ⟨_, .validated, hvalidating.aborts hnone⟩
      | raised error => exact ⟨_, .validated, hvalidating.failed prepareFailed_failed hnone⟩
      | returned _ =>
          have hready := (hvalidating.audit (auditEvent intent decision "backend.ready" b true none)).audit
            (auditEvent intent decision "execution.started" b true none)
          dsimp only
          cases turn.execute with
          | aborted error =>
              refine ⟨_, .executed (.aborted error), (hready.called _).aborts ?_⟩
              rintro ⟨result, hmem, -⟩
              simp at hmem
          | raised error =>
              refine ⟨_, .executed (.raised error),
                (hready.called _).failed prepareFailed_failed ?_⟩
              rintro ⟨result, hmem, -⟩
              simp at hmem
          | returned result => exact ⟨_, .executed (.returned result), hready.executed hnone⟩

-- Each round refuses the backend or tries it.
theorem takeTurn_booked : Refused p b (takeTurn intent decision p b turn) ∨
    ∃ round, Round b round ∧ Tried p b (∃ error, turn.cleanup = .aborted error)
      (takeTurn intent decision p b turn) round := by
  unfold takeTurn
  split
  · refine .inl ⟨rfl, rfl, rfl, _, rfl, rfl, rfl, ?_⟩
    cases hattempted : p.attempted with
    | nil => exact .inr ⟨rfl, rfl, by simp [Progress.audit, hattempted]⟩
    | cons first rest => exact .inl (by simp [Progress.audit, hattempted])
  split
  · exact .inl ⟨rfl, rfl, rfl, _, rfl, rfl, rfl, .inl rfl⟩
  refine .inr ?_
  let q : Progress := { p with attempted := p.attempted ++ [b] }
  let attempt : ExecutionAttemptRecord :=
    { attemptId := turn.attemptId
      executionId := intent.executionId
      attemptNumber := q.attempts.length + 1
      backendId := b
      harnessId := decision.selectedHarnessId }
  have htrying : Trying p q b attempt [] := ⟨rfl, (List.append_nil _).symm, rfl, rfl, rfl⟩
  have hnone : ¬ Succeeds b [] := not_succeeds_opening (by simp)
  have hhealth : ¬ Succeeds b [.health b] := not_succeeds_opening (by simp)
  have hsupports : ¬ Succeeds b [.health b, .supports b] := not_succeeds_opening (by simp)
  dsimp only
  split
  · exact ⟨_, .none, htrying.failed unregistered_failed hnone⟩
  split
  · exact ⟨_, .health, (htrying.called (.health b)).aborts hhealth⟩
  · exact ⟨_, .health, (htrying.called (.health b)).raises hhealth⟩
  split
  · exact ⟨_, .health, (htrying.called (.health b)).failed unhealthy_failed hhealth⟩
  have hsupported := (htrying.called (.health b)).called (.supports b)
  split
  · exact ⟨_, .supports, hsupported.aborts hsupports⟩
  · exact ⟨_, .supports, hsupported.raises hsupports⟩
  · exact ⟨_, .supports, hsupported.failed unsupported_failed hsupports⟩
  · obtain ⟨round, hround, htried⟩ := tryBackend_tried (p := p) hsupported
    exact ⟨_, hround, htried.cleaned⟩

end Turns

section Loop

variable {intent : ExecutionIntent} {decision : ExecutionDecision} {p : Progress}
  {turns : List (String × Turn)} {q : Progress} {b : String} {round : List BackendCall}

-- The books while the loop goes on: nothing has succeeded yet.
structure Booked (p : Progress) : Prop where
  rounds : Rounds p.attempted p.calls
  numbered : Numbered p.attempts p.attempted
  failing : ∀ b, ¬ Succeeds b p.calls

-- What a call of execute_with_fallback leaves, whatever way it ends.
structure Concludes (p : Progress) (turns : List (String × Turn))
    (ended : Outcome ExecutionResult × Progress) : Prop where
  tried : ∃ tried, tried <+: turns.map Prod.fst ∧ ended.2.attempted = p.attempted ++ tried
  rounds : Rounds ended.2.attempted ended.2.calls
  reported : ∀ result, ended.1 = .returned result →
    Numbered result.attempts ended.2.attempted ∧
      (result.attemptedBackends = ended.2.attempted ∨
        ended.2.attempted = [] ∧ result.status = .cancelled ∧
          ∃ b, result.attemptedBackends = [b]) ∧
      (result.ok = true ↔ LastSucceeds ended.2)
  returns : LastSucceeds ended.2 →
    (∀ b turn error, (b, turn) ∈ turns → turn.cleanup ≠ .aborted error) →
      ∃ result, ended.1 = .returned result

-- A result that is no success, with the books as they are.
theorem Booked.fails (h : Booked p) {result : ExecutionResult} (hok : result.ok = false)
    (hattempts : result.attempts = p.attempts) (hbackends : result.attemptedBackends = p.attempted ∨
      p.attempted = [] ∧ result.status = .cancelled ∧ ∃ b, result.attemptedBackends = [b])
    (hattempted : q.attempted = p.attempted) (hcalls : q.calls = p.calls) :
    Concludes p turns (.returned result, q) where
  tried := ⟨[], List.nil_prefix, by simpa using hattempted⟩
  rounds := by
    dsimp only
    rw [hattempted, hcalls]
    exact h.rounds
  reported other hother := by
    cases hother
    dsimp only
    rw [hattempted, hattempts]
    refine ⟨h.numbered, hbackends, iff_of_false (by simp [hok]) ?_⟩
    rintro ⟨b, hlast, hsucceeds⟩
    exact h.failing b (hcalls ▸ hsucceeds)
  returns _ _ := ⟨_, rfl⟩

theorem Numbered.concat {attempts : List ExecutionAttemptRecord} {attempted : List String}
    (h : Numbered attempts attempted) {record : ExecutionAttemptRecord}
    (hnumber : record.attemptNumber = attempts.length + 1) :
    Numbered (attempts ++ [record]) (attempted ++ [record.backendId]) where
  numbers := by
    rw [List.map_append, h.numbers, List.length_append, List.length_singleton, List.range'_concat]
    simp [hnumber, Nat.add_comm]
  backends := by rw [List.map_append, h.backends]; rfl

theorem succeeds_append {calls : List BackendCall} :
    Succeeds b (calls ++ round) ↔ Succeeds b calls ∨ Succeeds b round := by
  unfold Succeeds
  constructor
  · rintro ⟨result, hmem, hok⟩
    rcases List.mem_append.mp hmem with hmem | hmem
    · exact .inl ⟨result, hmem, hok⟩
    · exact .inr ⟨result, hmem, hok⟩
  · rintro (⟨result, hmem, hok⟩ | ⟨result, hmem, hok⟩)
    · exact ⟨result, List.mem_append_left _ hmem, hok⟩
    · exact ⟨result, List.mem_append_right _ hmem, hok⟩

theorem Round.succeeds_own {other : String} (h : Round b round) (hsucceeds : Succeeds other round) :
    other = b := by
  obtain ⟨result, hmem, -⟩ := hsucceeds
  exact h.backendId _ hmem

-- After a round the last attempted backend has succeeded exactly if the round has.
theorem Booked.lastSucceeds_iff (h : Booked p) (hattempted : q.attempted = p.attempted ++ [b])
    (hcalls : q.calls = p.calls ++ round) : LastSucceeds q ↔ Succeeds b round := by
  unfold LastSucceeds
  rw [hattempted, hcalls, List.getLast?_concat]
  constructor
  · rintro ⟨last, hlast, hsucceeds⟩
    rcases succeeds_append.mp hsucceeds with hbefore | hround
    · exact absurd hbefore (h.failing last)
    · exact Option.some.inj hlast ▸ hround
  · exact fun hsucceeds => ⟨b, rfl, succeeds_append.mpr (.inr hsucceeds)⟩

theorem tryOrder_concludes (h : Booked p) : Concludes p turns (tryOrder intent decision p turns) := by
  induction turns generalizing p with
  | nil => exact h.fails rfl rfl (.inl rfl) rfl rfl
  | cons head rest ih =>
      obtain ⟨b, turn⟩ := head
      have hbooked : Refused p b (takeTurn intent decision p b turn) ∨
          ∃ round, Round b round ∧ Tried p b (∃ error, turn.cleanup = .aborted error)
            (takeTurn intent decision p b turn) round := takeTurn_booked
      unfold tryOrder
      generalize takeTurn intent decision p b turn = ended at hbooked ⊢
      obtain ⟨ending, q⟩ := ended
      rcases hbooked with hrefused | ⟨round, hround, htried⟩
      · obtain ⟨result, rfl, hok, hattempts, hbackends⟩ := hrefused.returned
        exact h.fails hok hattempts
          (hbackends.imp_right fun h => ⟨h.1, h.2.1, b, h.2.2⟩)
          hrefused.attempted hrefused.calls
      · have hattempted : q.attempted = p.attempted ++ [b] := htried.attempted
        have hcalls : q.calls = p.calls ++ round := htried.calls
        have hrounds : Rounds q.attempted q.calls := by
          rw [hattempted, hcalls]
          exact h.rounds.concat hround
        have hlast := h.lastSucceeds_iff hattempted hcalls
        have hnumbered (hstays : ¬ ending.Escapes) : Numbered q.attempts q.attempted := by
          obtain ⟨record, hattempts, hbackend, hnumber⟩ := htried.recorded hstays
          have hattempts : q.attempts = p.attempts ++ [record] := hattempts
          rw [hattempts, hattempted, ← hbackend]
          exact h.numbered.concat hnumber
        have hone : ∃ tried, tried <+: ((b, turn) :: rest).map Prod.fst ∧
            q.attempted = p.attempted ++ tried := ⟨[b], by simp, hattempted⟩
        have hgoes (hstays : ¬ ending.Escapes)
            (hgoes : ∀ result, ending ≠ .finish (.returned result)) : Booked q := by
          refine ⟨hrounds, hnumbered hstays, fun other hsucceeds => ?_⟩
          rw [hcalls] at hsucceeds
          rcases succeeds_append.mp hsucceeds with hbefore | hthis
          · exact h.failing other hbefore
          · obtain rfl := hround.succeeds_own hthis
            obtain ⟨result, hreturned⟩ := (htried.succeeds hstays).mp hthis
            exact hgoes result hreturned
        have hescaped (outcome : Outcome ExecutionResult)
            (hnot : ∀ result, outcome ≠ .returned result) (hescapes : ending.Escapes) :
            Concludes p ((b, turn) :: rest) (outcome, q) := by
          refine ⟨hone, hrounds, fun result hreturned => absurd hreturned (hnot result),
            fun hsucceeds hcleanup => ?_⟩
          obtain ⟨error, haborted⟩ := htried.lost hescapes (hlast.mp hsucceeds)
          exact absurd haborted (hcleanup b turn error List.mem_cons_self)
        cases ending with
        | finish outcome =>
            cases outcome with
            | raised error => exact hescaped _ (fun result heq => by cases heq) trivial
            | aborted error => exact hescaped _ (fun result heq => by cases heq) trivial
            | returned result =>
                obtain ⟨hok, hattempts, hbackends⟩ := htried.returned result rfl
                have hstays : ¬ (TurnEnd.finish (.returned result)).Escapes := fun hno => hno
                refine ⟨hone, hrounds, fun other hother => ?_, fun _ _ => ⟨result, rfl⟩⟩
                cases hother
                refine ⟨hattempts ▸ hnumbered hstays, .inl hbackends, iff_of_true hok ?_⟩
                exact hlast.mpr ((htried.succeeds hstays).mpr ⟨result, rfl⟩)
        | stop =>
            have hstopped : Concludes q rest (.returned (concluded intent decision q), q) :=
              (hgoes (fun hno => hno) fun result heq => by cases heq).fails rfl rfl (.inl rfl) rfl rfl
            exact ⟨hone, hstopped.rounds, hstopped.reported, fun _ _ => ⟨_, rfl⟩⟩
        | next =>
            have hrest := ih (hgoes (fun hno => hno) fun result heq => by cases heq)
            obtain ⟨tried, hprefix, htried⟩ := hrest.tried
            refine ⟨⟨b :: tried, ?_, ?_⟩, hrest.rounds, hrest.reported, fun hsucceeds hcleanup => ?_⟩
            · exact List.cons_prefix_cons.mpr ⟨rfl, hprefix⟩
            · rw [htried, hattempted, List.append_assoc]
              rfl
            · exact hrest.returns hsucceeds fun other turn error hmem =>
                hcleanup other turn error (List.mem_cons_of_mem _ hmem)

end Loop

-- What a call of execute_with_fallback has done and what it answers. The calls are the ones on
-- the backends, and the answer is the result that the call returns, if it returns one.
structure Bookkept (decision : ExecutionDecision) (turn : Nat → Turn)
    (ended : Outcome ExecutionResult × Progress) : Prop where
  -- each backend at most once and in order, and its calls before those of the next
  tried : ended.2.attempted <+: decision.order
  rounds : Rounds ended.2.attempted ended.2.calls
  inOrder : ended.2.calls.Pairwise fun first second =>
    decision.order.idxOf first.backendId ≤ decision.order.idxOf second.backendId
  cleanedUp : ∀ b, ended.2.calls.count (.prepare b) ≤ 1 ∧
    ended.2.calls.count (.cleanup b) = ended.2.calls.count (.prepare b)
  numbered : ∀ result, ended.1 = .returned result → Numbered result.attempts ended.2.attempted
  listed : ∀ result, ended.1 = .returned result → result.attemptedBackends = ended.2.attempted ∨
    ended.2.attempted = [] ∧ result.status = .cancelled ∧ ∃ b, result.attemptedBackends = [b]
  ok : ∀ result, ended.1 = .returned result → (result.ok = true ↔ LastSucceeds ended.2)
  -- a clean-up that raises an ordinary exception does not take the success away
  kept : LastSucceeds ended.2 → (∀ place error, (turn place).cleanup ≠ .aborted error) →
    ∃ result, ended.1 = .returned result

-- For every intent and every behaviour of the backends.
theorem fallback_bookkept {decision : ExecutionDecision} (intent : ExecutionIntent)
    (turn : Nat → Turn) (hnodup : decision.order.Nodup) :
    Bookkept decision turn (executeWithFallback intent decision turn) := by
  have hstart : Booked { audits := [auditEvent intent decision "backend.selected"
      decision.selectedBackendId true (some decision.reason)] } :=
    ⟨.nil, ⟨rfl, rfl⟩, fun b ⟨result, hmem, _⟩ => by simp at hmem⟩
  have hends : Concludes _ (decision.order.mapIdx fun place backendId => (backendId, turn place))
      (executeWithFallback intent decision turn) := tryOrder_concludes hstart
  have horder : (decision.order.mapIdx fun place backendId => (backendId, turn place)).map Prod.fst =
      decision.order := by
    apply List.ext_getElem
    · simp
    · intro place hfirst hsecond
      simp
  have htried : (executeWithFallback intent decision turn).2.attempted <+: decision.order := by
    obtain ⟨tried, hprefix, hattempted⟩ := hends.tried
    rw [horder] at hprefix
    rw [hattempted]
    exact hprefix
  refine ⟨htried, hends.rounds, hends.rounds.inOrder htried hnodup, fun b => ?_,
    fun result h => (hends.reported result h).1, fun result h => (hends.reported result h).2.1,
    fun result h => (hends.reported result h).2.2, fun hsucceeds hcleanup => ?_⟩
  · exact (hends.rounds.counts (hnodup.sublist htried.sublist) b).symm
  · refine hends.returns hsucceeds fun b other error hmem => ?_
    obtain ⟨place, _, heq⟩ := List.mem_mapIdx.mp hmem
    cases heq
    exact hcleanup place error

-- The first backend raises and the second one succeeds.
theorem fallback_bookkept_raising : ∃ result,
    (executeWithFallback sampleIntent sampleDecision raisingTurns).1 = .returned result ∧
      Numbered result.attempts ["local", "fireconnect"] ∧ result.ok = true := by
  have hbooks : Bookkept sampleDecision raisingTurns
      (executeWithFallback sampleIntent sampleDecision raisingTurns) :=
    fallback_bookkept sampleIntent raisingTurns (by decide)
  obtain ⟨result, hreturned⟩ : ∃ result,
      (executeWithFallback sampleIntent sampleDecision raisingTurns).1 = .returned result := ⟨_, rfl⟩
  refine ⟨result, hreturned, hbooks.numbered result hreturned, (hbooks.ok result hreturned).mpr ?_⟩
  exact ⟨"fireconnect", rfl, ⟨true, "done", ∅, none, ∅, [], ∅, none⟩, by decide +kernel, rfl⟩

end JoyMesh.Routing
