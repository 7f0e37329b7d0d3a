import JoyMesh.CodingWorker.Worker

namespace JoyMesh.CodingWorker

open JoyMesh.Library JoyMesh.Routing JoyMesh.Runtime

namespace Call

def Inside (call : Call) : Prop := ∃ safety, call.stage = .running safety

-- The lease stands for the process while it runs, and for its output until the
-- renewal that follows.
def Holding (call : Call) : Prop :=
  call.Inside ∨ ∃ safety output, call.stage = .tested safety output ∧ succeeded output = true

-- The result of a call whose run returned ok.
def Reported (call : Call) (result : CodingWorkerResult) : Prop :=
  ∀ output, call.output = some output → succeeded output = true → result.status ≠ .cancelled →
    result.status = .completed ∧ call.changed = some result.changedFiles

end Call

-- No two calls of a task are inside adapter.run.
def Crew.Exclusive (s : Crew) : Prop :=
  ∀ first second call other, s.calls.lookup first = some call →
    s.calls.lookup second = some other → call.Inside → other.Inside →
    call.task.taskId = other.task.taskId → first = second

def Crew.Faithful (s : Crew) : Prop :=
  ∀ id call result, s.calls.lookup id = some call → call.stage = .returned result →
    call.Reported result

section Condition

-- The lease of the task, where there is one, has not run out.
def Standing (leases : LeaseService) (taskId : String) (now : Time) : Prop :=
  ∀ lease, leases.active.lookup taskId = some lease → now < lease.expiresAt

-- The renewal after the run, the tests and the listing go through.
def Collects (leases : LeaseService) (call : Call) (met : Met) : Prop :=
  Standing leases call.task.taskId met.now ∧ (∃ tests, met.tests = .ok tests) ∧
    ∃ changed, met.listing = .ok changed

-- Nothing goes wrong between a successful run and its result.
def Undisturbed (leases : LeaseService) (call : Call) (met : Met) : Prop :=
  match call.stage with
  | .running _ => ∀ output, met.run = .returned output → Call.succeeded output = true →
      call.task.allowedActions.runTests = false → Collects leases call met
  | .tested _ output => Call.succeeded output = true →
      met.callback = .returned () ∧ Collects leases call met
  | .prepared _ output _ _ => Call.succeeded output = true → met.callback = .returned ()
  | .reported result => result.status = .completed → met.callback = .returned ()
  | _ => True

-- Whoever looks at the lease of a task while its process runs finds it unexpired.
def Guarded (s : Crew) : Label → Prop
  | .start _ _ task _ _ _ looking _ _ =>
      ∀ id call, s.calls.lookup id = some call → call.Holding →
        call.task.taskId = task.taskId → Standing s.leases task.taskId looking
  | .cancel .. => True
  | .resume id met => ∀ call, s.calls.lookup id = some call →
      Undisturbed s.leases call met ∧
      ∀ other second, s.calls.lookup other = some second → other ≠ id → second.Holding →
        second.task.taskId = call.task.taskId →
        Standing s.leases call.task.taskId met.now ∧ Standing s.leases call.task.taskId met.releasing

instance : DecidablePred Call.Inside := fun call =>
  match h : call.stage with
  | .running safety => .isTrue ⟨safety, h⟩
  | .acquired | .opened _ | .started _ | .tested .. | .prepared .. | .reported _ | .returned _
  | .escaped => .isFalse fun ⟨_, hin⟩ => by cases h.symm.trans hin

instance : DecidablePred Call.Holding := fun call =>
  match h : call.stage with
  | .running safety => .isTrue (.inl ⟨safety, h⟩)
  | .tested safety output =>
      decidable_of_iff (Call.succeeded output = true)
        ⟨fun hok => .inr ⟨safety, output, h, hok⟩, by
          rintro (⟨_, hin⟩ | ⟨_, _, htested, hok⟩)
          · cases h.symm.trans hin
          · cases h.symm.trans htested
            exact hok⟩
  | .acquired | .opened _ | .started _ | .prepared .. | .reported _ | .returned _ | .escaped =>
      .isFalse <| by rintro (⟨_, hin⟩ | ⟨_, _, hin, -⟩) <;> cases h.symm.trans hin

instance (leases : LeaseService) (taskId : String) (now : Time) :
    Decidable (Standing leases taskId now) :=
  inferInstanceAs (Decidable (∀ lease ∈ leases.active.lookup taskId, now < lease.expiresAt))

instance decidableOk {α : Type} (answer : Except String α) :
    Decidable (∃ value, answer = .ok value) :=
  match answer with
  | .ok value => .isTrue ⟨value, rfl⟩
  | .error _ => .isFalse fun ⟨_, h⟩ => nomatch h

instance (leases : LeaseService) (call : Call) (met : Met) : Decidable (Collects leases call met) :=
  inferInstanceAs (Decidable (_ ∧ _ ∧ _))

instance decidableReturned {p : Mapping → Prop} [DecidablePred p] (ending : RunEnd) :
    Decidable (∀ output, ending = .returned output → p output) :=
  match ending with
  | .returned output => decidable_of_iff (p output) (by simp)
  | .refused .. | .raised _ | .aborted => .isTrue fun _ h => nomatch h

instance (leases : LeaseService) (call : Call) (met : Met) :
    Decidable (Undisturbed leases call met) := by
  unfold Undisturbed
  split <;> infer_instance

instance (s : Crew) : DecidablePred (Guarded s)
  | .start _ _ task _ _ _ looking _ _ =>
      inferInstanceAs (Decidable (∀ id call, s.calls.lookup id = some call → call.Holding →
        call.task.taskId = task.taskId → Standing s.leases task.taskId looking))
  | .cancel .. => .isTrue trivial
  | .resume id met => inferInstanceAs (Decidable (∀ call ∈ s.calls.lookup id,
      Undisturbed s.leases call met ∧
      ∀ other second, s.calls.lookup other = some second → other ≠ id → second.Holding →
        second.task.taskId = call.task.taskId →
        Standing s.leases call.task.taskId met.now ∧
          Standing s.leases call.task.taskId met.releasing))

end Condition

section Invariant

-- The lease that is filed for the task is the active one of the call.
def Held (leases : LeaseService) (call : Call) : Prop :=
  ∃ lease, leases.active.lookup call.task.taskId = some lease ∧
    lease.fencingToken = call.lease.fencingToken ∧ lease.status = .active

def Call.Settled (call : Call) : Prop :=
  match call.stage with
  | .tested _ output => call.output = some output
  | .prepared _ output _ changed => call.output = some output ∧ call.changed = some changed
  | .reported result => result.status ≠ .cancelled ∧ call.Reported result
  | .returned result => call.Reported result
  | .escaped => True
  | _ => call.output = none

structure Sound (s : Crew) : Prop where
  keyed : s.leases.Keyed
  named : ∀ id call, s.calls.lookup id = some call → call.lease.taskId = call.task.taskId
  counted : ∀ id call, s.calls.lookup id = some call →
    call.lease.fencingToken ≤ (s.leases.tokens.lookup call.task.taskId).getD 0
  apart : ∀ first second call other, s.calls.lookup first = some call →
    s.calls.lookup second = some other → call.task.taskId = other.task.taskId →
    call.lease.fencingToken = other.lease.fencingToken → first = second
  held : ∀ id call, s.calls.lookup id = some call → call.Holding → Held s.leases call
  settled : ∀ id call, s.calls.lookup id = some call → call.Settled

variable {s : Crew}

-- Two calls inside would hold one lease, under one token.
theorem Sound.exclusive (h : Sound s) : s.Exclusive := by
  intro first second call other hf hs hcall hother htask
  obtain ⟨lease, hl, htoken, -⟩ := h.held _ _ hf (.inl hcall)
  obtain ⟨lease', hl', htoken', -⟩ := h.held _ _ hs (.inl hother)
  rw [← htask, hl] at hl'
  obtain rfl := Option.some.inj hl'
  exact h.apart _ _ _ _ hf hs htask (htoken.symm.trans htoken')

theorem Sound.faithful (h : Sound s) : s.Faithful := by
  intro id call result hl hstage
  simpa [Call.Settled, hstage] using h.settled _ _ hl

end Invariant

-- What a call does to the leases on the way to its next await: other tasks and the
-- unexpired lease of another token are left alone.
structure Touches (taskId : String) (token : Nat) (met : Met) (s t : LeaseService) : Prop where
  tokens : t.tokens = s.tokens
  others : ∀ other, other ≠ taskId → t.active.lookup other = s.active.lookup other
  stale : ∀ lease, s.active.lookup taskId = some lease → token ≠ lease.fencingToken →
    met.now < lease.expiresAt → met.releasing < lease.expiresAt →
    t.active.lookup taskId = some lease
  keyed : s.Keyed → t.Keyed

namespace Touches

variable {taskId : String} {token : Nat} {met : Met} {s t u : LeaseService}

theorem refl (s : LeaseService) : Touches taskId token met s s where
  tokens := rfl
  others _ _ := rfl
  stale _ h _ _ _ := h
  keyed := id

theorem trans (h : Touches taskId token met s t) (h' : Touches taskId token met t u) :
    Touches taskId token met s u where
  tokens := h'.tokens.trans h.tokens
  others other hne := (h'.others other hne).trans (h.others other hne)
  stale lease hslot htoken hnow hlast :=
    h'.stale lease (h.stale lease hslot htoken hnow hlast) htoken hnow hlast
  keyed hs := h'.keyed (h.keyed hs)

theorem of_respond {s : LeaseService} (timed : TimedCall) (htask : timed.call.taskId = taskId)
    (hcall : ∀ leaseId request, timed.call ≠ .acquire leaseId request)
    (hstale : ∀ lease, s.active.lookup taskId = some lease → token ≠ lease.fencingToken →
      met.now < lease.expiresAt → met.releasing < lease.expiresAt → (s.respond timed).2 = s) :
    Touches taskId token met s (s.respond timed).2 where
  tokens := LeaseService.respond_tokens hcall
  others _ hne := LeaseService.respond_lookup_other (htask ▸ hne)
  stale lease hslot htoken hnow hlast := by rwa [hstale lease hslot htoken hnow hlast]
  keyed hs := hs.respond

theorem heartbeat (s : LeaseService) :
    Touches taskId token met s (s.heartbeat met.now met.stamp taskId token).2 :=
  of_respond ⟨met.now, met.stamp, .heartbeat taskId token⟩ rfl (fun _ _ h => nomatch h)
    fun _ hslot htoken hnow _ => LeaseService.heartbeat_stale hslot hnow htoken

theorem release (s : LeaseService) :
    Touches taskId token met s (s.release met.releasing taskId token).2 :=
  of_respond ⟨met.releasing, met.stamp, .release taskId token⟩ rfl (fun _ _ h => nomatch h)
    fun _ hslot htoken _ hlast => LeaseService.release_stale hslot hlast htoken

end Touches

-- A call on its way to its next await: its lease keeps the token, and where it goes
-- inside it has just renewed it.
structure Moved (s : Crew) (id : Nat) (call : Call) (met : Met) (t : Crew) (next : Call) :
    Prop where
  calls : t.calls = s.calls.insert id next
  task : next.task = call.task
  named : next.lease.taskId = call.lease.taskId
  token : next.lease.fencingToken = call.lease.fencingToken
  touches : Touches call.lease.taskId call.lease.fencingToken met s.leases t.leases
  held : next.Holding → Held t.leases next

def Reaches (s : Crew) (id : Nat) (call : Call) (met : Met) (t : Crew) (good : Prop) : Prop :=
  ∃ next, Moved s id call met t next ∧ (good → next.Settled)

def Call.Unsuccessful (call : Call) : Prop :=
  ∀ output, call.output = some output → Call.succeeded output = false

theorem Call.unsuccessful_of_none {call : Call} (h : call.output = none) : call.Unsuccessful := by
  intro output houtput
  cases h.symm.trans houtput

namespace Reaches

variable {s t : Crew} {id : Nat} {call next : Call} {met : Met} {stage : Stage}
  {good weaker : Prop}

theorem mono (h : Reaches s id call met t good) (hgood : weaker → good) :
    Reaches s id call met t weaker := by
  obtain ⟨next, hmoved, hsettled⟩ := h
  exact ⟨next, hmoved, fun hw => hsettled (hgood hw)⟩

theorem suspend (htask : next.task = call.task) (hlease : next.lease = call.lease)
    (hheld : next.Holding → Held s.leases next) (hsettled : good → next.Settled) :
    Reaches s id call met (s.suspend id next) good :=
  ⟨next, ⟨rfl, htask, congrArg _ hlease, congrArg _ hlease, .refl _, hheld⟩, hsettled⟩

theorem close (hstage : ¬ { call with stage }.Holding) :
    Reaches s id call met (s.close id call stage met) { call with stage }.Settled :=
  ⟨{ call with stage }, ⟨rfl, rfl, rfl, rfl, .release _, fun h => absurd h hstage⟩,
    fun h => h⟩

theorem not_holding_returned (result : CodingWorkerResult) :
    ¬ { call with stage := .returned result }.Holding := by
  rintro (⟨_, h⟩ | ⟨_, _, h, -⟩) <;> cases h

theorem not_holding_escaped : ¬ { call with stage := .escaped }.Holding := by
  rintro (⟨_, h⟩ | ⟨_, _, h, -⟩) <;> cases h

theorem fail (summary error : String) :
    Reaches s id call met (s.fail id call summary error met) call.Unsuccessful := by
  refine (close (not_holding_returned _)).mono ?_
  intro h output hout hok
  rw [h output hout] at hok
  cases hok

theorem cancelled :
    Reaches s id call met (s.close id call (.returned call.cancelledResult) met) True := by
  refine (close (not_holding_returned _)).mono ?_
  intro _ _ _ _ hstatus
  exact absurd rfl hstatus

theorem escape : Reaches s id call met (s.close id call .escaped met) True :=
  (close not_holding_escaped).mono fun _ => trivial

-- A heartbeat that fails ends the call; otherwise it goes on under the renewed lease.
theorem beat {after : Crew → Call → Crew} (hkeyed : s.leases.Keyed)
    (hlost : good → ¬ call.Unsuccessful → ∃ renewed, (s.leases.heartbeat met.now met.stamp
      call.lease.taskId call.lease.fencingToken).1 = .ok renewed)
    (hkept : ∀ lease leases, leases.active.lookup call.lease.taskId = some lease →
      lease.status = .active → lease.taskId = call.lease.taskId →
      lease.fencingToken = call.lease.fencingToken →
      Reaches { s with leases } id { call with lease } met
        (after { s with leases } { call with lease }) good) :
    Reaches s id call met (s.beat id call met after) good := by
  have htouches : Touches call.lease.taskId call.lease.fencingToken met s.leases (s.leases.heartbeat
      met.now met.stamp call.lease.taskId call.lease.fencingToken).2 := .heartbeat s.leases
  unfold Crew.beat
  cases h : s.leases.heartbeat met.now met.stamp call.lease.taskId call.lease.fencingToken with
  | mk answer leases =>
      rw [h] at htouches hlost
      cases answer with
      | error refusal =>
          have hfail : Reaches { s with leases } id call met _ call.Unsuccessful :=
            fail "coding worker failed" "PermissionError"
          obtain ⟨next, hmoved, hsettled⟩ := hfail
          refine ⟨next, { hmoved with touches := htouches.trans hmoved.touches }, fun hgood => ?_⟩
          apply hsettled
          by_contra hsuccess
          obtain ⟨_, hrenewed⟩ := hlost hgood hsuccess
          cases hrenewed
      | ok lease =>
          obtain ⟨hslot, htoken, hactive, record, hrecord, hname⟩ :=
            LeaseService.heartbeat_renewed h
          rw [hkeyed _ _ hrecord] at hname
          obtain ⟨next, hmoved, hsettled⟩ := hkept lease leases hslot hactive hname htoken
          have htouched := hmoved.touches
          simp only [hname, htoken] at htouched
          exact ⟨next, ⟨hmoved.calls, hmoved.task, hmoved.named.trans hname,
            hmoved.token.trans htoken, htouches.trans htouched, hmoved.held⟩, hsettled⟩

variable {safety : RepositorySafetyReport} {output : Mapping}

theorem collect (hkeyed : s.leases.Keyed) (hnamed : call.lease.taskId = call.task.taskId)
    (houtput : call.output = some output) :
    Reaches s id call met (s.collect id call safety output met)
      (Call.succeeded output = true → Held s.leases call ∧ Collects s.leases call met) := by
  -- A heartbeat or a look at the files that fails belongs to a run that did not succeed.
  have hfailed {lease : TaskLease} (h : Call.succeeded output ≠ true) :
      { call with lease }.Unsuccessful := by
    intro found hfound
    obtain rfl := Option.some.inj (houtput.symm.trans hfound)
    exact eq_false_of_ne_true h
  refine beat hkeyed ?_ ?_
  · intro hgood hsuccess
    have hok : Call.succeeded output = true := by
      by_contra hne
      exact hsuccess (hfailed hne)
    obtain ⟨⟨lease, hslot, htoken, hactive⟩, hstanding, -⟩ := hgood hok
    rw [hnamed, ← htoken]
    exact LeaseService.heartbeat_live hslot (hstanding _ hslot) hactive
  · intro lease leases _ _ _ _
    dsimp only
    split
    next htests =>
      refine (fail _ _).mono fun hgood => hfailed fun hok => ?_
      obtain ⟨-, -, ⟨tests, h⟩, -⟩ := hgood hok
      cases htests.symm.trans h
    · split
      next hlisting =>
        refine (fail _ _).mono fun hgood => hfailed fun hok => ?_
        obtain ⟨-, -, -, changed, h⟩ := hgood hok
        cases hlisting.symm.trans h
      · refine suspend rfl rfl ?_ fun _ => ⟨houtput, rfl⟩
        rintro (⟨_, h⟩ | ⟨_, _, h, -⟩) <;> cases h

theorem ran (hs : Sound s) (hl : s.calls.lookup id = some call)
    (hstage : call.stage = .running safety) :
    Reaches s id call met (s.ran id call safety met) (Undisturbed s.leases call met) := by
  have hheld : Held s.leases call := hs.held _ _ hl (.inl ⟨safety, hstage⟩)
  have hnamed : call.lease.taskId = call.task.taskId := hs.named _ _ hl
  have hnone : call.output = none := by simpa [Call.Settled, hstage] using hs.settled _ _ hl
  unfold Crew.ran
  cases hrun : met.run with
  | returned output =>
      dsimp only
      split
      · exact suspend rfl rfl (fun _ => hheld) fun _ => rfl
      next htests =>
        have hcollect : Reaches s id { call with output := some output } met
            (s.collect id { call with output := some output } safety output met) _ :=
          collect hs.keyed hnamed rfl
        obtain ⟨next, hmoved, hsettled⟩ := hcollect
        refine ⟨next, ⟨hmoved.calls, hmoved.task, hmoved.named, hmoved.token, hmoved.touches,
          hmoved.held⟩, fun hgood => hsettled fun hok => ?_⟩
        simp only [Undisturbed, hstage] at hgood
        exact ⟨hheld, hgood output hrun hok (eq_false_of_ne_true htests)⟩
  | refused reasonCode message =>
      refine beat hs.keyed (fun _ hsuccess => absurd (Call.unsuccessful_of_none hnone) hsuccess) ?_
      intro lease leases _ _ _ _
      exact (fail _ _).mono fun _ => Call.unsuccessful_of_none hnone
  | raised type => exact (fail _ _).mono fun _ => Call.unsuccessful_of_none hnone
  | aborted => exact escape.mono fun _ => trivial

theorem goOn (hs : Sound s) (hl : s.calls.lookup id = some call) (hstage : call.stage = stage)
    (hin : ¬ call.Inside) (hover : call.ended = false) :
    Reaches s id call met (s.goOn id call met stage) (Undisturbed s.leases call met) := by
  have hnamed : call.lease.taskId = call.task.taskId := hs.named _ _ hl
  have hsettled := hs.settled _ _ hl
  cases stage with
  | acquired =>
      simp only [Call.Settled, hstage] at hsettled
      dsimp only [Crew.goOn]
      split
      · exact cancelled.mono fun _ => trivial
      · cases met.inspection with
        | safe safety =>
            refine suspend rfl rfl ?_ fun _ => hsettled
            rintro (⟨_, h⟩ | ⟨_, _, h, -⟩) <;> cases h
        | rejected code message => exact (fail _ _).mono fun _ => Call.unsuccessful_of_none hsettled
        | raised type => exact (fail _ _).mono fun _ => Call.unsuccessful_of_none hsettled
  | opened safety =>
      simp only [Call.Settled, hstage] at hsettled
      dsimp only [Crew.goOn]
      refine beat hs.keyed (fun _ hsuccess => absurd (Call.unsuccessful_of_none hsettled) hsuccess) ?_
      intro lease leases _ _ _ _
      dsimp only
      split
      · exact (fail _ _).mono fun _ => Call.unsuccessful_of_none hsettled
      · refine suspend rfl rfl ?_ fun _ => hsettled
        rintro (⟨_, h⟩ | ⟨_, _, h, -⟩) <;> cases h
  | started safety =>
      simp only [Call.Settled, hstage] at hsettled
      dsimp only [Crew.goOn]
      refine beat hs.keyed (fun _ hsuccess => absurd (Call.unsuccessful_of_none hsettled) hsuccess) ?_
      intro lease leases hslot hactive _ _
      dsimp only
      split
      · exact cancelled.mono fun _ => trivial
      · exact suspend rfl rfl (fun _ => ⟨lease, hnamed ▸ hslot, rfl, hactive⟩) fun _ => hsettled
  | running safety => exact absurd ⟨safety, hstage⟩ hin
  | tested safety output =>
      simp only [Call.Settled, hstage] at hsettled
      refine (collect hs.keyed hnamed hsettled).mono fun hgood hok => ?_
      simp only [Undisturbed, hstage] at hgood
      exact ⟨hs.held _ _ hl (.inr ⟨safety, output, hstage, hok⟩), (hgood hok).2⟩
  | prepared safety output tests changed =>
      simp only [Call.Settled, hstage] at hsettled
      obtain ⟨houtput, hchanged⟩ := hsettled
      dsimp only [Crew.goOn]
      split
      · exact cancelled.mono fun _ => trivial
      · refine suspend rfl rfl ?_ fun _ => ⟨?_, ?_⟩
        · rintro (⟨_, h⟩ | ⟨_, _, h, -⟩) <;> cases h
        · by_cases hok : Call.succeeded output <;> simp [Call.reportResult, Call.result, hok]
        · intro found hfound hok _
          obtain rfl := Option.some.inj (houtput.symm.trans hfound)
          exact ⟨by simp [Call.reportResult, Call.result, hok], hchanged⟩
  | reported result =>
      simp only [Call.Settled, hstage] at hsettled
      exact (close (not_holding_returned _)).mono fun _ => hsettled.2
  | returned result => simp [Call.ended, hstage] at hover
  | escaped => simp [Call.ended, hstage] at hover

-- A callback that does not return ends the call; after a successful run the condition
-- excludes it.
theorem interrupted (hs : Sound s) (hl : s.calls.lookup id = some call)
    (hin : ¬ call.Inside) (hover : call.ended = false) (hcallback : met.callback ≠ .returned ()) :
    Reaches s id call met (s.interrupted id call met stage) (Undisturbed s.leases call met) := by
  have hsettled := hs.settled _ _ hl
  have hends : Undisturbed s.leases call met → call.Unsuccessful := by
    intro hgood output houtput
    by_contra hok
    replace hok : Call.succeeded output = true := eq_true_of_ne_false hok
    unfold Call.Settled at hsettled
    unfold Undisturbed at hgood
    cases hcall : call.stage with
    | running safety => exact hin ⟨safety, hcall⟩
    | tested safety found =>
        simp only [hcall] at hsettled hgood
        obtain rfl := Option.some.inj (hsettled.symm.trans houtput)
        exact hcallback (hgood hok).1
    | prepared safety found tests changed =>
        simp only [hcall] at hsettled hgood
        obtain rfl := Option.some.inj (hsettled.1.symm.trans houtput)
        exact hcallback (hgood hok)
    | reported result =>
        simp only [hcall] at hsettled hgood
        exact hcallback (hgood (hsettled.2 output houtput hok hsettled.1).1)
    | returned result => simp [Call.ended, hcall] at hover
    | escaped => simp [Call.ended, hcall] at hover
    | acquired => simp [hcall, houtput] at hsettled
    | opened safety => simp [hcall, houtput] at hsettled
    | started safety => simp [hcall, houtput] at hsettled
  unfold Crew.interrupted
  split
  · refine suspend rfl rfl ?_ fun _ => trivial
    rintro (⟨_, h⟩ | ⟨_, _, h, -⟩) <;> cases h
  · split
    · exact (fail _ _).mono hends
    · exact escape.mono fun _ => trivial

theorem resume (hs : Sound s) (hl : s.calls.lookup id = some call)
    (h : s.resume id met = some t) :
    Reaches s id call met t (Undisturbed s.leases call met) := by
  simp only [Crew.resume, hl] at h
  split at h
  · cases h
  · cases h
  next safety hstage =>
    obtain rfl := Option.some.inj h
    exact ran hs hl hstage
  next hreturned hescaped hrunning =>
    obtain rfl := Option.some.inj h
    have hin : ¬ call.Inside := by
      rintro ⟨safety, hin⟩
      exact hrunning safety hin
    have hover : call.ended = false := by
      unfold Call.ended
      split
      next result hstage => exact absurd hstage (hreturned result)
      next hstage => exact absurd hstage hescaped
      · rfl
    split
    · exact goOn hs hl rfl hin hover
    next hcallback => exact interrupted hs hl hin hover (hcallback ())

end Reaches

section Steps

variable {s t : Crew} {id : Nat} {met : Met}

theorem Sound.resume (hs : Sound s) (hguard : Guarded s (.resume id met))
    (h : s.resume id met = some t) : Sound t := by
  obtain ⟨call, hl⟩ : ∃ call, s.calls.lookup id = some call := by
    cases hl : s.calls.lookup id with
    | none => simp [Crew.resume, hl] at h
    | some call => exact ⟨call, rfl⟩
  obtain ⟨hundisturbed, hstanding⟩ := hguard call hl
  obtain ⟨next, hmoved, hsettled⟩ := Reaches.resume hs hl h
  have hnamed : call.lease.taskId = call.task.taskId := hs.named _ _ hl
  -- The calls of the next state are those of this one, with one moved on.
  have hcalls {other : Nat} {found : Call} (hfound : t.calls.lookup other = some found) :
      (other = id ∧ found = next) ∨ (other ≠ id ∧ s.calls.lookup other = some found) := by
    rw [hmoved.calls] at hfound
    rcases eq_or_ne other id with rfl | hne
    · exact .inl ⟨rfl, Option.some.inj (hfound.symm.trans (AList.lookup_insert _))⟩
    · exact .inr ⟨hne, by rwa [AList.lookup_insert_ne hne] at hfound⟩
  constructor
  · exact hmoved.touches.keyed hs.keyed
  · intro other found hfound
    obtain ⟨rfl, rfl⟩ | ⟨-, hold⟩ := hcalls hfound
    · rw [hmoved.named, hmoved.task, hnamed]
    · exact hs.named _ _ hold
  · intro other found hfound
    rw [hmoved.touches.tokens]
    obtain ⟨rfl, rfl⟩ | ⟨-, hold⟩ := hcalls hfound
    · rw [hmoved.token, hmoved.task]
      exact hs.counted _ _ hl
    · exact hs.counted _ _ hold
  · intro first second found other hf ho htask htoken
    obtain ⟨rfl, rfl⟩ | ⟨-, hfirst⟩ := hcalls hf <;>
      obtain ⟨rfl, rfl⟩ | ⟨-, hsecond⟩ := hcalls ho
    · rfl
    · rw [hmoved.task] at htask
      rw [hmoved.token] at htoken
      exact hs.apart _ _ _ _ hl hsecond htask htoken
    · rw [hmoved.task] at htask
      rw [hmoved.token] at htoken
      exact hs.apart _ _ _ _ hfirst hl htask htoken
    · exact hs.apart _ _ _ _ hfirst hsecond htask htoken
  · intro other found hfound hholding
    obtain ⟨rfl, rfl⟩ | ⟨hne, hold⟩ := hcalls hfound
    · exact hmoved.held hholding
    · obtain ⟨lease, hslot, htoken, hactive⟩ := hs.held _ _ hold hholding
      refine ⟨lease, ?_, htoken, hactive⟩
      rcases eq_or_ne found.task.taskId call.task.taskId with htask | htask
      · obtain ⟨hnow, hlast⟩ := hstanding other found hold hne hholding htask
        rw [htask] at hslot
        rw [htask, ← hnamed]
        refine hmoved.touches.stale lease (hnamed ▸ hslot) ?_ (hnow _ hslot) (hlast _ hslot)
        intro hsame
        exact hne (hs.apart _ _ _ _ hold hl htask (htoken.symm.trans hsame.symm))
      · rw [hmoved.touches.others _ (hnamed ▸ htask), hslot]
  · intro other found hfound
    obtain ⟨rfl, rfl⟩ | ⟨-, hold⟩ := hcalls hfound
    · exact hsettled hundisturbed
    · exact hs.settled _ _ hold

theorem Sound.of_leases (hs : Sound s) {leases : LeaseService} (hkeyed : leases.Keyed)
    (htokens : leases.tokens = s.leases.tokens)
    (hheld : ∀ id call, s.calls.lookup id = some call → call.Holding → Held leases call)
    (refused : List CodingWorkerResult) : Sound { s with leases, refused } where
  keyed := hkeyed
  named := hs.named
  counted id call hl := by
    rw [htokens]
    exact hs.counted id call hl
  apart := hs.apart
  held := hheld
  settled := hs.settled

-- A call that was granted its lease has the newest token of the task.
theorem Sound.granted (hs : Sound s) {call : Call} {leases : LeaseService}
    (hfresh : s.calls.lookup id = none) (hkeyed : leases.Keyed)
    (hnamed : call.lease.taskId = call.task.taskId)
    (htoken : call.lease.fencingToken = (s.leases.tokens.lookup call.task.taskId).getD 0 + 1)
    (htokens : leases.tokens = s.leases.tokens.insert call.task.taskId call.lease.fencingToken)
    (hothers : ∀ other, other ≠ call.task.taskId →
      leases.active.lookup other = s.leases.active.lookup other)
    (hfree : ∀ other found, s.calls.lookup other = some found → found.Holding →
      found.task.taskId ≠ call.task.taskId)
    (hstage : call.stage = .acquired) (houtput : call.output = none) :
    Sound ({ s with leases }.suspend id call) := by
  have hcalls {other : Nat} {found : Call}
      (hfound : (s.calls.insert id call).lookup other = some found) :
      (other = id ∧ found = call) ∨ (other ≠ id ∧ s.calls.lookup other = some found) := by
    rcases eq_or_ne other id with rfl | hne
    · exact .inl ⟨rfl, Option.some.inj (hfound.symm.trans (AList.lookup_insert _))⟩
    · exact .inr ⟨hne, by rwa [AList.lookup_insert_ne hne] at hfound⟩
  have hnewest {other : Nat} {found : Call} (hold : s.calls.lookup other = some found)
      (htask : found.task.taskId = call.task.taskId) :
      found.lease.fencingToken < call.lease.fencingToken := by
    have hcounted := hs.counted _ _ hold
    rw [htask] at hcounted
    omega
  constructor
  · exact hkeyed
  · intro other found hfound
    obtain ⟨rfl, rfl⟩ | ⟨-, hold⟩ := hcalls hfound
    · exact hnamed
    · exact hs.named _ _ hold
  · intro other found hfound
    change _ ≤ (leases.tokens.lookup _).getD 0
    rw [htokens]
    obtain ⟨rfl, rfl⟩ | ⟨-, hold⟩ := hcalls hfound
    · simp
    · rcases eq_or_ne found.task.taskId call.task.taskId with htask | htask
      · rw [htask, AList.lookup_insert]
        exact (hnewest hold htask).le
      · rw [AList.lookup_insert_ne htask]
        exact hs.counted _ _ hold
  · intro first second found other hf ho htask htoken'
    obtain ⟨rfl, rfl⟩ | ⟨-, hfirst⟩ := hcalls hf <;>
      obtain ⟨rfl, rfl⟩ | ⟨-, hsecond⟩ := hcalls ho
    · rfl
    · exact absurd htoken' (hnewest hsecond htask.symm).ne'
    · exact absurd htoken' (hnewest hfirst htask).ne
    · exact hs.apart _ _ _ _ hfirst hsecond htask htoken'
  · intro other found hfound hholding
    obtain ⟨rfl, rfl⟩ | ⟨-, hold⟩ := hcalls hfound
    · rcases hholding with ⟨_, h⟩ | ⟨_, _, h, -⟩ <;> cases hstage.symm.trans h
    · obtain ⟨lease, hslot, hheld⟩ := hs.held _ _ hold hholding
      exact ⟨lease, (hothers _ (hfree _ _ hold hholding)).trans hslot, hheld⟩
  · intro other found hfound
    obtain ⟨rfl, rfl⟩ | ⟨-, hold⟩ := hcalls hfound
    · simpa [Call.Settled, hstage] using houtput
    · exact hs.settled _ _ hold

theorem Sound.start (hs : Sound s) {worker : Nat} {task : CodingWorkerTask}
    {workerId leaseId attemptId : String} {looking now stamp : Time}
    (hguard : Guarded s (.start id worker task workerId leaseId attemptId looking now stamp))
    (h : s.start id worker task workerId leaseId attemptId looking now stamp = some t) :
    Sound t := by
  have hkeyed : (s.leases.activeLease looking task.taskId).2.Keyed := hs.keyed.activeLease
  have hothers : ∀ other, other ≠ task.taskId →
      (s.leases.activeLease looking task.taskId).2.active.lookup other =
        s.leases.active.lookup other := by
    intro other hne
    rw [LeaseService.activeLease_lookup, if_neg hne]
  -- A call that holds the lease of the task is seen to hold it.
  have hseen {other : Nat} {found : Call} (hfound : s.calls.lookup other = some found)
      (hholding : found.Holding) (htask : found.task.taskId = task.taskId) :
      ∃ lease, s.leases.activeLease looking task.taskId = (some lease, s.leases) ∧
        lease.status = .active := by
    obtain ⟨lease, hslot, -, hactive⟩ := hs.held _ _ hfound hholding
    rw [htask] at hslot
    have hlive := hguard other found hfound hholding htask lease hslot
    exact ⟨lease, LeaseService.activeLease_unexpired hslot hlive, hactive⟩
  have hheld : ∀ other found, s.calls.lookup other = some found → found.Holding →
      Held (s.leases.activeLease looking task.taskId).2 found := by
    intro other found hfound hholding
    rcases eq_or_ne found.task.taskId task.taskId with htask | hne
    · obtain ⟨lease, hlooked, -⟩ := hseen hfound hholding htask
      rw [hlooked]
      exact hs.held _ _ hfound hholding
    · obtain ⟨lease, hslot, hrest⟩ := hs.held _ _ hfound hholding
      exact ⟨lease, (hothers _ hne).trans hslot, hrest⟩
  have htokens : (s.leases.activeLease looking task.taskId).2.tokens = s.leases.tokens :=
    LeaseService.activeLease_tokens
  unfold Crew.start at h
  split at h
  · cases h
  next hfresh =>
    generalize hlooked : s.leases.activeLease looking task.taskId = looked
      at h hkeyed hothers hheld htokens
    obtain ⟨current, leases⟩ := looked
    dsimp only at h hkeyed hothers hheld htokens
    split at h
    · obtain rfl := Option.some.inj h
      exact hs.of_leases hkeyed htokens hheld _
    next hfree =>
      have hnone : ∀ other found, s.calls.lookup other = some found → found.Holding →
          found.task.taskId ≠ task.taskId := by
        intro other found hfound hholding htask
        obtain ⟨lease, hlease, hactive⟩ := hseen hfound hholding htask
        obtain ⟨rfl, -⟩ := Prod.mk.inj (hlooked.symm.trans hlease)
        simp [hactive] at hfree
      generalize hrequest : AcquireRequest.mk task.taskId workerId "codex" attemptId none = request
        at h
      have htask : request.taskId = task.taskId := by rw [← hrequest]
      have hnext : (leases.acquire now stamp leaseId request).2.Keyed := hkeyed.acquire
      have hrest : ∀ other, other ≠ task.taskId →
          (leases.acquire now stamp leaseId request).2.active.lookup other =
            s.leases.active.lookup other := by
        intro other hne
        rw [← hothers other hne]
        exact LeaseService.acquire_lookup_other (by rwa [htask])
      cases hacquire : leases.acquire now stamp leaseId request with
      | mk granted after =>
          rw [hacquire] at hnext hrest
          simp only [hacquire] at h
          cases granted with
          | error refusal =>
              obtain rfl := Option.some.inj h
              refine hs.of_leases hnext ?_ ?_ _
              · rw [LeaseService.acquire_refused hacquire, LeaseService.activeLease_tokens, htokens]
              · intro other found hfound hholding
                obtain ⟨lease, hslot, hheld⟩ := hs.held _ _ hfound hholding
                exact ⟨lease, (hrest _ (hnone _ _ hfound hholding)).trans hslot, hheld⟩
          | ok lease =>
              obtain rfl := Option.some.inj h
              obtain ⟨hnamed, htoken, hcount⟩ := LeaseService.acquire_granted hacquire
              rw [htask] at hnamed htoken hcount
              rw [htokens] at htoken hcount
              exact hs.granted (by simpa using hfresh) hnext hnamed htoken hcount hrest hnone
                rfl rfl

theorem Sound.step (hs : Sound s) {label : Label} (hguard : Guarded s label)
    (h : step s label = some t) : Sound t := by
  cases label with
  | start id worker task workerId leaseId attemptId looking now stamp => exact hs.start hguard h
  | cancel worker taskId =>
      obtain rfl := Option.some.inj h
      exact ⟨hs.keyed, hs.named, hs.counted, hs.apart, hs.held, hs.settled⟩
  | resume id met => exact hs.resume hguard h

end Steps

-- Before the first call, over leases that others have left.
theorem Sound.first {leases : LeaseService} (hkeyed : leases.Keyed) : Sound { leases } where
  keyed := hkeyed
  named _ _ h := nomatch h
  counted _ _ h := nomatch h
  apart _ _ _ _ h := nomatch h
  held _ _ h := nomatch h
  settled _ _ h := nomatch h

section Runs

def sampleTask : CodingWorkerTask where
  taskId := "task"
  missionId := "mission"
  executionId := "execution"
  repositoryPath := "/repository"
  objective := "fix the build"
  constraints := []
  allowedActions := {}
  timeoutSeconds := 900

def sampleMet (time : Time) : Met where
  now := time
  stamp := time
  releasing := time
  inspection := .safe ⟨"/repository", []⟩
  run := .returned (.ofList [("ok", .bool true), ("message", .str "fixed")])
  listing := .ok ["build.py"]

def started (id : Nat) (time : Time) : List Label :=
  [.start id 0 sampleTask "worker" "lease" "attempt" time time time, .resume id (sampleMet time),
    .resume id (sampleMet time), .resume id (sampleMet time)]

-- The process is done while the lease still stands, and a second call of the task that comes
-- in between gets no lease.
def promptRun : List Label :=
  started 0 0 ++ [.start 1 0 sampleTask "worker" "second" "attempt" 20 20 20] ++
    List.replicate 4 (.resume 0 (sampleMet 30))

end Runs

end JoyMesh.CodingWorker
