import JoyMesh.ProviderRoutes.Manager
import JoyMesh.ProviderRoutes.StatusOutput

namespace JoyMesh.ProviderRoutes

open JoyMesh.Library

namespace FireConnect

-- What happens at an await: an operation of this manager goes as the executable
-- makes it go, any other one as its own environment decides.
inductive Response where
  | plain (choice : Choice)
  | reading (reading : Reading)
  | mutation (mutation : Mutation) (route : RouteState)
deriving DecidableEq

def manages : Await → Bool
  | .inspect key => key.1 = managerId
  | .enable key _ _ => key.1 = managerId
  | .disable key => key.1 = managerId
  | _ => false

-- A step of a run of which the executable is part.
inductive Happening where
  | answer (id : CallId) (ids : Ids) (response : Response)
  | lose (id : CallId) (ids : Ids) (response : Response)
  | other (label : Label)

section Run

variable (texts : Texts)

def mutated (route : RouteState) : Except Raised MutationResult → Choice
  | .ok result => .mutated route result
  | .error error => .raised (some route) error

def choice (await : Await) : Response → Option Choice
  | .plain choice => if manages await then none else some choice
  | .reading reading =>
      match await with
      | .inspect key =>
          if key.1 = managerId then
            match inspectRoute texts key.2 reading with
            | .ok route => some (.reading route.toProviderRoute)
            | .error error => some (.raised none error)
          else none
      | _ => none
  | .mutation mutation route =>
      match await with
      | .enable key _ _ =>
          if key.1 = managerId then some (mutated route (enableRoute texts key.2 mutation)) else none
      | .disable key =>
          if key.1 = managerId then some (mutated route (disableRoute texts key.2 mutation)) else none
      | _ => none

def Happening.label (w : World) : Happening → Option Label
  | .answer id ids response => do
      let await ← w.awaited id ids
      let choice ← choice texts await response
      return .answer id ids choice
  | .lose id ids response => do
      let await ← w.awaited id ids
      let choice ← choice texts await response
      return .lose id ids choice
  | .other (.answer _ _ _) => none
  | .other (.lose _ _ _) => none
  | .other label => some label

def step (w : World) (happening : Happening) : Option World := do
  let label ← happening.label texts w
  w.step label

end Run

end FireConnect

section Carrying

-- The exception that a cleanup goes on with once it is done.
def Watch.carried (work : Work) : Watch → Option Raised
  | waiting => work.pending
  | _ => some .cancelledError

-- The exception that a lifecycle ends with unless it is cancelled again.
def LifecyclePc.carried : LifecyclePc → Option Raised
  | restore _ work watch => watch.carried work
  | restoreVerify _ work watch => watch.carried work
  | release _ work _ watch => watch.carried work
  | finished (.raised error) => some error
  | _ => none

variable {ids : Ids} {answer : Answer} {error : Raised} {managerId : String}
  {connectors : Option (List String)}

theorem Recovery.next_ne_raised {reports : List RecoveryReport} {listed : List ProviderRouteLease} :
    next managerId connectors reports listed ≠ .raised error := by
  induction listed with
  | nil => simp [next]
  | cons lease rest ih =>
      rw [next]
      split
      · split <;> simp
      · exact ih

-- Only the store can make a recovery raise an exception.
theorem Recovery.raised_of_resume {frame : Recovery} {unlock : Bool}
    (h : frame.resume ids managerId connectors answer = some ⟨.raised error, unlock⟩) :
    ∃ failure late, answer = .store (.raised failure) late ∧ error = .failure failure := by
  have honward : ∀ {reports listed unlock'},
      (some ⟨next managerId connectors reports listed, unlock'⟩ : Option (Resumed RecoveryNext)) ≠
        some ⟨.raised error, unlock⟩ :=
    fun he => next_ne_raised (congrArg Resumed.next (Option.some.inj he))
  cases frame with
  | list =>
      cases answer with
      | store reply late =>
          cases reply with
          | leases found => exact absurd h honward
          | _ => cases h
      | _ => cases h
  | round lease rest reports pc =>
      simp only [resume] at h
      split at h
      · exact absurd h honward
      · cases h
        exact ⟨_, _, rfl, rfl⟩
      · cases h
      · split at h
        · exact absurd h honward
        · cases h
          exact ⟨_, _, rfl, rfl⟩
      · cases h
        exact ⟨_, _, rfl, rfl⟩
      · cases h
      · obtain ⟨outcome, -, hgoing⟩ := Option.map_eq_some_iff.mp h
        cases outcome <;> cases hgoing
      · obtain ⟨outcome, -, hgoing⟩ := Option.map_eq_some_iff.mp h
        cases hgoing
      · split at h
        · cases h
        · exact absurd h honward
      · cases h
      · exact absurd h honward
      · cases h
      · cases h
      · cases h
        exact ⟨_, _, rfl, rfl⟩
      · exact absurd h honward
      · exact absurd h honward
      · cases h
        exact ⟨_, _, rfl, rfl⟩
      · cases h

namespace Lifecycle

variable {key : Key} {args : LifecycleArgs} {pc : LifecyclePc} {resumed : Resumed LifecyclePc}

theorem carried_cancel (h : cancel pc = some resumed) :
    resumed.next.carried = some .cancelledError := by
  have hwatched : ∀ (stage : Watch → LifecyclePc) {watch : Watch},
      (∀ after, after ≠ .waiting → (stage after).carried = some .cancelledError) →
      watched stage watch = some resumed → resumed.next.carried = some .cancelledError := by
    intro stage watch hstage hwatch
    cases watch with
    | left => cases hwatch
    | _ =>
        cases hwatch
        exact hstage _ nofun
  have hcarried : ∀ {work : Work} {after : Watch}, after ≠ .waiting →
      after.carried work = some .cancelledError := by
    intro work after hne
    cases after with
    | waiting => exact absurd rfl hne
    | _ => rfl
  cases pc with
  | restore held work => exact hwatched (.restore held work) (fun _ hne => hcarried hne) h
  | restoreVerify held work => exact hwatched (.restoreVerify held work) (fun _ hne => hcarried hne) h
  | release held work outcome =>
      exact hwatched (.release held work outcome) (fun _ hne => hcarried hne) h
  | finished => cases h
  | _ =>
      cases h
      rfl

theorem carried_afterCleanup {held : Held} {work : Work} {outcome : RestoreOutcome} {watch : Watch} :
    (afterCleanup key held work outcome watch).next.carried = watch.carried work := by
  cases watch with
  | waiting =>
      simp only [afterCleanup]
      split
      next error hpending => exact hpending.symm
      next hpending => exact hpending.symm
  | _ => rfl

-- Where an exception can come from: the store, while leases are recovered, or the
-- manager, while the route is inspected, enabled and verified.
inductive Took (pc : LifecyclePc) (answer : Answer) (error : Raised) : Prop
  | store {frame : Recovery} {failure : StoreFailure} {late : Bool} (hpc : pc = .recovering frame)
      (hanswer : answer = .store (.raised failure) late) (herror : error = .failure failure)
  | inspected (hpc : pc = .inspect ∨ ∃ held, pc = .verify held) (hanswer : answer = .raised error)
  | enabled {held : Held} (hpc : pc = .enable held) (hanswer : answer = .raised error)
  | executed {held : Held} (hpc : pc = .execute held) (hanswer : answer = .raised error)
      (herror : error = .cancelledError)

theorem took_of_resume (h : resume ids key args pc answer = some resumed)
    (hcarried : resumed.next.carried = some error) :
    pc.carried = some error ∨ Took pc answer error := by
  cases pc with
  | recovering frame =>
      obtain ⟨⟨next, unlock⟩, hnext, rfl⟩ := Option.map_eq_some_iff.mp h
      cases next with
      | raised found =>
          obtain rfl : found = error := Option.some.inj hcarried
          obtain ⟨failure, late, hanswer, herror⟩ := Recovery.raised_of_resume hnext
          exact .inr (.store rfl hanswer herror)
      | _ => cases hcarried
  | inspect =>
      simp only [resume] at h
      split at h <;> cases h
      · cases hcarried
      · cases hcarried
        exact .inr (.inspected (.inl rfl) rfl)
  | acquire current =>
      simp only [resume] at h
      split at h
      · split at h <;> cases h <;> cases hcarried
      · split at h <;> cases h <;> cases hcarried
      · cases h
  | enable held =>
      simp only [resume] at h
      split at h
      · split at h <;> cases h <;> cases hcarried
      · cases h
        cases hcarried
        exact .inr (.enabled rfl rfl)
      · cases h
  | verify held =>
      simp only [resume] at h
      split at h
      · split at h <;> cases h <;> cases hcarried
      · cases h
        cases hcarried
        exact .inr (.inspected (.inr ⟨held, rfl⟩) rfl)
      · cases h
  | execute held =>
      simp only [resume] at h
      split at h <;> cases h
      · cases hcarried
      next found =>
        cases found with
        | cancelledError =>
            cases hcarried
            exact .inr (.executed rfl rfl rfl)
        | _ => cases hcarried
  | restore held work watch =>
      obtain ⟨outcome, -, rfl⟩ := Option.map_eq_some_iff.mp h
      left
      cases outcome <;> exact hcarried
  | restoreVerify held work watch =>
      obtain ⟨outcome, -, rfl⟩ := Option.map_eq_some_iff.mp h
      exact .inl hcarried
  | release held work outcome watch =>
      left
      simp only [resume] at h
      split at h <;> cases h <;> exact carried_afterCleanup.symm.trans hcarried
  | finished => cases h
  | _ =>
      simp only [resume] at h
      split at h <;> cases h <;> cases hcarried

end Lifecycle

end Carrying

namespace FireConnect

section Causes

-- The connector whose statuses the operation reads.
def connectorOf : Await → Option String
  | .inspect key => some key.2
  | .enable key _ _ => some key.2
  | .disable key => some key.2
  | _ => none

def Response.Sound (connectorId : String) : Response → Prop
  | .plain _ => True
  | .reading seen => seen.Sound connectorId
  | .mutation change _ => change.previous.Sound connectorId ∧ change.after.Sound connectorId

-- The statuses that the executable answers with can be read.
def SoundAt (w : World) : Happening → Prop
  | .answer id ids response =>
      ∀ await ∈ w.awaited id ids, ∀ connectorId ∈ connectorOf await, response.Sound connectorId
  | _ => True

-- The reasons for which enabling raises an exception although all statuses are sound.
inductive Mutation.Excuses (mutation : Mutation) (connectorId : String) (error : Raised) : Prop
  | refused (h : mutation.refusal = some error)
  | unsupported (h : connectorToHarness connectorId = none)
      (herror : error = (Failure.managerError
        ("route_not_supported for connector " ++ Value.quote connectorId)).toRaised)
  | uninstalled (h : mutation.installed = false)
      (herror : error = (Failure.managerError "FireConnect is not installed").toRaised)
  | command (h : mutation.command = .unstarted error)
  | status (h : .unstarted error ∈ mutation.previous.outputs ∨
      .unstarted error ∈ mutation.after.outputs)

-- What a happening can give a call an exception by, but for statuses that cannot be
-- read: a cancellation, a store call that raises it, or a call of the executable that
-- is refused or not started.
inductive Gives (w : World) (id : CallId) (key : Key) (error : Raised) : Happening → Prop
  | cancelled (herror : error = .cancelledError) : Gives w id key error (.other (.cancel id))
  | lost {ids : Ids} {response : Response} (herror : error = .cancelledError) :
      Gives w id key error (.lose id ids response)
  | store {ids : Ids} {choice : Choice} {call : LeaseCall} {failure : StoreFailure}
      (hawait : w.awaited id ids = some (.store call))
      (hraised : (w.shared.store.respond ⟨w.shared.clock, call⟩).1 = .raised failure)
      (herror : error = .failure failure) : Gives w id key error (.answer id ids (.plain choice))
  | read {ids : Ids} {reading : Reading} (hawait : w.awaited id ids = some (.inspect key))
      (hunstarted : .unstarted error ∈ reading.outputs) :
      Gives w id key error (.answer id ids (.reading reading))
  | enabled {ids : Ids} {mutation : Mutation} {route : RouteState} {modelId approval : Option String}
      (hawait : w.awaited id ids = some (.enable key modelId approval))
      (hexcuse : mutation.Excuses key.2 error) :
      Gives w id key error (.answer id ids (.mutation mutation route))

variable {texts : Texts} {connectorId : String} {mutation : Mutation} {error : Raised}

theorem excused_of_enableRoute (hprevious : mutation.previous.Sound connectorId)
    (hafter : mutation.after.Sound connectorId)
    (h : enableRoute texts connectorId mutation = .error error) :
    mutation.Excuses connectorId error := by
  unfold enableRoute mutateRoute at h
  cases hrefusal : mutation.refusal with
  | some found =>
      rw [hrefusal] at h
      cases h
      exact .refused hrefusal
  | none =>
      rw [hrefusal] at h
      by_cases hharness : connectorToHarness connectorId = none
      · simp only [hharness, if_true] at h
        cases h
        exact .unsupported hharness rfl
      · cases hinstalled : mutation.installed with
        | false =>
            simp only [hharness, hinstalled] at h
            cases h
            exact .uninstalled hinstalled rfl
        | true =>
            simp only [hharness, hinstalled, Bool.not_true, Bool.false_eq_true, if_false] at h
            cases hread : inspectRoute texts connectorId mutation.previous with
            | error found =>
                rw [hread] at h
                cases h
                exact .status (.inl (unstarted_of_inspectRoute hprevious hread))
            | ok previous =>
                cases hcommand : mutation.command with
                | unstarted found =>
                    rw [hread, hcommand] at h
                    cases h
                    exact .command hcommand
                | _ =>
                    -- Both other commands are followed by a reading, which has raised it.
                    cases hlast : inspectRoute texts connectorId mutation.after with
                    | ok last => simp [hread, hcommand, verifyRoute, hlast, bind, Except.bind, pure,
                        Except.pure] at h
                    | error found =>
                        obtain rfl : found = error := by
                          simpa [hread, hcommand, verifyRoute, hlast, bind, Except.bind] using h
                        exact .status (.inr (unstarted_of_inspectRoute hafter hlast))

variable {s t : Shared} {process : Nat} {await : Await} {response : Response} {chosen : Choice}
  {key : Key}

-- What the manager raises to an inspection is what inspect_route raises.
theorem inspectRoute_of_raised (hkey : key.1 = managerId)
    (hchoice : choice texts (.inspect key) response = some chosen)
    (hperform : s.perform process (.inspect key) chosen = some (.raised error, t)) :
    ∃ reading, response = .reading reading ∧ inspectRoute texts key.2 reading = .error error := by
  cases response with
  | plain other => simp [choice, manages, hkey] at hchoice
  | mutation => cases hchoice
  | reading reading =>
      simp only [choice, if_pos hkey] at hchoice
      split at hchoice
      next route hroute =>
        cases hchoice
        cases hperform
      next found hfound =>
        cases hchoice
        simp only [Shared.perform, Shared.failed] at hperform
        split at hperform <;> cases hperform
        exact ⟨reading, rfl, hfound⟩

theorem enableRoute_of_raised {modelId approval : Option String} (hkey : key.1 = managerId)
    (hchoice : choice texts (.enable key modelId approval) response = some chosen)
    (hperform : s.perform process (.enable key modelId approval) chosen = some (.raised error, t)) :
    ∃ mutation route, response = .mutation mutation route ∧
      enableRoute texts key.2 mutation = .error error := by
  cases response with
  | plain other => simp [choice, manages, hkey] at hchoice
  | reading => cases hchoice
  | mutation mutation route =>
      simp only [choice, if_pos hkey, Option.some.injEq] at hchoice
      subst hchoice
      cases henabled : enableRoute texts key.2 mutation with
      | ok result =>
          rw [henabled] at hperform
          cases hperform
      | error found =>
          rw [henabled] at hperform
          simp only [mutated, Shared.perform, Shared.failed] at hperform
          split at hperform <;> cases hperform
          exact ⟨mutation, route, rfl, henabled⟩

theorem respond_of_raised {failure : StoreFailure} {late : Bool}
    (hperform : s.perform process await chosen = some (.store (.raised failure) late, t)) :
    ∃ call, await = .store call ∧ (s.store.respond ⟨s.clock, call⟩).1 = .raised failure := by
  have hfailed : ∀ {key : Key} {route : Option RouteState} {found : Raised},
      s.failed key route found ≠ some (.store (.raised failure) late, t) := by
    intro key route found
    unfold Shared.failed
    split <;> nofun
  unfold Shared.perform at hperform
  split at hperform
  · simp only [Option.some.injEq, Prod.mk.injEq, Answer.store.injEq] at hperform
    exact ⟨_, rfl, hperform.1.1⟩
  · simp only [Option.some.injEq, Prod.mk.injEq, Answer.store.injEq] at hperform
    exact ⟨_, rfl, hperform.1.1⟩
  · split at hperform <;> cases hperform
  · split at hperform <;> cases hperform
  all_goals first | cases hperform | exact absurd hperform hfailed | skip
  split at hperform <;> cases hperform

end Causes

section Runs

variable {texts : Texts} {w next : World} {id : CallId} {key : Key} {error : Raised}
  {happening : Happening} {mover : CallId} {call : Call} {shared : Shared} {resumed : Resumed Task}

-- The call is a lifecycle of the key that will end with the exception.
def Carries (id : CallId) (key : Key) (error : Raised) (w : World) : Prop :=
  ∃ call args pc, w.calls id = some call ∧ call.task = .lifecycle key args pc ∧
    pc.carried = some error

theorem carries_put (h : Carries id key error (w.put mover call shared resumed)) :
    Carries id key error w ∨ id = mover ∧ ∃ args pc, resumed.next = .lifecycle key args pc ∧
      pc.carried = some error := by
  obtain ⟨found, args, pc, hfound, htask, hcarried⟩ := h
  by_cases he : id = mover
  · subst he
    rw [World.put_self, Option.some.injEq] at hfound
    subst hfound
    exact .inr ⟨rfl, args, pc, htask, hcarried⟩
  · rw [World.put_other w call shared resumed he] at hfound
    exact .inl ⟨found, args, pc, hfound, htask, hcarried⟩

theorem carries_cancel (hcancel : call.task.cancel = some resumed)
    (h : Carries id key error (w.put mover call shared resumed)) :
    Carries id key error w ∨ id = mover ∧ error = .cancelledError := by
  refine (carries_put h).imp_right fun ⟨hid, args, pc, hnext, hcarried⟩ => ⟨hid, ?_⟩
  cases htask : call.task with
  | lifecycle other args' before =>
      rw [htask] at hcancel
      obtain ⟨after, hafter, rfl⟩ := Option.map_eq_some_iff.mp hcancel
      cases hnext
      exact Option.some.inj (hcarried.symm.trans (Lifecycle.carried_cancel hafter))
  | serialised =>
      rw [htask] at hcancel
      obtain ⟨after, -, rfl⟩ := Option.map_eq_some_iff.mp hcancel
      cases hnext
  | recovery =>
      rw [htask] at hcancel
      cases hcancel
      cases hnext
  | recovered =>
      rw [htask] at hcancel
      cases hcancel

theorem gives_of_took {args : LifecycleArgs} {pc : LifecyclePc} {ids : Ids} {response : Response}
    {chosen : Choice} {await : Await} {answer : Answer} (hkey : key.1 = managerId)
    (hawaited : w.awaited id ids = some await)
    (hawait : Lifecycle.await ids key args pc = some await)
    (hchoice : choice texts await response = some chosen)
    (hperform : w.shared.perform call.process await chosen = some (answer, shared))
    (hsound : SoundAt w (.answer id ids response)) (h : Lifecycle.Took pc answer error) :
    Gives w id key error (.answer id ids response) := by
  have hsound := hsound await hawaited
  cases h with
  | store hpc hanswer herror =>
      subst hanswer
      obtain ⟨stored, rfl, hraised⟩ := respond_of_raised hperform
      cases response with
      | plain => exact .store hawaited hraised herror
      | _ => cases hchoice
  | inspected hpc hanswer =>
      subst hanswer
      obtain rfl : await = .inspect key := by
        rcases hpc with rfl | ⟨held, rfl⟩ <;> exact (Option.some.inj hawait).symm
      obtain ⟨reading, rfl, hraised⟩ := inspectRoute_of_raised hkey hchoice hperform
      exact .read hawaited (unstarted_of_inspectRoute (hsound key.2 rfl) hraised)
  | enabled hpc hanswer =>
      subst hpc hanswer
      obtain rfl := Option.some.inj hawait
      obtain ⟨mutation, route, rfl, hraised⟩ := enableRoute_of_raised hkey hchoice hperform
      obtain ⟨hprevious, hafter⟩ := hsound key.2 rfl
      exact .enabled hawaited (excused_of_enableRoute hprevious hafter hraised)
  | executed hpc hanswer herror =>
      subst hpc hanswer herror
      obtain rfl := Option.some.inj hawait
      -- The awaited execution raises no cancellation of its own.
      cases chosen with
      | raised route found =>
          cases route with
          | some => cases hperform
          | none =>
              simp only [Shared.perform] at hperform
              split at hperform <;> cases hperform
              next hne => exact absurd rfl hne
      | _ => cases hperform

theorem gives_of_step (hkey : key.1 = managerId) (hsound : SoundAt w happening)
    (hstep : step texts w happening = some next) (hbefore : ¬Carries id key error w)
    (h : Carries id key error next) : Gives w id key error happening := by
  obtain ⟨label, hlabel, hstep⟩ := Option.bind_eq_some_iff.mp hstep
  have hmoved := World.step_cases hstep
  cases happening with
  | answer mover ids response =>
      obtain ⟨await, hawaited, hrest⟩ := Option.bind_eq_some_iff.mp hlabel
      obtain ⟨chosen, hchoice, he⟩ := Option.bind_eq_some_iff.mp hrest
      obtain rfl := Option.some.inj he
      cases hmoved with
      | @answer _ call _ _ found answer shared resumed hcall hlive hawait hperform hresume =>
          obtain rfl := Option.some.inj
            (hawaited.symm.trans ((World.awaited_of_call hcall hlive).trans hawait))
          obtain ⟨rfl, args, pc, hnext, hcarried⟩ := (carries_put h).resolve_left hbefore
          obtain ⟨args', before, htask, -⟩ :=
            Task.lifecycle_of_resume hresume (hnext ▸ Task.lifecycleOn_self key args pc)
          rw [htask] at hresume hawait
          obtain ⟨after, hafter, rfl⟩ := Option.map_eq_some_iff.mp hresume
          cases hnext
          rcases Lifecycle.took_of_resume hafter hcarried with hcarried | htook
          · exact absurd ⟨call, args, before, hcall, htask, hcarried⟩ hbefore
          · exact gives_of_took hkey hawaited hawait hchoice hperform hsound htook
  | lose mover ids response =>
      obtain ⟨await, -, hrest⟩ := Option.bind_eq_some_iff.mp hlabel
      obtain ⟨chosen, -, he⟩ := Option.bind_eq_some_iff.mp hrest
      obtain rfl := Option.some.inj he
      cases hmoved with
      | lose hcall hlive hawait hperform hopen hcancel =>
          obtain ⟨rfl, herror⟩ := (carries_cancel hcancel h).resolve_left hbefore
          exact .lost herror
  | other plain =>
      cases plain with
      | answer => cases hlabel
      | lose => cases hlabel
      | cancel =>
          cases hlabel
          cases hmoved with
          | cancel hcall hlive hcancel =>
              obtain ⟨rfl, herror⟩ := (carries_cancel hcancel h).resolve_left hbefore
              exact .cancelled herror
      | start started process entry =>
          cases hlabel
          cases hmoved
          obtain ⟨call, args, pc, hcall, htask, hcarried⟩ := h
          dsimp only at hcall
          by_cases he : id = started
          · subst he
            rw [Function.update_self, Option.some.injEq] at hcall
            subst hcall
            cases entry <;> cases htask
            cases hcarried
          · rw [Function.update_of_ne he] at hcall
            exact absurd ⟨call, args, pc, hcall, htask, hcarried⟩ hbefore
      | crash process =>
          cases hlabel
          cases hmoved
          obtain ⟨call, args, pc, hcall, htask, hcarried⟩ := h
          obtain ⟨found, hfound, rfl⟩ := Option.map_eq_some_iff.mp hcall
          refine absurd ⟨found, args, pc, hfound, ?_, hcarried⟩ hbefore
          split at htask <;> exact htask
      | tick =>
          cases hlabel
          cases hmoved
          exact absurd h hbefore
      | clearBlock =>
          cases hlabel
          cases hmoved
          exact absurd h hbefore

-- A lifecycle that ends with an exception was given it by something else than a
-- status that cannot be read.
def Unharmed (texts : Texts) (routes : Key → RouteState) (happenings : List Happening)
    (w : World) : Prop :=
  ∀ id call key args error, w.calls id = some call → key.1 = managerId →
    call.task = .lifecycle key args (.finished (.raised error)) →
    ∃ before happening after u, happenings = before ++ happening :: after ∧
      run (step texts) (World.initial routes) before = some u ∧ Gives u id key error happening

theorem unharmed {routes : Key → RouteState} {happenings : List Happening}
    (hsound : Along (step texts) SoundAt (World.initial routes) happenings)
    (hrun : run (step texts) (World.initial routes) happenings = some w) :
    Unharmed texts routes happenings w := by
  intro id call key args error hcall hkey htask
  have hcarries : Carries id key error w := ⟨call, args, _, hcall, htask, rfl⟩
  have hinitial : ¬Carries id key error (World.initial routes) := by
    rintro ⟨found, args, pc, hfound, -⟩
    cases hfound
  obtain ⟨before, happening, after, u, v, rfl, hbefore, hstep, hnot, hturned⟩ :=
    run_turns hrun hcarries hinitial
  have hat := (hsound.append_right hbefore).1
  exact ⟨before, happening, after, u, rfl, hbefore, gives_of_step hkey hat hstep hnot hturned⟩

def RunsUnharmed (texts : Texts) : Prop :=
  ∀ routes happenings w, Along (step texts) SoundAt (World.initial routes) happenings →
    run (step texts) (World.initial routes) happenings = some w → Unharmed texts routes happenings w

-- An inspection returns exactly where every field it reads is of the kind it is read
-- as, and lifecycles whose statuses are so are not ended by a status.
theorem inspection_total_iff (texts : Texts) (loader : Loader) :
    (∀ printed : Printed, (∃ auth, inspectAuth texts (printed.reading loader).auth = .ok auth) ↔
      ∀ output ∈ (printed.reading loader).auth, output.Sound authSound) ∧
    (∀ connectorId (printed : Printed),
      (∃ route, inspectRoute texts connectorId (printed.reading loader) = .ok route) ↔
        (printed.reading loader).Sound connectorId) ∧
    RunsUnharmed texts :=
  ⟨fun _ => printed_auth_iff, fun _ _ => printed_route_iff, fun _ _ _ => unharmed⟩

end Runs

section Samples

def bytes (s : String) : List UInt8 := (points s).map UInt8.ofNat

def plainLoader : Loader where
  limits := { depth := 900 }
  floatText literal := String.ofList (literal.map Char.ofNat)

-- A status whose key source is a list.
def listedSource : Exited where
  returncode := 0
  stdout := bytes "\x7b\"activeKeySource\": []\x7d"

def listedPrint : Printed where
  auth := some listedSource
  status := { returncode := 0, stdout := bytes "\x7b\x7d" }
  global := none

def unredacted : Texts where
  redactDiagnostics := id
  lower := id

-- One lifecycle up to its first inspection.
def lifecyclePrinting (loader : Loader) (printed : Printed) : List Happening :=
  .other (.start 0 0 (.lifecycle openCode { owner := "first" })) ::
    List.map (.answer 0 ⟨"first", "first"⟩)
      [.plain .plain, .plain .plain, .plain .plain, .reading (printed.reading loader)]

-- The list is looked up in a set, and the lifecycle ends with the exception.
theorem listed_source_raises :
    inspectAuth unredacted (listedPrint.reading plainLoader).auth = .error typeError ∧
    inspectRoute unredacted "opencode" (listedPrint.reading plainLoader) = .error typeError ∧
    (run (step unredacted) (World.initial fireConnect.disable)
      (lifecyclePrinting plainLoader listedPrint)).map (fun w => (w.calls 0).map Call.task) =
        some (some (.lifecycle openCode { owner := "first" } (.finished (.raised typeError)))) := by
  decide +kernel

end Samples

end FireConnect

end JoyMesh.ProviderRoutes
