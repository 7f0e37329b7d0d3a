import JoyMesh.ProviderRoutes.Knowledge

namespace JoyMesh.ProviderRoutes

-- A route manager whose operations are atomic and succeed: enabling turns the
-- route of a connector on, for a chosen model or one of its own; disabling
-- leaves the one state of a connector that is not routed.
structure Manager where
  providerId : String
  enable : Key → Option String → RouteState → RouteState
  disable : Key → RouteState
  enabled_enable : ∀ key model route, (enable key model route).enabled = true
  provider_enable : ∀ key model route, (enable key model route).providerId = providerId
  model_enable : ∀ key model route, model ≠ "" →
    modelMatches (enable key (some model) route).modelId (some model) = true
  enabled_disable : ∀ key, (disable key).enabled = false

-- The model that enable_route takes: its own argument, else that of the approval.
def chosenModel (modelId approvalModelId : Option String) : Option String :=
  match modelId.filter (· ≠ "") with
  | some model => some model
  | none => approvalModelId.filter (· ≠ "")

theorem chosenModel_some {model : String} (hne : model ≠ "") (approval : Option String) :
    chosenModel (some model) approval = some model := by
  simp [chosenModel, Option.filter, hne]

namespace Manager

-- Restoring the reading of this state brings the state back: the route is off,
-- or it is on with a model that stands for it.
def Restorable (manager : Manager) (key : Key) (route : RouteState) : Prop :=
  route = manager.disable key ∨
  ∃ model, model ≠ "" ∧ route.enabled = true ∧ route.modelId = some model ∧
    ∀ before, manager.enable key (some model) before = route

-- The operation on this key is done as the manager promises it.
def Succeeds (manager : Manager) (key : Key) (s : Shared) : Await → Choice → Prop
  | .inspect asked, .reading reading => asked = key → reading.state = s.routes key
  | .inspect asked, _ => asked ≠ key
  | .enable asked modelId approvalModelId, .mutated route result =>
      asked = key → result.ok = true ∧
        route = manager.enable key (chosenModel modelId approvalModelId) (s.routes key)
  | .enable asked _ _, _ => asked ≠ key
  | .disable asked, .mutated route result =>
      asked = key → result.ok = true ∧ route = manager.disable key
  | .disable asked, _ => asked ≠ key
  | _, _ => True

instance {manager : Manager} {key : Key} {s : Shared} {await : Await} {choice : Choice} :
    Decidable (manager.Succeeds key s await choice) := by
  unfold Succeeds
  split <;> infer_instance

-- An enabling of this key that answers ok leaves the route that the manager promises.
def Keeps (manager : Manager) (key : Key) (s : Shared) : Await → Choice → Prop
  | .enable asked modelId approvalModelId, .mutated route result =>
      asked = key → result.ok = true →
        route = manager.enable key (chosenModel modelId approvalModelId) (s.routes key)
  | _, _ => True

instance {manager : Manager} {key : Key} {s : Shared} {await : Await} {choice : Choice} :
    Decidable (manager.Keeps key s await choice) := by
  unfold Keeps
  split <;> infer_instance

theorem Succeeds.keeps {manager : Manager} {key : Key} {s : Shared} {await : Await} {choice : Choice}
    (h : manager.Succeeds key s await choice) : manager.Keeps key s await choice := by
  unfold Keeps
  split
  · exact fun he _ => (h he).2
  · trivial

-- An enabling whose answer is heard as ok left the promised route.
theorem Keeps.enabled {manager : Manager} {key : Key} {s t : Shared} {process : Nat}
    {modelId approvalModelId : Option String} {choice : Choice} {result : MutationResult}
    (h : manager.Keeps key s (.enable key modelId approvalModelId) choice)
    (hperform : s.perform process (.enable key modelId approvalModelId) choice =
      some (.mutated result, t)) (hok : result.ok = true) :
    t.routes key = manager.enable key (chosenModel modelId approvalModelId) (s.routes key) := by
  cases choice with
  | mutated route answered =>
      cases hperform
      exact (Function.update_self ..).trans (h rfl hok)
  | raised route error =>
      simp only [Shared.perform, Shared.failed] at hperform
      split at hperform <;> cases hperform
  | _ => cases hperform

end Manager

namespace Task

def lifecycleOn (key : Key) : Task → Option LifecyclePc
  | lifecycle other _ pc => if other = key then some pc else none
  | _ => none

def serialisedOn (key : Key) : Task → Bool
  | serialised other _ _ => other = key
  | _ => false

variable {key : Key} {ids : Ids} {task : Task} {answer : Answer} {resumed : Resumed Task}
  {pc : LifecyclePc}

theorem lifecycleOn_self (key : Key) (args : LifecycleArgs) (pc : LifecyclePc) :
    (lifecycle key args pc).lifecycleOn key = some pc := if_pos rfl

theorem lifecycleOn_eq_some (h : task.lifecycleOn key = some pc) :
    ∃ args, task = .lifecycle key args pc := by
  cases task with
  | lifecycle other args pc' =>
      simp only [lifecycleOn] at h
      split at h
      next he =>
        cases h
        exact ⟨args, he ▸ rfl⟩
      next => cases h
  | _ => cases h

theorem lifecycle_of_resume (h : task.resume ids answer = some resumed)
    (hpc : resumed.next.lifecycleOn key = some pc) :
    ∃ args before, task = .lifecycle key args before ∧ Lifecycle.Goes ids args before answer pc := by
  obtain ⟨args, hnext⟩ := lifecycleOn_eq_some hpc
  cases task with
  | lifecycle other args' before =>
      obtain ⟨next, hgoes, rfl⟩ := Option.map_eq_some_iff.mp h
      cases hnext
      exact ⟨args, before, rfl, Lifecycle.goes_of_resume hgoes⟩
  | serialised =>
      obtain ⟨next, -, rfl⟩ := Option.map_eq_some_iff.mp h
      cases hnext
  | recovery =>
      obtain ⟨⟨next, unlock⟩, -, rfl⟩ := Option.map_eq_some_iff.mp h
      cases next <;> cases hnext
  | recovered => cases h

theorem lifecycle_of_cancel (h : task.cancel = some resumed)
    (hpc : resumed.next.lifecycleOn key = some pc) :
    ∃ args before, task = .lifecycle key args before ∧ Lifecycle.Cancelled before pc := by
  obtain ⟨args, hnext⟩ := lifecycleOn_eq_some hpc
  cases task with
  | lifecycle other args' before =>
      obtain ⟨next, hcancel, rfl⟩ := Option.map_eq_some_iff.mp h
      cases hnext
      exact ⟨args, before, rfl, Lifecycle.cancelled_of_cancel hcancel⟩
  | serialised =>
      obtain ⟨next, -, rfl⟩ := Option.map_eq_some_iff.mp h
      cases hnext
  | recovery =>
      cases h
      cases hnext
  | recovered => cases h

-- A lifecycle stays one under its key and arguments.
theorem lifecycle_resume {args : LifecycleArgs}
    (h : (lifecycle key args pc).resume ids answer = some resumed) :
    ∃ after, resumed.next = .lifecycle key args after ∧ Lifecycle.Goes ids args pc answer after := by
  obtain ⟨next, hgoes, rfl⟩ := Option.map_eq_some_iff.mp h
  exact ⟨next.next, rfl, Lifecycle.goes_of_resume hgoes⟩

theorem lifecycle_cancel {args : LifecycleArgs}
    (h : (lifecycle key args pc).cancel = some resumed) :
    ∃ after, resumed.next = .lifecycle key args after ∧ Lifecycle.Cancelled pc after := by
  obtain ⟨next, hcancel, rfl⟩ := Option.map_eq_some_iff.mp h
  exact ⟨next.next, rfl, Lifecycle.cancelled_of_cancel hcancel⟩

theorem serialisedOn_resume (h : task.resume ids answer = some resumed) :
    resumed.next.serialisedOn key = task.serialisedOn key := by
  cases task with
  | recovery =>
      obtain ⟨⟨next, unlock⟩, -, rfl⟩ := Option.map_eq_some_iff.mp h
      cases next <;> rfl
  | recovered => cases h
  | _ =>
      obtain ⟨next, -, rfl⟩ := Option.map_eq_some_iff.mp h
      rfl

theorem serialisedOn_cancel (h : task.cancel = some resumed) :
    resumed.next.serialisedOn key = task.serialisedOn key := by
  cases task with
  | recovery =>
      cases h
      rfl
  | recovered => cases h
  | _ =>
      obtain ⟨next, -, rfl⟩ := Option.map_eq_some_iff.mp h
      rfl

end Task

namespace World

-- The operation that a call awaits.
def awaited (w : World) (id : CallId) (ids : Ids) : Option Await :=
  (w.live id).bind fun call => call.task.await ids

theorem live_of_call {w : World} {id : CallId} {call : Call} (hcall : w.calls id = some call)
    (hlive : call.crashed = false) : w.live id = some call := by
  simp [live, hcall, hlive, Option.filter]

theorem awaited_of_call {w : World} {id : CallId} {call : Call} {ids : Ids}
    (hcall : w.calls id = some call) (hlive : call.crashed = false) :
    w.awaited id ids = call.task.await ids := by
  rw [awaited, live_of_call hcall hlive]
  rfl

-- The manager succeeds on the key, and no serialised mutation of it is started.
def Serves (manager : Manager) (key : Key) (w : World) : Label → Prop
  | .answer id ids choice => ∀ await ∈ w.awaited id ids, manager.Succeeds key w.shared await choice
  | .lose id ids choice => ∀ await ∈ w.awaited id ids, manager.Succeeds key w.shared await choice
  | .start _ _ entry => entry.task.serialisedOn key = false
  | _ => True

instance {manager : Manager} {key : Key} {w : World} :
    ∀ label, Decidable (w.Serves manager key label)
  | .answer id ids choice | .lose id ids choice =>
      inferInstanceAs (Decidable (∀ await ∈ w.awaited id ids, manager.Succeeds key w.shared await choice))
  | .start _ _ entry => inferInstanceAs (Decidable (entry.task.serialisedOn key = false))
  | .cancel _ | .crash _ | .tick _ | .clearBlock _ => .isTrue trivial

-- What an enabling of the key that answers ok promises is kept, whatever else the
-- manager does, and no serialised mutation of the key is started.
def Promises (manager : Manager) (key : Key) (w : World) : Label → Prop
  | .answer id ids choice => ∀ await ∈ w.awaited id ids, manager.Keeps key w.shared await choice
  | .start _ _ entry => entry.task.serialisedOn key = false
  | _ => True

instance {manager : Manager} {key : Key} {w : World} :
    ∀ label, Decidable (w.Promises manager key label)
  | .answer id ids choice =>
      inferInstanceAs (Decidable (∀ await ∈ w.awaited id ids, manager.Keeps key w.shared await choice))
  | .start _ _ entry => inferInstanceAs (Decidable (entry.task.serialisedOn key = false))
  | .lose _ _ _ | .cancel _ | .crash _ | .tick _ | .clearBlock _ => .isTrue trivial

theorem Serves.promises {manager : Manager} {key : Key} {w : World} {label : Label}
    (h : w.Serves manager key label) : w.Promises manager key label := by
  cases label with
  | answer id ids choice => exact fun await hawait => (h await hawait).keeps
  | start => exact h
  | _ => trivial

end World

namespace Manager

-- What an operation that succeeds does to the route of the key.
inductive Served (manager : Manager) (key : Key) (s t : Shared) : Await → Answer → Prop
  | read {reading : ProviderRoute} (hstate : reading.state = s.routes key) (hsame : t.view = s.view) :
      Served manager key s t (.inspect key) (.route reading)
  | enabled {modelId approvalModelId : Option String} {result : MutationResult}
      (hok : result.ok = true) (hstore : t.store = s.store)
      (hroute : t.routes key =
        manager.enable key (chosenModel modelId approvalModelId) (s.routes key)) :
      Served manager key s t (.enable key modelId approvalModelId) (.mutated result)
  | disabled {result : MutationResult} (hok : result.ok = true) (hstore : t.store = s.store)
      (hroute : t.routes key = manager.disable key) :
      Served manager key s t (.disable key) (.mutated result)
  | mutated {answer : Answer} : Served manager key s t (.mutate key) answer
  | aside {await : Await} {answer : Answer} (hawait : await.mutates ≠ some key)
      (hread : await ≠ .inspect key) (hroute : t.routes key = s.routes key) :
      Served manager key s t await answer

variable {manager : Manager} {key : Key} {s t : Shared} {await : Await} {choice : Choice}
  {answer : Answer} {process : Nat}

theorem routes_of_performed (h : Shared.Performed s await answer t)
    (hother : await.mutates ≠ some key) : t.routes key = s.routes key := by
  cases h with
  | store => rfl
  | listed => rfl
  | still _ _ hview => exact congrFun (congrArg View.routes hview) key
  | moved hkey =>
      refine Function.update_of_ne (fun he => hother ?_) _ _
      rw [hkey, he]

theorem served (h : s.perform process await choice = some (answer, t))
    (hs : manager.Succeeds key s await choice) : manager.Served key s t await answer := by
  have haside : await.mutates ≠ some key → t.routes key = s.routes key :=
    routes_of_performed (Shared.performed h)
  cases await with
  | inspect asked =>
      by_cases he : asked = key
      · subst he
        cases choice with
        | reading reading =>
            cases h
            exact .read (hs rfl) rfl
        | _ => exact absurd rfl hs
      · exact .aside nofun (fun hi => he (Await.inspect.inj hi)) (haside nofun)
  | enable asked modelId approvalModelId =>
      by_cases he : asked = key
      · subst he
        cases choice with
        | mutated route result =>
            cases h
            exact .enabled (hs rfl).1 rfl ((Function.update_self ..).trans (hs rfl).2)
        | _ => exact absurd rfl hs
      · have hne : (Await.enable asked modelId approvalModelId).mutates ≠ some key :=
          fun hk => he (Option.some.inj hk)
        exact .aside hne nofun (haside hne)
  | disable asked =>
      by_cases he : asked = key
      · subst he
        cases choice with
        | mutated route result =>
            cases h
            exact .disabled (hs rfl).1 rfl ((Function.update_self ..).trans (hs rfl).2)
        | _ => exact absurd rfl hs
      · have hne : (Await.disable asked).mutates ≠ some key := fun hk => he (Option.some.inj hk)
        exact .aside hne nofun (haside hne)
  | mutate asked =>
      by_cases he : asked = key
      · subst he
        exact .mutated
      · have hne : (Await.mutate asked).mutates ≠ some key := fun hk => he (Option.some.inj hk)
        exact .aside hne nofun (haside hne)
  | _ => exact .aside nofun nofun (haside nofun)

end Manager

section Samples

def defaultModel : String := "accounts/fireworks/models/deepseek-v4-flash"

-- A route that is turned on without a model takes the default one.
def fireConnect : Manager where
  providerId := "fireworks"
  enable _ model _ := ⟨true, "fireworks", some (model.getD defaultModel)⟩
  disable _ := ⟨false, "fireworks", none⟩
  enabled_enable _ _ _ := rfl
  provider_enable _ _ _ := rfl
  model_enable _ _ _ _ := by simp [modelMatches]
  enabled_disable _ := rfl

def openCode : Key := ("fireconnect", "opencode")

def readingOf (route : RouteState) : ProviderRoute where
  state := route
  configurationStatus := "valid"
  available := true
  authenticated := true

def routeOff : RouteState := fireConnect.disable openCode

def routeOn : RouteState := fireConnect.enable openCode none routeOff

def switched (route : RouteState) : Choice := .mutated route { ok := true }

-- One lifecycle from the start to its first inspection, and from its acquisition to its end.
def opening (id process : Nat) (owner : String) : List Label :=
  [.start id process (.lifecycle openCode { owner }), .answer id ⟨owner, owner⟩ .plain,
    .answer id ⟨owner, owner⟩ .plain, .answer id ⟨owner, owner⟩ .plain]

def answers (id : Nat) (owner : String) (choices : List Choice) : List Label :=
  choices.map fun choice => .answer id ⟨owner, owner⟩ choice

end Samples

end JoyMesh.ProviderRoutes
