import Mathlib.Logic.Function.Basic
import JoyMesh.Library.Run

namespace JoyMesh.Library

-- What the programs of a system can await: operations, each with what it answers,
-- and the exceptions that they raise.
structure Signature where
  Op : Type
  Reply : Op → Type
  Error : Type

-- A program awaits operations one after another and goes on with their answers.
inductive Program (σ : Signature) (α : Type) where
  | ended (result : Except σ.Error α)
  | await (op : σ.Op) (onward : Except σ.Error (σ.Reply op) → Program σ α)

namespace Program

variable {σ : Signature} {α β : Type}

def bind : Program σ α → (α → Program σ β) → Program σ β
  | ended (.ok value), next => next value
  | ended (.error error), _ => ended (.error error)
  | await op onward, next => await op fun answer => (onward answer).bind next

def catching : Program σ α → (σ.Error → Program σ α) → Program σ α
  | ended (.ok value), _ => ended (.ok value)
  | ended (.error error), handler => handler error
  | await op onward, handler => await op fun answer => (onward answer).catching handler

def perform (op : σ.Op) : Program σ (σ.Reply op) := await op ended

instance : Monad (Program σ) where
  pure value := ended (.ok value)
  bind := bind

instance : MonadExceptOf σ.Error (Program σ) where
  throw error := ended (.error error)
  tryCatch := catching

end Program

-- Calls of programs that share a state. A call enters where the state lets it; an
-- operation takes effect at one instant, and answers as the environment chooses.
structure System (σ : Signature) where
  Shared : Type
  Call : Type
  Choice : Type
  Outside : Type
  Result : Type
  program : Call → Program σ Result
  enter : Call → Shared → Option Shared
  effect : (op : σ.Op) → Choice → Shared → Option (Except σ.Error (σ.Reply op) × Shared)
  outside : Outside → Shared → Option Shared

namespace System

variable {σ : Signature} (S : System σ)

inductive Event where
  | entered (id : Nat) (call : S.Call)
  | did (id : Nat) (op : σ.Op) (answer : Except σ.Error (σ.Reply op))
  | left (id : Nat) (result : Except σ.Error S.Result)
  | happened (event : S.Outside)

-- The shared state with all that has happened, in order. No call reads the history.
structure State where
  shared : S.Shared
  history : List S.Event := []

structure Thread where
  call : S.Call
  program : Program σ S.Result

structure World where
  state : S.State
  threads : Nat → Option S.Thread

inductive Label where
  | start (id : Nat) (call : S.Call)
  | go (id : Nat) (choice : S.Choice)
  | outside (event : S.Outside)

variable {S}

namespace State

def note (s : S.State) (event : S.Event) (shared : S.Shared) : S.State where
  shared := shared
  history := s.history ++ [event]

-- A call leaves with the operation that ends it.
def settle (s : S.State) (id : Nat) : Program σ S.Result → S.State
  | .ended result => s.note (.left id result) s.shared
  | .await _ _ => s

@[simp] theorem note_shared (s : S.State) (event : S.Event) (shared : S.Shared) :
    (s.note event shared).shared = shared := rfl

@[simp] theorem note_history (s : S.State) (event : S.Event) (shared : S.Shared) :
    (s.note event shared).history = s.history ++ [event] := rfl

@[simp] theorem settle_shared (s : S.State) (id : Nat) (program : Program σ S.Result) :
    (s.settle id program).shared = s.shared := by
  cases program <;> rfl

end State

namespace World

def initial (S : System σ) (shared : S.Shared) : S.World where
  state := { shared := shared }
  threads _ := none

def put (w : S.World) (id : Nat) (thread : S.Thread) (state : S.State) : S.World where
  state := state.settle id thread.program
  threads := Function.update w.threads id (some thread)

@[simp] theorem put_self (w : S.World) (id : Nat) (thread : S.Thread) (state : S.State) :
    (w.put id thread state).threads id = some thread := Function.update_self ..

variable {w next : S.World} {id other : Nat} {call : S.Call} {op : σ.Op} {choice : S.Choice}

theorem put_other (w : S.World) (thread : S.Thread) (state : S.State) (h : other ≠ id) :
    (w.put id thread state).threads other = w.threads other :=
  Function.update_of_ne h ..

theorem put_cases {thread moved : S.Thread} {state : S.State}
    (h : (w.put id thread state).threads other = some moved) :
    (other = id ∧ moved = thread) ∨ (other ≠ id ∧ w.threads other = some moved) := by
  by_cases hother : other = id
  · rw [hother, put_self, Option.some.injEq] at h
    exact .inl ⟨hother, h.symm⟩
  · exact .inr ⟨hother, put_other w thread state hother ▸ h⟩

@[simp] theorem put_shared (w : S.World) (id : Nat) (thread : S.Thread) (state : S.State) :
    (w.put id thread state).state.shared = state.shared := State.settle_shared ..

def go (w : S.World) (id : Nat) (choice : S.Choice) (thread : S.Thread) : Option S.World :=
  match thread.program with
  | .ended _ => none
  | .await op onward =>
      (S.effect op choice w.state.shared).map fun (answer, shared) =>
        w.put id { thread with program := onward answer }
          (w.state.note (.did id op answer) shared)

def step (w : S.World) : S.Label → Option S.World
  | .start id call =>
      match w.threads id with
      | some _ => none
      | none =>
          (S.enter call w.state.shared).map fun shared =>
            w.put id { call, program := S.program call } (w.state.note (.entered id call) shared)
  | .go id choice => (w.threads id).bind (w.go id choice)
  | .outside event =>
      (S.outside event w.state.shared).map fun shared =>
        { w with state := w.state.note (.happened event) shared }

-- What a call that has not ended awaits.
def awaiting (w : S.World) (id : Nat) : Option σ.Op :=
  (w.threads id).bind fun thread =>
    match thread.program with
    | .ended _ => none
    | .await op _ => some op

theorem awaiting_of_thread {onward : Except σ.Error (σ.Reply op) → Program σ S.Result}
    (h : w.threads id = some ⟨call, .await op onward⟩) : w.awaiting id = some op := by
  rw [awaiting, h]
  rfl

theorem thread_of_awaiting (h : w.awaiting id = some op) :
    ∃ call onward, w.threads id = some ⟨call, .await op onward⟩ := by
  obtain ⟨⟨call, program⟩, hthread, hop⟩ := Option.bind_eq_some_iff.mp h
  cases program with
  | ended => cases hop
  | await other onward =>
      cases hop
      exact ⟨call, onward, hthread⟩

-- How a call that has ended went.
def returned (w : S.World) (id : Nat) : Option (S.Call × Except σ.Error S.Result) :=
  (w.threads id).bind fun thread =>
    match thread.program with
    | .ended result => some (thread.call, result)
    | .await _ _ => none

theorem thread_of_returned {result : Except σ.Error S.Result}
    (h : w.returned id = some (call, result)) : w.threads id = some ⟨call, .ended result⟩ := by
  obtain ⟨⟨called, program⟩, hthread, hreturned⟩ := Option.bind_eq_some_iff.mp h
  cases program with
  | ended => cases hreturned; exact hthread
  | await => cases hreturned

inductive Step (w : S.World) : S.Label → S.World → Prop
  | start {id : Nat} {call : S.Call} {shared : S.Shared} (hnew : w.threads id = none)
      (henter : S.enter call w.state.shared = some shared) :
      Step w (.start id call)
        (w.put id { call, program := S.program call } (w.state.note (.entered id call) shared))
  | go {id : Nat} {choice : S.Choice} {call : S.Call} {op : σ.Op}
      {onward : Except σ.Error (σ.Reply op) → Program σ S.Result}
      {answer : Except σ.Error (σ.Reply op)} {shared : S.Shared}
      (hthread : w.threads id = some ⟨call, .await op onward⟩)
      (heffect : S.effect op choice w.state.shared = some (answer, shared)) :
      Step w (.go id choice)
        (w.put id ⟨call, onward answer⟩ (w.state.note (.did id op answer) shared))
  | outside {event : S.Outside} {shared : S.Shared}
      (hevent : S.outside event w.state.shared = some shared) :
      Step w (.outside event) { w with state := w.state.note (.happened event) shared }

theorem step_cases {label : S.Label} (h : w.step label = some next) : Step w label next := by
  cases label with
  | start id call =>
      simp only [step] at h
      split at h
      · cases h
      next hnew =>
        obtain ⟨shared, henter, rfl⟩ := Option.map_eq_some_iff.mp h
        exact .start hnew henter
  | go id choice =>
      obtain ⟨⟨call, program⟩, hthread, hgo⟩ := Option.bind_eq_some_iff.mp h
      cases program with
      | ended => cases hgo
      | await op onward =>
          obtain ⟨⟨answer, shared⟩, heffect, rfl⟩ := Option.map_eq_some_iff.mp hgo
          exact .go hthread heffect
  | outside event =>
      obtain ⟨shared, hevent, rfl⟩ := Option.map_eq_some_iff.mp h
      exact .outside hevent

theorem step_go_effect (hstep : w.step (.go id choice) = some next) :
    ∃ op answer, w.awaiting id = some op ∧
      S.effect op choice w.state.shared = some (answer, next.state.shared) := by
  cases step_cases hstep with
  | @go _ _ call op onward answer shared hthread heffect =>
      exact ⟨op, answer, awaiting_of_thread hthread, by simpa using heffect⟩

end World

-- Rely and guarantee: a call awaits only what is lawful where it stands. Under the
-- condition on it, a lawful step keeps the state good and is within what every
-- other call relies on. A call that ends leaves an assertion behind that the others
-- keep; what holds before a call has entered is kept in the same way.
structure Discipline (S : System σ) where
  good : S.State → Prop
  fresh : Nat → S.State → Prop
  rely : Nat → S.State → S.State → Prop
  lawful : Nat → σ.Op → S.State → Prop
  post : Nat → S.Call → Except σ.Error S.Result → S.State → Prop
  admitted : Nat → S.Call → S.State → Prop
  allowed : Nat → σ.Op → S.Choice → S.State → Prop
  happens : S.Outside → S.State → Prop
  rely_refl : ∀ id s, rely id s s
  rely_trans : ∀ id s t u, rely id s t → rely id t u → rely id s u
  fresh_rely : ∀ id s t, rely id s t → fresh id s → fresh id t
  post_rely : ∀ id call result s t, rely id s t → post id call result s → post id call result t
  step_good : ∀ id op choice answer s t, good s → lawful id op s → allowed id op choice s →
    S.effect op choice s.shared = some (answer, t) → good (s.note (.did id op answer) t)
  step_rely : ∀ id op choice answer other s t, id ≠ other → good s → lawful id op s →
    allowed id op choice s → S.effect op choice s.shared = some (answer, t) →
      rely other s (s.note (.did id op answer) t)
  enter_good : ∀ id call s t, good s → fresh id s → admitted id call s →
    S.enter call s.shared = some t → good (s.note (.entered id call) t)
  enter_rely : ∀ id call other s t, id ≠ other → good s → admitted id call s →
    S.enter call s.shared = some t → rely other s (s.note (.entered id call) t)
  leave_good : ∀ id call result s, good s → post id call result s →
    good (s.note (.left id result) s.shared)
  leave_rely : ∀ id call other result s, id ≠ other → good s → post id call result s →
    rely other s (s.note (.left id result) s.shared)
  leave_post : ∀ id call result s, post id call result s →
    post id call result (s.note (.left id result) s.shared)
  outside_good : ∀ event s t, good s → happens event s → S.outside event s.shared = some t →
    good (s.note (.happened event) t)
  outside_rely : ∀ event id s t, good s → happens event s → S.outside event s.shared = some t →
    rely id s (s.note (.happened event) t)

end System

namespace Program

variable {σ : Signature} {S : System σ} {α β : Type} (D : S.Discipline) (id : Nat)
  {handler : σ.Error → Program σ α} {op : σ.Op} {kind : σ.Op → Prop} {ι : Type}
  {f : ι → Program σ α}

-- From this state on, whatever the others do before each of its operations, what
-- the program awaits is lawful, and the assertion holds where it ends.
def Holds (post : Except σ.Error α → S.State → Prop) : Program σ α → S.State → Prop
  | ended result, s => post result s
  | await op onward, s => ∀ t, D.rely id s t → D.good t → D.lawful id op t ∧
      ∀ choice answer u, D.allowed id op choice t →
        S.effect op choice t.shared = some (answer, u) →
          (onward answer).Holds post (t.note (.did id op answer) u)

variable {D} {id} {post : Except σ.Error α → S.State → Prop}
  {after : Except σ.Error β → S.State → Prop} {program : Program σ α} {s t : S.State}

theorem Holds.mono {weaker : Except σ.Error α → S.State → Prop}
    (hpost : ∀ result s, post result s → weaker result s) (h : program.Holds D id post s) :
    program.Holds D id weaker s := by
  induction program generalizing s with
  | ended result => exact hpost result s h
  | await op onward ih =>
      intro t hrely hgood
      obtain ⟨hlawful, honward⟩ := h t hrely hgood
      exact ⟨hlawful, fun choice answer u hallowed heffect =>
        ih answer (honward choice answer u hallowed heffect)⟩

theorem Holds.bind {next : α → Program σ β} (h : program.Holds D id post s)
    (hvalue : ∀ value t, post (.ok value) t → (next value).Holds D id after t)
    (herror : ∀ error t, post (.error error) t → after (.error error) t) :
    (program >>= next).Holds D id after s := by
  induction program generalizing s with
  | ended result =>
      cases result with
      | error error => exact herror error s h
      | ok value => exact hvalue value s h
  | await op onward ih =>
      intro t hrely hgood
      obtain ⟨hlawful, honward⟩ := h t hrely hgood
      exact ⟨hlawful, fun choice answer u hallowed heffect =>
        ih answer (honward choice answer u hallowed heffect)⟩

theorem Holds.catching {caught : Except σ.Error α → S.State → Prop} (h : program.Holds D id post s)
    (hvalue : ∀ value t, post (.ok value) t → caught (.ok value) t)
    (herror : ∀ error t, post (.error error) t → (handler error).Holds D id caught t) :
    (program.catching handler).Holds D id caught s := by
  induction program generalizing s with
  | ended result =>
      cases result with
      | error error => exact herror error s h
      | ok value => exact hvalue value s h
  | await op onward ih =>
      intro t hrely hgood
      obtain ⟨hlawful, honward⟩ := h t hrely hgood
      exact ⟨hlawful, fun choice answer u hallowed heffect =>
        ih answer (honward choice answer u hallowed heffect)⟩

-- The rule of one operation: the program goes on with a value, and an exception ends it.
theorem Holds.perform_bind {next : σ.Reply op → Program σ β}
    (hlawful : ∀ t, D.rely id s t → D.good t → D.lawful id op t)
    (hvalue : ∀ t choice value u, D.rely id s t → D.good t → D.allowed id op choice t →
      S.effect op choice t.shared = some (.ok value, u) →
        (next value).Holds D id after (t.note (.did id op (.ok value)) u))
    (herror : ∀ t choice error u, D.rely id s t → D.good t → D.allowed id op choice t →
      S.effect op choice t.shared = some (.error error, u) →
        after (.error error) (t.note (.did id op (.error error)) u)) :
    (perform op >>= next).Holds D id after s := by
  intro t hrely hgood
  refine ⟨hlawful t hrely hgood, fun choice answer u hallowed heffect => ?_⟩
  cases answer with
  | ok value => exact hvalue t choice value u hrely hgood hallowed heffect
  | error error => exact herror t choice error u hrely hgood hallowed heffect

theorem Holds.pure {value : α} (h : post (.ok value) s) :
    (Pure.pure value : Program σ α).Holds D id post s := h

theorem Holds.throw {error : σ.Error} (h : post (.error error) s) :
    (MonadExceptOf.throw error : Program σ α).Holds D id post s := h

-- An assertion about what a program returns, where it returns.
def Yields (assertion : α → S.State → Prop) : Except σ.Error α → S.State → Prop
  | .ok value, s => assertion value s
  | .error _, _ => True

theorem Holds.yields_bind {assertion : α → S.State → Prop} {further : β → S.State → Prop}
    {next : α → Program σ β} (h : program.Holds D id (Yields assertion) s)
    (hnext : ∀ value t, assertion value t → (next value).Holds D id (Yields further) t) :
    (program >>= next).Holds D id (Yields further) s :=
  h.bind hnext fun _ _ _ => trivial

-- What the others do in between is within what the program relies on.
theorem Holds.rely (hpost : ∀ result s t, D.rely id s t → post result s → post result t)
    (hrely : D.rely id s t) (h : program.Holds D id post s) : program.Holds D id post t := by
  cases program with
  | ended result => exact hpost result s t hrely h
  | await op onward => exact fun u hu => h u (D.rely_trans id s t u hrely hu)

-- Whatever it is answered, the program awaits only operations of this kind.
def Every (kind : σ.Op → Prop) : Program σ α → Prop
  | ended _ => True
  | await op onward => kind op ∧ ∀ answer, (onward answer).Every kind

theorem Every.mono {weaker : σ.Op → Prop} (hkind : ∀ op, kind op → weaker op)
    (h : program.Every kind) : program.Every weaker := by
  induction program with
  | ended => trivial
  | await op onward ih => exact ⟨hkind op h.1, fun answer => ih answer (h.2 answer)⟩

theorem Every.of_forall (h : ∀ op, kind op) : program.Every kind := by
  induction program with
  | ended => trivial
  | await op onward ih => exact ⟨h op, ih⟩

theorem Every.bind {next : α → Program σ β} (h : program.Every kind)
    (hnext : ∀ value, (next value).Every kind) : (program >>= next).Every kind := by
  induction program with
  | ended result =>
      cases result with
      | error error => trivial
      | ok value => exact hnext value
  | await op onward ih => exact ⟨h.1, fun answer => ih answer (h.2 answer)⟩

theorem Every.catching (h : program.Every kind) (hhandler : ∀ error, (handler error).Every kind) :
    (program.catching handler).Every kind := by
  induction program with
  | ended result =>
      cases result with
      | error error => exact hhandler error
      | ok value => trivial
  | await op onward ih => exact ⟨h.1, fun answer => ih answer (h.2 answer)⟩

theorem Every.perform_bind {next : σ.Reply op → Program σ β} (hop : kind op)
    (hnext : ∀ value, (next value).Every kind) : (perform op >>= next).Every kind :=
  .bind ⟨hop, fun _ => trivial⟩ hnext

theorem Every.perform {kind : σ.Op → Prop} {op : σ.Op} (hop : kind op) :
    (perform op).Every kind := ⟨hop, fun _ => trivial⟩

theorem Every.ite {c : Prop} [Decidable c] {other : Program σ α} (h : program.Every kind)
    (hother : other.Every kind) : (if c then program else other).Every kind := by
  split
  next => exact h
  next => exact hother

theorem Every.mapM (h : ∀ item, (f item).Every kind) (items : List ι) :
    (items.mapM f).Every kind := by
  have hloop : ∀ done, (List.mapM.loop f items done).Every kind := by
    induction items with
    | nil => exact fun _ => trivial
    | cons item rest ih => exact fun done => .bind (h item) fun value => ih (value :: done)
  exact hloop []

-- What a program always awaits is all that has to be lawful where nothing is asserted.
theorem Every.holds (h : program.Every kind) (hkind : ∀ op t, kind op → D.good t → D.lawful id op t)
    (hpost : ∀ result t, post result t) : program.Holds D id post s := by
  induction program generalizing s with
  | ended result => exact hpost result s
  | await op onward ih =>
      exact fun t _ hgood => ⟨hkind op t h.1 hgood, fun answer _ _ _ _ => ih _ (h.2 _)⟩

-- What the others and every such operation keep, the program keeps.
theorem Every.keeping {kept : S.State → Prop} (h : program.Every kind)
    (hkind : ∀ op t, kind op → D.good t → kept t → D.lawful id op t)
    (hrely : ∀ s t, D.rely id s t → kept s → kept t)
    (hown : ∀ s op choice answer t, kind op → kept s → D.allowed id op choice s →
      S.effect op choice s.shared = some (answer, t) → kept (s.note (.did id op answer) t))
    (hkept : kept s) : program.Holds D id (fun _ s => kept s) s := by
  induction program generalizing s with
  | ended result => exact hkept
  | await op onward ih =>
      intro t ht hgood
      have hkept := hrely s t ht hkept
      refine ⟨hkind op t h.1 hgood hkept, fun choice answer u hallowed heffect => ?_⟩
      exact ih answer (h.2 answer) (hown t op choice answer u h.1 hkept hallowed heffect)

-- What neither the others nor such an operation of the program take away is kept.
theorem Holds.keeping_every {assertion : α → S.State → Prop} {kept : S.State → Prop}
    (hevery : program.Every kind) (hrely : ∀ s t, D.rely id s t → kept s → kept t)
    (hown : ∀ s op answer t, kind op → kept s → kept (s.note (.did id op answer) t))
    (h : program.Holds D id (Yields assertion) s) (hkept : kept s) :
    program.Holds D id (Yields fun value s => assertion value s ∧ kept s) s := by
  induction program generalizing s with
  | ended result =>
      cases result with
      | ok value => exact ⟨h, hkept⟩
      | error error => trivial
  | await op onward ih =>
      intro t ht hgood
      obtain ⟨hlawful, honward⟩ := h t ht hgood
      refine ⟨hlawful, fun choice answer u hallowed heffect => ?_⟩
      exact ih answer (hevery.2 answer) (honward choice answer u hallowed heffect)
        (hown t op answer u hevery.1 (hrely s t ht hkept))

-- What neither the others nor the program's own steps take away is kept.
theorem Holds.keeping {assertion : α → S.State → Prop} {kept : S.State → Prop}
    (hrely : ∀ s t, D.rely id s t → kept s → kept t)
    (hown : ∀ s op answer t, kept s → kept (s.note (.did id op answer) t))
    (h : program.Holds D id (Yields assertion) s) (hkept : kept s) :
    program.Holds D id (Yields fun value s => assertion value s ∧ kept s) s :=
  .keeping_every (Every.of_forall fun _ => trivial) hrely
    (fun s op answer t (_ : True) => hown s op answer t) h hkept

-- From every state on, all that the program awaits is lawful.
def Safe (D : S.Discipline) (id : Nat) (program : Program σ α) : Prop :=
  ∀ s, program.Holds D id (fun _ _ => True) s

theorem Every.safe (h : program.Every kind) (hkind : ∀ op t, kind op → D.good t → D.lawful id op t) :
    program.Safe D id :=
  fun _ => h.holds hkind fun _ _ => trivial

theorem Safe.bind {next : α → Program σ β} (h : program.Safe D id)
    (hnext : ∀ value, (next value).Safe D id) : (program >>= next).Safe D id :=
  fun s => (h s).bind (fun value t _ => hnext value t) fun _ _ _ => trivial

theorem Safe.catching (h : program.Safe D id) (hhandler : ∀ error, (handler error).Safe D id) :
    (program.catching handler).Safe D id :=
  fun s => (h s).catching (fun _ _ _ => trivial) fun error t _ => hhandler error t

-- What is asserted of the items so far and of the values that are there of them.
theorem Holds.mapM {items : List ι} {kept : List ι → List α → S.State → Prop}
    (h : ∀ before item after done t, items = before ++ item :: after → kept before done t →
      (f item).Holds D id (Yields fun value => kept (before ++ [item]) (done ++ [value])) t)
    (hkept : kept [] [] s) : (items.mapM f).Holds D id (Yields (kept items)) s := by
  have hloop : ∀ rest before done t, items = before ++ rest → kept before done.reverse t →
      (List.mapM.loop f rest done).Holds D id (Yields (kept items)) t := by
    intro rest
    induction rest with
    | nil =>
        intro before done t heq hdone
        rw [heq, List.append_nil]
        exact hdone
    | cons item rest ih =>
        intro before done t heq hdone
        refine (h before item rest _ t heq hdone).yields_bind fun value u hvalue => ?_
        refine ih (before ++ [item]) (value :: done) u (by simp [heq]) ?_
        rwa [List.reverse_cons]
  exact hloop items [] [] s rfl hkept

theorem Safe.mapM (h : ∀ item, (f item).Safe D id) (items : List ι) : (items.mapM f).Safe D id := by
  have hloop : ∀ done, (List.mapM.loop f items done).Safe D id := by
    induction items with
    | nil => exact fun _ _ => trivial
    | cons item rest ih => exact fun done => (h item).bind fun value => ih (value :: done)
  exact hloop []

-- What a program returns or raises, whatever it is answered.
def Ends (assertion : Except σ.Error α → Prop) : Program σ α → Prop
  | ended result => assertion result
  | await _ onward => ∀ answer, (onward answer).Ends assertion

theorem Ends.mono {assertion weaker : Except σ.Error α → Prop}
    (h : program.Ends assertion) (hweaker : ∀ result, assertion result → weaker result) :
    program.Ends weaker := by
  induction program with
  | ended result => exact hweaker result h
  | await op onward ih => exact fun answer => ih answer (h answer)

theorem Ends.bind {assertion : Except σ.Error α → Prop} {further : Except σ.Error β → Prop}
    {next : α → Program σ β} (h : program.Ends assertion)
    (hvalue : ∀ value, assertion (.ok value) → (next value).Ends further)
    (herror : ∀ error, assertion (.error error) → further (.error error)) :
    (program >>= next).Ends further := by
  induction program with
  | ended result =>
      cases result with
      | error error => exact herror error h
      | ok value => exact hvalue value h
  | await op onward ih => exact fun answer => ih answer (h answer)

theorem Ends.catching {assertion caught : Except σ.Error α → Prop} (h : program.Ends assertion)
    (hvalue : ∀ value, assertion (.ok value) → caught (.ok value))
    (herror : ∀ error, assertion (.error error) → (handler error).Ends caught) :
    (program.catching handler).Ends caught := by
  induction program with
  | ended result =>
      cases result with
      | error error => exact herror error h
      | ok value => exact hvalue value h
  | await op onward ih => exact fun answer => ih answer (h answer)

theorem Ends.of_forall {assertion : Except σ.Error α → Prop} (h : ∀ result, assertion result) :
    program.Ends assertion := by
  induction program with
  | ended result => exact h result
  | await op onward ih => exact fun answer => ih answer

section Alone

variable {State : Type} {handler : (op : σ.Op) → State → Except σ.Error (σ.Reply op) × State}

-- One program alone, whose operations are answered by a handler with a state of its own.
def run (handler : (op : σ.Op) → State → Except σ.Error (σ.Reply op) × State) :
    Program σ α → State → Except σ.Error α × State
  | ended result, s => (result, s)
  | await op onward, s => (onward (handler op s).1).run handler (handler op s).2

@[simp] theorem run_pure (value : α) (s : State) :
    (Pure.pure value : Program σ α).run handler s = (.ok value, s) := rfl

@[simp] theorem run_throw (error : σ.Error) (s : State) :
    (MonadExceptOf.throw error : Program σ α).run handler s = (.error error, s) := rfl

@[simp] theorem run_perform (op : σ.Op) (s : State) :
    (perform op).run handler s = handler op s := rfl

theorem run_bind (program : Program σ α) (next : α → Program σ β) (s : State) :
    (program >>= next).run handler s = match program.run handler s with
      | (.ok value, t) => (next value).run handler t
      | (.error error, t) => (.error error, t) := by
  induction program generalizing s with
  | ended result => cases result <;> rfl
  | await op onward ih => exact ih _ _

theorem run_catching (program : Program σ α) (caught : σ.Error → Program σ α) (s : State) :
    (program.catching caught).run handler s = match program.run handler s with
      | (.ok value, t) => (.ok value, t)
      | (.error error, t) => (caught error).run handler t := by
  induction program generalizing s with
  | ended result => cases result <;> rfl
  | await op onward ih => exact ih _ _

theorem Ends.run {assertion : Except σ.Error α → Prop} (h : program.Ends assertion) (s : State) :
    assertion (program.run handler s).1 := by
  induction program generalizing s with
  | ended result => exact h
  | await op onward ih => exact ih _ (h _) _

-- What the program does to the state, whatever it starts from.
def Moves (handler : (op : σ.Op) → State → Except σ.Error (σ.Reply op) × State)
    (moves : State → State → Prop) (program : Program σ α) : Prop :=
  ∀ s, moves s (program.run handler s).2

variable {moves : State → State → Prop}

theorem Moves.bind [IsTrans State moves] {next : α → Program σ β}
    (h : program.Moves handler moves) (hnext : ∀ value, (next value).Moves handler moves) :
    (program >>= next).Moves handler moves := by
  intro s
  have hfirst := h s
  rw [run_bind]
  revert hfirst
  rcases program.run handler s with ⟨error | value, t⟩
  · exact id
  · exact fun hfirst => IsTrans.trans _ _ _ hfirst (hnext value t)

theorem Moves.catching [IsTrans State moves] {caught : σ.Error → Program σ α}
    (h : program.Moves handler moves) (hcaught : ∀ error, (caught error).Moves handler moves) :
    (program.catching caught).Moves handler moves := by
  intro s
  have hfirst := h s
  rw [run_catching]
  revert hfirst
  rcases program.run handler s with ⟨error | value, t⟩
  · exact fun hfirst => IsTrans.trans _ _ _ hfirst (hcaught error t)
  · exact id

end Alone

end Program

namespace System

variable {σ : Signature} {S : System σ} (D : S.Discipline) {id : Nat} {thread : S.Thread}
  {labels : List S.Label}

-- The condition on a step.
def Discipline.Meets (w : S.World) : S.Label → Prop
  | .start id call => D.admitted id call w.state
  | .go id choice => ∀ op ∈ w.awaiting id, D.allowed id op choice w.state
  | .outside event => D.happens event w.state

-- Every call stands where its program holds.
structure Discipline.Sound (w : S.World) : Prop where
  good : D.good w.state
  fresh : ∀ id, w.threads id = none → D.fresh id w.state
  holds : ∀ id thread, w.threads id = some thread →
    thread.program.Holds D id (D.post id thread.call) w.state

def Discipline.Programs : Prop :=
  ∀ id call s t, D.good s → D.fresh id s → D.admitted id call s →
    S.enter call s.shared = some t →
      (S.program call).Holds D id (D.post id call) (s.note (.entered id call) t)

variable {D} {w next : S.World} {label : S.Label}

theorem Discipline.Sound.put {state : S.State} (h : D.Sound w) (hgood : D.good state)
    (hown : thread.program.Holds D id (D.post id thread.call) state)
    (hothers : ∀ other, id ≠ other → D.rely other w.state state) :
    D.Sound (w.put id thread state) := by
  obtain ⟨call, program⟩ := thread
  have hsettled : D.good (state.settle id program) ∧
      program.Holds D id (D.post id call) (state.settle id program) ∧
      ∀ other, id ≠ other → D.rely other w.state (state.settle id program) := by
    cases program with
    | await => exact ⟨hgood, hown, hothers⟩
    | ended result =>
        refine ⟨D.leave_good id call result state hgood hown, D.leave_post id call result state hown,
          fun other hne => ?_⟩
        exact D.rely_trans other _ _ _ (hothers other hne)
          (D.leave_rely id call other result state hne hgood hown)
  obtain ⟨hgood, hown, hothers⟩ := hsettled
  refine ⟨hgood, fun other hnone => ?_, fun other moved hmoved => ?_⟩
  · have hne : other ≠ id := by
      rintro rfl
      simp at hnone
    rw [World.put_other w _ state hne] at hnone
    exact D.fresh_rely other _ _ (hothers other (Ne.symm hne)) (h.fresh other hnone)
  rcases World.put_cases hmoved with ⟨rfl, rfl⟩ | ⟨hother, hmoved⟩
  · exact hown
  · exact (h.holds other moved hmoved).rely (D.post_rely other moved.call)
      (hothers other (Ne.symm hother))

theorem Discipline.Sound.step (hprograms : D.Programs) (h : D.Sound w) (hmeets : D.Meets w label)
    (hstep : World.step w label = some next) : D.Sound next := by
  cases World.step_cases hstep with
  | @start id call shared hnew henter =>
      have hfresh := h.fresh id hnew
      exact h.put (D.enter_good id call _ _ h.good hfresh hmeets henter)
        (hprograms id call _ _ h.good hfresh hmeets henter)
        fun other hne => D.enter_rely id call other _ _ hne h.good hmeets henter
  | @go id choice call op onward answer shared hthread heffect =>
      obtain ⟨hlawful, honward⟩ := h.holds id _ hthread w.state (D.rely_refl id _) h.good
      have hallowed := hmeets op (World.awaiting_of_thread hthread)
      exact h.put (D.step_good id op choice answer _ _ h.good hlawful hallowed heffect)
        (honward choice answer shared hallowed heffect)
        fun other hne =>
          D.step_rely id op choice answer other _ _ hne h.good hlawful hallowed heffect
  | @outside event shared hevent =>
      have hrely : ∀ id, D.rely id w.state (w.state.note (.happened event) shared) :=
        fun id => D.outside_rely event id _ _ h.good hmeets hevent
      exact ⟨D.outside_good event _ _ h.good hmeets hevent,
        fun id hnone => D.fresh_rely id _ _ (hrely id) (h.fresh id hnone),
        fun id thread hthread =>
          (h.holds id thread hthread).rely (D.post_rely id thread.call) (hrely id)⟩

-- What a call awaits is lawful.
theorem Discipline.Sound.lawful {op : σ.Op} (h : D.Sound w) (hop : w.awaiting id = some op) :
    D.lawful id op w.state := by
  obtain ⟨call, onward, hthread⟩ := World.thread_of_awaiting hop
  exact (h.holds id _ hthread w.state (D.rely_refl id _) h.good).1

theorem Discipline.Sound.run (hprograms : D.Programs) (h : D.Sound w)
    (hmeets : Along World.step D.Meets w labels)
    (hrun : JoyMesh.Library.run World.step w labels = some next) : D.Sound next :=
  run_invariant (fun _ _ _ hs hm hstep => Sound.step hprograms hs hm hstep) h hmeets hrun

-- A call that has ended has left its assertion behind.
theorem Discipline.Sound.ended {id : Nat} {call : S.Call} {result : Except σ.Error S.Result}
    (h : D.Sound w) (hthread : w.threads id = some ⟨call, .ended result⟩) :
    D.post id call result w.state := h.holds id _ hthread

theorem Discipline.sound_initial {shared : S.Shared} (hgood : D.good { shared := shared })
    (hfresh : ∀ id, D.fresh id { shared := shared }) : D.Sound (World.initial S shared) :=
  ⟨hgood, fun id _ => hfresh id, fun _ _ hthread => nomatch hthread⟩

-- The calls of a run only await operations of the kind that their programs do.
theorem World.every_run {kind : S.Call → σ.Op → Prop}
    (hprograms : ∀ call, (S.program call).Every (kind call))
    (h : ∀ id thread, w.threads id = some thread → thread.program.Every (kind thread.call))
    (hrun : JoyMesh.Library.run World.step w labels = some next) (id : Nat) (thread : S.Thread)
    (hthread : next.threads id = some thread) : thread.program.Every (kind thread.call) := by
  have hput : ∀ {w : S.World} {id : Nat} {thread : S.Thread} {state : S.State},
      (∀ id thread, w.threads id = some thread → thread.program.Every (kind thread.call)) →
      thread.program.Every (kind thread.call) → ∀ other moved,
        (w.put id thread state).threads other = some moved →
          moved.program.Every (kind moved.call) := by
    intro w id thread state hw hown other moved hmoved
    rcases World.put_cases hmoved with ⟨-, rfl⟩ | ⟨-, hmoved⟩
    · exact hown
    · exact hw other moved hmoved
  induction labels generalizing w with
  | nil =>
      obtain rfl : w = next := by simpa using hrun
      exact h id thread hthread
  | cons label labels ih =>
      obtain ⟨middle, hstep, hrun⟩ := Option.bind_eq_some_iff.mp (run_cons ▸ hrun)
      refine ih ?_ hrun
      cases World.step_cases hstep with
      | @start id call => exact hput h (hprograms call)
      | @go id _ _ _ _ answer _ hthread => exact hput h ((h id _ hthread).2 answer)
      | outside => exact h

def Label.started : S.Label → Option Nat
  | .start id _ => some id
  | _ => none

-- The calls of a run are those that were there, and those that it starts.
theorem World.started_of_thread (hrun : JoyMesh.Library.run World.step w labels = some next)
    (hthread : next.threads id = some thread) :
    (∃ before, w.threads id = some before) ∨ id ∈ labels.filterMap Label.started := by
  induction labels generalizing w with
  | nil =>
      obtain rfl : w = next := by simpa using hrun
      exact .inl ⟨thread, hthread⟩
  | cons label labels ih =>
      obtain ⟨middle, hstep, hrun⟩ := Option.bind_eq_some_iff.mp (run_cons ▸ hrun)
      have hrest : id ∈ labels.filterMap Label.started →
          id ∈ (label :: labels).filterMap Label.started := by
        rw [List.filterMap_cons]
        split
        · exact fun h => h
        · exact List.mem_cons_of_mem _
      refine (ih hrun).elim (fun ⟨before, hbefore⟩ => ?_) fun h => .inr (hrest h)
      cases World.step_cases hstep with
      | @start started call =>
          rcases World.put_cases hbefore with ⟨rfl, -⟩ | ⟨-, hbefore⟩
          · exact .inr (List.mem_cons_self ..)
          · exact .inl ⟨before, hbefore⟩
      | @go moved _ _ _ _ _ _ hmoved =>
          rcases World.put_cases hbefore with ⟨rfl, -⟩ | ⟨-, hbefore⟩
          · exact .inl ⟨_, hmoved⟩
          · exact .inl ⟨before, hbefore⟩
      | outside => exact .inl ⟨before, hbefore⟩

end System

end JoyMesh.Library
