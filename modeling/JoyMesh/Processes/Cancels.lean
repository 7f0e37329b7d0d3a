import JoyMesh.Processes.Runner
import JoyMesh.Library.History

namespace JoyMesh.Processes

open JoyMesh.Library

section Watching

variable {texts : Texts} {id other : Nat} {runId : String}

-- A call is active from its spawn to its finally block.
def starts (id : Nat) : (processRunner texts).Event → Bool
  | .did other (.spawn _ _) (.ok _) => other = id
  | _ => false

def ends (id : Nat) : (processRunner texts).Event → Bool
  | .did other (.conclude _ _) _ => other = id
  | .did other (.release _ _) _ => other = id
  | _ => false

def asks (runId : String) : (processRunner texts).Event → Bool
  | .did _ (.mark marked) _ => marked = runId
  | _ => false

structure Watch where
  active : Bool := false
  asked : Bool := false
deriving DecidableEq

-- A cancel counts for the calls that are active when it comes.
def Watch.note (id : Nat) (runId : String) (watch : Watch) (event : (processRunner texts).Event) :
    Watch where
  active := (watch.active || starts id event) && !ends id event
  asked := watch.asked || (watch.active && asks runId event)

def watch (id : Nat) (runId : String) (history : List (processRunner texts).Event) : Watch :=
  history.foldl (Watch.note id runId) {}

def Runs (id : Nat) (runId : String) (history : List (processRunner texts).Event) : Prop :=
  ∃ request cwd child, .did id (.spawn request cwd) (.ok child) ∈ history ∧ request.runId = runId

-- The events that are told in the history of a call itself.
def own (id : Nat) : (processRunner texts).Event → Bool
  | .did other _ _ => other = id
  | _ => false

variable {history more : List (processRunner texts).Event} {event : (processRunner texts).Event}

theorem watch_concat : watch id runId (history ++ [event]) =
    (watch id runId history).note id runId event := by
  rw [watch, List.foldl_append]
  rfl

theorem not_starts (h : own id event = false) : starts id event = false := by
  cases event with
  | did other op answer =>
      have hne : other ≠ id := by simpa [own] using h
      unfold starts
      split
      next heq =>
        cases heq
        exact decide_eq_false hne
      next => rfl
  | _ => rfl

theorem not_ends (h : own id event = false) : ends id event = false := by
  cases event with
  | did other op answer =>
      have hne : other ≠ id := by simpa [own] using h
      unfold ends
      split
      next heq =>
        cases heq
        exact decide_eq_false hne
      next heq =>
        cases heq
        exact decide_eq_false hne
      next => rfl
  | _ => rfl

theorem watch_foreign (h : own id event = false) : watch id runId (history ++ [event]) =
    { active := (watch id runId history).active
      asked := (watch id runId history).asked ||
        ((watch id runId history).active && asks runId event) } := by
  rw [watch_concat, Watch.note, not_starts h, not_ends h]
  simp

-- What others do leaves a call active or not, and never takes back a cancel.
theorem watch_others (h : ∀ event ∈ more, own id event = false) :
    (watch id runId (history ++ more)).active = (watch id runId history).active ∧
      ((watch id runId history).asked = true → (watch id runId (history ++ more)).asked = true) ∧
      ((watch id runId history).active = false →
        watch id runId (history ++ more) = watch id runId history) := by
  induction more using List.reverseRecOn with
  | nil => simp
  | append_singleton more event ih =>
      obtain ⟨hactive, hasked, hsame⟩ :=
        ih fun event hm => h event (List.mem_append_left _ hm)
      have hown : own id event = false := h event (List.mem_append_right _ List.mem_cons_self)
      rw [← List.append_assoc, watch_foreign hown]
      refine ⟨hactive, fun hbefore => ?_, fun hinactive => ?_⟩
      · simp [hasked hbefore]
      · rw [hsame hinactive, hinactive]
        simp only [Bool.false_and, Bool.or_false]
        rw [← hinactive]

theorem Runs.append (h : Runs id runId history) : Runs id runId (history ++ more) := by
  obtain ⟨request, cwd, child, hm, hid⟩ := h
  exact ⟨request, cwd, child, List.mem_append_left _ hm, hid⟩

theorem Runs.before (h : Runs id runId (history ++ more))
    (hothers : ∀ event ∈ more, starts id event = false) : Runs id runId history := by
  obtain ⟨request, cwd, child, hm, hid⟩ := h
  rcases List.mem_append.mp hm with hm | hm
  · exact ⟨request, cwd, child, hm, hid⟩
  · have hstarts := hothers _ hm
    simp [starts] at hstarts

theorem watch_unstarted (h : ∀ event ∈ history, starts id event = false) :
    watch id runId history = {} := by
  induction history using List.reverseRecOn with
  | nil => rfl
  | append_singleton history event ih =>
      rw [watch_concat, ih fun event hm => h event (List.mem_append_left _ hm), Watch.note,
        h event (List.mem_append_right _ List.mem_cons_self)]
      simp

-- What is neither a spawn nor a finally block nor a cancel.
structure Silent (event : (processRunner texts).Event) : Prop where
  starts : ∀ id, starts id event = false
  ends : ∀ id, ends id event = false
  asks : ∀ runId, asks runId event = false

theorem watch_silent (h : Silent event) : watch id runId (history ++ [event]) =
    watch id runId history := by
  rw [watch_concat, Watch.note, h.starts, h.ends, h.asks]
  simp

theorem Runs.of_concat (h : Runs id runId (history ++ [event])) (hevent : starts id event = false) :
    Runs id runId history :=
  h.before fun other hm => by rw [List.mem_singleton.mp hm, hevent]

end Watching

section Discipline

variable {texts : Texts} {s t u : (processRunner texts).State} {id : Nat} {runId : String} {op : Op}
  {choice : Choice} {shared after : Shared} {child : Nat}

def StreamEvent.isCancelled : StreamEvent → Bool
  | cancelled _ => true
  | _ => false

-- A terminal event tells of a cancellation if there was one for the call.
def ReportsRightly (before : List (processRunner texts).Event) :
    (processRunner texts).Event → Prop
  | .did id (.emit _ event) _ => event.terminal = true → ∀ runId, Runs id runId before →
      (event.isCancelled = true ↔ (watch id runId before).asked = true)
  | _ => True

structure Classified (s : (processRunner texts).State) : Prop where
  marked : ∀ id runId, Runs id runId s.history → (watch id runId s.history).active = true →
    (runId ∈ s.shared.cancelled ↔ (watch id runId s.history).asked = true)
  reported : Throughout ReportsRightly s.history

-- Where a call stands between its spawn and its finally block.
def Standing (id : Nat) (runId : String) (s : (processRunner texts).State) : Prop :=
  Runs id runId s.history ∧ (watch id runId s.history).active = true ∧
    ∀ other, Runs id other s.history → other = runId

def Lawful (id : Nat) (op : Op) (s : (processRunner texts).State) : Prop :=
  match op with
  | .spawn _ _ => ∀ event ∈ s.history, starts id event = false
  | .conclude _ runId => Standing id runId s
  | .release _ runId => Standing id runId s
  | .emit _ event => ∃ runId, Standing id runId s ∧
      (event.isCancelled = true → (watch id runId s.history).asked = true)
  | _ => True

-- A run starts while its id is not marked. None ends while its id is marked and another
-- run with that id is active. No stream comes to its end in another way while its id is
-- marked.
def Timely (id : Nat) (op : Op) (choice : Choice) (s : (processRunner texts).State) : Prop :=
  match op with
  | .spawn request _ => choice.fault = none → request.runId ∉ s.shared.cancelled
  | .conclude _ runId => runId ∈ s.shared.cancelled → ∀ other, other ≠ id →
      Runs other runId s.history → (watch other runId s.history).active = false
  | .release _ runId => runId ∈ s.shared.cancelled → ∀ other, other ≠ id →
      Runs other runId s.history → (watch other runId s.history).active = false
  | .emit _ event => event.terminal = true → event.isCancelled = false →
      ∀ runId, Runs id runId s.history → runId ∉ s.shared.cancelled
  | _ => True

-- The operations of a call that nothing here depends on.
def Quiet : Op → Prop
  | .spawn _ _ => False
  | .conclude _ _ => False
  | .release _ _ => False
  | .emit _ _ => False
  | .mark _ => False
  | _ => True

theorem silent_quiet {answer : Except Fault op.Reply} (h : Quiet op) :
    Silent (.did id op answer : (processRunner texts).Event) := by
  cases op with
  | spawn | conclude | release | emit | mark => cases h
  | _ => exact ⟨fun _ => rfl, fun _ => rfl, fun _ => rfl⟩

theorem quiet_cancelled {answer : Except Fault op.Reply} (h : Quiet op)
    (heffect : effect op choice shared = some (answer, after)) :
    after.cancelled = shared.cancelled := by
  cases op with
  | spawn | conclude | release | emit | mark => cases h
  | readline child =>
      obtain ⟨found, -, hreads⟩ := readline_cases heffect
      cases hreads <;> rfl
  | returncode | flagged =>
      cases heffect
      rfl
  | validateCwd | readAll | signal | resume =>
      rw [answered_shared heffect]
  | communicate | waitFor | wait =>
      simp only [effect] at heffect
      split at heffect
      · cases heffect
      · rw [answered_shared heffect]

theorem Classified.silent {event : (processRunner texts).Event} {shared : Shared}
    (h : Classified s) (hsilent : Silent event) (hreports : ReportsRightly s.history event)
    (hcancelled : shared.cancelled = s.shared.cancelled) : Classified (s.note event shared) where
  marked k runId hruns hactive := by
    rw [System.State.note_history, watch_silent hsilent] at hactive ⊢
    rw [System.State.note_shared, hcancelled]
    exact h.marked k runId (hruns.of_concat (hsilent.starts k)) hactive
  reported := throughout_concat.mpr ⟨h.reported, hreports⟩

theorem Classified.quiet {answer : Except Fault op.Reply} (h : Classified s) (hquiet : Quiet op)
    (heffect : effect op choice s.shared = some (answer, after)) :
    Classified (s.note (.did id op answer) after) := by
  have hreports : ReportsRightly s.history (.did id op answer) := by
    cases op with
    | emit => cases hquiet
    | _ => trivial
  exact h.silent (silent_quiet hquiet) hreports (quiet_cancelled hquiet heffect)

-- What a finally block forgets, no other active call was asked by.
theorem Classified.forgotten {event : (processRunner texts).Event} (h : Classified s)
    (hends : ends id event = true) (hown : ∀ k, k ≠ id → own k event = false)
    (hasks : ∀ runId, asks runId event = false) (hstarts : starts id event = false)
    (hreports : ReportsRightly s.history event)
    (htimely : runId ∈ s.shared.cancelled → ∀ other, other ≠ id → Runs other runId s.history →
      (watch other runId s.history).active = false) :
    Classified (s.note event (s.shared.forget runId)) where
  marked k other hruns hactive := by
    rw [System.State.note_history] at hruns hactive ⊢
    have hne : k ≠ id := by
      rintro rfl
      rw [watch_concat, Watch.note, hends, Bool.not_true, Bool.and_false] at hactive
      cases hactive
    have hforeign := hown k hne
    have hbefore : Runs k other s.history := hruns.of_concat (not_starts hforeign)
    rw [watch_foreign hforeign] at hactive ⊢
    simp only [hasks, Bool.and_false, Bool.or_false] at hactive ⊢
    rw [← h.marked k other hbefore hactive, System.State.note_shared, Shared.forget]
    simp only [List.mem_filter, decide_eq_true_eq]
    refine ⟨fun hm => hm.1, fun hm => ⟨hm, fun hsame => ?_⟩⟩
    subst hsame
    rw [htimely hm k hne hbefore] at hactive
    cases hactive
  reported := throughout_concat.mpr ⟨h.reported, hreports⟩

theorem Classified.marks {event : (processRunner texts).Event} (h : Classified s)
    (hown : ∀ k, starts k event = false ∧ ends k event = false)
    (hasks : ∀ other, asks other event = decide (runId = other))
    (hreports : ReportsRightly s.history event)
    (hcancelled : shared.cancelled = runId :: s.shared.cancelled) :
    Classified (s.note event shared) where
  marked k other hruns hactive := by
    rw [System.State.note_history] at hruns hactive ⊢
    have hbefore : Runs k other s.history := hruns.of_concat (hown k).1
    rw [watch_concat, Watch.note, (hown k).1, (hown k).2, hasks] at hactive ⊢
    simp only [Bool.or_false, Bool.not_false, Bool.and_true] at hactive ⊢
    rw [System.State.note_shared, hcancelled, List.mem_cons, h.marked k other hbefore hactive,
      hactive]
    simp only [Bool.true_and, Bool.or_eq_true, decide_eq_true_eq]
    rw [or_comm]
    exact or_congr_right eq_comm
  reported := throughout_concat.mpr ⟨h.reported, hreports⟩

-- A call that starts unmarked was not asked to cancel.
theorem Classified.spawned {request : ProcessRunRequest} {cwd : String} (h : Classified s)
    (hnew : ∀ event ∈ s.history, starts id event = false)
    (htimely : request.runId ∉ s.shared.cancelled)
    (hcancelled : shared.cancelled = s.shared.cancelled) :
    Classified (s.note (.did id (.spawn request cwd) (.ok child)) shared) where
  marked k other hruns hactive := by
    rw [System.State.note_history] at hruns hactive ⊢
    rw [System.State.note_shared, hcancelled]
    by_cases hk : k = id
    · subst hk
      obtain ⟨found, path, spawned, hm, rfl⟩ := hruns
      rcases List.mem_append.mp hm with hm | hm
      · have hstarts := hnew _ hm
        simp [starts] at hstarts
      · cases List.mem_singleton.mp hm
        rw [watch_concat, watch_unstarted hnew]
        refine iff_of_false htimely ?_
        simp [Watch.note]
    · have hforeign : own k (.did id (.spawn request cwd) (.ok child) :
          (processRunner texts).Event) = false := by simpa [own] using Ne.symm hk
      have hbefore := hruns.of_concat (not_starts hforeign)
      rw [watch_foreign hforeign] at hactive ⊢
      have hmarked := h.marked k other hbefore hactive
      simpa [asks] using hmarked
  reported := throughout_concat.mpr ⟨h.reported, trivial⟩

-- The others add what they do themselves.
def Others (id : Nat) (s t : (processRunner texts).State) : Prop :=
  ∃ more, t.history = s.history ++ more ∧ ∀ event ∈ more, own id event = false

theorem Others.trans (hst : Others id s t) (htu : Others id t u) : Others id s u := by
  obtain ⟨first, hfirst, hf⟩ := hst
  obtain ⟨second, hsecond, hs⟩ := htu
  refine ⟨first ++ second, by rw [hsecond, hfirst, List.append_assoc], fun event hm => ?_⟩
  exact (List.mem_append.mp hm).elim (hf event) (hs event)

theorem Others.note {event : (processRunner texts).Event} (h : own id event = false) :
    Others id s (s.note event shared) :=
  ⟨[event], rfl, fun _ hm => List.mem_singleton.mp hm ▸ h⟩

theorem Standing.others (h : Standing id runId s) (hrely : Others id s t) :
    Standing id runId t := by
  obtain ⟨hruns, hactive, honly⟩ := h
  obtain ⟨more, hmore, hothers⟩ := hrely
  unfold Standing
  rw [hmore]
  refine ⟨hruns.append, by rw [(watch_others hothers).1, hactive], fun other hother => ?_⟩
  exact honly other (hother.before fun event hm => not_starts (hothers event hm))

theorem Standing.silent {event : (processRunner texts).Event} {shared : Shared}
    (h : Standing id runId s) (hsilent : Silent event) : Standing id runId (s.note event shared) := by
  obtain ⟨hruns, hactive, honly⟩ := h
  refine ⟨hruns.append, ?_, fun other hother => honly other (hother.of_concat (hsilent.starts id))⟩
  rw [System.State.note_history, watch_silent hsilent, hactive]

theorem emit_silent {event : StreamEvent} {answer : Except Fault Unit} :
    Silent (.did id (.emit child event) answer : (processRunner texts).Event) :=
  ⟨fun _ => rfl, fun _ => rfl, fun _ => rfl⟩

theorem Classified.emitted {event : StreamEvent} {answer : Except Fault Unit} (h : Classified s)
    (hlawful : Lawful id (.emit child event) s) (htimely : Timely id (.emit child event) choice s) :
    Classified (s.note (.did id (.emit child event) answer) s.shared) := by
  obtain ⟨runId, ⟨hruns, hactive, honly⟩, hcancelled⟩ := hlawful
  refine h.silent emit_silent (fun hterminal other hother => ?_) rfl
  obtain rfl := honly other hother
  cases hevent : event.isCancelled with
  | true => exact ⟨fun _ => hcancelled hevent, fun _ => rfl⟩
  | false =>
      have hunmarked := htimely hterminal hevent other hruns
      rw [h.marked id other hruns hactive] at hunmarked
      exact ⟨fun himpossible => (Bool.false_ne_true himpossible).elim, fun hasked => absurd hasked hunmarked⟩

theorem classified_step {answer : Except Fault op.Reply} (h : Classified s)
    (hlawful : Lawful id op s) (htimely : Timely id op choice s)
    (heffect : effect op choice s.shared = some (answer, after)) :
    Classified (s.note (.did id op answer) after) := by
  cases op with
  | spawn request cwd =>
      simp only [effect] at heffect
      split at heffect
      · cases heffect
        exact h.silent ⟨fun _ => rfl, fun _ => rfl, fun _ => rfl⟩ trivial rfl
      next hfault =>
        split at heffect
        · cases heffect
        · cases heffect
          exact h.spawned hlawful (htimely hfault) rfl
  | conclude child runId =>
      cases heffect
      refine h.forgotten (decide_eq_true rfl) (fun k hk => ?_) (fun _ => rfl) rfl trivial htimely
      exact decide_eq_false (Ne.symm hk)
  | release child runId =>
      cases heffect
      refine h.forgotten (decide_eq_true rfl) (fun k hk => ?_) (fun _ => rfl) rfl trivial htimely
      exact decide_eq_false (Ne.symm hk)
  | mark runId =>
      cases heffect
      exact h.marks (fun _ => ⟨rfl, rfl⟩) (fun _ => rfl) trivial rfl
  | emit child event =>
      cases heffect
      exact h.emitted hlawful htimely
  | _ => exact h.quiet trivial heffect

-- The report of a call that ran is right.
def Reports (id : Nat) (call : Call) (result : Except Fault Result)
    (s : (processRunner texts).State) : Prop :=
  match call, result with
  | .run request, .ok (.ran result) =>
      (watch id request.runId s.history).active = false ∧
        (result.cancelled = true ↔ (watch id request.runId s.history).asked = true)
  | _, _ => True

theorem Reports.others {call : Call} {result : Except Fault Result} (hrely : Others id s t)
    (h : Reports id call result s) : Reports id call result t := by
  unfold Reports at h ⊢
  split at h
  next request result =>
    obtain ⟨more, hmore, hothers⟩ := hrely
    obtain ⟨hactive, hreport⟩ := h
    have hsame := (watch_others hothers).2.2 hactive
    rw [hmore, hsame]
    exact ⟨hactive, hreport⟩
  · trivial

@[reducible] def classifying (texts : Texts) : (processRunner texts).Discipline where
  good := Classified
  fresh id s := ∀ event ∈ s.history, own id event = false
  rely := Others
  lawful := Lawful
  post := Reports
  admitted _ _ _ := True
  allowed := Timely
  happens _ _ := True
  rely_refl _ _ := ⟨[], (List.append_nil _).symm, fun _ hm => nomatch hm⟩
  rely_trans _ _ _ _ := Others.trans
  fresh_rely _ _ _ hrely hfresh := by
    obtain ⟨more, hmore, hothers⟩ := hrely
    rw [hmore]
    exact fun event hm => (List.mem_append.mp hm).elim (hfresh event) (hothers event)
  post_rely _ _ _ _ _ := Reports.others
  step_good _ _ _ _ _ _ := classified_step
  step_rely _ _ _ _ _ _ _ hne _ _ _ _ := Others.note (decide_eq_false hne)
  enter_good _ _ _ _ h _ _ henter := by
    obtain rfl := Option.some.inj henter
    exact h.silent ⟨fun _ => rfl, fun _ => rfl, fun _ => rfl⟩ trivial rfl
  enter_rely _ _ _ _ _ _ _ _ _ := Others.note rfl
  leave_good _ _ _ _ h _ := h.silent ⟨fun _ => rfl, fun _ => rfl, fun _ => rfl⟩ trivial rfl
  leave_rely _ _ _ _ _ _ _ _ := Others.note rfl
  leave_post _ _ _ _ := Reports.others (Others.note rfl)
  outside_good event s t h _ hevent := by
    refine h.silent ⟨fun _ => rfl, fun _ => rfl, fun _ => rfl⟩ trivial ?_
    have hevent : happen event s.shared = some t := hevent
    unfold happen at hevent
    split at hevent
    · cases hevent
      rfl
    · cases hevent
  outside_rely _ _ _ _ _ _ _ := Others.note rfl

end Discipline

section Programs

open Program (Holds Every)

variable {texts : Texts} {s t : (processRunner texts).State} {id : Nat} {runId : String}
  {request : ProcessRunRequest} {α : Type} {child sequence : Nat} {op : Op} {program : RunnerM α}
  {post : Except Fault α → (processRunner texts).State → Prop}

theorem terminateProcessTree_quiet : (terminateProcessTree child).Every Quiet := by
  refine .perform_bind trivial fun exited => .ite trivial ?_
  refine .perform_bind trivial fun _ => .perform_bind trivial fun _ => .ite trivial ?_
  refine .perform_bind trivial fun _ => .perform_bind trivial fun _ => .ite trivial ?_
  exact .perform_bind trivial fun _ => .perform_bind trivial fun _ => trivial

theorem drainOne_quiet : (drainOne child).Every Quiet :=
  .catching (.perform_bind trivial fun _ => trivial) fun _ => .ite trivial trivial

theorem drain_quiet : (drain child).Every Quiet := by
  refine .bind drainOne_quiet fun stdout => ?_
  cases stdout with
  | none => trivial
  | some stdout =>
      refine .bind drainOne_quiet fun stderr => ?_
      cases stderr <;> trivial

theorem outputs_quiet : (outputs child).Every Quiet := by
  refine .perform_bind trivial fun output => ?_
  cases output with
  | none => exact .bind terminateProcessTree_quiet fun _ => .bind drain_quiet fun _ => trivial
  | some output => trivial

theorem quiet_lawful (h : Quiet op) : Lawful id op t := by
  cases op with
  | spawn | conclude | release | emit => cases h
  | _ => trivial

-- What the others and quiet operations keep, a quiet program keeps.
theorem quiet_keeps {kept : (processRunner texts).State → Prop} (h : program.Every Quiet)
    (hothers : ∀ s t, Others id s t → kept s → kept t)
    (hsilent : ∀ s event shared, Silent event → kept s → kept (s.note event shared))
    (hkept : kept s) : program.Holds (classifying texts) id (fun _ s => kept s) s :=
  h.keeping (fun _ _ hop _ _ => quiet_lawful hop) hothers
    (fun s _ _ _ t hop hkept _ _ => hsilent s _ t (silent_quiet hop) hkept) hkept

-- A call that stands after a cancel came for it.
def Stopped (id : Nat) (runId : String) (s : (processRunner texts).State) : Prop :=
  Standing id runId s ∧ (watch id runId s.history).asked = true

theorem Stopped.others (h : Stopped id runId s) (hrely : Others id s t) : Stopped id runId t := by
  refine ⟨h.1.others hrely, ?_⟩
  obtain ⟨more, hmore, hothers⟩ := hrely
  rw [hmore]
  exact (watch_others hothers).2.1 h.2

theorem Stopped.silent {event : (processRunner texts).Event} {shared : Shared}
    (h : Stopped id runId s) (hsilent : Silent event) : Stopped id runId (s.note event shared) := by
  refine ⟨h.1.silent hsilent, ?_⟩
  rw [System.State.note_history, watch_silent hsilent]
  exact h.2

def Unstarted (id : Nat) (s : (processRunner texts).State) : Prop :=
  ∀ event ∈ s.history, starts id event = false

theorem Unstarted.others (h : Unstarted id s) (hrely : Others id s t) : Unstarted id t := by
  obtain ⟨more, hmore, hothers⟩ := hrely
  unfold Unstarted
  rw [hmore]
  exact fun event hm => (List.mem_append.mp hm).elim (h event) fun hm => not_starts (hothers event hm)

theorem Unstarted.silent {event : (processRunner texts).Event} {shared : Shared}
    (h : Unstarted id s) (hsilent : Silent event) : Unstarted id (s.note event shared) :=
  fun other hm => (List.mem_append.mp hm).elim (h other) fun hm =>
    List.mem_singleton.mp hm ▸ hsilent.starts id

theorem standing_spawned {cwd : String} {shared : Shared} (h : Unstarted id s) :
    Standing id request.runId (s.note (.did id (.spawn request cwd) (.ok child)) shared) := by
  refine ⟨⟨request, cwd, child, List.mem_append_right _ List.mem_cons_self, rfl⟩, ?_, ?_⟩
  · rw [System.State.note_history, watch_concat, watch_unstarted h]
    simp [Watch.note, starts, ends]
  · rintro other ⟨found, path, spawned, hm, rfl⟩
    rcases List.mem_append.mp hm with hm | hm
    · have hstarts := h _ hm
      simp [starts] at hstarts
    · cases List.mem_singleton.mp hm
      rfl

-- The checks before the spawn, and the spawn itself.
theorem spawning_holds (next : Nat → RunnerM α)
    (hnext : ∀ child t, Standing id request.runId t → (next child).Holds (classifying texts) id post t)
    (hpost : ∀ fault t, post (.error fault) t) (h : Unstarted id s) :
    (spawning request next).Holds (classifying texts) id post s := by
  refine .perform_bind (fun _ _ _ => trivial) (fun t _ cwd u hrely _ _ _ => ?_)
    fun _ _ fault _ _ _ _ _ => hpost fault _
  have hunstarted : Unstarted id (t.note (.did id (.validateCwd request.cwd) (.ok cwd)) u) :=
    (h.others hrely).silent (silent_quiet trivial)
  refine .perform_bind (fun t hrely _ => hunstarted.others hrely)
    (fun t _ child u hrely _ _ _ => ?_) fun _ _ fault _ _ _ _ _ => hpost fault _
  exact hnext child _ (standing_spawned (hunstarted.others hrely))

-- What holds where a program returns, and that the call still stands where it raises.
def OrStanding (id : Nat) (runId : String) (post : α → (processRunner texts).State → Prop) :
    Except Fault α → (processRunner texts).State → Prop
  | .ok value, s => post value s
  | .error _, s => Standing id runId s

-- An exception ends the call with its finally block.
theorem releasing_holds (h : program.Holds (classifying texts) id
      (OrStanding id request.runId fun value => post (.ok value)) s)
    (hpost : ∀ fault t, post (.error fault) t) :
    (releasing request child program).Holds (classifying texts) id post s := by
  refine h.catching (fun _ _ hvalue => hvalue) fun fault t hstanding => ?_
  refine .perform_bind (fun _ hrely _ => hstanding.others hrely) (fun _ _ _ _ _ _ _ _ => ?_) ?_
  · exact hpost fault _
  · exact fun _ _ raised _ _ _ _ _ => hpost raised _

def RunReported (id : Nat) (runId : String) (result : Except Fault ProcessRunResult)
    (s : (processRunner texts).State) : Prop :=
  match result with
  | .ok result => (watch id runId s.history).active = false ∧
      (result.cancelled = true ↔ (watch id runId s.history).asked = true)
  | .error _ => True

-- The check for a cancellation is right, as it is made where the call stops to be active.
theorem concluded_holds (h : Standing id request.runId s) :
    (concluded texts request child).Holds (classifying texts) id
      (OrStanding id request.runId fun value => RunReported id request.runId (.ok value)) s := by
  have houtputs : (outputs child).Holds (classifying texts) id
      (fun _ s => Standing id request.runId s) s :=
    quiet_keeps outputs_quiet (fun _ _ hrely h => h.others hrely)
      (fun _ _ _ hsilent h => h.silent hsilent) h
  refine houtputs.bind (fun output t hstanding => ?_) fun _ _ hstanding => hstanding
  refine .perform_bind (fun _ hrely _ => hstanding.others hrely) ?_ ?_
  · intro t _ answer u hrely hgood _ heffect
    obtain ⟨hruns, hactive, -⟩ := hstanding.others hrely
    cases heffect
    have hmarked := hgood.marked id request.runId hruns hactive
    refine .pure ⟨?_, ?_⟩
    · rw [System.State.note_history, watch_concat]
      simp [Watch.note, ends]
    · rw [System.State.note_history, watch_concat]
      simpa [Texts.result, Watch.note, asks] using hmarked
  · intro t _ fault u _ _ _ heffect
    cases heffect

theorem run_holds (h : Unstarted id s) :
    (run texts request).Holds (classifying texts) id (RunReported id request.runId) s := by
  unfold run
  split
  · exact .throw trivial
  · exact spawning_holds _ (fun child t hstanding =>
      releasing_holds (concluded_holds hstanding) fun _ _ => trivial) (fun _ _ => trivial) h

theorem yielding_holds {event : StreamEvent} (h : Standing id runId s)
    (hasked : ∀ t, Others id s t → event.isCancelled = true →
      (watch id runId t.history).asked = true) :
    (yielding child event).Holds (classifying texts) id (fun _ s => Standing id runId s) s := by
  refine .perform_bind (fun t hrely _ => ⟨runId, h.others hrely, hasked t hrely⟩) ?_ ?_
  · intro t _ _ u hrely _ _ _
    have hstanding : Standing id runId (t.note (.did id (.emit child event) (.ok ())) u) :=
      (h.others hrely).silent emit_silent
    have hquiet : (perform (.resume child)).Every Quiet := .perform trivial
    exact quiet_keeps hquiet (fun _ _ hrely h => h.others hrely)
      (fun _ _ _ hsilent h => h.silent hsilent) hstanding
  · intro t _ fault u hrely _ _ heffect
    cases heffect

theorem cancelling_holds (h : Stopped id runId s) :
    (cancelling child sequence).Holds (classifying texts) id (fun _ s => Standing id runId s) s := by
  have hterminate : (terminateProcessTree child).Holds (classifying texts) id
      (fun _ s => Stopped id runId s) s :=
    quiet_keeps terminateProcessTree_quiet (fun _ _ hrely h => h.others hrely)
      (fun _ _ _ hsilent h => h.silent hsilent) h
  refine hterminate.bind (fun _ t hstopped => ?_) fun _ _ hstopped => hstopped.1
  exact yielding_holds hstopped.1 fun u hrely _ => (hstopped.others hrely).2

theorem failing_holds {reason : String} (h : Standing id runId s) :
    (failing child sequence reason).Holds (classifying texts) id
      (fun _ s => Standing id runId s) s := by
  have hterminate : (terminateProcessTree child).Holds (classifying texts) id
      (fun _ s => Standing id runId s) s :=
    quiet_keeps terminateProcessTree_quiet (fun _ _ hrely h => h.others hrely)
      (fun _ _ _ hsilent h => h.silent hsilent) h
  refine hterminate.bind (fun _ t hstanding => ?_) fun _ _ hstanding => hstanding
  exact yielding_holds hstanding fun _ _ => nofun

theorem quiet_bind {next : op.Reply → RunnerM α} (hop : Quiet op)
    (hnext : ∀ value t, Standing id runId t →
      (next value).Holds (classifying texts) id (fun _ s => Standing id runId s) t)
    (h : Standing id runId s) :
    (perform op >>= next).Holds (classifying texts) id (fun _ s => Standing id runId s) s := by
  refine .perform_bind (fun _ _ _ => quiet_lawful hop) (fun t _ value u hrely _ _ _ => ?_)
    fun t _ fault u hrely _ _ _ => (h.others hrely).silent (silent_quiet hop)
  exact hnext value _ ((h.others hrely).silent (silent_quiet hop))

theorem completing_holds (h : Standing id runId s) :
    (completing child sequence).Holds (classifying texts) id
      (fun _ s => Standing id runId s) s := by
  refine quiet_bind trivial (fun _ t hwaited => ?_) h
  refine quiet_bind trivial (fun returncode u hread => ?_) hwaited
  exact yielding_holds hread fun _ _ => nofun

theorem streamLoop_holds {rounds collected : Nat} (h : Standing id request.runId s) :
    (streamLoop texts request child rounds sequence collected).Holds (classifying texts) id
      (fun _ s => Standing id request.runId s) s := by
  induction rounds generalizing sequence collected s with
  | zero => exact h
  | succ rounds ih =>
      refine .perform_bind (fun _ _ _ => trivial) ?_ ?_
      · intro t _ flagged u hrely hgood _ heffect
        cases heffect
        have hbefore := h.others hrely
        have hsilent : Silent (.did id (.flagged request.runId)
            (.ok (t.shared.cancelled.contains request.runId)) : (processRunner texts).Event) :=
          silent_quiet trivial
        have hstanding := @Standing.silent texts t id request.runId _ t.shared hbefore hsilent
        split
        next hflagged =>
          have hmarked := hgood.marked id request.runId hbefore.1 hbefore.2.1
          refine cancelling_holds ⟨hstanding, ?_⟩
          rw [System.State.note_history, watch_silent hsilent, ← hmarked]
          simpa using hflagged
        · refine quiet_bind trivial (fun reading u hread => ?_) hstanding
          cases reading with
          | timeout => exact failing_holds hread
          | eof => exact completing_holds hread
          | line line =>
              dsimp only
              split
              · exact failing_holds hread
              · have hyielding : (yielding child (.output (sequence + 1)
                    (texts.outputLine line))).Holds (classifying texts) id
                      (fun _ s => Standing id request.runId s) _ :=
                  yielding_holds hread fun _ _ => nofun
                exact hyielding.bind (fun _ _ hnext => ih hnext) fun _ _ hraised => hraised
      · intro t _ fault u _ _ _ heffect
        cases heffect

theorem streamed_holds (h : Standing id request.runId s) :
    (streamed texts request child).Holds (classifying texts) id (fun _ _ => True) s := by
  have hloop : (releasing request child (streamLoop texts request child
      (request.maxStdoutBytes + 1) 0 0)).Holds (classifying texts) id
        (fun result s => ∀ value, result = .ok value → Standing id request.runId s) s := by
    refine releasing_holds ?_ fun _ _ _ => nofun
    refine (streamLoop_holds h).mono fun result s hs => ?_
    cases result with
    | ok value => exact fun _ _ => hs
    | error fault => exact hs
  refine hloop.bind (fun value u hvalue => ?_) fun _ _ _ => trivial
  exact fun v hrely _ => ⟨(hvalue value rfl).others hrely, fun _ _ _ _ _ => trivial⟩

theorem streamLines_holds (h : Unstarted id s) :
    (streamLines texts request).Holds (classifying texts) id (fun _ _ => True) s :=
  spawning_holds _ (fun _ _ hstanding => streamed_holds hstanding) (fun _ _ => trivial) h

theorem cancel_holds : (cancel runId).Holds (classifying texts) id (fun _ _ => True) s := by
  refine .perform_bind (fun _ _ _ => trivial) ?_ fun _ _ _ _ _ _ _ _ => trivial
  intro t _ found u _ _ _ _
  cases found with
  | none => trivial
  | some child =>
      have hquiet : (do return { lingering := ← terminateProcessTree child } :
          RunnerM CancelReport).Every Quiet :=
        .bind terminateProcessTree_quiet fun _ => trivial
      exact hquiet.holds (fun _ _ hop _ => quiet_lawful hop) fun _ _ => trivial

theorem classifying_programs : (classifying texts).Programs := by
  intro id call s t _ hfresh _ henter
  obtain rfl := Option.some.inj henter
  have hunstarted : Unstarted id (s.note (.entered id call) s.shared) := by
    intro event hm
    rcases List.mem_append.mp hm with hm | hm
    · exact not_starts (hfresh event hm)
    · rw [List.mem_singleton.mp hm]
      rfl
  cases call with
  | run request =>
      refine (run_holds hunstarted).bind (fun result t hreported => ?_) fun _ _ _ => trivial
      exact hreported
  | stream request =>
      exact (streamLines_holds hunstarted).bind (fun _ _ _ => trivial) fun _ _ _ => trivial
  | cancel runId => exact cancel_holds.bind (fun _ _ _ => trivial) fun _ _ _ => trivial
  | cleanup executionId =>
      have hcleanup : (cleanup executionId).Holds (classifying texts) id (fun _ _ => True)
          (s.note (.entered id (.cleanup executionId)) s.shared) :=
        cancel_holds.bind (fun _ _ _ => trivial) fun _ _ _ => trivial
      exact hcleanup.bind (fun _ _ _ => trivial) fun _ _ _ => trivial

end Programs

section Runs

-- What run and stream_lines report agrees with the cancels that came while they were
-- active.
theorem cancellation_reported (texts : Texts) (labels : List (processRunner texts).Label)
    (w : (processRunner texts).World)
    (hrun : Library.run System.World.step (System.World.initial (processRunner texts) {}) labels =
      some w)
    (htimely : Along System.World.step (classifying texts).Meets
      (System.World.initial (processRunner texts) {}) labels) :
    (∀ id request result, w.returned id = some (.run request, .ok (.ran result)) →
      (result.cancelled = true ↔ (watch id request.runId w.state.history).asked = true)) ∧
    ∀ before id child event answer after runId,
      w.state.history = before ++ .did id (.emit child event) answer :: after →
      event.terminal = true → Runs id runId before →
      (event.isCancelled = true ↔ (watch id runId before).asked = true) := by
  have hinitial : (classifying texts).Sound (System.World.initial (processRunner texts) {}) := by
    refine System.Discipline.sound_initial ⟨fun _ _ hruns => ?_, throughout_nil⟩ fun _ _ hm => nomatch hm
    obtain ⟨_, _, _, hm, _⟩ := hruns
    cases hm
  have hsound := hinitial.run classifying_programs htimely hrun
  constructor
  · intro id request result hreturned
    exact (hsound.ended (System.World.thread_of_returned hreturned)).2
  · intro before id child event answer after runId hhistory hterminal hruns
    exact hsound.good.reported before _ after hhistory hterminal runId hruns

def plainTexts : Texts where
  decode _ := ""
  digest text := text
  redactSecrets text := text

def sampleRequest : ProcessRunRequest where
  argv := ["harness"]
  cwd := "/workspace"
  runId := "execution"

def spawnedBy (id : Nat) : (processRunner plainTexts).Event → Bool
  | .did other (.spawn _ _) _ => other = id
  | _ => true

-- A run that is cancelled while its child works.
def cancelledRun : List (processRunner plainTexts).Label :=
  [.start 0 (.run sampleRequest), .go 0 {}, .go 0 {}, .start 1 (.cancel "execution"), .go 1 {},
    .outside (.exits 0 (-2)), .go 0 {}, .go 0 {}]

theorem cancellation_reported_sample :
    ∃ w, Library.run System.World.step (System.World.initial (processRunner plainTexts) {})
        cancelledRun = some w ∧
      ∀ result, w.returned 0 = some (.run sampleRequest, .ok (.ran result)) →
        (result.cancelled = true ↔ (watch 0 "execution" w.state.history).asked = true) := by
  have htimely : Along System.World.step (classifying plainTexts).Meets
      (System.World.initial (processRunner plainTexts) {}) cancelledRun := by
    refine .cons trivial rfl <| .cons (fun op hop => ?_) rfl <| .cons (fun op hop => ?_) rfl <|
      .cons trivial rfl <| .cons (fun op hop => ?_) rfl <| .cons trivial rfl <|
      .cons (fun op hop => ?_) rfl <| .cons (fun op hop => ?_) rfl trivial
    · cases hop
      trivial
    · cases hop
      exact fun _ hm => nomatch hm
    · cases hop
      trivial
    · cases hop
      trivial
    · cases hop
      rintro - other hne ⟨request, cwd, child, hm, -⟩
      have honly := (List.all_eq_true (p := spawnedBy 0)).mp (by rfl) _ hm
      exact absurd (of_decide_eq_true honly) hne
  have hsome : (Library.run System.World.step (System.World.initial (processRunner plainTexts) {})
      cancelledRun).isSome = true := by decide +kernel
  obtain ⟨w, hw⟩ := Option.isSome_iff_exists.mp hsome
  refine ⟨w, hw, fun result hresult => ?_⟩
  exact (cancellation_reported plainTexts cancelledRun w hw htimely).1 0 sampleRequest result hresult

-- A cleanup that found no process, and then a run with the same id that ends by itself.
def staleRun : List (processRunner plainTexts).Label :=
  [.start 0 (.cleanup "execution"), .go 0 {}, .start 1 (.run sampleRequest), .go 1 {}, .go 1 {},
    .outside (.exits 0 0), .go 1 {}, .go 1 {}]

def staleVerdict (w : (processRunner plainTexts).World) : Bool :=
  match w.returned 1 with
  | some (.run request, .ok (.ran result)) =>
      result.cancelled && !(watch 1 request.runId w.state.history).asked
  | _ => false

theorem stale_cleanup_reported :
    ∃ w request result,
      Library.run System.World.step (System.World.initial (processRunner plainTexts) {})
        staleRun = some w ∧
      w.returned 1 = some (.run request, .ok (.ran result)) ∧ result.cancelled = true ∧
      (watch 1 request.runId w.state.history).asked = false := by
  have hverdict : (Library.run System.World.step
      (System.World.initial (processRunner plainTexts) {}) staleRun).any staleVerdict = true := by
    decide +kernel
  obtain ⟨w, hw, hstale⟩ := (Option.any_eq_true _ _).mp hverdict
  unfold staleVerdict at hstale
  split at hstale
  next request result hreturned =>
    obtain ⟨hcancelled, hasked⟩ := Bool.and_eq_true_iff.mp hstale
    exact ⟨w, request, result, hw, hreturned, hcancelled, by simpa using hasked⟩
  · cases hstale

end Runs

end JoyMesh.Processes
