import JoyMesh.Runs.Counter
import Mathlib.Data.List.Nodup

namespace JoyMesh.Runs.Counter

open JoyMesh.Library

section Discipline

variable {s t : counters.State} {shared after : Shared} {id other : Nat}
  {runId harnessId runId' harnessId' : String} {event : counters.Event} {op : Op} {choice : Choice}
  {answer : Except Fault op.Reply} {call : Call}

def Executes (id : Nat) (runId harnessId : String) (s : counters.State) : Prop :=
  (.entered id ⟨runId, harnessId⟩ : counters.Event) ∈ s.history

-- Where the task of a run stands: its start is not marked yet, is marked and not undone, or
-- is undone.
inductive Phase where
  | fresh
  | opened
  | undone

def Stands (phase : Phase) (runId harnessId : String) (s : Shared) : Prop :=
  match phase with
  | .fresh => runId ∉ s.marked ∧ runId ∉ s.done
  | .opened => (runId, harnessId) ∈ s.opened
  | .undone => runId ∈ s.undone

-- The open calls are those that are marked and not undone, once each.
structure Sound (s : Shared) : Prop extends Balanced s where
  executed : s.marked ⊆ s.executed
  distinct : (s.opened.map Prod.fst).Nodup
  open_iff : ∀ runId, runId ∈ s.opened.map Prod.fst ↔ runId ∈ s.marked ∧ runId ∉ s.undone

theorem Sound.empty : Sound {} where
  count _ := rfl
  once := List.nodup_nil
  started := List.Subset.refl _
  undone _ := nofun
  executed := List.Subset.refl _
  distinct := List.nodup_nil
  open_iff _ := by simp

theorem Sound.mark (h : Sound shared) (hfresh : runId ∉ shared.marked)
    (hdone : runId ∉ shared.done) (hexecuted : runId ∈ shared.executed) : Sound (shared.mark runId harnessId) where
  count harness := by
    rw [Shared.mark, List.countP_cons, ← h.count harness]
    by_cases hsame : harness = harnessId
    · subst hsame
      simp
    · simp [Function.update_of_ne hsame, Ne.symm hsame]
  once := h.once
  started := List.subset_cons_of_subset _ h.started
  undone run hrun hmarked := by
    rcases List.mem_cons.mp hmarked with rfl | hmarked
    · exact absurd hrun hdone
    · exact h.undone run hrun hmarked
  executed := List.cons_subset.mpr ⟨hexecuted, h.executed⟩
  distinct := by
    refine List.nodup_cons.mpr ⟨fun hmem => hfresh ?_, h.distinct⟩
    exact ((h.open_iff runId).mp hmem).1
  open_iff run := by
    have hnot : runId ∉ shared.undone := fun hmem => hfresh (h.started hmem)
    simp only [Shared.mark, List.map_cons, List.mem_cons, h.open_iff run]
    constructor
    · rintro (rfl | ⟨hmarked, hundone⟩)
      · exact ⟨.inl rfl, hnot⟩
      · exact ⟨.inr hmarked, hundone⟩
    · rintro ⟨rfl | hmarked, hundone⟩
      · exact .inl rfl
      · exact .inr ⟨hmarked, hundone⟩

theorem Sound.unmark (h : Sound shared) (hopen : (runId, harnessId) ∈ shared.opened) :
    Sound (shared.unmark runId harnessId) := by
  have hmem := (h.open_iff runId).mp (List.mem_map_of_mem hopen)
  refine ⟨⟨fun harness => ?_, List.nodup_cons.mpr ⟨hmem.2, h.once⟩,
    List.cons_subset.mpr ⟨hmem.1, h.started⟩, fun run hdone hmarked =>
      List.mem_cons_of_mem _ (h.undone run hdone hmarked)⟩, h.executed, ?_, fun run => ?_⟩
  · have hcount := h.count harness
    rw [(List.perm_cons_erase hopen).countP_eq, List.countP_cons] at hcount
    by_cases hsame : harness = harnessId
    · subst hsame
      simp [Shared.unmark, hcount]
    · simpa [Shared.unmark, Function.update_of_ne hsame, Ne.symm hsame] using hcount
  · exact h.distinct.sublist ((List.erase_sublist ..).map Prod.fst)
  · have hpairs : shared.opened.Nodup := List.Nodup.of_map Prod.fst h.distinct
    simp only [Shared.unmark, List.mem_map, hpairs.mem_erase_iff, List.mem_cons, not_or]
    have hiff := h.open_iff run
    rw [List.mem_map] at hiff
    constructor
    · rintro ⟨call, ⟨hne, hcall⟩, rfl⟩
      obtain ⟨hmarked, hundone⟩ := hiff.mp ⟨call, hcall, rfl⟩
      refine ⟨hmarked, fun hsame => hne ?_, hundone⟩
      exact List.inj_on_of_nodup_map h.distinct hcall hopen hsame
    · rintro ⟨hmarked, hne, hundone⟩
      obtain ⟨call, hcall, rfl⟩ := hiff.mpr ⟨hmarked, hundone⟩
      exact ⟨call, ⟨fun hsame => hne (hsame ▸ rfl), hcall⟩, rfl⟩

theorem finish_opened (h : runId ∉ shared.opened.map Prod.fst) :
    (shared.finish runId).opened = shared.opened :=
  List.filter_eq_self.mpr fun call hcall => by
    simpa using fun hsame => h (List.mem_map.mpr ⟨call, hcall, hsame⟩)

theorem Sound.finish (h : Sound shared) (hundone : runId ∈ shared.marked → runId ∈ shared.undone) :
    Sound (shared.finish runId) := by
  have hopen : (shared.finish runId).opened = shared.opened :=
    finish_opened fun hmem =>
      ((h.open_iff runId).mp hmem).2 (hundone ((h.open_iff runId).mp hmem).1)
  refine ⟨⟨fun harness => ?_, h.once, h.started, fun run hrun hmarked => ?_⟩, h.executed, ?_,
    fun run => ?_⟩
  · rw [hopen]
    exact h.count harness
  · rcases List.mem_cons.mp hrun with rfl | hrun
    · exact hundone hmarked
    · exact h.undone run hrun hmarked
  · rw [hopen]
    exact h.distinct
  · rw [hopen]
    exact h.open_iff run

-- Where a start is marked, undone, or left.
def Lawful (id : Nat) (op : Op) (s : counters.State) : Prop :=
  match op with
  | .io _ _ => True
  | .popRequest => True
  | .markRunStarted runId harnessId =>
      Executes id runId harnessId s ∧ Stands .fresh runId harnessId s.shared
  | .markRunning runId harnessId =>
      Executes id runId harnessId s ∧ Stands .opened runId harnessId s.shared
  | .taskDone runId => (∃ harnessId, Executes id runId harnessId s) ∧
      (runId ∈ s.shared.marked → runId ∈ s.shared.undone)

-- Each run is executed by one call, which executes no other.
structure OneTask (s : counters.State) : Prop extends Sound s.shared where
  known : ∀ id runId harnessId, Executes id runId harnessId s → runId ∈ s.shared.executed
  unique : ∀ id other runId harnessId harnessId', Executes id runId harnessId s →
    Executes other runId harnessId' s → id = other
  finished : s.shared.done ⊆ s.shared.executed

-- What the others leave of the task of a run.
structure Left (id : Nat) (s t : counters.State) : Prop where
  history : s.history ⊆ t.history
  marked : ∀ runId harnessId, Executes id runId harnessId s →
    (runId ∈ t.shared.marked ↔ runId ∈ s.shared.marked)
  opened : ∀ runId harnessId, Executes id runId harnessId s →
    ((runId, harnessId) ∈ t.shared.opened ↔ (runId, harnessId) ∈ s.shared.opened)
  undone : ∀ runId harnessId, Executes id runId harnessId s →
    (runId ∈ t.shared.undone ↔ runId ∈ s.shared.undone)
  done : ∀ runId harnessId, Executes id runId harnessId s →
    (runId ∈ t.shared.done ↔ runId ∈ s.shared.done)

theorem Executes.mono (hsub : s.history ⊆ t.history) (h : Executes id runId harnessId s) :
    Executes id runId harnessId t := hsub h

theorem Left.refl : Left id s s :=
  ⟨List.Subset.refl _, fun _ _ _ => Iff.rfl, fun _ _ _ => Iff.rfl, fun _ _ _ => Iff.rfl,
    fun _ _ _ => Iff.rfl⟩

theorem Left.trans {u : counters.State} (hst : Left id s t) (htu : Left id t u) : Left id s u where
  history := List.Subset.trans hst.history htu.history
  marked run harness h := (htu.marked run harness (h.mono hst.history)).trans
    (hst.marked run harness h)
  opened run harness h := (htu.opened run harness (h.mono hst.history)).trans
    (hst.opened run harness h)
  undone run harness h := (htu.undone run harness (h.mono hst.history)).trans
    (hst.undone run harness h)
  done run harness h := (htu.done run harness (h.mono hst.history)).trans (hst.done run harness h)

theorem Left.stands {phase : Phase} (h : Left id s t) (hexecutes : Executes id runId harnessId s)
    (hstands : Stands phase runId harnessId s.shared) : Stands phase runId harnessId t.shared := by
  cases phase with
  | fresh =>
      exact ⟨fun hmem => hstands.1 ((h.marked runId harnessId hexecutes).mp hmem),
        fun hmem => hstands.2 ((h.done runId harnessId hexecutes).mp hmem)⟩
  | opened => exact (h.opened runId harnessId hexecutes).mpr hstands
  | undone => exact (h.undone runId harnessId hexecutes).mpr hstands

-- Nothing changes of the task of a run by what is noted without an effect.
theorem Left.noted : Left id s (s.note event s.shared) :=
  ⟨List.subset_append_left .., fun _ _ _ => Iff.rfl, fun _ _ _ => Iff.rfl, fun _ _ _ => Iff.rfl,
    fun _ _ _ => Iff.rfl⟩

theorem executes_note (h : Executes id runId harnessId (s.note event shared)) :
    Executes id runId harnessId s ∨ event = .entered id ⟨runId, harnessId⟩ := by
  rcases List.mem_append.mp h with h | h
  · exact .inl h
  · exact .inr (List.mem_singleton.mp h).symm

-- What an operation does.
inductive Effect (s : Shared) : (op : Op) → Choice → Except Fault op.Reply → Shared → Prop
  | answered {stage : Stage} {what : Io} {choice : Choice} (hfault : choice.fault = none) :
      Effect s (.io stage what) choice (.ok (choice.reply what)) s
  | raised {stage : Stage} {what : Io} {choice : Choice} {fault : Fault}
      (hfault : choice.fault = some fault) (htimeout : fault = .timeout → what = .runtimeExecute) :
      Effect s (.io stage what) choice (.error fault) s
  | marked {runId harnessId : String} {choice : Choice} :
      Effect s (.markRunStarted runId harnessId) choice (.ok ()) (s.mark runId harnessId)
  | unmarked {runId harnessId : String} {choice : Choice} :
      Effect s (.markRunning runId harnessId) choice (.ok ()) (s.unmark runId harnessId)
  | popped {choice : Choice} : Effect s .popRequest choice (.ok ()) s
  | finished {runId : String} {choice : Choice} :
      Effect s (.taskDone runId) choice (.ok ()) (s.finish runId)

theorem effect_cases (h : effect op choice shared = some (answer, after)) :
    Effect shared op choice answer after := by
  cases op with
  | io stage what =>
      simp only [effect] at h
      split at h
      next hfault =>
        cases h
        exact .answered hfault
      next fault hfault =>
        split at h
        · cases h
        next hallowed =>
          cases h
          exact .raised hfault fun htimeout => by_contra fun hne => hallowed ⟨htimeout, hne⟩
  | markRunStarted =>
      cases h
      exact .marked
  | markRunning =>
      cases h
      exact .unmarked
  | popRequest =>
      cases h
      exact .popped
  | taskDone =>
      cases h
      exact .finished

theorem OneTask.did (h : OneTask s) (hlawful : Lawful id op s)
    (heffect : effect op choice s.shared = some (answer, after)) :
    OneTask (s.note (.did id op answer) after) := by
  have hback : ∀ {call run harness}, Executes call run harness (s.note (.did id op answer) after) →
      Executes call run harness s := by
    intro call run harness hcall
    rcases executes_note hcall with hcall | heq
    · exact hcall
    · cases heq
  have hunique : ∀ call other run harness harness',
      Executes call run harness (s.note (.did id op answer) after) →
        Executes other run harness' (s.note (.did id op answer) after) → call = other :=
    fun call other run harness harness' hcall hother =>
      h.unique call other run harness harness' (hback hcall) (hback hother)
  cases effect_cases heffect with
  | answered => exact ⟨h.toSound, fun _ _ _ hcall => h.known _ _ _ (hback hcall), hunique, h.finished⟩
  | raised => exact ⟨h.toSound, fun _ _ _ hcall => h.known _ _ _ (hback hcall), hunique, h.finished⟩
  | popped => exact ⟨h.toSound, fun _ _ _ hcall => h.known _ _ _ (hback hcall), hunique, h.finished⟩
  | @marked run harness =>
      obtain ⟨hexecutes, hfresh, hdone⟩ := hlawful
      exact ⟨h.toSound.mark hfresh hdone (h.known id run harness hexecutes),
        fun _ _ _ hcall => h.known _ _ _ (hback hcall), hunique, h.finished⟩
  | unmarked =>
      exact ⟨h.toSound.unmark hlawful.2, fun _ _ _ hcall => h.known _ _ _ (hback hcall), hunique,
        h.finished⟩
  | @finished run =>
      obtain ⟨⟨harness, hexecutes⟩, hundone⟩ := hlawful
      exact ⟨h.toSound.finish hundone, fun _ _ _ hcall => h.known _ _ _ (hback hcall), hunique,
        List.cons_subset.mpr ⟨h.known id run harness hexecutes, h.finished⟩⟩

-- One run is executed by one call: what another does is about another run.
theorem OneTask.ne_run (h : OneTask s) (hne : id ≠ other) (hid : Executes id runId harnessId s)
    (hother : Executes other runId' harnessId' s) : runId' ≠ runId := by
  rintro rfl
  exact hne (h.unique id other runId' harnessId harnessId' hid hother)

theorem Left.did (h : OneTask s) (hne : id ≠ other) (hlawful : Lawful id op s)
    (heffect : effect op choice s.shared = some (answer, after)) :
    Left other s (s.note (.did id op answer) after) := by
  have hsub : s.history ⊆ (s.note (.did id op answer) after).history :=
    List.subset_append_left ..
  cases effect_cases heffect with
  | answered => exact .noted
  | raised => exact .noted
  | popped => exact .noted
  | @marked runId harnessId =>
      obtain ⟨hexecutes, -⟩ := hlawful
      refine ⟨hsub, fun run harness hother => ?_, fun run harness hother => ?_,
        fun _ _ _ => Iff.rfl, fun _ _ _ => Iff.rfl⟩
      · simp [Shared.mark, h.ne_run hne hexecutes hother]
      · simp [Shared.mark, h.ne_run hne hexecutes hother]
  | @unmarked runId harnessId =>
      obtain ⟨hexecutes, -⟩ := hlawful
      refine ⟨hsub, fun _ _ _ => Iff.rfl, fun run harness hother => ?_,
        fun run harness hother => ?_, fun _ _ _ => Iff.rfl⟩
      · have hdiffer : (run, harness) ≠ (runId, harnessId) := fun heq =>
          h.ne_run hne hexecutes hother (congrArg Prod.fst heq)
        exact List.mem_erase_of_ne hdiffer
      · simp [Shared.unmark, h.ne_run hne hexecutes hother]
  | @finished runId =>
      obtain ⟨⟨harnessId, hexecutes⟩, -⟩ := hlawful
      refine ⟨hsub, fun _ _ _ => Iff.rfl, fun run harness hother => ?_,
        fun _ _ _ => Iff.rfl, fun run harness hother => ?_⟩
      · simp [Shared.finish, h.ne_run hne hexecutes hother]
      · simp [Shared.finish, h.ne_run hne hexecutes hother]

theorem enter_eq (henter : call.enter shared = some after) :
    call.runId ∉ shared.executed ∧
      after = { shared with executed := call.runId :: shared.executed } := by
  unfold Call.enter at henter
  split at henter
  · cases henter
  next hnew =>
    cases henter
    exact ⟨hnew, rfl⟩

theorem Left.entered (henter : call.enter s.shared = some after) :
    Left other s (s.note (.entered id call) after) := by
  obtain ⟨-, rfl⟩ := enter_eq henter
  exact ⟨List.subset_append_left .., fun _ _ _ => Iff.rfl, fun _ _ _ => Iff.rfl,
    fun _ _ _ => Iff.rfl, fun _ _ _ => Iff.rfl⟩

theorem OneTask.entered (h : OneTask s) (henter : call.enter s.shared = some after) :
    OneTask (s.note (.entered id call) after) := by
  obtain ⟨hnew, rfl⟩ := enter_eq henter
  refine ⟨⟨⟨h.count, h.once, h.started, h.undone⟩, List.subset_cons_of_subset _ h.executed,
    h.distinct, h.open_iff⟩,
    fun other run harness hother => ?_, fun first second run harness harness' hfirst hsecond => ?_,
    List.subset_cons_of_subset _ h.finished⟩
  · rcases executes_note hother with hother | heq
    · exact List.mem_cons_of_mem _ (h.known other run harness hother)
    · cases heq
      exact List.mem_cons_self
  · rcases executes_note hfirst with hbefore | heq
    · rcases executes_note hsecond with hsecond | heq
      · exact h.unique first second run harness harness' hbefore hsecond
      · cases heq
        exact absurd (h.known first _ harness hbefore) hnew
    · cases heq
      rcases executes_note hsecond with hsecond | heq
      · exact absurd (h.known second _ harness' hsecond) hnew
      · cases heq
        rfl

theorem OneTask.left {result : Except Fault Unit} (h : OneTask s) :
    OneTask (s.note (.left id result) s.shared) := by
  have hback : ∀ {call run harness}, Executes call run harness (s.note (.left id result) s.shared) →
      Executes call run harness s := by
    intro call run harness hcall
    rcases executes_note hcall with hcall | heq
    · exact hcall
    · cases heq
  exact ⟨h.toSound, fun _ _ _ hcall => h.known _ _ _ (hback hcall),
    fun _ _ _ _ _ hcall hother => h.unique _ _ _ _ _ (hback hcall) (hback hother), h.finished⟩

def balanceDiscipline : counters.Discipline where
  good := OneTask
  fresh _ _ := True
  rely := Left
  lawful := Lawful
  post _ _ _ _ := True
  admitted _ _ _ := True
  allowed _ op choice _ := Permits op choice
  happens _ _ := True
  rely_refl _ _ := .refl
  rely_trans _ _ _ _ := .trans
  fresh_rely _ _ _ _ _ := trivial
  post_rely _ _ _ _ _ _ _ := trivial
  step_good _ _ _ _ _ _ hgood hlawful _ heffect := hgood.did hlawful heffect
  step_rely _ _ _ _ _ _ _ hne hgood hlawful _ heffect := .did hgood hne hlawful heffect
  enter_good _ _ _ _ hgood _ _ henter := hgood.entered henter
  enter_rely _ _ _ _ _ _ _ _ henter := .entered henter
  leave_good _ _ _ _ hgood _ := hgood.left
  leave_rely _ _ _ _ _ _ _ _ := .noted
  leave_post _ _ _ _ _ := trivial
  outside_good event := nomatch event
  outside_rely event := nomatch event

end Discipline

section Programs

variable {s t : counters.State} {id : Nat} {runId harnessId : String} {phase : Phase}
  {stage : Stage} {what : Io} {after : Except Fault Unit → counters.State → Prop}
  {result : Except Fault Unit} {fault : Fault}

structure On (phase : Phase) (id : Nat) (runId harnessId : String) (s : counters.State) :
    Prop where
  executes : Executes id runId harnessId s
  stands : Stands phase runId harnessId s.shared

theorem On.left (h : On phase id runId harnessId s) (hleft : Left id s t) :
    On phase id runId harnessId t :=
  ⟨h.executes.mono hleft.history, hleft.stands h.executes h.stands⟩

-- Where an await of this stage stops: nothing changes, and only what is tolerated is raised.
def Stopped (stage : Stage) (phase : Phase) (id : Nat) (runId harnessId : String) {α : Type} :
    Except Fault α → counters.State → Prop
  | .ok _, s => On phase id runId harnessId s
  | .error fault, s => On phase id runId harnessId s ∧ Tolerated stage fault

theorem await_holds (hs : On phase id runId harnessId s) :
    (await stage what).Holds balanceDiscipline id (Stopped stage phase id runId harnessId) s := by
  intro t hleft _
  refine ⟨trivial, fun choice answer u hpermits heffect => ?_⟩
  have heffect : effect (.io stage what) choice t.shared = some (answer, u) := heffect
  have hu : On phase id runId harnessId (t.note (.did id (.io stage what) answer) t.shared) :=
    (hs.left hleft).left .noted
  cases effect_cases heffect with
  | answered => exact hu
  | raised hfault => exact ⟨hu, hpermits _ hfault⟩

theorem stopped_bind {α β : Type} {program : CounterM α} {next : α → CounterM β}
    (h : program.Holds balanceDiscipline id (Stopped stage phase id runId harnessId) s)
    (hnext : ∀ value t, On phase id runId harnessId t →
      (next value).Holds balanceDiscipline id (Stopped stage phase id runId harnessId) t) :
    (program >>= next).Holds balanceDiscipline id (Stopped stage phase id runId harnessId) s :=
  h.bind hnext fun _ _ ht => ht

theorem markRunning_holds (hs : On .opened id runId harnessId s)
    (hafter : ∀ t, On .undone id runId harnessId t → after (.ok ()) t) :
    (perform (.markRunning runId harnessId)).Holds balanceDiscipline id after s := by
  intro t hleft _
  have ht := hs.left hleft
  refine ⟨⟨ht.executes, ht.stands⟩, fun choice answer u _ heffect => ?_⟩
  have heffect : effect (.markRunning runId harnessId) choice t.shared = some (answer, u) := heffect
  cases effect_cases heffect with
  | unmarked => exact hafter _ ⟨ht.executes.mono (List.subset_append_left ..), List.mem_cons_self⟩

-- The observation undoes the start first, whatever becomes of it then.
theorem publishRuntimeObservation_holds (hs : On .opened id runId harnessId s) :
    (publishRuntimeObservation runId harnessId stage).Holds balanceDiscipline id
      (Stopped stage .undone id runId harnessId) s := by
  have hobserve : (observeExecution runId harnessId stage).Holds balanceDiscipline id
      (Stopped stage .undone id runId harnessId) s := by
    have hmark : (perform (.markRunning runId harnessId)).Holds balanceDiscipline id
        (fun result t => result = .ok () ∧ On .undone id runId harnessId t) s :=
      markRunning_holds hs fun t ht => ⟨rfl, ht⟩
    refine hmark.bind (fun _ t ht => ?_) nofun
    exact stopped_bind (await_holds ht.2) fun _ _ hu => await_holds hu
  exact stopped_bind hobserve fun _ _ ht => await_holds ht

-- What is asserted where the try block ends: the start is not undone exactly where a
-- handler undoes it.
def Attempted (id : Nat) (runId harnessId : String) :
    Except Fault Unit → counters.State → Prop
  | .ok _, s => On .undone id runId harnessId s
  | .error .abort, s => On .undone id runId harnessId s
  | .error _, s => On .opened id runId harnessId s

theorem Stopped.attempted_tried (h : Stopped .tried .undone id runId harnessId result s) :
    Attempted id runId harnessId result s := by
  cases result with
  | ok => exact h
  | error fault =>
      obtain ⟨hon, hfault⟩ := h
      obtain rfl : fault = .abort := hfault
      exact hon

theorem attempted_trying (h : On .opened id runId harnessId s) (hfault : Tolerated .trying fault) :
    Attempted id runId harnessId (.error fault) s := by
  cases fault with
  | abort => exact absurd rfl hfault
  | _ => exact h

theorem trying_bind {next : what.Reply → CounterM Unit} (hs : On .opened id runId harnessId s)
    (hnext : ∀ value t, On .opened id runId harnessId t →
      (next value).Holds balanceDiscipline id (Attempted id runId harnessId) t) :
    (await .trying what >>= next).Holds balanceDiscipline id (Attempted id runId harnessId) s :=
  (await_holds hs).bind hnext fun _ _ ht => attempted_trying ht.1 ht.2

theorem attempt_holds (hs : On .opened id runId harnessId s) :
    (attempt runId harnessId).Holds balanceDiscipline id (Attempted id runId harnessId) s := by
  refine trying_bind hs fun exitCode t ht => trying_bind ht fun current t ht => ?_
  split
  · exact markRunning_holds ht fun _ hu => hu
  split
  · refine trying_bind ht fun _ t ht => ?_
    refine Program.Holds.mono (fun _ _ h => Stopped.attempted_tried h) ?_
    exact stopped_bind (publishRuntimeObservation_holds ht) fun _ _ hu => await_holds hu
  · refine trying_bind ht fun rateLimit t ht => trying_bind ht fun _ t ht => ?_
    refine Program.Holds.mono (fun _ _ h => Stopped.attempted_tried h) ?_
    refine stopped_bind (publishRuntimeObservation_holds ht) fun _ _ hu =>
      stopped_bind (await_holds hu) fun _ v hv => ?_
    split
    · exact await_holds hv
    · exact .pure hv

def Undone (id : Nat) (runId harnessId : String) (_ : Except Fault Unit)
    (s : counters.State) : Prop := On .undone id runId harnessId s

theorem Stopped.undone (h : Stopped stage .undone id runId harnessId result s) :
    Undone id runId harnessId result s := by
  cases result with
  | ok => exact h
  | error => exact h.1

theorem recorded_holds (hs : On .opened id runId harnessId s) :
    (recorded runId harnessId).Holds balanceDiscipline id (Undone id runId harnessId) s := by
  refine (await_holds hs).bind (fun _ t ht => ?_) fun _ _ ht => ht.2.elim
  have hpublished : (do
      publishRuntimeObservation runId harnessId .handled
      await .handled .event : CounterM Unit).Holds balanceDiscipline id
        (Stopped .handled .undone id runId harnessId) t :=
    stopped_bind (publishRuntimeObservation_holds ht) fun _ _ hu => await_holds hu
  exact hpublished.mono fun _ _ h => h.undone

theorem handle_holds (hs : Attempted id runId harnessId (.error fault) s) :
    (handle runId harnessId fault).Holds balanceDiscipline id (Undone id runId harnessId) s := by
  cases fault with
  | timeout => exact recorded_holds hs
  | cancelled =>
      have hmark : (perform (.markRunning runId harnessId)).Holds balanceDiscipline id
          (fun _ t => On .undone id runId harnessId t) s :=
        markRunning_holds hs fun _ ht => ht
      exact hmark.bind (fun _ _ ht => .throw ht) fun _ _ ht => ht
  | exception => exact recorded_holds hs
  | abort => exact .throw hs

-- What is asserted wherever the program ends is there for what is done in the end.
theorem ending_holds {op : Op} {program : CounterM Unit} {first last : counters.State → Prop}
    (h : program.Holds balanceDiscipline id (fun _ t => first t) s)
    (hop : ∀ t, first t → (perform op).Holds balanceDiscipline id (fun _ u => last u) t) :
    (ending op program).Holds balanceDiscipline id (fun _ t => last t) s := by
  have hcaught : (program.catching fun fault => do
      let _ ← perform op
      throw fault).Holds balanceDiscipline id
        (fun result t => match result with
          | .ok _ => first t
          | .error _ => last t) s :=
    h.catching (fun _ _ ht => ht) fun fault t ht =>
      (hop t ht).bind (fun _ _ hu => .throw hu) fun _ _ hu => hu
  exact hcaught.bind (fun _ t ht => (hop t ht).bind (fun _ _ hu => .pure hu) fun _ _ hu => hu)
    fun _ _ ht => ht

-- What is asserted where _execute ends.
structure Ended (id : Nat) (runId harnessId : String) (s : counters.State) : Prop where
  executes : Executes id runId harnessId s
  undone : runId ∈ s.shared.marked → runId ∈ s.shared.undone

theorem On.ended_fresh (h : On .fresh id runId harnessId s) : Ended id runId harnessId s :=
  ⟨h.executes, fun hmarked => absurd hmarked h.stands.1⟩

theorem On.ended_undone (h : On .undone id runId harnessId s) : Ended id runId harnessId s :=
  ⟨h.executes, fun _ => h.stands⟩

theorem starting_bind {next : what.Reply → CounterM Unit} (hs : On .fresh id runId harnessId s)
    (hnext : ∀ value t, On .fresh id runId harnessId t →
      (next value).Holds balanceDiscipline id (fun _ u => Ended id runId harnessId u) t) :
    (await .starting what >>= next).Holds balanceDiscipline id
      (fun _ t => Ended id runId harnessId t) s :=
  (await_holds hs).bind hnext fun _ _ ht => ht.1.ended_fresh

theorem markRunStarted_bind {next : Unit → CounterM Unit} (hs : On .fresh id runId harnessId s)
    (hnext : ∀ t, On .opened id runId harnessId t →
      (next ()).Holds balanceDiscipline id after t) :
    (perform (.markRunStarted runId harnessId) >>= next).Holds balanceDiscipline id after s := by
  intro t hleft _
  have ht := hs.left hleft
  refine ⟨⟨ht.executes, ht.stands⟩, fun choice answer u _ heffect => ?_⟩
  have heffect : effect (.markRunStarted runId harnessId) choice t.shared = some (answer, u) :=
    heffect
  cases effect_cases heffect with
  | marked => exact hnext _ ⟨ht.executes.mono (List.subset_append_left ..), List.mem_cons_self⟩

theorem popRequest_holds (hs : On phase id runId harnessId s) :
    (perform .popRequest).Holds balanceDiscipline id
      (fun _ t => On phase id runId harnessId t) s := by
  intro t hleft _
  refine ⟨trivial, fun choice answer u _ heffect => ?_⟩
  have heffect : effect .popRequest choice t.shared = some (answer, u) := heffect
  cases effect_cases heffect with
  | popped => exact (hs.left hleft).left .noted

theorem taskDone_holds (hs : Ended id runId harnessId s) :
    (perform (.taskDone runId)).Holds balanceDiscipline id (fun _ _ => True) s := by
  intro t hleft _
  refine ⟨⟨⟨harnessId, hs.executes.mono hleft.history⟩, fun hmarked => ?_⟩, fun _ _ _ _ _ => trivial⟩
  have hbefore := (hleft.marked runId harnessId hs.executes).mp hmarked
  exact (hleft.undone runId harnessId hs.executes).mpr (hs.undone hbefore)

theorem execute_holds (hs : On .fresh id runId harnessId s) :
    (execute runId harnessId).Holds balanceDiscipline id
      (fun _ t => Ended id runId harnessId t) s := by
  refine starting_bind hs fun run t ht => starting_bind ht fun request t ht => ?_
  split
  · exact .pure ht.ended_fresh
  refine starting_bind ht fun _ t ht => starting_bind ht fun _ t ht =>
    starting_bind ht fun _ t ht => ?_
  refine markRunStarted_bind ht fun t ht => ?_
  have hhandled : ((attempt runId harnessId).catching (handle runId harnessId)).Holds
      balanceDiscipline id (Undone id runId harnessId) t :=
    (attempt_holds ht).catching (fun _ _ hu => hu) fun _ _ hu => handle_holds hu
  exact ending_holds hhandled fun t ht =>
    (popRequest_holds ht).mono fun _ _ hu => hu.ended_undone

theorem programs_hold : balanceDiscipline.Programs := by
  intro id call s t hgood _ _ henter
  obtain ⟨hnew, rfl⟩ := enter_eq henter
  have hon : On .fresh id call.runId call.harnessId (s.note (.entered id call)
      { s.shared with executed := call.runId :: s.shared.executed }) :=
    ⟨List.mem_append_right _ (List.mem_singleton_self _), fun hmem => hnew (hgood.executed hmem),
      fun hmem => hnew (hgood.finished hmem)⟩
  exact ending_holds (execute_holds hon) fun _ ht => taskDone_holds ht

end Programs

section Balance

variable {w : counters.World} {labels : List counters.Label}

theorem sound_initial : balanceDiscipline.Sound (.initial counters {}) :=
  System.Discipline.sound_initial
    ⟨Sound.empty, fun _ _ _ h => (nomatch h), fun _ _ _ _ _ h => (nomatch h), List.Subset.refl _⟩
    fun _ => trivial

-- Over every run of any number of calls, nothing that is raised where it is not tolerated
-- keeps the counts what they say.
theorem running_balanced (hrun : run System.World.step (.initial counters {}) labels = some w)
    (hcontained : Along System.World.step Contained (.initial counters {}) labels) :
    Balanced w.state.shared := by
  refine (sound_initial.run programs_hold ?_ hrun).good.toBalanced
  refine hcontained.mono fun w label h => ?_
  cases label with
  | start => trivial
  | go => exact h
  | outside event => exact nomatch event

def goes (id count : Nat) : List counters.Label := List.replicate count (.go id {})

-- The adapter of one run raises, and a second run starts beside it.
def raisedLabels : List counters.Label :=
  [.start 0 ⟨"first", "codex"⟩] ++ goes 0 6 ++ [.start 1 ⟨"second", "codex"⟩] ++ goes 1 6 ++
    [.go 0 { fault := some .exception }] ++ goes 0 7

theorem raised_isSome :
    (run System.World.step (.initial counters {}) raisedLabels).isSome = true := by
  decide +kernel

def raised : counters.World :=
  (run System.World.step (.initial counters {}) raisedLabels).get raised_isSome

theorem raised_balanced : Balanced raised.state.shared :=
  running_balanced (Option.some_get raised_isSome).symm (by decide +kernel)

-- Both runs are executing when the event of the first one's completion is not stored: its
-- start is undone a second time, and the harness of the second one is reported as idle.
def completionLost : List counters.Label :=
  [.start 0 ⟨"first", "codex"⟩] ++ goes 0 6 ++ [.start 1 ⟨"second", "codex"⟩] ++ goes 1 6 ++
    goes 0 7 ++ [.go 0 { fault := some .exception }] ++ goes 0 2

theorem busy_reported_idle :
    ((run System.World.step (.initial counters {}) completionLost).map fun w =>
        (w.state.shared.running "codex", w.state.shared.opened, w.state.shared.undone)) =
      some (0, [("second", "codex")], ["first", "first"]) ∧
      ¬∀ labels w, run System.World.step (.initial counters {}) labels = some w →
        Balanced w.state.shared := by
  have hlost : ((run System.World.step (.initial counters {}) completionLost).map fun w =>
      (w.state.shared.running "codex", w.state.shared.opened, w.state.shared.undone)) =
        some (0, [("second", "codex")], ["first", "first"]) := by decide +kernel
  refine ⟨hlost, fun hall => ?_⟩
  obtain ⟨w, hw, hcount⟩ := Option.map_eq_some_iff.mp hlost
  simp only [Prod.mk.injEq] at hcount
  have hbalanced := (hall completionLost w hw).count "codex"
  rw [hcount.1, hcount.2.1] at hbalanced
  cases hbalanced

end Balance

end JoyMesh.Runs.Counter
