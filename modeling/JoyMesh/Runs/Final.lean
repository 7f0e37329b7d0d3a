import JoyMesh.Library.History
import JoyMesh.Runs.Service

namespace JoyMesh.Runs

open JoyMesh.Library

section Definitions

-- A run that was just made, or one that is found in the database without its task.
def Shared.found : Option RunStatus → Shared
  | none => {}
  | some status => { row := some status, started := true, requested := false, done := true }

-- Once the stored status is terminal, the step does not change it.
def FinalStep (w : runs.World) (label : runs.Label) : Prop :=
  ∀ next, w.step label = some next → ∀ status, status.terminal →
    w.state.shared.row = some status → next.state.shared.row = some status

-- What _execute answers with a status.
def Fault.handled : Fault → Bool
  | .timeout => true
  | .exception => true
  | _ => false

def author : runs.Event → Nat
  | .entered id _ => id
  | .did id _ _ => id
  | .left id _ => id
  | .happened event => nomatch event

-- The call that is the task of the run.
def tasks (s : runs.State) : List Nat :=
  s.history.filterMap fun
    | .entered id (.execute _ _) => some id
    | _ => none

def raised (id : Nat) (s : runs.State) : Bool :=
  s.history.any fun
    | .did other _ (.error fault) => other = id && fault.handled
    | _ => false

def marks (id : Nat) : runs.Event → Bool
  | .did other (.commitRow _ .running) _ => other = id
  | _ => false

-- The call reads a status that is not terminal, or has to answer an exception with one.
def opens (id : Nat) : runs.Event → Bool
  | .did other .getRun (.ok (some status)) => other = id && !status.terminal
  | .did other _ (.error fault) => other = id && fault.handled
  | _ => false

def stays (id : Nat) : runs.Event → Bool
  | .did other (.commitRow _ _) _ => other ≠ id
  | .left other _ => other ≠ id
  | _ => true

-- The call is between what it has read and the status that it writes.
def Writing (id : Nat) (s : runs.State) : Prop :=
  Since (fun event => opens id event) (fun event => stays id event) s.history

instance {id : Nat} {s : runs.State} : Decidable (Writing id s) :=
  inferInstanceAs (Decidable (Since (fun event => opens id event) (fun event => stays id event) _))

def Going (row : Option RunStatus) : Prop := ∀ status ∈ row, status.terminal = false

instance {row : Option RunStatus} : Decidable (Going row) :=
  inferInstanceAs (Decidable (∀ status ∈ row, status.terminal = false))

-- A cancel writes CANCELLED when the task has marked the run as running, or is done, and is not
-- about to write; the task writes how it ended when no cancel is about to write.
def Alone (id : Nat) (s : runs.State) : RunStatus → Prop
  | .cancelled => ((∃ event ∈ s.history, marks (author event) event) ∨ s.shared.done) ∧
      ∀ task ∈ tasks s, ¬Writing task s
  | target => target.terminal → ∀ event ∈ s.history, author event ≠ id →
      ¬Writing (author event) s

instance {id : Nat} {s : runs.State} : DecidablePred (Alone id s) := fun target => by
  cases target <;> dsimp only [Alone] <;> infer_instance

-- The first timeout or exception of the task.
def FirstFault (id : Nat) (choice : Choice) (s : runs.State) : Prop :=
  id ∈ tasks s ∧ raised id s = false ∧ choice.fault.any Fault.handled

instance {id : Nat} {choice : Choice} {s : runs.State} : Decidable (FirstFault id choice s) :=
  inferInstanceAs (Decidable (_ ∧ _))

-- It comes while the stored status is not terminal, and not out of a commit that has written.
def Undisturbed (id : Nat) (op : Op) (choice : Choice) (s : runs.State) : Prop :=
  (FirstFault id choice s → Going s.shared.row) ∧
    match op with
    | .commitRow loaded target => (choice.fault = none ∨ choice.wrote) → loaded ≠ target →
        ¬FirstFault id choice s ∧ Alone id s target
    | _ => True

instance {id : Nat} {choice : Choice} {s : runs.State} (op : Op) :
    Decidable (Undisturbed id op choice s) := by
  cases op <;> dsimp only [Undisturbed] <;> infer_instance

def Timely (w : runs.World) : runs.Label → Prop
  | .go id choice => ∀ op ∈ w.awaiting id, Undisturbed id op choice w.state
  | _ => True

instance {w : runs.World} : ∀ label, Decidable (Timely w label)
  | .go _ _ => inferInstanceAs (Decidable (∀ op ∈ _, Undisturbed _ op _ _))
  | .start _ _ => .isTrue trivial
  | .outside event => nomatch event

end Definitions

section Discipline

variable {s t : runs.State} {id other : Nat} {event : runs.Event} {shared : Shared} {op : Op}
  {choice : Choice} {first after : Shared}

def Executes (id : Nat) (s : runs.State) : Prop := id ∈ tasks s

-- What a cancel can find that has read the run before its end.
def Uncompleted (row : Option RunStatus) : Prop :=
  ∀ status ∈ row, status.terminal → status = .cancelled

-- Only the task writes another status than CANCELLED, and none over a terminal one.
def Lawful (id : Nat) (op : Op) (s : runs.State) : Prop :=
  match op with
  | .commitRow _ target => (∀ status ∈ s.shared.row, status.terminal → status = target) ∧
      (target = .cancelled ∨ Executes id s)
  | .taskDone => Executes id s
  | _ => True

structure OneTask (s : runs.State) : Prop where
  fresh : s.shared.started = false → Going s.shared.row ∧ s.shared.done = false
  started : ∀ id, Executes id s → s.shared.started
  unique : ∀ id other, Executes id s → Executes other s → id = other
  marked : ∀ event ∈ s.history, marks (author event) event → Executes (author event) s

-- What the others leave of the row and of the history.
structure Left (id : Nat) (s t : runs.State) : Prop where
  history : s.history ⊆ t.history
  own : ∀ event ∈ t.history, author event = id → event ∈ s.history
  writing : Writing id s → Writing id t
  row : Executes id s → t.shared.row = s.shared.row ∨ t.shared.row = some .cancelled
  held : Executes id s → Writing id s → t.shared.row = s.shared.row
  early : Executes id s → (∀ event ∈ s.history, ¬marks id event) → s.shared.done = false →
    t.shared.row = s.shared.row ∧ t.shared.done = false
  waits : Writing id s → Uncompleted s.shared.row → Uncompleted t.shared.row

theorem mem_note {event other : runs.Event} :
    other ∈ (s.note event shared).history ↔ other ∈ s.history ∨ other = event := by
  simp

theorem Executes.mono (hsub : s.history ⊆ t.history) (h : Executes id s) : Executes id t := by
  obtain ⟨event, hmem, htask⟩ := List.mem_filterMap.mp h
  exact List.mem_filterMap.mpr ⟨event, hsub hmem, htask⟩

theorem executes_note : Executes id (s.note event shared) ↔
    Executes id s ∨ ∃ subscribed lines, event = .entered id (.execute subscribed lines) := by
  simp only [Executes, tasks, System.State.note_history, List.filterMap_append, List.mem_append]
  refine or_congr_right ?_
  rw [List.mem_filterMap]
  constructor
  · rintro ⟨other, hother, htask⟩
    obtain rfl := List.mem_singleton.mp hother
    split at htask
    · cases htask
      exact ⟨_, _, rfl⟩
    · cases htask
  · rintro ⟨subscribed, lines, rfl⟩
    exact ⟨_, List.mem_singleton_self _, rfl⟩

theorem executes_did {answer : Except Fault op.Reply} :
    Executes id (s.note (.did other op answer) shared) ↔ Executes id s := by
  simp [executes_note]

theorem marks_author (h : marks id event) : author event = id := by
  unfold marks at h
  split at h
  · simpa [author] using h
  · cases h

theorem stays_of_author (h : author event ≠ id) : stays id event := by
  unfold stays
  split
  · simpa [author] using h
  · simpa [author] using h
  · rfl

theorem author_of_opens (h : opens id event) : author event = id := by
  unfold opens at h
  split at h
  · simp only [Bool.and_eq_true, decide_eq_true_eq] at h
    exact h.1
  · simp only [Bool.and_eq_true, decide_eq_true_eq] at h
    exact h.1
  · cases h

theorem Writing.mem (h : Writing id s) : ∃ event ∈ s.history, author event = id := by
  obtain ⟨event, hmem, hopens⟩ := h.start
  exact ⟨event, hmem, author_of_opens hopens⟩

theorem Writing.noted (h : Writing id s) (hstays : stays id event) :
    Writing id (s.note event shared) :=
  since_concat.mpr (.inr ⟨h, hstays⟩)

theorem Going.uncompleted {row : Option RunStatus} (h : Going row) : Uncompleted row :=
  fun status hrow hterminal => by simp [h status hrow] at hterminal

theorem uncompleted_cancelled : Uncompleted (some .cancelled) :=
  fun _ hrow _ => (Option.some.inj hrow).symm

-- What an operation does to the row, and to what is kept of the task.
inductive Moved (op : Op) (choice : Choice) (first after : Shared) : Prop
  | same (hrow : after.row = first.row) (hdone : after.done = first.done)
  | ended (hop : op = .taskDone) (hrow : after.row = first.row)
  | wrote {loaded target : RunStatus} (hop : op = .commitRow loaded target)
      (hwrites : choice.fault = none ∨ choice.wrote) (hne : loaded ≠ target)
      (hrow : after.row = first.row.map fun _ => target) (hdone : after.done = first.done)

theorem answered_shared {α : Type} {value : α} {answer : Except Fault α}
    (h : answered choice value first = some (answer, after)) : after = first := by
  unfold answered at h
  split at h <;> cases h
  · rfl
  · rfl

theorem effect_moved {answer : Except Fault op.Reply}
    (h : effect op choice first = some (answer, after)) :
    after.started = first.started ∧ Moved op choice first after := by
  cases op with
  | commitRow loaded target =>
      simp only [effect] at h
      split at h
      · next hwrites =>
          obtain rfl := answered_shared h
          by_cases hne : loaded = target
          · rw [Shared.write, if_pos hne]
            exact ⟨rfl, .same rfl rfl⟩
          · rw [Shared.write, if_neg hne]
            exact ⟨rfl, .wrote rfl hwrites hne rfl rfl⟩
      · obtain rfl := answered_shared h
        exact ⟨rfl, .same rfl rfl⟩
  | loadRow =>
      simp only [effect] at h
      split at h
      · cases h
        exact ⟨rfl, .same rfl rfl⟩
      · obtain rfl := answered_shared h
        exact ⟨rfl, .same rfl rfl⟩
  | runtime =>
      simp only [effect] at h
      split at h <;> (cases h; exact ⟨rfl, .same rfl rfl⟩)
  | gatherTask =>
      simp only [effect] at h
      split at h
      · obtain rfl := answered_shared h
        exact ⟨rfl, .same rfl rfl⟩
      · cases h
  | taskDone =>
      cases h
      exact ⟨rfl, .ended rfl rfl⟩
  | findRequest | popRequest | findTask | cancelTask =>
      cases h
      exact ⟨rfl, .same rfl rfl⟩
  | _ =>
      obtain rfl := answered_shared h
      exact ⟨rfl, .same rfl rfl⟩

theorem OneTask.noted (h : OneTask s)
    (hevent : ∀ id subscribed lines, event ≠ .entered id (.execute subscribed lines))
    (hmarks : marks (author event) event → Executes (author event) s)
    (hstarted : shared.started = s.shared.started)
    (hfresh : s.shared.started = false → Going shared.row ∧ shared.done = false) :
    OneTask (s.note event shared) := by
  have hback : ∀ id, Executes id (s.note event shared) → Executes id s := by
    intro id hid
    rcases executes_note.mp hid with hid | ⟨subscribed, lines, rfl⟩
    · exact hid
    · exact absurd rfl (hevent id subscribed lines)
  refine ⟨fun hnot => hfresh (hstarted ▸ hnot), fun id hid => hstarted ▸ h.started id (hback id hid),
    fun id other hid hother => h.unique id other (hback id hid) (hback other hother),
    fun other hother hmark => ?_⟩
  rcases mem_note.mp hother with hother | rfl
  · exact executes_note.mpr (.inl (h.marked other hother hmark))
  · exact executes_note.mpr (.inl (hmarks hmark))

theorem OneTask.did {answer : Except Fault op.Reply} (h : OneTask s) (hlawful : Lawful id op s)
    (hallowed : Undisturbed id op choice s)
    (heffect : effect op choice s.shared = some (answer, shared)) :
    OneTask (s.note (.did id op answer) shared) := by
  obtain ⟨hstarted, hmoved⟩ := effect_moved heffect
  refine h.noted (fun _ _ _ he => by cases he) (fun hmarks => ?_) hstarted fun hnot => ?_
  · cases op with
    | commitRow loaded target =>
        cases target with
        | running => exact hlawful.2.resolve_left nofun
        | _ => cases hmarks
    | _ => cases hmarks
  · obtain ⟨hgoing, hdone⟩ := h.fresh hnot
    have hnone : ∀ other, ¬Executes other s := fun other hother => by
      rw [h.started other hother] at hnot
      cases hnot
    cases hmoved with
    | same hrow hsame => exact ⟨hrow ▸ hgoing, hsame ▸ hdone⟩
    | ended hop =>
        subst hop
        exact absurd hlawful (hnone id)
    | @wrote loaded target hop hwrites hne hrow hsame =>
        subst hop
        obtain rfl : target = .cancelled := hlawful.2.resolve_right (hnone id)
        rcases (hallowed.2 hwrites hne).2.1 with ⟨event, hmem, hmarks⟩ | hended
        · exact absurd (h.marked event hmem hmarks) (hnone _)
        · rw [hdone] at hended
          cases hended

theorem OneTask.entered {call : Call} (h : OneTask s)
    (henter : call.enter s.shared = some shared) : OneTask (s.note (.entered id call) shared) := by
  cases call with
  | cancel =>
      cases henter
      exact h.noted (fun _ _ _ he => by cases he) (fun hm => by cases hm) rfl h.fresh
  | execute subscribed lines =>
      simp only [Call.enter] at henter
      split at henter
      · cases henter
      · next hstarted =>
          cases henter
          have honly : ∀ other, Executes other (s.note (.entered id (.execute subscribed lines))
              { s.shared with started := true }) → other = id := by
            intro other hother
            rcases executes_note.mp hother with hother | ⟨_, _, he⟩
            · exact absurd (h.started other hother) hstarted
            · cases he
              rfl
          refine ⟨fun hnot => (Bool.noConfusion hnot), fun _ _ => rfl, fun first second hf hs =>
            (honly first hf).trans (honly second hs).symm, fun event hmem hmark => ?_⟩
          rcases mem_note.mp hmem with hmem | rfl
          · exact executes_note.mpr (.inl (h.marked event hmem hmark))
          · cases hmark

theorem Left.refl : Left id s s where
  history := List.Subset.refl _
  own _ hmem _ := hmem
  writing h := h
  row _ := .inl rfl
  held _ _ := rfl
  early _ _ hdone := ⟨rfl, hdone⟩
  waits _ h := h

theorem Left.trans {u : runs.State} (h : Left id s t) (hnext : Left id t u) : Left id s u where
  history := List.Subset.trans h.history hnext.history
  own event hmem hauthor := h.own event (hnext.own event hmem hauthor) hauthor
  writing hw := hnext.writing (h.writing hw)
  row hid := by
    rcases hnext.row (hid.mono h.history) with hrow | hrow
    · exact hrow ▸ h.row hid
    · exact .inr hrow
  held hid hw := (hnext.held (hid.mono h.history) (h.writing hw)).trans (h.held hid hw)
  early hid hmarks hdone := by
    obtain ⟨hrow, hdone⟩ := h.early hid hmarks hdone
    obtain ⟨hrows, hdone⟩ := hnext.early (hid.mono h.history)
      (fun event hmem hmark => hmarks event (h.own event hmem (marks_author hmark)) hmark) hdone
    exact ⟨hrows.trans hrow, hdone⟩
  waits hw h' := hnext.waits (h.writing hw) (h.waits hw h')

-- What another call notes is none of its own.
theorem Left.noted (hauthor : author event ≠ id)
    (hrow : Executes id s → shared.row = s.shared.row ∨ shared.row = some .cancelled)
    (hheld : Executes id s → Writing id s → shared.row = s.shared.row)
    (hearly : Executes id s → (∀ event ∈ s.history, ¬marks id event) → s.shared.done = false →
      shared.row = s.shared.row ∧ shared.done = false)
    (hwaits : Writing id s → Uncompleted s.shared.row → Uncompleted shared.row) :
    Left id s (s.note event shared) where
  history := List.subset_append_left ..
  own other hmem hother := by
    rcases mem_note.mp hmem with hmem | rfl
    · exact hmem
    · exact absurd hother hauthor
  writing hw := hw.noted (stays_of_author hauthor)
  row := hrow
  held := hheld
  early := hearly
  waits := hwaits

theorem Left.same (hauthor : author event ≠ id) (hrow : shared.row = s.shared.row)
    (hdone : shared.done = s.shared.done) : Left id s (s.note event shared) :=
  .noted hauthor (fun _ => .inl hrow) (fun _ _ => hrow) (fun _ _ h => ⟨hrow, hdone ▸ h⟩)
    fun _ h => hrow ▸ h

theorem OneTask.left {answer : Except Fault op.Reply} (h : OneTask s) (hne : id ≠ other)
    (hlawful : Lawful id op s) (hallowed : Undisturbed id op choice s)
    (heffect : effect op choice s.shared = some (answer, shared)) :
    Left other s (s.note (.did id op answer) shared) := by
  have hauthor : author (.did id op answer) ≠ other := hne
  cases (effect_moved heffect).2 with
  | same hrow hdone => exact .same hauthor hrow hdone
  | ended hop hrow =>
      subst hop
      have hnot : ¬Executes other s := fun hother => hne (h.unique id other hlawful hother)
      exact .noted hauthor (fun hother => absurd hother hnot) (fun hother => absurd hother hnot)
        (fun hother => absurd hother hnot) fun _ hu => hrow ▸ hu
  | @wrote loaded target hop hwrites hne' hrow hdone =>
      subst hop
      obtain ⟨-, halone⟩ := hallowed.2 hwrites hne'
      by_cases hcancelled : target = .cancelled
      · subst hcancelled
        obtain ⟨hready, hidle⟩ := halone
        have hwritten : shared.row = s.shared.row ∨ shared.row = some .cancelled := by
          cases hbefore : s.shared.row with
          | none => exact .inl (by rw [hrow, hbefore]; rfl)
          | some => exact .inr (by rw [hrow, hbefore]; rfl)
        refine .noted hauthor (fun _ => hwritten) (fun hother hw => absurd hw (hidle other hother))
          (fun hother hmarks hnot => ?_) fun _ hu => ?_
        · rcases hready with ⟨event, hmem, hmark⟩ | hready
          · obtain rfl := h.unique _ other (h.marked event hmem hmark) hother
            exact absurd hmark (hmarks event hmem)
          · rw [hnot] at hready
            cases hready
        · rcases hwritten with hwritten | hwritten
          · exact hwritten ▸ hu
          · exact hwritten ▸ uncompleted_cancelled
      · have hid : Executes id s := hlawful.2.resolve_left hcancelled
        have hnot : ¬Executes other s := fun hother => hne (h.unique id other hid hother)
        refine .noted hauthor (fun hother => absurd hother hnot) (fun hother => absurd hother hnot)
          (fun hother => absurd hother hnot) fun hw _ status hstatus hterminal => ?_
        obtain ⟨_, -, rfl⟩ := Option.map_eq_some_iff.mp (hrow ▸ hstatus)
        obtain ⟨event, hmem, rfl⟩ := hw.mem
        have hterminal' : target.terminal → ∀ event ∈ s.history, author event ≠ id →
            ¬Writing (author event) s := by
          cases target with
          | cancelled => exact absurd rfl hcancelled
          | _ => exact halone
        exact absurd hw (hterminal' hterminal event hmem hne.symm)

def taskDiscipline : runs.Discipline where
  good := OneTask
  fresh id s := ∀ event ∈ s.history, author event ≠ id
  rely := Left
  lawful := Lawful
  post _ _ _ _ := True
  admitted _ _ _ := True
  allowed := Undisturbed
  happens _ _ := True
  rely_refl _ _ := .refl
  rely_trans _ _ _ _ hst htu := hst.trans htu
  fresh_rely _ _ _ hleft hfresh event hmem hauthor :=
    hfresh event (hleft.own event hmem hauthor) hauthor
  post_rely _ _ _ _ _ _ _ := trivial
  step_good _ _ _ _ _ _ hg hlawful hallowed heffect := hg.did hlawful hallowed heffect
  step_rely _ _ _ _ _ _ _ hne hg hlawful hallowed heffect := hg.left hne hlawful hallowed heffect
  enter_good _ _ _ _ hg _ _ henter := hg.entered henter
  enter_rely id call other s t hne _ _ henter := by
    cases call with
    | cancel =>
        cases henter
        exact .same hne rfl rfl
    | execute =>
        simp only [Call.enter] at henter
        split at henter <;> cases henter
        exact .same hne rfl rfl
  leave_good _ _ _ _ hg _ :=
    hg.noted (fun _ _ _ he => by cases he) (fun hm => by cases hm) rfl hg.fresh
  leave_rely _ _ _ _ _ hne _ _ := .same hne rfl rfl
  leave_post _ _ _ _ _ := trivial
  outside_good event := nomatch event
  outside_rely event := nomatch event

end Discipline

section Programs

variable {s t : runs.State} {id : Nat} {α β : Type} {A B : runs.State → Prop}
  {P : Option RunStatus → Prop} {shared : Shared} {op : Op} {choice : Choice} {first : Shared}
  {fault : Fault} {target : RunStatus} {subscribed : Bool} {lines : List Line}

-- The awaits that write no status, and do not end the task.
def Quiet : Op → Prop
  | .commitRow _ _ => False
  | .taskDone => False
  | _ => True

theorem Quiet.lawful (hop : Quiet op) : Lawful id op s := by
  cases op with
  | commitRow => exact hop.elim
  | taskDone => exact hop.elim
  | _ => trivial

theorem Quiet.moved {answer : Except Fault op.Reply} {after : Shared} (hop : Quiet op)
    (h : effect op choice first = some (answer, after)) :
    after.row = first.row ∧ after.done = first.done := by
  cases (effect_moved h).2 with
  | same hrow hdone => exact ⟨hrow, hdone⟩
  | ended he =>
      subst he
      exact hop.elim
  | wrote he =>
      subst he
      exact hop.elim

-- The task has had no exception that it has to answer.
def Unfailed (id : Nat) (s : runs.State) : Prop :=
  Executes id s ∧ ∀ op fault, (.did id op (.error fault) : runs.Event) ∈ s.history →
    fault.handled = false

def At (P : Option RunStatus → Prop) (id : Nat) (s : runs.State) : Prop :=
  Unfailed id s ∧ P s.shared.row

-- The run is not marked as running yet.
def Early (id : Nat) (s : runs.State) : Prop :=
  At Going id s ∧ (∀ event ∈ s.history, ¬marks id event) ∧ s.shared.done = false

-- The task is about to write over a status that is not terminal.
def Held (id : Nat) (s : runs.State) : Prop :=
  Executes id s ∧ Writing id s ∧ Going s.shared.row

-- Where an exception has ended a block of the task.
def Failed (id : Nat) (fault : Fault) (s : runs.State) : Prop :=
  Executes id s ∧ (fault.handled → Held id s)

def Ends (id : Nat) (A : runs.State → Prop) : Except Fault α → runs.State → Prop
  | .ok _, s => A s
  | .error fault, s => Failed id fault s

-- Neither the others nor a quiet await of the call take it away.
structure Steady (id : Nat) (A : runs.State → Prop) : Prop where
  relied : ∀ s t, Left id s t → A s → A t
  did : ∀ s (op : Op) (value : op.Reply) shared, Quiet op → shared.row = s.shared.row →
    shared.done = s.shared.done → A s → A (s.note (.did id op (.ok value)) shared)

theorem Unfailed.raised (h : Unfailed id s) : raised id s = false := by
  rw [Runs.raised, List.any_eq_false]
  intro event hmem hraised
  split at hraised
  · simp only [Bool.and_eq_true, decide_eq_true_eq] at hraised
    obtain ⟨rfl, hhandled⟩ := hraised
    rw [h.2 _ _ hmem] at hhandled
    cases hhandled
  · cases hraised

theorem Unfailed.relied (h : Unfailed id s) (hleft : Left id s t) : Unfailed id t :=
  ⟨h.1.mono hleft.history, fun op fault hmem => h.2 op fault (hleft.own _ hmem rfl)⟩

theorem Unfailed.did {value : op.Reply} (h : Unfailed id s) :
    Unfailed id (s.note (.did id op (.ok value)) shared) := by
  refine ⟨executes_did.mpr h.1, fun other fault hmem => ?_⟩
  rcases mem_note.mp hmem with hmem | he
  · exact h.2 other fault hmem
  · cases he

theorem steady_at (hcancelled : P (some .cancelled)) : Steady id (At P id) where
  relied s t hleft h := by
    refine ⟨h.1.relied hleft, ?_⟩
    rcases hleft.row h.1.1 with hrow | hrow
    · exact hrow ▸ h.2
    · exact hrow ▸ hcancelled
  did s op value shared _ hrow _ h := ⟨h.1.did, hrow ▸ h.2⟩

theorem steady_early : Steady id (Early id) where
  relied s t hleft h := by
    obtain ⟨⟨hunfailed, hgoing⟩, hmarks, hdone⟩ := h
    obtain ⟨hrow, hdone⟩ := hleft.early hunfailed.1 hmarks hdone
    exact ⟨⟨hunfailed.relied hleft, hrow ▸ hgoing⟩,
      fun event hmem hmark => hmarks event (hleft.own event hmem (marks_author hmark)) hmark, hdone⟩
  did s op value shared hop hrow hdone h := by
    refine ⟨⟨h.1.1.did, hrow ▸ h.1.2⟩, fun event hmem hmark => ?_, hdone ▸ h.2.2⟩
    rcases mem_note.mp hmem with hmem | rfl
    · exact h.2.1 event hmem hmark
    · cases op with
      | commitRow => exact hop.elim
      | _ => cases hmark

theorem steady_held : Steady id (Held id) where
  relied s t hleft h :=
    ⟨h.1.mono hleft.history, hleft.writing h.2.1, hleft.held h.1 h.2.1 ▸ h.2.2⟩
  did s op value shared hop hrow _ h := by
    refine ⟨executes_did.mpr h.1, h.2.1.noted ?_, hrow ▸ h.2.2⟩
    cases op with
    | commitRow => exact hop.elim
    | _ => rfl

theorem Steady.and (h : Steady id A) (hother : Steady id B) : Steady id fun s => A s ∧ B s where
  relied s t hleft hs := ⟨h.relied s t hleft hs.1, hother.relied s t hleft hs.2⟩
  did s op value shared hop hrow hdone hs :=
    ⟨h.did s op value shared hop hrow hdone hs.1, hother.did s op value shared hop hrow hdone hs.2⟩

theorem steady_unfailed : Steady id (Unfailed id) where
  relied _ _ hleft h := h.relied hleft
  did _ _ _ _ _ _ _ h := h.did

theorem effect_error {after : Shared} (h : effect op choice first = some (.error fault, after)) :
    choice.fault = some fault ∨ first.row = none := by
  have hanswered : ∀ {α : Type} {value : α} {first after : Shared},
      answered choice value first = some (.error fault, after) → choice.fault = some fault := by
    intro α value first after h
    unfold answered at h
    split at h <;> cases h
    assumption
  cases op with
  | commitRow =>
      simp only [effect] at h
      split at h <;> exact .inl (hanswered h)
  | loadRow =>
      simp only [effect] at h
      split at h
      · next hrow => exact .inr hrow
      · exact .inl (hanswered h)
  | runtime =>
      simp only [effect] at h
      split at h <;> cases h
      next hfault => exact .inl hfault
  | gatherTask =>
      simp only [effect] at h
      split at h
      · exact .inl (hanswered h)
      · cases h
  | findRequest | popRequest | taskDone | findTask | cancelTask => cases h
  | _ => exact .inl (hanswered h)

-- An exception of the task comes before the end of the run, and is to be answered.
theorem Unfailed.failed (h : Unfailed id s) (hallowed : Undisturbed id op choice s)
    (heffect : effect op choice s.shared = some (.error fault, shared)) :
    Failed id fault (s.note (.did id op (.error fault)) shared) := by
  refine ⟨executes_did.mpr h.1, fun hhandled => ⟨executes_did.mpr h.1, ?_, ?_⟩⟩
  · exact since_concat.mpr (.inl (by simp [opens, hhandled]))
  · rcases effect_error heffect with hfault | hnone
    · have hfirst : FirstFault id choice s := ⟨h.1, h.raised, by rw [hfault]; exact hhandled⟩
      have hgoing : Going s.shared.row := hallowed.1 hfirst
      cases (effect_moved heffect).2 with
      | same hrow => exact hrow ▸ hgoing
      | ended hop hrow => exact hrow ▸ hgoing
      | wrote hop hwrites hne =>
          subst hop
          exact absurd hfirst (hallowed.2 hwrites hne).1
    · cases (effect_moved heffect).2 with
      | same hrow => simp [Going, hrow, hnone]
      | ended hop hrow => simp [Going, hrow, hnone]
      | wrote hop hwrites hne hrow => simp [Going, hrow, hnone]

-- The rule of an await of the task that writes no status.
theorem quiet_perform (hA : Steady id A) (hunfailed : ∀ s, A s → Unfailed id s) (hop : Quiet op)
    (hs : A s) : (perform op).Holds taskDiscipline id (Ends id A) s := by
  intro t hleft _
  have ht := hA.relied s t hleft hs
  refine ⟨hop.lawful, fun choice answer u hallowed heffect => ?_⟩
  cases answer with
  | ok value =>
      obtain ⟨hrow, hdone⟩ := hop.moved heffect
      exact hA.did t op value u hop hrow hdone ht
  | error fault => exact (hunfailed t ht).failed hallowed heffect

theorem ends_bind {program : RunM α} {next : α → RunM β}
    (h : program.Holds taskDiscipline id (Ends id A) s)
    (hnext : ∀ value t, A t → (next value).Holds taskDiscipline id (Ends id B) t) :
    (program >>= next).Holds taskDiscipline id (Ends id B) s :=
  h.bind hnext fun _ _ ht => ht

-- The rule of a write: what is asserted before it lets it be written.
theorem updateRun_holds {after : Except Fault Unit → runs.State → Prop} (hA : Steady id A)
    (hlawful : ∀ t loaded, A t → Lawful id (.commitRow loaded target) t)
    (hfault : ∀ t choice fault u, A t → Undisturbed id .loadRow choice t →
      effect .loadRow choice t.shared = some (.error fault, u) →
        after (.error fault) (t.note (.did id .loadRow (.error fault)) u))
    (hcommit : ∀ t loaded choice answer u, A t →
      Undisturbed id (.commitRow loaded target) choice t →
        effect (.commitRow loaded target) choice t.shared = some (answer, u) →
          after answer (t.note (.did id (.commitRow loaded target) answer) u)) (hs : A s) :
    (updateRun target).Holds taskDiscipline id after s := by
  refine .perform_bind (fun _ _ _ => trivial) (fun t choice loaded u hleft _ _ heffect => ?_)
    fun t choice fault u hleft _ hallowed heffect =>
      hfault t choice fault u (hA.relied s t hleft hs) hallowed heffect
  have hquiet : Quiet .loadRow := trivial
  have hmoved : u.row = t.shared.row ∧ u.done = t.shared.done := hquiet.moved heffect
  have hu := hA.did t .loadRow loaded u trivial hmoved.1 hmoved.2 (hA.relied s t hleft hs)
  intro v hleft _
  have hv := hA.relied _ v hleft hu
  exact ⟨hlawful v loaded hv, fun choice answer w => hcommit v loaded choice answer w hv⟩

theorem Going.lawful {loaded : RunStatus} (h : Going s.shared.row) (hid : Executes id s) :
    Lawful id (.commitRow loaded target) s :=
  ⟨fun status hstatus hterminal => by simp [h status hstatus] at hterminal, .inr hid⟩

-- The task writes over a status that is not terminal.
theorem updateRun_ends (hA : Steady id A) (hgoing : ∀ s, A s → At Going id s) (hs : A s) :
    (updateRun target).Holds taskDiscipline id
      (Ends id (At (fun row => ∀ status ∈ row, status.terminal → status = target) id)) s := by
  refine updateRun_holds hA (fun t _ ht => (hgoing t ht).2.lawful (hgoing t ht).1.1)
    (fun t _ _ _ ht => (hgoing t ht).1.failed) (fun t loaded choice answer u ht hallowed heffect => ?_) hs
  obtain ⟨hunfailed, hrow⟩ := hgoing t ht
  cases answer with
  | error fault => exact hunfailed.failed hallowed heffect
  | ok value =>
      refine ⟨hunfailed.did, ?_⟩
      have hlawful : Lawful id (.commitRow loaded target) t := hrow.lawful hunfailed.1
      cases (effect_moved heffect).2 with
      | same hsame => exact hsame ▸ hlawful.1
      | ended hop => cases hop
      | wrote hop _ _ hwritten =>
          cases hop
          intro status hstatus _
          obtain ⟨_, -, rfl⟩ := Option.map_eq_some_iff.mp (hwritten ▸ hstatus)
          rfl

theorem executes_every {program : RunM α} (h : program.Every Quiet) (hs : Executes id s) :
    program.Holds taskDiscipline id (fun _ t => Executes id t) s :=
  h.keeping (fun _ _ hop _ _ => hop.lawful) (fun _ _ hleft h => h.mono hleft.history)
    (fun _ _ _ _ _ _ h _ _ => executes_did.mpr h) hs

-- The handler writes while the status is held.
theorem updateRun_held (hs : Held id s) :
    (updateRun target).Holds taskDiscipline id (fun _ t => Executes id t) s :=
  updateRun_holds steady_held (fun _ _ ht => ht.2.2.lawful ht.1)
    (fun _ _ _ _ ht _ _ => executes_did.mpr ht.1) (fun _ _ _ _ _ ht _ _ => executes_did.mpr ht.1) hs

theorem onLine_ends {line : Line} (hs : At Uncompleted id s) :
    (onLine subscribed line).Holds taskDiscipline id (Ends id (At Uncompleted id)) s := by
  have hawait : ∀ {op : Op} {t : runs.State}, Quiet op → At Uncompleted id t →
      (perform op).Holds taskDiscipline id (Ends id (At Uncompleted id)) t := fun hop ht =>
    quiet_perform (steady_at uncompleted_cancelled) (fun _ h => h.1) hop ht
  have htwo : ∀ {first second : RuntimeAwait} {t : runs.State}, At Uncompleted id t →
      (do let _ ← perform (.runtime first); let _ ← perform (.runtime second); return () :
        RunM Unit).Holds taskDiscipline id (Ends id (At Uncompleted id)) t := fun ht =>
    ends_bind (hawait trivial ht) fun _ _ ht => ends_bind (hawait trivial ht) fun _ _ ht => ht
  refine ends_bind (hawait trivial hs) fun _ t ht => ?_
  have hsession : (sessionIdentified line).Holds taskDiscipline id
      (Ends id (At Uncompleted id)) t := by
    unfold sessionIdentified
    split
    · exact htwo ht
    · exact ht
  refine ends_bind hsession fun _ u hu => ?_
  unfold usageRecorded
  split
  · exact htwo hu
  · exact hu

theorem onLines_ends (hs : At Uncompleted id s) :
    (onLines subscribed lines).Holds taskDiscipline id (Ends id (At Uncompleted id)) s := by
  induction lines generalizing s with
  | nil => exact hs
  | cons line rest ih => exact ends_bind (onLine_ends hs) fun _ _ ht => ih ht

theorem runtimeExecute_ends (hs : At Uncompleted id s) :
    (runtimeExecute subscribed lines).Holds taskDiscipline id (Ends id (At Uncompleted id)) s := by
  have hawait : ∀ {await : RuntimeAwait} {t : runs.State}, At Uncompleted id t →
      (perform (.runtime await)).Holds taskDiscipline id (Ends id (At Uncompleted id)) t := fun ht =>
    quiet_perform (steady_at uncompleted_cancelled) (fun _ h => h.1) trivial ht
  refine ends_bind (hawait hs) fun _ t ht => ends_bind (hawait ht) fun _ u hu => ?_
  exact ends_bind (onLines_ends hu) fun _ v hv => hawait hv

theorem answered_ok {value result : α} {after : Shared}
    (h : answered choice value first = some (.ok result, after)) :
    result = value ∧ after = first := by
  unfold answered at h
  split at h <;> cases h
  exact ⟨rfl, rfl⟩

-- A status that is read as not terminal: the call is about to write.
theorem writing_getRun {status : RunStatus} (hgoing : status.terminal = false) :
    Writing id (s.note (.did id .getRun (.ok (some status))) shared) :=
  since_concat.mpr (.inl (by simp [opens, hgoing]))

-- The run is read when the child has exited: where the task goes on, the status is held.
theorem getRun_holds (hs : At Uncompleted id s) : (perform .getRun).Holds taskDiscipline id
    (fun result t => match result with
      | .ok current => Unfailed id t ∧ (¬(current = none ∨ current = some .cancelled) → Held id t)
      | .error fault => Failed id fault t) s := by
  intro t hleft _
  obtain ⟨hunfailed, hrow⟩ := (steady_at uncompleted_cancelled).relied s t hleft hs
  refine ⟨trivial, fun choice answer u hallowed heffect => ?_⟩
  cases answer with
  | error fault => exact hunfailed.failed hallowed heffect
  | ok current =>
      obtain ⟨rfl, rfl⟩ := answered_ok heffect
      refine ⟨hunfailed.did, fun hon => ?_⟩
      cases hcurrent : t.shared.row with
      | none => exact absurd (.inl hcurrent) hon
      | some status =>
          have hgoing : status.terminal = false := by
            by_contra hterminal
            rw [hrow status hcurrent (by simpa using hterminal)] at hcurrent
            exact hon (.inr hcurrent)
          refine ⟨executes_did.mpr hunfailed.1, writing_getRun hgoing, fun other hother => ?_⟩
          obtain rfl := Option.some.inj (hcurrent.symm.trans hother)
          exact hgoing

theorem attempt_ends (hs : At Uncompleted id s) :
    (attempt subscribed lines).Holds taskDiscipline id (Ends id (Unfailed id)) s := by
  have hawait : ∀ {op : Op} {t : runs.State}, Quiet op → Unfailed id t →
      (perform op).Holds taskDiscipline id (Ends id (Unfailed id)) t := fun hop ht =>
    quiet_perform steady_unfailed (fun _ h => h) hop ht
  have hpublish : ∀ {t : runs.State}, Unfailed id t →
      publishRuntimeObservation.Holds taskDiscipline id (Ends id (Unfailed id)) t := fun ht =>
    ends_bind (hawait trivial ht) fun _ _ hu => hawait trivial hu
  have hupdate : ∀ {target : RunStatus} {t : runs.State}, Unfailed id t ∧ Held id t →
      (updateRun target).Holds taskDiscipline id (Ends id _) t := fun ht =>
    updateRun_ends (steady_unfailed.and steady_held) (fun _ h => ⟨h.1, h.2.2.2⟩) ht
  refine ends_bind (runtimeExecute_ends hs) fun exitCode t ht => ?_
  refine (getRun_holds ht).bind (fun current u hu => ?_) fun _ _ h => h
  obtain ⟨hunfailed, hheld⟩ := hu
  split
  · exact hunfailed
  next hon =>
  have hu := And.intro hunfailed (hheld hon)
  split
  · refine ends_bind (hupdate hu) fun _ v hv => ?_
    exact ends_bind (hpublish hv.1) fun _ w hw => hawait trivial hw
  · refine ends_bind (quiet_perform (steady_unfailed.and steady_held) (fun _ h => h.1) trivial hu)
      fun rateLimit v hv => ?_
    refine ends_bind (hupdate hv) fun _ w hw => ?_
    refine ends_bind (hpublish hw.1) fun _ w hw => ends_bind (hawait trivial hw) fun _ w hw => ?_
    split
    · exact hawait trivial hw
    · exact hw

theorem handled_holds (hs : Failed id fault s) :
    (handled fault).Holds taskDiscipline id (fun _ t => Executes id t) s := by
  have hpublish : ∀ t, Executes id t →
      (do publishRuntimeObservation; perform .event : RunM Unit).Holds taskDiscipline id
        (fun _ t => Executes id t) t := fun t ht => by
    refine executes_every (.bind (.perform_bind trivial fun _ => .perform trivial) fun _ => ?_) ht
    exact .perform trivial
  cases fault with
  | timeout | exception => exact (updateRun_held (hs.2 rfl)).bind (fun _ => hpublish) fun _ _ h => h
  | cancelled | abort => exact hs.1

theorem ending_holds {program : RunM Unit} (hlawful : ∀ t, Executes id t → Lawful id op t)
    (h : program.Holds taskDiscipline id (fun _ t => Executes id t) s) :
    (ending op program).Holds taskDiscipline id (fun _ t => Executes id t) s := by
  have hperform : ∀ {next : RunM Unit} {t : runs.State}, Executes id t →
      (∀ u, Executes id u → next.Holds taskDiscipline id (fun _ t => Executes id t) u) →
        (do let _ ← perform op; next : RunM Unit).Holds taskDiscipline id
          (fun _ t => Executes id t) t := fun ht hnext =>
    .perform_bind (fun u hleft _ => hlawful u (ht.mono hleft.history))
      (fun u _ _ _ hleft _ _ _ => hnext _ (executes_did.mpr (ht.mono hleft.history)))
      fun u _ _ _ hleft _ _ _ => executes_did.mpr (ht.mono hleft.history)
  have hcaught : (program.catching fun fault => do
      let _ ← perform op
      throw fault).Holds taskDiscipline id (fun _ t => Executes id t) s :=
    h.catching (fun _ _ ht => ht) fun fault t ht => hperform ht fun _ hu => hu
  exact hcaught.bind (fun _ _ ht => hperform ht fun _ hu => hu) fun _ _ ht => ht

theorem execute_holds (hs : Early id s) :
    (execute subscribed lines).Holds taskDiscipline id (fun _ t => Executes id t) s := by
  have hawait : ∀ (op : Op) {t : runs.State}, Quiet op → Early id t →
      (perform op).Holds taskDiscipline id (Ends id (Early id)) t := fun _ _ hop ht =>
    quiet_perform steady_early (fun _ h => h.1.1) hop ht
  refine (hawait .getRun trivial hs).bind (fun run t ht => ?_) fun _ _ h => h.1
  refine (hawait .findRequest trivial ht).bind (fun request t ht => ?_) fun _ _ h => h.1
  split
  · exact ht.1.1.1
  refine (hawait .adapter trivial ht).bind (fun _ t ht => ?_) fun _ _ h => h.1
  refine (updateRun_ends steady_early (fun _ h => h.1) ht).bind (fun _ u hu => ?_) fun _ _ h => h.1
  have hrunning : At Uncompleted id u := ⟨hu.1, fun status hstatus hterminal => by
    rw [hu.2 status hstatus hterminal] at hterminal
    cases hterminal⟩
  have hevent : (perform .event).Holds taskDiscipline id (Ends id (At Uncompleted id)) u :=
    quiet_perform (steady_at uncompleted_cancelled) (fun _ h => h.1) trivial hrunning
  refine hevent.bind (fun _ v hv => ?_) fun _ _ h => h.1
  exact ending_holds (fun _ _ => trivial) ((attempt_ends hv).catching (fun _ _ h => h.1)
    fun fault w hw => handled_holds hw)

theorem steady_waiting : Steady id fun s => Writing id s ∧ Uncompleted s.shared.row where
  relied s t hleft h := ⟨hleft.writing h.1, hleft.waits h.1 h.2⟩
  did s op value shared hop hrow _ h := by
    refine ⟨h.1.noted ?_, hrow ▸ h.2⟩
    cases op with
    | commitRow => exact hop.elim
    | _ => rfl

theorem updateRun_waiting (hs : Writing id s ∧ Uncompleted s.shared.row) :
    (updateRun .cancelled).Holds taskDiscipline id (fun _ _ => True) s :=
  updateRun_holds steady_waiting (fun _ _ ht => ⟨ht.2, .inl rfl⟩) (fun _ _ _ _ _ _ _ => trivial)
    (fun _ _ _ _ _ _ _ _ => trivial) hs

-- A cancel writes what it has read as not terminal, and waits for nobody to end the run.
theorem cancel_holds : cancel.Holds taskDiscipline id (fun _ _ => True) s := by
  have hquiet : ∀ {α : Type} {program : RunM α} {t : runs.State}, program.Every Quiet →
      program.Holds taskDiscipline id (fun _ _ => True) t := fun h =>
    h.holds (fun _ _ hop _ => hop.lawful) fun _ _ => trivial
  have hrest : (do
      stopTask
      perform .saveCheckpoint
      perform .event
      perform .publish
      perform .flushOnce
      return some .cancelled : RunM (Option RunStatus)).Every Quiet := by
    have hstop : stopTask.Every Quiet := by
      refine .perform_bind trivial fun _ => .perform_bind trivial fun _ => .ite ?_ trivial
      exact .perform_bind trivial fun _ => .perform trivial
    exact .bind hstop fun _ => .perform_bind trivial fun _ => .perform_bind trivial fun _ =>
      .perform_bind trivial fun _ => .perform_bind trivial fun _ => trivial
  refine .perform_bind (fun _ _ _ => trivial) (fun _ _ _ _ _ _ _ _ => ?_) fun _ _ _ _ _ _ _ _ => trivial
  refine .perform_bind (fun _ _ _ => trivial) (fun t choice found u _ _ _ heffect => ?_)
    fun _ _ _ _ _ _ _ _ => trivial
  have hread : found = t.shared.row ∧ u = t.shared := answered_ok heffect
  obtain ⟨hfound, rfl⟩ := hread
  cases found with
  | none => trivial
  | some status =>
      dsimp only
      split
      · trivial
      next hgoing =>
      have hgoing : status.terminal = false := by simpa using hgoing
      have hrow : Uncompleted t.shared.row := by
        refine Going.uncompleted fun other hother => ?_
        obtain rfl := Option.some.inj (hfound.trans hother)
        exact hgoing
      have hupdate : (updateRun .cancelled).Holds taskDiscipline id (fun _ _ => True)
          (t.note (.did id .getRun (.ok (some status))) t.shared) :=
        updateRun_waiting ⟨writing_getRun hgoing, hrow⟩
      exact hupdate.bind (fun _ _ _ => hquiet hrest) fun _ _ _ => trivial

theorem programs_hold : taskDiscipline.Programs := by
  intro id call s t hgood hfresh _ henter
  cases call with
  | cancel => exact cancel_holds
  | execute subscribed lines =>
      simp only [Call.enter] at henter
      split at henter
      · cases henter
      next hnot =>
      cases henter
      obtain ⟨hgoing, hdone⟩ := hgood.fresh (by simpa using hnot)
      have hunmarked : ∀ event ∈ (s.note (.entered id (.execute subscribed lines))
          { s.shared with started := true }).history, ¬marks id event := by
        intro event hmem hmark
        rcases mem_note.mp hmem with hmem | rfl
        · exact hfresh event hmem (marks_author hmark)
        · cases hmark
      have hunraised : ∀ op fault, (.did id op (.error fault) : runs.Event) ∈ (s.note
          (.entered id (.execute subscribed lines)) { s.shared with started := true }).history →
            fault.handled = false := by
        intro op fault hmem
        rcases mem_note.mp hmem with hmem | he
        · exact absurd rfl (hfresh _ hmem)
        · cases he
      have hearly : Early id (s.note (.entered id (.execute subscribed lines))
          { s.shared with started := true }) :=
        ⟨⟨⟨executes_note.mpr (.inr ⟨subscribed, lines, rfl⟩), hunraised⟩, hgoing⟩, hunmarked, hdone⟩
      have hexecute : (execute subscribed lines).Holds taskDiscipline id (fun _ t => Executes id t)
          (s.note (.entered id (.execute subscribed lines)) { s.shared with started := true }) :=
        execute_holds hearly
      have hlawful : ∀ t, Executes id t → Lawful id .taskDone t := fun _ h => h
      have hending := ending_holds hlawful hexecute
      exact hending.bind (fun _ _ _ => trivial) fun _ _ _ => trivial

end Programs

section Finality

variable {w : runs.World} {label : runs.Label} {labels : List runs.Label}

theorem sound_found (before : Option RunStatus) :
    taskDiscipline.Sound (.initial runs (Shared.found before)) := by
  have hnone : ∀ id, ¬Executes id { shared := Shared.found before } :=
    fun _ hid => absurd hid List.not_mem_nil
  refine System.Discipline.sound_initial ⟨fun hnot => ?_, fun id hid => absurd hid (hnone id),
    fun id _ hid => absurd hid (hnone id), fun _ hmem => absurd hmem List.not_mem_nil⟩
    fun _ _ hmem => absurd hmem List.not_mem_nil
  cases before with
  | none => exact ⟨fun status hstatus => Option.some.inj hstatus ▸ rfl, rfl⟩
  | some => cases hnot

theorem enter_row {call : Call} {first after : Shared} (h : call.enter first = some after) :
    after.row = first.row := by
  cases call with
  | cancel =>
      cases h
      rfl
  | execute =>
      simp only [Call.enter] at h
      split at h <;> cases h
      rfl

-- What is lawful overwrites a terminal status by itself alone.
theorem final_of_sound (hw : taskDiscipline.Sound w) : FinalStep w label := by
  intro next hnext status hterminal hrow
  cases label with
  | start id call =>
      cases System.World.step_cases hnext with
      | start _ henter => simpa [enter_row henter] using hrow
  | outside event => exact nomatch event
  | go id choice =>
      obtain ⟨op, answer, hop, heffect⟩ := System.World.step_go_effect hnext
      cases (effect_moved heffect).2 with
      | same hsame => exact hsame.trans hrow
      | ended _ hsame => exact hsame.trans hrow
      | @wrote loaded target he _ _ hwritten =>
          subst he
          have hlawful : Lawful id (.commitRow loaded target) w.state := hw.lawful hop
          rw [hwritten, hrow, hlawful.1 status hrow hterminal]
          rfl

-- Over every run of cancel calls beside the task of the run, a terminal status is never changed
-- where no call writes between what another reads and what it writes.
theorem statuses_final (before : Option RunStatus) (labels : List runs.Label)
    (htimely : Along System.World.step Timely (.initial runs (Shared.found before)) labels) :
    Along System.World.step FinalStep (.initial runs (Shared.found before)) labels := by
  refine htimely.of_invariant (fun w label next hw hmeets hstep => ?_)
    (fun _ _ hw _ => final_of_sound hw) (sound_found before)
  refine hw.step programs_hold ?_ hstep
  cases label with
  | start => trivial
  | go => exact hmeets
  | outside event => exact nomatch event

-- The run is cancelled while its child is running: the task reads that, and so does the next
-- cancel.
def cancelledBetween : List runs.Label := [
  .start 0 (.execute false []),
  .go 0 {}, .go 0 {}, .go 0 {}, .go 0 {}, .go 0 {}, .go 0 {}, .go 0 {}, .go 0 {},
  .start 1 .cancel,
  .go 1 {}, .go 1 {}, .go 1 {}, .go 1 {}, .go 1 { terminated := true }, .go 1 {},
  .go 0 { exitCode := -15 }, .go 0 {}, .go 0 {}, .go 0 {},
  .start 2 .cancel, .go 2 {}, .go 2 {}, .go 1 {}, .go 1 {}, .go 1 {}, .go 1 {}]

theorem statuses_final_cancelled :
    (run System.World.step (.initial runs (Shared.found none)) cancelledBetween).map
        (fun w => (w.state.shared.row, w.state.shared.done)) = some (some .cancelled, true) ∧
      Along System.World.step FinalStep (.initial runs (Shared.found none)) cancelledBetween :=
  ⟨by decide +kernel, statuses_final none cancelledBetween (by decide +kernel)⟩

-- The child has exited and the run is read as running; then it is cancelled, and stored
-- as completed.
def cancelledLate : List runs.Label := [
  .start 0 (.execute false []),
  .go 0 {}, .go 0 {}, .go 0 {}, .go 0 {}, .go 0 {}, .go 0 {}, .go 0 {}, .go 0 {}, .go 0 {},
  .go 0 {},
  .start 1 .cancel,
  .go 1 {}, .go 1 {}, .go 1 {}, .go 1 {},
  .go 0 {}]

theorem cancelled_overwritten :
    ¬Along System.World.step FinalStep (.initial runs (Shared.found none))
      (cancelledLate ++ [.go 0 {}]) := by
  have hbefore : (run System.World.step (.initial runs (Shared.found none)) cancelledLate).map
      (fun w => w.state.shared.row) = some (some .cancelled) := by decide +kernel
  have hafter : (run System.World.step (.initial runs (Shared.found none))
      (cancelledLate ++ [.go 0 {}])).map (fun w => w.state.shared.row) =
        some (some .completed) := by decide +kernel
  intro h
  obtain ⟨w, hw, hrow⟩ := Option.map_eq_some_iff.mp hbefore
  obtain ⟨next, hnext, hchanged⟩ := Option.map_eq_some_iff.mp hafter
  rw [run_append, hw] at hnext
  simp only [Option.bind_some, run_cons, run_nil, Option.bind_fun_some] at hnext
  have hfinal := along_iff_forall.mp h cancelledLate (.go 0 {}) [] w rfl hw
  have hkept := hfinal next hnext .cancelled rfl hrow
  rw [hchanged] at hkept
  cases hkept

end Finality

end JoyMesh.Runs
