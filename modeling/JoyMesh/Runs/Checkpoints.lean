import JoyMesh.Runs.Calls

namespace JoyMesh.Runs.Calls

open JoyMesh.Library JoyMesh.Routing JoyMesh.Harnesses

section Definitions

variable (registry : HarnessRegistry) (s : Shared)

-- The execution of a run: the one that the caller gives, or the run itself.
def execution (runId : String) (run : StartedRun) : String :=
  (given run.request.executionId).getD runId

def RunRow.execution (row : RunRow) : String := Calls.execution row.id row.run

def Shared.latest (executionId : String) : Option RunRow :=
  s.rows.find? (·.execution = executionId)

-- Its latest run has not ended.
def Shared.Open (executionId : String) : Prop :=
  ∃ row ∈ s.latest executionId, row.status.terminal = false

-- What an interrupted checkpoint has besides is never saved here.
def resumable (status : RunStatus) : Bool := status = .running || status = .queued

def Shared.listResumable : List String :=
  (s.checkpoints.entries.filter fun entry => resumable entry.2.status).map Sigma.fst

def Shared.Resumable (executionId : String) : Prop :=
  ∃ checkpoint ∈ s.checkpoints.lookup executionId, resumable checkpoint.status

-- The latest run of an execution is the one that it is named after.
def Shared.Leads (runId : String) : Prop := ∃ row ∈ s.latest runId, row.id = runId

-- No call but the tasks of the runs is in progress.
def Idle (w : (calls registry).World) : Prop :=
  ∀ id thread, w.threads id = some thread → (∀ runId, thread.call ≠ .execute runId) →
    ∃ result, thread.program = .ended result

-- Only a cancel ends the latest run of an execution, which is named after that run, and
-- nothing opens it again. The cancel and a start are not interrupted before their checkpoint,
-- which is saved while it says what the run is.
def Permits (choice : Choice) : Op → Prop
  | .createRun run =>
      choice.fault ≠ none → choice.writes → s.Resumable (execution choice.id run)
  | .commitRun runId loaded target => choice.writes → loaded ≠ target →
      ∀ row ∈ s.find runId, s.latest row.execution = some row →
        row.status.terminal ≠ target.terminal →
          target = .cancelled ∧ choice.fault = none ∧ row.execution = runId
  | .runtimeCancel runId => choice.fault ≠ none → ¬s.Leads runId
  | .gatherTask runId => choice.fault ≠ none → ¬s.Leads runId
  | .saveCheckpoint executionId checkpoint =>
      if checkpoint.status = .queued then
        s.Open executionId ∧ (choice.writes = false → s.Resumable executionId)
      else ¬s.Open executionId ∧ (choice.writes = false → ¬s.Leads executionId)
  | _ => True

instance (executionId : String) : Decidable (s.Open executionId) :=
  inferInstanceAs (Decidable (∃ row ∈ s.latest executionId, row.status.terminal = false))

instance (executionId : String) : Decidable (s.Resumable executionId) :=
  inferInstanceAs (Decidable (∃ checkpoint ∈ s.checkpoints.lookup executionId, _))

instance (runId : String) : Decidable (s.Leads runId) :=
  inferInstanceAs (Decidable (∃ row ∈ s.latest runId, row.id = runId))

instance (choice : Choice) : DecidablePred (Permits s choice) := fun op => by
  cases op <;> dsimp only [Permits] <;> infer_instance

def Checkpointed (w : (calls registry).World) : (calls registry).Label → Prop
  | .go id choice => ∀ op ∈ w.awaiting id, Permits w.state.shared choice op
  | _ => True

instance (w : (calls registry).World) : DecidablePred (Checkpointed registry w)
  | .go id choice =>
      inferInstanceAs (Decidable (∀ op ∈ w.awaiting id, Permits w.state.shared choice op))
  | .start _ _ => .isTrue trivial
  | .outside _ => .isTrue trivial

end Definitions

section Executions

variable {s t : Shared} {row : RunRow} {run : StartedRun} {runId executionId : String}
  {target : RunStatus} {checkpoint : Checkpoint}

theorem mem_listResumable : executionId ∈ s.listResumable ↔ s.Resumable executionId := by
  simp only [Shared.listResumable, List.mem_map, List.mem_filter, Shared.Resumable,
    Option.mem_def]
  constructor
  · rintro ⟨⟨key, checkpoint⟩, ⟨hmem, hresumable⟩, rfl⟩
    exact ⟨checkpoint, AList.mem_lookup_iff.mpr hmem, hresumable⟩
  · rintro ⟨checkpoint, hlookup, hresumable⟩
    exact ⟨⟨executionId, checkpoint⟩, ⟨AList.mem_lookup_iff.mp hlookup, hresumable⟩, rfl⟩

theorem latest_eq (h : s.latest executionId = some row) :
    row ∈ s.rows ∧ row.execution = executionId :=
  ⟨List.mem_of_find?_eq_some h, by simpa using List.find?_some h⟩

theorem latest_insert : (s.insert runId run).latest executionId =
    if execution runId run = executionId then some ⟨runId, run, .queued⟩
    else s.latest executionId := by
  rw [Shared.latest, Shared.insert, List.find?_cons]
  simp only [RunRow.execution]
  split
  next h => rw [if_pos (of_decide_eq_true h)]
  next h =>
    rw [if_neg (of_decide_eq_false h)]
    rfl

theorem latest_write : (s.write runId target).latest executionId =
    (s.latest executionId).map fun row =>
      if row.id = runId then { row with status := target } else row := by
  rw [Shared.latest, Shared.write, updateKey, List.find?_map, Shared.latest]
  congr 2
  funext row
  simp only [Function.comp_apply, RunRow.execution]
  split <;> rfl

theorem open_congr (h : t.latest executionId = s.latest executionId) :
    t.Open executionId ↔ s.Open executionId := by
  rw [Shared.Open, h, Shared.Open]

theorem leads_congr (h : t.latest runId = s.latest runId) : t.Leads runId ↔ s.Leads runId := by
  rw [Shared.Leads, h, Shared.Leads]

theorem leads_write : (s.write runId target).Leads executionId ↔ s.Leads executionId := by
  rw [Shared.Leads, latest_write, Shared.Leads]
  constructor
  · rintro ⟨row, hrow, hid⟩
    obtain ⟨before, hbefore, rfl⟩ := Option.map_eq_some_iff.mp hrow
    refine ⟨before, hbefore, ?_⟩
    split at hid <;> exact hid
  · rintro ⟨row, hrow, hid⟩
    refine ⟨_, Option.mem_map_of_mem _ hrow, ?_⟩
    split <;> exact hid

-- A run that leads its execution is the row of its id.
theorem find_eq (hnodup : (s.rows.map RunRow.id).Nodup) (hrow : row ∈ s.rows) :
    s.find row.id = some row := by
  cases hfind : s.find row.id with
  | none => exact absurd (List.mem_map_of_mem hrow) (notMem_of_find hfind)
  | some found =>
      obtain ⟨hfound, hid⟩ := mem_of_find hfind
      rw [List.inj_on_of_nodup_map hnodup hfound hrow hid]

end Executions

section Discipline

variable {registry : HarnessRegistry} {s t : (calls registry).State} {shared after : Shared}
  {id other : Nat} {op : Op} {choice : Choice} {answer : Except Raised op.Reply}
  {runId executionId : String} {α : Type} {value : α} {first : Shared} {target : RunStatus}

-- What a call has written of a run whose checkpoint it has not saved yet.
inductive Due where
  | queued (runId executionId : String)
  | cancelled (runId : String)

def dueAfter (id : Nat) (due : Option Due) : (calls registry).Event → Option Due
  | .did other (.createRun run) (.ok runId) =>
      if other = id then some (.queued runId (execution runId run)) else due
  | .did other (.commitRun runId _ .cancelled) (.ok _) =>
      if other = id then some (.cancelled runId) else due
  | .did other (.saveCheckpoint _ _) _ => if other = id then none else due
  | .left other _ => if other = id then none else due
  | _ => due

def due (id : Nat) (s : (calls registry).State) : Option Due :=
  s.history.foldl (dueAfter id) none

theorem due_note {event : (calls registry).Event} :
    due id (s.note event shared) = dueAfter id (due id s) event := by
  rw [due, System.State.note_history, List.foldl_append]
  rfl

theorem due_other (hne : id ≠ other) :
    due other (s.note (.did id op answer) shared) = due other s := by
  rw [due_note]
  cases op with
  | createRun =>
      cases answer with
      | ok => exact if_neg hne
      | error => rfl
  | commitRun runId loaded target =>
      cases answer with
      | ok =>
          cases target with
          | cancelled => exact if_neg hne
          | _ => rfl
      | error => cases target <;> rfl
  | saveCheckpoint => exact if_neg hne
  | _ => rfl

def Agrees (s : Shared) (executionId : String) : Prop :=
  s.Resumable executionId ↔ s.Open executionId

-- A call will save what the checkpoint of the execution has to say.
def Owes (id : Nat) (executionId : String) (s : (calls registry).State) : Prop :=
  match due id s with
  | none => False
  | some (.queued _ owed) => owed = executionId
  | some (.cancelled runId) => runId = executionId ∧ s.shared.Leads runId

structure Agreed (s : (calls registry).State) : Prop where
  ids : (s.shared.rows.map RunRow.id).Nodup
  agreed : ∀ executionId, Agrees s.shared executionId ∨ ∃ id, Owes id executionId s

-- What a call writes is due, and its checkpoint is saved for what is due.
def Lawful (id : Nat) (op : Op) (s : (calls registry).State) : Prop :=
  match op with
  | .createRun _ => due id s = none
  | .commitRun _ _ _ => due id s = none
  | .saveCheckpoint executionId checkpoint =>
      (checkpoint.status = .queued ∧ ∃ runId, due id s = some (.queued runId executionId)) ∨
        (checkpoint.status = .cancelled ∧ due id s = some (.cancelled executionId))
  | _ => True

-- The others leave what is due, and a run that no longer leads its execution does not again.
structure Left (id : Nat) (s t : (calls registry).State) : Prop where
  due : due id t = due id s
  ids : s.shared.rows.map RunRow.id ⊆ t.shared.rows.map RunRow.id
  leads : ∀ runId ∈ s.shared.rows.map RunRow.id, t.shared.Leads runId → s.shared.Leads runId

theorem Left.refl : Left id s s := ⟨rfl, List.Subset.refl _, fun _ _ h => h⟩

theorem Left.trans {u : (calls registry).State} (hst : Left id s t) (htu : Left id t u) :
    Left id s u where
  due := htu.due.trans hst.due
  ids := List.Subset.trans hst.ids htu.ids
  leads runId hmem h := hst.leads runId hmem (htu.leads runId (hst.ids hmem) h)

theorem Left.same {event : (calls registry).Event} (hdue : Calls.due id (s.note event shared) = Calls.due id s)
    (hrows : shared.rows = s.shared.rows) : Left id s (s.note event shared) where
  due := hdue
  ids := (congrArg (List.map RunRow.id) hrows).symm ▸ List.Subset.refl _
  leads runId _ h := (leads_congr (by rw [Shared.latest, Shared.latest]; exact congrArg _ hrows)).mp h

theorem Left.did (hne : id ≠ other)
    (heffect : effect op choice s.shared = some (answer, after)) :
    Left other s (s.note (.did id op answer) after) := by
  have hdue : Calls.due other (s.note (.did id op answer) after) = Calls.due other s :=
    due_other hne
  cases effect_change heffect with
  | kept hrows => exact .same hdue hrows
  | @stored run _ hnew =>
      refine ⟨hdue, List.subset_cons_self .., fun runId hmem hleads => ?_⟩
      obtain ⟨row, hrow, rfl⟩ := hleads
      rw [System.State.note_shared, Option.mem_def, latest_insert] at hrow
      split at hrow
      · cases hrow
        exact absurd hmem (notMem_of_find hnew)
      · exact ⟨row, hrow, rfl⟩
  | written =>
      exact ⟨hdue, ids_write.symm ▸ List.Subset.refl _, fun runId _ => leads_write.mp⟩

theorem answered_ok {found : α} (h : answered choice value first = some (.ok found, shared)) :
    found = value ∧ choice.fault = none := by
  unfold answered at h
  split at h
  next hfault =>
    cases h
    exact ⟨rfl, hfault⟩
  next => cases h
  next => cases h

theorem answered_error {raised : Raised}
    (h : answered choice value first = some (.error raised, shared)) : choice.fault ≠ none := by
  unfold answered at h
  split at h
  next => cases h
  next => cases h
  next hfault => simp [hfault]

-- What another call owes, it goes on owing where its execution is not overtaken.
theorem Owes.others (h : Owes other executionId s) (hne : id ≠ other)
    (hleads : s.shared.Leads executionId → after.Leads executionId) :
    Owes other executionId (s.note (.did id op answer) after) := by
  rw [Owes, due_other hne]
  rw [Owes] at h
  cases hdue : due other s with
  | none => simp [hdue] at h
  | some owed =>
      cases owed with
      | queued => simpa [hdue] using h
      | cancelled runId =>
          simp only [hdue] at h ⊢
          obtain ⟨rfl, hbefore⟩ := h
          exact ⟨rfl, hleads hbefore⟩

theorem not_owes (h : due id s = none) : ¬Owes id executionId s := by
  simp [Owes, h]

-- Nothing changes where the execution is as open as before, its checkpoint is the same, and
-- nothing is due of the call.
theorem Agreed.kept (h : Agreed s) (hopen : after.Open executionId ↔ s.shared.Open executionId)
    (hlookup : after.checkpoints.lookup executionId = s.shared.checkpoints.lookup executionId)
    (hleads : s.shared.Leads executionId → after.Leads executionId)
    (hself : ¬Owes id executionId s) :
    Agrees after executionId ∨ ∃ call, Owes call executionId (s.note (.did id op answer) after) := by
  rcases h.agreed executionId with hagrees | ⟨call, hcall⟩
  · left
    rw [Agrees, Shared.Resumable, hlookup, hopen]
    exact hagrees
  · right
    have hne : id ≠ call := by
      rintro rfl
      exact hself hcall
    exact ⟨call, hcall.others hne hleads⟩

theorem agreed_createRun {run : StartedRun} {answer : Except Raised String} (h : Agreed s)
    (hdue : due id s = none)
    (hpermits : Permits s.shared choice (.createRun run))
    (heffect : effect (.createRun run) choice s.shared = some (answer, after)) :
    Agrees after executionId ∨
      ∃ call, Owes call executionId (s.note (.did id (.createRun run) answer) after) := by
  simp only [effect] at heffect
  split at heffect
  · cases heffect
  obtain ⟨rfl, -⟩ := answered_shared heffect
  by_cases hstored : choice.writes ∧ execution choice.id run = executionId
  · obtain ⟨hwrites, rfl⟩ := hstored
    rw [if_pos hwrites] at heffect ⊢
    cases answer with
    | ok runId =>
        obtain ⟨rfl, -⟩ := answered_ok heffect
        refine .inr ⟨id, ?_⟩
        rw [Owes, due_note]
        simp [dueAfter]
    | error =>
        left
        have hresumable := hpermits (answered_error heffect) hwrites
        refine iff_of_true hresumable ⟨⟨choice.id, run, .queued⟩, ?_, rfl⟩
        rw [Option.mem_def, latest_insert, if_pos rfl]
  · have hlatest : (if choice.writes then s.shared.insert choice.id run
        else s.shared).latest executionId = s.shared.latest executionId := by
      split
      next hwrites => rw [latest_insert, if_neg fun heq => hstored ⟨hwrites, heq⟩]
      next => rfl
    refine h.kept (open_congr hlatest) ?_ (leads_congr hlatest).mpr (not_owes hdue)
    split <;> rfl

-- A write of the latest run that leaves it as open as it was.
theorem open_write {s : Shared} (hnodup : (s.rows.map RunRow.id).Nodup)
    (hsame : ∀ row ∈ s.find runId, s.latest row.execution = some row →
      row.execution = executionId → row.status.terminal = target.terminal) :
    (s.write runId target).Open executionId ↔ s.Open executionId := by
  rw [Shared.Open, latest_write, Shared.Open]
  cases hlatest : s.latest executionId with
  | none => simp
  | some row =>
      obtain ⟨hrow, hexecution⟩ := latest_eq hlatest
      by_cases hid : row.id = runId
      · subst hid
        have hterminal := hsame row (find_eq hnodup hrow) (hexecution ▸ hlatest) hexecution
        simp [hterminal]
      · simp [hid]

theorem agreed_commitRun {loaded : RunStatus} {answer : Except Raised Unit} (h : Agreed s)
    (hdue : due id s = none) (hpermits : Permits s.shared choice (.commitRun runId loaded target))
    (heffect : effect (.commitRun runId loaded target) choice s.shared = some (answer, after)) :
    Agrees after executionId ∨ ∃ call, Owes call executionId
      (s.note (.did id (.commitRun runId loaded target) answer) after) := by
  simp only [effect] at heffect
  obtain ⟨rfl, -⟩ := answered_shared heffect
  split
  next hwrites =>
    by_cases hcloses : ∃ row ∈ s.shared.find runId, s.shared.latest row.execution = some row ∧
        row.execution = executionId ∧ row.status.terminal ≠ target.terminal
    · obtain ⟨row, hfind, hlatest, rfl, hterminal⟩ := hcloses
      obtain ⟨rfl, hfault, hnamed⟩ := hpermits hwrites.1 hwrites.2 row hfind hlatest hterminal
      cases answer with
      | error => exact absurd hfault (answered_error heffect)
      | ok =>
          refine .inr ⟨id, ?_⟩
          rw [Owes, due_note]
          simp only [dueAfter, if_true]
          have hleads : s.shared.Leads runId := ⟨row, hnamed ▸ hlatest, (mem_of_find hfind).2⟩
          exact ⟨hnamed.symm, leads_write.mpr hleads⟩
    · refine h.kept (open_write h.ids fun row hfind hlatest hexecution => ?_) rfl
        leads_write.mpr (not_owes hdue)
      by_contra hterminal
      exact hcloses ⟨row, hfind, hlatest, hexecution, hterminal⟩
  next => exact h.kept Iff.rfl rfl (fun hleads => hleads) (not_owes hdue)

theorem agreed_saveCheckpoint {savedId : String} {checkpoint : Checkpoint}
    {answer : Except Raised Unit} (h : Agreed s)
    (hlawful : Lawful id (.saveCheckpoint savedId checkpoint) s)
    (hpermits : Permits s.shared choice (.saveCheckpoint savedId checkpoint))
    (heffect : effect (.saveCheckpoint savedId checkpoint) choice s.shared = some (answer, after)) :
    Agrees after executionId ∨ ∃ call, Owes call executionId
      (s.note (.did id (.saveCheckpoint savedId checkpoint) answer) after) := by
  simp only [effect] at heffect
  obtain ⟨rfl, -⟩ := answered_shared heffect
  have hopen : ∀ executionId, (if choice.writes then
      { s.shared with checkpoints := s.shared.checkpoints.insert savedId checkpoint }
      else s.shared).Open executionId ↔ s.shared.Open executionId := fun executionId => by
    split <;> exact Iff.rfl
  by_cases hsame : savedId = executionId
  · subst hsame
    rcases hlawful with ⟨hstatus, -⟩ | ⟨hstatus, hdue⟩
    · obtain ⟨hbefore, hunsaved⟩ := (if_pos hstatus).mp hpermits
      refine .inl (iff_of_true ?_ ((hopen savedId).mpr hbefore))
      split
      next => exact ⟨checkpoint, AList.lookup_insert _, by rw [hstatus]; rfl⟩
      next hwrites => exact hunsaved (by simpa using hwrites)
    · have hpermits := (if_neg (by rw [hstatus]; exact RunStatus.noConfusion)).mp hpermits
      obtain ⟨hbefore, hunsaved⟩ := hpermits
      by_cases hwrites : choice.writes
      · refine .inl (iff_of_false ?_ fun h => hbefore ((hopen savedId).mp h))
        rw [if_pos hwrites]
        rintro ⟨found, hfound, hresumable⟩
        rw [Option.mem_def, AList.lookup_insert] at hfound
        obtain rfl := Option.some.inj hfound
        rw [hstatus] at hresumable
        cases hresumable
      · have hnot : ¬Owes id savedId s := by
          simpa [Owes, hdue] using hunsaved (by simpa using hwrites)
        rw [if_neg hwrites]
        exact h.kept Iff.rfl rfl (fun hleads => hleads) hnot
  · have hnot : ¬Owes id executionId s := by
      rcases hlawful with ⟨-, runId, hdue⟩ | ⟨-, hdue⟩ <;> simp [Owes, hdue, hsame]
    refine h.kept (hopen executionId) ?_ (fun hleads => ?_) hnot
    · split
      next => exact AList.lookup_insert_ne (Ne.symm hsame)
      next => rfl
    · split <;> exact hleads

-- The awaits that write neither a run nor a checkpoint.
def Plain : Op → Prop
  | .createRun _ => False
  | .commitRun _ _ _ => False
  | .saveCheckpoint _ _ => False
  | _ => True

theorem due_plain (hop : Plain op) {call : Nat} :
    due call (s.note (.did id op answer) shared) = due call s := by
  rw [due_note]
  cases op with
  | createRun => exact hop.elim
  | commitRun => exact hop.elim
  | saveCheckpoint => exact hop.elim
  | _ => rfl

theorem effect_plain {s : Shared} (hop : Plain op)
    (heffect : effect op choice s = some (answer, after)) :
    after.rows = s.rows ∧ after.checkpoints = s.checkpoints := by
  cases effect_change heffect with
  | kept hrows hcheckpoints =>
      refine ⟨hrows, hcheckpoints fun executionId checkpoint heq => ?_⟩
      rw [heq] at hop
      exact hop
  | stored => exact hop.elim
  | written => exact hop.elim

theorem latest_congr {s t : Shared} (h : t.rows = s.rows) :
    t.latest executionId = s.latest executionId := by
  rw [Shared.latest, h, Shared.latest]

-- What neither the rows nor what is due change, stays.
theorem Agreed.same (h : Agreed s) (hdue : ∀ call, due call t = due call s)
    (hrows : t.shared.rows = s.shared.rows)
    (hcheckpoints : t.shared.checkpoints = s.shared.checkpoints) : Agreed t := by
  refine ⟨hrows ▸ h.ids, fun executionId => ?_⟩
  have hlatest : ∀ executionId, t.shared.latest executionId = s.shared.latest executionId :=
    fun _ => latest_congr hrows
  refine (h.agreed executionId).imp (fun hagrees => ?_) fun ⟨call, hcall⟩ => ⟨call, ?_⟩
  · rw [Agrees, Shared.Resumable, hcheckpoints, open_congr (hlatest executionId)]
    exact hagrees
  · rw [Owes, hdue call]
    rw [Owes] at hcall
    split at hcall
    next => exact hcall
    next => exact hcall
    next => exact ⟨hcall.1, (leads_congr (hlatest _)).mpr hcall.2⟩

theorem Agreed.did (h : Agreed s) (hlawful : Lawful id op s)
    (hpermits : Permits s.shared choice op)
    (heffect : effect op choice s.shared = some (answer, after)) :
    Agreed (s.note (.did id op answer) after) := by
  have hids := (effect_change heffect).ids h.ids
  cases op with
  | createRun run => exact ⟨hids, fun _ => agreed_createRun h hlawful hpermits heffect⟩
  | commitRun runId loaded target =>
      exact ⟨hids, fun _ => agreed_commitRun h hlawful hpermits heffect⟩
  | saveCheckpoint savedId checkpoint =>
      exact ⟨hids, fun _ => agreed_saveCheckpoint h hlawful hpermits heffect⟩
  | _ =>
      obtain ⟨hrows, hcheckpoints⟩ := effect_plain (by trivial) heffect
      exact h.same (fun call => due_plain (by trivial)) hrows hcheckpoints

-- A call that has ended owes nothing: nothing is due, or its run leads no execution any more.
def Clear (id : Nat) (s : (calls registry).State) : Prop :=
  due id s = none ∨ ∃ runId, due id s = some (.cancelled runId) ∧
    runId ∈ s.shared.rows.map RunRow.id ∧ ¬s.shared.Leads runId

theorem Clear.left (h : Clear id s) (hleft : Left id s t) : Clear id t := by
  rcases h with hdue | ⟨runId, hdue, hmem, hnot⟩
  · exact .inl (hleft.due.trans hdue)
  · exact .inr ⟨runId, hleft.due.trans hdue, hleft.ids hmem, fun hleads =>
      hnot (hleft.leads runId hmem hleads)⟩

theorem Clear.not_owes (h : Clear id s) : ¬Owes id executionId s := by
  rcases h with hdue | ⟨runId, hdue, -, hnot⟩
  · exact Calls.not_owes hdue
  · rw [Owes, hdue]
    rintro ⟨rfl, hleads⟩
    exact hnot hleads

theorem due_left {result : Except Raised Outcome} {call : Nat} (hne : id ≠ call) :
    due call (s.note (.left id result) s.shared) = due call s := by
  rw [due_note]
  exact if_neg hne

theorem Agreed.ended {result : Except Raised Outcome} (h : Agreed s) (hclear : Clear id s) :
    Agreed (s.note (.left id result) s.shared) := by
  refine ⟨h.ids, fun executionId => (h.agreed executionId).imp (fun hagrees => hagrees) ?_⟩
  rintro ⟨call, hcall⟩
  have hne : id ≠ call := by
    rintro rfl
    exact hclear.not_owes hcall
  refine ⟨call, ?_⟩
  rw [Owes, due_left hne]
  exact hcall

theorem enter_same {call : Call} (henter : call.enter shared = some after) :
    after.rows = shared.rows ∧ after.checkpoints = shared.checkpoints := by
  cases call with
  | execute =>
      simp only [Call.enter] at henter
      split at henter <;> cases henter
      exact ⟨rfl, rfl⟩
  | _ =>
      cases henter
      exact ⟨rfl, rfl⟩

theorem outside_same {event : Outside} (hevent : outside event shared = some after) :
    after.rows = shared.rows ∧ after.checkpoints = shared.checkpoints := by
  cases event with
  | createSubscription =>
      simp only [outside] at hevent
      split at hevent <;> cases hevent
      exact ⟨rfl, rfl⟩
  | _ =>
      cases hevent
      exact ⟨rfl, rfl⟩

def checkpointDiscipline (registry : HarnessRegistry) : (calls registry).Discipline where
  good := Agreed
  fresh id s := due id s = none
  rely := Left
  lawful := Lawful
  post id _ _ := Clear id
  admitted _ _ _ := True
  allowed _ op choice s := Permits s.shared choice op
  happens _ _ := True
  rely_refl _ _ := .refl
  rely_trans _ _ _ _ := .trans
  fresh_rely _ _ _ hleft h := hleft.due.trans h
  post_rely _ _ _ _ _ hleft h := h.left hleft
  step_good _ _ _ _ _ _ hgood hlawful hpermits heffect := hgood.did hlawful hpermits heffect
  step_rely _ _ _ _ _ _ _ hne _ _ _ heffect := .did hne heffect
  enter_good _ _ _ _ hgood _ _ henter :=
    hgood.same (fun _ => due_note) (enter_same henter).1 (enter_same henter).2
  enter_rely _ _ _ _ _ _ _ _ henter := .same due_note (enter_same henter).1
  leave_good _ _ _ _ hgood hclear := hgood.ended hclear
  leave_rely _ _ _ _ _ hne _ _ := .same (due_left hne) rfl
  leave_post id _ _ s hclear := .inl (by rw [due_note]; exact if_pos rfl)
  outside_good _ _ _ hgood _ hevent :=
    hgood.same (fun _ => due_note) (outside_same hevent).1 (outside_same hevent).2
  outside_rely _ _ _ _ _ _ hevent := .same due_note (outside_same hevent).1

end Discipline

section Programs

variable {registry : HarnessRegistry} {s t : (calls registry).State} {id : Nat} {α β : Type}
  {op : Op} {runId : String} {target : RunStatus}

-- The awaits that make nothing due.
def Task : Op → Prop
  | .createRun _ => False
  | .commitRun _ _ target => target ≠ .cancelled
  | .saveCheckpoint _ _ => False
  | _ => True

theorem task_lawful (hop : Task op) (hdue : due id s = none) : Lawful id op s := by
  cases op with
  | createRun => exact hop.elim
  | commitRun => exact hdue
  | saveCheckpoint => exact hop.elim
  | _ => trivial

theorem task_due {answer : Except Raised op.Reply} {shared : Shared} (hop : Task op) :
    due id (s.note (.did id op answer) shared) = due id s := by
  cases op with
  | createRun => exact hop.elim
  | saveCheckpoint => exact hop.elim
  | commitRun runId loaded target =>
      rw [due_note]
      cases target with
      | cancelled => exact absurd rfl hop
      | _ => cases answer <;> rfl
  | _ => exact due_plain (by trivial)

theorem task_holds {program : CallM α} (hprogram : program.Every Task) (hdue : due id s = none) :
    program.Holds (checkpointDiscipline registry) id (fun _ t => due id t = none) s :=
  hprogram.keeping (fun _ _ hop _ hdue => task_lawful hop hdue)
    (fun _ _ hleft h => hleft.due.trans h)
    (fun _ _ _ _ _ hop h _ _ => (task_due hop).trans h) hdue

theorem task_bind {program : CallM α} {next : α → CallM β}
    {after : Except Raised β → (calls registry).State → Prop} (hprogram : program.Every Task)
    (hdue : due id s = none)
    (hnext : ∀ value t, due id t = none →
      (next value).Holds (checkpointDiscipline registry) id after t)
    (herror : ∀ raised t, due id t = none → after (.error raised) t) :
    (program >>= next).Holds (checkpointDiscipline registry) id after s :=
  (task_holds hprogram hdue).bind hnext herror

theorem lift_task {result : Except ServiceError α} : (lift result).Every Task := by
  cases result <;> trivial

variable (registry)

theorem preview_task (request : RoutePreviewRequest) : (preview registry request).Every Task := by
  have hcandidate : ∀ available subscriptions adapter maturity profile,
      (candidate request available subscriptions adapter maturity profile).Every Task :=
    fun _ _ _ _ _ => .perform_bind trivial fun _ => .perform_bind trivial fun _ => trivial
  have hcandidates : ∀ available subscriptions adapter,
      (candidatesOf registry request available subscriptions adapter).Every Task :=
    fun _ _ _ => .bind lift_task fun _ => .mapM (fun _ => hcandidate ..) _
  refine .perform_bind trivial fun available => .bind lift_task fun _ => ?_
  exact .perform_bind trivial fun subscriptions =>
    .bind (.mapM (fun _ => hcandidates ..) _) fun _ => trivial

theorem previewRoutes_task (request : RunRequest) (preferredHarness : Option String) :
    (previewRoutes registry request preferredHarness).Every Task :=
  .perform_bind trivial fun _ => .perform_bind trivial fun _ => preview_task registry _

theorem resolveRoute_task (request : RunRequest) (preferredHarness : Option String) :
    (resolveRoute registry request preferredHarness).Every Task := by
  refine .bind (previewRoutes_task registry _ _) fun selected => ?_
  cases selected <;> trivial

theorem updateRun_task (h : target ≠ .cancelled) : (updateRun runId target).Every Task :=
  .perform_bind trivial fun _ => .perform h

theorem handleRateLimit_task (row : RunRow) : (handleRateLimit registry row).Every Task := by
  have hlimited : (setRateLimited row.run.subscriptionId).Every Task := by
    unfold setRateLimited
    split
    · exact .perform trivial
    · trivial
  refine .bind hlimited fun _ => .perform_bind trivial fun _ =>
    .bind (previewRoutes_task registry _ _) fun route => ?_
  cases route with
  | none => trivial
  | some route =>
      refine .perform_bind trivial fun _ => .perform_bind trivial fun subscriptions => ?_
      exact .perform_bind trivial fun _ => .perform_bind trivial fun _ =>
        .ite (.perform trivial) trivial

theorem publishRuntimeObservation_task : publishRuntimeObservation.Every Task :=
  .perform_bind trivial fun _ => .perform trivial

theorem recorded_task (h : target ≠ .cancelled) :
    (do
      updateRun runId target
      publishRuntimeObservation
      perform .event : CallM Unit).Every Task :=
  .bind (updateRun_task h) fun _ => .bind publishRuntimeObservation_task fun _ => .perform trivial

theorem attempt_task (row : RunRow) : (attempt registry row).Every Task := by
  refine .perform_bind trivial fun exitCode => .perform_bind trivial fun current => ?_
  refine .ite trivial (.ite (recorded_task RunStatus.noConfusion) ?_)
  refine .perform_bind trivial fun rateLimit => .bind (updateRun_task RunStatus.noConfusion) fun _ => ?_
  exact .bind publishRuntimeObservation_task fun _ => .perform_bind trivial fun _ =>
    .ite (handleRateLimit_task registry row) trivial

theorem handled_task (runId : String) (raised : Raised) : (handled runId raised).Every Task := by
  unfold handled
  split
  · exact recorded_task RunStatus.noConfusion
  · trivial
  · trivial
  · exact recorded_task RunStatus.noConfusion

theorem ending_task {program : CallM Unit} (hop : Task op) (h : program.Every Task) :
    (ending op program).Every Task :=
  .bind (h.catching fun _ => .perform_bind hop fun _ => trivial) fun _ =>
    .perform_bind hop fun _ => trivial

theorem execute_task (runId : String) : (execute registry runId).Every Task := by
  refine .perform_bind trivial fun row => .perform_bind trivial fun request => ?_
  cases row with
  | none => trivial
  | some row =>
      refine .ite (.bind lift_task fun _ => ?_) trivial
      refine .bind (updateRun_task RunStatus.noConfusion) fun _ => .perform_bind trivial fun _ => ?_
      exact ending_task trivial ((attempt_task registry row).catching (handled_task runId))

def Settles {α : Type} (id : Nat) (_ : Except Raised α) (s : (calls registry).State) : Prop :=
  due id s = none

-- What create_run makes due is saved at once.
theorem createRun_bind {started : StartedRun} {next : String → CallM String} (hdue : due id s = none)
    (hnext : ∀ runId t, due id t = some (.queued runId (execution runId started)) →
      (next runId).Holds (checkpointDiscipline registry) id (Settles registry id) t) :
    (perform (.createRun started) >>= next).Holds (checkpointDiscipline registry) id
      (Settles registry id) s := by
  refine .perform_bind (fun _ hleft _ => hleft.due.trans hdue)
    (fun t choice runId u _ _ _ _ => hnext _ _ ?_) fun t choice raised u hleft _ _ _ => ?_
  · rw [due_note]
    exact if_pos rfl
  · exact due_note.trans (hleft.due.trans hdue)

theorem saveCheckpoint_bind {executionId : String} {checkpoint : Checkpoint}
    {next : Unit → CallM α} (hdue : checkpoint.status = .queued ∧
      (∃ runId, due id s = some (.queued runId executionId)) ∨
        checkpoint.status = .cancelled ∧ due id s = some (.cancelled executionId))
    (hnext : ∀ t, due id t = none →
      (next ()).Holds (checkpointDiscipline registry) id (Settles registry id) t) :
    (perform (.saveCheckpoint executionId checkpoint) >>= next).Holds
      (checkpointDiscipline registry) id (Settles registry id) s := by
  have hsaved : ∀ {answer : Except Raised Unit} {t : (calls registry).State} {u : Shared},
      due id (t.note (.did id (.saveCheckpoint executionId checkpoint) answer) u) = none :=
    due_note.trans (if_pos rfl)
  refine .perform_bind (fun t hleft _ => ?_) (fun _ _ _ _ _ _ _ _ => hnext _ hsaved)
    fun _ _ _ _ _ _ _ _ => hsaved
  exact hdue.imp (fun ⟨hstatus, runId, h⟩ => ⟨hstatus, runId, hleft.due.trans h⟩)
    fun ⟨hstatus, h⟩ => ⟨hstatus, hleft.due.trans h⟩

theorem startRun_holds (request : RunRequest) (route : RouteCandidate)
    (taskContextId continuationOfRunId : Option String) (hdue : due id s = none) :
    (startRun registry request route taskContextId continuationOfRunId).Holds
      (checkpointDiscipline registry) id (Settles registry id) s := by
  refine task_bind (.perform trivial) hdue (fun _ t hdue => ?_) fun _ _ h => h
  refine task_bind (.perform trivial) hdue (fun resolved t hdue => ?_) fun _ _ h => h
  refine task_bind (.perform trivial) hdue (fun launch t hdue => ?_) fun _ _ h => h
  cases hstart : Harnesses.startRun registry launch (fun _ => .ok resolved) request route
      taskContextId continuationOfRunId with
  | error error => exact hdue
  | ok started =>
      have hexecution : started.request.executionId = request.executionId := by
        obtain ⟨-, workspace, -, -, rfl⟩ := startRun_ok_iff.mp hstart
        rfl
      refine createRun_bind registry hdue fun runId t hdue => ?_
      rw [execution, hexecution] at hdue
      refine saveCheckpoint_bind registry (.inl ⟨rfl, runId, hdue⟩) fun t hdue => ?_
      exact task_holds (.perform_bind trivial fun _ => .perform_bind trivial fun _ => trivial) hdue

theorem runResolved_holds (request : RunRequest) (harness : String) (hdue : due id s = none) :
    (runResolved registry request harness).Holds (checkpointDiscipline registry) id
      (Settles registry id) s := by
  refine task_bind (.perform trivial) hdue (fun prefs t hdue => ?_) fun _ _ h => h
  refine task_bind (.perform trivial) hdue (fun available t hdue => ?_) fun _ _ h => h
  refine task_bind lift_task hdue (fun known t hdue => ?_) fun _ _ h => h
  refine task_bind lift_task hdue (fun resolution t hdue => ?_) fun _ _ h => h
  split
  · refine task_bind lift_task hdue (fun _ t hdue => ?_) fun _ _ h => h
    exact task_bind (resolveRoute_task registry _ _) hdue
      (fun selected t hdue => startRun_holds registry _ selected none none hdue) fun _ _ h => h
  · exact task_bind (resolveRoute_task registry _ _) hdue
      (fun selected t hdue => startRun_holds registry _ selected none none hdue) fun _ _ h => h

theorem approveFallback_holds (proposalId : String) (hdue : due id s = none) :
    (approveFallback registry proposalId).Holds (checkpointDiscipline registry) id
      (Settles registry id) s := by
  refine task_bind (.perform trivial) hdue (fun proposal t hdue => ?_) fun _ _ h => h
  refine task_bind (.perform trivial) hdue (fun _ t hdue => ?_) fun _ _ h => h
  refine task_bind (.perform trivial) hdue (fun original t hdue => ?_) fun _ _ h => h
  cases original with
  | none => exact hdue
  | some original =>
      refine task_bind (.perform trivial) hdue (fun _ t hdue => ?_) fun _ _ h => h
      refine (startRun_holds registry _ _ _ _ hdue).bind (fun continuation t hdue => ?_)
        fun _ _ h => h
      exact task_holds (.perform_bind trivial fun _ => trivial) hdue

-- A cancel that has stored its status, of a run that is there.
def Cancelled (id : Nat) (runId : String) (s : (calls registry).State) : Prop :=
  due id s = some (.cancelled runId) ∧ runId ∈ s.shared.rows.map RunRow.id

theorem Cancelled.left (h : Cancelled registry id runId s) (hleft : Left id s t) :
    Cancelled registry id runId t :=
  ⟨hleft.due.trans h.1, hleft.ids h.2⟩

-- What is asserted where the checkpoint of a cancelled run is not saved yet.
def Cancelling (id : Nat) (runId : String) {α : Type} :
    Except Raised α → (calls registry).State → Prop
  | .ok _, s => Cancelled registry id runId s
  | .error _, s => Clear id s

theorem updateRun_cancelled (hdue : due id s = none) :
    (updateRun runId .cancelled).Holds (checkpointDiscipline registry) id
      (Cancelling registry id runId) s := by
  refine .perform_bind (fun _ _ _ => trivial) (fun t choice loaded u hleft _ _ heffect => ?_)
    fun t choice raised u hleft _ _ heffect => ?_
  · have hload : effect (.loadRun runId) choice t.shared = some (.ok loaded, u) := heffect
    have hfound : runId ∈ t.shared.rows.map RunRow.id ∧ u.rows = t.shared.rows := by
      refine ⟨?_, (effect_plain (by trivial) hload).1⟩
      by_contra hmem
      have hnone : t.shared.find runId = none := List.find?_eq_none.mpr fun row hrow => by
        simpa using fun hid : row.id = runId => hmem (hid ▸ List.mem_map_of_mem hrow)
      simp only [effect, hnone, keyError] at hload
      cases hload
    obtain ⟨hmem, hrows⟩ := hfound
    have hdue : due id (t.note (.did id (.loadRun runId) (.ok loaded)) u) = none :=
      due_note.trans (hleft.due.trans hdue)
    intro v hleft _
    refine ⟨hleft.due.trans hdue, fun choice answer x _ heffect => ?_⟩
    have hcommit : effect (.commitRun runId loaded .cancelled) choice v.shared = some (answer, x) :=
      heffect
    cases answer with
    | ok =>
        refine ⟨due_note.trans (if_pos rfl), ?_⟩
        have hkept : v.shared.rows.map RunRow.id ⊆ x.rows.map RunRow.id := by
          cases effect_change hcommit with
          | kept hrows => rw [hrows]; exact List.Subset.refl _
          | written => rw [ids_write]; exact List.Subset.refl _
        exact hkept (hleft.ids (hrows.symm ▸ hmem))
    | error => exact .inl (due_note.trans (hleft.due.trans hdue))
  · exact .inl (due_note.trans (hleft.due.trans hdue))

-- An await between the status and the checkpoint raises only where another run has taken over.
theorem cancelled_perform (hs : Cancelled registry id runId s) (hop : Plain op)
    (herror : ∀ (shared after : Shared) choice raised, Permits shared choice op →
      effect op choice shared = some (.error raised, after) → ¬shared.Leads runId) :
    (perform op).Holds (checkpointDiscipline registry) id (Cancelling registry id runId) s := by
  intro t hleft _
  have ht := hs.left registry hleft
  refine ⟨?_, fun choice answer u hpermits heffect => ?_⟩
  · cases op with
    | createRun => exact hop.elim
    | commitRun => exact hop.elim
    | saveCheckpoint => exact hop.elim
    | _ => trivial
  have hkept : Left id t (t.note (.did id op answer) u) :=
    .same (due_plain hop) (effect_plain hop heffect).1
  cases answer with
  | ok => exact ht.left registry hkept
  | error raised =>
      have hclear : Clear id t :=
        .inr ⟨runId, ht.1, ht.2, herror t.shared u choice raised hpermits heffect⟩
      exact hclear.left hkept

theorem stopTask_holds (hs : Cancelled registry id runId s) :
    (stopTask runId).Holds (checkpointDiscipline registry) id (Cancelling registry id runId) s := by
  have hterminate : (perform (.runtimeCancel runId)).Holds (checkpointDiscipline registry) id
      (Cancelling registry id runId) s :=
    cancelled_perform registry hs trivial fun _ _ _ _ hpermits heffect =>
      hpermits (answered_error heffect)
  refine hterminate.bind (fun terminated t ht => ?_) fun _ _ h => h
  have hfind : (perform (.findTask runId)).Holds (checkpointDiscipline registry) id
      (Cancelling registry id runId) t :=
    cancelled_perform registry ht trivial fun _ _ _ _ _ heffect => by cases heffect
  refine hfind.bind (fun task t ht => ?_) fun _ _ h => h
  split
  · refine cancelled_perform registry ht trivial fun _ _ _ _ hpermits heffect => ?_
    simp only [effect] at heffect
    split at heffect
    · exact hpermits (answered_error heffect)
    · cases heffect
  · exact .pure ht

theorem cancel_holds (hdue : due id s = none) :
    (cancel runId).Holds (checkpointDiscipline registry) id (fun _ t => Clear id t) s := by
  refine task_bind (.perform trivial) hdue (fun _ t hdue => ?_) fun _ _ h => .inl h
  refine task_bind (.perform trivial) hdue (fun row t hdue => ?_) fun _ _ h => .inl h
  cases row with
  | none => exact .inl hdue
  | some row =>
      dsimp only
      split
      · exact .inl hdue
      refine (updateRun_cancelled registry hdue).bind (fun _ t ht => ?_) fun _ _ h => h
      refine (stopTask_holds registry ht).bind (fun _ t ht => ?_) fun _ _ h => h
      refine (saveCheckpoint_bind registry (.inr ⟨rfl, ht.1⟩) fun t hdue => ?_).mono
        fun _ _ h => .inl h
      exact task_holds (.perform_bind trivial fun _ => .perform_bind trivial fun _ =>
        .perform trivial) hdue

theorem programs_hold : (checkpointDiscipline registry).Programs := by
  intro id call s t _ hfresh _ _
  have hdue : due id (s.note (.entered id call) t) = none := due_note.trans hfresh
  cases call with
  | run request harness =>
      exact (runResolved_holds registry request harness hdue).bind (fun _ _ h => .inl h)
        fun _ _ h => .inl h
  | resolveRoute request preferredHarness =>
      exact task_bind (resolveRoute_task registry _ _) hdue (fun _ _ h => .inl h) fun _ _ h => .inl h
  | startRun request route taskContextId continuationOfRunId =>
      exact (startRun_holds registry request route taskContextId continuationOfRunId hdue).bind
        (fun _ _ h => .inl h) fun _ _ h => .inl h
  | approveFallback proposalId =>
      exact (approveFallback_holds registry proposalId hdue).bind (fun _ _ h => .inl h)
        fun _ _ h => .inl h
  | execute runId =>
      have hended : (ending (.taskDone runId) (execute registry runId)).Every Task :=
        ending_task trivial (execute_task registry runId)
      exact task_bind hended hdue (fun _ _ h => .inl h) fun _ _ h => .inl h
  | cancel runId =>
      exact (cancel_holds registry hdue).bind (fun _ _ h => h) fun _ _ h => h

end Programs

section Agreement

variable {registry : HarnessRegistry} {w next : (calls registry).World}
  {label : (calls registry).Label} {labels : List (calls registry).Label} {id : Nat}

theorem sound_checkpoints : (checkpointDiscipline registry).Sound (.initial (calls registry) {}) := by
  refine System.Discipline.sound_initial ⟨List.nodup_nil, fun executionId => .inl ?_⟩ fun _ => rfl
  exact iff_of_false (fun ⟨_, h, _⟩ => nomatch h) fun ⟨_, h, _⟩ => nomatch h

-- Nothing is ever due of the task of a run.
def TasksFree (w : (calls registry).World) : Prop :=
  ∀ id thread, w.threads id = some thread → ∀ runId, thread.call = .execute runId →
    thread.program.Every Task ∧ due id w.state = none

theorem due_settle {call : Nat} {program : CallM Outcome} {s : (calls registry).State}
    (h : due call s = none) : due call (s.settle id program) = none := by
  cases program with
  | await => exact h
  | ended result =>
      rw [System.State.settle, due_note]
      exact (ite_eq_left_iff.mpr fun _ => h)

theorem TasksFree.put {thread : (calls registry).Thread} {state : (calls registry).State}
    (h : TasksFree w) (hothers : ∀ other, id ≠ other → due other state = due other w.state)
    (hown : ∀ runId, thread.call = .execute runId →
      thread.program.Every Task ∧ due id state = none) : TasksFree (w.put id thread state) := by
  intro other moved hmoved runId hcall
  rcases System.World.put_cases hmoved with ⟨rfl, rfl⟩ | ⟨hother, hmoved⟩
  · exact ⟨(hown runId hcall).1, due_settle (hown runId hcall).2⟩
  · obtain ⟨hevery, hdue⟩ := h other moved hmoved runId hcall
    exact ⟨hevery, due_settle ((hothers other (Ne.symm hother)).trans hdue)⟩

theorem TasksFree.step (h : TasksFree w) (hfresh : ∀ id, w.threads id = none → due id w.state = none)
    (hstep : w.step label = some next) : TasksFree next := by
  cases System.World.step_cases hstep with
  | @start id call shared hnew =>
      refine h.put (fun _ _ => due_note) fun runId hcall => ⟨?_, due_note.trans (hfresh id hnew)⟩
      subst hcall
      exact .bind (ending_task trivial (execute_task registry runId)) fun _ => trivial
  | @go id choice call op onward answer shared hthread =>
      refine h.put (fun _ hne => due_other hne) fun runId hcall => ?_
      obtain ⟨⟨hop, honward⟩, hdue⟩ := h id _ hthread runId hcall
      exact ⟨honward answer, (task_due hop).trans hdue⟩
  | outside =>
      intro id thread hthread runId hcall
      obtain ⟨hevery, hdue⟩ := h id thread hthread runId hcall
      exact ⟨hevery, due_note.trans hdue⟩

theorem not_owes_idle {executionId : String} (h : (checkpointDiscipline registry).Sound w)
    (htasks : TasksFree w) (hidle : Idle registry w) : ¬Owes id executionId w.state := by
  cases hthread : w.threads id with
  | none => exact not_owes (h.fresh id hthread)
  | some thread =>
      by_cases hcall : ∃ runId, thread.call = .execute runId
      · obtain ⟨runId, hcall⟩ := hcall
        exact not_owes (htasks id thread hthread runId hcall).2
      · obtain ⟨result, hended⟩ := hidle id thread hthread fun runId heq => hcall ⟨runId, heq⟩
        obtain ⟨call, program⟩ := thread
        subst hended
        exact (h.ended hthread).not_owes

-- Over every run of calls and of tasks under the condition, whenever no call is in progress the
-- executions to be resumed are exactly those whose latest run has not ended.
theorem resumable_iff_open
    (hrun : run System.World.step (.initial (calls registry) {}) labels = some w)
    (hchecked : Along System.World.step (Checkpointed registry) (.initial (calls registry) {}) labels)
    (hidle : Idle registry w) (executionId : String) :
    executionId ∈ w.state.shared.listResumable ↔ w.state.shared.Open executionId := by
  have hmeets : Along System.World.step (checkpointDiscipline registry).Meets
      (.initial (calls registry) {}) labels := by
    refine hchecked.mono fun w label h => ?_
    cases label with
    | start => trivial
    | go => exact h
    | outside => trivial
  have hstep : ∀ w label next, ((checkpointDiscipline registry).Sound w ∧ TasksFree w) →
      (checkpointDiscipline registry).Meets w label → System.World.step w label = some next →
        (checkpointDiscipline registry).Sound next ∧ TasksFree next :=
    fun _ _ _ hinv hmeets hstep =>
      ⟨hinv.1.step (programs_hold registry) hmeets hstep, hinv.2.step hinv.1.fresh hstep⟩
  obtain ⟨hsound, htasks⟩ :=
    run_invariant hstep ⟨sound_checkpoints, fun _ _ hthread => nomatch hthread⟩ hmeets hrun
  rw [mem_listResumable]
  refine (hsound.good.agreed executionId).resolve_right ?_
  rintro ⟨id, howes⟩
  exact not_owes_idle hsound htasks hidle howes

-- A call that awaits nothing more has ended.
theorem idle_of_awaiting
    (hrun : run System.World.step (.initial (calls registry) {}) labels = some w)
    (h : ∀ id ∈ labels.filterMap System.Label.started, (w.awaiting id).isNone) :
    Idle registry w := by
  intro id thread hthread _
  rcases System.World.started_of_thread hrun hthread with ⟨_, hbefore⟩ | hstarted
  · cases hbefore
  obtain ⟨call, program⟩ := thread
  cases program with
  | ended result => exact ⟨result, rfl⟩
  | await op onward =>
      have hnone := h id hstarted
      rw [System.World.awaiting_of_thread hthread] at hnone
      cases hnone

-- A harness that runs one task at a time, like every custom one.
def oneAtATime : HarnessRegistry where
  definitions := [⟨"local", [], .experimental⟩]
  aliases := [("local", "local")]
  adapters := [{ harnessId := "local" }]

-- A run of the one subscription, until its task is made.
def made (id : Nat) (runId : String) : List (calls oneAtATime).Label :=
  .start id (.run Adapter.fixRequest "auto") :: List.replicate 15 (.go id { id := runId })

def subscribed : List (calls oneAtATime).Label :=
  [.outside (.createSubscription { id := "s1", harnessId := "local" })]

-- A run that is cancelled, and a second one after it.
def cancelledLabels : List (calls oneAtATime).Label :=
  subscribed ++ made 0 "r1" ++ [.start 1 (.cancel "r1")] ++
    List.replicate 10 (.go 1 { terminated := true }) ++ made 2 "r2"

theorem cancelled_isSome :
    (run System.World.step (.initial (calls oneAtATime) {}) cancelledLabels).isSome = true := by
  decide +kernel

def cancelled : (calls oneAtATime).World :=
  (run System.World.step (.initial (calls oneAtATime) {}) cancelledLabels).get cancelled_isSome

theorem cancelled_agreed :
    "r1" ∈ cancelled.state.shared.listResumable ↔ cancelled.state.shared.Open "r1" :=
  have hrun := (Option.some_get cancelled_isSome).symm
  resumable_iff_open hrun (by decide +kernel) (idle_of_awaiting hrun (by decide +kernel)) "r1"

-- A run whose task completes: it is there to be resumed ever after.
def completedLabels : List (calls oneAtATime).Label :=
  subscribed ++ made 0 "r1" ++ [.start 1 (.execute "r1")] ++ List.replicate 14 (.go 1 {})

theorem completed_resumable :
    ((run System.World.step (.initial (calls oneAtATime) {}) completedLabels).map fun w =>
        (w.state.shared.listResumable, w.state.shared.rows.map RunRow.status)) =
      some (["r1"], [.completed]) ∧
      ¬∀ labels w, run System.World.step (.initial (calls oneAtATime) {}) labels = some w →
        Idle oneAtATime w → ∀ executionId,
          executionId ∈ w.state.shared.listResumable ↔ w.state.shared.Open executionId := by
  have hcompleted : ((run System.World.step (.initial (calls oneAtATime) {}) completedLabels).map
      fun w => (w.state.shared.listResumable, w.state.shared.rows.map RunRow.status)) =
        some (["r1"], [.completed]) := by decide +kernel
  refine ⟨hcompleted, fun hall => ?_⟩
  obtain ⟨w, hw, hstored⟩ := Option.map_eq_some_iff.mp hcompleted
  simp only [Prod.mk.injEq] at hstored
  obtain ⟨hresumable, hstatus⟩ := hstored
  have hquiet : ∀ w ∈ run System.World.step (.initial (calls oneAtATime) {}) completedLabels,
      ∀ id ∈ completedLabels.filterMap System.Label.started, (w.awaiting id).isNone := by
    decide +kernel
  have hopen := (hall completedLabels w hw (idle_of_awaiting hw (hquiet w hw)) "r1").mp
    (hresumable ▸ List.mem_singleton_self _)
  obtain ⟨row, hrow, hactive⟩ := hopen
  have hmem := List.mem_map_of_mem (f := RunRow.status) (latest_eq hrow).1
  rw [hstatus, List.mem_singleton] at hmem
  rw [hmem] at hactive
  cases hactive

end Agreement

end JoyMesh.Runs.Calls
