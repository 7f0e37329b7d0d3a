import JoyMesh.Node.Progress

namespace JoyMesh.Node

open Library

-- The plan actions that were run and the messages that executions sent, the
-- latest first.
structure History where
  ran : List Pair := []
  sent : List TaskMessage := []

def Execution.begins (execution : Execution) : Bool :=
  match execution.place with
  | .sending .starting _ true =>
      (ConnectorAction.ofValue execution.envelope.action).any ConnectorAction.supported
  | _ => false

def note (history : History) (node : JoyMeshNode) : Label → History
  | .proceed i _ =>
      match node.executions i with
      | none => history
      | some execution =>
          if execution.begins then { history with ran := execution.envelope.pair :: history.ran }
          else history
  | .write i =>
      match node.executions i with
      | none => history
      | some execution =>
          match execution.place with
          | .sending _ message false => { history with sent := message :: history.sent }
          | _ => history
  | _ => history

abbrev work (setup : NodeSetup) :
    JoyMeshNode × History → Label → Option (JoyMeshNode × History) :=
  watched (fun node label => node.step setup label) note

-- An offer finds no execution of its pair that was spawned and has not begun.
def Alone (setup : NodeSetup) (s : JoyMeshNode × History) : Label → Prop
  | .offer envelope now => s.1.revoked = false → s.1.admits setup envelope now = true →
      ∀ i execution, s.1.executions i = some execution →
        execution.envelope.pair = envelope.pair → execution.place ≠ .spawned
  | _ => True

def Begun (node : JoyMeshNode) (pair : Pair) : Prop :=
  ∃ progress, node.progress pair = some progress ∧ progress ≠ .accepted

-- One execution at most for each pair, which has begun exactly when the journal
-- says so.
structure Single (node : JoyMeshNode) (ran : List Pair) : Prop where
  spawned : ∀ i execution, node.executions i = some execution → execution.place = .spawned →
    node.progress execution.envelope.pair = some .accepted
  begun : ∀ i execution, node.executions i = some execution → execution.place ≠ .spawned →
    Begun node execution.envelope.pair
  alone : ∀ i j execution other, node.executions i = some execution →
    node.executions j = some other → execution.envelope.pair = other.envelope.pair → i = j
  accepting : ∀ queue envelope, node.handler = some (.answering queue (some envelope)) →
    node.progress envelope.pair = some .accepted ∧
      ∀ i execution, node.executions i = some execution → execution.envelope.pair ≠ envelope.pair
  performed : ∀ pair ∈ ran, Begun node pair
  once : ran.Nodup
  starting : ∀ i execution message written, node.executions i = some execution →
    execution.place = .sending .starting message written → execution.envelope.pair ∉ ran

section Steps

variable {setup : NodeSetup} {node next : JoyMeshNode} {ran : List Pair} {i : Nat}
  {execution : Execution} {after : Option Execution} {change : Progress → Progress}
  {envelope : ConnectorTaskEnvelope} {now : Time}

theorem executions_of_move (hmove : JoyMeshNode.ExecutionMove node next i execution after change)
    {j : Nat} {other : Execution} (h : next.executions j = some other) :
    j = i ∧ after = some other ∨ j ≠ i ∧ node.executions j = some other := by
  rw [hmove.executions] at h
  by_cases hj : j = i
  · subst hj
    rw [Function.update_self] at h
    exact .inl ⟨rfl, h⟩
  · rw [Function.update_of_ne hj] at h
    exact .inr ⟨hj, h⟩

theorem Begun.move {pair : Pair} (h : Begun node pair)
    (hmove : JoyMeshNode.ExecutionMove node next i execution after change)
    (hkeep : ∀ progress, progress ≠ .accepted → change progress ≠ .accepted) : Begun next pair := by
  obtain ⟨progress, hp, hne⟩ := h
  by_cases hpair : pair = execution.envelope.pair
  · refine ⟨change progress, ?_, hkeep progress hne⟩
    rw [hmove.progress, if_pos hpair, hp]
    rfl
  · exact ⟨progress, by rw [hmove.progress, if_neg hpair, hp], hne⟩

-- An execution goes on to another place, or ends.
theorem Single.move (h : Single node ran) (hi : node.executions i = some execution)
    (hmove : JoyMeshNode.ExecutionMove node next i execution after change)
    (hkeep : ∀ progress, progress ≠ .accepted → change progress ≠ .accepted)
    (hnext : ∀ moved, after = some moved → moved.place ≠ .spawned ∧
      (execution.place = .spawned → change .accepted ≠ .accepted))
    (hstart : ∀ moved message written, after = some moved →
      moved.place = .sending .starting message written → execution.envelope.pair ∉ ran) :
    Single next ran := by
  -- the other executions have other pairs, whose progress stays
  have hother : ∀ j other, j ≠ i → node.executions j = some other →
      other.envelope.pair ≠ execution.envelope.pair :=
    fun j other hj ho he => hj (h.alone j i other execution ho hi he)
  have hpair : ∀ moved, after = some moved → moved.envelope.pair = execution.envelope.pair := by
    intro moved hm
    rw [hmove.envelope moved hm]
  have hbegun : ∀ moved, after = some moved → Begun next execution.envelope.pair := by
    intro moved hm
    by_cases hs : execution.place = .spawned
    · refine ⟨change .accepted, ?_, (hnext moved hm).2 hs⟩
      rw [hmove.progress, if_pos rfl, h.spawned i execution hi hs]
      rfl
    · exact (h.begun i execution hi hs).move hmove hkeep
  refine ⟨fun j other ho hs => ?_, fun j other ho hs => ?_, fun j k other another ho ha he => ?_,
    fun queue envelope hh => ?_, fun pair hp => (h.performed pair hp).move hmove hkeep, h.once,
    fun j other message written ho hs => ?_⟩
  · rcases executions_of_move hmove ho with ⟨-, hm⟩ | ⟨hj, ho⟩
    · exact absurd hs (hnext other hm).1
    · rw [hmove.progress, if_neg (hother j other hj ho)]
      exact h.spawned j other ho hs
  · rcases executions_of_move hmove ho with ⟨-, hm⟩ | ⟨hj, ho⟩
    · rw [hpair other hm]
      exact hbegun other hm
    · exact (h.begun j other ho hs).move hmove hkeep
  · rcases executions_of_move hmove ho with ⟨rfl, hm⟩ | ⟨hj, ho⟩
    · rcases executions_of_move hmove ha with ⟨rfl, -⟩ | ⟨hk, ha⟩
      · rfl
      · exact absurd (he.symm.trans (hpair other hm)) (hother k another hk ha)
    · rcases executions_of_move hmove ha with ⟨rfl, hm⟩ | ⟨hk, ha⟩
      · exact absurd (he.trans (hpair another hm)) (hother j other hj ho)
      · exact h.alone j k other another ho ha he
  · rw [hmove.handler] at hh
    obtain ⟨hp, hnone⟩ := h.accepting queue envelope hh
    refine ⟨?_, fun j other ho => ?_⟩
    · rw [hmove.progress, if_neg (hnone i execution hi).symm]
      exact hp
    · rcases executions_of_move hmove ho with ⟨-, hm⟩ | ⟨-, ho⟩
      · rw [hpair other hm]
        exact hnone i execution hi
      · exact hnone j other ho
  · rcases executions_of_move hmove ho with ⟨-, hm⟩ | ⟨-, ho⟩
    · rw [hpair other hm]
      exact hstart other message written hm hs
    · exact h.starting j other message written ho hs

theorem Turn.keeps {place : Option Place} (h : Turn execution place change)
    {progress : Progress} (hp : progress ≠ .accepted) : change progress ≠ .accepted := by
  cases h with
  | invalid => exact Progress.begun_ne_accepted _
  | repeated => exact Progress.finish_ne_accepted _ _
  | starts => exact Progress.begun_ne_accepted _
  | concludes stage message status =>
      split
      · exact hp
      · exact Progress.finish_ne_accepted _ _
  | _ => exact hp

-- Only a start leaves the spawned place, and it marks the journal.
theorem Turn.begins {place : Place} (h : Turn execution (some place) change) :
    place ≠ .spawned ∧ (execution.place = .spawned → change .accepted ≠ .accepted) ∧
      ∀ message written, place = .sending .starting message written →
        execution.place = .spawned ∨
          ∃ message written, execution.place = .sending .starting message written := by
  cases h with
  | starts message hplace =>
      exact ⟨by simp, fun _ => Progress.begun_ne_accepted _, fun _ _ _ => .inl hplace⟩
  | writes stage message hplace =>
      refine ⟨by simp, fun hs => absurd (hs.symm.trans hplace) (by simp), fun other written he => ?_⟩
      obtain ⟨rfl, -⟩ := Place.sending.inj he
      exact .inr ⟨_, _, hplace⟩
  | emits next hplace => exact ⟨by simp, fun hs => absurd (hs.symm.trans hplace) (by simp), by simp⟩
  | reports status next hplace =>
      exact ⟨by simp, fun hs => absurd (hs.symm.trans hplace) (by simp), by simp⟩
  | fails reason next htry => exact ⟨by simp, fun hs => (by rw [hs] at htry; cases htry), by simp⟩
  | acts stage message hplace => exact ⟨by simp, fun hs => absurd (hs.symm.trans hplace) (by simp), by simp⟩
  | refuses message next hplace =>
      exact ⟨by simp, fun hs => absurd (hs.symm.trans hplace) (by simp), by simp⟩
  | records reason message next hplace =>
      exact ⟨by simp, fun hs => absurd (hs.symm.trans hplace) (by simp), by simp⟩
  | stops next hplace => exact ⟨by simp, fun hs => absurd (hs.symm.trans hplace) (by simp), by simp⟩
  | cancels message next hplace =>
      exact ⟨by simp, fun hs => absurd (hs.symm.trans hplace) (by simp), by simp⟩

theorem Single.not_ran_of_spawned (h : Single node ran) (hi : node.executions i = some execution)
    (hs : execution.place = .spawned) : execution.envelope.pair ∉ ran := by
  intro hr
  obtain ⟨progress, hp, hne⟩ := h.performed _ hr
  exact hne (Option.some.inj (hp.symm.trans (h.spawned i execution hi hs)))

theorem Single.turned (h : Single node ran) (hi : node.executions i = some execution)
    (ht : JoyMeshNode.Turned node next i execution) : Single next ran := by
  obtain ⟨after, change, hmove, hturn⟩ := ht
  refine h.move hi hmove (fun _ hp => hturn.keeps hp) ?_ ?_
  · intro moved hm
    subst hm
    exact ⟨hturn.begins.1, hturn.begins.2.1⟩
  · intro moved message written hm hs
    subst hm
    rcases hturn.begins.2.2 message written hs with hs | ⟨_, _, hs⟩
    · exact h.not_ran_of_spawned hi hs
    · exact h.starting i execution _ _ hi hs

-- The step that begins an action leaves no execution of the pair at its start.
theorem Single.performs (h : Single node ran) (hi : node.executions i = some execution)
    {message : TaskMessage} (hplace : execution.place = .sending .starting message true)
    {moved : Execution} (hmove : JoyMeshNode.ExecutionMove node next i execution (some moved) id)
    (hacting : moved.place = .acting) : Single next (execution.envelope.pair :: ran) := by
  have hnext : Single next ran :=
    h.turned hi ⟨some moved, id, hmove, by
      rw [Option.map_some, hacting]
      exact .acts .starting message hplace (.inl rfl)⟩
  have hnot : execution.envelope.pair ∉ ran := h.starting i execution message true hi hplace
  refine ⟨hnext.spawned, hnext.begun, hnext.alone, hnext.accepting, fun pair hp => ?_,
    List.nodup_cons.mpr ⟨hnot, hnext.once⟩, fun j other started written ho hs hm => ?_⟩
  · rcases List.mem_cons.mp hp with rfl | hp
    · exact (h.begun i execution hi (by rw [hplace]; simp)).move hmove fun _ hne => hne
    · exact hnext.performed pair hp
  · rcases List.mem_cons.mp hm with he | hm
    · rcases executions_of_move hmove ho with ⟨-, ht⟩ | ⟨hj, ho⟩
      · obtain rfl := Option.some.inj ht
        rw [hacting] at hs
        cases hs
      · exact hj (h.alone j i other execution ho hi he)
    · exact hnext.starting j other started written ho hs hm

theorem Single.interruptedAt (h : Single node ran) (i : Nat) :
    Single (node.interruptedAt i) ran := by
  unfold JoyMeshNode.interruptedAt
  split
  · exact h
  next execution hi =>
    obtain ⟨after, hmove, hcut⟩ : ∃ after, JoyMeshNode.ExecutionMove node
      (node.interrupted i execution) i execution after id ∧ _ := JoyMeshNode.interrupted_cut
    refine h.move hi hmove (fun _ hp => hp) ?_ ?_
    · intro moved hm
      subst hm
      rw [Option.map_some] at hcut
      generalize moved.place = place at hcut
      cases hcut with
      | stopped htry => exact ⟨by simp, fun hs => (by rw [hs] at htry; cases htry)⟩
      | cancelled next hne => exact ⟨by simp, fun hs => absurd hs hne⟩
    · intro moved message written hm hs
      subst hm
      rw [Option.map_some, hs] at hcut
      cases hcut

-- A step of the connection that leaves the journal and the executions alone.
theorem Single.handles (h : Single node ran) (hjournal : next.journal = node.journal)
    (hexec : next.executions = node.executions)
    (hhandler : ∀ queue envelope, next.handler = some (.answering queue (some envelope)) →
      ∃ queue, node.handler = some (.answering queue (some envelope))) : Single next ran := by
  have hprogress : next.progress = node.progress := by
    funext pair
    exact congrArg (NodeTaskJournal.progress · pair) hjournal
  refine ⟨?_, ?_, ?_, fun queue envelope hh => ?_, ?_, h.once, ?_⟩
  · rw [hprogress, hexec]
    exact h.spawned
  · unfold Begun
    rw [hprogress, hexec]
    exact h.begun
  · rw [hexec]
    exact h.alone
  · obtain ⟨queue, hq⟩ := hhandler queue envelope hh
    rw [hprogress, hexec]
    exact h.accepting queue envelope hq
  · unfold Begun
    rw [hprogress]
    exact h.performed
  · rw [hexec]
    exact h.starting

theorem Single.restarted (h : Single node ran) : Single (node.restarted setup) ran where
  spawned _ _ hi := by cases hi
  begun _ _ hi := by cases hi
  alone _ _ _ _ hi := by cases hi
  accepting _ _ hh := by cases hh
  performed := h.performed
  once := h.once
  starting _ _ _ _ hi := by cases hi

-- The connection hands an accepted offer to a new execution.
theorem Single.spawns {queue : List TaskMessage} (h : Single node ran)
    (hh : node.handler = some (.answering queue (some envelope))) :
    Single (node.handled i (some envelope)) ran := by
  obtain ⟨haccepted, hnone⟩ := h.accepting queue envelope hh
  have hcases : ∀ j other, (node.handled i (some envelope)).executions j = some other →
      j = i ∧ other = { envelope := envelope } ∨ j ≠ i ∧ node.executions j = some other := by
    intro j other ho
    by_cases hj : j = i
    · subst hj
      refine .inl ⟨rfl, ?_⟩
      simpa [JoyMeshNode.handled, JoyMeshNode.setExecution] using ho.symm
    · exact .inr ⟨hj, by simpa [JoyMeshNode.handled, JoyMeshNode.setExecution, hj] using ho⟩
  refine ⟨fun j other ho hs => ?_, fun j other ho hs => ?_, fun j k other another ho ha he => ?_,
    fun _ _ hh => (by cases hh), h.performed, h.once, fun j other message written ho hs => ?_⟩
  · rcases hcases j other ho with ⟨rfl, rfl⟩ | ⟨-, ho⟩
    · exact haccepted
    · exact h.spawned j other ho hs
  · rcases hcases j other ho with ⟨rfl, rfl⟩ | ⟨-, ho⟩
    · exact absurd rfl hs
    · exact h.begun j other ho hs
  · rcases hcases j other ho with ⟨rfl, rfl⟩ | ⟨hj, hold⟩
    · rcases hcases k another ha with ⟨rfl, -⟩ | ⟨-, hold⟩
      · rfl
      · exact absurd he.symm (hnone k another hold)
    · rcases hcases k another ha with ⟨rfl, rfl⟩ | ⟨-, hother⟩
      · exact absurd he (hnone j other hold)
      · exact h.alone j k other another hold hother he
  · rcases hcases j other ho with ⟨rfl, rfl⟩ | ⟨-, ho⟩
    · cases hs
    · exact h.starting j other message written ho hs

theorem progress_offered (pair : Pair) :
    (node.offered envelope now).progress pair =
      if pair = envelope.pair then some ((node.progress pair).getD .accepted)
      else node.progress pair := by
  unfold JoyMeshNode.offered
  cases he : node.journal.get envelope.pair with
  | none =>
      dsimp only
      rw [JoyMeshNode.progress, NodeTaskJournal.progress_accept]
      by_cases hp : pair = envelope.pair
      · rw [if_pos hp, if_pos hp, hp]
      · rw [if_neg hp, if_neg hp]
  | some entry =>
      have hsome : node.progress envelope.pair = some entry.progress := by
        rw [JoyMeshNode.progress, NodeTaskJournal.progress]
        exact congrArg _ he
      have hsame : node.progress pair =
          if pair = envelope.pair then some ((node.progress pair).getD .accepted)
          else node.progress pair := by
        by_cases hp : pair = envelope.pair
        · rw [if_pos hp, hp, hsome]
          rfl
        · rw [if_neg hp]
      dsimp only
      split
      · exact hsame
      · split <;> exact hsame

theorem offered_executions : (node.offered envelope now).executions = node.executions := by
  unfold JoyMeshNode.offered
  split
  · split
    · rfl
    · split <;> rfl
  · rfl

-- Only an offer whose entry has not begun is accepted.
theorem offered_handler :
    (∃ queue, (node.offered envelope now).handler = some (.answering queue none)) ∧
        Begun node envelope.pair ∨
      (∃ queue, (node.offered envelope now).handler =
        some (.answering queue (some envelope))) ∧ ¬ Begun node envelope.pair := by
  unfold JoyMeshNode.offered Begun JoyMeshNode.progress NodeTaskJournal.progress
  rw [NodeTaskJournal.get]
  cases node.journal.lookup envelope.pair with
  | none => exact .inr ⟨⟨_, rfl⟩, by simp⟩
  | some entry =>
      dsimp only
      by_cases ht : entry.terminalAt ≠ none
      · rw [if_pos ht]
        exact .inl ⟨⟨_, rfl⟩, _, rfl, by simp [LocalTaskJournalEntry.progress, ht]⟩
      · rw [if_neg ht]
        by_cases hs : entry.startedAt ≠ none
        · rw [if_pos hs]
          exact .inl ⟨⟨_, rfl⟩, _, rfl, by simp [LocalTaskJournalEntry.progress, ht, hs]⟩
        · rw [if_neg hs]
          exact .inr ⟨⟨_, rfl⟩, by simp [LocalTaskJournalEntry.progress, ht, hs]⟩

theorem Single.offered (h : Single node ran)
    (halone : ∀ i execution, node.executions i = some execution →
      execution.envelope.pair = envelope.pair → execution.place ≠ .spawned) :
    Single (node.offered envelope now) ran := by
  -- an accepted entry stays one, a missing one becomes one
  have hkeep : ∀ pair progress, node.progress pair = some progress →
      (node.offered envelope now).progress pair = some progress := by
    intro pair progress hp
    rw [progress_offered, hp]
    by_cases he : pair = envelope.pair
    · rw [if_pos he]
      rfl
    · rw [if_neg he]
  have hbegun : ∀ pair, Begun node pair → Begun (node.offered envelope now) pair :=
    fun pair ⟨progress, hp, hne⟩ => ⟨progress, hkeep pair progress hp, hne⟩
  refine ⟨?_, ?_, ?_, fun queue accepted hh => ?_, fun pair hp => hbegun pair (h.performed pair hp),
    h.once, ?_⟩
  · rw [offered_executions]
    exact fun i execution hi hs => hkeep _ _ (h.spawned i execution hi hs)
  · rw [offered_executions]
    exact fun i execution hi hs => hbegun _ (h.begun i execution hi hs)
  · rw [offered_executions]
    exact h.alone
  · have hhandler : (∃ queue, (node.offered envelope now).handler =
          some (.answering queue none)) ∧ Begun node envelope.pair ∨
        (∃ queue, (node.offered envelope now).handler =
          some (.answering queue (some envelope))) ∧ ¬ Begun node envelope.pair := offered_handler
    rcases hhandler with ⟨⟨_, hq⟩, -⟩ | ⟨⟨_, hq⟩, hnot⟩
    · rw [hq] at hh
      cases hh
    · rw [hq] at hh
      cases hh
      refine ⟨?_, fun i execution hi he => ?_⟩
      · rw [progress_offered, if_pos rfl]
        cases hp : node.progress envelope.pair with
        | none => rfl
        | some progress =>
            by_contra hne
            exact hnot ⟨progress, hp, fun ha => hne (by rw [ha]; rfl)⟩
      · rw [offered_executions] at hi
        exact hnot (he ▸ h.begun i execution hi (halone i execution hi he))
  · rw [offered_executions]
    exact h.starting

theorem Single.stopped (h : Single node ran) : Single node.stopped ran := by
  unfold JoyMeshNode.stopped
  generalize node.activeTasks.values = handles
  induction handles generalizing node with
  | nil => exact h
  | cons i handles ih => exact ih (h.interruptedAt i)

theorem Single.step {history : History} {label : Label} (h : Single node history.ran)
    (ha : Alone setup (node, history) label) (hs : node.step setup label = some next) :
    Single next (note history node label).ran := by
  -- a turn that runs no action
  have hturn : ∀ i, label.Steps i → (note history node label).ran = history.ran →
      Single next (note history node label).ran := by
    intro i hl hran
    obtain ⟨execution, hi, ht⟩ := JoyMeshNode.step_turned hl hs
    rw [hran]
    exact h.turned hi ht
  cases label with
  | start i now => exact hturn i rfl rfl
  | write i =>
      refine hturn i rfl ?_
      dsimp only [note]
      split
      · rfl
      · split <;> rfl
  | act i done => exact hturn i rfl rfl
  | broken i reason => exact hturn i rfl rfl
  | proceed i now =>
      cases hi : node.executions i with
      | none => exact hturn i rfl (by simp [note, hi])
      | some execution =>
          by_cases hb : execution.begins = true
          · have hnote : (note history node (.proceed i now)).ran =
                execution.envelope.pair :: history.ran := by simp [note, hi, hb]
            have hplace : ∃ message, execution.place = .sending .starting message true ∧
                (ConnectorAction.ofValue execution.envelope.action).any
                  ConnectorAction.supported = true := by
              revert hb
              unfold Execution.begins
              split
              next message hplace => exact fun hb => ⟨message, hplace, hb⟩
              · exact fun hb => (by cases hb)
            obtain ⟨message, hplace, hsupported⟩ := hplace
            have hnext : node.setExecution i { execution with place := .acting } = next := by
              simpa [JoyMeshNode.step, hi, hplace, JoyMeshNode.proceeded, JoyMeshNode.beginAction,
                hsupported] using hs
            rw [hnote, ← hnext]
            exact h.performs hi hplace (JoyMeshNode.setExecution_move rfl) rfl
          · exact hturn i rfl (by simp [note, hi, hb])
  | offer envelope now =>
      dsimp only [JoyMeshNode.step] at hs
      split at hs
      · cases hs
      next hnone =>
        split at hs
        · obtain rfl := Option.some.inj hs
          exact h.handles rfl rfl fun _ _ hh => (by cases hh)
        next hrevoked =>
          split at hs
          next hadmits =>
            obtain rfl := Option.some.inj hs
            exact h.offered (ha (by simpa using hrevoked) hadmits)
          · obtain rfl := Option.some.inj hs
            exact h
  | answer =>
      dsimp only [JoyMeshNode.step] at hs
      split at hs
      next hq =>
        obtain rfl := Option.some.inj hs
        refine h.handles rfl rfl fun queue envelope hh => ?_
        cases hh
        exact ⟨_, hq⟩
      · cases hs
  | answered i =>
      dsimp only [JoyMeshNode.step] at hs
      split at hs
      next accepted hh _ =>
        obtain rfl := Option.some.inj hs
        cases accepted with
        | none => exact h.handles rfl rfl fun _ _ hh => (by cases hh)
        | some envelope => exact h.spawns hh
      · cases hs
  | taskCancel taskId =>
      dsimp only [JoyMeshNode.step] at hs
      split at hs
      · cases hs
      · obtain rfl := Option.some.inj hs
        exact h.handles rfl rfl fun _ _ hh => (by cases hh)
  | cancelHandle =>
      have hfree : Single { node with handler := none } history.ran :=
        h.handles rfl rfl fun _ _ hh => (by cases hh)
      dsimp only [JoyMeshNode.step] at hs
      split at hs
      · split at hs
        · obtain rfl := Option.some.inj hs
          exact hfree
        next i _ =>
          obtain rfl := Option.some.inj hs
          exact hfree.interruptedAt i
      · cases hs
  | session publicKey =>
      dsimp only [JoyMeshNode.step] at hs
      split at hs
      · cases hs
      · obtain rfl := Option.some.inj hs
        exact h.handles rfl rfl fun _ envelope hh => ⟨_, hh⟩
  | nodeRevoked =>
      dsimp only [JoyMeshNode.step] at hs
      split at hs
      · cases hs
      · obtain rfl := Option.some.inj hs
        have hmarked : Single { node with revoked := true } history.ran :=
          h.handles rfl rfl fun _ envelope hh => ⟨_, hh⟩
        exact hmarked.stopped
  | disconnect =>
      obtain rfl := Option.some.inj hs
      exact h.handles rfl rfl fun _ _ hh => (by cases hh)
  | restart =>
      obtain rfl := Option.some.inj hs
      exact h.restarted

end Steps

section Runs

variable {setup : NodeSetup} {labels : List Label} {node : JoyMeshNode} {history : History}

def initial (setup : NodeSetup) : JoyMeshNode × History :=
  ({ controlPlanePublicKey := setup.publicKey }, {})

theorem single_initial : Single (initial setup).1 (initial setup).2.ran where
  spawned _ _ hi := by cases hi
  begun _ _ hi := by cases hi
  alone _ _ _ _ hi := by cases hi
  accepting _ _ hh := by cases hh
  performed _ hp := by cases hp
  once := List.nodup_nil
  starting _ _ _ _ hi := by cases hi

theorem single_of_run (hr : run (work setup) (initial setup) labels = some (node, history))
    (ha : Along (work setup) (Alone setup) (initial setup) labels) : Single node history.ran := by
  have hstep : ∀ s label t, Single s.1 s.2.ran → Alone setup s label →
      work setup s label = some t → Single t.1 t.2.ran := by
    rintro s label ⟨t, after⟩ h hc hs
    obtain ⟨hstep, rfl⟩ := watched_eq_some hs
    exact h.step hc hstep
  have h := run_invariant hstep single_initial ha hr
  exact h

-- An offer of the pair is a repeated one: its action was run or an execution of
-- it is under way.
def Repeated (node : JoyMeshNode) (history : History) (pair : Pair) : Prop :=
  pair ∈ history.ran ∨ ∃ i execution, node.executions i = some execution ∧ execution.envelope.pair = pair

-- The connection only replays or reports.
def OnlyReplies (node : JoyMeshNode) : Prop :=
  ∃ queue, node.handler = some (.answering queue none)

-- In a run without an offer that came too early no action runs twice, and the
-- next offer of a pair that is repeated is only answered exactly when it does
-- not come too early itself.
theorem runs_once_iff (hr : run (work setup) (initial setup) labels = some (node, history))
    (ha : Along (work setup) (Alone setup) (initial setup) labels) :
    history.ran.Nodup ∧ ∀ envelope now, node.revoked = false →
      node.admits setup envelope now = true →
        ((Repeated node history envelope.pair → OnlyReplies (node.offered envelope now)) ↔
          Alone setup (node, history) (.offer envelope now)) := by
  have h := single_of_run hr ha
  refine ⟨h.once, fun envelope now hrevoked hadmits => ?_⟩
  have hhandler : (∃ queue, (node.offered envelope now).handler = some (.answering queue none)) ∧
      Begun node envelope.pair ∨ _ := offered_handler
  constructor
  · intro hreply _ _ i execution hi he hs
    have hnot : ¬ Begun node envelope.pair := by
      rintro ⟨progress, hp, hne⟩
      exact hne (Option.some.inj (hp.symm.trans (he ▸ h.spawned i execution hi hs)))
    rcases hhandler with ⟨-, hb⟩ | ⟨⟨queue, hq⟩, -⟩
    · exact hnot hb
    · obtain ⟨other, ho⟩ := hreply (.inr ⟨i, execution, hi, he⟩)
      rw [hq] at ho
      cases ho
  · intro halone hrepeated
    have hb : Begun node envelope.pair := by
      rcases hrepeated with hran | ⟨i, execution, hi, he⟩
      · exact h.performed _ hran
      · exact he ▸ h.begun i execution hi (halone hrevoked hadmits i execution hi he)
    rcases hhandler with ⟨hq, -⟩ | ⟨-, hnot⟩
    · exact hq
    · exact absurd hb hnot

def sampleSetup : NodeSetup where
  nodeId := "node"
  publicKey := "key"
  verifySignature _ _ := true
  resultDigest _ status := status

def sampleOffer (action : ConnectorAction) : ConnectorTaskEnvelope where
  taskId := "task"
  nodeId := "node"
  connectorId := "cursor"
  connectorRevision := "1"
  action := action.value
  planHash := "hash"
  expiresAt := 900

-- One offer whose execution gets to its action.
def offeredOnce : List Label :=
  [.offer (sampleOffer .authenticate) 0, .answer, .answered 0, .start 0 1, .write 0, .proceed 0 1]

theorem runs_once_offered : ∃ node history,
    run (work sampleSetup) (initial sampleSetup) offeredOnce = some (node, history) ∧
      (history.ran.Nodup ∧ ∀ envelope now, node.revoked = false →
        node.admits sampleSetup envelope now = true →
          ((Repeated node history envelope.pair → OnlyReplies (node.offered envelope now)) ↔
            Alone sampleSetup (node, history) (.offer envelope now))) := by
  have hrun : (run (work sampleSetup) (initial sampleSetup) offeredOnce).isSome = true := by
    decide +kernel
  obtain ⟨⟨node, history⟩, hs⟩ := Option.isSome_iff_exists.mp hrun
  exact ⟨node, history, hs, runs_once_iff hs (by simp [offeredOnce, Along, Alone, initial])⟩

-- The second offer is handled before the execution of the first has begun.
def offeredTwice : List Label :=
  [.offer (sampleOffer .authenticate) 0, .answer, .answered 0,
    .offer (sampleOffer .authenticate) 0, .answer, .answered 1,
    .start 0 1, .write 0, .proceed 0 1, .start 1 1, .write 1, .proceed 1 1]

theorem login_runs_twice : ¬ ∀ (setup : NodeSetup) (labels : List Label) (node : JoyMeshNode)
    (history : History), run (work setup) (initial setup) labels = some (node, history) →
      history.ran.Nodup := by
  intro h
  have hrun : (run (work sampleSetup) (initial sampleSetup) offeredTwice).map (·.2.ran) =
      some [("task", "hash"), ("task", "hash")] := by decide +kernel
  obtain ⟨⟨node, history⟩, hs, hran⟩ := Option.map_eq_some_iff.mp hrun
  have hnodup := h sampleSetup offeredTwice node history hs
  rw [hran] at hnodup
  revert hnodup
  decide

end Runs

end JoyMesh.Node
