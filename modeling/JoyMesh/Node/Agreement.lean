import JoyMesh.Node.AtMostOnce

namespace JoyMesh.Node

open Library

-- The status that a terminal message stands for.
def MessageType.status : MessageType → Option String
  | .taskSucceeded => some "succeeded"
  | .taskFailed => some "failed"
  | .taskCancelled => some "cancelled"
  | .taskInterrupted => some "interrupted"
  | _ => none

-- The status that the journal is about to get, once the terminal message is out.
def Execution.closingStatus (execution : Execution) : Option String :=
  match execution.place with
  | .sending .unsupported _ true => some "failed"
  | .sending (.reporting status) _ true => some status.value
  | .sending (.failing _) _ true => some "failed"
  | .sending .failingEvidence _ _ => some "failed"
  | _ => none

-- Nothing comes between a terminal message and the journal, no started execution
-- is cancelled, and no offer comes before the execution of its pair has begun.
def Undisturbed (setup : NodeSetup) (s : JoyMeshNode × History) : Label → Prop
  | .offer envelope now => s.1.revoked = false → s.1.admits setup envelope now = true →
      ∀ i execution, s.1.executions i = some execution →
        execution.envelope.pair = envelope.pair →
          execution.place ≠ .spawned ∧ execution.closingStatus = none
  | .cancelHandle => ∀ taskId i execution, s.1.handler = some (.cancelling taskId) →
      s.1.activeTasks.lookup taskId = some i → s.1.executions i = some execution →
        execution.place = .spawned
  | .nodeRevoked => ∀ i ∈ s.1.activeTasks.values, ∀ execution,
      s.1.executions i = some execution → execution.place = .spawned
  | .broken i _ => ∀ execution, s.1.executions i = some execution → execution.closingStatus = none
  | .restart => ∀ i execution, s.1.executions i = some execution → execution.closingStatus = none
  | _ => True

def Stage.Ordinary : Stage → Prop
  | .cancelled => False
  | .nodeCancelled => False
  | .reporting status => status = .succeeded ∨ status = .failed
  | _ => True

-- The places of an execution that is not being cancelled.
def Execution.OnCourse (execution : Execution) : Prop :=
  match execution.place with
  | .spawned => True
  | .acting => True
  | .stopping => False
  | .sending stage message _ => stage.Ordinary ∧ message.pair = execution.envelope.pair ∧
      stage.Sends message.type

-- The terminal messages that were sent against the journal.
structure Agrees (node : JoyMeshNode) (sent : List TaskMessage) : Prop where
  live : ∀ i execution, node.executions i = some execution → execution.place ≠ .spawned →
    node.progress execution.envelope.pair = some .running
  course : ∀ i execution, node.executions i = some execution → execution.OnCourse
  ordinary : ∀ message ∈ sent, message.type ≠ .taskCancelled ∧ message.type ≠ .taskInterrupted
  settled : ∀ message ∈ sent, ∀ status, message.type.status = some status →
    node.progress message.pair = some (.ended status) ∨
      ∃ i execution, node.executions i = some execution ∧
        execution.envelope.pair = message.pair ∧ execution.closingStatus = some status
  clean : ∀ i execution, node.executions i = some execution → execution.closingStatus = none →
    ∀ message ∈ sent, message.pair = execution.envelope.pair → message.type.status = none

section Steps

variable {setup : NodeSetup} {node next : JoyMeshNode} {ran : List Pair} {sent : List TaskMessage}
  {i : Nat} {execution : Execution} {after : Option Execution} {change : Progress → Progress}
  {now : Time} {stage : Stage} {message : TaskMessage} {envelope : ConnectorTaskEnvelope}

-- An execution goes on to another place, or ends: what it was about to write
-- into the journal is written or is still about to be.
theorem Agrees.move (h : Agrees node sent) (hs : Single node ran)
    (hi : node.executions i = some execution)
    (hmove : JoyMeshNode.ExecutionMove node next i execution after change)
    (hlive : ∀ moved, after = some moved → next.progress execution.envelope.pair = some .running)
    (hcourse : ∀ moved, after = some moved → moved.OnCourse)
    (hclosing : ∀ status, execution.closingStatus = some status →
      next.progress execution.envelope.pair = some (.ended status) ∨
        ∃ moved, after = some moved ∧ moved.closingStatus = some status)
    (hopen : ∀ moved, after = some moved → moved.closingStatus = none →
      execution.closingStatus = none) : Agrees next sent := by
  have hother : ∀ j other, j ≠ i → node.executions j = some other →
      other.envelope.pair ≠ execution.envelope.pair :=
    fun j other hj ho he => hj (hs.alone j i other execution ho hi he)
  have hpair : ∀ moved, after = some moved → moved.envelope.pair = execution.envelope.pair := by
    intro moved hm
    rw [hmove.envelope moved hm]
  refine ⟨fun j other ho hp => ?_, fun j other ho => ?_, h.ordinary,
    fun message hm status hstatus => ?_, fun j other ho hc message hm hp => ?_⟩
  · rcases executions_of_move hmove ho with ⟨-, hm⟩ | ⟨hj, ho⟩
    · rw [hpair other hm]
      exact hlive other hm
    · rw [hmove.progress, if_neg (hother j other hj ho)]
      exact h.live j other ho hp
  · rcases executions_of_move hmove ho with ⟨-, hm⟩ | ⟨-, ho⟩
    · exact hcourse other hm
    · exact h.course j other ho
  · rcases h.settled message hm status hstatus with hended | ⟨j, other, hj, he, hc⟩
    · by_cases hp : message.pair = execution.envelope.pair
      · -- while an execution of the pair is under way the journal has no end
        rw [hp] at hended
        by_cases hspawned : execution.place = .spawned
        · cases (hs.spawned i execution hi hspawned).symm.trans hended
        · cases (h.live i execution hi hspawned).symm.trans hended
      · exact .inl (by rw [hmove.progress, if_neg hp, hended])
    · by_cases hji : j = i
      · subst hji
        obtain rfl := Option.some.inj (hi.symm.trans hj)
        rcases hclosing status hc with hended | ⟨moved, hm, hc⟩
        · exact .inl (he ▸ hended)
        · refine .inr ⟨j, moved, ?_, (hpair moved hm).trans he, hc⟩
          rw [hmove.executions, Function.update_self, hm]
      · refine .inr ⟨j, other, ?_, he, hc⟩
        rw [hmove.executions, Function.update_of_ne hji, hj]
  · rcases executions_of_move hmove ho with ⟨-, ht⟩ | ⟨-, ho⟩
    · exact h.clean i execution hi (hopen other ht hc) message hm (hp.trans (hpair other ht))
    · exact h.clean j other ho hc message hm hp

-- Where a turn leads an execution on its course whose terminal message is not out.
theorem Turn.course {moved : Execution} (h : Turn execution (some moved.place) change)
    (henv : moved.envelope = execution.envelope) (hcourse : execution.OnCourse)
    (hopen : execution.closingStatus = none) :
    moved.OnCourse ∧ (execution.place = .spawned → change .accepted = .running) ∧
      (execution.place ≠ .spawned → change = id) := by
  unfold Execution.OnCourse at hcourse ⊢
  unfold Execution.closingStatus at hopen
  rw [henv]
  generalize moved.place = place at h
  cases h with
  | starts message hplace hpair hsends =>
      exact ⟨⟨trivial, hpair, hsends⟩, fun _ => rfl, fun hne => absurd hplace hne⟩
  | writes stage message hplace =>
      rw [hplace] at hcourse
      exact ⟨hcourse, fun hs => absurd (hs.symm.trans hplace) (by simp), fun _ => rfl⟩
  | acts stage message hplace =>
      exact ⟨trivial, fun hs => absurd (hs.symm.trans hplace) (by simp), fun _ => rfl⟩
  | refuses message next hplace hpair hsends =>
      exact ⟨⟨trivial, hpair, hsends⟩, fun hs => absurd (hs.symm.trans hplace) (by simp), fun _ => rfl⟩
  | emits next hplace hpair hsends =>
      exact ⟨⟨trivial, hpair, hsends⟩, fun hs => absurd (hs.symm.trans hplace) (by simp), fun _ => rfl⟩
  | reports status next hplace hstatus hpair hsends =>
      exact ⟨⟨hstatus, hpair, hsends⟩, fun hs => absurd (hs.symm.trans hplace) (by simp), fun _ => rfl⟩
  | fails reason next htry hpair hsends =>
      exact ⟨⟨trivial, hpair, hsends⟩, fun hs => (by rw [hs] at htry; cases htry), fun _ => rfl⟩
  | records reason message next hplace =>
      rw [hplace] at hopen
      cases hopen
  | stops next hplace =>
      rw [hplace] at hcourse
      exact hcourse.elim
  | cancels message next hplace =>
      rw [hplace] at hcourse
      exact hcourse.1.elim

-- An execution whose terminal message is not out takes a turn.
theorem Agrees.turned (h : Agrees node sent) (hs : Single node ran)
    (hi : node.executions i = some execution) (hopen : execution.closingStatus = none)
    (ht : JoyMeshNode.Turned node next i execution) : Agrees next sent := by
  obtain ⟨after, change, hmove, hturn⟩ := ht
  have hmoved : ∀ moved, after = some moved → moved.OnCourse ∧
      (execution.place = .spawned → change .accepted = .running) ∧
      (execution.place ≠ .spawned → change = id) := by
    rintro moved rfl
    exact Turn.course hturn (hmove.envelope moved rfl) (h.course i execution hi) hopen
  refine h.move hs hi hmove (fun moved hm => ?_) (fun moved hm => (hmoved moved hm).1)
    (fun status hc => ?_) (fun _ _ _ => hopen)
  · obtain ⟨-, hspawned, hbegun⟩ := hmoved moved hm
    rw [hmove.progress, if_pos rfl]
    by_cases hplace : execution.place = .spawned
    · rw [hs.spawned i execution hi hplace, Option.map_some, hspawned hplace]
    · rw [h.live i execution hi hplace, hbegun hplace]
      rfl
  · rw [hopen] at hc
    cases hc

-- The runner returns once its terminal message is out.
theorem Agrees.concludes {status : ConnectorTaskStatus} (h : Agrees node sent)
    (hs : Single node ran) (hi : node.executions i = some execution)
    (hclosing : execution.closingStatus = some status.value) (hne : status ≠ .waitingForUser) :
    Agrees (node.concluded setup i execution status now) sent := by
  have hmove : JoyMeshNode.ExecutionMove node (node.concluded setup i execution status now) i
      execution none _ := JoyMeshNode.concluded_move
  have hspawned : execution.place ≠ .spawned := by
    intro hplace
    rw [Execution.closingStatus, hplace] at hclosing
    cases hclosing
  refine h.move hs hi hmove (fun _ hm => (by cases hm)) (fun _ hm => (by cases hm))
    (fun other hc => ?_) (fun _ hm => (by cases hm))
  obtain rfl := Option.some.inj (hclosing.symm.trans hc)
  rw [hmove.progress, if_pos rfl, h.live i execution hi hspawned, if_neg hne]
  exact .inl rfl

theorem Agrees.proceeds (h : Agrees node sent) (hs : Single node ran)
    (hi : node.executions i = some execution)
    (hplace : execution.place = .sending stage message true) :
    Agrees (node.proceeded setup i execution now stage) sent := by
  have hcourse := h.course i execution hi
  rw [Execution.OnCourse, hplace] at hcourse
  have hturned : JoyMeshNode.Turned node (node.proceeded setup i execution now stage) i execution :=
    JoyMeshNode.proceeded_turned hplace
  cases stage with
  | starting => exact h.turned hs hi (by rw [Execution.closingStatus, hplace]) hturned
  | emitting => exact h.turned hs hi (by rw [Execution.closingStatus, hplace]) hturned
  | unsupported =>
      exact h.concludes hs hi (by rw [Execution.closingStatus, hplace]; rfl) (by simp)
  | reporting status =>
      have hne : status ≠ .waitingForUser := by
        rcases hcourse.1 with rfl | rfl <;> simp
      exact h.concludes hs hi (by rw [Execution.closingStatus, hplace]) hne
  | failing reason =>
      obtain ⟨moved, hmove, hnext⟩ : ∃ moved, JoyMeshNode.ExecutionMove node
        (node.proceeded setup i execution now (.failing reason)) i execution (some moved) id ∧ _ :=
        JoyMeshNode.recordEvidence_move
      have hclosing : moved.closingStatus = some "failed" := by rw [Execution.closingStatus, hnext]
      refine h.move hs hi hmove (fun other hm => ?_) (fun other hm => ?_) (fun status hc => ?_)
        (fun other hm hc => ?_)
      · rw [hmove.progress, if_pos rfl, h.live i execution hi (by rw [hplace]; simp)]
        rfl
      · obtain rfl := Option.some.inj hm
        rw [Execution.OnCourse, hnext, hmove.envelope moved rfl]
        exact ⟨trivial, rfl, rfl⟩
      · rw [Execution.closingStatus, hplace] at hc
        exact .inr ⟨moved, rfl, hclosing.trans hc⟩
      · obtain rfl := Option.some.inj hm
        rw [hclosing] at hc
        cases hc
  | failingEvidence =>
      exact h.concludes hs hi (by rw [Execution.closingStatus, hplace]; rfl) (by simp)
  | cancelled => exact hcourse.1.elim
  | nodeCancelled => exact hcourse.1.elim

-- What a message on course says is what the journal is about to get.
theorem Stage.Sends.closing {type : MessageType} (hsends : stage.Sends type)
    (hordinary : stage.Ordinary) :
    (type ≠ .taskCancelled ∧ type ≠ .taskInterrupted) ∧
      ∀ message, execution.place = .sending stage message true →
        (∀ status, type.status = some status → execution.closingStatus = some status) ∧
          (execution.closingStatus = none → type.status = none) := by
  unfold Execution.closingStatus
  cases stage with
  | starting =>
      obtain rfl : type = _ := hsends
      exact ⟨by simp, fun message hplace => by rw [hplace]; simp [MessageType.status]⟩
  | emitting =>
      rcases hsends with rfl | rfl | rfl <;>
        exact ⟨by simp, fun message hplace => by rw [hplace]; simp [MessageType.status]⟩
  | unsupported =>
      obtain rfl : type = _ := hsends
      exact ⟨by simp, fun message hplace => by rw [hplace]; simp [MessageType.status]⟩
  | reporting status =>
      obtain rfl : type = _ := hsends
      rcases hordinary with rfl | rfl <;>
        exact ⟨by decide, fun message hplace => by
          rw [hplace]
          exact ⟨fun _ h => h, fun h => (by cases h)⟩⟩
  | failing reason =>
      obtain rfl : type = _ := hsends
      exact ⟨by simp, fun message hplace => by rw [hplace]; simp [MessageType.status]⟩
  | failingEvidence =>
      obtain rfl : type = _ := hsends
      exact ⟨by simp, fun message hplace => by rw [hplace]; simp [MessageType.status]⟩
  | cancelled => exact hordinary.elim
  | nodeCancelled => exact hordinary.elim

-- The message of an execution leaves.
theorem Agrees.writes (h : Agrees node sent) (hs : Single node ran)
    (hi : node.executions i = some execution)
    (hplace : execution.place = .sending stage message false) :
    Agrees (node.setExecution i { execution with place := .sending stage message true })
      (message :: sent) := by
  have hcourse := h.course i execution hi
  rw [Execution.OnCourse, hplace] at hcourse
  obtain ⟨hordinary, hpair, hsends⟩ := hcourse
  set moved : Execution := { execution with place := .sending stage message true } with hmoved
  have hmove : JoyMeshNode.ExecutionMove node (node.setExecution i moved) i execution (some moved)
      id := JoyMeshNode.setExecution_move rfl
  obtain ⟨htype, hclosing⟩ : _ ∧ ∀ message, moved.place = .sending stage message true → _ :=
    hsends.closing hordinary
  obtain ⟨hstatus, hnone⟩ := hclosing message rfl
  -- a terminal message that is out was announced before only by the stage itself
  have hkept : ∀ status, execution.closingStatus = some status →
      moved.closingStatus = some status := by
    intro status hc
    rw [Execution.closingStatus, hplace] at hc
    cases stage with
    | failingEvidence => exact hc
    | _ => cases hc
  have hafter : Agrees (node.setExecution i moved) sent := by
    refine h.move hs hi hmove (fun other hm => ?_) (fun other hm => ?_)
      (fun status hc => .inr ⟨moved, rfl, hkept status hc⟩) (fun other hm hc => ?_)
    · rw [hmove.progress, if_pos rfl, h.live i execution hi (by rw [hplace]; simp)]
      rfl
    · obtain rfl := Option.some.inj hm
      exact ⟨hordinary, hpair, hsends⟩
    · obtain rfl := Option.some.inj hm
      cases hold : execution.closingStatus with
      | none => rfl
      | some status =>
          rw [hkept status hold] at hc
          cases hc
  have hself : (node.setExecution i moved).executions i = some moved := Function.update_self _ _ _
  refine ⟨hafter.live, hafter.course, fun other hm => ?_, fun other hm status ho => ?_,
    fun j other hj hc sentMessage hm hp => ?_⟩
  · rcases List.mem_cons.mp hm with rfl | hm
    · exact htype
    · exact hafter.ordinary other hm
  · rcases List.mem_cons.mp hm with rfl | hm
    · exact .inr ⟨i, moved, hself, hpair.symm, hstatus status ho⟩
    · exact hafter.settled other hm status ho
  · rcases List.mem_cons.mp hm with rfl | hm
    · rcases executions_of_move hmove hj with ⟨-, ht⟩ | ⟨hne, hold⟩
      · obtain rfl := Option.some.inj ht
        exact hnone hc
      · exact absurd (hs.alone j i other execution hold hi (hp.symm.trans hpair)) hne
    · exact hafter.clean j other hj hc sentMessage hm hp

-- A cancellation that hits no begun execution.
theorem Agrees.interruptedAt (h : Agrees node sent) (hs : Single node ran)
    (hspawned : ∀ execution, node.executions i = some execution → execution.place = .spawned) :
    Agrees (node.interruptedAt i) sent := by
  unfold JoyMeshNode.interruptedAt
  split
  · exact h
  next execution hi =>
    have hplace := hspawned execution hi
    have hopen : execution.closingStatus = none := by rw [Execution.closingStatus, hplace]
    have hmove : JoyMeshNode.ExecutionMove node (node.interrupted i execution) i execution none id := by
      rw [JoyMeshNode.interrupted, hplace]
      exact JoyMeshNode.finished_move
    refine h.move hs hi hmove (fun _ hm => (by cases hm)) (fun _ hm => (by cases hm))
      (fun status hc => ?_) (fun _ hm => (by cases hm))
    rw [hopen] at hc
    cases hc

theorem Agrees.handles (h : Agrees node sent) (hjournal : next.journal = node.journal)
    (hexec : next.executions = node.executions) : Agrees next sent := by
  have hprogress : next.progress = node.progress := by
    funext pair
    exact congrArg (NodeTaskJournal.progress · pair) hjournal
  refine ⟨?_, ?_, h.ordinary, ?_, ?_⟩
  · rw [hprogress, hexec]
    exact h.live
  · rw [hexec]
    exact h.course
  · rw [hprogress, hexec]
    exact h.settled
  · rw [hexec]
    exact h.clean

theorem Agrees.offered (h : Agrees node sent) : Agrees (node.offered envelope now) sent := by
  have hkeep : ∀ pair progress, node.progress pair = some progress →
      (node.offered envelope now).progress pair = some progress := by
    intro pair progress hp
    rw [progress_offered, hp]
    by_cases he : pair = envelope.pair
    · rw [if_pos he]
      rfl
    · rw [if_neg he]
  refine ⟨?_, ?_, h.ordinary, fun message hm status hstatus => ?_, ?_⟩
  · rw [offered_executions]
    exact fun i execution hi hp => hkeep _ _ (h.live i execution hi hp)
  · rw [offered_executions]
    exact h.course
  · rw [offered_executions]
    exact (h.settled message hm status hstatus).imp_left (hkeep _ _)
  · rw [offered_executions]
    exact h.clean

theorem Agrees.spawns {queue : List TaskMessage} (h : Agrees node sent) (hs : Single node ran)
    (hnone : node.executions i = none) (hh : node.handler = some (.answering queue (some envelope))) :
    Agrees (node.handled i (some envelope)) sent := by
  obtain ⟨haccepted, hfree⟩ := hs.accepting queue envelope hh
  have hcases : ∀ j other, (node.handled i (some envelope)).executions j = some other →
      other = { envelope := envelope } ∨ node.executions j = some other := by
    intro j other ho
    by_cases hj : j = i
    · subst hj
      exact .inl (by simpa [JoyMeshNode.handled, JoyMeshNode.setExecution] using ho.symm)
    · exact .inr (by simpa [JoyMeshNode.handled, JoyMeshNode.setExecution, hj] using ho)
  refine ⟨fun j other ho hp => ?_, fun j other ho => ?_, h.ordinary,
    fun message hm status hstatus => ?_, fun j other ho hc message hm hp => ?_⟩
  · rcases hcases j other ho with rfl | ho
    · exact absurd rfl hp
    · exact h.live j other ho hp
  · rcases hcases j other ho with rfl | ho
    · trivial
    · exact h.course j other ho
  · rcases h.settled message hm status hstatus with hended | ⟨j, other, hj, he, hc⟩
    · exact .inl hended
    · have hji : j ≠ i := by
        rintro rfl
        rw [hnone] at hj
        cases hj
      refine .inr ⟨j, other, ?_, he, hc⟩
      simpa [JoyMeshNode.handled, JoyMeshNode.setExecution, hji] using hj
  · rcases hcases j other ho with rfl | ho
    · -- nothing terminal was sent for a pair whose entry is only accepted
      cases hstatus : message.type.status with
      | none => rfl
      | some status =>
          rcases h.settled message hm status hstatus with hended | ⟨k, another, hk, he, -⟩
          · rw [hp] at hended
            cases haccepted.symm.trans hended
          · exact absurd (he.trans hp) (hfree k another hk)
    · exact h.clean j other ho hc message hm hp

theorem Agrees.restarted (h : Agrees node sent)
    (hopen : ∀ i execution, node.executions i = some execution → execution.closingStatus = none) :
    Agrees (node.restarted setup) sent where
  live _ _ hi := by cases hi
  course _ _ hi := by cases hi
  ordinary := h.ordinary
  settled message hm status hstatus := by
    rcases h.settled message hm status hstatus with hended | ⟨i, execution, hi, -, hc⟩
    · exact .inl hended
    · rw [hopen i execution hi] at hc
      cases hc
  clean _ _ hi := by cases hi

theorem executions_interruptedAt
    (hspawned : ∀ execution, node.executions i = some execution → execution.place = .spawned)
    {j : Nat} (hj : (node.interruptedAt i).executions j = some execution) :
    node.executions j = some execution := by
  unfold JoyMeshNode.interruptedAt at hj
  split at hj
  · exact hj
  next other hi =>
    rw [JoyMeshNode.interrupted, hspawned other hi] at hj
    have hmove : JoyMeshNode.ExecutionMove node (node.finished i other) i other none id :=
      JoyMeshNode.finished_move
    rcases executions_of_move hmove hj with ⟨-, hn⟩ | ⟨-, hj⟩
    · cases hn
    · exact hj

theorem Agrees.stopped (h : Agrees node sent) (hs : Single node ran)
    (hspawned : ∀ i ∈ node.activeTasks.values, ∀ execution,
      node.executions i = some execution → execution.place = .spawned) :
    Agrees node.stopped sent := by
  unfold JoyMeshNode.stopped
  generalize node.activeTasks.values = handles at hspawned
  induction handles generalizing node with
  | nil => exact h
  | cons i handles ih =>
      have hhead := hspawned i List.mem_cons_self
      exact ih (h.interruptedAt hs hhead) (hs.interruptedAt i) fun j hj execution he =>
        hspawned j (List.mem_cons_of_mem _ hj) execution (executions_interruptedAt hhead he)

theorem Undisturbed.alone {s : JoyMeshNode × History} {label : Label}
    (h : Undisturbed setup s label) : Alone setup s label := by
  cases label with
  | offer envelope now =>
      exact fun hrevoked hadmits i execution hi he => (h hrevoked hadmits i execution hi he).1
  | _ => trivial

theorem Agrees.step {history : History} {label : Label} (h : Agrees node history.sent)
    (hs : Single node history.ran) (hu : Undisturbed setup (node, history) label)
    (hstep : node.step setup label = some next) :
    Agrees next (note history node label).sent := by
  cases label with
  | start i now =>
      have hl : (Label.start i now).Steps i := rfl
      obtain ⟨execution, hi, ht⟩ := JoyMeshNode.step_turned hl hstep
      dsimp only [JoyMeshNode.step] at hstep
      rw [hi] at hstep
      dsimp only at hstep
      split at hstep
      next hplace => exact h.turned hs hi (by rw [Execution.closingStatus, hplace]) ht
      · cases hstep
  | write i =>
      dsimp only [JoyMeshNode.step] at hstep
      split at hstep
      · cases hstep
      next execution hi =>
        split at hstep
        next stage message hplace =>
          obtain rfl := Option.some.inj hstep
          have hnote : (note history node (.write i)).sent = message :: history.sent := by
            simp only [note, hi, hplace]
          rw [hnote]
          exact h.writes hs hi hplace
        · cases hstep
  | proceed i now =>
      have hnote : (note history node (.proceed i now)).sent = history.sent := by
        dsimp only [note]
        split
        · rfl
        · split <;> rfl
      rw [hnote]
      dsimp only [JoyMeshNode.step] at hstep
      split at hstep
      · cases hstep
      next execution hi =>
        split at hstep
        next stage message hplace =>
          obtain rfl := Option.some.inj hstep
          exact h.proceeds hs hi hplace
        next hplace =>
          have hcourse := h.course i execution hi
          rw [Execution.OnCourse, hplace] at hcourse
          exact hcourse.elim
        · cases hstep
  | act i done =>
      have hl : (Label.act i done).Steps i := rfl
      obtain ⟨execution, hi, ht⟩ := JoyMeshNode.step_turned hl hstep
      dsimp only [JoyMeshNode.step] at hstep
      rw [hi] at hstep
      dsimp only at hstep
      split at hstep
      next hplace _ => exact h.turned hs hi (by rw [Execution.closingStatus, hplace]) ht
      · cases hstep
  | broken i reason =>
      have hl : (Label.broken i reason).Steps i := rfl
      obtain ⟨execution, hi, ht⟩ := JoyMeshNode.step_turned hl hstep
      exact h.turned hs hi (hu execution hi) ht
  | offer envelope now =>
      dsimp only [JoyMeshNode.step] at hstep
      split at hstep
      · cases hstep
      · split at hstep
        · obtain rfl := Option.some.inj hstep
          exact h.handles rfl rfl
        · split at hstep
          · obtain rfl := Option.some.inj hstep
            exact h.offered
          · obtain rfl := Option.some.inj hstep
            exact h
  | answer =>
      dsimp only [JoyMeshNode.step] at hstep
      split at hstep
      · obtain rfl := Option.some.inj hstep
        exact h.handles rfl rfl
      · cases hstep
  | answered i =>
      dsimp only [JoyMeshNode.step] at hstep
      split at hstep
      next accepted hh hnone =>
        obtain rfl := Option.some.inj hstep
        cases accepted with
        | none => exact h.handles rfl rfl
        | some envelope => exact h.spawns hs hnone hh
      · cases hstep
  | taskCancel taskId =>
      dsimp only [JoyMeshNode.step] at hstep
      split at hstep
      · cases hstep
      · obtain rfl := Option.some.inj hstep
        exact h.handles rfl rfl
  | cancelHandle =>
      have hfree : Agrees { node with handler := none } history.sent := h.handles rfl rfl
      have hsingle : Single { node with handler := none } history.ran :=
        hs.handles rfl rfl fun _ _ hh => (by cases hh)
      dsimp only [JoyMeshNode.step] at hstep
      split at hstep
      next taskId hh =>
        split at hstep
        · obtain rfl := Option.some.inj hstep
          exact hfree
        next i hactive =>
          obtain rfl := Option.some.inj hstep
          exact hfree.interruptedAt hsingle fun execution hi => hu taskId i execution hh hactive hi
      · cases hstep
  | session publicKey =>
      dsimp only [JoyMeshNode.step] at hstep
      split at hstep
      · cases hstep
      · obtain rfl := Option.some.inj hstep
        exact h.handles rfl rfl
  | nodeRevoked =>
      dsimp only [JoyMeshNode.step] at hstep
      split at hstep
      · cases hstep
      · obtain rfl := Option.some.inj hstep
        have hmarked : Agrees { node with revoked := true } history.sent := h.handles rfl rfl
        have hsingle : Single { node with revoked := true } history.ran :=
          hs.handles rfl rfl fun _ envelope hh => ⟨_, hh⟩
        exact hmarked.stopped hsingle hu
  | disconnect =>
      obtain rfl := Option.some.inj hstep
      exact h.handles rfl rfl
  | restart =>
      obtain rfl := Option.some.inj hstep
      exact h.restarted hu

end Steps

section Runs

variable {setup : NodeSetup} {labels : List Label} {node : JoyMeshNode} {history : History}

theorem agrees_initial : Agrees (initial setup).1 (initial setup).2.sent where
  live _ _ hi := by cases hi
  course _ _ hi := by cases hi
  ordinary _ hm := by cases hm
  settled _ hm := by cases hm
  clean _ _ hi := by cases hi

theorem agrees_of_run (hr : run (work setup) (initial setup) labels = some (node, history))
    (hu : Along (work setup) (Undisturbed setup) (initial setup) labels) :
    Single node history.ran ∧ Agrees node history.sent := by
  have hstep : ∀ s label t, Single s.1 s.2.ran ∧ Agrees s.1 s.2.sent → Undisturbed setup s label →
      work setup s label = some t → Single t.1 t.2.ran ∧ Agrees t.1 t.2.sent := by
    rintro s label ⟨t, after⟩ ⟨hs, h⟩ hc hw
    obtain ⟨hstep, rfl⟩ := watched_eq_some hw
    exact ⟨hs.step hc.alone hstep, h.step hs hc hstep⟩
  have h := run_invariant hstep ⟨single_initial, agrees_initial⟩ hu hr
  exact h

-- A re-offer is answered with one message of the type.
def RepliesWith (node : JoyMeshNode) (type : MessageType) : Prop :=
  ∃ reply, node.handler = some (.answering [reply] none) ∧ reply.type = type

theorem offered_ended {envelope : ConnectorTaskEnvelope} {now : Time} {status : String}
    (h : node.progress envelope.pair = some (.ended status)) :
    RepliesWith (node.offered envelope now)
      (if status = "succeeded" then .taskSucceeded else .taskFailed) := by
  obtain ⟨entry, hentry, hprogress⟩ := Option.map_eq_some_iff.mp h
  obtain ⟨hterminal, rfl⟩ : entry.terminalAt ≠ none ∧ entry.status = status := by
    unfold LocalTaskJournalEntry.progress at hprogress
    split at hprogress
    next ht => exact ⟨ht, Progress.ended.inj hprogress⟩
    · split at hprogress <;> cases hprogress
  refine ⟨JoyMeshNode.terminalAnswer envelope entry, ?_, rfl⟩
  unfold JoyMeshNode.offered
  rw [NodeTaskJournal.get, hentry]
  dsimp only
  rw [if_pos hterminal]

-- In an undisturbed run a terminal message that was sent is what the journal
-- says, unless it is about to be written, and what a re-offer is answered with.
theorem terminal_agrees (hr : run (work setup) (initial setup) labels = some (node, history))
    (hu : Along (work setup) (Undisturbed setup) (initial setup) labels)
    (message : TaskMessage) (hsent : message ∈ history.sent) (status : String)
    (hstatus : message.type.status = some status) :
    ((∀ i execution, node.executions i = some execution → execution.envelope.pair = message.pair →
        execution.closingStatus = none) →
      ∃ entry, node.journal.get message.pair = some entry ∧ entry.terminalAt ≠ none ∧
        entry.status = status) ∧
      ∀ envelope now, envelope.pair = message.pair → node.revoked = false →
        node.admits setup envelope now = true →
        Undisturbed setup (node, history) (.offer envelope now) →
          RepliesWith (node.offered envelope now) message.type := by
  obtain ⟨-, h⟩ := agrees_of_run hr hu
  have hended : (∀ i execution, node.executions i = some execution →
      execution.envelope.pair = message.pair → execution.closingStatus = none) →
        node.progress message.pair = some (.ended status) := by
    intro hopen
    rcases h.settled message hsent status hstatus with hended | ⟨i, execution, hi, he, hc⟩
    · exact hended
    · rw [hopen i execution hi he] at hc
      cases hc
  constructor
  · intro hopen
    obtain ⟨entry, hentry, hprogress⟩ := Option.map_eq_some_iff.mp (hended hopen)
    refine ⟨entry, hentry, ?_⟩
    unfold LocalTaskJournalEntry.progress at hprogress
    split at hprogress
    next ht => exact ⟨ht, Progress.ended.inj hprogress⟩
    · split at hprogress <;> cases hprogress
  · intro envelope now hpair hrevoked hadmits hoffer
    have hopen : ∀ i execution, node.executions i = some execution →
        execution.envelope.pair = message.pair → execution.closingStatus = none :=
      fun i execution hi he => (hoffer hrevoked hadmits i execution hi (he.trans hpair.symm)).2
    have hreply : RepliesWith (node.offered envelope now) _ :=
      offered_ended (by rw [hpair]; exact hended hopen)
    obtain ⟨hcancelled, hinterrupted⟩ := h.ordinary message hsent
    have htype : (if status = "succeeded" then .taskSucceeded else .taskFailed) = message.type := by
      cases ht : message.type <;> rw [ht] at hstatus hcancelled hinterrupted <;>
        first | exact absurd rfl hcancelled | exact absurd rfl hinterrupted | cases hstatus
      · rfl
      · rfl
    rwa [htype] at hreply

-- A task that is offered, runs and succeeds.
def succeeding : List Label :=
  [.offer (sampleOffer .discover) 0, .answer, .answered 0, .start 0 1, .write 0, .proceed 0 1,
    .act 0 (.returned .succeeded), .write 0, .proceed 0 2]

theorem terminal_agrees_succeeding : ∃ (node : JoyMeshNode) (history : History)
    (message : TaskMessage),
    run (work sampleSetup) (initial sampleSetup) succeeding = some (node, history) ∧
      message.type = .taskSucceeded ∧
      (((∀ i execution, node.executions i = some execution →
          execution.envelope.pair = message.pair → execution.closingStatus = none) →
        ∃ entry, node.journal.get message.pair = some entry ∧ entry.terminalAt ≠ none ∧
          entry.status = "succeeded") ∧
        ∀ envelope now, envelope.pair = message.pair → node.revoked = false →
          node.admits sampleSetup envelope now = true →
          Undisturbed sampleSetup (node, history) (.offer envelope now) →
            RepliesWith (node.offered envelope now) message.type) := by
  have hrun : (run (work sampleSetup) (initial sampleSetup) succeeding).map
      (fun s => s.2.sent.map (·.type)) = some [.taskSucceeded, .taskStarted] := by decide +kernel
  obtain ⟨⟨node, history⟩, hs, hsent⟩ := Option.map_eq_some_iff.mp hrun
  have hmem : MessageType.taskSucceeded ∈ history.sent.map (·.type) := by
    rw [hsent]
    exact List.mem_cons_self
  obtain ⟨message, hm, htype⟩ := List.mem_map.mp hmem
  exact ⟨node, history, message, hs, htype,
    terminal_agrees hs (by simp [succeeding, Along, Undisturbed, initial]) message hm "succeeded"
      (by rw [htype]; rfl)⟩

-- A task that is cancelled while its action runs.
def cancelling : List Label :=
  [.offer (sampleOffer .discover) 0, .answer, .answered 0, .start 0 1, .write 0, .proceed 0 1,
    .taskCancel "task", .cancelHandle, .proceed 0 2, .write 0, .proceed 0 2, .write 0, .proceed 0 2]

theorem cancelled_reported_running : ¬ ∀ (setup : NodeSetup) (labels : List Label)
    (node : JoyMeshNode) (history : History),
    run (work setup) (initial setup) labels = some (node, history) →
      ∀ message ∈ history.sent, message.type.status ≠ none →
        ∀ envelope now, envelope.pair = message.pair → node.revoked = false →
          node.admits setup envelope now = true →
            RepliesWith (node.offered envelope now) message.type := by
  intro h
  have hrun : (run (work sampleSetup) (initial sampleSetup) cancelling).map
      (fun s => (s.2.sent.map fun message => (message.type, message.pair), s.1.revoked,
        s.1.admits sampleSetup (sampleOffer .discover) 3,
        (s.1.offered (sampleOffer .discover) 3).handler.map fun handler =>
          match handler with
          | .answering queue _ => queue.map (·.type)
          | .cancelling _ => [])) =
      some ([(.taskCancelled, ("task", "hash")), (.taskCancelled, ("task", "hash")),
        (.taskStarted, ("task", "hash"))], false, true, some [.taskAccepted, .taskProgress]) := by
    decide +kernel
  obtain ⟨⟨node, history⟩, hs, heq⟩ := Option.map_eq_some_iff.mp hrun
  simp only [Prod.mk.injEq] at heq
  obtain ⟨hsent, hrevoked, hadmits, hhandler⟩ := heq
  have hmem : (MessageType.taskCancelled, ("task", "hash")) ∈
      history.sent.map fun message => (message.type, message.pair) := by
    rw [hsent]
    exact List.mem_cons_self
  obtain ⟨message, hm, htype⟩ := List.mem_map.mp hmem
  obtain ⟨htype, hpair⟩ := Prod.mk.inj htype
  obtain ⟨reply, hreply, -⟩ := h sampleSetup cancelling node history hs message hm
    (by rw [htype]; simp [MessageType.status]) (sampleOffer .discover) 3 hpair.symm hrevoked hadmits
  rw [hreply] at hhandler
  simp at hhandler

end Runs

end JoyMesh.Node
