import JoyMesh.Completion.Flights

namespace JoyMesh.Completion

open Library

-- What a verification was asked, what it said, and the state it was made in.
structure Verified where
  request : VerificationRequest
  result : VerificationResult
  after : Orchestrator

-- A completion that was started: its context, and the verifications since then.
structure Completing where
  context : CompletionContext
  verified : List Verified := []

-- The latest completion of each execution.
abbrev History := String → Option Completing

def History.note (history : History) (entry : Entry) : History :=
  match entry.effect with
  | .backendCompleted context => Function.update history context.executionId (some { context })
  | .verified request result =>
      Function.update history request.executionId ((history request.executionId).map fun started =>
        { started with verified := started.verified ++ [⟨request, result, entry.after⟩] })
  | _ => history

def History.after (history : History) (trace : List Entry) : History :=
  trace.foldl History.note history

-- The completion was verified as its context asks: by its strategy, with its
-- evidence types, on the evidence that was accepted for the execution, and for
-- its authoritative attempt. With `own` it is the record's own field that names it.
def Completing.Justified (started : Completing) (own : Bool) (executionId : String) : Prop :=
  started.context.attemptId = started.context.authoritativeAttemptId ∧
    ∃ verified ∈ started.verified,
      verified.result = verified.request.verify ∧ verified.result.outcome = .verified ∧
      verified.request.strategy = started.context.verificationStrategy ∧
      verified.request.requiredEvidenceTypes = started.context.requiredEvidenceTypes ∧
      verified.request.acceptedEvidence = verified.after.evidence.listAccepted executionId ∧
      verified.request.backendOk = true ∧ verified.request.restoreOk = true ∧
      ∃ record, verified.after.saved.lookup executionId = some record ∧
        record.backendOk = true ∧ record.restoreOk = true ∧
        record.attemptId = started.context.attemptId ∧
        (own = true → record.attemptId = record.authoritativeAttemptId)

def History.Justified (history : History) (own : Bool) (executionId : String) : Prop :=
  ∃ started, history executionId = some started ∧ started.Justified own executionId

-- The completion that a record waits for is the latest one.
def History.Awaits (history : History) (own : Bool) (executionId : String)
    (record : CompletionRecord) : Prop :=
  ∃ started, history executionId = some started ∧
    record.attemptId = started.context.attemptId ∧
    started.context.attemptId = started.context.authoritativeAttemptId ∧
    (own = true → record.attemptId = record.authoritativeAttemptId)

structure CompletionRecord.Backed (own : Bool) (history : History) (executionId : String)
    (record : CompletionRecord) : Prop where
  keyed : record.executionId = executionId
  completed : record.state = .completed → history.Justified own executionId
  awaited : record.state ∈ reverifiedStates → history.Awaits own executionId record

-- An effect that does not start a completion.
def Effect.Plain (effect : Effect) : Prop := ∀ context, effect ≠ .backendCompleted context

section Notes

variable {own : Bool} {history : History} {trace : List Entry} {entry : Entry} {executionId : String}
  {record : CompletionRecord}

@[simp] theorem History.after_nil : history.after [] = history := rfl

@[simp] theorem History.after_concat :
    history.after (trace ++ [entry]) = (history.after trace).note entry := by
  simp [History.after]

theorem History.note_other (habout : entry.effect.About executionId) {other : String}
    (hother : other ≠ executionId) : history.note entry other = history other := by
  obtain ⟨effect, after⟩ := entry
  cases effect with
  | backendCompleted context =>
      obtain rfl : context.executionId = executionId := habout
      exact Function.update_of_ne hother _ _
  | verified request result =>
      obtain rfl : request.executionId = executionId := habout
      exact Function.update_of_ne hother _ _
  | saved => rfl
  | evidenceTaken => rfl
  | usageRead => rfl
  | projected => rfl

-- What a call does for one execution is no part of the history of another.
theorem History.after_other (habout : ∀ entry ∈ trace, entry.effect.About executionId)
    {other : String} (hother : other ≠ executionId) : history.after trace other = history other := by
  induction trace using List.reverseRecOn with
  | nil => rfl
  | append_singleton trace entry ih =>
      rw [History.after_concat, History.note_other (habout entry (by simp)) hother]
      exact ih fun entry hentry => habout entry (List.mem_append_left _ hentry)

variable (history executionId) in
-- A plain effect keeps the context and only adds verifications.
theorem History.note_plain (hplain : entry.effect.Plain) :
    ∃ more, history.note entry executionId = (history executionId).map fun started =>
      { started with verified := started.verified ++ more } := by
  obtain ⟨effect, after⟩ := entry
  have hsame : history executionId = (history executionId).map fun started =>
      { started with verified := started.verified ++ [] } := by simp
  cases effect with
  | backendCompleted context => exact absurd rfl (hplain context)
  | verified request result =>
      by_cases hid : executionId = request.executionId
      · subst hid
        exact ⟨[⟨request, result, after⟩], Function.update_self _ _ _⟩
      · exact ⟨[], by rw [← hsame]; exact Function.update_of_ne hid _ _⟩
  | saved => exact ⟨[], hsame⟩
  | evidenceTaken => exact ⟨[], hsame⟩
  | usageRead => exact ⟨[], hsame⟩
  | projected => exact ⟨[], hsame⟩

theorem Completing.Justified.more {started : Completing} (h : started.Justified own executionId)
    (more : List Verified) :
    Completing.Justified { started with verified := started.verified ++ more } own executionId := by
  obtain ⟨hattempt, verified, hmem, hverified⟩ := h
  exact ⟨hattempt, verified, List.mem_append_left _ hmem, hverified⟩

theorem History.Justified.note (h : history.Justified own executionId)
    (hplain : entry.effect.Plain) : (history.note entry).Justified own executionId := by
  obtain ⟨started, hstarted, hjustified⟩ := h
  obtain ⟨more, hmore⟩ := History.note_plain history executionId hplain
  exact ⟨_, by rw [hmore, hstarted]; rfl, hjustified.more more⟩

theorem History.Awaits.note (h : history.Awaits own executionId record)
    (hplain : entry.effect.Plain) : (history.note entry).Awaits own executionId record := by
  obtain ⟨started, hstarted, hrecord⟩ := h
  obtain ⟨more, hmore⟩ := History.note_plain history executionId hplain
  exact ⟨{ started with verified := started.verified ++ more }, by rw [hmore, hstarted]; rfl, hrecord⟩

theorem CompletionRecord.Backed.note (h : record.Backed own history executionId)
    (hplain : entry.effect.Plain) : record.Backed own (history.note entry) executionId where
  keyed := h.keyed
  completed hcompleted := (h.completed hcompleted).note hplain
  awaited hwaits := (h.awaited hwaits).note hplain

-- Backing is about the state and the attempts.
theorem CompletionRecord.Backed.congr {other : CompletionRecord}
    (h : record.Backed own history executionId) (hid : other.executionId = record.executionId)
    (hstate : other.state = record.state) (hattempt : other.attemptId = record.attemptId)
    (hauthority : other.authoritativeAttemptId = record.authoritativeAttemptId) :
    other.Backed own history executionId where
  keyed := hid.trans h.keyed
  completed hcompleted := h.completed (hstate ▸ hcompleted)
  awaited hwaits := by
    obtain ⟨started, hstarted, hrecord⟩ := h.awaited (hstate ▸ hwaits)
    exact ⟨started, hstarted, by rwa [hattempt, hauthority]⟩

-- A state that is neither completed nor verified again needs no backing.
theorem CompletionRecord.Backed.of_plain (hid : record.executionId = executionId)
    (hcompleted : record.state ≠ .completed) (hwaits : record.state ∉ reverifiedStates) :
    record.Backed own history executionId where
  keyed := hid
  completed h := absurd h hcompleted
  awaited h := absurd h hwaits

end Notes

-- What was saved of the execution is backed now, and was at every effect.
structure Cuts (own : Bool) (history : History) (executionId : String) (now : Orchestrator)
    (trace : List Entry) : Prop where
  saved : ∀ record, now.saved.lookup executionId = some record →
    record.Backed own (history.after trace) executionId
  cuts : ∀ before entry after, trace = before ++ entry :: after → ∀ record,
    entry.after.saved.lookup executionId = some record →
      record.Backed own ((history.after before).note entry) executionId

structure Ended.Backed (own : Bool) (history : History) (executionId : String) (ended : Ended) :
    Prop extends Cuts own history executionId ended.now ended.trace where
  live : ∀ record, ended.now.live.lookup executionId = some record →
    record.Backed own (history.after ended.trace) executionId

-- A flight whose record may be saved: it is backed, the completion under way is
-- the one given, if any, and the verification is done where it says so.
structure Flight.Prepared (own : Bool) (history : History) (executionId : String)
    (given : Option CompletionContext) (done : Bool) (f : Flight) : Prop
    extends Cuts own history executionId f.now f.trace where
  record : f.record.Backed own (history.after f.trace) executionId
  given : (history.after f.trace executionId).map (·.context) = given
  done : done = true → (history.after f.trace).Justified own executionId

-- What is in memory is backed as well.
structure Flight.Ready (own : Bool) (history : History) (executionId : String)
    (given : Option CompletionContext) (done : Bool) (f : Flight) : Prop
    extends Flight.Prepared own history executionId given done f where
  live : ∀ record, f.now.live.lookup executionId = some record →
    record.Backed own (history.after f.trace) executionId

section Trails

variable {own done : Bool} {history : History} {executionId : String}
  {given : Option CompletionContext} {now next : Orchestrator} {trace : List Entry} {f : Flight}
  {effect : Effect}

theorem Cuts.concat (h : Cuts own history executionId now trace)
    (hsaved : ∀ record, next.saved.lookup executionId = some record →
      record.Backed own ((history.after trace).note ⟨effect, next⟩) executionId) :
    Cuts own history executionId next (trace ++ [⟨effect, next⟩]) where
  saved record hrecord := by
    rw [History.after_concat]
    exact hsaved record hrecord
  cuts before entry after hsplit record hrecord := by
    rcases List.eq_nil_or_concat after with rfl | ⟨earlier, last, rfl⟩
    · obtain ⟨rfl, hentry⟩ := List.append_inj' hsplit rfl
      obtain rfl : (⟨effect, next⟩ : Entry) = entry := List.head_eq_of_cons_eq hentry
      exact hsaved record hrecord
    · have hsplit' : trace ++ [⟨effect, next⟩] = (before ++ entry :: earlier) ++ [last] := by
        simpa using hsplit
      obtain ⟨rfl, -⟩ := List.append_inj' hsplit' rfl
      exact h.cuts before entry earlier rfl record hrecord

-- The record of the flight replaces what was saved.
theorem Cuts.save (h : Cuts own history executionId now trace) {record : CompletionRecord}
    (hrecord : record.Backed own ((history.after trace).note ⟨effect, now.save record⟩) executionId) :
    Cuts own history executionId (now.save record) (trace ++ [⟨effect, now.save record⟩]) := by
  refine h.concat fun found hfound => ?_
  rw [Orchestrator.save, ← hrecord.keyed, AList.lookup_insert] at hfound
  obtain rfl := Option.some.inj hfound
  exact hrecord

namespace Flight

variable {change : CompletionRecord → CompletionRecord} {state : CompletionLifecycleState}

theorem Prepared.modify (h : f.Prepared own history executionId given done)
    (hrecord : (change f.record).Backed own (history.after f.trace) executionId) :
    (f.modify change).Prepared own history executionId given done :=
  ⟨h.toCuts, hrecord, h.given, h.done⟩

-- A change of anything but the state and the attempts.
theorem Prepared.touch (h : f.Prepared own history executionId given done)
    (hid : (change f.record).executionId = f.record.executionId)
    (hstate : (change f.record).state = f.record.state)
    (hattempt : (change f.record).attemptId = f.record.attemptId)
    (hauthority : (change f.record).authoritativeAttemptId = f.record.authoritativeAttemptId) :
    (f.modify change).Prepared own history executionId given done :=
  h.modify (h.record.congr hid hstate hattempt hauthority)

theorem Prepared.ready (h : f.Prepared own history executionId given done)
    (hlive : f.now.live.lookup executionId = some f.record) :
    f.Ready own history executionId given done where
  toPrepared := h
  live record hrecord := by
    obtain rfl := Option.some.inj (hlive.symm.trans hrecord)
    exact h.record

-- A plain effect leaves what was prepared as it was.
theorem Prepared.noted (h : f.Prepared own history executionId given done) (entry : Entry)
    (hplain : entry.effect.Plain) :
    f.record.Backed own (history.after (f.trace ++ [entry])) executionId ∧
      (history.after (f.trace ++ [entry]) executionId).map (·.context) = given ∧
      (done = true → (history.after (f.trace ++ [entry])).Justified own executionId) := by
  rw [History.after_concat]
  refine ⟨h.record.note hplain, ?_, fun hdone => (h.done hdone).note hplain⟩
  obtain ⟨more, hmore⟩ := History.note_plain (history.after f.trace) executionId hplain
  rw [hmore, ← h.given, Option.map_map]
  rfl

theorem Prepared.save (h : f.Prepared own history executionId given done) (effect : Effect)
    (hplain : effect.Plain) :
    (f.reach effect (f.now.save f.record)).Ready own history executionId given done := by
  obtain ⟨hrecord, hgiven, hdone⟩ := h.noted ⟨effect, f.now.save f.record⟩ hplain
  refine Prepared.ready ⟨h.toCuts.save (h.record.note hplain), hrecord, hgiven, hdone⟩ ?_
  rw [← h.record.keyed]
  exact AList.lookup_insert _

theorem Prepared.emitAs (h : f.Prepared own history executionId given done) (effect : Effect)
    (hplain : effect.Plain) (eventType : String) (payload : EventPayload) (force : Bool) :
    (f.emitAs effect eventType payload force).Ready own history executionId given done := by
  have hcounted : (f.modify fun record => { record with sequence := record.sequence + 1 }).Prepared
      own history executionId given done := h.touch rfl rfl rfl rfl
  unfold Flight.emitAs
  dsimp only
  split
  · refine Prepared.ready ⟨⟨hcounted.saved, hcounted.cuts⟩, hcounted.record, hcounted.given,
      hcounted.done⟩ ?_
    rw [← hcounted.record.keyed]
    exact AList.lookup_insert _
  · exact Prepared.save (Prepared.touch hcounted rfl rfl rfl rfl) _ hplain

theorem plain_saved : Effect.saved.Plain := fun _ => Effect.noConfusion

theorem Prepared.emit (h : f.Prepared own history executionId given done) (eventType : String)
    (payload : List (String × Value)) :
    (f.emit eventType payload).Ready own history executionId given done :=
  h.emitAs .saved plain_saved _ _ _

theorem Ready.modify (h : f.Ready own history executionId given done)
    (hrecord : (change f.record).Backed own (history.after f.trace) executionId) :
    (f.modify change).Ready own history executionId given done :=
  ⟨h.toPrepared.modify hrecord, h.live⟩

theorem Ready.emit (h : f.Ready own history executionId given done) (eventType : String)
    (payload : List (String × Value)) :
    (f.emit eventType payload).Ready own history executionId given done :=
  h.toPrepared.emit _ _

-- An effect beside the tables.
theorem Ready.reach (h : f.Ready own history executionId given done) (effect : Effect)
    (hplain : effect.Plain) (hlive : next.live = f.now.live) (hsaved : next.saved = f.now.saved) :
    (f.reach effect next).Ready own history executionId given done := by
  obtain ⟨hrecord, hgiven, hdone⟩ := h.noted ⟨effect, next⟩ hplain
  refine ⟨⟨h.concat fun record hfound => ?_, hrecord, hgiven, hdone⟩, fun record hfound => ?_⟩
  · exact (h.saved record (hsaved ▸ hfound)).note hplain
  · rw [reach_trace, History.after_concat]
    exact (h.live record (hlive ▸ hfound)).note hplain

-- The record may take a state that asks for nothing.
theorem Ready.become (h : f.Ready own history executionId given done)
    (hcompleted : state ≠ .completed) (hwaits : state ∉ reverifiedStates) :
    (f.become state).Ready own history executionId given done :=
  h.modify (.of_plain h.record.keyed hcompleted hwaits)

-- A record that waits may go on waiting.
theorem Ready.wait (h : f.Ready own history executionId given done)
    (hwaits : f.record.state ∈ reverifiedStates) (hcompleted : state ≠ .completed) :
    (f.become state).Ready own history executionId given done :=
  h.modify ⟨h.record.keyed, fun h => absurd h hcompleted, fun _ => h.record.awaited hwaits⟩

theorem Ready.fail (h : f.Ready own history executionId given done)
    (hcompleted : state ≠ .completed) (hwaits : state ∉ reverifiedStates)
    (failureClass detail : String) :
    (f.fail state failureClass detail).Ready own history executionId given done :=
  h.modify (.of_plain h.record.keyed hcompleted hwaits)

theorem Ready.ended (h : f.Ready own history executionId given done) :
    f.ended.Backed own history executionId :=
  ⟨h.toCuts, h.live⟩

end Flight

end Trails

end JoyMesh.Completion
