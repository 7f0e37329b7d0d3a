import JoyMesh.Delivery.Unblocked

namespace JoyMesh.Delivery

open Library

namespace DeliveryOutbox

variable {outbox : DeliveryOutbox} {row : OutboxRecord} {envelopeId key : String}
  {status : DeliveryAckStatus} {now : Time} {maxEntries : Nat} {envelope : DeliveryEnvelope}

-- A row after a mark was there before it, and only the marked row is another.
theorem setStatus_row (h : (outbox.setStatus envelopeId status now).rows.lookup key = some row) :
    key = envelopeId ∧ (∃ before, outbox.rows.lookup key = some before ∧
        row = { before with status := status, attempts := before.attempts + 1, updatedAt := now }) ∨
      key ≠ envelopeId ∧ outbox.rows.lookup key = some row := by
  by_cases hne : key = envelopeId
  · subst hne
    cases hk : outbox.rows.lookup key with
    | none =>
        rw [lookup_setStatus_of_none hk, hk] at h
        cases h
    | some before =>
        rw [lookup_setStatus_self hk] at h
        exact .inl ⟨rfl, before, rfl, (Option.some.inj h).symm⟩
  · exact .inr ⟨hne, (lookup_setStatus_of_ne hne).symm.trans h⟩

theorem markAcked_row (h : (outbox.markAcked envelopeId).rows.lookup key = some row) :
    key ≠ envelopeId ∧ outbox.rows.lookup key = some row := by
  by_cases hne : key = envelopeId
  · subst hne
    rw [markAcked, AList.lookup_erase] at h
    cases h
  · exact ⟨hne, (AList.lookup_erase_ne hne).symm.trans h⟩

-- A row after an append is the appended one or was there before it.
theorem append_row (h : (outbox.append maxEntries envelope now).2.rows.lookup key = some row) :
    key = envelope.envelopeId ∧ row = stored envelope now ∨
      outbox.rows.lookup key = some row := by
  unfold append at h
  split at h
  · exact .inr h
  · split at h
    · exact .inr h
    · have hkept : (((outbox.inserted envelope now).compact maxEntries).1).rows.lookup key =
          some row := by
        dsimp only at h
        split at h <;> exact h
      rw [lookup_compact] at hkept
      split at hkept
      · cases hkept
      · rcases Table.lookup_insert_cases hkept with ⟨rfl, rfl⟩ | ⟨-, hold⟩
        · exact .inl ⟨rfl, rfl⟩
        · exact .inr hold

@[simp] theorem append_sequence :
    (outbox.append maxEntries envelope now).2.sequence = outbox.sequence := by
  unfold append
  split
  · rfl
  · split
    · rfl
    · dsimp only
      split <;> rfl

@[simp] theorem setStatus_sequence :
    (outbox.setStatus envelopeId status now).sequence = outbox.sequence := by
  unfold setStatus
  split <;> rfl

end DeliveryOutbox

-- The sequence numbers: those of the rows and those that publications hold have
-- been given out, each once.
structure Numbered (s : DeliveryState) : Prop where
  ordered : Ordered s.outbox
  given : ∀ key row, s.outbox.rows.lookup key = some row →
    row.envelope.sequence ≤ s.outbox.sequence
  held : ∀ i sequence, s.publications i = some sequence → sequence ≤ s.outbox.sequence
  unused : ∀ i sequence, s.publications i = some sequence → ∀ key row,
    s.outbox.rows.lookup key = some row → row.envelope.sequence ≠ sequence
  alone : ∀ i j sequence, s.publications i = some sequence →
    s.publications j = some sequence → i = j

section Numbers

variable {publisher : RuntimeDeliveryPublisher} {settings : Settings} {s t : DeliveryState}
  {i : Nat} {label : Label} {now : Time}

-- A step that only marks or deletes rows.
theorem Numbered.of_rows (h : Numbered s) (hpublications : t.publications = s.publications)
    (hsequence : t.outbox.sequence = s.outbox.sequence)
    (hrows : ∀ key row, t.outbox.rows.lookup key = some row →
      ∃ before, s.outbox.rows.lookup key = some before ∧ row.envelope = before.envelope) :
    Numbered t := by
  refine ⟨⟨fun key row hk => ?_, fun key row other found hk ho hseq => ?_⟩, fun key row hk => ?_,
    fun i sequence hi => ?_, fun i sequence hi key row hk => ?_, fun i j sequence hi hj => ?_⟩
  · obtain ⟨before, hbefore, he⟩ := hrows key row hk
    exact he ▸ h.ordered.keyed key before hbefore
  · obtain ⟨before, hbefore, he⟩ := hrows key row hk
    obtain ⟨foundBefore, hfound, hf⟩ := hrows other found ho
    exact h.ordered.apart key before other foundBefore hbefore hfound (he ▸ hf ▸ hseq)
  · obtain ⟨before, hbefore, he⟩ := hrows key row hk
    exact he ▸ hsequence ▸ h.given key before hbefore
  · exact hsequence ▸ h.held i sequence (hpublications ▸ hi)
  · obtain ⟨before, hbefore, he⟩ := hrows key row hk
    exact he ▸ h.unused i sequence (hpublications ▸ hi) key before hbefore
  · exact h.alone i j sequence (hpublications ▸ hi) (hpublications ▸ hj)

theorem setStatus_keeps_envelopes {outbox : DeliveryOutbox} {envelopeId : String}
    {status : DeliveryAckStatus} (key : String) (row : OutboxRecord)
    (h : (outbox.setStatus envelopeId status now).rows.lookup key = some row) :
    ∃ before, outbox.rows.lookup key = some before ∧ row.envelope = before.envelope := by
  rcases DeliveryOutbox.setStatus_row h with ⟨-, before, hbefore, rfl⟩ | ⟨-, hbefore⟩
  · exact ⟨before, hbefore, rfl⟩
  · exact ⟨row, hbefore, rfl⟩

theorem Numbered.drained {rest : List OutboxRecord} (h : Numbered s) :
    Numbered (s.drained settings i now rest) := by
  cases rest with
  | nil => exact h.of_rows rfl rfl fun key row hk => ⟨row, hk, rfl⟩
  | cons record rest =>
      unfold DeliveryState.drained
      dsimp only
      split
      · exact h.of_rows rfl DeliveryOutbox.setStatus_sequence setStatus_keeps_envelopes
      · exact h.of_rows rfl DeliveryOutbox.setStatus_sequence setStatus_keeps_envelopes

theorem Numbered.settled {envelopeId : String} {acked : Bool} {rest : List OutboxRecord}
    (h : Numbered s) : Numbered (s.settled i envelopeId acked rest now) := by
  cases acked with
  | true =>
      exact h.of_rows rfl rfl fun key row hk => ⟨row, (DeliveryOutbox.markAcked_row hk).2, rfl⟩
  | false => exact h.of_rows rfl DeliveryOutbox.setStatus_sequence setStatus_keeps_envelopes

-- The next number is above every number given out before.
theorem Numbered.takeSequence (h : Numbered s) (hi : s.publications i = none) :
    Numbered { s with
      outbox := s.outbox.nextSequence.2
      publications := Function.update s.publications i (some s.outbox.nextSequence.1) } := by
  have hcases : ∀ j sequence, Function.update s.publications i (some (s.outbox.sequence + 1)) j =
      some sequence → j = i ∧ sequence = s.outbox.sequence + 1 ∨
        j ≠ i ∧ s.publications j = some sequence := by
    intro j sequence hj
    by_cases hji : j = i
    · subst hji
      rw [Function.update_self] at hj
      exact .inl ⟨rfl, (Option.some.inj hj).symm⟩
    · rw [Function.update_of_ne hji] at hj
      exact .inr ⟨hji, hj⟩
  refine ⟨⟨h.ordered.keyed, h.ordered.apart⟩,
    fun key row hk => Nat.le_succ_of_le (h.given key row hk),
    fun j sequence hj => ?_, fun j sequence hj key row hk => ?_, fun j k sequence hj hk => ?_⟩
  · rcases hcases j sequence hj with ⟨-, rfl⟩ | ⟨-, hold⟩
    · exact Nat.le_refl _
    · exact Nat.le_succ_of_le (h.held j sequence hold)
  · rcases hcases j sequence hj with ⟨-, rfl⟩ | ⟨-, hold⟩
    · exact Nat.ne_of_lt (Nat.lt_succ_of_le (h.given key row hk))
    · exact h.unused j sequence hold key row hk
  · rcases hcases j sequence hj with ⟨rfl, rfl⟩ | ⟨-, hold⟩
    · rcases hcases k _ hk with ⟨rfl, -⟩ | ⟨-, hother⟩
      · rfl
      · exact absurd (h.held k _ hother) (Nat.not_succ_le_self _)
    · rcases hcases k sequence hk with ⟨-, rfl⟩ | ⟨-, hother⟩
      · exact absurd (h.held j _ hold) (Nat.not_succ_le_self _)
      · exact h.alone j k sequence hold hother

-- An appended row takes over the number that its publication held.
theorem Numbered.appended {envelope : DeliveryEnvelope} (h : Numbered s)
    (hi : s.publications i = some envelope.sequence) :
    Numbered (s.appended settings i envelope now) := by
  have hold : ∀ j sequence, Function.update s.publications i none j = some sequence →
      j ≠ i ∧ s.publications j = some sequence := by
    intro j sequence hj
    by_cases hji : j = i
    · subst hji
      rw [Function.update_self] at hj
      cases hj
    · exact ⟨hji, by rwa [Function.update_of_ne hji] at hj⟩
  unfold DeliveryState.appended
  refine ⟨⟨fun key row hk => ?_, fun key row other found hk ho hseq => ?_⟩, fun key row hk => ?_,
    fun j sequence hj => ?_, fun j sequence hj key row hk => ?_, fun j k sequence hj hk => ?_⟩
  · rcases DeliveryOutbox.append_row hk with ⟨rfl, rfl⟩ | hk
    · rfl
    · exact h.ordered.keyed key row hk
  · rcases DeliveryOutbox.append_row hk with ⟨rfl, rfl⟩ | hk
    · rcases DeliveryOutbox.append_row ho with ⟨rfl, rfl⟩ | ho
      · rfl
      · exact absurd hseq.symm (h.unused i _ hi other found ho)
    · rcases DeliveryOutbox.append_row ho with ⟨rfl, rfl⟩ | ho
      · exact absurd hseq (h.unused i _ hi key row hk)
      · exact h.ordered.apart key row other found hk ho hseq
  · dsimp only
    rw [DeliveryOutbox.append_sequence]
    rcases DeliveryOutbox.append_row hk with ⟨rfl, rfl⟩ | hk
    · exact h.held i _ hi
    · exact h.given key row hk
  · dsimp only
    rw [DeliveryOutbox.append_sequence]
    exact h.held j sequence (hold j sequence hj).2
  · obtain ⟨hne, hj⟩ := hold j sequence hj
    rcases DeliveryOutbox.append_row hk with ⟨rfl, rfl⟩ | hk
    · intro hseq
      have hsame : s.publications i = some sequence := hseq ▸ hi
      exact hne (h.alone j i sequence hj hsame)
    · exact h.unused j sequence hj key row hk
  · exact h.alone j k sequence (hold j sequence hj).2 (hold k sequence hk).2

theorem Numbered.step (h : Numbered s) (hs : s.step publisher settings label = some t) :
    Numbered t := by
  have hsame : ∀ i next, Numbered (s.setFlush i next) := fun i next =>
    h.of_rows rfl rfl fun key row hk => ⟨row, hk, rfl⟩
  cases label with
  | takeSequence i =>
      dsimp only [DeliveryState.step] at hs
      split at hs
      · cases hs
      next hi =>
        obtain rfl := Option.some.inj hs
        exact h.takeSequence hi
  | append i draft now =>
      dsimp only [DeliveryState.step] at hs
      split at hs
      · cases hs
      next sequence hi =>
        split at hs
        · cases hs
        · obtain rfl := Option.some.inj hs
          exact h.appended hi
  | drain i now =>
      dsimp only [DeliveryState.step] at hs
      split at hs
      · obtain rfl := Option.some.inj hs
        exact h.drained
      · cases hs
  | settle i now =>
      dsimp only [DeliveryState.step] at hs
      split at hs
      · obtain rfl := Option.some.inj hs
        exact h.settled
      · cases hs
  | restart =>
      obtain rfl := Option.some.inj hs
      exact ⟨h.ordered, h.given, fun _ _ hi => (by cases hi), fun _ _ hi => (by cases hi),
        fun _ _ _ hi => (by cases hi)⟩
  | flushOnce i | connected i | unreachable i | published i outcome | closed i | cancel i =>
      dsimp only [DeliveryState.step] at hs
      split at hs <;> cases hs <;> exact hsame _ _

theorem numbered_initial : Numbered {} where
  ordered := ⟨fun _ _ h => (by cases h), fun _ _ _ _ h => (by cases h)⟩
  given _ _ h := by cases h
  held _ _ h := by cases h
  unused _ _ h := by cases h
  alone _ _ _ h := by cases h

end Numbers

end JoyMesh.Delivery
