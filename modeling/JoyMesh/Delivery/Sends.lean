import JoyMesh.Delivery.Attempts
import JoyMesh.Delivery.Kept

namespace JoyMesh.Delivery

open Library

-- The ids of the envelopes that were handed to the transport, the last one first.
abbrev Sends := List String

def noteSends (settings : Settings) (sends : Sends) (s : DeliveryState) : Label → Sends
  | .drain i _ =>
      match s.flushes i with
      | some (.draining (record :: _)) =>
          if Exhausted settings record then sends else record.envelope.envelopeId :: sends
      | _ => sends
  | _ => sends

-- The envelope that the worker gives up: it reads an exhausted row of it.
def givenUp (settings : Settings) (s : DeliveryState) : Label → Option String
  | .drain i _ =>
      match s.flushes i with
      | some (.draining (record :: _)) =>
          if Exhausted settings record then some record.envelope.envelopeId else none
      | _ => none
  | _ => none

namespace Flush

-- The records of the batch that the loop has not reached.
def rest : Flush → List OutboxRecord
  | .connecting => []
  | .draining rest => rest
  | .publishing _ rest => rest
  | .closing _ rest => rest
  | .settling _ _ rest => rest

def sending : Flush → Option String
  | .publishing envelopeId _ => some envelopeId
  | .closing envelopeId _ => some envelopeId
  | .settling envelopeId _ _ => some envelopeId
  | _ => none

-- The envelopes that the flush works on.
def held (flush : Flush) : List String :=
  flush.sending.toList ++ flush.rest.map fun record => record.envelope.envelopeId

end Flush

-- A flush reads its batch while no other flush works on an envelope of it.
def Separate (settings : Settings) (s : DeliveryState) : Label → Prop
  | .connected _ => ∀ record ∈ s.outbox.pending (max 1 settings.batchSize), ∀ j flush,
      s.flushes j = some flush → record.envelope.envelopeId ∉ flush.held
  | _ => True

-- A flush that nothing has overtaken: the rows are as it read them or are gone,
-- and each attempt that was sent has been counted twice.
structure Consistent (s : DeliveryState) (sends : Sends) (flush : Flush) : Prop where
  current : ∀ record ∈ flush.rest, ∀ row,
    s.outbox.rows.lookup record.envelope.envelopeId = some row → row = record
  counted : ∀ record ∈ flush.rest,
    2 * sends.count record.envelope.envelopeId ≤ record.attempts
  tried : ∀ record ∈ flush.rest, 0 < record.attempts → record.envelope.envelopeId ∈ sends
  sent : ∀ envelopeId, flush.sending = some envelopeId → envelopeId ∈ sends
  nodup : flush.held.Nodup
  issued : ∀ envelopeId ∈ flush.held, envelopeId ∈ s.issued

-- A row that stands as sent has one attempt that is counted once only.
structure Counted (settings : Settings) (s : DeliveryState × Sends) : Prop where
  numbered : Numbered s.1
  capped : ∀ envelopeId, 2 * s.2.count envelopeId < max 1 settings.maxAttempts + 2
  counted : ∀ key row, s.1.outbox.rows.lookup key = some row →
    2 * s.2.count key ≤ row.attempts + if row.sendable then 0 else 1
  tried : ∀ key row, s.1.outbox.rows.lookup key = some row → 0 < row.attempts → key ∈ s.2
  flushes : ∀ i flush, s.1.flushes i = some flush → Consistent s.1 s.2 flush
  separate : ∀ i j flush other envelopeId, i ≠ j → s.1.flushes i = some flush →
    s.1.flushes j = some other → envelopeId ∈ flush.held → envelopeId ∉ other.held
  issued : ∀ key row, s.1.outbox.rows.lookup key = some row → key ∈ s.1.issued
  sentIssued : ∀ envelopeId ∈ s.2, envelopeId ∈ s.1.issued

section Steps

variable {publisher : RuntimeDeliveryPublisher} {settings : Settings} {s t : DeliveryState}
  {sends : Sends} {i : Nat} {flush before : Flush} {next : Option Flush} {label : Label}
  {envelopeId : String} {now : Time}

theorem mem_held_of_rest {record : OutboxRecord} (h : record ∈ flush.rest) :
    record.envelope.envelopeId ∈ flush.held :=
  List.mem_append_right _ (List.mem_map.mpr ⟨record, h, rfl⟩)

theorem Consistent.sublist (h : Consistent s sends before)
    (hrest : flush.rest.Sublist before.rest) (hheld : flush.held.Sublist before.held)
    (hsent : ∀ envelopeId, flush.sending = some envelopeId → envelopeId ∈ sends) :
    Consistent s sends flush where
  current record hr := h.current record (hrest.subset hr)
  counted record hr := h.counted record (hrest.subset hr)
  tried record hr := h.tried record (hrest.subset hr)
  sent := hsent
  nodup := h.nodup.sublist hheld
  issued other ho := h.issued other (hheld.subset ho)

-- A flush takes another place, with envelopes that no other flush works on.
theorem Counted.setFlush (h : Counted settings (s, sends))
    (hnext : ∀ flush, next = some flush → Consistent s sends flush)
    (halone : ∀ flush, next = some flush → ∀ j other, j ≠ i → s.flushes j = some other →
      ∀ envelopeId ∈ flush.held, envelopeId ∉ other.held) :
    Counted settings (s.setFlush i next, sends) := by
  have hcases : ∀ j flush, (s.setFlush i next).flushes j = some flush →
      j = i ∧ next = some flush ∨ j ≠ i ∧ s.flushes j = some flush := by
    intro j flush hj
    by_cases hji : j = i
    · subst hji
      exact .inl ⟨rfl, by simpa using hj⟩
    · exact .inr ⟨hji, by simpa [DeliveryState.setFlush, hji] using hj⟩
  refine ⟨h.numbered.of_rows rfl rfl fun key row hk => ⟨row, hk, rfl⟩, h.capped, h.counted,
    h.tried, fun j flush hj => ?_, fun j k flush other envelopeId hne hj hk hheld => ?_, h.issued,
    h.sentIssued⟩
  · have hflush : Consistent s sends flush := by
      rcases hcases j flush hj with ⟨-, hn⟩ | ⟨-, hold⟩
      · exact hnext flush hn
      · exact h.flushes j flush hold
    exact ⟨hflush.current, hflush.counted, hflush.tried, hflush.sent, hflush.nodup, hflush.issued⟩
  · rcases hcases j flush hj with ⟨rfl, hn⟩ | ⟨hji, hold⟩
    · rcases hcases k other hk with ⟨rfl, -⟩ | ⟨hkj, hother⟩
      · exact absurd rfl hne
      · exact halone flush hn k other hkj hother envelopeId hheld
    · rcases hcases k other hk with ⟨rfl, hn⟩ | ⟨-, hother⟩
      · exact fun ho => halone other hn j flush hji hold envelopeId ho hheld
      · exact h.separate j k flush other envelopeId hne hold hother hheld

-- A flush goes on with a part of what it worked on.
theorem Counted.advance (h : Counted settings (s, sends)) (hi : s.flushes i = some before)
    (hnext : ∀ flush, next = some flush → flush.rest.Sublist before.rest ∧
      flush.held.Sublist before.held ∧
        ∀ envelopeId, flush.sending = some envelopeId → envelopeId ∈ sends) :
    Counted settings (s.setFlush i next, sends) := by
  refine h.setFlush (fun flush hn => ?_) fun flush hn j other hji hj envelopeId hheld => ?_
  · obtain ⟨hrest, hheld, hsent⟩ := hnext flush hn
    exact (h.flushes i before hi).sublist hrest hheld hsent
  · obtain ⟨-, hsub, -⟩ := hnext flush hn
    exact h.separate i j before other envelopeId hji.symm hi hj (hsub.subset hheld)

-- A row is marked that no flush has still to reach.
theorem Counted.markFailed (h : Counted settings (s, sends)) (hsent : envelopeId ∈ sends)
    (hfree : ∀ j flush, s.flushes j = some flush → ∀ record ∈ flush.rest,
      record.envelope.envelopeId ≠ envelopeId) :
    Counted settings ({ s with outbox := s.outbox.markFailed envelopeId now }, sends) := by
  refine ⟨h.numbered.of_rows rfl DeliveryOutbox.setStatus_sequence setStatus_keeps_envelopes,
    h.capped, fun key row hk => ?_, fun key row hk hpos => ?_, fun j flush hj => ?_, h.separate,
    fun key row hk => ?_, h.sentIssued⟩
  · rcases DeliveryOutbox.setStatus_row hk with ⟨rfl, before, hbefore, rfl⟩ | ⟨-, hbefore⟩
    · have hcount := h.counted key before hbefore
      have hone : (if before.sendable then 0 else 1) ≤ 1 := by split <;> omega
      exact Nat.le_add_right_of_le (hcount.trans (Nat.add_le_add_left hone _))
    · exact h.counted key row hbefore
  · rcases DeliveryOutbox.setStatus_row hk with ⟨rfl, -⟩ | ⟨-, hbefore⟩
    · exact hsent
    · exact h.tried key row hbefore hpos
  · have hflush := h.flushes j flush hj
    refine ⟨fun record hr row hk => ?_, hflush.counted, hflush.tried, hflush.sent, hflush.nodup,
      hflush.issued⟩
    rcases DeliveryOutbox.setStatus_row hk with ⟨he, -⟩ | ⟨-, hbefore⟩
    · exact absurd he (hfree j flush hj record hr)
    · exact hflush.current record hr row hbefore
  · rcases DeliveryOutbox.setStatus_row hk with ⟨rfl, before, hbefore, -⟩ | ⟨-, hbefore⟩
    · exact h.issued key before hbefore
    · exact h.issued key row hbefore

-- An envelope with attempts left is handed to the transport.
theorem Counted.markSent {attempts : Nat} (now : Time) (h : Counted settings (s, sends))
    (hattempts : attempts < max 1 settings.maxAttempts)
    (hcount : 2 * sends.count envelopeId ≤ attempts) (hissued : envelopeId ∈ s.issued)
    (hrow : ∀ row, s.outbox.rows.lookup envelopeId = some row → row.attempts = attempts)
    (hfree : ∀ j flush, s.flushes j = some flush → envelopeId ∉ flush.held) :
    Counted settings
      ({ s with outbox := s.outbox.markSent envelopeId now }, envelopeId :: sends) := by
  have hother : ∀ {key}, key ≠ envelopeId → (envelopeId :: sends).count key = sends.count key :=
    fun hne => List.count_cons_of_ne hne.symm
  refine ⟨h.numbered.of_rows rfl DeliveryOutbox.setStatus_sequence setStatus_keeps_envelopes,
    fun key => ?_, fun key row hk => ?_, fun key row hk hpos => ?_, fun j flush hj => ?_,
    h.separate, fun key row hk => ?_, fun key hkey => ?_⟩
  · by_cases hne : key = envelopeId
    · subst hne
      dsimp only
      rw [List.count_cons_self]
      omega
    · dsimp only
      rw [hother hne]
      exact h.capped key
  · rcases DeliveryOutbox.setStatus_row hk with ⟨rfl, before, hbefore, rfl⟩ | ⟨hne, hbefore⟩
    · have hsame := hrow before hbefore
      dsimp only
      rw [List.count_cons_self, OutboxRecord.sendable]
      simp only [reduceCtorEq, or_self, decide_false, Bool.false_eq_true, if_false]
      omega
    · dsimp only
      rw [hother hne]
      exact h.counted key row hbefore
  · rcases DeliveryOutbox.setStatus_row hk with ⟨rfl, -⟩ | ⟨-, hbefore⟩
    · exact List.mem_cons_self
    · exact List.mem_cons_of_mem _ (h.tried key row hbefore hpos)
  · have hflush := h.flushes j flush hj
    have hne : ∀ record ∈ flush.rest, record.envelope.envelopeId ≠ envelopeId :=
      fun record hr he => hfree j flush hj (he ▸ mem_held_of_rest hr)
    refine ⟨fun record hr row hk => ?_, fun record hr => ?_, fun record hr hpos => ?_,
      fun other ho => List.mem_cons_of_mem _ (hflush.sent other ho), hflush.nodup, hflush.issued⟩
    · rcases DeliveryOutbox.setStatus_row hk with ⟨he, -⟩ | ⟨-, hbefore⟩
      · exact absurd he (hne record hr)
      · exact hflush.current record hr row hbefore
    · rw [hother (hne record hr)]
      exact hflush.counted record hr
    · exact List.mem_cons_of_mem _ (hflush.tried record hr hpos)
  · rcases DeliveryOutbox.setStatus_row hk with ⟨rfl, before, hbefore, -⟩ | ⟨-, hbefore⟩
    · exact hissued
    · exact h.issued key row hbefore
  · rcases List.mem_cons.mp hkey with rfl | hkey
    · exact hissued
    · exact h.sentIssued key hkey

-- The loop drops the first record of its batch, and then no flush works on its
-- envelope.
theorem Counted.dropped {record : OutboxRecord} {rest : List OutboxRecord}
    (h : Counted settings (s, sends)) (hi : s.flushes i = some (.draining (record :: rest))) :
    Counted settings (s.setFlush i (some (.draining rest)), sends) ∧
      ∀ j flush, (s.setFlush i (some (.draining rest))).flushes j = some flush →
        record.envelope.envelopeId ∉ flush.held := by
  have hflush := h.flushes i _ hi
  refine ⟨h.advance hi ?_, fun j flush hj => ?_⟩
  · rintro flush ⟨⟩
    exact ⟨List.sublist_cons_self _ _, List.sublist_cons_self _ _, fun _ hs => (by cases hs)⟩
  · by_cases hji : j = i
    · subst hji
      obtain rfl : Flush.draining rest = flush := by simpa using hj
      exact (List.nodup_cons.mp hflush.nodup).1
    · have hold : s.flushes j = some flush := by simpa [DeliveryState.setFlush, hji] using hj
      exact h.separate i j _ flush _ (Ne.symm hji) hi hold List.mem_cons_self

theorem Counted.drained {rest : List OutboxRecord} (h : Counted settings (s, sends))
    (hi : s.flushes i = some (.draining rest)) :
    Counted settings (s.drained settings i now rest, noteSends settings sends s (.drain i now)) := by
  cases rest with
  | nil =>
      have hnote : noteSends settings sends s (.drain i now) = sends := by rw [noteSends, hi]
      rw [hnote]
      exact h.advance hi fun flush hn => (by cases hn)
  | cons record rest =>
      have hflush := h.flushes i _ hi
      obtain ⟨hdropped, hfree⟩ := h.dropped hi
      have hrecord : record ∈ (Flush.draining (record :: rest)).rest := List.mem_cons_self
      have hnote : noteSends settings sends s (.drain i now) =
          if Exhausted settings record then sends else record.envelope.envelopeId :: sends := by
        rw [noteSends, hi]
      rw [hnote]
      unfold DeliveryState.drained
      dsimp only
      by_cases hex : Exhausted settings record
      · have hle : max 1 settings.maxAttempts ≤ record.attempts := hex
        rw [if_pos hle, if_pos hex]
        refine hdropped.markFailed (hflush.tried record hrecord ?_) fun j flush hj other ho he => ?_
        · exact Nat.lt_of_lt_of_le (Nat.lt_of_lt_of_le Nat.zero_lt_one (le_max_left 1 _)) hle
        · exact hfree j flush hj (he ▸ mem_held_of_rest ho)
      · have hlt : ¬ max 1 settings.maxAttempts ≤ record.attempts := hex
        rw [if_neg hlt, if_neg hex]
        have hsent := hdropped.markSent now (Nat.not_le.mp hlt)
          (hflush.counted record hrecord) (hflush.issued _ (mem_held_of_rest hrecord))
          (fun row hrow => by rw [hflush.current record hrecord row hrow]) hfree
        have hdraining := hsent.flushes i (.draining rest) setFlush_flushes
        refine setFlush_setFlush ▸ hsent.setFlush (i := i) ?_ ?_
        · rintro flush ⟨⟩
          refine ⟨hdraining.current, hdraining.counted, hdraining.tried, ?_, hflush.nodup,
            hflush.issued⟩
          rintro other ⟨⟩
          exact List.mem_cons_self
        · rintro flush ⟨⟩ j other hji hj envelopeId hheld
          have hold : s.flushes j = some other := by simpa [DeliveryState.setFlush, hji] using hj
          exact h.separate i j _ other envelopeId hji.symm hi hold hheld

theorem Counted.settled {acked : Bool} {rest : List OutboxRecord}
    (h : Counted settings (s, sends))
    (hi : s.flushes i = some (.settling envelopeId acked rest)) :
    Counted settings (s.settled i envelopeId acked rest now, sends) := by
  have hflush := h.flushes i _ hi
  have hdropped : Counted settings (s.setFlush i (some (.draining rest)), sends) := by
    refine h.advance hi ?_
    rintro flush ⟨⟩
    exact ⟨List.Sublist.refl _, List.sublist_cons_self _ _, fun _ hs => (by cases hs)⟩
  cases acked with
  | true =>
      refine ⟨hdropped.numbered.of_rows rfl rfl fun key row hk =>
          ⟨row, (DeliveryOutbox.markAcked_row hk).2, rfl⟩, hdropped.capped,
        fun key row hk => hdropped.counted key row (DeliveryOutbox.markAcked_row hk).2,
        fun key row hk => hdropped.tried key row (DeliveryOutbox.markAcked_row hk).2,
        fun j flush hj => ?_, hdropped.separate,
        fun key row hk => hdropped.issued key row (DeliveryOutbox.markAcked_row hk).2,
        hdropped.sentIssued⟩
      have hother := hdropped.flushes j flush hj
      exact ⟨fun record hr row hk => hother.current record hr row (DeliveryOutbox.markAcked_row hk).2,
        hother.counted, hother.tried, hother.sent, hother.nodup, hother.issued⟩
  | false =>
      refine hdropped.markFailed (hflush.sent envelopeId rfl) fun j flush hj record hr he => ?_
      subst he
      by_cases hji : j = i
      · subst hji
        obtain rfl : Flush.draining rest = flush := by simpa using hj
        have hheld : record.envelope.envelopeId ∈ (Flush.draining rest).held := mem_held_of_rest hr
        exact (List.nodup_cons.mp hflush.nodup).1 hheld
      · have hold : s.flushes j = some flush := by simpa [DeliveryState.setFlush, hji] using hj
        exact h.separate i j _ flush _ (Ne.symm hji) hi hold List.mem_cons_self
          (mem_held_of_rest hr)

-- A batch is read: its rows stand as they are in the outbox.
theorem Counted.connected (h : Counted settings (s, sends))
    (hseparate : Separate settings s (.connected i)) :
    Counted settings (s.setFlush i
      (some (.draining (s.outbox.pending (max 1 settings.batchSize)))), sends) := by
  have hcurrent : ∀ record ∈ s.outbox.pending (max 1 settings.batchSize),
      s.outbox.rows.lookup record.envelope.envelopeId = some record :=
    fun record hr => h.numbered.ordered.batch_current hr
  refine h.setFlush ?_ ?_
  · rintro flush ⟨⟩
    refine ⟨fun record hr row hk => ?_, fun record hr => ?_, fun record hr hpos => ?_,
      fun _ hs => (by cases hs), h.numbered.ordered.batch_nodup _, fun other ho => ?_⟩
    · exact (Option.some.inj ((hcurrent record hr).symm.trans hk)).symm
    · obtain ⟨-, hs⟩ := DeliveryOutbox.mem_sendable.mp
        (DeliveryOutbox.mem_sendable_of_mem_pending hr)
      have hcount := h.counted _ record (hcurrent record hr)
      rwa [hs, if_pos rfl, Nat.add_zero] at hcount
    · exact h.tried _ record (hcurrent record hr) hpos
    · obtain ⟨record, hr, rfl⟩ := List.mem_map.mp ho
      exact h.issued _ record (hcurrent record hr)
  · rintro flush ⟨⟩ j other - hj envelopeId hheld
    obtain ⟨record, hr, rfl⟩ := List.mem_map.mp hheld
    exact hseparate record hr j other hj

theorem Counted.appended {envelope : DeliveryEnvelope} (h : Counted settings (s, sends))
    (hi : s.publications i = some envelope.sequence) (hfresh : envelope.envelopeId ∉ s.issued) :
    Counted settings (s.appended settings i envelope now, sends) := by
  unfold DeliveryState.appended
  refine ⟨h.numbered.appended hi, h.capped, fun key row hk => ?_, fun key row hk hpos => ?_,
    fun j flush hj => ?_, h.separate, fun key row hk => ?_,
    fun key hkey => List.mem_cons_of_mem _ (h.sentIssued key hkey)⟩
  · rcases DeliveryOutbox.append_row hk with ⟨rfl, rfl⟩ | hk
    · have hnone : sends.count envelope.envelopeId = 0 :=
        List.count_eq_zero.mpr fun hm => hfresh (h.sentIssued _ hm)
      simp [hnone]
    · exact h.counted key row hk
  · rcases DeliveryOutbox.append_row hk with ⟨rfl, rfl⟩ | hk
    · exact absurd hpos (Nat.lt_irrefl 0)
    · exact h.tried key row hk hpos
  · have hflush := h.flushes j flush hj
    refine ⟨fun record hr row hk => ?_, hflush.counted, hflush.tried, hflush.sent, hflush.nodup,
      fun other ho => List.mem_cons_of_mem _ (hflush.issued other ho)⟩
    rcases DeliveryOutbox.append_row hk with ⟨he, -⟩ | hk
    · exact absurd (he ▸ hflush.issued _ (mem_held_of_rest hr)) hfresh
    · exact hflush.current record hr row hk
  · rcases DeliveryOutbox.append_row hk with ⟨rfl, -⟩ | hk
    · exact List.mem_cons_self
    · exact List.mem_cons_of_mem _ (h.issued key row hk)

theorem Counted.step (h : Counted settings (s, sends)) (hseparate : Separate settings s label)
    (hs : s.step publisher settings label = some t) :
    Counted settings (t, noteSends settings sends s label) := by
  cases label with
  | takeSequence i =>
      have hnumbered := h.numbered.step hs
      dsimp only [DeliveryState.step] at hs
      split at hs
      · cases hs
      · obtain rfl := Option.some.inj hs
        refine ⟨hnumbered, h.capped, h.counted, h.tried, fun j flush hj => ?_, h.separate,
          h.issued, h.sentIssued⟩
        have hflush := h.flushes j flush hj
        exact ⟨hflush.current, hflush.counted, hflush.tried, hflush.sent, hflush.nodup,
          hflush.issued⟩
  | append i draft now =>
      dsimp only [DeliveryState.step] at hs
      split at hs
      · cases hs
      next sequence hi =>
        split at hs
        · cases hs
        next hfresh =>
          obtain rfl := Option.some.inj hs
          exact h.appended hi hfresh
  | flushOnce i =>
      dsimp only [DeliveryState.step] at hs
      split at hs
      · cases hs
      · obtain rfl := Option.some.inj hs
        refine h.setFlush ?_ ?_
        · rintro flush ⟨⟩
          exact ⟨fun _ hr => (by cases hr), fun _ hr => (by cases hr), fun _ hr => (by cases hr),
            fun _ hr => (by cases hr), List.nodup_nil, fun _ hr => (by cases hr)⟩
        · rintro flush ⟨⟩ j other - - envelopeId hheld
          cases hheld
  | connected i =>
      dsimp only [DeliveryState.step] at hs
      split at hs
      · obtain rfl := Option.some.inj hs
        exact h.connected hseparate
      · cases hs
  | drain i now =>
      dsimp only [DeliveryState.step] at hs
      split at hs
      next hi =>
        obtain rfl := Option.some.inj hs
        exact h.drained hi
      · cases hs
  | published i outcome =>
      dsimp only [DeliveryState.step] at hs
      split at hs
      next envelopeId rest hi =>
        obtain rfl := Option.some.inj hs
        refine h.advance hi ?_
        rintro flush ⟨⟩
        cases outcome with
        | answered status =>
            exact ⟨List.Sublist.refl _, List.Sublist.refl _, (h.flushes i _ hi).sent⟩
        | raised => exact ⟨List.Sublist.refl _, List.Sublist.refl _, (h.flushes i _ hi).sent⟩
      · cases hs
  | closed i =>
      dsimp only [DeliveryState.step] at hs
      split at hs
      next hi =>
        obtain rfl := Option.some.inj hs
        refine h.advance hi ?_
        rintro flush ⟨⟩
        exact ⟨List.Sublist.refl _, List.Sublist.refl _, (h.flushes i _ hi).sent⟩
      · cases hs
  | settle i now =>
      dsimp only [DeliveryState.step] at hs
      split at hs
      next hi =>
        obtain rfl := Option.some.inj hs
        exact h.settled hi
      · cases hs
  | unreachable i | cancel i =>
      dsimp only [DeliveryState.step] at hs
      split at hs
      all_goals first
        | cases hs
          next hi => exact h.advance hi fun flush hn => (by cases hn)
        | cases hs
  | restart =>
      have hnumbered := h.numbered.step hs
      obtain rfl := Option.some.inj hs
      exact ⟨hnumbered, h.capped, h.counted, h.tried, fun _ _ hj => (by cases hj),
        fun _ _ _ _ _ _ hj => (by cases hj), h.issued, h.sentIssued⟩

-- The worker gives up at the first attempt that is left out, which it has sent
-- half as often as its attempts say.
theorem Counted.gives_up_iff (h : Counted settings (s, sends)) :
    (∀ envelopeId ∈ givenUp settings s label,
        max 1 settings.maxAttempts ≤ sends.count envelopeId) ↔
      ∀ envelopeId ∈ givenUp settings s label, settings.maxAttempts ≤ 1 := by
  refine forall₂_congr fun envelopeId hgiven => ?_
  have hcap : 2 * sends.count envelopeId < max 1 settings.maxAttempts + 2 := h.capped envelopeId
  have hsent : 0 < sends.count envelopeId := by
    unfold givenUp at hgiven
    split at hgiven
    next i now =>
      split at hgiven
      next record rest hi =>
        split at hgiven
        next hex =>
          obtain rfl := Option.some.inj hgiven
          refine List.count_pos_iff.mpr ((h.flushes i _ hi).tried record List.mem_cons_self ?_)
          exact Nat.lt_of_lt_of_le Nat.zero_lt_one ((le_max_left 1 _).trans hex)
        · cases hgiven
      · cases hgiven
    · cases hgiven
  omega

end Steps

section Runs

variable {publisher : RuntimeDeliveryPublisher} {settings : Settings} {labels : List Label}
  {s : DeliveryState} {sends : Sends}

-- The outbox machine with what was sent beside it.
abbrev sendMachine (publisher : RuntimeDeliveryPublisher) (settings : Settings) :
    DeliveryState × Sends → Label → Option (DeliveryState × Sends) :=
  watched (fun s label => s.step publisher settings label) (noteSends settings)

theorem counted_initial : Counted settings ({}, []) where
  numbered := numbered_initial
  capped _ := Nat.succ_pos _
  counted _ _ h := by cases h
  tried _ _ h := by cases h
  flushes _ _ h := by cases h
  separate _ _ _ _ _ _ h := by cases h
  issued _ _ h := by cases h
  sentIssued _ h := by cases h

theorem numbered_of_run
    (hr : run (sendMachine publisher settings) ({}, []) labels = some (s, sends)) :
    Numbered s := by
  have hstep : ∀ (s : DeliveryState × Sends) label t, Numbered s.1 →
      sendMachine publisher settings s label = some t → Numbered t.1 :=
    fun s label t h hs => h.step (watched_eq_some hs).1
  exact @run_keeps _ _ _ _ _ _ (fun s : DeliveryState × Sends => Numbered s.1) hstep
    numbered_initial hr

theorem counted_step (s : DeliveryState × Sends) (label : Label) (t : DeliveryState × Sends)
    (h : Counted settings s) (hseparate : Separate settings s.1 label)
    (hs : sendMachine publisher settings s label = some t) : Counted settings t := by
  obtain ⟨hstep, hsends⟩ := watched_eq_some hs
  have hnext := h.step hseparate hstep
  rw [← hsends] at hnext
  exact hnext

-- Calls that are accepted send every envelope with attempts left exactly when
-- none is blocked. While no two flushes work on one envelope, none is sent too
-- often, and one is given up early unless one attempt is all there is.
theorem delivery_progress_iff {calls : Nat → FlushCall}
    (hr : run (sendMachine publisher settings) ({}, []) labels = some (s, sends))
    (haccepts : ∀ n, (calls n).Accepts) :
    ((∃ n, live settings (s.outbox.afterCalls settings calls n) = []) ↔
        Unblocked settings s.outbox) ∧
      (Along (sendMachine publisher settings) (fun s label => Separate settings s.1 label)
          ({}, []) labels →
        (∀ envelopeId, sends.count envelopeId ≤ max 1 settings.maxAttempts) ∧
          (Along (sendMachine publisher settings) (fun s label =>
              ∀ envelopeId ∈ givenUp settings s.1 label,
                max 1 settings.maxAttempts ≤ s.2.count envelopeId) ({}, []) labels ↔
            Along (sendMachine publisher settings) (fun s label =>
              ∀ envelopeId ∈ givenUp settings s.1 label, settings.maxAttempts ≤ 1)
                ({}, []) labels)) := by
  refine ⟨(numbered_of_run hr).ordered.drained_iff haccepts, fun hseparate => ⟨?_, ?_⟩⟩
  · intro envelopeId
    have hcounted := run_invariant counted_step counted_initial hseparate hr
    have hcap : 2 * sends.count envelopeId < max 1 settings.maxAttempts + 2 :=
      hcounted.capped envelopeId
    omega
  · exact along_iff_within (Counted settings) (fun s label h _ => h.gives_up_iff) counted_step
      counted_initial hseparate

def accepting : FlushCall where
  flush := 0
  answers _ := .answered .acked
  clock _ := 0

theorem accepting_accepts : accepting.Accepts := fun _ => rfl

-- A refused envelope is sent by the next calls.
theorem refused_delivered : ∃ s sends,
    run (sendMachine samplePublisher {}) ({}, []) refused = some (s, sends) ∧
      (∃ n, live {} (s.outbox.afterCalls {} (fun _ => accepting) n) = []) ∧
        ∀ envelopeId, sends.count envelopeId ≤ 8 := by
  have hrun : (run (sendMachine samplePublisher {}) ({}, []) refused).map
      (fun after => decide (Unblocked {} after.1.outbox)) = some true := by decide +kernel
  obtain ⟨⟨s, sends⟩, hs, hfree⟩ := Option.map_eq_some_iff.mp hrun
  have halong : Along (sendMachine samplePublisher {})
      (fun s label => Separate {} s.1 label) ({}, []) refused := by
    refine Along.cons trivial rfl (Along.cons trivial rfl (Along.cons trivial rfl
      (Along.cons (fun record _ j flush hj hheld => ?_) rfl (Along.cons trivial rfl
        (Along.cons trivial rfl (Along.cons trivial rfl trivial))))))
    by_cases hj0 : j = 0
    · subst hj0
      obtain rfl : Flush.connecting = flush := Option.some.inj hj
      cases hheld
    · simp [DeliveryState.setFlush, hj0, DeliveryState.appended] at hj
  obtain ⟨hdrained, hcounts⟩ := delivery_progress_iff hs fun _ => accepting_accepts
  exact ⟨s, sends, hs, hdrained.mpr (of_decide_eq_true hfree), (hcounts halong).1⟩

-- One envelope fills the batch after it is given up, and the next is never read.
def givenUpFirst : List Label :=
  [.takeSequence 0, .append 0 sampleDraft 0, .flushOnce 0, .connected 0, .drain 0 1,
    .published 0 (.answered .failed), .settle 0 2, .drain 0 3, .takeSequence 0,
    .append 0 { sampleDraft with envelopeId := "next" } 4, .flushOnce 0, .connected 0,
    .drain 0 5, .drain 0 6]

-- Two calls read the envelope before either sends it.
def sentByBoth : List Label :=
  [.takeSequence 0, .append 0 sampleDraft 0, .flushOnce 0, .connected 0, .flushOnce 1,
    .connected 1, .drain 0 1, .drain 1 2]

theorem delivery_starves :
    (¬ ∀ (publisher : RuntimeDeliveryPublisher) (settings : Settings) (labels : List Label)
      (s : DeliveryState) (sends : Sends) (calls : Nat → FlushCall),
      run (sendMachine publisher settings) ({}, []) labels = some (s, sends) →
        (∀ n, (calls n).Accepts) →
          ∃ n, live settings (s.outbox.afterCalls settings calls n) = []) ∧
    (¬ ∀ (publisher : RuntimeDeliveryPublisher) (settings : Settings) (labels : List Label)
      (s : DeliveryState) (sends : Sends) (envelopeId : String),
      run (sendMachine publisher settings) ({}, []) labels = some (s, sends) →
        sends.count envelopeId ≤ max 1 settings.maxAttempts) ∧
    ¬ ∀ (publisher : RuntimeDeliveryPublisher) (settings : Settings) (labels : List Label),
      Along (sendMachine publisher settings) (fun s label =>
        ∀ envelopeId ∈ givenUp settings s.1 label,
          max 1 settings.maxAttempts ≤ s.2.count envelopeId) ({}, []) labels := by
  refine ⟨fun h => ?_, fun h => ?_, fun h => ?_⟩
  · have hrun : (run (sendMachine samplePublisher { batchSize := 1, maxAttempts := 2 }) ({}, [])
        givenUpFirst).map (fun after => decide (Unblocked { batchSize := 1, maxAttempts := 2 }
          after.1.outbox)) = some false := by decide +kernel
    obtain ⟨⟨s, sends⟩, hs, hblocked⟩ := Option.map_eq_some_iff.mp hrun
    have hdrained := h _ _ _ s sends (fun _ => accepting) hs fun _ => accepting_accepts
    have hfree := ((numbered_of_run hs).ordered.drained_iff fun _ => accepting_accepts).mp hdrained
    exact of_decide_eq_false hblocked hfree
  · have hrun : (run (sendMachine samplePublisher { maxAttempts := 1 }) ({}, [])
        sentByBoth).map (fun after => after.2) = some ["envelope", "envelope"] := by decide +kernel
    obtain ⟨⟨s, sends⟩, hs, rfl⟩ := Option.map_eq_some_iff.mp hrun
    exact absurd (h _ _ _ s _ "envelope" hs) (by decide)
  · have hnot : ¬ Along (sendMachine samplePublisher { batchSize := 1, maxAttempts := 2 })
        (fun s label => ∀ envelopeId ∈ givenUp { batchSize := 1, maxAttempts := 2 } s.1 label,
          max 1 2 ≤ s.2.count envelopeId) ({}, []) givenUpFirst := by decide +kernel
    exact hnot (h _ _ _)

end Runs

end JoyMesh.Delivery
