import JoyMesh.Delivery.Worker

namespace JoyMesh.Delivery

open Library

-- The envelopes that were appended and have since then neither been
-- acknowledged nor been dropped by a compaction.
abbrev Owed := List String

-- What the publication of an envelope adds and the compaction behind it drops.
def owedAfterAppend (settings : Settings) (s : DeliveryState) (envelope : DeliveryEnvelope)
    (now : Time) (owed : Owed) : Owed :=
  match s.outbox.duplicate envelope with
  | some _ => owed
  | none =>
      if envelope.envelopeId ∈ s.outbox.rows then owed
      else
        (envelope.envelopeId :: owed).filter fun envelopeId =>
          envelopeId ∉ ((s.outbox.inserted envelope now).compact settings.maxEntries).2

def note (publisher : RuntimeDeliveryPublisher) (settings : Settings) (owed : Owed)
    (s : DeliveryState) : Label → Owed
  | .append i draft now =>
      match s.publications i with
      | none => owed
      | some sequence =>
          owedAfterAppend settings s (publisher.envelope draft sequence now) now owed
  | .published i (.answered .acked) =>
      match s.flushes i with
      | some (.publishing envelopeId _) => owed.filter fun other => other ≠ envelopeId
      | _ => owed
  | _ => owed

-- Every envelope that is owed can be drained again.
def Kept (outbox : DeliveryOutbox) (owed : Owed) : Prop :=
  ∀ envelopeId ∈ owed, ∃ bound, ∀ limit, bound ≤ limit →
    envelopeId ∈ (outbox.pending limit).map fun record => record.envelope.envelopeId

namespace Flush

-- The envelope was marked sent and the acknowledgement has not come.
def InFlight (envelopeId : String) : Flush → Prop
  | .publishing other _ => other = envelopeId
  | .closing other _ => other = envelopeId
  | .settling other acked _ => other = envelopeId ∧ acked = false
  | _ => False

-- The acknowledgement has come and the row is about to be deleted.
def Acknowledged (envelopeId : String) : Flush → Prop
  | .settling other acked _ => other = envelopeId ∧ acked = true
  | _ => False

def Batch (envelopeId : String) (rest : List OutboxRecord) : Prop :=
  ∃ record ∈ rest, record.envelope.envelopeId = envelopeId

-- The flush will act on the envelope.
def Names (envelopeId : String) : Flush → Prop
  | .connecting => False
  | .draining rest => Batch envelopeId rest
  | .publishing other rest => other = envelopeId ∨ Batch envelopeId rest
  | .closing other rest => other = envelopeId ∨ Batch envelopeId rest
  | .settling other _ rest => other = envelopeId ∨ Batch envelopeId rest

end Flush

def MarkedSent (s : DeliveryState) (envelopeId : String) : Prop :=
  ∃ row, s.outbox.rows.lookup envelopeId = some row ∧ row.status = .sent

-- No cut leaves an envelope behind as sent: a cancellation does not hit the only
-- flush that has it in flight, a restart hits none.
def Uncut (s : DeliveryState × Owed) : Label → Prop
  | .cancel i => ∀ flush envelopeId, s.1.flushes i = some flush → flush.InFlight envelopeId →
      envelopeId ∈ s.2 → MarkedSent s.1 envelopeId →
        ∃ j other, j ≠ i ∧ s.1.flushes j = some other ∧ other.InFlight envelopeId
  | .restart => ∀ i flush envelopeId, s.1.flushes i = some flush → flush.InFlight envelopeId →
      envelopeId ∈ s.2 → ¬ MarkedSent s.1 envelopeId
  | _ => True

-- The rows of the outbox against what is owed and what the flushes have in flight.
structure Tracked (s : DeliveryState × Owed) : Prop where
  keyed : ∀ key row, s.1.outbox.rows.lookup key = some row → row.envelope.envelopeId = key
  stored : ∀ envelopeId ∈ s.2, ∃ row, s.1.outbox.rows.lookup envelopeId = some row
  flying : ∀ envelopeId ∈ s.2, ∀ row, s.1.outbox.rows.lookup envelopeId = some row →
    row.sendable = true ∨ row.status = .sent ∧
      ∃ i flush, s.1.flushes i = some flush ∧ flush.InFlight envelopeId
  issued : ∀ key row, s.1.outbox.rows.lookup key = some row → key ∈ s.1.issued
  owedIssued : ∀ envelopeId ∈ s.2, envelopeId ∈ s.1.issued
  named : ∀ i flush envelopeId, s.1.flushes i = some flush → flush.Names envelopeId →
    envelopeId ∈ s.1.issued
  acknowledged : ∀ i flush envelopeId, s.1.flushes i = some flush →
    flush.Acknowledged envelopeId → envelopeId ∉ s.2

section Steps

variable {publisher : RuntimeDeliveryPublisher} {settings : Settings} {s t : DeliveryState}
  {owed less : Owed} {i : Nat} {next : Option Flush} {envelopeId : String} {now : Time}

theorem Tracked.mono (h : Tracked (s, owed)) (hsub : less ⊆ owed) : Tracked (s, less) where
  keyed := h.keyed
  stored other ho := h.stored other (hsub ho)
  flying other ho := h.flying other (hsub ho)
  issued := h.issued
  owedIssued other ho := h.owedIssued other (hsub ho)
  named := h.named
  acknowledged j flush other hj ha ho := h.acknowledged j flush other hj ha (hsub ho)

-- A flush moves on: what it had in flight is no longer marked sent or is still
-- in flight.
theorem Tracked.setFlush (h : Tracked (s, owed))
    (hnames : ∀ flush other, next = some flush → flush.Names other → other ∈ s.issued)
    (hacked : ∀ flush other, next = some flush → flush.Acknowledged other → other ∉ owed)
    (hflying : ∀ flush other, s.flushes i = some flush → flush.InFlight other → other ∈ owed →
      MarkedSent s other →
        ∃ j flush, (s.setFlush i next).flushes j = some flush ∧ flush.InFlight other) :
    Tracked (s.setFlush i next, owed) where
  keyed := h.keyed
  stored := h.stored
  flying other ho row hrow := by
    rcases h.flying other ho row hrow with hs | ⟨hs, j, flush, hj, hf⟩
    · exact .inl hs
    · refine .inr ⟨hs, ?_⟩
      by_cases hji : j = i
      · subst hji
        exact hflying flush other hj hf ho ⟨row, hrow, hs⟩
      · exact ⟨j, flush, by simpa [DeliveryState.setFlush, hji] using hj, hf⟩
  issued := h.issued
  owedIssued := h.owedIssued
  named j flush other hj hn := by
    by_cases hji : j = i
    · subst hji
      exact hnames flush other (by simpa [DeliveryState.setFlush] using hj) hn
    · exact h.named j flush other (by simpa [DeliveryState.setFlush, hji] using hj) hn
  acknowledged j flush other hj ha := by
    by_cases hji : j = i
    · subst hji
      exact hacked flush other (by simpa [DeliveryState.setFlush] using hj) ha
    · exact h.acknowledged j flush other (by simpa [DeliveryState.setFlush, hji] using hj) ha

-- A row is marked: as failed, or as sent while a flush has it in flight.
theorem Tracked.setStatus {status : DeliveryAckStatus} (h : Tracked (s, owed))
    (hstatus : status = .failed ∨ status = .sent ∧
      ∃ i flush, s.flushes i = some flush ∧ flush.InFlight envelopeId) :
    Tracked ({ s with outbox := s.outbox.setStatus envelopeId status now }, owed) := by
  cases hrow : s.outbox.rows.lookup envelopeId with
  | none =>
      rw [DeliveryOutbox.lookup_setStatus_of_none hrow]
      exact h
  | some row =>
      have hself : (s.outbox.setStatus envelopeId status now).rows.lookup envelopeId = _ :=
        DeliveryOutbox.lookup_setStatus_self hrow
      have hother : ∀ key, key ≠ envelopeId →
          (s.outbox.setStatus envelopeId status now).rows.lookup key = s.outbox.rows.lookup key :=
        fun key hne => DeliveryOutbox.lookup_setStatus_of_ne hne
      refine ⟨fun key other hk => ?_, fun other ho => ?_, fun other ho stored hk => ?_,
        fun key other hk => ?_, h.owedIssued, h.named, h.acknowledged⟩
      · by_cases hne : key = envelopeId
        · subst hne
          obtain rfl := Option.some.inj (hself.symm.trans hk)
          exact h.keyed _ row hrow
        · exact h.keyed key other ((hother key hne).symm.trans hk)
      · by_cases hne : other = envelopeId
        · subst hne
          exact ⟨_, hself⟩
        · obtain ⟨stored, hs⟩ := h.stored other ho
          exact ⟨stored, (hother other hne).trans hs⟩
      · by_cases hne : other = envelopeId
        · subst hne
          obtain rfl := Option.some.inj (hself.symm.trans hk)
          rcases hstatus with rfl | ⟨rfl, hf⟩
          · exact .inl rfl
          · exact .inr ⟨rfl, hf⟩
        · exact h.flying other ho stored ((hother other hne).symm.trans hk)
      · by_cases hne : key = envelopeId
        · subst hne
          exact h.issued _ row hrow
        · exact h.issued key other ((hother key hne).symm.trans hk)

theorem not_markedSent_markFailed :
    ¬ MarkedSent { s with outbox := s.outbox.markFailed envelopeId now } envelopeId := by
  rintro ⟨row, hrow, hsent⟩
  cases hlookup : s.outbox.rows.lookup envelopeId with
  | none =>
      rw [DeliveryOutbox.markFailed, DeliveryOutbox.lookup_setStatus_of_none hlookup, hlookup] at hrow
      cases hrow
  | some stored =>
      rw [DeliveryOutbox.markFailed, DeliveryOutbox.lookup_setStatus_self hlookup] at hrow
      obtain rfl := Option.some.inj hrow
      cases hsent

theorem Tracked.markAcked (h : Tracked (s, owed)) (hacked : envelopeId ∉ owed) :
    Tracked ({ s with outbox := s.outbox.markAcked envelopeId }, owed) := by
  have hother : ∀ key row, (s.outbox.markAcked envelopeId).rows.lookup key = some row →
      s.outbox.rows.lookup key = some row := by
    intro key row hk
    by_cases hne : key = envelopeId
    · subst hne
      simp [DeliveryOutbox.markAcked] at hk
    · rwa [DeliveryOutbox.markAcked, AList.lookup_erase_ne hne] at hk
  refine ⟨fun key row hk => h.keyed key row (hother key row hk), fun other ho => ?_,
    fun other ho row hk => h.flying other ho row (hother other row hk),
    fun key row hk => h.issued key row (hother key row hk), h.owedIssued, h.named, h.acknowledged⟩
  have hne : other ≠ envelopeId := fun he => hacked (he ▸ ho)
  obtain ⟨row, hrow⟩ := h.stored other ho
  exact ⟨row, (AList.lookup_erase_ne hne).trans hrow⟩

-- The rows after an append are the old ones and the new one, less those that
-- the compaction has dropped.
theorem Tracked.append {envelope : DeliveryEnvelope} (h : Tracked (s, owed))
    (hfresh : envelope.envelopeId ∉ s.issued) :
    Tracked (s.appended settings i envelope now,
      owedAfterAppend settings s envelope now owed) := by
  have hold : Tracked ({ s.appended settings i envelope now with outbox := s.outbox }, owed) :=
    ⟨h.keyed, h.stored, h.flying, fun key row hk => List.mem_cons_of_mem _ (h.issued key row hk),
      fun other ho => List.mem_cons_of_mem _ (h.owedIssued other ho),
      fun j flush other hj hn => List.mem_cons_of_mem _ (h.named j flush other hj hn),
      h.acknowledged⟩
  unfold owedAfterAppend
  cases hd : s.outbox.duplicate envelope with
  | some row =>
      have hsame : (s.outbox.append settings.maxEntries envelope now).2 = s.outbox := by
        rw [DeliveryOutbox.append, hd]
      unfold DeliveryState.appended
      rw [hsame]
      exact hold
  | none =>
      have hmem : envelope.envelopeId ∉ s.outbox.rows := by
        intro hm
        obtain ⟨row, hrow⟩ := Option.isSome_iff_exists.mp (AList.lookup_isSome.mpr hm)
        exact hfresh (h.issued _ row hrow)
      have hoff : ∀ flush j, s.flushes j = some flush → ¬ flush.Acknowledged envelope.envelopeId := by
        intro flush j hj ha
        refine hfresh (h.named j flush _ hj ?_)
        cases flush with
        | settling other acked rest => exact .inl ha.1
        | _ => exact ha.elim
      set kept := (s.outbox.inserted envelope now).compact settings.maxEntries with hkept
      have hrows : (s.outbox.append settings.maxEntries envelope now).2 = kept.1 := by
        rw [DeliveryOutbox.append, hd]
        simp only [hmem, if_false]
        split <;> rfl
      have hlookup : ∀ key, kept.1.rows.lookup key =
          if key ∈ kept.2 then none else (s.outbox.inserted envelope now).rows.lookup key :=
        fun key => DeliveryOutbox.lookup_compact key
      -- a row that is kept is the new one or an old one
      have hrow : ∀ key row, kept.1.rows.lookup key = some row →
          key = envelope.envelopeId ∧ row = DeliveryOutbox.stored envelope now ∨
            s.outbox.rows.lookup key = some row := by
        intro key row hk
        rw [hlookup] at hk
        split at hk
        · cases hk
        · by_cases hne : key = envelope.envelopeId
          · subst hne
            rw [DeliveryOutbox.inserted, AList.lookup_insert] at hk
            exact .inl ⟨rfl, (Option.some.inj hk).symm⟩
          · rw [DeliveryOutbox.inserted, AList.lookup_insert_ne hne] at hk
            exact .inr hk
      have howed : ∀ other ∈ (envelope.envelopeId :: owed).filter fun key => key ∉ kept.2,
          other = envelope.envelopeId ∨ other ∈ owed :=
        fun other ho => List.mem_cons.mp (List.mem_of_mem_filter ho)
      unfold DeliveryState.appended
      rw [hrows]
      simp only [hmem, if_false]
      refine ⟨fun key row hk => ?_, fun other ho => ?_, fun other ho row hk => ?_,
        fun key row hk => ?_, fun other ho => ?_, hold.named, fun j flush other hj ha ho => ?_⟩
      · rcases hrow key row hk with ⟨rfl, rfl⟩ | hk
        · rfl
        · exact h.keyed key row hk
      · obtain ⟨ho, hd⟩ := List.mem_filter.mp ho
        have hnot : other ∉ kept.2 := by simpa using hd
        rcases List.mem_cons.mp ho with rfl | ho
        · exact ⟨_, by rw [hlookup, if_neg hnot]; exact AList.lookup_insert _⟩
        · obtain ⟨row, hr⟩ := h.stored other ho
          have hne : other ≠ envelope.envelopeId := fun he => hfresh (he ▸ h.owedIssued other ho)
          exact ⟨row, by rw [hlookup, if_neg hnot, DeliveryOutbox.inserted,
            AList.lookup_insert_ne hne, hr]⟩
      · rcases hrow other row hk with ⟨rfl, rfl⟩ | hk
        · exact .inl rfl
        · rcases howed other ho with rfl | ho
          · exact absurd (h.issued _ row hk) hfresh
          · exact h.flying other ho row hk
      · rcases hrow key row hk with ⟨rfl, rfl⟩ | hk
        · exact List.mem_cons_self
        · exact List.mem_cons_of_mem _ (h.issued key row hk)
      · rcases howed other ho with rfl | ho
        · exact List.mem_cons_self
        · exact List.mem_cons_of_mem _ (h.owedIssued other ho)
      · rcases howed other ho with rfl | ho
        · exact hoff flush j hj ha
        · exact h.acknowledged j flush other hj ha ho

theorem Tracked.drained {rest : List OutboxRecord} (h : Tracked (s, owed))
    (hi : s.flushes i = some (.draining rest)) :
    Tracked (s.drained settings i now rest, owed) := by
  -- a flush that drains has nothing in flight
  have hoff : ∀ flush other, s.flushes i = some flush → ¬ flush.InFlight other := by
    intro flush other hf ha
    obtain rfl := Option.some.inj (hi.symm.trans hf)
    exact ha
  have hin : ∀ other, Flush.Batch other rest → other ∈ s.issued :=
    fun other ho => h.named i _ other hi ho
  cases rest with
  | nil =>
      exact h.setFlush (fun flush other hn => (by cases hn)) (fun flush other hn => (by cases hn))
        (fun flush other hf ha => absurd ha (hoff flush other hf))
  | cons record rest =>
      have hhead : record.envelope.envelopeId ∈ s.issued := hin _ ⟨record, List.mem_cons_self, rfl⟩
      have hrest : ∀ other, Flush.Batch other rest → other ∈ s.issued := by
        rintro other ⟨later, hm, hl⟩
        exact hin other ⟨later, List.mem_cons_of_mem _ hm, hl⟩
      unfold DeliveryState.drained
      dsimp only
      split
      · have hmarked : Tracked ({ s with
            outbox := s.outbox.markFailed record.envelope.envelopeId now }, owed) :=
          h.setStatus (.inl rfl)
        refine hmarked.setFlush ?_ ?_ fun flush other hf ha => absurd ha (hoff flush other hf)
        · rintro flush other ⟨⟩ hn
          exact hrest other hn
        · rintro flush other ⟨⟩ ha
          exact ha.elim
      · have hmoved : Tracked (s.setFlush i
            (some (.publishing record.envelope.envelopeId rest)), owed) := by
          refine h.setFlush ?_ ?_ fun flush other hf ha => absurd ha (hoff flush other hf)
          · rintro flush other ⟨⟩ hn
            rcases hn with rfl | hn
            · exact hhead
            · exact hrest other hn
          · rintro flush other ⟨⟩ ha
            exact ha.elim
        exact hmoved.setStatus (.inr ⟨rfl, i, _, Function.update_self _ _ _, rfl⟩)

theorem Tracked.settled {rest : List OutboxRecord} {acked : Bool} (h : Tracked (s, owed))
    (hi : s.flushes i = some (.settling envelopeId acked rest)) :
    Tracked (s.settled i envelopeId acked rest now, owed) := by
  have hrest : ∀ other, Flush.Batch other rest → other ∈ s.issued :=
    fun other ho => h.named i _ other hi (.inr ho)
  cases acked with
  | true =>
      have hacked := h.markAcked (h.acknowledged i _ envelopeId hi ⟨rfl, rfl⟩)
      refine hacked.setFlush ?_ ?_ ?_
      · rintro flush other ⟨⟩ hn
        exact hrest other hn
      · rintro flush other ⟨⟩ ha
        exact ha.elim
      · intro flush other hf ha
        obtain rfl := Option.some.inj (hi.symm.trans hf)
        exact absurd ha.2 (by decide)
  | false =>
      have hmarked : Tracked ({ s with outbox := s.outbox.markFailed envelopeId now }, owed) :=
        h.setStatus (.inl rfl)
      refine hmarked.setFlush ?_ ?_ ?_
      · rintro flush other ⟨⟩ hn
        exact hrest other hn
      · rintro flush other ⟨⟩ ha
        exact ha.elim
      · intro flush other hf ha ho hsent
        obtain rfl := Option.some.inj (hi.symm.trans hf)
        obtain rfl : envelopeId = other := ha.1
        exact absurd hsent not_markedSent_markFailed

theorem Tracked.published {rest : List OutboxRecord} {outcome : Published} (h : Tracked (s, owed))
    (hi : s.flushes i = some (.publishing envelopeId rest)) :
    Tracked (s.setFlush i (some (DeliveryState.publishedAs outcome envelopeId rest)),
      note publisher settings owed s (.published i outcome)) := by
  have hids : ∀ other, envelopeId = other ∨ Flush.Batch other rest → other ∈ s.issued :=
    fun other ho => h.named i _ other hi ho
  have hflight : ∀ flush other, s.flushes i = some flush → flush.InFlight other →
      envelopeId = other := by
    intro flush other hf ha
    obtain rfl := Option.some.inj (hi.symm.trans hf)
    exact ha
  by_cases hacked : outcome = .answered .acked
  · subst hacked
    have hnote : note publisher settings owed s (.published i (.answered .acked)) =
        owed.filter fun other => other ≠ envelopeId := by
      rw [note, hi]
    rw [hnote]
    refine (h.mono (List.filter_subset_self _)).setFlush ?_ ?_ ?_
    · rintro flush other ⟨⟩ hn
      exact hids other hn
    · rintro flush other ⟨⟩ ⟨rfl, -⟩ ho
      simp at ho
    · intro flush other hf ha ho
      obtain rfl := hflight flush other hf ha
      simp at ho
  · have hnote : note publisher settings owed s (.published i outcome) = owed := by
      cases outcome with
      | raised => rfl
      | answered status => cases status <;> first | rfl | exact absurd rfl hacked
    have hin : (DeliveryState.publishedAs outcome envelopeId rest).InFlight envelopeId := by
      cases outcome with
      | raised => rfl
      | answered status => exact ⟨rfl, by simpa using fun he => hacked (by rw [he])⟩
    rw [hnote]
    refine h.setFlush ?_ ?_ ?_
    · rintro flush other ⟨⟩ hn
      cases outcome <;> exact hids other hn
    · rintro flush other ⟨⟩ ha
      cases outcome with
      | raised => exact ha.elim
      | answered status => exact absurd (by simpa using ha.2 : status = .acked) fun he => hacked (by rw [he])
    · intro flush other hf ha _ _
      obtain rfl := hflight flush other hf ha
      exact ⟨i, _, Function.update_self _ _ _, hin⟩

theorem Tracked.restarted (h : Tracked (s, owed)) (hcut : Uncut (s, owed) .restart) :
    Tracked (s.restarted, owed) where
  keyed := h.keyed
  stored := h.stored
  flying other ho row hrow := by
    rcases h.flying other ho row hrow with hs | ⟨hs, i, flush, hi, hf⟩
    · exact .inl hs
    · exact absurd ⟨row, hrow, hs⟩ (hcut i flush other hi hf ho)
  issued := h.issued
  owedIssued := h.owedIssued
  named _ _ _ hj := by cases hj
  acknowledged _ _ _ hj := by cases hj

theorem Tracked.cancelled (h : Tracked (s, owed)) (hcut : Uncut (s, owed) (.cancel i)) :
    Tracked (s.setFlush i none, owed) := by
  refine h.setFlush (fun flush other hn => (by cases hn)) (fun flush other hn => (by cases hn)) ?_
  intro flush other hf ha ho hsent
  obtain ⟨j, another, hne, hj, hfly⟩ := hcut flush other hf ha ho hsent
  exact ⟨j, another, by simpa [DeliveryState.setFlush, hne] using hj, hfly⟩

-- A flush that has nothing in flight goes on to another place of its own.
theorem Tracked.idle {place : Flush} (h : Tracked (s, owed)) (hi : s.flushes i = some place)
    (hplace : ∀ other, ¬ place.InFlight other)
    (hnames : ∀ flush other, next = some flush → flush.Names other → other ∈ s.issued)
    (hacked : ∀ flush other, next = some flush → ¬ flush.Acknowledged other) :
    Tracked (s.setFlush i next, owed) := by
  refine h.setFlush hnames (fun flush other hn ha => absurd ha (hacked flush other hn)) ?_
  intro flush other hf ha
  obtain rfl := Option.some.inj (hi.symm.trans hf)
  exact absurd ha (hplace other)

theorem Tracked.step {label : Label} (h : Tracked (s, owed)) (hcut : Uncut (s, owed) label)
    (hs : s.step publisher settings label = some t) :
    Tracked (t, note publisher settings owed s label) := by
  cases label with
  | takeSequence i =>
      dsimp only [DeliveryState.step] at hs
      split at hs
      · cases hs
      · obtain rfl := Option.some.inj hs
        exact ⟨h.keyed, h.stored, h.flying, h.issued, h.owedIssued, h.named, h.acknowledged⟩
  | append i draft now =>
      dsimp only [DeliveryState.step] at hs
      cases hp : s.publications i with
      | none => rw [hp] at hs; cases hs
      | some sequence =>
          have hnote : note publisher settings owed s (.append i draft now) =
              owedAfterAppend settings s (publisher.envelope draft sequence now) now owed := by
            simp only [note, hp]
          have hnew : (publisher.envelope draft sequence now).envelopeId = draft.envelopeId := rfl
          rw [hp] at hs
          dsimp only at hs
          rw [hnote]
          split at hs
          · cases hs
          next hfresh =>
            obtain rfl := Option.some.inj hs
            exact h.append (hnew ▸ hfresh)
  | flushOnce i =>
      dsimp only [DeliveryState.step] at hs
      split at hs
      · cases hs
      next hi =>
        obtain rfl := Option.some.inj hs
        refine h.setFlush ?_ ?_ fun flush other hf => (by rw [hi] at hf; cases hf)
        · rintro flush other ⟨⟩ hn
          exact hn.elim
        · rintro flush other ⟨⟩ ha
          exact ha.elim
  | connected i =>
      dsimp only [DeliveryState.step] at hs
      split at hs
      next hi =>
        obtain rfl := Option.some.inj hs
        refine h.idle hi (fun other ha => ha) ?_ ?_
        · rintro flush other ⟨⟩ ⟨record, hm, rfl⟩
          obtain ⟨⟨key, hk⟩, -⟩ := DeliveryOutbox.mem_sendable.mp
            (DeliveryOutbox.mem_sendable_of_mem_pending hm)
          rw [h.keyed key record hk]
          exact h.issued key record hk
        · rintro flush other ⟨⟩ ha
          exact ha
      · cases hs
  | unreachable i =>
      dsimp only [DeliveryState.step] at hs
      split at hs
      next hi =>
        obtain rfl := Option.some.inj hs
        exact h.idle hi (fun other ha => ha) (fun flush other hn => (by cases hn))
          (fun flush other hn => (by cases hn))
      · cases hs
  | drain i now =>
      dsimp only [DeliveryState.step] at hs
      split at hs
      next hi =>
        obtain rfl := Option.some.inj hs
        exact h.drained hi
      · cases hs
  | published i outcome =>
      dsimp only [DeliveryState.step] at hs
      split at hs
      next hi =>
        obtain rfl := Option.some.inj hs
        exact h.published hi
      · cases hs
  | closed i =>
      dsimp only [DeliveryState.step] at hs
      split at hs
      next envelopeId rest hi =>
        obtain rfl := Option.some.inj hs
        refine h.setFlush ?_ ?_ ?_
        · rintro flush other ⟨⟩ hn
          exact h.named i _ other hi hn
        · rintro flush other ⟨⟩ ha
          exact absurd ha.2 (by decide)
        · intro flush other hf ha _ _
          obtain rfl := Option.some.inj (hi.symm.trans hf)
          exact ⟨i, _, Function.update_self _ _ _, ha, rfl⟩
      · cases hs
  | settle i now =>
      dsimp only [DeliveryState.step] at hs
      split at hs
      next hi =>
        obtain rfl := Option.some.inj hs
        exact h.settled hi
      · cases hs
  | cancel i =>
      have ht : t = s.setFlush i none := by
        dsimp only [DeliveryState.step] at hs
        split at hs <;> first | exact (Option.some.inj hs).symm | cases hs
      subst ht
      exact h.cancelled hcut
  | restart =>
      obtain rfl := Option.some.inj hs
      exact h.restarted hcut

end Steps

section Runs

variable {publisher : RuntimeDeliveryPublisher} {settings : Settings} {labels : List Label}
  {s : DeliveryState} {owed : Owed}

theorem tracked_initial : Tracked ({}, []) where
  keyed _ _ h := by cases h
  stored _ h := by cases h
  flying _ h := by cases h
  issued _ _ h := by cases h
  owedIssued _ h := by cases h
  named _ _ _ h := by cases h
  acknowledged _ _ _ h := by cases h

-- The outbox machine with what is owed beside it.
abbrev deliver (publisher : RuntimeDeliveryPublisher) (settings : Settings) :
    DeliveryState × Owed → Label → Option (DeliveryState × Owed) :=
  watched (fun s label => s.step publisher settings label) (note publisher settings)

theorem tracked_of_run (hr : run (deliver publisher settings) ({}, []) labels = some (s, owed))
    (hcut : Along (deliver publisher settings) Uncut ({}, []) labels) : Tracked (s, owed) := by
  have hstep : ∀ s label t, Tracked s → Uncut s label →
      deliver publisher settings s label = some t → Tracked t := by
    rintro ⟨s, owed⟩ label ⟨t, after⟩ h hc hs
    obtain ⟨hstep, rfl⟩ := watched_eq_some hs
    exact h.step hc hstep
  exact run_invariant hstep tracked_initial hcut hr

-- A row that is owed can be drained unless it stands as sent.
theorem Tracked.kept_iff (h : Tracked (s, owed)) :
    Kept s.outbox owed ↔ ∀ envelopeId ∈ owed, ¬ MarkedSent s envelopeId := by
  constructor
  · rintro hk envelopeId ho ⟨row, hrow, hsent⟩
    obtain ⟨bound, hbound⟩ := hk envelopeId ho
    obtain ⟨record, hm, he⟩ := List.mem_map.mp (hbound bound le_rfl)
    obtain ⟨⟨key, hkey⟩, hs⟩ := DeliveryOutbox.mem_sendable.mp
      (DeliveryOutbox.mem_sendable_of_mem_pending hm)
    obtain rfl : key = envelopeId := (h.keyed key record hkey).symm.trans he
    obtain rfl := Option.some.inj (hrow.symm.trans hkey)
    simp [OutboxRecord.sendable, hsent] at hs
  · intro hns envelopeId ho
    obtain ⟨row, hrow⟩ := h.stored envelopeId ho
    have hs : row.sendable = true := by
      rcases h.flying envelopeId ho row hrow with hs | ⟨hs, -⟩
      · exact hs
      · exact absurd ⟨row, hrow, hs⟩ (hns envelopeId ho)
    refine ⟨s.outbox.sendable.length, fun limit hl => List.mem_map.mpr ⟨row, ?_, ?_⟩⟩
    · exact (DeliveryOutbox.mem_pending_of_le hl).mpr
        (DeliveryOutbox.mem_sendable.mpr ⟨⟨envelopeId, hrow⟩, hs⟩)
    · exact h.keyed envelopeId row hrow

-- In a run without a cut so far, a restart keeps every envelope that is owed
-- exactly when it does not cut off a publication itself.
theorem restart_keeps_iff
    (hr : run (deliver publisher settings) ({}, []) labels = some (s, owed))
    (hcut : Along (deliver publisher settings) Uncut ({}, []) labels) :
    Kept s.restarted.outbox owed ↔ Uncut (s, owed) .restart := by
  have h := tracked_of_run hr hcut
  have hkept : Kept s.restarted.outbox owed ↔ _ := h.kept_iff
  rw [hkept]
  constructor
  · intro hns i flush envelopeId _ _ ho
    exact hns envelopeId ho
  · rintro hc envelopeId ho ⟨row, hrow, hsent⟩
    rcases h.flying envelopeId ho row hrow with hs | ⟨-, i, flush, hi, hf⟩
    · simp [OutboxRecord.sendable, hsent] at hs
    · exact hc i flush envelopeId hi hf ho ⟨row, hrow, hsent⟩

def samplePublisher : RuntimeDeliveryPublisher where
  identity := { publisherId := "joymesh", instanceId := "instance" }
  keyId := none
  sign := none
  hashPayload _ := "hash"

def sampleDraft : Draft where
  kind := .runtimeEvent
  payload := ∅
  idempotencyKey := none
  envelopeId := "envelope"

theorem run_flushed_refused : ∃ s, run (DeliveryState.step samplePublisher {}) {}
    [.takeSequence 0, .append 0 sampleDraft 0] = some s ∧
      run (DeliveryState.step samplePublisher {}) s
          (FlushCall.labels ⟨0, fun _ => .answered .failed, fun _ => 2⟩ {} s.outbox) =
        some { s with outbox := s.outbox.flushed {} ⟨0, fun _ => .answered .failed, fun _ => 2⟩ } :=
  ⟨_, rfl, run_flushed rfl⟩

-- The transport refuses the envelope.
def refused : List Label :=
  [.takeSequence 0, .append 0 sampleDraft 0, .flushOnce 0, .connected 0, .drain 0 1,
    .published 0 (.answered .failed), .settle 0 2]

theorem restart_keeps_refused : ∃ s owed,
    run (deliver samplePublisher {}) ({}, []) refused = some (s, owed) ∧
      (Kept s.restarted.outbox owed ↔ Uncut (s, owed) .restart) := by
  have hrun : (run (deliver samplePublisher {}) ({}, []) refused).isSome = true := by decide +kernel
  obtain ⟨⟨s, owed⟩, hs⟩ := Option.isSome_iff_exists.mp hrun
  exact ⟨s, owed, hs, restart_keeps_iff hs (by simp [refused, Along, Uncut])⟩

-- The process stops while the transport has the envelope.
def stoppedPublishing : List Label :=
  [.takeSequence 0, .append 0 sampleDraft 0, .flushOnce 0, .connected 0, .drain 0 1, .restart]

theorem restart_loses : ¬ ∀ (publisher : RuntimeDeliveryPublisher) (settings : Settings)
    (labels : List Label) (s : DeliveryState) (owed : Owed),
    run (deliver publisher settings) ({}, []) labels = some (s, owed) →
      Kept s.restarted.outbox owed := by
  intro h
  have hrun : (run (deliver samplePublisher {}) ({}, []) stoppedPublishing).map
      (fun after => (after.1.outbox.sendable, after.2)) = some ([], ["envelope"]) := by decide +kernel
  obtain ⟨⟨s, owed⟩, hs, hpair⟩ := Option.map_eq_some_iff.mp hrun
  obtain ⟨hnone, rfl⟩ := Prod.mk.inj hpair
  obtain ⟨bound, hbound⟩ := h samplePublisher {} stoppedPublishing s _ hs "envelope" List.mem_cons_self
  obtain ⟨record, hm, -⟩ := List.mem_map.mp (hbound bound le_rfl)
  have hmem : record ∈ s.outbox.sendable := DeliveryOutbox.mem_sendable_of_mem_pending hm
  rw [hnone] at hmem
  cases hmem

end Runs

end JoyMesh.Delivery
