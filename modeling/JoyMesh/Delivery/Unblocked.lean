import Mathlib.Data.Finset.Max
import JoyMesh.Delivery.Worker
import JoyMesh.Library.Queue

namespace JoyMesh.Delivery

open Library

-- The rows are stored under their envelope ids and no two share a sequence.
structure Ordered (outbox : DeliveryOutbox) : Prop where
  keyed : ∀ key row, outbox.rows.lookup key = some row → row.envelope.envelopeId = key
  apart : ∀ key row other found, outbox.rows.lookup key = some row →
    outbox.rows.lookup other = some found →
      row.envelope.sequence = found.envelope.sequence → key = other

-- An exhausted row that the drain query still returns before the given one.
def ExhaustedBefore (settings : Settings) (row other : OutboxRecord) : Prop :=
  other.sendable = true ∧ Exhausted settings other ∧
    other.envelope.sequence < row.envelope.sequence

instance (settings : Settings) (row other : OutboxRecord) :
    Decidable (ExhaustedBefore settings row other) := by
  delta ExhaustedBefore
  infer_instance

def exhaustedAhead (settings : Settings) (outbox : DeliveryOutbox) (row : OutboxRecord) : Nat :=
  (outbox.rows.select fun other => ExhaustedBefore settings row other).length

-- The rows that still have attempts left.
def live (settings : Settings) (outbox : DeliveryOutbox) : List OutboxRecord :=
  outbox.rows.select fun row => ¬ Exhausted settings row

-- Every row that has attempts left can be drained, and a batch reaches beyond
-- the exhausted rows before it.
def Unblocked (settings : Settings) (outbox : DeliveryOutbox) : Prop :=
  ∀ row ∈ live settings outbox, row.sendable = true ∧
    exhaustedAhead settings outbox row < max 1 settings.batchSize

instance (settings : Settings) (outbox : DeliveryOutbox) :
    Decidable (Unblocked settings outbox) := by
  delta Unblocked
  infer_instance

section Batch

variable {settings : Settings} {call : FlushCall} {outbox : DeliveryOutbox} {row : OutboxRecord}
  {rest : List OutboxRecord} {key : String} {calls : Nat → FlushCall}

theorem mem_live : row ∈ live settings outbox ↔
    (∃ key, outbox.rows.lookup key = some row) ∧ ¬ Exhausted settings row := by
  rw [live, Table.mem_select, decide_eq_true_eq]

namespace Ordered

theorem sequences_nodup (h : Ordered outbox) (p : OutboxRecord → Bool) :
    ((outbox.rows.select p).map fun row => row.envelope.sequence).Nodup := by
  refine List.Nodup.map_on ?_ (Table.select_nodup _ h.keyed p)
  intro row hrow other hother hseq
  obtain ⟨⟨key, hk⟩, -⟩ := Table.mem_select.mp hrow
  obtain ⟨⟨another, ha⟩, -⟩ := Table.mem_select.mp hother
  obtain rfl := h.apart key row another other hk ha hseq
  exact Option.some.inj (hk.symm.trans ha)

theorem sendable_sorted (h : Ordered outbox) : outbox.sendable.Pairwise fun first second =>
    first.envelope.sequence < second.envelope.sequence :=
  pairwise_insertionSort_lt (h.sequences_nodup _)

theorem batch_nodup (h : Ordered outbox) (limit : Nat) :
    ((outbox.pending limit).map fun row => row.envelope.envelopeId).Nodup := by
  have hsorted : (outbox.pending limit).Pairwise fun first second =>
      first.envelope.sequence < second.envelope.sequence :=
    h.sendable_sorted.sublist (List.take_sublist _ _)
  refine List.pairwise_map.mpr (hsorted.imp_of_mem ?_)
  intro first second hfirst hsecond hlt hid
  obtain ⟨⟨key, hk⟩, -⟩ :=
    DeliveryOutbox.mem_sendable.mp (DeliveryOutbox.mem_sendable_of_mem_pending hfirst)
  obtain ⟨⟨other, ho⟩, -⟩ :=
    DeliveryOutbox.mem_sendable.mp (DeliveryOutbox.mem_sendable_of_mem_pending hsecond)
  obtain rfl : key = other := (h.keyed key first hk).symm.trans (hid.trans (h.keyed other second ho))
  obtain rfl := Option.some.inj (hk.symm.trans ho)
  exact Nat.lt_irrefl _ hlt

theorem batch_current (h : Ordered outbox) {limit : Nat} (hrow : row ∈ outbox.pending limit) :
    outbox.rows.lookup row.envelope.envelopeId = some row := by
  obtain ⟨⟨key, hk⟩, -⟩ :=
    DeliveryOutbox.mem_sendable.mp (DeliveryOutbox.mem_sendable_of_mem_pending hrow)
  rw [h.keyed key row hk, hk]

-- A sendable row is in the batch when fewer sendable rows come before it than
-- the batch holds.
theorem mem_batch_iff (h : Ordered outbox) (hlookup : outbox.rows.lookup key = some row)
    (hsendable : row.sendable = true) :
    row ∈ outbox.pending (max 1 settings.batchSize) ↔
      (outbox.rows.select fun other => other.sendable = true ∧
        other.envelope.sequence < row.envelope.sequence).length < max 1 settings.batchSize := by
  have hmem : row ∈ outbox.sendable := DeliveryOutbox.mem_sendable.mpr ⟨⟨key, hlookup⟩, hsendable⟩
  have hlength : (outbox.sendable.filter fun other =>
      other.envelope.sequence < row.envelope.sequence).length =
        (outbox.rows.select fun other => other.sendable = true ∧
          other.envelope.sequence < row.envelope.sequence).length := by
    have hperm : (outbox.sendable.filter fun other => decide
        (other.envelope.sequence < row.envelope.sequence)).Perm
          ((outbox.rows.select OutboxRecord.sendable).filter fun other =>
            other.envelope.sequence < row.envelope.sequence) :=
      (List.perm_insertionSort _ _).filter _
    rw [hperm.length_eq, Table.select, Table.select, List.filter_filter]
    congr 2
    funext other
    simp [Bool.and_comm]
  rw [DeliveryOutbox.pending, max_eq_right (le_max_left 1 settings.batchSize),
    mem_take_iff_ahead h.sendable_sorted hmem, hlength]

end Ordered

-- What a call that is accepted leaves of a row that it has read.
def leftOver (settings : Settings) (call : FlushCall) (row : OutboxRecord) :
    Option OutboxRecord :=
  if Exhausted settings row then
    some { row with
      status := .failed, attempts := row.attempts + 1,
      updatedAt := call.clock row.envelope.envelopeId }
  else none

theorem lookup_round_of_ne (hne : key ≠ row.envelope.envelopeId) :
    (outbox.round settings call row).rows.lookup key = outbox.rows.lookup key := by
  unfold DeliveryOutbox.round
  dsimp only
  split
  · exact DeliveryOutbox.lookup_setStatus_of_ne hne
  · split
    · exact (AList.lookup_erase_ne hne).trans (DeliveryOutbox.lookup_setStatus_of_ne hne)
    · exact (DeliveryOutbox.lookup_setStatus_of_ne hne).trans
        (DeliveryOutbox.lookup_setStatus_of_ne hne)

theorem lookup_round_self (haccepts : call.Accepts)
    (hcurrent : outbox.rows.lookup row.envelope.envelopeId = some row) :
    (outbox.round settings call row).rows.lookup row.envelope.envelopeId =
      leftOver settings call row := by
  unfold DeliveryOutbox.round leftOver
  dsimp only
  rw [haccepts row.envelope.envelopeId]
  split
  · exact DeliveryOutbox.lookup_setStatus_self hcurrent
  · rw [if_pos rfl]
    exact AList.lookup_erase _ _

theorem lookup_rounds_of_notMem
    (hkey : ∀ record ∈ rest, record.envelope.envelopeId ≠ key) :
    (rest.foldl (DeliveryOutbox.round settings call) outbox).rows.lookup key =
      outbox.rows.lookup key := by
  induction rest generalizing outbox with
  | nil => rfl
  | cons record rest ih =>
      rw [List.foldl_cons, ih fun other ho => hkey other (List.mem_cons_of_mem _ ho)]
      exact lookup_round_of_ne (hkey record List.mem_cons_self).symm

-- Each row of the batch is worked on once, as it was read.
theorem lookup_rounds_of_mem (haccepts : call.Accepts)
    (hnodup : (rest.map fun record => record.envelope.envelopeId).Nodup)
    (hcurrent : ∀ record ∈ rest, outbox.rows.lookup record.envelope.envelopeId = some record)
    (hrow : row ∈ rest) :
    (rest.foldl (DeliveryOutbox.round settings call) outbox).rows.lookup
      row.envelope.envelopeId = leftOver settings call row := by
  induction rest generalizing outbox with
  | nil => cases hrow
  | cons record rest ih =>
      obtain ⟨hfirst, hnodup⟩ := List.nodup_cons.mp hnodup
      have hne : ∀ other ∈ rest, other.envelope.envelopeId ≠ record.envelope.envelopeId :=
        fun other ho he => hfirst (List.mem_map.mpr ⟨other, ho, he⟩)
      rw [List.foldl_cons]
      rcases List.mem_cons.mp hrow with rfl | hrow
      · rw [lookup_rounds_of_notMem hne]
        exact lookup_round_self haccepts (hcurrent row List.mem_cons_self)
      · refine ih hnodup (fun other ho => ?_) hrow
        rw [lookup_round_of_ne (hne other ho)]
        exact hcurrent other (List.mem_cons_of_mem _ ho)

-- An accepted call leaves of each row of its batch what is left over, and every
-- other row as it was.
theorem Ordered.lookup_flushed (h : Ordered outbox) (haccepts : call.Accepts) (key : String) :
    (outbox.flushed settings call).rows.lookup key = (outbox.rows.lookup key).bind fun row =>
      if row ∈ outbox.pending (max 1 settings.batchSize) then leftOver settings call row
      else some row := by
  have hsame : (∀ record ∈ outbox.pending (max 1 settings.batchSize),
      record.envelope.envelopeId ≠ key) →
        (outbox.flushed settings call).rows.lookup key = outbox.rows.lookup key :=
    lookup_rounds_of_notMem
  cases hk : outbox.rows.lookup key with
  | none =>
      refine (hsame fun record hr he => ?_).trans hk
      have hrecord := h.batch_current hr
      rw [he, hk] at hrecord
      cases hrecord
  | some row =>
      have hid := h.keyed key row hk
      dsimp only [Option.bind_some]
      split
      next hrow =>
        subst hid
        exact lookup_rounds_of_mem haccepts (h.batch_nodup _) (fun record hr => h.batch_current hr)
          hrow
      next hrow =>
        refine (hsame fun record hr he => hrow ?_).trans hk
        have hrecord := h.batch_current hr
        rw [he, hk] at hrecord
        exact Option.some.inj hrecord ▸ hr

-- A row that is there after an accepted call was there before it, and is as it
-- was or was exhausted and is marked as failed once more.
theorem Ordered.flushed_row (h : Ordered outbox) (haccepts : call.Accepts)
    (hlookup : (outbox.flushed settings call).rows.lookup key = some row) :
    outbox.rows.lookup key = some row ∧ row ∉ outbox.pending (max 1 settings.batchSize) ∨
      ∃ before, outbox.rows.lookup key = some before ∧ before.sendable = true ∧
        Exhausted settings before ∧ row = { before with
          status := .failed, attempts := before.attempts + 1,
          updatedAt := call.clock before.envelope.envelopeId } := by
  rw [h.lookup_flushed haccepts] at hlookup
  obtain ⟨before, hbefore, hrow⟩ := Option.bind_eq_some_iff.mp hlookup
  split at hrow
  next hbatch =>
    unfold leftOver at hrow
    split at hrow
    next hex =>
      obtain ⟨-, hsendable⟩ := DeliveryOutbox.mem_sendable.mp
        (DeliveryOutbox.mem_sendable_of_mem_pending hbatch)
      exact .inr ⟨before, hbefore, hsendable, hex, (Option.some.inj hrow).symm⟩
    next => cases hrow
  next hbatch =>
    obtain rfl := Option.some.inj hrow
    exact .inl ⟨hbefore, hbatch⟩

-- An exhausted row stays exhausted, sendable when it was, and in its place.
theorem Ordered.flushed_exhausted (h : Ordered outbox) (haccepts : call.Accepts)
    (hlookup : outbox.rows.lookup key = some row) (hex : Exhausted settings row) :
    ∃ after, (outbox.flushed settings call).rows.lookup key = some after ∧
      Exhausted settings after ∧ after.envelope = row.envelope ∧
        (row.sendable = true → after.sendable = true) := by
  rw [h.lookup_flushed haccepts, hlookup, Option.bind_some]
  split
  · rw [leftOver, if_pos hex]
    exact ⟨_, rfl, Nat.le_succ_of_le hex, rfl, fun _ => rfl⟩
  · exact ⟨row, rfl, hex, rfl, id⟩

theorem Ordered.flushed (h : Ordered outbox) (haccepts : call.Accepts) :
    Ordered (outbox.flushed settings call) := by
  have hold : ∀ key row, (outbox.flushed settings call).rows.lookup key = some row →
      ∃ before, outbox.rows.lookup key = some before ∧ row.envelope = before.envelope := by
    intro key row hk
    rcases h.flushed_row haccepts hk with ⟨hbefore, -⟩ | ⟨before, hbefore, -, -, rfl⟩
    · exact ⟨row, hbefore, rfl⟩
    · exact ⟨before, hbefore, rfl⟩
  refine ⟨fun key row hk => ?_, fun key row other found hk ho hseq => ?_⟩
  · obtain ⟨before, hbefore, he⟩ := hold key row hk
    rw [he]
    exact h.keyed key before hbefore
  · obtain ⟨before, hbefore, he⟩ := hold key row hk
    obtain ⟨foundBefore, hfound, hf⟩ := hold other found ho
    rw [he, hf] at hseq
    exact h.apart key before other foundBefore hbefore hfound hseq

-- The exhausted rows before a row are as many after the call as before it.
theorem Ordered.exhaustedAhead_flushed (h : Ordered outbox) (haccepts : call.Accepts)
    (row : OutboxRecord) :
    exhaustedAhead settings (outbox.flushed settings call) row =
      exhaustedAhead settings outbox row := by
  have hperm : (((outbox.flushed settings call).rows.select fun other =>
      ExhaustedBefore settings row other).map fun other => other.envelope.sequence).Perm
        ((outbox.rows.select fun other => ExhaustedBefore settings row other).map
          fun other => other.envelope.sequence) := by
    refine (List.perm_ext_iff_of_nodup ((h.flushed haccepts).sequences_nodup _)
      (h.sequences_nodup _)).mpr fun sequence => ?_
    simp only [List.mem_map, Table.mem_select, decide_eq_true_eq]
    constructor
    · rintro ⟨other, ⟨⟨key, hk⟩, hsendable, hex, hlt⟩, rfl⟩
      rcases h.flushed_row haccepts hk with ⟨hbefore, -⟩ | ⟨before, hbefore, hs, hexb, rfl⟩
      · exact ⟨other, ⟨⟨key, hbefore⟩, hsendable, hex, hlt⟩, rfl⟩
      · exact ⟨before, ⟨⟨key, hbefore⟩, hs, hexb, hlt⟩, rfl⟩
    · rintro ⟨other, ⟨⟨key, hk⟩, hsendable, hex, hlt⟩, rfl⟩
      obtain ⟨after, hafter, hexa, he, hs⟩ := h.flushed_exhausted haccepts hk hex
      exact ⟨after, ⟨⟨key, hafter⟩, hs hsendable, hexa, he ▸ hlt⟩, by rw [he]⟩
  simpa [exhaustedAhead] using hperm.length_eq

-- A row with attempts left that is in the outbox after the call was not in the
-- batch.
theorem Ordered.live_flushed (h : Ordered outbox) (haccepts : call.Accepts) :
    row ∈ live settings (outbox.flushed settings call) ↔
      row ∈ live settings outbox ∧ row ∉ outbox.pending (max 1 settings.batchSize) := by
  rw [mem_live, mem_live]
  constructor
  · rintro ⟨⟨key, hk⟩, hlive⟩
    rcases h.flushed_row haccepts hk with ⟨hbefore, hout⟩ | ⟨before, -, -, hex, rfl⟩
    · exact ⟨⟨⟨key, hbefore⟩, hlive⟩, hout⟩
    · exact absurd (Nat.le_succ_of_le hex) hlive
  · rintro ⟨⟨⟨key, hk⟩, hlive⟩, hout⟩
    refine ⟨⟨key, ?_⟩, hlive⟩
    rw [h.lookup_flushed haccepts, hk, Option.bind_some, if_neg hout]

theorem Ordered.unblocked_flushed (h : Ordered outbox) (haccepts : call.Accepts)
    (hfree : Unblocked settings outbox) : Unblocked settings (outbox.flushed settings call) := by
  intro row hrow
  rw [h.exhaustedAhead_flushed haccepts]
  exact hfree row ((h.live_flushed haccepts).mp hrow).1

-- The first row with attempts left has only exhausted rows before it.
theorem Ordered.live_in_batch (h : Ordered outbox) (hfree : Unblocked settings outbox)
    (hlive : live settings outbox ≠ []) :
    ∃ row ∈ live settings outbox, row ∈ outbox.pending (max 1 settings.batchSize) := by
  obtain ⟨first, hfirst⟩ := List.exists_mem_of_ne_nil _ hlive
  obtain ⟨row, hrow, hleast⟩ := Finset.exists_min_image (live settings outbox).toFinset
    (fun row => row.envelope.sequence) ⟨first, List.mem_toFinset.mpr hfirst⟩
  rw [List.mem_toFinset] at hrow
  obtain ⟨hsendable, hahead⟩ := hfree row hrow
  obtain ⟨⟨key, hk⟩, -⟩ := mem_live.mp hrow
  refine ⟨row, hrow, (h.mem_batch_iff hk hsendable).mpr ?_⟩
  have hsame : (outbox.rows.select fun other => other.sendable = true ∧
      other.envelope.sequence < row.envelope.sequence) =
        outbox.rows.select fun other => ExhaustedBefore settings row other := by
    refine List.filter_congr fun other ho => decide_eq_decide.mpr ?_
    constructor
    · rintro ⟨hs, hlt⟩
      refine ⟨hs, ?_, hlt⟩
      by_contra hex
      have hother : other ∈ live settings outbox := mem_live.mpr ⟨Table.mem_values.mp ho, hex⟩
      exact absurd (hleast other (List.mem_toFinset.mpr hother)) (Nat.not_le.mpr hlt)
    · rintro ⟨hs, -, hlt⟩
      exact ⟨hs, hlt⟩
  rw [hsame]
  exact hahead

-- The measure of the drain: an accepted call takes at least one row with
-- attempts left out of the outbox.
theorem Ordered.live_length_lt (h : Ordered outbox) (haccepts : call.Accepts)
    (hfree : Unblocked settings outbox) (hlive : live settings outbox ≠ []) :
    (live settings (outbox.flushed settings call)).length < (live settings outbox).length := by
  obtain ⟨row, hrow, hbatch⟩ := h.live_in_batch hfree hlive
  have hgone : row ∉ live settings (outbox.flushed settings call) :=
    fun hr => ((h.live_flushed haccepts).mp hr).2 hbatch
  have hnodup : (row :: live settings (outbox.flushed settings call)).Nodup :=
    List.nodup_cons.mpr ⟨hgone, Table.select_nodup _ (h.flushed haccepts).keyed _⟩
  refine (List.subperm_of_subset hnodup fun other ho => ?_).length_le
  rcases List.mem_cons.mp ho with rfl | ho
  · exact hrow
  · exact ((h.live_flushed haccepts).mp ho).1

theorem afterCalls_succ (n : Nat) :
    outbox.afterCalls settings calls (n + 1) =
      (outbox.flushed settings (calls 0)).afterCalls settings (fun k => calls (k + 1)) n := by
  induction n with
  | zero => rfl
  | succ n ih =>
      rw [DeliveryOutbox.afterCalls, ih]
      rfl

theorem Ordered.drained (h : Ordered outbox) (haccepts : ∀ n, (calls n).Accepts)
    (hfree : Unblocked settings outbox) :
    ∃ n, live settings (outbox.afterCalls settings calls n) = [] := by
  induction hlength : (live settings outbox).length using Nat.strong_induction_on
    generalizing outbox calls with
  | _ length ih =>
      by_cases hlive : live settings outbox = []
      · exact ⟨0, hlive⟩
      · have hlt := h.live_length_lt (haccepts 0) hfree hlive
        obtain ⟨n, hn⟩ := ih _ (hlength ▸ hlt) (h.flushed (haccepts 0))
          (fun n => haccepts (n + 1)) (h.unblocked_flushed (haccepts 0) hfree) rfl
        exact ⟨n + 1, by rw [afterCalls_succ]; exact hn⟩

-- A row with attempts left that is out of the reach of the batch is never sent.
theorem Ordered.stuck (h : Ordered outbox) (haccepts : ∀ n, (calls n).Accepts)
    (hrow : row ∈ live settings outbox)
    (hstuck : row.sendable = true → max 1 settings.batchSize ≤ exhaustedAhead settings outbox row)
    (n : Nat) : row ∈ live settings (outbox.afterCalls settings calls n) := by
  induction n generalizing outbox calls with
  | zero => exact hrow
  | succ n ih =>
      rw [afterCalls_succ]
      refine ih (h.flushed (haccepts 0)) (fun n => haccepts (n + 1)) ?_ ?_
      · refine (h.live_flushed (haccepts 0)).mpr ⟨hrow, fun hbatch => ?_⟩
        obtain ⟨⟨key, hk⟩, hsendable⟩ := DeliveryOutbox.mem_sendable.mp
          (DeliveryOutbox.mem_sendable_of_mem_pending hbatch)
        have hlt := (h.mem_batch_iff hk hsendable).mp hbatch
        have hle : exhaustedAhead settings outbox row ≤
            (outbox.rows.select fun other => other.sendable = true ∧
              other.envelope.sequence < row.envelope.sequence).length := by
          refine (List.monotone_filter_right _ fun other ho => ?_).length_le
          obtain ⟨hs, -, hl⟩ := of_decide_eq_true ho
          exact decide_eq_true ⟨hs, hl⟩
        exact absurd ((hstuck hsendable).trans hle) (Nat.not_le.mpr hlt)
      · rw [h.exhaustedAhead_flushed (haccepts 0)]
        exact hstuck

-- Repeated calls that are accepted empty the outbox of the rows with attempts
-- left exactly when none of these is blocked.
theorem Ordered.drained_iff (h : Ordered outbox) (haccepts : ∀ n, (calls n).Accepts) :
    (∃ n, live settings (outbox.afterCalls settings calls n) = []) ↔
      Unblocked settings outbox := by
  refine ⟨fun ⟨n, hn⟩ row hrow => ?_, h.drained haccepts⟩
  by_contra hblocked
  have hstuck : row.sendable = true →
      max 1 settings.batchSize ≤ exhaustedAhead settings outbox row :=
    fun hs => Nat.not_lt.mp fun hlt => hblocked ⟨hs, hlt⟩
  have hin := h.stuck haccepts hrow hstuck n
  rw [hn] at hin
  cases hin

end Batch

end JoyMesh.Delivery
