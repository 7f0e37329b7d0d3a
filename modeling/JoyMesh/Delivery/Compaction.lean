import JoyMesh.Delivery.Attempts

namespace JoyMesh.Delivery

open Library

namespace DeliveryOutbox

section Ranks

variable {rows : Table String OutboxRecord} {key : String} {row : OutboxRecord}

-- How many of the rows have a lower number.
def older (rows : List OutboxRecord) (sequence : Nat) : Nat :=
  (rows.filter fun row => row.envelope.sequence < sequence).length

theorem older_perm {first second : List OutboxRecord} (h : first.Perm second) (sequence : Nat) :
    older first sequence = older second sequence := (h.filter _).length_eq

theorem older_cons (rows : List OutboxRecord) (sequence : Nat) :
    older (row :: rows) sequence =
      older rows sequence + if row.envelope.sequence < sequence then 1 else 0 := by
  unfold older
  by_cases h : row.envelope.sequence < sequence <;> simp [h]

theorem older_mono {rows : List OutboxRecord} {low high : Nat} (h : low ≤ high) :
    older rows low ≤ older rows high := by
  refine (List.monotone_filter_right rows fun row hrow => ?_).length_le
  simp only [decide_eq_true_eq] at hrow ⊢
  omega

theorem values_erase (h : rows.lookup key = some row) :
    rows.values.Perm (row :: Table.values (rows.erase key)) := by
  obtain ⟨found, first, last, hfirst, hentries, herase⟩ :=
    List.exists_of_kerase (List.mem_keys_of_mem (AList.mem_lookup_iff.mp h))
  have hfound : rows.lookup key = some found :=
    AList.mem_lookup_iff.mpr (hentries ▸ List.mem_append_right _ List.mem_cons_self)
  obtain rfl := Option.some.inj (h.symm.trans hfound)
  have hleft : Table.values (rows.erase key) = (first ++ last).map Sigma.snd := by
    rw [Table.values, ← herase]
    rfl
  rw [hleft, Table.values, hentries, List.map_append, List.map_append, List.map_cons]
  exact List.perm_middle

theorem values_insert (h : key ∉ rows) :
    Table.values (rows.insert key row) = row :: rows.values := by
  rw [Table.values, AList.entries_insert_of_notMem h]
  rfl

end Ranks

section Compaction

variable {rows : Table String OutboxRecord} {key : String} {row : OutboxRecord} {n rounds : Nat}

theorem length_values : rows.values.length = rows.entries.length := List.length_map _

theorem bySequence_oldest {oldest : OutboxRecord} {others : List OutboxRecord}
    (h : bySequence rows.values = oldest :: others) :
    oldest ∈ rows.values ∧ ∀ row ∈ rows.values, oldest.envelope.sequence ≤ row.envelope.sequence := by
  have hmem : ∀ row, row ∈ oldest :: others ↔ row ∈ rows.values := fun row => h ▸ mem_bySequence
  have hsorted : (oldest :: others).Pairwise fun first second =>
      first.envelope.sequence ≤ second.envelope.sequence := by
    have htotal : Std.Total fun first second : OutboxRecord =>
        first.envelope.sequence ≤ second.envelope.sequence := ⟨fun _ _ => Nat.le_total _ _⟩
    have htrans : IsTrans OutboxRecord fun first second =>
        first.envelope.sequence ≤ second.envelope.sequence := ⟨fun _ _ _ => Nat.le_trans⟩
    exact h ▸ List.pairwise_insertionSort _ _
  refine ⟨(hmem oldest).mp List.mem_cons_self, fun row hrow => ?_⟩
  rcases List.mem_cons.mp ((hmem row).mpr hrow) with rfl | hrow
  · exact le_rfl
  · exact List.rel_of_pairwise_cons hsorted hrow

theorem erase_ordered (key : String) (h : Ordered { rows := rows }) :
    Ordered { rows := rows.erase key } := by
  have hkept : ∀ other row, (rows.erase key).lookup other = some row →
      rows.lookup other = some row := fun other row hrow =>
    (@markAcked_row { rows := rows } row key other hrow).2
  exact ⟨fun other row hrow => h.keyed other row (hkept other row hrow),
    fun other row another found hrow hfound =>
      h.apart other row another found (hkept other row hrow) (hkept another found hfound)⟩

-- One round: there is an oldest row, and the others are by one less behind.
theorem compact_round {oldest : OutboxRecord} {others : List OutboxRecord}
    (hordered : Ordered { rows := rows }) (h : bySequence rows.values = oldest :: others) :
    rows.lookup oldest.envelope.envelopeId = some oldest ∧
      rows.entries.length = (rows.erase oldest.envelope.envelopeId).entries.length + 1 ∧
      older rows.values oldest.envelope.sequence = 0 ∧
      ∀ key row, rows.lookup key = some row → key ≠ oldest.envelope.envelopeId →
        older rows.values row.envelope.sequence =
          older (Table.values (rows.erase oldest.envelope.envelopeId)) row.envelope.sequence + 1 := by
  obtain ⟨hmem, hle⟩ := bySequence_oldest h
  obtain ⟨key, hkey⟩ := Table.mem_values.mp hmem
  obtain rfl := hordered.keyed key oldest hkey
  have hvalues := values_erase hkey
  refine ⟨hkey, ?_, ?_, fun other row hrow hne => ?_⟩
  · rw [← length_values, hvalues.length_eq, List.length_cons, length_values]
  · refine List.length_eq_zero_iff.mpr (List.filter_eq_nil_iff.mpr fun row hrow => ?_)
    simpa using hle row hrow
  · have hlt : oldest.envelope.sequence < row.envelope.sequence := by
      refine lt_of_le_of_ne (hle row (Table.mem_values.mpr ⟨other, hrow⟩)) fun hsame => hne ?_
      exact (hordered.apart _ _ _ _ hkey hrow hsame).symm
    rw [older_perm hvalues, older_cons, if_pos hlt]

theorem bySequence_ne_nil (h : n < rows.entries.length) : bySequence rows.values ≠ [] := by
  intro hnil
  have hlength : (bySequence rows.values).length = rows.values.length :=
    List.length_insertionSort _ _
  rw [hnil, length_values, List.length_nil] at hlength
  omega

-- The compaction keeps the rows that enough others are older than, and no more than fit.
theorem compactLoop_spec (hordered : Ordered { rows := rows })
    (h : rows.entries.length ≤ n + rounds) :
    (compactLoop n rounds rows).1.entries.length ≤ n ∧
      ∀ key row, (compactLoop n rounds rows).1.lookup key = some row ↔
        rows.lookup key = some row ∧
          rows.entries.length ≤ n + older rows.values row.envelope.sequence := by
  induction rounds generalizing rows with
  | zero => exact ⟨h, fun key row => (and_iff_left (by omega)).symm⟩
  | succ rounds ih =>
      unfold compactLoop
      split
      next hfits => exact ⟨hfits, fun key row => (and_iff_left (by omega)).symm⟩
      next hlong =>
        cases hsorted : bySequence rows.values with
        | nil => exact absurd hsorted (bySequence_ne_nil (Nat.lt_of_not_le hlong))
        | cons oldest others =>
            obtain ⟨holdest, hlength, hfirst, hothers⟩ := compact_round hordered hsorted
            obtain ⟨hbound, hkept⟩ := ih (erase_ordered oldest.envelope.envelopeId hordered) (by omega)
            refine ⟨hbound, fun key row => ?_⟩
            dsimp only
            rw [hkept]
            by_cases hkey : key = oldest.envelope.envelopeId
            · subst hkey
              rw [AList.lookup_erase]
              refine iff_of_false (fun hnone => by cases hnone.1) fun hrow => ?_
              obtain rfl := Option.some.inj (holdest.symm.trans hrow.1)
              omega
            · rw [AList.lookup_erase_ne hkey]
              refine and_congr_right fun hrow => ?_
              have := hothers key row hrow hkey
              omega

end Compaction

section Append

variable (maxEntries : Nat) (outbox : DeliveryOutbox) (envelope : DeliveryEnvelope) (now : Time)

-- The bound of the constructor, which keeps at least one entry.
def bound : Nat := max 1 maxEntries

-- The rows that an append has to choose from.
def offered : DeliveryOutbox :=
  if (outbox.duplicate envelope).isSome then outbox else outbox.inserted envelope now

structure AppendSound : Prop where
  bounded : (outbox.append maxEntries envelope now).2.size ≤ bound maxEntries
  oldest : ∀ key dropped, (outbox.offered envelope now).rows.lookup key = some dropped →
    (outbox.append maxEntries envelope now).2.rows.lookup key = none →
    ∀ other row, (outbox.append maxEntries envelope now).2.rows.lookup other = some row →
      dropped.envelope.sequence < row.envelope.sequence
  returned : ∃ record, (outbox.append maxEntries envelope now).1 = .ok record ∧
    (outbox.duplicate envelope = some record ∨ record = stored envelope now ∧
      (outbox.append maxEntries envelope now).2.rows.lookup envelope.envelopeId = some record)

-- A duplicate adds nothing, so the outbox must fit as it is; anything else must find as
-- many rows older than itself as have to go.
def Room : Prop :=
  if (outbox.duplicate envelope).isSome then outbox.size ≤ bound maxEntries
  else outbox.size + 1 ≤ bound maxEntries + older outbox.rows.values envelope.sequence

variable {maxEntries outbox envelope now}

theorem append_duplicate {record : OutboxRecord} (h : outbox.duplicate envelope = some record) :
    AppendSound maxEntries outbox envelope now ↔ Room maxEntries outbox envelope := by
  have happend : outbox.append maxEntries envelope now = (.ok record, outbox) := by
    rw [append, h]
  rw [Room, h, Option.isSome_some, if_pos rfl]
  constructor
  · intro hsound
    simpa only [happend] using hsound.bounded
  · intro hroom
    refine ⟨by rwa [happend], fun key dropped hoffered hnone => ?_, record, by rw [happend], .inl h⟩
    rw [offered, h, Option.isSome_some, if_pos rfl] at hoffered
    rw [happend] at hnone
    cases hoffered.symm.trans hnone

theorem inserted_ordered (hordered : Ordered outbox)
    (hnumber : ∀ key row, outbox.rows.lookup key = some row →
      row.envelope.sequence ≠ envelope.sequence) :
    Ordered { rows := (outbox.inserted envelope now).rows } := by
  have hcases : ∀ key row, (outbox.inserted envelope now).rows.lookup key = some row →
      key = envelope.envelopeId ∧ row = stored envelope now ∨ outbox.rows.lookup key = some row := by
    intro key row hrow
    exact (Table.lookup_insert_cases hrow).imp id And.right
  constructor
  · intro key row hrow
    rcases hcases key row hrow with ⟨rfl, rfl⟩ | hrow
    · rfl
    · exact hordered.keyed key row hrow
  · intro key row other found hrow hfound hsame
    rcases hcases key row hrow with ⟨rfl, rfl⟩ | hrow
    · rcases hcases other found hfound with ⟨rfl, rfl⟩ | hfound
      · rfl
      · exact absurd hsame.symm (hnumber other found hfound)
    · rcases hcases other found hfound with ⟨rfl, rfl⟩ | hfound
      · exact absurd hsame (hnumber key row hrow)
      · exact hordered.apart key row other found hrow hfound hsame

theorem append_compacted (h : outbox.duplicate envelope = none)
    (hfresh : envelope.envelopeId ∉ outbox.rows) :
    (outbox.append maxEntries envelope now).2 =
        ((outbox.inserted envelope now).compact maxEntries).1 ∧
      ∀ row, (outbox.append maxEntries envelope now).2.rows.lookup envelope.envelopeId = some row →
        (outbox.append maxEntries envelope now).1 = .ok row := by
  rw [append, h]
  dsimp only
  rw [if_neg hfresh]
  split
  next row hrow => exact ⟨rfl, fun other hother => congrArg _ (Option.some.inj (hrow.symm.trans hother))⟩
  next hnone => exact ⟨rfl, fun other hother => by cases hnone.symm.trans hother⟩

theorem append_new (h : outbox.duplicate envelope = none) (hordered : Ordered outbox)
    (hfresh : envelope.envelopeId ∉ outbox.rows)
    (hnumber : ∀ key row, outbox.rows.lookup key = some row →
      row.envelope.sequence ≠ envelope.sequence) :
    AppendSound maxEntries outbox envelope now ↔ Room maxEntries outbox envelope := by
  have hvalues : (outbox.inserted envelope now).rows.values =
      stored envelope now :: outbox.rows.values := values_insert hfresh
  have hlength : (outbox.inserted envelope now).rows.entries.length = outbox.size + 1 := by
    rw [← length_values, hvalues, List.length_cons, length_values]
    rfl
  have hspec := @compactLoop_spec (outbox.inserted envelope now).rows (bound maxEntries)
    (outbox.inserted envelope now).size (inserted_ordered hordered hnumber) (Nat.le_add_left _ _)
  obtain ⟨hbounded, hkept⟩ := hspec
  obtain ⟨hcompact, hresult⟩ := @append_compacted maxEntries outbox envelope now h hfresh
  have hrow : ∀ key row, (outbox.append maxEntries envelope now).2.rows.lookup key = some row ↔
      (outbox.inserted envelope now).rows.lookup key = some row ∧
        outbox.size + 1 ≤ bound maxEntries +
          older (outbox.inserted envelope now).rows.values row.envelope.sequence := by
    intro key row
    rw [hcompact, ← hlength]
    exact hkept key row
  have hown : (outbox.append maxEntries envelope now).2.rows.lookup envelope.envelopeId =
      some (stored envelope now) ↔ Room maxEntries outbox envelope := by
    have holder : older (outbox.inserted envelope now).rows.values envelope.sequence =
        older outbox.rows.values envelope.sequence := by
      rw [hvalues, older_cons]
      exact congrArg _ (if_neg (lt_irrefl envelope.sequence))
    rw [hrow, Room, h, Option.isSome_none, if_neg Bool.false_ne_true]
    have hinserted : (outbox.inserted envelope now).rows.lookup envelope.envelopeId =
        some (stored envelope now) := AList.lookup_insert _
    rw [and_iff_right hinserted]
    exact holder ▸ Iff.rfl
  rw [← hown]
  constructor
  · intro hsound
    obtain ⟨record, -, hduplicate | ⟨rfl, hrecord⟩⟩ := hsound.returned
    · cases h.symm.trans hduplicate
    · exact hrecord
  · intro hstored
    refine ⟨?_, fun key dropped hoffered hnone other row hother => ?_, stored envelope now, ?_,
      .inr ⟨rfl, hstored⟩⟩
    · rw [hcompact]
      exact hbounded
    · rw [offered, h, Option.isSome_none, if_neg Bool.false_ne_true] at hoffered
      have hgone : ¬outbox.size + 1 ≤ bound maxEntries +
          older (outbox.inserted envelope now).rows.values dropped.envelope.sequence := by
        intro hle
        cases hnone.symm.trans ((hrow key dropped).mpr ⟨hoffered, hle⟩)
      have hstays := ((hrow other row).mp hother).2
      by_contra hge
      exact hgone (hstays.trans (Nat.add_le_add_left (older_mono (not_lt.mp hge)) _))
    · exact hresult _ hstored

end Append

end DeliveryOutbox

section Runs

open DeliveryOutbox

-- What an outbox can hold: its rows under their ids, with numbers that were given out once each.
structure Content where
  outbox : DeliveryOutbox
  ordered : Ordered outbox
  given : ∀ key row, outbox.rows.lookup key = some row → row.envelope.sequence ≤ outbox.sequence

-- A process that opens the outbox. No id that is stored is drawn again.
def Content.opened (content : Content) : DeliveryState where
  outbox := content.outbox
  issued := content.outbox.rows.keys

abbrev Taken := List Nat

def noteTaken (taken : Taken) (s : DeliveryState) : Label → Taken
  | .takeSequence i =>
      match s.publications i with
      | some _ => taken
      | none => s.outbox.nextSequence.1 :: taken
  | _ => taken

variable (publisher : RuntimeDeliveryPublisher) (settings : Settings)

-- The outbox machine with the numbers that it has given out beside it.
abbrev numbering : DeliveryState × Taken → Label → Option (DeliveryState × Taken) :=
  watched (fun s label => s.step publisher settings label) noteTaken

-- What is asked of an append, and of a number.
def Keeps (s : DeliveryState × Taken) : Label → Prop
  | .append i draft now => ∀ sequence, s.1.publications i = some sequence →
      draft.envelopeId ∉ s.1.issued →
      AppendSound settings.maxEntries s.1.outbox (publisher.envelope draft sequence now) now
  | .takeSequence i => s.1.publications i = none → s.1.outbox.nextSequence.1 ∉ s.2
  | _ => True

def HasRoom (s : DeliveryState × Taken) : Label → Prop
  | .append i draft now => ∀ sequence, s.1.publications i = some sequence →
      draft.envelopeId ∉ s.1.issued →
      Room settings.maxEntries s.1.outbox (publisher.envelope draft sequence now)
  | _ => True

structure Stocked (s : DeliveryState × Taken) : Prop where
  numbered : Numbered s.1
  issued : ∀ key row, s.1.outbox.rows.lookup key = some row → key ∈ s.1.issued
  taken : ∀ sequence ∈ s.2, sequence ≤ s.1.outbox.sequence

variable {publisher settings} {s t : DeliveryState} {taken : Taken} {label : Label}

theorem issued_step (h : ∀ key row, s.outbox.rows.lookup key = some row → key ∈ s.issued)
    (hs : s.step publisher settings label = some t) :
    ∀ key row, t.outbox.rows.lookup key = some row → key ∈ t.issued := by
  have hmarked : ∀ {envelopeId status now} key row,
      (s.outbox.setStatus envelopeId status now).rows.lookup key = some row → key ∈ s.issued := by
    intro envelopeId status now key row hrow
    obtain ⟨before, hbefore, -⟩ := setStatus_keeps_envelopes key row hrow
    exact h key before hbefore
  cases label with
  | takeSequence i =>
      dsimp only [DeliveryState.step] at hs
      split at hs
      · cases hs
      · obtain rfl := Option.some.inj hs
        exact h
  | append i draft now =>
      dsimp only [DeliveryState.step] at hs
      split at hs
      · cases hs
      next sequence hi =>
        split at hs
        · cases hs
        · obtain rfl := Option.some.inj hs
          intro key row hrow
          rcases append_row hrow with ⟨rfl, -⟩ | hrow
          · exact List.mem_cons_self
          · exact List.mem_cons_of_mem _ (h key row hrow)
  | drain i now =>
      dsimp only [DeliveryState.step] at hs
      split at hs
      next rest hi =>
        obtain rfl := Option.some.inj hs
        cases rest with
        | nil => exact h
        | cons record rest =>
            unfold DeliveryState.drained
            dsimp only
            split
            · exact hmarked
            · exact hmarked
      · cases hs
  | settle i now =>
      dsimp only [DeliveryState.step] at hs
      split at hs
      next envelopeId acked rest hi =>
        obtain rfl := Option.some.inj hs
        cases acked with
        | true => exact fun key row hrow => h key row (markAcked_row hrow).2
        | false => exact hmarked
      · cases hs
  | restart =>
      obtain rfl := Option.some.inj hs
      exact h
  | flushOnce i | connected i | unreachable i | published i outcome | closed i | cancel i =>
      dsimp only [DeliveryState.step] at hs
      split at hs <;> cases hs <;> exact h

theorem sequence_step (hs : s.step publisher settings label = some t) :
    s.outbox.sequence ≤ t.outbox.sequence := by
  cases label with
  | takeSequence i =>
      dsimp only [DeliveryState.step] at hs
      split at hs
      · cases hs
      · obtain rfl := Option.some.inj hs
        exact Nat.le_succ _
  | append i draft now =>
      dsimp only [DeliveryState.step] at hs
      split at hs
      · cases hs
      · split at hs
        · cases hs
        · obtain rfl := Option.some.inj hs
          exact append_sequence.ge
  | drain i now =>
      dsimp only [DeliveryState.step] at hs
      split at hs
      next rest hi =>
        obtain rfl := Option.some.inj hs
        cases rest with
        | nil => exact le_rfl
        | cons record rest =>
            unfold DeliveryState.drained
            dsimp only
            split
            · exact setStatus_sequence.ge
            · exact setStatus_sequence.ge
      · cases hs
  | settle i now =>
      dsimp only [DeliveryState.step] at hs
      split at hs
      next envelopeId acked rest hi =>
        obtain rfl := Option.some.inj hs
        cases acked with
        | true => exact le_rfl
        | false => exact setStatus_sequence.ge
      · cases hs
  | restart =>
      obtain rfl := Option.some.inj hs
      exact le_rfl
  | flushOnce i | connected i | unreachable i | published i outcome | closed i | cancel i =>
      dsimp only [DeliveryState.step] at hs
      split at hs <;> cases hs <;> exact le_rfl

theorem Stocked.step {after : DeliveryState × Taken} (h : Stocked (s, taken))
    (hs : numbering publisher settings (s, taken) label = some after) : Stocked after := by
  obtain ⟨hstep, htaken⟩ := watched_eq_some hs
  refine ⟨h.numbered.step hstep, issued_step h.issued hstep, fun sequence hm => ?_⟩
  rw [htaken] at hm
  have hold : ∀ sequence ∈ taken, sequence ≤ after.1.outbox.sequence :=
    fun sequence hm => (h.taken sequence hm).trans (sequence_step hstep)
  cases label with
  | takeSequence i =>
      dsimp only [noteTaken] at hm
      dsimp only [DeliveryState.step] at hstep
      split at hm
      next hi => exact hold sequence hm
      next hi =>
        rw [hi] at hstep
        rcases List.mem_cons.mp hm with rfl | hm
        · rw [← Option.some.inj hstep]
          exact le_rfl
        · exact hold sequence hm
  | _ => exact hold sequence hm

theorem keeps_iff (h : Stocked (s, taken)) :
    Keeps publisher settings (s, taken) label ↔ HasRoom publisher settings (s, taken) label := by
  cases label with
  | append i draft now =>
      refine forall_congr' fun sequence => forall₂_congr fun hi hfresh => ?_
      cases hduplicate : s.outbox.duplicate (publisher.envelope draft sequence now) with
      | some record => exact append_duplicate hduplicate
      | none =>
          refine append_new hduplicate h.numbered.ordered (fun hmem => ?_) fun key row hrow => ?_
          · obtain ⟨row, hrow⟩ := Option.isSome_iff_exists.mp (AList.lookup_isSome.mpr hmem)
            exact hfresh (h.issued _ row hrow)
          · exact h.numbered.unused i sequence hi key row hrow
  | takeSequence i =>
      refine iff_of_true (fun _ hm => ?_) trivial
      exact absurd (h.taken _ hm) (Nat.not_succ_le_self _)
  | _ => exact Iff.rfl

theorem Content.stocked (content : Content) : Stocked (content.opened, []) where
  numbered :=
    { ordered := content.ordered
      given := content.given
      held := fun _ _ h => by cases h
      unused := fun _ _ h => by cases h
      alone := fun _ _ _ h => by cases h }
  issued _ _ hrow := AList.mem_keys.mp (AList.lookup_isSome.mp (Option.isSome_iff_exists.mpr ⟨_, hrow⟩))
  taken _ h := by cases h

-- Over every run on any content, every append is sound and every number is new exactly if
-- each new envelope finds as many rows older than itself as have to go, and each duplicate
-- finds an outbox that fits.
theorem outbox_sound_iff (publisher : RuntimeDeliveryPublisher) (settings : Settings)
    (content : Content) (labels : List Label) :
    Along (numbering publisher settings) (Keeps publisher settings) (content.opened, []) labels ↔
      Along (numbering publisher settings) (HasRoom publisher settings) (content.opened, [])
        labels :=
  along_iff Stocked (fun _ _ h => keeps_iff h) (fun _ _ _ h _ hs => h.step hs) content.stocked

def plainPublisher : RuntimeDeliveryPublisher where
  identity := { publisherId := "joymesh", instanceId := "instance" }
  keyId := none
  sign := none
  hashPayload _ := "hash"

def plainDraft (envelopeId : String) : Draft where
  kind := .heartbeat
  payload := ∅
  idempotencyKey := none
  envelopeId := envelopeId

def emptyContent : Content where
  outbox := {}
  ordered := numbered_initial.ordered
  given := numbered_initial.given

-- Of two publishers the second one is faster, and the outbox has one place.
def overtaken : List Label :=
  [.takeSequence 0, .takeSequence 1, .append 1 (plainDraft "late") 0]

theorem overtaken_append_fails :
    ¬∀ labels, Along (numbering plainPublisher { maxEntries := 1 })
      (Keeps plainPublisher { maxEntries := 1 }) (emptyContent.opened, []) labels := by
  intro hall
  have hkept := hall (overtaken ++ [.append 0 (plainDraft "early") 1])
  have hrun : (run (numbering plainPublisher { maxEntries := 1 }) (emptyContent.opened, [])
      overtaken).map (fun s => (s.1.publications 0, s.1.issued,
        (s.1.outbox.append 1 (plainPublisher.envelope (plainDraft "early") 1 1) 1).1)) =
      some (some 1, ["late"], .error .assertionError) := by decide +kernel
  obtain ⟨s, hs, hfacts⟩ := Option.map_eq_some_iff.mp hrun
  simp only [Prod.mk.injEq] at hfacts
  obtain ⟨hheld, hissued, hfailed⟩ := hfacts
  obtain ⟨record, hrecord, -⟩ :=
    ((hkept.append_right hs).1 1 hheld (by rw [hissued]; decide)).returned
  cases hfailed.symm.trans hrecord

end Runs

end JoyMesh.Delivery
