import JoyMesh.ProviderRoutes.Exclusion

namespace JoyMesh.ProviderRoutes

open JoyMesh.Library

-- A status that a lease has; the other two only record a block.
def LeaseStatus.ofLease (status : LeaseStatus) : Bool :=
  status != .blocked && status != .blockCleared

theorem LeaseStatus.ofLease_of_held {status : LeaseStatus} (h : status.held = true) :
    status.ofLease = true := by
  cases status <;> first | rfl | cases h

-- Equal answers. A listing promises no order, and an error its reason code.
def Reply.Same : Reply → Reply → Prop
  | .leases first, .leases second => first.Perm second
  | .raised (.lease first), .raised (.lease second) => first.reasonCode = second.reasonCode
  | first, second => first = second

theorem Reply.same_refl (reply : Reply) : reply.Same reply := by
  cases reply with
  | leases found => exact List.Perm.refl _
  | raised failure => cases failure <;> rfl
  | _ => rfl

namespace LeaseTable

def Unused (t : LeaseTable) (rowId token : String) : Prop :=
  ∀ row, t.rows.lookup row.id = some row → row.id ≠ rowId ∧ row.leaseToken ≠ token

-- The blocked row of a key that is later than every other one.
structure LatestBlock (t : LeaseTable) (key : Key) (row : ProviderRouteLeaseRow) : Prop where
  stored : t.rows.lookup row.id = some row
  key_eq : row.key = key
  is_blocked : row.status = .blocked
  later : ∀ other, t.rows.lookup other.id = some other → other.key = key →
    other.status = .blocked → other.id = row.id ∨ other.acquiredAt < row.acquiredAt

end LeaseTable

-- The id is not the one of a block in either store.
def NamesLease (s : MemoryStore) (t : LeaseTable) (leaseId : String) : Prop :=
  (∀ lease, s.memory.lookup leaseId = some lease → lease.status.ofLease = true) ∧
    ∀ row, t.rows.lookup leaseId = some row → row.status.ofLease = true

-- The two parts of a key can be told apart again in the id of its block.
def OwnsBlockId (s : MemoryStore) (key : Key) : Prop :=
  ∀ lease, s.memory.lookup (MemoryStore.blockId key) = some lease → lease.key = key

-- The generated ids as uuid4 gives them: used in neither store and not of the
-- form that files a block.
def FreshIds (s : MemoryStore) (t : LeaseTable) (timed : TimedCall) : Prop :=
  match timed.call with
  | .tryAcquire leaseId token _ =>
      leaseId ≠ "" ∧ (∀ key, leaseId ≠ MemoryStore.blockId key) ∧
        s.memory.lookup leaseId = none ∧ t.Unused leaseId token
  | .blockConnector rowId token _ _ => s.memory.lookup rowId = none ∧ t.Unused rowId token
  | _ => True

-- The calls on which the two stores do the same.
def Agreeing (s : MemoryStore) (t : LeaseTable) (timed : TimedCall) : Prop :=
  match timed.call with
  | .renew leaseId _ _ _ => NamesLease s t leaseId ∧ t.RenewsInTime timed
  | .release leaseId _ _ => NamesLease s t leaseId
  | .get leaseId => NamesLease s t leaseId
  | .getActive key => ∀ row, t.activeRow key = some row →
      row.status = .active ∧ timed.now < row.expiresAt
  | .claimRecovery leaseId _ _ => NamesLease s t leaseId
  | .markRecovery leaseId _ _ _ => NamesLease s t leaseId ∧ s.ResolvesNamed timed
  | .blockConnector _ _ key _ => OwnsBlockId s key ∧
      ∀ row, t.rows.lookup row.id = some row → row.key = key → row.status = .blocked →
        row.acquiredAt < timed.now
  | .isBlocked key => OwnsBlockId s key
  | .clearBlock key => OwnsBlockId s key
  | _ => True

-- The memory store and the table hold the same leases; the marker column is the
-- status read another way; a block is filed once in memory, and is the latest
-- of its rows in the table.
structure Simulates (s : MemoryStore) (t : LeaseTable) : Prop where
  sound : s.Sound
  leases : ∀ id lease, lease.status.ofLease = true →
    (s.memory.lookup id = some lease ↔ (t.rows.lookup id).map (·.rowToLease) = some lease)
  marks : ∀ id row, t.rows.lookup id = some row → row.activeMarker = row.status.held
  unfiled : ∀ id lease, s.memory.lookup id = some lease → lease.status.ofLease = true →
    ∀ key, id ≠ MemoryStore.blockId key
  filed : ∀ id lease, s.memory.lookup id = some lease → lease.status.ofLease = false →
    lease.status = .blocked ∧ id = MemoryStore.blockId lease.key ∧
      ∃ row, t.LatestBlock lease.key row ∧ row.details = lease.details
  blocks : ∀ id row, t.rows.lookup id = some row → row.status = .blocked →
    ∃ lease, s.memory.lookup (MemoryStore.blockId row.key) = some lease ∧ lease.key = row.key ∧
      lease.status.ofLease = false

namespace LeaseTable

variable {t : LeaseTable} {key : Key} {row : ProviderRouteLeaseRow} {rowId token : String}

theorem insert_of_unused (row : ProviderRouteLeaseRow) (h : t.Unused row.id row.leaseToken)
    (hm : row.activeMarker = true → t.activeRow row.key = none) :
    ∃ next, t.insert row = some next ∧ next.rows = t.rows.insert row.id row := by
  have hfree : t.select row.clashes = [] := by
    refine Table.select_eq_nil_iff.mpr fun id other ho => ?_
    have hid := t.keyed id other ho
    have ho' : t.rows.lookup other.id = some other := hid.symm ▸ ho
    obtain ⟨hne, htok⟩ := h other ho'
    simp only [ProviderRouteLeaseRow.clashes, Bool.or_eq_false_iff, Bool.and_eq_false_iff,
      decide_eq_false_iff_not]
    refine ⟨⟨Ne.symm hne, Ne.symm htok⟩, ?_⟩
    by_cases hmark : row.activeMarker = true
    · by_cases hk : row.key = other.key
      · exact .inl (.inr (activeRow_eq_none_iff.mp (hm hmark) other ho' hk.symm))
      · exact .inr hk
    · exact .inl (.inl (by simpa using hmark))
  cases hi : t.insert row with
  | none => simp [insert, hfree] at hi
  | some next => exact ⟨next, rfl, (insert_eq_some hi).2⟩

theorem lookup_update_self (u : RowUpdate) (hl : t.rows.lookup rowId = some row) :
    (t.update row.id u).rows.lookup rowId = some (u.apply row) := by
  simp [lookup_update, hl]

theorem lookup_update_ne (u : RowUpdate) (hne : rowId ≠ row.id) :
    (t.update row.id u).rows.lookup rowId = t.rows.lookup rowId := by
  rw [lookup_update]
  cases hl : t.rows.lookup rowId with
  | none => rfl
  | some other => simp [t.keyed rowId other hl, hne]

-- A change that keeps the blocked rows of a key keeps which one is the latest.
theorem LatestBlock.congr {next : LeaseTable}
    (h : ∀ row, row.key = key → row.status = .blocked →
      (next.rows.lookup row.id = some row ↔ t.rows.lookup row.id = some row))
    (hlatest : t.LatestBlock key row) : next.LatestBlock key row where
  stored := (h row hlatest.key_eq hlatest.is_blocked).mpr hlatest.stored
  key_eq := hlatest.key_eq
  is_blocked := hlatest.is_blocked
  later other ho hk hb := hlatest.later other ((h other hk hb).mp ho) hk hb

theorem mem_blocking {other : ProviderRouteLeaseRow} :
    other ∈ t.select (fun row => decide (row.key = key) && decide (row.status = .blocked)) ↔
      t.rows.lookup other.id = some other ∧ other.key = key ∧ other.status = .blocked := by
  rw [mem_select, Bool.and_eq_true, decide_eq_true_iff, decide_eq_true_iff]

theorem LatestBlock.blockingRow_eq (h : t.LatestBlock key row) : t.blockingRow key = some row := by
  have hm := mem_blocking.mpr ⟨h.stored, h.key_eq, h.is_blocked⟩
  have hlast : ∀ other ∈ t.select
      (fun row => decide (row.key = key) && decide (row.status = .blocked)),
      other.id = row.id ∨ other.acquiredAt < row.acquiredAt := by
    intro other ho
    obtain ⟨hl, hk, hs⟩ := mem_blocking.mp ho
    exact h.later other hl hk hs
  cases hb : t.blockingRow key with
  | none =>
      have hnot := List.find?_eq_none.mp hb row hm
      simp only [List.all_eq_true, decide_eq_true_iff] at hnot
      refine absurd (fun other ho => ?_) hnot
      rcases hlast other ho with hid | hlt
      · have hl := (mem_blocking.mp ho).1
        rw [hid, h.stored, Option.some.injEq] at hl
        exact hl ▸ le_refl _
      · exact le_of_lt hlt
  | some first =>
      have hf := List.mem_of_find?_eq_some hb
      have hmax := List.find?_some hb
      simp only [List.all_eq_true, decide_eq_true_iff] at hmax
      rcases hlast first hf with hid | hlt
      · have hl := (mem_blocking.mp hf).1
        rw [hid, h.stored] at hl
        exact hl.symm
      · exact absurd (hmax row hm) (not_le.mpr hlt)

-- Clearing the block of one key leaves the blocked rows of the others.
theorem lookup_clearBlock_iff (hb : row.status = .blocked) (hk : row.key ≠ key) :
    (t.updateRows (.blockCleared key)).rows.lookup row.id = some row ↔
      t.rows.lookup row.id = some row := by
  rw [lookup_updateRows]
  cases hl : t.rows.lookup row.id with
  | none => simp
  | some other =>
      simp only [Option.map_some, Option.some.injEq, RowUpdate.blockCleared]
      split
      next hcleared =>
        constructor
        · rintro rfl
          cases hb
        · rintro rfl
          exact absurd hcleared.1 hk
      next => exact Iff.rfl

theorem blockingRow_eq_none (h : ∀ row, t.rows.lookup row.id = some row → row.key = key →
    row.status ≠ .blocked) : t.blockingRow key = none := by
  refine List.find?_eq_none.mpr fun row hm => ?_
  obtain ⟨hl, hk, hs⟩ := mem_blocking.mp hm
  exact absurd hs (h row hl hk)

end LeaseTable

namespace Simulates

variable {s : MemoryStore} {t : LeaseTable} {leaseId : String}

theorem empty : Simulates .empty .empty where
  sound := MemoryStore.empty_sound
  leases := by simp [MemoryStore.empty, LeaseTable.empty]
  marks := by simp [LeaseTable.empty]
  unfiled := by simp [MemoryStore.empty]
  filed := by simp [MemoryStore.empty]
  blocks := by simp [LeaseTable.empty]

theorem lookup_eq (h : Simulates s t) (hn : NamesLease s t leaseId) :
    s.memory.lookup leaseId = (t.rows.lookup leaseId).map (·.rowToLease) := by
  cases hs : s.memory.lookup leaseId with
  | some lease => exact ((h.leases leaseId lease (hn.1 lease hs)).mp hs).symm
  | none =>
      cases ht : t.rows.lookup leaseId with
      | none => rfl
      | some row =>
          have hm := (h.leases leaseId row.rowToLease (hn.2 row ht)).mpr (by simp [ht])
          rw [hs] at hm
          cases hm

-- A lease changes the same way in both stores, under the same id.
theorem revised (h : Simulates s t) {next : MemoryStore} {row : ProviderRouteLeaseRow}
    {u : RowUpdate} (hl : t.rows.lookup leaseId = some row) (hrow : row.status.ofLease = true)
    (hstatus : (u.apply row).status.ofLease = true)
    (hmark : (u.apply row).activeMarker = (u.apply row).status.held) (hsound : next.Sound)
    (hnext : next.memory = s.memory.insert leaseId (u.apply row).rowToLease) :
    Simulates next (t.update row.id u) := by
  have hid := t.keyed leaseId row hl
  have hold : s.memory.lookup leaseId = some row.rowToLease :=
    (h.leases leaseId row.rowToLease hrow).mpr (by simp [hl])
  have hblocked : ∀ other, other.status = .blocked →
      ((t.update row.id u).rows.lookup other.id = some other ↔
        t.rows.lookup other.id = some other) := by
    intro other hb
    by_cases he : other.id = leaseId
    · rw [he, LeaseTable.lookup_update_self u hl, hl]
      constructor
      · rintro hu
        rw [← Option.some.inj hu] at hb
        simp [hb, LeaseStatus.ofLease] at hstatus
      · rintro hu
        rw [← Option.some.inj hu] at hb
        simp [hb, LeaseStatus.ofLease] at hrow
    · rw [LeaseTable.lookup_update_ne u (hid.symm ▸ he)]
  have hmem : ∀ id, id ≠ leaseId → next.memory.lookup id = s.memory.lookup id := by
    intro id he
    rw [hnext, AList.lookup_insert_ne he]
  have hself : next.memory.lookup leaseId = some (u.apply row).rowToLease := by
    rw [hnext, AList.lookup_insert]
  refine ⟨hsound, ?_, ?_, ?_, ?_, ?_⟩
  · intro id lease hlease
    by_cases he : id = leaseId
    · subst he
      rw [hself, LeaseTable.lookup_update_self u hl, Option.map_some]
    · rw [hmem id he, LeaseTable.lookup_update_ne u (hid.symm ▸ he), h.leases id lease hlease]
  · intro id other ho
    by_cases he : id = leaseId
    · subst he
      rw [LeaseTable.lookup_update_self u hl] at ho
      rw [← Option.some.inj ho, hmark]
    · exact h.marks id other (LeaseTable.lookup_update_ne u (hid.symm ▸ he) ▸ ho)
  · intro id lease hlookup hlease
    by_cases he : id = leaseId
    · subst he
      exact h.unfiled id _ hold hrow
    · exact h.unfiled id lease (hmem id he ▸ hlookup) hlease
  · intro id lease hlookup hlease
    by_cases he : id = leaseId
    · subst he
      rw [hself, Option.some.injEq] at hlookup
      rw [← hlookup] at hlease
      exact absurd hstatus (by simp [show (u.apply row).status.ofLease = false from hlease])
    · obtain ⟨hb, hblock, latest, hlatest, hd⟩ := h.filed id lease (hmem id he ▸ hlookup) hlease
      exact ⟨hb, hblock, latest, hlatest.congr fun other _ => hblocked other, hd⟩
  · intro id other ho hb
    have hoid := (t.update row.id u).keyed id other ho
    have ho' := (hblocked other hb).mp (hoid.symm ▸ ho)
    obtain ⟨lease, hlookup, hk, hlease⟩ := h.blocks other.id other ho' hb
    refine ⟨lease, ?_, hk, hlease⟩
    rw [hmem _ fun he => ?_, hlookup]
    rw [he, hold] at hlookup
    rw [← Option.some.inj hlookup] at hlease
    exact absurd hrow (by simp [show row.status.ofLease = false from hlease])

-- The two answers to a call agree, and so do the stores after it.
def Stays (s : MemoryStore) (t : LeaseTable) (timed : TimedCall) : Prop :=
  (s.respond timed).1.Same (t.respond timed).1 ∧ Simulates (s.respond timed).2 (t.respond timed).2

theorem active_iff (h : Simulates s t) {row : ProviderRouteLeaseRow}
    (hl : t.rows.lookup leaseId = some row) :
    (row.status ≠ .active ∨ row.activeMarker = false) ↔ row.status ≠ .active := by
  rw [h.marks leaseId row hl, or_iff_left_iff_imp]
  rintro hheld hact
  rw [hact] at hheld
  cases hheld

theorem stays_renew (h : Simulates s t) (now : Time) (token owner : String) (ttl : Time)
    (hn : NamesLease s t leaseId) (htime : t.RenewsInTime ⟨now, .renew leaseId token owner ttl⟩) :
    Stays s t ⟨now, .renew leaseId token owner ttl⟩ := by
  have heq := h.lookup_eq hn
  have hsound := (MemoryStore.renew_change now leaseId token owner ttl).sound h.sound
  simp only [Stays, MemoryStore.respond, LeaseTable.respond, MemoryStore.memoryRenew,
    LeaseTable.dbRenew] at hsound ⊢
  cases hl : t.rows.lookup leaseId with
  | none =>
      simp only [heq, hl, Option.map_none]
      exact ⟨rfl, h⟩
  | some row =>
      simp only [heq, hl, Option.map_some, ProviderRouteLeaseRow.rowToLease_leaseToken,
        ProviderRouteLeaseRow.rowToLease_ownerExecutionId, h.active_iff hl,
        ProviderRouteLeaseRow.rowToLease_status,
        ProviderRouteLeaseRow.rowToLease_expiresAt] at hsound ⊢
      by_cases hto : row.leaseToken ≠ token ∨ row.ownerExecutionId ≠ owner
      · simp only [if_pos hto]
        exact ⟨rfl, h⟩
      by_cases hact : row.status ≠ .active
      · simp only [if_neg hto, if_pos hact]
        exact ⟨rfl, h⟩
      have hto' := not_or.mp hto
      have hlive := htime row hl (not_not.mp hto'.1) (not_not.mp hto'.2) (not_not.mp hact)
        (by rw [h.marks leaseId row hl, not_not.mp hact]; rfl)
      simp only [if_neg hto, if_neg hact, if_neg (not_le.mpr hlive)] at hsound ⊢
      exact ⟨rfl, h.revised hl (hn.2 row hl) (hn.2 row hl) (h.marks leaseId row hl) hsound rfl⟩

theorem stays_release (h : Simulates s t) (now : Time) (token owner : String)
    (hn : NamesLease s t leaseId) : Stays s t ⟨now, .release leaseId token owner⟩ := by
  have heq := h.lookup_eq hn
  have hsound := (MemoryStore.release_change h.sound now leaseId token owner).sound h.sound
  simp only [Stays, MemoryStore.respond, LeaseTable.respond, MemoryStore.memoryRelease,
    LeaseTable.dbRelease] at hsound ⊢
  cases hl : t.rows.lookup leaseId with
  | none =>
      simp only [heq, hl, Option.map_none]
      exact ⟨rfl, h⟩
  | some row =>
      simp only [heq, hl, Option.map_some, ProviderRouteLeaseRow.rowToLease_leaseToken,
        ProviderRouteLeaseRow.rowToLease_ownerExecutionId, h.active_iff hl,
        ProviderRouteLeaseRow.rowToLease_status] at hsound ⊢
      by_cases hto : row.leaseToken ≠ token ∨ row.ownerExecutionId ≠ owner
      · simp only [if_pos hto]
        exact ⟨rfl, h⟩
      by_cases hact : row.status ≠ .active
      · simp only [if_neg hto, if_pos hact]
        exact ⟨rfl, h⟩
      simp only [if_neg hto, if_neg hact] at hsound ⊢
      exact ⟨rfl, h.revised hl (hn.2 row hl) rfl rfl hsound rfl⟩

theorem named_iff (h : Simulates s t) {row : ProviderRouteLeaseRow}
    (hl : t.rows.lookup leaseId = some row) (hrow : row.status.ofLease = true) :
    s.memoryByKey.lookup row.key = some leaseId ↔ row.activeMarker = true := by
  have hs := (h.leases leaseId row.rowToLease hrow).mpr (by simp [hl])
  rw [h.marks leaseId row hl]
  constructor
  · intro hname
    obtain ⟨lease, hlookup, -, hheld⟩ := h.sound.named_held row.key leaseId hname
    obtain rfl := Option.some.inj (hs.symm.trans hlookup)
    exact hheld
  · exact h.sound.held_named leaseId row.rowToLease hs

theorem stays_claim (h : Simulates s t) (now : Time) (token owner : String)
    (hn : NamesLease s t leaseId) : Stays s t ⟨now, .claimRecovery leaseId token owner⟩ := by
  have heq := h.lookup_eq hn
  have hsound := (MemoryStore.claim_change h.sound now leaseId token owner).sound h.sound
  simp only [Stays, MemoryStore.respond, LeaseTable.respond, MemoryStore.memoryClaimRecovery,
    LeaseTable.dbClaimRecovery] at hsound ⊢
  cases hl : t.rows.lookup leaseId with
  | none =>
      simp only [heq, hl, Option.map_none]
      exact ⟨rfl, h⟩
  | some row =>
      have hname := h.named_iff hl (hn.2 row hl)
      simp only [heq, hl, Option.map_some, ProviderRouteLeaseRow.rowToLease_leaseToken,
        ProviderRouteLeaseRow.rowToLease_status, ProviderRouteLeaseRow.rowToLease_expiresAt,
        ProviderRouteLeaseRow.rowToLease_details,
        ProviderRouteLeaseRow.rowToLease_key] at hsound ⊢
      by_cases htok : row.leaseToken ≠ token
      · simp only [if_pos htok]
        exact ⟨rfl, h⟩
      by_cases hm : row.activeMarker = false
      · have hnot : s.memoryByKey.lookup row.key ≠ some leaseId := by
          rw [ne_eq, hname, hm]
          exact Bool.false_ne_true
        simp only [if_neg htok, if_pos hm, if_pos hnot]
        exact ⟨rfl, h⟩
      have hmark : row.activeMarker = true := by simpa using hm
      have hnot : ¬ s.memoryByKey.lookup row.key ≠ some leaseId := not_not.mpr (hname.mpr hmark)
      simp only [if_neg htok, if_neg hm, if_neg hnot] at hsound ⊢
      by_cases hlive : now < row.expiresAt ∧ row.status = .active
      · simp only [if_pos hlive]
        exact ⟨rfl, h⟩
      simp only [if_neg hlive] at hsound ⊢
      cases hc : claimedByOther row.status row.details owner with
      | error failure => exact ⟨Reply.same_refl _, h⟩
      | ok other =>
          cases other with
          | true => exact ⟨rfl, h⟩
          | false =>
              simp only [hc] at hsound ⊢
              exact ⟨rfl, h.revised hl (hn.2 row hl) rfl hmark hsound rfl⟩

theorem stays_mark (h : Simulates s t) (now : Time) (token status : String) (details : Mapping)
    (hn : NamesLease s t leaseId)
    (hc : s.ResolvesNamed ⟨now, .markRecovery leaseId token status details⟩) :
    Stays s t ⟨now, .markRecovery leaseId token status details⟩ := by
  have heq := h.lookup_eq hn
  have hsound := (MemoryStore.mark_change h.sound leaseId token status details hc).sound h.sound
  simp only [Stays, MemoryStore.respond, LeaseTable.respond, MemoryStore.markRecovery,
    LeaseTable.markRecovery] at hsound ⊢
  cases hl : t.rows.lookup leaseId with
  | none =>
      simp only [heq, hl, Option.map_none]
      exact ⟨rfl, h⟩
  | some row =>
      have hrow := hn.2 row hl
      simp only [heq, hl, Option.map_some,
        ProviderRouteLeaseRow.rowToLease_leaseToken] at hsound ⊢
      by_cases htok : row.leaseToken ≠ token
      · simp only [if_pos htok]
        exact ⟨rfl, h⟩
      simp only [if_neg htok] at hsound ⊢
      by_cases hr : resolves status = true
      · have happly : ((RowUpdate.marked now status details).apply row).rowToLease =
            { row.rowToLease with
              status := .expired
              recoveryStatus := some status
              details := row.details.update details } := by simp [RowUpdate.marked, hr]; rfl
        refine ⟨?_, h.revised hl hrow ?_ ?_ hsound ?_⟩
        · simp only [LeaseTable.committed, happly, if_pos hr]
          rfl
        · simp [RowUpdate.marked, hr, LeaseStatus.ofLease]
        · simp [RowUpdate.marked, hr, LeaseStatus.held]
        · simp only [happly, if_pos hr]
          rfl
      · have happly : ((RowUpdate.marked now status details).apply row).rowToLease =
            { row.rowToLease with
              recoveryStatus := some status
              details := row.details.update details } := by simp [RowUpdate.marked, hr]; rfl
        refine ⟨?_, h.revised hl hrow ?_ ?_ hsound ?_⟩
        · simp only [LeaseTable.committed, happly, if_neg hr]
          rfl
        · simpa [RowUpdate.marked, hr] using hrow
        · simpa [RowUpdate.marked, hr] using h.marks leaseId row hl
        · simp only [happly, if_neg hr]
          rfl

theorem keyHeld_iff (h : Simulates s t) {key : Key} :
    s.keyHeld key = true ↔ ∃ row, t.activeRow key = some row := by
  rw [h.sound.keyHeld_iff]
  constructor
  · rintro ⟨named, hn⟩
    obtain ⟨lease, hl, hk, hheld⟩ := h.sound.named_held key named hn
    have hrow := (h.leases named lease (LeaseStatus.ofLease_of_held hheld)).mp hl
    obtain ⟨row, hr, rfl⟩ := Option.map_eq_some_iff.mp hrow
    refine ⟨row, LeaseTable.activeRow_eq_some_iff.mpr ⟨t.keyed named row hr ▸ hr, hk, ?_⟩⟩
    rw [h.marks named row hr]
    exact hheld
  · rintro ⟨row, hr⟩
    obtain ⟨hl, hk, hm⟩ := LeaseTable.activeRow_eq_some_iff.mp hr
    rw [h.marks row.id row hl] at hm
    have hs := (h.leases row.id row.rowToLease (LeaseStatus.ofLease_of_held hm)).mpr (by simp [hl])
    exact ⟨row.id, hk ▸ h.sound.held_named row.id row.rowToLease hs hm⟩

-- A new lease is stored in both stores.
theorem taken (h : Simulates s t) {next : MemoryStore} {stored : LeaseTable}
    {row : ProviderRouteLeaseRow} (hrow : row.status.held = true) (hm : row.activeMarker = true)
    (hform : ∀ key, row.id ≠ MemoryStore.blockId key) (hfresh : s.memory.lookup row.id = none)
    (hunused : t.rows.lookup row.id = none) (hsound : next.Sound)
    (hnext : next.memory = s.memory.insert row.id row.rowToLease)
    (hstored : stored.rows = t.rows.insert row.id row) : Simulates next stored := by
  have hlease := LeaseStatus.ofLease_of_held hrow
  have hmem : ∀ id, id ≠ row.id → next.memory.lookup id = s.memory.lookup id := by
    intro id he
    rw [hnext, AList.lookup_insert_ne he]
  have htab : ∀ id, id ≠ row.id → stored.rows.lookup id = t.rows.lookup id := by
    intro id he
    rw [hstored, AList.lookup_insert_ne he]
  have hself : next.memory.lookup row.id = some row.rowToLease := by rw [hnext, AList.lookup_insert]
  have hrself : stored.rows.lookup row.id = some row := by rw [hstored, AList.lookup_insert]
  have hblocked : ∀ other, other.status = .blocked →
      (stored.rows.lookup other.id = some other ↔ t.rows.lookup other.id = some other) := by
    intro other hb
    by_cases he : other.id = row.id
    · rw [he, hrself, hunused]
      refine ⟨fun ho => ?_, fun ho => nomatch ho⟩
      rw [Option.some.inj ho, hb] at hrow
      cases hrow
    · rw [htab _ he]
  refine ⟨hsound, ?_, ?_, ?_, ?_, ?_⟩
  · intro id lease hl
    by_cases he : id = row.id
    · rw [he, hself, hrself, Option.map_some]
    · rw [hmem id he, htab id he, h.leases id lease hl]
  · intro id other ho
    by_cases he : id = row.id
    · rw [he, hrself, Option.some.injEq] at ho
      rw [← ho, hm, hrow]
    · exact h.marks id other (htab id he ▸ ho)
  · intro id lease hl hof
    by_cases he : id = row.id
    · exact he ▸ hform
    · exact h.unfiled id lease (hmem id he ▸ hl) hof
  · intro id lease hl hof
    by_cases he : id = row.id
    · rw [he, hself, Option.some.injEq] at hl
      rw [← hl, ProviderRouteLeaseRow.rowToLease_status, hlease] at hof
      cases hof
    · obtain ⟨hb, hid, latest, hlatest, hd⟩ := h.filed id lease (hmem id he ▸ hl) hof
      exact ⟨hb, hid, latest, hlatest.congr fun other _ => hblocked other, hd⟩
  · intro id other ho hb
    have hoid := stored.keyed id other ho
    obtain ⟨lease, hl, hk, hof⟩ :=
      h.blocks other.id other ((hblocked other hb).mp (hoid.symm ▸ ho)) hb
    refine ⟨lease, ?_, hk, hof⟩
    rw [hmem _ fun he => ?_, hl]
    rw [he, hfresh] at hl
    cases hl

theorem stays_acquire (h : Simulates s t) (now : Time) (token : String) (request : AcquireRequest)
    (hfresh : FreshIds s t ⟨now, .tryAcquire leaseId token request⟩) :
    Stays s t ⟨now, .tryAcquire leaseId token request⟩ := by
  obtain ⟨hne, hform, hnone, hunused⟩ := hfresh
  simp only [Stays, MemoryStore.respond, LeaseTable.respond, MemoryStore.memoryAcquire,
    LeaseTable.dbAcquire]
  cases ha : t.activeRow (request.lease now leaseId token).key with
  | some row =>
      rw [if_pos (h.keyHeld_iff.mpr ⟨row, ha⟩)]
      exact ⟨rfl, h⟩
  | none =>
      have hfree : ¬ s.keyHeld (request.lease now leaseId token).key = true := by
        rw [h.keyHeld_iff, ha]
        simp
      rw [if_neg hfree]
      obtain ⟨stored, hins, hrows⟩ := LeaseTable.insert_of_unused
        (.ofLease (request.lease now leaseId token)) hunused (fun _ => ha)
      have htnone : t.rows.lookup leaseId = none := by
        refine Option.eq_none_iff_forall_ne_some.mpr fun row hr => ?_
        have hid := t.keyed leaseId row hr
        exact (hunused row (hid.symm ▸ hr)).1 hid
      have hindex : s.memoryByKey.lookup (request.lease now leaseId token).key = none :=
        Option.eq_none_iff_forall_ne_some.mpr fun named hn =>
          hfree (h.sound.keyHeld_iff.mpr ⟨named, hn⟩)
      have hsound := @MemoryStore.Sound.taken s (request.lease now leaseId token) h.sound hne rfl hnone hindex
      simp only [hins]
      exact ⟨rfl, h.taken rfl rfl hform hnone htnone hsound rfl hrows⟩

theorem stays_get (h : Simulates s t) (now : Time) (hn : NamesLease s t leaseId) :
    Stays s t ⟨now, .get leaseId⟩ := by
  refine ⟨?_, h⟩
  simp only [MemoryStore.respond, LeaseTable.respond, MemoryStore.get, LeaseTable.get,
    h.lookup_eq hn]
  exact Reply.same_refl _

theorem stays_getActive (h : Simulates s t) (now : Time) (key : Key)
    (hlive : ∀ row, t.activeRow key = some row → row.status = .active ∧ now < row.expiresAt) :
    Stays s t ⟨now, .getActive key⟩ := by
  refine ⟨?_, h⟩
  simp only [MemoryStore.respond, LeaseTable.respond, MemoryStore.getActive, LeaseTable.getActive]
  cases ha : t.activeRow key with
  | none =>
      have hnone : s.memoryByKey.lookup key = none := by
        refine Option.eq_none_iff_forall_ne_some.mpr fun named hn => ?_
        obtain ⟨row, hr⟩ := h.keyHeld_iff.mp (h.sound.keyHeld_iff.mpr ⟨named, hn⟩)
        rw [ha] at hr
        cases hr
      simp only [hnone]
      rfl
  | some row =>
      obtain ⟨hl, hk, hm⟩ := LeaseTable.activeRow_eq_some_iff.mp ha
      obtain ⟨hact, htime⟩ := hlive row ha
      have hof : row.status.ofLease = true := by rw [hact]; rfl
      have hs := (h.leases row.id row.rowToLease hof).mpr (by simp [hl])
      have hname := hk ▸ (h.named_iff hl hof).mpr hm
      simp only [hname, if_neg (h.sound.keyed row.id _ hs).2, hs,
        ProviderRouteLeaseRow.rowToLease_status, hact, ne_eq, not_true_eq_false, if_false,
        ProviderRouteLeaseRow.rowToLease_expiresAt, not_le.mpr htime]
      rfl

theorem stays_list (h : Simulates s t) (now : Time) (moment : Option Time) :
    Stays s t ⟨now, .listExpiredActive moment⟩ := by
  refine ⟨?_, h⟩
  have hs : (s.listExpiredActive (moment.getD now)).Nodup :=
    Table.select_nodup ProviderRouteLease.leaseId (fun id lease hl => (h.sound.keyed id lease hl).1) _
  have ht : (t.listExpiredActive (moment.getD now)).Nodup := by
    refine List.Nodup.map_on ?_ (Table.select_nodup ProviderRouteLeaseRow.id t.keyed _)
    intro row hr other ho he
    obtain ⟨hr, -⟩ := LeaseTable.mem_select.mp hr
    obtain ⟨ho, -⟩ := LeaseTable.mem_select.mp ho
    have hid : row.id = other.id := congrArg ProviderRouteLease.leaseId he
    rw [hid, ho] at hr
    exact (Option.some.inj hr).symm
  refine (List.perm_ext_iff_of_nodup hs ht).mpr fun lease => ?_
  simp only [MemoryStore.listExpiredActive, LeaseTable.listExpiredActive, Table.mem_select,
    List.mem_map, LeaseTable.mem_select, Bool.and_eq_true, decide_eq_true_iff]
  constructor
  · rintro ⟨⟨id, hl⟩, ⟨hheld, htime⟩, -⟩
    have hrow := (h.leases id lease (LeaseStatus.ofLease_of_held hheld)).mp hl
    obtain ⟨row, hr, rfl⟩ := Option.map_eq_some_iff.mp hrow
    have hm : row.activeMarker = true := (h.marks id row hr).trans hheld
    exact ⟨row, ⟨t.keyed id row hr ▸ hr, ⟨hm, hheld⟩, htime⟩, rfl⟩
  · rintro ⟨row, ⟨hr, ⟨hm, hheld⟩, htime⟩, rfl⟩
    have hof := LeaseStatus.ofLease_of_held hheld
    have hs := (h.leases row.id row.rowToLease hof).mpr (by simp [hr])
    exact ⟨⟨row.id, hs⟩, ⟨hheld, htime⟩, (h.named_iff hr hof).mpr hm⟩

-- What the memory files under the id of a block is that block.
theorem filed_block (h : Simulates s t) {key : Key} {lease : ProviderRouteLease}
    (hl : s.memory.lookup (MemoryStore.blockId key) = some lease) : lease.status.ofLease = false := by
  by_contra hof
  exact h.unfiled _ lease hl (by simpa using hof) key rfl

theorem not_held_block (h : Simulates s t) (key : Key) (lease : ProviderRouteLease)
    (hl : s.memory.lookup (MemoryStore.blockId key) = some lease) : lease.status.held = false := by
  rw [(h.filed _ lease hl (h.filed_block hl)).1]
  rfl

theorem stays_isBlocked (h : Simulates s t) (now : Time) (key : Key) (hown : OwnsBlockId s key) :
    Stays s t ⟨now, .isBlocked key⟩ := by
  refine ⟨?_, h⟩
  simp only [MemoryStore.respond, LeaseTable.respond, MemoryStore.isBlocked, LeaseTable.isBlocked]
  cases hl : s.memory.lookup (MemoryStore.blockId key) with
  | none =>
      have hnone : t.blockingRow key = none := by
        refine LeaseTable.blockingRow_eq_none fun row hr hk hb => ?_
        obtain ⟨lease, hlease, -⟩ := h.blocks row.id row hr hb
        rw [hk, hl] at hlease
        cases hlease
      simp only [hnone]
      rfl
  | some lease =>
      obtain ⟨hb, -, row, hlatest, hd⟩ := h.filed _ lease hl (h.filed_block hl)
      rw [hown lease hl] at hlatest
      simp only [hb, if_true, hlatest.blockingRow_eq, Option.map_some, hd]
      rfl

theorem stays_block (h : Simulates s t) (now : Time) (rowId token : String) (key : Key)
    (reason : String) (hfresh : FreshIds s t ⟨now, .blockConnector rowId token key reason⟩)
    (hown : OwnsBlockId s key)
    (hlater : ∀ row, t.rows.lookup row.id = some row → row.key = key → row.status = .blocked →
      row.acquiredAt < now) : Stays s t ⟨now, .blockConnector rowId token key reason⟩ := by
  obtain ⟨hnone, hunused⟩ := hfresh
  let row := ProviderRouteLeaseRow.blockRow now rowId token key reason
  let block := MemoryStore.blockLease now key reason
  obtain ⟨stored, hins, hrows⟩ := LeaseTable.insert_of_unused row hunused
    (fun hm => by cases hm)
  have htnone : t.rows.lookup rowId = none := by
    refine Option.eq_none_iff_forall_ne_some.mpr fun other ho => ?_
    have hid := t.keyed rowId other ho
    exact (hunused other (hid.symm ▸ ho)).1 hid
  have hne : MemoryStore.blockId key ≠ "" := by
    intro he
    have hlen := congrArg String.length he
    simp [MemoryStore.blockId, String.length_append] at hlen
  simp only [Stays, MemoryStore.respond, LeaseTable.respond, MemoryStore.blockConnector,
    LeaseTable.blockConnector]
  rw [show t.insert (.blockRow now rowId token key reason) = some stored from hins]
  refine ⟨rfl, ?_⟩
  have hmem : ∀ id, id ≠ MemoryStore.blockId key →
      (s.put block).memory.lookup id = s.memory.lookup id :=
    fun id he => AList.lookup_insert_ne he
  have hself : (s.put block).memory.lookup (MemoryStore.blockId key) = some block :=
    AList.lookup_insert _
  have htab : ∀ id, id ≠ rowId → stored.rows.lookup id = t.rows.lookup id := by
    intro id he
    rw [hrows]
    exact AList.lookup_insert_ne he
  have hrself : stored.rows.lookup rowId = some row := by
    rw [hrows]
    exact AList.lookup_insert _
  refine ⟨h.sound.filed hne rfl (h.not_held_block key), ?_, ?_, ?_, ?_, ?_⟩
  · intro id lease hof
    by_cases hid : id = rowId
    · subst hid
      have hleft : (s.put block).memory.lookup id ≠ some lease := by
        intro hl
        by_cases he : id = MemoryStore.blockId key
        · rw [he, hself, Option.some.injEq] at hl
          rw [← hl] at hof
          cases hof
        · rw [hmem id he, hnone] at hl
          cases hl
      refine ⟨fun hl => absurd hl hleft, fun hl => ?_⟩
      rw [hrself, Option.map_some, Option.some.injEq] at hl
      rw [← hl] at hof
      cases hof
    · rw [htab id hid]
      by_cases he : id = MemoryStore.blockId key
      · refine ⟨fun hl => ?_, fun hl => ?_⟩
        · rw [he, hself, Option.some.injEq] at hl
          rw [← hl] at hof
          cases hof
        · exact absurd he (h.unfiled id lease ((h.leases id lease hof).mpr hl) hof key)
      · rw [hmem id he, h.leases id lease hof]
  · intro id other ho
    by_cases hid : id = rowId
    · rw [hid, hrself, Option.some.injEq] at ho
      rw [← ho]
      rfl
    · exact h.marks id other (htab id hid ▸ ho)
  · intro id lease hl hof
    by_cases he : id = MemoryStore.blockId key
    · rw [he, hself, Option.some.injEq] at hl
      rw [← hl] at hof
      cases hof
    · exact h.unfiled id lease (hmem id he ▸ hl) hof
  · intro id lease hl hof
    by_cases he : id = MemoryStore.blockId key
    · rw [he, hself, Option.some.injEq] at hl
      subst hl
      refine ⟨rfl, he, row, ⟨hrself, rfl, rfl, fun other ho hk hb => ?_⟩, rfl⟩
      by_cases hid : other.id = rowId
      · exact .inl hid
      · exact .inr (hlater other (htab _ hid ▸ ho) hk hb)
    · obtain ⟨hb, hid, latest, hlatest, hd⟩ := h.filed id lease (hmem id he ▸ hl) hof
      refine ⟨hb, hid, latest, hlatest.congr fun other hk _ => ?_, hd⟩
      have hkey : lease.key ≠ key := fun hk => he (hk ▸ hid)
      by_cases hoid : other.id = rowId
      · rw [hoid, hrself, htnone]
        refine ⟨fun ho => ?_, fun ho => by cases ho⟩
        rw [← Option.some.inj ho] at hk
        exact absurd hk.symm hkey
      · rw [htab _ hoid]
  · intro id other ho hb
    by_cases hid : id = rowId
    · rw [hid, hrself, Option.some.injEq] at ho
      subst ho
      exact ⟨block, hself, rfl, rfl⟩
    · obtain ⟨lease, hl, hk, hof⟩ := h.blocks id other (htab id hid ▸ ho) hb
      by_cases he : MemoryStore.blockId other.key = MemoryStore.blockId key
      · have hkey : other.key = key := hk.symm.trans (hown lease (he ▸ hl))
        exact ⟨block, by rw [he, hself], hkey.symm, rfl⟩
      · exact ⟨lease, (hmem _ he).trans hl, hk, hof⟩

theorem stays_clear (h : Simulates s t) (now : Time) (key : Key) (hown : OwnsBlockId s key) :
    Stays s t ⟨now, .clearBlock key⟩ := by
  refine ⟨rfl, ?_⟩
  simp only [MemoryStore.respond, LeaseTable.respond, MemoryStore.clearBlock, LeaseTable.clearBlock]
  have hmem : ∀ id, id ≠ MemoryStore.blockId key →
      (s.memory.erase (MemoryStore.blockId key)).lookup id = s.memory.lookup id :=
    fun id he => AList.lookup_erase_ne he
  have hgone : (s.memory.erase (MemoryStore.blockId key)).lookup (MemoryStore.blockId key) = none :=
    AList.lookup_erase _ _
  refine ⟨h.sound.removed (h.not_held_block key), ?_, ?_, ?_, ?_, ?_⟩
  · intro id lease hof
    have hrow : ((t.updateRows (.blockCleared key)).rows.lookup id).map (·.rowToLease) = some lease ↔
        (t.rows.lookup id).map (·.rowToLease) = some lease := by
      rw [LeaseTable.lookup_updateRows]
      cases hl : t.rows.lookup id with
      | none => simp
      | some row =>
          simp only [Option.map_some, Option.some.injEq, RowUpdate.blockCleared]
          split
          next hb =>
            constructor
            · rintro rfl
              cases hof
            · rintro rfl
              simp [hb.2, LeaseStatus.ofLease] at hof
          next => exact Iff.rfl
    rw [hrow, ← h.leases id lease hof]
    by_cases he : id = MemoryStore.blockId key
    · rw [he, hgone]
      refine ⟨(fun hl => by cases hl), fun hl => ?_⟩
      exact absurd rfl (h.unfiled _ lease hl hof key)
    · rw [hmem id he]
  · intro id other ho
    rw [LeaseTable.lookup_updateRows, Option.map_eq_some_iff] at ho
    obtain ⟨row, hr, rfl⟩ := ho
    have hm := h.marks id row hr
    simp only [RowUpdate.blockCleared]
    split
    next hb =>
      rw [hb.2] at hm
      exact hm
    next => exact hm
  · intro id lease hl hof
    by_cases he : id = MemoryStore.blockId key
    · rw [he, hgone] at hl
      cases hl
    · exact h.unfiled id lease (hmem id he ▸ hl) hof
  · intro id lease hl hof
    by_cases he : id = MemoryStore.blockId key
    · rw [he, hgone] at hl
      cases hl
    · obtain ⟨hb, hid, latest, hlatest, hd⟩ := h.filed id lease (hmem id he ▸ hl) hof
      refine ⟨hb, hid, latest, hlatest.congr fun other hk hblocked => ?_, hd⟩
      have hkey : other.key ≠ key := fun hk' => he (by rw [hid, ← hk, hk'])
      exact LeaseTable.lookup_clearBlock_iff hblocked hkey
  · intro id other ho hb
    have hoid := (t.updateRows (.blockCleared key)).keyed id other ho
    rw [LeaseTable.lookup_updateRows, Option.map_eq_some_iff] at ho
    obtain ⟨row, hr, hu⟩ := ho
    have hrow : row = other ∧ row.key ≠ key := by
      simp only [RowUpdate.blockCleared] at hu
      split at hu
      next =>
        rw [← hu] at hb
        cases hb
      next hno => exact ⟨hu, fun hk => hno ⟨hk, hu ▸ hb⟩⟩
    obtain ⟨rfl, hkey⟩ := hrow
    obtain ⟨lease, hl, hk, hof⟩ := h.blocks id row hr hb
    refine ⟨lease, (hmem _ fun he => ?_).trans hl, hk, hof⟩
    exact hkey (hk.symm.trans (hown lease (he ▸ hl)))

theorem stays (h : Simulates s t) {timed : TimedCall} (hfresh : FreshIds s t timed)
    (hc : Agreeing s t timed) : Stays s t timed := by
  obtain ⟨now, call⟩ := timed
  cases call with
  | tryAcquire leaseId token request => exact h.stays_acquire now token request hfresh
  | renew leaseId token owner ttl => exact h.stays_renew now token owner ttl hc.1 hc.2
  | release leaseId token owner => exact h.stays_release now token owner hc
  | get leaseId => exact h.stays_get now hc
  | getActive key => exact h.stays_getActive now key hc
  | listExpiredActive moment => exact h.stays_list now moment
  | claimRecovery leaseId token owner => exact h.stays_claim now token owner hc
  | markRecovery leaseId token status details => exact h.stays_mark now token status details hc.1 hc.2
  | blockConnector rowId token key reason =>
      exact h.stays_block now rowId token key reason hfresh hc.1 hc.2
  | isBlocked key => exact h.stays_isBlocked now key hc
  | clearBlock key => exact h.stays_clear now key hc

end Simulates

-- Call by call the memory store and the database give equal answers.
theorem stores_equivalent (calls : List TimedCall)
    (hfresh : PairAlong MemoryStore.respond LeaseTable.respond FreshIds .empty .empty calls)
    (hc : PairAlong MemoryStore.respond LeaseTable.respond Agreeing .empty .empty calls) :
    List.Forall₂ Reply.Same (responses MemoryStore.respond .empty calls)
      (responses LeaseTable.respond .empty calls) :=
  responses_matched (fun _ _ _ h hboth => h.stays hboth.1 hboth.2) Simulates.empty (hfresh.and hc)

section Runs

-- A lease is asked for after it has expired.
def expiredRead : List TimedCall := [firstGrant, ⟨20, .getActive ("fireconnect", "codex")⟩]

theorem unused_empty (rowId token : String) : LeaseTable.empty.Unused rowId token := by
  simp [LeaseTable.Unused, LeaseTable.empty]

theorem ne_blockId {id : String} (h : id.toList.head? ≠ some 'b') (key : Key) :
    id ≠ MemoryStore.blockId key := by
  rintro rfl
  simp [MemoryStore.blockId] at h

theorem freshIds_firstGrant : FreshIds .empty .empty firstGrant :=
  ⟨by decide, ne_blockId (by simp), rfl, unused_empty _ _⟩

theorem stores_differ :
    PairAlong MemoryStore.respond LeaseTable.respond FreshIds .empty .empty expiredRead ∧
    (expiredRead.map TimedCall.now).Pairwise (· ≤ ·) ∧
    ¬ List.Forall₂ Reply.Same (responses MemoryStore.respond .empty expiredRead)
      (responses LeaseTable.respond .empty expiredRead) := by
  refine ⟨⟨freshIds_firstGrant, trivial, trivial⟩, by decide, fun h => ?_⟩
  cases h with
  | cons _ hrest =>
      cases hrest with
      | cons hread _ =>
          change Reply.lease none = Reply.lease (some _) at hread
          cases hread

instance {t : LeaseTable} {rowId token : String} : Decidable (t.Unused rowId token) :=
  decidable_of_iff (∀ row ∈ t.select fun _ => true, row.id ≠ rowId ∧ row.leaseToken ≠ token) (by
    simp [LeaseTable.Unused, LeaseTable.mem_select])

instance {s : MemoryStore} {t : LeaseTable} {leaseId : String} :
    Decidable (NamesLease s t leaseId) :=
  inferInstanceAs (Decidable ((∀ lease ∈ s.memory.lookup leaseId, lease.status.ofLease = true) ∧
    ∀ row ∈ t.rows.lookup leaseId, row.status.ofLease = true))

instance {s : MemoryStore} {key : Key} : Decidable (OwnsBlockId s key) :=
  inferInstanceAs (Decidable
    (∀ lease ∈ s.memory.lookup (MemoryStore.blockId key), lease.key = key))

instance {t : LeaseTable} {key : Key} {now : Time} :
    Decidable (∀ row, t.rows.lookup row.id = some row → row.key = key → row.status = .blocked →
      row.acquiredAt < now) :=
  decidable_of_iff (∀ row ∈ t.select fun _ => true, row.key = key → row.status = .blocked →
    row.acquiredAt < now) (by simp [LeaseTable.mem_select])

instance {t : LeaseTable} {key : Key} {now : Time} :
    Decidable (∀ row, t.activeRow key = some row → row.status = .active ∧ now < row.expiresAt) :=
  inferInstanceAs (Decidable (∀ row ∈ t.activeRow key, row.status = .active ∧ now < row.expiresAt))

instance {s : MemoryStore} {t : LeaseTable} (timed : TimedCall) : Decidable (Agreeing s t timed) := by
  obtain ⟨now, call⟩ := timed
  cases call <;> dsimp only [Agreeing] <;> infer_instance

-- A lease is renewed, looked up and released, the next one expires and is
-- recovered, and then the connector is blocked until the block is cleared.
def agreedCalls : List TimedCall :=
  [firstGrant, ⟨5, .renew "lease-1" "token-1" "exec" 10⟩, ⟨6, .getActive ("fireconnect", "codex")⟩,
    ⟨7, .release "lease-1" "token-1" "exec"⟩, ⟨8, .get "lease-1"⟩,
    ⟨9, .tryAcquire "lease-2" "token-2" sampleRequest⟩,
    ⟨30, .claimRecovery "lease-2" "token-2" "recovery:1"⟩,
    ⟨31, .markRecovery "lease-2" "token-2" "restored_verified" ∅⟩,
    ⟨32, .blockConnector "row-3" "token-3" ("fireconnect", "codex") "not restored"⟩,
    ⟨33, .isBlocked ("fireconnect", "codex")⟩, ⟨34, .clearBlock ("fireconnect", "codex")⟩,
    ⟨35, .isBlocked ("fireconnect", "codex")⟩]

theorem stores_equivalent_sample :
    List.Forall₂ Reply.Same (responses MemoryStore.respond .empty agreedCalls)
      (responses LeaseTable.respond .empty agreedCalls) := by
  have hagreeing : PairAlong MemoryStore.respond LeaseTable.respond Agreeing .empty .empty
      agreedCalls := by decide +kernel
  refine stores_equivalent agreedCalls ⟨freshIds_firstGrant, trivial, trivial, trivial, trivial,
    ⟨by decide, ne_blockId (by simp), by decide +kernel, by decide +kernel⟩, trivial, trivial,
    ⟨by decide +kernel, by decide +kernel⟩, trivial, trivial, trivial, trivial⟩ hagreeing

end Runs

end JoyMesh.ProviderRoutes
