import JoyMesh.ProviderRoutes.Database

namespace JoyMesh.ProviderRoutes

open JoyMesh.Library

-- What a row never changes after it was inserted.
structure Grant where
  key : Key
  owner : String
  token : String
  original : Mapping
  restoreOnExpiry : Value
deriving DecidableEq

def ProviderRouteLease.grant (lease : ProviderRouteLease) : Grant where
  key := lease.key
  owner := lease.ownerExecutionId
  token := lease.leaseToken
  original := lease.originalState
  restoreOnExpiry := lease.details.get "restore_on_expiry"

def ProviderRouteLeaseRow.grant (row : ProviderRouteLeaseRow) : Grant := row.rowToLease.grant

-- The row records a lease, not a block.
def ProviderRouteLeaseRow.ofLeaseCall (row : ProviderRouteLeaseRow) : Prop :=
  row.status ≠ .blocked ∧ row.status ≠ .blockCleared

-- The row whose state a call can change.
def LeaseCall.target : LeaseCall → Option String
  | renew leaseId _ _ _ => some leaseId
  | release leaseId _ _ => some leaseId
  | claimRecovery leaseId _ _ => some leaseId
  | markRecovery leaseId _ _ _ => some leaseId
  | _ => none

-- No recovery mark changes whether a lease is restored on expiry.
def LeaseCall.Plain : LeaseCall → Prop
  | markRecovery _ _ _ details => details.lookup "restore_on_expiry" = none
  | _ => True

theorem Mapping.get_update_of_none (first : Mapping) {second : Mapping} {key : String}
    (h : second.lookup key = none) : (first.update second).get key = first.get key := by
  have hnot : key ∉ second := Finmap.lookup_eq_none.mp h
  rw [Mapping.get, Mapping.update, Finmap.lookup_union_right hnot, Mapping.get]

theorem Mapping.get_update_of_some (first : Mapping) {second : Mapping} {key : String}
    {value : Value} (h : second.lookup key = some value) : (first.update second).get key = value := by
  have hmem := Finmap.mem_of_lookup_eq_some h
  rw [Mapping.get, Mapping.update, Finmap.lookup_union_left hmem, h, Option.getD_some]

-- A change that keeps the grant of a row, and its being a lease.
structure RowUpdate.Keeps (u : RowUpdate) (row : ProviderRouteLeaseRow) : Prop where
  grant : (u.apply row).grant = row.grant
  ofLease : row.ofLeaseCall → (u.apply row).ofLeaseCall

namespace RowUpdate

variable (row : ProviderRouteLeaseRow)

theorem renewed_keeps (now ttl : Time) : (renewed now ttl).Keeps row := ⟨rfl, fun h => h⟩

theorem expired_keeps : expired.Keeps row := ⟨rfl, fun _ => ⟨nofun, nofun⟩⟩

theorem released_keeps (now : Time) : (released now).Keeps row := ⟨rfl, fun _ => ⟨nofun, nofun⟩⟩

theorem claimed_keeps (now : Time) (owner : String) : (claimed now owner).Keeps row where
  grant := by
    have hnone : (Mapping.ofList [("recovery_owner_id", .str owner)]).lookup "restore_on_expiry" =
        none := rfl
    have hflag := Mapping.get_update_of_none row.details hnone
    simp only [ProviderRouteLeaseRow.grant, ProviderRouteLease.grant, claimed,
      ProviderRouteLeaseRow.rowToLease_details, hflag]
    rfl
  ofLease _ := ⟨nofun, nofun⟩

theorem marked_keeps (now : Time) (status : String) {details : Mapping}
    (h : details.lookup "restore_on_expiry" = none) : (marked now status details).Keeps row where
  grant := by
    have hflag := Mapping.get_update_of_none row.details h
    simp only [ProviderRouteLeaseRow.grant, ProviderRouteLease.grant, marked]
    split <;> simp only [ProviderRouteLeaseRow.rowToLease_details, hflag] <;> rfl
  ofLease hrow := by
    simp only [marked]
    split
    · exact ⟨nofun, nofun⟩
    · exact hrow

theorem blockCleared_keeps (key : Key) : (blockCleared key).Keeps row where
  grant := by
    simp only [blockCleared]
    split <;> rfl
  ofLease hrow := by
    simp only [blockCleared]
    split
    next h => exact absurd h.2 hrow.1
    next => exact hrow

theorem onRow_keeps {rowId : String} {u : RowUpdate} (h : row.id = rowId → u.Keeps row) :
    (u.onRow rowId).Keeps row := by
  by_cases he : row.id = rowId
  · have hu := h he
    exact ⟨by simpa [onRow, he] using hu.grant, by simpa [onRow, he] using hu.ofLease⟩
  · exact ⟨by simp [onRow, he], by simp [onRow, he]⟩

end RowUpdate

namespace LeaseTable

-- The rows after a call: each of them was there before under the same grant, or
-- the call inserted it.
inductive Effect (t : LeaseTable) (timed : TimedCall) : LeaseTable → Prop
  | kept : Effect t timed t
  | granted {leaseId token : String} {request : AcquireRequest} {next : LeaseTable}
      (hcall : timed.call = .tryAcquire leaseId token request)
      (hfree : t.activeRow request.key = none)
      (h : t.insert (.ofLease (request.lease timed.now leaseId token)) = some next) :
      Effect t timed next
  | blocked {rowId token reason : String} {key : Key} {next : LeaseTable}
      (hcall : timed.call = .blockConnector rowId token key reason)
      (h : t.insert (.blockRow timed.now rowId token key reason) = some next) :
      Effect t timed next
  | changed {row : ProviderRouteLeaseRow} {u : RowUpdate}
      (hcall : timed.call.target = some row.id) (hl : t.rows.lookup row.id = some row)
      (hu : u.Keeps row) : Effect t timed (t.update row.id u)
  | cleared {key : Key} (hcall : timed.call = .clearBlock key) :
      Effect t timed (t.updateRows (.blockCleared key))

variable {t next : LeaseTable} {timed : TimedCall} {id : String} {row : ProviderRouteLeaseRow}

theorem effect_respond (hplain : timed.call.Plain) : Effect t timed (t.respond timed).2 := by
  obtain ⟨now, call⟩ := timed
  cases call with
  | tryAcquire leaseId token request =>
      simp only [respond, dbAcquire]
      split
      · exact .kept
      next hfree =>
        split
        · exact .kept
        next h => exact .granted rfl hfree h
  | renew leaseId token owner ttl =>
      simp only [respond, dbRenew]
      split
      · exact .kept
      next row hl =>
        obtain rfl := t.keyed leaseId row hl
        split
        · exact .kept
        split
        · exact .kept
        split
        · exact .changed rfl hl (RowUpdate.expired_keeps row)
        · exact .changed rfl hl (RowUpdate.renewed_keeps row now ttl)
  | release leaseId token owner =>
      simp only [respond, dbRelease]
      split
      · exact .kept
      next row hl =>
        obtain rfl := t.keyed leaseId row hl
        split
        · exact .kept
        split
        · exact .kept
        · exact .changed rfl hl (RowUpdate.released_keeps row now)
  | claimRecovery leaseId token owner =>
      simp only [respond, dbClaimRecovery]
      split
      · exact .kept
      next row hl =>
        obtain rfl := t.keyed leaseId row hl
        split
        · exact .kept
        split
        · exact .kept
        split
        · exact .kept
        split
        · exact .kept
        · exact .kept
        · exact .changed rfl hl (RowUpdate.claimed_keeps row now owner)
  | markRecovery leaseId token status details =>
      simp only [respond, markRecovery]
      split
      · exact .kept
      next row hl =>
        obtain rfl := t.keyed leaseId row hl
        split
        · exact .kept
        · exact .changed rfl hl (RowUpdate.marked_keeps row now status hplain)
  | blockConnector rowId token key reason =>
      simp only [respond, blockConnector]
      split
      · exact .kept
      next h => exact .blocked rfl h
  | clearBlock key => exact .cleared rfl
  | get => exact .kept
  | getActive => exact .kept
  | listExpiredActive => exact .kept
  | isBlocked => exact .kept

theorem lookup_insert_of_lookup {added : ProviderRouteLeaseRow} (h : t.insert added = some next)
    (hl : t.rows.lookup id = some row) : next.rows.lookup id = some row := by
  obtain ⟨hfree, hrows⟩ := insert_eq_some h
  have hne : id ≠ added.id := by
    rintro rfl
    have hc := Table.select_eq_nil_iff.mp hfree _ row hl
    simp [ProviderRouteLeaseRow.clashes, t.keyed _ row hl] at hc
  rw [hrows, AList.lookup_insert_ne hne, hl]

-- No call removes a row or changes what it grants.
theorem Effect.old (h : Effect t timed next) (hl : t.rows.lookup id = some row) :
    ∃ after, next.rows.lookup id = some after ∧ after.grant = row.grant ∧
      (row.ofLeaseCall → after.ofLeaseCall) := by
  cases h with
  | kept => exact ⟨row, hl, rfl, fun h => h⟩
  | granted _ _ h => exact ⟨row, lookup_insert_of_lookup h hl, rfl, fun h => h⟩
  | blocked _ h => exact ⟨row, lookup_insert_of_lookup h hl, rfl, fun h => h⟩
  | @changed target u _ ht hu =>
      have hkeeps : (u.onRow target.id).Keeps row := by
        refine RowUpdate.onRow_keeps row fun he => ?_
        have hid := t.keyed id row hl
        rw [← he, hid, hl, Option.some.injEq] at ht
        exact ht ▸ hu
      exact ⟨_, by rw [update, lookup_updateRows, hl]; rfl, hkeeps.grant, hkeeps.ofLease⟩
  | cleared _ =>
      have hkeeps := RowUpdate.blockCleared_keeps row
      exact ⟨_, by rw [lookup_updateRows, hl]; rfl, (hkeeps _).grant, (hkeeps _).ofLease⟩

-- A row that is there afterwards was there before, or is the inserted one.
theorem Effect.new (h : Effect t timed next) (hl : next.rows.lookup id = some row) :
    (∃ before, t.rows.lookup id = some before ∧ row.grant = before.grant ∧
      (row.activeMarker = true → before.activeMarker = true)) ∨
    (∃ token request, timed.call = .tryAcquire id token request ∧
      t.activeRow request.key = none ∧ t.rows.lookup id = none ∧
      row = .ofLease (request.lease timed.now id token)) ∨
    (∃ token key reason, timed.call = .blockConnector id token key reason ∧
      row = .blockRow timed.now id token key reason) := by
  cases h with
  | kept => exact .inl ⟨row, hl, rfl, fun h => h⟩
  | @granted leaseId token request _ hcall hfree h =>
      obtain ⟨hclash, hrows⟩ := insert_eq_some h
      rw [hrows] at hl
      by_cases he : id = leaseId
      · subst he
        have hnone : t.rows.lookup id = none := by
          refine Option.eq_none_iff_forall_ne_some.mpr fun other ho => ?_
          have hc := Table.select_eq_nil_iff.mp hclash id other ho
          simp [ProviderRouteLeaseRow.clashes, t.keyed id other ho,
            ProviderRouteLeaseRow.ofLease, AcquireRequest.lease] at hc
        have hself : row = .ofLease (request.lease timed.now id token) := by
          have := AList.lookup_insert (a := id) (b := ProviderRouteLeaseRow.ofLease
            (request.lease timed.now id token)) t.rows
          exact Option.some.inj (hl.symm.trans this)
        exact .inr (.inl ⟨token, request, hcall, hfree, hnone, hself⟩)
      · have hother := hl
        rw [show (ProviderRouteLeaseRow.ofLease (request.lease timed.now leaseId token)).id =
          leaseId from rfl, AList.lookup_insert_ne he] at hother
        exact .inl ⟨row, hother, rfl, fun h => h⟩
  | @blocked rowId token reason key _ hcall h =>
      obtain ⟨-, hrows⟩ := insert_eq_some h
      rw [hrows] at hl
      by_cases he : id = rowId
      · subst he
        have hself : row = .blockRow timed.now id token key reason := by
          have := AList.lookup_insert (a := id) (b := ProviderRouteLeaseRow.blockRow timed.now id
            token key reason) t.rows
          exact Option.some.inj (hl.symm.trans this)
        exact .inr (.inr ⟨token, key, reason, hcall, hself⟩)
      · rw [show (ProviderRouteLeaseRow.blockRow timed.now rowId token key reason).id =
          rowId from rfl, AList.lookup_insert_ne he] at hl
        exact .inl ⟨row, hl, rfl, fun h => h⟩
  | @changed target u _ ht hu =>
      rw [update, lookup_updateRows, Option.map_eq_some_iff] at hl
      obtain ⟨before, hb, rfl⟩ := hl
      have hkeeps : (u.onRow target.id).Keeps before := by
        refine RowUpdate.onRow_keeps before fun he => ?_
        rw [← he, t.keyed id before hb, hb, Option.some.injEq] at ht
        exact ht ▸ hu
      exact .inl ⟨before, hb, hkeeps.grant, (u.onRow target.id).marker_of_apply before⟩
  | @cleared key _ =>
      rw [lookup_updateRows, Option.map_eq_some_iff] at hl
      obtain ⟨before, hb, rfl⟩ := hl
      exact .inl ⟨before, hb, (RowUpdate.blockCleared_keeps before key).grant,
        (RowUpdate.blockCleared key).marker_of_apply before⟩

-- A call leaves every row alone but its target, and clears only blocks of its key.
theorem Effect.untouched (h : Effect t timed next) (hl : t.rows.lookup id = some row)
    (ht : timed.call.target ≠ some id)
    (hb : row.status ≠ .blocked ∨ timed.call ≠ .clearBlock row.key) :
    next.rows.lookup id = some row := by
  cases h with
  | kept => exact hl
  | granted _ _ h => exact lookup_insert_of_lookup h hl
  | blocked _ h => exact lookup_insert_of_lookup h hl
  | @changed target u hcall hl' hu =>
      have hne : row.id ≠ target.id := by
        rw [t.keyed id row hl]
        rintro rfl
        exact ht hcall
      rw [lookup_update, hl]
      simp [hne]
  | @cleared key hcall =>
      have hkeep : ¬ (row.key = key ∧ row.status = .blocked) := by
        rintro ⟨rfl, hstatus⟩
        exact hb.elim (fun h => h hstatus) fun h => h hcall
      rw [lookup_updateRows, hl]
      simp [RowUpdate.blockCleared, hkeep]

variable {now : Time} {leaseId token owner : String} {lease : ProviderRouteLease}

theorem acquire_reply {request : AcquireRequest}
    (h : (t.respond ⟨now, .tryAcquire leaseId token request⟩).1 = .lease (some lease)) :
    lease = request.lease now leaseId token ∧ t.activeRow request.key = none ∧
      t.insert (.ofLease lease) = some (t.respond ⟨now, .tryAcquire leaseId token request⟩).2 := by
  cases ha : t.activeRow (request.lease now leaseId token).key with
  | some row => simp [respond, dbAcquire, ha] at h
  | none =>
      cases hi : t.insert (.ofLease (request.lease now leaseId token)) with
      | none => simp [respond, dbAcquire, ha, hi] at h
      | some next =>
          simp only [respond, dbAcquire, ha, hi, Reply.lease.injEq, Option.some.injEq] at h
          subst h
          exact ⟨rfl, ha, by simp [respond, dbAcquire, ha, hi]⟩

theorem claim_reply
    (h : (t.respond ⟨now, .claimRecovery leaseId token owner⟩).1 = .lease (some lease)) :
    ∃ row, t.rows.lookup leaseId = some row ∧ row.leaseToken = token ∧ row.activeMarker = true ∧
      ¬ (now < row.expiresAt ∧ row.status = .active) ∧
      claimedByOther row.status row.details owner = .ok false ∧
      lease = ((RowUpdate.claimed now owner).apply row).rowToLease ∧
      (t.respond ⟨now, .claimRecovery leaseId token owner⟩).2 =
        t.update row.id (.claimed now owner) := by
  simp only [respond, dbClaimRecovery] at h ⊢
  split at h
  · simp [Reply.ofLease] at h
  next row hl =>
    simp only [hl]
    split at h
    · simp [Reply.ofLease] at h
    next htok =>
      split at h
      · simp [Reply.ofLease] at h
      next hmark =>
        split at h
        · simp [Reply.ofLease] at h
        next hlive =>
          split at h
          · simp [Reply.ofLease] at h
          · simp [Reply.ofLease] at h
          next hfree =>
            simp only [committed, Reply.ofLease, Reply.lease.injEq, Option.some.injEq] at h
            refine ⟨row, rfl, not_not.mp htok, by simpa using hmark, hlive, hfree, h.symm, ?_⟩
            simp only [if_neg htok, if_neg hmark, if_neg hlive]
            rfl

theorem mem_listExpiredActive {moment : Time} : lease ∈ t.listExpiredActive moment ↔
    ∃ row, t.rows.lookup row.id = some row ∧ row.activeMarker = true ∧ row.status.held = true ∧
      row.expiresAt ≤ moment ∧ row.rowToLease = lease := by
  simp only [listExpiredActive, List.mem_map, mem_select, Bool.and_eq_true, decide_eq_true_iff]
  constructor
  · rintro ⟨row, ⟨hl, ⟨hm, hh⟩, he⟩, rfl⟩
    exact ⟨row, hl, hm, hh, he, rfl⟩
  · rintro ⟨row, hl, hm, hh, he, rfl⟩
    exact ⟨row, ⟨hl, ⟨hm, hh⟩, he⟩, rfl⟩

-- The table has the row of a lease that some call remembers.
def Known (t : LeaseTable) (lease : ProviderRouteLease) : Prop :=
  ∃ row, t.rows.lookup lease.leaseId = some row ∧ row.grant = lease.grant ∧ row.ofLeaseCall

theorem Known.step (h : t.Known lease) (heffect : Effect t timed next) : next.Known lease := by
  obtain ⟨row, hl, hg, hrow⟩ := h
  obtain ⟨after, ha, hga, hof⟩ := heffect.old hl
  exact ⟨after, ha, hga.trans hg, hof hrow⟩

theorem ofLeaseCall_of_held (h : row.status.held = true) : row.ofLeaseCall := by
  constructor <;> intro hb <;> rw [hb] at h <;> cases h

theorem known_of_listed {moment : Time} (h : lease ∈ t.listExpiredActive moment) : t.Known lease := by
  obtain ⟨row, hl, -, hh, -, rfl⟩ := mem_listExpiredActive.mp h
  exact ⟨row, hl, rfl, ofLeaseCall_of_held hh⟩

theorem known_of_acquired {request : AcquireRequest}
    (h : (t.respond ⟨now, .tryAcquire leaseId token request⟩).1 = .lease (some lease)) :
    (t.respond ⟨now, .tryAcquire leaseId token request⟩).2.Known lease := by
  obtain ⟨rfl, -, hins⟩ := acquire_reply h
  refine ⟨.ofLease (request.lease now leaseId token), ?_, rfl, nofun, nofun⟩
  rw [(insert_eq_some hins).2]
  exact AList.lookup_insert _

theorem grant_of_claimed (hknown : t.Known lease) {claimed : ProviderRouteLease}
    (h : (t.respond ⟨now, .claimRecovery lease.leaseId token owner⟩).1 = .lease (some claimed)) :
    claimed.leaseId = lease.leaseId ∧ claimed.grant = lease.grant := by
  obtain ⟨row, hl, -, -, -, -, rfl, -⟩ := claim_reply h
  obtain ⟨known, hk, hg, -⟩ := hknown
  obtain rfl := Option.some.inj (hl.symm.trans hk)
  exact ⟨t.keyed _ row hl, (RowUpdate.claimed_keeps row now owner).grant.trans hg⟩

end LeaseTable

end JoyMesh.ProviderRoutes
