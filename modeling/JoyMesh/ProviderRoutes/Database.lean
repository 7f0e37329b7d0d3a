import JoyMesh.Library.Table
import JoyMesh.ProviderRoutes.Lease

namespace JoyMesh.ProviderRoutes

open JoyMesh.Library

-- The marker column holds "active" or null.
structure ProviderRouteLeaseRow where
  id : String
  managerId : String
  connectorId : String
  ownerExecutionId : String
  leaseToken : String
  status : LeaseStatus
  activeMarker : Bool
  originalState : Mapping
  targetProviderId : Option String
  targetModelId : Option String
  acquiredAt : Time
  expiresAt : Time
  heartbeatAt : Time
  releasedAt : Option Time
  recoveryStatus : Option String
  details : Mapping
deriving DecidableEq

namespace ProviderRouteLeaseRow

def key (row : ProviderRouteLeaseRow) : Key := (row.managerId, row.connectorId)

@[simps] def rowToLease (row : ProviderRouteLeaseRow) : ProviderRouteLease where
  leaseId := row.id
  managerId := row.managerId
  connectorId := row.connectorId
  ownerExecutionId := row.ownerExecutionId
  leaseToken := row.leaseToken
  status := row.status
  originalState := row.originalState
  targetProviderId := row.targetProviderId
  targetModelId := row.targetModelId
  acquiredAt := row.acquiredAt
  expiresAt := row.expiresAt
  heartbeatAt := row.heartbeatAt
  recoveryStatus := row.recoveryStatus
  details := row.details

@[simp] theorem rowToLease_key (row : ProviderRouteLeaseRow) : row.rowToLease.key = row.key := rfl

-- The row that a new lease is stored in.
def ofLease (lease : ProviderRouteLease) : ProviderRouteLeaseRow where
  id := lease.leaseId
  managerId := lease.managerId
  connectorId := lease.connectorId
  ownerExecutionId := lease.ownerExecutionId
  leaseToken := lease.leaseToken
  status := .active
  activeMarker := true
  originalState := lease.originalState
  targetProviderId := lease.targetProviderId
  targetModelId := lease.targetModelId
  acquiredAt := lease.acquiredAt
  expiresAt := lease.expiresAt
  heartbeatAt := lease.heartbeatAt
  releasedAt := none
  recoveryStatus := none
  details := lease.details

def blockRow (now : Time) (rowId token : String) (key : Key) (reason : String) :
    ProviderRouteLeaseRow where
  id := rowId
  managerId := key.1
  connectorId := key.2
  ownerExecutionId := "recovery"
  leaseToken := token
  status := .blocked
  activeMarker := false
  originalState := ∅
  targetProviderId := none
  targetModelId := none
  acquiredAt := now
  expiresAt := now
  heartbeatAt := now
  releasedAt := some now
  recoveryStatus := some "recovery_failed"
  details := blockDetails reason now

-- Two rows that no table holds together: the same id, the same token, or both
-- marked for one key.
def clashes (row other : ProviderRouteLeaseRow) : Bool :=
  row.id = other.id || row.leaseToken = other.leaseToken ||
    row.activeMarker && other.activeMarker && decide (row.key = other.key)

end ProviderRouteLeaseRow

-- A change of one row that no constraint can refuse.
structure RowUpdate where
  apply : ProviderRouteLeaseRow → ProviderRouteLeaseRow
  id_eq : ∀ row, (apply row).id = row.id
  key_eq : ∀ row, (apply row).key = row.key
  token_eq : ∀ row, (apply row).leaseToken = row.leaseToken
  marker_of_apply : ∀ row, (apply row).activeMarker = true → row.activeMarker = true

-- The rows of provider_route_leases, as the constraints of the table keep them.
structure LeaseTable where
  rows : Table String ProviderRouteLeaseRow
  keyed : ∀ id row, rows.lookup id = some row → row.id = id
  apart : ∀ row other, rows.lookup row.id = some row → rows.lookup other.id = some other →
    row.id ≠ other.id → row.clashes other = false

namespace LeaseTable

def empty : LeaseTable where
  rows := ∅
  keyed := by simp
  apart := by simp

def select (p : ProviderRouteLeaseRow → Bool) (t : LeaseTable) : List ProviderRouteLeaseRow :=
  t.rows.select p

-- An insert that breaks a constraint fails and leaves the table as it was.
def insert (t : LeaseTable) (row : ProviderRouteLeaseRow) : Option LeaseTable :=
  if h : t.select row.clashes = [] then
    some
      { rows := t.rows.insert row.id row
        keyed := by
          intro id stored hl
          by_cases he : id = row.id
          · subst he
            rw [AList.lookup_insert, Option.some.injEq] at hl
            rw [← hl]
          · exact t.keyed id stored (AList.lookup_insert_ne he ▸ hl)
        apart := by
          have hfree := Table.select_eq_nil_iff.mp h
          intro a b ha hb hne
          by_cases hra : a.id = row.id
          · rw [hra, AList.lookup_insert, Option.some.injEq] at ha
            subst ha
            rw [AList.lookup_insert_ne (Ne.symm hne)] at hb
            exact hfree b.id b hb
          · rw [AList.lookup_insert_ne hra] at ha
            by_cases hrb : b.id = row.id
            · rw [hrb, AList.lookup_insert, Option.some.injEq] at hb
              subst hb
              have hc := hfree a.id a ha
              simp only [ProviderRouteLeaseRow.clashes, Bool.or_eq_false_iff, Bool.and_eq_false_iff,
                decide_eq_false_iff_not] at hc ⊢
              tauto
            · rw [AList.lookup_insert_ne hrb] at hb
              exact t.apart a b ha hb hne }
  else none

def updateRows (u : RowUpdate) (t : LeaseTable) : LeaseTable where
  rows := t.rows.mapValues u.apply
  keyed := by
    intro id stored hl
    rw [Table.lookup_mapValues, Option.map_eq_some_iff] at hl
    obtain ⟨row, hrow, rfl⟩ := hl
    rw [u.id_eq, t.keyed id row hrow]
  apart := by
    intro a b ha hb hne
    rw [Table.lookup_mapValues, Option.map_eq_some_iff] at ha hb
    obtain ⟨row, hrow, rfl⟩ := ha
    obtain ⟨other, hother, rfl⟩ := hb
    rw [u.id_eq] at hrow
    rw [u.id_eq] at hother
    rw [u.id_eq, u.id_eq] at hne
    have hc := t.apart row other hrow hother hne
    have hm := u.marker_of_apply row
    have hn := u.marker_of_apply other
    simp only [ProviderRouteLeaseRow.clashes, Bool.or_eq_false_iff, Bool.and_eq_false_iff,
      decide_eq_false_iff_not, u.id_eq, u.key_eq, u.token_eq] at hc ⊢
    refine ⟨hc.1, ?_⟩
    cases h : (u.apply row).activeMarker <;> cases h' : (u.apply other).activeMarker <;> simp_all

section

variable {t : LeaseTable} {row : ProviderRouteLeaseRow}

@[simp] theorem lookup_updateRows (u : RowUpdate) (id : String) :
    (t.updateRows u).rows.lookup id = (t.rows.lookup id).map u.apply :=
  Table.lookup_mapValues u.apply t.rows id

theorem insert_eq_some {next : LeaseTable} (h : t.insert row = some next) :
    t.select row.clashes = [] ∧ next.rows = t.rows.insert row.id row := by
  unfold insert at h
  split at h
  next hfree => exact ⟨hfree, by rw [← Option.some.inj h]⟩
  next => cases h

theorem mem_select {p : ProviderRouteLeaseRow → Bool} :
    row ∈ t.select p ↔ t.rows.lookup row.id = some row ∧ p row = true := by
  rw [select, Table.mem_select]
  constructor
  · rintro ⟨⟨id, hl⟩, hp⟩
    exact ⟨t.keyed id row hl ▸ hl, hp⟩
  · rintro ⟨hl, hp⟩
    exact ⟨⟨row.id, hl⟩, hp⟩

-- Two marked rows of one key are one row.
theorem marked_unique {other : ProviderRouteLeaseRow} (hr : t.rows.lookup row.id = some row)
    (ho : t.rows.lookup other.id = some other) (hm : row.activeMarker = true)
    (hn : other.activeMarker = true) (hk : row.key = other.key) : row.id = other.id := by
  by_contra hne
  have hc := t.apart row other hr ho hne
  simp [ProviderRouteLeaseRow.clashes, hm, hn, hk] at hc

end

end LeaseTable

namespace RowUpdate

-- The change of the row with one id; the other rows stay as they are.
def onRow (rowId : String) (u : RowUpdate) : RowUpdate where
  apply row := if row.id = rowId then u.apply row else row
  id_eq row := by split <;> simp [u.id_eq]
  key_eq row := by split <;> simp [u.key_eq]
  token_eq row := by split <;> simp [u.token_eq]
  marker_of_apply row := by
    split
    · exact u.marker_of_apply row
    · exact id

def renewed (now ttl : Time) : RowUpdate where
  apply row := { row with expiresAt := now + ttl, heartbeatAt := now }
  id_eq _ := rfl
  key_eq _ := rfl
  token_eq _ := rfl
  marker_of_apply _ h := h

def expired : RowUpdate where
  apply row := { row with status := .expired, activeMarker := false }
  id_eq _ := rfl
  key_eq _ := rfl
  token_eq _ := rfl
  marker_of_apply _ h := nomatch h

def released (now : Time) : RowUpdate where
  apply row :=
    { row with status := .released, activeMarker := false, releasedAt := some now,
               heartbeatAt := now }
  id_eq _ := rfl
  key_eq _ := rfl
  token_eq _ := rfl
  marker_of_apply _ h := nomatch h

def claimed (now : Time) (recoveryOwnerId : String) : RowUpdate where
  apply row :=
    { row with
      status := .recovering
      heartbeatAt := now
      details := row.details.update (.ofList [("recovery_owner_id", .str recoveryOwnerId)]) }
  id_eq _ := rfl
  key_eq _ := rfl
  token_eq _ := rfl
  marker_of_apply _ h := h

def marked (now : Time) (recoveryStatus : String) (details : Mapping) : RowUpdate where
  apply row :=
    let noted :=
      { row with recoveryStatus := some recoveryStatus, details := row.details.update details }
    if resolves recoveryStatus then
      { noted with status := .expired, activeMarker := false, releasedAt := some now }
    else noted
  id_eq _ := by split <;> rfl
  key_eq _ := by split <;> rfl
  token_eq _ := by split <;> rfl
  marker_of_apply row h := by
    split at h
    · nomatch h
    · exact h

def blockCleared (key : Key) : RowUpdate where
  apply row :=
    if row.key = key ∧ row.status = .blocked then { row with status := .blockCleared } else row
  id_eq _ := by split <;> rfl
  key_eq _ := by split <;> rfl
  token_eq _ := by split <;> rfl
  marker_of_apply row h := by
    split at h <;> exact h

end RowUpdate

namespace LeaseTable

def update (rowId : String) (u : RowUpdate) (t : LeaseTable) : LeaseTable :=
  t.updateRows (u.onRow rowId)

-- The marked row of a key: the constraint leaves at most one.
def activeRow (key : Key) (t : LeaseTable) : Option ProviderRouteLeaseRow :=
  (t.select fun row => decide (row.key = key) && row.activeMarker).head?

section

variable {t : LeaseTable} {key : Key} {row : ProviderRouteLeaseRow} {leaseId : String}

theorem lookup_update (u : RowUpdate) (id : String) :
    (t.update leaseId u).rows.lookup id =
      (t.rows.lookup id).map fun row => if row.id = leaseId then u.apply row else row :=
  lookup_updateRows _ _

theorem activeRow_eq_some_iff : t.activeRow key = some row ↔
    t.rows.lookup row.id = some row ∧ row.key = key ∧ row.activeMarker = true := by
  have hmem : ∀ other, other ∈ t.select (fun row => decide (row.key = key) && row.activeMarker) ↔
      t.rows.lookup other.id = some other ∧ other.key = key ∧ other.activeMarker = true := by
    intro other
    rw [mem_select, Bool.and_eq_true, decide_eq_true_iff]
  constructor
  · intro h
    exact (hmem row).mp (List.mem_of_head? h)
  · intro h
    have hm := (hmem row).mpr h
    obtain ⟨first, hf⟩ := Option.isSome_iff_exists.mp
      (List.isSome_head?.mpr (List.ne_nil_of_mem hm))
    obtain ⟨hl, hk, hmark⟩ := (hmem first).mp (List.mem_of_head? hf)
    have hid := marked_unique hl h.1 hmark h.2.2 (hk.trans h.2.1.symm)
    rw [activeRow, hf, ← h.1, ← hid, hl]

theorem activeRow_eq_none_iff : t.activeRow key = none ↔
    ∀ row, t.rows.lookup row.id = some row → row.key = key → row.activeMarker = false := by
  rw [Option.eq_none_iff_forall_ne_some]
  constructor
  · intro h row hl hk
    by_contra hm
    exact h row (activeRow_eq_some_iff.mpr ⟨hl, hk, by simpa using hm⟩)
  · intro h row hr
    obtain ⟨hl, hk, hm⟩ := activeRow_eq_some_iff.mp hr
    simp [h row hl hk] at hm

end

def dbAcquire (lease : ProviderRouteLease) (t : LeaseTable) :
    Option ProviderRouteLease × LeaseTable :=
  match t.activeRow lease.key with
  | some _ => (none, t)
  | none =>
      match t.insert (.ofLease lease) with
      | none => (none, t)
      | some stored => (some lease, stored)

-- The answer of a call that changes one row is the row as it was committed.
def committed (u : RowUpdate) (row : ProviderRouteLeaseRow) (t : LeaseTable) :
    Except StoreFailure ProviderRouteLease × LeaseTable :=
  (.ok (u.apply row).rowToLease, t.update row.id u)

def dbRenew (now : Time) (leaseId leaseToken ownerExecutionId : String) (ttl : Time)
    (t : LeaseTable) : Except StoreFailure ProviderRouteLease × LeaseTable :=
  match t.rows.lookup leaseId with
  | none => (.error .notFound, t)
  | some row =>
      if row.leaseToken ≠ leaseToken ∨ row.ownerExecutionId ≠ ownerExecutionId then
        (.error .tokenOrOwnerMismatch, t)
      else if row.status ≠ .active ∨ row.activeMarker = false then
        (.error (.statusIs row.status), t)
      -- An expired lease loses its marker here, before the error is raised.
      else if row.expiresAt ≤ now then (.error .leaseExpired, t.update row.id .expired)
      else t.committed (.renewed now ttl) row

def dbRelease (now : Time) (leaseId leaseToken ownerExecutionId : String) (t : LeaseTable) :
    Except StoreFailure ProviderRouteLease × LeaseTable :=
  match t.rows.lookup leaseId with
  | none => (.error .notFound, t)
  | some row =>
      if row.leaseToken ≠ leaseToken ∨ row.ownerExecutionId ≠ ownerExecutionId then
        (.error .tokenOrOwnerMismatch, t)
      else if row.status ≠ .active ∨ row.activeMarker = false then (.error .duplicateRelease, t)
      else t.committed (.released now) row

def get (leaseId : String) (t : LeaseTable) : Option ProviderRouteLease :=
  (t.rows.lookup leaseId).map (·.rowToLease)

def getActive (key : Key) (t : LeaseTable) : Option ProviderRouteLease :=
  (t.activeRow key).map (·.rowToLease)

def listExpiredActive (moment : Time) (t : LeaseTable) : List ProviderRouteLease :=
  (t.select fun row => row.activeMarker && row.status.held && decide (row.expiresAt ≤ moment)).map
    (·.rowToLease)

def dbClaimRecovery (now : Time) (leaseId leaseToken recoveryOwnerId : String) (t : LeaseTable) :
    Except StoreFailure ProviderRouteLease × LeaseTable :=
  match t.rows.lookup leaseId with
  | none => (.error .invalidToken, t)
  | some row =>
      if row.leaseToken ≠ leaseToken then (.error .invalidToken, t)
      else if row.activeMarker = false then
        (.error (.lease ⟨"lease_not_active", "lease is not active"⟩), t)
      else if now < row.expiresAt ∧ row.status = .active then (.error .notExpired, t)
      else
        match claimedByOther row.status row.details recoveryOwnerId with
        | .error failure => (.error failure, t)
        | .ok true => (.error .recoveryClaimed, t)
        | .ok false => t.committed (.claimed now recoveryOwnerId) row

def markRecovery (now : Time) (leaseId leaseToken recoveryStatus : String) (details : Mapping)
    (t : LeaseTable) : Except StoreFailure ProviderRouteLease × LeaseTable :=
  match t.rows.lookup leaseId with
  | none => (.error .invalidToken, t)
  | some row =>
      if row.leaseToken ≠ leaseToken then (.error .invalidToken, t)
      else t.committed (.marked now recoveryStatus details) row

def blockConnector (now : Time) (rowId token : String) (key : Key) (reason : String)
    (t : LeaseTable) : Except StoreFailure Unit × LeaseTable :=
  match t.insert (.blockRow now rowId token key reason) with
  | none => (.error .integrityError, t)
  | some stored => (.ok (), stored)

-- The blocked row of the key that was acquired last; rows of one instant come
-- in no promised order.
def blockingRow (key : Key) (t : LeaseTable) : Option ProviderRouteLeaseRow :=
  let blocked := t.select fun row => decide (row.key = key) && decide (row.status = .blocked)
  blocked.find? fun row => blocked.all fun other => decide (other.acquiredAt ≤ row.acquiredAt)

def isBlocked (key : Key) (t : LeaseTable) : Option String :=
  (t.blockingRow key).map fun row => blockReason row.details

def clearBlock (key : Key) (t : LeaseTable) : LeaseTable :=
  t.updateRows (.blockCleared key)

def respond (t : LeaseTable) : TimedCall → Reply × LeaseTable
  | ⟨now, .tryAcquire leaseId token request⟩ =>
      let (found, next) := t.dbAcquire (request.lease now leaseId token)
      (.lease found, next)
  | ⟨now, .renew leaseId leaseToken owner ttl⟩ =>
      let (result, next) := t.dbRenew now leaseId leaseToken owner ttl
      (.ofLease result, next)
  | ⟨now, .release leaseId leaseToken owner⟩ =>
      let (result, next) := t.dbRelease now leaseId leaseToken owner
      (.ofLease result, next)
  | ⟨_, .get leaseId⟩ => (.lease (t.get leaseId), t)
  | ⟨_, .getActive key⟩ => (.lease (t.getActive key), t)
  | ⟨now, .listExpiredActive moment⟩ => (.leases (t.listExpiredActive (moment.getD now)), t)
  | ⟨now, .claimRecovery leaseId leaseToken owner⟩ =>
      let (result, next) := t.dbClaimRecovery now leaseId leaseToken owner
      (.ofLease result, next)
  | ⟨now, .markRecovery leaseId leaseToken status details⟩ =>
      let (result, next) := t.markRecovery now leaseId leaseToken status details
      (.ofLease result, next)
  | ⟨now, .blockConnector rowId token key reason⟩ =>
      let (result, next) := t.blockConnector now rowId token key reason
      (.ofUnit result, next)
  | ⟨_, .isBlocked key⟩ => (.reason (t.isBlocked key), t)
  | ⟨_, .clearBlock key⟩ => (.done, t.clearBlock key)

end LeaseTable

end JoyMesh.ProviderRoutes
