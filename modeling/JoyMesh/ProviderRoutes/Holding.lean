import JoyMesh.ProviderRoutes.Knowledge

namespace JoyMesh.ProviderRoutes

open JoyMesh.Library

namespace LeaseTable

-- The lease runs: its row is marked and no recovery has claimed it.
def Running (t : LeaseTable) (key : Key) (id : String) : Prop :=
  ∃ row, t.rows.lookup id = some row ∧ row.key = key ∧ row.activeMarker = true ∧ row.status = .active

-- A recovery under this owner has claimed the lease and not yet settled it.
def Recovering (t : LeaseTable) (key : Key) (id owner : String) : Prop :=
  ∃ row, t.rows.lookup id = some row ∧ row.key = key ∧ row.activeMarker = true ∧
    row.status = .recovering ∧ row.details.get "recovery_owner_id" = .str owner

-- The lease has lost its marker, and never gets it back.
def Settled (t : LeaseTable) (id : String) : Prop :=
  ∃ row, t.rows.lookup id = some row ∧ row.activeMarker = false

variable {t next : LeaseTable} {timed : TimedCall} {key : Key} {id other owner : String}
  {request : AcquireRequest} {status : String} {details : Mapping}

theorem Settled.step (h : t.Settled id) (heffect : Effect t timed next) : next.Settled id := by
  obtain ⟨row, hl, hm⟩ := h
  obtain ⟨after, ha, -, -⟩ := heffect.old hl
  refine ⟨after, ha, ?_⟩
  rcases heffect.new ha with ⟨before, hb, -, hmark⟩ | ⟨-, -, -, -, hnone, -⟩ | ⟨-, -, -, -, rfl⟩
  · obtain rfl := Option.some.inj (hl.symm.trans hb)
    by_contra hmarked
    exact absurd (hmark (by simpa using hmarked)) (by simp [hm])
  · rw [hnone] at hl
    cases hl
  · rfl

theorem Running.not_settled (h : t.Running key id) : ¬ t.Settled id := by
  rintro ⟨row, hl, hm⟩
  obtain ⟨running, hr, -, hmark, -⟩ := h
  obtain rfl := Option.some.inj (hl.symm.trans hr)
  rw [hm] at hmark
  cases hmark

theorem Recovering.not_settled (h : t.Recovering key id owner) : ¬ t.Settled id := by
  rintro ⟨row, hl, hm⟩
  obtain ⟨recovering, hr, -, hmark, -, -⟩ := h
  obtain rfl := Option.some.inj (hl.symm.trans hr)
  rw [hm] at hmark
  cases hmark

theorem Running.not_recovering (h : t.Running key id) : ¬ t.Recovering key other owner := by
  rintro ⟨row, hl, hk, hm, hs, -⟩
  obtain ⟨running, hr, hkr, hmr, hsr⟩ := h
  have hid := t.marked_unique (t.keyed _ _ hl ▸ hl) (t.keyed _ _ hr ▸ hr) hm hmr (hk.trans hkr.symm)
  rw [← t.keyed _ _ hl, hid, t.keyed _ _ hr, hr, Option.some.injEq] at hl
  rw [← hl, hsr] at hs
  cases hs

theorem Running.unique (h : t.Running key id) (ho : t.Running key other) : id = other := by
  obtain ⟨row, hl, hk, hm, -⟩ := h
  obtain ⟨running, hr, hkr, hmr, -⟩ := ho
  have hid := t.marked_unique (t.keyed _ _ hl ▸ hl) (t.keyed _ _ hr ▸ hr) hm hmr (hk.trans hkr.symm)
  rw [← t.keyed _ _ hl, hid, t.keyed _ _ hr]

theorem Running.untouched (h : t.Running key id) (heffect : Effect t timed next)
    (htarget : timed.call.target ≠ some id) : next.Running key id := by
  obtain ⟨row, hl, hk, hm, hs⟩ := h
  exact ⟨row, heffect.untouched hl htarget (.inl (by simp [hs])), hk, hm, hs⟩

theorem Recovering.untouched (h : t.Recovering key id owner) (heffect : Effect t timed next)
    (htarget : timed.call.target ≠ some id) : next.Recovering key id owner := by
  obtain ⟨row, hl, hk, hm, hs, ho⟩ := h
  exact ⟨row, heffect.untouched hl htarget (.inl (by simp [hs])), hk, hm, hs, ho⟩

variable {now ttl : Time} {token : String} {lease : ProviderRouteLease}

-- A renewal in time keeps the lease running.
theorem Running.renew (h : t.Running key id)
    (htime : ∀ row, t.rows.lookup id = some row → now < row.expiresAt) :
    (t.respond ⟨now, .renew id token owner ttl⟩).2.Running key id := by
  obtain ⟨row, hl, hk, hm, hs⟩ := h
  have hnot : ¬ (row.status ≠ .active ∨ row.activeMarker = false) := by simp [hm, hs]
  have hfresh : ¬ row.expiresAt ≤ now := not_le.mpr (htime row hl)
  simp only [respond, dbRenew, hl, if_neg hnot, if_neg hfresh]
  split
  · exact ⟨row, hl, hk, hm, hs⟩
  · refine ⟨_, by rw [committed, lookup_update, hl]; rfl, ?_⟩
    simp only [t.keyed id row hl, if_true]
    exact ⟨hk, hm, hs⟩

-- A recovering lease is out of reach of its holder.
theorem Recovering.renew (h : t.Recovering key id other) :
    (t.respond ⟨now, .renew id token owner ttl⟩).2 = t := by
  obtain ⟨row, hl, -, -, hs, -⟩ := h
  have hnot : row.status ≠ .active ∨ row.activeMarker = false := .inl (by simp [hs])
  simp only [respond, dbRenew, hl, if_pos hnot]
  split <;> rfl

theorem Recovering.release (h : t.Recovering key id other) :
    (t.respond ⟨now, .release id token owner⟩).2 = t := by
  obtain ⟨row, hl, -, -, hs, -⟩ := h
  have hnot : row.status ≠ .active ∨ row.activeMarker = false := .inl (by simp [hs])
  simp only [respond, dbRelease, hl, if_pos hnot]
  split <;> rfl

-- No other recovery claims it.
theorem Recovering.claim (h : t.Recovering key id other) (howner : owner ≠ other) :
    ∃ failure, t.respond ⟨now, .claimRecovery id token owner⟩ = (.raised failure, t) := by
  obtain ⟨row, hl, -, -, hs, ho⟩ := h
  have hclaimed : claimedByOther row.status row.details owner = .ok true := by
    simp [claimedByOther, hs, ho, Value.hashable, Ne.symm howner]
  simp only [respond, dbClaimRecovery, hl, hclaimed]
  split
  · exact ⟨_, rfl⟩
  split
  · exact ⟨_, rfl⟩
  split
  · exact ⟨_, rfl⟩
  · exact ⟨_, rfl⟩

-- A lease that runs and has not expired is not claimed.
theorem Running.claim (h : t.Running key id)
    (htime : ∀ row, t.rows.lookup id = some row → now < row.expiresAt) :
    (t.respond ⟨now, .claimRecovery id token owner⟩).2 = t := by
  obtain ⟨row, hl, -, -, hs⟩ := h
  have hlive : now < row.expiresAt ∧ row.status = .active := ⟨htime row hl, hs⟩
  simp only [respond, dbClaimRecovery, hl, if_pos hlive]
  split
  · rfl
  split <;> rfl

theorem lookup_of_acquired
    (h : (t.respond ⟨now, .tryAcquire id token request⟩).1 = .lease (some lease)) :
    t.rows.lookup lease.leaseId = none := by
  obtain ⟨rfl, -, hins⟩ := acquire_reply h
  refine Option.eq_none_iff_forall_ne_some.mpr fun row hl => ?_
  have hclash := Table.select_eq_nil_iff.mp (insert_eq_some hins).1 _ row hl
  simp [ProviderRouteLeaseRow.clashes, t.keyed _ row hl, ProviderRouteLeaseRow.ofLease] at hclash

theorem running_of_acquired
    (h : (t.respond ⟨now, .tryAcquire id token request⟩).1 = .lease (some lease)) :
    (t.respond ⟨now, .tryAcquire id token request⟩).2.Running request.key lease.leaseId := by
  obtain ⟨rfl, -, hins⟩ := acquire_reply h
  refine ⟨.ofLease (request.lease now id token), ?_, rfl, rfl, rfl⟩
  rw [(insert_eq_some hins).2]
  exact AList.lookup_insert _

theorem recovering_of_claimed
    (h : (t.respond ⟨now, .claimRecovery id token owner⟩).1 = .lease (some lease)) :
    (t.respond ⟨now, .claimRecovery id token owner⟩).2.Recovering lease.key lease.leaseId owner := by
  obtain ⟨row, hl, -, hm, -, -, rfl, hnext⟩ := claim_reply h
  have hid : ((RowUpdate.claimed now owner).apply row).rowToLease.leaseId = id := t.keyed id row hl
  refine ⟨(RowUpdate.claimed now owner).apply row, ?_, rfl, hm, rfl, ?_⟩
  · rw [hnext, lookup_update, hid, hl]
    simp
  · have howner : (Mapping.ofList [("recovery_owner_id", .str owner)]).lookup "recovery_owner_id" =
        some (.str owner) := rfl
    exact Mapping.get_update_of_some row.details howner

-- A lease that has a row can be marked, and a resolving mark settles it.
theorem mark_known (h : t.Known lease) :
    ∃ found, (t.respond ⟨now, .markRecovery lease.leaseId lease.leaseToken status details⟩).1 =
      .lease (some found) := by
  obtain ⟨row, hl, hg, -⟩ := h
  have htoken : ¬ row.leaseToken ≠ lease.leaseToken := not_not.mpr (congrArg Grant.token hg)
  simp only [respond, markRecovery, hl, if_neg htoken]
  exact ⟨_, rfl⟩

theorem settled_of_marked (h : t.Known lease) (hresolves : resolves status = true) :
    (t.respond ⟨now, .markRecovery lease.leaseId lease.leaseToken status details⟩).2.Settled
      lease.leaseId := by
  obtain ⟨row, hl, hg, -⟩ := h
  have htoken : ¬ row.leaseToken ≠ lease.leaseToken := not_not.mpr (congrArg Grant.token hg)
  simp only [respond, markRecovery, hl, if_neg htoken, committed]
  refine ⟨_, by rw [lookup_update, hl]; rfl, ?_⟩
  simp [t.keyed _ row hl, RowUpdate.marked, hresolves]

theorem Known.key_eq (h : t.Known lease) {row : ProviderRouteLeaseRow}
    (hl : t.rows.lookup lease.leaseId = some row) : lease.key = row.key := by
  obtain ⟨known, hk, hg, -⟩ := h
  obtain rfl := Option.some.inj (hl.symm.trans hk)
  exact (congrArg Grant.key hg).symm

-- The mark of a lease that has a row is answered with the lease.
theorem Known.mark_answered {s after : Shared} {answer : Answer} (h : s.store.Known lease)
    (hperform : Shared.Performed s
      (.store (.markRecovery lease.leaseId lease.leaseToken status details)) answer after) :
    ∃ found late, answer = .store (.lease (some found)) late := by
  obtain ⟨⟨late, hanswer⟩, -⟩ := hperform.respond nofun
  obtain ⟨found, hreply⟩ := mark_known h
  exact ⟨found, late, hanswer.trans (by rw [hreply])⟩

end LeaseTable

-- The claimed copy has the row of the lease it was claimed from.
theorem Recovery.Known.claimed {t : LeaseTable} {lease claimed : ProviderRouteLease}
    {rest : List ProviderRouteLease} {reports : List RecoveryReport} {pc : RecoverPc}
    (h : (Recovery.round lease rest reports pc).Known t) (hpc : pc.copy = some claimed) :
    t.Known claimed := by
  obtain ⟨hid, hgrant⟩ := h.copy lease rest reports pc claimed rfl hpc
  obtain ⟨row, hl, hg, hrow⟩ := h.leases lease List.mem_cons_self
  exact ⟨row, hid ▸ hl, hg.trans hgrant.symm, hrow⟩

variable {w : World} {id : CallId} {call : Call}

theorem World.Known.frame (h : w.Known) {frame : Recovery} (hcall : w.calls id = some call)
    (hframe : call.task.frame = some frame) :
    frame.Known w.shared.store := (h.thread id call hcall).frame frame hframe

-- A call of the store for one lease finds the row of a lease.
theorem World.Known.target_ofLease (h : w.Known) {ids : Ids} {timed : LeaseCall} {leaseId : String}
    {row : ProviderRouteLeaseRow} (hcall : w.calls id = some call)
    (hawait : call.task.await ids = some (.store timed)) (htarget : timed.target = some leaseId)
    (hl : w.shared.store.rows.lookup leaseId = some row) : row.ofLeaseCall := by
  have hknown : ∀ lease, w.shared.store.Known lease → lease.leaseId = leaseId → row.ofLeaseCall := by
    rintro lease ⟨known, hk, -, hrow⟩ rfl
    exact Option.some.inj (hk.symm.trans hl) ▸ hrow
  have hholding := (h.thread id call hcall).holding
  have htargeting := Task.targeting_of_await hawait htarget
  generalize htask : call.task = task at htargeting
  rw [htask] at hholding
  cases htargeting with
  | renew hid => exact hknown _ (hholding _ _ rfl).1 hid
  | release hid => exact hknown _ (hholding _ _ rfl).1 hid
  | releaseMutation hid => exact hknown _ (hholding _ _ rfl).1 hid
  | skip hframe hid =>
      exact hknown _ ((h.frame hcall (htask ▸ hframe)).leases _ List.mem_cons_self) hid
  | claim hframe hid =>
      exact hknown _ ((h.frame hcall (htask ▸ hframe)).leases _ List.mem_cons_self) hid
  | mark hframe hid => exact hknown _ ((h.frame hcall (htask ▸ hframe)).claimed rfl) hid
  | failMark hframe hid =>
      exact hknown _ ((h.frame hcall (htask ▸ hframe)).leases _ List.mem_cons_self) hid

end JoyMesh.ProviderRoutes
