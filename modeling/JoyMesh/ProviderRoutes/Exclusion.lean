import JoyMesh.Library.Run
import JoyMesh.ProviderRoutes.Memory
import JoyMesh.ProviderRoutes.Database

namespace JoyMesh.ProviderRoutes

open JoyMesh.Library

-- What exclusion can be read off in either store: the leases, and which of them
-- the marker of their key names.
structure LeaseStore where
  State : Type
  initial : State
  respond : State → TimedCall → Reply × State
  get : String → State → Option ProviderRouteLease
  marker : String → State → Prop

def memoryStore : LeaseStore where
  State := MemoryStore
  initial := .empty
  respond := MemoryStore.respond
  get := MemoryStore.get
  marker leaseId s :=
    ∃ lease, s.memory.lookup leaseId = some lease ∧ s.memoryByKey.lookup lease.key = some leaseId

def databaseStore : LeaseStore where
  State := LeaseTable
  initial := .empty
  respond := LeaseTable.respond
  get := LeaseTable.get
  marker leaseId t := ∃ row, t.rows.lookup leaseId = some row ∧ row.activeMarker = true

-- A call that ends a lease: a release by its token and owner, or a recovery
-- mark on it that resolves it.
def LeaseCall.Ends (call : LeaseCall) (lease : ProviderRouteLease) : Prop :=
  match call with
  | .release leaseId leaseToken owner =>
      leaseId = lease.leaseId ∧ leaseToken = lease.leaseToken ∧ owner = lease.ownerExecutionId
  | .markRecovery leaseId leaseToken status _ =>
      leaseId = lease.leaseId ∧ leaseToken = lease.leaseToken ∧ resolves status = true
  | _ => False

namespace LeaseStore

variable (store : LeaseStore)

def Holds (key : Key) (leaseId : String) (s : store.State) : Prop :=
  ∃ lease, store.get leaseId s = some lease ∧ lease.key = key ∧ lease.status.held = true ∧
    store.marker leaseId s

structure Exclusive (s : store.State) (timed : TimedCall) : Prop where
  one_holder : ∀ key first second, store.Holds key first (store.respond s timed).2 →
    store.Holds key second (store.respond s timed).2 → first = second
  granted_free : ∀ leaseId token request lease, timed.call = .tryAcquire leaseId token request →
    (store.respond s timed).1 = .lease (some lease) → ∀ holder, ¬ store.Holds request.key holder s
  marker_kept : ∀ leaseId lease, store.get leaseId s = some lease → store.marker leaseId s →
    store.marker leaseId (store.respond s timed).2 ∨ timed.call.Ends lease

-- The calls on leases, with the generated ids as uuid4 gives them: not empty
-- and not used before.
def LeaseCalls (s : store.State) (timed : TimedCall) : Prop :=
  match timed.call with
  | .tryAcquire leaseId _ _ => leaseId ≠ "" ∧ store.get leaseId s = none
  | .blockConnector .. => False
  | .clearBlock _ => False
  | _ => True

end LeaseStore

namespace MemoryStore

-- The index is left alone when a lease that it does not name is resolved.
def ResolvesNamed (s : MemoryStore) (timed : TimedCall) : Prop :=
  match timed.call with
  | .markRecovery leaseId leaseToken status _ =>
      ∀ lease, s.memory.lookup leaseId = some lease → lease.leaseToken = leaseToken →
        resolves status = true →
          ∀ named, s.memoryByKey.lookup lease.key = some named → named = leaseId
  | _ => True

structure Sound (s : MemoryStore) : Prop where
  keyed : ∀ leaseId lease, s.memory.lookup leaseId = some lease →
    lease.leaseId = leaseId ∧ leaseId ≠ ""
  named_held : ∀ key leaseId, s.memoryByKey.lookup key = some leaseId →
    ∃ lease, s.memory.lookup leaseId = some lease ∧ lease.key = key ∧ lease.status.held = true
  held_named : ∀ leaseId lease, s.memory.lookup leaseId = some lease →
    lease.status.held = true → s.memoryByKey.lookup lease.key = some leaseId

theorem empty_sound : Sound empty := by
  constructor <;> simp [empty]

variable {s : MemoryStore} {key : Key} {lease updated : ProviderRouteLease} {leaseId : String}
  {timed : TimedCall} {call : LeaseCall} {t : MemoryStore}

theorem Sound.keyHeld_iff (h : s.Sound) :
    s.keyHeld key = true ↔ ∃ named, s.memoryByKey.lookup key = some named := by
  cases hn : s.memoryByKey.lookup key with
  | none => simp [keyHeld, hn]
  | some named =>
      obtain ⟨lease, hl, -, hh⟩ := h.named_held key named hn
      have hne := (h.keyed named lease hl).2
      simp [keyHeld, hn, hl, hh, hne]

-- A lease under a fresh id that takes a free key.
theorem Sound.taken (h : s.Sound) (hne : lease.leaseId ≠ "") (hh : lease.status.held = true)
    (hfresh : s.memory.lookup lease.leaseId = none) (hfree : s.memoryByKey.lookup lease.key = none) :
    Sound ⟨s.memory.insert lease.leaseId lease,
      s.memoryByKey.insert lease.key lease.leaseId⟩ where
  keyed := by
    intro id stored hl
    by_cases he : id = lease.leaseId
    · subst he
      rw [AList.lookup_insert, Option.some.injEq] at hl
      exact ⟨by rw [← hl], hne⟩
    · exact h.keyed id stored (AList.lookup_insert_ne he ▸ hl)
  named_held := by
    intro key id hn
    by_cases he : key = lease.key
    · subst he
      rw [AList.lookup_insert, Option.some.injEq] at hn
      subst hn
      exact ⟨lease, AList.lookup_insert _, rfl, hh⟩
    · obtain ⟨stored, hs, hk, hst⟩ := h.named_held key id (AList.lookup_insert_ne he ▸ hn)
      have hid : id ≠ lease.leaseId := by
        rintro rfl
        rw [hfresh] at hs
        cases hs
      exact ⟨stored, (AList.lookup_insert_ne hid).trans hs, hk, hst⟩
  held_named := by
    intro id stored hl hst
    by_cases he : id = lease.leaseId
    · subst he
      rw [AList.lookup_insert, Option.some.injEq] at hl
      subst hl
      exact AList.lookup_insert _
    · have hn := h.held_named id stored (AList.lookup_insert_ne he ▸ hl) hst
      have hk : stored.key ≠ lease.key := by
        intro hk
        rw [hk, hfree] at hn
        cases hn
      exact (AList.lookup_insert_ne hk).trans hn

-- A change of a stored lease that keeps its id, its key and whether it is held.
theorem Sound.revised (h : s.Sound) (hl : s.memory.lookup leaseId = some lease)
    (hid : updated.leaseId = lease.leaseId) (hk : updated.key = lease.key)
    (hh : updated.status.held = lease.status.held) :
    Sound { s with memory := s.memory.insert leaseId updated } where
  keyed := by
    intro id stored hs
    by_cases he : id = leaseId
    · subst he
      rw [AList.lookup_insert, Option.some.injEq] at hs
      obtain ⟨hid', hne⟩ := h.keyed id lease hl
      exact ⟨by rw [← hs, hid, hid'], hne⟩
    · exact h.keyed id stored (AList.lookup_insert_ne he ▸ hs)
  named_held := by
    intro key id hn
    obtain ⟨stored, hs, hkey, hst⟩ := h.named_held key id hn
    by_cases he : id = leaseId
    · subst he
      obtain rfl : lease = stored := by rwa [hl, Option.some.injEq] at hs
      exact ⟨updated, AList.lookup_insert _, hk.trans hkey, hh.trans hst⟩
    · exact ⟨stored, (AList.lookup_insert_ne he).trans hs, hkey, hst⟩
  held_named := by
    intro id stored hs hst
    by_cases he : id = leaseId
    · subst he
      rw [AList.lookup_insert, Option.some.injEq] at hs
      subst hs
      rw [hk]
      exact h.held_named id lease hl (hh ▸ hst)
    · exact h.held_named id stored (AList.lookup_insert_ne he ▸ hs) hst

-- A lease that stops being held, with the index of its key cleared. No other
-- lease was named there.
theorem Sound.finished (h : s.Sound) (hl : s.memory.lookup leaseId = some lease)
    (hid : updated.leaseId = lease.leaseId) (hh : updated.status.held = false)
    (hnamed : ∀ named, s.memoryByKey.lookup lease.key = some named → named = leaseId) :
    Sound ⟨s.memory.insert leaseId updated, s.memoryByKey.erase lease.key⟩ where
  keyed := by
    intro id stored hs
    by_cases he : id = leaseId
    · subst he
      rw [AList.lookup_insert, Option.some.injEq] at hs
      obtain ⟨hid', hne⟩ := h.keyed id lease hl
      exact ⟨by rw [← hs, hid, hid'], hne⟩
    · exact h.keyed id stored (AList.lookup_insert_ne he ▸ hs)
  named_held := by
    intro key id hn
    have hkey : key ≠ lease.key := by
      rintro rfl
      rw [AList.lookup_erase] at hn
      cases hn
    obtain ⟨stored, hs, hsk, hst⟩ := h.named_held key id (AList.lookup_erase_ne hkey ▸ hn)
    have he : id ≠ leaseId := by
      rintro rfl
      rw [hl, Option.some.injEq] at hs
      exact hkey (hs ▸ hsk.symm)
    exact ⟨stored, (AList.lookup_insert_ne he).trans hs, hsk, hst⟩
  held_named := by
    intro id stored hs hst
    by_cases he : id = leaseId
    · subst he
      rw [AList.lookup_insert, Option.some.injEq] at hs
      rw [← hs, hh] at hst
      cases hst
    · have hn := h.held_named id stored (AList.lookup_insert_ne he ▸ hs) hst
      have hkey : stored.key ≠ lease.key := by
        intro hsk
        exact he (hnamed id (hsk ▸ hn))
      exact (AList.lookup_erase_ne hkey).trans hn

-- A lease that is not held is filed under an id that no held lease has.
theorem Sound.filed (h : s.Sound) (hne : lease.leaseId ≠ "") (hh : lease.status.held = false)
    (hold : ∀ stored, s.memory.lookup lease.leaseId = some stored → stored.status.held = false) :
    (s.put lease).Sound where
  keyed := by
    intro id stored hl
    by_cases he : id = lease.leaseId
    · subst he
      rw [put, AList.lookup_insert, Option.some.injEq] at hl
      exact ⟨by rw [← hl], hne⟩
    · exact h.keyed id stored (AList.lookup_insert_ne he ▸ hl)
  named_held := by
    intro key id hn
    obtain ⟨stored, hs, hk, hst⟩ := h.named_held key id hn
    have he : id ≠ lease.leaseId := by
      rintro rfl
      rw [hold stored hs] at hst
      cases hst
    exact ⟨stored, (AList.lookup_insert_ne he).trans hs, hk, hst⟩
  held_named := by
    intro id stored hl hst
    by_cases he : id = lease.leaseId
    · subst he
      rw [put, AList.lookup_insert, Option.some.injEq] at hl
      rw [← hl, hh] at hst
      cases hst
    · exact h.held_named id stored (AList.lookup_insert_ne he ▸ hl) hst

theorem Sound.removed (h : s.Sound)
    (hold : ∀ stored, s.memory.lookup leaseId = some stored → stored.status.held = false) :
    Sound { s with memory := s.memory.erase leaseId } where
  keyed := by
    intro id stored hl
    by_cases he : id = leaseId
    · subst he
      rw [AList.lookup_erase] at hl
      cases hl
    · exact h.keyed id stored (AList.lookup_erase_ne he ▸ hl)
  named_held := by
    intro key id hn
    obtain ⟨stored, hs, hk, hst⟩ := h.named_held key id hn
    have he : id ≠ leaseId := by
      rintro rfl
      rw [hold stored hs] at hst
      cases hst
    exact ⟨stored, (AList.lookup_erase_ne he).trans hs, hk, hst⟩
  held_named := by
    intro id stored hl hst
    by_cases he : id = leaseId
    · subst he
      rw [AList.lookup_erase] at hl
      cases hl
    · exact h.held_named id stored (AList.lookup_erase_ne he ▸ hl) hst

-- All that a call on leases can do to the store, short of a stale resolution.
inductive Change (s : MemoryStore) (call : LeaseCall) : MemoryStore → Prop
  | kept : Change s call s
  | taken {lease : ProviderRouteLease} (hne : lease.leaseId ≠ "") (hh : lease.status.held = true)
      (hfresh : s.memory.lookup lease.leaseId = none)
      (hfree : s.memoryByKey.lookup lease.key = none) :
      Change s call ⟨s.memory.insert lease.leaseId lease,
        s.memoryByKey.insert lease.key lease.leaseId⟩
  | revised {leaseId : String} {lease updated : ProviderRouteLease}
      (hl : s.memory.lookup leaseId = some lease) (hid : updated.leaseId = lease.leaseId)
      (hk : updated.key = lease.key) (hh : updated.status.held = lease.status.held) :
      Change s call { s with memory := s.memory.insert leaseId updated }
  | finished {leaseId : String} {lease updated : ProviderRouteLease}
      (hl : s.memory.lookup leaseId = some lease) (hid : updated.leaseId = lease.leaseId)
      (hh : updated.status.held = false)
      (hnamed : ∀ named, s.memoryByKey.lookup lease.key = some named → named = leaseId)
      (hends : call.Ends lease) :
      Change s call ⟨s.memory.insert leaseId updated, s.memoryByKey.erase lease.key⟩

theorem held_of_active (h : lease.status = .active) : lease.status.held = true := by
  simp [h, LeaseStatus.held]

theorem renew_change (now : Time) (leaseId token owner : String) (ttl : Time) :
    Change s (.renew leaseId token owner ttl) (s.memoryRenew now leaseId token owner ttl).2 := by
  cases hl : s.memory.lookup leaseId with
  | none => simpa [memoryRenew, hl] using .kept
  | some lease =>
      simp only [memoryRenew, hl]
      split
      · exact .kept
      split
      · exact .kept
      split
      · exact .kept
      · exact .revised hl rfl rfl rfl

theorem release_change (h : s.Sound) (now : Time) (leaseId token owner : String) :
    Change s (.release leaseId token owner) (s.memoryRelease now leaseId token owner).2 := by
  cases hl : s.memory.lookup leaseId with
  | none => simpa [memoryRelease, hl] using .kept
  | some lease =>
      simp only [memoryRelease, hl]
      split
      · exact .kept
      next hto =>
        split
        · exact .kept
        next hactive =>
          have hact : lease.status = .active := not_not.mp hactive
          have hname := h.held_named leaseId lease hl (held_of_active hact)
          have hto := not_or.mp hto
          refine .finished hl rfl rfl (fun named hn => ?_)
            ⟨(h.keyed leaseId lease hl).1.symm, (not_not.mp hto.1).symm, (not_not.mp hto.2).symm⟩
          rw [hname, Option.some.injEq] at hn
          exact hn.symm

theorem claim_change (h : s.Sound) (now : Time) (leaseId token owner : String) :
    Change s (.claimRecovery leaseId token owner)
      (s.memoryClaimRecovery now leaseId token owner).2 := by
  cases hl : s.memory.lookup leaseId with
  | none => simpa [memoryClaimRecovery, hl] using .kept
  | some lease =>
      simp only [memoryClaimRecovery, hl]
      split
      · exact .kept
      split
      · exact .kept
      next hname =>
        obtain ⟨stored, hs, -, hst⟩ := h.named_held lease.key leaseId (not_not.mp hname)
        obtain rfl : lease = stored := by rwa [hl, Option.some.injEq] at hs
        split
        · exact .kept
        split
        · exact .kept
        · exact .kept
        · exact .revised hl rfl rfl hst.symm

theorem mark_change (h : s.Sound) (leaseId token status : String) (details : Mapping)
    (hc : ∀ lease, s.memory.lookup leaseId = some lease → lease.leaseToken = token →
      resolves status = true → ∀ named, s.memoryByKey.lookup lease.key = some named →
        named = leaseId) :
    Change s (.markRecovery leaseId token status details)
      (s.markRecovery leaseId token status details).2 := by
  cases hl : s.memory.lookup leaseId with
  | none => simpa [markRecovery, hl] using .kept
  | some lease =>
      simp only [markRecovery, hl]
      split
      · exact .kept
      next htoken =>
        have htok := not_not.mp htoken
        split
        next hr =>
          exact .finished hl rfl (by simp [LeaseStatus.held]) (hc lease hl htok hr)
            ⟨(h.keyed leaseId lease hl).1.symm, htok.symm, hr⟩
        next => exact .revised hl rfl rfl (by simp)

theorem respond_change (h : s.Sound) {timed : TimedCall} (hd : memoryStore.LeaseCalls s timed)
    (hc : s.ResolvesNamed timed) : Change s timed.call (s.respond timed).2 := by
  obtain ⟨now, call⟩ := timed
  cases call with
  | tryAcquire leaseId token request =>
      simp only [respond, memoryAcquire]
      split
      · exact .kept
      next hfree =>
        refine .taken hd.1 (held_of_active rfl) hd.2 (Option.eq_none_iff_forall_ne_some.mpr ?_)
        exact fun named hn => hfree (h.keyHeld_iff.mpr ⟨named, hn⟩)
  | renew leaseId token owner ttl => exact renew_change now leaseId token owner ttl
  | release leaseId token owner => exact release_change h now leaseId token owner
  | claimRecovery leaseId token owner => exact claim_change h now leaseId token owner
  | markRecovery leaseId token status details => exact mark_change h leaseId token status details hc
  | get => exact .kept
  | getActive => exact .kept
  | listExpiredActive => exact .kept
  | isBlocked => exact .kept
  | blockConnector => exact hd.elim
  | clearBlock => exact hd.elim

theorem Change.sound (hchange : Change s call t) (h : s.Sound) : t.Sound := by
  cases hchange with
  | kept => exact h
  | taken hne hh hfresh hfree => exact h.taken hne hh hfresh hfree
  | revised hl hid hk hh => exact h.revised hl hid hk hh
  | finished hl hid hh hnamed _ => exact h.finished hl hid hh hnamed

theorem Change.marker_kept (hchange : Change s call t) (hl : s.memory.lookup leaseId = some lease)
    (hm : memoryStore.marker leaseId s) : memoryStore.marker leaseId t ∨ call.Ends lease := by
  obtain ⟨stored, hs, hn⟩ := hm
  obtain rfl : lease = stored := by rwa [hl, Option.some.injEq] at hs
  cases hchange with
  | kept => exact .inl ⟨lease, hl, hn⟩
  | taken hne hh hfresh hfree =>
      rename_i taken
      have hid : leaseId ≠ taken.leaseId := by
        rintro rfl
        rw [hfresh] at hl
        cases hl
      have hk : lease.key ≠ taken.key := by
        intro hk
        rw [hk, hfree] at hn
        cases hn
      exact .inl ⟨lease, (AList.lookup_insert_ne hid).trans hl, (AList.lookup_insert_ne hk).trans hn⟩
  | revised hr hid hk hh =>
      rename_i revised old updated
      by_cases he : leaseId = revised
      · subst he
        obtain rfl : lease = old := by rwa [hl, Option.some.injEq] at hr
        exact .inl ⟨updated, AList.lookup_insert _, hk ▸ hn⟩
      · exact .inl ⟨lease, (AList.lookup_insert_ne he).trans hl, hn⟩
  | finished hf hid hh hnamed hends =>
      rename_i finished old updated
      by_cases hk : lease.key = old.key
      · obtain rfl := hnamed leaseId (hk ▸ hn)
        obtain rfl : lease = old := by rwa [hl, Option.some.injEq] at hf
        exact .inr hends
      · have he : leaseId ≠ finished := by
          rintro rfl
          rw [hl, Option.some.injEq] at hf
          exact hk (by rw [hf])
        exact .inl ⟨lease, (AList.lookup_insert_ne he).trans hl, (AList.lookup_erase_ne hk).trans hn⟩

theorem one_holder {first second : String} (hf : memoryStore.Holds key first s)
    (hs : memoryStore.Holds key second s) : first = second := by
  obtain ⟨a, hga, hka, -, a', hla, hna⟩ := hf
  obtain ⟨b, hgb, hkb, -, b', hlb, hnb⟩ := hs
  obtain rfl : a = a' := Option.some.inj (hga.symm.trans hla)
  obtain rfl : b = b' := Option.some.inj (hgb.symm.trans hlb)
  rw [hka] at hna
  rw [hkb] at hnb
  exact Option.some.inj (hna.symm.trans hnb)

theorem granted_free (h : s.Sound) {now : Time} {token : String} {request : AcquireRequest}
    (hreply : (s.respond ⟨now, .tryAcquire leaseId token request⟩).1 = .lease (some lease))
    (holder : String) : ¬ memoryStore.Holds request.key holder s := by
  rintro ⟨held, hg, hk, -, stored, hl, hn⟩
  obtain rfl : held = stored := Option.some.inj (hg.symm.trans hl)
  rw [hk] at hn
  have hheld : s.keyHeld (request.lease now leaseId token).key = true :=
    h.keyHeld_iff.mpr ⟨holder, hn⟩
  simp [respond, memoryAcquire, hheld] at hreply

-- A stale resolution removes the marker of the lease that holds the key.
theorem marker_lost (h : s.Sound) (hc : ¬ s.ResolvesNamed timed) :
    ¬ memoryStore.Exclusive s timed := by
  obtain ⟨now, call⟩ := timed
  cases call with
  | markRecovery leaseId token status details =>
      simp only [ResolvesNamed, not_forall] at hc
      obtain ⟨lease, hl, htok, hr, named, hn, hne⟩ := hc
      obtain ⟨holder, hs, hk, -⟩ := h.named_held lease.key named hn
      intro hex
      rcases hex.marker_kept named holder hs ⟨holder, hs, hk ▸ hn⟩ with hm | hends
      · obtain ⟨stored, hst, hname⟩ := hm
        simp only [memoryStore, respond, markRecovery, hl, htok, ne_eq, not_true_eq_false,
          if_false, hr, if_true, popKey] at hst hname
        rw [AList.lookup_insert_ne hne] at hst
        obtain rfl : holder = stored := Option.some.inj (hs.symm.trans hst)
        rw [hk, AList.lookup_erase] at hname
        cases hname
      · exact hne ((h.keyed named holder hs).1 ▸ hends.1.symm)
  | _ => exact absurd trivial hc

theorem exclusive_iff (h : s.Sound) (hd : memoryStore.LeaseCalls s timed) :
    memoryStore.Exclusive s timed ↔ s.ResolvesNamed timed := by
  refine ⟨fun hex => by_contra fun hc => marker_lost h hc hex, fun hc => ?_⟩
  have hchange := respond_change h hd hc
  refine ⟨fun key first second => one_holder, ?_, fun leaseId lease hl hm =>
    hchange.marker_kept hl hm⟩
  rintro leaseId token request lease hcall hreply
  obtain ⟨now, call⟩ := timed
  obtain rfl : call = .tryAcquire leaseId token request := hcall
  exact granted_free h hreply

end MemoryStore

namespace LeaseTable

-- A renewal of a marked lease comes before the lease expires.
def RenewsInTime (t : LeaseTable) (timed : TimedCall) : Prop :=
  match timed.call with
  | .renew leaseId leaseToken owner _ =>
      ∀ row, t.rows.lookup leaseId = some row → row.leaseToken = leaseToken →
        row.ownerExecutionId = owner → row.status = .active → row.activeMarker = true →
          timed.now < row.expiresAt
  | _ => True

variable {t : LeaseTable} {key : Key} {row : ProviderRouteLeaseRow} {leaseId : String}
  {call : LeaseCall} {timed : TimedCall}

-- All that a call can do to the markers, short of a renewal that comes too late.
inductive Change (t : LeaseTable) (call : LeaseCall) : LeaseTable → Prop
  | kept : Change t call t
  | inserted {row : ProviderRouteLeaseRow} {next : LeaseTable} (h : t.insert row = some next) :
      Change t call next
  | updated {u : RowUpdate} (h : ∀ row, t.rows.lookup row.id = some row →
      row.activeMarker = true → (u.apply row).activeMarker = true ∨ call.Ends row.rowToLease) :
      Change t call (t.updateRows u)

-- The change of one row.
theorem Change.updatedRow {u : RowUpdate} (hl : t.rows.lookup leaseId = some row)
    (h : row.activeMarker = true → (u.apply row).activeMarker = true ∨ call.Ends row.rowToLease) :
    Change t call (t.update row.id u) := by
  refine .updated fun other ho hm => ?_
  by_cases he : other.id = row.id
  · have hid := t.keyed leaseId row hl
    obtain rfl : other = row := by
      rw [he, hid, hl] at ho
      exact (Option.some.inj ho).symm
    simpa [RowUpdate.onRow] using h hm
  · exact .inl (by simpa [RowUpdate.onRow, he] using hm)

theorem respond_change {timed : TimedCall} (hc : t.RenewsInTime timed) :
    Change t timed.call (t.respond timed).2 := by
  obtain ⟨now, call⟩ := timed
  cases call with
  | tryAcquire leaseId token request =>
      simp only [respond, dbAcquire]
      split
      · exact .kept
      split
      · exact .kept
      next h => exact .inserted h
  | renew leaseId token owner ttl =>
      simp only [respond, dbRenew]
      split
      · exact .kept
      next row hl =>
        split
        · exact .kept
        next hto =>
          split
          · exact .kept
          next hactive =>
            have hto := not_or.mp hto
            have hactive := not_or.mp hactive
            have htime := hc row hl (not_not.mp hto.1) (not_not.mp hto.2) (not_not.mp hactive.1)
              (by simpa using hactive.2)
            rw [if_neg (not_le.mpr htime)]
            exact .updatedRow hl fun hm => .inl hm
  | release leaseId token owner =>
      simp only [respond, dbRelease]
      split
      · exact .kept
      next row hl =>
        split
        · exact .kept
        next hto =>
          split
          · exact .kept
          next =>
            have hto := not_or.mp hto
            exact .updatedRow hl fun _ => .inr
              ⟨(t.keyed leaseId row hl).symm, (not_not.mp hto.1).symm, (not_not.mp hto.2).symm⟩
  | claimRecovery leaseId token owner =>
      simp only [respond, dbClaimRecovery]
      split
      · exact .kept
      next row hl =>
        split
        · exact .kept
        split
        · exact .kept
        split
        · exact .kept
        split
        · exact .kept
        · exact .kept
        · exact .updatedRow hl fun hm => .inl hm
  | markRecovery leaseId token status details =>
      simp only [respond, markRecovery]
      split
      · exact .kept
      next row hl =>
        split
        · exact .kept
        next htok =>
          refine .updatedRow hl fun hm => ?_
          by_cases hr : resolves status = true
          · exact .inr ⟨(t.keyed leaseId row hl).symm, (not_not.mp htok).symm, hr⟩
          · exact .inl (by simpa [RowUpdate.marked, hr] using hm)
  | blockConnector rowId token key reason =>
      simp only [respond, blockConnector]
      split
      · exact .kept
      next h => exact .inserted h
  | clearBlock key =>
      refine .updated fun row _ hm => .inl ?_
      simp only [RowUpdate.blockCleared]
      split <;> exact hm
  | get => exact .kept
  | getActive => exact .kept
  | listExpiredActive => exact .kept
  | isBlocked => exact .kept

theorem Change.marker_kept {next : LeaseTable} (hchange : Change t call next)
    (hl : t.rows.lookup leaseId = some row) (hm : row.activeMarker = true) :
    databaseStore.marker leaseId next ∨ call.Ends row.rowToLease := by
  have hid := t.keyed leaseId row hl
  cases hchange with
  | kept => exact .inl ⟨row, hl, hm⟩
  | inserted h =>
      rename_i added
      obtain ⟨hfree, hrows⟩ := insert_eq_some h
      have hne : leaseId ≠ added.id := by
        rintro rfl
        have hc := Table.select_eq_nil_iff.mp hfree _ row hl
        simp [ProviderRouteLeaseRow.clashes, hid] at hc
      exact .inl ⟨row, by rw [hrows, AList.lookup_insert_ne hne, hl], hm⟩
  | updated h =>
      rename_i u
      rcases h row (hid.symm ▸ hl) hm with hkept | hends
      · exact .inl ⟨u.apply row, by rw [lookup_updateRows, hl]; rfl, hkept⟩
      · exact .inr hends

theorem one_holder {first second : String} (hf : databaseStore.Holds key first t)
    (hs : databaseStore.Holds key second t) : first = second := by
  obtain ⟨a, hga, hka, -, row, hlr, hmr⟩ := hf
  obtain ⟨b, hgb, hkb, -, other, hlo, hmo⟩ := hs
  simp only [databaseStore, get, hlr, hlo, Option.map_some, Option.some.injEq] at hga hgb
  have hr := t.keyed first row hlr
  have ho := t.keyed second other hlo
  have hkey : row.key = other.key := by
    rw [← hga] at hka
    rw [← hgb] at hkb
    exact hka.trans hkb.symm
  have hid := marked_unique (hr.symm ▸ hlr) (ho.symm ▸ hlo) hmr hmo hkey
  rw [← hr, ← ho, hid]

theorem granted_free {now : Time} {token : String} {request : AcquireRequest}
    {lease : ProviderRouteLease}
    (hreply : (t.respond ⟨now, .tryAcquire leaseId token request⟩).1 = .lease (some lease))
    (holder : String) : ¬ databaseStore.Holds request.key holder t := by
  rintro ⟨held, hg, hk, -, row, hl, hm⟩
  simp only [databaseStore, get, hl, Option.map_some, Option.some.injEq] at hg
  have hrow : t.activeRow (request.lease now leaseId token).key = some row := by
    refine activeRow_eq_some_iff.mpr ⟨t.keyed holder row hl ▸ hl, ?_, hm⟩
    rw [← hg] at hk
    exact hk
  simp [respond, dbAcquire, hrow] at hreply

-- A late renewal removes the marker of the lease it fails to renew.
theorem marker_lost (hc : ¬ t.RenewsInTime timed) : ¬ databaseStore.Exclusive t timed := by
  obtain ⟨now, call⟩ := timed
  cases call with
  | renew leaseId token owner ttl =>
      simp only [RenewsInTime, not_forall] at hc
      obtain ⟨row, hl, htok, howner, hact, hm, hlate⟩ := hc
      intro hex
      rcases hex.marker_kept leaseId row.rowToLease (by simp [databaseStore, get, hl])
        ⟨row, hl, hm⟩ with hkept | hends
      · obtain ⟨stored, hs, hstored⟩ := hkept
        simp [databaseStore, respond, dbRenew, hl, htok, howner, hact, hm, not_lt.mp hlate,
          lookup_update, RowUpdate.expired] at hs
        rw [← hs] at hstored
        cases hstored
      · exact hends
  | _ => exact absurd trivial hc

theorem exclusive_iff : databaseStore.Exclusive t timed ↔ t.RenewsInTime timed := by
  refine ⟨fun hex => by_contra fun hc => marker_lost hc hex, fun hc => ?_⟩
  refine ⟨fun key first second => one_holder, ?_, ?_⟩
  · rintro leaseId token request lease hcall hreply
    obtain ⟨now, call⟩ := timed
    obtain rfl : call = .tryAcquire leaseId token request := hcall
    exact granted_free hreply
  · rintro leaseId lease hg ⟨row, hl, hm⟩
    obtain rfl : row.rowToLease = lease := by simpa [databaseStore, get, hl] using hg
    exact (respond_change hc).marker_kept hl hm

end LeaseTable

-- Every call on leases keeps exclusion exactly when no call is a stale
-- resolution in the memory store or a late renewal in the database.
theorem exclusion_iff_undisturbed (calls : List TimedCall)
    (hm : PlayAlong memoryStore.respond memoryStore.LeaseCalls memoryStore.initial calls)
    (hd : PlayAlong databaseStore.respond databaseStore.LeaseCalls databaseStore.initial calls) :
    (PlayAlong memoryStore.respond memoryStore.Exclusive memoryStore.initial calls ↔
      PlayAlong memoryStore.respond MemoryStore.ResolvesNamed memoryStore.initial calls) ∧
    (PlayAlong databaseStore.respond databaseStore.Exclusive databaseStore.initial calls ↔
      PlayAlong databaseStore.respond LeaseTable.RenewsInTime databaseStore.initial calls) := by
  constructor
  · exact playAlong_iff MemoryStore.Sound
      (fun s timed hs hdom => MemoryStore.exclusive_iff hs hdom)
      (fun s timed hs hdom hc => (MemoryStore.respond_change hs hdom hc).sound hs)
      MemoryStore.empty_sound hm
  · exact playAlong_iff (fun _ => True) (fun t timed _ _ => LeaseTable.exclusive_iff)
      (fun _ _ _ _ _ => trivial) trivial hd

section Runs

def sampleRequest : AcquireRequest where
  managerId := "fireconnect"
  connectorId := "codex"
  ownerExecutionId := "exec"
  ttl := 10
  originalState := .ofList [("enabled", .bool false)]

def firstGrant : TimedCall := ⟨0, .tryAcquire "lease-1" "token-1" sampleRequest⟩

-- The holder renews after its lease has expired.
def lateRenewal : List TimedCall := [firstGrant, ⟨20, .renew "lease-1" "token-1" "exec" 10⟩]

-- The first lease is resolved again after a second one has been granted.
def staleResolution : List TimedCall :=
  [firstGrant, ⟨1, .release "lease-1" "token-1" "exec"⟩,
    ⟨2, .tryAcquire "lease-2" "token-2" sampleRequest⟩,
    ⟨3, .markRecovery "lease-1" "token-1" "restored_verified" ∅⟩]

theorem exclusion_broken :
    PlayAlong databaseStore.respond databaseStore.LeaseCalls databaseStore.initial lateRenewal ∧
    (lateRenewal.map TimedCall.now).Pairwise (· ≤ ·) ∧
    ¬ PlayAlong databaseStore.respond databaseStore.Exclusive databaseStore.initial lateRenewal ∧
    PlayAlong memoryStore.respond memoryStore.LeaseCalls memoryStore.initial staleResolution ∧
    (staleResolution.map TimedCall.now).Pairwise (· ≤ ·) ∧
    ¬ PlayAlong memoryStore.respond memoryStore.Exclusive memoryStore.initial staleResolution := by
  refine ⟨⟨⟨by decide, rfl⟩, trivial, trivial⟩, by decide, ?_,
    ⟨⟨by decide, rfl⟩, trivial, ⟨by decide, rfl⟩, trivial, trivial⟩, by decide, ?_⟩
  · rintro ⟨-, hex, -⟩
    have hlate := LeaseTable.exclusive_iff.mp hex _ rfl rfl rfl rfl rfl
    revert hlate
    decide
  · rintro ⟨-, -, -, hex, -⟩
    rcases hex.marker_kept "lease-2" _ rfl ⟨_, rfl, rfl⟩ with ⟨lease, hl, hn⟩ | hends
    · obtain rfl := Option.some.inj hl
      revert hn
      decide
    · exact absurd hends.1 (by decide)

instance {s : MemoryStore} : ∀ timed, Decidable (memoryStore.LeaseCalls s timed)
  | ⟨_, .tryAcquire leaseId _ _⟩ =>
      inferInstanceAs (Decidable (leaseId ≠ "" ∧ s.memory.lookup leaseId = none))
  | ⟨_, .blockConnector _ _ _ _⟩ | ⟨_, .clearBlock _⟩ => .isFalse id
  | ⟨_, .renew _ _ _ _⟩ | ⟨_, .release _ _ _⟩ | ⟨_, .get _⟩ | ⟨_, .getActive _⟩
  | ⟨_, .listExpiredActive _⟩ | ⟨_, .claimRecovery _ _ _⟩ | ⟨_, .markRecovery _ _ _ _⟩
  | ⟨_, .isBlocked _⟩ => .isTrue trivial

instance {t : LeaseTable} : ∀ timed, Decidable (databaseStore.LeaseCalls t timed)
  | ⟨_, .tryAcquire leaseId _ _⟩ =>
      inferInstanceAs (Decidable (leaseId ≠ "" ∧ t.get leaseId = none))
  | ⟨_, .blockConnector _ _ _ _⟩ | ⟨_, .clearBlock _⟩ => .isFalse id
  | ⟨_, .renew _ _ _ _⟩ | ⟨_, .release _ _ _⟩ | ⟨_, .get _⟩ | ⟨_, .getActive _⟩
  | ⟨_, .listExpiredActive _⟩ | ⟨_, .claimRecovery _ _ _⟩ | ⟨_, .markRecovery _ _ _ _⟩
  | ⟨_, .isBlocked _⟩ => .isTrue trivial

instance {s : MemoryStore} (timed : TimedCall) : Decidable (s.ResolvesNamed timed) := by
  unfold MemoryStore.ResolvesNamed
  split
  next leaseId leaseToken status _ _ =>
    exact inferInstanceAs (Decidable (∀ lease ∈ s.memory.lookup leaseId,
      lease.leaseToken = leaseToken → resolves status = true →
        ∀ named ∈ s.memoryByKey.lookup lease.key, named = leaseId))
  · exact .isTrue trivial

instance {t : LeaseTable} (timed : TimedCall) : Decidable (t.RenewsInTime timed) := by
  unfold LeaseTable.RenewsInTime
  split
  next leaseId leaseToken owner _ _ =>
    exact inferInstanceAs (Decidable (∀ row ∈ t.rows.lookup leaseId, row.leaseToken = leaseToken →
      row.ownerExecutionId = owner → row.status = .active → row.activeMarker = true →
        timed.now < row.expiresAt))
  · exact .isTrue trivial

-- A lease is renewed in time and released; the next one expires, is claimed by a
-- recovery and resolved, and a third one is granted.
def succession : List TimedCall :=
  [firstGrant, ⟨5, .renew "lease-1" "token-1" "exec" 10⟩, ⟨6, .release "lease-1" "token-1" "exec"⟩,
    ⟨7, .tryAcquire "lease-2" "token-2" sampleRequest⟩,
    ⟨20, .claimRecovery "lease-2" "token-2" "recovery:1"⟩,
    ⟨21, .markRecovery "lease-2" "token-2" "restored_verified" ∅⟩,
    ⟨22, .tryAcquire "lease-3" "token-3" sampleRequest⟩]

theorem exclusion_iff_undisturbed_succession :
    PlayAlong memoryStore.respond memoryStore.Exclusive memoryStore.initial succession ∧
    PlayAlong databaseStore.respond databaseStore.Exclusive databaseStore.initial succession := by
  have hmemory : PlayAlong MemoryStore.respond (fun s timed => memoryStore.LeaseCalls s timed)
      .empty succession := by decide +kernel
  have hdatabase : PlayAlong LeaseTable.respond (fun t timed => databaseStore.LeaseCalls t timed)
      .empty succession := by decide +kernel
  have hnamed : PlayAlong MemoryStore.respond MemoryStore.ResolvesNamed .empty succession := by
    decide +kernel
  have htimely : PlayAlong LeaseTable.respond LeaseTable.RenewsInTime .empty succession := by
    decide +kernel
  have h := exclusion_iff_undisturbed succession hmemory hdatabase
  exact ⟨h.1.mpr hnamed, h.2.mpr htimely⟩

end Runs

end JoyMesh.ProviderRoutes
