import JoyMesh.Snapshots.Service

namespace JoyMesh.Snapshots

open JoyMesh.Library JoyMesh.Routing JoyMesh.Harnesses

section Definitions

variable {setup : Setup}

-- The harnesses that a call asks for: some of them, or all.
def Call.requested : Call → Option (List String)
  | .snapshot harnessIds _ => harnessIds
  | .harnessSnapshot harnessId _ => some [harnessId]
  | .refresh harnessId => (given harnessId).map fun harnessId => [harnessId]
  | .revalidateForLaunch harnessId _ _ => some [harnessId]
  | _ => none

-- The calls that have entered, and the one that filled the cache last.
def filledAfter (seen : List (Nat × Call) × Option Call) :
    (snapshots setup).Event → List (Nat × Call) × Option Call
  | .entered id call => ((id, call) :: seen.1, seen.2)
  | .did id (.putCached _) _ => (seen.1, seen.1.lookup id)
  | _ => seen

def seenCalls (history : List (snapshots setup).Event) : List (Nat × Call) × Option Call :=
  history.foldl filledAfter ([], none)

def callOf (history : List (snapshots setup).Event) (id : Nat) : Option Call :=
  (seenCalls history).1.lookup id

def filledBy (history : List (snapshots setup).Event) : Option Call := (seenCalls history).2

-- One entry for each of the harnesses, and no other.
def RuntimeSnapshot.Exactly (snapshot : RuntimeSnapshot) (harnessIds : List String) : Prop :=
  snapshot.ids.Nodup ∧ ∀ harnessId, harnessId ∈ snapshot.ids ↔ harnessId ∈ harnessIds

-- What a call that returns a snapshot was asked for.
def Returned (setup : Setup) (call : Call) (result : Except Raised Outcome) : Prop :=
  ∀ snapshot, result = .ok (.snapshot snapshot) →
    snapshot.Exactly (call.requested.getD setup.knownHarnessIds)

variable (setup) in
def Call.Whole (call : Call) : Prop :=
  ∀ harnessIds ∈ call.requested, harnessIds ⊆ setup.knownHarnessIds ∧
    setup.knownHarnessIds ⊆ harnessIds

-- A call for all the harnesses finds no snapshot in the cache that a call for some of them has
-- put there.
def FindsWhole (id : Nat) (s : (snapshots setup).State) (op : Op) : Prop :=
  op = .getCached → (∀ call ∈ callOf s.history id, call.requested = none) →
    (alive s.shared.now s.shared.cached).isSome → ∀ call ∈ filledBy s.history, call.Whole setup

instance (call : Call) : Decidable (call.Whole setup) :=
  inferInstanceAs (Decidable (∀ harnessIds ∈ call.requested, _ ∧ _))

instance (id : Nat) (s : (snapshots setup).State) : DecidablePred (FindsWhole id s) := fun _ =>
  inferInstanceAs (Decidable (_ → _ → _ → _))

def FoundWhole (w : (snapshots setup).World) : (snapshots setup).Label → Prop
  | .go id _ => ∀ op ∈ w.awaiting id, FindsWhole id w.state op
  | _ => True

instance (w : (snapshots setup).World) : DecidablePred (FoundWhole w)
  | .go id _ => inferInstanceAs (Decidable (∀ op ∈ w.awaiting id, FindsWhole id w.state op))
  | .start _ _ => .isTrue trivial
  | .outside _ => .isTrue trivial

end Definitions

section Entries

variable {setup : Setup} {snapshot cached part : RuntimeSnapshot} {harnessIds : List String}
  {call : Call}

theorem validateEntries_nodup {entries : List HarnessRuntimeSnapshot} {seen : List String}
    (h : validateEntries entries seen = .ok ()) :
    (entries.map HarnessRuntimeSnapshot.harnessId).Nodup ∧
      ∀ entry ∈ entries, entry.harnessId ∉ seen := by
  induction entries generalizing seen with
  | nil => exact ⟨List.nodup_nil, fun _ hmem => absurd hmem List.not_mem_nil⟩
  | cons entry rest ih =>
      obtain ⟨⟨⟩, hseen, h⟩ := bind_eq_ok.mp h
      obtain ⟨⟨⟩, -, hrest⟩ := bind_eq_ok.mp h
      obtain ⟨hnodup, hapart⟩ := ih hrest
      have hnew : entry.harnessId ∉ seen := by
        unfold refuse at hseen
        split at hseen
        · cases hseen
        next hnot => simpa using hnot
      refine ⟨List.nodup_cons.mpr ⟨fun hmem => ?_, hnodup⟩, fun other hother => ?_⟩
      · obtain ⟨other, hother, heq⟩ := List.mem_map.mp hmem
        exact hapart other hother (heq ▸ List.mem_cons_self ..)
      · rcases List.mem_cons.mp hother with rfl | hother
        · exact hnew
        · exact fun hmem => hapart other hother (List.mem_cons_of_mem _ hmem)

theorem validateSnapshot_nodup (h : validateSnapshot snapshot = .ok ()) : snapshot.ids.Nodup := by
  obtain ⟨⟨⟩, -, h⟩ := bind_eq_ok.mp h
  obtain ⟨⟨⟩, -, h⟩ := bind_eq_ok.mp h
  exact (validateEntries_nodup h).1

-- As many entries as are wanted, all of them wanted.
theorem part_exactly (h : cached.part harnessIds = some part) (hnodup : cached.ids.Nodup) :
    part.Exactly harnessIds := by
  simp only [RuntimeSnapshot.part] at h
  split at h
  next hlength =>
    cases h
    have hsub : (cached.harnesses.filter fun entry => harnessIds.contains entry.harnessId).map
        HarnessRuntimeSnapshot.harnessId ⊆ harnessIds.dedup := by
      intro harnessId hmem
      obtain ⟨entry, hentry, rfl⟩ := List.mem_map.mp hmem
      exact List.mem_dedup.mpr (by simpa using (List.mem_filter.mp hentry).2)
    have hkept : ((cached.harnesses.filter fun entry => harnessIds.contains entry.harnessId).map
        HarnessRuntimeSnapshot.harnessId).Nodup :=
      hnodup.sublist (List.filter_sublist.map _)
    have hperm := (hkept.subperm hsub).perm_of_length_le (by rw [List.length_map, hlength])
    exact ⟨hkept, fun harnessId => hperm.mem_iff.trans List.mem_dedup⟩
  next => cases h

-- What was filled by a call for all of them, or for as many, is exactly what is known.
theorem RuntimeSnapshot.Exactly.whole (h : snapshot.Exactly (call.requested.getD setup.knownHarnessIds))
    (hwhole : call.Whole setup) : snapshot.Exactly setup.knownHarnessIds := by
  cases hrequested : call.requested with
  | none => simpa [hrequested] using h
  | some harnessIds =>
      rw [hrequested, Option.getD_some] at h
      obtain ⟨hknown, hall⟩ := hwhole harnessIds hrequested
      exact ⟨h.1, fun harnessId => (h.2 harnessId).trans ⟨fun hmem => hknown hmem, fun hmem => hall hmem⟩⟩

end Entries

section Discipline

variable {setup : Setup} {s t : (snapshots setup).State} {id other : Nat} {op : Op}
  {choice : Choice} {shared after : Shared} {answer : Except Raised op.Reply}
  {event : (snapshots setup).Event} {history : List (snapshots setup).Event} {call : Call}

theorem seenCalls_concat : seenCalls (history ++ [event]) = filledAfter (seenCalls history) event := by
  rw [seenCalls, List.foldl_append]
  rfl

theorem callOf_did : callOf (history ++ [.did id op answer]) other = callOf history other := by
  rw [callOf, seenCalls_concat, callOf]
  cases op <;> rfl

theorem callOf_entered (hne : id ≠ other) :
    callOf (history ++ [.entered id call]) other = callOf history other := by
  rw [callOf, seenCalls_concat, filledAfter, List.lookup_cons,
    beq_false_of_ne (Ne.symm hne)]
  rfl

theorem filledBy_did (hop : ∀ snapshot, op ≠ .putCached snapshot) :
    filledBy (history ++ [.did id op answer]) = filledBy history := by
  rw [filledBy, seenCalls_concat, filledBy]
  cases op with
  | putCached snapshot => exact absurd rfl (hop snapshot)
  | _ => rfl

-- The call that has filled the cache was asked for what is there.
def Filled (s : (snapshots setup).State) : Prop :=
  ∀ snapshot expires, s.shared.cached = some (snapshot, expires) →
    ∃ call, filledBy s.history = some call ∧
      snapshot.Exactly (call.requested.getD setup.knownHarnessIds)

-- A call caches what it was asked for.
def Asked (id : Nat) (op : Op) (s : (snapshots setup).State) : Prop :=
  match op with
  | .putCached snapshot => ∃ call, callOf s.history id = some call ∧
      snapshot.Exactly (call.requested.getD setup.knownHarnessIds)
  | _ => True

structure Known (id : Nat) (s t : (snapshots setup).State) : Prop where
  call : ∀ call, callOf s.history id = some call → callOf t.history id = some call

theorem Filled.did (h : Filled s) (hasked : Asked id op s)
    (heffect : effect setup op choice s.shared = some (answer, after)) :
    Filled (s.note (.did id op answer) after) := by
  intro snapshot expires hcached
  rcases cached_of_effect heffect hcached with rfl | ⟨hop, hbefore⟩
  · obtain ⟨call, hcall, hexactly⟩ := hasked
    refine ⟨call, ?_, hexactly⟩
    rw [System.State.note_history, filledBy, seenCalls_concat]
    exact hcall
  · obtain ⟨call, hcall, hexactly⟩ := h snapshot expires hbefore
    exact ⟨call, (filledBy_did hop).trans hcall, hexactly⟩

theorem Filled.noted (h : Filled s) (hshared : shared.cached = s.shared.cached)
    (hfilled : filledBy (s.history ++ [event]) = filledBy s.history) :
    Filled (s.note event shared) := by
  intro snapshot expires hcached
  obtain ⟨call, hcall, hexactly⟩ := h snapshot expires (hshared ▸ hcached)
  exact ⟨call, hfilled.trans hcall, hexactly⟩

theorem filledBy_other (h : ∀ seen, (filledAfter seen event).2 = seen.2) :
    filledBy (history ++ [event]) = filledBy history := by
  rw [filledBy, seenCalls_concat, h, filledBy]

theorem Known.noted (h : callOf (s.history ++ [event]) id = callOf s.history id) :
    Known id s (s.note event shared) := ⟨fun _ hcall => h.trans hcall⟩

def completeDiscipline (setup : Setup) : (snapshots setup).Discipline where
  good := Filled
  fresh _ _ := True
  rely := Known
  lawful := Asked
  post _ call result _ := Returned setup call result
  admitted _ _ _ := True
  allowed id op _ s := FindsWhole id s op
  happens _ _ := True
  rely_refl _ _ := ⟨fun _ h => h⟩
  rely_trans _ _ _ _ hst htu := ⟨fun call h => htu.call call (hst.call call h)⟩
  fresh_rely _ _ _ _ _ := trivial
  post_rely _ _ _ _ _ _ h := h
  step_good _ _ _ _ _ _ hgood hasked _ heffect := hgood.did hasked heffect
  step_rely _ _ _ _ _ _ _ _ _ _ _ _ := .noted callOf_did
  enter_good _ _ _ _ hgood _ _ henter :=
    hgood.noted (Option.some.inj henter ▸ rfl) (filledBy_other fun _ => rfl)
  enter_rely _ _ _ _ _ hne _ _ _ := .noted (callOf_entered hne)
  leave_good _ _ _ _ hgood _ := hgood.noted rfl (filledBy_other fun _ => rfl)
  leave_rely _ _ _ _ _ _ _ _ := .noted (by rw [callOf, seenCalls_concat]; rfl)
  leave_post _ _ _ _ h := h
  outside_good _ _ _ hgood _ hevent :=
    hgood.noted (Option.some.inj hevent ▸ rfl) (filledBy_other fun _ => rfl)
  outside_rely _ _ _ _ _ _ _ := .noted (by rw [callOf, seenCalls_concat]; rfl)

end Discipline

section Programs

variable {setup : Setup} {s t : (snapshots setup).State} {id : Nat} {α β : Type} {call : Call}
  {harnessIds : Option (List String)} {refresh : Bool}

-- The awaits that cache nothing, and look for nothing there.
def Cacheless : Op → Prop
  | .putCached _ => False
  | .getCached => False
  | _ => True

theorem Cacheless.asked {op : Op} (h : Cacheless op) : Asked id op s := by
  cases op with
  | putCached => exact h.elim
  | _ => trivial

-- A program that caches nothing is the same call's all along.
theorem Cacheless.bind {program : SnapshotM α} {next : α → SnapshotM β}
    {assertion : β → (snapshots setup).State → Prop} (h : program.Every Cacheless)
    (hcall : callOf s.history id = some call)
    (hnext : ∀ value t, callOf t.history id = some call →
      (next value).Holds (completeDiscipline setup) id (Program.Yields assertion) t) :
    (program >>= next).Holds (completeDiscipline setup) id (Program.Yields assertion) s := by
  have hheld : program.Holds (completeDiscipline setup) id
      (fun _ t => callOf t.history id = some call) s :=
    h.keeping (fun _ _ hop _ _ => hop.asked) (fun _ _ (hknown : Known id _ _) h => hknown.call call h)
      (fun _ _ _ _ _ _ h _ _ => callOf_did.trans h) hcall
  exact hheld.bind (fun value t h => hnext value t h) fun _ _ _ => trivial

theorem Cacheless.of_quotaOp {op : Op} (h : QuotaOp op) : Cacheless op := by
  cases op with
  | putCached | getCached => exact h.elim
  | _ => trivial

-- What a call finds in the cache is what it asks for.
theorem getCached_bind {next : Option RuntimeSnapshot → SnapshotM β}
    {assertion : β → (snapshots setup).State → Prop} (hcall : callOf s.history id = some call)
    (hnext : ∀ found t, callOf t.history id = some call →
      (∀ snapshot ∈ found, snapshot.ids.Nodup ∧
        (call.requested = none → snapshot.Exactly setup.knownHarnessIds)) →
        (next found).Holds (completeDiscipline setup) id (Program.Yields assertion) t) :
    (perform .getCached >>= next).Holds (completeDiscipline setup) id
      (Program.Yields assertion) s := by
  refine .perform_bind (fun _ _ _ => trivial) (fun t choice found shared hknown hgood hallowed heffect => ?_)
    fun _ _ _ _ _ _ _ _ => trivial
  have hcall := hknown.call call hcall
  refine hnext found _ (callOf_did.trans hcall) fun snapshot hfound => ?_
  cases heffect
  obtain ⟨⟨cached, expires⟩, halive, rfl⟩ := Option.map_eq_some_iff.mp hfound
  obtain ⟨filler, hfiller, hexactly⟩ := hgood cached expires (Option.filter_eq_some_iff.mp halive).1
  refine ⟨hexactly.1, fun hrequested => hexactly.whole ?_⟩
  refine hallowed rfl (fun asked hasked => ?_) (Option.isSome_of_mem halive) filler hfiller
  rw [hcall, Option.mem_some] at hasked
  exact hasked ▸ hrequested

theorem cachedSnapshot_holds (hcall : callOf s.history id = some call) :
    (cachedSnapshot call.requested refresh).Holds (completeDiscipline setup) id
      (Program.Yields fun found t => callOf t.history id = some call ∧
        ∀ snapshot ∈ found, snapshot.Exactly (call.requested.getD setup.knownHarnessIds)) s := by
  unfold cachedSnapshot
  split
  · exact ⟨hcall, nofun⟩
  · refine getCached_bind hcall fun found t hcall hfound => ⟨hcall, fun snapshot hsnapshot => ?_⟩
    obtain ⟨cached, hcached, hpart⟩ := Option.bind_eq_some_iff.mp hsnapshot
    obtain ⟨hnodup, hwhole⟩ := hfound cached hcached
    cases hrequested : call.requested with
    | none =>
        rw [hrequested, Option.elim_none, Option.some.injEq] at hpart
        exact hpart ▸ hwhole hrequested
    | some harnessIds =>
        rw [hrequested, Option.elim_some] at hpart
        exact part_exactly hpart hnodup

theorem cachedWhole_holds (hcall : callOf s.history id = some call) :
    (cachedWhole call.requested refresh).Holds (completeDiscipline setup) id
      (Program.Yields fun found t => callOf t.history id = some call ∧
        ∀ snapshot ∈ found, snapshot.Exactly (call.requested.getD setup.knownHarnessIds)) s := by
  unfold cachedWhole
  split
  · exact ⟨hcall, nofun⟩
  · refine getCached_bind hcall fun found t hcall hfound => ⟨hcall, fun snapshot hsnapshot => ?_⟩
    cases hrequested : call.requested with
    | none =>
        rw [hrequested] at hsnapshot
        exact (hfound snapshot hsnapshot).2 hrequested
    | some harnessIds =>
        rw [hrequested] at hsnapshot
        cases hsnapshot

-- The entries stand in the order of the harnesses that are asked for.
def EntriesOf (call : Call) (id : Nat) (before : List String) (done : List HarnessRuntimeSnapshot)
    (s : (snapshots setup).State) : Prop :=
  callOf s.history id = some call ∧ done.map HarnessRuntimeSnapshot.harnessId = before

theorem entries_holds {harnessIds : List String} (hcall : callOf s.history id = some call) :
    (harnessIds.mapM (buildHarness setup refresh)).Holds (completeDiscipline setup) id
      (Program.Yields (EntriesOf call id harnessIds)) s := by
  have hentry : ∀ before harnessId after done t, harnessIds = before ++ harnessId :: after →
      EntriesOf call id before done t →
        (buildHarness setup refresh harnessId).Holds (completeDiscipline setup) id
          (Program.Yields fun entry => EntriesOf call id (before ++ [harnessId]) (done ++ [entry])) t := by
    intro before harnessId after done t _ ⟨hcall, hdone⟩
    have hquota : (quotaSnapshot harnessId refresh).Every Cacheless :=
      (quotaSnapshot_every harnessId refresh).mono fun _ => Cacheless.of_quotaOp
    have hstats : (perform (.getStats harnessId)).Every Cacheless := .perform trivial
    refine Cacheless.bind hquota hcall fun quota u hcall => ?_
    refine Cacheless.bind hstats hcall fun stats x hcall => ?_
    refine ⟨hcall, ?_⟩
    rw [List.map_append, hdone]
    rfl
  exact Program.Holds.mapM hentry ⟨hcall, rfl⟩

theorem store_holds {built : RuntimeSnapshot} (hcall : callOf s.history id = some call)
    (hids : built.ids = call.requested.getD setup.knownHarnessIds) :
    (store setup built).Holds (completeDiscipline setup) id (Program.Yields fun snapshot _ =>
      snapshot.Exactly (call.requested.getD setup.knownHarnessIds)) s := by
  rw [store]
  cases hvalid : validateSnapshot built with
  | error => trivial
  | ok =>
      have hexactly : built.Exactly (call.requested.getD setup.knownHarnessIds) :=
        ⟨validateSnapshot_nodup hvalid, fun harnessId => by rw [hids]⟩
      have hpublish : (publish setup built).Every Cacheless :=
        .bind lift_every fun _ => .bind lift_every fun _ => .perform trivial
      refine Cacheless.bind lift_every hcall fun _ t hcall => ?_
      refine Cacheless.bind (.perform trivial) hcall fun _ t hcall => ?_
      refine .perform_bind (fun t hknown _ => ⟨call, hknown.call call hcall, hexactly⟩)
        (fun t _ _ _ hknown _ _ _ => ?_) fun _ _ _ _ _ _ _ _ => trivial
      exact Cacheless.bind hpublish (callOf_did.trans (hknown.call call hcall))
        fun _ _ _ => hexactly

theorem build_holds (hcall : callOf s.history id = some call) :
    (build setup call.requested refresh).Holds (completeDiscipline setup) id
      (Program.Yields fun snapshot _ =>
        snapshot.Exactly (call.requested.getD setup.knownHarnessIds)) s := by
  refine (entries_holds hcall).yields_bind fun entries t h => ?_
  obtain ⟨hcall, hentries⟩ := h
  refine Cacheless.bind (.perform trivial) hcall fun snapshotId t hcall => ?_
  refine Cacheless.bind (.perform trivial) hcall fun now t hcall => ?_
  exact store_holds hcall hentries

theorem snapshot_holds (hcall : callOf s.history id = some call) :
    (snapshot setup call.requested refresh).Holds (completeDiscipline setup) id
      (Program.Yields fun snapshot _ =>
        snapshot.Exactly (call.requested.getD setup.knownHarnessIds)) s := by
  refine (cachedSnapshot_holds hcall).yields_bind fun found t h => ?_
  obtain ⟨hcall, hfound⟩ := h
  cases found with
  | some cached => exact hfound cached rfl
  | none =>
      refine holding_yields (fun op _ hop _ => ?_) (fun t shared hknown => ?_)
        fun _ _ _ _ _ h _ => h
      · rcases hop with rfl | rfl <;> trivial
      · refine (cachedWhole_holds (callOf_did.trans (hknown.call call hcall))).yields_bind
          fun found t h => ?_
        obtain ⟨hcall, hfound⟩ := h
        cases found with
        | some cached => exact hfound cached rfl
        | none => exact build_holds hcall

theorem returned_of_yields {program : SnapshotM Outcome}
    (h : program.Holds (completeDiscipline setup) id (Program.Yields fun outcome _ =>
      ∀ snapshot, outcome = .snapshot snapshot →
        snapshot.Exactly (call.requested.getD setup.knownHarnessIds)) s) :
    program.Holds (completeDiscipline setup) id (fun result _ => Returned setup call result) s :=
  h.mono fun result _ hresult snapshot heq => by
    subst heq
    exact hresult snapshot rfl

theorem harnessSnapshot_holds {harnessId : String} (hcall : callOf s.history id = some call)
    (hrequested : call.requested = some [harnessId]) :
    (harnessSnapshot setup harnessId refresh).Holds (completeDiscipline setup) id
      (Program.Yields fun _ _ => True) s := by
  rw [harnessSnapshot, ← hrequested]
  refine (snapshot_holds hcall).yields_bind fun full t _ => ?_
  cases full.harness harnessId <;> trivial

theorem observed_cacheless (harnessId : String) (execution : Execution) :
    (observed setup harnessId execution).Every Cacheless := by
  have hquota : (observeQuota setup harnessId execution.observation).Every Cacheless :=
    (observeQuota_every setup harnessId _).mono fun _ h => .of_quotaOp h.quotaOp
  exact .perform_bind trivial fun _ => .perform_bind trivial fun _ => .perform_bind trivial fun _ =>
    .bind hquota fun _ => .perform trivial

theorem complete_programs : (completeDiscipline setup).Programs := by
  intro id call s t _ _ _ _
  have hcall : callOf (s.note (.entered id call) t).history id = some call := by
    rw [System.State.note_history, callOf, seenCalls_concat, filledAfter, List.lookup_cons,
      beq_self_eq_true]
  have hsnapshot : ∀ {renew}, (snapshot setup call.requested renew).Holds (completeDiscipline setup)
      id (Program.Yields fun snapshot _ =>
        snapshot.Exactly (call.requested.getD setup.knownHarnessIds))
      (s.note (.entered id call) t) := snapshot_holds hcall
  refine returned_of_yields ?_
  cases call with
  | quotaSnapshot harnessId renew =>
      exact Cacheless.bind ((quotaSnapshot_every harnessId renew).mono fun _ => .of_quotaOp) hcall
        fun _ _ _ _ heq => by cases heq
  | listSnapshots harnessIds renew =>
      exact Cacheless.bind ((listSnapshots_every setup harnessIds renew).mono fun _ => .of_quotaOp)
        hcall fun _ _ _ _ heq => by cases heq
  | refreshQuota harnessId =>
      exact Cacheless.bind ((refreshQuota_every setup harnessId).mono fun _ => .of_quotaOp) hcall
        fun _ _ _ _ heq => by cases heq
  | observeQuota harnessId observation =>
      exact Cacheless.bind ((observeQuota_every setup harnessId observation).mono fun _ h =>
        .of_quotaOp h.quotaOp) hcall fun _ _ _ _ heq => by cases heq
  | snapshot => exact hsnapshot.yields_bind fun _ _ h _ heq => by cases heq; exact h
  | harnessSnapshot harnessId renew =>
      exact (harnessSnapshot_holds hcall rfl).yields_bind fun _ _ _ _ heq => by cases heq
  | refresh harnessId =>
      have hrefresh : (refreshSnapshots setup harnessId).Holds (completeDiscipline setup) id
          (Program.Yields fun snapshot _ => snapshot.Exactly
            ((Call.refresh harnessId).requested.getD setup.knownHarnessIds))
          (s.note (.entered id (.refresh harnessId)) t) :=
        Cacheless.bind (.perform trivial) hcall fun _ _ hcall => snapshot_holds hcall
      exact hrefresh.yields_bind fun _ _ h _ heq => by cases heq; exact h
  | observeExecution harnessId execution =>
      have hobserve : (observeExecution setup harnessId execution).Holds (completeDiscipline setup) id
          (Program.Yields fun snapshot _ => snapshot.Exactly setup.knownHarnessIds)
          (s.note (.entered id (.observeExecution harnessId execution)) t) :=
        Cacheless.bind (observed_cacheless harnessId execution) hcall fun _ _ hcall =>
          snapshot_holds hcall
      exact hobserve.yields_bind fun _ _ h _ heq => by cases heq; exact h
  | markRunStarted harnessId =>
      have hmark : (markRunStarted harnessId).Every Cacheless :=
        .perform_bind trivial fun _ => .perform trivial
      exact Cacheless.bind hmark hcall fun _ _ _ _ heq => by cases heq
  | revalidateForLaunch harnessId required priorAvailability =>
      have hrevalidate : (revalidateForLaunch setup harnessId required priorAvailability).Holds
          (completeDiscipline setup) id (Program.Yields fun _ _ => True)
          (s.note (.entered id (.revalidateForLaunch harnessId required priorAvailability)) t) := by
        refine (harnessSnapshot_holds hcall rfl).yields_bind fun entry u _ => ?_
        refine .perform_bind (fun _ _ _ => trivial) (fun _ _ recorded _ _ _ _ _ => ?_)
          fun _ _ _ _ _ _ _ _ => trivial
        cases launchError setup harnessId required (priorAvailability <|> recorded) entry <;> trivial
      exact hrevalidate.yields_bind fun _ _ _ _ heq => by cases heq

end Programs

section Complete

variable {setup : Setup} {w : (snapshots setup).World} {labels : List (snapshots setup).Label}

-- Over every run of calls of both services, a snapshot that a call returns has exactly the
-- entries that the call asked for, where no call for all of them finds a part in the cache.
theorem snapshot_complete
    (hrun : run System.World.step (.initial (snapshots setup) {}) labels = some w)
    (hwhole : Along System.World.step FoundWhole (.initial (snapshots setup) {}) labels)
    (id : Nat) (call : Call) (result : Except Raised Outcome)
    (hended : w.threads id = some ⟨call, .ended result⟩) : Returned setup call result := by
  have hinitial : (completeDiscipline setup).Sound (.initial (snapshots setup) {}) :=
    System.Discipline.sound_initial (fun _ _ h => by cases h) fun _ => trivial
  refine (hinitial.run complete_programs ?_ hrun).ended hended
  refine hwhole.mono fun w label h => ?_
  cases label with
  | start => trivial
  | go => exact h
  | outside => trivial

-- All the harnesses, built once and found in the cache after that.
def builtOnce : List (snapshots twoProviders).Label :=
  [.start 0 (.snapshot none false)] ++ goes 0 25 ++ [.start 1 (.snapshot none false)] ++ goes 1 1

theorem builtOnce_isSome :
    (run System.World.step (.initial (snapshots twoProviders) {}) builtOnce).isSome = true := by
  decide +kernel

def foundWhole : (snapshots twoProviders).World :=
  (run System.World.step (.initial (snapshots twoProviders) {}) builtOnce).get builtOnce_isSome

def entryOf (harnessId : String) : HarnessRuntimeSnapshot :=
  harnessEntry twoProviders harnessId { ready with harnessId := harnessId } {}

def wholeSnapshot : RuntimeSnapshot where
  snapshotId := "s"
  observedAt := ⟨0, true⟩
  harnesses := [entryOf "codex", entryOf "gemini-cli"]

theorem foundWhole_returned :
    foundWhole.returned 1 = some (.snapshot none false, .ok (.snapshot wholeSnapshot)) := by
  decide +kernel

theorem foundWhole_exactly : wholeSnapshot.Exactly twoProviders.knownHarnessIds :=
  snapshot_complete (Option.some_get builtOnce_isSome).symm (by decide +kernel) 1
    (.snapshot none false) (.ok (.snapshot wholeSnapshot))
    (System.World.thread_of_returned foundWhole_returned) wholeSnapshot rfl

-- One harness is built, and then all are asked for.
def builtPart : List (snapshots twoProviders).Label :=
  [.start 0 (.harnessSnapshot "codex" false)] ++ goes 0 17 ++ [.start 1 (.snapshot none false)] ++
    goes 1 1

def partSnapshot : RuntimeSnapshot := { wholeSnapshot with harnesses := [entryOf "codex"] }

theorem builtPart_returned :
    (run System.World.step (.initial (snapshots twoProviders) {}) builtPart).bind
        (fun w => w.returned 1) =
      some (.snapshot none false, .ok (.snapshot partSnapshot)) := by
  decide +kernel

theorem part_for_whole : partSnapshot.ids = ["codex"] ∧
    twoProviders.knownHarnessIds = ["codex", "gemini-cli"] ∧
    ¬∀ labels w, run System.World.step (.initial (snapshots twoProviders) {}) labels = some w →
      ∀ id call result, w.threads id = some ⟨call, .ended result⟩ →
        Returned twoProviders call result := by
  refine ⟨rfl, by decide +kernel, fun hall => ?_⟩
  obtain ⟨w, hw, hreturned⟩ := Option.bind_eq_some_iff.mp builtPart_returned
  have hexactly := hall builtPart w hw 1 _ _ (System.World.thread_of_returned hreturned)
    partSnapshot rfl
  have hknown : "gemini-cli" ∈ twoProviders.knownHarnessIds := by decide +kernel
  have hmissing : "gemini-cli" ∉ partSnapshot.ids := by decide
  exact hmissing ((hexactly.2 "gemini-cli").mpr hknown)

end Complete

end JoyMesh.Snapshots
