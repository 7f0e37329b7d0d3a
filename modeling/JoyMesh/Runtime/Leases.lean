import JoyMesh.Library.Run
import JoyMesh.Library.Table
import JoyMesh.Value

namespace JoyMesh.Runtime

open JoyMesh.Library

inductive LeaseStatus where
  | active
  | expired
  | released
  | reconciling
deriving DecidableEq, Repr

def LeaseStatus.value : LeaseStatus → String
  | active => "active"
  | expired => "expired"
  | released => "released"
  | reconciling => "reconciling"

structure TaskLease where
  leaseId : String
  taskId : String
  nodeId : String
  connectorId : String
  attemptId : String
  fencingToken : Nat
  acquiredAt : Time
  expiresAt : Time
  heartbeatAt : Time
  status : LeaseStatus
deriving DecidableEq, Repr

-- The texts of the PermissionError that a lease call raises.
inductive LeaseRefusal where
  | hasActiveLease
  | noActiveLease
  | staleFencingToken
  | noLeaseToRelease
  | noLeaseForTask
  | leaseIdMismatch
  | attemptIdMismatch
  | leaseIs (status : LeaseStatus)
deriving DecidableEq, Repr

def LeaseRefusal.text : LeaseRefusal → String
  | hasActiveLease => "task already has an active lease"
  | noActiveLease => "no active lease"
  | staleFencingToken => "stale fencing token"
  | noLeaseToRelease => "no lease to release"
  | noLeaseForTask => "no lease for task"
  | leaseIdMismatch => "lease_id mismatch"
  | attemptIdMismatch => "attempt_id mismatch"
  | leaseIs status => "lease is " ++ status.value

structure AcquireRequest where
  taskId : String
  nodeId : String
  connectorId : String
  attemptId : String
  now : Option Time := none
deriving DecidableEq

structure LeaseService where
  ttl : Time
  active : Table String TaskLease
  tokens : Table String Nat

namespace LeaseService

def initial (ttl : Time) : LeaseService := ⟨ttl, ∅, ∅⟩

-- A lease is marked as expired when a call finds it so, whatever its status.
def activeLease (now : Time) (taskId : String) (s : LeaseService) :
    Option TaskLease × LeaseService :=
  match s.active.lookup taskId with
  | none => (none, s)
  | some lease =>
      if lease.expiresAt ≤ now then
        let expired := { lease with status := .expired }
        (some expired, { s with active := s.active.insert taskId expired })
      else (some lease, s)

-- The clock is read for the lookup and again for the times of the lease.
def acquire (now stamp : Time) (leaseId : String) (request : AcquireRequest) (s : LeaseService) :
    Except LeaseRefusal TaskLease × LeaseService :=
  let (current, s) := s.activeLease now request.taskId
  if current.any (·.status = .active) then (.error .hasActiveLease, s)
  else
    let stamp := request.now.getD stamp
    let token := (s.tokens.lookup request.taskId).getD 0 + 1
    let lease : TaskLease :=
      { leaseId := leaseId
        taskId := request.taskId
        nodeId := request.nodeId
        connectorId := request.connectorId
        attemptId := request.attemptId
        fencingToken := token
        acquiredAt := stamp
        expiresAt := stamp + s.ttl
        heartbeatAt := stamp
        status := .active }
    (.ok lease,
      { s with
        active := s.active.insert request.taskId lease
        tokens := s.tokens.insert request.taskId token })

def heartbeat (now stamp : Time) (taskId : String) (fencingToken : Nat) (s : LeaseService) :
    Except LeaseRefusal TaskLease × LeaseService :=
  match s.activeLease now taskId with
  | (none, s) => (.error .noActiveLease, s)
  | (some lease, s) =>
      if lease.status ≠ .active then (.error .noActiveLease, s)
      else if fencingToken ≠ lease.fencingToken then (.error .staleFencingToken, s)
      else
        let renewed := { lease with
          expiresAt := stamp + s.ttl
          heartbeatAt := stamp
          status := .active }
        (.ok renewed, { s with active := s.active.insert taskId renewed })

def release (now : Time) (taskId : String) (fencingToken : Nat) (s : LeaseService) :
    Except LeaseRefusal TaskLease × LeaseService :=
  match s.activeLease now taskId with
  | (none, s) => (.error .noLeaseToRelease, s)
  | (some lease, s) =>
      if fencingToken ≠ lease.fencingToken then (.error .staleFencingToken, s)
      else
        let released := { lease with status := .released }
        (.ok released, { s with active := s.active.insert taskId released })

def validateEvent (now : Time) (taskId leaseId : String) (fencingToken : Nat) (attemptId : String)
    (s : LeaseService) : Except LeaseRefusal TaskLease × LeaseService :=
  match s.activeLease now taskId with
  | (none, s) => (.error .noLeaseForTask, s)
  | (some lease, s) =>
      if lease.leaseId ≠ leaseId then (.error .leaseIdMismatch, s)
      else if lease.attemptId ≠ attemptId then (.error .attemptIdMismatch, s)
      else if fencingToken ≠ lease.fencingToken then (.error .staleFencingToken, s)
      else if lease.status ≠ .active then (.error (.leaseIs lease.status), s)
      else (.ok lease, s)

end LeaseService

inductive LeaseCall where
  | activeLease (taskId : String)
  | acquire (leaseId : String) (request : AcquireRequest)
  | heartbeat (taskId : String) (fencingToken : Nat)
  | release (taskId : String) (fencingToken : Nat)
  | validateEvent (taskId leaseId : String) (fencingToken : Nat) (attemptId : String)
deriving DecidableEq

def LeaseCall.taskId : LeaseCall → String
  | .activeLease taskId => taskId
  | .acquire _ request => request.taskId
  | .heartbeat taskId _ => taskId
  | .release taskId _ => taskId
  | .validateEvent taskId .. => taskId

-- A call with the two readings of the clock that it may take.
structure TimedCall where
  now : Time
  stamp : Time
  call : LeaseCall
deriving DecidableEq

namespace LeaseService

def respond (s : LeaseService) (timed : TimedCall) :
    Except LeaseRefusal (Option TaskLease) × LeaseService :=
  match timed.call with
  | .activeLease taskId => (s.activeLease timed.now taskId).map .ok id
  | .acquire leaseId request => (s.acquire timed.now timed.stamp leaseId request).map (·.map some) id
  | .heartbeat taskId token => (s.heartbeat timed.now timed.stamp taskId token).map (·.map some) id
  | .release taskId token => (s.release timed.now taskId token).map (·.map some) id
  | .validateEvent taskId leaseId token attemptId =>
      (s.validateEvent timed.now taskId leaseId token attemptId).map (·.map some) id

variable {s : LeaseService} {now stamp : Time} {taskId : String} {lease : TaskLease}
  {t : LeaseService} {leaseId attemptId : String} {token : Nat}

-- The record of the task as a lookup leaves it.
def seen (lease : TaskLease) (now : Time) : TaskLease :=
  if lease.expiresAt ≤ now then { lease with status := .expired } else lease

theorem activeLease_fst :
    (s.activeLease now taskId).1 = (s.active.lookup taskId).map fun lease => seen lease now := by
  unfold activeLease seen
  cases s.active.lookup taskId with
  | none => rfl
  | some lease => by_cases h : lease.expiresAt ≤ now <;> simp [h]

theorem activeLease_lookup (other : String) :
    (s.activeLease now taskId).2.active.lookup other =
      if other = taskId then (s.active.lookup taskId).map fun lease => seen lease now
      else s.active.lookup other := by
  unfold activeLease seen
  cases hl : s.active.lookup taskId with
  | none =>
      by_cases ho : other = taskId
      · subst ho
        simp [hl]
      · simp [ho]
  | some lease =>
      by_cases ho : other = taskId
      · subst ho
        by_cases h : lease.expiresAt ≤ now <;> simp [h, hl]
      · by_cases h : lease.expiresAt ≤ now <;> simp [h, ho]

@[simp] theorem activeLease_tokens : (s.activeLease now taskId).2.tokens = s.tokens := by
  unfold activeLease
  split
  · rfl
  · split <;> rfl

@[simp] theorem activeLease_ttl : (s.activeLease now taskId).2.ttl = s.ttl := by
  unfold activeLease
  split
  · rfl
  · split <;> rfl

@[simp] theorem seen_leaseId : (seen lease now).leaseId = lease.leaseId := by
  unfold seen; split <;> rfl

@[simp] theorem seen_taskId : (seen lease now).taskId = lease.taskId := by
  unfold seen; split <;> rfl

@[simp] theorem seen_attemptId : (seen lease now).attemptId = lease.attemptId := by
  unfold seen; split <;> rfl

@[simp] theorem seen_fencingToken : (seen lease now).fencingToken = lease.fencingToken := by
  unfold seen; split <;> rfl

theorem seen_active (h : (seen lease now).status = .active) :
    lease.status = .active ∧ now < lease.expiresAt := by
  unfold seen at h
  split at h
  · cases h
  next hlate => exact ⟨h, not_le.mp hlate⟩

-- What a call does after its lookup: nothing, a new record of the same lease
-- that is not revived, or a new lease where none is active.
inductive Change (timed : TimedCall) (looked : LeaseService) :
    Except LeaseRefusal (Option TaskLease) → LeaseService → Prop
  | kept {answer} (h : ∀ leaseId request, timed.call = .acquire leaseId request →
      ∃ refusal, answer = .error refusal) : Change timed looked answer looked
  | written {answer record next} (hslot : looked.active.lookup timed.call.taskId = some record)
      (hid : next.leaseId = record.leaseId) (htask : next.taskId = record.taskId)
      (hattempt : next.attemptId = record.attemptId)
      (htoken : next.fencingToken = record.fencingToken)
      (hactive : next.status = .active → record.status = .active)
      (hcall : ∀ leaseId request, timed.call ≠ .acquire leaseId request) :
      Change timed looked answer
        { looked with active := looked.active.insert timed.call.taskId next }
  | granted {leaseId request lease} (hcall : timed.call = .acquire leaseId request)
      (hfree : ∀ record, looked.active.lookup request.taskId = some record →
        record.status ≠ .active)
      (hid : lease.leaseId = leaseId) (htask : lease.taskId = request.taskId)
      (hattempt : lease.attemptId = request.attemptId)
      (htoken : lease.fencingToken = (looked.tokens.lookup request.taskId).getD 0 + 1)
      (hactive : lease.status = .active) :
      Change timed looked (.ok (some lease))
        { looked with
          active := looked.active.insert request.taskId lease
          tokens := looked.tokens.insert request.taskId lease.fencingToken }

-- The record that a lookup answers is the one it leaves.
theorem activeLease_some (h : s.activeLease now taskId = (some lease, t)) :
    t.active.lookup taskId = some lease := by
  have hfst : (s.activeLease now taskId).1 = _ := activeLease_fst
  have hlook : (s.activeLease now taskId).2.active.lookup taskId = _ := activeLease_lookup taskId
  rw [h] at hfst hlook
  rw [hlook, if_pos rfl, ← hfst]

theorem validateEvent_snd :
    (s.validateEvent now taskId leaseId token attemptId).2 = (s.activeLease now taskId).2 := by
  unfold validateEvent
  split
  next h => rw [h]
  next h =>
    rw [h]
    split_ifs <;> rfl

theorem respond_change (s : LeaseService) (timed : TimedCall) :
    Change timed (s.activeLease timed.now timed.call.taskId).2 (s.respond timed).1
      (s.respond timed).2 := by
  obtain ⟨now, stamp, call⟩ := timed
  cases call with
  | activeLease taskId => exact .kept (fun _ _ h => (by cases h))
  | acquire leaseId request =>
      simp only [respond, acquire, LeaseCall.taskId]
      split
      · exact .kept fun _ _ _ => ⟨_, rfl⟩
      next hfree =>
        refine .granted rfl ?_ rfl rfl rfl rfl rfl
        intro record hr hactive
        rw [activeLease_lookup, if_pos rfl, ← activeLease_fst] at hr
        simp [hr, hactive] at hfree
  | heartbeat taskId token =>
      cases h : s.activeLease now taskId with
      | mk found t =>
          cases found with
          | none =>
              simp only [respond, heartbeat, LeaseCall.taskId, h]
              exact .kept (fun _ _ h => (by cases h))
          | some record =>
              simp only [respond, heartbeat, LeaseCall.taskId, h]
              split
              · exact .kept (fun _ _ h => (by cases h))
              next hactive =>
                split
                · exact .kept (fun _ _ h => (by cases h))
                · exact .written (activeLease_some h) rfl rfl rfl rfl
                    (fun _ => not_not.mp hactive) (fun _ _ h => (by cases h))
  | release taskId token =>
      cases h : s.activeLease now taskId with
      | mk found t =>
          cases found with
          | none =>
              simp only [respond, release, LeaseCall.taskId, h]
              exact .kept (fun _ _ h => (by cases h))
          | some record =>
              simp only [respond, release, LeaseCall.taskId, h]
              split
              · exact .kept (fun _ _ h => (by cases h))
              · exact .written (activeLease_some h) rfl rfl rfl rfl (fun h => (by cases h))
                  (fun _ _ h => (by cases h))
  | validateEvent taskId leaseId token attemptId =>
      have hkept : (s.respond ⟨now, stamp, .validateEvent taskId leaseId token attemptId⟩).2 =
          (s.activeLease now taskId).2 := validateEvent_snd
      rw [hkept]
      exact .kept (fun _ _ h => (by cases h))

theorem lookup_of_activeLease (h : s.activeLease now taskId = (some lease, t)) :
    ∃ record, s.active.lookup taskId = some record ∧ seen record now = lease := by
  have hfst : (s.activeLease now taskId).1 = _ := activeLease_fst
  rw [h] at hfst
  exact Option.map_eq_some_iff.mp hfst.symm

-- A call that succeeds gives the credentials of the record of the task.
theorem heartbeat_ok (h : (s.heartbeat now stamp taskId token).1 = .ok lease) :
    ∃ record, s.active.lookup taskId = some record ∧ record.fencingToken = token := by
  cases hl : s.activeLease now taskId with
  | mk found t =>
      cases found with
      | none => simp [heartbeat, hl] at h
      | some found =>
          obtain ⟨record, hr, rfl⟩ := lookup_of_activeLease hl
          simp only [heartbeat, hl] at h
          split_ifs at h with _ htoken
          exact ⟨record, hr, by simpa using (not_not.mp htoken).symm⟩

theorem release_ok (h : (s.release now taskId token).1 = .ok lease) :
    ∃ record, s.active.lookup taskId = some record ∧ record.fencingToken = token := by
  cases hl : s.activeLease now taskId with
  | mk found t =>
      cases found with
      | none => simp [release, hl] at h
      | some found =>
          obtain ⟨record, hr, rfl⟩ := lookup_of_activeLease hl
          simp only [release, hl] at h
          split_ifs at h with htoken
          exact ⟨record, hr, by simpa using (not_not.mp htoken).symm⟩

theorem validateEvent_ok (h : (s.validateEvent now taskId leaseId token attemptId).1 = .ok lease) :
    ∃ record, s.active.lookup taskId = some record ∧ record.leaseId = leaseId ∧
      record.attemptId = attemptId ∧ record.fencingToken = token ∧ record.status = .active := by
  cases hl : s.activeLease now taskId with
  | mk found t =>
      cases found with
      | none => simp [validateEvent, hl] at h
      | some found =>
          obtain ⟨record, hr, rfl⟩ := lookup_of_activeLease hl
          simp only [validateEvent, hl] at h
          split_ifs at h with hid hattempt htoken hactive
          exact ⟨record, hr, by simpa using hid, by simpa using hattempt,
            by simpa using (not_not.mp htoken).symm, (seen_active (not_not.mp hactive)).1⟩

section Frames

variable {token : Nat} {t : LeaseService} {timed : TimedCall} {other : String} {leaseId : String}
  {request : AcquireRequest}

-- The record of a task is filed under the task that it names.
def Keyed (s : LeaseService) : Prop :=
  ∀ taskId lease, s.active.lookup taskId = some lease → lease.taskId = taskId

-- The release asks for no more than the token.
theorem release_held (now : Time) (hslot : s.active.lookup taskId = some lease) :
    ∃ released t, s.release now taskId lease.fencingToken = (.ok released, t) ∧
      t.active.lookup taskId = some released ∧ released.status = .released := by
  cases hl : s.activeLease now taskId with
  | mk found t =>
      have hfst : (s.activeLease now taskId).1 = _ := activeLease_fst
      rw [hl, hslot, Option.map_some] at hfst
      dsimp only at hfst
      subst hfst
      simp only [release, hl, seen_fencingToken, ne_eq, not_true_eq_false, if_false]
      exact ⟨_, _, rfl, AList.lookup_insert _, rfl⟩

theorem respond_lookup_other (h : other ≠ timed.call.taskId) :
    (s.respond timed).2.active.lookup other = s.active.lookup other := by
  have hlooked : (s.activeLease timed.now timed.call.taskId).2.active.lookup other =
      s.active.lookup other := by rw [activeLease_lookup, if_neg h]
  have hchange := respond_change s timed
  generalize (s.respond timed).1 = answer, (s.respond timed).2 = after at hchange ⊢
  cases hchange with
  | kept _ => exact hlooked
  | written _ _ _ _ _ _ _ => rwa [AList.lookup_insert_ne h]
  | @granted _ request _ hcall _ _ _ _ _ _ =>
      have hne : other ≠ request.taskId := by simpa [hcall, LeaseCall.taskId] using h
      rwa [AList.lookup_insert_ne hne]

theorem respond_tokens (h : ∀ leaseId request, timed.call ≠ .acquire leaseId request) :
    (s.respond timed).2.tokens = s.tokens := by
  have hchange := respond_change s timed
  generalize (s.respond timed).1 = answer, (s.respond timed).2 = after at hchange ⊢
  cases hchange with
  | kept _ => exact activeLease_tokens
  | written _ _ _ _ _ _ _ => exact activeLease_tokens
  | granted hcall _ _ _ _ _ _ => exact absurd hcall (h _ _)

theorem Keyed.activeLease (h : s.Keyed) : (s.activeLease now taskId).2.Keyed := by
  intro other found hfound
  rw [activeLease_lookup] at hfound
  split at hfound
  next heq =>
    obtain ⟨record, hr, rfl⟩ := Option.map_eq_some_iff.mp hfound
    rw [seen_taskId, heq, h _ _ hr]
  · exact h _ _ hfound

theorem Keyed.respond (h : s.Keyed) : (s.respond timed).2.Keyed := by
  have hlooked : (s.activeLease timed.now timed.call.taskId).2.Keyed := h.activeLease
  have hchange := respond_change s timed
  generalize (s.respond timed).1 = answer, (s.respond timed).2 = after at hchange ⊢
  cases hchange with
  | kept _ => exact hlooked
  | written hslot _ htask _ _ _ _ =>
      intro other found hfound
      rcases eq_or_ne other timed.call.taskId with rfl | hne
      · obtain rfl := Option.some.inj ((AList.lookup_insert _).symm.trans hfound)
        rw [htask, hlooked _ _ hslot]
      · exact hlooked _ _ (by rwa [AList.lookup_insert_ne hne] at hfound)
  | @granted _ request _ hcall _ _ htask _ _ _ =>
      intro other found hfound
      rcases eq_or_ne other request.taskId with rfl | hne
      · obtain rfl := Option.some.inj ((AList.lookup_insert _).symm.trans hfound)
        exact htask
      · exact hlooked _ _ (by rwa [AList.lookup_insert_ne hne] at hfound)

theorem activeLease_unexpired (hslot : s.active.lookup taskId = some lease)
    (hlive : now < lease.expiresAt) : s.activeLease now taskId = (some lease, s) := by
  simp [activeLease, hslot, not_le.mpr hlive]

-- An unexpired lease is out of reach for a holder of another token.
theorem heartbeat_stale (hslot : s.active.lookup taskId = some lease)
    (hlive : now < lease.expiresAt) (htoken : token ≠ lease.fencingToken) :
    (s.heartbeat now stamp taskId token).2 = s := by
  simp only [heartbeat, activeLease_unexpired hslot hlive, if_pos htoken]
  split <;> rfl

theorem release_stale (hslot : s.active.lookup taskId = some lease)
    (hlive : now < lease.expiresAt) (htoken : token ≠ lease.fencingToken) :
    (s.release now taskId token).2 = s := by
  simp only [release, activeLease_unexpired hslot hlive, if_pos htoken]

theorem heartbeat_live (hslot : s.active.lookup taskId = some lease)
    (hlive : now < lease.expiresAt) (hactive : lease.status = .active) :
    ∃ renewed, (s.heartbeat now stamp taskId lease.fencingToken).1 = .ok renewed := by
  simp [heartbeat, activeLease_unexpired hslot hlive, hactive]

theorem heartbeat_renewed (h : s.heartbeat now stamp taskId token = (.ok lease, t)) :
    t.active.lookup taskId = some lease ∧ lease.fencingToken = token ∧ lease.status = .active ∧
      ∃ record, s.active.lookup taskId = some record ∧ lease.taskId = record.taskId := by
  cases hl : s.activeLease now taskId with
  | mk found looked =>
      cases found with
      | none => simp [heartbeat, hl] at h
      | some found =>
          obtain ⟨record, hr, rfl⟩ := lookup_of_activeLease hl
          simp only [heartbeat, hl] at h
          split_ifs at h with hactive htoken
          · cases h
          · cases h
          · obtain ⟨hlease, rfl⟩ := Prod.mk.inj h
            obtain rfl := Except.ok.inj hlease
            exact ⟨AList.lookup_insert _, (not_not.mp htoken).symm, rfl, record, hr, seen_taskId⟩

theorem Keyed.acquire (h : s.Keyed) : (s.acquire now stamp leaseId request).2.Keyed := by
  have hresponse : (s.respond ⟨now, stamp, .acquire leaseId request⟩).2.Keyed := h.respond
  exact hresponse

theorem acquire_lookup_other (h : other ≠ request.taskId) :
    (s.acquire now stamp leaseId request).2.active.lookup other = s.active.lookup other := by
  have hresponse : (s.respond ⟨now, stamp, .acquire leaseId request⟩).2.active.lookup other =
      s.active.lookup other := respond_lookup_other h
  exact hresponse

theorem acquire_refused {refusal : LeaseRefusal}
    (h : s.acquire now stamp leaseId request = (.error refusal, t)) :
    t = (s.activeLease now request.taskId).2 := by
  simp only [acquire] at h
  split_ifs at h
  · exact (Prod.mk.inj h).2.symm
  · cases h

-- A lease is granted where none is active, under the next token.
theorem acquire_granted (h : s.acquire now stamp leaseId request = (.ok lease, t)) :
    lease.taskId = request.taskId ∧
      lease.fencingToken = (s.tokens.lookup request.taskId).getD 0 + 1 ∧
      t.tokens = s.tokens.insert request.taskId lease.fencingToken := by
  simp only [acquire] at h
  split_ifs at h
  · cases h
  · obtain ⟨hlease, rfl⟩ := Prod.mk.inj h
    obtain rfl := Except.ok.inj hlease
    simp

theorem acquire_filed (h : s.acquire now stamp leaseId request = (.ok lease, t)) :
    t.active.lookup request.taskId = some lease ∧ lease.attemptId = request.attemptId := by
  simp only [acquire] at h
  split_ifs at h
  · cases h
  · obtain ⟨hlease, rfl⟩ := Prod.mk.inj h
    obtain rfl := Except.ok.inj hlease
    exact ⟨AList.lookup_insert _, rfl⟩

end Frames

end LeaseService

end JoyMesh.Runtime
