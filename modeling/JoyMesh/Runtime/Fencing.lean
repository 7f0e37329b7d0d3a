import JoyMesh.Runtime.Leases

namespace JoyMesh.Runtime

open JoyMesh.Library

-- What an observer of the calls knows: the service, the last record written of
-- each lease, and the leases granted so far in their order.
structure Observed where
  service : LeaseService
  ledger : Table String TaskLease
  granted : List TaskLease

def grants (call : LeaseCall) (answer : Except LeaseRefusal (Option TaskLease)) : List TaskLease :=
  match call, answer with
  | .acquire .., .ok (some lease) => [lease]
  | _, _ => []

namespace Observed

def initial (ttl : Time) : Observed := ⟨.initial ttl, ∅, []⟩

-- Both the lookup of a call and its own effect can write the record of the task.
def see (taskId : String) (service : LeaseService) (ledger : Table String TaskLease) :
    Table String TaskLease :=
  match service.active.lookup taskId with
  | none => ledger
  | some record => ledger.insert record.leaseId record

def looked (o : Observed) (timed : TimedCall) : Observed :=
  let service := (o.service.activeLease timed.now timed.call.taskId).2
  { o with service := service, ledger := see timed.call.taskId service o.ledger }

def respond (o : Observed) (timed : TimedCall) :
    Except LeaseRefusal (Option TaskLease) × Observed :=
  let (answer, next) := o.service.respond timed
  (answer,
    { service := next
      ledger := see timed.call.taskId next (o.looked timed).ledger
      granted := o.granted ++ grants timed.call answer })

def after (ttl : Time) (calls : List TimedCall) : Observed := play respond (initial ttl) calls

-- The ids of leases come from uuid4.
def FreshId (o : Observed) (timed : TimedCall) : Prop :=
  match timed.call with
  | .acquire leaseId _ => o.ledger.lookup leaseId = none
  | _ => True

-- By its last record the lease is active, and it has not expired.
def Live (o : Observed) (now : Time) (lease : TaskLease) : Prop :=
  ∃ record, o.ledger.lookup lease.leaseId = some record ∧ record.status = .active ∧
    now < record.expiresAt

structure Sound (o : Observed) : Prop where
  slot_task : ∀ taskId record, o.service.active.lookup taskId = some record → record.taskId = taskId
  slot_token : ∀ taskId record, o.service.active.lookup taskId = some record →
    o.service.tokens.lookup taskId = some record.fencingToken
  slot_granted : ∀ taskId record, o.service.active.lookup taskId = some record →
    ∃ lease ∈ o.granted, lease.taskId = taskId ∧ lease.leaseId = record.leaseId ∧
      lease.attemptId = record.attemptId ∧ lease.fencingToken = record.fencingToken
  slot_ledger : ∀ taskId record, o.service.active.lookup taskId = some record →
    o.ledger.lookup record.leaseId = some record
  granted_bound : ∀ lease ∈ o.granted, ∃ token, o.service.tokens.lookup lease.taskId = some token ∧
    lease.fencingToken ≤ token
  granted_slot : ∀ lease ∈ o.granted, ∃ record, o.service.active.lookup lease.taskId = some record
  granted_ledger : ∀ lease ∈ o.granted, ∃ record, o.ledger.lookup lease.leaseId = some record ∧
    record.taskId = lease.taskId
  granted_sorted : o.granted.Pairwise fun older newer =>
    older.taskId = newer.taskId → older.fencingToken < newer.fencingToken
  granted_ids : (o.granted.map (·.leaseId)).Nodup
  -- only the record that the service holds can be active
  ledger_active : ∀ leaseId record, o.ledger.lookup leaseId = some record →
    record.leaseId = leaseId ∧
      (record.status = .active → o.service.active.lookup record.taskId = some record)

theorem initial_sound (ttl : Time) : Sound (initial ttl) := by
  constructor <;> simp [initial, LeaseService.initial]

variable {o next : Observed} {taskId : String} {record updated lease : TaskLease}
  {timed : TimedCall} {leaseId : String} {older : TaskLease} {service : LeaseService}
  {ledger : Table String TaskLease} {calls : List TimedCall}

-- The record of a task is replaced by one of the same lease that is not revived.
structure Rewritten (o : Observed) (taskId : String) (record updated : TaskLease)
    (next : Observed) : Prop where
  slot : o.service.active.lookup taskId = some record
  same_lease : updated.leaseId = record.leaseId
  same_task : updated.taskId = record.taskId
  same_attempt : updated.attemptId = record.attemptId
  same_token : updated.fencingToken = record.fencingToken
  not_revived : updated.status = .active → record.status = .active
  slots : ∀ other, next.service.active.lookup other =
    if other = taskId then some updated else o.service.active.lookup other
  tokens : next.service.tokens = o.service.tokens
  ledger : ∀ leaseId, next.ledger.lookup leaseId =
    if leaseId = record.leaseId then some updated else o.ledger.lookup leaseId
  granted : next.granted = o.granted

theorem Rewritten.ended (h : Rewritten o taskId record updated next) (hs : o.Sound)
    {leaseId : String} {old : TaskLease} (hl : o.ledger.lookup leaseId = some old)
    (hold : old.status ≠ .active) :
    ∃ new, next.ledger.lookup leaseId = some new ∧ new.status ≠ .active := by
  rw [h.ledger leaseId]
  by_cases hid : leaseId = record.leaseId
  · subst hid
    obtain rfl := Option.some.inj ((hs.slot_ledger taskId record h.slot).symm.trans hl)
    exact ⟨updated, if_pos rfl, fun hu => hold (h.not_revived hu)⟩
  · exact ⟨old, by rw [if_neg hid, hl], hold⟩

theorem Rewritten.sound (h : Rewritten o taskId record updated next) (hs : o.Sound) :
    next.Sound where
  slot_task := by
    intro other found hf
    rw [h.slots] at hf
    split at hf
    next he =>
      obtain rfl := Option.some.inj hf
      rw [h.same_task, he]
      exact hs.slot_task taskId record h.slot
    · exact hs.slot_task other found hf
  slot_token := by
    intro other found hf
    rw [h.slots] at hf
    rw [h.tokens]
    split at hf
    next he =>
      obtain rfl := Option.some.inj hf
      rw [h.same_token, he]
      exact hs.slot_token taskId record h.slot
    · exact hs.slot_token other found hf
  slot_granted := by
    intro other found hf
    rw [h.slots] at hf
    rw [h.granted]
    split at hf
    next he =>
      obtain rfl := Option.some.inj hf
      rw [h.same_lease, h.same_attempt, h.same_token, he]
      exact hs.slot_granted taskId record h.slot
    · exact hs.slot_granted other found hf
  slot_ledger := by
    intro other found hf
    rw [h.slots] at hf
    rw [h.ledger]
    split at hf
    next he =>
      obtain rfl := Option.some.inj hf
      rw [if_pos h.same_lease]
    next he =>
      have hne : found.leaseId ≠ record.leaseId := by
        intro hid
        have hsame := (hs.slot_ledger other found hf).symm.trans
          (hid ▸ hs.slot_ledger taskId record h.slot)
        obtain rfl := Option.some.inj hsame
        exact he ((hs.slot_task other found hf).symm.trans (hs.slot_task taskId found h.slot))
      rw [if_neg hne]
      exact hs.slot_ledger other found hf
  granted_bound := by
    rw [h.granted, h.tokens]
    exact hs.granted_bound
  granted_slot := by
    rw [h.granted]
    intro lease hm
    rw [h.slots]
    split
    · exact ⟨updated, rfl⟩
    · exact hs.granted_slot lease hm
  granted_ledger := by
    rw [h.granted]
    intro lease hm
    obtain ⟨old, hl, ht⟩ := hs.granted_ledger lease hm
    rw [h.ledger]
    split
    next hid =>
      rw [hid, hs.slot_ledger taskId record h.slot] at hl
      obtain rfl := Option.some.inj hl
      exact ⟨updated, rfl, h.same_task.trans ht⟩
    · exact ⟨old, hl, ht⟩
  granted_sorted := by
    rw [h.granted]
    exact hs.granted_sorted
  granted_ids := by
    rw [h.granted]
    exact hs.granted_ids
  ledger_active := by
    intro leaseId found hf
    rw [h.ledger] at hf
    split at hf
    next hid =>
      obtain rfl := Option.some.inj hf
      refine ⟨h.same_lease.trans hid.symm, fun _ => ?_⟩
      rw [h.slots, if_pos (h.same_task.trans (hs.slot_task taskId record h.slot))]
    next hid =>
      obtain ⟨hfid, hactive⟩ := hs.ledger_active leaseId found hf
      refine ⟨hfid, fun ha => ?_⟩
      have hslot := hactive ha
      rw [h.slots]
      split
      next ht =>
        -- the slot would hold a record of another lease
        rw [ht, h.slot] at hslot
        obtain rfl := Option.some.inj hslot
        exact absurd hfid.symm hid
      · exact hslot

-- A new lease takes the record of its task, where no active one stands.
structure Granted (o : Observed) (lease : TaskLease) (next : Observed) : Prop where
  fresh : o.ledger.lookup lease.leaseId = none
  free : ∀ record, o.service.active.lookup lease.taskId = some record → record.status ≠ .active
  token : lease.fencingToken = (o.service.tokens.lookup lease.taskId).getD 0 + 1
  slots : ∀ other, next.service.active.lookup other =
    if other = lease.taskId then some lease else o.service.active.lookup other
  tokens : ∀ other, next.service.tokens.lookup other =
    if other = lease.taskId then some lease.fencingToken else o.service.tokens.lookup other
  ledger : ∀ leaseId, next.ledger.lookup leaseId =
    if leaseId = lease.leaseId then some lease else o.ledger.lookup leaseId
  granted : next.granted = o.granted ++ [lease]

theorem Granted.ended (h : Granted o lease next) {leaseId : String} {old : TaskLease}
    (hl : o.ledger.lookup leaseId = some old) (hold : old.status ≠ .active) :
    ∃ new, next.ledger.lookup leaseId = some new ∧ new.status ≠ .active := by
  have hne : leaseId ≠ lease.leaseId := by
    rintro rfl
    rw [h.fresh] at hl
    cases hl
  exact ⟨old, by rw [h.ledger, if_neg hne, hl], hold⟩

theorem Granted.newer (h : Granted o lease next) (hs : o.Sound) (hm : older ∈ o.granted)
    (ht : older.taskId = lease.taskId) : older.fencingToken < lease.fencingToken := by
  obtain ⟨token, htoken, hle⟩ := hs.granted_bound older hm
  rw [h.token, ← ht, htoken, Option.getD_some]
  omega

theorem Granted.other_id (h : Granted o lease next) (hs : o.Sound) (hm : older ∈ o.granted) :
    older.leaseId ≠ lease.leaseId := by
  intro hid
  obtain ⟨old, hl, -⟩ := hs.granted_ledger older hm
  rw [hid, h.fresh] at hl
  cases hl

theorem Granted.sound (h : Granted o lease next) (hs : o.Sound) : next.Sound where
  slot_task := by
    intro other found hf
    rw [h.slots] at hf
    split at hf
    next he =>
      obtain rfl := Option.some.inj hf
      exact he.symm
    · exact hs.slot_task other found hf
  slot_token := by
    intro other found hf
    rw [h.slots] at hf
    rw [h.tokens]
    split at hf
    next he =>
      obtain rfl := Option.some.inj hf
      rw [if_pos he]
    next he =>
      rw [if_neg he]
      exact hs.slot_token other found hf
  slot_granted := by
    intro other found hf
    rw [h.slots] at hf
    rw [h.granted]
    split at hf
    next he =>
      obtain rfl := Option.some.inj hf
      exact ⟨lease, by simp, he.symm, rfl, rfl, rfl⟩
    · obtain ⟨older, hm, hrest⟩ := hs.slot_granted other found hf
      exact ⟨older, List.mem_append_left _ hm, hrest⟩
  slot_ledger := by
    intro other found hf
    rw [h.slots] at hf
    rw [h.ledger]
    split at hf
    · obtain rfl := Option.some.inj hf
      rw [if_pos rfl]
    · have hl := hs.slot_ledger other found hf
      have hne : found.leaseId ≠ lease.leaseId := by
        intro hid
        rw [hid, h.fresh] at hl
        cases hl
      rw [if_neg hne, hl]
  granted_bound := by
    rw [h.granted]
    intro older hm
    rw [h.tokens]
    rcases List.mem_append.mp hm with hm | hm
    · split
      next ht => exact ⟨_, rfl, (h.newer hs hm ht).le⟩
      · exact hs.granted_bound older hm
    · obtain rfl := List.mem_singleton.mp hm
      exact ⟨_, if_pos rfl, le_rfl⟩
  granted_slot := by
    rw [h.granted]
    intro older hm
    rw [h.slots]
    rcases List.mem_append.mp hm with hm | hm
    · split
      · exact ⟨lease, rfl⟩
      · exact hs.granted_slot older hm
    · obtain rfl := List.mem_singleton.mp hm
      exact ⟨_, if_pos rfl⟩
  granted_ledger := by
    rw [h.granted]
    intro older hm
    rw [h.ledger]
    rcases List.mem_append.mp hm with hm | hm
    · rw [if_neg (h.other_id hs hm)]
      exact hs.granted_ledger older hm
    · obtain rfl := List.mem_singleton.mp hm
      exact ⟨_, if_pos rfl, rfl⟩
  granted_sorted := by
    rw [h.granted, List.pairwise_append]
    refine ⟨hs.granted_sorted, List.pairwise_singleton _ _, fun older hm newer hn ht => ?_⟩
    obtain rfl := List.mem_singleton.mp hn
    exact h.newer hs hm ht
  granted_ids := by
    rw [h.granted, List.map_append, List.nodup_append]
    refine ⟨hs.granted_ids, List.nodup_singleton _, fun older ho newer hn => ?_⟩
    obtain ⟨other, hm, rfl⟩ := List.mem_map.mp ho
    obtain rfl := List.mem_singleton.mp hn
    exact h.other_id hs hm
  ledger_active := by
    intro leaseId found hf
    rw [h.ledger] at hf
    rw [h.slots]
    split at hf
    next hid =>
      obtain rfl := Option.some.inj hf
      exact ⟨hid.symm, fun _ => if_pos rfl⟩
    · obtain ⟨hfid, hactive⟩ := hs.ledger_active leaseId found hf
      refine ⟨hfid, fun ha => ?_⟩
      have hslot := hactive ha
      -- an active record does not stand where the new lease was granted
      have hne : found.taskId ≠ lease.taskId := fun ht => h.free found (ht ▸ hslot) ha
      rw [if_neg hne, hslot]

-- Each call rewrites records of one task, and at most grants a lease at last.
inductive Moves (o : Observed) : Observed → Prop
  | refl : Moves o o
  | rewritten {middle next taskId record updated} (h : Moves o middle)
      (hr : Rewritten middle taskId record updated next) : Moves o next
  | granted {middle next lease} (h : Moves o middle) (hg : Granted middle lease next) : Moves o next

theorem Moves.sound (h : Moves o next) (hs : o.Sound) : next.Sound := by
  induction h with
  | refl => exact hs
  | rewritten _ hr ih => exact hr.sound ih
  | granted _ hg ih => exact hg.sound ih

theorem Moves.ended (h : Moves o next) (hs : o.Sound) {leaseId : String} {old : TaskLease}
    (hl : o.ledger.lookup leaseId = some old) (hold : old.status ≠ .active) :
    ∃ new, next.ledger.lookup leaseId = some new ∧ new.status ≠ .active := by
  induction h with
  | refl => exact ⟨old, hl, hold⟩
  | rewritten h hr ih =>
      obtain ⟨new, hn, hnew⟩ := ih
      exact hr.ended (h.sound hs) hn hnew
  | granted _ hg ih =>
      obtain ⟨new, hn, hnew⟩ := ih
      exact hg.ended hn hnew

theorem lookup_see (h : service.active.lookup taskId = some record) (leaseId : String) :
    (see taskId service ledger).lookup leaseId =
      if leaseId = record.leaseId then some record else ledger.lookup leaseId := by
  simp only [see, h]
  by_cases hid : leaseId = record.leaseId
  · subst hid
    simp
  · simp [hid]

theorem see_none (h : service.active.lookup taskId = none) :
    see taskId service ledger = ledger := by
  simp only [see, h]

theorem looked_moves : Moves o (o.looked timed) := by
  cases hl : o.service.active.lookup timed.call.taskId with
  | none =>
      have hsame : o.looked timed = o := by
        simp [looked, see, LeaseService.activeLease, hl]
      rw [hsame]
      exact .refl
  | some record =>
      have hslot : (o.looked timed).service.active.lookup timed.call.taskId =
          some (LeaseService.seen record timed.now) := by
        simp [looked, LeaseService.activeLease_lookup, hl]
      have hrewritten : Rewritten o timed.call.taskId record (LeaseService.seen record timed.now)
          (o.looked timed) :=
        { slot := hl
          same_lease := LeaseService.seen_leaseId
          same_task := LeaseService.seen_taskId
          same_attempt := LeaseService.seen_attemptId
          same_token := LeaseService.seen_fencingToken
          not_revived := fun h => (LeaseService.seen_active h).1
          slots := fun other => by simp [looked, LeaseService.activeLease_lookup, hl]
          tokens := LeaseService.activeLease_tokens
          ledger := fun leaseId => by
            have hsee : (see timed.call.taskId (o.looked timed).service o.ledger).lookup leaseId =
                _ := lookup_see hslot leaseId
            rwa [LeaseService.seen_leaseId] at hsee
          granted := rfl }
      exact .rewritten .refl hrewritten

theorem looked_fresh (hs : o.Sound) (h : o.ledger.lookup leaseId = none) :
    (o.looked timed).ledger.lookup leaseId = none := by
  cases hslot : (o.looked timed).service.active.lookup timed.call.taskId with
  | none => rw [← h]; exact congrArg (AList.lookup leaseId) (see_none hslot)
  | some record =>
      have hl : (see timed.call.taskId (o.looked timed).service o.ledger).lookup leaseId = _ :=
        lookup_see hslot leaseId
      split at hl
      next hid =>
        -- the record of a task belongs to a granted lease, which the ledger knows
        obtain ⟨lease, hm, -, hsame, -⟩ := (looked_moves.sound hs).slot_granted _ record hslot
        obtain ⟨old, hold, -⟩ := hs.granted_ledger lease hm
        rw [hsame, ← hid, h] at hold
        cases hold
      · exact hl.trans h

theorem respond_moves (hs : o.Sound) (hfresh : o.FreshId timed) :
    Moves o (o.respond timed).2 := by
  have hchange := LeaseService.respond_change o.service timed
  generalize ha : (o.service.respond timed).1 = answer at hchange
  generalize hn : (o.service.respond timed).2 = service at hchange
  have hnext : (o.respond timed).2 =
      { service := service
        ledger := see timed.call.taskId service (o.looked timed).ledger
        granted := o.granted ++ grants timed.call answer } := by
    rw [← ha, ← hn]
    rfl
  rw [hnext]
  cases hchange with
  | kept hrefused =>
      have hgrants : grants timed.call answer = [] := by
        cases hc : timed.call with
        | acquire leaseId request =>
            obtain ⟨refusal, rfl⟩ := hrefused leaseId request hc
            rfl
        | _ => rfl
      rw [hgrants, List.append_nil]
      cases hslot : (o.looked timed).service.active.lookup timed.call.taskId with
      | none =>
          have hsame : see timed.call.taskId (o.service.activeLease timed.now timed.call.taskId).2
              (o.looked timed).ledger = (o.looked timed).ledger := see_none hslot
          rw [hsame]
          exact looked_moves
      | some record =>
          exact .rewritten looked_moves
            ⟨hslot, rfl, rfl, rfl, rfl, id, fun other => by
              split
              next ht => rw [ht]; exact hslot
              · rfl, rfl, lookup_see hslot, rfl⟩
  | written hslot hid htask hattempt htoken hactive hcall =>
      rename_i record updated
      have hgrants : grants timed.call answer = [] := by
        cases hc : timed.call with
        | acquire leaseId request => exact absurd hc (hcall leaseId request)
        | _ => rfl
      rw [hgrants, List.append_nil]
      refine .rewritten looked_moves
        ⟨hslot, hid, htask, hattempt, htoken, hactive, fun other => ?_, rfl, fun leaseId => ?_, rfl⟩
      · by_cases ho : other = timed.call.taskId
        · subst ho
          simp
        · simp [ho, looked]
      · rw [← hid]
        exact lookup_see (AList.lookup_insert _) leaseId
  | granted hcall hfree hid htask hattempt htoken hactive =>
      rename_i leaseId request lease
      have hcalled : timed.call.taskId = request.taskId := by rw [hcall]; rfl
      have hfresh' : o.ledger.lookup lease.leaseId = none := by
        unfold FreshId at hfresh
        rw [hcall] at hfresh
        rwa [hid]
      have hgrants : grants timed.call (.ok (some lease)) = [lease] := by rw [hcall]; rfl
      rw [hgrants, hcalled]
      refine .granted looked_moves
        ⟨looked_fresh hs hfresh', fun record hr => ?_, ?_, fun other => ?_, fun other => ?_,
          lookup_see (AList.lookup_insert _), rfl⟩
      · rw [htask] at hr
        exact hfree record (hcalled ▸ hr)
      · rw [htoken, htask]
        rfl
      · rw [htask]
        by_cases ho : other = request.taskId
        · subst ho
          simp
        · simp [ho, looked, hcalled]
      · rw [htask]
        by_cases ho : other = request.taskId
        · subst ho
          simp
        · simp [ho, looked]

theorem Sound.respond (hs : o.Sound) (hfresh : o.FreshId timed) : (o.respond timed).2.Sound :=
  (respond_moves hs hfresh).sound hs

theorem play_sound (hs : o.Sound) (hfresh : PlayAlong Observed.respond FreshId o calls) :
    (play Observed.respond o calls).Sound := by
  induction calls generalizing o with
  | nil => exact hs
  | cons timed calls ih => exact ih (hs.respond hfresh.1) hfresh.2

theorem play_ended (hs : o.Sound) (hfresh : PlayAlong Observed.respond FreshId o calls)
    {old : TaskLease} (hl : o.ledger.lookup leaseId = some old) (hold : old.status ≠ .active) :
    ∃ new, (play Observed.respond o calls).ledger.lookup leaseId = some new ∧
      new.status ≠ .active := by
  induction calls generalizing o old with
  | nil => exact ⟨old, hl, hold⟩
  | cons timed calls ih =>
      obtain ⟨new, hn, hnew⟩ := (respond_moves hs hfresh.1).ended hs hl hold
      exact ih (hs.respond hfresh.1) hfresh.2 hn hnew

-- The observer does not disturb the service.
theorem play_service :
    (play Observed.respond o calls).service = play LeaseService.respond o.service calls := by
  induction calls generalizing o with
  | nil => rfl
  | cons timed calls ih => exact ih

theorem Sound.one_live (hs : o.Sound) {now : Time} {first second : TaskLease}
    (hf : first ∈ o.granted) (hm : second ∈ o.granted) (ht : first.taskId = second.taskId)
    (hlf : o.Live now first) (hls : o.Live now second) : first = second := by
  obtain ⟨a, hla, haa, -⟩ := hlf
  obtain ⟨b, hlb, hab, -⟩ := hls
  obtain ⟨hida, hslota⟩ := hs.ledger_active _ a hla
  obtain ⟨hidb, hslotb⟩ := hs.ledger_active _ b hlb
  obtain ⟨a', hla', hta⟩ := hs.granted_ledger first hf
  obtain ⟨b', hlb', htb⟩ := hs.granted_ledger second hm
  obtain rfl := Option.some.inj (hla.symm.trans hla')
  obtain rfl := Option.some.inj (hlb.symm.trans hlb')
  have hsame : a.taskId = b.taskId := by rw [hta, htb, ht]
  have hslot := hslota haa
  rw [hsame, hslotb hab] at hslot
  obtain rfl := Option.some.inj hslot
  exact List.inj_on_of_nodup_map hs.granted_ids hf hm (hida.symm.trans hidb)

-- The record of the task is newer than a lease after which another was granted.
theorem Sound.overtaken (hs : o.Sound) {newer : TaskLease} (hm : newer ∈ o.granted)
    (ht : older.taskId = newer.taskId) (hlt : older.fencingToken < newer.fencingToken)
    (hslot : o.service.active.lookup older.taskId = some record) :
    older.fencingToken < record.fencingToken := by
  obtain ⟨token, htoken, hle⟩ := hs.granted_bound newer hm
  rw [← ht, hs.slot_token _ record hslot, Option.some.injEq] at htoken
  omega

end Observed

-- An attempt id that no lease granted later for the task has.
def OlderAttempt (granted : List TaskLease) (older : TaskLease) (attemptId : String) : Prop :=
  attemptId = older.attemptId ∧ ∀ newer ∈ granted, newer.taskId = older.taskId →
    older.fencingToken < newer.fencingToken → newer.attemptId ≠ older.attemptId

structure Fenced (ttl : Time) (calls : List TimedCall) : Prop where
  tokens_increase : (Observed.after ttl calls).granted.Pairwise fun older newer =>
    older.taskId = newer.taskId → older.fencingToken < newer.fencingToken
  one_live : ∀ now first second, first ∈ (Observed.after ttl calls).granted →
    second ∈ (Observed.after ttl calls).granted → first.taskId = second.taskId →
    (Observed.after ttl calls).Live now first → (Observed.after ttl calls).Live now second →
      first = second
  ended_stays : ∀ earlier later, calls = earlier ++ later → ∀ leaseId old,
    (Observed.after ttl earlier).ledger.lookup leaseId = some old → old.status ≠ .active →
      ∃ new, (Observed.after ttl calls).ledger.lookup leaseId = some new ∧ new.status ≠ .active
  older_refused : ∀ older newer, older ∈ (Observed.after ttl calls).granted →
    newer ∈ (Observed.after ttl calls).granted → older.taskId = newer.taskId →
    older.fencingToken < newer.fencingToken → ∀ now stamp lease,
      ((Observed.after ttl calls).service.heartbeat now stamp older.taskId older.fencingToken).1 ≠
        .ok lease ∧
      ((Observed.after ttl calls).service.release now older.taskId older.fencingToken).1 ≠ .ok lease ∧
      ∀ leaseId token attemptId, (leaseId = older.leaseId ∨ token = older.fencingToken ∨
          OlderAttempt (Observed.after ttl calls).granted older attemptId) →
        ((Observed.after ttl calls).service.validateEvent now older.taskId leaseId token
          attemptId).1 ≠ .ok lease
  release_ends : ∀ now taskId token lease after,
    (Observed.after ttl calls).service.release now taskId token = (.ok lease, after) →
      after.active.lookup taskId = some lease ∧ lease.status = .released

-- After any calls, at any readings of the clock.
theorem leases_fenced (ttl : Time) (calls : List TimedCall)
    (hfresh : PlayAlong Observed.respond Observed.FreshId (Observed.initial ttl) calls) :
    Fenced ttl calls := by
  have hs : (Observed.after ttl calls).Sound :=
    Observed.play_sound (Observed.initial_sound ttl) hfresh
  refine ⟨hs.granted_sorted, fun _ _ _ => hs.one_live, ?_, ?_, fun now taskId token lease after h => ?_⟩
  · rintro earlier later rfl leaseId old hl hold
    obtain ⟨hfirst, hrest⟩ := hfresh.append
    have hse := Observed.play_sound (Observed.initial_sound ttl) hfirst
    rw [Observed.after, play_append]
    exact Observed.play_ended hse hrest hl hold
  · intro older newer ho hm ht hlt now stamp lease
    refine ⟨fun hok => ?_, fun hok => ?_, fun leaseId token attemptId hstale hok => ?_⟩
    · obtain ⟨record, hslot, htoken⟩ := LeaseService.heartbeat_ok hok
      have hover := hs.overtaken hm ht hlt hslot
      omega
    · obtain ⟨record, hslot, htoken⟩ := LeaseService.release_ok hok
      have hover := hs.overtaken hm ht hlt hslot
      omega
    · obtain ⟨record, hslot, hid, hattempt, htoken, -⟩ := LeaseService.validateEvent_ok hok
      have hover := hs.overtaken hm ht hlt hslot
      obtain ⟨holder, hh, hht, hhid, hha, hhtoken⟩ := hs.slot_granted _ record hslot
      rcases hstale with rfl | rfl | ⟨rfl, hnewer⟩
      · obtain rfl := List.inj_on_of_nodup_map hs.granted_ids hh ho (hhid.trans hid)
        omega
      · omega
      · exact hnewer holder hh hht (by omega) (hha.trans hattempt)
  · obtain ⟨record, hslot, rfl⟩ := LeaseService.release_ok (congrArg Prod.fst h)
    obtain ⟨released, t, hrelease, hstored, hstatus⟩ := LeaseService.release_held now hslot
    cases h.symm.trans hrelease
    exact ⟨hstored, hstatus⟩

section Runs

def sampleGrant (leaseId attemptId : String) : LeaseCall :=
  .acquire leaseId ⟨"task", "node", "codex", attemptId, none⟩

-- The first lease expires and another node takes the task.
def takenOver : List TimedCall :=
  [⟨0, 0, sampleGrant "lease-1" "attempt-1"⟩, ⟨9, 9, .heartbeat "task" 1⟩,
    ⟨30, 30, sampleGrant "lease-2" "attempt-2"⟩]

theorem leases_fenced_takenOver : Fenced 10 takenOver :=
  leases_fenced 10 takenOver ⟨rfl, trivial, rfl, trivial⟩

end Runs

end JoyMesh.Runtime
