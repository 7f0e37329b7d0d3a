import JoyMesh.Completion.Successes
import JoyMesh.Runtime.Ingestion

namespace JoyMesh.Runtime

open Library Completion

def executionOf (task : RuntimeTaskRecord) : String :=
  (task.executionId.filter (· ≠ "")).getD task.taskId

-- What a task has from its lease on: the record has not ended, the lease is the
-- one of the attempt, which is the one that counts, and no event has come to the
-- completion yet.
structure Ingestion.Leased (s : Ingestion) (task : RuntimeTaskRecord) (attemptId : String) :
    Prop where
  keyed : ∀ taskId found, s.tasks.lookup taskId = some found → found.taskId = taskId
  stored : ∃ status, s.tasks.lookup task.taskId = some { task with status } ∧
    status ∉ endedStatuses
  attempt : ∀ lease, s.leases.active.lookup task.taskId = some lease → lease.attemptId = attemptId
  authoritative : (s.authoritativeAttempts.lookup (executionOf task)).getD attemptId = attemptId
  untouched : s.completion.Untouched (executionOf task)

def Ingestion.Succeeded (s : Ingestion) (taskId : String) : Prop :=
  (∃ task, s.tasks.lookup taskId = some task ∧ task.status = .succeeded) ∧
    ∃ lease, s.leases.active.lookup taskId = some lease ∧ lease.status = .released

-- The payload says that the execution is verified.
def SaysVerified (payload : Mapping) : Prop :=
  (∃ items, payload.get "verification" = .dict items ∧
    ((Mapping.ofList items).get "outcome" = .str "verified" ∨
      (Mapping.ofList items).get "verified" = .bool true)) ∨
    payload.get "verified" = .bool true

-- What the service makes of it for the verifier.
def observation (payload : Mapping) : Mapping :=
  match payload.get "verification" with
  | .dict items => .ofList items
  | _ => .ofList [("outcome", .str "verified"), ("passed", .bool true)]

-- The sequence can be read, the mission of the task is the task, no route is
-- said to be left unrestored, and the observation does not say that the
-- verification failed.
structure Settles (services : Services) (task : RuntimeTaskRecord) (payload : Mapping) : Prop where
  sequence : ∃ sequence, eventSequence services payload = .ok sequence
  mission : task.taskId = "" ∨ (task.missionId.filter (· ≠ "")).getD task.taskId = task.taskId
  restored : payload.lookup "restored" ≠ some (.bool false)
  observed : ¬ VerificationRequest.Refuted
    (redactPayload services.digests.redactSecrets (observation payload))

section Lease

variable {s t : Ingestion} {task : RuntimeTaskRecord} {attemptId : String} {services : Services}
  {fresh : Nat → String} {delivery : Delivery}

theorem Ingestion.lease_leased {routed : Routed} {record leased : RuntimeTaskRecord}
    {candidate : RouteCandidate} {leaseId : String} {now stamp : Time}
    (hkeyed : ∀ taskId found, s.tasks.lookup taskId = some found → found.taskId = taskId)
    (hid : routed.intent.executionId ≠ "")
    (huntouched : s.completion.Untouched routed.intent.executionId)
    (h : s.lease routed record candidate leaseId attemptId now stamp = some (leased, t)) :
    t.Leased leased attemptId := by
  unfold Ingestion.lease at h
  split at h
  · cases h
  next lease leases hacquire =>
    obtain ⟨rfl, rfl⟩ := Prod.mk.inj (Option.some.inj h)
    obtain ⟨hslot, hattempt⟩ := LeaseService.acquire_filed hacquire
    have hexecution : executionOf (routed.leasedRemotely record lease) = routed.intent.executionId := by
      simp [executionOf, Routed.leasedRemotely, Option.filter, hid]
    constructor
    · intro taskId found hfound
      rcases eq_or_ne taskId (routed.leasedRemotely record lease).taskId with rfl | hne
      · rw [AList.lookup_insert] at hfound
        obtain rfl := Option.some.inj hfound
        rfl
      · rw [AList.lookup_insert_ne hne] at hfound
        exact hkeyed _ _ hfound
    · exact ⟨.leased, AList.lookup_insert _, by simp [endedStatuses]⟩
    · intro found hfound
      obtain rfl := Option.some.inj (hslot.symm.trans hfound)
      exact hattempt
    · rw [hexecution, AList.lookup_insert]
      rfl
    · rwa [hexecution]

-- Looking up a lease keeps its attempt.
theorem Ingestion.Leased.validated (h : s.Leased task attemptId) (now : Time)
    (taskId leaseId : String) (fencingToken : Nat) (claimed : String) :
    ∀ lease, (s.leases.validateEvent now taskId leaseId fencingToken claimed).2.active.lookup
      task.taskId = some lease → lease.attemptId = attemptId := by
  intro lease hfound
  rw [LeaseService.validateEvent_snd, LeaseService.activeLease_lookup] at hfound
  split at hfound
  next heq =>
    obtain ⟨record, hrecord, rfl⟩ := Option.map_eq_some_iff.mp hfound
    rw [LeaseService.seen_attemptId]
    exact h.attempt record (heq ▸ hrecord)
  · exact h.attempt lease hfound

theorem Ingestion.Leased.noted (h : s.Leased task attemptId) {found : RuntimeTaskRecord}
    {taskId : String} (hfound : s.tasks.lookup taskId = some found) {status : RuntimeTaskStatus}
    (hstatus : status ∉ endedStatuses) :
    { s with tasks := s.tasks.insert found.taskId { found with status } }.Leased task attemptId where
  keyed other record hrecord := by
    rcases eq_or_ne other found.taskId with rfl | hne
    · rw [AList.lookup_insert] at hrecord
      obtain rfl := Option.some.inj hrecord
      rfl
    · rw [AList.lookup_insert_ne hne] at hrecord
      exact h.keyed _ _ hrecord
  stored := by
    obtain ⟨before, hstored, hgoing⟩ := h.stored
    rcases eq_or_ne task.taskId found.taskId with heq | hne
    · rw [← h.keyed _ _ hfound, ← heq, hstored] at hfound
      obtain rfl := Option.some.inj hfound
      exact ⟨status, AList.lookup_insert _, hstatus⟩
    · exact ⟨before, by rw [AList.lookup_insert_ne hne, hstored], hgoing⟩
  attempt := h.attempt
  authoritative := h.authoritative
  untouched := h.untouched

-- A progress event leaves the task leased.
theorem Ingestion.Leased.ingest (h : s.Leased task attemptId)
    (hprogress : delivery.event.eventType ∉ endingEvents) :
    (s.ingestNodeEvent services fresh delivery).2.Leased task attemptId := by
  have hattempt := h.validated delivery.now delivery.event.taskId delivery.event.leaseId
    delivery.event.fencingToken delivery.event.attemptId
  unfold Ingestion.ingestNodeEvent
  dsimp only
  generalize s.leases.validateEvent delivery.now delivery.event.taskId delivery.event.leaseId
    delivery.event.fencingToken delivery.event.attemptId = validated at hattempt ⊢
  obtain ⟨answer, leases⟩ := validated
  have hlooked : { s with leases }.Leased task attemptId :=
    ⟨h.keyed, h.stored, hattempt, h.authoritative, h.untouched⟩
  cases answer with
  | error refusal => exact hlooked
  | ok lease =>
      dsimp only
      cases hfound : s.tasks.lookup delivery.event.taskId with
      | none => exact hlooked
      | some found =>
          dsimp only
          split
          · exact hlooked.noted hfound (by simp [endedStatuses])
          split
          · exact hlooked.noted hfound (by simp [endedStatuses])
          · exact hlooked

theorem Ingestion.Leased.play {history : List Delivery} (h : s.Leased task attemptId)
    (hprogress : ∀ delivery ∈ history, delivery.event.eventType ∉ endingEvents) :
    (Library.play (Ingestion.ingestNodeEvent services fresh) s history).Leased task attemptId := by
  let Inv (s : Ingestion) : Prop := s.Leased task attemptId
  have hstep : ∀ s (delivery : Delivery), Inv s → delivery.event.eventType ∉ endingEvents →
      Inv (s.ingestNodeEvent services fresh delivery).2 := fun _ _ h hp => h.ingest hp
  have hlast : Inv (Library.play (Ingestion.ingestNodeEvent services fresh) s history) :=
    PlayAlong.invariant hstep h (playAlong_labels.mpr hprogress)
  exact hlast

end Lease

section Success

variable {s : Ingestion} {task : RuntimeTaskRecord} {attemptId : String} {services : Services}
  {fresh : Nat → String} {delivery : Delivery} {payload : Mapping}

theorem eventCandidates_verified (hverified : SaysVerified payload) (services : Services)
    (task : RuntimeTaskRecord) (executionId attemptId evidenceId : String) :
    eventCandidates services task executionId attemptId "task.succeeded" payload evidenceId =
      (eventSequence services payload).map fun sequence =>
        [verificationCandidate task executionId attemptId sequence (observation payload)
          evidenceId] := by
  unfold eventCandidates observation
  cases hverification : payload.get "verification" with
  | dict items => cases eventSequence services payload <;> rfl
  | _ =>
      have hflag : payload.get "verified" = .bool true := by
        rcases hverified with ⟨items, hitems, -⟩ | hflag
        · cases hverification.symm.trans hitems
        · exact hflag
      simp only [hflag, and_self, if_true]
      cases eventSequence services payload <;> rfl

-- The provenance differs from the context in the mission alone.
theorem claimedReason_event (task : RuntimeTaskRecord) (executionId attemptId evidenceId : String)
    (sequence : Int) (verification : Mapping) :
    let context := eventContext task executionId attemptId "task.succeeded" attemptId
    let candidate := verificationCandidate task executionId attemptId sequence verification evidenceId
    EvidenceBoundary.claimedReason context candidate
        (EvidenceBoundary.intakeReason context .evidencePending candidate) = none ↔
      task.taskId = "" ∨ (task.missionId.filter (· ≠ "")).getD task.taskId = task.taskId := by
  intro context candidate
  have hexecution : candidate.provenance.get "execution_id" = .str executionId := rfl
  have hattempt : candidate.provenance.get "attempt_id" = .str attemptId := rfl
  have hmission : candidate.provenance.get "mission_id" = .str task.taskId := rfl
  have hproject : candidate.provenance.get "project_id" = .str task.workspaceId := rfl
  have hstated : candidate.provenance ≠ ∅ := by
    intro hempty
    rw [hempty] at hexecution
    cases hexecution
  have hown : EvidenceBoundary.intakeReason context .evidencePending candidate = none := by
    have hprovenance : ¬ (verificationCandidate task executionId attemptId sequence verification
        evidenceId).provenance = ∅ := hstated
    simp [EvidenceBoundary.intakeReason, context, candidate, eventContext, terminalCompletionStates,
      hprovenance]
    simp [verificationCandidate]
  rw [hown, or_iff_not_imp_left, @eq_comm _ _ task.taskId]
  simp only [EvidenceBoundary.claimedReason, hexecution, hattempt, hmission, hproject]
  simp [context, eventContext, Value.truthy]

theorem nodeStatus_succeeded_iff (verdict : CompletionVerdict) :
    nodeStatus verdict = .succeeded ↔ verdict.state = .completed := by
  unfold nodeStatus
  split
  next h => simp [h]
  next h => split <;> simp [h]

-- A task that is not saved as a success stays short of it.
theorem Ingestion.not_succeeded {s : Ingestion} {found : RuntimeTaskRecord}
    (hfound : s.tasks.lookup task.taskId = some found) (hstatus : found.status ≠ .succeeded) :
    ¬ s.Succeeded task.taskId := by
  rintro ⟨⟨other, hother, hsucceeded⟩, -⟩
  obtain rfl := Option.some.inj (hfound.symm.trans hother)
  exact hstatus hsucceeded

-- How the verdict of the completion ends the task.
theorem Ingestion.settle_succeeded_iff {s : Ingestion} {found : RuntimeTaskRecord}
    {verdict : CompletionVerdict} {lease : TaskLease}
    (hfound : s.tasks.lookup task.taskId = some found) (hid : found.taskId = task.taskId)
    (hgoing : found.status ∉ endedStatuses) (htask : delivery.event.taskId = task.taskId)
    (hslot : s.leases.active.lookup task.taskId = some lease)
    (htoken : lease.fencingToken = delivery.event.fencingToken)
    (hintime : verdict.state = .completed → verdict.failureClass ∉ lateFailures) :
    (s.settle found delivery verdict).2.Succeeded task.taskId ↔ verdict.state = .completed := by
  have hopen : found.status ≠ .succeeded := by
    rintro heq
    simp [heq, endedStatuses] at hgoing
  unfold Ingestion.settle
  by_cases hlate : verdict.failureClass ∈ lateFailures
  · rw [if_pos hlate]
    exact iff_of_false (not_succeeded hfound hopen) fun h => hintime h hlate
  obtain ⟨released, leases, hrelease, hreleased, hstatus⟩ :=
    LeaseService.release_held delivery.releasing hslot
  rw [if_neg hlate, if_neg hgoing, htask, ← htoken]
  simp only [hrelease]
  constructor
  · rintro ⟨⟨after, hafter, hsucceeded⟩, -⟩
    rw [hid, AList.lookup_insert] at hafter
    obtain rfl := Option.some.inj hafter
    exact (nodeStatus_succeeded_iff verdict).mp hsucceeded
  · intro hcompleted
    have hsucceeded := (nodeStatus_succeeded_iff verdict).mpr hcompleted
    rw [hid]
    exact ⟨⟨_, AList.lookup_insert _, hsucceeded⟩, released, hreleased, hstatus⟩

-- What the completion makes of a success that the payload says to be verified.
theorem Ingestion.Leased.complete_success (hleased : s.Leased task attemptId)
    (hprojector : ∀ record, services.projectionError record = none) {event : NodeEvent}
    (htask : event.taskId = task.taskId) (htype : event.eventType = "task.succeeded")
    (hattempt : event.attemptId = attemptId) (hverified : SaysVerified event.payload)
    (status : RuntimeTaskStatus) {sequence : Int}
    (hsequence : eventSequence services event.payload = .ok sequence) :
    ∃ outcome completion, s.complete services fresh { task with status } event =
        (some outcome, { s with completion }) ∧
      (outcome.state = .completed → outcome.failureClass = none) ∧
      (outcome.state = .completed ↔ Settles services task event.payload) := by
  subst hattempt
  have hcandidates : eventCandidates services { task with status } (executionOf task) event.attemptId
      "task.succeeded" event.payload (fresh 0) = .ok [verificationCandidate task (executionOf task)
        event.attemptId sequence (observation event.payload) (fresh 0)] := by
    rw [eventCandidates_verified hverified, hsequence]
    rfl
  let context := eventContext task (executionOf task) event.attemptId "task.succeeded" event.attemptId
  let candidate := verificationCandidate task (executionOf task) event.attemptId sequence
    (observation event.payload) (fresh 0)
  have hcontext : context.Remote := ⟨rfl, rfl, rfl, rfl, rfl, rfl⟩
  have huntouched : s.completion.Untouched context.executionId := hleased.untouched
  obtain ⟨outcome, houtcome, hclass, hcompleted⟩ := remoteSuccess_completed candidate event.payload
    hcontext huntouched rfl hprojector fun index => fresh (index + 1)
  refine ⟨outcome, (completeFromRemoteEvent services s.completion context "task.succeeded"
    event.payload [candidate] fun index => fresh (index + 1)).now, ?_, hclass, ?_⟩
  · have hauthoritative := hleased.authoritative
    unfold executionOf at hcandidates hauthoritative
    unfold Ingestion.complete
    dsimp only
    rw [htask, htype, hcandidates]
    dsimp only
    rw [hauthoritative, ← houtcome]
    rfl
  · have hmission := claimedReason_event task (executionOf task) event.attemptId (fresh 0) sequence
      (observation event.payload)
    exact hcompleted.trans
      ⟨fun ⟨hrestored, hreason, hobserved⟩ =>
        ⟨⟨sequence, hsequence⟩, hmission.mp hreason, hrestored, hobserved⟩,
      fun h => ⟨h.restored, hmission.mpr h.mission, h.observed⟩⟩

theorem Ingestion.complete_unreadable (s : Ingestion) {event : NodeEvent}
    (htype : event.eventType = "task.succeeded") (hverified : SaysVerified event.payload)
    (status : RuntimeTaskStatus) {type : String}
    (hsequence : eventSequence services event.payload = .error type) :
    s.complete services fresh { task with status } event = (none, s) := by
  unfold Ingestion.complete
  simp only [htype, eventCandidates_verified hverified, hsequence]
  rfl

theorem Ingestion.Leased.succeeded_iff (hleased : s.Leased task attemptId)
    (hprojector : ∀ record, services.projectionError record = none)
    (htask : delivery.event.taskId = task.taskId) (htype : delivery.event.eventType = "task.succeeded")
    (hholder : ∃ lease, (s.leases.validateEvent delivery.now task.taskId delivery.event.leaseId
      delivery.event.fencingToken delivery.event.attemptId).1 = .ok lease)
    (hverified : SaysVerified delivery.event.payload) :
    (s.ingestNodeEvent services fresh delivery).2.Succeeded task.taskId ↔
      Settles services task delivery.event.payload := by
  obtain ⟨lease, hvalid⟩ := hholder
  obtain ⟨record, hslot, -, hrecord, htoken, -⟩ := LeaseService.validateEvent_ok hvalid
  obtain ⟨status, hstored, hgoing⟩ := hleased.stored
  have hattempt : delivery.event.attemptId = attemptId := hrecord.symm.trans (hleased.attempt _ hslot)
  have hlooked : (s.leases.validateEvent delivery.now task.taskId delivery.event.leaseId
      delivery.event.fencingToken delivery.event.attemptId).2.active.lookup task.taskId =
      some (LeaseService.seen record delivery.now) := by
    rw [LeaseService.validateEvent_snd, LeaseService.activeLease_lookup, if_pos rfl, hslot]
    rfl
  have hkept := hleased.validated delivery.now task.taskId delivery.event.leaseId
    delivery.event.fencingToken delivery.event.attemptId
  unfold Ingestion.ingestNodeEvent
  dsimp only
  rw [htask]
  generalize s.leases.validateEvent delivery.now task.taskId delivery.event.leaseId
    delivery.event.fencingToken delivery.event.attemptId = validated at hvalid hlooked hkept ⊢
  obtain ⟨answer, leases⟩ := validated
  obtain rfl : answer = .ok lease := hvalid
  have hleased' : { s with leases }.Leased task attemptId :=
    ⟨hleased.keyed, hleased.stored, hkept, hleased.authoritative, hleased.untouched⟩
  simp only [hstored, htype]
  rw [if_neg (by decide), if_neg (by decide), if_neg (by decide)]
  cases hsequence : eventSequence services delivery.event.payload with
  | error type =>
      rw [Ingestion.complete_unreadable _ htype hverified status hsequence]
      refine iff_of_false (Ingestion.not_succeeded hstored ?_) fun h => ?_
      · intro hsucceeded
        exact hgoing (by simpa [endedStatuses] using Or.inl hsucceeded)
      · obtain ⟨sequence, hread⟩ := h.sequence
        cases hsequence.symm.trans hread
  | ok sequence =>
      obtain ⟨outcome, completion, hcomplete, hclass, hcompleted⟩ := hleased'.complete_success
        hprojector htask htype hattempt hverified status hsequence
      rw [hcomplete, ← hcompleted]
      refine Ingestion.settle_succeeded_iff hstored rfl hgoing htask hlooked ?_ fun hstate => ?_
      · rw [LeaseService.seen_fencingToken, htoken]
      · have hnone : (verdictOf outcome).failureClass = none := hclass hstate
        rw [hnone]
        decide

end Success

theorem remote_success_kept_iff (services : Services)
    (hprojector : ∀ record, services.projectionError record = none) (fresh : Nat → String)
    (s : Ingestion) (task : RuntimeTaskRecord) (attemptId : String) (hleased : s.Leased task attemptId)
    (history : List Delivery)
    (hprogress : ∀ delivery ∈ history, delivery.event.eventType ∉ endingEvents)
    (delivery : Delivery) (htask : delivery.event.taskId = task.taskId)
    (htype : delivery.event.eventType = "task.succeeded")
    (hholder : ∃ lease, ((play (Ingestion.ingestNodeEvent services fresh) s
      history).leases.validateEvent delivery.now task.taskId delivery.event.leaseId
        delivery.event.fencingToken delivery.event.attemptId).1 = .ok lease)
    (hverified : SaysVerified delivery.event.payload) :
    ((play (Ingestion.ingestNodeEvent services fresh) s history).ingestNodeEvent services fresh
        delivery).2.Succeeded task.taskId ↔ Settles services task delivery.event.payload :=
  (hleased.play hprogress).succeeded_iff hprojector htask htype hholder hverified

section Runs

def missionTask (missionId : Option String) : RuntimeTaskRecord := { sampleReadTask with missionId }

def missionLease (missionId : Option String) : Option (RuntimeTaskRecord × Ingestion) :=
  ({ leases := .initial 60 } : Ingestion).lease
    { task := missionTask missionId
      intent := plan {} "execution"
        (missionSpecFromTask (missionTask missionId) "summarise" "/repo" "remote" true)
      decision := sampleRoute "joymesh" "codex" }
    (missionTask missionId) { nodeId := "node", connectorId := "codex", eligible := true }
    "lease" "attempt" 0 0

def missionLeased (missionId : Option String) : RuntimeTaskRecord × Ingestion :=
  (missionLease missionId).get rfl

theorem missionLeased_leased (missionId : Option String) :
    (missionLeased missionId).2.Leased (missionLeased missionId).1 "attempt" := by
  have hlease : missionLease missionId = some (missionLeased missionId) := (Option.some_get rfl).symm
  refine Ingestion.lease_leased ?_ ?_ ⟨rfl, rfl, rfl, rfl⟩ hlease
  · exact fun _ _ h => nomatch h
  · simp [plan]

def nodeReports (eventType : String) (payload : Mapping) : Delivery where
  now := 5
  releasing := 6
  event :=
    { taskId := "task"
      attemptId := "attempt"
      leaseId := "lease"
      fencingToken := 1
      eventType
      payload }

def verifiedSuccess : Delivery :=
  nodeReports "task.succeeded"
    (.ofList [("verification", .dict [("outcome", .str "verified")])])

theorem verifiedSuccess_says : SaysVerified verifiedSuccess.event.payload :=
  .inl ⟨[("outcome", .str "verified")], rfl, .inl rfl⟩

theorem started_success_kept :
    ((play (Ingestion.ingestNodeEvent sampleServices fun _ => "x") (missionLeased none).2
      [nodeReports "task.started" ∅]).ingestNodeEvent sampleServices (fun _ => "x")
        verifiedSuccess).2.Succeeded "task" :=
  (remote_success_kept_iff sampleServices (fun _ => rfl) (fun _ => "x") (missionLeased none).2
    (missionLeased none).1 "attempt" (missionLeased_leased none) [nodeReports "task.started" ∅]
    (by decide) verifiedSuccess rfl rfl ⟨_, rfl⟩ verifiedSuccess_says).mpr
      ⟨⟨1, rfl⟩, .inr rfl, by decide +kernel, by decide +kernel⟩

-- A task of a mission loses its success to the evidence that names the task for it.
theorem mission_success_lost : ¬ ∀ (services : Services) (fresh : Nat → String) (s : Ingestion)
    (task : RuntimeTaskRecord) (attemptId : String) (delivery : Delivery),
    (∀ record, services.projectionError record = none) → s.Leased task attemptId →
    delivery.event.taskId = task.taskId → delivery.event.eventType = "task.succeeded" →
    (∃ lease, (s.leases.validateEvent delivery.now task.taskId delivery.event.leaseId
      delivery.event.fencingToken delivery.event.attemptId).1 = .ok lease) →
    SaysVerified delivery.event.payload →
    (s.ingestNodeEvent services fresh delivery).2.Succeeded task.taskId := by
  intro h
  obtain ⟨⟨task, hstored, hsucceeded⟩, -⟩ := h sampleServices (fun _ => "x")
    (missionLeased (some "mission")).2 (missionLeased (some "mission")).1 "attempt" verifiedSuccess
    (fun _ => rfl) (missionLeased_leased _) rfl rfl ⟨_, rfl⟩ verifiedSuccess_says
  have hfailed : (((missionLeased (some "mission")).2.ingestNodeEvent sampleServices (fun _ => "x")
      verifiedSuccess).2.tasks.lookup "task").map (·.status) = some .failed := by decide +kernel
  rw [show (missionLeased (some "mission")).1.taskId = "task" from rfl] at hstored
  rw [hstored, Option.map_some, hsucceeded] at hfailed
  cases hfailed

end Runs

end JoyMesh.Runtime
