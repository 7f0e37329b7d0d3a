import JoyMesh.ProviderRoutes.Lease

namespace JoyMesh.ProviderRoutes

-- The operation that a suspended call awaits.
inductive Await where
  | store (call : LeaseCall)
  | acquireLock (key : Key)
  | inspect (key : Key)
  | enable (key : Key) (modelId approvalModelId : Option String)
  | disable (key : Key)
  | execute
  | mutate (key : Key)
  | sleep
deriving DecidableEq

-- An operation that can take effect although its caller is cancelled before it
-- hears the answer. A lock is not taken by a cancelled waiter.
def Await.effective : Await → Bool
  | store _ => true
  | enable _ _ _ => true
  | disable _ => true
  | mutate _ => true
  | _ => false

-- The key whose route the operation can change.
def Await.mutates : Await → Option Key
  | enable key _ _ => some key
  | disable key => some key
  | mutate key => some key
  | _ => none

-- What the awaited operation answers. An acquisition also says whether the
-- deadline of the caller has passed.
inductive Answer where
  | store (reply : Reply) (late : Bool)
  | locked
  | route (reading : ProviderRoute)
  | mutated (result : MutationResult)
  | value (value : Value)
  | slept
  | raised (error : Raised)
deriving DecidableEq

-- The ids that uuid4 generates for one step of a call.
structure Ids where
  first : String
  second : String
deriving DecidableEq

-- Where a call goes when it resumes: to its next await, with the process-local
-- lock released on the way or not.
structure Resumed (Next : Type) where
  next : Next
  unlock : Bool := false

section Restore

def restoreAwait (key : Key) (original : Mapping) : Await :=
  if desiredEnabled original then .enable key (desiredModel original) (desiredModel original)
  else .disable key

-- The answer to the mutation of _restore: a failure, or none to go on and verify.
def afterMutation : Answer → Option (Option RestoreOutcome)
  | .mutated result => some (if result.ok then none else some (.failed result.message))
  | .raised error => some (some (.failed (clip 300 error.detail)))
  | _ => none

def afterReading (original : Mapping) : Answer → Option RestoreOutcome
  | .route reading => some (.ofReading reading.state original)
  | .raised error => some (.failed (clip 300 error.detail))
  | _ => none

end Restore

structure RecoveryReport where
  leaseId : String
  connectorId : String
  status : String
  verified : Bool
deriving DecidableEq, Repr

-- The awaits of one round of recover_expired_leases; all but the first belong to
-- _recover_one.
inductive RecoverPc where
  | skip
  | claim
  | lockWait (claimed : ProviderRouteLease) (owner : String)
  | restore (claimed : ProviderRouteLease) (owner : String)
  | verify (claimed : ProviderRouteLease) (owner : String)
  | mark (claimed : ProviderRouteLease) (owner : String) (outcome : RestoreOutcome)
  | block (claimed : ProviderRouteLease) (outcome : RestoreOutcome)
  | failBlock (error : Raised)
  | failMark (error : Raised)
deriving DecidableEq

-- recover_expired_leases: the listing, or the round of one listed lease.
inductive Recovery where
  | list
  | round (lease : ProviderRouteLease) (rest : List ProviderRouteLease)
      (reports : List RecoveryReport) (pc : RecoverPc)
deriving DecidableEq

-- How a run of recover_expired_leases goes on after an await.
inductive RecoveryNext where
  | going (recovery : Recovery)
  | finished (reports : List RecoveryReport)
  | raised (error : Raised)
deriving DecidableEq

namespace Recovery

-- The loop over the listed leases: those of another connector or manager are passed over.
def next (managerId : String) (connectors : Option (List String)) (reports : List RecoveryReport) :
    List ProviderRouteLease → RecoveryNext
  | [] => .finished reports
  | lease :: rest =>
      if (connectors.all fun ids => ids.contains lease.connectorId) && lease.managerId = managerId then
        if lease.details.get "restore_on_expiry" = .bool false then
          .going (.round lease rest reports .skip)
        else .going (.round lease rest reports .claim)
      else next managerId connectors reports rest

def status (outcome : RestoreOutcome) : String :=
  if outcome.restored && outcome.verified then "restored_verified" else "recovery_failed"

def reason (outcome : RestoreOutcome) : String :=
  if outcome.message ≠ "" then outcome.message
  else
    match outcome.code with
    | some code => if code ≠ "" then code else "recovery_failed"
    | none => "recovery_failed"

def await (ids : Ids) : Recovery → Await
  | .list => .store (.listExpiredActive none)
  | .round lease _ _ pc =>
      match pc with
      | .skip =>
          .store (.markRecovery lease.leaseId lease.leaseToken "expired_no_restore"
            (.ofList [("reason", .str "cli_mutation")]))
      | .claim => .store (.claimRecovery lease.leaseId lease.leaseToken ("recovery:" ++ ids.first))
      | .lockWait _ _ => .acquireLock lease.key
      | .restore claimed _ => restoreAwait claimed.key lease.originalState
      | .verify claimed _ => .inspect claimed.key
      | .mark claimed owner outcome =>
          .store (.markRecovery claimed.leaseId claimed.leaseToken (status outcome)
            (.ofList
              [("message", .str outcome.message), ("code", .ofOption outcome.code),
                ("recovery_owner_id", .str owner)]))
      | .block claimed outcome =>
          .store (.blockConnector ids.first ids.second claimed.key (reason outcome))
      | .failBlock error =>
          .store (.blockConnector ids.first ids.second lease.key (clip 200 error.detail))
      | .failMark error =>
          .store (.markRecovery lease.leaseId lease.leaseToken "recovery_failed"
            (.ofList [("error_type", .str error.errorType)]))

def report (lease : ProviderRouteLease) (status : String) (verified : Bool) : RecoveryReport :=
  ⟨lease.leaseId, lease.connectorId, status, verified⟩

-- What a recovery does with an answer. Every way out of the try block of
-- _recover_one releases the local lock, whoever holds it.
def resume (ids : Ids) (managerId : String) (connectors : Option (List String)) :
    Recovery → Answer → Option (Resumed RecoveryNext)
  | .list, .store (.leases found) _ => some ⟨next managerId connectors [] found, false⟩
  | .round lease rest reports pc, answer =>
      let onward (entry : RecoveryReport) := next managerId connectors (reports ++ [entry]) rest
      let goto (pc : RecoverPc) := RecoveryNext.going (.round lease rest reports pc)
      match pc, answer with
      | .skip, .store (.lease _) _ => some ⟨onward (report lease "expired_no_restore" true), false⟩
      | .skip, .store (.raised failure) _ => some ⟨.raised (.failure failure), false⟩
      | .claim, .store (.lease (some claimed)) _ =>
          some ⟨goto (.lockWait claimed ("recovery:" ++ ids.first)), false⟩
      | .claim, .store (.raised (.lease error)) _ =>
          if error.reasonCode = "recovery_claimed" then
            some ⟨onward (report lease "recovery_in_progress" false), false⟩
          else some ⟨.raised (.failure (.lease error)), false⟩
      | .claim, .store (.raised failure) _ => some ⟨.raised (.failure failure), false⟩
      | .lockWait claimed owner, .locked => some ⟨goto (.restore claimed owner), false⟩
      | .restore claimed owner, answer =>
          (afterMutation answer).map fun outcome =>
            match outcome with
            | none => ⟨goto (.verify claimed owner), false⟩
            | some outcome => ⟨goto (.mark claimed owner outcome), false⟩
      | .verify claimed owner, answer =>
          (afterReading lease.originalState answer).map fun outcome =>
            ⟨goto (.mark claimed owner outcome), false⟩
      | .mark claimed _ outcome, .store (.lease _) _ =>
          if status outcome = "recovery_failed" then some ⟨goto (.block claimed outcome), false⟩
          else some ⟨onward (report claimed (status outcome) outcome.verified), true⟩
      | .mark _ _ _, .store (.raised failure) _ => some ⟨goto (.failBlock (.failure failure)), false⟩
      | .block claimed outcome, .store .done _ =>
          some ⟨onward (report claimed (status outcome) outcome.verified), true⟩
      | .block _ _, .store (.raised failure) _ =>
          some ⟨goto (.failBlock (.failure failure)), false⟩
      | .failBlock error, .store .done _ => some ⟨goto (.failMark error), false⟩
      | .failBlock _, .store (.raised failure) _ => some ⟨.raised (.failure failure), true⟩
      | .failMark _, .store (.lease _) _ => some ⟨onward (report lease "recovery_failed" false), true⟩
      | .failMark _, .store (.raised (.lease _)) _ =>
          some ⟨onward (report lease "recovery_failed" false), true⟩
      | .failMark _, .store (.raised failure) _ => some ⟨.raised (.failure failure), true⟩
      | _, _ => none
  | _, _ => none

-- A cancelled recovery releases the lock from inside the try block only.
def unlocksOnCancel : Recovery → Bool
  | .list => false
  | .round _ _ _ pc =>
      match pc with
      | .skip => false
      | .claim => false
      | .lockWait _ _ => false
      | _ => true

end Recovery

structure LifecycleResult where
  ok : Bool
  lease : Option ProviderRouteLease := none
  originalState : Mapping := ∅
  restored : Bool := false
  restorationVerified : Bool := false
  executionResult : Option Value := none
  reasonCode : Option String
  message : String
deriving DecidableEq

-- How a call ends.
inductive Ending (Result : Type) where
  | returned (result : Result)
  | raised (error : Raised)
deriving DecidableEq

-- The arguments of run_lifecycle, but for the key.
structure LifecycleArgs where
  owner : String
  modelId : Option String := none
  approvalModelId : Option String := none
  targetProviderId : String := "fireworks"
  leaseTtl : Time := 120000000
deriving DecidableEq

-- What a lifecycle has when it holds its lease.
structure Held where
  current : ProviderRoute
  lease : ProviderRouteLease
deriving DecidableEq

-- What has become of the work when cleanup starts.
structure Work where
  ok : Bool := false
  executionResult : Option Value := none
  reasonCode : Option String := none
  message : String := ""
  pending : Option Raised := none
deriving DecidableEq

-- run_lifecycle waits for its shielded cleanup; a first cancellation makes it
-- wait once more, and a second one makes it leave the cleanup behind.
inductive Watch where
  | waiting
  | interrupted
  | left
deriving DecidableEq, Repr

inductive LifecyclePc where
  | checkBlock
  | recovering (recovery : Recovery)
  | lockWait
  | inspect
  | acquire (current : ProviderRoute)
  | poll (current : ProviderRoute)
  | enable (held : Held)
  | verify (held : Held)
  | renew (held : Held)
  | execute (held : Held)
  | restore (held : Held) (work : Work) (watch : Watch)
  | restoreVerify (held : Held) (work : Work) (watch : Watch)
  | release (held : Held) (work : Work) (outcome : RestoreOutcome) (watch : Watch)
  | finished (ending : Ending LifecycleResult)
deriving DecidableEq

namespace LifecyclePc

-- What the lifecycle holds between its acquisition and its release.
def held : LifecyclePc → Option Held
  | enable held => some held
  | verify held => some held
  | renew held => some held
  | execute held => some held
  | restore held _ _ => some held
  | restoreVerify held _ _ => some held
  | release held _ _ _ => some held
  | _ => none

def ended : LifecyclePc → Bool
  | finished _ => true
  | _ => false

def frame : LifecyclePc → Option Recovery
  | recovering frame => some frame
  | _ => none

end LifecyclePc

namespace Lifecycle

def blockedResult (detail : String) : LifecycleResult where
  ok := false
  reasonCode := some "recovery_failed"
  message := "provider-route mutations blocked: " ++ detail

def lockTimeout : LifecycleResult where
  ok := false
  reasonCode := some "lock_acquisition_timeout"
  message := "timed out waiting for process-local provider-route lock"

def leaseTimeout (original : Mapping) : LifecycleResult where
  ok := false
  originalState := original
  reasonCode := some "lock_acquisition_timeout"
  message := "timed out waiting for provider-route lease"

def Held.original (key : Key) (held : Held) : Mapping := originalState key.2 held.current

def request (key : Key) (args : LifecycleArgs) (current : ProviderRoute) : AcquireRequest where
  managerId := key.1
  connectorId := key.2
  ownerExecutionId := args.owner
  ttl := args.leaseTtl
  originalState := originalState key.2 current
  targetProviderId := some args.targetProviderId
  targetModelId := args.modelId
  details := .ofList [("phase", .str "acquired")]

def await (ids : Ids) (key : Key) (args : LifecycleArgs) : LifecyclePc → Option Await
  | .checkBlock => some (.store (.isBlocked key))
  | .recovering recovery => some (recovery.await ids)
  | .lockWait => some (.acquireLock key)
  | .inspect => some (.inspect key)
  | .acquire current => some (.store (.tryAcquire ids.first ids.second (request key args current)))
  | .poll _ => some .sleep
  | .enable _ => some (.enable key args.modelId args.approvalModelId)
  | .verify _ => some (.inspect key)
  | .renew held =>
      some (.store (.renew held.lease.leaseId held.lease.leaseToken args.owner args.leaseTtl))
  | .execute _ => some .execute
  | .restore held _ _ => some (restoreAwait key (Held.original key held))
  | .restoreVerify _ _ _ => some (.inspect key)
  | .release held _ _ _ =>
      some (.store (.release held.lease.leaseId held.lease.leaseToken args.owner))
  | .finished _ => none

-- The result that is put together after cleanup.
def result (key : Key) (held : Held) (work : Work) (outcome : RestoreOutcome) :
    LifecycleResult :=
  let reasonCode :=
    if outcome.code.isSome && work.reasonCode.isNone && !work.ok then outcome.code
    else work.reasonCode
  let message :=
    if outcome.message ≠ "" && work.message = "" then outcome.message else work.message
  let unrestored := work.ok && !outcome.verified
  { ok := work.ok && outcome.verified
    lease := some held.lease
    originalState := Held.original key held
    restored := outcome.restored
    restorationVerified := outcome.verified
    executionResult := work.executionResult
    reasonCode :=
      if unrestored && reasonCode.all (· = "") then some "restoration_failed" else reasonCode
    message :=
      if unrestored && message = "" then "execution succeeded but restoration failed"
      else message }

-- The end of the call, once its cleanup has ended. The lock is released by the
-- call, so not by a cleanup that the call has left.
def afterCleanup (key : Key) (held : Held) (work : Work) (outcome : RestoreOutcome) :
    Watch → Resumed LifecyclePc
  | .waiting =>
      match work.pending with
      | some error => ⟨.finished (.raised error), true⟩
      | none => ⟨.finished (.returned (result key held work outcome)), true⟩
  | .interrupted => ⟨.finished (.raised .cancelledError), true⟩
  | .left => ⟨.finished (.raised .cancelledError), false⟩

def enableFailed (result : MutationResult) : Work where
  reasonCode :=
    if result.reasonCode = some "configuration_invalid" then
      some "provider_status_verification_failed"
    else if result.reasonCode.all (· = "") then some "provider_enable_failed"
    else result.reasonCode
  message := result.message

def notVerified : Work where
  reasonCode := some "provider_status_verification_failed"
  message := "route enable did not verify as enabled"

-- The exceptions that renewing and executing are guarded against.
def executionFailed : Raised → Work
  | .cancelledError =>
      { reasonCode := some "holder_cancelled"
        message := "execution cancelled while holding provider-route lease"
        pending := some .cancelledError }
  | .timeoutError =>
      { reasonCode := some "holder_timeout"
        message := "execution timed out while holding provider-route lease" }
  | error => { reasonCode := some "holder_execution_failed", message := clip 300 error.detail }

def resume (ids : Ids) (key : Key) (args : LifecycleArgs) (pc : LifecyclePc) (answer : Answer) :
    Option (Resumed LifecyclePc) :=
  match pc with
  | .checkBlock =>
      match answer with
      | .store (.reason (some detail)) _ => some ⟨.finished (.returned (blockedResult detail)), false⟩
      | .store (.reason none) _ => some ⟨.recovering .list, false⟩
      | _ => none
  | .recovering recovery =>
      (recovery.resume ids key.1 (some [key.2]) answer).map fun resumed =>
        match resumed.next with
        | .going recovery => ⟨.recovering recovery, resumed.unlock⟩
        | .finished _ => ⟨.lockWait, resumed.unlock⟩
        | .raised error => ⟨.finished (.raised error), resumed.unlock⟩
  | .lockWait =>
      match answer with
      | .locked => some ⟨.inspect, false⟩
      | .raised .timeoutError => some ⟨.finished (.returned lockTimeout), true⟩
      | _ => none
  | .inspect =>
      match answer with
      | .route reading => some ⟨.acquire reading, false⟩
      | .raised error => some ⟨.finished (.raised error), true⟩
      | _ => none
  | .acquire current =>
      match answer with
      | .store (.lease (some lease)) _ =>
          if needEnable current.state args.targetProviderId args.modelId then
            some ⟨.enable ⟨current, lease⟩, false⟩
          else some ⟨.renew ⟨current, lease⟩, false⟩
      | .store (.lease none) late =>
          if late then
            some ⟨.finished (.returned (leaseTimeout (originalState key.2 current))), true⟩
          else some ⟨.poll current, false⟩
      | _ => none
  | .poll current =>
      match answer with
      | .slept => some ⟨.acquire current, false⟩
      | _ => none
  | .enable held =>
      match answer with
      | .mutated result =>
          if result.ok then some ⟨.verify held, false⟩
          else some ⟨.restore held (enableFailed result) .waiting, false⟩
      | .raised error => some ⟨.restore held { pending := some error } .waiting, false⟩
      | _ => none
  | .verify held =>
      match answer with
      | .route reading =>
          if reading.state.enabled then some ⟨.renew held, false⟩
          else some ⟨.restore held notVerified .waiting, false⟩
      | .raised error => some ⟨.restore held { pending := some error } .waiting, false⟩
      | _ => none
  | .renew held =>
      match answer with
      | .store (.lease _) _ => some ⟨.execute held, false⟩
      | .store (.raised failure) _ =>
          some ⟨.restore held (executionFailed (.failure failure)) .waiting, false⟩
      | _ => none
  | .execute held =>
      match answer with
      | .value value =>
          some ⟨.restore held
            { ok := true, executionResult := some value, message := "lifecycle completed" } .waiting,
            false⟩
      | .raised error => some ⟨.restore held (executionFailed error) .waiting, false⟩
      | _ => none
  | .restore held work watch =>
      (afterMutation answer).map fun outcome =>
        match outcome with
        | none => ⟨.restoreVerify held work watch, false⟩
        | some outcome => ⟨.release held work outcome watch, false⟩
  | .restoreVerify held work watch =>
      (afterReading (Held.original key held) answer).map fun outcome =>
        ⟨.release held work outcome watch, false⟩
  | .release held work outcome watch =>
      match answer with
      | .store (.lease _) _ => some (afterCleanup key held work outcome watch)
      | .store (.raised (.lease _)) _ => some (afterCleanup key held work outcome watch)
      | _ => none
  | .finished _ => none

def watched (pc : Watch → LifecyclePc) : Watch → Option (Resumed LifecyclePc)
  | .waiting => some ⟨pc .interrupted, false⟩
  | .interrupted => some ⟨pc .left, true⟩
  | .left => none

def cancel : LifecyclePc → Option (Resumed LifecyclePc)
  | .checkBlock => some ⟨.finished (.raised .cancelledError), false⟩
  | .recovering recovery => some ⟨.finished (.raised .cancelledError), recovery.unlocksOnCancel⟩
  | .lockWait => some ⟨.finished (.raised .cancelledError), true⟩
  | .inspect => some ⟨.finished (.raised .cancelledError), true⟩
  | .acquire _ => some ⟨.finished (.raised .cancelledError), true⟩
  | .poll _ => some ⟨.finished (.raised .cancelledError), true⟩
  | .enable held => some ⟨.restore held { pending := some .cancelledError } .waiting, false⟩
  | .verify held => some ⟨.restore held { pending := some .cancelledError } .waiting, false⟩
  | .renew held => some ⟨.restore held (executionFailed .cancelledError) .waiting, false⟩
  | .execute held => some ⟨.restore held (executionFailed .cancelledError) .waiting, false⟩
  | .restore held work watch => watched (.restore held work) watch
  | .restoreVerify held work watch => watched (.restoreVerify held work) watch
  | .release held work outcome watch => watched (.release held work outcome) watch
  | .finished _ => none

end Lifecycle

-- The arguments of run_serialised_mutation, but for the key.
structure SerialisedArgs where
  owner : String
  leaseTtl : Time := 60000000
deriving DecidableEq

inductive SerialisedPc where
  | checkBlock
  | recovering (recovery : Recovery)
  | lockWait
  | inspect
  | acquire (current : ProviderRoute)
  | poll (current : ProviderRoute)
  | mutate (lease : ProviderRouteLease)
  | release (lease : ProviderRouteLease) (ending : Ending Value)
  | finished (ending : Ending Value)
deriving DecidableEq

namespace SerialisedPc

def ended : SerialisedPc → Bool
  | finished _ => true
  | _ => false

def lease : SerialisedPc → Option ProviderRouteLease
  | mutate lease => some lease
  | release lease _ => some lease
  | _ => none

def frame : SerialisedPc → Option Recovery
  | recovering frame => some frame
  | _ => none

end SerialisedPc

namespace Serialised

def request (key : Key) (args : SerialisedArgs) (current : ProviderRoute) : AcquireRequest where
  managerId := key.1
  connectorId := key.2
  ownerExecutionId := args.owner
  ttl := args.leaseTtl
  originalState := originalState key.2 current
  details := .ofList [("restore_on_expiry", .bool false), ("phase", .str "cli_mutation")]

def await (ids : Ids) (key : Key) (args : SerialisedArgs) : SerialisedPc → Option Await
  | .checkBlock => some (.store (.isBlocked key))
  | .recovering recovery => some (recovery.await ids)
  | .lockWait => some (.acquireLock key)
  | .inspect => some (.inspect key)
  | .acquire current => some (.store (.tryAcquire ids.first ids.second (request key args current)))
  | .poll _ => some .sleep
  | .mutate _ => some (.mutate key)
  | .release lease _ => some (.store (.release lease.leaseId lease.leaseToken args.owner))
  | .finished _ => none

def blocked (detail : String) : Raised :=
  .failure (.lease ⟨"recovery_failed", "mutations blocked: " ++ detail⟩)

def leaseTimeout : Raised :=
  .failure (.lease ⟨"lock_acquisition_timeout", "timed out waiting for provider-route lease"⟩)

def resume (ids : Ids) (key : Key) (pc : SerialisedPc) (answer : Answer) :
    Option (Resumed SerialisedPc) :=
  match pc with
  | .checkBlock =>
      match answer with
      | .store (.reason (some detail)) _ => some ⟨.finished (.raised (blocked detail)), false⟩
      | .store (.reason none) _ => some ⟨.recovering .list, false⟩
      | _ => none
  | .recovering recovery =>
      (recovery.resume ids key.1 (some [key.2]) answer).map fun resumed =>
        match resumed.next with
        | .going recovery => ⟨.recovering recovery, resumed.unlock⟩
        | .finished _ => ⟨.lockWait, resumed.unlock⟩
        | .raised error => ⟨.finished (.raised error), resumed.unlock⟩
  | .lockWait =>
      match answer with
      | .locked => some ⟨.inspect, false⟩
      | .raised .timeoutError => some ⟨.finished (.raised .timeoutError), false⟩
      | _ => none
  | .inspect =>
      match answer with
      | .route reading => some ⟨.acquire reading, false⟩
      | .raised error => some ⟨.finished (.raised error), true⟩
      | _ => none
  | .acquire current =>
      match answer with
      | .store (.lease (some lease)) _ => some ⟨.mutate lease, false⟩
      | .store (.lease none) late =>
          if late then some ⟨.finished (.raised leaseTimeout), true⟩ else some ⟨.poll current, false⟩
      | _ => none
  | .poll current =>
      match answer with
      | .slept => some ⟨.acquire current, false⟩
      | _ => none
  | .mutate lease =>
      match answer with
      | .value value => some ⟨.release lease (.returned value), false⟩
      | .raised error => some ⟨.release lease (.raised error), false⟩
      | _ => none
  | .release _ ending =>
      match answer with
      | .store (.lease _) _ => some ⟨.finished ending, true⟩
      | .store (.raised (.lease _)) _ => some ⟨.finished ending, true⟩
      | _ => none
  | .finished _ => none

-- The lock is awaited before the try block, and a cancelled release skips the
-- rest of the finally block.
def cancel : SerialisedPc → Option (Resumed SerialisedPc)
  | .checkBlock => some ⟨.finished (.raised .cancelledError), false⟩
  | .recovering recovery => some ⟨.finished (.raised .cancelledError), recovery.unlocksOnCancel⟩
  | .lockWait => some ⟨.finished (.raised .cancelledError), false⟩
  | .inspect => some ⟨.finished (.raised .cancelledError), true⟩
  | .acquire _ => some ⟨.finished (.raised .cancelledError), true⟩
  | .poll _ => some ⟨.finished (.raised .cancelledError), true⟩
  | .mutate lease => some ⟨.release lease (.raised .cancelledError), false⟩
  | .release _ _ => some ⟨.finished (.raised .cancelledError), false⟩
  | .finished _ => none

end Serialised

end JoyMesh.ProviderRoutes
