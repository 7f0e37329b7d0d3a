import JoyMesh.Library.Table
import JoyMesh.ProviderRoutes.Lease

namespace JoyMesh.ProviderRoutes

open JoyMesh.Library

-- The store without a database: the leases by id, and for each key the id of
-- the lease that holds it.
structure MemoryStore where
  memory : Table String ProviderRouteLease
  memoryByKey : Table Key String

namespace MemoryStore

def empty : MemoryStore := ⟨∅, ∅⟩

def put (s : MemoryStore) (lease : ProviderRouteLease) : MemoryStore :=
  { s with memory := s.memory.insert lease.leaseId lease }

def popKey (s : MemoryStore) (key : Key) : MemoryStore :=
  { s with memoryByKey := s.memoryByKey.erase key }

-- The index of the key names a lease that is active or recovering.
def keyHeld (s : MemoryStore) (key : Key) : Bool :=
  match s.memoryByKey.lookup key with
  | none => false
  | some existingId =>
      existingId != "" &&
        match s.memory.lookup existingId with
        | none => false
        | some existing => existing.status.held

def memoryAcquire (lease : ProviderRouteLease) (s : MemoryStore) :
    Option ProviderRouteLease × MemoryStore :=
  if s.keyHeld lease.key then (none, s)
  else
    (some lease,
      { memory := s.memory.insert lease.leaseId lease
        memoryByKey := s.memoryByKey.insert lease.key lease.leaseId })

def memoryRenew (now : Time) (leaseId leaseToken ownerExecutionId : String) (ttl : Time)
    (s : MemoryStore) : Except StoreFailure ProviderRouteLease × MemoryStore :=
  match s.memory.lookup leaseId with
  | none => (.error .notFound, s)
  | some lease =>
      if lease.leaseToken ≠ leaseToken ∨ lease.ownerExecutionId ≠ ownerExecutionId then
        (.error .tokenOrOwnerMismatch, s)
      else if lease.status ≠ .active then (.error (.statusIs lease.status), s)
      else if lease.expiresAt ≤ now then (.error .leaseExpired, s)
      else
        let updated := { lease with expiresAt := now + ttl, heartbeatAt := now }
        (.ok updated, { s with memory := s.memory.insert leaseId updated })

def memoryRelease (now : Time) (leaseId leaseToken ownerExecutionId : String) (s : MemoryStore) :
    Except StoreFailure ProviderRouteLease × MemoryStore :=
  match s.memory.lookup leaseId with
  | none => (.error .notFound, s)
  | some lease =>
      if lease.leaseToken ≠ leaseToken ∨ lease.ownerExecutionId ≠ ownerExecutionId then
        (.error .tokenOrOwnerMismatch, s)
      else if lease.status ≠ .active then (.error .duplicateRelease, s)
      else
        let updated := { lease with status := .released, heartbeatAt := now }
        (.ok updated,
          { memory := s.memory.insert leaseId updated
            memoryByKey := s.memoryByKey.erase lease.key })

def get (leaseId : String) (s : MemoryStore) : Option ProviderRouteLease :=
  s.memory.lookup leaseId

def getActive (now : Time) (key : Key) (s : MemoryStore) : Option ProviderRouteLease :=
  match s.memoryByKey.lookup key with
  | none => none
  | some leaseId =>
      if leaseId = "" then none
      else
        match s.memory.lookup leaseId with
        | none => none
        | some lease =>
            if lease.status ≠ .active then none
            else if lease.expiresAt ≤ now then none
            else some lease

def listExpiredActive (moment : Time) (s : MemoryStore) : List ProviderRouteLease :=
  s.memory.select fun lease =>
    lease.status.held && decide (lease.expiresAt ≤ moment) &&
      decide (s.memoryByKey.lookup lease.key = some lease.leaseId)

def memoryClaimRecovery (now : Time) (leaseId leaseToken recoveryOwnerId : String)
    (s : MemoryStore) : Except StoreFailure ProviderRouteLease × MemoryStore :=
  match s.memory.lookup leaseId with
  | none => (.error .invalidToken, s)
  | some lease =>
      if lease.leaseToken ≠ leaseToken then (.error .invalidToken, s)
      else if s.memoryByKey.lookup lease.key ≠ some leaseId then
        (.error (.lease ⟨"lease_not_active", "lease is not the active marker"⟩), s)
      else if now < lease.expiresAt ∧ lease.status = .active then (.error .notExpired, s)
      else
        match claimedByOther lease.status lease.details recoveryOwnerId with
        | .error failure => (.error failure, s)
        | .ok true => (.error .recoveryClaimed, s)
        | .ok false =>
            let updated :=
              { lease with
                status := .recovering
                heartbeatAt := now
                details := lease.details.update
                  (.ofList [("recovery_owner_id", .str recoveryOwnerId)]) }
            (.ok updated, { s with memory := s.memory.insert leaseId updated })

def markRecovery (leaseId leaseToken recoveryStatus : String) (details : Mapping)
    (s : MemoryStore) : Except StoreFailure ProviderRouteLease × MemoryStore :=
  match s.memory.lookup leaseId with
  | none => (.error .invalidToken, s)
  | some lease =>
      if lease.leaseToken ≠ leaseToken then (.error .invalidToken, s)
      else
        let clearActive := resolves recoveryStatus
        let updated :=
          { lease with
            status := if clearActive then .expired else lease.status
            recoveryStatus := some recoveryStatus
            details := lease.details.update details }
        let stored := { s with memory := s.memory.insert leaseId updated }
        (.ok updated, if clearActive then stored.popKey lease.key else stored)

-- The id under which the block of a key is filed among the leases.
def blockId (key : Key) : String := "block:" ++ key.1 ++ ":" ++ key.2

def blockLease (now : Time) (key : Key) (reason : String) : ProviderRouteLease where
  leaseId := blockId key
  managerId := key.1
  connectorId := key.2
  ownerExecutionId := "recovery"
  leaseToken := "block"
  status := .blocked
  originalState := ∅
  targetProviderId := none
  targetModelId := none
  acquiredAt := now
  expiresAt := now
  heartbeatAt := now
  recoveryStatus := some "recovery_failed"
  details := blockDetails reason now

def blockConnector (now : Time) (key : Key) (reason : String) (s : MemoryStore) : MemoryStore :=
  s.put (blockLease now key reason)

def isBlocked (key : Key) (s : MemoryStore) : Option String :=
  match s.memory.lookup (blockId key) with
  | none => none
  | some lease => if lease.status = .blocked then some (blockReason lease.details) else none

def clearBlock (key : Key) (s : MemoryStore) : MemoryStore :=
  { s with memory := s.memory.erase (blockId key) }

def respond (s : MemoryStore) : TimedCall → Reply × MemoryStore
  | ⟨now, .tryAcquire leaseId token request⟩ =>
      let (found, next) := s.memoryAcquire (request.lease now leaseId token)
      (.lease found, next)
  | ⟨now, .renew leaseId leaseToken owner ttl⟩ =>
      let (result, next) := s.memoryRenew now leaseId leaseToken owner ttl
      (.ofLease result, next)
  | ⟨now, .release leaseId leaseToken owner⟩ =>
      let (result, next) := s.memoryRelease now leaseId leaseToken owner
      (.ofLease result, next)
  | ⟨_, .get leaseId⟩ => (.lease (s.get leaseId), s)
  | ⟨now, .getActive key⟩ => (.lease (s.getActive now key), s)
  | ⟨now, .listExpiredActive moment⟩ => (.leases (s.listExpiredActive (moment.getD now)), s)
  | ⟨now, .claimRecovery leaseId leaseToken owner⟩ =>
      let (result, next) := s.memoryClaimRecovery now leaseId leaseToken owner
      (.ofLease result, next)
  | ⟨_, .markRecovery leaseId leaseToken status details⟩ =>
      let (result, next) := s.markRecovery leaseId leaseToken status details
      (.ofLease result, next)
  | ⟨now, .blockConnector _ _ key reason⟩ => (.done, s.blockConnector now key reason)
  | ⟨_, .isBlocked key⟩ => (.reason (s.isBlocked key), s)
  | ⟨_, .clearBlock key⟩ => (.done, s.clearBlock key)

end MemoryStore

end JoyMesh.ProviderRoutes
