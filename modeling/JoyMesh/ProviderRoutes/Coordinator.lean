import Mathlib.Logic.Function.Basic
import JoyMesh.Library.Run
import JoyMesh.ProviderRoutes.Calls
import JoyMesh.ProviderRoutes.Database

namespace JoyMesh.ProviderRoutes

-- The three entry points of the coordinator, each at one of its awaits.
inductive Task where
  | lifecycle (key : Key) (args : LifecycleArgs) (pc : LifecyclePc)
  | serialised (key : Key) (args : SerialisedArgs) (pc : SerialisedPc)
  | recovery (managerId : String) (connectors : Option (List String)) (recovery : Recovery)
  | recovered (ending : Ending (List RecoveryReport))
deriving DecidableEq

namespace Task

def await (ids : Ids) : Task → Option Await
  | lifecycle key args pc => Lifecycle.await ids key args pc
  | serialised key args pc => Serialised.await ids key args pc
  | recovery _ _ frame => some (frame.await ids)
  | recovered _ => none

def resume (ids : Ids) : Task → Answer → Option (Resumed Task)
  | lifecycle key args pc, answer =>
      (Lifecycle.resume ids key args pc answer).map fun resumed =>
        ⟨lifecycle key args resumed.next, resumed.unlock⟩
  | serialised key args pc, answer =>
      (Serialised.resume ids key pc answer).map fun resumed =>
        ⟨serialised key args resumed.next, resumed.unlock⟩
  | recovery managerId connectors frame, answer =>
      (frame.resume ids managerId connectors answer).map fun resumed =>
        match resumed.next with
        | .going frame => ⟨recovery managerId connectors frame, resumed.unlock⟩
        | .finished reports => ⟨recovered (.returned reports), resumed.unlock⟩
        | .raised error => ⟨recovered (.raised error), resumed.unlock⟩
  | recovered _, _ => none

def cancel : Task → Option (Resumed Task)
  | lifecycle key args pc =>
      (Lifecycle.cancel pc).map fun resumed => ⟨lifecycle key args resumed.next, resumed.unlock⟩
  | serialised key args pc =>
      (Serialised.cancel pc).map fun resumed => ⟨serialised key args resumed.next, resumed.unlock⟩
  | recovery _ _ frame => some ⟨recovered (.raised .cancelledError), frame.unlocksOnCancel⟩
  | recovered _ => none

-- A cancellation does not reach the operation that a shielded cleanup awaits.
def shielded : Task → Bool
  | lifecycle _ _ (.restore _ _ _) => true
  | lifecycle _ _ (.restoreVerify _ _ _) => true
  | lifecycle _ _ (.release _ _ _ _) => true
  | _ => false

def frame : Task → Option Recovery
  | lifecycle _ _ pc => pc.frame
  | serialised _ _ pc => pc.frame
  | recovery _ _ frame => some frame
  | recovered _ => none

-- The key of the process-local lock that the task works under.
def lockKey : Task → Option Key
  | lifecycle key _ (.recovering frame) => some (frameKey key frame)
  | lifecycle key _ _ => some key
  | serialised key _ (.recovering frame) => some (frameKey key frame)
  | serialised key _ _ => some key
  | recovery _ _ (.round lease _ _ _) => some lease.key
  | _ => none
where
  frameKey (key : Key) : Recovery → Key
    | .list => key
    | .round lease _ _ _ => lease.key

end Task

-- A call in one process. A crash freezes it where it is.
structure Call where
  process : Nat
  task : Task
  crashed : Bool := false
deriving DecidableEq

-- What the calls share: the lease table, the routes the managers keep, and the
-- local locks of each process.
structure Shared where
  clock : Time
  store : LeaseTable
  routes : Key → RouteState
  locks : Nat × Key → Bool

-- What the environment decides at an await.
inductive Choice where
  | plain
  | late
  | listed (found : List ProviderRouteLease)
  | reading (reading : ProviderRoute)
  | mutated (route : RouteState) (result : MutationResult)
  | value (value : Value)
  | moved (route : RouteState) (value : Value)
  | raised (route : Option RouteState) (error : Raised)
deriving DecidableEq

namespace Shared

def setRoute (s : Shared) (key : Key) (route : RouteState) : Shared :=
  { s with routes := Function.update s.routes key route }

def setLock (s : Shared) (process : Nat) (key : Key) (locked : Bool) : Shared :=
  { s with locks := Function.update s.locks (process, key) locked }

-- An operation of the manager that fails may have changed the route before.
def failed (s : Shared) (key : Key) (route : Option RouteState) (error : Raised) :
    Option (Answer × Shared) :=
  if error = .cancelledError then none
  else some (.raised error, (route.map (s.setRoute key)).getD s)

-- One awaited operation, done at one instant. The rows of a listing come in any order.
def perform (s : Shared) (process : Nat) : Await → Choice → Option (Answer × Shared)
  | .store call, .plain =>
      let (reply, store) := s.store.respond ⟨s.clock, call⟩
      some (.store reply false, { s with store := store })
  | .store call, .late =>
      let (reply, store) := s.store.respond ⟨s.clock, call⟩
      some (.store reply true, { s with store := store })
  | .store (.listExpiredActive moment), .listed found =>
      if found.Perm (s.store.listExpiredActive (moment.getD s.clock)) then
        some (.store (.leases found) false, s)
      else none
  | .acquireLock key, .plain =>
      if s.locks (process, key) then none else some (.locked, s.setLock process key true)
  | .acquireLock _, .raised none .timeoutError => some (.raised .timeoutError, s)
  | .inspect _, .reading reading => some (.route reading, s)
  | .inspect key, .raised none error => s.failed key none error
  | .enable key _ _, .mutated route result => some (.mutated result, s.setRoute key route)
  | .enable key _ _, .raised route error => s.failed key route error
  | .disable key, .mutated route result => some (.mutated result, s.setRoute key route)
  | .disable key, .raised route error => s.failed key route error
  | .execute, .value value => some (.value value, s)
  | .execute, .raised none error => if error = .cancelledError then none else some (.raised error, s)
  | .mutate key, .moved route value => some (.value value, s.setRoute key route)
  | .mutate key, .raised route error => s.failed key route error
  | .sleep, .plain => some (.slept, s)
  | _, _ => none

def unlock (s : Shared) (process : Nat) (key : Option Key) (resumed : Bool) : Shared :=
  match key with
  | some key => if resumed then s.setLock process key false else s
  | none => s

end Shared

abbrev CallId := Nat

structure World where
  shared : Shared
  calls : CallId → Option Call

-- A call that enters the coordinator.
inductive Entry where
  | lifecycle (key : Key) (args : LifecycleArgs)
  | serialised (key : Key) (args : SerialisedArgs)
  | recovery (managerId : String) (connectors : Option (List String))
deriving DecidableEq

def Entry.task : Entry → Task
  | lifecycle key args => .lifecycle key args .checkBlock
  | serialised key args => .serialised key args .checkBlock
  | recovery managerId connectors => .recovery managerId connectors .list

-- A step of a run. The answer of an operation is delivered, or lost to a
-- cancellation that comes after the operation took effect.
inductive Label where
  | start (id : CallId) (process : Nat) (entry : Entry)
  | answer (id : CallId) (ids : Ids) (choice : Choice)
  | lose (id : CallId) (ids : Ids) (choice : Choice)
  | cancel (id : CallId)
  | crash (process : Nat)
  | tick (now : Time)
  | clearBlock (key : Key)
deriving DecidableEq

def Label.started : Label → Option CallId
  | start id _ _ => some id
  | _ => none

-- The call whose operation is done in the step.
def Label.mover : Label → Option CallId
  | answer id _ _ => some id
  | lose id _ _ => some id
  | _ => none

namespace World

def put (w : World) (id : CallId) (call : Call) (shared : Shared) (resumed : Resumed Task) : World where
  shared := shared.unlock call.process call.task.lockKey resumed.unlock
  calls := Function.update w.calls id (some { call with task := resumed.next })

-- The call with this id, if it has not crashed.
def live (w : World) (id : CallId) : Option Call :=
  (w.calls id).filter fun call => !call.crashed

def step (w : World) : Label → Option World
  | .start id process entry =>
      match w.calls id with
      | some _ => none
      | none =>
          some { w with calls := Function.update w.calls id (some { process, task := entry.task }) }
  | .answer id ids choice => do
      let call ← w.live id
      let await ← call.task.await ids
      let (answer, shared) ← w.shared.perform call.process await choice
      let resumed ← call.task.resume ids answer
      return w.put id call shared resumed
  | .lose id ids choice => do
      let call ← w.live id
      let await ← call.task.await ids
      let (_, shared) ← w.shared.perform call.process await choice
      if call.task.shielded || !await.effective then none
      else
        let resumed ← call.task.cancel
        return w.put id call shared resumed
  | .cancel id => do
      let call ← w.live id
      let resumed ← call.task.cancel
      return w.put id call w.shared resumed
  | .crash process =>
      some
        { shared := { w.shared with
            locks := fun lock => if lock.1 = process then false else w.shared.locks lock }
          calls := fun id => (w.calls id).map fun call =>
            if call.process = process then { call with crashed := true } else call }
  | .tick now => if w.shared.clock ≤ now then some { w with shared := { w.shared with clock := now } }
      else none
  | .clearBlock key =>
      some { w with shared := { w.shared with store := w.shared.store.clearBlock key } }

-- No call, no lease and no lock; the routes are what the managers keep.
def initial (routes : Key → RouteState) : World where
  shared := { clock := 0, store := .empty, routes := routes, locks := fun _ => false }
  calls := fun _ => none

end World

end JoyMesh.ProviderRoutes
