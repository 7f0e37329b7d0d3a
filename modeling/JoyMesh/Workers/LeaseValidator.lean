import Mathlib
import JoyMesh.Datetime
import JoyMesh.Library.Run
import JoyMesh.Library.Table
import JoyMesh.Routing.Intent

namespace JoyMesh.Workers

open JoyMesh.Library JoyMesh.Routing

section Definitions

-- What the interpreter makes of an object: str(), int(), the datetime and the str that it is,
-- whether it is true, and the items that dict() finds in it.
structure Objects (Obj : Type) where
  str : Obj → String
  int : Obj → Except PyError Int
  asDatetime : Obj → Option Datetime
  asStr : Obj → Option String
  truthy : Obj → Bool
  dict : Obj → Except PyError (List (Obj × Obj))
  fromisoformat : String → Except PyError Datetime

structure ExecutionLeaseToken (Obj : Type) where
  leaseId : String
  workerId : String
  executionId : String
  attemptId : String
  generation : Int
  fencingToken : Int
  expiresAt : Datetime
  issuedAt : Option Datetime := none
  signature : Option String := none
  metadata : List (Obj × Obj) := []
deriving DecidableEq

inductive Lease (Obj : Type) where
  | token (token : ExecutionLeaseToken Obj)
  | mapping (get : String → Option Obj)

inductive Refusal where
  | lease (reasonCode message : String)
  | raised (error : PyError)
deriving DecidableEq

-- A call of validate, and what utc_now() would say.
structure Presentation (Obj : Type) where
  lease : Lease Obj
  workerId : String
  executionId : Option String := none
  now : Option Datetime := none
  expectedSignature : Option String := none
  utcNow : Datetime

variable {Obj : Type} (objects : Objects Obj)

def raised {α : Type} : Except PyError α → Except Refusal α
  | .ok value => .ok value
  | .error error => .error (.raised error)

def item (get : String → Option Obj) (key : String) : Except PyError Obj :=
  match get key with
  | some value => .ok value
  | none => .error ⟨"KeyError", key⟩

def given (get : String → Option Obj) (key : String) : Option Obj :=
  (get key).filter objects.truthy

def parseDt (value : Obj) : Except PyError Datetime :=
  match objects.asDatetime value with
  | some datetime => .ok datetime
  | none =>
      let text := (objects.str value).toList
      if text.getLast? = some 'Z' then
        objects.fromisoformat (String.ofList text.dropLast ++ "+00:00")
      else objects.fromisoformat (objects.str value)

def readMapping (get : String → Option Obj) : Except PyError (ExecutionLeaseToken Obj) := do
  let leaseId ← item get "lease_id"
  let workerId ← item get "worker_id"
  let executionId ← item get "execution_id"
  let attemptId ← item get "attempt_id"
  let generation ← objects.int (← item get "generation")
  let fencingToken ← objects.int (← item get "fencing_token")
  let expiresAt ← parseDt objects (← item get "expires_at")
  let issuedAt ← match given objects get "issued_at" with
    | some value => (parseDt objects value).map some
    | none => .ok none
  let metadata ← match given objects get "metadata" with
    | some value => objects.dict value
    | none => .ok []
  return {
    leaseId := objects.str leaseId
    workerId := objects.str workerId
    executionId := objects.str executionId
    attemptId := objects.str attemptId
    generation := generation
    fencingToken := fencingToken
    expiresAt := expiresAt
    issuedAt := issuedAt
    signature := (get "signature").bind objects.asStr
    metadata := metadata }

def Lease.read : Lease Obj → Except PyError (ExecutionLeaseToken Obj)
  | .token lease => .ok lease
  | .mapping get => readMapping objects get

-- A naive datetime and an aware one have no order.
def notAfter (first second : Datetime) : Except PyError Bool :=
  if first.aware = second.aware then .ok (first.time ≤ second.time)
  else .error ⟨"TypeError", "can't compare offset-naive and offset-aware datetimes"⟩

-- The checks that do not depend on what was accepted before.
def Presentation.checked (call : Presentation Obj) : Except Refusal (ExecutionLeaseToken Obj) := do
  let token ← raised (call.lease.read objects)
  if token.workerId ≠ call.workerId then
    throw (.lease "wrong_worker" "lease worker mismatch")
  if call.executionId.any (· ≠ token.executionId) then
    throw (.lease "wrong_execution" "lease execution mismatch")
  if ← raised (notAfter token.expiresAt (call.now.getD call.utcNow)) then
    throw (.lease "expired" "lease expired")
  if call.expectedSignature.any fun signature => token.signature ≠ some signature then
    throw (.lease "invalid_signature" "lease signature mismatch")
  return token

def ExecutionLeaseToken.replayKey (token : ExecutionLeaseToken Obj) : String :=
  token.leaseId ++ ":" ++ toString token.fencingToken ++ ":" ++ toString token.generation

structure WorkerLeaseValidator where
  seen : List String := []
  lastSequence : Table String Int := ∅

namespace WorkerLeaseValidator

variable (validator : WorkerLeaseValidator)

def validate (call : Presentation Obj) :
    Except Refusal (ExecutionLeaseToken Obj) × WorkerLeaseValidator :=
  match call.checked objects with
  | .error refusal => (.error refusal, validator)
  | .ok token =>
      if validator.seen.contains token.replayKey then
        (.error (.lease "replay" "duplicate lease presentation"), validator)
      else (.ok token, { validator with seen := token.replayKey :: validator.seen })

def acceptHeartbeatSequence (workerId : String) (sequence : Int) :
    Except Refusal Unit × WorkerLeaseValidator :=
  if sequence ≤ (validator.lastSequence.lookup workerId).getD 0 then
    (.error (.lease "stale_sequence" "heartbeat sequence not monotonic"), validator)
  else
    (.ok (), { validator with lastSequence := validator.lastSequence.insert workerId sequence })

end WorkerLeaseValidator

end Definitions

section Runs

variable {Obj : Type}

inductive Call (Obj : Type) where
  | validate (presentation : Presentation Obj)
  | heartbeat (workerId : String) (sequence : Int)

-- The validator, and what it has accepted, the newest first.
structure History (Obj : Type) where
  validator : WorkerLeaseValidator := {}
  accepted : List (ExecutionLeaseToken Obj) := []
  heartbeats : List (String × Int) := []

variable (objects : Objects Obj)

-- A call answers whether it was accepted.
def answer (s : History Obj) : Call Obj → Except Refusal Unit × History Obj
  | .validate call =>
      match s.validator.validate objects call with
      | (.ok token, validator) =>
          (.ok (), { s with validator := validator, accepted := token :: s.accepted })
      | (.error refusal, validator) => (.error refusal, { s with validator := validator })
  | .heartbeat workerId sequence =>
      match s.validator.acceptHeartbeatSequence workerId sequence with
      | (.ok (), validator) =>
          (.ok (), { s with
            validator := validator
            heartbeats := (workerId, sequence) :: s.heartbeats })
      | (.error refusal, validator) => (.error refusal, { s with validator := validator })

def ExecutionLeaseToken.identity (token : ExecutionLeaseToken Obj) : String × Int × Int :=
  (token.leaseId, token.fencingToken, token.generation)

-- A lease that is not older than one that was accepted before it.
def ExecutionLeaseToken.Follows (token earlier : ExecutionLeaseToken Obj) : Prop :=
  token.executionId = earlier.executionId →
    earlier.fencingToken ≤ token.fencingToken ∧ earlier.generation ≤ token.generation

structure History.Sound (s : History Obj) : Prop where
  once : (s.accepted.map ExecutionLeaseToken.identity).Nodup
  fenced : s.accepted.Pairwise ExecutionLeaseToken.Follows
  increasing : s.heartbeats.Pairwise fun later earlier => later.1 = earlier.1 → earlier.2 < later.2

-- A rejected call leaves everything as it was.
def Unspent (s : History Obj) (call : Call Obj) : Prop :=
  ∀ refusal, (answer objects s call).1 = .error refusal → (answer objects s call).2 = s

-- A lease that passes the checks and is presented for the first time is not older than the
-- accepted leases for its execution.
def Current (s : History Obj) : Call Obj → Prop
  | .validate call => ∀ token, call.checked objects = .ok token →
      token.replayKey ∉ s.validator.seen → ∀ earlier ∈ s.accepted, token.Follows earlier
  | .heartbeat _ _ => True

variable {objects : Objects Obj} {s : History Obj} {call : Call Obj} {calls : List (Call Obj)}

section Keys

theorem colon_notMem_int (n : Int) : ':' ∉ (toString n).toList := by
  have hdigits : ∀ m : Nat, ':' ∉ (Nat.repr m).toList := by
    intro m hm
    have hdigit := Nat.isDigit_of_mem_toDigits (by decide) (by decide) (Nat.toList_repr ▸ hm)
    exact absurd hdigit (by decide)
  cases n with
  | ofNat m => exact hdigits m
  | negSucc m =>
      intro hm
      have hm : ':' ∈ '-' :: (Nat.repr (m + 1)).toList := by simpa [toString, Int.repr] using hm
      rcases List.mem_cons.mp hm with hm | hm
      · exact absurd hm (by decide)
      · exact hdigits (m + 1) hm

-- The last colon tells where the number begins.
theorem append_colon_inj {first second before after : List Char} (hbefore : ':' ∉ before)
    (hafter : ':' ∉ after) (h : first ++ ':' :: before = second ++ ':' :: after) :
    first = second ∧ before = after := by
  rcases List.append_eq_append_iff.mp h with ⟨middle, hsecond, hrest⟩ | ⟨middle, hfirst, hrest⟩
  · cases middle with
    | nil => exact ⟨by simpa using hsecond.symm, (List.cons.inj hrest).2⟩
    | cons c middle =>
        obtain ⟨-, rfl⟩ := List.cons.inj hrest
        exact absurd (by simp) hbefore
  · cases middle with
    | nil => exact ⟨by simpa using hfirst, (List.cons.inj hrest).2.symm⟩
    | cons c middle =>
        obtain ⟨-, rfl⟩ := List.cons.inj hrest
        exact absurd (by simp) hafter

theorem append_number_inj {first second : String} {m n : Int}
    (h : first ++ ":" ++ toString m = second ++ ":" ++ toString n) : first = second ∧ m = n := by
  have hlist := congrArg String.toList h
  have hcolon : ":".toList = [':'] := rfl
  simp only [String.toList_append, hcolon, List.append_assoc, List.singleton_append] at hlist
  obtain ⟨htext, hnumber⟩ := append_colon_inj (colon_notMem_int m) (colon_notMem_int n) hlist
  exact ⟨String.toList_inj.mp htext, Int.repr_inj.mp (String.toList_inj.mp hnumber)⟩

-- A key tells the lease, the token and the generation apart, whatever the id of the lease.
theorem replayKey_eq_iff {first second : ExecutionLeaseToken Obj} :
    first.replayKey = second.replayKey ↔ first.identity = second.identity := by
  unfold ExecutionLeaseToken.replayKey ExecutionLeaseToken.identity
  constructor
  · intro h
    obtain ⟨htext, hgeneration⟩ := append_number_inj h
    obtain ⟨hlease, hfencing⟩ := append_number_inj htext
    rw [hlease, hfencing, hgeneration]
  · intro h
    obtain ⟨hlease, hrest⟩ := Prod.ext_iff.mp h
    obtain ⟨hfencing, hgeneration⟩ := Prod.ext_iff.mp hrest
    dsimp only at hlease hfencing hgeneration
    rw [hlease, hfencing, hgeneration]

end Keys

section Steps

-- What the validator knows of what it has accepted.
structure History.Kept (s : History Obj) : Prop where
  seen : s.validator.seen = s.accepted.map ExecutionLeaseToken.replayKey
  once : (s.accepted.map ExecutionLeaseToken.identity).Nodup
  counted : ∀ workerId sequence, (workerId, sequence) ∈ s.heartbeats →
    sequence ≤ (s.validator.lastSequence.lookup workerId).getD 0
  increasing : s.heartbeats.Pairwise fun later earlier => later.1 = earlier.1 → earlier.2 < later.2

theorem answer_validate {presentation : Presentation Obj} :
    (∃ refusal, answer objects s (.validate presentation) = (.error refusal, s) ∧
      ∀ token, presentation.checked objects = .ok token → token.replayKey ∈ s.validator.seen) ∨
      ∃ token, presentation.checked objects = .ok token ∧
        token.replayKey ∉ s.validator.seen ∧
        answer objects s (.validate presentation) = (.ok (), { s with
          validator := { s.validator with seen := token.replayKey :: s.validator.seen }
          accepted := token :: s.accepted }) := by
  cases hchecked : presentation.checked objects with
  | error refusal =>
      exact .inl ⟨refusal, by simp only [answer, WorkerLeaseValidator.validate, hchecked],
        fun _ h => by cases h⟩
  | ok token =>
      by_cases hseen : token.replayKey ∈ s.validator.seen
      · refine .inl ⟨.lease "replay" "duplicate lease presentation", ?_, fun _ h => ?_⟩
        · simp only [answer, WorkerLeaseValidator.validate, hchecked, List.contains_eq_mem, hseen,
            decide_true, if_true]
        · exact Except.ok.inj h ▸ hseen
      · refine .inr ⟨token, rfl, hseen, ?_⟩
        simp only [answer, WorkerLeaseValidator.validate, hchecked, List.contains_eq_mem, hseen,
          decide_false, Bool.false_eq_true, if_false]

theorem answer_heartbeat {workerId : String} {sequence : Int} :
    (∃ refusal, answer objects s (.heartbeat workerId sequence) = (.error refusal, s)) ∨
      (s.validator.lastSequence.lookup workerId).getD 0 < sequence ∧
        answer objects s (.heartbeat workerId sequence) = (.ok (), { s with
          validator := { s.validator with
            lastSequence := s.validator.lastSequence.insert workerId sequence }
          heartbeats := (workerId, sequence) :: s.heartbeats }) := by
  unfold answer WorkerLeaseValidator.acceptHeartbeatSequence
  by_cases hstale : sequence ≤ (s.validator.lastSequence.lookup workerId).getD 0
  · exact .inl ⟨.lease "stale_sequence" "heartbeat sequence not monotonic", by
      simp only [hstale, if_true]⟩
  · exact .inr ⟨not_le.mp hstale, by simp only [hstale, if_false]⟩

theorem unspent : Unspent objects s call := by
  intro refusal hrefused
  cases call with
  | validate presentation =>
      rcases @answer_validate Obj objects s presentation with ⟨_, h, -⟩ | ⟨_, -, -, h⟩
      · rw [h]
      · rw [h] at hrefused
        cases hrefused
  | heartbeat workerId sequence =>
      rcases @answer_heartbeat Obj objects s workerId sequence with ⟨_, h⟩ | ⟨-, h⟩
      · rw [h]
      · rw [h] at hrefused
        cases hrefused

theorem History.Kept.step (hs : s.Kept) : (answer objects s call).2.Kept := by
  cases call with
  | validate presentation =>
      rcases @answer_validate Obj objects s presentation with ⟨_, h, -⟩ | ⟨token, -, hseen, h⟩
      · rw [h]
        exact hs
      · rw [h]
        have hnew : token.identity ∉ s.accepted.map ExecutionLeaseToken.identity := by
          rintro hmem
          obtain ⟨earlier, hearlier, hidentity⟩ := List.mem_map.mp hmem
          refine hseen ?_
          rw [hs.seen, ← replayKey_eq_iff.mpr hidentity]
          exact List.mem_map_of_mem hearlier
        exact ⟨by simp [hs.seen], List.nodup_cons.mpr ⟨hnew, hs.once⟩, hs.counted, hs.increasing⟩
  | heartbeat workerId sequence =>
      rcases @answer_heartbeat Obj objects s workerId sequence with ⟨_, h⟩ | ⟨hlater, h⟩
      · rw [h]
        exact hs
      · rw [h]
        refine ⟨hs.seen, hs.once, fun other earlier hmem => ?_,
          List.pairwise_cons.mpr ⟨fun earlier hearlier hsame => ?_, hs.increasing⟩⟩
        · by_cases hother : other = workerId
          · subst hother
            rw [AList.lookup_insert, Option.getD_some]
            rcases List.mem_cons.mp hmem with heq | hmem
            · exact le_of_eq (Prod.ext_iff.mp heq).2
            · exact le_of_lt (lt_of_le_of_lt (hs.counted _ _ hmem) hlater)
          · rw [AList.lookup_insert_ne hother]
            rcases List.mem_cons.mp hmem with heq | hmem
            · exact absurd (Prod.ext_iff.mp heq).1 hother
            · exact hs.counted _ _ hmem
        · obtain ⟨other, earlier⟩ := earlier
          obtain rfl : workerId = other := hsame
          exact lt_of_le_of_lt (hs.counted _ _ hearlier) hlater

-- One call keeps the order of the leases exactly when it does not let an older one in.
theorem fenced_step_iff :
    (answer objects s call).2.accepted.Pairwise ExecutionLeaseToken.Follows ↔
      s.accepted.Pairwise ExecutionLeaseToken.Follows ∧ Current objects s call := by
  cases call with
  | validate presentation =>
      rcases @answer_validate Obj objects s presentation with
        ⟨_, h, hseen⟩ | ⟨token, hchecked, hseen, h⟩
      · rw [h]
        exact (and_iff_left fun token hchecked hnew => absurd (hseen token hchecked) hnew).symm
      · rw [h, List.pairwise_cons, and_comm]
        refine and_congr_right fun _ => ⟨fun hfollows other hother _ => ?_, fun hcurrent =>
          hcurrent token hchecked hseen⟩
        obtain rfl := Except.ok.inj (hchecked.symm.trans hother)
        exact hfollows
  | heartbeat workerId sequence =>
      refine Iff.trans ?_ (and_iff_left trivial).symm
      rcases @answer_heartbeat Obj objects s workerId sequence with ⟨_, h⟩ | ⟨-, h⟩ <;> rw [h]

end Steps

theorem fenced_run_iff :
    (play (answer objects) s calls).accepted.Pairwise ExecutionLeaseToken.Follows ↔
      s.accepted.Pairwise ExecutionLeaseToken.Follows ∧
        PlayAlong (answer objects) (Current objects) s calls := by
  induction calls generalizing s with
  | nil => exact (and_iff_left trivial).symm
  | cons call rest ih => rw [play, ih, fenced_step_iff, PlayAlong, and_assoc]

theorem all_unspent : PlayAlong (answer objects) (Unspent objects) s calls := by
  induction calls generalizing s with
  | nil => trivial
  | cons call rest ih => exact ⟨unspent, ih⟩

-- Leases are accepted once and heartbeats in order whatever is presented, and a refusal leaves
-- no trace; the leases of an execution are accepted in order exactly when no older one comes
-- that the checks let through.
theorem lease_validation_iff (objects : Objects Obj) (calls : List (Call Obj)) :
    ((play (answer objects) {} calls).Sound ∧
        PlayAlong (answer objects) (Unspent objects) {} calls) ↔
      PlayAlong (answer objects) (Current objects) {} calls := by
  have hinitial : History.Kept ({} : History Obj) :=
    ⟨rfl, List.nodup_nil, fun _ _ hmem => (nomatch hmem), List.Pairwise.nil⟩
  have hkept : (play (answer objects) {} calls).Kept :=
    play_invariant (fun _ _ => History.Kept.step) hinitial
  constructor
  · rintro ⟨hsound, -⟩
    exact (fenced_run_iff.mp hsound.fenced).2
  · intro hcurrent
    exact ⟨⟨hkept.once, fenced_run_iff.mpr ⟨.nil, hcurrent⟩, hkept.increasing⟩, all_unspent⟩

section Example

-- Leases are presented as tokens here, so that no object is converted.
def noObjects : Objects Empty where
  str := fun value => nomatch value
  int := fun value => nomatch value
  asDatetime := fun value => nomatch value
  asStr := fun value => nomatch value
  truthy := fun value => nomatch value
  dict := fun value => nomatch value
  fromisoformat := fun text => .error ⟨"ValueError", text⟩

def leaseOf (leaseId : String) (fencingToken generation : Int) : ExecutionLeaseToken Empty where
  leaseId := leaseId
  workerId := "mac"
  executionId := "exec-1"
  attemptId := "att-1"
  generation := generation
  fencingToken := fencingToken
  expiresAt := ⟨300, true⟩

def presented (token : ExecutionLeaseToken Empty) : Call Empty :=
  .validate
    { lease := .token token, workerId := "mac", executionId := some "exec-1", utcNow := ⟨0, true⟩ }

-- The lease that was taken away is presented after the one that replaced it.
def outdated : List (Call Empty) :=
  [presented (leaseOf "lease-2" 4 2), presented (leaseOf "lease-1" 3 1)]

theorem outdated_accepted :
    (play (answer noObjects) {} outdated).accepted = [leaseOf "lease-1" 3 1, leaseOf "lease-2" 4 2] ∧
      ¬(play (answer noObjects) {} outdated).Sound := by
  have haccepted : (play (answer noObjects) {} outdated).accepted =
    [leaseOf "lease-1" 3 1, leaseOf "lease-2" 4 2] := by decide +kernel
  refine ⟨haccepted, fun h => ?_⟩
  have hfenced := h.fenced
  rw [haccepted, List.pairwise_cons] at hfenced
  have hfollows := hfenced.1 (leaseOf "lease-2" 4 2) (by simp) rfl
  exact absurd hfollows.1 (by decide)

end Example

end Runs

end JoyMesh.Workers
