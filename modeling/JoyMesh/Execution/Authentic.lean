import JoyMesh.Execution.Approval

namespace JoyMesh.Execution

open JoyMesh.Library JoyMesh.Control NonceStore

-- What was issued, what was signed with the key of the service, and what was accepted.
structure Approvals where
  issued : List ExecutionApprovalRequest := []
  signed : List (ApprovalPayload × String) := []
  taken : List (String × Time) := []
  accepted : List ApprovalPayload := []

def Approvals.note (h : Approvals) : ApprovalCall → Except Raised ApprovalAnswer → Approvals
  | .requestApproval .., .ok (.request request) => { h with issued := request :: h.issued }
  | .signResponse .., .ok (.response response) =>
      { h with signed := (response.payload, response.signature) :: h.signed }
  | .verifyResponse response _ _ _, .ok .verified =>
      { h with
        taken := (response.nonce, response.expiresAt) :: h.taken
        accepted := response.payload :: h.accepted }
  | _, _ => h

namespace ApprovalContinuationService

variable {keyring : Keyring} {s t : ApprovalContinuationService} {h : Approvals}
  {timed : TimedApproval} {response : ExecutionApprovalResponse}
  {expectedExecutionId expectedAttemptId expectedDirectiveHash : String} {between : Nat}

def noteApproval (keyring : Keyring) (h : Approvals) (s : ApprovalContinuationService)
    (timed : TimedApproval) : Approvals :=
  h.note timed.call ((s.passed timed.elapsed).respond keyring timed.between timed.call).1

-- The time of the second look at the clock.
def second (s : ApprovalContinuationService) (timed : TimedApproval) : Time :=
  s.clock + timed.elapsed + timed.between

-- The response that passes every check but the one of its nonce.
def passing (keyring : Keyring) (s : ApprovalContinuationService) (timed : TimedApproval) :
    Option ExecutionApprovalResponse :=
  match timed.call with
  | .verifyResponse response expectedExecutionId expectedAttemptId expectedDirectiveHash =>
      if s.clock + timed.elapsed < response.expiresAt ∧ (checked keyring response
          expectedExecutionId expectedAttemptId expectedDirectiveHash).isOk then some response
      else none
  | _ => none

-- The response that is verified.
def accepts (keyring : Keyring) (s : ApprovalContinuationService) (timed : TimedApproval) :
    Option ExecutionApprovalResponse :=
  match timed.call with
  | .verifyResponse response expectedExecutionId expectedAttemptId expectedDirectiveHash =>
      if ((s.passed timed.elapsed).verifyResponse keyring timed.between response
          expectedExecutionId expectedAttemptId expectedDirectiveHash).1.isOk then some response
      else none
  | _ => none

-- No signature verifies under the key of the service that the service has not made.
def Unforged (keyring : Keyring) (s : ApprovalContinuationService × Approvals)
    (timed : TimedApproval) : Prop :=
  ∀ response ∈ passing keyring s.1 timed,
    (keyring.verifyBytes response.payload response.signature keyring.publicKey).isOk →
    (response.payload, response.signature) ∈ s.2.signed

def Issued (h : Approvals) (response : ExecutionApprovalResponse) : Prop :=
  ∃ request ∈ h.issued, request.payload true = response.payload

-- What is verified is an approval, signed by the service for a request that it issued, in
-- time and for the first time.
def Authentic (keyring : Keyring) (s : ApprovalContinuationService × Approvals)
    (timed : TimedApproval) : Prop :=
  ∀ response ∈ accepts keyring s.1 timed,
    response.approved = true ∧ (response.payload, response.signature) ∈ s.2.signed ∧
      Issued s.2 response ∧ s.1.clock + timed.elapsed < response.expiresAt ∧
      response.payload ∉ s.2.accepted

-- Approvals are signed for issued requests alone, a signature that is valid under the key
-- that comes with it comes with the key of the service, and a response that was accepted
-- before does not expire between the two looks at the clock.
def Trusted (keyring : Keyring) (s : ApprovalContinuationService × Approvals)
    (timed : TimedApproval) : Prop :=
  match timed.call with
  | .requestApproval .. => True
  | .signResponse request approved => approved = true → request ∈ s.2.issued
  | .verifyResponse response _ _ _ =>
      ((keyring.verifyBytes response.payload response.signature response.publicKey).isOk →
        response.publicKey = keyring.publicKey) ∧
      (response.payload ∈ s.2.accepted → s.1.clock + timed.elapsed < response.expiresAt →
        s.1.second timed < response.expiresAt)

instance (keyring : Keyring) (s : ApprovalContinuationService × Approvals)
    (timed : TimedApproval) : Decidable (Unforged keyring s timed) := by
  delta Unforged
  infer_instance

instance (h : Approvals) (response : ExecutionApprovalResponse) : Decidable (Issued h response) := by
  delta Issued
  infer_instance

instance (keyring : Keyring) (s : ApprovalContinuationService × Approvals)
    (timed : TimedApproval) : Decidable (Authentic keyring s timed) := by
  delta Authentic
  infer_instance

instance (keyring : Keyring) (s : ApprovalContinuationService × Approvals) :
    ∀ timed : TimedApproval, Decidable (Trusted keyring s timed)
  | ⟨_, _, .requestApproval ..⟩ => .isTrue trivial
  | ⟨_, _, .signResponse ..⟩ => inferInstanceAs (Decidable (_ → _))
  | ⟨_, _, .verifyResponse ..⟩ => inferInstanceAs (Decidable ((_ → _) ∧ (_ → _ → _)))

theorem checked_ok (hchecked : (checked keyring response expectedExecutionId expectedAttemptId
    expectedDirectiveHash).isOk) : response.approved = true ∧
      (keyring.verifyBytes response.payload response.signature response.publicKey).isOk := by
  unfold checked at hchecked
  split at hchecked
  · cases hchecked
  · cases hchecked
  · split at hchecked
    · cases hchecked
    · next hverify =>
        split at hchecked
        · next happroved => exact ⟨happroved, by rw [hverify]; rfl⟩
        · cases hchecked

-- One verification, by what its checks and the store find.
inductive Verified (keyring : Keyring) (s : ApprovalContinuationService) (between : Nat)
    (response : ExecutionApprovalResponse)
    (expectedExecutionId expectedAttemptId expectedDirectiveHash : String) :
    Except Raised Unit × ApprovalContinuationService → Prop
  | expired {error : Raised} : response.expiresAt ≤ s.clock →
      Verified keyring s between response expectedExecutionId expectedAttemptId
        expectedDirectiveHash (.error error, s)
  | refused {error : Raised} {after : ApprovalContinuationService} :
      after.clock = s.clock + between →
      after.seenNonces = s.seenNonces.keep (fun expiry => decide (s.clock + between < expiry)) →
      ((after.seenNonces.lookup response.nonce).isSome ∨ ¬(checked keyring response
        expectedExecutionId expectedAttemptId expectedDirectiveHash).isOk) →
      Verified keyring s between response expectedExecutionId expectedAttemptId
        expectedDirectiveHash (.error error, after)
  | accepted {after : ApprovalContinuationService} : s.clock < response.expiresAt →
      (checked keyring response expectedExecutionId expectedAttemptId
        expectedDirectiveHash).isOk →
      after.clock = s.clock + between →
      (s.seenNonces.keep (fun expiry => decide (s.clock + between < expiry))).lookup
        response.nonce = none →
      after.seenNonces = (s.seenNonces.keep
        (fun expiry => decide (s.clock + between < expiry))).insert response.nonce
          response.expiresAt →
      Verified keyring s between response expectedExecutionId expectedAttemptId
        expectedDirectiveHash (.ok (), after)

theorem verifyResponse_verified (keyring : Keyring) (s : ApprovalContinuationService)
    (between : Nat) (response : ExecutionApprovalResponse)
    (expectedExecutionId expectedAttemptId expectedDirectiveHash : String) :
    Verified keyring s between response expectedExecutionId expectedAttemptId
      expectedDirectiveHash (s.verifyResponse keyring between response expectedExecutionId
        expectedAttemptId expectedDirectiveHash) := by
  unfold verifyResponse
  split
  · next hexpired => exact .expired hexpired
  · next hlasting =>
      dsimp only
      split
      · next expiry hseen => exact .refused rfl rfl (.inl (by rw [hseen]; rfl))
      · next hnew =>
          split
          · next error hchecked =>
              exact .refused rfl rfl (.inr (by rw [hchecked]; exact Bool.false_ne_true))
          · next hchecked =>
              exact .accepted (Int.not_le.mp hlasting) (by rw [hchecked]; rfl) rfl hnew rfl

theorem remembers_step {s t : ApprovalContinuationService × Approvals}
    (hs : Remembers s.1.seenNonces s.2.taken s.1.clock)
    (ht : watched (step keyring) (noteApproval keyring) s timed = some t) :
    Remembers t.1.seenNonces t.2.taken t.1.clock := by
  obtain ⟨hstep, hnote⟩ := watched_eq_some ht
  rw [hnote, ← Option.some.inj hstep]
  have hpassed : s.1.clock ≤ (s.1.passed timed.elapsed).clock :=
    Int.le_add_of_nonneg_right (Int.natCast_nonneg _)
  have hready : Remembers (s.1.passed timed.elapsed).seenNonces s.2.taken
      (s.1.passed timed.elapsed).clock := hs.later hpassed
  have hbetween : (s.1.passed timed.elapsed).clock ≤ s.1.second timed :=
    Int.le_add_of_nonneg_right (Int.natCast_nonneg _)
  cases hcall : timed.call with
  | requestApproval =>
      simp only [noteApproval, hcall, respond, requestApproval]
      split
      · exact hready
      · exact hready.later hbetween
  | signResponse request approved =>
      simp only [noteApproval, hcall, respond]
      cases (s.1.passed timed.elapsed).signResponse keyring request approved with
      | error => exact hready
      | ok => exact hready
  | verifyResponse response executionId attemptId directiveHash =>
      simp only [noteApproval, hcall, respond]
      have hverified := verifyResponse_verified keyring (s.1.passed timed.elapsed) timed.between
        response executionId attemptId directiveHash
      generalize (s.1.passed timed.elapsed).verifyResponse keyring timed.between response executionId
        attemptId directiveHash = result at hverified ⊢
      cases hverified with
      | expired => exact hready
      | refused hclock hseen =>
          rw [hseen, hclock]
          exact hready.prune hbetween
      | accepted hlasting hchecked hclock hnew hseen =>
          rw [hseen, hclock]
          refine (hready.prune hbetween).insert fun hcovered => ?_
          have hfound := (lookup_pruned_iff hready hbetween).mpr hcovered
          cases (congrArg Option.isSome hnew).symm.trans hfound

-- A response is verified when it passes the other checks and no acceptance of its nonce
-- is remembered.
theorem accepts_iff {h : Approvals} (hs : Remembers s.seenNonces h.taken s.clock) :
    accepts keyring s timed = some response ↔ passing keyring s timed = some response ∧
      ¬Covered h.taken (s.second timed) response.nonce := by
  have hready : Remembers (s.passed timed.elapsed).seenNonces h.taken
      (s.passed timed.elapsed).clock := hs.later (Int.le_add_of_nonneg_right (Int.natCast_nonneg _))
  have hbetween : (s.passed timed.elapsed).clock ≤ s.second timed :=
    Int.le_add_of_nonneg_right (Int.natCast_nonneg _)
  cases hcall : timed.call with
  | requestApproval => simp [accepts, passing, hcall]
  | signResponse => simp [accepts, passing, hcall]
  | verifyResponse response executionId attemptId directiveHash =>
      simp only [accepts, passing, hcall]
      have hverified := verifyResponse_verified keyring (s.passed timed.elapsed) timed.between
        response executionId attemptId directiveHash
      generalize (s.passed timed.elapsed).verifyResponse keyring timed.between response executionId
        attemptId directiveHash = result at hverified ⊢
      have hcovered := @lookup_pruned_iff _ _ _ _ response.nonce hready hbetween
      cases hverified with
      | expired hexpired =>
          have hnot : ¬s.clock + timed.elapsed < response.expiresAt := Int.not_lt.mpr hexpired
          simp [Except.isOk, Except.toBool, hnot]
      | refused hclock hseen hwhy =>
          rw [hseen] at hwhy
          have hrefused : Covered h.taken (s.second timed) response.nonce ∨ ¬(checked keyring response
              executionId attemptId directiveHash).isOk := hwhy.imp_left hcovered.mp
          constructor
          · intro hnone
            cases hnone
          · rintro ⟨hpassing, hnot⟩
            split at hpassing
            · next hchecks =>
                obtain rfl := Option.some.inj hpassing
                exact absurd hchecks.2 (hrefused.resolve_left hnot)
            · cases hpassing
      | accepted hlasting hchecked hclock hnew hseen =>
          have hnot : ¬Covered h.taken (s.second timed) response.nonce := fun hfound => by
            cases (congrArg Option.isSome hnew).symm.trans (hcovered.mpr hfound)
          have hchecks : s.clock + timed.elapsed < response.expiresAt ∧ (checked keyring response
              executionId attemptId directiveHash).isOk := ⟨hlasting, hchecked⟩
          rw [if_pos hchecks]
          constructor
          · intro hsome
            obtain rfl := Option.some.inj hsome
            exact ⟨rfl, hnot⟩
          · rintro ⟨hsome, -⟩
            exact hsome

theorem passing_checked (hpassing : passing keyring s timed = some response) :
    s.clock + timed.elapsed < response.expiresAt ∧ response.approved = true ∧
      (keyring.verifyBytes response.payload response.signature response.publicKey).isOk := by
  unfold passing at hpassing
  split at hpassing
  · split at hpassing
    · next hchecks =>
        obtain rfl := Option.some.inj hpassing
        exact ⟨hchecks.1, checked_ok hchecks.2⟩
    · cases hpassing
  · cases hpassing

-- What is signed as approved was issued, and what is accepted has its nonce taken.
structure Traced (s : ApprovalContinuationService × Approvals) : Prop where
  remembers : Remembers s.1.seenNonces s.2.taken s.1.clock
  signed : ∀ made ∈ s.2.signed, made.1.approved = true →
    ∃ request ∈ s.2.issued, request.payload true = made.1
  accepted : ∀ payload ∈ s.2.accepted, (payload.nonce, payload.expiresAt) ∈ s.2.taken

theorem signResponse_payload {request : ExecutionApprovalRequest} {approved : Bool}
    (hsigned : s.signResponse keyring request approved = .ok response) :
    response.payload = request.payload approved := by
  unfold signResponse at hsigned
  split at hsigned
  · cases hsigned
  · obtain rfl := Except.ok.inj hsigned
    rfl

theorem Traced.step {s t : ApprovalContinuationService × Approvals} (hs : Traced s)
    (htrusted : Trusted keyring s timed)
    (ht : watched (step keyring) (noteApproval keyring) s timed = some t) : Traced t := by
  suffices hnew : (∀ made ∈ t.2.signed, made.1.approved = true →
      ∃ request ∈ t.2.issued, request.payload true = made.1) ∧
      ∀ payload ∈ t.2.accepted, (payload.nonce, payload.expiresAt) ∈ t.2.taken from
    ⟨remembers_step hs.remembers ht, hnew.1, hnew.2⟩
  obtain ⟨-, hnote⟩ := watched_eq_some ht
  rw [hnote]
  unfold Trusted at htrusted
  cases hcall : timed.call with
  | requestApproval executionId attemptId directivePayload reason expiresAt approvalId nonce =>
      simp only [noteApproval, hcall, respond]
      cases ((s.1.passed timed.elapsed).requestApproval keyring timed.between executionId attemptId
        directivePayload reason expiresAt approvalId nonce).1 with
      | error => exact ⟨hs.signed, hs.accepted⟩
      | ok request =>
          refine ⟨fun made hmade happroved => ?_, hs.accepted⟩
          obtain ⟨found, hfound, hsame⟩ := hs.signed made hmade happroved
          exact ⟨found, List.mem_cons_of_mem _ hfound, hsame⟩
  | signResponse request approved =>
      simp only [hcall] at htrusted
      simp only [noteApproval, hcall, respond]
      cases hsigned : (s.1.passed timed.elapsed).signResponse keyring request approved with
      | error => exact ⟨hs.signed, hs.accepted⟩
      | ok response =>
          refine ⟨List.forall_mem_cons.mpr ⟨fun happroved => ?_, hs.signed⟩, hs.accepted⟩
          have hpayload := signResponse_payload hsigned
          obtain rfl : approved = true :=
            (congrArg ApprovalPayload.approved hpayload).symm.trans happroved
          exact ⟨request, htrusted rfl, hpayload.symm⟩
  | verifyResponse response executionId attemptId directiveHash =>
      simp only [noteApproval, hcall, respond]
      cases ((s.1.passed timed.elapsed).verifyResponse keyring timed.between response executionId
        attemptId directiveHash).1 with
      | error => exact ⟨hs.signed, hs.accepted⟩
      | ok => exact ⟨hs.signed, List.forall_mem_cons.mpr
          ⟨List.mem_cons_self, fun payload hp => List.mem_cons_of_mem _ (hs.accepted payload hp)⟩⟩

-- The nonce of what was accepted is remembered for as long as the response lasts.
theorem Traced.authentic {s : ApprovalContinuationService × Approvals} (hs : Traced s)
    (hunforged : Unforged keyring s timed) (htrusted : Trusted keyring s timed) :
    Authentic keyring s timed := by
  intro response haccepts
  obtain ⟨hpassing, hcovered⟩ := (accepts_iff hs.remembers).mp haccepts
  obtain ⟨hlasting, happroved, hverify⟩ := passing_checked hpassing
  have hown : ((keyring.verifyBytes response.payload response.signature response.publicKey).isOk →
      response.publicKey = keyring.publicKey) ∧ (response.payload ∈ s.2.accepted →
        s.1.clock + timed.elapsed < response.expiresAt → s.1.second timed < response.expiresAt) := by
    unfold passing at hpassing
    unfold Trusted at htrusted
    split at hpassing
    · next hcall =>
        obtain rfl := Option.some.inj (Option.ite_none_right_eq_some.mp hpassing).2
        simpa only [hcall] using htrusted
    · cases hpassing
  have hsigned := hunforged response hpassing (hown.1 hverify ▸ hverify)
  refine ⟨happroved, hsigned, hs.signed _ hsigned happroved, hlasting, fun haccepted => ?_⟩
  exact hcovered ⟨_, hs.accepted _ haccepted, rfl, hown.2 haccepted hlasting⟩

-- Under signatures that are not forged, only authentic responses are verified in a run whose
-- callers are trusted so far.
theorem run_authentic {keyring : Keyring} {start ttl : Time} {calls : List TimedApproval}
    (hunforged : Along (watched (step keyring) (noteApproval keyring)) (Unforged keyring)
      ({ clock := start, defaultTtl := ttl }, {}) calls)
    (htrusted : Along (watched (step keyring) (noteApproval keyring)) (Trusted keyring)
      ({ clock := start, defaultTtl := ttl }, {}) calls) :
    Along (watched (step keyring) (noteApproval keyring)) (Authentic keyring)
      ({ clock := start, defaultTtl := ttl }, {}) calls := by
  have hinitial : Traced (({ clock := start, defaultTtl := ttl }, {}) :
      ApprovalContinuationService × Approvals) :=
    ⟨⟨fun _ _ hlookup => (Option.some_ne_none _ hlookup.symm).elim,
      fun _ huse => (List.not_mem_nil huse).elim⟩,
      fun _ hmade => (List.not_mem_nil hmade).elim, fun _ hp => (List.not_mem_nil hp).elim⟩
  exact Along.of_invariant (fun _ _ _ hs hcond ht => Traced.step hs hcond.2 ht)
    (fun _ _ hs hcond => hs.authentic hcond.1 hcond.2) hinitial (hunforged.and htrusted)

namespace Approved

-- A signature names its key, and any key verifies its own.
def keys : Keyring where
  directiveHash _ := .ok "hash"
  publicKey := "service"
  signBytes _ := "service"
  verifyBytes _ signature publicKey :=
    if signature = publicKey then .ok () else .error ⟨"InvalidSignature", ""⟩

def request : ExecutionApprovalRequest where
  approvalId := "approval"
  executionId := "execution"
  attemptId := "attempt"
  directiveHash := "hash"
  reason := "write"
  createdAt := 10
  expiresAt := 100
  nonce := "nonce"

def signedWith (key : String) : ExecutionApprovalResponse where
  approvalId := "approval"
  executionId := "execution"
  attemptId := "attempt"
  directiveHash := "hash"
  approved := true
  nonce := "nonce"
  expiresAt := 100
  signature := key
  publicKey := key

def calls : List TimedApproval := [
  ⟨10, 0, .requestApproval "execution" "attempt" .none "write" (some 100) "approval" "nonce"⟩,
  ⟨1, 0, .signResponse request true⟩,
  ⟨1, 0, .verifyResponse (signedWith "service") "execution" "attempt" "hash"⟩,
  ⟨1, 0, .verifyResponse (signedWith "service") "execution" "attempt" "hash"⟩]

-- Nothing was requested, and the key is of the sender.
def forged : List TimedApproval :=
  [⟨10, 0, .verifyResponse (signedWith "adversary") "execution" "attempt" "hash"⟩]

-- The approval expires between the two looks at the clock of the last verification.
def repeated : List TimedApproval :=
  calls ++ [⟨86, 1, .verifyResponse (signedWith "service") "execution" "attempt" "hash"⟩]

end Approved

theorem approved_authentic :
    Along (watched (step Approved.keys) (noteApproval Approved.keys)) (Authentic Approved.keys)
      ({}, {}) Approved.calls :=
  run_authentic (by decide +kernel) (by decide +kernel)

theorem adversary_verified :
    (Along (watched (step Approved.keys) (noteApproval Approved.keys)) (Unforged Approved.keys)
        ({}, {}) Approved.forged ∧
      ¬Along (watched (step Approved.keys) (noteApproval Approved.keys)) (Authentic Approved.keys)
        ({}, {}) Approved.forged) ∧
    Along (watched (step Approved.keys) (noteApproval Approved.keys)) (Unforged Approved.keys)
        ({}, {}) Approved.repeated ∧
      ¬Along (watched (step Approved.keys) (noteApproval Approved.keys)) (Authentic Approved.keys)
        ({}, {}) Approved.repeated := by
  decide +kernel

end ApprovalContinuationService

end JoyMesh.Execution
