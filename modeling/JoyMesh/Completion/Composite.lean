import JoyMesh.Completion.Verification

namespace JoyMesh.Completion

namespace VerificationRequest

variable {request : VerificationRequest} {verifyChild other : VerificationRequest → VerificationResult}

-- The policy of the request itself, without its child policies.
def ownPolicy (request : VerificationRequest) : VerificationPolicy := request.policy.headD {}

def childStrategies (request : VerificationRequest) : List String :=
  if request.ownPolicy.strategies = [] then ["backend_success_with_evidence"]
  else request.ownPolicy.strategies

-- The request that a composite makes for one of its strategies.
def child (request : VerificationRequest) (strategy : String) : VerificationRequest :=
  { request with strategy, policy := request.policy.tail }

-- The route is restored, and the policy of the request has no flag that decides by itself.
structure Unflagged (request : VerificationRequest) : Prop where
  cancelled : request.ownPolicy.cancelled = false
  restored : request.restoreOk = true
  approval : request.ownPolicy.requireHumanApproval = false
  timeout : request.ownPolicy.forceTimeout = false
  error : request.ownPolicy.forceError = false

-- The first of the strategies whose child is not verified.
def FirstUnverified (request : VerificationRequest) (strategy : String) : Prop :=
  ∃ before after, request.childStrategies = before ++ strategy :: after ∧
    (∀ earlier ∈ before, (request.child earlier).verify.outcome = .verified) ∧
    (request.child strategy).verify.outcome ≠ .verified

section Loop

variable {strategies before after : List String} {children : List (String × VerificationResult)}
  {strategy : String}

theorem compositeLoop_verified_iff :
    (request.compositeLoop verifyChild strategies children).outcome = .verified ↔
      ∀ strategy ∈ strategies, (verifyChild { request with strategy }).outcome = .verified := by
  induction strategies generalizing children with
  | nil => simp [compositeLoop]
  | cons strategy strategies ih =>
      unfold compositeLoop
      by_cases hverified : (verifyChild { request with strategy }).outcome = .verified
      · simp [hverified, ih]
      · simp [hverified]

-- The loop stops at the first child that is not verified, with its verdict.
theorem compositeLoop_stops
    (hbefore : ∀ earlier ∈ before,
      (verifyChild { request with strategy := earlier }).outcome = .verified)
    (hfirst : (verifyChild { request with strategy }).outcome ≠ .verified) :
    let result := request.compositeLoop verifyChild (before ++ strategy :: after) children
    result.outcome = (verifyChild { request with strategy }).outcome ∧
      result.failureClass = (verifyChild { request with strategy }).failureClass := by
  induction before generalizing children with
  | nil => simp [compositeLoop, hfirst]
  | cons earlier before ih =>
      have hverified := hbefore earlier List.mem_cons_self
      have hrest := @ih (children ++ [(earlier, verifyChild { request with strategy := earlier })])
        fun later hlater => hbefore later (List.mem_cons_of_mem _ hlater)
      simpa [compositeLoop, hverified] using hrest

theorem compositeLoop_congr
    (h : ∀ strategy ∈ strategies, verifyChild { request with strategy } = other { request with strategy }) :
    request.compositeLoop verifyChild strategies children =
      request.compositeLoop other strategies children := by
  induction strategies generalizing children with
  | nil => rfl
  | cons strategy strategies ih =>
      have hhead := h strategy List.mem_cons_self
      have htail := fun children => @ih children fun later hlater =>
        h later (List.mem_cons_of_mem _ hlater)
      simp only [compositeLoop, hhead, htail]

end Loop

section Levels

variable {policy : VerificationPolicy} {policies : List VerificationPolicy}

-- The loop asks the level below with the fields of the request only.
theorem compositeLoop_policy {strategies : List String}
    {children : List (String × VerificationResult)}
    (h : ∀ asked replaced, verifyChild { asked with policy := replaced } = verifyChild asked)
    (replaced : List VerificationPolicy) :
    { request with policy := replaced }.compositeLoop verifyChild strategies children =
      request.compositeLoop verifyChild strategies children := by
  induction strategies generalizing children with
  | nil => rfl
  | cons strategy strategies ih =>
      have hhead : verifyChild { request with policy := replaced, strategy } =
          verifyChild { request with strategy } := h { request with strategy } replaced
      simp only [compositeLoop, hhead, ih]

-- A level is given its policy apart from the request.
theorem verifyWith_policy
    (h : ∀ asked replaced, verifyChild { asked with policy := replaced } = verifyChild asked)
    (replaced : List VerificationPolicy) :
    { request with policy := replaced }.verifyWith verifyChild policy =
      request.verifyWith verifyChild policy := by
  have hcomposite : { request with policy := replaced }.composite verifyChild policy =
      request.composite verifyChild policy := compositeLoop_policy h replaced
  unfold verifyWith
  rw [hcomposite]
  rfl

theorem verifyPolicies_policy (replaced : List VerificationPolicy) :
    verifyPolicies policies { request with policy := replaced } =
      verifyPolicies policies request := by
  induction policies generalizing request replaced with
  | nil =>
      have hdefault (asked : VerificationRequest) (replaced : List VerificationPolicy) :
          { asked with policy := replaced }.verifyWith backendSuccessWithEvidence {} =
            asked.verifyWith backendSuccessWithEvidence {} :=
        verifyWith_policy (fun _ _ => rfl) replaced
      exact verifyWith_policy hdefault replaced
  | cons _ _ ih => exact verifyWith_policy (fun asked replaced => ih replaced) replaced

-- A level whose strategy is no composite asks no other.
theorem verifyWith_plain (hstrategy : request.strategy ≠ "composite") :
    request.verifyWith verifyChild policy = request.verifyWith other policy := by
  unfold verifyWith
  simp only [hstrategy, if_false]

theorem verifyPolicies_child (strategy : String) :
    verifyPolicies request.policy.tail { request with strategy } = (request.child strategy).verify :=
  (verifyPolicies_policy request.policy.tail).symm

-- A composite asks the service itself for each of its children.
theorem verify_composite (hstrategy : request.strategy = "composite") (h : request.Unflagged) :
    request.verify =
      request.compositeLoop (fun asked => (request.child asked.strategy).verify)
        request.childStrategies [] := by
  have hlevel {verifyChild : VerificationRequest → VerificationResult} :
      request.verifyWith verifyChild request.ownPolicy =
        request.compositeLoop verifyChild request.childStrategies [] := by
    unfold verifyWith
    rw [h.cancelled, h.approval, h.timeout, h.error, h.restored, hstrategy]
    rfl
  have hverify : request.verify = request.verifyWith
      (fun asked => verifyPolicies request.policy.tail asked) request.ownPolicy := by
    unfold verify
    cases hpolicy : request.policy with
    | cons policy policies => simp [verifyPolicies, ownPolicy, hpolicy]
    | nil =>
        have hown : request.ownPolicy = {} := by simp [ownPolicy, hpolicy]
        have hchildren : request.childStrategies = ["backend_success_with_evidence"] := by
          simp [childStrategies, hown]
        rw [verifyPolicies, ← hown, hlevel, hlevel, hchildren]
        refine compositeLoop_congr fun strategy hmem => ?_
        obtain rfl := List.mem_singleton.mp hmem
        rw [hown]
        exact verifyWith_plain (by simp)
  rw [hverify, hlevel]
  exact compositeLoop_congr fun strategy _ => verifyPolicies_child strategy

-- The service looks at the policy of the request itself first.
theorem verify_level (request : VerificationRequest) :
    ∃ verifyChild, request.verify = request.verifyWith verifyChild request.ownPolicy := by
  unfold verify ownPolicy
  cases hpolicy : request.policy with
  | nil => exact ⟨_, rfl⟩
  | cons policy policies => exact ⟨_, rfl⟩

-- What the flags and the route decide does not depend on the strategy.
theorem verify_flagged (h : ¬ request.Unflagged) (strategy : String) :
    request.verify.outcome = { request with strategy }.verify.outcome ∧
      request.verify.failureClass = { request with strategy }.verify.failureClass ∧
      request.verify.outcome ≠ .verified := by
  have hlevel {first second : VerificationRequest → VerificationResult} :
      (request.verifyWith first request.ownPolicy).outcome =
          ({ request with strategy }.verifyWith second request.ownPolicy).outcome ∧
        (request.verifyWith first request.ownPolicy).failureClass =
          ({ request with strategy }.verifyWith second request.ownPolicy).failureClass ∧
        (request.verifyWith first request.ownPolicy).outcome ≠ .verified := by
    unfold verifyWith
    by_cases hcancelled : request.ownPolicy.cancelled = true
    · simp [hcancelled]
    by_cases hrestored : request.restoreOk = true
    · by_cases happroval : request.ownPolicy.requireHumanApproval = true
      · simp [hcancelled, hrestored, happroval]
      by_cases htimeout : request.ownPolicy.forceTimeout = true
      · simp [hcancelled, hrestored, happroval, htimeout]
      by_cases herror : request.ownPolicy.forceError = true
      · simp [hcancelled, hrestored, happroval, htimeout, herror]
      · exact absurd ⟨by simpa using hcancelled, hrestored, by simpa using happroval,
          by simpa using htimeout, by simpa using herror⟩ h
    · simp [hcancelled, hrestored]
  obtain ⟨first, hfirst⟩ := verify_level request
  obtain ⟨second, hsecond⟩ := verify_level { request with strategy }
  rw [hfirst, hsecond]
  exact hlevel

end Levels

-- Without a flag a composite is verified exactly when each child is, and otherwise has the
-- verdict of the first that is not. A flag decides whatever the strategies are.
theorem composite_verdict (hstrategy : request.strategy = "composite") :
    (request.Unflagged →
      (request.verify.outcome = .verified ↔
        ∀ strategy ∈ request.childStrategies, (request.child strategy).verify.outcome = .verified) ∧
      ∀ strategy, request.FirstUnverified strategy →
        request.verify.outcome = (request.child strategy).verify.outcome ∧
          request.verify.failureClass = (request.child strategy).verify.failureClass) ∧
    (¬ request.Unflagged → ∀ strategy,
      request.verify.outcome = { request with strategy }.verify.outcome ∧
        request.verify.failureClass = { request with strategy }.verify.failureClass ∧
        request.verify.outcome ≠ .verified) := by
  refine ⟨fun hunflagged => ?_, fun hflagged strategy => verify_flagged hflagged strategy⟩
  rw [verify_composite hstrategy hunflagged]
  refine ⟨compositeLoop_verified_iff, fun strategy hfirst => ?_⟩
  obtain ⟨before, after, hstrategies, hbefore, hunverified⟩ := hfirst
  rw [hstrategies]
  exact compositeLoop_stops hbefore hunverified

-- A composite within a composite.
def sampleComposite : VerificationRequest where
  missionId := "mission"
  executionId := "execution"
  attemptId := "attempt"
  strategy := "composite"
  policy := [{ strategies := ["always_pass", "composite"] }, { strategies := ["test_command"] }]
  backendOk := true

theorem composite_verdict_nested : sampleComposite.FirstUnverified "composite" ∧
    sampleComposite.verify.outcome = .failed ∧
      sampleComposite.verify.failureClass = some .evidenceMissing := by
  have hunflagged : sampleComposite.Unflagged := ⟨rfl, rfl, rfl, rfl, rfl⟩
  have hfirst : sampleComposite.FirstUnverified "composite" :=
    ⟨["always_pass"], [], rfl, by decide +kernel, by decide +kernel⟩
  obtain ⟨houtcome, hclass⟩ := ((composite_verdict rfl).1 hunflagged).2 "composite" hfirst
  have hchild : (sampleComposite.child "composite").verify.outcome = .failed ∧
      (sampleComposite.child "composite").verify.failureClass = some .evidenceMissing := by
    decide +kernel
  exact ⟨hfirst, houtcome.trans hchild.1, hclass.trans hchild.2⟩

-- With the route unrestored the composite is blocked, where its child is cancelled.
theorem unrestored_composite : ¬ ∀ request : VerificationRequest, request.strategy = "composite" →
    ∀ strategy, request.FirstUnverified strategy →
      request.verify.outcome = (request.child strategy).verify.outcome := by
  intro h
  have hfirst : FirstUnverified { sampleComposite with
      policy := [{ strategies := ["always_pass"] }, { cancelled := true }], restoreOk := false }
        "always_pass" :=
    ⟨[], [], rfl, by decide +kernel, by decide +kernel⟩
  exact absurd (h _ rfl _ hfirst) (by decide +kernel)

end VerificationRequest

end JoyMesh.Completion
