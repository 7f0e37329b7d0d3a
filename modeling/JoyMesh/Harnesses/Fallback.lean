import JoyMesh.Harnesses.Permissions
import JoyMesh.Harnesses.Substitution
import JoyMesh.Library.Run
import JoyMesh.Library.Table

namespace JoyMesh.Harnesses

open JoyMesh.Library JoyMesh.Routing

section Definitions

structure FallbackProposal where
  id : String
  originalRunId : String
  route : RouteCandidate
  requiresApproval : Bool
  approved : Bool := false
  continuationRunId : Option String := none
  reason : String := "Selected harness encountered a rate limit"
deriving DecidableEq

-- A continuation that was started, with what it was started from and when.
structure Continuation where
  proposal : FallbackProposal
  original : StartedRun
  started : StartedRun
  now : Time

-- The tables of the service. A call that handles a rate limit holds the route it was given
-- until it writes its proposal.
structure Fallbacks where
  subscriptions : List SubscriptionProfile
  runs : Table String StartedRun := ∅
  proposals : List FallbackProposal := []
  pending : Nat → Option (String × RouteCandidate) := fun _ => none
  continuations : List Continuation := []

namespace Fallbacks

inductive Label where
  | createSubscription (profile : SubscriptionProfile)
  | setSubscriptionState (id : String) (state : SubscriptionState)
  | recordUsage (id : String) (amount : ℚ)
  | startRun (id : String) (request : RunRequest) (route : RouteCandidate)
      (taskContextId continuationOfRunId : Option String)
      (resolveWorkspace : String → Except PyError String) (launch : LaunchReading)
  | previewFallback (call : Nat) (runId : String)
      (resolveWorkspace : String → Except PyError String) (router : RouterReading)
  | createFallback (call : Nat) (proposalId : String)
  | approveFallback (proposalId continuationId : String)
      (resolveWorkspace : String → Except PyError String) (launch : LaunchReading)

variable (registry : HarnessRegistry) (s : Fallbacks)

def updateSubscription (id : String) (update : SubscriptionProfile → SubscriptionProfile) :
    Fallbacks :=
  { s with
    subscriptions := s.subscriptions.map fun profile =>
      if profile.id = id then update profile else profile }

def findSubscription (id : String) : Option SubscriptionProfile :=
  s.subscriptions.find? (·.id = id)

def proposalById (id : String) : Option FallbackProposal := s.proposals.find? (·.id = id)

def createRun (id : String) (started : StartedRun) : Except ServiceError Fallbacks :=
  if (s.runs.lookup id).isSome then .error ⟨"IntegrityError", "runs.id", none⟩
  else .ok { s with runs := s.runs.insert id started }

-- The route for a run at its rate limit is sought with the paid routes, and with nothing else
-- of what the run was asked for.
def previewFallback (runId : String) (resolveWorkspace : String → Except PyError String)
    (router : RouterReading) : Except ServiceError (Option RouteCandidate) := do
  match s.runs.lookup runId with
  | none => .error ⟨"KeyError", "unknown run: " ++ runId, none⟩
  | some run =>
      let preview ← JoyMeshService.previewRoutes registry resolveWorkspace
        { router with subscriptions := s.subscriptions }
        { task := run.task, workspace := run.workspace, paidRoutesApproved := true } none
      return preview.1

def createFallback (proposalId runId : String) (route : RouteCandidate) : Fallbacks :=
  if (s.proposalById proposalId).isSome then s
  else { s with
    proposals := {
      id := proposalId
      originalRunId := runId
      route := route
      requiresApproval := (s.findSubscription (route.subscriptionId.getD "")).any
        SubscriptionProfile.requiresPaidApproval } :: s.proposals }

-- The original request is rebuilt from the row of its run.
def continuationRequest (original : StartedRun) : RunRequest where
  task := original.task
  workspace := original.workspace

def approveFallback (proposalId continuationId : String)
    (resolveWorkspace : String → Except PyError String) (launch : LaunchReading) :
    Except ServiceError Fallbacks :=
  match s.proposalById proposalId with
  | none => .error ⟨"KeyError", "unknown fallback proposal: " ++ proposalId, none⟩
  | some proposal =>
      match s.runs.lookup proposal.originalRunId with
      | none => .error ⟨"KeyError", "original run not found", none⟩
      | some original => do
          let started ← startRun registry launch resolveWorkspace (continuationRequest original)
            proposal.route original.taskContextId (some proposal.originalRunId)
          let created ← s.createRun continuationId started
          return { created with
            proposals := s.proposals.map fun other =>
              if other.id = proposalId then
                { other with approved := true, continuationRunId := some continuationId }
              else other
            continuations := ⟨proposal, original, started, launch.now⟩ :: s.continuations }

-- A call that raises leaves the tables as they are.
def attempted (result : Except ServiceError Fallbacks) : Fallbacks :=
  match result with
  | .ok t => t
  | .error _ => s

def step : Label → Option Fallbacks
  | .createSubscription profile =>
      if (s.findSubscription profile.id).isSome then some s
      else some { s with subscriptions := s.subscriptions ++ [profile] }
  | .setSubscriptionState id state =>
      some (s.updateSubscription id fun profile => { profile with state := state })
  | .recordUsage id amount =>
      some (s.updateSubscription id fun profile =>
        { profile with usedAmount := profile.usedAmount + amount })
  | .startRun id request route taskContextId continuationOfRunId resolveWorkspace launch =>
      some (s.attempted do
        let started ← JoyMesh.Harnesses.startRun registry launch resolveWorkspace request route
          taskContextId continuationOfRunId
        s.createRun id started)
  | .previewFallback call runId resolveWorkspace router =>
      match s.previewFallback registry runId resolveWorkspace router with
      | .ok (some route) =>
          some { s with pending := Function.update s.pending call (some (runId, route)) }
      | _ => some s
  | .createFallback call proposalId =>
      (s.pending call).map fun item =>
        { s.createFallback proposalId item.1 item.2 with
          pending := Function.update s.pending call none }
  | .approveFallback proposalId continuationId resolveWorkspace launch =>
      some (s.attempted (s.approveFallback registry proposalId continuationId resolveWorkspace
        launch))

end Fallbacks

-- The authorization of a directive holds for a fallback to a harness.
structure ExecutionDirective.Authorizes (directive : ExecutionDirective) (harnessId : String)
    (now : Time) : Prop where
  unexpired : now < directive.expiresAt
  allowed : harnessId ∈ directive.allowedFallbacks
  referenced : ¬directive.authorizationReference.toList.all isSpace = true
  approved : directive.fallbackAuthorizationReferences = ∅ ∨
    directive.authorizationReference ∈ directive.fallbackAuthorizationReferences

-- A continuation is under all that its original run was asked to keep to.
structure Continuation.Constrained (registry : HarnessRegistry) (continuation : Continuation) :
    Prop where
  permissionMode : continuation.started.request.permissionMode =
    continuation.original.request.permissionMode
  requiredCapabilities : continuation.started.request.requiredCapabilities =
    continuation.original.request.requiredCapabilities
  allowedHarnesses : continuation.started.request.allowedHarnesses =
    continuation.original.request.allowedHarnesses
  deniedHarnesses : continuation.started.request.deniedHarnesses =
    continuation.original.request.deniedHarnesses
  timeout : continuation.started.request.timeoutSeconds =
    continuation.original.request.timeoutSeconds
  directories : continuation.started.request.additionalWritableDirectories =
    continuation.original.request.additionalWritableDirectories
  capable : ∀ adapter, registry.get continuation.started.harnessId = .ok adapter →
    continuation.original.request.requiredCapabilities ⊆ adapter.capabilities
  admitted : continuation.original.request.allowedHarnesses = ∅ ∨
    continuation.started.harnessId ∈ continuation.original.request.allowedHarnesses
  undenied : continuation.started.harnessId ∉ continuation.original.request.deniedHarnesses
  authorized : ∀ directive ∈ continuation.original.request.directive,
    directive.Authorizes continuation.started.harnessId continuation.now

-- A request that leaves all of this at its default.
structure RunRequest.Unconstrained (request : RunRequest) : Prop where
  permissionMode : request.permissionMode = .default
  requiredCapabilities : request.requiredCapabilities = ∅
  allowedHarnesses : request.allowedHarnesses = ∅
  deniedHarnesses : request.deniedHarnesses = ∅
  timeout : request.timeoutSeconds = some 300
  directories : request.additionalWritableDirectories = []

namespace Fallbacks

-- A proposal whose route needs a paid approval says so.
def Marked (s : Fallbacks) : Prop :=
  ∀ proposal ∈ s.proposals, ∀ profile ∈ s.subscriptions,
    proposal.route.subscriptionId = some profile.id → profile.requiresPaidApproval = true →
      proposal.requiresApproval = true

-- The original request of a proposal that is approved asks for nothing that the continuation
-- would have to keep to. Its directive, if there is one, authorizes the route.
def Continuable (registry : HarnessRegistry) (s : Fallbacks) : Label → Prop
  | .approveFallback proposalId continuationId resolveWorkspace launch =>
      ∀ proposal original t, s.proposalById proposalId = some proposal →
        s.runs.lookup proposal.originalRunId = some original →
          s.approveFallback registry proposalId continuationId resolveWorkspace launch = .ok t →
            original.request.Unconstrained ∧ ∀ directive ∈ original.request.directive,
              directive.Authorizes proposal.route.harnessId launch.now
  | _ => True

end Fallbacks

end Definitions

namespace Fallbacks

open JoyMeshService (twoHarnesses)

variable {registry : HarnessRegistry} {s t first : Fallbacks} {label : Label} {labels : List Label}

section Approvals

variable {proposalId continuationId : String} {launch : LaunchReading}
  {resolveWorkspace : String → Except PyError String}

theorem createRun_ok {id : String} {started : StartedRun} (h : s.createRun id started = .ok t) :
    t = { s with runs := s.runs.insert id started } := by
  unfold createRun at h
  split at h <;> cases h
  rfl

theorem approveFallback_ok
    (h : s.approveFallback registry proposalId continuationId resolveWorkspace launch = .ok t) :
    ∃ proposal original started, s.proposalById proposalId = some proposal ∧
      s.runs.lookup proposal.originalRunId = some original ∧
      startRun registry launch resolveWorkspace (continuationRequest original) proposal.route
        original.taskContextId (some proposal.originalRunId) = .ok started ∧
      t = { s with
        runs := s.runs.insert continuationId started
        proposals := s.proposals.map fun other =>
          if other.id = proposalId then
            { other with approved := true, continuationRunId := some continuationId }
          else other
        continuations := ⟨proposal, original, started, launch.now⟩ :: s.continuations } := by
  unfold approveFallback at h
  split at h
  · cases h
  next proposal hproposal =>
    split at h
    · cases h
    next original horiginal =>
      obtain ⟨started, hstarted, h⟩ := bind_eq_ok.mp h
      obtain ⟨created, hcreated, h⟩ := bind_eq_ok.mp h
      obtain rfl := createRun_ok hcreated
      cases h
      exact ⟨proposal, original, started, hproposal, horiginal, hstarted, rfl⟩

-- A continuation asks for nothing, so it keeps to what was asked only where nothing was.
theorem constrained_iff {proposal : FallbackProposal} {original started : StartedRun}
    (hstarted : startRun registry launch resolveWorkspace (continuationRequest original)
      proposal.route original.taskContextId (some proposal.originalRunId) = .ok started) :
    Continuation.Constrained registry ⟨proposal, original, started, launch.now⟩ ↔
      original.request.Unconstrained ∧ ∀ directive ∈ original.request.directive,
        directive.Authorizes proposal.route.harnessId launch.now := by
  obtain ⟨-, workspace, -, -, rfl⟩ := startRun_ok_iff.mp hstarted
  constructor
  · intro h
    exact ⟨⟨h.permissionMode.symm, h.requiredCapabilities.symm, h.allowedHarnesses.symm,
      h.deniedHarnesses.symm, h.timeout.symm, h.directories.symm⟩, h.authorized⟩
  · rintro ⟨h, hauthorized⟩
    refine ⟨h.permissionMode.symm, h.requiredCapabilities.symm, h.allowedHarnesses.symm,
      h.deniedHarnesses.symm, h.timeout.symm, h.directories.symm, ?_, .inl h.allowedHarnesses,
      ?_, hauthorized⟩
    · intro adapter _
      simp [h.requiredCapabilities]
    · simp [h.deniedHarnesses]

end Approvals

section Subscriptions

variable {earlier later : List SubscriptionProfile}

-- No subscription goes away or changes in whether it needs an approval.
def Kept (earlier later : List SubscriptionProfile) : Prop :=
  ∀ profile ∈ earlier, ∃ other ∈ later, other.id = profile.id ∧
    other.requiresPaidApproval = profile.requiresPaidApproval

theorem kept_update {id : String} {update : SubscriptionProfile → SubscriptionProfile}
    (h : ∀ profile, (update profile).id = profile.id ∧
      (update profile).requiresPaidApproval = profile.requiresPaidApproval) :
    Kept s.subscriptions (s.updateSubscription id update).subscriptions ∧
      (s.updateSubscription id update).subscriptions.map SubscriptionProfile.id =
        s.subscriptions.map SubscriptionProfile.id := by
  constructor
  · intro profile hprofile
    refine ⟨_, List.mem_map_of_mem hprofile, ?_⟩
    split
    · exact h profile
    · exact ⟨rfl, rfl⟩
  · rw [updateSubscription, List.map_map]
    refine List.map_congr_left fun profile _ => ?_
    simp only [Function.comp_apply]
    split
    · exact (h profile).1
    · rfl

theorem find_profile {profile : SubscriptionProfile}
    (hnodup : (earlier.map SubscriptionProfile.id).Nodup) (h : profile ∈ earlier) :
    earlier.find? (·.id = profile.id) = some profile := by
  cases hfind : earlier.find? (·.id = profile.id) with
  | none => exact absurd (decide_eq_true rfl) (List.find?_eq_none.mp hfind profile h)
  | some other =>
      have hid : other.id = profile.id := by simpa using List.find?_some hfind
      rw [List.inj_on_of_nodup_map hnodup (List.mem_of_find?_eq_some hfind) h hid]

-- Every route that is held or proposed has a subscription of the table, and a proposal says
-- whether that one needs an approval.
structure Sound (s : Fallbacks) : Prop where
  nodup : (s.subscriptions.map SubscriptionProfile.id).Nodup
  pending : ∀ call runId route, s.pending call = some (runId, route) →
    ∃ profile ∈ s.subscriptions, route.subscriptionId = some profile.id
  proposals : ∀ proposal ∈ s.proposals, ∃ profile ∈ s.subscriptions,
    proposal.route.subscriptionId = some profile.id ∧
      proposal.requiresApproval = profile.requiresPaidApproval

theorem Sound.marked (h : Sound s) : Marked s := by
  intro proposal hproposal profile hprofile hroute hpaid
  obtain ⟨other, hother, hsub, hmark⟩ := h.proposals proposal hproposal
  have hid : other.id = profile.id := Option.some.inj (hsub.symm.trans hroute)
  rw [hmark, List.inj_on_of_nodup_map h.nodup hother hprofile hid, hpaid]

-- A step that only touches the subscriptions.
theorem Sound.of_kept (h : Sound s) (hkept : Kept s.subscriptions later)
    (hnodup : (later.map SubscriptionProfile.id).Nodup) :
    Sound { s with subscriptions := later } where
  nodup := hnodup
  pending call runId route hpending := by
    obtain ⟨profile, hprofile, hroute⟩ := h.pending call runId route hpending
    obtain ⟨other, hother, hid, -⟩ := hkept profile hprofile
    exact ⟨other, hother, hroute.trans (congrArg some hid.symm)⟩
  proposals proposal hproposal := by
    obtain ⟨profile, hprofile, hroute, hmark⟩ := h.proposals proposal hproposal
    obtain ⟨other, hother, hid, hpaid⟩ := hkept profile hprofile
    exact ⟨other, hother, hroute.trans (congrArg some hid.symm), hmark.trans hpaid.symm⟩

theorem Sound.createFallback {call : Nat} {proposalId runId : String} {route : RouteCandidate}
    (h : Sound s) (hpending : s.pending call = some (runId, route)) :
    Sound (s.createFallback proposalId runId route) := by
  unfold Fallbacks.createFallback
  split
  · exact h
  · refine ⟨h.nodup, h.pending, fun proposal hproposal => ?_⟩
    rcases List.mem_cons.mp hproposal with rfl | hproposal
    · obtain ⟨profile, hprofile, hroute⟩ := h.pending call runId route hpending
      refine ⟨profile, hprofile, hroute, ?_⟩
      simp only [hroute, Option.getD_some, findSubscription, find_profile h.nodup hprofile,
        Option.any_some]
    · exact h.proposals proposal hproposal

theorem Sound.withPending {call : Nat} {item : Option (String × RouteCandidate)} (h : Sound s)
    (hitem : ∀ found ∈ item, ∃ profile ∈ s.subscriptions,
      found.2.subscriptionId = some profile.id) :
    Sound { s with pending := Function.update s.pending call item } := by
  refine ⟨h.nodup, fun other runId route hpending => ?_, h.proposals⟩
  by_cases hother : other = call
  · subst hother
    exact hitem (runId, route) (by simpa using hpending)
  · exact h.pending other runId route (by simpa [Function.update_of_ne hother] using hpending)

theorem previewFallback_funded {runId : String} {route : RouteCandidate} {router : RouterReading}
    {resolveWorkspace : String → Except PyError String}
    (h : s.previewFallback registry runId resolveWorkspace router = .ok (some route)) :
    ∃ profile ∈ s.subscriptions, route.subscriptionId = some profile.id := by
  unfold Fallbacks.previewFallback at h
  split at h
  · cases h
  · obtain ⟨preview, hpreview, h⟩ := bind_eq_ok.mp h
    obtain ⟨found, rfl, -, hfunded⟩ := JoyMeshService.previewRoutes_ok hpreview
    obtain ⟨heligible, hmem⟩ := leading_mem (Except.ok.inj h)
    exact hfunded route hmem heligible

end Subscriptions

theorem Sound.approveFallback {proposalId continuationId : String} {launch : LaunchReading}
    {resolveWorkspace : String → Except PyError String} (h : Sound s)
    (happroved : s.approveFallback registry proposalId continuationId resolveWorkspace launch =
      .ok t) : Sound t := by
  obtain ⟨proposal, original, started, -, -, -, rfl⟩ := approveFallback_ok happroved
  refine ⟨h.nodup, h.pending, fun found hfound => ?_⟩
  obtain ⟨other, hother, rfl⟩ := List.mem_map.mp hfound
  split
  · exact h.proposals other hother
  · exact h.proposals other hother

theorem Sound.step (h : Sound s) (hstep : s.step registry label = some t) : Sound t := by
  cases label with
  | createSubscription profile =>
      simp only [Fallbacks.step] at hstep
      split at hstep
      · cases hstep
        exact h
      next hnew =>
        cases hstep
        refine h.of_kept (fun other hother => ⟨other, List.mem_append_left _ hother, rfl, rfl⟩) ?_
        have hfresh : ∀ other ∈ s.subscriptions, other.id ≠ profile.id := by
          simpa [findSubscription] using hnew
        rw [List.map_append, List.nodup_append]
        refine ⟨h.nodup, List.nodup_singleton _, ?_⟩
        rintro id hid other hother rfl
        obtain ⟨found, hfound, rfl⟩ := List.mem_map.mp hid
        exact hfresh found hfound (List.mem_singleton.mp hother)
  | setSubscriptionState id state =>
      cases hstep
      obtain ⟨hkept, hids⟩ := @kept_update s id (fun profile => { profile with state := state })
        fun _ => ⟨rfl, rfl⟩
      exact h.of_kept hkept (hids ▸ h.nodup)
  | recordUsage id amount =>
      cases hstep
      obtain ⟨hkept, hids⟩ := @kept_update s id
        (fun profile => { profile with usedAmount := profile.usedAmount + amount })
        fun _ => ⟨rfl, rfl⟩
      exact h.of_kept hkept (hids ▸ h.nodup)
  | startRun id request route taskContextId continuationOfRunId resolveWorkspace launch =>
      cases hstep
      unfold attempted
      split
      next hok =>
        obtain ⟨started, -, hok⟩ := bind_eq_ok.mp hok
        obtain rfl := createRun_ok hok
        exact ⟨h.nodup, h.pending, h.proposals⟩
      next => exact h
  | previewFallback call runId resolveWorkspace router =>
      simp only [Fallbacks.step] at hstep
      split at hstep
      next route hroute =>
        cases hstep
        refine h.withPending ?_
        rintro found ⟨⟩
        exact previewFallback_funded hroute
      next =>
        cases hstep
        exact h
  | createFallback call proposalId =>
      obtain ⟨item, hitem, rfl⟩ := Option.map_eq_some_iff.mp hstep
      have hcreated : Sound (s.createFallback proposalId item.1 item.2) := h.createFallback hitem
      have hsame : (s.createFallback proposalId item.1 item.2).pending = s.pending := by
        unfold Fallbacks.createFallback
        split <;> rfl
      rw [← hsame]
      exact hcreated.withPending fun _ hnone => nomatch hnone
  | approveFallback proposalId continuationId resolveWorkspace launch =>
      cases hstep
      unfold attempted
      split
      next hok => exact h.approveFallback hok
      next => exact h

-- Only an approval that goes through starts a continuation.
theorem step_continuations (hstep : s.step registry label = some t) :
    t.continuations = s.continuations ∨
      ∃ proposalId continuationId resolveWorkspace launch,
        label = .approveFallback proposalId continuationId resolveWorkspace launch ∧
        s.approveFallback registry proposalId continuationId resolveWorkspace launch = .ok t := by
  cases label with
  | createSubscription profile =>
      simp only [Fallbacks.step] at hstep
      split at hstep <;> cases hstep <;> exact .inl rfl
  | setSubscriptionState id state =>
      cases hstep
      exact .inl rfl
  | recordUsage id amount =>
      cases hstep
      exact .inl rfl
  | startRun id request route taskContextId continuationOfRunId resolveWorkspace launch =>
      cases hstep
      refine .inl ?_
      unfold attempted
      split
      next hok =>
        obtain ⟨started, -, hok⟩ := bind_eq_ok.mp hok
        obtain rfl := createRun_ok hok
        rfl
      next => rfl
  | previewFallback call runId resolveWorkspace router =>
      simp only [Fallbacks.step] at hstep
      split at hstep <;> cases hstep <;> exact .inl rfl
  | createFallback call proposalId =>
      obtain ⟨item, hitem, rfl⟩ := Option.map_eq_some_iff.mp hstep
      refine .inl ?_
      unfold Fallbacks.createFallback
      split <;> rfl
  | approveFallback proposalId continuationId resolveWorkspace launch =>
      cases hstep
      unfold attempted
      split
      next t hok => exact .inr ⟨proposalId, continuationId, resolveWorkspace, launch, rfl, hok⟩
      next => exact .inl rfl

theorem continuations_grow (hstep : s.step registry label = some t) :
    t.continuations = s.continuations ∨ ∃ x, t.continuations = x :: s.continuations := by
  obtain hsame | ⟨proposalId, continuationId, resolveWorkspace, launch, -, hok⟩ :=
    step_continuations hstep
  · exact .inl hsame
  · obtain ⟨proposal, original, started, -, -, -, rfl⟩ := approveFallback_ok hok
    exact .inr ⟨_, rfl⟩

-- The step that starts a continuation starts a constrained one exactly where it may.
theorem step_constrained_iff (hstep : s.step registry label = some t) :
    (∀ u x, s.step registry label = some u → u.continuations = x :: s.continuations →
        x.Constrained registry) ↔ Continuable registry s label := by
  obtain hsame | ⟨proposalId, continuationId, resolveWorkspace, launch, rfl, hok⟩ :=
    step_continuations hstep
  · have hnone : ∀ u x, s.step registry label = some u → u.continuations ≠ x :: s.continuations := by
      intro u x hu hx
      obtain rfl := Option.some.inj (hstep.symm.trans hu)
      simp [hsame] at hx
    refine iff_of_true (fun u x hu hx => absurd hx (hnone u x hu)) ?_
    cases label with
    | approveFallback proposalId continuationId resolveWorkspace launch =>
        intro proposal original u _ _ hok
        have hu : s.step registry (.approveFallback proposalId continuationId resolveWorkspace
            launch) = some u := by rw [Fallbacks.step, hok]; rfl
        obtain ⟨proposal, original, started, -, -, -, rfl⟩ := approveFallback_ok hok
        exact absurd rfl (hnone _ _ hu)
    | _ => trivial
  · obtain ⟨proposal, original, started, hproposal, horiginal, hstarted, rfl⟩ := approveFallback_ok hok
    constructor
    · intro h proposal' original' u hproposal' horiginal' _
      obtain rfl := Option.some.inj (hproposal.symm.trans hproposal')
      obtain rfl := Option.some.inj (horiginal.symm.trans horiginal')
      exact (constrained_iff hstarted).mp (h _ _ hstep rfl)
    · intro h u x hu hx
      obtain rfl := Option.some.inj (hstep.symm.trans hu)
      obtain ⟨rfl, -⟩ := List.cons.inj hx
      exact (constrained_iff hstarted).mpr (h proposal original _ hproposal horiginal hok)

-- Over a whole run from empty tables, the proposals say which of them need an approval, and
-- every continuation keeps to what its original run was asked exactly where each approval
-- that goes through is of a run that was asked for nothing, and that its directive authorizes.
theorem fallbacks_constrained_iff
    (hrun : run (step registry) { subscriptions := [] } labels = some t) :
    (Marked t ∧ ∀ continuation ∈ t.continuations, continuation.Constrained registry) ↔
      Along (step registry) (Continuable registry) { subscriptions := [] } labels := by
  have hempty : Sound { subscriptions := [] } := ⟨List.nodup_nil, nofun, nofun⟩
  have hsound : Sound t := run_keeps (fun s label t h hstep => h.step hstep) hempty hrun
  have hnone : ∀ x ∈ ({ subscriptions := [] } : Fallbacks).continuations, x.Constrained registry :=
    fun x hx => nomatch hx
  rw [and_iff_right hsound.marked,
    @forall_made_iff_along _ _ _ _ _ _ _ continuations (Continuation.Constrained registry)
      (fun _ _ _ => continuations_grow) hrun, and_iff_right hnone]
  exact along_congr (fun s label t hstep => step_constrained_iff hstep) hrun

def readyLaunch : LaunchReading where
  now := 0
  refreshed := fun _ => .ok .ready
  cached := fun _ => .ok .ready

def idleRouter : RouterReading where
  available := fun _ => true
  subscriptions := []
  quota := none
  activeCount := fun _ _ => 0

-- A run on codex comes to its rate limit, and the fallback to opencode is approved.
def limitedBefore (request : RunRequest) : List Label :=
  [.createSubscription { id := "s1", harnessId := "codex" },
    .createSubscription { id := "s2", harnessId := "opencode" },
    .startRun "r1" request ⟨"codex", some "s1", 100, true⟩ none none .ok readyLaunch,
    .setSubscriptionState "s1" .rateLimited,
    .previewFallback 0 "r1" .ok idleRouter,
    .createFallback 0 "p1"]

def limitedLabels (request : RunRequest) : List Label :=
  limitedBefore request ++ [.approveFallback "p1" "r2" .ok readyLaunch]

-- A run that asks for nothing goes on as it was asked.
theorem default_continuable : Along (step twoHarnesses) (Continuable twoHarnesses)
    { subscriptions := [] } (limitedLabels Adapter.fixRequest) := by
  have hrequests : ∀ t ∈ run (step twoHarnesses) { subscriptions := [] }
      (limitedBefore Adapter.fixRequest), ∀ proposal ∈ t.proposalById "p1",
      ∀ original ∈ t.runs.lookup proposal.originalRunId,
        original.request = { Adapter.fixRequest with route := some ⟨"codex", some "s1", 100, true⟩ } := by
    decide +kernel
  refine along_append (by exact ⟨trivial, fun _ _ => ⟨trivial, fun _ _ => ⟨trivial, fun _ _ =>
    ⟨trivial, fun _ _ => ⟨trivial, fun _ _ => ⟨trivial, fun _ _ => trivial⟩⟩⟩⟩⟩⟩)
    fun t ht => ⟨fun proposal original _ hproposal horiginal _ => ?_, fun _ _ => trivial⟩
  rw [hrequests t ht proposal hproposal original horiginal]
  exact ⟨⟨rfl, rfl, rfl, rfl, rfl, rfl⟩, nofun⟩

theorem default_constrained : ∃ t, run (step twoHarnesses) { subscriptions := [] }
    (limitedLabels Adapter.fixRequest) = some t ∧ t.continuations.length = 1 ∧
      Marked t ∧ ∀ continuation ∈ t.continuations, continuation.Constrained twoHarnesses := by
  have hone : (run (step twoHarnesses) { subscriptions := [] }
      (limitedLabels Adapter.fixRequest)).map (fun t => t.continuations.length) = some 1 := by
    decide +kernel
  obtain ⟨t, hrun, hlength⟩ := Option.map_eq_some_iff.mp hone
  exact ⟨t, hrun, hlength, (fallbacks_constrained_iff hrun).mpr default_continuable⟩

theorem limited_isSome : (run (step twoHarnesses) { subscriptions := [] }
    (limitedLabels Adapter.readOnlyRequest)).isSome = true := by
  decide +kernel

def limited : Fallbacks := (run (step twoHarnesses) { subscriptions := [] }
  (limitedLabels Adapter.readOnlyRequest)).get limited_isSome

-- The read-only run goes on as one of the default mode.
theorem read_only_continues_writable :
    (limited.continuations.map fun continuation =>
        (continuation.original.request.permissionMode, continuation.started.harnessId,
          continuation.started.request.permissionMode)) = [(.readOnly, "opencode", .default)] ∧
      ¬∀ continuation ∈ limited.continuations, continuation.Constrained twoHarnesses := by
  have hmodes : (limited.continuations.map fun continuation =>
      (continuation.original.request.permissionMode, continuation.started.harnessId,
        continuation.started.request.permissionMode)) = [(.readOnly, "opencode", .default)] := by
    decide +kernel
  refine ⟨hmodes, fun hall => ?_⟩
  obtain ⟨continuation, hmem, hmode⟩ := List.mem_map.mp
    (show (PermissionMode.readOnly, "opencode", PermissionMode.default) ∈ _ from
      hmodes ▸ List.mem_singleton_self _)
  have hsame := (hall continuation hmem).permissionMode
  simp only [Prod.mk.injEq] at hmode
  rw [hmode.1, hmode.2.2] at hsame
  cases hsame

end Fallbacks

end JoyMesh.Harnesses
