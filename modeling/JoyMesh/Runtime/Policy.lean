import JoyMesh.Runtime.Capabilities

namespace JoyMesh.Runtime

open Library Routing

structure PolicyProfile where
  profileId : String
  allowed : List String
  denied : List String
  enabled : Bool := true
  approvalFor : List String := []
deriving DecidableEq, Repr

structure PolicyDecision where
  allowed : Bool
  grantedCapabilities : List String
  deniedCapabilities : List String
  approvalRequirements : List String
  reasons : List String
deriving DecidableEq, Repr

structure RuntimeTaskRequest where
  workspaceId : String
  requestedCapabilities : List String
  policyProfile : String := "read_only"
  prohibitedCapabilities : List String := []
  preferredConnectors : List String := []
  requiredConnector : Option String := none
  preferredProviders : List String := []
  requiredProvider : Option String := none
  preferredNodes : List String := []
  requiredNode : Option String := none
  timeoutSeconds : Nat := 300
  maxAttempts : Nat := 2
  taskId : String
deriving DecidableEq, Repr

def PolicyProfile.builtin : List PolicyProfile :=
  [{ profileId := "read_only"
     allowed := readOnlyCapabilities
     denied := mutatingCapabilities ++ ["session.resume", "session.fork"] },
    { profileId := "developer"
      allowed := readOnlyCapabilities ++
        ["repository.write", "repository.patch", "filesystem.write", "shell.execute", "git.read",
          "git.diff", "test.execute", "build.execute"]
      denied := ["git.push", "network.write"]
      approvalFor :=
        ["repository.write", "repository.patch", "filesystem.write", "shell.execute",
          "test.execute", "build.execute"] },
    { profileId := "ci"
      allowed := readOnlyCapabilities ++
        ["test.execute", "build.execute", "shell.execute", "git.read", "git.diff"]
      denied := ["git.push", "git.commit", "network.write", "session.resume"]
      approvalFor := ["test.execute", "build.execute", "shell.execute"] },
    { profileId := "production_restricted"
      allowed := readOnlyCapabilities
      denied := mutatingCapabilities ++ ["session.resume", "browser.use"] },
    { profileId := "autonomous", allowed := [], denied := [], enabled := false }]

abbrev PolicyProfiles := Table String PolicyProfile

structure PolicyEngine where
  registry : CapabilityRegistry
  profiles : PolicyProfiles

def PolicyProfiles.builtin : PolicyProfiles :=
  PolicyProfile.builtin.foldl (fun profiles item => profiles.insert item.profileId item) ∅

namespace PolicyEngine

-- Switched on, the autonomous profile allows whatever the registry knows.
def create (registry : CapabilityRegistry := .builtin) (profiles : PolicyProfiles := .builtin)
    (autonomousEnabled : Bool := false) : PolicyEngine :=
  let profiles := if profiles.keys.isEmpty then PolicyProfiles.builtin else profiles
  match profiles.lookup "autonomous" with
  | some profile =>
      if autonomousEnabled then
        let enabled : PolicyProfile :=
          { profileId := profile.profileId
            allowed := registry.all.map (·.capabilityId)
            denied := [] }
        { registry := registry, profiles := profiles.insert "autonomous" enabled }
      else { registry := registry, profiles := profiles }
  | none => { registry := registry, profiles := profiles }

variable (engine : PolicyEngine) (order : Iteration) (request : RuntimeTaskRequest)

def get (profileId : String) : Except PyError PolicyProfile :=
  match engine.profiles.lookup profileId with
  | some profile => .ok profile
  | none => .error ⟨"KeyError", "unknown policy profile: " ++ profileId⟩

def refused (denied : List String) (reason : String) : PolicyDecision where
  allowed := false
  grantedCapabilities := []
  deniedCapabilities := denied
  approvalRequirements := []
  reasons := [reason]

-- The verdict on the expanded capabilities. A candidate is known by the
-- capabilities that it is certified for.
def judge (profile : PolicyProfile) (expanded : List String) (candidate : Option (List String)) :
    PolicyDecision :=
  let denied := expanded.filter fun item => item ∈ profile.denied ∨ item ∉ profile.allowed
  let missing := match candidate with
    | some certified => expanded.filter (· ∉ certified)
    | none => []
  if denied ≠ [] then
    refused denied ("policy rejected capabilities: " ++ ", ".intercalate (sorted denied))
  else if missing ≠ [] then
    refused missing ("capabilities not certified: " ++ ", ".intercalate (sorted missing))
  else
    let approvals := sorted (profile.approvalFor.filter (· ∈ expanded))
    { allowed := true
      grantedCapabilities := expanded
      deniedCapabilities := []
      approvalRequirements := approvals
      reasons :=
        (if approvals = [] then []
          else ["explicit approval required for: " ++ ", ".intercalate approvals]) ++
        ["policy " ++ profile.profileId ++ " allowed expanded capabilities"] }

-- Only the ValueError of the expansion becomes a refusal.
def evaluate (candidate : Option (List String) := none) : Except PyError PolicyDecision :=
  match engine.get request.policyProfile with
  | .error error => .error error
  | .ok profile =>
      if profile.enabled = false then
        .ok (refused request.requestedCapabilities
          ("policy " ++ profile.profileId ++ " is disabled"))
      else
        match expandCapabilities order engine.registry request.requestedCapabilities
            request.prohibitedCapabilities with
        | .error error =>
            if error.type = "ValueError" then
              .ok (refused request.requestedCapabilities error.text)
            else .error error
        | .ok expanded => .ok (judge profile expanded candidate)

variable {engine order request}

theorem judge_allowed {profile : PolicyProfile} {expanded : List String}
    {candidate : Option (List String)} {decision : PolicyDecision}
    (h : judge profile expanded candidate = decision) (hallowed : decision.allowed = true) :
    decision.grantedCapabilities = expanded := by
  unfold judge at h
  dsimp only at h
  split_ifs at h
  · subst h
    cases hallowed
  · subst h
    cases hallowed
  all_goals
    subst h
    rfl

-- What is granted to a request is the expansion of what it asks for.
theorem evaluate_allowed {candidate : Option (List String)} {decision : PolicyDecision}
    (h : engine.evaluate order request candidate = .ok decision)
    (hallowed : decision.allowed = true) :
    expandCapabilities order engine.registry request.requestedCapabilities
      request.prohibitedCapabilities = .ok decision.grantedCapabilities := by
  unfold evaluate at h
  split at h
  · cases h
  · split at h
    · obtain rfl := Except.ok.inj h
      cases hallowed
    · split at h
      · split at h
        · obtain rfl := Except.ok.inj h
          cases hallowed
        · cases h
      next expanded hexpanded =>
        obtain rfl := Except.ok.inj h
        rw [judge_allowed rfl hallowed, hexpanded]

end PolicyEngine

end JoyMesh.Runtime
