import JoyMesh.ProviderRoutes.Coordinator

namespace JoyMesh.ProviderRoutes.FireConnect

def managerId : String := "fireconnect"

-- The harnesses of FireConnect that have a connector, and the connectors' ids.
def harnessToConnector : List (String × String) :=
  [("claude", "claude"), ("codex", "codex"), ("opencode", "opencode"), ("cursor", "cursor")]

def unsupportedHarnesses : List String := ["pi", "vscode", "deepagents"]

def connectorToHarness (connectorId : String) : Option String :=
  (harnessToConnector.find? fun entry => entry.2 = connectorId).map Prod.fst

-- How texts are redacted, and lower-cased over all of Unicode.
structure Texts where
  redactDiagnostics : String → String
  lower : String → String

-- What one status call of the executable comes to. A call that is not started
-- raises what the operating system says, and json.loads can raise something else
-- than a JSONDecodeError.
inductive Output where
  | object (payload : Mapping)
  | invalid
  | failed (detail : String)
  | unloadable (error : Raised)
  | unstarted (error : Raised)
deriving DecidableEq

-- An on or off call; what it prints is not read.
inductive Command where
  | done
  | failed (detail : String)
  | unstarted (error : Raised)
deriving DecidableEq

-- The exceptions of a call: the manager's own error, or one that nothing catches.
inductive Failure where
  | managerError (detail : String)
  | raised (error : Raised)
deriving DecidableEq

def Failure.toRaised : Failure → Raised
  | managerError detail => .other "FireConnectManagerError" detail
  | raised error => error

def typeError : Raised := .failure .typeError

def dictOf : Value → Mapping
  | .dict items => .ofList items
  | _ => ∅

-- Python's `first or second`.
def orElse (first second : Value) : Value := if first.truthy then first else second

-- A value that is not hashable is no member to look for in a set.
def optionalStr (value : Value) : Except Raised (Option String) :=
  if value.hashable then
    .ok (if value = .none ∨ value = .str "" then none else some value.text)
  else .error typeError

-- The text of the first of these fields that says anything.
def firstOf (payload : Mapping) (keys : List String) : Option String :=
  ((keys.map payload.get).find? Value.truthy).map Value.text

def modelFromStatus (payload : Mapping) : Option String :=
  firstOf (dictOf (payload.get "current")) ["main", "model", "default"] <|>
    firstOf payload ["model", "main"]

-- The values a for loop goes through.
def iterate : Value → Except Raised (List Value)
  | .list items => .ok items
  | .dict items => .ok (items.map fun item => .str item.1)
  | .str s => .ok (s.toList.map fun c => .str (String.singleton c))
  | _ => .error typeError

-- The provider names under which a route counts as enabled.
def fireworksNames : List String := ["fireworks", "fireworks-ai", "firerouter"]

structure AuthEvidence where
  status : String
  detail : String
  signedIn : Bool := false
  credentialSource : Option String := none
  details : Mapping := ∅
deriving DecidableEq

-- A reading with all that inspect_route reports, but for its instant and what is
-- the same in every reading.
structure Route extends ProviderRoute where
  routeId : String
  displayName : String
  connectorId : String
  credentialSource : Option String := none
  supportsEnable : Bool := false
  supportsDisable : Bool := false
  supportsModelSelection : Bool := false
  supportsUsageStatus : Bool := false
  reasonCode : Option String
  details : Mapping := ∅
deriving DecidableEq

-- What the executable does while a route is inspected: it is looked up three
-- times, for the harness, for the sign-in and for the list of all harnesses.
structure Reading where
  installed : Bool := true
  auth : Option Output
  status : Output
  global : Option Output
deriving DecidableEq

-- What happens while a route is turned on or off. The mutation authority and the
-- approval are checked first, and one of them can refuse.
structure Mutation where
  refusal : Option Raised := none
  installed : Bool := true
  previous : Reading
  command : Command
  after : Reading
deriving DecidableEq

section Functions

variable (texts : Texts)

def json : Output → Except Failure Mapping
  | .object payload => .ok payload
  | .invalid => .error (.managerError "FireConnect returned invalid status data")
  | .failed detail => .error (.managerError (texts.redactDiagnostics detail))
  | .unloadable error => .error (.raised error)
  | .unstarted error => .error (.raised error)

def authOf (payload : Mapping) : Except Raised AuthEvidence := do
  let auth := dictOf (payload.get "auth")
  let signedIn := (auth.get "signedIn").truthy
  let backend ← optionalStr (orElse (payload.get "backendLabel") (payload.get "backend"))
  let source ← optionalStr (payload.get "activeKeySource")
  return {
    status := if signedIn then "authenticated" else "unauthenticated"
    detail :=
      if signedIn then "FireConnect reports a signed-in Fireworks session"
      else texts.redactDiagnostics (orElse (auth.get "reason") (.str "not signed in")).text
    signedIn
    credentialSource := source <|> backend
    details := .ofList
      [("key_stored", .bool (payload.get "keychainPresent").truthy),
        ("env_key_present", .bool (payload.get "envPresent").truthy),
        ("backend", .ofOption backend)] }

def inspectAuth : Option Output → Except Raised AuthEvidence
  | none => .ok { status := "unavailable", detail := "FireConnect is not installed" }
  | some output =>
      match json texts output with
      | .ok payload => authOf texts payload
      | .error (.managerError detail) =>
          .ok { status := "misconfigured"
                detail := texts.redactDiagnostics detail
                details := .ofList [("reason_code", .str "malformed_status")] }
      | .error (.raised error) => .error error

-- The flag of the harness in the list of all harnesses, if the list has it.
def globalEnabled (harness : String) : Option Output → Except Raised (Option Bool)
  | none => .ok none
  | some output =>
      match json texts output with
      | .ok payload => do
          let items ← iterate (orElse (payload.get "perHarness") (.list []))
          return (items.find? fun item => (dictOf item).get "id" = .str harness).map fun item =>
            ((dictOf item).get "enabled").truthy
      | .error (.managerError _) => .ok none
      | .error (.raised error) => .error error

def providerOf (payload : Mapping) : String :=
  texts.lower (orElse (payload.get "provider") (.str "")).text

def harnessEnabled (payload : Mapping) : Option Bool → Bool
  | some enabled => enabled
  | none =>
      let provider := providerOf texts payload
      if provider ∈ fireworksNames then true
      else if provider ∈ ["default", "none", ""] then false
      else (payload.get "enabled").truthy

-- A reading that shows nothing: the route is reported as turned off.
def unread (connectorId suffix : String) (available : Bool) (status code : String)
    (details : Mapping) : Route where
  state := ⟨false, "fireworks", none⟩
  configurationStatus := status
  available
  authenticated := false
  routeId := connectorId ++ ":fireworks"
  displayName := connectorId ++ " via Fireworks" ++ suffix
  connectorId
  reasonCode := some code
  details

def routeOf (connectorId harness : String) (auth : AuthEvidence) (payload : Mapping)
    (globalFlag : Option Bool) : Except Raised Route := do
  let enabled := harnessEnabled texts payload globalFlag
  let active := enabled || decide (providerOf texts payload ∈ fireworksNames)
  let hasToken := (payload.get "hasAuthToken").truthy
  let reported ← optionalStr (payload.get "provider")
  return {
    state := ⟨active, "fireworks", modelFromStatus payload⟩
    configurationStatus :=
      if enabled && !auth.signedIn then "authentication_required"
      else if active || !enabled then "valid"
      else "native_default"
    available := auth.status = "authenticated"
    authenticated := auth.signedIn && (hasToken || active)
    routeId := connectorId ++ ":fireworks"
    displayName := connectorId ++ " via Fireworks (FireConnect)"
    connectorId
    credentialSource := auth.credentialSource
    supportsEnable := true
    supportsDisable := true
    supportsModelSelection := true
    supportsUsageStatus := harness = "claude"
    reasonCode := if auth.signedIn then none else some "authentication_required"
    details := .ofList
      [("harness_id", .str harness), ("provider_reported", .ofOption reported),
        ("has_auth_token", .bool hasToken), ("usage_status", .str "unknown"),
        ("quota_remaining", .str "unavailable")] }

-- A harness status that fails is reported as a route that is turned off.
def inspectRoute (connectorId : String) (reading : Reading) : Except Raised Route :=
  match connectorToHarness connectorId with
  | none =>
      if connectorId ∈ unsupportedHarnesses then
        .ok (unread connectorId " (FireConnect)" false "unsupported" "route_not_supported"
          (.ofList [("detail", .str "no JoyMesh ConnectorRuntime for this harness")]))
      else
        .ok (unread connectorId "" false "unsupported" "route_not_supported"
          (.ofList [("detail",
            .str ("FireConnect does not route connector " ++ Value.quote connectorId))]))
  | some harness =>
      if reading.installed then do
        let auth ← inspectAuth texts reading.auth
        match json texts reading.status with
        | .ok payload => do
            let globalFlag ← globalEnabled texts harness reading.global
            routeOf texts connectorId harness auth payload globalFlag
        | .error (.managerError detail) =>
            return unread connectorId " (FireConnect)" (auth.status = "authenticated") "invalid"
              "configuration_invalid"
              (.ofList [("detail", .str (texts.redactDiagnostics detail))])
        | .error (.raised error) => throw error
      else
        .ok (unread connectorId " (FireConnect)" false "unavailable" "manager_not_installed" ∅)

def verifyRoute (connectorId : String) (reading : Reading) : Except Raised Route :=
  inspectRoute texts connectorId reading

-- Turning a route on or off, for the flag that the reading after it has to show.
def mutateRoute (wanted : Bool) (code doneMessage failedMessage : String) (connectorId : String)
    (mutation : Mutation) : Except Raised MutationResult := do
  if let some error := mutation.refusal then throw error
  if connectorToHarness connectorId = none then
    throw (Failure.managerError
      ("route_not_supported for connector " ++ Value.quote connectorId)).toRaised
  if !mutation.installed then throw (Failure.managerError "FireConnect is not installed").toRaised
  let _ ← inspectRoute texts connectorId mutation.previous
  match mutation.command with
  | .done => do
      let route ← verifyRoute texts connectorId mutation.after
      let ok := route.state.enabled == wanted
      return { ok
               reasonCode := if ok then none else some code
               message := if ok then doneMessage else failedMessage }
  | .failed detail => do
      let _ ← inspectRoute texts connectorId mutation.after
      return { ok := false
               reasonCode := some "mutation_failed"
               message := texts.redactDiagnostics (texts.redactDiagnostics detail) }
  | .unstarted error => throw error

def enableRoute (connectorId : String) (mutation : Mutation) : Except Raised MutationResult :=
  mutateRoute texts true "configuration_invalid" "Fireworks route enabled"
    "enable did not activate route" connectorId mutation

def disableRoute (connectorId : String) (mutation : Mutation) : Except Raised MutationResult :=
  mutateRoute texts false "restore_incomplete" "previous configuration restored"
    "disable incomplete" connectorId mutation

end Functions

end JoyMesh.ProviderRoutes.FireConnect
