import JoyMesh.Routing.Policies
import JoyMesh.Routing.Fallback

namespace JoyMesh.Routing

-- What the router asks of a backend.
structure ExecutionBackend where
  backendId : String
  capabilities : List ExecutionCapability
  supports : ExecutionIntent → String → Bool

-- All that an intent requires is among the capabilities.
def covers (intent : ExecutionIntent) (capabilities : List ExecutionCapability) : Bool :=
  intent.requiredCapabilities.all (· ∈ capabilities)

section Backends

-- The harnesses that a backend supports or has adapters for.
variable (harnesses : List String)

def localBackend : ExecutionBackend :=
  let capabilities : List ExecutionCapability :=
    [.filesystem, .localProcess, .streaming, .sandbox, .persistentWorkspace, .ephemeralWorkspace]
  { backendId := "local"
    capabilities
    supports := fun intent harnessId =>
      !intent.requiresProviderRoute &&
        ExecutionCapability.providerRouting ∉ intent.requiredCapabilities &&
        ExecutionCapability.remoteWorker ∉ intent.requiredCapabilities &&
        intent.localityPreference != "remote" &&
        harnessId ∈ harnesses && covers intent capabilities }

def fireConnectBackend : ExecutionBackend :=
  let capabilities : List ExecutionCapability :=
    [.internet, .filesystem, .providerRouting, .streaming, .sandbox, .localProcess,
      .persistentWorkspace, .ephemeralWorkspace]
  { backendId := "fireconnect"
    capabilities
    supports := fun intent harnessId => harnessId ∈ harnesses && covers intent capabilities }

def joyMeshBackend : ExecutionBackend :=
  let capabilities : List ExecutionCapability :=
    [.remoteWorker, .streaming, .longRunning, .internet, .ephemeralWorkspace, .filesystem,
      .persistentWorkspace]
  { backendId := "joymesh"
    capabilities
    supports := fun intent _ =>
      !intent.requiresProviderRoute && intent.localityPreference != "local" &&
        covers intent capabilities }

-- A stub that supports nothing.
def hostedBackend : ExecutionBackend where
  backendId := "hosted"
  capabilities := [.internet, .streaming, .longRunning, .sandbox]
  supports := fun _ _ => false

end Backends

structure BackendRegistryConfig where
  enabledBackends : List String := ["local", "fireconnect", "joymesh"]
  priority : List String := ["local", "fireconnect", "joymesh"]
  defaultBackend : Option String := some "local"
  fallbackOrder : List String := ["local", "fireconnect", "joymesh"]
  capabilityOverrides : List (String × List ExecutionCapability) := []
  allowStubBackends : Bool := false
deriving DecidableEq, Repr

-- The key of a backend need not be the id that it gives itself.
structure BackendRegistry where
  backends : List (String × ExecutionBackend)
  config : BackendRegistryConfig := {}

-- Why no decision is returned: a refusal, or the KeyError of an unknown id.
inductive RouterFailure where
  | refused (error : ExecutionRouterError)
  | unknownBackend (backendId : String)
deriving DecidableEq, Repr

namespace BackendRegistry

variable (registry : BackendRegistry)

def get (backendId : String) : Except RouterFailure ExecutionBackend :=
  match registry.backends.lookup backendId with
  | some backend => .ok backend
  | none => .error (.unknownBackend backendId)

-- In the order of the configuration, which may name a backend twice.
def enabled : List ExecutionBackend :=
  registry.config.enabledBackends.filterMap fun backendId =>
    if backendId = "hosted" ∧ ¬ registry.config.allowStubBackends then none
    else registry.backends.lookup backendId

def overrideCapabilities (backendId : String) : List ExecutionCapability :=
  (registry.config.capabilityOverrides.lookup backendId).getD []

-- The router looks a backend up by the id that it gives itself.
def Advertises (backendId : String) (capability : ExecutionCapability) : Prop :=
  ∃ backend, registry.get backendId = .ok backend ∧ capability ∈ backend.capabilities

end BackendRegistry

end JoyMesh.Routing
