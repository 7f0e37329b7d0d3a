import JoyMesh.Library.Closure
import JoyMesh.Library.Table
import JoyMesh.Routing.Intent
import Mathlib.Data.List.Dedup
import Mathlib.Data.List.Sort
import Mathlib.Data.String.Basic

namespace JoyMesh.Runtime

open Library Routing

def sorted (items : List String) : List String := items.insertionSort (· ≤ ·)

-- A set is the list of its members. In which order a loop meets them is up to
-- the hashes of the strings.
structure Iteration where
  items : List String → List String
  perm : ∀ members, (items members).Perm members

def Iteration.asGiven : Iteration := ⟨id, fun _ => .refl _⟩

theorem Iteration.mem_items {order : Iteration} {members : List String} {item : String} :
    item ∈ order.items members ↔ item ∈ members :=
  (order.perm members).mem_iff

structure CapabilityDefinition where
  capabilityId : String
  dependencies : List String := []
  conflicts : List String := []
deriving DecidableEq, Repr

abbrev CapabilityRegistry := Table String CapabilityDefinition

namespace CapabilityRegistry

def capabilities : List CapabilityDefinition :=
  [{ capabilityId := "repository.read", dependencies := ["filesystem.read", "workspace.contained"] },
    { capabilityId := "repository.search", dependencies := ["repository.read"] },
    { capabilityId := "repository.summarise",
      dependencies := ["repository.read", "structured_output"] },
    { capabilityId := "repository.write", dependencies := ["filesystem.write"] },
    { capabilityId := "repository.patch", dependencies := ["repository.write"] },
    { capabilityId := "filesystem.read", dependencies := ["workspace.contained"] },
    { capabilityId := "filesystem.write", dependencies := ["workspace.contained"] },
    { capabilityId := "structured_output" },
    { capabilityId := "streaming_output" },
    { capabilityId := "shell.execute", dependencies := ["process_tree.cancel"] },
    { capabilityId := "shell.cancel", dependencies := ["process_tree.cancel"] },
    { capabilityId := "git.read", dependencies := ["repository.read"] },
    { capabilityId := "git.diff", dependencies := ["git.read"] },
    { capabilityId := "git.commit", dependencies := ["repository.write", "filesystem.write"] },
    { capabilityId := "git.push", dependencies := ["git.commit"] },
    { capabilityId := "dependency.install", dependencies := ["shell.execute"] },
    { capabilityId := "test.execute", dependencies := ["shell.execute", "process_tree.cancel"] },
    { capabilityId := "build.execute", dependencies := ["shell.execute", "process_tree.cancel"] },
    { capabilityId := "network.read" },
    { capabilityId := "network.write", dependencies := ["network.read"] },
    { capabilityId := "session.resume" },
    { capabilityId := "session.fork", dependencies := ["session.resume"] },
    { capabilityId := "browser.use", dependencies := ["network.write"] },
    { capabilityId := "mcp.use" },
    { capabilityId := "images.read", dependencies := ["filesystem.read"] },
    { capabilityId := "workspace.contained" },
    { capabilityId := "process_tree.cancel" }]

-- Of two definitions of one capability the last one counts.
def ofDefinitions (definitions : List CapabilityDefinition) : CapabilityRegistry :=
  let items := if definitions.isEmpty then capabilities else definitions
  items.foldl (fun registry item => registry.insert item.capabilityId item) ∅

def builtin : CapabilityRegistry := ofDefinitions []

variable (registry : CapabilityRegistry)

def get (capabilityId : String) : Except PyError CapabilityDefinition :=
  match registry.lookup capabilityId with
  | some definition => .ok definition
  | none => .error ⟨"KeyError", "unknown capability: " ++ capabilityId⟩

def all : List CapabilityDefinition :=
  (sorted registry.keys).filterMap registry.lookup

def known (capabilityId : String) : Bool := (registry.lookup capabilityId).isSome

end CapabilityRegistry

def readOnlyCapabilities : List String :=
  ["repository.read", "repository.search", "repository.summarise", "filesystem.read",
    "structured_output", "streaming_output", "workspace.contained", "process_tree.cancel"]

def mutatingCapabilities : List String :=
  ["repository.write", "repository.patch", "filesystem.write", "shell.execute", "git.commit",
    "git.push", "dependency.install", "test.execute", "build.execute", "network.write"]

-- The ids are told apart from the read-only ones.
example : ∀ capability ∈ mutatingCapabilities, capability ∉ readOnlyCapabilities := by decide

section Expansion

variable (order : Iteration) (registry : CapabilityRegistry) (requested prohibited : List String)
  {current capability : String} {next expanded : List String}

-- What the loop does with a capability that it has not expanded yet.
def expand (current : String) : Except PyError (List String) :=
  if current ∈ prohibited then
    .error ⟨"ValueError", "prohibited capability required by expansion: " ++ current⟩
  else
    match registry.get current with
    | .error error => .error error
    | .ok definition => .ok (order.items definition.dependencies)

def dependencyCount (capabilityId : String) : Nat :=
  match registry.lookup capabilityId with
  | some definition => definition.dependencies.length
  | none => 0

def conflictError (expanded : List String) (capabilityId : String) : Option PyError :=
  match registry.get capabilityId with
  | .error error => some error
  | .ok definition =>
      let conflicts := definition.conflicts.filter (· ∈ expanded)
      if conflicts = [] then none
      else some ⟨"ValueError", "capability " ++ capabilityId ++ " conflicts with " ++
        ", ".intercalate (sorted conflicts)⟩

variable {order registry requested prohibited}

theorem expand_eq_ok (h : expand order registry prohibited current = .ok next) :
    ∃ definition, registry.lookup current = some definition ∧
      next = order.items definition.dependencies := by
  unfold expand CapabilityRegistry.get at h
  split at h
  · cases h
  · cases hl : registry.lookup current with
    | none => simp [hl] at h
    | some definition =>
        simp only [hl, Except.ok.injEq] at h
        exact ⟨definition, rfl, h.symm⟩

theorem expand_bounded (h : expand order registry prohibited current = .ok next) :
    current ∈ registry.keys ∧ next.length ≤ dependencyCount registry current := by
  obtain ⟨definition, hl, rfl⟩ := expand_eq_ok h
  refine ⟨AList.mem_keys.mp (AList.lookup_isSome.mp (by simp [hl])), ?_⟩
  rw [dependencyCount, hl, (order.perm _).length_eq]

variable (order registry requested prohibited)

-- The bound on the pushes of the loop, which Python runs without one.
def expansionFuel : Nat :=
  (order.items requested).reverse.length +
    pending registry.keys (dependencyCount registry) [] + 1

-- The loop takes from the end of the stack, where the dependencies were put.
def expandAll : Except PyError (List String) :=
  (explore (expand order registry prohibited) (expansionFuel order registry requested) []
    (order.items requested).reverse).get
      (explore_isSome (fun _ _ => expand_bounded) (Nat.lt_succ_self _))

def expandCapabilities : Except PyError (List String) :=
  let unknown := (requested ∪ prohibited).filter fun item => !registry.known item
  let overridden := requested.filter (· ∈ prohibited)
  if unknown ≠ [] then
    .error ⟨"ValueError", "unknown capabilities: " ++ ", ".intercalate (sorted unknown)⟩
  else if overridden ≠ [] then
    .error ⟨"ValueError", "prohibited capabilities override requested capabilities: " ++
      ", ".intercalate (sorted overridden)⟩
  else
    match expandAll order registry requested prohibited with
    | .error error => .error error
    | .ok expanded =>
        match (order.items expanded).findSome? (conflictError registry expanded) with
        | some error => .error error
        | none => .ok expanded

def Depends (first second : String) : Prop :=
  ∃ definition, registry.lookup first = some definition ∧ second ∈ definition.dependencies

-- A capability that one of the requested ones needs, itself included.
def Required (capability : String) : Prop :=
  ∃ first ∈ requested, Relation.ReflTransGen (Depends registry) first capability

variable {order registry requested prohibited}

theorem expandAll_mem_iff (h : expandAll order registry requested prohibited = .ok expanded) :
    capability ∈ expanded ↔ Required registry requested capability := by
  have hsome : explore (expand order registry prohibited) (expansionFuel order registry requested)
      [] (order.items requested).reverse = some (.ok expanded) := by
    rw [← h, expandAll, Option.some_get]
  have hstack : ∀ first, first ∈ (order.items requested).reverse ↔ first ∈ requested := by
    intro first
    rw [List.mem_reverse, Iteration.mem_items]
  have hmem : capability ∈ expanded ↔ ∃ first ∈ (order.items requested).reverse,
      Relation.ReflTransGen (Leads (expand order registry prohibited)) first capability :=
    explore_mem_iff hsome
  constructor
  · intro hm
    obtain ⟨first, hf, hreach⟩ := hmem.mp hm
    have hdepends : ∀ a b, Leads (expand order registry prohibited) a b → Depends registry a b := by
      rintro a b ⟨next, hvisit, hb⟩
      obtain ⟨definition, hd, rfl⟩ := expand_eq_ok hvisit
      exact ⟨definition, hd, Iteration.mem_items.mp hb⟩
    exact ⟨first, (hstack first).mp hf, Relation.ReflTransGen.mono hdepends _ _ hreach⟩
  · rintro ⟨first, hf, hreach⟩
    obtain ⟨hin, hall⟩ := explore_complete hsome (by simp)
    clear hmem
    induction hreach with
    | refl => exact hin first (.inr ((hstack first).mpr hf))
    | tail _ hl ih =>
        -- whatever was expanded was looked up, so its dependencies were pushed
        obtain ⟨definition, hd, hb⟩ := hl
        rcases explore_visited hsome ih with hs | ⟨next, hvisit⟩
        · cases hs
        · obtain ⟨found, hfound, rfl⟩ := expand_eq_ok hvisit
          obtain rfl := Option.some.inj (hd.symm.trans hfound)
          exact hall _ ih _ ⟨_, hvisit, Iteration.mem_items.mpr hb⟩

theorem expandCapabilities_ok
    (h : expandCapabilities order registry requested prohibited = .ok expanded) :
    expandAll order registry requested prohibited = .ok expanded := by
  simp only [expandCapabilities] at h
  split at h
  · cases h
  · split at h
    · cases h
    · cases he : expandAll order registry requested prohibited with
      | error error => simp [he] at h
      | ok found =>
          simp only [he] at h
          split at h
          · cases h
          · exact h

-- The expansion is the closure of the request under the dependencies.
theorem expandCapabilities_mem_iff
    (h : expandCapabilities order registry requested prohibited = .ok expanded) :
    capability ∈ expanded ↔ Required registry requested capability :=
  expandAll_mem_iff (expandCapabilities_ok h)

end Expansion

end JoyMesh.Runtime
