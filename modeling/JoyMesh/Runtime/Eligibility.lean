import JoyMesh.Library.Ranking
import JoyMesh.Runtime.Expansion
import JoyMesh.Runtime.Scheduler
import Mathlib.Data.Prod.Lex

namespace JoyMesh.Runtime.RuntimeScheduler

open Library Routing

section Keys

-- The key of the sort: eligible ones, the best score, the names.
def rankKey (candidate : RankedCandidate) : Bool ×ₗ Int ×ₗ String ×ₗ String :=
  toLex (!candidate.eligible, toLex (-candidate.score, toLex (candidate.nodeId,
    candidate.connectorId)))

theorem sortedBy_eq_ranked {α κ : Type} [LinearOrder κ] {before : α → α → Bool} {key : α → κ}
    (hkey : ∀ a b, before a b = true ↔ key a < key b) (items : List α) :
    sortedBy before items = ranked key items := by
  have hrel : (fun a b : α => before b a = false) = fun a b => key a ≤ key b := by
    funext a b
    rw [← not_lt, ← hkey b a, Bool.not_eq_true]
  unfold sortedBy ranked
  congr

theorem before_iff {a b : RankedCandidate} : before a b = true ↔ rankKey a < rankKey b := by
  simp only [before, rankKey, Prod.Lex.toLex_lt_toLex, Int.neg_lt_neg_iff, Int.neg_inj]
  by_cases heligible : a.eligible = b.eligible
  · rw [if_neg (not_not.mpr heligible)]
    by_cases hscore : a.score = b.score
    · rw [if_neg (not_not.mpr hscore)]
      by_cases hnode : a.nodeId = b.nodeId
      · simp [heligible, hscore, hnode]
      · simp [heligible, hscore, hnode]
    · simp [heligible, hscore]
  · rw [if_pos heligible]
    cases ha : a.eligible <;> cases hb : b.eligible <;> simp_all

theorem sortedBy_before (candidates : List RankedCandidate) :
    sortedBy before candidates = ranked rankKey candidates :=
  sortedBy_eq_ranked (fun a b => @before_iff a b) candidates

end Keys

section Gates

variable (engine : PolicyEngine) (order : Iteration) (production : Bool)
  (request : RuntimeTaskRequest) (granted : List String) {placement : WorkspacePlacement}
  {decision : PolicyDecision}

-- What is asked of a node and of its connector, but for the write to a read-only
-- placement.
structure Gates (node : SchedulerNodeSnapshot) (connectorId : String)
    (connector : SchedulerConnectorSnapshot) : Prop where
  meets : Meets request node.nodeId connectorId
  online : node.online = true
  revoked : node.revoked = false
  session : node.sessionAuthenticated = true
  installed : connector.installed = true
  readiness : connector.readiness = .ready
  authenticated : connector.authenticated = true
  routing : connector.routingEnabled = true
  certified : ∀ capability ∈ granted, capability ∈ connector.certifiedCapabilities
  attested : production = true → connector.trustLevel = some .nodeAttested
  remote : production = true → connector.executionOrigin = some .remoteNode
  placed : ∃ placement, placementFor node request.workspaceId = some placement
  policy : ∃ decision,
    engine.evaluate order request (some connector.certifiedCapabilities) = .ok decision ∧
      decision.allowed = true

-- The node has the workspace, and may not write to it.
def ReadOnly (node : SchedulerNodeSnapshot) : Prop :=
  ∃ placement, placementFor node request.workspaceId = some placement ∧
    placement.writable = false

def Mutates : Prop := ∃ capability ∈ granted, capability ∈ mutatingCapabilities

def Eligible (node : SchedulerNodeSnapshot) (connectorId : String)
    (connector : SchedulerConnectorSnapshot) : Prop :=
  Gates engine order production request granted node connectorId connector ∧
    (ReadOnly request node → ¬Mutates granted)

-- As the code has it.
def Admitted (node : SchedulerNodeSnapshot) (connectorId : String)
    (connector : SchedulerConnectorSnapshot) : Prop :=
  Gates engine order production request granted node connectorId connector ∧
    (ReadOnly request node → needsWrite granted = false)

variable {engine order production request granted} {node : SchedulerNodeSnapshot}
  {connectorId : String} {connector : SchedulerConnectorSnapshot}

theorem check_eq_nil {failed : Bool} {reason : String} :
    (if failed then [reason] else []) = [] ↔ failed = false := by
  cases failed <;> simp

theorem required_met {requirement : Option String} {item : String} :
    (asked requirement).any (· ≠ item) = false ↔
      ∀ required, asked requirement = some required → item = required := by
  cases asked requirement with
  | none => simp
  | some required => simp [@eq_comm _ item]

theorem readOnly_some (h : placementFor node request.workspaceId = some placement) :
    ReadOnly request node ↔ placement.writable = false := by
  simp [ReadOnly, h]

theorem rejections_placed (hreasons : decision.reasons ≠ [])
    (hdecision : engine.evaluate order request (some connector.certifiedCapabilities) =
      .ok decision) (hplacement : placementFor node request.workspaceId = some placement) :
    rejections production request granted node connectorId connector decision = [] ↔
      Admitted engine order production request granted node connectorId connector := by
  have hpolicy : (if decision.allowed then [] else decision.reasons) = [] ↔ ∃ found,
      engine.evaluate order request (some connector.certifiedCapabilities) = .ok found ∧
        found.allowed = true := by
    rw [hdecision]
    cases hallowed : decision.allowed <;> simp [hreasons, hallowed]
  have hwrites : (!placement.writable && needsWrite granted) = false ↔
      (ReadOnly request node → needsWrite granted = false) := by
    rw [readOnly_some hplacement]
    cases placement.writable <;> simp
  simp only [rejections, List.append_eq_nil_iff, check_eq_nil, required_met, hpolicy, hplacement,
    hwrites]
  constructor
  · rintro ⟨⟨⟨⟨⟨⟨⟨⟨⟨⟨⟨⟨⟨hnode, hconnector⟩, hrevoked⟩, honline⟩, hsession⟩, hinstalled⟩, hready⟩,
      hauthenticated⟩, hrouting⟩, hcertified⟩, hattested⟩, hremote⟩, hwritable⟩, hallowed⟩
    refine ⟨⟨⟨hnode, hconnector⟩, by simpa using honline, hrevoked, by simpa using hsession,
      by simpa using hinstalled, by simpa using hready, by simpa using hauthenticated,
      by simpa using hrouting, by simpa using hcertified, ?_, ?_, ⟨placement, hplacement⟩,
      hallowed⟩, hwritable⟩
    · intro hproduction
      simpa [hproduction] using hattested
    · intro hproduction
      simpa [hproduction] using hremote
  · rintro ⟨h, hwritable⟩
    refine ⟨⟨⟨⟨⟨⟨⟨⟨⟨⟨⟨⟨⟨h.meets.node, h.meets.connector⟩, h.revoked⟩, by simp [h.online]⟩,
      by simp [h.session]⟩, by simp [h.installed]⟩, by simp [h.readiness]⟩,
      by simp [h.authenticated]⟩, by simp [h.routing]⟩, by simpa using h.certified⟩, ?_⟩, ?_⟩,
      hwritable⟩, h.policy⟩
    · cases hproduction : production <;> simp [h.attested, hproduction]
    · cases hproduction : production <;> simp [h.remote, hproduction]

theorem rejections_eq_nil (hreasons : decision.reasons ≠ [])
    (hdecision : engine.evaluate order request (some connector.certifiedCapabilities) =
      .ok decision) :
    rejections production request granted node connectorId connector decision = [] ↔
      Admitted engine order production request granted node connectorId connector := by
  cases hplacement : placementFor node request.workspaceId with
  | some placement => exact rejections_placed hreasons hdecision hplacement
  | none =>
      refine iff_of_false ?_ fun h => ?_
      · simp [rejections, hplacement]
      · obtain ⟨placement, hsome⟩ := h.1.placed
        rw [hplacement] at hsome
        cases hsome

end Gates

section Candidates

variable {engine : PolicyEngine} {order : Iteration} {production : Bool}
  {request : RuntimeTaskRequest} {base : PolicyDecision} {node : SchedulerNodeSnapshot}
  {connectorId : String} {connector : SchedulerConnectorSnapshot}

theorem judge_reasons {profile : PolicyProfile} {expanded : List String}
    {candidate : Option (List String)} :
    (PolicyEngine.judge profile expanded candidate).reasons ≠ [] := by
  unfold PolicyEngine.judge
  dsimp only
  split_ifs <;> simp [PolicyEngine.refused]

-- A request that the policy allows is judged anew for each candidate.
theorem evaluate_candidate (h : engine.evaluate order request = .ok base)
    (hallowed : base.allowed = true) (certified : List String) :
    ∃ decision, engine.evaluate order request (some certified) = .ok decision ∧
      decision.reasons ≠ [] := by
  obtain ⟨profile, hprofile, henabled, -⟩ := evaluate_judges h hallowed
  have hexpanded := PolicyEngine.evaluate_allowed h hallowed
  refine ⟨PolicyEngine.judge profile base.grantedCapabilities (some certified), ?_, judge_reasons⟩
  simp only [PolicyEngine.evaluate, PolicyEngine.get, hprofile, henabled, hexpanded,
    Bool.true_eq_false, if_false]

-- What one place of the ranking has.
structure Ranks (engine : PolicyEngine) (order : Iteration) (production : Bool)
    (request : RuntimeTaskRequest) (granted : List String) (node : SchedulerNodeSnapshot)
    (connectorId : String) (connector : SchedulerConnectorSnapshot)
    (candidate : RankedCandidate) : Prop where
  ofNode : candidate.nodeId = node.nodeId
  ofConnector : candidate.connectorId = connectorId
  eligible : candidate.eligible = true ↔
    Admitted engine order production request granted node connectorId connector
  scored : candidate.score = if candidate.eligible then score request node connectorId else 0

theorem rankOne_ranks (h : engine.evaluate order request = .ok base)
    (hallowed : base.allowed = true) :
    ∃ candidate, rankOne engine order production request base.grantedCapabilities node connectorId
        connector = .ok candidate ∧
      Ranks engine order production request base.grantedCapabilities node connectorId connector
        candidate := by
  obtain ⟨decision, hdecision, hreasons⟩ :=
    evaluate_candidate h hallowed connector.certifiedCapabilities
  have hnil : rejections production request base.grantedCapabilities node connectorId connector
      decision = [] ↔ Admitted engine order production request base.grantedCapabilities node
        connectorId connector := rejections_eq_nil hreasons hdecision
  simp only [rankOne, hdecision, bind, Except.bind, pure, Except.pure]
  generalize rejections production request base.grantedCapabilities node connectorId connector
    decision = reasons at hnil ⊢
  exact ⟨_, rfl, rfl, rfl, decide_eq_true_iff.trans hnil, rfl⟩

-- The connectors of a node, by their names.
def rows (node : SchedulerNodeSnapshot) : List (String × SchedulerConnectorSnapshot) :=
  (sorted node.connectors.keys).filterMap fun connectorId =>
    (node.connectors.lookup connectorId).map (connectorId, ·)

theorem mapM_of_ok {ε α β : Type} {f : α → Except ε β} {g : α → β} {items : List α}
    (h : ∀ item, f item = .ok (g item)) : items.mapM f = .ok (items.map g) := by
  rw [funext h]
  exact List.mapM_pure

-- The candidates of a request that is allowed: one for each node and connector,
-- told by these alone.
theorem rankCandidates_ranks (order : Iteration) (production : Bool)
    (h : engine.evaluate order request = .ok base) (hallowed : base.allowed = true) :
    ∃ place : SchedulerNodeSnapshot → String × SchedulerConnectorSnapshot → RankedCandidate,
      (∀ node item, rankOne engine order production request base.grantedCapabilities node item.1
          item.2 = .ok (place node item) ∧
        Ranks engine order production request base.grantedCapabilities node item.1 item.2
          (place node item)) ∧
      ∀ nodes, rankCandidates engine order production request nodes =
        .ok (ranked rankKey ((sortedBy (fun a b => a.nodeId < b.nodeId) nodes).flatMap fun node =>
          (rows node).map (place node))) := by
  have hone := fun (node : SchedulerNodeSnapshot)
      (item : String × SchedulerConnectorSnapshot) =>
    @rankOne_ranks engine order production request base node item.1 item.2 h hallowed
  choose place hplace hranks using hone
  refine ⟨place, fun node item => ⟨hplace node item, hranks node item⟩, fun nodes => ?_⟩
  have hnode : ∀ node, rankNode engine order production request base.grantedCapabilities node =
      .ok ((rows node).map (place node)) := fun node => mapM_of_ok (hplace node)
  rw [← sortedBy_before, List.flatMap_def]
  unfold rankCandidates
  simp only [h, hallowed, mapM_of_ok hnode, bind, Except.bind, pure, Except.pure,
    Bool.true_eq_false, if_false]

end Candidates

section Soundness

-- A collection of nodes with distinct ids.
structure Fleet where
  nodes : List SchedulerNodeSnapshot
  distinct : (nodes.map (·.nodeId)).Nodup

variable (engine : PolicyEngine) (order : Iteration) (production : Bool)
  (request : RuntimeTaskRequest) (granted : List String) {fleet : Fleet}

def namesOf (candidate : RankedCandidate) : String × String :=
  (candidate.nodeId, candidate.connectorId)

structure Ranking (nodes : List SchedulerNodeSnapshot) (candidates : List RankedCandidate) :
    Prop where
  once : (candidates.map namesOf).Nodup
  each : ∀ names, names ∈ candidates.map namesOf ↔
    ∃ node ∈ nodes, node.nodeId = names.1 ∧ names.2 ∈ node.connectors.keys
  sorted : candidates.Pairwise fun a b => (b.eligible = true → a.eligible = true) ∧
    (a.eligible = b.eligible → b.score ≤ a.score)
  eligible : ∀ candidate ∈ candidates, ∀ node ∈ nodes, ∀ connector,
    node.nodeId = candidate.nodeId →
    node.connectors.lookup candidate.connectorId = some connector →
    (candidate.eligible = true ↔
      Eligible engine order production request granted node candidate.connectorId connector)

structure Sound (fleet : Fleet) : Prop where
  ranked : ∃ candidates, rankCandidates engine order production request fleet.nodes =
    .ok candidates ∧ Ranking engine order production request granted fleet.nodes candidates
  orderless : ∀ nodes, nodes.Perm fleet.nodes →
    rankCandidates engine order production request nodes =
      rankCandidates engine order production request fleet.nodes

-- A write that the list of the scheduler does not name, to a placement that is
-- read-only.
structure Unseen (fleet : Fleet) : Prop where
  node : ∃ node ∈ fleet.nodes, ReadOnly request node ∧ ∃ connectorId connector,
    node.connectors.lookup connectorId = some connector ∧
      Gates engine order production request granted node connectorId connector
  mutates : Mutates granted
  unlisted : needsWrite granted = false

variable {engine order production request granted} {base : PolicyDecision}

theorem mem_rows {node : SchedulerNodeSnapshot} {item : String × SchedulerConnectorSnapshot} :
    item ∈ rows node ↔ node.connectors.lookup item.1 = some item.2 := by
  simp only [rows, List.mem_filterMap, mem_sorted, Option.map_eq_some_iff]
  constructor
  · rintro ⟨connectorId, -, connector, hl, rfl⟩
    exact hl
  · intro hl
    exact ⟨item.1, AList.mem_keys.mp (AList.lookup_isSome.mp (by simp [hl])), item.2, hl, rfl⟩

theorem rows_names (node : SchedulerNodeSnapshot) :
    (rows node).map Prod.fst = sorted node.connectors.keys := by
  have hkeys : ∀ keys : List String, (∀ key ∈ keys, key ∈ node.connectors.keys) →
      (keys.filterMap fun connectorId =>
        (node.connectors.lookup connectorId).map (connectorId, ·)).map Prod.fst = keys := by
    intro keys hin
    induction keys with
    | nil => rfl
    | cons key keys ih =>
        obtain ⟨connector, hl⟩ := Option.isSome_iff_exists.mp
          (AList.lookup_isSome.mpr (AList.mem_keys.mpr (hin key (by simp))))
        rw [List.filterMap_cons, hl]
        simp only [Option.map_some, List.map_cons]
        rw [ih fun other hother => hin other (List.mem_cons_of_mem _ hother)]
  exact hkeys _ fun key hm => mem_sorted.mp hm

theorem sorted_nodup {items : List String} (h : items.Nodup) : (sorted items).Nodup :=
  ((List.perm_insertionSort _ items).nodup_iff).mpr h

theorem needsWrite_mutates (h : needsWrite granted = true) : Mutates granted := by
  have hlisted : ∀ capability ∈ ["repository.write", "repository.patch", "filesystem.write",
      "git.commit", "dependency.install"], capability ∈ mutatingCapabilities := by decide
  obtain ⟨capability, hm, hlist⟩ := List.any_eq_true.mp h
  exact ⟨capability, hm, hlisted capability (of_decide_eq_true hlist)⟩

section Places

variable {place : SchedulerNodeSnapshot → String × SchedulerConnectorSnapshot → RankedCandidate}
  {nodes : List SchedulerNodeSnapshot} {candidate : RankedCandidate}

def allPlaces (place : SchedulerNodeSnapshot → String × SchedulerConnectorSnapshot →
    RankedCandidate) (nodes : List SchedulerNodeSnapshot) : List RankedCandidate :=
  nodes.flatMap fun node => (rows node).map (place node)

theorem mem_allPlaces :
    candidate ∈ allPlaces place nodes ↔ ∃ node ∈ nodes, ∃ item,
      node.connectors.lookup item.1 = some item.2 ∧ place node item = candidate := by
  simp only [allPlaces, List.mem_flatMap, List.mem_map, mem_rows]

variable (hplace : ∀ node item, Ranks engine order production request granted node item.1 item.2
  (place node item))

include hplace

theorem allPlaces_names (nodes : List SchedulerNodeSnapshot) :
    (allPlaces place nodes).map namesOf =
      nodes.flatMap fun node => (sorted node.connectors.keys).map (node.nodeId, ·) := by
  rw [allPlaces, List.map_flatMap]
  congr
  funext node
  rw [← rows_names, List.map_map, List.map_map]
  refine List.map_congr_left fun item _ => ?_
  exact Prod.ext (hplace node item).ofNode (hplace node item).ofConnector

theorem allPlaces_once (hdistinct : (nodes.map (·.nodeId)).Nodup) :
    ((allPlaces place nodes).map namesOf).Nodup := by
  rw [allPlaces_names hplace, List.nodup_flatMap]
  constructor
  · intro node _
    exact (sorted_nodup node.connectors.keys_nodup).map fun _ _ h => (Prod.mk.inj h).2
  · refine (List.pairwise_map.mp hdistinct).imp fun {a b} hne => ?_
    intro names ha hb
    obtain ⟨_, -, rfl⟩ := List.mem_map.mp ha
    obtain ⟨_, -, h⟩ := List.mem_map.mp hb
    exact hne (Prod.mk.inj h).1.symm

theorem allPlaces_each {names : String × String} :
    names ∈ (allPlaces place nodes).map namesOf ↔
      ∃ node ∈ nodes, node.nodeId = names.1 ∧ names.2 ∈ node.connectors.keys := by
  rw [allPlaces_names hplace]
  simp only [List.mem_flatMap, List.mem_map, mem_sorted]
  constructor
  · rintro ⟨node, hm, connectorId, hkey, rfl⟩
    exact ⟨node, hm, rfl, hkey⟩
  · rintro ⟨node, hm, hid, hkey⟩
    exact ⟨node, hm, names.2, hkey, Prod.ext hid rfl⟩

theorem allPlaces_eligible (hdistinct : (nodes.map (·.nodeId)).Nodup)
    (hm : candidate ∈ allPlaces place nodes) {node : SchedulerNodeSnapshot} (hnode : node ∈ nodes)
    {connector : SchedulerConnectorSnapshot} (hid : node.nodeId = candidate.nodeId)
    (hl : node.connectors.lookup candidate.connectorId = some connector) :
    Ranks engine order production request granted node candidate.connectorId connector
      candidate := by
  obtain ⟨other, hother, item, hitem, rfl⟩ := mem_allPlaces.mp hm
  have hranks := hplace other item
  have hsame : other = node :=
    List.inj_on_of_nodup_map hdistinct hother hnode (hranks.ofNode.symm.trans hid.symm)
  subst hsame
  rw [hranks.ofConnector] at hl ⊢
  obtain rfl := Option.some.inj (hitem.symm.trans hl)
  exact hranks

end Places

theorem rankKey_le {a b : RankedCandidate} (h : rankKey a ≤ rankKey b) :
    (b.eligible = true → a.eligible = true) ∧ (a.eligible = b.eligible → b.score ≤ a.score) := by
  simp only [rankKey, Prod.Lex.toLex_le_toLex, Int.neg_lt_neg_iff, Int.neg_inj] at h
  constructor
  · intro hb
    rcases h with hlt | ⟨heq, -⟩
    · exact absurd hlt (by simp [hb])
    · simpa [hb] using heq
  · intro heq
    rcases h with hlt | ⟨-, hlt | ⟨hscore, -⟩⟩
    · simp [heq] at hlt
    · exact hlt.le
    · exact hscore.ge

-- The ranking, but for the list of the writes.
theorem ranked_allPlaces
    {place : SchedulerNodeSnapshot → String × SchedulerConnectorSnapshot → RankedCandidate}
    (hplace : ∀ node item, Ranks engine order production request granted node item.1 item.2
      (place node item)) :
    Ranking engine order production request granted fleet.nodes
        (ranked rankKey (allPlaces place
          (sortedBy (fun a b => a.nodeId < b.nodeId) fleet.nodes))) ↔
      ∀ node ∈ fleet.nodes, ∀ connectorId connector,
        node.connectors.lookup connectorId = some connector →
        (Admitted engine order production request granted node connectorId connector ↔
          Eligible engine order production request granted node connectorId connector) := by
  have hperm := sortedBy_perm (fun a b : SchedulerNodeSnapshot => a.nodeId < b.nodeId) fleet.nodes
  have hdistinct := ((hperm.map (·.nodeId)).nodup_iff).mpr fleet.distinct
  have hnames := (@ranked_perm _ _ _ rankKey (allPlaces place
    (sortedBy (fun a b => a.nodeId < b.nodeId) fleet.nodes))).map namesOf
  constructor
  · intro h node hnode connectorId connector hl
    have hm : place node (connectorId, connector) ∈ allPlaces place
        (sortedBy (fun a b => a.nodeId < b.nodeId) fleet.nodes) :=
      mem_allPlaces.mpr ⟨node, mem_sortedBy.mpr hnode, (connectorId, connector), hl, rfl⟩
    have hranks := hplace node (connectorId, connector)
    have heligible := h.eligible _ (mem_ranked.mpr hm) node hnode connector hranks.ofNode.symm
      (by rw [hranks.ofConnector]; exact hl)
    rw [hranks.eligible, hranks.ofConnector] at heligible
    exact heligible
  · intro h
    refine ⟨hnames.nodup_iff.mpr (allPlaces_once hplace hdistinct), fun names => ?_, ?_, ?_⟩
    · rw [hnames.mem_iff, allPlaces_each hplace]
      simp only [mem_sortedBy]
    · exact (@ranked_sorted _ _ _ rankKey _).imp rankKey_le
    · intro candidate hm node hnode connector hid hl
      have hranks := allPlaces_eligible hplace hdistinct (mem_ranked.mp hm)
        (mem_sortedBy.mpr hnode) hid hl
      rw [hranks.eligible]
      exact h node hnode _ connector hl

theorem sortedBy_nodeId {nodes : List SchedulerNodeSnapshot} (hperm : nodes.Perm fleet.nodes) :
    sortedBy (fun a b => a.nodeId < b.nodeId) nodes =
      sortedBy (fun a b => a.nodeId < b.nodeId) fleet.nodes := by
  have hkey : ∀ a b : SchedulerNodeSnapshot,
      decide (a.nodeId < b.nodeId) = true ↔ a.nodeId < b.nodeId := fun _ _ => decide_eq_true_iff
  rw [sortedBy_eq_ranked hkey, sortedBy_eq_ranked hkey]
  refine ranked_eq_of_perm hperm fun a ha b hb hid => ?_
  exact List.inj_on_of_nodup_map fleet.distinct ha hb hid

-- The code's list and the canonical one tell the same candidates, unless a write is
-- missing in the former.
theorem admitted_eligible_iff :
    (∀ node ∈ fleet.nodes, ∀ connectorId connector,
      node.connectors.lookup connectorId = some connector →
      (Admitted engine order production request granted node connectorId connector ↔
        Eligible engine order production request granted node connectorId connector)) ↔
      ¬Unseen engine order production request granted fleet := by
  constructor
  · rintro h ⟨⟨node, hnode, hreadOnly, connectorId, connector, hl, hgates⟩, hmutates, hunlisted⟩
    exact ((h node hnode connectorId connector hl).mp ⟨hgates, fun _ => hunlisted⟩).2 hreadOnly
      hmutates
  · intro h node hnode connectorId connector hl
    refine and_congr_right fun hgates => forall_congr' fun hreadOnly => ?_
    constructor
    · intro hunlisted hmutates
      exact h ⟨⟨node, hnode, hreadOnly, connectorId, connector, hl, hgates⟩, hmutates, hunlisted⟩
    · intro hsafe
      rw [← Bool.not_eq_true]
      exact fun hwrites => hsafe (needsWrite_mutates hwrites)

theorem sound_iff_seen {fleet : Fleet} (h : engine.evaluate order request = .ok base)
    (hallowed : base.allowed = true) :
    Sound engine order production request base.grantedCapabilities fleet ↔
      ¬Unseen engine order production request base.grantedCapabilities fleet := by
  obtain ⟨place, hplace, hrank⟩ := rankCandidates_ranks order production h hallowed
  rw [← admitted_eligible_iff, ← ranked_allPlaces fun node item => (hplace node item).2]
  constructor
  · rintro ⟨⟨candidates, hcandidates, hranking⟩, -⟩
    obtain rfl := Except.ok.inj ((hrank fleet.nodes).symm.trans hcandidates)
    exact hranking
  · intro hranking
    refine ⟨⟨_, hrank fleet.nodes, hranking⟩, fun nodes hperm => ?_⟩
    rw [hrank, hrank, sortedBy_nodeId hperm]

def labConnector : SchedulerConnectorSnapshot where
  installed := true
  readiness := .ready
  authenticated := true
  routingEnabled := true
  certifiedCapabilities := ["shell.execute", "process_tree.cancel"]
  trustLevel := some .nodeAttested
  executionOrigin := some .remoteNode

def labNode : SchedulerNodeSnapshot where
  nodeId := "lab"
  online := true
  revoked := false
  sessionAuthenticated := true
  connectors := (∅ : Table String SchedulerConnectorSnapshot).insert "codex" labConnector
  placements := [⟨"mesh", false⟩]

def lab : Fleet := ⟨[labNode], by decide⟩

def labRequest (capability : String) : RuntimeTaskRequest where
  workspaceId := "mesh"
  requestedCapabilities := [capability]
  policyProfile := "developer"
  taskId := "task"

def searchDecision : PolicyDecision where
  allowed := true
  grantedCapabilities := ["filesystem.read", "workspace.contained", "repository.read"]
  deniedCapabilities := []
  approvalRequirements := []
  reasons := ["policy developer allowed expanded capabilities"]

theorem sound_iff_seen_read :
    Sound .create .asGiven true (labRequest "repository.read") searchDecision.grantedCapabilities
      lab :=
  (sound_iff_seen (by decide +kernel) rfl).mpr fun h => absurd h.mutates (by
    unfold Mutates
    decide)

def shellDecision : PolicyDecision where
  allowed := true
  grantedCapabilities := ["process_tree.cancel", "shell.execute"]
  deniedCapabilities := []
  approvalRequirements := ["shell.execute"]
  reasons := ["explicit approval required for: shell.execute",
    "policy developer allowed expanded capabilities"]

-- The shell is granted on a workspace that is read-only.
theorem shell_on_readOnly :
    PolicyEngine.create.evaluate .asGiven (labRequest "shell.execute") = .ok shellDecision ∧
      ¬Sound .create .asGiven true (labRequest "shell.execute") shellDecision.grantedCapabilities
        lab := by
  refine ⟨by decide +kernel, fun h => ?_⟩
  obtain ⟨candidates, hcandidates, hranking⟩ := h.ranked
  have hranked : rankCandidates .create .asGiven true (labRequest "shell.execute") lab.nodes =
      .ok [⟨⟨"lab", "codex", true, []⟩, 115⟩] := by decide +kernel
  obtain rfl := Except.ok.inj (hranked.symm.trans hcandidates)
  have heligible := (hranking.eligible _ (List.mem_singleton.mpr rfl) labNode (by simp [lab])
    labConnector rfl (by decide)).mp rfl
  exact heligible.2 ⟨⟨"mesh", false⟩, by decide, rfl⟩
    ⟨"shell.execute", by decide, by decide⟩

end Soundness

end JoyMesh.Runtime.RuntimeScheduler
