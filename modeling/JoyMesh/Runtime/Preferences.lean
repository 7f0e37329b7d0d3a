import JoyMesh.Runtime.Eligibility

namespace JoyMesh.Runtime.RuntimeScheduler

open Library Routing

section Preferences

variable (engine : PolicyEngine) (order : Iteration) (production : Bool)
  (request : RuntimeTaskRequest) (granted : List String) (nodes : List SchedulerNodeSnapshot)
  {listed : List String} {first second : String} {a b : RankedCandidate}

-- The eligible candidate of a connector of one of the nodes.
structure Places (node : SchedulerNodeSnapshot) (connectorId : String)
    (candidate : RankedCandidate) : Prop where
  known : node ∈ nodes
  ranked : ∃ connector, node.connectors.lookup connectorId = some connector ∧
    rankOne engine order production request granted node connectorId connector = .ok candidate
  eligible : candidate.eligible = true

structure SameLoad (first second : SchedulerNodeSnapshot) : Prop where
  concurrency : first.concurrency = second.concurrency
  queueDepth : first.queueDepth = second.queueDepth
  recentFailures : first.recentFailures = second.recentFailures

-- An item that is not listed has the index that follows the last one.
def Earlier (listed : List String) (first second : String) : Prop :=
  listed.idxOf first < listed.idxOf second

structure PreferredFirst (candidates : List RankedCandidate) : Prop where
  connectors : ∀ node first second a b,
    Places engine order production request granted nodes node first a →
    Places engine order production request granted nodes node second b →
    Earlier request.preferredConnectors first second → Precedes candidates a b
  nodes : ∀ node other connectorId a b,
    Places engine order production request granted nodes node connectorId a →
    Places engine order production request granted nodes other connectorId b →
    SameLoad node other → Earlier request.preferredNodes node.nodeId other.nodeId →
    Precedes candidates a b

-- The bonus of the listed item is used up, and the name does not help it.
def Late (bonus : Nat) (listed : List String) (first second : String) : Prop :=
  first ∈ listed ∧ second ∉ listed ∧
    (bonus < listed.idxOf first ∨ bonus = listed.idxOf first ∧ second < first)

-- The code's own gates.
def Open (node : SchedulerNodeSnapshot) (connectorId : String) : Prop :=
  node ∈ nodes ∧ ∃ connector, node.connectors.lookup connectorId = some connector ∧
    Admitted engine order production request granted node connectorId connector

def LateConnector : Prop :=
  ∃ node first second, Open engine order production request granted nodes node first ∧
    Open engine order production request granted nodes node second ∧
    Late 10 request.preferredConnectors first second

def LateNode : Prop :=
  ∃ node other connectorId, Open engine order production request granted nodes node connectorId ∧
    Open engine order production request granted nodes other connectorId ∧
    SameLoad node other ∧ Late 8 request.preferredNodes node.nodeId other.nodeId

-- Whenever the policy allows the request, the preferred ones are ranked first.
def Prefers : Prop :=
  ∀ base candidates, engine.evaluate order request = .ok base → base.allowed = true →
    rankCandidates engine order production request nodes = .ok candidates →
    PreferredFirst engine order production request base.grantedCapabilities nodes candidates

def LatePlace : Prop :=
  ∃ base, engine.evaluate order request = .ok base ∧ base.allowed = true ∧
    (LateConnector engine order production request base.grantedCapabilities nodes ∨
      LateNode engine order production request base.grantedCapabilities nodes)

variable {engine order production request granted nodes} {base : PolicyDecision}

def preference (most : Int) (preferred : List String) (item : String) : Int :=
  if item ∈ preferred then most - preferred.idxOf item else 0

theorem score_eq (node : SchedulerNodeSnapshot) (connectorId : String) :
    score request node connectorId =
      100 - node.concurrency * 2 - node.queueDepth - node.recentFailures * 3 +
        preference 10 request.preferredConnectors connectorId +
        preference 8 request.preferredNodes node.nodeId +
        if (placementFor node request.workspaceId).isSome then 15 else 0 := rfl

theorem Late.earlier {bonus : Nat} (h : Late bonus listed first second) :
    Earlier listed first second := by
  obtain ⟨hfirst, hsecond, -⟩ := h
  unfold Earlier
  rw [List.idxOf_eq_length hsecond]
  exact List.idxOf_lt_length_iff.mpr hfirst

-- The earlier one of two items has the greater bonus, or the same one and the smaller
-- name, unless its own is used up.
theorem preference_lt_iff {most : Nat} (h : Earlier listed first second) :
    (preference most listed second < preference most listed first ∨
      preference most listed second = preference most listed first ∧ first < second) ↔
      ¬Late most listed first second := by
  have hfirst : first ∈ listed :=
    List.idxOf_lt_length_iff.mp (lt_of_lt_of_le h List.idxOf_le_length)
  have hne : first ≠ second := fun hsame => lt_irrefl _ (hsame ▸ h)
  unfold Earlier at h
  unfold preference Late
  rw [if_pos hfirst]
  by_cases hsecond : second ∈ listed
  · rw [if_pos hsecond]
    refine iff_of_true (.inl (by omega)) fun hlate => hlate.2.1 hsecond
  · rw [if_neg hsecond]
    simp only [hfirst, hsecond, not_false_eq_true, true_and, not_or, not_and, not_lt]
    constructor
    · rintro (hlt | ⟨heq, hname⟩)
      · exact ⟨by omega, fun hsame => by omega⟩
      · exact ⟨by omega, fun _ => hname.le⟩
    · rintro ⟨hle, hname⟩
      rcases Nat.lt_or_eq_of_le hle with hlt | hsame
      · exact .inl (by omega)
      · exact .inr ⟨by omega, lt_of_le_of_ne (hname hsame.symm) hne⟩

theorem rankKey_eligible (ha : a.eligible = true) (hb : b.eligible = true) :
    rankKey a < rankKey b ↔ b.score < a.score ∨
      a.score = b.score ∧ (a.nodeId < b.nodeId ∨
        a.nodeId = b.nodeId ∧ a.connectorId < b.connectorId) := by
  simp only [rankKey, Prod.Lex.toLex_lt_toLex, Int.neg_lt_neg_iff, Int.neg_inj, ha, hb, lt_irrefl,
    false_or, true_and]

theorem rankKey_ne (h : namesOf a ≠ namesOf b) : rankKey a ≠ rankKey b := by
  intro hkey
  simp only [rankKey, EmbeddingLike.apply_eq_iff_eq, Prod.mk.injEq] at hkey
  exact h (Prod.ext hkey.2.2.1 hkey.2.2.2)

section Ranked

variable {candidates : List RankedCandidate} (h : engine.evaluate order request = .ok base)
  (hallowed : base.allowed = true)
  (hranked : rankCandidates engine order production request nodes = .ok candidates)
  {node other : SchedulerNodeSnapshot} {connectorId first second : String} {a b : RankedCandidate}

include h hallowed

-- A place of the ranking is an eligible candidate, and every open one is placed.
theorem places_ranks {candidate : RankedCandidate}
    (hplaces : Places engine order production request base.grantedCapabilities nodes node
      connectorId candidate) :
    Open engine order production request base.grantedCapabilities nodes node connectorId ∧
      candidate.nodeId = node.nodeId ∧ candidate.connectorId = connectorId ∧
      candidate.score = score request node connectorId := by
  obtain ⟨connector, hl, hone⟩ := hplaces.ranked
  obtain ⟨found, hfound, hranks⟩ := @rankOne_ranks engine order production request base node
    connectorId connector h hallowed
  obtain rfl := Except.ok.inj (hone.symm.trans hfound)
  refine ⟨⟨hplaces.known, connector, hl, hranks.eligible.mp hplaces.eligible⟩, hranks.ofNode,
    hranks.ofConnector, ?_⟩
  rw [hranks.scored, if_pos hplaces.eligible]

theorem open_places
    (hopen : Open engine order production request base.grantedCapabilities nodes node
      connectorId) :
    ∃ candidate, Places engine order production request base.grantedCapabilities nodes node
      connectorId candidate := by
  obtain ⟨hnode, connector, hl, hadmitted⟩ := hopen
  obtain ⟨found, hfound, hranks⟩ := @rankOne_ranks engine order production request base node
    connectorId connector h hallowed
  exact ⟨found, hnode, ⟨connector, hl, hfound⟩, hranks.eligible.mpr hadmitted⟩

include hranked

theorem places_precede
    (ha : Places engine order production request base.grantedCapabilities nodes node first a)
    (hb : Places engine order production request base.grantedCapabilities nodes other second b)
    (hne : (node.nodeId, first) ≠ (other.nodeId, second)) :
    Precedes candidates a b ↔
      score request other second < score request node first ∨
        score request node first = score request other second ∧ (node.nodeId < other.nodeId ∨
          node.nodeId = other.nodeId ∧ first < second) := by
  obtain ⟨place, hplace, hrank⟩ := rankCandidates_ranks order production h hallowed
  obtain rfl := Except.ok.inj ((hrank nodes).symm.trans hranked)
  obtain ⟨-, hanode, haconnector, hascore⟩ := places_ranks h hallowed ha
  obtain ⟨-, hbnode, hbconnector, hbscore⟩ := places_ranks h hallowed hb
  have hmem : ∀ {node connectorId candidate}, Places engine order production request
      base.grantedCapabilities nodes node connectorId candidate →
      candidate ∈ allPlaces place (sortedBy (fun a b => a.nodeId < b.nodeId) nodes) := by
    rintro node connectorId candidate ⟨hnode, ⟨connector, hl, hone⟩, -⟩
    refine mem_allPlaces.mpr ⟨node, mem_sortedBy.mpr hnode, (connectorId, connector), hl, ?_⟩
    exact Except.ok.inj ((hplace node (connectorId, connector)).1.symm.trans hone)
  have hnames : namesOf a ≠ namesOf b := by
    unfold namesOf
    rw [hanode, haconnector, hbnode, hbconnector]
    exact hne
  have hprecedes := ranked_precedes_iff (hmem ha) (hmem hb) (rankKey_ne hnames)
  unfold allPlaces at hprecedes
  rw [hprecedes, rankKey_eligible ha.eligible hb.eligible, hanode, haconnector, hascore, hbnode, hbconnector,
    hbscore]

theorem connectors_precede
    (ha : Places engine order production request base.grantedCapabilities nodes node first a)
    (hb : Places engine order production request base.grantedCapabilities nodes node second b)
    (hearlier : Earlier request.preferredConnectors first second) :
    Precedes candidates a b ↔ ¬Late 10 request.preferredConnectors first second := by
  have hne : (node.nodeId, first) ≠ (node.nodeId, second) := by
    intro hsame
    exact lt_irrefl _ ((Prod.mk.inj hsame).2 ▸ hearlier)
  rw [places_precede h hallowed hranked ha hb hne, ← preference_lt_iff hearlier, score_eq, score_eq]
  constructor
  · rintro (hlt | ⟨heq, hname⟩)
    · exact .inl (by push_cast; omega)
    · refine .inr ⟨by push_cast; omega, ?_⟩
      simpa using hname
  · rintro (hlt | ⟨heq, hname⟩)
    · exact .inl (by push_cast at hlt; omega)
    · exact .inr ⟨by push_cast at heq; omega, .inr ⟨rfl, hname⟩⟩

theorem nodes_precede
    (ha : Places engine order production request base.grantedCapabilities nodes node connectorId a)
    (hb : Places engine order production request base.grantedCapabilities nodes other connectorId b)
    (hload : SameLoad node other)
    (hearlier : Earlier request.preferredNodes node.nodeId other.nodeId) :
    Precedes candidates a b ↔ ¬Late 8 request.preferredNodes node.nodeId other.nodeId := by
  have hid : node.nodeId ≠ other.nodeId := fun hsame => lt_irrefl _ (hsame ▸ hearlier)
  have hplaced : ∀ {node candidate}, Places engine order production request
      base.grantedCapabilities nodes node connectorId candidate →
      (placementFor node request.workspaceId).isSome = true := by
    intro node candidate hplaces
    obtain ⟨⟨-, connector, -, hgates, -⟩, -⟩ := places_ranks h hallowed hplaces
    exact Option.isSome_iff_exists.mpr hgates.placed
  have hne : (node.nodeId, connectorId) ≠ (other.nodeId, connectorId) :=
    fun hsame => hid (Prod.mk.inj hsame).1
  rw [places_precede h hallowed hranked ha hb hne, ← preference_lt_iff hearlier, score_eq, score_eq,
    hplaced ha, hplaced hb, hload.concurrency, hload.queueDepth, hload.recentFailures]
  constructor
  · rintro (hlt | ⟨heq, hname⟩)
    · exact .inl (by push_cast; omega)
    · refine .inr ⟨by push_cast; omega, ?_⟩
      simpa [hid] using hname
  · rintro (hlt | ⟨heq, hname⟩)
    · exact .inl (by push_cast at hlt; omega)
    · exact .inr ⟨by push_cast at heq; omega, .inl hname⟩

theorem preferredFirst_iff :
    PreferredFirst engine order production request base.grantedCapabilities nodes candidates ↔
      ¬LateConnector engine order production request base.grantedCapabilities nodes ∧
        ¬LateNode engine order production request base.grantedCapabilities nodes := by
  constructor
  · intro hfirst
    constructor
    · rintro ⟨node, first, second, hopen, hother, hlate⟩
      obtain ⟨a, ha⟩ := open_places h hallowed hopen
      obtain ⟨b, hb⟩ := open_places h hallowed hother
      exact (connectors_precede h hallowed hranked ha hb hlate.earlier).mp
        (hfirst.connectors node first second a b ha hb hlate.earlier) hlate
    · rintro ⟨node, other, connectorId, hopen, hother, hload, hlate⟩
      obtain ⟨a, ha⟩ := open_places h hallowed hopen
      obtain ⟨b, hb⟩ := open_places h hallowed hother
      exact (nodes_precede h hallowed hranked ha hb hload hlate.earlier).mp
        (hfirst.nodes node other connectorId a b ha hb hload hlate.earlier) hlate
  · rintro ⟨hconnector, hnode⟩
    constructor
    · intro node first second a b ha hb hbefore
      rw [connectors_precede h hallowed hranked ha hb hbefore]
      exact fun hlate => hconnector ⟨node, first, second, (places_ranks h hallowed ha).1,
        (places_ranks h hallowed hb).1, hlate⟩
    · intro node other connectorId a b ha hb hload hbefore
      rw [nodes_precede h hallowed hranked ha hb hload hbefore]
      exact fun hlate => hnode ⟨node, other, connectorId, (places_ranks h hallowed ha).1,
        (places_ranks h hallowed hb).1, hload, hlate⟩

end Ranked

theorem prefers_iff : Prefers engine order production request nodes ↔
    ¬LatePlace engine order production request nodes := by
  constructor
  · rintro hprefers ⟨base, h, hallowed, hlate⟩
    obtain ⟨_, -, hrank⟩ := rankCandidates_ranks order production h hallowed
    obtain ⟨hconnector, hnode⟩ :=
      (preferredFirst_iff h hallowed (hrank nodes)).mp (hprefers base _ h hallowed (hrank nodes))
    exact hlate.elim hconnector hnode
  · intro hlate base candidates h hallowed hranked
    refine (preferredFirst_iff h hallowed hranked).mpr ⟨fun hconnector => ?_, fun hnode => ?_⟩
    · exact hlate ⟨base, h, hallowed, .inl hconnector⟩
    · exact hlate ⟨base, h, hallowed, .inr hnode⟩

end Preferences

end JoyMesh.Runtime.RuntimeScheduler
