import JoyMesh.Control.Admission

namespace JoyMesh.Control

open JoyMesh.Library
open JoyMesh.Lifecycle (ProtocolMessage text)

-- The key is that of the registration for which the websocket said hello, which was not
-- revoked then, and the challenge was issued to the node less than a minute before.
structure Establishment.Answers (verify : VerifyBytes) (issues : List Issue) (e : Establishment) :
    Prop where
  signed : verify e.challenge e.signature e.attempt.publicKey = .ok ()
  noted : e.session = sessionOf e.attempt e.toReply e.challenge
  opened : ∃ i ∈ issues, i.websocket = e.websocket ∧ i.message.nodeId = e.attempt.nodeId ∧
    i.node.publicKey = e.attempt.publicKey ∧ i.node.revokedAt = none
  recent : ∃ i ∈ issues, i.message.nodeId = e.attempt.nodeId ∧ i.challenge = e.challenge ∧
    i.now ≤ e.readings.checked ∧ e.readings.checked < i.now + 60000000

-- Two uses of one challenge lie five minutes apart.
def Establishment.Apart (later earlier : Establishment) : Prop :=
  later.challenge = earlier.challenge →
    earlier.readings.asked + 300000000 ≤ later.readings.consumed

-- The connection that an answer was given.
def Establishment.Made (e : Establishment) (nodeId : String) (b : BoundNodeConnection) : Prop :=
  e.attempt.nodeId = nodeId ∧ b.session = e.session ∧ b.websocket = e.websocket ∧
    b.nodePublicKey = e.attempt.publicKey ∧ b.organisationId = e.attempt.organisationId

namespace Gate

structure Proven (verify : VerifyBytes) (s : Gate) (h : Dialogue) : Prop where
  past : ∀ i ∈ h.issues, i.now ≤ s.clock
  greeted : ∀ websocket attempt, s.handlers.lookup websocket = some (.greeted attempt) →
    ∃ i ∈ h.issues, i.websocket = websocket ∧ i.message.nodeId = attempt.nodeId ∧
      i.node.publicKey = attempt.publicKey ∧ i.node.revokedAt = none
  challenged : ∀ nodeId stored, s.gateway.challenges.lookup nodeId = some stored →
    ∃ i ∈ h.issues, i.message.nodeId = nodeId ∧ i.challenge = stored.1 ∧
      stored.2 = i.now + 60000000
  answers : ∀ e ∈ h.established, e.Answers verify h.issues
  spent : ∀ e ∈ h.established, e.readings.asked + 300000000 ≤ s.clock ∨
    s.gateway.challengeNonces.lookup e.challenge = some (e.readings.asked + 300000000)
  apart : h.established.Pairwise Establishment.Apart
  connected : ∀ nodeId b, s.gateway.connections.lookup nodeId = some b →
    s.handlers.lookup b.websocket = some (.bound nodeId) ∧ ∃ e ∈ h.established, e.Made nodeId b

variable {verify : VerifyBytes} {s t u : Gate} {label : GateLabel} {h : Dialogue}
  {nodeId : String} {node : NodeRegistration} {now : Time} {b : BoundNodeConnection}
  {before after : List GateLabel}

theorem Proven.quiet (hproven : Proven verify s h) (hquiet : Quiet s label t) :
    Proven verify t h where
  past := fun i hi => Int.le_trans (hproven.past i hi) hquiet.clock
  greeted := fun websocket attempt hg => hproven.greeted _ _ (hquiet.greeted websocket attempt hg)
  challenged := fun nodeId stored hc =>
    hproven.challenged _ _ (hquiet.spent.challenges nodeId stored hc)
  answers := hproven.answers
  spent := fun e he => hquiet.spent.known hquiet.clock (hproven.spent e he)
  apart := hproven.apart
  connected := fun nodeId b hb => by
    have hold := hproven.connected nodeId b (hquiet.connections nodeId b hb)
    exact ⟨hquiet.bound nodeId b hb hold.1, hold.2⟩

theorem Proven.greet {greeting : Greeting} {node : NodeRegistration} (hproven : Proven verify s h)
    (hnow : s.clock ≤ greeting.now) (hnew : s.handlers.lookup greeting.websocket = none)
    (hlasting : node.revokedAt = none) :
    Proven verify (s.greet greeting node)
      { h with issues := ⟨greeting, node⟩ :: h.issues } where
  past := List.forall_mem_cons.mpr
    ⟨Int.le_refl _, fun i hi => Int.le_trans (hproven.past i hi) hnow⟩
  greeted := fun other attempt hg => by
    rcases Table.lookup_insert_cases hg with ⟨rfl, he⟩ | ⟨-, hg⟩
    · obtain rfl := Handler.greeted.inj he
      exact ⟨_, List.mem_cons_self, rfl, rfl, rfl, hlasting⟩
    · obtain ⟨i, hi, hopened⟩ := hproven.greeted other attempt hg
      exact ⟨i, List.mem_cons_of_mem _ hi, hopened⟩
  challenged := fun other stored hc => by
    rcases Table.lookup_insert_cases hc with ⟨rfl, rfl⟩ | ⟨-, hc⟩
    · exact ⟨_, List.mem_cons_self, rfl, rfl, rfl⟩
    · obtain ⟨i, hi, hissued⟩ := hproven.challenged other stored hc
      exact ⟨i, List.mem_cons_of_mem _ hi, hissued⟩
  answers := fun e he => by
    obtain ⟨hsigned, hnoted, ⟨i, hi, hopened⟩, j, hj, hrecent⟩ := hproven.answers e he
    exact ⟨hsigned, hnoted, ⟨i, List.mem_cons_of_mem _ hi, hopened⟩,
      j, List.mem_cons_of_mem _ hj, hrecent⟩
  spent := fun e he => (hproven.spent e he).imp_left fun hold => Int.le_trans hold hnow
  apart := hproven.apart
  connected := fun other b hb => by
    have hold := hproven.connected other b hb
    exact ⟨insert_bound hold.1 (by simp [hnew]), hold.2⟩

theorem Proven.serve {reply : Reply} {attempt : Attempt} {expiresAt : Time}
    {challenges : Table String (String × Time)} {nonces : NonceStore}
    (hproven : Proven verify s h) (hread : reply.readings.Follow s.clock)
    (hgreeted : s.handlers.lookup reply.websocket = some (.greeted attempt))
    (hspent : Spent s.gateway reply.readings.consumed challenges nonces)
    (htaken : Taken verify s.gateway attempt reply expiresAt nonces) :
    Proven verify (s.serve reply.websocket attempt.nodeId
        ((s.gateway.spend challenges nonces).bind attempt reply reply.challenge)
        reply.readings.seen)
      { h with established :=
          ⟨reply, attempt, sessionOf attempt reply reply.challenge⟩ :: h.established } := by
  obtain ⟨hclock, hlater⟩ := hread.consumed_le
  refine ⟨fun i hi => Int.le_trans (hproven.past i hi) (Int.le_trans hclock hlater),
    fun other found hg => hproven.greeted other found (lookup_of_insert (by simp) hg),
    fun other stored hc => hproven.challenged other stored (hspent.challenges other stored hc),
    List.forall_mem_cons.mpr ⟨⟨htaken.signed, rfl, hproven.greeted _ attempt hgreeted, ?_⟩,
      hproven.answers⟩,
    List.forall_mem_cons.mpr ⟨.inr htaken.noted, fun e he => ?_⟩,
    List.pairwise_cons.mpr ⟨fun e he hsame => ?_, hproven.apart⟩, fun other b hb => ?_⟩
  · obtain ⟨i, hi, hnode, hsame, hexpires⟩ := hproven.challenged _ _ htaken.stored
    exact ⟨i, hi, hnode, hsame, Int.le_trans (hproven.past i hi) hread.1,
      hexpires ▸ htaken.lasting⟩
  · exact (hspent.later hlater).known (Int.le_trans hclock hlater) (hproven.spent e he)
  · rcases hproven.spent e he with hold | hkept
    · exact Int.le_trans hold hclock
    · have hsame : reply.challenge = e.challenge := hsame
      exact htaken.unused _ (hsame ▸ hkept)
  · rcases Table.lookup_insert_cases hb with ⟨rfl, rfl⟩ | ⟨-, hb⟩
    · exact ⟨AList.lookup_insert _, _, List.mem_cons_self, rfl, rfl, rfl, rfl, rfl⟩
    · obtain ⟨hbound, e, he, hmade⟩ := hproven.connected other b hb
      exact ⟨insert_bound hbound (by simp [hgreeted]), e, List.mem_cons_of_mem _ he, hmade⟩

theorem Proven.step {after : Dialogue} (hproven : Proven verify s h)
    (hstep : watched (step verify) (note verify) (s, h) label = some (t, after)) :
    Proven verify t after := by
  obtain ⟨hstep, rfl⟩ := watched_eq_some hstep
  have hmoved : Moved verify s label t := step_cases hstep
  cases hmoved with
  | quiet hquiet hsame => exact (hsame h).symm ▸ hproven.quiet hquiet
  | greeted node hnow hnew htype hnode hlasting =>
      simpa [note, hnode, htype, hlasting] using hproven.greet hnow hnew hlasting
  | admitted attempt expiresAt challenges nonces hread hgreeted hsession hspent htaken =>
      simpa [note, hsession] using hproven.serve hread hgreeted hspent htaken

theorem reached_proven
    (hr : run (watched (step verify) (note verify)) ({}, {}) before = some (t, h)) :
    Proven verify t h := by
  let inv : Gate × Dialogue → Prop := fun s => Proven verify s.1 s.2
  have hstep : ∀ s label t, inv s → watched (step verify) (note verify) s label = some t → inv t :=
    fun _ _ _ hs ht => Proven.step hs ht
  have hinitial : inv ({}, {}) := ⟨by simp, by simp, by simp, by simp, by simp, .nil, by simp⟩
  have hreached : inv (t, h) := run_keeps hstep hinitial hr
  exact hreached

theorem exists_proven (hr : run (step verify) {} before = some s) : ∃ h, Proven verify s h := by
  have hwatched : ∃ h, run (watched (step verify) (note verify)) ({}, {}) before = some (s, h) :=
    run_watched hr
  obtain ⟨h, hr⟩ := hwatched
  exact ⟨h, reached_proven hr⟩

-- A node whose first connection is revoked while its second websocket authenticates.
def sampleNode : NodeRegistration := ⟨"n", "o", "w", "n", "k", "i", "p", "1", 0, none⟩

def sampleVerify : VerifyBytes := fun challenge signature publicKey =>
  if signature = publicKey ++ challenge then .ok () else .error ⟨"InvalidSignature", ""⟩

def sampleHello (websocket : Nat) (challenge : String) (now : Time) : GateLabel :=
  .hello ⟨websocket, ⟨.hello, "n", ∅⟩, none, challenge, now⟩

def sampleAnswer (websocket : Nat) (challenge : String) (now : Time) : GateLabel :=
  .answer ⟨"n", "o", "k", "1", none⟩ ⟨websocket, ⟨.authenticate, "n",
    Mapping.ofList [("challenge", .str challenge), ("signature", .str ("k" ++ challenge))]⟩,
    ⟨now, now, now, now, now⟩, "s" ++ challenge⟩

def sampleBefore : List GateLabel :=
  [.register sampleNode, sampleHello 0 "a" 0, sampleAnswer 0 "a" 1, sampleHello 1 "b" 2]

def sampleBegun : Gate × Dialogue :=
  (run (watched (step sampleVerify) (note sampleVerify)) ({}, {}) sampleBefore).getD ({}, {})

theorem sample_begun :
    run (watched (step sampleVerify) (note sampleVerify)) ({}, {}) sampleBefore =
      some sampleBegun := rfl

theorem online_proven
    (hr : run (watched (step verify) (note verify)) ({}, {}) before = some (t, h))
    (honline : nodeId ∈ t.gateway.onlineNodeIds) :
    ∃ b, t.gateway.connections.lookup nodeId = some b ∧
      t.handlers.lookup b.websocket = some (.bound nodeId) ∧
      ∃ e ∈ h.established, e.Made nodeId b ∧ e.Answers verify h.issues := by
  have hproven := reached_proven hr
  obtain ⟨⟨_, b⟩, hentry, rfl⟩ := List.mem_map.mp honline
  have hb := AList.mem_lookup_iff.mpr (List.mem_filter.mp hentry).1
  obtain ⟨hbound, e, he, hmade⟩ := hproven.connected _ b hb
  exact ⟨b, hb, hbound, e, he, hmade, hproven.answers e he⟩

theorem online_proven_begun : ∃ b, sampleBegun.1.gateway.connections.lookup "n" = some b ∧
    sampleBegun.1.handlers.lookup b.websocket = some (.bound "n") ∧
    ∃ e ∈ sampleBegun.2.established, e.Made "n" b ∧ e.Answers sampleVerify sampleBegun.2.issues :=
  online_proven sample_begun (by decide)

-- Nothing is asked of the challenges: the same one may be drawn again and again.
theorem challenges_apart
    (hr : run (watched (step verify) (note verify)) ({}, {}) before = some (t, h)) :
    h.established.Pairwise Establishment.Apart :=
  (reached_proven hr).apart

-- The challenge "a" is drawn and answered once more, after it was pruned.
def sampleRedrawn : List GateLabel :=
  sampleBefore ++ [.closed 1 "n" 3, sampleHello 2 "a" 400000000, sampleAnswer 2 "a" 400000001]

theorem sample_redrawn : (run (watched (step sampleVerify) (note sampleVerify)) ({}, {})
    sampleRedrawn).map (fun s => s.2.established.map fun e => (e.challenge, e.websocket)) =
      some [("a", 2), ("a", 0)] := rfl

theorem challenges_apart_redrawn :
    ∃ s, run (watched (step sampleVerify) (note sampleVerify)) ({}, {}) sampleRedrawn = some s ∧
      s.2.established.map (fun e => (e.challenge, e.websocket)) = [("a", 2), ("a", 0)] ∧
        s.2.established.Pairwise Establishment.Apart := by
  obtain ⟨s, hr, hestablished⟩ := Option.map_eq_some_iff.mp sample_redrawn
  exact ⟨s, hr, hestablished, challenges_apart hr⟩

-- The end of a websocket that was replaced does not touch the connection that replaced it.
theorem connection_displaced (hr : run (step verify) {} before = some s)
    (hb : s.gateway.connections.lookup nodeId = some b)
    (hafter : run (step verify) s after = some t)
    (hgone : t.gateway.connections.lookup nodeId ≠ some b) :
    ∃ first label rest u v, after = first ++ label :: rest ∧
      run (step verify) s first = some u ∧ step verify u label = some v ∧
      u.gateway.connections.lookup nodeId = some b ∧
      ((∃ now, label = .closed b.websocket nodeId now) ∨
        (∃ now, label = .revoked nodeId b.websocket now) ∨
        ∃ newer, v.gateway.connections.lookup nodeId = some newer ∧
          newer.websocket ≠ b.websocket) := by
  have hturns : ∃ first label rest u v, after = first ++ label :: rest ∧
      run (step verify) s first = some u ∧ step verify u label = some v ∧
      ¬u.gateway.connections.lookup nodeId ≠ some b ∧ v.gateway.connections.lookup nodeId ≠ some b :=
    run_turns hafter hgone (not_not.mpr hb)
  obtain ⟨first, label, rest, u, v, he, hfirst, hstep, hhere, hlost⟩ := hturns
  have hhere := not_not.mp hhere
  refine ⟨first, label, rest, u, v, he, hfirst, hstep, hhere, ?_⟩
  have hreached : run (step verify) {} (before ++ first) = some u := by
    rw [run_append, hr]
    exact hfirst
  obtain ⟨h, hproven⟩ := exists_proven hreached
  have hbound := (hproven.connected nodeId b hhere).1
  have hmoved : Moved verify u label v := step_cases hstep
  cases hmoved with
  | quiet hquiet _ => exact (hquiet.lost nodeId b hhere hbound).resolve_left hlost |>.imp_right .inl
  | greeted node _ _ _ _ _ => exact absurd hhere hlost
  | @admitted reply attempt _ _ _ _ hgreeted _ _ _ =>
      by_cases hnode : nodeId = attempt.nodeId
      · subst hnode
        refine .inr (.inr ⟨_, AList.lookup_insert _, fun hw => ?_⟩)
        have hw : reply.websocket = b.websocket := hw
        exact absurd (hgreeted.symm.trans (hw ▸ hbound)) (by simp)
      · exact absurd ((AList.lookup_insert_ne hnode).trans hhere) hlost

def sampleConnection (websocket : Nat) (challenge : String) (now : Time) : BoundNodeConnection :=
  ⟨⟨"s" ++ challenge, "n", "o", now, now, "1", none, "online", some challenge⟩, websocket, "k", "o"⟩

theorem sample_run : run (step sampleVerify) {} sampleBefore = some sampleBegun.1 := rfl

theorem sample_found : sampleBegun.1.gateway.connections.lookup "n" =
    some (sampleConnection 0 "a" 1) := by decide

def sampleAfter : List GateLabel := [.revoked "n" 0 4, sampleAnswer 1 "b" 5]

def sampleEnded : Gate :=
  (run (step sampleVerify) (sampleBegun.1.revoke "n" sampleNode 3) sampleAfter).getD {}

theorem sample_ended : run (step sampleVerify) (sampleBegun.1.revoke "n" sampleNode 3)
    sampleAfter = some sampleEnded := rfl

theorem sample_bound : sampleEnded.gateway.connections.lookup "n" =
    some (sampleConnection 1 "b" 5) := by decide

theorem connection_displaced_sample : ∃ first label rest u v,
    .revoke "n" sampleNode 3 :: sampleAfter = first ++ label :: rest ∧
      run (step sampleVerify) sampleBegun.1 first = some u ∧ step sampleVerify u label = some v ∧
      u.gateway.connections.lookup "n" = some (sampleConnection 0 "a" 1) ∧
      ((∃ now, label = .closed 0 "n" now) ∨ (∃ now, label = .revoked "n" 0 now) ∨
        ∃ newer, v.gateway.connections.lookup "n" = some newer ∧ newer.websocket ≠ 0) := by
  have hafter : run (step sampleVerify) sampleBegun.1
      (.revoke "n" sampleNode 3 :: sampleAfter) = some sampleEnded := rfl
  exact connection_displaced sample_run sample_found hafter (by rw [sample_bound]; decide)

-- What is left of a node that was revoked in a state: the handlers that were greeted by
-- then, and the connections that came of them or that are of the old ones.
structure Barred (s : Gate) (nodeId : String) (old : BoundNodeConnection → Prop) (u : Gate) :
    Prop where
  nodes : ∀ node, u.nodes.lookup nodeId = some node → node.revokedAt ≠ none
  greeted : ∀ websocket attempt, u.handlers.lookup websocket = some (.greeted attempt) →
    attempt.nodeId = nodeId → s.handlers.lookup websocket = some (.greeted attempt)
  connections : ∀ b, u.gateway.connections.lookup nodeId = some b →
    (∃ attempt, s.handlers.lookup b.websocket = some (.greeted attempt) ∧
      attempt.nodeId = nodeId) ∨ old b

theorem Barred.after_step {old : BoundNodeConnection → Prop} (hbarred : Barred s nodeId old t)
    (hkept : ∀ node, label = .register node → node.id = nodeId → node.revokedAt ≠ none)
    (hstep : step verify t label = some u) : Barred s nodeId old u := by
  have hmoved : Moved verify t label u := step_cases hstep
  cases hmoved with
  | quiet hquiet _ =>
      refine ⟨fun node hnode hlasting => ?_, fun websocket attempt hg =>
        hbarred.greeted _ _ (hquiet.greeted websocket attempt hg),
        fun b hb => hbarred.connections b (hquiet.connections nodeId b hb)⟩
      rcases hquiet.nodes nodeId node hnode hlasting with hold | ⟨hid, hlabel⟩
      · exact hbarred.nodes node hold hlasting
      · exact hkept node hlabel hid hlasting
  | greeted node _ _ _ hnode hlasting =>
      refine ⟨hbarred.nodes, fun websocket attempt hg hid => ?_, hbarred.connections⟩
      rcases Table.lookup_insert_cases hg with ⟨-, he⟩ | ⟨-, hg⟩
      · obtain rfl := Handler.greeted.inj he
        exact absurd hlasting (hbarred.nodes node (hid ▸ hnode))
      · exact hbarred.greeted websocket attempt hg hid
  | admitted attempt _ _ _ _ hgreeted _ _ _ =>
      refine ⟨hbarred.nodes, fun websocket other hg =>
        hbarred.greeted websocket other (lookup_of_insert (by simp) hg), fun b hb => ?_⟩
      rcases Table.lookup_insert_cases hb with ⟨hid, rfl⟩ | ⟨-, hb⟩
      · exact .inl ⟨attempt, hbarred.greeted _ attempt hgreeted hid.symm, hid.symm⟩
      · exact hbarred.connections b hb

theorem Barred.after_run {old : BoundNodeConnection → Prop} (hbarred : Barred s nodeId old t)
    (hkept : ∀ node, .register node ∈ after → node.id = nodeId → node.revokedAt ≠ none)
    (hafter : run (step verify) t after = some u) : Barred s nodeId old u := by
  refine run_invariant (fun _ _ _ hb hc ht => Barred.after_step hb hc ht) hbarred
    (along_iff_forall.mpr fun _ label _ _ he _ node hlabel => ?_) hafter
  exact hkept node (by simp [he, hlabel])

theorem connections_of_revoke (hs : step verify s (.revoke nodeId node now) = some t)
    (hafter : run (step verify) t after = some u)
    (hkept : ∀ node, .register node ∈ after → node.id = nodeId → node.revokedAt ≠ none)
    (hb : u.gateway.connections.lookup nodeId = some b) :
    (∃ attempt, s.handlers.lookup b.websocket = some (.greeted attempt) ∧
        attempt.nodeId = nodeId) ∨
      s.gateway.connections.lookup nodeId = some b ∧
        ∀ now, .revoked nodeId b.websocket now ∉ after := by
  simp only [step, Option.ite_none_right_eq_some, Option.some.injEq] at hs
  obtain ⟨-, rfl⟩ := hs
  have hbarred : Barred s nodeId (fun b => s.gateway.connections.lookup nodeId = some b)
      (s.revoke nodeId node now) :=
    ⟨fun found hfound => by
      obtain rfl := Option.some.inj ((AList.lookup_insert _).symm.trans hfound)
      simp, fun _ _ hg _ => hg, fun _ hb => .inr hb⟩
  rcases (hbarred.after_run hkept hafter).connections b hb with hgreeted | hold
  · exact .inl hgreeted
  by_cases hdone : ∃ now, .revoked nodeId b.websocket now ∈ after
  case neg => exact .inr ⟨hold, fun now hmem => hdone ⟨now, hmem⟩⟩
  obtain ⟨later, hdone⟩ := hdone
  obtain ⟨first, rest, rfl⟩ := List.append_of_mem hdone
  rw [run_append] at hafter
  obtain ⟨v, hfirst, hafter⟩ := Option.bind_eq_some_iff.mp hafter
  rw [run_cons] at hafter
  obtain ⟨w, hstep, hrest⟩ := Option.bind_eq_some_iff.mp hafter
  have hv := hbarred.after_run (fun node hnode => hkept node (by simp [hnode])) hfirst
  have hw := hv.after_step (by simp) hstep
  have hcut : Barred s nodeId (fun _ => False) w := by
    refine ⟨hw.nodes, hw.greeted, fun found hfound => ?_⟩
    rcases hw.connections found hfound with hgreeted | hsame
    · exact .inl hgreeted
    · obtain rfl := Option.some.inj (hold.symm.trans hsame)
      simp only [step, Option.ite_none_right_eq_some, Option.some.injEq] at hstep
      obtain ⟨-, rfl⟩ := hstep
      exact absurd ⟨rfl, rfl⟩ (NodeGateway.lookup_disconnect.mp hfound).2
  exact .inl (((hcut.after_run (fun node hnode => hkept node (by simp [hnode])) hrest).connections b
    hb).resolve_right id)

-- A revocation reaches the connection that it finds, and not the handlers that wait for
-- the answer to their challenge.
theorem revoked_connections (hs : step verify s (.revoke nodeId node now) = some t)
    (hafter : run (step verify) t after = some u)
    (hkept : ∀ node, .register node ∈ after → node.id = nodeId → node.revokedAt ≠ none)
    (hb : u.gateway.connections.lookup nodeId = some b) :
    (∃ attempt, s.handlers.lookup b.websocket = some (.greeted attempt) ∧
        attempt.nodeId = nodeId) ∨
      s.gateway.connections.lookup nodeId = some b ∧
        ∀ now, .revoked nodeId b.websocket now ∉ after :=
  connections_of_revoke hs hafter hkept hb

theorem revoked_connections_waiting :
    (∃ attempt, sampleBegun.1.handlers.lookup 1 = some (.greeted attempt) ∧ attempt.nodeId = "n") ∨
      sampleBegun.1.gateway.connections.lookup "n" = some (sampleConnection 1 "b" 5) ∧
        ∀ now, .revoked "n" 1 now ∉ sampleAfter := by
  have hrevoke : step sampleVerify sampleBegun.1 (.revoke "n" sampleNode 3) =
      some (sampleBegun.1.revoke "n" sampleNode 3) := rfl
  exact revoked_connections hrevoke sample_ended (by simp [sampleAfter, sampleAnswer]) sample_bound

-- So no websocket that says hello after the revocation is ever connected.
theorem unconnected_of_revoke {websocket : Nat} (hr : run (step verify) {} before = some s)
    (hs : step verify s (.revoke nodeId node now) = some t)
    (hafter : run (step verify) t after = some u)
    (hkept : ∀ node, .register node ∈ after → node.id = nodeId → node.revokedAt ≠ none)
    (hnew : s.handlers.lookup websocket = none)
    (hb : u.gateway.connections.lookup nodeId = some b) : b.websocket ≠ websocket := by
  rintro rfl
  rcases connections_of_revoke hs hafter hkept hb with ⟨attempt, hgreeted, -⟩ | ⟨hold, -⟩
  · rw [hnew] at hgreeted
    cases hgreeted
  · obtain ⟨h, hproven⟩ := exists_proven hr
    have hbound := (hproven.connected nodeId b hold).1
    rw [hnew] at hbound
    cases hbound

end Gate

end JoyMesh.Control
