import JoyMesh.Control.Gateway

namespace JoyMesh.Control

open JoyMesh.Library
open JoyMesh.Lifecycle (ProtocolMessage text)

namespace NonceStore

variable {store : NonceStore} {now expiresAt expiry : Time} {nonce other : String}

theorem consume_keeps (h : store.lookup other = some expiry) (hlive : now < expiry) :
    (store.consume now nonce expiresAt).2.lookup other = some expiry := by
  have hseen : (store.keep fun expiry => decide (now < expiry)).lookup other = some expiry := by
    rw [Table.lookup_keep, h]
    simp [hlive]
  cases hnonce : (store.keep fun expiry => decide (now < expiry)).lookup nonce with
  | some _ => simpa only [consume, hnonce] using hseen
  | none =>
      have hne : other ≠ nonce := by
        rintro rfl
        simp [hseen] at hnonce
      simpa only [consume, hnonce, AList.lookup_insert_ne hne] using hseen

theorem consume_taken (h : (store.consume now nonce expiresAt).1 = .ok ()) :
    (store.consume now nonce expiresAt).2.lookup nonce = some expiresAt ∧
      ∀ expiry, store.lookup nonce = some expiry → expiry ≤ now := by
  cases hnonce : (store.keep fun expiry => decide (now < expiry)).lookup nonce with
  | some _ => simp [consume, hnonce] at h
  | none =>
      refine ⟨by simp only [consume, hnonce, AList.lookup_insert], fun expiry hlookup => ?_⟩
      rw [Table.lookup_keep, hlookup] at hnonce
      simpa using hnonce

end NonceStore

namespace NodeGateway

variable {g : NodeGateway} {nodeId other : String} {websocket : Nat} {now : Time}
  {b : BoundNodeConnection} {record : NodeSession} {sessionId : String}

theorem disconnect_cases (g : NodeGateway) (nodeId : String) (websocket : Nat) (now : Time) :
    (∀ b, g.connections.lookup nodeId = some b → b.websocket ≠ websocket) ∧
      g.disconnect nodeId (some websocket) now = g ∨
    ∃ b, g.connections.lookup nodeId = some b ∧ b.websocket = websocket ∧
      g.disconnect nodeId (some websocket) now = { g with
        sessions := g.sessions.insert b.session.sessionId
          { b.session with status := "offline", lastSeenAt := now }
        connections := g.connections.erase nodeId } := by
  cases hb : g.connections.lookup nodeId with
  | none => exact .inl ⟨by simp, by simp only [disconnect, hb]⟩
  | some b =>
      by_cases hw : b.websocket = websocket
      · exact .inr ⟨b, rfl, hw, by simp [disconnect, hb, hw]⟩
      · refine .inl ⟨fun other hother => Option.some.inj hother ▸ hw, ?_⟩
        simp [disconnect, hb, Ne.symm hw]

-- Only the connection of the node that has the websocket goes.
theorem lookup_disconnect :
    (g.disconnect nodeId (some websocket) now).connections.lookup other = some b ↔
      g.connections.lookup other = some b ∧ ¬(other = nodeId ∧ b.websocket = websocket) := by
  rcases disconnect_cases g nodeId websocket now with ⟨hne, he⟩ | ⟨current, hcurrent, hw, he⟩ <;> rw [he]
  · refine ⟨fun h => ⟨h, ?_⟩, And.left⟩
    rintro ⟨rfl, hw⟩
    exact hne b h hw
  · by_cases hother : other = nodeId
    · subst hother
      rw [AList.lookup_erase, hcurrent]
      refine ⟨fun h => by simp at h, fun ⟨h, hnot⟩ => absurd ⟨rfl, ?_⟩ hnot⟩
      exact Option.some.inj h ▸ hw
    · rw [AList.lookup_erase_ne hother]
      simp [hother]

@[simp] theorem disconnect_challenges :
    (g.disconnect nodeId (some websocket) now).challenges = g.challenges := by
  rcases disconnect_cases g nodeId websocket now with ⟨-, he⟩ | ⟨_, -, -, he⟩ <;> rw [he]

@[simp] theorem disconnect_challengeNonces :
    (g.disconnect nodeId (some websocket) now).challengeNonces = g.challengeNonces := by
  rcases disconnect_cases g nodeId websocket now with ⟨-, he⟩ | ⟨_, -, -, he⟩ <;> rw [he]

end NodeGateway

variable {clock now : Time} {g : NodeGateway} {challenges : Table String (String × Time)}
  {nonces : NonceStore}

theorem Readings.Follow.consumed_le {readings : Readings} (h : readings.Follow clock) :
    clock ≤ readings.consumed ∧ readings.consumed ≤ readings.seen := by
  obtain ⟨hchecked, hasked, hconsumed, hconnected, hseen⟩ := h
  exact ⟨Int.le_trans hchecked (Int.le_trans hasked hconsumed), Int.le_trans hconnected hseen⟩

-- Challenges may go, and nonces that have expired.
structure Spent (g : NodeGateway) (now : Time) (challenges : Table String (String × Time))
    (nonces : NonceStore) : Prop where
  challenges : ∀ nodeId stored, challenges.lookup nodeId = some stored →
    g.challenges.lookup nodeId = some stored
  nonces : ∀ nonce expiry, g.challengeNonces.lookup nonce = some expiry → now < expiry →
    nonces.lookup nonce = some expiry

theorem Spent.refl (g : NodeGateway) (now : Time) : Spent g now g.challenges g.challengeNonces :=
  ⟨fun _ _ h => h, fun _ _ h _ => h⟩

theorem Spent.later {later : Time} (h : Spent g now challenges nonces) (hlater : now ≤ later) :
    Spent g later challenges nonces :=
  ⟨h.challenges, fun nonce expiry hfound hlive =>
    h.nonces nonce expiry hfound (Int.lt_of_le_of_lt hlater hlive)⟩

-- A use is known until it has expired.
theorem Spent.known {expiry : Time} {nonce : String} (h : Spent g now challenges nonces)
    (hnow : clock ≤ now) (hknown : expiry ≤ clock ∨ g.challengeNonces.lookup nonce = some expiry) :
    expiry ≤ now ∨ nonces.lookup nonce = some expiry := by
  rcases hknown with hold | hfound
  · exact .inl (Int.le_trans hold hnow)
  · by_cases hlive : now < expiry
    · exact .inr (h.nonces nonce expiry hfound hlive)
    · exact .inl (Int.not_lt.mp hlive)

-- An answer that is taken: the challenge is the node's own, it has not expired, it was
-- not used within the time for which uses are remembered, and it is signed.
structure Taken (verify : VerifyBytes) (g : NodeGateway) (attempt : Attempt) (reply : Reply)
    (expiresAt : Time) (nonces : NonceStore) : Prop where
  stored : g.challenges.lookup attempt.nodeId = some (reply.challenge, expiresAt)
  lasting : reply.readings.checked < expiresAt
  signed : verify reply.challenge reply.signature attempt.publicKey = .ok ()
  unused : ∀ expiry, g.challengeNonces.lookup reply.challenge = some expiry →
    expiry ≤ reply.readings.consumed
  noted : nonces.lookup reply.challenge = some (reply.readings.asked + 300000000)

theorem establish_cases (verify : VerifyBytes) (g : NodeGateway) (attempt : Attempt)
    (reply : Reply) : ∃ challenges nonces, Spent g reply.readings.consumed challenges nonces ∧
    ((∃ error, g.establish verify attempt reply = (.error error, g.spend challenges nonces)) ∨
      ∃ expiresAt, Taken verify g attempt reply expiresAt nonces ∧
        g.establish verify attempt reply = (.ok (sessionOf attempt reply reply.challenge),
          (g.spend challenges nonces).bind attempt reply reply.challenge)) := by
  have hkept := Spent.refl g reply.readings.consumed
  have hpopped : ∀ nodeId stored, (g.challenges.erase attempt.nodeId).lookup nodeId = some stored →
      g.challenges.lookup nodeId = some stored := by
    intro nodeId stored h
    by_cases hn : nodeId = attempt.nodeId
    · subst hn
      simp at h
    · rwa [AList.lookup_erase_ne hn] at h
  unfold NodeGateway.establish
  by_cases htype : reply.message.type = .authenticate
  case neg => exact ⟨_, _, hkept, .inl ⟨_, by rw [if_pos htype]⟩⟩
  by_cases hnode : reply.message.nodeId = attempt.nodeId
  case neg => exact ⟨_, _, hkept, .inl ⟨_, by rw [if_neg (not_not.mpr htype), if_pos hnode]⟩⟩
  rw [if_neg (not_not.mpr htype), if_neg (not_not.mpr hnode)]
  cases hstored : g.challenges.lookup attempt.nodeId with
  | none => exact ⟨_, _, ⟨hpopped, hkept.nonces⟩, .inl ⟨_, rfl⟩⟩
  | some stored =>
      obtain ⟨challenge, expiresAt⟩ := stored
      dsimp only
      by_cases hexpired : expiresAt ≤ reply.readings.checked
      · exact ⟨_, _, ⟨hpopped, hkept.nonces⟩, .inl ⟨_, by rw [if_pos hexpired]⟩⟩
      by_cases hsupplied : reply.challenge = challenge
      case neg =>
        exact ⟨_, _, ⟨hpopped, hkept.nonces⟩, .inl ⟨_, by rw [if_neg hexpired, if_pos hsupplied]⟩⟩
      subst hsupplied
      rw [if_neg hexpired, if_neg (not_not.mpr rfl)]
      have hspent : Spent g reply.readings.consumed (g.challenges.erase attempt.nodeId)
          (g.challengeNonces.consume reply.readings.consumed reply.challenge
            (reply.readings.asked + 300000000)).2 :=
        ⟨hpopped, fun _ _ h hlive => NonceStore.consume_keeps h hlive⟩
      cases hconsume : g.challengeNonces.consume reply.readings.consumed reply.challenge
          (reply.readings.asked + 300000000) with
      | mk outcome nonces =>
          rw [hconsume] at hspent
          cases outcome with
          | error error => exact ⟨_, _, hspent, .inl ⟨error, rfl⟩⟩
          | ok =>
              have htaken := NonceStore.consume_taken (congrArg Prod.fst hconsume)
              rw [hconsume] at htaken
              dsimp only
              cases hverify : verify reply.challenge reply.signature attempt.publicKey with
              | error error => exact ⟨_, _, hspent, .inl ⟨error, rfl⟩⟩
              | ok => exact ⟨_, _, hspent, .inr ⟨expiresAt, ⟨hstored, Int.not_le.mp hexpired,
                  hverify, htaken.2, htaken.1⟩, rfl⟩⟩

-- A challenge that was issued, with the registration that was read for it.
structure Issue extends Greeting where
  node : NodeRegistration
deriving DecidableEq

-- A session that was established, with the attempt and the answer that it came of.
structure Establishment extends Reply where
  attempt : Attempt
  session : NodeSession
deriving DecidableEq

structure Dialogue where
  issues : List Issue := []
  established : List Establishment := []

namespace Gate

def note (verify : VerifyBytes) (h : Dialogue) (s : Gate) : GateLabel → Dialogue
  | .hello greeting =>
      match s.nodes.lookup greeting.message.nodeId with
      | some node =>
          if greeting.message.type = .hello ∧ node.revokedAt = none then
            { h with issues := ⟨greeting, node⟩ :: h.issues }
          else h
      | none => h
  | .answer attempt reply =>
      match (s.gateway.establish verify attempt reply).1 with
      | .ok session => { h with established := ⟨reply, attempt, session⟩ :: h.established }
      | .error _ => h
  | _ => h

-- A step that neither issues a challenge nor establishes a session.
structure Quiet (s : Gate) (label : GateLabel) (t : Gate) : Prop where
  clock : s.clock ≤ t.clock
  nodes : ∀ nodeId node, t.nodes.lookup nodeId = some node → node.revokedAt = none →
    s.nodes.lookup nodeId = some node ∨ node.id = nodeId ∧ label = .register node
  greeted : ∀ websocket attempt, t.handlers.lookup websocket = some (.greeted attempt) →
    s.handlers.lookup websocket = some (.greeted attempt)
  bound : ∀ nodeId b, t.gateway.connections.lookup nodeId = some b →
    s.handlers.lookup b.websocket = some (.bound nodeId) →
    t.handlers.lookup b.websocket = some (.bound nodeId)
  spent : Spent s.gateway t.clock t.gateway.challenges t.gateway.challengeNonces
  connections : ∀ nodeId b, t.gateway.connections.lookup nodeId = some b →
    s.gateway.connections.lookup nodeId = some b
  lost : ∀ nodeId b, s.gateway.connections.lookup nodeId = some b →
    s.handlers.lookup b.websocket = some (.bound nodeId) →
    t.gateway.connections.lookup nodeId = some b ∨ (∃ now, label = .closed b.websocket nodeId now) ∨
      ∃ now, label = .revoked nodeId b.websocket now

-- What a step can do.
inductive Moved (verify : VerifyBytes) (s : Gate) : GateLabel → Gate → Prop
  | quiet {label : GateLabel} {t : Gate} : Quiet s label t → (∀ h, note verify h s label = h) →
      Moved verify s label t
  | greeted {greeting : Greeting} (node : NodeRegistration) : s.clock ≤ greeting.now →
      s.handlers.lookup greeting.websocket = none → greeting.message.type = .hello →
      s.nodes.lookup greeting.message.nodeId = some node → node.revokedAt = none →
      Moved verify s (.hello greeting) (s.greet greeting node)
  | admitted {reply : Reply} (attempt : Attempt) (expiresAt : Time)
      (challenges : Table String (String × Time)) (nonces : NonceStore) :
      reply.readings.Follow s.clock →
      s.handlers.lookup reply.websocket = some (.greeted attempt) →
      (s.gateway.establish verify attempt reply).1 =
        .ok (sessionOf attempt reply reply.challenge) →
      Spent s.gateway reply.readings.consumed challenges nonces →
      Taken verify s.gateway attempt reply expiresAt nonces →
      Moved verify s (.answer attempt reply) (s.serve reply.websocket attempt.nodeId
        ((s.gateway.spend challenges nonces).bind attempt reply reply.challenge)
        reply.readings.seen)

variable {verify : VerifyBytes} {s t : Gate} {label : GateLabel} {websocket other : Nat}
  {nodeId : String} {now : Time} {attempt : Attempt} {greeting : Greeting} {reply : Reply}
  {readings : Readings} {handler : Handler} {handlers : Table Nat Handler} {new : Handler}

theorem lookup_of_insert (hne : new ≠ handler)
    (h : (handlers.insert websocket new).lookup other = some handler) :
    handlers.lookup other = some handler := by
  rcases Table.lookup_insert_cases h with ⟨-, he⟩ | ⟨-, h⟩
  · exact absurd he.symm hne
  · exact h

theorem insert_bound (hbound : handlers.lookup other = some (.bound nodeId))
    (hne : handlers.lookup websocket ≠ some (.bound nodeId)) :
    (handlers.insert websocket new).lookup other = some (.bound nodeId) := by
  have hother : other ≠ websocket := by
    rintro rfl
    exact hne hbound
  rwa [AList.lookup_insert_ne hother]

theorem same_quiet {nodes : Table String NodeRegistration} {revocations : List (String × Nat)}
    (hnow : s.clock ≤ now)
    (hnodes : ∀ nodeId node, nodes.lookup nodeId = some node → node.revokedAt = none →
      s.nodes.lookup nodeId = some node ∨ node.id = nodeId ∧ label = .register node) :
    Quiet s label { s with clock := now, nodes := nodes, revocations := revocations } :=
  ⟨hnow, hnodes, fun _ _ h => h, fun _ _ _ h => h, .refl _ _, fun _ _ h => h,
    fun _ _ h _ => .inl h⟩

theorem turnAway_quiet (hnow : s.clock ≤ now) (hnew : s.handlers.lookup websocket = none) :
    Quiet s label (s.turnAway websocket now) where
  clock := hnow
  nodes := fun _ _ h _ => .inl h
  greeted := fun _ _ h => lookup_of_insert (by simp) h
  bound := fun _ _ _ h => insert_bound h (by simp [hnew])
  spent := .refl _ _
  connections := fun _ _ h => h
  lost := fun _ _ h _ => .inl h

-- The end of a handler, after what its answer has done to the challenges.
theorem leave_quiet {challenges : Table String (String × Time)} {nonces : NonceStore}
    (hnow : s.clock ≤ now) (hspent : Spent s.gateway now challenges nonces)
    (hin : (s.handlers.lookup websocket).any (·.serves nodeId))
    (hlabel : label = .closed websocket nodeId now ∨
      ∃ attempt, s.handlers.lookup websocket = some (.greeted attempt)) :
    Quiet s label ({ s with gateway := s.gateway.spend challenges nonces }.leave websocket nodeId now)
    where
  clock := hnow
  nodes := fun _ _ h _ => .inl h
  greeted := fun _ _ h => lookup_of_insert (by simp) h
  bound := fun other b hb h => by
    by_cases hw : b.websocket = websocket
    · rw [hw] at h
      have hnode : other = nodeId := by simpa [h, Handler.serves] using hin
      exact absurd ⟨hnode, hw⟩ (NodeGateway.lookup_disconnect.mp hb).2
    · exact (AList.lookup_insert_ne hw).trans h
  spent := by simpa [Gate.leave] using hspent
  connections := fun _ _ h => (NodeGateway.lookup_disconnect.mp h).1
  lost := fun other b h hbound => by
    by_cases hgone : other = nodeId ∧ b.websocket = websocket
    · obtain ⟨rfl, rfl⟩ := hgone
      rcases hlabel with rfl | ⟨attempt, hgreeted⟩
      · exact .inr (.inl ⟨now, rfl⟩)
      · exact absurd (hgreeted.symm.trans hbound) (by simp)
    · exact .inl (NodeGateway.lookup_disconnect.mpr ⟨h, hgone⟩)

theorem hello_cases (hnow : s.clock ≤ greeting.now)
    (hnew : s.handlers.lookup greeting.websocket = none) :
    Moved verify s (.hello greeting) (s.hello greeting) := by
  have hquiet : Quiet s (.hello greeting) (s.turnAway greeting.websocket greeting.now) :=
    turnAway_quiet hnow hnew
  unfold hello
  by_cases htype : greeting.message.type = .hello
  case neg =>
    rw [if_pos htype]
    refine .quiet hquiet fun h => ?_
    cases hnode : s.nodes.lookup greeting.message.nodeId <;> simp [note, hnode, htype]
  rw [if_neg (not_not.mpr htype)]
  cases hnode : s.nodes.lookup greeting.message.nodeId with
  | none => exact .quiet hquiet fun h => by simp [note, hnode]
  | some node =>
      cases hrevoked : node.revokedAt with
      | some revokedAt =>
          simpa [hrevoked] using Moved.quiet hquiet fun h => by simp [note, hnode, hrevoked]
      | none => simpa [hrevoked] using Moved.greeted node hnow hnew htype hnode hrevoked

theorem answer_cases (hread : reply.readings.Follow s.clock)
    (hgreeted : s.handlers.lookup reply.websocket = some (.greeted attempt)) :
    Moved verify s (.answer attempt reply) (s.answer verify attempt reply) := by
  obtain ⟨challenges, nonces, hspent, ⟨error, he⟩ | ⟨expiresAt, htaken, he⟩⟩ :=
    establish_cases verify s.gateway attempt reply
  · obtain ⟨hclock, hlater⟩ := hread.consumed_le
    simp only [answer, he]
    exact .quiet (leave_quiet (Int.le_trans hclock hlater) (hspent.later hlater)
      (by simp [hgreeted, Handler.serves]) (.inr ⟨attempt, hgreeted⟩)) fun h => by simp [note, he]
  · simpa only [answer, he] using
      Moved.admitted attempt expiresAt challenges nonces hread hgreeted (by rw [he]) hspent htaken

theorem closed_cases (hnow : s.clock ≤ now)
    (hin : (s.handlers.lookup websocket).any (·.serves nodeId)) :
    Moved verify s (.closed websocket nodeId now) (s.leave websocket nodeId now) :=
  .quiet (leave_quiet hnow (.refl _ _) hin (.inl rfl)) fun _ => rfl

theorem revoked_cases (hnow : s.clock ≤ now) :
    Moved verify s (.revoked nodeId websocket now) { s with
      clock := now
      gateway := s.gateway.disconnect nodeId (some websocket) now
      revocations := s.revocations.erase (nodeId, websocket) } := by
  refine .quiet ⟨hnow, fun _ _ h _ => .inl h, fun _ _ h => h, fun _ _ _ h => h,
    by simpa using .refl s.gateway now, fun _ _ h => (NodeGateway.lookup_disconnect.mp h).1, fun other b h _ => ?_⟩ fun _ => rfl
  by_cases hgone : other = nodeId ∧ b.websocket = websocket
  · exact .inr (.inr ⟨now, by rw [hgone.1, hgone.2]⟩)
  · exact .inl (NodeGateway.lookup_disconnect.mpr ⟨h, hgone⟩)

theorem step_cases (h : step verify s label = some t) : Moved verify s label t := by
  cases label <;> simp only [step, Option.ite_none_right_eq_some, Option.some.injEq] at h
  case register node =>
    subst h
    refine .quiet (same_quiet (Int.le_refl _) fun nodeId other hother _ => ?_) fun _ => rfl
    rcases Table.lookup_insert_cases hother with ⟨rfl, rfl⟩ | ⟨-, hother⟩
    · exact .inr ⟨rfl, rfl⟩
    · exact .inl hother
  all_goals obtain ⟨⟨hnow, hin⟩, rfl⟩ := h
  case hello greeting => exact hello_cases hnow hin
  case answer attempt reply => exact answer_cases hnow hin
  case closed websocket nodeId now => exact closed_cases hnow hin
  case revoke nodeId node now =>
    refine .quiet (same_quiet hnow fun other found hfound hlasting => .inl ?_) fun _ => rfl
    rcases Table.lookup_insert_cases hfound with ⟨-, rfl⟩ | ⟨-, hfound⟩
    · exact absurd hlasting (by simp)
    · exact hfound
  case revoked nodeId websocket now => exact revoked_cases hnow

end Gate

end JoyMesh.Control
