import JoyMesh.Control.Service

namespace JoyMesh.Control

open JoyMesh.Library

-- What the calls have been answered with: each session with its first expiry, the
-- sessions that were approved and those that were cancelled, and the nodes by session.
structure Sessions where
  begun : List (String × Time) := []
  approved : List String := []
  cancelled : List String := []
  registered : List (String × String) := []

def Sessions.note (h : Sessions) : Call → Except Raised Answer → Sessions
  | .beginPairing .., .ok (.pairing pairing) =>
      { h with begun := (pairing.id, pairing.expiresAt) :: h.begun }
  | .approvePairing pairingId _, .ok _ => { h with approved := pairingId :: h.approved }
  | .cancelPairing pairingId, .ok _ => { h with cancelled := pairingId :: h.cancelled }
  | .registerNode pairingId _ _ _ _ _ _ _, .ok (.node node) =>
      { h with registered := (pairingId, node.id) :: h.registered }
  | _, _ => h

-- The session and the device code that a registration brings.
def Call.registers : Call → Option (String × String)
  | .registerNode pairingId deviceCode .. => some (pairingId, deviceCode)
  | _ => none

namespace ControlPlane

variable {setup : Setup} {s t : ControlPlane} {h : Sessions} {call : Call} {timed : Timed}
  {pairing : PairingSession} {node : NodeRegistration} {pairingId deviceCode : String}

def noteSession (setup : Setup) (h : Sessions) (s : ControlPlane) (timed : Timed) : Sessions :=
  h.note timed.call ((s.ready timed).respond setup timed.call).1

-- What is checked before a node is registered.
def admits (setup : Setup) (s : ControlPlane) (pairingId deviceCode : String) : Bool :=
  (s.pairings.lookup pairingId).any fun pairing =>
    decide (s.clock < pairing.expiresAt) && pairing.approvedByUserId.isSome
      && setup.sha256 deviceCode == pairing.deviceCodeHash

-- What a call does to the sessions and to the registrations.
inductive Change (setup : Setup) (s : ControlPlane) (h : Sessions) :
    Call → ControlPlane → Sessions → Prop
  | none {call : Call} {t : ControlPlane} : t.pairings = s.pairings → t.nodes = s.nodes → Change setup s h call t h
  | begun {call : Call} {t : ControlPlane} (pairing : PairingSession) : call.made = some pairing.id →
      pairing.approvedByUserId = .none → t.pairings = s.pairings.insert pairing.id pairing →
      t.nodes = s.nodes →
      Change setup s h call t { h with begun := (pairing.id, pairing.expiresAt) :: h.begun }
  | approved {t : ControlPlane} (pairingId userId : String) (pairing : PairingSession) :
      s.pairings.lookup pairingId = some pairing →
      t.pairings = s.pairings.insert pairingId { pairing with approvedByUserId := some userId } →
      t.nodes = s.nodes →
      Change setup s h (.approvePairing pairingId userId) t
        { h with approved := pairingId :: h.approved }
  | cancelled {call : Call} {t : ControlPlane} (pairingId : String) (pairing : PairingSession) :
      s.pairings.lookup pairingId = some pairing →
      t.pairings = s.pairings.insert pairingId { pairing with expiresAt := s.clock } →
      t.nodes = s.nodes → Change setup s h call t { h with cancelled := pairingId :: h.cancelled }
  | registered {call : Call} {t : ControlPlane} (pairingId deviceCode : String) (pairing : PairingSession)
      (node : NodeRegistration) : call.registers = some (pairingId, deviceCode) →
      call.made = some node.id → s.admits setup pairingId deviceCode →
      s.pairings.lookup pairingId = some pairing →
      node.organisationId = pairing.organisationId → node.workspaceId = pairing.workspaceId →
      t.pairings = s.pairings → t.nodes = s.nodes ++ [node] →
      Change setup s h call t { h with registered := (pairingId, node.id) :: h.registered }
  | revoked {call : Call} {t : ControlPlane} : t.pairings = s.pairings →
      (∀ node ∈ t.nodes, ∃ old ∈ s.nodes, old.id = node.id ∧
        old.organisationId = node.organisationId ∧ old.workspaceId = node.workspaceId) →
      Change setup s h call t h

theorem respond_change : Change setup s h call (s.respond setup call).2
    (h.note call (s.respond setup call).1) := by
  cases call with
  | beginPairing => exact .begun _ rfl rfl rfl rfl
  | approvePairing pairingId userId =>
      dsimp only [respond, approvePairing]
      split
      · exact .none rfl rfl
      · next pairing hlookup =>
          split
          · exact .none rfl rfl
          · exact .approved pairingId userId pairing hlookup rfl rfl
  | cancelPairing pairingId =>
      dsimp only [respond, cancelPairing]
      split
      · exact .none rfl rfl
      · next pairing hlookup => exact .cancelled pairingId pairing hlookup rfl rfl
  | registerNode pairingId deviceCode =>
      dsimp only [respond, registerNode]
      split
      · exact .none rfl rfl
      · next pairing hlookup =>
          split
          · exact .none rfl rfl
          · next hlasting =>
              split
              · exact .none rfl rfl
              · next hcode =>
                  refine .registered pairingId deviceCode pairing _ rfl rfl ?_ hlookup rfl rfl rfl rfl
                  push Not at hlasting hcode
                  simp [admits, hlookup, hlasting.1, hcode, Option.isSome_iff_ne_none, hlasting.2]
  | grantWorkspace =>
      dsimp only [respond, grantWorkspace]
      split <;> exact .none rfl rfl
  | createRemoteTask =>
      dsimp only [respond, createRemoteTask]
      repeat' split
      all_goals exact .none rfl rfl
  | revokeNode nodeId =>
      dsimp only [respond, revokeNode]
      split
      · exact .none rfl rfl
      · next node hnode =>
          refine .revoked rfl fun other hother => ?_
          obtain ⟨old, hold, rfl⟩ := List.mem_map.mp hother
          by_cases hid : old.id = nodeId
          · exact ⟨node, List.mem_of_find?_eq_some hnode, by simp [hid]⟩
          · exact ⟨old, hold, by simp [hid]⟩

end ControlPlane

-- A node and the approved session that it came through, which is of its workspace.
def Owned (pairings : Table String PairingSession) (h : Sessions) (node : NodeRegistration) : Prop :=
  ∃ pairingId pairing, (pairingId, node.id) ∈ h.registered ∧
    pairings.lookup pairingId = some pairing ∧ pairing.approvedByUserId.isSome ∧
    node.organisationId = pairing.organisationId ∧ node.workspaceId = pairing.workspaceId

def Met (pairings : Table String PairingSession) (h : Sessions) (id : String) : Prop :=
  id ∈ pairings ∨ id ∈ h.begun.map Prod.fst ∨ id ∈ h.cancelled ∨ id ∈ h.registered.map Prod.snd

-- The sessions of the store are what the answers made of them.
structure Tracked (clock : Time) (issued : List String) (pairings : Table String PairingSession)
    (nodes : List NodeRegistration) (h : Sessions) : Prop where
  known : ∀ id, Met pairings h id → id ∈ issued
  approved : ∀ id pairing, pairings.lookup id = some pairing →
    pairing.approvedByUserId.isSome → id ∈ h.approved
  lasting : ∀ id pairing, pairings.lookup id = some pairing → clock < pairing.expiresAt →
    id ∉ h.cancelled ∧ ∀ ends, (id, ends) ∈ h.begun → ends = pairing.expiresAt
  owned : ∀ node ∈ nodes, Owned pairings h node
  unique : (h.registered.map Prod.snd).Nodup

namespace Tracked

variable {clock later : Time} {issued : List String} {pairings : Table String PairingSession}
  {nodes : List NodeRegistration} {h : Sessions} {pairing : PairingSession}
  {node : NodeRegistration} {pairingId : String}

theorem waited (hs : Tracked clock issued pairings nodes h) (hlater : clock ≤ later)
    {more : List String} : Tracked later (more ++ issued) pairings nodes h where
  known id hmet := List.mem_append_right _ (hs.known id hmet)
  approved := hs.approved
  lasting id pairing hlookup hlasting :=
    hs.lasting id pairing hlookup (Int.lt_of_le_of_lt hlater hlasting)
  owned := hs.owned
  unique := hs.unique

theorem begun (hs : Tracked clock issued pairings nodes h) (hfresh : ¬Met pairings h pairing.id)
    (hissued : pairing.id ∈ issued) (happroved : pairing.approvedByUserId = none) :
    Tracked clock issued (pairings.insert pairing.id pairing) nodes
      { h with begun := (pairing.id, pairing.expiresAt) :: h.begun } where
  known id hmet := by
    by_cases hid : id = pairing.id
    · exact hid ▸ hissued
    · refine hs.known id (hmet.imp ?_ (Or.imp_left ?_))
      · intro hmem
        rw [AList.mem_insert] at hmem
        exact hmem.resolve_left hid
      · intro hmem
        exact (List.mem_cons.mp hmem).resolve_left hid
  approved id found hlookup hsome := by
    rcases Table.lookup_insert_cases hlookup with ⟨rfl, rfl⟩ | ⟨-, hlookup⟩
    · rw [happroved] at hsome
      cases hsome
    · exact hs.approved id found hlookup hsome
  lasting id found hlookup hlasting := by
    rcases Table.lookup_insert_cases hlookup with ⟨rfl, rfl⟩ | ⟨hid, hlookup⟩
    · refine ⟨fun hmem => hfresh (.inr (.inr (.inl hmem))), fun ends hmem => ?_⟩
      rcases List.mem_cons.mp hmem with heq | hmem
      · exact congrArg Prod.snd heq
      · exact absurd (.inr (.inl (List.mem_map_of_mem hmem))) hfresh
    · obtain ⟨hcancelled, hbegun⟩ := hs.lasting id found hlookup hlasting
      refine ⟨hcancelled, fun ends hmem => ?_⟩
      rcases List.mem_cons.mp hmem with heq | hmem
      · exact absurd (congrArg Prod.fst heq) hid
      · exact hbegun ends hmem
  owned node hnode := by
    obtain ⟨id, found, hregistered, hlookup, hrest⟩ := hs.owned node hnode
    have hne : id ≠ pairing.id := by
      rintro rfl
      exact hfresh (.inl (AList.lookup_isSome.mp (by rw [hlookup]; rfl)))
    exact ⟨id, found, hregistered, by rw [AList.lookup_insert_ne hne, hlookup], hrest⟩
  unique := hs.unique

-- A session is changed in its place, and stays of its workspace and approved.
theorem owned_update {changed : PairingSession} (hlookup : pairings.lookup pairingId = some pairing)
    (hkeep : pairing.approvedByUserId.isSome → changed.approvedByUserId.isSome)
    (horganisation : changed.organisationId = pairing.organisationId)
    (hworkspace : changed.workspaceId = pairing.workspaceId) (howned : Owned pairings h node) :
    Owned (pairings.insert pairingId changed) h node := by
  obtain ⟨id, found, hregistered, hfound, hsome, horg, hws⟩ := howned
  by_cases hid : id = pairingId
  · subst hid
    obtain rfl := Option.some.inj (hfound.symm.trans hlookup)
    exact ⟨id, changed, hregistered, AList.lookup_insert _, hkeep hsome,
      horg.trans horganisation.symm, hws.trans hworkspace.symm⟩
  · exact ⟨id, found, hregistered, by rw [AList.lookup_insert_ne hid, hfound], hsome, horg, hws⟩

theorem met_update {changed : PairingSession} {id : String}
    (hlookup : pairings.lookup pairingId = some pairing)
    (hmem : id ∈ pairings.insert pairingId changed) : id ∈ pairings := by
  rcases (AList.mem_insert _).mp hmem with rfl | hmem
  · exact AList.lookup_isSome.mp (by rw [hlookup]; rfl)
  · exact hmem

theorem approve (hs : Tracked clock issued pairings nodes h) (userId : String)
    (hlookup : pairings.lookup pairingId = some pairing) :
    Tracked clock issued
      (pairings.insert pairingId { pairing with approvedByUserId := some userId }) nodes
      { h with approved := pairingId :: h.approved } where
  known id hmet := hs.known id (hmet.imp_left (met_update hlookup))
  approved id found hfound hsome := by
    rcases Table.lookup_insert_cases hfound with ⟨rfl, -⟩ | ⟨-, hfound⟩
    · exact List.mem_cons_self
    · exact List.mem_cons_of_mem _ (hs.approved id found hfound hsome)
  lasting id found hfound hlasting := by
    rcases Table.lookup_insert_cases hfound with ⟨rfl, rfl⟩ | ⟨-, hfound⟩
    · exact hs.lasting id pairing hlookup hlasting
    · exact hs.lasting id found hfound hlasting
  owned node hnode := owned_update hlookup (fun _ => rfl) rfl rfl (hs.owned node hnode)
  unique := hs.unique

-- What is cancelled has expired, for as long as time does not run back.
theorem cancel (hs : Tracked clock issued pairings nodes h)
    (hlookup : pairings.lookup pairingId = some pairing) :
    Tracked clock issued (pairings.insert pairingId { pairing with expiresAt := clock }) nodes
      { h with cancelled := pairingId :: h.cancelled } where
  known id hmet := by
    by_cases hid : id = pairingId
    · exact hid ▸ hs.known pairingId (.inl (AList.lookup_isSome.mp (by rw [hlookup]; rfl)))
    · refine hs.known id (hmet.imp (met_update hlookup) (Or.imp_right (Or.imp_left ?_)))
      intro hmem
      exact (List.mem_cons.mp hmem).resolve_left hid
  approved id found hfound hsome := by
    rcases Table.lookup_insert_cases hfound with ⟨rfl, rfl⟩ | ⟨-, hfound⟩
    · exact hs.approved id pairing hlookup hsome
    · exact hs.approved id found hfound hsome
  lasting id found hfound hlasting := by
    rcases Table.lookup_insert_cases hfound with ⟨rfl, rfl⟩ | ⟨hid, hfound⟩
    · exact absurd hlasting (Int.lt_irrefl _)
    · obtain ⟨hcancelled, hbegun⟩ := hs.lasting id found hfound hlasting
      exact ⟨fun hmem => hcancelled ((List.mem_cons.mp hmem).resolve_left hid), hbegun⟩
  owned node hnode := owned_update hlookup id rfl rfl (hs.owned node hnode)
  unique := hs.unique

theorem register (hs : Tracked clock issued pairings nodes h)
    (hfresh : ¬Met pairings h node.id) (hissued : node.id ∈ issued)
    (hlookup : pairings.lookup pairingId = some pairing) (happroved : pairing.approvedByUserId.isSome)
    (horganisation : node.organisationId = pairing.organisationId)
    (hworkspace : node.workspaceId = pairing.workspaceId) :
    Tracked clock issued pairings (nodes ++ [node])
      { h with registered := (pairingId, node.id) :: h.registered } where
  known id hmet := by
    by_cases hid : id = node.id
    · exact hid ▸ hissued
    · refine hs.known id (hmet.imp_right (Or.imp_right (Or.imp_right ?_)))
      intro hmem
      exact (List.mem_cons.mp hmem).resolve_left hid
  approved := hs.approved
  lasting := hs.lasting
  owned other hother := by
    rcases List.mem_append.mp hother with hother | hother
    · obtain ⟨id, found, hregistered, hrest⟩ := hs.owned other hother
      exact ⟨id, found, List.mem_cons_of_mem _ hregistered, hrest⟩
    · obtain rfl := List.mem_singleton.mp hother
      exact ⟨pairingId, pairing, List.mem_cons_self, hlookup, happroved, horganisation, hworkspace⟩
  unique := List.nodup_cons.mpr ⟨fun hmem => hfresh (.inr (.inr (.inr hmem))), hs.unique⟩

theorem revoke {left : List NodeRegistration} (hs : Tracked clock issued pairings nodes h)
    (hleft : ∀ node ∈ left, ∃ old ∈ nodes, old.id = node.id ∧
      old.organisationId = node.organisationId ∧ old.workspaceId = node.workspaceId) :
    Tracked clock issued pairings left h where
  known := hs.known
  approved := hs.approved
  lasting := hs.lasting
  owned node hnode := by
    obtain ⟨old, hold, hid, horganisation, hworkspace⟩ := hleft node hnode
    obtain ⟨pairingId, pairing, hregistered, hlookup, hsome, horg, hws⟩ := hs.owned old hold
    exact ⟨pairingId, pairing, hid ▸ hregistered, hlookup, hsome, horganisation ▸ horg,
      hworkspace ▸ hws⟩
  unique := hs.unique

end Tracked

namespace ControlPlane

variable {setup : Setup} {s t : ControlPlane} {h after : Sessions} {call : Call} {timed : Timed}

def Tracks (s : ControlPlane) (h : Sessions) : Prop :=
  Tracked s.clock s.issued s.pairings s.nodes h

theorem Tracks.change (hs : Tracks s h) (hfresh : ∀ id ∈ call.made, ¬Met s.pairings h id)
    (hissued : ∀ id ∈ call.made, id ∈ s.issued) (hchange : Change setup s h call t after) :
    Tracked s.clock s.issued t.pairings t.nodes after := by
  cases hchange with
  | none hpairings hnodes =>
      rw [hpairings, hnodes]
      exact hs
  | begun pairing hmade happroved hpairings hnodes =>
      rw [hpairings, hnodes]
      exact hs.begun (hfresh _ hmade) (hissued _ hmade) happroved
  | approved pairingId userId pairing hlookup hpairings hnodes =>
      rw [hpairings, hnodes]
      exact hs.approve userId hlookup
  | cancelled pairingId pairing hlookup hpairings hnodes =>
      rw [hpairings, hnodes]
      exact hs.cancel hlookup
  | registered pairingId deviceCode pairing node _ hmade hadmits hlookup horganisation hworkspace
      hpairings hnodes =>
      rw [hpairings, hnodes]
      have happroved : pairing.approvedByUserId.isSome := by
        simp only [admits, hlookup, Option.any_some, Bool.and_eq_true] at hadmits
        exact hadmits.1.2
      exact hs.register (hfresh _ hmade) (hissued _ hmade) hlookup happroved horganisation hworkspace
  | revoked hpairings hnodes =>
      rw [hpairings]
      exact hs.revoke hnodes

theorem Tracks.ready (hs : Tracks s h) : Tracks (s.ready timed) h :=
  Tracked.waited hs (Int.le_add_of_nonneg_right (Int.natCast_nonneg _))

theorem Tracks.step (hs : Tracks s h) (ht : s.step setup timed = some t) :
    Tracks t (noteSession setup h s timed) := by
  obtain ⟨hfresh, rfl⟩ := step_eq_some ht
  have hchange := hs.ready.change (fun id hmade hmet => hfresh id hmade (hs.known id hmet))
    (fun id hmade => List.mem_append_left _ (Option.mem_toList.mpr hmade))
    (@respond_change setup _ _ _)
  rw [Tracks, respond_clock, respond_issued]
  exact hchange

-- A node is registered through a session that was approved, and neither cancelled nor
-- past its expiry.
def RegistersInTime (setup : Setup) (s : ControlPlane × Sessions) (timed : Timed) : Prop :=
  ∀ code ∈ timed.call.registers, ((s.1.ready timed).respond setup timed.call).1.isOk →
    code.1 ∈ s.2.approved ∧ code.1 ∉ s.2.cancelled ∧
      ∀ ends, (code.1, ends) ∈ s.2.begun → (s.1.ready timed).clock < ends

-- A registration that is admitted comes through a session that has registered no node.
def Unspent (setup : Setup) (s : ControlPlane × Sessions) (timed : Timed) : Prop :=
  ∀ code ∈ timed.call.registers, (s.1.ready timed).admits setup code.1 code.2 →
    code.1 ∉ s.2.registered.map Prod.fst

-- Whenever it is asked for, a session is reported as paired with a node of its own.
def Reported (s : ControlPlane) (h : Sessions) : Prop :=
  ∀ (elapsed : Nat) pairingId status, (s.passed elapsed).pairingStatus pairingId = .ok status →
    status.status = .paired →
    ∃ node, status.node = some node ∧ (pairingId, node.id) ∈ h.registered

-- No workspace with a node that is not revoked has two approved sessions.
def Apart (s : ControlPlane) : Prop :=
  ∀ first pairing, s.pairings.lookup first = some pairing →
    ∀ second other, s.pairings.lookup second = some other →
      ∀ node ∈ s.nodes, pairing.approvedByUserId.isSome → other.approvedByUserId.isSome →
        inWorkspace pairing node → inWorkspace other node → first = second

instance (setup : Setup) (s : ControlPlane × Sessions) (timed : Timed) :
    Decidable (Unspent setup s timed) := by
  delta Unspent
  infer_instance

instance (s : ControlPlane) : Decidable (Apart s) := by
  delta Apart
  infer_instance

theorem registers_isOk_iff {code : String × String} (hcode : code ∈ call.registers) :
    (s.respond setup call).1.isOk ↔ s.admits setup code.1 code.2 := by
  cases call with
  | registerNode pairingId deviceCode =>
      obtain rfl : (pairingId, deviceCode) = code := Option.some.inj hcode
      dsimp only [respond, registerNode, admits]
      split
      · next hlookup => simp [hlookup, Except.map, Except.isOk, Except.toBool]
      · next pairing hlookup =>
          rw [hlookup]
          split
          · next hrefused =>
              rcases hrefused with hexpired | happroved
              · simp [Except.map, Except.isOk, Except.toBool, Int.not_lt.mpr hexpired]
              · simp [Except.map, Except.isOk, Except.toBool, happroved]
          · next hlasting =>
              push Not at hlasting
              split
              · next hwrong => simp [Except.map, Except.isOk, Except.toBool, hwrong]
              · next hright =>
                  push Not at hright
                  simp [Except.map, Except.isOk, Except.toBool, hlasting.1, hright,
                    Option.isSome_iff_ne_none, hlasting.2]
  | _ => cases hcode

theorem admits_lookup (hadmits : s.admits setup pairingId deviceCode) :
    ∃ pairing, s.pairings.lookup pairingId = some pairing ∧ s.clock < pairing.expiresAt ∧
      pairing.approvedByUserId.isSome := by
  cases hlookup : s.pairings.lookup pairingId with
  | none => simp [admits, hlookup] at hadmits
  | some pairing =>
      simp only [admits, hlookup, Option.any_some, Bool.and_eq_true, decide_eq_true_eq] at hadmits
      exact ⟨pairing, rfl, hadmits.1.1, hadmits.1.2⟩

theorem Tracks.registersInTime (hs : Tracks s h) : RegistersInTime setup (s, h) timed := by
  intro code hcode hok
  obtain ⟨pairing, hlookup, hlasting, happroved⟩ :=
    admits_lookup ((registers_isOk_iff hcode).mp hok)
  have hready : Tracks (s.ready timed) h := hs.ready
  obtain ⟨hcancelled, hbegun⟩ := hready.lasting _ pairing hlookup hlasting
  exact ⟨hready.approved _ pairing hlookup happroved, hcancelled,
    fun ends hmem => hbegun ends hmem ▸ hlasting⟩

-- Only an admitted registration adds to the nodes by session, and what it adds is its own.
theorem registered_cases (hchange : Change setup s h call t after) :
    after.registered = h.registered ∨ ∃ code ∈ call.registers, ∃ nodeId,
      s.admits setup code.1 code.2 ∧ after.registered = (code.1, nodeId) :: h.registered := by
  cases hchange with
  | registered pairingId deviceCode pairing node hcode _ hadmits =>
      exact .inr ⟨(pairingId, deviceCode), hcode, node.id, hadmits, rfl⟩
  | _ => exact .inl rfl

theorem admitted_registers {code : String × String} (hcode : code ∈ call.registers)
    (hadmits : s.admits setup code.1 code.2) : ∃ nodeId,
      (h.note call (s.respond setup call).1).registered = (code.1, nodeId) :: h.registered := by
  have hok := (registers_isOk_iff hcode).mpr hadmits
  cases call with
  | registerNode pairingId deviceCode name publicKey keyId platform version nodeId =>
      obtain rfl : (pairingId, deviceCode) = code := Option.some.inj hcode
      dsimp only [respond] at hok ⊢
      rcases hanswer : s.registerNode setup pairingId deviceCode name publicKey keyId platform
        version nodeId with ⟨error | node, _⟩
      · rw [hanswer] at hok
        cases hok
      · exact ⟨node.id, rfl⟩
  | _ => cases hcode

theorem watched_registered {s t : ControlPlane × Sessions}
    (ht : watched (step setup) (noteSession setup) s timed = some t) :
    t.2.registered = s.2.registered ∨ ∃ code ∈ timed.call.registers, ∃ nodeId,
      (s.1.ready timed).admits setup code.1 code.2 ∧
        t.2.registered = (code.1, nodeId) :: s.2.registered := by
  obtain ⟨-, hnote⟩ := watched_eq_some ht
  rw [hnote]
  exact registered_cases respond_change

def spent (s : ControlPlane × Sessions) : List String := s.2.registered.map Prod.fst

theorem run_unspent_iff {calls : List Timed} {first last : ControlPlane × Sessions}
    (hfirst : first.2.registered = [])
    (hr : run (watched (step setup) (noteSession setup)) first calls = some last) :
    (spent last).Nodup ↔
      Along (watched (step setup) (noteSession setup)) (Unspent setup) first calls := by
  have hmade : ∀ s timed t, watched (step setup) (noteSession setup) s timed = some t →
      spent t = spent s ∨ ∃ x, spent t = x :: spent s := by
    intro s timed t ht
    rcases watched_registered ht with hsame | ⟨code, -, nodeId, -, hcons⟩
    · exact .inl (congrArg (List.map Prod.fst) hsame)
    · exact .inr ⟨code.1, by rw [spent, hcons]; rfl⟩
  have hnone : (spent first).Nodup := by
    rw [spent, hfirst]
    exact List.nodup_nil
  rw [nodup_iff_along hmade hr, and_iff_right hnone]
  refine along_congr (fun s timed t ht => ?_) hr
  constructor
  · intro hnew code hcode hadmits
    obtain ⟨nodeId, hregistered⟩ := admitted_registers (h := s.2) hcode hadmits
    obtain ⟨-, hnote⟩ := watched_eq_some ht
    exact hnew t code.1 ht (by rw [spent, hnote, noteSession, hregistered]; rfl)
  · intro hunspent u x hu hx
    obtain rfl := Option.some.inj (ht.symm.trans hu)
    rcases watched_registered ht with hsame | ⟨code, hcode, nodeId, hadmits, hcons⟩
    · exact absurd ((congrArg (List.map Prod.fst) hsame).symm.trans hx) (by simp [spent])
    · rw [spent, hcons] at hx
      obtain ⟨rfl, -⟩ := List.cons.inj hx
      exact hunspent code hcode hadmits

-- A session that was not approved stands for no node.
theorem pairedNode_mem {node : NodeRegistration} (hpaired : s.pairedNode pairing = some node) :
    node ∈ s.nodes ∧ inWorkspace pairing node ∧ pairing.approvedByUserId.isSome := by
  unfold pairedNode at hpaired
  dsimp only at hpaired
  split at hpaired
  · next hname =>
      have hmem := List.mem_filter.mp (List.mem_of_getLast? hpaired)
      refine ⟨hmem.1, hmem.2, ?_⟩
      cases happroved : pairing.approvedByUserId with
      | none => simp [Connectors.nonempty, happroved] at hname
      | some => rfl
  · have hfound := List.find?_some hpaired
    simp only [Bool.and_eq_true] at hfound
    exact ⟨List.mem_of_find?_eq_some hpaired, hfound.1, hfound.2⟩

theorem pairingStatus_paired {status : PairingStatus}
    (hstatus : s.pairingStatus pairingId = .ok status) (hpaired : status.status = .paired) :
    ∃ pairing node, s.pairings.lookup pairingId = some pairing ∧
      s.pairedNode pairing = some node ∧ status.node = some node := by
  unfold pairingStatus at hstatus
  split at hstatus
  · cases hstatus
  · next pairing hlookup =>
      obtain rfl := Except.ok.inj hstatus
      cases hnode : s.pairedNode pairing with
      | some node => exact ⟨pairing, node, hlookup, hnode, rfl⟩
      | none =>
          simp only [hnode, and_true, ne_eq, not_true_eq_false, if_false] at hpaired
          repeat' split at hpaired
          all_goals cases hpaired

theorem Tracks.reported (hs : Tracks s h) (hapart : Apart s) : Reported s h := by
  intro elapsed pairingId status hstatus hpaired
  obtain ⟨pairing, node, hlookup, hnode, hstatus⟩ := pairingStatus_paired hstatus hpaired
  obtain ⟨hmem, hin, happroved⟩ := pairedNode_mem hnode
  obtain ⟨owner, other, hregistered, hother, hsome, horganisation, hworkspace⟩ := hs.owned node hmem
  have hsame : inWorkspace other node := by
    simp only [inWorkspace, Bool.and_eq_true, decide_eq_true_eq] at hin ⊢
    exact ⟨⟨hworkspace, horganisation⟩, hin.2⟩
  obtain rfl := hapart pairingId pairing hlookup owner other hother node hmem happroved hsome hin hsame
  exact ⟨node, hstatus, hregistered⟩

-- Every session that is approved is approved by a user with a name.
def Named (s : ControlPlane) : Prop :=
  ∀ id pairing, s.pairings.lookup id = some pairing → pairing.approvedByUserId ≠ some ""

-- A session of a workspace that has a node is reported as paired with the last of them.
theorem pairingStatus_last (elapsed : Nat) {id : String} {pairing : PairingSession} {node : NodeRegistration}
    (hnamed : Named s) (hlookup : s.pairings.lookup id = some pairing)
    (happroved : pairing.approvedByUserId.isSome) (hmem : node ∈ s.nodes)
    (hin : inWorkspace pairing node) : ∃ status, (s.passed elapsed).pairingStatus id = .ok status ∧
      status.status = .paired ∧ status.node = (s.nodes.filter (inWorkspace pairing)).getLast? := by
  have hname : Connectors.nonempty pairing.approvedByUserId := by
    obtain ⟨user, huser⟩ := Option.isSome_iff_exists.mp happroved
    have hne : user ≠ "" := fun he => hnamed id pairing hlookup (he ▸ huser)
    simp [huser, Connectors.nonempty, hne]
  have hsome : (s.nodes.filter (inWorkspace pairing)).getLast? ≠ none := by
    rw [ne_eq, List.getLast?_eq_none_iff]
    exact List.ne_nil_of_mem (List.mem_filter.mpr ⟨hmem, hin⟩)
  obtain ⟨last, hlast⟩ := Option.ne_none_iff_exists'.mp hsome
  have hnode : (s.passed elapsed).pairedNode pairing = some last := by
    simp only [pairedNode, passed, hname, if_true, hlast]
  refine ⟨⟨pairing.id, pairing.userCode, .paired, pairing.expiresAt, true, some last⟩, ?_, rfl,
    hlast.symm⟩
  have hfound : (s.passed elapsed).pairings.lookup id = some pairing := hlookup
  simp [pairingStatus, hfound, hnode, happroved]

theorem Tracks.apart (hs : Tracks s h) (hnamed : Named s) (hreported : Reported s h) : Apart s := by
  intro first pairing hpairing second other hother node hmem hfirst hsecond hin hin'
  obtain ⟨status, hstatus, hpaired, hlast⟩ := pairingStatus_last 0 hnamed hpairing hfirst
    hmem hin
  obtain ⟨status', hstatus', hpaired', hlast'⟩ := pairingStatus_last 0 hnamed hother
    hsecond hmem hin'
  have hsame : inWorkspace pairing = inWorkspace other := by
    simp only [inWorkspace, Bool.and_eq_true, decide_eq_true_eq] at hin hin'
    funext node
    simp only [inWorkspace, ← hin.1.1, ← hin.1.2, hin'.1.1, hin'.1.2]
  obtain ⟨shown, hshown, hregistered⟩ := hreported 0 first status hstatus hpaired
  obtain ⟨shown', hshown', hregistered'⟩ := hreported 0 second status' hstatus' hpaired'
  have heq : shown = shown' := by
    rw [hlast, hsame, ← hlast', hshown'] at hshown
    exact (Option.some.inj hshown).symm
  subst heq
  exact congrArg Prod.fst (List.inj_on_of_nodup_map hs.unique hregistered hregistered' rfl)

theorem run_tracks {calls : List Timed} {first last : ControlPlane × Sessions}
    (hs : Tracks first.1 first.2)
    (hr : run (watched (step setup) (noteSession setup)) first calls = some last) :
    Tracks last.1 last.2 ∧
      Along (watched (step setup) (noteSession setup)) (RegistersInTime setup) first calls := by
  have hstep : ∀ (s : ControlPlane × Sessions) timed t, Tracks s.1 s.2 → True →
      watched (step setup) (noteSession setup) s timed = some t → Tracks t.1 t.2 := by
    intro s timed t hs _ ht
    obtain ⟨hstep, hnote⟩ := watched_eq_some ht
    rw [hnote]
    exact hs.step hstep
  have halways : Along (watched (step setup) (noteSession setup)) (fun _ _ => True) first calls :=
    along_iff_forall.mpr fun _ _ _ _ _ _ => trivial
  constructor
  · exact @run_invariant _ _ _ _ _ _ _ (fun s => Tracks s.1 s.2) hstep hs halways hr
  · exact @Along.of_invariant _ _ _ _ _ _ (fun s => Tracks s.1 s.2) _ hstep
      (fun _ _ hs _ => hs.registersInTime) hs halways

theorem tracks_empty (start : Time) : Tracks { clock := start } {} where
  known id hmet := by
    rcases hmet with hmem | hmem | hmem | hmem
    · exact (AList.notMem_empty id hmem).elim
    all_goals cases hmem
  approved _ _ hlookup := by cases hlookup
  lasting _ _ hlookup := by cases hlookup
  owned _ hmem := by cases hmem
  unique := List.nodup_nil

-- Over a run, a session registers one node, in time, and is reported as paired with it.
structure PairingSound (setup : Setup) (first : ControlPlane × Sessions) (calls : List Timed)
    (last : ControlPlane × Sessions) : Prop where
  once : (last.2.registered.map Prod.fst).Nodup
  inTime : Along (watched (step setup) (noteSession setup)) (RegistersInTime setup) first calls
  reported : Reported last.1 last.2

-- What registers does so in time, in every run. It registers once exactly when no admitted
-- registration comes through a session that has a node, and what is reported is right
-- where no two approved sessions share a workspace with a node; between sessions whose
-- users have a name that is also needed.
theorem pairingSound_iff {setup : Setup} {start : Time} {calls : List Timed}
    {last : ControlPlane × Sessions}
    (hr : run (watched (step setup) (noteSession setup)) ({ clock := start }, {}) calls =
      some last) :
    (Along (watched (step setup) (noteSession setup)) (Unspent setup) ({ clock := start }, {})
        calls ∧ Apart last.1 → PairingSound setup ({ clock := start }, {}) calls last) ∧
      (Named last.1 → PairingSound setup ({ clock := start }, {}) calls last →
        Along (watched (step setup) (noteSession setup)) (Unspent setup) ({ clock := start }, {})
          calls ∧ Apart last.1) := by
  obtain ⟨htracks, hinTime⟩ := run_tracks (tracks_empty start) hr
  have honce := run_unspent_iff rfl hr
  constructor
  · rintro ⟨hunspent, hapart⟩
    exact ⟨honce.mpr hunspent, hinTime, htracks.reported hapart⟩
  · intro hnamed hsound
    exact ⟨honce.mp hsound.once, htracks.apart hnamed hsound.reported⟩

namespace Paired

def setting : Setup where
  sha256 code := code
  sign _ key := .ok key

def calls : List Timed := [
  ⟨10, .beginPairing "org" "ws" "challenge" "pairing" "user-code" "device-code"⟩,
  ⟨1, .approvePairing "pairing" "user"⟩,
  ⟨1, .registerNode "pairing" "device-code" "mac" "public" "key" "darwin" "1" "node"⟩]

-- The device code is used again, and a second session of the workspace is approved.
def further : List Timed := calls ++ [
  ⟨1, .registerNode "pairing" "device-code" "mac" "public" "key" "darwin" "1" "second"⟩,
  ⟨1, .beginPairing "org" "ws" "challenge" "other" "user-code" "other-code"⟩,
  ⟨1, .approvePairing "other" "user"⟩]

end Paired

theorem paired_sound : ∃ last,
    run (watched (step Paired.setting) (noteSession Paired.setting)) ({}, {}) Paired.calls = some last ∧
      PairingSound Paired.setting ({}, {}) Paired.calls last := by
  have hrun : (run (watched (step Paired.setting) (noteSession Paired.setting)) ({}, {})
      Paired.calls).isSome := by decide +kernel
  have hunspent : Along (watched (step Paired.setting) (noteSession Paired.setting))
      (Unspent Paired.setting) ({}, {}) Paired.calls := by decide +kernel
  have hapart : ∀ last ∈ run (watched (step Paired.setting) (noteSession Paired.setting)) ({}, {})
      Paired.calls, Apart last.1 := by decide +kernel
  obtain ⟨last, hlast⟩ := Option.isSome_iff_exists.mp hrun
  exact ⟨last, hlast, (pairingSound_iff hlast).1 ⟨hunspent, hapart last hlast⟩⟩

-- Both nodes come through one session, and the session that is reported as paired with
-- the second of them has registered none.
theorem session_spent_twice : ∃ last,
    run (watched (step Paired.setting) (noteSession Paired.setting)) ({}, {}) Paired.further =
        some last ∧ ¬(last.2.registered.map Prod.fst).Nodup ∧ ¬Reported last.1 last.2 := by
  have hrun : (run (watched (step Paired.setting) (noteSession Paired.setting)) ({}, {})
      Paired.further).map (fun s => (s.2.registered, (s.1.passed 0).pairingStatus "other")) =
      some ([("pairing", "second"), ("pairing", "node")], .ok {
        pairingId := "other"
        userCode := "user-code"
        status := .paired
        expiresAt := 600000014
        approved := true
        node := some {
          id := "second", organisationId := "org", workspaceId := "ws", name := "mac",
          publicKey := "public", keyId := "key", platform := "darwin", version := "1",
          createdAt := 13 } }) := by decide +kernel
  obtain ⟨last, hlast, hshown⟩ := Option.map_eq_some_iff.mp hrun
  obtain ⟨hregistered, hstatus⟩ := Prod.mk.inj hshown
  refine ⟨last, hlast, ?_, fun hreported => ?_⟩
  · rw [hregistered]
    decide
  · obtain ⟨node, hnode, hmem⟩ := hreported 0 "other" _ hstatus rfl
    rw [hregistered] at hmem
    simp at hmem

end ControlPlane

end JoyMesh.Control
