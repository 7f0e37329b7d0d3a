import JoyMesh.Control.Service

namespace JoyMesh.Control

open JoyMesh.Library NonceStore

-- A message whose nonce is looked up, the time of the lookup, and whether the checks that
-- follow it are passed.
structure Presented where
  now : Time
  envelope : RemoteTaskEnvelope
  fine : Bool

-- What has been taken by the nonce store, and what was let through.
structure Uses where
  taken : List (String × Time) := []
  accepted : List RemoteTaskEnvelope := []

namespace Uses

def Used (uses : Uses) (nonce : String) : Prop := ∃ use ∈ uses.taken, use.1 = nonce

instance (uses : Uses) (nonce : String) : Decidable (uses.Used nonce) :=
  inferInstanceAs (Decidable (∃ use ∈ uses.taken, _))

end Uses

section Guarded

variable {State Label : Type*}

def takes (nonces : State → NonceStore) (presented : State → Label → Option Presented) (s : State)
    (label : Label) : Option (String × Time) :=
  (presented s label).bind fun message =>
    match ((nonces s).consume message.now message.envelope.nonce message.envelope.expiresAt).1 with
    | .ok () => some (message.envelope.nonce, message.envelope.expiresAt)
    | .error _ => none

def noteUse (nonces : State → NonceStore) (presented : State → Label → Option Presented)
    (accepts : State → Label → Option RemoteTaskEnvelope) (uses : Uses) (s : State) (label : Label) : Uses where
  taken := (takes nonces presented s label).toList ++ uses.taken
  accepted := (accepts s label).toList ++ uses.accepted

-- No nonce that was used is let through again.
def Unreplayed (accepts : State → Label → Option RemoteTaskEnvelope) (s : State × Uses) (label : Label) :
    Prop :=
  ∀ envelope, accepts s.1 label = some envelope → ¬s.2.Used envelope.nonce

-- A message that would be let through and whose nonce was used finds a use of it that lasts.
def Lasting (presented : State → Label → Option Presented) (s : State × Uses) (label : Label) :
    Prop :=
  ∀ message, presented s.1 label = some message → message.fine → s.2.Used message.envelope.nonce →
    Covered s.2.taken message.now message.envelope.nonce

-- Each step that reaches the nonces consumes one, at a time of the step.
structure Guarded (step : State → Label → Option State) (nonces : State → NonceStore)
    (clock : State → Time) (presented : State → Label → Option Presented)
    (accepts : State → Label → Option RemoteTaskEnvelope) : Prop where
  idle : ∀ s label t, step s label = some t → presented s label = none →
    nonces t = nonces s ∧ clock s ≤ clock t
  consumed : ∀ s label t message, step s label = some t → presented s label = some message →
    nonces t = ((nonces s).consume message.now message.envelope.nonce message.envelope.expiresAt).2 ∧
      message.now ≤ clock t
  later : ∀ s label message, presented s label = some message → clock s ≤ message.now
  accepts_iff : ∀ s label envelope, accepts s label = some envelope ↔
    ∃ message, presented s label = some message ∧ message.fine ∧ message.envelope = envelope ∧
      ((nonces s).consume message.now envelope.nonce envelope.expiresAt).1 = .ok ()

variable {step : State → Label → Option State} {nonces : State → NonceStore}
  {clock : State → Time} {presented : State → Label → Option Presented}
  {accepts : State → Label → Option RemoteTaskEnvelope} {s t : State × Uses} {label : Label}
  {labels : List Label}

namespace Guarded

theorem remembers_step (h : Guarded step nonces clock presented accepts)
    (hs : Remembers (nonces s.1) s.2.taken (clock s.1))
    (ht : watched step (noteUse nonces presented accepts) s label = some t) :
    Remembers (nonces t.1) t.2.taken (clock t.1) := by
  obtain ⟨hstep, hnote⟩ := watched_eq_some ht
  rw [hnote]
  cases hpresented : presented s.1 label with
  | none =>
      obtain ⟨hnonces, hclock⟩ := h.idle _ _ _ hstep hpresented
      rw [hnonces]
      simpa [noteUse, takes, hpresented] using hs.later hclock
  | some message =>
      obtain ⟨hnonces, hclock⟩ := h.consumed _ _ _ _ hstep hpresented
      have hnow := h.later _ _ _ hpresented
      rw [hnonces]
      by_cases hcovered : Covered s.2.taken message.now message.envelope.nonce
      · obtain ⟨after, hconsume, hafter⟩ :=
          consume_covered message.envelope.expiresAt hs hnow hcovered
        simpa [noteUse, takes, hpresented, hconsume] using hafter.later hclock
      · obtain ⟨after, hconsume, hafter⟩ :=
          consume_uncovered message.envelope.expiresAt hs hnow hcovered
        simpa [noteUse, takes, hpresented, hconsume] using hafter.later hclock

-- Over a store that remembers what lasts, a used nonce is let through exactly when no
-- use of it lasts.
theorem unreplayed_iff (h : Guarded step nonces clock presented accepts)
    (hs : Remembers (nonces s.1) s.2.taken (clock s.1)) :
    Unreplayed accepts s label ↔ Lasting presented s label := by
  constructor
  · intro hunreplayed message hpresented hfine hused
    by_contra hcovered
    obtain ⟨after, hconsume, -⟩ := consume_uncovered message.envelope.expiresAt hs
      (h.later _ _ _ hpresented) hcovered
    have haccepts := (h.accepts_iff s.1 label message.envelope).mpr
      ⟨message, hpresented, hfine, rfl, by rw [hconsume]⟩
    exact hunreplayed _ haccepts hused
  · intro hlasting envelope haccepts hused
    obtain ⟨message, hpresented, hfine, rfl, hok⟩ := (h.accepts_iff s.1 label envelope).mp haccepts
    obtain ⟨after, hconsume, -⟩ := consume_covered message.envelope.expiresAt hs
      (h.later _ _ _ hpresented) (hlasting message hpresented hfine hused)
    rw [hconsume] at hok
    cases hok

theorem run_unreplayed_iff (h : Guarded step nonces clock presented accepts)
    (hs : Remembers (nonces s.1) s.2.taken (clock s.1)) :
    Along (watched step (noteUse nonces presented accepts)) (Unreplayed accepts) s labels ↔
      Along (watched step (noteUse nonces presented accepts)) (Lasting presented) s labels :=
  along_iff (fun s => Remembers (nonces s.1) s.2.taken (clock s.1))
    (fun _ _ hs => h.unreplayed_iff hs) (fun _ _ _ hs _ ht => h.remembers_step hs ht) hs

-- What is let through has used its nonce, so it is not let through twice.
structure Once (uses : Uses) : Prop where
  used : ∀ envelope ∈ uses.accepted, uses.Used envelope.nonce
  nodup : (uses.accepted.map RemoteTaskEnvelope.nonce).Nodup

theorem once_step (h : Guarded step nonces clock presented accepts) (hs : Once s.2)
    (hunreplayed : Unreplayed accepts s label)
    (ht : watched step (noteUse nonces presented accepts) s label = some t) : Once t.2 := by
  obtain ⟨-, hnote⟩ := watched_eq_some ht
  rw [hnote]
  have hkeep : ∀ nonce, s.2.Used nonce →
      (noteUse nonces presented accepts s.2 s.1 label).Used nonce :=
    fun nonce ⟨use, huse, hnonce⟩ => ⟨use, List.mem_append_right _ huse, hnonce⟩
  cases haccepts : accepts s.1 label with
  | none =>
      constructor
      · intro envelope hmem
        rw [noteUse, haccepts] at hmem
        exact hkeep _ (hs.used envelope hmem)
      · rw [noteUse, haccepts]
        exact hs.nodup
  | some envelope =>
      obtain ⟨message, hpresented, -, rfl, hok⟩ := (h.accepts_iff _ _ _).mp haccepts
      constructor
      · intro other hmem
        rw [noteUse, haccepts] at hmem
        rcases List.mem_cons.mp hmem with rfl | hmem
        · refine ⟨(message.envelope.nonce, message.envelope.expiresAt), ?_, rfl⟩
          simp [noteUse, takes, hpresented, hok]
        · exact hkeep _ (hs.used other hmem)
      · rw [noteUse, haccepts]
        refine List.nodup_cons.mpr ⟨fun hmem => ?_, hs.nodup⟩
        obtain ⟨other, hother, hnonce⟩ := List.mem_map.mp hmem
        exact hunreplayed _ haccepts (hnonce ▸ hs.used other hother)

theorem run_once (h : Guarded step nonces clock presented accepts) (hs : Once s.2)
    (hunreplayed : Along (watched step (noteUse nonces presented accepts)) (Unreplayed accepts) s
      labels)
    (ht : run (watched step (noteUse nonces presented accepts)) s labels = some t) : Once t.2 :=
  @run_invariant _ _ _ _ _ _ _ (fun s => Once s.2)
    (fun _ _ _ hs hstep ht => h.once_step hs hstep ht) hs hunreplayed ht

end Guarded

end Guarded

namespace ControlPlane

variable {setup : Setup} {s t : ControlPlane} {call : Call} {timed : Timed}
  {envelope : RemoteTaskEnvelope} {signingPrivateKey : String}

-- Only a remote task reaches the nonces.
theorem respond_nonces (h : ∀ envelope key, call ≠ .createRemoteTask envelope key) :
    (s.respond setup call).2.nonces = s.nonces := by
  cases call with
  | createRemoteTask envelope key => exact absurd rfl (h envelope key)
  | beginPairing => rfl
  | approvePairing =>
      dsimp only [respond, approvePairing]
      repeat' split
      all_goals rfl
  | cancelPairing =>
      dsimp only [respond, cancelPairing]
      split <;> rfl
  | registerNode =>
      dsimp only [respond, registerNode]
      repeat' split
      all_goals rfl
  | grantWorkspace =>
      dsimp only [respond, grantWorkspace]
      split <;> rfl
  | revokeNode =>
      dsimp only [respond, revokeNode]
      split <;> rfl

theorem step_clock (h : s.step setup timed = some t) : t.clock = s.clock + timed.elapsed := by
  rw [(step_eq_some h).2]
  exact respond_clock

theorem step_nonces (h : s.step setup timed = some t)
    (hcall : ∀ envelope key, timed.call ≠ .createRemoteTask envelope key) :
    t.nonces = s.nonces := by
  rw [(step_eq_some h).2]
  exact respond_nonces hcall

-- The remote task that gets past what is checked before the nonces, and whether it can
-- be signed.
def presented (setup : Setup) (s : ControlPlane) (timed : Timed) : Option Presented :=
  match timed.call with
  | .createRemoteTask envelope signingPrivateKey =>
      let s := s.ready timed
      if s.taskRefused envelope = none then
        some {
          now := s.clock
          envelope := envelope
          fine := (setup.sign envelope signingPrivateKey).isOk }
      else none
  | _ => none

-- The remote task that is answered with its signed envelope.
def acceptsTask (setup : Setup) (s : ControlPlane) (timed : Timed) : Option RemoteTaskEnvelope :=
  match timed.call with
  | .createRemoteTask envelope signingPrivateKey =>
      match ((s.ready timed).createRemoteTask setup envelope signingPrivateKey).1 with
      | .ok _ => some envelope
      | .error _ => none
  | _ => none

theorem createRemoteTask_nonces (hrefused : s.taskRefused envelope = none) :
    (s.createRemoteTask setup envelope signingPrivateKey).2.nonces =
      (s.nonces.consume s.clock envelope.nonce envelope.expiresAt).2 := by
  simp only [createRemoteTask, hrefused]
  split
  · next hconsume => rw [hconsume]
  · next hconsume =>
      rw [hconsume]
      split <;> rfl

theorem createRemoteTask_refused {error : Raised} (hrefused : s.taskRefused envelope = some error) :
    s.createRemoteTask setup envelope signingPrivateKey = (.error error, s) := by
  simp only [createRemoteTask, hrefused]

theorem createRemoteTask_ok_iff (hrefused : s.taskRefused envelope = none) :
    (s.createRemoteTask setup envelope signingPrivateKey).1.isOk ↔
      (setup.sign envelope signingPrivateKey).isOk ∧
        (s.nonces.consume s.clock envelope.nonce envelope.expiresAt).1 = .ok () := by
  simp only [createRemoteTask, hrefused]
  split
  · next hconsume => simp [hconsume, Except.isOk, Except.toBool]
  · next hconsume =>
      rw [hconsume]
      cases setup.sign envelope signingPrivateKey <;> simp [Except.isOk, Except.toBool]

theorem step_createRemoteTask (hcall : timed.call = .createRemoteTask envelope signingPrivateKey) :
    s.step setup timed = some ((s.ready timed).createRemoteTask setup envelope
      signingPrivateKey).2 := by
  simp [step, hcall, Call.made, respond]

theorem presented_eq_some {message : Presented} (h : presented setup s timed = some message) :
    ∃ envelope signingPrivateKey, timed.call = .createRemoteTask envelope signingPrivateKey ∧
      (s.ready timed).taskRefused envelope = none ∧
      message = ⟨(s.ready timed).clock, envelope,
        (setup.sign envelope signingPrivateKey).isOk⟩ := by
  unfold presented at h
  dsimp only at h
  split at h
  · next envelope signingPrivateKey hcall =>
      split at h
      · next hrefused =>
          exact ⟨envelope, signingPrivateKey, hcall, hrefused, (Option.some.inj h).symm⟩
      · cases h
  · cases h

theorem presented_eq_none (h : presented setup s timed = none)
    (hcall : timed.call = .createRemoteTask envelope signingPrivateKey) :
    ∃ error, (s.ready timed).taskRefused envelope = some error := by
  simp only [presented, hcall, ite_eq_right_iff, reduceCtorEq, imp_false] at h
  exact Option.ne_none_iff_exists'.mp h

theorem acceptsTask_iff : acceptsTask setup s timed = some envelope ↔
    ∃ signingPrivateKey, timed.call = .createRemoteTask envelope signingPrivateKey ∧
      ((s.ready timed).createRemoteTask setup envelope signingPrivateKey).1.isOk := by
  constructor
  · intro h
    unfold acceptsTask at h
    split at h
    · next signingPrivateKey hcall =>
        split at h
        · next hanswer =>
            obtain rfl := Option.some.inj h
            exact ⟨signingPrivateKey, hcall, by rw [hanswer]; rfl⟩
        · cases h
    · cases h
  · rintro ⟨signingPrivateKey, hcall, hok⟩
    simp only [acceptsTask, hcall]
    split
    · rfl
    · next hanswer =>
        rw [hanswer] at hok
        cases hok

theorem guarded (setup : Setup) : Guarded (step setup) nonces clock (presented setup)
    (acceptsTask setup) := by
  constructor
  case idle =>
    intro s timed t ht hpresented
    have hclock : s.clock ≤ t.clock :=
      step_clock ht ▸ Int.le_add_of_nonneg_right (Int.natCast_nonneg _)
    refine ⟨?_, hclock⟩
    by_cases hcall : ∀ envelope key, timed.call ≠ .createRemoteTask envelope key
    · exact step_nonces ht hcall
    · push Not at hcall
      obtain ⟨envelope, key, hcall⟩ := hcall
      obtain ⟨error, herror⟩ := presented_eq_none hpresented hcall
      rw [step_createRemoteTask hcall, createRemoteTask_refused herror] at ht
      rw [← Option.some.inj ht]
      rfl
  case consumed =>
    intro s timed t message ht hpresented
    obtain ⟨envelope, key, hcall, hrefused, rfl⟩ := presented_eq_some hpresented
    refine ⟨?_, le_of_eq (step_clock ht).symm⟩
    rw [step_createRemoteTask hcall] at ht
    rw [← Option.some.inj ht]
    exact createRemoteTask_nonces hrefused
  case later =>
    intro s timed message hpresented
    obtain ⟨envelope, key, -, -, rfl⟩ := presented_eq_some hpresented
    exact Int.le_add_of_nonneg_right (Int.natCast_nonneg _)
  case accepts_iff =>
    intro s timed envelope
    rw [acceptsTask_iff]
    constructor
    · rintro ⟨key, hcall, hok⟩
      have hrefused : (s.ready timed).taskRefused envelope = none := by
        by_contra hrefused
        obtain ⟨error, herror⟩ := Option.ne_none_iff_exists'.mp hrefused
        rw [createRemoteTask_refused herror] at hok
        cases hok
      obtain ⟨hsign, hconsume⟩ := (createRemoteTask_ok_iff hrefused).mp hok
      refine ⟨⟨(s.ready timed).clock, envelope, (setup.sign envelope key).isOk⟩, ?_,
        hsign, rfl, hconsume⟩
      simp only [presented, hcall, hrefused, if_true]
    · rintro ⟨message, hpresented, hfine, rfl, hconsume⟩
      obtain ⟨envelope, key, hcall, hrefused, rfl⟩ := presented_eq_some hpresented
      exact ⟨key, hcall, (createRemoteTask_ok_iff hrefused).mpr ⟨hfine, hconsume⟩⟩

end ControlPlane

namespace NodeTaskValidator

variable {verification : Verification} {v w : NodeTaskValidator} {call : Validation}

-- The envelope that is verified, at the second look at the clock, and whether it is
-- addressed and granted.
def presented (verification : Verification) (v : NodeTaskValidator) (call : Validation) :
    Option Presented :=
  let first := v.clock + call.elapsed
  match verifyEnvelope verification first call.envelope with
  | .ok () => some {
      now := first + call.between
      envelope := call.envelope
      fine := (granted call).isOk }
  | .error _ => none

-- The envelope that the node goes on to execute.
def executes (verification : Verification) (v : NodeTaskValidator) (call : Validation) :
    Option RemoteTaskEnvelope :=
  match (v.validate verification call).1 with
  | .ok _ => some call.envelope
  | .error _ => none

theorem presented_eq_some {message : Presented} (h : presented verification v call = some message) :
    verifyEnvelope verification (v.clock + call.elapsed) call.envelope = .ok () ∧
      message = ⟨v.clock + call.elapsed + call.between, call.envelope, (granted call).isOk⟩ := by
  unfold presented at h
  dsimp only at h
  split at h
  · next hverify => exact ⟨hverify, (Option.some.inj h).symm⟩
  · cases h

theorem later_clock : v.clock ≤ v.clock + call.elapsed + call.between :=
  (Int.le_add_of_nonneg_right (Int.natCast_nonneg _)).trans
    (Int.le_add_of_nonneg_right (Int.natCast_nonneg _))

theorem validate_clock :
    (v.validate verification call).2.clock = v.clock + call.elapsed + call.between := by
  unfold validate
  dsimp only
  split
  · rfl
  · split <;> rfl

theorem validate_refused (h : presented verification v call = none) :
    ∃ error, v.validate verification call =
      (.error error, { v with clock := v.clock + call.elapsed + call.between }) := by
  unfold presented at h
  dsimp only at h
  split at h
  · cases h
  · next error hverify => exact ⟨error, by simp only [validate, hverify]⟩

theorem validate_verified
    (h : verifyEnvelope verification (v.clock + call.elapsed) call.envelope = .ok ()) :
    v.validate verification call =
      match v.nonces.consume (v.clock + call.elapsed + call.between) call.envelope.nonce
          call.envelope.expiresAt with
      | (.error error, nonces) => (.error error, ⟨v.clock + call.elapsed + call.between, nonces⟩)
      | (.ok (), nonces) => (granted call, ⟨v.clock + call.elapsed + call.between, nonces⟩) := by
  rcases hconsume : v.nonces.consume (v.clock + call.elapsed + call.between)
    call.envelope.nonce call.envelope.expiresAt with ⟨answer, nonces⟩
  cases answer <;> simp only [validate, h, hconsume]

theorem executes_iff {envelope : RemoteTaskEnvelope} : executes verification v call = some envelope ↔
    (v.validate verification call).1.isOk ∧ call.envelope = envelope := by
  unfold executes
  split
  · next hanswer => simp [hanswer, Except.isOk, Except.toBool]
  · next hanswer => simp [hanswer, Except.isOk, Except.toBool]

theorem validate_ok_iff
    (h : verifyEnvelope verification (v.clock + call.elapsed) call.envelope = .ok ()) :
    (v.validate verification call).1.isOk ↔ (granted call).isOk ∧
      (v.nonces.consume (v.clock + call.elapsed + call.between) call.envelope.nonce
        call.envelope.expiresAt).1 = .ok () := by
  rw [validate_verified h]
  split
  · next hconsume => simp [hconsume, Except.isOk, Except.toBool]
  · next hconsume => simp [hconsume]

theorem guarded (verification : Verification) : Guarded (step verification) nonces clock
    (presented verification) (executes verification) := by
  constructor
  case idle =>
    intro v call w hw hpresented
    obtain ⟨error, herror⟩ := validate_refused hpresented
    rw [← Option.some.inj hw, herror]
    exact ⟨rfl, later_clock⟩
  case consumed =>
    intro v call w message hw hpresented
    obtain ⟨hverify, rfl⟩ := presented_eq_some hpresented
    rw [← Option.some.inj hw]
    refine ⟨?_, le_of_eq validate_clock.symm⟩
    rw [validate_verified hverify]
    split
    · next hconsume => rw [hconsume]
    · next hconsume => rw [hconsume]
  case later =>
    intro v call message hpresented
    obtain ⟨-, rfl⟩ := presented_eq_some hpresented
    exact later_clock
  case accepts_iff =>
    intro v call envelope
    rw [executes_iff]
    constructor
    · rintro ⟨hok, rfl⟩
      cases hpresented : presented verification v call with
      | none =>
          obtain ⟨error, herror⟩ := validate_refused hpresented
          rw [herror] at hok
          cases hok
      | some message =>
          obtain ⟨hverify, rfl⟩ := presented_eq_some hpresented
          obtain ⟨hgranted, hconsume⟩ := (validate_ok_iff hverify).mp hok
          exact ⟨_, rfl, hgranted, rfl, hconsume⟩
    · rintro ⟨message, hpresented, hfine, rfl, hconsume⟩
      obtain ⟨hverify, rfl⟩ := presented_eq_some hpresented
      exact ⟨(validate_ok_iff hverify).mpr ⟨hfine, hconsume⟩, rfl⟩

end NodeTaskValidator

-- Over every run each nonce is let through once, and never after a use of it.
structure ReplayProtected {State Label : Type*} (step : State → Label → Option State)
    (note : Uses → State → Label → Uses) (accepts : State → Label → Option RemoteTaskEnvelope)
    (first : State) (labels : List Label) : Prop where
  once : ∀ last uses, run (watched step note) (first, {}) labels = some (last, uses) →
    (uses.accepted.map RemoteTaskEnvelope.nonce).Nodup
  unreplayed : Along (watched step note) (Unreplayed accepts) (first, {}) labels

theorem Guarded.protects_iff {State Label : Type*} {step : State → Label → Option State}
    {nonces : State → NonceStore} {clock : State → Time}
    {presented : State → Label → Option Presented}
    {accepts : State → Label → Option RemoteTaskEnvelope} {first : State} {labels : List Label}
    (h : Guarded step nonces clock presented accepts) (hfirst : nonces first = ∅) :
    ReplayProtected step (noteUse nonces presented accepts) accepts first labels ↔
      Along (watched step (noteUse nonces presented accepts)) (Lasting presented) (first, {})
        labels := by
  have hremembers : Remembers (nonces first) [] (clock first) := by
    rw [hfirst]
    exact ⟨fun _ _ hlookup => (Option.some_ne_none _ hlookup.symm).elim,
      fun _ huse => (List.not_mem_nil huse).elim⟩
  constructor
  · intro hprotected
    exact (h.run_unreplayed_iff hremembers).mp hprotected.unreplayed
  · intro hlasting
    have hunreplayed := (h.run_unreplayed_iff hremembers).mpr hlasting
    refine ⟨fun last uses hlast => ?_, hunreplayed⟩
    have hnone : Guarded.Once {} := ⟨fun _ hmem => (List.not_mem_nil hmem).elim, List.nodup_nil⟩
    exact (h.run_once hnone hunreplayed hlast).nodup

abbrev ControlPlane.noteTask (setup : Setup) : Uses → ControlPlane → ControlPlane.Timed → Uses :=
  noteUse ControlPlane.nonces (ControlPlane.presented setup) (ControlPlane.acceptsTask setup)

abbrev NodeTaskValidator.noteValidation (verification : Verification) :
    Uses → NodeTaskValidator → Validation → Uses :=
  noteUse NodeTaskValidator.nonces (NodeTaskValidator.presented verification)
    (NodeTaskValidator.executes verification)

-- Replays are refused, by the control plane over every store that it is given and by the
-- node, exactly when each message that would otherwise be let through with a used nonce
-- comes before a use of that nonce has expired.
theorem replayProtected_iff (setup : Setup) (store : ControlPlane)
    (calls : List ControlPlane.Timed) (verification : Verification) (start : Time)
    (validations : List Validation) :
    (ReplayProtected (ControlPlane.step setup) (ControlPlane.noteTask setup)
        (ControlPlane.acceptsTask setup) { store with nonces := ∅ } calls ∧
      ReplayProtected (NodeTaskValidator.step verification)
        (NodeTaskValidator.noteValidation verification) (NodeTaskValidator.executes verification)
        { clock := start } validations) ↔
    (Along (watched (ControlPlane.step setup) (ControlPlane.noteTask setup))
        (Lasting (ControlPlane.presented setup)) ({ store with nonces := ∅ }, {}) calls ∧
      Along (watched (NodeTaskValidator.step verification)
          (NodeTaskValidator.noteValidation verification))
        (Lasting (NodeTaskValidator.presented verification)) ({ clock := start }, {})
        validations) :=
  and_congr ((ControlPlane.guarded setup).protects_iff rfl)
    ((NodeTaskValidator.guarded verification).protects_iff rfl)

namespace Replayed

def setup : Setup where
  sha256 code := code
  sign _ key := .ok key

def envelope (expiresAt : Time) : RemoteTaskEnvelope where
  id := "task"
  taskContextId := "context"
  organisationId := "org"
  workspaceId := "ws"
  nodeId := "node"
  userId := "user"
  browserSessionId := "session"
  harnessId := "opencode"
  task := "run"
  nonce := "nonce"
  issuedAt := 0
  expiresAt := expiresAt
  keyId := "key"

def grant : WorkspaceGrant := { id := "grant", workspaceId := "ws", nodeId := "node", rootPath := "/" }

-- The last two calls bring an envelope that had expired before the first of them.
def calls : List ControlPlane.Timed := [
  ⟨10, .beginPairing "org" "ws" "challenge" "pairing" "user-code" "device-code"⟩,
  ⟨1, .approvePairing "pairing" "user"⟩,
  ⟨1, .registerNode "pairing" "device-code" "mac" "public" "key" "darwin" "1" "node"⟩,
  ⟨1, .grantWorkspace grant "user"⟩,
  ⟨1, .createRemoteTask (envelope 5) "private"⟩,
  ⟨1, .createRemoteTask (envelope 5) "private"⟩]

def verification : Verification where
  controlPlanePublicKey := "public"
  verify _ _ := .ok ()

-- The envelope expires between the two looks at the clock of the second validation.
def validations : List Validation := [
  { elapsed := 9, between := 0, envelope := envelope 10, nodeId := "node", grants := [grant],
    resolveWorkspacePath := fun root _ => .ok root },
  { elapsed := 0, between := 1, envelope := envelope 10, nodeId := "node", grants := [grant],
    resolveWorkspacePath := fun root _ => .ok root }]

end Replayed

-- The control plane signs an expired envelope twice, and the node executes one twice.
theorem envelopes_replayed :
    ¬(ReplayProtected (ControlPlane.step Replayed.setup) (ControlPlane.noteTask Replayed.setup)
        (ControlPlane.acceptsTask Replayed.setup) {} Replayed.calls) ∧
      ¬(ReplayProtected (NodeTaskValidator.step Replayed.verification)
        (NodeTaskValidator.noteValidation Replayed.verification)
        (NodeTaskValidator.executes Replayed.verification) {} Replayed.validations) := by
  have hcalls : (run (watched (ControlPlane.step Replayed.setup)
      (ControlPlane.noteTask Replayed.setup)) ({}, {}) Replayed.calls).map (fun s =>
        s.2.accepted.map RemoteTaskEnvelope.nonce) = some ["nonce", "nonce"] := by decide +kernel
  have hvalidations : (run (watched (NodeTaskValidator.step Replayed.verification)
      (NodeTaskValidator.noteValidation Replayed.verification)) ({}, {})
        Replayed.validations).map (fun s =>
          s.2.accepted.map RemoteTaskEnvelope.nonce) = some ["nonce", "nonce"] := by decide +kernel
  constructor
  · intro h
    obtain ⟨⟨last, uses⟩, hrun, haccepted⟩ := Option.map_eq_some_iff.mp hcalls
    have honce := h.once last uses hrun
    rw [haccepted] at honce
    exact absurd honce (by decide)
  · intro h
    obtain ⟨⟨last, uses⟩, hrun, haccepted⟩ := Option.map_eq_some_iff.mp hvalidations
    have honce := h.once last uses hrun
    rw [haccepted] at honce
    exact absurd honce (by decide)

end JoyMesh.Control
