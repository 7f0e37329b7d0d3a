import JoyMesh.Lifecycle.Models

namespace JoyMesh.Control

open JoyMesh.Library

export JoyMesh.Lifecycle (Raised keyError valueError permissionError)

structure RemoteTaskEnvelope where
  id : String
  taskContextId : String
  organisationId : String
  workspaceId : String
  nodeId : String
  userId : String
  browserSessionId : String
  harnessId : String
  task : String
  requiredCapabilities : List String := []
  approvalId : Option String := none
  nonce : String
  issuedAt : Time
  expiresAt : Time
  keyId : String
  signature : String := ""
deriving DecidableEq

structure WorkspaceGrant where
  id : String
  workspaceId : String
  nodeId : String
  rootPath : String
  revokedAt : Option Time := none
deriving DecidableEq

-- Each nonce with the expiry of the message that used it.
abbrev NonceStore := Table String Time

namespace NonceStore

def replayDetected : Raised := ⟨"ReplayDetectedError", "message nonce has already been used"⟩

-- What has expired is forgotten before the nonce is looked for.
def consume (store : NonceStore) (now : Time) (nonce : String) (expiresAt : Time) :
    Except Raised Unit × NonceStore :=
  let seen := store.keep fun expiry => decide (now < expiry)
  match seen.lookup nonce with
  | some _ => (.error replayDetected, seen)
  | none => (.ok (), seen.insert nonce expiresAt)

-- A nonce that was taken with an expiry that has not been reached.
def Covered (taken : List (String × Time)) (now : Time) (nonce : String) : Prop :=
  ∃ use ∈ taken, use.1 = nonce ∧ now < use.2

instance (taken : List (String × Time)) (now : Time) (nonce : String) :
    Decidable (Covered taken now nonce) :=
  inferInstanceAs (Decidable (∃ use ∈ taken, _ ∧ _))

-- The store knows the uses that have not expired by the clock, and no others.
structure Remembers (store : NonceStore) (taken : List (String × Time)) (clock : Time) : Prop where
  sound : ∀ nonce expiry, store.lookup nonce = some expiry → (nonce, expiry) ∈ taken
  complete : ∀ use ∈ taken, clock < use.2 → store.lookup use.1 = some use.2

variable {store : NonceStore} {taken : List (String × Time)} {clock now : Time} {nonce : String}

theorem Remembers.later (h : Remembers store taken clock) (hnow : clock ≤ now) :
    Remembers store taken now :=
  ⟨h.sound, fun use huse hlive => h.complete use huse (Int.lt_of_le_of_lt hnow hlive)⟩

theorem Remembers.prune (h : Remembers store taken clock) (hnow : clock ≤ now) :
    Remembers (store.keep fun expiry => decide (now < expiry)) taken now := by
  constructor
  · intro nonce expiry hlookup
    rw [Table.lookup_keep, Option.filter_eq_some_iff] at hlookup
    exact h.sound nonce expiry hlookup.1
  · intro use huse hlive
    rw [Table.lookup_keep, h.complete use huse (Int.lt_of_le_of_lt hnow hlive)]
    simp [hlive]

-- Nonces are refused exactly while a use of them lasts.
theorem lookup_pruned_iff (h : Remembers store taken clock) (hnow : clock ≤ now) :
    ((store.keep fun expiry => decide (now < expiry)).lookup nonce).isSome ↔
      Covered taken now nonce := by
  constructor
  · intro hseen
    obtain ⟨expiry, hlookup⟩ := Option.isSome_iff_exists.mp hseen
    have huse := (h.prune hnow).sound nonce expiry hlookup
    rw [Table.lookup_keep, Option.filter_eq_some_iff] at hlookup
    exact ⟨_, huse, rfl, of_decide_eq_true hlookup.2⟩
  · rintro ⟨use, huse, rfl, hlive⟩
    rw [(h.prune hnow).complete use huse hlive]
    rfl

theorem consume_covered (expiresAt : Time) (h : Remembers store taken clock)
    (hnow : clock ≤ now) (hcovered : Covered taken now nonce) :
    ∃ after, store.consume now nonce expiresAt = (.error replayDetected, after) ∧
      Remembers after taken now := by
  obtain ⟨expiry, hlookup⟩ := Option.isSome_iff_exists.mp ((lookup_pruned_iff h hnow).mpr hcovered)
  exact ⟨_, by simp only [consume, hlookup], h.prune hnow⟩

theorem Remembers.insert {expiresAt : Time} (h : Remembers store taken clock)
    (hcovered : ¬Covered taken clock nonce) :
    Remembers (AList.insert nonce expiresAt store) ((nonce, expiresAt) :: taken) clock := by
  constructor
  · intro other expiry hlookup
    rcases Table.lookup_insert_cases hlookup with ⟨rfl, rfl⟩ | ⟨-, hlookup⟩
    · exact List.mem_cons_self
    · exact List.mem_cons_of_mem _ (h.sound other expiry hlookup)
  · intro use hmem hlive
    rcases List.mem_cons.mp hmem with rfl | huse
    · exact AList.lookup_insert _
    · have hne : use.1 ≠ nonce := by
        rintro rfl
        exact hcovered ⟨use, huse, rfl, hlive⟩
      rw [AList.lookup_insert_ne hne]
      exact h.complete use huse hlive

theorem consume_uncovered (expiresAt : Time) (h : Remembers store taken clock)
    (hnow : clock ≤ now) (hcovered : ¬Covered taken now nonce) :
    ∃ after, store.consume now nonce expiresAt = (.ok (), after) ∧
      Remembers after ((nonce, expiresAt) :: taken) now := by
  have hnone := mt (lookup_pruned_iff h hnow).mp hcovered
  rw [Option.not_isSome_iff_eq_none] at hnone
  have hconsume : store.consume now nonce expiresAt = (.ok (),
      (store.keep fun expiry => decide (now < expiry)).insert nonce expiresAt) := by
    simp only [consume, hnone]
  exact ⟨_, hconsume, (h.prune hnow).insert hcovered⟩

end NonceStore

-- The public key, and the check of an Ed25519 signature with it, which raises.
structure Verification where
  controlPlanePublicKey : String
  verify : RemoteTaskEnvelope → String → Except Raised Unit

-- A call, with what the file system makes of a path under a root, and with the time that
-- passes before it and from its first look at the clock to its second one.
structure Validation where
  elapsed : Nat
  between : Nat
  envelope : RemoteTaskEnvelope
  nodeId : String
  grants : List WorkspaceGrant
  requestedPath : String := "."
  resolveWorkspacePath : String → String → Except Raised String

structure NodeTaskValidator where
  clock : Time := 0
  nonces : NonceStore := ∅

def expiredMessage : Raised :=
  ⟨"ExpiredMessageError", "remote task envelope has expired"⟩

def verifyEnvelope (verification : Verification) (now : Time) (envelope : RemoteTaskEnvelope) :
    Except Raised Unit :=
  if envelope.expiresAt ≤ now then .error expiredMessage
  else verification.verify envelope verification.controlPlanePublicKey

namespace NodeTaskValidator

-- What is checked once the nonce is taken.
def granted (call : Validation) : Except Raised String :=
  if call.envelope.nodeId ≠ call.nodeId then
    .error (permissionError "task is addressed to another node")
  else
    match call.grants.find? fun item => item.nodeId = call.nodeId
        && item.workspaceId = call.envelope.workspaceId && item.revokedAt.isNone with
    | none => .error (permissionError "workspace permission is missing or revoked")
    | some grant => call.resolveWorkspacePath grant.rootPath call.requestedPath

variable (verification : Verification) (v : NodeTaskValidator) (call : Validation)

def validate : Except Raised String × NodeTaskValidator :=
  let first := v.clock + call.elapsed
  let second := first + call.between
  let v := { v with clock := second }
  match verifyEnvelope verification first call.envelope with
  | .error error => (.error error, v)
  | .ok () =>
      match v.nonces.consume second call.envelope.nonce call.envelope.expiresAt with
      | (.error error, nonces) => (.error error, { v with nonces := nonces })
      | (.ok (), nonces) => (granted call, { v with nonces := nonces })

def step : Option NodeTaskValidator := some (v.validate verification call).2

end NodeTaskValidator

end JoyMesh.Control
