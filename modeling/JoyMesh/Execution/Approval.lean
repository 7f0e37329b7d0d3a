import JoyMesh.Control.Nonces

namespace JoyMesh.Execution

open JoyMesh.Library JoyMesh.Control

structure ExecutionApprovalRequest where
  approvalId : String
  executionId : String
  attemptId : String
  directiveHash : String
  reason : String
  createdAt : Time
  expiresAt : Time
  nonce : String
deriving DecidableEq

structure ExecutionApprovalResponse where
  approvalId : String
  executionId : String
  attemptId : String
  directiveHash : String
  approved : Bool
  nonce : String
  expiresAt : Time
  signature : String
  publicKey : String
deriving DecidableEq

-- What is signed. Its canonical JSON text determines it.
structure ApprovalPayload where
  approvalId : String
  executionId : String
  attemptId : String
  directiveHash : String
  approved : Bool
  nonce : String
  expiresAt : Time
deriving DecidableEq

def ExecutionApprovalResponse.payload (response : ExecutionApprovalResponse) : ApprovalPayload where
  approvalId := response.approvalId
  executionId := response.executionId
  attemptId := response.attemptId
  directiveHash := response.directiveHash
  approved := response.approved
  nonce := response.nonce
  expiresAt := response.expiresAt

def ExecutionApprovalRequest.payload (request : ExecutionApprovalRequest) (approved : Bool) :
    ApprovalPayload where
  approvalId := request.approvalId
  executionId := request.executionId
  attemptId := request.attemptId
  directiveHash := request.directiveHash
  approved := approved
  nonce := request.nonce
  expiresAt := request.expiresAt

-- The digest of a directive, and Ed25519: the keys of the service, the signature under
-- its private key, and the check under any public key, which raises.
structure Keyring where
  directiveHash : Value → Except Raised String
  publicKey : String
  signBytes : ApprovalPayload → String
  verifyBytes : ApprovalPayload → String → String → Except Raised Unit

structure ApprovalContinuationService where
  clock : Time := 0
  defaultTtl : Time := 900000000
  seenNonces : NonceStore := ∅
  pending : Table String ExecutionApprovalRequest := ∅

def expiredRequest : Raised := ⟨"ExpiredMessageError", "approval request has expired"⟩

def expiredResponse : Raised := ⟨"ExpiredMessageError", "approval response has expired"⟩

def approvalReplayed : Raised := ⟨"ReplayDetectedError", "approval nonce has already been used"⟩

def isAscii (character : Char) : Bool := character.toNat < 128

-- The comparison in constant time takes ASCII text alone.
def compareDigest (first second : String) : Except Raised Bool :=
  if first.toList.all isAscii && second.toList.all isAscii then .ok (first = second)
  else .error ⟨"TypeError", "comparing strings with non-ASCII characters is not supported"⟩

inductive ApprovalCall where
  | requestApproval (executionId attemptId : String) (directivePayload : Value) (reason : String)
      (expiresAt : Option Time) (approvalId nonce : String)
  | signResponse (request : ExecutionApprovalRequest) (approved : Bool)
  | verifyResponse (response : ExecutionApprovalResponse)
      (expectedExecutionId expectedAttemptId expectedDirectiveHash : String)

inductive ApprovalAnswer where
  | request (request : ExecutionApprovalRequest)
  | response (response : ExecutionApprovalResponse)
  | verified

-- Time passes before a call and between its two looks at the clock.
structure TimedApproval where
  elapsed : Nat
  between : Nat
  call : ApprovalCall

namespace ApprovalContinuationService

variable (keyring : Keyring) (s : ApprovalContinuationService) (between : Nat)

def passed (elapsed : Nat) : ApprovalContinuationService := { s with clock := s.clock + elapsed }

def requestApproval (executionId attemptId : String) (directivePayload : Value) (reason : String)
    (expiresAt : Option Time) (approvalId nonce : String) :
    Except Raised ExecutionApprovalRequest × ApprovalContinuationService :=
  match keyring.directiveHash directivePayload with
  | .error error => (.error error, s)
  | .ok directiveHash =>
      let later := s.passed between
      let request : ExecutionApprovalRequest := {
        approvalId := approvalId
        executionId := executionId
        attemptId := attemptId
        directiveHash := directiveHash
        reason := reason
        createdAt := later.clock
        expiresAt := expiresAt.getD (s.clock + s.defaultTtl)
        nonce := nonce }
      (.ok request, { later with pending := later.pending.insert request.approvalId request })

-- Any request is signed that has not expired.
def signResponse (request : ExecutionApprovalRequest) (approved : Bool) :
    Except Raised ExecutionApprovalResponse :=
  if request.expiresAt ≤ s.clock then .error expiredRequest
  else
    .ok {
      approvalId := request.approvalId
      executionId := request.executionId
      attemptId := request.attemptId
      directiveHash := request.directiveHash
      approved := approved
      nonce := request.nonce
      expiresAt := request.expiresAt
      signature := keyring.signBytes (request.payload approved)
      publicKey := keyring.publicKey }

def bindings (response : ExecutionApprovalResponse)
    (expectedExecutionId expectedAttemptId expectedDirectiveHash : String) : Except Raised Bool := do
  let execution ← compareDigest response.executionId expectedExecutionId
  let attempt ← compareDigest response.attemptId expectedAttemptId
  let directive ← compareDigest response.directiveHash expectedDirectiveHash
  return execution && attempt && directive

-- What is checked once the nonce is known to be new.
def checked (response : ExecutionApprovalResponse)
    (expectedExecutionId expectedAttemptId expectedDirectiveHash : String) : Except Raised Unit :=
  match bindings response expectedExecutionId expectedAttemptId expectedDirectiveHash with
  | .error error => .error error
  | .ok false => .error (permissionError "approval is not bound to this execution")
  | .ok true =>
      match keyring.verifyBytes response.payload response.signature response.publicKey with
      | .error error => .error error
      | .ok () =>
          if response.approved then .ok () else .error (permissionError "execution was not approved")

-- The key is the one that the response brings, and what is pending is not looked at.
def verifyResponse (response : ExecutionApprovalResponse)
    (expectedExecutionId expectedAttemptId expectedDirectiveHash : String) :
    Except Raised Unit × ApprovalContinuationService :=
  if response.expiresAt ≤ s.clock then (.error expiredResponse, s)
  else
    let later := s.passed between
    let seen := later.seenNonces.keep fun expiry => decide (later.clock < expiry)
    let pruned := { later with seenNonces := seen }
    match seen.lookup response.nonce with
    | some _ => (.error approvalReplayed, pruned)
    | none =>
        match checked keyring response expectedExecutionId expectedAttemptId
            expectedDirectiveHash with
        | .error error => (.error error, pruned)
        | .ok () => (.ok (), { pruned with
            seenNonces := seen.insert response.nonce response.expiresAt
            pending := pruned.pending.erase response.approvalId })

def respond (between : Nat) : ApprovalCall → Except Raised ApprovalAnswer × ApprovalContinuationService
  | .requestApproval executionId attemptId directivePayload reason expiresAt approvalId nonce =>
      let (answer, s) := s.requestApproval keyring between executionId attemptId directivePayload
        reason expiresAt approvalId nonce
      (answer.map .request, s)
  | .signResponse request approved => ((s.signResponse keyring request approved).map .response, s)
  | .verifyResponse response expectedExecutionId expectedAttemptId expectedDirectiveHash =>
      let (answer, s) := s.verifyResponse keyring between response expectedExecutionId
        expectedAttemptId expectedDirectiveHash
      (answer.map fun _ => .verified, s)

def step (timed : TimedApproval) : Option ApprovalContinuationService :=
  some ((s.passed timed.elapsed).respond keyring timed.between timed.call).2

end ApprovalContinuationService

end JoyMesh.Execution
