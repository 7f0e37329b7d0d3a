import JoyMesh.Completion.Successes
import JoyMesh.Runtime.Frames
import JoyMesh.Runtime.Ingestion

namespace JoyMesh.Runtime

open Library Routing Completion

-- What one route_task call has met so far.
structure Course where
  -- the record that the call has left in the store says that the task is leased
  recorded : Bool
  selected : String := ""
  submitted : Bool := false
  -- a remote submission has acquired a lease, and nothing has been raised since
  leased : Bool := false
  held : Bool := false
  unplaced : Bool := false
  -- the other backends that have run and those since the remote one, by their success
  others : List Bool := []
  since : List Bool := []
  text : String := "no backend attempted"

-- What the completion of a call was asked and what it answered.
structure CompletionRun where
  routed : Routed
  result : ExecutionResult
  verdict : CompletionVerdict

-- How a call ends: by a return or by an exception, and after which completion.
structure Ending where
  returned : Bool := false
  completion : Option CompletionRun := none

section Meetings

def succeeded : Outcome BackendResult → Bool
  | .returned result => result.ok
  | _ => false

def outcomeText : Outcome BackendResult → String
  | .returned result => result.message
  | .raised error => error.text
  | .aborted error => error.text

-- The failure that a backend's round meets before the try block, if any.
def openingText (intent : ExecutionIntent) (backendId : String) (turn : Routing.Turn) :
    Option String :=
  if turn.cancelled then some "execution cancelled"
  else
    match enforceEntitlements turn.entitlements intent (some backendId) with
    | .error error => some error.message
    | .ok _ =>
        match turn.registered with
        | .error text => some text
        | .ok _ =>
            match turn.health with
            | .returned health =>
                if !health.healthy ∨ health.state = "disabled" ∨ health.state = "unsupported" then
                  some health.detail
                else
                  match turn.supports with
                  | .returned false => some "capability mismatch"
                  | _ => none
            | _ => none

end Meetings

namespace Course

variable (course : Course)

def fails (text : String) : Course := { course with text }

def loses (error : PyError) : Course := { course with held := false, text := error.text }

def runs (outcome : Outcome BackendResult) : Course :=
  { course with
    others := course.others ++ [succeeded outcome]
    since := course.since ++ [succeeded outcome]
    text := outcomeText outcome }

-- What a submission meets, by its candidates and by the answer to the acquisition.
def submits (candidates : List RouteCandidate) (answer : Except LeaseRefusal (Option TaskLease)) :
    Course :=
  if candidates.any (·.eligible) then
    match answer with
    | .ok _ => { course with leased := true, held := true }
    | .error refusal => course.fails refusal.text
  else { course with unplaced := true, recorded := false }

-- The answer of the lease service to a submission.
def acquisition (s : RuntimeService) (fresh : RuntimeTaskRecord) (candidates : List RouteCandidate)
    (leaseId attemptId : String) (stamp : Time) : Except LeaseRefusal (Option TaskLease) :=
  match candidates.find? (·.eligible) with
  | none => .ok none
  | some candidate =>
      (s.leases.respond (s.lease (.acquire leaseId
        { taskId := fresh.taskId
          nodeId := candidate.nodeId
          connectorId := candidate.connectorId
          attemptId := attemptId }) stamp)).1

def meets (s : RuntimeService) : Call → Input → Course
  | .executing _, .raised error => course.runs (.raised error)
  | _, .raised error => course.loses error
  | .selecting .., .chosen (.ok decision) =>
      { course with selected := decision.selectedBackendId }
  | .trying routed _ (backendId :: _), .opened turn =>
      course.fails ((openingText routed.intent backendId turn).getD course.text)
  | .preparing _, .ranked _ => { course with submitted := true, since := [] }
  | .preparing _, .prepared (.raised error) => course.fails error.text
  | .submitting _ fresh candidates, .leasing leaseId attemptId stamp =>
      course.submits candidates (acquisition s fresh candidates leaseId attemptId stamp)
  | .recorded .., .go => { course with recorded := true }
  | .remote _ _, .validated (.raised error) => course.loses error
  | .remote _ submission, .validated (.returned _) =>
      course.fails (joymeshResult submission).message
  | .executing _, .executed outcome => course.runs outcome
  | _, _ => course

def begun (s : RuntimeService) (taskId : String) : Course where
  recorded := (s.tasks.lookup taskId).any (·.status = .leased)

end Course

-- The ending of a call whose last stretch has the effect.
def Effect.ending (effect : Effect) (call : Call) (input : Input) : Ending where
  returned := effect.answer.any Except.isOk
  completion :=
    match call, input with
    | .completing routed result, .completed verdict =>
        effect.saved.map fun _ => ⟨routed, result, verdict⟩
    | _, _ => none

-- The course and the ending of the call with this number, over the steps of the service.
def noteCall (i : Nat) (noted : Course × Ending) (s : RuntimeService) : Label → Course × Ending
  | .resume j input =>
      if j = i then
        match s.calls i with
        | none => noted
        | some call =>
            match s.proceed call input with
            | none => noted
            | some effect => (noted.1.meets s call input, effect.ending call input)
      else noted
  | _ => noted

end JoyMesh.Runtime
