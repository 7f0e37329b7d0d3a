import JoyMesh.Library.JsonText
import JoyMesh.Routing.Intent

namespace JoyMesh.Connectors

open JoyMesh.Library JoyMesh.Routing

abbrev Dict := List (Points × JsonValue)

-- What the parsers take from the interpreter: the case mapping of its Unicode
-- tables, str() of what is no string, which floats are zero, the limits of json.
structure Interpreter where
  lower : Points → Points
  lower_nil : lower [] = []
  str : JsonValue → Except PyError Points
  floatTruthy : Points → Bool
  limits : Limits

def word (s : String) : JsonValue := .str (points s)

def event (items : List (String × JsonValue)) : Dict := items.map (Prod.map points id)

def Dict.get (payload : Dict) (key : String) : JsonValue :=
  (lookup (points key) payload).getD .null

section Texts

def isToolChar (c : Nat) : Bool := (97 ≤ c && c ≤ 122) || isDigit c || c == 95 || c == 45

variable (fold : Nat → Nat)

def dropQuote : Points → Points
  | [] => []
  | c :: rest => if c = 34 ∨ c = 39 then rest else c :: rest

-- A name of a tool after a text and at most one quote, and what follows it.
def toolAfter (part : String) (text : Points) : Option (Points × Points) := do
  let rest ← dropText fold part text
  let name := (dropQuote rest).takeWhile fun c => isToolChar (fold c)
  guard (name ≠ [])
  return (name, (dropQuote rest).dropWhile fun c => isToolChar (fold c))

def refusalAfter (text : Points) : Bool :=
  match dropText fold " " (dropQuote text) with
  | none => false
  | some rest =>
      let verdict := (dropText fold "is " rest).getD rest
      (dropText fold "not allowed" verdict).isSome || (dropText fold "denied" verdict).isSome

end Texts

namespace Interpreter

variable (interp : Interpreter)

def truthy : JsonValue → Bool
  | .null => false
  | .bool b => b
  | .int n => n != 0
  | .float literal => interp.floatTruthy literal
  | .str text => !text.isEmpty
  | .arr items => !items.isEmpty
  | .obj members => !members.isEmpty

-- The operator or of Python.
def orElse (a b : JsonValue) : JsonValue := if interp.truthy a then a else b

def text : JsonValue → Except PyError Points
  | .str text => .ok text
  | value => interp.str value

-- str(value or "").
def textOf (value : JsonValue) : Except PyError Points := interp.text (interp.orElse value (word ""))

-- Only a JSONDecodeError is caught where a line is loaded.
def loadRecord (line : Points) : Except PyError (Option Dict) :=
  match loadsText interp.limits line with
  | .ok (.obj members) => .ok (some members)
  | .ok _ => .ok none
  | .error .decode => .ok none
  | .error .value =>
      .error { type := "ValueError", text := "Exceeds the limit for integer string conversion" }
  | .error .recursion =>
      .error { type := "RecursionError", text := "maximum recursion depth exceeded" }

end Interpreter

def isRecordLine (line : Points) : Bool := line.head? == some 123

def redactStatus (interp : Interpreter) (tokens : List String) (text : Points) : Points :=
  if includesAny (interp.lower text) tokens then points "[redacted status]" else text

-- A notice about a text: why it is one and the text, cut off.
def deniedText (reason : String) (text : Points) : Dict :=
  event [("event_type", word "permission.denied"), ("native_type", word "text"),
    ("reason_code", word reason), ("error", .str (text.take 300))]

def noticeText (reason : String) (text : Points) : Dict :=
  event [("event_type", word "message.output"), ("native_type", word "text"),
    ("text", .str (text.take 300)), ("reason_code", word reason)]

-- A reason, the subjects it is about and the words that deny them.
structure DenialCheck where
  reason : String
  subjects : List String
  verbs : List String

def denialsFromText (interp : Interpreter) (checks : List DenialCheck) (text : Points) :
    List Dict :=
  (checks.filter fun check => includesAny (interp.lower text) check.subjects &&
    includesAny (interp.lower text) check.verbs).map fun check => deniedText check.reason text

-- The first group of phrases that the text holds one of.
def statusNoticesFromText (interp : Interpreter) (groups : List (List String × String))
    (text : Points) : List Dict :=
  match groups.find? fun group => includesAny (interp.lower text) group.1 with
  | some group => [noticeText group.2 text]
  | none => []

def unknownEvent (native : Points) : Dict :=
  event [("event_type", word "message.output"),
    ("native_type", if native.isEmpty then word "unknown" else .str native)]

namespace CodexConnectorRuntime

variable (interp : Interpreter)

def lineEvents (line : Points) : Except PyError (List Dict) :=
  if isRecordLine (strip line) then (interp.loadRecord (strip line)).map Option.toList else .ok []

def parseCodexJsonl (output : Points) : Except PyError (List Dict) :=
  ((splitlines output).mapM (lineEvents interp)).map List.flatten

end CodexConnectorRuntime

namespace ClaudeConnectorRuntime

variable (interp : Interpreter)

def denialChecks : List DenialCheck :=
  [⟨"permission_denied_edit", ["edit", "write", "create file", "modify file", "delete file"],
      ["not allowed", "denied", "disallowed", "cannot", "can't", "unable"]⟩,
    ⟨"permission_denied_shell", ["bash", "shell", "terminal"],
      ["not allowed", "denied", "disallowed", "cannot", "can't", "unavailable"]⟩,
    ⟨"permission_denied_network",
      ["webfetch", "websearch", "web fetch", "web search", "network", "http"],
      ["not allowed", "denied", "disallowed", "cannot", "can't", "unavailable"]⟩,
    ⟨"permission_denied_external_path",
      ["outside", "external path", "outside the workspace", "add-dir"],
      ["not allowed", "denied", "disallowed", "cannot", "can't"]⟩,
    ⟨"permission_denied_subprocess", ["subprocess", "spawn", "launch another process"],
      ["not allowed", "denied", "disallowed", "cannot", "can't"]⟩]

def statusGroups : List (List String × String) :=
  [(["rate limit", "too many requests"], "connector_rate_limited"),
    (["quota", "usage limit"], "connector_quota_exhausted"),
    (["not logged", "please run /login", "authentication"], "connector_auth_required")]

def redact : Points → Points :=
  redactStatus interp ["api_key", "token", "bearer", "cookie", "sk-ant", "sk-"]

def reasonForTool (tool : Points) : String :=
  let name := interp.lower tool
  if isOneOf name ["edit", "write", "multiedit", "notebookedit"] then "permission_denied_edit"
  else if isOneOf name ["bash", "shell", "terminal"] then "permission_denied_shell"
  else if isOneOf name ["webfetch", "websearch", "web_search", "web_fetch"] then
    "permission_denied_network"
  else if isOneOf name ["agent", "task"] then "permission_denied_subprocess"
  else "permission_denied"

-- The three ways to find the tool that a denial is about.
def toolFromDenialText (text : Points) : Option Points :=
  let unavailable := text.tails.findSome? fun suffix =>
    (toolAfter foldCase "unavailable tool " suffix).map Prod.fst
  let refused := text.tails.findSome? fun suffix =>
    ((toolAfter foldCase "tool " suffix).filter fun found => refusalAfter foldCase found.2).map
      Prod.fst
  let named := (["Bash", "Edit", "Write", "WebFetch", "WebSearch", "Agent", "MultiEdit"].map
    points).find? fun tool =>
      (interp.lower text).tails.any fun suffix => (interp.lower tool).isPrefixOf suffix
  unavailable <|> refused <|> named

-- The texts that a list of content holds.
def contentText : JsonValue → Except PyError Points
  | .str text => .ok text
  | .arr items => do
      let parts ← items.mapM fun item => match item with
        | .obj members =>
            match Dict.get members "type" with
            | .str kind =>
                if kind = points "text" then (interp.textOf (Dict.get members "text")).map ([·])
                else .ok []
            | _ => .ok []
        | .str text => .ok [text]
        | _ => .ok []
      return [10].intercalate parts.flatten
  | _ => .ok []

def eventsFromToolResult (block : Dict) (sessionId : JsonValue) : Except PyError (List Dict) := do
  let text ← contentText interp (block.get "content")
  let denied := interp.truthy (block.get "is_error") || includesAny (interp.lower text)
    ["permission denied", "not allowed", "disallowed", "unavailable tool"]
  if denied then
    let tool := (toolFromDenialText interp text).getD (points "unknown")
    return [event [("event_type", word "permission.denied"), ("native_type", word "tool_result"),
      ("tool", .str tool), ("status", word "denied"),
      ("reason_code", word (reasonForTool interp tool)), ("error", .str (text.take 300)),
      ("session_id", sessionId)]]
  else
    return [event [("event_type", word "tool.call"), ("native_type", word "tool_result"),
      ("status", word "completed"), ("session_id", sessionId)]]

def blockEvents (native : Points) (sessionId : JsonValue) (block : Dict) :
    Except PyError (List Dict) := do
  let blockType ← interp.textOf (block.get "type")
  if blockType = points "text" then
    let text ← interp.textOf (block.get "text")
    return event [("event_type", word "message.output"), ("native_type", .str native),
      ("text", block.get "text"), ("session_id", sessionId)] ::
        denialsFromText interp denialChecks text
  else if blockType = points "tool_use" then
    let tool ← interp.textOf (block.get "name")
    return [event [("event_type", word "tool.call"), ("native_type", .str native),
      ("tool", .str tool), ("status", word "requested"), ("session_id", sessionId)]]
  else if blockType = points "tool_result" then eventsFromToolResult interp block sessionId
  else return []

def messageEvents (native : Points) (payload : Dict) : Except PyError (List Dict) :=
  match payload.get "message" with
  | .obj message =>
      match Dict.get message "content" with
      | .arr content => do
          let events ← content.mapM fun block => match block with
            | .obj block => blockEvents interp native (payload.get "session_id") block
            | _ => .ok []
          return events.flatten
      | _ => .ok []
  | _ => .ok []

def permissionDenials (denials : JsonValue) : Except PyError (List Dict) :=
  match denials with
  | .arr items => do
      let events ← items.mapM fun item => match item with
        | .obj item => do
            let tool ← interp.textOf (interp.orElse (Dict.get item "tool_name") (Dict.get item "tool"))
            return [event [("event_type", word "permission.denied"),
              ("native_type", word "permission_denials"), ("tool", .str tool),
              ("status", word "denied"), ("reason_code", word (reasonForTool interp tool)),
              ("error", .str (points "permission denied for tool " ++ tool))]]
        | _ => .ok []
      return events.flatten
  | _ => .ok []

def resultEvents (native : Points) (payload : Dict) : Except PyError (List Dict) := do
  let subtype ← interp.textOf (payload.get "subtype")
  let result ← interp.textOf (payload.get "result")
  let error ← interp.textOf (payload.get "error")
  let failed := interp.truthy (payload.get "is_error") || subtype = points "error"
  let shown := redact interp (error.take 300)
  let first := event [("event_type", word (if failed then "run.failed" else "run.completed")),
    ("native_type", .str native), ("session_id", payload.get "session_id"),
    ("usage", payload.get "usage"), ("result", .str (redact interp (result.take 500))),
    ("error", if shown.isEmpty then .null else .str shown)]
  let denials ← permissionDenials interp (payload.get "permission_denials")
  let errorText ← interp.textOf (interp.orElse (payload.get "error") (payload.get "result"))
  return first :: denials ++ denialsFromText interp denialChecks errorText ++
    statusNoticesFromText interp statusGroups errorText

def normalizeClaudePayload (payload : Dict) : Except PyError (List Dict) := do
  let native ← interp.textOf (payload.get "type")
  let init ← if native = points "system" then
      (interp.textOf (payload.get "subtype")).map (· == points "init")
    else .ok false
  if init then
    return [event [("event_type", word "run.started"), ("native_type", .str native),
      ("session_id", payload.get "session_id"), ("tools", payload.get "tools"),
      ("model", payload.get "model"), ("permission_mode", payload.get "permissionMode"),
      ("api_key_source", payload.get "apiKeySource")]]
  else if isOneOf native ["assistant", "user"] then messageEvents interp native payload
  else if native = points "result" then resultEvents interp native payload
  else if native = points "stream_event" then return []
  else return [unknownEvent native]

def lineEvents (line : Points) : Except PyError (List Dict) :=
  if isRecordLine (strip line) then do
    match ← interp.loadRecord (strip line) with
    | some payload => normalizeClaudePayload interp payload
    | none => return []
  else
    let lowered := interp.lower (strip line)
    if includes lowered "permission" && includes lowered "denied" then
      .ok [deniedText "permission_denied" (strip line)]
    else .ok []

def parseClaudeStreamJson (output : Points) : Except PyError (List Dict) :=
  ((splitlines output).mapM (lineEvents interp)).map List.flatten

end ClaudeConnectorRuntime

namespace OpenCodeConnectorRuntime

variable (interp : Interpreter)

def toolReason (tool : Points) : String :=
  if isOneOf tool ["edit", "write", "apply_patch", "multiedit", "delete"] then
    "permission_denied_edit"
  else if isOneOf tool ["bash", "shell", "terminal"] then "permission_denied_shell"
  else if isOneOf tool ["webfetch", "websearch", "web_search", "fetch", "http"] then
    "permission_denied_network"
  else "permission_denied"

def networkUnavailable (lowered : Points) : Bool :=
  includesAny lowered ["webfetch", "websearch", "web search"] &&
    includesAny lowered ["don't have", "do not have", "not available", "unavailable", "not listed",
      "neither is listed", "cannot make network", "can't make network", "no network"]

def textEvents (native : Points) (part : Dict) : Except PyError (List Dict) := do
  let text := part.get "text"
  let shown ← interp.textOf text
  let output := event [("event_type", word "message.output"), ("native_type", .str native),
    ("text", text)]
  if networkUnavailable (interp.lower shown) then
    let error ← interp.text text
    return [output, event [("event_type", word "permission.denied"), ("native_type", .str native),
      ("tool", word "webfetch"), ("status", word "denied"), ("error", .str (error.take 300)),
      ("reason_code", word "permission_denied_network")]]
  else return [output]

-- The status is looked up in a set, which a list or a dict cannot be a member of.
def isFailedStatus (status : JsonValue) : Except PyError Bool :=
  match status with
  | .arr _ => .error { type := "TypeError", text := "unhashable type: 'list'" }
  | .obj _ => .error { type := "TypeError", text := "unhashable type: 'dict'" }
  | .str text => .ok (isOneOf text ["error", "failed", "denied"])
  | _ => .ok false

def toolState (part : Dict) : Option Dict :=
  match part.get "state" with
  | .obj state => some state
  | _ => none

def stateOutput (state : Dict) : Points :=
  match state.get "output" with
  | .str output => output
  | _ => []

-- Output that tells of a denial stands in for an error.
def stateError (state : Dict) : JsonValue :=
  match state.get "error" with
  | .null =>
      if includesAny (interp.lower (stateOutput state))
          ["denied", "permission", "not allowed", "forbidden", "unavailable tool"] then
        .str ((stateOutput state).take 300)
      else .null
  | error => error

def toolUseEvents (native : Points) (part : Dict) : Except PyError (List Dict) := do
  let tool := part.get "tool"
  let state := toolState part
  let status := (state.map fun state => state.get "status").getD .null
  let output := (state.map stateOutput).getD []
  let error := (state.map (stateError interp)).getD .null
  let name ← interp.textOf tool
  let shown ← interp.textOf error
  let blob := interp.lower (shown ++ 32 :: output)
  let unavailable := blob.tails.findSome? fun suffix =>
    (toolAfter id "unavailable tool " suffix).map fun found => interp.lower found.1
  let deniedTool := unavailable.getD (interp.lower name)
  let failed ← isFailedStatus status
  let invalid := deniedTool = points "invalid"
  let denied := (failed || interp.truthy error || unavailable.isSome || invalid) &&
    (unavailable.isSome || includes blob "unavailable tool" || invalid)
  return [event [("event_type", word (if denied then "permission.denied" else "tool.call")),
    ("native_type", .str native), ("tool", (unavailable.map JsonValue.str).getD tool),
    ("status", status), ("error", error),
    ("reason_code", if denied then word (toolReason deniedTool) else .null)]]

def recordPart (payload : Dict) : Dict :=
  match payload.get "part" with
  | .obj part => part
  | _ => []

def recordEvents (payload : Dict) : Except PyError (List Dict) := do
  let native ← interp.textOf (payload.get "type")
  let part := recordPart payload
  if native = points "step_start" then
    return [event [("event_type", word "run.started"), ("native_type", .str native)]]
  else if native = points "text" then textEvents interp native part
  else if native = points "tool_use" then toolUseEvents interp native part
  else if native = points "step_finish" then
    return [event [("event_type", word "run.completed"), ("native_type", .str native),
      ("usage", part.get "tokens")]]
  else return [unknownEvent native]

def lineEvents (line : Points) : Except PyError (List Dict) :=
  if isRecordLine (strip line) then do
    match ← interp.loadRecord (strip line) with
    | some payload => recordEvents interp payload
    | none => return []
  else .ok []

def parseOpencodeJsonl (output : Points) : Except PyError (List Dict) :=
  ((splitlines output).mapM (lineEvents interp)).map List.flatten

end OpenCodeConnectorRuntime

-- An interpreter for texts without letters of another case.
def plainInterpreter : Interpreter where
  lower := id
  lower_nil := rfl
  str _ := .ok []
  floatTruthy _ := true
  limits := { depth := 1000 }

end JoyMesh.Connectors
