import JoyMesh.Connectors.Events
import JoyMesh.Library.Succeeds

namespace JoyMesh.Connectors

open JoyMesh.Library JoyMesh.Routing

structure HarnessEvent where
  eventType : String
  sequence : Nat
  payload : List (String × JsonValue)

-- What the client of an event stream receives: events, and an exception if the
-- stream ends with one.
structure EventStream where
  events : List HarnessEvent
  raised : Option PyError := none

-- How the wait for the child process ends.
inductive Communication where
  | timeout
  | completed (stdout stderr : List UInt8) (returncode : Int)

def Communication.output : Communication → Points
  | timeout => []
  | completed stdout stderr _ => decodeUtf8 stdout ++ decodeUtf8 stderr

-- hashlib.sha256(output.encode()).hexdigest(): a surrogate has no encoding.
def outputDigest (sha256 : Points → Points) (output : Points) : Except PyError Points :=
  if ∃ c ∈ output, IsSurrogate c then
    .error { type := "UnicodeEncodeError", text := "surrogates not allowed" }
  else .ok (sha256 output)

section Execution

variable (connectorId : String) (argv : List Points) (sha256 : Points → Points)

def startedEvent : HarnessEvent where
  eventType := "task.started"
  sequence := 1
  payload := [("argv", .arr (argv.dropLast.map .str ++ [word "<PROMPT>"])),
    ("connector_id", word connectorId)]

def progressEvents (label : Dict → JsonValue) (items : List Dict) : List HarnessEvent :=
  items.mapIdx fun i item => {
    eventType := "task.progress"
    sequence := i + 2
    payload := [("connector_event", label item), ("redacted", .bool true)] }

-- The event stream after the process has started.
def executeWith (parse : Points → Except PyError (List Dict)) (label : Dict → JsonValue)
    (extra : List Dict → List (String × JsonValue)) (communication : Communication) :
    EventStream :=
  match communication with
  | .timeout => {
      events := [startedEvent connectorId argv,
        { eventType := "task.failed", sequence := 2, payload := [("reason", word "timeout")] }] }
  | .completed stdout stderr returncode =>
      let output := decodeUtf8 stdout ++ decodeUtf8 stderr
      match parse output with
      | .error error => { events := [startedEvent connectorId argv], raised := some error }
      | .ok items =>
          let events := startedEvent connectorId argv :: progressEvents label items
          match outputDigest sha256 output with
          | .error error => { events, raised := some error }
          | .ok digest => {
              events := events ++ [{
                eventType := if returncode = 0 then "task.succeeded" else "task.failed"
                sequence := items.length + 2
                payload := [("returncode", .int returncode), ("output_digest", .str digest)] ++
                  extra items }] }

variable (interp : Interpreter)

def eventLabel (item : Dict) : JsonValue := interp.orElse (item.get "event_type") (item.get "type")

def CodexConnectorRuntime.executeEvents : Communication → EventStream :=
  executeWith "codex" argv sha256 (parseCodexJsonl interp) (fun item => item.get "type")
    fun items => [("event_count", .int items.length)]

def ClaudeConnectorRuntime.executeEvents : Communication → EventStream :=
  executeWith "claude" argv sha256 (parseClaudeStreamJson interp) (eventLabel interp) fun _ => []

def OpenCodeConnectorRuntime.executeEvents : Communication → EventStream :=
  executeWith "opencode" argv sha256 (parseOpencodeJsonl interp) (eventLabel interp) fun _ => []

end Execution

-- The connectors whose execute() reads the whole output of the process.
inductive StreamConnector where
  | codex
  | claude
  | opencode
deriving DecidableEq

def HarnessEvent.IsTerminal (event : HarnessEvent) : Prop :=
  event.eventType = "task.succeeded" ∨ event.eventType = "task.failed"

-- The events are numbered from one, and the last alone is terminal.
structure WellEnded (stream : EventStream) : Prop where
  returned : stream.raised = none
  numbered : stream.events.map HarnessEvent.sequence = List.range' 1 stream.events.length
  ended : ∃ before last, stream.events = before ++ [last] ∧ last.IsTerminal ∧
    ∀ event ∈ before, ¬event.IsTerminal

def isHashable : JsonValue → Bool
  | .arr _ => false
  | .obj _ => false
  | _ => true

section Converting

variable (interp : Interpreter) {value : JsonValue}

-- str(value or "") raises nothing.
def Converts (value : JsonValue) : Prop := Succeeds (interp.textOf value)

def ClaudeConnectorRuntime.BlockConverts (block : Dict) : Prop :=
  ∃ kind, interp.textOf (block.get "type") = .ok kind ∧
    (kind = points "text" → Converts interp (block.get "text")) ∧
    (kind = points "tool_use" → Converts interp (block.get "name")) ∧
    (kind = points "tool_result" → ∀ items, block.get "content" = .arr items →
      ∀ item, .obj item ∈ items → Dict.get item "type" = word "text" →
        Converts interp (Dict.get item "text"))

-- The fields that the parser passes to str(), by the type of the record.
structure ClaudeConnectorRuntime.RecordConverts (native : Points) (payload : Dict) : Prop where
  system : native = points "system" → Converts interp (payload.get "subtype")
  message : native = points "assistant" ∨ native = points "user" →
    ∀ message, payload.get "message" = .obj message →
      ∀ content, Dict.get message "content" = .arr content →
        ∀ block, .obj block ∈ content → BlockConverts interp block
  result : native = points "result" → Converts interp (payload.get "subtype") ∧
    Converts interp (payload.get "result") ∧ Converts interp (payload.get "error") ∧
      ∀ items, payload.get "permission_denials" = .arr items → ∀ item, .obj item ∈ items →
        Converts interp (interp.orElse (Dict.get item "tool_name") (Dict.get item "tool"))

structure OpenCodeConnectorRuntime.RecordConverts (native : Points) (payload : Dict) : Prop where
  text : native = points "text" → Converts interp ((recordPart payload).get "text")
  tool : native = points "tool_use" → Converts interp ((recordPart payload).get "tool") ∧
    ∀ state, (recordPart payload).get "state" = .obj state →
      Converts interp (Dict.get state "error") ∧ isHashable (Dict.get state "status") = true

-- What the parser does with the record of a line raises nothing.
def StreamConnector.Handles : StreamConnector → Dict → Prop
  | codex, _ => True
  | claude, payload => ∃ native, interp.textOf (payload.get "type") = .ok native ∧
      ClaudeConnectorRuntime.RecordConverts interp native payload
  | opencode, payload => ∃ native, interp.textOf (payload.get "type") = .ok native ∧
      OpenCodeConnectorRuntime.RecordConverts interp native payload

-- A line that begins as a record is no JSON, or JSON within the limits whose
-- fields can be handled.
def StreamConnector.Readable (connector : StreamConnector) (line : Points) : Prop :=
  isRecordLine (strip line) = true →
    (∀ error, loadsText interp.limits (strip line) = .error error → error = .decode) ∧
      ∀ payload, loadsText interp.limits (strip line) = .ok (.obj payload) →
        connector.Handles interp payload

variable {interp}

theorem textOf_falsy (h : interp.truthy value = false) : interp.textOf value = .ok [] := by
  simp [Interpreter.textOf, Interpreter.orElse, h, word, Interpreter.text, points]

theorem textOf_truthy (h : interp.truthy value = true) :
    interp.textOf value = interp.text value := by
  simp [Interpreter.textOf, Interpreter.orElse, h]

theorem textOf_orElse (a b : JsonValue) :
    interp.textOf (interp.orElse a b) = if interp.truthy a then interp.textOf a
      else interp.textOf b := by
  by_cases h : interp.truthy a = true
  · simp [Interpreter.orElse, h]
  · simp [Interpreter.orElse, h]

theorem converts_str (text : Points) : Converts interp (.str text) := by
  by_cases h : interp.truthy (.str text) = true
  · exact ⟨text, by rw [textOf_truthy h]; rfl⟩
  · exact ⟨[], textOf_falsy (by simpa using h)⟩

theorem converts_null : Converts interp .null := ⟨[], textOf_falsy rfl⟩

end Converting

section Parsing

variable {interp : Interpreter}

-- A line is loaded, or it is no JSON, or one of the limits of json is raised.
theorem loadRecord_succeeds {α : Type} {next : Option Dict → Except PyError α} {line : Points}
    (hnone : Succeeds (next none)) :
    Succeeds (interp.loadRecord line >>= next) ↔
      (∀ error, loadsText interp.limits line = .error error → error = .decode) ∧
        ∀ payload, loadsText interp.limits line = .ok (.obj payload) → Succeeds (next (some payload)) := by
  unfold Interpreter.loadRecord
  cases hload : loadsText interp.limits line with
  | error error => cases error <;> simp [bind, Except.bind, hnone]
  | ok value => cases value <;> simp [bind, Except.bind, hnone]

theorem isOneOf_iff {text : Points} {names : List String} :
    isOneOf text names = true ↔ ∃ name ∈ names, text = points name := by
  simp [isOneOf, eq_comm]

theorem CodexConnectorRuntime.lineEvents_succeeds {line : Points} :
    Succeeds (lineEvents interp line) ↔ StreamConnector.codex.Readable interp line := by
  have hload := @loadRecord_succeeds interp _ (fun found => pure found.toList) (strip line)
    (succeeds_pure _)
  rw [succeeds_bind_pure] at hload
  simp only [lineEvents, succeeds_ite, succeeds_map, hload, succeeds_pure, succeeds_ok,
    implies_true, and_true, StreamConnector.Readable, StreamConnector.Handles]

namespace ClaudeConnectorRuntime

theorem contentText_succeeds {content : JsonValue} :
    Succeeds (contentText interp content) ↔ ∀ items, content = .arr items →
      ∀ item, .obj item ∈ items → Dict.get item "type" = word "text" →
        Converts interp (Dict.get item "text") := by
  cases content with
  | arr items =>
      simp only [contentText, succeeds_bind_pure, succeeds_mapM, JsonValue.arr.injEq, forall_eq']
      constructor
      · intro h item hmem htype
        have := h _ hmem
        simpa [htype, word, Converts] using this
      · intro h item hmem
        split
        next members =>
          split
          next kind hkind =>
            by_cases htext : kind = points "text"
            · rw [if_pos htext, succeeds_map]
              exact h members hmem (by rw [hkind, htext]; rfl)
            · rw [if_neg htext]
              exact succeeds_ok _
          next => exact succeeds_ok _
        next => exact succeeds_ok _
        next => exact succeeds_ok _
  | _ => simp [contentText]

variable {block payload : Dict} {sessionId : JsonValue} {native : Points}

theorem eventsFromToolResult_succeeds :
    Succeeds (eventsFromToolResult interp block sessionId) ↔
      Succeeds (contentText interp (block.get "content")) := by
  rw [eventsFromToolResult, succeeds_bind]
  constructor
  · rintro ⟨text, htext, -⟩
    exact ⟨text, htext⟩
  · rintro ⟨text, htext⟩
    refine ⟨text, htext, ?_⟩
    dsimp only
    split <;> exact succeeds_pure _

theorem blockEvents_succeeds :
    Succeeds (blockEvents interp native sessionId block) ↔ BlockConverts interp block := by
  have htext : points "text" ≠ points "tool_use" ∧ points "text" ≠ points "tool_result" := by decide
  have htool : points "tool_result" ≠ points "tool_use" := by decide
  rw [blockEvents, succeeds_bind]
  refine exists_congr fun kind => and_congr_right fun _ => ?_
  simp only [succeeds_ite, succeeds_bind_pure, eventsFromToolResult_succeeds, contentText_succeeds,
    succeeds_pure, implies_true, and_true]
  constructor
  · rintro ⟨h₁, h₂⟩
    refine ⟨h₁, ?_, ?_⟩
    · rintro rfl
      exact (h₂ (Ne.symm htext.1)).1 rfl
    · rintro rfl
      exact (h₂ (Ne.symm htext.2)).2 htool rfl
  · rintro ⟨h₁, h₂, h₃⟩
    exact ⟨h₁, fun _ => ⟨h₂, fun _ => h₃⟩⟩

theorem messageEvents_succeeds :
    Succeeds (messageEvents interp native payload) ↔
      ∀ message, payload.get "message" = .obj message →
        ∀ content, Dict.get message "content" = .arr content →
          ∀ block, .obj block ∈ content → BlockConverts interp block := by
  unfold messageEvents
  split
  next message hmessage =>
    simp only [hmessage, JsonValue.obj.injEq, forall_eq']
    split
    next content hcontent =>
      simp only [hcontent, JsonValue.arr.injEq, forall_eq', succeeds_bind_pure, succeeds_mapM]
      constructor
      · exact fun h block hblock => blockEvents_succeeds.mp (h _ hblock)
      · intro h block hblock
        split
        next block => exact blockEvents_succeeds.mpr (h block hblock)
        next => exact succeeds_ok _
    next hcontent =>
      simp only [succeeds_ok, true_iff]
      exact fun content h => absurd h (hcontent content)
  next hmessage =>
    simp only [succeeds_ok, true_iff]
    exact fun message h => absurd h (hmessage message)

theorem permissionDenials_succeeds {denials : JsonValue} :
    Succeeds (permissionDenials interp denials) ↔ ∀ items, denials = .arr items →
      ∀ item, .obj item ∈ items →
        Converts interp (interp.orElse (Dict.get item "tool_name") (Dict.get item "tool")) := by
  unfold permissionDenials
  split
  next items =>
    simp only [JsonValue.arr.injEq, forall_eq', succeeds_bind_pure, succeeds_mapM]
    constructor
    · exact fun h item hitem => succeeds_bind_pure.mp (h _ hitem)
    · intro h item hitem
      split
      next item => exact succeeds_bind_pure.mpr (h item hitem)
      next => exact succeeds_ok _
  next hdenials =>
    simp only [succeeds_ok, true_iff]
    exact fun items h => absurd h (hdenials items)

theorem resultEvents_succeeds :
    Succeeds (resultEvents interp native payload) ↔ Converts interp (payload.get "subtype") ∧
      Converts interp (payload.get "result") ∧ Converts interp (payload.get "error") ∧
        ∀ items, payload.get "permission_denials" = .arr items → ∀ item, .obj item ∈ items →
          Converts interp (interp.orElse (Dict.get item "tool_name") (Dict.get item "tool")) := by
  rw [← permissionDenials_succeeds]
  simp only [resultEvents, succeeds_bind, succeeds_pure, and_true]
  constructor
  · rintro ⟨subtype, hsubtype, result, hresult, error, herror, denials, hdenials, -⟩
    exact ⟨⟨_, hsubtype⟩, ⟨_, hresult⟩, ⟨_, herror⟩, _, hdenials⟩
  · rintro ⟨⟨subtype, hsubtype⟩, ⟨result, hresult⟩, ⟨error, herror⟩, denials, hdenials⟩
    refine ⟨subtype, hsubtype, result, hresult, error, herror, denials, hdenials, ?_⟩
    rw [textOf_orElse]
    split
    · exact ⟨_, herror⟩
    · exact ⟨_, hresult⟩

theorem normalizeClaudePayload_succeeds :
    Succeeds (normalizeClaudePayload interp payload) ↔
      ∃ native, interp.textOf (payload.get "type") = .ok native ∧
        RecordConverts interp native payload := by
  have hsystem : points "system" ≠ points "assistant" ∧ points "system" ≠ points "user" ∧
    points "system" ≠ points "result" := by decide
  have hmessage : ∀ native, isOneOf native ["assistant", "user"] = true ↔
      native = points "assistant" ∨ native = points "user" := by
    intro native
    simp [isOneOf_iff]
  have hresult : points "result" ≠ points "assistant" ∧ points "result" ≠ points "user" := by decide
  rw [normalizeClaudePayload, succeeds_bind]
  refine exists_congr fun native => and_congr_right fun _ => ?_
  by_cases hs : native = points "system"
  · subst hs
    rw [if_pos rfl, succeeds_bind]
    constructor
    · rintro ⟨init, hinit, -⟩
      refine ⟨fun _ => succeeds_map.mp ⟨init, hinit⟩, ?_, fun h => absurd h hsystem.2.2⟩
      rintro (h | h)
      · exact absurd h hsystem.1
      · exact absurd h hsystem.2.1
    · intro h
      obtain ⟨init, hinit⟩ := succeeds_map.mpr (h.system rfl)
      refine ⟨init, hinit, ?_⟩
      simp only [succeeds_ite, hmessage, hsystem, succeeds_pure, implies_true, and_true, or_self,
        false_implies]
  · rw [if_neg hs, succeeds_bind]
    simp only [Except.ok.injEq, exists_eq_left', succeeds_ite, succeeds_pure, hmessage,
      messageEvents_succeeds, resultEvents_succeeds, implies_true, and_true, Bool.false_eq_true,
      not_false_eq_true, forall_const, true_and]
    constructor
    · rintro ⟨h₁, h₂⟩
      refine ⟨fun h => absurd h hs, h₁, ?_⟩
      rintro rfl
      exact h₂ (fun h => h.elim hresult.1 hresult.2) rfl
    · exact fun h => ⟨h.message, fun _ => h.result⟩

theorem lineEvents_succeeds {line : Points} :
    Succeeds (lineEvents interp line) ↔ StreamConnector.claude.Readable interp line := by
  unfold lineEvents StreamConnector.Readable StreamConnector.Handles
  by_cases hrecord : isRecordLine (strip line) = true
  · rw [if_pos hrecord]
    rw [loadRecord_succeeds]
    · simp only [normalizeClaudePayload_succeeds, hrecord, true_implies]
    · exact succeeds_pure _
  · rw [if_neg hrecord]
    refine iff_of_true ?_ fun h => absurd h hrecord
    dsimp only
    split <;> exact succeeds_ok _

end ClaudeConnectorRuntime

namespace OpenCodeConnectorRuntime

variable {native : Points} {part state : Dict}

theorem textEvents_succeeds :
    Succeeds (textEvents interp native part) ↔ Converts interp (part.get "text") := by
  rw [textEvents, succeeds_bind]
  constructor
  · rintro ⟨shown, hshown, -⟩
    exact ⟨shown, hshown⟩
  · rintro ⟨shown, hshown⟩
    refine ⟨shown, hshown, ?_⟩
    dsimp only
    split
    next hunavailable =>
      -- what is said to be unavailable is said in a text that is not empty
      have htruthy : interp.truthy (part.get "text") = true := by
        by_contra hfalsy
        rw [textOf_falsy (by simpa using hfalsy)] at hshown
        cases hshown
        rw [interp.lower_nil] at hunavailable
        exact absurd hunavailable (by decide)
      exact succeeds_bind_pure.mpr ⟨shown, by rw [← textOf_truthy htruthy, hshown]⟩
    next => exact succeeds_pure _

theorem isFailedStatus_succeeds {status : JsonValue} :
    Succeeds (isFailedStatus status) ↔ isHashable status = true := by
  cases status <;> simp [isFailedStatus, isHashable]

theorem stateError_converts :
    Converts interp (stateError interp state) ↔ Converts interp (state.get "error") := by
  unfold stateError
  split
  next herror =>
    rw [herror]
    split
    · exact iff_of_true (converts_str _) converts_null
    · exact Iff.rfl
  next => exact Iff.rfl

theorem mem_toolState : state ∈ toolState part ↔ part.get "state" = .obj state := by
  unfold toolState
  split
  next found hfound => simp [hfound]
  next hnone =>
    simp only [Option.not_mem_none, false_iff]
    exact hnone state

theorem toolUseEvents_succeeds :
    Succeeds (toolUseEvents interp native part) ↔ Converts interp (part.get "tool") ∧
      ∀ state, part.get "state" = .obj state → Converts interp (Dict.get state "error") ∧
        isHashable (Dict.get state "status") = true := by
  simp only [← mem_toolState]
  have hstate : Succeeds (toolUseEvents interp native part) ↔ Converts interp (part.get "tool") ∧
      Converts interp (((toolState part).map (stateError interp)).getD .null) ∧
        isHashable (((toolState part).map fun state => state.get "status").getD .null) = true := by
    rw [← isFailedStatus_succeeds]
    simp only [toolUseEvents, succeeds_bind, succeeds_pure, and_true]
    constructor
    · rintro ⟨name, hname, shown, hshown, failed, hfailed⟩
      exact ⟨⟨_, hname⟩, ⟨_, hshown⟩, _, hfailed⟩
    · rintro ⟨⟨name, hname⟩, ⟨shown, hshown⟩, failed, hfailed⟩
      exact ⟨_, hname, _, hshown, _, hfailed⟩
  rw [hstate]
  cases toolState part with
  | none => simp only [Option.map_none, Option.getD_none, converts_null, isHashable,
      Option.not_mem_none, false_implies, implies_true, and_self]
  | some state => simp only [Option.map_some, Option.getD_some, stateError_converts,
      Option.mem_def, Option.some.injEq, forall_eq']

theorem recordEvents_succeeds {payload : Dict} :
    Succeeds (recordEvents interp payload) ↔
      ∃ native, interp.textOf (payload.get "type") = .ok native ∧
        RecordConverts interp native payload := by
  have hstart : points "text" ≠ points "step_start" ∧ points "tool_use" ≠ points "step_start" ∧
    points "tool_use" ≠ points "text" := by decide
  rw [recordEvents, succeeds_bind]
  refine exists_congr fun native => and_congr_right fun _ => ?_
  simp only [succeeds_ite, succeeds_pure, textEvents_succeeds, toolUseEvents_succeeds, implies_true,
    and_true, true_and]
  constructor
  · intro h
    refine ⟨?_, ?_⟩
    · rintro rfl
      exact (h hstart.1).1 rfl
    · rintro rfl
      exact (h hstart.2.1).2 hstart.2.2 rfl
  · exact fun h _ => ⟨h.text, fun _ => h.tool⟩

theorem lineEvents_succeeds {line : Points} :
    Succeeds (lineEvents interp line) ↔ StreamConnector.opencode.Readable interp line := by
  unfold lineEvents StreamConnector.Readable StreamConnector.Handles
  by_cases hrecord : isRecordLine (strip line) = true
  · rw [if_pos hrecord]
    rw [loadRecord_succeeds]
    · simp only [recordEvents_succeeds, hrecord, true_implies]
    · exact succeeds_pure _
  · rw [if_neg hrecord]
    exact iff_of_true (succeeds_ok _) fun h => absurd h hrecord

end OpenCodeConnectorRuntime

end Parsing

section Streams

variable {connectorId : String} {argv : List Points} {sha256 : Points → Points}
  {label : Dict → JsonValue}

theorem parse_succeeds {lineEvents : Points → Except PyError (List Dict)}
    {output : Points} :
    Succeeds (((splitlines output).mapM lineEvents).map List.flatten) ↔
      ∀ line ∈ splitlines output, Succeeds (lineEvents line) := by
  rw [succeeds_map, succeeds_mapM]

theorem decoded_digest (stdout stderr : List UInt8) :
    outputDigest sha256 (decodeUtf8 stdout ++ decodeUtf8 stderr) =
      .ok (sha256 (decodeUtf8 stdout ++ decodeUtf8 stderr)) := by
  rw [outputDigest, if_neg]
  rintro ⟨c, hc, hsurrogate⟩
  rcases List.mem_append.mp hc with hc | hc
  · exact decodeUtf8_scalar stdout c hc hsurrogate
  · exact decodeUtf8_scalar stderr c hc hsurrogate

theorem progressEvents_sequence (label : Dict → JsonValue) (items : List Dict) :
    (progressEvents label items).map HarnessEvent.sequence = List.range' 2 items.length := by
  apply List.ext_getElem
  · simp [progressEvents]
  · intro i h₁ h₂
    simp [progressEvents, Nat.add_comm]

theorem progressEvents_not_terminal {items : List Dict} {event : HarnessEvent}
    (h : event ∈ progressEvents label items) : ¬event.IsTerminal := by
  obtain ⟨i, hi, rfl⟩ := List.mem_mapIdx.mp h
  simp [HarnessEvent.IsTerminal]

theorem startedEvent_not_terminal : ¬(startedEvent connectorId argv).IsTerminal := by
  simp [HarnessEvent.IsTerminal, startedEvent]

-- A stream ends well when the wait for the process timed out or its output was parsed.
theorem executeWith_wellEnded {parse : Points → Except PyError (List Dict)}
    {extra : List Dict → List (String × JsonValue)} {communication : Communication} :
    WellEnded (executeWith connectorId argv sha256 parse label extra communication) ↔
      communication = .timeout ∨ Succeeds (parse communication.output) := by
  cases communication with
  | timeout =>
      refine iff_of_true ⟨rfl, rfl, [startedEvent connectorId argv], _, rfl, .inr rfl, ?_⟩ (.inl rfl)
      exact List.forall_mem_singleton.mpr startedEvent_not_terminal
  | completed stdout stderr returncode =>
      simp only [reduceCtorEq, false_or, Communication.output, executeWith]
      cases hparse : parse (decodeUtf8 stdout ++ decodeUtf8 stderr) with
      | error error =>
          refine iff_of_false (fun h => ?_) (not_succeeds_error error)
          cases h.returned
      | ok items =>
          rw [decoded_digest]
          refine iff_of_true ⟨rfl, ?_, _, _, rfl, ?_, ?_⟩ (succeeds_ok items)
          · have hlength : (progressEvents label items).length = items.length := by
              simp [progressEvents]
            simp only [List.map_append, List.map_cons, List.map_nil, progressEvents_sequence,
              List.length_append, List.length_cons, List.length_nil, hlength, startedEvent]
            have hlast : 1 + 1 * (items.length + 1) = items.length + 2 := by omega
            rw [List.range'_concat, List.range'_succ, hlast, List.cons_append]
          · by_cases hcode : returncode = 0
            · exact .inl (if_pos hcode)
            · exact .inr (if_neg hcode)
          · exact List.forall_mem_cons.mpr
              ⟨startedEvent_not_terminal, fun _ => progressEvents_not_terminal⟩

end Streams

def StreamConnector.execute (connector : StreamConnector) (argv : List Points)
    (sha256 : Points → Points) (interp : Interpreter) : Communication → EventStream :=
  match connector with
  | codex => CodexConnectorRuntime.executeEvents argv sha256 interp
  | claude => ClaudeConnectorRuntime.executeEvents argv sha256 interp
  | opencode => OpenCodeConnectorRuntime.executeEvents argv sha256 interp

theorem execute_wellEnded_iff (connector : StreamConnector) (argv : List Points)
    (sha256 : Points → Points) (interp : Interpreter) (communication : Communication) :
    WellEnded (connector.execute argv sha256 interp communication) ↔
      communication = .timeout ∨
        ∀ line ∈ splitlines communication.output, connector.Readable interp line := by
  cases connector with
  | codex =>
      refine executeWith_wellEnded.trans (or_congr_right ?_)
      simp only [CodexConnectorRuntime.parseCodexJsonl, parse_succeeds,
        CodexConnectorRuntime.lineEvents_succeeds]
  | claude =>
      refine executeWith_wellEnded.trans (or_congr_right ?_)
      simp only [ClaudeConnectorRuntime.parseClaudeStreamJson, parse_succeeds,
        ClaudeConnectorRuntime.lineEvents_succeeds]
  | opencode =>
      refine executeWith_wellEnded.trans (or_congr_right ?_)
      simp only [OpenCodeConnectorRuntime.parseOpencodeJsonl, parse_succeeds,
        OpenCodeConnectorRuntime.lineEvents_succeeds]

def unhashableRecord : String :=
  "\x7b\"type\":\"tool_use\",\"part\":\x7b\"state\":\x7b\"status\":[]\x7d\x7d\x7d\n"

-- A status that is a list ends the stream of a process that exited with success.
theorem unhashable_status_raised :
    let stream := StreamConnector.execute .opencode [] id plainInterpreter
      (.completed unhashableRecord.toUTF8.toList [] 0)
    stream.raised = some { type := "TypeError", text := "unhashable type: 'list'" } ∧
      stream.events.length = 1 ∧ ¬WellEnded stream := by
  intro stream
  have hraised : stream.raised = some { type := "TypeError", text := "unhashable type: 'list'" } := by
    decide +kernel
  refine ⟨hraised, by decide +kernel, fun h => ?_⟩
  rw [h.returned] at hraised
  cases hraised

end JoyMesh.Connectors
