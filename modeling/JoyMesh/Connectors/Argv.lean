import JoyMesh.Library.Arguments
import JoyMesh.Routing.Intent

namespace JoyMesh.Connectors

open JoyMesh.Library JoyMesh.Routing

inductive ConnectorRuntime where
  | codex
  | claude
  | opencode
  | grok
  | cursor
deriving DecidableEq, Repr

-- The arguments of build_exec_argv.
structure ExecRequest where
  executable : String
  prompt : String
  workspacePath : String
  readOnly : Bool := true
deriving DecidableEq, Repr

-- An absolute path by its parts.
abbrev Path := List String

def Path.text (path : Path) : String := "/" ++ "/".intercalate path

-- What the builders read of the machine they run on.
structure Host where
  platform : String
  isFile : String → Bool
  mkdtemp : Except PyError String
  home : Path
  resolve : String → Except PyError Path

def linuxHost : Host where
  platform := "linux"
  isFile := fun _ => false
  mkdtemp := .ok "/tmp/joymesh-cursor-sandbox-0"
  home := ["home", "user"]
  resolve := fun text => .ok [text]

def CodexConnectorRuntime.buildExecArgv (request : ExecRequest) : List String :=
  [request.executable, "exec", "--json", "--skip-git-repo-check"] ++
    (if request.readOnly then ["--sandbox", "read-only"] else ["--sandbox", "workspace-write"]) ++
    ["-C", request.workspacePath, request.prompt]

namespace ClaudeConnectorRuntime

def readOnlyTools : List String := ["Read", "Glob", "Grep"]

def disallowedTools : List String :=
  ["Edit", "Write", "MultiEdit", "NotebookEdit", "Bash", "WebFetch", "WebSearch", "Agent"]

-- The workspace is the directory of the process and not an argument.
def buildExecArgv (request : ExecRequest) : List String :=
  [request.executable, "--print", "--output-format", "stream-json", "--verbose"] ++
    (if request.readOnly then
      ["--permission-mode", "plan", "--tools", ",".intercalate readOnlyTools,
        "--disallowedTools", ",".intercalate disallowedTools]
    else []) ++
    [request.prompt]

end ClaudeConnectorRuntime

def OpenCodeConnectorRuntime.buildExecArgv (request : ExecRequest) : List String :=
  [request.executable, "run", "--format", "json", "--dir", request.workspacePath, request.prompt]

namespace GrokConnectorRuntime

def readOnlyTools : List String := ["read_file", "grep", "list_dir"]

def disallowedTools : List String :=
  ["search_replace", "run_terminal_cmd", "web_search", "web_fetch", "Agent"]

def buildExecArgv (request : ExecRequest) : List String :=
  [request.executable, "--no-auto-update", "-p", request.prompt, "--output-format",
    "streaming-json", "--cwd", request.workspacePath] ++
    (if request.readOnly then
      ["--sandbox", "strict", "--permission-mode", "plan", "--tools",
        ",".intercalate readOnlyTools, "--disallowed-tools", ",".intercalate disallowedTools,
        "--disable-web-search", "--no-subagents", "--deny", "Bash", "--deny", "Edit", "--deny",
        "Write", "--deny", "MCPTool"]
    else [])

end GrokConnectorRuntime

def hexEscape (code : Nat) : List Char :=
  let digits := Nat.toDigits 16 code
  ['\\', 'u'] ++ List.replicate (4 - digits.length) '0' ++ digits

-- json.dumps of a string: all that is not printable ASCII is escaped, beyond the
-- basic plane by a pair of surrogates.
def jsonString (s : String) : String :=
  let escape : Char → List Char := fun c =>
    if c = '"' then ['\\', '"']
    else if c = '\\' then ['\\', '\\']
    else if c = '\n' then ['\\', 'n']
    else if c = '\r' then ['\\', 'r']
    else if c = '\t' then ['\\', 't']
    else if c.toNat = 8 then ['\\', 'b']
    else if c.toNat = 12 then ['\\', 'f']
    else if 32 ≤ c.toNat ∧ c.toNat ≤ 126 then [c]
    else if c.toNat < 65536 then hexEscape c.toNat
    else
      hexEscape (55296 + (c.toNat - 65536) / 1024) ++ hexEscape (56320 + (c.toNat - 65536) % 1024)
  String.ofList (['"'] ++ s.toList.flatMap escape ++ ['"'])

def confinementRules : List String :=
  ["(version 1)", "(allow default)", "(deny signal)",
    "(allow signal (target self) (target children))", "(deny file-write*)",
    "(deny network-outbound (remote unix-socket))",
    "(allow network-outbound (literal \"/private/var/run/mDNSResponder\") " ++
      "(literal \"/var/run/mDNSResponder\"))",
    "(deny network-outbound (remote ip \"localhost:*\"))",
    "(allow file-write* (literal \"/dev/null\"))"]

def writeConfinementProfile (host : Host) (workspace : String) (scratch : Path)
    (runtimePaths : List Path) (readOnly : Bool) : Except PyError String := do
  let workspace ← host.resolve workspace
  for path in runtimePaths do
    if path ≠ (← host.resolve path.text) then
      throw ⟨"ValueError", "Cursor runtime state contains a redirected path"⟩
  let runtime ← runtimePaths.mapM fun path => host.resolve path.text
  if runtime.any fun path => path.isPrefixOf workspace || workspace.isPrefixOf path then
    throw ⟨"ValueError", "Workspace overlaps writable Cursor runtime state"⟩
  let scratch ← host.resolve scratch.text
  let allowed ← (scratch :: runtime ++ if readOnly then [] else [workspace]).mapM fun path => do
    if path.text.toList.any fun c => c.toNat < 32 then
      throw ⟨"ValueError", "Invalid sandbox path"⟩
    pure ("(allow file-write* (subpath " ++ jsonString path.text ++ "))")
  -- Credentials stay out of the process, wherever their links lead.
  let denied ← [[".joymux", "secrets"], [".joymux", "security"], [".ssh"]].mapM fun name => do
    let path ← host.resolve (Path.text (host.home ++ name))
    pure ("(deny file-read* file-write* (subpath " ++ jsonString path.text ++ "))")
  pure ("\n".intercalate (confinementRules ++ allowed ++ denied))

def Host.runtimePaths (host : Host) : List Path :=
  (["chats", "ai-tracking", "debug-logs", "plans", "projects", "snapshots"].map fun name =>
    host.home ++ [".cursor", name]) ++ [host.home ++ [".local", "share", "cursor-agent", "logs"]]

def cursorSandboxArgv (host : Host) (argv : List String) (workspace : String) (readOnly : Bool) :
    Except PyError (List String) :=
  if host.platform ≠ "darwin" ∨ ¬ host.isFile "/usr/bin/sandbox-exec" then
    .error ⟨"RuntimeError", "Cursor host sandbox unavailable; refusing unconfined execution"⟩
  else do
    let scratch ← host.resolve (← host.mkdtemp)
    let profile ← writeConfinementProfile host workspace scratch host.runtimePaths readOnly
    .ok (["/usr/bin/sandbox-exec", "-p", profile, "/usr/bin/env", "TMPDIR=" ++ scratch.text] ++
      argv)

def CursorConnectorRuntime.buildExecArgv (host : Host) (request : ExecRequest) :
    Except PyError (List String) :=
  cursorSandboxArgv host
    ([request.executable, "--print", "--output-format", "stream-json", "--trust", "--sandbox",
      "enabled"] ++ (if request.readOnly then ["--mode", "plan"] else []) ++ [request.prompt])
    request.workspacePath request.readOnly

-- The wrapper is the same for every command.
theorem cursorSandboxArgv_ok {host : Host} {argv result : List String} {workspace : String}
    {readOnly : Bool} (h : cursorSandboxArgv host argv workspace readOnly = .ok result) :
    ∃ profile scratch, ∀ other, cursorSandboxArgv host other workspace readOnly =
      .ok (["/usr/bin/sandbox-exec", "-p", profile, "/usr/bin/env", "TMPDIR=" ++ scratch] ++
        other) := by
  unfold cursorSandboxArgv at h ⊢
  split at h
  case isTrue => cases h
  case isFalse hhost =>
    obtain ⟨dir, hdir, h⟩ := bind_eq_ok.mp h
    obtain ⟨scratch, hscratch, h⟩ := bind_eq_ok.mp h
    obtain ⟨profile, hprofile, -⟩ := bind_eq_ok.mp h
    refine ⟨profile, scratch.text, fun other => ?_⟩
    rw [if_neg hhost, hdir]
    simp [bind, Except.bind, hscratch, hprofile]

namespace ConnectorRuntime

def buildExecArgv (host : Host) (request : ExecRequest) :
    ConnectorRuntime → Except PyError (List String)
  | codex => .ok (CodexConnectorRuntime.buildExecArgv request)
  | claude => .ok (ClaudeConnectorRuntime.buildExecArgv request)
  | opencode => .ok (OpenCodeConnectorRuntime.buildExecArgv request)
  | grok => .ok (GrokConnectorRuntime.buildExecArgv request)
  | cursor => CursorConnectorRuntime.buildExecArgv host request

-- The options of each command line that take the next token as their value. The
-- first one of the Cursor command line belongs to sandbox-exec.
def valueOptions : ConnectorRuntime → List String
  | codex => ["--sandbox", "-C"]
  | claude => ["--output-format", "--permission-mode", "--tools", "--disallowedTools"]
  | opencode => ["--format", "--dir"]
  | grok =>
      ["-p", "--output-format", "--cwd", "--sandbox", "--permission-mode", "--tools",
        "--disallowed-tools", "--deny"]
  | cursor => ["-p", "--output-format", "--sandbox", "--mode"]

def dashed (token : String) : Bool := token.toList.head? == some '-'

theorem terminator_dashed : dashed "--" = true := by
  decide

def grammar (connector : ConnectorRuntime) : Grammar String where
  dashed := dashed
  takesValue := fun token => connector.valueOptions.contains token
  terminator := "--"
  dashed_terminator := terminator_dashed

-- Grok takes the prompt as the value of an option, the others as an operand.
def promptRole : ConnectorRuntime → Role
  | grok => .value
  | _ => .operand

-- What the reader is ready for when it comes to the prompt.
def expecting (connector : ConnectorRuntime) (executable : String) : Expecting :=
  if connector = grok then .value
  else if connector = cursor ∧ executable = "--" then .operands
  else .any

variable {connector : ConnectorRuntime} {host : Host} {request : ExecRequest}

-- The flags that follow leave the reader as it was before the executable, unless
-- the executable is the mark that ends the options.
theorem after_executable {executable : String} {readOnly : Bool} :
    cursor.grammar.after .any (executable :: ["--print", "--output-format", "stream-json",
        "--trust", "--sandbox", "enabled"] ++ if readOnly then ["--mode", "plan"] else []) =
      cursor.expecting executable := by
  by_cases hmark : executable = "--"
  · simp [expecting, hmark, Grammar.after, Grammar.next, grammar]
  · have hnext : cursor.grammar.next .any executable = .any ∨
        cursor.grammar.next .any executable = .value := by
      simp only [Grammar.next, show cursor.grammar.terminator = "--" from rfl, hmark, if_false]
      split_ifs <;> simp
    simp only [expecting, hmark, List.cons_append, Grammar.after]
    rcases hnext with hnext | hnext <;> rw [hnext] <;> cases readOnly <;> rfl

-- Only the place of the prompt depends on the prompt.
theorem exists_layout {p : String} {argv : List String}
    (h : connector.buildExecArgv host { request with prompt := p } = .ok argv) :
    ∃ command before rest,
      (∀ prompt, connector.buildExecArgv host { request with prompt } =
        .ok (command :: (before ++ prompt :: rest))) ∧
      connector.grammar.after .any before = connector.expecting request.executable ∧
      (rest = [] ↔ connector ≠ .grok) := by
  cases connector with
  | codex =>
      refine ⟨request.executable, ["exec", "--json", "--skip-git-repo-check"] ++
        (if request.readOnly then ["--sandbox", "read-only"]
          else ["--sandbox", "workspace-write"]) ++ ["-C", request.workspacePath], [],
        fun prompt => ?_, ?_, by simp⟩
      · simp [buildExecArgv, CodexConnectorRuntime.buildExecArgv]
      · cases request.readOnly <;> rfl
  | claude =>
      refine ⟨request.executable, ["--print", "--output-format", "stream-json", "--verbose"] ++
        (if request.readOnly then
          ["--permission-mode", "plan", "--tools",
            ",".intercalate ClaudeConnectorRuntime.readOnlyTools, "--disallowedTools",
            ",".intercalate ClaudeConnectorRuntime.disallowedTools]
        else []), [], fun prompt => ?_, ?_, by simp⟩
      · simp [buildExecArgv, ClaudeConnectorRuntime.buildExecArgv]
      · cases request.readOnly <;> rfl
  | opencode =>
      exact ⟨request.executable, ["run", "--format", "json", "--dir", request.workspacePath], [],
        fun _ => rfl, rfl, by simp⟩
  | grok =>
      refine ⟨request.executable, ["--no-auto-update", "-p"],
        (GrokConnectorRuntime.buildExecArgv request).drop 4, fun prompt => ?_, rfl, ?_⟩
      · simp [buildExecArgv, GrokConnectorRuntime.buildExecArgv]
      · simp [GrokConnectorRuntime.buildExecArgv]
  | cursor =>
      obtain ⟨profile, scratch, hwrap⟩ := cursorSandboxArgv_ok h
      refine ⟨"/usr/bin/sandbox-exec", ["-p", profile, "/usr/bin/env", "TMPDIR=" ++ scratch] ++
        request.executable :: ["--print", "--output-format", "stream-json", "--trust", "--sandbox",
          "enabled"] ++ (if request.readOnly then ["--mode", "plan"] else []),
        [], fun prompt => ?_, ?_, by simp⟩
      · simp [buildExecArgv, CursorConnectorRuntime.buildExecArgv, hwrap]
      · have htmpdir : cursor.grammar.dashed ("TMPDIR=" ++ scratch) = false := by
          simp [grammar, dashed]
        have hwrapper : cursor.grammar.after .any
            ["-p", profile, "/usr/bin/env", "TMPDIR=" ++ scratch] = .any :=
          Grammar.next_any_of_plain htmpdir
        rw [List.append_assoc, Grammar.after_append, hwrapper]
        exact after_executable

end ConnectorRuntime

namespace ConnectorRuntime

-- Two command lines are read alike but for the prompt that each of them carries.
def AlikeButPrompt (connector : ConnectorRuntime) (p q : String) (first second : List String) :
    Prop :=
  ∃ before rest : List (Role × String),
    connector.grammar.read .any first.tail = before ++ (connector.promptRole, p) :: rest ∧
    connector.grammar.read .any second.tail = before ++ (connector.promptRole, q) :: rest

variable {connector : ConnectorRuntime} {host : Host} {request : ExecRequest}

section Alike

variable {p q command : String} {before rest : List String}

theorem AlikeButPrompt.symm {first second : List String}
    (h : connector.AlikeButPrompt p q first second) :
    connector.AlikeButPrompt q p second first := by
  obtain ⟨before, rest, hfirst, hsecond⟩ := h
  exact ⟨before, rest, hsecond, hfirst⟩

theorem not_alike_of_dashed {second : List String}
    (hafter : connector.grammar.after .any before = .any) (hrole : connector.promptRole = .operand)
    (hp : dashed p = true) :
    ¬ connector.AlikeButPrompt p q (command :: (before ++ [p])) second := by
  rintro ⟨read, rest, hread, -⟩
  have hmem : (Role.operand, p) ∈ connector.grammar.read .any (before ++ [p]) := by
    rw [← hrole]
    exact hread ▸ by simp
  exact Grammar.not_mem_read_concat hafter hp hmem

-- Two prompts that are read in their role leave the reading of the rest alone.
theorem alike_of_role (hp : connector.grammar.role (connector.grammar.after .any before) p =
      connector.promptRole)
    (hq : connector.grammar.role (connector.grammar.after .any before) q = connector.promptRole)
    (hnext : connector.grammar.next (connector.grammar.after .any before) p =
      connector.grammar.next (connector.grammar.after .any before) q) :
    connector.AlikeButPrompt p q (command :: (before ++ p :: rest))
      (command :: (before ++ q :: rest)) := by
  refine ⟨connector.grammar.read .any before, connector.grammar.read (connector.grammar.next
    (connector.grammar.after .any before) p) rest, ?_, ?_⟩
  · rw [List.tail_cons, Grammar.read_append, Grammar.read, hp]
  · rw [List.tail_cons, Grammar.read_append, Grammar.read, hq, hnext]

-- The prompt cannot change how a command line is read where it is the value of an
-- option or comes after the mark that ends them, or where neither prompt starts
-- like an option.
theorem alike_iff (hafter : connector.grammar.after .any before =
      connector.expecting request.executable) (hrest : connector ≠ .grok → rest = []) :
    connector.AlikeButPrompt p q (command :: (before ++ p :: rest))
        (command :: (before ++ q :: rest)) ↔
      connector = .grok ∨ (connector = .cursor ∧ request.executable = "--") ∨
        (dashed p = false ∧ dashed q = false) := by
  by_cases hgrok : connector = .grok
  · subst hgrok
    refine iff_of_true ?_ (.inl rfl)
    apply alike_of_role <;> rw [hafter] <;> rfl
  have hrole : connector.promptRole = .operand := by
    cases connector with
    | grok => exact absurd rfl hgrok
    | _ => rfl
  unfold expecting at hafter
  by_cases hmark : connector = .cursor ∧ request.executable = "--"
  · rw [if_neg hgrok, if_pos hmark] at hafter
    refine iff_of_true ?_ (.inr (.inl hmark))
    apply alike_of_role <;> rw [hafter]
    · exact hrole.symm
    · exact hrole.symm
    · rfl
  rw [if_neg hgrok, if_neg hmark] at hafter
  obtain rfl := hrest hgrok
  simp only [hgrok, hmark, false_or]
  constructor
  · intro halike
    constructor
    · by_contra hp
      exact not_alike_of_dashed hafter hrole (by simpa using hp) halike
    · by_contra hq
      exact not_alike_of_dashed hafter hrole (by simpa using hq) halike.symm
  · rintro ⟨hp, hq⟩
    apply alike_of_role
    · rw [hafter, hrole]
      exact Grammar.role_any_of_plain hp
    · rw [hafter, hrole]
      exact Grammar.role_any_of_plain hq
    · rw [hafter]
      exact (Grammar.next_any_of_plain hp).trans (Grammar.next_any_of_plain hq).symm

end Alike

theorem buildExecArgv_alike_iff {p q : String} {first second : List String}
    (hfirst : connector.buildExecArgv host { request with prompt := p } = .ok first)
    (hsecond : connector.buildExecArgv host { request with prompt := q } = .ok second) :
    connector.AlikeButPrompt p q first second ↔
      connector = .grok ∨ (connector = .cursor ∧ request.executable = "--") ∨
        (dashed p = false ∧ dashed q = false) := by
  obtain ⟨command, before, rest, hbuild, hafter, hrest⟩ := exists_layout hfirst
  obtain rfl : command :: (before ++ p :: rest) = first :=
    Except.ok.inj ((hbuild p).symm.trans hfirst)
  obtain rfl : command :: (before ++ q :: rest) = second :=
    Except.ok.inj ((hbuild q).symm.trans hsecond)
  exact alike_iff hafter hrest.mpr

def workspaceRequest : ExecRequest where
  executable := "/usr/bin/codex"
  prompt := "summarise"
  workspacePath := "/tmp/ws"

theorem plain_prompts_alike :
    dashed "fix the test" = false ∧
      ∃ first second,
        codex.buildExecArgv linuxHost { workspaceRequest with prompt := "summarise" } = .ok first ∧
        codex.buildExecArgv linuxHost { workspaceRequest with prompt := "fix the test" } =
          .ok second ∧
        codex.AlikeButPrompt "summarise" "fix the test" first second :=
  ⟨by decide, _, _, rfl, rfl,
    (@buildExecArgv_alike_iff codex linuxHost workspaceRequest _ _ _ _ rfl rfl).mpr (.inr (.inr ⟨by decide, by decide⟩))⟩

-- The prompt of a read-only run is read as the option that lifts the sandbox.
theorem dashed_prompt_not_alike :
    ∃ first second,
      codex.buildExecArgv linuxHost
        { workspaceRequest with prompt := "--dangerously-bypass-approvals-and-sandbox" } =
          .ok first ∧
      codex.buildExecArgv linuxHost workspaceRequest = .ok second ∧
      (Role.option, "--dangerously-bypass-approvals-and-sandbox") ∈
        codex.grammar.read .any first.tail ∧
      ¬ codex.AlikeButPrompt "--dangerously-bypass-approvals-and-sandbox" "summarise" first
        second := by
  refine ⟨_, _, rfl, rfl, by decide, ?_⟩
  have hafter : codex.grammar.after .any ["exec", "--json", "--skip-git-repo-check", "--sandbox",
      "read-only", "-C", "/tmp/ws"] = .any := rfl
  exact not_alike_of_dashed hafter rfl rfl

end ConnectorRuntime

end JoyMesh.Connectors
