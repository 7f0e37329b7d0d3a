import JoyMesh.Harnesses.Adapters

namespace JoyMesh.Harnesses

open JoyMesh.Routing

structure CustomHarnessConfig where
  harnessId : String
  displayName : String
  executable : String
  args : List String := []
  inputMode : String := "stdin"
  outputMode : String := "jsonl"
  timeoutSeconds : Int := 1800
  workingDirectory : String := "inherit"
  environmentAllowlist : List String := ["PATH", "HOME"]
  capabilities : List String := []
deriving DecidableEq, Repr

structure CustomHarnessValidationIssue where
  code : String
  message : String
deriving DecidableEq, Repr

def removedProductionHarnessIds : List String := ["fake", "joy"]

-- The characters that str.strip takes away.
def isSpace (c : Char) : Bool :=
  let code := c.toNat
  (9 ≤ code && code ≤ 13) || (28 ≤ code && code ≤ 32) || code = 133 || code = 160 ||
    code = 5760 || (8192 ≤ code && code ≤ 8202) || code = 8232 || code = 8233 || code = 8239 ||
    code = 8287 || code = 12288

def isLower (c : Char) : Bool := 'a' ≤ c && c ≤ 'z'

def isUpper (c : Char) : Bool := 'A' ≤ c && c ≤ 'Z'

def isDigit (c : Char) : Bool := '0' ≤ c && c ≤ '9'

-- The end of a pattern also matches before a last newline.
def beforeNewline (text : List Char) : List Char :=
  if text.getLast? = some '\n' then text.dropLast else text

def matchesHarnessId (id : String) : Bool :=
  match beforeNewline id.toList with
  | [] => false
  | first :: rest =>
      isLower first && 1 ≤ rest.length && rest.length ≤ 63 &&
        rest.all fun c => isLower c || isDigit c || c = '_' || c = '-'

def matchesEnvironmentKey (key : String) : Bool :=
  match beforeNewline key.toList with
  | [] => false
  | first :: rest =>
      (isLower first || isUpper first || first = '_') &&
        rest.all fun c => isLower c || isUpper c || isDigit c || c = '_'

def shellMetachars : List Char := ['|', '&', ';', '<', '>', '$', '\x60', '\n', '\r']

def credentialTokens : List String := ["key", "token", "secret", "password", "credential"]

def executableIssues (machine : Machine) (executable : String) :
    List CustomHarnessValidationIssue :=
  if executable = "" ∨ executable.toList.all isSpace then
    [⟨"missing_executable", "executable is required"⟩]
  else
    (if executable.toList.any shellMetachars.contains then
      [⟨"shell_interpolation_forbidden",
        "executable must not contain shell metacharacters; use args arrays"⟩]
    else []) ++
    (if executable.toList.contains ' ' ∧ machine.exists_ executable = false then
      [⟨"executable_must_be_path_or_name",
        "use a single executable path/name; put flags in args"⟩]
    else [])

def argIssues (arg : String) : List CustomHarnessValidationIssue :=
  if arg.toList.any fun c => c = '\n' || c = '\r' then
    [⟨"args_forbid_newlines", "args must not contain newlines"⟩]
  else []

-- A key is lowered before it is searched; the parameter is str.lower.
def environmentIssues (lower : String → String) (key : String) :
    List CustomHarnessValidationIssue :=
  (if matchesEnvironmentKey key then []
  else [⟨"invalid_env_key", "invalid environment allowlist key: " ++ key⟩]) ++
  (if credentialTokens.any fun token => decide (token.toList <:+: (lower key).toList) then
    [⟨"credentials_forbidden_in_env",
      "environment allowlist must not include credential-like keys: " ++ key⟩]
  else [])

def capabilityIssues (name : String) : List CustomHarnessValidationIssue :=
  if (Capability.all.map Capability.value).contains name then []
  else [⟨"unknown_capability",
    "unknown capability '" ++ name ++ "'; must be a known Capability value"⟩]

def validateCustomHarnessConfig (machine : Machine) (lower : String → String)
    (config : CustomHarnessConfig) : List CustomHarnessValidationIssue :=
  (if matchesHarnessId config.harnessId then []
  else [⟨"invalid_harness_id",
    "harness_id must be lowercase alphanumeric with _/- (2-64 chars)"⟩]) ++
  (if removedProductionHarnessIds.contains config.harnessId then
    [⟨"forbidden_harness_id", "harness_id '" ++ config.harnessId ++ "' is reserved/removed"⟩]
  else []) ++
  executableIssues machine config.executable ++
  config.args.flatMap argIssues ++
  (if ["stdin", "argv"].contains config.inputMode then []
  else [⟨"unsupported_input_mode", "input_mode must be one of ['argv', 'stdin']"⟩]) ++
  (if ["jsonl", "json", "text"].contains config.outputMode then []
  else [⟨"unsupported_output_mode", "output_mode must be one of ['json', 'jsonl', 'text']"⟩]) ++
  (if ["inherit", "workspace"].contains config.workingDirectory then []
  else [⟨"unsupported_working_directory",
    "working_directory must be one of ['inherit', 'workspace']"⟩]) ++
  (if config.timeoutSeconds < 1 ∨ config.timeoutSeconds > 86400 then
    [⟨"timeout_out_of_range", "timeout_seconds must be between 1 and 86400"⟩]
  else []) ++
  config.environmentAllowlist.flatMap (environmentIssues lower) ++
  config.capabilities.flatMap capabilityIssues

-- An adapter is only made of a config without issues.
structure CustomHarnessAdapter (machine : Machine) (lower : String → String) where
  config : CustomHarnessConfig
  valid : validateCustomHarnessConfig machine lower config = []

namespace CustomHarnessAdapter

variable {machine : Machine} {lower : String → String}

def arguments (adapter : CustomHarnessAdapter machine lower) (request : RunRequest) :
    List String :=
  adapter.config.args ++
    if adapter.config.inputMode = "argv" then ["--task", request.task] else []

def buildLaunchSpec (adapter : CustomHarnessAdapter machine lower) (request : RunRequest) :
    LaunchSpec where
  argv := (machine.which adapter.config.executable).getD adapter.config.executable ::
    adapter.arguments request
  cwd :=
    if adapter.config.workingDirectory = "workspace" then request.workspace
    else machine.getcwd

end CustomHarnessAdapter

end JoyMesh.Harnesses
