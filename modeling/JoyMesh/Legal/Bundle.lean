import Mathlib.Data.List.Lex
import JoyMesh.Library.Dumps
import JoyMesh.Library.FileTree
import JoyMesh.Library.Text
import JoyMesh.Routing.Intent

namespace JoyMesh.Legal

open Library Routing

-- A component of a path.
structure Name where
  text : Points
  named : text ≠ [] ∧ text ≠ points "." ∧ text ≠ points ".." ∧ 47 ∉ text ∧ 0 ∉ text
deriving DecidableEq

abbrev Path := List Name

abbrev Bytes := List UInt8

abbrev Files := FileTree Name Bytes

def Name.of (text : Points) : Option Name :=
  if h : text ≠ [] ∧ text ≠ points "." ∧ text ≠ points ".." ∧ 47 ∉ text ∧ 0 ∉ text then
    some ⟨text, h⟩
  else none

-- The components of a relative path; empty ones and single dots are none.
def namesOf (rel : Points) : Path := (rel.splitOn 47).filterMap Name.of

def joined (path : Path) : Points := [47].intercalate (path.map Name.text)

structure SourceIdentity where
  producerSystem : String
  repositoryRoot : String
  commit : String
  branch : String
  tag : Option String
  dirty : Bool
  packageVersion : String

abbrev Document := List (Key × PyValue)

-- What the bundle is made of, besides the files of evidence_dir.
structure Inputs where
  identity : SourceIdentity
  outputDir : Path
  claim : Option Document
  certification : Option Document
  evidenceDir : Option Path
  extraFiles : Table Points Bytes := ∅

-- How json spells a tree, indented and in its canonical form, sha256, and the clock.
structure Codec where
  indented : Json → Bytes
  canonical : Json → Bytes
  sha256 : Bytes → String
  now : String

def dictOf (items : List (String × PyValue)) : PyValue :=
  .dict (items.map fun item => (.str item.1, item.2))

def strings (texts : List String) : PyValue := .list (texts.map .str)

def SourceIdentity.asDict (identity : SourceIdentity) : PyValue :=
  dictOf
    [("producer_system", .str identity.producerSystem),
      ("repository_root", .str identity.repositoryRoot), ("commit", .str identity.commit),
      ("branch", .str identity.branch), ("tag", (identity.tag.map PyValue.str).getD .none),
      ("dirty", .bool identity.dirty), ("package_version", .str identity.packageVersion)]

def identityDoc (identity : SourceIdentity) : PyValue :=
  dictOf
    [("schema", .str "joymesh.source-identity/v1"), ("source_identity", identity.asDict),
      ("qualification_observation", .str "awaiting_joylegal_decision")]

section Errors

def dumpError : DumpError → PyError
  | .notSerializable => ⟨"TypeError", "Object is not JSON serializable"⟩
  | .keysNotComparable => ⟨"TypeError", "'<' not supported between instances"⟩

def safeRel (path : Points) : Except PyError Unit :=
  if includes path ".." || path.head? == some 47 || path.contains 92 then
    .error ⟨"ValueError", "unsafe bundle path: " ++ stringOf path⟩
  else .ok ()

end Errors

section Collecting

variable (codec : Codec) (inputs : Inputs)

-- The text of json.dumps(value, indent=2, sort_keys=True) and a newline.
def dumped (value : PyValue) : Except PyError Bytes :=
  match dumps true false value with
  | .ok json => .ok (codec.indented json ++ [10])
  | .error error => .error (dumpError error)

def document (name : String) : Option Document → Except PyError (List (Points × Bytes))
  | none => .ok []
  | some items => (dumped codec (.dict items)).map fun data => [(points name, data)]

def evidenceFiles (files : Files) : List (Path × Bytes) :=
  match inputs.evidenceDir with
  | none => []
  | some dir => (FileTree.filesBelow dir files).insertionSort fun first second =>
      first.1.map Name.text ≤ second.1.map Name.text

def evidenceKey (rel : Path) : Points := points "evidence/" ++ joined rel

-- The dict of all that is written but for the manifest. What is refused is refused
-- before anything is written, so the checks stand before the assignments.
def collect (files : Files) : Except PyError (Table Points Bytes) := do
  let claim ← document codec "claim-v2.json" inputs.claim
  let certification ← document codec "certification-v2.json" inputs.certification
  (evidenceFiles inputs files).forM fun file => safeRel (joined file.1)
  inputs.extraFiles.items.forM fun file => safeRel file.1
  let identity ← dumped codec (identityDoc inputs.identity)
  return assignAll (claim ++ certification ++
    (evidenceFiles inputs files).map (fun file => (evidenceKey file.1, file.2)) ++
    inputs.extraFiles.items ++ [(points "source-identity.json", identity)])

end Collecting

section Manifest

def nonFinite : List String := ["NaN", "Infinity", "-Infinity"]

mutual

-- json.dumps with allow_nan=False refuses the floats that are no numbers, also as keys.
def finite : PyValue → Bool
  | .float text => text ∉ nonFinite
  | .list items => finiteList items
  | .tuple items => finiteList items
  | .dict items => finiteItems items
  | _ => true

def finiteList : List PyValue → Bool
  | [] => true
  | item :: rest => finite item && finiteList rest

def finiteItems : List (Key × PyValue) → Bool
  | [] => true
  | (.num key, item) :: rest => key.text ∉ nonFinite && finite item && finiteItems rest
  | (_, item) :: rest => finite item && finiteItems rest

end

variable (codec : Codec) (inputs : Inputs)

def sha256Hex (value : PyValue) : Except PyError String :=
  if !finite value then
    .error ⟨"ValueError", "Out of range float values are not JSON compliant"⟩
  else
    match dumps true false value with
    | .ok json => .ok (codec.sha256 (codec.canonical json))
    | .error error => .error (dumpError error)

def workspaceId : PyValue :=
  match inputs.claim with
  | none => .none
  | some items => ((items.find? fun item => item.1 = .str "workspace_id").map Prod.snd).getD .none

def includedSchemas : List String :=
  ["joylegal.bundle/v2"] ++ (if inputs.claim.isSome then ["joylegal.claim/v2"] else []) ++
    (if inputs.certification.isSome then ["joylegal.certification/v2"] else [])

def base (entries : List (Points × Bytes)) : List (String × PyValue) :=
  let identity := inputs.identity
  [("version", .str "joylegal.bundle/v2"), ("bundle_type", .str "producer_evidence"),
    ("subject", .str identity.producerSystem), ("workspace", workspaceId inputs),
    ("generated_at", .str codec.now),
    ("generator_version", .str ("joymesh.legal/" ++ identity.packageVersion)),
    ("included_schemas", strings (includedSchemas inputs)),
    ("included_records", strings ["commit:" ++ identity.commit, "branch:" ++ identity.branch,
      "producer:" ++ identity.producerSystem]),
    ("included_evidence", strings (entries.map fun entry => stringOf entry.1)),
    ("file_hashes", .list (entries.map fun entry =>
      dictOf [("path", .str (stringOf entry.1)), ("sha256", .str (codec.sha256 entry.2))])),
    ("integration_targets", strings [identity.producerSystem]), ("timeline_ids", .list []),
    ("graph_ids", .list []), ("export_policy", .str "producer_evidence_only")]

-- build_bundle_v2. A path that has no UTF-8 encoding has no canonical form either.
def buildBundle (entries : List (Points × Bytes)) : Except PyError (List (String × PyValue)) := do
  entries.forM fun entry => safeRel entry.1
  if entries.any fun entry => entry.1.any fun c => 0xd800 ≤ c && c < 0xe000 then
    throw ⟨"UnicodeEncodeError", "surrogates not allowed"⟩
  let base := base codec inputs entries
  let bundleId ← sha256Hex codec (dictOf base)
  let draft := base ++
    [("bundle_id", .str ("bundle_" ++ String.ofList (bundleId.toList.take 24)))]
  let hashed ← sha256Hex codec (dictOf draft)
  return draft ++ [("manifest_hash", .str hashed), ("canonical_content_hash", .str hashed)]

end Manifest

section Writing

variable (output : Path)

-- write_bytes below the output directory, after its directories have been made. That
-- directory holds nothing at first, but it is one.
def place (files : Files) (rel : Points) (data : Bytes) : Except PyError Files :=
  let target := output ++ namesOf rel
  if rel.contains 0 then .error ⟨"ValueError", "embedded null byte"⟩
  else if FileTree.underFile files target then
    .error (if FileTree.isFile files target.dropLast then ⟨"FileExistsError", "File exists"⟩
      else ⟨"NotADirectoryError", "Not a directory"⟩)
  else if namesOf rel = [] || FileTree.isDirectory files target then
    .error ⟨"IsADirectoryError", "Is a directory"⟩
  else .ok (AList.insert target data files)

-- The writes one after another; the files are what they are when one is refused.
def writeAll : List (Points × Bytes) → Files → Option PyError × Files
  | [], files => (none, files)
  | (rel, data) :: rest, files =>
      match place output files rel data with
      | .error error => (some error, files)
      | .ok files => writeAll rest files

end Writing

structure Report where
  outputDir : Path
  manifest : List (String × PyValue)
  fileCount : Nat

def createBundleDirectory (codec : Codec) (inputs : Inputs) (files : Files) :
    Except PyError Report × Files :=
  let output := inputs.outputDir
  if FileTree.isFile files output || FileTree.underFile files output then
    (.error ⟨"NotADirectoryError", "Not a directory"⟩, files)
  else
    let cleared := FileTree.removeTree output files
    match collect codec inputs cleared with
    | .error error => (.error error, cleared)
    | .ok written =>
        match writeAll output written.sortedItems cleared with
        | (some error, files) => (.error error, files)
        | (none, files) =>
            match buildBundle codec inputs written.sortedItems with
            | .error error => (.error error, files)
            | .ok manifest =>
                match dumped codec (dictOf manifest) with
                | .error error => (.error error, files)
                | .ok text =>
                    match place output files (points "manifest.json") text with
                    | .error error => (.error error, files)
                    | .ok files =>
                        (.ok ⟨output, manifest, written.sortedItems.length⟩, files)

end JoyMesh.Legal
