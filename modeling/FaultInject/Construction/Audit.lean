import FaultInject.Construction.Directory

namespace FaultInject.Audit
open Python Record

/-- A search returns the text of the first match of a pattern, like `re.search`. -/
abbrev Search := String → String → Option String

def warningRe : String := "(?i)\\b(downgrad\\w*|insecure|security warning|policy)\\b"

def advertisedRe : String :=
  "(?i)(supported[_ ]groups|KEX algorithms)\\s*[:=(].*" ++
    "(X25519MLKEM768|X25519Kyber768Draft00|sntrup761x25519)"

def negotiatedRe : String :=
  "(Negotiated TLS1\\.3 group:|ECDHE group:|Peer Temp Key:|kex: algorithm:)\\s*\\S+"

/-- Each entry maps a path to the reason for its absence. -/
def notCollected : List (String × String) :=
  [("s_client -brief", "the client ran with -state -msg; no -brief output was captured"),
    ("keylog", "no key log was written; NSS key log lines hold labels, client randoms and " ++
      "secrets, not group names")]

/-- The audit of one output. -/
structure PathAudit where
  explicitWarning : Option Bool
  mismatchInSingleOutput : Value
  evidence : Value

def PathAudit.toValue (path : PathAudit) : Value :=
  .object [
    ("explicit_warning", optionBool path.explicitWarning),
    ("mismatch_in_single_output", path.mismatchInSingleOutput),
    ("evidence", path.evidence)]

def auditText (search : Search) : Option String → PathAudit
  | none =>
    { explicitWarning := none
      mismatchInSingleOutput := .none
      evidence := .str "output missing" }
  | some text =>
    let warning := search warningRe text
    let advertised := search advertisedRe text
    let negotiated := search negotiatedRe text
    { explicitWarning := some warning.isSome
      mismatchInSingleOutput :=
        if advertised.isSome && negotiated.isSome then .bool true else .str "unsupported"
      evidence := .object [
        ("warning", .optionStr warning),
        ("advertised", .optionStr advertised),
        ("negotiated", .optionStr negotiated)] }

/-- These are the summary entries over the audited paths. -/
def summarizePaths (paths : List (String × PathAudit)) : List (String × Value) :=
  let warnings := paths.map fun path => path.2.explicitWarning
  let mismatches := paths.map fun path => path.2.mismatchInSingleOutput
  let basis := (paths.filter fun path =>
    path.2.explicitWarning == some true || path.2.mismatchInSingleOutput.isTrue).map Prod.fst
  [("explicit_warning",
      if some true ∈ warnings then .bool true
      else if some false ∈ warnings then .bool false else .none),
    ("mismatch_in_single_output",
      if mismatches.any Value.isTrue then .bool true
      else if mismatches.any (Value.isText "unsupported") then .str "unsupported" else .none),
    ("basis", .list ((basis.insertionSort (· ≤ ·)).map Value.str))]

/-- This is the nested function `read`. -/
def readArtifact (record : RunRecord) (runDir : Directory) (key : String) : Option String :=
  match record.artifacts.get? key with
  | some name => if name = "" then none else (runDir.get? name).map File.readTextReplace
  | none => none

/-- The summary of the capture comes from a program that the repository calls. -/
def auditRecord (search : Search) (tsharkSummary : String → Option String) (record : RunRecord)
    (runDir : Directory) : Dict String Value :=
  let summary := match record.artifacts.get? "pcap" with
    | some pcap => if pcap = "" then none else tsharkSummary pcap
    | none => none
  let paths :=
    [("client_log", auditText search (readArtifact record runDir "client_log")),
      ("server_log", auditText search (readArtifact record runDir "server_log")),
      ("tshark_summary", auditText search summary)] ++
    notCollected.map fun entry =>
      (entry.1, ⟨none, .str "not_collected", .str entry.2⟩)
  (summarizePaths paths).foldl (fun audit entry => audit.set entry.1 entry.2)
    (Dict.empty.set "paths" (.object (paths.map fun path => (path.1, path.2.toValue))))

end FaultInject.Audit
