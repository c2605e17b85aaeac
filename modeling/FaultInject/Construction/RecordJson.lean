import FaultInject.Construction.Directory
import FaultInject.Python.JsonScan

/-
This file models the reading of a record from the bytes of its JSON file. A record whose fields
have other types than the annotated ones is no record of the model.
-/

namespace FaultInject.Record
open Python

/-- This is `None` or a value that the reader accepts. -/
def optional {A : Type} (read : Value → Result A) : Value → Result (Option A)
  | .scalar .null => .ok none
  | value => (read value).map some

def readBool : Value → Result Bool
  | .scalar (.bool value) => .ok value
  | _ => .error (.typeError "expected a Boolean")

def readInt : Value → Result Int
  | .scalar (.int value) => .ok value
  | _ => .error (.typeError "expected an integer")

def readDict : Value → Result (Dict String Value)
  | .object entries => .ok (Dict.ofEntries entries)
  | _ => .error (.typeError "expected a dictionary")

/-- This is a dictionary whose values are texts. -/
def readTexts (value : Value) : Result (Dict String String) := do
  let dict ← readDict value
  let entries ← dict.entries.mapM fun entry => entry.2.text.map fun text => (entry.1, text)
  return Dict.ofEntries entries

/-- This is a keyword argument of a data class. A missing one has its default. -/
def argument {A : Type} (entries : List (String × Value)) (field : String)
    (read : Value → Result A) (default : Option A) : Result A :=
  match entries.lookup field with
  | some value => read value
  | none =>
      match default with
      | some value => .ok value
      | none => .error (.typeError s!"missing required argument: '{field}'")

/-- A data class takes only its own fields. -/
def checkFields (entries : List (String × Value)) (fields : List String) : Result Unit :=
  if entries.all fun entry => entry.1 ∈ fields then .ok ()
  else .error (.typeError "got an unexpected keyword argument")

def Metrics.fields : List String :=
  ["negotiated_group", "is_hybrid", "downgrade_visible", "handshake_result", "detail",
    "hrr_present", "downgrade_flagged", "advertised_hybrid", "hrr_pcap_present", "hrr_log_present",
    "server_hello_count", "final_negotiated_group", "client_precondition_verified"]

def RunRecord.fields : List String :=
  ["run_id", "implementation", "fault_type", "repetition", "condition", "metrics",
    "manipulation_verified", "artifacts", "provenance", "audit"]

/-- This is `Metrics(**entries)`. -/
def Metrics.ofEntries (entries : List (String × Value)) : Result Metrics := do
  checkFields entries Metrics.fields
  return {
    negotiatedGroup := ← argument entries "negotiated_group" (optional Value.text) none
    isHybrid := ← argument entries "is_hybrid" readBool none
    downgradeVisible := ← argument entries "downgrade_visible" readBool none
    handshakeResult := ← argument entries "handshake_result" Value.text none
    detail := ← argument entries "detail" Value.text (some "")
    hrrPresent := ← argument entries "hrr_present" (optional readBool) (some none)
    downgradeFlagged := ← argument entries "downgrade_flagged" (optional readBool) (some none)
    advertisedHybrid := ← argument entries "advertised_hybrid" (optional readBool) (some none)
    hrrPcapPresent := ← argument entries "hrr_pcap_present" (optional readBool) (some none)
    hrrLogPresent := ← argument entries "hrr_log_present" (optional readBool) (some none)
    serverHelloCount := ← argument entries "server_hello_count" (optional readInt) (some none)
    finalNegotiatedGroup :=
      ← argument entries "final_negotiated_group" (optional Value.text) (some none)
    clientPreconditionVerified :=
      ← argument entries "client_precondition_verified" (optional readBool) (some none) }

/-- This is `Metrics(**value)` for a value of the record. -/
def Metrics.read : Value → Result Metrics
  | .object entries => Metrics.ofEntries entries
  | _ => .error (.typeError "argument after ** must be a mapping")

/-- These are the calls that make a record from the decoded value. The metrics are made first. -/
def RunRecord.ofEntries (entries : List (String × Value)) : Result RunRecord := do
  let metrics ← match entries.lookup "metrics" with
    | some value => Metrics.read value
    | none => .error (.keyError "metrics")
  checkFields entries RunRecord.fields
  return {
    runId := ← argument entries "run_id" Value.text none
    implementation := ← argument entries "implementation" Value.text none
    faultType := ← argument entries "fault_type" Value.text none
    repetition := ← argument entries "repetition" readInt none
    condition := ← argument entries "condition" Value.text none
    metrics := metrics
    manipulationVerified := ← argument entries "manipulation_verified" readBool none
    artifacts := ← argument entries "artifacts" readTexts (some .empty)
    provenance := ← argument entries "provenance" readDict (some .empty)
    audit := ← argument entries "audit" readDict (some .empty) }

def RunRecord.read : Value → Result RunRecord
  | .object entries => RunRecord.ofEntries entries
  | _ => .error (.typeError "indices must be integers or slices, not str")

/-- This is the body of `RunRecord.from_json` on the bytes of the file. -/
def fromBytes (data : Bytes) : Result RunRecord := do
  let text ← decodeStrict data
  let value ← Json.loads (translate text)
  RunRecord.read value

end FaultInject.Record

namespace FaultInject.Directory
open Python Record

/-- This is `RunRecord.from_json(run_dir / name)` on the bytes of the file. -/
def fromJsonBytes (runDir : Directory) (name : String) : Result RunRecord := do
  fromBytes (← runDir.file name).readBytes

end FaultInject.Directory
