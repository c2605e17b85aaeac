import FaultInject.Python.Json

namespace FaultInject.Record
open Python

def hybridGroups : List String :=
  ["X25519MLKEM768", "X25519Kyber768Draft00", "sntrup761x25519-sha512@openssh.com"]

def runId (impl fault : String) (rep : Int) (condition : String) : String :=
  s!"{impl}_{fault}_r{formatDecimal 2 rep}_{condition}"

structure Metrics where
  negotiatedGroup : Option String
  isHybrid : Bool
  downgradeVisible : Bool
  handshakeResult : String
  detail : String := ""
  hrrPresent : Option Bool := none
  downgradeFlagged : Option Bool := none
  advertisedHybrid : Option Bool := none
  hrrPcapPresent : Option Bool := none
  hrrLogPresent : Option Bool := none
  serverHelloCount : Option Int := none
  finalNegotiatedGroup : Option String := none
  clientPreconditionVerified : Option Bool := none
  deriving DecidableEq, Repr

structure RunRecord where
  runId : String
  implementation : String
  faultType : String
  repetition : Int
  condition : String
  metrics : Metrics
  manipulationVerified : Bool
  artifacts : Dict String String := .empty
  provenance : Dict String Value := .empty
  audit : Dict String Value := .empty

def optionBool (value : Option Bool) : Value := .scalar (value.elim .null .bool)

/-- This is `asdict(metrics)`. -/
def Metrics.toValue (metrics : Metrics) : Value :=
  .object [
    ("negotiated_group", .optionStr metrics.negotiatedGroup),
    ("is_hybrid", .bool metrics.isHybrid),
    ("downgrade_visible", .bool metrics.downgradeVisible),
    ("handshake_result", .str metrics.handshakeResult),
    ("detail", .str metrics.detail),
    ("hrr_present", optionBool metrics.hrrPresent),
    ("downgrade_flagged", optionBool metrics.downgradeFlagged),
    ("advertised_hybrid", optionBool metrics.advertisedHybrid),
    ("hrr_pcap_present", optionBool metrics.hrrPcapPresent),
    ("hrr_log_present", optionBool metrics.hrrLogPresent),
    ("server_hello_count", .scalar (metrics.serverHelloCount.elim .null .int)),
    ("final_negotiated_group", .optionStr metrics.finalNegotiatedGroup),
    ("client_precondition_verified", optionBool metrics.clientPreconditionVerified)]

/-- This is `asdict(record)`. -/
def RunRecord.toValue (record : RunRecord) : Value :=
  .object [
    ("run_id", .str record.runId),
    ("implementation", .str record.implementation),
    ("fault_type", .str record.faultType),
    ("repetition", .scalar (.int record.repetition)),
    ("condition", .str record.condition),
    ("metrics", record.metrics.toValue),
    ("manipulation_verified", .bool record.manipulationVerified),
    ("artifacts", .object (record.artifacts.entries.map fun entry => (entry.1, .str entry.2))),
    ("provenance", .object record.provenance.entries),
    ("audit", .object record.audit.entries)]

end FaultInject.Record
