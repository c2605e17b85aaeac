import FaultInject.Construction.RecordJson
import FaultInject.Python.Encoding
import FaultInject.Python.JsonPrefix

/-
This file proves that a record is read back from the bytes of its JSON file, and that a file with
only a part of these bytes is no record.
-/

namespace FaultInject.Record
open Python

/-- Every object inside the record has distinct keys. -/
def RunRecord.DistinctKeys (record : RunRecord) : Prop :=
  Json.DistinctEntries record.provenance.entries ∧ Json.DistinctEntries record.audit.entries

/-- These are the fields of `asdict(metrics)`. -/
def Metrics.entries (metrics : Metrics) : List (String × Value) := [
  ("negotiated_group", .optionStr metrics.negotiatedGroup),
  ("is_hybrid", .bool metrics.isHybrid),
  ("downgrade_visible", .bool metrics.downgradeVisible),
  ("handshake_result", .str metrics.handshakeResult),
  ("detail", .str metrics.detail),
  ("hrr_present", optionBool metrics.hrrPresent),
  ("downgrade_flagged", optionBool metrics.downgradeFlagged),
  ("advertised_hybrid", optionBool metrics.advertisedHybrid),
  ("hrr_pcap_present", optionBool metrics.hrrPcapPresent),
  ("hrr_log_present", optionBool metrics.hrrLogPresent),
  ("server_hello_count", .scalar (metrics.serverHelloCount.elim .null .int)),
  ("final_negotiated_group", .optionStr metrics.finalNegotiatedGroup),
  ("client_precondition_verified", optionBool metrics.clientPreconditionVerified)]

/-- These are the fields of `asdict(record)` with the given metrics. -/
def RunRecord.entries (metrics : Value) (record : RunRecord) : List (String × Value) := [
  ("run_id", .str record.runId),
  ("implementation", .str record.implementation),
  ("fault_type", .str record.faultType),
  ("repetition", .scalar (.int record.repetition)),
  ("condition", .str record.condition),
  ("metrics", metrics),
  ("manipulation_verified", .bool record.manipulationVerified),
  ("artifacts", .object (record.artifacts.entries.map fun entry => (entry.1, .str entry.2))),
  ("provenance", .object record.provenance.entries),
  ("audit", .object record.audit.entries)]

/-- These fields of the metrics have defaults. -/
def Metrics.defaults : List (String × Value) := [
  ("detail", .str ""), ("hrr_present", .none), ("downgrade_flagged", .none),
  ("advertised_hybrid", .none), ("hrr_pcap_present", .none), ("hrr_log_present", .none),
  ("server_hello_count", .none), ("final_negotiated_group", .none),
  ("client_precondition_verified", .none)]

/-- These fields of a record have defaults. -/
def RunRecord.defaults : List (String × Value) :=
  [("artifacts", .object []), ("provenance", .object []), ("audit", .object [])]

/-- Only fields with their defaults are left out. The order of the fields is free. -/
structure Shows (shown full defaults : List (String × Value)) : Prop where
  known : ∀ entry ∈ shown, entry ∈ full
  others : ∀ entry ∈ full, entry.1 ∈ shown.map Prod.fst ∨ entry ∈ defaults

section Arguments
variable {A : Type} {shown full defaults : List (String × Value)} {field : String} {value : Value}
  {read : Value → Result A} {result : A}

/-- The fields of a table with distinct keys have one value each. -/
theorem eq_of_mem_nodup {first second : Value} (distinct : (full.map Prod.fst).Nodup)
    (here : (field, first) ∈ full) (there : (field, second) ∈ full) : first = second := by
  have left : Dict.get? ⟨full, distinct⟩ field = some first := Dict.get?_eq_some.mpr here
  have right : Dict.get? ⟨full, distinct⟩ field = some second := Dict.get?_eq_some.mpr there
  exact Option.some.inj (left.symm.trans right)

/-- A field has its value or is left out with its default. -/
theorem lookup_of_shows (shows' : Shows shown full defaults)
    (distinct : (full.map Prod.fst).Nodup) (member : (field, value) ∈ full) :
    shown.lookup field = some value ∨ shown.lookup field = none ∧ (field, value) ∈ defaults := by
  cases found : shown.lookup field with
  | some other =>
      obtain ⟨before, behind, shape, _⟩ := List.lookup_eq_some_iff.mp found
      have inside : (field, other) ∈ shown := by rw [shape]; simp
      exact .inl (congrArg some (eq_of_mem_nodup distinct (shows'.known _ inside) member))
  | none =>
      rcases shows'.others _ member with present | unset
      · obtain ⟨entry, inside, same⟩ := List.mem_map.mp present
        have absent := List.lookup_eq_none_iff.mp found entry inside
        rw [same, bne_self_eq_false] at absent
        cases absent
      · exact .inr ⟨rfl, unset⟩

/-- An argument is its shown value or its default. -/
theorem argument_of_shows (shows' : Shows shown full defaults)
    (distinct : (full.map Prod.fst).Nodup) (member : (field, value) ∈ full)
    (reads : read value = .ok result) {default : Option A}
    (agree : (field, value) ∈ defaults → default = some result) :
    argument shown field read default = .ok result := by
  unfold argument
  rcases lookup_of_shows shows' distinct member with found | ⟨found, unset⟩
  · rw [found]
    exact reads
  · rw [found, agree unset]

/-- All shown fields are fields of the class. -/
theorem checkFields_of_shows (shows' : Shows shown full defaults) {fields : List String}
    (same : full.map Prod.fst = fields) : checkFields shown fields = .ok () := by
  apply if_pos
  rw [List.all_eq_true]
  intro entry member
  rw [decide_eq_true_iff, ← same]
  exact List.mem_map_of_mem (shows'.known entry member)

end Arguments

section Readers

@[simp] theorem text_str (value : String) : (Value.str value).text = .ok value := rfl

@[simp] theorem readBool_bool (value : Bool) : readBool (.bool value) = .ok value := rfl

@[simp] theorem readInt_int (value : Int) : readInt (.scalar (.int value)) = .ok value := rfl

@[simp] theorem optional_text (value : Option String) :
    optional Value.text (.optionStr value) = .ok value := by
  cases value <;> rfl

@[simp] theorem optional_readBool (value : Option Bool) :
    optional readBool (optionBool value) = .ok value := by
  cases value <;> rfl

@[simp] theorem optional_readInt (value : Option Int) :
    optional readInt (.scalar (value.elim .null .int)) = .ok value := by
  cases value <;> rfl

@[simp] theorem optionBool_eq_none {value : Option Bool} :
    optionBool value = .none ↔ value = none := by
  cases value <;> simp [optionBool, Value.none]

@[simp] theorem optionStr_eq_none {value : Option String} :
    Value.optionStr value = .none ↔ value = none := by
  cases value <;> simp [Value.optionStr, Value.none]

@[simp] theorem optionInt_eq_none {value : Option Int} :
    Value.scalar (value.elim .null .int) = .none ↔ value = none := by
  cases value <;> simp [Value.none]

/-- Only the empty dictionary has no entries. -/
theorem eq_empty {V : Type} {dict : Dict String V} : Dict.empty = dict ↔ dict.entries = [] := by
  obtain ⟨entries, distinct⟩ := dict
  rw [Dict.empty, Dict.mk.injEq]
  exact eq_comm

/-- A dictionary is read from its entries. -/
theorem ofEntries_entries {V : Type} (dict : Dict String V) : Dict.ofEntries dict.entries = dict := by
  have same := Dict.entries_ofEntries dict.distinct
  obtain ⟨entries, distinct⟩ := dict
  cases shape : Dict.ofEntries entries with
  | mk others _ =>
      rw [shape] at same
      subst same
      rfl

theorem readDict_entries (dict : Dict String Value) : readDict (.object dict.entries) = .ok dict := by
  rw [readDict, ofEntries_entries]

/-- A dictionary of texts is read from its entries. -/
theorem readTexts_entries (dict : Dict String String) :
    readTexts (.object (dict.entries.map fun entry => (entry.1, .str entry.2))) = .ok dict := by
  have keys : (dict.entries.map fun entry => (entry.1, Value.str entry.2)).map Prod.fst =
      dict.entries.map Prod.fst := by
    rw [List.map_map]
    rfl
  have distinct := dict.distinct
  rw [← keys] at distinct
  have texts : (dict.entries.map fun entry => (entry.1, Value.str entry.2)).mapM
      (fun entry => entry.2.text.map fun text => (entry.1, text)) = .ok dict.entries := by
    rw [mapM_eq_ok, List.forall₂_map_left_iff, List.forall₂_same]
    intro entry _
    rfl
  rw [readTexts, readDict, ok_bind, Dict.entries_ofEntries distinct, texts, ok_bind,
    ofEntries_entries]
  rfl

end Readers

section Classes

/-- Metrics are made from every form that leaves out only defaults. -/
theorem metrics_of_shows {metrics : Metrics} {shown : List (String × Value)}
    (shows' : Shows shown metrics.entries Metrics.defaults) :
    Metrics.ofEntries shown = .ok metrics := by
  have distinct : (metrics.entries.map Prod.fst).Nodup := by simp [Metrics.entries]
  have field {A : Type} {name : String} (value : Value) {read : Value → Result A} {result : A}
      (member : (name, value) ∈ metrics.entries) (reads : read value = .ok result)
      {default : Option A} (agree : (name, value) ∈ Metrics.defaults → default = some result) :
      argument shown name read default = .ok result :=
    argument_of_shows shows' distinct member reads agree
  have fields := checkFields_of_shows shows' (show metrics.entries.map Prod.fst = Metrics.fields from rfl)
  rw [Metrics.ofEntries, fields, ok_bind,
    field (.optionStr metrics.negotiatedGroup) (by simp [Metrics.entries])
      (optional_text _) (by simp [Metrics.defaults]), ok_bind,
    field (.bool metrics.isHybrid) (by simp [Metrics.entries]) (readBool_bool _)
      (by simp [Metrics.defaults]), ok_bind,
    field (.bool metrics.downgradeVisible) (by simp [Metrics.entries]) (readBool_bool _)
      (by simp [Metrics.defaults]), ok_bind,
    field (.str metrics.handshakeResult) (by simp [Metrics.entries]) (text_str _)
      (by simp [Metrics.defaults]), ok_bind,
    field (.str metrics.detail) (by simp [Metrics.entries]) (text_str _)
      (by simp [Metrics.defaults, Value.str]), ok_bind,
    field (optionBool metrics.hrrPresent) (by simp [Metrics.entries]) (optional_readBool _)
      (by simpa [Metrics.defaults] using Eq.symm), ok_bind,
    field (optionBool metrics.downgradeFlagged) (by simp [Metrics.entries]) (optional_readBool _)
      (by simpa [Metrics.defaults] using Eq.symm), ok_bind,
    field (optionBool metrics.advertisedHybrid) (by simp [Metrics.entries]) (optional_readBool _)
      (by simpa [Metrics.defaults] using Eq.symm), ok_bind,
    field (optionBool metrics.hrrPcapPresent) (by simp [Metrics.entries]) (optional_readBool _)
      (by simpa [Metrics.defaults] using Eq.symm), ok_bind,
    field (optionBool metrics.hrrLogPresent) (by simp [Metrics.entries]) (optional_readBool _)
      (by simpa [Metrics.defaults] using Eq.symm), ok_bind,
    field (.scalar (metrics.serverHelloCount.elim .null .int)) (by simp [Metrics.entries])
      (optional_readInt _) (by simpa [Metrics.defaults] using Eq.symm), ok_bind,
    field (.optionStr metrics.finalNegotiatedGroup) (by simp [Metrics.entries])
      (optional_text _) (by simpa [Metrics.defaults] using Eq.symm), ok_bind,
    field (optionBool metrics.clientPreconditionVerified) (by simp [Metrics.entries])
      (optional_readBool _) (by simpa [Metrics.defaults] using Eq.symm), ok_bind]
  rfl

/-- A record is made from every form that leaves out only defaults. -/
theorem record_of_shows {record : RunRecord} {shown shownMetrics : List (String × Value)}
    (metricsShow : Shows shownMetrics record.metrics.entries Metrics.defaults)
    (shows' : Shows shown (record.entries (.object shownMetrics)) RunRecord.defaults) :
    RunRecord.ofEntries shown = .ok record := by
  have distinct : ((record.entries (.object shownMetrics)).map Prod.fst).Nodup := by
    simp [RunRecord.entries]
  have field {A : Type} {name : String} (value : Value) {read : Value → Result A} {result : A}
      (member : (name, value) ∈ record.entries (.object shownMetrics))
      (reads : read value = .ok result) {default : Option A}
      (agree : (name, value) ∈ RunRecord.defaults → default = some result) :
      argument shown name read default = .ok result :=
    argument_of_shows shows' distinct member reads agree
  have fields := checkFields_of_shows shows'
    (show (record.entries (.object shownMetrics)).map Prod.fst = RunRecord.fields from rfl)
  have metrics : shown.lookup "metrics" = some (.object shownMetrics) := by
    have member : ("metrics", .object shownMetrics) ∈ record.entries (.object shownMetrics) := by
      simp [RunRecord.entries]
    rcases lookup_of_shows shows' distinct member with found | ⟨_, unset⟩
    · exact found
    · simp [RunRecord.defaults] at unset
  rw [RunRecord.ofEntries, metrics]
  simp only [Metrics.read, metrics_of_shows metricsShow]
  rw [ok_bind, fields, ok_bind,
    field (.str record.runId) (by simp [RunRecord.entries]) (text_str _)
      (by simp [RunRecord.defaults]), ok_bind,
    field (.str record.implementation) (by simp [RunRecord.entries]) (text_str _)
      (by simp [RunRecord.defaults]), ok_bind,
    field (.str record.faultType) (by simp [RunRecord.entries]) (text_str _)
      (by simp [RunRecord.defaults]), ok_bind,
    field (.scalar (.int record.repetition)) (by simp [RunRecord.entries]) (readInt_int _)
      (by simp [RunRecord.defaults]), ok_bind,
    field (.str record.condition) (by simp [RunRecord.entries]) (text_str _)
      (by simp [RunRecord.defaults]), ok_bind,
    field (.bool record.manipulationVerified) (by simp [RunRecord.entries]) (readBool_bool _)
      (by simp [RunRecord.defaults]), ok_bind,
    field (.object (record.artifacts.entries.map fun entry => (entry.1, .str entry.2)))
      (by simp [RunRecord.entries]) (readTexts_entries _)
      (by simp [RunRecord.defaults, eq_empty]), ok_bind,
    field (.object record.provenance.entries) (by simp [RunRecord.entries]) (readDict_entries _)
      (by simp [RunRecord.defaults, eq_empty]), ok_bind,
    field (.object record.audit.entries) (by simp [RunRecord.entries]) (readDict_entries _)
      (by simp [RunRecord.defaults, eq_empty]), ok_bind]
  rfl

/-- A form shows all of its own entries. -/
theorem shows_refl (full defaults : List (String × Value)) : Shows full full defaults :=
  ⟨fun _ member => member, fun _ member => .inl (List.mem_map_of_mem member)⟩

/-- Reading the bytes of a JSON form gives what the class makes of the form. -/
theorem fromBytes_dumps {value : Value} (distinct : Json.Distinct value) :
    fromBytes (encodeUtf8 (Json.dumps 0 value)) = RunRecord.read value := by
  have text : translate (Json.dumps 0 value) = Json.dumps 0 value := by
    change String.ofList (universalNewlines (Json.dumps 0 value).toList) = _
    rw [universalNewlines_of_plain (Json.return_not_mem_dumps 0 value), String.ofList_toList]
  rw [fromBytes, decodeStrict_encodeUtf8, ok_bind, text, Json.loads_dumps distinct, ok_bind]

end Classes

section Stored

/-- The objects of a JSON form have distinct keys when those of the record have. -/
theorem distinct_toValue {record : RunRecord} (distinct : record.DistinctKeys) :
    Json.Distinct record.toValue := by
  have texts (entries : List (String × String)) :
      Json.DistinctEntries (entries.map fun entry => (entry.1, .str entry.2)) := by
    induction entries with
    | nil => trivial
    | cons entry entries ih => exact ⟨trivial, ih⟩
  have artifacts : (record.artifacts.entries.map fun entry =>
      (entry.1, Value.str entry.2)).map Prod.fst = record.artifacts.entries.map Prod.fst := by
    rw [List.map_map]
    rfl
  have keys := record.artifacts.distinct
  rw [← artifacts] at keys
  obtain ⟨provenance, audit⟩ := distinct
  have metrics : Json.Distinct record.metrics.toValue := by
    simp [Metrics.toValue, Json.Distinct, Json.DistinctEntries, Value.optionStr, Value.bool,
      Value.str, optionBool]
  have fields : RunRecord.fields.Nodup := by decide
  have entries : Json.DistinctEntries (record.entries record.metrics.toValue) :=
    ⟨trivial, trivial, trivial, trivial, trivial, metrics, trivial, ⟨keys, texts _⟩,
      ⟨record.provenance.distinct, provenance⟩, ⟨record.audit.distinct, audit⟩, trivial⟩
  exact ⟨fields, entries⟩

/-- The bytes of a record file give the record. -/
theorem fromBytes_record {record : RunRecord} (distinct : record.DistinctKeys) :
    fromBytes (File.record record).readBytes = .ok record := by
  have form : record.toValue = .object (record.entries (.object record.metrics.entries)) := rfl
  rw [File.readBytes, fromBytes_dumps (distinct_toValue distinct), form, RunRecord.read,
    record_of_shows (shows_refl _ _) (shows_refl _ _)]

/-- Writing a record changes what is read from the bytes of its own file and of no other. -/
theorem fromJsonBytes_toJsonPath (runDir : Directory) {record : RunRecord}
    (distinct : record.DistinctKeys) (name : String) :
    (runDir.toJsonPath record).fromJsonBytes name =
      if name = s!"{record.runId}.json" then .ok record else runDir.fromJsonBytes name := by
  rw [Directory.fromJsonBytes, Directory.file, Directory.toJsonPath, Dict.get?_set]
  by_cases same : name = s!"{record.runId}.json"
  · rw [if_pos same, if_pos same, ok_bind, fromBytes_record distinct]
  · rw [if_neg same, if_neg same, Directory.fromJsonBytes, Directory.file]

/-- This is a record whose texts need escapes and more than one byte for a character. -/
def sampleRecord : RunRecord where
  runId := "openssl_C2_r01_tls"
  implementation := "openssl"
  faultType := "C2"
  repetition := 1
  condition := "tls"
  metrics := {
    negotiatedGroup := some "x25519"
    isHybrid := false
    downgradeVisible := true
    handshakeResult := "success" }
  manipulationVerified := true
  artifacts := .ofEntries [("pcap", "run \"é\".pcap")]
  provenance := .ofEntries [("client_cmd", .list [.str "s_client\t", .object [("retries", .none)]])]

/-- A record with escaped texts and nested objects is read back from its bytes. -/
theorem fromJsonBytes_toJsonPath_sample :
    (Directory.toJsonPath Dict.empty sampleRecord).fromJsonBytes "openssl_C2_r01_tls.json" =
      .ok sampleRecord := by
  have distinct : sampleRecord.DistinctKeys := by
    exact ⟨⟨⟨trivial, ⟨by decide, trivial, trivial⟩, trivial⟩, trivial⟩, trivial⟩
  rw [fromJsonBytes_toJsonPath Dict.empty distinct]
  exact if_pos rfl

/-- A record is read from every JSON form of it. The form may leave out fields with their
defaults and have the others in any order. -/
theorem fromBytes_of_shows {record : RunRecord} {shown shownMetrics : List (String × Value)}
    (metricsShow : Shows shownMetrics record.metrics.entries Metrics.defaults)
    (shows' : Shows shown (record.entries (.object shownMetrics)) RunRecord.defaults)
    (distinct : Json.Distinct (.object shown)) :
    fromBytes (encodeUtf8 (Json.dumps 0 (.object shown))) = .ok record := by
  rw [fromBytes_dumps distinct, RunRecord.read, record_of_shows metricsShow shows']

/-- These are metrics without the later fields in another order. -/
def earlyMetrics : List (String × Value) := [
  ("handshake_result", .str "failure"),
  ("negotiated_group", .none),
  ("is_hybrid", .bool false),
  ("downgrade_visible", .bool false)]

/-- This is a record without the later fields in another order. -/
def earlyRecord : List (String × Value) := [
  ("metrics", .object earlyMetrics),
  ("manipulation_verified", .bool false),
  ("run_id", .str "openssl_F1_r01_tls"),
  ("implementation", .str "openssl"),
  ("fault_type", .str "F1"),
  ("repetition", .scalar (.int 1)),
  ("condition", .str "tls")]

/-- An early form is read as the record with the defaults of the later fields. -/
theorem fromBytes_of_shows_sample : ∃ record : RunRecord,
    fromBytes (encodeUtf8 (Json.dumps 0 (.object earlyRecord))) = .ok record := by
  let record : RunRecord := {
    runId := "openssl_F1_r01_tls"
    implementation := "openssl"
    faultType := "F1"
    repetition := 1
    condition := "tls"
    metrics := {
      negotiatedGroup := none
      isHybrid := false
      downgradeVisible := false
      handshakeResult := "failure" }
    manipulationVerified := false }
  have metrics : Shows earlyMetrics record.metrics.entries Metrics.defaults := by
    constructor
    · simp [earlyMetrics, Metrics.entries, record, Value.optionStr, Value.none]
    · simp [earlyMetrics, Metrics.entries, Metrics.defaults, record, Value.none, optionBool,
        Value.optionStr]
  have shows' : Shows earlyRecord (record.entries (.object earlyMetrics)) RunRecord.defaults := by
    constructor
    · simp [earlyRecord, RunRecord.entries, record]
    · simp [earlyRecord, RunRecord.entries, RunRecord.defaults, record, Dict.empty]
  have distinct : Json.Distinct (.object earlyRecord) :=
    ⟨by decide, ⟨by decide, trivial, trivial, trivial, trivial, trivial⟩, trivial, trivial, trivial,
      trivial, trivial, trivial, trivial⟩
  exact ⟨record, fromBytes_of_shows metrics shows' distinct⟩

end Stored

section Files

/-- This is a file of a run with a record or with the beginning of one. -/
inductive Written : File → Prop where
  | whole {record : RunRecord} (distinct : record.DistinctKeys) : Written (.record record)
  | torn {record : RunRecord} {content : String} (distinct : record.DistinctKeys)
      (start : content.toList <+: (Json.dumps 0 record.toValue).toList)
      (partly : content ≠ Json.dumps 0 record.toValue) : Written (.text content)

/-- A beginning of the text of a record has no carriage return. -/
theorem translate_of_prefix {value : Value} {content : String}
    (start : content.toList <+: (Json.dumps 0 value).toList) : translate content = content := by
  have plain : '\r' ∉ content.toList :=
    fun inside => Json.return_not_mem_dumps 0 value (start.subset inside)
  change String.ofList (universalNewlines content.toList) = _
  rw [universalNewlines_of_plain plain, String.ofList_toList]

/-- A record that was written in part is not read. -/
theorem fromBytes_torn {record : RunRecord} {content : String} (distinct : record.DistinctKeys)
    (start : content.toList <+: (Json.dumps 0 record.toValue).toList)
    (partly : content ≠ Json.dumps 0 record.toValue) (result : RunRecord) :
    fromBytes (File.text content).readBytes ≠ .ok result := by
  intro read
  rw [File.readBytes, fromBytes, decodeStrict_encodeUtf8, ok_bind, translate_of_prefix start] at read
  obtain ⟨value, loaded, _⟩ := bind_eq_ok.mp read
  exact partly (Json.eq_of_loads_prefix (distinct_toValue distinct) start loaded)

/-- The model of a file and its bytes give the same record. -/
theorem fromJson_iff_fromJsonBytes {runDir : Directory} {name : String}
    (written : ∀ file, runDir.get? name = some file → Written file) (record : RunRecord) :
    runDir.fromJson name = .ok record ↔ runDir.fromJsonBytes name = .ok record := by
  rw [Directory.fromJson, Directory.fromJsonBytes, Directory.file]
  cases found : runDir.get? name with
  | none => rfl
  | some file =>
      rw [ok_bind, ok_bind]
      cases written file found with
      | whole distinct => rw [fromBytes_record distinct]
      | torn distinct start partly =>
          constructor
          · intro read
            cases read
          · exact fun read => absurd read (fromBytes_torn distinct start partly record)

end Files

end FaultInject.Record
