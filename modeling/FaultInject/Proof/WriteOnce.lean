import FaultInject.Construction.V18
import FaultInject.Proof.Identity
import FaultInject.Proof.MatrixRun

namespace FaultInject.Matrix
open Python Glob Record Harness V12 V15 V16 V18
open Analyze (repetitionRange)

/-- These are the names of the files that hold a record. -/
def RecordFile (name : String) : Prop :=
  ".json".toList <:+ name.toList ∧ name ≠ inventoryName

/-- A run either raises at its guard and changes nothing, or keeps every record file that it
found in every state that it reaches. -/
def WriteOnce (plan : Plan) : Prop :=
  ∀ runDir : Directory,
    (∃ message, plan.guard runDir = .error (.runtimeError message) ∧
      ∀ events state, Transition.run (step plan) (.initial runDir) events = some state →
        state.runDir = runDir ∧
          (state.phase = .entered ∨ state.phase = .raised (.runtimeError message))) ∨
    (plan.guard runDir = .ok () ∧
      ∀ events state, Transition.run (step plan) (.initial runDir) events = some state →
        ∀ name file, RecordFile name → runDir.get? name = some file →
          state.runDir.get? name = some file)

section Guard
variable {plan : Plan}

/-- The only move at the entry is the guard. -/
theorem Move.eq_enter {state next : State} (taken : Move plan state next)
    (entered : state.phase = .entered) : next = plan.enter state := by
  cases taken with
  | enter phase => rfl
  | _ => simp_all

/-- A raised run has ended. -/
theorem Move.not_raised {state next : State} (taken : Move plan state next) (error : Error) :
    state.phase ≠ .raised error := by
  intro ended
  cases taken <;> simp_all

/-- A raised guard changes nothing. -/
theorem unchanged_of_guard {runDir : Directory} {error : Error}
    (raised : plan.guard runDir = .error error) {events : List Event} {state : State}
    (reached : Transition.run (step plan) (.initial runDir) events = some state) :
    state.runDir = runDir ∧ (state.phase = .entered ∨ state.phase = .raised error) := by
  apply run_keeps ⟨rfl, .inl rfl⟩ _ reached
  rintro state next ⟨rfl, phase⟩ taken
  rcases phase with entered | ended
  · rw [taken.eq_enter entered, Plan.enter, raised]
    exact ⟨rfl, .inr rfl⟩
  · exact absurd ended (taken.not_raised error)

/-- A guard that covers the names of all planned records makes a run write once. -/
theorem writeOnce_of_guard (own : ∀ job, plan.Contains job → OwnJob job)
    (listed : ∀ inventory, plan.inventory = some inventory → inventory.name = inventoryName)
    (guarded : ∀ runDir : Directory,
      (∃ message, plan.guard runDir = .error (.runtimeError message)) ∨
        (plan.guard runDir = .ok () ∧
          ∀ job, plan.Contains job → runDir.get? (recordName job.spec) = none)) :
    WriteOnce plan := by
  intro runDir
  rcases guarded runDir with ⟨message, raised⟩ | ⟨passed, fresh⟩
  · exact .inl ⟨message, raised, fun _ _ reached => unchanged_of_guard raised reached⟩
  · refine .inr ⟨passed, ?_⟩
    rintro events state reached name file ⟨json, other⟩ found
    rw [(framed_of_run own reached).keeps name, found]
    rintro (⟨job, known, member⟩ | ⟨inventory, planned, rfl⟩)
    · rw [eq_recordName (.inl (own job known).proxyLog) member json, fresh job known] at found
      cases found
    · exact other (listed inventory planned)

end Guard

section Names

/-- The characters of a text stand for themselves in a pattern of one component. -/
def NameText (text : String) : Prop :=
  ∀ character ∈ text.toList, Plain character ∧ character ≠ '/'

/-- This is the test of a text on its characters. -/
def isNameText (text : String) : Bool :=
  text.toList.all fun character => decide (Plain character ∧ character ≠ '/')

theorem nameText_iff {text : String} : isNameText text = true ↔ NameText text := by
  rw [isNameText, List.all_eq_true]
  exact forall₂_congr fun character member => decide_eq_true_iff

theorem NameText.append {first second : String} (left : NameText first) (right : NameText second) :
    NameText (first ++ second) := by
  intro character member
  rw [String.toList_append, List.mem_append] at member
  exact member.elim (left character) (right character)

theorem NameText.slash {text : String} (clean : NameText text) : '/' ∉ text.toList :=
  fun member => (clean '/' member).2 rfl

theorem nameText_formatDecimal (width : Nat) (value : Int) :
    NameText (formatDecimal width value) := by
  intro character member
  rcases mem_formatDecimal member with rfl | digit
  · decide
  · refine ⟨⟨?_, ?_, ?_⟩, ?_⟩ <;>
      · rintro rfl
        exact absurd digit (by decide)

/-- The names of a table are clean when all of them are. -/
theorem nameText_of_item {V : Type} {table : List (String × V)} {name : String} {value : V}
    (clean : (table.map Prod.fst).all isNameText) (known : Dict.item table name = .ok value) :
    NameText name :=
  nameText_iff.mp (Dict.test_of_item clean known)

/-- The star of a pattern stands for any repetition of a run. -/
theorem globMatch_runId {impl fault condition : String} (implClean : NameText impl)
    (faultClean : NameText fault) (conditionClean : NameText condition) (rep : Int) :
    globMatch s!"{impl}_{fault}_r*_{condition}.json" s!"{runId impl fault rep condition}.json" =
      true := by
  have head : NameText (impl ++ "_" ++ fault ++ "_r") :=
    ((implClean.append (nameText_iff.mp rfl)).append faultClean).append (nameText_iff.mp rfl)
  have tail : NameText ("_" ++ condition ++ ".json") :=
    ((nameText_iff.mp rfl : NameText "_").append conditionClean).append (nameText_iff.mp rfl)
  have number := nameText_formatDecimal 2 rep
  have pattern : s!"{impl}_{fault}_r*_{condition}.json" =
      String.ofList ((impl ++ "_" ++ fault ++ "_r").toList ++
        '*' :: ("_" ++ condition ++ ".json").toList) := by
    apply String.toList_injective
    show (impl ++ "_" ++ fault ++ "_r*_" ++ condition ++ ".json").toList = _
    simp
  have name : s!"{runId impl fault rep condition}.json" =
      String.ofList ((impl ++ "_" ++ fault ++ "_r").toList ++
        ((formatDecimal 2 rep).toList ++ ("_" ++ condition ++ ".json").toList)) := by
    apply String.toList_injective
    show (impl ++ "_" ++ fault ++ "_r" ++ formatDecimal 2 rep ++ "_" ++ condition ++
      ".json").toList = _
    simp
  rw [pattern, name]
  apply globMatch_star
  · exact fun character member => (head character member).1
  · exact fun character member => (tail character member).1
  · rw [List.mem_append, List.mem_cons, not_or, not_or]
    exact ⟨head.slash, by decide, tail.slash⟩
  · rw [List.mem_append, List.mem_append, not_or, not_or]
    exact ⟨head.slash, number.slash, tail.slash⟩

/-- A name that matches an empty pattern has no file. -/
theorem get?_of_glob {runDir : Directory} {pattern name : String}
    (empty : runDir.glob pattern = []) (matched : globMatch pattern name = true) :
    runDir.get? name = none := by
  cases found : Dict.get? runDir name with
  | none => rfl
  | some file =>
      have member : name ∈ runDir.glob pattern := by
        rw [Directory.glob, List.mem_filter]
        exact ⟨List.mem_map_of_mem (f := Prod.fst) (Dict.get?_eq_some.mp found), matched⟩
      rw [empty] at member
      cases member

/-- Every record name of one component matches the pattern of the fresh guard. -/
theorem globMatch_json {name : String} (clean : '/' ∉ name.toList) :
    globMatch "*.json" (name ++ ".json") = true := by
  have suffix : NameText ".json" := nameText_iff.mp rfl
  have whole : name ++ ".json" = String.ofList ([] ++ (name.toList ++ ".json".toList)) := by
    rw [List.nil_append, ← String.toList_append, String.ofList_toList]
  have pattern : "*.json" = String.ofList ([] ++ '*' :: ".json".toList) := rfl
  rw [whole, pattern]
  apply globMatch_star
  · intro character member
    cases member
  · exact fun character member => (suffix character member).1
  · decide
  · rw [List.nil_append, List.mem_append, not_or]
    exact ⟨clean, suffix.slash⟩

end Names

/-- A specification without a proxy has plain names. -/
structure PlainSpec (spec : ScenarioSpec) : Prop where
  proxy : spec.proxyUpstreamPort = none
  proxyLog : spec.proxyLog = none
  impl : NameText spec.impl
  fault : NameText spec.faultType
  condition : NameText spec.condition

theorem PlainSpec.identifier {spec : ScenarioSpec} (plain : PlainSpec spec) :
    NameText (identifier spec) := by
  have separator : NameText "_" := nameText_iff.mp rfl
  have mark : NameText "_r" := nameText_iff.mp rfl
  exact (((((plain.impl.append separator).append plain.fault).append mark).append
    (nameText_formatDecimal 2 spec.repetition)).append separator).append plain.condition

/-- These are the constant parts of the names. -/
def constantNames : List String :=
  ["openssl", "-", "--", "server-setting", "negotiation-function", "client-default",
    "server-software", "default-direct", "client-default-v18", "actual-client-e8"]

theorem nameText_constant {text : String} (known : text ∈ constantNames) : NameText text := by
  have all : constantNames.all isNameText := rfl
  exact nameText_iff.mp (List.all_eq_true.mp all text known)

section Specs
variable {environ : Dict String String} {repetition : Int} {spec : ScenarioSpec}

/-- A direct specification of plain names is plain. -/
theorem plainSpec_of_names (proxy : spec.proxyUpstreamPort = none) (proxyLog : spec.proxyLog = none)
    (impl : spec.impl = "openssl")
    (fault : spec.faultType ∈ constantNames) (condition : NameText spec.condition) :
    PlainSpec spec :=
  ⟨proxy, proxyLog, by rw [impl]; exact nameText_constant (by decide), nameText_constant fault,
    condition⟩

theorem NameText.joined {first separator second : String} (left : NameText first)
    (right : NameText second) (known : separator ∈ ["-", "--"]) :
    NameText (first ++ separator ++ second) := by
  have middle : NameText separator := by
    rcases List.mem_cons.mp known with rfl | known
    · exact nameText_constant (by decide)
    · rw [List.mem_singleton.mp known]
      exact nameText_constant (by decide)
  exact (left.append middle).append right

theorem v12Spec_plain {version setting groups : String} {paths : Dict String String}
    (built : v12Spec environ version setting repetition paths groups = .ok spec) :
    PlainSpec spec := by
  obtain ⟨arguments, known, built⟩ := bind_eq_ok.mp built
  simp only [bind_eq_ok, Except.ok.injEq] at built
  obtain ⟨_, _, _, _, _, _, _, _, _, native, rfl⟩ := built
  obtain ⟨folder, listed, _⟩ := bind_eq_ok.mp native
  have version : NameText version := nameText_of_item rfl listed
  have setting : NameText setting := nameText_of_item rfl known
  exact plainSpec_of_names rfl rfl rfl (by simp [constantNames])
    (version.joined setting (by decide))

theorem nameText_server {server : String} {command : List String}
    (known : Dict.item (servers environ) server = .ok command) : NameText server := by
  have names : (servers environ).map Prod.fst = ["openssl-S1", "openssl-S2",
    "openssl-S1-serverpref", "boringssl", "go", "nss", "rustls"] := rfl
  exact nameText_of_item (by rw [names]; rfl) known

theorem nameText_packaged {server : String} {command : List String}
    (known : Dict.item (realServers environ) server = .ok command) : NameText server :=
  nameText_of_item (by rw [Identity.names_realServers]; rfl) known

theorem v15Spec_plain {server client : String}
    (built : v15Spec environ server client repetition = .ok spec) : PlainSpec spec := by
  obtain ⟨values, fixed, built⟩ := bind_eq_ok.mp built
  obtain ⟨command, known, built⟩ := bind_eq_ok.mp built
  simp only [bind_eq_ok, Except.ok.injEq] at built
  obtain ⟨_, _, _, _, rfl⟩ := built
  have client : NameText client := nameText_of_item rfl fixed
  exact plainSpec_of_names rfl rfl rfl (by simp [constantNames])
    ((nameText_server known).joined client (by decide))

theorem v16SurveySpec_plain {client : String}
    (built : V16.surveySpec environ client repetition = .ok spec) : PlainSpec spec := by
  simp only [V16.surveySpec, bind_eq_ok, Except.ok.injEq] at built
  obtain ⟨_, _, _, known, _, _, rfl⟩ := built
  exact plainSpec_of_names rfl rfl rfl (by simp [constantNames]) (nameText_of_item rfl known)

theorem serverSpec_plain {server client : String}
    (built : serverSpec environ server client repetition = .ok spec) : PlainSpec spec := by
  simp only [serverSpec, bind_eq_ok, Except.ok.injEq] at built
  obtain ⟨values, fixed, _, known, _, _, rfl⟩ := built
  have client : NameText client := nameText_of_item rfl fixed
  exact plainSpec_of_names rfl rfl rfl (by simp [constantNames])
    ((nameText_packaged known).joined client (by decide))

theorem directSpec_plain {server client : String}
    (built : directSpec environ server client repetition = .ok spec) : PlainSpec spec := by
  simp only [directSpec, bind_eq_ok, Except.ok.injEq] at built
  obtain ⟨_, _, _, known, _, default, rfl⟩ := built
  have client : NameText client := nameText_of_item rfl default
  exact plainSpec_of_names rfl rfl rfl (by simp [constantNames])
    ((nameText_packaged known).joined client (by decide))

theorem v18SurveySpec_plain {client : String}
    (built : V18.surveySpec environ client repetition = .ok spec) :
    PlainSpec spec ∧ NameText client ∧
      recordName spec = runId "openssl" "client-default-v18" repetition client ++ ".json" := by
  simp only [V18.surveySpec, bind_eq_ok, Except.ok.injEq] at built
  obtain ⟨_, known, _, _, rfl⟩ := built
  have client : NameText client := nameText_of_item rfl known
  exact ⟨plainSpec_of_names rfl rfl rfl (by simp [constantNames]) client, client, rfl⟩

theorem e8Spec_plain {server client : String}
    (built : e8Spec environ server client repetition = .ok spec) :
    PlainSpec spec ∧ NameText server ∧ recordName spec =
      runId "openssl" "actual-client-e8" repetition (server ++ "--" ++ client) ++ ".json" := by
  simp only [e8Spec, bind_eq_ok, Except.ok.injEq] at built
  obtain ⟨_, known, _, candidate, _, _, rfl⟩ := built
  have client : NameText client := nameText_of_item rfl candidate
  have server := nameText_server known
  exact ⟨plainSpec_of_names rfl rfl rfl (by simp [constantNames])
    (server.joined client (by decide)), server, rfl⟩

end Specs

section Evaluations
variable {host : String → Option Bytes} {environ : Dict String String} {record evaluated : RunRecord}
  {runDir after : Directory}

/-- The evaluation writes its record and keeps the artifacts. -/
theorem evaluateV12_returned {search : Audit.Search} {tsharkSummary : String → Option String}
    {provenance : Dict String Value}
    (returned : evaluateV12 search tsharkSummary record runDir provenance = .ok (evaluated, after)) :
    (evaluated.runId = record.runId ∧ after = runDir.toJsonPath evaluated) ∧
      evaluated.artifacts = record.artifacts ∧ evaluated.provenance = provenance := by
  obtain ⟨metrics, _, returned⟩ := bind_eq_ok.mp returned
  obtain ⟨clientLog, _, same⟩ := bind_eq_ok.mp returned
  cases same
  exact ⟨⟨rfl, rfl⟩, rfl, rfl⟩

theorem evaluateV15_own {server client : String}
    (returned : evaluateV15 host environ record runDir server client = .ok (evaluated, after)) :
    evaluated.runId = record.runId ∧ after = runDir.toJsonPath evaluated := by
  obtain ⟨metrics, _, returned⟩ := bind_eq_ok.mp returned
  simp only [bind_eq_ok, Except.ok.injEq, Prod.mk.injEq] at returned
  obtain ⟨_, _, _, _, _, _, rfl, rfl⟩ := returned
  exact ⟨rfl, rfl⟩

theorem evaluateV16_own {spec : ScenarioSpec}
    (returned : evaluateV16 host record runDir spec = .ok (evaluated, after)) :
    evaluated.runId = record.runId ∧ after = runDir.toJsonPath evaluated := by
  obtain ⟨summary, _, returned⟩ := bind_eq_ok.mp returned
  simp only [bind_eq_ok, Except.ok.injEq, Prod.mk.injEq] at returned
  obtain ⟨_, _, _, _, _, _, rfl, rfl⟩ := returned
  exact ⟨rfl, rfl⟩

theorem evaluateV18_own {client server : String}
    (returned : evaluateV18 host environ record runDir client server = .ok (evaluated, after)) :
    evaluated.runId = record.runId ∧ after = runDir.toJsonPath evaluated := by
  obtain ⟨summary, _, returned⟩ := bind_eq_ok.mp returned
  obtain ⟨candidate, _, returned⟩ := bind_eq_ok.mp returned
  split at returned
  · cases returned
    exact ⟨rfl, rfl⟩
  · obtain ⟨serverCmd, _, same⟩ := bind_eq_ok.mp returned
    cases same
    exact ⟨rfl, rfl⟩

end Evaluations

section Runs
variable {plan : Plan}

/-- The fresh guard covers the records of all plain specifications. -/
theorem freshGuard_covers (outDir : String) (runDir : Directory) :
    (∃ message, freshGuard outDir runDir = .error (.runtimeError message)) ∨
      (freshGuard outDir runDir = .ok () ∧
        ∀ spec, PlainSpec spec → runDir.get? (recordName spec) = none) := by
  unfold freshGuard
  split
  · rename_i empty
    exact .inr ⟨rfl, fun spec plain => get?_of_glob empty (globMatch_json plain.identifier.slash)⟩
  · exact .inl ⟨_, rfl⟩

/-- A run of plain specifications into a fresh directory writes once. -/
theorem writeOnce_of_fresh (outDir : String) (guard : plan.guard = freshGuard outDir)
    (inventory : plan.inventory = none)
    (own : ∀ job, plan.Contains job → OwnJob job ∧ PlainSpec job.spec) : WriteOnce plan := by
  apply writeOnce_of_guard (fun job known => (own job known).1)
  · intro listed planned
    rw [inventory] at planned
    cases planned
  · intro runDir
    rw [guard]
    exact (freshGuard_covers outDir runDir).imp_right fun ⟨passed, fresh⟩ =>
      ⟨passed, fun job known => fresh job.spec (own job known).2⟩

/-- The guard of the labels covers the selected labels. -/
theorem labelGuard_covers (outDir : String) (pattern : String → String) (selected : List String)
    (runDir : Directory) :
    (∃ message, labelGuard outDir pattern selected runDir = .error (.runtimeError message)) ∨
      (labelGuard outDir pattern selected runDir = .ok () ∧
        ∀ label ∈ selected, runDir.glob (pattern label) = []) := by
  unfold labelGuard
  split
  · rename_i none
    refine .inr ⟨rfl, ?_⟩
    intro label member
    rw [existingLabels, List.filter_eq_nil_iff] at none
    simpa using none label member
  · exact .inl ⟨_, rfl⟩

theorem contains_map {specs : Result (List ScenarioSpec)} {evaluate : ScenarioSpec → RunRecord →
    Directory → Result (RunRecord × Directory)} {job : Job}
    (planned : plan.jobs = specs.map fun specs => specs.map fun spec => .ok ⟨spec, evaluate spec⟩)
    (known : plan.Contains job) :
    ∃ listed, specs = .ok listed ∧ job.spec ∈ listed ∧ job = ⟨job.spec, evaluate job.spec⟩ := by
  obtain ⟨jobs, built, member⟩ := known
  rw [planned] at built
  cases specs with
  | error error => cases built
  | ok listed =>
      cases built
      obtain ⟨spec, inside, same⟩ := List.mem_map.mp member
      cases same
      exact ⟨listed, rfl, inside, rfl⟩

/-- Every specification of the matrix is built for some labels. -/
theorem exists_of_mem_v12Specs {environ : Dict String String} {repetitions : Int}
    {settings versions : List String} {paths : Option (Dict String String)} {groups : String}
    {specs : List ScenarioSpec} {spec : ScenarioSpec}
    (built : v12Specs environ repetitions settings paths versions groups = .ok specs)
    (member : spec ∈ specs) :
    ∃ version setting repetition paths,
      v12Spec environ version setting repetition paths groups = .ok spec := by
  obtain ⟨paths, _, built⟩ := bind_eq_ok.mp built
  obtain ⟨call, inside, made⟩ := exists_of_mem_mapM built member
  obtain ⟨repetition, _, inside⟩ := List.mem_flatMap.mp inside
  obtain ⟨version, _, inside⟩ := List.mem_flatMap.mp inside
  obtain ⟨setting, _, rfl⟩ := List.mem_map.mp inside
  exact ⟨version, setting, repetition, paths, made⟩

theorem plainSpec_of_mem_v15Specs {environ : Dict String String} {repetitions : Int}
    {selected : Option (List String)} {specs : List ScenarioSpec} {spec : ScenarioSpec}
    (built : v15Specs environ repetitions selected = .ok specs) (member : spec ∈ specs) :
    PlainSpec spec := by
  obtain ⟨call, inside, made⟩ := exists_of_mem_mapM built member
  obtain ⟨repetition, _, inside⟩ := List.mem_flatMap.mp inside
  obtain ⟨server, _, inside⟩ := List.mem_flatMap.mp inside
  obtain ⟨client, _, rfl⟩ := List.mem_map.mp inside
  exact v15Spec_plain made

theorem plainSpec_of_mem_v16Specs {environ : Dict String String} {repetitions : Int}
    {specs : List ScenarioSpec} {spec : ScenarioSpec}
    (built : v16Specs environ repetitions = .ok specs) (member : spec ∈ specs) :
    PlainSpec spec := by
  obtain ⟨call, inside, made⟩ := exists_of_mem_mapM built member
  rcases List.mem_append.mp inside with survey | software
  · obtain ⟨repetition, _, inside⟩ := List.mem_flatMap.mp survey
    obtain ⟨client, _, rfl⟩ := List.mem_map.mp inside
    exact v16SurveySpec_plain made
  · obtain ⟨repetition, _, inside⟩ := List.mem_flatMap.mp software
    obtain ⟨server, _, inside⟩ := List.mem_flatMap.mp inside
    obtain ⟨client, _, rfl⟩ := List.mem_map.mp inside
    exact serverSpec_plain made

theorem plainSpec_of_mem_v16DirectSpecs {environ : Dict String String} {repetitions : Int}
    {specs : List ScenarioSpec} {spec : ScenarioSpec}
    (built : v16DirectSpecs environ repetitions = .ok specs) (member : spec ∈ specs) :
    PlainSpec spec := by
  obtain ⟨call, inside, made⟩ := exists_of_mem_mapM built member
  obtain ⟨repetition, _, inside⟩ := List.mem_flatMap.mp inside
  obtain ⟨server, _, inside⟩ := List.mem_flatMap.mp inside
  obtain ⟨client, _, rfl⟩ := List.mem_map.mp inside
  exact directSpec_plain made

variable (host : String → Option Bytes) (environ : Dict String String) (outDir : String)
  (repetitions : Int)

/-- A round of the server-setting matrix evaluates a specification of the matrix. -/
theorem runV12_job {search : Audit.Search} {tsharkSummary : String → Option String}
    {settings versions : List String} {groups : String} {job : Job}
    (known : (runV12 host search tsharkSummary environ outDir repetitions settings versions
      groups).Contains job) :
    ∃ paths hashes version setting repetition inputs,
      v12Spec environ version setting repetition inputs groups = .ok job.spec ∧
      ∀ record runDir, job.evaluate record runDir = (provenanceFor job.spec paths hashes >>=
        evaluateV12 search tsharkSummary record runDir) := by
  obtain ⟨jobs, built, member⟩ := known
  obtain ⟨paths, _, built⟩ := bind_eq_ok.mp built
  obtain ⟨hashes, _, built⟩ := bind_eq_ok.mp built
  obtain ⟨specs, planned, same⟩ := bind_eq_ok.mp built
  cases same
  obtain ⟨spec, inside, same⟩ := List.mem_map.mp member
  cases same
  obtain ⟨version, setting, repetition, inputs, made⟩ := exists_of_mem_v12Specs planned inside
  exact ⟨paths, hashes, version, setting, repetition, inputs, made, fun _ _ => rfl⟩

theorem runV12_writeOnce (search : Audit.Search) (tsharkSummary : String → Option String)
    (settings versions : List String) (groups : String) :
    WriteOnce (runV12 host search tsharkSummary environ outDir repetitions settings versions
      groups) := by
  apply writeOnce_of_fresh outDir rfl rfl
  intro job known
  obtain ⟨paths, hashes, version, setting, repetition, inputs, made, evaluates⟩ :=
    runV12_job host environ outDir repetitions known
  have plain := v12Spec_plain made
  refine ⟨⟨plain.proxy, plain.proxyLog, ?_⟩, plain⟩
  intro record runDir evaluated after returned
  rw [evaluates] at returned
  obtain ⟨provenance, _, returned⟩ := bind_eq_ok.mp returned
  exact (evaluateV12_returned returned).1

theorem runV15_writeOnce (selected : Option (List String)) :
    WriteOnce (runV15 host environ outDir repetitions selected) := by
  apply writeOnce_of_fresh outDir rfl rfl
  intro job known
  obtain ⟨specs, planned, inside, same⟩ := contains_map rfl known
  have plain := plainSpec_of_mem_v15Specs planned inside
  refine ⟨⟨plain.proxy, plain.proxyLog, ?_⟩, plain⟩
  rw [same]
  intro record runDir evaluated after returned
  obtain ⟨names, _, returned⟩ := bind_eq_ok.mp returned
  exact evaluateV15_own returned

theorem runV16_writeOnce : WriteOnce (runV16 host environ outDir repetitions) := by
  apply writeOnce_of_fresh outDir rfl rfl
  intro job known
  obtain ⟨specs, planned, inside, same⟩ := contains_map rfl known
  have plain := plainSpec_of_mem_v16Specs planned inside
  refine ⟨⟨plain.proxy, plain.proxyLog, ?_⟩, plain⟩
  rw [same]
  intro record runDir evaluated after returned
  exact evaluateV16_own returned

theorem runV16Direct_writeOnce : WriteOnce (runV16Direct host environ outDir repetitions) := by
  apply writeOnce_of_fresh outDir rfl rfl
  intro job known
  obtain ⟨specs, planned, inside, same⟩ := contains_map rfl known
  have plain := plainSpec_of_mem_v16DirectSpecs planned inside
  refine ⟨⟨plain.proxy, plain.proxyLog, ?_⟩, plain⟩
  rw [same]
  intro record runDir evaluated after returned
  exact evaluateV16_own returned

/-- The pattern of a client is the name of its records with a star for the repetition. -/
theorem surveyPattern_match {client : String} (clean : NameText client) (repetition : Int) :
    globMatch (surveyPattern client)
      (runId "openssl" "client-default-v18" repetition client ++ ".json") = true := by
  have head : "openssl_client-default-v18_r*_" =
      "openssl" ++ "_" ++ "client-default-v18" ++ "_r*_" := by decide
  have pattern : surveyPattern client =
      "openssl" ++ "_" ++ "client-default-v18" ++ "_r*_" ++ client ++ ".json" :=
    congrArg (fun text : String => text ++ client ++ ".json") head
  rw [pattern]
  exact globMatch_runId (nameText_constant (by decide)) (nameText_constant (by decide)) clean
    repetition

theorem e8Pattern_match {server : String} (clean : NameText server) (repetition : Int) :
    globMatch (e8Pattern server)
      (runId "openssl" "actual-client-e8" repetition (server ++ "--" ++ "botan") ++ ".json") =
        true := by
  have head : "openssl_actual-client-e8_r*_" =
      "openssl" ++ "_" ++ "actual-client-e8" ++ "_r*_" := by decide
  have tail : "--botan.json" = "--" ++ "botan" ++ ".json" := by decide
  have pattern : e8Pattern server = "openssl" ++ "_" ++ "actual-client-e8" ++ "_r*_" ++
      (server ++ "--" ++ "botan") ++ ".json" := by
    show "openssl_actual-client-e8_r*_" ++ server ++ "--botan.json" = _
    rw [head, tail]
    simp only [String.append_assoc]
  rw [pattern]
  have condition : NameText (server ++ "--" ++ "botan") :=
    clean.joined (nameText_iff.mp rfl) (by decide)
  exact globMatch_runId (nameText_constant (by decide)) (nameText_constant (by decide)) condition
    repetition

/-- A round of the survey has the record of a selected client. -/
theorem runV18_job {clients : Option (List String)} {job : Job}
    (known : (runV18 host environ outDir repetitions clients).Contains job) :
    OwnJob job ∧ ∃ client ∈ selectedOr clients (candidates.map Prod.fst),
      globMatch (surveyPattern client) (recordName job.spec) = true := by
  obtain ⟨jobs, built, member⟩ := known
  cases built
  obtain ⟨repetition, _, inside⟩ := List.mem_flatMap.mp member
  obtain ⟨client, selected, same⟩ := List.mem_map.mp inside
  obtain ⟨spec, made, rfl⟩ := map_eq_ok.mp same
  obtain ⟨plain, clean, name⟩ := v18SurveySpec_plain made
  refine ⟨⟨plain.proxy, plain.proxyLog, ?_⟩, client, selected, ?_⟩
  · intro record runDir evaluated after returned
    exact evaluateV18_own returned
  · rw [name]
    exact surveyPattern_match clean repetition

/-- A round of the controls has the record of a selected server. -/
theorem runE8_job {servers : Option (List String)} {job : Job}
    (known : (runE8 host environ outDir repetitions servers).Contains job) :
    OwnJob job ∧ ∃ server ∈ selectedOr servers e8Servers,
      globMatch (e8Pattern server) (recordName job.spec) = true := by
  obtain ⟨jobs, built, member⟩ := known
  cases built
  obtain ⟨repetition, _, inside⟩ := List.mem_flatMap.mp member
  obtain ⟨server, selected, inside⟩ := List.mem_flatMap.mp inside
  obtain ⟨client, fixed, same⟩ := List.mem_map.mp inside
  obtain rfl : client = "botan" := List.mem_singleton.mp fixed
  obtain ⟨spec, made, rfl⟩ := map_eq_ok.mp same
  obtain ⟨plain, clean, name⟩ := e8Spec_plain made
  refine ⟨⟨plain.proxy, plain.proxyLog, ?_⟩, server, selected, ?_⟩
  · intro record runDir evaluated after returned
    exact evaluateV18_own returned
  · rw [name]
    exact e8Pattern_match clean repetition

/-- A guard of labels that covers the records of all rounds makes a run write once. -/
theorem writeOnce_of_labels (outDir : String) (pattern : String → String) (selected : List String)
    (listed : ∀ inventory, plan.inventory = some inventory → inventory.name = inventoryName)
    (jobs : ∀ job, plan.Contains job → OwnJob job ∧ ∃ label ∈ selected,
      globMatch (pattern label) (recordName job.spec) = true)
    (guarded : ∀ runDir, (∃ message, plan.guard runDir = .error (.runtimeError message)) ∨
      plan.guard runDir = labelGuard outDir pattern selected runDir) : WriteOnce plan := by
  apply writeOnce_of_guard (fun job known => (jobs job known).1) listed
  intro runDir
  rcases guarded runDir with raised | guard
  · exact .inl raised
  · rw [guard]
    apply (labelGuard_covers outDir pattern selected runDir).imp_right
    rintro ⟨passed, free⟩
    apply And.intro passed
    intro job known
    obtain ⟨_, label, member, matched⟩ := jobs job known
    exact get?_of_glob (free label member) matched

/-- The guard of the appending survey covers every repetition of the selected clients. -/
theorem runV18_writeOnce (clients : Option (List String)) :
    WriteOnce (runV18 host environ outDir repetitions clients) := by
  apply writeOnce_of_labels outDir surveyPattern (selectedOr clients (candidates.map Prod.fst))
  · intro inventory planned
    cases planned
    rfl
  · exact fun job known => runV18_job host environ outDir repetitions known
  · intro runDir
    simp only [runV18]
    split
    · rcases freshGuard_covers outDir runDir with ⟨message, raised⟩ | ⟨passed, _⟩
      · rw [raised]
        exact .inl ⟨message, rfl⟩
      · rw [passed]
        exact .inr rfl
    · exact .inr rfl

/-- The guard of the appending controls covers every repetition of the selected servers. -/
theorem runE8_writeOnce (servers : Option (List String)) :
    WriteOnce (runE8 host environ outDir repetitions servers) := by
  apply writeOnce_of_labels outDir e8Pattern (selectedOr servers e8Servers)
  · intro inventory planned
    cases planned
    rfl
  · exact fun job known => runE8_job host environ outDir repetitions known
  · exact fun runDir => .inr rfl

/-- Every matrix run raises at its guard before it changes a file, or keeps the record files
that it found. -/
theorem records_writeOnce (search : Audit.Search) (tsharkSummary : String → Option String)
    (settings versions : List String) (groups : String)
    (compared clients controls : Option (List String)) :
    WriteOnce (runV12 host search tsharkSummary environ outDir repetitions settings versions
      groups) ∧
    WriteOnce (runV15 host environ outDir repetitions compared) ∧
    WriteOnce (runV16 host environ outDir repetitions) ∧
    WriteOnce (runV16Direct host environ outDir repetitions) ∧
    WriteOnce (runV18 host environ outDir repetitions clients) ∧
    WriteOnce (runE8 host environ outDir repetitions controls) :=
  ⟨runV12_writeOnce host environ outDir repetitions search tsharkSummary settings versions groups,
    runV15_writeOnce host environ outDir repetitions compared,
    runV16_writeOnce host environ outDir repetitions,
    runV16Direct_writeOnce host environ outDir repetitions,
    runV18_writeOnce host environ outDir repetitions clients,
    runE8_writeOnce host environ outDir repetitions controls⟩

end Runs

end FaultInject.Matrix
