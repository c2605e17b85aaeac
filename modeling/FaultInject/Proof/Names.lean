import FaultInject.Construction.Matrix

namespace FaultInject.Matrix
open Python Record Harness

/-- These are the names of all files of a scenario. -/
def artifactNames (spec : ScenarioSpec) : List String :=
  recordName spec :: outputNames spec (identifier spec)

/-- The proxy log of a scenario carries its identifier. -/
def OwnProxyLog (spec : ScenarioSpec) : Prop :=
  spec.proxyLog = none ∨ spec.proxyLog = some (identifier spec ++ "-proxy.log")

theorem toList_runId (impl fault : String) (rep : Int) (condition : String) :
    (runId impl fault rep condition).toList = impl.toList ++ '_' :: (fault.toList ++
      '_' :: ('r' :: (formatDecimal 2 rep).toList ++ '_' :: condition.toList)) := by
  show (impl ++ "_" ++ fault ++ "_r" ++ formatDecimal 2 rep ++ "_" ++ condition).toList = _
  simp

theorem underscore_notMem_formatDecimal (width : Nat) (value : Int) :
    '_' ∉ (formatDecimal width value).toList := by
  intro member
  rcases mem_formatDecimal member with sign | digit
  · exact absurd sign (by decide)
  · exact absurd digit (by decide)

/-- The identifier determines the run if the first two parts have no separator. -/
theorem runId_inj {impl fault condition other mutation shape : String} {rep round : Int}
    (implClean : '_' ∉ impl.toList) (otherClean : '_' ∉ other.toList)
    (faultClean : '_' ∉ fault.toList) (mutationClean : '_' ∉ mutation.toList)
    (same : runId impl fault rep condition = runId other mutation round shape) :
    impl = other ∧ fault = mutation ∧ rep = round ∧ condition = shape := by
  have texts := congrArg String.toList same
  rw [toList_runId, toList_runId] at texts
  obtain ⟨impls, texts⟩ := append_cons_inj implClean otherClean texts
  obtain ⟨faults, texts⟩ := append_cons_inj faultClean mutationClean texts
  have marked (value : Int) : '_' ∉ 'r' :: (formatDecimal 2 value).toList := by
    rw [List.mem_cons, not_or]
    exact ⟨by decide, underscore_notMem_formatDecimal 2 value⟩
  obtain ⟨rounds, conditions⟩ := append_cons_inj (marked rep) (marked round) texts
  have numbers : formatDecimal 2 rep = formatDecimal 2 round :=
    String.toList_injective (List.cons.inj rounds).2
  exact ⟨String.toList_injective impls, String.toList_injective faults,
    formatDecimal_inj numbers, String.toList_injective conditions⟩

/-- These texts stand behind the identifier in the names of the outputs. -/
def outputSuffixes : List String :=
  ["-server.log", "-capture.log", ".pcapng", "-client.log", "-proxy.log"]

def suffixes : List String := ".json" :: outputSuffixes

/-- No suffix ends with another suffix. -/
theorem suffixes_apart : ∀ first ∈ suffixes, ∀ second ∈ suffixes,
    first.toList <:+ second.toList → first = second := by
  decide

/-- Two suffixes of one name are one suffix. -/
theorem suffix_eq {first second : String} (known : first ∈ suffixes) (other : second ∈ suffixes)
    {name : List Char} (left : first.toList <:+ name) (right : second.toList <:+ name) :
    first = second := by
  rcases List.suffix_or_suffix_of_suffix left right with within | within
  · exact suffixes_apart first known second other within
  · exact (suffixes_apart second other first known within).symm

theorem mem_outputNames {spec : ScenarioSpec} (own : OwnProxyLog spec) {name : String}
    (member : name ∈ outputNames spec (identifier spec)) :
    ∃ text ∈ outputSuffixes, name = identifier spec ++ text := by
  rw [outputNames, List.mem_append] at member
  rcases member with fixed | proxy
  · simp only [List.mem_cons, List.not_mem_nil, or_false] at fixed
    rcases fixed with rfl | rfl | rfl | rfl
    · exact ⟨"-server.log", by decide, rfl⟩
    · exact ⟨"-capture.log", by decide, rfl⟩
    · exact ⟨".pcapng", by decide, rfl⟩
    · exact ⟨"-client.log", by decide, rfl⟩
  · rcases own with none | some
    · rw [none] at proxy
      cases proxy
    · rw [some] at proxy
      exact ⟨"-proxy.log", by decide, List.mem_singleton.mp proxy⟩

theorem mem_artifactNames {spec : ScenarioSpec} (own : OwnProxyLog spec) {name : String}
    (member : name ∈ artifactNames spec) :
    ∃ text ∈ suffixes, name = identifier spec ++ text := by
  rcases List.mem_cons.mp member with rfl | output
  · exact ⟨".json", List.mem_cons_self, rfl⟩
  · obtain ⟨text, known, same⟩ := mem_outputNames own output
    exact ⟨text, List.mem_cons_of_mem _ known, same⟩

theorem suffix_append (identifier text : String) : text.toList <:+ (identifier ++ text).toList := by
  rw [String.toList_append]
  exact List.suffix_append _ _

/-- No output has the suffix of a record. -/
theorem not_json_of_mem_outputNames {spec : ScenarioSpec} (own : OwnProxyLog spec) {name : String}
    (member : name ∈ outputNames spec (identifier spec)) : ¬".json".toList <:+ name.toList := by
  intro json
  obtain ⟨text, known, rfl⟩ := mem_outputNames own member
  have same := suffix_eq List.mem_cons_self (List.mem_cons_of_mem _ known) json
    (suffix_append _ text)
  rw [← same] at known
  exact absurd known (by decide)

/-- Only the record of a run has the suffix of a record. -/
theorem eq_recordName {spec : ScenarioSpec} (own : OwnProxyLog spec) {name : String}
    (member : name ∈ artifactNames spec) (json : ".json".toList <:+ name.toList) :
    name = recordName spec := by
  rcases List.mem_cons.mp member with same | output
  · exact same
  · exact absurd json (not_json_of_mem_outputNames own output)

/-- The name of a file determines the identifier of its run. -/
theorem identifier_eq_of_mem {first second : ScenarioSpec} (own : OwnProxyLog first)
    (other : OwnProxyLog second) {name : String} (here : name ∈ artifactNames first)
    (there : name ∈ artifactNames second) : identifier first = identifier second := by
  obtain ⟨text, known, rfl⟩ := mem_artifactNames own here
  obtain ⟨ending, among, same⟩ := mem_artifactNames other there
  have part : ending.toList <:+ (identifier first ++ text).toList := by
    rw [same]
    exact suffix_append _ ending
  have equal := suffix_eq known among (suffix_append _ text) part
  have texts := congrArg String.toList same
  rw [equal, String.toList_append, String.toList_append] at texts
  exact String.toList_injective (List.append_cancel_right texts)

end FaultInject.Matrix
