import FaultInject.Construction.Batch
import FaultInject.Proof.Finished
import FaultInject.Proof.Verification

/-
This file follows the runs that verify each record behind its scenario.
-/

namespace FaultInject.Run
open Python Record Harness FaultBinding FaultGroupList VerifyApplied MutationLog MitmProxy
open FaultInject.Matrix (Job OfSpec SameArtifacts Kept Read NameText isNameText nameText_iff identifier
  artifactNames recordName)

section Verification
variable {evidence : Evidence} {record marked : RunRecord} {outDir other after : Directory}

/-- Two continuations that agree on the named artifact give one result. -/
theorem getItem_bind_congr {B : Type} {key : String} {first second : String → Result B}
    (agree : ∀ name, record.artifacts.get? key = some name → first name = second name) :
    (record.artifacts.getItem key key >>= first) = record.artifacts.getItem key key >>= second := by
  cases found : record.artifacts.getItem key key with
  | error error => rfl
  | ok name => exact agree name (Dict.getItem_eq_ok.mp found)

theorem file_of_same (same : SameArtifacts record outDir other) {key name : String}
    (found : record.artifacts.get? key = some name) : other.file name = outDir.file name := by
  rw [Directory.file, Directory.file, same key name found]

/-- The verification reads only the artifacts of the record. -/
theorem verified_of_same (evidence : Evidence) (same : SameArtifacts record outDir other) :
    verified evidence record other = verified evidence record outDir := by
  unfold verified verifyCondition
  split
  · split
    · apply getItem_bind_congr
      intro name found
      rw [same _ name found]
    · split
      · apply getItem_bind_congr
        intro name found
        rw [file_of_same same found]
      · rfl
  · split
    · apply getItem_bind_congr
      intro name found
      rw [file_of_same same found]
    · split
      · cases baselineName "openssh" with
        | error error => rfl
        | ok baseline =>
            apply getItem_bind_congr
            intro name found
            rw [file_of_same same found]
      · cases baselineName record.implementation with
        | error error => rfl
        | ok baseline =>
            apply getItem_bind_congr
            intro name found
            rw [same _ name found]

/-- The verification marks the record with its value and writes it. -/
theorem verifyRecord_eq_ok :
    verifyRecord evidence record outDir = .ok (marked, after) ↔
      ∃ value, verified evidence record outDir = .ok value ∧ marked = mark record value ∧
        after = outDir.toJsonPath marked := by
  constructor
  · intro returned
    obtain ⟨value, checked, same⟩ := bind_eq_ok.mp returned
    cases same
    exact ⟨value, checked, rfl, rfl⟩
  · rintro ⟨value, checked, rfl, rfl⟩
    rw [verifyRecord, checked]
    rfl

/-- The mark of a record has no influence on its verification. -/
theorem verified_mark (record : RunRecord) (value : Bool) (outDir : Directory) :
    verified evidence (mark record value) outDir = verified evidence record outDir := rfl

/-- A round verifies the record of its scenario. -/
def verifiedJob (evidence : Evidence) (spec : ScenarioSpec) : Job := ⟨spec, verifyRecord evidence⟩

/-- The verification of a verified record can be repeated. -/
theorem verifyRecord_again
    (returned : verifyRecord evidence record outDir = .ok (marked, after))
    (same : SameArtifacts record outDir other) :
    verifyRecord evidence marked other = .ok (marked, other.toJsonPath marked) := by
  obtain ⟨value, checked, rfl, _⟩ := verifyRecord_eq_ok.mp returned
  refine verifyRecord_eq_ok.mpr ⟨value, ?_, rfl, rfl⟩
  rw [verified_mark, verified_of_same evidence same, checked]

theorem verifyRecord_ofSpec {spec : ScenarioSpec} (ofSpec : OfSpec spec record)
    (returned : verifyRecord evidence record outDir = .ok (marked, after)) : OfSpec spec marked := by
  obtain ⟨value, _, rfl, _⟩ := verifyRecord_eq_ok.mp returned
  exact ofSpec.of_same rfl

end Verification

section Observed
variable {spec : ScenarioSpec} {impl condition : String} {repetition : Int}
  {environment paths : Dict String String}

/-- The record of the scenario has a plain name, and its traffic is captured. The scenario has no
proxy, or it logs the mutation of its proxy. -/
structure Observed (spec : ScenarioSpec) : Prop where
  read : Read (recordName spec)
  captures : spec.captureTraffic = true
  proxy : (spec.proxyUpstreamPort = none ∧ spec.proxyLog = none) ∨
    ∃ event groupId transform, LogsMutation spec event groupId transform

/-- These are the parts of the names of the records. -/
def labels : List String :=
  implementations ++ ["group-list", "binding", "condition", "default", "base", "silent-downgrade",
    "ssh-order", "onpath-strip"]

theorem nameText_label {text : String} (known : text ∈ labels) : NameText text := by
  have all : labels.all isNameText := rfl
  exact nameText_iff.mp (List.all_eq_true.mp all text known)

theorem read_of_labels (impl : spec.impl ∈ labels) (fault : spec.faultType ∈ labels)
    (condition : spec.condition ∈ labels) : Read (recordName spec) := by
  have separator : NameText "_" := nameText_iff.mp rfl
  have mark : NameText "_r" := nameText_iff.mp rfl
  have plain : NameText (identifier spec) :=
    ((((((nameText_label impl).append separator).append (nameText_label fault)).append mark).append
      (Matrix.nameText_formatDecimal 2 spec.repetition)).append separator).append
        (nameText_label condition)
  refine ⟨Matrix.suffix_append _ ".json", ?_⟩
  rw [recordName, String.toList_append, List.mem_append, not_or]
  exact ⟨plain.slash, by decide⟩

theorem mem_labels (known : impl ∈ implementations) : impl ∈ labels := List.mem_append_left _ known

theorem groupListSpec_observed (known : impl ∈ implementations)
    (built : groupListSpec impl repetition environment paths = .ok spec) : Observed spec := by
  obtain ⟨flag, _, built⟩ := bind_eq_ok.mp built
  obtain ⟨values, _, same⟩ := bind_eq_ok.mp built
  cases same
  exact ⟨read_of_labels (mem_labels known) (by decide : "group-list" ∈ labels)
    (by decide : "default" ∈ labels), rfl, .inl ⟨rfl, rfl⟩⟩

theorem bindingSpec_observed (known : impl ∈ implementations)
    (built : bindingSpec impl repetition environment paths = .ok spec) : Observed spec := by
  have logs := bindingSpec_logsMutation built
  obtain ⟨values, _, same⟩ := bind_eq_ok.mp built
  cases same
  exact ⟨read_of_labels (mem_labels known) (by decide : "binding" ∈ labels)
    (by decide : "default" ∈ labels), rfl, .inr logs⟩

theorem advertisedSpec_observed (known : impl ∈ implementations) (named : condition ∈ labels)
    (built : advertisedSpec impl condition repetition environment paths = .ok spec) :
    Observed spec := by
  obtain ⟨base, based, built⟩ := bind_eq_ok.mp built
  obtain ⟨advertised, _, same⟩ := bind_eq_ok.mp built
  obtain ⟨port, _, based⟩ := bind_eq_ok.mp based
  obtain ⟨commands, _, conditioned⟩ := bind_eq_ok.mp based
  cases conditioned
  cases same
  exact ⟨read_of_labels (mem_labels known) (by decide : "condition" ∈ labels) named, rfl,
    .inl ⟨rfl, rfl⟩⟩

theorem stripSpec_observed (known : impl ∈ implementations)
    (built : stripSpec impl repetition environment paths = .ok spec) : Observed spec := by
  have logs := stripSpec_logsMutation built
  obtain ⟨base, based, built⟩ := bind_eq_ok.mp built
  obtain ⟨values, _, same⟩ := bind_eq_ok.mp built
  obtain ⟨port, _, based⟩ := bind_eq_ok.mp based
  obtain ⟨commands, _, conditioned⟩ := bind_eq_ok.mp based
  cases conditioned
  cases same
  exact ⟨read_of_labels (mem_labels known) (by decide : "condition" ∈ labels)
    (by decide : "onpath-strip" ∈ labels), rfl, .inr logs⟩

/-- A planned scenario of the conditions is direct or stripped on its path. -/
theorem mem_v11Specs {repetitions : Int} {environ : Dict String String} {specs : List ScenarioSpec}
    (planned : v11Specs repetitions environ = .ok specs) (member : spec ∈ specs) :
    ∃ impl ∈ implementations, ∃ repetition environment paths,
      (∃ condition ∈ ["base", "silent-downgrade", "ssh-order"],
        advertisedSpec impl condition repetition environment paths = .ok spec) ∨
      stripSpec impl repetition environment paths = .ok spec := by
  obtain ⟨call, inside, made⟩ := exists_of_mem_mapM planned member
  obtain ⟨repetition, _, inside⟩ := List.mem_flatMap.mp inside
  rw [id] at made
  simp only [List.mem_append, List.mem_flatMap, List.mem_cons, List.map_cons, List.map_nil,
    List.not_mem_nil, or_false] at inside
  rcases inside with (⟨impl, known, (rfl | rfl) | rfl⟩ | rfl | rfl) | rfl
  · exact ⟨impl, by rcases known with rfl | rfl <;> decide, _, _, _, .inl ⟨_, by decide, made⟩⟩
  · exact ⟨impl, by rcases known with rfl | rfl <;> decide, _, _, _, .inl ⟨_, by decide, made⟩⟩
  · exact ⟨impl, by rcases known with rfl | rfl <;> decide, _, _, _, .inr made⟩
  · exact ⟨_, by decide, _, _, _, .inl ⟨_, by decide, made⟩⟩
  · exact ⟨_, by decide, _, _, _, .inl ⟨_, by decide, made⟩⟩
  · exact ⟨_, by decide, _, _, _, .inr made⟩

/-- A planned scenario of the faults has a group list or a proxy. -/
theorem mem_smokeSpecs {environ : Dict String String} {specs : List ScenarioSpec}
    (planned : smokeSpecs environ = .ok specs) (member : spec ∈ specs) :
    ∃ impl ∈ implementations, ∃ repetition environment paths,
      groupListSpec impl repetition environment paths = .ok spec ∨
      bindingSpec impl repetition environment paths = .ok spec := by
  obtain ⟨call, inside, made⟩ := exists_of_mem_mapM planned member
  rcases List.mem_append.mp inside with lists | bindings
  · obtain ⟨impl, known, rfl⟩ := List.mem_map.mp lists
    exact ⟨impl, known, _, _, _, .inl made⟩
  · obtain ⟨impl, known, rfl⟩ := List.mem_map.mp bindings
    exact ⟨impl, known, _, _, _, .inr made⟩

theorem mem_batchSpecs {repetitions : Int} {environ : Dict String String} {specs : List ScenarioSpec}
    (planned : batchSpecs repetitions environ = .ok specs) (member : spec ∈ specs) :
    ∃ impl ∈ implementations, ∃ repetition environment paths,
      groupListSpec impl repetition environment paths = .ok spec ∨
      bindingSpec impl repetition environment paths = .ok spec := by
  obtain ⟨call, inside, made⟩ := exists_of_mem_mapM planned member
  obtain ⟨repetition, _, inside⟩ := List.mem_flatMap.mp inside
  obtain ⟨impl, known, inside⟩ := List.mem_flatMap.mp inside
  simp only [List.mem_cons, List.not_mem_nil, or_false] at inside
  rcases inside with rfl | rfl
  · exact ⟨impl, known, _, _, _, .inl made⟩
  · exact ⟨impl, known, _, _, _, .inr made⟩

/-- Every planned scenario of a verified run is observed. -/
theorem VerifiedRun.observed {run : VerifiedRun} {environ : Dict String String}
    {specs : List ScenarioSpec} (planned : run.specs environ = .ok specs) (member : spec ∈ specs) :
    Observed spec := by
  cases run with
  | smoke =>
      obtain ⟨impl, known, _, _, _, list | binding⟩ := mem_smokeSpecs planned member
      · exact groupListSpec_observed known list
      · exact bindingSpec_observed known binding
  | batch repetitions =>
      obtain ⟨impl, known, _, _, _, list | binding⟩ := mem_batchSpecs planned member
      · exact groupListSpec_observed known list
      · exact bindingSpec_observed known binding
  | v11 repetitions =>
      obtain ⟨impl, known, _, _, _, direct | stripped⟩ := mem_v11Specs planned member
      · obtain ⟨condition, named, made⟩ := direct
        have labelled : ∀ condition ∈ ["base", "silent-downgrade", "ssh-order"],
            condition ∈ labels := by decide
        exact advertisedSpec_observed known (labelled condition named) made
      · exact stripSpec_observed known stripped

end Observed

section Frame
variable {spec : ScenarioSpec} {outcome : Outcome} {outDir after : Directory} {record : RunRecord}

theorem identifierOf_eq (spec : ScenarioSpec) : identifierOf spec = identifier spec := rfl

/-- The name of the proxy log has no other form. -/
theorem Observed.ownProxyLog (observed : Observed spec) : Matrix.OwnProxyLog spec := by
  rcases observed.proxy with ⟨_, none⟩ | ⟨_, _, _, logs⟩
  · exact .inl none
  · exact .inr logs.log

/-- The proxy of an observed scenario returns and writes at most its log. -/
theorem Observed.proxyFiles (observed : Observed spec) {events : List MitmProxy.Event}
    {proxied : Result Directory} (ran : Harness.proxyFiles spec events outDir = some proxied) :
    ∃ files, proxied = .ok files ∧
      (files = outDir ∨ ∃ name file, spec.proxyLog = some name ∧ files = outDir.set name file) := by
  rcases observed.proxy with ⟨direct, _⟩ | ⟨event, groupId, transform, logs⟩
  · rw [Harness.proxyFiles, direct] at ran
    cases ran
    exact ⟨outDir, rfl, .inl rfl⟩
  · obtain ⟨port, upstream⟩ := Option.isSome_iff_exists.mp logs.upstream
    rw [Harness.proxyFiles, upstream, logs.mutate] at ran
    obtain ⟨state, reached, same⟩ := Option.map_eq_some_iff.mp ran
    have determined := logMutation_eq event (proxyLogOf spec) groupId logs.only
    have sound := run_sound (fun data world => ⟨_, determined data world⟩) reached
    have world := run_world determined (fun data world unchanged => by
      rw [logEffect, if_neg (not_not.mpr unchanged)]) reached
    refine ⟨state.world, ?_, ?_⟩
    · rw [← same]
      split
      · rename_i error raised
        exact absurd raised (sound.sockets.raised error)
      · rfl
    · rw [world]
      split
      · rw [logEffect]
        split
        · exact .inr ⟨_, _, logs.log, rfl⟩
        · exact .inl rfl
      · exact .inl rfl

/-- The server and the capture write outputs of the scenario. -/
theorem get?_scenarioFiles_other {name : String} (other : name ∉ outputNames spec (identifier spec)) :
    (scenarioFiles spec (identifier spec) outcome outDir).get? name = outDir.get? name := by
  simp only [outputNames, List.mem_append, List.mem_cons, List.not_mem_nil, or_false,
    not_or] at other
  obtain ⟨⟨server, capture, pcap, client⟩, _⟩ := other
  rw [scenarioFiles]
  split
  · rw [Dict.get?_set, if_neg pcap, Dict.get?_set, if_neg capture, Dict.get?_set, if_neg server]
  · rw [Dict.get?_set, if_neg capture, Dict.get?_set, if_neg server]

/-- An observed scenario writes the files of its round and returns a record of the round. -/
theorem Observed.scenario (observed : Observed spec)
    (ran : runScenario spec outcome outDir = some (.ok (record, after))) :
    OfSpec spec record ∧ scenarioMetrics spec outcome = .ok record.metrics ∧
      ∀ name, name ∉ artifactNames spec → after.get? name = outDir.get? name := by
  obtain ⟨proxied, forwarded, returned⟩ := Option.map_eq_some_iff.mp ran
  obtain ⟨files, rfl, written⟩ := observed.proxyFiles forwarded
  rw [ok_bind, ← identifier] at returned
  have ofSpec := Matrix.ofSpec_of_scenarioRecord returned
  obtain ⟨metrics, collected, same⟩ := bind_eq_ok.mp returned
  cases same
  refine ⟨ofSpec, collected, fun name other => ?_⟩
  rw [artifactNames, List.mem_cons, not_or] at other
  have outputs := other.2
  rw [outputNames, List.mem_append, not_or, Option.mem_toList] at outputs
  have client : name ≠ s!"{identifier spec}-client.log" := by
    rintro rfl
    exact outputs.1 (by simp)
  have own : files.get? name = (scenarioFiles spec (identifier spec) outcome outDir).get? name := by
    rcases written with rfl | ⟨log, file, logged, rfl⟩
    · rfl
    · have different : name ≠ log := by
        rintro rfl
        exact outputs.2 logged
      exact (Dict.get?_set _ _ _ _).trans (if_neg different)
  rw [Matrix.get?_toJsonPath ofSpec.runId, if_neg other.1, Dict.get?_set, if_neg client, own]
  exact get?_scenarioFiles_other other.2

end Frame

section Progress
variable {evidence : Evidence} {spec : ScenarioSpec} {outcome : Outcome} {start outDir other : Directory}
  {record : RunRecord}

/-- The proxy of the round changed a chunk, and the record says whether the digests differ. -/
def Mutated (spec : ScenarioSpec) (outcome : Outcome) (record : RunRecord) : Prop :=
  ∀ event groupId transform, LogsMutation spec event groupId transform →
    ∃ chunk, firstChanged (forgeOf transform) (chunks .client outcome.events) = some chunk ∧
      record.manipulationVerified =
        (Sha256.hexdigest chunk != Sha256.hexdigest (forgeOf transform chunk))

/-- The record of a round is stored, its verification can be repeated, and it tells whether the proxy
of the round changed something, unless an earlier log was there. -/
structure Round (evidence : Evidence) (start outDir : Directory)
    (round : ScenarioSpec × Outcome) (record : RunRecord) : Prop where
  kept : Kept outDir (verifiedJob evidence round.1) record
  metrics : scenarioMetrics round.1 round.2 = .ok record.metrics
  mutated : start.get? (proxyLogOf round.1) = none → Mutated round.1 round.2 record

/-- Files of other rounds change nothing about a round. -/
theorem Round.frame {round : ScenarioSpec × Outcome} (kept : Round evidence start outDir round record)
    (same : ∀ name ∈ artifactNames round.1, Dict.get? other name = outDir.get? name) :
    Round evidence start other round record :=
  ⟨kept.kept.frame (fun artifacts => verifyRecord_again kept.kept.again artifacts) same,
    kept.metrics, kept.mutated⟩

/-- A returned verification of a round without an earlier log saw the mutation of its proxy. -/
theorem mutated_of_returned {marked : RunRecord} {files after : Directory}
    (ran : runScenario spec outcome outDir = some (.ok (record, files)))
    (returned : verifyRecord evidence record files = .ok (marked, after))
    (fresh : outDir.get? (proxyLogOf spec) = none) : Mutated spec outcome marked := by
  intro event groupId transform logs
  have whole : WholeLog (outDir.get? (proxyLogOf spec)) := by
    intro file present
    rw [fresh] at present
    cases present
  have run : runVerified evidence spec outcome outDir = some (.ok (marked, after)) := by
    rw [runVerified, ran, Option.map_some, ok_bind]
    exact congrArg some returned
  have value := logs.assigned_eq evidence whole run
  rw [fresh] at value
  cases found : firstChanged (forgeOf transform) (chunks .client outcome.events) with
  | none =>
      rw [found] at value
      cases value
  | some chunk =>
      rw [found] at value
      exact ⟨chunk, rfl, (Option.some.inj value).trans (Bool.false_or _)⟩

/-- The finished rounds are the first scenarios of the list with the first outcomes. Files that no
round wrote are those of the start. -/
structure Progress (evidence : Evidence) (specs : List ScenarioSpec) (start : Directory)
    (outcomes : List Outcome) (batch : Batch) (done : List (ScenarioSpec × Outcome)) : Prop where
  rounds : List.Forall₂ (Round evidence start batch.outDir) done batch.records
  planned : specs = done.map Prod.fst ++ batch.todo
  first : done.map Prod.snd <+: outcomes
  complete : batch.raised = none → outcomes = done.map Prod.snd
  keeps : batch.raised = none → ∀ name, (∀ round ∈ done, name ∉ artifactNames round.1) →
    batch.outDir.get? name = start.get? name

variable {specs : List ScenarioSpec} {outcomes : List Outcome} {batch next : Batch}
  {done : List (ScenarioSpec × Outcome)}

/-- The current scenario writes no file of a finished round. -/
theorem Progress.apart (progress : Progress evidence specs start outcomes batch done)
    (apart : specs.Pairwise fun first second => (artifactNames first).Disjoint (artifactNames second))
    {rest : List ScenarioSpec} (head : batch.todo = spec :: rest) :
    ∀ round ∈ done, (artifactNames round.1).Disjoint (artifactNames spec) := by
  rw [progress.planned, head, List.pairwise_append] at apart
  intro round member
  exact apart.2.2 round.1 (List.mem_map_of_mem member) spec List.mem_cons_self

/-- The current scenario keeps the finished rounds, also when it has written only some of its
files. -/
theorem Progress.frame (progress : Progress evidence specs start outcomes batch done)
    (apart : specs.Pairwise fun first second => (artifactNames first).Disjoint (artifactNames second))
    {rest : List ScenarioSpec} (head : batch.todo = spec :: rest) {after : Directory}
    (own : ∀ name, name ∉ artifactNames spec → after.get? name = batch.outDir.get? name) :
    List.Forall₂ (Round evidence start after) done batch.records := by
  have disjoint := progress.apart apart head
  refine ((List.forall₂_and_left _ _).mpr ⟨disjoint, progress.rounds⟩).imp ?_
  intro round record known
  apply known.2.frame
  exact fun name inside => own name (known.1 inside)

section Current
variable (observed : Observed spec)
  (apart : specs.Pairwise fun first second => (artifactNames first).Disjoint (artifactNames second))
  (progress : Progress evidence specs start outcomes batch done) {rest : List ScenarioSpec}
  (head : batch.todo = spec :: rest) {files : Directory}
  (ran : runScenario spec outcome batch.outDir = some (.ok (record, files)))
include observed apart progress head ran

/-- The verification of the current scenario raised. Its files are written. -/
theorem Progress.raise (error : Error) :
    Progress evidence specs start (outcomes ++ [outcome])
      { batch with outDir := files, raised := some error } done := by
  obtain ⟨_, _, written⟩ := observed.scenario ran
  refine ⟨progress.frame apart head written, progress.planned, ?_, ?_, ?_⟩
  · exact progress.first.trans (List.prefix_append _ _)
  · intro running
    cases running
  · intro running
    cases running

/-- The current scenario becomes a finished round. -/
theorem Progress.finish (running : batch.raised = none) {marked : RunRecord} {after : Directory}
    (returned : verifyRecord evidence record files = .ok (marked, after)) :
    Progress evidence specs start (outcomes ++ [outcome]) {
      outDir := after
      todo := rest
      records := batch.records ++ [marked]
      raised := none } (done ++ [(spec, outcome)]) := by
  have disjoint := progress.apart apart head
  obtain ⟨ofSpec, collected, written⟩ := observed.scenario ran
  have label := verifyRecord_ofSpec ofSpec returned
  obtain ⟨value, _, marks, rfl⟩ := verifyRecord_eq_ok.mp returned
  have own := Matrix.get?_toJsonPath label.runId files
  have frame (name : String) (free : name ∉ artifactNames spec) :
      (files.toJsonPath marked).get? name = batch.outDir.get? name := by
    rw [own, if_neg, written name free]
    rintro rfl
    exact free List.mem_cons_self
  have complete : outcomes ++ [outcome] = (done ++ [(spec, outcome)]).map Prod.snd := by
    rw [progress.complete running, List.map_append]
    rfl
  refine ⟨?_, ?_, complete ▸ List.prefix_rfl, fun _ => complete, ?_⟩
  · apply List.rel_append (progress.frame apart head frame)
    refine .cons ⟨⟨label, ?_, ?_⟩, ?_, ?_⟩ .nil
    · exact (own _).trans (if_pos rfl)
    · apply verifyRecord_again returned
      intro key name found
      rw [ofSpec.artifacts] at found
      rw [own, if_neg]
      rintro rfl
      exact Matrix.not_json_of_mem_outputNames observed.ownProxyLog
        (Matrix.mem_outputNames_of_artifact found) (Matrix.suffix_append _ _)
    · rw [marks]
      exact collected
    · intro fresh event groupId transform logs
      apply mutated_of_returned ran returned _ event groupId transform logs
      rw [progress.keeps running _ _, fresh]
      intro round member inside
      apply disjoint round member inside
      apply List.mem_cons_of_mem
      rw [outputNames, logs.log]
      exact List.mem_append_right _ List.mem_cons_self
  · rw [progress.planned, head, List.map_append, List.append_assoc]
    rfl
  · intro _ name free
    have current : name ∉ artifactNames spec :=
      free (spec, outcome) (List.mem_append_right _ List.mem_cons_self)
    rw [frame name current]
    exact progress.keeps running name fun round member =>
      free round (List.mem_append_left _ member)

end Current

/-- Every step keeps the finished rounds and may finish the current one. -/
theorem Progress.step (observed : ∀ spec ∈ specs, Observed spec)
    (apart : specs.Pairwise fun first second => (artifactNames first).Disjoint (artifactNames second))
    (progress : Progress evidence specs start outcomes batch done)
    (taken : Batch.step evidence batch outcome = some next) :
    ∃ done, Progress evidence specs start (outcomes ++ [outcome]) next done := by
  unfold Batch.step at taken
  split at taken
  · rename_i spec todo running head
    have planned : spec ∈ specs := by
      rw [progress.planned, head]
      exact List.mem_append_right _ List.mem_cons_self
    have known := observed spec planned
    split at taken
    · rename_i record files ran
      split at taken
      · rename_i marked after returned
        cases taken
        exact ⟨_, progress.finish known apart head ran running returned⟩
      · cases taken
        exact ⟨_, progress.raise known apart head ran _⟩
    · cases taken
  · cases taken

/-- Every reached state of a verified run has kept its rounds. -/
theorem progress_of_run (observed : ∀ spec ∈ specs, Observed spec)
    (apart : specs.Pairwise fun first second => (artifactNames first).Disjoint (artifactNames second))
    (reached : Transition.run (Batch.step evidence) (.initial specs start) outcomes = some batch) :
    ∃ done, Progress evidence specs start outcomes batch done := by
  have begin : ∃ done, Progress evidence specs start [] (.initial specs start) done :=
    ⟨[], .nil, rfl, List.prefix_rfl, fun _ => rfl, fun _ _ _ => rfl⟩
  apply Transition.run_invariant (Batch.step evidence) begin _ reached
  intro events state event next kept taken
  obtain ⟨done, progress⟩ := kept
  exact progress.step observed apart taken

end Progress

section Runs
variable {environ : Dict String String} {run : VerifiedRun} {specs : List ScenarioSpec}

/-- These are the rounds of the smoke tests in their order. -/
def smokeRuns : List (Int × String × String) :=
  (implementations.map fun impl => (1, impl, "group-list")) ++
    implementations.map fun impl => (1, impl, "binding")

theorem mem_smokeRuns {repetition : Int} {cell : String × String} :
    (repetition, cell) ∈ smokeRuns ↔
      (1 ≤ repetition ∧ repetition ≤ 1) ∧ cell ∈ Identity.batchCells := by
  have lists : ∀ run ∈ smokeRuns, run.1 = 1 ∧ run.2 ∈ Identity.batchCells := by decide
  have cells : ∀ cell ∈ Identity.batchCells, (1, cell) ∈ smokeRuns := by decide
  constructor
  · intro inside
    obtain ⟨one, known⟩ := lists _ inside
    exact ⟨by omega, known⟩
  · intro known
    have one : repetition = 1 := by omega
    rw [one]
    exact cells cell known.2

/-- The smoke tests are the first repetition of the batch in another order. -/
theorem smokeSpecs_plans (environ : Dict String String) :
    ∃ specs, smokeSpecs environ = .ok specs ∧
      Identity.Plans Identity.batchCell Identity.batchCells 1 specs := by
  let environment := phase2Environment environ
  let build (run : Int × String × String) : Result ScenarioSpec :=
    if run.2.2 = "group-list" then groupListSpec run.2.1 run.1 environment phase2Paths
    else bindingSpec run.2.1 run.1 environment phase2Paths
  have shape : smokeSpecs environ = (smokeRuns.map build).mapM id := rfl
  rw [shape]
  apply Identity.runs_plans (by decide) fun _ _ => mem_smokeRuns
  intro repetition cell member
  obtain ⟨spec, built⟩ : ∃ spec, build (repetition, cell) = .ok spec := by
    fin_cases member <;> exact ⟨_, rfl⟩
  refine ⟨spec, built, ?_⟩
  fin_cases member
  · exact Identity.groupListSpec_builds (by decide) built
  · exact Identity.bindingSpec_builds (by decide) built
  · exact Identity.groupListSpec_builds (by decide) built
  · exact Identity.bindingSpec_builds (by decide) built
  · exact Identity.groupListSpec_builds (by decide) built
  · exact Identity.bindingSpec_builds (by decide) built

/-- No two scenarios of a verified run write one file. -/
theorem VerifiedRun.apart (planned : run.specs environ = .ok specs) :
    specs.Pairwise fun first second => (artifactNames first).Disjoint (artifactNames second) := by
  cases run with
  | smoke =>
      obtain ⟨others, again, plans⟩ := smokeSpecs_plans environ
      rw [VerifiedRun.specs, again] at planned
      cases planned
      exact plans.apart
  | batch repetitions =>
      obtain ⟨others, again, plans⟩ := Identity.batchSpecs_plans environ repetitions
      rw [VerifiedRun.specs, again] at planned
      cases planned
      exact plans.apart
  | v11 repetitions =>
      obtain ⟨others, again, plans⟩ := Identity.v11Specs_plans environ repetitions
      rw [VerifiedRun.specs, again] at planned
      cases planned
      exact plans.apart

variable {evidence : Evidence} {start : Directory} {outcomes : List Outcome} {batch : Batch}

/-- In every state of a verified run, each finished round is stored under its own name with the
metrics of its own programs, and its verification can be repeated. A round with a proxy has finished
only if the proxy changed a chunk, and it is verified exactly when the digests differ. The files that
the current scenario has written so far change nothing about this. -/
theorem VerifiedRun.rounds_kept (planned : run.specs environ = .ok specs)
    (reached : Transition.run (Batch.step evidence) (.initial specs start) outcomes = some batch) :
    ∃ done, List.Forall₂ (Round evidence start batch.outDir) done batch.records ∧
      specs = done.map Prod.fst ++ batch.todo ∧
      done.map Prod.snd <+: outcomes ∧ (batch.raised = none → outcomes = done.map Prod.snd) ∧
      ∀ spec rest after, batch.todo = spec :: rest →
        (∀ name, name ∉ artifactNames spec → Dict.get? after name = batch.outDir.get? name) →
          List.Forall₂ (Round evidence start after) done batch.records := by
  have apart := VerifiedRun.apart planned
  obtain ⟨done, progress⟩ := progress_of_run (fun spec member => VerifiedRun.observed planned member)
    apart reached
  exact ⟨done, progress.rounds, progress.planned, progress.first, progress.complete,
    fun _ _ _ head own => progress.frame apart head own⟩

end Runs

section Sample

def sampleConditions : List ScenarioSpec := ((VerifiedRun.v11 1).specs .empty).toOption.get rfl

/-- The client of the third round sends a hello that names the hybrid group. -/
def sampleOutcomes : List Outcome :=
  [sampleOutcome [], sampleOutcome [], sampleOutcome [.recv .client PcapHello.sampleHello]]

/-- The first three rounds of the conditions are kept. -/
theorem VerifiedRun.rounds_kept_sample : ∃ batch done,
    Transition.run (Batch.step sampleEvidence) (.initial sampleConditions .empty) sampleOutcomes =
      some batch ∧
    done.length = 3 ∧ List.Forall₂ (Round sampleEvidence .empty batch.outDir) done batch.records := by
  have ends : (Transition.run (Batch.step sampleEvidence) (.initial sampleConditions .empty)
      sampleOutcomes).map (fun batch => batch.records.length) = some 3 := by decide +kernel
  obtain ⟨batch, reached, three⟩ := Option.map_eq_some_iff.mp ends
  have planned : (VerifiedRun.v11 1).specs .empty = .ok sampleConditions := rfl
  obtain ⟨done, rounds, _⟩ := VerifiedRun.rounds_kept planned reached
  exact ⟨batch, done, reached, rounds.length_eq.trans three, rounds⟩

end Sample

end FaultInject.Run
