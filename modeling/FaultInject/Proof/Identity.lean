import FaultInject.Construction.Run
import FaultInject.Construction.V16
import FaultInject.Proof.Evidence
import FaultInject.Proof.Names
import FaultInject.Proof.Verdict
import Mathlib.Data.List.ProdSigma

namespace FaultInject.Identity
open Python Record Harness FaultInject.Matrix
open Analyze (repetitionRange)

section Plans
variable {C : Type} (cellOf : String → String → String → Result C)

/-- These are the repetition and the cell of a specification. The cell is read from the
implementation, the fault type and the condition. -/
def runOf (spec : ScenarioSpec) : Int × Result C :=
  (spec.repetition, cellOf spec.impl spec.faultType spec.condition)

/-- A specification is built for a run. -/
structure Builds (run : Int × C) (spec : ScenarioSpec) : Prop where
  run : runOf cellOf spec = (run.1, .ok run.2)
  impl : '_' ∉ spec.impl.toList
  fault : '_' ∉ spec.faultType.toList
  proxyLog : OwnProxyLog spec

/-- A list of specifications has one run of each repetition of each cell and nothing else,
and no two of its runs share an identifier or the name of a file. -/
structure Plans [DecidableEq C] (cells : List C) (repetitions : Int)
    (specs : List ScenarioSpec) : Prop where
  once : ∀ cell ∈ cells, ∀ repetition, 1 ≤ repetition ∧ repetition ≤ repetitions →
    specs.countP (fun spec => runOf cellOf spec = (repetition, .ok cell)) = 1
  planned : ∀ spec ∈ specs, (1 ≤ spec.repetition ∧ spec.repetition ≤ repetitions) ∧
    ∃ cell ∈ cells, cellOf spec.impl spec.faultType spec.condition = .ok cell
  runIds : (specs.map identifier).Nodup
  apart : specs.Pairwise fun first second =>
    (artifactNames first).Disjoint (artifactNames second)

variable {cellOf} {run other : Int × C} {spec second : ScenarioSpec}

/-- Two runs with one identifier are one run. -/
theorem Builds.run_eq (built : Builds cellOf run spec) (again : Builds cellOf other second)
    (same : identifier spec = identifier second) : run = other := by
  obtain ⟨impls, faults, repetitions, conditions⟩ :=
    runId_inj built.impl again.impl built.fault again.fault same
  have runs : runOf cellOf spec = runOf cellOf second := by
    rw [runOf, runOf, impls, faults, repetitions, conditions]
  rw [built.run, again.run, Prod.mk.injEq, Except.ok.injEq] at runs
  exact Prod.ext runs.1 runs.2

variable {runs : List (Int × C)} {specs : List ScenarioSpec}

theorem map_runOf (built : List.Forall₂ (Builds cellOf) runs specs) :
    specs.map (runOf cellOf) = runs.map fun run => (run.1, .ok run.2) := by
  induction built with
  | nil => rfl
  | cons first _ ih => rw [List.map_cons, List.map_cons, first.run, ih]

/-- Specifications of different runs differ in every way that their runs differ. -/
theorem pairwise_of_runs {differ : ScenarioSpec → ScenarioSpec → Prop}
    (built : List.Forall₂ (Builds cellOf) runs specs) (distinct : runs.Nodup)
    (apart : ∀ run other spec second, Builds cellOf run spec → Builds cellOf other second →
      run ≠ other → differ spec second) : specs.Pairwise differ := by
  induction built with
  | nil => exact List.Pairwise.nil
  | @cons run spec runs specs first rest ih =>
      rw [List.nodup_cons] at distinct
      rw [List.pairwise_cons]
      constructor
      · intro second member
        obtain ⟨index, bound, rfl⟩ := List.getElem_of_mem member
        have room : index < runs.length := by rw [rest.length_eq]; exact bound
        apply apart run runs[index] spec _ first (List.Forall₂.get rest room bound)
        rintro rfl
        exact distinct.1 (List.getElem_mem room)
      · exact ih distinct.2

/-- The specifications of a complete list of distinct runs are a plan. -/
theorem plans_of_runs [DecidableEq C] {cells : List C} {repetitions : Int}
    (built : List.Forall₂ (Builds cellOf) runs specs) (distinct : runs.Nodup)
    (complete : ∀ repetition cell, (repetition, cell) ∈ runs ↔
      (1 ≤ repetition ∧ repetition ≤ repetitions) ∧ cell ∈ cells) :
    Plans cellOf cells repetitions specs := by
  have mapped := map_runOf built
  constructor
  · intro cell known repetition bounds
    have member := (complete repetition cell).mpr ⟨bounds, known⟩
    have injective : Function.Injective fun run : Int × C =>
        (run.1, (.ok run.2 : Result C)) := by
      intro run other same
      rw [Prod.mk.injEq, Except.ok.injEq] at same
      exact Prod.ext same.1 same.2
    have count : ((specs.map (runOf cellOf)).count (repetition, .ok cell)) = 1 := by
      rw [mapped]
      apply List.count_eq_one_of_mem (distinct.map injective)
      exact List.mem_map.mpr ⟨(repetition, cell), member, rfl⟩
    rw [List.count, List.countP_map] at count
    rw [← count]
    apply List.countP_congr
    intro spec _
    rw [Function.comp_apply, beq_iff_eq, decide_eq_true_eq]
  · intro spec member
    have image : runOf cellOf spec ∈ runs.map fun run => (run.1, (.ok run.2 : Result C)) := by
      rw [← mapped]
      exact List.mem_map_of_mem member
    obtain ⟨⟨repetition, cell⟩, among, same⟩ := List.mem_map.mp image
    obtain ⟨bounds, known⟩ := (complete repetition cell).mp among
    rw [runOf, Prod.mk.injEq] at same
    rw [← same.1]
    exact ⟨bounds, cell, known, same.2.symm⟩
  · rw [List.Nodup, List.pairwise_map]
    apply pairwise_of_runs built distinct
    intro run other spec second first again different same
    exact different (first.run_eq again same)
  · apply pairwise_of_runs built distinct
    intro run other spec second first again different name here there
    exact different (first.run_eq again
      (identifier_eq_of_mem first.proxyLog again.proxyLog here there))

end Plans

/-- These are the numbers of the repetitions. -/
theorem mem_repetitionRange {repetitions repetition : Int} :
    repetition ∈ repetitionRange repetitions.toNat ↔ 1 ≤ repetition ∧ repetition ≤ repetitions := by
  rw [repetitionRange, List.mem_map]
  constructor
  · rintro ⟨index, member, rfl⟩
    rw [List.mem_range] at member
    omega
  · rintro ⟨low, high⟩
    apply Exists.intro (repetition - 1).toNat
    rw [List.mem_range]
    omega

section Loops
variable {C : Type} {cellOf : String → String → String → Result C} {cells : List C}
  {repetitions : Int} {specs : List ScenarioSpec} {build : Int × C → Result ScenarioSpec}

/-- The loop over the repetitions and the cells has each run once. -/
theorem mem_runs {repetition : Int} {cell : C} :
    (repetition, cell) ∈ repetitionRange repetitions.toNat ×ˢ cells ↔
      (1 ≤ repetition ∧ repetition ≤ repetitions) ∧ cell ∈ cells := by
  apply List.pair_mem_product.trans
  rw [mem_repetitionRange]

/-- The returned specifications of a complete list of distinct runs are a plan. -/
theorem plans_of_built [DecidableEq C] {runs : List (Int × C)} (distinct : runs.Nodup)
    (complete : ∀ repetition cell, (repetition, cell) ∈ runs ↔
      (1 ≤ repetition ∧ repetition ≤ repetitions) ∧ cell ∈ cells)
    (builds : ∀ run spec, run.2 ∈ cells → build run = .ok spec → Builds cellOf run spec)
    (built : (runs.map build).mapM id = .ok specs) : Plans cellOf cells repetitions specs := by
  rw [mapM_id_map, mapM_eq_ok] at built
  have members : ∀ run ∈ runs, run.2 ∈ cells :=
    fun run member => ((complete run.1 run.2).mp member).2
  apply plans_of_runs _ distinct complete
  exact ((List.forall₂_and_left _ _).mpr ⟨members, built⟩).imp fun run spec known =>
    builds run spec known.1 known.2

theorem nodup_runs (distinct : cells.Nodup) :
    (repetitionRange repetitions.toNat ×ˢ cells).Nodup :=
  (Analyze.nodup_repetitionRange _).product distinct

/-- The returned specifications of a loop over distinct cells are a plan. -/
theorem plans_of_loop [DecidableEq C] (distinct : cells.Nodup)
    (builds : ∀ run spec, run.2 ∈ cells → build run = .ok spec → Builds cellOf run spec)
    (built : ((repetitionRange repetitions.toNat ×ˢ cells).map build).mapM id = .ok specs) :
    Plans cellOf cells repetitions specs :=
  plans_of_built (nodup_runs distinct) (fun _ _ => mem_runs) builds built

/-- Calls return when each of them can build its cell. -/
theorem runs_return {runs : List (Int × C)} (members : ∀ run ∈ runs, run.2 ∈ cells)
    (known : ∀ repetition, ∀ cell ∈ cells, ∃ spec, build (repetition, cell) = .ok spec) :
    ∃ specs, (runs.map build).mapM id = .ok specs := by
  rw [mapM_id_map]
  apply mapM_returns
  intro run member
  exact known run.1 run.2 (members run member)

theorem loop_returns (repetitions : Int)
    (known : ∀ repetition, ∀ cell ∈ cells, ∃ spec, build (repetition, cell) = .ok spec) :
    ∃ specs, ((repetitionRange repetitions.toNat ×ˢ cells).map build).mapM id = .ok specs :=
  runs_return (fun _ member => (mem_runs.mp member).2) known

/-- A complete list of distinct runs whose calls build their cells returns a plan. -/
theorem runs_plans [DecidableEq C] {runs : List (Int × C)} (distinct : runs.Nodup)
    (complete : ∀ repetition cell, (repetition, cell) ∈ runs ↔
      (1 ≤ repetition ∧ repetition ≤ repetitions) ∧ cell ∈ cells)
    (each : ∀ repetition, ∀ cell ∈ cells, ∃ spec, build (repetition, cell) = .ok spec ∧
      Builds cellOf (repetition, cell) spec) :
    ∃ specs, (runs.map build).mapM id = .ok specs ∧ Plans cellOf cells repetitions specs := by
  have known (repetition : Int) (cell) (member : cell ∈ cells) :
      ∃ spec, build (repetition, cell) = .ok spec :=
    (each repetition cell member).imp fun _ found => found.1
  obtain ⟨specs, built⟩ :=
    runs_return (fun run member => ((complete run.1 run.2).mp member).2) known
  apply Exists.intro specs
  apply And.intro built
  apply plans_of_built distinct complete _ built
  intro run spec member made
  obtain ⟨found, same, builds⟩ := each run.1 run.2 member
  rw [made] at same
  cases same
  exact builds

/-- A loop whose calls build distinct cells returns a plan. -/
theorem loop_plans [DecidableEq C] (repetitions : Int) (distinct : cells.Nodup)
    (each : ∀ repetition, ∀ cell ∈ cells, ∃ spec, build (repetition, cell) = .ok spec ∧
      Builds cellOf (repetition, cell) spec) :
    ∃ specs, ((repetitionRange repetitions.toNat ×ˢ cells).map build).mapM id = .ok specs ∧
      Plans cellOf cells repetitions specs :=
  runs_plans (nodup_runs distinct) (fun _ _ => mem_runs) each

/-- Two nested loops are one loop over the pairs. -/
theorem map_pairs {A B D : Type} (first : List A) (second : List B) (call : A × B → D) :
    (first ×ˢ second).map call = first.flatMap fun a => second.map fun b => call (a, b) := by
  simp [SProd.sprod, List.product, List.map_flatMap, Function.comp_def]

/-- Three nested loops are one loop over the repetitions and the pairs of labels. -/
theorem map_product {A B D E : Type} (first : List A) (second : List B) (third : List D)
    (call : A → B → D → E) :
    (first.flatMap fun a => second.flatMap fun b => third.map fun d => call a b d) =
      (first ×ˢ (second ×ˢ third)).map fun run => call run.1 run.2.1 run.2.2 := by
  simp only [map_pairs]

end Loops

section Conditions

/-- The split from the right gives back a label and a setting without the separator. -/
theorem splitCondition_eq (version : String) {setting : String} (clean : '-' ∉ setting.toList) :
    V12.splitCondition s!"{version}-{setting}" = .ok (version, setting) := by
  have shape : s!"{version}-{setting}" = version ++ String.ofList ['-'] ++ setting := rfl
  rw [V12.splitCondition, shape, split_append version clean, List.reverse_append,
    List.reverse_singleton, List.singleton_append]
  have whole := join_split version '-'
  cases parts : (split version '-').reverse with
  | nil => simp [split] at parts
  | cons first rest =>
      dsimp only
      rw [← parts, List.reverse_reverse, whole]

/-- The split from the left gives back a server without the separator and any client. -/
theorem splitDirect_eq (client : String) {server : String} (clean : '-' ∉ server.toList) :
    V16.splitDirect s!"{server}--{client}" = .ok (server, client) := by
  have shape : (s!"{server}--{client}").toList = server.toList ++ (['-', '-'] ++ client.toList) := by
    show (server ++ "--" ++ client).toList = _
    simp
  have separator : "--".toList = ['-', '-'] := rfl
  rw [V16.splitDirect, shape, separator, splitFirst_append _ clean]
  simp only [String.ofList_toList]

/-- The names of a table are clean when all of them are. -/
theorem clean_of_item {V : Type} {separator : Char} {table : List (String × V)} {name : String}
    {value : V} (clean : (table.map Prod.fst).all fun name => separator ∉ name.toList)
    (known : Dict.item table name = .ok value) : separator ∉ name.toList :=
  of_decide_eq_true (Dict.test_of_item clean known)

/-- The name of a server setting is split off as it is. -/
theorem splitCondition_setting (version : String) {setting : String} {groups : Option String}
    (known : Dict.item V12.serverSettings setting = .ok groups) :
    V12.splitCondition s!"{version}-{setting}" = .ok (version, setting) :=
  splitCondition_eq version (clean_of_item rfl known)

/-- The name of a fixed client is split off as it is. -/
theorem splitCondition_client (server : String) {client : String} {values : V15.Client}
    (known : Dict.item V15.clients client = .ok values) :
    V12.splitCondition s!"{server}-{client}" = .ok (server, client) :=
  splitCondition_eq server (clean_of_item rfl known)

theorem names_realServers (environ : Dict String String) :
    (V16.realServers environ).map Prod.fst = ["nginx", "caddy"] := rfl

/-- The evaluation of a packaged server gives back the server and the fixed client. -/
theorem conditionNames_client (server : String) {client : String} {values : V15.Client}
    (known : Dict.item V15.clients client = .ok values) :
    V16.conditionNames "server-software" s!"{server}-{client}" = .ok (some server, client) := by
  rw [V16.conditionNames, if_pos rfl, splitCondition_client server known]
  rfl

/-- The evaluation of a direct run gives back the packaged server and the client. -/
theorem conditionNames_server {environ : Dict String String} (client : String) {server : String}
    {command : List String} (known : Dict.item (V16.realServers environ) server = .ok command) :
    V16.conditionNames "default-direct" s!"{server}--{client}" = .ok (some server, client) := by
  have clean : '-' ∉ server.toList := clean_of_item (by rw [names_realServers]; rfl) known
  rw [V16.conditionNames, if_neg (by decide), if_pos rfl, splitDirect_eq client clean]
  rfl

end Conditions

section Builders
variable {environ paths : Dict String String} {repetition : Int} {spec : ScenarioSpec}

/-- These are the cells of the batch. -/
def batchCell (impl fault _condition : String) : Result (String × String) := .ok (impl, fault)

/-- These are the cells of the conditions. -/
def conditionCell (impl _fault condition : String) : Result (String × String) :=
  .ok (impl, condition)

/-- These are the cells whose condition is split at the last separator. -/
def splitCell (_impl _fault condition : String) : Result (String × String) :=
  V12.splitCondition condition

/-- These are the cells of the surveys with the fault type as their part. -/
def surveyCell (_impl fault condition : String) : Result (String × Option String × String) :=
  (V16.conditionNames fault condition).map fun names => (fault, names)

theorem groupListSpec_builds {impl : String} (clean : '_' ∉ impl.toList)
    (built : FaultGroupList.groupListSpec impl repetition environ paths = .ok spec) :
    Builds batchCell (repetition, (impl, "group-list")) spec := by
  obtain ⟨⟨flag, value⟩, _, built⟩ := bind_eq_ok.mp built
  obtain ⟨values, _, same⟩ := bind_eq_ok.mp built
  cases same
  exact ⟨rfl, clean, (by decide : '_' ∉ "group-list".toList), .inl rfl⟩

theorem bindingSpec_builds {impl : String} (clean : '_' ∉ impl.toList)
    (built : FaultBinding.bindingSpec impl repetition environ paths = .ok spec) :
    Builds batchCell (repetition, (impl, "binding")) spec := by
  obtain ⟨values, _, same⟩ := bind_eq_ok.mp built
  cases same
  exact ⟨rfl, clean, (by decide : '_' ∉ "binding".toList), .inr rfl⟩

theorem advertisedSpec_builds {impl condition : String} (clean : '_' ∉ impl.toList)
    (built : Run.advertisedSpec impl condition repetition environ paths = .ok spec) :
    Builds conditionCell (repetition, (impl, condition)) spec := by
  obtain ⟨base, based, built⟩ := bind_eq_ok.mp built
  obtain ⟨advertised, _, same⟩ := bind_eq_ok.mp built
  cases same
  obtain ⟨port, _, based⟩ := bind_eq_ok.mp based
  obtain ⟨commands, _, same⟩ := bind_eq_ok.mp based
  cases same
  exact ⟨rfl, clean, (by decide : '_' ∉ "condition".toList), .inl rfl⟩

theorem stripSpec_builds {impl : String} (clean : '_' ∉ impl.toList)
    (built : Run.stripSpec impl repetition environ paths = .ok spec) :
    Builds conditionCell (repetition, (impl, "onpath-strip")) spec := by
  obtain ⟨base, based, built⟩ := bind_eq_ok.mp built
  obtain ⟨values, _, same⟩ := bind_eq_ok.mp built
  obtain ⟨rfl, condition, rfl⟩ := Run.conditionSpec_values based
  cases same
  constructor
  · rfl
  · exact clean
  · show '_' ∉ base.faultType.toList
    rw [condition]
    decide
  · apply Or.inr
    show some _ = some (runId base.impl base.faultType base.repetition "onpath-strip" ++ "-proxy.log")
    rw [condition, Run.stripLog_eq]

theorem v12Spec_builds {version setting groups : String}
    (built : V12.v12Spec environ version setting repetition paths groups = .ok spec) :
    Builds splitCell (repetition, (version, setting)) spec := by
  obtain ⟨groups, known, built⟩ := bind_eq_ok.mp built
  simp only [bind_eq_ok, Except.ok.injEq] at built
  obtain ⟨_, _, _, _, _, _, _, _, _, _, rfl⟩ := built
  constructor
  · exact Prod.ext rfl (splitCondition_setting version known)
  · exact (by decide : '_' ∉ "openssl".toList)
  · exact (by decide : '_' ∉ "server-setting".toList)
  · exact .inl rfl

theorem v15Spec_builds {server client : String}
    (built : V15.v15Spec environ server client repetition = .ok spec) :
    Builds splitCell (repetition, (server, client)) spec := by
  obtain ⟨values, known, built⟩ := bind_eq_ok.mp built
  simp only [bind_eq_ok, Except.ok.injEq] at built
  obtain ⟨_, _, _, _, _, _, rfl⟩ := built
  constructor
  · exact Prod.ext rfl (splitCondition_client server known)
  · exact (by decide : '_' ∉ "openssl".toList)
  · exact (by decide : '_' ∉ "negotiation-function".toList)
  · exact .inl rfl

theorem surveySpec_builds {client : String}
    (built : V16.surveySpec environ client repetition = .ok spec) :
    Builds surveyCell (repetition, ("client-default", none, client)) spec := by
  simp only [V16.surveySpec, bind_eq_ok, Except.ok.injEq] at built
  obtain ⟨_, _, _, _, _, _, rfl⟩ := built
  constructor
  · rfl
  · exact (by decide : '_' ∉ "openssl".toList)
  · exact (by decide : '_' ∉ "client-default".toList)
  · exact .inl rfl

theorem serverSpec_builds {server client : String}
    (built : V16.serverSpec environ server client repetition = .ok spec) :
    Builds surveyCell (repetition, ("server-software", some server, client)) spec := by
  obtain ⟨values, known, built⟩ := bind_eq_ok.mp built
  simp only [bind_eq_ok, Except.ok.injEq] at built
  obtain ⟨_, _, _, _, rfl⟩ := built
  have names : surveyCell "openssl" "server-software" s!"{server}-{client}" =
      .ok ("server-software", some server, client) := by
    rw [surveyCell, conditionNames_client server known]
    rfl
  constructor
  · exact Prod.ext rfl names
  · exact (by decide : '_' ∉ "openssl".toList)
  · exact (by decide : '_' ∉ "server-software".toList)
  · exact .inl rfl

theorem directSpec_builds {server client : String}
    (built : V16.directSpec environ server client repetition = .ok spec) :
    Builds surveyCell (repetition, ("default-direct", some server, client)) spec := by
  obtain ⟨_, _, built⟩ := bind_eq_ok.mp built
  obtain ⟨command, known, built⟩ := bind_eq_ok.mp built
  obtain ⟨_, _, same⟩ := bind_eq_ok.mp built
  cases same
  have names : surveyCell "openssl" "default-direct" s!"{server}--{client}" =
      .ok ("default-direct", some server, client) := by
    rw [surveyCell, conditionNames_server client known]
    rfl
  constructor
  · exact Prod.ext rfl names
  · exact (by decide : '_' ∉ "openssl".toList)
  · exact (by decide : '_' ∉ "default-direct".toList)
  · exact .inl rfl

end Builders

end FaultInject.Identity
