import FaultInject.Proof.Identity
import Mathlib.Tactic.FinCases

namespace FaultInject.Identity
open Python Record Harness FaultInject.Matrix
open Analyze (repetitionRange)

section Lists
variable (environ : Dict String String) (repetitions : Int)

/-- These are the cells of the batch. -/
def batchCells : List (String × String) :=
  ["openssl", "boringssl", "openssh"] ×ˢ ["group-list", "binding"]

theorem batchSpecs_plans : ∃ specs, Run.batchSpecs repetitions environ = .ok specs ∧
    Plans batchCell batchCells repetitions specs := by
  let environment := Run.phase2Environment environ
  let build (run : Int × String × String) : Result ScenarioSpec :=
    if run.2.2 = "group-list" then
      FaultGroupList.groupListSpec run.2.1 run.1 environment Run.phase2Paths
    else FaultBinding.bindingSpec run.2.1 run.1 environment Run.phase2Paths
  have shape : Run.batchSpecs repetitions environ =
      ((repetitionRange repetitions.toNat ×ˢ batchCells).map build).mapM id := by
    rw [batchCells, ← map_product _ _ _ fun rep impl fault => build (rep, impl, fault)]
    rfl
  rw [shape]
  apply loop_plans repetitions (by decide)
  intro repetition cell member
  obtain ⟨spec, built⟩ : ∃ spec, build (repetition, cell) = .ok spec := by
    fin_cases member <;> exact ⟨_, rfl⟩
  apply Exists.intro spec
  apply And.intro built
  fin_cases member
  · exact groupListSpec_builds (by decide) built
  · exact bindingSpec_builds (by decide) built
  · exact groupListSpec_builds (by decide) built
  · exact bindingSpec_builds (by decide) built
  · exact groupListSpec_builds (by decide) built
  · exact bindingSpec_builds (by decide) built

/-- These are the cells of the conditions in the order of the loop. -/
def v11Cells : List (String × String) :=
  (["openssl", "boringssl"] ×ˢ ["base", "silent-downgrade", "onpath-strip"]) ++
    (["openssh"] ×ˢ ["base", "ssh-order", "onpath-strip"])

theorem v11Specs_plans : ∃ specs, Run.v11Specs repetitions environ = .ok specs ∧
    Plans conditionCell v11Cells repetitions specs := by
  let environment := Run.phase2Environment environ
  let build (run : Int × String × String) : Result ScenarioSpec :=
    if run.2.2 = "onpath-strip" then
      Run.stripSpec run.2.1 run.1 environment Run.phase2Paths
    else Run.advertisedSpec run.2.1 run.2.2 run.1 environment Run.phase2Paths
  have shape : Run.v11Specs repetitions environ =
      ((repetitionRange repetitions.toNat ×ˢ v11Cells).map build).mapM id := by
    rw [map_pairs]
    rfl
  rw [shape]
  apply loop_plans repetitions (by decide)
  intro repetition cell member
  obtain ⟨spec, built⟩ : ∃ spec, build (repetition, cell) = .ok spec := by
    fin_cases member <;> exact ⟨_, rfl⟩
  apply Exists.intro spec
  apply And.intro built
  fin_cases member
  · exact advertisedSpec_builds (by decide) built
  · exact advertisedSpec_builds (by decide) built
  · exact stripSpec_builds (by decide) built
  · exact advertisedSpec_builds (by decide) built
  · exact advertisedSpec_builds (by decide) built
  · exact stripSpec_builds (by decide) built
  · exact advertisedSpec_builds (by decide) built
  · exact advertisedSpec_builds (by decide) built
  · exact stripSpec_builds (by decide) built

/-- A known server has its libraries. -/
theorem nativeEnvironment_returns {version : String}
    (known : version ∈ V12.prefixes.map Prod.fst) :
    ∃ environment, V12.nativeEnvironment version environ = .ok environment := by
  obtain ⟨folder, found⟩ := Dict.item_returns.mpr known
  exact ⟨_, by rw [V12.nativeEnvironment, found]; rfl⟩

variable {versions settings : List String}

/-- The paths of known servers have the entries that a specification reads. -/
theorem v12Paths_returns (known : ∀ version ∈ versions, version ∈ V12.prefixes.map Prod.fst) :
    ∃ paths, V12.v12Paths versions = .ok paths ∧ (paths.get? "client_bin").isSome ∧
      (paths.get? "cert").isSome ∧
      ∀ version ∈ versions, (paths.get? s!"server_bin_{version}").isSome := by
  let path (version : String) : Result (String × String) :=
    Dict.item V12.prefixes version >>= fun folder =>
      .ok (s!"server_bin_{version}", s!"{folder}/bin/openssl")
  have each : ∀ version ∈ versions, ∃ entry, path version = .ok entry := by
    intro version member
    obtain ⟨folder, found⟩ := Dict.item_returns.mpr (known version member)
    exact ⟨_, by simp only [path, found]; rfl⟩
  obtain ⟨servers, built⟩ := mapM_returns each
  have keys : ∀ version ∈ versions, s!"server_bin_{version}" ∈ servers.map Prod.fst := by
    intro version member
    obtain ⟨index, bound, rfl⟩ := List.getElem_of_mem member
    have entries := mapM_eq_ok.mp built
    have room : index < servers.length := by rw [← entries.length_eq]; exact bound
    obtain ⟨folder, _, same⟩ := bind_eq_ok.mp (List.Forall₂.get entries bound room)
    apply List.mem_map.mpr
    exact ⟨servers[index], List.getElem_mem room, (congrArg Prod.fst (Except.ok.inj same)).symm⟩
  refine ⟨_, bind_eq_ok.mpr ⟨_, rfl, bind_eq_ok.mpr ⟨servers, built, rfl⟩⟩, ?_, ?_, ?_⟩
  · rw [Dict.get?_ofEntries_isSome]
    simp
  · rw [Dict.get?_ofEntries_isSome]
    simp
  · intro version member
    rw [Dict.get?_ofEntries_isSome, List.map_append, List.map_append]
    exact List.mem_append_left _ (List.mem_append_right _ (keys version member))

/-- A known server and a known setting have a specification. -/
theorem v12Spec_returns {paths : Dict String String} {version setting : String}
    (known : version ∈ V12.prefixes.map Prod.fst)
    (named : setting ∈ V12.serverSettings.map Prod.fst) (client : (paths.get? "client_bin").isSome)
    (cert : (paths.get? "cert").isSome) (server : (paths.get? s!"server_bin_{version}").isSome)
    (repetition : Int) (groups : String) :
    ∃ spec, V12.v12Spec environ version setting repetition paths groups = .ok spec := by
  obtain ⟨arguments, setting⟩ := Dict.item_returns.mpr named
  obtain ⟨_, client⟩ := Dict.getItem_returns client "client_bin"
  obtain ⟨_, cert⟩ := Dict.getItem_returns cert "cert"
  obtain ⟨_, server⟩ := Dict.getItem_returns server s!"server_bin_{version}"
  obtain ⟨_, env⟩ := nativeEnvironment_returns environ (by decide : "3.5.5" ∈ _)
  obtain ⟨_, serverEnv⟩ := nativeEnvironment_returns environ known
  apply Exists.intro _
  rw [V12.v12Spec, setting, ok_bind, server, ok_bind, cert, ok_bind, client, ok_bind, env, ok_bind,
    serverEnv, ok_bind]

variable (versions settings) (groups : String)

/-- This is the call of one round of the matrix. -/
def v12Build (paths : Dict String String) (run : Int × String × String) : Result ScenarioSpec :=
  V12.v12Spec environ run.2.1 run.2.2 run.1 paths groups

theorem v12Specs_eq (paths : Option (Dict String String)) :
    V12.v12Specs environ repetitions settings paths versions groups =
      V12.pathsOr paths versions >>= fun paths =>
        ((repetitionRange repetitions.toNat ×ˢ (versions ×ˢ settings)).map
          (v12Build environ groups paths)).mapM id := by
  rw [V12.v12Specs]
  congr
  funext paths
  rw [map_product]
  rfl

variable {versions settings}

/-- The matrix of distinct servers and distinct settings is a plan. -/
theorem v12Specs_plans {paths : Option (Dict String String)} {specs : List ScenarioSpec}
    (servers : versions.Nodup) (distinct : settings.Nodup)
    (built : V12.v12Specs environ repetitions settings paths versions groups = .ok specs) :
    Plans splitCell (versions ×ˢ settings) repetitions specs := by
  rw [v12Specs_eq] at built
  obtain ⟨paths, _, built⟩ := bind_eq_ok.mp built
  apply plans_of_loop (servers.product distinct) _ built
  intro run spec _ made
  exact v12Spec_builds made

/-- The matrix of known servers and known settings can be built. -/
theorem v12Specs_return (known : ∀ version ∈ versions, version ∈ V12.prefixes.map Prod.fst)
    (named : ∀ setting ∈ settings, setting ∈ V12.serverSettings.map Prod.fst) :
    ∃ specs, V12.v12Specs environ repetitions settings none versions groups = .ok specs := by
  obtain ⟨paths, built, client, cert, servers⟩ := v12Paths_returns known
  rw [v12Specs_eq, V12.pathsOr, built, ok_bind]
  apply loop_returns
  intro repetition cell member
  obtain ⟨version, setting⟩ := List.mem_product.mp member
  exact v12Spec_returns environ (known _ version) (named _ setting) client cert
    (servers _ version) repetition groups

/-- These are the versions and the settings of the matrix. -/
def versionNames : List String :=
  ["3.5.5", "3.5.6", "3.5.5-cherrypick", "3.5.6-revert", "3.6.1", "3.6.2", "3.6.1-cherrypick",
    "3.6.2-revert"]

def settingNames : List String := ["S1", "S2", "S3", "S4"]

/-- These are the servers of the comparison in their order. -/
def serverNames : List String :=
  ["openssl-S1", "openssl-S2", "openssl-S1-serverpref", "boringssl", "go", "nss", "rustls"]

/-- These are the planned servers. A choice is planned as it is, and no choice means all servers. -/
def selectedServers : Option (List String) → List String
  | some (server :: servers) => server :: servers
  | _ => serverNames

/-- These are the names of the fixed clients. -/
def fixedClients : List String := ["C1", "C2", "C3"]

theorem selectedOr_servers (selected : Option (List String)) :
    V15.selectedOr selected ((V15.servers environ).map Prod.fst) = selectedServers selected := by
  rcases selected with _ | ⟨_ | ⟨server, servers⟩⟩ <;> rfl

/-- A choice of distinct labels is planned without a repetition. -/
theorem nodup_selectedOr {selected : Option (List String)} {names : List String}
    (distinct : (selected.getD []).Nodup) (all : names.Nodup) :
    (V15.selectedOr selected names).Nodup := by
  rcases selected with _ | ⟨_ | ⟨name, rest⟩⟩
  · exact all
  · exact all
  · exact distinct

theorem nodup_selectedServers {selected : Option (List String)}
    (distinct : (selected.getD []).Nodup) : (selectedServers selected).Nodup := by
  rw [← selectedOr_servers .empty]
  exact nodup_selectedOr distinct (by decide)

theorem fixedClient_returns {client : String} (known : client ∈ fixedClients) :
    ∃ values, Dict.item V15.clients client = .ok values :=
  Dict.item_returns.mpr known

/-- This is the call of one round of the comparison. -/
def v15Build (run : Int × String × String) : Result ScenarioSpec :=
  V15.v15Spec environ run.2.1 run.2.2 run.1

theorem v15Specs_eq (selected : Option (List String)) :
    V15.v15Specs environ repetitions selected =
      ((repetitionRange repetitions.toNat ×ˢ (selectedServers selected ×ˢ fixedClients)).map
        (v15Build environ)).mapM id := by
  rw [V15.v15Specs, selectedOr_servers]
  congr 1
  exact map_product _ _ _ fun rep server client => V15.v15Spec environ server client rep

/-- The comparison of distinct servers is a plan. -/
theorem v15Specs_plans {selected : Option (List String)} {specs : List ScenarioSpec}
    (distinct : (selectedServers selected).Nodup)
    (built : V15.v15Specs environ repetitions selected = .ok specs) :
    Plans splitCell (selectedServers selected ×ˢ fixedClients) repetitions specs := by
  rw [v15Specs_eq] at built
  apply plans_of_loop (distinct.product (by decide)) _ built
  intro run spec _ made
  exact v15Spec_builds made

/-- The comparison of known servers can be built. -/
theorem v15Specs_return {selected : Option (List String)}
    (known : ∀ server ∈ selectedServers selected,
      server ∈ (V15.servers environ).map Prod.fst) :
    ∃ specs, V15.v15Specs environ repetitions selected = .ok specs := by
  rw [v15Specs_eq]
  apply loop_returns
  intro repetition cell member
  obtain ⟨server, client⟩ := List.mem_product.mp member
  obtain ⟨values, client⟩ := fixedClient_returns client
  obtain ⟨command, server⟩ := Dict.item_returns.mpr (known _ server)
  obtain ⟨env, native⟩ := nativeEnvironment_returns environ (by decide : "3.5.5" ∈ _)
  obtain ⟨library, other⟩ := nativeEnvironment_returns environ (by decide : "3.5.6" ∈ _)
  have serverEnv : ∃ serverEnv, V15.serverEnvironment environ cell.1 = .ok serverEnv := by
    unfold V15.serverEnvironment
    split
    · exact ⟨library, other⟩
    · exact ⟨_, rfl⟩
  obtain ⟨serverEnv, serverBuilt⟩ := serverEnv
  apply Exists.intro _
  rw [v15Build, V15.v15Spec, client, ok_bind, server, ok_bind, native, ok_bind, serverBuilt, ok_bind]

/-- These are the names of the default clients and of the packaged servers. -/
def defaultNames : List String :=
  ["openssl-3.5.5", "curl-system-openssl", "boringssl", "go", "nss", "rustls"]

def packagedNames : List String := ["nginx", "caddy"]

theorem packagedServer_returns {server : String} (known : server ∈ packagedNames) :
    ∃ command, Dict.item (V16.realServers environ) server = .ok command :=
  Dict.item_returns.mpr known

/-- A default client has an environment and a command. -/
theorem defaultClient_returns {client : String} (known : client ∈ defaultNames) :
    ∃ clientEnv clientCmd, V16.clientEnvironment environ client = .ok clientEnv ∧
      Dict.item V16.defaultClients client = .ok clientCmd := by
  have named : client ∈ V16.defaultClients.map Prod.fst := known
  obtain ⟨clientCmd, command⟩ := Dict.item_returns.mpr named
  obtain ⟨library, native⟩ := nativeEnvironment_returns environ (by decide : "3.5.5" ∈ _)
  unfold V16.clientEnvironment
  split
  · exact ⟨library, clientCmd, native, command⟩
  · exact ⟨_, clientCmd, rfl, command⟩

/-- These are the cells of the two parts of the survey. -/
def surveyCells : List (String × Option String × String) :=
  defaultNames.map fun client => ("client-default", none, client)

def softwareCells : List (String × Option String × String) :=
  (packagedNames ×ˢ fixedClients).map fun names =>
    ("server-software", some names.1, names.2)

def directCells : List (String × Option String × String) :=
  (packagedNames ×ˢ defaultNames).map fun names =>
    ("default-direct", some names.1, names.2)

/-- This is the call for a cell of any part. -/
def v16Build (run : Int × String × Option String × String) : Result ScenarioSpec :=
  match run.2.2.1 with
  | none => V16.surveySpec environ run.2.2.2 run.1
  | some server =>
    if run.2.1 = "server-software" then V16.serverSpec environ server run.2.2.2 run.1
    else V16.directSpec environ server run.2.2.2 run.1

theorem v16Build_returns (repetition : Int) {cell : String × Option String × String}
    (known : cell ∈ surveyCells ++ softwareCells ++ directCells) :
    ∃ spec, v16Build environ (repetition, cell) = .ok spec ∧
      Builds surveyCell (repetition, cell) spec := by
  obtain ⟨library, native⟩ := nativeEnvironment_returns environ (by decide : "3.5.6" ∈ _)
  obtain ⟨env, base⟩ := nativeEnvironment_returns environ (by decide : "3.5.5" ∈ _)
  rw [List.mem_append, List.mem_append] at known
  rcases known with (survey | software) | direct
  · obtain ⟨client, default, rfl⟩ := List.mem_map.mp survey
    obtain ⟨clientEnv, clientCmd, environment, command⟩ := defaultClient_returns environ default
    have built : ∃ spec, V16.surveySpec environ client repetition = .ok spec := by
      apply Exists.intro _
      rw [V16.surveySpec, environment, ok_bind, command, ok_bind, native, ok_bind]
    obtain ⟨spec, built⟩ := built
    exact ⟨spec, built, surveySpec_builds built⟩
  · obtain ⟨⟨server, client⟩, names, rfl⟩ := List.mem_map.mp software
    obtain ⟨packaged, fixed⟩ := List.pair_mem_product.mp names
    obtain ⟨values, chosen⟩ := fixedClient_returns fixed
    obtain ⟨command, installed⟩ := packagedServer_returns environ packaged
    have built : ∃ spec, V16.serverSpec environ server client repetition = .ok spec := by
      apply Exists.intro _
      rw [V16.serverSpec, chosen, ok_bind, installed, ok_bind, base, ok_bind]
    obtain ⟨spec, built⟩ := built
    exact ⟨spec, built, serverSpec_builds built⟩
  · obtain ⟨⟨server, client⟩, names, rfl⟩ := List.mem_map.mp direct
    obtain ⟨packaged, default⟩ := List.pair_mem_product.mp names
    obtain ⟨clientEnv, clientCmd, environment, chosen⟩ := defaultClient_returns environ default
    obtain ⟨command, installed⟩ := packagedServer_returns environ packaged
    have built : ∃ spec, V16.directSpec environ server client repetition = .ok spec := by
      apply Exists.intro _
      rw [V16.directSpec, environment, ok_bind, installed, ok_bind, chosen, ok_bind]
    obtain ⟨spec, built⟩ := built
    exact ⟨spec, built, directSpec_builds built⟩

/-- These are the runs of the survey in the order of its two loops. -/
def surveyRuns : List (Int × String × Option String × String) :=
  (repetitionRange repetitions.toNat ×ˢ surveyCells) ++
    (repetitionRange repetitions.toNat ×ˢ softwareCells)

theorem v16Specs_eq : V16.v16Specs environ repetitions =
    ((surveyRuns repetitions).map (v16Build environ)).mapM id := by
  rw [V16.v16Specs, surveyRuns, List.map_append, map_pairs, map_pairs]
  congr 2

theorem mem_surveyRuns (repetition : Int) (cell : String × Option String × String) :
    (repetition, cell) ∈ surveyRuns repetitions ↔
      (1 ≤ repetition ∧ repetition ≤ repetitions) ∧ cell ∈ surveyCells ++ softwareCells := by
  rw [surveyRuns, List.mem_append, mem_runs, mem_runs, List.mem_append]
  exact and_or_left.symm

/-- The pairs of a part are distinct. -/
theorem nodup_pairs (part : String) {names : List String} (distinct : names.Nodup) :
    ((packagedNames ×ˢ names).map fun pair => (part, some pair.1, pair.2)).Nodup := by
  have servers : packagedNames.Nodup := by decide
  apply (servers.product distinct).map
  intro first second same
  simp only [Prod.mk.injEq, Option.some.injEq, true_and] at same
  exact Prod.ext same.1 same.2

theorem nodup_surveyRuns : (surveyRuns repetitions).Nodup := by
  apply List.Nodup.append (nodup_runs (by decide)) (nodup_runs (nodup_pairs _ (by decide)))
  intro run survey software
  obtain ⟨client, _, here⟩ := List.mem_map.mp (mem_runs.mp survey).2
  obtain ⟨names, _, there⟩ := List.mem_map.mp (mem_runs.mp software).2
  have servers := congrArg (fun cell => cell.2.1) (here.trans there.symm)
  exact Option.some_ne_none _ servers.symm

/-- The survey and the comparison of the packaged servers are one plan. -/
theorem v16Specs_plans : ∃ specs, V16.v16Specs environ repetitions = .ok specs ∧
    Plans surveyCell (surveyCells ++ softwareCells) repetitions specs := by
  rw [v16Specs_eq]
  apply runs_plans (nodup_surveyRuns repetitions) (mem_surveyRuns repetitions)
  intro repetition cell member
  exact v16Build_returns environ repetition (List.mem_append_left _ member)

/-- The direct runs of the default clients are a plan. -/
theorem v16DirectSpecs_plans : ∃ specs, V16.v16DirectSpecs environ repetitions = .ok specs ∧
    Plans surveyCell (directCells) repetitions specs := by
  have shape : V16.v16DirectSpecs environ repetitions =
      ((repetitionRange repetitions.toNat ×ˢ directCells).map
        (v16Build environ)).mapM id := by
    rw [V16.v16DirectSpecs, map_pairs]
    simp only [directCells, List.map_map, map_pairs]
    rfl
  rw [shape]
  apply loop_plans repetitions (nodup_pairs _ (by decide))
  intro repetition cell member
  exact v16Build_returns environ repetition (List.mem_append_right _ member)

end Lists

/-- The split of a condition gives back the two names that the specification is built from. -/
structure ConditionsSplit (environ : Dict String String) : Prop where
  setting : ∀ version setting repetition paths groups spec,
    V12.v12Spec environ version setting repetition paths groups = .ok spec →
      V12.splitCondition spec.condition = .ok (version, setting)
  client : ∀ server client repetition spec,
    V15.v15Spec environ server client repetition = .ok spec →
      V12.splitCondition spec.condition = .ok (server, client)
  software : ∀ server client repetition spec,
    V16.serverSpec environ server client repetition = .ok spec →
      V16.conditionNames spec.faultType spec.condition = .ok (some server, client)
  direct : ∀ server client repetition spec,
    V16.directSpec environ server client repetition = .ok spec →
      V16.conditionNames spec.faultType spec.condition = .ok (some server, client)

theorem surveyCell_eq_ok (impl : String) {fault condition part : String} {names : Option String × String}
    (cell : surveyCell impl fault condition = .ok (part, names)) :
    V16.conditionNames fault condition = .ok names := by
  unfold surveyCell at cell
  cases found : V16.conditionNames fault condition with
  | error error =>
      rw [found] at cell
      cases cell
  | ok pair =>
      rw [found] at cell
      cases cell
      rfl

theorem conditionsSplit (environ : Dict String String) : ConditionsSplit environ := by
  constructor
  · intro version setting repetition paths groups spec built
    exact congrArg Prod.snd (v12Spec_builds built).run
  · intro server client repetition spec built
    exact congrArg Prod.snd (v15Spec_builds built).run
  · intro server client repetition spec built
    exact surveyCell_eq_ok spec.impl (congrArg Prod.snd (serverSpec_builds built).run)
  · intro server client repetition spec built
    exact surveyCell_eq_ok spec.impl (congrArg Prod.snd (directSpec_builds built).run)

/-- Every planned run of the specification lists has its own identity. The lists with chosen
labels can be built for the known labels. -/
theorem specs_identified (environ : Dict String String) (repetitions : Int)
    {versions settings : List String} {selected : Option (List String)} (servers : versions.Nodup)
    (distinct : settings.Nodup) (compared : (selected.getD []).Nodup) :
    ConditionsSplit environ ∧
    (∃ specs, Run.batchSpecs repetitions environ = .ok specs ∧
      Plans batchCell batchCells repetitions specs) ∧
    (∃ specs, Run.v11Specs repetitions environ = .ok specs ∧
      Plans conditionCell v11Cells repetitions specs) ∧
    (∀ paths groups specs,
      V12.v12Specs environ repetitions settings paths versions groups = .ok specs →
        Plans splitCell (versions ×ˢ settings) repetitions specs) ∧
    ((∀ version ∈ versions, version ∈ versionNames) →
      (∀ setting ∈ settings, setting ∈ settingNames) → ∀ groups, ∃ specs,
        V12.v12Specs environ repetitions settings none versions groups = .ok specs) ∧
    (∀ specs, V15.v15Specs environ repetitions selected = .ok specs →
      Plans splitCell (selectedServers selected ×ˢ fixedClients) repetitions specs) ∧
    ((∀ server ∈ selectedServers selected, server ∈ serverNames) →
      ∃ specs, V15.v15Specs environ repetitions selected = .ok specs) ∧
    (∃ specs, V16.v16Specs environ repetitions = .ok specs ∧
      Plans surveyCell (surveyCells ++ softwareCells) repetitions specs) ∧
    ∃ specs, V16.v16DirectSpecs environ repetitions = .ok specs ∧
      Plans surveyCell (directCells) repetitions specs :=
  ⟨conditionsSplit environ, batchSpecs_plans environ repetitions,
    v11Specs_plans environ repetitions,
    fun _ groups _ built => v12Specs_plans environ repetitions groups servers distinct built,
    fun known named groups => v12Specs_return environ repetitions groups known named,
    fun _ built => v15Specs_plans environ repetitions (nodup_selectedServers compared) built,
    fun known => v15Specs_return environ repetitions known, v16Specs_plans environ repetitions,
    v16DirectSpecs_plans environ repetitions⟩

theorem specs_identified_sample :
    (V12.variantServers.Nodup ∧ V12.requiredSettings.Nodup ∧
      ((some ["openssl-S1", "openssl-S1-serverpref"]).getD []).Nodup) ∧
    ∃ specs, V12.v12Specs .empty 100 V12.requiredSettings none V12.variantServers = .ok specs ∧
      Plans splitCell (V12.variantServers ×ˢ V12.requiredSettings) 100 specs := by
  have servers : V12.variantServers.Nodup := by decide
  have settings : V12.requiredSettings.Nodup := by decide
  have compared : ((some ["openssl-S1", "openssl-S1-serverpref"]).getD []).Nodup := by decide
  obtain ⟨_, _, _, plans, returned, _⟩ := specs_identified .empty 100 servers settings compared
  obtain ⟨specs, built⟩ := returned (by decide) (by decide) V12.clientGroups
  exact ⟨⟨servers, settings, compared⟩, specs, built, plans none V12.clientGroups specs built⟩

end FaultInject.Identity
