import FaultInject.Proof.Evidence

namespace FaultInject.Run
open Python Record Harness Conditions FaultBinding VerifyApplied MutationLog MitmProxy

/-- A log that earlier runs left is missing or has whole lines. -/
def WholeLog (prior : Option File) : Prop :=
  ∀ file, prior = some file → ∃ text, file = .text text ∧ WholeLines text

/-- The log has a line that the verification accepts. -/
def hasMutation (spec : ScenarioSpec) : Option File → Bool
  | some (.text text) => (splitlines text).any (isMutation spec)
  | _ => false

/-- This is the value of `manipulation_verified` when the verification returns. -/
def assigned (result : Result (RunRecord × Directory)) : Option Bool :=
  (result.map fun returned => returned.1.manipulationVerified).toOption

section Log
variable {spec : ScenarioSpec} {event groupId : String} {transform : Bytes → Result Bytes}
  {forge : Bytes → Bytes} {mutate : Mutator}

/-- The byte result of the mutation is the result of its transformation. -/
theorem LogsMutation.forge_eq (logs : LogsMutation spec event groupId transform)
    (mutates : spec.proxyMutate = some mutate) (computes : Computes mutate forge) :
    forge = forgeOf transform := by
  rw [logs.mutate] at mutates
  cases mutates
  funext data
  obtain ⟨after, returned⟩ := computes data .empty
  rw [logMutation_eq _ _ _ logs.only] at returned
  exact (congrArg Prod.fst (Except.ok.inj returned)).symm

/-- The verdict on an extended log is that of the prior log or that of the new line. -/
theorem LogsMutation.logVerdict_appended (logs : LogsMutation spec event groupId transform)
    {prior : Option File} (whole : WholeLog prior) (data forged : Bytes) :
    logVerdict spec
        (some (.appended prior (mutationLine event groupId data forged ++ "\n"))) =
      .ok (hasMutation spec prior || (Sha256.hexdigest data != Sha256.hexdigest forged)) := by
  have single := oneLine_mutationLine data forged logs.plainEvent logs.plainGroup
  have read (text : String) (lines : WholeLines text) :
      (splitlines (text ++ (mutationLine event groupId data forged ++ "\n"))).any
        (isMutation spec) = ((splitlines text).any (isMutation spec) ||
          (Sha256.hexdigest data != Sha256.hexdigest forged)) := by
    rw [← String.append_assoc, splitlines_append lines single, List.any_append, List.any_cons,
      List.any_nil, Bool.or_false, logs.recognized]
  cases prior with
  | none =>
      have empty := read "" (.inl rfl)
      rw [String.empty_append, splitlines_empty, List.any_nil] at empty
      rw [logVerdict, File.appended, File.readText, ok_bind, splitlines_translate, empty]
      rfl
  | some file =>
      obtain ⟨text, rfl, lines⟩ := whole file rfl
      rw [logVerdict, File.appended, File.readText, ok_bind, splitlines_translate, read text lines]
      rfl

/-- The verdict on a log without a new line is that of the prior log. -/
theorem logVerdict_prior {prior : Option File} (whole : WholeLog prior) :
    (logVerdict spec prior).toOption = prior.map fun _ => hasMutation spec prior := by
  cases prior with
  | none => rfl
  | some file =>
      obtain ⟨text, rfl, _⟩ := whole file rfl
      rw [logVerdict, File.readText, ok_bind, splitlines_translate]
      rfl

/-- The assigned value depends on the prior log and on the first effective mutation. -/
theorem LogsMutation.assigned_eq (logs : LogsMutation spec event groupId transform)
    (evidence : Evidence) {outcome : Outcome} {outDir : Directory}
    {result : Result (RunRecord × Directory)} (whole : WholeLog (outDir.get? (proxyLogOf spec)))
    (ran : runVerified evidence spec outcome outDir = some result) :
    assigned result =
      match firstChanged (forgeOf transform) (chunks .client outcome.events) with
      | some chunk => some (hasMutation spec (outDir.get? (proxyLogOf spec)) ||
          (Sha256.hexdigest chunk != Sha256.hexdigest (forgeOf transform chunk)))
      | none => (outDir.get? (proxyLogOf spec)).map fun _ =>
          hasMutation spec (outDir.get? (proxyLogOf spec)) := by
  obtain ⟨log, same, verdict, _⟩ := logs.runVerified_eq evidence ran
  rw [assigned, verdict, same, logAfter]
  cases firstChanged (forgeOf transform) (chunks .client outcome.events) with
  | none => exact logVerdict_prior whole
  | some chunk =>
      dsimp only
      rw [logs.logVerdict_appended whole]
      rfl

/-- A run that starts with a log that earlier runs left leaves such a log. -/
theorem LogsMutation.runVerified_wholeLog (logs : LogsMutation spec event groupId transform)
    (evidence : Evidence) {outcome : Outcome} {outDir after : Directory} {record : RunRecord}
    (whole : WholeLog (outDir.get? (proxyLogOf spec)))
    (ran : runVerified evidence spec outcome outDir = some (.ok (record, after))) :
    WholeLog (after.get? (proxyLogOf spec)) := by
  obtain ⟨log, same, _, left⟩ := logs.runVerified_eq evidence ran
  rw [left record after rfl, same, logAfter]
  split
  · intro file appended
    cases appended
    have ends (text : String) : (text ++ "\n").toList.getLast? = some '\n' := by
      rw [String.toList_append]
      exact List.getLast?_concat ..
    cases prior : outDir.get? (proxyLogOf spec) with
    | none => exact ⟨_, rfl, .inr (ends _)⟩
    | some file =>
        obtain ⟨text, rfl, _⟩ := whole file prior
        refine ⟨_, rfl, .inr ?_⟩
        rw [← String.append_assoc]
        exact ends _
  · exact whole

end Log

section Fresh
variable {impl : String} {rep : Int} {env paths : Dict String String} {spec : ScenarioSpec}
  {mutate : Mutator} {forge : Bytes → Bytes} {log : String}

/-- Every planned scenario with a proxy logs its mutation under the name in its plan. -/
theorem exists_logsMutation (planned : bindingSpec impl rep env paths = .ok spec ∨
      stripSpec impl rep env paths = .ok spec) (logged : spec.proxyLog = some log) :
    ∃ event groupId transform, LogsMutation spec event groupId transform ∧
      log = proxyLogOf spec := by
  obtain ⟨event, groupId, transform, logs⟩ := planned.elim bindingSpec_logsMutation
    stripSpec_logsMutation
  exact ⟨event, groupId, transform, logs, Option.some.inj (logged.symm.trans logs.log)⟩

/-- The prior logs give one value other than true exactly when both have no mutation
and both or none exist. -/
theorem agree_of_unchanged {first second : Option File} :
    (first.map (fun _ => hasMutation spec first) = second.map (fun _ => hasMutation spec second) ∧
      first.map (fun _ => hasMutation spec first) ≠ some true ∧
      second.map (fun _ => hasMutation spec second) ≠ some true) ↔
      hasMutation spec first = false ∧ hasMutation spec second = false ∧
        first.isSome = second.isSome := by
  cases first with
  | none => cases second <;> simp [hasMutation]
  | some first =>
      cases second with
      | none => simp [hasMutation]
      | some second =>
          cases hasMutation spec (some first) <;> cases hasMutation spec (some second) <;> simp

/-- In a directory without the proxy log the verification of a run returns the right value
exactly when some chunk is changed. -/
theorem verifyRecord_fresh_iff
    (planned : bindingSpec impl rep env paths = .ok spec ∨ stripSpec impl rep env paths = .ok spec)
    (mutates : spec.proxyMutate = some mutate) (computes : Computes mutate forge)
    (logged : spec.proxyLog = some log) {outDir : Directory} (fresh : outDir.get? log = none)
    (evidence : Evidence) {outcome : Outcome} {result : Result (RunRecord × Directory)}
    (ran : runVerified evidence spec outcome outDir = some result)
    (apart : ∀ chunk, firstChanged forge (chunks .client outcome.events) = some chunk →
      Sha256.hexdigest chunk ≠ Sha256.hexdigest (forge chunk)) :
    (∃ record after, result = .ok (record, after) ∧ (record.manipulationVerified = true ↔
        ∃ chunk ∈ chunks .client outcome.events, forge chunk ≠ chunk)) ↔
      ∃ chunk ∈ chunks .client outcome.events, forge chunk ≠ chunk := by
  obtain ⟨event, groupId, transform, logs, rfl⟩ := exists_logsMutation planned logged
  have whole : WholeLog (outDir.get? (proxyLogOf spec)) := by
    intro file present
    rw [fresh] at present
    cases present
  have value := logs.assigned_eq evidence whole ran
  rw [← logs.forge_eq mutates computes, fresh] at value
  cases found : firstChanged forge (chunks .client outcome.events) with
  | none =>
      have unchanged := firstChanged_eq_none.mp found
      rw [found] at value
      refine iff_of_false ?_ unchanged
      rintro ⟨record, after, rfl, _⟩
      cases value
  | some chunk =>
      have changed := changesSome_of_firstChanged found
      rw [found] at value
      refine iff_of_true ?_ changed
      cases result with
      | error error => cases value
      | ok returned =>
          refine ⟨returned.1, returned.2, rfl, iff_of_true ?_ changed⟩
          have verified : returned.1.manipulationVerified =
              (false || (Sha256.hexdigest chunk != Sha256.hexdigest (forge chunk))) :=
            Option.some.inj value
          rw [verified, Bool.false_or, bne_iff_ne]
          exact apart chunk found

end Fresh

/-- These paths, tools, and programs give a scenario with OpenSSH. -/
def samplePaths : Dict String String :=
  [("sshd_bin", "sshd"), ("sshd_config", "sshd_config"), ("ssh_bin", "ssh"),
    ("ssh_key", "key")].foldl (fun paths entry => paths.set entry.1 entry.2) .empty

def sampleEvidence : Evidence := ⟨fun _ _ => .ok ⟨0, "", ""⟩, fun _ => none⟩

def sampleOutcome (events : List Event) : Outcome :=
  ⟨.text "", .text "", .bytes [], events, "", 255⟩

def sampleSpec : ScenarioSpec := (stripSpec "openssh" 1 .empty samplePaths).toOption.get rfl

/-- This packet offers the hybrid algorithm and one more. -/
def sampleKexinit : Bytes :=
  [0, 0, 0, 62, 4, 20] ++ List.replicate 16 0 ++ [0, 0, 0, 36] ++
    asciiBytes "sntrup761x25519-sha512@openssh.com,a" ++ List.replicate 4 0

def sampleForge : Bytes → Bytes :=
  forgeOf fun data =>
    SshKexinit.stripKexinitAlgorithm data "sntrup761x25519-sha512@openssh.com"

theorem sampleKexinit_changed : sampleForge sampleKexinit ≠ sampleKexinit := by
  decide +kernel

theorem sampleKexinit_apart :
    Sha256.hexdigest sampleKexinit ≠ Sha256.hexdigest (sampleForge sampleKexinit) := by
  decide +kernel

theorem chunks_sampleKexinit : chunks .client [.recv .client sampleKexinit] = [sampleKexinit] :=
  chunks_self (by decide)

theorem sampleSpec_planned : stripSpec "openssh" 1 .empty samplePaths = .ok sampleSpec := rfl

theorem sampleSpec_computes : Computes (stripMutate "openssh_condition_r01_onpath-strip-proxy.log"
    "sntrup761x25519-sha512@openssh.com" fun data =>
      SshKexinit.stripKexinitAlgorithm data "sntrup761x25519-sha512@openssh.com") sampleForge :=
  fun data runDir => ⟨_, logMutation_eq _ _ _ (fun data =>
    SshKexinit.stripKexinitAlgorithm_onlyValueErrors data _) data runDir⟩

theorem verifyRecord_fresh_iff_sample : ∃ result record after,
    runVerified sampleEvidence sampleSpec (sampleOutcome [.recv .client sampleKexinit]) .empty =
      some result ∧
    result = .ok (record, after) ∧ record.manipulationVerified = true := by
  have possible : (runVerified sampleEvidence sampleSpec
      (sampleOutcome [.recv .client sampleKexinit]) .empty).isSome = true := by decide +kernel
  obtain ⟨result, ran⟩ := Option.isSome_iff_exists.mp possible
  have changed : ∃ chunk ∈ chunks .client [.recv .client sampleKexinit],
      sampleForge chunk ≠ chunk := by
    rw [chunks_sampleKexinit]
    exact ⟨sampleKexinit, List.mem_singleton_self _, sampleKexinit_changed⟩
  have verdict := verifyRecord_fresh_iff (.inr sampleSpec_planned) rfl sampleSpec_computes rfl rfl
    sampleEvidence ran (by
      intro chunk found
      have member := List.mem_of_find?_eq_some found
      rw [sampleOutcome, chunks_sampleKexinit, List.mem_singleton] at member
      rw [member]
      exact sampleKexinit_apart)
  obtain ⟨record, after, same, verified⟩ := verdict.mpr changed
  exact ⟨result, record, after, ran, same, verified.mpr changed⟩

/-- Without a client the verification raises an error instead of returning a value. -/
theorem verifyRecord_fresh_silent : ∃ result,
    runVerified sampleEvidence sampleSpec (sampleOutcome []) .empty = some result ∧
    ¬∃ record after, result = .ok (record, after) ∧ (record.manipulationVerified = true ↔
      ∃ chunk ∈ chunks .client (sampleOutcome []).events, sampleForge chunk ≠ chunk) := by
  have raised : (runVerified sampleEvidence sampleSpec (sampleOutcome []) .empty).map
      (fun result => result.map fun returned => returned.1.manipulationVerified) =
      some (.error (.fileNotFoundError "openssh_condition_r01_onpath-strip-proxy.log")) := by
    decide +kernel
  obtain ⟨result, ran, error⟩ := Option.map_eq_some_iff.mp raised
  refine ⟨result, ran, ?_⟩
  rintro ⟨record, after, rfl, _⟩
  cases error

section Prior
variable {impl : String} {rep : Int} {env paths : Dict String String} {spec : ScenarioSpec}
  {mutate : Mutator} {forge : Bytes → Bytes} {log : String}

/-- Two runs with the same chunks get the same value, and no unchanged run counts as verified,
exactly when the new line decides the verdict or the prior logs agree. -/
theorem verifyRecord_prior_iff
    (planned : bindingSpec impl rep env paths = .ok spec ∨ stripSpec impl rep env paths = .ok spec)
    (mutates : spec.proxyMutate = some mutate) (computes : Computes mutate forge)
    (logged : spec.proxyLog = some log) {first second : Directory}
    (firstLog : WholeLog (first.get? log)) (secondLog : WholeLog (second.get? log))
    (evidence : Evidence) {firstOutcome secondOutcome : Outcome}
    {firstResult secondResult : Result (RunRecord × Directory)}
    (firstRan : runVerified evidence spec firstOutcome first = some firstResult)
    (secondRan : runVerified evidence spec secondOutcome second = some secondResult)
    (same : chunks .client firstOutcome.events = chunks .client secondOutcome.events) :
    (assigned firstResult = assigned secondResult ∧
      ((∀ chunk ∈ chunks .client firstOutcome.events, forge chunk = chunk) →
        assigned firstResult ≠ some true ∧ assigned secondResult ≠ some true)) ↔
      match firstChanged forge (chunks .client firstOutcome.events) with
      | some chunk => Sha256.hexdigest chunk ≠ Sha256.hexdigest (forge chunk) ∨
          hasMutation spec (first.get? log) = hasMutation spec (second.get? log)
      | none => hasMutation spec (first.get? log) = false ∧
          hasMutation spec (second.get? log) = false ∧
          ((first.get? log).isSome = (second.get? log).isSome) := by
  obtain ⟨event, groupId, transform, logs, rfl⟩ := exists_logsMutation planned logged
  have firstValue := logs.assigned_eq evidence firstLog firstRan
  have secondValue := logs.assigned_eq evidence secondLog secondRan
  rw [← logs.forge_eq mutates computes] at firstValue secondValue
  rw [← same] at secondValue
  cases found : firstChanged forge (chunks .client firstOutcome.events) with
  | some chunk =>
      have changed : ¬∀ chunk ∈ chunks .client firstOutcome.events, forge chunk = chunk := by
        intro unchanged
        obtain ⟨other, member, differs⟩ := changesSome_of_firstChanged found
        exact differs (unchanged other member)
      rw [found] at firstValue secondValue
      rw [firstValue, secondValue]
      simp only [changed, false_implies, and_true, Option.some.injEq]
      by_cases apart : Sha256.hexdigest chunk = Sha256.hexdigest (forge chunk)
      · simp [apart]
      · simp [apart, bne_iff_ne.mpr apart]
  | none =>
      have unchanged : ∀ chunk ∈ chunks .client firstOutcome.events, forge chunk = chunk := by
        simpa [ChangesSome] using firstChanged_eq_none.mp found
      rw [found] at firstValue secondValue
      rw [firstValue, secondValue]
      exact (and_congr_right fun _ => forall_prop_of_true unchanged).trans agree_of_unchanged

end Prior

/-- This directory has the log of an earlier run. -/
def sampleUsed : Directory :=
  Dict.empty.set (proxyLogOf sampleSpec) (.text
    (mutationLine "strip_mutation" "sntrup761x25519-sha512@openssh.com" sampleKexinit
      (sampleForge sampleKexinit) ++ "\n"))

theorem sampleUsed_whole : WholeLog (sampleUsed.get? (proxyLogOf sampleSpec)) := by
  intro file present
  rw [sampleUsed, Dict.get?_set, if_pos rfl] at present
  cases present
  refine ⟨_, rfl, .inr ?_⟩
  rw [String.toList_append]
  exact List.getLast?_concat ..

theorem verifyRecord_prior_iff_sample : ∃ first second,
    runVerified sampleEvidence sampleSpec (sampleOutcome [.recv .client sampleKexinit]) sampleUsed =
      some first ∧
    runVerified sampleEvidence sampleSpec (sampleOutcome [.recv .client sampleKexinit]) .empty =
      some second ∧
    assigned first = assigned second := by
  have used : (runVerified sampleEvidence sampleSpec
      (sampleOutcome [.recv .client sampleKexinit]) sampleUsed).isSome = true := by decide +kernel
  have fresh : (runVerified sampleEvidence sampleSpec
      (sampleOutcome [.recv .client sampleKexinit]) .empty).isSome = true := by decide +kernel
  obtain ⟨first, firstRan⟩ := Option.isSome_iff_exists.mp used
  obtain ⟨second, secondRan⟩ := Option.isSome_iff_exists.mp fresh
  have missing : WholeLog ((.empty : Directory).get? (proxyLogOf sampleSpec)) := by
    intro file present
    cases present
  have found : firstChanged sampleForge
      (chunks .client (sampleOutcome [.recv .client sampleKexinit]).events) = some sampleKexinit := by
    rw [sampleOutcome, chunks_sampleKexinit, firstChanged]
    exact List.find?_cons_of_pos (bne_iff_ne.mpr sampleKexinit_changed)
  have verdict := verifyRecord_prior_iff (.inr sampleSpec_planned) rfl sampleSpec_computes rfl
    sampleUsed_whole missing sampleEvidence firstRan secondRan rfl
  rw [found] at verdict
  exact ⟨first, second, firstRan, secondRan, (verdict.mpr (.inl sampleKexinit_apart)).1⟩

theorem sampleUsed_hasMutation :
    hasMutation sampleSpec (sampleUsed.get? (proxyLogOf sampleSpec)) = true := by
  have line := splitlines_append (.inl rfl)
    (oneLine_mutationLine sampleKexinit (sampleForge sampleKexinit) plain_stripMutation plain_openssh)
  rw [String.empty_append, splitlines_empty, List.nil_append] at line
  have test := isStripMutation_mutationLine sampleKexinit (sampleForge sampleKexinit) plain_openssh
  rw [bne_iff_ne.mpr sampleKexinit_apart] at test
  rw [sampleUsed, Dict.get?_set, if_pos rfl, hasMutation, line]
  exact List.any_eq_true.mpr ⟨_, List.mem_singleton_self _, test⟩

/-- The log of an earlier run makes a run without a client count as verified. -/
theorem verifyRecord_prior_silent : ∃ first second,
    runVerified sampleEvidence sampleSpec (sampleOutcome []) sampleUsed = some first ∧
    runVerified sampleEvidence sampleSpec (sampleOutcome []) .empty = some second ∧
    ¬(assigned first = assigned second ∧
      ((∀ chunk ∈ chunks .client (sampleOutcome []).events, sampleForge chunk = chunk) →
        assigned first ≠ some true ∧ assigned second ≠ some true)) := by
  have used : (runVerified sampleEvidence sampleSpec (sampleOutcome []) sampleUsed).isSome = true := by
    decide +kernel
  have fresh : (runVerified sampleEvidence sampleSpec (sampleOutcome []) .empty).isSome = true := by
    decide +kernel
  obtain ⟨first, firstRan⟩ := Option.isSome_iff_exists.mp used
  obtain ⟨second, secondRan⟩ := Option.isSome_iff_exists.mp fresh
  obtain ⟨_, _, _, logs⟩ := stripSpec_logsMutation sampleSpec_planned
  have value := logs.assigned_eq sampleEvidence sampleUsed_whole firstRan
  have verified : assigned first = some true := by
    refine value.trans (Eq.trans ?_ (congrArg some sampleUsed_hasMutation))
    rfl
  exact ⟨first, second, firstRan, secondRan, fun agree => (agree.2 (by simp [sampleOutcome])).1 verified⟩

end FaultInject.Run
