import FaultInject.Proof.Evidence
import FaultInject.Proof.Scan

namespace FaultInject.Run
open Python Harness FaultBinding SshKexinit TlsClientHello PcapHello

/-- The mutator returns on every chunk and with every run directory. -/
def Returns (mutate : Mutator) : Prop := ∀ data runDir, ∃ result, mutate data runDir = .ok result

/-- A logged mutation returns when its transform raises only value errors. -/
theorem returns_logMutation (event path groupId : String) {transform : Bytes → Result Bytes}
    (only : ∀ data, OnlyValueErrors (transform data)) :
    Returns (logMutation event path groupId transform) := by
  intro data runDir
  exact ⟨_, logMutation_eq event path groupId only data runDir⟩

/-- The binding mutator of every implementation returns. -/
theorem returns_loggedMutator {impl : String} {paths : Dict String String} {values : Binding}
    (chosen : binding impl paths = .ok values) (path : String) :
    Returns (loggedMutator path values.groupId values.transform) :=
  returns_logMutation _ path _ (binding_values chosen).2.2

/-- The strip mutator of every implementation returns. -/
theorem returns_stripMutate {impl : String} {values : Strip} (chosen : strip impl = .ok values)
    (path : String) : Returns (stripMutate path values.groupId values.transform) :=
  returns_logMutation _ path _ (strip_values chosen).2.2

/-- A group of the table has a PQ component. -/
theorem lookup_pqComponents {groupId : Nat} (listed : groupId ∈ pqComponents.map Prod.fst) :
    (pqComponents.lookup groupId).isSome = true := by
  simp only [pqComponents, List.map_cons, List.map_nil, List.mem_cons, List.not_mem_nil,
    or_false] at listed
  rcases listed with rfl | rfl <;> decide

/-- The byte parsers raise only value errors, and their callers raise nothing. -/
theorem parsers_onlyValueErrors :
    (∀ record, OnlyValueErrors (findKeyShare record)) ∧
    (∀ record groupId, OnlyValueErrors (stripHybrid record groupId)) ∧
    (∀ record groupId, groupId ∈ pqComponents.map Prod.fst →
      OnlyValueErrors (forgePqComponent record groupId)) ∧
    (∀ record, OnlyValueErrors (clientHello record)) ∧
    (∀ record : Bytes, 6 ≤ record.length → OnlyValueErrors (serverHello record)) ∧
    (∀ packet, OnlyValueErrors (forgeSshPqComponent packet)) ∧
    (∀ packet, OnlyValueErrors (kexinitAlgorithms packet)) ∧
    (∀ packet algorithm, OnlyValueErrors (stripKexinitAlgorithm packet algorithm)) ∧
    (∀ impl paths values path, binding impl paths = .ok values →
      Returns (loggedMutator path values.groupId values.transform)) ∧
    (∀ impl values path, strip impl = .ok values →
      Returns (stripMutate path values.groupId values.transform)) ∧
    (∀ capture, ∃ summary, summarizeHellos capture = .ok summary) := by
  refine ⟨findKeyShare_onlyValueErrors, stripHybrid_onlyValueErrors, ?_, clientHello_onlyValueErrors,
    ?_, forgeSshPqComponent_onlyValueErrors, kexinitAlgorithms_onlyValueErrors,
    stripKexinitAlgorithm_onlyValueErrors, ?_, ?_, ?_⟩
  · intro record groupId listed
    exact forgePqComponent_onlyValueErrors record (lookup_pqComponents listed)
  · intro record long
    exact serverHello_onlyValueErrors long
  · intro impl paths values path chosen
    exact returns_loggedMutator chosen path
  · intro impl values path chosen
    exact returns_stripMutate chosen path
  · intro capture
    exact ⟨_, summarizeHellos_eq capture⟩

theorem parsers_onlyValueErrors_sample : OnlyValueErrors (forgePqComponent [0x16] 0x11EC) ∧
    OnlyValueErrors (serverHello [0x16, 0x03, 0x03, 0x00, 0x01, 0x02]) ∧
    Returns (stripMutate "proxy.log" "0x11ec" fun data => stripHybrid data 0x11EC) := by
  obtain ⟨_, _, forge, _, server, _, _, _, _, strip, _⟩ := parsers_onlyValueErrors
  have group : s!"0x{formatHex 4 0x11EC}" = "0x11ec" := by decide
  refine ⟨forge _ _ (by decide), server _ (by decide), ?_⟩
  rw [← group]
  exact strip "openssl" _ "proxy.log" rfl

end FaultInject.Run
