import FaultInject.Proof.Classification

/-
This file compares the evaluations of captures with different hybrid codes.
-/

namespace FaultInject.V18
open Python Record Harness PcapHello V16

/-- These codes of ML-KEM hybrids have no name. -/
def UnnamedHybrid (code : Nat) : Prop := code = 0x11EB ∨ code = 0x11ED

/-- These are the codes of the ML-KEM hybrids that clients advertise. -/
def MlKemHybrid (code : Nat) : Prop := code = 0x11EC ∨ UnnamedHybrid code

/-- The other code is the code, or the code 0x11EB or 0x11ED of a hybrid in place of 0x11EC. -/
def ReplacedCode (code other : Nat) : Prop :=
  other = code ∨ code = 0x11EC ∧ UnnamedHybrid other

/-- Codes of the messages are replaced at any places. -/
structure ReplacedSummary (summary other : HelloSummary) : Prop where
  clients : List.Forall₂ (fun hello next => List.Forall₂ ReplacedCode hello.1 next.1 ∧
    List.Forall₂ ReplacedCode hello.2 next.2) summary.clientHellos other.clientHellos
  servers : List.Forall₂ (fun hello next => next.1 = hello.1 ∧
    Option.Rel ReplacedCode hello.2 next.2) summary.serverHellos other.serverHellos

/-- A hybrid code stays among the groups and the shares, and a hybrid first group stays first. -/
structure KeepsHybrids (groups others shares otherShares : List Nat) : Prop where
  group : ∃ code ∈ others, HybridGroup code
  first : ∀ code, groups.head? = some code → HybridGroup code → others.head? = some code
  share : (∃ code ∈ shares, HybridGroup code) → ∃ code ∈ otherShares, HybridGroup code

section Codes
variable {code other : Nat} {codes others : List Nat}

/-- A replaced code has no hybrid name. -/
theorem ReplacedCode.eq_of_hybrid (replaced : ReplacedCode code other)
    (hybrid : HybridGroup other) : other = code := by
  rcases replaced with same | ⟨_, rfl | rfl⟩
  · exact same
  · rcases hybrid with named | named <;> cases named
  · rcases hybrid with named | named <;> cases named

theorem any_isHybridCode : codes.any isHybridCode = true ↔ ∃ code ∈ codes, HybridGroup code := by
  simp [List.any_eq_true, isHybridCode]

theorem firstIsHybrid_iff :
    firstIsHybrid codes = true ↔ ∃ code, codes.head? = some code ∧ HybridGroup code := by
  simp [firstIsHybrid, Option.any_eq_true, isHybridCode]

/-- A property that a replacement does not introduce was there before. -/
theorem exists_of_replaced {test : Nat → Prop}
    (kept : ∀ code other, ReplacedCode code other → test other → test code)
    (replaced : List.Forall₂ ReplacedCode codes others) (found : ∃ code ∈ others, test code) :
    ∃ code ∈ codes, test code := by
  induction replaced with
  | nil => exact found
  | cons related _ ih =>
      obtain ⟨other, member, holds⟩ := found
      rcases List.mem_cons.mp member with rfl | behind
      · exact ⟨_, List.mem_cons_self, kept _ _ related holds⟩
      · obtain ⟨code, before, same⟩ := ih ⟨other, behind, holds⟩
        exact ⟨code, List.mem_cons_of_mem _ before, same⟩

theorem hybrid_of_replaced (replaced : List.Forall₂ ReplacedCode codes others)
    (found : ∃ code ∈ others, HybridGroup code) : ∃ code ∈ codes, HybridGroup code := by
  refine exists_of_replaced (fun code other related hybrid => ?_) replaced found
  exact related.eq_of_hybrid hybrid ▸ hybrid

theorem mlKem_of_replaced (replaced : List.Forall₂ ReplacedCode codes others)
    (found : ∃ code ∈ others, MlKemHybrid code) : ∃ code ∈ codes, MlKemHybrid code := by
  refine exists_of_replaced (fun code other related hybrid => ?_) replaced found
  rcases related with same | ⟨moved, _⟩
  · exact same ▸ hybrid
  · exact .inl moved

/-- A list without named and unnamed hybrids has no ML-KEM hybrid. -/
theorem not_mlKem (none : ∀ code ∈ codes, ¬HybridGroup code ∧ ¬UnnamedHybrid code) :
    ¬∃ code ∈ codes, MlKemHybrid code := by
  rintro ⟨code, member, moved | unnamed⟩
  · exact (none code member).1 (.inl moved)
  · exact (none code member).2 unnamed

/-- A hybrid first code after a replacement is the first code before. -/
theorem head?_of_replaced (replaced : List.Forall₂ ReplacedCode codes others)
    (head : others.head? = some other) (hybrid : HybridGroup other) : codes.head? = some other := by
  cases replaced with
  | nil => cases head
  | cons related _ =>
      rw [List.head?_cons, Option.some.injEq] at head
      subst head
      rw [List.head?_cons, related.eq_of_hybrid hybrid]

end Codes

/-- Two classes are equal exactly when no group was hybrid or the three flags stay. -/
theorem classOf_shrunk_iff {advertised first sent still next again : Bool}
    (known : first = true → advertised = true)
    (group : still = true → advertised = true) (head : next = true → first = true)
    (share : again = true → sent = true) :
    classOf still next again = classOf advertised first sent ↔
      advertised = false ∨ still = true ∧ (first = true → next = true) ∧
        (sent = true → again = true) := by
  cases advertised <;> cases first <;> cases sent <;> cases still <;> cases next <;> cases again <;>
    simp_all [classOf]

section Summary
variable {summary other : HelloSummary}

/-- The last values of two related lists are related. -/
theorem getLast?_rel {A : Type} {related : A → A → Prop} {first second : List A}
    (pairs : List.Forall₂ related first second) :
    Option.Rel related first.getLast? second.getLast? := by
  induction pairs with
  | nil => exact .none
  | @cons value next first second pair _ ih =>
      rw [List.getLast?_cons, List.getLast?_cons]
      apply Option.Rel.some
      generalize first.getLast? = last at ih ⊢
      generalize second.getLast? = final at ih ⊢
      cases ih with
      | none => exact pair
      | some ends => exact ends

/-- The first ClientHello has replaced groups and shares. -/
theorem ReplacedSummary.firstHello (replaced : ReplacedSummary summary other) :
    List.Forall₂ ReplacedCode (V16.firstHello (some summary)).1 (V16.firstHello (some other)).1 ∧
      List.Forall₂ ReplacedCode (V16.firstHello (some summary)).2
        (V16.firstHello (some other)).2 := by
  have clients := replaced.clients
  rw [V16.firstHello, V16.firstHello]
  generalize summary.clientHellos = hellos at clients ⊢
  generalize other.clientHellos = nexts at clients ⊢
  cases clients with
  | nil => exact ⟨.nil, .nil⟩
  | cons first _ => exact first

/-- The final group is the same or a replaced one. -/
theorem ReplacedSummary.finalGroup (replaced : ReplacedSummary summary other) :
    Option.Rel ReplacedCode summary.finalGroup other.finalGroup := by
  have selected : List.Forall₂ (Option.Rel ReplacedCode)
      ((summary.serverHellos.filter fun hello => !hello.1).map Prod.snd)
      ((other.serverHellos.filter fun hello => !hello.1).map Prod.snd) := by
    have servers := replaced.servers
    generalize summary.serverHellos = hellos at servers ⊢
    generalize other.serverHellos = nexts at servers ⊢
    induction servers with
    | nil => exact .nil
    | @cons hello next _ _ pair _ ih =>
        rw [List.filter_cons, List.filter_cons, pair.1]
        cases hello.1
        · exact .cons pair.2 ih
        · exact ih
  have last := getLast?_rel selected
  rw [HelloSummary.finalGroup, HelloSummary.finalGroup]
  generalize List.getLast? _ = first at last ⊢
  generalize List.getLast? _ = second at last ⊢
  cases last with
  | none => exact .none
  | some ends => exact ends

/-- These are the two metrics of the negotiated group. -/
theorem Evaluated.metrics {host : String → Option Bytes} {environ : Dict String String}
    {client server : String} {evaluated : RunRecord}
    (evaluation : Evaluated host environ client server summary evaluated) :
    evaluated.metrics.isHybrid = summary.finalGroup.any isHybridCode ∧
      evaluated.metrics.downgradeVisible =
        (summary.finalGroup.isSome && !summary.finalGroup.any isHybridCode) := by
  obtain ⟨metrics, _, same⟩ := evaluation.stores
  rw [same]
  show isHybridName (groupName summary.finalGroup) = _ ∧
    ((groupName summary.finalGroup).any (· ≠ "") && !isHybridName (groupName summary.finalGroup)) = _
  cases summary.finalGroup with
  | none => exact ⟨rfl, rfl⟩
  | some code =>
      have name : groupName (some code) = some (groupText code) := rfl
      have visible : groupText code ≠ "" := groupText_ne_empty code
      rw [name, isHybridName_groupText, Option.any_some, Option.any_some, decide_eq_true visible]
      exact ⟨rfl, rfl⟩

end Summary

section Replacement
variable {groups others shares otherShares : List Nat}

/-- The class is the same exactly when no group was hybrid or hybrid codes stay. -/
theorem classify_replaced_iff (groupCodes : List.Forall₂ ReplacedCode groups others)
    (shareCodes : List.Forall₂ ReplacedCode shares otherShares) :
    classify (groupNamesOf others) (groupNamesOf otherShares) =
        classify (groupNamesOf groups) (groupNamesOf shares) ↔
      (∀ code ∈ groups, ¬HybridGroup code) ∨ KeepsHybrids groups others shares otherShares := by
  by_cases empty : groups = []
  · subst empty
    cases groupCodes
    apply iff_of_true rfl
    exact .inl fun code member => absurd member List.not_mem_nil
  · have visible : others ≠ [] := by
      rintro rfl
      cases groupCodes
      exact empty rfl
    have group : others.any isHybridCode = true → groups.any isHybridCode = true := by
      rw [any_isHybridCode, any_isHybridCode]
      exact hybrid_of_replaced groupCodes
    have share : otherShares.any isHybridCode = true → shares.any isHybridCode = true := by
      rw [any_isHybridCode, any_isHybridCode]
      exact hybrid_of_replaced shareCodes
    have head : firstIsHybrid others = true → firstIsHybrid groups = true := by
      rw [firstIsHybrid_iff, firstIsHybrid_iff]
      intro ⟨code, found, hybrid⟩
      exact ⟨code, head?_of_replaced groupCodes found hybrid, hybrid⟩
    rw [classify_groupNamesOf visible, classify_groupNamesOf empty,
      classOf_shrunk_iff any_of_firstIsHybrid group head share]
    apply or_congr
    · rw [← Bool.not_eq_true, any_isHybridCode]
      simp only [not_exists, not_and]
    · rw [any_isHybridCode, any_isHybridCode, any_isHybridCode, firstIsHybrid_iff,
        firstIsHybrid_iff]
      constructor
      · intro ⟨kept, first, sent⟩
        refine ⟨kept, ?_, sent⟩
        intro code found hybrid
        obtain ⟨other, again, same⟩ := first ⟨code, found, hybrid⟩
        have before := head?_of_replaced groupCodes again same
        rw [found, Option.some.injEq] at before
        rw [before, again]
      · intro keeps
        refine ⟨keeps.group, ?_, keeps.share⟩
        intro ⟨code, found, hybrid⟩
        exact ⟨code, keeps.first code found hybrid, hybrid⟩

/-- A replaced final group has other metrics. -/
theorem finalGroup_eq_iff {first second : Option Nat} (related : Option.Rel ReplacedCode first second) :
    second.any isHybridCode = first.any isHybridCode ∧
        (second.isSome && !second.any isHybridCode) = (first.isSome && !first.any isHybridCode) ↔
      second = first := by
  cases related with
  | none => exact iff_of_true ⟨rfl, rfl⟩ rfl
  | @some code other replaced =>
      constructor
      · intro ⟨same, _⟩
        rcases replaced with kept | ⟨rfl, rfl | rfl⟩
        · rw [kept]
        · exact absurd same (by decide)
        · exact absurd same (by decide)
      · intro same
        rw [same]
        exact ⟨rfl, rfl⟩

/-- A client with an ML-KEM hybrid advertises a hybrid, and a connection with one is no visible
downgrade. -/
structure RecognizesHybrids (summary : HelloSummary) (evaluated : RunRecord) : Prop where
  advertised : (∃ code ∈ (firstHello (some summary)).1, MlKemHybrid code) →
    evaluated.provenance.get? "classification" ≠ some (.str "no-hybrid-advertisement")
  negotiated : ∀ code, summary.finalGroup = some code → MlKemHybrid code →
    evaluated.metrics.downgradeVisible = false

/-- The evaluations before and after a replacement are the same and recognize the hybrids. -/
structure KeepsEvaluation (summary otherSummary : HelloSummary) (plain other : RunRecord) :
    Prop where
  sameClass : other.provenance.get? "classification" = plain.provenance.get? "classification"
  sameHybrid : other.metrics.isHybrid = plain.metrics.isHybrid
  sameDowngrade : other.metrics.downgradeVisible = plain.metrics.downgradeVisible
  plain : RecognizesHybrids summary plain
  other : RecognizesHybrids otherSummary other

/-- A list without named hybrids has the class of a client without hybrids. -/
theorem classify_eq_unadvertised_iff (visible : groups ≠ []) (shares : List Nat) :
    classify (groupNamesOf groups) (groupNamesOf shares) = "no-hybrid-advertisement" ↔
      ¬∃ code ∈ groups, HybridGroup code := by
  rw [classify_groupNamesOf visible, ← any_isHybridCode, Bool.not_eq_true]
  cases groups.any isHybridCode <;> cases firstIsHybrid groups <;>
    cases shares.any isHybridCode <;> decide

section Recognition
variable {host : String → Option Bytes} {environ : Dict String String} {client server : String}
  {summary otherSummary : HelloSummary} {plain other evaluated : RunRecord}

/-- The hybrids are recognized exactly when a named one is advertised beside them, and the final
group has a name. -/
theorem Evaluated.recognizesHybrids_iff
    (evaluation : Evaluated host environ client server summary evaluated) :
    RecognizesHybrids summary evaluated ↔
      ((∃ code ∈ (firstHello (some summary)).1, MlKemHybrid code) →
        ∃ code ∈ (firstHello (some summary)).1, HybridGroup code) ∧
      ∀ code, summary.finalGroup = some code → ¬UnnamedHybrid code := by
  obtain ⟨_, stores, _⟩ := evaluation.stores
  have advertised : (∃ code ∈ (firstHello (some summary)).1, MlKemHybrid code) →
      (evaluated.provenance.get? "classification" ≠ some (.str "no-hybrid-advertisement") ↔
        ∃ code ∈ (firstHello (some summary)).1, HybridGroup code) := by
    rintro ⟨code, member, _⟩
    have unadvertised := classify_eq_unadvertised_iff (List.ne_nil_of_mem member)
      (firstHello (some summary)).2
    rw [stores.storedClass, ← not_iff_not, not_not, ← unadvertised]
    simp [labelsOf, Value.str]
  have negotiated (code : Nat) (final : summary.finalGroup = some code) :
      (MlKemHybrid code → evaluated.metrics.downgradeVisible = false) ↔ ¬UnnamedHybrid code := by
    rw [evaluation.metrics.2, final, Option.isSome_some, Option.any_some, Bool.true_and,
      Bool.not_eq_false', isHybridCode, decide_eq_true_iff]
    constructor
    · rintro recognized (rfl | rfl)
      · exact absurd (recognized (.inr (.inl rfl))) (by decide)
      · exact absurd (recognized (.inr (.inr rfl))) (by decide)
    · exact fun named hybrid => .inl (hybrid.resolve_right named)
  constructor
  · intro recognizes
    exact ⟨fun found => (advertised found).mp (recognizes.advertised found),
      fun code final => (negotiated code final).mp (recognizes.negotiated code final)⟩
  · rintro ⟨beside, named⟩
    exact ⟨fun found => (advertised found).mpr (beside found),
      fun code final => (negotiated code final).mpr (named code final)⟩

/-- The evaluations before and after a replacement agree and recognize the hybrids exactly when the
final group is not a replaced one and has a name, and the client has no hybrid group or named hybrids
stay in its ClientHello. -/
theorem evaluateV18_replaced_iff
    (evaluated : Evaluated host environ client server summary plain)
    (otherEvaluated : Evaluated host environ client server otherSummary other)
    (replaced : ReplacedSummary summary otherSummary) :
    KeepsEvaluation summary otherSummary plain other ↔
      ((∀ code ∈ (firstHello (some summary)).1, ¬HybridGroup code ∧ ¬UnnamedHybrid code) ∨
        KeepsHybrids (firstHello (some summary)).1 (firstHello (some otherSummary)).1
          (firstHello (some summary)).2 (firstHello (some otherSummary)).2) ∧
      otherSummary.finalGroup = summary.finalGroup ∧
      ∀ code, summary.finalGroup = some code → ¬UnnamedHybrid code := by
  obtain ⟨_, stores, _⟩ := evaluated.stores
  obtain ⟨_, otherStores, _⟩ := otherEvaluated.stores
  obtain ⟨groups, shares⟩ := replaced.firstHello
  have classes :=
    (stores.storedClass_eq_iff otherStores).trans (classify_replaced_iff groups shares)
  have metrics : other.metrics.isHybrid = plain.metrics.isHybrid ∧
      other.metrics.downgradeVisible = plain.metrics.downgradeVisible ↔
        otherSummary.finalGroup = summary.finalGroup := by
    rw [evaluated.metrics.1, evaluated.metrics.2, otherEvaluated.metrics.1,
      otherEvaluated.metrics.2]
    exact finalGroup_eq_iff replaced.finalGroup
  constructor
  · intro keeps
    obtain ⟨beside, named⟩ := evaluated.recognizesHybrids_iff.mp keeps.plain
    refine ⟨?_, metrics.mp ⟨keeps.sameHybrid, keeps.sameDowngrade⟩, named⟩
    apply (classes.mp keeps.sameClass).imp_left
    intro none code member
    refine ⟨none code member, fun unnamed => ?_⟩
    obtain ⟨other, among, hybrid⟩ := beside ⟨code, member, .inr unnamed⟩
    exact none other among hybrid
  · rintro ⟨kept, final, named⟩
    have same : other.provenance.get? "classification" =
        plain.provenance.get? "classification" :=
      classes.mpr (kept.imp_left fun none code member => (none code member).1)
    have finalSame := metrics.mpr final
    refine ⟨same, finalSame.1, finalSame.2, ?_, ?_⟩
    · refine evaluated.recognizesHybrids_iff.mpr ⟨?_, named⟩
      intro found
      rcases kept with none | keeps
      · exact absurd found (not_mlKem none)
      · exact hybrid_of_replaced groups keeps.group
    · refine otherEvaluated.recognizesHybrids_iff.mpr ⟨?_, final ▸ named⟩
      intro found
      rcases kept with none | keeps
      · exact absurd (mlKem_of_replaced groups found) (not_mlKem none)
      · exact keeps.group

end Recognition

end Replacement

section Sample

/-- The client and the server of this capture use one group only. -/
def singleSummary (code : Nat) : HelloSummary :=
  { clientHellos := [([code], [code])], serverHellos := [(false, some code)] }

def singleCapture (code : Nat) : Bytes := helloCapture [code] [code] ++ selectingCapture code

/-- The connection of a client with the hybrid 0x11EB only is recorded as a visible downgrade of a
client without hybrid groups. -/
theorem evaluateV18_replaced_differs : ∃ plain other,
    Evaluated (fun _ => none) .empty "botan" defaultServer (singleSummary 0x11EC) plain ∧
      Evaluated (fun _ => none) .empty "botan" defaultServer (singleSummary 0x11EB) other ∧
      ReplacedSummary (singleSummary 0x11EC) (singleSummary 0x11EB) ∧
      plain.provenance.get? "classification" = some (.str "C1-hybrid-first-share") ∧
      other.provenance.get? "classification" = some (.str "no-hybrid-advertisement") ∧
      plain.metrics.isHybrid = true ∧ other.metrics.isHybrid = false ∧
      plain.metrics.downgradeVisible = false ∧ other.metrics.downgradeVisible = true := by
  have summarized : summarizeHellos (singleCapture 0x11EC) = .ok (singleSummary 0x11EC) := by
    decide +kernel
  have otherSummarized : summarizeHellos (singleCapture 0x11EB) = .ok (singleSummary 0x11EB) := by
    decide +kernel
  obtain ⟨plain, evaluated⟩ := exists_evaluated summarized
  obtain ⟨other, otherEvaluated⟩ := exists_evaluated otherSummarized
  obtain ⟨_, stores, _⟩ := evaluated.stores
  obtain ⟨_, otherStores, _⟩ := otherEvaluated.stores
  have class1 : classify (groupNamesOf [0x11EC]) (groupNamesOf [0x11EC]) =
      "C1-hybrid-first-share" := by decide +kernel
  have unhybrid : classify (groupNamesOf [0x11EB]) (groupNamesOf [0x11EB]) =
      "no-hybrid-advertisement" := by decide +kernel
  have code : ReplacedCode 0x11EC 0x11EB := .inr ⟨rfl, .inl rfl⟩
  refine ⟨plain, other, evaluated, otherEvaluated, ?_, ?_, ?_, evaluated.metrics.1,
    otherEvaluated.metrics.1, evaluated.metrics.2, otherEvaluated.metrics.2⟩
  · exact ⟨.cons ⟨.cons code .nil, .cons code .nil⟩ .nil, .cons ⟨rfl, .some code⟩ .nil⟩
  · exact stores.storedClass.trans (congrArg (some ∘ Value.str) class1)
  · exact otherStores.storedClass.trans (congrArg (some ∘ Value.str) unhybrid)

/-- A second hybrid group is replaced without effect. -/
theorem evaluateV18_replaced_iff_sample : ∃ plain other,
    Evaluated (fun _ => none) .empty "botan" defaultServer
        { clientHellos := [([0x6399, 0x11EC], [0x6399])] } plain ∧
      Evaluated (fun _ => none) .empty "botan" defaultServer
        { clientHellos := [([0x6399, 0x11ED], [0x6399])] } other ∧
      KeepsEvaluation { clientHellos := [([0x6399, 0x11EC], [0x6399])] }
        { clientHellos := [([0x6399, 0x11ED], [0x6399])] } plain other := by
  have summarized : summarizeHellos (helloCapture [0x6399, 0x11EC] [0x6399]) =
      .ok { clientHellos := [([0x6399, 0x11EC], [0x6399])] } := by decide +kernel
  have otherSummarized : summarizeHellos (helloCapture [0x6399, 0x11ED] [0x6399]) =
      .ok { clientHellos := [([0x6399, 0x11ED], [0x6399])] } := by decide +kernel
  obtain ⟨plain, evaluated⟩ := exists_evaluated summarized
  obtain ⟨other, otherEvaluated⟩ := exists_evaluated otherSummarized
  have kept : ReplacedCode 0x6399 0x6399 := .inl rfl
  have moved : ReplacedCode 0x11EC 0x11ED := .inr ⟨rfl, .inr rfl⟩
  have replaced : ReplacedSummary { clientHellos := [([0x6399, 0x11EC], [0x6399])] }
      { clientHellos := [([0x6399, 0x11ED], [0x6399])] } :=
    ⟨.cons ⟨.cons kept (.cons moved .nil), .cons kept .nil⟩ .nil, .nil⟩
  refine ⟨plain, other, evaluated, otherEvaluated, ?_⟩
  have unfinished : ∀ code, (none : Option Nat) = some code → ¬UnnamedHybrid code :=
    fun _ found => absurd found (Option.some_ne_none _).symm
  refine (evaluateV18_replaced_iff evaluated otherEvaluated replaced).mpr
    ⟨.inr ?_, rfl, unfinished⟩
  have hybrid : HybridGroup 0x6399 := .inr rfl
  exact ⟨⟨0x6399, List.mem_cons_self, hybrid⟩, fun _ found _ => found,
    fun _ => ⟨0x6399, List.mem_cons_self, hybrid⟩⟩

end Sample

end FaultInject.V18
