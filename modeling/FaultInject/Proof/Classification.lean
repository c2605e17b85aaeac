import FaultInject.Proof.GroupNames
import FaultInject.Python.Insertion

namespace FaultInject.V18
open Python Record Harness PcapHello V12 V15 V16

/-- The test is made on the codes. -/
def isHybridCode (code : Nat) : Bool := decide (HybridGroup code)

/-- This is the class of a nonempty list. The flags tell whether a group, the first group and a
share are hybrid. -/
def classOf (advertised first sent : Bool) : String :=
  if !advertised then "no-hybrid-advertisement"
  else if sent then
    if first then "C1-hybrid-first-share" else "hybrid-share-noncanonical-order"
  else if first then "C2-hybrid-first-share-omitted" else "C3-classical-first-share"

/-- The hybrid test on the first code of a list. -/
def firstIsHybrid (codes : List Nat) : Bool := codes.head?.any isHybridCode

theorem any_isHybridName (codes : List Nat) :
    ((groupNamesOf codes).any fun group => isHybridName (some group)) = codes.any isHybridCode := by
  rw [groupNamesOf_eq, List.any_map]
  apply congrArg codes.any
  funext code
  rw [Function.comp_apply, isHybridName_groupText, isHybridCode]

/-- The class of codes depends on three flags. -/
theorem classify_groupNamesOf {groups : List Nat} (nonempty : groups ≠ []) (shares : List Nat) :
    classify (groupNamesOf groups) (groupNamesOf shares) =
      classOf (groups.any isHybridCode) (firstIsHybrid groups) (shares.any isHybridCode) := by
  cases groups with
  | nil => exact absurd rfl nonempty
  | cons first groups =>
      have advertised := any_isHybridName (first :: groups)
      rw [groupNamesOf_eq, List.map_cons] at advertised ⊢
      unfold classify
      rw [advertised, any_isHybridName]
      dsimp only
      rw [isHybridName_groupText]
      rfl

/-- A hybrid first code is an advertised hybrid code. -/
theorem any_of_firstIsHybrid {codes : List Nat} (first : firstIsHybrid codes = true) :
    codes.any isHybridCode = true := by
  cases codes with
  | nil => cases first
  | cons code codes =>
      rw [List.any_cons, show isHybridCode code = true from first, Bool.true_or]

section Evaluated
variable {host : String → Option Bytes} {environ : Dict String String} {client server : String}
  {summary : HelloSummary} {evaluated : RunRecord}

/-- The record is the result of an evaluation with this summary of the capture. -/
def Evaluated (host : String → Option Bytes) (environ : Dict String String) (client server : String)
    (summary : HelloSummary) (evaluated : RunRecord) : Prop :=
  ∃ record runDir after, captureSummary runDir record = .ok (some summary) ∧
    evaluateV18 host environ record runDir client server = .ok (evaluated, after)

/-- These are the lists and the server that an evaluation stores. -/
structure StoredLists (evaluated : RunRecord) (groups shares : List String) (server : String) :
    Prop where
  storedGroups : evaluated.provenance.get? "client_hello_groups" = some (.list (groups.map .str))
  storedShares : evaluated.provenance.get? "client_hello_key_shares" =
    some (.list (shares.map .str))
  storedServer : evaluated.provenance.get? "server" = some (.str server)

/-- These are the class of the lists and the selection type of the server. -/
def labelsOf (groups shares : List String) (server : String) : String × String :=
  (classify groups shares, (serverSelectionTypes.lookup server).getD "unknown")

/-- The stored labels are those of the stored lists. -/
structure Stores (evaluated : RunRecord) (groups shares : List String) (server : String) : Prop
    extends StoredLists evaluated groups shares server where
  storedClass : evaluated.provenance.get? "classification" =
    some (.str (labelsOf groups shares server).1)
  storedSelection : evaluated.provenance.get? "server_selection_type" =
    some (.str (labelsOf groups shares server).2)

/-- An evaluation stores the names of the first ClientHello and replaces the metrics. -/
theorem evaluateV18_stores {record : RunRecord} {runDir after : Directory}
    (returned : evaluateV18 host environ record runDir client server = .ok (evaluated, after)) :
    ∃ summary, captureSummary runDir record = .ok summary ∧
      Stores evaluated (groupNamesOf (firstHello summary).1) (groupNamesOf (firstHello summary).2)
        server ∧
      evaluated.metrics = evaluatedMetrics record.metrics summary := by
  obtain ⟨summary, captured, returned⟩ := bind_eq_ok.mp returned
  obtain ⟨candidate, _, returned⟩ := bind_eq_ok.mp returned
  split at returned
  on_goal 2 => obtain ⟨serverCmd, _, returned⟩ := bind_eq_ok.mp returned
  all_goals
    cases returned
    refine ⟨summary, captured, ⟨⟨?_, ?_, ?_⟩, ?_, ?_⟩, rfl⟩ <;>
      · rw [Dict.get?_ofEntries (by simp)]
        rfl

/-- The stored class of an evaluation is the class of the codes. -/
theorem Evaluated.stores (evaluation : Evaluated host environ client server summary evaluated) :
    ∃ metrics : Metrics,
      Stores evaluated (groupNamesOf (firstHello (some summary)).1)
        (groupNamesOf (firstHello (some summary)).2) server ∧
      evaluated.metrics = evaluatedMetrics metrics (some summary) := by
  obtain ⟨record, runDir, after, captured, returned⟩ := evaluation
  obtain ⟨found, again, stores, metrics⟩ := evaluateV18_stores returned
  rw [captured] at again
  cases again
  exact ⟨record.metrics, stores, metrics⟩

/-- Two records store one class exactly when their lists have one class. -/
theorem Stores.storedClass_eq_iff {groups shares others otherShares : List String}
    {other : RunRecord} {otherServer : String} (stores : Stores evaluated groups shares server)
    (otherStores : Stores other others otherShares otherServer) :
    other.provenance.get? "classification" = evaluated.provenance.get? "classification" ↔
      classify others otherShares = classify groups shares := by
  rw [otherStores.storedClass, stores.storedClass, Option.some.injEq]
  simp only [labelsOf, Value.str, Value.scalar.injEq, Scalar.str.injEq]

/-- The migration computes the labels of the stored lists. -/
theorem StoredLists.currentLabels_eq {groups shares : List String}
    (stores : StoredLists evaluated groups shares server) :
    currentLabels evaluated.provenance = .ok (labelsOf groups shares server) := by
  have key : Value.toKey (.str server) = .ok (.str server) := rfl
  rw [currentLabels, Dict.getItem_eq_ok.mpr stores.storedGroups, ok_bind,
    Value.texts_eq_ok.mpr rfl, ok_bind, Dict.getItem_eq_ok.mpr stores.storedShares, ok_bind,
    Value.texts_eq_ok.mpr rfl, ok_bind, stores.storedServer, selectionType, key]
  rfl

end Evaluated

section Grease
variable {groups greased shares greasedShares : List Nat}

/-- A GREASE code has no hybrid name. -/
theorem isHybridCode_of_grease (code : Nat) (grease : GreaseCode code) :
    isHybridCode code = false := decide_eq_false grease.not_hybrid

/-- Two classes with the same advertised and sent flags differ only by the first flag. -/
theorem classOf_first_iff {advertised first next sent : Bool} (known : first = true → advertised = true)
    (other : next = true → advertised = true) :
    classOf advertised next sent = classOf advertised first sent ↔ next = first := by
  cases advertised <;> cases first <;> cases next <;> cases sent <;> simp_all [classOf]

/-- The class is the same exactly when no GREASE code stands before a hybrid first group. -/
theorem classify_inserted_iff (insertedGroups : Inserted GreaseCode groups greased)
    (insertedShares : Inserted GreaseCode shares greasedShares) (nonempty : groups ≠ []) :
    classify (groupNamesOf greased) (groupNamesOf greasedShares) =
        classify (groupNamesOf groups) (groupNamesOf shares) ↔
      ∀ first, groups.head? = some first → HybridGroup first → greased.head? = some first := by
  have visible : greased ≠ [] := by
    rintro rfl
    cases insertedGroups
    exact nonempty rfl
  have advertised := insertedGroups.any_eq isHybridCode_of_grease
  have sent := insertedShares.any_eq isHybridCode_of_grease
  have known := @any_of_firstIsHybrid groups
  have other := @any_of_firstIsHybrid greased
  rw [advertised] at other
  rw [classify_groupNamesOf visible, classify_groupNamesOf nonempty, advertised, sent,
    classOf_first_iff known other]
  rcases insertedGroups.head?_eq with same | ⟨code, folded, head⟩
  · rw [firstIsHybrid, firstIsHybrid, same]
    exact iff_of_true rfl fun first found _ => found
  · rw [firstIsHybrid, head, Option.any_some, isHybridCode_of_grease code folded, firstIsHybrid]
    constructor
    · intro none first found hybrid
      rw [found, Option.any_some, isHybridCode, decide_eq_true hybrid] at none
      cases none
    · intro kept
      cases found : groups.head? with
      | none => rfl
      | some first =>
          by_cases hybrid : HybridGroup first
          · have moved := kept first found hybrid
            rw [Option.some.inj moved] at folded
            exact absurd hybrid folded.not_hybrid
          · rw [Option.any_some, isHybridCode, decide_eq_false hybrid]

/-- This is the first group that is no GREASE code. -/
def firstPlain (groups : List Nat) : Option Nat :=
  groups.find? fun code => !decide (GreaseCode code)

theorem firstPlain_of_head? {groups : List Nat} {first : Nat} (found : groups.head? = some first)
    (hybrid : HybridGroup first) : firstPlain groups = some first := by
  obtain ⟨rest, rfl⟩ := List.head?_eq_some_iff.mp found
  apply List.find?_cons_of_pos
  rw [decide_eq_false fun grease => GreaseCode.not_hybrid grease hybrid]
  rfl

/-- A hybrid group in front of the longer list stands in front of the list. -/
theorem head?_of_inserted (inserted : Inserted GreaseCode groups greased) {first : Nat}
    (front : greased.head? = some first) (hybrid : HybridGroup first) :
    groups.head? = some first := by
  rcases inserted.head?_eq with same | ⟨code, grease, head⟩
  · rw [← same, front]
  · rw [front, Option.some.injEq] at head
    rw [← head] at grease
    exact absurd hybrid grease.not_hybrid

/-- The classification of a client without a hybrid share is C2 when its first group is hybrid.
GREASE codes are left out. -/
def HybridFirstIsC2 (record : RunRecord) (groups shares : List Nat) : Prop :=
  ∀ first, firstPlain groups = some first → HybridGroup first →
    (∀ share ∈ shares, ¬HybridGroup share) →
      record.provenance.get? "classification" = some (.str "C2-hybrid-first-share-omitted") ∧
      ∃ selection, currentLabels record.provenance =
        .ok ("C2-hybrid-first-share-omitted", selection)

/-- The class of a client whose first plain group is hybrid tells whether this group is its first
one. -/
theorem classify_eq_c2_iff {first : Nat} (plain : firstPlain groups = some first)
    (hybrid : HybridGroup first) (omitted : ∀ share ∈ shares, ¬HybridGroup share) :
    classify (groupNamesOf groups) (groupNamesOf shares) = "C2-hybrid-first-share-omitted" ↔
      groups.head? = some first := by
  have member : first ∈ groups := List.mem_of_find?_eq_some plain
  have advertised : groups.any isHybridCode = true :=
    List.any_eq_true.mpr ⟨first, member, decide_eq_true hybrid⟩
  have sent : shares.any isHybridCode = false := by
    rw [List.any_eq_false]
    intro share inside
    rw [isHybridCode, decide_eq_false (omitted share inside)]
    exact Bool.false_ne_true
  rw [classify_groupNamesOf (List.ne_nil_of_mem member), advertised, sent]
  have flag : classOf true (firstIsHybrid groups) false = "C2-hybrid-first-share-omitted" ↔
      firstIsHybrid groups = true := by
    cases firstIsHybrid groups <;> decide
  rw [flag]
  constructor
  · intro front
    rw [firstIsHybrid] at front
    cases found : groups.head? with
    | none =>
        rw [found] at front
        cases front
    | some head =>
        rw [found] at front
        rw [← plain, firstPlain_of_head? found (of_decide_eq_true front)]
  · intro found
    rw [firstIsHybrid, found, Option.any_some, isHybridCode, decide_eq_true hybrid]

theorem Stores.hybridFirstIsC2_iff {record : RunRecord} {server : String}
    (stores : Stores record (groupNamesOf groups) (groupNamesOf shares) server) :
    HybridFirstIsC2 record groups shares ↔
      ∀ first, firstPlain groups = some first → HybridGroup first →
        (∀ share ∈ shares, ¬HybridGroup share) → groups.head? = some first := by
  apply forall_congr'
  intro first
  apply forall_congr'
  intro plain
  apply forall_congr'
  intro hybrid
  apply forall_congr'
  intro omitted
  rw [← classify_eq_c2_iff plain hybrid omitted, stores.storedClass, stores.currentLabels_eq]
  simp [labelsOf, Value.str]

/-- The classification of a client is the same with inserted GREASE codes, and it tells a hybrid
first group with and without them. -/
structure IgnoresGrease (summary greasedSummary : HelloSummary) (plain other : RunRecord) :
    Prop where
  sameClass : other.provenance.get? "classification" = plain.provenance.get? "classification"
  sameLabels : currentLabels other.provenance = currentLabels plain.provenance
  plainFirst : HybridFirstIsC2 plain (firstHello (some summary)).1 (firstHello (some summary)).2
  otherFirst : HybridFirstIsC2 other (firstHello (some greasedSummary)).1
    (firstHello (some greasedSummary)).2

/-- The classification ignores GREASE codes exactly when a hybrid group behind GREASE codes only
stands first in both lists, or in none of them and a hybrid share is sent. -/
theorem evaluateV18_greased_iff {host : String → Option Bytes} {environ : Dict String String}
    {client server : String} {summary greasedSummary : HelloSummary} {plain other : RunRecord}
    (evaluated : Evaluated host environ client server summary plain)
    (otherEvaluated : Evaluated host environ client server greasedSummary other)
    (insertedGroups : Inserted GreaseCode (firstHello (some summary)).1
      (firstHello (some greasedSummary)).1)
    (insertedShares : Inserted GreaseCode (firstHello (some summary)).2
      (firstHello (some greasedSummary)).2)
    (nonempty : (firstHello (some summary)).1 ≠ []) :
    IgnoresGrease summary greasedSummary plain other ↔
      ∀ first, firstPlain (firstHello (some summary)).1 = some first → HybridGroup first →
        (firstHello (some greasedSummary)).1.head? = some first ∨
          (firstHello (some summary)).1.head? ≠ some first ∧
            ∃ share ∈ (firstHello (some summary)).2, HybridGroup share := by
  obtain ⟨_, stores, _⟩ := evaluated.stores
  obtain ⟨_, otherStores, _⟩ := otherEvaluated.stores
  have classes := classify_inserted_iff insertedGroups insertedShares nonempty
  have labels : currentLabels other.provenance = currentLabels plain.provenance ↔
      classify (groupNamesOf (firstHello (some greasedSummary)).1)
          (groupNamesOf (firstHello (some greasedSummary)).2) =
        classify (groupNamesOf (firstHello (some summary)).1)
          (groupNamesOf (firstHello (some summary)).2) := by
    rw [otherStores.currentLabels_eq, stores.currentLabels_eq, Except.ok.injEq, labelsOf, labelsOf,
      Prod.mk.injEq, and_iff_left rfl]
  have sameFirst : firstPlain (firstHello (some greasedSummary)).1 =
      firstPlain (firstHello (some summary)).1 :=
    insertedGroups.find?_eq fun code grease => by rw [decide_eq_true grease]; rfl
  constructor
  · intro ignores first found hybrid
    by_cases front : (firstHello (some summary)).1.head? = some first
    · have kept := classes.mp ((stores.storedClass_eq_iff otherStores).mp ignores.sameClass)
      exact .inl (kept first front hybrid)
    · refine .inr ⟨front, ?_⟩
      by_contra omitted
      push Not at omitted
      exact front (stores.hybridFirstIsC2_iff.mp ignores.plainFirst first found hybrid omitted)
  · intro kept
    have same : classify (groupNamesOf (firstHello (some greasedSummary)).1)
        (groupNamesOf (firstHello (some greasedSummary)).2) =
          classify (groupNamesOf (firstHello (some summary)).1)
            (groupNamesOf (firstHello (some summary)).2) := by
      apply classes.mpr
      intro first front hybrid
      exact (kept first (firstPlain_of_head? front hybrid) hybrid).resolve_right
        fun behind => behind.1 front
    constructor
    · exact (stores.storedClass_eq_iff otherStores).mpr same
    · exact labels.mpr same
    · apply stores.hybridFirstIsC2_iff.mpr
      intro first found hybrid omitted
      rcases kept first found hybrid with front | ⟨_, share, inside, isHybrid⟩
      · exact head?_of_inserted insertedGroups front hybrid
      · exact absurd isHybrid (omitted share inside)
    · apply otherStores.hybridFirstIsC2_iff.mpr
      intro first found hybrid omitted
      rw [sameFirst] at found
      rcases kept first found hybrid with front | ⟨_, share, inside, isHybrid⟩
      · exact front
      · exact absurd isHybrid (omitted share (insertedShares.subset inside))

end Grease

section Sample
open Codec

/-- This capture has a ClientHello with these groups and shares. -/
def helloCapture (groups shares : List Nat) : Bytes :=
  let extension (tag : Nat) (body : Bytes) := bigEndian 2 tag ++ vector 2 (vector 2 body)
  let extensions := extension 10 (groups.flatMap (bigEndian 2)) ++
    extension 51 (shares.flatMap fun share => bigEndian 2 share ++ vector 2 [0])
  [0x16, 3, 1] ++ vector 2 (1 :: vector 3 ([3, 3] ++ List.replicate 32 0 ++
    [0, 0, 2, 0x13, 1, 1, 0] ++ vector 2 extensions))

/-- This capture has a ServerHello that selects the group. -/
def selectingCapture (group : Nat) : Bytes :=
  [0x16, 3, 3] ++ vector 2 (2 :: vector 3 ([3, 3] ++ List.replicate 32 0 ++
    [0, 0x13, 1, 0] ++ vector 2 (bigEndian 2 51 ++ vector 2 (bigEndian 2 group))))

def surveyRun : RunRecord where
  runId := "openssl_client-default-v18_r01_botan"
  implementation := "openssl"
  faultType := "client-default-v18"
  repetition := 1
  condition := "botan"
  metrics := ⟨none, false, false, "failure", "", none, none, none, none, none, none, none, none⟩
  manipulationVerified := false
  artifacts := .ofEntries [("pcap", "run.pcapng")]

/-- This directory has the capture of the run. -/
def captureDirectory (capture : Bytes) : Directory := Dict.empty.set "run.pcapng" (.bytes capture)

theorem captureSummary_surveyRun {capture : Bytes} {summary : HelloSummary}
    (summarized : summarizeHellos capture = .ok summary) :
    captureSummary (captureDirectory capture) surveyRun = .ok (some summary) := by
  show (summarizeHellos capture).map some = _
  rw [summarized]
  rfl

/-- The run of a survey is evaluated. -/
theorem evaluateV18_surveyRun {capture : Bytes} {summary : HelloSummary}
    (summarized : summarizeHellos capture = .ok summary) :
    ∃ evaluated after, evaluateV18 (fun _ => none) .empty surveyRun (captureDirectory capture)
        "botan" = .ok (evaluated, after) ∧
      evaluated.runId = surveyRun.runId ∧ evaluated.faultType = surveyRun.faultType := by
  rw [evaluateV18, captureSummary_surveyRun summarized, ok_bind]
  exact ⟨_, _, rfl, rfl, rfl⟩

/-- The run of a survey has an evaluation with the summary of its capture. -/
theorem exists_evaluated {capture : Bytes} {summary : HelloSummary}
    (summarized : summarizeHellos capture = .ok summary) :
    ∃ evaluated, Evaluated (fun _ => none) .empty "botan" defaultServer summary evaluated := by
  obtain ⟨evaluated, after, returned, _⟩ := evaluateV18_surveyRun summarized
  exact ⟨evaluated, surveyRun, _, after, captureSummary_surveyRun summarized, returned⟩

/-- The capture of the client without GREASE codes. -/
def canonicalSummary : HelloSummary := { clientHellos := [([0x11EC, 0x001D], [0x001D])] }

def greasedSummary : HelloSummary := { clientHellos := [([0x0A0A, 0x11EC, 0x001D], [0x001D])] }

theorem summarizeHellos_canonical :
    summarizeHellos (helloCapture [0x11EC, 0x001D] [0x001D]) = .ok canonicalSummary := by
  decide +kernel

theorem summarizeHellos_greased :
    summarizeHellos (helloCapture [0x0A0A, 0x11EC, 0x001D] [0x001D]) = .ok greasedSummary := by
  decide +kernel

/-- A client of the class C2 gets the class C3 when it puts a GREASE code first. -/
theorem evaluateV18_greased_differs : ∃ plain other,
    Evaluated (fun _ => none) .empty "botan" defaultServer canonicalSummary plain ∧
      Evaluated (fun _ => none) .empty "botan" defaultServer greasedSummary other ∧
      Inserted GreaseCode [0x11EC, 0x001D] [0x0A0A, 0x11EC, 0x001D] ∧
      plain.provenance.get? "classification" = some (.str "C2-hybrid-first-share-omitted") ∧
      other.provenance.get? "classification" = some (.str "C3-classical-first-share") := by
  obtain ⟨plain, evaluated⟩ := exists_evaluated summarizeHellos_canonical
  obtain ⟨other, otherEvaluated⟩ := exists_evaluated summarizeHellos_greased
  obtain ⟨_, stores, _⟩ := evaluated.stores
  obtain ⟨_, otherStores, _⟩ := otherEvaluated.stores
  have class2 : classify (groupNamesOf [0x11EC, 0x001D]) (groupNamesOf [0x001D]) =
      "C2-hybrid-first-share-omitted" := by decide +kernel
  have class3 : classify (groupNamesOf [0x0A0A, 0x11EC, 0x001D]) (groupNamesOf [0x001D]) =
      "C3-classical-first-share" := by decide +kernel
  refine ⟨plain, other, evaluated, otherEvaluated, ?_, ?_, ?_⟩
  · exact .insert _ ⟨0, by decide, rfl⟩ (.keep _ (.keep _ .nil))
  · exact stores.storedClass.trans (congrArg (some ∘ Value.str) class2)
  · exact otherStores.storedClass.trans (congrArg (some ∘ Value.str) class3)

/-- A GREASE code behind the first group is ignored. -/
theorem evaluateV18_greased_iff_sample : ∃ plain other,
    Evaluated (fun _ => none) .empty "botan" defaultServer canonicalSummary plain ∧
      Evaluated (fun _ => none) .empty "botan" defaultServer
        { clientHellos := [([0x11EC, 0x0A0A, 0x001D], [0x001D, 0xFAFA])] } other ∧
      IgnoresGrease canonicalSummary
        { clientHellos := [([0x11EC, 0x0A0A, 0x001D], [0x001D, 0xFAFA])] } plain other := by
  have summarized : summarizeHellos (helloCapture [0x11EC, 0x0A0A, 0x001D] [0x001D, 0xFAFA]) =
      .ok { clientHellos := [([0x11EC, 0x0A0A, 0x001D], [0x001D, 0xFAFA])] } := by
    decide +kernel
  obtain ⟨plain, evaluated⟩ := exists_evaluated summarizeHellos_canonical
  obtain ⟨other, otherEvaluated⟩ := exists_evaluated summarized
  have first : GreaseCode 0x0A0A := ⟨0, by decide, rfl⟩
  have last : GreaseCode 0xFAFA := ⟨15, by decide, rfl⟩
  refine ⟨plain, other, evaluated, otherEvaluated, ?_⟩
  apply (evaluateV18_greased_iff evaluated otherEvaluated (.keep _ (.insert _ first (.keep _ .nil)))
    (.keep _ (.insert _ last .nil)) (List.cons_ne_nil _ _)).mpr
  intro code found hybrid
  have head : firstPlain [0x11EC, 0x001D] = some 0x11EC := by decide
  exact .inl (head.symm.trans found)

end Sample

end FaultInject.V18
