import FaultInject.Proof.Tables
import Mathlib.Data.Prod.Lex

/-
This file shows the table of a finished comparison of servers. Its rows are the planned cells in
the order of the servers, and its counts are those of the raw captures and logs.
-/

namespace FaultInject.V15
open Python Record Harness PcapHello
open Analyze (Cell labels textLabels)
open Identity (serverNames selectedServers fixedClients)

section Shown

/-- This is the summary of a capture that is not empty. -/
def summaryOf (pcap : Option File) : Option HelloSummary :=
  match pcap with
  | some pcap => if pcap.size > 0 then (summarizeHellos pcap.readBytes).toOption else none
  | none => none

variable (runDir : Directory) (record : RunRecord)

/-- This is what the capture of a record shows. -/
def shown : Option HelloSummary := summaryOf (runDir.artifactFile record "pcap")

/-- The first ClientHello of the capture has the groups and the shares of the client. -/
def showsOffer (client : String) : Bool :=
  (shown runDir record).any fun summary => (Dict.item clients client).toOption.any fun values =>
    summary.clientHellos.head? == some (values.expectedGroups, values.expectedShares)

def showsRetry : Bool := (shown runDir record).any fun summary => decide (summary.hrrCount > 0)

/-- This is the group of the last ServerHello of the capture. -/
def shownGroup : Option String := (shown runDir record).bind fun summary => groupName summary.finalGroup

def showsCompletion : Bool := (runDir.artifactFile record "client_log").any fun clientLog =>
  isIn "New, TLSv1.3" clientLog.readTextReplace

end Shown

section Evaluation
variable {host : String → Option Bytes} {environ : Dict String String} {record evaluated : RunRecord}
  {runDir after : Directory} {server client : String}

/-- The precondition is the comparison of the first ClientHello with the values of the client. -/
theorem clientPreconditionV15_eq {summary : HelloSummary} {verified : Bool} {values : Client}
    (known : Dict.item clients client = .ok values)
    (checked : clientPreconditionV15 summary client = .ok verified) :
    verified = (summary.clientHellos.head? ==
      some (values.expectedGroups, values.expectedShares)) := by
  unfold clientPreconditionV15 at checked
  split at checked
  · rename_i none
    cases checked
    rw [none]
    rfl
  · rename_i groups shares rest found
    rw [known, ok_bind] at checked
    cases checked
    rw [found, List.head?_cons]
    rfl

/-- The metrics of a capture are what its summary shows. -/
theorem captureMetricsV15_shows {before metrics : Metrics} {values : Client} {pcap : Option File}
    (known : Dict.item clients client = .ok values)
    (measured : captureMetricsV15 before client pcap = .ok metrics) :
    (metrics.clientPreconditionVerified == some true) = ((summaryOf pcap).any fun summary =>
      summary.clientHellos.head? == some (values.expectedGroups, values.expectedShares)) ∧
    ((summaryOf pcap).isSome → (metrics.hrrPcapPresent == some true) =
        ((summaryOf pcap).any fun summary => decide (summary.hrrCount > 0)) ∧
      metrics.finalNegotiatedGroup = (summaryOf pcap).bind fun summary => groupName summary.finalGroup) := by
  cases pcap with
  | none =>
      cases measured
      exact ⟨rfl, fun none => by cases none⟩
  | some pcap =>
      rw [captureMetricsV15] at measured
      rw [summaryOf]
      split at measured
      · rename_i filled
        obtain ⟨summary, parsed, measured⟩ := bind_eq_ok.mp measured
        obtain ⟨verified, checked, same⟩ := bind_eq_ok.mp measured
        cases same
        rw [if_pos filled, parsed, clientPreconditionV15_eq known checked]
        simp [Except.toOption]
      · rename_i empty
        cases measured
        rw [if_neg empty]
        exact ⟨rfl, fun none => by cases none⟩

/-- The metrics of a record are what its capture and its log show. -/
structure Shows (runDir : Directory) (record : RunRecord) (client : String) : Prop where
  offer : (record.metrics.clientPreconditionVerified == some true) = showsOffer runDir record client
  completion : (record.metrics.detail == "handshake-completed") = showsCompletion runDir record
  retry : (shown runDir record).isSome →
    (record.metrics.hrrPcapPresent == some true) = showsRetry runDir record
  group : (shown runDir record).isSome →
    record.metrics.finalNegotiatedGroup = shownGroup runDir record

theorem evaluateV15_shows
    (returned : evaluateV15 host environ record runDir server client = .ok (evaluated, after)) :
    Shows runDir evaluated client := by
  obtain ⟨metrics, measured, returned⟩ := bind_eq_ok.mp returned
  obtain ⟨serverCmd, installed, returned⟩ := bind_eq_ok.mp returned
  obtain ⟨values, fixed, returned⟩ := bind_eq_ok.mp returned
  obtain ⟨serverBin, binary, result⟩ := bind_eq_ok.mp returned
  cases result
  obtain ⟨offer, shows⟩ := captureMetricsV15_shows fixed measured
  constructor
  · rw [showsOffer, fixed]
    exact offer
  · show (_ == "handshake-completed") = showsCompletion runDir record
    rw [showsCompletion]
    split
    · rename_i completed
      rw [completed]
      rfl
    · rename_i incomplete
      rw [Bool.eq_false_iff.mpr incomplete]
      rfl
  · exact fun captured => (shows captured).1
  · exact fun captured => (shows captured).2

/-- The provenance of an evaluated record has the labels of its cell. -/
theorem evaluateV15_labels
    (returned : evaluateV15 host environ record runDir server client = .ok (evaluated, after)) :
    negotiationKey evaluated = .ok (labels (server, client)) := by
  obtain ⟨metrics, _, returned⟩ := bind_eq_ok.mp returned
  obtain ⟨serverCmd, _, returned⟩ := bind_eq_ok.mp returned
  obtain ⟨values, _, returned⟩ := bind_eq_ok.mp returned
  obtain ⟨serverBin, _, result⟩ := bind_eq_ok.mp returned
  cases result
  rfl

end Evaluation

section Order

/-- This is the order of the rows of the table. -/
def RowLe (first second : Cell) : Prop := rowLe .empty first second = true

instance : DecidableRel RowLe := fun _ _ => instDecidableEqBool _ _

/-- The rows have the lexicographic order of the places of their servers and their clients. -/
theorem rowLe_iff {first second : Cell} : RowLe first second ↔
    toLex (serverOrder .empty first.1, first.2) ≤ toLex (serverOrder .empty second.1, second.2) := by
  rw [RowLe, rowLe, Bool.or_eq_true, Bool.and_eq_true, decide_eq_true_iff, beq_iff_eq,
    decide_eq_true_iff, Prod.Lex.toLex_le_toLex]

instance : Std.Total RowLe := ⟨fun first second => by
  rw [rowLe_iff, rowLe_iff]
  exact le_total _ _⟩

instance : IsTrans Cell RowLe := ⟨fun first second third below next => by
  rw [rowLe_iff] at below next ⊢
  exact below.trans next⟩

/-- These are the planned cells in the order of the table. -/
def tableCells (selected : Option (List String)) : List Cell :=
  (serverNames ×ˢ fixedClients).filter fun cell => cell.1 ∈ selectedServers selected

theorem pairwise_rowLe : (serverNames ×ˢ fixedClients).Pairwise fun first second =>
    RowLe first second ∧ ¬RowLe second first := by decide +kernel

variable {environ : Dict String String} {selected : Option (List String)}

theorem pairwise_tableCells : (tableCells selected).Pairwise fun first second =>
    RowLe first second ∧ ¬RowLe second first :=
  pairwise_rowLe.filter _

/-- Two cells of the table with the same place are the same. -/
theorem tableCells_antisymm : ∀ first ∈ tableCells selected,
    ∀ second ∈ tableCells selected, RowLe first second → RowLe second first →
      first = second := by
  have symm : Std.Symm fun first second : Cell => ¬(RowLe first second ∧ RowLe second first) :=
    ⟨fun _ _ none both => none both.symm⟩
  have strict : (tableCells selected).Pairwise fun first second =>
      ¬(RowLe first second ∧ RowLe second first) :=
    pairwise_tableCells.imp fun apart both => apart.2 both.2
  intro first inFirst second inSecond forwards backwards
  by_contra different
  exact strict.forall inFirst inSecond different ⟨forwards, backwards⟩

theorem nodup_tableCells : (tableCells selected).Nodup :=
  List.Nodup.filter _ (by decide)

end Order

section Counts

/-- This is the cell of the condition of a record. -/
def cellOf (record : RunRecord) : Cell :=
  (V12.splitCondition record.condition).toOption.getD ("", "")

/-- The record is counted for the cell of its condition. -/
structure Compared (record : RunRecord) : Prop where
  fault : record.faultType = "negotiation-function"
  key : negotiationKey record = .ok (labels (cellOf record))

/-- The loop over compared records is a tally by their cells. -/
theorem negotiationStep_foldlM {records : List RunRecord}
    (compared : ∀ record ∈ records, Compared record)
    (out : Dict (Scalar × Scalar) NegotiationCount) :
    records.foldlM negotiationStep out =
      .ok (Dict.tally (fun record => labels (cellOf record)) {} NegotiationCount.add records out) := by
  induction records generalizing out with
  | nil => rfl
  | cons record records ih =>
      obtain ⟨fault, key⟩ := compared record List.mem_cons_self
      rw [List.foldlM_cons, negotiationStep, if_neg (not_not.mpr fault), key, ok_bind, ok_bind,
        ih fun other member => compared other (List.mem_cons_of_mem _ member)]
      rfl

/-- The comparison of a directory of compared records is the tally by their cells. -/
theorem comparisonV15_eq {runDir : Directory} {records : List RunRecord}
    (loaded : Analyze.loadRecords runDir = .ok records)
    (compared : ∀ record ∈ records, Compared record) : comparisonV15 runDir =
      .ok (Dict.tally (fun record => labels (cellOf record)) {} NegotiationCount.add records .empty) := by
  rw [← negotiationStep_foldlM compared]
  exact Analyze.foldlM_of_mapM loaded _

/-- The order of two records does not change a count. -/
theorem NegotiationCount.add_right_comm (count : NegotiationCount) (first second : RunRecord) :
    (count.add first).add second = (count.add second).add first := by
  simp only [NegotiationCount.add, Nat.add_right_comm]

/-- This is the count of a cell over some records. -/
def negotiationCount (records : List RunRecord) (cell : Cell) : NegotiationCount :=
  (records.filter fun record => cellOf record = cell).foldl NegotiationCount.add {}

variable {loaded records : List RunRecord} {cells : List Cell}

theorem negotiationCount_perm (perm : loaded.Perm records) (cell : Cell) :
    negotiationCount loaded cell = negotiationCount records cell :=
  (perm.filter _).foldl_eq'
    (fun first _ second _ count => NegotiationCount.add_right_comm count first second) {}

/-- The comparison of servers has one row for each planned cell and no other. -/
theorem negotiation_rows {width : Nat} (positive : 0 < width) (perm : loaded.Perm records)
    (counted : Run.Counted cells width fun cell =>
      records.countP fun record => cellOf record = cell) :
    (∀ cell ∈ cells, (Dict.tally (fun record => labels (cellOf record)) {} NegotiationCount.add loaded
      Dict.empty).get? (labels cell) = some (negotiationCount records cell)) ∧
    ∀ key, key ∉ cells.map labels → (Dict.tally (fun record => labels (cellOf record)) {}
      NegotiationCount.add loaded Dict.empty).get? key = none := by
  constructor
  · intro cell known
    have same : (loaded.filter fun record => labels (cellOf record) = labels cell) =
        loaded.filter fun record => cellOf record = cell := by
      apply List.filter_congr
      intro record _
      rw [decide_eq_decide, Analyze.labels_injective.eq_iff]
    rw [Dict.get?_tally_empty, same, if_neg, ← negotiationCount_perm perm]
    · rfl
    · intro none
      have own := counted.inside cell known
      rw [← perm.countP_eq, List.countP_eq_length_filter, none, List.length_nil] at own
      omega
  · intro key other
    rw [Dict.get?_tally_empty, if_pos]
    rw [List.filter_eq_nil_iff]
    intro record member same
    rw [decide_eq_true_eq] at same
    have unknown : cellOf record ∉ cells := by
      intro known
      rw [← same] at other
      exact other (List.mem_map_of_mem known)
    have none := List.countP_eq_zero.mp (counted.outside _ unknown) record (perm.mem_iff.mp member)
    exact none (decide_eq_true rfl)

/-- A counter of a cell is the number of its records that pass the test. -/
theorem negotiationCount_field (test : RunRecord → Bool) (field : NegotiationCount → Nat)
    (zero : field {} = 0)
    (grows : ∀ count record, field (count.add record) = field count + (test record).toNat)
    (records : List RunRecord) (cell : Cell) : field (negotiationCount records cell) =
      records.countP fun record => cellOf record = cell && test record :=
  Run.foldl_filter_counter NegotiationCount.add {} (.refl records) cellOf cell field test zero grows

/-- The counts of a cell are what the captures and the logs of its records show. -/
structure CountsShown (runDir : Directory) (records : List RunRecord) (cell : Cell)
    (count : NegotiationCount) : Prop where
  precondition : count.precondition = records.countP fun record =>
    cellOf record = cell && showsOffer runDir record cell.2
  completed : count.completed = records.countP fun record =>
    cellOf record = cell && showsCompletion runDir record
  hrr : (∀ record ∈ records, cellOf record = cell → (shown runDir record).isSome) →
    count.hrr = records.countP fun record => cellOf record = cell && showsRetry runDir record
  hybrid : (∀ record ∈ records, cellOf record = cell → (shown runDir record).isSome) →
    count.hybrid = records.countP fun record =>
      cellOf record = cell && shownGroup runDir record == some "X25519MLKEM768"
  classical : (∀ record ∈ records, cellOf record = cell → (shown runDir record).isSome) →
    count.classical = records.countP fun record =>
      cellOf record = cell && shownGroup runDir record == some "X25519"

/-- Two tests that agree on the records of a cell count the same records of the cell. -/
theorem countP_cell {cell : Cell} {first second : RunRecord → Bool}
    (agree : ∀ record ∈ records, cellOf record = cell → first record = second record) :
    (records.countP fun record => cellOf record = cell && first record) =
      records.countP fun record => cellOf record = cell && second record := by
  apply List.countP_congr
  intro record member
  by_cases same : cellOf record = cell
  · rw [agree record member same]
  · simp [same]

/-- The counts over evaluated records are those of their captures and logs. -/
theorem countsShown {host : String → Option Bytes} {environ : Dict String String}
    {runDir : Directory} (evaluated : ∀ record ∈ records, ∃ after,
      evaluateV15 host environ record runDir (cellOf record).1 (cellOf record).2 = .ok (record, after))
    (cell : Cell) : CountsShown runDir records cell (negotiationCount records cell) := by
  have shows : ∀ record ∈ records, Shows runDir record (cellOf record).2 := by
    intro record member
    obtain ⟨after, returned⟩ := evaluated record member
    exact evaluateV15_shows returned
  constructor
  · rw [negotiationCount_field _ NegotiationCount.precondition rfl fun _ _ => rfl]
    apply countP_cell
    intro record member same
    rw [← same]
    exact (shows record member).offer
  · rw [negotiationCount_field _ NegotiationCount.completed rfl fun _ _ => rfl]
    exact countP_cell fun record member _ => (shows record member).completion
  · intro captured
    rw [negotiationCount_field _ NegotiationCount.hrr rfl fun _ _ => rfl]
    exact countP_cell fun record member same => (shows record member).retry (captured record member same)
  · intro captured
    rw [negotiationCount_field _ NegotiationCount.hybrid rfl fun _ _ => rfl]
    apply countP_cell
    intro record member same
    rw [(shows record member).group (captured record member same)]
  · intro captured
    rw [negotiationCount_field _ NegotiationCount.classical rfl fun _ _ => rfl]
    apply countP_cell
    intro record member same
    rw [(shows record member).group (captured record member same)]

end Counts

section Finished
open FaultInject.Matrix
variable {context : Context} {environ : Dict String String} {selected : Option (List String)}
  {repetitions : Int} {specs : List ScenarioSpec} {runDir : Directory} {events : List Matrix.Event}
  {state : Matrix.State}

/-- The specifications of the comparison have its fault type. -/
theorem faultType_of_mem_v15Specs {spec : ScenarioSpec}
    (built : v15Specs environ repetitions selected = .ok specs) (member : spec ∈ specs) :
    spec.faultType = "negotiation-function" := by
  rw [Identity.v15Specs_eq, mapM_id_map] at built
  obtain ⟨run, _, made⟩ := exists_of_mem_mapM built member
  rw [Identity.v15Build] at made
  simp only [v15Spec, bind_eq_ok, Except.ok.injEq] at made
  obtain ⟨_, _, _, _, _, _, _, _, rfl⟩ := made
  rfl

/-- The servers of a comparison that was planned are known. -/
theorem known_of_v15Specs (positive : 1 ≤ repetitions)
    (built : v15Specs environ repetitions selected = .ok specs) {server : String}
    (member : server ∈ selectedServers selected) : server ∈ serverNames := by
  rw [Identity.v15Specs_eq, mapM_id_map] at built
  have inside : ((1 : Int), server, "C1") ∈ Analyze.repetitionRange repetitions.toNat ×ˢ
      (selectedServers selected ×ˢ fixedClients) := by
    rw [Identity.mem_runs, List.mem_product]
    exact ⟨⟨le_refl _, positive⟩, member, by decide⟩
  obtain ⟨spec, made⟩ := returns_of_mapM built inside
  rw [Identity.v15Build] at made
  simp only [v15Spec, bind_eq_ok] at made
  obtain ⟨_, _, _, installed, _⟩ := made
  exact Dict.item_returns.mp ⟨_, installed⟩

/-- The cells of the table are the planned ones. -/
theorem mem_tableCells (positive : 1 ≤ repetitions)
    (built : v15Specs environ repetitions selected = .ok specs) {cell : Cell} :
    cell ∈ tableCells selected ↔ cell ∈ selectedServers selected ×ˢ fixedClients := by
  rw [tableCells, List.mem_filter, List.mem_product, List.mem_product, decide_eq_true_eq]
  constructor
  · exact fun both => ⟨both.2, both.1.2⟩
  · exact fun both => ⟨⟨known_of_v15Specs positive built both.1, both.2⟩, both.1⟩

/-- A kept record of the comparison is compared, and it is evaluated to itself. -/
theorem compared_of_kept {job : Job} {record : RunRecord}
    (known : ((MatrixRun.v15 selected).plan context).Contains job) (kept : Kept runDir job record) :
    Compared record ∧ V12.splitCondition record.condition = .ok (cellOf record) ∧
      ∃ after, evaluateV15 context.host context.environ record runDir (cellOf record).1
        (cellOf record).2 = .ok (record, after) := by
  obtain ⟨specs, planned, inside, same⟩ := contains_map rfl known
  have again := kept.again
  rw [same] at again
  obtain ⟨names, split, returned⟩ := bind_eq_ok.mp again
  rw [← kept.ofSpec.condition] at split
  have cell : cellOf record = names := by
    rw [cellOf, split]
    rfl
  rw [cell]
  refine ⟨⟨?_, ?_⟩, split, _, returned⟩
  · rw [kept.ofSpec.faultType]
    exact faultType_of_mem_v15Specs planned inside
  · rw [cell]
    exact evaluateV15_labels returned

/-- The records of a finished comparison are compared and evaluated to themselves. They are what the
directory is loaded as, and each planned cell has all its repetitions. -/
theorem finished_servers (distinct : (MatrixRun.v15 selected).Distinct)
    (reached : Transition.run (Matrix.step ((MatrixRun.v15 selected).plan context))
      (.initial runDir) events = some state)
    (finished : Finished state) (positive : 1 ≤ context.repetitions) :
    ∃ loaded, Analyze.loadRecords state.runDir = .ok loaded ∧ loaded.Perm state.records ∧
      (∀ record ∈ state.records, Compared record ∧ ∃ after, evaluateV15 context.host context.environ
        record state.runDir (cellOf record).1 (cellOf record).2 = .ok (record, after)) ∧
      Run.Counted (tableCells selected) context.repetitions.toNat fun cell =>
        state.records.countP fun record => cellOf record = cell := by
  obtain ⟨done, kept, planned⟩ := finished_progress distinct reached finished
  obtain ⟨loaded, read, perm⟩ := loaded_of_finished distinct trivial reached finished
  have each : ∀ record ∈ state.records, Compared record ∧
      V12.splitCondition record.condition = .ok (cellOf record) ∧
      ∃ after, evaluateV15 context.host context.environ record state.runDir (cellOf record).1
        (cellOf record).2 = .ok (record, after) := by
    intro record member
    obtain ⟨job, inside, pair⟩ := exists_of_mem_forall₂ kept.flip member
    exact compared_of_kept ⟨_, planned, List.mem_map_of_mem inside⟩ pair
  refine ⟨loaded, read, perm, fun record member => ⟨(each record member).1, (each record member).2.2⟩, ?_⟩
  obtain ⟨specs, built, same⟩ := map_eq_ok.mp planned
  have plans := Identity.v15Specs_plans context.environ context.repetitions
    (Identity.nodup_selectedServers distinct) built
  have runs := map_runOf_kept kept
  rw [map_spec_of_built same] at runs
  have split : (state.records.map fun record => (record.repetition,
      V12.splitCondition record.condition)) =
        state.records.map fun record => (record.repetition, .ok (cellOf record)) := by
    apply List.map_congr_left
    intro record member
    rw [(each record member).2.1]
  rw [split] at runs
  have counted := Run.counted_of_plans plans runs
  constructor
  · exact fun cell known => counted.inside cell ((mem_tableCells positive built).mp known)
  · exact fun cell unknown => counted.outside cell (mt (mem_tableCells positive built).mpr unknown)

/-- The table of a finished comparison has the planned cells in the order of the servers, each with
all its repetitions and with the counts that its captures and logs show. -/
theorem finished_renderV15 (distinct : (MatrixRun.v15 selected).Distinct)
    (reached : Transition.run (Matrix.step ((MatrixRun.v15 selected).plan context))
      (.initial runDir) events = some state)
    (finished : Finished state) (positive : 1 ≤ context.repetitions) :
    renderV15 context.environ state.runDir = .ok ("\n".intercalate (v15Header ++
      (tableCells selected).map fun cell =>
        v15Row (cell, negotiationCount state.records cell))) ∧
    ∀ cell ∈ tableCells selected,
      (negotiationCount state.records cell).n = context.repetitions.toNat ∧
      CountsShown state.runDir state.records cell (negotiationCount state.records cell) := by
  obtain ⟨loaded, read, perm, each, counted⟩ := finished_servers distinct reached finished positive
  constructor
  · obtain ⟨found, absent⟩ := negotiation_rows (by omega) perm counted
    obtain ⟨rows, labelled, same⟩ := Analyze.textLabels_perm nodup_tableCells found absent
    have sorted : (rows.insertionSort fun first second => RowLe first.1 second.1) =
        (tableCells selected).map fun cell =>
          (cell, negotiationCount state.records cell) := by
      rw [Dict.sorted_rows nodup_tableCells tableCells_antisymm same,
        (pairwise_tableCells.imp fun apart => apart.1).insertionSort_eq]
    have compared : ∀ record ∈ loaded, Compared record :=
      fun record member => (each record (perm.mem_iff.mp member)).1
    rw [renderV15, comparisonV15_eq read compared, ok_bind, labelled, ok_bind]
    show Except.ok ("\n".intercalate (v15Header ++ (rows.insertionSort fun first second =>
      RowLe first.1 second.1).map v15Row)) = _
    rw [sorted, List.map_map]
    rfl
  · intro cell known
    refine ⟨?_, countsShown (fun record member => (each record member).2) cell⟩
    rw [negotiationCount_field (fun _ => true) NegotiationCount.n rfl fun _ _ => rfl,
      ← counted.inside cell known]
    simp

/-- This comparison has one server and one repetition. -/
def sampleComparison : MatrixRun := .v15 (some ["go"])

def sampleSetting : Context := { sampleContext with repetitions := 1 }

/-- The client of this connection offers the groups, and the server selects one of them. -/
def connected (groups shares : List Nat) (group : Nat) : Outcome where
  serverOutput := .text "ACCEPT"
  captureOutput := .text ""
  pcap := .bytes (V18.helloCapture groups shares ++ V18.selectingCapture group)
  events := []
  clientText := "New, TLSv1.3"
  returncode := 0

/-- The server of this comparison takes the first share of each client. -/
def sampleConnections : List Matrix.Event :=
  [.enter, .scenario (connected [0x11EC, 0x001D] [0x11EC] 0x11EC), .evaluate,
    .scenario (connected [0x11EC, 0x001D] [0x001D] 0x001D), .evaluate,
    .scenario (connected [0x001D, 0x11EC] [0x001D] 0x001D), .evaluate]

/-- The captures of this comparison show one hybrid connection of the first client. -/
theorem finished_renderV15_sample : ∃ state,
    Transition.run (Matrix.step (sampleComparison.plan sampleSetting)) (.initial .empty)
      sampleConnections = some state ∧
    renderV15 .empty state.runDir = .ok ("\n".intercalate (v15Header ++
      [("go", "C1"), ("go", "C2"), ("go", "C3")].map fun cell =>
        v15Row (cell, negotiationCount state.records cell))) ∧
    (negotiationCount state.records ("go", "C1")).n = 1 ∧
    (negotiationCount state.records ("go", "C1")).hybrid = 1 ∧
    (state.records.countP fun record =>
      cellOf record = ("go", "C1") && showsOffer state.runDir record "C1") = 1 := by
  have ends : ((Transition.run (Matrix.step (sampleComparison.plan sampleSetting)) (.initial .empty)
      sampleConnections).map fun state => (decide (Finished state),
        (negotiationCount state.records ("go", "C1")).hybrid,
        (negotiationCount state.records ("go", "C1")).precondition)) = some (true, 1, 1) := by
    decide +kernel
  obtain ⟨state, reached, facts⟩ := Option.map_eq_some_iff.mp ends
  simp only [Prod.mk.injEq, decide_eq_true_eq] at facts
  obtain ⟨finished, hybrid, offer⟩ := facts
  have distinct : sampleComparison.Distinct := List.nodup_singleton _
  obtain ⟨rendered, counts⟩ := finished_renderV15 distinct reached finished (by decide)
  obtain ⟨one, shown⟩ := counts ("go", "C1") (by decide)
  exact ⟨state, reached, rendered, one, hybrid, shown.precondition.symm.trans offer⟩

end Finished

end FaultInject.V15
