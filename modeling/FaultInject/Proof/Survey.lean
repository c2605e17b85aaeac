import FaultInject.Proof.GroupNames
import FaultInject.Proof.SortedRows

namespace FaultInject.V16
open Python Record Harness PcapHello V12

section Grease

/-- This is one joined part. -/
def foldedName (code : Nat) : String := if GreaseCode code then "GREASE" else groupText code

/-- This is the printed list of the codes. -/
def foldedText (codes : List Nat) : String := join ',' (codes.map foldedName)

theorem grease_groupNamesOf (codes : List Nat) : grease (groupNamesOf codes) = foldedText codes := by
  rw [grease, groupNamesOf_eq, List.map_map, foldedText]
  congr 1
  apply List.map_congr_left
  intro code _
  exact if_congr (isGreaseName_groupText code) rfl rfl

end Grease

/-- The record is a survey run of the client with these groups and shares. -/
structure SurveyRun (record : RunRecord) (client : String) (groups shares : List Nat) : Prop where
  part : record.provenance.get? "part" = some (.str "client-survey")
  client : record.provenance.get? "client" = some (.str client)
  groups : record.provenance.get? "client_hello_groups" =
    some (.list ((groupNamesOf groups).map .str))
  shares : record.provenance.get? "client_hello_key_shares" =
    some (.list ((groupNamesOf shares).map .str))

/-- The evaluation of a survey run stores the first ClientHello of its capture. -/
theorem evaluateV16_surveyRun {host : String → Option Bytes} {record evaluated : RunRecord}
    {runDir after : Directory} {spec : ScenarioSpec} (survey : spec.faultType = "client-default")
    (returned : evaluateV16 host record runDir spec = .ok (evaluated, after)) :
    ∃ summary, captureSummary runDir record = .ok summary ∧
      SurveyRun evaluated spec.condition (firstHello summary).1 (firstHello summary).2 := by
  obtain ⟨summary, captured, returned⟩ := bind_eq_ok.mp returned
  obtain ⟨binary, _, returned⟩ := bind_eq_ok.mp returned
  simp only [survey, conditionNames, bind_eq_ok, if_true, Except.ok.injEq, Prod.mk.injEq] at returned
  obtain ⟨_, named, verified, _, rfl, _⟩ := returned
  rw [if_neg (by decide), if_neg (by decide), Except.ok.injEq] at named
  cases named
  refine ⟨summary, captured, ?_, ?_, ?_, ?_⟩ <;>
    · rw [Option.toList_none, List.map_nil, List.append_nil, List.cons_append]
      rw [Dict.get?_ofEntries (by simp)]
      rfl

/-- This is the row of the survey table that counts the record. -/
def rowOf (record : RunRecord) : Option SurveyKey :=
  if hasPart record "client-survey" then (surveyKey record).toOption else none

theorem SurveyRun.rowOf_eq {record : RunRecord} {client : String} {groups shares : List Nat}
    (run : SurveyRun record client groups shares) :
    rowOf record = some (client, foldedText groups, foldedText shares) := by
  have text (value : String) : (Value.str value).text = .ok value := rfl
  have survey : hasPart record "client-survey" = true := by
    rw [hasPart, run.part]
    rfl
  rw [rowOf, if_pos survey, toOption_eq_some, surveyKey, Dict.getItem_eq_ok.mpr run.client, ok_bind,
    text, ok_bind, Dict.getItem_eq_ok.mpr run.groups, ok_bind, Value.texts_eq_ok.mpr rfl, ok_bind,
    Dict.getItem_eq_ok.mpr run.shares, ok_bind, Value.texts_eq_ok.mpr rfl, ok_bind,
    grease_groupNamesOf, grease_groupNamesOf]

section Count
variable {tables counted : Tables}

end Count

section Sample

end Sample

end FaultInject.V16
