import FaultInject.Construction.Harness

/-
This file models the loop over the scenarios that the matrix runs share.
An interruption leaves the run directory of a reached state behind.
-/

namespace FaultInject.Matrix
open Python Record Harness

/-- This is the file that a run writes before its scenarios. Its text depends
on the output of the version commands. -/
structure Inventory where
  name : String
  text : (List String → String) → String

/-- A round of the loop runs a scenario and evaluates its record. -/
structure Job where
  spec : ScenarioSpec
  evaluate : RunRecord → Directory → Result (RunRecord × Directory)

/-- These are the parts of a matrix run. -/
structure Plan where
  /-- The guard raises before the first write. -/
  guard : Directory → Result Unit
  inventory : Option Inventory
  /-- A specification that is built inside the loop can raise there. -/
  jobs : Result (List (Result Job))

inductive Phase where
  | entered
  | raised (error : Error)
  /-- The inventory is not written yet. -/
  | listing
  /-- The record of the current specification is not written yet. -/
  | running
  /-- The scenario wrote its record and the evaluation did not. -/
  | recorded (record : RunRecord)
  /-- The run ended inside the write of a record. -/
  | torn

structure State where
  runDir : Directory
  phase : Phase
  /-- The head is the current round. -/
  todo : List (Result Job)
  /-- This is the list that the run returns. -/
  records : List RunRecord

def State.initial (runDir : Directory) : State where
  runDir := runDir
  phase := .entered
  todo := []
  records := []

inductive Event where
  | enter
  | inventory (versions : List String → String)
  /-- The inventory is written in part. -/
  | tearInventory (content : String)
  /-- The next specification cannot be built. -/
  | fail
  /-- A started program writes one of its files. -/
  | output (name : String) (file : File)
  | scenario (outcome : Outcome)
  /-- The first record is written in part. -/
  | tearScenario (outcome : Outcome) (content : String)
  | evaluate
  /-- The evaluated record is written in part. -/
  | tearEvaluate (content : String)

def identifier (spec : ScenarioSpec) : String :=
  runId spec.impl spec.faultType spec.repetition spec.condition

/-- This is the name of the record file of a specification. -/
def recordName (spec : ScenarioSpec) : String := s!"{identifier spec}.json"

/-- This is the directory with only a part of the text of a record. -/
def tear (runDir : Directory) (record : RunRecord) (content : String) : Option Directory :=
  let text := Json.dumps 0 record.toValue
  if content.toList.isPrefixOf text.toList && content != text then
    some (runDir.set s!"{record.runId}.json" (.text content))
  else none

/-- This is the run up to its loop. -/
def Plan.enter (plan : Plan) (state : State) : State :=
  match plan.guard state.runDir with
  | .error error => { state with phase := .raised error }
  | .ok () =>
    match plan.jobs with
    | .error error => { state with phase := .raised error }
    | .ok jobs =>
      { state with
        phase := if plan.inventory.isSome then .listing else .running
        todo := jobs }

/-- An event is possible only at its place in the run. -/
def step (plan : Plan) (state : State) : Event → Option State
  | .enter =>
    match state.phase with
    | .entered => some (plan.enter state)
    | _ => none
  | .inventory versions =>
    match state.phase, plan.inventory with
    | .listing, some inventory => some { state with
        runDir := state.runDir.set inventory.name (.text (inventory.text versions))
        phase := .running }
    | _, _ => none
  | .tearInventory content =>
    match state.phase, plan.inventory with
    | .listing, some inventory => some { state with
        runDir := state.runDir.set inventory.name (.text content)
        phase := .torn }
    | _, _ => none
  | .fail =>
    match state.phase, state.todo with
    | .running, .error error :: _ => some { state with phase := .raised error }
    | _, _ => none
  | .output name file =>
    match state.phase, state.todo with
    | .running, .ok job :: _ =>
      if name ∈ outputNames job.spec (identifier job.spec) then
        some { state with runDir := state.runDir.set name file }
      else none
    | _, _ => none
  | .scenario outcome =>
    match state.phase, state.todo with
    | .running, .ok job :: _ =>
      match runScenario job.spec outcome state.runDir with
      | some (.ok (record, runDir)) =>
        some { state with runDir := runDir, phase := .recorded record }
      | _ => none
    | _, _ => none
  | .tearScenario outcome content =>
    match state.phase, state.todo with
    | .running, .ok job :: _ =>
      match runScenario job.spec outcome state.runDir with
      | some (.ok (record, runDir)) =>
        (tear runDir record content).map fun runDir =>
          { state with runDir := runDir, phase := .torn }
      | _ => none
    | _, _ => none
  | .evaluate =>
    match state.phase, state.todo with
    | .recorded record, .ok job :: todo =>
      match job.evaluate record state.runDir with
      | .ok (evaluated, runDir) => some {
          runDir := runDir
          phase := .running
          todo := todo
          records := state.records ++ [evaluated] }
      | .error _ => none
    | _, _ => none
  | .tearEvaluate content =>
    match state.phase, state.todo with
    | .recorded record, .ok job :: _ =>
      match job.evaluate record state.runDir with
      | .ok (evaluated, runDir) =>
        (tear runDir evaluated content).map fun runDir =>
          { state with runDir := runDir, phase := .torn }
      | .error _ => none
    | _, _ => none

/-- A fresh directory has no JSON file. -/
def freshGuard (outDir : String) (runDir : Directory) : Result Unit :=
  if runDir.glob "*.json" = [] then .ok ()
  else .error (.runtimeError s!"{outDir} is not empty; choose a fresh --output-dir")

end FaultInject.Matrix
