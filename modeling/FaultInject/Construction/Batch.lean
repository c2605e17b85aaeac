import FaultInject.Construction.Run

/-
This file models the runs that verify each record behind its scenario.
-/

namespace FaultInject.Run
open Python Record Harness FaultBinding FaultGroupList VerifyApplied

def smokeSpecs (environ : Dict String String) : Result (List ScenarioSpec) :=
  let environment := phase2Environment environ
  ((implementations.map fun impl => groupListSpec impl 1 environment phase2Paths) ++
    implementations.map fun impl => bindingSpec impl 1 environment phase2Paths).mapM id

/-- These are the runs of `main` with their arguments. -/
inductive VerifiedRun where
  | smoke
  | batch (repetitions : Int)
  | v11 (repetitions : Int)

/-- Each run takes the scenarios of its list. -/
def VerifiedRun.specs (environ : Dict String String) : VerifiedRun → Result (List ScenarioSpec)
  | smoke => smokeSpecs environ
  | batch repetitions => batchSpecs repetitions environ
  | v11 repetitions => v11Specs repetitions environ

/-- This is a state of `[verify_record(run_scenario(spec), out_dir) for spec in specs]`. -/
structure Batch where
  outDir : Directory
  todo : List ScenarioSpec
  /-- This is the list so far. -/
  records : List RunRecord
  /-- A verification raised this error. -/
  raised : Option Error

def Batch.initial (specs : List ScenarioSpec) (outDir : Directory) : Batch where
  outDir := outDir
  todo := specs
  records := []
  raised := none

/-- A step runs and verifies the next scenario. The scenario has written its files
when the verification raises. -/
def Batch.step (evidence : Evidence) (batch : Batch) (outcome : Outcome) : Option Batch :=
  match batch.raised, batch.todo with
  | none, spec :: todo =>
    match runScenario spec outcome batch.outDir with
    | some (.ok (record, outDir)) =>
      match verifyRecord evidence record outDir with
      | .ok (marked, outDir) =>
        some {
          outDir := outDir
          todo := todo
          records := batch.records ++ [marked]
          raised := none }
      | .error error => some { batch with outDir := outDir, raised := some error }
    | _ => none
  | _, _ => none

/-- The list is complete. -/
structure Batch.Finished (batch : Batch) : Prop where
  todo : batch.todo = []
  raised : batch.raised = none

end FaultInject.Run
