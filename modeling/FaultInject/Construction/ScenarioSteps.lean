import FaultInject.Python.Effect
import FaultInject.Construction.Harness

/-
This file follows `run_scenario` over its external steps, which may fail one by one.
-/

namespace FaultInject.Harness
open Python Record

/-- An external step succeeds, raises an exception or reaches its time limit. -/
inductive StepOutcome where
  | succeeds
  | raises (error : Error)
  | timesOut
  deriving DecidableEq

/-- These are the exceptions of a scenario. -/
inductive Failure where
  | raised (error : Error)
  | timeoutError (message : String)
  | timeoutExpired

/-- This is the thread of the proxy. -/
inductive Thread where
  | unstarted
  | running
  | returned
  | failed
  deriving DecidableEq

/-- The thread has ended, perhaps with an exception. -/
def Thread.ended (failed : Bool) : Thread := if failed then .failed else .returned

/-- The join ends with the thread or at its time limit. Behind the time limit the thread may have
ended when its errors are read. -/
inductive JoinOutcome where
  | joined (failed : Bool)
  | raises (error : Error)
  | timesOut (ended : Option Bool)

structure Process where
  started : Bool := false
  waited : Bool := false
  signalled : Bool := false

/-- This is what a scenario has started, stopped and written so far. -/
structure Activity where
  runDir : Directory
  server : Process := {}
  capture : Process := {}
  proxyThread : Option Thread := none
  clientFinished : Bool := false
  written : Option RunRecord := none

/-- These are the outcomes of the external steps in the order of the source. -/
structure ScenarioSteps where
  openLogs : StepOutcome
  startServer : StepOutcome
  startCapture : StepOutcome
  pcapFile : StepOutcome
  listener : StepOutcome
  /-- The capture has exited when it is polled behind the listener. -/
  captureExited : Bool
  startProxy : StepOutcome
  proxyReady : StepOutcome
  client : StepOutcome
  terminateServer : StepOutcome
  waitServer : StepOutcome
  waitCapture : StepOutcome
  signalCapture : StepOutcome
  waitSignalled : StepOutcome
  joinProxy : JoinOutcome
  writeClientLog : StepOutcome
  writeRecord : StepOutcome

abbrev ScenarioEffect (A : Type) := Effect Failure Activity A

/-- A step that succeeds makes its change. -/
def perform (outcome : StepOutcome) (change : Activity → Activity := id)
    (timeout : Failure := .timeoutExpired) : ScenarioEffect Unit :=
  match outcome with
  | .succeeds => modify change
  | .raises error => throw (.raised error)
  | .timesOut => throw timeout

/-- This is the join of a started thread. -/
def JoinOutcome.join : JoinOutcome → ScenarioEffect Unit
  | .joined failed => modify fun activity => { activity with proxyThread := some (.ended failed) }
  | .raises error => throw (.raised error)
  | .timesOut none => pure ()
  | .timesOut (some failed) =>
    modify fun activity => { activity with proxyThread := some (.ended failed) }

/-- The outcomes of the started programs are those of a scenario that ends in time. -/
structure ScenarioRun where
  spec : ScenarioSpec
  steps : ScenarioSteps
  outcome : Outcome

namespace ScenarioRun
variable (run : ScenarioRun)

def identifier : String :=
  runId run.spec.impl run.spec.faultType run.spec.repetition run.spec.condition

/-- This is `spec.server_listen_port or spec.listen_port`. -/
def serverPort : Nat :=
  match run.spec.serverListenPort with
  | some port => if port = 0 then run.spec.listenPort else port
  | none => run.spec.listenPort

def hasProxy : Bool := run.spec.proxyUpstreamPort.isSome && run.spec.proxyMutate.isSome

def startCapture : ScenarioEffect Unit := do
  perform run.steps.startCapture fun activity =>
    { activity with capture := { started := true } }
  perform run.steps.pcapFile id
    (.timeoutError "tshark did not create a capture file within 5s")

def pollCapture : ScenarioEffect Unit :=
  Effect.onlyIf run.steps.captureExited
    (throw (.raised (.runtimeError "tshark exited before the capture stabilized")))

def startProxy : ScenarioEffect Unit := do
  modify fun activity => { activity with proxyThread := some .unstarted }
  perform run.steps.startProxy fun activity => { activity with proxyThread := some .running }
  perform run.steps.proxyReady id (.timeoutError "proxy did not begin listening within 5s")

/-- This is the part of the body behind the start of the capture. -/
def serve : ScenarioEffect Unit := do
  let port := run.serverPort
  perform run.steps.listener id
    (.timeoutError s!"Server did not listen on 127.0.0.1:{port} within 5s")
  Effect.onlyIf run.spec.captureTraffic run.pollCapture
  Effect.onlyIf run.hasProxy run.startProxy
  perform run.steps.client fun activity => { activity with clientFinished := true }

/-- This is the body of the `try` statement. -/
def body : ScenarioEffect Unit := do
  Effect.onlyIf run.spec.captureTraffic run.startCapture
  run.serve

def stopServer : ScenarioEffect Unit := do
  perform run.steps.terminateServer fun activity =>
    { activity with server := { activity.server with signalled := true } }
  perform run.steps.waitServer fun activity =>
    { activity with server := { activity.server with waited := true } }

def captureWaited (activity : Activity) : Activity :=
  { activity with capture := { activity.capture with waited := true } }

/-- This is the handler of `subprocess.TimeoutExpired`. -/
def interruptCapture (failure : Failure) : ScenarioEffect Unit :=
  match failure with
  | .timeoutExpired => do
    perform run.steps.signalCapture fun activity =>
      { activity with capture := { activity.capture with signalled := true } }
    perform run.steps.waitSignalled captureWaited
  | other => throw other

def stopCapture : ScenarioEffect Unit := do
  let activity ← get
  Effect.onlyIf activity.capture.started
    (tryCatch (perform run.steps.waitCapture captureWaited) run.interruptCapture)

def joinProxy : ScenarioEffect Unit := do
  let activity ← get
  match activity.proxyThread with
  | none => pure ()
  | some .unstarted => throw (.raised (.runtimeError "cannot join thread before it is started"))
  | some _ => run.steps.joinProxy.join

/-- This is the `finally` clause. -/
def cleanup : ScenarioEffect Unit := do
  run.stopServer
  run.stopCapture
  run.joinProxy

/-- This is the part behind the `finally` clause. -/
def finish : ScenarioEffect RunRecord := do
  let activity ← get
  Effect.onlyIf (activity.proxyThread == some .failed)
    (throw (.raised (.runtimeError "proxy failed")))
  let clientLog := s!"{run.identifier}-client.log"
  perform run.steps.writeClientLog fun activity =>
    { activity with runDir := activity.runDir.set clientLog (.text run.outcome.clientText) }
  match scenarioRecord run.spec run.identifier run.outcome activity.runDir with
  | .error error => throw (.raised error)
  | .ok (record, after) => do
    perform run.steps.writeRecord fun activity =>
      { activity with runDir := after, written := some record }
    pure record

/-- This is `run_scenario`. -/
def scenario : ScenarioEffect RunRecord := do
  perform run.steps.openLogs
  perform run.steps.startServer fun activity => { activity with server := { started := true } }
  tryFinally run.body run.cleanup
  run.finish

end ScenarioRun

end FaultInject.Harness
