import FaultInject.Construction.ScenarioSteps

/-
This file follows what a scenario leaves behind, for all outcomes of its external steps.
-/

namespace FaultInject.Harness
open Python Record Effect

section Step
variable {A : Type} {outcome : StepOutcome} {change : Activity → Activity} {timeout : Failure}
  {state : Activity}

/-- A step either succeeds and makes its change, or raises and makes none. -/
theorem ends_perform {post : Except Failure Unit → Activity → Prop}
    (succeeded : outcome = .succeeds → post (.ok ()) (change state))
    (failed : outcome ≠ .succeeds → ∀ failure, post (.error failure) state) :
    Ends (perform outcome change timeout) post state := by
  cases outcome with
  | succeeds => exact succeeded rfl
  | raises error => exact failed (by simp) (.raised error)
  | timesOut => exact failed (by simp) timeout

theorem ends_perform_timesOut {post : Except Failure Unit → Activity → Prop} :
    Ends (perform .timesOut change timeout) post state ↔ post (.error timeout) state := Iff.rfl

theorem ends_perform_raises {post : Except Failure Unit → Activity → Prop} {error : Error} :
    Ends (perform (.raises error) change timeout) post state ↔ post (.error (.raised error)) state :=
  Iff.rfl

theorem ends_perform_bind {post : Except Failure A → Activity → Prop} {next : ScenarioEffect A}
    (succeeded : outcome = .succeeds → Ends next post (change state))
    (failed : outcome ≠ .succeeds → ∀ failure, post (.error failure) state) :
    Ends (perform outcome change timeout >>= fun _ => next) post state :=
  ends_bind.mpr (ends_perform succeeded failed)

end Step

/-- The computation returned. -/
def Returned {A : Type} (result : Except Failure A) : Prop := ∃ value, result = .ok value

@[simp] theorem returned_ok {A : Type} (value : A) :
    Returned (.ok value : Except Failure A) := ⟨value, rfl⟩

@[simp] theorem not_returned_error {A : Type} (failure : Failure) :
    ¬Returned (.error failure : Except Failure A) := fun ⟨_, same⟩ => nomatch same

/-- The directory and the record are kept. -/
def SameFiles (start state : Activity) : Prop :=
  state.written = start.written ∧ state.runDir = start.runDir

/-- This is the thread when its errors are read, unless the join raises. -/
def JoinOutcome.thread : JoinOutcome → Option Thread
  | .joined failed => some (.ended failed)
  | .raises _ => none
  | .timesOut none => some .running
  | .timesOut (some failed) => some (.ended failed)

namespace ScenarioRun
variable (run : ScenarioRun)

def StartsCapture : Prop :=
  run.steps.openLogs = .succeeds ∧ run.steps.startServer = .succeeds ∧
    run.spec.captureTraffic = true ∧ run.steps.startCapture = .succeeds

def StopsServer : Prop :=
  run.steps.terminateServer = .succeeds ∧ run.steps.waitServer = .succeeds

/-- The capture is waited for or signalled. -/
def ReleasesCapture : Prop :=
  run.steps.waitCapture = .succeeds ∨
    run.steps.waitCapture = .timesOut ∧ run.steps.signalCapture = .succeeds

def StopsCapture : Prop :=
  run.steps.waitCapture = .succeeds ∨
    run.steps.waitCapture = .timesOut ∧ run.steps.signalCapture = .succeeds ∧
      run.steps.waitSignalled = .succeeds

def BodyReturns : Prop :=
  (run.spec.captureTraffic = true → run.steps.startCapture = .succeeds ∧
    run.steps.pcapFile = .succeeds ∧ run.steps.captureExited = false) ∧
  run.steps.listener = .succeeds ∧
  (run.hasProxy = true → run.steps.startProxy = .succeeds ∧ run.steps.proxyReady = .succeeds) ∧
  run.steps.client = .succeeds

/-- The steps that the scenario takes let it return. -/
structure Finishes : Prop where
  openLogs : run.steps.openLogs = .succeeds
  startServer : run.steps.startServer = .succeeds
  body : run.BodyReturns
  stopsServer : run.StopsServer
  stopsCapture : run.spec.captureTraffic = true → run.StopsCapture
  joins : run.hasProxy = true → run.steps.joinProxy.thread = some .running ∨
    run.steps.joinProxy.thread = some .returned
  writeClientLog : run.steps.writeClientLog = .succeeds
  parses : ∃ metrics, scenarioMetrics run.spec run.outcome = .ok metrics
  writeRecord : run.steps.writeRecord = .succeeds

/-- This is what the body of the `try` statement leaves. -/
structure BodyEnds (start : Activity) (result : Except Failure Unit) (state : Activity) : Prop where
  returned : Returned result ↔ run.BodyReturns
  capture : state.capture = if run.spec.captureTraffic = true ∧ run.steps.startCapture = .succeeds
    then { started := true } else start.capture
  files : SameFiles start state
  finished : Returned result → state.clientFinished = true
  proxy : Returned result →
    state.proxyThread = if run.hasProxy then some .running else start.proxyThread

theorem ends_startCapture (start : Activity) : Ends run.startCapture (fun result state =>
    (Returned result ↔ run.steps.startCapture = .succeeds ∧ run.steps.pcapFile = .succeeds) ∧
      state = if run.steps.startCapture = .succeeds then
        { start with capture := { started := true } } else start) start := by
  apply ends_perform_bind
  · intro started
    apply ends_perform
    · intro found
      simp [started, found]
    · intro missing failure
      simp [started, missing]
  · intro failed failure
    simp [failed]

theorem ends_startProxy (start : Activity) : Ends run.startProxy (fun result state =>
    (Returned result ↔ run.steps.startProxy = .succeeds ∧ run.steps.proxyReady = .succeeds) ∧
      ∃ thread, state = { start with proxyThread := some thread } ∧
        (Returned result → thread = .running)) start := by
  rw [startProxy, ends_modify_bind]
  apply ends_perform_bind
  · intro started
    apply ends_perform
    · intro ready
      simp [started, ready]
    · intro late failure
      simp [started, late]
  · intro failed failure
    simp [failed]

/-- This is what the part behind the start of the capture leaves. -/
structure ServeEnds (start : Activity) (result : Except Failure Unit) (state : Activity) : Prop where
  returned : Returned result ↔ run.steps.listener = .succeeds ∧
    (run.spec.captureTraffic = true → run.steps.captureExited = false) ∧
    (run.hasProxy = true → run.steps.startProxy = .succeeds ∧ run.steps.proxyReady = .succeeds) ∧
    run.steps.client = .succeeds
  capture : state.capture = start.capture
  files : SameFiles start state
  finished : Returned result → state.clientFinished = true
  proxy : Returned result →
    state.proxyThread = if run.hasProxy then some .running else start.proxyThread

theorem ends_pollCapture (start : Activity) :
    Ends (onlyIf run.spec.captureTraffic run.pollCapture) (fun result state => state = start ∧
      (Returned result ↔ (run.spec.captureTraffic = true → run.steps.captureExited = false)))
      start := by
  rw [ends_onlyIf, pollCapture, ends_onlyIf]
  cases run.spec.captureTraffic <;> cases run.steps.captureExited <;> simp

theorem ends_proxy (start : Activity) : Ends (onlyIf run.hasProxy run.startProxy) (fun result state =>
    (Returned result ↔ (run.hasProxy = true →
      run.steps.startProxy = .succeeds ∧ run.steps.proxyReady = .succeeds)) ∧
    state.capture = start.capture ∧ SameFiles start state ∧ (Returned result →
      state.proxyThread = if run.hasProxy then some .running else start.proxyThread)) start := by
  rw [ends_onlyIf]
  constructor
  · intro proxy
    apply (run.ends_startProxy start).mono
    intro result state facts
    obtain ⟨returned, thread, rfl, running⟩ := facts
    simpa [proxy, returned, SameFiles] using running
  · intro none
    simp [none, SameFiles]

theorem ends_serve (start : Activity) : Ends run.serve (run.ServeEnds start) start := by
  apply ends_perform_bind
  · intro listening
    apply (run.ends_pollCapture start).bind
    · intro _ state facts
      obtain ⟨rfl, polled⟩ := facts
      simp only [returned_ok, true_iff] at polled
      apply (run.ends_proxy state).bind
      · intro _ behind ⟨ready, capture, files, proxy⟩
        simp only [returned_ok, true_iff, true_implies] at ready proxy
        apply ends_perform
        · intro finished
          exact ⟨iff_of_true (returned_ok _) ⟨listening, polled, ready, finished⟩, capture, files,
            fun _ => rfl, fun _ => proxy⟩
        · intro failed failure
          exact ⟨by simp [failed], capture, files, by simp, by simp⟩
      · intro failure behind ⟨ready, capture, files, _⟩
        simp only [not_returned_error, false_iff] at ready
        exact ⟨by simp [ready], capture, files, by simp, by simp⟩
    · intro failure state facts
      obtain ⟨rfl, polled⟩ := facts
      simp only [not_returned_error, false_iff] at polled
      constructor <;> simp [polled, SameFiles]
  · intro failed failure
    constructor <;> simp [failed, SameFiles]

theorem ends_body (start : Activity) : Ends run.body (run.BodyEnds start) start := by
  cases captured : run.spec.captureTraffic with
  | false =>
      rw [body, captured]
      apply (run.ends_serve start).mono
      intro result state ⟨returned, capture, files, finished, proxy⟩
      refine ⟨?_, by simp [captured, capture], files, finished, proxy⟩
      rw [returned]
      simp [BodyReturns, captured]
  | true =>
      rw [body, captured]
      apply (run.ends_startCapture start).bind
      · intro _ state facts
        obtain ⟨returned, rfl⟩ := facts
        obtain ⟨started, found⟩ := returned.mp (returned_ok _)
        apply (run.ends_serve _).mono
        intro result state ⟨returned, capture, files, finished, proxy⟩
        rw [if_pos started] at capture files proxy
        refine ⟨?_, by simp [captured, started, capture], files, finished, proxy⟩
        rw [returned]
        simp [BodyReturns, captured, started, found, and_left_comm]
      · intro failure state facts
        obtain ⟨returned, rfl⟩ := facts
        simp only [not_returned_error, false_iff, not_and] at returned
        refine ⟨?_, ?_, ?_, by simp, by simp⟩
        · simp only [not_returned_error, false_iff]
          intro body
          obtain ⟨started, found, _⟩ := body.1 captured
          exact returned started found
        · simp only [captured, true_and]
          split <;> rfl
        · split <;> exact ⟨rfl, rfl⟩

/-- The server is stopped, and nothing else changes. -/
theorem ends_stopServer (start : Activity) : Ends run.stopServer (fun result state =>
    (Returned result ↔ run.StopsServer) ∧ ∃ server, state = { start with server := server })
      start := by
  apply ends_perform_bind
  · intro terminated
    apply ends_perform
    · intro waited
      simp [StopsServer, terminated, waited]
    · intro late failure
      simp [StopsServer, late]
  · intro failed failure
    exact ⟨by simp [StopsServer, failed], start.server, rfl⟩

/-- The started capture is released if the steps release it, and nothing else changes. -/
theorem ends_stopCapture (start : Activity) (fresh : start.capture.waited = false)
    (silent : start.capture.signalled = false) : Ends run.stopCapture (fun result state =>
      (Returned result ↔ (start.capture.started = true → run.StopsCapture)) ∧
      ∃ capture, state = { start with capture := capture } ∧
        capture.started = start.capture.started ∧ (start.capture.started = true →
          (capture.waited = true ∨ capture.signalled = true ↔ run.ReleasesCapture))) start := by
  rw [stopCapture, ends_get_bind, ends_onlyIf, ends_tryCatch]
  constructor
  · intro started
    cases waiting : run.steps.waitCapture with
    | succeeds =>
        refine ⟨by simp [StopsCapture, waiting], _, rfl, rfl, ?_⟩
        simp [ReleasesCapture, waiting]
    | raises error =>
        rw [ends_perform_raises, onRaise_error]
        change Ends (throw (Failure.raised error) : ScenarioEffect Unit) _ start
        rw [ends_throw]
        refine ⟨?_, start.capture, rfl, rfl, ?_⟩
        · have stuck : ¬run.StopsCapture := by simp [StopsCapture, waiting]
          simp [started, stuck]
        · simp [fresh, silent, ReleasesCapture, waiting]
    | timesOut =>
        rw [ends_perform_timesOut, onRaise_error]
        apply ends_perform_bind
        · intro signalled
          apply ends_perform
          · intro waited
            refine ⟨by simp [StopsCapture, waiting, signalled, waited], _, rfl, rfl, ?_⟩
            simp [ReleasesCapture, waiting, signalled]
          · intro late failure
            refine ⟨by simp [started, StopsCapture, waiting, late], _, rfl, rfl, ?_⟩
            simp [ReleasesCapture, waiting, signalled]
        · intro failed failure
          refine ⟨by simp [started, StopsCapture, waiting, failed], _, rfl, rfl, ?_⟩
          simp [fresh, silent, ReleasesCapture, waiting, failed]
  · intro idle
    exact ⟨by simp [idle], start.capture, rfl, rfl, by simp [idle]⟩

theorem ends_join (outcome : JoinOutcome) (start : Activity) :
    Ends outcome.join (fun result state =>
      (∃ thread, state = { start with proxyThread := thread }) ∧
      (Returned result ↔ outcome.thread ≠ none) ∧
      (start.proxyThread = some .running → Returned result → state.proxyThread = outcome.thread))
      start := by
  have kept : start = { start with proxyThread := start.proxyThread } := rfl
  cases outcome with
  | joined failed =>
      rw [JoinOutcome.join, ends_modify]
      exact ⟨⟨_, rfl⟩, by simp [JoinOutcome.thread], fun _ _ => rfl⟩
  | raises error =>
      rw [JoinOutcome.join, ends_throw]
      exact ⟨⟨_, kept⟩, by simp [JoinOutcome.thread], by simp⟩
  | timesOut ended =>
      cases ended with
      | none =>
          rw [JoinOutcome.join, ends_pure]
          exact ⟨⟨_, kept⟩, by simp [JoinOutcome.thread], fun running _ => running⟩
      | some failed =>
          rw [JoinOutcome.join, ends_modify]
          exact ⟨⟨_, rfl⟩, by simp [JoinOutcome.thread], fun _ _ => rfl⟩

/-- This is what the last part of the `finally` clause leaves. -/
structure JoinEnds (start : Activity) (result : Except Failure Unit) (state : Activity) : Prop where
  kept : ∃ thread, state = { start with proxyThread := thread }
  idle : start.proxyThread = none → Returned result ∧ state.proxyThread = none
  returned : start.proxyThread = some .running →
    (Returned result ↔ run.steps.joinProxy.thread ≠ none)
  thread : start.proxyThread = some .running → Returned result →
    state.proxyThread = run.steps.joinProxy.thread

/-- A running thread is joined, and nothing else changes. -/
theorem ends_joinProxy (start : Activity) : Ends run.joinProxy (run.JoinEnds start) start := by
  have kept : start = { start with proxyThread := start.proxyThread } := rfl
  rw [joinProxy, ends_get_bind]
  cases placed : start.proxyThread with
  | none =>
      rw [ends_pure]
      exact ⟨⟨_, kept⟩, fun _ => ⟨returned_ok _, placed⟩, by simp [placed], by simp [placed]⟩
  | some thread =>
      have joined : Ends run.steps.joinProxy.join (run.JoinEnds start) start := by
        apply (ends_join run.steps.joinProxy start).mono
        intro result state ⟨same, returned, running⟩
        exact ⟨same, by simp [placed], fun _ => returned, running⟩
      cases thread with
      | unstarted =>
          rw [ends_throw]
          exact ⟨⟨_, kept⟩, by simp [placed], by simp [placed], by simp⟩
      | running => exact joined
      | returned => exact joined
      | failed => exact joined

/-- This is what the `finally` clause leaves. -/
structure CleanupEnds (start : Activity) (result : Except Failure Unit) (state : Activity) : Prop where
  started : state.capture.started = start.capture.started
  released : start.capture.started = true → (state.capture.waited = true ∨
    state.capture.signalled = true ↔ run.StopsServer ∧ run.ReleasesCapture)
  files : SameFiles start state
  finished : state.clientFinished = start.clientFinished
  returned : start.proxyThread = none ∨ start.proxyThread = some .running → (Returned result ↔
    run.StopsServer ∧ (start.capture.started = true → run.StopsCapture) ∧
      (start.proxyThread = some .running → run.steps.joinProxy.thread ≠ none))
  proxy : Returned result → (start.proxyThread = none → state.proxyThread = none) ∧
    (start.proxyThread = some .running → state.proxyThread = run.steps.joinProxy.thread)

theorem ends_cleanup (start : Activity) (fresh : start.capture.waited = false)
    (silent : start.capture.signalled = false) :
    Ends run.cleanup (run.CleanupEnds start) start := by
  apply (run.ends_stopServer start).bind
  · intro _ state facts
    obtain ⟨stopped, server, rfl⟩ := facts
    replace stopped := stopped.mp (returned_ok _)
    apply (run.ends_stopCapture { start with server := server } fresh silent).bind
    · intro _ state facts
      obtain ⟨ended, capture, rfl, started, released⟩ := facts
      replace ended := ended.mp (returned_ok _)
      apply (run.ends_joinProxy _).mono
      intro result state facts
      obtain ⟨⟨thread, rfl⟩, idle, returned, joined⟩ := facts
      refine ⟨started, ?_, ⟨rfl, rfl⟩, rfl, ?_, ?_⟩
      · intro captured
        rw [and_iff_right stopped]
        exact released captured
      · rintro (none | running)
        · exact iff_of_true (idle none).1 ⟨stopped, ended, by simp [none]⟩
        · rw [returned running, and_iff_right stopped, and_iff_right ended]
          simp [running]
      · intro joins
        exact ⟨fun none => (idle none).2, fun running => joined running joins⟩
    · intro failure state facts
      obtain ⟨ended, capture, rfl, started, released⟩ := facts
      have failed : ¬(start.capture.started = true → run.StopsCapture) := fun stops =>
        not_returned_error _ (ended.mpr stops)
      refine ⟨started, ?_, ⟨rfl, rfl⟩, rfl, ?_, by simp⟩
      · intro captured
        rw [and_iff_right stopped]
        exact released captured
      · intro _
        simp only [not_returned_error, false_iff]
        exact fun stops => failed stops.2.1
  · intro failure state facts
    obtain ⟨stopped, server, rfl⟩ := facts
    have failed : ¬run.StopsServer := fun stops => not_returned_error _ (stopped.mpr stops)
    constructor <;> simp [failed, fresh, silent, SameFiles]

/-- This is what the part behind the `finally` clause leaves. -/
structure FinishEnds (start : Activity) (result : Except Failure RunRecord) (state : Activity) : Prop where
  capture : state.capture = start.capture
  finished : state.clientFinished = start.clientFinished
  proxy : state.proxyThread = start.proxyThread
  returned : Returned result ↔ start.proxyThread ≠ some .failed ∧
    run.steps.writeClientLog = .succeeds ∧
    (∃ metrics, scenarioMetrics run.spec run.outcome = .ok metrics) ∧
    run.steps.writeRecord = .succeeds
  written : start.written = none → ∀ record, state.written = some record ↔ result = .ok record
  recorded : ∀ record, result = .ok record → scenarioRecord run.spec run.identifier run.outcome
    start.runDir = .ok (record, state.runDir)

/-- An exception leaves no record. -/
theorem finishEnds_error {start : Activity} {failure : Failure} (runDir : Directory)
    (stuck : ¬(start.proxyThread ≠ some .failed ∧ run.steps.writeClientLog = .succeeds ∧
      (∃ metrics, scenarioMetrics run.spec run.outcome = .ok metrics) ∧
      run.steps.writeRecord = .succeeds)) :
    run.FinishEnds start (.error failure) { start with runDir := runDir } := by
  refine ⟨rfl, rfl, rfl, iff_of_false (not_returned_error _) stuck, ?_, by simp⟩
  intro unwritten record
  simp [unwritten]

theorem ends_finish (start : Activity) : Ends run.finish (run.FinishEnds start) start := by
  rw [finish, ends_get_bind, ends_bind, ends_onlyIf]
  constructor
  · intro failed
    rw [beq_iff_eq] at failed
    rw [ends_throw, onReturn_error]
    exact run.finishEnds_error start.runDir (by simp [failed])
  · intro unfailed
    rw [beq_eq_false_iff_ne] at unfailed
    apply ends_perform_bind
    · intro logged
      unfold scenarioRecord
      cases parsed : scenarioMetrics run.spec run.outcome with
      | error error =>
          exact run.finishEnds_error _ (by simp [parsed])
      | ok metrics =>
          apply ends_perform_bind
          · intro written
            rw [ends_pure]
            refine ⟨rfl, rfl, rfl, ?_, ?_, ?_⟩
            · exact iff_of_true (returned_ok _) ⟨unfailed, logged, ⟨metrics, parsed⟩, written⟩
            · intro _ record
              rw [Option.some.injEq, Except.ok.injEq]
            · intro record same
              cases same
              rw [scenarioRecord, parsed]
              rfl
          · intro failed failure
            exact run.finishEnds_error _ (by simp [failed])
    · intro failed failure
      exact run.finishEnds_error start.runDir (by simp [failed])

/-- The scenario is recorded when it returns. It returns only behind the client and the proxy, and
the capture has been waited for or signalled. -/
structure LeavesNothing (result : Except Failure RunRecord) (state : Activity) : Prop where
  recorded : ∀ record, state.written = some record ↔ result = .ok record
  finished : Returned result → state.clientFinished = true ∧
    (state.proxyThread = none ∨ state.proxyThread = some .returned)
  released : state.capture.started = true →
    state.capture.waited = true ∨ state.capture.signalled = true

/-- This is what the whole scenario leaves. -/
structure ScenarioEnds (runDir : Directory) (result : Except Failure RunRecord)
    (state : Activity) : Prop where
  recorded : ∀ record, state.written = some record ↔ result = .ok record
  returned : Returned result ↔ run.Finishes
  finished : Returned result → state.clientFinished = true
  proxy : Returned result →
    state.proxyThread = if run.hasProxy then run.steps.joinProxy.thread else none
  started : state.capture.started = true ↔ run.StartsCapture
  released : run.StartsCapture → (state.capture.waited = true ∨ state.capture.signalled = true ↔
    run.StopsServer ∧ run.ReleasesCapture)
  files : ∀ record, result = .ok record → scenarioRecord run.spec run.identifier run.outcome
    runDir = .ok (record, state.runDir)

/-- This is what the `try` statement leaves. -/
structure TryEnds (start : Activity) (result : Except Failure Unit) (state : Activity) : Prop where
  returned : Returned result ↔ run.BodyReturns ∧ run.StopsServer ∧
    (run.spec.captureTraffic = true → run.StopsCapture) ∧
    (run.hasProxy = true → run.steps.joinProxy.thread ≠ none)
  started : state.capture.started = true ↔
    run.spec.captureTraffic = true ∧ run.steps.startCapture = .succeeds
  released : state.capture.started = true → (state.capture.waited = true ∨
    state.capture.signalled = true ↔ run.StopsServer ∧ run.ReleasesCapture)
  files : SameFiles start state
  finished : Returned result → state.clientFinished = true
  proxy : Returned result →
    state.proxyThread = if run.hasProxy then run.steps.joinProxy.thread else none

theorem ends_try {start : Activity} (capture : start.capture = {})
    (proxy : start.proxyThread = none) :
    Ends (tryFinally run.body run.cleanup) (run.TryEnds start) start := by
  rw [ends_tryFinally]
  apply (run.ends_body start).mono
  intro result middle bodyEnds
  have captured := bodyEnds.capture
  rw [capture] at captured
  have fresh : middle.capture.waited = false := by rw [captured]; split <;> rfl
  have silent : middle.capture.signalled = false := by rw [captured]; split <;> rfl
  have started : middle.capture.started = true ↔
      run.spec.captureTraffic = true ∧ run.steps.startCapture = .succeeds := by
    rw [captured]
    split <;> rename_i begun <;> simp [begun]
  apply (run.ends_cleanup middle fresh silent).mono
  intro last state cleanupEnds
  have begun := cleanupEnds.started
  have released := cleanupEnds.released
  have files : SameFiles start state := ⟨cleanupEnds.files.1.trans bodyEnds.files.1,
    cleanupEnds.files.2.trans bodyEnds.files.2⟩
  rw [← begun] at released
  rw [← begun] at started
  have shape (body : run.BodyReturns) :
      middle.proxyThread = if run.hasProxy then some .running else none := by
    have placed := bodyEnds.proxy (bodyEnds.returned.mpr body)
    rwa [proxy] at placed
  -- A body that returns leaves the capture and the thread of the scenario to the cleanup.
  have cleaned (body : run.BodyReturns) : Returned last ↔ run.StopsServer ∧
      (run.spec.captureTraffic = true → run.StopsCapture) ∧
      (run.hasProxy = true → run.steps.joinProxy.thread ≠ none) := by
    have placed : middle.proxyThread = none ∨ middle.proxyThread = some .running := by
      rw [shape body]
      split <;> simp
    have captures : middle.capture.started = true ↔ run.spec.captureTraffic = true := by
      rw [← begun, started]
      exact and_iff_left_of_imp fun traffic => (body.1 traffic).1
    have proxied : middle.proxyThread = some .running ↔ run.hasProxy = true := by
      rw [shape body]
      split <;> simp [*]
    rw [cleanupEnds.returned placed, captures, proxied]
  cases last with
  | error failure =>
      refine ⟨?_, started, released, files, by simp, by simp⟩
      apply iff_of_false (not_returned_error _)
      intro ⟨body, rest⟩
      exact not_returned_error _ ((cleaned body).mpr rest)
  | ok value =>
      refine ⟨?_, started, released, files, ?_, ?_⟩
      · rw [bodyEnds.returned]
        exact (and_iff_left_of_imp fun body => (cleaned body).mp (returned_ok _)).symm
      · intro returned
        rw [cleanupEnds.finished]
        exact bodyEnds.finished returned
      · intro returned
        have placed := shape (bodyEnds.returned.mp returned)
        obtain ⟨absent, running⟩ := cleanupEnds.proxy (returned_ok _)
        by_cases proxied : run.hasProxy = true
        · rw [if_pos proxied] at placed ⊢
          exact running placed
        · rw [if_neg proxied] at placed ⊢
          exact absent placed

/-- Without the server nothing is started. -/
theorem scenarioEnds_unstarted {failure : Failure} (runDir : Directory)
    (stuck : ¬(run.steps.openLogs = .succeeds ∧ run.steps.startServer = .succeeds)) :
    run.ScenarioEnds runDir (.error failure) { runDir := runDir } where
  recorded := by simp
  returned := iff_of_false (not_returned_error _) fun ends => stuck ⟨ends.openLogs, ends.startServer⟩
  finished := by simp
  proxy := by simp
  started := iff_of_false (by simp) fun starts => stuck ⟨starts.1, starts.2.1⟩
  released starts := absurd ⟨starts.1, starts.2.1⟩ stuck
  files := by simp

/-- The errors of the thread stop the scenario exactly when the thread has failed. -/
theorem thread_ne_failed {outcome : JoinOutcome} (joined : outcome.thread ≠ none) :
    outcome.thread ≠ some .failed ↔
      outcome.thread = some .running ∨ outcome.thread = some .returned := by
  cases outcome with
  | joined failed => cases failed <;> simp [JoinOutcome.thread, Thread.ended]
  | raises error => exact absurd rfl joined
  | timesOut ended =>
      cases ended with
      | none => simp [JoinOutcome.thread]
      | some failed => cases failed <;> simp [JoinOutcome.thread, Thread.ended]

section Started
variable {runDir : Directory} {state : Activity}

/-- A started server leaves this to the `try` statement. -/
def startedServer (runDir : Directory) : Activity where
  runDir := runDir
  server := { started := true }

/-- The scenario starts the capture when the `try` statement does. -/
theorem startsCapture_iff (opened : run.steps.openLogs = .succeeds)
    (server : run.steps.startServer = .succeeds) {result : Except Failure Unit}
    (tried : run.TryEnds (startedServer runDir) result state) :
    state.capture.started = true ↔ run.StartsCapture := by
  rw [tried.started, StartsCapture, and_iff_right opened, and_iff_right server]

/-- Behind a `try` statement that returns, the last part decides. -/
theorem ends_finish_tried (opened : run.steps.openLogs = .succeeds)
    (server : run.steps.startServer = .succeeds)
    (tried : run.TryEnds (startedServer runDir) (.ok ()) state) :
    Ends run.finish (run.ScenarioEnds runDir) state := by
  obtain ⟨body, stopsServer, stopsCapture, joins⟩ := tried.returned.mp (returned_ok _)
  have thread := tried.proxy (returned_ok _)
  have began := run.startsCapture_iff opened server tried
  apply (run.ends_finish state).mono
  intro result last finishEnds
  refine ⟨finishEnds.written tried.files.1, ?_, ?_, ?_, ?_, ?_, ?_⟩
  · rw [finishEnds.returned, thread]
    constructor
    · intro ⟨unfailed, log, parses, record⟩
      refine ⟨opened, server, body, stopsServer, stopsCapture, ?_, log, parses, record⟩
      intro proxied
      rw [if_pos proxied] at unfailed
      exact (thread_ne_failed (joins proxied)).mp unfailed
    · intro ends
      refine ⟨?_, ends.writeClientLog, ends.parses, ends.writeRecord⟩
      split
      · rename_i proxied
        exact (thread_ne_failed (joins proxied)).mpr (ends.joins proxied)
      · simp
  · intro _
    rw [finishEnds.finished]
    exact tried.finished (returned_ok _)
  · intro _
    rw [finishEnds.proxy, thread]
  · rw [finishEnds.capture, began]
  · rw [finishEnds.capture, ← began]
    exact tried.released
  · intro record same
    rw [← finishEnds.recorded record same, tried.files.2]
    rfl

/-- A `try` statement that raises ends the scenario. -/
theorem scenarioEnds_tried (opened : run.steps.openLogs = .succeeds)
    (server : run.steps.startServer = .succeeds) {failure : Failure}
    (tried : run.TryEnds (startedServer runDir) (.error failure) state) :
    run.ScenarioEnds runDir (.error failure) state := by
  have began := run.startsCapture_iff opened server tried
  refine ⟨by simp [tried.files.1, startedServer], ?_, by simp, by simp, began, ?_, by simp⟩
  · apply iff_of_false (not_returned_error _)
    intro ends
    apply not_returned_error failure (tried.returned.mpr ⟨ends.body, ends.stopsServer,
      ends.stopsCapture, ?_⟩)
    intro proxy none
    rcases ends.joins proxy with running | returned
    · rw [none] at running
      cases running
    · rw [none] at returned
      cases returned
  · rw [← began]
    exact tried.released

end Started

theorem ends_scenario (runDir : Directory) :
    Ends run.scenario (run.ScenarioEnds runDir) { runDir := runDir } := by
  apply ends_perform_bind
  · intro opened
    apply ends_perform_bind
    · intro server
      have tries : Ends (tryFinally run.body run.cleanup) (run.TryEnds (startedServer runDir))
          (startedServer runDir) := run.ends_try rfl rfl
      apply tries.bind
      · intro _ state tried
        exact run.ends_finish_tried opened server tried
      · intro failure state tried
        exact run.scenarioEnds_tried opened server tried
    · intro failed failure
      exact run.scenarioEnds_unstarted runDir fun ends => failed ends.2
  · intro failed failure
    exact run.scenarioEnds_unstarted runDir fun ends => failed ends.1

/-- The scenario leaves nothing exactly when a started capture is released behind the server, and no
thread outlives a scenario that finishes. -/
theorem scenario_leavesNothing_iff (runDir : Directory) :
    Ends run.scenario LeavesNothing { runDir := runDir } ↔
      (run.StartsCapture → run.StopsServer ∧ run.ReleasesCapture) ∧
      (run.Finishes → run.hasProxy = true → run.steps.joinProxy.thread ≠ some .running) := by
  obtain ⟨recorded, returned, finished, proxy, started, released, _⟩ := run.ends_scenario runDir
  constructor
  · intro leaves
    constructor
    · intro starts
      exact (released starts).mp (leaves.released (started.mpr starts))
    · intro finishes proxied running
      have ended := returned.mpr finishes
      have thread := proxy ended
      rw [if_pos proxied, running] at thread
      have gone := (leaves.finished ended).2
      rw [thread] at gone
      simp at gone
  · intro ⟨releases, joins⟩
    refine ⟨recorded, fun ended => ⟨finished ended, ?_⟩, fun began => ?_⟩
    · rw [proxy ended]
      split
      · rename_i proxied
        have finishes := returned.mp ended
        exact .inr ((finishes.joins proxied).resolve_left (joins finishes proxied))
      · exact .inl rfl
    · have starts := started.mp began
      exact (released starts).mpr (releases starts)

/-- A scenario that returns is a scenario that ends in time. It starts behind the started programs. -/
theorem runScenario_of_returned {runDir files : Directory} {record : RunRecord}
    (proxied : proxyFiles run.spec run.outcome.events
      (scenarioFiles run.spec run.identifier run.outcome runDir) = some (.ok files))
    (returned : (Effect.outcome run.scenario { runDir := files }).1 = .ok record) :
    runScenario run.spec run.outcome runDir =
      some (.ok (record, (Effect.outcome run.scenario { runDir := files }).2.runDir)) := by
  have recorded := (run.ends_scenario files).files record returned
  rw [← recorded]
  show (proxyFiles run.spec run.outcome.events
    (scenarioFiles run.spec run.identifier run.outcome runDir)).map _ = _
  rw [proxied]
  rfl

end ScenarioRun

section Sample

/-- All steps succeed. -/
def smoothSteps : ScenarioSteps where
  openLogs := .succeeds
  startServer := .succeeds
  startCapture := .succeeds
  pcapFile := .succeeds
  listener := .succeeds
  captureExited := false
  startProxy := .succeeds
  proxyReady := .succeeds
  client := .succeeds
  terminateServer := .succeeds
  waitServer := .succeeds
  waitCapture := .succeeds
  signalCapture := .succeeds
  waitSignalled := .succeeds
  joinProxy := .joined false
  writeClientLog := .succeeds
  writeRecord := .succeeds

def smoothOutcome : Outcome where
  serverOutput := .text ""
  captureOutput := .text ""
  pcap := .bytes []
  events := []
  clientText := ""
  returncode := 0

/-- The server does not end within five seconds of its termination. -/
def stuckServer : ScenarioRun where
  spec := {
    impl := "openssl", faultType := "client-default-v18", repetition := 1, condition := "botan"
    serverCmd := [], clientCmd := [], listenPort := 44330, env := .empty, captureTraffic := true }
  steps := { smoothSteps with waitServer := .timesOut }
  outcome := smoothOutcome

/-- The thread of the proxy still runs when its join reaches the time limit. -/
def lingeringProxy : ScenarioRun where
  spec := {
    impl := "openssl", faultType := "keyshare-forge", repetition := 1, condition := "default"
    serverCmd := [], clientCmd := [], listenPort := 44331, env := .empty
    proxyUpstreamPort := some 44330, proxyMutate := some fun data world => .ok (data, world) }
  steps := { smoothSteps with joinProxy := .timesOut none }
  outcome := smoothOutcome

/-- A stuck server leaves the capture running, and a scenario returns before its proxy. -/
theorem scenario_leaves_processes :
    (Effect.outcome stuckServer.scenario { runDir := .empty }).2.capture = { started := true } ∧
    ¬Ends stuckServer.scenario ScenarioRun.LeavesNothing { runDir := .empty } ∧
    (∃ record, (Effect.outcome lingeringProxy.scenario { runDir := .empty }).1 = .ok record) ∧
    (Effect.outcome lingeringProxy.scenario { runDir := .empty }).2.proxyThread = some .running ∧
    ¬Ends lingeringProxy.scenario ScenarioRun.LeavesNothing { runDir := .empty } := by
  refine ⟨rfl, ?_, ⟨_, rfl⟩, rfl, ?_⟩
  · intro leaves
    exact absurd (leaves.released rfl) (by decide)
  · intro leaves
    exact absurd (leaves.finished ⟨_, rfl⟩).2 (by decide)

end Sample

end FaultInject.Harness
