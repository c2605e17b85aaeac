import FaultInject.Python.Bytes
import Mathlib.Logic.Function.Basic

/-
This file models `run_proxy` between the accepted client and its upstream server.
The operating system decides which event comes next.
-/

namespace FaultInject.MitmProxy
open Python

structure ProxyResult where
  mutated : Bool
  clientToServerBytes : Nat
  serverToClientBytes : Nat
  deriving DecidableEq, Repr

/-- These are the two connected sockets. -/
inductive Side where
  | client
  | upstream
  deriving DecidableEq, Repr

/-- This is `peers[source]`. -/
def Side.peer : Side → Side
  | client => upstream
  | upstream => client

/-- The proxy stands before its next system call. -/
inductive Phase where
  /-- The call is `client.recv` before the loop. -/
  | first
  /-- The call is `select.select`. -/
  | select
  /-- The call is `source.recv` for the first of the remaining readable sockets. -/
  | read (readable : List Side)
  | returned
  | raised (error : Error)
  deriving DecidableEq, Repr

/-- A select without a readable socket is the idle timeout.
A receive without data is the end of the stream. -/
inductive Event where
  | select (readable : List Side)
  | recv (source : Side) (data : Bytes)
  deriving DecidableEq, Repr

/-- The mutation reads and changes a world, such as the files of its log. -/
abbrev Mutate (W : Type) := Bytes → W → Result (Bytes × W)

structure State (W : Type) where
  phase : Phase
  openSockets : List Side
  mutated : Bool
  clientToServerBytes : Nat
  serverToClientBytes : Nat
  /-- These are the bytes that were sent on a socket. -/
  sent : Side → Bytes
  /-- This socket was shut down for writing. -/
  shutdown : Side → Bool
  /-- These are the arguments of the calls of the mutation. -/
  calls : List Bytes
  world : W

def State.initial {W : Type} (world : W) : State W where
  phase := .first
  openSockets := [.client, .upstream]
  mutated := false
  clientToServerBytes := 0
  serverToClientBytes := 0
  sent := fun _ => []
  shutdown := fun _ => false
  calls := []
  world := world

def State.result {W : Type} (state : State W) : ProxyResult :=
  ⟨state.mutated, state.clientToServerBytes, state.serverToClientBytes⟩

section Step
variable {W : Type} (mutate : Mutate W)

/-- This is `target.sendall(forwarded)` with its counter. -/
def State.forward (state : State W) (source : Side) (forwarded : Bytes) : State W :=
  let state := { state with
    sent := Function.update state.sent source.peer (state.sent source.peer ++ forwarded) }
  match source with
  | .client => { state with clientToServerBytes := state.clientToServerBytes + forwarded.length }
  | .upstream => { state with serverToClientBytes := state.serverToClientBytes + forwarded.length }

/-- This is a call of the mutation. -/
def State.callMutate (state : State W) (data : Bytes) : Result (Bytes × State W) := do
  let (forged, world) ← mutate data state.world
  .ok (forged, { state with
    mutated := decide (forged ≠ data), calls := state.calls ++ [data], world := world })

/-- This is the branch on the first payload. -/
def State.firstPayload (state : State W) (payload : Bytes) : Result (State W) :=
  if payload = [] then .ok { state with phase := .select }
  else do
    let (forged, state) ← state.callMutate mutate payload
    .ok { state.forward .client forged with phase := .select }

/-- The `for` loop continues with its remaining sockets, then the `while` loop with its guard. -/
def State.continueWith (state : State W) (remaining : List Side) : State W :=
  { state with phase :=
      if remaining ≠ [] then .read remaining
      else if state.openSockets ≠ [] then .select else .returned }

/-- This is the body of the `for` loop. -/
def State.receive (state : State W) (source : Side) (data : Bytes) : Result (State W) :=
  if data = [] then
    if source ∈ state.openSockets then
      .ok { state with
        openSockets := state.openSockets.erase source
        shutdown := Function.update state.shutdown source.peer true }
    else .error (.keyError "socket")
  else if source = .client ∧ state.mutated = false then do
    let (forwarded, state) ← state.callMutate mutate data
    .ok (state.forward source forwarded)
  else .ok (state.forward source data)

/-- An exception ends the proxy. -/
def State.settle (state : State W) : Result (State W) → State W
  | .ok next => next
  | .error error => { state with phase := .raised error }

/-- A step takes one event that can come next. -/
def step (state : State W) : Event → Option (State W)
  | .select readable =>
    if state.phase = .select ∧ readable.Nodup ∧ ∀ source ∈ readable, source ∈ state.openSockets then
      some { state with phase := if readable = [] then .returned else .read readable }
    else none
  | .recv source data =>
    match state.phase with
    | .first =>
      if source = .client then some (state.settle (state.firstPayload mutate data)) else none
    | .read (next :: remaining) =>
      if source = next then
        some (state.settle
          ((state.receive mutate source data).map fun after => after.continueWith remaining))
      else none
    | _ => none

end Step

end FaultInject.MitmProxy
