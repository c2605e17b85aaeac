import FaultInject.Construction.MitmProxy
import FaultInject.Transition.Run

namespace FaultInject.MitmProxy
open Python Transition

/-- These are the nonempty chunks that were received from a side. -/
def chunks (side : Side) (events : List Event) : List Bytes :=
  events.filterMap fun
    | .recv source data => if source = side ∧ data ≠ [] then some data else none
    | .select _ => none

/-- The first chunk that the mutation changes is replaced. -/
def replaceFirst (forge : Bytes → Bytes) : List Bytes → List Bytes
  | [] => []
  | chunk :: rest =>
    if forge chunk = chunk then chunk :: replaceFirst forge rest else forge chunk :: rest

/-- These are the chunks up to the first one that the mutation changes. -/
def throughFirst (forge : Bytes → Bytes) : List Bytes → List Bytes
  | [] => []
  | chunk :: rest => if forge chunk = chunk then chunk :: throughFirst forge rest else [chunk]

/-- The mutation changes a chunk of the list. -/
def ChangesSome (forge : Bytes → Bytes) (received : List Bytes) : Prop :=
  ∃ chunk ∈ received, forge chunk ≠ chunk

/-- This is the first chunk that the mutation changes. -/
def firstChanged (forge : Bytes → Bytes) (received : List Bytes) : Option Bytes :=
  received.find? fun chunk => forge chunk != chunk

/-- The byte result of the mutation depends only on its argument. -/
def Computes {W : Type} (mutate : Mutate W) (forge : Bytes → Bytes) : Prop :=
  ∀ data world, ∃ after, mutate data world = .ok (forge data, after)

@[simp] theorem chunks_nil (side : Side) : chunks side [] = [] := rfl

theorem chunks_append (side : Side) (first second : List Event) :
    chunks side (first ++ second) = chunks side first ++ chunks side second :=
  List.filterMap_append

@[simp] theorem chunks_select (side : Side) (readable : List Side) :
    chunks side [.select readable] = [] := rfl

@[simp] theorem chunks_eof (side source : Side) : chunks side [.recv source []] = [] := by
  simp [chunks]

theorem chunks_self {side : Side} {data : Bytes} (nonempty : data ≠ []) :
    chunks side [.recv side data] = [data] := by
  simp [chunks, nonempty]

theorem chunks_other {side source : Side} (other : source ≠ side) (data : Bytes) :
    chunks side [.recv source data] = [] := by
  simp [chunks, other]

section Lists
variable {forge : Bytes → Bytes}

@[simp] theorem not_changesSome_nil : ¬ChangesSome forge [] := by
  rintro ⟨_, member, _⟩
  cases member

theorem changesSome_cons {chunk : Bytes} {rest : List Bytes} :
    ChangesSome forge (chunk :: rest) ↔ forge chunk ≠ chunk ∨ ChangesSome forge rest :=
  List.exists_mem_cons_iff ..

theorem changesSome_concat {received : List Bytes} {chunk : Bytes} :
    ChangesSome forge (received ++ [chunk]) ↔ ChangesSome forge received ∨ forge chunk ≠ chunk := by
  simp [ChangesSome, or_and_right, exists_or]

/-- A chunk behind a changed chunk is not replaced. -/
theorem replaceFirst_concat_of_changed {received : List Bytes} (changed : ChangesSome forge received)
    (chunk : Bytes) : replaceFirst forge (received ++ [chunk]) =
      replaceFirst forge received ++ [chunk] := by
  induction received with
  | nil => exact absurd changed not_changesSome_nil
  | cons first rest ih =>
      rw [List.cons_append, replaceFirst, replaceFirst]
      by_cases same : forge first = first
      · rw [if_pos same, if_pos same,
          ih ((changesSome_cons.mp changed).resolve_left (not_not.mpr same)), List.cons_append]
      · rw [if_neg same, if_neg same, List.cons_append]

/-- A chunk behind unchanged chunks goes through the mutation. -/
theorem replaceFirst_concat_of_unchanged {received : List Bytes}
    (unchanged : ¬ChangesSome forge received) (chunk : Bytes) :
    replaceFirst forge (received ++ [chunk]) = replaceFirst forge received ++ [forge chunk] := by
  induction received with
  | nil =>
      rw [List.nil_append, replaceFirst, replaceFirst]
      by_cases same : forge chunk = chunk
      · rw [if_pos same, same]
        rfl
      · rw [if_neg same]
        rfl
  | cons first rest ih =>
      rw [changesSome_cons, not_or, not_not] at unchanged
      rw [List.cons_append, replaceFirst, replaceFirst, if_pos unchanged.1, if_pos unchanged.1,
        ih unchanged.2, List.cons_append]

/-- A chunk behind a changed chunk does not go through the mutation. -/
theorem throughFirst_concat_of_changed {received : List Bytes} (changed : ChangesSome forge received)
    (chunk : Bytes) : throughFirst forge (received ++ [chunk]) = throughFirst forge received := by
  induction received with
  | nil => exact absurd changed not_changesSome_nil
  | cons first rest ih =>
      rw [List.cons_append, throughFirst, throughFirst]
      by_cases same : forge first = first
      · rw [if_pos same, if_pos same,
          ih ((changesSome_cons.mp changed).resolve_left (not_not.mpr same))]
      · rw [if_neg same, if_neg same]

/-- A chunk behind unchanged chunks is the next call of the mutation. -/
theorem throughFirst_concat_of_unchanged {received : List Bytes}
    (unchanged : ¬ChangesSome forge received) (chunk : Bytes) :
    throughFirst forge (received ++ [chunk]) = throughFirst forge received ++ [chunk] := by
  induction received with
  | nil =>
      rw [List.nil_append, throughFirst, throughFirst]
      split <;> rfl
  | cons first rest ih =>
      rw [changesSome_cons, not_or, not_not] at unchanged
      rw [List.cons_append, throughFirst, throughFirst, if_pos unchanged.1, if_pos unchanged.1,
        ih unchanged.2, List.cons_append]

theorem firstChanged_eq_none {received : List Bytes} :
    firstChanged forge received = none ↔ ¬ChangesSome forge received := by
  simp [firstChanged, ChangesSome]

theorem changed_of_firstChanged {received : List Bytes} {chunk : Bytes}
    (found : firstChanged forge received = some chunk) : forge chunk ≠ chunk := by
  simpa using List.find?_some found

theorem changesSome_of_firstChanged {received : List Bytes} {chunk : Bytes}
    (found : firstChanged forge received = some chunk) : ChangesSome forge received :=
  ⟨chunk, List.mem_of_find?_eq_some found, changed_of_firstChanged found⟩

end Lists

section Forward
variable {W : Type} (state : State W)

@[simp] theorem sent_forward_client (data : Bytes) : (state.forward .client data).sent =
    Function.update state.sent .upstream (state.sent .upstream ++ data) := rfl

@[simp] theorem sent_forward_upstream (data : Bytes) : (state.forward .upstream data).sent =
    Function.update state.sent .client (state.sent .client ++ data) := rfl

end Forward

section Flow
variable {W : Type} {mutate : Mutate W} {forge : Bytes → Bytes}

/-- These facts connect the events so far with what was forwarded. -/
structure Flow (forge : Bytes → Bytes) (events : List Event) (state : State W) : Prop where
  upstream : state.sent .upstream = (replaceFirst forge (chunks .client events)).flatten
  client : state.sent .client = (chunks .upstream events).flatten
  calls : state.calls = throughFirst forge (chunks .client events)
  mutated : state.mutated = true ↔ ChangesSome forge (chunks .client events)
  clientToServer : state.clientToServerBytes = (state.sent .upstream).length
  serverToClient : state.serverToClientBytes = (state.sent .client).length

theorem Flow.initial (world : W) : Flow forge [] (State.initial world) :=
  ⟨rfl, rfl, rfl, by simp [State.initial], rfl, rfl⟩

/-- An event without data does not change the chunks. -/
theorem Flow.skip {events : List Event} {event : Event} {state : State W}
    (flow : Flow forge events state) (silent : ∀ side, chunks side [event] = []) :
    Flow forge (events ++ [event]) state := by
  have same (side : Side) : chunks side (events ++ [event]) = chunks side events := by
    rw [chunks_append, silent, List.append_nil]
  constructor
  · rw [same]
    exact flow.upstream
  · rw [same]
    exact flow.client
  · rw [same]
    exact flow.calls
  · rw [same]
    exact flow.mutated
  · exact flow.clientToServer
  · exact flow.serverToClient

/-- The result of the mutation is forwarded for a chunk behind unchanged chunks. -/
theorem Flow.replaceClient {events : List Event} {state after : State W} {data forged : Bytes}
    (flow : Flow forge events state) (computes : Computes mutate forge) (nonempty : data ≠ [])
    (fresh : state.mutated = false) (returned : state.callMutate mutate data = .ok (forged, after)) :
    Flow forge (events ++ [.recv .client data]) (after.forward .client forged) := by
  obtain ⟨world, result⟩ := computes data state.world
  rw [State.callMutate, result] at returned
  cases returned
  have received : chunks .client (events ++ [.recv .client data]) =
      chunks .client events ++ [data] := by
    rw [chunks_append, chunks_self nonempty]
  have unchanged : ¬ChangesSome forge (chunks .client events) := by
    rw [← flow.mutated, fresh]
    decide
  constructor
  · rw [received, replaceFirst_concat_of_unchanged unchanged, List.flatten_concat,
      ← flow.upstream, sent_forward_client, Function.update_self]
  · rw [chunks_append, chunks_other (by decide), List.append_nil, ← flow.client,
      sent_forward_client, Function.update_of_ne (by decide)]
  · rw [received, throughFirst_concat_of_unchanged unchanged, ← flow.calls]
    rfl
  · rw [received, changesSome_concat]
    simp [State.forward, unchanged]
  · have width := flow.clientToServer
    simp [State.forward, Side.peer, width]
  · have width := flow.serverToClient
    simp [State.forward, Side.peer, width]

/-- A chunk behind a changed chunk is forwarded as it is. -/
theorem Flow.forwardClient {events : List Event} {state : State W} {data : Bytes}
    (flow : Flow forge events state) (nonempty : data ≠ []) (done : state.mutated = true) :
    Flow forge (events ++ [.recv .client data]) (state.forward .client data) := by
  have received : chunks .client (events ++ [.recv .client data]) =
      chunks .client events ++ [data] := by
    rw [chunks_append, chunks_self nonempty]
  have changed := flow.mutated.mp done
  constructor
  · rw [received, replaceFirst_concat_of_changed changed, List.flatten_concat,
      ← flow.upstream, sent_forward_client, Function.update_self]
  · rw [chunks_append, chunks_other (by decide), List.append_nil, ← flow.client,
      sent_forward_client, Function.update_of_ne (by decide)]
  · rw [received, throughFirst_concat_of_changed changed]
    exact flow.calls
  · rw [received, changesSome_concat]
    exact ⟨fun _ => .inl changed, fun _ => done⟩
  · have width := flow.clientToServer
    simp [State.forward, Side.peer, width]
  · have width := flow.serverToClient
    simp [State.forward, Side.peer, width]

/-- A chunk of the server is forwarded as it is. -/
theorem Flow.forwardUpstream {events : List Event} {state : State W} {data : Bytes}
    (flow : Flow forge events state) (nonempty : data ≠ []) :
    Flow forge (events ++ [.recv .upstream data]) (state.forward .upstream data) := by
  have received : chunks .client (events ++ [.recv .upstream data]) = chunks .client events := by
    rw [chunks_append, chunks_other (by decide), List.append_nil]
  constructor
  · rw [received, ← flow.upstream, sent_forward_upstream, Function.update_of_ne (by decide)]
  · rw [chunks_append, chunks_self nonempty, List.flatten_concat, ← flow.client,
      sent_forward_upstream, Function.update_self]
  · rw [received]
    exact flow.calls
  · rw [received]
    exact flow.mutated
  · have width := flow.clientToServer
    simp [State.forward, Side.peer, width]
  · have width := flow.serverToClient
    simp [State.forward, Side.peer, width]

/-- The bytes do not depend on the phase and on the sockets. -/
theorem Flow.withSockets {events : List Event} {state : State W} (flow : Flow forge events state)
    (phase : Phase) (openSockets : List Side) (shutdown : Side → Bool) :
    Flow forge events { state with
      phase := phase, openSockets := openSockets, shutdown := shutdown } :=
  ⟨flow.upstream, flow.client, flow.calls, flow.mutated, flow.clientToServer, flow.serverToClient⟩

end Flow

section Sockets
variable {W : Type} {mutate : Mutate W} {forge : Bytes → Bytes}

/-- These facts connect the events so far with the sockets and the phase. -/
structure Sockets (world : W) (events : List Event) (state : State W) : Prop where
  first : state.phase = .first → events = [] ∧ state = .initial world
  distinct : state.openSockets.Nodup
  readable : ∀ remaining, state.phase = .read remaining →
    remaining.Nodup ∧ ∀ source ∈ remaining, source ∈ state.openSockets
  opened : ∀ side, Event.recv side [] ∉ events →
    side ∈ state.openSockets ∧ state.shutdown side.peer = false
  returned : state.phase = .returned →
    Event.select [] ∈ events ∨ ∀ side, Event.recv side [] ∈ events
  raised : ∀ error, state.phase ≠ .raised error

theorem Sockets.initial (world : W) : Sockets world [] (State.initial world) where
  first _ := ⟨rfl, rfl⟩
  distinct := by simp [State.initial]
  readable _ same := by cases same
  opened side _ := by cases side <;> exact ⟨by simp [State.initial], rfl⟩
  returned same := by cases same
  raised _ same := by cases same

/-- The end of one stream closes only this stream. -/
theorem opened_eof {events : List Event} {state : State W} {source : Side}
    (opened : ∀ side, Event.recv side [] ∉ events →
      side ∈ state.openSockets ∧ state.shutdown side.peer = false) :
    ∀ side, Event.recv side [] ∉ events ++ [.recv source []] →
      side ∈ state.openSockets.erase source ∧
        Function.update state.shutdown source.peer true side.peer = false := by
  intro side silent
  rw [List.mem_append, not_or, List.mem_singleton] at silent
  have other : side ≠ source := fun same => silent.2 (by rw [same])
  obtain ⟨isOpen, write⟩ := opened side silent.1
  refine ⟨(List.mem_erase_of_ne other).mpr isOpen, ?_⟩
  rw [Function.update_of_ne, write]
  cases side <;> cases source <;> simp [Side.peer] at other ⊢

/-- The loops continue with sockets that are still open. -/
theorem Sockets.continueWith {world : W} {events : List Event} {event : Event} {state : State W}
    {remaining : List Side} (distinct : state.openSockets.Nodup) (once : remaining.Nodup)
    (among : ∀ source ∈ remaining, source ∈ state.openSockets)
    (opened : ∀ side, Event.recv side [] ∉ events ++ [event] →
      side ∈ state.openSockets ∧ state.shutdown side.peer = false) :
    Sockets world (events ++ [event]) (state.continueWith remaining) := by
  refine ⟨?_, distinct, ?_, opened, ?_, ?_⟩
  · intro same
    unfold State.continueWith at same
    split_ifs at same
  · intro others same
    unfold State.continueWith at same
    split_ifs at same
    cases same
    exact ⟨once, among⟩
  · intro same
    unfold State.continueWith at same
    split_ifs at same
    rename_i closed
    refine .inr fun side => ?_
    by_contra silent
    have isOpen := (opened side silent).1
    rw [not_not.mp closed] at isOpen
    cases isOpen
  · intro error same
    unfold State.continueWith at same
    split_ifs at same

/-- A received chunk is forwarded and leaves the sockets as they are. -/
theorem receive_data (state : State W) (computes : Computes mutate forge) (source : Side)
    {data : Bytes} (nonempty : data ≠ []) :
    ∃ after, state.receive mutate source data = .ok after ∧
      after.openSockets = state.openSockets ∧ after.shutdown = state.shutdown ∧
      ∀ events, Flow forge events state → Flow forge (events ++ [.recv source data]) after := by
  rw [State.receive, if_neg nonempty]
  by_cases called : source = .client ∧ state.mutated = false
  · obtain ⟨rfl, fresh⟩ := called
    obtain ⟨world, result⟩ := computes data state.world
    rw [if_pos ⟨rfl, fresh⟩, State.callMutate, result]
    refine ⟨_, rfl, rfl, rfl, fun events flow => ?_⟩
    exact flow.replaceClient computes nonempty fresh (by rw [State.callMutate, result]; rfl)
  · rw [if_neg called]
    cases source with
    | client =>
        have done : state.mutated = true := by simpa using called
        exact ⟨_, rfl, rfl, rfl, fun events flow => flow.forwardClient nonempty done⟩
    | upstream => exact ⟨_, rfl, rfl, rfl, fun events flow => flow.forwardUpstream nonempty⟩

/-- The first payload is forwarded and opens the loop. -/
theorem firstPayload_eq_ok (world : W) (computes : Computes mutate forge) (payload : Bytes) :
    ∃ after, (State.initial world).firstPayload mutate payload = .ok after ∧
      after.phase = .select ∧ after.openSockets = [.client, .upstream] ∧
      after.shutdown = (fun _ => false) ∧ Flow forge [.recv .client payload] after := by
  rw [State.firstPayload]
  by_cases empty : payload = []
  · subst empty
    rw [if_pos rfl]
    exact ⟨_, rfl, rfl, rfl, rfl, ((Flow.initial world).skip fun side => chunks_eof side _).withSockets
      _ _ _⟩
  · obtain ⟨after, result⟩ := computes payload (State.initial world).world
    rw [if_neg empty, State.callMutate, result]
    refine ⟨_, rfl, rfl, rfl, rfl, ?_⟩
    exact ((Flow.initial world).replaceClient computes empty rfl
      (by rw [State.callMutate, result]; rfl)).withSockets _ _ _

/-- The facts about the sockets and the forwarded bytes hold together. -/
structure Sound (forge : Bytes → Bytes) (world : W) (events : List Event) (state : State W) :
    Prop where
  sockets : Sockets world events state
  flow : Flow forge events state

variable {world : W} {events : List Event} {state next : State W}

theorem Sound.select {readable : List Side} (sound : Sound forge world events state)
    (taken : step mutate state (.select readable) = some next) :
    Sound forge world (events ++ [.select readable]) next := by
  rw [step] at taken
  split at taken
  · rename_i ready
    obtain ⟨_, once, among⟩ := ready
    have opened (side : Side) (silent : Event.recv side [] ∉ events ++ [.select readable]) :
        side ∈ state.openSockets ∧ state.shutdown side.peer = false :=
      sound.sockets.opened side fun member => silent (List.mem_append_left _ member)
    have flow := sound.flow.skip fun side => chunks_select side readable
    by_cases idle : readable = []
    · subst idle
      cases taken
      refine ⟨⟨?_, sound.sockets.distinct, ?_, opened, ?_, ?_⟩, flow.withSockets _ _ _⟩
      · intro same
        cases same
      · intro others same
        cases same
      · intro _
        exact .inl (List.mem_append_right events (List.mem_singleton_self _))
      · intro error same
        cases same
    · rw [if_neg idle] at taken
      cases taken
      refine ⟨⟨?_, sound.sockets.distinct, ?_, opened, ?_, ?_⟩, flow.withSockets _ _ _⟩
      · intro same
        cases same
      · intro others same
        cases same
        exact ⟨once, among⟩
      · intro same
        cases same
      · intro error same
        cases same
  · cases taken

/-- The end of the stream before the first payload leaves the client in the loop. -/
theorem Sound.first {source : Side} {data : Bytes} (computes : Computes mutate forge)
    (sound : Sound forge world events state) (first : state.phase = .first)
    (taken : step mutate state (.recv source data) = some next) :
    Sound forge world (events ++ [.recv source data]) next := by
  obtain ⟨rfl, rfl⟩ := sound.sockets.first first
  rw [step, first] at taken
  dsimp only at taken
  split at taken
  · rename_i fromClient
    subst fromClient
    obtain ⟨after, result, phase, openSockets, shutdown, flow⟩ :=
      firstPayload_eq_ok world computes data
    rw [result] at taken
    cases taken
    refine ⟨⟨?_, ?_, ?_, ?_, ?_, ?_⟩, flow⟩
    · intro same
      cases phase.symm.trans same
    · simp [State.settle, openSockets]
    · intro others same
      cases phase.symm.trans same
    · intro side _
      rw [State.settle, openSockets, shutdown]
      cases side <;> simp
    · intro same
      cases phase.symm.trans same
    · intro error same
      cases phase.symm.trans same
  · cases taken

theorem Sound.read {source head : Side} {remaining : List Side} {data : Bytes}
    (computes : Computes mutate forge) (sound : Sound forge world events state)
    (reading : state.phase = .read (head :: remaining))
    (taken : step mutate state (.recv source data) = some next) :
    Sound forge world (events ++ [.recv source data]) next := by
  obtain ⟨once, among⟩ := sound.sockets.readable _ reading
  rw [List.nodup_cons] at once
  rw [step, reading] at taken
  dsimp only at taken
  split at taken
  · rename_i same
    subst same
    have isOpen := among source List.mem_cons_self
    by_cases eof : data = []
    · subst eof
      rw [State.receive, if_pos rfl, if_pos isOpen] at taken
      cases taken
      refine ⟨?_, (sound.flow.skip fun side => chunks_eof side source).withSockets _ _ _⟩
      refine Sockets.continueWith (sound.sockets.distinct.erase source) once.2 ?_
        (opened_eof sound.sockets.opened)
      intro other member
      have different : other ≠ source := fun same => once.1 (same ▸ member)
      exact (List.mem_erase_of_ne different).mpr (among other (List.mem_cons_of_mem source member))
    · obtain ⟨after, result, openSockets, shutdown, forwarded⟩ :=
        receive_data state computes source eof
      rw [result] at taken
      cases taken
      refine ⟨?_, (forwarded events sound.flow).withSockets _ _ _⟩
      refine Sockets.continueWith ?_ once.2 ?_ ?_
      · rw [openSockets]
        exact sound.sockets.distinct
      · rw [openSockets]
        exact fun other member => among other (List.mem_cons_of_mem source member)
      · rw [openSockets, shutdown]
        exact fun side silent =>
          sound.sockets.opened side fun member => silent (List.mem_append_left _ member)
  · cases taken

/-- Every step keeps the facts about the sockets and the forwarded bytes. -/
theorem Sound.preserved {event : Event} (computes : Computes mutate forge)
    (sound : Sound forge world events state) (taken : step mutate state event = some next) :
    Sound forge world (events ++ [event]) next := by
  cases event with
  | select readable => exact sound.select taken
  | recv source data =>
      cases phase : state.phase with
      | first => exact sound.first computes phase taken
      | read readable =>
          cases readable with
          | nil =>
              rw [step, phase] at taken
              cases taken
          | cons head remaining => exact sound.read computes phase taken
      | select =>
          rw [step, phase] at taken
          cases taken
      | returned =>
          rw [step, phase] at taken
          cases taken
      | raised error => exact absurd phase (sound.sockets.raised error)

/-- The facts hold after every run. -/
theorem run_sound (computes : Computes mutate forge)
    (reached : run (step mutate) (State.initial world) events = some state) :
    Sound forge world events state :=
  run_invariant (step mutate) ⟨Sockets.initial world, Flow.initial world⟩
    (fun _ _ _ _ sound taken => Sound.preserved computes sound taken) reached

/-- One more chunk extends what was sent to the other side. -/
theorem Flow.sent_peer {later : List Event} {side : Side} {data : Bytes}
    (before : Flow forge events state) (after : Flow forge later next)
    (received : chunks side later = chunks side events ++ [data]) :
    next.sent side.peer = state.sent side.peer ++
      if side = .client ∧ state.mutated = false then forge data else data := by
  cases side with
  | client =>
      rw [Side.peer, after.upstream, received, before.upstream]
      by_cases changed : ChangesSome forge (chunks .client events)
      · rw [replaceFirst_concat_of_changed changed, List.flatten_concat, before.mutated.mpr changed,
          if_neg (by decide)]
      · have fresh : state.mutated = false := by
          rw [← Bool.not_eq_true, before.mutated]
          exact changed
        rw [replaceFirst_concat_of_unchanged changed, List.flatten_concat, if_pos ⟨rfl, fresh⟩]
  | upstream =>
      rw [Side.peer, after.client, received, before.client, List.flatten_concat, if_neg (by simp)]

/-- A side whose stream has not ended can send its next chunk to the other side. -/
theorem run_forwards_next {side : Side} (computes : Computes mutate forge)
    (reached : run (step mutate) (State.initial world) events = some state)
    (silent : Event.recv side [] ∉ events) (waiting : state.phase = .select) {data : Bytes}
    (nonempty : data ≠ []) :
    ∃ next, run (step mutate) (State.initial world)
        (events ++ [.select [side]] ++ [.recv side data]) = some next ∧
      next.sent side.peer = state.sent side.peer ++
        if side = .client ∧ state.mutated = false then forge data else data := by
  have sound := run_sound computes reached
  have isOpen := (sound.sockets.opened side silent).1
  have ready : step mutate state (.select [side]) =
      some { state with phase := .read [side] } := by
    rw [step, if_pos ⟨waiting, by simp, by simpa using isOpen⟩]
    rfl
  obtain ⟨after, result, _⟩ :=
    receive_data { state with phase := .read [side] } computes side nonempty
  have taken : step mutate { state with phase := .read [side] } (.recv side data) =
      some (after.continueWith []) := by
    rw [step]
    dsimp only
    rw [if_pos rfl, result]
    rfl
  have extended := (run_concat_eq_some _).mpr ⟨_, (run_concat_eq_some _).mpr ⟨_, reached, ready⟩, taken⟩
  refine ⟨_, extended, sound.flow.sent_peer (run_sound computes extended).flow ?_⟩
  rw [chunks_append, chunks_append, chunks_select, List.append_nil, chunks_self nonempty]

/-- In every reachable state the proxy has forwarded both streams in order,
with the first effective mutation as the only change,
and the end of one stream does not end the other one. -/
theorem run_forwards_streams (computes : Computes mutate forge)
    (reached : run (step mutate) (State.initial world) events = some state) :
    state.sent .upstream = (replaceFirst forge (chunks .client events)).flatten ∧
    state.sent .client = (chunks .upstream events).flatten ∧
    state.calls = throughFirst forge (chunks .client events) ∧
    (state.mutated = true ↔ ∃ chunk ∈ chunks .client events, forge chunk ≠ chunk) ∧
    state.clientToServerBytes = (state.sent .upstream).length ∧
    state.serverToClientBytes = (state.sent .client).length ∧
    (∀ error, state.phase ≠ .raised error) ∧
    ∀ side, Event.recv side [] ∉ events →
      side ∈ state.openSockets ∧ state.shutdown side.peer = false ∧
      (state.phase = .returned → Event.select [] ∈ events) ∧
      (state.phase = .select → ∀ data ≠ [], ∃ next,
        run (step mutate) (State.initial world)
          (events ++ [.select [side]] ++ [.recv side data]) = some next ∧
        next.sent side.peer = state.sent side.peer ++
          if side = .client ∧ state.mutated = false then forge data else data) := by
  have sound := run_sound computes reached
  refine ⟨sound.flow.upstream, sound.flow.client, sound.flow.calls, sound.flow.mutated,
    sound.flow.clientToServer, sound.flow.serverToClient, sound.sockets.raised, ?_⟩
  intro side silent
  obtain ⟨isOpen, write⟩ := sound.sockets.opened side silent
  refine ⟨isOpen, write, fun done => ?_, fun waiting data nonempty =>
    run_forwards_next computes reached silent waiting nonempty⟩
  rcases sound.sockets.returned done with idle | ended
  · exact idle
  · exact absurd (ended side) silent

end Sockets

/-- This mutation doubles one chunk and counts its calls. -/
def sampleForge (data : Bytes) : Bytes := if data = [1] then [1, 1] else data

def sampleMutate : Mutate Nat := fun data count => .ok (sampleForge data, count + 1)

/-- The chunk comes second, a later chunk of the same bytes stays as it is, and both sides end. -/
def sampleEvents : List Event :=
  [.recv .client [0], .select [.upstream, .client], .recv .upstream [7], .recv .client [1],
    .select [.client, .upstream], .recv .client [1], .recv .upstream [], .select [.client],
    .recv .client []]

theorem run_forwards_streams_sample : ∃ state,
    run (step sampleMutate) (State.initial 0) sampleEvents = some state ∧
    state.sent .upstream = (replaceFirst sampleForge [[0], [1], [1]]).flatten ∧
    state.calls = throughFirst sampleForge [[0], [1], [1]] := by
  have computes : Computes sampleMutate sampleForge := fun data count => ⟨count + 1, rfl⟩
  have possible : (run (step sampleMutate) (State.initial 0) sampleEvents).isSome = true := by
    decide +kernel
  obtain ⟨state, reached⟩ := Option.isSome_iff_exists.mp possible
  obtain ⟨upstream, _, calls, _⟩ := run_forwards_streams computes reached
  exact ⟨state, reached, upstream, calls⟩

section World
variable {W : Type} {mutate : Mutate W} {forge : Bytes → Bytes} {effect : Bytes → W → W}

/-- The world results from the calls of the mutation. -/
def FollowsCalls (effect : Bytes → W → W) (world : W) (state : State W) : Prop :=
  state.world = state.calls.foldl (fun world data => effect data world) world

theorem FollowsCalls.callMutate {world : W} {state after : State W} {data forged : Bytes}
    (determined : ∀ data world, mutate data world = .ok (forge data, effect data world))
    (follows : FollowsCalls effect world state)
    (returned : state.callMutate mutate data = .ok (forged, after)) :
    FollowsCalls effect world after := by
  rw [State.callMutate, determined] at returned
  cases returned
  rw [FollowsCalls] at follows ⊢
  rw [List.foldl_concat, ← follows]

theorem FollowsCalls.forward {world : W} {state : State W} (follows : FollowsCalls effect world state)
    (source : Side) (data : Bytes) : FollowsCalls effect world (state.forward source data) := by
  cases source <;> exact follows

/-- Every step keeps the world in line with the calls. -/
theorem FollowsCalls.step {world : W} {state next : State W} {event : Event}
    (determined : ∀ data world, mutate data world = .ok (forge data, effect data world))
    (follows : FollowsCalls effect world state)
    (taken : MitmProxy.step mutate state event = some next) : FollowsCalls effect world next := by
  cases event with
  | select readable =>
      rw [MitmProxy.step] at taken
      split at taken
      · cases taken
        exact follows
      · cases taken
  | recv source data =>
      rw [MitmProxy.step] at taken
      split at taken
      · split at taken
        · cases taken
          cases result : state.firstPayload mutate data with
          | error error => exact follows
          | ok after =>
              rw [State.firstPayload] at result
              split at result
              · cases result
                exact follows
              · obtain ⟨⟨forged, called⟩, called_eq, same⟩ := bind_eq_ok.mp result
                cases same
                exact (follows.callMutate determined called_eq).forward _ _
        · cases taken
      · split at taken
        · cases taken
          cases result : state.receive mutate source data with
          | error error => exact follows
          | ok after =>
              show FollowsCalls effect world after
              rw [State.receive] at result
              split at result
              · split at result
                · cases result
                  exact follows
                · cases result
              · split at result
                · obtain ⟨⟨forged, called⟩, called_eq, same⟩ := bind_eq_ok.mp result
                  cases same
                  exact (follows.callMutate determined called_eq).forward _ _
                · cases result
                  exact follows.forward _ _
        · cases taken
      · cases taken

/-- Only the first chunk that the mutation changes has an effect on the world. -/
theorem foldl_throughFirst (quiet : ∀ data world, forge data = data → effect data world = world)
    (received : List Bytes) (world : W) :
    (throughFirst forge received).foldl (fun world data => effect data world) world =
      match firstChanged forge received with
      | some chunk => effect chunk world
      | none => world := by
  induction received with
  | nil => rfl
  | cons chunk rest ih =>
      rw [throughFirst, firstChanged]
      by_cases same : forge chunk = chunk
      · rw [if_pos same, List.foldl_cons, quiet chunk world same, ih,
          List.find?_cons_of_neg (by simpa using same), firstChanged]
      · rw [if_neg same, List.find?_cons_of_pos (by simpa using same)]
        rfl

/-- A run leaves the world with the effect of the first effective mutation. -/
theorem run_world {world : W} {events : List Event} {state : State W}
    (determined : ∀ data world, mutate data world = .ok (forge data, effect data world))
    (quiet : ∀ data world, forge data = data → effect data world = world)
    (reached : run (step mutate) (State.initial world) events = some state) :
    state.world = match firstChanged forge (chunks .client events) with
      | some chunk => effect chunk world
      | none => world := by
  have computes : Computes mutate forge := fun data world => ⟨_, determined data world⟩
  have base : FollowsCalls effect world (State.initial world) := rfl
  have follows : FollowsCalls effect world state :=
    run_invariant (step mutate) base
      (fun _ _ _ _ follows taken => FollowsCalls.step determined follows taken) reached
  rw [follows, (run_sound computes reached).flow.calls]
  exact foldl_throughFirst quiet _ world

end World

end FaultInject.MitmProxy
