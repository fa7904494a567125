import WebrtcSample.Echo
import WebrtcSample.Survival
import WebrtcSample.Lib.Simulation

/-!
Every line is echoed.

`echo_protocol` says that nothing but echoes of the lines arrives at the client, in
order. Here is the other half: as long as the data channel has dropped nothing and
both programs listen on it, what was typed can still come back. Deliveries on the
channel alone lead to a state in which the client has the echo of every line it has
handed over (`echo_delivers`). An `exit` among the lines does not get in the way:
the server stops listening once, and goes on answering. When the client has read
it, both programs can run to their regular ends (`exit_ends_both`).
-/

namespace WebrtcSample

open Prog Effect WebRtcManager Echo

/-! ### What a move does -/

/-- The line an event makes a program read. -/
def Event.line? : Event → List Bytes
  | .line text => [text]
  | _ => []

/-- The message on the channel an event hands to a program. -/
def Event.message? : Event → List Bytes
  | .callback (.message _ data) => [data]
  | _ => []

/-- The line a move makes the client read. -/
def Echo.Move.line : Echo.Move → List Bytes
  | .session (.act .client ev) => ev.line?
  | _ => []

namespace Echo

variable {L : JsonLibs} {Wc Ws : WebRtc} {s t : Echo}

/-- A move is a step of the client, a step of the server, or neither. -/
theorem step_sides {m : Move} (h : Echo.step L Wc Ws s m = some t) :
    (∃ ev p, Process.step (Client.manager L Wc) s.session.client ev = some p ∧
        t.session.client = p.flushed ∧ t.session.server = s.session.server ∧
        m.line = ev.line? ∧ t.up.received = s.up.received) ∨
      (∃ ev p, Process.step (Server.manager L Ws) s.session.server ev = some p ∧
        t.session.server = p.flushed ∧ t.session.client = s.session.client ∧
        m.line = [] ∧ t.up.received = s.up.received ++ ev.message?) ∨
      t.session = s.session ∧ m.line = [] ∧ t.up.received = s.up.received := by
  cases m with
  | session a =>
      simp only [step, Option.ite_none_right_eq_some, Option.bind_eq_some_iff,
        Option.map_eq_some_iff] at h
      obtain ⟨admitted, rest, -, u, acted, rfl⟩ := h
      rcases a with ⟨side, ev⟩ | side <;> cases side
      case act.client =>
        obtain ⟨p, moved, client, server⟩ := Session.act_client acted
        exact .inl ⟨ev, p, moved, client, server, rfl, Fifo.pushAll_received _ _⟩
      case act.server =>
        obtain ⟨p, moved, server, client⟩ := Session.act_server acted
        have quiet : ev.message? = [] := by
          unfold Event.message?
          split
          · cases admitted
          · rfl
        refine .inr (.inl ⟨ev, p, moved, server, client, rfl, ?_⟩)
        rw [quiet, List.append_nil]
        exact Fifo.pushAll_received _ _
      case deliver.client =>
        obtain ⟨payload, p, moved, client, server⟩ := Session.deliver_client acted
        exact .inl ⟨_, p, moved, client, server, rfl, Fifo.pushAll_received _ _⟩
      case deliver.server =>
        obtain ⟨payload, p, moved, server, client⟩ := Session.deliver_server acted
        refine .inr (.inl ⟨_, p, moved, server, client, rfl, ?_⟩)
        exact (Fifo.pushAll_received _ _).trans (List.append_nil _).symm
  | deliver side =>
      cases side with
      | client =>
          simp only [step, Option.bind_eq_some_iff, Option.map_eq_some_iff] at h
          obtain ⟨⟨data, rest⟩, -, u, acted, rfl⟩ := h
          obtain ⟨p, moved, client, server⟩ := Session.act_client acted
          exact .inl ⟨_, p, moved, client, server, rfl, Fifo.pushAll_received _ _⟩
      | server =>
          simp only [step, Option.bind_eq_some_iff, Option.map_eq_some_iff] at h
          obtain ⟨⟨data, rest⟩, popped, u, acted, rfl⟩ := h
          obtain ⟨p, moved, server, client⟩ := Session.act_server acted
          refine .inr (.inl ⟨_, p, moved, server, client, rfl, ?_⟩)
          exact (Fifo.pushAll_received _ _).trans (Fifo.pop_eq_some popped).2.1
  | refuse side | lose side =>
      cases side <;>
      · cases h
        exact .inr (.inr ⟨rfl, rfl, rfl⟩)

/-- A client that goes on has handed over what it has read. -/
theorem handed_of_move {m : Move} (h : Echo.step L Wc Ws s m = some t)
    (alive : t.session.client.phase.alive = true) :
    s.session.client.phase.alive = true ∧ t.handed = s.handed ++ m.line := by
  rcases step_sides h with ⟨ev, p, moved, client, -, line, -⟩ | ⟨ev, p, -, -, client, line, -⟩ |
    ⟨same, line, -⟩
  · refine ⟨Process.alive_of_step moved, ?_⟩
    have sends : channelSends p.flushed = channelSends p := rfl
    rw [handed, handed, client, sends, line]
    by_cases isLine : ∃ text, ev = .line text
    · obtain ⟨text, rfl⟩ := isLine
      rcases Client.line_outcome moved with ⟨dc, -, sends, -⟩ | ⟨-, phase⟩
      · rw [sends, List.map_append]
        rfl
      · rw [client, Process.flushed_phase, phase] at alive
        cases alive
    · have none : ev.line? = [] := by
        cases ev with
        | line text => exact absurd ⟨text, rfl⟩ isLine
        | _ => rfl
      rw [Client.channelSends_of_step (fun text eq => isLine ⟨text, eq⟩) moved, none,
        List.append_nil]
  · rw [handed, handed, client, line, List.append_nil]
    exact ⟨client ▸ alive, rfl⟩
  · rw [handed, handed, same, line, List.append_nil]
    exact ⟨same ▸ alive, rfl⟩

end Echo

/-! ### Messages on the channel -/

/-- A program that is told of messages on its channel. -/
structure Process.Attends (p : Process) : Prop where
  alive : p.phase.alive = true
  observed : 0 ∈ p.state.observed

theorem Process.Attends.flushed {p : Process} (attends : p.Attends) : p.flushed.Attends :=
  ⟨attends.alive, attends.observed⟩

/-- Such a program takes the next message. -/
theorem Process.Attends.exists_message {p : Process} (attends : p.Attends) (m : Manager)
    (data : Bytes) : ∃ q, Process.step m p (.callback (.message 0 data)) = some q :=
  Process.exists_step (by
    simp [Event.enabled, Callback.enabled, attends.alive, attends.observed])

/-- The client only prints a message. -/
theorem Client.attends_message {L : JsonLibs} {W : WebRtc} {p q : Process} {data : Bytes}
    (attends : p.Attends)
    (h : Process.step (manager L W) p (.callback (.message 0 data)) = some q) :
    q.Attends ∧ q.phase = p.phase := by
  have run : ((Event.callback (.message 0 data)).code (manager L W) p.state).run p.state =
      .ok () p.state := rfl
  obtain ⟨state, phase⟩ := Process.step_ok h run
  exact ⟨⟨by rw [phase]; exact attends.alive, by rw [state]; exact attends.observed⟩, phase⟩

/-- The server answers a message; it has a channel to answer on, and it stops
listening only if it still does. -/
theorem Server.attends_message {L : JsonLibs} {W : WebRtc} {p q : Process} {data : Bytes}
    {received : List Bytes} (attends : p.Attends) (answers : Answers received p)
    (listening : data = utf8 "exit" → p.state.listening = true)
    (h : Process.step (manager L W) p (.callback (.message 0 data)) = some q) :
    q.Attends ∧ q.phase = p.phase := by
  have current := answers.channel attends.alive (List.ne_nil_of_mem attends.observed)
  have returns : ∃ e, ((Event.callback (.message 0 data)).code (manager L W) p.state).run p.state =
      .ok () e := by
    show ∃ e, (onMessage data).run p.state = .ok () e
    by_cases exit : data = utf8 "exit"
    · rw [exit, run_onMessage_exit, run_stopListening, if_pos (listening exit)]
      exact ⟨_, rfl⟩
    · rw [run_onMessage_echo exit, run_send _ current]
      exact ⟨_, rfl⟩
  obtain ⟨e, run⟩ := returns
  have same : q.state.observed = p.state.observed := congrArg (·.2.2) (serving_message h)
  have phase : q.phase = p.phase := (Process.step_ok h run).2
  exact ⟨⟨by rw [phase]; exact attends.alive, by rw [same]; exact attends.observed⟩, phase⟩

/-! ### Deliveries -/

namespace Echo

variable {L : JsonLibs} {Wc Ws : WebRtc} {input : List Bytes} {start s t : Echo}

/-- The server listens until an `exit` reaches it. -/
def Listens (s : Echo) : Prop :=
  s.session.server.state.listening = true ↔ utf8 "exit" ∉ s.up.received

theorem isExit_iff (ev : Event) : Server.isExit ev = true ↔ utf8 "exit" ∈ ev.message? := by
  cases ev with
  | callback c => cases c <;> simp [Server.isExit, Event.message?, eq_comm]
  | _ => simp [Server.isExit, Event.message?]

theorem Listens.step (listens : Listens s) {m : Move} (h : Echo.step L Wc Ws s m = some t) :
    Listens t := by
  unfold Listens at listens ⊢
  rcases step_sides h with ⟨ev, p, -, -, server, -, received⟩ |
    ⟨ev, p, moved, server, -, -, received⟩ | ⟨same, -, received⟩
  · rw [server, received]
    exact listens
  · have flushed : p.flushed.state.listening = p.state.listening := rfl
    rw [server, received, flushed, Server.exits_of_step moved, Bool.and_eq_true, Bool.not_eq_true',
      ← Bool.not_eq_true, isExit_iff, listens, List.mem_append, not_or]
  · rw [same, received]
    exact listens

/-- The state of a channel that has dropped nothing, with both programs at its
ends. -/
structure Lively (input : List Bytes) (start s : Echo) : Prop where
  inv : Inv input s
  listens : Listens s
  up : s.up.intact = true
  down : s.down.intact = true
  client : s.session.client.Attends
  server : s.session.server.Attends
  handed : s.handed = start.handed
  clientPhase : s.session.client.phase = start.session.client.phase
  serverPhase : s.session.server.phase = start.session.server.phase

/-- An `exit` that has arrived has stopped the server. -/
theorem Lively.stopped (inv : Lively input start s) (arrived : utf8 "exit" ∈ s.up.received) :
    s.session.server.state.listening = false := by
  have listens : s.session.server.state.listening = true ↔ utf8 "exit" ∉ s.up.received :=
    inv.listens
  rw [← Bool.not_eq_true, listens, not_not]
  exact arrived

theorem Lively.phase_of_server (inv : Lively input start s) :
    s.session.server.phase = .running ∨ s.session.server.phase = .quitting := by
  have alive := inv.server.alive
  have noLines := inv.inv.answers.noLines
  cases phase : s.session.server.phase with
  | running => exact .inl rfl
  | main => exact absurd phase noLines
  | quitting => exact .inr rfl
  | finished | aborted _ =>
      rw [phase] at alive
      cases alive

/-- What is still to be delivered: a line on its way up comes down again. -/
def due (s : Echo) : Nat := 2 * s.up.inFlight.length + s.down.inFlight.length

/-- How much is on its way down, by what has arrived at both ends. -/
theorem Lively.down_inFlight (inv : Lively input start s) :
    s.down.received.length + s.down.inFlight.length = (replies s.up.received).length := by
  rw [← inv.inv.down, ← s.down.intact_eq inv.down, List.length_append]

/-- An `exit` on its way up is the first, so the server still listens. -/
theorem Lively.listening (inv : Lively input start s) {rest : List Bytes}
    (next : s.up.inFlight = utf8 "exit" :: rest) :
    s.session.server.state.listening = true := by
  apply inv.listens.mpr
  intro arrived
  have all := s.up.intact_eq inv.up
  rw [next, inv.inv.up] at all
  have once : s.handed.count (utf8 "exit") ≤ 1 :=
    (inv.inv.reads.handed_le.sublist.count_le _).trans (count_upToExit input)
  have before := List.count_pos_iff.mpr arrived
  rw [← all, List.count_append, List.count_cons_self] at once
  omega

/-- The next line reaches the server. -/
theorem Lively.toServer (inv : Lively input start s) (waiting : s.up.inFlight ≠ []) :
    ∃ t, Echo.step L Wc Ws s (.deliver .server) = some t ∧ Lively input start t ∧
      t.due < s.due := by
  obtain ⟨data, rest, next⟩ := List.exists_cons_of_ne_nil waiting
  obtain ⟨link, popped, inFlight⟩ := Fifo.exists_pop next
  obtain ⟨-, received, -, intact⟩ := Fifo.pop_eq_some popped
  obtain ⟨p, moved⟩ := inv.server.exists_message (Server.manager L Ws) data
  have acted : ∃ u, Session.step L Wc Ws s.session (.act .server (.callback (.message 0 data))) =
      some u ∧ u.client = s.session.client ∧ u.server = p.flushed := by
    simp only [Session.step, moved]
    exact ⟨_, rfl, rfl, rfl⟩
  obtain ⟨u, acted, client, server⟩ := acted
  have h : Echo.step L Wc Ws s (.deliver .server) = some (follow { s with up := link } u) := by
    simp [Echo.step, popped, acted]
  obtain ⟨attends, phase⟩ := Server.attends_message inv.server inv.inv.answers
    (fun exit => inv.listening (exit ▸ next)) moved
  have up : (follow { s with up := link } u).up = link := by
    show link.pushAll (onChannel (newSends s.session.client u.client)) = link
    rw [client, newSends_self]
    rfl
  have lively : Lively input start (follow { s with up := link } u) := by
    refine ⟨inv.inv.step h, inv.listens.step h, ?_, ?_, ?_, ?_, ?_, ?_, ?_⟩
    · rw [up, intact, inv.up]
    · exact (Fifo.pushAll_intact _ _).trans inv.down
    · show u.client.Attends
      rw [client]
      exact inv.client
    · show u.server.Attends
      rw [server]
      exact attends.flushed
    · show (channelSends u.client).map Prod.snd = _
      rw [client]
      exact inv.handed
    · show u.client.phase = _
      rw [client]
      exact inv.clientPhase
    · show u.server.phase = _
      rw [server]
      exact phase.trans inv.serverPhase
  refine ⟨_, h, lively, ?_⟩
  have before := inv.down_inFlight
  have after := lively.down_inFlight
  have down : (follow { s with up := link } u).down.received = s.down.received :=
    Fifo.pushAll_received _ _
  rw [up, received, replies_concat, List.length_append, down] at after
  have one : (if data = utf8 "exit" then [] else [reply data]).length ≤ 1 := by
    split <;> simp
  simp only [due, up, inFlight, next, List.length_cons]
  omega

/-- The next reply reaches the client. -/
theorem Lively.toClient (inv : Lively input start s) (waiting : s.down.inFlight ≠ []) :
    ∃ t, Echo.step L Wc Ws s (.deliver .client) = some t ∧ Lively input start t ∧
      t.due < s.due := by
  obtain ⟨data, rest, next⟩ := List.exists_cons_of_ne_nil waiting
  obtain ⟨link, popped, inFlight⟩ := Fifo.exists_pop next
  obtain ⟨-, -, -, intact⟩ := Fifo.pop_eq_some popped
  obtain ⟨p, moved⟩ := inv.client.exists_message (Client.manager L Wc) data
  have acted : ∃ u, Session.step L Wc Ws s.session (.act .client (.callback (.message 0 data))) =
      some u ∧ u.client = p.flushed ∧ u.server = s.session.server := by
    simp only [Session.step, moved]
    exact ⟨_, rfl, rfl, rfl⟩
  obtain ⟨u, acted, client, server⟩ := acted
  have h : Echo.step L Wc Ws s (.deliver .client) = some (follow { s with down := link } u) := by
    simp [Echo.step, popped, acted]
  have sends : channelSends u.client = channelSends s.session.client := by
    have same : channelSends p = channelSends s.session.client :=
      Client.channelSends_of_step (by simp) moved
    rw [client]
    exact same
  have up : (follow { s with down := link } u).up = s.up := by
    have none : newSends s.session.client u.client = [] :=
      newSends_eq (by rw [sends, List.append_nil])
    show s.up.pushAll (onChannel (newSends s.session.client u.client)) = s.up
    rw [none]
    rfl
  have down : (follow { s with down := link } u).down = link := by
    show link.pushAll (onChannel (newSends s.session.server u.server)) = link
    rw [server, newSends_self]
    rfl
  obtain ⟨attends, phase⟩ := Client.attends_message inv.client moved
  refine ⟨_, h, ⟨inv.inv.step h, inv.listens.step h, ?_, ?_, ?_, ?_, ?_, ?_, ?_⟩, ?_⟩
  · rw [up, inv.up]
  · rw [down, intact, inv.down]
  · show u.client.Attends
    rw [client]
    exact attends.flushed
  · show u.server.Attends
    rw [server]
    exact inv.server
  · show (channelSends u.client).map Prod.snd = _
    rw [sends]
    exact inv.handed
  · show u.client.phase = _
    rw [client]
    exact phase.trans inv.clientPhase
  · show u.server.phase = _
    rw [server]
    exact inv.serverPhase
  · simp only [due, up, down, inFlight, next, List.length_cons]
    omega

/-- Deliveries alone bring everything to its end. -/
theorem Lively.drain (L : JsonLibs) (Wc Ws : WebRtc) (inv : Lively input start s) :
    ∃ deliveries t, (∀ m ∈ deliveries, ∃ side, m = .deliver side) ∧
      (machine L Wc Ws input).runFrom s deliveries = some t ∧ Lively input start t ∧
      t.up.received = start.handed ∧ t.down.received = replies start.handed := by
  obtain ⟨deliveries, t, kinds, runs, kept, done⟩ := Automaton.exists_runFrom_of_rank
    (A := machine L Wc Ws input) (C := fun m => ∃ side, m = .deliver side) due
    (fun u inv waits => by
      by_cases waiting : u.up.inFlight = []
      · have reply : u.down.inFlight ≠ [] := by
          intro empty
          simp [due, waiting, empty] at waits
        obtain ⟨t, step, kept, lower⟩ := inv.toClient reply
        exact ⟨_, t, ⟨.client, rfl⟩, step, kept, lower⟩
      · obtain ⟨t, step, kept, lower⟩ := inv.toServer waiting
        exact ⟨_, t, ⟨.server, rfl⟩, step, kept, lower⟩) inv
  have none : 2 * t.up.inFlight.length + t.down.inFlight.length = 0 := done
  have noneUp : t.up.inFlight = [] := List.eq_nil_of_length_eq_zero (by omega)
  have noneDown : t.down.inFlight = [] := List.eq_nil_of_length_eq_zero (by omega)
  have arrived := t.up.intact_eq kept.up
  have returned := t.down.intact_eq kept.down
  rw [noneUp, List.append_nil, kept.inv.up, kept.handed] at arrived
  rw [noneDown, List.append_nil, kept.inv.down, arrived] at returned
  exact ⟨deliveries, t, kinds, runs, kept, arrived, returned⟩

theorem lively_of_run {moves : List Move} (run : (machine L Wc Ws input).run moves = some s)
    (up : s.up.intact = true) (down : s.down.intact = true)
    (client : s.session.client.Attends) (server : s.session.server.Attends) :
    Lively input s s :=
  ⟨inv_of_run run, Automaton.runFrom_invariant (fun _ _ _ listens h => listens.step h)
    (iff_of_true rfl List.not_mem_nil) run, up, down, client, server, rfl, rfl, rfl⟩

end Echo

/-- **Every line is echoed.** In every state of a run in which the channel has dropped
nothing and both programs are told of its messages, deliveries on the channel alone
bring every line that was handed over to the server, and the echoes of all of them,
in order, to the client. Both programs are then where they were: an `exit` on the
channel ends neither. -/
theorem echo_delivers {L : JsonLibs} {Wc Ws : WebRtc} {input : List Bytes}
    {moves : List Echo.Move} {s : Echo} (run : (Echo.machine L Wc Ws input).run moves = some s)
    (up : s.up.intact = true) (down : s.down.intact = true)
    (client : s.session.client.Attends) (server : s.session.server.Attends) :
    ∃ deliveries t, (∀ m ∈ deliveries, ∃ side, m = .deliver side) ∧
      (Echo.machine L Wc Ws input).runFrom s deliveries = some t ∧ t.handed = s.handed ∧
      t.up.received = s.handed ∧ t.down.received = replies s.handed ∧
      t.session.client.phase = s.session.client.phase ∧
      t.session.server.phase = s.session.server.phase := by
  obtain ⟨deliveries, t, kinds, runs, inv, arrived, returned⟩ :=
    (Echo.lively_of_run run up down client server).drain L Wc Ws
  exact ⟨deliveries, t, kinds, runs, inv.handed, arrived, returned, inv.clientPhase,
    inv.serverPhase⟩

/-- The user types two lines and `exit` while nothing is delivered. -/
def Echo.typedAhead : List Echo.Move :=
  Session.connected.map .session ++
    [.session (.act .client (.line (utf8 "one"))), .session (.act .client (.line (utf8 "two"))),
      .session (.act .client (.line (utf8 "exit")))]

theorem Echo.run_typedAhead :
    ∃ s, (Echo.machine .reference .reference .reference
        [utf8 "one", utf8 "two", utf8 "exit"]).run Echo.typedAhead = some s ∧
      (s.up.intact = true ∧ s.down.intact = true) ∧
      (s.session.client.Attends ∧ s.session.server.Attends) ∧
      (s.session.client.phase = .quitting ∧ s.session.server.phase = .running) ∧
      s.down.received = [] ∧ s.handed = [utf8 "one", utf8 "two", utf8 "exit"] ∧
      replies s.handed = [utf8 "Echo of: " ++ utf8 "one", utf8 "Echo of: " ++ utf8 "two"] := by
  have checked : ((Echo.machine .reference .reference .reference
      [utf8 "one", utf8 "two", utf8 "exit"]).run Echo.typedAhead).any (fun s =>
        (s.up.intact = true ∧ s.down.intact = true) ∧
        (s.session.client.phase.alive = true ∧ 0 ∈ s.session.client.state.observed) ∧
        (s.session.server.phase.alive = true ∧ 0 ∈ s.session.server.state.observed) ∧
        (s.session.client.phase = .quitting ∧ s.session.server.phase = .running) ∧
        s.down.received = [] ∧ s.handed = [utf8 "one", utf8 "two", utf8 "exit"] ∧
        replies s.handed = [utf8 "Echo of: " ++ utf8 "one", utf8 "Echo of: " ++ utf8 "two"]) =
      true := by
    decide +kernel
  obtain ⟨s, run, facts⟩ := (Option.any_eq_true _ _).mp checked
  obtain ⟨intact, ⟨clientAlive, clientObserves⟩, ⟨serverAlive, serverObserves⟩, rest⟩ :=
    of_decide_eq_true facts
  exact ⟨s, run, intact, ⟨⟨clientAlive, clientObserves⟩, ⟨serverAlive, serverObserves⟩⟩, rest⟩

/-- Both lines come back, the `exit` arrives, and the server goes on. -/
theorem echo_delivers_typedAhead :
    ∃ s, (Echo.machine .reference .reference .reference
        [utf8 "one", utf8 "two", utf8 "exit"]).run Echo.typedAhead = some s ∧
      s.down.received = [] ∧
      ∃ deliveries t, (∀ m ∈ deliveries, ∃ side, m = .deliver side) ∧
        (Echo.machine .reference .reference .reference
          [utf8 "one", utf8 "two", utf8 "exit"]).runFrom s deliveries = some t ∧
        t.up.received = [utf8 "one", utf8 "two", utf8 "exit"] ∧
        t.down.received = [utf8 "Echo of: " ++ utf8 "one", utf8 "Echo of: " ++ utf8 "two"] ∧
        t.session.client.phase = .quitting ∧ t.session.server.phase = .running := by
  obtain ⟨s, run, ⟨up, down⟩, ⟨client, server⟩, ⟨quitting, running⟩, none, lines,
    echoes⟩ := Echo.run_typedAhead
  obtain ⟨deliveries, t, kinds, runs, -, arrived, returned, clientPhase, serverPhase⟩ :=
    echo_delivers run up down client server
  exact ⟨s, run, none, deliveries, t, kinds, runs, arrived.trans lines, returned.trans echoes,
    clientPhase.trans quitting, serverPhase.trans running⟩

/-! ### The end -/

namespace Echo

variable {L : JsonLibs} {Wc Ws : WebRtc} {input : List Bytes} {s t : Echo}

/-- The echo protocol runs over a session. -/
def overSession (L : JsonLibs) (Wc Ws : WebRtc) (input : List Bytes) :
    (machine L Wc Ws input).Refinement (Session.machine L Wc Ws) where
  abs := session
  label s m _ :=
    match m with
    | .session a => some a
    | .deliver .client => s.down.pop.map fun next => .act .client (.callback (.message 0 next.1))
    | .deliver .server => s.up.pop.map fun next => .act .server (.callback (.message 0 next.1))
    | .refuse _ | .lose _ => none
  Inv _ := True
  inv_init := trivial
  inv_step := fun _ _ _ _ _ => trivial
  abs_init := rfl
  simulates := by
    rintro s m t - h
    cases m with
    | session a =>
        simp only [machine, step, Option.ite_none_right_eq_some, Option.bind_eq_some_iff,
          Option.map_eq_some_iff] at h
        obtain ⟨-, rest, -, u, acted, rfl⟩ := h
        exact acted
    | deliver side =>
        cases side <;>
        · simp only [machine, step, Option.bind_eq_some_iff, Option.map_eq_some_iff] at h
          obtain ⟨⟨data, rest⟩, popped, u, acted, rfl⟩ := h
          simp only [popped, Option.map_some]
          exact acted
    | refuse side | lose side =>
        cases side <;>
        · cases h
          rfl

theorem vital_of_run {moves : List Move} (run : (machine L Wc Ws input).run moves = some s) :
    Session.Vital L Wc Ws s.session := by
  refine Automaton.Refinement.invariant (r := overSession L Wc Ws input) ?_ ⟨moves, run⟩
  rintro u ⟨es, run⟩
  exact Automaton.runFrom_invariant (fun _ _ _ vital h => vital.step h) Session.vital_initial run

/-- A message on the channel arrives, the WebSocket connection is closed, or a main
thread goes on to its end. -/
def Concludes : Move → Prop
  | .deliver _ => True
  | .session (.act _ ev) => ev = .wsClose 0 ∨ ev = .runReturned ∨ ev = .quit
  | _ => False

/-- From `s` the server alone comes to `t` by such moves. -/
structure Leads (L : JsonLibs) (Wc Ws : WebRtc) (input : List Bytes) (s t : Echo) : Prop where
  run : ∃ moves, (∀ m ∈ moves, Concludes m) ∧ (machine L Wc Ws input).runFrom s moves = some t
  client : t.session.client = s.session.client
  down : t.down.received = s.down.received

theorem Leads.trans {u : Echo} (first : Leads L Wc Ws input s t)
    (next : Leads L Wc Ws input t u) : Leads L Wc Ws input s u := by
  obtain ⟨moves, concludes, run⟩ := first.run
  obtain ⟨moves', concludes', run'⟩ := next.run
  refine ⟨⟨moves ++ moves', ?_, ?_⟩, next.client.trans first.client, next.down.trans first.down⟩
  · exact fun m among => (List.mem_append.mp among).elim (concludes m) (concludes' m)
  · rw [Automaton.runFrom_append, run, Option.bind_some, run']

/-- A move of the server. -/
theorem leads_of_server {ev : Event} {p : Process}
    (own : ev = .wsClose 0 ∨ ev = .runReturned ∨ ev = .quit)
    (moved : Process.step (Server.manager L Ws) s.session.server ev = some p) :
    ∃ t, Leads L Wc Ws input s t ∧ t.session.server = p.flushed := by
  have acted : ∃ t, Echo.step L Wc Ws s (.session (.act .server ev)) = some t ∧
      t.session.server = p.flushed ∧ t.session.client = s.session.client ∧
      t.down.received = s.down.received := by
    rcases own with rfl | rfl | rfl <;>
    · simp only [Echo.step, Session.step, moved, admits, read]
      exact ⟨_, rfl, rfl, rfl, Fifo.pushAll_received _ _⟩
  obtain ⟨t, step, server, client, down⟩ := acted
  refine ⟨t, ⟨⟨[.session (.act .server ev)], ?_, ?_⟩, client, down⟩, server⟩
  · exact fun m among => List.mem_singleton.mp among ▸ own
  · exact Automaton.runFrom_cons_eq_some.mpr ⟨t, step, rfl⟩

/-- The client's main thread calls `quit`. -/
theorem exists_client_quit (Ws : WebRtc) {p : Process}
    (moved : Process.step (Client.manager L Wc) s.session.client .quit = some p) :
    ∃ t, Echo.step L Wc Ws s (.session (.act .client .quit)) = some t ∧
      t.session.client = p.flushed ∧ t.session.server = s.session.server ∧
      t.down.received = s.down.received := by
  simp only [Echo.step, Session.step, moved, admits, read, Event.read]
  exact ⟨_, rfl, rfl, rfl, Fifo.pushAll_received _ _⟩

end Echo

/-- `quit` with a peer connection ends the program regularly. -/
theorem Process.exists_quit {m : Manager} {p : Process} (quitting : p.phase = .quitting)
    (set : p.state.peerConnection.isSome = true) :
    ∃ q, Process.step m p .quit = some q ∧ q.phase = .finished ∧
      q.state.conns = p.state.conns := by
  obtain ⟨pc, current⟩ := Option.isSome_iff_exists.mp set
  obtain ⟨q, h⟩ : ∃ q, Process.step m p .quit = some q :=
    exists_step (by simp [Event.enabled, quitting])
  obtain ⟨state, phase⟩ := Process.step_ok h (run_quit current)
  exact ⟨q, h, phase, by rw [state]; rfl⟩

section ServerEnds

variable {L : JsonLibs} {W : WebRtc} {p : Process}

/-- The connection of a server is gone, at the latest when the other side has closed
it. -/
theorem Server.exists_wsClose (running : p.phase = .running)
    (up : p.conn = .open ∨ p.conn = .closing) :
    ∃ q, Process.step (manager L W) p (.wsClose 0) = some q ∧ q.phase = .running ∧
      q.state.listening = p.state.listening ∧
      q.state.peerConnection = p.state.peerConnection ∧ q.conn = .closed := by
  obtain ⟨q, h⟩ : ∃ q, Process.step (manager L W) p (.wsClose 0) = some q := by
    apply Process.exists_step
    simp only [Event.enabled, decide_eq_true_eq]
    exact ⟨running, up⟩
  obtain ⟨state, phase⟩ := Process.step_ok h rfl
  refine ⟨q, h, phase.trans running, by rw [state]; rfl, by rw [state]; rfl, ?_⟩
  rw [Process.conn, state]
  show Function.update p.state.conns 0 WsState.closed 0 = .closed
  rw [Function.update_self]

/-- A server that no longer listens returns from `run`. -/
theorem Server.exists_runReturned (running : p.phase = .running)
    (stopped : p.state.listening = false) :
    ∃ q, Process.step (manager L W) p .runReturned = some q ∧ q.phase = .quitting ∧
      q.state = p.state := by
  obtain ⟨q, h⟩ : ∃ q, Process.step (manager L W) p .runReturned = some q :=
    Process.exists_step (by simp [Event.enabled, running, manager, stopped])
  obtain ⟨state, phase⟩ := Process.step_ok h rfl
  exact ⟨q, h, phase, state⟩

end ServerEnds

namespace Echo

variable {L : JsonLibs} {Wc Ws : WebRtc} {input : List Bytes} {s t : Echo}

theorem leads_of_quitting (quitting : s.session.server.phase = .quitting)
    (set : s.session.server.state.peerConnection.isSome = true) :
    ∃ t, Leads L Wc Ws input s t ∧ t.session.server.phase = .finished ∧
      t.session.server.conn = s.session.server.conn := by
  obtain ⟨p, moved, finished, conns⟩ := Process.exists_quit (m := Server.manager L Ws) quitting set
  obtain ⟨t, leads, server⟩ : ∃ t, Leads L Wc Ws input s t ∧ t.session.server = p.flushed :=
    leads_of_server (.inr (.inr rfl)) moved
  refine ⟨t, leads, by rw [server]; exact finished, ?_⟩
  rw [server]
  exact congrFun conns 0

theorem leads_of_running (running : s.session.server.phase = .running)
    (stopped : s.session.server.state.listening = false)
    (set : s.session.server.state.peerConnection.isSome = true) :
    ∃ t, Leads L Wc Ws input s t ∧ t.session.server.phase = .finished ∧
      t.session.server.conn = s.session.server.conn := by
  obtain ⟨p, moved, phase, state⟩ := Server.exists_runReturned (L := L) (W := Ws) running stopped
  obtain ⟨u, first, server⟩ : ∃ u, Leads L Wc Ws input s u ∧ u.session.server = p.flushed :=
    leads_of_server (.inr (.inl rfl)) moved
  have pointer : u.session.server.state.peerConnection = p.state.peerConnection := by
    rw [server]
    rfl
  have conn : u.session.server.conn = p.conn := by
    rw [server]
    rfl
  obtain ⟨t, next, finished, same⟩ : ∃ t, Leads L Wc Ws input u t ∧
      t.session.server.phase = .finished ∧ t.session.server.conn = u.session.server.conn :=
    leads_of_quitting (by rw [server]; exact phase) (by rw [pointer, state]; exact set)
  refine ⟨t, first.trans next, finished, ?_⟩
  rw [same, conn, Process.conn, state]
  rfl

/-- A server that has been told to stop ends; if it is still in `run()`, it leaves it
when its connection is gone. -/
theorem leads_of_stopped
    (phase : s.session.server.phase = .running ∨ s.session.server.phase = .quitting)
    (stopped : s.session.server.state.listening = false)
    (set : s.session.server.state.peerConnection.isSome = true) :
    ∃ t, Leads L Wc Ws input s t ∧ t.session.server.phase = .finished ∧
      (s.session.server.phase = .running →
        t.session.server.conn ≠ .open ∧ t.session.server.conn ≠ .closing) := by
  rcases phase with running | quitting
  · by_cases up : s.session.server.conn = .open ∨ s.session.server.conn = .closing
    · obtain ⟨p, moved, phase, listening, pointer, closed⟩ :=
        Server.exists_wsClose (L := L) (W := Ws) running up
      obtain ⟨u, first, server⟩ : ∃ u, Leads L Wc Ws input s u ∧ u.session.server = p.flushed :=
        leads_of_server (.inl rfl) moved
      have state : u.session.server.state.listening = p.state.listening ∧
          u.session.server.state.peerConnection = p.state.peerConnection ∧
          u.session.server.conn = p.conn := by
        rw [server]
        exact ⟨rfl, rfl, rfl⟩
      obtain ⟨t, next, finished, same⟩ : ∃ t, Leads L Wc Ws input u t ∧
          t.session.server.phase = .finished ∧ t.session.server.conn = u.session.server.conn :=
        leads_of_running (by rw [server]; exact phase) (by rw [state.1, listening]; exact stopped)
          (by rw [state.2.1, pointer]; exact set)
      refine ⟨t, first.trans next, finished, fun _ => ?_⟩
      rw [same, state.2.2, closed]
      exact ⟨by simp, by simp⟩
    · obtain ⟨t, leads, finished, same⟩ : ∃ t, Leads L Wc Ws input s t ∧
          t.session.server.phase = .finished ∧ t.session.server.conn = s.session.server.conn :=
        leads_of_running running stopped set
      refine ⟨t, leads, finished, fun _ => ?_⟩
      rw [same]
      exact not_or.mp up
  · obtain ⟨t, leads, finished, -⟩ : ∃ t, Leads L Wc Ws input s t ∧
        t.session.server.phase = .finished ∧ t.session.server.conn = s.session.server.conn :=
      leads_of_quitting quitting set
    refine ⟨t, leads, finished, fun running => ?_⟩
    rw [quitting] at running
    cases running

/-- The client leaves its loop at an `exit`, which it hands over. -/
def Exits (s : Echo) : Prop :=
  s.session.client.phase = .quitting → utf8 "exit" ∈ s.handed

theorem Exits.step (exits : Exits s) {m : Move} (h : Echo.step L Wc Ws s m = some t) :
    Exits t := by
  intro quitting
  have alive : t.session.client.phase.alive = true := by
    rw [quitting]
    rfl
  obtain ⟨-, handed⟩ := handed_of_move h alive
  rw [handed, List.mem_append]
  rcases step_sides h with ⟨ev, p, moved, client, -, line, -⟩ | ⟨ev, p, -, -, client, -, -⟩ |
    ⟨same, -, -⟩
  · rw [client, Process.flushed_phase] at quitting
    rcases Process.phase_of_step moved with phase | ⟨why, phase⟩
    · rw [quitting] at phase
      cases ev with
      | line text =>
          by_cases exit : text = utf8 "exit"
          · exact .inr (by rw [line, exit]; exact List.mem_singleton_self _)
          · simp [Event.next, exit] at phase
      | runReturned => cases phase
      | eof => cases phase
      | quit => cases phase
      | _ => exact .inl (exits phase.symm)
    · rw [quitting] at phase
      cases phase
  · exact .inl (exits (client ▸ quitting))
  · exact .inl (exits (same ▸ quitting))

end Echo

/-- **`exit` ends both programs.** When the client has read `exit`, the channel has
dropped nothing and both programs are told of its messages, the run can go on to a
state in which both have ended regularly, after every line was echoed and after the
server's connection, if it still waits in `run()`, was closed. -/
theorem exit_ends_both {L : JsonLibs} {Wc Ws : WebRtc} {input : List Bytes}
    {moves : List Echo.Move} {s : Echo} (run : (Echo.machine L Wc Ws input).run moves = some s)
    (up : s.up.intact = true) (down : s.down.intact = true)
    (client : s.session.client.Attends) (server : s.session.server.Attends)
    (quitting : s.session.client.phase = .quitting) :
    ∃ more t, (∀ m ∈ more, Echo.Concludes m) ∧
      (Echo.machine L Wc Ws input).runFrom s more = some t ∧
      t.session.client.phase = .finished ∧ t.session.server.phase = .finished ∧
      t.down.received = replies s.handed ∧
      (s.session.server.phase = .running →
        t.session.server.conn ≠ .open ∧ t.session.server.conn ≠ .closing) := by
  have exits : Echo.Exits s :=
    Automaton.runFrom_invariant (fun _ _ _ exits h => exits.step h)
      (fun phase => by cases phase) run
  obtain ⟨deliveries, u, kinds, delivered, lively, arrived, returned⟩ :=
    (Echo.lively_of_run run up down client server).drain L Wc Ws
  have reached : (Echo.machine L Wc Ws input).run (moves ++ deliveries) = some u := by
    rw [Automaton.run, Automaton.runFrom_append, ← Automaton.run, run, Option.bind_some, delivered]
  have vital := Echo.vital_of_run reached
  -- the `exit` has arrived, so the server no longer listens
  have stopped := lively.stopped (arrived.symm ▸ exits quitting)
  obtain ⟨es, serverVital⟩ := vital.server
  obtain ⟨v, leads, serverEnded, gone⟩ : ∃ v, Echo.Leads L Wc Ws input u v ∧
      v.session.server.phase = .finished ∧ (u.session.server.phase = .running →
        v.session.server.conn ≠ .open ∧ v.session.server.conn ≠ .closing) :=
    Echo.leads_of_stopped lively.phase_of_server stopped
      (serverVital.serving.peerConnection lively.server.alive
        (serverVital.serving.stopped stopped).2)
  obtain ⟨ending, concludes, ended⟩ := leads.run
  -- the client's `quit` comes last
  obtain ⟨fs, clientVital⟩ := vital.client
  have leaving : u.session.client.phase = .quitting := lively.clientPhase.trans quitting
  have set := (clientVital.pointers.set lively.client.alive
    (clientVital.pointers.quitting leaving)).1
  obtain ⟨p, moved, finished, -⟩ := Process.exists_quit (m := Client.manager L Wc)
    (leads.client.symm ▸ leaving) (leads.client.symm ▸ set)
  obtain ⟨t, quits, clientEnds, server', down'⟩ := Echo.exists_client_quit Ws moved
  refine ⟨deliveries ++ (ending ++ [.session (.act .client .quit)]), t, ?_, ?_, ?_, ?_, ?_, ?_⟩
  · intro m among
    simp only [List.mem_append, List.mem_singleton] at among
    rcases among with among | among | rfl
    · obtain ⟨side, rfl⟩ := kinds m among
      trivial
    · exact concludes m among
    · exact .inr (.inr rfl)
  · rw [Automaton.runFrom_append, delivered, Option.bind_some, Automaton.runFrom_append, ended,
      Option.bind_some]
    exact Automaton.runFrom_cons_eq_some.mpr ⟨t, quits, rfl⟩
  · rw [clientEnds]
    exact finished
  · rw [server']
    exact serverEnded
  · rw [down', leads.down, returned]
  · intro running
    rw [server']
    exact gone (lively.serverPhase.trans running)

/-- And both programs end. -/
theorem exit_ends_both_typedAhead :
    ∃ s, (Echo.machine .reference .reference .reference
        [utf8 "one", utf8 "two", utf8 "exit"]).run Echo.typedAhead = some s ∧
      s.session.client.phase = .quitting ∧
      ∃ more t, (∀ m ∈ more, Echo.Concludes m) ∧
        (Echo.machine .reference .reference .reference
          [utf8 "one", utf8 "two", utf8 "exit"]).runFrom s more = some t ∧
        t.session.client.phase = .finished ∧ t.session.server.phase = .finished ∧
        t.down.received = [utf8 "Echo of: " ++ utf8 "one", utf8 "Echo of: " ++ utf8 "two"] := by
  obtain ⟨s, run, ⟨up, down⟩, ⟨client, server⟩, ⟨quitting, -⟩, -, -, echoes⟩ :=
    Echo.run_typedAhead
  obtain ⟨more, t, kinds, runs, clientEnds, serverEnds, received, -⟩ :=
    exit_ends_both run up down client server quitting
  exact ⟨s, run, quitting, more, t, kinds, runs, clientEnds, serverEnds, received.trans echoes⟩

end WebrtcSample
