import WebrtcSample.Handshake
import WebrtcSample.Lib.Fifo

/-!
One client and one server, joined by a WebSocket connection.

A session holds the two programs and the two directions of the connection. Its
actions are the steps of either program and the delivery of the oldest message
of a direction; they interleave freely. What a program hands to websocketpp goes
into its direction at the end of the step. When a program's connection closes,
what is still on its way to it is lost. A connection can break at any point, so
either side may see it open, closing or closed independently of the other.
-/

namespace WebrtcSample

inductive Side where
  | client
  | server
deriving DecidableEq, Repr

structure Session where
  client : Process
  server : Process
  toServer : Fifo Bytes
  toClient : Fifo Bytes

inductive Action where
  /-- A step of one program that is not a message. -/
  | act (side : Side) (ev : Event)
  /-- The next message reaches this side. -/
  | deliver (side : Side)

/-- The events of a program in a session: its only connection has handle 0, and
messages come from the other side. -/
def Event.isSolo : Event → Bool
  | .wsOpen hdl => hdl = 0
  | ev => ev.isLocal

/-- The program once the network has picked up its messages. -/
def Process.flushed (p : Process) : Process := { p with state := { p.state with outbox := [] } }

namespace Session

def initial : Session := ⟨.initial, .initial, .empty, .empty⟩

/-- The client after a step, with what it sent on its way. -/
def withClient (s : Session) (p : Process) : Session :=
  { s with client := p.flushed, toServer := s.toServer.pushAll p.state.outbox }

def withServer (s : Session) (p : Process) : Session :=
  { s with server := p.flushed, toClient := s.toClient.pushAll p.state.outbox }

/-- The direction towards a side after one of its events. -/
def incoming (link : Fifo Bytes) (ev : Event) : Fifo Bytes :=
  if ev.endsConnection then link.cut else link

variable (L : JsonLibs) (Wc Ws : WebRtc)

def step (s : Session) : Action → Option Session
  | .act .client ev =>
      if ev.isSolo then
        (Process.step (Client.manager L Wc) s.client ev).map fun p =>
          { s.withClient p with toClient := incoming s.toClient ev }
      else none
  | .act .server ev =>
      if ev.isSolo then
        (Process.step (Server.manager L Ws) s.server ev).map fun p =>
          { s.withServer p with toServer := incoming s.toServer ev }
      else none
  | .deliver .client =>
      s.toClient.pop.bind fun (payload, rest) =>
        (Process.step (Client.manager L Wc) s.client (.wsMessage 0 payload)).map fun p =>
          { s.withClient p with toClient := rest }
  | .deliver .server =>
      s.toServer.pop.bind fun (payload, rest) =>
        (Process.step (Server.manager L Ws) s.server (.wsMessage 0 payload)).map fun p =>
          { s.withServer p with toServer := rest }

/-- The session as an automaton. The two sides have their own libwebrtc. -/
def machine : Automaton Session Action := ⟨initial, step L Wc Ws⟩

/-- A session in which both sides report a candidate: the client's has arrived,
the server's is in flight. -/
def exchange : List Action :=
  [.act .server (.wsOpen 0), .act .client (.wsOpen 0),
    .act .client (.callback (.sdpCreated 0 ⟨.offer, "v=0"⟩)),
    .act .client (.callback (.iceCandidate 0 ⟨"candidate:1", "0", 0⟩)),
    .deliver .server, .deliver .server,
    .act .server (.callback (.sdpCreated 0 ⟨.answer, "v=0"⟩)),
    .deliver .client,
    .act .server (.callback (.iceCandidate 0 ⟨"candidate:1", "0", 0⟩))]

variable {L Wc Ws} {s t : Session}

/-- What each kind of action does. -/
theorem step_cases {a : Action} (h : step L Wc Ws s a = some t) :
    (∃ ev p, a = .act .client ev ∧ ev.isSolo = true ∧
        Process.step (Client.manager L Wc) s.client ev = some p ∧
        t = { s.withClient p with toClient := incoming s.toClient ev }) ∨
      (∃ ev p, a = .act .server ev ∧ ev.isSolo = true ∧
        Process.step (Server.manager L Ws) s.server ev = some p ∧
        t = { s.withServer p with toServer := incoming s.toServer ev }) ∨
      (∃ payload rest p, a = .deliver .client ∧ s.toClient.pop = some (payload, rest) ∧
        Process.step (Client.manager L Wc) s.client (.wsMessage 0 payload) = some p ∧
        t = { s.withClient p with toClient := rest }) ∨
      ∃ payload rest p, a = .deliver .server ∧ s.toServer.pop = some (payload, rest) ∧
        Process.step (Server.manager L Ws) s.server (.wsMessage 0 payload) = some p ∧
        t = { s.withServer p with toServer := rest } := by
  rcases a with ⟨side, ev⟩ | side
  · cases side with
    | client =>
        simp only [step, Option.ite_none_right_eq_some, Option.map_eq_some_iff] at h
        obtain ⟨solo, p, moved, rfl⟩ := h
        exact .inl ⟨ev, p, rfl, solo, moved, rfl⟩
    | server =>
        simp only [step, Option.ite_none_right_eq_some, Option.map_eq_some_iff] at h
        obtain ⟨solo, p, moved, rfl⟩ := h
        exact .inr (.inl ⟨ev, p, rfl, solo, moved, rfl⟩)
  · cases side with
    | client =>
        simp only [step, Option.bind_eq_some_iff, Option.map_eq_some_iff] at h
        obtain ⟨⟨payload, rest⟩, popped, p, moved, rfl⟩ := h
        exact .inr (.inr (.inl ⟨payload, rest, p, rfl, popped, moved, rfl⟩))
    | server =>
        simp only [step, Option.bind_eq_some_iff, Option.map_eq_some_iff] at h
        obtain ⟨⟨payload, rest⟩, popped, p, moved, rfl⟩ := h
        exact .inr (.inr (.inr ⟨payload, rest, p, rfl, popped, moved, rfl⟩))

section Simp

variable (s : Session) (p : Process)

@[simp] theorem withClient_client : (s.withClient p).client = p.flushed := rfl
@[simp] theorem withClient_server : (s.withClient p).server = s.server := rfl
@[simp] theorem withClient_toClient : (s.withClient p).toClient = s.toClient := rfl

@[simp] theorem withClient_sent :
    (s.withClient p).toServer.sent = s.toServer.sent ++ p.signaling.outbox :=
  Fifo.pushAll_sent _ _

@[simp] theorem withClient_received :
    (s.withClient p).toServer.received = s.toServer.received :=
  Fifo.pushAll_received _ _

@[simp] theorem withClient_intact : (s.withClient p).toServer.intact = s.toServer.intact :=
  Fifo.pushAll_intact _ _

@[simp] theorem withServer_server : (s.withServer p).server = p.flushed := rfl
@[simp] theorem withServer_client : (s.withServer p).client = s.client := rfl
@[simp] theorem withServer_toServer : (s.withServer p).toServer = s.toServer := rfl

@[simp] theorem withServer_sent :
    (s.withServer p).toClient.sent = s.toClient.sent ++ p.signaling.outbox :=
  Fifo.pushAll_sent _ _

@[simp] theorem withServer_received :
    (s.withServer p).toClient.received = s.toClient.received :=
  Fifo.pushAll_received _ _

@[simp] theorem withServer_intact : (s.withServer p).toClient.intact = s.toClient.intact :=
  Fifo.pushAll_intact _ _

end Simp

@[simp] theorem incoming_received (link : Fifo Bytes) (ev : Event) :
    (incoming link ev).received = link.received := by
  unfold incoming; split <;> rfl

@[simp] theorem incoming_sent (link : Fifo Bytes) (ev : Event) :
    (incoming link ev).sent = link.sent := by
  unfold incoming; split <;> rfl

theorem incoming_of_going {ev : Event} (link : Fifo Bytes) (going : ev.endsConnection = false) :
    incoming link ev = link := by
  simp [incoming, going]

/-- A program's own event opens its connection or is a local one. -/
theorem isLocal_of_isSolo {ev : Event} (solo : ev.isSolo = true) :
    ev = .wsOpen 0 ∨ ev.isLocal = true := by
  cases ev with
  | wsOpen hdl => exact .inl (by simpa [Event.isSolo] using solo)
  | _ => exact .inr solo

end Session

end WebrtcSample
