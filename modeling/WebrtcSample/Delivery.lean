import WebrtcSample.Rendezvous
import WebrtcSample.Survival

/-!
A session gets somewhere.

Whatever two programs have said while both their connections are open can still be
taken in: no message is stuck behind another, and none is lost. From every such
state deliveries alone lead to one in which each side has taken in all that the
other has said, provided that libwebrtc accepts it and gives the server a peer
connection for the offer (`session_delivers`).
-/

namespace WebrtcSample

open Prog Effect WebRtcManager

section Messages

variable {L : JsonLibs} {W : WebRtc} {p q : Process} {payload : Bytes}

/-- A message leaves the connection as it is and sends nothing. -/
theorem Server.calm_of_message
    (h : Process.step (Server.manager L W) p (.wsMessage 0 payload) = some q) :
    q.conn = p.conn ∧ q.signaling.outbox = p.signaling.outbox := by
  cases read : Server.request L payload with
  | error what =>
      obtain ⟨-, conn, same⟩ := signaling_unreadable rfl read h
      exact ⟨conn, by rw [same]⟩
  | ok request =>
      cases request with
      | ice ice =>
          obtain ⟨conn, same⟩ := signaling_ice rfl read h
          exact ⟨conn, by rw [same]⟩
      | sdp sdp =>
          obtain ⟨conn, ⟨desc, -, same⟩ | ⟨-, pc, peers, heard, -, -, same⟩⟩ :=
            Server.signaling_offer read h <;> exact ⟨conn, by rw [same]⟩

theorem Client.calm_of_message {pc : PcId} (current : p.signaling.peerConnection = some pc)
    (h : Process.step (Client.manager L W) p (.wsMessage 0 payload) = some q) :
    q.conn = p.conn ∧ q.signaling.outbox = p.signaling.outbox := by
  cases read : Client.request L payload with
  | error what =>
      obtain ⟨-, conn, same⟩ := signaling_unreadable rfl read h
      exact ⟨conn, by rw [same]⟩
  | ok request =>
      cases request with
      | ice ice =>
          obtain ⟨conn, same⟩ := signaling_ice rfl read h
          exact ⟨conn, by rw [same]⟩
      | sdp sdp =>
          obtain ⟨conn, ⟨desc, -, same⟩ | ⟨-, same⟩⟩ := Client.signaling_answer read current h <;>
            exact ⟨conn, by rw [same]⟩

/-- A running program with an open connection takes the next message. -/
theorem Process.exists_message {m : Manager} (running : p.phase = .running)
    (isOpen : p.conn = .open) : ∃ q, Process.step m p (.wsMessage 0 payload) = some q := by
  apply Process.exists_step
  simp only [Event.enabled, decide_eq_true_eq]
  exact ⟨running, .inl isOpen⟩

/-- A message that does not end the program leaves it running. -/
theorem Process.running_of_message {m : Manager} (running : p.phase = .running)
    (h : Process.step m p (.wsMessage 0 payload) = some q) (regular : q.phase.isAborted = false) :
    q.phase = .running := by
  rcases Process.phase_of_step h with phase | ⟨why, phase⟩
  · exact phase.trans running
  · rw [phase] at regular
    cases regular

end Messages

/-- A listener that is alive and to which everything has come has taken in all of
it. -/
theorem Listener.taken_all {L : JsonLibs} {message : Bytes → Bytes} {W : WebRtc} {type : SdpType}
    {x y : Process} {sent received : List Bytes}
    (inv : Listener L message W type x y received) (speaker : Speaker L message x sent)
    (isOpen : x.conn = .open) (alive : y.phase.alive = true) (all : received = sent) :
    y.taken = x.told := by
  rw [Process.taken_eq]
  cases speaker.told with
  | nothing said ices _ empty =>
      rw [told_of_silent said ices]
      cases inv with
      | nothing _ heard => rw [heard]; rfl
      | rejected _ _ _ count => simp [all, empty] at count
      | accepted _ _ _ _ _ _ _ arrived => exact absurd (all.trans empty) arrived
  | spoke desc _ _ said _ _ sent_all =>
      have length : received.length = x.signaling.iceList.length + 1 := by
        simp [all, sent_all isOpen, payloads]
      cases inv with
      | nothing none => simp [none] at length
      | rejected _ _ _ _ ended => simp [alive] at ended
      | accepted desc' remote pushed said' _ _ heard _ _ _ pushed_all =>
          have pushes : pushed = x.signaling.iceList := by
            rw [pushed_all (.inl alive), length, Nat.add_sub_cancel, List.take_length]
          rw [told_of_script said', heard, List.filterMap_append, List.filterMap_map, pushes]
          simp [Call.taken?, List.filterMap_cons, Function.comp_def]

namespace Session

/-- Both programs run and see the connection open. -/
structure Up (s : Session) : Prop where
  client : s.client.phase = .running
  clientConn : s.client.conn = .open
  server : s.server.phase = .running
  serverConn : s.server.conn = .open

/-- libwebrtc accepts what `x` has said. -/
structure Agreeable (W : WebRtc) (type : SdpType) (x : Process) : Prop where
  descriptions : ∀ d ∈ localDescriptions x,
    ∃ remote, W.createSessionDescription type (utf8 d.2.text) = .ok remote
  candidates : ∀ ice ∈ x.state.iceList, ice.Complete ∧ ¬ Rejects W ice

theorem Agreeable.accepted {W : WebRtc} {type : SdpType} {x : Process}
    (agreeable : Agreeable W type x) (received : List Bytes) : Accepted W type x received := by
  unfold Accepted
  split
  · exact fun desc mem => agreeable.descriptions (0, desc) mem
  · exact fun ice found => agreeable.candidates ice (List.mem_of_getElem? found)

theorem Agreeable.of_told {W : WebRtc} {type : SdpType} {x y : Process}
    (agreeable : Agreeable W type x) (said : y.signaling.said = x.signaling.said)
    (ices : y.signaling.iceList = x.signaling.iceList) : Agreeable W type y := by
  have list : y.state.iceList = x.state.iceList := ices
  exact ⟨by rw [localDescriptions_of_said said]; exact agreeable.descriptions,
    by rw [list]; exact agreeable.candidates⟩

/-- A session whose deliveries go well. -/
structure Delivers (L : JsonLibs) (Wc Ws : WebRtc) (start s : Session) : Prop where
  vital : Vital L Wc Ws s
  up : Up s
  offer : Agreeable Ws .offer s.client
  answer : Agreeable Wc .answer s.server
  toldClient : s.client.told = start.client.told
  toldServer : s.server.told = start.server.told

variable {L : JsonLibs} {Wc Ws : WebRtc} {start s t : Session}

theorem Up.survives (up : Up s) : Survives s :=
  ⟨by rw [up.client]; rfl, by rw [up.server]; rfl⟩

/-- What is in flight. -/
def pending (s : Session) : Nat := s.toServer.inFlight.length + s.toClient.inFlight.length

/-- The next message for the server is taken in. -/
theorem Delivers.server (inv : Delivers L Wc Ws start s) (peer : Ws.createPeerConnection 0 = true)
    (due : s.toServer.inFlight ≠ []) :
    ∃ t, Session.step L Wc Ws s (.deliver .server) = some t ∧ Delivers L Wc Ws start t ∧
      t.pending < s.pending := by
  obtain ⟨payload, rest, next⟩ := List.exists_cons_of_ne_nil due
  obtain ⟨link, popped, inFlight⟩ := Fifo.exists_pop next
  obtain ⟨p, moved⟩ :
      ∃ p, Process.step (Server.manager L Ws) s.server (.wsMessage 0 payload) = some p :=
    Process.exists_message inv.up.server inv.up.serverConn
  have h : Session.step L Wc Ws s (.deliver .server) =
      some { s.withServer p with toServer := link } := by
    simp [Session.step, popped, moved]
  have benign : Benign Wc Ws s (.deliver .server) { s.withServer p with toServer := link } :=
    ⟨fun _ => peer, inv.offer.accepted _⟩
  have running : p.phase = .running := Process.running_of_message inv.up.server moved
    ((inv.vital.survives_iff inv.up.survives h).mpr benign).2
  obtain ⟨conn, outbox⟩ := Server.calm_of_message moved
  obtain ⟨said, ices⟩ := Server.signaling_message moved
  refine ⟨_, h, ⟨inv.vital.step h,
    ⟨inv.up.client, inv.up.clientConn, running, conn.trans inv.up.serverConn⟩, inv.offer, ?_,
    inv.toldClient, ?_⟩, ?_⟩
  · exact inv.answer.of_told said ices
  · exact (Process.told_of_said said ices).trans inv.toldServer
  · have empty : p.state.outbox = [] := outbox.trans inv.vital.inv.server.outbox
    simp [pending, withServer, empty, inFlight, next]

/-- The next message for the client is taken in. -/
theorem Delivers.client (inv : Delivers L Wc Ws start s) (due : s.toClient.inFlight ≠ []) :
    ∃ t, Session.step L Wc Ws s (.deliver .client) = some t ∧ Delivers L Wc Ws start t ∧
      t.pending < s.pending := by
  obtain ⟨payload, rest, next⟩ := List.exists_cons_of_ne_nil due
  obtain ⟨link, popped, inFlight⟩ := Fifo.exists_pop next
  obtain ⟨p, moved⟩ :
      ∃ p, Process.step (Client.manager L Wc) s.client (.wsMessage 0 payload) = some p :=
    Process.exists_message inv.up.client inv.up.clientConn
  have h : Session.step L Wc Ws s (.deliver .client) =
      some { s.withClient p with toClient := link } := by
    simp [Session.step, popped, moved]
  have benign : Benign Wc Ws s (.deliver .client) { s.withClient p with toClient := link } :=
    inv.answer.accepted _
  have running : p.phase = .running := Process.running_of_message inv.up.client moved
    ((inv.vital.survives_iff inv.up.survives h).mpr benign).1
  have alive := Process.alive_of_step moved
  have current := inv.vital.inv.client.current alive
    (inv.vital.inv.clientPeer alive (.inl inv.up.clientConn))
  obtain ⟨conn, outbox⟩ := Client.calm_of_message current moved
  obtain ⟨heard, same⟩ := Client.signaling_message current moved
  have said : p.signaling.said = s.client.signaling.said := by rw [same]
  have ices : p.signaling.iceList = s.client.signaling.iceList := by rw [same]
  refine ⟨_, h, ⟨inv.vital.step h,
    ⟨running, conn.trans inv.up.clientConn, inv.up.server, inv.up.serverConn⟩, ?_, inv.answer,
    ?_, inv.toldServer⟩, ?_⟩
  · exact inv.offer.of_told said ices
  · exact (Process.told_of_said said ices).trans inv.toldClient
  · have empty : p.state.outbox = [] := outbox.trans inv.vital.inv.client.outbox
    simp [pending, withClient, empty, inFlight, next]

/-- With nothing in flight, each side has taken in all that the other has said. -/
theorem Delivers.taken (inv : Delivers L Wc Ws start s) (done : s.pending = 0) :
    s.client.taken = s.server.told ∧ s.server.taken = s.client.told := by
  obtain ⟨toServer, toClient⟩ : s.toServer.inFlight = [] ∧ s.toClient.inFlight = [] := by
    simpa [pending] using done
  have arrived := s.toServer.intact_eq (inv.vital.inv.serverLink (by simp [inv.up.serverConn]))
  have returned := s.toClient.intact_eq (inv.vital.inv.clientLink (by simp [inv.up.clientConn]))
  rw [toServer, List.append_nil] at arrived
  rw [toClient, List.append_nil] at returned
  exact ⟨inv.vital.inv.toClient.taken_all inv.vital.inv.server inv.up.serverConn
      (by rw [inv.up.client]; rfl) returned,
    inv.vital.inv.toServer.taken_all inv.vital.inv.client inv.up.clientConn
      (by rw [inv.up.server]; rfl) arrived⟩

end Session

/-- **Everything said is taken in.** From every state of a session in which both
programs run with the connection open, and in which libwebrtc accepts what was said
and can create the server's peer connection, deliveries alone lead to a state in
which both still run and each has taken in all that the other has said. -/
theorem session_delivers {L : JsonLibs} {Wc Ws : WebRtc} {es : List Action} {s : Session}
    (run : (Session.machine L Wc Ws).run es = some s) (up : s.Up)
    (peer : Ws.createPeerConnection 0 = true) (offer : Session.Agreeable Ws .offer s.client)
    (answer : Session.Agreeable Wc .answer s.server) :
    ∃ deliveries t, (∀ a ∈ deliveries, ∃ side, a = .deliver side) ∧
      (Session.machine L Wc Ws).runFrom s deliveries = some t ∧ t.Up ∧
      t.client.told = s.client.told ∧ t.server.told = s.server.told ∧
      t.client.taken = s.server.told ∧ t.server.taken = s.client.told := by
  have vital : Session.Vital L Wc Ws s := Automaton.runFrom_invariant
    (fun _ _ _ vital h => vital.step h) Session.vital_initial run
  have start : Session.Delivers L Wc Ws s s := ⟨vital, up, offer, answer, rfl, rfl⟩
  obtain ⟨deliveries, t, kinds, runs, inv, done⟩ := Automaton.exists_runFrom_of_rank
    (A := Session.machine L Wc Ws) (C := fun a => ∃ side, a = .deliver side) Session.pending
    (fun u inv due => by
      by_cases toServer : u.toServer.inFlight = []
      · have toClient : u.toClient.inFlight ≠ [] := by
          intro empty
          simp [Session.pending, toServer, empty] at due
        obtain ⟨t, step, kept, lower⟩ := inv.client toClient
        exact ⟨_, t, ⟨.client, rfl⟩, step, kept, lower⟩
      · obtain ⟨t, step, kept, lower⟩ := inv.server peer toServer
        exact ⟨_, t, ⟨.server, rfl⟩, step, kept, lower⟩) start
  obtain ⟨client, server⟩ := inv.taken done
  exact ⟨deliveries, t, kinds, runs, inv.up, inv.toldClient, inv.toldServer,
    client.trans inv.toldServer, server.trans inv.toldClient⟩

/-- The server's candidate is still in flight at the end of this exchange; it
arrives. -/
theorem session_delivers_exchange :
    ∃ s, (Session.machine .reference .reference .reference).run Session.exchange = some s ∧
      s.client.taken.length = 1 ∧
      ∃ deliveries t, (∀ a ∈ deliveries, ∃ side, a = .deliver side) ∧
        (Session.machine .reference .reference .reference).runFrom s deliveries = some t ∧
        t.client.taken.length = 2 := by
  have checked : ((Session.machine .reference .reference .reference).run Session.exchange).any
      (fun s => (s.client.phase = .running ∧ s.client.conn = .open ∧ s.server.phase = .running ∧
          s.server.conn = .open) ∧
        (localDescriptions s.client = [(0, ⟨.offer, "v=0"⟩)] ∧
          localDescriptions s.server = [(0, ⟨.answer, "v=0"⟩)]) ∧
        (∀ ice ∈ s.client.state.iceList, ice.Complete ∧ ¬ Rejects .reference ice) ∧
        (∀ ice ∈ s.server.state.iceList, ice.Complete ∧ ¬ Rejects .reference ice) ∧
        s.client.taken.length = 1 ∧ s.server.told.length = 2) = true := by
    decide +kernel
  obtain ⟨s, run, facts⟩ := (Option.any_eq_true _ _).mp checked
  obtain ⟨⟨client, clientConn, server, serverConn⟩, ⟨offered, answered⟩, offers, answers, taken,
    told⟩ := of_decide_eq_true facts
  obtain ⟨deliveries, t, kinds, runs, -, -, -, all, -⟩ := session_delivers run
    ⟨client, clientConn, server, serverConn⟩ rfl
    ⟨by simp [offered, WebRtc.reference], offers⟩ ⟨by simp [answered, WebRtc.reference], answers⟩
  exact ⟨s, run, taken, deliveries, t, kinds, runs, by rw [all, told]⟩

end WebrtcSample
