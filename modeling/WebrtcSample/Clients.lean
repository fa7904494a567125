import WebrtcSample.Client
import WebrtcSample.JsClient

/-!
The C++ client and the browser client side by side.

Both are put through the same events: the connection opens, and then, in any
order, the offer is created, candidates are gathered and the server's messages
arrive. `Client.sends` and `JsClient.sends` say what each event makes a client
send. They differ in one place, the gathered candidate, which the script only
writes to its page; so the two clients are interchangeable exactly as long as no
candidate is gathered (`clients_interchangeable_iff`).
-/

namespace WebrtcSample

open Prog Effect WebRtcManager

/-- What happens to a client while its connection is open. -/
inductive ClientEvent where
  | offerCreated (sdp : String)
  | gathered (candidate : IceCandidate)
  /-- The server's answer arrives. -/
  | answer (sdp : String)
  /-- One of the server's candidates arrives. -/
  | remoteIce (ice : Ice)

/-- The message is one that libwebrtc can apply. The index of a candidate counts the
media sections of a description; it is one that an `RTCIceCandidate` can hold. -/
def ClientEvent.WellFormed (W : WebRtc) : ClientEvent → Prop
  | offerCreated _ => True
  | gathered _ => True
  | answer sdp => ∃ desc, W.createSessionDescription .answer (utf8 sdp) = .ok desc
  | remoteIce ice => ice.IsText ∧ ice.Complete ∧ ¬ Rejects W ice ∧
      (0 ≤ ice.sdpMlineIndex.toInt ∧ ice.sdpMlineIndex.toInt < 65536) ∧
      ∃ candidate,
        (W.createIceCandidate ice.sdpMid ice.sdpMlineIndex ice.candidate).1 = some candidate

/-- Something that came from the server and is applied to the peer connection. -/
inductive Remote where
  | description (desc : SessionDescription)
  | candidate (candidate : IceCandidate)
deriving DecidableEq

/-! ### The two clients -/

/-- The event as the C++ client sees it. -/
def Client.event (L : JsonLibs) : ClientEvent → Event
  | .offerCreated sdp => .callback (.sdpCreated 0 ⟨.offer, sdp⟩)
  | .gathered candidate => .callback (.iceCandidate 0 candidate)
  | .answer sdp => .wsMessage 0 (answerMessage L (utf8 sdp))
  | .remoteIce ice => .wsMessage 0 (ice.toJsonString L)

/-- The user connects and the socket opens. -/
def JsClient.opening : List Browser.Event := [.clickConnect, .socketOpen 0]

/-- The event as the script sees it. -/
def JsClient.event (L : JsonLibs) : ClientEvent → Browser.Event
  | .offerCreated sdp => .offerCreated 0 sdp
  | .gathered _ => .iceCandidate 0 true
  | .answer sdp => .socketMessage 0 (answerMessage L (utf8 sdp))
  | .remoteIce ice => .socketMessage 0 (ice.toJsonString L)

/-- What a call applies to the peer connection; a null candidate is `none`. -/
def Call.remote? : Call → Option (Option Remote)
  | .setRemoteDescription _ desc => some (some (.description desc))
  | .addIceCandidate _ candidate => some (candidate.map .candidate)
  | _ => none

/-- What the C++ client has applied. -/
def Client.applied (p : Process) : List (Option Remote) := p.state.calls.filterMap Call.remote?

/-- What a browser makes of the script's arguments. -/
def JsClient.RemoteAction.parse (W : WebRtc) : JsClient.RemoteAction → Option Remote
  | .setRemoteDescription sdp =>
      match W.createSessionDescription .answer sdp with
      | .ok desc => some (.description desc)
      | .error _ => none
  | .addIceCandidate ⟨candidate, some sdpMid, some sdpMLineIndex⟩ =>
      (W.createIceCandidate sdpMid (.ofInt sdpMLineIndex.toNat) candidate).1.map .candidate
  | _ => none

/-- What the script has applied. -/
def JsClient.applied (W : WebRtc) (tab : Browser.Tab) : List (Option Remote) :=
  tab.actions.map (RemoteAction.parse W)

/-- The two clients sent the same documents and applied the same things. -/
def SameTraffic (L : JsonLibs) (W : WebRtc) (p : Process) (tab : Browser.Tab) : Prop :=
  p.state.outbox.map (stringToJson L) = tab.texts.map (stringToJson L) ∧
    Client.applied p = JsClient.applied W tab

/-! ### What each event amounts to -/

/-- The document the C++ client sends. -/
def Client.sends : ClientEvent → Option Json
  | .offerCreated sdp => some (.obj (offerMembers (utf8 sdp)))
  | .gathered candidate => some (.obj (Connection.toIce candidate).members)
  | _ => none

/-- The document the script sends. -/
def JsClient.sends : ClientEvent → Option Json
  | .offerCreated sdp => some (.obj (offerMembers (utf8 sdp)))
  | _ => none

/-- What either client applies. -/
def ClientEvent.remote? (W : WebRtc) : ClientEvent → Option (Option Remote)
  | answer sdp =>
      some (JsClient.RemoteAction.parse W (.setRemoteDescription (utf8 sdp)))
  | remoteIce ice =>
      some ((W.createIceCandidate ice.sdpMid ice.sdpMlineIndex ice.candidate).1.map .candidate)
  | _ => none

def ClientEvent.isOffer : ClientEvent → Bool
  | offerCreated _ => true
  | _ => false

theorem filterMap_cons_toList {α β : Type} (f : α → Option β) (a : α) (as : List α) :
    (a :: as).filterMap f = (f a).toList ++ as.filterMap f := by
  rw [List.filterMap_cons]
  cases f a <;> rfl

namespace Client

variable {L : JsonLibs} {W : WebRtc} {p q : Process}

/-- The connection is open and the offer has been asked for. -/
structure Connected (p : Process) : Prop where
  phase : p.phase = .running
  wsHdl : p.state.wsHdl = some 0
  up : p.state.conns 0 = .open
  peer : p.state.peerConnection = some 0

theorem Connected.isOpen (conn : Connected p) : p.state.isOpen = true := by
  simp [Endpoint.isOpen, conn.wsHdl, conn.up]

/-- A step that returns, leaves the connection alone and adds to the outbox and
the log. -/
theorem Connected.grow (conn : Connected p) {e : Endpoint} {payloads : List Bytes}
    {more : List Call} (state : q.state = e) (phase : q.phase = p.phase)
    (hdl : e.wsHdl = p.state.wsHdl) (up : e.conns = p.state.conns)
    (peer : e.peerConnection = p.state.peerConnection)
    (outbox : e.outbox = p.state.outbox ++ payloads) (calls : e.calls = p.state.calls ++ more) :
    Connected q ∧
      q.state.outbox.map (stringToJson L) =
        p.state.outbox.map (stringToJson L) ++ payloads.map (stringToJson L) ∧
      applied q = applied p ++ more.filterMap Call.remote? := by
  subst state
  refine ⟨⟨phase.trans conn.phase, hdl.trans conn.wsHdl, ?_, peer.trans conn.peer⟩, ?_, ?_⟩
  · rw [up]
    exact conn.up
  · rw [outbox, List.map_append]
  · rw [applied, applied, calls, List.filterMap_append]

/-- One event at the C++ client. -/
theorem Connected.step (conn : Connected p) {ev : ClientEvent} (wellFormed : ev.WellFormed W)
    (h : Process.step (manager L W) p (event L ev) = some q) :
    Connected q ∧
      q.state.outbox.map (stringToJson L) =
        p.state.outbox.map (stringToJson L) ++ (sends ev).toList.map .ok ∧
      applied q = applied p ++ (ev.remote? W).toList := by
  cases ev with
  | offerCreated sdp =>
      let e : Endpoint := { p.state with requests := p.state.requests.erase 0 }
      have current : e.peerConnection = some 0 := conn.peer
      have run : (Connection.onSuccessCsd (callbacks L) ⟨.offer, sdp⟩).run e =
          (wsSend (offerMessage L (utf8 sdp))).run
            { e.log (.setLocalDescription 0 ⟨.offer, sdp⟩) with
              described := e.described ++ [0] } :=
        Connection.run_onSuccessCsd _ _ current
      obtain ⟨state, phase⟩ := Process.step_ok h (run.trans (run_wsSend_open _ conn.isOpen))
      have grown := conn.grow (L := L) state phase rfl rfl rfl rfl (List.append_assoc _ _ _)
      simpa [sends, stringToJson_offerMessage, List.filterMap_cons, Call.remote?,
        ClientEvent.remote?] using grown
  | gathered candidate =>
      have isOpen : ({ p.state with
          iceList := p.state.iceList ++ [Connection.toIce candidate] } : Endpoint).isOpen = true :=
        conn.isOpen
      obtain ⟨state, phase⟩ := Process.step_ok h
        ((run_reportIce (Connection.toIce candidate)).trans (run_wsSend_open _ isOpen))
      have grown := conn.grow (L := L) state phase rfl rfl rfl rfl rfl
      simpa [sends, Ice.stringToJson_toJsonString (Connection.toIce_isText candidate),
        List.filterMap_cons, Call.remote?, ClientEvent.remote?] using grown
  | answer sdp =>
      obtain ⟨desc, parsed⟩ := wellFormed
      have read := run_messageHandler (L := L) (W := W) (e := p.state) 0
        (answerMessage L (utf8 sdp))
      rw [request_answerMessage] at read
      have current : ({ p.state with wsHdl := some 0 } : Endpoint).peerConnection = some 0 :=
        conn.peer
      obtain ⟨state, phase⟩ := Process.step_ok h (read.trans (run_pushReplySdp current parsed))
      have grown := conn.grow (L := L) state phase conn.wsHdl.symm rfl rfl
        (List.append_nil _).symm rfl
      simpa [sends, List.filterMap_cons, Call.remote?, ClientEvent.remote?,
        JsClient.RemoteAction.parse, parsed] using grown
  | remoteIce ice =>
      obtain ⟨text, complete, accepted, -, candidate, parsed⟩ := wellFormed
      have read := run_messageHandler (L := L) (W := W) (e := p.state) 0 (ice.toJsonString L)
      rw [request_toJsonString text, if_pos complete] at read
      have current : ({ p.state with wsHdl := some 0 } : Endpoint).peerConnection = some 0 :=
        conn.peer
      obtain ⟨state, phase⟩ := Process.step_ok h (read.trans (run_pushIce current accepted))
      have grown := conn.grow (L := L) state phase conn.wsHdl.symm rfl rfl
        (List.append_nil _).symm rfl
      simpa [sends, List.filterMap_cons, Call.remote?, ClientEvent.remote?, parsed] using grown

/-- A run of such events at the C++ client. -/
theorem Connected.run (conn : Connected p) {es : List ClientEvent}
    (wellFormed : ∀ ev ∈ es, ev.WellFormed W)
    (run : (Process.machine (manager L W)).runFrom p (es.map (event L)) = some q) :
    q.state.outbox.map (stringToJson L) =
        p.state.outbox.map (stringToJson L) ++ (es.filterMap sends).map .ok ∧
      applied q = applied p ++ es.filterMap (ClientEvent.remote? W) := by
  induction es generalizing p with
  | nil =>
      cases run
      simp
  | cons ev es ih =>
      obtain ⟨mid, step, rest⟩ := Automaton.runFrom_cons_eq_some.mp run
      obtain ⟨conn', sent, took⟩ := conn.step (wellFormed ev List.mem_cons_self) step
      obtain ⟨sent', took'⟩ :=
        ih conn' (fun e mem => wellFormed e (List.mem_cons_of_mem _ mem)) rest
      rw [sent', took', sent, took]
      simp [filterMap_cons_toList]

theorem requests_of_step {ev : ClientEvent}
    (h : Process.step (manager L W) p (event L ev) = some q) :
    q.state.requests = ((event L ev).enter p.state).requests := by
  rw [Process.state_of_step h]
  cases ev with
  | offerCreated sdp =>
      exact keeps_onSuccessCsd_of_ignores (f := Endpoint.requests) (fun _ _ _ => rfl)
        (fun _ _ => rfl) (keeps_wsSend_of_ignores (fun _ _ _ => rfl) (fun _ _ => rfl) _) _
  | gathered candidate =>
      exact keeps_reportIce_of_ignores (f := Endpoint.requests) (fun _ _ _ => rfl)
        (fun _ _ => rfl) (fun _ _ => rfl) _ _
  | answer sdp =>
      exact final_messageHandler_of_ignores (f := Endpoint.requests) (fun _ _ _ => rfl) 0 _ p.state
  | remoteIce ice =>
      exact final_messageHandler_of_ignores (f := Endpoint.requests) (fun _ _ _ => rfl) 0 _ p.state

/-- An offer is created once for each request. -/
theorem offers_le {es : List ClientEvent}
    (run : (Process.machine (manager L W)).runFrom p (es.map (event L)) = some q) :
    es.countP ClientEvent.isOffer ≤ p.state.requests.count 0 := by
  induction es generalizing p with
  | nil => exact Nat.zero_le _
  | cons ev es ih =>
      obtain ⟨mid, step, rest⟩ := Automaton.runFrom_cons_eq_some.mp run
      have fewer := ih rest
      rw [requests_of_step step] at fewer
      rw [List.countP_cons]
      cases ev with
      | offerCreated sdp =>
          have pending := Process.callback_enabled step
          simp only [Callback.enabled, decide_eq_true_eq] at pending
          have some := List.count_pos_iff.mpr pending
          have erased : ((event L (.offerCreated sdp)).enter p.state).requests =
              p.state.requests.erase 0 := rfl
          rw [erased, List.count_erase_self] at fewer
          simp only [ClientEvent.isOffer, if_true]
          omega
      | _ => exact fewer

/-- After `OpenHandler` the client is connected, or libwebrtc gave it a null
pointer and it is gone. -/
theorem opened (h : Process.step (manager L W) .initial (.wsOpen 0) = some p) :
    p.state.outbox = [] ∧ applied p = [] ∧ p.state.requests.count 0 ≤ 1 ∧
      (Connected p ∨ p.phase.alive = false) := by
  let e : Endpoint :=
    { Endpoint.initial with
      conns := Function.update Endpoint.initial.conns 0 .open
      wsHdl := some 0 }
  have run : ((Event.wsOpen 0).code (manager L W) Endpoint.initial).run
      (Event.enter Endpoint.initial (.wsOpen 0)) = (createOfferSdp W).run e := rfl
  cases pc : W.createPeerConnection 0 with
  | false =>
      obtain ⟨state, phase⟩ := Process.step_error h (run.trans (run_createOfferSdp_noPeer pc))
      exact ⟨by rw [state]; rfl, by rw [applied, state]; rfl, by rw [state]; exact Nat.zero_le 1,
        .inr (by rw [phase]; rfl)⟩
  | true =>
      cases dc : W.createDataChannel 0 with
      | false =>
          obtain ⟨state, phase⟩ :=
            Process.step_error h (run.trans (run_createOfferSdp_noChannel pc dc))
          exact ⟨by rw [state]; rfl, by rw [applied, state]; rfl,
            by rw [state]; exact Nat.zero_le 1, .inr (by rw [phase]; rfl)⟩
      | true =>
          obtain ⟨state, phase⟩ := Process.step_ok h (run.trans (run_createOfferSdp pc dc))
          refine ⟨by rw [state]; rfl, by rw [applied, state]; rfl, by rw [state]; exact le_rfl,
            .inl ⟨phase, ?_, ?_, ?_⟩⟩ <;>
            rw [state] <;> rfl

/-- What the C++ client has sent and applied after the events `es`; at most one of them
is an offer. -/
theorem traffic {es : List ClientEvent} (wellFormed : ∀ ev ∈ es, ev.WellFormed W)
    (run : (Process.machine (manager L W)).run (.wsOpen 0 :: es.map (event L)) = some p) :
    p.state.outbox.map (stringToJson L) = (es.filterMap sends).map .ok ∧
      applied p = es.filterMap (ClientEvent.remote? W) ∧ es.countP ClientEvent.isOffer ≤ 1 := by
  obtain ⟨first, step, rest⟩ := Automaton.runFrom_cons_eq_some.mp run
  obtain ⟨outbox, nothing, requests, conn | gone⟩ := opened step
  · obtain ⟨sent, took⟩ := conn.run wellFormed rest
    rw [outbox, List.map_nil, List.nil_append] at sent
    rw [nothing, List.nil_append] at took
    exact ⟨sent, took, (offers_le rest).trans requests⟩
  · cases es with
    | nil =>
        cases rest
        simp [outbox, nothing]
    | cons ev es =>
        obtain ⟨next, moved, -⟩ := Automaton.runFrom_cons_eq_some.mp rest
        rw [Process.alive_of_step moved] at gone
        cases gone

end Client

namespace JsClient

open Browser

variable {L : JsonLibs} {B : WebIdl} {W : WebRtc} {tab : Tab}

/-- The socket is open, the peer connection exists, and nothing has gone wrong. -/
structure Ready (tab : Tab) : Prop where
  known : 0 < tab.sockets
  isOpen : tab.readyState 0 = .open
  socket : tab.webSocketConnection = some 0
  peer : tab.peerConnection = some 0
  live : tab.live 0 = true
  calm : tab.uncaught = []

/-- A page on which the script has written and done something more. -/
theorem Ready.grow (ready : Ready tab) (stdout : List CodeUnit) (requests : List PcId)
    (acts : List Act) :
    Ready { tab with stdout := stdout, requests := requests, acts := acts } :=
  ⟨ready.known, ready.isOpen, ready.socket, ready.peer, ready.live, ready.calm⟩

/-- One of the server's messages. -/
theorem Ready.message (ready : Ready tab) {data : Bytes} {action : RemoteAction}
    (read : readMessage L B data = .ok action) :
    ∃ tab', (machine L B).step tab (.socketMessage 0 data) = some tab' ∧ Ready tab' ∧
      tab'.requests = tab.requests ∧ tab'.texts = tab.texts ∧
      applied W tab' = applied W tab ++ [action.parse W] := by
  have enabled : Browser.Event.enabled tab (.socketMessage 0 data) = true := by
    simp [Browser.Event.enabled, ready.known, ready.isOpen]
  refine ⟨_, step_of_run enabled (run_onWebSocketMessage read ready.peer),
    ready.grow tab.stdout tab.requests _, rfl, ?_, ?_⟩
  · simp [Tab.texts, Act.text?, Browser.Event.record, List.filterMap_append, List.filterMap_cons]
  · simp [applied, Tab.actions, Act.action?, Browser.Event.record]

/-- What a browser keeps of a candidate in range is the candidate. -/
theorem parse_ofIce {ice : Ice} (least : 0 ≤ ice.sdpMlineIndex.toInt)
    (most : ice.sdpMlineIndex.toInt < 65536) :
    RemoteAction.parse W (.addIceCandidate (.ofIce ice)) =
      (W.createIceCandidate ice.sdpMid ice.sdpMlineIndex ice.candidate).1.map .candidate := by
  have kept := toNat_unsignedShort ice.sdpMlineIndex.toInt
  rw [Int.emod_eq_of_lt least most] at kept
  simp only [RtcIceCandidate.ofIce, RemoteAction.parse, kept, Int32.ofInt_toInt]

/-- One event at the script. -/
theorem Ready.step (ready : Ready tab) {ev : ClientEvent} (wellFormed : ev.WellFormed W)
    (asked : ev.isOffer = true → 0 < tab.requests.count 0) :
    ∃ tab', (machine L B).step tab (event L ev) = some tab' ∧ Ready tab' ∧
      tab.requests.count 0 ≤ tab'.requests.count 0 + (if ev.isOffer then 1 else 0) ∧
      tab'.texts.map (stringToJson L) =
        tab.texts.map (stringToJson L) ++ (sends ev).toList.map .ok ∧
      applied W tab' = applied W tab ++ (ev.remote? W).toList := by
  cases ev with
  | offerCreated sdp =>
      have pending : 0 ∈ tab.requests := List.count_pos_iff.mp (asked rfl)
      have enabled : Browser.Event.enabled tab (.offerCreated 0 sdp) = true := by
        simp [Browser.Event.enabled, pending, ready.live]
      have done : (Browser.Event.record tab (.offerCreated 0 sdp)).readyState 0 ≠ .connecting := by
        intro connecting
        cases ready.isOpen.symm.trans connecting
      have run : (onOfferSuccess L sdp).run (Browser.Event.record tab (.offerCreated 0 sdp)) = _ :=
        run_onOfferSuccess sdp ready.peer ready.socket done
      refine ⟨_, step_of_run enabled run, ready.grow _ (tab.requests.erase 0) _, ?_, ?_, ?_⟩
      · show tab.requests.count 0 ≤ (tab.requests.erase 0).count 0 + 1
        rw [List.count_erase_self]
        omega
      · simp [Tab.texts, Act.text?, Browser.Event.record, sends, stringToJson_offerText,
          List.filterMap_cons]
      · simp [applied, Tab.actions, Act.action?, Browser.Event.record, ClientEvent.remote?,
          List.filterMap_cons]
  | gathered candidate =>
      have enabled : Browser.Event.enabled tab (.iceCandidate 0 true) = true := ready.live
      exact ⟨_, step_of_run enabled rfl, ready.grow _ tab.requests tab.acts, le_rfl,
        (List.append_nil _).symm, (List.append_nil _).symm⟩
  | answer sdp =>
      obtain ⟨tab', step, ready', requests, texts, took⟩ :=
        ready.message (W := W) (readMessage_answerMessage (L := L) (B := B) sdp)
      exact ⟨tab', step, ready', by rw [requests]; exact le_rfl,
        by rw [texts]; exact (List.append_nil _).symm, took⟩
  | remoteIce ice =>
      obtain ⟨text, -, -, range, -⟩ := wellFormed
      obtain ⟨tab', step, ready', requests, texts, took⟩ :=
        ready.message (W := W) (readMessage_toJsonString (L := L) (B := B) text)
      rw [parse_ofIce range.1 range.2] at took
      exact ⟨tab', step, ready', by rw [requests]; exact le_rfl,
        by rw [texts]; exact (List.append_nil _).symm, took⟩

/-- What the script has sent and applied after the events `es`. -/
theorem Ready.run (ready : Ready tab) {es : List ClientEvent}
    (wellFormed : ∀ ev ∈ es, ev.WellFormed W)
    (asked : es.countP ClientEvent.isOffer ≤ tab.requests.count 0) :
    ∃ tab', (machine L B).runFrom tab (es.map (event L)) = some tab' ∧ tab'.uncaught = [] ∧
      tab'.texts.map (stringToJson L) =
        tab.texts.map (stringToJson L) ++ (es.filterMap sends).map .ok ∧
      applied W tab' = applied W tab ++ es.filterMap (ClientEvent.remote? W) := by
  induction es generalizing tab with
  | nil => exact ⟨tab, rfl, ready.calm, by simp, by simp⟩
  | cons ev es ih =>
      rw [List.countP_cons] at asked
      obtain ⟨mid, step, ready', count, sent, took⟩ :=
        ready.step (L := L) (B := B) (wellFormed ev List.mem_cons_self) fun offer => by
          rw [if_pos offer] at asked
          omega
      obtain ⟨tab', rest, calm, sent', took'⟩ :=
        ih ready' (fun e mem => wellFormed e (List.mem_cons_of_mem _ mem)) (by omega)
      refine ⟨tab', Automaton.runFrom_cons_eq_some.mpr ⟨mid, step, rest⟩, calm, ?_, ?_⟩
      · simp [sent', sent, filterMap_cons_toList]
      · simp [took', took, filterMap_cons_toList]

/-- The script goes through the same events without an exception. -/
theorem traffic {es : List ClientEvent} (wellFormed : ∀ ev ∈ es, ev.WellFormed W)
    (once : es.countP ClientEvent.isOffer ≤ 1) :
    ∃ tab, (machine L B).run (opening ++ es.map (event L)) = some tab ∧ tab.uncaught = [] ∧
      tab.texts.map (stringToJson L) = (es.filterMap sends).map .ok ∧
      applied W tab = es.filterMap (ClientEvent.remote? W) := by
  have opens : (machine L B).run opening = some (Tab.initial.connected.opened 0) := rfl
  have ready : Ready (Tab.initial.connected.opened 0) := by
    constructor <;> decide
  obtain ⟨tab, run, calm, sent, took⟩ := ready.run (L := L) (B := B) wellFormed once
  refine ⟨tab, ?_, calm, sent, took⟩
  rw [Automaton.run, Automaton.runFrom_append]
  rw [Automaton.run] at opens
  rw [opens, Option.bind_some, run]

end JsClient

/-! ### When the clients agree -/

def ClientEvent.isGathered : ClientEvent → Bool
  | gathered _ => true
  | _ => false

/-- The C++ client sends one document more for each candidate gathered. -/
theorem length_sends (es : List ClientEvent) :
    (es.filterMap Client.sends).length =
      (es.filterMap JsClient.sends).length + es.countP ClientEvent.isGathered := by
  induction es with
  | nil => rfl
  | cons ev es ih =>
      rw [filterMap_cons_toList, filterMap_cons_toList, List.countP_cons, List.length_append,
        List.length_append, ih]
      cases ev <;> simp [Client.sends, JsClient.sends, ClientEvent.isGathered] <;> omega

/-- The two clients send the same documents exactly if no candidate is
gathered. -/
theorem sends_eq_iff (es : List ClientEvent) :
    es.filterMap Client.sends = es.filterMap JsClient.sends ↔ ∀ c, .gathered c ∉ es := by
  constructor
  · intro same c mem
    have more := length_sends es
    rw [same] at more
    have some : 0 < es.countP ClientEvent.isGathered := List.countP_pos_iff.mpr ⟨_, mem, rfl⟩
    omega
  · intro none
    refine List.filterMap_congr fun ev mem => ?_
    cases ev with
    | gathered c => exact absurd mem (none c)
    | _ => rfl

/-- **When the clients are interchangeable.** After the same events, in which no
handler of the script throws, the two clients have sent the same documents and applied
the same descriptions and candidates exactly if no candidate was gathered. -/
theorem clients_interchangeable_iff {L : JsonLibs} {B : JsClient.WebIdl} {W : WebRtc}
    {es : List ClientEvent} {p : Process} (wellFormed : ∀ ev ∈ es, ev.WellFormed W)
    (run : (Process.machine (Client.manager L W)).run (.wsOpen 0 :: es.map (Client.event L)) =
      some p) :
    ∃ tab, (Browser.machine L B).run (JsClient.opening ++ es.map (JsClient.event L)) = some tab ∧
      tab.uncaught = [] ∧ (SameTraffic L W p tab ↔ ∀ c, .gathered c ∉ es) := by
  obtain ⟨sent, took, once⟩ := Client.traffic wellFormed run
  obtain ⟨tab, handled, calm, sent', took'⟩ := JsClient.traffic (L := L) (B := B) wellFormed once
  refine ⟨tab, handled, calm, ?_⟩
  have same : Client.applied p = JsClient.applied W tab := by rw [took, took']
  have documents : p.state.outbox.map (stringToJson L) = tab.texts.map (stringToJson L) ↔
      es.filterMap Client.sends = es.filterMap JsClient.sends := by
    rw [sent, sent']
    exact (List.map_injective_iff.mpr fun _ _ => Except.ok.inj).eq_iff
  rw [SameTraffic, documents, sends_eq_iff]
  exact and_iff_left same

/-- A session without candidates. -/
theorem clients_interchangeable_answer :
    ∃ p tab, (Process.machine (Client.manager .reference .reference)).run
        (.wsOpen 0 :: [ClientEvent.offerCreated "v=0", .answer "v=0"].map
          (Client.event .reference)) = some p ∧
      (Browser.machine .reference .reference).run (JsClient.opening ++
        [ClientEvent.offerCreated "v=0", .answer "v=0"].map (JsClient.event .reference)) =
          some tab ∧
      SameTraffic .reference .reference p tab := by
  have wellFormed : ∀ ev ∈ [ClientEvent.offerCreated "v=0", .answer "v=0"],
      ev.WellFormed .reference := by
    intro ev mem
    simp only [List.mem_cons, List.not_mem_nil, or_false] at mem
    rcases mem with rfl | rfl
    · trivial
    · exact ⟨⟨.answer, "v=0"⟩, by decide⟩
  have runs : ((Process.machine (Client.manager .reference .reference)).run
      (.wsOpen 0 :: [ClientEvent.offerCreated "v=0", .answer "v=0"].map
        (Client.event .reference))).isSome = true := by
    decide +kernel
  obtain ⟨p, run⟩ := Option.isSome_iff_exists.mp runs
  obtain ⟨tab, handled, -, iff⟩ := clients_interchangeable_iff (B := .reference) wellFormed run
  exact ⟨p, tab, run, handled, iff.mpr fun c mem => by simp at mem⟩

/-- One gathered candidate: the C++ client sends it, the script does not. -/
theorem unsent_candidate :
    ∃ p tab, (Process.machine (Client.manager .reference .reference)).run
        (.wsOpen 0 :: [ClientEvent.offerCreated "v=0", .gathered ⟨"candidate:1", "0", 0⟩].map
          (Client.event .reference)) = some p ∧
      (Browser.machine .reference .reference).run (JsClient.opening ++
        [ClientEvent.offerCreated "v=0", .gathered ⟨"candidate:1", "0", 0⟩].map
          (JsClient.event .reference)) = some tab ∧
      ¬ SameTraffic .reference .reference p tab := by
  have checked : ((Process.machine (Client.manager .reference .reference)).run
      (.wsOpen 0 :: [ClientEvent.offerCreated "v=0", .gathered ⟨"candidate:1", "0", 0⟩].map
        (Client.event .reference))).any (fun p => p.state.outbox.length = 2) = true := by
    decide +kernel
  have script : ((Browser.machine .reference .reference).run (JsClient.opening ++
      [ClientEvent.offerCreated "v=0", .gathered ⟨"candidate:1", "0", 0⟩].map
        (JsClient.event .reference))).any (fun tab => tab.texts.length = 1) = true := by
    decide +kernel
  obtain ⟨p, run, two⟩ := (Option.any_eq_true _ _).mp checked
  obtain ⟨tab, handled, one⟩ := (Option.any_eq_true _ _).mp script
  refine ⟨p, tab, run, handled, fun same => ?_⟩
  have lengths := congrArg List.length same.1
  simp [of_decide_eq_true two, of_decide_eq_true one] at lengths

end WebrtcSample
